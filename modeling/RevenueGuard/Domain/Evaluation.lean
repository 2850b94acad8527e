import RevenueGuard.Domain.Reviews

/-
Pure evaluation of merchant policy over ranked candidates.
-/
namespace RevenueGuard

inductive PolicyReason where
  | policyCurrencyMismatch | caseAlreadyTerminal | alreadyPaid | paymentDisputed | subjectCancelled
  | noEligibleAction | actionNotAllowed | agentEscalationRequested | retryLimitReached
  | customerIdentityUnresolved | customerContactAlreadyInProgress | contactLimitReached
  | channelOptedOut | channelConsentNotGranted | equivalentActionOutcomeUnknown | activePromiseToPay
  | activeIncident | lowConfidenceRetryDeferred | diagnosisDelay | quietHours
  | expectedValueBelowMinimum | humanReviewRequired | policyAuthorized
deriving DecidableEq, Repr

def PolicyReason.code : PolicyReason → String
  | .policyCurrencyMismatch => "POLICY_CURRENCY_MISMATCH"
  | .caseAlreadyTerminal => "CASE_ALREADY_TERMINAL"
  | .alreadyPaid => "ALREADY_PAID"
  | .paymentDisputed => "PAYMENT_DISPUTED"
  | .subjectCancelled => "SUBJECT_CANCELLED"
  | .noEligibleAction => "NO_ELIGIBLE_ACTION"
  | .actionNotAllowed => "ACTION_NOT_ALLOWED"
  | .agentEscalationRequested => "AGENT_ESCALATION_REQUESTED"
  | .retryLimitReached => "RETRY_LIMIT_REACHED"
  | .customerIdentityUnresolved => "CUSTOMER_IDENTITY_UNRESOLVED"
  | .customerContactAlreadyInProgress => "CUSTOMER_CONTACT_ALREADY_IN_PROGRESS"
  | .contactLimitReached => "CONTACT_LIMIT_REACHED"
  | .channelOptedOut => "CHANNEL_OPTED_OUT"
  | .channelConsentNotGranted => "CHANNEL_CONSENT_NOT_GRANTED"
  | .equivalentActionOutcomeUnknown => "EQUIVALENT_ACTION_OUTCOME_UNKNOWN"
  | .activePromiseToPay => "ACTIVE_PROMISE_TO_PAY"
  | .activeIncident => "ACTIVE_INCIDENT"
  | .lowConfidenceRetryDeferred => "LOW_CONFIDENCE_RETRY_DEFERRED"
  | .diagnosisDelay => "DIAGNOSIS_DELAY"
  | .quietHours => "QUIET_HOURS"
  | .expectedValueBelowMinimum => "EXPECTED_VALUE_BELOW_MINIMUM"
  | .humanReviewRequired => "HUMAN_REVIEW_REQUIRED"
  | .policyAuthorized => "POLICY_AUTHORIZED"

structure PolicyEvaluationInput where
  caseId : Identifier
  amountMinor : Nat
  currency : Currency
  confidenceBasisPoints : Nat
  retryCount : Nat
  contactCount : Nat
  evaluatedAt : Instant
  candidates : CandidateList
  consentByChannel : List (ContactChannel × ConsentState) := []
  optedOutChannels : List ContactChannel := []
  incidents : List IncidentConstraint := []
  alreadyPaid : Bool := false
  disputed : Bool := false
  cancelled : Bool := false
  terminal : Bool := false
  diagnosisDeferUntil : Option Instant := none
  approval : Option HumanReviewRequest := none
  unknownEquivalentAction : Bool := false
  customerContactInProgress : Bool := false
  customerIdentityResolved : Bool := true
  activePromiseToPay : Bool := false
  promiseDueAt : Option Instant := none
  confidence_le : confidenceBasisPoints ≤ 10000
  promise_due : activePromiseToPay = true → promiseDueAt.isSome = true

structure PolicyDecision where
  selectedAction : CandidateAction
  result : PolicyResult
  reasonCodes : List PolicyReason
  resultingState : CaseState
  nextEvaluationAt : Option Instant
  evaluatedCandidates : List CandidateAction
  reasons_ne : reasonCodes ≠ []
deriving DecidableEq

def PolicyDecision.lastReason (d : PolicyDecision) : PolicyReason := d.reasonCodes.getLast d.reasons_ne

def stateFor : PolicyResult → CaseState
  | .proceed => .ready
  | .defer => .deferred
  | .skip => .decisionPending
  | .stop => .stopped
  | .requireHuman => .escalated

/-- `dict.fromkeys`: the first occurrence of each value, in order. -/
def unique {A : Type} [DecidableEq A] : List A → List A
  | [] => []
  | a :: rest => a :: (unique rest).filter fun b => decide (b ≠ a)

theorem unique_nodup {A : Type} [DecidableEq A] (values : List A) : (unique values).Nodup := by
  induction values with
  | nil => exact List.nodup_nil
  | cons a rest ih =>
    unfold unique
    apply List.nodup_cons.mpr
    constructor
    · simp
    · exact ih.filter _

theorem mem_unique {A : Type} [DecidableEq A] {a : A} {values : List A} : a ∈ unique values ↔ a ∈ values := by
  induction values with
  | nil => rfl
  | cons b rest ih =>
    simp only [unique, List.mem_cons, List.mem_filter, ih, decide_eq_true_eq]
    by_cases h : a = b <;> simp [h]

theorem unique_ne_nil {A : Type} [DecidableEq A] (values : List A) (a : A) : unique (values ++ [a]) ≠ [] := by
  intro h
  have member : a ∈ unique (values ++ [a]) := mem_unique.mpr (by simp)
  rw [h] at member
  cases member

def globalStopReason (e : PolicyEvaluationInput) : Option PolicyReason :=
  if e.terminal then some .caseAlreadyTerminal
  else if e.alreadyPaid then some .alreadyPaid
  else if e.disputed then some .paymentDisputed
  else if e.cancelled then some .subjectCancelled
  else none

def fingerprintOf (policy : MerchantPolicySnapshot) (caseId : Identifier) (amountMinor : Nat) (currency : Currency)
    (candidate : CandidateAction) : ActionFingerprint :=
  { caseId := caseId
    actionType := candidate.actionType
    target := candidate.target
    amountMinor := amountMinor
    currency := currency
    logicalAttempt := candidate.logicalAttempt
    policyDigest := policy.contentDigest }

def approvalMatches (policy : MerchantPolicySnapshot) (e : PolicyEvaluationInput) (candidate : CandidateAction) : Bool :=
  match e.approval with
  | none => false
  | some review => review.isMatchingApproval (fingerprintOf policy e.caseId e.amountMinor e.currency candidate)
      policy.contentDigest e.evaluatedAt

def dayMicros : Int := 86400000000

def inQuietHours (zone : Zone) (policy : MerchantPolicySnapshot) (evaluatedAt : Instant) : Bool :=
  let localTime := (evaluatedAt + zone.utcoffset evaluatedAt) % dayMicros
  let start : Int := policy.quietHoursStart.val
  let stop : Int := policy.quietHoursEnd.val
  if start = stop then false
  else if start < stop then decide (start ≤ localTime ∧ localTime < stop)
  else decide (start ≤ localTime ∨ localTime < stop)

/-- Both wall clock readings carry the same zone, so they are compared and moved
as readings; only the result is converted, with the fold of the end on its own day
and with `fold=0` once a day is added. -/
def quietHoursEnd (zone : Zone) (policy : MerchantPolicySnapshot) (evaluatedAt : Instant) : Instant :=
  let wall := evaluatedAt + zone.utcoffset evaluatedAt
  let candidate := wall / dayMicros * dayMicros + policy.quietHoursEnd.val
  if candidate ≤ wall then candidate + dayMicros - zone.wallOffset false (candidate + dayMicros)
  else candidate - zone.wallOffset policy.quietHoursEndFold candidate

/-- The wake-up of the first incident to end. -/
def earliestEnd : List IncidentConstraint → Option Instant
  | [] => none
  | i :: rest => match earliestEnd rest with
    | some t => some (min i.endsAt t)
    | none => some i.endsAt

def guardedClass (c : ActionClass) : Bool := c == .retry || c == .moneyIntent || c == .customerContact

def contactRule (policy : MerchantPolicySnapshot) (e : PolicyEvaluationInput) (candidate : CandidateAction) :
    Option (PolicyResult × PolicyReason × Option Instant) :=
  match candidate.channel with
  | none => none
  | some channel =>
    if ¬ e.customerIdentityResolved then some (.skip, .customerIdentityUnresolved, none)
    else if e.customerContactInProgress then
      some (.defer, .customerContactAlreadyInProgress, some (e.evaluatedAt + seconds policy.defaultDeferSeconds))
    else if policy.contactLimit ≤ e.contactCount then some (.skip, .contactLimitReached, none)
    else if channel ∈ e.optedOutChannels then some (.skip, .channelOptedOut, none)
    else if (e.consentByChannel.reverse.lookup channel).getD .unknown ≠ .granted then
      some (.skip, .channelConsentNotGranted, none)
    else none

def evaluateCandidate (zone : Zone) (policy : MerchantPolicySnapshot) (e : PolicyEvaluationInput)
    (candidate : CandidateAction) : PolicyResult × PolicyReason × Option Instant :=
  let actionClass := candidate.actionType.actionClass
  let deferred := e.evaluatedAt + seconds policy.defaultDeferSeconds
  if candidate.actionType ∉ policy.allowedActions ∧ actionClass ∉ alwaysAllowedClasses then
    (.skip, .actionNotAllowed, none)
  else if candidate.actionType = .escalateHuman then (.requireHuman, .agentEscalationRequested, none)
  else if actionClass = .retry ∧ policy.retryLimit ≤ e.retryCount then (.skip, .retryLimitReached, none)
  else match contactRule policy e candidate with
  | some verdict => verdict
  | none =>
  if e.unknownEquivalentAction ∧ guardedClass actionClass then
    (.defer, .equivalentActionOutcomeUnknown, some deferred)
  else if e.activePromiseToPay ∧ candidate.actionType ≠ .schedulePromiseReminder ∧ guardedClass actionClass then
    (.defer, .activePromiseToPay, e.promiseDueAt)
  else match earliestEnd (e.incidents.filter fun i => i.applies candidate e.evaluatedAt) with
  | some wake => (.defer, .activeIncident, some wake)
  | none =>
  if candidate.actionType = .deferRetry ∧ e.confidenceBasisPoints < policy.minimumConfidenceBasisPoints
      ∧ ¬ approvalMatches policy e candidate then
    (.defer, .lowConfidenceRetryDeferred, match e.diagnosisDeferUntil with
      | some wake => if wake ≤ e.evaluatedAt then some deferred else some wake
      | none => some deferred)
  else if ∃ wake ∈ e.diagnosisDeferUntil, e.evaluatedAt < wake then
    (.defer, .diagnosisDelay, e.diagnosisDeferUntil)
  else if actionClass = .customerContact ∧ inQuietHours zone policy e.evaluatedAt then
    (.defer, .quietHours, some (quietHoursEnd zone policy e.evaluatedAt))
  else if actionClass ∉ expectedValueExemptClasses
      ∧ candidate.expectedNetRecoveryMinor < policy.minimumExpectedNetRecoveryMinor then
    (.skip, .expectedValueBelowMinimum, none)
  else if (actionClass ∉ expectedValueExemptClasses ∧ (policy.humanReviewAmountMinor ≤ e.amountMinor
      ∨ e.confidenceBasisPoints < policy.minimumConfidenceBasisPoints)) ∧ ¬ approvalMatches policy e candidate then
    (.requireHuman, .humanReviewRequired, none)
  else (.proceed, .policyAuthorized, none)

/-- The candidates are walked in rank order, which is the order they come in. -/
def selectCandidate (zone : Zone) (policy : MerchantPolicySnapshot) (e : PolicyEvaluationInput)
    (skipped : List PolicyReason) (evaluated : List CandidateAction) :
    List CandidateAction → Except Failure PolicyDecision
  | [] => .error (.assertion "validated candidate list must contain NO_ACTION")
  | candidate :: rest =>
    if candidate.actionType = .noAction then
      .ok { selectedAction := candidate, result := .skip
            reasonCodes := unique (skipped ++ [.noEligibleAction])
            resultingState := .decisionPending, nextEvaluationAt := none
            evaluatedCandidates := evaluated ++ [candidate]
            reasons_ne := unique_ne_nil _ _ }
    else match evaluateCandidate zone policy e candidate with
      | (.skip, reason, _) => selectCandidate zone policy e (skipped ++ [reason]) (evaluated ++ [candidate]) rest
      | (result, reason, wake) =>
        .ok { selectedAction := candidate, result := result
              reasonCodes := unique (skipped ++ [reason])
              resultingState := stateFor result, nextEvaluationAt := wake
              evaluatedCandidates := evaluated ++ [candidate]
              reasons_ne := unique_ne_nil _ _ }

def stopDecision (caseId : Identifier) (reason : PolicyReason) : PolicyDecision :=
  { selectedAction := stopCandidate caseId, result := .stop, reasonCodes := [reason]
    resultingState := .stopped, nextEvaluationAt := none
    evaluatedCandidates := [stopCandidate caseId], reasons_ne := by simp }

def evaluatePolicy (zone : Zone) (policy : MerchantPolicySnapshot) (e : PolicyEvaluationInput) :
    Except Failure PolicyDecision :=
  if e.evaluatedAt < policy.effectiveAt then .error (.value "policy is not yet effective")
  else if policy.currency ≠ e.currency then .ok (stopDecision e.caseId .policyCurrencyMismatch)
  else match globalStopReason e with
    | some reason => .ok (stopDecision e.caseId reason)
    | none => selectCandidate zone policy e [] [] e.candidates.items

end RevenueGuard
