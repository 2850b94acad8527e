import RevenueGuard.Domain.Cases
import RevenueGuard.Kit.LocalClock
import Mathlib.Data.Finset.Basic

/-
The vocabulary of merchant policy: actions and their classes, ranked candidates,
incidents, and the immutable policy snapshot with its canonical document. The
digest of a document stands for the document itself (SHA-256 over the canonical
JSON, taken to be collision free).
-/
namespace RevenueGuard

inductive ActionType where
  | deferRetry | createPaymentLink | requestPaymentMethodUpdate | sendReminder
  | schedulePromiseReminder | pauseRetries | resumeDeferredCase | escalateHuman
  | stopAutomation | noAction
deriving DecidableEq, Repr

def ActionType.value : ActionType → String
  | .deferRetry => "DEFER_RETRY"
  | .createPaymentLink => "CREATE_PAYMENT_LINK"
  | .requestPaymentMethodUpdate => "REQUEST_PAYMENT_METHOD_UPDATE"
  | .sendReminder => "SEND_REMINDER"
  | .schedulePromiseReminder => "SCHEDULE_PROMISE_REMINDER"
  | .pauseRetries => "PAUSE_RETRIES"
  | .resumeDeferredCase => "RESUME_DEFERRED_CASE"
  | .escalateHuman => "ESCALATE_HUMAN"
  | .stopAutomation => "STOP_AUTOMATION"
  | .noAction => "NO_ACTION"

inductive ActionClass where
  | retry | moneyIntent | customerContact | internal | escalation | stop | noAction
deriving DecidableEq, Repr

inductive ContactChannel where
  | email | sms | whatsapp
deriving DecidableEq, Repr

def ContactChannel.value : ContactChannel → String
  | .email => "EMAIL"
  | .sms => "SMS"
  | .whatsapp => "WHATSAPP"

inductive ConsentState where
  | granted | denied | unknown
deriving DecidableEq, Repr

inductive IncidentScope where
  | paymentRail | gateway | issuer | contactChannel | allAutomation
deriving DecidableEq, Repr

inductive PolicyResult where
  | proceed | defer | skip | stop | requireHuman
deriving DecidableEq, Repr

def ActionType.actionClass : ActionType → ActionClass
  | .deferRetry => .retry
  | .createPaymentLink => .moneyIntent
  | .requestPaymentMethodUpdate => .customerContact
  | .sendReminder => .customerContact
  | .schedulePromiseReminder => .customerContact
  | .pauseRetries => .internal
  | .resumeDeferredCase => .internal
  | .escalateHuman => .escalation
  | .stopAutomation => .stop
  | .noAction => .noAction

def alwaysAllowedClasses : List ActionClass := [.escalation, .stop, .noAction]

def expectedValueExemptClasses : List ActionClass := [.internal, .escalation, .stop, .noAction]

theorem first_pos : 1 ≤ 1 := by decide

theorem second_pos : 1 ≤ 2 := by decide

theorem third_pos : 1 ≤ 3 := by decide

theorem next_pos (n : Nat) : 1 ≤ n + 1 := by omega

theorem none_le : 0 ≤ 10000 := by decide

/-- A channel is named exactly when the action contacts a customer. -/
structure CandidateAction where
  actionType : ActionType
  recoveryProbabilityBasisPoints : Nat
  expectedNetRecoveryMinor : Int
  rank : Nat
  target : Identifier
  logicalAttempt : Nat := 1
  channel : Option ContactChannel := none
  actionCostMinor : Nat := 0
  riskPenaltyMinor : Nat := 0
  customerFrictionPenaltyMinor : Nat := 0
  probability_le : recoveryProbabilityBasisPoints ≤ 10000
  rank_pos : 1 ≤ rank
  attempt_pos : 1 ≤ logicalAttempt
  channel_iff : channel.isSome = true ↔ actionType.actionClass = .customerContact
deriving DecidableEq, Repr

theorem retry_silent : (none : Option ContactChannel).isSome = true ↔ ActionType.deferRetry.actionClass = .customerContact := by
  decide

theorem link_silent :
    (none : Option ContactChannel).isSome = true ↔ ActionType.createPaymentLink.actionClass = .customerContact := by
  decide

def CandidateAction.withRank (c : CandidateAction) (rank : Nat) (pos : 1 ≤ rank) : CandidateAction :=
  { c with rank := rank, rank_pos := pos }

@[simp] theorem CandidateAction.withRank_actionType (c : CandidateAction) (rank : Nat) (pos : 1 ≤ rank) :
    (c.withRank rank pos).actionType = c.actionType := rfl

@[simp] theorem CandidateAction.withRank_rank (c : CandidateAction) (rank : Nat) (pos : 1 ≤ rank) :
    (c.withRank rank pos).rank = rank := rfl

@[simp] theorem CandidateAction.withRank_logicalAttempt (c : CandidateAction) (rank : Nat) (pos : 1 ≤ rank) :
    (c.withRank rank pos).logicalAttempt = c.logicalAttempt := rfl

def noActionCandidate (target : Identifier) (rank : Nat) (pos : 1 ≤ rank) (logicalAttempt : Nat := 1)
    (attempt : 1 ≤ logicalAttempt := by first | exact first_pos | decide) : CandidateAction :=
  { actionType := .noAction, recoveryProbabilityBasisPoints := 0, expectedNetRecoveryMinor := 0
    rank := rank, target := target, logicalAttempt := logicalAttempt
    probability_le := none_le, rank_pos := pos, attempt_pos := attempt
    channel_iff := by simp [ActionType.actionClass] }

def stopCandidate (target : Identifier) : CandidateAction :=
  { actionType := .stopAutomation, recoveryProbabilityBasisPoints := 0, expectedNetRecoveryMinor := 0
    rank := 1, target := target
    probability_le := none_le, rank_pos := first_pos, attempt_pos := first_pos
    channel_iff := by simp [ActionType.actionClass] }

/-- Candidates ranked contiguously from one, the last of them `NO_ACTION`. -/
structure CandidateList where
  items : List CandidateAction
  ranked : items.map (·.rank) = List.range' 1 items.length
  closed : ∃ c, items.getLast? = some c ∧ c.actionType = .noAction

instance (items : List CandidateAction) :
    Decidable (∃ c, items.getLast? = some c ∧ c.actionType = .noAction) :=
  match h : items.getLast? with
  | some c => decidable_of_iff (c.actionType = .noAction) (by simp)
  | none => isFalse (by simp)

def candidateList (items : List CandidateAction) : Except Failure CandidateList :=
  if ranked : items.map (·.rank) = List.range' 1 items.length then
    if closed : ∃ c, items.getLast? = some c ∧ c.actionType = .noAction then .ok ⟨items, ranked, closed⟩
    else .error (.value "candidate list must end with NO_ACTION")
  else .error (.value "candidate ranks must be ordered and contiguous from one")

theorem candidateList_ok {items : List CandidateAction} {cs : CandidateList}
    (h : candidateList items = .ok cs) : cs.items = items := by
  simp only [candidateList] at h
  split at h
  · split at h
    · cases h; rfl
    · cases h
  · cases h

structure IncidentConstraint where
  incidentId : Identifier
  scope : IncidentScope
  startsAt : Instant
  endsAt : Instant
  channel : Option ContactChannel := none
  window : startsAt < endsAt
  channel_iff : channel.isSome = true ↔ scope = .contactChannel
deriving DecidableEq, Repr

def IncidentConstraint.applies (i : IncidentConstraint) (candidate : CandidateAction) (evaluatedAt : Instant) : Bool :=
  if ¬ (i.startsAt ≤ evaluatedAt ∧ evaluatedAt < i.endsAt) then false
  else match candidate.actionType.actionClass with
    | .stop | .noAction | .escalation => false
    | actionClass => match i.scope with
      | .allAutomation => true
      | .paymentRail | .gateway | .issuer => actionClass == .retry || actionClass == .moneyIntent
      | .contactChannel => actionClass == .customerContact && candidate.channel == i.channel

/-- A naive time of day in microseconds. -/
abbrev TimeOfDay := { t : Nat // t < 86400000000 }

/-- What `ZoneInfo` answers. Every name that passed `ZoneInfo(name)` has a zone. -/
abbrev Zone := LocalClock

def utcZone : Zone := LocalClock.fixed 0

theorem phase3_named : "phase3-v1" ≠ "" := by decide

structure PolicyTerms where
  version : Identifier
  allowedActions : Finset ActionType
  retryLimit : Nat
  contactLimit : Nat
  minimumExpectedNetRecoveryMinor : Nat
  humanReviewAmountMinor : Nat
  minimumConfidenceBasisPoints : Nat
  defaultDeferSeconds : Nat
  timezone : String
  currency : Currency
  featuresVersion : String := "phase3-v1"
  features_nonempty : featuresVersion ≠ "" := by first | exact phase3_named | decide
  allowed_nonempty : allowedActions ≠ ∅
  confidence_le : minimumConfidenceBasisPoints ≤ 10000
  defer_pos : 0 < defaultDeferSeconds
deriving DecidableEq

structure MerchantPolicySnapshot extends PolicyTerms where
  effectiveAt : Instant
  quietHoursStart : TimeOfDay
  quietHoursEnd : TimeOfDay
  quietHoursEndFold : Bool := false
deriving DecidableEq

/-- `==` of two snapshots: equality of times leaves the fold out. -/
def MerchantPolicySnapshot.Equals (p q : MerchantPolicySnapshot) : Prop :=
  { p with quietHoursEndFold := false } = { q with quietHoursEndFold := false }

instance (p q : MerchantPolicySnapshot) : Decidable (p.Equals q) := inferInstanceAs (Decidable (_ = _))

/-- The canonical document keeps whole seconds only, and no fold. -/
structure PolicyDocument extends PolicyTerms where
  effectiveAtSecond : Int
  quietHoursStartSecond : Nat
  quietHoursEndSecond : Nat
  start_lt : quietHoursStartSecond < 86400
  end_lt : quietHoursEndSecond < 86400
deriving DecidableEq

def MerchantPolicySnapshot.canonicalDocument (p : MerchantPolicySnapshot) : PolicyDocument :=
  { p.toPolicyTerms with
    effectiveAtSecond := p.effectiveAt / 1000000
    quietHoursStartSecond := p.quietHoursStart.val / 1000000
    quietHoursEndSecond := p.quietHoursEnd.val / 1000000
    start_lt := by have := p.quietHoursStart.property; omega
    end_lt := by have := p.quietHoursEnd.property; omega }

abbrev PolicyDigest := PolicyDocument

def MerchantPolicySnapshot.contentDigest (p : MerchantPolicySnapshot) : PolicyDigest := p.canonicalDocument

def policyFromDocument (d : PolicyDocument) : MerchantPolicySnapshot :=
  { d.toPolicyTerms with
    effectiveAt := seconds d.effectiveAtSecond
    quietHoursStart := ⟨d.quietHoursStartSecond * 1000000, by have := d.start_lt; omega⟩
    quietHoursEnd := ⟨d.quietHoursEndSecond * 1000000, by have := d.end_lt; omega⟩ }

theorem policyFromDocument_digest (d : PolicyDocument) : (policyFromDocument d).contentDigest = d := by
  obtain ⟨terms, at_, qs, qe, hs, he⟩ := d
  simp only [policyFromDocument, MerchantPolicySnapshot.contentDigest,
    MerchantPolicySnapshot.canonicalDocument, seconds]
  congr 1 <;> omega

/-- A document cuts the time it is in force from to the second before. -/
theorem policyFromDocument_effective (p : MerchantPolicySnapshot) :
    (policyFromDocument p.canonicalDocument).effectiveAt ≤ p.effectiveAt :=
  Int.ediv_mul_le p.effectiveAt (by decide)

end RevenueGuard
