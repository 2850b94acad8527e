import RevenueGuard.Domain.Decisions

/-
What PROCEED promises, and that a restriction never turns a refusal into it: a
candidate that complies under stricter facts complies under the looser ones.
-/
namespace RevenueGuard

variable {zone : Zone} {policy : MerchantPolicySnapshot} {e e₁ e₂ : PolicyEvaluationInput} {c : CandidateAction}

/-- An approved, unexpired review of this very action under this very policy. -/
def Approved (policy : MerchantPolicySnapshot) (e : PolicyEvaluationInput) (c : CandidateAction) : Prop :=
  ∃ review ∈ e.approval, review.status = .approved ∧ e.evaluatedAt < review.expiresAt
    ∧ review.actionFingerprint = fingerprintOf policy e.caseId e.amountMinor e.currency c
    ∧ review.policyDigest = policy.contentDigest

/-- Everything that holds of a candidate the policy lets proceed. -/
structure Safeguarded (zone : Zone) (policy : MerchantPolicySnapshot) (e : PolicyEvaluationInput) (c : CandidateAction) :
    Prop where
  currencies : policy.currency = e.currency
  live : e.terminal = false ∧ e.alreadyPaid = false ∧ e.disputed = false ∧ e.cancelled = false
  permitted : c.actionType ∈ policy.allowedActions ∨ c.actionType.actionClass ∈ alwaysAllowedClasses
  notEscalation : c.actionType ≠ .escalateHuman
  retry : c.actionType.actionClass = .retry → e.retryCount < policy.retryLimit
    ∧ (policy.minimumConfidenceBasisPoints ≤ e.confidenceBasisPoints ∨ Approved policy e c)
  contact : c.actionType.actionClass = .customerContact → ∃ channel, c.channel = some channel
    ∧ e.customerIdentityResolved = true ∧ e.customerContactInProgress = false ∧ e.contactCount < policy.contactLimit
    ∧ channel ∉ e.optedOutChannels ∧ consentFor e channel = .granted ∧ inQuietHours zone policy e.evaluatedAt = false
  settled : guardedClass c.actionType.actionClass = true → e.unknownEquivalentAction = false
  unpromised : guardedClass c.actionType.actionClass = true → c.actionType ≠ .schedulePromiseReminder →
    e.activePromiseToPay = false
  incidents : ∀ i ∈ e.incidents, i.applies c e.evaluatedAt = false
  delay : ∀ wake ∈ e.diagnosisDeferUntil, wake ≤ e.evaluatedAt
  value : c.actionType.actionClass ∉ expectedValueExemptClasses →
    policy.minimumExpectedNetRecoveryMinor ≤ c.expectedNetRecoveryMinor
  review : NeedsReview policy e c → Approved policy e c

theorem approvalMatches_iff : approvalMatches policy e c = true ↔ Approved policy e c := by
  unfold approvalMatches Approved
  cases e.approval with
  | none => simp
  | some review => simp [HumanReviewRequest.isMatchingApproval, and_assoc]

theorem retry_iff (t : ActionType) : t.actionClass = .retry ↔ t = .deferRetry := by
  cases t <;> simp [ActionType.actionClass]

theorem compliant_contact (h : Compliant zone policy e c) (contacts : c.actionType.actionClass = .customerContact) :
    ∃ channel, c.channel = some channel ∧ e.customerIdentityResolved = true ∧ e.customerContactInProgress = false
      ∧ e.contactCount < policy.contactLimit ∧ channel ∉ e.optedOutChannels ∧ consentFor e channel = .granted
      ∧ inQuietHours zone policy e.evaluatedAt = false := by
  obtain ⟨channel, named⟩ := Option.isSome_iff_exists.mp (c.channel_iff.mpr contacts)
  obtain ⟨identified, idle, below, reachable, granted⟩ := h.contact channel named
  exact ⟨channel, named, identified, idle, below, reachable, granted, h.quiet contacts⟩

theorem authorized_safeguarded {d : PolicyDecision} (h : Authorized zone policy e d) :
    Safeguarded zone policy e d.selectedAction := by
  obtain ⟨past, worth, reviewed⟩ := compliant_iff.mp h.compliant
  constructor
  · exact h.currency
  · exact h.open_
  · exact h.compliant.allowed
  · exact h.compliant.notEscalation
  · intro isRetry
    refine ⟨h.compliant.retries isRetry, ?_⟩
    rcases h.compliant.confidence ((retry_iff _).mp isRetry) with enough | approved
    · exact .inl enough
    · exact .inr (approvalMatches_iff.mp approved)
  · exact compliant_contact h.compliant
  · intro guarded
    by_contra unknown
    exact past.settled ⟨by simpa using unknown, guarded⟩
  · intro guarded others
    by_contra active
    exact past.unpromised ⟨by simpa using active, others, guarded⟩
  · exact h.compliant.incidents
  · exact h.compliant.delay
  · intro counted
    by_contra cheap
    exact worth ⟨counted, not_le.mp cheap⟩
  · intro needed
    exact approvalMatches_iff.mp (reviewed needed)

theorem proceed_safeguarded {d : PolicyDecision} (h : evaluatePolicy zone policy e = .ok d)
    (proceeds : d.result = .proceed) :
    d.selectedAction ∈ e.candidates.items ∧ Safeguarded zone policy e d.selectedAction := by
  have authorized := evaluatePolicy_proceed h proceeds
  exact ⟨authorized.selected, authorized_safeguarded authorized⟩

theorem half_confident : 5000 ≤ 10000 := by decide

/-- A merchant who allows every action, with quiet hours from 22:00 to 07:00. -/
def anyAction : MerchantPolicySnapshot :=
  { version := ident "v1"
    allowedActions := {.deferRetry, .createPaymentLink, .sendReminder, .escalateHuman}
    retryLimit := 3
    contactLimit := 2
    minimumExpectedNetRecoveryMinor := 100
    humanReviewAmountMinor := 50000
    minimumConfidenceBasisPoints := 5000
    defaultDeferSeconds := 3600
    timezone := "UTC"
    currency := currency "INR"
    effectiveAt := 0
    quietHoursStart := ⟨79200000000, by decide⟩
    quietHoursEnd := ⟨25200000000, by decide⟩
    allowed_nonempty := by decide, confidence_le := half_confident, defer_pos := by decide }

/-- The candidate, then `NO_ACTION`. -/
def oneCandidate (c : CandidateAction) (first : c.rank = 1) : CandidateList :=
  { items := [c, noActionCandidate c.target 2 second_pos]
    ranked := by simp [first, noActionCandidate, List.range']
    closed := ⟨_, rfl, rfl⟩ }

def reminderBySms : CandidateAction :=
  { actionType := .sendReminder, recoveryProbabilityBasisPoints := 4000, expectedNetRecoveryMinor := 900, rank := 1
    target := ident "inv-1", channel := some .sms
    probability_le := by decide, rank_pos := first_pos, attempt_pos := first_pos, channel_iff := by decide }

theorem well_confident : 8000 ≤ 10000 := by decide

theorem reminderBySms_first : reminderBySms.rank = 1 := rfl

/-- A consenting customer at noon. -/
def atNoon (c : CandidateAction) (first : c.rank = 1) : PolicyEvaluationInput :=
  { caseId := ident "case-1", amountMinor := 20000, currency := currency "INR", confidenceBasisPoints := 8000
    retryCount := 0, contactCount := 1, evaluatedAt := 43200000000, candidates := oneCandidate c first
    consentByChannel := [(.sms, .granted)]
    confidence_le := well_confident, promise_due := by decide }

theorem proceed_safeguarded_reminder : Safeguarded utcZone anyAction (atNoon reminderBySms rfl) reminderBySms := by
  obtain ⟨d, decided, selected, proceeds⟩ : ∃ d, evaluatePolicy utcZone anyAction (atNoon reminderBySms rfl) = .ok d
      ∧ d.selectedAction = reminderBySms ∧ d.result = .proceed := ⟨_, rfl, rfl, rfl⟩
  have safe := (proceed_safeguarded decided proceeds).2
  rwa [selected] at safe

section restrictions

/-- The second input differs from the first only in being at least as restrictive. -/
structure Stricter (e₁ e₂ : PolicyEvaluationInput) : Prop where
  caseId : e₂.caseId = e₁.caseId
  amount : e₂.amountMinor = e₁.amountMinor
  currency : e₂.currency = e₁.currency
  instant : e₂.evaluatedAt = e₁.evaluatedAt
  candidates : e₂.candidates.items = e₁.candidates.items
  incidents : e₁.incidents ⊆ e₂.incidents
  optedOut : e₁.optedOutChannels ⊆ e₂.optedOutChannels
  consent : ∀ channel, consentFor e₂ channel = .granted → consentFor e₁ channel = .granted
  retries : e₁.retryCount ≤ e₂.retryCount
  contacts : e₁.contactCount ≤ e₂.contactCount
  terminal : e₁.terminal = true → e₂.terminal = true
  paid : e₁.alreadyPaid = true → e₂.alreadyPaid = true
  disputed : e₁.disputed = true → e₂.disputed = true
  cancelled : e₁.cancelled = true → e₂.cancelled = true
  unknownEquivalent : e₁.unknownEquivalentAction = true → e₂.unknownEquivalentAction = true
  inProgress : e₁.customerContactInProgress = true → e₂.customerContactInProgress = true
  promise : e₁.activePromiseToPay = true → e₂.activePromiseToPay = true
  identity : e₂.customerIdentityResolved = true → e₁.customerIdentityResolved = true
  confidence : e₂.confidenceBasisPoints ≤ e₁.confidenceBasisPoints
  delay : ∀ wake ∈ e₁.diagnosisDeferUntil, ∃ later ∈ e₂.diagnosisDeferUntil, wake ≤ later
  approval : e₂.approval = none ∨ e₂.approval = e₁.approval

def Proceeds (zone : Zone) (policy : MerchantPolicySnapshot) (e : PolicyEvaluationInput) : Prop :=
  ∃ d, evaluatePolicy zone policy e = .ok d ∧ d.result = .proceed

theorem stricter_flag {a b : Bool} (h : a = true → b = true) (off : b = false) : a = false := by
  by_contra on
  rw [h (by simpa using on)] at off
  cases off

theorem stricter_approved (h : Stricter e₁ e₂) (approved : approvalMatches policy e₂ c = true) :
    approvalMatches policy e₁ c = true := by
  rcases h.approval with removed | same
  · simp [approvalMatches, removed] at approved
  · simpa [approvalMatches, same, h.caseId, h.amount, h.currency, h.instant] using approved

theorem stricter_compliant (h : Stricter e₁ e₂) (compliant : Compliant zone policy e₂ c) : Compliant zone policy e₁ c := by
  constructor
  · exact compliant.allowed
  · exact compliant.notEscalation
  · intro isRetry
    have below := compliant.retries isRetry
    have fewer := h.retries
    omega
  · intro channel named
    obtain ⟨identified, idle, below, reachable, granted⟩ := compliant.contact channel named
    have fewer := h.contacts
    exact ⟨h.identity identified, stricter_flag h.inProgress idle, by omega, fun opted => reachable (h.optedOut opted),
      h.consent channel granted⟩
  · intro unknown
    exact compliant.settled (h.unknownEquivalent unknown)
  · intro active
    exact compliant.promise (h.promise active)
  · intro i member
    have clear := compliant.incidents i (h.incidents member)
    rwa [h.instant] at clear
  · intro isRetry
    have lower := h.confidence
    rcases compliant.confidence isRetry with enough | approved
    · exact .inl (by omega)
    · exact .inr (stricter_approved h approved)
  · intro wake named
    obtain ⟨later, delayed, le⟩ := h.delay wake named
    have past := compliant.delay later delayed
    rw [h.instant] at past
    exact le_trans le past
  · intro contacts
    have awake := compliant.quiet contacts
    rwa [h.instant] at awake
  · exact compliant.value
  · have lower := h.confidence
    have same := h.amount
    rcases compliant.review with exempt | approved | ⟨small, enough⟩
    · exact .inl exempt
    · exact .inr (.inl (stricter_approved h approved))
    · exact .inr (.inr ⟨by omega, by omega⟩)

theorem evaluatePolicy_open (effective : policy.effectiveAt ≤ e.evaluatedAt) (currencies : policy.currency = e.currency)
    (live : e.terminal = false ∧ e.alreadyPaid = false ∧ e.disputed = false ∧ e.cancelled = false) :
    evaluatePolicy zone policy e = selectCandidate zone policy e [] [] e.candidates.items := by
  obtain ⟨open_, unpaid, undisputed, kept⟩ := live
  unfold evaluatePolicy globalStopReason
  rw [if_neg (not_lt.mpr effective), if_neg (not_not.mpr currencies)]
  simp [open_, unpaid, undisputed, kept]

theorem selectCandidate_compliant {skipped : List PolicyReason} {evaluated rest : List CandidateAction}
    (ordinary : c.actionType ≠ .noAction) (compliant : Compliant zone policy e c) :
    ∃ d, selectCandidate zone policy e skipped evaluated (c :: rest) = .ok d ∧ d.result = .proceed := by
  have proceeds := evaluateCandidate_proceed_iff.mpr compliant
  unfold selectCandidate
  rw [if_neg ordinary]
  split
  · rename_i verdict
    rw [verdict] at proceeds
    cases proceeds
  · rename_i verdict
    rw [verdict] at proceeds
    exact ⟨_, rfl, proceeds⟩

theorem proceeds_iff {last : CandidateAction} (two : e.candidates.items = [c, last]) :
    Proceeds zone policy e ↔ policy.effectiveAt ≤ e.evaluatedAt ∧ policy.currency = e.currency
      ∧ (e.terminal = false ∧ e.alreadyPaid = false ∧ e.disputed = false ∧ e.cancelled = false)
      ∧ c.actionType ≠ .noAction ∧ Compliant zone policy e c := by
  constructor
  · rintro ⟨d, decided, proceeds⟩
    have authorized := evaluatePolicy_proceed decided proceeds
    have selected : d.selectedAction = c := by
      obtain ⟨end_, closes, idle⟩ := e.candidates.closed
      have member := authorized.selected
      rw [two] at member closes
      rcases List.mem_pair.mp member with first | second
      · exact first
      · have same : last = end_ := by simpa using closes
        exact absurd (by rw [second, same, idle]) authorized.ordinary
    subst selected
    exact ⟨authorized.effective, authorized.currency, authorized.open_, authorized.ordinary, authorized.compliant⟩
  · rintro ⟨effective, currencies, live, ordinary, compliant⟩
    unfold Proceeds
    rw [evaluatePolicy_open effective currencies live, two]
    exact selectCandidate_compliant ordinary compliant

theorem restriction_never_proceeds {last : CandidateAction} (stricter : Stricter e₁ e₂)
    (two : e₁.candidates.items = [c, last]) (held : ¬ Proceeds zone policy e₁) : ¬ Proceeds zone policy e₂ := by
  intro proceeds
  obtain ⟨effective, currencies, ⟨open_, unpaid, undisputed, kept⟩, ordinary, compliant⟩ :=
    (proceeds_iff (stricter.candidates.trans two)).mp proceeds
  refine held ((proceeds_iff two).mpr ⟨?_, ?_, ⟨?_, ?_, ?_, ?_⟩, ordinary, stricter_compliant stricter compliant⟩)
  · rwa [stricter.instant] at effective
  · rwa [stricter.currency] at currencies
  · exact stricter_flag stricter.terminal open_
  · exact stricter_flag stricter.paid unpaid
  · exact stricter_flag stricter.disputed undisputed
  · exact stricter_flag stricter.cancelled kept

theorem unsure_confident : 3000 ≤ 10000 := by decide

/-- The same customer, after opting out and with more contacts, an incident and less confidence. -/
def optedOutAtNoon : PolicyEvaluationInput :=
  { atNoon reminderBySms reminderBySms_first with
    contactCount := 2, confidenceBasisPoints := 3000, optedOutChannels := [.sms], alreadyPaid := true
    diagnosisDeferUntil := some 50000000000, confidence_le := unsure_confident }

def reachedLimit : PolicyEvaluationInput := { atNoon reminderBySms reminderBySms_first with contactCount := 2 }

theorem restriction_never_proceeds_optedOut : ¬ Proceeds utcZone anyAction optedOutAtNoon := by
  have stricter : Stricter reachedLimit optedOutAtNoon := by
    constructor <;> simp [optedOutAtNoon, reachedLimit, atNoon, consentFor]
  have two : reachedLimit.candidates.items = [reminderBySms, noActionCandidate (ident "inv-1") 2 (by decide)] := rfl
  refine restriction_never_proceeds stricter two ?_
  rintro ⟨d, decided, proceeds⟩
  cases decided
  cases proceeds

end restrictions

end RevenueGuard
