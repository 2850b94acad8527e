import RevenueGuard.Domain.Rules

/-
What a policy decision says about its input: a candidate that may proceed has
passed every rule, and a global stop stops.
-/
namespace RevenueGuard

variable {zone : Zone} {policy : MerchantPolicySnapshot} {e : PolicyEvaluationInput}

/-- Every rule a candidate that proceeds has passed, in the order they are tried. -/
structure Compliant (zone : Zone) (policy : MerchantPolicySnapshot) (e : PolicyEvaluationInput) (c : CandidateAction) :
    Prop where
  allowed : c.actionType ∈ policy.allowedActions ∨ c.actionType.actionClass ∈ alwaysAllowedClasses
  notEscalation : c.actionType ≠ .escalateHuman
  retries : c.actionType.actionClass = .retry → e.retryCount < policy.retryLimit
  contact : ∀ channel ∈ c.channel, e.customerIdentityResolved = true ∧ e.customerContactInProgress = false
    ∧ e.contactCount < policy.contactLimit ∧ channel ∉ e.optedOutChannels
    ∧ (e.consentByChannel.reverse.lookup channel).getD .unknown = .granted
  settled : e.unknownEquivalentAction = true → guardedClass c.actionType.actionClass = false
  promise : e.activePromiseToPay = true → c.actionType = .schedulePromiseReminder
    ∨ guardedClass c.actionType.actionClass = false
  incidents : ∀ i ∈ e.incidents, i.applies c e.evaluatedAt = false
  confidence : c.actionType = .deferRetry → policy.minimumConfidenceBasisPoints ≤ e.confidenceBasisPoints
    ∨ approvalMatches policy e c = true
  delay : ∀ wake ∈ e.diagnosisDeferUntil, wake ≤ e.evaluatedAt
  quiet : c.actionType.actionClass = .customerContact → inQuietHours zone policy e.evaluatedAt = false
  value : c.actionType.actionClass ∈ expectedValueExemptClasses
    ∨ policy.minimumExpectedNetRecoveryMinor ≤ c.expectedNetRecoveryMinor
  review : c.actionType.actionClass ∈ expectedValueExemptClasses ∨ approvalMatches policy e c = true
    ∨ (e.amountMinor < policy.humanReviewAmountMinor ∧ policy.minimumConfidenceBasisPoints ≤ e.confidenceBasisPoints)

theorem reachable_iff {c : CandidateAction} : ¬ Unreachable policy e c ∧ ¬ Waiting e c ↔
    ∀ channel ∈ c.channel, e.customerIdentityResolved = true ∧ e.customerContactInProgress = false
      ∧ e.contactCount < policy.contactLimit ∧ channel ∉ e.optedOutChannels ∧ consentFor e channel = .granted := by
  constructor
  · rintro ⟨reachable, free⟩ channel named
    have identified : e.customerIdentityResolved = true := by
      by_contra unidentified
      exact reachable ⟨channel, named, .inl (by simpa using unidentified)⟩
    have idle : e.customerContactInProgress = false := by
      by_contra busy
      exact free ⟨by simp [Option.mem_def.mp named], identified, by simpa using busy⟩
    have rules : ¬ (policy.contactLimit ≤ e.contactCount ∨ channel ∈ e.optedOutChannels
        ∨ consentFor e channel ≠ .granted) := fun refused => reachable ⟨channel, named, .inr ⟨idle, refused⟩⟩
    push Not at rules
    exact ⟨identified, idle, rules⟩
  · intro rules
    constructor
    · rintro ⟨channel, named, unidentified | ⟨-, reached | opted | denied⟩⟩
      all_goals obtain ⟨identified, -, below, reachable, granted⟩ := rules channel named
      · simp [identified] at unidentified
      · omega
      · exact reachable opted
      · exact denied granted
    · rintro ⟨named, -, busy⟩
      obtain ⟨channel, named⟩ := Option.isSome_iff_exists.mp named
      simp [(rules channel named).2.1] at busy

/-- Compliance is what the last rule asks for: past every other rule, worth it, and reviewed if need be. -/
theorem compliant_iff {c : CandidateAction} : Compliant zone policy e c ↔ Unheld zone policy e c
    ∧ ¬ Worthless policy c ∧ (NeedsReview policy e c → approvalMatches policy e c = true) := by
  constructor
  · intro h
    obtain ⟨reachable, free⟩ := reachable_iff.mpr h.contact
    refine ⟨⟨⟨⟨⟨⟨?_, h.notEscalation⟩, free, ?_⟩, ?_, ?_⟩, ?_, ?_⟩, ?_⟩, ?_, ?_⟩
    · rintro (disallowed | exhausted | unreachable)
      · exact h.allowed.elim disallowed.1 disallowed.2
      · have below := h.retries exhausted.1
        have reached := exhausted.2
        omega
      · exact reachable unreachable
    · rintro ⟨unknown, guarded⟩
      simp [h.settled unknown] at guarded
    · rintro ⟨active, others, guarded⟩
      rcases h.promise active with reminder | unguarded
      · exact others reminder
      · simp [unguarded] at guarded
    · rintro ⟨i, member, applies⟩
      simp [h.incidents i member] at applies
    · rintro ⟨isRetry, low, unapproved⟩
      rcases h.confidence isRetry with enough | approved
      · omega
      · simp [approved] at unapproved
    · rintro ⟨wake, named, later⟩
      exact absurd (h.delay wake named) (not_le.mpr later)
    · rintro ⟨contacts, night⟩
      simp [h.quiet contacts] at night
    · rintro ⟨counted, cheap⟩
      rcases h.value with exempt | enough
      · exact counted exempt
      · omega
    · rintro ⟨counted, reason⟩
      rcases h.review with exempt | approved | ⟨small, enough⟩
      · exact absurd exempt counted
      · exact approved
      · omega
  · rintro ⟨past, worth, reviewed⟩
    have contact := reachable_iff.mp ⟨fun unreachable => past.notRefused (.inr (.inr unreachable)), past.free⟩
    refine ⟨?_, past.notEscalation, ?_, contact, ?_, ?_, ?_, ?_, ?_, ?_, ?_, ?_⟩
    · by_contra disallowed
      push Not at disallowed
      exact past.notRefused (.inl disallowed)
    · intro isRetry
      by_contra reached
      exact past.notRefused (.inr (.inl ⟨isRetry, by omega⟩))
    · intro unknown
      by_contra guarded
      exact past.settled ⟨unknown, by simpa using guarded⟩
    · intro active
      by_contra others
      push Not at others
      exact past.unpromised ⟨active, others.1, by simpa using others.2⟩
    · intro i member
      by_contra applies
      exact past.unaffected ⟨i, member, by simpa using applies⟩
    · intro isRetry
      by_contra unsure
      push Not at unsure
      exact past.sure ⟨isRetry, unsure.1, by simpa using unsure.2⟩
    · intro wake named
      by_contra later
      exact past.undelayed ⟨wake, named, not_le.mp later⟩
    · intro contacts
      by_contra night
      exact past.awake ⟨contacts, by simpa using night⟩
    · by_contra cheap
      push Not at cheap
      exact worth cheap
    · by_contra unreviewed
      push Not at unreviewed
      refine unreviewed.2.1 (reviewed ⟨unreviewed.1, ?_⟩)
      by_contra small
      push Not at small
      exact absurd (unreviewed.2.2 small.1) (by omega)

theorem Ruled.proceed_iff {c : CandidateAction} {v : PolicyResult × PolicyReason × Option Instant}
    (h : Ruled zone policy e c v) : v.1 = .proceed ↔ Compliant zone policy e c := by
  constructor
  · intro proceeds
    cases h with
    | authorized past worth reviewed => exact compliant_iff.mpr ⟨past, worth, reviewed⟩
    | _ => simp at proceeds
  · intro compliant
    obtain ⟨past, worth, reviewed⟩ := compliant_iff.mp compliant
    cases h with
    | authorized => rfl
    | refused rule => exact absurd rule past.notRefused
    | escalated rule => exact absurd rule past.notEscalation
    | waiting _ rule => exact absurd rule past.free
    | unsettled _ _ rule => exact absurd rule past.settled
    | promised _ rule => exact absurd rule past.unpromised
    | affected _ _ rule => exact absurd rule past.unaffected
    | unsure _ rule => exact absurd rule past.sure
    | delayed _ _ rule => exact absurd rule past.undelayed
    | night _ rule => exact absurd rule past.awake
    | worthless _ rule => exact absurd rule worth
    | unreviewed _ _ rule unapproved => simp [reviewed rule] at unapproved

theorem evaluateCandidate_proceed_iff {c : CandidateAction} :
    (evaluateCandidate zone policy e c).1 = .proceed ↔ Compliant zone policy e c :=
  (evaluateCandidate_ruled zone policy e c).proceed_iff

/-- How a walk over the candidates ends. -/
theorem selectCandidate_ok : ∀ {cs : List CandidateAction} {skipped : List PolicyReason}
    {evaluated : List CandidateAction} {d : PolicyDecision},
    selectCandidate zone policy e skipped evaluated cs = .ok d →
      d.resultingState = stateFor d.result ∧ (d.result = .skip ∨
        (d.selectedAction ∈ cs ∧ d.selectedAction.actionType ≠ .noAction ∧
          (evaluateCandidate zone policy e d.selectedAction).1 = d.result)) := by
  intro cs
  induction cs with
  | nil => intro _ _ _ h; cases h
  | cons c rest ih =>
    intro skipped evaluated d h
    unfold selectCandidate at h
    split at h
    · cases h
      exact ⟨rfl, .inl rfl⟩
    · rename_i ordinary
      split at h
      · obtain ⟨state, rest_ok⟩ := ih h
        exact ⟨state, rest_ok.imp id fun ⟨mem, others⟩ => ⟨List.mem_cons_of_mem _ mem, others⟩⟩
      · rename_i verdict
        cases h
        exact ⟨rfl, .inr ⟨List.mem_cons_self, ordinary, by simp only [verdict]⟩⟩

theorem evaluatePolicy_state {d : PolicyDecision} (h : evaluatePolicy zone policy e = .ok d) :
    d.resultingState = stateFor d.result := by
  unfold evaluatePolicy at h
  split at h
  · cases h
  · split at h
    · cases h; rfl
    · split at h
      · cases h; rfl
      · exact (selectCandidate_ok h).1

/-- What lets a decision proceed. -/
structure Authorized (zone : Zone) (policy : MerchantPolicySnapshot) (e : PolicyEvaluationInput) (d : PolicyDecision) :
    Prop where
  effective : policy.effectiveAt ≤ e.evaluatedAt
  currency : policy.currency = e.currency
  open_ : e.terminal = false ∧ e.alreadyPaid = false ∧ e.disputed = false ∧ e.cancelled = false
  selected : d.selectedAction ∈ e.candidates.items
  ordinary : d.selectedAction.actionType ≠ .noAction
  compliant : Compliant zone policy e d.selectedAction

theorem globalStopReason_none (h : globalStopReason e = none) :
    e.terminal = false ∧ e.alreadyPaid = false ∧ e.disputed = false ∧ e.cancelled = false := by
  unfold globalStopReason at h
  repeat' split at h
  all_goals simp_all

theorem evaluatePolicy_proceed {d : PolicyDecision} (h : evaluatePolicy zone policy e = .ok d)
    (proceeds : d.result = .proceed) : Authorized zone policy e d := by
  unfold evaluatePolicy at h
  split at h
  · cases h
  rename_i effective
  split at h
  · cases h; cases proceeds
  rename_i currency
  split at h
  · cases h; cases proceeds
  rename_i open_
  rcases (selectCandidate_ok h).2 with skipped | ⟨member, ordinary, verdict⟩
  · rw [skipped] at proceeds; cases proceeds
  · exact ⟨not_lt.mp effective, by simpa using currency, globalStopReason_none open_, member, ordinary,
      evaluateCandidate_proceed_iff.mp (verdict.trans proceeds)⟩

/-- Only an incident that applies defers for an active incident. -/
theorem Ruled.incident {c : CandidateAction} {v : PolicyResult × PolicyReason × Option Instant}
    (h : Ruled zone policy e c v) (reason : v.2.1 = .activeIncident) : v.1 = .defer ∧ Affected e c := by
  cases h with
  | affected _ _ rule => exact ⟨rfl, rule⟩
  | refused _ ordinary => exact absurd reason ordinary
  | _ => simp at reason

theorem evaluateCandidate_incident {c : CandidateAction} (h : (evaluateCandidate zone policy e c).2.1 = .activeIncident) :
    (evaluateCandidate zone policy e c).1 = .defer ∧ ∃ i ∈ e.incidents, i.applies c e.evaluatedAt = true :=
  (evaluateCandidate_ruled zone policy e c).incident h

theorem selectCandidate_incident : ∀ {cs : List CandidateAction} {skipped : List PolicyReason}
    {evaluated : List CandidateAction} {d : PolicyDecision}, PolicyReason.activeIncident ∉ skipped →
    selectCandidate zone policy e skipped evaluated cs = .ok d → PolicyReason.activeIncident ∈ d.reasonCodes →
      ∃ i ∈ e.incidents, i.applies d.selectedAction e.evaluatedAt = true := by
  intro cs
  induction cs with
  | nil =>
    intro _ _ _ _ h
    cases h
  | cons c rest ih =>
    intro skipped evaluated d clean h reason
    have named {verdict : PolicyReason} (member : .activeIncident ∈ unique (skipped ++ [verdict])) :
        verdict = .activeIncident := by
      rcases List.mem_append.mp (mem_unique.mp member) with old | last
      · exact absurd old clean
      · exact (List.mem_singleton.mp last).symm
    unfold selectCandidate at h
    split at h
    · cases h
      cases named reason
    · split at h
      · rename_i skip wake verdict
        refine ih (fun member => ?_) h reason
        rcases List.mem_append.mp member with old | last
        · exact clean old
        · have deferred := (evaluateCandidate_incident (by rw [verdict]; exact (List.mem_singleton.mp last).symm)).1
          rw [verdict] at deferred
          cases deferred
      · rename_i verdict
        cases h
        exact (evaluateCandidate_incident (by rw [verdict]; exact named reason)).2

theorem evaluatePolicy_incident {d : PolicyDecision} (h : evaluatePolicy zone policy e = .ok d)
    (reason : PolicyReason.activeIncident ∈ d.reasonCodes) :
    ∃ i ∈ e.incidents, i.applies d.selectedAction e.evaluatedAt = true := by
  unfold evaluatePolicy at h
  split at h
  · cases h
  split at h
  · cases h
    simp [stopDecision] at reason
  split at h
  · rename_i stop stopped
    cases h
    have stops : stop = .activeIncident := by simpa [stopDecision, eq_comm] using reason
    subst stops
    unfold globalStopReason at stopped
    repeat' split at stopped
    all_goals cases stopped
  · exact selectCandidate_incident List.not_mem_nil h reason

/-- A retry that has used up its limit is skipped before any other rule. -/
theorem evaluateCandidate_retries {c : CandidateAction} (h : (evaluateCandidate zone policy e c).1 ≠ .skip)
    (isRetry : c.actionType.actionClass = .retry) : e.retryCount < policy.retryLimit := by
  by_contra reached
  exact h ((evaluateCandidate_ruled zone policy e c).skip_iff.mpr (.inl (.inr (.inl ⟨isRetry, by omega⟩))))

theorem evaluatePolicy_retries {d : PolicyDecision} (h : evaluatePolicy zone policy e = .ok d) (deferred : d.result = .defer)
    (isRetry : d.selectedAction.actionType.actionClass = .retry) : e.retryCount < policy.retryLimit := by
  unfold evaluatePolicy at h
  split at h
  · cases h
  split at h
  · cases h; cases deferred
  split at h
  · cases h; cases deferred
  · rcases (selectCandidate_ok h).2 with skipped | ⟨-, -, verdict⟩
    · rw [skipped] at deferred; cases deferred
    · exact evaluateCandidate_retries (by rw [verdict, deferred]; simp) isRetry

theorem evaluatePolicy_disputed {d : PolicyDecision} (h : evaluatePolicy zone policy e = .ok d)
    (disputed : e.disputed = true) : d.result = .stop := by
  unfold evaluatePolicy at h
  split at h
  · cases h
  split at h
  · cases h; rfl
  split at h
  · cases h; rfl
  · rename_i open_
    rw [(globalStopReason_none open_).2.2.1] at disputed
    cases disputed

end RevenueGuard
