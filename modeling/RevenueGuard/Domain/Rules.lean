import RevenueGuard.Domain.Evaluation

/-
The rules of `_evaluate_candidate` as conditions on the input. `Ruled` says once
which rule decides a candidate and what it has passed before; the verdicts are
read off it.
-/
namespace RevenueGuard

variable {zone : Zone} {policy : MerchantPolicySnapshot} {e : PolicyEvaluationInput} {c : CandidateAction}

def Disallowed (policy : MerchantPolicySnapshot) (c : CandidateAction) : Prop :=
  c.actionType ∉ policy.allowedActions ∧ c.actionType.actionClass ∉ alwaysAllowedClasses

def Exhausted (policy : MerchantPolicySnapshot) (e : PolicyEvaluationInput) (c : CandidateAction) : Prop :=
  c.actionType.actionClass = .retry ∧ policy.retryLimit ≤ e.retryCount

def consentFor (e : PolicyEvaluationInput) (channel : ContactChannel) : ConsentState :=
  (e.consentByChannel.reverse.lookup channel).getD .unknown

/-- The customer may not be contacted on the candidate's channel. -/
def Unreachable (policy : MerchantPolicySnapshot) (e : PolicyEvaluationInput) (c : CandidateAction) : Prop :=
  ∃ channel ∈ c.channel, e.customerIdentityResolved = false ∨ (e.customerContactInProgress = false ∧
    (policy.contactLimit ≤ e.contactCount ∨ channel ∈ e.optedOutChannels ∨ consentFor e channel ≠ .granted))

/-- The rules that skip before any rule defers. -/
def Refused (policy : MerchantPolicySnapshot) (e : PolicyEvaluationInput) (c : CandidateAction) : Prop :=
  Disallowed policy c ∨ Exhausted policy e c ∨ Unreachable policy e c

def Waiting (e : PolicyEvaluationInput) (c : CandidateAction) : Prop :=
  c.channel.isSome = true ∧ e.customerIdentityResolved = true ∧ e.customerContactInProgress = true

def Unsettled (e : PolicyEvaluationInput) (c : CandidateAction) : Prop :=
  e.unknownEquivalentAction = true ∧ guardedClass c.actionType.actionClass = true

def Promised (e : PolicyEvaluationInput) (c : CandidateAction) : Prop :=
  e.activePromiseToPay = true ∧ c.actionType ≠ .schedulePromiseReminder ∧ guardedClass c.actionType.actionClass = true

def Affected (e : PolicyEvaluationInput) (c : CandidateAction) : Prop :=
  ∃ i ∈ e.incidents, i.applies c e.evaluatedAt = true

def Unsure (policy : MerchantPolicySnapshot) (e : PolicyEvaluationInput) (c : CandidateAction) : Prop :=
  c.actionType = .deferRetry ∧ e.confidenceBasisPoints < policy.minimumConfidenceBasisPoints
    ∧ approvalMatches policy e c = false

def Delayed (e : PolicyEvaluationInput) : Prop := ∃ wake ∈ e.diagnosisDeferUntil, e.evaluatedAt < wake

def Night (zone : Zone) (policy : MerchantPolicySnapshot) (e : PolicyEvaluationInput) (c : CandidateAction) : Prop :=
  c.actionType.actionClass = .customerContact ∧ inQuietHours zone policy e.evaluatedAt = true

def Worthless (policy : MerchantPolicySnapshot) (c : CandidateAction) : Prop :=
  c.actionType.actionClass ∉ expectedValueExemptClasses
    ∧ c.expectedNetRecoveryMinor < policy.minimumExpectedNetRecoveryMinor

/-- `needs_review`. -/
def NeedsReview (policy : MerchantPolicySnapshot) (e : PolicyEvaluationInput) (c : CandidateAction) : Prop :=
  c.actionType.actionClass ∉ expectedValueExemptClasses ∧ (policy.humanReviewAmountMinor ≤ e.amountMinor
    ∨ e.confidenceBasisPoints < policy.minimumConfidenceBasisPoints)

/-- Past every rule up to the contact already in progress. -/
structure Approachable (policy : MerchantPolicySnapshot) (e : PolicyEvaluationInput) (c : CandidateAction) : Prop where
  notRefused : ¬ Refused policy e c
  notEscalation : c.actionType ≠ .escalateHuman

/-- Past every rule before the promise to pay. -/
structure Admissible (policy : MerchantPolicySnapshot) (e : PolicyEvaluationInput) (c : CandidateAction) : Prop extends
    Approachable policy e c where
  free : ¬ Waiting e c
  settled : ¬ Unsettled e c

/-- Past every rule before the confidence of a retry. -/
structure Clear (policy : MerchantPolicySnapshot) (e : PolicyEvaluationInput) (c : CandidateAction) : Prop extends
    Admissible policy e c where
  unpromised : ¬ Promised e c
  unaffected : ¬ Affected e c

/-- Past every rule before quiet hours. -/
structure Timely (policy : MerchantPolicySnapshot) (e : PolicyEvaluationInput) (c : CandidateAction) : Prop extends
    Clear policy e c where
  sure : ¬ Unsure policy e c
  undelayed : ¬ Delayed e

/-- Past every rule that defers. -/
structure Unheld (zone : Zone) (policy : MerchantPolicySnapshot) (e : PolicyEvaluationInput) (c : CandidateAction) :
    Prop extends Timely policy e c where
  awake : ¬ Night zone policy e c

def defaultWake (policy : MerchantPolicySnapshot) (e : PolicyEvaluationInput) : Instant :=
  e.evaluatedAt + seconds policy.defaultDeferSeconds

def lowConfidenceWake (policy : MerchantPolicySnapshot) (e : PolicyEvaluationInput) : Instant :=
  match e.diagnosisDeferUntil with
  | some wake => if wake ≤ e.evaluatedAt then defaultWake policy e else wake
  | none => defaultWake policy e

/-- The rule that decides a candidate, with everything the candidate has passed. -/
inductive Ruled (zone : Zone) (policy : MerchantPolicySnapshot) (e : PolicyEvaluationInput) (c : CandidateAction) :
    PolicyResult × PolicyReason × Option Instant → Prop
  | refused {reason} (rule : Refused policy e c) (ordinary : reason ≠ .activeIncident) :
      Ruled zone policy e c (.skip, reason, none)
  | escalated (rule : c.actionType = .escalateHuman) :
      Ruled zone policy e c (.requireHuman, .agentEscalationRequested, none)
  | waiting (past : Approachable policy e c) (rule : Waiting e c) :
      Ruled zone policy e c (.defer, .customerContactAlreadyInProgress, some (defaultWake policy e))
  | unsettled (past : Approachable policy e c) (free : ¬ Waiting e c) (rule : Unsettled e c) :
      Ruled zone policy e c (.defer, .equivalentActionOutcomeUnknown, some (defaultWake policy e))
  | promised (past : Admissible policy e c) (rule : Promised e c) :
      Ruled zone policy e c (.defer, .activePromiseToPay, e.promiseDueAt)
  | affected {wake} (past : Admissible policy e c) (unpromised : ¬ Promised e c) (rule : Affected e c)
      (ends : earliestEnd (e.incidents.filter fun i => i.applies c e.evaluatedAt) = some wake) :
      Ruled zone policy e c (.defer, .activeIncident, some wake)
  | unsure (past : Clear policy e c) (rule : Unsure policy e c) :
      Ruled zone policy e c (.defer, .lowConfidenceRetryDeferred, some (lowConfidenceWake policy e))
  | delayed (past : Clear policy e c) (sure : ¬ Unsure policy e c) (rule : Delayed e) :
      Ruled zone policy e c (.defer, .diagnosisDelay, e.diagnosisDeferUntil)
  | night (past : Timely policy e c) (rule : Night zone policy e c) :
      Ruled zone policy e c (.defer, .quietHours, some (quietHoursEnd zone policy e.evaluatedAt))
  | worthless (past : Unheld zone policy e c) (rule : Worthless policy c) :
      Ruled zone policy e c (.skip, .expectedValueBelowMinimum, none)
  | unreviewed (past : Unheld zone policy e c) (worth : ¬ Worthless policy c) (rule : NeedsReview policy e c)
      (unapproved : approvalMatches policy e c = false) :
      Ruled zone policy e c (.requireHuman, .humanReviewRequired, none)
  | authorized (past : Unheld zone policy e c) (worth : ¬ Worthless policy c)
      (reviewed : NeedsReview policy e c → approvalMatches policy e c = true) :
      Ruled zone policy e c (.proceed, .policyAuthorized, none)

theorem contacts_channel (h : c.channel.isSome = true) : c.actionType.actionClass = .customerContact :=
  c.channel_iff.mp h

theorem refused_notEscalation (h : Refused policy e c) : c.actionType ≠ .escalateHuman := by
  intro escalates
  rcases h with disallowed | exhausted | ⟨channel, named, -⟩
  · apply disallowed.2
    simp [escalates, ActionType.actionClass, alwaysAllowedClasses]
  · have isRetry := exhausted.1
    rw [escalates] at isRetry
    cases isRetry
  · have contacts := contacts_channel (c := c) (by simp [Option.mem_def.mp named])
    rw [escalates] at contacts
    cases contacts

theorem contactRule_ruled {v : PolicyResult × PolicyReason × Option Instant} (h : contactRule policy e c = some v) :
    (∃ reason, v = (.skip, reason, none) ∧ Unreachable policy e c ∧ reason ≠ .activeIncident)
      ∨ (v = (.defer, .customerContactAlreadyInProgress, some (defaultWake policy e)) ∧ Waiting e c
          ∧ ¬ Unreachable policy e c) := by
  unfold contactRule at h
  split at h
  · cases h
  rename_i channel named
  split at h
  · rename_i unidentified
    cases h
    exact .inl ⟨_, rfl, ⟨channel, named, .inl (by simpa using unidentified)⟩, by simp⟩
  rename_i identified
  split at h
  · rename_i busy
    cases h
    refine .inr ⟨rfl, ⟨by simp [named], by simpa using identified, busy⟩, ?_⟩
    rintro ⟨_, -, unidentified | ⟨idle, -⟩⟩
    · simp [unidentified] at identified
    · simp [busy] at idle
  rename_i idle
  have idle : e.customerContactInProgress = false := by simpa using idle
  split at h
  · rename_i reached
    cases h
    exact .inl ⟨_, rfl, ⟨channel, named, .inr ⟨idle, .inl reached⟩⟩, by simp⟩
  split at h
  · rename_i opted
    cases h
    exact .inl ⟨_, rfl, ⟨channel, named, .inr ⟨idle, .inr (.inl opted)⟩⟩, by simp⟩
  split at h
  · rename_i denied
    cases h
    exact .inl ⟨_, rfl, ⟨channel, named, .inr ⟨idle, .inr (.inr denied)⟩⟩, by simp⟩
  · cases h

theorem contactRule_passed (h : contactRule policy e c = none) : ¬ Unreachable policy e c ∧ ¬ Waiting e c := by
  unfold contactRule at h
  split at h
  · rename_i unnamed
    constructor
    · rintro ⟨channel, named, -⟩
      rw [unnamed] at named
      cases named
    · rintro ⟨named, -⟩
      simp [unnamed] at named
  rename_i channel named
  repeat' split at h
  all_goals try cases h
  rename_i identified idle below reachable granted
  constructor
  · rintro ⟨other, same, unidentified | ⟨-, reached | opted | denied⟩⟩
    all_goals obtain rfl : channel = other := by simpa [named] using same
    · simp [unidentified] at identified
    · exact below reached
    · exact reachable opted
    · exact granted denied
  · rintro ⟨-, -, busy⟩
    exact idle busy

theorem earliestEnd_none {is : List IncidentConstraint} (h : earliestEnd is = none) : is = [] := by
  cases is with
  | nil => rfl
  | cons i rest =>
    unfold earliestEnd at h
    split at h <;> cases h

theorem earliestEnd_some {is : List IncidentConstraint} {wake : Instant} (h : earliestEnd is = some wake) : is ≠ [] := by
  rintro rfl
  cases h

theorem evaluateCandidate_ruled (zone : Zone) (policy : MerchantPolicySnapshot) (e : PolicyEvaluationInput)
    (c : CandidateAction) : Ruled zone policy e c (evaluateCandidate zone policy e c) := by
  unfold evaluateCandidate
  dsimp only
  refine iteInduction (motive := Ruled zone policy e c) (fun disallowed => .refused (.inl disallowed) (by simp)) ?_
  intro allowed
  refine iteInduction (motive := Ruled zone policy e c) (fun escalates => .escalated escalates) ?_
  intro notEscalation
  refine iteInduction (motive := Ruled zone policy e c)
    (fun exhausted => .refused (.inr (.inl exhausted)) (by simp)) ?_
  intro retries
  have approachable (reachable : ¬ Unreachable policy e c) : Approachable policy e c := by
    refine ⟨?_, notEscalation⟩
    rintro (disallowed | exhausted | unreachable)
    · exact allowed disallowed
    · exact retries exhausted
    · exact reachable unreachable
  cases contact : contactRule policy e c with
  | some verdict =>
    rcases contactRule_ruled contact with ⟨reason, rfl, unreachable, ordinary⟩ | ⟨rfl, waiting, reachable⟩
    · exact .refused (.inr (.inr unreachable)) ordinary
    · exact .waiting (approachable reachable) waiting
  | none =>
  obtain ⟨reachable, free⟩ := contactRule_passed contact
  refine iteInduction (motive := Ruled zone policy e c)
    (fun unsettled => .unsettled (approachable reachable) free unsettled) ?_
  intro settled
  have admissible : Admissible policy e c := ⟨approachable reachable, free, settled⟩
  refine iteInduction (motive := Ruled zone policy e c) (fun promised => .promised admissible promised) ?_
  intro unpromised
  cases ends : earliestEnd (e.incidents.filter fun i => i.applies c e.evaluatedAt) with
  | some wake =>
    obtain ⟨i, member⟩ := List.exists_mem_of_ne_nil _ (earliestEnd_some ends)
    exact .affected admissible unpromised ⟨i, List.mem_filter.mp member⟩ ends
  | none =>
  have unaffected : ¬ Affected e c := by
    rintro ⟨i, member, applies⟩
    have kept : i ∈ e.incidents.filter fun i => i.applies c e.evaluatedAt := List.mem_filter.mpr ⟨member, applies⟩
    rw [earliestEnd_none ends] at kept
    cases kept
  have clear : Clear policy e c := ⟨admissible, unpromised, unaffected⟩
  refine iteInduction (motive := Ruled zone policy e c) (fun unsure => ?_) ?_
  · have ruled : Ruled zone policy e c (.defer, .lowConfidenceRetryDeferred, some (lowConfidenceWake policy e)) :=
      .unsure clear (by simpa [Unsure] using unsure)
    convert ruled using 3
    unfold lowConfidenceWake defaultWake
    cases e.diagnosisDeferUntil with
    | none => rfl
    | some wake => by_cases past : wake ≤ e.evaluatedAt <;> simp [past]
  intro sure
  have sure : ¬ Unsure policy e c := by simpa [Unsure] using sure
  refine iteInduction (motive := Ruled zone policy e c) (fun delayed => .delayed clear sure delayed) ?_
  intro undelayed
  have timely : Timely policy e c := ⟨clear, sure, undelayed⟩
  refine iteInduction (motive := Ruled zone policy e c) (fun night => .night timely night) ?_
  intro awake
  refine iteInduction (motive := Ruled zone policy e c) (fun worthless => .worthless ⟨timely, awake⟩ worthless) ?_
  intro worth
  refine iteInduction (motive := Ruled zone policy e c) (fun unreviewed => ?_) fun reviewed => ?_
  · exact .unreviewed ⟨timely, awake⟩ worth unreviewed.1 (by simpa using unreviewed.2)
  · refine .authorized ⟨timely, awake⟩ worth fun needed => ?_
    by_contra unapproved
    exact reviewed ⟨needed, unapproved⟩

theorem Ruled.skip_iff {v : PolicyResult × PolicyReason × Option Instant} (h : Ruled zone policy e c v) :
    v.1 = .skip ↔ Refused policy e c ∨ (Unheld zone policy e c ∧ Worthless policy c) := by
  constructor
  · intro skips
    cases h with
    | refused rule => exact .inl rule
    | worthless past rule => exact .inr ⟨past, rule⟩
    | _ => simp at skips
  · rintro (refused | ⟨past, worthless⟩)
    · cases h with
      | refused => rfl
      | worthless => rfl
      | escalated rule => exact absurd rule (refused_notEscalation refused)
      | waiting past | unsettled past => exact absurd refused past.notRefused
      | promised past | affected past | unsure past | delayed past => exact absurd refused past.notRefused
      | night past => exact absurd refused past.notRefused
      | unreviewed past | authorized past => exact absurd refused past.notRefused
    · cases h with
      | refused => rfl
      | worthless => rfl
      | escalated rule => exact absurd rule past.notEscalation
      | waiting _ rule => exact absurd rule past.free
      | unsettled _ _ rule => exact absurd rule past.settled
      | promised _ rule => exact absurd rule past.unpromised
      | affected _ _ rule => exact absurd rule past.unaffected
      | unsure _ rule => exact absurd rule past.sure
      | delayed _ _ rule => exact absurd rule past.undelayed
      | night _ rule => exact absurd rule past.awake
      | unreviewed _ worth | authorized _ worth => exact absurd worthless worth

theorem Ruled.promised_eq {v : PolicyResult × PolicyReason × Option Instant} (h : Ruled zone policy e c v)
    (past : Admissible policy e c) (promised : Promised e c) : v = (.defer, .activePromiseToPay, e.promiseDueAt) := by
  cases h with
  | promised => rfl
  | refused rule => exact absurd rule past.notRefused
  | escalated rule => exact absurd rule past.notEscalation
  | waiting _ rule => exact absurd rule past.free
  | unsettled _ _ rule => exact absurd rule past.settled
  | affected _ unpromised => exact absurd promised unpromised
  | unsure clear | delayed clear => exact absurd promised clear.unpromised
  | night timely => exact absurd promised timely.unpromised
  | worthless unheld | unreviewed unheld | authorized unheld => exact absurd promised unheld.unpromised

theorem Ruled.night_eq {v : PolicyResult × PolicyReason × Option Instant} (h : Ruled zone policy e c v)
    (past : Timely policy e c) (night : Night zone policy e c) :
    v = (.defer, .quietHours, some (quietHoursEnd zone policy e.evaluatedAt)) := by
  cases h with
  | night => rfl
  | refused rule => exact absurd rule past.notRefused
  | escalated rule => exact absurd rule past.notEscalation
  | waiting _ rule => exact absurd rule past.free
  | unsettled _ _ rule => exact absurd rule past.settled
  | promised _ rule => exact absurd rule past.unpromised
  | affected _ _ rule => exact absurd rule past.unaffected
  | unsure _ rule => exact absurd rule past.sure
  | delayed _ _ rule => exact absurd rule past.undelayed
  | worthless unheld | unreviewed unheld | authorized unheld => exact absurd night unheld.awake

end RevenueGuard
