import RevenueGuard.Safety.QuietHours
import RevenueGuard.Safety.Selection

/-
When a deferred candidate wakes. Every rule looks ahead except two: a promise is
given back with the due date it has, and the end of quiet hours is read off a
clock that may have been set back.
-/
namespace RevenueGuard

variable {zone : Zone} {policy : MerchantPolicySnapshot} {e : PolicyEvaluationInput} {c : CandidateAction}

/-- Held for a promise that is already due. -/
def HeldByDuePromise (policy : MerchantPolicySnapshot) (e : PolicyEvaluationInput) (c : CandidateAction) : Prop :=
  Admissible policy e c ∧ Promised e c ∧ ∃ due ∈ e.promiseDueAt, due ≤ e.evaluatedAt

/-- Held for quiet hours whose end the clock has shown before, or will not show again. -/
def HeldBySetBack (zone : Zone) (policy : MerchantPolicySnapshot) (e : PolicyEvaluationInput) (c : CandidateAction) :
    Prop :=
  Timely policy e c ∧ Night zone policy e c ∧ TurnedBack zone policy e.evaluatedAt

def Skipped (zone : Zone) (policy : MerchantPolicySnapshot) (e : PolicyEvaluationInput) (c : CandidateAction) : Prop :=
  c.actionType ≠ .noAction ∧ (Refused policy e c ∨ (Unheld zone policy e c ∧ Worthless policy c))

/-- The evaluation comes to a candidate that is held with nothing ahead of it to wait for. -/
structure Spins (zone : Zone) (policy : MerchantPolicySnapshot) (e : PolicyEvaluationInput) : Prop where
  effective : policy.effectiveAt ≤ e.evaluatedAt
  currencies : policy.currency = e.currency
  live : e.terminal = false ∧ e.alreadyPaid = false ∧ e.disputed = false ∧ e.cancelled = false
  comes : ∃ passed c rest, e.candidates.items = passed ++ c :: rest ∧ (∀ b ∈ passed, Skipped zone policy e b) ∧
    c.actionType ≠ .noAction ∧ (HeldByDuePromise policy e c ∨ HeldBySetBack zone policy e c)

def WakesLater (e : PolicyEvaluationInput) (wake : Option Instant) : Prop := ∃ t, wake = some t ∧ e.evaluatedAt < t

theorem skipped_iff : Skipped zone policy e c ↔ ¬ Decides zone policy e c := by
  unfold Skipped Decides
  rw [← (evaluateCandidate_ruled zone policy e c).skip_iff]
  push Not
  rfl

theorem defaultWake_later (policy : MerchantPolicySnapshot) (e : PolicyEvaluationInput) :
    e.evaluatedAt < defaultWake policy e := by
  have positive := policy.defer_pos
  unfold defaultWake seconds
  refine Int.lt_add_of_pos_right _ ?_
  omega

theorem lowConfidenceWake_later (policy : MerchantPolicySnapshot) (e : PolicyEvaluationInput) :
    e.evaluatedAt < lowConfidenceWake policy e := by
  unfold lowConfidenceWake
  cases e.diagnosisDeferUntil with
  | none => exact defaultWake_later policy e
  | some wake =>
    dsimp only
    split
    · exact defaultWake_later policy e
    · rename_i later
      exact not_le.mp later

theorem earliestEnd_mem {is : List IncidentConstraint} {wake : Instant} (h : earliestEnd is = some wake) :
    ∃ i ∈ is, i.endsAt = wake := by
  induction is generalizing wake with
  | nil => cases h
  | cons i rest ih =>
    unfold earliestEnd at h
    split at h
    · rename_i later found
      obtain ⟨j, member, ends⟩ := ih found
      rcases min_choice i.endsAt later with first | second
      · rw [first] at h
        exact ⟨i, List.mem_cons_self, Option.some.inj h⟩
      · rw [second] at h
        exact ⟨j, List.mem_cons_of_mem _ member, ends.trans (Option.some.inj h)⟩
    · exact ⟨i, List.mem_cons_self, Option.some.inj h⟩

theorem applies_window {i : IncidentConstraint} {at_ : Instant} (h : i.applies c at_ = true) : at_ < i.endsAt := by
  unfold IncidentConstraint.applies at h
  split at h
  · cases h
  · rename_i within
    exact (not_not.mp within).2

/-- One verdict: a candidate that is deferred wakes later unless one of the two rules holds it. -/
theorem Ruled.wakesLater_iff {v : PolicyResult × PolicyReason × Option Instant} (h : Ruled zone policy e c v)
    (deferred : v.1 = .defer) :
    WakesLater e v.2.2 ↔ ¬ (HeldByDuePromise policy e c ∨ HeldBySetBack zone policy e c) := by
  constructor
  · rintro ⟨wake, named, later⟩ (⟨past, rule, due, promised, reached⟩ | ⟨past, rule, back⟩)
    · rw [h.promised_eq past rule, promised] at named
      cases named
      exact absurd reached (not_le.mpr later)
    · rw [h.night_eq past rule] at named
      cases named
      exact absurd (turnedBack_iff.mp back) (not_le.mpr later)
  · intro free
    cases h with
    | waiting => exact ⟨_, rfl, defaultWake_later policy e⟩
    | unsettled => exact ⟨_, rfl, defaultWake_later policy e⟩
    | promised past rule =>
      obtain ⟨due, promised⟩ := Option.isSome_iff_exists.mp (e.promise_due rule.1)
      refine ⟨due, promised, ?_⟩
      by_contra reached
      exact free (.inl ⟨past, rule, due, promised, not_lt.mp reached⟩)
    | affected _ _ _ ends =>
      obtain ⟨i, member, rfl⟩ := earliestEnd_mem ends
      have applies : i.applies c e.evaluatedAt = true := (List.mem_filter.mp member).2
      exact ⟨_, rfl, applies_window applies⟩
    | unsure => exact ⟨_, rfl, lowConfidenceWake_later policy e⟩
    | delayed _ _ rule =>
      obtain ⟨wake, named, later⟩ := rule
      exact ⟨wake, named, later⟩
    | night past rule =>
      refine ⟨_, rfl, ?_⟩
      by_contra reached
      exact free (.inr ⟨past, rule, turnedBack_iff.mpr (not_lt.mp reached)⟩)
    | _ => simp at deferred

theorem held_defers (held : HeldByDuePromise policy e c ∨ HeldBySetBack zone policy e c) :
    (evaluateCandidate zone policy e c).1 = .defer := by
  have ruled := evaluateCandidate_ruled zone policy e c
  rcases held with ⟨past, rule, -⟩ | ⟨past, rule, -⟩
  · rw [ruled.promised_eq past rule]
  · rw [ruled.night_eq past rule]

theorem evaluatePolicy_live {d : PolicyDecision} (h : evaluatePolicy zone policy e = .ok d) (deferred : d.result = .defer) :
    policy.effectiveAt ≤ e.evaluatedAt ∧ policy.currency = e.currency ∧ globalStopReason e = none := by
  unfold evaluatePolicy at h
  split at h
  · cases h
  rename_i effective
  split at h
  · cases h
    cases deferred
  rename_i currencies
  split at h
  · cases h
    cases deferred
  · rename_i open_
    exact ⟨not_lt.mp effective, not_not.mp currencies, open_⟩

theorem selects_ordinary {d : PolicyDecision} {passed rest : List CandidateAction} (h : Selects zone policy e d passed rest)
    (deferred : d.result = .defer) : d.selectedAction.actionType ≠ .noAction := by
  intro idle
  have result := h.result
  rw [deferred, verdictOn, if_pos idle] at result
  cases result

theorem defer_wakes_later_iff (zone : Zone) (policy : MerchantPolicySnapshot) (e : PolicyEvaluationInput) :
    (∀ d, evaluatePolicy zone policy e = .ok d → d.result = .defer → WakesLater e d.nextEvaluationAt) ↔
      ¬ Spins zone policy e := by
  constructor
  · rintro wakes ⟨effective, currencies, live, passed, c, rest, split, skipped, ordinary, held⟩
    have defers := held_defers held
    have decides : Decides zone policy e c := .inr (by rw [defers]; simp)
    have decided : evaluatePolicy zone policy e = .ok (decisionOn zone policy e passed c) := by
      rw [evaluatePolicy_open effective currencies live, split]
      exact selectCandidate_split [] (fun b member => skipped_iff.mp (skipped b member)) decides
    have verdict : verdictOn zone policy e c = evaluateCandidate zone policy e c := if_neg ordinary
    have later := wakes _ decided (by rw [decisionOn_result, verdict, defers])
    rw [decisionOn_nextEvaluationAt, verdict] at later
    exact ((evaluateCandidate_ruled zone policy e c).wakesLater_iff defers).mp later held
  · intro free d decided deferred
    obtain ⟨effective, currencies, open_⟩ := evaluatePolicy_live decided deferred
    obtain ⟨d', passed, rest, decided', selects⟩ := evaluatePolicy_selects effective currencies open_
    obtain rfl : d = d' := Except.ok.inj (decided.symm.trans decided')
    have ordinary := selects_ordinary selects deferred
    have verdict : verdictOn zone policy e d.selectedAction = evaluateCandidate zone policy e d.selectedAction :=
      if_neg ordinary
    have result := selects.result
    rw [selects.wakeAt]
    rw [verdict] at result ⊢
    refine ((evaluateCandidate_ruled zone policy e d.selectedAction).wakesLater_iff (result.symm.trans deferred)).mpr ?_
    intro held
    exact free ⟨effective, currencies, globalStopReason_none open_, passed, d.selectedAction, rest, selects.candidates,
      fun b member => skipped_iff.mpr (selects.skipped b member).2, ordinary, held⟩

/-- The customer's promise fell due an hour ago and nobody has looked at it since. -/
def promiseOverdue : PolicyEvaluationInput :=
  { atNoon reminderBySms reminderBySms_first with
    activePromiseToPay := true, promiseDueAt := some 39600000000, promise_due := by decide }

theorem overdue_promise_defers_to_past : ¬ ∀ (zone : Zone) (policy : MerchantPolicySnapshot) (e : PolicyEvaluationInput) d,
    evaluatePolicy zone policy e = .ok d → d.result = .defer → WakesLater e d.nextEvaluationAt := by
  intro wakes
  obtain ⟨wake, named, later⟩ := wakes utcZone anyAction promiseOverdue _ rfl rfl
  cases named
  exact absurd later (by decide)

end RevenueGuard
