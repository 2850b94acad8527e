import RevenueGuard.Safety.Proceeds

/-
Which candidate decides. The walk stops at the first candidate that is
`NO_ACTION` or is not skipped, and what it reports is what a receipt and the
case state machine accept.
-/
namespace RevenueGuard

variable {zone : Zone} {policy : MerchantPolicySnapshot} {e : PolicyEvaluationInput} {c : CandidateAction}

section occurrences

variable {A : Type} [DecidableEq A] {a : A} {values kept : List A}

/-- The values of a list once each, in the order they first occur in it. -/
structure FirstOccurrences (values kept : List A) : Prop where
  member : ∀ a, a ∈ kept ↔ a ∈ values
  ordered : kept.Pairwise fun a b => values.idxOf a < values.idxOf b

theorem FirstOccurrences.nodup (h : FirstOccurrences values kept) : kept.Nodup := by
  refine h.ordered.imp fun {a b} before same => ?_
  subst same
  omega

theorem unique_occurrences (values : List A) : FirstOccurrences values (unique values) := by
  induction values with
  | nil => exact ⟨by simp [unique], .nil⟩
  | cons a rest ih =>
    refine ⟨fun b => mem_unique, ?_⟩
    simp only [unique, List.pairwise_cons, List.mem_filter, decide_eq_true_eq]
    constructor
    · rintro b ⟨-, other⟩
      rw [List.idxOf_cons_self, List.idxOf_cons_ne _ (Ne.symm other)]
      omega
    · refine List.Pairwise.imp_of_mem ?_ (ih.ordered.filter _)
      intro b d hb hd before
      simp only [List.mem_filter, decide_eq_true_eq] at hb hd
      rw [List.idxOf_cons_ne _ (Ne.symm hb.2), List.idxOf_cons_ne _ (Ne.symm hd.2)]
      omega

end occurrences

def capital (c : Char) : Bool := decide ('A' ≤ c ∧ c ≤ 'Z')

/-- `REASON_PATTERN`: a capital, then capitals, digits and underscores. -/
def machineReadable (code : String) : Bool :=
  match code.toList with
  | [] => false
  | first :: rest => capital first && rest.all fun c => capital c || c.isDigit || c == '_'

theorem code_machineReadable (r : PolicyReason) : machineReadable r.code = true := by
  cases r <;> simp [PolicyReason.code, machineReadable, capital]

theorem code_injective : Function.Injective PolicyReason.code := by
  intro r s same
  cases r <;> cases s <;> first | rfl | simp [PolicyReason.code] at same

/-- What the walk makes of one candidate. -/
def verdictOn (zone : Zone) (policy : MerchantPolicySnapshot) (e : PolicyEvaluationInput) (c : CandidateAction) :
    PolicyResult × PolicyReason × Option Instant :=
  if c.actionType = .noAction then (.skip, .noEligibleAction, none) else evaluateCandidate zone policy e c

def Decides (zone : Zone) (policy : MerchantPolicySnapshot) (e : PolicyEvaluationInput) (c : CandidateAction) : Prop :=
  c.actionType = .noAction ∨ (evaluateCandidate zone policy e c).1 ≠ .skip

def reasonsOf (zone : Zone) (policy : MerchantPolicySnapshot) (e : PolicyEvaluationInput)
    (cs : List CandidateAction) : List PolicyReason := cs.map fun c => (verdictOn zone policy e c).2.1

/-- The decision on a candidate after the ones that were skipped. -/
def decisionOn (zone : Zone) (policy : MerchantPolicySnapshot) (e : PolicyEvaluationInput)
    (passed : List CandidateAction) (c : CandidateAction) : PolicyDecision :=
  { selectedAction := c
    result := (verdictOn zone policy e c).1
    reasonCodes := unique (reasonsOf zone policy e passed ++ [(verdictOn zone policy e c).2.1])
    resultingState := stateFor (verdictOn zone policy e c).1
    nextEvaluationAt := (verdictOn zone policy e c).2.2
    evaluatedCandidates := passed ++ [c]
    reasons_ne := unique_ne_nil _ _ }

@[simp] theorem decisionOn_result (passed : List CandidateAction) (c : CandidateAction) :
    (decisionOn zone policy e passed c).result = (verdictOn zone policy e c).1 := rfl

@[simp] theorem decisionOn_nextEvaluationAt (passed : List CandidateAction) (c : CandidateAction) :
    (decisionOn zone policy e passed c).nextEvaluationAt = (verdictOn zone policy e c).2.2 := rfl

theorem reasonsOf_concat (passed : List CandidateAction) (c : CandidateAction) :
    reasonsOf zone policy e (passed ++ [c]) = reasonsOf zone policy e passed ++ [(verdictOn zone policy e c).2.1] := by
  simp [reasonsOf]

theorem selectCandidate_skipped {skipped : List PolicyReason} {evaluated rest : List CandidateAction}
    (passes : ¬ Decides zone policy e c) :
    selectCandidate zone policy e skipped evaluated (c :: rest) =
      selectCandidate zone policy e (skipped ++ [(verdictOn zone policy e c).2.1]) (evaluated ++ [c]) rest := by
  unfold Decides at passes
  push Not at passes
  obtain ⟨ordinary, skips⟩ := passes
  simp only [selectCandidate, verdictOn, if_neg ordinary]
  split
  · rename_i verdict
    rw [verdict]
  · rename_i other verdict
    rw [verdict] at skips
    exact absurd skips other

theorem selectCandidate_decided {passed rest : List CandidateAction} (decides : Decides zone policy e c) :
    selectCandidate zone policy e (reasonsOf zone policy e passed) passed (c :: rest) =
      .ok (decisionOn zone policy e passed c) := by
  unfold selectCandidate
  by_cases idle : c.actionType = .noAction
  · simp [idle, decisionOn, verdictOn, stateFor]
  · have decides := decides.resolve_left idle
    rw [if_neg idle]
    split
    · rename_i verdict
      rw [verdict] at decides
      exact absurd rfl decides
    · rename_i verdict
      simp [decisionOn, verdictOn, idle, verdict]

/-- The walk goes over every candidate that does not decide and settles on the first that does. -/
theorem selectCandidate_split {more rest : List CandidateAction} (passed : List CandidateAction)
    (skipped : ∀ b ∈ more, ¬ Decides zone policy e b) (decides : Decides zone policy e c) :
    selectCandidate zone policy e (reasonsOf zone policy e passed) passed (more ++ c :: rest) =
      .ok (decisionOn zone policy e (passed ++ more) c) := by
  induction more generalizing passed with
  | nil => simpa using selectCandidate_decided decides
  | cons b more ih =>
    have walked := ih (passed ++ [b]) fun d member => skipped d (List.mem_cons_of_mem _ member)
    rw [List.cons_append, selectCandidate_skipped (skipped b List.mem_cons_self), ← reasonsOf_concat, walked]
    simp

theorem first_decides (cs : List CandidateAction) (closed : ∃ c ∈ cs, c.actionType = .noAction) :
    ∃ more c rest, cs = more ++ c :: rest ∧ (∀ b ∈ more, ¬ Decides zone policy e b) ∧ Decides zone policy e c := by
  induction cs with
  | nil =>
    obtain ⟨c, member, -⟩ := closed
    cases member
  | cons c rest ih =>
    by_cases decides : Decides zone policy e c
    · exact ⟨[], c, rest, rfl, by simp, decides⟩
    · have later : ∃ b ∈ rest, b.actionType = .noAction := by
        obtain ⟨b, member, idle⟩ := closed
        rcases List.mem_cons.mp member with first | later
        · subst first
          exact absurd (.inl idle) decides
        · exact ⟨b, later, idle⟩
      obtain ⟨more, b, last, split, skipped, decided⟩ := ih later
      refine ⟨c :: more, b, last, by simp [split], ?_, decided⟩
      intro d member
      rcases List.mem_cons.mp member with first | inside
      · subst first
        exact decides
      · exact skipped d inside

theorem candidates_sorted (cs : CandidateList) : cs.items.Pairwise fun a b => a.rank < b.rank := by
  have ranks : (cs.items.map (·.rank)).Pairwise (· < ·) := by
    rw [cs.ranked]
    exact List.pairwise_lt_range'
  exact List.pairwise_map.mp ranks

theorem Ruled.wake_iff {v : PolicyResult × PolicyReason × Option Instant} (h : Ruled zone policy e c v) :
    v.2.2.isSome = true ↔ v.1 = .defer := by
  cases h with
  | promised _ rule => simp [e.promise_due rule.1]
  | delayed _ _ rule =>
    obtain ⟨wake, named, -⟩ := rule
    simp [Option.mem_def.mp named]
  | _ => simp

theorem verdictOn_wake (zone : Zone) (policy : MerchantPolicySnapshot) (e : PolicyEvaluationInput)
    (c : CandidateAction) : (verdictOn zone policy e c).2.2.isSome = true ↔ (verdictOn zone policy e c).1 = .defer := by
  unfold verdictOn
  split
  · simp
  · exact (evaluateCandidate_ruled zone policy e c).wake_iff

theorem stateFor_legal (r : PolicyResult) : canTransition .policyCheck (stateFor r) = true := by
  cases r <;> rfl

/-- What `DecisionReceipt` asks of the reason codes. -/
def ReceiptReasons (codes : List String) : Prop :=
  codes ≠ [] ∧ (∀ code ∈ codes, machineReadable code = true) ∧ codes.Nodup

theorem unique_receiptReasons (reasons : List PolicyReason) (last : PolicyReason) :
    ReceiptReasons ((unique (reasons ++ [last])).map (·.code)) := by
  refine ⟨?_, ?_, ?_⟩
  · simpa using unique_ne_nil reasons last
  · intro code member
    obtain ⟨r, -, named⟩ := List.mem_map.mp member
    rw [← named]
    exact code_machineReadable r
  · exact (unique_occurrences _).nodup.map code_injective

/-- The first candidate by rank that decides, and the decision on it. -/
structure Selects (zone : Zone) (policy : MerchantPolicySnapshot) (e : PolicyEvaluationInput) (d : PolicyDecision)
    (passed rest : List CandidateAction) : Prop where
  candidates : e.candidates.items = passed ++ d.selectedAction :: rest
  skipped : ∀ b ∈ passed, b.rank < d.selectedAction.rank ∧ ¬ Decides zone policy e b
  later : ∀ b ∈ rest, d.selectedAction.rank < b.rank
  decides : Decides zone policy e d.selectedAction
  result : d.result = (verdictOn zone policy e d.selectedAction).1
  evaluated : d.evaluatedCandidates = passed ++ [d.selectedAction]
  reasons : FirstOccurrences
    (reasonsOf zone policy e passed ++ [(verdictOn zone policy e d.selectedAction).2.1]) d.reasonCodes
  receipt : ReceiptReasons (d.reasonCodes.map (·.code))
  wakeAt : d.nextEvaluationAt = (verdictOn zone policy e d.selectedAction).2.2
  wake : d.nextEvaluationAt.isSome = true ↔ d.result = .defer
  legal : canTransition .policyCheck d.resultingState = true

theorem evaluatePolicy_selects (effective : policy.effectiveAt ≤ e.evaluatedAt)
    (currencies : policy.currency = e.currency) (open_ : globalStopReason e = none) :
    ∃ d passed rest, evaluatePolicy zone policy e = .ok d ∧ Selects zone policy e d passed rest := by
  have closed : ∃ c ∈ e.candidates.items, c.actionType = .noAction := by
    obtain ⟨c, last, idle⟩ := e.candidates.closed
    exact ⟨c, List.mem_of_getLast? last, idle⟩
  obtain ⟨passed, c, rest, split, skipped, decides⟩ := first_decides _ closed
  have sorted := candidates_sorted e.candidates
  rw [split, List.pairwise_append] at sorted
  obtain ⟨-, tail, before⟩ := sorted
  refine ⟨decisionOn zone policy e passed c, passed, rest, ?_, ?_⟩
  · rw [evaluatePolicy_open effective currencies (globalStopReason_none open_), split]
    exact selectCandidate_split [] skipped decides
  · constructor
    · exact split
    · intro b member
      exact ⟨before b member c List.mem_cons_self, skipped b member⟩
    · intro b member
      exact (List.pairwise_cons.mp tail).1 b member
    · exact decides
    · rfl
    · rfl
    · exact unique_occurrences _
    · exact unique_receiptReasons _ _
    · rfl
    · exact verdictOn_wake zone policy e c
    · exact stateFor_legal _

theorem evaluatePolicy_selects_reminder : ∃ d passed rest, evaluatePolicy utcZone anyAction (atNoon reminderBySms rfl) = .ok d
    ∧ Selects utcZone anyAction (atNoon reminderBySms rfl) d passed rest :=
  evaluatePolicy_selects (by decide) rfl rfl

end RevenueGuard
