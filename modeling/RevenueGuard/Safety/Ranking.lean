import RevenueGuard.Safety.Evaluations
import Mathlib.Data.Rat.Floor
import Mathlib.Data.String.Basic
import Mathlib.Tactic.Linarith
import Mathlib.Tactic.Positivity

/-
Portfolio ranking against its purpose. Rounding keeps a probability between none
and certain, so every candidate can be scored; the exempt candidates keep their
places and the scored ones take the others from the best down.
-/
namespace RevenueGuard

section rounding

variable {q : Rat}

theorem scale_pos (q : Rat) : (0 : Rat) < (10 : Rat) ^ (39 - decimalExponent q) := zpow_pos (by norm_num) _

theorem roundContext_le {n : Int} (h : q * (10 : Rat) ^ (39 - decimalExponent q) ≤ n) :
    roundContext q ≤ n / (10 : Rat) ^ (39 - decimalExponent q) := by
  unfold roundContext
  dsimp only
  generalize q * (10 : Rat) ^ (39 - decimalExponent q) = x at h ⊢
  apply div_le_div_of_nonneg_right _ (scale_pos q).le
  have below : (⌊x⌋ : Rat) ≤ x := Int.floor_le x
  split
  · exact below.trans h
  · rename_i above
    -- what is rounded up lies strictly above its floor
    have rest : 1 / 2 ≤ x - ⌊x⌋ := by
      by_contra small
      exact above (.inl (not_le.mp small))
    have strict : (⌊x⌋ : Rat) < n := by linarith
    exact_mod_cast strict

theorem le_roundContext {n : Int} (h : n ≤ q * (10 : Rat) ^ (39 - decimalExponent q)) :
    n / (10 : Rat) ^ (39 - decimalExponent q) ≤ roundContext q := by
  unfold roundContext
  dsimp only
  generalize q * (10 : Rat) ^ (39 - decimalExponent q) = x at h ⊢
  apply div_le_div_of_nonneg_right _ (scale_pos q).le
  have floor : n ≤ ⌊x⌋ := Int.le_floor.mpr h
  split
  · exact_mod_cast floor
  · have above : n ≤ ⌊x⌋ + 1 := by omega
    exact_mod_cast above

/-- Forty significant digits hold the leading digit of what is at least one. -/
theorem one_le_roundContext (h : 1 ≤ q) : 1 ≤ roundContext q := by
  have whole : 1 ≤ ⌊q⌋ := Int.le_floor.mpr (by exact_mod_cast h)
  have exponent : decimalExponent q = Nat.log 10 ⌊q⌋.toNat := by rw [decimalExponent, if_pos h]
  have leading : (10 : Rat) ^ Nat.log 10 ⌊q⌋.toNat ≤ q := by
    have power : 10 ^ Nat.log 10 ⌊q⌋.toNat ≤ ⌊q⌋.toNat := Nat.pow_log_le_self 10 (by omega)
    have digits : ((10 : Int) ^ Nat.log 10 ⌊q⌋.toNat) ≤ ⌊q⌋ := by
      have lifted : ((10 ^ Nat.log 10 ⌊q⌋.toNat : Nat) : Int) ≤ (⌊q⌋.toNat : Int) := by exact_mod_cast power
      rw [Int.toNat_of_nonneg (by omega)] at lifted
      exact_mod_cast lifted
    calc (10 : Rat) ^ Nat.log 10 ⌊q⌋.toNat = (((10 : Int) ^ Nat.log 10 ⌊q⌋.toNat : Int) : Rat) := by push_cast; rfl
      _ ≤ (⌊q⌋ : Rat) := by exact_mod_cast digits
      _ ≤ q := Int.floor_le q
  have full : ((10 ^ 39 : Int) : Rat) ≤ q * (10 : Rat) ^ (39 - decimalExponent q) := by
    rw [exponent, zpow_sub₀ (by norm_num), zpow_natCast]
    have positive : (0 : Rat) < (10 : Rat) ^ Nat.log 10 ⌊q⌋.toNat := by positivity
    rw [mul_div_assoc', le_div_iff₀ positive]
    push_cast
    have scaled := mul_le_mul_of_nonneg_right leading (show (0 : Rat) ≤ (10 : Rat) ^ (39 : Int) by positivity)
    rw [mul_comm]
    exact_mod_cast scaled
  refine le_trans ?_ (le_roundContext full)
  rw [one_le_div (scale_pos q)]
  calc (10 : Rat) ^ (39 - decimalExponent q) ≤ (10 : Rat) ^ (39 : Int) :=
        zpow_le_zpow_right₀ (by norm_num) (by rw [exponent]; omega)
    _ = ((10 ^ 39 : Int) : Rat) := by norm_num

theorem roundContext_nonneg (h : 0 ≤ q) : 0 ≤ roundContext q := by
  have rounded := @le_roundContext q 0 (by have := scale_pos q; push_cast; positivity)
  rwa [Int.cast_zero, zero_div] at rounded

theorem decimalExponent_nonpos (h : q ≤ 1) : decimalExponent q ≤ 0 := by
  unfold decimalExponent
  split
  · rename_i above
    have one : q = 1 := le_antisymm h above
    subst one
    norm_num
  · omega

theorem roundContext_le_one (h : q ≤ 1) : roundContext q ≤ 1 := by
  have exponent := decimalExponent_nonpos h
  obtain ⟨n, places⟩ := Int.eq_ofNat_of_zero_le (show 0 ≤ 39 - decimalExponent q by omega)
  have whole : (10 : Rat) ^ (39 - decimalExponent q) = ((10 ^ n : Int) : Rat) := by
    rw [places]
    push_cast
    exact zpow_natCast 10 n
  have scaled : q * (10 : Rat) ^ (39 - decimalExponent q) ≤ ((10 ^ n : Int) : Rat) := by
    rw [← whole]
    exact mul_le_of_le_one_left (scale_pos q).le h
  have rounded := roundContext_le scaled
  rwa [← whole, div_self (scale_pos q).ne'] at rounded

end rounding

section scores

variable {exp : Int → Rat} (artifact : LogisticScoringArtifact) (economics : ActionEconomics)
  (context : RecoveryScoringContext)

theorem probabilityBasisPoints_range (positive : ∀ x, 0 < exp x) (actionType : ActionType) :
    0 ≤ probabilityBasisPoints exp artifact actionType context ∧
      probabilityBasisPoints exp artifact actionType context ≤ 10000 := by
  unfold probabilityBasisPoints
  dsimp only
  generalize max (-20000) (min 20000 _) = millilogits
  have odds : 1 ≤ roundContext (1 + exp (-millilogits)) :=
    one_le_roundContext (by have := positive (-millilogits); linarith)
  have share : 0 ≤ 1 / roundContext (1 + exp (-millilogits)) ∧ 1 / roundContext (1 + exp (-millilogits)) ≤ 1 :=
    ⟨by positivity, (div_le_one (by linarith)).mpr odds⟩
  have lower := roundContext_nonneg share.1
  have upper := roundContext_le_one share.2
  unfold roundHalfUp
  constructor
  · exact Int.le_floor.mpr (by push_cast; linarith)
  · have below : ⌊roundContext (1 / roundContext (1 + exp (-millilogits))) * 10000 + 1 / 2⌋ < 10001 :=
      Int.floor_lt.mpr (by push_cast; linarith)
    omega

/-- What scoring makes of a candidate: the model's probability, the floor of its share of the
amount less the three costs, and nothing else changed. -/
structure Scored (exp : Int → Rat) (artifact : LogisticScoringArtifact) (economics : ActionEconomics)
    (context : RecoveryScoringContext) (candidate scored : CandidateAction) : Prop where
  probability : (scored.recoveryProbabilityBasisPoints : Int) =
    probabilityBasisPoints exp artifact candidate.actionType context
  net : scored.expectedNetRecoveryMinor = (scored.recoveryProbabilityBasisPoints : Int) * context.amountMinor / 10000
    - scored.actionCostMinor - scored.riskPenaltyMinor - scored.customerFrictionPenaltyMinor
  actionCost : scored.actionCostMinor = economics.actionCostMinor candidate.actionType
  riskPenalty : scored.riskPenaltyMinor = economics.riskPenaltyMinor candidate.actionType
  frictionPenalty : scored.customerFrictionPenaltyMinor = economics.customerFrictionPenaltyMinor candidate.actionType
  actionType : scored.actionType = candidate.actionType
  target : scored.target = candidate.target
  attempt : scored.logicalAttempt = candidate.logicalAttempt
  channel : scored.channel = candidate.channel

theorem scoredCandidate_total (positive : ∀ x, 0 < exp x) (c : CandidateAction) :
    ∃ scored, scoredCandidate exp artifact economics context c = .ok scored ∧
      Scored exp artifact economics context c scored := by
  have range := probabilityBasisPoints_range artifact context positive c.actionType
  unfold scoredCandidate
  dsimp only
  rw [dif_pos range]
  have kept : ((probabilityBasisPoints exp artifact c.actionType context).toNat : Int) =
      probabilityBasisPoints exp artifact c.actionType context := Int.toNat_of_nonneg range.1
  refine ⟨_, rfl, ?_⟩
  constructor
  · exact kept
  · simp only [kept]
  all_goals rfl

variable {artifact economics context}

theorem Scored.net_le {c scored : CandidateAction} (h : Scored exp artifact economics context c scored) :
    scored.expectedNetRecoveryMinor ≤ context.amountMinor := by
  have share : (scored.recoveryProbabilityBasisPoints : Int) * context.amountMinor / 10000 ≤ context.amountMinor := by
    apply Int.ediv_le_of_le_mul (by decide)
    have certain : (scored.recoveryProbabilityBasisPoints : Int) ≤ 10000 := by exact_mod_cast scored.probability_le
    calc (scored.recoveryProbabilityBasisPoints : Int) * context.amountMinor ≤ 10000 * context.amountMinor :=
          Int.mul_le_mul_of_nonneg_right certain (by omega)
      _ = context.amountMinor * 10000 := Int.mul_comm _ _
  have net := h.net
  omega

/-- The numbers of a scored candidate. -/
structure Valued (context : RecoveryScoringContext) (d : CandidateAction) : Prop where
  probability : d.recoveryProbabilityBasisPoints ≤ 10000
  net : d.expectedNetRecoveryMinor = (d.recoveryProbabilityBasisPoints : Int) * context.amountMinor / 10000
    - d.actionCostMinor - d.riskPenaltyMinor - d.customerFrictionPenaltyMinor
  bound : d.expectedNetRecoveryMinor ≤ context.amountMinor

theorem Scored.valued {c scored : CandidateAction} (h : Scored exp artifact economics context c scored) :
    Valued context scored :=
  ⟨scored.probability_le, h.net, h.net_le⟩

end scores

section order

theorem ActionType.value_injective : ∀ {a b : ActionType}, a.value = b.value → a = b := by
  intro a b same
  cases a <;> cases b <;> first | rfl | exact absurd same (by decide)

/-- The sort key, compared first by net value, then by probability, then by name. -/
theorem scoreBefore_iff {a b : CandidateAction} : scoreBefore a b = true ↔
    b.expectedNetRecoveryMinor < a.expectedNetRecoveryMinor ∨
    b.expectedNetRecoveryMinor = a.expectedNetRecoveryMinor ∧
      (b.recoveryProbabilityBasisPoints < a.recoveryProbabilityBasisPoints ∨
      b.recoveryProbabilityBasisPoints = a.recoveryProbabilityBasisPoints ∧ a.actionType.value ≤ b.actionType.value) := by
  unfold scoreBefore
  by_cases net : a.expectedNetRecoveryMinor = b.expectedNetRecoveryMinor
  · rw [if_neg (not_not.mpr net)]
    by_cases probability : a.recoveryProbabilityBasisPoints = b.recoveryProbabilityBasisPoints
    · rw [if_neg (not_not.mpr probability)]
      simp [net, probability]
    · rw [if_pos probability]
      simp [net, Ne.symm probability]
  · rw [if_pos net]
    simp [Ne.symm net]

instance : Std.Total fun a b : CandidateAction => scoreBefore a b = true where
  total a b := by
    rw [scoreBefore_iff, scoreBefore_iff]
    have names := le_total a.actionType.value b.actionType.value
    grind

instance : IsTrans CandidateAction fun a b => scoreBefore a b = true where
  trans a b c first second := by
    rw [scoreBefore_iff] at first second ⊢
    have names : a.actionType.value ≤ b.actionType.value → b.actionType.value ≤ c.actionType.value →
        a.actionType.value ≤ c.actionType.value := le_trans
    grind

theorem scoreBefore_antisymm {a b : CandidateAction} (ab : scoreBefore a b = true) (ba : scoreBefore b a = true) :
    a.actionType = b.actionType := by
  rw [scoreBefore_iff] at ab ba
  apply ActionType.value_injective
  have names : a.actionType.value ≤ b.actionType.value ∧ b.actionType.value ≤ a.actionType.value := by grind
  exact le_antisymm names.1 names.2

end order

section merge

/-- The scored list holds one candidate for every place that is not exempt. -/
structure Fills (cs scored : List CandidateAction) : Prop where
  count : scored.length = (cs.filter fun c => !c.isExempt).length
  unexempt : ∀ c ∈ scored, c.isExempt = false

variable {cs scored : List CandidateAction}

theorem Fills.keep {c : CandidateAction} (exempt : c.isExempt = true) (h : Fills (c :: cs) scored) : Fills cs scored := by
  constructor
  · simpa [exempt] using h.count
  · exact h.unexempt

theorem Fills.take {c : CandidateAction} (place : c.isExempt = false) (h : Fills (c :: cs) scored) :
    ∃ best others, scored = best :: others ∧ best.isExempt = false ∧ Fills cs others := by
  have count := h.count
  simp only [List.filter_cons, place, Bool.not_false, if_true, List.length_cons] at count
  cases scored with
  | nil => cases count
  | cons best others =>
    refine ⟨best, others, rfl, h.unexempt best List.mem_cons_self, ?_⟩
    constructor
    · simpa using count
    · exact fun d hd => h.unexempt d (List.mem_cons_of_mem _ hd)

/-- Every candidate not exempt finds the iterator's next one, and the iterator ends with the places. -/
theorem mergeScored_unexempt (h : Fills cs scored) : (mergeScored cs scored).filter (fun c => !c.isExempt) = scored := by
  induction cs generalizing scored with
  | nil => exact (List.length_eq_zero_iff.mp h.count).symm
  | cons c rest ih =>
    unfold mergeScored
    cases place : c.isExempt with
    | true => simp [place, ih (h.keep place)]
    | false =>
      obtain ⟨best, others, rfl, unexempt, tail⟩ := h.take place
      simp [unexempt, ih tail]

theorem mergeScored_exempt (h : Fills cs scored) :
    (mergeScored cs scored).filter (·.isExempt) = cs.filter (·.isExempt) := by
  induction cs generalizing scored with
  | nil => rfl
  | cons c rest ih =>
    unfold mergeScored
    cases place : c.isExempt with
    | true => simp [place, ih (h.keep place)]
    | false =>
      obtain ⟨best, others, rfl, unexempt, tail⟩ := h.take place
      simp [place, unexempt, ih tail]

/-- An exempt candidate stands where it stood; any other place holds a scored one. -/
theorem mergeScored_places (h : Fills cs scored) :
    List.Forall₂ (fun c d => if c.isExempt then d = c else d.isExempt = false) cs (mergeScored cs scored) := by
  induction cs generalizing scored with
  | nil => exact .nil
  | cons c rest ih =>
    unfold mergeScored
    cases place : c.isExempt with
    | true => exact .cons (by simp [place]) (ih (h.keep place))
    | false =>
      obtain ⟨best, others, rfl, unexempt, tail⟩ := h.take place
      exact .cons (by simp [place, unexempt]) (ih tail)

end merge

section numbering

/-- A candidate whatever its rank. -/
def CandidateAction.unranked (c : CandidateAction) : CandidateAction := c.withRank 1 (Nat.le_refl 1)

@[simp] theorem CandidateAction.unranked_withRank (c : CandidateAction) (n : Nat) (pos : 1 ≤ n) :
    (c.withRank n pos).unranked = c.unranked := rfl

@[simp] theorem CandidateAction.unranked_unranked (c : CandidateAction) : c.unranked.unranked = c.unranked := rfl

@[simp] theorem CandidateAction.unranked_isExempt (c : CandidateAction) : c.unranked.isExempt = c.isExempt := rfl

@[simp] theorem CandidateAction.unranked_actionType (c : CandidateAction) : c.unranked.actionType = c.actionType := rfl

theorem valued_unranked {context : RecoveryScoringContext} {c : CandidateAction} :
    Valued context c.unranked ↔ Valued context c :=
  ⟨fun h => ⟨h.probability, h.net, h.bound⟩, fun h => ⟨h.probability, h.net, h.bound⟩⟩

@[simp] theorem scoreBefore_unranked (a b : CandidateAction) : scoreBefore a.unranked b.unranked = scoreBefore a b := rfl

theorem renumber_append (n : Nat) (as bs : List CandidateAction) :
    renumber n (as ++ bs) = renumber n as ++ renumber (n + as.length) bs := by
  induction as generalizing n with
  | nil => rfl
  | cons a rest ih =>
    simp only [List.cons_append, renumber, ih, List.length_cons]
    rw [show n + 1 + rest.length = n + (rest.length + 1) by omega]

theorem renumber_unranked (n : Nat) (cs : List CandidateAction) :
    (renumber n cs).map (·.unranked) = cs.map (·.unranked) := by
  induction cs generalizing n with
  | nil => rfl
  | cons c rest ih => simp [renumber, ih]

/-- New numbers forget the old. -/
theorem renumber_of_unranked {as bs : List CandidateAction} (same : as.map (·.unranked) = bs.map (·.unranked)) (n : Nat) :
    renumber n as = renumber n bs := by
  have forget : ∀ (n : Nat) (cs : List CandidateAction), renumber n (cs.map (·.unranked)) = renumber n cs := by
    intro n cs
    induction cs generalizing n with
    | nil => rfl
    | cons c rest ih =>
      simp only [List.map_cons, renumber, ih]
      rfl
  rw [← forget n as, same, forget n bs]

theorem filter_unranked (cs : List CandidateAction) (keep : Bool → Bool) :
    (cs.map (·.unranked)).filter (fun c => keep c.isExempt) = (cs.filter fun c => keep c.isExempt).map (·.unranked) := by
  rw [List.filter_map]
  rfl

/-- The same place in two lists: an exempt candidate, or any two that are not. -/
def SamePlace (c d : CandidateAction) : Prop := if c.isExempt then d.unranked = c.unranked else d.isExempt = false

/-- Two merges with the same exempt places and the same scored candidates agree up to rank. -/
theorem mergeScored_same {cs cs' : List CandidateAction} (places : List.Forall₂ SamePlace cs cs') :
    ∀ {scored scored' : List CandidateAction}, scored.map (·.unranked) = scored'.map (·.unranked) →
      (mergeScored cs scored).map (·.unranked) = (mergeScored cs' scored').map (·.unranked) := by
  induction places with
  | nil => exact fun _ => rfl
  | @cons c d rest rest' place tail ih =>
    intro scored scored' same
    unfold mergeScored
    unfold SamePlace at place
    cases exempt : c.isExempt with
    | true =>
      rw [if_pos exempt] at place
      have exempt' : d.isExempt = true := by rw [← d.unranked_isExempt, place]; exact exempt
      simp [exempt', place, ih same]
    | false =>
      rw [if_neg (by simp [exempt])] at place
      simp only [place, Bool.false_eq_true, if_false]
      cases scored with
      | nil =>
        cases scored' with
        | nil => exact ih rfl
        | cons _ _ => cases same
      | cons best others =>
        cases scored' with
        | nil => cases same
        | cons best' others' =>
          simp only [List.map_cons, List.cons.injEq] at same ⊢
          exact ⟨same.1, ih same.2⟩

end numbering

section ranking

variable {exp : Int → Rat} {cs cs' out : List CandidateAction} {context : RecoveryScoringContext}
  {artifact : LogisticScoringArtifact} {economics : ActionEconomics} {allowed : Finset ActionType}

/-- The allowed or always allowed candidates, `NO_ACTION` apart. -/
def eligible (cs : List CandidateAction) (allowed : Finset ActionType) : List CandidateAction :=
  cs.filter fun c => decide (c.actionType ≠ .noAction) &&
    (decide (c.actionType ∈ allowed) || decide (c.actionType.actionClass ∈ alwaysAllowedClasses))

def unexempt (cs : List CandidateAction) : List CandidateAction := cs.filter fun c => !c.isExempt

theorem mapM_scored (positive : ∀ x, 0 < exp x) (artifact : LogisticScoringArtifact) (economics : ActionEconomics)
    (context : RecoveryScoringContext) (cs : List CandidateAction) :
    ∃ scored, cs.mapM (scoredCandidate exp artifact economics context) = .ok scored ∧
      List.Forall₂ (Scored exp artifact economics context) cs scored := by
  induction cs with
  | nil => exact ⟨[], rfl, .nil⟩
  | cons c rest ih =>
    obtain ⟨d, first, scored⟩ := scoredCandidate_total artifact economics context positive c
    obtain ⟨others, tail, all⟩ := ih
    refine ⟨d :: others, ?_, .cons scored all⟩
    rw [List.mapM_cons, first, tail]
    rfl

theorem mapM_map {cs scored : List CandidateAction} (h : cs.mapM (scoredCandidate exp artifact economics context) = .ok scored) :
    cs.map (scoredCandidate exp artifact economics context) = scored.map .ok := by
  induction cs generalizing scored with
  | nil => cases h; rfl
  | cons c rest ih =>
    rw [List.mapM_cons] at h
    obtain ⟨d, first, h⟩ := except_bind_ok h
    obtain ⟨others, tail, h⟩ := except_bind_ok h
    cases h
    rw [List.map_cons, List.map_cons, first, ih tail]

/-- The output: the merged candidates renumbered, and a `NO_ACTION` of no value. -/
structure RankedFrom (exp : Int → Rat) (cs : List CandidateAction) (context : RecoveryScoringContext)
    (artifact : LogisticScoringArtifact) (economics : ActionEconomics) (allowed : Finset ActionType)
    (scored kept : List CandidateAction) (last : CandidateAction) : Prop where
  scores : (unexempt (eligible cs allowed)).mapM (scoredCandidate exp artifact economics context) = .ok scored
  kept : kept = renumber 0 (mergeScored (eligible cs allowed) (scored.insertionSort fun a b => scoreBefore a b))
  last : ∃ final n, ∃ pos : 1 ≤ n, lastNoAction cs = some final ∧
    last = (noActionCandidate final.target final.rank final.rank_pos final.logicalAttempt final.attempt_pos).withRank n pos

theorem lastNoAction_of (closed : ∃ c, cs.getLast? = some c ∧ c.actionType = .noAction) :
    lastNoAction cs = cs.getLast? := by
  obtain ⟨c, found, none⟩ := closed
  obtain ⟨front, rfl⟩ := List.getLast?_eq_some_iff.mp found
  simp [lastNoAction, none]

theorem rankCandidates_run (positive : ∀ x, 0 < exp x) (context : RecoveryScoringContext)
    (artifact : LogisticScoringArtifact) (economics : ActionEconomics) (allowed : Finset ActionType)
    (closed : ∃ c, cs.getLast? = some c ∧ c.actionType = .noAction) :
    ∃ scored kept last, rankCandidatesByExpectedNetRecovery exp cs context artifact economics allowed = .ok (kept ++ [last]) ∧
      RankedFrom exp cs context artifact economics allowed scored kept last := by
  obtain ⟨scored, scores, -⟩ := mapM_scored positive artifact economics context (unexempt (eligible cs allowed))
  obtain ⟨final, found, none⟩ := closed
  have named : lastNoAction cs = some final := (lastNoAction_of ⟨final, found, none⟩).trans found
  refine ⟨scored, _, (noActionCandidate final.target final.rank final.rank_pos final.logicalAttempt final.attempt_pos).withRank
    (0 + (mergeScored (eligible cs allowed) (scored.insertionSort fun a b => scoreBefore a b)).length + 1)
    (Nat.le_add_left 1 _), ?_, scores, rfl, final, _, _, named, rfl⟩
  unfold rankCandidatesByExpectedNetRecovery require
  rw [if_pos ⟨final, found, none⟩]
  change ((unexempt (eligible cs allowed)).mapM (scoredCandidate exp artifact economics context) >>= fun scored => _) = _
  rw [scores, named]
  change Except.ok (renumber 0 _) = _
  rw [renumber_append]
  rfl

theorem forall₂_mem_right {A B : Type} {R : A → B → Prop} {as : List A} {bs : List B} (h : List.Forall₂ R as bs) :
    ∀ b ∈ bs, ∃ a ∈ as, R a b := by
  induction h with
  | nil => intro b hb; cases hb
  | @cons a b as bs first rest ih =>
    intro d hd
    rcases List.mem_cons.mp hd with rfl | hd
    · exact ⟨a, List.mem_cons_self, first⟩
    · obtain ⟨c, hc, related⟩ := ih d hd
      exact ⟨c, List.mem_cons_of_mem _ hc, related⟩

theorem RankedFrom.fills {scored kept : List CandidateAction} {last : CandidateAction}
    (positive : ∀ x, 0 < exp x) (h : RankedFrom exp cs context artifact economics allowed scored kept last) :
    List.Forall₂ (Scored exp artifact economics context) (unexempt (eligible cs allowed)) scored ∧
      Fills (eligible cs allowed) (scored.insertionSort fun a b => scoreBefore a b) := by
  obtain ⟨scored', scores, all⟩ := mapM_scored positive artifact economics context (unexempt (eligible cs allowed))
  obtain rfl : scored = scored' := Except.ok.inj (h.scores.symm.trans scores)
  refine ⟨all, ?_⟩
  constructor
  · rw [List.length_insertionSort]
    exact all.length_eq.symm
  · intro d hd
    obtain ⟨c, hc, found⟩ := forall₂_mem_right all d ((List.mem_insertionSort _).mp hd)
    have place := (List.mem_filter.mp hc).2
    unfold CandidateAction.isExempt at place ⊢
    rw [found.actionType]
    simpa using place

/-- What an action offers, whatever its score and rank. -/
def CandidateAction.offer (c : CandidateAction) : ActionType × Identifier × Nat × Option ContactChannel :=
  (c.actionType, c.target, c.logicalAttempt, c.channel)

@[simp] theorem CandidateAction.unranked_offer (c : CandidateAction) : c.unranked.offer = c.offer := rfl

/-- What the ranked candidates `kept ++ [last]` are for the candidates ranked. -/
structure Ranking (exp : Int → Rat) (cs : List CandidateAction) (context : RecoveryScoringContext)
    (artifact : LogisticScoringArtifact) (economics : ActionEconomics) (allowed : Finset ActionType)
    (kept : List CandidateAction) (last : CandidateAction) : Prop where
  accepted : ∃ list, candidateList (kept ++ [last]) = .ok list
  ranks : (kept ++ [last]).map (·.rank) = List.range' 1 (kept.length + 1)
  noAction : last.actionType = .noAction ∧ last.recoveryProbabilityBasisPoints = 0 ∧ last.expectedNetRecoveryMinor = 0
  rearranged : (kept.map (·.offer)).Perm ((eligible cs allowed).map (·.offer))
  places : List.Forall₂ SamePlace (eligible cs allowed) kept
  scored : ∃ scored, List.Forall₂ (Scored exp artifact economics context) (unexempt (eligible cs allowed)) scored ∧
    ((unexempt kept).map (·.unranked)).Perm (scored.map (·.unranked))
  ordered : (unexempt kept).Pairwise fun a b => scoreBefore a b = true
  valued : ∀ d ∈ unexempt kept, Valued context d

variable {scored kept scored' kept' : List CandidateAction} {last last' : CandidateAction}

/-- Up to rank the places not exempt hold the sorted scores. -/
theorem RankedFrom.unexempt_kept (positive : ∀ x, 0 < exp x)
    (h : RankedFrom exp cs context artifact economics allowed scored kept last) :
    (unexempt kept).map (·.unranked) = (scored.insertionSort fun a b => scoreBefore a b).map (·.unranked) := by
  obtain ⟨-, fills⟩ := h.fills positive
  unfold unexempt
  rw [← filter_unranked, h.kept, renumber_unranked, filter_unranked, mergeScored_unexempt fills]

theorem RankedFrom.exempt_kept (positive : ∀ x, 0 < exp x)
    (h : RankedFrom exp cs context artifact economics allowed scored kept last) :
    (kept.filter (·.isExempt)).map (·.unranked) = ((eligible cs allowed).filter (·.isExempt)).map (·.unranked) := by
  obtain ⟨-, fills⟩ := h.fills positive
  rw [← filter_unranked kept fun b => b, h.kept, renumber_unranked, filter_unranked _ fun b => b, mergeScored_exempt fills]

theorem pairwise_unranked {cs : List CandidateAction} :
    (cs.map (·.unranked)).Pairwise (fun a b => scoreBefore a b = true) ↔ cs.Pairwise fun a b => scoreBefore a b = true := by
  rw [List.pairwise_map]
  rfl

theorem RankedFrom.ordered (positive : ∀ x, 0 < exp x)
    (h : RankedFrom exp cs context artifact economics allowed scored kept last) :
    (unexempt kept).Pairwise fun a b => scoreBefore a b = true := by
  rw [← pairwise_unranked, h.unexempt_kept positive, pairwise_unranked]
  exact List.pairwise_insertionSort _ _

theorem scored_offers (all : List.Forall₂ (Scored exp artifact economics context) cs scored) :
    scored.map (·.offer) = cs.map (·.offer) := by
  induction all with
  | nil => rfl
  | cons first _ ih =>
    rw [List.map_cons, List.map_cons, ih]
    simp only [CandidateAction.offer, first.actionType, first.target, first.attempt, first.channel]

theorem RankedFrom.rearranged (positive : ∀ x, 0 < exp x)
    (h : RankedFrom exp cs context artifact economics allowed scored kept last) :
    (kept.map (·.offer)).Perm ((eligible cs allowed).map (·.offer)) := by
  have split : ∀ cs : List CandidateAction, (cs.map (·.offer)).Perm
      (((cs.filter (·.isExempt)).map (·.unranked)).map (·.offer) ++ ((unexempt cs).map (·.unranked)).map (·.offer)) := by
    intro cs
    simp only [List.map_map, Function.comp_def, CandidateAction.unranked_offer, ← List.map_append]
    exact ((List.filter_append_perm (·.isExempt) cs).map _).symm
  obtain ⟨all, -⟩ := h.fills positive
  refine (split kept).trans (.trans ?_ (split (eligible cs allowed)).symm)
  rw [h.exempt_kept positive, h.unexempt_kept positive]
  apply List.Perm.append_left
  simp only [List.map_map, Function.comp_def, CandidateAction.unranked_offer]
  rw [← scored_offers all]
  exact (List.perm_insertionSort _ _).map _

theorem RankedFrom.places (positive : ∀ x, 0 < exp x)
    (h : RankedFrom exp cs context artifact economics allowed scored kept last) :
    List.Forall₂ SamePlace (eligible cs allowed) kept := by
  obtain ⟨-, fills⟩ := h.fills positive
  have renumbered : ∀ {as bs : List CandidateAction} (n : Nat),
      List.Forall₂ (fun c d => if c.isExempt then d = c else d.isExempt = false) as bs →
      List.Forall₂ SamePlace as (renumber n bs) := by
    intro as bs n places
    induction places generalizing n with
    | nil => exact .nil
    | @cons c d rest rest' place _ ih =>
      refine .cons ?_ (ih (n + 1))
      unfold SamePlace
      split at place
      · rename_i exempt
        rw [if_pos exempt, place]
        rfl
      · rename_i exempt
        rw [if_neg exempt]
        exact place
  rw [h.kept]
  exact renumbered 0 (mergeScored_places fills)

theorem RankedFrom.ranking (positive : ∀ x, 0 < exp x)
    (ran : rankCandidatesByExpectedNetRecovery exp cs context artifact economics allowed = .ok (kept ++ [last]))
    (h : RankedFrom exp cs context artifact economics allowed scored kept last) :
    Ranking exp cs context artifact economics allowed kept last := by
  have listed := rankCandidates_listed ran
  obtain ⟨all, -⟩ := h.fills positive
  constructor
  · exact candidateList_of listed
  · simpa using listed.ranked
  · obtain ⟨final, n, pos, -, rfl⟩ := h.last
    exact ⟨rfl, rfl, rfl⟩
  · exact h.rearranged positive
  · exact h.places positive
  · refine ⟨scored, all, ?_⟩
    rw [h.unexempt_kept positive]
    exact (List.perm_insertionSort _ _).map _
  · exact h.ordered positive
  · intro d hd
    -- up to rank `d` is a scored candidate, and the values do not read the rank
    have member : d.unranked ∈ (unexempt kept).map (·.unranked) := List.mem_map_of_mem hd
    rw [h.unexempt_kept positive] at member
    obtain ⟨e, he, same⟩ := List.mem_map.mp member
    obtain ⟨c, -, found⟩ := forall₂_mem_right all e ((List.mem_insertionSort _).mp he)
    exact valued_unranked.mp (same ▸ valued_unranked.mpr found.valued)

/-- Scoring a candidate does not read its rank. -/
theorem scoredCandidate_unranked (c : CandidateAction) : scoredCandidate exp artifact economics context c.unranked =
    (scoredCandidate exp artifact economics context c).map (·.unranked) := by
  unfold scoredCandidate
  dsimp only
  by_cases range : 0 ≤ probabilityBasisPoints exp artifact c.actionType context ∧
      probabilityBasisPoints exp artifact c.actionType context ≤ 10000
  · have range' : 0 ≤ probabilityBasisPoints exp artifact c.unranked.actionType context ∧
        probabilityBasisPoints exp artifact c.unranked.actionType context ≤ 10000 := range
    rw [dif_pos range, dif_pos range']
    rfl
  · have range' : ¬ (0 ≤ probabilityBasisPoints exp artifact c.unranked.actionType context ∧
        probabilityBasisPoints exp artifact c.unranked.actionType context ≤ 10000) := range
    rw [dif_neg range, dif_neg range']
    rfl

theorem scores_unranked (h : cs.mapM (scoredCandidate exp artifact economics context) = .ok scored) :
    (cs.map (·.unranked)).map (scoredCandidate exp artifact economics context) = (scored.map (·.unranked)).map .ok := by
  have scores := congrArg (List.map (Except.map (·.unranked))) (mapM_map h)
  simp only [List.map_map, Function.comp_def, scoredCandidate_unranked] at scores ⊢
  exact scores

theorem scores_types (h : cs.mapM (scoredCandidate exp artifact economics context) = .ok scored) :
    scored.map (·.actionType) = cs.map (·.actionType) := by
  induction cs generalizing scored with
  | nil => cases h; rfl
  | cons c rest ih =>
    rw [List.mapM_cons] at h
    obtain ⟨d, first, h⟩ := except_bind_ok h
    obtain ⟨others, tail, h⟩ := except_bind_ok h
    cases h
    rw [List.map_cons, List.map_cons, scoredCandidate_type first, ih tail]

/-- Candidates of distinct types come out in one order, whatever the order they came in. -/
theorem sorted_scores (h : cs.mapM (scoredCandidate exp artifact economics context) = .ok scored)
    (h' : cs'.mapM (scoredCandidate exp artifact economics context) = .ok scored')
    (permuted : (cs.map (·.unranked)).Perm (cs'.map (·.unranked))) (distinct : (cs.map (·.actionType)).Nodup) :
    (scored.insertionSort fun a b => scoreBefore a b).map (·.unranked) =
      (scored'.insertionSort fun a b => scoreBefore a b).map (·.unranked) := by
  have scores : (scored.map (·.unranked)).Perm (scored'.map (·.unranked)) := by
    have both := permuted.map (scoredCandidate exp artifact economics context)
    rw [scores_unranked h, scores_unranked h'] at both
    exact (List.map_perm_map_iff fun _ _ => Except.ok.inj).mp both
  have sorted : ∀ ds : List CandidateAction,
      ((ds.insertionSort fun a b => scoreBefore a b).map (·.unranked)).Perm (ds.map (·.unranked)) :=
    fun ds => (List.perm_insertionSort _ ds).map _
  have types : ((scored.map (·.unranked)).map (·.actionType)).Nodup := by
    rw [List.map_map]
    exact (scores_types h).symm ▸ distinct
  refine @List.Perm.eq_of_pairwise _ (fun a b => scoreBefore a b = true) _ _ ?_
    (pairwise_unranked.mpr (List.pairwise_insertionSort _ _)) (pairwise_unranked.mpr (List.pairwise_insertionSort _ _))
    ((sorted scored).trans (scores.trans (sorted scored').symm))
  intro a b ha hb ab ba
  have member : ∀ {d}, d ∈ (scored.insertionSort fun a b => scoreBefore a b).map (·.unranked) →
      d ∈ scored.map (·.unranked) := fun hd => (sorted scored).subset hd
  have hb' : b ∈ scored.map (·.unranked) := scores.symm.subset ((sorted scored').subset hb)
  exact List.inj_on_of_nodup_map types (member ha) hb' (scoreBefore_antisymm ab ba)

theorem rankCandidates_from (positive : ∀ x, 0 < exp x)
    (h : rankCandidatesByExpectedNetRecovery exp cs context artifact economics allowed = .ok (kept ++ [last])) :
    ∃ scored, RankedFrom exp cs context artifact economics allowed scored kept last := by
  have closed : ∃ c, cs.getLast? = some c ∧ c.actionType = .noAction := by
    obtain ⟨_, closed, -⟩ := except_bind_ok h
    exact require_ok closed
  obtain ⟨scored, kept', last', ran, form⟩ := rankCandidates_run positive context artifact economics allowed closed
  obtain ⟨rfl, same⟩ := List.append_inj' (Except.ok.inj (h.symm.trans ran)) rfl
  obtain rfl : last = last' := List.head_eq_of_cons_eq same
  exact ⟨scored, form⟩

/-- Ranking succeeds on every closed list and its output is what `Ranking` says; two lists whose scored
candidates are the same up to order and rank come out with the same scores in the same order. -/
theorem rankCandidates_ranking (positive : ∀ x, 0 < exp x) (context : RecoveryScoringContext)
    (artifact : LogisticScoringArtifact) (economics : ActionEconomics) (allowed : Finset ActionType) :
    (∀ cs : List CandidateAction, (∃ c, cs.getLast? = some c ∧ c.actionType = .noAction) →
      ∃ kept last, rankCandidatesByExpectedNetRecovery exp cs context artifact economics allowed = .ok (kept ++ [last]) ∧
        Ranking exp cs context artifact economics allowed kept last) ∧
    ∀ (cs cs' kept kept' : List CandidateAction) (last last' : CandidateAction),
      rankCandidatesByExpectedNetRecovery exp cs context artifact economics allowed = .ok (kept ++ [last]) →
      rankCandidatesByExpectedNetRecovery exp cs' context artifact economics allowed = .ok (kept' ++ [last']) →
      ((unexempt (eligible cs allowed)).map (·.actionType)).Nodup →
      ((unexempt (eligible cs allowed)).map (·.unranked)).Perm ((unexempt (eligible cs' allowed)).map (·.unranked)) →
      (unexempt kept).map (·.unranked) = (unexempt kept').map (·.unranked) ∧
        (List.Forall₂ SamePlace (eligible cs allowed) (eligible cs' allowed) → kept = kept') := by
  constructor
  · intro cs closed
    obtain ⟨scored, kept, last, ran, form⟩ := rankCandidates_run positive context artifact economics allowed closed
    exact ⟨kept, last, ran, form.ranking positive ran⟩
  · intro cs cs' kept kept' last last' ran ran' distinct permuted
    obtain ⟨scored, form⟩ := rankCandidates_from positive ran
    obtain ⟨scored', form'⟩ := rankCandidates_from positive ran'
    have sorted := sorted_scores form.scores form'.scores permuted distinct
    constructor
    · rw [form.unexempt_kept positive, form'.unexempt_kept positive, sorted]
    · intro places
      rw [form.kept, form'.kept]
      exact renumber_of_unranked (mergeScored_same places sorted) 0

end ranking

section example_run

def linkOffer : CandidateAction :=
  { actionType := .createPaymentLink, recoveryProbabilityBasisPoints := 0, expectedNetRecoveryMinor := 0
    rank := 1, target := ident "order_1"
    probability_le := none_le, rank_pos := first_pos, attempt_pos := first_pos, channel_iff := link_silent }

def retryOffer : CandidateAction :=
  { actionType := .deferRetry, recoveryProbabilityBasisPoints := 0, expectedNetRecoveryMinor := 0
    rank := 1, target := ident "payment_1"
    probability_le := none_le, rank_pos := first_pos, attempt_pos := first_pos, channel_iff := retry_silent }

def nothingOffer : CandidateAction := noActionCandidate (ident "payment_1") 1 first_pos

def failedPayment : RecoveryScoringContext :=
  { amountMinor := 49900, retryCount := 1, aggregateContactCount := 0, diagnosisConfidenceBasisPoints := 9000
    failureCategory := ident "INSUFFICIENT_FUNDS", activeSystemicIncident := false, evaluatedAt := 0 }

/-- Without weights every logit is zero, where the exponential is one. -/
def evenOdds : LogisticScoringArtifact :=
  { syntheticDefaultScoringArtifact with
    interceptMillilogits := 0
    featureWeightsMillilogits := fun _ => 0
    actionBiasMillilogits := fun _ => 0
    failureCategoryBiasMillilogits := fun _ => 0 }

/-- A retry and a payment link around an escalation, in either order. -/
theorem rankCandidates_ranking_swapped :
    (∃ kept last last', rankCandidatesByExpectedNetRecovery (fun _ => 1)
        [linkOffer, stopCandidate (ident "payment_1"), retryOffer, nothingOffer] failedPayment
        evenOdds defaultActionEconomics {.deferRetry, .createPaymentLink} = .ok (kept ++ [last]) ∧
      Ranking (fun _ => 1) [linkOffer, stopCandidate (ident "payment_1"), retryOffer, nothingOffer] failedPayment
        evenOdds defaultActionEconomics {.deferRetry, .createPaymentLink} kept last ∧
      rankCandidatesByExpectedNetRecovery (fun _ => 1)
        [retryOffer, stopCandidate (ident "payment_1"), linkOffer, nothingOffer] failedPayment
        evenOdds defaultActionEconomics {.deferRetry, .createPaymentLink} =
          .ok (kept ++ [last'])) := by
  obtain ⟨succeeds, agree⟩ := @rankCandidates_ranking (fun _ => 1) (fun _ => by decide) failedPayment
    evenOdds defaultActionEconomics {.deferRetry, .createPaymentLink}
  obtain ⟨kept, last, ran, ranking⟩ := succeeds [linkOffer, stopCandidate (ident "payment_1"), retryOffer, nothingOffer]
    ⟨nothingOffer, rfl, rfl⟩
  obtain ⟨kept', last', ran', -⟩ := succeeds [retryOffer, stopCandidate (ident "payment_1"), linkOffer, nothingOffer]
    ⟨nothingOffer, rfl, rfl⟩
  obtain ⟨-, same⟩ := agree _ _ _ _ _ _ ran ran' (by decide) (by decide)
  have places : List.Forall₂ SamePlace
      (eligible [linkOffer, stopCandidate (ident "payment_1"), retryOffer, nothingOffer] {.deferRetry, .createPaymentLink})
      (eligible [retryOffer, stopCandidate (ident "payment_1"), linkOffer, nothingOffer] {.deferRetry, .createPaymentLink}) :=
    .cons rfl (.cons rfl (.cons rfl .nil))
  obtain rfl := same places
  exact ⟨kept, last, last', ran, ranking, ran'⟩

end example_run

end RevenueGuard
