import RevenueGuard.Safety.Degradation

/-
How the verdict of an assessment moves with its evidence. More failures in the
current window never lift it; a cleared baseline can, because a rate that falls to
nothing is compared by a ratio of ten, which a policy may ask to exceed.
-/
namespace RevenueGuard

section arithmetic

variable {policy : DegradationPolicy} {bt bf ct cf : Nat}

/-- The verdict on the counts of the two windows. -/
structure Verdict (policy : DegradationPolicy) (bt bf ct cf : Nat) : Prop where
  baselineCount : policy.minimumBaselineCount ≤ bt
  currentCount : policy.minimumCurrentCount ≤ ct
  failureRate : policy.minimumFailureRateBasisPoints ≤ cf * 10000 / ct
  increase : bf * 10000 / bt + policy.minimumRateIncreaseBasisPoints ≤ cf * 10000 / ct
  ratio : policy.minimumRateRatioBasisPoints ≤ failureRatio (cf * 10000 / ct) (bf * 10000 / bt)

theorem degraded_verdict {evaluatedAt : Instant} {key : Dimension} {evidence : Evidence} :
    Degraded policy evaluatedAt key evidence ↔ Verdict policy (baselineTotal policy evaluatedAt key evidence)
      (baselineFailures policy evaluatedAt key evidence) (currentTotal policy evaluatedAt key evidence)
      (currentFailures policy evaluatedAt key evidence) := by
  constructor
  · rintro ⟨a, b, c, d, e⟩
    exact ⟨a, b, c, d, e⟩
  · rintro ⟨a, b, c, d, e⟩
    exact ⟨a, b, c, d, e⟩

/-- A higher current rate has a higher ratio, also against no baseline failures. -/
theorem ratio_mono {rate rate' baseline : Nat} (le : rate ≤ rate') : failureRatio rate baseline ≤ failureRatio rate' baseline := by
  unfold failureRatio
  split
  · split <;> split <;> omega
  · exact Nat.div_le_div_right (Nat.mul_le_mul_right 10000 le)

/-- One more part in one more whole is no lower a rate. -/
theorem rate_succ {part whole : Nat} (le : part ≤ whole) : part * 10000 / whole ≤ (part + 1) * 10000 / (whole + 1) := by
  rcases Nat.eq_zero_or_pos whole with rfl | pos
  · simp
  · rw [Nat.le_div_iff_mul_le (by omega)]
    have floor : part * 10000 / whole * whole ≤ part * 10000 := Nat.div_mul_le_self _ _
    have bound : part * 10000 / whole ≤ 10000 := rate_le le
    rw [Nat.mul_add, Nat.add_mul]
    omega

theorem Verdict.raised {ct' cf' : Nat} (h : Verdict policy bt bf ct cf) (count : ct ≤ ct')
    (rate : cf * 10000 / ct ≤ cf' * 10000 / ct') : Verdict policy bt bf ct' cf' := by
  constructor
  · exact h.baselineCount
  · exact h.currentCount.trans count
  · exact h.failureRate.trans rate
  · exact h.increase.trans rate
  · exact h.ratio.trans (ratio_mono rate)

theorem Verdict.failureAdded (h : Verdict policy bt bf ct cf) (le : cf ≤ ct) : Verdict policy bt bf (ct + 1) (cf + 1) :=
  h.raised (Nat.le_succ ct) (rate_succ le)

theorem Verdict.successFailed (h : Verdict policy bt bf ct cf) : Verdict policy bt bf ct (cf + 1) :=
  h.raised (Nat.le_refl ct) (Nat.div_le_div_right (by omega))

/-- A lower baseline rate has no lower ratio, unless it falls to nothing and more than ten is asked. -/
theorem failureRatio_lowered {asks earlier rate current : Nat} (lower : rate ≤ earlier) (above : earlier ≤ current)
    (asked : asks ≤ failureRatio current earlier) (kept : rate ≠ 0 ∨ asks ≤ 100000) : asks ≤ failureRatio current rate := by
  unfold failureRatio at asked ⊢
  by_cases cleared : rate = 0
  · rw [if_pos cleared]
    have bounded : asks ≤ 100000 := kept.resolve_left (not_not.mpr cleared)
    split
    -- without current failures there was no baseline rate before either
    · rename_i idle
      have nothing : earlier = 0 := by omega
      rw [if_pos nothing, if_pos idle] at asked
      exact asked
    · exact bounded
  · have failing : earlier ≠ 0 := by omega
    rw [if_neg cleared]
    rw [if_neg failing] at asked
    exact asked.trans (Nat.div_le_div_left lower (by omega))

theorem failureRatio_cleared_le {current : Nat} : failureRatio current 0 ≤ 100000 := by
  unfold failureRatio
  rw [if_pos rfl]
  split <;> decide

/-- With one baseline failure less, the verdict stands unless the baseline rate falls to nothing
under a policy that asks for a ratio above ten. -/
theorem Verdict.cleared_iff (h : Verdict policy bt (bf + 1) ct cf) :
    Verdict policy bt bf ct cf ↔ bt ≤ bf * 10000 ∨ policy.minimumRateRatioBasisPoints ≤ 100000 := by
  have positive : 0 < bt := lt_of_lt_of_le policy.counts_pos.1 h.baselineCount
  have lower : bf * 10000 / bt ≤ (bf + 1) * 10000 / bt :=
    Nat.div_le_div_right (Nat.mul_le_mul_right 10000 (Nat.le_succ bf))
  have cleared : bf * 10000 / bt ≠ 0 ↔ bt ≤ bf * 10000 := by
    rw [Ne, Nat.div_eq_zero_iff_lt positive, not_lt]
  rw [← cleared]
  constructor
  · intro after
    by_cases none : bf * 10000 / bt = 0
    · have asked := after.ratio
      rw [none] at asked
      exact .inr (asked.trans failureRatio_cleared_le)
    · exact .inl none
  · intro kept
    constructor
    · exact h.baselineCount
    · exact h.currentCount
    · exact h.failureRate
    · exact (Nat.add_le_add_right lower _).trans h.increase
    · exact failureRatio_lowered lower ((Nat.le_add_right _ _).trans h.increase) h.ratio kept

end arithmetic

section counting

variable {policy : DegradationPolicy} {evaluatedAt : Instant} {key : Dimension} {evidence : Evidence}
  {o : PaymentOutcomeObservation}

/-- What one observation of the dimension adds to the counts of its window. -/
theorem counts_recent (counts : o.Counts policy evaluatedAt key) (recent : o.Recent policy evaluatedAt) :
    baselineTotal policy evaluatedAt key (o ::ₘ evidence) = baselineTotal policy evaluatedAt key evidence ∧
    baselineFailures policy evaluatedAt key (o ::ₘ evidence) = baselineFailures policy evaluatedAt key evidence ∧
    currentTotal policy evaluatedAt key (o ::ₘ evidence) = currentTotal policy evaluatedAt key evidence + 1 ∧
    currentFailures policy evaluatedAt key (o ::ₘ evidence) =
      currentFailures policy evaluatedAt key evidence + if o.succeeded = false then 1 else 0 := by
  refine ⟨?_, ?_, ?_, ?_⟩
  · exact Multiset.countP_cons_of_neg _ fun h => h.2 recent
  · exact Multiset.countP_cons_of_neg _ fun h => h.1.2 recent
  · exact Multiset.countP_cons_of_pos _ ⟨counts, recent⟩
  · unfold currentFailures
    rw [Multiset.countP_cons]
    simp only [counts, recent, and_self, true_and]

theorem counts_before (counts : o.Counts policy evaluatedAt key) (before : ¬ o.Recent policy evaluatedAt) :
    baselineTotal policy evaluatedAt key (o ::ₘ evidence) = baselineTotal policy evaluatedAt key evidence + 1 ∧
    (baselineFailures policy evaluatedAt key (o ::ₘ evidence) =
      baselineFailures policy evaluatedAt key evidence + if o.succeeded = false then 1 else 0) ∧
    currentTotal policy evaluatedAt key (o ::ₘ evidence) = currentTotal policy evaluatedAt key evidence ∧
    currentFailures policy evaluatedAt key (o ::ₘ evidence) = currentFailures policy evaluatedAt key evidence := by
  refine ⟨?_, ?_, ?_, ?_⟩
  · exact Multiset.countP_cons_of_pos _ ⟨counts, before⟩
  · unfold baselineFailures
    rw [Multiset.countP_cons]
    simp only [counts, before, not_false_eq_true, and_self, true_and]
  · exact Multiset.countP_cons_of_neg _ fun h => before h.2
  · exact Multiset.countP_cons_of_neg _ fun h => before h.1.2

/-- A dimension has failed when a failure is counted for it. -/
theorem failed_iff : Failed policy evaluatedAt key evidence ↔
    0 < baselineFailures policy evaluatedAt key evidence + currentFailures policy evaluatedAt key evidence := by
  have split := Multiset.countP_eq_countP_filter_add evidence
    (fun o => o.Counts policy evaluatedAt key ∧ o.succeeded = false) (·.Recent policy evaluatedAt)
  rw [Multiset.countP_filter, Multiset.countP_filter] at split
  have recent : currentFailures policy evaluatedAt key evidence =
      evidence.countP fun o => (o.Counts policy evaluatedAt key ∧ o.succeeded = false) ∧ o.Recent policy evaluatedAt :=
    Multiset.countP_congr rfl fun o _ => propext and_right_comm
  have before : baselineFailures policy evaluatedAt key evidence =
      evidence.countP fun o => (o.Counts policy evaluatedAt key ∧ o.succeeded = false) ∧ ¬ o.Recent policy evaluatedAt :=
    Multiset.countP_congr rfl fun o _ => propext and_right_comm
  rw [recent, before, Nat.add_comm, ← split, Multiset.countP_pos]
  constructor
  · intro failed
    obtain ⟨o, member, failed⟩ := failed.counts
    obtain ⟨member, counts⟩ := Multiset.mem_filter.mp member
    exact ⟨o, member, counts, failed⟩
  · rintro ⟨o, member, counts, failed⟩
    exact failed_of_counts member counts failed

end counting

section changes

variable (policy : DegradationPolicy) (evaluatedAt : Instant) (key : Dimension)

/-- The assessment has the dimension and calls it degraded. -/
def DegradedAt (observations : List PaymentOutcomeObservation) : Prop :=
  ∃ out, assessPaymentDegradation policy evaluatedAt observations = .ok out ∧
    ∃ a ∈ out, a.dimension = key ∧ a.degraded = true

/-- Three ways for the evidence to get worse for a dimension. -/
inductive Worsening where
  | failureAdded | successFailed | baselineCleared

/-- One more current failure, a current success that fails, or a baseline failure that succeeds. -/
def Worsening.Applies (observations changed : List PaymentOutcomeObservation) : Worsening → Prop
  | .failureAdded => ∃ failure : PaymentOutcomeObservation, failure.Counts policy evaluatedAt key ∧
      failure.Recent policy evaluatedAt ∧ failure.succeeded = false ∧ changed.Perm (failure :: observations)
  | .successFailed => ∃ success rest, success.Counts policy evaluatedAt key ∧ success.Recent policy evaluatedAt ∧
      success.succeeded = true ∧ observations.Perm (success :: rest) ∧
      changed.Perm ({ success with succeeded := false, errorFamily := key.errorFamily } :: rest)
  | .baselineCleared => ∃ failure rest, failure.Counts policy evaluatedAt key ∧ ¬ failure.Recent policy evaluatedAt ∧
      failure.succeeded = false ∧ observations.Perm (failure :: rest) ∧
      changed.Perm ({ failure with succeeded := true } :: rest)

/-- The change keeps what the verdict needs: a baseline rate, or a ratio asked within ten and a failure left. -/
def Worsening.Keeps (observations : List PaymentOutcomeObservation) : Worsening → Prop
  | .failureAdded | .successFailed => True
  | .baselineCleared =>
    baselineTotal policy evaluatedAt key observations ≤ (baselineFailures policy evaluatedAt key observations - 1) * 10000 ∨
      policy.minimumRateRatioBasisPoints ≤ 100000 ∧
        2 ≤ baselineFailures policy evaluatedAt key observations + currentFailures policy evaluatedAt key observations

variable {policy evaluatedAt key} {observations changed : List PaymentOutcomeObservation}

theorem degradedAt_iff : DegradedAt policy evaluatedAt key observations ↔ Datable policy evaluatedAt ∧
    0 < baselineFailures policy evaluatedAt key observations + currentFailures policy evaluatedAt key observations ∧
    Verdict policy (baselineTotal policy evaluatedAt key observations) (baselineFailures policy evaluatedAt key observations)
      (currentTotal policy evaluatedAt key observations) (currentFailures policy evaluatedAt key observations) := by
  rw [← degraded_verdict, ← failed_iff]
  unfold DegradedAt
  by_cases datable : Datable policy evaluatedAt
  · simp only [assess_measured datable, Except.ok.injEq, exists_eq_left']
    constructor
    · rintro ⟨a, member, rfl, degraded⟩
      obtain ⟨failed, same⟩ := (mem_assessed observations).mp member
      rw [same] at degraded
      exact ⟨datable, failed, of_decide_eq_true degraded⟩
    · rintro ⟨-, failed, degraded⟩
      exact ⟨measured policy evaluatedAt key observations, (mem_assessed observations).mpr ⟨failed, rfl⟩, rfl,
        decide_eq_true degraded⟩
  · refine iff_of_false ?_ fun h => datable h.1
    rintro ⟨out, assessed, -⟩
    rw [assess_overflow datable] at assessed
    cases assessed

/-- The four counts of the evidence with one observation more. -/
theorem perm_cons {o : PaymentOutcomeObservation} {rest : List PaymentOutcomeObservation}
    (perm : observations.Perm (o :: rest)) : (observations : Evidence) = o ::ₘ (rest : Evidence) :=
  Multiset.coe_eq_coe.mpr perm

/-- Each change of a degraded dimension leaves it degraded exactly when it keeps what the verdict needs. -/
theorem degraded_after_worsening (change : Worsening) (degraded : DegradedAt policy evaluatedAt key observations)
    (applies : change.Applies policy evaluatedAt key observations changed) :
    DegradedAt policy evaluatedAt key changed ↔ change.Keeps policy evaluatedAt key observations := by
  rw [degradedAt_iff] at degraded ⊢
  obtain ⟨datable, failing, verdict⟩ := degraded
  rw [and_iff_right datable]
  cases change with
  | failureAdded =>
    obtain ⟨failure, counts, recent, failed, perm⟩ := applies
    obtain ⟨bt, bf, ct, cf⟩ := @counts_recent policy evaluatedAt key observations failure counts recent
    rw [perm_cons perm, bt, bf, ct, cf, if_pos failed]
    exact iff_of_true ⟨by omega, verdict.failureAdded currentFailures_le⟩ trivial
  | successFailed =>
    obtain ⟨success, rest, counts, recent, succeeded, perm, perm'⟩ := applies
    have turned : PaymentOutcomeObservation.Counts policy evaluatedAt key
        { success with succeeded := false, errorFamily := key.errorFamily } :=
      ⟨⟨counts.within.since, counts.within.until_⟩,
        ⟨counts.concerns.merchantId, counts.concerns.paymentMethod, counts.concerns.issuerFamily, fun _ => rfl⟩⟩
    obtain ⟨bt, bf, ct, cf⟩ := @counts_recent policy evaluatedAt key rest success counts recent
    obtain ⟨bt', bf', ct', cf'⟩ := @counts_recent policy evaluatedAt key rest _ turned recent
    rw [perm_cons perm, bt, bf, ct, cf, succeeded, if_neg (by decide)] at verdict
    rw [perm_cons perm', bt', bf', ct', cf', if_pos rfl]
    exact iff_of_true ⟨by omega, verdict.successFailed⟩ trivial
  | baselineCleared =>
    obtain ⟨failure, rest, counts, before, failed, perm, perm'⟩ := applies
    have turned : PaymentOutcomeObservation.Counts policy evaluatedAt key { failure with succeeded := true } :=
      ⟨⟨counts.within.since, counts.within.until_⟩,
        ⟨counts.concerns.merchantId, counts.concerns.paymentMethod, counts.concerns.issuerFamily, fun h => nomatch h⟩⟩
    obtain ⟨bt, bf, ct, cf⟩ := @counts_before policy evaluatedAt key rest failure counts before
    obtain ⟨bt', bf', ct', cf'⟩ := @counts_before policy evaluatedAt key rest _ turned before
    unfold Worsening.Keeps
    dsimp only
    rw [perm_cons perm, bt, bf, ct, cf, failed, if_pos rfl] at verdict
    rw [perm_cons perm', perm_cons perm, bt, bf, cf, bt', bf', ct', cf', failed, if_pos rfl, if_neg (fun h : true = false => nomatch h),
      Nat.add_zero, Nat.add_sub_cancel, verdict.cleared_iff]
    have positive := lt_of_lt_of_le policy.counts_pos.1 verdict.baselineCount
    constructor
    · rintro ⟨left_, stays | bounded⟩
      · exact .inl stays
      · exact .inr ⟨bounded, by omega⟩
    · rintro (stays | ⟨bounded, left_⟩)
      · exact ⟨by omega, .inl stays⟩
      · exact ⟨by omega, .inr bounded⟩

instance : Decidable (DegradedAt policy evaluatedAt key observations) :=
  decidable_of_iff
    (Datable policy evaluatedAt ∧
      0 < baselineFailures policy evaluatedAt key observations + currentFailures policy evaluatedAt key observations ∧
      Degraded policy evaluatedAt key observations)
    (by rw [degradedAt_iff, degraded_verdict])

end changes

section outage

/-- A card payment of one issuer, that fails for the issuer or succeeds. -/
def cardPayment (succeeded : Bool) (occurredAt : Instant) : PaymentOutcomeObservation :=
  { merchantId := ident "merchant_1", succeeded := succeeded, paymentMethod := ident "CARD", issuerFamily := ident "BANK_A"
    errorFamily := ident "ISSUER_UNAVAILABLE", occurredAt := occurredAt }

def bankA : Dimension := .of (ident "merchant_1") (ident "CARD") (ident "BANK_A") (ident "ISSUER_UNAVAILABLE")

/-- One of twenty earlier payments failed, and all ten of the last quarter of an hour. -/
def outage : List PaymentOutcomeObservation :=
  cardPayment false (seconds 36000) :: (List.replicate 19 (cardPayment true (seconds 36000)) ++
    List.replicate 10 (cardPayment false (seconds 86400)))

def outageCleared : List PaymentOutcomeObservation :=
  cardPayment true (seconds 36000) :: (List.replicate 19 (cardPayment true (seconds 36000)) ++
    List.replicate 10 (cardPayment false (seconds 86400)))

theorem outage_cleared (policy : DegradationPolicy) (window : policy.currentWindow = seconds 900)
    (baseline : policy.baselineWindow = seconds 86400) :
    Worsening.baselineCleared.Applies policy (seconds 86400) bankA outage outageCleared := by
  refine ⟨cardPayment false (seconds 36000), _, ⟨⟨?_, ?_⟩, ?_⟩, ?_, rfl, List.Perm.refl _, List.Perm.refl _⟩
  · rw [baseline]
    decide
  · decide
  · decide
  · unfold PaymentOutcomeObservation.Recent
    rw [window]
    decide

/-- Under the default policy the outage stands when its one earlier failure turns out a success. -/
theorem degraded_after_worsening_cleared : DegradedAt {} (seconds 86400) bankA outageCleared := by
  have degraded : DegradedAt {} (seconds 86400) bankA outage := by decide +kernel
  exact (degraded_after_worsening .baselineCleared degraded (outage_cleared {} rfl rfl)).mpr (.inr (by decide +kernel))

/-- Twenty times the baseline rate is asked and seen; no baseline failures at all read as ten times. -/
theorem not_degraded_after_worsening : ¬ ∀ (policy : DegradationPolicy) (evaluatedAt : Instant) (key : Dimension)
    (observations changed : List PaymentOutcomeObservation) (change : Worsening),
    DegradedAt policy evaluatedAt key observations → change.Applies policy evaluatedAt key observations changed →
    DegradedAt policy evaluatedAt key changed := by
  intro monotone
  have degraded : DegradedAt { minimumRateRatioBasisPoints := 200000 } (seconds 86400) bankA outage := by decide +kernel
  have cleared : ¬ DegradedAt { minimumRateRatioBasisPoints := 200000 } (seconds 86400) bankA outageCleared := by
    decide +kernel
  exact cleared (monotone _ _ _ _ _ .baselineCleared degraded (outage_cleared _ rfl rfl))

end outage

end RevenueGuard
