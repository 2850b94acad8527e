import RevenueGuard.Domain.Degradation
import Mathlib.Data.Multiset.Filter
import Mathlib.Data.Finset.Sort

/-
What a degradation assessment is for: one assessment for each dimension that failed
in the window, its counts those of the evidence as a multiset, whatever the order
the observations came in and whatever happened elsewhere.
-/
namespace RevenueGuard

section evidence

variable (policy : DegradationPolicy) (evaluatedAt : Instant)

/-- A success of the dimension's merchant, method and issuer, or a failure of its family besides. -/
structure PaymentOutcomeObservation.Concerns (o : PaymentOutcomeObservation) (key : Dimension) : Prop where
  merchantId : o.merchantId = key.merchantId
  paymentMethod : o.paymentMethod = key.paymentMethod
  issuerFamily : o.issuerFamily = key.issuerFamily
  errorFamily : o.succeeded = false → o.errorFamily = key.errorFamily

structure PaymentOutcomeObservation.Within (o : PaymentOutcomeObservation) : Prop where
  since : evaluatedAt - policy.baselineWindow ≤ o.occurredAt
  until_ : o.occurredAt ≤ evaluatedAt

/-- In the window and of the dimension: the observations that an assessment counts. -/
structure PaymentOutcomeObservation.Counts (key : Dimension) (o : PaymentOutcomeObservation) : Prop where
  within : o.Within policy evaluatedAt
  concerns : o.Concerns key

def PaymentOutcomeObservation.Recent (o : PaymentOutcomeObservation) : Prop :=
  evaluatedAt - policy.currentWindow ≤ o.occurredAt

instance (o : PaymentOutcomeObservation) (key : Dimension) : Decidable (o.Concerns key) :=
  decidable_of_iff (o.merchantId = key.merchantId ∧ o.paymentMethod = key.paymentMethod ∧
      o.issuerFamily = key.issuerFamily ∧ (o.succeeded = false → o.errorFamily = key.errorFamily))
    ⟨fun ⟨a, b, c, d⟩ => ⟨a, b, c, d⟩, fun ⟨a, b, c, d⟩ => ⟨a, b, c, d⟩⟩

instance (o : PaymentOutcomeObservation) : Decidable (o.Within policy evaluatedAt) :=
  decidable_of_iff (evaluatedAt - policy.baselineWindow ≤ o.occurredAt ∧ o.occurredAt ≤ evaluatedAt)
    ⟨fun ⟨a, b⟩ => ⟨a, b⟩, fun ⟨a, b⟩ => ⟨a, b⟩⟩

instance (key : Dimension) (o : PaymentOutcomeObservation) : Decidable (o.Counts policy evaluatedAt key) :=
  decidable_of_iff (o.Within policy evaluatedAt ∧ o.Concerns key) ⟨fun ⟨a, b⟩ => ⟨a, b⟩, fun ⟨a, b⟩ => ⟨a, b⟩⟩

instance (o : PaymentOutcomeObservation) : Decidable (o.Recent policy evaluatedAt) :=
  inferInstanceAs (Decidable (_ ≤ _))

abbrev Evidence := Multiset PaymentOutcomeObservation

variable (key : Dimension) (evidence : Evidence)

def baselineTotal : Nat :=
  evidence.countP fun o => o.Counts policy evaluatedAt key ∧ ¬ o.Recent policy evaluatedAt

def baselineFailures : Nat :=
  evidence.countP fun o => (o.Counts policy evaluatedAt key ∧ ¬ o.Recent policy evaluatedAt) ∧ o.succeeded = false

def currentTotal : Nat :=
  evidence.countP fun o => o.Counts policy evaluatedAt key ∧ o.Recent policy evaluatedAt

def currentFailures : Nat :=
  evidence.countP fun o => (o.Counts policy evaluatedAt key ∧ o.Recent policy evaluatedAt) ∧ o.succeeded = false

def baselineRate : Nat :=
  baselineFailures policy evaluatedAt key evidence * 10000 / baselineTotal policy evaluatedAt key evidence

def currentRate : Nat :=
  currentFailures policy evaluatedAt key evidence * 10000 / currentTotal policy evaluatedAt key evidence

/-- The ratio of two rates; against none at all it is ten, or one for no failure. -/
def failureRatio (currentRate baselineRate : Nat) : Nat :=
  if baselineRate = 0 then if currentRate = 0 then 10000 else 100000 else currentRate * 10000 / baselineRate

structure Degraded : Prop where
  baselineCount : policy.minimumBaselineCount ≤ baselineTotal policy evaluatedAt key evidence
  currentCount : policy.minimumCurrentCount ≤ currentTotal policy evaluatedAt key evidence
  failureRate : policy.minimumFailureRateBasisPoints ≤ currentRate policy evaluatedAt key evidence
  increase : baselineRate policy evaluatedAt key evidence + policy.minimumRateIncreaseBasisPoints ≤
    currentRate policy evaluatedAt key evidence
  ratio : policy.minimumRateRatioBasisPoints ≤
    failureRatio (currentRate policy evaluatedAt key evidence) (baselineRate policy evaluatedAt key evidence)

instance : Decidable (Degraded policy evaluatedAt key evidence) :=
  decidable_of_iff (policy.minimumBaselineCount ≤ baselineTotal policy evaluatedAt key evidence ∧
      policy.minimumCurrentCount ≤ currentTotal policy evaluatedAt key evidence ∧
      policy.minimumFailureRateBasisPoints ≤ currentRate policy evaluatedAt key evidence ∧
      baselineRate policy evaluatedAt key evidence + policy.minimumRateIncreaseBasisPoints ≤
        currentRate policy evaluatedAt key evidence ∧
      policy.minimumRateRatioBasisPoints ≤
        failureRatio (currentRate policy evaluatedAt key evidence) (baselineRate policy evaluatedAt key evidence))
    ⟨fun ⟨a, b, c, d, e⟩ => ⟨a, b, c, d, e⟩, fun ⟨a, b, c, d, e⟩ => ⟨a, b, c, d, e⟩⟩

/-- What the evidence says of a dimension. -/
def measured : MeasuredDegradation :=
  { merchantId := key.merchantId
    paymentMethod := key.paymentMethod
    issuerFamily := key.issuerFamily
    errorFamily := key.errorFamily
    degraded := decide (Degraded policy evaluatedAt key evidence)
    evaluatedAt := evaluatedAt
    baselineTotal := baselineTotal policy evaluatedAt key evidence
    baselineFailures := baselineFailures policy evaluatedAt key evidence
    currentTotal := currentTotal policy evaluatedAt key evidence
    currentFailures := currentFailures policy evaluatedAt key evidence
    baselineFailureRateBasisPoints := baselineRate policy evaluatedAt key evidence
    currentFailureRateBasisPoints := currentRate policy evaluatedAt key evidence
    failureRateIncreaseBasisPoints :=
      currentRate policy evaluatedAt key evidence - baselineRate policy evaluatedAt key evidence
    failureRateRatioBasisPoints :=
      failureRatio (currentRate policy evaluatedAt key evidence) (baselineRate policy evaluatedAt key evidence)
    policyVersion := policy.version }

/-- Both windows begin within the calendar. -/
def Datable : Prop := Representable (evaluatedAt - policy.baselineWindow) ∧ Representable (evaluatedAt - policy.currentWindow)

instance : Decidable (Datable policy evaluatedAt) := inferInstanceAs (Decidable (_ ∧ _))

/-- The dimension has failed in the window. -/
def Failed : Prop := ∃ o ∈ evidence, o.Within policy evaluatedAt ∧ o.succeeded = false ∧ o.dimension = key

end evidence

section rates

theorem rate_le {failures total : Nat} (h : failures ≤ total) : failures * 10000 / total ≤ 10000 := by
  apply Nat.div_le_of_le_mul
  exact Nat.mul_le_mul_right 10000 h

theorem rateBasisPoints_ok (failures total : Nat) : rateBasisPoints failures total = .ok (failures * 10000 / total) := by
  unfold rateBasisPoints floorDivide
  by_cases empty : total = 0
  · rw [if_neg (not_not.mpr empty), empty, Nat.div_zero]
  · rw [if_pos empty, if_neg empty]

theorem rateRatio_ok (current baseline : Nat) : rateRatio current baseline = .ok (failureRatio current baseline) := by
  unfold rateRatio floorDivide failureRatio
  by_cases none : baseline = 0
  · rw [if_neg (by omega), if_pos none]
    by_cases idle : current = 0
    · rw [if_pos idle, if_neg (by omega)]
    · rw [if_neg idle, if_pos (by omega)]
  · rw [if_pos (by omega), if_neg none, if_neg none]

end rates

section assessment

variable {policy : DegradationPolicy} {evaluatedAt : Instant} {key : Dimension} {evidence : Evidence}
  {observations : List PaymentOutcomeObservation}

theorem inWindow_iff {o : PaymentOutcomeObservation} :
    o.inWindow policy evaluatedAt = true ↔ o.Within policy evaluatedAt := by
  unfold PaymentOutcomeObservation.inWindow
  simp only [Bool.and_eq_true, decide_eq_true_eq]
  exact ⟨fun ⟨a, b⟩ => ⟨a, b⟩, fun ⟨a, b⟩ => ⟨a, b⟩⟩

theorem relevant_iff {o : PaymentOutcomeObservation} : o.relevant key = true ↔ o.Concerns key := by
  unfold PaymentOutcomeObservation.relevant
  simp only [Bool.and_eq_true, Bool.or_eq_true, decide_eq_true_eq]
  constructor
  · rintro ⟨⟨⟨merchant, method⟩, issuer⟩, family⟩
    refine ⟨merchant, method, issuer, fun failed => ?_⟩
    rcases family with succeeded | family
    · rw [failed] at succeeded
      cases succeeded
    · exact family
  · intro h
    refine ⟨⟨⟨h.merchantId, h.paymentMethod⟩, h.issuerFamily⟩, ?_⟩
    cases succeeded : o.succeeded with
    | true => exact .inl rfl
    | false => exact .inr (h.errorFamily succeeded)

/-- The observations of a dimension in the window, as the assessment filters them. -/
theorem relevant_filter (observations : List PaymentOutcomeObservation) {p : PaymentOutcomeObservation → Bool}
    {q : PaymentOutcomeObservation → Prop} [DecidablePred q]
    (same : ∀ o, p o = true ∧ o.Counts policy evaluatedAt key ↔ q o) :
    (((observations.filter (·.inWindow policy evaluatedAt)).filter (·.relevant key)).filter p).length =
      (observations : Evidence).countP q := by
  rw [List.filter_filter, List.filter_filter, ← List.countP_eq_length_filter, Multiset.coe_countP]
  apply List.countP_congr
  intro o _
  rw [decide_eq_true_eq, ← same o, Bool.and_eq_true, Bool.and_eq_true, inWindow_iff, relevant_iff]
  constructor
  · rintro ⟨⟨holds, concerns⟩, within⟩
    exact ⟨holds, within, concerns⟩
  · rintro ⟨holds, within, concerns⟩
    exact ⟨⟨holds, concerns⟩, within⟩

theorem degraded_iff : Degraded policy evaluatedAt key evidence ↔
    policy.minimumBaselineCount ≤ baselineTotal policy evaluatedAt key evidence ∧
      policy.minimumCurrentCount ≤ currentTotal policy evaluatedAt key evidence ∧
      policy.minimumFailureRateBasisPoints ≤ currentRate policy evaluatedAt key evidence ∧
      (policy.minimumRateIncreaseBasisPoints : Int) ≤
        currentRate policy evaluatedAt key evidence - baselineRate policy evaluatedAt key evidence ∧
      policy.minimumRateRatioBasisPoints ≤
        failureRatio (currentRate policy evaluatedAt key evidence) (baselineRate policy evaluatedAt key evidence) := by
  constructor
  · intro h
    have increase := h.increase
    exact ⟨h.baselineCount, h.currentCount, h.failureRate, by omega, h.ratio⟩
  · rintro ⟨baseline, current, rate, increase, ratio⟩
    exact ⟨baseline, current, rate, by omega, ratio⟩

theorem before_iff {o : PaymentOutcomeObservation} :
    decide (o.occurredAt < evaluatedAt - policy.currentWindow) = true ↔ ¬ o.Recent policy evaluatedAt := by
  rw [decide_eq_true_eq]
  exact not_le.symm

theorem recent_iff {o : PaymentOutcomeObservation} :
    decide (evaluatedAt - policy.currentWindow ≤ o.occurredAt) = true ↔ o.Recent policy evaluatedAt := by
  rw [decide_eq_true_eq]
  rfl

theorem baselineTotal_eq (observations : List PaymentOutcomeObservation) :
    (((observations.filter (·.inWindow policy evaluatedAt)).filter (·.relevant key)).filter
      fun item => decide (item.occurredAt < evaluatedAt - policy.currentWindow)).length =
      baselineTotal policy evaluatedAt key observations := by
  apply relevant_filter
  intro o
  rw [before_iff, and_comm]

theorem currentTotal_eq (observations : List PaymentOutcomeObservation) :
    (((observations.filter (·.inWindow policy evaluatedAt)).filter (·.relevant key)).filter
      fun item => decide (evaluatedAt - policy.currentWindow ≤ item.occurredAt)).length =
      currentTotal policy evaluatedAt key observations := by
  apply relevant_filter
  intro o
  rw [recent_iff, and_comm]

theorem baselineFailures_eq (observations : List PaymentOutcomeObservation) :
    ((((observations.filter (·.inWindow policy evaluatedAt)).filter (·.relevant key)).filter
      fun item => decide (item.occurredAt < evaluatedAt - policy.currentWindow)).filter
      fun item => !item.succeeded).length = baselineFailures policy evaluatedAt key observations := by
  refine (congrArg List.length List.filter_filter).trans (relevant_filter observations ?_)
  intro o
  rw [Bool.and_eq_true, before_iff, Bool.not_eq_true']
  exact ⟨fun ⟨⟨failed, before⟩, counts⟩ => ⟨⟨counts, before⟩, failed⟩,
    fun ⟨⟨counts, before⟩, failed⟩ => ⟨⟨failed, before⟩, counts⟩⟩

theorem currentFailures_eq (observations : List PaymentOutcomeObservation) :
    ((((observations.filter (·.inWindow policy evaluatedAt)).filter (·.relevant key)).filter
      fun item => decide (evaluatedAt - policy.currentWindow ≤ item.occurredAt)).filter
      fun item => !item.succeeded).length = currentFailures policy evaluatedAt key observations := by
  refine (congrArg List.length List.filter_filter).trans (relevant_filter observations ?_)
  intro o
  rw [Bool.and_eq_true, recent_iff, Bool.not_eq_true']
  exact ⟨fun ⟨⟨failed, recent⟩, counts⟩ => ⟨⟨counts, recent⟩, failed⟩,
    fun ⟨⟨counts, recent⟩, failed⟩ => ⟨⟨failed, recent⟩, counts⟩⟩

/-- The code's lists measure what the evidence says, and no division fails. -/
theorem assessDimension_measured (observations : List PaymentOutcomeObservation) (key : Dimension) :
    assessDimension policy evaluatedAt (observations.filter (·.inWindow policy evaluatedAt)) key =
      .ok (measured policy evaluatedAt key observations) := by
  unfold assessDimension
  dsimp only
  rw [baselineTotal_eq, currentTotal_eq, baselineFailures_eq, currentFailures_eq, rateBasisPoints_ok, rateBasisPoints_ok]
  dsimp only [bind, Except.bind]
  rw [rateRatio_ok]
  dsimp only [pure, Except.pure]
  unfold measured
  congr 3
  rw [Bool.eq_iff_iff]
  simp only [Bool.and_eq_true, decide_eq_true_eq, degraded_iff, and_assoc]
  rfl

theorem mem_failureDimensions (observations : List PaymentOutcomeObservation) :
    key ∈ failureDimensions (observations.filter (·.inWindow policy evaluatedAt)) ↔
      Failed policy evaluatedAt key observations := by
  unfold failureDimensions Failed
  rw [List.mem_insertionSort, mem_unique, List.mem_map]
  constructor
  · rintro ⟨o, member, rfl⟩
    obtain ⟨member, failed⟩ := List.mem_filter.mp member
    obtain ⟨member, within⟩ := List.mem_filter.mp member
    exact ⟨o, member, inWindow_iff.mp within, by simpa using failed, rfl⟩
  · rintro ⟨o, member, within, failed, rfl⟩
    exact ⟨o, List.mem_filter.mpr ⟨List.mem_filter.mpr ⟨member, inWindow_iff.mpr within⟩, by simp [failed]⟩, rfl⟩

theorem failureDimensions_sorted (inWindow : List PaymentOutcomeObservation) :
    (failureDimensions inWindow).Pairwise (· < ·) := by
  unfold failureDimensions
  have sorted := List.pairwise_insertionSort (· ≤ ·)
    (unique ((inWindow.filter fun o => !o.succeeded).map (·.dimension)))
  have distinct : (List.insertionSort (· ≤ ·)
      (unique ((inWindow.filter fun o => !o.succeeded).map (·.dimension)))).Nodup :=
    (List.perm_insertionSort _ _).nodup_iff.mpr (unique_nodup _)
  exact (sorted.and distinct).imp fun ⟨le, ne⟩ => lt_of_le_of_ne le ne

/-- The assessments are the measurements of the failed dimensions, in their order. -/
theorem assess_measured (datable : Datable policy evaluatedAt) (observations : List PaymentOutcomeObservation) :
    assessPaymentDegradation policy evaluatedAt observations =
      .ok ((failureDimensions (observations.filter (·.inWindow policy evaluatedAt))).map
        fun key => measured policy evaluatedAt key observations) := by
  unfold assessPaymentDegradation windowStart
  rw [if_pos datable.1, if_pos datable.2]
  dsimp only [bind, Except.bind]
  rw [funext (assessDimension_measured observations)]
  exact List.mapM_pure

theorem assess_overflow (undatable : ¬ Datable policy evaluatedAt) (observations : List PaymentOutcomeObservation) :
    assessPaymentDegradation policy evaluatedAt observations = .error .overflow := by
  unfold assessPaymentDegradation windowStart
  by_cases baseline : Representable (evaluatedAt - policy.baselineWindow)
  · rw [if_pos baseline, if_neg fun current => undatable ⟨baseline, current⟩]
    rfl
  · rw [if_neg baseline]
    rfl

/-- Sorted without repetition, a list is determined by its members. -/
theorem sorted_ext {A : Type} [LinearOrder A] {as bs : List A} (sorted : as.Pairwise (· < ·)) (sorted' : bs.Pairwise (· < ·))
    (same : ∀ a, a ∈ as ↔ a ∈ bs) : as = bs := by
  have nodup : ∀ {cs : List A}, cs.Pairwise (· < ·) → cs.Nodup := fun h => h.imp ne_of_lt
  refine @List.Perm.eq_of_pairwise _ (· < ·) _ _ ?_ sorted sorted'
    ((List.perm_ext_iff_of_nodup (nodup sorted) (nodup sorted')).mpr same)
  intro a b _ _ ab ba
  exact absurd ba (lt_asymm ab)

/-- A dimension is measured by the observations that count for it and no others. -/
theorem measured_congr {evidence' : Evidence} (same : evidence.filter (·.Counts policy evaluatedAt key) =
      evidence'.filter (·.Counts policy evaluatedAt key)) :
    measured policy evaluatedAt key evidence = measured policy evaluatedAt key evidence' := by
  have total : ∀ (q : PaymentOutcomeObservation → Prop) [DecidablePred q],
      evidence.countP (fun o => o.Counts policy evaluatedAt key ∧ q o) =
        evidence'.countP (fun o => o.Counts policy evaluatedAt key ∧ q o) := by
    intro q _
    have counted : ∀ evidence : Evidence, evidence.countP (fun o => o.Counts policy evaluatedAt key ∧ q o) =
        (evidence.filter (·.Counts policy evaluatedAt key)).countP q := by
      intro evidence
      rw [Multiset.countP_filter]
      exact Multiset.countP_congr rfl fun o _ => propext and_comm
    rw [counted, counted, same]
  have baseline : baselineTotal policy evaluatedAt key evidence = baselineTotal policy evaluatedAt key evidence' :=
    total _
  have current : currentTotal policy evaluatedAt key evidence = currentTotal policy evaluatedAt key evidence' := total _
  have failures : baselineFailures policy evaluatedAt key evidence = baselineFailures policy evaluatedAt key evidence' := by
    unfold baselineFailures
    simp only [and_assoc]
    exact total fun o => ¬ o.Recent policy evaluatedAt ∧ o.succeeded = false
  have recent : currentFailures policy evaluatedAt key evidence = currentFailures policy evaluatedAt key evidence' := by
    unfold currentFailures
    simp only [and_assoc]
    exact total fun o => o.Recent policy evaluatedAt ∧ o.succeeded = false
  unfold measured
  have verdict : Degraded policy evaluatedAt key evidence ↔ Degraded policy evaluatedAt key evidence' := by
    rw [degraded_iff, degraded_iff]
    unfold baselineRate currentRate
    rw [baseline, current, failures, recent]
  simp only [verdict, baselineRate, currentRate, baseline, current, failures, recent]

theorem Failed.counts (h : Failed policy evaluatedAt key evidence) :
    ∃ o ∈ evidence.filter (·.Counts policy evaluatedAt key), o.succeeded = false := by
  obtain ⟨o, member, within, failed, rfl⟩ := h
  refine ⟨o, Multiset.mem_filter.mpr ⟨member, within, ?_⟩, failed⟩
  constructor
  · rfl
  · rfl
  · rfl
  · exact fun _ => rfl

theorem failed_of_counts {o : PaymentOutcomeObservation} (member : o ∈ evidence)
    (counts : o.Counts policy evaluatedAt key) (failed : o.succeeded = false) : Failed policy evaluatedAt key evidence := by
  refine ⟨o, member, counts.within, failed, ?_⟩
  unfold PaymentOutcomeObservation.dimension
  rw [counts.concerns.merchantId, counts.concerns.paymentMethod, counts.concerns.issuerFamily,
    counts.concerns.errorFamily failed]
  rfl

theorem failed_iff_counts : Failed policy evaluatedAt key evidence ↔
    ∃ o ∈ evidence.filter (·.Counts policy evaluatedAt key), o.succeeded = false := by
  constructor
  · exact Failed.counts
  · rintro ⟨o, member, failed⟩
    obtain ⟨member, counts⟩ := Multiset.mem_filter.mp member
    exact failed_of_counts member counts failed

theorem baselineFailures_le : baselineFailures policy evaluatedAt key evidence ≤ baselineTotal policy evaluatedAt key evidence := by
  unfold baselineFailures baselineTotal
  rw [← Multiset.countP_filter]
  exact Multiset.countP_le_of_le _ (Multiset.filter_le _ _)

theorem currentFailures_le : currentFailures policy evaluatedAt key evidence ≤ currentTotal policy evaluatedAt key evidence := by
  unfold currentFailures currentTotal
  rw [← Multiset.countP_filter]
  exact Multiset.countP_le_of_le _ (Multiset.filter_le _ _)

theorem counted_once : baselineTotal policy evaluatedAt key evidence + currentTotal policy evaluatedAt key evidence =
    evidence.countP (·.Counts policy evaluatedAt key) := by
  have split := Multiset.countP_eq_countP_filter_add evidence (·.Counts policy evaluatedAt key)
    (·.Recent policy evaluatedAt)
  rw [Multiset.countP_filter, Multiset.countP_filter] at split
  exact (Nat.add_comm _ _).trans split.symm

/-- The assessments of a window: sorted, one for each failed dimension, each measured by its own evidence. -/
structure SoundAssessments (policy : DegradationPolicy) (evaluatedAt : Instant) (observations : List PaymentOutcomeObservation)
    (out : List MeasuredDegradation) : Prop where
  sorted : (out.map (·.dimension)).Pairwise (· < ·)
  dimensions : ∀ key, key ∈ out.map (·.dimension) ↔ Failed policy evaluatedAt key observations
  measures : ∀ a ∈ out, a = measured policy evaluatedAt a.dimension observations
  once : ∀ a ∈ out, a.baselineTotal + a.currentTotal =
    (observations : Evidence).countP (·.Counts policy evaluatedAt a.dimension)
  rates : ∀ a ∈ out, a.baselineFailureRateBasisPoints ≤ 10000 ∧ a.currentFailureRateBasisPoints ≤ 10000

theorem assessed_measured (observations : List PaymentOutcomeObservation) : SoundAssessments policy evaluatedAt observations
    ((failureDimensions (observations.filter (·.inWindow policy evaluatedAt))).map
      fun key => measured policy evaluatedAt key observations) := by
  have names : ((failureDimensions (observations.filter (·.inWindow policy evaluatedAt))).map
      fun key => measured policy evaluatedAt key observations).map (·.dimension) =
      failureDimensions (observations.filter (·.inWindow policy evaluatedAt)) := by
    rw [List.map_map]
    exact List.map_id _
  constructor
  · rw [names]
    exact failureDimensions_sorted _
  · intro key
    rw [names]
    exact mem_failureDimensions observations
  · intro a member
    obtain ⟨key, -, rfl⟩ := List.mem_map.mp member
    rfl
  · intro a member
    obtain ⟨key, -, rfl⟩ := List.mem_map.mp member
    exact @counted_once policy evaluatedAt key observations
  · intro a member
    obtain ⟨key, -, rfl⟩ := List.mem_map.mp member
    exact ⟨rate_le baselineFailures_le, rate_le currentFailures_le⟩

theorem mem_assessed {a : MeasuredDegradation} (observations : List PaymentOutcomeObservation) :
    a ∈ (failureDimensions (observations.filter (·.inWindow policy evaluatedAt))).map
        (fun key => measured policy evaluatedAt key observations) ↔
      Failed policy evaluatedAt a.dimension observations ∧ a = measured policy evaluatedAt a.dimension observations := by
  rw [List.mem_map]
  constructor
  · rintro ⟨key, member, rfl⟩
    exact ⟨(mem_failureDimensions observations).mp member, rfl⟩
  · rintro ⟨failed, same⟩
    exact ⟨a.dimension, (mem_failureDimensions observations).mpr failed, same.symm⟩

/-- One failed card payment, a minute before the assessment. -/
def declinedPayment : PaymentOutcomeObservation :=
  { merchantId := ident "merchant_1", succeeded := false, paymentMethod := ident "CARD", issuerFamily := ident "BANK_A"
    errorFamily := ident "ISSUER_UNAVAILABLE", occurredAt := seconds 86340 }

end assessment

end RevenueGuard
