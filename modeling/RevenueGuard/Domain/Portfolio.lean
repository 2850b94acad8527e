import RevenueGuard.Domain.Diagnosis
import Mathlib.Data.List.Sort
import Mathlib.Data.Rat.Floor
import Mathlib.Data.Nat.Log

/-
Policy-bounded portfolio scoring. Decimal arithmetic is exact up to the 40
significant digits of the local context; `exp` is the decimal library's.
-/
namespace RevenueGuard

inductive ScoringFeature where
  | amountBucket | retryCount | aggregateContactCount | diagnosisConfidenceDecile
  | activeSystemicIncident | hourBucket | dayOfMonthBucket
deriving DecidableEq, Repr

def scoringFeatures : List ScoringFeature :=
  [.amountBucket, .retryCount, .aggregateContactCount, .diagnosisConfidenceDecile,
   .activeSystemicIncident, .hourBucket, .dayOfMonthBucket]

inductive ArtifactClassification where
  | synthetic | production
deriving DecidableEq, Repr

inductive CustomerInterventionStatus where
  | active | closed
deriving DecidableEq, Repr

structure LogisticScoringArtifact where
  modelVersion : Identifier
  featureVersion : Identifier
  classification : ArtifactClassification
  interceptMillilogits : Int
  featureWeightsMillilogits : ScoringFeature → Int
  actionBiasMillilogits : ActionType → Int
  failureCategoryBiasMillilogits : Identifier → Int

structure ActionEconomics where
  version : Identifier
  actionCostMinor : ActionType → Nat
  riskPenaltyMinor : ActionType → Nat
  customerFrictionPenaltyMinor : ActionType → Nat

structure RecoveryScoringContext where
  amountMinor : Nat
  retryCount : Nat
  aggregateContactCount : Nat
  diagnosisConfidenceBasisPoints : Nat
  failureCategory : Identifier
  activeSystemicIncident : Bool
  evaluatedAt : Instant

def syntheticDefaultScoringArtifact : LogisticScoringArtifact :=
  { modelVersion := ident "phase7-synthetic-logit-1.0"
    featureVersion := ident "phase7-portfolio-features-1.0"
    classification := .synthetic
    interceptMillilogits := -200
    featureWeightsMillilogits := fun
      | .amountBucket => 8
      | .retryCount => -300
      | .aggregateContactCount => -450
      | .diagnosisConfidenceDecile => 90
      | .activeSystemicIncident => -2000
      | .hourBucket => 20
      | .dayOfMonthBucket => 15
    actionBiasMillilogits := fun
      | .deferRetry => 800
      | .requestPaymentMethodUpdate => 700
      | .createPaymentLink => 500
      | .sendReminder => 400
      | .schedulePromiseReminder => 400
      | .pauseRetries => 100
      | .resumeDeferredCase => 100
      | .escalateHuman => -1000
      | .stopAutomation => -2000
      | .noAction => 0
    failureCategoryBiasMillilogits := fun category => match category.val with
      | "INSUFFICIENT_FUNDS" => 100
      | "EXPIRED_PAYMENT_METHOD" => 250
      | "AUTHENTICATION_FAILURE" => 100
      | "CUSTOMER_ACTION_REQUIRED" => 150
      | "ISSUER_UNAVAILABLE" => -700
      | "GATEWAY_UNAVAILABLE" => -900
      | "UNKNOWN" => -1200
      | _ => 0 }

def defaultActionEconomics : ActionEconomics :=
  { version := ident "phase7-action-economics-1.0"
    actionCostMinor := fun
      | .deferRetry => 25
      | .createPaymentLink => 75
      | .requestPaymentMethodUpdate => 100
      | .sendReminder => 100
      | .schedulePromiseReminder => 100
      | _ => 0
    riskPenaltyMinor := fun
      | .deferRetry => 50
      | .createPaymentLink => 100
      | .requestPaymentMethodUpdate => 100
      | .sendReminder => 75
      | .schedulePromiseReminder => 75
      | _ => 0
    customerFrictionPenaltyMinor := fun
      | .deferRetry => 25
      | .createPaymentLink => 75
      | .requestPaymentMethodUpdate => 250
      | .sendReminder => 200
      | .schedulePromiseReminder => 150
      | _ => 0 }

/-- Day of the month of a UTC instant in the proleptic Gregorian calendar. -/
def dayOfMonth (at_ : Instant) : Int :=
  let shifted := at_ / 86400000000 + 719468
  let dayOfEra := shifted % 146097
  let yearOfEra := (dayOfEra - dayOfEra / 1460 + dayOfEra / 36524 - dayOfEra / 146096) / 365
  let dayOfYear := dayOfEra - (365 * yearOfEra + yearOfEra / 4 - yearOfEra / 100)
  let month := (5 * dayOfYear + 2) / 153
  dayOfYear - (153 * month + 2) / 5 + 1

def RecoveryScoringContext.featureValue (c : RecoveryScoringContext) : ScoringFeature → Int
  | .amountBucket => min (c.amountMinor / 10000) 100
  | .retryCount => min c.retryCount 10
  | .aggregateContactCount => min c.aggregateContactCount 10
  | .diagnosisConfidenceDecile => c.diagnosisConfidenceBasisPoints / 1000
  | .activeSystemicIncident => if c.activeSystemicIncident then 1 else 0
  | .hourBucket => c.evaluatedAt % 86400000000 / 3600000000 / 6
  | .dayOfMonthBucket => (dayOfMonth c.evaluatedAt - 1) / 7

def decimalExponent (q : Rat) : Int := if 1 ≤ q then Nat.log 10 ⌊q⌋.toNat else -(Nat.clog 10 ⌈1 / q⌉.toNat : Int)

/-- Round a positive decimal half-even to 40 significant digits. -/
def roundContext (q : Rat) : Rat :=
  let scale : Rat := (10 : Rat) ^ (39 - decimalExponent q)
  let below := ⌊q * scale⌋
  let rest := q * scale - below
  let coefficient := if rest < 1 / 2 ∨ (rest = 1 / 2 ∧ below % 2 = 0) then below else below + 1
  coefficient / scale

/-- The last term and the sum of the exponential's series at `m / 1000`, with seventy decimals. -/
def expSeries (m : Int) : Nat → Int × Int
  | 0 => (10 ^ 70, 10 ^ 70)
  | n + 1 =>
    let term := (expSeries m n).1 * m / (1000 * (n + 1))
    (term, (expSeries m n).2 + term)

/-- `Decimal(m / 1000).exp()`: from -20 to 20 the terms left out are far below the digits kept. -/
def decimalExp (m : Int) : Rat := roundContext ((expSeries m 140).2 / 10 ^ 70)

def roundHalfUp (q : Rat) : Int := ⌊q + 1 / 2⌋

/-- `probability` of the logistic model, in basis points. `exp` maps millilogits
to the decimal library's value of the exponential. -/
def probabilityBasisPoints (exp : Int → Rat) (artifact : LogisticScoringArtifact) (actionType : ActionType)
    (context : RecoveryScoringContext) : Int :=
  let millilogits := artifact.interceptMillilogits + artifact.actionBiasMillilogits actionType
    + artifact.failureCategoryBiasMillilogits context.failureCategory
    + (scoringFeatures.map fun f => artifact.featureWeightsMillilogits f * context.featureValue f).sum
  let millilogits := max (-20000) (min 20000 millilogits)
  roundHalfUp (roundContext (1 / roundContext (1 + exp (-millilogits))) * 10000)

def CandidateAction.isExempt (c : CandidateAction) : Bool := decide (c.actionType.actionClass ∈ expectedValueExemptClasses)

def scoredCandidate (exp : Int → Rat) (artifact : LogisticScoringArtifact) (economics : ActionEconomics)
    (context : RecoveryScoringContext) (candidate : CandidateAction) : Except Failure CandidateAction :=
  let probability := probabilityBasisPoints exp artifact candidate.actionType context
  let cost := economics.actionCostMinor candidate.actionType
  let risk := economics.riskPenaltyMinor candidate.actionType
  let friction := economics.customerFrictionPenaltyMinor candidate.actionType
  if bounds : 0 ≤ probability ∧ probability ≤ 10000 then
    .ok { candidate with
      recoveryProbabilityBasisPoints := probability.toNat
      expectedNetRecoveryMinor := probability * context.amountMinor / 10000 - cost - risk - friction
      actionCostMinor := cost
      riskPenaltyMinor := risk
      customerFrictionPenaltyMinor := friction
      probability_le := by omega }
  else .error (.value "recovery probability cannot exceed 10000 basis points")

/-- Descending net value, then descending probability, then the action's name. -/
def scoreBefore (a b : CandidateAction) : Bool :=
  if a.expectedNetRecoveryMinor ≠ b.expectedNetRecoveryMinor then
    decide (b.expectedNetRecoveryMinor < a.expectedNetRecoveryMinor)
  else if a.recoveryProbabilityBasisPoints ≠ b.recoveryProbabilityBasisPoints then
    decide (b.recoveryProbabilityBasisPoints < a.recoveryProbabilityBasisPoints)
  else decide (a.actionType.value ≤ b.actionType.value)

/-- Exempt candidates keep their places; the scored ones fill the others in order. -/
def mergeScored : List CandidateAction → List CandidateAction → List CandidateAction
  | [], _ => []
  | candidate :: rest, scored =>
    if candidate.isExempt then candidate :: mergeScored rest scored
    else match scored with
      | best :: others => best :: mergeScored rest others
      | [] => mergeScored rest []

def renumber : Nat → List CandidateAction → List CandidateAction
  | _, [] => []
  | n, candidate :: rest => candidate.withRank (n + 1) (next_pos n) :: renumber (n + 1) rest

def lastNoAction (candidates : List CandidateAction) : Option CandidateAction :=
  (candidates.filter fun c => decide (c.actionType = .noAction)).getLast?

def rankCandidatesByExpectedNetRecovery (exp : Int → Rat) (candidates : List CandidateAction)
    (context : RecoveryScoringContext) (artifact : LogisticScoringArtifact) (economics : ActionEconomics)
    (allowedActions : Finset ActionType) : Except Failure (List CandidateAction) := do
  require (∃ c, candidates.getLast? = some c ∧ c.actionType = .noAction)
    (.value "candidate list must end with NO_ACTION")
  let eligible := candidates.filter fun c => decide (c.actionType ≠ .noAction) &&
    (decide (c.actionType ∈ allowedActions) || decide (c.actionType.actionClass ∈ alwaysAllowedClasses))
  let scored ← (eligible.filter fun c => !c.isExempt).mapM (scoredCandidate exp artifact economics context)
  match lastNoAction candidates with
  | none => .error (.assertion "validated candidates must contain NO_ACTION")
  | some final =>
    let noAction := noActionCandidate final.target final.rank final.rank_pos final.logicalAttempt final.attempt_pos
    pure (renumber 0 (mergeScored eligible (scored.insertionSort fun a b => scoreBefore a b) ++ [noAction]))

theorem renumber_types : ∀ {n : Nat} {cs : List CandidateAction}, ∀ c ∈ renumber n cs,
    ∃ d ∈ cs, d.actionType = c.actionType := by
  intro n cs
  induction cs generalizing n with
  | nil => intro c hc; cases hc
  | cons d rest ih =>
    intro c hc
    rcases List.mem_cons.mp hc with rfl | hc
    · exact ⟨d, List.mem_cons_self, rfl⟩
    · obtain ⟨e, he, same⟩ := ih c hc
      exact ⟨e, List.mem_cons_of_mem _ he, same⟩

theorem mergeScored_mem : ∀ {cs scored : List CandidateAction}, ∀ c ∈ mergeScored cs scored, c ∈ cs ∨ c ∈ scored := by
  intro cs
  induction cs with
  | nil => intro scored c hc; cases hc
  | cons d rest ih =>
    intro scored c hc
    unfold mergeScored at hc
    split at hc
    · rcases List.mem_cons.mp hc with rfl | hc
      · exact .inl List.mem_cons_self
      · exact (ih c hc).imp (List.mem_cons_of_mem _) id
    · split at hc
      · rcases List.mem_cons.mp hc with rfl | hc
        · exact .inr List.mem_cons_self
        · exact (ih c hc).imp (List.mem_cons_of_mem _) (List.mem_cons_of_mem _)
      · exact (ih c hc).imp (List.mem_cons_of_mem _) id

theorem scoredCandidate_type {exp : Int → Rat} {artifact : LogisticScoringArtifact} {economics : ActionEconomics}
    {context : RecoveryScoringContext} {c scored : CandidateAction}
    (h : scoredCandidate exp artifact economics context c = .ok scored) : scored.actionType = c.actionType := by
  unfold scoredCandidate at h
  dsimp only at h
  split at h <;> cases h
  rfl

theorem mapM_types {f : CandidateAction → Except Failure CandidateAction}
    (same : ∀ {c d}, f c = .ok d → d.actionType = c.actionType) : ∀ {cs ds : List CandidateAction},
    cs.mapM f = .ok ds → ∀ d ∈ ds, ∃ c ∈ cs, c.actionType = d.actionType := by
  intro cs
  induction cs with
  | nil => intro ds h d hd; cases h; cases hd
  | cons c rest ih =>
    intro ds h d hd
    rw [List.mapM_cons] at h
    cases first : f c with
    | error e => rw [first] at h; cases h
    | ok e =>
      cases others : rest.mapM f with
      | error e => rw [first, others] at h; cases h
      | ok es =>
        rw [first, others] at h
        cases h
        rcases List.mem_cons.mp hd with rfl | hd
        · exact ⟨c, List.mem_cons_self, (same first).symm⟩
        · obtain ⟨e, he, eq⟩ := ih others d hd
          exact ⟨e, List.mem_cons_of_mem _ he, eq⟩

/-- Ranking brings in no action type of its own. -/
theorem rankCandidates_types {exp : Int → Rat} {cs ranked : List CandidateAction} {context : RecoveryScoringContext}
    {artifact : LogisticScoringArtifact} {economics : ActionEconomics} {allowed : Finset ActionType}
    (h : rankCandidatesByExpectedNetRecovery exp cs context artifact economics allowed = .ok ranked) :
    ∀ c ∈ ranked, c.actionType = .noAction ∨ ∃ d ∈ cs, d.actionType = c.actionType := by
  unfold rankCandidatesByExpectedNetRecovery at h
  cases closed : require (∃ c, cs.getLast? = some c ∧ c.actionType = .noAction)
      (.value "candidate list must end with NO_ACTION") with
  | error e => rw [closed] at h; cases h
  | ok u =>
    rw [closed] at h
    dsimp only [bind, Except.bind] at h
    split at h
    · cases h
    · rename_i scored scored_ok
      split at h
      · cases h
      · rename_i final _
        cases h
        intro c hc
        obtain ⟨d, hd, same⟩ := renumber_types c hc
        rcases List.mem_append.mp hd with hd | hd
        · rcases mergeScored_mem d hd with hd | hd
          · exact .inr ⟨d, (List.mem_filter.mp hd).1, same⟩
          · obtain ⟨e, he, eq⟩ := mapM_types scoredCandidate_type scored_ok d ((List.mem_insertionSort _).mp hd)
            exact .inr ⟨e, (List.mem_filter.mp (List.mem_filter.mp he).1).1, eq.trans same⟩
        · rw [List.mem_singleton] at hd
          subst hd
          exact .inl same.symm

end RevenueGuard
