import RevenueGuard.Domain.Diagnosis

/-
Bounded case intelligence: typed advisory nodes over an untrusted structured
model. Each node tries the model a bounded number of times and keeps its
deterministic fallback otherwise; a failing graph falls back as a whole.
-/
namespace RevenueGuard

structure AgentBudget where
  maxModelRetries : Nat := 1
  maxOutputTokens : Nat := 512

/-- What one call of the model can come to. A response whose payload does not
validate, before or after redaction, has no output. -/
inductive ModelAttempt (Out : Type) where
  | unavailable
  | timeout
  | error
  | response (outputTokens : Nat) (output : Option Out)

structure DiagnosisOutput where
  diagnosisCode : Identifier
  confidenceBasisPoints : Nat
  confidence_le : confidenceBasisPoints ≤ 10000

structure StrategyOutputItem where
  actionType : ActionType
  recoveryProbabilityBasisPoints : Nat
  expectedNetRecoveryMinor : Int
  channel : Option ContactChannel := none
  probability_le : recoveryProbabilityBasisPoints ≤ 10000
  channel_iff : channel.isSome = true ↔ actionType.actionClass = .customerContact

structure StrategyOutput where
  strategies : List StrategyOutputItem
  bounds : 1 ≤ strategies.length ∧ strategies.length ≤ 9
  distinct : (strategies.map (·.actionType)).Nodup

structure RankingOutput where
  orderedActionTypes : List ActionType
  bounds : 1 ≤ orderedActionTypes.length ∧ orderedActionTypes.length ≤ 10
  distinct : orderedActionTypes.Nodup

/-- The model during one run of the graph; the explanation node decides nothing. -/
structure ModelBehaviour where
  diagnosis : Nat → ModelAttempt DiagnosisOutput := fun _ => .unavailable
  strategies : Nat → ModelAttempt StrategyOutput := fun _ => .unavailable
  ranking : Nat → ModelAttempt RankingOutput := fun _ => .unavailable
  graphFails : Bool := false

def unavailableModel : ModelBehaviour := {}

structure CaseIntelligenceRequest where
  amountMinor : Nat
  diagnosisCode : Identifier
  diagnosisConfidenceBasisPoints : Nat
  candidates : List CandidateAction
  terminalDiagnosis : Bool
  confidence_le : diagnosisConfidenceBasisPoints ≤ 10000

structure CaseIntelligenceResult where
  diagnosisCode : Identifier
  confidenceBasisPoints : Nat
  candidates : List CandidateAction
  confidence_le : confidenceBasisPoints ≤ 10000

def graphFallback (request : CaseIntelligenceRequest) : CaseIntelligenceResult :=
  { diagnosisCode := request.diagnosisCode
    confidenceBasisPoints := request.diagnosisConfidenceBasisPoints
    candidates := request.candidates
    confidence_le := request.confidence_le }

/-- Up to `fuel` attempts, numbered from `attempt`; an unavailable model is not retried. -/
def invokeModel {Out : Type} (budget : AgentBudget) (model : Nat → ModelAttempt Out) (fallback : Out)
    (validate : Out → Bool) (attempt : Nat) : Nat → Out
  | 0 => fallback
  | fuel + 1 => match model attempt with
    | .unavailable => fallback
    | .response outputTokens (some output) =>
      if outputTokens ≤ budget.maxOutputTokens ∧ validate output then output
      else invokeModel budget model fallback validate (attempt + 1) fuel
    | _ => invokeModel budget model fallback validate (attempt + 1) fuel

theorem invokeModel_spec {Out : Type} (budget : AgentBudget) (model : Nat → ModelAttempt Out) (fallback : Out)
    (validate : Out → Bool) : ∀ fuel attempt,
    invokeModel budget model fallback validate attempt fuel = fallback ∨
      validate (invokeModel budget model fallback validate attempt fuel) = true := by
  intro fuel
  induction fuel with
  | zero => intro attempt; exact .inl rfl
  | succ fuel ih =>
    intro attempt
    unfold invokeModel
    split
    · exact .inl rfl
    · split
      · rename_i accepted
        exact .inr accepted.2
      · exact ih _
    · exact ih _

def diagnose (budget : AgentBudget) (model : ModelBehaviour) (request : CaseIntelligenceRequest) : DiagnosisOutput :=
  let fallback : DiagnosisOutput :=
    ⟨request.diagnosisCode, request.diagnosisConfidenceBasisPoints, request.confidence_le⟩
  let validate (output : DiagnosisOutput) : Bool :=
    !(request.terminalDiagnosis && output.diagnosisCode != request.diagnosisCode) &&
      decide (output.confidenceBasisPoints ≤ request.diagnosisConfidenceBasisPoints)
  invokeModel budget model.diagnosis fallback validate 0 (budget.maxModelRetries + 1)

def CaseIntelligenceRequest.template (request : CaseIntelligenceRequest) (actionType : ActionType) :
    Option CandidateAction := request.candidates.reverse.find? fun c => decide (c.actionType = actionType)

def CandidateAction.strategy (c : CandidateAction) : StrategyOutputItem :=
  ⟨c.actionType, c.recoveryProbabilityBasisPoints, c.expectedNetRecoveryMinor, c.channel, c.probability_le, c.channel_iff⟩

/-- The deterministic strategies; building them fails when there is none, as for a lone `NO_ACTION`. -/
def fallbackStrategies (request : CaseIntelligenceRequest) : Option StrategyOutput :=
  let items := (request.candidates.filter fun c => decide (c.actionType ≠ .noAction)).map (·.strategy)
  if bounds : 1 ≤ items.length ∧ items.length ≤ 9 then
    if distinct : (items.map (·.actionType)).Nodup then some ⟨items, bounds, distinct⟩ else none
  else none

def strategyAllowed (request : CaseIntelligenceRequest) (item : StrategyOutputItem) : Bool :=
  match (if item.actionType = .noAction then none else request.template item.actionType) with
  | none => false
  | some template => item.channel == template.channel &&
      decide (-(request.amountMinor : Int) ≤ item.expectedNetRecoveryMinor
        ∧ item.expectedNetRecoveryMinor ≤ request.amountMinor)

def hydrate (request : CaseIntelligenceRequest) : Nat → List StrategyOutputItem → Option (List CandidateAction)
  | _, [] => some []
  | n, item :: rest => do
    let template ← request.template item.actionType
    let others ← hydrate request (n + 1) rest
    pure ({ actionType := item.actionType
            recoveryProbabilityBasisPoints := item.recoveryProbabilityBasisPoints
            expectedNetRecoveryMinor := item.expectedNetRecoveryMinor
            rank := n + 1
            target := template.target
            logicalAttempt := template.logicalAttempt
            channel := item.channel
            probability_le := item.probability_le, rank_pos := next_pos n, attempt_pos := template.attempt_pos
            channel_iff := item.channel_iff } :: others)

def hydrateCandidates (request : CaseIntelligenceRequest) (output : StrategyOutput) : Option (List CandidateAction) := do
  let hydrated ← hydrate request 0 output.strategies
  let noAction ← request.template .noAction
  pure (hydrated ++ [noActionCandidate noAction.target (hydrated.length + 1) (next_pos hydrated.length)
    noAction.logicalAttempt noAction.attempt_pos])

def rankingAllowed (candidates : List CandidateAction) (output : RankingOutput) : Bool :=
  output.orderedActionTypes.all (fun t => candidates.any fun c => c.actionType == t) &&
    candidates.all (fun c => output.orderedActionTypes.contains c.actionType) &&
    output.orderedActionTypes.getLast? == some .noAction

def fallbackRanking (candidates : List CandidateAction) : Option RankingOutput :=
  let types := candidates.map (·.actionType)
  if bounds : 1 ≤ types.length ∧ types.length ≤ 10 then
    if distinct : types.Nodup then some ⟨types, bounds, distinct⟩ else none
  else none

def rerank (candidates : List CandidateAction) : Nat → List ActionType → Option (List CandidateAction)
  | _, [] => some []
  | n, actionType :: rest => do
    let candidate ← candidates.reverse.find? fun c => decide (c.actionType = actionType)
    let others ← rerank candidates (n + 1) rest
    pure ({ candidate with
            rank := n + 1
            actionCostMinor := 0, riskPenaltyMinor := 0, customerFrictionPenaltyMinor := 0
            rank_pos := next_pos n } :: others)

def runGraph (budget : AgentBudget) (model : ModelBehaviour) (request : CaseIntelligenceRequest) :
    Option CaseIntelligenceResult := do
  let diagnosis := diagnose budget model request
  let strategies ← fallbackStrategies request
  let output := invokeModel budget model.strategies strategies
    (fun output => output.strategies.all (strategyAllowed request)) 0 (budget.maxModelRetries + 1)
  let candidates ← hydrateCandidates request output
  let ranking ← fallbackRanking candidates
  let order := invokeModel budget model.ranking ranking (rankingAllowed candidates) 0 (budget.maxModelRetries + 1)
  let ranked ← rerank candidates 0 order.orderedActionTypes
  pure { diagnosisCode := diagnosis.diagnosisCode
         confidenceBasisPoints := diagnosis.confidenceBasisPoints
         candidates := ranked
         confidence_le := diagnosis.confidence_le }

def recommend (budget : AgentBudget) (model : ModelBehaviour) (request : CaseIntelligenceRequest) :
    CaseIntelligenceResult :=
  if model.graphFails then graphFallback request
  else (runGraph budget model request).getD (graphFallback request)

theorem template_mem {request : CaseIntelligenceRequest} {t : ActionType} {c : CandidateAction}
    (h : request.template t = some c) : c ∈ request.candidates ∧ c.actionType = t := by
  have found := List.find?_some h
  exact ⟨List.mem_reverse.mp (List.mem_of_find?_eq_some h), by simpa using found⟩

theorem hydrate_types {request : CaseIntelligenceRequest} :
    ∀ {items : List StrategyOutputItem} {n : Nat} {cs : List CandidateAction}, hydrate request n items = some cs →
      ∀ c ∈ cs, ∃ d ∈ request.candidates, d.actionType = c.actionType ∧ d.logicalAttempt = c.logicalAttempt := by
  intro items
  induction items with
  | nil =>
    intro n cs h c hc
    cases h
    cases hc
  | cons item rest ih =>
    intro n cs h c hc
    simp only [hydrate, Option.bind_eq_bind, Option.bind_eq_some_iff, Option.pure_def, Option.some.injEq] at h
    obtain ⟨template, found, others, tail, rfl⟩ := h
    rcases List.mem_cons.mp hc with rfl | hc
    · exact ⟨template, (template_mem found).1, (template_mem found).2, rfl⟩
    · exact ih tail c hc

theorem rerank_types {candidates : List CandidateAction} :
    ∀ {types : List ActionType} {n : Nat} {cs : List CandidateAction}, rerank candidates n types = some cs →
      ∀ c ∈ cs, ∃ d ∈ candidates, d.actionType = c.actionType ∧ d.logicalAttempt = c.logicalAttempt := by
  intro types
  induction types with
  | nil =>
    intro n cs h c hc
    cases h
    cases hc
  | cons t rest ih =>
    intro n cs h c hc
    simp only [rerank, Option.bind_eq_bind, Option.bind_eq_some_iff, Option.pure_def, Option.some.injEq] at h
    obtain ⟨candidate, found, others, tail, rfl⟩ := h
    rcases List.mem_cons.mp hc with rfl | hc
    · exact ⟨candidate, List.mem_reverse.mp (List.mem_of_find?_eq_some found), rfl, rfl⟩
    · exact ih tail c hc

/-- The model proposes no action type, and no logical attempt, of its own. -/
theorem recommend_types (budget : AgentBudget) (model : ModelBehaviour) (request : CaseIntelligenceRequest) :
    ∀ c ∈ (recommend budget model request).candidates,
      ∃ d ∈ request.candidates, d.actionType = c.actionType ∧ d.logicalAttempt = c.logicalAttempt := by
  intro c hc
  unfold recommend at hc
  split at hc
  · exact ⟨c, hc, rfl, rfl⟩
  · cases graph : runGraph budget model request with
    | none =>
      rw [graph] at hc
      exact ⟨c, hc, rfl, rfl⟩
    | some result =>
      rw [graph] at hc
      simp only [runGraph, Option.bind_eq_bind, Option.bind_eq_some_iff, Option.pure_def, Option.some.injEq] at graph
      obtain ⟨strategies, -, candidates, hydrated, ranking, -, ranked, reranked, rfl⟩ := graph
      obtain ⟨d, hd, same, attempt⟩ := rerank_types reranked c hc
      simp only [hydrateCandidates, Option.bind_eq_bind, Option.bind_eq_some_iff, Option.pure_def,
        Option.some.injEq] at hydrated
      obtain ⟨items, found, noAction, template, rfl⟩ := hydrated
      rcases List.mem_append.mp hd with hd | hd
      · obtain ⟨e, he, e_same, e_attempt⟩ := hydrate_types found d hd
        exact ⟨e, he, e_same.trans same, e_attempt.trans attempt⟩
      · rw [List.mem_singleton] at hd
        subst hd
        exact ⟨noAction, (template_mem template).1, (template_mem template).2.trans same, attempt⟩

end RevenueGuard
