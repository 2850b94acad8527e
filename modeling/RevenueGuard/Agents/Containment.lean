import RevenueGuard.Agents.Intelligence
import RevenueGuard.Kit.Failures
import RevenueGuard.Kit.Hmac
import RevenueGuard.Kit.Json

/-
What an untrusted model can do to a recommendation: choose, score and order
among the deterministic candidates, and lower the confidence. Every call it gets
wrong, and every graph it breaks, leaves the deterministic answer.
-/
namespace RevenueGuard

variable {request : CaseIntelligenceRequest} {budget : AgentBudget}

section graph

/-- Distinct candidate types, the last of them `NO_ACTION`. -/
structure CaseIntelligenceRequest.Offers (request : CaseIntelligenceRequest) : Prop where
  closed : ∃ c, request.candidates.getLast? = some c ∧ c.actionType = .noAction
  distinct : (request.candidates.map (·.actionType)).Nodup

/-- The candidate proposes what `d` does; its scores and rank are its own. -/
structure CandidateAction.Proposes (c d : CandidateAction) : Prop where
  actionType : d.actionType = c.actionType
  target : d.target = c.target
  channel : d.channel = c.channel
  logicalAttempt : d.logicalAttempt = c.logicalAttempt

theorem template_own (distinct : (request.candidates.map (·.actionType)).Nodup) {d : CandidateAction}
    (member : d ∈ request.candidates) : request.template d.actionType = some d := by
  cases found : request.template d.actionType with
  | none =>
    have missed := List.find?_eq_none.mp found d (List.mem_reverse.mpr member)
    exact absurd (decide_eq_true rfl) missed
  | some c =>
    obtain ⟨known, same⟩ := template_mem found
    exact congrArg some (List.inj_on_of_nodup_map distinct known member same)

theorem template_isSome {t : ActionType} (member : ∃ d ∈ request.candidates, d.actionType = t) :
    (request.template t).isSome = true := by
  obtain ⟨d, known, same⟩ := member
  rw [CaseIntelligenceRequest.template, List.find?_isSome]
  exact ⟨d, List.mem_reverse.mpr known, decide_eq_true same⟩

/-- An item may be hydrated: its type is a candidate's, other than `NO_ACTION`, and so is its channel. -/
def StrategyOutputItem.Supported (request : CaseIntelligenceRequest) (item : StrategyOutputItem) : Prop :=
  item.actionType ≠ .noAction ∧ ∃ d, request.template item.actionType = some d ∧ item.channel = d.channel

theorem strategyAllowed_supported {item : StrategyOutputItem} (allowed : strategyAllowed request item = true) :
    item.Supported request ∧ -(request.amountMinor : Int) ≤ item.expectedNetRecoveryMinor ∧
      item.expectedNetRecoveryMinor ≤ request.amountMinor := by
  unfold strategyAllowed at allowed
  split at allowed
  · cases allowed
  · rename_i template found
    split at found
    · cases found
    · rename_i ordinary
      simp only [Bool.and_eq_true, beq_iff_eq, decide_eq_true_eq] at allowed
      exact ⟨⟨ordinary, template, found, allowed.1⟩, allowed.2⟩

theorem fallbackStrategies_ok {output : StrategyOutput} (h : fallbackStrategies request = some output) :
    output.strategies = (request.candidates.filter fun c => decide (c.actionType ≠ .noAction)).map (·.strategy) := by
  unfold fallbackStrategies at h
  dsimp only at h
  split at h
  · split at h
    · cases h
      rfl
    · cases h
  · cases h

theorem mem_fallbackStrategies {output : StrategyOutput} (h : fallbackStrategies request = some output)
    {item : StrategyOutputItem} (member : item ∈ output.strategies) :
    ∃ d ∈ request.candidates, d.actionType ≠ .noAction ∧ d.strategy = item := by
  rw [fallbackStrategies_ok h] at member
  obtain ⟨d, kept, same⟩ := List.mem_map.mp member
  obtain ⟨known, ordinary⟩ := List.mem_filter.mp kept
  exact ⟨d, known, of_decide_eq_true ordinary, same⟩

theorem fallbackStrategies_supported (distinct : (request.candidates.map (·.actionType)).Nodup) {output : StrategyOutput}
    (h : fallbackStrategies request = some output) : ∀ item ∈ output.strategies, item.Supported request := by
  intro item member
  obtain ⟨d, known, ordinary, same⟩ := mem_fallbackStrategies h member
  subst same
  exact ⟨ordinary, d, template_own distinct known, rfl⟩

/-- A hydrated item keeps its scores and takes its target and attempt from the candidate of its type. -/
theorem hydrate_ok : ∀ {items : List StrategyOutputItem} {n : Nat} {cs : List CandidateAction},
    (∀ item ∈ items, item.Supported request) → hydrate request n items = some cs →
      cs.map (·.actionType) = items.map (·.actionType) ∧ ∀ c ∈ cs, ∃ item ∈ items,
        item.actionType = c.actionType ∧ item.expectedNetRecoveryMinor = c.expectedNetRecoveryMinor ∧
          ∃ d ∈ request.candidates, c.Proposes d := by
  intro items
  induction items with
  | nil =>
    intro n cs _ h
    cases h
    exact ⟨rfl, fun c none => (List.not_mem_nil none).elim⟩
  | cons item rest ih =>
    intro n cs supported h
    simp only [hydrate, Option.bind_eq_bind, Option.bind_eq_some_iff, Option.pure_def, Option.some.injEq] at h
    obtain ⟨template, found, others, tail, rfl⟩ := h
    obtain ⟨types, sources⟩ := ih (fun i later => supported i (List.mem_cons_of_mem _ later)) tail
    obtain ⟨-, d, same, channel⟩ := supported item List.mem_cons_self
    rw [found] at same
    cases same
    refine ⟨congrArg (item.actionType :: ·) types, fun c member => ?_⟩
    rcases List.mem_cons.mp member with rfl | member
    · obtain ⟨known, named⟩ := template_mem found
      exact ⟨item, List.mem_cons_self, rfl, rfl, template, known, ⟨named, rfl, channel.symm, rfl⟩⟩
    · obtain ⟨i, later, rest⟩ := sources c member
      exact ⟨i, List.mem_cons_of_mem _ later, rest⟩

theorem hydrate_isSome : ∀ {items : List StrategyOutputItem} {n : Nat},
    (∀ item ∈ items, item.Supported request) → ∃ cs, hydrate request n items = some cs := by
  intro items
  induction items with
  | nil => exact fun _ => ⟨[], rfl⟩
  | cons item rest ih =>
    intro n supported
    obtain ⟨-, d, found, -⟩ := supported item List.mem_cons_self
    obtain ⟨others, tail⟩ := ih (n := n + 1) fun i later => supported i (List.mem_cons_of_mem _ later)
    simp only [hydrate, found, tail, Option.bind_eq_bind, Option.bind_some, Option.pure_def]
    exact ⟨_, rfl⟩

/-- Reordered candidates come in the order asked for, ranked from the given rank on. -/
theorem rerank_ok {candidates : List CandidateAction} : ∀ {types : List ActionType} {n : Nat} {cs : List CandidateAction},
    rerank candidates n types = some cs → cs.map (·.actionType) = types ∧
      cs.map (·.rank) = List.range' (n + 1) cs.length ∧ ∀ c ∈ cs, ∃ d ∈ candidates, c.Proposes d ∧
        d.expectedNetRecoveryMinor = c.expectedNetRecoveryMinor := by
  intro types
  induction types with
  | nil =>
    intro n cs h
    cases h
    exact ⟨rfl, rfl, fun c none => (List.not_mem_nil none).elim⟩
  | cons t rest ih =>
    intro n cs h
    simp only [rerank, Option.bind_eq_bind, Option.bind_eq_some_iff, Option.pure_def, Option.some.injEq] at h
    obtain ⟨candidate, found, others, tail, rfl⟩ := h
    obtain ⟨types, ranks, sources⟩ := ih tail
    have named : candidate.actionType = t := by simpa using List.find?_some found
    refine ⟨?_, ?_, fun c member => ?_⟩
    · rw [List.map_cons, types, ← named]
    · rw [List.map_cons, ranks, List.length_cons, List.range'_succ]
    · rcases List.mem_cons.mp member with rfl | member
      · exact ⟨candidate, List.mem_reverse.mp (List.mem_of_find?_eq_some found), ⟨rfl, rfl, rfl, rfl⟩, rfl⟩
      · exact sources c member

theorem rerank_isSome {candidates : List CandidateAction} : ∀ {types : List ActionType} {n : Nat},
    (∀ t ∈ types, ∃ c ∈ candidates, c.actionType = t) → ∃ cs, rerank candidates n types = some cs := by
  intro types
  induction types with
  | nil => exact fun _ => ⟨[], rfl⟩
  | cons t rest ih =>
    intro n known
    obtain ⟨others, tail⟩ := ih (n := n + 1) fun u later => known u (List.mem_cons_of_mem _ later)
    obtain ⟨c, member, same⟩ := known t List.mem_cons_self
    have found : (candidates.reverse.find? fun c => decide (c.actionType = t)).isSome = true := by
      rw [List.find?_isSome]
      exact ⟨c, List.mem_reverse.mpr member, decide_eq_true same⟩
    obtain ⟨d, found⟩ := Option.isSome_iff_exists.mp found
    simp only [rerank, found, tail, Option.bind_eq_bind, Option.bind_some, Option.pure_def]
    exact ⟨_, rfl⟩

/-- A graph that ran to its end, whatever the model said. -/
structure CaseIntelligenceResult.Contained (request : CaseIntelligenceRequest) (result : CaseIntelligenceResult) : Prop where
  distinct : (result.candidates.map (·.actionType)).Nodup
  known : ∀ c ∈ result.candidates, ∃ d ∈ request.candidates, c.Proposes d
  closed : ∃ c, result.candidates.getLast? = some c ∧ c.actionType = .noAction
  confidence : result.confidenceBasisPoints ≤ request.diagnosisConfidenceBasisPoints
  terminal : request.terminalDiagnosis = true → result.diagnosisCode = request.diagnosisCode

theorem diagnose_contained (budget : AgentBudget) (model : ModelBehaviour) (request : CaseIntelligenceRequest) :
    (diagnose budget model request).confidenceBasisPoints ≤ request.diagnosisConfidenceBasisPoints ∧
      (request.terminalDiagnosis = true → (diagnose budget model request).diagnosisCode = request.diagnosisCode) := by
  unfold diagnose
  dsimp only
  rcases invokeModel_spec budget model.diagnosis _ _ (budget.maxModelRetries + 1) 0 with fallback | valid
  · rw [fallback]
    exact ⟨le_rfl, fun _ => rfl⟩
  · simp only [Bool.and_eq_true, Bool.not_eq_true', Bool.and_eq_false_iff, decide_eq_true_eq] at valid
    refine ⟨valid.2, fun terminal => ?_⟩
    rcases valid.1 with open_ | same
    · rw [terminal] at open_
      cases open_
    · simpa using same

theorem hydrateCandidates_ok {output : StrategyOutput} {candidates : List CandidateAction}
    (supported : ∀ item ∈ output.strategies, item.Supported request)
    (h : hydrateCandidates request output = some candidates) :
    candidates.map (·.actionType) = output.strategies.map (·.actionType) ++ [.noAction] ∧
      ∀ c ∈ candidates, (∃ d ∈ request.candidates, c.Proposes d) ∧
        ((c.actionType = .noAction ∧ c.expectedNetRecoveryMinor = 0) ∨ ∃ item ∈ output.strategies,
          item.actionType = c.actionType ∧ item.expectedNetRecoveryMinor = c.expectedNetRecoveryMinor) := by
  simp only [hydrateCandidates, Option.bind_eq_bind, Option.bind_eq_some_iff, Option.pure_def, Option.some.injEq] at h
  obtain ⟨hydrated, items, noAction, template, rfl⟩ := h
  obtain ⟨types, sources⟩ := hydrate_ok supported items
  refine ⟨?_, fun c member => ?_⟩
  · rw [List.map_append, types]
    rfl
  · rcases List.mem_append.mp member with member | last
    · obtain ⟨item, there, same, value, known⟩ := sources c member
      exact ⟨known, .inr ⟨item, there, same, value⟩⟩
    · rw [List.mem_singleton.mp last]
      obtain ⟨known, named⟩ := template_mem template
      have silent : noAction.channel = none := by
        have iff := noAction.channel_iff
        rw [named] at iff
        simpa [ActionType.actionClass] using iff
      exact ⟨⟨noAction, known, ⟨named, rfl, silent, rfl⟩⟩, .inl ⟨rfl, rfl⟩⟩

theorem fallbackRanking_ok {candidates : List CandidateAction} {ranking : RankingOutput}
    (h : fallbackRanking candidates = some ranking) : ranking.orderedActionTypes = candidates.map (·.actionType) := by
  unfold fallbackRanking at h
  dsimp only at h
  split at h
  · split at h
    · cases h
      rfl
    · cases h
  · cases h

/-- The strategies a run goes on with are supported, be they the model's or the fallback's. -/
theorem strategies_supported (distinct : (request.candidates.map (·.actionType)).Nodup) {strategies output : StrategyOutput}
    (fallback : fallbackStrategies request = some strategies)
    (chosen : output = strategies ∨ output.strategies.all (strategyAllowed request) = true) :
    ∀ item ∈ output.strategies, item.Supported request := by
  rcases chosen with same | allowed
  · rw [same]
    exact fallbackStrategies_supported distinct fallback
  · exact fun item member => (strategyAllowed_supported (List.all_eq_true.mp allowed item member)).1

/-- An order of the candidates, be it the model's or the fallback's: all of them are there, `NO_ACTION` last. -/
theorem ranking_closed {candidates : List CandidateAction} {ranking order : RankingOutput} {types : List ActionType}
    (listed : candidates.map (·.actionType) = types ++ [.noAction]) (fallback : fallbackRanking candidates = some ranking)
    (chosen : order = ranking ∨ rankingAllowed candidates order = true) :
    order.orderedActionTypes.getLast? = some .noAction ∧
      ∀ t ∈ order.orderedActionTypes, ∃ c ∈ candidates, c.actionType = t := by
  rcases chosen with same | allowed
  · rw [same, fallbackRanking_ok fallback]
    refine ⟨by rw [listed, List.getLast?_append]; rfl, fun t member => ?_⟩
    exact List.mem_map.mp member
  · simp only [rankingAllowed, Bool.and_eq_true, List.all_eq_true, List.any_eq_true, beq_iff_eq] at allowed
    exact ⟨allowed.2, allowed.1.1⟩

theorem runGraph_contained {model : ModelBehaviour} {result : CaseIntelligenceResult} (offers : request.Offers)
    (h : runGraph budget model request = some result) :
    result.Contained request ∧ result.candidates.map (·.rank) = List.range' 1 result.candidates.length ∧
      result.diagnosisCode = (diagnose budget model request).diagnosisCode := by
  simp only [runGraph, Option.bind_eq_bind, Option.bind_eq_some_iff, Option.pure_def, Option.some.injEq] at h
  obtain ⟨strategies, fallback, candidates, hydrated, ranking, ranked, reranked, sorted, rfl⟩ := h
  have supported := strategies_supported offers.distinct fallback (invokeModel_spec budget model.strategies strategies
    (fun output => output.strategies.all (strategyAllowed request)) (budget.maxModelRetries + 1) 0)
  obtain ⟨listed, sources⟩ := hydrateCandidates_ok supported hydrated
  obtain ⟨last, -⟩ := ranking_closed listed ranked
    (invokeModel_spec budget model.ranking ranking (rankingAllowed candidates) (budget.maxModelRetries + 1) 0)
  obtain ⟨types, ranks, kept⟩ := rerank_ok sorted
  obtain ⟨confidence, terminal⟩ := diagnose_contained budget model request
  refine ⟨⟨?_, fun c member => ?_, ?_, confidence, terminal⟩, ranks, rfl⟩
  · rw [types]
    exact RankingOutput.distinct _
  · obtain ⟨d, there, proposes, -⟩ := kept c member
    obtain ⟨e, known, source⟩ := (sources d there).1
    exact ⟨e, known, source.actionType.trans proposes.actionType, source.target.trans proposes.target,
      source.channel.trans proposes.channel, source.logicalAttempt.trans proposes.logicalAttempt⟩
  · rw [← types, List.getLast?_map] at last
    obtain ⟨c, final, named⟩ := Option.map_eq_some_iff.mp last
    exact ⟨c, final, named⟩

def everyActionType : List ActionType :=
  [.deferRetry, .requestPaymentMethodUpdate, .createPaymentLink, .sendReminder, .schedulePromiseReminder, .pauseRetries,
    .resumeDeferredCase, .escalateHuman, .stopAutomation, .noAction]

theorem mem_everyActionType (t : ActionType) : t ∈ everyActionType := by
  cases t <;> decide

theorem actionTypes_length {types : List ActionType} (distinct : types.Nodup) : types.length ≤ 10 :=
  (List.subperm_of_subset distinct fun t _ => mem_everyActionType t).length_le

theorem fallbackStrategies_isSome (offers : request.Offers) (other : ∃ d ∈ request.candidates, d.actionType ≠ .noAction) :
    ∃ output, fallbackStrategies request = some output := by
  unfold fallbackStrategies
  dsimp only
  generalize listed : (request.candidates.filter fun c => decide (c.actionType ≠ .noAction)).map (·.strategy) = items
  have types : items.map (·.actionType) =
      (request.candidates.filter fun c => decide (c.actionType ≠ .noAction)).map (·.actionType) := by
    rw [← listed, List.map_map]
    rfl
  have distinct : (items.map (·.actionType)).Nodup := by
    rw [types]
    exact offers.distinct.sublist (List.filter_sublist.map _)
  have ordinary : ActionType.noAction ∉ items.map (·.actionType) := by
    rw [types]
    intro member
    obtain ⟨c, kept, named⟩ := List.mem_map.mp member
    exact of_decide_eq_true (List.mem_filter.mp kept).2 named
  have room := actionTypes_length (List.nodup_cons.mpr ⟨ordinary, distinct⟩)
  have some_ : 1 ≤ items.length := by
    obtain ⟨d, known, other⟩ := other
    have member : d.strategy ∈ items := by
      rw [← listed]
      exact List.mem_map_of_mem (List.mem_filter.mpr ⟨known, decide_eq_true other⟩)
    exact List.length_pos_of_mem member
  rw [List.length_cons, List.length_map] at room
  rw [dif_pos ⟨some_, by omega⟩, dif_pos distinct]
  exact ⟨_, rfl⟩

/-- With a candidate besides `NO_ACTION` the graph runs to its end, whatever the model answers. -/
theorem runGraph_isSome (model : ModelBehaviour) (offers : request.Offers)
    (other : ∃ d ∈ request.candidates, d.actionType ≠ .noAction) : ∃ result, runGraph budget model request = some result := by
  obtain ⟨strategies, fallback⟩ := fallbackStrategies_isSome offers other
  let output := invokeModel budget model.strategies strategies
    (fun output => output.strategies.all (strategyAllowed request)) 0 (budget.maxModelRetries + 1)
  have supported : ∀ item ∈ output.strategies, item.Supported request :=
    strategies_supported offers.distinct fallback (invokeModel_spec budget model.strategies strategies
      (fun output => output.strategies.all (strategyAllowed request)) (budget.maxModelRetries + 1) 0)
  obtain ⟨items, hydrated⟩ : ∃ items, hydrate request 0 output.strategies = some items := hydrate_isSome supported
  obtain ⟨last, final, named⟩ := offers.closed
  have closing := template_isSome ⟨last, List.mem_of_getLast? final, named⟩
  obtain ⟨noAction, template⟩ := Option.isSome_iff_exists.mp closing
  obtain ⟨candidates, all⟩ : ∃ candidates, hydrateCandidates request output = some candidates := by
    simp only [hydrateCandidates, hydrated, template, Option.bind_eq_bind, Option.bind_some, Option.pure_def]
    exact ⟨_, rfl⟩
  obtain ⟨listed, -⟩ := hydrateCandidates_ok supported all
  have distinct : (candidates.map (·.actionType)).Nodup := by
    rw [listed, List.nodup_append]
    refine ⟨output.distinct, List.nodup_singleton _, fun t member u closing same => ?_⟩
    obtain ⟨item, there, rfl⟩ := List.mem_map.mp member
    exact (supported item there).1 (same.trans (List.mem_singleton.mp closing))
  have ranked : ∃ ranking, fallbackRanking candidates = some ranking := by
    have bounds : 1 ≤ (candidates.map (·.actionType)).length ∧ (candidates.map (·.actionType)).length ≤ 10 := by
      refine ⟨?_, actionTypes_length distinct⟩
      rw [listed, List.length_append, List.length_singleton]
      omega
    unfold fallbackRanking
    dsimp only
    rw [dif_pos bounds, dif_pos distinct]
    exact ⟨_, rfl⟩
  obtain ⟨ranking, ranked⟩ := ranked
  obtain ⟨-, known⟩ := ranking_closed listed ranked
    (invokeModel_spec budget model.ranking ranking (rankingAllowed candidates) (budget.maxModelRetries + 1) 0)
  obtain ⟨sorted, reranked⟩ := rerank_isSome (n := 0) known
  simp only [runGraph, fallback, Option.bind_eq_bind, Option.bind_some, Option.pure_def]
  rw [show hydrateCandidates request (invokeModel budget model.strategies strategies
    (fun output => output.strategies.all (strategyAllowed request)) 0 (budget.maxModelRetries + 1)) = some candidates from all]
  simp only [Option.bind_some, ranked, reranked]
  exact ⟨_, rfl⟩

end graph

section untrusted

variable {Payload Out : Type}

inductive ModelNode where
  | diagnosisAssistance | strategyGeneration | ranking | explanation | graph
deriving DecidableEq, Repr

inductive PredictionStatus where
  | succeeded | fallback
deriving DecidableEq, Repr

def ModelNode.value : ModelNode → String
  | .diagnosisAssistance => "DIAGNOSIS_ASSISTANCE"
  | .strategyGeneration => "STRATEGY_GENERATION"
  | .ranking => "RANKING"
  | .explanation => "EXPLANATION"
  | .graph => "GRAPH"

structure ModelPrediction where
  predictionId : Identifier
  runId : Identifier
  caseId : Identifier
  merchantId : Identifier
  correlationId : Identifier
  node : ModelNode
  status : PredictionStatus
  modelVersion : Identifier
  promptVersion : Identifier
  schemaVersion : Identifier
  featureVersion : Identifier
  inputTokens : Nat
  outputTokens : Nat
  failureCode : Option String
  failure_iff : failureCode.isSome = true ↔ status = .fallback
deriving DecidableEq

/-- A request with the texts of its trace and its context, which its constructor only wants not to be empty. -/
structure TracedRequest extends CaseIntelligenceRequest where
  runId : String
  caseId : String
  merchantId : String
  correlationId : String
  currency : String
  featureVersion : String
  required : ∀ text ∈ [runId, caseId, merchantId, correlationId, currency, featureVersion], text ≠ ""

/-- One call of `generate`: a response of any payload, an exception of any kind, its own timeout, or the end of the
whole workflow's time during it. -/
inductive ModelCall (Payload : Type) where
  | unavailable | timeout | error | expired
  | response (payload : Payload) (inputTokens outputTokens : Nat)

structure StructuredModel (Payload : Type) where
  modelVersion : String
  generate : ModelNode → Nat → ModelCall Payload

structure BoundedCaseIntelligence (Payload : Type) where
  model : StructuredModel Payload
  budget : AgentBudget := {}
  promptVersion : String := "phase5-case-intelligence-1.0"
  schemaVersion : String := "phase5-agent-schema-1.0"
  required : promptVersion ≠ "" ∧ schemaVersion ≠ "" := by decide

/-- `model_validate`, which rejects or builds an output, and `model_dump` of one schema. -/
structure OutputSchema (Payload Out : Type) where
  modelValidate : Payload → Option Out
  modelDump : Out → Payload

structure ExplanationOutput where
  explanation : String
  bounds : 1 ≤ explanation.length ∧ explanation.length ≤ 2000

/-- What a response passes on its way in: four schemas and the redaction between their two validations. -/
structure ModelBoundary (Payload : Type) where
  redactModelPayload : Payload → Payload
  diagnosis : OutputSchema Payload DiagnosisOutput
  strategies : OutputSchema Payload StrategyOutput
  ranking : OutputSchema Payload RankingOutput
  explanation : OutputSchema Payload ExplanationOutput

def OutputSchema.read (schema : OutputSchema Payload Out) (redact : Payload → Payload) (payload : Payload) : Option Out := do
  let output ← schema.modelValidate payload
  schema.modelValidate (redact (schema.modelDump output))

inductive GraphFailure where
  | timeout | error
deriving DecidableEq, Repr

def GraphFailure.code : GraphFailure → String
  | .timeout => "GRAPH_TIMEOUT"
  | .error => "GRAPH_ERROR"

/-- What a node remembers of its failed attempts. -/
structure ModelTally where
  failureCode : String := "MODEL_ERROR"
  inputTokens : Nat := 0
  outputTokens : Nat := 0

structure NodeOutput (Out : Type) where
  output : Out
  prediction : ModelPrediction

/-- A text of `ModelPrediction`, as its constructor checks it. -/
def predictionText (name value : String) : Except Failure Identifier :=
  if named : wellNamed value = true then .ok ⟨value, wellNamed_ok named⟩
  else .error (.value (name ++ " must contain 1 to 128 characters"))

def BoundedCaseIntelligence.predictionId (intelligence : BoundedCaseIntelligence Payload) (request : TracedRequest)
    (node : ModelNode) : String :=
  let material := request.runId ++ ":" ++ node.value ++ ":" ++ intelligence.promptVersion ++ ":" ++ intelligence.schemaVersion
  "prediction_" ++ String.ofList ((Sha256.hexdigest (Json.utf8 material.toList)).toList.take 32)

/-- `_prediction`. Digest, latency and time of a prediction are always well formed. -/
def BoundedCaseIntelligence.prediction (intelligence : BoundedCaseIntelligence Payload) (request : TracedRequest)
    (node : ModelNode) (status : PredictionStatus) (inputTokens outputTokens : Nat) (failureCode : Option String)
    (failure_iff : failureCode.isSome = true ↔ status = .fallback) : Except Failure ModelPrediction := do
  let predictionId ← predictionText "prediction_id" (intelligence.predictionId request node)
  let runId ← predictionText "run_id" request.runId
  let caseId ← predictionText "case_id" request.caseId
  let merchantId ← predictionText "merchant_id" request.merchantId
  let correlationId ← predictionText "correlation_id" request.correlationId
  let modelVersion ← predictionText "model_version" intelligence.model.modelVersion
  let promptVersion ← predictionText "prompt_version" intelligence.promptVersion
  let schemaVersion ← predictionText "schema_version" intelligence.schemaVersion
  let featureVersion ← predictionText "feature_version" request.featureVersion
  pure { predictionId, runId, caseId, merchantId, correlationId, node, status, modelVersion, promptVersion,
         schemaVersion, featureVersion, inputTokens, outputTokens, failureCode, failure_iff }

def BoundedCaseIntelligence.nodeFallback (intelligence : BoundedCaseIntelligence Payload) (request : TracedRequest)
    (node : ModelNode) (fallback : Out) (tally : ModelTally) : Except Failure (NodeOutput Out) :=
  (intelligence.prediction request node .fallback tally.inputTokens tally.outputTokens (some tally.failureCode)
    (by simp)).map (NodeOutput.mk fallback)

def BoundedCaseIntelligence.nodeSuccess (intelligence : BoundedCaseIntelligence Payload) (request : TracedRequest)
    (node : ModelNode) (output : Out) (inputTokens outputTokens : Nat) : Except Failure (NodeOutput Out) :=
  (intelligence.prediction request node .succeeded inputTokens outputTokens none (by simp)).map (NodeOutput.mk output)

/-- An exception of a node ends the graph. -/
def raises {A : Type} (x : Except Failure A) : Except GraphFailure A := x.mapError fun _ => .error

/-- `_invoke_model`. Tokens of a response within the limit are kept even when its payload is not. An accepted output
whose prediction cannot be built is a rejected one; the prediction of a fallback is built outside of the `try`. -/
def BoundedCaseIntelligence.invokeNode (intelligence : BoundedCaseIntelligence Payload) (request : TracedRequest)
    (redact : Payload → Payload) (schema : OutputSchema Payload Out) (node : ModelNode) (fallback : Out)
    (validate : Out → Bool) : ModelTally → Nat → Nat → Except GraphFailure (NodeOutput Out)
  | tally, _, 0 => raises (intelligence.nodeFallback request node fallback tally)
  | tally, attempt, fuel + 1 =>
    let again (tally : ModelTally) :=
      intelligence.invokeNode request redact schema node fallback validate tally (attempt + 1) fuel
    match intelligence.model.generate node attempt with
    | .unavailable =>
      raises (intelligence.nodeFallback request node fallback { tally with failureCode := "MODEL_UNAVAILABLE" })
    | .expired => .error .timeout
    | .timeout => again { tally with failureCode := "MODEL_TIMEOUT" }
    | .error => again { tally with failureCode := "MODEL_ERROR" }
    | .response payload inputTokens outputTokens =>
      if intelligence.budget.maxOutputTokens < outputTokens then
        again { tally with failureCode := "MODEL_TOKEN_LIMIT_EXCEEDED" }
      else match schema.read redact payload with
        | none => again ⟨"MODEL_OUTPUT_INVALID", inputTokens, outputTokens⟩
        | some output =>
          if validate output then
            match intelligence.nodeSuccess request node output inputTokens outputTokens with
            | .ok accepted => .ok accepted
            | .error _ => again ⟨"MODEL_OUTPUT_REJECTED", inputTokens, outputTokens⟩
          else again ⟨"MODEL_OUTPUT_REJECTED", inputTokens, outputTokens⟩

def deterministicExplanation (diagnosisCode : Identifier) : ExplanationOutput :=
  { explanation := "Deterministic fallback retained " ++ diagnosisCode.val ++
      "; the deterministic policy engine makes the final authorization decision."
    bounds := by
      have bound := diagnosisCode.property.2
      simp only [String.length_append]
      have first : "Deterministic fallback retained ".length = 32 := by decide
      have last : "; the deterministic policy engine makes the final authorization decision.".length = 73 := by decide
      omega }

/-- `^[A-Z][A-Z0-9_]*$`, the pattern of a diagnosis code; an identifier is short enough for its length. -/
def diagnosisCodePattern (code : Identifier) : Bool :=
  match code.val.toList with
  | [] => false
  | first :: rest => first.isUpper && rest.all fun c => c.isUpper || c.isDigit || c == '_'

def diagnosisAllowed (request : CaseIntelligenceRequest) (output : DiagnosisOutput) : Bool :=
  !(request.terminalDiagnosis && output.diagnosisCode != request.diagnosisCode) &&
    decide (output.confidenceBasisPoints ≤ request.diagnosisConfidenceBasisPoints)

/-- A recommendation with its explanation, its versions and the trace of its predictions. -/
structure TracedResult extends CaseIntelligenceResult where
  explanation : String
  predictions : List ModelPrediction
  modelVersion : String
  promptVersion : String
  schemaVersion : String
  featureVersion : String
  fallbackUsed : Bool

/-- `CaseIntelligenceResult.__post_init__`. -/
def TracedResult.checked (result : TracedResult) : Except Failure TracedResult :=
  if result.explanation = "" then .error (.value "diagnosis and explanation are required")
  else if ¬ ∃ c, result.candidates.getLast? = some c ∧ c.actionType = .noAction then
    .error (.value "recommendation candidates must end with NO_ACTION")
  else if result.predictions = [] then .error (.value "recommendation requires traceable predictions")
  else if result.modelVersion = "" then .error (.value "model_version is required")
  else if result.promptVersion = "" then .error (.value "prompt_version is required")
  else if result.schemaVersion = "" then .error (.value "schema_version is required")
  else if result.featureVersion = "" then .error (.value "feature_version is required")
  else .ok result

def raised {A : Type} : Option A → Except GraphFailure A
  | some a => .ok a
  | none => .error .error

/-- The result of a run and its trace. -/
def BoundedCaseIntelligence.traced (intelligence : BoundedCaseIntelligence Payload) (request : TracedRequest)
    (result : CaseIntelligenceResult) (explanation : String) (predictions : List ModelPrediction) : TracedResult :=
  { result with
    explanation := explanation
    predictions := predictions
    modelVersion := intelligence.model.modelVersion
    promptVersion := intelligence.promptVersion
    schemaVersion := intelligence.schemaVersion
    featureVersion := request.featureVersion
    fallbackUsed := predictions.any fun p => p.status == .fallback }

/-- The graph, node after node; building its context or a fallback can raise. -/
def ainvoke (boundary : ModelBoundary Payload) (intelligence : BoundedCaseIntelligence Payload) (request : TracedRequest) :
    Except GraphFailure TracedResult := do
  let attempts := intelligence.budget.maxModelRetries + 1
  let redact := boundary.redactModelPayload
  let _ ← raised (if diagnosisCodePattern request.diagnosisCode && threeCapitals request.currency then some () else none)
  let diagnosis ← intelligence.invokeNode request redact boundary.diagnosis .diagnosisAssistance
    ⟨request.diagnosisCode, request.diagnosisConfidenceBasisPoints, request.confidence_le⟩
    (diagnosisAllowed request.toCaseIntelligenceRequest) {} 0 attempts
  let fallback ← raised (fallbackStrategies request.toCaseIntelligenceRequest)
  let strategies ← intelligence.invokeNode request redact boundary.strategies .strategyGeneration fallback
    (fun output => output.strategies.all (strategyAllowed request.toCaseIntelligenceRequest)) {} 0 attempts
  let candidates ← raised (hydrateCandidates request.toCaseIntelligenceRequest strategies.output)
  let deterministic ← raised (fallbackRanking candidates)
  let ranking ← intelligence.invokeNode request redact boundary.ranking .ranking deterministic (rankingAllowed candidates)
    {} 0 attempts
  let ranked ← raised (rerank candidates 0 ranking.output.orderedActionTypes)
  let explanation ← intelligence.invokeNode request redact boundary.explanation .explanation
    (deterministicExplanation diagnosis.output.diagnosisCode) (fun _ => true) {} 0 attempts
  let result : CaseIntelligenceResult :=
    { diagnosisCode := diagnosis.output.diagnosisCode
      confidenceBasisPoints := diagnosis.output.confidenceBasisPoints
      candidates := ranked
      confidence_le := diagnosis.output.confidence_le }
  pure (intelligence.traced request result explanation.output.explanation
    [diagnosis.prediction, strategies.prediction, ranking.prediction, explanation.prediction])

/-- `_graph_fallback`, whose prediction is built like any other. -/
def tracedFallback (intelligence : BoundedCaseIntelligence Payload) (request : TracedRequest) (failure : GraphFailure) :
    Except Failure TracedResult := do
  let explanation := deterministicExplanation request.diagnosisCode
  let node ← intelligence.nodeFallback request .graph explanation ⟨failure.code, 0, 0⟩
  (intelligence.traced request (graphFallback request.toCaseIntelligenceRequest) explanation.explanation
    [node.prediction]).checked

/-- `_recommend_untraced`. -/
def recommendUntraced (boundary : ModelBoundary Payload) (intelligence : BoundedCaseIntelligence Payload)
    (request : TracedRequest) : Except Failure TracedResult :=
  match ainvoke boundary intelligence request with
  | .ok result => result.checked
  | .error failure => tracedFallback intelligence request failure

/-- What a node makes of a call, its trace apart. -/
def ModelCall.attempt (redact : Payload → Payload) (schema : OutputSchema Payload Out) : ModelCall Payload → ModelAttempt Out
  | .unavailable => .unavailable
  | .timeout => .timeout
  | .expired => .timeout
  | .error => .error
  | .response payload _ outputTokens => .response outputTokens (schema.read redact payload)

def ModelBoundary.behaviour (boundary : ModelBoundary Payload) (model : StructuredModel Payload) (graphFails : Bool) :
    ModelBehaviour :=
  { diagnosis := fun n => (model.generate .diagnosisAssistance n).attempt boundary.redactModelPayload boundary.diagnosis
    strategies := fun n => (model.generate .strategyGeneration n).attempt boundary.redactModelPayload boundary.strategies
    ranking := fun n => (model.generate .ranking n).attempt boundary.redactModelPayload boundary.ranking
    graphFails := graphFails }

/-- The texts every prediction carries have 1 to 128 characters. -/
structure BoundedCaseIntelligence.Traceable (intelligence : BoundedCaseIntelligence Payload) (request : TracedRequest) :
    Prop where
  runId : wellNamed request.runId = true
  caseId : wellNamed request.caseId = true
  merchantId : wellNamed request.merchantId = true
  correlationId : wellNamed request.correlationId = true
  modelVersion : wellNamed intelligence.model.modelVersion = true
  promptVersion : wellNamed intelligence.promptVersion = true
  schemaVersion : wellNamed intelligence.schemaVersion = true
  featureVersion : wellNamed request.featureVersion = true

variable {boundary : ModelBoundary Payload} {intelligence : BoundedCaseIntelligence Payload} {request : TracedRequest}
  {redact : Payload → Payload} {schema : OutputSchema Payload Out} {node : ModelNode} {fallback : Out} {validate : Out → Bool}

theorem predictionText_ok {name value : String} (named : wellNamed value = true) :
    predictionText name value = .ok ⟨value, wellNamed_ok named⟩ := dif_pos named

theorem predictionId_named (intelligence : BoundedCaseIntelligence Payload) (request : TracedRequest) (node : ModelNode) :
    wellNamed (intelligence.predictionId request node) = true := by
  have eleven : "prediction_".length = 11 := by decide
  have length : (intelligence.predictionId request node).length = 43 := by
    rw [BoundedCaseIntelligence.predictionId, String.length_append, eleven, String.length_ofList, List.length_take,
      String.length_toList, Sha256.hexdigest_length]
    rfl
  have filled : intelligence.predictionId request node ≠ "" := by
    intro empty
    rw [empty] at length
    cases length
  simp [wellNamed, filled, length]

theorem prediction_ok (traceable : intelligence.Traceable request) (node : ModelNode) (status : PredictionStatus)
    (inputTokens outputTokens : Nat) (failureCode : Option String)
    (failure_iff : failureCode.isSome = true ↔ status = .fallback) :
    ∃ p, intelligence.prediction request node status inputTokens outputTokens failureCode failure_iff = .ok p ∧
      p.node = node ∧ p.status = status := by
  rw [BoundedCaseIntelligence.prediction, predictionText_ok (predictionId_named intelligence request node),
    predictionText_ok traceable.runId, predictionText_ok traceable.caseId, predictionText_ok traceable.merchantId,
    predictionText_ok traceable.correlationId, predictionText_ok traceable.modelVersion,
    predictionText_ok traceable.promptVersion, predictionText_ok traceable.schemaVersion,
    predictionText_ok traceable.featureVersion]
  exact ⟨_, rfl, rfl, rfl⟩

/-- A node's output is that of the bounded attempts, and its prediction says where it comes from. -/
structure NodeOutput.Sound (node : ModelNode) (fallback : Out) (validate : Out → Bool) (out : NodeOutput Out) : Prop where
  node : out.prediction.node = node
  succeeded : out.prediction.status = .succeeded → validate out.output = true
  kept : out.prediction.status = .fallback → out.output = fallback

theorem nodeFallback_ok (traceable : intelligence.Traceable request) (node : ModelNode) (fallback : Out)
    (validate : Out → Bool) (tally : ModelTally) :
    ∃ out, intelligence.nodeFallback request node fallback tally = .ok out ∧ out.output = fallback ∧
      out.Sound node fallback validate := by
  obtain ⟨p, built, named, status⟩ := prediction_ok traceable node .fallback tally.inputTokens tally.outputTokens
    (some tally.failureCode) (by simp)
  refine ⟨⟨fallback, p⟩, ?_, rfl, named, fun impossible => ?_, fun _ => rfl⟩
  · rw [BoundedCaseIntelligence.nodeFallback, built]
    rfl
  · rw [status] at impossible
    cases impossible

theorem nodeSuccess_ok (traceable : intelligence.Traceable request) (node : ModelNode) (fallback : Out) {output : Out}
    (valid : validate output = true) (inputTokens outputTokens : Nat) :
    ∃ out, intelligence.nodeSuccess request node output inputTokens outputTokens = .ok out ∧ out.output = output ∧
      out.Sound node fallback validate := by
  obtain ⟨p, built, named, status⟩ := prediction_ok traceable node .succeeded inputTokens outputTokens none (by simp)
  refine ⟨⟨output, p⟩, ?_, rfl, named, fun _ => valid, fun impossible => ?_⟩
  · rw [BoundedCaseIntelligence.nodeSuccess, built]
    rfl
  · rw [status] at impossible
    cases impossible

theorem invokeNode_ok (traceable : intelligence.Traceable request) :
    ∀ {fuel attempt : Nat} {tally : ModelTally} {out : NodeOutput Out},
      intelligence.invokeNode request redact schema node fallback validate tally attempt fuel = .ok out →
        out.output = invokeModel intelligence.budget (fun n => (intelligence.model.generate node n).attempt redact schema)
          fallback validate attempt fuel ∧ out.Sound node fallback validate := by
  have falls {tally : ModelTally} {out : NodeOutput Out}
      (h : raises (intelligence.nodeFallback request node fallback tally) = .ok out) :
      out.output = fallback ∧ out.Sound node fallback validate := by
    obtain ⟨out', built, kept, sound⟩ := nodeFallback_ok traceable node fallback validate tally
    rw [built] at h
    cases h
    exact ⟨kept, sound⟩
  intro fuel
  induction fuel with
  | zero =>
    intro attempt tally out h
    exact falls h
  | succ fuel ih =>
    intro attempt tally out h
    unfold BoundedCaseIntelligence.invokeNode at h
    unfold invokeModel
    dsimp only at h ⊢
    cases called : intelligence.model.generate node attempt with
    | unavailable =>
      rw [called] at h
      exact falls h
    | expired =>
      rw [called] at h
      cases h
    | timeout =>
      rw [called] at h
      exact ih h
    | error =>
      rw [called] at h
      exact ih h
    | response payload inputTokens outputTokens =>
      rw [called] at h
      dsimp only [ModelCall.attempt] at h ⊢
      split at h
      · rename_i exceeded
        cases schema.read redact payload with
        | none => exact ih h
        | some output =>
          dsimp only
          rw [if_neg fun accepted => absurd exceeded (not_lt.mpr accepted.1)]
          exact ih h
      · rename_i within
        cases read : schema.read redact payload with
        | none =>
          rw [read] at h
          exact ih h
        | some output =>
          rw [read] at h
          dsimp only at h ⊢
          split at h
          · rename_i valid
            obtain ⟨accepted, built, same, sound⟩ := nodeSuccess_ok traceable node fallback valid inputTokens outputTokens
            rw [built] at h
            cases h
            rw [if_pos ⟨not_lt.mp within, valid⟩]
            exact ⟨same, sound⟩
          · rename_i refused
            rw [if_neg fun accepted => refused accepted.2]
            exact ih h

theorem raised_ok {A : Type} {x : Option A} {a : A} (h : raised x = .ok a) : x = some a := by
  cases x with
  | none => cases h
  | some b =>
    cases h
    rfl

/-- The values a run ends with: within the case amount where the model scored them, the deterministic ones elsewhere. -/
def TracedResult.Valued (request : CaseIntelligenceRequest) (result : TracedResult) : Prop :=
  ∀ c ∈ result.candidates, ((∃ p ∈ result.predictions, p.node = .strategyGeneration ∧ p.status = .succeeded) ∧
      -(request.amountMinor : Int) ≤ c.expectedNetRecoveryMinor ∧ c.expectedNetRecoveryMinor ≤ request.amountMinor) ∨
    (¬ ∃ p ∈ result.predictions, p.node = .strategyGeneration ∧ p.status = .succeeded) ∧
      (c.actionType = .noAction ∨ ∃ d ∈ request.candidates, d.actionType = c.actionType ∧
        d.expectedNetRecoveryMinor = c.expectedNetRecoveryMinor)

/-- The result of a run that ended or fell back passes the result's checks. -/
theorem traced_checked (traceable : intelligence.Traceable request) {result : CaseIntelligenceResult}
    (closed : ∃ c, result.candidates.getLast? = some c ∧ c.actionType = .noAction) {explanation : String}
    (explained : explanation ≠ "") {predictions : List ModelPrediction} (traces : predictions ≠ []) :
    (intelligence.traced request result explanation predictions).checked =
      .ok (intelligence.traced request result explanation predictions) := by
  have modelVersion := (wellNamed_ok traceable.modelVersion).1
  have featureVersion := (wellNamed_ok traceable.featureVersion).1
  simp only [TracedResult.checked, BoundedCaseIntelligence.traced, explained, closed, traces, modelVersion,
    intelligence.required.1, intelligence.required.2, featureVersion, not_true_eq_false, if_false]

theorem ainvoke_ok (traceable : intelligence.Traceable request) {result : TracedResult} (offers : request.Offers)
    (h : ainvoke boundary intelligence request = .ok result) :
    runGraph intelligence.budget (boundary.behaviour intelligence.model false) request.toCaseIntelligenceRequest =
        some result.toCaseIntelligenceResult ∧
      result.Valued request.toCaseIntelligenceRequest ∧ result.checked = .ok result := by
  obtain ⟨_, -, h⟩ := Tx.ok_of_bind h
  obtain ⟨diagnosis, diagnosed, h⟩ := Tx.ok_of_bind h
  obtain ⟨fallback, built, h⟩ := Tx.ok_of_bind h
  obtain ⟨strategies, scored, h⟩ := Tx.ok_of_bind h
  obtain ⟨candidates, hydrated, h⟩ := Tx.ok_of_bind h
  obtain ⟨deterministic, listed, h⟩ := Tx.ok_of_bind h
  obtain ⟨ranking, ordered, h⟩ := Tx.ok_of_bind h
  obtain ⟨ranked, reranked, h⟩ := Tx.ok_of_bind h
  obtain ⟨explanation, explained, h⟩ := Tx.ok_of_bind h
  cases h
  have built := raised_ok built
  have hydrated := raised_ok hydrated
  have listed := raised_ok listed
  have reranked := raised_ok reranked
  obtain ⟨diagnosisOutput, diagnosisSound⟩ := invokeNode_ok traceable diagnosed
  obtain ⟨strategiesOutput, strategiesSound⟩ := invokeNode_ok traceable scored
  obtain ⟨rankingOutput, rankingSound⟩ := invokeNode_ok traceable ordered
  obtain ⟨-, explanationSound⟩ := invokeNode_ok traceable explained
  have run : runGraph intelligence.budget (boundary.behaviour intelligence.model false) request.toCaseIntelligenceRequest =
      some { diagnosisCode := diagnosis.output.diagnosisCode
             confidenceBasisPoints := diagnosis.output.confidenceBasisPoints
             candidates := ranked
             confidence_le := diagnosis.output.confidence_le } := by
    rw [strategiesOutput] at hydrated
    rw [rankingOutput] at reranked
    simp only [runGraph, built, Option.bind_eq_bind, Option.bind_some, Option.pure_def]
    refine (congrArg (Option.bind · _) hydrated).trans ?_
    simp only [Option.bind_some, listed]
    refine (congrArg (Option.bind · _) reranked).trans ?_
    simp only [Option.bind_some, Option.some.injEq, CaseIntelligenceResult.mk.injEq, and_true, diagnosisOutput]
    exact ⟨rfl, rfl⟩
  refine ⟨run, ?_, traced_checked traceable (runGraph_contained offers run).1.closed ?_ (List.cons_ne_nil _ _)⟩
  · -- Only the strategy node's prediction bears that node's name.
    have named : (∃ p ∈ [diagnosis.prediction, strategies.prediction, ranking.prediction, explanation.prediction],
        p.node = .strategyGeneration ∧ p.status = .succeeded) ↔ strategies.prediction.status = .succeeded := by
      simp [diagnosisSound.node, strategiesSound.node, rankingSound.node, explanationSound.node]
    have chosen : strategies.output = fallback ∨
        strategies.output.strategies.all (strategyAllowed request.toCaseIntelligenceRequest) = true := by
      rw [strategiesOutput]
      exact invokeModel_spec intelligence.budget _ fallback _ _ 0
    have supported := strategies_supported offers.distinct built chosen
    obtain ⟨-, sources⟩ := hydrateCandidates_ok supported hydrated
    obtain ⟨-, -, kept⟩ := rerank_ok reranked
    intro c member
    obtain ⟨d, there, proposes, value⟩ := kept c member
    have source := (sources d there).2
    rw [proposes.actionType, value] at source
    dsimp only [BoundedCaseIntelligence.traced]
    rw [named]
    cases status : strategies.prediction.status with
    | succeeded =>
      have allowed := strategiesSound.succeeded status
      refine .inl ⟨rfl, ?_⟩
      rcases source with ⟨-, nothing⟩ | ⟨item, chosen, -, scores⟩
      · rw [nothing]
        omega
      · rw [← scores]
        exact (strategyAllowed_supported (List.all_eq_true.mp allowed item chosen)).2
    | fallback =>
      refine .inr ⟨fun impossible => (by cases impossible), ?_⟩
      rcases source with ⟨last, -⟩ | ⟨item, chosen, same, scores⟩
      · exact .inl last
      · rw [strategiesSound.kept status] at chosen
        obtain ⟨e, known, -, strategy⟩ := mem_fallbackStrategies built chosen
        subst strategy
        exact .inr ⟨e, known, same, scores⟩
  · intro empty
    have bound := explanation.output.bounds.1
    rw [show explanation.output.explanation = "" from empty] at bound
    exact absurd bound (by decide)

theorem graphFallback_contained {request : CaseIntelligenceRequest} (offers : request.Offers) :
    (graphFallback request).Contained request :=
  { distinct := offers.distinct
    known := fun c member => ⟨c, member, rfl, rfl, rfl, rfl⟩
    closed := offers.closed
    confidence := le_rfl
    terminal := fun _ => rfl }

theorem deterministicExplanation_ne (code : Identifier) : (deterministicExplanation code).explanation ≠ "" := by
  intro empty
  have bound := (deterministicExplanation code).bounds.1
  rw [empty] at bound
  exact absurd bound (by decide)

/-- When the graph fails as a whole, the deterministic candidates come back. -/
theorem tracedFallback_ok (traceable : intelligence.Traceable request) (offers : request.Offers) (failure : GraphFailure) :
    ∃ result, tracedFallback intelligence request failure = .ok result ∧
      result.toCaseIntelligenceResult = graphFallback request.toCaseIntelligenceRequest ∧
      result.Valued request.toCaseIntelligenceRequest := by
  obtain ⟨node, built, -, sound⟩ := nodeFallback_ok traceable .graph (deterministicExplanation request.diagnosisCode)
    (fun _ => true) ⟨failure.code, 0, 0⟩
  refine ⟨intelligence.traced request (graphFallback request.toCaseIntelligenceRequest)
    (deterministicExplanation request.diagnosisCode).explanation [node.prediction], ?_, rfl,
    fun c member => .inr ⟨?_, .inr ⟨c, member, rfl, rfl⟩⟩⟩
  · rw [tracedFallback, built]
    exact traced_checked traceable offers.closed (deterministicExplanation_ne _) (List.cons_ne_nil _ _)
  · rintro ⟨p, there, named, -⟩
    rw [List.mem_singleton.mp there, sound.node] at named
    cases named

/-- With or without its trace, a recommendation is the same. -/
theorem recommendUntraced_recommends (boundary : ModelBoundary Payload) (traceable : intelligence.Traceable request)
    (offers : request.Offers) :
    ∃ (behaviour : ModelBehaviour) (result : TracedResult), recommendUntraced boundary intelligence request = .ok result ∧
      result.toCaseIntelligenceResult = recommend intelligence.budget behaviour request.toCaseIntelligenceRequest := by
  unfold recommendUntraced
  cases ran : ainvoke boundary intelligence request with
  | ok result =>
    obtain ⟨run, -, checked⟩ := ainvoke_ok traceable offers ran
    refine ⟨boundary.behaviour intelligence.model false, result, checked, ?_⟩
    rw [recommend, if_neg (by simp [ModelBoundary.behaviour]), run, Option.getD_some]
  | error failure =>
    obtain ⟨result, fell, same, -⟩ := tracedFallback_ok traceable offers failure
    exact ⟨boundary.behaviour intelligence.model true, result, fell, same⟩

/-- Payloads that are outputs already, and hold nothing to redact. -/
def plainBoundary : ModelBoundary (DiagnosisOutput ⊕ StrategyOutput ⊕ RankingOutput ⊕ ExplanationOutput) :=
  { redactModelPayload := id
    diagnosis := ⟨fun | .inl output => some output | _ => none, .inl⟩
    strategies := ⟨fun | .inr (.inl output) => some output | _ => none, fun output => .inr (.inl output)⟩
    ranking := ⟨fun | .inr (.inr (.inl output)) => some output | _ => none, fun output => .inr (.inr (.inl output))⟩
    explanation := ⟨fun | .inr (.inr (.inr output)) => some output | _ => none, fun output => .inr (.inr (.inr output))⟩ }

theorem unnamed_confidence : 3000 ≤ 10000 := by decide

/-- A retry or nothing, ranked from the given rank on. -/
def retryOrNothing (rank : Nat) : TracedRequest :=
  { amountMinor := 1000
    diagnosisCode := ident "UNKNOWN_PAYMENT_FAILURE"
    diagnosisConfidenceBasisPoints := 3000
    candidates := [
      { actionType := .deferRetry, recoveryProbabilityBasisPoints := 3000, expectedNetRecoveryMinor := 0
        rank := rank + 1, target := ident "pay-1"
        probability_le := unnamed_confidence, rank_pos := next_pos rank, attempt_pos := first_pos
        channel_iff := retry_silent },
      noActionCandidate (ident "pay-1") (rank + 2) (next_pos (rank + 1))]
    terminalDiagnosis := false
    confidence_le := unnamed_confidence
    runId := "run-1", caseId := "case-1", merchantId := "acme", correlationId := "corr-1", currency := "INR"
    featureVersion := "features-1"
    required := by decide }

theorem retryOrNothing_offers (rank : Nat) : (retryOrNothing rank).Offers :=
  ⟨⟨_, rfl, rfl⟩, by simp [retryOrNothing, noActionCandidate]⟩

/-- Scores a retry at half the amount, and is out of reach otherwise. -/
def halfRecovered : BoundedCaseIntelligence (DiagnosisOutput ⊕ StrategyOutput ⊕ RankingOutput ⊕ ExplanationOutput) where
  model :=
    { modelVersion := "scripted-1"
      generate := fun
        | .strategyGeneration, _ => .response (.inr (.inl
            { strategies := [
                { actionType := .deferRetry, recoveryProbabilityBasisPoints := 5000, expectedNetRecoveryMinor := 500
                  probability_le := by decide, channel_iff := retry_silent }]
              bounds := by decide, distinct := by decide })) 40 20
        | _, _ => .timeout }

theorem halfRecovered_traceable : halfRecovered.Traceable (retryOrNothing 0) := by
  constructor <;> decide

/-- Runs the workflow out of time at its first call. -/
def unanswering : BoundedCaseIntelligence (DiagnosisOutput ⊕ StrategyOutput ⊕ RankingOutput ⊕ ExplanationOutput) where
  model := { modelVersion := "scripted-1", generate := fun _ _ => .expired }

end untrusted

end RevenueGuard
