import RevenueGuard.Agents.Containment
import RevenueGuard.Protocol.Evidence
import RevenueGuard.Safety.CaseTime

/-
Advice and incidents. An evaluation matches incidents against the diagnosis the
model was allowed to reword; under the deterministic one a case may be protected
by incidents that the advised one does not match.
-/
namespace RevenueGuard

variable {rt : Runtime} {inputs : EvaluationInputs} {r : EvaluationRequest} {db d : Database} {k : CaseKey} {t : Instant}

/-- The codes an incident of some scope matches. -/
def Systemic (code : Identifier) : Prop :=
  upper code.val = "ISSUER_TEMPORARILY_UNAVAILABLE" ∨ upper code.val = "GATEWAY_TEMPORARILY_UNAVAILABLE" ∨
    upper code.val = "UNKNOWN_PAYMENT_FAILURE"

instance (code : Identifier) : Decidable (Systemic code) := inferInstanceAs (Decidable (_ ∨ _ ∨ _))

theorem matches_systemic {i : IncidentConstraint} {code : Identifier} (h : incidentMatchesDiagnosis i (some code) = true) :
    Systemic code := by
  unfold incidentMatchesDiagnosis at h
  dsimp only at h
  split at h
  · exact .inl (beq_iff_eq.mp h)
  · exact .inr (.inl (beq_iff_eq.mp h))
  · simpa [Systemic, or_assoc] using h
  · cases h

theorem paymentRail_matches {i : IncidentConstraint} {code : Identifier} (scope : i.scope = .paymentRail) :
    incidentMatchesDiagnosis i (some code) = true ↔ Systemic code := by
  unfold incidentMatchesDiagnosis
  dsimp only
  rw [scope]
  simp [Systemic, or_assoc]

/-- Every incident that matches one code matches the other. -/
def Covers (code advised : Identifier) : Prop :=
  ∀ i, incidentMatchesDiagnosis i (some code) = true → incidentMatchesDiagnosis i (some advised) = true

section constraints

variable {code advised : Identifier}

theorem mem_incidentsBearing {c : Option Identifier} {i : IncidentConstraint} : i ∈ incidentsBearing k t c db ↔
    i ∈ incidentsAt k.merchantId t db ∧
      (broadScope i = true ∨ linkedToCase k db i = true ∨ incidentMatchesDiagnosis i c = true) := by
  simp only [incidentsBearing, List.mem_filter, Bool.or_eq_true, or_assoc]

theorem incidentsBearing_congr {c : Option Identifier} (incidents : d.incidents = db.incidents)
    (links : d.incidentLinks = db.incidentLinks) : incidentsBearing k t c d = incidentsBearing k t c db := by
  simp only [incidentsBearing, incidentsAt, linkedToCase, incidents, links]

theorem incidentsBearing_covered (covers : Covers code advised) {i : IncidentConstraint}
    (bears : i ∈ incidentsBearing k t (some code) db) : i ∈ incidentsBearing k t (some advised) db := by
  obtain ⟨present, how⟩ := mem_incidentsBearing.mp bears
  exact mem_incidentsBearing.mpr ⟨present, how.imp id fun how => how.imp id (covers i)⟩

/-- Linked after an evaluation: linked before it, or active then and matched by it. -/
theorem linked_attached {c : Option Identifier} {i : IncidentConstraint} :
    linkedToCase k (attachIncidents k t c db) i = true ↔
      linkedToCase k db i = true ∨ ∃ j ∈ newlyMatched k t c db, j.incidentId = i.incidentId := by
  simp only [linkedToCase, attachIncidents, List.any_append, Bool.or_eq_true, List.any_map]
  refine or_congr Iff.rfl ?_
  simp [List.any_eq_true, Subtype.ext_iff]

theorem linked_covered (covers : Covers code advised) {i : IncidentConstraint}
    (linked : linkedToCase k (attachIncidents k t (some code) db) i = true) :
    linkedToCase k (attachIncidents k t (some advised) db) i = true := by
  rw [linked_attached] at linked ⊢
  refine linked.imp id fun ⟨j, matched, same⟩ => ⟨j, ?_, same⟩
  simp only [newlyMatched, List.mem_filter, Bool.and_eq_true] at matched ⊢
  exact ⟨matched.1, matched.2.1, covers j matched.2.2⟩

/-- What an incident does to a candidate that contacts nobody depends on its type only. -/
theorem applies_congr {i : IncidentConstraint} {c c' : CandidateAction} (same : c'.actionType = c.actionType)
    (silent : c.actionType.actionClass ≠ .customerContact) : i.applies c' t = i.applies c t := by
  unfold IncidentConstraint.applies
  rw [same]
  cases class_ : c.actionType.actionClass <;> first | rfl | exact absurd class_ silent

end constraints

section advice

/-- Requests as the services build them, from the diagnosis of their event. -/
def EvaluationRequest.Diagnosed (r : EvaluationRequest) : Prop :=
  ∃ case, r.diagnosis = (diagnoseEvent r.event).getD (noActionDiagnosis case)

/-- The same evaluation with every model node on its fallback. -/
def EvaluationInputs.unadvised (inputs : EvaluationInputs) : EvaluationInputs := { inputs with model := unavailableModel }

theorem advised_code (rt : Runtime) (inputs : EvaluationInputs) (r : EvaluationRequest) :
    (adviseCase rt inputs r).code = r.diagnosis.code ∨ (r.diagnosis.terminal = false ∧ inputs.model.graphFails = false ∧
      ∃ result, runGraph rt.budget inputs.model (intelligenceRequest r) = some result ∧
        (adviseCase rt inputs r).code = (diagnose rt.budget inputs.model (intelligenceRequest r)).diagnosisCode) := by
  unfold adviseCase advisoryDiagnosis recommend
  dsimp only
  split
  · exact .inl rfl
  · rename_i open_
    split
    · exact .inl rfl
    · rename_i runs
      cases ran : runGraph rt.budget inputs.model (intelligenceRequest r) with
      | none => exact .inl rfl
      | some result =>
        refine .inr ⟨Bool.eq_false_of_not_eq_true open_, Bool.eq_false_of_not_eq_true runs, result, rfl, ?_⟩
        rw [Option.getD_some]
        simp only [runGraph, Option.bind_eq_bind, Option.bind_eq_some_iff, Option.pure_def, Option.some.injEq] at ran
        obtain ⟨_, -, _, -, _, -, _, -, rfl⟩ := ran
        rfl

theorem unadvised_code (rt : Runtime) (inputs : EvaluationInputs) (r : EvaluationRequest) :
    (adviseCase rt inputs.unadvised r).code = r.diagnosis.code := by
  rcases advised_code rt inputs.unadvised r with same | ⟨-, -, _, -, diagnosed⟩
  · exact same
  · exact diagnosed

/-- A model that answers with another diagnosis and nothing else. -/
def rewording (code : Identifier) : ModelBehaviour :=
  { diagnosis := fun _ => .response 0 (some ⟨code, 0, by decide⟩) }

theorem reworded_code (inputs : EvaluationInputs) {code : Identifier} (open_ : r.diagnosis.terminal = false) (offers : (intelligenceRequest r).Offers)
    (other : ∃ d ∈ r.diagnosis.candidates, d.actionType ≠ .noAction) :
    (adviseCase rt { inputs with model := rewording code } r).code = code := by
  have answered : (diagnose rt.budget (rewording code) (intelligenceRequest r)).diagnosisCode = code := by
    have accepted : (0 ≤ rt.budget.maxOutputTokens ∧ (!((intelligenceRequest r).terminalDiagnosis &&
        code != (intelligenceRequest r).diagnosisCode) && decide (0 ≤ (intelligenceRequest r).diagnosisConfidenceBasisPoints))
          = true) := by
      refine ⟨Nat.zero_le _, ?_⟩
      simp [intelligenceRequest, open_]
    unfold diagnose
    dsimp only
    unfold invokeModel
    dsimp only [rewording]
    rw [if_pos accepted]
  have runs : ∃ result, runGraph rt.budget (rewording code) (intelligenceRequest r) = some result :=
    runGraph_isSome (rewording code) offers other
  obtain ⟨result, ran⟩ := runs
  have reworded := (runGraph_contained offers ran).2.2
  unfold adviseCase advisoryDiagnosis recommend
  dsimp only
  rw [if_neg (by rw [open_]; decide), if_neg (by simp [rewording]), ran, Option.getD_some, reworded, answered]

/-- A diagnosis that incidents match is open and has a candidate to offer. -/
theorem systemic_offers {event : RevenueRiskEvent} {diagnosis : Diagnosis} (diagnosed : diagnoseEvent event = some diagnosis)
    (systemic : Systemic diagnosis.code) : diagnosis.terminal = false ∧
      ((∃ c, diagnosis.candidates.getLast? = some c ∧ c.actionType = .noAction) ∧
        (diagnosis.candidates.map (·.actionType)).Nodup) ∧ ∃ d ∈ diagnosis.candidates, d.actionType ≠ .noAction := by
  unfold diagnoseEvent at diagnosed
  split at diagnosed
  · cases diagnosed
    have stranger : ¬ Systemic (ident "INVOICE_OVERDUE") := by decide
    exact absurd systemic stranger
  · split at diagnosed
    · cases diagnosed
    · cases diagnosed
      have stranger : ¬ Systemic paymentDisputed := by decide
      exact absurd systemic stranger
    · obtain ⟨entry, found, rfl⟩ := Option.map_eq_some_iff.mp diagnosed
      refine ⟨rfl, ⟨⟨_, rfl, rfl⟩, ?_⟩, _, List.mem_cons_self, ?_⟩
      · revert found
        generalize event.normalizedFailureCategory = category
        intro found
        cases category <;> simp only [diagnosisEntry, Option.some.injEq, reduceCtorEq] at found <;> subst found <;>
          simp [DiagnosisEntry.diagnosis, CandidateTemplate.candidate, eventNoAction, noActionCandidate]
      · revert found
        generalize event.normalizedFailureCategory = category
        intro found
        cases category <;> simp only [diagnosisEntry, Option.some.injEq, reduceCtorEq] at found <;> subst found <;>
          simp [CandidateTemplate.candidate]

/-- Without a diagnosis there is nothing to advise on. -/
theorem undiagnosed_code {case : RecoveryCase} (diagnosis : r.diagnosis = noActionDiagnosis case) :
    (adviseCase rt inputs r).code = r.diagnosis.code := by
  rcases advised_code rt inputs r with same | ⟨-, -, _, ran, -⟩
  · exact same
  · have alone : fallbackStrategies (intelligenceRequest r) = none := by
      simp only [fallbackStrategies, intelligenceRequest, diagnosis, noActionDiagnosis]
      rfl
    rw [runGraph, alone] at ran
    cases ran

/-- The evaluation under the model's advice is bound by every incident that would bind it under the fallback, as are the
checks before execution that follow it; and what the fallback defers for an incident does not proceed. -/
structure Shielded (rt : Runtime) (inputs : EvaluationInputs) (r : EvaluationRequest) (db : Database) : Prop where
  evaluated : ∀ i ∈ incidentsBearing r.case.key r.evaluatedAt (some (adviseCase rt inputs.unadvised r).code) db,
    i ∈ incidentsBearing r.case.key r.evaluatedAt (some (adviseCase rt inputs r).code) db
  executed : ∀ (later : Instant) (rows : List IncidentRow),
    ∀ i ∈ incidentsBearing r.case.key later (some (adviseCase rt inputs.unadvised r).code)
        { attachIncidents r.case.key r.evaluatedAt (some (adviseCase rt inputs.unadvised r).code) db with incidents := rows },
      i ∈ incidentsBearing r.case.key later (some (adviseCase rt inputs r).code)
        { attachIncidents r.case.key r.evaluatedAt (some (adviseCase rt inputs r).code) db with incidents := rows }
  deferred : ∀ {a a' : Assessment} {s s' : Database}, (assessCase rt inputs.unadvised r).run db = .ok (a, s) →
    (assessCase rt inputs r).run db = .ok (a', s') → PolicyReason.activeIncident ∈ a.decision.reasonCodes →
      a.decision.selectedAction.actionType.actionClass ∈ [.retry, .moneyIntent] → a'.decision.result = .proceed →
        a'.decision.selectedAction.actionType ≠ a.decision.selectedAction.actionType

/-- An assessment decides over the incidents that bore on the case when it began. -/
theorem assessment_incidents {a : Assessment} {s : Database} (h : (assessCase rt inputs r).run db = .ok (a, s)) :
    ∃ e : PolicyEvaluationInput, evaluatePolicy (rt.zoneInfo r.policy.timezone) r.policy e = .ok a.decision ∧
      e.evaluatedAt = r.evaluatedAt ∧
      e.incidents = incidentsBearing r.case.key r.evaluatedAt (some (adviseCase rt inputs r).code) db := by
  obtain ⟨checking, d, contact, candidates, consent, unknownEquivalent, moved, -, -, -, -, decided⟩ := assessCase_ok h
  refine ⟨_, decided, rfl, ?_⟩
  obtain ⟨-, -, rfl⟩ := recoveryTransition_ran moved
  exact incidentsBearing_congr rfl rfl

theorem shielded_of_covers (covers : Covers (adviseCase rt inputs.unadvised r).code (adviseCase rt inputs r).code) :
    Shielded rt inputs r db where
  evaluated := fun i bears => incidentsBearing_covered covers bears
  executed := by
    intro later rows i bears
    obtain ⟨present, how⟩ := mem_incidentsBearing.mp bears
    exact mem_incidentsBearing.mpr ⟨present, how.imp id fun how => how.imp (linked_covered covers) (covers i)⟩
  deferred := by
    intro a a' s s' plain advised reason ordinary proceeds same
    obtain ⟨e, decided, at_, incidents⟩ := assessment_incidents plain
    obtain ⟨e', decided', at_', incidents'⟩ := assessment_incidents advised
    obtain ⟨i, member, applies⟩ := evaluatePolicy_incident decided reason
    rw [incidents] at member
    have bound := incidentsBearing_covered covers member
    rw [← incidents'] at bound
    have passed := (evaluatePolicy_proceed decided' proceeds).compliant.incidents i bound
    have silent : a.decision.selectedAction.actionType.actionClass ≠ .customerContact := by
      intro contact
      rw [contact] at ordinary
      exact absurd ordinary (by decide)
    rw [at_', applies_congr same silent, ← at_, applies] at passed
    cases passed

theorem advice_keeps_protection (rt : Runtime) (r : EvaluationRequest) (diagnosed : r.Diagnosed) :
    (∀ inputs db, Shielded rt inputs r db) ↔ ∀ d, diagnoseEvent r.event = some d → ¬ Systemic d.code := by
  obtain ⟨case, diagnosis⟩ := diagnosed
  constructor
  · intro shielded d found systemic
    rw [found, Option.getD_some] at diagnosis
    obtain ⟨open_, offers, other⟩ := systemic_offers found systemic
    rw [← diagnosis] at open_ offers other systemic
    -- A payment rail incident that the model's diagnosis does not match.
    let model := rewording (ident "EXPIRED_PAYMENT_METHOD")
    let inputs : EvaluationInputs := { receiptId := ident "receipt", reviewId := ident "review", model := model }
    let incident : IncidentConstraint :=
      { incidentId := ident "incident", scope := .paymentRail, startsAt := r.evaluatedAt, endsAt := r.evaluatedAt + 1
        window := Int.lt_succ _, channel_iff := by decide }
    let db : Database := { incidents := [{ merchantId := r.case.merchantId, incident := incident, status := .active
                                           updatedAt := r.evaluatedAt }] }
    have reworded : (adviseCase rt inputs r).code = ident "EXPIRED_PAYMENT_METHOD" :=
      reworded_code inputs open_ ⟨offers.1, offers.2⟩ other
    have active : incident ∈ incidentsAt r.case.key.merchantId r.evaluatedAt db := by
      have now : r.evaluatedAt < r.evaluatedAt + 1 := Int.lt_succ _
      simp [incidentsAt, db, incident, RecoveryCase.key, now]
    have bears := (shielded inputs db).evaluated incident
      (mem_incidentsBearing.mpr ⟨active, .inr (.inr ((paymentRail_matches rfl).mpr (by rw [unadvised_code]; exact systemic)))⟩)
    rw [reworded] at bears
    rcases (mem_incidentsBearing.mp bears).2 with broad | linked | matched
    · cases broad
    · cases linked
    · exact absurd ((paymentRail_matches rfl).mp matched) (by decide)
  · intro calm inputs db
    apply shielded_of_covers
    rw [unadvised_code]
    cases found : diagnoseEvent r.event with
    | none =>
      rw [found, Option.getD_none] at diagnosis
      rw [undiagnosed_code diagnosis]
      exact fun _ same => same
    | some d =>
      rw [found, Option.getD_some] at diagnosis
      rw [diagnosis]
      exact fun i matched => absurd (matches_systemic matched) (calm d found)

/-- A card expired, and its new case awaits a decision. -/
theorem expired_confident : 9700 ≤ 10000 := by decide

def cardRequest : EvaluationRequest :=
  { case :=
      { caseId := ident "case-1", merchantId := acme, workflowType := .paymentDegradation, subjectType := .payment
        subjectId := ident "pay-1", customerId := none, revenueAtRiskMinor := 1000, currency := currency "INR"
        state := .decisionPending, stateVersion := 3, retryCount := 0, contactCount := 0, createdAt := 10, updatedAt := 10 }
    diagnosis := { code := ident "EXPIRED_PAYMENT_METHOD", confidenceBasisPoints := 9700
                   candidates := ((diagnoseEvent (expiredCard (ident "event-1") (ident "pay-1") 5)).map (·.candidates)).getD []
                   confidence_le := expired_confident }
    event := expiredCard (ident "event-1") (ident "pay-1") 5
    policy := linksOnly
    evaluatedAt := 10 }


/-- The issuer of a payment failing an hour ago is still down. -/
def issuerIncident : List Command :=
  [.registerMerchant acme, .publishPolicy acme retriesOnly,
    .putMerchantRow (.incident
      { merchantId := acme, status := .active, updatedAt := 0
        incident := { incidentId := ident "incident-1", scope := .issuer, startsAt := 0, endsAt := 7200000000
                      window := by decide, channel_iff := by decide } })] ++
    ingested (issuerDown (ident "event-1") (ident "pay-1") 5)

theorem advice_keeps_protection_card : Shielded {} { drawn "receipt-1" with model := rewording (ident "ISSUER_DOWN") }
    cardRequest (execAll {} issuerIncident {}) := by
  refine (advice_keeps_protection {} cardRequest ⟨cardRequest.case, rfl⟩).mpr (fun d diagnosed => ?_) _ _
  have card : ¬ Systemic (ident "EXPIRED_PAYMENT_METHOD") := by decide
  cases diagnosed
  exact card

set_option maxRecDepth 100000 in
/-- The fallback defers the retry for the incident; a model that calls the card expired has it authorized. -/
theorem advice_lifts_protection : ¬ ∀ (rt : Runtime) (db : Database), Reachable rt db →
    ∀ (inputs : EvaluationInputs) (m event case : Identifier) (t : Instant),
      ∀ change ∈ (exec rt (.processEvent inputs.unadvised m event case t) db).transitions,
        change ∉ db.transitions → change.reasonCode = "ACTIVE_INCIDENT" →
          ∀ a ∈ (exec rt (.processEvent inputs m event case t) db).actions, a ∉ db.actions →
            a.key = ⟨change.merchantId, change.caseId⟩ → a.actionType.actionClass ∉ [.retry, .moneyIntent] := by
  intro protection
  let advised : EvaluationInputs := { drawn "receipt-1" with model := rewording (ident "EXPIRED_PAYMENT_METHOD") }
  have lifted : ∃ change ∈ (exec {} (.processEvent advised.unadvised acme (ident "event-1") (ident "case-1") 3600000010)
      (execAll {} issuerIncident {})).transitions,
      change ∉ (execAll {} issuerIncident {}).transitions ∧ change.reasonCode = "ACTIVE_INCIDENT" ∧
        ∃ a ∈ (exec {} (.processEvent advised acme (ident "event-1") (ident "case-1") 3600000010)
          (execAll {} issuerIncident {})).actions, a ∉ (execAll {} issuerIncident {}).actions ∧
            a.key = ⟨change.merchantId, change.caseId⟩ ∧ a.actionType.actionClass ∈ [.retry, .moneyIntent] := by
    decide +kernel
  obtain ⟨change, made, new, reason, a, stored, fresh, same, guarded⟩ := lifted
  exact protection {} _ (reachable_execAll {} issuerIncident) advised acme (ident "event-1") (ident "case-1") 3600000010
    change made new reason a stored fresh same guarded

end advice

end RevenueGuard
