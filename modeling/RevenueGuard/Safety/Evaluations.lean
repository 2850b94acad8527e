import RevenueGuard.Agents.Containment
import RevenueGuard.Protocol.Forward
import RevenueGuard.Safety.ContactLock

/-
When an evaluation commits. Whatever the model answers, the candidates are ranked
and end with `NO_ACTION`, the policy decides on one of them, and the transitions
are legal; only storing the intervention of a contact can refuse.
-/
namespace RevenueGuard

variable {rt : Runtime} {inputs : EvaluationInputs} {r : EvaluationRequest} {db db' : Database} {zone : Zone}
  {policy : MerchantPolicySnapshot} {e : PolicyEvaluationInput} {decision : PolicyDecision}

section candidates

/-- Ranked from one without a gap, the last of them `NO_ACTION`. -/
structure Listed (cs : List CandidateAction) : Prop where
  ranked : cs.map (·.rank) = List.range' 1 cs.length
  closed : ∃ c, cs.getLast? = some c ∧ c.actionType = .noAction

theorem candidateList_of {cs : List CandidateAction} (h : Listed cs) : ∃ l, candidateList cs = .ok l := by
  unfold candidateList
  rw [dif_pos h.ranked, dif_pos h.closed]
  exact ⟨_, rfl⟩

theorem diagnoseEvent_listed {event : RevenueRiskEvent} {d : Diagnosis} (h : diagnoseEvent event = some d) :
    Listed d.candidates ∧ (d.candidates.map (·.actionType)).Nodup := by
  unfold diagnoseEvent at h
  split at h
  · cases h
    refine ⟨⟨rfl, _, rfl, rfl⟩, ?_⟩
    simp [overdueDiagnosis, eventNoAction, noActionCandidate]
  · split at h
    · cases h
    · cases h
      refine ⟨⟨rfl, _, rfl, rfl⟩, ?_⟩
      simp [disputeDiagnosis, eventNoAction, noActionCandidate, stopCandidate]
    · obtain ⟨entry, found, rfl⟩ := Option.map_eq_some_iff.mp h
      refine ⟨⟨rfl, _, rfl, rfl⟩, ?_⟩
      revert found
      generalize event.normalizedFailureCategory = category
      intro found
      cases category <;> simp only [diagnosisEntry, Option.some.injEq, reduceCtorEq] at found <;> subst found <;>
        simp [DiagnosisEntry.diagnosis, CandidateTemplate.candidate, eventNoAction, noActionCandidate]

theorem renumber_ranks (n : Nat) (cs : List CandidateAction) :
    (renumber n cs).map (·.rank) = List.range' (n + 1) cs.length ∧ (renumber n cs).length = cs.length := by
  induction cs generalizing n with
  | nil => exact ⟨rfl, rfl⟩
  | cons c rest ih =>
    obtain ⟨ranks, size⟩ := ih (n + 1)
    simp only [renumber, List.map_cons, List.length_cons, ranks, size, List.range'_succ]
    exact ⟨rfl, trivial⟩

theorem renumber_last (n : Nat) (cs : List CandidateAction) (last : CandidateAction) :
    ∃ c, (renumber n (cs ++ [last])).getLast? = some c ∧ c.actionType = last.actionType := by
  induction cs generalizing n with
  | nil => exact ⟨_, rfl, rfl⟩
  | cons c rest ih =>
    obtain ⟨d, found, same⟩ := ih (n + 1)
    refine ⟨d, ?_, same⟩
    rw [List.cons_append, renumber, List.getLast?_cons, found]
    rfl

theorem rankCandidates_listed {exp : Int → Rat} {cs ranked : List CandidateAction} {context : RecoveryScoringContext}
    {artifact : LogisticScoringArtifact} {economics : ActionEconomics} {allowed : Finset ActionType}
    (h : rankCandidatesByExpectedNetRecovery exp cs context artifact economics allowed = .ok ranked) : Listed ranked := by
  obtain ⟨_, -, h⟩ := except_bind_ok h
  obtain ⟨scored, -, h⟩ := except_bind_ok h
  split at h
  · cases h
  · cases h
    obtain ⟨ranks, size⟩ := renumber_ranks 0 (mergeScored _ _ ++ [_])
    exact ⟨by rw [ranks, size], renumber_last 0 _ _⟩

/-- The advised candidates are as well formed as the diagnosis, whatever the model answers. -/
theorem adviseCase_listed (rt : Runtime) (inputs : EvaluationInputs) (listed : Listed r.diagnosis.candidates)
    (distinct : (r.diagnosis.candidates.map (·.actionType)).Nodup) : Listed (adviseCase rt inputs r).candidates := by
  have offers : (intelligenceRequest r).Offers := ⟨listed.closed, distinct⟩
  unfold adviseCase advisoryDiagnosis recommend
  dsimp only
  split
  · exact listed
  · cases ran : runGraph rt.budget inputs.model (intelligenceRequest r) with
    | none => exact listed
    | some result =>
      obtain ⟨contained, ranks, -⟩ := runGraph_contained offers ran
      exact ⟨ranks, contained.closed⟩

theorem scoreCandidates_listed {advisory : Diagnosis} (rt : Runtime) (r : EvaluationRequest) (n : Nat) (incident : Bool)
    (listed : Listed advisory.candidates) : Listed (scoreCandidates rt r advisory n incident) := by
  unfold scoreCandidates
  dsimp only
  split
  · rename_i ranked
    exact rankCandidates_listed ranked
  · exact listed

end candidates

section decisions

/-- A policy in force decides on every input. -/
theorem evaluatePolicy_total (zone : Zone) (effective : policy.effectiveAt ≤ e.evaluatedAt) :
    ∃ decision, evaluatePolicy zone policy e = .ok decision := by
  unfold evaluatePolicy
  rw [if_neg (not_lt.mpr effective)]
  split
  · exact ⟨_, rfl⟩
  · split
    · exact ⟨_, rfl⟩
    · obtain ⟨c, last, idle⟩ := e.candidates.closed
      obtain ⟨passed, c, rest, split, skipped, decides⟩ :=
        @first_decides zone policy e e.candidates.items ⟨c, List.mem_of_getLast? last, idle⟩
      rw [split]
      exact ⟨_, selectCandidate_split [] skipped decides⟩

theorem selectCandidate_nodup {skipped : List PolicyReason} {evaluated cs : List CandidateAction}
    (h : selectCandidate zone policy e skipped evaluated cs = .ok decision) : decision.reasonCodes.Nodup := by
  induction cs generalizing skipped evaluated with
  | nil => cases h
  | cons c rest ih =>
    unfold selectCandidate at h
    split at h
    · cases h
      exact (unique_occurrences _).nodup
    · split at h
      · exact ih h
      · cases h
        exact (unique_occurrences _).nodup

theorem evaluatePolicy_nodup (h : evaluatePolicy zone policy e = .ok decision) : decision.reasonCodes.Nodup := by
  unfold evaluatePolicy at h
  split at h
  · cases h
  · split at h
    · cases h
      exact List.nodup_singleton _
    · split at h
      · cases h
        exact List.nodup_singleton _
      · exact selectCandidate_nodup h

theorem code_length (reason : PolicyReason) : reason.code.length ≤ 40 := by
  cases reason <;> decide

theorem code_named (reason : PolicyReason) : reason.code ≠ "" := by
  cases reason <;> decide

theorem code_present (reason : PolicyReason) : blank (some reason.code) = false := by
  cases reason <;> decide

theorem joined_length (codes : List String) (short : ∀ code ∈ codes, code.length ≤ 40) :
    (",".intercalate codes).length ≤ 41 * codes.length := by
  induction codes with
  | nil => simp
  | cons code rest ih =>
    have first := short code List.mem_cons_self
    have later := ih fun c member => short c (List.mem_cons_of_mem _ member)
    cases rest with
    | nil =>
      simp only [String.intercalate_singleton, List.length_cons, List.length_nil]
      omega
    | cons next rest =>
      rw [String.intercalate_cons_cons, String.length_append, String.length_append]
      have comma : ",".length = 1 := by decide
      simp only [List.length_cons] at later ⊢
      omega

def everyReason : List PolicyReason :=
  [.policyCurrencyMismatch, .caseAlreadyTerminal, .alreadyPaid, .paymentDisputed, .subjectCancelled, .noEligibleAction,
    .actionNotAllowed, .agentEscalationRequested, .retryLimitReached, .customerIdentityUnresolved,
    .customerContactAlreadyInProgress, .contactLimitReached, .channelOptedOut, .channelConsentNotGranted,
    .equivalentActionOutcomeUnknown, .activePromiseToPay, .activeIncident, .lowConfidenceRetryDeferred, .diagnosisDelay,
    .quietHours, .expectedValueBelowMinimum, .humanReviewRequired, .policyAuthorized]

theorem mem_everyReason (reason : PolicyReason) : reason ∈ everyReason := by
  cases reason <;> decide

/-- Distinct reasons fit in the detail of a transition. -/
theorem reasons_sized {reasons : List PolicyReason} (distinct : reasons.Nodup) :
    (",".intercalate (reasons.map (·.code))).length ≤ 2000 := by
  have few : reasons.length ≤ 23 := (List.subperm_of_subset distinct fun reason _ => mem_everyReason reason).length_le
  have joined := joined_length (reasons.map (·.code)) fun code member => by
    obtain ⟨reason, -, rfl⟩ := List.mem_map.mp member
    exact code_length reason
  rw [List.length_map] at joined
  omega

end decisions

section reads

variable {case updated : RecoveryCase}

/-- A case moved on, and nothing that the contact facts of its customer read. -/
structure Shifted (case updated : RecoveryCase) (db db' : Database) : Prop where
  snap : Snap updated db'
  anchor : updated.anchor = case.anchor
  others : ∃ cases ts, db' = { db with cases := cases, transitions := ts }
  contact : (updated.state.Terminal ↔ case.state.Terminal) →
    ∀ m customer, contactSnapshot m customer db' = contactSnapshot m customer db

theorem settle_reads (case : RecoveryCase) (t : Transition) (o : Option Diagnosis) (retry : Bool) :
    (case.settle t o retry).contactCount = case.contactCount ∧ (case.settle t o retry).state = t.toState ∧
      (case.settle t o retry).updatedAt = t.occurredAt := by
  cases o <;> cases retry <;> exact ⟨rfl, rfl, rfl⟩

/-- A legal move from the stored case commits. -/
theorem recoveryTransition_shifts {t : Transition} (keyed : Keyed db) (snap : Snap case db) (legal : t.Legal case)
    (sized : t.Sized) (o : Option Diagnosis) (event : Option NormalizedEvent) (retry : Bool) : ∃ db',
      (recoveryTransition case t o event retry).run db = .ok (case.settle t o retry, db') ∧
        Shifted case (case.settle t o retry) db db' := by
  obtain ⟨row, found, ledger⟩ := id snap
  have current : Current case db :=
    ⟨row, found, congrArg CaseLedger.state ledger, congrArg CaseLedger.stateVersion ledger⟩
  obtain ⟨updated, db', ran, -⟩ := recoveryTransition_run current legal sized o event retry
  obtain ⟨rfl, -, rfl⟩ := recoveryTransition_ran ran
  refine ⟨_, ran, snap.settled t o retry event rfl, settle_anchor case t o retry, ⟨_, _, rfl⟩, fun live m customer => ?_⟩
  refine contactSnapshot_update case.key (f := fun r => r.apply (case.settle t o retry) event) (fun other member here => ?_)
    ?_ ?_ m customer
  · have same : other = row := by
      have stored := keyed.row member
      rw [here] at stored
      exact Option.some.inj (stored.symm.trans found)
    subst same
    refine ⟨rfl, rfl, rfl, ?_, ?_⟩
    · exact (settle_reads case t o retry).1.trans (congrArg CaseLedger.contactCount ledger).symm
    · exact live.trans (iff_of_eq (congrArg (fun l => l.state.Terminal) ledger)).symm
  · rfl
  · rfl

/-- The contact facts of the request's customer; a case without one stands alone. -/
def contactAt (r : EvaluationRequest) (db : Database) : CustomerContactSnapshot :=
  match r.case.customerId with
  | none => ⟨r.case.contactCount, [r.case.caseId], none⟩
  | some customer =>
    let snapshot := contactSnapshot r.case.merchantId customer db
    { snapshot with activeCaseIds := if snapshot.activeCaseIds = [] then [r.case.caseId] else snapshot.activeCaseIds }

theorem contactAt_congr {r' : EvaluationRequest} (anchor : r'.case.anchor = r.case.anchor)
    (count : r'.case.contactCount = r.case.contactCount)
    (same : ∀ m customer, contactSnapshot m customer db' = contactSnapshot m customer db) :
    contactAt r' db' = contactAt r db := by
  simp only [RecoveryCase.anchor, CaseAnchor.mk.injEq] at anchor
  unfold contactAt
  simp only [anchor.1, anchor.2.1, anchor.2.2.2.2.2.1, count, same]

/-- The decision of an evaluation, read off the store it starts from. -/
def proposal (rt : Runtime) (inputs : EvaluationInputs) (r : EvaluationRequest) (db : Database) :
    Except Failure PolicyDecision := do
  let advisory := adviseCase rt inputs r
  let incidents := incidentsBearing r.case.key r.evaluatedAt (some advisory.code) db
  let contact := contactAt r db
  let scored := scoreCandidates rt r advisory contact.aggregateContactCount (!incidents.isEmpty)
  let candidates ← candidateList scored
  evaluatePolicy (rt.zoneInfo r.policy.timezone) r.policy
    (evaluationInput r advisory candidates contact incidents (authoritativeFactsForCase r.case db)
      (consentFacts r.case.merchantId r.case.customerId db) (hasUnknownEquivalentAmong r.case.key scored db))

theorem coordinate_run (m customer caseId : Identifier) (t : Instant) (db : Database) : ∃ rows,
    (coordinateCaseWithActiveIntervention m customer caseId t).run db = .ok ((), { db with interventions := rows }) := by
  unfold coordinateCaseWithActiveIntervention
  rw [Tx.bind_of_ok (Tx.run_read _ _)]
  split
  · exact ⟨db.interventions, rfl⟩
  · dsimp only
    split
    · exact ⟨db.interventions, rfl⟩
    · exact ⟨_, rfl⟩

theorem contactFacts_run (known : ∀ id ∈ r.case.customerId, db.knows r.case.merchantId id = true) : ∃ rows,
    (contactFacts r).run db = .ok (contactAt r db, { db with interventions := rows }) ∧
      ((contactAt r db).activeInterventionActionId = none → rows = db.interventions) := by
  unfold contactFacts contactAt
  cases named : r.case.customerId with
  | none => exact ⟨db.interventions, rfl, fun _ => rfl⟩
  | some customer =>
    have snapshot := customerContactSnapshot_run (known customer named)
    dsimp only
    rw [Tx.bind_of_ok snapshot]
    unfold coordinateWith
    split
    · rename_i active
      obtain ⟨rows, coordinated⟩ := coordinate_run r.case.merchantId customer r.case.caseId r.evaluatedAt db
      refine ⟨rows, Tx.bind_of_ok coordinated, fun none_ => ?_⟩
      rw [none_] at active
      cases active
    · exact ⟨db.interventions, rfl, fun _ => rfl⟩

end reads

section assessment

/-- What an evaluation that is to commit starts from. -/
structure Evaluable (r : EvaluationRequest) (db : Database) : Prop where
  keyed : Keyed db
  snap : Snap r.case db
  pending : r.case.state = .decisionPending
  time : r.case.updatedAt ≤ r.evaluatedAt
  customer : ∀ id ∈ r.case.customerId, db.knows r.case.merchantId id = true
  effective : r.policy.effectiveAt ≤ r.evaluatedAt
  listed : Listed r.diagnosis.candidates
  distinct : (r.diagnosis.candidates.map (·.actionType)).Nodup

/-- The first half of an evaluation: the case checked, the decision the proposal, the interventions untouched unless the
customer is being contacted. -/
structure Checked (rt : Runtime) (inputs : EvaluationInputs) (r : EvaluationRequest) (a : Assessment) (db db' : Database) :
    Prop where
  ran : (assessCase rt inputs r).run db = .ok (a, db')
  proposed : proposal rt inputs r db = .ok a.decision
  active : a.activeCaseIds = (contactAt r db).activeCaseIds
  snap : Snap a.checking db'
  anchor : a.checking.anchor = r.case.anchor
  state : a.checking.state = .policyCheck
  time : a.checking.updatedAt = r.evaluatedAt
  others : ∃ cases ts links rows, db' = { db with
    cases := cases, transitions := ts, incidentLinks := links, interventions := rows } ∧
      ((contactAt r db).activeInterventionActionId = none → rows = db.interventions)

/-- A move that ends nothing needs its edge and its time. -/
theorem live_legal {case : RecoveryCase} {t : Transition} (edge : t.toState ∈ allowedTransitions case.state)
    (time : case.updatedAt ≤ t.occurredAt) (live : ¬ t.toState.Terminal) (plain : t.terminalReason = none) :
    t.Legal case := by
  refine ⟨edge, time, fun ended => absurd ended live, fun _ => plain, fun recovered => ?_⟩
  rw [recovered] at live
  exact absurd (by decide) live

theorem plain_sized {t : Transition} (actor : t.actor ≠ "" ∧ t.actor.length ≤ 128)
    (reasonCode : t.reasonCode ≠ "" ∧ t.reasonCode.length ≤ 128) (reason : t.terminalReason = none)
    (detail : t.reasonDetail = none) (reference : t.authoritativeEvidenceReference = none) : t.Sized := by
  refine ⟨fun s named => ?_, actor, reasonCode, fun s named => ?_, fun s named => ?_⟩
  · rw [reason] at named
    cases named
  · rw [detail] at named
    cases named
  · rw [reference] at named
    cases named

/-- Into the policy check. -/
def checkTransition (r : EvaluationRequest) : Transition :=
  { toState := .policyCheck, actor := "RECOVERY_SERVICE", reasonCode := "POLICY_EVALUATION_STARTED"
    policyVersion := r.policy.version, occurredAt := r.evaluatedAt }

theorem checking_moves (h : Evaluable r db) (advisory : Diagnosis) : ∃ db',
    (recoveryTransition r.case (checkTransition r) (some advisory) (some r.event)).run db =
      .ok (r.case.settle (checkTransition r) (some advisory) false, db') ∧
      Shifted r.case (r.case.settle (checkTransition r) (some advisory) false) db db' := by
  have edge : CaseState.policyCheck ∈ allowedTransitions r.case.state := by
    rw [h.pending]
    decide
  have live : ¬ CaseState.policyCheck.Terminal := by decide
  have actor : "RECOVERY_SERVICE" ≠ "" ∧ "RECOVERY_SERVICE".length ≤ 128 := by decide
  have reason : "POLICY_EVALUATION_STARTED" ≠ "" ∧ "POLICY_EVALUATION_STARTED".length ≤ 128 := by decide
  exact recoveryTransition_shifts h.keyed h.snap (live_legal edge h.time live rfl) (plain_sized actor reason rfl rfl rfl)
    _ _ _

/-- Reads of the tables that moving and attaching leave alone. -/
theorem assessCase_checked (h : Evaluable r db) (rt : Runtime) (inputs : EvaluationInputs) :
    ∃ a db', Checked rt inputs r a db db' := by
  let advisory := adviseCase rt inputs r
  obtain ⟨d1, moved, shifted⟩ := checking_moves h advisory
  obtain ⟨cases, ts, form⟩ := shifted.others
  have contact1 : contactAt r d1 = contactAt r db := contactAt_congr rfl rfl (shifted.contact (by
    rw [(settle_reads _ _ _ _).2.1, h.pending]
    exact iff_of_false (show ¬ CaseState.policyCheck.Terminal by decide) (by decide)))
  have bearing : incidentsBearing r.case.key r.evaluatedAt (some advisory.code) d1 =
      incidentsBearing r.case.key r.evaluatedAt (some advisory.code) db := by
    rw [form]
    rfl
  let d2 := attachIncidents r.case.key r.evaluatedAt (some advisory.code) d1
  have contact2 : contactAt r d2 = contactAt r db :=
    (contactAt_congr rfl rfl fun m customer => contactSnapshot_attach m customer _ _ _ d1).trans contact1
  have known : ∀ id ∈ r.case.customerId, d2.knows r.case.merchantId id = true := by
    intro id named
    have same : d2.knows r.case.merchantId id = db.knows r.case.merchantId id := by
      simp only [d2, attachIncidents, Database.knows, form]
    rw [same]
    exact h.customer id named
  obtain ⟨rows, facts, untouched⟩ := contactFacts_run known
  rw [contact2] at facts untouched
  let incidents := incidentsBearing r.case.key r.evaluatedAt (some advisory.code) db
  let scored := scoreCandidates rt r advisory (contactAt r db).aggregateContactCount (!incidents.isEmpty)
  obtain ⟨candidates, listed⟩ : ∃ l, candidateList scored = .ok l :=
    candidateList_of (scoreCandidates_listed rt r _ _ (adviseCase_listed rt inputs h.listed h.distinct))
  let input := evaluationInput r advisory candidates (contactAt r db) incidents (authoritativeFactsForCase r.case db)
    (consentFacts r.case.merchantId r.case.customerId db) (hasUnknownEquivalentAmong r.case.key scored db)
  obtain ⟨decision, decided⟩ : ∃ decision, evaluatePolicy (rt.zoneInfo r.policy.timezone) r.policy input = .ok decision :=
    evaluatePolicy_total _ h.effective
  let moved1 := r.case.settle (checkTransition r) (some advisory) false
  let checking : RecoveryCase := (incidents.find? systemicScope).elim moved1 fun incident =>
    { moved1 with activeIncidentId := some incident.incidentId }
  have ledger : checking.ledger = moved1.ledger := by
    dsimp only [checking]
    cases incidents.find? systemicScope with
    | none => rfl
    | some incident => rfl
  have anchor : checking.anchor = r.case.anchor := (congrArg CaseLedger.anchor ledger).trans shifted.anchor
  have read : authoritativeFactsForCase checking { d2 with interventions := rows } = authoritativeFactsForCase r.case db := by
    rw [facts_of_anchor anchor]
    simp only [d2, attachIncidents, form]
    rfl
  have consent : consentFacts r.case.merchantId r.case.customerId d1 = consentFacts r.case.merchantId r.case.customerId db := by
    rw [form]
    rfl
  have unknown : hasUnknownEquivalentAmong r.case.key scored { d2 with interventions := rows } =
      hasUnknownEquivalentAmong r.case.key scored db := by
    simp only [d2, attachIncidents, form]
    rfl
  let d3 : Database := { d2 with interventions := rows }
  have ranked : (Tx.lift (candidateList scored) : Transaction CandidateList).run d3 = .ok (candidates, d3) := by
    rw [listed]
    rfl
  have chosen : (Tx.lift (evaluatePolicy (rt.zoneInfo r.policy.timezone) r.policy (evaluationInput r advisory candidates
      (contactAt r db) incidents (authoritativeFactsForCase checking d3)
      (consentFacts r.case.merchantId r.case.customerId db) (hasUnknownEquivalentAmong r.case.key scored d3))) :
      Transaction PolicyDecision).run d3 = .ok (decision, d3) := by
    rw [read, unknown, decided]
    rfl
  refine ⟨⟨checking, (contactAt r db).activeCaseIds, scored, decision⟩, d3, ?_, ?_, rfl, ?_,
    anchor, ?_, ?_, ?_⟩
  · unfold assessCase
    refine (Tx.bind_of_ok moved).trans ((Tx.bind_of_ok (Tx.run_read _ _)).trans
      ((Tx.bind_of_ok (activeIncidents_run _ _ _ _)).trans ((Tx.bind_of_ok facts).trans ?_)))
    rw [bearing, consent]
    dsimp only [checking, incidents] at chosen ⊢
    cases systemic : (incidentsBearing r.case.key r.evaluatedAt (some advisory.code) db).find? systemicScope with
    | none =>
      rw [systemic] at chosen
      exact (Tx.bind_of_ok (Tx.run_read _ _)).trans ((Tx.bind_of_ok (Tx.run_read _ _)).trans
        ((Tx.bind_of_ok ranked).trans ((Tx.bind_of_ok chosen).trans rfl)))
    | some incident =>
      rw [systemic] at chosen
      exact (Tx.bind_of_ok (Tx.run_read _ _)).trans ((Tx.bind_of_ok (Tx.run_read _ _)).trans
        ((Tx.bind_of_ok ranked).trans ((Tx.bind_of_ok chosen).trans rfl)))
  · unfold proposal
    simp only [bind, Except.bind]
    rw [listed]
    exact decided
  · have attached := attachIncidents_snap r.case.key r.evaluatedAt (some advisory.code) shifted.snap
    exact (Snap.of_cases attached rfl).congr ledger
  · exact (congrArg CaseLedger.state ledger).trans (settle_reads _ _ _ _).2.1
  · exact (congrArg CaseLedger.updatedAt ledger).trans (settle_reads _ _ _ _).2.2
  · refine ⟨d2.cases, ts, d2.incidentLinks, rows, ?_, fun idle => (untouched idle).trans ?_⟩
    · have kept : d3 = { d1 with cases := d2.cases, incidentLinks := d2.incidentLinks, interventions := rows } := rfl
      rw [kept, form]
    · have kept : d2.interventions = d1.interventions := rfl
      rw [kept, form]

end assessment

section storing

/-- The ids an evaluation draws, new to the merchant. -/
structure NewIds (inputs : EvaluationInputs) (m : Identifier) (db : Database) : Prop where
  receipt : db.receipt m (.generated inputs.receiptId) = none
  review : db.review m (.generated inputs.reviewId) = none

/-- The intervention stored for an action. -/
def Database.interventionOf (db : Database) (m : Identifier) (id : ActionIdentity) : Option InterventionRow :=
  db.interventions.find? fun r => decide (r.merchantId = m ∧ r.actionId = id)

/-- Stored under one action, these are one intervention. -/
def InterventionRow.Agrees (row i : InterventionRow) : Prop :=
  row.customerId = i.customerId ∧ row.ownerCaseId = i.ownerCaseId ∧ row.coordinatedCaseIds = i.coordinatedCaseIds

theorem storeCustomerIntervention_commits (i : InterventionRow)
    (idle : db.activeIntervention i.merchantId i.customerId = none) :
    (∃ u db', (storeCustomerIntervention i).run db = .ok (u, db')) ↔
      ∀ row ∈ db.interventionOf i.merchantId i.actionId, row.Agrees i := by
  constructor
  · rintro ⟨u, db', h⟩ row stored
    obtain ⟨_, _, read, h⟩ := Tx.bind_ok h
    obtain ⟨rfl, rfl⟩ := Tx.read_ok read
    rw [show (db.interventions.find? fun r => decide (r.merchantId = i.merchantId ∧ r.actionId = i.actionId)) = some row
      from stored] at h
    exact (Tx.check_ok h).1
  · intro agree
    cases stored : db.interventionOf i.merchantId i.actionId with
    | some row =>
      refine ⟨(), db, (Tx.bind_of_ok (Tx.run_read _ _)).trans ?_⟩
      rw [show (db.interventions.find? fun r => decide (r.merchantId = i.merchantId ∧ r.actionId = i.actionId)) = some row
        from stored]
      exact Tx.check_of (agree row stored)
    | none =>
      refine ⟨(), { db with interventions := db.interventions ++ [i] }, (Tx.bind_of_ok (Tx.run_read _ _)).trans ?_⟩
      rw [show (db.interventions.find? fun r => decide (r.merchantId = i.merchantId ∧ r.actionId = i.actionId)) = none
        from stored]
      exact (Tx.bind_of_ok (Tx.run_read _ _)).trans ((Tx.bind_of_ok (Tx.check_of idle)).trans rfl)

theorem storeAction_run {action : RecoveryAction} {deadline : Instant} (version : Identifier)
    (later : action.authorizedAt < deadline) (db : Database) : ∃ row rows,
      (storeAction action version 3 deadline).run db = .ok (row, { db with actions := rows }) := by
  unfold storeAction
  rw [Tx.bind_of_ok (Tx.check_of (show 1 ≤ 3 by decide)), Tx.bind_of_ok (Tx.check_of later),
    Tx.bind_of_ok (Tx.run_read _ _)]
  split
  · exact ⟨_, db.actions, rfl⟩
  · exact ⟨_, _, rfl⟩

/-- Storing the action of an evaluation commits unless its intervention is another's. -/
theorem storeAuthorizedAction_commits {action : RecoveryAction} {ids : List Identifier}
    (now : action.authorizedAt = r.evaluatedAt)
    (idle : ∀ customer ∈ r.case.customerId, action.identity.actionType.actionClass = .customerContact →
      db.activeIntervention r.case.merchantId customer = none) :
    (∃ u db', (storeAuthorizedAction r ids action).run db = .ok (u, db')) ↔
      ∀ customer ∈ r.case.customerId, action.identity.actionType.actionClass = .customerContact →
        ∀ row ∈ db.interventionOf r.case.merchantId action.identity, row.Agrees (customerIntervention r customer action ids) := by
  have later : action.authorizedAt < r.evaluatedAt + 3600000000 := by
    rw [now]
    exact Int.lt_add_of_pos_right _ (by decide)
  obtain ⟨row, rows, stored⟩ := storeAction_run r.policy.version later db
  unfold storeAuthorizedAction
  rw [Tx.bind_of_ok stored]
  cases named : r.case.customerId with
  | none =>
    refine iff_of_true ⟨(), _, rfl⟩ fun customer absent => ?_
    cases absent
  | some customer =>
    rw [named] at idle
    simp only [Option.mem_some_iff, forall_eq']
    by_cases contact : action.identity.actionType.actionClass = .customerContact
    · have alone := idle customer rfl contact
      simp only [contact, if_true, true_implies]
      exact @storeCustomerIntervention_commits { db with actions := rows }
        (customerIntervention r customer action ids) alone
    · simp only [contact, if_false, false_implies, iff_true]
      exact ⟨(), _, rfl⟩

theorem storeReview_run {review : HumanReviewRequest} (fresh : db.review review.merchantId review.reviewId = none) :
    (storeReview review).run db = .ok ((), { db with reviews := db.reviews ++ [review] }) :=
  (Tx.bind_of_ok (Tx.run_read _ _)).trans ((Tx.bind_of_ok (Tx.check_of (congrArg Option.isSome fresh))).trans rfl)

theorem storeReceipt_run {receipt : ReceiptRow} (fresh : db.receipt receipt.merchantId receipt.receiptId = none) :
    (storeReceipt receipt).run db = .ok ((), { db with receipts := db.receipts ++ [receipt] }) :=
  (Tx.bind_of_ok (Tx.run_read _ _)).trans ((Tx.bind_of_ok (Tx.check_of (congrArg Option.isSome fresh))).trans rfl)

theorem current_of_snap {case : RecoveryCase} (h : Snap case db) : Current case db := by
  obtain ⟨row, found, ledger⟩ := h
  exact ⟨row, found, congrArg CaseLedger.state ledger, congrArg CaseLedger.stateVersion ledger⟩

/-- Out of the policy check, to where the decision leads. -/
theorem decision_moves (version : Identifier) {checking : RecoveryCase} {t : Instant} (snap : Snap checking db)
    (state : checking.state = .policyCheck) (time : checking.updatedAt ≤ t)
    (decided : decision.resultingState = stateFor decision.result) (distinct : decision.reasonCodes.Nodup) :
    ∃ updated db', (recoveryTransition checking { decisionTransition version decision t "POLICY_ENGINE" with
        reasonDetail := some (",".intercalate (decision.reasonCodes.map (·.code))) } none none
        (countsAsRetry decision)).run db = .ok (updated, db') ∧
      Moves checking updated decision.resultingState t db db' := by
  have edge : decision.resultingState ∈ allowedTransitions checking.state := by
    rw [state, decided]
    cases decision.result <;> decide
  have ends : decision.resultingState.Terminal → decision.result = .stop := by
    rw [decided]
    cases decision.result <;> decide
  have lives : ¬ decision.resultingState.Terminal → decision.result ≠ .stop := by
    rw [decided]
    cases decision.result <;> decide
  have unrecovered : decision.resultingState ≠ .recovered := by
    rw [decided]
    cases decision.result <;> decide
  have short := code_length decision.lastReason
  have detailed := reasons_sized distinct
  refine recoveryTransition_run (current_of_snap snap) ⟨edge, time, fun ended => ?_, fun live => if_neg (lives live),
    fun recovered => absurd recovered unrecovered⟩ ⟨fun text named => ?_, ?_, ⟨code_named _, ?_⟩, fun text named => ?_,
    fun text none_ => ?_⟩ _ _ _
  · change blank (if decision.result = .stop then some decision.lastReason.code else none) = false
    rw [if_pos (ends ended)]
    exact code_present _
  · dsimp only [decisionTransition] at named
    split at named
    · cases named
      omega
    · cases named
  · change "POLICY_ENGINE" ≠ "" ∧ "POLICY_ENGINE".length ≤ 128
    decide
  · exact Nat.le_trans short (by decide)
  · cases named
    exact detailed
  · cases none_

/-- The review, the move and the receipt of a decision are stored; what is left is its action. -/
theorem decideCase_run {a : Assessment} {d : Database} (checked : Checked rt inputs r a db d)
    (new : NewIds inputs r.case.merchantId db) : ∃ (decided : RecoveryCase) (result : RecoveryServiceResult) (middle : Database),
      decided.anchor = r.case.anchor ∧
      (decideCase rt inputs r a).run d = (storeActionIfAny r a.activeCaseIds
        (buildAction decided a.decision (.generated inputs.receiptId) r.evaluatedAt a.activeCaseIds) >>= fun _ =>
          pure result).run middle ∧
      middle.interventions = d.interventions ∧
      (∃ more : List HumanReviewRequest, middle.reviews = d.reviews ++ more ∧
        ∀ x ∈ more, x.reviewId = .generated inputs.reviewId) ∧
      ∃ receipt : ReceiptRow, middle.receipts = d.receipts ++ [receipt] ∧ receipt.receiptId = .generated inputs.receiptId := by
  have decision := checked.proposed
  obtain ⟨candidates, -, decision⟩ := except_bind_ok decision
  obtain ⟨cases_, ts, links, rows, form, -⟩ := checked.others
  have merchant : a.checking.merchantId = r.case.merchantId := congrArg CaseAnchor.merchantId checked.anchor
  let review : Option HumanReviewRequest := if a.decision.result = .requireHuman then
    some (buildReview rt inputs.reviewId a.checking r.policy a.decision r.evaluatedAt) else none
  obtain ⟨d1, reviewed, d1_form⟩ : ∃ d1, (storeReviewIfAny review).run d = .ok ((), d1) ∧
      d1 = { d with reviews := d.reviews ++ review.toList } := by
    by_cases asks : a.decision.result = .requireHuman
    · have absent : d.review a.checking.merchantId (.generated inputs.reviewId) = none := by
        rw [merchant, form]
        exact new.review
      simp only [review, if_pos asks]
      exact ⟨_, storeReview_run absent, rfl⟩
    · simp only [review, if_neg asks]
      exact ⟨_, rfl, by rw [Option.toList_none, List.append_nil]⟩
  have snap : Snap a.checking d1 := checked.snap.of_cases (by rw [d1_form])
  obtain ⟨decided, d2, moved, moves⟩ := decision_moves r.policy.version snap checked.state
    (le_of_eq checked.time) (evaluatePolicy_state decision) (evaluatePolicy_nodup decision)
  obtain ⟨cases2, ts2, d2_form⟩ := moves.others
  have fresh : d2.receipt r.case.merchantId (.generated inputs.receiptId) = none := by
    rw [d2_form, d1_form, form]
    exact new.receipt
  have receipts : d2.receipts = d.receipts := by rw [d2_form, d1_form]
  refine ⟨decided, _, _, moves.anchor.trans checked.anchor, (Tx.bind_of_ok reviewed).trans ((Tx.bind_of_ok moved).trans
    (Tx.bind_of_ok (storeReceipt_run fresh))),
    ?_, ⟨review.toList, ?_, fun x member => ?_⟩, _, congrArg (· ++ [_]) receipts, rfl⟩
  · rw [d2_form, d1_form]
  · rw [d2_form, d1_form]
  · simp only [review] at member
    split at member
    · rw [List.mem_singleton.mp member]
      rfl
    · cases member

end storing

section commits

/-- Every intervention is owned by the case of its action, and about that case's customer. -/
def Placed (owner : CaseKey → Option Identifier) (db : Database) : Prop :=
  ∀ i ∈ db.interventions, i.ownerCaseId = i.actionId.caseId ∧ owner i.actionId.key = some i.customerId

/-- A contact is authorized anew only for the cases it was opened for: where an intervention is stored for the action
the policy proposes, it coordinates the cases of the customer that are active now. -/
def Coordinated (rt : Runtime) (inputs : EvaluationInputs) (r : EvaluationRequest) (db : Database) : Prop :=
  ∀ d ∈ (proposal rt inputs r db).toOption, d.result = .proceed →
    d.selectedAction.actionType.actionClass = .customerContact →
    ∀ i ∈ db.interventionOf r.case.merchantId (candidateIdentity r.case d.selectedAction),
      i.coordinatedCaseIds = (contactAt r db).activeCaseIds

instance (rt : Runtime) (inputs : EvaluationInputs) (r : EvaluationRequest) (db : Database) :
    Decidable (Coordinated rt inputs r db) := by
  unfold Coordinated
  infer_instance

/-- A contact that is authorized finds its customer undisturbed. -/
theorem contact_idle (h : proposal rt inputs r db = .ok decision) (proceeds : decision.result = .proceed)
    (contact : decision.selectedAction.actionType.actionClass = .customerContact) :
    (contactAt r db).activeInterventionActionId = none ∧ r.case.customerId.isSome = true := by
  obtain ⟨candidates, -, decided⟩ := except_bind_ok h
  obtain ⟨channel, named⟩ := Option.isSome_iff_exists.mp (decision.selectedAction.channel_iff.mpr contact)
  obtain ⟨resolved, idle, -⟩ := (evaluatePolicy_proceed decided proceeds).compliant.contact channel named
  exact ⟨Option.not_isSome_iff_eq_none.mp (Bool.eq_false_iff.mp idle), resolved⟩

theorem contactAt_idle {customer : Identifier} (named : r.case.customerId = some customer)
    (idle : (contactAt r db).activeInterventionActionId = none) :
    db.activeIntervention r.case.merchantId customer = none := by
  unfold contactAt at idle
  rw [named] at idle
  exact Option.map_eq_none_iff.mp idle

/-- An evaluation commits exactly where the contact it authorizes is the one that was stored. -/
theorem evaluateCase_commits {owner : CaseKey → Option Identifier} (h : Evaluable r db)
    (new : NewIds inputs r.case.merchantId db) (placed : Placed owner db) (owns : owner r.case.key = r.case.customerId) :
    (∃ res db', (evaluateCase rt inputs r).run db = .ok (res, db')) ↔ Coordinated rt inputs r db := by
  obtain ⟨a, d, checked⟩ := assessCase_checked h rt inputs
  obtain ⟨decided, result, middle, anchor, ran, rows, -, -⟩ := decideCase_run checked new
  obtain ⟨_, _, _, interventions, form, untouched⟩ := checked.others
  have whole : (evaluateCase rt inputs r).run db = (decideCase rt inputs r a).run d := Tx.bind_of_ok checked.ran
  have acts : (∃ res db', (evaluateCase rt inputs r).run db = .ok (res, db')) ↔ ∃ u e, (storeActionIfAny r a.activeCaseIds
      (buildAction decided a.decision (.generated inputs.receiptId) r.evaluatedAt a.activeCaseIds)).run middle = .ok (u, e) := by
    rw [whole, ran]
    constructor
    · rintro ⟨res, db', h⟩
      obtain ⟨u, e, stored, -⟩ := Tx.bind_ok h
      exact ⟨u, e, stored⟩
    · rintro ⟨u, e, stored⟩
      exact ⟨result, e, Tx.bind_of_ok stored⟩
  rw [acts]
  simp only [Coordinated, checked.proposed, Except.toOption, Option.mem_some_iff, forall_eq']
  by_cases proceeds : a.decision.result = .proceed ∧ a.decision.selectedAction.actionType ≠ .escalateHuman
  · obtain ⟨action, built, identity, now⟩ : ∃ action, buildAction decided a.decision (.generated inputs.receiptId)
        r.evaluatedAt a.activeCaseIds = some action ∧ action.identity = candidateIdentity r.case a.decision.selectedAction ∧
        action.authorizedAt = r.evaluatedAt :=
      ⟨_, if_neg (by simp [proceeds.1, proceeds.2]), candidateIdentity_anchor anchor _, rfl⟩
    have class_ : action.identity.actionType = a.decision.selectedAction.actionType := by rw [identity]; rfl
    have idle := contact_idle checked.proposed proceeds.1
    have same : a.decision.selectedAction.actionType.actionClass = .customerContact → middle.interventions = db.interventions := by
      intro contact
      rw [rows, form]
      exact untouched (idle contact).1
    rw [built]
    refine (storeAuthorizedAction_commits now fun customer named contact => ?_).trans ?_
    · rw [class_] at contact
      rw [Database.activeIntervention, same contact]
      exact contactAt_idle named (idle contact).1
    · rw [class_, identity, checked.active]
      have found : a.decision.selectedAction.actionType.actionClass = .customerContact → ∀ id,
          middle.interventionOf r.case.merchantId id = db.interventionOf r.case.merchantId id := by
        intro contact id
        rw [Database.interventionOf, same contact]
        rfl
      constructor
      · intro agree _ contact row stored
        obtain ⟨customer, named⟩ := Option.isSome_iff_exists.mp (idle contact).2
        exact (agree customer named contact row (by rw [found contact]; exact stored)).2.2
      · intro coordinated customer named contact row stored
        rw [found contact] at stored
        obtain ⟨case, person⟩ := placed row (List.mem_of_find?_eq_some stored)
        have action := List.find?_some stored
        simp only [decide_eq_true_eq] at action
        rw [action.2] at case person
        have owned := owns.symm.trans person
        rw [named, Option.some.injEq] at owned
        exact ⟨owned.symm, case, coordinated proceeds.1 contact row stored⟩
  · have none_ : buildAction decided a.decision (.generated inputs.receiptId) r.evaluatedAt a.activeCaseIds = none :=
      if_pos (by tauto)
    rw [none_]
    refine iff_of_true ⟨(), middle, rfl⟩ fun proceed contact => ?_
    exact absurd ⟨proceed, fun human => by rw [human] at contact; cases contact⟩ proceeds

end commits

section drawn

/-- The papers of a store, but for those drawn under these ids. -/
structure Draws (inputs : EvaluationInputs) (db db' : Database) : Prop where
  reviews : ∀ x ∈ db'.reviews, x ∈ db.reviews ∨ x.reviewId = .generated inputs.reviewId
  receipts : ∀ x ∈ db'.receipts, x ∈ db.receipts ∨ x.receiptId = .generated inputs.receiptId

theorem storeAuthorizedAction_papers {ids : List Identifier} {action : RecoveryAction} {u : Unit}
    (h : (storeAuthorizedAction r ids action).run db = .ok (u, db')) :
    db'.reviews = db.reviews ∧ db'.receipts = db.receipts := by
  obtain ⟨row, d, stored, h⟩ := Tx.bind_ok h
  have kept : d.reviews = db.reviews ∧ d.receipts = db.receipts := by
    obtain ⟨-, ⟨-, rfl⟩ | ⟨-, -, rfl⟩⟩ := storeAction_ok stored
    · exact ⟨rfl, rfl⟩
    · exact ⟨rfl, rfl⟩
  split at h
  · split at h
    · rcases storeCustomerIntervention_ok h with ⟨rfl, -⟩ | ⟨rfl, -⟩
      · exact kept
      · exact kept
    · obtain ⟨-, rfl⟩ := Tx.pure_ok h
      exact kept
  · obtain ⟨-, rfl⟩ := Tx.pure_ok h
    exact kept

theorem evaluateCase_draws {res : RecoveryServiceResult} (h : Evaluable r db) (new : NewIds inputs r.case.merchantId db)
    (ran : (evaluateCase rt inputs r).run db = .ok (res, db')) : Draws inputs db db' := by
  obtain ⟨a, d, checked⟩ := assessCase_checked h rt inputs
  obtain ⟨decided, result, middle, -, decides, -, ⟨more, reviews, asked⟩, receipt, receipts, drawn⟩ :=
    decideCase_run checked new
  obtain ⟨_, _, _, _, form, -⟩ := checked.others
  have whole : (evaluateCase rt inputs r).run db = (decideCase rt inputs r a).run d := Tx.bind_of_ok checked.ran
  rw [whole, decides] at ran
  obtain ⟨u, e, stored, last⟩ := Tx.bind_ok ran
  obtain ⟨-, rfl⟩ := Tx.pure_ok last
  have kept : e.reviews = middle.reviews ∧ e.receipts = middle.receipts := by
    cases action : buildAction decided a.decision (.generated inputs.receiptId) r.evaluatedAt a.activeCaseIds with
    | none =>
      rw [action] at stored
      obtain ⟨-, rfl⟩ := Tx.pure_ok stored
      exact ⟨rfl, rfl⟩
    | some made =>
      rw [action] at stored
      exact storeAuthorizedAction_papers stored
  rw [form] at reviews receipts
  constructor
  · intro x member
    rw [kept.1, reviews] at member
    exact (List.mem_append.mp member).imp id (asked x)
  · intro x member
    rw [kept.2, receipts] at member
    refine (List.mem_append.mp member).imp id fun last => ?_
    rw [List.mem_singleton.mp last]
    exact drawn

end drawn

end RevenueGuard
