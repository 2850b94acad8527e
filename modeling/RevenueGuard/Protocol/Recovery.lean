import RevenueGuard.Domain.Decisions
import RevenueGuard.Protocol.Changes

/-
Decisioning as steps of the protocol: what an evaluation, an event, a wake-up
and a review do to the case they are about.
-/
namespace RevenueGuard

variable {db db' : Database} {rt : Runtime} {inputs : EvaluationInputs} {r : EvaluationRequest} {a : Assessment}
  {excluded : Kind → Prop}

/-- A diagnosis that proposes to stop is one of a disputed payment. -/
def Diagnosis.Sound (d : Diagnosis) : Prop :=
  ∀ c ∈ d.candidates, c.actionType = .stopAutomation → d.code = paymentDisputed

theorem diagnoseEvent_sound {event : RevenueRiskEvent} {d : Diagnosis} (h : diagnoseEvent event = some d) : d.Sound := by
  intro c hc stops
  by_contra calm
  exact diagnosed_candidate_types h calm c hc stops

theorem noActionDiagnosis_sound (case : RecoveryCase) : (noActionDiagnosis case).Sound := by
  intro c hc stops
  simp only [noActionDiagnosis, List.mem_singleton] at hc
  subst hc
  cases stops

theorem scoreCandidates_types (rt : Runtime) (r : EvaluationRequest) (advisory : Diagnosis) (n : Nat) (incident : Bool) :
    ∀ c ∈ scoreCandidates rt r advisory n incident,
      c.actionType = .noAction ∨ ∃ d ∈ advisory.candidates, d.actionType = c.actionType := by
  intro c hc
  unfold scoreCandidates at hc
  dsimp only at hc
  split at hc
  · rename_i ranked
    exact rankCandidates_types ranked c hc
  · exact .inr ⟨c, hc, rfl⟩

theorem candidate_types (rt : Runtime) (inputs : EvaluationInputs) (r : EvaluationRequest) (n : Nat) (incident : Bool) :
    ∀ c ∈ scoreCandidates rt r (adviseCase rt inputs r) n incident,
      c.actionType = .noAction ∨ ∃ d ∈ r.diagnosis.candidates, d.actionType = c.actionType := by
  intro c hc
  refine (scoreCandidates_types rt r _ n incident c hc).imp id ?_
  rintro ⟨d, hd, same⟩
  obtain ⟨e, he, eq, -⟩ := recommend_types rt.budget inputs.model (intelligenceRequest r) d hd
  exact ⟨e, he, eq.trans same⟩

/-- What the first half of an evaluation establishes. -/
structure Assessed (rt : Runtime) (r : EvaluationRequest) (a : Assessment) (db db' : Database) : Prop where
  pending : r.case.state = .decisionPending
  anchor : a.checking.anchor = r.case.anchor
  state : a.checking.state = .policyCheck
  isLocal : Local r.case.key db db'
  effect : ∃ row row', (view r.case.key db).row = some row ∧ row.case.anchor = r.case.anchor ∧
    row.case.state = .decisionPending ∧ row.Moved .policyCheck row' ∧
    view r.case.key db' = { view r.case.key db with row := some row' }
  decided : ∃ e : PolicyEvaluationInput, evaluatePolicy (rt.zoneInfo r.policy.timezone) r.policy e = .ok a.decision ∧
    e.candidates.items = a.candidates ∧ e.alreadyPaid = paidStatus (authoritativeFactsForCase r.case db).status ∧
    (r.diagnosis.code = paymentDisputed → e.disputed = true)
  types : ∀ c ∈ a.candidates, c.actionType = .noAction ∨ ∃ d ∈ r.diagnosis.candidates, d.actionType = c.actionType

theorem policyCheck_from {s : CaseState} (h : .policyCheck ∈ allowedTransitions s) : s = .decisionPending := by
  cases s <;> simp [allowedTransitions] at h ⊢

/-- How an assessment came about: its case moved, incidents attached, the contact facts read. -/
inductive Assessing (rt : Runtime) (inputs : EvaluationInputs) (r : EvaluationRequest) (a : Assessment)
    (db db' : Database) : Prop
  | ran (checking : RecoveryCase) (d : Database) (contact : CustomerContactSnapshot) (candidates : CandidateList)
      (consent : List (ContactChannel × ConsentState) × List ContactChannel) (unknownEquivalent : Bool)
      (moved : (recoveryTransition r.case
        { toState := .policyCheck, actor := "RECOVERY_SERVICE", reasonCode := "POLICY_EVALUATION_STARTED"
          policyVersion := r.policy.version, occurredAt := r.evaluatedAt } (some (adviseCase rt inputs r))
        (some r.event)).run db = .ok (checking, d))
      (facts : (contactFacts r).run (attachIncidents r.case.key r.evaluatedAt (some (adviseCase rt inputs r).code) d) =
        .ok (contact, db'))
      (noted : ∃ incident, a.checking = { checking with activeIncidentId := incident })
      (listed : candidates.items = a.candidates)
      (types : ∀ c ∈ a.candidates, c.actionType = .noAction ∨ ∃ d ∈ r.diagnosis.candidates, d.actionType = c.actionType)
      (decided : evaluatePolicy (rt.zoneInfo r.policy.timezone) r.policy
        (evaluationInput r (adviseCase rt inputs r) candidates contact (incidentsBearing r.case.key r.evaluatedAt
          (some (adviseCase rt inputs r).code) d) (authoritativeFactsForCase a.checking db') consent unknownEquivalent) =
            .ok a.decision) : Assessing rt inputs r a db db'

theorem assessCase_ok (h : (assessCase rt inputs r).run db = .ok (a, db')) : Assessing rt inputs r a db db' := by
  obtain ⟨checking, d1, moved, h⟩ := Tx.bind_ok h
  obtain ⟨consent, _, read, h⟩ := Tx.bind_ok h
  obtain ⟨-, rfl⟩ := Tx.read_ok read
  obtain ⟨incidents, d2, found, h⟩ := Tx.bind_ok h
  rw [activeIncidents_run] at found
  cases found
  obtain ⟨contact, d3, facts, h⟩ := Tx.bind_ok h
  obtain ⟨_, _, read, h⟩ := Tx.bind_ok h
  obtain ⟨rfl, rfl⟩ := Tx.read_ok read
  obtain ⟨unknownEquivalent, _, read, h⟩ := Tx.bind_ok h
  obtain ⟨-, rfl⟩ := Tx.read_ok read
  obtain ⟨candidates, _, lifted, h⟩ := Tx.bind_ok h
  obtain ⟨listed, rfl⟩ := Tx.lift_ok lifted
  obtain ⟨decision, _, lifted, h⟩ := Tx.bind_ok h
  obtain ⟨decided, rfl⟩ := Tx.lift_ok lifted
  obtain ⟨rfl, rfl⟩ := Tx.pure_ok h
  refine .ran checking d1 contact candidates consent unknownEquivalent moved facts ?_ (candidateList_ok listed)
    (candidate_types _ _ _ _ _) decided
  dsimp only
  split
  · exact ⟨_, rfl⟩
  · exact ⟨_, rfl⟩

theorem assessCase_effect (tracked : Tracks r.case db) (h : (assessCase rt inputs r).run db = .ok (a, db')) :
    Assessed rt r a db db' := by
  cases assessCase_ok h with
  | ran checking d1 contact candidates consent unknownEquivalent moved facts noted listed types decided =>
    have transited := recoveryTransition_effect moved
    obtain ⟨row, row', present, state, toCheck, seen⟩ := transited.effect
    have present' : (view r.case.key d1).row = some row' := by rw [seen]
    obtain ⟨attachLocal, row'', attached, seen'⟩ := attachIncidents_effect present' r.evaluatedAt
      (some (adviseCase rt inputs r).code)
    have unseen := contactFacts_unseen facts
    obtain ⟨tracking, here, anchor, tracking_state⟩ := tracked
    have same : row = tracking := Option.some.inj (present.symm.trans here)
    subst same
    have isLocal : Local r.case.key db db' := (transited.isLocal.trans attachLocal).trans (unseen.local _)
    have pending := policyCheck_from transited.legal
    have placed : a.checking.anchor = r.case.anchor := by
      obtain ⟨incident, noted⟩ := noted
      rw [noted]
      exact transited.anchor
    have state' : a.checking.state = .policyCheck := by
      obtain ⟨incident, noted⟩ := noted
      rw [noted]
      exact transited.state
    refine ⟨pending, placed, state', isLocal, ⟨row, row'', present, anchor, state.trans pending, ?_, ?_⟩,
      ⟨_, decided, listed, ?_, ?_⟩, types⟩
    · have step := toCheck.trans attached
      rw [toCheck.state] at step
      exact step
    · rw [unseen.same, seen', seen]
    · have facts := facts_of_anchor placed db'
      exact congrArg paidStatus ((congrArg AuthoritativeFacts.status facts).trans (isLocal.kept.facts r.case))
    · intro disputed
      simp [evaluationInput, disputed]

theorem storeReviewIfAny_effect {k : CaseKey} {review : Option HumanReviewRequest} {u : Unit}
    (key : ∀ x ∈ review, x.key = k) (h : (storeReviewIfAny review).run db = .ok (u, db')) :
    Local k db db' ∧ view k db' = { view k db with reviews := (view k db).reviews ++ review.toList } := by
  cases review with
  | none =>
    obtain ⟨-, rfl⟩ := Tx.pure_ok h
    exact ⟨.refl _ _, by simp⟩
  | some x =>
    have here := key x rfl
    subst here
    exact storeReview_effect h

/-- The action an assessment authorizes, when it decides to proceed. -/
def Assessment.identity (a : Assessment) (r : EvaluationRequest) : ActionIdentity :=
  candidateIdentity r.case a.decision.selectedAction

theorem candidateIdentity_anchor {c d : RecoveryCase} (h : c.anchor = d.anchor) (candidate : CandidateAction) :
    candidateIdentity c candidate = candidateIdentity d candidate := by
  simp only [RecoveryCase.anchor, CaseAnchor.mk.injEq] at h
  simp [candidateIdentity, h.1, h.2.1, h.2.2.2.1]

/-- How an evaluation that reached a decision ends, seen from its case. -/
inductive Evaluated (r : EvaluationRequest) (a : Assessment) (db : Database) (v : CaseView) (row' : CaseRow)
    (receipt : ReceiptRow) : CaseView → Prop
  | settled (reviews : List HumanReviewRequest) (refused : a.decision.result ≠ .proceed)
      (settles : Settles r.case.key (stateFor a.decision.result) reviews) : Evaluated r a db v row' receipt
        { v with row := some row', reviews := v.reviews ++ reviews, receipts := v.receipts ++ [receipt] }
  | authorized (action : RecoveryAction) (version : Identifier) (deadline : Instant)
      (proceeds : a.decision.result = .proceed) (identity : action.identity = a.identity r)
      (pending : action.status = .pending) (scheduled : action.authorizedAt ≤ action.executeAfter)
      (new : db.action action.identity = none) : Evaluated r a db v row' receipt
        { v with row := some row', receipts := v.receipts ++ [receipt]
                 actions := v.actions ++ [.ofAction action version 3 deadline] }
  | reauthorized (proceeds : a.decision.result = .proceed) (stored : db.action (a.identity r) ≠ none) :
      Evaluated r a db v row' receipt { v with row := some row', receipts := v.receipts ++ [receipt] }

theorem storeAuthorizedAction_effect {ids : List Identifier} {action : RecoveryAction} {u : Unit}
    (h : (storeAuthorizedAction r ids action).run db = .ok (u, db')) :
    Local action.identity.key db db' ∧ ((db.action action.identity ≠ none ∧
      view action.identity.key db' = view action.identity.key db) ∨ (db.action action.identity = none ∧
      view action.identity.key db' = { view action.identity.key db with
        actions := (view action.identity.key db).actions ++
          [.ofAction action r.policy.version 3 (r.evaluatedAt + 3600000000)] })) := by
  obtain ⟨row, d1, stored, h⟩ := Tx.bind_ok h
  have unseen : Unseen d1 db' := by
    split at h
    · split at h
      · exact storeCustomerIntervention_unseen h
      · obtain ⟨-, rfl⟩ := Tx.pure_ok h
        exact .refl _
    · obtain ⟨-, rfl⟩ := Tx.pure_ok h
      exact .refl _
  obtain ⟨-, ⟨present, rfl⟩ | ⟨absent, rfl, isLocal, seen⟩⟩ := storeAction_effect stored
  · exact ⟨unseen.local _, .inl ⟨by simp [present], unseen.same _⟩⟩
  · exact ⟨isLocal.trans (unseen.local _), .inr ⟨absent, by rw [unseen.same, seen]⟩⟩

theorem decided_reviews (rt : Runtime) (inputs : EvaluationInputs) (r : EvaluationRequest) (a : Assessment)
    (anchor : a.checking.anchor = r.case.anchor) (refused : a.decision.result ≠ .proceed) :
    Settles r.case.key (stateFor a.decision.result) (if a.decision.result = .requireHuman then
      some (buildReview rt inputs.reviewId a.checking r.policy a.decision r.evaluatedAt) else none).toList := by
  cases result : a.decision.result with
  | proceed => exact absurd result refused
  | requireHuman => exact .inr ⟨rfl, _, rfl, rfl, key_of_anchor anchor⟩
  | _ => exact .inl ⟨by simp [stateFor], rfl⟩

theorem decideCase_effect {res : RecoveryServiceResult} (anchor : a.checking.anchor = r.case.anchor)
    (decided : a.decision.resultingState = stateFor a.decision.result)
    (ordinary : a.decision.result = .proceed → a.decision.selectedAction.actionType ≠ .escalateHuman)
    (h : (decideCase rt inputs r a).run db = .ok (res, db')) :
    Local r.case.key db db' ∧ ∃ row row' receipt, (view r.case.key db).row = some row ∧
      row.Moved (stateFor a.decision.result) row' ∧ receipt.key = r.case.key ∧
      receipt.policyResult = a.decision.result ∧ Evaluated r a db (view r.case.key db) row' receipt
        (view r.case.key db') := by
  have checking : a.checking.key = r.case.key := key_of_anchor anchor
  obtain ⟨_, d1, reviewed, h⟩ := Tx.bind_ok h
  obtain ⟨reviewLocal, reviewSeen⟩ := storeReviewIfAny_effect (k := r.case.key) (fun x hx => by
    split at hx <;> cases hx
    exact checking) reviewed
  obtain ⟨case, d2, moved, h⟩ := Tx.bind_ok h
  have transited := recoveryTransition_effect moved
  obtain ⟨_, d3, receipted, h⟩ := Tx.bind_ok h
  obtain ⟨receipt, receiptKey, receiptResult, receiptLocal, receiptSeen⟩ : ∃ receipt : ReceiptRow,
      receipt.key = r.case.key ∧ receipt.policyResult = a.decision.result ∧ Local r.case.key d2 d3 ∧
        view r.case.key d3 = { view r.case.key d2 with receipts := (view r.case.key d2).receipts ++ [receipt] } := by
    refine ⟨_, ?_, ?_, storeReceipt_effect ?_ receipted⟩ <;> rfl
  obtain ⟨_, d4, acted, h⟩ := Tx.bind_ok h
  obtain ⟨-, rfl⟩ := Tx.pure_ok h
  obtain ⟨row, row', present, -, rowMoved, movedSeen⟩ := transited.effect
  have movedLocal := transited.isLocal
  rw [checking] at present movedSeen movedLocal
  rw [reviewSeen] at present
  have toState : row.Moved (stateFor a.decision.result) row' := by
    rw [← decided]
    exact rowMoved
  have soFar := (reviewLocal.trans movedLocal).trans receiptLocal
  rw [movedSeen, reviewSeen] at receiptSeen
  by_cases proceeds : a.decision.result = .proceed
  · obtain ⟨action, built, identity, pending, scheduled⟩ : ∃ action, buildAction case a.decision
        (.generated inputs.receiptId) r.evaluatedAt a.activeCaseIds = some action ∧ action.identity = a.identity r ∧
        action.status = .pending ∧ action.authorizedAt ≤ action.executeAfter := by
      refine ⟨_, if_neg (by simp [proceeds, ordinary proceeds]), ?_, rfl, le_refl _⟩
      exact candidateIdentity_anchor (transited.anchor.trans anchor) _
    rw [built] at acted
    have here : action.identity.key = r.case.key := by rw [identity]; rfl
    have unreviewed : (if a.decision.result = .requireHuman then
      some (buildReview rt inputs.reviewId a.checking r.policy a.decision r.evaluatedAt) else none) = none := by
      simp [proceeds]
    rw [unreviewed, Option.toList_none, List.append_nil] at receiptSeen
    have before : d3.action action.identity = db.action action.identity := by
      rw [action_of_view, action_of_view, here, receiptSeen]
    obtain ⟨actedLocal, actedSeen⟩ := storeAuthorizedAction_effect acted
    rw [here, before, receiptSeen] at actedSeen
    rw [here] at actedLocal
    refine ⟨soFar.trans actedLocal, row, row', receipt, present, toState, receiptKey, receiptResult, ?_⟩
    rcases actedSeen with ⟨stored, seen⟩ | ⟨absent, seen⟩
    · rw [seen]
      exact .reauthorized proceeds (by rw [← identity]; exact stored)
    · rw [seen]
      exact .authorized action _ _ proceeds identity pending scheduled absent
  · have none_built : buildAction case a.decision (.generated inputs.receiptId) r.evaluatedAt a.activeCaseIds = none := by
      simp [buildAction, proceeds]
    rw [none_built] at acted
    obtain ⟨-, rfl⟩ := Tx.pure_ok acted
    refine ⟨soFar, row, row', receipt, present, toState, receiptKey, receiptResult, ?_⟩
    rw [receiptSeen]
    exact .settled _ proceeds (decided_reviews rt inputs r a anchor proceeds)

theorem Evaluated.rebase {d : Database} {v : CaseView} {row : Option CaseRow} {row' : CaseRow} {receipt : ReceiptRow}
    {v' : CaseView} (same : ∀ id : ActionIdentity, id.key = r.case.key → d.action id = db.action id)
    (h : Evaluated r a d { v with row := row } row' receipt v') : Evaluated r a db v row' receipt v' := by
  cases h with
  | settled reviews refused settles => exact .settled reviews refused settles
  | authorized action version deadline proceeds identity pending scheduled new =>
    rw [same action.identity (by rw [identity]; rfl)] at new
    exact .authorized action version deadline proceeds identity pending scheduled new
  | reauthorized proceeds stored =>
    rw [same (a.identity r) rfl] at stored
    exact .reauthorized proceeds stored

theorem Assessed.ordinary {d : Database} (h : Assessed rt r a db d) (proceeds : a.decision.result = .proceed) :
    a.decision.selectedAction.actionType ≠ .escalateHuman ∧
      paidStatus (authoritativeFactsForCase r.case db).status = false ∧ r.diagnosis.code ≠ paymentDisputed := by
  obtain ⟨e, decided, -, paid, disputed⟩ := h.decided
  have authorized := evaluatePolicy_proceed decided proceeds
  refine ⟨authorized.compliant.notEscalation, by rw [← paid]; exact authorized.open_.2.1, fun code => ?_⟩
  have stopped := disputed code
  rw [authorized.open_.2.2.1] at stopped
  cases stopped

theorem Assessed.class_ordinary {d : Database} (h : Assessed rt r a db d) (sound : r.diagnosis.Sound)
    (proceeds : a.decision.result = .proceed) :
    a.decision.selectedAction.actionType.actionClass ∉ alwaysAllowedClasses := by
  obtain ⟨e, decided, items, -, -⟩ := h.decided
  have authorized := evaluatePolicy_proceed decided proceeds
  obtain ⟨notEscalation, -, calm⟩ := h.ordinary proceeds
  have listed := authorized.selected
  rw [items] at listed
  have proposed : a.decision.selectedAction.actionType ≠ .stopAutomation := fun stops => by
    rcases h.types _ listed with skip | ⟨c, hc, same⟩
    · exact authorized.ordinary skip
    · exact calm (sound c hc (same.trans stops))
  have noAction := authorized.ordinary
  revert notEscalation proposed noAction
  cases a.decision.selectedAction.actionType <;> simp [ActionType.actionClass, alwaysAllowedClasses]

/-- What an evaluation does, from the store it starts from. -/
structure Concluded (r : EvaluationRequest) (a : Assessment) (row row' : CaseRow) (receipt : ReceiptRow)
    (db db' : Database) : Prop where
  isLocal : Local r.case.key db db'
  present : (view r.case.key db).row = some row
  anchor : row.case.anchor = r.case.anchor
  pending : row.case.state = .decisionPending
  moved : row.Moved (stateFor a.decision.result) row'
  receiptKey : receipt.key = r.case.key
  receiptResult : receipt.policyResult = a.decision.result
  change : Evaluated r a db (view r.case.key db) row' receipt (view r.case.key db')

theorem evaluateCase_effect {res : RecoveryServiceResult} (tracked : Tracks r.case db)
    (h : (evaluateCase rt inputs r).run db = .ok (res, db')) :
    ∃ a d, (assessCase rt inputs r).run db = .ok (a, d) ∧ Assessed rt r a db d ∧
      ∃ row row' receipt, Concluded r a row row' receipt db db' := by
  obtain ⟨a, d, assess, decide⟩ := Tx.bind_ok h
  have assessed := assessCase_effect tracked assess
  obtain ⟨e, decided, -⟩ := assessed.decided
  obtain ⟨isLocal, checking, row', receipt, checkingHere, moved, key, result, evaluated⟩ :=
    decideCase_effect assessed.anchor (evaluatePolicy_state decided) (fun p => (assessed.ordinary p).1) decide
  obtain ⟨row, row1, present, anchor, pending, toCheck, seen⟩ := assessed.effect
  have same : checking = row1 := by
    rw [seen] at checkingHere
    exact (Option.some.inj checkingHere).symm
  subst same
  refine ⟨a, d, assess, assessed, row, row', receipt, assessed.isLocal.trans isLocal, present, anchor, pending,
    toCheck.trans moved, key, result, ?_⟩
  rw [seen] at evaluated
  refine evaluated.rebase fun id here => ?_
  rw [action_of_view, action_of_view, here, seen]

/-- The evaluation does not authorize a logical action that is in the outbox already. -/
def EvaluationAvoids (rt : Runtime) (excluded : Kind → Prop) (inputs : EvaluationInputs) (r : EvaluationRequest)
    (db : Database) : Prop :=
  excluded .reusedKey → (assessCase rt inputs r).After
    (fun a _ => a.decision.result = .proceed → db.action (a.identity r) = none) db

instance [DecidablePred excluded] (inputs : EvaluationInputs) (r : EvaluationRequest) (db : Database) :
    Decidable (EvaluationAvoids rt excluded inputs r db) := inferInstanceAs (Decidable (_ → _))

def Routed.Avoids (rt : Runtime) (excluded : Kind → Prop) (inputs : EvaluationInputs) : Routed → Database → Prop
  | .done _, _ => True
  | .evaluate r, db => EvaluationAvoids rt excluded inputs r db

instance [DecidablePred excluded] (inputs : EvaluationInputs) : ∀ (routed : Routed) (db : Database),
    Decidable (routed.Avoids rt excluded inputs db)
  | .done _, _ => isTrue trivial
  | .evaluate r, db => inferInstanceAs (Decidable (EvaluationAvoids rt excluded inputs r db))

theorem Evaluated.change {v v' : CaseView} {row row' : CaseRow} {receipt : ReceiptRow}
    (h : Evaluated r a db v row' receipt v') (actions : ∀ x ∈ v.actions, ∀ id, db.action id = none → x.id ≠ id)
    (present : v.row = some row) (pending : row.case.state = .decisionPending)
    (moved : row.Moved (stateFor a.decision.result) row') (key : receipt.key = r.case.key)
    (result : receipt.policyResult = a.decision.result)
    (ordinary : a.decision.result = .proceed →
      a.decision.selectedAction.actionType.actionClass ∉ alwaysAllowedClasses ∧ row.Unpaid db)
    (fresh : excluded .reusedKey → a.decision.result = .proceed → db.action (a.identity r) = none) :
    Change excluded db r.case.key v v' := by
  cases h with
  | settled reviews refused settles =>
    exact .decided row row' _ receipt reviews present pending moved settles key (by rw [result]; exact refused)
  | authorized action version deadline proceeds identity status scheduled new =>
    rw [proceeds] at moved
    refine .authorized row row' receipt action version deadline present pending moved key (by rw [identity]; rfl) status
      scheduled ?_ (fun x hx => actions x hx _ new) (.inl (ordinary proceeds).2)
    rw [identity]
    exact (ordinary proceeds).1
  | reauthorized proceeds stored =>
    rw [proceeds] at moved
    exact .reauthorized row row' receipt (fun ex => stored (fresh ex proceeds)) present pending moved key
      (.inl (ordinary proceeds).2)

theorem evaluateCase_step {res : RecoveryServiceResult} (tracked : Tracks r.case db) (sound : r.diagnosis.Sound)
    (avoids : EvaluationAvoids rt excluded inputs r db) (h : (evaluateCase rt inputs r).run db = .ok (res, db')) :
    Local r.case.key db db' ∧ Step excluded db db' := by
  obtain ⟨a, d, assess, assessed, row, row', receipt, ended⟩ := evaluateCase_effect tracked h
  refine ⟨ended.isLocal, .ofLocal ended.isLocal ?_⟩
  refine ended.change.change (fun x hx id absent same => ?_) ended.present ended.pending ended.moved ended.receiptKey
    ended.receiptResult (fun proceeds => ⟨assessed.class_ordinary sound proceeds, ?_⟩)
    (fun ex proceeds => avoids ex a d assess proceeds)
  · exact Table.lookup_none.mp absent x (Table.mem_select.mp hx).1 same
  · unfold CaseRow.Unpaid
    rw [facts_of_anchor ended.anchor]
    exact (assessed.ordinary proceeds).2.1

/-- A disputed payment is never authorized. -/
theorem evaluateCase_disputed {res : RecoveryServiceResult} (tracked : Tracks r.case db)
    (disputed : r.diagnosis.code = paymentDisputed) (h : (evaluateCase rt inputs r).run db = .ok (res, db')) :
    Local r.case.key db db' ∧ ∃ row row' receipt, (view r.case.key db).row = some row ∧
      row.case.state = .decisionPending ∧ row.Moved .stopped row' ∧ receipt.key = r.case.key ∧
      receipt.policyResult = .stop ∧ view r.case.key db' = { view r.case.key db with
        row := some row', receipts := (view r.case.key db).receipts ++ [receipt] } := by
  obtain ⟨a, d, assess, assessed, row, row', receipt, ended⟩ := evaluateCase_effect tracked h
  obtain ⟨e, decided, -, -, stops⟩ := assessed.decided
  have result := evaluatePolicy_disputed decided (stops disputed)
  have moved := ended.moved
  have receiptResult := ended.receiptResult
  rw [result] at moved receiptResult
  refine ⟨ended.isLocal, row, row', receipt, ended.present, ended.pending, moved, ended.receiptKey, receiptResult, ?_⟩
  have change := ended.change
  generalize view r.case.key db' = v' at change
  cases change with
  | settled reviews refused settles =>
    rcases settles with ⟨-, none_opened⟩ | ⟨escalated, -⟩
    · rw [none_opened, List.append_nil]
    · rw [result] at escalated
      cases escalated
  | authorized action version deadline proceeds => exact absurd (result.symm.trans proceeds) (by decide)
  | reauthorized proceeds => exact absurd (result.symm.trans proceeds) (by decide)

theorem advance_effect {case pending : RecoveryCase} {d : Diagnosis} {event : NormalizedEvent}
    {policy : MerchantPolicySnapshot} {t : Instant} (tracked : Tracks case db)
    (h : (advanceToDecisionPending case d event policy t).run db = .ok (pending, db')) :
    (case.state ∈ evaluableStates ∧ pending.state = .decisionPending ∧ Passed case pending db db') ∨
      (case.state ∉ evaluableStates ∧ pending = case ∧ db = db') := by
  unfold advanceToDecisionPending at h
  dsimp only at h
  rw [Tx.ite_bind] at h
  obtain ⟨started, d1, start, h⟩ := Tx.bind_ok h
  by_cases detected : case.state = .detected
  · rw [if_pos detected] at start
    have first := recoveryTransition_effect start
    have diagnosing : started.state = .diagnosing := first.state
    simp only [diagnosing] at h
    have second := recoveryTransition_effect h
    exact .inl ⟨by simp [evaluableStates, detected], second.state,
      (first.passed tracked).trans (second.passed (first.tracks tracked))⟩
  · rw [if_neg detected] at start
    obtain ⟨rfl, rfl⟩ := Tx.pure_ok start
    cases state : case.state with
    | diagnosing =>
      simp only [state] at h
      have moved := recoveryTransition_effect h
      exact .inl ⟨by simp [evaluableStates], moved.state, moved.passed tracked⟩
    | deferred =>
      simp only [state] at h
      have moved := recoveryTransition_effect h
      exact .inl ⟨by simp [evaluableStates], moved.state, moved.passed tracked⟩
    | decisionPending =>
      simp only [state] at h
      obtain ⟨rfl, rfl⟩ := Tx.pure_ok h
      have tracked' : Tracks (case.diagnosed d) db := tracked
      have stays := Passed.refl tracked'
      exact .inl ⟨by simp [evaluableStates], state, rfl, tracked', stays.isLocal, rfl, stays.effect⟩
    | detected => exact absurd state detected
    | _ =>
      simp only [state] at h
      obtain ⟨rfl, rfl⟩ := Tx.pure_ok h
      exact .inr ⟨by simp [evaluableStates], rfl, rfl⟩

/-- Bringing a case to DECISION_PENDING is a step. -/
theorem Passed.prepared {case pending : RecoveryCase} (h : Passed case pending db db')
    (target : pending.state = .decisionPending) (state : case.state ∈ evaluableStates)
    (ready : case.state ≠ .decisionPending ∨ db = db') : Step excluded db db' := by
  obtain ⟨row, row', present, same, moved, seen⟩ := h.effect
  rcases ready with unready | rfl
  · refine .ofLocal h.isLocal ?_
    rw [seen]
    rw [target] at moved
    refine .prepared row row' .decisionPending present ?_ (by simp) moved
    rw [same]
    revert state unready
    cases case.state <;> simp [evaluableStates]
  · exact .ofUnseen (.refl _)

section routing

variable {case : RecoveryCase} {d : Diagnosis} {event : NormalizedEvent} {policy : MerchantPolicySnapshot} {t : Instant}
  {routed : Routed} {middle : Database} {res : RecoveryServiceResult}

/-- What routing hands to evaluation. -/
structure Routed.Requests (case : RecoveryCase) (d : Diagnosis) (db middle : Database) (request : EvaluationRequest) :
    Prop where
  passed : Passed case request.case db middle
  pending : request.case.state = .decisionPending
  diagnosis : request.diagnosis = d

theorem proceedToEvaluation_effect (tracked : Tracks case db)
    (h : (proceedToEvaluation case d event policy t).run db = .ok (routed, middle)) :
    (case.state ∈ evaluableStates ∧ (case.state ≠ .decisionPending ∨ db = middle) ∧
      ∃ request, routed = .evaluate request ∧ Routed.Requests case d db middle request) ∨
    (case.state ∉ evaluableStates ∧ db = middle ∧ ∃ result, routed = .done result) := by
  obtain ⟨pending, d1, advance, h⟩ := Tx.bind_ok h
  rcases advance_effect tracked advance with ⟨evaluable, target, passed⟩ | ⟨idle, rfl, rfl⟩
  · rw [if_neg (by simp [target])] at h
    obtain ⟨rfl, rfl⟩ := Tx.pure_ok h
    refine .inl ⟨evaluable, ?_, _, rfl, passed, target, rfl⟩
    by_cases ready : case.state = .decisionPending
    · right
      simp only [advanceToDecisionPending, ready, reduceCtorEq, if_false] at advance
      obtain ⟨_, _, skipped, advance⟩ := Tx.bind_ok advance
      obtain ⟨rfl, rfl⟩ := Tx.pure_ok skipped
      simp only [ready] at advance
      exact (Tx.pure_ok advance).2
    · exact .inl ready
  · have stays : pending.state ≠ .decisionPending := fun e => idle (by simp [evaluableStates, e])
    rw [if_pos stays] at h
    obtain ⟨rfl, rfl⟩ := Tx.pure_ok h
    exact .inr ⟨idle, rfl, _, rfl⟩

theorem proceed_calm (tracked : Tracks case db) (sound : d.Sound)
    (avoids : routed.Avoids rt excluded inputs middle)
    (h : (proceedToEvaluation case d event policy t).run db = .ok (routed, middle))
    (finish : (finishRouting rt inputs routed).run middle = .ok (res, db')) : Steps excluded db db' := by
  rcases proceedToEvaluation_effect tracked h with ⟨evaluable, ready, request, rfl, requests⟩ | ⟨-, rfl, result, rfl⟩
  · have sound' : request.diagnosis.Sound := by rw [requests.diagnosis]; exact sound
    have evaluated := evaluateCase_step requests.passed.tracks sound' avoids finish
    exact (Steps.single (requests.passed.prepared requests.pending evaluable ready)).trans (.single evaluated.2)
  · obtain ⟨-, rfl⟩ := Tx.pure_ok finish
    exact .refl _

theorem proceed_disputed (tracked : Tracks case db) (disputed : d.code = paymentDisputed)
    (h : (proceedToEvaluation case d event policy t).run db = .ok (routed, middle))
    (finish : (finishRouting rt inputs routed).run middle = .ok (res, db')) :
    (case.state ∉ evaluableStates ∧ db = db') ∨ (case.state ∈ evaluableStates ∧ Local case.key db db' ∧
      ∃ row row' receipt, (view case.key db).row = some row ∧ row.Moved .stopped row' ∧ receipt.key = case.key ∧
        receipt.policyResult = .stop ∧ view case.key db' = { view case.key db with
          row := some row', receipts := (view case.key db).receipts ++ [receipt] }) := by
  rcases proceedToEvaluation_effect tracked h with ⟨evaluable, -, request, rfl, requests⟩ | ⟨idle, rfl, result, rfl⟩
  · have code : request.diagnosis.code = paymentDisputed := by rw [requests.diagnosis]; exact disputed
    obtain ⟨isLocal, row1, row', receipt, present, -, moved, key, refused, seen⟩ :=
      evaluateCase_disputed requests.passed.tracks code finish
    obtain ⟨row, row1', here, -, moved', seen'⟩ := requests.passed.effect
    have same := requests.passed.key
    rw [same] at present key seen isLocal
    rw [seen'] at present seen
    cases present
    exact .inr ⟨evaluable, requests.passed.isLocal.trans isLocal, row, row', receipt, here, moved'.trans moved, key,
      refused, seen⟩
  · obtain ⟨-, rfl⟩ := Tx.pure_ok finish
    exact .inl ⟨idle, rfl⟩

theorem newCase_opened {caseId : Identifier} {identity : CaseIdentity} {u : Unit}
    (governed : Governed event.merchantId db)
    (h : (createCase (newCase caseId identity event t)).run db = .ok (u, middle)) : Step excluded db middle := by
  obtain ⟨admitted, isLocal, seen⟩ := createCase_effect h
  refine .ofLocal isLocal ?_
  rw [seen]
  exact .opened _ admitted.new rfl rfl governed admitted.customer

theorem linked_step {link : CaseEventRow} {k : CaseKey} {found : EvidenceLinkResult} (here : link.key = some k)
    (known : link.Known db) (heard : link.Disputes db → ¬ excluded .unheardDispute)
    (h : (linkEvidence link).run db = .ok (found, db')) : Steps excluded db db' := by
  rcases linkEvidence_effect here h with ⟨-, rfl⟩ | ⟨-, -, isLocal, seen⟩
  · exact .refl _
  · refine .single (.ofLocal isLocal ?_)
    rw [seen]
    exact .linked link here known heard

theorem calm_link {link : CaseEventRow} (known : db.event link.merchantId link.normalizedEventId = some event)
    (diagnosed : diagnoseEvent event = some d) (calm : d.code ≠ paymentDisputed) : ¬ link.Disputes db := by
  rintro ⟨-, e, d', known', diagnosed', code⟩
  rw [known] at known'
  cases known'
  rw [diagnosed] at diagnosed'
  cases diagnosed'
  exact calm code

theorem openCase_steps {caseId : Identifier} {identity : CaseIdentity}
    (known : db.event event.merchantId event.eventId = some event) (diagnosed : diagnoseEvent event = some d)
    (governed : Governed event.merchantId db)
    (avoids : routed.Avoids rt excluded inputs middle)
    (h : (openCase caseId identity d event policy t).run db = .ok (routed, middle))
    (finish : (finishRouting rt inputs routed).run middle = .ok (res, db')) : Steps excluded db db' := by
  obtain ⟨_, d1, created, h⟩ := Tx.bind_ok h
  have opening : Step excluded db d1 := newCase_opened governed created
  obtain ⟨⟨absent, -, -, -⟩, openLocal, openSeen⟩ := createCase_effect created
  obtain ⟨link, d2, linking, h⟩ := Tx.bind_ok h
  rcases linkEvidence_effect (k := (newCase caseId identity event t).key) rfl linking with
    ⟨duplicate, rfl⟩ | ⟨rfl, -, linkLocal, linkSeen⟩
  · rw [if_neg (by simp [duplicate])] at h
    obtain ⟨rfl, rfl⟩ := Tx.pure_ok h
    obtain ⟨-, rfl⟩ := Tx.pure_ok finish
    exact .single opening
  · rw [if_pos rfl] at h
    rw [openSeen] at linkSeen
    have tracked : Tracks (newCase caseId identity event t).case d2 :=
      ⟨newCase caseId identity event t, by change (view (newCase caseId identity event t).key d2).row = _; rw [linkSeen],
        rfl, rfl⟩
    by_cases disputed : d.code = paymentDisputed
    · rcases proceed_disputed tracked disputed h finish with ⟨idle, -⟩ |
        ⟨-, isLocal, row, row', receipt, present, moved, key, refused, seen⟩
      · exact absurd (by decide : CaseState.detected ∈ evaluableStates) idle
      · have same : (newCase caseId identity event t).case.key = (newCase caseId identity event t).key := rfl
        rw [same] at present seen isLocal
        rw [linkSeen] at present seen
        cases present
        refine .single (.ofLocal ((openLocal.trans linkLocal).trans isLocal) ?_)
        rw [seen]
        exact .heard row' _ receipt rfl moved.key_eq (fun row here => by rw [show (view _ db).row = none from absent] at here; cases here) moved.state
          (fun _ => ⟨event, known⟩) governed key refused
    · have known' : d1.event event.merchantId event.eventId = some event := by rw [openLocal.kept.event, known]
      have link_ok : Steps excluded d1 d2 := linked_step (k := (newCase caseId identity event t).key) rfl
        (fun _ => ⟨event, known'⟩) (fun disputes => absurd disputes (calm_link known' diagnosed disputed)) linking
      exact ((Steps.single opening).trans link_ok).trans
        (proceed_calm tracked (diagnoseEvent_sound diagnosed) avoids h finish)

theorem updateCase_steps {row : CaseRow} (present : (view row.key db).row = some row)
    (merchant : row.case.merchantId = event.merchantId) (known : db.event event.merchantId event.eventId = some event)
    (diagnosed : diagnoseEvent event = some d) (governed : Governed event.merchantId db)
    (heard : excluded .unheardDispute → d.code = paymentDisputed → (orderForCase row event db).disposition = .applied →
      Table.lookup CaseEventRow.id (event.merchantId, event.eventId) db.caseEvents = none →
      row.case.state ∈ evaluableStates)
    (avoids : routed.Avoids rt excluded inputs middle)
    (h : (updateCase row d event policy t).run db = .ok (routed, middle))
    (finish : (finishRouting rt inputs routed).run middle = .ok (res, db')) : Steps excluded db db' := by
  obtain ⟨_, _, read, h⟩ := Tx.bind_ok h
  obtain ⟨rfl, rfl⟩ := Tx.read_ok read
  obtain ⟨link, d2, linking, h⟩ := Tx.bind_ok h
  have here : CaseEventRow.key ⟨event.merchantId, some row.case.caseId, event.eventId,
      (orderForCase row event db).disposition, (orderForCase row event db).reasonCode⟩ = some row.key := by
    simp [CaseEventRow.key, CaseRow.key, RecoveryCase.key, merchant]
  rcases linkEvidence_effect here linking with ⟨duplicate, rfl⟩ | ⟨rfl, new, linkLocal, linkSeen⟩
  · rw [if_pos (by simp [duplicate])] at h
    obtain ⟨rfl, rfl⟩ := Tx.pure_ok h
    obtain ⟨-, rfl⟩ := Tx.pure_ok finish
    exact .refl _
  · rw [if_neg (by simp)] at h
    by_cases applied : (orderForCase row event db).disposition = .applied
    · rw [if_neg (by simp [applied])] at h
      obtain ⟨case, _, required, h⟩ := Tx.bind_ok h
      obtain ⟨found, rfl⟩ := requireCase_effect required
      obtain ⟨key, tracked⟩ := tracks_caseOf found
      have same : row.case = case := by
        obtain ⟨row1, here1, rfl, -⟩ := caseOf_row found
        rw [linkSeen] at here1
        rw [present] at here1
        cases here1
        rfl
      subst same
      by_cases disputed : d.code = paymentDisputed
      · rcases proceed_disputed tracked disputed h finish with ⟨idle, rfl⟩ |
          ⟨evaluable, isLocal, row1, row', receipt, present1, moved, receiptKey, refused, seen⟩
        · exact linked_step here (fun _ => ⟨event, known⟩) (fun _ ex => idle (heard ex disputed applied new)) linking
        · rw [key] at present1 seen isLocal receiptKey
          rw [linkSeen] at present1 seen
          have same : row1 = row := Option.some.inj (present1.symm.trans present)
          subst same
          refine .single (.ofLocal (linkLocal.trans isLocal) ?_)
          rw [seen]
          refine .heard row' _ receipt here moved.key_eq (fun row1 here1 => ?_) moved.state (fun _ => ⟨event, known⟩) ?_
            receiptKey refused
          · rw [present] at here1
            cases here1
            exact ⟨evaluable, moved⟩
          · rw [show row1.key.merchantId = event.merchantId from merchant]
            exact governed
      · exact (linked_step here (fun _ => ⟨event, known⟩)
          (fun disputes => absurd disputes (calm_link known diagnosed disputed)) linking).trans
          (proceed_calm tracked (diagnoseEvent_sound diagnosed) avoids h finish)
    · rw [if_pos applied] at h
      obtain ⟨rfl, rfl⟩ := Tx.pure_ok h
      obtain ⟨-, rfl⟩ := Tx.pure_ok finish
      exact linked_step here (fun chosen => absurd chosen applied) (fun disputes => absurd disputes.1 applied) linking

theorem linkAuditOnly_steps (excluded : Kind → Prop) {row : Option CaseRow} {reason : String}
    (h : (linkAuditOnly event row reason).run db = .ok (routed, middle)) :
    Steps excluded db middle ∧ ∃ result, routed = .done result := by
  obtain ⟨link, d1, linking, h⟩ := Tx.bind_ok h
  obtain ⟨rfl, rfl⟩ := Tx.pure_ok h
  refine ⟨?_, _, rfl⟩
  cases row with
  | none => exact .single (.ofUnseen (linkEvidence_unseen rfl linking))
  | some row =>
    exact linked_step rfl (fun applied => by cases applied) (fun disputes => absurd disputes.1 (by simp)) linking

end routing

/-- The event would now be applied to the case as new evidence. -/
def NewEvidence (event : NormalizedEvent) (row : CaseRow) (db : Database) : Prop :=
  ¬ row.case.state.Terminal ∧ (orderForCase row event db).disposition = .applied
    ∧ Table.lookup CaseEventRow.id (event.merchantId, event.eventId) db.caseEvents = none

instance (event : NormalizedEvent) (row : CaseRow) (db : Database) : Decidable (NewEvidence event row db) :=
  inferInstanceAs (Decidable (_ ∧ _))

/-- A disputed payment's evidence reaches a case that decides on it at once. -/
def DisputeHeard (merchantId eventId : Identifier) (db : Database) : Prop :=
  ∀ event ∈ db.event merchantId eventId, ∀ identity ∈ selectCaseIdentity event, ∀ d ∈ diagnoseEvent event,
    d.code = paymentDisputed →
    ∀ row ∈ (findActiveCase merchantId identity db).or (findEpisodeCase merchantId identity db),
      NewEvidence event row db → row.case.state ∈ evaluableStates

instance (merchantId eventId : Identifier) (db : Database) : Decidable (DisputeHeard merchantId eventId db) := by
  unfold DisputeHeard
  infer_instance

def EventAvoids (rt : Runtime) (excluded : Kind → Prop) (inputs : EvaluationInputs)
    (merchantId eventId caseId : Identifier) (t : Instant) (db : Database) : Prop :=
  (excluded .unheardDispute → DisputeHeard merchantId eventId db) ∧
    (routeEvent merchantId eventId caseId t).After (Routed.Avoids rt excluded inputs) db

instance [DecidablePred excluded] (inputs : EvaluationInputs) (merchantId eventId caseId : Identifier) (t : Instant)
    (db : Database) : Decidable (EventAvoids rt excluded inputs merchantId eventId caseId t db) :=
  inferInstanceAs (Decidable (_ ∧ _))

/-- Rows are found by the keys they are stored under. -/
structure Keyed (db : Database) : Prop where
  cases : (db.cases.map CaseRow.key).Nodup
  reviews : (db.reviews.map HumanReviewRequest.id).Nodup

theorem Keyed.kept (h : Keyed db) (kept : Kept db db') : Keyed db' := ⟨kept.caseKeys h.cases, kept.reviewIds h.reviews⟩

theorem Keyed.row (h : Keyed db) {row : CaseRow} (member : row ∈ db.cases) : (view row.key db).row = some row :=
  Table.lookup_of_mem h.cases member

theorem selected_mem {m : Identifier} {identity : CaseIdentity} {row : CaseRow}
    (h : (findActiveCase m identity db).or (findEpisodeCase m identity db) = some row) :
    row ∈ db.cases ∧ row.case.merchantId = m := by
  rcases Option.or_eq_some_iff.mp h with active | ⟨-, episode⟩
  · have found := List.find?_some active
    simp only [decide_eq_true_eq] at found
    exact ⟨List.mem_of_find?_eq_some active, found.1⟩
  · unfold findEpisodeCase at episode
    split at episode
    · cases episode
    · have found := List.find?_some episode
      simp only [decide_eq_true_eq] at found
      exact ⟨List.mem_of_find?_eq_some episode, found.1⟩

theorem event_merchant {m id : Identifier} {event : NormalizedEvent} (h : db.event m id = some event) :
    event.merchantId = m ∧ event.eventId = id := by
  have key := Table.lookup_key h
  simp only [EventKey, Prod.mk.injEq] at key
  exact key

theorem processEvent_steps {m e caseId : Identifier} {t : Instant} {res : RecoveryServiceResult} (keyed : Keyed db)
    (avoids : EventAvoids rt excluded inputs m e caseId t db)
    (h : (processEvent rt inputs m e caseId t).run db = .ok (res, db')) : Steps excluded db db' := by
  obtain ⟨routed, middle, route, finish⟩ := Tx.bind_ok h
  have evaluation := avoids.2 routed middle route
  obtain ⟨_, _, locked, route⟩ := Tx.bind_ok route
  obtain ⟨merchant, rfl⟩ := lockMerchant_effect locked
  obtain ⟨_, _, read, route⟩ := Tx.bind_ok route
  obtain ⟨rfl, rfl⟩ := Tx.read_ok read
  obtain ⟨event, _, found, chosen⟩ := Tx.bind_ok route
  obtain ⟨known, rfl⟩ := Tx.found_ok found
  obtain ⟨rfl, rfl⟩ := event_merchant known
  split at chosen
  · obtain ⟨steps, result, rfl⟩ := linkAuditOnly_steps excluded chosen
    obtain ⟨-, rfl⟩ := Tx.pure_ok finish
    exact steps
  rename_i identity identified
  obtain ⟨row, _, read, chosen⟩ := Tx.bind_ok chosen
  obtain ⟨rfl, rfl⟩ := Tx.read_ok read
  split at chosen
  · obtain ⟨steps, result, rfl⟩ := linkAuditOnly_steps excluded chosen
    obtain ⟨-, rfl⟩ := Tx.pure_ok finish
    exact steps
  rename_i d diagnosed
  split at chosen
  · obtain ⟨policy, _, effective, chosen⟩ := Tx.bind_ok chosen
    obtain ⟨⟨p, member, owner, -⟩, rfl⟩ := effectivePolicy_effect effective
    exact openCase_steps known diagnosed ⟨merchant, p, member, owner⟩ evaluation chosen finish
  · rename_i row selected
    obtain ⟨member, owned⟩ := selected_mem selected
    split at chosen
    · obtain ⟨steps, result, rfl⟩ := linkAuditOnly_steps excluded chosen
      obtain ⟨-, rfl⟩ := Tx.pure_ok finish
      exact steps
    · rename_i live
      obtain ⟨policy, _, effective, chosen⟩ := Tx.bind_ok chosen
      obtain ⟨⟨p, stored, owner, -⟩, rfl⟩ := effectivePolicy_effect effective
      exact updateCase_steps (keyed.row member) owned known diagnosed ⟨merchant, p, stored, owner⟩
        (fun ex disputed applied new => avoids.1 ex event known identity identified d diagnosed disputed row selected
          ⟨live, applied, new⟩) evaluation chosen finish

section deferred

variable {t : Instant} {row : CaseRow} {request : EvaluationRequest}

theorem wakeDeferred_effect (excluded : Kind → Prop) (deferred : ∀ c, db.caseOf row.key = some c → c.state = .deferred)
    (h : (wakeDeferred t row).run db = .ok (request, db')) :
    request.case.key = row.key ∧ Tracks request.case db' ∧ request.diagnosis.Sound ∧ Local row.key db db' ∧
      Step excluded db db' := by
  obtain ⟨eventId, _, found, h⟩ := Tx.bind_ok h
  obtain ⟨-, rfl⟩ := Tx.found_ok found
  obtain ⟨_, _, read, h⟩ := Tx.bind_ok h
  obtain ⟨rfl, rfl⟩ := Tx.read_ok read
  obtain ⟨event, _, found, h⟩ := Tx.bind_ok h
  obtain ⟨-, rfl⟩ := Tx.found_ok found
  obtain ⟨d, _, found, h⟩ := Tx.bind_ok h
  obtain ⟨diagnosed, rfl⟩ := Tx.found_ok found
  obtain ⟨policy, _, effective, h⟩ := Tx.bind_ok h
  obtain ⟨-, rfl⟩ := effectivePolicy_effect effective
  obtain ⟨case, _, required, h⟩ := Tx.bind_ok h
  obtain ⟨stored, rfl⟩ := requireCase_effect required
  obtain ⟨pending, d1, moved, h⟩ := Tx.bind_ok h
  obtain ⟨rfl, rfl⟩ := Tx.pure_ok h
  obtain ⟨key, tracked⟩ := tracks_caseOf stored
  have transited := recoveryTransition_effect moved
  have passed := transited.passed tracked
  have waiting := deferred case stored
  have isLocal := passed.isLocal
  rw [key] at isLocal
  exact ⟨passed.key.trans key, passed.tracks, diagnoseEvent_sound diagnosed, isLocal,
    passed.prepared transited.state (by simp [evaluableStates, waiting]) (.inl (by simp [waiting]))⟩

/-- No evaluation of the pass authorizes a logical action that is in the outbox already. -/
def WakeAvoids (rt : Runtime) (excluded : Kind → Prop) (inputs : CaseKey → EvaluationInputs) (t : Instant)
    (row : CaseRow) (db : Database) : Prop :=
  (wakeDeferred t row).After (EvaluationAvoids rt excluded (inputs row.key)) db

instance [DecidablePred excluded] (inputs : CaseKey → EvaluationInputs) (t : Instant) (row : CaseRow) (db : Database) :
    Decidable (WakeAvoids rt excluded inputs t row db) := inferInstanceAs (Decidable (Tx.After _ _ _))

theorem reevaluateRow_step {inputs : CaseKey → EvaluationInputs} {res : RecoveryServiceResult}
    (deferred : ∀ c, db.caseOf row.key = some c → c.state = .deferred) (avoids : WakeAvoids rt excluded inputs t row db)
    (h : (reevaluateRow rt inputs t row).run db = .ok (res, db')) :
    Local row.key db db' ∧ Steps excluded db db' := by
  obtain ⟨request, d1, wake, evaluate⟩ := Tx.bind_ok h
  obtain ⟨key, tracked, sound, isLocal, step⟩ := wakeDeferred_effect excluded deferred wake
  obtain ⟨evaluated, step'⟩ := evaluateCase_step tracked sound (avoids request d1 wake) evaluate
  rw [key] at evaluated
  exact ⟨isLocal.trans evaluated, (Steps.single step).trans (.single step')⟩

/-- The rows of one pass are distinct cases, so each is still deferred at its turn. -/
theorem reevaluateRows_steps {inputs : CaseKey → EvaluationInputs} : ∀ {rows : List CaseRow} {db db' : Database}
    {res : List RecoveryServiceResult}, (rows.map CaseRow.key).Nodup →
    (∀ row ∈ rows, ∀ c, db.caseOf row.key = some c → c.state = .deferred) →
    Tx.Along (reevaluateRow rt inputs t) (WakeAvoids rt excluded inputs t) rows db →
    (Tx.each (reevaluateRow rt inputs t) rows).run db = .ok (res, db') → Steps excluded db db' := by
  intro rows
  induction rows with
  | nil =>
    intro db db' res _ _ _ h
    obtain ⟨-, rfl⟩ := Tx.pure_ok h
    exact .refl _
  | cons row rest ih =>
    intro db db' res nodup deferred along h
    rw [List.map_cons, List.nodup_cons] at nodup
    obtain ⟨c, d1, first, h⟩ := Tx.bind_ok h
    obtain ⟨cs, d2, second, h⟩ := Tx.bind_ok h
    obtain ⟨-, rfl⟩ := Tx.pure_ok h
    obtain ⟨isLocal, steps⟩ := reevaluateRow_step (deferred row List.mem_cons_self) along.1 first
    refine steps.trans (ih nodup.2 (fun other member x stored => ?_) (along.2 c d1 first) second)
    have ne : other.key ≠ row.key := fun e => nodup.1 (e ▸ List.mem_map_of_mem member)
    have same : d1.caseOf other.key = db.caseOf other.key :=
      congrArg (Option.map CaseRow.case) (congrArg CaseView.row (isLocal.elsewhere _ ne))
    rw [same] at stored
    exact deferred other (List.mem_cons_of_mem _ member) x stored

theorem dueDeferred_rows {limit : Nat} (keyed : Keyed db) :
    ((dueDeferredCases t limit db).map CaseRow.key).Nodup ∧
      ∀ row ∈ dueDeferredCases t limit db, ∀ c, db.caseOf row.key = some c → c.state = .deferred := by
  constructor
  · unfold dueDeferredCases
    refine List.Nodup.sublist ((List.take_sublist _ _).map _) ?_
    refine (((List.perm_insertionSort _ _).map _).nodup_iff).mpr ?_
    exact List.Nodup.sublist (List.filter_sublist.map _) keyed.cases
  · intro row member c stored
    have due := (List.mem_insertionSort _).mp (List.mem_of_mem_take member)
    obtain ⟨here, waiting⟩ := List.mem_filter.mp due
    simp only [decide_eq_true_eq] at waiting
    obtain ⟨row', present, rfl, -⟩ := caseOf_row stored
    rw [keyed.row here] at present
    cases present
    exact waiting.1

theorem reevaluateDeferred_steps {inputs : CaseKey → EvaluationInputs} {limit : Nat} {res : List RecoveryServiceResult}
    (keyed : Keyed db)
    (avoids : Tx.Along (reevaluateRow rt inputs t) (WakeAvoids rt excluded inputs t) (dueDeferredCases t limit db) db)
    (h : (reevaluateDeferred rt inputs t limit).run db = .ok (res, db')) : Steps excluded db db' := by
  obtain ⟨_, _, checked, h⟩ := Tx.bind_ok h
  obtain ⟨-, rfl⟩ := Tx.check_ok checked
  obtain ⟨_, _, read, h⟩ := Tx.bind_ok h
  obtain ⟨rfl, rfl⟩ := Tx.read_ok read
  exact reevaluateRows_steps (dueDeferred_rows keyed).1 (dueDeferred_rows keyed).2 avoids h

end deferred

section reviews

variable {case moved : RecoveryCase} {request decided : HumanReviewRequest} {decision : HumanReviewDecision} {t : Instant}
  {m : Identifier} {middle : Database}

theorem decideReview_ok (h : decideReview request decision = .ok decided) :
    request.status = .requested ∧ decided.reviewId = request.reviewId ∧ decided.status ≠ .requested := by
  unfold decideReview at h
  obtain ⟨_, requested, h⟩ := except_bind_ok h
  obtain ⟨_, -, h⟩ := except_bind_ok h
  obtain ⟨_, -, h⟩ := except_bind_ok h
  obtain ⟨_, -, h⟩ := except_bind_ok h
  cases h
  refine ⟨require_ok requested, rfl, ?_⟩
  cases decision.decision <;> simp [ReviewDecisionType.status]

theorem expireReview_ok (h : expireReview request t = .ok decided) :
    request.status = .requested ∧ decided.reviewId = request.reviewId ∧ decided.status ≠ .requested := by
  unfold expireReview at h
  obtain ⟨_, requested, h⟩ := except_bind_ok h
  obtain ⟨_, -, h⟩ := except_bind_ok h
  obtain ⟨_, -, h⟩ := except_bind_ok h
  cases h
  exact ⟨require_ok requested, rfl, by simp⟩

/-- Closing a case's review and moving the case with it is one step. -/
theorem reviewed_step (excluded : Kind → Prop) {u : Unit} {change : Transition} (keyed : Keyed db) (tracked : Tracks case db)
    (found : db.review case.merchantId decided.reviewId = some request) (owner : request.key = case.key)
    (target : change.toState ∈ [CaseState.decisionPending, .stopped]) (closed : decided.status ≠ .requested)
    (update : (updateReviewDecision case.merchantId decided).run db = .ok (u, middle))
    (transition : (recoveryTransition case change).run middle = .ok (moved, db')) :
    Tracks moved db' ∧ moved.key = case.key ∧ Step excluded db db' := by
  obtain ⟨-, review, here, requested, updateLocal, member, updateSeen⟩ :=
    updateReviewDecision_effect keyed.reviews update
  rw [found] at here
  cases here
  have transited := recoveryTransition_effect transition
  rw [owner] at updateLocal member updateSeen
  obtain ⟨row, present, anchor, state⟩ := tracked
  have tracked' : Tracks case middle := ⟨row, by rw [updateSeen]; exact present, anchor, state⟩
  refine ⟨transited.tracks tracked', transited.key, .ofLocal (updateLocal.trans transited.isLocal) ?_⟩
  obtain ⟨row1, row', present1, state1, rowMoved, seen⟩ := transited.effect
  rw [updateSeen] at present1 seen
  have same : row1 = row := Option.some.inj (present1.symm.trans present)
  subst same
  have id : request.id = (case.merchantId, decided.reviewId) := Table.lookup_key found
  rw [seen, ← id]
  exact .reviewed row1 row' change.toState request decided present (by rw [state1]; exact transited.legal) target rowMoved
    member requested closed

def ReviewAvoids (rt : Runtime) (excluded : Kind → Prop) (inputs : EvaluationInputs) (m : Identifier)
    (decision : HumanReviewDecision) (t : Instant) (db : Database) : Prop :=
  (routeReview m decision t).After (Routed.Avoids rt excluded inputs) db

instance [DecidablePred excluded] (inputs : EvaluationInputs) (m : Identifier) (decision : HumanReviewDecision)
    (t : Instant) (db : Database) : Decidable (ReviewAvoids rt excluded inputs m decision t db) :=
  inferInstanceAs (Decidable (Tx.After _ _ _))

theorem decideReviewRequest_steps {res : RecoveryServiceResult} (keyed : Keyed db)
    (avoids : ReviewAvoids rt excluded inputs m decision t db)
    (h : (decideReviewRequest rt inputs m decision t).run db = .ok (res, db')) : Steps excluded db db' := by
  obtain ⟨routed, middle, route, finish⟩ := Tx.bind_ok h
  have evaluation := avoids routed middle route
  obtain ⟨_, _, checked, route⟩ := Tx.bind_ok route
  obtain ⟨-, rfl⟩ := Tx.check_ok checked
  obtain ⟨_, _, locked, route⟩ := Tx.bind_ok route
  obtain ⟨-, rfl⟩ := lockMerchant_effect locked
  obtain ⟨_, _, read, route⟩ := Tx.bind_ok route
  obtain ⟨rfl, rfl⟩ := Tx.read_ok read
  obtain ⟨request, _, found, route⟩ := Tx.bind_ok route
  obtain ⟨stored, rfl⟩ := Tx.found_ok found
  obtain ⟨case, _, required, route⟩ := Tx.bind_ok route
  obtain ⟨here, rfl⟩ := requireCase_effect required
  obtain ⟨key, tracked⟩ := tracks_caseOf here
  obtain ⟨policy, _, effective, route⟩ := Tx.bind_ok route
  obtain ⟨-, rfl⟩ := effectivePolicy_effect effective
  have id : request.id = (m, decision.reviewId) := Table.lookup_key stored
  simp only [HumanReviewRequest.id, Prod.mk.injEq] at id
  have merchant : case.merchantId = m := congrArg CaseKey.merchantId key
  have owner : request.key = case.key := by rw [key, HumanReviewRequest.key, id.1]
  have known {decided : HumanReviewRequest} (same : decided.reviewId = request.reviewId) :
      db.review case.merchantId decided.reviewId = some request := by rw [merchant, same, id.2, stored]
  have stops {decided : HumanReviewRequest} {reason : String} (same : decided.reviewId = request.reviewId)
      (closed : decided.status ≠ .requested)
      (stop : (stopReviewed case reason decision policy t decided).run db = .ok (routed, middle)) :
      Steps excluded db db' := by
    obtain ⟨_, d1, update, stop⟩ := Tx.bind_ok stop
    obtain ⟨stopped, d2, transition, stop⟩ := Tx.bind_ok stop
    obtain ⟨rfl, rfl⟩ := Tx.pure_ok stop
    obtain ⟨-, rfl⟩ := Tx.pure_ok finish
    exact .single (reviewed_step excluded keyed tracked (known same) owner (by simp [reviewTransition]) closed update
      transition).2.2
  split at route
  · obtain ⟨decided, _, lifted, route⟩ := Tx.bind_ok route
    obtain ⟨expired, rfl⟩ := Tx.lift_ok lifted
    obtain ⟨-, same, closed⟩ := expireReview_ok expired
    exact stops same closed route
  · obtain ⟨decided, _, lifted, route⟩ := Tx.bind_ok route
    obtain ⟨settled, rfl⟩ := Tx.lift_ok lifted
    obtain ⟨-, same, closed⟩ := decideReview_ok settled
    split at route
    · exact stops same closed route
    · obtain ⟨_, d1, update, route⟩ := Tx.bind_ok route
      obtain ⟨_, _, read, route⟩ := Tx.bind_ok route
      obtain ⟨rfl, rfl⟩ := Tx.read_ok read
      obtain ⟨eventId, _, found, route⟩ := Tx.bind_ok route
      obtain ⟨-, rfl⟩ := Tx.found_ok found
      obtain ⟨_, _, read, route⟩ := Tx.bind_ok route
      obtain ⟨rfl, rfl⟩ := Tx.read_ok read
      obtain ⟨event, _, found, route⟩ := Tx.bind_ok route
      obtain ⟨-, rfl⟩ := Tx.found_ok found
      obtain ⟨pending, d2, transition, route⟩ := Tx.bind_ok route
      obtain ⟨rfl, rfl⟩ := Tx.pure_ok route
      obtain ⟨tracks, -, step⟩ := reviewed_step excluded keyed tracked (known same) owner
        (by simp [reviewTransition]) closed update transition
      have sound : ((diagnoseEvent event).getD (noActionDiagnosis case)).Sound := by
        cases diagnosed : diagnoseEvent event with
        | none => exact noActionDiagnosis_sound case
        | some d => exact diagnoseEvent_sound diagnosed
      exact (Steps.single step).trans (.single (evaluateCase_step tracks sound evaluation finish).2)

end reviews

end RevenueGuard
