import RevenueGuard.Domain.Decisions
import RevenueGuard.Protocol.Changes

/-
Execution as steps of the protocol: leases, the check before a provider call,
its result, lost calls, lookups and signed events.
-/
namespace RevenueGuard

variable {db db' : Database} {rt : Runtime} {excluded : Kind → Prop}

theorem claimDueActions_steps {tokens : ActionIdentity → String} {now : Instant} {leaseFor : Int} {limit : Nat}
    {claimed : List ClaimedAction} (h : (claimDueActions rt tokens now leaseFor limit).run db = .ok (claimed, db')) :
    Steps excluded db db' := by
  obtain ⟨_, _, checked, h⟩ := Tx.bind_ok h
  obtain ⟨-, rfl⟩ := Tx.check_ok checked
  obtain ⟨rows, _, read, h⟩ := Tx.bind_ok h
  obtain ⟨-, rfl⟩ := Tx.read_ok read
  refine Tx.Closed.each ⟨Steps.refl, Steps.trans⟩ (fun row => ?_) rows _ _ _ h
  intro d c e body
  obtain ⟨_, _, written, body⟩ := Tx.bind_ok body
  have written := Tx.write_ok written
  subst written
  obtain ⟨-, rfl⟩ := Tx.pure_ok body
  obtain ⟨isLocal, seen⟩ := updateAction_effect d row.id
    (ActionRow.lease (tokens row.id) now leaseFor) fun _ => rfl
  refine .single (.ofLocal isLocal ?_)
  rw [seen]
  exact .leased _ _ _ _

section observations

variable {action r : ActionRow} {status : ActionStatus} {source : EvidenceSource} {t : Instant}
  {reference reason : Option String} {authoritative : Bool} {amount : Nat} {verified : Option Instant} {u : Unit}

theorem storeObservation_ok {o : VerifiedOutcome} (h : (storeObservation o).run db = .ok (u, db')) :
    o.validate = .ok () ∧ (storeOutcome o).run db = .ok (u, db') := by
  obtain ⟨_, _, lifted, h⟩ := Tx.bind_ok h
  obtain ⟨valid, rfl⟩ := Tx.lift_ok lifted
  exact ⟨valid, h⟩

theorem observation_of (same : r.id = action.id) :
    (observation action status source t reference reason authoritative amount verified).Of r.key r :=
  ⟨(congrArg ActionIdentity.key same).symm, same.symm, same.symm, rfl, rfl⟩

theorem storeObservation_cases {o : VerifiedOutcome} (h : (storeObservation o).run db = .ok (u, db')) :
    db'.cases = db.cases := by
  obtain ⟨_, _, read, h⟩ := Tx.bind_ok (storeObservation_ok h).2
  obtain ⟨rfl, rfl⟩ := Tx.read_ok read
  split at h
  · rw [(Tx.pure_ok h).2]
  · obtain ⟨_, _, checked, h⟩ := Tx.bind_ok h
    obtain ⟨-, rfl⟩ := Tx.check_ok checked
    obtain ⟨_, _, read, h⟩ := Tx.bind_ok h
    obtain ⟨rfl, rfl⟩ := Tx.read_ok read
    obtain ⟨_, _, checked, h⟩ := Tx.bind_ok h
    obtain ⟨-, rfl⟩ := Tx.check_ok checked
    rw [Tx.write_ok h]

/-- An observation that recovers nothing is noted once, or was noted before. -/
theorem storeObservation_noted (same : r.id = action.id) (unsettled : status = .succeeded → authoritative = false ∧
      source ≠ .signedWebhook)
    (h : (storeObservation (observation action status source t reference reason authoritative)).run db = .ok (u, db')) :
    Local action.key db db' ∧ ∃ outcomes, Noted action.key r (view action.key db).outcomes outcomes ∧
      view action.key db' = { view action.key db with outcomes := outcomes } := by
  obtain ⟨-, stored⟩ := storeObservation_ok h
  have key : r.key = action.key := congrArg ActionIdentity.key same
  rcases storeOutcome_effect stored with ⟨-, rfl⟩ | ⟨-, -, isLocal, seen⟩
  · exact ⟨.refl _ _, _, .inl rfl, rfl⟩
  · refine ⟨isLocal, _, .inr ⟨_, key ▸ observation_of same, ⟨?_, rfl, ?_⟩, rfl⟩, seen⟩
    · by_cases succeeded : status = .succeeded
      · simp [creditsMoney, observation, (unsettled succeeded).1]
      · simp [creditsMoney, observation, succeeded]
    · rintro ⟨signed, succeeded⟩
      exact (unsettled succeeded).2 signed

end observations

section prepare

variable {action : ActionRow} {case : RecoveryCase} {t : Instant} {check : FinalPolicyCheck}

theorem executionContact_effect {contact : Nat × Bool} (h : (executionContact action case).run db = .ok (contact, db')) :
    db = db' := by
  unfold executionContact at h
  split at h
  · exact (Tx.pure_ok h).2
  · obtain ⟨_, _, snapshot, h⟩ := Tx.bind_ok h
    obtain ⟨-, -, rfl⟩ := customerContactSnapshot_effect snapshot
    exact (Tx.pure_ok h).2

/-- Attaching an incident to a case changes no contact fact. -/
theorem executionContact_attach {contact : Nat × Bool} {key : CaseKey} {code : Option Identifier}
    (h : (executionContact action case).run (attachIncidents key t code db) = .ok (contact, db')) :
    (executionContact action case).run db = .ok (contact, db) := by
  unfold executionContact at h ⊢
  split at h
  · obtain ⟨rfl, -⟩ := Tx.pure_ok h
    rfl
  · obtain ⟨snapshot, _, taken, h⟩ := Tx.bind_ok h
    obtain ⟨rfl, -⟩ := Tx.pure_ok h
    obtain ⟨known, rfl, -⟩ := customerContactSnapshot_effect taken
    rw [Tx.bind_of_ok (customerContactSnapshot_run (show db.knows _ _ = true from known)), contactSnapshot_attach]
    rfl

/-- The check before a provider call as it was made, every fact read from the store the call found. -/
structure FinalChecked (rt : Runtime) (action : ActionRow) (case : RecoveryCase) (t : Instant) (check : FinalPolicyCheck)
    (db : Database) (receipt : ReceiptRow) (selected : CandidateAction) (contact : Nat × Bool)
    (candidates : CandidateList) : Prop where
  stored : db.receipt action.merchantId action.action.decisionReceiptId = some receipt
  listed : receipt.candidateActions.find? (fun c => decide (c.actionType = action.actionType)) = some selected
  effective : (effectivePolicy action.merchantId t).run db = .ok (check.policy, db)
  contacted : (executionContact action case).run db = .ok (contact, db)
  built : candidates.items = [action.candidate selected, noActionCandidate action.id.targetId 2 (by decide)]
  decided : evaluatePolicy (rt.zoneInfo check.policy.timezone) check.policy
    (executionInput case t candidates contact (incidentsBearing action.key t case.diagnosis db)
      (authoritativeFactsForCase case db) (consentFacts action.merchantId case.customerId db)
      (receipt.humanReviewId.bind (db.review action.merchantId))) = .ok check.decision

theorem finalPolicyDecision_effect (h : (finalPolicyDecision rt action case t).run db = .ok (check, db')) :
    db' = attachIncidents action.key t case.diagnosis db ∧
      ∃ receipt selected contact candidates, FinalChecked rt action case t check db receipt selected contact candidates := by
  obtain ⟨_, _, read, h⟩ := Tx.bind_ok h
  obtain ⟨rfl, rfl⟩ := Tx.read_ok read
  obtain ⟨receipt, _, found, h⟩ := Tx.bind_ok h
  obtain ⟨stored, rfl⟩ := Tx.found_ok found
  obtain ⟨selected, _, found, h⟩ := Tx.bind_ok h
  obtain ⟨listed, rfl⟩ := Tx.found_ok found
  obtain ⟨policy, d1, effective, h⟩ := Tx.bind_ok h
  obtain ⟨-, same⟩ := effectivePolicy_effect effective
  subst same
  obtain ⟨_, _, read, h⟩ := Tx.bind_ok h
  obtain ⟨rfl, rfl⟩ := Tx.read_ok read
  obtain ⟨incidents, d2, attached, h⟩ := Tx.bind_ok h
  rw [activeIncidents_run] at attached
  cases attached
  obtain ⟨_, _, read, h⟩ := Tx.bind_ok h
  obtain ⟨rfl, rfl⟩ := Tx.read_ok read
  obtain ⟨contact, d3, contacted, h⟩ := Tx.bind_ok h
  have same := executionContact_effect contacted
  subst same
  obtain ⟨_, _, read, h⟩ := Tx.bind_ok h
  obtain ⟨rfl, rfl⟩ := Tx.read_ok read
  obtain ⟨candidates, _, lifted, h⟩ := Tx.bind_ok h
  obtain ⟨built, rfl⟩ := Tx.lift_ok lifted
  obtain ⟨decision, _, lifted, h⟩ := Tx.bind_ok h
  obtain ⟨decided, rfl⟩ := Tx.lift_ok lifted
  obtain ⟨rfl, rfl⟩ := Tx.pure_ok h
  exact ⟨rfl, receipt, selected, contact, candidates, stored, listed, effective, executionContact_attach contacted,
    candidateList_ok built, decided⟩

theorem executionTransition_passed {moved : RecoveryCase} {s : CaseState} {reason : String} {reference terminal : Option String}
    {wake : Option Instant} {version : Identifier} (tracked : Tracks case db)
    (h : (executionTransition case action s reason t reference terminal wake version).run db = .ok (moved, db')) :
    s ∈ allowedTransitions case.state ∧ moved.state = s ∧ Passed case moved db db' :=
  have transited := recoveryTransition_effect h
  ⟨transited.legal, transited.state, transited.passed tracked⟩

theorem Passed.settles {moved : RecoveryCase} (h : Passed case moved db db')
    (state : moved.state ∈ [CaseState.deferred, .decisionPending, .stopped]) :
    ∃ row row' reviews, (view case.key db).row = some row ∧ row.case.state = case.state ∧ row.Moved moved.state row' ∧
      Settles case.key moved.state reviews ∧ view case.key db' = { view case.key db with
        row := some row', reviews := (view case.key db).reviews ++ reviews } := by
  obtain ⟨row, row', present, same, rowMoved, seen⟩ := h.effect
  exact ⟨row, row', [], present, same, rowMoved, .inl ⟨state, rfl⟩, by rw [seen, List.append_nil]⟩

/-- A blocked case settles, with a review of its own exactly when it escalates. -/
theorem rerouteBlocked_effect {moved : RecoveryCase} (tracked : Tracks case db) (owner : action.key = case.key)
    (h : (rerouteBlocked action case check t).run db = .ok (moved, db')) :
    moved.anchor = case.anchor ∧ Local case.key db db' ∧ ∃ row row' reviews, (view case.key db).row = some row ∧
      row.case.state = case.state ∧ row.Moved moved.state row' ∧ Settles case.key moved.state reviews ∧
      view case.key db' = { view case.key db with
        row := some row', reviews := (view case.key db).reviews ++ reviews } := by
  unfold rerouteBlocked at h
  dsimp only at h
  split at h
  · obtain ⟨-, state, passed⟩ := executionTransition_passed tracked h
    exact ⟨passed.anchor, passed.isLocal, passed.settles (by simp [state])⟩
  · obtain ⟨pending, d1, first, h⟩ := Tx.bind_ok h
    obtain ⟨checking, d2, second, third⟩ := Tx.bind_ok h
    obtain ⟨-, -, one⟩ := executionTransition_passed tracked first
    obtain ⟨-, -, two⟩ := executionTransition_passed one.tracks second
    obtain ⟨-, state, three⟩ := executionTransition_passed two.tracks third
    have passed := (one.trans two).trans three
    exact ⟨passed.anchor, passed.isLocal, passed.settles (by simp [state])⟩
  · obtain ⟨pending, d1, first, h⟩ := Tx.bind_ok h
    obtain ⟨_, d2, reviewed, h⟩ := Tx.bind_ok h
    obtain ⟨checking, d3, second, third⟩ := Tx.bind_ok h
    obtain ⟨-, -, one⟩ := executionTransition_passed tracked first
    have reviewKey : (preExecutionReview action pending check t).key = pending.key := by
      have merchant : action.merchantId = pending.merchantId := congrArg CaseKey.merchantId (owner.trans one.key.symm)
      simp [preExecutionReview, HumanReviewRequest.key, RecoveryCase.key, merchant]
    obtain ⟨reviewLocal, reviewSeen⟩ := storeReview_effect reviewed
    rw [reviewKey] at reviewLocal reviewSeen
    obtain ⟨row1, here, anchor, pendingState⟩ := one.tracks
    have tracked2 : Tracks pending d2 := ⟨row1, by rw [reviewSeen]; exact here, anchor, pendingState⟩
    obtain ⟨-, -, two⟩ := executionTransition_passed tracked2 second
    obtain ⟨-, state, three⟩ := executionTransition_passed two.tracks third
    have rest := two.trans three
    have key := one.key
    refine ⟨rest.anchor.trans one.anchor, ?_, ?_⟩
    · have restLocal := rest.isLocal
      rw [key] at reviewLocal restLocal
      exact (one.isLocal.trans reviewLocal).trans restLocal
    · obtain ⟨row, row1', present, same, rowMoved, seen⟩ := one.effect
      obtain ⟨row1'', row', present', -, rowMoved', seen'⟩ := rest.effect
      rw [reviewSeen, key, seen] at present' seen'
      cases present'
      exact ⟨row, row', _, present, same, rowMoved.trans rowMoved',
        .inr ⟨state, _, rfl, rfl, reviewKey.trans key⟩, seen'⟩
  · obtain ⟨-, state, passed⟩ := executionTransition_passed tracked h
    exact ⟨passed.anchor, passed.isLocal, passed.settles (by simp [state])⟩

theorem startIfReady_passed {moved : RecoveryCase} {reason : String} {version : Identifier} (tracked : Tracks case db)
    (h : (if case.state = .ready then executionTransition case action .executing reason t none none none version
      else pure case).run db = .ok (moved, db')) : Passed case moved db db' := by
  split at h
  · exact (executionTransition_passed tracked h).2.2
  · obtain ⟨rfl, rfl⟩ := Tx.pure_ok h
    exact .refl tracked

theorem tracks_view (tracked : Tracks case db) (same : (view case.key db').row = (view case.key db).row) :
    Tracks case db' := by
  obtain ⟨row, present, anchor, state⟩ := tracked
  exact ⟨row, same.trans present, anchor, state⟩

/-- The cancelling branch, whatever the lease and the open attempts of the action are. -/
theorem blockExecution_effect {d : ExecutionDisposition} (tracked : Tracks case db) (owner : action.key = case.key)
    (h : (blockExecution action case check t).run db = .ok (d, db')) :
    action.status = .pending ∧ Local case.key db db' ∧ ∃ row row' s reviews, (view case.key db).row = some row ∧
      row.case.state = case.state ∧ row.Moved s row' ∧ Settles case.key s reviews ∧
      view case.key db' = { view case.key db with
        row := some row', reviews := (view case.key db).reviews ++ reviews
        actions := Table.update ActionRow.id action.id (ActionRow.cancel t (blockCode check.decision))
          (view case.key db).actions } := by
  unfold blockExecution at h
  obtain ⟨_, d1, cancelled, h⟩ := Tx.bind_ok h
  dsimp only at h
  rw [Tx.ite_bind] at h
  obtain ⟨started, d2, start, h⟩ := Tx.bind_ok h
  obtain ⟨verifying, d3, verify, h⟩ := Tx.bind_ok h
  obtain ⟨settled, d4, reroute, h⟩ := Tx.bind_ok h
  obtain ⟨-, rfl⟩ := Tx.pure_ok h
  obtain ⟨pending, rfl⟩ := cancelBeforeExecution_effect cancelled
  obtain ⟨cancelLocal, cancelSeen⟩ := updateAction_effect db action.id
    (ActionRow.cancel t (blockCode check.decision)) fun _ => rfl
  rw [show action.id.key = case.key from owner] at cancelLocal cancelSeen
  have one := startIfReady_passed (tracks_view tracked (by rw [cancelSeen])) start
  obtain ⟨-, -, two⟩ := executionTransition_passed one.tracks verify
  have begun := one.trans two
  obtain ⟨-, settledLocal, row1, row', reviews, present1, -, moved1, settles, seen1⟩ :=
    rerouteBlocked_effect begun.tracks (owner.trans begun.key.symm) reroute
  obtain ⟨row, row1', present, state, moved, seen⟩ := begun.effect
  rw [begun.key] at settledLocal present1 settles seen1
  rw [seen, cancelSeen] at present1 seen1
  rw [cancelSeen] at present
  cases present1
  exact ⟨pending, (cancelLocal.trans begun.isLocal).trans settledLocal, row, row', _, reviews, present, state,
    moved.trans moved1, settles, seen1⟩

theorem startExecution_effect {u : Unit} (tracked : Tracks case db) (state : case.state = .ready ∨ case.state = .executing)
    (h : (startExecution rt action case t).run db = .ok (u, db')) :
    Local case.key db db' ∧ ∃ row row', (view case.key db).row = some row ∧ row.case.state = case.state ∧
      row.Moved .executing row' ∧ view case.key db' = { view case.key db with row := some row' } := by
  obtain ⟨counted, d1, counting, h⟩ := Tx.bind_ok h
  obtain ⟨row, present, anchor, same⟩ := tracked
  obtain ⟨countedAnchor, countedState, countLocal, row1, countMoved, countSeen⟩ :=
    recordExecutionAttemptCounters_effect present counting
  have key : counted.key = case.key := key_of_anchor countedAnchor
  have present1 : (view counted.key d1).row = some row1 := by rw [key, countSeen]
  split at h
  · obtain ⟨started, d2, start, h⟩ := Tx.bind_ok h
    obtain ⟨-, rfl⟩ := Tx.pure_ok h
    have tracked1 : Tracks counted d1 := ⟨row1, present1, by rw [countMoved.anchor, anchor, countedAnchor],
      by rw [countMoved.state, same, countedState]⟩
    obtain ⟨-, startedState, passed⟩ := executionTransition_passed tracked1 start
    obtain ⟨row1', row', present2, -, moved, seen⟩ := passed.effect
    have startLocal := passed.isLocal
    rw [key] at present2 seen startLocal
    rw [countSeen] at present2 seen
    cases present2
    rw [startedState] at moved
    exact ⟨countLocal.trans startLocal, row, row', present, same, countMoved.trans moved, seen⟩
  · rename_i unready
    rw [countedState] at unready
    have executing : row.case.state = .executing := same.trans (state.resolve_left unready)
    rw [executing] at countMoved
    split at h
    · obtain ⟨-, rfl⟩ := Tx.pure_ok h
      exact ⟨countLocal, row, row1, present, same, countMoved, countSeen⟩
    · obtain ⟨stampLocal, row', stamped, seen⟩ := stampAttached_effect present1 h
      rw [key] at stampLocal seen
      rw [countMoved.state] at stamped
      rw [countSeen] at seen
      exact ⟨countLocal.trans stampLocal, row, row', present, same, countMoved.trans stamped, seen⟩

theorem beginExecution_effect {token : String} {p : Prepared} (tracked : Tracks case db) (owner : action.key = case.key)
    (state : case.state = .ready ∨ case.state = .executing)
    (h : (beginExecution rt action case token t).run db = .ok (p, db')) :
    Local case.key db db' ∧ ∃ row row' r, (view case.key db).row = some row ∧ row.case.state = case.state ∧
      row.Moved .executing row' ∧ db.action action.id = some r ∧ r.status = .pending ∧ r.leaseToken = some token ∧
      (∃ e ∈ r.leaseExpiresAt, t < e) ∧ r.openAttempts = [] ∧ r.attemptCount < r.maxAttempts ∧
      view case.key db' = { view case.key db with
        row := some row'
        actions := Table.update ActionRow.id action.id (ActionRow.begin token t) (view case.key db).actions } := by
  obtain ⟨begun, d1, beginning, h⟩ := Tx.bind_ok h
  obtain ⟨r, stored, pending, lease, expires, live, idle, below, -, rfl⟩ := beginAttempt_effect beginning
  obtain ⟨_, d2, starting, h⟩ := Tx.bind_ok h
  obtain ⟨_, _, checked, h⟩ := Tx.bind_ok h
  obtain ⟨-, rfl⟩ := Tx.lift_ok checked
  obtain ⟨-, rfl⟩ := Tx.pure_ok h
  obtain ⟨beginLocal, beginSeen⟩ := updateAction_effect db action.id (ActionRow.begin token t) fun _ => rfl
  rw [show action.id.key = case.key from owner] at beginLocal beginSeen
  obtain ⟨startLocal, row, row', present, same, moved, seen⟩ :=
    startExecution_effect (tracks_view tracked (by rw [beginSeen])) state starting
  rw [beginSeen] at present seen
  obtain ⟨e, expires⟩ := Option.isSome_iff_exists.mp expires
  exact ⟨beginLocal.trans startLocal, row, row', r, present, same, moved, stored, pending, lease, ⟨e, expires, live e expires⟩,
    idle, below, seen⟩

/-- A committed preparation: the check it made, and which branch it took. -/
structure Preparing (rt : Runtime) (actionId : ActionIdentity) (token : String) (t : Instant) (p : Prepared)
    (db db' : Database) (action : ActionRow) (case : RecoveryCase) (check : FinalPolicyCheck) : Prop where
  stored : db.action actionId = some action
  owned : db.caseOf action.key = some case
  state : case.state = .ready ∨ case.state = .executing
  checked : (finalPolicyDecision rt action case t).run db = .ok (check, attachIncidents action.key t case.diagnosis db)
  branch : (check.blocks action = true ∧ ∃ d, p = .disposition d ∧ (blockExecution action case check t).run
      (attachIncidents action.key t case.diagnosis db) = .ok (d, db')) ∨
    (check.blocks action = false ∧ (beginExecution rt action case token t).run
      (attachIncidents action.key t case.diagnosis db) = .ok (p, db'))

theorem prepareExecution_ok {actionId : ActionIdentity} {token : String} {p : Prepared}
    (h : (prepareExecution rt actionId token t).run db = .ok (p, db')) :
    ∃ action case check, Preparing rt actionId token t p db db' action case check := by
  obtain ⟨_, _, read, h⟩ := Tx.bind_ok h
  obtain ⟨rfl, rfl⟩ := Tx.read_ok read
  obtain ⟨action, _, found, h⟩ := Tx.bind_ok h
  obtain ⟨stored, rfl⟩ := Tx.found_ok found
  obtain ⟨case, d1, required, h⟩ := Tx.bind_ok h
  obtain ⟨here, same⟩ := requiredCase_effect required
  subst same
  obtain ⟨_, _, checked, h⟩ := Tx.bind_ok h
  obtain ⟨state, rfl⟩ := Tx.check_ok checked
  obtain ⟨check, d2, decided, h⟩ := Tx.bind_ok h
  obtain ⟨rfl, -⟩ := finalPolicyDecision_effect decided
  refine ⟨action, case, check, stored, here, state, decided, ?_⟩
  split at h
  · rename_i blocks
    obtain ⟨d, d3, block, h⟩ := Tx.bind_ok h
    obtain ⟨rfl, rfl⟩ := Tx.pure_ok h
    exact .inl ⟨blocks, d, rfl, block⟩
  · rename_i clear
    exact .inr ⟨by simpa using clear, h⟩

theorem blocks_false (h : check.blocks action = false) :
    check.decision.result = .proceed ∧ check.decision.selectedAction.actionType = action.actionType := by
  simpa [FinalPolicyCheck.blocks] using h

/-- No preparation cancels an action whose provider call is in flight. -/
def PrepareAvoids (rt : Runtime) (excluded : Kind → Prop) (actionId : ActionIdentity) (t : Instant) (db : Database) :
    Prop :=
  excluded .cancelInFlight → ∀ action ∈ db.action actionId, ∀ case ∈ db.caseOf action.key,
    (finalPolicyDecision rt action case t).After (fun check _ => check.blocks action = true → action.openAttempts = []) db

instance [DecidablePred excluded] (actionId : ActionIdentity) (t : Instant) (db : Database) :
    Decidable (PrepareAvoids rt excluded actionId t db) := inferInstanceAs (Decidable (_ → _))

theorem prepareExecution_step {actionId : ActionIdentity} {token : String} {p : Prepared}
    (avoids : PrepareAvoids rt excluded actionId t db)
    (h : (prepareExecution rt actionId token t).run db = .ok (p, db')) : Step excluded db db' := by
  obtain ⟨action, case, check, preparing⟩ := prepareExecution_ok h
  obtain ⟨id, member⟩ := action_mem_view preparing.stored
  obtain ⟨caseKey, tracked⟩ := tracks_caseOf preparing.owned
  have owner : action.key = case.key := caseKey.symm
  rw [show actionId.key = case.key by rw [← owner, ← id]; rfl] at member
  obtain ⟨row, present, anchor, same⟩ := tracked
  obtain ⟨attachLocal, row1, moved1, seen1⟩ := attachIncidents_effect present t case.diagnosis
  rw [← owner] at attachLocal seen1 present
  generalize attached : attachIncidents action.key t case.diagnosis db = d at *
  have tracked : Tracks case d :=
    ⟨row1, by rw [← owner, seen1], by rw [moved1.anchor, anchor], by rw [moved1.state, same]⟩
  rw [owner] at attachLocal seen1 present
  have branch := preparing.branch
  rw [attached] at branch
  have ready : row.case.state ∈ [CaseState.ready, .executing] := by
    rw [same]
    simpa using preparing.state
  rcases branch with ⟨blocks, x, -, block⟩ | ⟨clear, begins⟩
  · obtain ⟨pending, isLocal, row2, row', s, reviews, present2, -, moved, settles, seen⟩ :=
      blockExecution_effect tracked owner block
    rw [seen1] at present2 seen
    cases present2
    refine .ofLocal (attachLocal.trans isLocal) ?_
    rw [seen]
    exact .blocked row row' s action t _ reviews present ready (moved1.trans moved) settles member pending
      fun ex => avoids ex action preparing.stored case preparing.owned check _ preparing.checked blocks
  · obtain ⟨isLocal, row2, row', r, present2, -, moved, stored, pending, -, -, idle, below, seen⟩ :=
      beginExecution_effect tracked owner preparing.state begins
    rw [seen1] at present2 seen
    cases present2
    have same_action : d.action action.id = db.action action.id := by
      rw [action_of_view, action_of_view, show action.id.key = case.key from owner, seen1]
    rw [same_action, id, preparing.stored] at stored
    cases stored
    refine .ofLocal (attachLocal.trans isLocal) ?_
    rw [seen]
    refine .begun row row' action token t present ready (moved1.trans moved) member pending idle below ?_
    obtain ⟨-, receipt, selected, contact, candidates, final⟩ := finalPolicyDecision_effect preparing.checked
    have authorized := evaluatePolicy_proceed final.decided (blocks_false clear).1
    unfold CaseRow.Unpaid
    rw [facts_of_anchor anchor]
    exact authorized.open_.2.1

end prepare

section results

variable {action r : ActionRow} {case middle moved : RecoveryCase} {t : Instant} {d : Database}

/-- A case taken through transitions while an observation of `r` that recovers nothing is noted. -/
structure Observed (r : ActionRow) (case moved : RecoveryCase) (db db' : Database) : Prop where
  tracks : Tracks moved db'
  anchor : moved.anchor = case.anchor
  isLocal : Local case.key db db'
  effect : ∃ row row' outcomes, (view case.key db).row = some row ∧ row.case.state = case.state ∧
    row.Moved moved.state row' ∧ Noted case.key r (view case.key db).outcomes outcomes ∧
    view case.key db' = { view case.key db with row := some row', outcomes := outcomes }

theorem Observed.key (h : Observed r case moved db db') : moved.key = case.key := key_of_anchor h.anchor

theorem Passed.observed {status : ActionStatus} {source : EvidenceSource} {reference reason : Option String}
    {authoritative : Bool} {u : Unit} (h : Passed case moved db d) (owner : action.key = case.key) (same : r.id = action.id)
    (unsettled : status = .succeeded → authoritative = false ∧ source ≠ .signedWebhook)
    (store : (storeObservation (observation action status source t reference reason authoritative)).run d = .ok (u, db')) :
    Observed r case moved db db' := by
  obtain ⟨isLocal, outcomes, noted, seen⟩ := storeObservation_noted same unsettled store
  obtain ⟨row, row', present, state, rowMoved, before⟩ := h.effect
  rw [owner] at isLocal noted seen
  refine ⟨tracks_view h.tracks (by rw [h.key, seen]), h.anchor, h.isLocal.trans isLocal, row, row', outcomes, present,
    state, rowMoved, ?_, ?_⟩
  · rw [before] at noted
    exact noted
  · rw [seen, before]

theorem Observed.passed (h : Observed r case middle db d) (rest : Passed middle moved d db') :
    Observed r case moved db db' := by
  obtain ⟨row, row1, outcomes, present, state, rowMoved, noted, seen⟩ := h.effect
  obtain ⟨row1', row', present', -, rowMoved', seen'⟩ := rest.effect
  have restLocal := rest.isLocal
  rw [h.key] at present' seen' restLocal
  rw [seen] at present' seen'
  cases present'
  exact ⟨rest.tracks, rest.anchor.trans h.anchor, h.isLocal.trans restLocal, row, row', outcomes, present, state,
    rowMoved.trans rowMoved', noted, seen'⟩

/-- What follows a finished attempt that is not retried. -/
structure Concludes (r done : ActionRow) (case : RecoveryCase) (db db' : Database) : Prop where
  state : case.state ∈ [CaseState.executing, .unknown, .verifying]
  observed : ∃ moved, moved.state ∈ [CaseState.unknown, .verifying, .decisionPending] ∧
    (moved.state ≠ .decisionPending → resolvable done) ∧ Observed r case moved db db'

theorem verifying_from {s : CaseState} (h : .verifying ∈ allowedTransitions s) : s = .executing ∨ s = .unknown := by
  cases s <;> simp [allowedTransitions] at h ⊢

theorem unknown_from {s : CaseState} (h : .unknown ∈ allowedTransitions s) : s = .executing ∨ s = .verifying := by
  cases s <;> simp [allowedTransitions] at h ⊢

/-- Only a failed call is tried again. -/
theorem finish_status {token : String} {c : AttemptCompletion} {retry deadline : Instant} {r : ActionRow}
    (unfailed : c.outcomeStatus ≠ .failed) : (r.finish token c retry deadline).status = c.outcomeStatus := by
  unfold ActionRow.finish
  rw [if_neg fun again => unfailed again.1]
  rfl

theorem recordExecutionResult_step {actionId : ActionIdentity} {token : String} {result : ProviderExecutionResult}
    {out : ExecutionDisposition} (allowed : ¬ excluded .reported)
    (h : (recordExecutionResult rt actionId token result).run db = .ok (out, db')) : Step excluded db db' := by
  unfold recordExecutionResult at h
  dsimp only at h
  obtain ⟨_, _, read, h⟩ := Tx.bind_ok h
  obtain ⟨rfl, rfl⟩ := Tx.read_ok read
  obtain ⟨before, _, found, h⟩ := Tx.bind_ok h
  obtain ⟨-, rfl⟩ := Tx.found_ok found
  obtain ⟨done, d1, finish, h⟩ := Tx.bind_ok h
  obtain ⟨r, stored, inFlight, scheduled, rfl, rfl⟩ := finishAttempt_effect finish
  generalize hc : result.completion = c at *
  generalize hr : retryAt rt before.attemptCount result.observedAt = retry at *
  generalize hd : result.observedAt + rt.unknownTtl = deadline at *
  obtain ⟨id, member⟩ := action_mem_view stored
  have doneId : (r.finish token c retry deadline).id = actionId := (finish_id token c retry deadline r).trans id
  have owner : (r.finish token c retry deadline).key = actionId.key := congrArg ActionIdentity.key doneId
  obtain ⟨finishLocal, finishSeen⟩ := updateAction_effect db actionId
    (ActionRow.finish token c retry deadline) (finish_id token c retry deadline)
  obtain ⟨case, _, required, h⟩ := Tx.bind_ok h
  obtain ⟨here, rfl⟩ := requiredCase_effect required
  obtain ⟨caseKey, tracked⟩ := tracks_caseOf here
  rw [owner] at caseKey
  split at h
  · rename_i again
    obtain ⟨-, rfl⟩ := Tx.pure_ok h
    refine .ofLocal finishLocal ?_
    subst id
    rw [finishSeen]
    exact .retried r token c retry deadline allowed member inFlight again scheduled
  rename_i settled
  have outcome : c.outcomeStatus = result.status := by rw [← hc]; rfl
  have concludes : Concludes r (r.finish token c retry deadline) case (updateAction actionId (ActionRow.finish token c retry deadline) db) db' := by
    have same : r.id = (r.finish token c retry deadline).id := id.trans doneId.symm
    have mine : (r.finish token c retry deadline).key = case.key := owner.trans caseKey.symm
    split at h
    · rename_i ambiguous
      obtain ⟨unknown, d2, transition, h⟩ := Tx.bind_ok h
      obtain ⟨_, d3, store, h⟩ := Tx.bind_ok h
      obtain ⟨-, rfl⟩ := Tx.pure_ok h
      obtain ⟨edge, state, passed⟩ := executionTransition_passed tracked transition
      have status : c.outcomeStatus = .unknown := outcome.trans ambiguous
      refine ⟨?_, unknown, by simp [state], fun _ => .inr ((finish_status (by simp [status])).trans status),
        passed.observed mine same (by simp) store⟩
      rcases unknown_from edge with e | e <;> simp [e]
    split at h
    · rename_i answered
      obtain ⟨verifying, d2, transition, h⟩ := Tx.bind_ok h
      obtain ⟨_, d3, store, h⟩ := Tx.bind_ok h
      obtain ⟨-, rfl⟩ := Tx.pure_ok h
      obtain ⟨edge, state, passed⟩ := executionTransition_passed tracked transition
      have status : c.outcomeStatus = .succeeded := outcome.trans answered
      refine ⟨?_, verifying, by simp [state], fun _ => .inl ((finish_status (by simp [status])).trans status),
        passed.observed mine same (by simp) store⟩
      rcases verifying_from edge with e | e <;> simp [e]
    · obtain ⟨verifying, d2, transition, h⟩ := Tx.bind_ok h
      obtain ⟨_, d3, store, h⟩ := Tx.bind_ok h
      obtain ⟨pending, d4, transition', h⟩ := Tx.bind_ok h
      obtain ⟨-, rfl⟩ := Tx.pure_ok h
      obtain ⟨edge, state, passed⟩ := executionTransition_passed tracked transition
      have observed := passed.observed mine same (by simp) store
      obtain ⟨-, state', passed'⟩ := executionTransition_passed observed.tracks transition'
      refine ⟨?_, pending, by simp [state'], fun other => absurd state' other, observed.passed passed'⟩
      rcases verifying_from edge with e | e <;> simp [e]
  obtain ⟨state, moved, after, accepted, observed⟩ := concludes
  obtain ⟨row, row', outcomes, present, sameState, rowMoved, noted, seen⟩ := observed.effect
  have isLocal := observed.isLocal
  rw [caseKey] at present noted seen isLocal
  rw [finishSeen] at present noted seen
  refine .ofLocal (finishLocal.trans isLocal) ?_
  subst id
  rw [seen]
  exact .finished row row' moved.state r token c retry deadline outcomes allowed present (by rw [sameState]; exact state)
    after rowMoved member inFlight settled accepted noted

theorem markStaleCall_step {out : ExecutionDisposition} (allowed : ¬ excluded .lost)
    (h : (markStaleCall rt t action).run db = .ok (out, db')) : Step excluded db db' := by
  unfold markStaleCall at h
  obtain ⟨_, d1, mark, h⟩ := Tx.bind_ok h
  obtain ⟨r, stored, inFlight, rfl⟩ := markStaleInflightUnknown_effect mark
  obtain ⟨case, _, required, h⟩ := Tx.bind_ok h
  obtain ⟨here, rfl⟩ := requiredCase_effect required
  dsimp only at h
  rw [Tx.ite_bind] at h
  obtain ⟨unknown, d2, transition, h⟩ := Tx.bind_ok h
  obtain ⟨_, d3, store, h⟩ := Tx.bind_ok h
  obtain ⟨-, rfl⟩ := Tx.pure_ok h
  obtain ⟨id, member⟩ := action_mem_view stored
  obtain ⟨caseKey, tracked⟩ := tracks_caseOf here
  obtain ⟨lostLocal, lostSeen⟩ := updateAction_effect db action.id
    (ActionRow.lost t (t + rt.unknownTtl)) fun _ => rfl
  have moves : Passed case unknown (updateAction action.id (ActionRow.lost t (t + rt.unknownTtl)) db) d2 ∧
      unknown.state = if case.state = .executing then .unknown else case.state := by
    split at transition
    · rename_i executing
      obtain ⟨-, state, passed⟩ := executionTransition_passed tracked transition
      exact ⟨passed, by rw [if_pos executing, state]⟩
    · rename_i other
      obtain ⟨rfl, rfl⟩ := Tx.pure_ok transition
      exact ⟨.refl tracked, by rw [if_neg other]⟩
  have observed := moves.1.observed caseKey.symm id (by simp) store
  obtain ⟨row, row', outcomes, present, same, moved, noted, seen⟩ := observed.effect
  have isLocal := observed.isLocal
  rw [caseKey] at present noted seen isLocal
  rw [show action.key = action.id.key from rfl, lostSeen] at present noted seen
  rw [moves.2, ← same] at moved
  refine .ofLocal (lostLocal.trans isLocal) ?_
  rw [seen]
  rw [← id] at present member noted ⊢
  exact .lost row row' r t _ outcomes allowed present moved member inFlight noted

theorem markStaleCallsUnknown_steps {now : Instant} {limit : Nat} {out : List ExecutionDisposition}
    (allowed : ¬ excluded .lost) (h : (markStaleCallsUnknown rt now limit).run db = .ok (out, db')) :
    Steps excluded db db' := by
  obtain ⟨_, _, checked, h⟩ := Tx.bind_ok h
  obtain ⟨-, rfl⟩ := Tx.check_ok checked
  obtain ⟨rows, _, read, h⟩ := Tx.bind_ok h
  obtain ⟨-, rfl⟩ := Tx.read_ok read
  refine Tx.Closed.each ⟨Steps.refl, Steps.trans⟩ (fun row => ?_) rows _ _ _ h
  intro d c e body
  exact .single (markStaleCall_step allowed body)

end results

section lookups

variable {action : ActionRow} {case : RecoveryCase} {result : ProviderLookupResult} {t : Instant}

/-- The row of an action after a resolution, or without one. -/
structure Resolves (action after : ActionRow) (s : ActionStatus) (db db' : Database) : Prop where
  id : after.id = action.id
  parameters : after.action.parameters = action.action.parameters
  isLocal : Local action.key db db'
  outcomes : db'.outcomes = db.outcomes
  effect : ∃ actions, Resolved action.id s (view action.key db).actions actions ∧
    view action.key db' = { view action.key db with actions := actions }

theorem resolve_effect {after : ActionRow} {s : ActionStatus} {object code : Option String}
    (h : (setActionResolution action s t object code).run db = .ok (after, db')) : Resolves action after s db db' := by
  obtain ⟨rfl, rfl⟩ := setActionResolution_effect h
  obtain ⟨isLocal, seen⟩ := updateAction_effect db action.id
    (ActionRow.resolve s t object code) fun _ => rfl
  exact ⟨rfl, rfl, isLocal, rfl, _, .inr ⟨t, object, code, rfl⟩, seen⟩

theorem resolveIf_effect {c : Prop} [Decidable c] {after : ActionRow} {s : ActionStatus} {object code : Option String}
    (h : (if c then setActionResolution action s t object code else pure action).run db = .ok (after, db')) :
    Resolves action after s db db' := by
  split at h
  · exact resolve_effect h
  · obtain ⟨rfl, rfl⟩ := Tx.pure_ok h
    exact ⟨rfl, rfl, .refl _ _, rfl, _, .inl rfl, rfl⟩

theorem verifyIfUnknown_passed {moved : RecoveryCase} {reason : String} {reference : Option String} (tracked : Tracks case db)
    (state : case.state = .unknown ∨ case.state = .verifying)
    (h : (if case.state = .unknown then executionTransition case action .verifying reason t reference else pure case).run db
      = .ok (moved, db')) : Passed case moved db db' ∧ moved.state = .verifying := by
  split at h
  · obtain ⟨-, state', passed⟩ := executionTransition_passed tracked h
    exact ⟨passed, state'⟩
  · rename_i other
    obtain ⟨rfl, rfl⟩ := Tx.pure_ok h
    exact ⟨.refl tracked, state.resolve_left other⟩

/-- Crediting an action: an outcome is stored and the case recovered, unless one of the same id was stored before. -/
theorem credit_change {after : ActionRow} {verifying recovered : RecoveryCase} {d1 d2 d3 : Database} {o : VerifiedOutcome}
    {u : Unit} (member : action ∈ (view action.key db).actions) (owner : action.key = case.key)
    (state : case.state = .unknown ∨ case.state = .verifying) (resolves : Resolves action after .succeeded db d1)
    (passed : Passed case verifying d1 d2) (made : o.Of action.key action) (credits : creditsMoney o = true)
    (amount : o.recoveredAmountMinor = action.action.parameters.amountMinor)
    (currency : o.currency = action.action.parameters.currency)
    (allowed : db.outcome o.merchantId o.outcomeId ≠ none → o.SignedSuccess ∨ ¬ excluded .shadowedOutcome)
    (store : (storeObservation o).run d2 = .ok (u, d3))
    (recover : Passed verifying recovered d3 db') (target : recovered.state = .recovered) : Step excluded db db' := by
  obtain ⟨actions, resolved, resolvedSeen⟩ := resolves.effect
  obtain ⟨row, row1, present, rowState, moved, seen⟩ := passed.effect
  obtain ⟨row1', row', present', -, moved', seen'⟩ := recover.effect
  have recoverLocal := recover.isLocal
  rw [passed.key] at present' seen' recoverLocal
  rw [target] at moved'
  have resolveLocal := resolves.isLocal
  rw [owner] at resolvedSeen resolveLocal resolved
  rw [resolvedSeen] at present seen
  have stored : d2.outcome o.merchantId o.outcomeId = db.outcome o.merchantId o.outcomeId := by
    simp only [Database.outcome, passed.outcomes, resolves.outcomes]
  have before := resolveLocal.trans passed.isLocal
  rw [owner] at member made
  have start : row.case.state ∈ [CaseState.unknown, .verifying] := by
    rw [rowState]
    simpa using state
  rcases storeOutcome_effect (storeObservation_ok store).2 with ⟨⟨p, shadow⟩, rfl⟩ | ⟨new, -, isLocal, seen2⟩
  · rw [seen] at present' seen'
    cases present'
    refine .ofLocal (before.trans recoverLocal) ?_
    rw [seen']
    rw [stored] at shadow
    have found : p.outcomeId = o.outcomeId := congrArg Prod.snd (Table.lookup_key shadow)
    refine .shadowed row row' action actions p ?_ present start (moved.trans moved') member resolved
      (Table.lookup_mem shadow) (by rw [found]; exact made.idAction)
    unfold VerifiedOutcome.SignedSuccess
    rw [found]
    exact allowed (by simp [shadow])
  · rw [made.key] at isLocal seen2
    rw [seen2, seen] at present' seen'
    cases present'
    refine .ofLocal ((before.trans isLocal).trans recoverLocal) ?_
    rw [seen']
    refine .credited row row' action actions o present start (moved.trans moved') member resolved made credits amount
      currency fun p hp e => ?_
    obtain ⟨here, pKey⟩ := Table.mem_select.mp hp
    rw [stored] at new
    refine Table.lookup_none.mp new p here ?_
    have merchant : p.merchantId = o.merchantId := by
      rw [show p.merchantId = p.key.merchantId from rfl, pKey, ← made.key]
      rfl
    simp only [VerifiedOutcome.id, merchant, e]

/-- The id of the outcome a lookup of `action` stores. -/
def lookupOutcomeId (action : ActionRow) (result : ProviderLookupResult) : OutcomeId :=
  { merchantId := action.merchantId
    actionId := action.id
    evidenceSource := result.evidenceSource
    reference := orText (some result.evidenceReference)
      (result.evidenceSource.value ++ ":" ++ orText result.reasonCode result.status.value)
    status := result.status }

/-- A lookup that neither escalates at its deadline nor credits under an id that is
taken, nor refuses the last open action of its case without authority. -/
def LookupAvoids (excluded : Kind → Prop) (actionId : ActionIdentity) (result : ProviderLookupResult) (db : Database) :
    Prop :=
  ∀ action ∈ db.action actionId, ∀ case ∈ db.caseOf action.key, (case.state = .unknown ∨ case.state = .verifying) →
    (excluded .deadlineEscalation → ¬ action.Overdue result) ∧ (excluded .shadowedOutcome → result.credits = true →
      db.outcome action.merchantId (lookupOutcomeId action result) = none) ∧
    (excluded .unconfirmedFailure → ¬ action.Overdue result → result.status = .failed → result.isAuthoritative = false →
      OtherOpen action (view action.key db).actions)

instance [DecidablePred excluded] (actionId : ActionIdentity) (result : ProviderLookupResult) (db : Database) :
    Decidable (LookupAvoids excluded actionId result db) := by
  unfold LookupAvoids
  refine @Option.decidableForallMem _ _ (fun action => ?_) _
  refine @Option.decidableForallMem _ _ (fun case => ?_) _
  exact @instDecidableForall _ _ inferInstance inferInstance

theorem escalateUnresolved_effect {out : ExecutionDisposition} (tracked : Tracks case db) (owner : action.key = case.key)
    (h : (escalateUnresolved action case result).run db = .ok (out, db')) :
    Local case.key db db' ∧ ∃ row row', (view case.key db).row = some row ∧ row.case.state = case.state ∧
      row.Moved .escalated row' ∧ view case.key db' = { view case.key db with
        row := some row'
        actions := Table.update ActionRow.id action.id (ActionRow.deadLetter result.observedAt)
          (view case.key db).actions } := by
  obtain ⟨_, _, written, h⟩ := Tx.bind_ok h
  have written := Tx.write_ok written
  subst written
  obtain ⟨escalated, d1, transition, h⟩ := Tx.bind_ok h
  obtain ⟨-, rfl⟩ := Tx.pure_ok h
  obtain ⟨isLocal, seen⟩ := updateAction_effect db action.id
    (ActionRow.deadLetter result.observedAt) fun _ => rfl
  rw [show action.id.key = case.key from owner] at isLocal seen
  obtain ⟨-, state, passed⟩ := executionTransition_passed (tracks_view tracked (by rw [seen])) transition
  obtain ⟨row, row', present, same, moved, seen'⟩ := passed.effect
  rw [seen] at present seen'
  rw [state] at moved
  exact ⟨isLocal.trans passed.isLocal, row, row', present, same, moved, seen'⟩

theorem expireVerification_effect {expired : ActionRow × RecoveryCase} (tracked : Tracks case db)
    (owner : action.key = case.key) (h : (expireVerification action case result).run db = .ok (expired, db')) :
    action.status = .succeeded ∧ expired.1 = action.verificationExpired result.observedAt ∧
      expired.2.state = .unknown ∧ expired.2.anchor = case.anchor ∧ Tracks expired.2 db' ∧ Local case.key db db' ∧
      ∃ row row' outcomes, (view case.key db).row = some row ∧ row.case.state = case.state ∧
        row.Moved .unknown row' ∧ Noted case.key action (view case.key db).outcomes outcomes ∧
        view case.key db' = { view case.key db with
          row := some row', outcomes := outcomes
          actions := Table.update ActionRow.id action.id (ActionRow.verificationExpired result.observedAt)
            (view case.key db).actions } := by
  obtain ⟨marked, d1, mark, h⟩ := Tx.bind_ok h
  obtain ⟨accepted, rfl, rfl⟩ := markVerificationExpiredUnknown_effect mark
  obtain ⟨unknown, d2, transition, h⟩ := Tx.bind_ok h
  obtain ⟨_, d3, store, h⟩ := Tx.bind_ok h
  obtain ⟨rfl, rfl⟩ := Tx.pure_ok h
  obtain ⟨isLocal, seen⟩ := updateAction_effect db action.id
    (ActionRow.verificationExpired result.observedAt) fun _ => rfl
  rw [show action.id.key = case.key from owner] at isLocal seen
  obtain ⟨-, state, passed⟩ := executionTransition_passed (tracks_view tracked (by rw [seen])) transition
  have observed : Observed action case unknown _ d3 := passed.observed owner rfl (by simp) store
  obtain ⟨row, row', outcomes, present, same, moved, noted, seen'⟩ := observed.effect
  rw [seen] at present noted seen'
  rw [state] at moved
  exact ⟨accepted, rfl, state, observed.anchor, observed.tracks, isLocal.trans observed.isLocal, row, row', outcomes,
    present, same, moved, noted, seen'⟩

theorem credits_iff : result.credits = true ↔ result.status = .succeeded ∧ result.isAuthoritative = true := by
  simp [ProviderLookupResult.credits]

/-- A lookup that settles nothing yet, or an authoritative refusal. -/
theorem settleLookup_refused {after : ActionRow} {verifying settled : RecoveryCase} (tracked : Tracks verifying db)
    (state : verifying.state = .verifying) (refused : result.credits = false)
    (h : (settleLookup after verifying result).run db = .ok (settled, db')) :
    Passed verifying settled db db' ∧ settled.state ∈ [CaseState.verifying, .decisionPending] ∧
      (settled.state = .verifying → result.status = .failed → result.isAuthoritative = false) := by
  unfold settleLookup at h
  dsimp only at h
  rw [if_neg (by simp [refused])] at h
  split at h
  · obtain ⟨-, state', passed⟩ := executionTransition_passed tracked h
    exact ⟨passed, by simp [state'], fun stays => by rw [state'] at stays; cases stays⟩
  · rename_i unsettled
    obtain ⟨rfl, rfl⟩ := Tx.pure_ok h
    exact ⟨.refl tracked, by simp [state], fun _ failed => by simpa [failed] using unsettled⟩

theorem resolvedStatus_failed (open_ : result.status ≠ .unknown) (failed : result.resolvedStatus = .failed) :
    result.status = .failed := by
  revert open_ failed
  unfold ProviderLookupResult.resolvedStatus
  cases result.status <;> simp

theorem settleLookup_credited {after : ActionRow} {verifying settled : RecoveryCase} (tracked : Tracks verifying db)
    (credits : result.credits = true) (h : (settleLookup after verifying result).run db = .ok (settled, db')) :
    Passed verifying settled db db' ∧ settled.state = .recovered := by
  unfold settleLookup at h
  dsimp only at h
  rw [if_pos credits] at h
  obtain ⟨-, state, passed⟩ := executionTransition_passed tracked h
  exact ⟨passed, state⟩

theorem reconcile_step {out : ExecutionDisposition} (member : action ∈ (view action.key db).actions)
    (tracked : Tracks case db) (owner : action.key = case.key) (state : case.state = .unknown ∨ case.state = .verifying)
    (open_ : result.status ≠ .unknown) (allowed : excluded .shadowedOutcome → result.credits = true →
      db.outcome action.merchantId (lookupOutcomeId action result) = none)
    (confirmed : excluded .unconfirmedFailure → result.status = .failed → result.isAuthoritative = false →
      OtherOpen action (view action.key db).actions)
    (h : (reconcile action case result).run db = .ok (out, db')) : Step excluded db db' := by
  unfold reconcile at h
  dsimp only at h
  rw [Tx.ite_bind] at h
  obtain ⟨after, d1, resolve, h⟩ := Tx.bind_ok h
  have resolves := resolveIf_effect resolve
  rw [Tx.ite_bind] at h
  obtain ⟨verifying, d2, verify, h⟩ := Tx.bind_ok h
  obtain ⟨_, d3, store, h⟩ := Tx.bind_ok h
  obtain ⟨settled, d4, settle, h⟩ := Tx.bind_ok h
  obtain ⟨-, rfl⟩ := Tx.pure_ok h
  obtain ⟨actions, resolved, resolvedSeen⟩ := resolves.effect
  have owner' : after.key = case.key := (congrArg ActionIdentity.key resolves.id).trans owner
  have tracked1 : Tracks case d1 := tracks_view tracked (by rw [← owner, resolvedSeen])
  obtain ⟨passed, verified⟩ := verifyIfUnknown_passed tracked1 state verify
  cases credits : result.credits with
  | true =>
    obtain ⟨succeeded, authoritative⟩ := credits_iff.mp credits
    have tracked3 : Tracks verifying d3 := tracks_view passed.tracks (by
      simp only [view, Database.caseRow, storeObservation_cases store])
    obtain ⟨recover, recovered⟩ := settleLookup_credited tracked3 credits settle
    have status : result.resolvedStatus = .succeeded := by simp [ProviderLookupResult.resolvedStatus, succeeded]
    rw [status] at resolves
    refine credit_change member owner state resolves passed (observation_of resolves.id.symm) ?_ ?_ ?_ ?_ store recover
      recovered
    · simp [creditsMoney, observation, succeeded, authoritative]
    · simp [observation, credits, resolves.parameters]
    · simp [observation, resolves.parameters]
    · intro stored
      refine .inr fun ex => stored ?_
      have merchant : after.merchantId = action.merchantId := congrArg ActionIdentity.merchantId resolves.id
      have same : lookupOutcomeId after result = lookupOutcomeId action result := by
        simp only [lookupOutcomeId, merchant, resolves.id]
      change db.outcome after.merchantId (lookupOutcomeId after result) = none
      rw [merchant, same]
      exact allowed ex credits
  | false =>
    simp only [credits, Bool.false_eq_true, if_false] at store
    have observed := passed.observed (r := action) owner' resolves.id.symm (fun succeeded => ⟨?_, ?_⟩) store
    · obtain ⟨settles, target, unsettled⟩ := settleLookup_refused observed.tracks verified credits settle
      obtain ⟨row, row', outcomes, present, rowState, moved, noted, seen⟩ := (observed.passed settles).effect
      have isLocal := (observed.passed settles).isLocal
      have resolveLocal := resolves.isLocal
      rw [owner] at resolvedSeen resolved resolveLocal member confirmed
      rw [resolvedSeen] at present noted seen
      refine .ofLocal (resolveLocal.trans isLocal) ?_
      rw [seen]
      refine .reconciled row row' _ action _ actions outcomes present ?_ target moved member ?_ (fun stays failed ex => ?_)
        resolved noted
      · rw [rowState]
        simpa using state
      · unfold ProviderLookupResult.resolvedStatus
        split <;> simp
      · have failed := resolvedStatus_failed open_ failed
        exact confirmed ex failed (unsettled stays failed)
    · by_contra authoritative
      have credited := credits_iff.mpr ⟨succeeded, by simpa using authoritative⟩
      rw [credits] at credited
      cases credited
    · rcases result.source_ok with source | source <;> rw [source] <;> simp

theorem recordLookup_step {actionId : ActionIdentity} {out : ExecutionDisposition}
    (avoids : LookupAvoids excluded actionId result db) (h : (recordLookup actionId result).run db = .ok (out, db')) :
    Step excluded db db' := by
  unfold recordLookup at h
  obtain ⟨_, _, read, h⟩ := Tx.bind_ok h
  obtain ⟨rfl, rfl⟩ := Tx.read_ok read
  obtain ⟨action, _, found, h⟩ := Tx.bind_ok h
  obtain ⟨stored, rfl⟩ := Tx.found_ok found
  obtain ⟨case, d1, required, h⟩ := Tx.bind_ok h
  obtain ⟨here, same⟩ := requiredCase_effect required
  subst same
  obtain ⟨caseKey, tracked⟩ := tracks_caseOf here
  have owner : action.key = case.key := caseKey.symm
  obtain ⟨id, member⟩ := action_mem_view stored
  have member' : action ∈ (view action.key db).actions := by
    rw [show action.key = actionId.key from congrArg ActionIdentity.key id]
    exact member
  split at h
  · obtain ⟨-, rfl⟩ := Tx.pure_ok h
    exact .ofUnseen (.refl _)
  rename_i live
  have state : case.state = .unknown ∨ case.state = .verifying := not_not.mp live
  dsimp only at h
  rw [Tx.ite_bind] at h
  obtain ⟨current, d2, expire, h⟩ := Tx.bind_ok h
  unfold settleLookupDeadline at h
  split at expire
  · rename_i late
    obtain ⟨accepted, marked, unknown, anchor, tracked2, isLocal, row, row1, outcomes, present, rowState, moved, noted, seen⟩ :=
      expireVerification_effect tracked owner expire
    obtain ⟨current1, current2⟩ := current
    simp only at marked unknown anchor tracked2 h
    subst marked
    have key : current2.key = case.key := key_of_anchor anchor
    have overdue : (action.verificationExpired result.observedAt).Overdue result := late.2
    rw [if_pos ⟨unknown, overdue⟩] at h
    obtain ⟨isLocal2, row1', row', present', -, moved', seen'⟩ :=
      escalateUnresolved_effect tracked2 (owner.trans key.symm) h
    rw [key] at isLocal2 present' seen'
    rw [seen] at present' seen'
    cases present'
    rw [owner] at member'
    refine .ofLocal (isLocal.trans isLocal2) ?_
    rw [seen']
    dsimp only
    have keeps : Table.KeepsKey ActionRow.id action.id (ActionRow.verificationExpired result.observedAt) := fun _ e => e
    rw [Table.update_update keeps]
    exact .unresolved row row' action _ result.observedAt outcomes
      (fun ex => (avoids action stored case here state).1 ex late.2) present (by rw [rowState]; simp [late.1])
      (moved.trans moved') member' (.inr ⟨accepted, rfl⟩) noted
  · rename_i expires
    obtain ⟨rfl, rfl⟩ := Tx.pure_ok expire
    dsimp only at h
    split at h
    · rename_i late
      obtain ⟨isLocal, row, row', present, rowState, moved, seen⟩ := escalateUnresolved_effect tracked owner h
      rw [owner] at member'
      refine .ofLocal isLocal ?_
      rw [seen]
      exact .unresolved row row' action _ result.observedAt _
        (fun ex => (avoids action stored case here state).1 ex late.2) present (by rw [rowState]; simp [late.1])
        moved member' (.inl rfl) (.inl rfl)
    rename_i early
    split at h
    · obtain ⟨-, rfl⟩ := Tx.pure_ok h
      exact .ofUnseen (.refl _)
    · rename_i settled
      obtain ⟨-, fresh, confirmed⟩ := avoids action stored case here state
      refine reconcile_step member' tracked owner state settled fresh (fun ex => confirmed ex fun overdue => ?_) h
      rcases state with unknown | verifying
      · exact early ⟨unknown, overdue⟩
      · exact expires ⟨verifying, overdue⟩

end lookups

section signed

variable {action : ActionRow} {case : RecoveryCase} {event : NormalizedEvent} {webhook : Identifier}
  {out : ExecutionDisposition}

/-- The action an event is matched with is stored, resolvable and of a kind that credits money. -/
theorem creditedAction_effect {found : Option ActionRow} (h : (creditedAction rt event).run db = .ok (found, db')) :
    db = db' ∧ ∀ action ∈ found, action ∈ db.actions ∧ action.merchantId = event.merchantId ∧
      action.actionType ∈ recoveryCreditActions ∧ resolvable action := by
  unfold creditedAction at h
  split at h
  · obtain ⟨rows, _, read, h⟩ := Tx.bind_ok h
    obtain ⟨rfl, rfl⟩ := Tx.read_ok read
    obtain ⟨_, _, checked, h⟩ := Tx.bind_ok h
    obtain ⟨-, rfl⟩ := Tx.check_ok checked
    obtain ⟨rfl, rfl⟩ := Tx.pure_ok h
    refine ⟨rfl, fun action first => ?_⟩
    obtain ⟨member, here⟩ := List.mem_filter.mp (List.mem_of_mem_head? first)
    obtain ⟨merchant, -, kind, settled⟩ := of_decide_eq_true here
    exact ⟨member, merchant, kind, settled⟩
  · split at h
    · obtain ⟨rfl, rfl⟩ := Tx.read_ok h
      refine ⟨rfl, fun action first => ?_⟩
      obtain ⟨member, here⟩ := List.mem_filter.mp ((List.mem_insertionSort _).mp (List.mem_of_mem_head? first))
      obtain ⟨merchant, -, kind, settled⟩ := of_decide_eq_true here
      exact ⟨member, merchant, kind, settled⟩
    · obtain ⟨rfl, rfl⟩ := Tx.pure_ok h
      exact ⟨rfl, by simp⟩

theorem stopped_from {s : CaseState} (h : .stopped ∈ allowedTransitions s) :
    s = .policyCheck ∨ s = .verifying ∨ s = .escalated := by
  cases s <;> simp [allowedTransitions] at h ⊢

theorem stopMismatched_step {reference : String} (tracked : Tracks case db)
    (allowed : excluded .mismatchEscalated → case.state ≠ .escalated)
    (h : (stopMismatched action case event reference).run db = .ok (out, db')) : Step excluded db db' := by
  obtain ⟨known, d1, acknowledge, h⟩ := Tx.bind_ok h
  obtain ⟨stopped, d2, stop, h⟩ := Tx.bind_ok h
  obtain ⟨-, rfl⟩ := Tx.pure_ok h
  have passed : Passed case known db d1 ∧ (case.state = .unknown ∨ known.state = case.state) := by
    unfold acknowledgeSigned at acknowledge
    split at acknowledge
    · rename_i unknown
      exact ⟨(executionTransition_passed tracked acknowledge).2.2, .inl unknown⟩
    · obtain ⟨rfl, rfl⟩ := Tx.pure_ok acknowledge
      exact ⟨.refl tracked, .inr rfl⟩
  obtain ⟨edge, target, passed'⟩ := executionTransition_passed passed.1.tracks stop
  obtain ⟨row, row', present, same, moved, seen⟩ := (passed.1.trans passed').effect
  refine .ofLocal (passed.1.trans passed').isLocal ?_
  rw [seen]
  rw [target] at moved
  refine .mismatched row row' present ?_ (fun ex => by rw [same]; exact allowed ex) moved
  rw [same]
  rcases passed.2 with unknown | kept
  · simp [unknown]
  · rw [kept] at edge
    rcases stopped_from edge with e | e | e <;> simp [e]

theorem creditSigned_step {reference : String} (member : action ∈ (view action.key db).actions) (tracked : Tracks case db)
    (owner : action.key = case.key) (settled : resolvable action) (matches_ : amountMatches action event = true)
    (h : (creditSigned action case event reference).run db = .ok (out, db')) : Step excluded db db' := by
  obtain ⟨after, d1, resolve, h⟩ := Tx.bind_ok h
  have resolves := resolve_effect resolve
  obtain ⟨-, written⟩ := setActionResolution_effect resolve
  obtain ⟨actions, resolved, resolvedSeen⟩ := resolves.effect
  have tracked1 : Tracks case d1 := tracks_view tracked (by rw [← owner, resolvedSeen])
  obtain ⟨known, d2, acknowledge, h⟩ := Tx.bind_ok h
  unfold acknowledgeSigned at acknowledge
  split at h
  · rename_i other
    obtain ⟨-, rfl⟩ := Tx.pure_ok h
    split at acknowledge
    · exact absurd (executionTransition_passed tracked1 acknowledge).2.1 other
    · obtain ⟨-, rfl⟩ := Tx.pure_ok acknowledge
      subst written
      obtain ⟨isLocal, seen⟩ := updateAction_effect db action.id
        (ActionRow.resolve .succeeded event.receivedAt (event.paymentLinkId.map (·.val)) none) fun _ => rfl
      refine .ofLocal isLocal ?_
      rw [seen]
      exact .late action _ _ member settled
  · rename_i verifying
    have passed : Passed case known d1 d2 ∧ (case.state = .unknown ∨ case.state = .verifying) := by
      split at acknowledge
      · rename_i unknown
        exact ⟨(executionTransition_passed tracked1 acknowledge).2.2, .inl unknown⟩
      · obtain ⟨rfl, rfl⟩ := Tx.pure_ok acknowledge
        exact ⟨.refl tracked1, .inr (not_not.mp verifying)⟩
    obtain ⟨_, d3, store, h⟩ := Tx.bind_ok h
    obtain ⟨recovered, d4, recover, h⟩ := Tx.bind_ok h
    obtain ⟨-, rfl⟩ := Tx.pure_ok h
    have tracked3 : Tracks known d3 := tracks_view passed.1.tracks (by
      simp only [view, Database.caseRow, storeObservation_cases store])
    obtain ⟨-, target, passed'⟩ := executionTransition_passed tracked3 recover
    simp only [amountMatches, Bool.and_eq_true, beq_iff_eq] at matches_
    refine credit_change member owner passed.2 resolves passed.1 (observation_of resolves.id.symm) rfl matches_.1 ?_
      (fun _ => .inl ⟨rfl, rfl⟩) store passed' target
    exact congrArg ActionParameters.currency resolves.parameters

/-- No signed event of a wrong amount stops a case that awaits a human. -/
def VerifyAvoids (rt : Runtime) (excluded : Kind → Prop) (event : NormalizedEvent) (db : Database) : Prop :=
  excluded .mismatchEscalated → (creditedAction rt event).After (fun credited _ => ∀ action ∈ credited,
    ∀ case ∈ db.caseOf action.key, amountMatches action event = false → case.state ≠ .escalated) db

instance [DecidablePred excluded] (event : NormalizedEvent) (db : Database) :
    Decidable (VerifyAvoids rt excluded event db) := inferInstanceAs (Decidable (_ → _))

theorem verifySignedEvent_step {found : Option ExecutionDisposition} (avoids : VerifyAvoids rt excluded event db)
    (h : (verifySignedEvent rt event webhook).run db = .ok (found, db')) : Step excluded db db' := by
  unfold verifySignedEvent at h
  split at h
  · obtain ⟨-, rfl⟩ := Tx.pure_ok h
    exact .ofUnseen (.refl _)
  obtain ⟨credited, d1, search, h⟩ := Tx.bind_ok h
  obtain ⟨same, spec⟩ := creditedAction_effect search
  subst same
  split at h
  · obtain ⟨-, rfl⟩ := Tx.pure_ok h
    exact .ofUnseen (.refl _)
  rename_i action
  obtain ⟨stored, -, -, settled⟩ := spec action rfl
  have member : action ∈ (view action.key db).actions := Table.mem_select.mpr ⟨stored, rfl⟩
  obtain ⟨d, d2, verify, h⟩ := Tx.bind_ok h
  obtain ⟨-, rfl⟩ := Tx.pure_ok h
  obtain ⟨case, d3, required, verify⟩ := Tx.bind_ok verify
  obtain ⟨here, same⟩ := requiredCase_effect required
  subst same
  obtain ⟨caseKey, tracked⟩ := tracks_caseOf here
  split at verify
  · obtain ⟨-, rfl⟩ := Tx.pure_ok verify
    exact .ofUnseen (.refl _)
  split at verify
  · rename_i differs
    exact stopMismatched_step tracked (fun ex => avoids ex _ _ search action rfl case here differs) verify
  · rename_i agrees
    exact creditSigned_step member tracked caseKey.symm settled (by simpa using agrees) verify

end signed

end RevenueGuard
