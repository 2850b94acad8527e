import RevenueGuard.Protocol.Evidence
import RevenueGuard.Safety.CaseTime

/-
Replays. Processing an event again changes nothing and reports its link, exactly
where the case it selects now is the one its link names, or a live one.
-/
namespace RevenueGuard

variable {rt : Runtime} {db d db' : Database} {m eventId caseId : Identifier} {inputs : EvaluationInputs} {t : Instant}
  {event : NormalizedEvent} {link : CaseEventRow} {c : Command}

/-- The link of an event, as it was made. -/
def Linked (m eventId : Identifier) (link : CaseEventRow) (db : Database) : Prop :=
  Table.lookup CaseEventRow.id (m, eventId) db.caseEvents = some link

/-- Processing the event again changes no row and reports its link. -/
def Replayed (rt : Runtime) (inputs : EvaluationInputs) (m eventId caseId : Identifier) (t : Instant) (link : CaseEventRow)
    (db : Database) : Prop :=
  ∃ result, (processEvent rt inputs m eventId caseId t).run db = .ok (result, db) ∧ result.caseId = link.caseId ∧
    result.disposition = some link.disposition

/-- The case an event selects now. -/
def selectedCase (m : Identifier) (event : NormalizedEvent) (db : Database) : Option CaseRow :=
  (selectCaseIdentity event).bind fun identity => (findActiveCase m identity db).or (findEpisodeCase m identity db)

/-- When a replay finds its way back: an event that decides a case still selects one, a live case under a policy in
force, an ended one as its own; any other event selects the case it was linked to. -/
def ReplaySafe (m : Identifier) (event : NormalizedEvent) (link : CaseEventRow) (t : Instant) (db : Database) : Prop :=
  if (selectCaseIdentity event).isSome ∧ (diagnoseEvent event).isSome then
    ∃ row, selectedCase m event db = some row ∧
      if row.case.state.Terminal then some row.case.caseId = link.caseId else ∃ policy, InForce m t policy db
  else (selectedCase m event db).map (·.case.caseId) = link.caseId

theorem replayed_iff_result {result : RecoveryServiceResult}
    (ran : (processEvent rt inputs m eventId caseId t).run db = .ok (result, db)) :
    Replayed rt inputs m eventId caseId t link db ↔
      result.caseId = link.caseId ∧ result.disposition = some link.disposition := by
  refine ⟨?_, fun reports => ⟨result, ran, reports⟩⟩
  rintro ⟨other, run, reports⟩
  rw [ran] at run
  cases run
  exact reports

theorem not_replayed_of_error {failure : Failure}
    (ran : (processEvent rt inputs m eventId caseId t).run db = .error failure) :
    ¬ Replayed rt inputs m eventId caseId t link db := by
  rintro ⟨result, run, -⟩
  rw [ran] at run
  cases run

theorem linkEvidence_known (caseId : Option Identifier) (d : EvidenceDisposition) (reason : String)
    (linked : Table.lookup CaseEventRow.id (event.merchantId, event.eventId) db.caseEvents = some link) :
    (linkEvidence ⟨event.merchantId, caseId, event.eventId, d, reason⟩).run db = .ok (⟨link, false⟩, db) := by
  refine (Tx.bind_of_ok rfl).trans ?_
  dsimp only [CaseEventRow.id]
  rw [linked]
  rfl

/-- An audit of a linked event reports the link's disposition beside the case selected now. -/
theorem linkAuditOnly_known {row : Option CaseRow} (reason : String)
    (linked : Table.lookup CaseEventRow.id (event.merchantId, event.eventId) db.caseEvents = some link) :
    (linkAuditOnly event row reason).run db = .ok (.done
      { caseId := row.map (·.case.caseId), caseState := row.map (·.case.state), disposition := some link.disposition
        reasonCode := "EVENT_ALREADY_LINKED" }, db) :=
  (Tx.bind_of_ok (linkEvidence_known _ _ _ linked)).trans rfl

theorem updateCase_known {row : CaseRow} {diagnosis : Diagnosis} {policy : MerchantPolicySnapshot}
    (linked : Table.lookup CaseEventRow.id (event.merchantId, event.eventId) db.caseEvents = some link) :
    (updateCase row diagnosis event policy t).run db = .ok (.done
      { caseId := link.caseId, caseState := some row.case.state, disposition := some link.disposition
        reasonCode := "EVENT_ALREADY_LINKED" }, db) :=
  (Tx.bind_of_ok rfl).trans ((Tx.bind_of_ok (linkEvidence_known _ _ _ linked)).trans rfl)

/-- An event that selects no case opens one, whatever its link says. -/
theorem openCase_grows {identity : CaseIdentity} {diagnosis : Diagnosis} {policy : MerchantPolicySnapshot} {routed : Routed}
    (linked : Table.lookup CaseEventRow.id (event.merchantId, event.eventId) db.caseEvents = some link)
    (h : (openCase caseId identity diagnosis event policy t).run db = .ok (routed, db')) :
    db'.cases = db.cases ++ [newCase caseId identity event t] ∧ ∃ result, routed = .done result := by
  obtain ⟨_, d1, created, h⟩ := Tx.bind_ok h
  obtain ⟨-, rfl⟩ := createCase_ok created
  obtain ⟨made, d2, linking, h⟩ := Tx.bind_ok h
  rcases linkEvidence_ran linking with ⟨old, -, rfl⟩ | ⟨-, absent, -⟩
  · rw [if_neg (by simp [old])] at h
    obtain ⟨rfl, rfl⟩ := Tx.pure_ok h
    exact ⟨rfl, _, rfl⟩
  · have impossible := linked.symm.trans absent
    cases impossible

theorem openCase_not_replayed {identity : CaseIdentity} {diagnosis : Diagnosis} {policy : MerchantPolicySnapshot}
    (linked : Table.lookup CaseEventRow.id (event.merchantId, event.eventId) db.caseEvents = some link)
    (routed : (routeEvent m eventId caseId t).run db = (openCase caseId identity diagnosis event policy t).run db) :
    ¬ Replayed rt inputs m eventId caseId t link db := by
  rintro ⟨result, ran, -⟩
  obtain ⟨made, d, route, finish⟩ := Tx.bind_ok ran
  obtain ⟨cases, done, rfl⟩ := openCase_grows linked (routed.symm.trans route)
  obtain ⟨-, rfl⟩ := Tx.pure_ok finish
  have longer := congrArg List.length cases
  rw [List.length_append] at longer
  exact absurd longer (by simp)

/-- Routing of a known event of a known merchant. -/
theorem routeEvent_known (caseId : Identifier) (t : Instant) (registered : m ∈ db.merchants) (known : db.event m eventId = some event) :
    (routeEvent m eventId caseId t).run db = (match selectCaseIdentity event with
      | none => linkAuditOnly event none "UNSUPPORTED_EVENT_SUBJECT"
      | some identity => do
        let row ← Tx.read fun db => (findActiveCase m identity db).or (findEpisodeCase m identity db)
        match diagnoseEvent event with
        | none => linkAuditOnly event row "EVENT_HAS_NO_RECOVERY_DIAGNOSIS"
        | some diagnosis => match row with
          | none => do
            let policy ← effectivePolicy m t
            openCase caseId identity diagnosis event policy t
          | some row =>
            if row.case.state.Terminal then linkAuditOnly event (some row) "TERMINAL_CASE_EVIDENCE"
            else do
              let policy ← effectivePolicy m t
              updateCase row diagnosis event policy t).run db := by
  have locked : (lockMerchant m).run db = .ok ((), db) :=
    (Tx.bind_of_ok rfl).trans (Tx.check_of (decide_eq_true registered))
  refine (Tx.bind_of_ok locked).trans ((Tx.bind_of_ok (Tx.run_read _ _)).trans ((Tx.bind_of_ok ?_).trans rfl))
  rw [known]
  rfl

/-- A policy in force is the one that is found, and a failed search means there is none. -/
theorem effectivePolicy_run (m : Identifier) (t : Instant) (db : Database) :
    (∃ policy, (effectivePolicy m t).run db = .ok (policy, db) ∧ InForce m t policy db) ∨
      (∃ failure, (effectivePolicy m t).run db = .error failure) ∧ ¬ ∃ policy, InForce m t policy db := by
  cases ran : (effectivePolicy m t).run db with
  | ok result =>
    obtain ⟨policy, d⟩ := result
    obtain ⟨force, rfl⟩ := inForce_ok ran
    exact .inl ⟨policy, rfl, force⟩
  | error failure =>
    refine .inr ⟨⟨failure, rfl⟩, ?_⟩
    rintro ⟨policy, force⟩
    rw [InForce, ran] at force
    cases force

theorem replayed_iff (registered : m ∈ db.merchants) (known : db.event m eventId = some event)
    (linked : Linked m eventId link db) :
    Replayed rt inputs m eventId caseId t link db ↔ ReplaySafe m event link t db := by
  have routed := routeEvent_known caseId t registered known
  obtain ⟨owner, id⟩ := event_merchant known
  rw [Linked, ← owner, ← id] at linked
  have finished {result : RecoveryServiceResult} (ran : (routeEvent m eventId caseId t).run db = .ok (.done result, db)) :
      (processEvent rt inputs m eventId caseId t).run db = .ok (result, db) := (Tx.bind_of_ok ran).trans rfl
  unfold ReplaySafe selectedCase
  cases identified : selectCaseIdentity event with
  | none =>
    rw [identified] at routed
    rw [replayed_iff_result (finished (routed.trans (linkAuditOnly_known _ linked)))]
    simp
  | some identity =>
    rw [identified] at routed
    cases diagnosed : diagnoseEvent event with
    | none =>
      rw [diagnosed] at routed
      rw [replayed_iff_result (finished (routed.trans ((Tx.bind_of_ok rfl).trans (linkAuditOnly_known _ linked))))]
      simp
    | some diagnosis =>
      rw [diagnosed] at routed
      replace routed := routed.trans (Tx.bind_of_ok rfl)
      dsimp only at routed
      simp only [Option.isSome_some, and_self, if_true, Option.bind_some]
      cases selected : (findActiveCase m identity db).or (findEpisodeCase m identity db) with
      | none =>
        rw [selected] at routed
        refine iff_of_false ?_ (by simp)
        rcases effectivePolicy_run m t db with ⟨policy, effective, -⟩ | ⟨⟨failure, missing⟩, -⟩
        · exact openCase_not_replayed linked (routed.trans (Tx.bind_of_ok effective))
        · exact not_replayed_of_error (Tx.bind_of_error (routed.trans (Tx.bind_of_error missing)))
      | some row =>
        rw [selected] at routed
        simp only [Option.some.injEq, exists_eq_left']
        by_cases ended : row.case.state.Terminal
        · rw [if_pos ended, replayed_iff_result (finished (routed.trans ((congrArg (Tx.run · db) (if_pos ended)).trans
            (linkAuditOnly_known _ linked))))]
          simp
        · rw [if_neg ended]
          replace routed := routed.trans (congrArg (Tx.run · db) (if_neg ended))
          rcases effectivePolicy_run m t db with ⟨policy, effective, force⟩ | ⟨⟨failure, missing⟩, unforced⟩
          · rw [replayed_iff_result (finished (routed.trans ((Tx.bind_of_ok effective).trans (updateCase_known linked))))]
            exact iff_of_true ⟨rfl, rfl⟩ ⟨policy, force⟩
          · exact iff_of_false (not_replayed_of_error (Tx.bind_of_error (routed.trans (Tx.bind_of_error missing)))) unforced

/-- Every link is of a stored event of a registered merchant. -/
def LinksKnown (db : Database) : Prop :=
  ∀ link ∈ db.caseEvents, link.merchantId ∈ db.merchants ∧ ∃ event, db.event link.merchantId link.normalizedEventId = some event

theorem exec_stores (keyed : Keyed db) (rt : Runtime) (c : Command) :
    (∀ m ∈ db.merchants, m ∈ (exec rt c db).merchants) ∧
      ∀ {m id event}, db.event m id = some event → (exec rt c db).event m id = some event := by
  rcases exec_simulated keyed c (Command.avoids_nothing rt c db) with steps | ambient
  · refine ⟨fun m member => ?_, fun known => ?_⟩
    · rw [steps.kept.merchants]
      exact member
    · rw [steps.kept.event]
      exact known
  · exact ⟨ambient.merchants, fun known => ambient.event known⟩

/-- A command only adds links, and only those it may make. -/
theorem exec_links (rt : Runtime) (c : Command) (db : Database) :
    ∃ more, (exec rt c db).caseEvents = db.caseEvents ++ more ∧ ∀ link ∈ more, c.links db link := by
  rcases exec_writes rt c db with writes | reported
  · refine writes.keeps (fun d => ∃ more, d.caseEvents = db.caseEvents ++ more ∧ ∀ link ∈ more, c.links db link)
      ⟨[], (List.append_nil _).symm, List.forall_mem_nil _⟩ ?_
    rintro d e write ⟨more, links, told⟩
    rcases write.links with same | ⟨link, allowed, linked⟩
    · exact ⟨more, same.trans links, told⟩
    · refine ⟨more ++ [link], by rw [linked, links, List.append_assoc], fun x member => ?_⟩
      rcases List.mem_append.mp member with earlier | new
      · exact told x earlier
      · rw [List.mem_singleton.mp new]
        exact allowed
  · exact ⟨[], by rw [reported.caseEvents, List.append_nil], List.forall_mem_nil _⟩

theorem Linked.exec (h : Linked m eventId link db) (rt : Runtime) (c : Command) : Linked m eventId link (exec rt c db) := by
  obtain ⟨more, links, -⟩ := exec_links rt c db
  rw [Linked, Table.lookup] at h ⊢
  rw [links, List.find?_append, h]
  rfl

theorem linksKnown_step (keyed : Keyed db) (c : Command) (h : LinksKnown db) : LinksKnown (exec rt c db) := by
  obtain ⟨registered, stored⟩ := exec_stores keyed rt c
  obtain ⟨more, links, told⟩ := exec_links rt c db
  intro link member
  rw [links] at member
  rcases List.mem_append.mp member with old | new
  · obtain ⟨merchant, event, known⟩ := h link old
    exact ⟨registered _ merchant, event, stored known⟩
  · cases c with
    | processEvent inputs m eventId caseId t =>
      have id := (told link new).1
      simp only [CaseEventRow.id, Prod.mk.injEq] at id
      cases ran : (processEvent rt inputs m eventId caseId t).run db with
      | error failure =>
        have same : (exec rt (.processEvent inputs m eventId caseId t) db).caseEvents = db.caseEvents := by
          rw [exec, Tx.commit_of_error ran]
        rw [← links, same] at member
        obtain ⟨merchant, event, known⟩ := h link member
        exact ⟨registered _ merchant, event, stored known⟩
      | ok result =>
        obtain ⟨routed, d, route, -⟩ := Tx.bind_ok (show (processEvent rt inputs m eventId caseId t).run db =
          .ok (result.1, result.2) from ran)
        obtain ⟨_, _, locked, route⟩ := Tx.bind_ok route
        obtain ⟨merchant, rfl⟩ := lockMerchant_effect locked
        obtain ⟨_, _, read, route⟩ := Tx.bind_ok route
        obtain ⟨rfl, rfl⟩ := Tx.read_ok read
        obtain ⟨event, _, found, -⟩ := Tx.bind_ok route
        obtain ⟨known, rfl⟩ := Tx.found_ok found
        rw [id.1, id.2]
        exact ⟨registered _ merchant, event, stored known⟩
    | _ => exact (told link new).elim

theorem linksKnown_invariant (reach : Reachable rt db) : LinksKnown db := by
  have both := Runs.Reaches.invariant (fun db => Reachable rt db ∧ LinksKnown db) reach
    ⟨.start, List.forall_mem_nil _⟩ fun c db before _ =>
      ⟨.step c before.1 trivial, linksKnown_step before.1.under.keyed c before.2⟩
  exact both.2

theorem event_replayed (reach : Reachable rt d) (linked : Linked m eventId link d)
    (later : Runs.Reaches (exec rt) (fun _ _ => True) d db) : Linked m eventId link db ∧
    ∃ event, db.event m eventId = some event ∧ ∀ (inputs : EvaluationInputs) (caseId : Identifier) (t : Instant),
      Replayed rt inputs m eventId caseId t link db ↔ ReplaySafe m event link t db := by
  have still : Linked m eventId link db := Runs.Reaches.invariant (Linked m eventId link) later linked
    fun c db before _ => before.exec rt c
  obtain ⟨registered, event, known⟩ := linksKnown_invariant (Runs.Reaches.trans reach later) link (Table.lookup_mem still)
  have id : link.id = (m, eventId) := Table.lookup_key still
  simp only [CaseEventRow.id, Prod.mk.injEq] at id
  rw [id.1] at registered known
  rw [id.2] at known
  exact ⟨still, event, known, fun inputs caseId t => replayed_iff registered known still⟩

def disputed (event payment order : Identifier) (at_ : Instant) : NormalizedEvent :=
  { expiredCard event payment at_ with
    eventType := ident "payment.dispute.created"
    normalizedFailureCategory := .dispute
    orderId := some order
    subject := expiredCard_subject event payment at_ }

/-- A failed payment waits for its retry, and a dispute that names its order ends the case. -/
def disputeEnds : List Command :=
  retryDeferred ++ ingested (disputed (ident "event-2") (ident "pay-1") (ident "order-1") 35) ++
    [.processEvent (drawn "receipt-2") acme (ident "event-2") (ident "case-2") 40]

def firstLink : CaseEventRow := ⟨acme, some (ident "case-1"), ident "event-1", .applied, "EVIDENCE_ACCEPTED"⟩

set_option maxRecDepth 100000 in
theorem event_replayed_ended : Linked acme (ident "event-1") firstLink (execAll {} disputeEnds {}) ∧
    ∀ (inputs : EvaluationInputs) (caseId : Identifier) (t : Instant),
      Replayed {} inputs acme (ident "event-1") caseId t firstLink (execAll {} disputeEnds {}) := by
  have first : Linked acme (ident "event-1") firstLink (execAll {} (retryDeferred) {}) := by
    unfold Linked
    decide +kernel
  have later : Runs.Reaches (exec {}) (fun _ _ => True) (execAll {} (retryDeferred) {}) (execAll {} disputeEnds {}) :=
    reaches_execAll {} (disputeEnds.drop 5) _
  obtain ⟨still, event, known, replayed⟩ := event_replayed (reachable_execAll {} _) first later
  refine ⟨still, fun inputs caseId t => (replayed inputs caseId t).mpr ?_⟩
  have found : ((execAll {} disputeEnds {}).event acme (ident "event-1")).map (fun event =>
      (decide ((selectCaseIdentity event).isSome ∧ (diagnoseEvent event).isSome),
        (selectedCase acme event (execAll {} disputeEnds {})).map fun row =>
          (decide row.case.state.Terminal, row.case.caseId))) = some (true, some (true, ident "case-1")) := by
    decide +kernel
  rw [known, Option.map_some, Option.some.injEq, Prod.mk.injEq, decide_eq_true_eq, Option.map_eq_some_iff] at found
  obtain ⟨decides, row, selected, own⟩ := found
  rw [Prod.mk.injEq, decide_eq_true_eq] at own
  rw [ReplaySafe, if_pos decides]
  refine ⟨row, selected, ?_⟩
  rw [if_pos own.1, own.2]
  rfl

set_option maxRecDepth 100000 in
/-- Processed again, the dispute opens a second case for its order. -/
theorem replay_opens_case : ¬ ∀ (rt : Runtime) (d db : Database) (m eventId : Identifier) (link : CaseEventRow),
    Reachable rt d → Linked m eventId link d → Runs.Reaches (exec rt) (fun _ _ => True) d db →
    ∀ (inputs : EvaluationInputs) (caseId : Identifier) (t : Instant), Replayed rt inputs m eventId caseId t link db := by
  intro kept
  have linked : ∃ link ∈ (execAll {} disputeEnds {}).caseEvents, Linked acme (ident "event-2") link (execAll {} disputeEnds {}) := by
    unfold Linked
    decide +kernel
  obtain ⟨link, -, linked⟩ := linked
  obtain ⟨result, ran, -⟩ := kept {} _ _ acme (ident "event-2") link (reachable_execAll {} disputeEnds) linked .start
    (drawn "receipt-3") (ident "case-3") 50
  have grown : ((processEvent {} (drawn "receipt-3") acme (ident "event-2") (ident "case-3") 50).commit
      (execAll {} disputeEnds {})).cases.length = (execAll {} disputeEnds {}).cases.length + 1 := by decide +kernel
  rw [Tx.commit_of_ok ran] at grown
  omega

end RevenueGuard
