import RevenueGuard.Protocol.Refusals
import RevenueGuard.Safety.Replay

/-
One order, one case. The key of an order is stored only by the case its first
event opens; while no event of an order is routed to another case, all of them
meet in that one, and the indexes of the cases are never violated.
-/
namespace RevenueGuard

variable {w : Writer} {rt : Runtime} {inputs : EvaluationInputs} {db d middle db' : Database}
  {m eventId caseId order : Identifier} {t : Instant} {event : NormalizedEvent} {routed : Routed}
  {res : RecoveryServiceResult} {k : CaseKey} {case : RecoveryCase} {diagnosis : Diagnosis}
  {policy : MerchantPolicySnapshot} {identity : CaseIdentity} {c : Command} {row : CaseRow}

/-- A payment event with a diagnosis that names an order, no subscription and no invoice. -/
structure RevenueRiskEvent.NamesOrder (event : RevenueRiskEvent) (order : Identifier) : Prop where
  order : event.orderId = some order
  subscription : event.subscriptionId = none
  invoice : event.invoiceId = none
  payment : event.paymentId.isSome = true
  diagnosed : (diagnoseEvent event).isSome = true

instance (event : RevenueRiskEvent) (order : Identifier) : Decidable (event.NamesOrder order) :=
  decidable_of_iff (event.orderId = some order ∧ event.subscriptionId = none ∧ event.invoiceId = none ∧
    event.paymentId.isSome = true ∧ (diagnoseEvent event).isSome = true)
    ⟨fun ⟨a, b, c, d, e⟩ => ⟨a, b, c, d, e⟩, fun ⟨a, b, c, d, e⟩ => ⟨a, b, c, d, e⟩⟩

def orderKey (m order : Identifier) : EpisodeKey := ⟨m, .paymentDegradation, .payment, order⟩

theorem named_identity (named : event.NamesOrder order) : ∃ payment, selectCaseIdentity event =
    some ⟨.paymentDegradation, .payment, payment, some (orderKey event.merchantId order)⟩ := by
  obtain ⟨payment, paid⟩ := Option.isSome_iff_exists.mp named.payment
  refine ⟨payment, ?_⟩
  simp [selectCaseIdentity, named.order, named.subscription, named.invoice, paid, orderKey]

/-- An event of an order that has no link yet does not meet a live case of another episode. -/
def Command.KeepsOrders : Command → Database → Prop
  | .processEvent _ m eventId _ _, db => Table.lookup CaseEventRow.id (m, eventId) db.caseEvents = none →
    ∀ event ∈ db.event m eventId, ∀ order ∈ event.orderId, event.NamesOrder order →
      ∀ identity ∈ selectCaseIdentity event, ∀ row ∈ findActiveCase m identity db,
        row.recoveryEpisodeKey = identity.episodeKey
  | _, _ => True

instance (c : Command) (db : Database) : Decidable (c.KeepsOrders db) :=
  match c with
  | .processEvent .. => by unfold Command.KeepsOrders; infer_instance
  | .registerMerchant .. | .upsertCustomer .. | .upsertPayment .. | .upsertSubscription ..
  | .persistNormalizedEvent .. | .putMerchantRow .. | .publishPolicy .. | .applyDegradationAssessment ..
  | .reevaluateDeferred .. | .decideReview .. | .closeExpiredCustomerInterventions .. | .recordOverdueInvoice ..
  | .recordCustomerResponse .. | .scheduleDuePromiseReminders .. | .escalateBrokenPromises .. | .claimDueActions ..
  | .prepareExecution .. | .recordExecutionResult .. | .markStaleCallsUnknown .. | .recordLookup ..
  | .verifySignedEvent .. => isTrue trivial

/-- The event's link, found or made. -/
def LinkedTo (event : NormalizedEvent) (target : Option Identifier) (db d : Database) : Prop :=
  d.caseEvents = db.caseEvents ∨ Table.lookup CaseEventRow.id (event.merchantId, event.eventId) db.caseEvents = none ∧
    ∃ disposition reason, d.caseEvents = db.caseEvents ++ [⟨event.merchantId, target, event.eventId, disposition, reason⟩]

theorem LinkedTo.same {target : Option Identifier} (h : LinkedTo event target db d) (same : db'.caseEvents = d.caseEvents) :
    LinkedTo event target db db' := by
  unfold LinkedTo
  rw [same]
  exact h

section processing

theorem linkEvidence_linkedTo {target : Option Identifier} {disposition : EvidenceDisposition} {reason : String}
    {made : EvidenceLinkResult}
    (h : (linkEvidence ⟨event.merchantId, target, event.eventId, disposition, reason⟩).run db = .ok (made, d)) :
    d.cases = db.cases ∧ d.policies = db.policies ∧ LinkedTo event target db d := by
  rcases linkEvidence_ran h with ⟨-, -, rfl⟩ | ⟨-, fresh, rfl⟩
  · exact ⟨rfl, rfl, .inl rfl⟩
  · exact ⟨rfl, rfl, .inr ⟨fresh, _, _, rfl⟩⟩

theorem Writes.unlinked (h : Writes w db db') (links : ∀ link, ¬ w.links link) : db'.caseEvents = db.caseEvents := by
  refine h.keeps (fun d => d.caseEvents = db.caseEvents) rfl fun {d e} write before => ?_
  rcases write.links with same | ⟨link, told, -⟩
  · exact same.trans before
  · exact absurd told (links link)

/-- What follows the link moves the event's own case alone. -/
theorem proceed_finished (snap : Snap case db) (force : InForce case.merchantId t policy db)
    (h : (proceedToEvaluation case diagnosis event policy t).run db = .ok (routed, d))
    (finish : (finishRouting rt inputs routed).run d = .ok (res, db')) : Steady db db' ∧ db'.caseEvents = db.caseEvents := by
  obtain ⟨proceeding, current⟩ :=
    proceed_routed (w := ⟨t, True, fun k _ => k = case.key, fun _ => False⟩) snap rfl rfl force h
  have writes := proceeding.trans (finishRouting_writes current finish)
  refine ⟨writes.steady fun k event here => ?_, writes.unlinked fun _ => id⟩
  obtain ⟨row, found, -⟩ := snap
  rw [show k = case.key from here, found]
  rfl

theorem openCase_finished (force : InForce event.merchantId t policy db)
    (h : (openCase caseId identity diagnosis event policy t).run db = .ok (routed, d))
    (finish : (finishRouting rt inputs routed).run d = .ok (res, db')) :
    ∃ middle, (createCase (newCase caseId identity event t)).run db = .ok ((), middle) ∧ Steady middle db' ∧
      LinkedTo event (some caseId) db db' := by
  obtain ⟨_, d1, created, h⟩ := Tx.bind_ok h
  refine ⟨d1, created, ?_⟩
  obtain ⟨⟨absent, -, -, -⟩, rfl⟩ := createCase_ok created
  have snap : Snap (newCase caseId identity event t).case { db with cases := db.cases ++ [newCase caseId identity event t] } :=
    ⟨newCase caseId identity event t, Table.lookup_append_new absent, rfl⟩
  obtain ⟨link, d2, linking, h⟩ := Tx.bind_ok h
  obtain ⟨cases, policies, linked⟩ := linkEvidence_linkedTo linking
  split at h
  · obtain ⟨steady, links⟩ := proceed_finished (snap.of_cases cases) (force.of_policies policies) h finish
    exact ⟨(Steady.of_cases cases).trans steady, linked.same links⟩
  · obtain ⟨rfl, rfl⟩ := Tx.pure_ok h
    obtain ⟨-, rfl⟩ := Tx.pure_ok finish
    exact ⟨.of_cases cases, linked⟩

theorem updateCase_finished (owner : row.case.merchantId = event.merchantId) (force : InForce event.merchantId t policy db)
    (h : (updateCase row diagnosis event policy t).run db = .ok (routed, d))
    (finish : (finishRouting rt inputs routed).run d = .ok (res, db')) :
    Steady db db' ∧ LinkedTo event (some row.case.caseId) db db' := by
  obtain ⟨_, _, read, h⟩ := Tx.bind_ok h
  obtain ⟨rfl, rfl⟩ := Tx.read_ok read
  obtain ⟨link, d1, linking, h⟩ := Tx.bind_ok h
  obtain ⟨cases, policies, linked⟩ := linkEvidence_linkedTo linking
  split at h
  · obtain ⟨rfl, rfl⟩ := Tx.pure_ok h
    obtain ⟨-, rfl⟩ := Tx.pure_ok finish
    exact ⟨.of_cases cases, linked⟩
  split at h
  · obtain ⟨rfl, rfl⟩ := Tx.pure_ok h
    obtain ⟨-, rfl⟩ := Tx.pure_ok finish
    exact ⟨.of_cases cases, linked⟩
  obtain ⟨case, _, required, h⟩ := Tx.bind_ok h
  obtain ⟨stored, rfl⟩ := requireCase_effect required
  obtain ⟨key, snap⟩ := snap_caseOf stored
  have merchant : case.merchantId = event.merchantId := (congrArg CaseKey.merchantId key).trans owner
  obtain ⟨steady, links⟩ := proceed_finished snap (by rw [merchant]; exact force.of_policies policies) h finish
  exact ⟨(Steady.of_cases cases).trans steady, linked.same links⟩

theorem linkAuditOnly_finished {found : Option CaseRow} {reason : String}
    (h : (linkAuditOnly event found reason).run db = .ok (routed, d))
    (finish : (finishRouting rt inputs routed).run d = .ok (res, db')) :
    Steady db db' ∧ LinkedTo event (found.map (·.case.caseId)) db db' := by
  obtain ⟨link, d1, linking, h⟩ := Tx.bind_ok h
  obtain ⟨rfl, rfl⟩ := Tx.pure_ok h
  obtain ⟨-, rfl⟩ := Tx.pure_ok finish
  obtain ⟨cases, -, linked⟩ := linkEvidence_linkedTo linking
  exact ⟨.of_cases cases, linked⟩

/-- What a processed event leaves of the cases and the links. -/
inductive Processed (m caseId : Identifier) (t : Instant) (event : NormalizedEvent) (db db' : Database) : Prop
  | audited (undecided : selectCaseIdentity event = none ∨ diagnoseEvent event = none) (target : Option Identifier)
      (steady : Steady db db') (linked : LinkedTo event target db db')
  | heard (identity : CaseIdentity) (row : CaseRow) (identified : selectCaseIdentity event = some identity)
      (selected : (findActiveCase m identity db).or (findEpisodeCase m identity db) = some row) (steady : Steady db db')
      (linked : LinkedTo event (some row.case.caseId) db db')
  | opened (identity : CaseIdentity) (middle : Database) (identified : selectCaseIdentity event = some identity)
      (unknown : (findActiveCase m identity db).or (findEpisodeCase m identity db) = none)
      (created : (createCase (newCase caseId identity event t)).run db = .ok ((), middle)) (steady : Steady middle db')
      (linked : LinkedTo event (some caseId) db db')

theorem processEvent_processed (h : (processEvent rt inputs m eventId caseId t).run db = .ok (res, db')) :
    ∃ event, db.event m eventId = some event ∧ Processed m caseId t event db db' := by
  obtain ⟨routed, d, route, finish⟩ := Tx.bind_ok h
  obtain ⟨-, event, x, known, path, ran⟩ := routeEvent_route route
  have owner := (event_merchant known).1
  refine ⟨event, known, ?_⟩
  cases path with
  | unsupported unidentified =>
    obtain ⟨steady, linked⟩ := linkAuditOnly_finished ran finish
    exact .audited (.inl unidentified) _ steady linked
  | undiagnosed identity identified undiagnosed =>
    obtain ⟨steady, linked⟩ := linkAuditOnly_finished ran finish
    exact .audited (.inr undiagnosed) _ steady linked
  | opened identity diagnosis policy identified diagnosed unknown force =>
    obtain ⟨middle, created, steady, linked⟩ := openCase_finished (by rw [owner]; exact force) ran finish
    exact .opened identity middle identified unknown created steady linked
  | ended identity diagnosis row identified diagnosed selected terminated =>
    obtain ⟨steady, linked⟩ := linkAuditOnly_finished ran finish
    exact .heard identity row identified selected steady linked
  | updated identity diagnosis policy row identified diagnosed selected live force =>
    have mine := (selected_mem selected).2
    obtain ⟨steady, linked⟩ := updateCase_finished (mine.trans owner.symm) (by rw [owner]; exact force) ran finish
    exact .heard identity row identified selected steady linked

/-- Any other command only moves cases that exist. -/
theorem exec_steady (rt : Runtime) (db : Database)
    (other : ∀ inputs m eventId caseId t, c ≠ .processEvent inputs m eventId caseId t) : Steady db (exec rt c db) := by
  rcases exec_writes rt c db with writes | reported
  · refine writes.steady fun k event heard => ?_
    have here : AtWatermark db k event := by
      cases c with
      | processEvent inputs m eventId caseId t => exact absurd rfl (other inputs m eventId caseId t)
      | _ => exact heard
    obtain ⟨row, member, key, -⟩ := here
    obtain ⟨found, stored⟩ := Table.lookup_isSome member key
    rw [Database.caseRow, stored]
    rfl
  · exact .of_cases reported.cases

end processing

section indexes

def CaseRow.subject (row : CaseRow) : Identifier × WorkflowType × SubjectType × Identifier :=
  (row.case.merchantId, row.case.workflowType, row.case.subjectType, row.case.subjectId)

/-- Two rows that one of the unique indexes of the cases keeps apart. -/
def CaseRow.Rivals (row row' : CaseRow) : Prop :=
  (row.subject = row'.subject ∧ ¬ row.case.state.Terminal ∧ ¬ row'.case.state.Terminal) ∨
    ∃ e, row.recoveryEpisodeKey = some e ∧ row'.recoveryEpisodeKey = some e

/-- Every stored episode key is of its case's own subject, and rivals are one row. -/
structure Indexed (db : Database) : Prop where
  own : ∀ {k row e}, db.caseRow k = some row → row.recoveryEpisodeKey = some e →
    row.case.merchantId = e.merchantId ∧ row.case.workflowType = e.workflowType ∧ row.case.subjectType = e.subjectType
  apart : ∀ {k k' row row'}, db.caseRow k = some row → db.caseRow k' = some row' → row.Rivals row' → k = k'

theorem CaseRow.Kept.subject {row row' : CaseRow} (h : row.Kept row') : row'.subject = row.subject := by
  have anchor := h.anchor
  simp only [RecoveryCase.anchor, CaseAnchor.mk.injEq] at anchor
  simp only [CaseRow.subject, anchor]

theorem CaseRow.Kept.rivals {row row' other other' : CaseRow} (h : row.Kept row') (h' : other.Kept other')
    (rivals : row'.Rivals other') : row.Rivals other := by
  rcases rivals with ⟨same, live, live'⟩ | ⟨e, first, second⟩
  · rw [h.subject, h'.subject] at same
    exact .inl ⟨same, fun terminated => live (h.ended terminated), fun terminated => live' (h'.ended terminated)⟩
  · rw [h.episode] at first
    rw [h'.episode] at second
    exact .inr ⟨e, first, second⟩

theorem Indexed.steady (h : Indexed db) (steady : Steady db db') : Indexed db' := by
  constructor
  · intro k row e found keyed
    obtain ⟨before, there, kept⟩ := steady.back found
    rw [kept.episode] at keyed
    have own := h.own there keyed
    have anchor := kept.anchor
    simp only [RecoveryCase.anchor, CaseAnchor.mk.injEq] at anchor
    simp only [anchor]
    exact own
  · intro k k' row row' found found' rivals
    obtain ⟨before, there, kept⟩ := steady.back found
    obtain ⟨before', there', kept'⟩ := steady.back found'
    exact h.apart there there' (kept.rivals kept' rivals)

theorem createCase_alone {u : Unit} (h : (createCase row).run db = .ok (u, d)) : row.Unrivalled db.cases := by
  obtain ⟨admitted, -⟩ := createCase_ok h
  exact ⟨admitted.subject, admitted.episode⟩

theorem created_row {r : CaseRow} (created : (createCase row).run db = .ok ((), middle)) :
    middle.caseRow k = some r ↔ db.caseRow k = some r ∨ r = row ∧ row.key = k := by
  obtain ⟨⟨absent, -, -, -⟩, rfl⟩ := createCase_ok created
  by_cases here : row.key = k
  · subst here
    rw [absent, show Database.caseRow { db with cases := db.cases ++ [row] } row.key = some row from
      Table.lookup_append_new absent]
    simp [eq_comm]
  · rw [show Database.caseRow { db with cases := db.cases ++ [row] } k = db.caseRow k from Table.lookup_append_ne here]
    simp [here]

theorem CaseRow.Rivals.symm {row row' : CaseRow} (h : row.Rivals row') : row'.Rivals row := by
  rcases h with ⟨same, live, live'⟩ | ⟨e, first, second⟩
  · exact .inl ⟨same.symm, live', live⟩
  · exact .inr ⟨e, second, first⟩

theorem CaseRow.Unrivalled.apart {r : CaseRow} {cases : List CaseRow} (alone : row.Unrivalled cases) (member : r ∈ cases) :
    ¬ r.Rivals row := by
  rintro (⟨same, live, -⟩ | ⟨e, first, second⟩)
  · simp only [CaseRow.subject, Prod.mk.injEq] at same
    exact alone.subject r member ⟨same.1, same.2.1, same.2.2.1, same.2.2.2, live⟩
  · exact alone.episode r member (by rw [second]; rfl) (first.trans second.symm)

theorem Indexed.created (h : Indexed db) (created : (createCase row).run db = .ok ((), middle))
    (own : ∀ e ∈ row.recoveryEpisodeKey, row.case.merchantId = e.merchantId ∧ row.case.workflowType = e.workflowType ∧
      row.case.subjectType = e.subjectType) : Indexed middle := by
  have alone := createCase_alone created
  constructor
  · intro k r e found keyed
    rcases (created_row created).mp found with old | ⟨rfl, -⟩
    · exact h.own old keyed
    · exact own e keyed
  · intro k k' r r' found found' rivals
    rcases (created_row created).mp found with old | ⟨rfl, here⟩ <;>
      rcases (created_row created).mp found' with old' | ⟨rfl, there⟩
    · exact h.apart old old' rivals
    · exact absurd rivals (alone.apart (Table.lookup_mem old))
    · exact absurd rivals.symm (alone.apart (Table.lookup_mem old'))
    · exact here.symm.trans there

/-- The subject and the episode of a new case go together. -/
theorem newCase_own (identified : selectCaseIdentity event = some identity) :
    ∀ e ∈ (newCase caseId identity event t).recoveryEpisodeKey,
      (newCase caseId identity event t).case.merchantId = e.merchantId ∧
      (newCase caseId identity event t).case.workflowType = e.workflowType ∧
      (newCase caseId identity event t).case.subjectType = e.subjectType := by
  intro e keyed
  unfold selectCaseIdentity at identified
  dsimp only at identified
  split at identified
  case h_4 => cases identified
  all_goals
    cases identified
    obtain ⟨reference, -, rfl⟩ := Option.map_eq_some_iff.mp keyed
    exact ⟨rfl, rfl, rfl⟩

theorem indexed_step (c : Command) (h : Indexed db) : Indexed (exec rt c db) := by
  cases c with
  | processEvent inputs m eventId caseId t =>
    refine Tx.commit_relates (R := fun _ d => Indexed d) h fun {res d} ran => ?_
    obtain ⟨event, known, processed⟩ := processEvent_processed ran
    cases processed with
    | audited undecided target steady linked => exact h.steady steady
    | heard identity row identified selected steady linked => exact h.steady steady
    | opened identity middle identified unknown created steady linked =>
      exact (h.created created (newCase_own identified)).steady steady
  | _ => exact h.steady (exec_steady rt db (by rintro _ _ _ _ _ ⟨⟩))

theorem indexed_invariant (reach : Reachable rt db) : Indexed db :=
  Runs.Reaches.invariant Indexed reach ⟨fun found => (by cases found), fun found => (by cases found)⟩
    fun c _ before _ => indexed_step c before

/-- An event that selects no case stands apart from all of them. -/
theorem unselected_alone (h : Indexed db) (keyed : Keyed db) (owner : event.merchantId = m)
    (identified : selectCaseIdentity event = some identity)
    (unknown : (findActiveCase m identity db).or (findEpisodeCase m identity db) = none) :
    (newCase caseId identity event t).Unrivalled db.cases := by
  obtain ⟨inactive, unepisoded⟩ := Option.or_eq_none_iff.mp unknown
  constructor
  · rintro r member ⟨merchant, workflow, type, subject, live⟩
    have absent := List.find?_eq_none.mp inactive r member
    simp only [decide_eq_true_eq] at absent
    exact absent ⟨merchant.trans owner, workflow, type, subject, live⟩
  · intro r member some_ same
    obtain ⟨e, key⟩ := Option.isSome_iff_exists.mp some_
    have own := newCase_own (t := t) identified e key
    have theirs := h.own (keyed.row member) (same.trans key)
    rw [findEpisodeCase, show identity.episodeKey = some e from key] at unepisoded
    have absent := List.find?_eq_none.mp unepisoded r member
    simp only [decide_eq_true_eq] at absent
    exact absent ⟨theirs.1.trans (own.1.symm.trans owner), theirs.2.1.trans own.2.1.symm, theirs.2.2.trans own.2.2.symm,
      same.trans key⟩

theorem processEvent_unindexed {e : Failure} (h : Indexed db) (keyed : Keyed db)
    (failed : (processEvent rt inputs m eventId caseId t).run db = .error e) : Unindexed e := by
  rcases Tx.bind_error failed with failed | ⟨routed, d, -, failed⟩
  · rcases Tx.bind_error failed with failed | ⟨_, d, locked, failed⟩
    · exact lockMerchant_unindexed _ _ _ failed
    obtain ⟨-, rfl⟩ := lockMerchant_effect locked
    rw [Tx.bind_of_ok (Tx.run_read _ _)] at failed
    rcases Tx.bind_error failed with failed | ⟨event, d, found, failed⟩
    · exact Tx.Fails.found (P := Unindexed) _ (e := .lookup _) rfl _ _ failed
    obtain ⟨known, rfl⟩ := Tx.found_ok found
    split at failed
    · exact linkAuditOnly_unindexed _ _ _ _ _ failed
    rename_i identity identified
    rw [Tx.bind_of_ok (Tx.run_read _ _)] at failed
    split at failed
    · exact linkAuditOnly_unindexed _ _ _ _ _ failed
    split at failed
    · rename_i unknown
      rcases Tx.bind_error failed with failed | ⟨policy, d, effective, failed⟩
      · exact effectivePolicy_unindexed _ _ _ _ failed
      obtain ⟨-, rfl⟩ := inForce_ok effective
      rcases Tx.bind_error failed with failed | ⟨_, d, -, failed⟩
      · exact createCase_unindexed (unselected_alone h keyed (event_merchant known).1 identified unknown) failed
      rcases Tx.bind_error failed with failed | ⟨link, d, -, failed⟩
      · exact linkEvidence_unindexed _ _ _ failed
      split at failed
      · exact proceed_unindexed _ _ _ _ _ _ _ failed
      · exact Tx.Fails.pure _ _ _ failed
    · split at failed
      · exact linkAuditOnly_unindexed _ _ _ _ _ failed
      · rcases Tx.bind_error failed with failed | ⟨policy, d, -, failed⟩
        · exact effectivePolicy_unindexed _ _ _ _ failed
        · exact updateCase_unindexed _ _ _ _ _ _ _ failed
  · exact finishRouting_unindexed _ _ _ _ _ failed

end indexes

section orders

/-- Every link of an order's event leads to the case that holds the order's key. -/
def OrdersMet (db : Database) : Prop := ∀ link ∈ db.caseEvents, ∀ event,
  db.event link.merchantId link.normalizedEventId = some event → ∀ order, event.NamesOrder order →
    ∃ k row, link.key = some k ∧ db.caseRow k = some row ∧ row.recoveryEpisodeKey = some (orderKey link.merchantId order)

/-- The event's case, once it is linked, holds the key of its order. -/
theorem Processed.met (keyed : Keyed db) (owner : event.merchantId = m) (h : Processed m caseId t event db db')
    (keeps : Table.lookup CaseEventRow.id (m, event.eventId) db.caseEvents = none → ∀ identity ∈ selectCaseIdentity event,
      ∀ row ∈ findActiveCase m identity db, row.recoveryEpisodeKey = identity.episodeKey)
    (named : event.NamesOrder order) : db'.caseEvents = db.caseEvents ∨ ∃ link k row, db'.caseEvents = db.caseEvents ++ [link] ∧
      link.merchantId = m ∧ link.normalizedEventId = event.eventId ∧ link.key = some k ∧ db'.caseRow k = some row ∧
      row.recoveryEpisodeKey = some (orderKey m order) := by
  obtain ⟨payment, expected⟩ := named_identity named
  rw [owner] at expected
  cases h with
  | audited undecided target steady linked =>
    have diagnosed := named.diagnosed
    rcases undecided with none | none
    · rw [none] at expected
      cases expected
    · rw [none] at diagnosed
      cases diagnosed
  | heard identity row identified selected steady linked =>
    rcases linked with same | ⟨fresh, disposition, reason, linked⟩
    · exact .inl same
    rw [owner] at fresh linked
    obtain ⟨member, mine⟩ := selected_mem selected
    have episode : row.recoveryEpisodeKey = some (orderKey m order) := by
      rw [identified] at expected
      have key : identity.episodeKey = some (orderKey m order) := congrArg CaseIdentity.episodeKey (Option.some.inj expected)
      rcases Option.or_eq_some_iff.mp selected with active | ⟨-, episode⟩
      · exact (keeps fresh identity identified row active).trans key
      · rw [findEpisodeCase, key] at episode
        have found := List.find?_some episode
        simp only [decide_eq_true_eq] at found
        exact found.2.2.2
    obtain ⟨row', stored, kept⟩ := steady.found (keyed.row member)
    exact .inr ⟨_, row.key, row', linked, rfl, rfl, by rw [← mine]; rfl, stored, kept.episode.trans episode⟩
  | opened identity middle identified unknown created steady linked =>
    rcases linked with same | ⟨fresh, disposition, reason, linked⟩
    · exact .inl same
    rw [owner] at linked
    obtain ⟨row', stored, kept⟩ := steady.found ((created_row created).mpr (.inr ⟨rfl, rfl⟩))
    rw [identified] at expected
    have key : identity.episodeKey = some (orderKey m order) := congrArg CaseIdentity.episodeKey (Option.some.inj expected)
    exact .inr ⟨_, _, row', linked, rfl, rfl, by rw [← owner]; rfl, stored, kept.episode.trans key⟩

theorem ordersMet_step (keyed : Keyed db) (known : LinksKnown db) (keeps : c.KeepsOrders db) (h : OrdersMet db) :
    OrdersMet (exec rt c db) := by
  obtain ⟨-, stored⟩ := exec_stores keyed rt c
  have old : ∀ link ∈ db.caseEvents, ∀ event, (exec rt c db).event link.merchantId link.normalizedEventId = some event →
      ∀ order, event.NamesOrder order → ∃ k row, link.key = some k ∧ (exec rt c db).caseRow k = some row ∧
        row.recoveryEpisodeKey = some (orderKey link.merchantId order) := by
    intro link member event here order named
    obtain ⟨-, first, there⟩ := known link member
    obtain rfl : first = event := Option.some.inj ((stored there).symm.trans here)
    obtain ⟨k, row, target, found, key⟩ := h link member first there order named
    obtain ⟨row', found', kept⟩ := exec_standing rt c db _ _ found
    exact ⟨k, row', target, found', kept.episode.trans key⟩
  intro link member event here order named
  obtain ⟨more, links, told⟩ := exec_links rt c db
  have either := member
  rw [links] at either
  rcases List.mem_append.mp either with before | new
  · exact old link before event here order named
  · have allowed := told link new
    cases c with
    | processEvent inputs m eventId caseId t =>
      cases ran : (processEvent rt inputs m eventId caseId t).run db with
      | error failure =>
        have same : exec rt (.processEvent inputs m eventId caseId t) db = db := Tx.commit_of_error ran
        rw [same] at member
        exact old link member event here order named
      | ok result =>
        have same : exec rt (.processEvent inputs m eventId caseId t) db = result.2 := Tx.commit_of_ok ran
        obtain ⟨first, there, processed⟩ := processEvent_processed (show (processEvent rt inputs m eventId caseId t).run db =
          .ok (result.1, result.2) from ran)
        have id := allowed.1
        simp only [CaseEventRow.id, Prod.mk.injEq] at id
        obtain ⟨owner, named_⟩ := event_merchant there
        obtain rfl : first = event := by
          rw [id.1, id.2] at here
          exact Option.some.inj ((stored there).symm.trans here)
        rw [same] at member ⊢
        rcases processed.met keyed owner (fun fresh => keeps (by rw [← named_]; exact fresh) first there order named.order
          named) named with unchanged | ⟨made, k, row, linked, merchant, -, target, found, key⟩
        · rw [unchanged] at member
          rw [← same]
          exact old link member first here order named
        · rw [linked] at member
          rcases List.mem_append.mp member with before | last
          · rw [← same]
            exact old link before first here order named
          · obtain rfl := List.mem_singleton.mp last
            exact ⟨k, row, target, found, by rw [merchant]; exact key⟩
    | _ => exact allowed.elim

theorem ordersMet_invariant (reach : ReachableUnder rt (fun c db => c.KeepsOrders db) db) : OrdersMet db := by
  have both := Runs.Reaches.invariant (fun db => Reachable rt db ∧ OrdersMet db) reach
    ⟨.start, List.forall_mem_nil _⟩ fun c db before keeps =>
      ⟨.step c before.1 trivial, ordersMet_step before.1.under.keyed (linksKnown_invariant before.1) keeps before.2⟩
  exact both.2

/-- The cases opened for an order. -/
def orderCases (m order : Identifier) (db : Database) : List CaseRow :=
  db.cases.filter fun r => decide (r.recoveryEpisodeKey = some (orderKey m order))

theorem mem_orderCases : row ∈ orderCases m order db ↔ row ∈ db.cases ∧ row.recoveryEpisodeKey = some (orderKey m order) := by
  simp [orderCases]

theorem orderCases_length (h : Indexed db) (keyed : Keyed db) (m order : Identifier) : (orderCases m order db).length ≤ 1 := by
  have distinct : (orderCases m order db).Nodup := (List.Nodup.of_map _ keyed.cases).filter _
  match cases : orderCases m order db with
  | [] => exact Nat.zero_le 1
  | [_] => exact le_refl 1
  | r :: r' :: rest =>
    rw [cases] at distinct
    obtain ⟨member, key⟩ := mem_orderCases.mp (show r ∈ orderCases m order db by rw [cases]; simp)
    obtain ⟨member', key'⟩ := mem_orderCases.mp (show r' ∈ orderCases m order db by rw [cases]; simp)
    have found := keyed.row member
    have found' : db.caseRow r'.key = some r' := keyed.row member'
    rw [← h.apart found found' (.inr ⟨_, key, key'⟩)] at found'
    have same : r = r' := Option.some.inj (found.symm.trans found')
    simp [same] at distinct

theorem selected_of_episode {e : EpisodeKey} (h : Indexed db) (keyed : Keyed db) (episode : identity.episodeKey = some e)
    (merchant : e.merchantId = m) (workflow : e.workflowType = identity.workflowType)
    (type : e.subjectType = identity.subjectType) (member : row ∈ db.cases) (key : row.recoveryEpisodeKey = some e) :
    (findActiveCase m identity db).or (findEpisodeCase m identity db) ≠ none := by
  intro unknown
  obtain ⟨-, absent⟩ := Option.or_eq_none_iff.mp unknown
  rw [findEpisodeCase, episode] at absent
  have other := List.find?_eq_none.mp absent row member
  simp only [decide_eq_true_eq] at other
  have own := h.own (keyed.row member) key
  exact other ⟨own.1.trans merchant, own.2.1.trans workflow, own.2.2.trans type, key⟩

/-- An event of an order that has a case opens none, whatever state that case is in. -/
theorem processEvent_opens_none (rt : Runtime) (inputs : EvaluationInputs) (caseId : Identifier) (t : Instant)
    (h : Indexed db) (keyed : Keyed db) (known : db.event m eventId = some event)
    (named : event.NamesOrder order) (held : orderCases m order db ≠ []) :
    Steady db (exec rt (.processEvent inputs m eventId caseId t) db) := by
  obtain ⟨row, here⟩ := List.exists_mem_of_ne_nil _ held
  obtain ⟨member, key⟩ := mem_orderCases.mp here
  refine Tx.commit_relates (R := fun _ d => Steady db d) (.of_cases rfl) fun {res d} ran => ?_
  obtain ⟨first, there, processed⟩ := processEvent_processed ran
  obtain rfl : first = event := Option.some.inj (there.symm.trans known)
  cases processed with
  | audited undecided target steady linked => exact steady
  | heard identity row identified selected steady linked => exact steady
  | opened identity middle identified unknown created steady linked =>
    obtain ⟨payment, expected⟩ := named_identity named
    rw [(event_merchant known).1, identified, Option.some.injEq] at expected
    subst expected
    exact absurd unknown (selected_of_episode h keyed rfl rfl rfl rfl member key)

theorem one_case_per_order (reach : ReachableUnder rt (fun c db => c.KeepsOrders db) db) (m order : Identifier) :
    (∀ link ∈ db.caseEvents, ∀ event, link.merchantId = m → db.event m link.normalizedEventId = some event →
      event.NamesOrder order → ∃ row, orderCases m order db = [row] ∧ link.key = some row.key) ∧
    (orderCases m order db).length ≤ 1 ∧
    (∀ inputs eventId caseId t event, db.event m eventId = some event → event.NamesOrder order →
      orderCases m order db ≠ [] → ∀ k, db.caseRow k = none →
        (exec rt (.processEvent inputs m eventId caseId t) db).caseRow k = none) ∧
    (∀ row ∈ db.cases, ∀ row' ∈ db.cases, row.Rivals row' → row = row') ∧
    ∀ inputs eventId caseId t e, (processEvent rt inputs m eventId caseId t).run db = .error e → Unindexed e := by
  have keyed := reach.reachable.under.keyed
  have indexed := indexed_invariant reach.reachable
  have most := orderCases_length indexed keyed m order
  refine ⟨fun link member event owner known named => ?_, most, fun inputs eventId caseId t event known named held k absent => ?_,
    fun row member row' member' rivals => ?_, fun inputs eventId caseId t e => processEvent_unindexed indexed keyed⟩
  · subst owner
    obtain ⟨k, row, target, found, key⟩ := ordersMet_invariant reach link member event known order named
    have here : row ∈ orderCases link.merchantId order db := mem_orderCases.mpr ⟨Table.lookup_mem found, key⟩
    obtain ⟨single, alone⟩ := List.length_eq_one_iff.mp (le_antisymm most (List.length_pos_of_mem here))
    rw [alone, List.mem_singleton] at here
    subst here
    exact ⟨row, alone, by rw [target, show row.key = k from Table.lookup_key found]⟩
  · have steady := processEvent_opens_none rt inputs caseId t indexed keyed known named held
    cases found : (exec rt (.processEvent inputs m eventId caseId t) db).caseRow k with
    | none => rfl
    | some row =>
      obtain ⟨before, there, -⟩ := steady.back found
      rw [absent] at there
      cases there
  · have found := keyed.row member
    have found' : db.caseRow row'.key = some row' := keyed.row member'
    rw [← indexed.apart found found' rivals] at found'
    exact Option.some.inj (found.symm.trans found')

end orders

section runs

def ordered (event payment order : Identifier) (at_ : Instant) : NormalizedEvent :=
  { issuerDown event payment at_ with orderId := some order, subject := by rfl }

/-- Two payments of one order fail. -/
def twoPayments : List Command :=
  [.registerMerchant acme, .publishPolicy acme retriesOnly] ++
    ingested (ordered (ident "event-1") (ident "pay-1") (ident "order-1") 5) ++
    [.processEvent (drawn "receipt-1") acme (ident "event-1") (ident "case-1") 10] ++
    ingested (ordered (ident "event-2") (ident "pay-2") (ident "order-1") 15) ++
    [.processEvent (drawn "receipt-2") acme (ident "event-2") (ident "case-2") 20]

set_option maxRecDepth 100000 in
theorem one_case_per_order_two_payments : ∃ link ∈ (execAll {} twoPayments {}).caseEvents,
    link.normalizedEventId = ident "event-2" ∧ ∃ row, orderCases acme (ident "order-1") (execAll {} twoPayments {}) = [row] ∧
      link.key = some row.key := by
  have linked : ∃ link ∈ (execAll {} twoPayments {}).caseEvents, link.merchantId = acme ∧
      link.normalizedEventId = ident "event-2" ∧
      ∃ event ∈ (execAll {} twoPayments {}).event acme link.normalizedEventId, event.NamesOrder (ident "order-1") := by
    decide +kernel
  obtain ⟨link, member, owner, second, event, known, named⟩ := linked
  exact ⟨link, member, second, (one_case_per_order (Runs.reaches_allowed (by decide +kernel)) acme (ident "order-1")).1
    link member event owner known named⟩

/-- The first failure of an order does not name it, and a second payment of the order fails. -/
def orderNamedLate : List Command :=
  [.registerMerchant acme, .publishPolicy acme retriesOnly] ++
    ingested (issuerDown (ident "event-1") (ident "pay-1") 5) ++
    [.processEvent (drawn "receipt-1") acme (ident "event-1") (ident "case-1") 10] ++
    ingested (ordered (ident "event-2") (ident "pay-1") (ident "order-1") 15) ++
    [.processEvent (drawn "receipt-2") acme (ident "event-2") (ident "case-2") 20] ++
    ingested (ordered (ident "event-3") (ident "pay-2") (ident "order-1") 25) ++
    [.processEvent (drawn "receipt-3") acme (ident "event-3") (ident "case-3") 30]

set_option maxRecDepth 100000 in
theorem order_in_two_cases : ¬ ∀ (rt : Runtime) (db : Database), Reachable rt db → ∀ (m order : Identifier),
    ∀ link ∈ db.caseEvents, ∀ link' ∈ db.caseEvents, ∀ event ∈ db.event m link.normalizedEventId,
    ∀ event' ∈ db.event m link'.normalizedEventId, link.merchantId = m → link'.merchantId = m →
      event.NamesOrder order → event'.NamesOrder order → link.key = link'.key := by
  intro one
  have split : ∃ link ∈ (execAll {} orderNamedLate {}).caseEvents, ∃ link' ∈ (execAll {} orderNamedLate {}).caseEvents,
      ∃ event ∈ (execAll {} orderNamedLate {}).event acme link.normalizedEventId,
      ∃ event' ∈ (execAll {} orderNamedLate {}).event acme link'.normalizedEventId,
        (link.merchantId = acme ∧ link'.merchantId = acme) ∧
        (event.NamesOrder (ident "order-1") ∧ event'.NamesOrder (ident "order-1")) ∧ link.key ≠ link'.key := by
    decide +kernel
  obtain ⟨link, member, link', member', event, known, event', known', owner, named, apart⟩ := split
  exact apart (one {} _ (reachable_execAll {} orderNamedLate) acme (ident "order-1") link member link' member' event known
    event' known' owner.1 owner.2 named.1 named.2)

end runs

end RevenueGuard
