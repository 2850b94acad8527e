import Mathlib.Logic.Function.Iterate
import RevenueGuard.Protocol.Deadlines
import RevenueGuard.Safety.Approvals
import RevenueGuard.Safety.OneContact

/-
The contact lock of a customer: an open intervention waits for an action whose
outcome is awaited, or known, and then it is closed after its cooldown. A contact
that is given up without an answer keeps its customer locked.
-/
namespace RevenueGuard

variable {rt : Runtime} {db d db' : Database} {r : EvaluationRequest} {a : Assessment} {inputs : EvaluationInputs}
  {res : RecoveryServiceResult} {t : Instant} {m : Identifier}

/-- No candidate is a promise reminder: these are authorized apart from the evaluations. -/
def Diagnosis.Plain (d : Diagnosis) : Prop := ∀ c ∈ d.candidates, c.actionType ≠ .schedulePromiseReminder

section diagnoses

theorem diagnosisEntry_plain {category : NormalizedFailureCategory} {entry : DiagnosisEntry}
    (h : diagnosisEntry category = some entry) : entry.templates.1.actionType ≠ .schedulePromiseReminder ∧
      entry.templates.2.actionType ≠ .schedulePromiseReminder := by
  cases category <;> simp only [diagnosisEntry, Option.some.injEq, reduceCtorEq] at h <;> subst h <;> decide

theorem diagnoseEvent_plain {event : RevenueRiskEvent} {d : Diagnosis} (h : diagnoseEvent event = some d) : d.Plain := by
  unfold diagnoseEvent at h
  split at h
  · cases h
    intro c hc
    simp only [overdueDiagnosis, List.mem_cons, List.not_mem_nil, or_false] at hc
    rcases hc with rfl | rfl | rfl <;> simp [eventNoAction, noActionCandidate]
  · split at h
    · cases h
    · cases h
      intro c hc
      simp only [disputeDiagnosis, List.mem_cons, List.not_mem_nil, or_false] at hc
      rcases hc with rfl | rfl <;> simp [eventNoAction, noActionCandidate, stopCandidate]
    · obtain ⟨entry, found, rfl⟩ := Option.map_eq_some_iff.mp h
      obtain ⟨first, second⟩ := diagnosisEntry_plain found
      intro c hc
      simp only [DiagnosisEntry.diagnosis, List.mem_cons, List.not_mem_nil, or_false] at hc
      rcases hc with rfl | rfl | rfl
      · exact first
      · exact second
      · simp [eventNoAction, noActionCandidate]

theorem noActionDiagnosis_plain (case : RecoveryCase) : (noActionDiagnosis case).Plain := by
  intro c hc
  simp only [noActionDiagnosis, List.mem_singleton] at hc
  subst hc
  simp [noActionCandidate]

theorem proceed_diagnosis {case : RecoveryCase} {diagnosis : Diagnosis} {event : NormalizedEvent}
    {policy : MerchantPolicySnapshot}
    (h : (proceedToEvaluation case diagnosis event policy t).run db = .ok (.evaluate r, db')) : r.diagnosis = diagnosis := by
  obtain ⟨_, _, -, h⟩ := Tx.bind_ok h
  split at h
  · cases (Tx.pure_ok h).1
  · cases (Tx.pure_ok h).1
    rfl

theorem linkAuditOnly_done {event : NormalizedEvent} {row : Option CaseRow} {reason : String} :
    (linkAuditOnly event row reason).run db ≠ .ok (.evaluate r, db') := by
  intro h
  obtain ⟨_, _, -, h⟩ := Tx.bind_ok h
  cases (Tx.pure_ok h).1

theorem routeEvent_diagnosed {eventId caseId : Identifier}
    (h : (routeEvent m eventId caseId t).run db = .ok (.evaluate r, db')) :
    ∃ event : NormalizedEvent, diagnoseEvent event = some r.diagnosis := by
  obtain ⟨_, _, -, h⟩ := Tx.bind_ok h
  obtain ⟨_, _, -, h⟩ := Tx.bind_ok h
  obtain ⟨event, _, -, h⟩ := Tx.bind_ok h
  split at h
  · exact absurd h linkAuditOnly_done
  obtain ⟨_, _, -, h⟩ := Tx.bind_ok h
  split at h
  · exact absurd h linkAuditOnly_done
  rename_i diagnosis diagnosed
  refine ⟨event, ?_⟩
  split at h
  · obtain ⟨_, _, -, h⟩ := Tx.bind_ok h
    obtain ⟨_, _, -, h⟩ := Tx.bind_ok h
    obtain ⟨_, _, -, h⟩ := Tx.bind_ok h
    split at h
    · rw [proceed_diagnosis h, diagnosed]
    · cases (Tx.pure_ok h).1
  · split at h
    · exact absurd h linkAuditOnly_done
    obtain ⟨_, _, -, h⟩ := Tx.bind_ok h
    obtain ⟨_, _, -, h⟩ := Tx.bind_ok h
    obtain ⟨_, _, -, h⟩ := Tx.bind_ok h
    split at h
    · cases (Tx.pure_ok h).1
    split at h
    · cases (Tx.pure_ok h).1
    obtain ⟨_, _, -, h⟩ := Tx.bind_ok h
    rw [proceed_diagnosis h, diagnosed]

theorem wakeDeferred_diagnosed {row : CaseRow} (h : (wakeDeferred t row).run db = .ok (r, db')) :
    diagnoseEvent r.event = some r.diagnosis := by
  obtain ⟨_, _, -, h⟩ := Tx.bind_ok h
  obtain ⟨_, _, -, h⟩ := Tx.bind_ok h
  obtain ⟨event, _, -, h⟩ := Tx.bind_ok h
  obtain ⟨_, _, diagnosed, h⟩ := Tx.bind_ok h
  obtain ⟨_, _, -, h⟩ := Tx.bind_ok h
  obtain ⟨_, _, -, h⟩ := Tx.bind_ok h
  obtain ⟨_, _, -, h⟩ := Tx.bind_ok h
  obtain ⟨rfl, -⟩ := Tx.pure_ok h
  exact (Tx.found_ok diagnosed).1

theorem routeReview_plain {decision : HumanReviewDecision}
    (h : (routeReview m decision t).run db = .ok (.evaluate r, db')) : r.diagnosis.Plain := by
  have unrouted {case : RecoveryCase} {decided : HumanReviewRequest} {policy : MerchantPolicySnapshot} {reason : String}
      {s : Database} : (stopReviewed case reason decision policy t decided).run s ≠ .ok (.evaluate r, db') := by
    intro stop
    obtain ⟨_, _, -, stop⟩ := Tx.bind_ok stop
    obtain ⟨_, _, -, stop⟩ := Tx.bind_ok stop
    cases (Tx.pure_ok stop).1
  obtain ⟨_, _, -, h⟩ := Tx.bind_ok h
  obtain ⟨_, _, -, h⟩ := Tx.bind_ok h
  obtain ⟨_, _, -, h⟩ := Tx.bind_ok h
  obtain ⟨_, _, -, h⟩ := Tx.bind_ok h
  obtain ⟨case, _, -, h⟩ := Tx.bind_ok h
  obtain ⟨_, _, -, h⟩ := Tx.bind_ok h
  split at h
  · obtain ⟨_, _, -, h⟩ := Tx.bind_ok h
    exact absurd h unrouted
  obtain ⟨_, _, -, h⟩ := Tx.bind_ok h
  split at h
  · exact absurd h unrouted
  obtain ⟨_, _, -, h⟩ := Tx.bind_ok h
  obtain ⟨_, _, -, h⟩ := Tx.bind_ok h
  obtain ⟨_, _, -, h⟩ := Tx.bind_ok h
  obtain ⟨_, _, -, h⟩ := Tx.bind_ok h
  obtain ⟨event, _, -, h⟩ := Tx.bind_ok h
  obtain ⟨_, _, -, h⟩ := Tx.bind_ok h
  cases (Tx.pure_ok h).1
  cases known : diagnoseEvent event with
  | none => exact noActionDiagnosis_plain case
  | some d => exact diagnoseEvent_plain known

theorem Requested.plain (h : Requested r db) : r.diagnosis.Plain := by
  cases h with
  | event h =>
    obtain ⟨event, diagnosed⟩ := routeEvent_diagnosed h
    exact diagnoseEvent_plain diagnosed
  | deferred h => exact diagnoseEvent_plain (wakeDeferred_diagnosed h)
  | review h => exact routeReview_plain h

end diagnoses

/-- Every contact has an intervention, a customer one open at a time, and an open one a followed action. -/
structure Locks (db : Database) : Prop where
  attended : ∀ {id a}, db.action id = some a → id.Covered → ∃ i ∈ db.interventions, i.actionId = id ∧ i.merchantId = id.merchantId
  single : ∀ i ∈ db.interventions, ∀ j ∈ db.interventions, i.status = .active → j.status = .active →
    i.merchantId = j.merchantId → i.customerId = j.customerId → i.core = j.core
  held : ∀ i ∈ db.interventions, i.status = .active → ∃ a, db.action i.actionId = some a ∧ a.Followed

section invariant

theorem Locks.aside {spent begun given : ActionIdentity → Prop} (h : Locks db) (apart : Aside spent begun db db')
    (follows : Follows given db db') (kept : ∀ i ∈ db.interventions, i.status = .active → ¬ given i.actionId) : Locks db' := by
  constructor
  · intro id a found covered
    cases before : db.action id with
    | none => exact absurd (apart.added found before).1 covered.2
    | some old =>
      obtain ⟨i, member, action, merchant⟩ := h.attended before covered
      obtain ⟨j, member', same⟩ := apart.forth member
      simp only [InterventionRow.core, Prod.mk.injEq] at same
      exact ⟨j, member', same.2.2.1.trans action, same.1.trans merchant⟩
  · intro i member j member' active active' merchant customer
    obtain ⟨i0, here, same⟩ := apart.back member
    obtain ⟨j0, here', same'⟩ := apart.back member'
    rw [← same, ← same']
    simp only [InterventionRow.core, Prod.mk.injEq] at same same'
    exact h.single i0 here j0 here' (same.2.2.2.1.trans active) (same'.2.2.2.1.trans active')
      (same.1.trans (merchant.trans same'.1.symm)) (same.2.1.trans (customer.trans same'.2.1.symm))
  · intro i member active
    obtain ⟨i0, here, same⟩ := apart.back member
    simp only [InterventionRow.core, Prod.mk.injEq] at same
    have active0 := same.2.2.2.1.trans active
    obtain ⟨a, found, followed⟩ := h.held i0 here active0
    rw [← same.2.2.1]
    exact follows.stays found (kept i0 here active0) followed

theorem Locks.spared (h : Locks db) (spared : Spared db db') : Locks db' := by
  have apart : Aside (fun _ => False) (fun _ => False) db db' := spared.aside
  have follows : Follows (fun _ => False) db db' := .of_actions spared.actions
  exact h.aside apart follows fun _ _ _ => id

/-- An evaluation authorizes one action, and opens an intervention for it alone. -/
theorem Locks.authorize {identity : ActionIdentity} {i : InterventionRow} (h : Locks db)
    (kept : ∀ {id a}, db.action id = some a → db'.action id = some a)
    (added : ∀ {id a}, db'.action id = some a → db.action id = none → id = identity)
    (rows : db'.interventions = db.interventions ∨ db'.interventions = db.interventions ++ [i] ∧
      (∀ j ∈ db.interventions, j.status = .active → j.merchantId = i.merchantId → j.customerId ≠ i.customerId) ∧
      ∃ a, db'.action i.actionId = some a ∧ a.Followed)
    (covers : identity.Covered → ∃ j ∈ db'.interventions, j.actionId = identity ∧ j.merchantId = identity.merchantId) :
    Locks db' := by
  have more : ∀ j ∈ db.interventions, j ∈ db'.interventions := by
    intro j member
    rcases rows with same | ⟨same, -⟩
    · rw [same]
      exact member
    · rw [same]
      exact List.mem_append_left _ member
  have old : ∀ j ∈ db'.interventions, j ∈ db.interventions ∨ j = i ∧
      (∀ j ∈ db.interventions, j.status = .active → j.merchantId = i.merchantId → j.customerId ≠ i.customerId) ∧
      ∃ a, db'.action i.actionId = some a ∧ a.Followed := by
    intro j member
    rcases rows with same | ⟨same, alone⟩
    · rw [same] at member
      exact .inl member
    · rw [same, List.mem_append, List.mem_singleton] at member
      exact member.imp id fun new => ⟨new, alone⟩
  constructor
  · intro id a found covered
    cases before : db.action id with
    | none =>
      obtain rfl := added found before
      exact covers covered
    | some a' =>
      obtain ⟨j, member, rest⟩ := h.attended before covered
      exact ⟨j, more j member, rest⟩
  · intro j member k member' active active' merchant customer
    rcases old j member with here | ⟨rfl, alone, -⟩
    · rcases old k member' with here' | ⟨rfl, alone, -⟩
      · exact h.single j here k here' active active' merchant customer
      · exact absurd customer (alone j here active merchant)
    · rcases old k member' with here' | ⟨rfl, -, -⟩
      · exact absurd customer.symm (alone k here' active' merchant.symm)
      · rfl
  · intro j member active
    rcases old j member with here | ⟨rfl, -, followed⟩
    · obtain ⟨a, found, followed⟩ := h.held j here active
      exact ⟨a, kept found, followed⟩
    · exact followed

theorem storeAction_fresh {action : RecoveryAction} {version : Identifier} {n : Nat} {deadline : Instant} {row : ActionRow}
    (absent : db.action action.identity = none) (h : (storeAction action version n deadline).run db = .ok (row, db')) :
    db'.action action.identity = some (.ofAction action version n deadline) := by
  obtain ⟨-, ⟨stored, -⟩ | ⟨-, rfl, rfl⟩⟩ := storeAction_ok h
  · exact absurd (absent.symm.trans stored) (by simp)
  · rw [Database.action, Table.lookup_append, ← Database.action, absent, Option.none_or]
    exact if_pos rfl

theorem storeAuthorizedAction_locks {ids : List Identifier} {action : RecoveryAction} {u : Unit}
    (merchant : action.identity.merchantId = r.case.merchantId) (pending : action.status = .pending)
    (contact : action.identity.actionType.actionClass = .customerContact →
      action.identity.actionType ≠ .schedulePromiseReminder ∧ r.case.customerId.isSome = true)
    (h : (storeAuthorizedAction r ids action).run db = .ok (u, db')) (before : Locks db) : Locks db' := by
  obtain ⟨row, d, stored, h⟩ := Tx.bind_ok h
  obtain ⟨rows, kept, added⟩ := storeAction_added stored
  have only : ∀ {id a}, d.action id = some a → db.action id = none → id = action.identity := fun found absent =>
    (added found absent).1
  cases named : r.case.customerId with
  | none =>
    rw [named] at h
    obtain ⟨-, rfl⟩ := Tx.pure_ok h
    refine before.authorize (i := customerIntervention r action.identity.caseId action ids) kept only (.inl rows)
      fun covered => ?_
    have known := (contact covered.1).2
    rw [named] at known
    cases known
  | some customer =>
    rw [named] at h
    dsimp only at h
    split at h
    · rename_i isContact
      rcases storeCustomerIntervention_ok h with ⟨rfl, j, member, action_, merchant_, -⟩ | ⟨rfl, alone, unattended⟩
      · exact before.authorize (i := customerIntervention r customer action ids) kept only (.inl rows) fun _ =>
          ⟨j, member, action_, merchant_.trans merchant.symm⟩
      · rw [rows] at alone unattended
        have absent : db.action action.identity = none := by
          cases there : db.action action.identity with
          | none => rfl
          | some old =>
            obtain ⟨j, member, same, tenant⟩ := before.attended there ⟨isContact, (contact isContact).1⟩
            exact absurd same (unattended j member (tenant.trans merchant))
        have fresh := storeAction_fresh absent stored
        refine before.authorize (i := customerIntervention r customer action ids) kept only
          (.inr ⟨by rw [rows], alone, _, fresh, .inl ⟨rfl, .inl pending⟩⟩) fun _ =>
            ⟨_, List.mem_append_right _ (List.mem_singleton_self _), rfl, merchant.symm⟩
    · rename_i apart
      obtain ⟨-, rfl⟩ := Tx.pure_ok h
      exact before.authorize (i := customerIntervention r customer action ids) kept only (.inl rows) fun covered =>
        absurd covered.1 apart

/-- What an evaluation proposes is no promise reminder. -/
theorem assessCase_plain (plain : r.diagnosis.Plain) (h : (assessCase rt inputs r).run db = .ok (a, db'))
    (proceeds : a.decision.result = .proceed) : a.decision.selectedAction.actionType ≠ .schedulePromiseReminder := by
  cases assessCase_ok h with
  | ran checking d1 contact_ candidates consent unknownEquivalent moved facts noted listed types decided =>
    have authorized := evaluatePolicy_proceed decided proceeds
    have selected : a.decision.selectedAction ∈ a.candidates := by
      rw [← listed]
      exact authorized.selected
    rcases types _ selected with idle | ⟨c, member, same⟩
    · exact absurd idle authorized.ordinary
    · rw [← same]
      exact plain c member

theorem evaluateCase_locks (requested : Requested r db) (h : (evaluateCase rt inputs r).run db = .ok (res, db'))
    (before : Locks db) : Locks db' := by
  obtain ⟨t, current⟩ := requested.current
  obtain ⟨a, d, assess, h⟩ := Tx.bind_ok h
  have key := (assessCase_wrote current assess).1.key
  have locks := before.spared (assessCase_spared _ _ _ _ _ assess)
  obtain ⟨_, d1, reviewed, h⟩ := Tx.bind_ok h
  obtain ⟨decided, d2, transition, h⟩ := Tx.bind_ok h
  obtain ⟨_, d3, receipted, h⟩ := Tx.bind_ok h
  obtain ⟨_, d4, acted, h⟩ := Tx.bind_ok h
  obtain ⟨-, rfl⟩ := Tx.pure_ok h
  have locks := ((locks.spared (storeReviewIfAny_spared _ _ _ _ reviewed)).spared
    (recoveryTransition_spared _ _ _ _ _ _ _ _ transition)).spared (storeReceipt_spared _ _ _ _ receipted)
  have place : decided.key = r.case.key := by
    obtain ⟨rfl, -, -⟩ := recoveryTransition_ran transition
    exact (key_of_anchor (settle_anchor _ _ _ _)).trans key
  cases made : buildAction decided a.decision (.generated inputs.receiptId) r.evaluatedAt a.activeCaseIds with
  | none =>
    rw [made] at acted
    obtain ⟨-, rfl⟩ := Tx.pure_ok acted
    exact locks
  | some action =>
    rw [made] at acted
    unfold buildAction at made
    split at made
    · cases made
    rename_i open_
    push Not at open_
    cases made
    exact storeAuthorizedAction_locks (congrArg CaseKey.merchantId place) rfl (fun contact =>
      ⟨assessCase_plain requested.plain assess open_.1, assessCase_known assess open_.1 contact⟩) acted locks

theorem finishRouting_locks {routed : Routed} (requested : ∀ r, routed = .evaluate r → Requested r db)
    (h : (finishRouting rt inputs routed).run db = .ok (res, db')) (before : Locks db) : Locks db' := by
  cases routed with
  | done result =>
    obtain ⟨-, rfl⟩ := Tx.pure_ok h
    exact before
  | evaluate r => exact evaluateCase_locks (requested r rfl) h before

theorem processEvent_locks {eventId caseId : Identifier}
    (h : (processEvent rt inputs m eventId caseId t).run db = .ok (res, db')) (before : Locks db) : Locks db' := by
  obtain ⟨routed, d, route, finish⟩ := Tx.bind_ok h
  refine finishRouting_locks (fun r same => ?_) finish (before.spared (routeEvent_spared _ _ _ _ _ _ _ route))
  subst same
  exact .event route

theorem decideReview_locks {decision : HumanReviewDecision}
    (h : (decideReviewRequest rt inputs m decision t).run db = .ok (res, db')) (before : Locks db) : Locks db' := by
  obtain ⟨routed, d, route, finish⟩ := Tx.bind_ok h
  refine finishRouting_locks (fun r same => ?_) finish (before.spared (routeReview_spared _ _ _ _ _ _ route))
  subst same
  exact .review route

theorem reevaluateRows_locks {inputs : CaseKey → EvaluationInputs} {rows : List CaseRow} {out : List RecoveryServiceResult}
    (h : (Tx.each (reevaluateRow rt inputs t) rows).run db = .ok (out, db')) (before : Locks db) : Locks db' := by
  induction rows generalizing db out with
  | nil =>
    obtain ⟨-, rfl⟩ := Tx.pure_ok h
    exact before
  | cons row rest ih =>
    obtain ⟨_, d, first, h⟩ := Tx.bind_ok h
    obtain ⟨_, e, later, h⟩ := Tx.bind_ok h
    obtain ⟨-, rfl⟩ := Tx.pure_ok h
    obtain ⟨request, d0, wake, evaluate⟩ := Tx.bind_ok first
    exact ih later (evaluateCase_locks (.deferred wake) evaluate (before.spared (wakeDeferred_spared _ _ _ _ _ wake)))

theorem reevaluateDeferred_locks {inputs : CaseKey → EvaluationInputs} {limit : Nat} {out : List RecoveryServiceResult}
    (h : (reevaluateDeferred rt inputs t limit).run db = .ok (out, db')) (before : Locks db) : Locks db' := by
  obtain ⟨_, _, checked, h⟩ := Tx.bind_ok h
  obtain ⟨-, rfl⟩ := Tx.check_ok checked
  obtain ⟨_, _, read, h⟩ := Tx.bind_ok h
  obtain ⟨-, rfl⟩ := Tx.read_ok read
  exact reevaluateRows_locks h before

end invariant

section closing

variable {dueAt : Instant} {limit : Nat}

/-- Due to be closed: the contact is answered and its cooldown over. -/
def InterventionRow.Closable (i : InterventionRow) (dueAt : Instant) (db : Database) : Prop :=
  i.status = .active ∧ i.cooldownUntil ≤ dueAt ∧ ∃ a ∈ db.action i.actionId, a.Answered

instance (i : InterventionRow) (dueAt : Instant) (db : Database) : Decidable (i.Closable dueAt db) := by
  unfold InterventionRow.Closable
  infer_instance

def Database.closable (dueAt : Instant) (db : Database) : Nat := db.interventions.countP fun i => decide (i.Closable dueAt db)

/-- One tick closes rows that are due, and at least one while any is. -/
structure Ticked (dueAt : Instant) (db db' : Database) : Prop where
  actions : db'.actions = db.actions
  closes : ∀ i ∈ db'.interventions, i.status = .active → i ∈ db.interventions
  fewer : db'.closable dueAt ≤ db.closable dueAt - 1

theorem closable_congr (actions : db'.actions = db.actions) (i : InterventionRow) :
    i.Closable dueAt db' ↔ i.Closable dueAt db := by
  unfold InterventionRow.Closable Database.action
  rw [actions]

theorem closable_iff (i : InterventionRow) : (i.status = .active ∧ i.cooldownUntil ≤ dueAt ∧
    ((Table.lookup ActionRow.id i.actionId db.actions).map (·.status) = some .succeeded ∨
      (Table.lookup ActionRow.id i.actionId db.actions).map (·.status) = some .failed)) ↔ i.Closable dueAt db := by
  unfold InterventionRow.Closable Database.action ActionRow.Answered
  cases Table.lookup ActionRow.id i.actionId db.actions with
  | none => simp
  | some a => simp

/-- The rows one tick closes: due ones, and some while any is due. -/
theorem closeExpired_run (rt : Runtime) (dueAt : Instant) (positive : 0 < limit) (db : Database) : ∃ (rows : List InterventionRow)
    (close : InterventionRow → InterventionRow), (∀ i ∈ rows, i ∈ db.interventions ∧ i.Closable dueAt db) ∧
      (0 < db.closable dueAt → rows ≠ []) ∧
      (∀ i, (close i).status = .closed ∧ (close i).actionId = i.actionId ∧ (close i).merchantId = i.merchantId) ∧
      (closeExpiredCustomerInterventions rt dueAt limit).run db = .ok (rows.length,
        { db with interventions := db.interventions.map fun i => if i ∈ rows then close i else i }) := by
  refine ⟨_, _, ?_, ?_, ?_, (Tx.bind_of_ok (Tx.check_of positive)).trans ((Tx.bind_of_ok rfl).trans
    ((Tx.bind_of_ok rfl).trans rfl))⟩
  · intro i member
    obtain ⟨here, due⟩ := List.mem_filter.mp ((List.mem_insertionSort _).mp (List.mem_of_mem_take member))
    exact ⟨here, (closable_iff i).mp (of_decide_eq_true due)⟩
  · intro any none_
    obtain ⟨i, member, due⟩ := List.countP_pos_iff.mp any
    rcases List.take_eq_nil_iff.mp none_ with empty | empty
    · omega
    · exact List.eq_nil_iff_forall_not_mem.mp empty i ((List.mem_insertionSort _).mpr (List.mem_filter.mpr ⟨member,
        decide_eq_true ((closable_iff i).mpr (of_decide_eq_true due))⟩))
  · intro i
    exact ⟨rfl, rfl, rfl⟩

theorem closeExpired_ticks (rt : Runtime) (dueAt : Instant) (positive : 0 < limit) (db : Database) :
    Ticked dueAt db (exec rt (.closeExpiredCustomerInterventions dueAt limit) db) := by
  obtain ⟨rows, close, due, some_, closed, ran⟩ := closeExpired_run rt dueAt positive db
  rw [show exec rt (.closeExpiredCustomerInterventions dueAt limit) db = _ from Tx.commit_of_ok ran]
  constructor
  · rfl
  · intro i member active
    obtain ⟨j, here, rfl⟩ := List.mem_map.mp member
    split at active
    · rw [(closed j).1] at active
      cases active
    · rename_i open_
      rw [if_neg open_]
      exact here
  · have same : ∀ i : InterventionRow, i.Closable dueAt { db with
        interventions := db.interventions.map fun i => if i ∈ rows then close i else i } ↔ i.Closable dueAt db :=
      closable_congr rfl
    simp only [Database.closable, same]
    by_cases any : 0 < db.closable dueAt
    · obtain ⟨i, member⟩ := List.exists_mem_of_ne_nil rows (some_ any)
      obtain ⟨here, isDue⟩ := due i member
      have shut : ∀ a, decide ((close a).Closable dueAt db) = false := by
        intro a
        simp [InterventionRow.Closable, (closed a).1]
      have fewer := Table.countP_closed (p := fun i => decide (i.Closable dueAt db)) shut rows db.interventions
        ⟨i, here, decide_eq_true isDue, member⟩
      omega
    · have none_ : rows = [] := by
        by_contra some
        obtain ⟨i, member⟩ := List.exists_mem_of_ne_nil rows some
        obtain ⟨here, isDue⟩ := due i member
        exact any (List.countP_pos_iff.mpr ⟨i, here, decide_eq_true isDue⟩)
      subst none_
      unfold Database.closable at any
      simp only [List.not_mem_nil, if_false, List.map_id']
      omega

/-- After as many ticks as there are interventions, none is due any more. -/
theorem ticks_close (rt : Runtime) (dueAt : Instant) (positive : 0 < limit) (n : Nat) (db : Database) :
    let d := (exec rt (.closeExpiredCustomerInterventions dueAt limit))^[n] db
    d.actions = db.actions ∧ (∀ i ∈ d.interventions, i.status = .active → i ∈ db.interventions) ∧
      d.closable dueAt ≤ db.closable dueAt - n := by
  induction n generalizing db with
  | zero => exact ⟨rfl, fun _ member _ => member, Nat.le_refl _⟩
  | succ n ih =>
    have tick := closeExpired_ticks rt dueAt positive db
    obtain ⟨actions, closes, fewer⟩ := ih (exec rt (.closeExpiredCustomerInterventions dueAt limit) db)
    rw [Function.iterate_succ_apply]
    refine ⟨actions.trans tick.actions, fun i member active => tick.closes i (closes i member active) active, ?_⟩
    have now := tick.fewer
    omega

end closing

section runs

/-- The command gives up no contact that holds an open intervention. -/
def Command.KeepsLock (c : Command) (db : Database) : Prop :=
  ∀ i ∈ db.interventions, i.status = .active → ¬ c.GivesUp db i.actionId

instance (c : Command) (db : Database) (id : ActionIdentity) : Decidable (c.GivesUp db id) :=
  match c with
  | .recordExecutionResult .. => by unfold Command.GivesUp; infer_instance
  | .recordLookup .. => by unfold Command.GivesUp; infer_instance
  | .registerMerchant .. | .upsertCustomer .. | .upsertPayment .. | .upsertSubscription ..
  | .persistNormalizedEvent .. | .putMerchantRow .. | .publishPolicy .. | .applyDegradationAssessment ..
  | .processEvent .. | .reevaluateDeferred .. | .decideReview .. | .closeExpiredCustomerInterventions ..
  | .recordOverdueInvoice .. | .recordCustomerResponse .. | .scheduleDuePromiseReminders ..
  | .escalateBrokenPromises .. | .claimDueActions .. | .prepareExecution .. | .markStaleCallsUnknown ..
  | .verifySignedEvent .. => isFalse not_false

instance (c : Command) (db : Database) : Decidable (c.KeepsLock db) := by
  unfold Command.KeepsLock
  infer_instance

theorem closeExpired_locks {dueAt : Instant} {limit : Nat} (before : Locks db) :
    Locks (exec rt (.closeExpiredCustomerInterventions dueAt limit) db) := by
  by_cases positive : 0 < limit
  · obtain ⟨rows, close, -, -, closed, ran⟩ := closeExpired_run rt dueAt positive db
    rw [show exec rt (.closeExpiredCustomerInterventions dueAt limit) db = _ from Tx.commit_of_ok ran]
    have old : ∀ i ∈ db.interventions.map (fun i => if i ∈ rows then close i else i), i.status = .active →
        i ∈ db.interventions := by
      intro i member active
      obtain ⟨j, here, rfl⟩ := List.mem_map.mp member
      split at active
      · rw [(closed j).1] at active
        cases active
      · rename_i open_
        rw [if_neg open_]
        exact here
    constructor
    · intro id a found covered
      obtain ⟨i, member, action, merchant⟩ := before.attended found covered
      refine ⟨_, List.mem_map_of_mem member, ?_⟩
      split
      · exact ⟨(closed i).2.1.trans action, (closed i).2.2.trans merchant⟩
      · exact ⟨action, merchant⟩
    · intro i member j member' active active'
      exact before.single i (old i member active) j (old j member' active') active active'
    · intro i member active
      exact before.held i (old i member active) active
  · have failed : exec rt (.closeExpiredCustomerInterventions dueAt limit) db = db :=
      Tx.commit_of_error (Tx.bind_of_error (by rw [Tx.run_check, if_neg positive]))
    rw [failed]
    exact before

theorem locks_step {c : Command} (ids : ∀ a ∈ db.actions, db.action a.id = some a) (careful : c.KeepsLock db)
    (before : Locks db) : Locks (exec rt c db) := by
  cases c with
  | processEvent inputs m eventId caseId t =>
    exact Tx.commit_relates (R := fun d e => Locks d → Locks e) id processEvent_locks before
  | reevaluateDeferred inputs t limit =>
    exact Tx.commit_relates (R := fun d e => Locks d → Locks e) id reevaluateDeferred_locks before
  | decideReview inputs m decision t =>
    exact Tx.commit_relates (R := fun d e => Locks d → Locks e) id decideReview_locks before
  | closeExpiredCustomerInterventions dueAt limit => exact closeExpired_locks before
  | _ => exact before.aside (exec_aside _ db fun contacts => contacts) (exec_follows _ db (fun evaluates => evaluates) ids) careful

theorem locks_invariant (reach : ReachableUnder rt Command.KeepsLock db) : Locks db := by
  have invariant := Runs.Reaches.invariant (fun db => Reachable rt db ∧ Locks db) reach ⟨.start, by
    refine ⟨fun {id a} found => ?_, fun i member => ?_, fun i member => ?_⟩
    · cases found
    · cases member
    · cases member⟩ fun c d before careful => ⟨.step c before.1 trivial, locks_step before.1.actions_found careful before.2⟩
  exact invariant.2

/-- No contact lock is leaked: an open intervention waits for an action that is awaited or answered, and once it is not
awaited any more, ticks past the cooldown free the customer. -/
structure Unleaked (rt : Runtime) (db : Database) : Prop where
  held : ∀ i ∈ db.interventions, i.status = .active → ∃ a ∈ db.action i.actionId, a.Awaited ∨ a.Answered
  released : ∀ i ∈ db.interventions, i.status = .active → ∀ a ∈ db.action i.actionId, ¬ a.Awaited →
    ∀ dueAt limit, i.cooldownUntil ≤ dueAt → 0 < limit → ((exec rt (.closeExpiredCustomerInterventions dueAt limit))^[
      db.interventions.length] db).activeIntervention i.merchantId i.customerId = none

theorem contact_lock_released (reach : ReachableUnder rt Command.KeepsLock db) : Unleaked rt db := by
  have locks := locks_invariant reach
  refine ⟨locks.held, fun i member active a found over_ dueAt limit cooled positive => ?_⟩
  obtain ⟨a', found', followed⟩ := locks.held i member active
  obtain rfl : a = a' := Option.some.inj (found.symm.trans found')
  have answered : a.Answered := followed.resolve_left over_
  obtain ⟨actions, closes, fewer⟩ := ticks_close rt dueAt positive db.interventions.length db
  have bounded : db.closable dueAt ≤ db.interventions.length := List.countP_le_length
  rw [Database.activeIntervention, List.find?_eq_none]
  intro j later same
  simp only [decide_eq_true_eq] at same
  obtain ⟨merchant, customer, open_⟩ := same
  have cores := locks.single i member j (closes j later open_) active open_ merchant.symm customer.symm
  simp only [InterventionRow.core, Prod.mk.injEq] at cores
  have due : 0 < Database.closable dueAt ((exec rt (.closeExpiredCustomerInterventions dueAt limit))^[
      db.interventions.length] db) := by
    refine List.countP_pos_iff.mpr ⟨j, later, decide_eq_true ⟨open_, ?_, a, ?_, answered⟩⟩
    · rw [← cores.2.2.2.2.1]
      exact cooled
    · rw [← cores.2.2.1, Database.action, actions]
      exact found
  omega

set_option maxRecDepth 100000 in
theorem contact_lock_released_contacted : Unleaked {} (execAll {} contactedAgain {}) :=
  contact_lock_released (Runs.reaches_allowed (by decide +kernel))

/-- A contact whose outcome nobody learns until its deadline. -/
def contactGivenUp : List Command :=
  reachable1 ++ ingested (cardOfCustomer (ident "event-1") (ident "pay-1") 5) ++
    [.processEvent (drawn "receipt-1") acme (ident "event-1") (ident "case-1") 3600000010,
    .claimDueActions (fun _ => "lease-1") 3600000020 1000 5, .prepareExecution update1 "lease-1" 3600000025,
    .recordExecutionResult update1 "lease-1" { acceptedLink with
      status := .unknown, observedAt := 3600000030, settled := by decide, unknown_final := by decide },
    .recordLookup update1 (lookedUp .unknown false 7200000100)]

set_option maxRecDepth 100000 in
theorem contact_lock_leaked : ¬ ∀ (rt : Runtime) (db : Database), Reachable rt db → ∀ i ∈ db.interventions,
    i.status = .active → ∃ a ∈ db.action i.actionId, a.Awaited ∨ a.Answered := by
  intro held
  have leaked : ∃ i ∈ (execAll {} contactGivenUp {}).interventions, i.status = .active ∧
      ∀ a ∈ (execAll {} contactGivenUp {}).action i.actionId, ¬ (a.Awaited ∨ a.Answered) := by decide +kernel
  obtain ⟨i, member, active, given⟩ := leaked
  obtain ⟨a, found, followed⟩ := held {} _ (reachable_execAll {} contactGivenUp) i member active
  exact given a found followed

end runs

end RevenueGuard
