import RevenueGuard.Services.Receivables
import RevenueGuard.Domain.Decisions
import RevenueGuard.Protocol.Changes

/-
Promise reminders as steps of the protocol.
-/
namespace RevenueGuard

variable {db db' : Database} {rt : Runtime} {excluded : Kind → Prop} {t : Instant} {promise : PromiseRow}

theorem updatePromises_unseen {p : PromiseRow → Bool} {f : PromiseRow → PromiseRow} (keeps : ∀ r, (f r).key = r.key) :
    Unseen db (updatePromises p f db) := by
  refine ⟨fun _ => rfl, rfl, rfl, rfl, rfl, rfl, rfl, rfl, ?_, id, id⟩
  simp only [updatePromises, List.map_map]
  refine List.map_congr_left fun r _ => ?_
  by_cases h : p r <;> simp [h, keeps]

theorem markPromiseReminderScheduled_unseen {id : ActionIdentity} {u : Unit}
    (h : (markPromiseReminderScheduled promise id t).run db = .ok (u, db')) : Unseen db db' := by
  obtain ⟨rows, _, read, h⟩ := Tx.bind_ok h
  obtain ⟨-, rfl⟩ := Tx.read_ok read
  obtain ⟨_, _, checked, h⟩ := Tx.bind_ok h
  obtain ⟨-, rfl⟩ := Tx.check_ok checked
  rw [Tx.write_ok h]
  exact updatePromises_unseen fun _ => rfl

theorem rescheduleIfDeferred_unseen {wake : Option Instant} {u : Unit}
    (h : (rescheduleIfDeferred promise wake).run db = .ok (u, db')) : Unseen db db' := by
  cases wake with
  | none =>
    obtain ⟨-, rfl⟩ := Tx.pure_ok h
    exact .refl _
  | some at_ =>
    rw [Tx.write_ok h]
    exact updatePromises_unseen fun _ => rfl

theorem playbookTransition_passed {case moved : RecoveryCase} {s : CaseState} {reason : String} {version : Identifier}
    {terminal : Option String} {wake : Option Instant} (tracked : Tracks case db)
    (h : (playbookTransition case s reason version t terminal wake).run db = .ok (moved, db')) :
    s ∈ allowedTransitions case.state ∧ moved.state = s ∧ Passed case moved db db' :=
  have transited := recoveryTransition_effect h
  ⟨transited.legal, transited.state, transited.passed tracked⟩

/-- A promised case at its reminder's policy check. -/
structure ReminderChecked (promise : PromiseRow) (a : ReminderAssessment) (db db' : Database) : Prop where
  key : a.checking.key = promise.key
  tracks : Tracks a.checking db'
  state : a.checking.state = .policyCheck
  isLocal : Local promise.key db db'
  decided : a.decision.resultingState = stateFor a.decision.result
  effect : ∃ row row', (view promise.key db).row = some row ∧ row.case.state = .decisionPending ∧
    row.Moved .policyCheck row' ∧ view promise.key db' = { view promise.key db with row := some row' }

theorem reminderDue_prepared (excluded : Kind → Prop) {case pending : RecoveryCase} {version : Identifier} (tracked : Tracks case db)
    (h : (if case.state = .deferred ∨ case.state = .verifying then
      playbookTransition case .decisionPending "PROMISE_REMINDER_DUE" version t else pure case).run db
      = .ok (pending, db')) :
    Passed case pending db db' ∧ Step excluded db db' := by
  split at h
  · rename_i waiting
    obtain ⟨-, target, passed⟩ := playbookTransition_passed tracked h
    refine ⟨passed, .ofLocal passed.isLocal ?_⟩
    obtain ⟨row, row', present, same, moved, seen⟩ := passed.effect
    rw [seen]
    refine .prepared row row' pending.state present ?_ (by simp [target]) moved
    rw [same]
    rcases waiting with e | e <;> simp [e]
  · obtain ⟨rfl, rfl⟩ := Tx.pure_ok h
    exact ⟨.refl tracked, .ofUnseen (.refl _)⟩

theorem assessReminder_effect (excluded : Kind → Prop) {found : Option ReminderAssessment}
    (h : (assessReminder rt t promise).run db = .ok (found, db')) :
    ∃ middle, Step excluded db middle ∧ (view promise.key middle).actions = (view promise.key db).actions ∧
      (found = none ∧ middle = db' ∨ ∃ a, found = some a ∧ ReminderChecked promise a middle db') := by
  unfold assessReminder at h
  obtain ⟨_, _, read, h⟩ := Tx.bind_ok h
  obtain ⟨rfl, rfl⟩ := Tx.read_ok read
  obtain ⟨case, _, found, h⟩ := Tx.bind_ok h
  obtain ⟨stored, rfl⟩ := Tx.found_ok found
  obtain ⟨caseKey, tracked⟩ := tracks_caseOf stored
  change case.key = promise.key at caseKey
  obtain ⟨policy, d1, effective, h⟩ := Tx.bind_ok h
  obtain ⟨-, same⟩ := effectivePolicy_effect effective
  subst same
  dsimp only at h
  rw [Tx.ite_bind] at h
  obtain ⟨pending, d2, prepare, h⟩ := Tx.bind_ok h
  obtain ⟨passed, step⟩ := reminderDue_prepared excluded tracked prepare
  have key : pending.key = promise.key := passed.key.trans caseKey
  have actions : (view promise.key d2).actions = (view promise.key db).actions := by
    obtain ⟨_, _, -, -, -, seen⟩ := passed.effect
    rw [caseKey] at seen
    rw [seen]
  refine ⟨d2, step, actions, ?_⟩
  split at h
  · obtain ⟨rfl, rfl⟩ := Tx.pure_ok h
    exact .inl ⟨rfl, rfl⟩
  rename_i ready
  have ready := not_not.mp ready
  obtain ⟨checking, d3, check, h⟩ := Tx.bind_ok h
  obtain ⟨-, target, passed'⟩ := playbookTransition_passed passed.tracks check
  obtain ⟨_, _, read, h⟩ := Tx.bind_ok h
  obtain ⟨rfl, rfl⟩ := Tx.read_ok read
  obtain ⟨incidents, d4, attached, h⟩ := Tx.bind_ok h
  obtain ⟨candidates, _, lifted, h⟩ := Tx.bind_ok h
  obtain ⟨-, rfl⟩ := Tx.lift_ok lifted
  obtain ⟨decision, _, lifted, h⟩ := Tx.bind_ok h
  obtain ⟨decided, rfl⟩ := Tx.lift_ok lifted
  obtain ⟨rfl, rfl⟩ := Tx.pure_ok h
  obtain ⟨row, row1, present, same, moved, seen⟩ := passed'.effect
  have checkLocal := passed'.isLocal
  have checkingKey : checking.key = promise.key := passed'.key.trans key
  rw [key] at present seen checkLocal
  have here : (⟨promise.merchantId, checking.caseId⟩ : CaseKey) = promise.key := by
    rw [PromiseRow.key, show checking.caseId = promise.caseId from congrArg CaseKey.caseId checkingKey]
  rw [here] at attached
  obtain ⟨-, attachLocal, row2, attachedRow, attachSeen⟩ := activeIncidents_effect (by rw [seen]) attached
  rw [target] at moved
  have row_moved := moved.trans attachedRow
  rw [moved.state] at row_moved
  refine .inr ⟨_, rfl, checkingKey, ?_, target, checkLocal.trans attachLocal, evaluatePolicy_state decided, row, row2,
    present, same.trans ready, row_moved, by rw [attachSeen, seen]⟩
  obtain ⟨row1', here1, anchor, state⟩ := passed'.tracks
  rw [checkingKey, seen] at here1
  cases here1
  exact ⟨row2, by change (view checking.key d4).row = _; rw [checkingKey, attachSeen], by
    change row2.case.anchor = _; rw [attachedRow.anchor, anchor], by rw [attachedRow.state, state]⟩

/-- A reminder that neither lands on a stored action nor asks for a human. -/
def ReminderAvoids (rt : Runtime) (excluded : Kind → Prop) (t : Instant) (promise : PromiseRow) (db : Database) : Prop :=
  (assessReminder rt t promise).After (fun assessed _ => ∀ a ∈ assessed,
    (excluded .reusedKey → a.decision.result = .proceed → db.action (reminderIdentity promise promise.caseId) = none) ∧
    (excluded .unreviewedReminder → a.decision.result ≠ .requireHuman)) db

instance [DecidablePred excluded] (t : Instant) (promise : PromiseRow) (db : Database) :
    Decidable (ReminderAvoids rt excluded t promise db) := inferInstanceAs (Decidable (Tx.After _ _ _))

theorem decideReminder_step {a : ReminderAssessment} {middle : Database} {out : PromiseMaintenanceResult}
    (checked : ReminderChecked promise a db middle) (promised : PromisedCase promise.key db)
    (fresh : excluded .reusedKey → a.decision.result = .proceed →
      db.action (reminderIdentity promise promise.caseId) = none)
    (reviewed : excluded .unreviewedReminder → a.decision.result ≠ .requireHuman)
    (h : (decideReminder t promise a).run middle = .ok (out, db')) : Step excluded db db' := by
  unfold decideReminder at h
  obtain ⟨decided, d1, transition, h⟩ := Tx.bind_ok h
  obtain ⟨-, target, passed⟩ := playbookTransition_passed checked.tracks transition
  dsimp only at h
  obtain ⟨_, d2, receipted, h⟩ := Tx.bind_ok h
  have caseId : a.checking.caseId = promise.caseId := congrArg CaseKey.caseId checked.key
  obtain ⟨receipt, receiptKey, receiptResult, receiptLocal, receiptSeen⟩ : ∃ receipt : ReceiptRow,
      receipt.key = promise.key ∧ receipt.policyResult = a.decision.result ∧ Local promise.key d1 d2 ∧
        view promise.key d2 = { view promise.key d1 with receipts := (view promise.key d1).receipts ++ [receipt] } := by
    refine ⟨_, ?_, ?_, storeReceipt_effect ?_ receipted⟩
    · simp [ReceiptRow.key, PromiseRow.key, caseId]
    · rfl
    · simp [ReceiptRow.key, PromiseRow.key, caseId]
  obtain ⟨row, row1, present, pending, toCheck, seen⟩ := checked.effect
  obtain ⟨row1', row', present', -, moved, movedSeen⟩ := passed.effect
  have movedLocal := passed.isLocal
  rw [checked.key] at present' movedSeen movedLocal
  rw [seen] at present' movedSeen
  cases present'
  rw [movedSeen] at receiptSeen
  rw [target, checked.decided] at moved
  have moves := toCheck.trans moved
  have soFar := (checked.isLocal.trans movedLocal).trans receiptLocal
  by_cases proceeds : a.decision.result = .proceed
  · simp only [proceeds, if_true] at h
    obtain ⟨_, d3, acted, h⟩ := Tx.bind_ok h
    obtain ⟨_, d4, marked, h⟩ := Tx.bind_ok h
    obtain ⟨-, rfl⟩ := Tx.pure_ok h
    have unseen := markPromiseReminderScheduled_unseen marked
    have identity : (reminderAction promise a.checking.caseId t).identity = reminderIdentity promise promise.caseId := by
      simp [reminderAction, caseId]
    have here : (reminderIdentity promise promise.caseId).key = promise.key := rfl
    rw [proceeds] at moves
    have before : d2.action (reminderIdentity promise promise.caseId) =
        db.action (reminderIdentity promise promise.caseId) := by
      rw [action_of_view, action_of_view, here, receiptSeen]
    obtain ⟨-, ⟨stored, rfl⟩ | ⟨absent, rfl, isLocal, actionSeen⟩⟩ := storeAction_effect acted
    · rw [identity, before] at stored
      refine .ofLocal (soFar.trans (unseen.local _)) ?_
      rw [unseen.same, receiptSeen]
      exact .reauthorized row row' receipt (fun ex => by rw [fresh ex proceeds] at stored; cases stored) present pending
        moves receiptKey (.inr promised)
    · rw [identity, here] at isLocal actionSeen
      rw [identity, before] at absent
      refine .ofLocal ((soFar.trans isLocal).trans (unseen.local _)) ?_
      rw [unseen.same, actionSeen, receiptSeen]
      refine .authorized row row' receipt _ _ _ present pending moves receiptKey (by rw [identity]; rfl) rfl
        (le_refl _) (by rw [identity]; exact fun h => by cases h <;> contradiction) (fun x member same => ?_) (.inr promised)
      rw [identity] at same
      exact Table.lookup_none.mp absent x (Table.mem_select.mp member).1 same
  · simp only [proceeds, if_false] at h
    obtain ⟨_, d3, rescheduled, h⟩ := Tx.bind_ok h
    obtain ⟨-, rfl⟩ := Tx.pure_ok h
    have unseen := rescheduleIfDeferred_unseen rescheduled
    refine .ofLocal (soFar.trans (unseen.local _)) ?_
    rw [unseen.same, receiptSeen]
    have refused : receipt.policyResult ≠ .proceed := by rw [receiptResult]; exact proceeds
    by_cases human : a.decision.result = .requireHuman
    · rw [human] at moves
      exact .unreviewed row row' receipt (fun ex => reviewed ex human) present pending moves receiptKey refused
    · have settles : Settles promise.key (stateFor a.decision.result) [] := by
        refine .inl ⟨?_, rfl⟩
        revert proceeds human
        cases a.decision.result <;> simp [stateFor]
      have change : Change excluded db promise.key (view promise.key db)
          { view promise.key db with
            row := some row', reviews := (view promise.key db).reviews ++ []
            receipts := (view promise.key db).receipts ++ [receipt] } :=
        .decided row row' _ receipt [] present pending moves settles receiptKey refused
      rw [List.append_nil] at change
      exact change

theorem remindPromise_steps {out : PromiseMaintenanceResult} (promised : PromisedCase promise.key db)
    (avoids : ReminderAvoids rt excluded t promise db) (h : (remindPromise rt t promise).run db = .ok (out, db')) :
    Steps excluded db db' := by
  obtain ⟨found, d1, assess, h⟩ := Tx.bind_ok h
  obtain ⟨middle, step, actions, ⟨rfl, rfl⟩ | ⟨a, rfl, checked⟩⟩ := assessReminder_effect excluded assess
  · obtain ⟨-, rfl⟩ := Tx.pure_ok h
    exact .single step
  · refine (Steps.single step).trans (.single (decideReminder_step checked ?_ (fun ex proceeds => ?_) (fun ex => ?_) h))
    · rw [PromisedCase, step.kept.promises]
      exact promised
    · have absent := (avoids _ d1 assess a rfl).1 ex proceeds
      rw [action_of_view] at absent ⊢
      rw [show (reminderIdentity promise promise.caseId).key = promise.key from rfl] at absent ⊢
      rw [actions]
      exact absent
    · exact (avoids _ d1 assess a rfl).2 ex

theorem scheduleDuePromiseReminders_steps {limit : Nat} {out : List PromiseMaintenanceResult}
    (avoids : Tx.Along (remindPromise rt t) (ReminderAvoids rt excluded t)
      (duePromises rt (·.reminderAt) (reminderDue t) limit db) db)
    (h : (scheduleDuePromiseReminders rt t limit).run db = .ok (out, db')) : Steps excluded db db' := by
  obtain ⟨_, _, checked, h⟩ := Tx.bind_ok h
  obtain ⟨-, rfl⟩ := Tx.check_ok checked
  obtain ⟨_, _, read, h⟩ := Tx.bind_ok h
  obtain ⟨rfl, rfl⟩ := Tx.read_ok read
  have promised : ∀ p ∈ duePromises rt (·.reminderAt) (reminderDue t) limit db, PromisedCase p.key db := by
    intro p member
    have stored := (List.mem_insertionSort _).mp (List.mem_of_mem_take member)
    exact List.mem_map_of_mem (List.mem_filter.mp stored).1
  have along := Tx.Along.and (Q := fun p s => PromisedCase p.key s) (fun avoids here ran c there => by
    rw [PromisedCase, (remindPromise_steps here avoids ran).kept.promises]
    exact there) promised avoids
  exact Tx.each_along .refl .trans (fun both ran => remindPromise_steps both.2 both.1 ran) along h

end RevenueGuard
