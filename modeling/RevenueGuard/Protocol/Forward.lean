import RevenueGuard.Protocol.Simulation

/-
When a transition commits: the version is the stored one, the edge is legal, the
time does not run backwards, and the texts fit.
-/
namespace RevenueGuard

variable {db db' : Database} {case updated : RecoveryCase} {action : ActionRow} {s : CaseState} {t : Instant}

/-- The store holds this case at this version. -/
def Current (case : RecoveryCase) (db : Database) : Prop :=
  ∃ row, db.caseRow case.key = some row ∧ row.case.state = case.state ∧ row.case.stateVersion = case.stateVersion

theorem current_of {k : CaseKey} (h : db.caseOf k = some case) : Current case db := by
  obtain ⟨row, found, rfl, here⟩ := caseOf_row h
  exact ⟨row, by rw [show row.case.key = k from here]; exact found, rfl, rfl⟩

/-- A case taken to `s` at `t`, nothing but its row and its history touched. -/
structure Moves (case updated : RecoveryCase) (s : CaseState) (t : Instant) (db db' : Database) : Prop where
  anchor : updated.anchor = case.anchor
  state : updated.state = s
  time : updated.updatedAt = t
  current : Current updated db'
  others : ∃ cases ts, db' = { db with cases := cases, transitions := ts }

theorem Moves.key (h : Moves case updated s t db db') : updated.key = case.key := key_of_anchor h.anchor

theorem Moves.reviews (h : Moves case updated s t db db') : db'.reviews = db.reviews := by
  obtain ⟨_, _, rfl⟩ := h.others
  rfl

theorem Moves.outcomes (h : Moves case updated s t db db') : db'.outcomes = db.outcomes := by
  obtain ⟨_, _, rfl⟩ := h.others
  rfl

theorem Moves.actions (h : Moves case updated s t db db') : db'.actions = db.actions := by
  obtain ⟨_, _, rfl⟩ := h.others
  rfl

theorem require_of {c : Prop} [Decidable c] {e : Failure} (h : c) : require c e = .ok () := if_pos h

theorem legal_of {t : Transition} (h : t.Legal case) : t.legal case case.stateVersion = .ok () := by
  simp only [Transition.legal, require_of, canTransition, decide_eq_true_eq, h.edge, h.time, decide_true]
  rw [require_of h.terminalReason, require_of h.noTerminalReason, require_of h.evidence]
  rfl

structure Transition.Sized (t : Transition) : Prop where
  terminalReason : ∀ s ∈ t.terminalReason, s.length ≤ 256
  actor : t.actor ≠ "" ∧ t.actor.length ≤ 128
  reasonCode : t.reasonCode ≠ "" ∧ t.reasonCode.length ≤ 128
  reasonDetail : ∀ s ∈ t.reasonDetail, s.length ≤ 2000
  reference : ∀ s ∈ t.authoritativeEvidenceReference, s.length ≤ 512

theorem wellSized_of {t : Transition} (h : t.Sized) : t.wellSized = .ok () := by
  unfold Transition.wellSized
  rw [require_of h.terminalReason, require_of h.actor, require_of h.reasonCode, require_of h.reasonDetail,
    require_of h.reference]
  rfl

theorem applyTransition_run {change : CaseTransition} (e : Option NormalizedEvent)
    (stored : ∃ r ∈ db.caseRow ⟨change.merchantId, change.caseId⟩, r.case.state = change.beforeState ∧
      r.case.stateVersion = change.beforeVersion) :
    (applyTransition updated change e).run db = .ok ((), { db with
      cases := Table.update CaseRow.key ⟨change.merchantId, change.caseId⟩ (fun r => r.apply updated e) db.cases
      transitions := db.transitions ++ [change] }) :=
  (Tx.bind_of_ok rfl).trans ((Tx.bind_of_ok (Tx.check_of stored)).trans rfl)

theorem recoveryTransition_run {t : Transition} (current : Current case db) (legal : t.Legal case) (sized : t.Sized)
    (d : Option Diagnosis) (e : Option NormalizedEvent) (retry : Bool) : ∃ updated db',
      (recoveryTransition case t d e retry).run db = .ok (updated, db') ∧
        Moves case updated t.toState t.occurredAt db db' := by
  obtain ⟨row, found, state, version⟩ := current
  have decided : transitionCase case case.stateVersion t = .ok (case.moved t, case.transition t) := by
    unfold transitionCase
    rw [legal_of legal, wellSized_of sized]
    rfl
  obtain ⟨anchor, after, time⟩ := settled_case case t d retry
  have ran : (recoveryTransition case t d e retry).run db = .ok (((case.moved t).withDiagnosis d).countRetry retry,
      { db with
        cases := Table.update CaseRow.key case.key (fun r => r.apply (((case.moved t).withDiagnosis d).countRetry retry) e)
          db.cases
        transitions := db.transitions ++ [case.transition t] }) := by
    unfold recoveryTransition
    rw [decided]
    exact (Tx.bind_of_ok rfl).trans ((Tx.bind_of_ok (applyTransition_run e ⟨row, found, state, version⟩)).trans rfl)
  refine ⟨_, _, ran, anchor, after, time, ?_, _, _, rfl⟩
  refine ⟨row.apply (((case.moved t).withDiagnosis d).countRetry retry) e, ?_, rfl, rfl⟩
  rw [key_of_anchor anchor]
  exact (Table.lookup_update_self (keepsKey_apply _ _ e) db.cases).trans (by rw [← Database.caseRow, found]; rfl)

/-- Where an executor's transition can take the case. -/
theorem executionTransition_run {reason : String} {reference terminal : Option String} (current : Current case db)
    (edge : s ∈ allowedTransitions case.state) (time : case.updatedAt ≤ t) (reasonOk : reason ≠ "" ∧ reason.length ≤ 128)
    (ends : s.Terminal → blank terminal = false) (lives : ¬ s.Terminal → terminal = none)
    (terminalOk : ∀ x ∈ terminal, x.length ≤ 256) (evidence : s = .recovered → blank reference = false)
    (referenceOk : ∀ x ∈ reference, x.length ≤ 512) (wake : Option Instant) (version : Identifier) : ∃ updated db',
      (executionTransition case action s reason t reference terminal wake version).run db = .ok (updated, db') ∧
        Moves case updated s t db db' := by
  refine recoveryTransition_run current ⟨edge, time, ends, lives, evidence⟩ ⟨terminalOk, ?_, reasonOk, ?_, referenceOk⟩
    none none false
  · dsimp only
    split <;> decide
  · intro x none
    cases none

/-- A move that ends nothing and rests on no evidence. -/
theorem executionTransition_live {reason : String} (current : Current case db) (edge : s ∈ allowedTransitions case.state)
    (live : ¬ s.Terminal) (unrecovered : s ≠ .recovered) (time : case.updatedAt ≤ t)
    (reasonOk : reason ≠ "" ∧ reason.length ≤ 128) (wake : Option Instant) (version : Identifier) : ∃ updated db',
      (executionTransition case action s reason t none none wake version).run db = .ok (updated, db') ∧
        Moves case updated s t db db' :=
  executionTransition_run current edge time reasonOk (fun ended => absurd ended live) (fun _ => rfl)
    (fun x none => by cases none) (fun recovered => absurd recovered unrecovered) (fun x none => by cases none) wake version

end RevenueGuard
