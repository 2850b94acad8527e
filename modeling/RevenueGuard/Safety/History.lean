import RevenueGuard.Protocol.Ledger
import RevenueGuard.Safety.Recovered

/-
The history of a case. Its stored transitions are one path of the state machine
from DETECTED at version 1 to where its row stands, an ended case stays where it
ended, and of two writers from one version only the first succeeds.
-/
namespace RevenueGuard

variable {rt : Runtime} {w : Writer} {db db' d e : Database} {k : CaseKey} {row row' : CaseRow}

/-- Transitions that lead from one state and version to another, each from where the last one ended. -/
def Path : CaseState → Nat → List CaseTransition → CaseState → Nat → Prop
  | s, n, [], s', n' => s' = s ∧ n' = n
  | s, n, t :: rest, s', n' => t.beforeState = s ∧ t.beforeVersion = n ∧ t.afterState ∈ allowedTransitions s ∧
      t.afterVersion = n + 1 ∧ Path t.afterState (n + 1) rest s' n'

theorem Path.append {s s' : CaseState} {n n' : Nat} {ts : List CaseTransition} {t : CaseTransition}
    (path : Path s n ts s' n') (state : t.beforeState = s') (version : t.beforeVersion = n')
    (edge : t.afterState ∈ allowedTransitions s') (after : t.afterVersion = n' + 1) :
    Path s n (ts ++ [t]) t.afterState (n' + 1) := by
  induction ts generalizing s n with
  | nil =>
    obtain ⟨rfl, rfl⟩ := path
    exact ⟨state, version, edge, after, rfl, rfl⟩
  | cons first rest ih =>
    obtain ⟨fromState, fromVersion, firstEdge, firstAfter, rest⟩ := path
    exact ⟨fromState, fromVersion, firstEdge, firstAfter, ih rest⟩

/-- The versions of a path count up by one from the first. -/
theorem Path.versions {s s' : CaseState} {n n' : Nat} {ts : List CaseTransition} (path : Path s n ts s' n') :
    ts.map (·.afterVersion) = List.range' (n + 1) ts.length ∧ n' = n + ts.length := by
  induction ts generalizing s n with
  | nil => exact ⟨rfl, path.2⟩
  | cons first rest ih =>
    obtain ⟨-, -, -, after, rest⟩ := path
    obtain ⟨versions, last⟩ := ih rest
    refine ⟨?_, by rw [last, List.length_cons]; omega⟩
    rw [List.map_cons, List.length_cons, List.range'_succ, versions, after]

/-- What the store says about a case, row and transitions together. -/
structure LegalHistory (row : CaseRow) (ts : List CaseTransition) : Prop where
  path : Path .detected 1 ts row.case.state row.case.stateVersion
  versions : ts.map (·.afterVersion) = List.range' 2 ts.length
  reason : row.case.state.Terminal → blank row.case.terminalReason = false
  evidence : ∀ t ∈ ts, t.afterState = .recovered → blank t.authoritativeEvidenceReference = false

def Accounted : Option CaseRow → List CaseTransition → Prop
  | none, ts => ts = []
  | some row, ts => LegalHistory row ts

theorem state_of_ledger {ledger : CaseLedger} (h : row.case.ledger = ledger) : row.case.state = ledger.state :=
  congrArg CaseLedger.state h

theorem version_of_ledger {ledger : CaseLedger} (h : row.case.ledger = ledger) : row.case.stateVersion = ledger.stateVersion :=
  congrArg CaseLedger.stateVersion h

theorem reason_of_ledger {ledger : CaseLedger} (h : row.case.ledger = ledger) :
    row.case.terminalReason = ledger.terminalReason := congrArg CaseLedger.terminalReason h

/-- A row with the same state, version and reason has the same history. -/
theorem LegalHistory.same {ts : List CaseTransition} (h : LegalHistory row ts) (state : row'.case.state = row.case.state)
    (version : row'.case.stateVersion = row.case.stateVersion) (reason : row'.case.terminalReason = row.case.terminalReason) :
    LegalHistory row' ts := by
  refine ⟨?_, h.versions, ?_, h.evidence⟩
  · rw [state, version]
    exact h.path
  · rw [state, reason]
    exact h.reason

theorem LegalHistory.extend {ts : List CaseTransition} {t : Transition} (h : LegalHistory row ts) (legal : t.Legal row.case)
    (state : row'.case.state = t.toState) (version : row'.case.stateVersion = row.case.stateVersion + 1)
    (reason : row'.case.terminalReason = t.terminalReason) : LegalHistory row' (ts ++ [row.case.transition t]) := by
  have path := h.path.append (t := row.case.transition t) rfl rfl legal.edge rfl
  refine ⟨?_, path.versions.1, ?_, fun change member recovered => ?_⟩
  · rw [state, version]
    exact path
  · rw [state, reason]
    exact legal.terminalReason
  · rcases List.mem_append.mp member with old | new
    · exact h.evidence change old recovered
    · rw [List.mem_singleton] at new
      subst new
      exact legal.evidence recovered

theorem CaseStep.accounted {found found' : Option CaseRow} {ts new : List CaseTransition}
    (h : CaseStep w db k found found' new) (before : Accounted found ts) : Accounted found' (ts ++ new) := by
  cases h with
  | absent => simpa [Accounted] using before
  | created row event here fresh =>
    have nothing : ts = [] := before
    subst nothing
    refine ⟨⟨fresh.state, fresh.version⟩, rfl, fun ended => ?_, fun t none => by cases none⟩
    rw [fresh.state] at ended
    exact absurd ended (by decide)
  | kept row row' stamped punctual =>
    rw [List.append_nil]
    have ledger := stamped.ledger
    exact LegalHistory.same before (state_of_ledger ledger) (version_of_ledger ledger) (reason_of_ledger ledger)
  | moved row row' t e retry legal instant heard below ledger =>
    exact LegalHistory.extend before legal (state_of_ledger ledger) (version_of_ledger ledger) (reason_of_ledger ledger)
  | counted row row' retry contact one timely retries contacts ledger =>
    rw [List.append_nil]
    exact LegalHistory.same before (state_of_ledger ledger) (version_of_ledger ledger) (reason_of_ledger ledger)

theorem history_step (k : CaseKey) (c : Command) (h : Accounted (db.caseRow k) (history k db)) :
    Accounted ((exec rt c db).caseRow k) (history k (exec rt c db)) := by
  rcases exec_writes rt c db with writes | reported
  · refine writes.keeps (fun d => Accounted (d.caseRow k) (history k d)) h fun write before => ?_
    obtain ⟨new, extended, step⟩ := write.caseStep k
    rw [extended]
    exact step.accounted before
  · rw [reported.caseRow, reported.sameHistory]
    exact h

theorem history_invariant (reach : Reachable rt db) (k : CaseKey) : Accounted (db.caseRow k) (history k db) :=
  Runs.Reaches.invariant (fun db => Accounted (db.caseRow k) (history k db)) reach
    (show Accounted (({} : Database).caseRow k) (history k {}) from rfl) fun c _ before _ => history_step k c before

/-- A case that has ended: its state, version and reason stand. -/
structure CaseRow.Stands (row row' : CaseRow) : Prop where
  state : row'.case.state = row.case.state
  version : row'.case.stateVersion = row.case.stateVersion
  reason : row'.case.terminalReason = row.case.terminalReason

theorem CaseRow.Stands.trans {row'' : CaseRow} (h : row.Stands row') (h' : row'.Stands row'') : row.Stands row'' :=
  ⟨h'.state.trans h.state, h'.version.trans h.version, h'.reason.trans h.reason⟩

theorem CaseStep.stands {found : Option CaseRow} {new : List CaseTransition}
    (h : CaseStep w db k (some row) found new) (ended : row.case.state.Terminal) :
    ∃ row', found = some row' ∧ row.Stands row' := by
  cases h with
  | kept _ row' stamped =>
    have ledger := stamped.ledger
    exact ⟨row', rfl, state_of_ledger ledger, version_of_ledger ledger, reason_of_ledger ledger⟩
  | moved _ row' t e retry legal => exact absurd ended (edge_live legal.edge)
  | counted _ row' retry contact one timely retries contacts ledger =>
    exact ⟨row', rfl, state_of_ledger ledger, version_of_ledger ledger, reason_of_ledger ledger⟩

theorem ended_stands (rt : Runtime) (c : Command) (found : db.caseRow k = some row) (ended : row.case.state.Terminal) :
    ∃ row', (exec rt c db).caseRow k = some row' ∧ row.Stands row' := by
  rcases exec_writes rt c db with writes | reported
  · refine writes.keeps (fun d => ∃ row', d.caseRow k = some row' ∧ row.Stands row') ⟨row, found, rfl, rfl, rfl⟩ ?_
    rintro d e write ⟨row1, here, stands⟩
    obtain ⟨new, -, step⟩ := write.caseStep k
    rw [here] at step
    obtain ⟨row2, there, stands'⟩ := step.stands (by rw [stands.state]; exact ended)
    exact ⟨row2, there, stands.trans stands'⟩
  · exact ⟨row, by rw [reported.caseRow]; exact found, rfl, rfl, rfl⟩

/-- The case is stored at this version or a later one. -/
def Reached (k : CaseKey) (n : Nat) (db : Database) : Prop := ∃ row, db.caseRow k = some row ∧ n ≤ row.case.stateVersion

theorem CaseStep.versions {found : Option CaseRow} {new : List CaseTransition} (h : CaseStep w db k (some row) found new) :
    ∃ row', found = some row' ∧ row.case.stateVersion ≤ row'.case.stateVersion := by
  cases h with
  | kept _ row' stamped => exact ⟨row', rfl, (version_of_ledger stamped.ledger).ge⟩
  | moved _ row' t e retry legal instant heard below ledger =>
    exact ⟨row', rfl, by rw [version_of_ledger ledger]; exact Nat.le_succ _⟩
  | counted _ row' retry contact one timely retries contacts ledger => exact ⟨row', rfl, (version_of_ledger ledger).ge⟩

theorem Reached.run {n : Nat} {allowed : Command → Database → Prop} (h : Reached k n d)
    (run : Runs.Reaches (exec rt) allowed d e) : Reached k n e := by
  refine Runs.Reaches.invariant (Reached k n) run h fun c db before _ => ?_
  rcases exec_writes rt c db with writes | reported
  · refine writes.keeps (Reached k n) before ?_
    rintro d e write ⟨row, found, at_least⟩
    obtain ⟨new, -, step⟩ := write.caseStep k
    rw [found] at step
    obtain ⟨row', there, later⟩ := step.versions
    exact ⟨row', there, at_least.trans later⟩
  · obtain ⟨row, found, at_least⟩ := before
    exact ⟨row, by rw [reported.caseRow]; exact found, at_least⟩

/-- A writer that prepared its transition from a version that is gone is refused. -/
theorem recoveryTransition_stale {case : RecoveryCase} {n : Nat} (reached : Reached case.key n db)
    (stale : case.stateVersion < n) (t : Transition) (o : Option Diagnosis) (e : Option NormalizedEvent) (retry : Bool) :
    ∃ failure, (recoveryTransition case t o e retry).run db = .error failure := by
  cases ran : (recoveryTransition case t o e retry).run db with
  | error failure => exact ⟨failure, rfl⟩
  | ok result =>
    obtain ⟨decided, _, lifted, rest⟩ := Tx.bind_ok (show (recoveryTransition case t o e retry).run db = .ok (result.1, result.2)
      from ran)
    obtain ⟨made, rfl⟩ := Tx.lift_ok lifted
    obtain ⟨-, -, rfl⟩ := transitionCase_ok made
    obtain ⟨_, _, applied, -⟩ := Tx.bind_ok rest
    obtain ⟨-, row, present, -, version, -⟩ := applyTransition_effect applied
    obtain ⟨row', found, later⟩ := reached
    have same : row' = row := Option.some.inj (found.symm.trans present)
    have stored : row.case.stateVersion = case.stateVersion := version
    rw [same] at later
    omega

theorem recoveryTransition_reached {case updated : RecoveryCase} {t : Transition} {o : Option Diagnosis}
    {event : Option NormalizedEvent} {retry : Bool} (h : (recoveryTransition case t o event retry).run db = .ok (updated, db')) :
    Reached case.key (case.stateVersion + 1) db' := by
  obtain ⟨decided, _, lifted, rest⟩ := Tx.bind_ok h
  obtain ⟨made, rfl⟩ := Tx.lift_ok lifted
  obtain ⟨-, -, rfl⟩ := transitionCase_ok made
  obtain ⟨_, _, applied, rest⟩ := Tx.bind_ok rest
  obtain ⟨-, rfl⟩ := Tx.pure_ok rest
  obtain ⟨-, row, -, -, -, seen, -⟩ := applyTransition_effect applied
  refine ⟨_, congrArg CaseView.row seen, ?_⟩
  have version := congrArg CaseLedger.stateVersion (settle_ledger case t o retry)
  exact version.ge

/-- Of two writers of a case prepared from one version, whichever comes second fails. -/
def OneWriter (rt : Runtime) : Prop :=
  ∀ (case case' updated : RecoveryCase) (t t' : Transition) (o o' : Option Diagnosis) (event event' : Option NormalizedEvent)
    (retry retry' : Bool) (d e f : Database), case'.key = case.key → case'.stateVersion = case.stateVersion →
    (recoveryTransition case t o event retry).run d = .ok (updated, e) → Runs.Reaches (exec rt) (fun _ _ => True) e f →
    ∃ failure, (recoveryTransition case' t' o' event' retry').run f = .error failure

theorem one_writer (rt : Runtime) : OneWriter rt := by
  intro case case' updated t t' o o' event event' retry retry' d e f key version first run
  have reached := (recoveryTransition_reached first).run run
  rw [← key] at reached
  exact recoveryTransition_stale reached (by omega) t' o' event' retry'

theorem case_history_legal (reach : Reachable rt db) :
    (∀ row ∈ db.cases, LegalHistory row (history row.key db)) ∧
    (∀ t ∈ db.transitions, ∃ row ∈ db.cases, row.key = t.key) ∧
    (∀ (c : Command), ∀ row ∈ db.cases, row.case.state.Terminal →
      ∃ row' ∈ (exec rt c db).cases, row'.key = row.key ∧ row.Stands row') ∧ OneWriter rt := by
  have keyed := reach.under.keyed
  refine ⟨fun row member => ?_, fun t member => ?_, fun c row member ended => ?_, one_writer rt⟩
  · have accounted := history_invariant reach row.key
    rw [show db.caseRow row.key = some row from keyed.row member] at accounted
    exact accounted
  · have accounted := history_invariant reach t.key
    cases found : db.caseRow t.key with
    | some row => exact ⟨row, Table.lookup_mem found, Table.lookup_key found⟩
    | none =>
      rw [found] at accounted
      have here : t ∈ history t.key db := Table.mem_select.mpr ⟨member, rfl⟩
      rw [show history t.key db = [] from accounted] at here
      cases here
  · obtain ⟨row', found, stands⟩ := ended_stands rt c (keyed.row member) ended
    exact ⟨row', Table.lookup_mem found, Table.lookup_key found, stands⟩

set_option maxRecDepth 100000 in
theorem case_history_legal_paid : ∃ row ∈ (execAll {} linkPaid {}).cases, row.case.state = .recovered ∧
    row.case.stateVersion = 8 ∧ LegalHistory row (history row.key (execAll {} linkPaid {})) := by
  have stored : ∃ row ∈ (execAll {} linkPaid {}).cases, row.case.state = .recovered ∧ row.case.stateVersion = 8 := by
    decide +kernel
  obtain ⟨row, member, recovered, version⟩ := stored
  exact ⟨row, member, recovered, version, (case_history_legal (reachable_execAll {} linkPaid)).1 row member⟩

end RevenueGuard
