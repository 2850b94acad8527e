import RevenueGuard.Safety.History

/-
The clock of a case. Unless an attempt that counts begins before the case was
last written, or the database stamps a change of its active incident from behind,
its time only advances, its transitions are stamped in order, and a call from
before that time leaves the case as it is.
-/
namespace RevenueGuard

variable {rt : Runtime} {w : Writer} {db db' : Database} {k : CaseKey} {row row' : CaseRow} {ts new : List CaseTransition}

/-- Stored transitions in version order are in time order, and none is newer than the row. -/
structure Chronological (row : CaseRow) (ts : List CaseTransition) : Prop where
  ordered : ∀ t ∈ ts, ∀ u ∈ ts, t.afterVersion ≤ u.afterVersion → t.occurredAt ≤ u.occurredAt
  version : ∀ t ∈ ts, t.afterVersion ≤ row.case.stateVersion
  time : ∀ t ∈ ts, t.occurredAt ≤ row.case.updatedAt

theorem CaseRow.Punctual.le {now : Instant} (h : row.Punctual now row') : row.case.updatedAt ≤ row'.case.updatedAt := by
  rcases h with same | ⟨later, -⟩
  · exact same.ge
  · exact later

def Timed : Option CaseRow → List CaseTransition → Prop
  | none, ts => ts = []
  | some row, ts => Chronological row ts

theorem updated_of_ledger {ledger : CaseLedger} (h : row.case.ledger = ledger) : row.case.updatedAt = ledger.updatedAt :=
  congrArg CaseLedger.updatedAt h

/-- A row written later at the same version has the same stamps behind it. -/
theorem Chronological.later (h : Chronological row ts) (version : row'.case.stateVersion = row.case.stateVersion)
    (time : row.case.updatedAt ≤ row'.case.updatedAt) : Chronological row' ts := by
  refine ⟨h.ordered, ?_, fun t member => (h.time t member).trans time⟩
  rw [version]
  exact h.version

theorem Chronological.extend {t : Transition} (h : Chronological row ts) (legal : t.Legal row.case)
    (version : row'.case.stateVersion = row.case.stateVersion + 1) (time : row'.case.updatedAt = t.occurredAt) :
    Chronological row' (ts ++ [row.case.transition t]) := by
  have later : ∀ u ∈ ts, u.occurredAt ≤ t.occurredAt := fun u member => (h.time u member).trans legal.time
  refine ⟨fun u hu v hv versions => ?_, fun u member => ?_, fun u member => ?_⟩
  · rcases List.mem_append.mp hu with oldU | newU <;> rcases List.mem_append.mp hv with oldV | newV
    · exact h.ordered u oldU v oldV versions
    · rw [List.mem_singleton.mp newV]
      exact later u oldU
    · -- the new transition has the highest version of all
      rw [List.mem_singleton.mp newU] at versions
      have below := h.version v oldV
      have above : row.case.stateVersion + 1 ≤ v.afterVersion := versions
      omega
    · rw [List.mem_singleton.mp newU, List.mem_singleton.mp newV]
  · rw [version]
    rcases List.mem_append.mp member with old | fresh
    · exact (h.version u old).trans (Nat.le_succ _)
    · rw [List.mem_singleton.mp fresh]
      exact le_refl _
  · rw [time]
    rcases List.mem_append.mp member with old | fresh
    · exact later u old
    · rw [List.mem_singleton.mp fresh]
      exact le_refl _

theorem CaseStep.timed {found found' : Option CaseRow} (h : CaseStep w db k found found' new) (timely : w.timely)
    (before : Timed found ts) : Timed found' (ts ++ new) := by
  cases h with
  | absent => simpa [Timed] using before
  | created row event here fresh =>
    have nothing : ts = [] := before
    subst nothing
    show Chronological row []
    exact ⟨List.forall_mem_nil _, List.forall_mem_nil _, List.forall_mem_nil _⟩
  | kept row row' stamped punctual =>
    rw [List.append_nil]
    exact Chronological.later before (version_of_ledger stamped.ledger) (punctual timely).le
  | moved row row' t e retry legal instant heard below ledger =>
    exact Chronological.extend before legal (version_of_ledger ledger) (updated_of_ledger ledger)
  | counted row row' retry contact one inTime retries contacts ledger =>
    rw [List.append_nil]
    refine Chronological.later before (version_of_ledger ledger) ?_
    rw [updated_of_ledger ledger]
    exact inTime timely

/-- A write of a case in time: the row is still there, at the same instant or a later one. -/
theorem CaseStep.advances {found : Option CaseRow} (h : CaseStep w db k (some row) found new) (timely : w.timely) :
    ∃ row', found = some row' ∧ row.case.updatedAt ≤ row'.case.updatedAt := by
  cases h with
  | kept _ row' stamped punctual => exact ⟨row', rfl, (punctual timely).le⟩
  | moved _ row' t e retry legal instant heard below ledger =>
    exact ⟨row', rfl, by rw [updated_of_ledger ledger]; exact legal.time⟩
  | counted _ row' retry contact one inTime retries contacts ledger =>
    exact ⟨row', rfl, by rw [updated_of_ledger ledger]; exact inTime timely⟩

/-- A write from before the case's time leaves its ledger and its history alone. -/
theorem CaseStep.refused {found : Option CaseRow} (h : CaseStep w db k (some row) found new) (timely : w.timely)
    (early : w.now < row.case.updatedAt) : new = [] ∧ ∃ row', found = some row' ∧ row'.case.ledger = row.case.ledger := by
  cases h with
  | kept _ row' stamped punctual =>
    rcases punctual timely with same | ⟨-, late⟩
    · exact ⟨rfl, row', rfl, by rw [stamped.ledger, same]; rfl⟩
    · exact absurd late early.not_ge
  | moved _ row' t e retry legal instant =>
    have late := legal.time
    rw [instant] at late
    exact absurd late early.not_ge
  | counted _ row' retry contact one inTime => exact absurd (inTime timely) early.not_ge

theorem timed_step {c : Command} (k : CaseKey) (timely : c.OnTime rt db) (h : Timed (db.caseRow k) (history k db)) :
    Timed ((exec rt c db).caseRow k) (history k (exec rt c db)) := by
  rcases exec_writes rt c db with writes | reported
  · refine writes.keeps (fun d => Timed (d.caseRow k) (history k d)) h fun write before => ?_
    obtain ⟨new, extended, step⟩ := write.caseStep k
    rw [extended]
    exact step.timed timely before
  · rw [reported.caseRow, reported.sameHistory]
    exact h

theorem timed_invariant (reach : ReachableUnder rt (Command.OnTime rt) db) (k : CaseKey) :
    Timed (db.caseRow k) (history k db) :=
  Runs.Reaches.invariant (fun db => Timed (db.caseRow k) (history k db)) reach
    (show Timed (({} : Database).caseRow k) (history k {}) from rfl) fun _ _ before timely => timed_step k timely before

theorem time_advances {c : Command} (timely : c.OnTime rt db) (found : db.caseRow k = some row) :
    ∃ row', (exec rt c db).caseRow k = some row' ∧ row.case.updatedAt ≤ row'.case.updatedAt := by
  rcases exec_writes rt c db with writes | reported
  · refine writes.keeps (fun d => ∃ row', d.caseRow k = some row' ∧ row.case.updatedAt ≤ row'.case.updatedAt)
      ⟨row, found, le_refl _⟩ ?_
    rintro d e write ⟨row1, here, later⟩
    obtain ⟨new, -, step⟩ := write.caseStep k
    rw [here] at step
    obtain ⟨row2, there, last⟩ := step.advances timely
    exact ⟨row2, there, later.trans last⟩
  · exact ⟨row, by rw [reported.caseRow]; exact found, le_refl _⟩

theorem early_refused {c : Command} (timely : c.OnTime rt db) (found : db.caseRow k = some row)
    (early : c.instant < row.case.updatedAt) : history k (exec rt c db) = history k db ∧
      ∃ row', (exec rt c db).caseRow k = some row' ∧ row'.case.ledger = row.case.ledger := by
  rcases exec_writes rt c db with writes | reported
  · refine writes.keeps (fun d => history k d = history k db ∧
      ∃ row', d.caseRow k = some row' ∧ row'.case.ledger = row.case.ledger) ⟨rfl, row, found, rfl⟩ ?_
    rintro d e write ⟨same, row1, here, ledger⟩
    obtain ⟨new, extended, step⟩ := write.caseStep k
    rw [here] at step
    obtain ⟨rfl, row2, there, ledger'⟩ := step.refused timely (by rw [updated_of_ledger ledger]; exact early)
    exact ⟨by rw [extended, List.append_nil, same], row2, there, ledger'.trans ledger⟩
  · exact ⟨reported.sameHistory k, row, by rw [reported.caseRow]; exact found, rfl⟩

/-- A transition stamped before its case is refused. -/
theorem recoveryTransition_early {case : RecoveryCase} {t : Transition} (early : t.occurredAt < case.updatedAt)
    (o : Option Diagnosis) (e : Option NormalizedEvent) (retry : Bool) (db : Database) :
    ∃ failure, (recoveryTransition case t o e retry).run db = .error failure := by
  cases ran : (recoveryTransition case t o e retry).run db with
  | error failure => exact ⟨failure, rfl⟩
  | ok result =>
    obtain ⟨-, legal, -⟩ := recoveryTransition_ran (show (recoveryTransition case t o e retry).run db = .ok (result.1, result.2)
      from ran)
    exact absurd legal.time early.not_ge

/-- What a command does to the time of a case it finds. -/
structure KeepsTime (rt : Runtime) (c : Command) (db : Database) (row : CaseRow) : Prop where
  advances : ∃ row', (exec rt c db).caseRow row.key = some row' ∧ row.case.updatedAt ≤ row'.case.updatedAt
  refused : c.instant < row.case.updatedAt → history row.key (exec rt c db) = history row.key db ∧
    ∃ row', (exec rt c db).caseRow row.key = some row' ∧ row'.case.ledger = row.case.ledger

theorem case_time_advances (reach : ReachableUnder rt (Command.OnTime rt) db) :
    (∀ row ∈ db.cases, Chronological row (history row.key db)) ∧
    (∀ c : Command, c.OnTime rt db → ∀ row ∈ db.cases, KeepsTime rt c db row) ∧
    ∀ (case : RecoveryCase) (t : Transition) (o : Option Diagnosis) (e : Option NormalizedEvent) (retry : Bool),
      t.occurredAt < case.updatedAt → ∃ failure, (recoveryTransition case t o e retry).run db = .error failure := by
  have keyed := reach.reachable.under.keyed
  refine ⟨fun row member => ?_, fun c timely row member => ?_, fun case t o e retry early =>
    recoveryTransition_early early o e retry db⟩
  · have timed := timed_invariant reach row.key
    rw [show db.caseRow row.key = some row from keyed.row member] at timed
    exact timed
  · exact ⟨time_advances timely (keyed.row member), early_refused timely (keyed.row member)⟩

section runs

def retriesOnly : MerchantPolicySnapshot :=
  { linksOnly with
    allowedActions := {.deferRetry}
    features_nonempty := phase3_named, allowed_nonempty := by decide, confidence_le := none_le
    defer_pos := linksOnly_defers }

def issuerDown (event payment : Identifier) (at_ : Instant) : NormalizedEvent :=
  { expiredCard event payment at_ with
    normalizedFailureCategory := .issuerUnavailable, subject := expiredCard_subject event payment at_ }

def retry1 : ActionIdentity := { link1 with actionType := .deferRetry, attempt_pos := first_pos }

/-- A failed payment waits an hour for its retry. -/
def retryDeferred : List Command :=
  [.registerMerchant acme, .publishPolicy acme retriesOnly] ++ ingested (issuerDown (ident "event-1") (ident "pay-1") 5) ++
    [.processEvent (drawn "receipt-1") acme (ident "event-1") (ident "case-1") 10]

def retryAuthorized : List Command :=
  retryDeferred ++ [.reevaluateDeferred (fun _ => drawn "receipt-2") 3600000010 5,
    .claimDueActions (fun _ => "lease-1") 3600000010 1000 5]

set_option maxRecDepth 100000 in
theorem case_time_advances_retry : ∃ row ∈ (execAll {} retryAuthorized {}).cases, row.case.state = .ready ∧
    KeepsTime {} (.prepareExecution retry1 "lease-1" 3600000020) (execAll {} retryAuthorized {}) row := by
  have stored : ∃ row ∈ (execAll {} retryAuthorized {}).cases, row.case.state = .ready := by decide +kernel
  obtain ⟨row, member, ready⟩ := stored
  have timely : Command.OnTime {} (.prepareExecution retry1 "lease-1" 3600000020) (execAll {} retryAuthorized {}) := by
    decide +kernel
  exact ⟨row, member, ready, (case_time_advances (Runs.reaches_allowed (by decide +kernel))).2.1 _ timely row member⟩

/-- The first attempt is refused for now, and a second worker claims the retry. -/
def retryClaimedAgain : List Command :=
  retryAuthorized ++ [.prepareExecution retry1 "lease-1" 3600000020,
    .recordExecutionResult retry1 "lease-1" { refusedLink with
      observedAt := 3600000030, retryable := true, settled := failed_settled, unknown_final := by decide },
    .claimDueActions (fun _ => "lease-2") 3700000000 1000 5]

set_option maxRecDepth 100000 in
/-- The second worker's clock is behind the first one's. -/
theorem case_time_back : ¬ ∀ (rt : Runtime) (db : Database), Reachable rt db → ∀ (c : Command), ∀ row ∈ db.cases,
    KeepsTime rt c db row := by
  intro kept
  have stored : ∃ row ∈ (execAll {} retryClaimedAgain {}).cases, row.key = case1 ∧ row.case.updatedAt = 3600000020 := by
    decide +kernel
  obtain ⟨row, member, here, written⟩ := stored
  obtain ⟨row', found, later⟩ := (kept {} _ (reachable_execAll {} retryClaimedAgain)
    (.prepareExecution retry1 "lease-2" 3600000015) row member).advances
  have back : (((exec {} (.prepareExecution retry1 "lease-2" 3600000015)
      (execAll {} retryClaimedAgain {})).caseRow case1).map (·.case.updatedAt)) = some 3600000015 := by decide +kernel
  rw [here] at found
  rw [found, Option.map_some, Option.some.injEq] at back
  rw [written, back] at later
  exact absurd later (by decide)

end runs

end RevenueGuard
