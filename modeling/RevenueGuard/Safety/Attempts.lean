import RevenueGuard.Safety.Outbox

/-
Attempts of the outbox at the repository's own steps, taken by any number of
workers: one open attempt per action, numbered within its limit, and one attempt
per lease token, whatever the order of the steps.
-/
namespace RevenueGuard

variable {db db' : Database} {rt : Runtime} {r : ActionRow} {token : String}

/-- A repository call that finds its action in its own transaction. -/
def withAction {A : Type} (id : ActionIdentity) (f : ActionRow → Transaction A) : Transaction A := do
  let action ← Tx.read fun db => db.action id
  let action ← Tx.found action (.lookup "tenant-scoped recovery action does not exist")
  f action

inductive OutboxCall where
  | storeAction (action : RecoveryAction) (policyVersion : Identifier) (maxAttempts : Nat)
      (reconciliationDeadline : Instant)
  | claimDueActions (tokens : ActionIdentity → String) (now : Instant) (leaseFor : Int) (limit : Nat)
  | beginAttempt (actionId : ActionIdentity) (leaseToken : String) (startedAt : Instant)
  | finishAttempt (actionId : ActionIdentity) (leaseToken : String) (result : ProviderExecutionResult)
      (retryAt reconciliationDeadline : Instant)
  | markStaleInflightUnknown (actionId : ActionIdentity) (now reconciliationDeadline : Instant)
  | cancelBeforeExecution (actionId : ActionIdentity) (cancelledAt : Instant) (reasonCode : String)
  | setActionResolution (actionId : ActionIdentity) (status : ActionStatus) (resolvedAt : Instant)
      (providerObjectId errorCode : Option String)

def OutboxCall.exec (rt : Runtime) : OutboxCall → Database → Database
  | .storeAction action version maxAttempts deadline => (RevenueGuard.storeAction action version maxAttempts deadline).commit
  | .claimDueActions tokens now leaseFor limit => (RevenueGuard.claimDueActions rt tokens now leaseFor limit).commit
  | .beginAttempt id token startedAt => (RevenueGuard.beginAttempt id token startedAt).commit
  | .finishAttempt id token result retryAt deadline =>
    (RevenueGuard.finishAttempt id token result.completion retryAt deadline).commit
  | .markStaleInflightUnknown id now deadline =>
    (withAction id fun action => RevenueGuard.markStaleInflightUnknown action now deadline).commit
  | .cancelBeforeExecution id cancelledAt reason =>
    (withAction id fun action => RevenueGuard.cancelBeforeExecution action cancelledAt reason).commit
  | .setActionResolution id status resolvedAt object code =>
    (withAction id fun action => RevenueGuard.setActionResolution action status resolvedAt object code).commit

/-- The lease an action holds and has begun nothing with. -/
def ActionRow.held (r : ActionRow) : List String := if r.openAttempts = [] then r.leaseToken.toList else []

/-- The lease tokens an action has used, and the one it holds. -/
def ActionRow.tokens (r : ActionRow) : List String := r.attempts.map (·.leaseToken) ++ r.held

/-- Tokens are drawn fresh, and callers resolve an action to SUCCEEDED or FAILED. -/
def OutboxCall.Admitted : OutboxCall → Database → Prop
  | .claimDueActions tokens _ _ _, db =>
    ∀ r ∈ db.actions, ∀ s ∈ db.actions, (tokens r.id = tokens s.id → r.id = s.id) ∧ tokens r.id ∉ s.tokens
  | .setActionResolution _ status _ _ _, _ => status = .succeeded ∨ status = .failed
  | _, _ => True

/-- One action's attempts: numbered from one, one open at most, within the limit, each under a token of its own. -/
structure ActionRow.Numbered (r : ActionRow) : Prop where
  numbers : r.attempts.map (·.attemptNumber) = List.range' 1 r.attemptCount
  single : r.openAttempts.length ≤ 1
  bounded : r.attemptCount ≤ r.maxAttempts
  room : r.leaseToken.isSome = true → r.openAttempts = [] → r.attemptCount < r.maxAttempts
  spent : r.tokens.Nodup

structure Attempted (db : Database) : Prop where
  ids : (db.actions.map ActionRow.id).Nodup
  rows : ∀ r ∈ db.actions, r.Numbered
  apart : ∀ r ∈ db.actions, ∀ s ∈ db.actions, ∀ t ∈ r.tokens, t ∈ s.tokens → r = s

/-- What a call does to the outbox: it adds an action or rewrites one, and a settled one stays settled. -/
inductive OutboxChange (db db' : Database) : Prop
  | kept (actions : db'.actions = db.actions)
  | added (r : ActionRow) (new : ∀ x ∈ db.actions, x.id ≠ r.id) (row : r.Numbered) (unused : r.tokens = [])
      (actions : db'.actions = db.actions ++ [r])
  | updated (r : ActionRow) (f : ActionRow → ActionRow) (found : r ∈ db.actions) (keeps : ∀ x, (f x).id = x.id)
      (row : (f r).Numbered) (tokens : ∀ t ∈ (f r).tokens, t ∈ r.tokens ∨ ∀ s ∈ db.actions, t ∉ s.tokens)
      (settled : r.status ≠ .pending → (f r).status ≠ .pending ∧ (f r).attemptCount = r.attemptCount)
      (actions : db'.actions = Table.update ActionRow.id r.id f db.actions)

theorem OutboxChange.attempted (h : OutboxChange db db') (inv : Attempted db) : Attempted db' := by
  cases h with
  | kept actions => exact ⟨by rw [actions]; exact inv.ids, by rw [actions]; exact inv.rows, by rw [actions]; exact inv.apart⟩
  | added r new row unused actions =>
    have members : ∀ x ∈ db'.actions, x ∈ db.actions ∨ x = r := fun x member => by
      rw [actions, List.mem_append, List.mem_singleton] at member
      exact member
    refine ⟨by rw [actions]; exact Table.nodup_append_new inv.ids (Table.lookup_none.mpr new), fun x member => ?_,
      fun x hx y hy t ht ht' => ?_⟩
    · rcases members x member with old | rfl
      · exact inv.rows x old
      · exact row
    · rcases members x hx with oldX | rfl
      · rcases members y hy with oldY | rfl
        · exact inv.apart x oldX y oldY t ht ht'
        · rw [unused] at ht'
          cases ht'
      · rw [unused] at ht
        cases ht
  | updated r f found keeps row tokens settled actions =>
    have members : ∀ x ∈ db'.actions, x = f r ∨ (x ∈ db.actions ∧ x.id ≠ r.id) := fun x member =>
      (Table.mem_update_found inv.ids found).mp (actions ▸ member)
    have foreign : ∀ y ∈ db.actions, y.id ≠ r.id → ∀ t ∈ (f r).tokens, t ∉ y.tokens := by
      intro y member other t ht here
      rcases tokens t ht with mine | fresh
      · exact other (congrArg ActionRow.id (inv.apart r found y member t mine here)).symm
      · exact fresh y member here
    refine ⟨?_, fun x member => ?_, fun x hx y hy t ht ht' => ?_⟩
    · rw [actions, Table.keys_update fun x hx => by rw [keeps, hx]]
      exact inv.ids
    · rcases members x member with rfl | ⟨old, -⟩
      · exact row
      · exact inv.rows x old
    · rcases members x hx with rfl | ⟨oldX, otherX⟩ <;> rcases members y hy with rfl | ⟨oldY, otherY⟩
      · rfl
      · exact absurd ht' (foreign y oldY otherY t ht)
      · exact absurd ht (foreign x oldX otherX t ht')
      · exact inv.apart x oldX y oldY t ht ht'

/-- A settled action stays settled and is not tried again. -/
def StaysSettled (db db' : Database) : Prop :=
  ∀ r ∈ db.actions, r.status ≠ .pending → ∃ r' ∈ db'.actions, r'.id = r.id ∧ r'.status ≠ .pending ∧
    r'.attemptCount = r.attemptCount

theorem StaysSettled.trans {d e f : Database} (h : StaysSettled d e) (h' : StaysSettled e f) : StaysSettled d f := by
  intro r member settled
  obtain ⟨s, sMember, sId, sSettled, sCount⟩ := h r member settled
  obtain ⟨t, tMember, tId, tSettled, tCount⟩ := h' s sMember sSettled
  exact ⟨t, tMember, tId.trans sId, tSettled, tCount.trans sCount⟩

theorem OutboxChange.settled (h : OutboxChange db db') (ids : (db.actions.map ActionRow.id).Nodup) : StaysSettled db db' := by
  intro x member done
  cases h with
  | kept actions => exact ⟨x, actions ▸ member, rfl, done, rfl⟩
  | added r new row unused actions => exact ⟨x, actions ▸ List.mem_append_left _ member, rfl, done, rfl⟩
  | updated r f found keeps row tokens settled actions =>
    rw [actions]
    by_cases same : x.id = r.id
    · obtain rfl := List.inj_on_of_nodup_map ids member found same
      obtain ⟨after, count⟩ := settled done
      exact ⟨f x, (Table.mem_update_found ids found).mpr (.inl rfl), keeps x, after, count⟩
    · exact ⟨x, (Table.mem_update_found ids found).mpr (.inr ⟨member, same⟩), rfl, done, rfl⟩

section rows

theorem lease_numbered (h : r.Numbered) {now : Instant} (due : r.Due now) (fresh : token ∉ r.tokens) (leaseFor : Int) :
    (r.lease token now leaseFor).Numbered := by
  obtain ⟨-, -, -, -, below, -, idle⟩ := due
  have idle' : (r.lease token now leaseFor).openAttempts = [] := idle
  refine ⟨h.numbers, h.single, h.bounded, fun _ _ => below, ?_⟩
  unfold ActionRow.tokens ActionRow.held
  rw [if_pos idle']
  have spent := h.spent
  unfold ActionRow.tokens at spent fresh
  exact List.nodup_append.mpr ⟨(List.nodup_append.mp spent).1, List.nodup_singleton _, fun t ht u hu same =>
    fresh (List.mem_append_left _ (by rw [← List.mem_singleton.mp hu, ← same]; exact ht))⟩

theorem lease_tokens {now : Instant} {leaseFor : Int} {t : String} (h : t ∈ (r.lease token now leaseFor).tokens) :
    t ∈ r.tokens ∨ t = token := by
  unfold ActionRow.tokens at h ⊢
  rcases List.mem_append.mp h with used | held
  · exact .inl (List.mem_append_left _ used)
  · unfold ActionRow.held at held
    split at held
    · exact .inr (List.mem_singleton.mp held)
    · cases held

/-- The attempt that begins takes the place of its lease. -/
theorem begin_tokens (leased : r.leaseToken = some token) (idle : r.openAttempts = []) (t : Instant) :
    (r.begin token t).tokens = r.tokens := by
  have running : (r.begin token t).openAttempts ≠ [] := by simp [begin_open]
  unfold ActionRow.tokens ActionRow.held
  rw [if_neg running, if_pos idle, leased]
  simp [ActionRow.begin]

theorem begin_numbered (h : r.Numbered) (leased : r.leaseToken = some token) (idle : r.openAttempts = []) (t : Instant) :
    (r.begin token t).Numbered := by
  have below := h.room (by rw [leased]; rfl) idle
  refine ⟨?_, by rw [begin_open, idle]; exact Nat.le_refl 1, below, fun _ running => ?_, ?_⟩
  · simp only [ActionRow.begin, List.map_append, h.numbers, List.range'_concat, List.map_cons, List.map_nil]
    simp [Nat.add_comm]
  · rw [begin_open] at running
    exact absurd running (by simp)
  · rw [begin_tokens leased idle]
    exact h.spent

theorem open_le {g : ActionAttempt → ActionAttempt} (closes : ∀ a, (g a).isOpen = true → a.isOpen = true)
    (attempts : List ActionAttempt) : ((attempts.map g).filter (·.isOpen)).length ≤ (attempts.filter (·.isOpen)).length := by
  rw [← List.countP_eq_length_filter, ← List.countP_eq_length_filter, List.countP_map]
  exact List.countP_mono_left fun a _ => closes a

/-- An action without a lease whose attempts are the ones before, some of them closed. -/
structure ActionRow.Releases (r r' : ActionRow) : Prop where
  free : r'.leaseToken = none
  counts : r'.attemptCount = r.attemptCount ∧ r'.maxAttempts = r.maxAttempts
  attempts : ∃ g : ActionAttempt → ActionAttempt, r'.attempts = r.attempts.map g ∧ ∀ a,
    (g a).attemptNumber = a.attemptNumber ∧ (g a).leaseToken = a.leaseToken ∧ ((g a).isOpen = true → a.isOpen = true)

variable {r' : ActionRow}

theorem ActionRow.Releases.tokens (h : r.Releases r') : r'.tokens = r.attempts.map (·.leaseToken) := by
  obtain ⟨g, attempts, keeps⟩ := h.attempts
  unfold ActionRow.tokens ActionRow.held
  have same : r'.attempts.map (·.leaseToken) = r.attempts.map (·.leaseToken) := by
    rw [attempts, List.map_map]
    exact List.map_congr_left fun a _ => (keeps a).2.1
  rw [h.free, same]
  split <;> exact List.append_nil _

theorem ActionRow.Releases.numbered (h : r.Releases r') (before : r.Numbered) : r'.Numbered := by
  have spent := h.tokens
  obtain ⟨free, counts, g, attempts, keeps⟩ := h
  refine ⟨?_, ?_, by rw [counts.1, counts.2]; exact before.bounded, fun leased => ?_, ?_⟩
  · rw [attempts, List.map_map, counts.1, ← before.numbers]
    exact List.map_congr_left fun a _ => (keeps a).1
  · unfold ActionRow.openAttempts
    rw [attempts]
    exact (open_le (fun a => (keeps a).2.2) r.attempts).trans before.single
  · rw [free] at leased
    cases leased
  · rw [spent]
    exact (List.nodup_append.mp before.spent).1

theorem releases_same (free : r'.leaseToken = none) (attempts : r'.attempts = r.attempts)
    (counts : r'.attemptCount = r.attemptCount ∧ r'.maxAttempts = r.maxAttempts) : r.Releases r' :=
  ⟨free, counts, id, by rw [attempts, List.map_id], fun _ => ⟨rfl, rfl, id⟩⟩

theorem finish_releases (r : ActionRow) (token : String) (c : AttemptCompletion) (t d : Instant) :
    r.Releases (r.finish token c t d) := by
  have counts := finish_counts r token c t d
  refine ⟨?_, ⟨counts.1, counts.2.1⟩, fun a => if a.isOpen ∧ a.leaseToken = token then a.complete c else a, ?_, fun a => ?_⟩
  · unfold ActionRow.finish
    split <;> rfl
  · unfold ActionRow.finish
    split <;> rfl
  · dsimp only
    split
    · exact ⟨rfl, rfl, fun closed => by cases closed⟩
    · exact ⟨rfl, rfl, id⟩

theorem lost_releases (r : ActionRow) (now d : Instant) : r.Releases (r.lost now d) := by
  refine ⟨rfl, ⟨rfl, rfl⟩, _, rfl, fun a => ?_⟩
  split
  · exact ⟨rfl, rfl, fun closed => by cases closed⟩
  · exact ⟨rfl, rfl, id⟩

theorem finish_settled {c : AttemptCompletion} (answered : c.outcomeStatus ≠ .pending) (t d : Instant)
    (done : r.status ≠ .pending) : (r.finish token c t d).status ≠ .pending := by
  unfold ActionRow.finish
  split
  · exact done
  · exact answered

end rows

section calls

/-- A call that releases an action and settles it, or leaves it settled. -/
theorem released_change {f : ActionRow → ActionRow} {id : ActionIdentity} (inv : Attempted db)
    (stored : db.action id = some r) (keeps : ∀ x, (f x).id = x.id) (releases : r.Releases (f r))
    (settled : r.status ≠ .pending → (f r).status ≠ .pending) : OutboxChange db (updateAction id f db) := by
  have here : r.id = id := Table.lookup_key stored
  subst here
  have found : r ∈ db.actions := Table.lookup_mem stored
  refine .updated r f found keeps (releases.numbered (inv.rows r found)) (fun t used => .inl ?_)
    (fun done => ⟨settled done, releases.counts.1⟩) rfl
  rw [releases.tokens] at used
  exact List.mem_append_left _ used

theorem claim_change {tokens : ActionIdentity → String} {now : Instant} (inv : Attempted db) (found : r ∈ db.actions)
    (due : r.Due now) (fresh : ∀ s ∈ db.actions, tokens r.id ∉ s.tokens) (leaseFor : Int) :
    OutboxChange db (updateAction r.id (ActionRow.lease (tokens r.id) now leaseFor) db) :=
  .updated r (ActionRow.lease (tokens r.id) now leaseFor) found (fun _ => rfl)
    (lease_numbered (inv.rows r found) due (fresh r found) leaseFor)
    (fun _ used => (lease_tokens used).imp id fun same => by rw [same]; exact fresh) (fun done => absurd due.1 done) rfl

/-- What a call may leave of the outbox. -/
abbrev OutboxChanges : Database → Database → Prop := Relation.ReflTransGen OutboxChange

theorem claims_change {tokens : ActionIdentity → String} {now : Instant} {leaseFor : Int} :
    ∀ {rows : List ActionRow} {db db' : Database} {claimed : List ClaimedAction}, Attempted db →
    (rows.map ActionRow.id).Nodup → (∀ x ∈ rows, ∀ y ∈ rows, tokens x.id = tokens y.id → x.id = y.id) →
    (∀ row ∈ rows, row ∈ db.actions ∧ row.Due now ∧ ∀ s ∈ db.actions, tokens row.id ∉ s.tokens) →
    (Tx.each (fun row : ActionRow => do
      Tx.write (updateAction row.id (ActionRow.lease (tokens row.id) now leaseFor))
      pure (⟨row.id, tokens row.id⟩ : ClaimedAction) : ActionRow → Transaction ClaimedAction) rows).run db =
        .ok (claimed, db') → OutboxChanges db db' := by
  intro rows
  induction rows with
  | nil =>
    intro db db' claimed _ _ _ _ h
    obtain ⟨-, rfl⟩ := Tx.pure_ok h
    exact .refl
  | cons row rest ih =>
    intro db db' claimed inv nodup distinct ready h
    obtain ⟨_, d, first, h⟩ := Tx.bind_ok h
    obtain ⟨_, e, later, h⟩ := Tx.bind_ok h
    obtain ⟨-, rfl⟩ := Tx.pure_ok h
    obtain ⟨_, _, written, first⟩ := Tx.bind_ok first
    have written := Tx.write_ok written
    subst written
    obtain ⟨-, rfl⟩ := Tx.pure_ok first
    obtain ⟨other, nodup'⟩ := List.nodup_cons.mp nodup
    obtain ⟨found, due, fresh⟩ := ready row List.mem_cons_self
    have change : OutboxChange db (updateAction row.id (ActionRow.lease (tokens row.id) now leaseFor) db) :=
      claim_change inv found due fresh leaseFor
    refine .head change (ih (change.attempted inv) nodup' (fun x hx y hy => distinct x (List.mem_cons_of_mem row hx) y
      (List.mem_cons_of_mem row hy)) (fun x member => ?_) later)
    obtain ⟨xFound, xDue, xFresh⟩ := ready x (List.mem_cons_of_mem row member)
    have apart : x.id ≠ row.id := fun same => other (same ▸ List.mem_map_of_mem member)
    refine ⟨(Table.mem_update_found inv.ids found).mpr (.inr ⟨xFound, apart⟩), xDue, fun s sMember used => ?_⟩
    rcases (Table.mem_update_found inv.ids found).mp sMember with rfl | ⟨sFound, -⟩
    · rcases lease_tokens used with before | now
      · exact xFresh row found before
      · exact apart (distinct x (List.mem_cons_of_mem row member) row List.mem_cons_self now)
    · exact xFresh s sFound used

theorem due_rows {now : Instant} {limit : Nat} {rows : List ActionRow} (ids : (db.actions.map ActionRow.id).Nodup)
    (h : rows = ((db.actions.filter fun r => decide (r.Due now)).insertionSort (dueBefore rt (·.nextAttemptAt))).take limit) :
    (rows.map ActionRow.id).Nodup ∧ ∀ row ∈ rows, row ∈ db.actions ∧ row.Due now := by
  have sorted := List.perm_insertionSort (dueBefore rt (·.nextAttemptAt)) (db.actions.filter fun r => decide (r.Due now))
  subst h
  refine ⟨?_, fun row member => ?_⟩
  · refine (List.take_sublist _ _).map ActionRow.id |>.nodup ((sorted.map ActionRow.id).nodup_iff.mpr ?_)
    exact (List.filter_sublist.map ActionRow.id).nodup ids
  · obtain ⟨found, due⟩ := List.mem_filter.mp (sorted.mem_iff.mp (List.mem_of_mem_take member))
    exact ⟨found, of_decide_eq_true due⟩

theorem withAction_ok {A : Type} {id : ActionIdentity} {f : ActionRow → Transaction A} {a : A}
    (h : (withAction id f).run db = .ok (a, db')) : ∃ r, db.action id = some r ∧ r.id = id ∧ (f r).run db = .ok (a, db') := by
  obtain ⟨_, _, read, h⟩ := Tx.bind_ok h
  obtain ⟨rfl, rfl⟩ := Tx.read_ok read
  obtain ⟨r, _, found, h⟩ := Tx.bind_ok h
  obtain ⟨stored, rfl⟩ := Tx.found_ok found
  exact ⟨r, stored, Table.lookup_key stored, h⟩

/-- Every call leaves the outbox as it was or changes it action by action. -/
theorem OutboxCall.changes (call : OutboxCall) (inv : Attempted db) (admitted : call.Admitted db) :
    OutboxChanges db (call.exec rt db) := by
  cases call with
  | storeAction action version maxAttempts deadline =>
    refine Tx.commit_relates .refl fun h => ?_
    obtain ⟨_, _, checked, h⟩ := Tx.bind_ok h
    obtain ⟨positive, rfl⟩ := Tx.check_ok checked
    obtain ⟨_, _, checked, h⟩ := Tx.bind_ok h
    obtain ⟨-, rfl⟩ := Tx.check_ok checked
    obtain ⟨_, _, read, h⟩ := Tx.bind_ok h
    obtain ⟨rfl, rfl⟩ := Tx.read_ok read
    split at h
    · obtain ⟨-, rfl⟩ := Tx.pure_ok h
      exact .refl
    · rename_i absent
      obtain ⟨_, _, written, h⟩ := Tx.bind_ok h
      have written := Tx.write_ok written
      subst written
      obtain ⟨-, rfl⟩ := Tx.pure_ok h
      have row : (ActionRow.ofAction action version maxAttempts deadline).Numbered :=
        ⟨rfl, Nat.zero_le _, Nat.zero_le _, (fun leased => by cases leased), List.nodup_nil⟩
      exact .single (.added (ActionRow.ofAction action version maxAttempts deadline) (Table.lookup_none.mp absent) row rfl rfl)
  | claimDueActions tokens now leaseFor limit =>
    refine Tx.commit_relates .refl fun h => ?_
    obtain ⟨_, _, checked, h⟩ := Tx.bind_ok h
    obtain ⟨-, rfl⟩ := Tx.check_ok checked
    obtain ⟨rows, _, read, h⟩ := Tx.bind_ok h
    obtain ⟨sorted, rfl⟩ := Tx.read_ok read
    obtain ⟨nodup, due⟩ := due_rows inv.ids sorted
    refine claims_change inv nodup (fun x hx y hy => (admitted x (due x hx).1 y (due y hy).1).1) (fun row member => ?_) h
    exact ⟨(due row member).1, (due row member).2, fun s found => (admitted row (due row member).1 s found).2⟩
  | beginAttempt id token startedAt =>
    refine Tx.commit_relates .refl fun h => ?_
    obtain ⟨r, stored, pending, leased, -, -, idle, -, -, rfl⟩ := beginAttempt_effect h
    have here : r.id = id := Table.lookup_key stored
    subst here
    have found : r ∈ db.actions := Table.lookup_mem stored
    exact .single (.updated r (ActionRow.begin token startedAt) found (fun _ => rfl)
      (begin_numbered (inv.rows r found) leased idle startedAt)
      (fun t used => .inl (begin_tokens leased idle startedAt ▸ used)) (fun done => absurd pending done) rfl)
  | finishAttempt id token result retryAt deadline =>
    refine Tx.commit_relates .refl fun h => ?_
    obtain ⟨r, stored, -, -, -, rfl⟩ := finishAttempt_effect h
    exact .single (released_change inv stored (finish_id token _ retryAt deadline) (finish_releases r token _ _ _)
      (finish_settled result.settled retryAt deadline))
  | markStaleInflightUnknown id now deadline =>
    refine Tx.commit_relates .refl fun ran => ?_
    obtain ⟨r, stored, rfl, h⟩ := withAction_ok ran
    obtain ⟨-, -, -, rfl⟩ := markStaleInflightUnknown_effect h
    exact .single (released_change inv stored (fun _ => rfl) (lost_releases r now deadline) fun _ h => by cases h)
  | cancelBeforeExecution id cancelledAt reason =>
    refine Tx.commit_relates .refl fun ran => ?_
    obtain ⟨r, stored, rfl, h⟩ := withAction_ok ran
    obtain ⟨-, rfl⟩ := cancelBeforeExecution_effect h
    exact .single (released_change inv stored (fun _ => rfl) (releases_same rfl rfl ⟨rfl, rfl⟩) fun _ h => by cases h)
  | setActionResolution id status resolvedAt object code =>
    refine Tx.commit_relates .refl fun ran => ?_
    obtain ⟨r, stored, rfl, h⟩ := withAction_ok ran
    obtain ⟨-, rfl⟩ := setActionResolution_effect h
    refine .single (released_change inv stored (fun _ => rfl) (releases_same rfl rfl ⟨rfl, rfl⟩) fun _ pending => ?_)
    have resolved : status ≠ .pending := by rcases admitted with rfl | rfl <;> decide
    exact resolved pending

theorem OutboxChanges.attempted (h : OutboxChanges db db') (inv : Attempted db) : Attempted db' := by
  induction h with
  | refl => exact inv
  | tail _ change ih => exact change.attempted ih

theorem OutboxChanges.settled (h : OutboxChanges db db') (inv : Attempted db) : StaysSettled db db' := by
  induction h with
  | refl => exact fun r member done => ⟨r, member, rfl, done, rfl⟩
  | tail before change ih => exact ih.trans (change.settled (OutboxChanges.attempted before inv).ids)

end calls

/-- The states of the outbox that some interleaving of admitted calls reaches. -/
abbrev OutboxRuns (rt : Runtime) : Database → Database → Prop := Runs.Reaches (OutboxCall.exec rt) OutboxCall.Admitted

theorem OutboxRuns.attempted (run : OutboxRuns rt db db') (inv : Attempted db) : Attempted db' :=
  Runs.Reaches.invariant Attempted run inv fun call _ inv admitted => OutboxChanges.attempted (call.changes inv admitted) inv

theorem OutboxRuns.settled (run : OutboxRuns rt db db') (inv : Attempted db) : StaysSettled db db' := by
  induction run with
  | start => exact fun r member done => ⟨r, member, rfl, done, rfl⟩
  | step call before admitted ih =>
    have here := OutboxRuns.attempted before inv
    exact ih.trans (OutboxChanges.settled (call.changes here admitted) here)

structure AttemptSafety (rt : Runtime) (db : Database) : Prop where
  single : ∀ r ∈ db.actions, r.openAttempts.length ≤ 1
  numbers : ∀ r ∈ db.actions, r.attempts.map (·.attemptNumber) = List.range' 1 r.attemptCount
  bounded : ∀ r ∈ db.actions, r.attemptCount ≤ r.maxAttempts
  tokens : ((db.actions.flatMap (·.attempts)).map (·.leaseToken)).Nodup
  settled : ∀ later, OutboxRuns rt db later → ∀ r ∈ db.actions, r.status ≠ .pending →
    ∀ r' ∈ later.actions, r'.id = r.id → r'.status ≠ .pending ∧ r'.attemptCount = r.attemptCount
  closed : ∀ r ∈ db.actions, ∀ a ∈ r.attempts, a.isOpen = false → ∀ id result retryAt deadline,
    (OutboxCall.finishAttempt id a.leaseToken result retryAt deadline).exec rt db = db

theorem Attempted.tokens_nodup (inv : Attempted db) : ((db.actions.flatMap (·.attempts)).map (·.leaseToken)).Nodup := by
  rw [List.map_flatMap, List.nodup_flatMap]
  refine ⟨fun r member => (List.nodup_append.mp (inv.rows r member).spent).1, ?_⟩
  refine inv.ids.of_map.pairwise_of_forall_ne fun r hr s hs other t mine theirs => other ?_
  exact inv.apart r hr s hs t (List.mem_append_left _ mine) (List.mem_append_left _ theirs)

/-- A completion under a token whose attempt is closed finds nothing open. -/
theorem Attempted.closed (inv : Attempted db) (found : r ∈ db.actions) {a : ActionAttempt} (member : a ∈ r.attempts)
    (closed : a.isOpen = false) (id : ActionIdentity) (result : ProviderExecutionResult) (retryAt deadline : Instant) :
    (OutboxCall.finishAttempt id a.leaseToken result retryAt deadline).exec rt db = db := by
  refine Tx.commit_relates (R := fun d e => e = d) rfl fun h => ?_
  obtain ⟨s, stored, ⟨b, open_, same⟩, -⟩ := finishAttempt_effect h
  obtain ⟨used, isOpen⟩ := List.mem_filter.mp open_
  have mine : a.leaseToken ∈ r.tokens := List.mem_append_left _ (List.mem_map_of_mem member)
  have theirs : a.leaseToken ∈ s.tokens := List.mem_append_left _ (same ▸ List.mem_map_of_mem used)
  obtain rfl := inv.apart r found s (Table.lookup_mem stored) _ mine theirs
  have spent := (List.nodup_append.mp (inv.rows r found).spent).1
  obtain rfl := List.inj_on_of_nodup_map spent used member same
  rw [closed] at isOpen
  cases isOpen

theorem attempts_safe (reach : OutboxRuns rt {} db) : AttemptSafety rt db := by
  have inv : Attempted db := OutboxRuns.attempted reach
    ⟨List.nodup_nil, fun _ none => absurd none List.not_mem_nil, fun _ none => absurd none List.not_mem_nil⟩
  refine ⟨fun r member => (inv.rows r member).single, fun r member => (inv.rows r member).numbers,
    fun r member => (inv.rows r member).bounded, inv.tokens_nodup, fun later run r member done r' member' same => ?_,
    fun r found a member closed => inv.closed found member closed⟩
  obtain ⟨s, sMember, sId, sDone, sCount⟩ := OutboxRuns.settled run inv r member done
  obtain rfl := List.inj_on_of_nodup_map (OutboxRuns.attempted run inv).ids sMember member' (sId.trans same.symm)
  exact ⟨sDone, sCount⟩

section runs

instance (call : OutboxCall) (db : Database) : Decidable (call.Admitted db) := by
  cases call <;> dsimp only [OutboxCall.Admitted] <;> infer_instance

def busyProvider : ProviderExecutionResult :=
  { status := .failed
    evidenceSource := .providerResponse
    observedAt := 30
    responseCategory := "RATE_LIMITED"
    retryable := true
    settled := by decide, unknown_final := by decide }

def linkAction : RecoveryAction :=
  { identity :=
      { merchantId := ident "acme", caseId := ident "case-1", actionType := .createPaymentLink, targetType := .payment
        targetId := ident "pay-1", logicalAttempt := 1, attempt_pos := first_pos }
    decisionReceiptId := .generated (ident "receipt-1")
    status := .pending
    parameters := { amountMinor := 1000, currency := currency "INR" }
    authorizedAt := 10, executeAfter := 10, createdAt := 10 }

/-- A call that fails is tried again under a second lease. -/
def triedTwice : List OutboxCall :=
  [.storeAction linkAction (ident "v1") 3 100, .claimDueActions (fun _ => "lease-1") 20 1000 5,
    .beginAttempt linkAction.identity "lease-1" 25, .finishAttempt linkAction.identity "lease-1" busyProvider 40 90,
    .claimDueActions (fun _ => "lease-2") 50 1000 5, .beginAttempt linkAction.identity "lease-2" 55]

def OutboxCall.execAll (rt : Runtime) (calls : List OutboxCall) (db : Database) : Database :=
  calls.foldl (fun db call => OutboxCall.exec rt call db) db

theorem attempts_safe_tried_twice : AttemptSafety {} (OutboxCall.execAll {} triedTwice {}) :=
  attempts_safe (Runs.reaches_allowed (by decide +kernel))

example : (OutboxCall.execAll {} triedTwice {}).actions.map (·.attemptCount) = [2] := by decide +kernel

end runs

end RevenueGuard
