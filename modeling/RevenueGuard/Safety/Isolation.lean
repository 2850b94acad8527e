import RevenueGuard.Safety.ReadyCases
import RevenueGuard.Safety.Scopes

/-
Tenant isolation. Each merchant's rows end up as its own commands, and the sweeps
over all merchants, make them of that merchant's rows alone. What merchants share
is the events' id space and the batch of a sweep.
-/
namespace RevenueGuard

variable {m : Identifier} {db db' : Database} {rt : Runtime} {t : Instant}

/-- The merchant a command is about; a sweep is about all of them. -/
def Command.owner : Command → Option Identifier
  | .registerMerchant merchantId => some merchantId
  | .upsertCustomer row => some row.merchantId
  | .upsertPayment row => some row.merchantId
  | .upsertSubscription row => some row.merchantId
  | .persistNormalizedEvent event => some event.merchantId
  | .putMerchantRow row => some row.merchantId
  | .publishPolicy merchantId _ => some merchantId
  | .applyDegradationAssessment assessment _ _ => some assessment.merchantId
  | .processEvent _ merchantId _ _ _ => some merchantId
  | .reevaluateDeferred _ _ _ => none
  | .decideReview _ merchantId _ _ => some merchantId
  | .closeExpiredCustomerInterventions _ _ => none
  | .recordOverdueInvoice merchantId _ _ _ _ => some merchantId
  | .recordCustomerResponse merchantId _ _ _ _ _ => some merchantId
  | .scheduleDuePromiseReminders _ _ => none
  | .escalateBrokenPromises _ _ => none
  | .claimDueActions _ _ _ _ => none
  | .prepareExecution actionId _ _ => some actionId.merchantId
  | .recordExecutionResult actionId _ _ => some actionId.merchantId
  | .markStaleCallsUnknown _ _ => none
  | .recordLookup actionId _ => some actionId.merchantId
  | .verifySignedEvent event _ => some event.merchantId

def committed {A : Type} (x : Transaction A) (db : Database) : Bool := match x.run db with
  | .ok _ => true
  | .error _ => false

def expiredInterventions (dueAt : Instant) (db : Database) : List InterventionRow :=
  db.interventions.filter fun r => decide (r.status = .active ∧ r.cooldownUntil ≤ dueAt
    ∧ ((Table.lookup ActionRow.id r.actionId db.actions).map (·.status) = some .succeeded
      ∨ (Table.lookup ActionRow.id r.actionId db.actions).map (·.status) = some .failed))

/-- Where merchants do not meet: an event's id is no other merchant's, and a sweep commits and leaves no due row out. -/
def Command.Fair (rt : Runtime) : Command → Database → Prop
  | .persistNormalizedEvent event, db => OwnEvent event.merchantId event.eventId db
  | .recordOverdueInvoice merchantId sourceEventId _ _ _, db =>
    OwnEvent merchantId (invoiceEventId merchantId sourceEventId) db
  | .reevaluateDeferred inputs dueAt limit, db => (dueDeferredCases dueAt db.cases.length db).length ≤ limit
    ∧ committed (RevenueGuard.reevaluateDeferred rt inputs dueAt limit) db = true
  | .closeExpiredCustomerInterventions dueAt limit, db => (expiredInterventions dueAt db).length ≤ limit
  | .scheduleDuePromiseReminders dueAt limit, db =>
    (duePromises rt (·.reminderAt) (reminderDue dueAt) db.promises.length db).length ≤ limit
    ∧ committed (RevenueGuard.scheduleDuePromiseReminders rt dueAt limit) db = true
  | .escalateBrokenPromises dueAt limit, db =>
    (duePromises rt (·.promisedFor) (fun r => decide (r.promisedFor < dueAt)) db.promises.length db).length ≤ limit
    ∧ committed (RevenueGuard.escalateBrokenPromises rt dueAt limit) db = true
  | .claimDueActions _ now _ limit, db => (db.actions.filter fun r => decide (r.Due now)).length ≤ limit
  | .markStaleCallsUnknown now limit, db => (staleInflightActions now db.actions.length db).length ≤ limit
    ∧ committed (RevenueGuard.markStaleCallsUnknown rt now limit) db = true
  | _, _ => True

instance (rt : Runtime) (c : Command) (db : Database) : Decidable (c.Fair rt db) :=
  match c with
  | .persistNormalizedEvent .. => by unfold Command.Fair; infer_instance
  | .recordOverdueInvoice .. => by unfold Command.Fair; infer_instance
  | .reevaluateDeferred .. => by unfold Command.Fair; infer_instance
  | .closeExpiredCustomerInterventions .. => by unfold Command.Fair; infer_instance
  | .scheduleDuePromiseReminders .. => by unfold Command.Fair; infer_instance
  | .escalateBrokenPromises .. => by unfold Command.Fair; infer_instance
  | .claimDueActions .. => by unfold Command.Fair; infer_instance
  | .markStaleCallsUnknown .. => by unfold Command.Fair; infer_instance
  | .registerMerchant .. | .upsertCustomer .. | .upsertPayment .. | .upsertSubscription .. | .putMerchantRow ..
  | .publishPolicy .. | .applyDegradationAssessment .. | .processEvent .. | .decideReview ..
  | .recordCustomerResponse .. | .prepareExecution .. | .recordExecutionResult .. | .recordLookup ..
  | .verifySignedEvent .. => isTrue trivial

section batches

variable {R K : Type} [LinearOrder K] (time : R → Instant) (owner : R → Identifier) (rank : R → K)

theorem sweepOrder_total (a b : R) :
    (time a < time b ∨ (time a = time b ∧ ((owner a).val < (owner b).val ∨ (owner a = owner b ∧ rank a ≤ rank b)))) ∨
      (time b < time a ∨ (time b = time a ∧ ((owner b).val < (owner a).val ∨ (owner b = owner a ∧ rank b ≤ rank a)))) :=
  Table.lex_total (fun a b => time a = time b) (fun _ _ => Iff.rfl)
    (Table.lex_total (fun a b => owner a = owner b) (fun _ _ => Subtype.ext_iff) fun a b =>
      le_total (rank a) (rank b)) a b

theorem sweepOrder_trans (a b c : R)
    (first : time a < time b ∨ (time a = time b ∧ ((owner a).val < (owner b).val ∨ (owner a = owner b ∧ rank a ≤ rank b))))
    (second : time b < time c ∨ (time b = time c ∧ ((owner b).val < (owner c).val ∨ (owner b = owner c ∧ rank b ≤ rank c)))) :
    time a < time c ∨ (time a = time c ∧ ((owner a).val < (owner c).val ∨ (owner a = owner c ∧ rank a ≤ rank c))) :=
  Table.lex_trans (fun a b => time a = time b) (fun _ _ => Iff.rfl)
    (Table.lex_trans (fun a b => owner a = owner b) (fun _ _ => Subtype.ext_iff) fun a b c =>
      le_trans (a := rank a) (b := rank b) (c := rank c)) a b c first second

theorem take_all {rows due : List R} {limit : Nat} {r : R → R → Prop} [DecidableRel r] (part : due.length ≤ rows.length)
    (all : ((due.insertionSort r).take rows.length).length ≤ limit) : due.length ≤ limit := by
  rw [List.length_take, List.length_insertionSort] at all
  omega

theorem share_dueCases {dueAt : Instant} {limit : Nat} (all : (dueDeferredCases dueAt db.cases.length db).length ≤ limit) :
    dueDeferredCases dueAt limit (db.ofMerchant m) = Table.select CaseRow.owner m (dueDeferredCases dueAt limit db) :=
  (Table.select_batch _
    (sweepOrder_total (fun r : CaseRow => r.case.nextEvaluationAt.getD 0) CaseRow.owner fun r => r.case.caseId.val)
    (sweepOrder_trans (fun r : CaseRow => r.case.nextEvaluationAt.getD 0) CaseRow.owner fun r => r.case.caseId.val)
    (take_all (List.length_filter_le _ _) all)).symm

theorem share_duePromises {time : PromiseRow → Instant} {due : PromiseRow → Bool} {limit : Nat}
    (all : (duePromises rt time due db.promises.length db).length ≤ limit) :
    duePromises rt time due limit (db.ofMerchant m) =
      Table.select PromiseRow.merchantId m (duePromises rt time due limit db) :=
  (Table.select_batch _ (sweepOrder_total time PromiseRow.merchantId fun r => rt.promiseOrder r.promiseId)
    (sweepOrder_trans time PromiseRow.merchantId fun r => rt.promiseOrder r.promiseId)
    (take_all (List.length_filter_le _ _) all)).symm

theorem share_staleCalls {now : Instant} {limit : Nat} (all : (staleInflightActions now db.actions.length db).length ≤ limit) :
    staleInflightActions now limit (db.ofMerchant m) = Table.select ActionRow.owner m (staleInflightActions now limit db) := by
  refine (Table.select_batch _ (fun a b => ?_) (fun a b c => ?_) (take_all (List.length_filter_le _ _) all)).symm
  · exact Int.le_total _ _
  · exact Int.le_trans

def dueBatch (rt : Runtime) (now : Instant) (limit : Nat) (db : Database) : List ActionRow :=
  ((db.actions.filter fun r => decide (r.Due now)).insertionSort (dueBefore rt (·.nextAttemptAt))).take limit

theorem share_dueActions {now : Instant} {limit : Nat} (all : (db.actions.filter fun r => decide (r.Due now)).length ≤ limit) :
    dueBatch rt now limit (db.ofMerchant m) = Table.select ActionRow.owner m (dueBatch rt now limit db) :=
  (Table.select_batch (dueBefore rt (·.nextAttemptAt))
    (sweepOrder_total ActionRow.nextAttemptAt ActionRow.owner fun r => rt.digestOrder r.id)
    (sweepOrder_trans ActionRow.nextAttemptAt ActionRow.owner fun r => rt.digestOrder r.id) all).symm

end batches

section sweeps

/-- What a transaction over all merchants leaves of each: what it makes of that merchant's rows. -/
def Divides (x : Transaction A) (db : Database) : Prop :=
  AtHome (x.commit db) ∧ ∀ m, (x.commit db).ofMerchant m = x.commit (db.ofMerchant m)

theorem divides_of {A B : Type} {batch : Database → List A} {f : A → Transaction B} {owner : A → Identifier} {c : Prop}
    [Decidable c] {e : Failure} (home : AtHome db) (body : ∀ a ∈ batch db, ScopedTo (owner a) Any (f a))
    (share : ∀ m, batch (db.ofMerchant m) = Table.select owner m (batch db))
    (done : committed (Tx.check c e >>= fun _ => Tx.read batch >>= fun rows => Tx.each f rows) db = true) :
    Divides (Tx.check c e >>= fun _ => Tx.read batch >>= fun rows => Tx.each f rows) db := by
  unfold committed at done
  split at done
  · rename_i out ran
    obtain ⟨kept, parts⟩ := Tx.sweep_part body home (t := out.2) ran
    rw [Divides, Tx.commit_of_ok (a := out.1) (t := out.2) ran]
    refine ⟨kept, fun m => ?_⟩
    obtain ⟨cs, same⟩ := parts m (share m)
    exact (Tx.commit_of_ok same).symm
  · cases done

theorem committed_of {A : Type} {x : Transaction A} {a : A} (ran : x.run db = .ok (a, db')) : committed x db = true := by
  rw [committed, ran]

theorem reevaluateDeferred_divides {inputs : CaseKey → EvaluationInputs} {dueAt : Instant} {limit : Nat} (home : AtHome db)
    (all : (dueDeferredCases dueAt db.cases.length db).length ≤ limit)
    (done : committed (reevaluateDeferred rt inputs dueAt limit) db = true) :
    Divides (reevaluateDeferred rt inputs dueAt limit) db :=
  divides_of home (fun row _ => reevaluateRow_scoped inputs row) (fun _ => share_dueCases all) done

theorem duePromise_home {time : PromiseRow → Instant} {due : PromiseRow → Bool} {limit : Nat} (home : AtHome db) :
    ∀ r ∈ duePromises rt time due limit db, r.promiseId.merchantId = r.merchantId := by
  intro r member
  exact home.promises r (List.mem_filter.mp ((List.mem_insertionSort _).mp (List.mem_of_mem_take member))).1

theorem scheduleDuePromiseReminders_divides {dueAt : Instant} {limit : Nat} (home : AtHome db)
    (all : (duePromises rt (·.reminderAt) (reminderDue dueAt) db.promises.length db).length ≤ limit)
    (done : committed (scheduleDuePromiseReminders rt dueAt limit) db = true) :
    Divides (scheduleDuePromiseReminders rt dueAt limit) db :=
  divides_of home (fun promise member => remindPromise_scoped (duePromise_home home promise member))
    (fun _ => share_duePromises all) done

theorem escalateBrokenPromises_divides {dueAt : Instant} {limit : Nat} (home : AtHome db)
    (all : (duePromises rt (·.promisedFor) (fun r => decide (r.promisedFor < dueAt)) db.promises.length db).length ≤ limit)
    (done : committed (escalateBrokenPromises rt dueAt limit) db = true) :
    Divides (escalateBrokenPromises rt dueAt limit) db :=
  divides_of home (fun promise member => escalateBrokenPromise_scoped (duePromise_home home promise member))
    (fun _ => share_duePromises all) done

theorem markStaleCallsUnknown_divides {now : Instant} {limit : Nat} (home : AtHome db)
    (all : (staleInflightActions now db.actions.length db).length ≤ limit)
    (done : committed (markStaleCallsUnknown rt now limit) db = true) :
    Divides (markStaleCallsUnknown rt now limit) db :=
  divides_of home (fun _ _ => markStaleCall_scoped) (fun _ => share_staleCalls all) done

theorem leaseRow_scoped (tokens : ActionIdentity → String) (now : Instant) (leaseFor : Int) (row : ActionRow) :
    ScopedTo row.owner Any (do
      Tx.write (updateAction row.id (ActionRow.lease (tokens row.id) now leaseFor))
      pure (⟨row.id, tokens row.id⟩ : ClaimedAction) : Transaction ClaimedAction) :=
  .bind (write_action rfl fun _ => rfl) fun _ _ => .pure trivial

theorem claimDueActions_divides {tokens : ActionIdentity → String} {now : Instant} {leaseFor : Int} {limit : Nat}
    (home : AtHome db) (all : (db.actions.filter fun r => decide (r.Due now)).length ≤ limit) :
    Divides (claimDueActions rt tokens now leaseFor limit) db := by
  by_cases positive : 0 < leaseFor ∧ 0 < limit
  · refine divides_of home (fun row _ => leaseRow_scoped tokens now leaseFor row) (fun _ => share_dueActions all) ?_
    obtain ⟨d, leased⟩ := claims_return tokens now leaseFor (dueBatch rt now limit db) db
    exact committed_of ((Tx.bind_of_ok (Tx.check_of positive)).trans ((Tx.bind_of_ok (Tx.run_read _ _)).trans leased))
  · have refused : ∀ d, (claimDueActions rt tokens now leaseFor limit).run d = .error (.value _) := fun d =>
      Tx.bind_of_error (Tx.check_fails positive)
    refine ⟨?_, fun m => ?_⟩
    · rwa [Tx.commit_of_error (refused db)]
    · rw [Tx.commit_of_error (refused db), Tx.commit_of_error (refused _)]

theorem ofMerchant_actionStatus {r : InterventionRow} (here : r.actionId.merchantId = m) :
    Table.lookup ActionRow.id r.actionId (db.ofMerchant m).actions = Table.lookup ActionRow.id r.actionId db.actions :=
  ofMerchant_action here

theorem ofMerchant_expired (home : AtHome db) (dueAt : Instant) :
    expiredInterventions dueAt (db.ofMerchant m) = Table.select InterventionRow.merchantId m (expiredInterventions dueAt db) := by
  rw [expiredInterventions, expiredInterventions, ← Table.filter_select_comm]
  refine List.filter_congr fun r member => ?_
  obtain ⟨stored, here⟩ := Table.mem_select.mp member
  rw [ofMerchant_actionStatus ((home.interventions r stored).trans here)]

def InterventionRow.expire (dueAt : Instant) (db : Database) (r : InterventionRow) : InterventionRow :=
  { r with
    status := .closed
    closedAt := some dueAt
    closeReason := some (if (Table.lookup ActionRow.id r.actionId db.actions).map (·.status) = some .succeeded
      then "CONTACT_COOLDOWN_COMPLETED" else "CONTACT_ACTION_FAILED")
    updatedAt := dueAt }

def expireAll (dueAt : Instant) (db : Database) : Database :=
  { db with interventions := db.interventions.map fun r =>
      if r ∈ expiredInterventions dueAt db then r.expire dueAt db else r }

theorem closeExpired_commit {dueAt : Instant} {limit : Nat} (all : (expiredInterventions dueAt db).length ≤ limit)
    (positive : 0 < limit) : (closeExpiredCustomerInterventions rt dueAt limit).commit db = expireAll dueAt db := by
  unfold closeExpiredCustomerInterventions
  rw [Tx.commit_of_ok ((Tx.bind_of_ok (Tx.check_of positive)).trans ((Tx.bind_of_ok (Tx.run_read _ _)).trans rfl))]
  refine congrArg (fun rows => { db with interventions := rows }) (List.map_congr_left fun r _ => ?_)
  refine if_congr ?_ rfl rfl
  rw [List.take_of_length_le (by rw [List.length_insertionSort]; exact all), List.mem_insertionSort]
  rfl

theorem expire_home {dueAt : Instant} (home : AtHome db) : AtHome (expireAll dueAt db) := by
  refine { home with interventions := fun r member => ?_ }
  obtain ⟨before, stored, rfl⟩ := List.mem_map.mp member
  split <;> exact home.interventions before stored

theorem ofMerchant_expireAll {dueAt : Instant} (home : AtHome db) :
    (expireAll dueAt db).ofMerchant m = expireAll dueAt (db.ofMerchant m) := by
  have rows : Table.select InterventionRow.merchantId m (db.interventions.map fun r =>
      if r ∈ expiredInterventions dueAt db then r.expire dueAt db else r) =
      (Table.select InterventionRow.merchantId m db.interventions).map fun r =>
        if r ∈ expiredInterventions dueAt (db.ofMerchant m) then r.expire dueAt (db.ofMerchant m) else r := by
    rw [Table.select_map fun r _ => by split <;> rfl]
    refine List.map_congr_left fun r member => ?_
    obtain ⟨stored, here⟩ := Table.mem_select.mp member
    rw [ofMerchant_expired home]
    refine if_congr (Table.mem_select.trans (and_iff_left here)).symm ?_ rfl
    simp only [InterventionRow.expire, ofMerchant_actionStatus ((home.interventions r stored).trans here)]
  exact congrArg (fun rows => { db.ofMerchant m with interventions := rows }) rows

theorem closeExpired_divides {dueAt : Instant} {limit : Nat} (home : AtHome db)
    (all : (expiredInterventions dueAt db).length ≤ limit) :
    Divides (closeExpiredCustomerInterventions rt dueAt limit) db := by
  by_cases positive : 0 < limit
  · have fewer : ∀ m, (expiredInterventions dueAt (db.ofMerchant m)).length ≤ limit := by
      intro m
      rw [ofMerchant_expired home]
      exact Nat.le_trans (List.length_filter_le _ _) all
    rw [Divides, closeExpired_commit all positive]
    refine ⟨expire_home home, fun m => ?_⟩
    rw [closeExpired_commit (fewer m) positive, ofMerchant_expireAll home]
  · have refused : ∀ d, (closeExpiredCustomerInterventions rt dueAt limit).run d = .error (.value _) := fun d =>
      Tx.bind_of_error (Tx.check_fails positive)
    refine ⟨?_, fun m => ?_⟩
    · rwa [Tx.commit_of_error (refused db)]
    · rw [Tx.commit_of_error (refused db), Tx.commit_of_error (refused _)]

end sweeps

section isolation

/-- A command about one merchant: the same on that merchant's rows, and nothing on others'. -/
def Touches (m : Identifier) (c : Command) (rt : Runtime) (db : Database) : Prop :=
  (exec rt c db).ofMerchant m = exec rt c (db.ofMerchant m) ∧ ∀ j, j ≠ m → (exec rt c db).ofMerchant j = db.ofMerchant j

theorem touches_of {A : Type} {P : A → Prop} {x : Transaction A} {Inv : Database → Prop}
    (h : Tx.Scoped Database.ofMerchant Inv m P x) (inv : Inv db) :
    (x.commit db).ofMerchant m = x.commit (db.ofMerchant m) ∧
      ∀ j, j ≠ m → (x.commit db).ofMerchant j = db.ofMerchant j :=
  ⟨h.commit_inside inv, (h.commit_apart inv).2⟩

theorem exec_touches {c : Command} (home : AtHome db) (fair : c.Fair rt db) (own : c.owner = some m) : Touches m c rt db := by
  cases c <;> cases own
  case registerMerchant => exact touches_of registerMerchant_scoped home
  case upsertCustomer row => exact touches_of (upsertCustomer_scoped rfl) home
  case upsertPayment row => exact touches_of (upsertPayment_scoped rfl) home
  case upsertSubscription row => exact touches_of (upsertSubscription_scoped rfl) home
  case persistNormalizedEvent event => exact touches_of (persistNormalizedEvent_scoped event) ⟨home, fair⟩
  case putMerchantRow row => exact touches_of (putMerchantRow_scoped rfl) home
  case publishPolicy policy => exact touches_of (publishPolicy_scoped policy) home
  case applyDegradationAssessment a policy id => exact touches_of (applyDegradationAssessment_scoped rfl policy id) home
  case processEvent inputs eventId caseId t => exact touches_of (processEvent_scoped inputs eventId caseId) home
  case decideReview inputs decision t => exact touches_of (decideReviewRequest_scoped inputs decision) home
  case recordOverdueInvoice source o t received => exact touches_of (recordOverdueInvoice_scoped source o received) ⟨home, fair⟩
  case recordCustomerResponse source invoice body reply t =>
    exact touches_of (recordCustomerResponse_scoped source invoice body reply) home
  case prepareExecution id token t => exact touches_of (prepareExecution_scoped rfl token) home
  case recordExecutionResult id token result => exact touches_of (recordExecutionResult_scoped rfl token result) home
  case recordLookup id result => exact touches_of (recordLookup_scoped rfl result) home
  case verifySignedEvent event webhook => exact touches_of (verifySignedEvent_scoped rfl webhook) home

theorem exec_divides {c : Command} (home : AtHome db) (fair : c.Fair rt db) (sweep : c.owner = none) :
    AtHome (exec rt c db) ∧ ∀ m, (exec rt c db).ofMerchant m = exec rt c (db.ofMerchant m) := by
  cases c <;> cases sweep
  case reevaluateDeferred inputs t limit => exact reevaluateDeferred_divides home fair.1 fair.2
  case closeExpiredCustomerInterventions t limit => exact closeExpired_divides home fair
  case scheduleDuePromiseReminders t limit => exact scheduleDuePromiseReminders_divides home fair.1 fair.2
  case escalateBrokenPromises t limit => exact escalateBrokenPromises_divides home fair.1 fair.2
  case claimDueActions tokens now leaseFor limit => exact claimDueActions_divides home fair
  case markStaleCallsUnknown now limit => exact markStaleCallsUnknown_divides home fair.1 fair.2

theorem sweep_home {A B : Type} {batch : Database → List A} {f : A → Transaction B} {owner : A → Identifier} {c : Prop}
    [Decidable c] {e : Failure} (home : AtHome db) (body : ∀ a ∈ batch db, ScopedTo (owner a) Any (f a)) :
    AtHome ((Tx.check c e >>= fun _ => Tx.read batch >>= fun rows => Tx.each f rows).commit db) :=
  Tx.commit_relates (R := fun _ d => AtHome d) home fun ran => (Tx.sweep_part body home ran).1

theorem Persists.home {event : NormalizedEvent} (h : Persists event db db') (home : AtHome db) : AtHome db' := by
  rcases h with rfl | rfl
  · exact home
  · exact home.of_same rfl rfl rfl rfl

theorem home_of {A : Type} {P : A → Prop} {x : Transaction A} (h : ScopedTo m P x) :
    Tx.Keeps x fun s s' => AtHome s → AtHome s' := fun _ _ _ ran home => (h.stays home ran).2.1

theorem closeExpired_home {t : Instant} {limit n : Nat} (home : AtHome db)
    (ran : (closeExpiredCustomerInterventions rt t limit).run db = .ok (n, db')) : AtHome db' := by
  obtain ⟨_, _, checked, ran⟩ := Tx.bind_ok ran
  obtain ⟨-, rfl⟩ := Tx.check_ok checked
  obtain ⟨rows, _, looked, ran⟩ := Tx.bind_ok ran
  obtain ⟨-, rfl⟩ := Tx.read_ok looked
  obtain ⟨_, _, written, ran⟩ := Tx.bind_ok ran
  obtain ⟨-, rfl⟩ := Tx.pure_ok ran
  rw [Tx.write_ok written]
  refine { home with interventions := fun r member => ?_ }
  obtain ⟨before, stored, rfl⟩ := List.mem_map.mp member
  split <;> exact home.interventions before stored

theorem exec_home (c : Command) (home : AtHome db) : AtHome (exec rt c db) := by
  cases c with
  | registerMerchant m => exact (registerMerchant_scoped.commit_apart home).1
  | upsertCustomer row => exact ((upsertCustomer_scoped rfl).commit_apart home).1
  | upsertPayment row => exact ((upsertPayment_scoped rfl).commit_apart home).1
  | upsertSubscription row => exact ((upsertSubscription_scoped rfl).commit_apart home).1
  | persistNormalizedEvent event =>
    exact Tx.commit_relates (R := fun _ d => AtHome d) home fun ran => (persistNormalizedEvent_persists event _ _ _ ran).home home
  | putMerchantRow row => exact ((putMerchantRow_scoped rfl).commit_apart home).1
  | publishPolicy m policy => exact ((publishPolicy_scoped policy).commit_apart home).1
  | applyDegradationAssessment a policy id =>
    exact ((applyDegradationAssessment_scoped rfl policy id).commit_apart home).1
  | processEvent inputs m eventId caseId t => exact ((processEvent_scoped inputs eventId caseId).commit_apart home).1
  | reevaluateDeferred inputs t limit => exact sweep_home home fun row _ => reevaluateRow_scoped inputs row
  | decideReview inputs m decision t => exact ((decideReviewRequest_scoped inputs decision).commit_apart home).1
  | closeExpiredCustomerInterventions t limit =>
    exact Tx.commit_relates (R := fun _ d => AtHome d) home fun ran => closeExpired_home home ran
  | recordOverdueInvoice m source o t received =>
    have closed : Tx.Closed fun s s' => AtHome s → AtHome s' := ⟨fun _ h => h, fun h h' home => h' (h home)⟩
    exact Tx.commit_relates (R := fun _ d => AtHome d) home fun ran =>
      (closed.bind (home_of (recordMerchantEvent_scoped source o)) fun _ =>
        closed.bind (home_of (upsertOverdueInvoice_scoped o)) fun _ _ _ _ h => (persistMerchantEvent_persists _ _ _ _ h).home) _ _ _ ran home
  | recordCustomerResponse m source invoice body reply t =>
    exact ((recordCustomerResponse_scoped source invoice body reply).commit_apart home).1
  | scheduleDuePromiseReminders t limit =>
    exact sweep_home home fun promise member => remindPromise_scoped (duePromise_home home promise member)
  | escalateBrokenPromises t limit =>
    exact sweep_home home fun promise member => escalateBrokenPromise_scoped (duePromise_home home promise member)
  | claimDueActions tokens now leaseFor limit => exact sweep_home home fun row _ => leaseRow_scoped tokens now leaseFor row
  | prepareExecution id token t => exact ((prepareExecution_scoped rfl token).commit_apart home).1
  | recordExecutionResult id token result => exact ((recordExecutionResult_scoped rfl token result).commit_apart home).1
  | markStaleCallsUnknown now limit => exact sweep_home home fun _ _ => markStaleCall_scoped
  | recordLookup id result => exact ((recordLookup_scoped rfl result).commit_apart home).1
  | verifySignedEvent event webhook => exact ((verifySignedEvent_scoped rfl webhook).commit_apart home).1

theorem atHome_invariant (reach : Reachable rt db) : AtHome db :=
  Runs.Reaches.invariant AtHome reach atHome_empty fun c _ home _ => exec_home c home

theorem tenants_parted (rt : Runtime) :
    Runs.Parted Database.ofMerchant AtHome Command.owner (exec rt) (Command.Fair rt) where
  keeps home _ := exec_home _ home
  inside home fair mine := by
    rcases mine with sweep | own
    · exact (exec_divides home fair sweep).2 _
    · exact (exec_touches home fair own).1
  outside home fair own other := (exec_touches home fair own).2 _ other

/-- What a run leaves of one merchant is what that merchant's commands and the sweeps alone leave of it. -/
theorem tenant_isolation (m : Identifier) {commands : List Command} (reach : Reachable rt db)
    (fair : Runs.Allowed (exec rt) (Command.Fair rt) commands db) :
    (execAll rt commands db).ofMerchant m =
      execAll rt (Runs.concerning Command.owner m commands) (db.ofMerchant m) :=
  (tenants_parted rt).run m (atHome_invariant reach) fair

section runs

def initech : Identifier := ident "initech"

/-- Another merchant's payment of the same id fails, and both merchants' actions are claimed at once. -/
def twoTenants : List Command :=
  linkAuthorized linksOnly ++ [.registerMerchant initech, .publishPolicy initech linksOnly] ++
    ingested { expiredCard (ident "event-2") (ident "pay-1") 6 with merchantId := initech } ++
    [.processEvent (drawn "receipt-1") initech (ident "event-2") (ident "case-1") 12,
    .claimDueActions (fun _ => "lease-1") 20 1000 5, .prepareExecution link1 "lease-1" 25]

set_option maxRecDepth 100000 in
theorem tenant_isolation_first :
    (execAll {} twoTenants {}).actions.length = 2 ∧ Runs.concerning Command.owner acme twoTenants = linkBegun linksOnly ∧
      (execAll {} twoTenants {}).ofMerchant acme =
        execAll {} (Runs.concerning Command.owner acme twoTenants) (({} : Database).ofMerchant acme) :=
  ⟨by decide +kernel, rfl, tenant_isolation acme .start (by decide +kernel)⟩

end runs

end isolation

end RevenueGuard
