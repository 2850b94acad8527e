import RevenueGuard.Protocol.Contacts
import RevenueGuard.Safety.Outbox

/-
What the services leave of an action whose outcome is awaited or known: only a
lookup past the reconciliation deadline gives an unanswered action up, and only a
late answer without an outcome reopens one that was given up.
-/
namespace RevenueGuard

variable {db d db' : Database} {given : ActionIdentity → Prop} {rt : Runtime} {id : ActionIdentity} {t : Instant}

/-- An outcome is still to come. -/
def ActionRow.Awaited (a : ActionRow) : Prop := a.deadLetteredAt = none ∧ (a.status = .pending ∨ a.status = .unknown)

def ActionRow.Answered (a : ActionRow) : Prop := a.status = .succeeded ∨ a.status = .failed

def ActionRow.Followed (a : ActionRow) : Prop := a.Awaited ∨ a.Answered

instance (a : ActionRow) : Decidable a.Awaited := inferInstanceAs (Decidable (_ ∧ _))

instance (a : ActionRow) : Decidable a.Answered := inferInstanceAs (Decidable (_ ∨ _))

theorem followed_iff (a : ActionRow) : a.Followed ↔ a.deadLetteredAt = none ∨ a.Answered := by
  unfold ActionRow.Followed ActionRow.Awaited ActionRow.Answered
  cases a.status <;> simp

/-- Actions that are not given up stay followed. -/
structure Follows (given : ActionIdentity → Prop) (db db' : Database) : Prop where
  stays : ∀ {id a}, db.action id = some a → ¬ given id → a.Followed → ∃ a', db'.action id = some a' ∧ a'.Followed

theorem Follows.refl (db : Database) : Follows given db db := ⟨fun found _ followed => ⟨_, found, followed⟩⟩

theorem Follows.trans {d e f : Database} (h : Follows given d e) (h' : Follows given e f) : Follows given d f := by
  constructor
  intro id a found kept followed
  obtain ⟨b, there, still⟩ := h.stays found kept followed
  exact h'.stays there kept still

theorem follows_closed : Tx.Closed (Follows given) := ⟨.refl, .trans⟩

theorem Follows.of_actions (actions : db'.actions = db.actions) : Follows given db db' := by
  constructor
  intro id a found _ followed
  refine ⟨a, ?_, followed⟩
  rw [Database.action, actions]
  exact found

theorem follows_of {A : Type} {x : Transaction A} (keeps : Tx.Keeps x Spared) : Tx.Keeps x (Follows given) :=
  keeps.mono fun h => .of_actions h.actions

theorem follows_write {f : Database → Database} (actions : ∀ s, (f s).actions = s.actions) :
    Tx.Keeps (Tx.write f : Transaction Unit) (Follows given) := Tx.Closed.write fun s => .of_actions (actions s)

theorem Follows.update {f : ActionRow → ActionRow} (keeps : ∀ a, (f a).id = a.id)
    (stays : ∀ a ∈ db.action id, ¬ given id → a.Followed → (f a).Followed) : Follows given db (updateAction id f db) := by
  have keepsKey : Table.KeepsKey ActionRow.id id f := fun a here => (keeps a).trans here
  constructor
  intro id' a found kept followed
  by_cases here : id' = id
  · subst here
    refine ⟨f a, ?_, stays a found kept followed⟩
    rw [Database.action] at found ⊢
    rw [updateAction, Table.lookup_update_self keepsKey, found]
    rfl
  · refine ⟨a, ?_, followed⟩
    rw [Database.action] at found ⊢
    rw [updateAction, Table.lookup_update_ne keepsKey here]
    exact found

theorem updateAction_follows (f : ActionRow → ActionRow) (keeps : ∀ a, (f a).id = a.id)
    (stays : ∀ a, a.Followed → (f a).Followed) :
    Tx.Keeps (Tx.write (updateAction id f) : Transaction Unit) (Follows given) :=
  Tx.Closed.write fun _ => .update keeps fun a _ _ => stays a

section execution

variable {case : RecoveryCase} {action : ActionRow} {check : FinalPolicyCheck} {result : ProviderLookupResult}
  {answer : ProviderExecutionResult}

theorem blockExecution_follows (action : ActionRow) (case : RecoveryCase) (check : FinalPolicyCheck) (t : Instant) :
    Tx.Keeps (blockExecution action case check t) (Follows given) := by
  unfold blockExecution
  refine follows_closed.bind (follows_closed.bind (follows_closed.check _ _) fun _ => ?_) fun _ => ?_
  · exact updateAction_follows _ (fun _ => rfl) fun _ _ => .inr (.inr rfl)
  · dsimp only
    rw [Tx.ite_bind]
    exact follows_closed.bind (follows_of (transitionIf_spared _ _)) fun _ =>
      follows_closed.bind (follows_of (recoveryTransition_spared _ _ _ _ _)) fun _ =>
      follows_closed.bind (follows_of (rerouteBlocked_spared _ _ _ _)) fun _ => follows_closed.pure _

theorem beginAttempt_follows (token : String) (t : Instant) : Tx.Keeps (beginAttempt id token t) (Follows given) := by
  intro s done s' h
  obtain ⟨r, -, -, -, -, -, -, -, -, rfl⟩ := beginAttempt_effect h
  exact .update (fun _ => rfl) fun _ _ _ followed => followed

theorem beginExecution_follows (action : ActionRow) (case : RecoveryCase) (token : String) (t : Instant) :
    Tx.Keeps (beginExecution rt action case token t) (Follows given) :=
  follows_closed.bind (beginAttempt_follows _ _) fun _ =>
    follows_closed.bind (follows_of (startExecution_spared _ _ _)) fun _ =>
      follows_closed.bind (follows_closed.lift _) fun _ => follows_closed.pure _

theorem prepareExecution_follows (token : String) (t : Instant) : Tx.Keeps (prepareExecution rt id token t) (Follows given) := by
  intro s p s' h
  obtain ⟨action, case, check, preparing⟩ := prepareExecution_ok h
  have checked : Follows given s _ := .of_actions (finalPolicyDecision_spared _ _ _ _ _ _ preparing.checked).actions
  rcases preparing.branch with ⟨-, out, -, block⟩ | ⟨-, begins⟩
  · exact checked.trans (blockExecution_follows _ _ _ _ _ _ _ block)
  · exact checked.trans (beginExecution_follows _ _ _ _ _ _ _ begins)

/-- A call without an outcome is reported for an action given up meanwhile. -/
def Reopens (id : ActionIdentity) (answer : ProviderExecutionResult) (db : Database) : Prop :=
  answer.status = .unknown ∧ ∃ action ∈ db.action id, action.deadLetteredAt.isSome = true

instance decidableReopened (id : ActionIdentity) (answer : ProviderExecutionResult) (db : Database) : Decidable (Reopens id answer db) :=
  inferInstanceAs (Decidable (_ ∧ _))

theorem finish_followed {a : ActionRow} {c : AttemptCompletion} (answered : c.outcomeStatus ≠ .pending)
    (live : c.outcomeStatus = .unknown → a.deadLetteredAt = none) (followed : a.Followed) (token : String) (again d : Instant) :
    (a.finish token c again d).Followed := by
  unfold ActionRow.finish
  dsimp only
  split
  · exact followed
  · cases outcome : c.outcomeStatus with
    | pending => exact absurd outcome answered
    | succeeded => exact .inr (.inl rfl)
    | failed => exact .inr (.inr rfl)
    | unknown =>
      rw [followed_iff]
      exact .inl (live outcome)

theorem finishAttempt_follows {token : String} {again d : Instant} {r : ActionRow} (allowed : Reopens id answer db → given id)
    (h : (finishAttempt id token answer.completion again d).run db = .ok (r, db')) : Follows given db db' := by
  obtain ⟨r, stored, -, -, -, rfl⟩ := finishAttempt_effect h
  refine .update (finish_id token answer.completion again d) fun a found kept followed =>
    finish_followed answer.settled (fun unknown => ?_) followed token again d
  by_contra dead
  exact kept (allowed ⟨unknown, a, found, Option.isSome_iff_ne_none.mpr dead⟩)

/-- A recorded answer closes the attempt, and touches no action beside it. -/
theorem recordExecutionResult_finishes {token : String} {out : ExecutionDisposition}
    (h : (recordExecutionResult rt id token answer).run db = .ok (out, db')) : ∃ again deadline done d,
      (finishAttempt id token answer.completion again deadline).run db = .ok (done, d) ∧ db'.actions = d.actions := by
  obtain ⟨_, _, read, h⟩ := Tx.bind_ok h
  obtain ⟨-, rfl⟩ := Tx.read_ok read
  obtain ⟨_, _, found, h⟩ := Tx.bind_ok h
  obtain ⟨-, rfl⟩ := Tx.found_ok found
  obtain ⟨done, d, finished, h⟩ := Tx.bind_ok h
  refine ⟨_, _, done, d, finished, Spared.actions ?_⟩
  refine spared_closed.bind (requiredCase_spared _) (fun _ => ?_) _ _ _ h
  split
  · exact spared_closed.pure _
  split
  · exact spared_closed.bind (recoveryTransition_spared _ _ _ _ _) fun _ =>
      spared_closed.bind (storeObservation_spared _) fun _ => spared_closed.pure _
  split
  · exact spared_closed.bind (recoveryTransition_spared _ _ _ _ _) fun _ =>
      spared_closed.bind (storeObservation_spared _) fun _ => spared_closed.pure _
  · exact spared_closed.bind (recoveryTransition_spared _ _ _ _ _) fun _ =>
      spared_closed.bind (storeObservation_spared _) fun _ =>
      spared_closed.bind (recoveryTransition_spared _ _ _ _ _) fun _ => spared_closed.pure _

theorem recordExecutionResult_follows {token : String} {out : ExecutionDisposition}
    (allowed : Reopens id answer db → given id)
    (h : (recordExecutionResult rt id token answer).run db = .ok (out, db')) : Follows given db db' := by
  obtain ⟨again, deadline, done, d, finished, rest⟩ := recordExecutionResult_finishes h
  exact (finishAttempt_follows allowed finished).trans (.of_actions rest)

/-- The actions whose open calls are given up as lost are pending. -/
def StillPending (rows : List ActionRow) (db : Database) : Prop :=
  ∀ r ∈ rows, ∀ a ∈ db.action r.id, a.openAttempts ≠ [] → a.status = .pending

theorem markStaleCall_follows {rows : List ActionRow} {out : ExecutionDisposition} (pending : StillPending (action :: rows) db)
    (h : (markStaleCall rt t action).run db = .ok (out, db')) : Follows given db db' ∧ StillPending rows db' := by
  obtain ⟨_, d, marked, h⟩ := Tx.bind_ok h
  obtain ⟨r, stored, inFlight, rfl⟩ := markStaleInflightUnknown_effect marked
  have rest : Tx.Keeps (do
      let case ← requiredCase action
      let case ← if case.state = .executing then executionTransition case action .unknown "INCOMPLETE_PROVIDER_CALL" t
        else pure case
      storeObservation (observation action .unknown .none t none (some "INCOMPLETE_PROVIDER_CALL") false)
      pure (⟨action.id, .unknown, case.state, "UNKNOWN"⟩ : ExecutionDisposition) : Transaction ExecutionDisposition) Spared := by
    refine spared_closed.bind (requiredCase_spared _) fun _ => ?_
    dsimp only
    rw [Tx.ite_bind]
    exact spared_closed.bind (transitionIf_spared _ _) fun _ => spared_closed.bind (storeObservation_spared _) fun _ =>
      spared_closed.pure _
  have kept := (rest _ _ _ h).actions
  refine ⟨Follows.trans (.update (f := ActionRow.lost t (t + rt.unknownTtl)) (fun _ => rfl) fun a found _ followed => ?_)
    (.of_actions kept), fun x member a found => ?_⟩
  · obtain rfl : r = a := Option.some.inj (stored.symm.trans found)
    have open_ := pending action List.mem_cons_self r stored inFlight
    rcases followed with awaited | settled
    · exact .inl ⟨awaited.1, .inr rfl⟩
    · rw [ActionRow.Answered, open_] at settled
      rcases settled with impossible | impossible <;> cases impossible
  · have keepsKey : Table.KeepsKey ActionRow.id action.id (ActionRow.lost t (t + rt.unknownTtl)) := fun a here => here
    rw [Option.mem_def, Database.action, kept, updateAction] at found
    by_cases here : x.id = action.id
    · rw [here, Table.lookup_update_self keepsKey] at found
      obtain ⟨b, -, rfl⟩ := Option.map_eq_some_iff.mp found
      intro running
      exact absurd (lost_idle b t _) running
    · rw [Table.lookup_update_ne keepsKey here] at found
      exact pending x (List.mem_cons_of_mem _ member) a found

theorem markStaleCalls_follows {rows : List ActionRow} {out : List ExecutionDisposition} (pending : StillPending rows db)
    (h : (Tx.each (markStaleCall rt t) rows).run db = .ok (out, db')) : Follows given db db' := by
  induction rows generalizing db out with
  | nil =>
    obtain ⟨-, rfl⟩ := Tx.pure_ok h
    exact .refl _
  | cons action rest ih =>
    obtain ⟨_, d, first, h⟩ := Tx.bind_ok h
    obtain ⟨_, e, later, h⟩ := Tx.bind_ok h
    obtain ⟨-, rfl⟩ := Tx.pure_ok h
    obtain ⟨follows, still⟩ := markStaleCall_follows pending first
    exact follows.trans (ih still later)

theorem markStaleCallsUnknown_follows {limit : Nat} {out : List ExecutionDisposition}
    (ids : ∀ a ∈ db.actions, db.action a.id = some a)
    (h : (markStaleCallsUnknown rt t limit).run db = .ok (out, db')) : Follows given db db' := by
  obtain ⟨_, _, checked, h⟩ := Tx.bind_ok h
  obtain ⟨-, rfl⟩ := Tx.check_ok checked
  obtain ⟨rows, _, read, h⟩ := Tx.bind_ok h
  obtain ⟨rfl, rfl⟩ := Tx.read_ok read
  refine markStaleCalls_follows (fun r member a found _ => ?_) h
  have stale := (List.mem_filter.mp ((List.mem_insertionSort _).mp (List.mem_of_mem_take member)))
  obtain rfl : r = a := Option.some.inj ((ids r stale.1).symm.trans found)
  exact (of_decide_eq_true stale.2).1

theorem claimDueActions_follows (tokens : ActionIdentity → String) (now : Instant) (leaseFor : Int) (limit : Nat) :
    Tx.Keeps (claimDueActions rt tokens now leaseFor limit) (Follows given) :=
  follows_closed.bind (follows_closed.check _ _) fun _ => follows_closed.bind (follows_closed.read _) fun _ =>
    follows_closed.each (fun (action : ActionRow) => follows_closed.bind (updateAction_follows
      (ActionRow.lease (tokens action.id) now leaseFor) (fun _ => rfl) fun _ followed => followed) fun _ =>
        follows_closed.pure _) _

theorem setActionResolution_follows (action : ActionRow) {status : ActionStatus} (settled : status = .succeeded ∨ status = .failed)
    (t : Instant) (object code : Option String) :
    Tx.Keeps (setActionResolution action status t object code) (Follows given) :=
  follows_closed.bind (follows_closed.check _ _) fun _ =>
    follows_closed.bind (updateAction_follows _ (fun _ => rfl) fun _ _ => .inr settled) fun _ => follows_closed.pure _

theorem reconcile_follows (action : ActionRow) (case : RecoveryCase) (result : ProviderLookupResult) :
    Tx.Keeps (reconcile action case result) (Follows given) := by
  unfold reconcile
  dsimp only
  rw [Tx.ite_bind]
  refine follows_closed.bind ?_ fun after => ?_
  · split
    · exact setActionResolution_follows _ (resolvedStatus_settled result) _ _ _
    · exact follows_closed.pure _
  · rw [Tx.ite_bind]
    refine follows_closed.bind (follows_of (transitionIf_spared _ _)) fun _ =>
      follows_closed.bind (follows_of (storeObservation_spared _)) fun _ => follows_closed.bind ?_ fun _ => follows_closed.pure _
    unfold settleLookup
    dsimp only
    split
    · exact follows_of (recoveryTransition_spared _ _ _ _ _)
    split
    · exact follows_of (recoveryTransition_spared _ _ _ _ _)
    · exact follows_closed.pure _

/-- The lookup finds the action past its deadline with its outcome still open, and gives it up. -/
def Abandons (id : ActionIdentity) (result : ProviderLookupResult) (db : Database) : Prop :=
  ∃ action ∈ db.action id, action.Overdue result ∧ ∃ case ∈ db.caseOf action.key,
    case.state = .verifying ∧ action.status = .succeeded ∨ case.state = .unknown ∧ ¬ action.Answered

instance (id : ActionIdentity) (result : ProviderLookupResult) (db : Database) : Decidable (Abandons id result db) := by
  unfold Abandons
  infer_instance

theorem escalateUnresolved_follows (action : ActionRow) (case : RecoveryCase)
    (allowed : ∀ a ∈ db.action action.id, ¬ given action.id → a.Answered) {out : ExecutionDisposition}
    (h : (escalateUnresolved action case result).run db = .ok (out, db')) : Follows given db db' := by
  obtain ⟨_, d, written, h⟩ := Tx.bind_ok h
  have marked : Follows given db d := by
    rw [Tx.write_ok written]
    exact .update (fun _ => rfl) fun a found kept _ => .inr (allowed a found kept)
  exact marked.trans (follows_closed.bind (follows_of (recoveryTransition_spared _ _ _ _ _))
    (fun _ => follows_closed.pure _) _ _ _ h)

theorem recordLookup_follows {out : ExecutionDisposition} (allowed : Abandons id result db → given id)
    (h : (recordLookup id result).run db = .ok (out, db')) : Follows given db db' := by
  unfold recordLookup at h
  obtain ⟨_, _, read, h⟩ := Tx.bind_ok h
  obtain ⟨rfl, rfl⟩ := Tx.read_ok read
  obtain ⟨action, _, found, h⟩ := Tx.bind_ok h
  obtain ⟨stored, rfl⟩ := Tx.found_ok found
  obtain ⟨case, _, required, h⟩ := Tx.bind_ok h
  obtain ⟨owned, rfl⟩ := requiredCase_effect required
  have named : action.id = id := Table.lookup_key stored
  split at h
  · obtain ⟨-, rfl⟩ := Tx.pure_ok h
    exact .refl _
  dsimp only at h
  rw [Tx.ite_bind] at h
  obtain ⟨current, d1, expire, h⟩ := Tx.bind_ok h
  split at expire
  · rename_i late
    obtain ⟨_, d, marked, expire⟩ := Tx.bind_ok expire
    obtain ⟨_, _, checked, marked⟩ := Tx.bind_ok marked
    obtain ⟨accepted, rfl⟩ := Tx.check_ok checked
    have isGiven : given action.id := by
      rw [named]
      exact allowed ⟨action, stored, late.2, case, owned, .inl ⟨late.1, accepted⟩⟩
    have expired : Follows given db d1 := by
      obtain ⟨_, e, written, marked⟩ := Tx.bind_ok marked
      obtain ⟨-, rfl⟩ := Tx.pure_ok marked
      have moved : Follows given db e := by
        rw [Tx.write_ok written]
        exact .update (fun _ => rfl) fun _ _ kept => absurd isGiven kept
      refine moved.trans ?_
      exact follows_closed.bind (follows_of (recoveryTransition_spared _ _ _ _ _)) (fun _ =>
        follows_closed.bind (follows_of (storeObservation_spared _)) fun _ => follows_closed.pure _) _ _ _ expire
    refine expired.trans ?_
    unfold settleLookupDeadline at h
    have same : current.1.id = action.id := by
      obtain ⟨_, _, written, marked⟩ := Tx.bind_ok marked
      obtain ⟨rfl, -⟩ := Tx.pure_ok marked
      obtain ⟨_, _, -, expire⟩ := Tx.bind_ok expire
      obtain ⟨_, _, -, expire⟩ := Tx.bind_ok expire
      obtain ⟨rfl, -⟩ := Tx.pure_ok expire
      rfl
    split at h
    · exact escalateUnresolved_follows _ _ (fun _ _ kept => absurd (same ▸ isGiven) kept) h
    split at h
    · obtain ⟨-, rfl⟩ := Tx.pure_ok h
      exact .refl _
    · exact reconcile_follows _ _ _ _ _ _ h
  · obtain ⟨rfl, rfl⟩ := Tx.pure_ok expire
    unfold settleLookupDeadline at h
    split at h
    · rename_i late
      refine escalateUnresolved_follows _ _ (fun a here kept => ?_) h
      rw [named] at here kept
      obtain rfl : action = a := Option.some.inj (stored.symm.trans here)
      by_contra open_
      exact kept (allowed ⟨action, stored, late.2, case, owned, .inr ⟨late.1, open_⟩⟩)
    split at h
    · obtain ⟨-, rfl⟩ := Tx.pure_ok h
      exact .refl _
    · exact reconcile_follows _ _ _ _ _ _ h

theorem verifySignedEvent_follows (event : NormalizedEvent) (webhook : Identifier) :
    Tx.Keeps (verifySignedEvent rt event webhook) (Follows given) := by
  intro s found s' h
  unfold verifySignedEvent at h
  split at h
  · obtain ⟨-, rfl⟩ := Tx.pure_ok h
    exact .refl _
  obtain ⟨credited, d1, search, h⟩ := Tx.bind_ok h
  obtain ⟨rfl, -⟩ := creditedAction_effect search
  split at h
  · obtain ⟨-, rfl⟩ := Tx.pure_ok h
    exact .refl _
  refine follows_closed.bind (follows_closed.bind (follows_of (requiredCase_spared _)) fun case => ?_)
    (fun _ => follows_closed.pure _) _ _ _ h
  split
  · exact follows_closed.pure _
  split
  · exact follows_closed.bind (follows_of (transitionIf_spared _ _)) fun _ =>
      follows_closed.bind (follows_of (recoveryTransition_spared _ _ _ _ _)) fun _ => follows_closed.pure _
  · refine follows_closed.bind (setActionResolution_follows _ (.inl rfl) _ _ _) fun _ =>
      follows_closed.bind (follows_of (transitionIf_spared _ _)) fun _ => ?_
    split
    · exact follows_closed.pure _
    · exact follows_closed.bind (follows_of (storeObservation_spared _)) fun _ =>
        follows_closed.bind (follows_of (recoveryTransition_spared _ _ _ _ _)) fun _ => follows_closed.pure _

end execution

section commands

/-- The actions a command gives up without an answer. -/
def Command.GivesUp : Command → Database → ActionIdentity → Prop
  | .recordLookup actionId result, db, id => id = actionId ∧ Abandons actionId result db
  | .recordExecutionResult actionId _ answer, db, id => id = actionId ∧ Reopens actionId answer db
  | _, _, _ => False

theorem storeAction_follows (action : RecoveryAction) (version : Identifier) (n : Nat) (deadline : Instant) :
    Tx.Keeps (storeAction action version n deadline) (Follows given) := by
  intro s row s' h
  obtain ⟨-, kept, -⟩ := storeAction_added h
  exact ⟨fun found _ followed => ⟨_, kept found, followed⟩⟩

theorem decideReminder_follows (t : Instant) (promise : PromiseRow) (a : ReminderAssessment) :
    Tx.Keeps (decideReminder t promise a) (Follows given) := by
  refine follows_closed.bind (follows_of (recoveryTransition_spared _ _ _ _ _)) fun _ =>
    follows_closed.bind (follows_of (storeReceipt_spared _)) fun _ => ?_
  split
  · exact follows_closed.bind (storeAction_follows _ _ _ _) fun _ => follows_closed.bind
      (follows_closed.bind (follows_closed.read _) fun _ => follows_closed.bind (follows_closed.check _ _) fun _ =>
        follows_write fun _ => rfl) fun _ => follows_closed.pure _
  · refine follows_closed.bind ?_ fun _ => follows_closed.pure _
    unfold rescheduleIfDeferred
    split
    · exact follows_write fun _ => rfl
    · exact follows_closed.pure _

theorem scheduleDuePromiseReminders_follows (t : Instant) (limit : Nat) :
    Tx.Keeps (scheduleDuePromiseReminders rt t limit) (Follows given) := by
  refine follows_closed.bind (follows_closed.check _ _) fun _ => follows_closed.bind (follows_closed.read _) fun _ =>
    follows_closed.each (fun promise => follows_closed.bind (follows_of (assessReminder_spared _ _)) fun assessed => ?_) _
  cases assessed with
  | none => exact follows_closed.pure _
  | some a => exact decideReminder_follows _ _ _

/-- The commands that evaluate cases. -/
def Command.Evaluates : Command → Prop
  | .processEvent .. | .reevaluateDeferred .. | .decideReview .. => True
  | _ => False

theorem commit_follows {A : Type} {x : Transaction A} (keeps : ∀ {a db'}, x.run db = .ok (a, db') → Follows given db db') :
    Follows given db (x.commit db) := Tx.commit_relates (R := Follows given) (.refl db) keeps

theorem commit_ambient {A : Type} {x : Transaction A} (ambient : ∀ {a db'}, x.run db = .ok (a, db') → Ambient db db') :
    Follows given db (x.commit db) := commit_follows fun h => .of_actions (ambient h).actions

theorem exec_follows (c : Command) (db : Database) (apart : ¬ c.Evaluates) (ids : ∀ a ∈ db.actions, db.action a.id = some a) :
    Follows (c.GivesUp db) db (exec rt c db) := by
  cases c with
  | registerMerchant m => exact commit_ambient registerMerchant_ambient
  | upsertCustomer row => exact commit_ambient upsertCustomer_ambient
  | upsertPayment row => exact commit_ambient upsertPayment_ambient
  | upsertSubscription row => exact commit_ambient upsertSubscription_ambient
  | persistNormalizedEvent event => exact commit_ambient fun h => (persistNormalizedEvent_persists event _ _ _ h).ambient
  | putMerchantRow row => exact commit_ambient putMerchantRow_ambient
  | publishPolicy m policy => exact commit_ambient publishPolicy_ambient
  | applyDegradationAssessment a policy id => exact commit_ambient applyDegradationAssessment_ambient
  | processEvent inputs m e caseId t => exact absurd trivial apart
  | reevaluateDeferred inputs t limit => exact absurd trivial apart
  | decideReview inputs m decision t => exact absurd trivial apart
  | closeExpiredCustomerInterventions t limit => exact commit_ambient closeExpiredCustomerInterventions_ambient
  | recordOverdueInvoice m source invoice t t' => exact commit_ambient recordOverdueInvoice_ambient
  | recordCustomerResponse m source invoiceId body reply t => exact commit_ambient recordCustomerResponse_ambient
  | scheduleDuePromiseReminders t limit => exact commit_follows (scheduleDuePromiseReminders_follows t limit _ _ _)
  | escalateBrokenPromises t limit => exact commit_ambient escalateBrokenPromises_ambient
  | claimDueActions tokens now leaseFor limit =>
    exact commit_follows (claimDueActions_follows tokens now leaseFor limit _ _ _)
  | prepareExecution id token t => exact commit_follows (prepareExecution_follows token t _ _ _)
  | recordExecutionResult id token answer =>
    exact commit_follows fun h => recordExecutionResult_follows (fun reopens => ⟨rfl, reopens⟩) h
  | markStaleCallsUnknown now limit => exact commit_follows fun h => markStaleCallsUnknown_follows ids h
  | recordLookup id result => exact commit_follows fun h => recordLookup_follows (fun late => ⟨rfl, late⟩) h
  | verifySignedEvent event webhook => exact commit_follows (verifySignedEvent_follows event webhook _ _ _)

end commands

end RevenueGuard
