import RevenueGuard.Protocol.Frames

/-
What the services leave of the outbox and of the interventions of customers:
apart from an evaluation, no call authorizes anything but a reminder, closes an
intervention or reopens an action that has come to rest.
-/
namespace RevenueGuard

variable {db d db' : Database} {spent begun : ActionIdentity → Prop} {rt : Runtime} {id : ActionIdentity} {t : Instant}

/-- Answered by the provider or given up, with no call open. -/
def ActionRow.Rested (a : ActionRow) : Prop := (a.status = .succeeded ∨ a.status = .failed) ∧ a.openAttempts = []

/-- An action at rest stays there unless it is spent, and one never tried stays so unless it is begun. -/
structure ActionRow.Eased (spent begun : Prop) (a a' : ActionRow) : Prop where
  rested : ¬ spent → a.Rested → a'.Rested
  idle : ¬ begun → a.attempts = [] → a'.attempts = []

theorem ActionRow.Eased.refl {s b : Prop} (a : ActionRow) : a.Eased s b a := ⟨fun _ h => h, fun _ h => h⟩

theorem ActionRow.Eased.trans {s b : Prop} {a a' a'' : ActionRow} (h : a.Eased s b a') (h' : a'.Eased s b a'') :
    a.Eased s b a'' := ⟨fun kept => h'.rested kept ∘ h.rested kept, fun kept => h'.idle kept ∘ h.idle kept⟩

structure Aside (spent begun : ActionIdentity → Prop) (db db' : Database) : Prop where
  interventions : db'.interventions.map InterventionRow.core = db.interventions.map InterventionRow.core
  moved : ∀ {id a}, db.action id = some a → ∃ a', db'.action id = some a' ∧ a.Eased (spent id) (begun id) a'
  added : ∀ {id a}, db'.action id = some a → db.action id = none →
    id.actionType = .schedulePromiseReminder ∧ (¬ begun id → a.attempts = [])

theorem Aside.of_actions (actions : db'.actions = db.actions)
    (interventions : db'.interventions.map InterventionRow.core = db.interventions.map InterventionRow.core) :
    Aside spent begun db db' := by
  refine ⟨interventions, fun {id a} found => ⟨a, ?_, .refl a⟩, fun {id a} found absent => ?_⟩
  · rw [Database.action, actions]
    exact found
  · rw [Database.action, actions] at found
    have impossible := found.symm.trans absent
    cases impossible

theorem Aside.refl (db : Database) : Aside spent begun db db := .of_actions rfl rfl

theorem Aside.trans {d e f : Database} (h : Aside spent begun d e) (h' : Aside spent begun e f) : Aside spent begun d f := by
  refine ⟨h'.interventions.trans h.interventions, fun {id a} found => ?_, fun {id a} found absent => ?_⟩
  · obtain ⟨b, there, eased⟩ := h.moved found
    obtain ⟨c, last, eased'⟩ := h'.moved there
    exact ⟨c, last, eased.trans eased'⟩
  · cases between : e.action id with
    | none => exact h'.added found between
    | some b =>
      obtain ⟨reminder, idle⟩ := h.added between absent
      obtain ⟨c, last, eased⟩ := h'.moved between
      rw [found, Option.some.injEq] at last
      subst last
      exact ⟨reminder, fun kept => eased.idle kept (idle kept)⟩

theorem aside_closed : Tx.Closed (Aside spent begun) := ⟨.refl, .trans⟩

theorem Spared.aside (h : Spared db db') : Aside spent begun db db' := .of_actions h.actions h.interventions

theorem aside_of {A : Type} {x : Transaction A} (keeps : Tx.Keeps x Spared) : Tx.Keeps x (Aside spent begun) :=
  keeps.mono fun h => h.aside

theorem aside_write {f : Database → Database} (actions : ∀ s, (f s).actions = s.actions)
    (interventions : ∀ s, (f s).interventions = s.interventions) :
    Tx.Keeps (Tx.write f : Transaction Unit) (Aside spent begun) :=
  Tx.Closed.write fun s => .of_actions (actions s) (by rw [interventions])

theorem Aside.update {f : ActionRow → ActionRow} (keeps : ∀ a, (f a).id = a.id)
    (eased : ∀ a ∈ db.action id, a.Eased (spent id) (begun id) (f a)) : Aside spent begun db (updateAction id f db) := by
  have keepsKey : Table.KeepsKey ActionRow.id id f := fun a here => (keeps a).trans here
  refine ⟨rfl, fun {id' a} found => ?_, fun {id' a} found absent => ?_⟩
  · by_cases here : id' = id
    · subst here
      refine ⟨f a, ?_, eased a found⟩
      rw [Database.action] at found ⊢
      rw [updateAction, Table.lookup_update_self keepsKey, found]
      rfl
    · refine ⟨a, ?_, .refl a⟩
      rw [Database.action] at found ⊢
      rw [updateAction, Table.lookup_update_ne keepsKey here]
      exact found
  · by_cases here : id' = id
    · subst here
      rw [Database.action] at found absent
      rw [updateAction, Table.lookup_update_self keepsKey, absent] at found
      cases found
    · rw [Database.action] at found absent
      rw [updateAction, Table.lookup_update_ne keepsKey here, absent] at found
      cases found

theorem updateAction_aside (f : ActionRow → ActionRow) (keeps : ∀ a, (f a).id = a.id)
    (eased : ∀ a, ActionRow.Eased (spent id) (begun id) a (f a)) :
    Tx.Keeps (Tx.write (updateAction id f) : Transaction Unit) (Aside spent begun) :=
  Tx.Closed.write fun _ => .update keeps fun a _ => eased a

section execution

variable {case : RecoveryCase} {action : ActionRow} {check : FinalPolicyCheck} {result : ProviderLookupResult}

theorem blockExecution_aside (action : ActionRow) (case : RecoveryCase) (check : FinalPolicyCheck) (t : Instant) :
    Tx.Keeps (blockExecution action case check t) (Aside spent begun) := by
  unfold blockExecution
  refine aside_closed.bind (aside_closed.bind (aside_closed.check _ _) fun _ => ?_) fun _ => ?_
  · exact Tx.Closed.write fun s => .update (fun _ => rfl) fun a _ => ⟨fun _ rested => ⟨.inr rfl, rested.2⟩, fun _ idle => idle⟩
  · dsimp only
    rw [Tx.ite_bind]
    exact aside_closed.bind (aside_of (transitionIf_spared _ _)) fun _ => aside_closed.bind (aside_of (recoveryTransition_spared _ _ _ _ _)) fun _ =>
      aside_closed.bind (aside_of (rerouteBlocked_spared _ _ _ _)) fun _ => aside_closed.pure _

theorem beginAttempt_aside (allowed : begun id) (token : String) (t : Instant) :
    Tx.Keeps (beginAttempt id token t) (Aside spent begun) := by
  intro s done s' h
  obtain ⟨r, stored, pending, -, -, -, -, -, -, rfl⟩ := beginAttempt_effect h
  refine .update (fun _ => rfl) fun a found => ⟨fun _ rested => ?_, fun unbegun => absurd allowed unbegun⟩
  obtain rfl : r = a := Option.some.inj (stored.symm.trans found)
  rw [ActionRow.Rested, pending] at rested
  rcases rested.1 with impossible | impossible <;> cases impossible

theorem beginExecution_aside (allowed : begun action.id) (case : RecoveryCase) (token : String) (t : Instant) :
    Tx.Keeps (beginExecution rt action case token t) (Aside spent begun) :=
  aside_closed.bind (beginAttempt_aside allowed _ _) fun _ =>
    aside_closed.bind (aside_of (startExecution_spared _ _ _)) fun _ =>
      aside_closed.bind (aside_closed.lift _) fun _ => aside_closed.pure _

theorem prepareExecution_aside {token : String} {p : Prepared} (allowed : p.Begun → begun id)
    (h : (prepareExecution rt id token t).run db = .ok (p, db')) : Aside spent begun db db' := by
  obtain ⟨action, case, check, preparing⟩ := prepareExecution_ok h
  have checked : Aside spent begun db _ := (finalPolicyDecision_spared _ _ _ _ _ _ preparing.checked).aside
  have named : action.id = id := Table.lookup_key preparing.stored
  rcases preparing.branch with ⟨-, out, -, block⟩ | ⟨-, begins⟩
  · exact checked.trans (blockExecution_aside _ _ _ _ _ _ _ block)
  · exact checked.trans (beginExecution_aside (by rw [named]; exact allowed (begun_execution begins)) _ _ _ _ _ _ begins)

/-- A call is answered or lost only while it is open. -/
theorem Aside.answered {f : ActionRow → ActionRow} (keeps : ∀ a, (f a).id = a.id) {r : ActionRow}
    (stored : db.action id = some r) (inFlight : r.openAttempts ≠ []) : Aside spent begun db (updateAction id f db) := by
  refine .update keeps fun a found => ?_
  obtain rfl : r = a := Option.some.inj (stored.symm.trans found)
  refine ⟨fun _ rested => absurd rested.2 inFlight, fun _ idle => absurd ?_ inFlight⟩
  rw [ActionRow.openAttempts, idle, List.filter_nil]

theorem finishAttempt_aside (token : String) (c : AttemptCompletion) (again deadline : Instant) :
    Tx.Keeps (finishAttempt id token c again deadline) (Aside spent begun) := by
  intro s done s' h
  obtain ⟨r, stored, ⟨a, isOpen, -⟩, -, -, rfl⟩ := finishAttempt_effect h
  exact .answered (finish_id token c again deadline) stored (List.ne_nil_of_mem isOpen)

theorem recordExecutionResult_aside (token : String) (answer : ProviderExecutionResult) :
    Tx.Keeps (recordExecutionResult rt id token answer) (Aside spent begun) := by
  refine aside_closed.bind (aside_closed.read _) fun _ => aside_closed.bind (aside_closed.found _ _) fun _ =>
    aside_closed.bind (finishAttempt_aside _ _ _ _) fun _ => aside_closed.bind (aside_of (requiredCase_spared _)) fun _ => ?_
  split
  · exact aside_closed.pure _
  split
  · exact aside_closed.bind (aside_of (recoveryTransition_spared _ _ _ _ _)) fun _ => aside_closed.bind (aside_of (storeObservation_spared _)) fun _ =>
      aside_closed.pure _
  split
  · exact aside_closed.bind (aside_of (recoveryTransition_spared _ _ _ _ _)) fun _ => aside_closed.bind (aside_of (storeObservation_spared _)) fun _ =>
      aside_closed.pure _
  · exact aside_closed.bind (aside_of (recoveryTransition_spared _ _ _ _ _)) fun _ => aside_closed.bind (aside_of (storeObservation_spared _)) fun _ =>
      aside_closed.bind (aside_of (recoveryTransition_spared _ _ _ _ _)) fun _ => aside_closed.pure _

theorem markStaleCall_aside (t : Instant) (action : ActionRow) : Tx.Keeps (markStaleCall rt t action) (Aside spent begun) := by
  have lost : Tx.Keeps (markStaleInflightUnknown action t (t + rt.unknownTtl)) (Aside spent begun) := by
    intro s u s' h
    obtain ⟨r, stored, inFlight, rfl⟩ := markStaleInflightUnknown_effect h
    exact .answered (fun _ => rfl) stored inFlight
  refine aside_closed.bind lost fun _ => aside_closed.bind (aside_of (requiredCase_spared _)) fun _ => ?_
  dsimp only
  rw [Tx.ite_bind]
  exact aside_closed.bind (aside_of (transitionIf_spared _ _)) fun _ => aside_closed.bind (aside_of (storeObservation_spared _)) fun _ =>
    aside_closed.pure _

theorem markStaleCallsUnknown_aside (t : Instant) (limit : Nat) :
    Tx.Keeps (markStaleCallsUnknown rt t limit) (Aside spent begun) :=
  aside_closed.bind (aside_closed.check _ _) fun _ => aside_closed.bind (aside_closed.read _) fun _ =>
    aside_closed.each (markStaleCall_aside t) _

theorem claimDueActions_aside (tokens : ActionIdentity → String) (now : Instant) (leaseFor : Int) (limit : Nat) :
    Tx.Keeps (claimDueActions rt tokens now leaseFor limit) (Aside spent begun) :=
  aside_closed.bind (aside_closed.check _ _) fun _ => aside_closed.bind (aside_closed.read _) fun _ =>
    aside_closed.each (fun (action : ActionRow) => aside_closed.bind (updateAction_aside (ActionRow.lease (tokens action.id) now leaseFor)
      (fun _ => rfl) fun _ => ⟨fun _ rested => rested, fun _ idle => idle⟩) fun _ => aside_closed.pure _) _

theorem setActionResolution_aside (action : ActionRow) {status : ActionStatus} (settled : status = .succeeded ∨ status = .failed)
    (t : Instant) (object code : Option String) :
    Tx.Keeps (setActionResolution action status t object code) (Aside spent begun) :=
  aside_closed.bind (aside_closed.check _ _) fun _ => aside_closed.bind (Tx.Closed.write fun _ => .update (fun _ => rfl)
    fun _ _ => ⟨fun _ rested => ⟨settled, rested.2⟩, fun _ idle => idle⟩) fun _ => aside_closed.pure _

theorem resolvedStatus_settled (r : ProviderLookupResult) : r.resolvedStatus = .succeeded ∨ r.resolvedStatus = .failed := by
  unfold ProviderLookupResult.resolvedStatus
  split
  · exact .inl rfl
  · exact .inr rfl

theorem reconcile_aside (action : ActionRow) (case : RecoveryCase) (result : ProviderLookupResult) :
    Tx.Keeps (reconcile action case result) (Aside spent begun) := by
  unfold reconcile
  dsimp only
  rw [Tx.ite_bind]
  refine aside_closed.bind ?_ fun after => ?_
  · split
    · exact setActionResolution_aside _ (resolvedStatus_settled result) _ _ _
    · exact aside_closed.pure _
  · rw [Tx.ite_bind]
    refine aside_closed.bind (aside_of (transitionIf_spared _ _)) fun _ => aside_closed.bind (aside_of (storeObservation_spared _)) fun _ =>
      aside_closed.bind ?_ fun _ => aside_closed.pure _
    unfold settleLookup
    dsimp only
    split
    · exact aside_of (recoveryTransition_spared _ _ _ _ _)
    split
    · exact aside_of (recoveryTransition_spared _ _ _ _ _)
    · exact aside_closed.pure _

/-- The lookup finds the accepted action past its deadline, and its outcome still open. -/
def Expires (id : ActionIdentity) (result : ProviderLookupResult) (db : Database) : Prop :=
  ∃ action ∈ db.action id, ∃ case ∈ db.caseOf action.key, case.state = .verifying ∧ action.Overdue result

theorem expireVerification_aside (allowed : spent action.id) :
    Tx.Keeps (expireVerification action case result) (Aside spent begun) := by
  have marked : Tx.Keeps (markVerificationExpiredUnknown action result.observedAt) (Aside spent begun) :=
    aside_closed.bind (aside_closed.check _ _) fun _ => aside_closed.bind (Tx.Closed.write fun s =>
      .update (fun _ => rfl) fun a _ => ⟨fun kept => absurd allowed kept, fun _ idle => idle⟩) fun _ => aside_closed.pure _
  exact aside_closed.bind marked fun _ => aside_closed.bind (aside_of (recoveryTransition_spared _ _ _ _ _)) fun _ =>
    aside_closed.bind (aside_of (storeObservation_spared _)) fun _ => aside_closed.pure _

theorem recordLookup_aside {out : ExecutionDisposition} (allowed : Expires id result db → spent id)
    (h : (recordLookup id result).run db = .ok (out, db')) : Aside spent begun db db' := by
  unfold recordLookup at h
  obtain ⟨_, _, read, h⟩ := Tx.bind_ok h
  obtain ⟨rfl, rfl⟩ := Tx.read_ok read
  obtain ⟨action, _, found, h⟩ := Tx.bind_ok h
  obtain ⟨stored, rfl⟩ := Tx.found_ok found
  obtain ⟨case, _, required, h⟩ := Tx.bind_ok h
  obtain ⟨owned, rfl⟩ := requiredCase_effect required
  have named : action.id = id := Table.lookup_key stored
  split at h
  · obtain ⟨-, rfl⟩ := Tx.pure_ok h
    exact .refl _
  dsimp only at h
  rw [Tx.ite_bind] at h
  obtain ⟨current, d1, expire, h⟩ := Tx.bind_ok h
  have expired : Aside spent begun db d1 := by
    split at expire
    · rename_i late
      have isSpent : spent action.id := by
        rw [named]
        exact allowed ⟨action, stored, case, owned, late⟩
      exact expireVerification_aside isSpent _ _ _ expire
    · obtain ⟨-, rfl⟩ := Tx.pure_ok expire
      exact .refl _
  refine expired.trans ?_
  unfold settleLookupDeadline at h
  split at h
  · exact aside_closed.bind (updateAction_aside (ActionRow.deadLetter result.observedAt) (fun _ => rfl)
      fun _ => ⟨fun _ rested => rested, fun _ idle => idle⟩) (fun _ =>
        aside_closed.bind (aside_of (recoveryTransition_spared _ _ _ _ _)) fun _ => aside_closed.pure _) _ _ _ h
  split at h
  · obtain ⟨-, rfl⟩ := Tx.pure_ok h
    exact .refl _
  · exact reconcile_aside _ _ _ _ _ _ h

theorem acknowledgeSigned_aside (case : RecoveryCase) (action : ActionRow) (event : NormalizedEvent) (reference : String) :
    Tx.Keeps (acknowledgeSigned case action event reference) (Aside spent begun) := aside_of (transitionIf_spared _ _)

theorem verifySignedEvent_aside (event : NormalizedEvent) (webhook : Identifier) :
    Tx.Keeps (verifySignedEvent rt event webhook) (Aside spent begun) := by
  intro s found s' h
  unfold verifySignedEvent at h
  split at h
  · obtain ⟨-, rfl⟩ := Tx.pure_ok h
    exact .refl _
  obtain ⟨credited, d1, search, h⟩ := Tx.bind_ok h
  obtain ⟨rfl, -⟩ := creditedAction_effect search
  split at h
  · obtain ⟨-, rfl⟩ := Tx.pure_ok h
    exact .refl _
  rename_i action
  refine aside_closed.bind (aside_closed.bind (aside_of (requiredCase_spared _)) fun case => ?_) (fun _ => aside_closed.pure _) _ _ _ h
  split
  · exact aside_closed.pure _
  split
  · exact aside_closed.bind (acknowledgeSigned_aside _ _ _ _) fun _ => aside_closed.bind (aside_of (recoveryTransition_spared _ _ _ _ _))
      fun _ => aside_closed.pure _
  · refine aside_closed.bind (setActionResolution_aside _ (.inl rfl) _ _ _) fun _ =>
      aside_closed.bind (acknowledgeSigned_aside _ _ _ _) fun _ => ?_
    split
    · exact aside_closed.pure _
    · exact aside_closed.bind (aside_of (storeObservation_spared _)) fun _ => aside_closed.bind (aside_of (recoveryTransition_spared _ _ _ _ _))
        fun _ => aside_closed.pure _

end execution

section reminders

/-- What storing an action leaves: every stored action, and at most a new one not yet tried. -/
theorem storeAction_added {action : RecoveryAction} {version : Identifier} {n : Nat} {deadline : Instant} {row : ActionRow}
    (h : (storeAction action version n deadline).run db = .ok (row, db')) :
    db'.interventions = db.interventions ∧ (∀ {id a}, db.action id = some a → db'.action id = some a) ∧
      ∀ {id a}, db'.action id = some a → db.action id = none → id = action.identity ∧ a.attempts = [] := by
  obtain ⟨-, ⟨-, rfl⟩ | ⟨-, rfl, rfl⟩⟩ := storeAction_ok h
  · refine ⟨rfl, fun found => found, fun {id a} found absent => ?_⟩
    rw [found] at absent
    cases absent
  · refine ⟨rfl, fun {id a} found => ?_, fun {id a} found absent => ?_⟩
    · rw [Database.action, Table.lookup_append, ← Database.action, found]
      rfl
    · rw [Database.action, Table.lookup_append, ← Database.action, absent, Option.none_or] at found
      split at found
      · rename_i named
        cases found
        exact ⟨named.symm, rfl⟩
      · cases found

theorem storeAction_aside {action : RecoveryAction} (reminder : action.identity.actionType = .schedulePromiseReminder)
    (version : Identifier) (n : Nat) (deadline : Instant) :
    Tx.Keeps (storeAction action version n deadline) (Aside spent begun) := by
  intro s row s' h
  obtain ⟨rows, kept, added⟩ := storeAction_added h
  refine ⟨by rw [rows], fun {id a} found => ⟨a, kept found, .refl a⟩, fun {id a} found absent => ?_⟩
  obtain ⟨rfl, idle⟩ := added found absent
  exact ⟨reminder, fun _ => idle⟩

theorem markPromiseReminderScheduled_aside (promise : PromiseRow) (id : ActionIdentity) (t : Instant) :
    Tx.Keeps (markPromiseReminderScheduled promise id t) (Aside spent begun) :=
  aside_closed.bind (aside_closed.read _) fun _ => aside_closed.bind (aside_closed.check _ _) fun _ =>
    aside_write (fun _ => rfl) fun _ => rfl

theorem rescheduleIfDeferred_aside (promise : PromiseRow) (wake : Option Instant) :
    Tx.Keeps (rescheduleIfDeferred promise wake) (Aside spent begun) := by
  cases wake with
  | none => exact aside_closed.pure _
  | some wake => exact aside_write (fun _ => rfl) fun _ => rfl

theorem decideReminder_aside (t : Instant) (promise : PromiseRow) (a : ReminderAssessment) :
    Tx.Keeps (decideReminder t promise a) (Aside spent begun) := by
  refine aside_closed.bind (aside_of (recoveryTransition_spared _ _ _ _ _)) fun _ => aside_closed.bind (aside_of (storeReceipt_spared _)) fun _ => ?_
  split
  · rename_i action authorized
    have reminder : action.identity.actionType = .schedulePromiseReminder := by
      split at authorized
      · cases authorized
        rfl
      · cases authorized
    exact aside_closed.bind (storeAction_aside reminder _ _ _) fun _ =>
      aside_closed.bind (markPromiseReminderScheduled_aside _ _ _) fun _ => aside_closed.pure _
  · exact aside_closed.bind (rescheduleIfDeferred_aside _ _) fun _ => aside_closed.pure _

theorem remindPromise_aside (t : Instant) (promise : PromiseRow) :
    Tx.Keeps (remindPromise rt t promise) (Aside spent begun) := by
  refine aside_closed.bind (aside_of (assessReminder_spared _ _)) fun assessed => ?_
  cases assessed with
  | none => exact aside_closed.pure _
  | some a => exact decideReminder_aside _ _ _

theorem scheduleDuePromiseReminders_aside (t : Instant) (limit : Nat) :
    Tx.Keeps (scheduleDuePromiseReminders rt t limit) (Aside spent begun) :=
  aside_closed.bind (aside_closed.check _ _) fun _ => aside_closed.bind (aside_closed.read _) fun _ =>
    aside_closed.each (remindPromise_aside t) _

end reminders

section commands

/-- A lookup that takes back an answer the provider had given. -/
def Command.Spends : Command → Database → ActionIdentity → Prop
  | .recordLookup actionId result, db, id => id = actionId ∧ Expires actionId result db
  | _, _, _ => False

/-- A preparation that opens a call. -/
def Command.Begins (rt : Runtime) : Command → Database → ActionIdentity → Prop
  | .prepareExecution actionId token t, db, id =>
    id = actionId ∧ ∃ p db', (RevenueGuard.prepareExecution rt actionId token t).run db = .ok (p, db') ∧ p.Begun
  | _, _, _ => False

/-- The commands that authorize actions of any kind, or close interventions. -/
def Command.Contacts : Command → Prop
  | .processEvent .. | .reevaluateDeferred .. | .decideReview .. | .closeExpiredCustomerInterventions .. => True
  | _ => False

theorem putMerchantRow_aside (row : MerchantRow) : Tx.Keeps (putMerchantRow row) (Aside spent begun) := by
  cases row with
  | consent row => exact aside_write (fun _ => rfl) fun _ => rfl
  | invoice row => exact aside_write (fun _ => rfl) fun _ => rfl
  | incident row => exact aside_write (fun _ => rfl) fun _ => rfl

theorem attachAffectedCases_aside (incident : IncidentConstraint) (a : DegradationAssessment) :
    Tx.Keeps (attachAffectedCases rt incident a) (Aside spent begun) := aside_write (fun _ => rfl) fun _ => rfl

theorem setIncident_aside (row : IncidentRow) : Tx.Keeps (setIncident row) (Aside spent begun) :=
  aside_write (fun _ => rfl) fun _ => rfl

theorem clearWindow_aside (a : DegradationAssessment) (policy : DegradationPolicy) (row : IncidentRow) :
    Tx.Keeps (clearWindow rt a policy row) (Aside spent begun) := by
  unfold clearWindow
  split
  · exact aside_closed.pure _
  dsimp only
  split
  · exact aside_closed.bind (aside_closed.read _) fun _ => aside_closed.bind (aside_closed.lift _) fun _ =>
      aside_closed.bind (setIncident_aside _) fun _ => aside_write (fun _ => rfl) fun _ => rfl
  · exact aside_closed.bind (aside_closed.lift _) fun _ => setIncident_aside _

theorem applyDegradationAssessment_aside (a : DegradationAssessment) (policy : DegradationPolicy) (id : Identifier) :
    Tx.Keeps (applyDegradationAssessment rt a policy id) (Aside spent begun) := by
  refine aside_closed.bind (aside_closed.read _) fun active => ?_
  split
  · split
    · exact aside_closed.bind (aside_closed.lift _) fun _ => aside_closed.bind (setIncident_aside _) fun _ =>
        attachAffectedCases_aside _ _
    · exact clearWindow_aside _ _ _
  · split
    · exact aside_closed.bind (aside_closed.read _) fun _ => aside_closed.bind (aside_closed.check _ _) fun _ =>
        aside_closed.bind (aside_write (fun _ => rfl) fun _ => rfl) fun _ => attachAffectedCases_aside _ _
    · exact aside_closed.pure _

theorem Filed.aside (h : Filed db db') : Aside spent begun db db' := by
  rw [Filed] at h
  rw [h]
  exact .of_actions rfl rfl

theorem recordOverdueInvoice_aside (m : Identifier) (source : String) (o : OverdueInvoice) (t t' : Instant) :
    Tx.Keeps (recordOverdueInvoice m source o t t') (Aside spent begun) :=
  aside_closed.bind (fun _ _ _ h => (recordMerchantEvent_filed m source o _ _ _ h).aside) fun _ =>
    aside_closed.bind (fun _ _ _ h => (upsertOverdueInvoice_filed m o t _ _ _ h).aside) fun _ =>
      aside_of (persistMerchantEvent_spared _)

theorem commit_aside {A : Type} {x : Transaction A} (keeps : ∀ {a db'}, x.run db = .ok (a, db') → Aside spent begun db db') :
    Aside spent begun db (x.commit db) := Tx.commit_relates (R := Aside spent begun) (.refl db) keeps

theorem exec_aside (c : Command) (db : Database) (apart : ¬ c.Contacts) :
    Aside (c.Spends db) (c.Begins rt db) db (exec rt c db) := by
  cases c with
  | registerMerchant m => exact commit_aside fun h => (registerMerchant_spared m _ _ _ h).aside
  | upsertCustomer row => exact commit_aside fun h => (upsertCustomer_spared row _ _ _ h).aside
  | upsertPayment row => exact commit_aside fun h => (upsertPayment_spared row _ _ _ h).aside
  | upsertSubscription row => exact commit_aside fun h => (upsertSubscription_spared row _ _ _ h).aside
  | persistNormalizedEvent event => exact commit_aside fun h => (persistNormalizedEvent_spared event _ _ _ h).aside
  | putMerchantRow row => exact commit_aside (putMerchantRow_aside row _ _ _)
  | publishPolicy m policy => exact commit_aside fun h => (publishPolicy_spared m policy _ _ _ h).aside
  | applyDegradationAssessment a policy id => exact commit_aside (applyDegradationAssessment_aside a policy id _ _ _)
  | processEvent inputs m e caseId t => exact absurd trivial apart
  | reevaluateDeferred inputs t limit => exact absurd trivial apart
  | decideReview inputs m decision t => exact absurd trivial apart
  | closeExpiredCustomerInterventions t limit => exact absurd trivial apart
  | recordOverdueInvoice m source invoice t t' => exact commit_aside (recordOverdueInvoice_aside m source invoice t t' _ _ _)
  | recordCustomerResponse m source invoiceId body reply t =>
    exact commit_aside fun h => (recordCustomerResponse_filed m source invoiceId body reply t _ _ _ h).aside
  | scheduleDuePromiseReminders t limit => exact commit_aside (scheduleDuePromiseReminders_aside t limit _ _ _)
  | escalateBrokenPromises t limit => exact commit_aside fun h => (escalateBrokenPromises_filed t limit _ _ _ h).aside
  | claimDueActions tokens now leaseFor limit => exact commit_aside (claimDueActions_aside tokens now leaseFor limit _ _ _)
  | prepareExecution id token t =>
    exact commit_aside fun h => prepareExecution_aside (fun begins => ⟨rfl, _, _, h, begins⟩) h
  | recordExecutionResult id token result => exact commit_aside (recordExecutionResult_aside token result _ _ _)
  | markStaleCallsUnknown now limit => exact commit_aside (markStaleCallsUnknown_aside now limit _ _ _)
  | recordLookup id result => exact commit_aside fun h => recordLookup_aside (fun expires => ⟨rfl, expires⟩) h
  | verifySignedEvent event webhook => exact commit_aside (verifySignedEvent_aside event webhook _ _ _)

end commands

end RevenueGuard
