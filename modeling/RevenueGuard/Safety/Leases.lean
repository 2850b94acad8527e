import RevenueGuard.Protocol.Deadlines
import RevenueGuard.Safety.PaymentPaths

/-
Leases of actions. A call that does not own the action's lease changes nothing,
and a provider call in flight ends by its own answer or by being given up as lost,
as long as no call that owns nothing meets a policy that blocks the action.
-/
namespace RevenueGuard

variable {db db' : Database} {rt : Runtime} {excluded : Kind → Prop} {k : CaseKey} {v v' : CaseView} {r : ActionRow}
  {a : ActionAttempt} {id : ActionIdentity}

/-- The token is not the action's live lease, or a call of the action is still open. -/
def ActionRow.Unowned (token : String) (now : Instant) (r : ActionRow) : Prop :=
  r.leaseToken ≠ some token ∨ (∃ t ∈ r.leaseExpiresAt, t ≤ now) ∨ r.openAttempts ≠ []

instance (token : String) (now : Instant) (r : ActionRow) : Decidable (r.Unowned token now) :=
  inferInstanceAs (Decidable (_ ∨ _))

/-- The policy check of this preparation lets the action proceed. -/
def Unblocked (rt : Runtime) (r : ActionRow) (now : Instant) (db : Database) : Prop :=
  ∀ case ∈ db.caseOf r.key, (finalPolicyDecision rt r case now).After (fun check _ => check.blocks r = false) db

instance (rt : Runtime) (r : ActionRow) (now : Instant) (db : Database) : Decidable (Unblocked rt r now db) :=
  inferInstanceAs (Decidable (∀ case ∈ db.caseOf r.key, _))

/-- No preparation without the lease meets a policy that blocks its action. -/
def Command.KeepsLeases (rt : Runtime) : Command → Database → Prop
  | .prepareExecution id token now, db => ∀ r ∈ db.action id, r.Unowned token now → Unblocked rt r now db
  | _, _ => True

instance (rt : Runtime) (c : Command) (db : Database) : Decidable (c.KeepsLeases rt db) :=
  match c with
  | .prepareExecution .. => by unfold Command.KeepsLeases; infer_instance
  | .registerMerchant .. | .upsertCustomer .. | .upsertPayment .. | .upsertSubscription ..
  | .persistNormalizedEvent .. | .putMerchantRow .. | .publishPolicy .. | .applyDegradationAssessment ..
  | .processEvent .. | .reevaluateDeferred .. | .decideReview .. | .closeExpiredCustomerInterventions ..
  | .recordOverdueInvoice .. | .recordCustomerResponse .. | .scheduleDuePromiseReminders ..
  | .escalateBrokenPromises .. | .claimDueActions .. | .recordExecutionResult .. | .markStaleCallsUnknown ..
  | .recordLookup .. | .verifySignedEvent .. => isTrue trivial

theorem Command.KeepsLeases.avoids {c : Command} (keeps : c.KeepsLeases rt db) : c.Avoids rt (· = .cancelInFlight) db := by
  refine Command.avoids_calls (fun kind same => by rw [same]; decide) (fun id token t prepares => ?_)
    (fun _ _ _ _ same => by cases same) fun _ _ _ same => by cases same
  subst prepares
  intro _ r found case here check d decided blocks
  by_contra open_
  have clear : check.blocks r = false := keeps r found (.inr (.inr open_)) case here check d decided
  rw [clear] at blocks
  cases blocks

section unowned

theorem beginExecution_owned {action : ActionRow} {case : RecoveryCase} {token : String} {now : Instant} {p : Prepared}
    (h : (beginExecution rt action case token now).run db = .ok (p, db')) : ∃ r, db.action action.id = some r ∧ ¬ r.Unowned token now := by
  obtain ⟨begun, d, began, -⟩ := Tx.bind_ok h
  obtain ⟨r, stored, -, lease, leased, live, idle, -, -⟩ := beginAttempt_effect began
  refine ⟨r, stored, ?_⟩
  rintro (other | ⟨t, expires, late⟩ | open_)
  · exact other lease
  · exact absurd (live t expires) (Int.not_lt.mpr late)
  · exact open_ idle

/-- A preparation that owns no lease, and is not blocked, is refused. -/
theorem prepareExecution_unowned {token : String} {now : Instant} (found : db.action id = some r)
    (unowned : r.Unowned token now) (clear : Unblocked rt r now db) : exec rt (.prepareExecution id token now) db = db := by
  refine Tx.commit_relates (R := fun s t => t = s) rfl fun {p t} ran => ?_
  obtain ⟨action, case, check, preparing⟩ := prepareExecution_ok ran
  obtain rfl : r = action := Option.some.inj (found.symm.trans preparing.stored)
  have passes := clear case preparing.owned check _ preparing.checked
  rcases preparing.branch with ⟨blocks, -⟩ | ⟨-, begins⟩
  · rw [passes] at blocks
    cases blocks
  · obtain ⟨s, stored, owned⟩ := beginExecution_owned begins
    have kept := (finalPolicyDecision_spared _ _ _ _ _ _ preparing.checked).actions
    rw [Database.action, kept, show r.id = id from Table.lookup_key found] at stored
    obtain rfl : r = s := Option.some.inj (found.symm.trans stored)
    exact absurd unowned owned

end unowned

section inFlight

/-- The attempt is open on the action of this id. -/
def CaseView.InFlight (id : ActionIdentity) (a : ActionAttempt) (v : CaseView) : Prop :=
  ∃ r ∈ v.actions, r.id = id ∧ a ∈ r.openAttempts

theorem updated_inFlight {i : ActionIdentity} {f : ActionRow → ActionRow} {actions : List ActionRow}
    (keeps : ∀ x, (f x).id = x.id) (stays : ∀ x, a ∈ x.openAttempts → a ∈ (f x).openAttempts)
    (h : ∃ r ∈ actions, r.id = id ∧ a ∈ r.openAttempts) :
    ∃ r ∈ Table.update ActionRow.id i f actions, r.id = id ∧ a ∈ r.openAttempts := by
  obtain ⟨r, member, here, open_⟩ := h
  by_cases same : r.id = i
  · exact ⟨f r, Table.mem_update.mpr ⟨r, member, .inl ⟨same, rfl⟩⟩, (keeps r).trans here, stays r open_⟩
  · exact ⟨r, Table.mem_update.mpr ⟨r, member, .inr ⟨same, rfl⟩⟩, here, open_⟩

theorem Resolved.inFlight {i : ActionIdentity} {s : ActionStatus} {before after : List ActionRow}
    (resolved : Resolved i s before after) (h : ∃ r ∈ before, r.id = id ∧ a ∈ r.openAttempts) :
    ∃ r ∈ after, r.id = id ∧ a ∈ r.openAttempts := by
  rcases resolved with rfl | ⟨t, object, code, rfl⟩
  · exact h
  · exact updated_inFlight (fun _ => rfl) (fun _ open_ => open_) h

/-- Only an answer, or giving the call up as lost, closes an attempt. -/
theorem Change.inFlight (h : Change excluded db k v v') (unanswered : excluded .reported) (unlost : excluded .lost)
    (open_ : v.InFlight id a) : v'.InFlight id a := by
  cases h with
  | authorized =>
    obtain ⟨r, member, rest⟩ := open_
    exact ⟨r, List.mem_append_left _ member, rest⟩
  | leased | blocked | late => exact updated_inFlight (fun _ => rfl) (fun _ here => here) open_
  | begun =>
    refine updated_inFlight (fun _ => rfl) (fun x here => ?_) open_
    rw [begin_open]
    exact List.mem_append_left _ here
  | retried _ _ _ _ _ allowed => exact absurd unanswered allowed
  | finished _ _ _ _ _ _ _ _ _ allowed => exact absurd unanswered allowed
  | lost _ _ _ _ _ _ allowed => exact absurd unlost allowed
  | unresolved _ _ _ f _ _ _ _ _ _ _ marked =>
    rcases marked with rfl | ⟨-, rfl⟩ <;> exact updated_inFlight (fun _ => rfl) (fun _ here => here) open_
  | reconciled _ _ _ _ _ _ _ _ _ _ _ _ _ _ resolved => exact resolved.inFlight open_
  | credited _ _ _ _ _ _ _ _ _ resolved => exact resolved.inFlight open_
  | shadowed _ _ _ _ _ _ _ _ _ _ resolved => exact resolved.inFlight open_
  | _ => exact open_

/-- A command that neither answers calls nor gives them up leaves the call in flight. -/
theorem exec_inFlight {c : Command} (reach : Reachable rt db) (unanswered : ∀ i token result, c ≠ .recordExecutionResult i token result)
    (unlost : ∀ now limit, c ≠ .markStaleCallsUnknown now limit) (open_ : (view id.key db).InFlight id a) :
    (view id.key (exec rt c db)).InFlight id a := by
  have avoids : c.Avoids rt (· ∈ [Kind.reported, .lost]) db :=
    Command.avoids_calls (by decide) (fun _ _ _ _ ex => absurd ex (by decide))
      (fun i token result same => absurd same (unanswered i token result)) fun now limit same => absurd same (unlost now limit)
  rcases exec_simulated reach.under.keyed c avoids with steps | ambient
  · exact steps.invariant (fun db => (view id.key db).InFlight id a) open_ fun step here =>
      (step.change id.key).inFlight (by decide) (by decide) here
  · unfold CaseView.InFlight
    rw [ambient.view_actions]
    exact open_

end inFlight

section answers

variable {result : ProviderExecutionResult} {case : RecoveryCase}

/-- An answer that comes after the call and after the case's last change, in texts that the columns hold. -/
structure InTime (result : ProviderExecutionResult) (a : ActionAttempt) (r : ActionRow) (case : RecoveryCase) : Prop where
  called : a.startedAt ≤ result.observedAt
  written : case.updatedAt ≤ result.observedAt
  authorized : r.action.authorizedAt ≤ result.observedAt
  fits : result.completion.Fits

theorem retryAt_later (rt : Runtime) (n : Nat) (t : Instant) : t ≤ retryAt rt n t := by
  have base : 0 ≤ rt.retryBase * 2 ^ (n - 1) := Int.mul_nonneg (Int.le_of_lt rt.retry_base_pos) (Int.pow_nonneg (by decide))
  have cap : (0 : Int) ≤ seconds 300 := by decide
  have wait : 0 ≤ min (rt.retryBase * 2 ^ (n - 1)) (seconds 300) := Int.le_min.mpr ⟨base, cap⟩
  exact Int.le_add_of_nonneg_right wait

theorem finish_scheduled {token : String} {c : AttemptCompletion} {again deadline : Instant}
    (scheduled : r.action.authorizedAt ≤ r.nextAttemptAt) (later : r.action.authorizedAt ≤ again) :
    (r.finish token c again deadline).action.authorizedAt ≤ (r.finish token c again deadline).nextAttemptAt := by
  unfold ActionRow.finish
  split
  · exact later
  · exact scheduled

theorem finishAttempt_run {c : AttemptCompletion} {again deadline : Instant} (found : db.action id = some r)
    (sole : r.openAttempts = [a]) (called : a.startedAt ≤ c.completedAt) (scheduled : r.action.authorizedAt ≤ r.nextAttemptAt)
    (later : r.action.authorizedAt ≤ again) (fits : c.Fits) :
    (finishAttempt id a.leaseToken c again deadline).run db = .ok (r.finish a.leaseToken c again deadline,
      updateAction id (ActionRow.finish a.leaseToken c again deadline) db) := by
  have mine : r.openAttempts.filter (fun x => decide (x.leaseToken = a.leaseToken)) = [a] := by
    rw [sole]
    simp
  unfold finishAttempt
  refine (Tx.bind_of_ok (Tx.run_read _ _)).trans ?_
  rw [found]
  refine (Tx.bind_of_ok (Tx.run_found_some _ _ _)).trans ?_
  dsimp only
  rw [mine]
  refine (Tx.bind_of_ok (Tx.check_of (Nat.le_refl 1))).trans ((Tx.bind_of_ok (Tx.check_of (List.cons_ne_nil _ _))).trans ?_)
  refine (Tx.bind_of_ok (Tx.check_of fits)).trans ?_
  refine (Tx.bind_of_ok (Tx.check_of fun x member => ?_)).trans
    ((Tx.bind_of_ok (Tx.check_of (finish_scheduled scheduled later))).trans rfl)
  rw [List.mem_singleton] at member
  rw [member]
  exact called

theorem validate_of {o : VerifiedOutcome}
    (unknown : o.outcomeStatus = .unknown → o.isAuthoritative = false ∧ o.recoveredAmountMinor = 0 ∧ o.verifiedAt = none)
    (paid : o.recoveredAmountMinor ≠ 0 → o.outcomeStatus = .succeeded ∧ o.isAuthoritative = true)
    (evident : o.recoveredAmountMinor ≠ 0 → o.evidenceReference.isSome = true ∧ o.verifiedAt.isSome = true)
    (verified : o.isAuthoritative = true → o.verifiedAt.isSome = true) (ordered : ∀ t ∈ o.verifiedAt, o.observedAt ≤ t) :
    o.validate = .ok () := by
  unfold VerifiedOutcome.validate
  rw [require_of unknown, require_of paid, require_of evident, require_of verified]
  exact require_of ordered

/-- What is kept of an answer that recovers nothing is valid, unless it claims to be sure of not knowing. -/
theorem observation_validate {status : ActionStatus} {authoritative : Bool} (known : status = .unknown → authoritative = false)
    (source : EvidenceSource) (t : Instant) (reference reason : Option String) :
    (observation r status source t reference reason authoritative).validate = .ok () := by
  have verified : (observation r status source t reference reason authoritative).verifiedAt =
      if authoritative then some t else none := rfl
  refine validate_of (fun unknown => ⟨known unknown, rfl, ?_⟩) (fun some_ => absurd rfl some_) (fun some_ => absurd rfl some_)
    (fun sure => ?_) (fun u here => ?_)
  · rw [verified, known unknown]
    rfl
  · rw [verified, show authoritative = true from sure]
    rfl
  · rw [verified] at here
    cases authoritative <;> cases here
    exact Int.le_refl t

/-- The move of a case whose call is answered, and the note of the answer. -/
theorem answered_run (r : ActionRow) (s : CaseState) (status : ActionStatus) (code : String) (authoritative : Bool) {t : Instant}
    (current : Current case db) (edge : s ∈ allowedTransitions case.state) (goes : s ∈ [CaseState.unknown, .verifying])
    (written : case.updatedAt ≤ t) (fits : code ≠ "" ∧ code.length ≤ 128) (unpaid : status ≠ .succeeded)
    (known : status = .unknown → authoritative = false) (source : EvidenceSource) {reference reason : Option String}
    (sized : FitsIn 512 reference ∧ FitsIn 128 reason) : ∃ moved d d',
      (executionTransition case r s code t).run db = .ok (moved, d) ∧
      (storeObservation (observation r status source t reference reason authoritative)).run d = .ok ((), d') ∧
        Current moved d' ∧ moved.state = s ∧ moved.updatedAt = t := by
  have live : ¬ s.Terminal ∧ s ≠ .recovered := by
    revert goes
    cases s <;> decide
  have step : ∃ moved d, (executionTransition case r s code t).run db = .ok (moved, d) ∧ Moves case moved s t db d :=
    executionTransition_live current edge live.1 live.2 written fits none _
  obtain ⟨moved, d, ran, moves⟩ := step
  refine ⟨moved, d, _, ran, storeObservation_of (observation_validate known source t reference reason) sized (fun credits => ?_), ?_,
    moves.state, moves.time⟩
  · obtain ⟨-, succeeded⟩ := Bool.and_eq_true_iff.mp credits
    exact absurd (eq_of_beq succeeded) unpaid
  · obtain ⟨row, found, same⟩ := moves.current
    refine ⟨row, ?_, same⟩
    unfold Database.observed
    split <;> exact found

/-- What follows once the attempt is closed. -/
def concludeResult (action : ActionRow) (case : RecoveryCase) (result : ProviderExecutionResult) : Transaction ExecutionDisposition :=
  if action.status = .pending then pure ⟨action.id, .pending, case.state, "EXPLICIT_FAILURE_RETRY_SCHEDULED"⟩
  else if result.status = .unknown then do
    let case ← executionTransition case action .unknown (unknownReason result.errorCode) result.observedAt
    storeObservation (observation action .unknown result.evidenceSource result.observedAt result.responseReference
      (some (unknownReason result.errorCode)) false)
    pure ⟨action.id, .unknown, case.state, "UNKNOWN"⟩
  else if result.status = .succeeded then do
    let case ← executionTransition case action .verifying "PROVIDER_REQUEST_ACCEPTED" result.observedAt
    storeObservation (observation action .pending result.evidenceSource result.observedAt result.responseReference
      (some "AWAITING_AUTHORITATIVE_OUTCOME") false)
    pure ⟨action.id, .succeeded, case.state, "VERIFYING"⟩
  else do
    let case ← executionTransition case action .verifying "PROVIDER_REQUEST_REJECTED" result.observedAt
    storeObservation (observation action .failed result.evidenceSource result.observedAt result.responseReference
      (some (orText result.errorCode "PROVIDER_REQUEST_REJECTED")) true)
    let case ← executionTransition case action .decisionPending "VERIFIED_ACTION_FAILURE" result.observedAt
    pure ⟨action.id, .failed, case.state, "FAILED"⟩

/-- While the case is EXECUTING an answer in time is concluded, whichever it is. -/
theorem concludeResult_run (current : Current case db) (executing : case.state = .executing)
    (written : case.updatedAt ≤ result.observedAt)
    (sized : result.completion.Fits) (done : ActionRow) :
    ∃ out db', (concludeResult done case result).run db = .ok (out, db') := by
  have unknown : CaseState.unknown ∈ allowedTransitions case.state := by
    rw [executing]
    decide
  have verifying : CaseState.verifying ∈ allowedTransitions case.state := by
    rw [executing]
    decide
  unfold concludeResult
  split
  · exact ⟨_, _, rfl⟩
  split
  · rename_i ambiguous
    have fits : unknownReason result.errorCode ≠ "" ∧ (unknownReason result.errorCode).length ≤ 128 :=
      ⟨orText_nonempty (by decide), orText_fits (by decide) sized.errorCode⟩
    obtain ⟨moved, d, d', ran, stored, -⟩ := answered_run done .unknown .unknown _ false current unknown (by decide) written
      fits (by decide) (fun _ => rfl) result.evidenceSource ⟨sized.responseReference, fun s here => Option.some.inj here ▸ fits.2⟩
    exact ⟨_, d', (Tx.bind_of_ok ran).trans ((Tx.bind_of_ok stored).trans rfl)⟩
  split
  · obtain ⟨moved, d, d', ran, stored, -⟩ := answered_run done .verifying .pending "PROVIDER_REQUEST_ACCEPTED" false current
      verifying (by decide) written (by decide) (by decide) (fun _ => rfl) result.evidenceSource
      ⟨sized.responseReference, show FitsIn 128 (some "AWAITING_AUTHORITATIVE_OUTCOME") by decide⟩
    exact ⟨_, d', (Tx.bind_of_ok ran).trans ((Tx.bind_of_ok stored).trans rfl)⟩
  · have rejected : (orText result.errorCode "PROVIDER_REQUEST_REJECTED").length ≤ 128 := orText_fits (by decide) sized.errorCode
    obtain ⟨moved, d, d', ran, stored, still, state, time⟩ := answered_run done .verifying .failed "PROVIDER_REQUEST_REJECTED"
      true current verifying (by decide) written (by decide) (by decide) (fun unknown => by cases unknown)
      result.evidenceSource ⟨sized.responseReference, fun s here => Option.some.inj here ▸ rejected⟩
    have edge : CaseState.decisionPending ∈ allowedTransitions moved.state := by
      rw [state]
      decide
    have step : ∃ last d'', (executionTransition moved done .decisionPending "VERIFIED_ACTION_FAILURE" result.observedAt).run d' =
        .ok (last, d'') ∧ Moves moved last .decisionPending result.observedAt d' d'' :=
      executionTransition_live still edge (by decide) (by decide) time.le (by decide) none _
    obtain ⟨last, d'', again, -⟩ := step
    exact ⟨_, d'', (Tx.bind_of_ok ran).trans ((Tx.bind_of_ok stored).trans ((Tx.bind_of_ok again).trans rfl))⟩

/-- The answer of a call in flight is taken down. -/
theorem recordExecutionResult_run (rt : Runtime) (found : db.action id = some r) (sole : r.openAttempts = [a])
    (here : db.caseOf r.key = some case) (executing : case.state = .executing)
    (scheduled : r.action.authorizedAt ≤ r.nextAttemptAt) (inTime : InTime result a r case) :
    ∃ out db', (recordExecutionResult rt id a.leaseToken result).run db = .ok (out, db') := by
  obtain ⟨done, d, finished, owner, cases⟩ : ∃ done d, (finishAttempt id a.leaseToken result.completion
      (retryAt rt r.attemptCount result.observedAt) (result.observedAt + rt.unknownTtl)).run db = .ok (done, d) ∧
        done.key = r.key ∧ d.cases = db.cases :=
    ⟨_, _, finishAttempt_run found sole inTime.called scheduled (inTime.authorized.trans (retryAt_later rt _ _))
      inTime.fits,
      congrArg ActionIdentity.key (finish_id _ _ _ _ r), rfl⟩
  have kept : d.caseOf done.key = some case := by
    rw [owner, Database.caseOf, Database.caseRow, cases]
    exact here
  have required : (requiredCase done).run d = .ok (case, d) := by
    refine (Tx.bind_of_ok (Tx.run_read _ _)).trans ?_
    rw [kept]
    rfl
  obtain ⟨out, db', ran⟩ := concludeResult_run (current_of kept) executing inTime.written inTime.fits done
  refine ⟨out, db', (Tx.bind_of_ok (Tx.run_read _ _)).trans ?_⟩
  rw [found]
  exact (Tx.bind_of_ok (Tx.run_found_some _ _ _)).trans ((Tx.bind_of_ok finished).trans ((Tx.bind_of_ok required).trans ran))

end answers

section safety

theorem inFlight_of (member : r ∈ db.actions) (open_ : a ∈ r.openAttempts) : (view r.id.key db).InFlight r.id a :=
  ⟨r, Table.mem_select.mpr ⟨member, rfl⟩, rfl, open_⟩

/-- The answer of another call leaves this one in flight. -/
theorem recordExecutionResult_kept {i : ActionIdentity} {token : String} {result : ProviderExecutionResult} (rt : Runtime)
    (stored : ∀ r ∈ db.actions, db.action r.id = some r) (member : r ∈ db.actions) (sole : r.openAttempts = [a])
    (other : ¬ (i = r.id ∧ token = a.leaseToken)) :
    (view r.id.key (exec rt (.recordExecutionResult i token result) db)).InFlight r.id a := by
  have open_ : a ∈ r.openAttempts := by
    rw [sole]
    exact List.mem_singleton_self a
  refine Tx.commit_relates (R := fun _ t => (view r.id.key t).InFlight r.id a) (inFlight_of member open_) fun {out t} ran => ?_
  obtain ⟨again, deadline, done, d, finished, rest⟩ := recordExecutionResult_finishes ran
  obtain ⟨s, found, ⟨b, mine, token_eq⟩, -, -, rfl⟩ := finishAttempt_effect finished
  have apart : r.id ≠ i := by
    intro same
    subst same
    obtain rfl : r = s := Option.some.inj ((stored r member).symm.trans found)
    rw [sole, List.mem_singleton] at mine
    exact other ⟨rfl, by rw [← token_eq, mine]⟩
  refine inFlight_of ?_ open_
  rw [rest]
  exact Table.mem_update.mpr ⟨r, member, .inr ⟨apart, rfl⟩⟩

/-- What the lease of an action guards. -/
structure LeaseSafety (rt : Runtime) (db : Database) : Prop where
  untouched : ∀ r ∈ db.actions, ∀ token now, r.Unowned token now → Unblocked rt r now db →
    exec rt (.prepareExecution r.id token now) db = db
  single : ∀ r ∈ db.actions, ∀ a ∈ r.openAttempts,
    r.openAttempts = [a] ∧ r.status = .pending ∧ db.stateOf r.key = some .executing
  answered : ∀ r ∈ db.actions, ∀ a ∈ r.openAttempts, ∀ case ∈ db.caseOf r.key, ∀ result, InTime result a r case →
    ∃ out db', (recordExecutionResult rt r.id a.leaseToken result).run db = .ok (out, db')
  superseded : ∀ r ∈ db.actions, ∀ a ∈ r.openAttempts, ∀ c : Command,
    (∃ r' ∈ (exec rt c db).actions, r'.id = r.id ∧ a ∈ r'.openAttempts) ∨
      (∃ result, c = .recordExecutionResult r.id a.leaseToken result) ∨ ∃ now limit, c = .markStaleCallsUnknown now limit

end safety

end RevenueGuard
