import RevenueGuard.Safety.SignedEvents

/-
A payment learnt of from its signed event and from a lookup: when the two ways
agree on the case and on the totals, in either order.
-/
namespace RevenueGuard

variable {db db' : Database} {rt : Runtime} {action : ActionRow} {case : RecoveryCase} {event : NormalizedEvent}
  {wid : Identifier} {result : ProviderLookupResult}

section lookups

/-- What an authoritative payment needs to be recorded against a case that waits for it. -/
structure LookupReady (result : ProviderLookupResult) (case : RecoveryCase) : Prop where
  timely : case.updatedAt ≤ result.observedAt
  named : blank (some result.evidenceReference) = false
  reference : result.evidenceReference.length ≤ 512
  reason : (orText result.reasonCode "AUTHORITATIVE_RECOVERY").length ≤ 128
  object : case.state = .unknown → FitsIn 128 result.providerObjectId

theorem orText_nonempty {value : Option String} {default : String} (h : default ≠ "") : orText value default ≠ "" := by
  unfold orText
  split
  · split
    · exact h
    · assumption
  · exact h

theorem orText_fits {value : Option String} {default : String} {width : Nat} (short : default.length ≤ width)
    (fits : FitsIn width value) : (orText value default).length ≤ width := by
  unfold orText
  split
  · split
    · exact short
    · exact fits _ rfl
  · exact short

theorem fits_of_orText {value : Option String} {default : String} {width : Nat}
    (short : (orText value default).length ≤ width) : FitsIn width value := by
  rintro s rfl
  unfold orText at short
  dsimp only at short
  split at short
  · rename_i empty
    rw [empty]
    exact Nat.zero_le _
  · exact short

theorem wellSized_ok {t : Transition} (h : t.wellSized = .ok ()) : t.Sized := by
  unfold Transition.wellSized at h
  obtain ⟨_, terminalReason, h⟩ := except_bind_ok h
  obtain ⟨_, actor, h⟩ := except_bind_ok h
  obtain ⟨_, reasonCode, h⟩ := except_bind_ok h
  obtain ⟨_, reasonDetail, reference⟩ := except_bind_ok h
  exact ⟨require_ok terminalReason, require_ok actor, require_ok reasonCode, require_ok reasonDetail, require_ok reference⟩

theorem executionTransition_recovered {moved : RecoveryCase} {reason : String} {t : Instant} {reference : String}
    {terminal : Option String} {wake : Option Instant} {version : Identifier}
    (h : (executionTransition case action .recovered reason t (some reference) terminal wake version).run db =
      .ok (moved, db')) :
    blank (some reference) = false ∧ reference.length ≤ 512 ∧ reason.length ≤ 128 := by
  obtain ⟨_, _, lifted, -⟩ := Tx.bind_ok h
  obtain ⟨decided, -⟩ := Tx.lift_ok lifted
  have legal := (transitionCase_ok decided).2.1
  unfold transitionCase at decided
  obtain ⟨_, -, decided⟩ := except_bind_ok decided
  obtain ⟨_, sized, -⟩ := except_bind_ok decided
  have sized := wellSized_ok sized
  exact ⟨legal.evidence rfl, sized.reference _ rfl, sized.reasonCode.2⟩

/-- The action as a crediting lookup leaves it. -/
def ActionRow.reconciled (action : ActionRow) (case : RecoveryCase) (result : ProviderLookupResult) : ActionRow :=
  if case.state = .unknown then action.resolve .succeeded result.observedAt result.providerObjectId none else action

theorem reconciled_stamp : (action.reconciled case result).stamp = action.stamp := by
  unfold ActionRow.reconciled
  split <;> rfl

theorem credits_resolved (credits : result.credits = true) : result.resolvedStatus = .succeeded :=
  if_pos (.inl (credits_iff.mp credits).1)

/-- The store once a crediting lookup has resolved the action. -/
def lookedUpAction (action : ActionRow) (case : RecoveryCase) (result : ProviderLookupResult) (db : Database) : Database :=
  if case.state = .unknown then
    updateAction action.id (ActionRow.resolve .succeeded result.observedAt result.providerObjectId none) db
  else db

theorem resolve_run (credits : result.credits = true) (fits : case.state = .unknown → FitsIn 128 result.providerObjectId) :
    (if case.state = .unknown ∨ result.resolvedStatus = .failed then
        setActionResolution action result.resolvedStatus result.observedAt result.providerObjectId
          (if result.resolvedStatus = .failed then result.reasonCode else none)
      else pure action : Transaction ActionRow).run db =
        .ok (action.reconciled case result, lookedUpAction action case result db) := by
  rw [credits_resolved credits]
  unfold ActionRow.reconciled lookedUpAction
  by_cases unknown : case.state = .unknown
  · rw [if_pos (.inl unknown), if_pos unknown, if_pos unknown]
    exact setActionResolution_run ⟨fits unknown, show FitsIn 128 none by decide⟩
  · rw [if_neg (by simp [unknown]), if_neg unknown, if_neg unknown]
    rfl

/-- What the executor keeps of a lookup. -/
def lookedUpPayment (action : ActionRow) (result : ProviderLookupResult) : VerifiedOutcome :=
  observation action result.status result.evidenceSource result.observedAt (some result.evidenceReference)
    result.reasonCode result.isAuthoritative (if result.credits then action.action.parameters.amountMinor else 0)

theorem lookedUpPayment_credits (action : ActionRow) (credits : result.credits = true) :
    creditsMoney (lookedUpPayment action result) = true ∧
      (lookedUpPayment action result).recoveredAmountMinor = action.action.parameters.amountMinor := by
  obtain ⟨succeeded, authoritative⟩ := credits_iff.mp credits
  simp [creditsMoney, lookedUpPayment, observation, succeeded, authoritative, credits]

theorem lookedUpPayment_validate (credits : result.credits = true) : (lookedUpPayment action result).validate = .ok () := by
  obtain ⟨succeeded, authoritative⟩ := credits_iff.mp credits
  have verified : (lookedUpPayment action result).verifiedAt = some result.observedAt := by
    simp [lookedUpPayment, observation, authoritative]
  unfold VerifiedOutcome.validate
  have known : (lookedUpPayment action result).outcomeStatus ≠ .unknown := by
    rw [show (lookedUpPayment action result).outcomeStatus = .succeeded from succeeded]
    decide
  rw [require_of (fun unknown => absurd unknown known), require_of (fun _ => ⟨succeeded, authoritative⟩),
    require_of (fun _ => ⟨rfl, by rw [verified]; rfl⟩),
    require_of (show (lookedUpPayment action result).isAuthoritative = true →
      (lookedUpPayment action result).verifiedAt.isSome = true from fun _ => by rw [verified]; rfl)]
  refine require_of fun t here => ?_
  rw [verified] at here
  cases here
  exact Int.le_refl _

theorem observed_outcomes (o : VerifiedOutcome) : (db.observed o).outcomes =
    if Table.lookup VerifiedOutcome.id (o.merchantId, o.outcomeId) db.outcomes = none then db.outcomes ++ [o]
    else db.outcomes := by
  unfold Database.observed
  exact apply_ite Database.outcomes _ _ _

theorem lookedUpPayment_fits (ready : LookupReady result case) (action : ActionRow) : (lookedUpPayment action result).Fits :=
  ⟨fun _ here => Option.some.inj here ▸ ready.reference, fits_of_orText ready.reason⟩

/-- A payment learnt of from a lookup in time recovers the case. -/
theorem reconcile_run (current : Current case db) (open_ : Uncollected action.id db) (credits : result.credits = true)
    (state : case.state ∈ [CaseState.unknown, .verifying]) (ready : LookupReady result case) : ∃ out db',
      (reconcile action case result).run db = .ok (out, db') ∧
        db'.outcomes = (db.observed (lookedUpPayment (action.reconciled case result) result)).outcomes ∧
        db'.actions = (lookedUpAction action case result db).actions ∧
        ∃ done, Current done db' ∧ done.anchor = case.anchor ∧ done.state = .recovered := by
  let after := action.reconciled case result
  let d1 := lookedUpAction action case result db
  have d1_cases : d1.cases = db.cases ∧ d1.outcomes = db.outcomes := by
    dsimp only [d1, lookedUpAction]
    split <;> exact ⟨rfl, rfl⟩
  have current1 : Current case d1 := by
    obtain ⟨row, found, same⟩ := current
    exact ⟨row, by rw [Database.caseRow, d1_cases.1]; exact found, same⟩
  obtain ⟨known, d2, acknowledge, acknowledged⟩ :=
    acknowledge_run "UNKNOWN_RECONCILED" current1 ready.timely (by decide) ready.reference after
  have verifying : known.state = .verifying := acknowledged.state.trans ((acknowledged_verifying _).mpr state)
  have stamp : after.stamp = action.stamp := reconciled_stamp
  have id : after.id = action.id := congrArg Prod.fst stamp
  have clear : Uncollected after.id d2 := by
    intro o member
    rw [acknowledged.outcomes, d1_cases.2] at member
    rw [id]
    exact open_ o member
  obtain ⟨d3, store, kept⟩ : ∃ d3, (storeObservation (lookedUpPayment after result)).run d2 = .ok ((), d3) ∧
      d3 = d2.observed (lookedUpPayment after result) := ⟨_, storeObservation_run (lookedUpPayment_validate credits)
        (lookedUpPayment_fits ready after) clear, rfl⟩
  have seen : d3.cases = d2.cases ∧ d3.actions = d2.actions := by
    rw [kept]
    unfold Database.observed
    split <;> exact ⟨rfl, rfl⟩
  have current3 : Current known d3 := by
    obtain ⟨row, found, same⟩ := acknowledged.current
    exact ⟨row, by rw [Database.caseRow, seen.1]; exact found, same⟩
  have edge : CaseState.recovered ∈ allowedTransitions known.state := by
    rw [verifying]
    decide
  have reason : orText result.reasonCode "AUTHORITATIVE_RECOVERY" ≠ "" := orText_nonempty (by decide)
  have step : ∃ done db', (executionTransition known after .recovered (orText result.reasonCode "AUTHORITATIVE_RECOVERY")
      result.observedAt (some result.evidenceReference) (some (orText result.reasonCode "AUTHORITATIVE_RECOVERY"))).run d3 =
        .ok (done, db') ∧ Moves known done .recovered result.observedAt d3 db' :=
    executionTransition_run current3 edge acknowledged.time ⟨reason, ready.reason⟩ (fun _ => by simpa [blank] using reason)
      (fun live => absurd (by decide) live) (fun x here => by cases here; exact ready.reason.trans (by decide))
      (fun _ => ready.named) (fun x here => by cases here; exact ready.reference) none _
  obtain ⟨done, d4, recover, moves⟩ := step
  have settle : (settleLookup after known result).run d3 = .ok (done, d4) := by
    unfold settleLookup
    rw [if_pos credits]
    exact recover
  refine ⟨⟨after.id, result.resolvedStatus, done.state, "RECONCILED"⟩, d4, ?_, ?_, ?_, done, moves.current,
    moves.anchor.trans acknowledged.anchor, moves.state⟩
  · unfold reconcile
    dsimp only
    rw [Tx.ite_bind]
    refine (Tx.bind_of_ok (resolve_run credits ready.object)).trans ?_
    rw [Tx.ite_bind]
    exact (Tx.bind_of_ok acknowledge).trans ((Tx.bind_of_ok store).trans ((Tx.bind_of_ok settle).trans rfl))
  · rw [moves.outcomes, kept, observed_outcomes, observed_outcomes, acknowledged.outcomes, d1_cases.2]
  · rw [moves.actions, seen.2, acknowledged.actions]

theorem reconcile_ok {out : ExecutionDisposition} (credits : result.credits = true)
    (h : (reconcile action case result).run db = .ok (out, db')) : LookupReady result case := by
  unfold reconcile at h
  dsimp only at h
  rw [Tx.ite_bind] at h
  obtain ⟨after, d1, resolve, h⟩ := Tx.bind_ok h
  rw [Tx.ite_bind] at h
  obtain ⟨known, d2, acknowledge, h⟩ := Tx.bind_ok h
  obtain ⟨_, d3, store, h⟩ := Tx.bind_ok h
  obtain ⟨done, d4, settle, -⟩ := Tx.bind_ok h
  unfold settleLookup at settle
  rw [if_pos credits] at settle
  obtain ⟨named, reference, reason⟩ := executionTransition_recovered settle
  refine ⟨(acknowledge_ok acknowledge).2 (executionTransition_ok settle).2.1, named, reference, reason, fun unknown => ?_⟩
  rw [if_pos (.inl unknown)] at resolve
  obtain ⟨_, _, checked, -⟩ := Tx.bind_ok resolve
  exact (Tx.check_ok checked).1.1

theorem overdue_of_credits (credits : result.credits = true) : ¬ action.Overdue result := by
  rintro ⟨-, unsettled⟩
  obtain ⟨succeeded, authoritative⟩ := credits_iff.mp credits
  simp [ProviderLookupResult.settles, succeeded, authoritative] at unsettled

/-- A crediting lookup of an action whose case waits is reconciled. -/
theorem recordLookup_waits (reach : Reachable rt db) (stored : action ∈ db.actions) (here : db.caseOf action.key = some case)
    (state : case.state ∈ [CaseState.unknown, .verifying]) (credits : result.credits = true) :
    (recordLookup action.id result).run db = (reconcile action case result).run db := by
  have required : (requiredCase action).run db = .ok (case, db) := by
    refine (Tx.bind_of_ok (Tx.run_read _ _)).trans ?_
    rw [here]
    rfl
  have waits : case.state = .unknown ∨ case.state = .verifying := by simpa using state
  have known : result.status ≠ .unknown := by
    rw [(credits_iff.mp credits).1]
    decide
  unfold recordLookup
  refine (Tx.bind_of_ok (Tx.run_read _ _)).trans ?_
  rw [reach.actions_found action stored]
  refine (Tx.bind_of_ok (Tx.run_found_some _ _ _)).trans ((Tx.bind_of_ok required).trans ?_)
  rw [if_neg (not_not.mpr waits), if_neg (fun both => overdue_of_credits credits both.2)]
  refine (Tx.bind_of_ok rfl).trans ?_
  change (settleLookupDeadline action case result).run db = _
  unfold settleLookupDeadline
  rw [if_neg (fun both => overdue_of_credits credits both.2), if_neg known]

/-- A lookup of an action whose case does not wait changes nothing. -/
theorem recordLookup_settled {id : ActionIdentity} (settled : db.stateOf id.key ∉ [some .unknown, some .verifying]) :
    exec rt (.recordLookup id result) db = db := by
  refine Tx.commit_relates (R := fun s t => t = s) rfl fun {out t} ran => ?_
  obtain ⟨found, d1, read, ran⟩ := Tx.bind_ok ran
  obtain ⟨rfl, rfl⟩ := Tx.read_ok read
  obtain ⟨action, d2, found, ran⟩ := Tx.bind_ok ran
  obtain ⟨stored, rfl⟩ := Tx.found_ok found
  obtain ⟨case, d3, required, ran⟩ := Tx.bind_ok ran
  obtain ⟨here, rfl⟩ := requiredCase_effect required
  have named : action.id = id := Table.lookup_key stored
  have state := stateOf_caseOf here
  rw [show action.key = id.key from congrArg ActionIdentity.key named] at state
  rw [if_pos ?_] at ran
  · exact (Tx.pure_ok ran).2.symm
  · rintro (unknown | verifying)
    · rw [state, unknown] at settled
      exact settled (by decide)
    · rw [state, verifying] at settled
      exact settled (by decide)

end lookups

section events

/-- What a signed event needs to be recorded against a case that waits for it. -/
structure EventReady (event : NormalizedEvent) (action : ActionRow) (case : RecoveryCase) (db : Database) : Prop where
  timely : case.updatedAt ≤ event.receivedAt
  ordered : amountMatches action event = true → event.occurredAt ≤ event.receivedAt
  single : ∀ link ∈ event.paymentLinkId, (db.linkActions event.merchantId link.val).length ≤ 1

/-- An event whose action's case is RECOVERED already changes nothing. -/
theorem verifySignedEvent_settled (done : ∀ a ∈ paidBy rt event db, db.stateOf a.key = some .recovered) :
    exec rt (.verifySignedEvent event wid) db = db := by
  refine Tx.commit_relates (R := fun s t => t = s) rfl fun {out t} ran => ?_
  unfold verifySignedEvent at ran
  split at ran
  · exact (Tx.pure_ok ran).2.symm
  · obtain ⟨found, d1, credited, ran⟩ := Tx.bind_ok ran
    rw [creditedAction_run (creditedAction_ok credited), Except.ok.injEq, Prod.mk.injEq] at credited
    obtain ⟨rfl, rfl⟩ := credited
    cases paid : paidBy rt event db with
    | none =>
      rw [paid] at ran
      exact (Tx.pure_ok ran).2.symm
    | some a =>
      rw [paid] at ran
      obtain ⟨d, d2, verified, ran⟩ := Tx.bind_ok ran
      obtain ⟨-, rfl⟩ := Tx.pure_ok ran
      obtain ⟨case, d3, required, verified⟩ := Tx.bind_ok verified
      obtain ⟨here, rfl⟩ := requiredCase_effect required
      have recovered := Option.some.inj ((stateOf_caseOf here).symm.trans (done a paid))
      rw [if_pos recovered] at verified
      exact (Tx.pure_ok verified).2.symm

/-- An event that cannot be recorded leaves the store as it was. -/
theorem verifySignedEvent_refused (wid : Identifier) (reach : Reachable rt db) (names : Names event action)
    (creditable : Creditable action case db) (state : case.state ∈ [CaseState.unknown, .verifying]) (refused : ¬ EventReady event action case db) :
    exec rt (.verifySignedEvent event wid) db = db := by
  refine Tx.commit_relates (R := fun s t => t = s) rfl fun {out t} ran => absurd ?_ refused
  obtain ⟨single, recordable⟩ := verifiable_of_ok reach names.signed ran
  obtain ⟨wrong, right⟩ := recordable action (paidBy_of names creditable single) case creditable.here
  by_cases amount : amountMatches action event = true
  · exact ⟨(right amount state).1, fun _ => (right amount state).2, single⟩
  · refine ⟨(wrong ?_ (by simpa using amount)).2, fun matches_ => absurd matches_ amount, single⟩
    intro recovered
    rw [recovered] at state
    exact absurd state (by decide)

/-- A wrong amount stops a case that waits. -/
theorem verifySignedEvent_stops (rt : Runtime) (wid : Identifier) (names : Names event action)
    (creditable : Creditable action case db) (state : case.state ∈ [CaseState.unknown, .verifying]) (ready : EventReady event action case db)
    (amount : amountMatches action event = false) :
    (exec rt (.verifySignedEvent event wid) db).stateOf action.key = some .stopped := by
  have stoppable : case.state ∈ stoppedByMismatch := by
    simp only [List.mem_cons, List.not_mem_nil, or_false] at state
    rcases state with unknown | verifying
    · rw [unknown]
      decide
    · rw [verifying]
      decide
  obtain ⟨out, db', ran, done, current, anchor, stopped⟩ :=
    stopMismatched_run (current_of creditable.here) stoppable ready.timely action wid
  have against : (verifyAgainst event wid action).run db = .ok (out, db') := by
    rw [verifyAgainst_live creditable.here creditable.live, if_pos amount]
    exact ran
  rw [verifySignedEvent_named names creditable ready.single against, current_state creditable current anchor, stopped]

end events

section totals

/-- The totals of a list of credited amounts. -/
def totalsOf (merchantId : Identifier) (credited : List (Currency × Nat)) : List RecoveryTotals :=
  ((unique (credited.map Prod.fst)).insertionSort fun a b => a.val ≤ b.val).map fun c =>
    let mine := credited.filter fun p => decide (p.1 = c)
    ⟨merchantId, c, (mine.map Prod.snd).sum, mine.length⟩

def VerifiedOutcome.amount (o : VerifiedOutcome) : Currency × Nat := (o.currency, o.recoveredAmountMinor)

theorem recoveredTotals_amounts (merchantId : Identifier) (db : Database) :
    recoveredTotals merchantId db = totalsOf merchantId ((db.credits merchantId).map VerifiedOutcome.amount) := by
  unfold recoveredTotals totalsOf
  simp only [List.map_map, List.filter_map, List.length_map]
  rfl

/-- What one more outcome adds to the credited amounts. -/
def VerifiedOutcome.added (o : VerifiedOutcome) : List (Currency × Nat) :=
  if creditsMoney o = true ∧ 0 < o.recoveredAmountMinor then [o.amount] else []

theorem credits_added {o : VerifiedOutcome} (outcomes : db'.outcomes = db.outcomes ++ [o]) :
    (db'.credits o.merchantId).map VerifiedOutcome.amount =
      (db.credits o.merchantId).map VerifiedOutcome.amount ++ o.added := by
  unfold Database.credits VerifiedOutcome.added
  rw [outcomes, List.filter_append, List.map_append, List.filter_singleton]
  by_cases credits : creditsMoney o = true <;> by_cases positive : 0 < o.recoveredAmountMinor <;> simp [credits, positive]

/-- Totals count every credited amount, so one more is never the same. -/
theorem totalsOf_added (merchantId : Identifier) (credited : List (Currency × Nat)) (p : Currency × Nat) :
    totalsOf merchantId (credited ++ [p]) ≠ totalsOf merchantId credited := by
  intro same
  have counted : (⟨merchantId, p.1, (((credited ++ [p]).filter fun q => decide (q.1 = p.1)).map Prod.snd).sum,
      ((credited ++ [p]).filter fun q => decide (q.1 = p.1)).length⟩ : RecoveryTotals) ∈ totalsOf merchantId (credited ++ [p]) := by
    refine List.mem_map.mpr ⟨p.1, (List.mem_insertionSort _).mpr (mem_unique.mpr ?_), rfl⟩
    simp
  rw [same] at counted
  obtain ⟨c, -, equal⟩ := List.mem_map.mp counted
  simp only [RecoveryTotals.mk.injEq, true_and] at equal
  obtain ⟨rfl, -, length⟩ := equal
  rw [List.filter_append, List.length_append] at length
  simp at length

/-- What an action adds once its whole amount is collected. -/
def ActionRow.worth (action : ActionRow) : List (Currency × Nat) :=
  if 0 < action.action.parameters.amountMinor then
    [(action.action.parameters.currency, action.action.parameters.amountMinor)]
  else []

theorem added_worth {o : VerifiedOutcome} (action : ActionRow) (credits : creditsMoney o = true)
    (amount : o.recoveredAmountMinor = action.action.parameters.amountMinor)
    (currency : o.currency = action.action.parameters.currency) : o.added = action.worth := by
  unfold VerifiedOutcome.added ActionRow.worth VerifiedOutcome.amount
  rw [amount, currency]
  simp only [credits, true_and]

end totals

section paths

/-- What a case and the totals of its merchant show. -/
def shown (k : CaseKey) (db : Database) : Option CaseState × List RecoveryTotals :=
  (db.stateOf k, recoveredTotals k.merchantId db)

/-- The event, the lookup and both, in either order, show the same of the action's case. -/
structure PathsAgree (rt : Runtime) (event : NormalizedEvent) (wid : Identifier) (id : ActionIdentity)
    (result : ProviderLookupResult) (db : Database) : Prop where
  same : shown id.key (exec rt (.verifySignedEvent event wid) db) = shown id.key (exec rt (.recordLookup id result) db)
  lookupAfter : shown id.key (exec rt (.recordLookup id result) (exec rt (.verifySignedEvent event wid) db)) =
    shown id.key (exec rt (.verifySignedEvent event wid) db)
  eventAfter : shown id.key (exec rt (.verifySignedEvent event wid) (exec rt (.recordLookup id result) db)) =
    shown id.key (exec rt (.recordLookup id result) db)

/-- The lookup's observation has a name of its own, or nothing to add. -/
def Adds (action : ActionRow) (result : ProviderLookupResult) (db : Database) : Prop :=
  action.action.parameters.amountMinor = 0 ∨
    db.outcome action.merchantId (lookupOutcomeId action result) = none

/-- What a recorded payment shows: the case RECOVERED and the totals with what was added. -/
structure Recorded (action : ActionRow) (added : List (Currency × Nat)) (db db' : Database) : Prop where
  state : db'.stateOf action.key = some .recovered
  totals : recoveredTotals action.merchantId db' =
    totalsOf action.merchantId ((db.credits action.merchantId).map VerifiedOutcome.amount ++ added)

theorem event_recorded (reach : Reachable rt db) (wid : Identifier) (names : Names event action)
    (creditable : Creditable action case db) (state : case.state ∈ [CaseState.unknown, .verifying])
    (ready : EventReady event action case db) (amount : amountMatches action event = true) :
    Recorded action action.worth db (exec rt (.verifySignedEvent event wid) db) := by
  obtain ⟨out, db', ran, outcomes, done, current, anchor, recovered⟩ := creditSigned_run wid (current_of creditable.here)
    (creditable_open reach creditable) state ready.timely (ready.ordered amount)
  have against := (verifyAgainst_paid amount creditable.here creditable.live).trans ran
  rw [verifySignedEvent_named names creditable ready.single against]
  refine ⟨(current_state creditable current anchor).trans (congrArg some recovered), ?_⟩
  simp only [amountMatches, Bool.and_eq_true, beq_iff_eq] at amount
  have added := credits_added outcomes
  rw [added_worth action rfl amount.1 rfl] at added
  rw [recoveredTotals_amounts]
  exact congrArg _ added

theorem lookup_refused (reach : Reachable rt db) (creditable : Creditable action case db)
    (state : case.state ∈ [CaseState.unknown, .verifying]) (credits : result.credits = true)
    (refused : ¬ LookupReady result case) : exec rt (.recordLookup action.id result) db = db := by
  refine Tx.commit_relates (R := fun s t => t = s) rfl fun {out t} ran => absurd ?_ refused
  rw [recordLookup_waits reach creditable.stored creditable.here state credits] at ran
  exact reconcile_ok credits ran

theorem reconciled_payment (action : ActionRow) (case : RecoveryCase) (result : ProviderLookupResult) :
    (lookedUpPayment (action.reconciled case result) result).outcomeId = lookupOutcomeId action result ∧
      (lookedUpPayment (action.reconciled case result) result).merchantId = action.merchantId := by
  unfold ActionRow.reconciled
  split <;> exact ⟨rfl, rfl⟩

theorem lookup_recorded (reach : Reachable rt db) (creditable : Creditable action case db)
    (state : case.state ∈ [CaseState.unknown, .verifying]) (credits : result.credits = true)
    (ready : LookupReady result case) :
    Recorded action (if db.outcome action.merchantId (lookupOutcomeId action result) = none then action.worth else [])
      db (exec rt (.recordLookup action.id result) db) ∧
    (exec rt (.recordLookup action.id result) db).actions = (lookedUpAction action case result db).actions := by
  obtain ⟨out, db', ran, outcomes, actions, done, current, anchor, recovered⟩ := reconcile_run (current_of creditable.here)
    (creditable_open reach creditable) credits state ready
  have committed : exec rt (.recordLookup action.id result) db = db' :=
    Tx.commit_of_ok ((recordLookup_waits reach creditable.stored creditable.here state credits).trans ran)
  rw [committed]
  refine ⟨⟨(current_state creditable current anchor).trans (congrArg some recovered), ?_⟩, actions⟩
  obtain ⟨named, merchant⟩ := reconciled_payment action case result
  have parameters : (action.reconciled case result).action.parameters = action.action.parameters :=
    congrArg Prod.snd reconciled_stamp
  obtain ⟨credited, amount⟩ := lookedUpPayment_credits (action.reconciled case result) credits
  rw [parameters] at amount
  have worth := added_worth action credited amount (congrArg ActionParameters.currency parameters)
  rw [observed_outcomes, named, merchant] at outcomes
  rw [recoveredTotals_amounts]
  refine congrArg _ ?_
  by_cases fresh : db.outcome action.merchantId (lookupOutcomeId action result) = none
  · have stored := outcomes.trans (if_pos fresh)
    have added := credits_added stored
    rw [merchant, worth] at added
    rw [added, if_pos fresh]
  · have kept := outcomes.trans (if_neg fresh)
    rw [if_neg fresh, List.append_nil, Database.credits, kept]
    rfl

/-- After the lookup, the event pays no action but this one. -/
theorem event_after_lookup (names : Names event action) (creditable : Creditable action case db) {l : Database}
    (single : ∀ link ∈ event.paymentLinkId, (db.linkActions event.merchantId link.val).length ≤ 1)
    (actions : l.actions = (lookedUpAction action case result db).actions)
    (recovered : l.stateOf action.key = some .recovered) : exec rt (.verifySignedEvent event wid) l = l := by
  refine verifySignedEvent_settled fun a paid => ?_
  obtain ⟨link, named, -⟩ := names.link
  have alone := linkActions_of names creditable named (single link named)
  unfold paidBy at paid
  rw [named] at paid
  obtain ⟨stored, here⟩ := List.mem_filter.mp (List.mem_of_head? paid)
  have mine : a ∈ db.actions → a = action := fun member => by
    have listed : a ∈ db.linkActions event.merchantId link.val := List.mem_filter.mpr ⟨member, here⟩
    rw [alone, List.mem_singleton] at listed
    exact listed
  have key : a.key = action.key := by
    rw [actions, lookedUpAction] at stored
    split at stored
    · obtain ⟨b, member, ⟨same, rfl⟩ | ⟨other, rfl⟩⟩ := Table.mem_update.mp stored
      · exact congrArg ActionIdentity.key same
      · exact absurd (congrArg ActionRow.id (mine member)) other
    · rw [mine stored]
  rw [key]
  exact recovered

end paths

section runs

end runs

end RevenueGuard
