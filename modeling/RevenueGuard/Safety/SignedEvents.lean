import RevenueGuard.Protocol.Forward
import RevenueGuard.Safety.Recovered

/-
Signed success events against the actions they name: when the verification
commits, and when it recovers the case and credits the payment.
-/
namespace RevenueGuard

variable {db db' : Database} {rt : Runtime} {excluded : Kind → Prop} {k : CaseKey} {v v' : CaseView}
  {action : ActionRow} {case : RecoveryCase} {event : NormalizedEvent} {wid : Identifier}

section homes

/-- The actions of a case belong to a case the store holds. -/
def CaseView.Homed (v : CaseView) : Prop := v.actions ≠ [] → v.state ≠ none

theorem updated_some {id : ActionIdentity} {f : ActionRow → ActionRow} {actions : List ActionRow}
    (h : Table.update ActionRow.id id f actions ≠ []) : actions ≠ [] := by
  intro none
  subst none
  exact h rfl

theorem Change.homed (h : Change excluded db k v v') (inv : v.Homed) : v'.Homed := by
  cases h with
  | idle | linked => exact inv
  | leased | retried | late => exact fun some_ => inv (updated_some some_)
  | _ => exact fun _ gone => by cases gone

theorem homed_invariant (reach : ReachableUnder rt (Command.Avoids rt excluded) db) (k : CaseKey) : (view k db).Homed := by
  have invariant := reach.invariant (fun db => ∀ k, (view k db).Homed) (fun _ none => absurd rfl none)
    (fun _ step inv k => (step.change k).homed (inv k))
    (fun _ ambient inv k => by rw [CaseView.Homed, ambient.view_actions, ambient.state]; exact inv k)
  exact invariant.2 k

theorem requiredCase_run (reach : Reachable rt db) (stored : action ∈ db.actions) :
    ∃ case, db.caseOf action.key = some case ∧ (requiredCase action).run db = .ok (case, db) := by
  have homed : (view action.key db).Homed := homed_invariant reach.under action.key
  have owned := homed (List.ne_nil_of_mem (Table.mem_select.mpr ⟨stored, rfl⟩))
  cases present : (view action.key db).row with
  | none => exact absurd (by rw [CaseView.state, present]; rfl) owned
  | some row =>
    have here : db.caseOf action.key = some row.case := by
      rw [Database.caseOf, show db.caseRow action.key = some row from present]
      rfl
    refine ⟨row.case, here, (Tx.bind_of_ok (Tx.run_read _ _)).trans ?_⟩
    rw [here]
    rfl

end homes

section acknowledged

/-- Where evidence received for an UNKNOWN case takes it. -/
def CaseState.acknowledged (s : CaseState) : CaseState := if s = .unknown then .verifying else s

/-- The states a wrong amount stops. -/
def stoppedByMismatch : List CaseState := [.policyCheck, .unknown, .verifying, .escalated]

theorem stopped_acknowledged (s : CaseState) :
    .stopped ∈ allowedTransitions s.acknowledged ↔ s ∈ stoppedByMismatch := by
  cases s <;> decide

theorem acknowledged_verifying (s : CaseState) : s.acknowledged = .verifying ↔ s ∈ [CaseState.unknown, .verifying] := by
  cases s <;> decide

theorem webhookReference_fits (wid : Identifier) :
    blank (some (webhookReference wid)) = false ∧ ∀ x ∈ some (webhookReference wid), x.length ≤ 512 := by
  have length : (webhookReference wid).length = 15 + wid.val.length := String.length_append _ _
  refine ⟨?_, fun x here => ?_⟩
  · by_contra empty
    have none : webhookReference wid = "" := by simpa [blank] using empty
    rw [none] at length
    simp at length
    omega
  · cases here
    have := wid.property.2
    omega

/-- A case as it stands once the evidence is acknowledged. -/
structure Acknowledged (case known : RecoveryCase) (t : Instant) (db db' : Database) : Prop where
  anchor : known.anchor = case.anchor
  state : known.state = case.state.acknowledged
  time : known.updatedAt ≤ t
  current : Current known db'
  outcomes : db'.outcomes = db.outcomes
  actions : db'.actions = db.actions

/-- Evidence that comes in time is acknowledged. -/
theorem acknowledge_run (reason : String) {reference : String} {t : Instant} (current : Current case db)
    (timely : case.updatedAt ≤ t) (reasonOk : reason ≠ "" ∧ reason.length ≤ 128) (referenceOk : reference.length ≤ 512)
    (action : ActionRow) :
    ∃ known db', (if case.state = .unknown then executionTransition case action .verifying reason t (some reference)
      else pure case : Transaction RecoveryCase).run db = .ok (known, db') ∧ Acknowledged case known t db db' := by
  split
  · rename_i unknown
    have edge : CaseState.verifying ∈ allowedTransitions case.state := by
      rw [unknown]
      decide
    have step : ∃ known db', (executionTransition case action .verifying reason t (some reference)).run db =
        .ok (known, db') ∧ Moves case known .verifying t db db' :=
      executionTransition_run current edge timely reasonOk (fun ended => absurd ended (by decide)) (fun _ => rfl)
        (fun x none => by cases none) (fun recovered => by cases recovered) (fun x here => by cases here; exact referenceOk)
        none _
    obtain ⟨known, db', ran, moves⟩ := step
    refine ⟨known, db', ran, moves.anchor, ?_, moves.time.le, moves.current, moves.outcomes, moves.actions⟩
    rw [moves.state, CaseState.acknowledged, if_pos unknown]
  · rename_i other
    exact ⟨case, db, rfl, rfl, by rw [CaseState.acknowledged, if_neg other], timely, current, rfl, rfl⟩

theorem executionTransition_ok {moved : RecoveryCase} {s : CaseState} {reason : String} {t : Instant}
    {reference terminal : Option String} {wake : Option Instant} {version : Identifier}
    (h : (executionTransition case action s reason t reference terminal wake version).run db = .ok (moved, db')) :
    s ∈ allowedTransitions case.state ∧ case.updatedAt ≤ t ∧ moved.state = s := by
  obtain ⟨_, _, lifted, _⟩ := Tx.bind_ok h
  obtain ⟨decided, -⟩ := Tx.lift_ok lifted
  have legal := (transitionCase_ok decided).2.1
  exact ⟨legal.edge, legal.time, (recoveryTransition_effect h).state⟩

theorem acknowledge_ok {known : RecoveryCase} {reason reference : String} {t : Instant}
    (h : (if case.state = .unknown then executionTransition case action .verifying reason t (some reference)
      else pure case : Transaction RecoveryCase).run db = .ok (known, db')) :
    known.state = case.state.acknowledged ∧ (known.updatedAt ≤ t → case.updatedAt ≤ t) := by
  split at h
  · rename_i unknown
    obtain ⟨-, time, state⟩ := executionTransition_ok h
    exact ⟨by rw [state, CaseState.acknowledged, if_pos unknown], fun _ => time⟩
  · rename_i other
    obtain ⟨rfl, -⟩ := Tx.pure_ok h
    exact ⟨by rw [CaseState.acknowledged, if_neg other], id⟩

theorem acknowledgeSigned_run (current : Current case db) (timely : case.updatedAt ≤ event.receivedAt) (action : ActionRow)
    (wid : Identifier) : ∃ known db', (acknowledgeSigned case action event (webhookReference wid)).run db = .ok (known, db') ∧
      Acknowledged case known event.receivedAt db db' :=
  acknowledge_run _ current timely (by decide) ((webhookReference_fits wid).2 _ rfl) action

end acknowledged

section verification

theorem stopMismatched_run (current : Current case db) (state : case.state ∈ stoppedByMismatch)
    (timely : case.updatedAt ≤ event.receivedAt) (action : ActionRow) (wid : Identifier) : ∃ out db',
      (stopMismatched action case event (webhookReference wid)).run db = .ok (out, db') ∧
        ∃ done, Current done db' ∧ done.anchor = case.anchor ∧ done.state = .stopped := by
  obtain ⟨known, d1, acknowledge, acknowledged⟩ := acknowledgeSigned_run current timely action wid
  have edge : CaseState.stopped ∈ allowedTransitions known.state := by
    rw [acknowledged.state]
    exact (stopped_acknowledged _).mpr state
  have step : ∃ stopped db', (executionTransition known action .stopped "RECOVERY_AMOUNT_MISMATCH" event.receivedAt
      (some (webhookReference wid)) (some "RECOVERY_AMOUNT_MISMATCH")).run d1 = .ok (stopped, db') ∧
        Moves known stopped .stopped event.receivedAt d1 db' :=
    executionTransition_run acknowledged.current edge acknowledged.time (by decide) (fun _ => by decide)
      (fun live => absurd (by decide) live) (fun x here => by cases here; decide) (fun recovered => by cases recovered)
      (webhookReference_fits wid).2 none _
  obtain ⟨stopped, d2, stop, moves⟩ := step
  exact ⟨_, d2, (Tx.bind_of_ok acknowledge).trans ((Tx.bind_of_ok stop).trans rfl), stopped, moves.current,
    moves.anchor.trans acknowledged.anchor, moves.state⟩

/-- A wrong amount is recorded exactly in the states it stops, and never back in time. -/
theorem stopMismatched_iff (current : Current case db) :
    (∃ out db', (stopMismatched action case event (webhookReference wid)).run db = .ok (out, db')) ↔
      case.state ∈ stoppedByMismatch ∧ case.updatedAt ≤ event.receivedAt := by
  constructor
  · rintro ⟨out, db', h⟩
    obtain ⟨known, d1, acknowledge, h⟩ := Tx.bind_ok h
    obtain ⟨stopped, d2, stop, -⟩ := Tx.bind_ok h
    obtain ⟨edge, time, -⟩ := executionTransition_ok stop
    obtain ⟨state, timely⟩ := acknowledge_ok acknowledge
    rw [state] at edge
    exact ⟨(stopped_acknowledged _).mp edge, timely time⟩
  · rintro ⟨state, timely⟩
    obtain ⟨out, db', ran, -⟩ := stopMismatched_run current state timely action wid
    exact ⟨out, db', ran⟩

/-- No outcome under the action's name credits money. -/
def Uncollected (id : ActionIdentity) (db : Database) : Prop :=
  ∀ o ∈ db.outcomes, o.outcomeId.actionId = id ∨ o.actionId = id → creditsMoney o = false ∧ ¬ o.SignedSuccess

theorem uncollected_of (inv : ∀ k, Credited k (view k db)) {id : ActionIdentity}
    (open_ : (view id.key db).state ≠ some .recovered) : Uncollected id db := by
  intro o member named
  have recorded := (inv o.key).recorded o (Table.mem_select.mpr ⟨member, rfl⟩)
  have owner : o.actionId = id := named.elim (fun here => recorded.id.symm.trans here) fun here => here
  have here : o.key = id.key := by rw [← recorded.home, owner]
  have none : creditsMoney o = false := by
    by_contra credits
    rw [Bool.not_eq_false] at credits
    refine open_ ((inv id.key).recovered (List.ne_nil_of_mem (List.mem_filter.mpr ⟨?_, credits⟩)))
    exact Table.mem_select.mpr ⟨member, here⟩
  exact ⟨none, fun signed => by rw [recorded.signed signed] at none; cases none⟩

/-- What the executor keeps of a signed payment. -/
def signedPayment (action : ActionRow) (event : NormalizedEvent) (wid : Identifier) : VerifiedOutcome :=
  observation action .succeeded .signedWebhook event.occurredAt (some (webhookReference wid)) (some "PAYMENT_LINK_PAID")
    true event.amountMinor (some event.receivedAt)

theorem signedPayment_fits : (signedPayment action event wid).Fits :=
  ⟨(webhookReference_fits wid).2, show FitsIn 128 (some "PAYMENT_LINK_PAID") by decide⟩

theorem signedPayment_validate : (signedPayment action event wid).validate = .ok () ↔ event.occurredAt ≤ event.receivedAt := by
  constructor
  · intro valid
    unfold VerifiedOutcome.validate at valid
    obtain ⟨_, -, valid⟩ := except_bind_ok valid
    obtain ⟨_, -, valid⟩ := except_bind_ok valid
    obtain ⟨_, -, valid⟩ := except_bind_ok valid
    obtain ⟨_, -, valid⟩ := except_bind_ok valid
    exact require_ok valid event.receivedAt rfl
  · intro timely
    unfold VerifiedOutcome.validate
    rw [require_of (fun unknown => by cases unknown), require_of (fun _ => ⟨rfl, rfl⟩), require_of (fun _ => ⟨rfl, rfl⟩),
      require_of (show (signedPayment action event wid).isAuthoritative = true →
        (signedPayment action event wid).verifiedAt.isSome = true from fun _ => rfl)]
    refine require_of fun t here => ?_
    cases here
    exact timely

/-- What is stored of a valid observation: nothing, if its name is taken. -/
def Database.observed (db : Database) (o : VerifiedOutcome) : Database :=
  if db.outcome o.merchantId o.outcomeId = none then { db with outcomes := db.outcomes ++ [o] } else db

/-- A valid observation is stored, unless it would credit an action twice. -/
theorem storeObservation_of {o : VerifiedOutcome} (valid : o.validate = .ok ()) (fits : o.Fits) (alone : creditsMoney o = true →
    ∀ p ∈ db.outcomes, ¬ (p.merchantId = o.merchantId ∧ p.actionId = o.actionId ∧ creditsMoney p = true)) :
    (storeObservation o).run db = .ok ((), db.observed o) := by
  unfold Database.observed
  refine (Tx.bind_of_ok (by rw [valid]; rfl)).trans ((Tx.bind_of_ok (Tx.run_read _ _)).trans ?_)
  cases found : db.outcome o.merchantId o.outcomeId with
  | some p => rfl
  | none =>
    rw [if_pos rfl]
    exact (Tx.bind_of_ok (Tx.check_of fits)).trans ((Tx.bind_of_ok (Tx.run_read _ _)).trans
      ((Tx.bind_of_ok (Tx.check_of alone)).trans rfl))

theorem storeObservation_run {o : VerifiedOutcome} (valid : o.validate = .ok ()) (fits : o.Fits) (open_ : Uncollected o.actionId db) :
    (storeObservation o).run db = .ok ((), db.observed o) := by
  refine storeObservation_of valid fits ?_
  rintro - p member ⟨-, same, credits⟩
  rw [(open_ p member (.inr same)).1] at credits
  cases credits

/-- A link's id is one, and fits its column. -/
theorem link_fits (event : NormalizedEvent) : FitsIn 128 (event.paymentLinkId.map (·.val)) ∧ FitsIn 128 none := by
  refine ⟨fun s here => ?_, by decide⟩
  obtain ⟨link, -, rfl⟩ := Option.map_eq_some_iff.mp here
  exact link.property.2

/-- A signed success of an action nothing was collected for has a name of its own. -/
theorem observed_signed {o : VerifiedOutcome} (signed : o.SignedSuccess) (here : o.outcomeId.actionId = o.actionId)
    (open_ : Uncollected o.actionId db) : db.observed o = { db with outcomes := db.outcomes ++ [o] } := by
  refine if_pos (Table.lookup_none.mpr fun p member same => ?_)
  have named : p.outcomeId = o.outcomeId := congrArg Prod.snd same
  exact (open_ p member (.inl (by rw [named, here]))).2 (by rw [VerifiedOutcome.SignedSuccess, named]; exact signed)

/-- The store once the action is resolved as paid. -/
def paidAction (action : ActionRow) (event : NormalizedEvent) (db : Database) : Database :=
  updateAction action.id (ActionRow.resolve .succeeded event.receivedAt (event.paymentLinkId.map (·.val)) none) db

/-- The action as `creditSigned` resolves it. -/
def ActionRow.paid (action : ActionRow) (event : NormalizedEvent) : ActionRow :=
  action.resolve .succeeded event.receivedAt (event.paymentLinkId.map (·.val)) none

/-- In the two states that wait for it, a matching payment in time recovers the case. -/
theorem creditSigned_run (wid : Identifier) (current : Current case db) (open_ : Uncollected action.id db)
    (state : case.state ∈ [CaseState.unknown, .verifying]) (timely : case.updatedAt ≤ event.receivedAt)
    (ordered : event.occurredAt ≤ event.receivedAt) : ∃ out db',
      (creditSigned action case event (webhookReference wid)).run db = .ok (out, db') ∧
        db'.outcomes = db.outcomes ++ [signedPayment (action.paid event) event wid] ∧
        ∃ done, Current done db' ∧ done.anchor = case.anchor ∧ done.state = .recovered := by
  have paid : Current case (paidAction action event db) := current
  obtain ⟨known, d1, acknowledge, acknowledged⟩ := acknowledgeSigned_run paid timely (action.paid event) wid
  have verifying : known.state = .verifying := acknowledged.state.trans ((acknowledged_verifying _).mpr state)
  have clear : Uncollected (action.paid event).id d1 := by
    intro o member
    rw [acknowledged.outcomes] at member
    exact open_ o member
  obtain ⟨d2, store, kept⟩ : ∃ d2, (storeObservation (signedPayment (action.paid event) event wid)).run d1 = .ok ((), d2) ∧
      d2 = { d1 with outcomes := d1.outcomes ++ [signedPayment (action.paid event) event wid] } :=
    ⟨_, storeObservation_run (signedPayment_validate.mpr ordered) signedPayment_fits clear, observed_signed ⟨rfl, rfl⟩ rfl clear⟩
  have still : Current known d2 := by
    rw [kept]
    exact acknowledged.current
  have edge : CaseState.recovered ∈ allowedTransitions known.state := by
    rw [verifying]
    decide
  have step : ∃ done db', (executionTransition known (action.paid event) .recovered "PAYMENT_LINK_PAID" event.receivedAt
      (some (webhookReference wid)) (some "PAYMENT_LINK_PAID")).run d2 = .ok (done, db') ∧
        Moves known done .recovered event.receivedAt d2 db' :=
    executionTransition_run still edge acknowledged.time (by decide) (fun _ => by decide)
      (fun live => absurd (by decide) live) (fun x here => by cases here; decide) (fun _ => (webhookReference_fits wid).1)
      (webhookReference_fits wid).2 none _
  obtain ⟨done, d3, recover, moves⟩ := step
  refine ⟨⟨action.id, .succeeded, done.state, "RECOVERED"⟩, d3,
    (Tx.bind_of_ok (setActionResolution_run (link_fits event))).trans ((Tx.bind_of_ok acknowledge).trans ?_), ?_, done, moves.current,
    moves.anchor.trans acknowledged.anchor, moves.state⟩
  · rw [if_neg (not_not.mpr verifying)]
    exact (Tx.bind_of_ok store).trans ((Tx.bind_of_ok recover).trans rfl)
  · rw [moves.outcomes, kept, acknowledged.outcomes]
    rfl

/-- Elsewhere the payment is taken for stale: the action is resolved and the case stays. -/
theorem creditSigned_stale (state : case.state ∉ [CaseState.unknown, .verifying]) :
    (creditSigned action case event (webhookReference wid)).run db =
      .ok (⟨action.id, .succeeded, case.state, "STALE_EVIDENCE"⟩, paidAction action event db) := by
  have other : case.state ≠ .unknown := fun same => state (by rw [same]; decide)
  have late : case.state ≠ .verifying := fun same => state (by rw [same]; decide)
  have kept : (acknowledgeSigned case (action.paid event) event (webhookReference wid)).run (paidAction action event db) =
      .ok (case, paidAction action event db) := by
    unfold acknowledgeSigned
    rw [if_neg other]
    rfl
  refine (Tx.bind_of_ok (setActionResolution_run (link_fits event))).trans ((Tx.bind_of_ok kept).trans ?_)
  rw [if_pos late]
  rfl

theorem creditSigned_iff (current : Current case db) (open_ : Uncollected action.id db) :
    (∃ out db', (creditSigned action case event (webhookReference wid)).run db = .ok (out, db')) ↔
      (case.state ∈ [CaseState.unknown, .verifying] → case.updatedAt ≤ event.receivedAt ∧ event.occurredAt ≤ event.receivedAt) := by
  constructor
  · rintro ⟨out, db', h⟩ state
    obtain ⟨paid, d1, resolved, h⟩ := Tx.bind_ok h
    obtain ⟨known, d2, acknowledge, h⟩ := Tx.bind_ok h
    obtain ⟨reached, timely⟩ := acknowledge_ok acknowledge
    rw [(acknowledged_verifying _).mpr state] at reached
    rw [if_neg (not_not.mpr reached)] at h
    obtain ⟨_, d3, stored, h⟩ := Tx.bind_ok h
    obtain ⟨done, d4, recover, -⟩ := Tx.bind_ok h
    exact ⟨timely (executionTransition_ok recover).2.1, signedPayment_validate.mp (storeObservation_ok stored).1⟩
  · intro ready
    by_cases state : case.state ∈ [CaseState.unknown, .verifying]
    · obtain ⟨timely, ordered⟩ := ready state
      obtain ⟨out, db', ran, -⟩ := creditSigned_run wid current open_ state timely ordered
      exact ⟨out, db', ran⟩
    · exact ⟨_, _, creditSigned_stale state⟩

/-- The actions an event's payment link names. -/
def Database.linkActions (db : Database) (merchantId : Identifier) (link : String) : List ActionRow :=
  db.actions.filter fun r => decide (r.merchantId = merchantId ∧ r.providerObjectId = some link ∧
    r.actionType ∈ recoveryCreditActions ∧ resolvable r)

/-- The action an event pays, if one does. -/
def paidBy (rt : Runtime) (event : NormalizedEvent) (db : Database) : Option ActionRow :=
  event.paymentLinkId.elim
    ((event.subscriptionId.or event.paymentId).bind fun subject =>
      findLatestActionForTarget rt event.merchantId subject recoveryCreditActions db)
    fun link => (db.linkActions event.merchantId link.val).head?

theorem creditedAction_run (single : ∀ link ∈ event.paymentLinkId, (db.linkActions event.merchantId link.val).length ≤ 1) :
    (creditedAction rt event).run db = .ok (paidBy rt event db, db) := by
  unfold creditedAction paidBy
  cases named : event.paymentLinkId with
  | some link => exact (Tx.bind_of_ok rfl).trans ((Tx.bind_of_ok (Tx.check_of (single link named))).trans rfl)
  | none =>
    cases event.subscriptionId.or event.paymentId with
    | some subject => rfl
    | none => rfl

theorem creditedAction_ok {found : Option ActionRow} (h : (creditedAction rt event).run db = .ok (found, db')) :
    ∀ link ∈ event.paymentLinkId, (db.linkActions event.merchantId link.val).length ≤ 1 := by
  intro link named
  unfold creditedAction at h
  rw [named] at h
  obtain ⟨rows, _, read, h⟩ := Tx.bind_ok h
  obtain ⟨rfl, rfl⟩ := Tx.read_ok read
  obtain ⟨_, _, checked, -⟩ := Tx.bind_ok h
  exact (Tx.check_ok checked).1

theorem paidBy_credits {action : ActionRow} (paid : paidBy rt event db = some action) :
    action ∈ db.actions ∧ action.merchantId = event.merchantId ∧ action.actionType ∈ recoveryCreditActions ∧
      resolvable action := by
  unfold paidBy at paid
  cases named : event.paymentLinkId with
  | some link =>
    rw [named] at paid
    obtain ⟨stored, here⟩ := List.mem_filter.mp (List.mem_of_head? paid)
    simp only [decide_eq_true_eq] at here
    exact ⟨stored, here.1, here.2.2⟩
  | none =>
    rw [named] at paid
    obtain ⟨subject, -, latest⟩ := Option.bind_eq_some_iff.mp paid
    obtain ⟨stored, here⟩ := List.mem_filter.mp ((List.mem_insertionSort _).mp (List.mem_of_head? latest))
    simp only [decide_eq_true_eq] at here
    exact ⟨stored, here.1, here.2.2⟩

/-- When the evidence an event brings against an action finds the case where it can be recorded. -/
structure Recordable (event : NormalizedEvent) (action : ActionRow) (case : RecoveryCase) : Prop where
  wrong : case.state ≠ .recovered → amountMatches action event = false →
    case.state ∈ stoppedByMismatch ∧ case.updatedAt ≤ event.receivedAt
  right : amountMatches action event = true → case.state ∈ [CaseState.unknown, .verifying] →
    case.updatedAt ≤ event.receivedAt ∧ event.occurredAt ≤ event.receivedAt

theorem verifyAgainst_iff (wid : Identifier) (reach : Reachable rt db) (stored : action ∈ db.actions)
    (here : db.caseOf action.key = some case) :
    (∃ out db', (verifyAgainst event wid action).run db = .ok (out, db')) ↔ Recordable event action case := by
  obtain ⟨_, found, required⟩ := requiredCase_run reach stored
  rw [here, Option.some.injEq] at found
  subst found
  have current : Current case db := current_of here
  have first : (verifyAgainst event wid action).run db = _ := Tx.bind_of_ok required
  rw [first]
  by_cases recovered : case.state = .recovered
  · rw [if_pos recovered]
    refine iff_of_true ⟨_, _, rfl⟩ ⟨fun other => absurd recovered other, fun _ state => ?_⟩
    rw [recovered] at state
    exact absurd state (by decide)
  · rw [if_neg recovered]
    by_cases wrong : amountMatches action event = false
    · rw [if_pos wrong]
      refine stopMismatched_iff current |>.trans ⟨fun h => ⟨fun _ _ => h, fun right => ?_⟩, fun h => h.wrong recovered wrong⟩
      rw [wrong] at right
      cases right
    · rw [if_neg wrong]
      have open_ : Uncollected action.id db := by
        refine uncollected_of (credited_invariant reach.under) fun collected => recovered ?_
        obtain ⟨row, present, rfl, -⟩ := caseOf_row here
        exact Option.some.inj ((CaseView.state_of present).symm.trans collected)
      refine (creditSigned_iff current open_).trans ⟨fun h => ⟨fun _ no => absurd no wrong, fun _ => h⟩, fun h => h.right ?_⟩
      simpa using wrong

/-- When an event is recorded: its link names one action, and that action's case can take it. -/
structure Verifiable (rt : Runtime) (event : NormalizedEvent) (db : Database) : Prop where
  single : ∀ link ∈ event.paymentLinkId, (db.linkActions event.merchantId link.val).length ≤ 1
  recordable : ∀ action ∈ paidBy rt event db, ∀ case ∈ db.caseOf action.key, Recordable event action case

/-- A signed event is answered, with a disposition exactly when it pays an action. -/
def AnsweredSigned (rt : Runtime) (event : NormalizedEvent) (wid : Identifier) (db : Database) : Prop :=
  ∃ out db', (verifySignedEvent rt event wid).run db = .ok (out, db') ∧
    (out.isSome = true ↔ event.eventType.val ∈ signedSuccessEvents ∧ (paidBy rt event db).isSome = true)

theorem verifiable_of_ok (reach : Reachable rt db) (signed : event.eventType.val ∈ signedSuccessEvents)
    {out : Option ExecutionDisposition} (h : (verifySignedEvent rt event wid).run db = .ok (out, db')) :
    Verifiable rt event db := by
  unfold verifySignedEvent at h
  rw [if_neg (not_not.mpr signed)] at h
  obtain ⟨found, d1, credited, h⟩ := Tx.bind_ok h
  have single := creditedAction_ok credited
  rw [creditedAction_run single, Except.ok.injEq, Prod.mk.injEq] at credited
  obtain ⟨rfl, rfl⟩ := credited
  refine ⟨single, fun action paid case here => ?_⟩
  rw [Option.mem_def.mp paid] at h
  obtain ⟨d, d2, verified, -⟩ := Tx.bind_ok h
  exact (verifyAgainst_iff wid reach (paidBy_credits paid).1 here).mp ⟨d, d2, verified⟩

end verification

section crediting

/-- A signed success event that names the action's provider object. -/
structure Names (event : NormalizedEvent) (action : ActionRow) : Prop where
  signed : event.eventType.val ∈ signedSuccessEvents
  merchant : action.merchantId = event.merchantId
  link : ∃ link, event.paymentLinkId = some link ∧ action.providerObjectId = some link.val

/-- A credit action accepted by its provider, or not known to be, whose case goes on. -/
structure Creditable (action : ActionRow) (case : RecoveryCase) (db : Database) : Prop where
  stored : action ∈ db.actions
  credits : action.actionType ∈ recoveryCreditActions
  resolvable : resolvable action
  here : db.caseOf action.key = some case
  live : ¬ case.state.Terminal

/-- The case is RECOVERED and its one credit is the action's whole amount. -/
def PaidInFull (action : ActionRow) (db : Database) : Prop :=
  db.stateOf action.key = some .recovered ∧ ∃ o, db.creditsOf action.key = [o] ∧ o.actionId = action.id ∧
    o.recoveredAmountMinor = action.action.parameters.amountMinor ∧ o.currency = action.action.parameters.currency

/-- The case waits for the evidence, and the evidence is no older than the case or itself. -/
structure Awaited (event : NormalizedEvent) (case : RecoveryCase) : Prop where
  state : case.state ∈ [CaseState.unknown, .verifying]
  timely : case.updatedAt ≤ event.receivedAt
  ordered : event.occurredAt ≤ event.receivedAt

theorem linkActions_of (names : Names event action) (creditable : Creditable action case db) {link : Identifier}
    (named : event.paymentLinkId = some link) (single : (db.linkActions event.merchantId link.val).length ≤ 1) :
    db.linkActions event.merchantId link.val = [action] := by
  obtain ⟨other, here, object⟩ := names.link
  rw [named, Option.some.injEq] at here
  subst here
  have member : action ∈ db.linkActions event.merchantId link.val := by
    refine List.mem_filter.mpr ⟨creditable.stored, ?_⟩
    rw [decide_eq_true_eq]
    exact ⟨names.merchant, object, creditable.credits, creditable.resolvable⟩
  obtain ⟨only, alone⟩ := List.length_eq_one_iff.mp (Nat.le_antisymm single (List.length_pos_of_mem member))
  rw [alone, List.mem_singleton] at member
  rw [alone, member]

theorem paidBy_of (names : Names event action) (creditable : Creditable action case db)
    (single : ∀ link ∈ event.paymentLinkId, (db.linkActions event.merchantId link.val).length ≤ 1) :
    paidBy rt event db = some action := by
  obtain ⟨link, named, -⟩ := names.link
  unfold paidBy
  rw [named, Option.elim_some, linkActions_of names creditable named (single link named)]
  rfl

theorem stateOf_caseOf {k : CaseKey} (here : db.caseOf k = some case) : db.stateOf k = some case.state := by
  obtain ⟨row, present, rfl, -⟩ := caseOf_row here
  exact CaseView.state_of present

theorem verifyAgainst_live (here : db.caseOf action.key = some case) (live : ¬ case.state.Terminal) :
    (verifyAgainst event wid action).run db =
      (if amountMatches action event = false then stopMismatched action case event (webhookReference wid)
        else creditSigned action case event (webhookReference wid)).run db := by
  have required : (requiredCase action).run db = .ok (case, db) := by
    refine (Tx.bind_of_ok (Tx.run_read _ _)).trans ?_
    rw [here]
    rfl
  have unrecovered : case.state ≠ .recovered := by
    intro same
    rw [same] at live
    exact live (by decide)
  refine (Tx.bind_of_ok required).trans ?_
  rw [if_neg unrecovered]

theorem verifyAgainst_paid (paid : amountMatches action event = true) (here : db.caseOf action.key = some case)
    (live : ¬ case.state.Terminal) :
    (verifyAgainst event wid action).run db = (creditSigned action case event (webhookReference wid)).run db := by
  rw [verifyAgainst_live here live, if_neg (by rw [paid]; decide)]

theorem verifySignedEvent_named (names : Names event action) (creditable : Creditable action case db)
    (single : ∀ link ∈ event.paymentLinkId, (db.linkActions event.merchantId link.val).length ≤ 1)
    {d : ExecutionDisposition} (ran : (verifyAgainst event wid action).run db = .ok (d, db')) :
    exec rt (.verifySignedEvent event wid) db = db' := by
  refine Tx.commit_of_ok (a := some d) ?_
  unfold verifySignedEvent
  rw [if_neg (not_not.mpr names.signed)]
  refine (Tx.bind_of_ok (creditedAction_run single)).trans ?_
  rw [paidBy_of names creditable single]
  exact Tx.bind_of_ok ran

theorem creditable_open (reach : Reachable rt db) (creditable : Creditable action case db) : Uncollected action.id db := by
  refine uncollected_of (credited_invariant reach.under) fun collected => creditable.live ?_
  have here := (stateOf_caseOf creditable.here).symm.trans collected
  rw [Option.some.inj here]
  decide

theorem current_state (creditable : Creditable action case db) {done : RecoveryCase} (current : Current done db')
    (anchor : done.anchor = case.anchor) : db'.stateOf action.key = some done.state := by
  obtain ⟨row, found, state, -⟩ := current
  obtain ⟨here, -, rfl, key⟩ := caseOf_row creditable.here
  rw [show done.key = action.key from (key_of_anchor anchor).trans key] at found
  exact (CaseView.state_of found).trans (congrArg some state)

/-- What a matching payment leaves of a case that waits for it. -/
theorem credited_in_full (reach : Reachable rt db) (creditable : Creditable action case db)
    (paid : amountMatches action event = true) {done : RecoveryCase} (current : Current done db') (anchor : done.anchor = case.anchor) (recovered : done.state = .recovered)
    (outcomes : db'.outcomes = db.outcomes ++ [signedPayment (action.paid event) event wid]) : PaidInFull action db' := by
  simp only [amountMatches, Bool.and_eq_true, beq_iff_eq] at paid
  refine ⟨(current_state creditable current anchor).trans (congrArg some recovered), signedPayment (action.paid event) event wid,
    ?_, rfl, paid.1, rfl⟩
  have mine : (decide ((signedPayment (action.paid event) event wid).actionId.key = action.key) &&
        creditsMoney (signedPayment (action.paid event) event wid)) = true := by
    rw [Bool.and_eq_true, decide_eq_true_eq]
    exact ⟨rfl, rfl⟩
  have none : db.creditsOf action.key = [] := by
    have inv := credited_invariant reach.under
    by_contra some_
    rw [creditsOf_view (recorded_homes inv)] at some_
    have collected := Option.some.inj ((stateOf_caseOf creditable.here).symm.trans ((inv action.key).recovered some_))
    exact creditable.live (by rw [collected]; decide)
  rw [Database.creditsOf, outcomes, List.filter_append, ← Database.creditsOf, none, List.filter_singleton, mine]
  rfl

end crediting

section runs

/-- The customer pays the link. -/
def linkPaidAt (occurred received : Instant) (amount : Nat := 1000) : NormalizedEvent :=
  { eventId := ident "event-9"
    merchantId := acme
    source := .razorpay
    sourceEventId := "event-9"
    eventType := ident "payment_link.paid"
    occurredAt := occurred
    receivedAt := received
    amountMinor := amount
    currency := currency "INR"
    normalizedFailureCategory := .none
    paymentLinkId := some (ident "plink-1")
    subject := by rfl }

theorem unanswered_open : ActionStatus.unknown = .unknown → false = false := fun _ => rfl

/-- The link's payment is looked up past the deadline, and the signed event comes next. -/
def linkOverdue : List Command := linkAccepted ++ [.recordLookup link1 (lookedUp .unknown false 3600000010 unanswered_open)]

def paidLate : NormalizedEvent := linkPaidAt 3600000020 3600000020

end runs

end RevenueGuard
