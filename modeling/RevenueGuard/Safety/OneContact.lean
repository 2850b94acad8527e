import RevenueGuard.Protocol.Contacts
import RevenueGuard.Safety.Recovered

/-
One contact of a customer at a time: a contact that begins is covered by an open
intervention of its own, and every contact tried before it is answered and past
its cooldown.
-/
namespace RevenueGuard

variable {rt : Runtime} {db d db' : Database} {c : Command} {r : EvaluationRequest} {a : Assessment}
  {inputs : EvaluationInputs} {res : RecoveryServiceResult} {w : Writer}

/-- A contact of the case evaluations; promise reminders are authorized apart. -/
def ActionIdentity.Covered (id : ActionIdentity) : Prop :=
  id.actionType.actionClass = .customerContact ∧ id.actionType ≠ .schedulePromiseReminder

instance (id : ActionIdentity) : Decidable id.Covered := by
  unfold ActionIdentity.Covered
  infer_instance

def Database.customerOf (db : Database) (k : CaseKey) : Option Identifier := (db.caseRow k).bind (·.case.customerId)

/-- The interventions of a store whose cases belong to these customers. -/
structure Attended (owner : CaseKey → Option Identifier) (db : Database) : Prop where
  attended : ∀ {id a}, db.action id = some a → id.Covered →
    ∃ i ∈ db.interventions, i.actionId = id ∧ i.merchantId = id.merchantId ∧ owner id.key = some i.customerId
  single : ∀ i ∈ db.interventions, ∀ j ∈ db.interventions, i.status = .active → j.status = .active →
    i.merchantId = j.merchantId → i.customerId = j.customerId → i.actionId = j.actionId
  closed : ∀ i ∈ db.interventions, i.status = .closed →
    (∃ t ∈ i.closedAt, i.cooldownUntil ≤ t) ∧ ∃ a, db.action i.actionId = some a ∧ a.Rested
  idle : ∀ {id a}, db.action id = some a → id.actionType = .schedulePromiseReminder → a.attempts = []

section invariant

variable {owner owner' : CaseKey → Option Identifier}

theorem Attended.mono (h : Attended owner db) (more : ∀ k customer, owner k = some customer → owner' k = some customer) :
    Attended owner' db := by
  refine ⟨fun {id a} found covered => ?_, h.single, h.closed, h.idle⟩
  obtain ⟨i, member, action, merchant, customer⟩ := h.attended found covered
  exact ⟨i, member, action, merchant, more _ _ customer⟩

theorem Aside.back {spent begun : ActionIdentity → Prop} (h : Aside spent begun db db') {i : InterventionRow}
    (member : i ∈ db'.interventions) : ∃ j ∈ db.interventions, j.core = i.core := by
  have here : i.core ∈ db'.interventions.map InterventionRow.core := List.mem_map_of_mem member
  rw [h.interventions] at here
  exact List.mem_map.mp here

theorem Aside.forth {spent begun : ActionIdentity → Prop} (h : Aside spent begun db db') {i : InterventionRow}
    (member : i ∈ db.interventions) : ∃ j ∈ db'.interventions, j.core = i.core := by
  have here : i.core ∈ db.interventions.map InterventionRow.core := List.mem_map_of_mem member
  rw [← h.interventions] at here
  exact List.mem_map.mp here

theorem Attended.aside {spent begun : ActionIdentity → Prop} (h : Attended owner db) (apart : Aside spent begun db db')
    (unspent : ∀ i ∈ db.interventions, i.status = .closed → ¬ spent i.actionId)
    (unbegun : ∀ id : ActionIdentity, id.actionType = .schedulePromiseReminder → ¬ begun id) : Attended owner db' := by
  constructor
  · intro id a found covered
    cases before : db.action id with
    | none => exact absurd (apart.added found before).1 covered.2
    | some old =>
      obtain ⟨i, member, action, merchant, customer⟩ := h.attended before covered
      obtain ⟨j, member', same⟩ := apart.forth member
      simp only [InterventionRow.core, Prod.mk.injEq] at same
      exact ⟨j, member', same.2.2.1.trans action, same.1.trans merchant, customer.trans (by rw [same.2.1])⟩
  · intro i member j member' active active' merchant customer
    obtain ⟨i0, here, same⟩ := apart.back member
    obtain ⟨j0, here', same'⟩ := apart.back member'
    simp only [InterventionRow.core, Prod.mk.injEq] at same same'
    rw [← same.2.2.1, ← same'.2.2.1]
    exact h.single i0 here j0 here' (same.2.2.2.1.trans active) (same'.2.2.2.1.trans active')
      (same.1.trans (merchant.trans same'.1.symm)) (same.2.1.trans (customer.trans same'.2.1.symm))
  · intro i member shut
    obtain ⟨i0, here, same⟩ := apart.back member
    simp only [InterventionRow.core, Prod.mk.injEq] at same
    obtain ⟨past, a, found, rested⟩ := h.closed i0 here (same.2.2.2.1.trans shut)
    obtain ⟨a', found', eased⟩ := apart.moved found
    rw [← same.2.2.2.2.1, ← same.2.2.2.2.2.1, ← same.2.2.1]
    exact ⟨past, a', found', eased.rested (unspent i0 here (same.2.2.2.1.trans shut)) rested⟩
  · intro id a found reminder
    cases before : db.action id with
    | none => exact (apart.added found before).2 (unbegun id reminder)
    | some old =>
      obtain ⟨a', found', eased⟩ := apart.moved before
      rw [found, Option.some.injEq] at found'
      subst found'
      exact eased.idle (unbegun id reminder) (h.idle before reminder)

/-- Only an evaluation authorizes a contact of its own, together with its intervention. -/
theorem Attended.authorize {identity : ActionIdentity} {i : InterventionRow} (h : Attended owner db)
    (kept : ∀ {id a}, db.action id = some a → db'.action id = some a)
    (added : ∀ {id a}, db'.action id = some a → db.action id = none → id = identity ∧ a.attempts = [])
    (rows : db'.interventions = db.interventions ∨ db'.interventions = db.interventions ++ [i] ∧ i.status = .active ∧
      ∀ j ∈ db.interventions, j.status = .active → j.merchantId = i.merchantId → j.customerId ≠ i.customerId)
    (covers : identity.Covered → ∃ j ∈ db'.interventions, j.actionId = identity ∧ j.merchantId = identity.merchantId ∧
      owner identity.key = some j.customerId) : Attended owner db' := by
  have more : ∀ j ∈ db.interventions, j ∈ db'.interventions := by
    intro j member
    rcases rows with same | ⟨same, -⟩
    · rw [same]
      exact member
    · rw [same]
      exact List.mem_append_left _ member
  have old : ∀ j ∈ db'.interventions, j ∈ db.interventions ∨ j = i ∧ i.status = .active ∧
      ∀ j ∈ db.interventions, j.status = .active → j.merchantId = i.merchantId → j.customerId ≠ i.customerId := by
    intro j member
    rcases rows with same | ⟨same, active, alone⟩
    · rw [same] at member
      exact .inl member
    · rw [same, List.mem_append, List.mem_singleton] at member
      exact member.imp id fun new => ⟨new, active, alone⟩
  constructor
  · intro id a found covered
    cases before : db.action id with
    | none =>
      obtain ⟨rfl, -⟩ := added found before
      exact covers covered
    | some a' =>
      obtain ⟨j, member, rest⟩ := h.attended before covered
      exact ⟨j, more j member, rest⟩
  · intro j member k member' active active' merchant customer
    rcases old j member with here | ⟨rfl, -, alone⟩
    · rcases old k member' with here' | ⟨rfl, -, alone⟩
      · exact h.single j here k here' active active' merchant customer
      · exact absurd customer (alone j here active merchant)
    · rcases old k member' with here' | ⟨rfl, -, -⟩
      · exact absurd customer.symm (alone k here' active' merchant.symm)
      · rfl
  · intro j member shut
    rcases old j member with here | ⟨rfl, active, -⟩
    · obtain ⟨past, a, found, rested⟩ := h.closed j here shut
      exact ⟨past, a, kept found, rested⟩
    · rw [active] at shut
      cases shut
  · intro id a found reminder
    cases before : db.action id with
    | none => exact (added found before).2
    | some a' =>
      rw [kept before, Option.some.injEq] at found
      subst found
      exact h.idle before reminder

end invariant

section evaluations

theorem activeIntervention_none {m customer : Identifier} (h : db.activeIntervention m customer = none) :
    ∀ j ∈ db.interventions, j.status = .active → j.merchantId = m → j.customerId ≠ customer := by
  intro j member active merchant same
  rw [Database.activeIntervention, List.find?_eq_none] at h
  exact h j member (by simp [merchant, same, active])

/-- An intervention is there afterwards, as it was or newly opened. -/
theorem storeCustomerIntervention_ok {i : InterventionRow} {u : Unit}
    (h : (storeCustomerIntervention i).run db = .ok (u, db')) :
    (db = db' ∧ ∃ j ∈ db.interventions, j.actionId = i.actionId ∧ j.merchantId = i.merchantId ∧
        j.customerId = i.customerId) ∨
      (db' = { db with interventions := db.interventions ++ [i] } ∧
        (∀ j ∈ db.interventions, j.status = .active → j.merchantId = i.merchantId → j.customerId ≠ i.customerId) ∧
        ∀ j ∈ db.interventions, j.merchantId = i.merchantId → j.actionId ≠ i.actionId) := by
  obtain ⟨existing, _, read, h⟩ := Tx.bind_ok h
  obtain ⟨same, rfl⟩ := Tx.read_ok read
  cases existing with
  | some j =>
    obtain ⟨matched, rfl⟩ := Tx.check_ok h
    have found := List.find?_some same.symm
    simp only [decide_eq_true_eq] at found
    exact .inl ⟨rfl, j, List.mem_of_find?_eq_some same.symm, found.2, found.1, matched.1⟩
  | none =>
    obtain ⟨active, _, read, h⟩ := Tx.bind_ok h
    obtain ⟨rfl, rfl⟩ := Tx.read_ok read
    obtain ⟨_, _, checked, h⟩ := Tx.bind_ok h
    obtain ⟨alone, rfl⟩ := Tx.check_ok checked
    refine .inr ⟨Tx.write_ok h, activeIntervention_none alone, fun j member merchant action => ?_⟩
    have absent := List.find?_eq_none.mp same.symm j member
    simp [merchant, action] at absent

theorem storeAuthorizedAction_attended {owner : CaseKey → Option Identifier} {ids : List Identifier}
    {action : RecoveryAction} {u : Unit} (merchant : action.identity.merchantId = r.case.merchantId)
    (known : action.identity.Covered → ∃ customer, r.case.customerId = some customer ∧
      owner action.identity.key = some customer)
    (h : (storeAuthorizedAction r ids action).run db = .ok (u, db')) (before : Attended owner db) : Attended owner db' := by
  obtain ⟨row, d, stored, h⟩ := Tx.bind_ok h
  obtain ⟨rows, kept, added⟩ := storeAction_added stored
  cases named : r.case.customerId with
  | none =>
    rw [named] at h
    obtain ⟨-, rfl⟩ := Tx.pure_ok h
    refine before.authorize (i := customerIntervention r action.identity.caseId action ids) kept added (.inl rows)
      fun covered => ?_
    obtain ⟨customer, some_, -⟩ := known covered
    rw [named] at some_
    cases some_
  | some customer =>
    rw [named] at h
    dsimp only at h
    have owned : action.identity.Covered → owner action.identity.key = some customer := by
      intro covered
      obtain ⟨other, some_, owns⟩ := known covered
      rw [named, Option.some.injEq] at some_
      rw [owns, some_]
    split at h
    · rcases storeCustomerIntervention_ok h with ⟨rfl, j, member, action_, merchant_, customer_⟩ | ⟨rfl, alone, -⟩
      · refine before.authorize (i := customerIntervention r customer action ids) kept added (.inl rows) fun covered =>
          ⟨j, member, action_, merchant_.trans merchant.symm, ?_⟩
        rw [customer_]
        exact owned covered
      · rw [rows] at alone
        refine before.authorize (i := customerIntervention r customer action ids) kept added
          (.inr ⟨by rw [rows], rfl, alone⟩) fun covered => ⟨_, List.mem_append_right _ (List.mem_singleton_self _), rfl,
            merchant.symm, owned covered⟩
    · rename_i apart
      obtain ⟨-, rfl⟩ := Tx.pure_ok h
      exact before.authorize (i := customerIntervention r customer action ids) kept added (.inl rows) fun covered =>
        absurd covered.1 apart

/-- A contact is only proposed to a known customer. -/
theorem assessCase_known (h : (assessCase rt inputs r).run db = .ok (a, db')) (proceeds : a.decision.result = .proceed)
    (contact : a.decision.selectedAction.actionType.actionClass = .customerContact) : r.case.customerId.isSome = true := by
  cases assessCase_ok h with
  | ran checking d1 contact_ candidates consent unknownEquivalent moved facts noted listed types decided =>
    obtain ⟨channel, named⟩ := Option.isSome_iff_exists.mp (a.decision.selectedAction.channel_iff.mpr contact)
    exact ((evaluatePolicy_proceed decided proceeds).compliant.contact channel named).1

theorem decideCase_attended {owner : CaseKey → Option Identifier} (key : a.checking.key = r.case.key)
    (known : a.decision.result = .proceed → a.decision.selectedAction.actionType.actionClass = .customerContact →
      r.case.customerId.isSome = true)
    (owns : ∀ customer, r.case.customerId = some customer → owner r.case.key = some customer)
    (h : (decideCase rt inputs r a).run db = .ok (res, db')) (before : Attended owner db) : Attended owner db' := by
  have aside {x y : Database} (apart : Aside (fun _ => False) (fun _ => False) x y) (held : Attended owner x) :
      Attended owner y := held.aside apart (fun _ _ _ => id) fun _ _ => id
  obtain ⟨_, d1, reviewed, h⟩ := Tx.bind_ok h
  obtain ⟨decided, d2, transition, h⟩ := Tx.bind_ok h
  obtain ⟨_, d3, receipted, h⟩ := Tx.bind_ok h
  obtain ⟨_, d4, acted, h⟩ := Tx.bind_ok h
  obtain ⟨-, rfl⟩ := Tx.pure_ok h
  have held := aside (storeReceipt_spared _ _ _ _ receipted).aside (aside (recoveryTransition_spared _ _ _ _ _ _ _ _ transition).aside
    (aside (storeReviewIfAny_spared _ _ _ _ reviewed).aside before))
  have place : decided.key = r.case.key := by
    obtain ⟨rfl, -, -⟩ := recoveryTransition_ran transition
    exact (key_of_anchor (settle_anchor _ _ _ _)).trans key
  cases made : buildAction decided a.decision (.generated inputs.receiptId) r.evaluatedAt a.activeCaseIds with
  | none =>
    rw [made] at acted
    obtain ⟨-, rfl⟩ := Tx.pure_ok acted
    exact held
  | some action =>
    rw [made] at acted
    unfold buildAction at made
    split at made
    · cases made
    rename_i open_
    push Not at open_
    cases made
    refine storeAuthorizedAction_attended (congrArg CaseKey.merchantId place) (fun covered => ?_) acted held
    obtain ⟨customer, named⟩ := Option.isSome_iff_exists.mp (known open_.1 covered.1)
    exact ⟨customer, named, (congrArg owner place).trans (owns customer named)⟩

/-- The cases belong to these customers. -/
def Owns (owner : CaseKey → Option Identifier) (db : Database) : Prop :=
  ∀ k row, db.caseRow k = some row → owner k = row.case.customerId

theorem Owns.back {owner : CaseKey → Option Identifier} (h : Owns owner db') (standing : Standing db db') : Owns owner db := by
  intro k row found
  obtain ⟨row', found', kept⟩ := standing k row found
  rw [h k row' found']
  exact congrArg CaseAnchor.customerId kept.anchor

/-- Evaluations keep every case in its place, and the interventions of any customers. -/
structure Attends (db db' : Database) : Prop where
  standing : Standing db db'
  keeps : ∀ owner, Owns owner db' → Attended owner db → Attended owner db'

theorem Attends.refl (db : Database) : Attends db db := ⟨.refl db, fun _ _ => id⟩

theorem Attends.trans (h : Attends db d) (h' : Attends d db') : Attends db db' :=
  ⟨h.standing.trans h'.standing, fun owner owns before => h'.keeps owner owns (h.keeps owner (owns.back h'.standing) before)⟩

theorem attends_closed : Tx.Closed Attends := ⟨Attends.refl, Attends.trans⟩

theorem Attends.apart (writes : Writes w db db') (apart : Aside (fun _ => False) (fun _ => False) db db') : Attends db db' :=
  ⟨writes.standing, fun _ _ before => before.aside apart (fun _ _ _ => id) fun _ _ => id⟩

theorem evaluateCase_attends (current : r.Current w db) (h : (evaluateCase rt inputs r).run db = .ok (res, db')) :
    Attends db db' := by
  have standing := (evaluateCase_writes current h).standing
  refine ⟨standing, fun owner owns before => ?_⟩
  obtain ⟨a, d, assess, decide⟩ := Tx.bind_ok h
  obtain ⟨wrote, -⟩ := assessCase_wrote current assess
  have apart : Aside (fun _ => False) (fun _ => False) db d := (assessCase_spared _ _ _ _ _ assess).aside
  have held : Attended owner d := before.aside apart (fun _ _ _ => id) fun _ _ => id
  obtain ⟨row, found, ledger⟩ := current.snap
  have placed := owns.back standing _ _ found
  rw [show row.case.customerId = r.case.customerId from
    congrArg (CaseAnchor.customerId ∘ CaseLedger.anchor) ledger] at placed
  exact decideCase_attended wrote.key (assessCase_known assess) (fun customer named => placed.trans named) decide held

theorem finishRouting_attends {routed : Routed} (current : routed.Current w db)
    (h : (finishRouting rt inputs routed).run db = .ok (res, db')) : Attends db db' := by
  cases routed with
  | done result =>
    obtain ⟨-, rfl⟩ := Tx.pure_ok h
    exact .refl _
  | evaluate r => exact evaluateCase_attends current h

variable {t : Instant} {m eventId caseId : Identifier}

theorem processEvent_attends : Tx.Keeps (processEvent rt inputs m eventId caseId t) Attends := by
  intro s res s' h
  obtain ⟨routed, d, route, finish⟩ := Tx.bind_ok h
  obtain ⟨writes, current⟩ := routeEvent_routed (w := ⟨t, True, fun _ _ => True, fun _ => True⟩) rfl
    (fun _ _ => trivial) (fun _ _ _ => trivial) route
  exact (Attends.apart writes (routeEvent_spared _ _ _ _ _ _ _ route).aside).trans (finishRouting_attends current finish)

theorem decideReview_attends (decision : HumanReviewDecision) :
    Tx.Keeps (decideReviewRequest rt inputs m decision t) Attends := by
  intro s res s' h
  obtain ⟨routed, d, route, finish⟩ := Tx.bind_ok h
  obtain ⟨writes, current⟩ := routeReview_routed (w := ⟨t, True, fun _ _ => True, fun _ => True⟩) rfl
    (fun _ _ _ => trivial) route
  exact (Attends.apart writes (routeReview_spared _ _ _ _ _ _ route).aside).trans (finishRouting_attends current finish)

theorem reevaluateRow_attends (inputs : CaseKey → EvaluationInputs) (row : CaseRow) :
    Tx.Keeps (reevaluateRow rt inputs t row) Attends := by
  intro s res s' h
  obtain ⟨request, d, wake, evaluate⟩ := Tx.bind_ok h
  obtain ⟨writes, current⟩ := wakeDeferred_current (w := ⟨t, True, fun _ _ => True, fun _ => True⟩)
    (d := { s with cases := [row] }) rfl (List.mem_singleton_self _) (show s.events = s.events from rfl) (fun _ _ _ => trivial) wake
  exact (Attends.apart writes (wakeDeferred_spared _ _ _ _ _ wake).aside).trans (evaluateCase_attends current evaluate)

theorem reevaluateDeferred_attends (inputs : CaseKey → EvaluationInputs) (limit : Nat) :
    Tx.Keeps (reevaluateDeferred rt inputs t limit) Attends :=
  attends_closed.bind (attends_closed.check _ _) fun _ => attends_closed.bind (attends_closed.read _) fun _ =>
    attends_closed.each (reevaluateRow_attends inputs) _

end evaluations

section runs

/-- The interventions of the case's customer that are closed were closed by then. -/
def ClosedBy (k : CaseKey) (t : Instant) (db : Database) : Prop :=
  ∀ i ∈ db.interventions, i.merchantId = k.merchantId → db.customerOf k = some i.customerId → ∀ closedAt ∈ i.closedAt, closedAt ≤ t

instance (k : CaseKey) (t : Instant) (db : Database) : Decidable (ClosedBy k t db) := by
  unfold ClosedBy
  infer_instance

/-- The step keeps the contacts of a customer apart: it begins no promise reminder, and no contact before the time
an earlier one was closed at; it takes no answer back whose intervention is closed; and it closes none over an
open call. -/
def Command.KeepsContacts (rt : Runtime) : Command → Database → Prop
  | .prepareExecution actionId token t, db =>
    (RevenueGuard.prepareExecution rt actionId token t).After (fun p _ => p.Begun →
      actionId.actionType ≠ .schedulePromiseReminder ∧ ClosedBy actionId.key t db) db
  | .recordLookup actionId result, db => Expires actionId result db →
    ∀ i ∈ db.interventions, i.actionId = actionId → i.status ≠ .closed
  | .closeExpiredCustomerInterventions dueAt _, db => ∀ i ∈ db.interventions, i.status = .active → i.cooldownUntil ≤ dueAt →
    ∀ a ∈ db.action i.actionId, a.status = .succeeded ∨ a.status = .failed → a.openAttempts = []
  | _, _ => True

instance (id : ActionIdentity) (result : ProviderLookupResult) (db : Database) : Decidable (Expires id result db) := by
  unfold Expires
  infer_instance

instance (c : Command) (db : Database) : Decidable (c.KeepsContacts rt db) :=
  match c with
  | .prepareExecution .. => by unfold Command.KeepsContacts; infer_instance
  | .recordLookup .. => by unfold Command.KeepsContacts; infer_instance
  | .closeExpiredCustomerInterventions .. => by unfold Command.KeepsContacts; infer_instance
  | .registerMerchant .. | .upsertCustomer .. | .upsertPayment .. | .upsertSubscription ..
  | .persistNormalizedEvent .. | .putMerchantRow .. | .publishPolicy .. | .applyDegradationAssessment ..
  | .processEvent .. | .reevaluateDeferred .. | .decideReview .. | .recordOverdueInvoice ..
  | .recordCustomerResponse .. | .scheduleDuePromiseReminders .. | .escalateBrokenPromises .. | .claimDueActions ..
  | .recordExecutionResult .. | .markStaleCallsUnknown .. | .verifySignedEvent .. => isTrue trivial

theorem Standing.customerOf (h : Standing db db') : ∀ k customer, db.customerOf k = some customer →
    db'.customerOf k = some customer := by
  intro k customer owned
  obtain ⟨row, found, named⟩ := Option.bind_eq_some_iff.mp owned
  obtain ⟨row', found', kept⟩ := h k row found
  rw [Database.customerOf, found']
  exact (congrArg CaseAnchor.customerId kept.anchor).trans named

theorem Attends.attended (h : Attends db db') (before : Attended db.customerOf db) : Attended db'.customerOf db' := by
  refine h.keeps _ (fun k row found => ?_) (before.mono h.standing.customerOf)
  rw [Database.customerOf, found]
  rfl

/-- An intervention is closed once its contact is answered and the cooldown is over. -/
theorem closeExpired_attended {dueAt : Instant} {limit n : Nat} {owner : CaseKey → Option Identifier}
    (careful : Command.KeepsContacts rt (.closeExpiredCustomerInterventions dueAt limit) db)
    (h : (closeExpiredCustomerInterventions rt dueAt limit).run db = .ok (n, db')) (before : Attended owner db) :
    Attended owner db' := by
  obtain ⟨_, _, checked, h⟩ := Tx.bind_ok h
  obtain ⟨-, rfl⟩ := Tx.check_ok checked
  obtain ⟨rows, _, read, h⟩ := Tx.bind_ok h
  obtain ⟨chosen, rfl⟩ := Tx.read_ok read
  obtain ⟨_, d, written, h⟩ := Tx.bind_ok h
  have written := Tx.write_ok written
  obtain ⟨-, rfl⟩ := Tx.pure_ok h
  have due : ∀ i ∈ rows, i.status = .active ∧ i.cooldownUntil ≤ dueAt ∧ ∃ a, db.action i.actionId = some a ∧
      (a.status = .succeeded ∨ a.status = .failed) := by
    intro i member
    rw [chosen] at member
    have due := (List.mem_filter.mp ((List.mem_insertionSort _).mp (List.mem_of_mem_take member))).2
    simp only [decide_eq_true_eq, Option.map_eq_some_iff] at due
    refine ⟨due.1, due.2.1, ?_⟩
    rcases due.2.2 with ⟨a, found, status⟩ | ⟨a, found, status⟩
    · exact ⟨a, found, .inl status⟩
    · exact ⟨a, found, .inr status⟩
  have old : ∀ i ∈ d.interventions, i ∈ db.interventions ∨ (i.status = .closed ∧ i.closedAt = some dueAt ∧
      ∃ j ∈ db.interventions, j ∈ rows ∧ i.actionId = j.actionId ∧ i.cooldownUntil = j.cooldownUntil) := by
    intro i member
    rw [written] at member
    obtain ⟨j, here, rfl⟩ := List.mem_map.mp member
    split
    · rename_i closing
      exact .inr ⟨rfl, rfl, j, here, closing, rfl, rfl⟩
    · exact .inl here
  have actions : ∀ id, d.action id = db.action id := fun id => by rw [written]; rfl
  constructor
  · intro id a found covered
    rw [actions] at found
    obtain ⟨i, member, action, merchant, customer⟩ := before.attended found covered
    rw [written]
    refine ⟨_, List.mem_map_of_mem member, ?_⟩
    split
    · exact ⟨action, merchant, customer⟩
    · exact ⟨action, merchant, customer⟩
  · intro i member j member' active active'
    rcases old i member with here | ⟨shut, -⟩
    · rcases old j member' with here' | ⟨shut, -⟩
      · exact before.single i here j here' active active'
      · rw [shut] at active'
        cases active'
    · rw [shut] at active
      cases active
  · intro i member shut
    rw [actions]
    rcases old i member with here | ⟨-, stamped, j, here, closing, action, cooldown⟩
    · exact before.closed i here shut
    · obtain ⟨active, past, a, found, settled⟩ := due j closing
      rw [stamped, cooldown, action]
      exact ⟨⟨dueAt, rfl, past⟩, a, found, settled, careful j here active past a found settled⟩
  · intro id a found reminder
    rw [actions] at found
    exact before.idle found reminder

theorem attended_step (careful : c.KeepsContacts rt db) (before : Attended db.customerOf db) :
    Attended (exec rt c db).customerOf (exec rt c db) := by
  have standing := exec_standing rt c db
  cases c with
  | processEvent inputs m eventId caseId t =>
    exact (Tx.commit_relates (R := Attends) (.refl db) (processEvent_attends _ _ _)).attended before
  | reevaluateDeferred inputs t limit =>
    exact (Tx.commit_relates (R := Attends) (.refl db) (reevaluateDeferred_attends inputs limit _ _ _)).attended before
  | decideReview inputs m decision t =>
    exact (Tx.commit_relates (R := Attends) (.refl db) (decideReview_attends decision _ _ _)).attended before
  | closeExpiredCustomerInterventions dueAt limit =>
    exact Tx.commit_relates (R := fun _ (d : Database) => Attended (exec rt (.closeExpiredCustomerInterventions dueAt limit)
      db).customerOf d) (before.mono standing.customerOf)
      fun ran => closeExpired_attended careful ran (before.mono standing.customerOf)
  | prepareExecution id token t =>
    refine (before.mono standing.customerOf).aside (exec_aside _ db fun contacts => contacts) (fun _ _ _ spent => spent) ?_
    rintro _ reminder ⟨rfl, p, d, ran, begun⟩
    exact (careful p d ran begun).1 reminder
  | recordLookup id result =>
    refine (before.mono standing.customerOf).aside (exec_aside _ db fun contacts => contacts) ?_ fun _ _ => fun begins => begins
    rintro i member shut ⟨rfl, expires⟩
    exact careful expires i member rfl shut
  | _ =>
    exact (before.mono standing.customerOf).aside (exec_aside _ db fun contacts => contacts) (fun _ _ _ spent => spent)
      fun _ _ begins => begins

theorem attended_invariant (reach : ReachableUnder rt (Command.KeepsContacts rt) db) : Attended db.customerOf db := by
  refine Runs.Reaches.invariant (fun db => Attended db.customerOf db) reach ?_ fun c d before careful => attended_step careful before
  refine ⟨fun {id a} found => ?_, fun i member => ?_, fun i member => ?_, fun {id a} found => ?_⟩
  · cases found
  · cases member
  · cases member
  · cases found

/-- A call that begins was pending until then. -/
theorem begun_pending {id : ActionIdentity} {token : String} {t : Instant} {p : Prepared} (begun : p.Begun)
    (h : (prepareExecution rt id token t).run db = .ok (p, db')) : ∃ a, db.action id = some a ∧ a.status = .pending := by
  obtain ⟨action, case, check, preparing⟩ := prepareExecution_ok h
  refine ⟨action, preparing.stored, ?_⟩
  rcases preparing.branch with ⟨-, out, rfl, -⟩ | ⟨-, begins⟩
  · cases begun
  · obtain ⟨_, d, beginning, -⟩ := Tx.bind_ok begins
    obtain ⟨r, stored, pending, -⟩ := beginAttempt_effect beginning
    have kept : (attachIncidents action.key t case.diagnosis db).action action.id = db.action id := by
      rw [show action.id = id from Table.lookup_key preparing.stored]
      unfold attachIncidents
      split <;> rfl
    rw [kept, preparing.stored, Option.some.injEq] at stored
    rw [stored]
    exact pending

/-- Other contacts of the customer tried before are answered and past their cooldown. -/
def Database.Alone (db : Database) (id : ActionIdentity) (customer : Identifier) (t : Instant) : Prop :=
  ∀ other a, db.action other = some a → other ≠ id → other.merchantId = id.merchantId →
    other.actionType.actionClass = .customerContact → db.customerOf other.key = some customer → a.attempts ≠ [] →
      a.openAttempts = [] ∧ a.status ≠ .unknown ∧
        ∃ i ∈ db.interventions, i.actionId = other ∧ i.status = .closed ∧ i.cooldownUntil ≤ t

/-- The intervention that covers the contact. -/
def Database.Covers (db : Database) (id : ActionIdentity) (customer : Identifier) : Prop :=
  ∃ i ∈ db.interventions, i.actionId = id ∧ i.merchantId = id.merchantId ∧ i.customerId = customer ∧ i.status = .active

theorem one_contact_at_a_time {id : ActionIdentity} {token : String} {t : Instant} {p : Prepared}
    (reach : ReachableUnder rt (Command.KeepsContacts rt) db)
    (careful : Command.KeepsContacts rt (.prepareExecution id token t) db)
    (contact : id.actionType.actionClass = .customerContact)
    (h : (prepareExecution rt id token t).run db = .ok (p, db')) (begun : p.Begun) :
    ∃ customer, db.customerOf id.key = some customer ∧ db.Covers id customer ∧ db.Alone id customer t := by
  have attended := attended_invariant reach
  obtain ⟨ordinary, past⟩ := careful p db' h begun
  obtain ⟨a, stored, pending⟩ := begun_pending begun h
  obtain ⟨i, member, action, merchant, customer⟩ := attended.attended stored ⟨contact, ordinary⟩
  have active : i.status = .active := by
    cases state : i.status with
    | active => rfl
    | closed =>
      obtain ⟨-, a', stored', rested⟩ := attended.closed i member state
      rw [action, stored, Option.some.injEq] at stored'
      subst stored'
      rw [ActionRow.Rested, pending] at rested
      rcases rested.1 with impossible | impossible <;> cases impossible
  refine ⟨i.customerId, customer, ⟨i, member, action, merchant, rfl, active⟩, ?_⟩
  intro other b found apart tenant isContact owned tried
  have covered : other.Covered := ⟨isContact, fun reminder => tried (attended.idle found reminder)⟩
  obtain ⟨j, member', action', merchant', customer'⟩ := attended.attended found covered
  rw [owned, Option.some.injEq] at customer'
  have shut : j.status = .closed := by
    cases state : j.status with
    | closed => rfl
    | active =>
      have same := attended.single i member j member' active state (merchant.trans (tenant.symm.trans merchant'.symm)) customer'
      exact absurd (action'.symm.trans (same.symm.trans action)) apart
  obtain ⟨⟨closedAt, closing, cooled⟩, b', found', settled, idle⟩ := attended.closed j member' shut
  rw [action', found, Option.some.injEq] at found'
  subst found'
  refine ⟨idle, ?_, j, member', action', shut, ?_⟩
  · rcases settled with done | done <;> rw [done] <;> decide
  · exact le_trans cooled (past j member' (merchant'.trans tenant) (by rw [customer, customer']) closedAt closing)

/-- An hour of quiet after midnight, and contacts of every kind. -/
def contactsOnly : MerchantPolicySnapshot :=
  { linksOnly with
    allowedActions := {.requestPaymentMethodUpdate, .sendReminder, .schedulePromiseReminder}
    quietHoursEnd := ⟨3600000000, by decide⟩
    features_nonempty := phase3_named, allowed_nonempty := by decide, confidence_le := none_le
    defer_pos := linksOnly_defers }

def customer1 : Identifier := ident "cust-1"

def cardOfCustomer (event payment : Identifier) (at_ : Instant) : NormalizedEvent :=
  { expiredCard event payment at_ with customerId := some customer1 }

def reachable1 : List Command :=
  [.registerMerchant acme, .publishPolicy acme contactsOnly, .upsertCustomer ⟨acme, customer1, none⟩,
    .putMerchantRow (.consent ⟨acme, customer1, .email, .granted, false⟩)]

def update (caseId payment : Identifier) : ActionIdentity :=
  { merchantId := acme
    caseId := caseId
    actionType := .requestPaymentMethodUpdate
    targetType := .payment
    targetId := payment
    logicalAttempt := 1
    attempt_pos := first_pos }

def update1 : ActionIdentity := update (ident "case-1") (ident "pay-1")

def update2 : ActionIdentity := update (ident "case-2") (ident "pay-2")

/-- A second failed payment after the first one's contact was answered and its intervention closed. -/
def contactedAgain : List Command :=
  reachable1 ++ ingested (cardOfCustomer (ident "event-1") (ident "pay-1") 5) ++
    [.processEvent (drawn "receipt-1") acme (ident "event-1") (ident "case-1") 3600000010,
    .claimDueActions (fun _ => "lease-1") 3600000020 1000 5, .prepareExecution update1 "lease-1" 3600000025,
    .recordExecutionResult update1 "lease-1" { acceptedLink with observedAt := 3600000030 },
    .closeExpiredCustomerInterventions 3660000010 5] ++
    ingested (cardOfCustomer (ident "event-2") (ident "pay-2") 3660000015) ++
    [.processEvent (drawn "receipt-2") acme (ident "event-2") (ident "case-2") 3660000020,
    .claimDueActions (fun _ => "lease-2") 3660000030 1000 5]

set_option maxRecDepth 100000 in
theorem one_contact_at_a_time_second : ∃ customer,
    (execAll {} contactedAgain {}).customerOf update2.key = some customer ∧
      (execAll {} contactedAgain {}).Covers update2 customer ∧
      (execAll {} contactedAgain {}).Alone update2 customer 3660000035 := by
  have begins : ¬ (prepareExecution {} update2 "lease-2" 3660000035).After (fun p _ => ¬ p.Begun)
      (execAll {} contactedAgain {}) := by decide +kernel
  simp only [Tx.After, not_forall, not_not] at begins
  obtain ⟨p, d, ran, begun⟩ := begins
  exact one_contact_at_a_time (Runs.reaches_allowed (by decide +kernel)) (by decide +kernel) rfl ran begun

def overdue1 : OverdueInvoice :=
  { invoiceId := ident "inv-1"
    customerId := customer1
    amountMinor := 1000
    outstandingAmountMinor := 1000
    currency := currency "INR"
    dueAt := 0 }

theorem promised_pos : 0 < 1000 := by decide

def promised : PromiseExtraction :=
  { intent := .promiseToPay
    confidenceBasisPoints := basisPoints 9000
    terms := some { promisedDate := 1, amountMinor := 1000, currency := currency "INR", amount_pos := promised_pos }
    terms_iff := by decide }

def reminder1 : ActionIdentity :=
  { update (ident "case-1") (ident "inv-1") with
    actionType := .schedulePromiseReminder, targetType := .invoice, attempt_pos := first_pos }

/-- A promise reminder is on its way when a failed payment of its customer is decided. -/
def remindedMeanwhile : List Command :=
  reachable1 ++ [.recordOverdueInvoice acme "overdue-1" overdue1 5 5,
    .processEvent (drawn "receipt-1") acme (invoiceEventId acme "overdue-1") (ident "case-1") 10,
    .recordCustomerResponse acme "reply-1" (ident "inv-1") "I will pay tomorrow" (some promised) 20,
    .scheduleDuePromiseReminders 3600000010 5, .claimDueActions (fun _ => "lease-1") 3600000020 1000 5,
    .prepareExecution reminder1 "lease-1" 3600000030] ++
    ingested (cardOfCustomer (ident "event-2") (ident "pay-2") 3600000040) ++
    [.processEvent (drawn "receipt-2") acme (ident "event-2") (ident "case-2") 3600000050,
    .claimDueActions (fun _ => "lease-2") 3600000060 1000 5]

set_option maxRecDepth 100000 in
theorem contacts_at_once : ¬ ∀ (rt : Runtime) (db : Database), Reachable rt db →
    ∀ (id : ActionIdentity) (token : String) (t : Instant) (p : Prepared) (db' : Database),
      id.actionType.actionClass = .customerContact → (prepareExecution rt id token t).run db = .ok (p, db') → p.Begun →
        ∃ customer, db.customerOf id.key = some customer ∧ db.Covers id customer ∧ db.Alone id customer t := by
  intro apart
  have begins : ¬ (prepareExecution {} update2 "lease-2" 3600000070).After (fun p _ => ¬ p.Begun)
      (execAll {} remindedMeanwhile {}) := by decide +kernel
  simp only [Tx.After, not_forall, not_not] at begins
  obtain ⟨p, d, ran, begun⟩ := begins
  obtain ⟨customer, owned, -, alone⟩ :=
    apart {} _ (reachable_execAll {} remindedMeanwhile) update2 "lease-2" 3600000070 p d rfl ran begun
  have known : (execAll {} remindedMeanwhile {}).customerOf update2.key = some customer1 := by decide +kernel
  rw [known, Option.some.injEq] at owned
  subst owned
  have inFlight : ∃ a ∈ (execAll {} remindedMeanwhile {}).action reminder1, a.attempts ≠ [] ∧ a.openAttempts ≠ [] := by
    decide +kernel
  obtain ⟨a, found, tried, isOpen⟩ := inFlight
  exact isOpen (alone reminder1 a found (by decide) rfl rfl (by decide +kernel) tried).1

end runs

end RevenueGuard
