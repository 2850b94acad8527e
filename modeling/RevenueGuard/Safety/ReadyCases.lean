import RevenueGuard.Safety.Outbox

/-
READY cases. A READY case has one action to claim, and a claim that comes late
enough returns it, as long as no decision lands on an action stored before and no
action is cancelled during its provider call.
-/
namespace RevenueGuard

variable {db : Database} {rt : Runtime} {k : CaseKey}

/-- Pending, not dead-lettered and below its attempt limit. -/
def ActionRow.Claimable (r : ActionRow) : Prop :=
  r.status = .pending ∧ r.deadLetteredAt = none ∧ r.attemptCount < r.maxAttempts

instance (r : ActionRow) : Decidable r.Claimable := inferInstanceAs (Decidable (_ ∧ _))

def Database.claimable (db : Database) (k : CaseKey) : List ActionRow :=
  db.actions.filter fun r => decide (r.key = k ∧ r.Claimable)

/-- Any claim from `since` on, of at least as many actions as there are, returns the action. -/
def ClaimedFrom (rt : Runtime) (db : Database) (r : ActionRow) (since : Instant) : Prop :=
  ∀ now, since ≤ now → ∀ (tokens : ActionIdentity → String) (leaseFor : Int) (limit : Nat), 0 < leaseFor →
    db.actions.length ≤ limit → ∃ claimed db', (claimDueActions rt tokens now leaseFor limit).run db = .ok (claimed, db') ∧
      ⟨r.id, tokens r.id⟩ ∈ claimed

/-- The case has exactly one action to claim, and it will be claimed. -/
def NotStranded (rt : Runtime) (db : Database) (k : CaseKey) : Prop :=
  ∃ r, db.claimable k = [r] ∧ ∃ since, ClaimedFrom rt db r since

theorem claims_return (tokens : ActionIdentity → String) (now : Instant) (leaseFor : Int) (rows : List ActionRow)
    (db : Database) : ∃ db', (Tx.each (fun row : ActionRow => do
      Tx.write (updateAction row.id (ActionRow.lease (tokens row.id) now leaseFor))
      pure (⟨row.id, tokens row.id⟩ : ClaimedAction) : ActionRow → Transaction ClaimedAction) rows).run db =
        .ok (rows.map fun r => ⟨r.id, tokens r.id⟩, db') :=
  Tx.each_returns (fun _ _ => ⟨_, rfl⟩) rows db

theorem claimDueActions_returns {tokens : ActionIdentity → String} {now : Instant} {leaseFor : Int} {limit : Nat}
    (lease : 0 < leaseFor) (room : db.actions.length ≤ limit) {r : ActionRow} (member : r ∈ db.actions) (due : r.Due now) :
    ∃ claimed db', (claimDueActions rt tokens now leaseFor limit).run db = .ok (claimed, db') ∧
      ⟨r.id, tokens r.id⟩ ∈ claimed := by
  have positive : 0 < limit := Nat.lt_of_lt_of_le (List.length_pos_of_mem member) room
  have claims := claims_return tokens now leaseFor (((db.actions.filter fun r => decide (r.Due now)).insertionSort
    (dueBefore rt (·.nextAttemptAt))).take limit) db
  obtain ⟨db', claims⟩ := claims
  refine ⟨_, db', (Tx.bind_of_ok (Tx.check_of ⟨lease, positive⟩)).trans ((Tx.bind_of_ok rfl).trans claims), ?_⟩
  refine List.mem_map_of_mem ?_
  rw [List.take_of_length_le, List.mem_insertionSort]
  · exact List.mem_filter.mpr ⟨member, decide_eq_true due⟩
  · rw [List.length_insertionSort]
    exact (List.length_filter_le _ _).trans room

/-- An action that nobody is calling becomes due, and stays so. -/
theorem due_since {r : ActionRow} (claimable : r.Claimable) (idle : r.openAttempts = [])
    (leased : r.leaseToken.isSome = true → r.leaseExpiresAt.isSome = true) :
    ∃ since, ∀ now, since ≤ now → r.Due now := by
  refine ⟨max (max r.action.executeAfter r.nextAttemptAt) (r.leaseExpiresAt.getD 0), fun now late => ?_⟩
  obtain ⟨started, expired⟩ := max_le_iff.mp late
  obtain ⟨executable, next⟩ := max_le_iff.mp started
  refine ⟨claimable.1, claimable.2.1, executable, next, claimable.2.2, ?_, idle⟩
  cases token : r.leaseToken with
  | none => exact .inl rfl
  | some t =>
    obtain ⟨e, expires⟩ := Option.isSome_iff_exists.mp (leased (by rw [token]; rfl))
    rw [expires] at expired ⊢
    exact .inr ⟨e, rfl, expired⟩

/-- What can strand a READY case. -/
def strands : List Kind := [.reusedKey, .cancelInFlight]

theorem ready_case_not_stranded (reach : ReachableUnder rt (Command.Avoids rt (· ∈ strands)) db)
    (ready : db.stateOf k = some .ready) : NotStranded rt db k := by
  obtain ⟨outbox, served⟩ := served_invariant (by decide) (by decide) reach k
  obtain ⟨r, member, pending⟩ := served (by rw [show (view k db).state = some .ready from ready]; decide)
  have stored := Table.mem_select.mp member
  have sound := outbox.sound r member
  have unattempted := outbox.fresh ready r member pending
  have claimable : r.Claimable :=
    ⟨pending, (sound.live pending).1, by rw [sound.counted, sound.limit, unattempted]; decide⟩
  have idle : r.openAttempts = [] := by
    rw [ActionRow.openAttempts, unattempted]
    rfl
  obtain ⟨since, due⟩ := due_since claimable idle (sound.live pending).2
  refine ⟨r, ?_, since, fun now late tokens leaseFor limit lease room =>
    claimDueActions_returns lease room stored.1 (due now late)⟩
  have only := Table.filter_singleton (p := fun r => decide r.Claimable) outbox.ids member (decide_eq_true claimable)
    fun s hs here => outbox.one s hs r member (of_decide_eq_true here).1 pending
  rw [← only]
  simp only [Database.claimable, view, Table.select, List.filter_filter]
  congr 1
  funext x
  by_cases here : x.key = k <;> simp [here]

section runs

def acme : Identifier := ident "acme"

theorem linksOnly_defers : 0 < 60 := by decide

def linksOnly : MerchantPolicySnapshot :=
  { version := ident "v1"
    allowedActions := {.createPaymentLink}
    retryLimit := 3
    contactLimit := 3
    minimumExpectedNetRecoveryMinor := 0
    humanReviewAmountMinor := 1000000
    minimumConfidenceBasisPoints := 0
    defaultDeferSeconds := 60
    timezone := "UTC"
    currency := currency "INR"
    effectiveAt := 0
    quietHoursStart := ⟨0, by decide⟩
    quietHoursEnd := ⟨0, by decide⟩
    allowed_nonempty := by decide, confidence_le := none_le, defer_pos := linksOnly_defers }

/-- A payment that failed on an expired card. -/
def expiredCard (event payment : Identifier) (at_ : Instant) : NormalizedEvent :=
  { eventId := event
    merchantId := acme
    source := .razorpay
    sourceEventId := event.val
    eventType := ident "payment.failed"
    occurredAt := at_
    receivedAt := at_
    amountMinor := 1000
    currency := currency "INR"
    normalizedFailureCategory := .expiredPaymentMethod
    paymentId := some payment
    subject := by rfl }

theorem expiredCard_subject (event payment : Identifier) (at_ : Instant) :
    ((expiredCard event payment at_).customerId.isSome || (expiredCard event payment at_).paymentId.isSome ||
      (expiredCard event payment at_).subscriptionId.isSome || (expiredCard event payment at_).invoiceId.isSome ||
      (expiredCard event payment at_).paymentLinkId.isSome) = true := rfl

/-- What is stored of an event: the rows it names, then the event. -/
def ingested (event : NormalizedEvent) : List Command :=
  event.customerId.toList.map (fun id => .upsertCustomer ⟨event.merchantId, id, none⟩) ++
    event.paymentId.toList.map (fun id => .upsertPayment
      { merchantId := event.merchantId
        paymentId := id
        customerId := event.customerId
        orderId := event.orderId
        amountMinor := event.amountMinor
        currency := event.currency
        status := eventStatus event.eventType
        providerOccurredAt := event.occurredAt
        providerUpdatedAt := some event.occurredAt }) ++
    [.persistNormalizedEvent event]

def drawn (id : String) (valid : wellNamed id = true := by exact Eq.refl true) : EvaluationInputs :=
  { receiptId := ident id valid, reviewId := ident id valid }

def case1 : CaseKey := ⟨acme, ident "case-1"⟩

def link1 : ActionIdentity :=
  { merchantId := acme
    caseId := ident "case-1"
    actionType := .createPaymentLink
    targetType := .payment
    targetId := ident "pay-1"
    logicalAttempt := 1
    attempt_pos := first_pos }

/-- One failed payment, decided at once: its payment link is in the outbox. -/
def linkAuthorized (policy : MerchantPolicySnapshot) : List Command :=
  [.registerMerchant acme, .publishPolicy acme policy] ++ ingested (expiredCard (ident "event-1") (ident "pay-1") 5) ++
    [.processEvent (drawn "receipt-1") acme (ident "event-1") (ident "case-1") 10]

def linkBegun (policy : MerchantPolicySnapshot) : List Command :=
  linkAuthorized policy ++ [.claimDueActions (fun _ => "lease-1") 20 1000 5, .prepareExecution link1 "lease-1" 25]

theorem failed_settled : ActionStatus.failed ≠ .pending := by decide

theorem failed_final : ActionStatus.failed = .unknown → false = false := fun _ => rfl

def refusedLink : ProviderExecutionResult :=
  { status := .failed
    evidenceSource := .providerResponse
    observedAt := 30
    responseCategory := "REJECTED"
    settled := failed_settled, unknown_final := failed_final }

/-- The payment link is refused, the payment fails again, and the second decision is the first one's action. -/
def decidedAgain : List Command :=
  linkBegun linksOnly ++ [.recordExecutionResult link1 "lease-1" refusedLink] ++
    ingested (expiredCard (ident "event-2") (ident "pay-1") 35) ++
    [.processEvent (drawn "receipt-2") acme (ident "event-2") (ident "case-2") 40]

set_option maxRecDepth 100000 in
theorem ready_case_not_stranded_first : NotStranded {} (execAll {} (linkAuthorized linksOnly) {}) case1 :=
  ready_case_not_stranded (reaches_runAvoids (by decide +kernel)) (by decide +kernel)

set_option maxRecDepth 100000 in
theorem ready_case_stranded : ¬ ∀ (rt : Runtime) (db : Database), Reachable rt db → ∀ k : CaseKey,
    db.stateOf k = some .ready → NotStranded rt db k := by
  intro served
  have reached := reachable_execAll {} decidedAgain
  obtain ⟨r, claimable, -⟩ := served {} _ reached case1 (by decide +kernel)
  have empty : (execAll {} decidedAgain {}).claimable case1 = [] := by decide +kernel
  rw [empty] at claimable
  cases claimable

end runs

end RevenueGuard
