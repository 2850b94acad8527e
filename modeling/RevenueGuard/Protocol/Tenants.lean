import RevenueGuard.Kit.Scoped
import RevenueGuard.Protocol.Effects

/-
One merchant's part of the store. Every service call about one merchant's rows
reads that part alone and writes it alone; the rows that name their merchant twice
name the same one.
-/
namespace RevenueGuard

variable {m : Identifier} {db db' : Database} {rt : Runtime} {t : Instant} {A : Type} {P : A → Prop}

def ActionRow.owner (r : ActionRow) : Identifier := r.merchantId

def CaseRow.owner (r : CaseRow) : Identifier := r.case.merchantId

def CustomerResponseRow.owner (r : CustomerResponseRow) : Identifier := r.responseId.merchantId

/-- The rows of one merchant. -/
def Database.ofMerchant (m : Identifier) (db : Database) : Database :=
  { merchants := Table.select id m db.merchants
    customers := Table.select CustomerRow.merchantId m db.customers
    payments := Table.select PaymentRow.merchantId m db.payments
    subscriptions := Table.select SubscriptionRow.merchantId m db.subscriptions
    invoices := Table.select InvoiceRow.merchantId m db.invoices
    promises := Table.select PromiseRow.merchantId m db.promises
    merchantEvents := Table.select MerchantEventRow.merchantId m db.merchantEvents
    responses := Table.select CustomerResponseRow.owner m db.responses
    escalations := Table.select ReceivableEscalationRow.merchantId m db.escalations
    consents := Table.select ConsentRow.merchantId m db.consents
    incidents := Table.select IncidentRow.merchantId m db.incidents
    incidentLinks := Table.select IncidentCaseLink.merchantId m db.incidentLinks
    policies := Table.select PolicyVersionRow.merchantId m db.policies
    events := Table.select RevenueRiskEvent.merchantId m db.events
    cases := Table.select CaseRow.owner m db.cases
    caseEvents := Table.select CaseEventRow.merchantId m db.caseEvents
    transitions := Table.select CaseTransition.merchantId m db.transitions
    reviews := Table.select HumanReviewRequest.merchantId m db.reviews
    receipts := Table.select ReceiptRow.merchantId m db.receipts
    actions := Table.select ActionRow.owner m db.actions
    outcomes := Table.select VerifiedOutcome.merchantId m db.outcomes
    interventions := Table.select InterventionRow.merchantId m db.interventions }

/-- The rows that name their merchant in two places name one merchant. -/
structure AtHome (db : Database) : Prop where
  cases : ∀ r ∈ db.cases, ∀ e ∈ r.recoveryEpisodeKey, e.merchantId = r.owner
  promises : ∀ r ∈ db.promises, r.promiseId.merchantId = r.merchantId
  escalations : ∀ r ∈ db.escalations, r.responseId.merchantId = r.merchantId
  interventions : ∀ r ∈ db.interventions, r.actionId.merchantId = r.merchantId

theorem atHome_empty : AtHome {} := by
  constructor <;> intro r member <;> cases member

/-- A transaction about merchant `m` alone. -/
abbrev ScopedTo (m : Identifier) (P : A → Prop) (x : Transaction A) : Prop :=
  Tx.Scoped Database.ofMerchant AtHome m P x

abbrev Any : A → Prop := fun _ => True

theorem AtHome.of_same (h : AtHome db) (cases : db'.cases = db.cases) (promises : db'.promises = db.promises)
    (escalations : db'.escalations = db.escalations) (interventions : db'.interventions = db.interventions) :
    AtHome db' := by
  constructor
  · rw [cases]
    exact h.cases
  · rw [promises]
    exact h.promises
  · rw [escalations]
    exact h.escalations
  · rw [interventions]
    exact h.interventions

section reads

theorem ofMerchant_caseRow {k : CaseKey} (here : k.merchantId = m) : (db.ofMerchant m).caseRow k = db.caseRow k :=
  Table.lookup_select fun r found => by
    rw [← here, ← show r.key = k from found]
    rfl

theorem ofMerchant_caseOf {k : CaseKey} (here : k.merchantId = m) : (db.ofMerchant m).caseOf k = db.caseOf k := by
  rw [Database.caseOf, Database.caseOf, ofMerchant_caseRow here]

theorem ofMerchant_event (eventId : Identifier) : (db.ofMerchant m).event m eventId = db.event m eventId :=
  Table.lookup_select fun _ found => congrArg Prod.fst found

theorem ofMerchant_review (reviewId : ReviewId) : (db.ofMerchant m).review m reviewId = db.review m reviewId :=
  Table.lookup_select fun _ found => congrArg Prod.fst found

theorem ofMerchant_receipt (receiptId : ReceiptId) : (db.ofMerchant m).receipt m receiptId = db.receipt m receiptId :=
  Table.lookup_select fun _ found => congrArg Prod.fst found

theorem ofMerchant_outcome (outcomeId : OutcomeId) : (db.ofMerchant m).outcome m outcomeId = db.outcome m outcomeId :=
  Table.lookup_select fun _ found => congrArg Prod.fst found

theorem ofMerchant_action {id : ActionIdentity} (here : id.merchantId = m) :
    (db.ofMerchant m).action id = db.action id :=
  Table.lookup_select fun r found => by
    rw [← here, ← show r.id = id from found]
    rfl

theorem ofMerchant_activeIntervention (customer : Identifier) :
    (db.ofMerchant m).activeIntervention m customer = db.activeIntervention m customer :=
  Table.find_select fun _ _ taken => (of_decide_eq_true taken).1

theorem ofMerchant_invoice (invoiceId : Identifier) : (db.ofMerchant m).invoice m invoiceId = db.invoice m invoiceId :=
  Table.find_select fun _ _ taken => (of_decide_eq_true taken).1

theorem ofMerchant_consentFacts (customer : Option Identifier) :
    consentFacts m customer (db.ofMerchant m) = consentFacts m customer db := by
  cases customer with
  | none => rfl
  | some customer =>
    have rows : (Table.select ConsentRow.merchantId m db.consents).filter
        (fun r => decide (r.merchantId = m ∧ r.customerId = customer)) =
        db.consents.filter fun r => decide (r.merchantId = m ∧ r.customerId = customer) :=
      Table.filter_select fun _ _ taken => (of_decide_eq_true taken).1
    simp only [consentFacts, Database.ofMerchant, rows]

theorem ofMerchant_incidentsAt (t : Instant) : incidentsAt m t (db.ofMerchant m) = incidentsAt m t db := by
  have rows : (Table.select IncidentRow.merchantId m db.incidents).filter
      (fun r => decide (r.merchantId = m ∧ r.status = .active ∧ r.incident.startsAt ≤ t ∧ t < r.incident.endsAt)) =
      db.incidents.filter fun r =>
        decide (r.merchantId = m ∧ r.status = .active ∧ r.incident.startsAt ≤ t ∧ t < r.incident.endsAt) :=
    Table.filter_select fun _ _ taken => (of_decide_eq_true taken).1
  simp only [incidentsAt, Database.ofMerchant, rows]

theorem ofMerchant_linked {k : CaseKey} (here : k.merchantId = m) :
    linkedToCase k (db.ofMerchant m) = linkedToCase k db := by
  funext i
  subst here
  refine Table.any_select fun l _ taken => ?_
  simp only [Bool.and_eq_true, beq_iff_eq] at taken
  exact taken.1.1

theorem ofMerchant_paymentFacts (id : Identifier) : paymentFacts m id (db.ofMerchant m) = paymentFacts m id db := by
  have found : (Table.select PaymentRow.merchantId m db.payments).find?
      (fun r => decide (r.merchantId = m ∧ r.paymentId = id)) =
      db.payments.find? fun r => decide (r.merchantId = m ∧ r.paymentId = id) :=
    Table.find_select fun _ _ taken => (of_decide_eq_true taken).1
  simp only [paymentFacts, Database.ofMerchant, found]

theorem ofMerchant_subscriptionFacts (id : Identifier) :
    subscriptionFacts m id (db.ofMerchant m) = subscriptionFacts m id db := by
  have found : (Table.select SubscriptionRow.merchantId m db.subscriptions).find?
      (fun r => decide (r.merchantId = m ∧ r.subscriptionId = id)) =
      db.subscriptions.find? fun r => decide (r.merchantId = m ∧ r.subscriptionId = id) :=
    Table.find_select fun _ _ taken => (of_decide_eq_true taken).1
  simp only [subscriptionFacts, Database.ofMerchant, found]

theorem ofMerchant_invoiceFacts (id : Identifier) : invoiceFacts m id (db.ofMerchant m) = invoiceFacts m id db := by
  have found : (Table.select InvoiceRow.merchantId m db.invoices).find?
      (fun r => decide (r.merchantId = m ∧ r.invoiceId = id)) =
      db.invoices.find? fun r => decide (r.merchantId = m ∧ r.invoiceId = id) :=
    Table.find_select fun _ _ taken => (of_decide_eq_true taken).1
  have active : (Table.select PromiseRow.merchantId m db.promises).filter
      (fun p => decide (p.merchantId = m ∧ p.invoiceId = id ∧ p.status = .active)) =
      db.promises.filter fun p => decide (p.merchantId = m ∧ p.invoiceId = id ∧ p.status = .active) :=
    Table.filter_select fun _ _ taken => (of_decide_eq_true taken).1
  simp only [invoiceFacts, Database.ofMerchant, found, active]

theorem ofMerchant_facts {case : RecoveryCase} (here : case.merchantId = m) :
    authoritativeFactsForCase case (db.ofMerchant m) = authoritativeFactsForCase case db := by
  subst here
  unfold authoritativeFactsForCase
  split
  · exact ofMerchant_subscriptionFacts _
  · exact ofMerchant_paymentFacts _
  · exact ofMerchant_invoiceFacts _
  · rfl

theorem ofMerchant_eventFacts {event : NormalizedEvent} (here : event.merchantId = m) :
    authoritativeFacts event (db.ofMerchant m) = authoritativeFacts event db := by
  subst here
  unfold authoritativeFacts
  split
  · exact ofMerchant_subscriptionFacts _
  · exact ofMerchant_paymentFacts _
  · exact ofMerchant_invoiceFacts _
  · rfl

theorem ofMerchant_activeCase (identity : CaseIdentity) :
    findActiveCase m identity (db.ofMerchant m) = findActiveCase m identity db :=
  Table.find_select fun _ _ taken => (of_decide_eq_true taken).1

theorem ofMerchant_episodeCase (identity : CaseIdentity) :
    findEpisodeCase m identity (db.ofMerchant m) = findEpisodeCase m identity db := by
  unfold findEpisodeCase
  split
  · rfl
  · exact Table.find_select fun _ _ taken => (of_decide_eq_true taken).1

theorem ofMerchant_order {row : CaseRow} {event : NormalizedEvent} (here : event.merchantId = m) :
    orderForCase row event (db.ofMerchant m) = orderForCase row event db := by
  have watermark : (db.ofMerchant m).event event.merchantId = db.event event.merchantId := by
    subst here
    funext id
    exact ofMerchant_event id
  simp only [orderForCase, ofMerchant_eventFacts here, watermark]

theorem ofMerchant_unknownEquivalent {k : CaseKey} (here : k.merchantId = m) (candidates : List CandidateAction) :
    hasUnknownEquivalentAmong k candidates (db.ofMerchant m) = hasUnknownEquivalentAmong k candidates db := by
  have one : ∀ c : CandidateAction, hasUnknownEquivalent k c.actionType c.target (db.ofMerchant m) =
      hasUnknownEquivalent k c.actionType c.target db := by
    intro c
    refine Table.any_select fun r _ taken => ?_
    simp only [Bool.and_eq_true, beq_iff_eq] at taken
    rw [← here, ← taken.1.1.1]
    rfl
  simp only [hasUnknownEquivalentAmong, one]

end reads

section writes

variable {R : Type}

theorem scoped_write {f : Database → Database} (inside : ∀ s, AtHome s → (f s).ofMerchant m = f (s.ofMerchant m))
    (outside : ∀ s, AtHome s → ∀ j, j ≠ m → (f s).ofMerchant j = s.ofMerchant j) (keeps : ∀ s, AtHome s → AtHome (f s)) :
    ScopedTo m Any (Tx.write f) := Tx.Scoped.write inside outside keeps

/-- A table of the store, cut to a merchant by the owner of its rows. -/
structure TenantTable (R : Type) where
  rows : Database → List R
  put : List R → Database → Database
  owner : R → Identifier
  rows_of : ∀ j s, rows (s.ofMerchant j) = Table.select owner j (rows s)
  put_of : ∀ j new s, (put new s).ofMerchant j = put (Table.select owner j new) (s.ofMerchant j)
  put_rows : ∀ s, put (rows s) s = s

/-- A table that says nothing of where rows are at home. -/
structure LooseTable (R : Type) extends TenantTable R where
  home : ∀ s new, AtHome s → AtHome (put new s)

abbrev TenantTable.cases : TenantTable CaseRow :=
  ⟨(·.cases), fun rows s => { s with cases := rows }, CaseRow.owner, fun _ _ => rfl, fun _ _ _ => rfl, fun _ => rfl⟩

abbrev TenantTable.actions : LooseTable ActionRow :=
  ⟨⟨(·.actions), fun rows s => { s with actions := rows }, ActionRow.owner, fun _ _ => rfl, fun _ _ _ => rfl, fun _ => rfl⟩,
    fun _ _ home => home.of_same rfl rfl rfl rfl⟩

abbrev TenantTable.policies : LooseTable PolicyVersionRow :=
  ⟨⟨(·.policies), fun rows s => { s with policies := rows }, PolicyVersionRow.merchantId, fun _ _ => rfl, fun _ _ _ => rfl, fun _ => rfl⟩,
    fun _ _ home => home.of_same rfl rfl rfl rfl⟩

abbrev TenantTable.caseEvents : LooseTable CaseEventRow :=
  ⟨⟨(·.caseEvents), fun rows s => { s with caseEvents := rows }, CaseEventRow.merchantId, fun _ _ => rfl, fun _ _ _ => rfl, fun _ => rfl⟩,
    fun _ _ home => home.of_same rfl rfl rfl rfl⟩

abbrev TenantTable.transitions : LooseTable CaseTransition :=
  ⟨⟨(·.transitions), fun rows s => { s with transitions := rows }, CaseTransition.merchantId, fun _ _ => rfl, fun _ _ _ => rfl, fun _ => rfl⟩,
    fun _ _ home => home.of_same rfl rfl rfl rfl⟩

abbrev TenantTable.reviews : LooseTable HumanReviewRequest :=
  ⟨⟨(·.reviews), fun rows s => { s with reviews := rows }, HumanReviewRequest.merchantId, fun _ _ => rfl, fun _ _ _ => rfl, fun _ => rfl⟩,
    fun _ _ home => home.of_same rfl rfl rfl rfl⟩

abbrev TenantTable.receipts : LooseTable ReceiptRow :=
  ⟨⟨(·.receipts), fun rows s => { s with receipts := rows }, ReceiptRow.merchantId, fun _ _ => rfl, fun _ _ _ => rfl, fun _ => rfl⟩,
    fun _ _ home => home.of_same rfl rfl rfl rfl⟩

abbrev TenantTable.interventions : TenantTable InterventionRow :=
  ⟨(·.interventions), fun rows s => { s with interventions := rows }, InterventionRow.merchantId, fun _ _ => rfl, fun _ _ _ => rfl, fun _ => rfl⟩

abbrev TenantTable.incidentLinks : LooseTable IncidentCaseLink :=
  ⟨⟨(·.incidentLinks), fun rows s => { s with incidentLinks := rows }, IncidentCaseLink.merchantId, fun _ _ => rfl, fun _ _ _ => rfl, fun _ => rfl⟩,
    fun _ _ home => home.of_same rfl rfl rfl rfl⟩

abbrev TenantTable.outcomes : LooseTable VerifiedOutcome :=
  ⟨⟨(·.outcomes), fun rows s => { s with outcomes := rows }, VerifiedOutcome.merchantId, fun _ _ => rfl, fun _ _ _ => rfl, fun _ => rfl⟩,
    fun _ _ home => home.of_same rfl rfl rfl rfl⟩

abbrev TenantTable.merchants : LooseTable Identifier :=
  ⟨⟨(·.merchants), fun rows s => { s with merchants := rows }, id, fun _ _ => rfl, fun _ _ _ => rfl, fun _ => rfl⟩,
    fun _ _ home => home.of_same rfl rfl rfl rfl⟩

abbrev TenantTable.customers : LooseTable CustomerRow :=
  ⟨⟨(·.customers), fun rows s => { s with customers := rows }, CustomerRow.merchantId, fun _ _ => rfl, fun _ _ _ => rfl, fun _ => rfl⟩,
    fun _ _ home => home.of_same rfl rfl rfl rfl⟩

abbrev TenantTable.payments : LooseTable PaymentRow :=
  ⟨⟨(·.payments), fun rows s => { s with payments := rows }, PaymentRow.merchantId, fun _ _ => rfl, fun _ _ _ => rfl, fun _ => rfl⟩,
    fun _ _ home => home.of_same rfl rfl rfl rfl⟩

abbrev TenantTable.subscriptions : LooseTable SubscriptionRow :=
  ⟨⟨(·.subscriptions), fun rows s => { s with subscriptions := rows }, SubscriptionRow.merchantId, fun _ _ => rfl, fun _ _ _ => rfl, fun _ => rfl⟩,
    fun _ _ home => home.of_same rfl rfl rfl rfl⟩

abbrev TenantTable.consents : LooseTable ConsentRow :=
  ⟨⟨(·.consents), fun rows s => { s with consents := rows }, ConsentRow.merchantId, fun _ _ => rfl, fun _ _ _ => rfl, fun _ => rfl⟩,
    fun _ _ home => home.of_same rfl rfl rfl rfl⟩

abbrev TenantTable.invoices : LooseTable InvoiceRow :=
  ⟨⟨(·.invoices), fun rows s => { s with invoices := rows }, InvoiceRow.merchantId, fun _ _ => rfl, fun _ _ _ => rfl, fun _ => rfl⟩,
    fun _ _ home => home.of_same rfl rfl rfl rfl⟩

abbrev TenantTable.incidents : LooseTable IncidentRow :=
  ⟨⟨(·.incidents), fun rows s => { s with incidents := rows }, IncidentRow.merchantId, fun _ _ => rfl, fun _ _ _ => rfl, fun _ => rfl⟩,
    fun _ _ home => home.of_same rfl rfl rfl rfl⟩

abbrev TenantTable.merchantEvents : LooseTable MerchantEventRow :=
  ⟨⟨(·.merchantEvents), fun rows s => { s with merchantEvents := rows }, MerchantEventRow.merchantId, fun _ _ => rfl, fun _ _ _ => rfl, fun _ => rfl⟩,
    fun _ _ home => home.of_same rfl rfl rfl rfl⟩

abbrev TenantTable.promises : TenantTable PromiseRow :=
  ⟨(·.promises), fun rows s => { s with promises := rows }, PromiseRow.merchantId, fun _ _ => rfl, fun _ _ _ => rfl, fun _ => rfl⟩

abbrev TenantTable.responses : LooseTable CustomerResponseRow :=
  ⟨⟨(·.responses), fun rows s => { s with responses := rows }, CustomerResponseRow.owner, fun _ _ => rfl, fun _ _ _ => rfl, fun _ => rfl⟩,
    fun _ _ home => home.of_same rfl rfl rfl rfl⟩

abbrev TenantTable.escalations : TenantTable ReceivableEscalationRow :=
  ⟨(·.escalations), fun rows s => { s with escalations := rows }, ReceivableEscalationRow.merchantId, fun _ _ => rfl, fun _ _ _ => rfl, fun _ => rfl⟩

/-- A write of one table that changes the merchant's rows alone. -/
theorem TenantTable.write (T : TenantTable R) (g : List R → List R)
    (own : ∀ s, AtHome s → Table.Owned T.owner m g (T.rows s)) (home : ∀ s, AtHome s → AtHome (T.put (g (T.rows s)) s)) :
    ScopedTo m Any (Tx.write fun s => T.put (g (T.rows s)) s) := by
  refine scoped_write (fun s h => ?_) (fun s h j other => ?_) home
  · rw [T.put_of, (own s h).inside, ← T.rows_of]
  · rw [T.put_of, (own s h).outside j other, ← T.rows_of, T.put_rows]

theorem LooseTable.write (T : LooseTable R) (g : List R → List R)
    (own : ∀ s, AtHome s → Table.Owned T.owner m g (T.rows s)) :
    ScopedTo m Any (Tx.write fun s => T.put (g (T.rows s)) s) :=
  T.toTenantTable.write g own fun s home => T.home s _ home

/-- A case row that stays of its merchant and episode. -/
theorem atHome_cases {f : CaseRow → CaseRow} {k : CaseKey} (home : AtHome db)
    (kept : ∀ r, (f r).recoveryEpisodeKey = r.recoveryEpisodeKey ∧ (f r).owner = r.owner) :
    AtHome { db with cases := Table.update CaseRow.key k f db.cases } := by
  refine { home with cases := fun r member e episode => ?_ }
  obtain ⟨before, stored, ⟨-, rfl⟩ | ⟨-, rfl⟩⟩ := Table.mem_update.mp member
  · rw [(kept before).1] at episode
    rw [(kept before).2]
    exact home.cases before stored e episode
  · exact home.cases r stored e episode

theorem owned_case {k : CaseKey} {f : CaseRow → CaseRow} {rows : List CaseRow} (here : k.merchantId = m)
    (kept : ∀ r, (f r).recoveryEpisodeKey = r.recoveryEpisodeKey ∧ (f r).owner = r.owner) :
    Table.Owned CaseRow.owner m (Table.update CaseRow.key k f) rows := by
  refine Table.owned_update (fun r _ found => ?_) fun r _ _ => (kept r).2
  rw [← here, ← found]
  rfl

theorem write_case {k : CaseKey} {f : CaseRow → CaseRow} (here : k.merchantId = m)
    (kept : ∀ r, (f r).recoveryEpisodeKey = r.recoveryEpisodeKey ∧ (f r).owner = r.owner) :
    ScopedTo m Any (Tx.write fun db => { db with cases := Table.update CaseRow.key k f db.cases }) :=
  TenantTable.cases.write (Table.update CaseRow.key k f)
    (fun _ _ => owned_case here kept) fun _ home => atHome_cases home kept

theorem write_action {id : ActionIdentity} {f : ActionRow → ActionRow} (here : id.merchantId = m)
    (keeps : ∀ r, (f r).id = r.id) : ScopedTo m Any (Tx.write (updateAction id f)) := by
  refine TenantTable.actions.write (Table.update ActionRow.id id f)
    fun _ _ => Table.owned_update (fun r _ found => ?_) fun r _ _ => congrArg ActionIdentity.merchantId (keeps r)
  rw [← here, ← found]
  rfl

end writes

section cases

theorem lockMerchant_scoped : ScopedTo m Any (lockMerchant m) := by
  refine .bind (.look fun s _ => ?_) fun known _ => (Tx.Scoped.check _ _).mono fun _ _ => trivial
  rw [decide_eq_decide]
  exact Table.mem_select.trans (and_iff_left rfl)

theorem effectivePolicy_scoped : ScopedTo m Any (effectivePolicy m t) := by
  refine .bind (.look fun s _ => ?_) fun _ _ => .bind (.found _ _) fun _ _ => .bind (.check _ _) fun _ _ => .pure trivial
  exact congrArg (latest _) (Table.filter_select fun _ _ taken => (of_decide_eq_true taken).1)

theorem publishPolicy_scoped (policy : MerchantPolicySnapshot) : ScopedTo m Any (publishPolicy m policy) := by
  refine .bind (.look fun s _ => Table.find_select fun _ _ taken => (of_decide_eq_true taken).1) fun existing _ => ?_
  cases existing with
  | some row => exact (Tx.Scoped.check _ _).mono fun _ _ => trivial
  | none =>
    refine .bind (.look fun s _ => Table.any_select fun _ _ taken => (of_decide_eq_true taken).1) fun _ _ =>
      .bind (.check _ _) fun _ _ => ?_
    exact TenantTable.policies.write
      (· ++ [_]) fun _ _ => Table.owned_add rfl

theorem caseOf_merchant {k : CaseKey} (here : k.merchantId = m) : ∀ case ∈ db.caseOf k, case.merchantId = m := by
  intro case found
  obtain ⟨row, stored, rfl, key⟩ := caseOf_row found
  rw [← here, ← key]
  rfl

theorem read_case {k : CaseKey} (here : k.merchantId = m) :
    ScopedTo m (fun o => ∀ case ∈ o, case.merchantId = m) (Tx.read fun db => db.caseOf k) :=
  .read (fun _ _ => ofMerchant_caseOf here) fun _ _ => caseOf_merchant here

theorem requireCase_scoped {k : CaseKey} (here : k.merchantId = m) :
    ScopedTo m (fun case => case.merchantId = m) (requireCase k) :=
  .bind (read_case here) fun _ own => (Tx.Scoped.found _ _).mono fun case found => own case found

theorem createCase_scoped {row : CaseRow} (here : row.owner = m) (own : ∀ e ∈ row.recoveryEpisodeKey, e.merchantId = m) :
    ScopedTo m Any (createCase row) := by
  refine .bind (.look fun s _ => congrArg Option.isSome (ofMerchant_caseRow here)) fun _ _ => .bind (.check _ _) fun _ _ =>
    .test (fun s _ => Tx.check_congr ?_ _ _ _) fun customers => .bind (.check _ _) fun _ _ =>
      .test (fun s home => ?_) fun cases => .bind (.check _ _) fun _ _ => .bind (.check _ _) fun _ _ => ?_
  · refine forall₂_congr fun id _ => ⟨?_, ?_⟩
    · rintro ⟨c, member, found⟩
      exact ⟨c, (Table.mem_select.mp member).1, found⟩
    · rintro ⟨c, member, found⟩
      exact ⟨c, Table.mem_select.mpr ⟨member, found.1.trans here⟩, found⟩
  · refine (Tx.check_congr (Table.forall_select fun r _ other rival => ?_) _ _ _).trans
      (Tx.bind_congr (fun _ _ => Tx.check_congr (Table.forall_select fun r member other keyed same => ?_) _ _ _) _)
    · exact other (rival.1.trans here)
    · obtain ⟨e, episode⟩ := Option.isSome_iff_exists.mp keyed
      exact other ((home.cases r member e (same.trans episode)).symm.trans (own e episode))
  · refine TenantTable.cases.write (· ++ [row])
      (fun _ _ => Table.owned_add here) fun s home => { home with cases := fun r member e episode => ?_ }
    rcases List.mem_append.mp member with old | new
    · exact home.cases r old e episode
    · rw [List.mem_singleton.mp new] at episode ⊢
      rw [own e episode, here]

theorem linkEvidence_scoped {link : CaseEventRow} (here : link.merchantId = m) :
    ScopedTo m Any (linkEvidence link) := by
  refine .bind (.look fun s _ => Table.lookup_select fun r found => ?_) fun existing _ => ?_
  · rw [← here]
    exact congrArg Prod.fst found
  cases existing with
  | some row => exact .pure trivial
  | none =>
    exact .bind (TenantTable.caseEvents.write
      (· ++ [link]) fun _ _ => Table.owned_add here) fun _ _ => .pure trivial

theorem settled_merchant (case : RecoveryCase) (t : Transition) (o : Option Diagnosis) (retry : Bool) :
    (((case.moved t).withDiagnosis o).countRetry retry).merchantId = case.merchantId := by
  have anchor := (settled_case case t o retry).1
  simp only [RecoveryCase.anchor, CaseAnchor.mk.injEq] at anchor
  exact anchor.2.1

theorem applyTransition_scoped {updated : RecoveryCase} {moved : CaseTransition} {e : Option NormalizedEvent}
    (here : moved.merchantId = m) : ScopedTo m Any (applyTransition updated moved e) := by
  refine .bind (.look fun s _ => ofMerchant_caseRow here) fun _ _ => .bind (.check _ _) fun _ _ => ?_
  exact (write_case (k := ⟨moved.merchantId, moved.caseId⟩) (f := fun r => r.apply updated e) here fun _ => ⟨rfl, rfl⟩).comp (TenantTable.transitions.write (· ++ [moved]) fun _ _ => Table.owned_add here)

theorem recoveryTransition_scoped {case : RecoveryCase} (here : case.merchantId = m) (t : Transition)
    (o : Option Diagnosis) (e : Option NormalizedEvent) (retry : Bool) :
    ScopedTo m (fun moved => moved.merchantId = m) (recoveryTransition case t o e retry) := by
  refine .bind (.lift _) fun moved made => ?_
  obtain ⟨-, -, rfl⟩ := transitionCase_ok made
  exact .bind (applyTransition_scoped here) fun _ _ => .pure ((settled_merchant case t o retry).trans here)

theorem recordExecutionAttemptCounters_scoped {case : RecoveryCase} (here : case.merchantId = m) (retry contact : Nat) :
    ScopedTo m (fun counted => counted.merchantId = m) (recordExecutionAttemptCounters case retry contact t) := by
  refine .bind (.check _ _) fun _ _ => .bind (.check _ _) fun _ _ => .ite (fun _ => .pure here) fun _ => ?_
  refine .bind (.check _ _) fun _ _ => .bind (.look fun s _ => ofMerchant_caseRow here) fun _ _ =>
    .bind (.check _ _) fun _ _ => .bind (write_case here fun _ => ⟨rfl, rfl⟩) fun _ _ => .pure here

theorem storeReview_scoped {review : HumanReviewRequest} (here : review.merchantId = m) :
    ScopedTo m Any (storeReview review) := by
  subst here
  refine .bind (.look fun s _ => congrArg Option.isSome (ofMerchant_review _)) fun _ _ => .bind (.check _ _) fun _ _ => ?_
  exact TenantTable.reviews.write
    (· ++ [review]) fun _ _ => Table.owned_add rfl

theorem updateReviewDecision_scoped (review : HumanReviewRequest) : ScopedTo m Any (updateReviewDecision m review) := by
  refine .bind (.check _ _) fun _ _ => .bind (.look fun s _ => ofMerchant_review _) fun _ _ => .bind (.check _ _) fun _ _ => ?_
  exact TenantTable.reviews.write
    (Table.update HumanReviewRequest.id (m, review.reviewId) (HumanReviewRequest.decide review)) fun _ _ =>
      Table.owned_update (fun _ _ found => congrArg Prod.fst found) fun _ _ _ => rfl

theorem storeReceipt_scoped {receipt : ReceiptRow} (here : receipt.merchantId = m) :
    ScopedTo m Any (storeReceipt receipt) := by
  subst here
  refine .bind (.look fun s _ => congrArg Option.isSome (ofMerchant_receipt _)) fun _ _ => .bind (.check _ _) fun _ _ => ?_
  exact TenantTable.receipts.write
    (· ++ [receipt]) fun _ _ => Table.owned_add rfl

theorem customerContactSnapshot_scoped (customer : Identifier) :
    ScopedTo m Any (customerContactSnapshot m customer) := by
  refine .bind (.look fun s _ => Table.any_select fun c _ taken => ?_) fun _ _ => .bind (.check _ _) fun _ _ =>
    .look fun s _ => ?_
  · simp only [Bool.and_eq_true, beq_iff_eq] at taken
    exact taken.1
  · have rows : (Table.select CaseRow.owner m s.cases).filter
        (fun r => decide (r.case.merchantId = m ∧ r.case.customerId = some customer)) =
        s.cases.filter fun r => decide (r.case.merchantId = m ∧ r.case.customerId = some customer) :=
      Table.filter_select fun _ _ taken => (of_decide_eq_true taken).1
    simp only [ofMerchant_activeIntervention]
    simp only [Database.ofMerchant, rows]

theorem storeCustomerIntervention_scoped {i : InterventionRow} (here : i.merchantId = m) (own : i.actionId.merchantId = m) :
    ScopedTo m Any (storeCustomerIntervention i) := by
  subst here
  refine .bind (.look fun s _ => Table.find_select fun _ _ taken => (of_decide_eq_true taken).1) fun existing _ => ?_
  cases existing with
  | some row => exact (Tx.Scoped.check _ _).mono fun _ _ => trivial
  | none =>
    refine .bind (.look fun s _ => ofMerchant_activeIntervention _) fun _ _ => .bind (.check _ _) fun _ _ => ?_
    refine TenantTable.interventions.write
      (· ++ [i]) (fun _ _ => Table.owned_add rfl) fun s home => { home with interventions := fun r member => ?_ }
    rcases List.mem_append.mp member with old | new
    · exact home.interventions r old
    · rw [List.mem_singleton.mp new, own]

theorem coordinate_scoped (customer caseId : Identifier) :
    ScopedTo m Any (coordinateCaseWithActiveIntervention m customer caseId t) := by
  refine .bind (P := fun o => ∀ i ∈ o, i.actionId.merchantId = m)
    (.read (fun s _ => ofMerchant_activeIntervention customer) fun s home i found => ?_) fun row own => ?_
  · have active : s.interventions.find? _ = some i := found
    have taken := List.find?_some active
    rw [decide_eq_true_eq] at taken
    rw [home.interventions i (List.mem_of_find?_eq_some active), taken.1]
  cases row with
  | none => exact .pure trivial
  | some row =>
    refine .ite (fun _ => .pure trivial) fun _ => ?_
    refine TenantTable.interventions.write
      (Table.update InterventionRow.actionId row.actionId _) (fun s home => Table.owned_update (fun r member found => ?_)
        fun _ _ _ => rfl) fun s home => { home with interventions := fun r member => ?_ }
    · exact (home.interventions r member).symm.trans (found ▸ own row rfl)
    · obtain ⟨before, stored, ⟨-, rfl⟩ | ⟨-, rfl⟩⟩ := Table.mem_update.mp member
      · exact home.interventions before stored
      · exact home.interventions r stored

theorem activeIncidents_scoped {k : CaseKey} (here : k.merchantId = m) (code : Option Identifier) :
    ScopedTo m Any (activeIncidents k t code) := by
  refine .bind (.look fun s _ => here ▸ ofMerchant_incidentsAt t) fun rows _ =>
    .bind (.look fun s _ => ofMerchant_linked here) fun linked _ => .bind (P := Any) ?_ fun _ _ => .pure trivial
  have links := fun (new : List IncidentConstraint) => TenantTable.incidentLinks.write
    (· ++ new.map fun i => ⟨k.merchantId, i.incidentId, k.caseId, t, none⟩) fun _ _ => Table.owned_append fun r member => by
      obtain ⟨i, -, rfl⟩ := List.mem_map.mp member
      exact here
  split
  · exact links _
  · rename_i first _
    exact (write_case (f := CaseRow.attach first) here fun _ => ⟨rfl, rfl⟩).comp (links _)

end cases

section actions

theorem action_merchant {id : ActionIdentity} (here : id.merchantId = m) : ∀ r ∈ db.action id, r.merchantId = m := by
  intro r found
  rw [← here, ← (action_mem_view found).1]
  rfl

theorem read_action {id : ActionIdentity} (here : id.merchantId = m) :
    ScopedTo m (fun o => ∀ r ∈ o, r.merchantId = m) (Tx.read fun db => db.action id) :=
  .read (fun _ _ => ofMerchant_action here) fun _ _ => action_merchant here

theorem storeAction_scoped {action : RecoveryAction} (here : action.identity.merchantId = m) (version : Identifier)
    (most : Nat) (deadline : Instant) : ScopedTo m Any (storeAction action version most deadline) := by
  refine .bind (.check _ _) fun _ _ => .bind (.check _ _) fun _ _ => .bind (read_action here) fun existing _ => ?_
  cases existing with
  | some row => exact .pure trivial
  | none =>
    exact .bind (TenantTable.actions.write
      (· ++ [ActionRow.ofAction action version most deadline]) fun _ _ => Table.owned_add here) fun _ _ => .pure trivial

theorem beginAttempt_scoped {id : ActionIdentity} (here : id.merchantId = m) (token : String) :
    ScopedTo m Any (beginAttempt id token t) :=
  .bind (read_action here) fun _ _ => .bind (.found _ _) fun _ _ => .bind (.check _ _) fun _ _ =>
    .bind (.check _ _) fun _ _ => .bind (.check _ _) fun _ _ => .bind (.check _ _) fun _ _ => .bind (.check _ _) fun _ _ =>
      .bind (.check _ _) fun _ _ => .bind (write_action here fun _ => rfl) fun _ _ => .pure trivial

theorem finishAttempt_scoped {id : ActionIdentity} (here : id.merchantId = m) (token : String) (c : AttemptCompletion)
    (retry deadline : Instant) : ScopedTo m (fun r => r.merchantId = m) (finishAttempt id token c retry deadline) := by
  refine .bind (read_action here) fun stored own => .bind (.found _ _) fun action found => .bind (.check _ _) fun _ _ =>
    .bind (.check _ _) fun _ _ => .bind (.check _ _) fun _ _ => .bind (.check _ _) fun _ _ => .bind (.check _ _) fun _ _ =>
      .bind (write_action here fun r => finish_id token c retry deadline r) fun _ _ => .pure ?_
  rw [← own action found]
  exact congrArg ActionIdentity.merchantId (finish_id token c retry deadline action)

theorem markStaleInflightUnknown_scoped {action : ActionRow} (here : action.merchantId = m) (deadline : Instant) :
    ScopedTo m Any (markStaleInflightUnknown action t deadline) :=
  .bind (read_action here) fun _ _ => .bind (.found _ _) fun _ _ => .bind (.check _ _) fun _ _ =>
    .bind (.check _ _) fun _ _ => .bind (.check _ _) fun _ _ => write_action here fun _ => rfl

theorem markVerificationExpiredUnknown_scoped {action : ActionRow} (here : action.merchantId = m) :
    ScopedTo m (fun r => r.merchantId = m) (markVerificationExpiredUnknown action t) :=
  .bind (.check _ _) fun _ _ => .bind (write_action here fun _ => rfl) fun _ _ => .pure here

theorem cancelBeforeExecution_scoped {action : ActionRow} (here : action.merchantId = m) (reason : String) :
    ScopedTo m Any (cancelBeforeExecution action t reason) :=
  .bind (.check _ _) fun _ _ => write_action here fun _ => rfl

theorem setActionResolution_scoped {action : ActionRow} (here : action.merchantId = m) (status : ActionStatus)
    (object error : Option String) :
    ScopedTo m (fun r => r.merchantId = m) (setActionResolution action status t object error) :=
  .bind (.check _ _) fun _ _ => .bind (write_action here fun _ => rfl) fun _ _ => .pure here

theorem storeOutcome_scoped {outcome : VerifiedOutcome} (here : outcome.merchantId = m) :
    ScopedTo m Any (storeOutcome outcome) := by
  subst here
  refine .bind (.look fun s _ => ofMerchant_outcome _) fun existing _ => ?_
  cases existing with
  | some row => exact .pure trivial
  | none =>
    refine .bind (.check _ _) fun _ _ => .test (fun s _ => Tx.check_congr ?_ _ _ _) fun outcomes => .bind (.check _ _) fun _ _ => ?_
    · exact forall_congr' fun _ => Table.forall_select fun r _ other rival => other rival.1
    · exact TenantTable.outcomes.write
        (· ++ [outcome]) fun _ _ => Table.owned_add rfl

theorem storeObservation_scoped {outcome : VerifiedOutcome} (here : outcome.merchantId = m) :
    ScopedTo m Any (storeObservation outcome) := .bind (.lift _) fun _ _ => storeOutcome_scoped here

theorem findActionForProviderObject_scoped (object : String) (types : List ActionType) :
    ScopedTo m (fun o => ∀ r ∈ o, r.merchantId = m) (findActionForProviderObject m object types) := by
  refine .bind (P := fun rows => ∀ r ∈ rows, r.merchantId = m) (.read (fun s _ => ?_) fun s _ r member => ?_)
    fun rows own => .bind (.check _ _) fun _ _ => .pure fun r first => own r (List.mem_of_mem_head? first)
  · exact Table.filter_select fun _ _ taken => (of_decide_eq_true taken).1
  · exact (of_decide_eq_true (List.mem_filter.mp member).2).1

theorem latestAction_scoped (target : Identifier) (types : List ActionType) :
    ScopedTo m (fun o => ∀ r ∈ o, r.merchantId = m) (Tx.read (findLatestActionForTarget rt m target types)) := by
  refine .read (fun s _ => ?_) fun s _ r first => ?_
  · have rows : (Table.select ActionRow.owner m s.actions).filter
        (fun r => decide (r.merchantId = m ∧ r.id.targetId = target ∧ r.actionType ∈ types ∧ resolvable r)) =
        s.actions.filter fun r =>
          decide (r.merchantId = m ∧ r.id.targetId = target ∧ r.actionType ∈ types ∧ resolvable r) :=
      Table.filter_select fun _ _ taken => (of_decide_eq_true taken).1
    simp only [findLatestActionForTarget, Database.ofMerchant, rows]
  · have member := (List.mem_insertionSort _).mp (List.mem_of_mem_head? first)
    exact (of_decide_eq_true (List.mem_filter.mp member).2).1

end actions

end RevenueGuard
