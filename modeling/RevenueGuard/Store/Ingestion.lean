import RevenueGuard.Store.Recovery

/-
Ingestion: what the provider and the merchant report. A provider row is replaced
by an update that is newer, or as new with a status of at least the same rank.
-/
namespace RevenueGuard

def registerMerchant (merchantId : Identifier) : Transaction Unit :=
  Tx.write fun db => if merchantId ∈ db.merchants then db else { db with merchants := db.merchants ++ [merchantId] }

/-- Replace the first row of this key if `wins`, or append when there is none. -/
def upsert {R K : Type} [DecidableEq K] (key : R → K) (wins : R → R → Bool) (row : R) (rows : List R) : List R :=
  if (Table.lookup key (key row) rows).isSome then
    Table.update key (key row) (fun current => if wins current row then row else current) rows
  else rows ++ [row]

theorem mem_upsert {R K : Type} [DecidableEq K] {key : R → K} {wins : R → R → Bool} {row r : R} {rows : List R}
    (member : r ∈ upsert key wins row rows) : r ∈ rows ∨ r = row := by
  unfold upsert at member
  split at member
  · obtain ⟨current, old, ⟨-, same⟩ | ⟨-, same⟩⟩ := Table.mem_update.mp member
    · split at same
      · exact .inr same
      · exact .inl (same ▸ old)
    · exact .inl (same ▸ old)
  · rcases List.mem_append.mp member with old | new
    · exact .inl old
    · exact .inr (List.mem_singleton.mp new)

theorem replace_key {R K : Type} [DecidableEq K] {key : R → K} (wins : R → R → Bool) (row : R) :
    Table.KeepsKey key (key row) fun current => if wins current row then row else current := by
  intro current here
  dsimp only
  split
  · rfl
  · exact here

theorem upsert_key {R K : Type} [DecidableEq K] {key : R → K} {wins : R → R → Bool} {row r : R} {rows : List R}
    (member : r ∈ rows) : ∃ r' ∈ upsert key wins row rows, key r' = key r := by
  unfold upsert
  split
  · have listed : key r ∈ (Table.update key (key row) (fun current => if wins current row then row else current)
        rows).map key := by
      rw [Table.keys_update (replace_key wins row)]
      exact List.mem_map_of_mem member
    exact List.mem_map.mp listed
  · exact ⟨r, List.mem_append_left _ member, rfl⟩

theorem upsert_other {R K : Type} [DecidableEq K] {key : R → K} {wins : R → R → Bool} {row r : R} {rows : List R}
    (member : r ∈ rows) (other : key r ≠ key row) : r ∈ upsert key wins row rows := by
  unfold upsert
  split
  · exact Table.mem_update.mpr ⟨r, member, .inr ⟨other, rfl⟩⟩
  · exact List.mem_append_left _ member

theorem upsert_nodup {R K : Type} [DecidableEq K] {key : R → K} {wins : R → R → Bool} {row : R} {rows : List R}
    (nodup : (rows.map key).Nodup) : ((upsert key wins row rows).map key).Nodup := by
  unfold upsert
  split
  · rw [Table.keys_update (replace_key wins row)]
    exact nodup
  · rename_i absent
    exact Table.nodup_append_new nodup (Option.not_isSome_iff_eq_none.mp absent)

def providerUpdateIsAuthoritative (currentStatus : String) (currentUpdatedAt : Option Instant)
    (excludedStatus : String) (excludedUpdatedAt : Option Instant) : Bool :=
  match currentUpdatedAt, excludedUpdatedAt with
  | none, _ => true
  | some _, none => false
  | some current, some excluded => decide (current < excluded ∨ (excluded = current
      ∧ providerStatusPrecedence currentStatus ≤ providerStatusPrecedence excludedStatus))

def CustomerRow.id (r : CustomerRow) : Identifier × Identifier := (r.merchantId, r.customerId)

def PaymentRow.id (r : PaymentRow) : Identifier × Identifier := (r.merchantId, r.paymentId)

def SubscriptionRow.id (r : SubscriptionRow) : Identifier × Identifier := (r.merchantId, r.subscriptionId)

def upsertCustomer (row : CustomerRow) : Transaction Unit :=
  let wins (current row : CustomerRow) : Bool := match current.providerUpdatedAt, row.providerUpdatedAt with
    | none, _ => true
    | some _, none => false
    | some current, some excluded => decide (current ≤ excluded)
  Tx.write fun db => { db with customers := upsert CustomerRow.id wins row db.customers }

def upsertPayment (row : PaymentRow) : Transaction Unit :=
  Tx.write fun db => { db with
    payments := upsert PaymentRow.id (fun current row => providerUpdateIsAuthoritative current.status
      current.providerUpdatedAt row.status row.providerUpdatedAt) row db.payments }

def upsertSubscription (row : SubscriptionRow) : Transaction Unit :=
  Tx.write fun db => { db with
    subscriptions := upsert SubscriptionRow.id (fun current row => providerUpdateIsAuthoritative current.status
      current.providerUpdatedAt row.status row.providerUpdatedAt) row db.subscriptions }

/-- What an event names is stored: its merchant, and its customer, payment and subscription if it names one. -/
structure RevenueRiskEvent.Referenced (event : RevenueRiskEvent) (db : Database) : Prop where
  merchant : event.merchantId ∈ db.merchants
  customer : ∀ id ∈ event.customerId, (event.merchantId, id) ∈ db.customers.map CustomerRow.id
  payment : ∀ id ∈ event.paymentId, (event.merchantId, id) ∈ db.payments.map PaymentRow.id
  subscription : ∀ id ∈ event.subscriptionId, (event.merchantId, id) ∈ db.subscriptions.map SubscriptionRow.id

instance (event : RevenueRiskEvent) (db : Database) : Decidable (event.Referenced db) :=
  decidable_of_iff (event.merchantId ∈ db.merchants ∧
      (∀ id ∈ event.customerId, (event.merchantId, id) ∈ db.customers.map CustomerRow.id) ∧
      (∀ id ∈ event.paymentId, (event.merchantId, id) ∈ db.payments.map PaymentRow.id) ∧
      ∀ id ∈ event.subscriptionId, (event.merchantId, id) ∈ db.subscriptions.map SubscriptionRow.id)
    ⟨fun ⟨a, b, c, d⟩ => ⟨a, b, c, d⟩, fun ⟨a, b, c, d⟩ => ⟨a, b, c, d⟩⟩

/-- `uq_normalized_events_source_event`. -/
def RevenueRiskEvent.sameSource (event e : RevenueRiskEvent) : Bool :=
  e.merchantId == event.merchantId && e.source == event.source && e.sourceEventId == event.sourceEventId

/-- A new row. One writer sets its `webhook_event_id`, the other its `merchant_event_id`, so it has one inbox source. -/
def insertNormalizedEvent (event : NormalizedEvent) : Transaction Unit := do
  let referenced ← Tx.read fun db => decide (event.Referenced db)
  Tx.check (referenced = true) (.integrity "normalized_events_fkey")
  Tx.write fun db => { db with events := db.events ++ [event] }

/-- Insert unless the webhook's event, which has the id made of the webhook's, is there. A conflict with any other event
inserts nothing either, and then no event of the webhook is found. -/
def persistNormalizedEvent (event : NormalizedEvent) : Transaction Unit := do
  let existing ← Tx.read fun db => db.event event.merchantId event.eventId
  match existing with
  | some _ => pure ()
  | none => do
    let conflict ← Tx.read fun db => db.events.any fun e => e.eventId == event.eventId || event.sameSource e
    Tx.check (conflict = false) .noResult
    insertNormalizedEvent event

/-- Insert unless the merchant's own event is there. Event ids are the table's primary key: one that another merchant's
event has is refused. -/
def persistMerchantEvent (event : NormalizedEvent) : Transaction Unit := do
  let existing ← Tx.read fun db => db.events.find? event.sameSource
  match existing with
  | some _ => pure ()
  | none => do
    let taken ← Tx.read fun db => db.events.any fun e => e.eventId == event.eventId
    Tx.check (taken = false) (.integrity "normalized_events_pkey")
    insertNormalizedEvent event

/-- Rows the merchant's own systems keep: consents, invoices and declared incidents. -/
inductive MerchantRow where
  | consent (row : ConsentRow)
  | invoice (row : InvoiceRow)
  | incident (row : IncidentRow)

def ConsentRow.id (r : ConsentRow) : Identifier × Identifier × ContactChannel := (r.merchantId, r.customerId, r.channel)

def InvoiceRow.id (r : InvoiceRow) : Identifier × Identifier := (r.merchantId, r.invoiceId)

def IncidentRow.id (r : IncidentRow) : Identifier × Identifier := (r.merchantId, r.incident.incidentId)

def putMerchantRow : MerchantRow → Transaction Unit
  | .consent row => Tx.write fun db => { db with consents := upsert ConsentRow.id (fun _ _ => true) row db.consents }
  | .invoice row => Tx.write fun db => { db with invoices := upsert InvoiceRow.id (fun _ _ => true) row db.invoices }
  | .incident row => Tx.write fun db => { db with incidents := upsert IncidentRow.id (fun _ _ => true) row db.incidents }

end RevenueGuard
