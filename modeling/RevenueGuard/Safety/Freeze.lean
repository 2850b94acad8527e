import RevenueGuard.Protocol.Apart
import RevenueGuard.Safety.OneContact

/-
Frozen invoices. An invoice whose automation is frozen, or whose promise was
broken, stands at a status the policy stops at, as long as no overdue event is
applied to it and no promise is taken on an invoice that is not yet overdue.
-/
namespace RevenueGuard

variable {db db' : Database} {rt : Runtime} {t : Instant}

/-- A policy check on the invoice's facts stops the case. -/
def InvoiceStatus.Stops (s : InvoiceStatus) : Prop :=
  paidStatus (some s.value) = true ∨ disputedStatus (some s.value) = true ∨ cancelledStatus (some s.value) = true

instance (s : InvoiceStatus) : Decidable s.Stops := inferInstanceAs (Decidable (_ ∨ _))

theorem InvoiceStatus.stops_iff (s : InvoiceStatus) : s.Stops ↔ s ∈ [.disputed, .escalated, .cancelled, .paid] := by
  cases s <;> decide +kernel

theorem InvoiceStatus.live_or_stops (s : InvoiceStatus) : s = .opened ∨ s = .overdue ∨ s = .promised ∨ s.Stops := by
  rw [s.stops_iff]
  cases s <;> simp

theorem InvoiceStatus.Stops.settled {s : InvoiceStatus} (stops : s.Stops) : s ∉ [.opened, .overdue] := by
  rw [s.stops_iff] at stops
  revert stops
  cases s <;> decide

def PromiseRow.invoice (p : PromiseRow) : Identifier × Identifier := (p.merchantId, p.invoiceId)

/-- Some promise on the invoice has this status. -/
def Database.Holds (db : Database) (s : PromiseStatus) (id : Identifier × Identifier) : Prop :=
  ∃ p ∈ db.promises, p.invoice = id ∧ p.status = s

instance (db : Database) (s : PromiseStatus) (id : Identifier × Identifier) : Decidable (db.Holds s id) :=
  inferInstanceAs (Decidable (∃ p ∈ db.promises, _))

def InvoiceRow.Frozen (row : InvoiceRow) (db : Database) : Prop :=
  row.automationFrozenAt.isSome = true ∨ db.Holds .broken row.id

instance (row : InvoiceRow) (db : Database) : Decidable (row.Frozen db) := inferInstanceAs (Decidable (_ ∨ _))

/-- Frozen only where the policy stops, and under an active promise neither open nor overdue. -/
def InvoiceRow.Kept (row : InvoiceRow) (db : Database) : Prop :=
  (row.Frozen db → row.status.Stops) ∧ (db.Holds .active row.id → row.status ∉ [.opened, .overdue])

instance (row : InvoiceRow) (db : Database) : Decidable (row.Kept db) := inferInstanceAs (Decidable (_ ∧ _))

structure Invoiced (db : Database) : Prop where
  kept : ∀ row ∈ db.invoices, row.Kept db
  known : ∀ p ∈ db.promises, ∃ row ∈ db.invoices, row.id = p.invoice
  single : ∀ p ∈ db.promises, ∀ q ∈ db.promises, p.promiseId = q.promiseId → p.invoice = q.invoice

section rows

variable {id : Identifier × Identifier} {s : PromiseStatus}

theorem mem_updateInvoice (id : Identifier × Identifier) {f : InvoiceRow → InvoiceRow} {row' : InvoiceRow}
    (member : row' ∈ (updateInvoice id.1 id.2 f db).invoices) :
    ∃ row ∈ db.invoices, (row.id = id ∧ row' = f row) ∨ (row.id ≠ id ∧ row' = row) := by
  obtain ⟨row, old, same⟩ := List.mem_map.mp member
  refine ⟨row, old, ?_⟩
  split at same
  · rename_i here
    exact .inl ⟨Prod.ext here.1 here.2, same.symm⟩
  · rename_i away
    refine .inr ⟨fun here => away ?_, same.symm⟩
    rw [← here]
    exact ⟨rfl, rfl⟩

theorem updateInvoice_ids (id : Identifier × Identifier) {f : InvoiceRow → InvoiceRow} (keeps : ∀ row, (f row).id = row.id) :
    (updateInvoice id.1 id.2 f db).invoices.map InvoiceRow.id = db.invoices.map InvoiceRow.id := by
  simp only [updateInvoice, List.map_map]
  refine List.map_congr_left fun row _ => ?_
  simp only [Function.comp_apply]
  split
  · exact keeps row
  · rfl

theorem Holds.of_terms (same : db'.promises.map PromiseRow.terms = db.promises.map PromiseRow.terms)
    (held : db'.Holds s id) : db.Holds s id := by
  obtain ⟨p, member, invoice, status⟩ := held
  have listed : p.terms ∈ db.promises.map PromiseRow.terms := same ▸ List.mem_map_of_mem member
  obtain ⟨q, old, terms⟩ := List.mem_map.mp listed
  simp only [PromiseRow.terms, Prod.mk.injEq] at terms
  refine ⟨q, old, ?_, terms.2.2.2.1.trans status⟩
  rw [← invoice, PromiseRow.invoice, PromiseRow.invoice, terms.1, terms.2.2.1]

theorem InvoiceRow.Kept.mono {row : InvoiceRow} (kept : row.Kept db)
    (fewer : ∀ s, s = .broken ∨ s = .active → db'.Holds s row.id → db.Holds s row.id) : row.Kept db' :=
  ⟨fun frozen => kept.1 (frozen.imp (fun stamped => stamped) (fewer _ (.inl rfl))), fun active => kept.2 (fewer _ (.inr rfl) active)⟩

end rows

namespace Invoiced

/-- Nothing here reads more of a promise than its terms. -/
theorem congr (inv : Invoiced db) (invoices : db'.invoices = db.invoices)
    (promises : db'.promises.map PromiseRow.terms = db.promises.map PromiseRow.terms) : Invoiced db' := by
  have back : ∀ p ∈ db'.promises, ∃ q ∈ db.promises, q.promiseId = p.promiseId ∧ q.invoice = p.invoice := by
    intro p member
    have listed : p.terms ∈ db.promises.map PromiseRow.terms := promises ▸ List.mem_map_of_mem member
    obtain ⟨q, old, terms⟩ := List.mem_map.mp listed
    simp only [PromiseRow.terms, Prod.mk.injEq] at terms
    exact ⟨q, old, terms.2.1, Prod.ext terms.1 terms.2.2.1⟩
  refine ⟨fun row member => ?_, fun p member => ?_, fun p here q there same => ?_⟩
  · rw [invoices] at member
    exact (inv.kept row member).mono fun s _ held => Holds.of_terms promises held
  · obtain ⟨q, old, -, invoice⟩ := back p member
    rw [invoices, ← invoice]
    exact inv.known q old
  · obtain ⟨p', old, named, invoice⟩ := back p here
    obtain ⟨q', old', named', invoice'⟩ := back q there
    rw [← invoice, ← invoice']
    exact inv.single p' old q' old' (by rw [named, named', same])

theorem update (inv : Invoiced db) (id : Identifier × Identifier) {f : InvoiceRow → InvoiceRow}
    (keeps : ∀ row, (f row).id = row.id) (kept : ∀ row ∈ db.invoices, row.id = id → (f row).Kept db) :
    Invoiced (updateInvoice id.1 id.2 f db) := by
  refine ⟨fun row' member => ?_, fun p member => ?_, inv.single⟩
  · obtain ⟨row, old, ⟨here, rfl⟩ | ⟨-, rfl⟩⟩ := mem_updateInvoice _ member
    · exact kept row old here
    · exact inv.kept row' old
  · obtain ⟨row, old, invoice⟩ := inv.known p member
    have listed : p.invoice ∈ (updateInvoice id.1 id.2 f db).invoices.map InvoiceRow.id := by
      rw [updateInvoice_ids id keeps, ← invoice]
      exact List.mem_map_of_mem old
    obtain ⟨row', new, named⟩ := List.mem_map.mp listed
    exact ⟨row', new, named⟩

/-- Promises may end, but break only where the policy stops. -/
theorem endPromises {p : PromiseRow → Bool} {f : PromiseRow → PromiseRow} (inv : Invoiced db)
    (keeps : ∀ r, (f r).promiseId = r.promiseId ∧ (f r).invoice = r.invoice) (ends : ∀ r, (f r).status ≠ .active)
    (broken : ∀ r ∈ db.promises, p r = true → (f r).status = .broken →
      ∀ row ∈ db.invoices, row.id = r.invoice → row.status.Stops) : Invoiced (updatePromises p f db) := by
  have back : ∀ r' ∈ (updatePromises p f db).promises, ∃ r ∈ db.promises, r'.promiseId = r.promiseId ∧
      r'.invoice = r.invoice ∧ (r' = r ∨ (p r = true ∧ r' = f r)) := by
    intro r' member
    obtain ⟨r, old, same⟩ := List.mem_map.mp member
    split at same
    · rename_i chosen
      subst same
      exact ⟨r, old, (keeps r).1, (keeps r).2, .inr ⟨chosen, rfl⟩⟩
    · subst same
      exact ⟨r, old, rfl, rfl, .inl rfl⟩
  refine ⟨fun row member => ⟨fun frozen => ?_, fun active => ?_⟩, fun r' member => ?_, fun p' here q' there same => ?_⟩
  · rcases frozen with stamped | ⟨r', new, invoice, status⟩
    · exact (inv.kept row member).1 (.inl stamped)
    · obtain ⟨r, old, -, same, rfl | ⟨chosen, rfl⟩⟩ := back r' new
      · exact (inv.kept row member).1 (.inr ⟨r', old, invoice, status⟩)
      · exact broken r old chosen status row member (invoice.symm.trans same)
  · obtain ⟨r', new, invoice, status⟩ := active
    obtain ⟨r, old, -, -, rfl | ⟨-, rfl⟩⟩ := back r' new
    · exact (inv.kept row member).2 ⟨r', old, invoice, status⟩
    · exact absurd status (ends r)
  · obtain ⟨r, old, -, same, -⟩ := back r' member
    rw [same]
    exact inv.known r old
  · obtain ⟨r, old, named, invoice, -⟩ := back p' here
    obtain ⟨r₂, old₂, named₂, invoice₂, -⟩ := back q' there
    rw [invoice, invoice₂]
    exact inv.single r old r₂ old₂ (by rw [← named, ← named₂, same])

theorem addPromise {p : PromiseRow} (inv : Invoiced db) (new : ∀ q ∈ db.promises, q.promiseId ≠ p.promiseId)
    (known : ∃ row ∈ db.invoices, row.id = p.invoice) (active : p.status = .active)
    (kept : ∀ row ∈ db.invoices, row.id = p.invoice → row.status ∉ [.opened, .overdue]) :
    Invoiced { db with promises := db.promises ++ [p] } := by
  have old_or : ∀ q ∈ db.promises ++ [p], q ∈ db.promises ∨ q = p := by simp
  refine ⟨fun row member => ⟨fun frozen => ?_, fun held => ?_⟩, fun q member => ?_, fun q here q' there same => ?_⟩
  · rcases frozen with stamped | ⟨q, listed, invoice, status⟩
    · exact (inv.kept row member).1 (.inl stamped)
    · rcases old_or q listed with old | rfl
      · exact (inv.kept row member).1 (.inr ⟨q, old, invoice, status⟩)
      · rw [active] at status
        cases status
  · obtain ⟨q, listed, invoice, status⟩ := held
    rcases old_or q listed with old | rfl
    · exact (inv.kept row member).2 ⟨q, old, invoice, status⟩
    · exact kept row member invoice.symm
  · rcases old_or q member with old | rfl
    · exact inv.known q old
    · exact known
  · rcases old_or q here with old | rfl <;> rcases old_or q' there with old' | rfl
    · exact inv.single q old q' old' same
    · exact absurd same (new q old)
    · exact absurd same.symm (new q' old')
    · rfl

theorem addInvoice {row : InvoiceRow} (inv : Invoiced db) (kept : row.Kept db) :
    Invoiced { db with invoices := db.invoices ++ [row] } := by
  refine ⟨fun row' member => ?_, fun p member => ?_, inv.single⟩
  · rcases List.mem_append.mp member with old | new
    · exact inv.kept row' old
    · rw [List.mem_singleton] at new
      rw [new]
      exact kept
  · obtain ⟨row', old, invoice⟩ := inv.known p member
    exact ⟨row', List.mem_append_left _ old, invoice⟩

end Invoiced

section commands

/-- The overdue event is as new as the invoice's last update, and no status of the invoice keeps it out. -/
def InvoiceRow.Reopens (row : InvoiceRow) (occurredAt : Instant) : Prop :=
  row.providerUpdatedAt ≤ occurredAt ∧ row.status ∉ [.paid, .disputed, .cancelled]

instance (row : InvoiceRow) (occurredAt : Instant) : Decidable (row.Reopens occurredAt) := inferInstanceAs (Decidable (_ ∧ _))

/-- The reply is understood as a promise. -/
def promisesToPay (reply : Option PromiseExtraction) (body : String) : Bool := match extractPromise reply body with
  | .ok extraction => extraction.intent == .promiseToPay
  | .error _ => false

/-- An overdue event applied to an invoice that is frozen or promised, a promise taken on an invoice still open, or a
row of the merchant's own that undoes a freeze. -/
def Command.Thaws : Command → Database → Prop
  | .recordOverdueInvoice m _ o occurredAt _, db =>
    ∃ row ∈ db.invoices, row.id = (m, o.invoiceId) ∧ row.Reopens occurredAt ∧ (row.Frozen db ∨ db.Holds .active row.id)
  | .recordCustomerResponse m _ invoiceId body reply _, db =>
    promisesToPay reply body = true ∧ ∃ row ∈ db.invoices, row.id = (m, invoiceId) ∧ row.status = .opened
  | .putMerchantRow (.invoice row), db => ¬ row.Kept db
  | _, _ => False

instance (c : Command) (db : Database) : Decidable (c.Thaws db) :=
  match c with
  | .recordOverdueInvoice .. => by unfold Command.Thaws; infer_instance
  | .recordCustomerResponse .. => by unfold Command.Thaws; infer_instance
  | .putMerchantRow (.invoice _) => by unfold Command.Thaws; infer_instance
  | .putMerchantRow (.consent _) | .putMerchantRow (.incident _) | .registerMerchant .. | .upsertCustomer ..
  | .upsertPayment .. | .upsertSubscription .. | .persistNormalizedEvent .. | .publishPolicy ..
  | .applyDegradationAssessment .. | .processEvent .. | .reevaluateDeferred .. | .decideReview ..
  | .closeExpiredCustomerInterventions .. | .scheduleDuePromiseReminders .. | .escalateBrokenPromises ..
  | .claimDueActions .. | .prepareExecution .. | .recordExecutionResult .. | .markStaleCallsUnknown ..
  | .recordLookup .. | .verifySignedEvent .. => isFalse not_false

theorem InvoiceRow.overdue_id (o : OverdueInvoice) (at_ : Instant) (row : InvoiceRow) : (row.overdue o at_).id = row.id := by
  unfold InvoiceRow.overdue
  split <;> rfl

theorem InvoiceRow.freeze_id (s : InvoiceStatus) (from_ : List InvoiceStatus) (at_ : Instant) (row : InvoiceRow) :
    (row.freeze s from_ at_).id = row.id := by
  unfold InvoiceRow.freeze
  split <;> rfl

theorem InvoiceRow.promised_id (row : InvoiceRow) : row.promised.id = row.id := by
  unfold InvoiceRow.promised
  split <;> rfl

/-- An overdue event leaves every frozen and every promised invoice as it is, unless it thaws. -/
theorem overdue_same {o : OverdueInvoice} {row : InvoiceRow} {at_ : Instant}
    (kept : ¬ (row.Reopens at_ ∧ (row.Frozen db ∨ db.Holds .active row.id))) (held : row.Frozen db ∨ db.Holds .active row.id) :
    row.overdue o at_ = row := by
  unfold InvoiceRow.overdue
  rw [if_neg]
  exact fun reopens => kept ⟨reopens, held⟩

theorem overdue_kept {o : OverdueInvoice} {row : InvoiceRow} {at_ : Instant} (before : row.Kept db)
    (kept : ¬ (row.Reopens at_ ∧ (row.Frozen db ∨ db.Holds .active row.id))) : (row.overdue o at_).Kept db := by
  by_cases held : row.Frozen db ∨ db.Holds .active row.id
  · rw [overdue_same kept held]
    exact before
  · have frozen : (row.overdue o at_).automationFrozenAt = row.automationFrozenAt := by
      unfold InvoiceRow.overdue
      split <;> rfl
    obtain ⟨thawed, free⟩ := not_or.mp held
    refine ⟨fun still => absurd ?_ thawed, fun active => absurd ?_ free⟩
    · rw [InvoiceRow.Frozen, InvoiceRow.overdue_id, frozen] at still
      exact still
    · rw [InvoiceRow.overdue_id] at active
      exact active

theorem freeze_kept {s : InvoiceStatus} {from_ : List InvoiceStatus} {row : InvoiceRow} (stops : s.Stops)
    (before : row.Kept db) : (row.freeze s from_ t).Kept db := by
  unfold InvoiceRow.freeze
  split
  · exact ⟨fun _ => stops, fun _ => stops.settled⟩
  · exact before

theorem promised_kept {row : InvoiceRow} (before : row.Kept db) : row.promised.Kept db := by
  unfold InvoiceRow.promised
  split
  · rename_i overdue
    refine ⟨fun frozen => ?_, fun _ => by simp⟩
    have stops := before.1 frozen
    rw [overdue] at stops
    exact absurd stops (by decide +kernel)
  · exact before

/-- An overdue event either rewrites the invoice it names or brings in a new one. -/
theorem upsertOverdueInvoice_ok {m : Identifier} {o : OverdueInvoice} {u : Unit}
    (h : (upsertOverdueInvoice m o t).run db = .ok (u, db')) :
    db' = updateInvoice m o.invoiceId (InvoiceRow.overdue o t) db ∨
      (∀ row ∈ db.invoices, row.id ≠ (m, o.invoiceId)) ∧ ∃ row : InvoiceRow, row.id = (m, o.invoiceId) ∧
        row.automationFrozenAt = none ∧ db' = { db with invoices := db.invoices ++ [row] } := by
  obtain ⟨known, _, read, h⟩ := Tx.bind_ok h
  obtain ⟨-, rfl⟩ := Tx.read_ok read
  obtain ⟨existing, _, read, h⟩ := Tx.bind_ok h
  obtain ⟨found, rfl⟩ := Tx.read_ok read
  obtain ⟨_, _, checked, h⟩ := Tx.bind_ok h
  obtain ⟨-, rfl⟩ := Tx.check_ok checked
  cases existing with
  | some row => exact .inl (Tx.write_ok h)
  | none =>
    obtain ⟨_, _, checked, h⟩ := Tx.bind_ok h
    obtain ⟨-, rfl⟩ := Tx.check_ok checked
    refine .inr ⟨fun row member same => ?_, _, rfl, rfl, Tx.write_ok h⟩
    have none_found := List.find?_eq_none.mp found.symm row member
    simp only [InvoiceRow.id, Prod.mk.injEq] at same
    simp [same] at none_found

theorem upsertOverdueInvoice_invoiced {m : Identifier} {o : OverdueInvoice} {u : Unit} (inv : Invoiced db)
    (calm : ∀ row ∈ db.invoices, row.id = (m, o.invoiceId) → ¬ (row.Reopens t ∧ (row.Frozen db ∨ db.Holds .active row.id)))
    (h : (upsertOverdueInvoice m o t).run db = .ok (u, db')) : Invoiced db' := by
  rcases upsertOverdueInvoice_ok h with rfl | ⟨absent, row, named, fresh, rfl⟩
  · exact inv.update (m, o.invoiceId) (InvoiceRow.overdue_id o t) fun row member here =>
      overdue_kept (inv.kept row member) (calm row member here)
  · have unheld (s : PromiseStatus) : ¬ db.Holds s row.id := by
      rintro ⟨p, member, invoice, -⟩
      obtain ⟨row', old, same⟩ := inv.known p member
      exact absent row' old (by rw [same, invoice, named])
    refine inv.addInvoice ⟨fun frozen => ?_, fun active => absurd active (unheld _)⟩
    rcases frozen with stamped | broken
    · rw [fresh] at stamped
      cases stamped
    · exact absurd broken (unheld _)

theorem Invoiced.apart (inv : Invoiced db) (apart : Termed db db') : Invoiced db' :=
  inv.congr apart.invoices apart.promises

theorem Apart.frozen {row : InvoiceRow} (apart : Apart db db') (frozen : row.Frozen db') : row.Frozen db :=
  frozen.imp (fun stamped => stamped) (Holds.of_terms apart.promises)

theorem recordOverdueInvoice_invoiced {m : Identifier} {source : String} {o : OverdueInvoice} {t t' : Instant} {u : Unit}
    (inv : Invoiced db) (calm : ¬ (Command.recordOverdueInvoice m source o t t').Thaws db)
    (h : (recordOverdueInvoice m source o t t').run db = .ok (u, db')) : Invoiced db' := by
  obtain ⟨_, d1, recorded, h⟩ := Tx.bind_ok h
  obtain ⟨_, d2, upserted, persisted⟩ := Tx.bind_ok h
  have apart := recordMerchantEvent_apart m source o _ _ _ recorded
  refine (upsertOverdueInvoice_invoiced (inv.apart apart.toTermed) (fun row member here ⟨reopens, held⟩ => calm ?_) upserted).apart
    (persistMerchantEvent_spared _ _ _ _ persisted).apart.toTermed
  rw [apart.invoices] at member
  exact ⟨row, member, here, reopens, held.imp apart.frozen (Holds.of_terms apart.promises)⟩

theorem storePromise_invoiced {promise : PromiseToPay} {u : Unit} (inv : Invoiced db)
    (known : ∃ row ∈ db.invoices, row.id = (promise.merchantId, promise.invoiceId))
    (late : ∀ row ∈ db.invoices, row.id = (promise.merchantId, promise.invoiceId) → row.status ≠ .opened)
    (h : (storePromise promise).run db = .ok (u, db')) : Invoiced db' := by
  obtain ⟨existing, _, read, h⟩ := Tx.bind_ok h
  obtain ⟨found, rfl⟩ := Tx.read_ok read
  cases existing with
  | some row =>
    obtain ⟨-, rfl⟩ := Tx.pure_ok h
    exact inv
  | none =>
    obtain ⟨_, d1, stored, h⟩ := Tx.bind_ok h
    rw [Tx.write_ok h, Tx.write_ok stored]
    have moved := inv.update (promise.merchantId, promise.invoiceId) InvoiceRow.promised_id fun row member _ =>
      promised_kept (inv.kept row member)
    refine moved.addPromise (p := promise.row) (fun q member same => ?_) ?_ rfl fun row member here => ?_
    · have none_found := List.find?_eq_none.mp found.symm q member
      exact none_found (decide_eq_true same)
    · obtain ⟨row, member, here⟩ := known
      have listed : (promise.merchantId, promise.invoiceId) ∈ (updateInvoice promise.merchantId promise.invoiceId
          InvoiceRow.promised db).invoices.map InvoiceRow.id := by
        rw [updateInvoice_ids (promise.merchantId, promise.invoiceId) InvoiceRow.promised_id, ← here]
        exact List.mem_map_of_mem member
      obtain ⟨row', new, named⟩ := List.mem_map.mp listed
      exact ⟨row', new, named⟩
    · obtain ⟨before, old, ⟨same, rfl⟩ | ⟨away, rfl⟩⟩ :=
        mem_updateInvoice (promise.merchantId, promise.invoiceId) member
      · have notOpen := late before old same
        unfold InvoiceRow.promised
        split
        · simp
        · rename_i notOverdue
          simp [notOpen, notOverdue]
      · exact absurd here away

theorem freezeAndEscalate_invoiced {row : ReceivableEscalationRow} {s : InvoiceStatus} {from_ : List InvoiceStatus}
    {ended : PromiseStatus} {u : Unit} (inv : Invoiced db) (stops : s.Stops) (over_ : ended ≠ .active ∧ ended ≠ .broken)
    (h : (freezeAndEscalate row s from_ ended).run db = .ok (u, db')) : Invoiced db' := by
  obtain ⟨_, d1, frozen, h⟩ := Tx.bind_ok h
  obtain ⟨_, d2, closed, escalated⟩ := Tx.bind_ok h
  refine Invoiced.apart ?_ (storeReceivableEscalation_termed escalated)
  rw [Tx.write_ok closed, Tx.write_ok frozen]
  have moved := inv.update (row.merchantId, row.invoiceId) (InvoiceRow.freeze_id s from_ row.createdAt)
    fun invoice member _ => freeze_kept stops (inv.kept invoice member)
  exact moved.endPromises (fun _ => ⟨rfl, rfl⟩) (fun _ => over_.1) fun _ _ _ broke => absurd broke over_.2

theorem applyResponse_invoiced {response : CustomerResponseRow} {invoice : InvoiceRow} {extraction : PromiseExtraction}
    {out : CustomerResponseResult} (inv : Invoiced db)
    (known : ∃ row ∈ db.invoices, row.id = (response.responseId.merchantId, response.invoiceId))
    (late : extraction.intent = .promiseToPay → ∀ row ∈ db.invoices,
      row.id = (response.responseId.merchantId, response.invoiceId) → row.status ≠ .opened)
    (h : (applyResponse response invoice extraction).run db = .ok (out, db')) : Invoiced db' := by
  unfold applyResponse at h
  dsimp only at h
  split at h
  · rename_i intent
    obtain ⟨promise, _, lifted, h⟩ := Tx.bind_ok h
    obtain ⟨created, rfl⟩ := Tx.lift_ok lifted
    obtain ⟨_, d1, stored, h⟩ := Tx.bind_ok h
    obtain ⟨-, rfl⟩ := Tx.pure_ok h
    obtain ⟨tenant, -, named⟩ := createPromise_parties created
    refine storePromise_invoiced inv ?_ ?_ stored
    · rw [tenant, named]
      exact known
    · rw [tenant, named]
      exact late intent
  · obtain ⟨_, d1, frozen, h⟩ := Tx.bind_ok h
    obtain ⟨-, rfl⟩ := Tx.pure_ok h
    exact freezeAndEscalate_invoiced inv (by decide +kernel) (by decide) frozen
  · obtain ⟨_, d1, frozen, h⟩ := Tx.bind_ok h
    obtain ⟨-, rfl⟩ := Tx.pure_ok h
    exact freezeAndEscalate_invoiced inv (by decide +kernel) (by decide) frozen
  · obtain ⟨_, d1, escalated, h⟩ := Tx.bind_ok h
    obtain ⟨-, rfl⟩ := Tx.pure_ok h
    exact inv.apart (storeReceivableEscalation_termed escalated)

theorem recordCustomerResponse_invoiced {m invoiceId : Identifier} {source body : String} {reply : Option PromiseExtraction}
    {out : CustomerResponseResult} (inv : Invoiced db)
    (calm : ¬ (Command.recordCustomerResponse m source invoiceId body reply t).Thaws db)
    (h : (recordCustomerResponse m source invoiceId body reply t).run db = .ok (out, db')) : Invoiced db' := by
  obtain ⟨_, _, read, h⟩ := Tx.bind_ok h
  obtain ⟨rfl, rfl⟩ := Tx.read_ok read
  obtain ⟨invoice, _, invoiced, h⟩ := Tx.bind_ok h
  obtain ⟨found, rfl⟩ := Tx.found_ok invoiced
  obtain ⟨_, _, read, h⟩ := Tx.bind_ok h
  obtain ⟨-, rfl⟩ := Tx.read_ok read
  obtain ⟨case, _, active, h⟩ := Tx.bind_ok h
  obtain ⟨-, rfl⟩ := Tx.found_ok active
  obtain ⟨extraction, _, lifted, h⟩ := Tx.bind_ok h
  obtain ⟨understood, rfl⟩ := Tx.lift_ok lifted
  obtain ⟨stored, d1, store, h⟩ := Tx.bind_ok h
  have apart := storeCustomerResponse_termed store
  split at h
  · rename_i new
    have same := (storeCustomerResponse_ambient store).2 new
    have here : (stored.1.responseId.merchantId, stored.1.invoiceId) = (m, invoiceId) := by rw [same]
    refine applyResponse_invoiced (inv.apart apart) ?_ (fun intent row member named opened => calm ?_) h
    · rw [here, apart.invoices]
      have listed := List.find?_some found
      simp only [decide_eq_true_eq] at listed
      exact ⟨invoice, List.mem_of_find?_eq_some found, Prod.ext listed.1 listed.2⟩
    · rw [apart.invoices] at member
      refine ⟨?_, row, member, named.trans here, opened⟩
      unfold promisesToPay
      rw [understood]
      exact beq_iff_eq.mpr intent
  · obtain ⟨-, rfl⟩ := Tx.pure_ok h
    exact inv.apart apart

/-- A promise about to be broken or fulfilled: stored under its invoice, which is no longer open or overdue. -/
structure Maturing (promise : PromiseRow) (db : Database) : Prop where
  stored : ∃ q ∈ db.promises, q.promiseId = promise.promiseId ∧ q.invoice = promise.invoice
  settling : ∀ row ∈ db.invoices, row.id = promise.invoice → row.status ∉ [.opened, .overdue]

theorem Maturing.updatePromises {promise : PromiseRow} {p : PromiseRow → Bool} {f : PromiseRow → PromiseRow}
    (maturing : Maturing promise db) (keeps : ∀ r, (f r).promiseId = r.promiseId ∧ (f r).invoice = r.invoice) :
    Maturing promise (updatePromises p f db) := by
  obtain ⟨q, member, named, invoice⟩ := maturing.stored
  refine ⟨⟨_, List.mem_map_of_mem member, ?_⟩, maturing.settling⟩
  split
  · rw [(keeps q).1, (keeps q).2]
    exact ⟨named, invoice⟩
  · exact ⟨named, invoice⟩

theorem Maturing.freeze {promise : PromiseRow} (maturing : Maturing promise db) (id : Identifier × Identifier) :
    Maturing promise (updateInvoice id.1 id.2 (InvoiceRow.freeze .escalated [.promised] t) db) := by
  refine ⟨maturing.stored, fun row member here => ?_⟩
  obtain ⟨before, old, ⟨-, rfl⟩ | ⟨-, rfl⟩⟩ := mem_updateInvoice _ member
  · rw [InvoiceRow.freeze_id] at here
    have settling := maturing.settling before old here
    unfold InvoiceRow.freeze
    split
    · simp
    · exact settling
  · exact maturing.settling row old here

theorem Maturing.apart {promise : PromiseRow} (maturing : Maturing promise db) (apart : Termed db db') :
    Maturing promise db' := by
  obtain ⟨q, member, named, invoice⟩ := maturing.stored
  have listed : q.terms ∈ db'.promises.map PromiseRow.terms := apart.promises ▸ List.mem_map_of_mem member
  obtain ⟨q', new, terms⟩ := List.mem_map.mp listed
  simp only [PromiseRow.terms, Prod.mk.injEq] at terms
  refine ⟨⟨q', new, terms.2.1.trans named, ?_⟩, by rw [apart.invoices]; exact maturing.settling⟩
  rw [← invoice, PromiseRow.invoice, PromiseRow.invoice, terms.1, terms.2.2.1]

/-- Freezing the promised invoice leaves none of its rows live. -/
theorem frozen_stops {id : Identifier × Identifier}
    (settling : ∀ row ∈ db.invoices, row.id = id → row.status ∉ [.opened, .overdue]) :
    ∀ row ∈ (updateInvoice id.1 id.2 (InvoiceRow.freeze .escalated [.promised] t) db).invoices, row.id = id →
      row.status.Stops := by
  intro row member here
  obtain ⟨before, old, ⟨same, rfl⟩ | ⟨away, rfl⟩⟩ := mem_updateInvoice _ member
  · have unsettled := settling before old same
    unfold InvoiceRow.freeze
    split
    · exact (InvoiceStatus.stops_iff .escalated).mpr (by decide)
    · rename_i unpromised
      rcases before.status.live_or_stops with e | e | e | stops
      · exact absurd (by simp [e]) unsettled
      · exact absurd (by simp [e]) unsettled
      · exact absurd (by simp [e]) unpromised
      · exact stops
  · exact absurd here away

/-- Breaking a promise freezes its invoice, and fulfilling one needs it paid. -/
theorem escalateBrokenPromise_invoiced {promise : PromiseRow} {out : PromiseMaintenanceResult} (inv : Invoiced db)
    (maturing : Maturing promise db) (h : (escalateBrokenPromise t promise).run db = .ok (out, db')) :
    Invoiced db' ∧ ∀ other, Maturing other db → Maturing other db' := by
  obtain ⟨q, member, named, about⟩ := maturing.stored
  have owned : ∀ r ∈ db.promises, decide (r.promiseId = promise.promiseId) = true → r.invoice = promise.invoice :=
    fun r old chosen => (inv.single r old q member ((of_decide_eq_true chosen).trans named.symm)).trans about
  obtain ⟨_, _, read, h⟩ := Tx.bind_ok h
  obtain ⟨rfl, rfl⟩ := Tx.read_ok read
  obtain ⟨invoice, _, found, h⟩ := Tx.bind_ok h
  obtain ⟨-, rfl⟩ := Tx.found_ok found
  split at h
  · obtain ⟨_, d1, fulfilled, h⟩ := Tx.bind_ok h
    obtain ⟨-, rfl⟩ := Tx.pure_ok h
    rw [Tx.write_ok fulfilled]
    refine ⟨inv.endPromises (fun _ => ⟨rfl, rfl⟩) (fun _ active => ?_) (fun _ _ _ broke => ?_), fun other maturing =>
      maturing.updatePromises fun _ => ⟨rfl, rfl⟩⟩
    · cases active
    · cases broke
  · obtain ⟨_, d1, broken, h⟩ := Tx.bind_ok h
    obtain ⟨_, d2, frozen, h⟩ := Tx.bind_ok h
    obtain ⟨_, d3, escalated, h⟩ := Tx.bind_ok h
    obtain ⟨-, rfl⟩ := Tx.pure_ok h
    have apart := storeReceivableEscalation_termed escalated
    refine ⟨Invoiced.apart ?_ apart, fun other maturing => Maturing.apart ?_ apart⟩
    · rw [Tx.write_ok frozen, Tx.write_ok broken]
      have moved := inv.update promise.invoice (InvoiceRow.freeze_id .escalated [.promised] t)
        fun row member _ => freeze_kept (by decide +kernel) (inv.kept row member)
      exact moved.endPromises (fun _ => ⟨rfl, rfl⟩) (fun _ active => by cases active) fun r old chosen _ row member here =>
        frozen_stops maturing.settling row member (here.trans (owned r old chosen))
    · rw [Tx.write_ok frozen, Tx.write_ok broken]
      have ended := maturing.updatePromises (p := fun r => decide (r.promiseId = promise.promiseId))
        (f := fun r => { r with status := .broken, brokenAt := some t, updatedAt := t }) fun _ => ⟨rfl, rfl⟩
      exact ended.freeze promise.invoice

theorem escalateEach_invoiced {rows : List PromiseRow} {out : List PromiseMaintenanceResult} (inv : Invoiced db)
    (maturing : ∀ promise ∈ rows, Maturing promise db)
    (h : (Tx.each (escalateBrokenPromise t) rows).run db = .ok (out, db')) : Invoiced db' := by
  induction rows generalizing db out with
  | nil =>
    obtain ⟨-, rfl⟩ := Tx.pure_ok h
    exact inv
  | cons promise rest ih =>
    obtain ⟨_, d1, first, h⟩ := Tx.bind_ok h
    obtain ⟨_, d2, others, h⟩ := Tx.bind_ok h
    obtain ⟨-, rfl⟩ := Tx.pure_ok h
    obtain ⟨kept, still⟩ := escalateBrokenPromise_invoiced inv (maturing promise List.mem_cons_self) first
    exact ih kept (fun other member => still other (maturing other (List.mem_cons_of_mem _ member))) others

theorem escalateBrokenPromises_invoiced {limit : Nat} {out : List PromiseMaintenanceResult} (inv : Invoiced db)
    (h : (escalateBrokenPromises rt t limit).run db = .ok (out, db')) : Invoiced db' := by
  obtain ⟨_, _, checked, h⟩ := Tx.bind_ok h
  obtain ⟨-, rfl⟩ := Tx.check_ok checked
  obtain ⟨_, _, read, h⟩ := Tx.bind_ok h
  obtain ⟨rfl, rfl⟩ := Tx.read_ok read
  refine escalateEach_invoiced inv (fun promise due => ?_) h
  have listed := (List.mem_insertionSort _).mp (List.mem_of_mem_take due)
  obtain ⟨member, chosen⟩ := List.mem_filter.mp listed
  simp only [Bool.and_eq_true, decide_eq_true_eq] at chosen
  exact ⟨⟨promise, member, rfl, rfl⟩, fun row stored here =>
    (inv.kept row stored).2 ⟨promise, member, here.symm, chosen.1⟩⟩

theorem putInvoice_invoiced {row : InvoiceRow} {u : Unit} (inv : Invoiced db) (kept : row.Kept db)
    (h : (putMerchantRow (.invoice row)).run db = .ok (u, db')) : Invoiced db' := by
  rw [Tx.write_ok h]
  refine ⟨fun row' member => ?_, fun p member => ?_, inv.single⟩
  · change row' ∈ upsert InvoiceRow.id (fun _ _ => true) row db.invoices at member
    rcases mem_upsert member with old | rfl
    · exact inv.kept row' old
    · exact kept
  · obtain ⟨before, old, invoice⟩ := inv.known p member
    have replaced : ∃ after ∈ upsert InvoiceRow.id (fun _ _ => true) row db.invoices, after.id = before.id := upsert_key old
    obtain ⟨after, new, same⟩ := replaced
    exact ⟨after, new, same.trans invoice⟩

theorem exec_invoiced (c : Command) (inv : Invoiced db) (calm : ¬ c.Thaws db) : Invoiced (exec rt c db) := by
  by_cases concerns : c.Concerns
  · cases c with
    | putMerchantRow row =>
      refine Tx.commit_relates (R := fun _ => Invoiced) inv fun h => ?_
      cases row with
      | consent row =>
        rw [Tx.write_ok h]
        exact inv.congr rfl rfl
      | invoice row => exact putInvoice_invoiced inv (not_not.mp calm) h
      | incident row =>
        rw [Tx.write_ok h]
        exact inv.congr rfl rfl
    | applyDegradationAssessment a policy id =>
      refine Tx.commit_relates (R := fun _ => Invoiced) inv fun h => ?_
      have papers := applyDegradationAssessment_papers a policy id _ _ _ h
      exact inv.congr papers.invoices (by rw [papers.promises])
    | recordOverdueInvoice m source o t t' =>
      exact Tx.commit_relates (R := fun _ => Invoiced) inv (recordOverdueInvoice_invoiced inv calm)
    | recordCustomerResponse m source invoiceId body reply t =>
      exact Tx.commit_relates (R := fun _ => Invoiced) inv (recordCustomerResponse_invoiced inv calm)
    | escalateBrokenPromises t limit =>
      exact Tx.commit_relates (R := fun _ => Invoiced) inv (escalateBrokenPromises_invoiced inv)
    | _ => exact absurd concerns id
  · exact inv.apart (exec_apart c db concerns).toTermed

end commands

section runs

theorem invoiced_invariant (reach : ReachableUnder rt (fun c db => ¬ c.Thaws db) db) : Invoiced db :=
  Runs.Reaches.invariant Invoiced reach
    ⟨fun _ member => (List.not_mem_nil member).elim, fun _ member => (List.not_mem_nil member).elim,
      fun _ member => (List.not_mem_nil member).elim⟩ fun c _ inv calm => exec_invoiced c inv calm

/-- An overdue event that does not thaw leaves every frozen and every promised invoice as it is. -/
theorem exec_overdue {m : Identifier} {source : String} {o : OverdueInvoice} {t t' : Instant} {row : InvoiceRow}
    (calm : ¬ (Command.recordOverdueInvoice m source o t t').Thaws db) (member : row ∈ db.invoices)
    (held : row.Frozen db ∨ db.Holds .active row.id) :
    row ∈ (exec rt (.recordOverdueInvoice m source o t t') db).invoices := by
  refine Tx.commit_relates (R := fun _ (s : Database) => row ∈ s.invoices) member fun h => ?_
  obtain ⟨_, d1, recorded, h⟩ := Tx.bind_ok h
  obtain ⟨_, d2, upserted, persisted⟩ := Tx.bind_ok h
  rw [(persistMerchantEvent_spared _ _ _ _ persisted).apart.invoices]
  have apart := recordMerchantEvent_apart m source o _ _ _ recorded
  have stored := member
  rw [← apart.invoices] at member
  rcases upsertOverdueInvoice_ok upserted with rfl | ⟨-, new, -, -, rfl⟩
  · refine List.mem_map.mpr ⟨row, member, ?_⟩
    split
    · rename_i here
      exact overdue_same (fun ⟨reopens, _⟩ => calm ⟨row, stored, Prod.ext here.1 here.2, reopens, held⟩) held
    · rfl
  · exact List.mem_append_left _ member

theorem frozen_until_settled (reach : ReachableUnder rt (fun c db => ¬ c.Thaws db) db) :
    (∀ row ∈ db.invoices, row.Frozen db → row.status.Stops ∧ row.status ∈ [.disputed, .escalated, .cancelled, .paid]) ∧
      ∀ (m : Identifier) (source : String) (o : OverdueInvoice) (occurredAt receivedAt : Instant),
        ¬ (Command.recordOverdueInvoice m source o occurredAt receivedAt).Thaws db →
        ∀ row ∈ db.invoices, row.Frozen db ∨ db.Holds .active row.id →
          row ∈ (exec rt (.recordOverdueInvoice m source o occurredAt receivedAt) db).invoices := by
  refine ⟨fun row member frozen => ?_, fun m source o occurredAt receivedAt calm row member held =>
    exec_overdue calm member held⟩
  have stops := ((invoiced_invariant reach).kept row member).1 frozen
  exact ⟨stops, row.status.stops_iff.mp stops⟩

def claimedPaid : PromiseExtraction :=
  { intent := .alreadyPaid, confidenceBasisPoints := basisPoints 9000, terms_iff := by decide }

/-- An overdue invoice and its case; the customer then says that it is paid. -/
def frozenInvoice : List Command :=
  reachable1 ++ [.recordOverdueInvoice acme "overdue-1" overdue1 5 5,
    .processEvent (drawn "receipt-1") acme (invoiceEventId acme "overdue-1") (ident "case-1") 10,
    .recordCustomerResponse acme "reply-1" (ident "inv-1") "I have paid this" (some claimedPaid) 20]

set_option maxRecDepth 100000 in
theorem frozen_until_settled_reply :
    (∀ row ∈ (execAll {} frozenInvoice {}).invoices, row.Frozen (execAll {} frozenInvoice {}) →
      row.status.Stops ∧ row.status ∈ [.disputed, .escalated, .cancelled, .paid]) ∧
      ∀ row ∈ (execAll {} frozenInvoice {}).invoices,
        row.Frozen (execAll {} frozenInvoice {}) ∨ (execAll {} frozenInvoice {}).Holds .active row.id →
          row ∈ (exec {} (.recordOverdueInvoice acme "overdue-2" overdue1 4 30) (execAll {} frozenInvoice {})).invoices := by
  have reach : ReachableUnder {} (fun c db => ¬ c.Thaws db) (execAll {} frozenInvoice {}) :=
    Runs.reaches_allowed (by decide +kernel)
  have settled := frozen_until_settled reach
  exact ⟨settled.1, settled.2 acme "overdue-2" overdue1 4 30 (by decide +kernel)⟩

set_option maxRecDepth 100000 in
theorem thawed_by_redelivery : ¬ ∀ (rt : Runtime) (db : Database), Reachable rt db →
    ∀ row ∈ db.invoices, row.Frozen db → row.status.Stops := by
  intro stopping
  have thawed : ∃ row ∈ (execAll {} (frozenInvoice ++ [.recordOverdueInvoice acme "overdue-1" overdue1 5 30]) {}).invoices,
      row.Frozen (execAll {} (frozenInvoice ++ [.recordOverdueInvoice acme "overdue-1" overdue1 5 30]) {}) ∧
        ¬ row.status.Stops := by decide +kernel
  obtain ⟨row, member, frozen, live⟩ := thawed
  exact live (stopping {} _ (reachable_execAll {} _) row member frozen)

end runs

end RevenueGuard
