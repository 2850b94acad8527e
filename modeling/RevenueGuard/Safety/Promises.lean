import RevenueGuard.Safety.Freeze

/-
Replies and promises over a run. A reply is stored once and makes one promise or
one escalation; a promise keeps its id, its invoice and its day, and is broken by
nothing but the maintenance run for broken promises.
-/
namespace RevenueGuard

variable {db d db' : Database} {rt : Runtime} {t : Instant}

section rows

/-- What a promise that is not being broken becomes. -/
structure PromiseRow.Ages (r r' : PromiseRow) : Prop where
  promiseId : r'.promiseId = r.promiseId
  invoice : r'.invoice = r.invoice
  promisedFor : r'.promisedFor = r.promisedFor
  brokenAt : r'.brokenAt = r.brokenAt
  unbroken : r'.status = .broken → r.status = .broken

theorem PromiseRow.Ages.refl (r : PromiseRow) : r.Ages r := ⟨rfl, rfl, rfl, rfl, id⟩

theorem PromiseRow.Ages.trans {a b c : PromiseRow} (h : a.Ages b) (h' : b.Ages c) : a.Ages c :=
  ⟨h'.promiseId.trans h.promiseId, h'.invoice.trans h.invoice, h'.promisedFor.trans h.promisedFor,
    h'.brokenAt.trans h.brokenAt, fun broken => h.unbroken (h'.unbroken broken)⟩

def PromiseRow.label (p : PromiseRow) : PromiseId × Identifier × Identifier := (p.promiseId, p.invoice)

structure PromisesAge (db db' : Database) : Prop where
  labels : db'.promises.map PromiseRow.label = db.promises.map PromiseRow.label
  back : ∀ r' ∈ db'.promises, ∃ r ∈ db.promises, r.Ages r'

theorem PromisesAge.refl (db : Database) : PromisesAge db db := ⟨rfl, fun r member => ⟨r, member, .refl r⟩⟩

theorem PromisesAge.trans (h : PromisesAge db d) (h' : PromisesAge d db') : PromisesAge db db' := by
  refine ⟨h'.labels.trans h.labels, fun r' member => ?_⟩
  obtain ⟨r, member, aged⟩ := h'.back r' member
  obtain ⟨r₀, member, older⟩ := h.back r member
  exact ⟨r₀, member, older.trans aged⟩

theorem PromisesAge.of_promises (same : db'.promises = db.promises) : PromisesAge db db' := by
  constructor
  · rw [same]
  · intro r member
    rw [same] at member
    exact ⟨r, member, .refl r⟩

theorem Termed.promisesAge (termed : Termed db db') : PromisesAge db db' := by
  constructor
  · have labels := congrArg (List.map fun terms => (terms.2.1, terms.1, terms.2.2.1)) termed.promises
    rw [List.map_map, List.map_map] at labels
    exact labels
  · intro r' member
    have listed : r'.terms ∈ db.promises.map PromiseRow.terms := termed.promises ▸ List.mem_map_of_mem member
    obtain ⟨r, old, terms⟩ := List.mem_map.mp listed
    simp only [PromiseRow.terms, Prod.mk.injEq] at terms
    obtain ⟨merchant, id, invoice, status, day, brokenAt⟩ := terms
    refine ⟨r, old, id.symm, ?_, day.symm, brokenAt.symm, fun broken => status.trans broken⟩
    rw [PromiseRow.invoice, PromiseRow.invoice, merchant, invoice]

theorem updatePromises_labels {p : PromiseRow → Bool} {f : PromiseRow → PromiseRow} (keeps : ∀ r, (f r).label = r.label) :
    (updatePromises p f db).promises.map PromiseRow.label = db.promises.map PromiseRow.label := by
  simp only [updatePromises, List.map_map]
  refine List.map_congr_left fun r _ => ?_
  simp only [Function.comp_apply]
  split
  · exact keeps r
  · rfl

theorem updatePromises_age {p : PromiseRow → Bool} {f : PromiseRow → PromiseRow} (ages : ∀ r : PromiseRow, r.Ages (f r)) :
    PromisesAge db (updatePromises p f db) := by
  constructor
  · exact updatePromises_labels fun r => Prod.ext (ages r).promiseId (ages r).invoice
  · intro r' member
    obtain ⟨r, old, rfl⟩ := List.mem_map.mp member
    refine ⟨r, old, ?_⟩
    split
    · exact ages r
    · exact .refl r

theorem updateInvoice_age {m i : Identifier} {f : InvoiceRow → InvoiceRow} : PromisesAge db (updateInvoice m i f db) :=
  .of_promises rfl

theorem endPromises_age {m i : Identifier} {s : PromiseStatus} (notBroken : s ≠ .broken) :
    PromisesAge db (endPromises m i s t db) :=
  updatePromises_age fun _ => ⟨rfl, rfl, rfl, rfl, fun broken => absurd broken notBroken⟩

end rows

section made

/-- The promise of these parties on these terms. -/
def PromiseParties.promise (parties : PromiseParties) (terms : PromiseTerms) (confidence : BasisPoints)
    (receivedAt : Instant) : PromiseToPay :=
  { promiseId := parties.promiseId
    merchantId := parties.merchantId
    caseId := parties.caseId
    invoiceId := parties.invoiceId
    customerId := parties.customerId
    amountMinor := terms.amountMinor
    currency := terms.currency
    promisedFor := terms.promisedDate
    reminderAt := max receivedAt (dayStart terms.promisedDate - seconds 86400)
    extractionConfidence := confidence
    createdAt := receivedAt }

/-- The terms are in the invoice's currency, within its amount and not past, under an id that a promise can have. -/
structure PromiseTerms.Fit (terms : PromiseTerms) (n : Nat) (c : Currency) (sourceResponseId : String) (receivedAt : Instant) :
    Prop where
  currency : terms.currency = c
  amount : terms.amountMinor ≤ n
  day : receivedAt / 86400000000 ≤ terms.promisedDate
  named : sourceResponseId ≠ "" ∧ sourceResponseId.length ≤ 128

theorem PromiseTerms.fit_iff {terms : PromiseTerms} {n : Nat} {c : Currency} {source : String} : terms.Fit n c source t ↔
    terms.currency = c ∧ terms.amountMinor ≤ n ∧ t / 86400000000 ≤ terms.promisedDate ∧ source ≠ "" ∧ source.length ≤ 128 :=
  ⟨fun h => ⟨h.currency, h.amount, h.day, h.named⟩, fun ⟨c, n, day, named⟩ => ⟨c, n, day, named⟩⟩

instance (terms : PromiseTerms) (n : Nat) (c : Currency) (source : String) (t : Instant) : Decidable (terms.Fit n c source t) :=
  decidable_of_iff _ PromiseTerms.fit_iff.symm

theorem createPromise_iff {parties : PromiseParties} {n : Nat} {c : Currency} {e : PromiseExtraction}
    {promise : PromiseToPay} : createPromise parties n c e t = .ok promise ↔ e.intent = .promiseToPay ∧
      ∃ terms, e.terms = some terms ∧ terms.Fit n c parties.promiseId.sourceResponseId t ∧
        promise = parties.promise terms e.confidenceBasisPoints t := by
  have days (a b : Int) : dayStart a ≤ dayStart b ↔ a ≤ b := by
    change a * 86400000000 ≤ b * 86400000000 ↔ a ≤ b
    omega
  constructor
  · intro h
    unfold createPromise at h
    obtain ⟨_, intent, h⟩ := except_bind_ok h
    split at h
    · cases h
    · rename_i terms named
      obtain ⟨_, same, h⟩ := except_bind_ok h
      obtain ⟨_, within, h⟩ := except_bind_ok h
      obtain ⟨_, lead, h⟩ := except_bind_ok h
      obtain ⟨_, later, h⟩ := except_bind_ok h
      obtain ⟨_, valid, h⟩ := except_bind_ok h
      cases h
      exact ⟨require_ok intent, terms, named, ⟨require_ok same, require_ok within, (days _ _).mp (require_ok later),
        require_ok valid⟩, rfl⟩
  · rintro ⟨intent, terms, named, ⟨same, within, later, valid⟩, rfl⟩
    unfold createPromise require
    rw [named, if_pos intent]
    dsimp only [bind, Except.bind]
    rw [if_pos same, if_pos within, if_pos (by decide), if_pos ((days _ _).mpr later), if_pos valid]
    rfl

end made

section replies

variable {m invoiceId : Identifier} {source body : String} {reply : Option PromiseExtraction}
  {out : CustomerResponseResult} {invoice : InvoiceRow} {row : CaseRow} {extraction : PromiseExtraction}

/-- The reply as it is stored. -/
def replyRow (merchantId : Identifier) (sourceResponseId : String) (invoice : InvoiceRow) (row : CaseRow) (body : String)
    (extraction : PromiseExtraction) (receivedAt : Instant) : CustomerResponseRow :=
  { responseId := ⟨merchantId, sourceResponseId⟩
    caseId := row.case.caseId
    invoiceId := invoice.invoiceId
    customerId := invoice.customerId
    body := body
    intent := extraction.intent
    receivedAt := receivedAt }

def Database.response (db : Database) (id : ResponseToken) : Option CustomerResponseRow :=
  Table.lookup (·.responseId) id db.responses

def Database.promise (db : Database) (id : PromiseId) : Option PromiseRow :=
  Table.lookup (·.promiseId) id db.promises

theorem invoice_id (found : db.invoice m invoiceId = some invoice) : invoice ∈ db.invoices ∧ invoice.id = (m, invoiceId) := by
  have here := List.find?_some found
  simp only [decide_eq_true_eq] at here
  exact ⟨List.mem_of_find?_eq_some found, Prod.ext here.1 here.2⟩

variable (t source) in
theorem recordCustomerResponse_run (found : db.invoice m invoiceId = some invoice)
    (active : findActiveCase m (invoiceIdentity m invoiceId) db = some row)
    (understood : extractPromise reply body = .ok extraction) (storable : ReplyStorable source extraction) :
    (recordCustomerResponse m source invoiceId body reply t).run db = match db.response ⟨m, source⟩ with
      | none => (applyResponse (replyRow m source invoice row body extraction t) invoice extraction).run
          { db with responses := db.responses ++ [replyRow m source invoice row body extraction t] }
      | some earlier =>
        if earlier.body = body then
          .ok ({ responseId := earlier.responseId, caseId := row.case.caseId, intent := earlier.intent
                 disposition := "DUPLICATE_RESPONSE" }, db)
        else .error (.recoveryPersistence "CUSTOMER_RESPONSE_ID_CONFLICT"
          "source response ID already identifies a different body") := by
  obtain ⟨-, here⟩ := invoice_id found
  have same : invoice.invoiceId = invoiceId := congrArg Prod.snd here
  unfold recordCustomerResponse recordExtractedResponse
  rw [Tx.bind_of_ok (Tx.run_read _ _), found, Tx.bind_of_ok (Tx.run_found_some _ _ _), Tx.bind_of_ok (Tx.run_read _ _), active,
    Tx.bind_of_ok (Tx.run_found_some _ _ _), understood, Tx.bind_of_ok (Tx.run_lift_ok _ _), replyRow, same]
  unfold Database.response Table.lookup storeCustomerResponse
  rw [Tx.run_bind, Tx.bind_of_ok (Tx.check_of storable), Tx.bind_of_ok (Tx.run_read _ _)]
  dsimp only
  cases db.responses.find? fun r => decide (r.responseId = ⟨m, source⟩) with
  | none => rfl
  | some earlier =>
    dsimp only
    by_cases repeated : earlier.body = body
    · rw [Tx.bind_of_ok (Tx.check_of repeated), if_pos repeated]
      rfl
    · rw [if_neg repeated, Tx.bind_of_error (by rw [Tx.run_check, if_neg repeated])]

/-- A reply that commits was about a stored invoice with an active case, and had something to say. -/
theorem recordCustomerResponse_ok (h : (recordCustomerResponse m source invoiceId body reply t).run db = .ok (out, db')) :
    ∃ invoice row extraction, db.invoice m invoiceId = some invoice ∧
      findActiveCase m (invoiceIdentity m invoiceId) db = some row ∧ extractPromise reply body = .ok extraction ∧
      ReplyStorable source extraction := by
  obtain ⟨_, _, read, h⟩ := Tx.bind_ok h
  obtain ⟨rfl, rfl⟩ := Tx.read_ok read
  obtain ⟨invoice, _, invoiced, h⟩ := Tx.bind_ok h
  obtain ⟨found, rfl⟩ := Tx.found_ok invoiced
  obtain ⟨_, _, read, h⟩ := Tx.bind_ok h
  obtain ⟨rfl, rfl⟩ := Tx.read_ok read
  obtain ⟨row, _, selected, h⟩ := Tx.bind_ok h
  obtain ⟨active, rfl⟩ := Tx.found_ok selected
  obtain ⟨extraction, _, lifted, h⟩ := Tx.bind_ok h
  obtain ⟨understood, rfl⟩ := Tx.lift_ok lifted
  obtain ⟨_, _, stored, -⟩ := Tx.bind_ok h
  obtain ⟨_, _, checked, -⟩ := Tx.bind_ok stored
  exact ⟨invoice, row, extraction, found, active, understood, (Tx.check_ok checked).1⟩

variable {response : CustomerResponseRow} {promise : PromiseToPay}

def CustomerResponseRow.parties (response : CustomerResponseRow) (invoice : InvoiceRow) : PromiseParties :=
  ⟨response.responseId, response.responseId.merchantId, response.caseId, response.invoiceId, invoice.customerId⟩

/-- A promise stored once, and its invoice promised. -/
def keepPromise (promise : PromiseToPay) (db : Database) : Database :=
  if db.promise promise.promiseId = none then
    updateInvoice promise.merchantId promise.invoiceId InvoiceRow.promised
      { db with promises := db.promises ++ [promise.row] }
  else db

theorem keepPromise_responses (promise : PromiseToPay) (db : Database) : (keepPromise promise db).responses = db.responses := by
  unfold keepPromise
  split <;> rfl

theorem keepPromise_escalations (promise : PromiseToPay) (db : Database) :
    (keepPromise promise db).escalations = db.escalations := by
  unfold keepPromise
  split <;> rfl

theorem keepPromise_new (new : db.promise promise.promiseId = none) :
    (keepPromise promise db).promises = db.promises ++ [promise.row] := by
  unfold keepPromise
  rw [if_pos new]
  rfl

theorem storePromise_run (promise : PromiseToPay) (db : Database) :
    (storePromise promise).run db = .ok ((), keepPromise promise db) := by
  unfold storePromise keepPromise Database.promise Table.lookup
  rw [Tx.bind_of_ok (Tx.run_read _ _)]
  cases db.promises.find? fun r => decide (r.promiseId = promise.promiseId) with
  | none => rfl
  | some existing => rfl

theorem applyResponse_promise (intent : extraction.intent = .promiseToPay) :
    (applyResponse response invoice extraction).run db =
      (createPromise (response.parties invoice) invoice.outstandingAmountMinor invoice.currency extraction
        response.receivedAt).map fun promise =>
          ({ responseId := response.responseId, caseId := response.caseId, intent := extraction.intent
             disposition := "PROMISE_SCHEDULED", promiseId := some promise.promiseId }, keepPromise promise db) := by
  unfold applyResponse
  dsimp only
  rw [intent]
  dsimp only
  change Tx.run (Tx.lift (createPromise (response.parties invoice) _ _ _ _) >>= _) db = _
  cases createPromise (response.parties invoice) invoice.outstandingAmountMinor invoice.currency extraction
      response.receivedAt with
  | error e => rfl
  | ok promise =>
    rw [Tx.bind_of_ok (Tx.run_lift_ok _ _), Tx.bind_of_ok (storePromise_run promise db)]
    rfl

/-- What a reply that is no promise does to its invoice and the promises on it. -/
def freezeFor (response : CustomerResponseRow) (intent : PromiseIntent) (db : Database) : Database :=
  let merchantId := response.responseId.merchantId
  match intent with
  | .dispute => endPromises merchantId response.invoiceId .disputed response.receivedAt
      (updateInvoice merchantId response.invoiceId (InvoiceRow.freeze .disputed allInvoiceStatuses response.receivedAt) db)
  | .alreadyPaid => endPromises merchantId response.invoiceId .cancelled response.receivedAt
      (updateInvoice merchantId response.invoiceId
        (InvoiceRow.freeze .escalated [.opened, .overdue, .promised] response.receivedAt) db)
  | _ => db

def CustomerResponseRow.escalation (response : CustomerResponseRow) (intent : PromiseIntent) : ReceivableEscalationRow :=
  { escalationId := .response response.responseId
    responseId := response.responseId
    merchantId := response.responseId.merchantId
    caseId := response.caseId
    invoiceId := response.invoiceId
    reasonCode := match intent with
      | .dispute => "CUSTOMER_DISPUTE"
      | .alreadyPaid => "CUSTOMER_REPORTED_ALREADY_PAID"
      | _ => "CUSTOMER_RESPONSE_REQUIRES_REVIEW"
    createdAt := response.receivedAt }

theorem freezeAndEscalate_run (row : ReceivableEscalationRow) (s : InvoiceStatus) (from_ : List InvoiceStatus)
    (ended : PromiseStatus) (db : Database) : (freezeAndEscalate row s from_ ended).run db = .ok ((),
      escalate row (endPromises row.merchantId row.invoiceId ended row.createdAt
        (updateInvoice row.merchantId row.invoiceId (InvoiceRow.freeze s from_ row.createdAt) db))) := by
  unfold freezeAndEscalate
  rw [Tx.bind_of_ok (Tx.run_write _ _), Tx.bind_of_ok (Tx.run_write _ _), storeReceivableEscalation_run]

variable (response invoice db) in
theorem applyResponse_escalation (notPromise : extraction.intent ≠ .promiseToPay) :
    ∃ out, (applyResponse response invoice extraction).run db = .ok (out,
      escalate (response.escalation extraction.intent) (freezeFor response extraction.intent db)) := by
  unfold applyResponse
  dsimp only
  cases intent : extraction.intent with
  | promiseToPay => exact absurd intent notPromise
  | dispute => exact ⟨_, Tx.bind_of_ok (freezeAndEscalate_run _ _ _ _ _)⟩
  | alreadyPaid => exact ⟨_, Tx.bind_of_ok (freezeAndEscalate_run _ _ _ _ _)⟩
  | needsHelp => exact ⟨_, Tx.bind_of_ok (storeReceivableEscalation_run _ _)⟩
  | unknown => exact ⟨_, Tx.bind_of_ok (storeReceivableEscalation_run _ _)⟩

theorem freezeFor_age (intent : PromiseIntent) : PromisesAge db (freezeFor response intent db) := by
  unfold freezeFor
  dsimp only
  split
  · exact updateInvoice_age.trans (endPromises_age (by decide))
  · exact updateInvoice_age.trans (endPromises_age (by decide))
  · exact .refl db

/-- The promise that a reply makes, if it makes one. -/
def promiseMade (merchantId : Identifier) (sourceResponseId : String) (invoiceId : Identifier) (body : String)
    (reply : Option PromiseExtraction) (receivedAt : Instant) (db : Database) : Option PromiseToPay := do
  let invoice ← db.invoice merchantId invoiceId
  let row ← findActiveCase merchantId (invoiceIdentity merchantId invoiceId) db
  let extraction ← (extractPromise reply body).toOption
  if ReplyStorable sourceResponseId extraction ∧ db.response ⟨merchantId, sourceResponseId⟩ = none ∧
      db.promise ⟨merchantId, sourceResponseId⟩ = none then
    (createPromise ((replyRow merchantId sourceResponseId invoice row body extraction receivedAt).parties invoice)
      invoice.outstandingAmountMinor invoice.currency extraction receivedAt).toOption
  else none

/-- A reply that commits ages the promises, but for the one it makes. -/
theorem recordCustomerResponse_promises (h : (recordCustomerResponse m source invoiceId body reply t).run db = .ok (out, db')) :
    PromisesAge db db' ∨ ∃ promise, promiseMade m source invoiceId body reply t db = some promise ∧
      db'.promises = db.promises ++ [promise.row] := by
  obtain ⟨invoice, row, extraction, found, active, understood, storable⟩ := recordCustomerResponse_ok h
  rw [recordCustomerResponse_run _ _ found active understood storable] at h
  cases absent : db.response ⟨m, source⟩ with
  | some earlier =>
    rw [absent] at h
    dsimp only at h
    split at h
    · cases h
      exact .inl (.refl db)
    · cases h
  | none =>
    rw [absent] at h
    dsimp only at h
    by_cases intent : extraction.intent = .promiseToPay
    · rw [applyResponse_promise intent] at h
      cases created : createPromise ((replyRow m source invoice row body extraction t).parties invoice)
          invoice.outstandingAmountMinor invoice.currency extraction t with
      | error e =>
        rw [show (replyRow m source invoice row body extraction t).receivedAt = t from rfl, created] at h
        cases h
      | ok promise =>
        rw [show (replyRow m source invoice row body extraction t).receivedAt = t from rfl, created] at h
        cases h
        obtain ⟨-, terms, -, -, made⟩ := createPromise_iff.mp created
        have id : promise.promiseId = ⟨m, source⟩ := by rw [made]; rfl
        by_cases unmade : db.promise ⟨m, source⟩ = none
        · refine .inr ⟨promise, ?_, ?_⟩
          · unfold promiseMade
            simp only [found, active, understood, Except.toOption, Option.bind_eq_bind, Option.bind_some]
            rw [if_pos ⟨storable, absent, unmade⟩, created]
          · unfold keepPromise
            rw [if_pos (by rw [id]; exact unmade)]
            rfl
        · refine .inl (.of_promises ?_)
          unfold keepPromise
          rw [if_neg (by rw [id]; exact unmade)]
    · obtain ⟨out', ran⟩ := applyResponse_escalation
        { db with responses := db.responses ++ [replyRow m source invoice row body extraction t] }
        invoice (replyRow m source invoice row body extraction t)
        intent
      rw [ran] at h
      cases h
      have stored : PromisesAge db { db with responses := db.responses ++ [replyRow m source invoice row body extraction t] } :=
        .of_promises rfl
      exact .inl (stored.trans ((freezeFor_age _).trans (escalate_termed _ _).promisesAge))

end replies

section answered

/-- Every promise and every escalation answers a stored reply, and replies and promises are about stored invoices. -/
structure Answered (db : Database) : Prop where
  promiseIds : (db.promises.map (·.promiseId)).Nodup
  responseIds : (db.responses.map (·.responseId)).Nodup
  escalationIds : (db.escalations.map (·.responseId)).Nodup
  invoiced : ∀ p ∈ db.promises, p.invoice ∈ db.invoices.map InvoiceRow.id
  promised : ∀ p ∈ db.promises, p.promiseId ∈ db.responses.map (·.responseId)
  raised : ∀ e ∈ db.escalations, e.responseId ∈ db.responses.map (·.responseId)
  billed : ∀ r ∈ db.responses, (r.responseId.merchantId, r.invoiceId) ∈ db.invoices.map InvoiceRow.id
  written : ∀ r ∈ db.responses, r.body.toList.all stripped = false
  sized : ∀ r ∈ db.responses, r.responseId.sourceResponseId.length ≤ 256

/-- Invoices stay stored, promises keep their labels, replies and escalations stay as they are. -/
structure Carries (db db' : Database) : Prop where
  invoices : ∀ k ∈ db.invoices.map InvoiceRow.id, k ∈ db'.invoices.map InvoiceRow.id
  labels : db'.promises.map PromiseRow.label = db.promises.map PromiseRow.label
  responses : db'.responses = db.responses
  escalations : db'.escalations = db.escalations

theorem Carries.trans (h : Carries db d) (h' : Carries d db') : Carries db db' :=
  ⟨fun k stored => h'.invoices k (h.invoices k stored), h'.labels.trans h.labels, h'.responses.trans h.responses,
    h'.escalations.trans h.escalations⟩

theorem Apart.carries (apart : Apart db db') : Carries db db' :=
  ⟨by rw [apart.invoices]; exact fun _ => id, apart.promisesAge.labels, apart.responses, apart.escalations⟩

theorem updateInvoice_carries (k : Identifier × Identifier) {f : InvoiceRow → InvoiceRow}
    (keeps : ∀ row, (f row).id = row.id) : Carries db (updateInvoice k.1 k.2 f db) :=
  ⟨by rw [updateInvoice_ids k keeps]; exact fun _ => id, rfl, rfl, rfl⟩

theorem updatePromises_carries {p : PromiseRow → Bool} {f : PromiseRow → PromiseRow} (keeps : ∀ r, (f r).label = r.label) :
    Carries db (updatePromises p f db) :=
  ⟨fun _ => id, updatePromises_labels keeps, rfl, rfl⟩

theorem freezeFor_carries (response : CustomerResponseRow) (intent : PromiseIntent) (db : Database) :
    Carries db (freezeFor response intent db) := by
  unfold freezeFor
  dsimp only
  split
  · exact (updateInvoice_carries (_, _) (InvoiceRow.freeze_id _ _ _)).trans (updatePromises_carries fun _ => rfl)
  · exact (updateInvoice_carries (_, _) (InvoiceRow.freeze_id _ _ _)).trans (updatePromises_carries fun _ => rfl)
  · exact ⟨fun _ => id, rfl, rfl, rfl⟩

namespace Answered

theorem carries (inv : Answered db) (h : Carries db db') : Answered db' := by
  have ids : db'.promises.map (·.promiseId) = db.promises.map (·.promiseId) := by
    have same := congrArg (List.map Prod.fst) h.labels
    rw [List.map_map, List.map_map] at same
    exact same
  have back : ∀ p' ∈ db'.promises, ∃ p ∈ db.promises, p.label = p'.label := by
    intro p' member
    have listed : p'.label ∈ db.promises.map PromiseRow.label := h.labels ▸ List.mem_map_of_mem member
    exact List.mem_map.mp listed
  constructor
  · rw [ids]
    exact inv.promiseIds
  · rw [h.responses]
    exact inv.responseIds
  · rw [h.escalations]
    exact inv.escalationIds
  · intro p' member
    obtain ⟨p, old, same⟩ := back p' member
    rw [show p'.invoice = p.invoice from congrArg Prod.snd same.symm]
    exact h.invoices _ (inv.invoiced p old)
  · intro p' member
    obtain ⟨p, old, same⟩ := back p' member
    rw [show p'.promiseId = p.promiseId from congrArg Prod.fst same.symm, h.responses]
    exact inv.promised p old
  · rw [h.responses, h.escalations]
    exact inv.raised
  · rw [h.responses]
    exact fun r member => h.invoices _ (inv.billed r member)
  · rw [h.responses]
    exact inv.written
  · rw [h.responses]
    exact inv.sized

theorem reply (inv : Answered db) {r : CustomerResponseRow} (new : db.response r.responseId = none)
    (billed : (r.responseId.merchantId, r.invoiceId) ∈ db.invoices.map InvoiceRow.id)
    (written : r.body.toList.all stripped = false) (sized : r.responseId.sourceResponseId.length ≤ 256) :
    Answered { db with responses := db.responses ++ [r] } := by
  have more : ∀ k, k ∈ db.responses.map (·.responseId) → k ∈ (db.responses ++ [r]).map (·.responseId) := by
    intro k member
    rw [List.map_append]
    exact List.mem_append_left _ member
  refine { inv with responseIds := ?_, promised := ?_, raised := ?_, billed := ?_, written := ?_, sized := ?_ }
  · exact Table.nodup_append_new inv.responseIds new
  · exact fun p member => more _ (inv.promised p member)
  · exact fun e member => more _ (inv.raised e member)
  · intro r' member
    rcases List.mem_append.mp member with old | last
    · exact inv.billed r' old
    · rw [List.mem_singleton.mp last]
      exact billed
  · intro r' member
    rcases List.mem_append.mp member with old | last
    · exact inv.written r' old
    · rw [List.mem_singleton.mp last]
      exact written
  · intro r' member
    rcases List.mem_append.mp member with old | last
    · exact inv.sized r' old
    · rw [List.mem_singleton.mp last]
      exact sized

theorem escalate (inv : Answered db) {row : ReceivableEscalationRow}
    (replied : row.responseId ∈ db.responses.map (·.responseId)) : Answered (escalate row db) := by
  unfold RevenueGuard.escalate
  split
  · rename_i absent
    refine { inv with escalationIds := ?_, raised := ?_ }
    · exact Table.nodup_append_new inv.escalationIds absent
    · intro e member
      rcases List.mem_append.mp member with old | last
      · exact inv.raised e old
      · rw [List.mem_singleton.mp last]
        exact replied
  · exact inv

theorem promise (inv : Answered db) {p : PromiseToPay} (replied : p.promiseId ∈ db.responses.map (·.responseId))
    (invoiced : (p.merchantId, p.invoiceId) ∈ db.invoices.map InvoiceRow.id) : Answered (keepPromise p db) := by
  unfold keepPromise
  split
  · rename_i absent
    have kept : Answered { db with promises := db.promises ++ [p.row] } := by
      refine { inv with promiseIds := ?_, invoiced := ?_, promised := ?_ }
      · exact Table.nodup_append_new inv.promiseIds absent
      · intro q member
        rcases List.mem_append.mp member with old | last
        · exact inv.invoiced q old
        · rw [List.mem_singleton.mp last]
          exact invoiced
      · intro q member
        rcases List.mem_append.mp member with old | last
        · exact inv.promised q old
        · rw [List.mem_singleton.mp last]
          exact replied
    exact kept.carries (updateInvoice_carries (_, _) InvoiceRow.promised_id)
  · exact inv

end Answered

end answered

section matured

variable {promise : PromiseRow} {invoice : InvoiceRow} {k : Identifier × Identifier}

def PromiseRow.fulfil (at_ : Instant) (r : PromiseRow) : PromiseRow :=
  { r with status := .fulfilled, fulfilledAt := some at_, updatedAt := at_ }

def PromiseRow.breaks (at_ : Instant) (r : PromiseRow) : PromiseRow :=
  { r with status := .broken, brokenAt := some at_, updatedAt := at_ }

def PromiseRow.escalation (p : PromiseRow) (at_ : Instant) : ReceivableEscalationRow :=
  { escalationId := .brokenPromise p.promiseId
    responseId := p.promiseId
    merchantId := p.merchantId
    caseId := p.caseId
    invoiceId := p.invoiceId
    reasonCode := "BROKEN_PROMISE_TO_PAY"
    createdAt := at_ }

/-- A promise past its day: fulfilled with its invoice paid, otherwise broken and escalated. -/
def mature (at_ : Instant) (promise : PromiseRow) (status : InvoiceStatus) (db : Database) : Database :=
  if status = .paid then setPromise promise (PromiseRow.fulfil at_) db
  else escalate (promise.escalation at_) (updateInvoice promise.merchantId promise.invoiceId
    (InvoiceRow.freeze .escalated [.promised] at_) (setPromise promise (PromiseRow.breaks at_) db))

theorem escalateBrokenPromise_run (found : db.invoice promise.merchantId promise.invoiceId = some invoice) :
    ∃ out, (escalateBrokenPromise t promise).run db = .ok (out, mature t promise invoice.status db) := by
  unfold escalateBrokenPromise mature
  rw [Tx.bind_of_ok (Tx.run_read _ _), found, Tx.bind_of_ok (Tx.run_found_some _ _ _)]
  by_cases paid : invoice.status = .paid
  · rw [if_pos paid, if_pos paid, Tx.bind_of_ok (Tx.run_write _ _)]
    exact ⟨_, rfl⟩
  · rw [if_neg paid, if_neg paid, Tx.bind_of_ok (Tx.run_write _ _), Tx.bind_of_ok (Tx.run_write _ _),
      Tx.bind_of_ok (storeReceivableEscalation_run _ _)]
    exact ⟨_, rfl⟩

theorem escalate_promises (row : ReceivableEscalationRow) (db : Database) : (escalate row db).promises = db.promises := by
  unfold escalate
  split <;> rfl

theorem escalate_responses (row : ReceivableEscalationRow) (db : Database) : (escalate row db).responses = db.responses := by
  unfold escalate
  split <;> rfl

theorem mature_responses (status : InvoiceStatus) : (mature t promise status db).responses = db.responses := by
  unfold mature
  split
  · rfl
  · rw [escalate_responses]
    rfl

theorem mature_promises (status : InvoiceStatus) : (mature t promise status db).promises = db.promises.map fun r =>
    if r.promiseId = promise.promiseId then (if status = .paid then r.fulfil t else r.breaks t) else r := by
  unfold mature
  split
  · simp only [setPromise, updatePromises, decide_eq_true_eq]
  · rw [escalate_promises]
    simp only [setPromise, updatePromises, updateInvoice, decide_eq_true_eq]

theorem Database.invoice_eq (db : Database) (m i : Identifier) : db.invoice m i = Table.lookup InvoiceRow.id (m, i) db.invoices := by
  unfold Database.invoice Table.lookup
  congr 1
  funext r
  simp [InvoiceRow.id, Prod.ext_iff]

theorem invoice_stored : k ∈ db.invoices.map InvoiceRow.id ↔ ∃ row, db.invoice k.1 k.2 = some row := by
  rw [db.invoice_eq]
  constructor
  · intro listed
    obtain ⟨row, member, named⟩ := List.mem_map.mp listed
    exact Table.lookup_isSome member named
  · rintro ⟨row, found⟩
    exact List.mem_map.mpr ⟨row, Table.lookup_mem found, Table.lookup_key found⟩

/-- The invoice is stored as paid. -/
def Database.Paid (db : Database) (k : Identifier × Identifier) : Prop :=
  ∃ row, db.invoice k.1 k.2 = some row ∧ row.status = .paid

instance (db : Database) (k : Identifier × Identifier) : Decidable (db.Paid k) :=
  decidable_of_iff ((db.invoice k.1 k.2).any fun row => decide (row.status = .paid)) (by
    unfold Database.Paid
    cases db.invoice k.1 k.2 <;> simp)

/-- An update that neither pays nor unpays leaves the paid invoices as they were. -/
theorem updateInvoice_paid (db : Database) (k id : Identifier × Identifier) {f : InvoiceRow → InvoiceRow} (keeps : ∀ row, (f row).id = row.id)
    (same : ∀ row, (f row).status = .paid ↔ row.status = .paid) : (updateInvoice id.1 id.2 f db).Paid k ↔ db.Paid k := by
  have updated : (updateInvoice id.1 id.2 f db).invoices = Table.update InvoiceRow.id id f db.invoices := by
    unfold updateInvoice Table.update
    refine List.map_congr_left fun r _ => ?_
    simp [InvoiceRow.id, Prod.ext_iff]
  unfold Database.Paid
  rw [Database.invoice_eq, Database.invoice_eq, updated]
  by_cases here : (k.1, k.2) = id
  · rw [here, Table.lookup_update_self fun row named => (keeps row).trans named]
    cases Table.lookup InvoiceRow.id id db.invoices with
    | none => simp
    | some row => simp [same row]
  · rw [Table.lookup_update_ne (fun row named => (keeps row).trans named) here]

theorem mature_paid (status : InvoiceStatus) : (mature t promise status db).Paid k ↔ db.Paid k := by
  unfold mature
  split
  · exact Iff.rfl
  · have frozen := updateInvoice_paid (setPromise promise (PromiseRow.breaks t) db) k
      (promise.merchantId, promise.invoiceId) (InvoiceRow.freeze_id .escalated [.promised] t) fun row => by
        unfold InvoiceRow.freeze
        split
        · rename_i before
          rw [List.mem_singleton.mp before]
          simp
        · exact Iff.rfl
    unfold Database.Paid Database.invoice at frozen ⊢
    rw [(escalate_termed _ _).invoices]
    exact frozen

theorem mature_answered (status : InvoiceStatus) (inv : Answered db) (member : promise.promiseId ∈ db.responses.map (·.responseId)) :
    Answered (mature t promise status db) ∧
      ∀ k ∈ db.invoices.map InvoiceRow.id, k ∈ (mature t promise status db).invoices.map InvoiceRow.id := by
  unfold mature
  split
  · have carries : Carries db (setPromise promise (PromiseRow.fulfil t) db) := updatePromises_carries fun _ => rfl
    exact ⟨inv.carries carries, carries.invoices⟩
  · have broken : Carries db (setPromise promise (PromiseRow.breaks t) db) := updatePromises_carries fun _ => rfl
    have carries := broken.trans (updateInvoice_carries (promise.merchantId, promise.invoiceId)
      (InvoiceRow.freeze_id .escalated [.promised] t))
    refine ⟨(inv.carries carries).escalate member, ?_⟩
    rw [(escalate_termed _ _).invoices]
    exact carries.invoices

/-- What a batch of promises past their day makes of a promise. -/
def PromiseRow.matures (at_ : Instant) (batch : List PromiseRow) (db : Database) (r : PromiseRow) : PromiseRow :=
  if r.promiseId ∈ batch.map (·.promiseId) then (if db.Paid r.invoice then r.fulfil at_ else r.breaks at_) else r

theorem matures_none (db : Database) : PromiseRow.matures t [] db = id := by
  funext r
  unfold PromiseRow.matures
  rw [List.map_nil, if_neg List.not_mem_nil]
  rfl

theorem escalateEach_run {batch : List PromiseRow} (inv : Answered db) (listed : ∀ p ∈ batch, p ∈ db.promises)
    (distinct : (batch.map (·.promiseId)).Nodup) : ∃ out db', (Tx.each (escalateBrokenPromise t) batch).run db = .ok (out, db') ∧
      Answered db' ∧ db'.responses = db.responses ∧
      db'.promises = db.promises.map (PromiseRow.matures t batch db) := by
  induction batch generalizing db with
  | nil => exact ⟨[], db, rfl, inv, rfl, by rw [matures_none, List.map_id]⟩
  | cons p rest ih =>
    rw [List.map_cons, List.nodup_cons] at distinct
    have here := listed p List.mem_cons_self
    obtain ⟨invoice, found⟩ := invoice_stored.mp (inv.invoiced p here)
    obtain ⟨first, ran⟩ := escalateBrokenPromise_run (t := t) found
    obtain ⟨kept, -⟩ := mature_answered (t := t) invoice.status inv (inv.promised p here)
    have others : ∀ q ∈ rest, q ∈ (mature t p invoice.status db).promises := by
      intro q member
      have apart : q.promiseId ≠ p.promiseId := fun same => distinct.1 (same ▸ List.mem_map_of_mem member)
      rw [mature_promises, List.mem_map]
      exact ⟨q, listed q (List.mem_cons_of_mem _ member), by rw [if_neg apart]⟩
    obtain ⟨out, db', follows, kept', responses, promises⟩ := ih kept others distinct.2
    refine ⟨first :: out, db', ?_, kept', responses.trans (mature_responses _), ?_⟩
    · rw [Tx.each, Tx.bind_of_ok ran, Tx.bind_of_ok follows]
      rfl
    · rw [promises, mature_promises, List.map_map]
      refine List.map_congr_left fun r member => ?_
      simp only [Function.comp_apply, PromiseRow.matures, List.map_cons, List.mem_cons]
      by_cases same : r.promiseId = p.promiseId
      · obtain rfl := List.inj_on_of_nodup_map inv.promiseIds member here same
        have paid : db.Paid r.invoice ↔ invoice.status = .paid := by
          unfold Database.Paid
          rw [show db.invoice r.invoice.1 r.invoice.2 = some invoice from found]
          simp
        simp only [paid, true_or, if_true]
        split
        · exact if_neg distinct.1
        · exact if_neg distinct.1
      · rw [if_neg same]
        simp only [same, false_or, mature_paid]

theorem duePromises_listed {time : PromiseRow → Instant} {due : PromiseRow → Bool} {limit : Nat} :
    ∀ p ∈ duePromises rt time due limit db, p ∈ db.promises ∧ p.status = .active ∧ due p = true := by
  intro p member
  have sorted := (List.mem_insertionSort _).mp (List.mem_of_mem_take member)
  simpa using List.mem_filter.mp sorted

theorem duePromises_distinct (rt : Runtime) (time : PromiseRow → Instant) (due : PromiseRow → Bool) (limit : Nat) (inv : Answered db) :
    ((duePromises rt time due limit db).map (·.promiseId)).Nodup := by
  unfold duePromises
  rw [List.map_take]
  refine List.Nodup.sublist (List.take_sublist _ _) ?_
  rw [((List.perm_insertionSort _ _).map _).nodup_iff]
  exact inv.promiseIds.sublist (List.filter_sublist.map _)

/-- The promises past their day that a maintenance run picks. -/
def pastPromises (rt : Runtime) (at_ : Instant) (limit : Nat) (db : Database) : List PromiseRow :=
  duePromises rt (·.promisedFor) (fun r => decide (r.promisedFor < at_)) limit db

theorem escalateBrokenPromises_matures (rt : Runtime) (t : Instant) (limit : Nat) (inv : Answered db) :
    Answered (exec rt (.escalateBrokenPromises t limit) db) ∧
      (exec rt (.escalateBrokenPromises t limit) db).responses = db.responses ∧
      (exec rt (.escalateBrokenPromises t limit) db).promises =
        db.promises.map (PromiseRow.matures t (pastPromises rt t limit db) db) := by
  change Answered ((escalateBrokenPromises rt t limit).commit db) ∧
    ((escalateBrokenPromises rt t limit).commit db).responses = _ ∧
    ((escalateBrokenPromises rt t limit).commit db).promises = _
  by_cases positive : 0 < limit
  · obtain ⟨out, db', ran, kept, responses, promises⟩ := escalateEach_run (t := t) inv
      (fun p member => (duePromises_listed p member).1) (duePromises_distinct rt (·.promisedFor)
        (fun r => decide (r.promisedFor < t)) limit inv)
    have whole : (escalateBrokenPromises rt t limit).run db = .ok (out, db') := by
      unfold escalateBrokenPromises
      rw [Tx.bind_of_ok (Tx.check_of positive), Tx.bind_of_ok (Tx.run_read _ _), ran]
    rw [Tx.commit_of_ok whole]
    exact ⟨kept, responses, promises⟩
  · have refused : (escalateBrokenPromises rt t limit).commit db = db := by
      refine Tx.commit_of_error (e := .value "limit must be positive") ?_
      unfold escalateBrokenPromises
      exact Tx.bind_of_error (by rw [Tx.run_check, if_neg positive])
    have none_due : pastPromises rt t limit db = [] := by
      unfold pastPromises duePromises
      rw [Nat.eq_zero_of_not_pos positive, List.take_zero]
    rw [refused, none_due]
    exact ⟨inv, rfl, by rw [matures_none, List.map_id]⟩

end matured

section runs

variable {m invoiceId : Identifier} {source body : String} {reply : Option PromiseExtraction}

theorem extractPromise_written {extraction : PromiseExtraction} (h : extractPromise reply body = .ok extraction) :
    body.toList.all stripped = false := by
  unfold extractPromise at h
  split at h
  · cases h
  · rename_i written
    exact Bool.eq_false_iff.mpr written

theorem recordCustomerResponse_answered {out : CustomerResponseResult} (inv : Answered db)
    (h : (recordCustomerResponse m source invoiceId body reply t).run db = .ok (out, db')) : Answered db' := by
  obtain ⟨invoice, row, extraction, found, active, understood, storable⟩ := recordCustomerResponse_ok h
  rw [recordCustomerResponse_run _ _ found active understood storable] at h
  cases absent : db.response ⟨m, source⟩ with
  | some earlier =>
    rw [absent] at h
    dsimp only at h
    split at h
    · cases h
      exact inv
    · cases h
  | none =>
    rw [absent] at h
    dsimp only at h
    obtain ⟨-, named⟩ := invoice_id found
    have billed : (m, invoice.invoiceId) ∈ db.invoices.map InvoiceRow.id := by
      rw [show invoice.invoiceId = invoiceId from congrArg Prod.snd named]
      exact invoice_stored.mpr ⟨invoice, found⟩
    have replied := inv.reply (r := replyRow m source invoice row body extraction t) absent billed
      (extractPromise_written understood) storable.source
    have listed : (replyRow m source invoice row body extraction t).responseId ∈
        (db.responses ++ [replyRow m source invoice row body extraction t]).map (·.responseId) :=
      List.mem_map_of_mem (by simp)
    by_cases intent : extraction.intent = .promiseToPay
    · rw [applyResponse_promise intent] at h
      cases created : createPromise ((replyRow m source invoice row body extraction t).parties invoice)
          invoice.outstandingAmountMinor invoice.currency extraction
          (replyRow m source invoice row body extraction t).receivedAt with
      | error e =>
        rw [created] at h
        cases h
      | ok promise =>
        rw [created] at h
        cases h
        obtain ⟨-, terms, -, -, rfl⟩ := createPromise_iff.mp created
        exact replied.promise listed billed
    · obtain ⟨out', ran⟩ := applyResponse_escalation
        { db with responses := db.responses ++ [replyRow m source invoice row body extraction t] }
        invoice (replyRow m source invoice row body extraction t)
        intent
      rw [ran] at h
      cases h
      have carries := freezeFor_carries (replyRow m source invoice row body extraction t) extraction.intent
        { db with responses := db.responses ++ [replyRow m source invoice row body extraction t] }
      refine (replied.carries carries).escalate ?_
      rw [carries.responses]
      exact listed

theorem recordOverdueInvoice_carries {o : OverdueInvoice} {t t' : Instant} {u : Unit}
    (h : (recordOverdueInvoice m source o t t').run db = .ok (u, db')) : Carries db db' := by
  obtain ⟨_, d1, recorded, h⟩ := Tx.bind_ok h
  obtain ⟨_, d2, upserted, persisted⟩ := Tx.bind_ok h
  have before := (recordMerchantEvent_apart m source o _ _ _ recorded).carries
  have after := (persistMerchantEvent_spared _ _ _ _ persisted).apart.carries
  refine (before.trans ?_).trans after
  rcases upsertOverdueInvoice_ok upserted with rfl | ⟨-, row, -, -, rfl⟩
  · exact updateInvoice_carries (m, o.invoiceId) (InvoiceRow.overdue_id o t)
  · refine ⟨fun k stored => ?_, rfl, rfl, rfl⟩
    rw [List.map_append]
    exact List.mem_append_left _ stored

theorem putMerchantRow_carries {row : MerchantRow} {u : Unit} (h : (putMerchantRow row).run db = .ok (u, db')) :
    Carries db db' := by
  cases row with
  | consent row =>
    rw [Tx.write_ok h]
    exact ⟨fun _ => id, rfl, rfl, rfl⟩
  | invoice row =>
    rw [Tx.write_ok h]
    refine ⟨fun k stored => ?_, rfl, rfl, rfl⟩
    obtain ⟨before, old, rfl⟩ := List.mem_map.mp stored
    have replaced : ∃ after ∈ upsert InvoiceRow.id (fun _ _ => true) row db.invoices, after.id = before.id := upsert_key old
    obtain ⟨after, new, same⟩ := replaced
    exact List.mem_map.mpr ⟨after, new, same⟩
  | incident row =>
    rw [Tx.write_ok h]
    exact ⟨fun _ => id, rfl, rfl, rfl⟩

theorem Papers.carries (papers : Papers db db') : Carries db db' :=
  ⟨by rw [papers.invoices]; exact fun _ => id, by rw [papers.promises], papers.responses, papers.escalations⟩

theorem exec_answered (c : Command) (inv : Answered db) : Answered (exec rt c db) := by
  by_cases concerns : c.Concerns
  · cases c with
    | putMerchantRow row =>
      exact Tx.commit_relates (R := fun _ => Answered) inv fun h => inv.carries (putMerchantRow_carries h)
    | applyDegradationAssessment a policy id =>
      exact Tx.commit_relates (R := fun _ => Answered) inv fun h =>
        inv.carries (applyDegradationAssessment_papers a policy id _ _ _ h).carries
    | recordOverdueInvoice m source o t t' =>
      exact Tx.commit_relates (R := fun _ => Answered) inv fun h => inv.carries (recordOverdueInvoice_carries h)
    | recordCustomerResponse m source invoiceId body reply t =>
      exact Tx.commit_relates (R := fun _ => Answered) inv (recordCustomerResponse_answered inv)
    | escalateBrokenPromises t limit => exact (escalateBrokenPromises_matures _ _ _ inv).1
    | _ => exact absurd concerns id
  · exact inv.carries (exec_apart c db concerns).carries

theorem answered_invariant (reach : Reachable rt db) : Answered db := by
  refine Runs.Reaches.invariant Answered reach ?_ fun c _ inv _ => exec_answered c inv
  constructor
  · exact List.nodup_nil
  · exact List.nodup_nil
  · exact List.nodup_nil
  · exact fun _ member => absurd member List.not_mem_nil
  · exact fun _ member => absurd member List.not_mem_nil
  · exact fun _ member => absurd member List.not_mem_nil
  · exact fun _ member => absurd member List.not_mem_nil
  · exact fun _ member => absurd member List.not_mem_nil
  · exact fun _ member => absurd member List.not_mem_nil

end runs

end RevenueGuard
