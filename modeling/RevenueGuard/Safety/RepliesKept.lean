import RevenueGuard.Services.Extraction
import RevenueGuard.Safety.Redeliveries

/-
What becomes of a reply. Whatever the model answered, a reply with something to
say is stored with one promise or one escalation, unless its id or the amount read
is too large for its column, the task is cancelled during the call, or the answer
names terms that do not fit the invoice: then the whole reply is lost.
-/
namespace RevenueGuard

variable {db db' : Database} {rt : Runtime} {t : Instant} {m invoiceId : Identifier} {source body : String}
  {invoice : InvoiceRow} {row : CaseRow} {extraction : PromiseExtraction} {answer : Option ProviderAnswer}
  {fromisoformat : String → Option Int}

/-- One active promise on terms of the invoice, for the day of the reply or a later one. -/
def OnePromise (db : Database) (id : PromiseId) (invoice : InvoiceRow) (receivedAt : Instant) : Prop :=
  ∃ p, db.promises.filter (fun r => decide (r.promiseId = id)) = [p] ∧ p.status = .active ∧ p.invoice = invoice.id ∧
    p.currency = invoice.currency ∧ 0 < p.amountMinor ∧ p.amountMinor ≤ invoice.outstandingAmountMinor ∧
    dayStart (receivedAt / 86400000000) ≤ p.promisedFor

def OneEscalation (db : Database) (id : ResponseToken) : Prop :=
  ∃ e, db.escalations.filter (fun r => decide (r.responseId = id)) = [e]

/-- The reply is stored, with exactly one of a promise and an escalation. -/
structure ReplyKept (db : Database) (id : ResponseToken) (body : String) (invoice : InvoiceRow) (receivedAt : Instant) : Prop where
  stored : ∃ r ∈ db.responses, r.responseId = id ∧ r.body = body
  settled : (OnePromise db id invoice receivedAt ∧ db.escalations.filter (fun r => decide (r.responseId = id)) = []) ∨
    (OneEscalation db id ∧ db.promises.filter (fun r => decide (r.promiseId = id)) = [])

/-- There is something to say, the columns hold it, the call is not cancelled, and terms that are read fit the invoice. -/
structure Acceptable (invoice : InvoiceRow) (fromisoformat : String → Option Int) (answer : Option ProviderAnswer)
    (sourceResponseId body : String) (receivedAt : Instant) : Prop where
  written : body.toList.all stripped = false
  source : sourceResponseId.length ≤ 256
  finished : ¬ Cancelled answer body
  bindable : Bindable (providerReply fromisoformat answer) body
  fits : body.length ≤ 2000 → ∀ e ∈ providerReply fromisoformat answer, ∀ terms ∈ e.terms,
    terms.Fit invoice.outstandingAmountMinor invoice.currency sourceResponseId receivedAt

theorem select_none {A K : Type} [DecidableEq K] {rows : List A} {key : A → K} {k : K} (absent : Table.lookup key k rows = none) :
    rows.filter (fun r => decide (key r = k)) = [] :=
  List.filter_eq_nil_iff.mpr fun r member same => Table.lookup_none.mp absent r member (of_decide_eq_true same)

theorem select_new {A K : Type} [DecidableEq K] {rows : List A} (key : A → K) (a : A)
    (absent : Table.lookup key (key a) rows = none) : (rows ++ [a]).filter (fun r => decide (key r = key a)) = [a] := by
  rw [List.filter_append, select_none absent]
  simp

/-- A new reply's id is on no promise and no escalation. -/
theorem new_reply {id : ResponseToken} (inv : Answered db) (new : db.response id = none) :
    db.promise id = none ∧ Table.lookup (·.responseId) id db.escalations = none := by
  have absent : id ∉ db.responses.map (·.responseId) := by
    intro listed
    obtain ⟨r, member, same⟩ := List.mem_map.mp listed
    exact Table.lookup_none.mp new r member same
  constructor
  · refine Table.lookup_none.mpr fun p member same => absent ?_
    rw [← same]
    exact inv.promised p member
  · refine Table.lookup_none.mpr fun e member same => absent ?_
    rw [← same]
    exact inv.raised e member

theorem keepPromise_kept {promise : PromiseToPay} (response : CustomerResponseRow) (replied : response ∈ db.responses)
    (id : response.responseId = promise.promiseId) (new : db.promise promise.promiseId = none)
    (unraised : Table.lookup (·.responseId) promise.promiseId db.escalations = none)
    (terms : promise.row.invoice = invoice.id ∧ promise.currency = invoice.currency ∧ 0 < promise.amountMinor ∧
      promise.amountMinor ≤ invoice.outstandingAmountMinor ∧ dayStart (t / 86400000000) ≤ promise.row.promisedFor) :
    ReplyKept (keepPromise promise db) promise.promiseId response.body invoice t := by
  constructor
  · rw [keepPromise_responses]
    exact ⟨response, replied, id, rfl⟩
  · refine .inl ⟨⟨promise.row, ?_, rfl, terms⟩, ?_⟩
    · rw [keepPromise_new new]
      exact select_new PromiseRow.promiseId promise.row new
    · rw [keepPromise_escalations]
      exact select_none unraised

theorem escalate_kept {raised : ReceivableEscalationRow} (response : CustomerResponseRow) (replied : response ∈ db.responses)
    (id : response.responseId = raised.responseId) (unpromised : db.promise raised.responseId = none)
    (unraised : Table.lookup (·.responseId) raised.responseId db.escalations = none) :
    ReplyKept (escalate raised db) raised.responseId response.body invoice t := by
  constructor
  · rw [escalate_responses]
    exact ⟨response, replied, id, rfl⟩
  · refine .inr ⟨⟨raised, ?_⟩, ?_⟩
    · unfold escalate
      rw [if_pos unraised]
      exact select_new ReceivableEscalationRow.responseId raised unraised
    · rw [escalate_promises]
      exact select_none unpromised

section new

variable {reply : Option PromiseExtraction}

/-- Understood as a promise, a reply is kept when its terms fit, and refused otherwise. -/
theorem promise_kept (inv : Answered db) (found : db.invoice m invoiceId = some invoice)
    (active : findActiveCase m (invoiceIdentity m invoiceId) db = some row) (new : db.response ⟨m, source⟩ = none)
    (understood : extractPromise reply body = .ok extraction) (storable : ReplyStorable source extraction) {terms : PromiseTerms}
    (named : extraction.terms = some terms) :
    (terms.Fit invoice.outstandingAmountMinor invoice.currency source t → ∃ out db',
      (recordCustomerResponse m source invoiceId body reply t).run db = .ok (out, db') ∧
        ReplyKept db' ⟨m, source⟩ body invoice t) ∧
    (¬ terms.Fit invoice.outstandingAmountMinor invoice.currency source t → ∃ e,
      (recordCustomerResponse m source invoiceId body reply t).run db = .error e) := by
  have intent : extraction.intent = .promiseToPay := extraction.terms_iff.mp (by rw [named]; rfl)
  have ran := recordCustomerResponse_run t source found active understood storable
  rw [new] at ran
  dsimp only at ran
  rw [applyResponse_promise intent, show (replyRow m source invoice row body extraction t).receivedAt = t from rfl] at ran
  obtain ⟨-, invoiceNamed⟩ := invoice_id found
  obtain ⟨unpromised, unraised⟩ := new_reply inv new
  constructor
  · intro fit
    have created : createPromise ((replyRow m source invoice row body extraction t).parties invoice)
        invoice.outstandingAmountMinor invoice.currency extraction t = .ok _ :=
      createPromise_iff.mpr ⟨intent, terms, named, fit, rfl⟩
    rw [created] at ran
    refine ⟨_, _, ran, keepPromise_kept (replyRow m source invoice row body extraction t) (by simp) rfl unpromised
      unraised ⟨?_, fit.currency, terms.amount_pos, fit.amount, ?_⟩⟩
    · have same : invoice.invoiceId = invoiceId := congrArg Prod.snd invoiceNamed
      rw [invoiceNamed]
      exact Prod.ext rfl same
    · exact Int.mul_le_mul_of_nonneg_right fit.day (by decide)
  · intro unfit
    cases created : createPromise ((replyRow m source invoice row body extraction t).parties invoice)
        invoice.outstandingAmountMinor invoice.currency extraction t with
    | ok promise =>
      obtain ⟨-, terms', named', fit, -⟩ := createPromise_iff.mp created
      rw [named] at named'
      cases named'
      exact absurd fit unfit
    | error e =>
      rw [created] at ran
      exact ⟨e, ran⟩

/-- Understood as anything else, a reply is kept with its escalation. -/
theorem escalation_kept (inv : Answered db) (found : db.invoice m invoiceId = some invoice)
    (active : findActiveCase m (invoiceIdentity m invoiceId) db = some row) (new : db.response ⟨m, source⟩ = none)
    (understood : extractPromise reply body = .ok extraction) (storable : ReplyStorable source extraction)
    (termless : extraction.terms = none) : ∃ out db',
      (recordCustomerResponse m source invoiceId body reply t).run db = .ok (out, db') ∧
        ReplyKept db' ⟨m, source⟩ body invoice t := by
  have intent : extraction.intent ≠ .promiseToPay := by
    intro promise
    have named := extraction.terms_iff.mpr promise
    rw [termless] at named
    cases named
  have ran := recordCustomerResponse_run t source found active understood storable
  rw [new] at ran
  dsimp only at ran
  obtain ⟨unpromised, unraised⟩ := new_reply inv new
  obtain ⟨out, applied⟩ := applyResponse_escalation
    { db with responses := db.responses ++ [replyRow m source invoice row body extraction t] }
    invoice (replyRow m source invoice row body extraction t) intent
  rw [applied] at ran
  have carries := freezeFor_carries (replyRow m source invoice row body extraction t) extraction.intent
    { db with responses := db.responses ++ [replyRow m source invoice row body extraction t] }
  refine ⟨out, _, ran, escalate_kept (replyRow m source invoice row body extraction t) ?_ rfl ?_ ?_⟩
  · rw [carries.responses]
    simp
  · refine Table.lookup_none.mpr fun p member same => ?_
    have listed : p.label ∈ db.promises.map PromiseRow.label := by
      rw [← show _ = db.promises.map PromiseRow.label from carries.labels]
      exact List.mem_map_of_mem member
    obtain ⟨q, old, label⟩ := List.mem_map.mp listed
    exact Table.lookup_none.mp unpromised q old ((congrArg Prod.fst label).trans same)
  · rw [carries.escalations]
    exact unraised

/-- A reply that the extractor raises on is refused. -/
theorem recordExtractedResponse_raised (body : String) (t : Instant) (source : String) (found : db.invoice m invoiceId = some invoice)
    (active : findActiveCase m (invoiceIdentity m invoiceId) db = some row) (raised : Failure) :
    ∃ e, (recordExtractedResponse m source invoiceId body (.error raised) t).run db = .error e := by
  unfold recordExtractedResponse
  rw [Tx.bind_of_ok (Tx.run_read _ _), found, Tx.bind_of_ok (Tx.run_found_some _ _ _), Tx.bind_of_ok (Tx.run_read _ _), active,
    Tx.bind_of_ok (Tx.run_found_some _ _ _)]
  exact ⟨_, rfl⟩

end new

/-- A reply that is taken down was extracted to the end, from a text with something to say, and fits its columns. -/
theorem recordExtractedResponse_taken (found : db.invoice m invoiceId = some invoice)
    (active : findActiveCase m (invoiceIdentity m invoiceId) db = some row) {out : CustomerResponseResult}
    (h : (recordExtractedResponse m source invoiceId body (boundedExtract fromisoformat answer body) t).run db = .ok (out, db')) :
    ¬ Cancelled answer body ∧ body.toList.all stripped = false ∧ source.length ≤ 256 ∧
      Bindable (providerReply fromisoformat answer) body := by
  by_cases cancelled : Cancelled answer body
  · obtain ⟨e, failed⟩ := recordExtractedResponse_raised body t source found active .cancelled
    rw [boundedExtract_cancelled fromisoformat cancelled, failed] at h
    cases h
  · rw [boundedExtract_eq fromisoformat cancelled] at h
    obtain ⟨invoice, row, extraction, -, -, understood, storable⟩ := recordCustomerResponse_ok h
    have written := extractPromise_written understood
    exact ⟨cancelled, written, (storable_iff written understood).mp storable⟩

def readTomorrow (date : String) : Option Int := if date = "1970-01-02" then some 1 else none

/-- An answer that names these terms for tomorrow. -/
def modelTerms (amount : Int) (currency : String) : ProviderAnswer :=
  .answered (some { entries := [("intent", .text "PROMISE_TO_PAY"), ("confidence_basis_points", .integer 9000),
    ("promised_date", .text "1970-01-02"), ("amount_minor", .integer amount), ("currency", .text currency)] }) (.text "model-1")

/-- An overdue invoice that no reply has come to. -/
def unanswered : List Command :=
  reachable1 ++ [.recordOverdueInvoice acme "overdue-1" overdue1 5 5,
    .processEvent (drawn "receipt-1") acme (invoiceEventId acme "overdue-1") (ident "case-1") 10]

def invoice1 : InvoiceRow :=
  { merchantId := acme
    invoiceId := ident "inv-1"
    customerId := customer1
    amountMinor := 1000
    outstandingAmountMinor := 1000
    currency := currency "INR"
    status := .overdue
    dueAt := 0
    providerUpdatedAt := 5 }

set_option maxRecDepth 100000 in
theorem unanswered_ready : (execAll {} unanswered {}).invoice acme (ident "inv-1") = some invoice1 ∧
    (findActiveCase acme (invoiceIdentity acme (ident "inv-1")) (execAll {} unanswered {})).isSome = true ∧
    (execAll {} unanswered {}).response ⟨acme, "reply-1"⟩ = none := by decide +kernel

theorem tomorrow_written : "I will pay tomorrow".toList.all stripped = false := by decide +kernel

set_option maxRecDepth 100000 in
theorem foreign_terms_refused : (recordExtractedResponse acme "reply-1" (ident "inv-1") "I will pay tomorrow"
    (boundedExtract readTomorrow (some (modelTerms 1000 "USD")) "I will pay tomorrow") 20).After (fun _ _ => False)
      (execAll {} unanswered {}) := by
  decide +kernel

end RevenueGuard
