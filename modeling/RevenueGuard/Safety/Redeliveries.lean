import RevenueGuard.Safety.Promises

/-
A customer's reply delivered again. The stored reply answers for it as long as
the invoice has an active case; nothing is ever written twice.
-/
namespace RevenueGuard

variable {db db' : Database} {rt : Runtime} {t : Instant} {m invoiceId : Identifier} {source body : String}
  {reply : Option PromiseExtraction} {r : CustomerResponseRow} {row : CaseRow}

section kept

theorem escalated_responses (response : CustomerResponseRow) (intent : PromiseIntent) (raised : ReceivableEscalationRow)
    (db : Database) : (escalate raised (freezeFor response intent db)).responses = db.responses := by
  rw [escalate_responses, (freezeFor_carries response intent db).responses]

/-- A reply that commits adds itself to the stored ones, or nothing. -/
theorem recordCustomerResponse_responses {out : CustomerResponseResult}
    (h : (recordCustomerResponse m source invoiceId body reply t).run db = .ok (out, db')) :
    db'.responses = db.responses ∨ ∃ r, db'.responses = db.responses ++ [r] := by
  obtain ⟨invoice, row, extraction, found, active, understood, storable⟩ := recordCustomerResponse_ok h
  rw [recordCustomerResponse_run _ _ found active understood storable] at h
  cases absent : db.response ⟨m, source⟩ with
  | some earlier =>
    rw [absent] at h
    dsimp only at h
    split at h
    · cases h
      exact .inl rfl
    · cases h
  | none =>
    rw [absent] at h
    dsimp only at h
    refine .inr ⟨replyRow m source invoice row body extraction t, ?_⟩
    by_cases intent : extraction.intent = .promiseToPay
    · rw [applyResponse_promise intent] at h
      cases created : createPromise ((replyRow m source invoice row body extraction t).parties invoice)
          invoice.outstandingAmountMinor invoice.currency extraction
          (replyRow m source invoice row body extraction t).receivedAt with
      | error e =>
        rw [created] at h
        cases h
      | ok promise =>
        rw [created] at h
        cases h
        exact keepPromise_responses _ _
    · obtain ⟨out', ran⟩ := applyResponse_escalation
        { db with responses := db.responses ++ [replyRow m source invoice row body extraction t] }
        invoice (replyRow m source invoice row body extraction t)
        intent
      rw [ran] at h
      cases h
      exact escalated_responses _ _ _ _

theorem exec_responses (c : Command) (inv : Answered db) (member : r ∈ db.responses) : r ∈ (exec rt c db).responses := by
  by_cases concerns : c.Concerns
  · cases c with
    | putMerchantRow row =>
      refine Tx.commit_relates (R := fun _ (s : Database) => r ∈ s.responses) member fun h => ?_
      rw [(putMerchantRow_carries h).responses]
      exact member
    | applyDegradationAssessment a policy id =>
      refine Tx.commit_relates (R := fun _ (s : Database) => r ∈ s.responses) member fun h => ?_
      rw [(applyDegradationAssessment_papers a policy id _ _ _ h).responses]
      exact member
    | recordOverdueInvoice m source o t t' =>
      refine Tx.commit_relates (R := fun _ (s : Database) => r ∈ s.responses) member fun h => ?_
      rw [(recordOverdueInvoice_carries h).responses]
      exact member
    | recordCustomerResponse m source invoiceId body reply t =>
      refine Tx.commit_relates (R := fun _ (s : Database) => r ∈ s.responses) member fun h => ?_
      rcases recordCustomerResponse_responses h with same | ⟨last, more⟩
      · rw [same]
        exact member
      · rw [more]
        exact List.mem_append_left _ member
    | escalateBrokenPromises t limit =>
      rw [(escalateBrokenPromises_matures _ _ _ inv).2.1]
      exact member
    | _ => exact absurd concerns id
  · rw [(exec_apart c db concerns).responses]
    exact member

end kept

section again

/-- The reply, delivered again, is reported as a duplicate with its first intent, and changes nothing. -/
def ReportsDuplicate (db : Database) (r : CustomerResponseRow) (reply : Option PromiseExtraction) (t : Instant) : Prop :=
  ∃ out, (recordCustomerResponse r.responseId.merchantId r.responseId.sourceResponseId r.invoiceId r.body reply t).run db
      = .ok (out, db) ∧
    out.disposition = "DUPLICATE_RESPONSE" ∧ out.responseId = r.responseId ∧ out.intent = r.intent

/-- Whatever is written is understood as something. -/
theorem extractPromise_of_written (written : body.toList.all stripped = false) (reply : Option PromiseExtraction) :
    ∃ extraction, extractPromise reply body = .ok extraction := by
  unfold extractPromise
  rw [if_neg (by rw [written]; decide)]
  split
  · exact ⟨_, rfl⟩
  · exact ⟨_, rfl⟩

/-- The terms that are taken from a reply are those the provider read, in a body short enough to be sent to it. -/
theorem extractPromise_terms {P : PromiseTerms → Prop} (written : body.toList.all stripped = false)
    {extraction : PromiseExtraction} (understood : extractPromise reply body = .ok extraction) :
    (body.length ≤ 2000 → ∀ e ∈ reply, ∀ terms ∈ e.terms, P terms) ↔ ∀ terms ∈ extraction.terms, P terms := by
  unfold extractPromise at understood
  rw [if_neg (by rw [written]; decide)] at understood
  by_cases long : 2000 < body.length
  · rw [if_pos long] at understood
    cases understood
    constructor
    · rintro - terms ⟨⟩
    · intro _ short
      exact absurd long (not_lt.mpr short)
  · rw [if_neg long] at understood
    cases reply with
    | none =>
      cases understood
      constructor
      · rintro - terms ⟨⟩
      · rintro - - e ⟨⟩
    | some e =>
      cases understood
      constructor
      · intro fits
        exact fits (not_lt.mp long) e rfl
      · rintro fits - _ ⟨⟩
        exact fits

/-- An amount that the provider reads, in a body short enough to be sent to it, fits its column. -/
def Bindable (reply : Option PromiseExtraction) (body : String) : Prop :=
  body.length ≤ 2000 → ∀ e ∈ reply, ∀ terms ∈ e.terms, terms.amountMinor ≤ 9223372036854775807

instance (reply : Option PromiseExtraction) (body : String) : Decidable (Bindable reply body) :=
  inferInstanceAs (Decidable (_ → _))

theorem storable_iff (written : body.toList.all stripped = false) {extraction : PromiseExtraction}
    (understood : extractPromise reply body = .ok extraction) :
    ReplyStorable source extraction ↔ source.length ≤ 256 ∧ Bindable reply body := by
  rw [Bindable, extractPromise_terms written understood]
  exact ⟨fun h => ⟨h.source, h.amount⟩, fun fits => ⟨fits.1, fits.2⟩⟩

theorem reportsDuplicate_iff (inv : Answered db) (recorded : r ∈ db.responses) :
    ReportsDuplicate db r reply t ↔ Bindable reply r.body ∧
      ∃ row, findActiveCase r.responseId.merchantId (invoiceIdentity r.responseId.merchantId r.invoiceId) db = some row := by
  have written := inv.written r recorded
  constructor
  · rintro ⟨out, ran, -⟩
    obtain ⟨invoice, row, extraction, -, active, understood, storable⟩ := recordCustomerResponse_ok ran
    exact ⟨((storable_iff written understood).mp storable).2, row, active⟩
  · rintro ⟨bindable, row, active⟩
    obtain ⟨invoice, found⟩ := invoice_stored.mp (inv.billed r recorded)
    obtain ⟨extraction, understood⟩ := extractPromise_of_written written reply
    have storable := (storable_iff written understood).mpr ⟨inv.sized r recorded, bindable⟩
    have stored : db.response r.responseId = some r := Table.lookup_of_mem inv.responseIds recorded
    have ran := recordCustomerResponse_run t r.responseId.sourceResponseId found active understood storable
    rw [show (⟨r.responseId.merchantId, r.responseId.sourceResponseId⟩ : ResponseToken) = r.responseId from rfl, stored] at ran
    dsimp only at ran
    rw [if_pos rfl] at ran
    exact ⟨_, ran, rfl, rfl, rfl⟩

variable (t invoiceId reply) in
/-- Another body under the same id never commits. -/
theorem other_body_rejected (inv : Answered db) (recorded : r ∈ db.responses) (other : body ≠ r.body) :
    ∃ e, (recordCustomerResponse r.responseId.merchantId r.responseId.sourceResponseId invoiceId body reply t).run db
      = .error e := by
  cases ran : (recordCustomerResponse r.responseId.merchantId r.responseId.sourceResponseId invoiceId body reply t).run db with
  | error e => exact ⟨e, rfl⟩
  | ok result =>
    obtain ⟨invoice, row, extraction, found, active, understood, storable⟩ := recordCustomerResponse_ok ran
    have stored : db.response r.responseId = some r := Table.lookup_of_mem inv.responseIds recorded
    rw [recordCustomerResponse_run _ _ found active understood storable,
      show (⟨r.responseId.merchantId, r.responseId.sourceResponseId⟩ : ResponseToken) = r.responseId from rfl, stored] at ran
    dsimp only at ran
    rw [if_neg (Ne.symm other)] at ran
    cases ran

/-- A reply to an overdue invoice, understood as a promise for tomorrow. -/
def repliedOnce : List Command :=
  reachable1 ++ [.recordOverdueInvoice acme "overdue-1" overdue1 5 5,
    .processEvent (drawn "receipt-1") acme (invoiceEventId acme "overdue-1") (ident "case-1") 10,
    .recordCustomerResponse acme "reply-1" (ident "inv-1") "I will pay tomorrow" (some promised) 20]

def reply1 : CustomerResponseRow :=
  { responseId := ⟨acme, "reply-1"⟩
    caseId := ident "case-1"
    invoiceId := ident "inv-1"
    customerId := customer1
    body := "I will pay tomorrow"
    intent := .promiseToPay
    receivedAt := 20 }

def paidInvoice : InvoiceRow :=
  { merchantId := acme
    invoiceId := ident "inv-1"
    customerId := customer1
    amountMinor := 1000
    outstandingAmountMinor := 0
    currency := currency "INR"
    status := .paid
    dueAt := 0
    providerUpdatedAt := 30 }

/-- The invoice is paid by other means, and its case closed. -/
def closedMeanwhile : List Command :=
  [.putMerchantRow (.invoice paidInvoice), .reevaluateDeferred (fun _ => drawn "receipt-2") 3600000010 5]

end again

end RevenueGuard
