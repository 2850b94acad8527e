import RevenueGuard.Kit.Json
import RevenueGuard.Kit.Sha256
import RevenueGuard.Store.Ingestion
import RevenueGuard.Services.Recovery

/-
Receivables: overdue invoices, customer replies and the promises they make,
promise reminders, and promises that were not kept.
-/
namespace RevenueGuard

def Database.invoice (db : Database) (merchantId invoiceId : Identifier) : Option InvoiceRow :=
  db.invoices.find? fun r => decide (r.merchantId = merchantId ∧ r.invoiceId = invoiceId)

def updateInvoice (merchantId invoiceId : Identifier) (f : InvoiceRow → InvoiceRow) (db : Database) : Database :=
  { db with invoices := db.invoices.map fun r => if r.merchantId = merchantId ∧ r.invoiceId = invoiceId then f r else r }

def updatePromises (p : PromiseRow → Bool) (f : PromiseRow → PromiseRow) (db : Database) : Database :=
  { db with promises := db.promises.map fun r => if p r then f r else r }

/-- `_stable_token`: half the digest of the parts joined with colons. -/
def stableToken (parts : List String) : String :=
  String.ofList ((Sha256.hexdigest (Json.utf8 (":".intercalate parts).toList)).toList.take 32)

theorem stableToken_length (parts : List String) : (stableToken parts).length ≤ 32 := by
  rw [stableToken, String.length_ofList]
  exact List.length_take_le _ _

/-- The normalized event's id; the stored merchant event's is made of the same token. -/
def invoiceEventId (merchantId : Identifier) (sourceEventId : String) : Identifier :=
  ⟨"event_" ++ stableToken [merchantId.val, sourceEventId], by
    have bound := stableToken_length [merchantId.val, sourceEventId]
    have length := String.length_append "event_" (stableToken [merchantId.val, sourceEventId])
    have six : "event_".length = 6 := by decide
    constructor
    · intro empty
      rw [empty] at length
      simp at length
      omega
    · omega⟩

/-- The payload digest keeps whole seconds of the due time. -/
def OverdueInvoice.digest (o : OverdueInvoice) : OverdueInvoice := { o with dueAt := o.dueAt / 1000000 }

def InvoiceRow.overdue (o : OverdueInvoice) (occurredAt : Instant) (r : InvoiceRow) : InvoiceRow :=
  if r.providerUpdatedAt ≤ occurredAt ∧ r.status ∉ [.paid, .disputed, .cancelled] then
    { r with
      amountMinor := o.amountMinor
      outstandingAmountMinor := o.outstandingAmountMinor
      currency := o.currency
      dueAt := o.dueAt
      providerUpdatedAt := occurredAt
      status := .overdue }
  else r

def overdueEvent (merchantId : Identifier) (sourceEventId : String) (o : OverdueInvoice)
    (occurredAt receivedAt : Instant) : NormalizedEvent :=
  { eventId := invoiceEventId merchantId sourceEventId
    merchantId := merchantId
    source := .merchant
    sourceEventId := sourceEventId
    eventType := ident "invoice.overdue"
    occurredAt := occurredAt
    receivedAt := receivedAt
    amountMinor := o.outstandingAmountMinor
    currency := o.currency
    normalizedFailureCategory := .customerActionRequired
    customerId := some o.customerId
    invoiceId := some o.invoiceId
    subject := by simp }

def recordMerchantEvent (merchantId : Identifier) (sourceEventId : String) (o : OverdueInvoice) : Transaction Unit := do
  let existing ← Tx.read fun db => db.merchantEvents.find? fun r =>
    decide (r.merchantId = merchantId ∧ r.sourceEventId = sourceEventId)
  match existing with
  | some row =>
    Tx.check (row.payload.digest = o.digest)
      (.recoveryPersistence "MERCHANT_EVENT_ID_CONFLICT" "source event ID already identifies a different payload")
  | none =>
    Tx.write fun db => { db with merchantEvents := db.merchantEvents ++ [⟨merchantId, sourceEventId, o⟩] }

def upsertOverdueInvoice (merchantId : Identifier) (o : OverdueInvoice) (occurredAt : Instant) : Transaction Unit := do
  let known ← Tx.read fun db => db.customers.any fun c => c.merchantId == merchantId && c.customerId == o.customerId
  let existing ← Tx.read fun db => db.invoice merchantId o.invoiceId
  Tx.check (o.outstandingAmountMinor ≤ o.amountMinor) (.integrity "ck_invoices_amounts_valid")
  match existing with
  | some _ => Tx.write (updateInvoice merchantId o.invoiceId (InvoiceRow.overdue o occurredAt))
  | none => do
    Tx.check (known = true) (.integrity "invoices_customer_fkey")
    Tx.write fun db => { db with invoices := db.invoices ++ [
      { merchantId := merchantId, invoiceId := o.invoiceId, customerId := o.customerId
        amountMinor := o.amountMinor, outstandingAmountMinor := o.outstandingAmountMinor, currency := o.currency
        status := .overdue, dueAt := o.dueAt, providerUpdatedAt := occurredAt }] }

def recordOverdueInvoice (merchantId : Identifier) (sourceEventId : String) (o : OverdueInvoice)
    (occurredAt receivedAt : Instant) : Transaction Unit := do
  recordMerchantEvent merchantId sourceEventId o
  upsertOverdueInvoice merchantId o occurredAt
  persistMerchantEvent (overdueEvent merchantId sourceEventId o occurredAt receivedAt)

/-- What the columns of `customer_responses` hold of a reply: the id of its source, and the amount read from it. -/
structure ReplyStorable (sourceResponseId : String) (extraction : PromiseExtraction) : Prop where
  source : sourceResponseId.length ≤ 256
  amount : ∀ terms ∈ extraction.terms, terms.amountMinor ≤ 9223372036854775807

instance (sourceResponseId : String) (extraction : PromiseExtraction) : Decidable (ReplyStorable sourceResponseId extraction) :=
  decidable_of_iff (sourceResponseId.length ≤ 256 ∧ ∀ terms ∈ extraction.terms, terms.amountMinor ≤ 9223372036854775807)
    ⟨fun ⟨a, b⟩ => ⟨a, b⟩, fun ⟨a, b⟩ => ⟨a, b⟩⟩

/-- Insert unless the source response is stored already; true when it was new. The values are bound either way. -/
def storeCustomerResponse (response : CustomerResponseRow) (extraction : PromiseExtraction) :
    Transaction (CustomerResponseRow × Bool) := do
  Tx.check (ReplyStorable response.responseId.sourceResponseId extraction) (.data "customer_responses")
  let existing ← Tx.read fun db => db.responses.find? fun r => decide (r.responseId = response.responseId)
  match existing with
  | some row => do
    Tx.check (row.body = response.body) (.recoveryPersistence "CUSTOMER_RESPONSE_ID_CONFLICT"
      "source response ID already identifies a different body")
    pure (row, false)
  | none => do
    Tx.write fun db => { db with responses := db.responses ++ [response] }
    pure (response, true)

def PromiseToPay.row (p : PromiseToPay) : PromiseRow :=
  { merchantId := p.merchantId
    promiseId := p.promiseId
    caseId := p.caseId
    invoiceId := p.invoiceId
    customerId := p.customerId
    amountMinor := p.amountMinor
    currency := p.currency
    promisedFor := dayStart p.promisedFor
    reminderAt := p.reminderAt
    status := .active
    extractionConfidenceBasisPoints := p.extractionConfidence.val
    updatedAt := p.createdAt
    confidence_le := p.extractionConfidence.property }

def InvoiceRow.promised (r : InvoiceRow) : InvoiceRow := if r.status = .overdue then { r with status := .promised } else r

def storePromise (promise : PromiseToPay) : Transaction Unit := do
  let existing ← Tx.read fun db => db.promises.find? fun r => decide (r.promiseId = promise.promiseId)
  match existing with
  | some _ => pure ()
  | none => do
    Tx.write fun db => { db with promises := db.promises ++ [promise.row] }
    Tx.write (updateInvoice promise.merchantId promise.invoiceId InvoiceRow.promised)

def storeReceivableEscalation (row : ReceivableEscalationRow) : Transaction Unit := do
  let existing ← Tx.read fun db => db.escalations.find? fun r => decide (r.responseId = row.responseId)
  match existing with
  | some _ => pure ()
  | none => Tx.write fun db => { db with escalations := db.escalations ++ [row] }

/-- The active promises of an invoice take another status. -/
def endPromises (merchantId invoiceId : Identifier) (status : PromiseStatus) (at_ : Instant) : Database → Database :=
  updatePromises (fun r => decide (r.merchantId = merchantId ∧ r.invoiceId = invoiceId ∧ r.status = .active))
    fun r => { r with status := status, updatedAt := at_ }

def InvoiceRow.freeze (status : InvoiceStatus) (from_ : List InvoiceStatus) (at_ : Instant) (r : InvoiceRow) : InvoiceRow :=
  if r.status ∈ from_ then { r with status := status, automationFrozenAt := some at_ } else r

def allInvoiceStatuses : List InvoiceStatus := [.opened, .overdue, .promised, .paid, .disputed, .escalated, .cancelled]

def freezeAndEscalate (row : ReceivableEscalationRow) (status : InvoiceStatus) (from_ : List InvoiceStatus)
    (promises : PromiseStatus) : Transaction Unit := do
  Tx.write (updateInvoice row.merchantId row.invoiceId (InvoiceRow.freeze status from_ row.createdAt))
  Tx.write (endPromises row.merchantId row.invoiceId promises row.createdAt)
  storeReceivableEscalation row

def freezeDisputeAndEscalate (row : ReceivableEscalationRow) : Transaction Unit :=
  freezeAndEscalate { row with reasonCode := "CUSTOMER_DISPUTE" } .disputed allInvoiceStatuses .disputed

def freezeAlreadyPaidClaimAndEscalate (row : ReceivableEscalationRow) : Transaction Unit :=
  freezeAndEscalate { row with reasonCode := "CUSTOMER_REPORTED_ALREADY_PAID" } .escalated
    [.opened, .overdue, .promised] .cancelled

structure CustomerResponseResult where
  responseId : ResponseToken
  caseId : Identifier
  intent : PromiseIntent
  disposition : String
  promiseId : Option PromiseId := none
  escalationId : Option EscalationId := none
deriving DecidableEq, Repr

def invoiceIdentity (merchantId invoiceId : Identifier) : CaseIdentity :=
  { workflowType := .b2bPromiseToPay, subjectType := .invoice, subjectId := invoiceId
    episodeKey := some ⟨merchantId, .b2bPromiseToPay, .invoice, invoiceId⟩ }

/-- A new reply becomes a promise, or an escalation that may freeze the invoice. -/
def applyResponse (response : CustomerResponseRow) (invoice : InvoiceRow) (extraction : PromiseExtraction) :
    Transaction CustomerResponseResult := do
  let merchantId := response.responseId.merchantId
  let result (disposition : String) : CustomerResponseResult :=
    { responseId := response.responseId, caseId := response.caseId, intent := extraction.intent
      disposition := disposition, escalationId := some (.response response.responseId) }
  let escalation : ReceivableEscalationRow :=
    { escalationId := .response response.responseId, responseId := response.responseId, merchantId := merchantId
      caseId := response.caseId, invoiceId := response.invoiceId
      reasonCode := "CUSTOMER_RESPONSE_REQUIRES_REVIEW", createdAt := response.receivedAt }
  match extraction.intent with
  | .promiseToPay => do
    let promise ← Tx.lift (createPromise ⟨response.responseId, merchantId, response.caseId, response.invoiceId,
      invoice.customerId⟩ invoice.outstandingAmountMinor invoice.currency extraction response.receivedAt)
    storePromise promise
    pure { responseId := response.responseId, caseId := response.caseId, intent := extraction.intent
           disposition := "PROMISE_SCHEDULED", promiseId := some promise.promiseId }
  | .dispute => do
    freezeDisputeAndEscalate escalation
    pure (result "AUTOMATION_FROZEN_HUMAN_ESCALATION")
  | .alreadyPaid => do
    freezeAlreadyPaidClaimAndEscalate escalation
    pure (result "AUTHORITATIVE_VERIFICATION_REQUIRED")
  | _ => do
    storeReceivableEscalation escalation
    pure (result "HUMAN_REVIEW_REQUIRED")

/-- `record_customer_response` with what the extractor returns or raises. -/
def recordExtractedResponse (merchantId : Identifier) (sourceResponseId : String) (invoiceId : Identifier)
    (body : String) (extracted : Except Failure PromiseExtraction) (receivedAt : Instant) :
    Transaction CustomerResponseResult := do
  let invoice ← Tx.read fun db => db.invoice merchantId invoiceId
  let invoice ← Tx.found invoice (.lookup "tenant-scoped invoice does not exist")
  let row ← Tx.read (findActiveCase merchantId (invoiceIdentity merchantId invoiceId))
  let row ← Tx.found row (.lookup "invoice has no active recovery case")
  let extraction ← Tx.lift extracted
  let stored ← storeCustomerResponse
    { responseId := ⟨merchantId, sourceResponseId⟩, caseId := row.case.caseId, invoiceId := invoiceId
      customerId := invoice.customerId, body := body, intent := extraction.intent, receivedAt := receivedAt } extraction
  if stored.2 then applyResponse stored.1 invoice extraction
  else pure { responseId := stored.1.responseId, caseId := row.case.caseId, intent := stored.1.intent
              disposition := "DUPLICATE_RESPONSE" }

def recordCustomerResponse (merchantId : Identifier) (sourceResponseId : String) (invoiceId : Identifier)
    (body : String) (reply : Option PromiseExtraction) (receivedAt : Instant) : Transaction CustomerResponseResult :=
  recordExtractedResponse merchantId sourceResponseId invoiceId body (extractPromise reply body) receivedAt

structure PromiseMaintenanceResult where
  promiseId : PromiseId
  disposition : String
  actionId : Option ActionIdentity := none
  escalationId : Option EscalationId := none
deriving DecidableEq, Repr

def duePromises (rt : Runtime) (time : PromiseRow → Instant) (due : PromiseRow → Bool) (limit : Nat) (db : Database) :
    List PromiseRow :=
  ((db.promises.filter fun r => decide (r.status = .active) && due r).insertionSort fun a b =>
    time a < time b ∨ (time a = time b ∧ (a.merchantId.val < b.merchantId.val
    ∨ (a.merchantId = b.merchantId ∧ rt.promiseOrder a.promiseId ≤ rt.promiseOrder b.promiseId)))).take limit

/-- `ReceivablesPlaybookService._persist_transition`. -/
def playbookTransition (case : RecoveryCase) (toState : CaseState) (reasonCode : String) (policyVersion : Identifier)
    (occurredAt : Instant) (terminalReason : Option String := none) (nextEvaluationAt : Option Instant := none) :
    Transaction RecoveryCase :=
  recoveryTransition case
    { toState := toState, actor := "RECEIVABLES_PLAYBOOK", reasonCode := reasonCode, policyVersion := policyVersion
      occurredAt := occurredAt, terminalReason := terminalReason, nextEvaluationAt := nextEvaluationAt }

def reminderCandidate (promise : PromiseRow) : CandidateAction :=
  { actionType := .schedulePromiseReminder
    recoveryProbabilityBasisPoints := 7000
    expectedNetRecoveryMinor := promise.amountMinor * 6000 / 10000
    rank := 1
    target := promise.invoiceId
    channel := some .email
    probability_le := by decide, rank_pos := first_pos, attempt_pos := first_pos
    channel_iff := by simp [ActionType.actionClass] }

def reminderCandidates (promise : PromiseRow) : List CandidateAction :=
  [reminderCandidate promise, noActionCandidate promise.invoiceId 2 second_pos]

def reminderInput (promise : PromiseRow) (checking : RecoveryCase) (evaluatedAt : Instant) (candidates : CandidateList)
    (incidents : List IncidentConstraint) (consent : List (ContactChannel × ConsentState) × List ContactChannel) :
    PolicyEvaluationInput :=
  { caseId := checking.caseId
    amountMinor := promise.amountMinor
    currency := promise.currency
    confidenceBasisPoints := promise.extractionConfidenceBasisPoints
    retryCount := checking.retryCount
    contactCount := checking.contactCount
    evaluatedAt := evaluatedAt
    candidates := candidates
    consentByChannel := consent.1
    optedOutChannels := consent.2
    incidents := incidents
    activePromiseToPay := true
    promiseDueAt := some promise.promisedFor
    confidence_le := promise.confidence_le
    promise_due := by simp }

structure ReminderAssessment where
  checking : RecoveryCase
  policy : MerchantPolicySnapshot
  decision : PolicyDecision

/-- Up to the reminder's policy decision; a case that cannot take one has none. -/
def assessReminder (rt : Runtime) (evaluatedAt : Instant) (promise : PromiseRow) :
    Transaction (Option ReminderAssessment) := do
  let case ← Tx.read fun db => db.caseOf ⟨promise.merchantId, promise.caseId⟩
  let case ← Tx.found case (.lookup "promise recovery case does not exist")
  let policy ← effectivePolicy promise.merchantId evaluatedAt
  let case ← if case.state = .deferred ∨ case.state = .verifying then
      playbookTransition case .decisionPending "PROMISE_REMINDER_DUE" policy.version evaluatedAt
    else pure case
  if case.state ≠ .decisionPending then pure none
  else do
    let checking ← playbookTransition case .policyCheck "PROMISE_REMINDER_POLICY_CHECK" policy.version evaluatedAt
    let consent ← Tx.read (consentFacts promise.merchantId (some promise.customerId))
    let incidents ← activeIncidents ⟨promise.merchantId, checking.caseId⟩ evaluatedAt checking.diagnosis
    let candidates ← Tx.lift (candidateList (reminderCandidates promise))
    let decision ← Tx.lift (evaluatePolicy (rt.zoneInfo policy.timezone) policy
      (reminderInput promise checking evaluatedAt candidates incidents consent))
    pure (some ⟨checking, policy, decision⟩)

def reminderReceiptId (promise : PromiseRow) (evaluatedAt : Instant) : ReceiptId :=
  .promise promise.merchantId promise.promiseId evaluatedAt

def reminderIdentity (promise : PromiseRow) (caseId : Identifier) : ActionIdentity :=
  { merchantId := promise.merchantId
    caseId := caseId
    actionType := .schedulePromiseReminder
    targetType := .invoice
    targetId := promise.invoiceId
    logicalAttempt := 1
    attempt_pos := first_pos }

def reminderAction (promise : PromiseRow) (caseId : Identifier) (evaluatedAt : Instant) : RecoveryAction :=
  { identity := reminderIdentity promise caseId
    decisionReceiptId := reminderReceiptId promise evaluatedAt
    status := .pending
    parameters :=
      { amountMinor := promise.amountMinor, currency := promise.currency, channel := some .email
        promiseId := some promise.promiseId }
    authorizedAt := evaluatedAt
    executeAfter := evaluatedAt
    createdAt := evaluatedAt }

def PromiseRow.awaits (id : PromiseId) (r : PromiseRow) : Bool :=
  decide (r.promiseId = id ∧ r.status = .active ∧ r.reminderActionId = none)

def markPromiseReminderScheduled (promise : PromiseRow) (actionId : ActionIdentity) (scheduledAt : Instant) :
    Transaction Unit := do
  let rows ← Tx.read fun db => db.promises.filter (PromiseRow.awaits promise.promiseId)
  Tx.check (rows.length = 1) (.recoveryPersistence "PROMISE_REMINDER_ALREADY_SCHEDULED"
    "promise is no longer eligible for reminder scheduling")
  Tx.write (updatePromises (PromiseRow.awaits promise.promiseId)
    fun r => { r with reminderActionId := some actionId, updatedAt := scheduledAt })

def reschedulePromiseReminder (promise : PromiseRow) (reminderAt : Instant) : Transaction Unit :=
  Tx.write (updatePromises (PromiseRow.awaits promise.promiseId)
    fun r => { r with reminderAt := reminderAt, updatedAt := reminderAt })

def rescheduleIfDeferred (promise : PromiseRow) : Option Instant → Transaction Unit
  | some wake => reschedulePromiseReminder promise wake
  | none => pure ()

/-- The reminder's transition and receipt, then its action or its next date. No review goes with it. -/
def decideReminder (evaluatedAt : Instant) (promise : PromiseRow) (a : ReminderAssessment) :
    Transaction PromiseMaintenanceResult := do
  let decided ← playbookTransition a.checking a.decision.resultingState a.decision.lastReason.code a.policy.version
    evaluatedAt (if a.decision.result = .stop then some a.decision.lastReason.code else none)
    a.decision.nextEvaluationAt
  let action := if a.decision.result = .proceed then some (reminderAction promise a.checking.caseId evaluatedAt) else none
  storeReceipt
    { merchantId := promise.merchantId
      receiptId := reminderReceiptId promise evaluatedAt
      caseId := a.checking.caseId
      evidenceReferences := [.response promise.promiseId]
      candidateActions := reminderCandidates promise
      selectedActionType := a.decision.selectedAction.actionType
      policyResult := a.decision.result
      policyReasonCodes := a.decision.reasonCodes
      policyVersion := a.policy.version
      humanReviewId := none
      resultingActionId := action.map (·.identity)
      resultingState := decided.state
      createdAt := evaluatedAt }
  match action with
  | some action => do
    let _ ← storeAction action a.policy.version 3 (evaluatedAt + 3600000000)
    markPromiseReminderScheduled promise action.identity evaluatedAt
    pure { promiseId := promise.promiseId, disposition := "REMINDER_AUTHORIZED", actionId := some action.identity }
  | none => do
    rescheduleIfDeferred promise a.decision.nextEvaluationAt
    pure { promiseId := promise.promiseId, disposition := a.decision.lastReason.code }

def remindPromise (rt : Runtime) (evaluatedAt : Instant) (promise : PromiseRow) :
    Transaction PromiseMaintenanceResult := do
  let assessed ← assessReminder rt evaluatedAt promise
  match assessed with
  | none => pure { promiseId := promise.promiseId, disposition := "CASE_NOT_ELIGIBLE_FOR_REMINDER" }
  | some a => decideReminder evaluatedAt promise a

def reminderDue (dueAt : Instant) (r : PromiseRow) : Bool :=
  decide (r.reminderAt ≤ dueAt ∧ r.reminderActionId = none)

def scheduleDuePromiseReminders (rt : Runtime) (dueAt : Instant) (limit : Nat) :
    Transaction (List PromiseMaintenanceResult) := do
  Tx.check (0 < limit) (.value "limit must be positive")
  let promises ← Tx.read (duePromises rt (·.reminderAt) (reminderDue dueAt) limit)
  Tx.each (remindPromise rt dueAt) promises

def setPromise (promise : PromiseRow) (f : PromiseRow → PromiseRow) : Database → Database :=
  updatePromises (fun r => decide (r.promiseId = promise.promiseId)) f

def escalateBrokenPromise (at_ : Instant) (promise : PromiseRow) : Transaction PromiseMaintenanceResult := do
  let invoice ← Tx.read fun db => db.invoice promise.merchantId promise.invoiceId
  let invoice ← Tx.found invoice (.lookup "promise invoice does not exist")
  if invoice.status = .paid then do
    Tx.write (setPromise promise fun r => { r with status := .fulfilled, fulfilledAt := some at_, updatedAt := at_ })
    pure { promiseId := promise.promiseId, disposition := "PROMISE_FULFILLED" }
  else do
    Tx.write (setPromise promise fun r => { r with status := .broken, brokenAt := some at_, updatedAt := at_ })
    Tx.write (updateInvoice promise.merchantId promise.invoiceId (InvoiceRow.freeze .escalated [.promised] at_))
    storeReceivableEscalation
      { escalationId := .brokenPromise promise.promiseId, responseId := promise.promiseId
        merchantId := promise.merchantId, caseId := promise.caseId, invoiceId := promise.invoiceId
        reasonCode := "BROKEN_PROMISE_TO_PAY", createdAt := at_ }
    pure { promiseId := promise.promiseId, disposition := "BROKEN_PROMISE_ESCALATED"
           escalationId := some (.brokenPromise promise.promiseId) }

def escalateBrokenPromises (rt : Runtime) (dueAt : Instant) (limit : Nat) :
    Transaction (List PromiseMaintenanceResult) := do
  Tx.check (0 < limit) (.value "limit must be positive")
  let promises ← Tx.read (duePromises rt (·.promisedFor) (fun r => decide (r.promisedFor < dueAt)) limit)
  Tx.each (escalateBrokenPromise dueAt) promises

end RevenueGuard
