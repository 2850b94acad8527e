import RevenueGuard.Kit.Calendar
import RevenueGuard.Services.Gateway

/-
The worker's task for one webhook: its dispatch is looked up, the stored bytes are
normalized, the provider rows, the event and the payment observation are written, and
recovery and verification run, all in one transaction that ends the dispatch.
-/
namespace RevenueGuard

/-- Upper case, a table of one text for each character. -/
structure UpperTable where
  upper : Char → String
  nonempty : ∀ c, upper c ≠ ""

def UpperTable.text (table : UpperTable) (s : String) : String := String.join (s.toList.map table.upper)

section entities

variable (table : UpperTable)

/-- `_entity_status`: the entity's own status, or what follows the last dot of the event type. -/
def entityStatus (entity : Option Mapping) (eventType : String) : String :=
  match entity.map fun e : Mapping => e.get "status" with
  | some (.str status) => table.text status
  | _ => table.text (String.ofList (eventType.toList.reverse.takeWhile (· ≠ '.')).reverse)

/-- `_provider_timestamp`. -/
def entityTimestamp (entity : Option Mapping) (key : String) : Option Instant :=
  entity.bind fun e => timestampOf (e.get key)

theorem unknown_dimension : "UNKNOWN" ≠ "" ∧ "UNKNOWN".length ≤ 128 := by decide

theorem no_error_dimension : "NONE" ≠ "" ∧ "NONE".length ≤ 128 := by decide

theorem join_ne_empty {table : UpperTable} {s : String} (nonempty : s ≠ "") : table.text s ≠ "" := by
  intro empty
  cases chars : s.toList with
  | nil => exact nonempty (String.toList_eq_nil_iff.mp chars)
  | cons c rest =>
    have first : (table.text s).toList = (table.upper c).toList ++ (String.join (rest.map table.upper)).toList := by
      rw [UpperTable.text, chars, List.map_cons, String.join_cons, String.toList_append]
    rw [empty] at first
    have none := (List.append_eq_nil_iff.mp first.symm).1
    exact table.nonempty c (String.toList_eq_nil_iff.mp none)

theorem bounded_dimension {s : String} (nonempty : s ≠ "") :
    String.ofList (s.toList.take 128) ≠ "" ∧ (String.ofList (s.toList.take 128)).length ≤ 128 := by
  constructor
  · intro empty
    have chars := congrArg String.toList empty
    rw [String.toList_ofList] at chars
    cases held : s.toList with
    | nil => exact nonempty (String.toList_eq_nil_iff.mp held)
    | cons c rest =>
      rw [held] at chars
      cases chars
  · rw [String.length_ofList, List.length_take]
    omega

/-- `_bounded_dimension`. -/
def boundedDimension (entity : Option Mapping) (key : String) : Identifier :=
  match entity.map fun e : Mapping => e.get key with
  | some (.str value) =>
    if nonempty : value = "" then ⟨"UNKNOWN", unknown_dimension⟩
    else ⟨String.ofList ((table.text value).toList.take 128), bounded_dimension (join_ne_empty nonempty)⟩
  | _ => ⟨"UNKNOWN", unknown_dimension⟩

def issuerFamily (payment : Option Mapping) : Identifier :=
  (["bank", "issuer", "wallet"].map (boundedDimension table payment)).find? (fun family => decide (family.val ≠ "UNKNOWN"))
    |>.getD ⟨"UNKNOWN", unknown_dimension⟩

def observationId (merchantId : Identifier) (sourceEventId : String) (paymentId : Identifier) : Identifier :=
  ⟨"observation_" ++ stableToken [merchantId.val, sourceEventId, paymentId.val], by
    have twelve : "observation_".length = 12 := by decide
    have token := stableToken_length [merchantId.val, sourceEventId, paymentId.val]
    constructor
    · intro empty
      have length := congrArg String.length empty
      rw [String.length_append, twelve, String.length_empty] at length
      omega
    · rw [String.length_append, twelve]
      omega⟩

/-- `payment_outcome_observation`, as the row it becomes. -/
def paymentOutcomeObservation (event : RevenueRiskEvent) (sourceEventId : ProviderEventId) (document : Mapping) :
    Option ObservationRow :=
  match event.paymentId with
  | none => none
  | some paymentId =>
    if event.eventType.val ∉ paymentEvents then none
    else
      let payment := providerEntity document "payment"
      some
        { observation :=
            { merchantId := event.merchantId
              succeeded := decide (event.eventType.val = "payment.authorized" ∨ event.eventType.val = "payment.captured")
              paymentMethod := boundedDimension table payment "method"
              issuerFamily := issuerFamily table payment
              errorFamily := if event.eventType.val ≠ "payment.failed" then ⟨"NONE", no_error_dimension⟩
                else event.normalizedFailureCategory.identifier
              occurredAt := event.occurredAt }
          sourceEventId := sourceEventId
          observationId := observationId event.merchantId sourceEventId.1 paymentId
          paymentId := paymentId }

def customerRow (event : RevenueRiskEvent) (customerId : Identifier) : CustomerRow :=
  { merchantId := event.merchantId, customerId := customerId, providerUpdatedAt := some event.occurredAt }

def paymentRow (event : RevenueRiskEvent) (document : Mapping) (paymentId : Identifier) : PaymentRow :=
  let payment := providerEntity document "payment"
  { merchantId := event.merchantId, paymentId := paymentId, customerId := event.customerId, orderId := event.orderId
    amountMinor := event.amountMinor, currency := event.currency, status := entityStatus table payment event.eventType.val
    providerOccurredAt := (entityTimestamp payment "created_at").getD event.occurredAt
    providerUpdatedAt := some event.occurredAt }

def subscriptionRow (event : RevenueRiskEvent) (document : Mapping) (subscriptionId : Identifier) : SubscriptionRow :=
  let subscription := providerEntity document "subscription"
  { merchantId := event.merchantId, subscriptionId := subscriptionId, customerId := event.customerId
    amountMinor := event.amountMinor, currency := event.currency
    status := entityStatus table subscription event.eventType.val
    providerOccurredAt := (entityTimestamp subscription "created_at").getD event.occurredAt
    providerUpdatedAt := some event.occurredAt }

end entities

section task

structure Worker where
  runtime : Runtime
  depth : Nat
  printable : Char → Bool
  upper : UpperTable
  degradation : DegradationPolicy := {}

/-- What one run of the task meets: the state it saw of its dispatch, should another worker have moved it since, fresh
ids, the model's answers and the clocks. -/
structure ProcessingInputs where
  earlier : Option DispatchState := none
  evaluation : EvaluationInputs
  newCaseId : Identifier
  evaluatedAt : Instant
  completedAt : Instant

inductive ProcessingError where
  | normalization (error : NormalizationError)
  | failure (failure : Failure)
deriving DecidableEq, Repr

inductive ProcessingStatus where
  | processed | alreadyProcessed | deadLetter
deriving DecidableEq, Repr

abbrev Processing (A : Type) : Type := Tx Deployment ProcessingError A

/-- A service's transaction as a part of the task's. -/
def served {A : Type} (x : Transaction A) : Processing A := Tx.on Deployment.services .failure x

def ifGiven {A : Type} (subject : Option A) (f : A → Processing Unit) : Processing Unit := match subject with
  | some a => f a
  | none => pure ()

def AcceptedWebhook.source (w : AcceptedWebhook) : EventSource := if w.provider = "SIMULATOR" then .synthetic else .razorpay

def eventIdOf (id : Uuid) : Identifier :=
  ⟨"evt_" ++ id.1, by
    have four : "evt_".length = 4 := by decide
    have length := id.2
    constructor
    · intro empty
      have total := congrArg String.length empty
      rw [String.length_append, four, String.length_empty] at total
      omega
    · rw [String.length_append, four]
      omega⟩

def payloadReference (providerEventId : ProviderEventId) : { s : String // s ≠ "" ∧ s.length ≤ 512 } :=
  ⟨"webhook_events/" ++ providerEventId.1, by
    have fifteen : "webhook_events/".length = 15 := by decide
    have length := providerEventId.2.2
    constructor
    · intro empty
      have total := congrArg String.length empty
      rw [String.length_append, fifteen, String.length_empty] at total
      omega
    · rw [String.length_append, fifteen]
      omega⟩

/-- What the task hands the normalizer of a stored webhook. -/
def AcceptedWebhook.context (w : AcceptedWebhook) : EventContext :=
  { merchantId := w.merchantId, providerEventId := w.providerEventId, eventId := eventIdOf w.id, receivedAt := w.receivedAt
    correlationId := w.correlationId, sourcePayloadReference := payloadReference w.providerEventId, source := w.source }

def AcceptedWebhook.body (w : AcceptedWebhook) : ByteArray := w.rawBody.toByteArray

/-- The event of a stored webhook. -/
def AcceptedWebhook.normalized (w : AcceptedWebhook) (depth : Nat) : Except NormalizationError RevenueRiskEvent :=
  (normalizeRazorpayEvent depth w.context w.body).map toRevenueRiskEvent

def wholeSeconds (t : Instant) : Instant := t / 1000000 * 1000000

/-- The event's row: its times have passed through the contract's texts, which keep whole seconds. -/
def RevenueRiskEvent.row (event : RevenueRiskEvent) : NormalizedEvent :=
  { event with occurredAt := wholeSeconds event.occurredAt, receivedAt := wholeSeconds event.receivedAt }

/-- `record_payment_observation`: one observation for each event of a merchant. -/
def recordPaymentObservation (row : ObservationRow) : Processing Bool := do
  let known ← Tx.read fun s : Deployment => s.observations.any fun r =>
    decide (r.observation.merchantId = row.observation.merchantId ∧ r.sourceEventId = row.sourceEventId)
  if known = true then pure false
  else do
    let taken ← Tx.read fun s : Deployment => s.observations.any fun r =>
      decide (r.observation.merchantId = row.observation.merchantId ∧ r.observationId = row.observationId)
    Tx.check (taken = false) (.failure (.integrity "payment_outcome_observations_pkey"))
    Tx.write fun s => { s with observations := s.observations ++ [row] }
    pure true

/-- `isoformat` of an instant in UTC. -/
def isoInstant (t : Instant) : Option String :=
  (Calendar.moment? (Calendar.epochDays * Calendar.dayMicros + t)).map fun m =>
    String.ofList (Calendar.dateText (m.micros / Calendar.dayMicros) ++
      'T' :: (Calendar.timeText (m.micros % Calendar.dayMicros) ++ "+00:00".toList))

def incidentIdOf (a : DegradationAssessment) (evaluatedAt : String) : Identifier :=
  ⟨"incident_" ++ stableToken [a.merchantId.val, a.paymentMethod.val, a.issuerFamily.val, a.errorFamily.val, evaluatedAt], by
    have nine : "incident_".length = 9 := by decide
    have token := stableToken_length [a.merchantId.val, a.paymentMethod.val, a.issuerFamily.val, a.errorFamily.val, evaluatedAt]
    constructor
    · intro empty
      have length := congrArg String.length empty
      rw [String.length_append, nine, String.length_empty] at length
      omega
    · rw [String.length_append, nine]
      omega⟩

def applyAssessment (rt : Runtime) (policy : DegradationPolicy) (a : DegradationAssessment) : Processing Unit := do
  let evaluatedAt ← Tx.found (isoInstant a.evaluatedAt) (.failure (.value "year is out of range"))
  served (applyDegradationAssessment rt a policy (incidentIdOf a evaluatedAt))

def arithmeticError : ArithmeticFailure → ProcessingError
  | .zeroDivision => .failure (.value "integer division or modulo by zero")
  | .overflow => .failure (.value "date value out of range")

/-- `payment_observations`. -/
def paymentObservations (merchantId : Identifier) (since until_ : Instant) (rows : List ObservationRow) :
    List PaymentOutcomeObservation :=
  (rows.map (·.observation)).filter fun o =>
    decide (o.merchantId = merchantId ∧ since ≤ o.occurredAt ∧ o.occurredAt ≤ until_)

/-- `observe_and_evaluate`: an observation seen before changes nothing. -/
def observeAndEvaluate (rt : Runtime) (policy : DegradationPolicy) (row : ObservationRow) (evaluatedAt : Instant) :
    Processing Unit := do
  served (lockMerchant row.observation.merchantId)
  let created ← recordPaymentObservation row
  let since ← Tx.lift ((windowStart evaluatedAt policy.baselineWindow).mapError arithmeticError)
  let observations ← Tx.read fun s : Deployment =>
    paymentObservations row.observation.merchantId since evaluatedAt s.observations
  let assessments ← Tx.lift ((assessPaymentDegradation policy evaluatedAt observations).mapError arithmeticError)
  if created = false then pure ()
  else do
    let _ ← Tx.each (fun a : MeasuredDegradation => applyAssessment rt policy a.toDegradationAssessment) assessments
    pure ()

/-- `_upsert_provider_entities`. -/
def upsertProviderEntities (table : UpperTable) (event : RevenueRiskEvent) (document : Mapping) : Processing Unit := do
  ifGiven event.customerId fun customerId => served (upsertCustomer (customerRow event customerId))
  ifGiven event.paymentId fun paymentId => served (upsertPayment (paymentRow table event document paymentId))
  ifGiven event.subscriptionId fun subscriptionId =>
    served (upsertSubscription (subscriptionRow table event document subscriptionId))

/-- What the task does of a webhook it has found. -/
def processAccepted (w : Worker) (inputs : ProcessingInputs) (row : AcceptedWebhook) : Processing Unit := do
  let event ← Tx.lift ((row.normalized w.depth).mapError .normalization)
  upsertProviderEntities w.upper event row.rawPayload
  served (persistNormalizedEvent event.row)
  ifGiven (paymentOutcomeObservation w.upper event row.providerEventId row.rawPayload) fun observation =>
    observeAndEvaluate w.runtime w.degradation observation event.receivedAt
  let _ ← served (processEvent w.runtime inputs.evaluation event.merchantId event.eventId inputs.newCaseId inputs.evaluatedAt)
  let _ ← served (verifySignedEvent w.runtime event row.id.identifier)
  pure ()

def tenantDispatch (dispatchId merchantId webhookEventId : Identifier) (s : Deployment) : Option DispatchRow :=
  s.inbox.dispatches.find? fun d =>
    decide (d.id = dispatchId ∧ d.merchantId = merchantId ∧ d.webhookEventId = webhookEventId)

/-- `_process_webhook_event` once the dispatch is neither done nor dead. -/
def processPending (w : Worker) (inputs : ProcessingInputs) (dispatchId merchantId webhookEventId : Identifier) :
    Processing ProcessingStatus := do
  let found ← Tx.read fun s : Deployment => s.webhook merchantId webhookEventId
  let row ← Tx.found found (.failure (.lookup "verified webhook body is unavailable"))
  processAccepted w inputs row
  let _ ← Tx.on Deployment.queue .failure (markDispatchSucceeded dispatchId inputs.completedAt)
  pure .processed

/-- `_process_webhook_event`. -/
def processWebhookEvent (w : Worker) (inputs : ProcessingInputs) (dispatchId merchantId webhookEventId : Identifier) :
    Processing ProcessingStatus := do
  let found ← Tx.read (tenantDispatch dispatchId merchantId webhookEventId)
  let dispatch ← Tx.found found (.failure (.lookup "tenant-scoped dispatch does not exist"))
  match inputs.earlier.getD dispatch.state with
  | .succeeded => pure .alreadyProcessed
  | .deadLetter => pure .deadLetter
  | _ => processPending w inputs dispatchId merchantId webhookEventId

/-- `process_webhook_event` on what the task raised. -/
def reportProcessing (w : Worker) (dispatchId : Identifier) (error : ProcessingError) (now : Instant) :
    InboxTransaction DispatchState :=
  match error with
  | .normalization error => reportFailure w.printable dispatchId error now
  | .failure _ =>
    recordProcessingFailure dispatchId "TRANSIENT_PROCESSING_ERROR" "transient worker processing failure" false now

end task

end RevenueGuard
