import RevenueGuard.Domain.Keys
import RevenueGuard.Services.Worker

/-
Simulated checkouts: a session of a fixed scenario is created, and submitting it signs
and stores the webhook of that scenario as the simulator's. Nothing is recovered here:
the stored webhook goes through the same worker as any other.
-/
namespace RevenueGuard

section documents

def Scenario.succeeded (s : Scenario) : Bool := decide (s = .success)

/-- Error code, reason and description of a scenario that fails. -/
def Scenario.failure : Scenario → String × String × String
  | .insufficientFunds =>
    ("BAD_REQUEST_ERROR", "insufficient_funds", "The synthetic account has insufficient funds.")
  | .authenticationFailure =>
    ("BAD_REQUEST_ERROR", "authentication_failed", "Synthetic payment authentication was not completed.")
  | .issuerOutage => ("SERVER_ERROR", "issuer_unavailable", "The synthetic issuer is temporarily unavailable.")
  | .timeout => ("GATEWAY_ERROR", "gateway_timeout", "The synthetic payment gateway timed out.")
  | .success => ("", "", "")

def generatorVersion : String := "dashboard-simulator-1.0"

/-- `int(occurred_at.timestamp())`. -/
def timestamp (t : Instant) : Int := Int.tdiv t 1000000

def failureFields (scenario : Scenario) : Mapping :=
  if scenario.succeeded then []
  else [("error_code", .str scenario.failure.1), ("error_reason", .str scenario.failure.2.1),
    ("error_description", .str scenario.failure.2.2)]

def simulatedPayment (row : SimulationSession) (occurredAt : Instant) : Mapping :=
  [("id", .str row.paymentId.val), ("entity", .str "payment"), ("amount", .int row.amountMinor),
    ("currency", .str row.currency.val), ("status", .str (if row.scenario.succeeded then "captured" else "failed")),
    ("customer_id", .str row.customerId.val), ("created_at", .int (timestamp occurredAt))] ++ failureFields row.scenario

def subscriptionIdText (row : SimulationSession) : Json := match row.subscriptionId with
  | some id => .str id.val
  | none => .null

def simulatedSubscription (row : SimulationSession) (occurredAt : Instant) : Mapping :=
  [("id", subscriptionIdText row), ("entity", .str "subscription"), ("customer_id", .str row.customerId.val),
    ("status", .str (if row.scenario.succeeded then "active" else "pending")), ("created_at", .int (timestamp occurredAt))]

def wrapped (entity : Mapping) : Json := .obj [("entity", .obj entity)]

def simulatedEventType (row : SimulationSession) : String :=
  match row.flowType, row.scenario.succeeded with
  | .subscription, true => "subscription.charged"
  | .subscription, false => "subscription.pending"
  | .oneTime, true => "payment.captured"
  | .oneTime, false => "payment.failed"

def simulationNotes (row : SimulationSession) : Mapping :=
  [("classification", .str "SYNTHETIC"), ("generator_version", .str row.generatorVersion), ("simulation_id", .str row.id.val)]

def eventDocument (eventType : String) (contains : List String) (payload notes : Mapping) (occurredAt : Instant) : Mapping :=
  [("entity", .str "event"), ("account_id", .str "acc_synthetic_revenueguard_demo"), ("event", .str eventType),
    ("contains", .arr (contains.map .str)), ("payload", .obj payload), ("created_at", .int (timestamp occurredAt)),
    ("notes", .obj notes)]

/-- `_simulation_payload`. -/
def simulationPayload (row : SimulationSession) (occurredAt : Instant) : Mapping :=
  let payment := ("payment", wrapped (simulatedPayment row occurredAt))
  match row.flowType with
  | .oneTime => eventDocument (simulatedEventType row) ["payment"] [payment] (simulationNotes row) occurredAt
  | .subscription =>
    eventDocument (simulatedEventType row) ["subscription", "payment"]
      [payment, ("subscription", wrapped (simulatedSubscription row occurredAt))] (simulationNotes row) occurredAt

/-- `_simulation_recovery_payload`. -/
def simulationRecoveryPayload (row : SimulationSession) (paymentLinkId : String) (occurredAt : Instant) : Mapping :=
  eventDocument "payment_link.paid" ["payment_link", "payment"]
    [("payment_link", wrapped
        [("id", .str paymentLinkId), ("entity", .str "payment_link"), ("amount", .int row.amountMinor),
          ("currency", .str row.currency.val), ("customer_id", .str row.customerId.val), ("status", .str "paid"),
          ("created_at", .int (timestamp occurredAt))]),
      ("payment", wrapped
        [("id", .str row.paymentId.val), ("entity", .str "payment"), ("amount", .int row.amountMinor),
          ("currency", .str row.currency.val), ("status", .str "captured"), ("customer_id", .str row.customerId.val),
          ("created_at", .int (timestamp occurredAt))])]
    (simulationNotes row ++ [("purpose", .str "INTEGRATED_RECOVERY_EVIDENCE")]) occurredAt

end documents

section sessions

inductive CheckoutError where
  | notFound (detail : String)
  | conflict (detail : String)
  | assertion (detail : String)
  | persistence (failure : Failure)
deriving DecidableEq, Repr

structure SimulationCreateRequest where
  scenario : Scenario
  flowType : FlowType
  amountMinor : Nat
  currency : Currency
  bounds : 0 < amountMinor ∧ amountMinor ≤ 100000000

/-- The token of a session, short enough for its column. -/
abbrev SessionToken := { s : String // s.length ≤ 60 }

/-- A short name with a token behind it. -/
theorem tokened {name token : String} (first : 0 < name.length) (fits : name.length + token.length ≤ 128) :
    name ++ token ≠ "" ∧ (name ++ token).length ≤ 128 := by
  constructor
  · intro empty
    have length := congrArg String.length empty
    rw [String.length_append, String.length_empty] at length
    omega
  · rw [String.length_append]
    exact fits

def digestToken (width : Nat) (text : String) : String :=
  String.ofList ((Sha256.hexdigest (Json.utf8 text.toList)).toList.take width)

theorem digestToken_length (width : Nat) (text : String) : (digestToken width text).length ≤ width := by
  rw [digestToken, String.length_ofList]
  exact List.length_take_le _ _

theorem named_digest {name : String} (first : 0 < name.length ∧ name.length ≤ 32) (text : String) :
    name ++ digestToken 24 text ≠ "" ∧ (name ++ digestToken 24 text).length ≤ 128 := by
  have bound := digestToken_length 24 text
  exact tokened first.1 (by omega)

def simulationId (token : SessionToken) : Identifier :=
  ⟨"sim_" ++ token.1, tokened (by decide) (by have bound := token.2; have four : "sim_".length = 4 := by decide
                                              omega)⟩

theorem eventIdText_fits {name : String} (first : 0 < name.length ∧ name.length ≤ 32) (text : String) :
    name ++ digestToken 32 text ≠ "" ∧ (name ++ digestToken 32 text).length ≤ 256 := by
  have bound := digestToken_length 32 text
  have fits : name ++ digestToken 32 text ≠ "" ∧ (name ++ digestToken 32 text).length ≤ 128 := tokened first.1 (by omega)
  exact ⟨fits.1, by omega⟩

def simulationEventId (row : SimulationSession) : ProviderEventId :=
  ⟨"sim_evt_" ++ digestToken 32 row.id.val, eventIdText_fits (by decide) _⟩

def recoveryEventId (simulationId : Identifier) : ProviderEventId :=
  ⟨"sim_recovery_evt_" ++ digestToken 32 simulationId.val, eventIdText_fits (by decide) _⟩

def newSession (merchantId : Identifier) (request : SimulationCreateRequest) (token : SessionToken) (now : Instant) :
    SimulationSession :=
  let id := simulationId token
  { merchantId := merchantId, id := id, scenario := request.scenario, flowType := request.flowType
    amountMinor := request.amountMinor, currency := request.currency
    customerId := ⟨"customer_sim_" ++ digestToken 24 id.val, named_digest (by decide) _⟩
    paymentId := ⟨"pay_sim_" ++ digestToken 24 id.val, named_digest (by decide) _⟩
    subscriptionId := if request.flowType = .subscription then
        some ⟨"sub_sim_" ++ digestToken 24 id.val, named_digest (by decide) _⟩ else none
    providerEventId := none, status := .created, generatorVersion := generatorVersion, expiresAt := now + seconds 3600
    attemptedAt := none, createdAt := now, updatedAt := now }

abbrev Checkout (A : Type) : Type := Tx Deployment CheckoutError A

/-- `create_simulation`. -/
def createSimulation (merchantId : Identifier) (request : SimulationCreateRequest) (token : SessionToken) (now : Instant) :
    Checkout SimulationSession := do
  let active ← Tx.read fun s : Deployment => s.active merchantId
  Tx.check (active = true) (.notFound "merchant was not found")
  let row := newSession merchantId request token now
  let taken ← Tx.read fun s : Deployment => s.simulations.any fun r =>
    decide (r.id = row.id ∨ (r.merchantId = merchantId ∧ r.paymentId = row.paymentId))
  Tx.check (taken = false) (.persistence (.integrity "uq_simulation_sessions_public_id"))
  Tx.write fun s => { s with simulations := s.simulations ++ [row] }
  pure row

def signedBody (simulatorSecret : String) (payload : Mapping) : Checkout (List UInt8) := do
  let rawBody := asciiBytes (.obj payload)
  let signature := Sha256.hmacHexdigest (Json.utf8 simulatorSecret.toList) rawBody
  Tx.check (verifyRazorpaySignature rawBody signature simulatorSecret = .ok true)
    (.assertion "synthetic webhook signature verification failed")
  pure rawBody

/-- Fresh ids and clocks of a submission. -/
structure SubmissionInputs where
  eventId : Uuid
  dispatchId : Uuid
  now : Instant
  createdAt : Instant

structure Simulator where
  secret : String
  jsonColumn : Mapping → Option Mapping

def wholeStore : Lens Deployment Deployment := ⟨id, fun t _ => t, fun _ _ => rfl⟩

/-- The simulator's webhook, stored as any other. -/
def storeSimulated (sim : Simulator) (inputs : SubmissionInputs) (merchantId : Identifier) (providerEventId : ProviderEventId)
    (eventType : String) (entityId : String) (payload : Mapping) : Checkout Bool := do
  let rawBody ← signedBody sim.secret payload
  Tx.check (eventType.length ≤ 128 ∧ entityId.length ≤ 128) (.persistence (.value "value too long for type character varying"))
  let column ← Tx.found (sim.jsonColumn payload) (.persistence (.value "unsupported Unicode escape sequence"))
  Tx.on wholeStore .persistence (recordAccepted
    { id := inputs.eventId, merchantId := merchantId, provider := "SIMULATOR", providerEventId := providerEventId
      eventType := eventType, entityId := some entityId, rawBody := rawBody, rawPayload := column
      occurredAt := some inputs.now, receivedAt := inputs.now
      correlationId := correlationOf (Json.utf8 providerEventId.1.toList) } inputs.dispatchId inputs.createdAt)

def setSession (row : SimulationSession) : Checkout Unit :=
  Tx.write fun s => { s with simulations := Table.update SimulationSession.id row.id (fun _ => row) s.simulations }

inductive Submission where
  | submitted (providerEventId : ProviderEventId)
  | expired
deriving DecidableEq, Repr

def SimulationSession.submit (row : SimulationSession) (providerEventId : ProviderEventId) (now : Instant) : SimulationSession :=
  { row with providerEventId := some providerEventId, status := .submitted, attemptedAt := some now, updatedAt := now }

/-- `submit_simulation`; an expired session is marked so and the caller told of a conflict. -/
def submitSimulation (sim : Simulator) (inputs : SubmissionInputs) (simulationId : Identifier) : Checkout Submission := do
  let found ← Tx.read fun s : Deployment => Table.lookup SimulationSession.id simulationId s.simulations
  let row ← Tx.found found (.notFound "simulation session was not found")
  match decide (row.status = .submitted), row.providerEventId with
  | true, some providerEventId => pure (.submitted providerEventId)
  | _, _ =>
    if row.expiresAt ≤ inputs.now then do
      setSession { row with status := .expired, updatedAt := inputs.now }
      pure .expired
    else do
      let providerEventId := simulationEventId row
      let created ← storeSimulated sim inputs row.merchantId providerEventId (simulatedEventType row)
        (row.subscriptionId.getD row.paymentId).val (simulationPayload row inputs.now)
      setSession (row.submit providerEventId inputs.now)
      Tx.check (created = true) (.conflict "simulation event already exists")
      pure (.submitted providerEventId)

def laterCase (best : Option CaseRow) (row : CaseRow) : Option CaseRow :=
  match best with
  | none => some row
  | some b => if b.case.createdAt < row.case.createdAt then some row else some b

/-- `_simulation_case`: the latest case of the session's payment or subscription. -/
def simulationCase (row : SimulationSession) (s : Deployment) : Option CaseRow :=
  (s.database.cases.filter fun r => decide (r.case.merchantId = row.merchantId
    ∧ (r.case.subjectId = row.paymentId ∨ some r.case.subjectId = row.subscriptionId))).foldl laterCase none

/-- The latest payment link of a case; rows stand in the order of their inserts. -/
def latestPaymentLink (key : CaseKey) (s : Deployment) : Option ActionRow :=
  (s.database.actions.filter fun r => decide (r.key = key ∧ r.action.identity.actionType = .createPaymentLink)).getLast?

/-- The link whose payment a simulated recovery reports. -/
def recoverableLink (row : SimulationSession) (s : Deployment) : Option String :=
  (simulationCase row s).bind fun case => (latestPaymentLink case.key s).bind fun action =>
    if (action.status = .succeeded ∨ action.status = .unknown)
        ∧ (case.case.state = .verifying ∨ case.case.state = .unknown ∨ case.case.state = .recovered) then
      action.providerObjectId
    else none

/-- `submit_simulation_recovery`. -/
def submitSimulationRecovery (sim : Simulator) (inputs : SubmissionInputs) (merchantId simulationId : Identifier) :
    Checkout ProviderEventId := do
  let found ← Tx.read fun s : Deployment => s.simulations.find? fun r =>
    decide (r.merchantId = merchantId ∧ r.id = simulationId)
  let row ← Tx.found found (.notFound "simulation session was not found")
  Tx.check (row.scenario = .authenticationFailure ∧ row.status = .submitted)
    (.conflict "recovery evidence requires a submitted authentication-failure simulation")
  let link ← Tx.read (recoverableLink row)
  let link ← Tx.found link (.conflict "payment-link action has not reached outcome verification")
  let _ ← storeSimulated sim inputs merchantId (recoveryEventId simulationId) "payment_link.paid" link
    (simulationRecoveryPayload row link inputs.now)
  pure (recoveryEventId simulationId)

end sessions

end RevenueGuard
