import RevenueGuard.Domain.Diagnosis
import RevenueGuard.Kit.JsonReader
import RevenueGuard.Store.Dispatches

/-
From the body of a verified webhook to a normalized event: the document's own checks,
the contract of the event, and how the worker reports what it could not normalize.
-/
namespace RevenueGuard

section errors

def hexText (width n : Nat) : List Char :=
  List.replicate (width - (Nat.toDigits 16 n).length) '0' ++ Nat.toDigits 16 n

def reprChar (printable : Char → Bool) (mark c : Char) : List Char :=
  if c = mark ∨ c = Json.backslash then [Json.backslash, c]
  else if c.toNat = 9 then [Json.backslash, 't']
  else if c.toNat = 10 then [Json.backslash, 'n']
  else if c.toNat = 13 then [Json.backslash, 'r']
  else if 32 ≤ c.toNat ∧ c.toNat < 127 then [c]
  else if 127 < c.toNat ∧ printable c = true then [c]
  else if c.toNat < 256 then [Json.backslash, 'x'] ++ hexText 2 c.toNat
  else if c.toNat < 65536 then [Json.backslash, 'u'] ++ hexText 4 c.toNat
  else [Json.backslash, 'U'] ++ hexText 8 c.toNat

def apostrophe : Char := Char.ofNat 39

/-- Python's `repr` of a string; `printable` is the Unicode table, which is read beyond ASCII only. -/
def reprText (printable : Char → Bool) (s : String) : String :=
  let mark := if apostrophe ∈ s.toList ∧ Json.quote ∉ s.toList then Json.quote else apostrophe
  String.ofList (mark :: (s.toList.flatMap (reprChar printable mark) ++ [mark]))

inductive RazorpayEventError where
  | malformed (message : String)
  | unsupported (eventType : String)
deriving DecidableEq, Repr

def RazorpayEventError.code : RazorpayEventError → String
  | .malformed _ => "MALFORMED_RAZORPAY_EVENT"
  | .unsupported _ => "UNSUPPORTED_RAZORPAY_EVENT"

def RazorpayEventError.message (printable : Char → Bool) : RazorpayEventError → String
  | .malformed message => message
  | .unsupported eventType => "unsupported Razorpay event type: " ++ reprText printable eventType

/-- What normalization raises: its own errors, those of the JSON reader it lets through, and the event's `ValueError`. -/
inductive NormalizationError where
  | razorpay (error : RazorpayEventError)
  | digits
  | depth
  | contract (message : String)
deriving DecidableEq, Repr

def demand {E : Type} (c : Prop) [Decidable c] (e : E) : Except E Unit := if c then .ok () else .error e

end errors

section contract

/-- The arguments of the event's constructor. -/
structure EventFields where
  schemaVersion : String := "1.0"
  eventId : String
  merchantId : String
  source : EventSource
  sourceEventId : String
  eventType : String
  occurredAt : Instant
  receivedAt : Instant
  amountMinor : Int
  currency : String
  normalizedFailureCategory : NormalizedFailureCategory
  correlationId : String
  sourcePayloadReference : String
  customerId : Option String := none
  paymentId : Option String := none
  orderId : Option String := none
  subscriptionId : Option String := none
  invoiceId : Option String := none
  paymentLinkId : Option String := none
  failureCode : Option String := none
  causationId : Option String := none
deriving DecidableEq, Repr

/-- A field with its value and the most characters it may have. -/
abbrev FieldLimit := String × String × Nat

def EventFields.requiredLimits (f : EventFields) : List FieldLimit :=
  [("event_id", f.eventId, 128), ("merchant_id", f.merchantId, 128), ("source_event_id", f.sourceEventId, 256),
    ("event_type", f.eventType, 128), ("correlation_id", f.correlationId, 128),
    ("source_payload_reference", f.sourcePayloadReference, 512)]

def EventFields.optionalLimits (f : EventFields) : List (String × Option String × Nat) :=
  [("customer_id", f.customerId, 128), ("payment_id", f.paymentId, 128), ("order_id", f.orderId, 128),
    ("subscription_id", f.subscriptionId, 128), ("invoice_id", f.invoiceId, 128),
    ("payment_link_id", f.paymentLinkId, 128), ("failure_code", f.failureCode, 128), ("causation_id", f.causationId, 128)]

def EventFields.subjects (f : EventFields) : List (Option String) :=
  [f.customerId, f.paymentId, f.subscriptionId, f.invoiceId, f.paymentLinkId]

def FieldLimit.Met (l : FieldLimit) : Prop := l.2.1 ≠ "" ∧ l.2.1.length ≤ l.2.2

instance (l : FieldLimit) : Decidable l.Met := inferInstanceAs (Decidable (_ ∧ _))

def validateIdentifier (l : FieldLimit) : Except String Unit :=
  demand l.Met (l.1 ++ " must contain between 1 and " ++ toString l.2.2 ++ " characters")

def validateIdentifiers : List FieldLimit → Except String Unit
  | [] => .ok ()
  | l :: rest => do
    validateIdentifier l
    validateIdentifiers rest

/-- The optional fields that are there. -/
def given (limits : List (String × Option String × Nat)) : List FieldLimit :=
  limits.filterMap fun l => l.2.1.map fun value => (l.1, value, l.2.2)

def uppercaseCode (currency : String) : Bool :=
  decide (currency.toList.length = 3) && currency.toList.all fun c => decide ('A' ≤ c ∧ c ≤ 'Z')

/-- What every event satisfies. -/
structure EventFields.Contract (f : EventFields) : Prop where
  version : f.schemaVersion = "1.0"
  required : ∀ l ∈ f.requiredLimits, l.Met
  optional : ∀ l ∈ given f.optionalLimits, l.Met
  subject : f.subjects.any Option.isSome = true
  amount : 0 ≤ f.amountMinor
  currency : uppercaseCode f.currency = true

/-- The checks of `RevenueRiskEvent.__post_init__`. -/
def EventFields.checks (f : EventFields) : Except String Unit := do
  demand (f.schemaVersion = "1.0") ("unsupported RevenueRiskEvent schema: " ++ f.schemaVersion)
  validateIdentifiers f.requiredLimits
  validateIdentifiers (given f.optionalLimits)
  demand (f.subjects.any Option.isSome = true) "a RevenueRiskEvent requires at least one subject reference"
  demand (0 ≤ f.amountMinor) "amount_minor cannot be negative"
  demand (uppercaseCode f.currency = true) "currency must be a three-letter uppercase ISO code"

theorem demand_ok_iff {E : Type} {c : Prop} [Decidable c] {e : E} {u : Unit} : demand c e = .ok u ↔ c := by
  unfold demand
  split <;> simp_all

theorem bind_ok_iff {E A B : Type} {x : Except E A} {f : A → Except E B} {b : B} :
    (x >>= f) = .ok b ↔ ∃ a, x = .ok a ∧ f a = .ok b := by
  cases x with
  | error e => simp [bind, Except.bind]
  | ok a => simp [bind, Except.bind]

theorem validateIdentifiers_ok_iff {limits : List FieldLimit} {u : Unit} :
    validateIdentifiers limits = .ok u ↔ ∀ l ∈ limits, l.Met := by
  induction limits with
  | nil => simp [validateIdentifiers]
  | cons l rest ih => simp [validateIdentifiers, validateIdentifier, bind_ok_iff, demand_ok_iff, ih]

theorem EventFields.checks_ok_iff {f : EventFields} : f.checks = .ok () ↔ f.Contract := by
  unfold EventFields.checks
  simp only [bind_ok_iff, demand_ok_iff, validateIdentifiers_ok_iff, exists_and_left, exists_const]
  constructor
  · rintro ⟨version, required, optional, subject, amount, currency⟩
    exact ⟨version, required, optional, subject, amount, currency⟩
  · intro contract
    exact ⟨contract.version, contract.required, contract.optional, contract.subject, contract.amount, contract.currency⟩

/-- An event whose fields satisfy the contract. -/
abbrev ContractEvent := { f : EventFields // f.Contract }

/-- The constructor of `RevenueRiskEvent`. -/
def revenueRiskEvent (f : EventFields) : Except String ContractEvent :=
  match h : f.checks with
  | .ok () => .ok ⟨f, EventFields.checks_ok_iff.mp h⟩
  | .error message => .error message

end contract

section toEvent

def identified : (value : Option String) → (∀ s ∈ value, s ≠ "" ∧ s.length ≤ 128) → Option Identifier
  | none, _ => none
  | some s, valid => some ⟨s, valid s rfl⟩

@[simp] theorem identified_isSome (value : Option String) (valid : ∀ s ∈ value, s ≠ "" ∧ s.length ≤ 128) :
    (identified value valid).isSome = value.isSome := by
  cases value <;> rfl

variable {f : EventFields}

theorem EventFields.Contract.text (contract : f.Contract) (name : String) {value : String}
    (listed : (name, value, 128) ∈ f.requiredLimits) : value ≠ "" ∧ value.length ≤ 128 :=
  contract.required _ listed

theorem EventFields.Contract.given (contract : f.Contract) (name : String) {value : Option String}
    (listed : (name, value, 128) ∈ f.optionalLimits) : ∀ s ∈ value, s ≠ "" ∧ s.length ≤ 128 := by
  intro s present
  refine contract.optional (name, s, 128) (List.mem_filterMap.mpr ⟨_, listed, ?_⟩)
  rw [Option.mem_def.mp present]
  rfl

theorem uppercaseCode_iff {currency : String} :
    uppercaseCode currency = true ↔ currency.toList.length = 3 ∧ ∀ c ∈ currency.toList, 'A' ≤ c ∧ c ≤ 'Z' := by
  simp [uppercaseCode]

/-- The event as the services downstream read it. -/
def toRevenueRiskEvent (event : ContractEvent) : RevenueRiskEvent :=
  have contract := event.2
  { eventId := ⟨event.1.eventId, contract.text "event_id" (by simp [EventFields.requiredLimits])⟩
    merchantId := ⟨event.1.merchantId, contract.text "merchant_id" (by simp [EventFields.requiredLimits])⟩
    source := event.1.source
    sourceEventId := event.1.sourceEventId
    eventType := ⟨event.1.eventType, contract.text "event_type" (by simp [EventFields.requiredLimits])⟩
    occurredAt := event.1.occurredAt
    receivedAt := event.1.receivedAt
    amountMinor := event.1.amountMinor.toNat
    currency := ⟨event.1.currency, uppercaseCode_iff.mp contract.currency⟩
    normalizedFailureCategory := event.1.normalizedFailureCategory
    customerId := identified event.1.customerId (contract.given "customer_id" (by simp [EventFields.optionalLimits]))
    paymentId := identified event.1.paymentId (contract.given "payment_id" (by simp [EventFields.optionalLimits]))
    orderId := identified event.1.orderId (contract.given "order_id" (by simp [EventFields.optionalLimits]))
    subscriptionId := identified event.1.subscriptionId (contract.given "subscription_id" (by simp [EventFields.optionalLimits]))
    invoiceId := identified event.1.invoiceId (contract.given "invoice_id" (by simp [EventFields.optionalLimits]))
    paymentLinkId := identified event.1.paymentLinkId (contract.given "payment_link_id" (by simp [EventFields.optionalLimits]))
    subject := by simpa [EventFields.subjects, or_assoc] using contract.subject }

end toEvent

section document

/-- A JSON object. -/
abbrev Mapping := List (String × Json)

def Mapping.get (value : Mapping) (field : String) : Json := (value.lookup field).getD .null

def Mapping.requiredMapping (value : Mapping) (field : String) : Except RazorpayEventError Mapping :=
  match value.get field with
  | .obj candidate => .ok candidate
  | _ => .error (.malformed (field ++ " must be an object"))

def Mapping.requiredString (value : Mapping) (field : String) : Except RazorpayEventError String :=
  match value.get field with
  | .str s => if s = "" then .error (.malformed (field ++ " must be a non-empty string")) else .ok s
  | _ => .error (.malformed (field ++ " must be a non-empty string"))

def declaredEntity (entity : Mapping) (entityName : String) (allowMissingDeclaration : Bool) : Bool :=
  match entity.get "entity" with
  | .null => allowMissingDeclaration
  | .str declared => decide (declared = entityName)
  | _ => false

def Mapping.optionalEntity (payload : Mapping) (entityName : String) (allowMissingDeclaration : Bool) :
    Except RazorpayEventError (Option Mapping) :=
  match payload.get entityName with
  | .null => .ok none
  | .obj wrapper =>
    match Mapping.get wrapper "entity" with
    | .obj entity =>
      if declaredEntity entity entityName allowMissingDeclaration then .ok (some entity)
      else .error (.malformed ("payload." ++ entityName ++ ".entity.entity must be '" ++ entityName ++ "'"))
    | _ => .error (.malformed ("payload." ++ entityName ++ ".entity must be an object"))
  | _ => .error (.malformed ("payload." ++ entityName ++ " must be an object"))

def entityIdentifier (entity : Option Mapping) (field : String) : Except RazorpayEventError (Option String) :=
  match entity with
  | none => .ok none
  | some entity =>
    match entity.get field with
    | .null => .ok none
    | .str value =>
      if value = "" then .error (.malformed ("entity field " ++ field ++ " must be a non-empty string"))
      else .ok (some value)
    | _ => .error (.malformed ("entity field " ++ field ++ " must be a non-empty string"))

def firstIdentifier (field : String) : List (Option Mapping) → Except RazorpayEventError (Option String)
  | [] => .ok none
  | entity :: rest => do
    match ← entityIdentifier entity field with
    | some identifier => pure (some identifier)
    | none => firstIdentifier field rest

def Mapping.requiredNonnegativeInteger (entity : Mapping) (field : String) : Except RazorpayEventError Int :=
  match entity.get field with
  | .int value => if value < 0 then .error (.malformed (field ++ " must be a non-negative integer")) else .ok value
  | _ => .error (.malformed (field ++ " must be a non-negative integer"))

def isAscii (s : String) : Bool := s.toList.all fun c => decide (c.toNat < 128)

/-- `isalpha` and `isupper` of an ASCII string. -/
def isAlpha (s : String) : Bool := decide (s ≠ "") && s.toList.all Char.isAlpha

def isUpper (s : String) : Bool := s.toList.any Char.isUpper && s.toList.all fun c => !c.isLower

def Mapping.requiredCurrency (entity : Mapping) : Except RazorpayEventError String := do
  let value ← entity.requiredString "currency"
  demand (¬ (value.length ≠ 3 ∨ isAscii value = false ∨ isAlpha value = false ∨ isUpper value = false))
    (.malformed "currency must be a three-letter uppercase ISO code")
  pure value

/-- The last second that a `datetime` can hold. -/
def lastTimestamp : Int := 253402300799

def Mapping.providerTimestamp (document : Mapping) (field : String) : Except RazorpayEventError Instant :=
  match document.get field with
  | .int value =>
    if value < 0 then .error (.malformed (field ++ " must be a non-negative Unix timestamp"))
    else if lastTimestamp < value then .error (.malformed (field ++ " is outside the supported range"))
    else .ok (seconds value)
  | _ => .error (.malformed (field ++ " must be a non-negative Unix timestamp"))

def paymentEvents : List String := ["payment.authorized", "payment.captured", "payment.failed"]

def subscriptionEvents : List String := ["subscription.pending", "subscription.charged", "subscription.halted"]

def paymentLinkEvents : List String := ["payment_link.paid", "payment_link.cancelled", "payment_link.expired"]

def supportedEventTypes : List String := paymentEvents ++ subscriptionEvents ++ paymentLinkEvents

def failureEvents : List String := ["payment.failed", "subscription.pending", "subscription.halted"]

/-- `lower`, as far as a search for ASCII text can tell: other letters have no ASCII lowercase. -/
def lowered (s : String) : List Char :=
  s.toList.flatMap fun c =>
    if c.toNat = 0x212A then ['k'] else if c.toNat = 0x130 then ['i', Char.ofNat 0x307] else [c.toLower]

def failureMappings : List (List String × NormalizedFailureCategory) :=
  [(["insufficient_funds", "insufficient fund"], .insufficientFunds),
    (["expired_card", "card_expired", "expired payment"], .expiredPaymentMethod),
    (["authentication", "incorrect_otp", "otp_failed"], .authenticationFailure),
    (["issuer_down", "bank_down", "issuer_unavailable"], .issuerUnavailable),
    (["gateway_down", "gateway_unavailable"], .gatewayUnavailable),
    (["customer_action_required"], .customerActionRequired),
    (["dispute"], .dispute)]

def failureCategory (evidence : List Char) : NormalizedFailureCategory :=
  match failureMappings.find? fun m => m.1.any fun token => decide (token.toList <:+: evidence) with
  | some (_, category) => category
  | none => .unknown

def failureDetails (eventType : String) (payment : Option Mapping) :
    Except RazorpayEventError (Option String × NormalizedFailureCategory) :=
  if eventType ∉ failureEvents then .ok (none, .none)
  else if payment.isNone then .ok (none, .unknown)
  else do
    let code ← entityIdentifier payment "error_code"
    let reason ← entityIdentifier payment "error_reason"
    let description ← entityIdentifier payment "error_description"
    let evidence := [' '].intercalate (([code, reason, description].filterMap id).map lowered)
    pure (code.or reason, failureCategory evidence)

end document

section normalize

/-- What the caller supplies, within the contract. -/
structure EventContext where
  merchantId : Identifier
  providerEventId : { s : String // s ≠ "" ∧ s.length ≤ 256 }
  eventId : Identifier
  receivedAt : Instant
  correlationId : Identifier
  sourcePayloadReference : { s : String // s ≠ "" ∧ s.length ≤ 512 }
  causationId : Option Identifier := none
  source : EventSource := .razorpay
deriving DecidableEq, Repr

/-- `limit` is how many values the JSON reader may nest before the interpreter stops it. -/
def parseDocument (limit : Nat) (rawBody : ByteArray) : Except NormalizationError Mapping :=
  match String.fromUTF8? rawBody with
  | none => .error (.razorpay (.malformed "body must be a UTF-8 JSON object"))
  | some decoded =>
    match JsonReader.loads limit decoded.toList with
    | .error .decode => .error (.razorpay (.malformed "body must be a UTF-8 JSON object"))
    | .error .digits => .error .digits
    | .error .depth => .error .depth
    | .ok (.obj document) => .ok document
    | .ok _ => .error (.razorpay (.malformed "top-level JSON value must be an object"))

/-- `normalize_razorpay_event` between the document and the event's constructor. -/
def eventFields (context : EventContext) (document : Mapping) : Except RazorpayEventError EventFields := do
  let eventType ← document.requiredString "event"
  demand (eventType ∈ supportedEventTypes) (.unsupported eventType)
  let entity ← document.requiredString "entity"
  demand (entity = "event") (.malformed "top-level entity must be 'event'")
  let payload ← document.requiredMapping "payload"
  let payment ← payload.optionalEntity "payment" false
  let subscription ← payload.optionalEntity "subscription" false
  let paymentLink ← payload.optionalEntity "payment_link" true
  demand (¬ (eventType ∈ paymentEvents ∧ payment.isNone = true))
    (.malformed (eventType ++ " requires payload.payment.entity"))
  demand (¬ (eventType ∈ subscriptionEvents ∧ subscription.isNone = true))
    (.malformed (eventType ++ " requires payload.subscription.entity"))
  demand (¬ (eventType ∈ paymentLinkEvents ∧ paymentLink.isNone = true))
    (.malformed (eventType ++ " requires payload.payment_link.entity"))
  match payment.or paymentLink with
  | none => .error (.malformed (eventType ++ " requires a payment or payment-link amount"))
  | some financialEntity => do
    let amountMinor ← financialEntity.requiredNonnegativeInteger "amount"
    let currency ← financialEntity.requiredCurrency
    let failure ← failureDetails eventType payment
    let occurredAt ← document.providerTimestamp "created_at"
    let customerId ← firstIdentifier "customer_id" [payment, subscription, paymentLink]
    let paymentId ← entityIdentifier payment "id"
    let orderId ← entityIdentifier payment "order_id"
    let subscriptionId ← entityIdentifier subscription "id"
    let invoiceId ← entityIdentifier payment "invoice_id"
    let paymentLinkId ← entityIdentifier paymentLink "id"
    pure
      { eventId := context.eventId.1, merchantId := context.merchantId.1, source := context.source
        sourceEventId := context.providerEventId.1, eventType := eventType, occurredAt := occurredAt
        receivedAt := context.receivedAt, customerId := customerId, paymentId := paymentId, orderId := orderId
        subscriptionId := subscriptionId, invoiceId := invoiceId, paymentLinkId := paymentLinkId
        amountMinor := amountMinor, currency := currency, failureCode := failure.1
        normalizedFailureCategory := failure.2, correlationId := context.correlationId.1
        causationId := context.causationId.map (·.1), sourcePayloadReference := context.sourcePayloadReference.1 }

def normalizeRazorpayEvent (limit : Nat) (context : EventContext) (rawBody : ByteArray) :
    Except NormalizationError ContractEvent := do
  let document ← parseDocument limit rawBody
  let fields ← (eventFields context document).mapError .razorpay
  (revenueRiskEvent fields).mapError .contract

/-- `process_webhook_event` on what normalization raises: the first branch is for `RazorpayEventError`. -/
def reportFailure (printable : Char → Bool) (dispatchId : Identifier) (error : NormalizationError) (now : Instant) :
    InboxTransaction DispatchState :=
  match error with
  | .razorpay error =>
    recordProcessingFailure dispatchId error.code (String.ofList ((error.message printable).toList.take 500)) true now
  | _ =>
    recordProcessingFailure dispatchId "TRANSIENT_PROCESSING_ERROR" "transient worker processing failure" false now

end normalize

end RevenueGuard
