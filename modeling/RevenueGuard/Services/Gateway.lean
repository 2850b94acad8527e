import RevenueGuard.Store.Deployment

/-
The webhook gateway: headers and a bounded body are taken, the merchant is resolved,
the signature is checked over the exact bytes, and only then is the body decoded and
stored with its dispatch. Nothing is processed here.
-/
namespace RevenueGuard

section request

structure Settings where
  webhookMaxBodyBytes : Nat
  merchantRoutingHeader : String := "X-RevenueGuard-Merchant-Id"
  merchantId : Option Identifier
  webhookSecret : Option String
  eventDispatchMaxAttempts : Nat

/-- Header names are in lower case, as the server hands them over; the first of a name counts. -/
structure WebhookRequest where
  headers : List (String × String)
  stream : List (List UInt8)

def WebhookRequest.header (request : WebhookRequest) (name : String) : Option String := request.headers.lookup (lower name)

/-- What a handler raises: an `HTTPException`, or anything else, which is answered with status 500. -/
inductive HandlerError where
  | http (statusCode : Nat) (detail : String)
  | unhandled
deriving DecidableEq, Repr

def strip (s : String) : String :=
  String.ofList ((s.toList.dropWhile stripped).reverse.dropWhile stripped).reverse

def requiredHeader (value : Option String) (headerName : String) : Except HandlerError String :=
  match value with
  | none => .error (.http 400 ("missing required header: " ++ headerName))
  | some value =>
    if strip value = "" then .error (.http 400 ("missing required header: " ++ headerName)) else .ok (strip value)

/-- A header that is sent never falls back to the configured merchant. -/
def merchantRoutingIdentifier (headerValue : Option String) (settings : Settings) : Except HandlerError String :=
  if headerValue.isSome then requiredHeader headerValue settings.merchantRoutingHeader
  else match settings.merchantId with
    | some merchantId => .ok merchantId.val
    | none => requiredHeader none settings.merchantRoutingHeader

/-- Digits with single underscores between them. -/
def ungrouped : List Char → Option (List Char)
  | [] => none
  | [c] => if c.isDigit then some [c] else none
  | c :: '_' :: rest => if c.isDigit then (ungrouped rest).map (c :: ·) else none
  | c :: rest => if c.isDigit then (ungrouped rest).map (c :: ·) else none

/-- `int` of a header, which has no digits beyond ASCII. -/
def pythonInt (text : String) : Option Int :=
  let (negative, digits) := match (strip text).toList with
    | '+' :: rest => (false, rest)
    | '-' :: rest => (true, rest)
    | cs => (false, cs)
  (ungrouped digits).bind fun digits =>
    if JsonReader.maxStrDigits < digits.length then none
    else some (if negative then -(Nat.ofDigitChars 10 digits 0 : Int) else Nat.ofDigitChars 10 digits 0)

def tooLarge : HandlerError := .http 413 "webhook body exceeds configured limit"

def checkContentLength (contentLength : Option String) (maximumBytes : Nat) : Except HandlerError Unit :=
  match contentLength with
  | none => .ok ()
  | some text => match pythonInt text with
    | none => .error (.http 400 "invalid Content-Length header")
    | some declared =>
      if declared < 0 then .error (.http 400 "invalid Content-Length header")
      else if maximumBytes < declared then .error tooLarge
      else .ok ()

/-- Reading stops at the first chunk that takes the body over the limit. -/
def readStream (maximumBytes : Nat) (body : List UInt8) : List (List UInt8) → Except HandlerError (List UInt8)
  | [] => .ok body
  | chunk :: rest =>
    if maximumBytes < (body ++ chunk).length then .error tooLarge else readStream maximumBytes (body ++ chunk) rest

def readBoundedRawBody (request : WebhookRequest) (maximumBytes : Nat) : Except HandlerError (List UInt8) := do
  checkContentLength (request.header "content-length") maximumBytes
  readStream maximumBytes [] request.stream

end request

section authentication

structure ResolvedMerchant where
  merchantId : Identifier
  webhookSecret : String

/-- The merchant and secret the composition root installs a resolver for; without them every route is unknown. -/
def Settings.configured (settings : Settings) : Option ResolvedMerchant :=
  match settings.merchantId, settings.webhookSecret with
  | some merchantId, some secret => if secret = "" then none else some ⟨merchantId, secret⟩
  | _, _ => none

def Deployment.active (s : Deployment) (merchantId : Identifier) : Bool :=
  s.merchants.any fun r => decide (r.id = merchantId ∧ r.status = "ACTIVE")

/-- `DatabaseMerchantWebhookResolver.resolve`; `up` is whether the store answers. -/
def resolveMerchant (settings : Settings) (routingIdentifier : String) (up : Bool) (s : Deployment) :
    Except HandlerError (Option ResolvedMerchant) :=
  match settings.configured with
  | none => .ok none
  | some merchant =>
    if routingIdentifier ≠ merchant.merchantId.val then .ok none
    else if up = false then .error (.http 503 "merchant resolution unavailable")
    else if s.active merchant.merchantId then .ok (some merchant)
    else .ok none

def isHex (c : Char) : Bool := c.isDigit || decide ('a' ≤ c ∧ c ≤ 'f') || decide ('A' ≤ c ∧ c ≤ 'F')

def sha256Hex (signature : String) : Bool := decide (signature.length = 64) && signature.toList.all isHex

/-- The comparison takes the same time wherever the two differ, which nothing here observes. -/
def verifyWebhookSignature (rawBody : List UInt8) (signature : String) (webhookSecret : List UInt8) : Except HandlerError Bool :=
  if webhookSecret = [] then .error .unhandled
  else if sha256Hex signature = false then .ok false
  else .ok (decide (Sha256.hmacHexdigest webhookSecret rawBody = lower signature))

def verifyRazorpaySignature (rawBody : List UInt8) (signature secret : String) : Except HandlerError Bool :=
  verifyWebhookSignature rawBody (strip signature) (Json.utf8 secret.toList)

structure Admitted where
  merchant : ResolvedMerchant
  signature : String
  providerEventId : String
  rawBody : List UInt8

def routingValue (settings : Settings) (request : WebhookRequest) : Option String :=
  if lower settings.merchantRoutingHeader = "x-revenueguard-merchant-id" then request.header "X-RevenueGuard-Merchant-Id"
  else request.header settings.merchantRoutingHeader

/-- The handler up to the signature. -/
def admitRequest (settings : Settings) (request : WebhookRequest) (up : Bool) (s : Deployment) : Except HandlerError Admitted := do
  let signature ← requiredHeader (request.header "X-Razorpay-Signature") "X-Razorpay-Signature"
  let providerEventId ← requiredHeader (request.header "X-Razorpay-Event-Id") "X-Razorpay-Event-Id"
  let routingIdentifier ← merchantRoutingIdentifier (routingValue settings request) settings
  let rawBody ← readBoundedRawBody request settings.webhookMaxBodyBytes
  match ← resolveMerchant settings routingIdentifier up s with
  | none => .error (.http 401 "webhook authentication failed")
  | some merchant => pure ⟨merchant, signature, providerEventId, rawBody⟩

end authentication

section ingestion

/-- `json.loads` of the body; a number or a nesting it cannot hold is no decoding error. -/
def decodedPayload (depth : Nat) (rawBody : List UInt8) : Except HandlerError Mapping :=
  match JsonReader.loadsBytes depth rawBody with
  | .ok (.obj payload) => .ok payload
  | .ok _ => .error (.http 400 "signed webhook body must be a JSON object")
  | .error .decode => .error (.http 400 "signed webhook body must be a JSON object")
  | .error _ => .error .unhandled

def stringOrDefault (value : Json) (default : String) : String := match value with
  | .str s => if s = "" then default else s
  | _ => default

def timestampOf (value : Json) : Option Instant := match value with
  | .int t => if t < 0 ∨ lastTimestamp < t then none else some (seconds t)
  | _ => none

def providerOccurredAt (payload : Mapping) : Option Instant := timestampOf (payload.get "created_at")

def providerEntity (document : Mapping) (entityType : String) : Option Mapping :=
  match document.get "payload" with
  | .obj payload => match Mapping.get payload entityType with
    | .obj wrapper => match Mapping.get wrapper "entity" with
      | .obj entity => some entity
      | _ => none
    | _ => none
  | _ => none

def entityIdOf (payload : Mapping) (entityType : String) : Option String :=
  (providerEntity payload entityType).bind fun entity => match entity.get "id" with
    | .str s => if s = "" then none else some s
    | _ => none

def primaryEntityId (payload : Mapping) : Option String :=
  ["payment", "subscription", "payment_link", "invoice"].findSome? (entityIdOf payload)

/-- How the store takes a transaction: it commits, it refuses, or it commits and the reply is lost. -/
inductive StoreHealth where
  | up | down | replyLost
deriving DecidableEq, Repr

/-- What a request meets: the clock, fresh ids and the state of the store. -/
structure Visit where
  receivedAt : Instant
  createdAt : Instant
  eventId : Uuid
  dispatchId : Uuid
  resolver : Bool
  store : StoreHealth

/-- How the gateway is deployed: its settings, how deep its reader nests, and what a JSON column gives back of a document it takes. -/
structure Gateway where
  settings : Settings
  depth : Nat
  jsonColumn : Mapping → Option Mapping

/-- The row to store, unless a column cannot hold its value. -/
def acceptedRow (g : Gateway) (visit : Visit) (a : Admitted) (payload : Mapping) : Option AcceptedWebhook :=
  if fits : a.providerEventId ≠ "" ∧ a.providerEventId.length ≤ 256 then
    let eventType := stringOrDefault (payload.get "event") "UNKNOWN"
    let entityId := primaryEntityId payload
    if eventType.length ≤ 128 ∧ ∀ entity ∈ entityId, entity.length ≤ 128 then
      (g.jsonColumn payload).map fun column =>
        { id := visit.eventId, merchantId := a.merchant.merchantId, provider := "RAZORPAY"
          providerEventId := ⟨a.providerEventId, fits⟩, eventType := eventType, entityId := entityId
          rawBody := a.rawBody, rawPayload := column, occurredAt := providerOccurredAt payload
          receivedAt := visit.receivedAt, correlationId := correlationId a.merchant.merchantId a.providerEventId }
    else none
  else none

inductive Answer where
  | receipt (statusCode : Nat) (status providerEventId : String)
  | raised (error : HandlerError)
deriving DecidableEq, Repr

def inboxUnavailable : Answer := .raised (.http 503 "durable webhook inbox unavailable")

def auditUnavailable : Answer := .raised (.http 503 "webhook audit storage unavailable")

def authenticationFailed : Answer := .raised (.http 401 "webhook authentication failed")

/-- One transaction of the handler: its store and the answer, `unavailable` where the handler sees an error. -/
def transact {A : Type} (health : StoreHealth) (x : Tx Deployment Failure A) (answer : A → Answer) (unavailable : Answer)
    (s : Deployment) : Answer × Deployment :=
  match health, x.run s with
  | .up, .ok (a, t) => (answer a, t)
  | .replyLost, .ok (_, t) => (unavailable, t)
  | _, _ => (unavailable, s)

def disposition (providerEventId : String) (created : Bool) : Answer :=
  if created then .receipt 202 "accepted" providerEventId else .receipt 200 "duplicate" providerEventId

def ingestVerified (g : Gateway) (visit : Visit) (a : Admitted) (payload : Mapping) (s : Deployment) : Answer × Deployment :=
  match acceptedRow g visit a payload with
  | none => (inboxUnavailable, s)
  | some row =>
    transact visit.store (recordAccepted row visit.dispatchId visit.createdAt g.settings.eventDispatchMaxAttempts)
      (disposition a.providerEventId) inboxUnavailable s

/-- Digests and the reason only. -/
def invalidSignatureRecord (visit : Visit) (a : Admitted) : RejectedWebhook :=
  { id := visit.eventId, merchantId := a.merchant.merchantId, provider := "RAZORPAY"
    providerEventId := a.providerEventId, rawPayloadSha256 := Sha256.hexdigest a.rawBody
    signatureFailureCode := "SIGNATURE_MISMATCH", receivedAt := visit.receivedAt
    correlationId := correlationId a.merchant.merchantId a.providerEventId }

def recordInvalidSignature (visit : Visit) (a : Admitted) (s : Deployment) : Answer × Deployment :=
  if 256 < a.providerEventId.length then (auditUnavailable, s)
  else transact visit.store (recordRejected (invalidSignatureRecord visit a)) (fun _ => authenticationFailed) auditUnavailable s

/-- `ingest_razorpay_webhook`. -/
def ingestRazorpayWebhook (g : Gateway) (request : WebhookRequest) (visit : Visit) (s : Deployment) : Answer × Deployment :=
  match admitRequest g.settings request visit.resolver s with
  | .error e => (.raised e, s)
  | .ok a =>
    match verifyRazorpaySignature a.rawBody a.signature a.merchant.webhookSecret with
    | .error e => (.raised e, s)
    | .ok false => recordInvalidSignature visit a s
    | .ok true =>
      match decodedPayload g.depth a.rawBody with
      | .error e => (.raised e, s)
      | .ok payload => ingestVerified g visit a payload s

end ingestion

end RevenueGuard
