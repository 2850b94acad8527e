import RevenueGuard.Domain.Degradation
import RevenueGuard.Kit.Encodings
import RevenueGuard.Kit.Hmac
import RevenueGuard.Kit.Lens
import RevenueGuard.Services.Normalization
import RevenueGuard.System

/-
The deployed store: the services' tables, the inbox with the columns of an accepted
webhook that never change, rejected deliveries, payment observations and simulated
checkouts. A rejected delivery keeps digests only, no byte of its body.
-/
namespace RevenueGuard

abbrev Uuid := { s : String // s.length = 36 }

theorem Uuid.fits (u : Uuid) : u.1 ≠ "" ∧ u.1.length ≤ 128 := by
  have length := u.2
  constructor
  · intro empty
    rw [empty] at length
    cases length
  · omega

def Uuid.identifier (u : Uuid) : Identifier := ⟨u.1, u.fits⟩

theorem Uuid.identifier_inj {u v : Uuid} (same : u.identifier = v.identifier) : u = v :=
  Subtype.ext (congrArg (fun i : Identifier => i.1) same)

abbrev ProviderEventId := { s : String // s ≠ "" ∧ s.length ≤ 256 }

/-- What an accepted webhook's row holds from its insert on. -/
structure AcceptedWebhook where
  id : Uuid
  merchantId : Identifier
  provider : String
  providerEventId : ProviderEventId
  eventType : String
  entityId : Option String
  rawBody : List UInt8
  rawPayload : Mapping
  occurredAt : Option Instant
  receivedAt : Instant
  correlationId : Identifier

def AcceptedWebhook.key (w : AcceptedWebhook) : Identifier × Identifier := (w.merchantId, w.id.identifier)

structure RejectedWebhook where
  id : Uuid
  merchantId : Identifier
  provider : String
  providerEventId : String
  rawPayloadSha256 : String
  signatureFailureCode : String
  receivedAt : Instant
  correlationId : Identifier

structure ObservationRow where
  observation : PaymentOutcomeObservation
  sourceEventId : ProviderEventId
  observationId : Identifier
  paymentId : Identifier

structure MerchantRecord where
  id : Identifier
  status : String
deriving DecidableEq, Repr

inductive Scenario where
  | success | insufficientFunds | authenticationFailure | issuerOutage | timeout
deriving DecidableEq, Repr

inductive FlowType where
  | oneTime | subscription
deriving DecidableEq, Repr

inductive SimulationStatus where
  | created | submitted | expired
deriving DecidableEq, Repr

structure SimulationSession where
  merchantId : Identifier
  id : Identifier
  scenario : Scenario
  flowType : FlowType
  amountMinor : Nat
  currency : Currency
  customerId : Identifier
  paymentId : Identifier
  subscriptionId : Option Identifier
  providerEventId : Option ProviderEventId
  status : SimulationStatus
  generatorVersion : String
  expiresAt : Instant
  attemptedAt : Option Instant
  createdAt : Instant
  updatedAt : Instant
deriving DecidableEq, Repr

structure Deployment where
  database : Database := {}
  inbox : Inbox := {}
  merchants : List MerchantRecord := []
  accepted : List AcceptedWebhook := []
  rejected : List RejectedWebhook := []
  observations : List ObservationRow := []
  simulations : List SimulationSession := []

namespace Deployment

def services : Lens Deployment Database := ⟨database, fun db s => { s with database := db }, fun _ _ => rfl⟩

def queue : Lens Deployment Inbox := ⟨inbox, fun box s => { s with inbox := box }, fun _ _ => rfl⟩

@[simp] theorem services_get (s : Deployment) : services.get s = s.database := rfl

@[simp] theorem services_set (db : Database) (s : Deployment) : services.set db s = { s with database := db } := rfl

@[simp] theorem queue_get (s : Deployment) : queue.get s = s.inbox := rfl

@[simp] theorem queue_set (box : Inbox) (s : Deployment) : queue.set box s = { s with inbox := box } := rfl

def webhook (s : Deployment) (merchantId webhookEventId : Identifier) : Option AcceptedWebhook :=
  Table.lookup AcceptedWebhook.key (merchantId, webhookEventId) s.accepted

end Deployment

section identifiers

/-- `corr_` and the first 48 digits of a digest. -/
def correlationOf (material : List UInt8) : Identifier :=
  ⟨"corr_" ++ String.ofList ((Sha256.hexdigest material).toList.take 48), by
    have five : "corr_".length = 5 := by decide
    constructor
    · intro empty
      have length := congrArg String.length empty
      rw [String.length_append, five, String.length_empty] at length
      omega
    · rw [String.length_append, five, String.length_ofList, List.length_take]
      omega⟩

def correlationId (merchantId : Identifier) (providerEventId : String) : Identifier :=
  correlationOf (Json.utf8 (merchantId.val.toList ++ Char.ofNat 0 :: providerEventId.toList))

end identifiers

section inbox

/-- `record_webhook`: the inbox row, its dispatch and the columns that stay, or nothing for a duplicate. -/
def recordAccepted (w : AcceptedWebhook) (dispatchId : Uuid) (createdAt : Instant) (maxDispatchAttempts : Nat := 5) :
    Tx Deployment Failure Bool := do
  let created ← Tx.on Deployment.queue id (recordWebhook
    { eventId := w.id.identifier, dispatchId := dispatchId.identifier, merchantId := w.merchantId, provider := w.provider
      providerEventId := w.providerEventId.1, receivedAt := w.receivedAt, createdAt := createdAt
      maxDispatchAttempts := maxDispatchAttempts })
  if created = true then do
    Tx.write fun s => { s with accepted := s.accepted ++ [w] }
    pure true
  else pure false

/-- `record_invalid_webhook`. -/
def recordRejected (w : RejectedWebhook) : Tx Deployment Failure Unit := do
  let fresh ← Tx.read fun s : Deployment => s.rejected.all fun r => decide (r.id ≠ w.id)
  Tx.check (fresh = true) (.integrity "webhook_events_pkey")
  Tx.write fun s => { s with rejected := s.rejected ++ [w] }

/-- `upsert_merchant`. -/
def upsertMerchant (merchantId : Identifier) (status : String) : Tx Deployment Failure Unit := do
  Tx.write fun s => { s with merchants := upsert MerchantRecord.id (fun _ _ => true) ⟨merchantId, status⟩ s.merchants }
  Tx.on Deployment.services id (registerMerchant merchantId)

end inbox

end RevenueGuard
