import RevenueGuard.Domain.Reviews

/-
Idempotent recovery actions and verified outcomes. Identifiers the code derives
with SHA-256 are kept as the material that is hashed.
-/
namespace RevenueGuard

inductive ActionStatus where
  | pending | succeeded | failed | unknown
deriving DecidableEq, Repr

def ActionStatus.value : ActionStatus → String
  | .pending => "PENDING"
  | .succeeded => "SUCCEEDED"
  | .failed => "FAILED"
  | .unknown => "UNKNOWN"

inductive EvidenceSource where
  | signedWebhook | providerLookup | providerResponse | simulator | none
deriving DecidableEq, Repr

def EvidenceSource.value : EvidenceSource → String
  | .signedWebhook => "SIGNED_WEBHOOK"
  | .providerLookup => "PROVIDER_LOOKUP"
  | .providerResponse => "PROVIDER_RESPONSE"
  | .simulator => "SIMULATOR"
  | .none => "NONE"

structure ResponseToken where
  merchantId : Identifier
  sourceResponseId : String
deriving DecidableEq, Repr

abbrev PromiseId := ResponseToken

inductive ReceiptId where
  | generated (id : Identifier)
  | promise (merchantId : Identifier) (promiseId : PromiseId) (evaluatedAt : Instant)
deriving DecidableEq, Repr

/-- What a decision rests on: a normalized event, or a customer's response. -/
inductive EvidenceReference where
  | event (id : Identifier)
  | response (id : ResponseToken)
deriving DecidableEq, Repr

structure ActionParameters where
  amountMinor : Nat
  currency : Currency
  channel : Option ContactChannel := none
  coordinatedCaseIds : List Identifier := []
  promiseId : Option PromiseId := none
deriving DecidableEq, Repr

structure RecoveryAction where
  identity : ActionIdentity
  decisionReceiptId : ReceiptId
  status : ActionStatus
  parameters : ActionParameters
  authorizedAt : Instant
  executeAfter : Instant
  createdAt : Instant
deriving DecidableEq, Repr

/-- `action_idempotency_key`, and the action id cut from it. -/
def RecoveryAction.idempotencyKey (a : RecoveryAction) : ActionIdentity := a.identity

structure OutcomeId where
  merchantId : Identifier
  actionId : ActionIdentity
  evidenceSource : EvidenceSource
  reference : String
  status : ActionStatus
deriving DecidableEq, Repr

structure VerifiedOutcome where
  outcomeId : OutcomeId
  actionId : ActionIdentity
  caseId : Identifier
  merchantId : Identifier
  outcomeStatus : ActionStatus
  isAuthoritative : Bool
  evidenceSource : EvidenceSource
  recoveredAmountMinor : Nat
  currency : Currency
  observedAt : Instant
  createdAt : Instant
  evidenceReference : Option String := none
  providerObjectId : Option String := none
  reasonCode : Option String := none
  verifiedAt : Option Instant := none
deriving DecidableEq, Repr

/-- `VerifiedOutcome.__post_init__`. -/
def VerifiedOutcome.validate (o : VerifiedOutcome) : Except Failure Unit := do
  require (o.outcomeStatus = .unknown → o.isAuthoritative = false ∧ o.recoveredAmountMinor = 0 ∧ o.verifiedAt = none)
    (.value "UNKNOWN outcomes cannot be authoritative or recover money")
  require (o.recoveredAmountMinor ≠ 0 → o.outcomeStatus = .succeeded ∧ o.isAuthoritative = true)
    (.value "recovered money requires authoritative success")
  require (o.recoveredAmountMinor ≠ 0 → o.evidenceReference.isSome = true ∧ o.verifiedAt.isSome = true)
    (.value "recovered money requires evidence and verification time")
  require (o.isAuthoritative = true → o.verifiedAt.isSome = true)
    (.value "authoritative outcomes require verified_at")
  require (∀ t ∈ o.verifiedAt, o.observedAt ≤ t) (.value "verified_at cannot precede observed_at")

end RevenueGuard
