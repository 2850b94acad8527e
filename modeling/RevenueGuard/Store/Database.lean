import RevenueGuard.Kit.Table
import RevenueGuard.Kit.Transaction
import RevenueGuard.Domain.Actions
import RevenueGuard.Domain.Evaluation
import RevenueGuard.Domain.Playbooks
import RevenueGuard.Domain.Portfolio
import RevenueGuard.Agents.Intelligence

/-
The tables the services share and the transactions over them. Attempts are kept
inside the action row they belong to. A transaction that fails commits nothing.
-/
namespace RevenueGuard

structure CaseKey where
  merchantId : Identifier
  caseId : Identifier
deriving DecidableEq, Repr

structure CustomerRow where
  merchantId : Identifier
  customerId : Identifier
  providerUpdatedAt : Option Instant
deriving DecidableEq, Repr

structure PaymentRow where
  merchantId : Identifier
  paymentId : Identifier
  customerId : Option Identifier
  orderId : Option Identifier
  amountMinor : Nat
  currency : Currency
  status : String
  providerOccurredAt : Instant
  providerUpdatedAt : Option Instant
deriving DecidableEq, Repr

structure SubscriptionRow where
  merchantId : Identifier
  subscriptionId : Identifier
  customerId : Option Identifier
  amountMinor : Nat
  currency : Currency
  status : String
  providerOccurredAt : Instant
  providerUpdatedAt : Option Instant
deriving DecidableEq, Repr

inductive InvoiceStatus where
  | opened | overdue | promised | paid | disputed | escalated | cancelled
deriving DecidableEq, Repr

def InvoiceStatus.value : InvoiceStatus → String
  | .opened => "OPEN"
  | .overdue => "OVERDUE"
  | .promised => "PROMISED"
  | .paid => "PAID"
  | .disputed => "DISPUTED"
  | .escalated => "ESCALATED"
  | .cancelled => "CANCELLED"

structure InvoiceRow where
  merchantId : Identifier
  invoiceId : Identifier
  customerId : Identifier
  amountMinor : Nat
  outstandingAmountMinor : Nat
  currency : Currency
  status : InvoiceStatus
  dueAt : Instant
  providerUpdatedAt : Instant
  automationFrozenAt : Option Instant := none
deriving DecidableEq, Repr

inductive PromiseStatus where
  | active | fulfilled | broken | disputed | cancelled
deriving DecidableEq, Repr

structure PromiseRow where
  merchantId : Identifier
  promiseId : PromiseId
  caseId : Identifier
  invoiceId : Identifier
  customerId : Identifier
  amountMinor : Nat
  currency : Currency
  promisedFor : Instant
  reminderAt : Instant
  status : PromiseStatus
  extractionConfidenceBasisPoints : Nat
  fulfilledAt : Option Instant := none
  brokenAt : Option Instant := none
  reminderActionId : Option ActionIdentity := none
  updatedAt : Instant
  confidence_le : extractionConfidenceBasisPoints ≤ 10000
deriving Repr

structure ConsentRow where
  merchantId : Identifier
  customerId : Identifier
  channel : ContactChannel
  state : ConsentState
  optedOut : Bool
deriving DecidableEq, Repr

inductive IncidentStatus where
  | active | resolved
deriving DecidableEq, Repr

structure IncidentRow where
  merchantId : Identifier
  incident : IncidentConstraint
  status : IncidentStatus
  dimensionKey : String := "LEGACY"
  clearWindowCount : Nat := 0
  updatedAt : Instant
  resolvedAt : Option Instant := none
deriving DecidableEq, Repr

structure IncidentCaseLink where
  merchantId : Identifier
  incidentId : Identifier
  caseId : Identifier
  attachedAt : Instant
  resumeAfter : Option Instant := none
deriving DecidableEq, Repr

structure OverdueInvoice where
  invoiceId : Identifier
  customerId : Identifier
  amountMinor : Nat
  outstandingAmountMinor : Nat
  currency : Currency
  dueAt : Instant
deriving DecidableEq, Repr

structure MerchantEventRow where
  merchantId : Identifier
  sourceEventId : String
  payload : OverdueInvoice
deriving DecidableEq, Repr

structure CustomerResponseRow where
  responseId : ResponseToken
  caseId : Identifier
  invoiceId : Identifier
  customerId : Identifier
  body : String
  intent : PromiseIntent
  receivedAt : Instant
deriving DecidableEq, Repr

inductive EscalationId where
  | response (token : ResponseToken)
  | brokenPromise (promiseId : PromiseId)
deriving DecidableEq, Repr

structure ReceivableEscalationRow where
  escalationId : EscalationId
  responseId : ResponseToken
  merchantId : Identifier
  caseId : Identifier
  invoiceId : Identifier
  reasonCode : String
  createdAt : Instant
deriving DecidableEq, Repr

structure PolicyVersionRow where
  merchantId : Identifier
  version : Identifier
  snapshot : PolicyDocument
  contentSha256 : PolicyDigest
  effectiveAt : Instant
deriving DecidableEq

abbrev NormalizedEvent := RevenueRiskEvent

structure CaseRow where
  case : RecoveryCase
  recoveryEpisodeKey : Option EpisodeKey
  latestEvidenceEventId : Option Identifier
  latestEvidenceOccurredAt : Option Instant
deriving DecidableEq, Repr

def RecoveryCase.key (c : RecoveryCase) : CaseKey := ⟨c.merchantId, c.caseId⟩

def CaseRow.key (r : CaseRow) : CaseKey := r.case.key

inductive EvidenceDisposition where
  | applied | ignoredStale | auditOnly
deriving DecidableEq, Repr

structure CaseEventRow where
  merchantId : Identifier
  caseId : Option Identifier
  normalizedEventId : Identifier
  disposition : EvidenceDisposition
  reasonCode : String
deriving DecidableEq, Repr

structure ReceiptRow where
  merchantId : Identifier
  receiptId : ReceiptId
  caseId : Identifier
  evidenceReferences : List EvidenceReference
  candidateActions : List CandidateAction
  selectedActionType : ActionType
  policyResult : PolicyResult
  policyReasonCodes : List PolicyReason
  policyVersion : Identifier
  humanReviewId : Option ReviewId
  resultingActionId : Option ActionIdentity
  resultingState : CaseState
  createdAt : Instant
deriving DecidableEq

structure ActionAttempt where
  attemptNumber : Nat
  leaseToken : String
  startedAt : Instant
  completedAt : Option Instant := none
  outcomeStatus : Option ActionStatus := none
  responseCategory : Option String := none
  providerObjectId : Option String := none
  providerStatusCode : Option Nat := none
  errorCode : Option String := none
  responseReference : Option String := none
  retryable : Bool := false
deriving DecidableEq, Repr

def ActionAttempt.isOpen (a : ActionAttempt) : Bool := a.completedAt.isNone

structure ActionRow where
  action : RecoveryAction
  policyVersion : Identifier
  nextAttemptAt : Instant
  attemptCount : Nat := 0
  maxAttempts : Nat
  leaseToken : Option String := none
  leaseExpiresAt : Option Instant := none
  providerObjectId : Option String := none
  unknownSince : Option Instant := none
  reconciliationDeadline : Option Instant
  deadLetteredAt : Option Instant := none
  lastErrorCode : Option String := none
  updatedAt : Instant
  attempts : List ActionAttempt := []
deriving DecidableEq, Repr

def ActionRow.id (r : ActionRow) : ActionIdentity := r.action.identity

def ActionRow.merchantId (r : ActionRow) : Identifier := r.action.identity.merchantId

def ActionRow.caseId (r : ActionRow) : Identifier := r.action.identity.caseId

def ActionRow.actionType (r : ActionRow) : ActionType := r.action.identity.actionType

def ActionRow.status (r : ActionRow) : ActionStatus := r.action.status

def ActionRow.setStatus (r : ActionRow) (s : ActionStatus) : ActionRow := { r with action := { r.action with status := s } }

def ActionIdentity.key (i : ActionIdentity) : CaseKey := ⟨i.merchantId, i.caseId⟩

def ActionRow.key (r : ActionRow) : CaseKey := r.id.key

def ActionRow.openAttempts (r : ActionRow) : List ActionAttempt := r.attempts.filter (·.isOpen)

structure InterventionRow where
  merchantId : Identifier
  customerId : Identifier
  ownerCaseId : Identifier
  actionId : ActionIdentity
  coordinatedCaseIds : List Identifier
  status : CustomerInterventionStatus
  cooldownUntil : Instant
  closedAt : Option Instant := none
  closeReason : Option String := none
  createdAt : Instant
  updatedAt : Instant
deriving DecidableEq, Repr

structure Database where
  merchants : List Identifier := []
  customers : List CustomerRow := []
  payments : List PaymentRow := []
  subscriptions : List SubscriptionRow := []
  invoices : List InvoiceRow := []
  promises : List PromiseRow := []
  merchantEvents : List MerchantEventRow := []
  responses : List CustomerResponseRow := []
  escalations : List ReceivableEscalationRow := []
  consents : List ConsentRow := []
  incidents : List IncidentRow := []
  incidentLinks : List IncidentCaseLink := []
  policies : List PolicyVersionRow := []
  events : List NormalizedEvent := []
  cases : List CaseRow := []
  caseEvents : List CaseEventRow := []
  transitions : List CaseTransition := []
  reviews : List HumanReviewRequest := []
  receipts : List ReceiptRow := []
  actions : List ActionRow := []
  outcomes : List VerifiedOutcome := []
  interventions : List InterventionRow := []

abbrev Transaction := Tx Database Failure

def EventKey (e : NormalizedEvent) : Identifier × Identifier := (e.merchantId, e.eventId)

def HumanReviewRequest.key (r : HumanReviewRequest) : CaseKey := ⟨r.merchantId, r.caseId⟩

def HumanReviewRequest.id (r : HumanReviewRequest) : Identifier × ReviewId := (r.merchantId, r.reviewId)

def ReceiptRow.key (r : ReceiptRow) : CaseKey := ⟨r.merchantId, r.caseId⟩

def ReceiptRow.id (r : ReceiptRow) : Identifier × ReceiptId := (r.merchantId, r.receiptId)

def VerifiedOutcome.key (o : VerifiedOutcome) : CaseKey := ⟨o.merchantId, o.caseId⟩

def VerifiedOutcome.id (o : VerifiedOutcome) : Identifier × OutcomeId := (o.merchantId, o.outcomeId)

def CaseEventRow.id (r : CaseEventRow) : Identifier × Identifier := (r.merchantId, r.normalizedEventId)

theorem review_ttl_default : (0 : Int) < 86400000000 := by decide

theorem retry_base_default : (0 : Int) < 5000000 := by decide

theorem unknown_ttl_default : (0 : Int) < 3600000000 := by decide

/-- What the deployment provides: the IANA zones, the order of the hex
digests in derived ids, the decimal exponential, the database's clock, and the
configured model budget, artifact and durations. -/
structure Runtime where
  zoneInfo : String → Zone := fun _ => utcZone
  digestOrder : ActionIdentity → Nat := fun _ => 0
  promiseOrder : PromiseId → Nat := fun _ => 0
  interventionOrder : ActionIdentity → Nat := fun _ => 0
  exp : Int → Rat := decimalExp
  budget : AgentBudget := {}
  scoringArtifact : LogisticScoringArtifact := syntheticDefaultScoringArtifact
  actionEconomics : ActionEconomics := defaultActionEconomics
  reviewTtl : Int := 86400000000
  retryBase : Int := 5000000
  unknownTtl : Int := 3600000000
  /-- the database's clock when a call of the second time writes a case that was last written at the first -/
  currentTimestamp : CaseKey → Instant → Instant → Instant := fun _ _ t => t
  review_ttl_pos : 0 < reviewTtl := by first | exact review_ttl_default | decide
  retry_base_pos : 0 < retryBase := by first | exact retry_base_default | decide
  unknown_ttl_pos : 0 < unknownTtl := by first | exact unknown_ttl_default | decide

end RevenueGuard
