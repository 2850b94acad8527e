import RevenueGuard.Services.Recovery

/-
Execution of authorized actions: the policy check before a provider call, the
result of the call, calls lost with their worker, provider lookups, and signed
events that verify recovered money.
-/
namespace RevenueGuard

/-- A provider call is answered, refused or ambiguous; an ambiguous one is never retried. -/
structure ProviderExecutionResult where
  status : ActionStatus
  evidenceSource : EvidenceSource
  observedAt : Instant
  responseCategory : String
  providerObjectId : Option String := none
  responseReference : Option String := none
  providerStatusCode : Option Nat := none
  errorCode : Option String := none
  retryable : Bool := false
  settled : status ≠ .pending
  unknown_final : status = .unknown → retryable = false

structure ProviderLookupResult where
  status : ActionStatus
  evidenceSource : EvidenceSource
  evidenceReference : String
  observedAt : Instant
  isAuthoritative : Bool
  providerObjectId : Option String := none
  reasonCode : Option String := none
  source_ok : evidenceSource = .providerLookup ∨ evidenceSource = .simulator
  unknown_open : status = .unknown → isAuthoritative = false

structure ExecutionDisposition where
  actionId : ActionIdentity
  actionStatus : ActionStatus
  caseState : CaseState
  reasonCode : String
deriving DecidableEq, Repr

inductive Prepared where
  | execution (action : RecoveryAction) (attemptNumber : Nat)
  | disposition (d : ExecutionDisposition)

structure FinalPolicyCheck where
  decision : PolicyDecision
  policy : MerchantPolicySnapshot

def signedSuccessEvents : List String := ["payment_link.paid", "payment.captured", "subscription.charged"]

def recoveryCreditActions : List ActionType := [.createPaymentLink]

def requiredCase (action : ActionRow) : Transaction RecoveryCase := do
  let case ← Tx.read fun db => db.caseOf action.key
  Tx.found case (.lookup "recovery action case does not exist")

/-- `ActionExecutionService._transition`. -/
def executionTransition (case : RecoveryCase) (action : ActionRow) (toState : CaseState) (reasonCode : String)
    (occurredAt : Instant) (authoritativeEvidenceReference : Option String := none)
    (terminalReason : Option String := none) (nextEvaluationAt : Option Instant := none)
    (policyVersion : Identifier := action.policyVersion) : Transaction RecoveryCase :=
  recoveryTransition case
    { toState := toState
      actor := if blank authoritativeEvidenceReference then "ACTION_EXECUTOR" else "OUTCOME_VERIFIER"
      reasonCode := reasonCode
      policyVersion := policyVersion
      occurredAt := occurredAt
      authoritativeEvidenceReference := authoritativeEvidenceReference
      terminalReason := terminalReason
      nextEvaluationAt := nextEvaluationAt }

def observation (action : ActionRow) (status : ActionStatus) (source : EvidenceSource) (observedAt : Instant)
    (evidenceReference reasonCode : Option String) (authoritative : Bool) (recoveredAmountMinor : Nat := 0)
    (verifiedAt : Option Instant := none) : VerifiedOutcome :=
  { outcomeId :=
      { merchantId := action.merchantId
        actionId := action.id
        evidenceSource := source
        reference := orText evidenceReference (source.value ++ ":" ++ orText reasonCode status.value)
        status := status }
    actionId := action.id
    caseId := action.caseId
    merchantId := action.merchantId
    outcomeStatus := status
    isAuthoritative := authoritative
    evidenceSource := source
    evidenceReference := evidenceReference
    providerObjectId := action.providerObjectId
    recoveredAmountMinor := recoveredAmountMinor
    currency := action.action.parameters.currency
    reasonCode := reasonCode
    observedAt := observedAt
    verifiedAt := if authoritative then verifiedAt.or (some observedAt) else none
    createdAt := verifiedAt.getD observedAt }

def storeObservation (outcome : VerifiedOutcome) : Transaction Unit := do
  Tx.lift outcome.validate
  storeOutcome outcome

/-- The authorized candidate as the receipt kept it, aimed at the action's own target. -/
def ActionRow.candidate (action : ActionRow) (selected : CandidateAction) : CandidateAction :=
  { actionType := selected.actionType
    recoveryProbabilityBasisPoints := selected.recoveryProbabilityBasisPoints
    expectedNetRecoveryMinor := selected.expectedNetRecoveryMinor
    rank := 1
    target := action.id.targetId
    logicalAttempt := action.id.logicalAttempt
    channel := selected.channel
    probability_le := selected.probability_le, rank_pos := first_pos, attempt_pos := action.id.attempt_pos
    channel_iff := selected.channel_iff }

/-- The contacts of the whole customer, and whether another action's intervention is in progress. -/
def executionContact (action : ActionRow) (case : RecoveryCase) : Transaction (Nat × Bool) :=
  match case.customerId with
  | none => pure (case.contactCount, false)
  | some customer => do
    let snapshot ← customerContactSnapshot action.merchantId customer
    pure (snapshot.aggregateContactCount, snapshot.activeInterventionActionId.any (· ≠ action.id))

def executionInput (case : RecoveryCase) (evaluatedAt : Instant) (candidates : CandidateList) (contact : Nat × Bool)
    (incidents : List IncidentConstraint) (facts : AuthoritativeFacts)
    (consent : List (ContactChannel × ConsentState) × List ContactChannel) (approval : Option HumanReviewRequest) :
    PolicyEvaluationInput :=
  { caseId := case.caseId
    amountMinor := case.revenueAtRiskMinor
    currency := case.currency
    confidenceBasisPoints := case.confidence.val
    retryCount := case.retryCount
    contactCount := contact.1
    evaluatedAt := evaluatedAt
    candidates := candidates
    consentByChannel := consent.1
    optedOutChannels := consent.2
    incidents := incidents
    alreadyPaid := paidStatus facts.status
    disputed := disputedStatus facts.status
    cancelled := cancelledStatus facts.status
    approval := approval
    customerContactInProgress := contact.2
    customerIdentityResolved := case.customerId.isSome
    activePromiseToPay := facts.promiseDueAt.isSome
    promiseDueAt := facts.promiseDueAt
    confidence_le := case.confidence_le
    promise_due := fun due => due }

def finalPolicyDecision (rt : Runtime) (action : ActionRow) (case : RecoveryCase) (evaluatedAt : Instant) :
    Transaction FinalPolicyCheck := do
  let receipt ← Tx.read fun db => db.receipt action.merchantId action.action.decisionReceiptId
  let receipt ← Tx.found receipt (.lookup "action decision receipt does not exist")
  let selected ← Tx.found (receipt.candidateActions.find? fun c => decide (c.actionType = action.actionType))
    (.value "action is not present in its authorization receipt")
  let policy ← effectivePolicy action.merchantId evaluatedAt
  let consent ← Tx.read (consentFacts action.merchantId case.customerId)
  let incidents ← activeIncidents action.key evaluatedAt case.diagnosis
  let facts ← Tx.read (authoritativeFactsForCase case)
  let contact ← executionContact action case
  let approval ← Tx.read fun db => receipt.humanReviewId.bind (db.review action.merchantId)
  let candidates ← Tx.lift (candidateList
    [action.candidate selected, noActionCandidate action.id.targetId 2 second_pos])
  let decision ← Tx.lift (evaluatePolicy (rt.zoneInfo policy.timezone) policy
    (executionInput case evaluatedAt candidates contact incidents facts consent approval))
  pure ⟨decision, policy⟩

def preExecutionReview (action : ActionRow) (case : RecoveryCase) (check : FinalPolicyCheck) (requestedAt : Instant) :
    HumanReviewRequest :=
  let fingerprint := fingerprintOf check.policy case.caseId case.revenueAtRiskMinor case.currency
    check.decision.selectedAction
  { reviewId := .preExecution action.id check.policy.version fingerprint
    merchantId := action.merchantId
    caseId := case.caseId
    actionFingerprint := fingerprint
    proposedActionType := check.decision.selectedAction.actionType
    policyVersion := check.policy.version
    policyDigest := check.policy.contentDigest
    reasonCode := check.decision.lastReason.code
    riskDetail := "Current policy requires a fresh approval before provider execution"
    requestedAt := requestedAt
    expiresAt := requestedAt + seconds 86400 }

/-- The first reason that says why, if any does. -/
def blockReason (d : PolicyDecision) : PolicyReason :=
  (d.reasonCodes.find? fun r => decide (r ≠ .noEligibleAction)).getD d.lastReason

def blockCode (d : PolicyDecision) : String := "PRE_EXECUTION_" ++ (blockReason d).code

/-- Where a blocked case goes from VERIFYING. -/
def rerouteBlocked (action : ActionRow) (case : RecoveryCase) (check : FinalPolicyCheck) (now : Instant) :
    Transaction RecoveryCase :=
  let code := blockCode check.decision
  let move (case : RecoveryCase) (toState : CaseState) (reasonCode : String) (terminalReason : Option String := none)
      (wake : Option Instant := none) : Transaction RecoveryCase :=
    executionTransition case action toState reasonCode now none terminalReason wake check.policy.version
  match check.decision.result with
  | .stop => move case .stopped code (some code)
  | .defer => do
    let case ← move case .decisionPending code
    let case ← move case .policyCheck "PRE_EXECUTION_POLICY_REEVALUATED"
    move case .deferred code none check.decision.nextEvaluationAt
  | .requireHuman => do
    let case ← move case .decisionPending code
    storeReview (preExecutionReview action case check now)
    let case ← move case .policyCheck "PRE_EXECUTION_POLICY_REEVALUATED"
    move case .escalated code
  | _ => move case .decisionPending code

/-- The cancelling branch: the action fails before any provider call. -/
def blockExecution (action : ActionRow) (case : RecoveryCase) (check : FinalPolicyCheck) (now : Instant) :
    Transaction ExecutionDisposition := do
  cancelBeforeExecution action now (blockCode check.decision)
  let case ← if case.state = .ready then
      executionTransition case action .executing "PRE_EXECUTION_POLICY_BLOCKED" now none none none check.policy.version
    else pure case
  let case ← executionTransition case action .verifying (blockCode check.decision) now none none none
    check.policy.version
  let case ← rerouteBlocked action case check now
  pure ⟨action.id, .failed, case.state, blockCode check.decision⟩

/-- Retries and contacts are counted on their case. -/
def ActionRow.counts (action : ActionRow) : Bool :=
  action.actionType.actionClass == .retry || action.actionType.actionClass == .customerContact

/-- The case's part of a begun attempt. -/
def startExecution (rt : Runtime) (action : ActionRow) (case : RecoveryCase) (startedAt : Instant) : Transaction Unit := do
  let case ← recordExecutionAttemptCounters case (if action.actionType.actionClass = .retry then 1 else 0)
    (if action.actionType.actionClass = .customerContact then 1 else 0) startedAt
  if case.state = .ready then do
    let _ ← executionTransition case action .executing "ACTION_EXECUTION_STARTED" startedAt
    pure ()
  else if action.counts then pure ()
  else stampAttached rt case startedAt

/-- `_action_from_row`: of its checks only the last can fail for a stored row. -/
def domainAction (row : ActionRow) : Except Failure RecoveryAction :=
  if row.updatedAt < row.action.createdAt then .error (.value "updated_at cannot precede created_at") else .ok row.action

def beginExecution (rt : Runtime) (action : ActionRow) (case : RecoveryCase) (leaseToken : String) (startedAt : Instant) :
    Transaction Prepared := do
  let begun ← beginAttempt action.id leaseToken startedAt
  startExecution rt action case startedAt
  let started ← Tx.lift (domainAction begun)
  pure (.execution started begun.attemptCount)

def FinalPolicyCheck.blocks (check : FinalPolicyCheck) (action : ActionRow) : Bool :=
  decide (check.decision.result ≠ .proceed ∨ check.decision.selectedAction.actionType ≠ action.actionType)

def prepareExecution (rt : Runtime) (actionId : ActionIdentity) (leaseToken : String) (startedAt : Instant) :
    Transaction Prepared := do
  let action ← Tx.read fun db => db.action actionId
  let action ← Tx.found action (.lookup "tenant-scoped recovery action does not exist")
  let case ← requiredCase action
  Tx.check (case.state = .ready ∨ case.state = .executing) (.value "case is not executable")
  let check ← finalPolicyDecision rt action case startedAt
  if check.blocks action then do
    let d ← blockExecution action case check startedAt
    pure (.disposition d)
  else beginExecution rt action case leaseToken startedAt

def ProviderExecutionResult.completion (result : ProviderExecutionResult) : AttemptCompletion :=
  { completedAt := result.observedAt
    outcomeStatus := result.status
    responseCategory := result.responseCategory
    providerObjectId := result.providerObjectId
    providerStatusCode := result.providerStatusCode
    errorCode := result.errorCode
    responseReference := result.responseReference
    retryable := result.retryable }

/-- Exponential backoff, capped at five minutes. -/
def retryAt (rt : Runtime) (attemptCount : Nat) (completedAt : Instant) : Instant :=
  completedAt + min (rt.retryBase * 2 ^ (attemptCount - 1)) (seconds 300)

def unknownReason (errorCode : Option String) : String := orText errorCode "PROVIDER_RESULT_UNKNOWN"

def recordExecutionResult (rt : Runtime) (actionId : ActionIdentity) (leaseToken : String)
    (result : ProviderExecutionResult) : Transaction ExecutionDisposition := do
  let completedAt := result.observedAt
  let before ← Tx.read fun db => db.action actionId
  let before ← Tx.found before (.lookup "tenant-scoped recovery action does not exist")
  let action ← finishAttempt actionId leaseToken result.completion (retryAt rt before.attemptCount completedAt)
    (completedAt + rt.unknownTtl)
  let case ← requiredCase action
  if action.status = .pending then pure ⟨action.id, .pending, case.state, "EXPLICIT_FAILURE_RETRY_SCHEDULED"⟩
  else if result.status = .unknown then do
    let case ← executionTransition case action .unknown (unknownReason result.errorCode) completedAt
    storeObservation (observation action .unknown result.evidenceSource completedAt result.responseReference
      (some (unknownReason result.errorCode)) false)
    pure ⟨action.id, .unknown, case.state, "UNKNOWN"⟩
  else if result.status = .succeeded then do
    let case ← executionTransition case action .verifying "PROVIDER_REQUEST_ACCEPTED" completedAt
    -- Accepted by the provider is not recovered: the observation stays PENDING.
    storeObservation (observation action .pending result.evidenceSource completedAt result.responseReference
      (some "AWAITING_AUTHORITATIVE_OUTCOME") false)
    pure ⟨action.id, .succeeded, case.state, "VERIFYING"⟩
  else do
    let case ← executionTransition case action .verifying "PROVIDER_REQUEST_REJECTED" completedAt
    storeObservation (observation action .failed result.evidenceSource completedAt result.responseReference
      (some (orText result.errorCode "PROVIDER_REQUEST_REJECTED")) true)
    let case ← executionTransition case action .decisionPending "VERIFIED_ACTION_FAILURE" completedAt
    pure ⟨action.id, .failed, case.state, "FAILED"⟩

def markStaleCall (rt : Runtime) (observedAt : Instant) (action : ActionRow) : Transaction ExecutionDisposition := do
  markStaleInflightUnknown action observedAt (observedAt + rt.unknownTtl)
  let case ← requiredCase action
  let case ← if case.state = .executing then
      executionTransition case action .unknown "INCOMPLETE_PROVIDER_CALL" observedAt
    else pure case
  storeObservation (observation action .unknown .none observedAt none (some "INCOMPLETE_PROVIDER_CALL") false)
  pure ⟨action.id, .unknown, case.state, "UNKNOWN"⟩

def markStaleCallsUnknown (rt : Runtime) (now : Instant) (limit : Nat) : Transaction (List ExecutionDisposition) := do
  Tx.check (0 < limit) (.value "limit must be positive")
  let rows ← Tx.read (staleInflightActions now limit)
  Tx.each (markStaleCall rt now) rows

def ProviderLookupResult.settles (r : ProviderLookupResult) : Bool :=
  r.isAuthoritative && (r.status == .succeeded || r.status == .failed)

def ActionRow.Overdue (action : ActionRow) (result : ProviderLookupResult) : Prop :=
  (∃ t ∈ action.reconciliationDeadline, t ≤ result.observedAt) ∧ result.settles = false

instance (action : ActionRow) (result : ProviderLookupResult) : Decidable (action.Overdue result) :=
  inferInstanceAs (Decidable (_ ∧ _))

def expireVerification (action : ActionRow) (case : RecoveryCase) (result : ProviderLookupResult) :
    Transaction (ActionRow × RecoveryCase) := do
  let action ← markVerificationExpiredUnknown action result.observedAt
  let case ← executionTransition case action .unknown "VERIFICATION_DEADLINE_EXCEEDED" result.observedAt
  storeObservation (observation action .unknown result.evidenceSource result.observedAt
    (some result.evidenceReference) (some "VERIFICATION_DEADLINE_EXCEEDED") false)
  pure (action, case)

def ActionRow.deadLetter (at_ : Instant) (r : ActionRow) : ActionRow :=
  { r with deadLetteredAt := some at_, updatedAt := at_ }

def escalateUnresolved (action : ActionRow) (case : RecoveryCase) (result : ProviderLookupResult) :
    Transaction ExecutionDisposition := do
  Tx.write (updateAction action.id (ActionRow.deadLetter result.observedAt))
  let case ← executionTransition case action .escalated "RECONCILIATION_DEADLINE_EXCEEDED" result.observedAt
  pure ⟨action.id, .unknown, case.state, "ESCALATED"⟩

def ProviderLookupResult.resolvedStatus (r : ProviderLookupResult) : ActionStatus :=
  if r.status = .succeeded ∨ r.status = .pending then .succeeded else .failed

def ProviderLookupResult.credits (r : ProviderLookupResult) : Bool := r.status == .succeeded && r.isAuthoritative

def settleLookup (action : ActionRow) (case : RecoveryCase) (result : ProviderLookupResult) : Transaction RecoveryCase :=
  let reason := orText result.reasonCode
  if result.credits then
    executionTransition case action .recovered (reason "AUTHORITATIVE_RECOVERY") result.observedAt
      (some result.evidenceReference) (some (reason "AUTHORITATIVE_RECOVERY"))
  else if result.status = .failed ∧ result.isAuthoritative = true then
    executionTransition case action .decisionPending (reason "AUTHORITATIVE_ACTION_FAILURE") result.observedAt
  else pure case

def reconcile (action : ActionRow) (case : RecoveryCase) (result : ProviderLookupResult) :
    Transaction ExecutionDisposition := do
  let resolved := result.resolvedStatus
  let action ← if case.state = .unknown ∨ resolved = .failed then
      setActionResolution action resolved result.observedAt result.providerObjectId
        (if resolved = .failed then result.reasonCode else none)
    else pure action
  let case ← if case.state = .unknown then
      executionTransition case action .verifying "UNKNOWN_RECONCILED" result.observedAt (some result.evidenceReference)
    else pure case
  storeObservation (observation action result.status result.evidenceSource result.observedAt
    (some result.evidenceReference) result.reasonCode result.isAuthoritative
    (if result.credits then action.action.parameters.amountMinor else 0))
  let case ← settleLookup action case result
  pure ⟨action.id, resolved, case.state, "RECONCILED"⟩

def settleLookupDeadline (action : ActionRow) (case : RecoveryCase) (result : ProviderLookupResult) :
    Transaction ExecutionDisposition :=
  if case.state = .unknown ∧ action.Overdue result then escalateUnresolved action case result
  else if result.status = .unknown then
    pure ⟨action.id, action.status, case.state,
      if case.state = .unknown then "STILL_UNKNOWN" else "AWAITING_VERIFICATION"⟩
  else reconcile action case result

def recordLookup (actionId : ActionIdentity) (result : ProviderLookupResult) : Transaction ExecutionDisposition := do
  let action ← Tx.read fun db => db.action actionId
  let action ← Tx.found action (.lookup "tenant-scoped recovery action does not exist")
  let case ← requiredCase action
  if ¬ (case.state = .unknown ∨ case.state = .verifying) then
    pure ⟨action.id, action.status, case.state, "STALE_LOOKUP"⟩
  else do
    let current ← if case.state = .verifying ∧ action.Overdue result then expireVerification action case result
      else pure (action, case)
    settleLookupDeadline current.1 current.2 result

def creditedAction (rt : Runtime) (event : NormalizedEvent) : Transaction (Option ActionRow) :=
  match event.paymentLinkId with
  | some link => findActionForProviderObject event.merchantId link.val recoveryCreditActions
  | none => match event.subscriptionId.or event.paymentId with
    | some subject => Tx.read (findLatestActionForTarget rt event.merchantId subject recoveryCreditActions)
    | none => pure none

def webhookReference (webhookEventId : Identifier) : String := "webhook_events/" ++ webhookEventId.val

def acknowledgeSigned (case : RecoveryCase) (action : ActionRow) (event : NormalizedEvent) (reference : String) :
    Transaction RecoveryCase :=
  if case.state = .unknown then
    executionTransition case action .verifying "SIGNED_EVIDENCE_RECEIVED" event.receivedAt (some reference)
  else pure case

def stopMismatched (action : ActionRow) (case : RecoveryCase) (event : NormalizedEvent) (reference : String) :
    Transaction ExecutionDisposition := do
  let case ← acknowledgeSigned case action event reference
  let case ← executionTransition case action .stopped "RECOVERY_AMOUNT_MISMATCH" event.receivedAt (some reference)
    (some "RECOVERY_AMOUNT_MISMATCH")
  pure ⟨action.id, .failed, case.state, "AMOUNT_MISMATCH"⟩

def creditSigned (action : ActionRow) (case : RecoveryCase) (event : NormalizedEvent) (reference : String) :
    Transaction ExecutionDisposition := do
  let action ← setActionResolution action .succeeded event.receivedAt (event.paymentLinkId.map (·.val))
  let case ← acknowledgeSigned case action event reference
  if case.state ≠ .verifying then pure ⟨action.id, .succeeded, case.state, "STALE_EVIDENCE"⟩
  else do
    storeObservation (observation action .succeeded .signedWebhook event.occurredAt (some reference)
      (some "PAYMENT_LINK_PAID") true event.amountMinor (some event.receivedAt))
    let case ← executionTransition case action .recovered "PAYMENT_LINK_PAID" event.receivedAt (some reference)
      (some "PAYMENT_LINK_PAID")
    pure ⟨action.id, .succeeded, case.state, "RECOVERED"⟩

def amountMatches (action : ActionRow) (event : NormalizedEvent) : Bool :=
  event.amountMinor == action.action.parameters.amountMinor && event.currency == action.action.parameters.currency

def verifyAgainst (event : NormalizedEvent) (webhookEventId : Identifier) (action : ActionRow) :
    Transaction ExecutionDisposition := do
  let case ← requiredCase action
  if case.state = .recovered then pure ⟨action.id, .succeeded, case.state, "ALREADY_VERIFIED"⟩
  else if amountMatches action event = false then stopMismatched action case event (webhookReference webhookEventId)
  else creditSigned action case event (webhookReference webhookEventId)

def verifySignedEvent (rt : Runtime) (event : NormalizedEvent) (webhookEventId : Identifier) :
    Transaction (Option ExecutionDisposition) := do
  if event.eventType.val ∉ signedSuccessEvents then pure none
  else do
    let action ← creditedAction rt event
    match action with
    | none => pure none
    | some action => do
      let d ← verifyAgainst event webhookEventId action
      pure (some d)

/-- What the payment link API answers to a lookup, once the response body is read. -/
inductive PaymentLinkAnswer where
  | timeout (reference : String) (providerId : Option String)
  | unresolved (requestReference : String)
  | malformed (requestReference : String)
  | document (statusCode : Nat) (requestReference : String) (providerId : Option String) (state : String)

def lower (s : String) : String := s.map Char.toLower

def paymentLinkStatus (state : String) : ActionStatus := match state with
  | "paid" => .succeeded
  | "cancelled" => .failed
  | "expired" => .failed
  | "created" => .pending
  | "partially_paid" => .pending
  | _ => .unknown

theorem lookup_source : EvidenceSource.providerLookup = .providerLookup ∨ EvidenceSource.providerLookup = .simulator := .inl rfl

/-- `RazorpayTestModeAdapter.lookup`: the answer's status alone decides, never its amount. -/
def razorpayLookup (answer : PaymentLinkAnswer) (observedAt : Instant) : ProviderLookupResult :=
  let open_ (reference reason : String) (providerId : Option String) : ProviderLookupResult :=
    { status := .unknown, evidenceSource := .providerLookup, evidenceReference := reference
      observedAt := observedAt, isAuthoritative := false, providerObjectId := providerId, reasonCode := some reason
      source_ok := lookup_source, unknown_open := fun _ => rfl }
  match answer with
  | .timeout reference providerId => open_ reference "PROVIDER_LOOKUP_TIMEOUT" providerId
  | .unresolved reference => open_ reference "PROVIDER_REFERENCE_NOT_RESOLVED" none
  | .malformed reference => open_ reference "PROVIDER_LOOKUP_MALFORMED" none
  | .document statusCode reference providerId state =>
    let state := lower state
    let status := paymentLinkStatus state
    { status := status
      evidenceSource := .providerLookup
      evidenceReference := reference
      observedAt := observedAt
      isAuthoritative := decide (200 ≤ statusCode ∧ statusCode < 300 ∧ status ≠ .unknown)
      providerObjectId := providerId
      reasonCode := some (if state = "" then "PROVIDER_LOOKUP_UNRECOGNIZED" else "PAYMENT_LINK_" ++ upper state)
      source_ok := lookup_source
      unknown_open := fun h => by simp [h] }

end RevenueGuard
