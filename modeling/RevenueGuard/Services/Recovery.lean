import RevenueGuard.Store.Actions

/-
Transactional recovery decisioning and action authorization. Each service call
is one transaction; routing an event, a wake-up or a review ends either in a
result or in one evaluation of the case.
-/
namespace RevenueGuard

structure RecoveryServiceResult where
  caseId : Option Identifier
  caseState : Option CaseState
  disposition : Option EvidenceDisposition
  reasonCode : String
  receiptId : Option ReceiptId := none
  reviewId : Option ReviewId := none
  actionId : Option ActionIdentity := none

/-- What one evaluation draws from outside: fresh ids and the model's answers. -/
structure EvaluationInputs where
  receiptId : Identifier
  reviewId : Identifier
  model : ModelBehaviour := unavailableModel

structure EvaluationRequest where
  case : RecoveryCase
  diagnosis : Diagnosis
  event : NormalizedEvent
  policy : MerchantPolicySnapshot
  evaluatedAt : Instant
  approval : Option HumanReviewRequest := none

inductive Routed where
  | done (result : RecoveryServiceResult)
  | evaluate (request : EvaluationRequest)

structure Assessment where
  checking : RecoveryCase
  activeCaseIds : List Identifier
  candidates : List CandidateAction
  decision : PolicyDecision

def paidStatus (status : Option String) : Bool := ["CAPTURED", "CHARGED", "COMPLETED", "PAID"].contains (upper (status.getD ""))

def disputedStatus (status : Option String) : Bool := upper (status.getD "") == "DISPUTED"

def cancelledStatus (status : Option String) : Bool := ["CANCELLED", "ESCALATED"].contains (upper (status.getD ""))

/-- `_event_status`: what follows the last dot of the event type, in upper case. -/
def eventStatus (eventType : Identifier) : String :=
  upper (String.ofList (eventType.val.toList.reverse.takeWhile (· ≠ '.')).reverse)

def Diagnosis.confidence (d : Diagnosis) : BasisPoints := ⟨d.confidenceBasisPoints, d.confidence_le⟩

def RecoveryCase.diagnosed (case : RecoveryCase) (d : Diagnosis) : RecoveryCase :=
  { case with diagnosis := some d.code, diagnosisConfidenceBasisPoints := some d.confidence }

def RecoveryCase.withDiagnosis (case : RecoveryCase) : Option Diagnosis → RecoveryCase
  | some d => case.diagnosed d
  | none => case

def RecoveryCase.countRetry (case : RecoveryCase) (increment : Bool) : RecoveryCase :=
  if increment then { case with retryCount := case.retryCount + 1 } else case

/-- `RecoveryApplicationService._transition`. -/
def recoveryTransition (case : RecoveryCase) (t : Transition) (diagnosis : Option Diagnosis := none)
    (latestEvent : Option NormalizedEvent := none) (incrementRetry : Bool := false) : Transaction RecoveryCase := do
  let moved ← Tx.lift (transitionCase case case.stateVersion t)
  let updated := (moved.1.withDiagnosis diagnosis).countRetry incrementRetry
  applyTransition updated moved.2 latestEvent
  pure updated

def requireCase (key : CaseKey) : Transaction RecoveryCase := do
  let case ← Tx.read fun db => db.caseOf key
  Tx.found case (.lookup "tenant-scoped recovery case does not exist")

def advisoryDiagnosis (diagnosis : Diagnosis) (intelligence : CaseIntelligenceResult) : Diagnosis :=
  { code := if diagnosis.terminal then diagnosis.code else intelligence.diagnosisCode
    confidenceBasisPoints := min diagnosis.confidenceBasisPoints intelligence.confidenceBasisPoints
    candidates := intelligence.candidates
    deferUntil := diagnosis.deferUntil
    terminal := diagnosis.terminal
    confidence_le := le_trans (min_le_left _ _) diagnosis.confidence_le }

def intelligenceRequest (r : EvaluationRequest) : CaseIntelligenceRequest :=
  { amountMinor := r.case.revenueAtRiskMinor
    diagnosisCode := r.diagnosis.code
    diagnosisConfidenceBasisPoints := r.diagnosis.confidenceBasisPoints
    candidates := r.diagnosis.candidates
    terminalDiagnosis := r.diagnosis.terminal
    confidence_le := r.diagnosis.confidence_le }

def adviseCase (rt : Runtime) (inputs : EvaluationInputs) (r : EvaluationRequest) : Diagnosis :=
  advisoryDiagnosis r.diagnosis (recommend rt.budget inputs.model (intelligenceRequest r))

def coordinateWith (r : EvaluationRequest) (customer : Identifier) (active : Option ActionIdentity) : Transaction Unit :=
  if active.isSome then coordinateCaseWithActiveIntervention r.case.merchantId customer r.case.caseId r.evaluatedAt
  else pure ()

/-- The customer-wide contact facts; a case without a customer stands alone. -/
def contactFacts (r : EvaluationRequest) : Transaction CustomerContactSnapshot :=
  match r.case.customerId with
  | none => pure ⟨r.case.contactCount, [r.case.caseId], none⟩
  | some customer => do
    let snapshot ← customerContactSnapshot r.case.merchantId customer
    coordinateWith r customer snapshot.activeInterventionActionId
    pure { snapshot with
      activeCaseIds := if snapshot.activeCaseIds = [] then [r.case.caseId] else snapshot.activeCaseIds }

/-- A scorer that fails leaves the advisory order. -/
def scoreCandidates (rt : Runtime) (r : EvaluationRequest) (advisory : Diagnosis) (contactCount : Nat)
    (systemicIncident : Bool) : List CandidateAction :=
  let context : RecoveryScoringContext :=
    { amountMinor := r.case.revenueAtRiskMinor
      retryCount := r.case.retryCount
      aggregateContactCount := contactCount
      diagnosisConfidenceBasisPoints := advisory.confidenceBasisPoints
      failureCategory := r.event.normalizedFailureCategory.identifier
      activeSystemicIncident := systemicIncident
      evaluatedAt := r.evaluatedAt }
  match rankCandidatesByExpectedNetRecovery rt.exp advisory.candidates context rt.scoringArtifact
      rt.actionEconomics r.policy.allowedActions with
  | .ok candidates => candidates
  | .error _ => advisory.candidates

def hasUnknownEquivalentAmong (key : CaseKey) (candidates : List CandidateAction) (db : Database) : Bool :=
  candidates.any fun c => decide (c.actionType ≠ .noAction) && hasUnknownEquivalent key c.actionType c.target db

def systemicScope (i : IncidentConstraint) : Bool := i.scope == .paymentRail || i.scope == .gateway || i.scope == .issuer

def evaluationInput (r : EvaluationRequest) (advisory : Diagnosis) (candidates : CandidateList)
    (contact : CustomerContactSnapshot) (incidents : List IncidentConstraint) (facts : AuthoritativeFacts)
    (consent : List (ContactChannel × ConsentState) × List ContactChannel) (unknownEquivalent : Bool) :
    PolicyEvaluationInput :=
  { caseId := r.case.caseId
    amountMinor := r.case.revenueAtRiskMinor
    currency := r.case.currency
    confidenceBasisPoints := advisory.confidenceBasisPoints
    retryCount := r.case.retryCount
    contactCount := contact.aggregateContactCount
    evaluatedAt := r.evaluatedAt
    candidates := candidates
    consentByChannel := consent.1
    optedOutChannels := consent.2
    incidents := incidents
    alreadyPaid := paidStatus facts.status
    disputed := disputedStatus facts.status || r.diagnosis.code == paymentDisputed
    cancelled := cancelledStatus facts.status
    diagnosisDeferUntil := advisory.deferUntil
    approval := r.approval
    unknownEquivalentAction := unknownEquivalent
    customerContactInProgress := contact.activeInterventionActionId.isSome
    customerIdentityResolved := r.case.customerId.isSome
    activePromiseToPay := facts.promiseDueAt.isSome
    promiseDueAt := facts.promiseDueAt
    confidence_le := advisory.confidence_le
    promise_due := fun due => due }

/-- The first half of `_evaluate_case`: into POLICY_CHECK and up to the policy's decision. -/
def assessCase (rt : Runtime) (inputs : EvaluationInputs) (r : EvaluationRequest) : Transaction Assessment := do
  let advisory := adviseCase rt inputs r
  let checking ← recoveryTransition r.case
    { toState := .policyCheck, actor := "RECOVERY_SERVICE", reasonCode := "POLICY_EVALUATION_STARTED"
      policyVersion := r.policy.version, occurredAt := r.evaluatedAt } (some advisory) (some r.event)
  let consent ← Tx.read (consentFacts r.case.merchantId r.case.customerId)
  let incidents ← activeIncidents r.case.key r.evaluatedAt (some advisory.code)
  let checking := match incidents.find? systemicScope with
    | some incident => { checking with activeIncidentId := some incident.incidentId }
    | none => checking
  let contact ← contactFacts r
  let scored := scoreCandidates rt r advisory contact.aggregateContactCount (!incidents.isEmpty)
  let facts ← Tx.read (authoritativeFactsForCase checking)
  let unknownEquivalent ← Tx.read (hasUnknownEquivalentAmong r.case.key scored)
  let candidates ← Tx.lift (candidateList scored)
  let decision ← Tx.lift (evaluatePolicy (rt.zoneInfo r.policy.timezone) r.policy
    (evaluationInput r advisory candidates contact incidents facts consent unknownEquivalent))
  pure ⟨checking, contact.activeCaseIds, scored, decision⟩

def buildReview (rt : Runtime) (reviewId : Identifier) (case : RecoveryCase) (policy : MerchantPolicySnapshot)
    (decision : PolicyDecision) (requestedAt : Instant) : HumanReviewRequest :=
  { reviewId := .generated reviewId
    merchantId := case.merchantId
    caseId := case.caseId
    actionFingerprint := fingerprintOf policy case.caseId case.revenueAtRiskMinor case.currency decision.selectedAction
    proposedActionType := decision.selectedAction.actionType
    policyVersion := policy.version
    policyDigest := policy.contentDigest
    reasonCode := decision.lastReason.code
    riskDetail := "Policy requires explicit operator approval"
    requestedAt := requestedAt
    expiresAt := requestedAt + rt.reviewTtl }

def candidateIdentity (case : RecoveryCase) (candidate : CandidateAction) : ActionIdentity :=
  { merchantId := case.merchantId
    caseId := case.caseId
    actionType := candidate.actionType
    targetType := case.subjectType
    targetId := candidate.target
    logicalAttempt := max 1 candidate.logicalAttempt
    attempt_pos := le_max_left _ _ }

def buildAction (case : RecoveryCase) (decision : PolicyDecision) (receiptId : ReceiptId) (authorizedAt : Instant)
    (coordinatedCaseIds : List Identifier) : Option RecoveryAction :=
  if decision.result ≠ .proceed ∨ decision.selectedAction.actionType = .escalateHuman then none
  else some
    { identity := candidateIdentity case decision.selectedAction
      decisionReceiptId := receiptId
      status := .pending
      parameters :=
        { amountMinor := case.revenueAtRiskMinor
          currency := case.currency
          channel := decision.selectedAction.channel
          coordinatedCaseIds := if decision.selectedAction.channel.isSome then coordinatedCaseIds else [] }
      authorizedAt := authorizedAt
      executeAfter := authorizedAt
      createdAt := authorizedAt }

def customerIntervention (r : EvaluationRequest) (customer : Identifier) (action : RecoveryAction)
    (activeCaseIds : List Identifier) : InterventionRow :=
  { merchantId := r.case.merchantId
    customerId := customer
    ownerCaseId := r.case.caseId
    actionId := action.identity
    coordinatedCaseIds := activeCaseIds
    status := .active
    cooldownUntil := r.evaluatedAt + seconds r.policy.defaultDeferSeconds
    createdAt := r.evaluatedAt
    updatedAt := r.evaluatedAt }

def storeAuthorizedAction (r : EvaluationRequest) (activeCaseIds : List Identifier) (action : RecoveryAction) :
    Transaction Unit := do
  let _ ← storeAction action r.policy.version 3 (r.evaluatedAt + 3600000000)
  match r.case.customerId with
  | some customer =>
    if action.identity.actionType.actionClass = .customerContact then
      storeCustomerIntervention (customerIntervention r customer action activeCaseIds)
    else pure ()
  | none => pure ()

def storeReviewIfAny : Option HumanReviewRequest → Transaction Unit
  | some review => storeReview review
  | none => pure ()

def storeActionIfAny (r : EvaluationRequest) (activeCaseIds : List Identifier) : Option RecoveryAction → Transaction Unit
  | some action => storeAuthorizedAction r activeCaseIds action
  | none => pure ()

def countsAsRetry (decision : PolicyDecision) : Bool :=
  decide (decision.result = .defer ∧ decision.selectedAction.actionType = .deferRetry
    ∧ decision.lastReason = .lowConfidenceRetryDeferred)

def decisionTransition (policyVersion : Identifier) (decision : PolicyDecision) (occurredAt : Instant) (actor : String) :
    Transition :=
  { toState := decision.resultingState
    actor := actor
    reasonCode := decision.lastReason.code
    policyVersion := policyVersion
    occurredAt := occurredAt
    terminalReason := if decision.result = .stop then some decision.lastReason.code else none
    nextEvaluationAt := decision.nextEvaluationAt }

/-- The second half of `_evaluate_case`: the decision's review, transition, receipt and action. -/
def decideCase (rt : Runtime) (inputs : EvaluationInputs) (r : EvaluationRequest) (a : Assessment) :
    Transaction RecoveryServiceResult := do
  let review := if a.decision.result = .requireHuman then
    some (buildReview rt inputs.reviewId a.checking r.policy a.decision r.evaluatedAt) else none
  storeReviewIfAny review
  let decided ← recoveryTransition a.checking
    { decisionTransition r.policy.version a.decision r.evaluatedAt "POLICY_ENGINE" with
      reasonDetail := some (",".intercalate (a.decision.reasonCodes.map (·.code))) } none none
    (countsAsRetry a.decision)
  let action := buildAction decided a.decision (.generated inputs.receiptId) r.evaluatedAt a.activeCaseIds
  storeReceipt
    { merchantId := r.case.merchantId
      receiptId := .generated inputs.receiptId
      caseId := r.case.caseId
      evidenceReferences := [.event r.event.eventId]
      candidateActions := a.candidates
      selectedActionType := a.decision.selectedAction.actionType
      policyResult := a.decision.result
      policyReasonCodes := a.decision.reasonCodes
      policyVersion := r.policy.version
      humanReviewId := (r.approval.map (·.reviewId)).or (review.map (·.reviewId))
      resultingActionId := action.map (·.identity)
      resultingState := decided.state
      createdAt := r.evaluatedAt }
  storeActionIfAny r a.activeCaseIds action
  pure { caseId := some decided.caseId, caseState := some decided.state, disposition := some .applied
         reasonCode := a.decision.lastReason.code, receiptId := some (.generated inputs.receiptId)
         reviewId := review.map (·.reviewId), actionId := action.map (·.identity) }

def evaluateCase (rt : Runtime) (inputs : EvaluationInputs) (r : EvaluationRequest) :
    Transaction RecoveryServiceResult := do
  let a ← assessCase rt inputs r
  decideCase rt inputs r a

def linkAuditOnly (event : NormalizedEvent) (row : Option CaseRow) (reasonCode : String) : Transaction Routed := do
  let link ← linkEvidence ⟨event.merchantId, row.map (·.case.caseId), event.eventId, .auditOnly, reasonCode⟩
  pure (.done { caseId := row.map (·.case.caseId), caseState := row.map (·.case.state)
                disposition := some link.link.disposition
                reasonCode := if link.created then reasonCode else "EVENT_ALREADY_LINKED" })

def startTransition (toState : CaseState) (reasonCode : String) (policy : MerchantPolicySnapshot) (at_ : Instant) :
    Transition :=
  { toState := toState, actor := "RECOVERY_SERVICE", reasonCode := reasonCode, policyVersion := policy.version
    occurredAt := at_ }

def advanceToDecisionPending (case : RecoveryCase) (diagnosis : Diagnosis) (event : NormalizedEvent)
    (policy : MerchantPolicySnapshot) (evaluatedAt : Instant) : Transaction RecoveryCase := do
  let case ← if case.state = .detected then
      recoveryTransition case (startTransition .diagnosing "DIAGNOSIS_STARTED" policy evaluatedAt)
    else pure case
  match case.state with
  | .diagnosing =>
    recoveryTransition case (startTransition .decisionPending "DIAGNOSIS_COMPLETED" policy evaluatedAt)
      (some diagnosis) (some event)
  | .deferred =>
    recoveryTransition case (startTransition .decisionPending "NEW_EVIDENCE_REEVALUATION" policy evaluatedAt)
      (some diagnosis) (some event)
  | .decisionPending => pure (case.diagnosed diagnosis)
  | _ => pure case

def newCase (caseId : Identifier) (identity : CaseIdentity) (event : NormalizedEvent) (evaluatedAt : Instant) : CaseRow :=
  { case :=
      { caseId := caseId
        merchantId := event.merchantId
        workflowType := identity.workflowType
        subjectType := identity.subjectType
        subjectId := identity.subjectId
        customerId := event.customerId
        revenueAtRiskMinor := event.amountMinor
        currency := event.currency
        state := .detected
        stateVersion := 1
        retryCount := 0
        contactCount := 0
        createdAt := evaluatedAt
        updatedAt := evaluatedAt }
    recoveryEpisodeKey := identity.episodeKey
    latestEvidenceEventId := some event.eventId
    latestEvidenceOccurredAt := some event.occurredAt }

/-- Advance the case with its newly applied event and hand it to evaluation. -/
def proceedToEvaluation (case : RecoveryCase) (diagnosis : Diagnosis) (event : NormalizedEvent)
    (policy : MerchantPolicySnapshot) (evaluatedAt : Instant) : Transaction Routed := do
  let case ← advanceToDecisionPending case diagnosis event policy evaluatedAt
  if case.state ≠ .decisionPending then
    pure (.done { caseId := some case.caseId, caseState := some case.state, disposition := some .applied
                  reasonCode := "CASE_NOT_ELIGIBLE_FOR_REEVALUATION" })
  else pure (.evaluate { case := case, diagnosis := diagnosis, event := event, policy := policy
                         evaluatedAt := evaluatedAt })

def openCase (caseId : Identifier) (identity : CaseIdentity) (diagnosis : Diagnosis) (event : NormalizedEvent)
    (policy : MerchantPolicySnapshot) (evaluatedAt : Instant) : Transaction Routed := do
  let row := newCase caseId identity event evaluatedAt
  createCase row
  let link ← linkEvidence ⟨event.merchantId, some caseId, event.eventId, .applied, "EVIDENCE_ACCEPTED"⟩
  if link.created then proceedToEvaluation row.case diagnosis event policy evaluatedAt
  else pure (.done { caseId := some caseId, caseState := some .detected, disposition := some link.link.disposition
                     reasonCode := "EVENT_ALREADY_LINKED" })

def orderForCase (row : CaseRow) (event : NormalizedEvent) (db : Database) : EvidenceOrder :=
  let watermark := row.latestEvidenceEventId.bind (db.event event.merchantId)
  orderEvidence event (eventStatus event.eventType) (authoritativeFacts event db) row.latestEvidenceOccurredAt
    row.latestEvidenceEventId (watermark.map fun e => eventStatus e.eventType)

def updateCase (row : CaseRow) (diagnosis : Diagnosis) (event : NormalizedEvent) (policy : MerchantPolicySnapshot)
    (evaluatedAt : Instant) : Transaction Routed := do
  let ordering ← Tx.read (orderForCase row event)
  let link ← linkEvidence
    ⟨event.merchantId, some row.case.caseId, event.eventId, ordering.disposition, ordering.reasonCode⟩
  if ¬ link.created then
    pure (.done { caseId := link.link.caseId, caseState := some row.case.state
                  disposition := some link.link.disposition, reasonCode := "EVENT_ALREADY_LINKED" })
  else if ordering.disposition ≠ .applied then
    pure (.done { caseId := some row.case.caseId, caseState := some row.case.state
                  disposition := some ordering.disposition, reasonCode := ordering.reasonCode })
  else do
    let case ← requireCase row.key
    proceedToEvaluation case diagnosis event policy evaluatedAt

def routeEvent (merchantId normalizedEventId newCaseId : Identifier) (evaluatedAt : Instant) : Transaction Routed := do
  lockMerchant merchantId
  let event ← Tx.read fun db => db.event merchantId normalizedEventId
  let event ← Tx.found event (.lookup "tenant-scoped normalized event does not exist")
  match selectCaseIdentity event with
  | none => linkAuditOnly event none "UNSUPPORTED_EVENT_SUBJECT"
  | some identity => do
    let row ← Tx.read fun db => (findActiveCase merchantId identity db).or (findEpisodeCase merchantId identity db)
    match diagnoseEvent event with
    | none => linkAuditOnly event row "EVENT_HAS_NO_RECOVERY_DIAGNOSIS"
    | some diagnosis => match row with
      | none => do
        let policy ← effectivePolicy merchantId evaluatedAt
        openCase newCaseId identity diagnosis event policy evaluatedAt
      | some row =>
        if row.case.state.Terminal then linkAuditOnly event (some row) "TERMINAL_CASE_EVIDENCE"
        else do
          let policy ← effectivePolicy merchantId evaluatedAt
          updateCase row diagnosis event policy evaluatedAt

def finishRouting (rt : Runtime) (inputs : EvaluationInputs) : Routed → Transaction RecoveryServiceResult
  | .done result => pure result
  | .evaluate request => evaluateCase rt inputs request

def processEvent (rt : Runtime) (inputs : EvaluationInputs) (merchantId normalizedEventId newCaseId : Identifier)
    (evaluatedAt : Instant) : Transaction RecoveryServiceResult := do
  let routed ← routeEvent merchantId normalizedEventId newCaseId evaluatedAt
  finishRouting rt inputs routed

def wakeDeferred (evaluatedAt : Instant) (row : CaseRow) : Transaction EvaluationRequest := do
  let eventId ← Tx.found row.latestEvidenceEventId (.lookup "deferred case has no persisted evidence watermark")
  let event ← Tx.read fun db => db.event row.case.merchantId eventId
  let event ← Tx.found event (.lookup "deferred case evidence does not exist")
  let diagnosis ← Tx.found (diagnoseEvent event) (.value "deferred case evidence has no recovery diagnosis")
  let policy ← effectivePolicy row.case.merchantId evaluatedAt
  let case ← requireCase row.key
  let case ← recoveryTransition case
    { toState := .decisionPending, actor := "SYSTEM", reasonCode := "DEFERRED_CASE_DUE"
      policyVersion := policy.version, occurredAt := evaluatedAt }
  pure { case := case, diagnosis := diagnosis, event := event, policy := policy, evaluatedAt := evaluatedAt }

def reevaluateRow (rt : Runtime) (inputs : CaseKey → EvaluationInputs) (evaluatedAt : Instant) (row : CaseRow) :
    Transaction RecoveryServiceResult := do
  let request ← wakeDeferred evaluatedAt row
  evaluateCase rt (inputs row.key) request

def reevaluateDeferred (rt : Runtime) (inputs : CaseKey → EvaluationInputs) (dueAt : Instant) (limit : Nat) :
    Transaction (List RecoveryServiceResult) := do
  Tx.check (0 < limit) (.value "limit must be positive")
  let rows ← Tx.read (dueDeferredCases dueAt limit)
  Tx.each (reevaluateRow rt inputs dueAt) rows

def noActionDiagnosis (case : RecoveryCase) : Diagnosis :=
  { code := case.diagnosis.getD (ident "NO_RECOVERY_DIAGNOSIS")
    confidenceBasisPoints := case.confidence.val
    candidates := [noActionCandidate case.subjectId 1 first_pos]
    confidence_le := case.confidence_le }

def reviewTransition (toState : CaseState) (reasonCode : String) (decision : HumanReviewDecision)
    (policy : MerchantPolicySnapshot) (at_ : Instant) : Transition :=
  { toState := toState
    actor := decision.reviewerId
    reasonCode := reasonCode
    policyVersion := policy.version
    occurredAt := at_
    terminalReason := if toState = .stopped then some reasonCode else none }

def stopReviewed (case : RecoveryCase) (reasonCode : String) (decision : HumanReviewDecision)
    (policy : MerchantPolicySnapshot) (at_ : Instant) (decided : HumanReviewRequest) : Transaction Routed := do
  updateReviewDecision case.merchantId decided
  let stopped ← recoveryTransition case (reviewTransition .stopped reasonCode decision policy at_)
  pure (.done { caseId := some stopped.caseId, caseState := some stopped.state, disposition := none
                reasonCode := reasonCode, reviewId := some decided.reviewId })

def resumeReviewed (case : RecoveryCase) (decision : HumanReviewDecision) (policy : MerchantPolicySnapshot)
    (at_ : Instant) (decided : HumanReviewRequest) : Transaction Routed := do
  updateReviewDecision case.merchantId decided
  let row ← Tx.read fun db => (db.caseRow case.key).bind (·.latestEvidenceEventId)
  let eventId ← Tx.found row (.lookup "reviewed case has no persisted evidence")
  let event ← Tx.read fun db => db.event case.merchantId eventId
  let event ← Tx.found event (.lookup "reviewed case evidence does not exist")
  let diagnosis := (diagnoseEvent event).getD (noActionDiagnosis case)
  let pending ← recoveryTransition case (reviewTransition .decisionPending "HUMAN_REVIEW_APPROVED" decision policy at_)
  pure (.evaluate { case := pending, diagnosis := diagnosis, event := event, policy := policy
                    evaluatedAt := at_, approval := some decided })

def routeReview (merchantId : Identifier) (decision : HumanReviewDecision) (evaluatedAt : Instant) :
    Transaction Routed := do
  Tx.check (decision.decidedAt ≤ evaluatedAt) (.value "review decision time cannot be in the future")
  lockMerchant merchantId
  let request ← Tx.read fun db => db.review merchantId decision.reviewId
  let request ← Tx.found request (.lookup "tenant-scoped human review does not exist")
  let case ← requireCase ⟨merchantId, request.caseId⟩
  let policy ← effectivePolicy merchantId evaluatedAt
  if request.expiresAt ≤ evaluatedAt then do
    let decided ← Tx.lift (expireReview request evaluatedAt)
    stopReviewed case "HUMAN_REVIEW_EXPIRED" decision policy evaluatedAt decided
  else do
    let decided ← Tx.lift (decideReview request decision)
    match decision.decision with
    | .reject => stopReviewed case "HUMAN_REVIEW_REJECTED" decision policy evaluatedAt decided
    | .approve => resumeReviewed case decision policy evaluatedAt decided

def decideReviewRequest (rt : Runtime) (inputs : EvaluationInputs) (merchantId : Identifier)
    (decision : HumanReviewDecision) (evaluatedAt : Instant) : Transaction RecoveryServiceResult := do
  let routed ← routeReview merchantId decision evaluatedAt
  finishRouting rt inputs routed

end RevenueGuard
