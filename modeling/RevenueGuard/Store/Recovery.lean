import RevenueGuard.Store.Database

/-
Recovery repository: cases and their transitions, evidence links, reviews,
receipts, policy versions and the facts an evaluation reads.
-/
namespace RevenueGuard

def upperChar (c : Char) : String := match c with
  | 'ı' => "I"
  | 'ſ' => "S"
  | 'ß' => "SS"
  | 'ﬀ' => "FF"
  | 'ﬁ' => "FI"
  | 'ﬂ' => "FL"
  | 'ﬃ' => "FFI"
  | 'ﬄ' => "FFL"
  | 'ﬅ' => "ST"
  | 'ﬆ' => "ST"
  | c => c.toUpper.toString

/-- `str.upper`, as far as its result is compared with ASCII names: the listed
characters are the ones outside ASCII whose upper case is ASCII. -/
def upper (s : String) : String := String.join (s.toList.map upperChar)

structure EvidenceLinkResult where
  link : CaseEventRow
  created : Bool

structure AuthoritativeFacts where
  providerUpdatedAt : Option Instant
  status : Option String
  promiseDueAt : Option Instant := none

structure CustomerContactSnapshot where
  aggregateContactCount : Nat
  activeCaseIds : List Identifier
  activeInterventionActionId : Option ActionIdentity

structure EvidenceOrder where
  disposition : EvidenceDisposition
  reasonCode : String
deriving DecidableEq, Repr

def providerStatusPrecedence (status : String) : Nat := match status with
  | "AUTHORIZED" => 50
  | "CAPTURED" => 100
  | "PAID" => 100
  | "CHARGED" => 100
  | "COMPLETED" => 100
  | "DISPUTED" => 110
  | "CANCELLED" => 90
  | "HALTED" => 90
  | "FAILED" => 20
  | "PENDING" => 10
  | "CREATED" => 5
  | _ => 0

def statusRank (status : Option String) : Nat := providerStatusPrecedence (upper (status.getD ""))

/-- Timestamps, then status truth, then event ids among equivalent evidence. -/
def orderEvidence (event : NormalizedEvent) (eventStatus : String) (authoritative : AuthoritativeFacts)
    (watermarkAt : Option Instant) (watermarkEventId : Option Identifier) (caseStatus : Option String) :
    EvidenceOrder :=
  let rank := statusRank (some eventStatus)
  if ∃ t ∈ authoritative.providerUpdatedAt, event.occurredAt < t then
    ⟨.ignoredStale, "OLDER_THAN_PROVIDER_TRUTH"⟩
  else if ∃ t ∈ watermarkAt, event.occurredAt < t then ⟨.ignoredStale, "OLDER_THAN_CASE_WATERMARK"⟩
  else if authoritative.providerUpdatedAt = some event.occurredAt ∧ rank < statusRank authoritative.status then
    ⟨.ignoredStale, "LOWER_PRECEDENCE_PROVIDER_TRUTH"⟩
  else if watermarkAt = some event.occurredAt ∧ rank < statusRank caseStatus then
    ⟨.ignoredStale, "LOWER_PRECEDENCE_CASE_TRUTH"⟩
  else if watermarkAt = some event.occurredAt ∧ rank = statusRank caseStatus
      ∧ ∃ id ∈ watermarkEventId, event.eventId.val ≤ id.val then
    ⟨.ignoredStale, "EQUIVALENT_EVIDENCE_TIE_BREAK"⟩
  else ⟨.applied, "EVIDENCE_ACCEPTED"⟩

def Database.caseRow (db : Database) (k : CaseKey) : Option CaseRow := Table.lookup CaseRow.key k db.cases

def Database.caseOf (db : Database) (k : CaseKey) : Option RecoveryCase := (db.caseRow k).map (·.case)

def Database.event (db : Database) (merchantId eventId : Identifier) : Option NormalizedEvent :=
  Table.lookup EventKey (merchantId, eventId) db.events

def Database.review (db : Database) (merchantId : Identifier) (reviewId : ReviewId) : Option HumanReviewRequest :=
  Table.lookup HumanReviewRequest.id (merchantId, reviewId) db.reviews

def Database.receipt (db : Database) (merchantId : Identifier) (receiptId : ReceiptId) : Option ReceiptRow :=
  Table.lookup ReceiptRow.id (merchantId, receiptId) db.receipts

def Database.activeIntervention (db : Database) (merchantId customerId : Identifier) : Option InterventionRow :=
  db.interventions.find? fun r =>
    decide (r.merchantId = merchantId ∧ r.customerId = customerId ∧ r.status = .active)

def customerContactSnapshot (merchantId customerId : Identifier) : Transaction CustomerContactSnapshot := do
  let known ← Tx.read fun db => db.customers.any fun c => c.merchantId == merchantId && c.customerId == customerId
  Tx.check (known = true) (.lookup "tenant-scoped customer does not exist")
  Tx.read fun db =>
    let ofCustomer := db.cases.filter fun r =>
      decide (r.case.merchantId = merchantId ∧ r.case.customerId = some customerId)
    let active := ofCustomer.filter fun r => decide (¬ r.case.state.Terminal)
    { aggregateContactCount := (ofCustomer.map fun r => r.case.contactCount).sum
      activeCaseIds := (active.map fun r => r.case.caseId).insertionSort fun a b => a.val ≤ b.val
      activeInterventionActionId := (db.activeIntervention merchantId customerId).map (·.actionId) }

def storeCustomerIntervention (intervention : InterventionRow) : Transaction Unit := do
  let existing ← Tx.read fun db => db.interventions.find? fun r =>
    decide (r.merchantId = intervention.merchantId ∧ r.actionId = intervention.actionId)
  match existing with
  | some row =>
    Tx.check (row.customerId = intervention.customerId ∧ row.ownerCaseId = intervention.ownerCaseId
        ∧ row.coordinatedCaseIds = intervention.coordinatedCaseIds)
      (.recoveryPersistence "INTERVENTION_IDEMPOTENCY_CONFLICT"
        "the recovery action is already attached to a different intervention")
  | none => do
    let active ← Tx.read fun db => db.activeIntervention intervention.merchantId intervention.customerId
    Tx.check (active = none) (.integrity "uq_customer_interventions_active_customer")
    Tx.write fun db => { db with interventions := db.interventions ++ [intervention] }

def coordinateCaseWithActiveIntervention (merchantId customerId caseId : Identifier) (updatedAt : Instant) :
    Transaction Unit := do
  let row ← Tx.read fun db => db.activeIntervention merchantId customerId
  match row with
  | none => pure ()
  | some row =>
    let coordinated := (unique (row.coordinatedCaseIds ++ [caseId])).insertionSort fun a b => a.val ≤ b.val
    let coordinate (r : InterventionRow) := { r with coordinatedCaseIds := coordinated, updatedAt := updatedAt }
    if coordinated = row.coordinatedCaseIds then pure ()
    else
      Tx.write fun db => { db with
        interventions := Table.update InterventionRow.actionId row.actionId coordinate db.interventions }

def closeExpiredCustomerInterventions (rt : Runtime) (dueAt : Instant) (limit : Nat) : Transaction Nat := do
  Tx.check (0 < limit) (.value "limit must be positive")
  let statusOf (db : Database) (r : InterventionRow) : Option ActionStatus :=
    (Table.lookup ActionRow.id r.actionId db.actions).map (·.status)
  let rows ← Tx.read fun db => ((db.interventions.filter fun r => decide (r.status = .active ∧ r.cooldownUntil ≤ dueAt
    ∧ (statusOf db r = some .succeeded ∨ statusOf db r = some .failed))).insertionSort fun a b =>
      a.cooldownUntil < b.cooldownUntil ∨ (a.cooldownUntil = b.cooldownUntil ∧ (a.merchantId.val < b.merchantId.val
      ∨ (a.merchantId = b.merchantId ∧ rt.interventionOrder a.actionId ≤ rt.interventionOrder b.actionId)))).take limit
  Tx.write fun db => { db with interventions := db.interventions.map fun r => if r ∈ rows then
    { r with
      status := .closed
      closedAt := some dueAt
      closeReason := some (if statusOf db r = some .succeeded then "CONTACT_COOLDOWN_COMPLETED"
        else "CONTACT_ACTION_FAILED")
      updatedAt := dueAt } else r }
  pure rows.length

def publishPolicy (merchantId : Identifier) (policy : MerchantPolicySnapshot) : Transaction Unit := do
  let existing ← Tx.read fun db => db.policies.find? fun r =>
    decide (r.merchantId = merchantId ∧ r.version = policy.version)
  match existing with
  | some row =>
    Tx.check (row.contentSha256 = policy.contentDigest)
      (.recoveryPersistence "POLICY_VERSION_CONTENT_MISMATCH" "policy version already exists with different content")
  | none => do
    let collision ← Tx.read fun db => db.policies.any fun r =>
      decide (r.merchantId = merchantId ∧ r.effectiveAt = policy.effectiveAt)
    Tx.check (collision = false) (.recoveryPersistence "POLICY_EFFECTIVE_TIME_CONFLICT"
      "another policy version has the same effective timestamp")
    Tx.write fun db => { db with policies := db.policies ++ [
      { merchantId := merchantId, version := policy.version, snapshot := policy.canonicalDocument
        contentSha256 := policy.contentDigest, effectiveAt := policy.effectiveAt }] }

def latest {A : Type} (time : A → Instant) : List A → Option A
  | [] => none
  | a :: rest => match latest time rest with
    | some b => if time a < time b then some b else some a
    | none => some a

def effectivePolicy (merchantId : Identifier) (evaluatedAt : Instant) : Transaction MerchantPolicySnapshot := do
  let row ← Tx.read fun db => latest (·.effectiveAt) (db.policies.filter fun r =>
    decide (r.merchantId = merchantId ∧ r.effectiveAt ≤ evaluatedAt))
  let row ← Tx.found row (.missingPolicy "no policy is effective for merchant")
  let policy := policyFromDocument row.snapshot
  Tx.check (policy.contentDigest = row.contentSha256)
    (.recoveryPersistence "POLICY_DIGEST_MISMATCH" "stored policy content does not match its digest")
  pure policy

def lockMerchant (merchantId : Identifier) : Transaction Unit := do
  let known ← Tx.read fun db => decide (merchantId ∈ db.merchants)
  Tx.check (known = true) (.lookup "merchant does not exist")

def findActiveCase (merchantId : Identifier) (identity : CaseIdentity) (db : Database) : Option CaseRow :=
  db.cases.find? fun r => decide (r.case.merchantId = merchantId ∧ r.case.workflowType = identity.workflowType
    ∧ r.case.subjectType = identity.subjectType ∧ r.case.subjectId = identity.subjectId ∧ ¬ r.case.state.Terminal)

def findEpisodeCase (merchantId : Identifier) (identity : CaseIdentity) (db : Database) : Option CaseRow :=
  match identity.episodeKey with
  | none => none
  | some episode => db.cases.find? fun r => decide (r.case.merchantId = merchantId
      ∧ r.case.workflowType = identity.workflowType ∧ r.case.subjectType = identity.subjectType
      ∧ r.recoveryEpisodeKey = some episode)

def createCase (row : CaseRow) : Transaction Unit := do
  let present ← Tx.read fun db => (db.caseRow row.key).isSome
  Tx.check (present = false) (.integrity "recovery_cases_pkey")
  let customers ← Tx.read (·.customers)
  Tx.check (∀ id ∈ row.case.customerId, ∃ c ∈ customers, c.merchantId = row.case.merchantId ∧ c.customerId = id)
    (.integrity "recovery_cases_customer_fkey")
  let cases ← Tx.read (·.cases)
  Tx.check (∀ r ∈ cases, ¬ (r.case.merchantId = row.case.merchantId ∧ r.case.workflowType = row.case.workflowType
      ∧ r.case.subjectType = row.case.subjectType ∧ r.case.subjectId = row.case.subjectId ∧ ¬ r.case.state.Terminal))
    (.integrity "uq_recovery_cases_active_subject")
  Tx.check (∀ r ∈ cases, row.recoveryEpisodeKey.isSome = true → r.recoveryEpisodeKey ≠ row.recoveryEpisodeKey)
    (.integrity "uq_recovery_cases_episode")
  Tx.write fun db => { db with cases := db.cases ++ [row] }

/-- Insert unless the event is linked already; the stored link wins. -/
def linkEvidence (link : CaseEventRow) : Transaction EvidenceLinkResult := do
  let existing ← Tx.read fun db => Table.lookup CaseEventRow.id link.id db.caseEvents
  match existing with
  | some row => pure ⟨row, false⟩
  | none => do
    Tx.write fun db => { db with caseEvents := db.caseEvents ++ [link] }
    pure ⟨link, true⟩

/-- The columns a transition writes; the rest of the row stays. -/
def CaseRow.apply (row : CaseRow) (updated : RecoveryCase) (latestEvent : Option NormalizedEvent) : CaseRow :=
  { row with
    case := { row.case with
      state := updated.state
      stateVersion := updated.stateVersion
      updatedAt := updated.updatedAt
      nextEvaluationAt := updated.nextEvaluationAt
      terminalReason := updated.terminalReason
      diagnosis := updated.diagnosis
      diagnosisConfidenceBasisPoints := updated.diagnosisConfidenceBasisPoints
      retryCount := updated.retryCount
      contactCount := updated.contactCount
      activeIncidentId := updated.activeIncidentId }
    latestEvidenceEventId := match latestEvent with
      | some event => some event.eventId
      | none => row.latestEvidenceEventId
    latestEvidenceOccurredAt := match latestEvent with
      | some event => some event.occurredAt
      | none => row.latestEvidenceOccurredAt }

def applyTransition (updated : RecoveryCase) (transition : CaseTransition) (latestEvent : Option NormalizedEvent) :
    Transaction Unit := do
  let key : CaseKey := ⟨transition.merchantId, transition.caseId⟩
  let row ← Tx.read fun db => db.caseRow key
  Tx.check (∃ r ∈ row, r.case.state = transition.beforeState ∧ r.case.stateVersion = transition.beforeVersion)
    (.recoveryPersistence "STALE_CASE_VERSION" "case state or version changed before the transition was persisted")
  Tx.write fun db => { db with
    cases := Table.update CaseRow.key key (fun r => r.apply updated latestEvent) db.cases
    transitions := db.transitions ++ [transition] }

def CaseRow.count (updated : RecoveryCase) (row : CaseRow) : CaseRow :=
  { row with
    case := { row.case with
      retryCount := updated.retryCount
      contactCount := updated.contactCount
      updatedAt := updated.updatedAt } }

def RecoveryCase.counted (case : RecoveryCase) (retryIncrement contactIncrement : Nat) (occurredAt : Instant) :
    RecoveryCase :=
  { case with
    retryCount := case.retryCount + retryIncrement
    contactCount := case.contactCount + contactIncrement
    updatedAt := occurredAt }

def recordExecutionAttemptCounters (case : RecoveryCase) (retryIncrement contactIncrement : Nat)
    (occurredAt : Instant) : Transaction RecoveryCase := do
  Tx.check (retryIncrement ≤ 1 ∧ contactIncrement ≤ 1) (.value "attempt counter increments must be zero or one")
  Tx.check (retryIncrement + contactIncrement ≤ 1)
    (.value "one attempt cannot be both a retry and customer contact")
  if retryIncrement = 0 ∧ contactIncrement = 0 then pure case
  else do
    Tx.check (case.createdAt ≤ occurredAt) (.value "updated_at cannot precede created_at")
    let updated := case.counted retryIncrement contactIncrement occurredAt
    let row ← Tx.read fun db => db.caseRow case.key
    Tx.check (∃ r ∈ row, r.case.state = case.state ∧ r.case.stateVersion = case.stateVersion)
      (.recoveryPersistence "STALE_CASE_VERSION" "case changed before execution attempt counters were persisted")
    Tx.write fun db => { db with cases := Table.update CaseRow.key case.key (CaseRow.count updated) db.cases }
    pure updated

def storeReview (review : HumanReviewRequest) : Transaction Unit := do
  let present ← Tx.read fun db => (db.review review.merchantId review.reviewId).isSome
  Tx.check (present = false) (.integrity "human_reviews_pkey")
  Tx.write fun db => { db with reviews := db.reviews ++ [review] }

def HumanReviewRequest.decide (decided : HumanReviewRequest) (row : HumanReviewRequest) : HumanReviewRequest :=
  { row with
    status := decided.status
    reviewerId := decided.reviewerId
    rationale := decided.rationale
    decidedAt := decided.decidedAt }

def updateReviewDecision (merchantId : Identifier) (review : HumanReviewRequest) : Transaction Unit := do
  Tx.check (review.status ≠ .requested) (.value "review decision must be terminal")
  let stored ← Tx.read fun db => db.review merchantId review.reviewId
  Tx.check (∃ r ∈ stored, r.status = .requested)
    (.recoveryPersistence "REVIEW_ALREADY_DECIDED" "review is missing or no longer requested")
  Tx.write fun db => { db with
    reviews := Table.update HumanReviewRequest.id (merchantId, review.reviewId) (HumanReviewRequest.decide review) db.reviews }

def storeReceipt (receipt : ReceiptRow) : Transaction Unit := do
  let present ← Tx.read fun db => (db.receipt receipt.merchantId receipt.receiptId).isSome
  Tx.check (present = false) (.integrity "decision_receipts_pkey")
  Tx.write fun db => { db with receipts := db.receipts ++ [receipt] }

def dueDeferredCases (dueAt : Instant) (limit : Nat) (db : Database) : List CaseRow :=
  let wake (r : CaseRow) : Instant := r.case.nextEvaluationAt.getD 0
  let due := db.cases.filter fun r => decide (r.case.state = .deferred ∧ ∃ t ∈ r.case.nextEvaluationAt, t ≤ dueAt)
  (due.insertionSort fun a b => wake a < wake b ∨ (wake a = wake b ∧ (a.case.merchantId.val < b.case.merchantId.val
    ∨ (a.case.merchantId = b.case.merchantId ∧ a.case.caseId.val ≤ b.case.caseId.val)))).take limit

def consentFacts (merchantId : Identifier) (customerId : Option Identifier) (db : Database) :
    List (ContactChannel × ConsentState) × List ContactChannel :=
  match customerId with
  | none => ([], [])
  | some customer =>
    let rows := db.consents.filter fun r => decide (r.merchantId = merchantId ∧ r.customerId = customer)
    (((rows.insertionSort fun a b => a.channel.value ≤ b.channel.value).map fun r => (r.channel, r.state)),
      (rows.filter (·.optedOut)).map (·.channel))

def incidentMatchesDiagnosis (incident : IncidentConstraint) (diagnosisCode : Option Identifier) : Bool :=
  match diagnosisCode with
  | none => false
  | some code => match incident.scope with
    | .issuer => upper code.val == "ISSUER_TEMPORARILY_UNAVAILABLE"
    | .gateway => upper code.val == "GATEWAY_TEMPORARILY_UNAVAILABLE"
    | .paymentRail => upper code.val == "ISSUER_TEMPORARILY_UNAVAILABLE"
        || upper code.val == "GATEWAY_TEMPORARILY_UNAVAILABLE" || upper code.val == "UNKNOWN_PAYMENT_FAILURE"
    | _ => false

def incidentsAt (merchantId : Identifier) (evaluatedAt : Instant) (db : Database) : List IncidentConstraint :=
  ((db.incidents.filter fun r => decide (r.merchantId = merchantId ∧ r.status = .active
    ∧ r.incident.startsAt ≤ evaluatedAt ∧ evaluatedAt < r.incident.endsAt)).map (·.incident)).insertionSort
      fun a b => a.incidentId.val ≤ b.incidentId.val

def linkedToCase (key : CaseKey) (db : Database) (i : IncidentConstraint) : Bool :=
  db.incidentLinks.any fun l => l.merchantId == key.merchantId && l.incidentId == i.incidentId && l.caseId == key.caseId

def broadScope (i : IncidentConstraint) : Bool := i.scope == .allAutomation || i.scope == .contactChannel

def CaseRow.attach (first : IncidentConstraint) (row : CaseRow) : CaseRow :=
  { row with case := { row.case with activeIncidentId := row.case.activeIncidentId.or (some first.incidentId) } }

/-- The update that follows a change of the active incident: the column's `onupdate` takes the database's time. A time
before the case's creation would end the case, which no read accepts any more. -/
def CaseRow.flushed (rt : Runtime) (at_ : Instant) (before : Option Identifier) (row : CaseRow) : CaseRow :=
  if row.case.activeIncidentId = before then row
  else { row with case := { row.case with updatedAt := rt.currentTimestamp row.key row.case.updatedAt at_ } }

/-- Incidents that bear on a case. A systemic one newly matched by the diagnosis
is attached to the case, which keeps the first of them as its active incident.
The transition or the counters that its callers write next set the row's time;
where nothing follows, `stampAttached` does. -/
def activeIncidents (key : CaseKey) (evaluatedAt : Instant) (diagnosisCode : Option Identifier) :
    Transaction (List IncidentConstraint) := do
  let rows ← Tx.read (incidentsAt key.merchantId evaluatedAt)
  let linked ← Tx.read fun db => linkedToCase key db
  let newlyMatched := rows.filter fun i => !broadScope i && !linked i && incidentMatchesDiagnosis i diagnosisCode
  Tx.write fun db => { db with
    incidentLinks := db.incidentLinks ++ newlyMatched.map fun i => ⟨key.merchantId, i.incidentId, key.caseId, evaluatedAt, none⟩
    cases := match newlyMatched.head? with
      | none => db.cases
      | some first => Table.update CaseRow.key key (CaseRow.attach first) db.cases }
  pure (rows.filter fun i => broadScope i || linked i || incidentMatchesDiagnosis i diagnosisCode)

/-- The time that attaching an incident left on a row which nothing has written since. -/
def stampAttached (rt : Runtime) (case : RecoveryCase) (at_ : Instant) : Transaction Unit :=
  Tx.write fun db => { db with
    cases := Table.update CaseRow.key case.key (CaseRow.flushed rt at_ case.activeIncidentId) db.cases }

def paymentFacts (merchantId paymentId : Identifier) (db : Database) : AuthoritativeFacts :=
  match db.payments.find? fun r => decide (r.merchantId = merchantId ∧ r.paymentId = paymentId) with
  | none => ⟨none, none, none⟩
  | some row => ⟨row.providerUpdatedAt.or (some row.providerOccurredAt), some row.status, none⟩

def subscriptionFacts (merchantId subscriptionId : Identifier) (db : Database) : AuthoritativeFacts :=
  match db.subscriptions.find? fun r => decide (r.merchantId = merchantId ∧ r.subscriptionId = subscriptionId) with
  | none => ⟨none, none, none⟩
  | some row => ⟨row.providerUpdatedAt.or (some row.providerOccurredAt), some row.status, none⟩

def invoiceFacts (merchantId invoiceId : Identifier) (db : Database) : AuthoritativeFacts :=
  match db.invoices.find? fun r => decide (r.merchantId = merchantId ∧ r.invoiceId = invoiceId) with
  | none => ⟨none, none, none⟩
  | some row => ⟨some row.providerUpdatedAt, some row.status.value, (latest (·.promisedFor) (db.promises.filter fun p =>
      decide (p.merchantId = merchantId ∧ p.invoiceId = invoiceId ∧ p.status = .active))).map (·.promisedFor)⟩

def authoritativeFacts (event : NormalizedEvent) (db : Database) : AuthoritativeFacts :=
  match event.subscriptionId, event.paymentId, event.invoiceId with
  | some subscription, _, _ => subscriptionFacts event.merchantId subscription db
  | none, some payment, _ => paymentFacts event.merchantId payment db
  | none, none, some invoice => invoiceFacts event.merchantId invoice db
  | none, none, none => ⟨none, none, none⟩

def authoritativeFactsForCase (case : RecoveryCase) (db : Database) : AuthoritativeFacts :=
  match case.subjectType with
  | .subscription => subscriptionFacts case.merchantId case.subjectId db
  | .payment => paymentFacts case.merchantId case.subjectId db
  | .invoice => invoiceFacts case.merchantId case.subjectId db
  | .portfolioIncident => ⟨none, none, none⟩

end RevenueGuard
