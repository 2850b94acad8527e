import RevenueGuard.Store.Recovery

/-
Action repository: the outbox of recovery actions, their leases and attempts,
and the verified outcomes that count recovered money.
-/
namespace RevenueGuard

structure ClaimedAction where
  actionId : ActionIdentity
  leaseToken : String
deriving DecidableEq, Repr

structure RecoveryTotals where
  merchantId : Identifier
  currency : Currency
  recoveredAmountMinor : Nat
  verifiedActionCount : Nat
deriving DecidableEq, Repr

def Database.action (db : Database) (id : ActionIdentity) : Option ActionRow := Table.lookup ActionRow.id id db.actions

def Database.outcome (db : Database) (merchantId : Identifier) (outcomeId : OutcomeId) : Option VerifiedOutcome :=
  Table.lookup VerifiedOutcome.id (merchantId, outcomeId) db.outcomes

def updateAction (id : ActionIdentity) (f : ActionRow → ActionRow) (db : Database) : Database :=
  { db with actions := Table.update ActionRow.id id f db.actions }

def ActionRow.ofAction (action : RecoveryAction) (policyVersion : Identifier) (maxAttempts : Nat)
    (reconciliationDeadline : Instant) : ActionRow :=
  { action := action
    policyVersion := policyVersion
    nextAttemptAt := action.executeAfter
    maxAttempts := maxAttempts
    reconciliationDeadline := some reconciliationDeadline
    updatedAt := action.createdAt }

/-- Insert unless the logical action is in the outbox already; the stored row wins. `uq_recovery_actions_active_equivalent`
leaves the logical attempt out of the identity, but every action is the first attempt: it refuses what is there already. -/
def storeAction (action : RecoveryAction) (policyVersion : Identifier) (maxAttempts : Nat)
    (reconciliationDeadline : Instant) : Transaction ActionRow := do
  Tx.check (1 ≤ maxAttempts) (.value "max_attempts must be positive")
  Tx.check (action.authorizedAt < reconciliationDeadline)
    (.value "reconciliation deadline must follow authorization")
  let existing ← Tx.read fun db => db.action action.idempotencyKey
  match existing with
  | some row => pure row
  | none => do
    let row := ActionRow.ofAction action policyVersion maxAttempts reconciliationDeadline
    Tx.write fun db => { db with actions := db.actions ++ [row] }
    pure row

def hasUnknownEquivalent (key : CaseKey) (actionType : ActionType) (targetId : Identifier) (db : Database) : Bool :=
  db.actions.any fun r => r.key == key && r.actionType == actionType && r.id.targetId == targetId && r.status == .unknown

def ActionRow.Due (now : Instant) (r : ActionRow) : Prop :=
  r.status = .pending ∧ r.deadLetteredAt = none ∧ r.action.executeAfter ≤ now ∧ r.nextAttemptAt ≤ now
    ∧ r.attemptCount < r.maxAttempts ∧ (r.leaseToken = none ∨ ∃ t ∈ r.leaseExpiresAt, t ≤ now)
    ∧ r.openAttempts = []

instance (now : Instant) (r : ActionRow) : Decidable (r.Due now) := by
  unfold ActionRow.Due
  infer_instance

def dueBefore (rt : Runtime) (time : ActionRow → Instant) (a b : ActionRow) : Prop :=
  time a < time b ∨ (time a = time b ∧ (a.merchantId.val < b.merchantId.val
    ∨ (a.merchantId = b.merchantId ∧ rt.digestOrder a.id ≤ rt.digestOrder b.id)))

instance (rt : Runtime) (time : ActionRow → Instant) : DecidableRel (dueBefore rt time) := fun _ _ => by
  unfold dueBefore
  infer_instance

def ActionRow.lease (token : String) (now : Instant) (leaseFor : Int) (r : ActionRow) : ActionRow :=
  { r with leaseToken := some token, leaseExpiresAt := some (now + leaseFor), updatedAt := now }

/-- `tokens` are the fresh lease tokens of this call. -/
def claimDueActions (rt : Runtime) (tokens : ActionIdentity → String) (now : Instant) (leaseFor : Int) (limit : Nat) :
    Transaction (List ClaimedAction) := do
  Tx.check (0 < leaseFor ∧ 0 < limit) (.value "lease_for and limit must be positive")
  let rows ← Tx.read fun db =>
    ((db.actions.filter fun r => decide (r.Due now)).insertionSort (dueBefore rt (·.nextAttemptAt))).take limit
  Tx.each (fun row => do
    Tx.write (updateAction row.id (ActionRow.lease (tokens row.id) now leaseFor))
    pure (⟨row.id, tokens row.id⟩ : ClaimedAction)) rows

def ActionRow.begin (leaseToken : String) (startedAt : Instant) (r : ActionRow) : ActionRow :=
  { r with
    attemptCount := r.attemptCount + 1
    attempts := r.attempts ++ [{ attemptNumber := r.attemptCount + 1, leaseToken := leaseToken, startedAt := startedAt }]
    updatedAt := startedAt }

def beginAttempt (actionId : ActionIdentity) (leaseToken : String) (startedAt : Instant) : Transaction ActionRow := do
  let action ← Tx.read fun db => db.action actionId
  let action ← Tx.found action (.lookup "tenant-scoped recovery action does not exist")
  Tx.check (action.status = .pending) (.actionPersistence "ACTION_NOT_PENDING" "action cannot begin execution")
  Tx.check (action.leaseToken = some leaseToken ∧ action.leaseExpiresAt.isSome = true)
    (.actionPersistence "STALE_ACTION_LEASE" "action lease is no longer owned")
  Tx.check (∀ t ∈ action.leaseExpiresAt, startedAt < t)
    (.actionPersistence "EXPIRED_ACTION_LEASE" "action lease expired")
  Tx.check (action.openAttempts.length ≤ 1) .multipleResults
  Tx.check (action.openAttempts = [])
    (.actionPersistence "ACTION_ATTEMPT_IN_FLIGHT" "an incomplete call must reconcile before retry")
  Tx.check (action.attemptCount < action.maxAttempts) (.integrity "ck_recovery_actions_attempt_bounds")
  Tx.write (updateAction actionId (ActionRow.begin leaseToken startedAt))
  pure (action.begin leaseToken startedAt)

/-- The columns of an attempt that its completion writes. -/
structure AttemptCompletion where
  completedAt : Instant
  outcomeStatus : ActionStatus
  responseCategory : String
  providerObjectId : Option String
  providerStatusCode : Option Nat
  errorCode : Option String
  responseReference : Option String
  retryable : Bool

def ActionAttempt.complete (c : AttemptCompletion) (a : ActionAttempt) : ActionAttempt :=
  { a with
    completedAt := some c.completedAt
    outcomeStatus := some c.outcomeStatus
    responseCategory := some c.responseCategory
    providerObjectId := c.providerObjectId
    providerStatusCode := c.providerStatusCode
    errorCode := c.errorCode
    responseReference := c.responseReference
    retryable := c.retryable }

/-- `provider_object_id or action.provider_object_id`. -/
def orKeep (value kept : Option String) : Option String := match value with
  | some s => if s = "" then kept else some s
  | none => kept

def ActionRow.released (r : ActionRow) : ActionRow := { r with leaseToken := none, leaseExpiresAt := none }

def ActionRow.finish (leaseToken : String) (c : AttemptCompletion) (retryAt reconciliationDeadline : Instant)
    (r : ActionRow) : ActionRow :=
  let done : ActionRow := { r.released with
    attempts := r.attempts.map fun a => if a.isOpen ∧ a.leaseToken = leaseToken then a.complete c else a
    providerObjectId := orKeep c.providerObjectId r.providerObjectId
    lastErrorCode := c.errorCode
    updatedAt := c.completedAt }
  if c.outcomeStatus = .failed ∧ c.retryable = true ∧ r.attemptCount < r.maxAttempts then
    { done with nextAttemptAt := retryAt }
  else { done.setStatus c.outcomeStatus with
    unknownSince := if c.outcomeStatus = .unknown then some c.completedAt else none
    reconciliationDeadline := if c.outcomeStatus = .unknown then some reconciliationDeadline
      else r.reconciliationDeadline
    deadLetteredAt := if c.outcomeStatus = .failed then some c.completedAt else r.deadLetteredAt }

/-- A text column of a width. -/
def FitsIn (width : Nat) (text : Option String) : Prop := ∀ s ∈ text, s.length ≤ width

instance (width : Nat) (text : Option String) : Decidable (FitsIn width text) := inferInstanceAs (Decidable (∀ s ∈ text, _))

/-- What the columns of `action_attempts` hold. -/
structure AttemptCompletion.Fits (c : AttemptCompletion) : Prop where
  responseCategory : c.responseCategory.length ≤ 64
  providerObjectId : FitsIn 128 c.providerObjectId
  providerStatusCode : ∀ code ∈ c.providerStatusCode, code ≤ 2147483647
  errorCode : FitsIn 128 c.errorCode
  responseReference : FitsIn 512 c.responseReference

instance (c : AttemptCompletion) : Decidable c.Fits :=
  decidable_of_iff (c.responseCategory.length ≤ 64 ∧ FitsIn 128 c.providerObjectId ∧
      (∀ code ∈ c.providerStatusCode, code ≤ 2147483647) ∧ FitsIn 128 c.errorCode ∧ FitsIn 512 c.responseReference)
    ⟨fun ⟨a, b, c, d, e⟩ => ⟨a, b, c, d, e⟩, fun ⟨a, b, c, d, e⟩ => ⟨a, b, c, d, e⟩⟩

def finishAttempt (actionId : ActionIdentity) (leaseToken : String) (c : AttemptCompletion)
    (retryAt reconciliationDeadline : Instant) : Transaction ActionRow := do
  let action ← Tx.read fun db => db.action actionId
  let action ← Tx.found action (.lookup "tenant-scoped recovery action does not exist")
  let mine := action.openAttempts.filter fun a => decide (a.leaseToken = leaseToken)
  Tx.check (mine.length ≤ 1) .multipleResults
  Tx.check (mine ≠ []) (.actionPersistence "ACTION_ATTEMPT_NOT_OPEN" "attempt is already complete")
  Tx.check c.Fits (.data "action_attempts")
  Tx.check (∀ a ∈ mine, a.startedAt ≤ c.completedAt) (.integrity "ck_action_attempts_completion")
  let finished := action.finish leaseToken c retryAt reconciliationDeadline
  Tx.check (finished.action.authorizedAt ≤ finished.nextAttemptAt) (.integrity "ck_recovery_actions_schedule")
  Tx.write (updateAction actionId (ActionRow.finish leaseToken c retryAt reconciliationDeadline))
  pure finished

/-- Pending actions whose lease ran out during a provider call, oldest call first. -/
def staleInflightActions (now : Instant) (limit : Nat) (db : Database) : List ActionRow :=
  let started (r : ActionRow) : Instant := (r.openAttempts.head?.map (·.startedAt)).getD 0
  ((db.actions.filter fun r => decide (r.status = .pending ∧ (∃ t ∈ r.leaseExpiresAt, t ≤ now)
    ∧ r.openAttempts ≠ [])).insertionSort fun a b => started a ≤ started b).take limit

def ActionRow.lost (now reconciliationDeadline : Instant) (r : ActionRow) : ActionRow :=
  { r.released.setStatus .unknown with
    attempts := r.attempts.map fun a => if a.isOpen then
      { a with
        completedAt := some now
        outcomeStatus := some .unknown
        responseCategory := some "WORKER_LOST_DURING_PROVIDER_CALL"
        errorCode := some "INCOMPLETE_PROVIDER_CALL" } else a
    unknownSince := some now
    reconciliationDeadline := some reconciliationDeadline
    lastErrorCode := some "INCOMPLETE_PROVIDER_CALL"
    updatedAt := now }

def markStaleInflightUnknown (action : ActionRow) (now reconciliationDeadline : Instant) : Transaction Unit := do
  let stored ← Tx.read fun db => db.action action.id
  let stored ← Tx.found stored .noResult
  Tx.check (stored.openAttempts.length ≤ 1) .multipleResults
  Tx.check (stored.openAttempts ≠ []) .noResult
  Tx.check (∀ a ∈ stored.openAttempts, a.startedAt ≤ now) (.integrity "ck_action_attempts_completion")
  Tx.write (updateAction action.id (ActionRow.lost now reconciliationDeadline))

def ActionRow.verificationExpired (observedAt : Instant) (r : ActionRow) : ActionRow :=
  { r.released.setStatus .unknown with
    unknownSince := some observedAt
    lastErrorCode := some "VERIFICATION_DEADLINE_EXCEEDED"
    updatedAt := observedAt }

def markVerificationExpiredUnknown (action : ActionRow) (observedAt : Instant) : Transaction ActionRow := do
  Tx.check (action.status = .succeeded) (.actionPersistence "ACTION_NOT_VERIFYING"
    "only an accepted action awaiting verification can expire to unknown")
  Tx.write (updateAction action.id (ActionRow.verificationExpired observedAt))
  pure (action.verificationExpired observedAt)

def creditsMoney (o : VerifiedOutcome) : Bool := o.isAuthoritative && o.outcomeStatus == .succeeded

/-- What the columns of `verified_outcomes` hold. -/
def VerifiedOutcome.Fits (o : VerifiedOutcome) : Prop := FitsIn 512 o.evidenceReference ∧ FitsIn 128 o.reasonCode

instance (o : VerifiedOutcome) : Decidable o.Fits := inferInstanceAs (Decidable (_ ∧ _))

/-- Insert unless an outcome of this id is stored already; the stored one wins. -/
def storeOutcome (outcome : VerifiedOutcome) : Transaction Unit := do
  let existing ← Tx.read fun db => db.outcome outcome.merchantId outcome.outcomeId
  match existing with
  | some _ => pure ()
  | none => do
    Tx.check outcome.Fits (.data "verified_outcomes")
    let outcomes ← Tx.read (·.outcomes)
    Tx.check (creditsMoney outcome = true → ∀ o ∈ outcomes,
        ¬ (o.merchantId = outcome.merchantId ∧ o.actionId = outcome.actionId ∧ creditsMoney o = true))
      (.integrity "uq_verified_outcomes_authoritative_success")
    Tx.write fun db => { db with outcomes := db.outcomes ++ [outcome] }

def resolvable (r : ActionRow) : Prop := r.status = .succeeded ∨ r.status = .unknown

instance (r : ActionRow) : Decidable (resolvable r) := inferInstanceAs (Decidable (_ ∨ _))

def findActionForProviderObject (merchantId : Identifier) (providerObjectId : String) (actionTypes : List ActionType) :
    Transaction (Option ActionRow) := do
  let rows ← Tx.read fun db => db.actions.filter fun r => decide (r.merchantId = merchantId
    ∧ r.providerObjectId = some providerObjectId ∧ r.actionType ∈ actionTypes ∧ resolvable r)
  Tx.check (rows.length ≤ 1) .multipleResults
  pure rows.head?

def authorizedAfter (rt : Runtime) (a b : ActionRow) : Prop :=
  b.action.authorizedAt < a.action.authorizedAt ∨ (a.action.authorizedAt = b.action.authorizedAt
    ∧ rt.digestOrder b.id ≤ rt.digestOrder a.id)

instance (rt : Runtime) : DecidableRel (authorizedAfter rt) := fun _ _ => inferInstanceAs (Decidable (_ ∨ _))

def findLatestActionForTarget (rt : Runtime) (merchantId targetId : Identifier) (actionTypes : List ActionType)
    (db : Database) : Option ActionRow :=
  ((db.actions.filter fun r => decide (r.merchantId = merchantId ∧ r.id.targetId = targetId
    ∧ r.actionType ∈ actionTypes ∧ resolvable r)).insertionSort (authorizedAfter rt)).head?

def actionsForReconciliation (rt : Runtime) (now : Instant) (limit : Nat) (db : Database) : List ActionRow :=
  ((db.actions.filter fun r => decide (resolvable r ∧ r.deadLetteredAt = none
    ∧ (∃ c ∈ db.caseOf r.key, c.state = .unknown ∨ c.state = .verifying)
    ∧ ∀ t ∈ r.unknownSince, t ≤ now)).insertionSort (dueBefore rt (·.updatedAt))).take limit

def ActionRow.cancel (cancelledAt : Instant) (reasonCode : String) (r : ActionRow) : ActionRow :=
  { r.released.setStatus .failed with
    lastErrorCode := some reasonCode
    deadLetteredAt := some cancelledAt
    updatedAt := cancelledAt }

def cancelBeforeExecution (action : ActionRow) (cancelledAt : Instant) (reasonCode : String) : Transaction Unit := do
  Tx.check (action.status = .pending) (.actionPersistence "ACTION_NOT_PENDING"
    "only a pending action can be cancelled before a provider attempt")
  Tx.write (updateAction action.id (ActionRow.cancel cancelledAt reasonCode))

def ActionRow.resolve (status : ActionStatus) (resolvedAt : Instant) (providerObjectId errorCode : Option String)
    (r : ActionRow) : ActionRow :=
  { r.released.setStatus status with
    providerObjectId := orKeep providerObjectId r.providerObjectId
    lastErrorCode := errorCode
    unknownSince := none
    updatedAt := resolvedAt
    deadLetteredAt := if status = .failed then some resolvedAt else r.deadLetteredAt }

def setActionResolution (action : ActionRow) (status : ActionStatus) (resolvedAt : Instant)
    (providerObjectId : Option String) (errorCode : Option String := none) : Transaction ActionRow := do
  Tx.check (FitsIn 128 providerObjectId ∧ FitsIn 128 errorCode) (.data "recovery_actions")
  Tx.write (updateAction action.id (ActionRow.resolve status resolvedAt providerObjectId errorCode))
  pure (action.resolve status resolvedAt providerObjectId errorCode)

def Database.credits (db : Database) (merchantId : Identifier) : List VerifiedOutcome :=
  db.outcomes.filter fun o => decide (o.merchantId = merchantId) && creditsMoney o && decide (0 < o.recoveredAmountMinor)

def recoveredTotals (merchantId : Identifier) (db : Database) : List RecoveryTotals :=
  let credits := db.credits merchantId
  let currencies := (unique (credits.map (·.currency))).insertionSort fun a b => a.val ≤ b.val
  currencies.map fun c =>
    let mine := credits.filter fun o => decide (o.currency = c)
    ⟨merchantId, c, (mine.map (·.recoveredAmountMinor)).sum, mine.length⟩

end RevenueGuard
