import RevenueGuard.Domain.Cases
import RevenueGuard.Kit.Transaction
import RevenueGuard.Kit.Table
import RevenueGuard.Kit.Runs
import Mathlib.Algebra.Group.Nat.Defs
import Mathlib.Data.List.Sort

/-
The webhook inbox and its durable dispatches. The publisher claims due rows and
hands them to the broker; the consumer's success and every failure come back in
transactions of their own, in any order, with or without the lease they began with.
-/
namespace RevenueGuard

inductive DispatchState where
  | pending | processing | published | retryScheduled | succeeded | deadLetter
deriving DecidableEq, Repr

inductive ProcessingState where
  | pending | processed | retryScheduled | deadLetter
deriving DecidableEq, Repr

/-- A verified and accepted webhook. -/
structure WebhookRow where
  id : Identifier
  merchantId : Identifier
  provider : String
  providerEventId : String
  receivedAt : Instant
  processingState : ProcessingState := .pending
  processedAt : Option Instant := none
  lastErrorCode : Option String := none
  lastErrorDetail : Option String := none
deriving DecidableEq, Repr

structure DispatchRow where
  id : Identifier
  merchantId : Identifier
  webhookEventId : Identifier
  state : DispatchState := .pending
  attemptCount : Nat := 0
  maxAttempts : Nat
  replayCount : Nat := 0
  availableAt : Instant
  leaseToken : Option String := none
  leaseExpiresAt : Option Instant := none
  brokerTaskId : Option String := none
  lastErrorCode : Option String := none
  lastErrorDetail : Option String := none
  createdAt : Instant
  publishedAt : Option Instant := none
  completedAt : Option Instant := none
  deadLetteredAt : Option Instant := none
  lastReplayedAt : Option Instant := none
  lastReplayedBy : Option String := none
deriving DecidableEq, Repr

structure Inbox where
  webhooks : List WebhookRow := []
  dispatches : List DispatchRow := []
deriving DecidableEq, Repr

abbrev InboxTransaction (A : Type) : Type := Tx Inbox Failure A

/-- A verified delivery, with the ids drawn for its row and its dispatch. -/
structure WebhookDelivery where
  eventId : Identifier
  dispatchId : Identifier
  merchantId : Identifier
  provider : String
  providerEventId : String
  receivedAt : Instant
  createdAt : Instant
  maxDispatchAttempts : Nat := 5

def WebhookDelivery.webhook (w : WebhookDelivery) : WebhookRow :=
  { id := w.eventId, merchantId := w.merchantId, provider := w.provider, providerEventId := w.providerEventId
    receivedAt := w.receivedAt }

def WebhookDelivery.dispatch (w : WebhookDelivery) : DispatchRow :=
  { id := w.dispatchId, merchantId := w.merchantId, webhookEventId := w.eventId, maxAttempts := w.maxDispatchAttempts
    availableAt := w.receivedAt, createdAt := w.createdAt }

/-- A duplicate delivery creates nothing. -/
def recordWebhook (w : WebhookDelivery) : InboxTransaction Bool := do
  let known ← Tx.read fun s : Inbox => s.webhooks.any fun r =>
    decide (r.provider = w.provider ∧ r.merchantId = w.merchantId ∧ r.providerEventId = w.providerEventId)
  if known then pure false
  else do
    let fresh ← Tx.read fun s : Inbox => decide (Table.lookup WebhookRow.id w.eventId s.webhooks = none
      ∧ Table.lookup DispatchRow.id w.dispatchId s.dispatches = none)
    Tx.check (fresh = true) (.integrity "event_dispatches_pkey")
    Tx.check (0 < w.maxDispatchAttempts) (.integrity "ck_event_dispatches_max_attempts_positive")
    Tx.write fun s => { webhooks := s.webhooks ++ [w.webhook], dispatches := s.dispatches ++ [w.dispatch] }
    pure true

/-- Due or with an expired lease, and below the attempt limit. -/
def DispatchRow.Claimable (now : Instant) (d : DispatchRow) : Prop :=
  (((d.state = .pending ∨ d.state = .retryScheduled) ∧ d.availableAt ≤ now) ∨
    ((d.state = .processing ∨ d.state = .published) ∧ ∃ t ∈ d.leaseExpiresAt, t ≤ now)) ∧ d.attemptCount < d.maxAttempts

instance decidableDue (now : Instant) (d : DispatchRow) : Decidable (d.Claimable now) := inferInstanceAs (Decidable (_ ∧ _))

def DispatchRow.claim (token : String) (now : Instant) (leaseFor : Int) (d : DispatchRow) : DispatchRow :=
  { d with
    state := .processing
    attemptCount := d.attemptCount + 1
    leaseToken := some token
    leaseExpiresAt := some (now + leaseFor) }

def claimedRows (now : Instant) (limit : Nat) (s : Inbox) : List DispatchRow :=
  ((s.dispatches.filter fun d : DispatchRow => decide (d.Claimable now)).insertionSort fun a b =>
    a.availableAt < b.availableAt ∨ (a.availableAt = b.availableAt ∧ a.createdAt ≤ b.createdAt)).take limit

/-- `tokens` are the fresh lease tokens of this call. -/
def claimDispatches (tokens : Identifier → String) (now : Instant) (leaseFor : Int) (limit : Nat) :
    InboxTransaction (List DispatchRow) := do
  let rows ← Tx.read (claimedRows now limit)
  Tx.write fun s => { s with
    dispatches := s.dispatches.map fun d => if d ∈ rows then d.claim (tokens d.id) now leaseFor else d }
  pure (rows.map fun d => d.claim (tokens d.id) now leaseFor)

def DispatchRow.publish (brokerTaskId : String) (publishedAt : Instant) (d : DispatchRow) : DispatchRow :=
  { d with state := .published, brokerTaskId := some brokerTaskId, publishedAt := some publishedAt }

def markDispatchPublished (dispatchId : Identifier) (leaseToken brokerTaskId : String) (publishedAt : Instant) :
    InboxTransaction Bool := do
  let row ← Tx.read fun s : Inbox => Table.lookup DispatchRow.id dispatchId s.dispatches
  match row with
  | none => pure false
  | some d =>
    if d.state = .processing ∧ d.leaseToken = some leaseToken then do
      Tx.write fun s => { s with
        dispatches := Table.update DispatchRow.id dispatchId (DispatchRow.publish brokerTaskId publishedAt) s.dispatches }
      pure true
    else pure false

def DispatchRow.complete (completedAt : Instant) (d : DispatchRow) : DispatchRow :=
  { d with state := .succeeded, completedAt := some completedAt, leaseToken := none, leaseExpiresAt := none }

def WebhookRow.processed (completedAt : Instant) (w : WebhookRow) : WebhookRow :=
  { w with processingState := .processed, processedAt := some completedAt }

/-- How a processing transaction ends; the state it looked at when it began may be an older one. -/
def markDispatchSucceeded (dispatchId : Identifier) (completedAt : Instant) : InboxTransaction Bool := do
  let row ← Tx.read fun s : Inbox => Table.lookup DispatchRow.id dispatchId s.dispatches
  match row with
  | none => pure false
  | some d =>
    if d.state = .deadLetter then pure false
    else do
      Tx.write fun s =>
        { webhooks := Table.update WebhookRow.id d.webhookEventId (WebhookRow.processed completedAt) s.webhooks
          dispatches := Table.update DispatchRow.id dispatchId (DispatchRow.complete completedAt) s.dispatches }
      pure true

/-- A failure as it is reported: when, with which retry time, and why. -/
structure DispatchFailure where
  now : Instant
  retryAt : Instant
  errorCode : String
  errorDetail : String

def DispatchRow.fail (f : DispatchFailure) (d : DispatchRow) : DispatchRow :=
  let failed := { d with
    lastErrorCode := some f.errorCode, lastErrorDetail := some f.errorDetail, leaseToken := none, leaseExpiresAt := none }
  if d.maxAttempts ≤ d.attemptCount then { failed with state := .deadLetter, deadLetteredAt := some f.now }
  else { failed with state := .retryScheduled, availableAt := f.retryAt }

def WebhookRow.fail (f : DispatchFailure) (dead : Bool) (w : WebhookRow) : WebhookRow :=
  { w with
    processingState := if dead then .deadLetter else .retryScheduled
    lastErrorCode := some f.errorCode
    lastErrorDetail := some f.errorDetail }

/-- The failure of `d`, a row of the store with its attempts as the report leaves them. -/
def failDispatch (f : DispatchFailure) (d : DispatchRow) (s : Inbox) : Inbox :=
  { webhooks := Table.update WebhookRow.id d.webhookEventId (WebhookRow.fail f (decide (d.maxAttempts ≤ d.attemptCount))) s.webhooks
    dispatches := Table.update DispatchRow.id d.id (fun _ => d.fail f) s.dispatches }

def recordDispatchFailure (dispatchId : Identifier) (f : DispatchFailure) : InboxTransaction DispatchState := do
  let row ← Tx.read fun s : Inbox => Table.lookup DispatchRow.id dispatchId s.dispatches
  let d ← Tx.found row (.lookup "Unknown dispatch")
  Tx.write (failDispatch f d)
  pure (d.fail f).state

def retryDelaySeconds (attemptCount : Nat) : Nat := min 300 (5 * 2 ^ (attemptCount - 1))

/-- A terminal failure has spent all attempts. -/
def DispatchRow.spend (terminal : Bool) (d : DispatchRow) : DispatchRow :=
  { d with attemptCount := if terminal then d.maxAttempts else d.attemptCount }

def processingFailure (now : Instant) (errorCode errorDetail : String) (d : DispatchRow) : DispatchFailure :=
  { now := now, retryAt := now + seconds (retryDelaySeconds d.attemptCount), errorCode := errorCode, errorDetail := errorDetail }

/-- `_record_processing_failure`. -/
def recordProcessingFailure (dispatchId : Identifier) (errorCode errorDetail : String) (terminal : Bool) (now : Instant) :
    InboxTransaction DispatchState := do
  let row ← Tx.read fun s : Inbox => Table.lookup DispatchRow.id dispatchId s.dispatches
  let d ← Tx.found row (.lookup "dispatch does not exist")
  Tx.write fun s => { s with dispatches := Table.update DispatchRow.id dispatchId (DispatchRow.spend terminal) s.dispatches }
  recordDispatchFailure dispatchId (processingFailure now errorCode errorDetail d)

def DispatchRow.requeue (replayedAt : Instant) (replayedBy : String) (d : DispatchRow) : DispatchRow :=
  { d with
    state := .pending, attemptCount := 0, replayCount := d.replayCount + 1, availableAt := replayedAt
    leaseToken := none, leaseExpiresAt := none, brokerTaskId := none
    lastReplayedAt := some replayedAt, lastReplayedBy := some replayedBy }

def requeueDeadLetter (dispatchId : Identifier) (replayedAt : Instant) (replayedBy : String) : InboxTransaction Bool := do
  let row ← Tx.read fun s : Inbox => Table.lookup DispatchRow.id dispatchId s.dispatches
  match row with
  | none => pure false
  | some d =>
    if d.state ≠ .deadLetter then pure false
    else do
      Tx.write fun s =>
        { webhooks := Table.update WebhookRow.id d.webhookEventId (fun w => { w with processingState := .pending }) s.webhooks
          dispatches := Table.update DispatchRow.id dispatchId (DispatchRow.requeue replayedAt replayedBy) s.dispatches }
      pure true

/-- A failure is reported by a worker that was handed the dispatch under some lease, `holder`; the report does not name it. -/
inductive InboxCommand where
  | recordWebhook (delivery : WebhookDelivery)
  | claimDispatches (tokens : Identifier → String) (now : Instant) (leaseFor : Int) (limit : Nat)
  | markDispatchPublished (dispatchId : Identifier) (leaseToken brokerTaskId : String) (publishedAt : Instant)
  | markDispatchSucceeded (dispatchId : Identifier) (completedAt : Instant)
  | recordDispatchFailure (holder : String) (dispatchId : Identifier) (failure : DispatchFailure)
  | recordProcessingFailure (holder : String) (dispatchId : Identifier) (errorCode errorDetail : String) (terminal : Bool)
      (now : Instant)
  | requeueDeadLetter (dispatchId : Identifier) (replayedAt : Instant) (replayedBy : String)

def InboxCommand.exec : InboxCommand → Inbox → Inbox
  | .recordWebhook delivery => (RevenueGuard.recordWebhook delivery).commit
  | .claimDispatches tokens now leaseFor limit => (RevenueGuard.claimDispatches tokens now leaseFor limit).commit
  | .markDispatchPublished id token task at_ => (RevenueGuard.markDispatchPublished id token task at_).commit
  | .markDispatchSucceeded id at_ => (RevenueGuard.markDispatchSucceeded id at_).commit
  | .recordDispatchFailure _ id failure => (RevenueGuard.recordDispatchFailure id failure).commit
  | .recordProcessingFailure _ id code detail terminal now =>
    (RevenueGuard.recordProcessingFailure id code detail terminal now).commit
  | .requeueDeadLetter id at_ by_ => (RevenueGuard.requeueDeadLetter id at_ by_).commit

def InboxCommand.execAll (commands : List InboxCommand) (s : Inbox) : Inbox :=
  commands.foldl (fun s c => InboxCommand.exec c s) s

/-- Inboxes that runs reach whose every command is allowed where it is taken. -/
def InboxReachable (allowed : InboxCommand → Inbox → Prop) (s : Inbox) : Prop :=
  Runs.Reaches InboxCommand.exec allowed {} s

end RevenueGuard
