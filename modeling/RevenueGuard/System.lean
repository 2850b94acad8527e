import RevenueGuard.Kit.Runs
import RevenueGuard.Store.Ingestion
import RevenueGuard.Store.Portfolio
import RevenueGuard.Services.Execution
import RevenueGuard.Services.Receivables

/-
The whole system: every transaction the workers and the API run, over one store
that starts empty. A command that fails leaves the store as it was; a worker task
that runs several services in one transaction commits only runs of their commands.
-/
namespace RevenueGuard

inductive Command where
  | registerMerchant (merchantId : Identifier)
  | upsertCustomer (row : CustomerRow)
  | upsertPayment (row : PaymentRow)
  | upsertSubscription (row : SubscriptionRow)
  | persistNormalizedEvent (event : NormalizedEvent)
  | putMerchantRow (row : MerchantRow)
  | publishPolicy (merchantId : Identifier) (policy : MerchantPolicySnapshot)
  | applyDegradationAssessment (assessment : DegradationAssessment) (policy : DegradationPolicy)
      (incidentId : Identifier)
  | processEvent (inputs : EvaluationInputs) (merchantId normalizedEventId newCaseId : Identifier)
      (evaluatedAt : Instant)
  | reevaluateDeferred (inputs : CaseKey → EvaluationInputs) (dueAt : Instant) (limit : Nat)
  | decideReview (inputs : EvaluationInputs) (merchantId : Identifier) (decision : HumanReviewDecision)
      (evaluatedAt : Instant)
  | closeExpiredCustomerInterventions (dueAt : Instant) (limit : Nat)
  | recordOverdueInvoice (merchantId : Identifier) (sourceEventId : String) (invoice : OverdueInvoice)
      (occurredAt receivedAt : Instant)
  | recordCustomerResponse (merchantId : Identifier) (sourceResponseId : String) (invoiceId : Identifier)
      (body : String) (reply : Option PromiseExtraction) (receivedAt : Instant)
  | scheduleDuePromiseReminders (dueAt : Instant) (limit : Nat)
  | escalateBrokenPromises (dueAt : Instant) (limit : Nat)
  | claimDueActions (tokens : ActionIdentity → String) (now : Instant) (leaseFor : Int) (limit : Nat)
  | prepareExecution (actionId : ActionIdentity) (leaseToken : String) (startedAt : Instant)
  | recordExecutionResult (actionId : ActionIdentity) (leaseToken : String) (result : ProviderExecutionResult)
  | markStaleCallsUnknown (now : Instant) (limit : Nat)
  | recordLookup (actionId : ActionIdentity) (result : ProviderLookupResult)
  | verifySignedEvent (event : NormalizedEvent) (webhookEventId : Identifier)

def exec (rt : Runtime) : Command → Database → Database
  | .registerMerchant merchantId => (registerMerchant merchantId).commit
  | .upsertCustomer row => (upsertCustomer row).commit
  | .upsertPayment row => (upsertPayment row).commit
  | .upsertSubscription row => (upsertSubscription row).commit
  | .persistNormalizedEvent event => (persistNormalizedEvent event).commit
  | .putMerchantRow row => (putMerchantRow row).commit
  | .publishPolicy merchantId policy => (publishPolicy merchantId policy).commit
  | .applyDegradationAssessment assessment policy incidentId =>
    (applyDegradationAssessment rt assessment policy incidentId).commit
  | .processEvent inputs merchantId eventId caseId evaluatedAt =>
    (processEvent rt inputs merchantId eventId caseId evaluatedAt).commit
  | .reevaluateDeferred inputs dueAt limit => (reevaluateDeferred rt inputs dueAt limit).commit
  | .decideReview inputs merchantId decision evaluatedAt =>
    (decideReviewRequest rt inputs merchantId decision evaluatedAt).commit
  | .closeExpiredCustomerInterventions dueAt limit => (closeExpiredCustomerInterventions rt dueAt limit).commit
  | .recordOverdueInvoice merchantId sourceEventId invoice occurredAt receivedAt =>
    (recordOverdueInvoice merchantId sourceEventId invoice occurredAt receivedAt).commit
  | .recordCustomerResponse merchantId sourceResponseId invoiceId body reply receivedAt =>
    (recordCustomerResponse merchantId sourceResponseId invoiceId body reply receivedAt).commit
  | .scheduleDuePromiseReminders dueAt limit => (scheduleDuePromiseReminders rt dueAt limit).commit
  | .escalateBrokenPromises dueAt limit => (escalateBrokenPromises rt dueAt limit).commit
  | .claimDueActions tokens now leaseFor limit => (claimDueActions rt tokens now leaseFor limit).commit
  | .prepareExecution actionId leaseToken startedAt => (prepareExecution rt actionId leaseToken startedAt).commit
  | .recordExecutionResult actionId leaseToken result => (recordExecutionResult rt actionId leaseToken result).commit
  | .markStaleCallsUnknown now limit => (markStaleCallsUnknown rt now limit).commit
  | .recordLookup actionId result => (recordLookup actionId result).commit
  | .verifySignedEvent event webhookEventId => (verifySignedEvent rt event webhookEventId).commit

/-- The states some run from the empty store reaches, each of its commands allowed where it is taken. -/
def ReachableUnder (rt : Runtime) (allowed : Command → Database → Prop) (db : Database) : Prop :=
  Runs.Reaches (exec rt) allowed {} db

def Reachable (rt : Runtime) (db : Database) : Prop := ReachableUnder rt (fun _ _ => True) db

theorem ReachableUnder.reachable {rt : Runtime} {allowed : Command → Database → Prop} {db : Database}
    (reach : ReachableUnder rt allowed db) : Reachable rt db := Runs.Reaches.mono reach fun _ _ _ => trivial

def execAll (rt : Runtime) (commands : List Command) (db : Database) : Database :=
  commands.foldl (fun db c => exec rt c db) db

theorem reaches_execAll (rt : Runtime) (commands : List Command) (db : Database) :
    Runs.Reaches (exec rt) (fun _ _ => True) db (execAll rt commands db) := by
  induction commands generalizing db with
  | nil => exact .start
  | cons c rest ih => exact (Runs.Reaches.step c .start trivial).trans (ih (exec rt c db))

theorem reachable_execAll (rt : Runtime) (commands : List Command) : Reachable rt (execAll rt commands {}) :=
  reaches_execAll rt commands {}

end RevenueGuard
