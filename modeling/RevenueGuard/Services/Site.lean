import RevenueGuard.Services.Checkout

/-
The deployed system: the gateway's requests, the worker's tasks, simulated checkouts
and every other service, taken in any order over one store that starts empty.
-/
namespace RevenueGuard

/-- How the processes of one deployment are configured. -/
structure Site where
  gateway : Gateway
  worker : Worker
  simulator : Simulator

/-- Commands that tasks and routes of their own run; ingestion and verification belong to the webhook task. -/
def Command.Standalone : Command → Prop
  | .registerMerchant _ => False
  | .upsertCustomer _ => False
  | .upsertPayment _ => False
  | .upsertSubscription _ => False
  | .persistNormalizedEvent _ => False
  | .processEvent .. => False
  | .verifySignedEvent .. => False
  | _ => True

inductive Task where
  | upsertMerchant (merchantId : Identifier) (status : String)
  | request (request : WebhookRequest) (visit : Visit)
  | claimDispatches (tokens : Identifier → String) (now : Instant) (leaseFor : Int) (limit : Nat)
  | markDispatchPublished (dispatchId : Identifier) (leaseToken brokerTaskId : String) (publishedAt : Instant)
  | publicationFailed (dispatchId : Identifier) (now : Instant)
  | process (inputs : ProcessingInputs) (dispatchId merchantId webhookEventId : Identifier)
  | report (dispatchId : Identifier) (error : ProcessingError) (now : Instant)
  | requeueDeadLetter (dispatchId : Identifier) (replayedAt : Instant) (replayedBy : String)
  | createSimulation (merchantId : Identifier) (request : SimulationCreateRequest) (token : SessionToken) (now : Instant)
  | submitSimulation (inputs : SubmissionInputs) (simulationId : Identifier)
  | submitRecovery (inputs : SubmissionInputs) (merchantId simulationId : Identifier)
  | service (command : Command) (standalone : command.Standalone)

/-- A transaction on the inbox alone. -/
def queued {A : Type} (x : InboxTransaction A) : Tx Deployment Failure A := Tx.on Deployment.queue id x

def perform (site : Site) : Task → Deployment → Deployment
  | .upsertMerchant merchantId status => (RevenueGuard.upsertMerchant merchantId status).commit
  | .request request visit => fun s => (ingestRazorpayWebhook site.gateway request visit s).2
  | .claimDispatches tokens now leaseFor limit => (queued (RevenueGuard.claimDispatches tokens now leaseFor limit)).commit
  | .markDispatchPublished id token task at_ => (queued (RevenueGuard.markDispatchPublished id token task at_)).commit
  | .publicationFailed id now =>
    (queued (recordProcessingFailure id "BROKER_PUBLISH_FAILED" "broker publication failed" false now)).commit
  | .process inputs dispatchId merchantId webhookEventId =>
    (processWebhookEvent site.worker inputs dispatchId merchantId webhookEventId).commit
  | .report dispatchId error now => (queued (reportProcessing site.worker dispatchId error now)).commit
  | .requeueDeadLetter id at_ by_ => (queued (RevenueGuard.requeueDeadLetter id at_ by_)).commit
  | .createSimulation merchantId request token now => (RevenueGuard.createSimulation merchantId request token now).commit
  | .submitSimulation inputs id => (RevenueGuard.submitSimulation site.simulator inputs id).commit
  | .submitRecovery inputs merchantId id => (submitSimulationRecovery site.simulator inputs merchantId id).commit
  | .service command _ => fun s => { s with database := exec site.worker.runtime command s.database }

def performAll (site : Site) (tasks : List Task) (s : Deployment) : Deployment :=
  tasks.foldl (fun s task => perform site task s) s

/-- What a deployment holds after some tasks have run from the empty store. -/
def deployed (site : Site) (tasks : List Task) : Deployment := performAll site tasks {}

/-- What the caller of a request is told, in the store it meets. -/
def answered (site : Site) (request : WebhookRequest) (visit : Visit) (s : Deployment) : Answer :=
  (ingestRazorpayWebhook site.gateway request visit s).1

end RevenueGuard
