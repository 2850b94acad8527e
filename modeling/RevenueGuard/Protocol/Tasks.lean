import RevenueGuard.Protocol.Intake
import RevenueGuard.Protocol.Writers
import RevenueGuard.Services.Site

/-
What one task does to the deployed store. The task of a webhook is a run of the
services' own commands; a simulated checkout stores a webhook as a request does;
every other task is one command of the services or of the inbox.
-/
namespace RevenueGuard

variable {s t : Deployment} {site : Site}

section runs

/-- The commands the task of a webhook takes: on the rows its event names, on the assessments of its merchant's recorded
payments as the event comes in, and on the event itself. -/
inductive OfWebhook (worker : Worker) (recorded : List ObservationRow) (w : AcceptedWebhook) (event : RevenueRiskEvent) :
    Command → Prop
  | customer (id : Identifier) (named : event.customerId = some id) :
      OfWebhook worker recorded w event (.upsertCustomer (customerRow event id))
  | payment (id : Identifier) (named : event.paymentId = some id) :
      OfWebhook worker recorded w event (.upsertPayment (paymentRow worker.upper event w.rawPayload id))
  | subscription (id : Identifier) (named : event.subscriptionId = some id) :
      OfWebhook worker recorded w event (.upsertSubscription (subscriptionRow worker.upper event w.rawPayload id))
  | persisted : OfWebhook worker recorded w event (.persistNormalizedEvent event.row)
  | assessed (rows : List ObservationRow) (since : Instant) (assessments : List MeasuredDegradation) (a : MeasuredDegradation)
      (evaluatedAt : String) (kept : rows <+: recorded)
      (start : windowStart event.receivedAt worker.degradation.baselineWindow = .ok since)
      (measured : assessPaymentDegradation worker.degradation event.receivedAt
        (paymentObservations event.merchantId since event.receivedAt rows) = .ok assessments)
      (member : a ∈ assessments) (dated : isoInstant a.evaluatedAt = some evaluatedAt) :
      OfWebhook worker recorded w event (.applyDegradationAssessment a.toDegradationAssessment worker.degradation
        (incidentIdOf a.toDegradationAssessment evaluatedAt))
  | routed (inputs : EvaluationInputs) (newCaseId : Identifier) (evaluatedAt : Instant) :
      OfWebhook worker recorded w event (.processEvent inputs event.merchantId event.eventId newCaseId evaluatedAt)
  | verified : OfWebhook worker recorded w event (.verifySignedEvent event w.id.identifier)

variable {worker : Worker} {recorded : List ObservationRow} {w : AcceptedWebhook} {event : RevenueRiskEvent}

theorem OfWebhook.mono {c : Command} {more : List ObservationRow} (own : OfWebhook worker recorded w event c)
    (grown : recorded <+: more) : OfWebhook worker more w event c := by
  cases own with
  | customer id named => exact .customer id named
  | payment id named => exact .payment id named
  | subscription id named => exact .subscription id named
  | persisted => exact .persisted
  | assessed rows since assessments a text kept start measured member dated =>
    exact .assessed rows since assessments a text (kept.trans grown) start measured member dated
  | routed inputs id t => exact .routed inputs id t
  | verified => exact .verified

/-- The services' tables change as a run of the webhook's commands changes them, and observations are added. -/
structure Ran (worker : Worker) (w : AcceptedWebhook) (event : RevenueRiskEvent) (s t : Deployment) : Prop where
  database : ∃ cs : List Command, (∀ c ∈ cs, OfWebhook worker t.observations w event c) ∧
    t.database = execAll worker.runtime cs s.database
  recorded : s.observations <+: t.observations
  rest : t = { s with database := t.database, observations := t.observations }

theorem execAll_append (rt : Runtime) (cs cs' : List Command) (db : Database) :
    execAll rt (cs ++ cs') db = execAll rt cs' (execAll rt cs db) := List.foldl_append

theorem Ran.refl (s : Deployment) : Ran worker w event s s :=
  ⟨⟨[], fun c none => absurd none List.not_mem_nil, rfl⟩, List.prefix_rfl, rfl⟩

theorem Ran.trans {u : Deployment} (first : Ran worker w event s t) (second : Ran worker w event t u) :
    Ran worker w event s u := by
  obtain ⟨cs, own, ran⟩ := first.database
  obtain ⟨cs', own', ran'⟩ := second.database
  constructor
  · refine ⟨cs ++ cs', fun c member => ?_, ?_⟩
    · rcases List.mem_append.mp member with here | there
      · exact (own c here).mono second.recorded
      · exact own' c there
    · rw [execAll_append, ← ran, ran']
  · exact first.recorded.trans second.recorded
  · rw [second.rest, first.rest]

theorem ran_closed : Tx.Closed (Ran worker w event) := ⟨Ran.refl, Ran.trans⟩

/-- A service within a task is its command. -/
theorem served_ran {A : Type} {x : Transaction A} {c : Command} (own : ∀ recorded, OfWebhook worker recorded w event c)
    (same : ∀ db, x.commit db = exec worker.runtime c db) : Tx.Keeps (served x) (Ran worker w event) := by
  intro s a t h
  obtain ⟨db, ran, rfl⟩ := Tx.on_ok h
  refine ⟨⟨[c], fun d member => ?_, ?_⟩, List.prefix_rfl, rfl⟩
  · rw [List.mem_singleton.mp member]
    exact own _
  · exact (Tx.commit_of_ok ran).symm.trans (same s.database)

theorem lockMerchant_ran (m : Identifier) : Tx.Keeps (served (lockMerchant m)) (Ran worker w event) := by
  intro s a t h
  obtain ⟨db, ran, rfl⟩ := Tx.on_ok h
  obtain ⟨_, _, read, ran⟩ := Tx.bind_ok ran
  obtain ⟨-, rfl⟩ := Tx.read_ok read
  obtain ⟨-, rfl⟩ := Tx.check_ok ran
  exact .refl s

theorem ifGiven_ran {A : Type} (subject : Option A) {f : A → Processing Unit}
    (each : ∀ a, subject = some a → Tx.Keeps (f a) (Ran worker w event)) :
    Tx.Keeps (ifGiven subject f) (Ran worker w event) := by
  cases subject with
  | none => exact ran_closed.pure _
  | some a => exact each a rfl

theorem recordPaymentObservation_ran (row : ObservationRow) :
    Tx.Keeps (recordPaymentObservation row) (Ran worker w event) := by
  refine ran_closed.bind (ran_closed.read _) fun known => ?_
  split
  · exact ran_closed.pure _
  · exact ran_closed.bind (ran_closed.read _) fun _ => ran_closed.bind (ran_closed.check _ _) fun _ =>
      ran_closed.bind (Tx.Closed.write fun s =>
        ⟨⟨[], fun c none => absurd none List.not_mem_nil, rfl⟩, List.prefix_append _ _, rfl⟩) fun _ => ran_closed.pure _

theorem reported_ok {E E' A : Type} {report : E → E'} {x : Except E A} {a : A} (h : x.mapError report = .ok a) : x = .ok a := by
  cases x with
  | error e => cases h
  | ok b => exact congrArg Except.ok (Except.ok.inj h)

theorem paymentOutcomeObservation_merchant {table : UpperTable} {sourceEventId : ProviderEventId} {document : Mapping}
    {row : ObservationRow} (observed : paymentOutcomeObservation table event sourceEventId document = some row) :
    row.observation.merchantId = event.merchantId := by
  unfold paymentOutcomeObservation at observed
  split at observed
  · cases observed
  · split at observed
    · cases observed
    · obtain rfl := Option.some.inj observed
      rfl

/-- The assessments of one reading of the observations are applied one after another. -/
theorem applyAssessments_ran {rows : List ObservationRow} {since : Instant} {assessments : List MeasuredDegradation}
    (start : windowStart event.receivedAt worker.degradation.baselineWindow = .ok since)
    (measured : assessPaymentDegradation worker.degradation event.receivedAt
      (paymentObservations event.merchantId since event.receivedAt rows) = .ok assessments) :
    Tx.Keeps (Tx.each (fun a : MeasuredDegradation => applyAssessment worker.runtime worker.degradation a.toDegradationAssessment) assessments)
      fun s t => rows <+: s.observations → Ran worker w event s t ∧ rows <+: t.observations := by
  have closed : Tx.Closed fun s t : Deployment =>
      rows <+: s.observations → Ran worker w event s t ∧ rows <+: t.observations := by
    refine ⟨fun s kept => ⟨.refl s, kept⟩, fun first second kept => ?_⟩
    obtain ⟨ran, kept⟩ := first kept
    obtain ⟨ran', kept⟩ := second kept
    exact ⟨ran.trans ran', kept⟩
  refine closed.each_mem fun a member => closed.bind_found fun text dated => ?_
  intro s u t h kept
  obtain ⟨db, ran, rfl⟩ := Tx.on_ok h
  refine ⟨⟨⟨[.applyDegradationAssessment a.toDegradationAssessment worker.degradation
    (incidentIdOf a.toDegradationAssessment text)], fun d same => ?_, (Tx.commit_of_ok ran).symm⟩, List.prefix_rfl, rfl⟩, kept⟩
  rw [List.mem_singleton.mp same]
  exact .assessed rows since assessments a text kept start measured member dated

theorem observeAndEvaluate_ran {row : ObservationRow} (own : row.observation.merchantId = event.merchantId) :
    Tx.Keeps (observeAndEvaluate worker.runtime worker.degradation row event.receivedAt) (Ran worker w event) := by
  refine ran_closed.bind (lockMerchant_ran _) fun _ => ran_closed.bind (recordPaymentObservation_ran _) fun created =>
    ran_closed.bind_lift fun since start => ?_
  intro s u t h
  obtain ⟨payments, _, read, h⟩ := Tx.bind_ok h
  obtain ⟨rfl, rfl⟩ := Tx.read_ok read
  obtain ⟨assessments, _, lifted, h⟩ := Tx.bind_ok h
  obtain ⟨measured, rfl⟩ := Tx.lift_ok lifted
  split at h
  · obtain ⟨-, rfl⟩ := Tx.pure_ok h
    exact .refl _
  · rw [own] at measured
    obtain ⟨_, _, applied, h⟩ := Tx.bind_ok h
    obtain ⟨-, rfl⟩ := Tx.pure_ok h
    exact (applyAssessments_ran (reported_ok start) (reported_ok measured) _ _ _ applied List.prefix_rfl).1

theorem upsertProviderEntities_ran :
    Tx.Keeps (upsertProviderEntities worker.upper event w.rawPayload) (Ran worker w event) :=
  ran_closed.bind (ifGiven_ran _ fun id named => served_ran (fun _ => .customer id named) fun _ => rfl) fun _ =>
    ran_closed.bind (ifGiven_ran _ fun id named => served_ran (fun _ => .payment id named) fun _ => rfl) fun _ =>
      ifGiven_ran _ fun id named => served_ran (fun _ => .subscription id named) fun _ => rfl

/-- Commands add events and take none away. -/
theorem exec_events (rt : Runtime) (c : Command) (db : Database) : ∃ more, (exec rt c db).events = db.events ++ more := by
  rcases exec_writes rt c db with writes | reported
  · exact ⟨[], by rw [writes.fixed.events, List.append_nil]⟩
  · exact reported.events

theorem execAll_events (rt : Runtime) (cs : List Command) (db : Database) :
    ∃ more, (execAll rt cs db).events = db.events ++ more := by
  induction cs generalizing db with
  | nil => exact ⟨[], (List.append_nil _).symm⟩
  | cons c rest ih =>
    obtain ⟨first, ran⟩ := exec_events rt c db
    obtain ⟨more, rests⟩ := ih (exec rt c db)
    refine ⟨first ++ more, ?_⟩
    rw [← List.append_assoc, ← ran]
    exact rests

theorem event_kept {m id : Identifier} {event : NormalizedEvent} {db db' : Database}
    (grown : ∃ more, db'.events = db.events ++ more) (known : db.event m id = some event) : db'.event m id = some event := by
  obtain ⟨more, events⟩ := grown
  simp only [Database.event, Table.lookup, events, List.find?_append] at known ⊢
  rw [known]
  rfl

theorem persistNormalizedEvent_known {event : NormalizedEvent} {db db' : Database} {u : Unit}
    (h : (persistNormalizedEvent event).run db = .ok (u, db')) : ∃ kept, db'.event event.merchantId event.eventId = some kept := by
  rcases persistNormalizedEvent_ok h with ⟨known, rfl⟩ | ⟨apart, -, rfl⟩
  · exact known
  · exact ⟨event, Table.lookup_append_new (Table.lookup_none.mpr fun e member same =>
      (apart e member).1 (congrArg Prod.snd same))⟩

/-- A webhook's task takes its own commands, and its event is in the store once they are through. -/
theorem processAccepted_ran {inputs : ProcessingInputs} {u : Unit}
    (h : (processAccepted worker inputs w).run s = .ok (u, t)) :
    ∃ event, w.normalized worker.depth = .ok event ∧ Ran worker w event s t ∧
      ∃ kept, t.database.event event.merchantId event.eventId = some kept := by
  obtain ⟨event, _, lifted, h⟩ := Tx.bind_ok h
  obtain ⟨normal, rfl⟩ := Tx.lift_ok lifted
  have read := reported_ok normal
  obtain ⟨_, d1, upserts, h⟩ := Tx.bind_ok h
  obtain ⟨_, d2, persists, h⟩ := Tx.bind_ok h
  have before : Ran worker w event s d1 := upsertProviderEntities_ran _ _ _ upserts
  have stored : Ran worker w event d1 d2 := served_ran (fun _ => .persisted) (fun _ => rfl) _ _ _ persists
  have after : Tx.Keeps _ (Ran worker w event) :=
    ran_closed.bind (ifGiven_ran (paymentOutcomeObservation worker.upper event w.providerEventId w.rawPayload)
      fun row observed => observeAndEvaluate_ran (paymentOutcomeObservation_merchant observed)) fun _ =>
      ran_closed.bind (served_ran (fun _ => .routed inputs.evaluation inputs.newCaseId inputs.evaluatedAt) fun _ => rfl) fun _ =>
        ran_closed.bind (served_ran (fun _ => .verified) fun _ => rfl) fun _ => ran_closed.pure ()
  have rest : Ran worker w event d2 t := after _ _ _ h
  refine ⟨event, read, (before.trans stored).trans rest, ?_⟩
  obtain ⟨db, ran, same⟩ := Tx.on_ok persists
  obtain ⟨kept, known⟩ := persistNormalizedEvent_known ran
  obtain ⟨cs, -, later⟩ := rest.database
  rw [later, same]
  exact ⟨kept, event_kept (execAll_events _ cs _) known⟩

end runs

section tasks

/-- The webhooks of simulated checkouts: the body is the session's own document. -/
inductive Simulates (s : Deployment) : Task → AcceptedWebhook → Prop
  | checkout (inputs : SubmissionInputs) (id : Identifier) (row : SimulationSession) (w : AcceptedWebhook)
      (here : row ∈ s.simulations) (named : row.id = id) (owner : w.merchantId = row.merchantId)
      (eventId : w.providerEventId = simulationEventId row)
      (body : w.rawBody = asciiBytes (.obj (simulationPayload row inputs.now))) :
      Simulates s (.submitSimulation inputs id) w
  | recovery (inputs : SubmissionInputs) (m id : Identifier) (row : SimulationSession) (link : String) (w : AcceptedWebhook)
      (here : row ∈ s.simulations) (owner : row.merchantId = m ∧ w.merchantId = m) (named : row.id = id)
      (failed : row.scenario = .authenticationFailure ∧ row.status = .submitted) (recoverable : recoverableLink row s = some link)
      (eventId : w.providerEventId = recoveryEventId id)
      (body : w.rawBody = asciiBytes (.obj (simulationRecoveryPayload row link inputs.now))) :
      Simulates s (.submitRecovery inputs m id) w

/-- A command of the inbox that neither receives a webhook nor ends its processing. -/
def InboxCommand.Upkeep : InboxCommand → Prop
  | .recordWebhook _ => False
  | .markDispatchSucceeded _ _ => False
  | _ => True

/-- Everything a task can do. -/
inductive TaskStep (site : Site) (s : Deployment) : Task → Deployment → Prop
  | idle (task : Task) : TaskStep site s task s
  | registered (m : Identifier) (status : String) (merchants : List MerchantRecord) :
      TaskStep site s (.upsertMerchant m status)
        { s with merchants := merchants, database := exec site.worker.runtime (.registerMerchant m) s.database }
  | ingested (request : WebhookRequest) (visit : Visit) (answer : Answer) (t : Deployment)
      (case : Ingested site.gateway request visit s answer t) : TaskStep site s (.request request visit) t
  | maintained (task : Task) (c : InboxCommand) (upkeep : c.Upkeep) : TaskStep site s task { s with inbox := c.exec s.inbox }
  | processed (inputs : ProcessingInputs) (dispatchId m id : Identifier) (d : DispatchRow) (w : AcceptedWebhook)
      (event : RevenueRiskEvent) (t : Deployment) (dispatched : tenantDispatch dispatchId m id s = some d)
      (found : s.webhook m id = some w) (read : w.normalized site.worker.depth = .ok event)
      (ran : Ran site.worker w event s t)
      (persisted : ∃ kept, t.database.event event.merchantId event.eventId = some kept) :
      TaskStep site s (.process inputs dispatchId m id)
        { t with inbox := InboxCommand.exec (.markDispatchSucceeded dispatchId inputs.completedAt) s.inbox }
  | noted (task : Task) (sessions : List SimulationSession) : TaskStep site s task { s with simulations := sessions }
  | simulated (task : Task) (w : AcceptedWebhook) (d : WebhookDelivery) (sessions : List SimulationSession)
      (delivers : ∃ dispatchId createdAt, d = w.delivery dispatchId createdAt 5) (simulates : Simulates s task w)
      (provider : w.provider = "SIMULATOR") (unknown : ¬ s.inbox.Knows w.provider w.merchantId w.providerEventId.1)
      (fresh : d.Fresh s.inbox) : TaskStep site s task { s.accept w d with simulations := sessions }
  | served (c : Command) (standalone : c.Standalone) :
      TaskStep site s (.service c standalone) { s with database := exec site.worker.runtime c s.database }

theorem queued_commit {A : Type} (x : InboxTransaction A) (s : Deployment) :
    (queued x).commit s = { s with inbox := x.commit s.inbox } := by
  cases ran : x.run s.inbox with
  | error e =>
    have failed : (queued x).run s = .error e := Tx.on_of_error ran
    rw [Tx.commit_of_error failed, Tx.commit_of_error ran]
  | ok out =>
    have done : (queued x).run s = .ok (out.1, { s with inbox := out.2 }) := Tx.on_of_ok ran
    rw [Tx.commit_of_ok done, Tx.commit_of_ok ran]

theorem webhook_mem {m id : Identifier} {w : AcceptedWebhook} (found : s.webhook m id = some w) :
    w ∈ s.accepted ∧ w.merchantId = m ∧ w.id.identifier = id := by
  have key := Table.lookup_key found
  exact ⟨Table.lookup_mem found, congrArg Prod.fst key, congrArg Prod.snd key⟩

theorem upsertMerchant_step (m : Identifier) (status : String) :
    TaskStep site s (.upsertMerchant m status) (perform site (.upsertMerchant m status) s) := by
  change TaskStep site s _ ((upsertMerchant m status).commit s)
  refine Tx.commit_relates (R := fun s t => TaskStep site s (.upsertMerchant m status) t) (.idle _) fun h => ?_
  obtain ⟨_, d, written, h⟩ := Tx.bind_ok h
  have first := Tx.write_ok written
  obtain ⟨db, ran, rfl⟩ := Tx.on_ok h
  have second : db = exec site.worker.runtime (.registerMerchant m) d.database := (Tx.commit_of_ok ran).symm
  rw [second, first]
  exact .registered m status _

theorem processPending_step {inputs : ProcessingInputs} {dispatchId m id : Identifier} {d : DispatchRow}
    {out : ProcessingStatus} (dispatched : tenantDispatch dispatchId m id s = some d)
    (h : (processPending site.worker inputs dispatchId m id).run s = .ok (out, t)) :
    TaskStep site s (.process inputs dispatchId m id) t := by
  obtain ⟨found, _, read, h⟩ := Tx.bind_ok h
  obtain ⟨rfl, rfl⟩ := Tx.read_ok read
  obtain ⟨w, _, got, h⟩ := Tx.bind_ok h
  obtain ⟨found, rfl⟩ := Tx.found_ok got
  obtain ⟨_, u, worked, h⟩ := Tx.bind_ok h
  obtain ⟨_, _, ended, h⟩ := Tx.bind_ok h
  obtain ⟨-, rfl⟩ := Tx.pure_ok h
  obtain ⟨event, read, ran, persisted⟩ := processAccepted_ran worked
  obtain ⟨box, marked, rfl⟩ := Tx.on_ok ended
  have same : u.inbox = s.inbox := by rw [ran.rest]
  have completed : box = InboxCommand.exec (.markDispatchSucceeded dispatchId inputs.completedAt) s.inbox := by
    rw [← same]
    exact (Tx.commit_of_ok marked).symm
  rw [completed]
  exact .processed inputs dispatchId m id d w event u dispatched found read ran persisted

theorem processWebhookEvent_step (inputs : ProcessingInputs) (dispatchId m id : Identifier) :
    TaskStep site s (.process inputs dispatchId m id) (perform site (.process inputs dispatchId m id) s) := by
  change TaskStep site s _ ((processWebhookEvent site.worker inputs dispatchId m id).commit s)
  refine Tx.commit_relates (R := fun s t => TaskStep site s (.process inputs dispatchId m id) t) (.idle _) fun h => ?_
  obtain ⟨found, _, read, h⟩ := Tx.bind_ok h
  obtain ⟨rfl, rfl⟩ := Tx.read_ok read
  obtain ⟨d, _, got, h⟩ := Tx.bind_ok h
  obtain ⟨dispatched, rfl⟩ := Tx.found_ok got
  split at h
  · obtain ⟨-, rfl⟩ := Tx.pure_ok h
    exact .idle _
  · obtain ⟨-, rfl⟩ := Tx.pure_ok h
    exact .idle _
  · exact processPending_step dispatched h

end tasks

section checkouts

variable {sim : Simulator} {inputs : SubmissionInputs}

theorem createSimulation_step (m : Identifier) (request : SimulationCreateRequest) (token : SessionToken) (now : Instant) :
    TaskStep site s (.createSimulation m request token now) (perform site (.createSimulation m request token now) s) := by
  change TaskStep site s _ ((createSimulation m request token now).commit s)
  refine Tx.commit_relates (R := fun s t => TaskStep site s (.createSimulation m request token now) t) (.idle _) fun h => ?_
  obtain ⟨_, _, read, h⟩ := Tx.bind_ok h
  obtain ⟨-, rfl⟩ := Tx.read_ok read
  obtain ⟨_, _, checked, h⟩ := Tx.bind_ok h
  obtain ⟨-, rfl⟩ := Tx.check_ok checked
  obtain ⟨_, _, read, h⟩ := Tx.bind_ok h
  obtain ⟨-, rfl⟩ := Tx.read_ok read
  obtain ⟨_, _, checked, h⟩ := Tx.bind_ok h
  obtain ⟨-, rfl⟩ := Tx.check_ok checked
  obtain ⟨_, _, written, h⟩ := Tx.bind_ok h
  obtain ⟨-, rfl⟩ := Tx.pure_ok h
  rw [Tx.write_ok written]
  exact .noted _ _

/-- The simulator stores its own webhook, or finds it stored. -/
theorem storeSimulated_ok {m : Identifier} {providerEventId : ProviderEventId} {eventType entityId : String} {payload : Mapping}
    {created : Bool} (h : (storeSimulated sim inputs m providerEventId eventType entityId payload).run s = .ok (created, t)) :
    (created = false ∧ t = s) ∨ created = true ∧ ∃ w : AcceptedWebhook, w.merchantId = m ∧ w.provider = "SIMULATOR" ∧
      w.providerEventId = providerEventId ∧ w.rawBody = asciiBytes (.obj payload) ∧
      ¬ s.inbox.Knows w.provider w.merchantId w.providerEventId.1 ∧
      (w.delivery inputs.dispatchId inputs.createdAt 5).Fresh s.inbox ∧
      t = s.accept w (w.delivery inputs.dispatchId inputs.createdAt 5) := by
  obtain ⟨rawBody, _, signed, h⟩ := Tx.bind_ok h
  obtain ⟨_, _, checked, signed⟩ := Tx.bind_ok signed
  obtain ⟨-, rfl⟩ := Tx.check_ok checked
  obtain ⟨rfl, rfl⟩ := Tx.pure_ok signed
  obtain ⟨_, _, checked, h⟩ := Tx.bind_ok h
  obtain ⟨-, rfl⟩ := Tx.check_ok checked
  obtain ⟨column, _, got, h⟩ := Tx.bind_ok h
  obtain ⟨-, rfl⟩ := Tx.found_ok got
  obtain ⟨u, stored, rfl⟩ := Tx.on_ok h
  rcases recordAccepted_ok stored with ⟨rfl, same, -⟩ | ⟨rfl, unknown, fresh, rfl⟩
  · exact .inl ⟨rfl, same⟩
  · exact .inr ⟨rfl, _, rfl, rfl, rfl, rfl, unknown, fresh, rfl⟩

theorem submitSimulation_step (inputs : SubmissionInputs) (id : Identifier) :
    TaskStep site s (.submitSimulation inputs id) (perform site (.submitSimulation inputs id) s) := by
  change TaskStep site s _ ((submitSimulation site.simulator inputs id).commit s)
  refine Tx.commit_relates (R := fun s t => TaskStep site s (.submitSimulation inputs id) t) (.idle _) fun h => ?_
  obtain ⟨_, _, read, h⟩ := Tx.bind_ok h
  obtain ⟨rfl, rfl⟩ := Tx.read_ok read
  obtain ⟨row, _, got, h⟩ := Tx.bind_ok h
  obtain ⟨found, rfl⟩ := Tx.found_ok got
  split at h
  · obtain ⟨-, rfl⟩ := Tx.pure_ok h
    exact .idle _
  split at h
  · obtain ⟨_, _, written, h⟩ := Tx.bind_ok h
    obtain ⟨-, rfl⟩ := Tx.pure_ok h
    rw [Tx.write_ok written]
    exact .noted _ _
  · obtain ⟨created, d, stored, h⟩ := Tx.bind_ok h
    obtain ⟨_, _, written, h⟩ := Tx.bind_ok h
    obtain ⟨_, _, checked, h⟩ := Tx.bind_ok h
    obtain ⟨fresh, rfl⟩ := Tx.check_ok checked
    obtain ⟨-, rfl⟩ := Tx.pure_ok h
    rcases storeSimulated_ok stored with ⟨duplicate, -⟩ | ⟨-, w, owner, provider, eventId, body, unknown, new, same⟩
    · rw [duplicate] at fresh
      cases fresh
    · rw [Tx.write_ok written, same]
      exact .simulated _ w _ _ ⟨_, _, rfl⟩ (.checkout inputs id row w (Table.lookup_mem found) (Table.lookup_key found) owner
        eventId body) provider unknown new

theorem submitRecovery_step (inputs : SubmissionInputs) (m id : Identifier) :
    TaskStep site s (.submitRecovery inputs m id) (perform site (.submitRecovery inputs m id) s) := by
  change TaskStep site s _ ((submitSimulationRecovery site.simulator inputs m id).commit s)
  refine Tx.commit_relates (R := fun s t => TaskStep site s (.submitRecovery inputs m id) t) (.idle _) fun h => ?_
  obtain ⟨_, _, read, h⟩ := Tx.bind_ok h
  obtain ⟨rfl, rfl⟩ := Tx.read_ok read
  obtain ⟨row, _, got, h⟩ := Tx.bind_ok h
  obtain ⟨found, rfl⟩ := Tx.found_ok got
  obtain ⟨_, _, checked, h⟩ := Tx.bind_ok h
  obtain ⟨failed, rfl⟩ := Tx.check_ok checked
  obtain ⟨_, _, read, h⟩ := Tx.bind_ok h
  obtain ⟨rfl, rfl⟩ := Tx.read_ok read
  obtain ⟨link, _, got, h⟩ := Tx.bind_ok h
  obtain ⟨recoverable, rfl⟩ := Tx.found_ok got
  obtain ⟨created, d, stored, h⟩ := Tx.bind_ok h
  obtain ⟨-, rfl⟩ := Tx.pure_ok h
  rcases storeSimulated_ok stored with ⟨-, rfl⟩ | ⟨-, w, owner, provider, eventId, body, unknown, new, rfl⟩
  · exact .idle _
  · have here := List.find?_some found
    rw [decide_eq_true_eq] at here
    exact .simulated _ w _ s.simulations ⟨_, _, rfl⟩ (.recovery inputs m id row link w (List.mem_of_find?_eq_some found)
      ⟨here.1, owner⟩ here.2 failed recoverable eventId body) provider unknown new

/-- The task's effect is one of those listed. -/
theorem perform_step (site : Site) (task : Task) (s : Deployment) : TaskStep site s task (perform site task s) := by
  cases task with
  | upsertMerchant m status => exact upsertMerchant_step m status
  | request request visit => exact .ingested request visit _ _ (ingest_cases site.gateway request visit s)
  | claimDispatches tokens now leaseFor limit =>
    rw [perform, queued_commit]
    exact .maintained _ (.claimDispatches tokens now leaseFor limit) trivial
  | markDispatchPublished id token task at_ =>
    rw [perform, queued_commit]
    exact .maintained _ (.markDispatchPublished id token task at_) trivial
  | publicationFailed id now =>
    rw [perform, queued_commit]
    exact .maintained _ (.recordProcessingFailure "" id _ _ false now) trivial
  | process inputs dispatchId m id => exact processWebhookEvent_step inputs dispatchId m id
  | report id error now =>
    rw [perform, queued_commit]
    cases error with
    | normalization error =>
      cases error with
      | razorpay error => exact .maintained _ (.recordProcessingFailure "" id error.code _ true now) trivial
      | _ => exact .maintained _ (.recordProcessingFailure "" id _ _ false now) trivial
    | failure failure => exact .maintained _ (.recordProcessingFailure "" id _ _ false now) trivial
  | requeueDeadLetter id at_ by_ =>
    rw [perform, queued_commit]
    exact .maintained _ (.requeueDeadLetter id at_ by_) trivial
  | createSimulation m request token now => exact createSimulation_step m request token now
  | submitSimulation inputs id => exact submitSimulation_step inputs id
  | submitRecovery inputs m id => exact submitRecovery_step inputs m id
  | service c standalone => exact .served c standalone

end checkouts

end RevenueGuard
