import RevenueGuard.Protocol.Crediting
import RevenueGuard.Safety.Normalized
import RevenueGuard.Safety.Refinement
import RevenueGuard.Safety.Scopes

/-
Where money and provider events come from. Every provider event in the store is
the reading of an accepted webhook, and every accepted webhook of the provider came
with a signature over its exact bytes; every outcome that recovers money rests on
such a webhook, whose body states the amount, or on an authoritative lookup.
-/
namespace RevenueGuard

variable {site : Site} {s t : Deployment} {task : Task} {tasks : List Task} {w : AcceptedWebhook}

section readings

variable {depth : Nat} {event : RevenueRiskEvent} {document : Mapping} {f : EventFields} {context : EventContext}

theorem amount_read {entity : Mapping} {field : String} {value : Int} (h : entity.requiredNonnegativeInteger field = .ok value) :
    entity.get field = .int value := by
  unfold Mapping.requiredNonnegativeInteger at h
  split at h
  · rename_i found
    split at h
    · cases h
    · cases h
      exact found
  · cases h

theorem currency_read {entity : Mapping} {value : String} (h : entity.requiredCurrency = .ok value) :
    entity.get "currency" = .str value := by
  obtain ⟨code, read, h⟩ := except_bind_ok h
  obtain ⟨_, -, h⟩ := except_bind_ok h
  cases h
  exact (requiredString_text read).1

/-- The entity a document's amount is taken from. -/
def Mapping.financial (document : Mapping) : Option Mapping := (document.entityAt "payment").or (document.entityAt "payment_link")

/-- What the fields owe to the caller and to the document. -/
structure ReadFrom (context : EventContext) (document : Mapping) (f : EventFields) : Prop where
  merchant : f.merchantId = context.merchantId.1
  id : f.eventId = context.eventId.1
  source : f.source = context.source
  received : f.receivedAt = context.receivedAt
  type : document.get "event" = .str f.eventType
  supported : f.eventType ∈ supportedEventTypes
  amount : ∃ entity, document.financial = some entity ∧ entity.get "amount" = .int f.amountMinor
    ∧ entity.get "currency" = .str f.currency
  positive : 0 ≤ f.amountMinor

theorem eventFields_read (h : eventFields context document = .ok f) : ReadFrom context document f := by
  obtain ⟨event, readEvent, h⟩ := except_bind_ok h
  obtain ⟨_, supported, h⟩ := except_bind_ok h
  obtain ⟨_, -, h⟩ := except_bind_ok h
  obtain ⟨_, -, h⟩ := except_bind_ok h
  obtain ⟨payload, readPayload, h⟩ := except_bind_ok h
  obtain ⟨payment, readPayment, h⟩ := except_bind_ok h
  obtain ⟨subscription, -, h⟩ := except_bind_ok h
  obtain ⟨link, readLink, h⟩ := except_bind_ok h
  obtain ⟨_, -, h⟩ := except_bind_ok h
  obtain ⟨_, -, h⟩ := except_bind_ok h
  obtain ⟨_, -, h⟩ := except_bind_ok h
  split at h
  · cases h
  · rename_i entity chosen
    obtain ⟨amount, readAmount, h⟩ := except_bind_ok h
    obtain ⟨currency, readCurrency, h⟩ := except_bind_ok h
    obtain ⟨failure, -, h⟩ := except_bind_ok h
    obtain ⟨occurredAt, -, h⟩ := except_bind_ok h
    obtain ⟨customer, -, h⟩ := except_bind_ok h
    obtain ⟨paymentId, -, h⟩ := except_bind_ok h
    obtain ⟨order, -, h⟩ := except_bind_ok h
    obtain ⟨subscriptionId, -, h⟩ := except_bind_ok h
    obtain ⟨invoice, -, h⟩ := except_bind_ok h
    obtain ⟨linkId, -, h⟩ := except_bind_ok h
    cases h
    have payloadAt := requiredMapping_ok readPayload
    have from_ : document.financial = some entity := by
      rw [Mapping.financial, Mapping.entityAt, Mapping.entityAt, payloadAt]
      dsimp only
      rw [← optionalEntity_ok readPayment, ← optionalEntity_ok readLink]
      exact chosen
    exact ⟨rfl, rfl, rfl, rfl, (requiredString_text readEvent).1, demand_ok_iff.mp supported,
      ⟨entity, from_, amount_read readAmount, currency_read readCurrency⟩, requiredNonnegativeInteger_ok readAmount⟩

/-- What the bytes of a webhook say of its event. -/
structure Stated (depth : Nat) (w : AcceptedWebhook) (event : RevenueRiskEvent) (document entity : Mapping) : Prop where
  parsed : parseDocument depth w.body = .ok document
  type : document.get "event" = .str event.eventType.val
  financial : document.financial = some entity
  amount : entity.get "amount" = .int event.amountMinor
  currency : entity.get "currency" = .str event.currency.val
  merchant : event.merchantId = w.merchantId
  id : event.eventId = eventIdOf w.id
  source : event.source = w.source
  received : event.receivedAt = w.receivedAt

theorem normalized_stated (h : w.normalized depth = .ok event) : ∃ document entity, Stated depth w event document entity := by
  unfold AcceptedWebhook.normalized normalizeRazorpayEvent at h
  cases parsed : parseDocument depth w.body with
  | error e =>
    rw [parsed] at h
    cases h
  | ok document =>
    rw [parsed] at h
    cases read : eventFields w.context document with
    | error e =>
      simp only [read, bind, Except.bind, Except.mapError, Except.map] at h
      cases h
    | ok fields =>
      cases built : revenueRiskEvent fields with
      | error e =>
        simp only [read, built, bind, Except.bind, Except.mapError, Except.map] at h
        cases h
      | ok contract =>
        simp only [read, built, bind, Except.bind, Except.mapError, Except.map] at h
        have same : contract.1 = fields := by
          unfold revenueRiskEvent at built
          split at built
          · cases built
            rfl
          · cases built
        have drawn := eventFields_read read
        rw [← same] at drawn
        obtain ⟨entity, from_, amount, currency⟩ := drawn.amount
        obtain rfl := Except.ok.inj h
        refine ⟨document, entity, parsed, drawn.type, from_, ?_, currency, Subtype.ext drawn.merchant, Subtype.ext drawn.id,
          drawn.source, drawn.received⟩
        rw [amount]
        exact congrArg Json.int (Int.toNat_of_nonneg drawn.positive).symm

end readings

section admissions

/-- A request whose sender knew the webhook secret: the signature is over the very bytes that are stored. -/
structure Authentic (settings : Settings) (request : WebhookRequest) (w : AcceptedWebhook) : Prop where
  merchant : settings.merchantId = some w.merchantId
  signed : ∃ secret signature, settings.webhookSecret = some secret ∧
    requiredHeader (request.header "X-Razorpay-Signature") "X-Razorpay-Signature" = .ok signature ∧
    lower (strip signature) = webhookSignature secret w.rawBody
  body : w.rawBody = request.stream.flatten
  bounded : w.rawBody.length ≤ settings.webhookMaxBodyBytes
  provider : w.provider = "RAZORPAY"
  eventId : requiredHeader (request.header "X-Razorpay-Event-Id") "X-Razorpay-Event-Id" = .ok w.providerEventId.1

theorem Examined.authentic {g : Gateway} {request : WebhookRequest} {visit : Visit} {a : Admitted} {payload : Mapping}
    (examined : Examined g request visit s a payload w) : Authentic g.settings request w := by
  have row := acceptedRow_of examined.row
  obtain ⟨merchant, secret, filled⟩ := configured_ok examined.admitted.configured
  obtain ⟨-, body, bounded⟩ := readBoundedRawBody_ok.mp examined.admitted.read
  have valid := ((verifyRazorpaySignature_iff filled).mp examined.verified).2
  constructor
  · rw [merchant, row.merchant]
  · exact ⟨_, _, secret, examined.admitted.signature, by rw [row.body]; exact valid⟩
  · rw [row.body, body]
  · rw [row.body]
    exact bounded
  · exact row.provider
  · rw [examined.admitted.eventId, row.eventId]

/-- How a webhook came into the store of a run. -/
inductive Admission (site : Site) (tasks : List Task) (w : AcceptedWebhook) : Prop
  | request (request : WebhookRequest) (visit : Visit) (taken : .request request visit ∈ tasks)
      (authentic : Authentic site.gateway.settings request w)
  | simulated (before : List Task) (task : Task) (after : List Task) (split : tasks = before ++ task :: after)
      (provider : w.provider = "SIMULATOR") (simulates : Simulates (deployed site before) task w)

/-- A webhook a task adds has passed the gateway's checks or is a sandbox's own. -/
theorem TaskStep.admits (step : TaskStep site s task t) (new : w ∉ s.accepted) (here : w ∈ t.accepted) :
    (∃ request visit a payload, task = .request request visit ∧ Examined site.gateway request visit s a payload w) ∨
      (w.provider = "SIMULATOR" ∧ Simulates s task w) := by
  cases step with
  | ingested request visit answer t case =>
    cases case with
    | accepted a payload w' answer examined =>
      rcases List.mem_append.mp here with old | added
      · exact absurd old new
      · rw [List.mem_singleton.mp added]
        exact .inl ⟨request, visit, a, payload, rfl, examined⟩
    | _ => exact absurd here new
  | simulated task w' d sessions delivers simulates provider =>
    rcases List.mem_append.mp here with old | added
    · exact absurd old new
    · rw [List.mem_singleton.mp added]
      exact .inr ⟨provider, simulates⟩
  | processed inputs dispatchId m id d w' event u dispatched found read ran =>
    rw [ran.rest] at here
    exact absurd here new
  | _ => exact absurd here new

theorem deployed_admitted (site : Site) (tasks : List Task) : ∀ w ∈ (deployed site tasks).accepted, Admission site tasks w := by
  intro w here
  obtain ⟨before, task, after, split, absent, present⟩ :=
    Runs.origin (f := perform site) (P := fun s => w ∈ s.accepted) (s := {}) List.not_mem_nil here
  rcases (perform_step site task _).admits absent present with
    ⟨request, visit, a, payload, rfl, examined⟩ | ⟨provider, simulates⟩
  · refine .request request visit ?_ examined.authentic
    rw [split]
    exact List.mem_append_right _ List.mem_cons_self
  · exact .simulated before task after split provider simulates

end admissions

section events

variable {rt : Runtime} {db db' : Database} {e : NormalizedEvent}

theorem Persists.event {event : NormalizedEvent} (h : Persists event db db') (here : e ∈ db'.events) :
    e ∈ db.events ∨ e = event := by
  rcases h with rfl | rfl
  · exact .inl here
  · exact (List.mem_append.mp here).imp_right List.mem_singleton.mp

theorem recordOverdueInvoice_event {m : Identifier} {source : String} {o : OverdueInvoice} {t t' : Instant} {u : Unit}
    (h : (recordOverdueInvoice m source o t t').run db = .ok (u, db')) (here : e ∈ db'.events) :
    e ∈ db.events ∨ e.source = .merchant := by
  obtain ⟨_, d, first, h⟩ := Tx.bind_ok h
  obtain ⟨_, d', second, h⟩ := Tx.bind_ok h
  have kept : d'.events = db.events := by
    rw [filed_closed.trans (recordMerchantEvent_filed m source o _ _ _ first) (upsertOverdueInvoice_filed m o t _ _ _ second)]
  rcases (persistMerchantEvent_persists _ _ _ _ h).event here with old | new
  · rw [kept] at old
    exact .inl old
  · rw [new]
    exact .inr rfl

theorem commit_eventsKept {A : Type} {x : Transaction A} (keeps : Tx.Keeps x EventsKept) (db : Database) :
    EventsKept db (x.commit db) := Tx.commit_relates (R := EventsKept) rfl (keeps _ _ _)

theorem filed_eventsKept {A : Type} {x : Transaction A} (keeps : Tx.Keeps x Filed) (db : Database) :
    EventsKept db (x.commit db) := by
  refine commit_eventsKept (fun s a s' h => ?_) db
  rw [EventsKept, keeps _ _ _ h]

theorem writes_eventsKept {A : Type} {x : Transaction A} {w : Writer} {db : Database}
    (writes : ∀ {a db'}, x.run db = .ok (a, db') → Writes w db db') : EventsKept db (x.commit db) :=
  Tx.commit_relates (R := EventsKept) rfl fun h => (writes h).fixed.events

/-- Commands that persist no event leave the events alone. -/
theorem exec_eventsKept (rt : Runtime) (c : Command) (db : Database) :
    EventsKept db (exec rt c db) ∨ (∃ event, c = .persistNormalizedEvent event) ∨
      ∃ m source o t t', c = .recordOverdueInvoice m source o t t' := by
  cases c with
  | persistNormalizedEvent event => exact .inr (.inl ⟨event, rfl⟩)
  | recordOverdueInvoice m source o t t' => exact .inr (.inr ⟨m, source, o, t, t', rfl⟩)
  | registerMerchant m =>
    exact .inl (commit_eventsKept (x := registerMerchant m) (Tx.Closed.write fun s => by split <;> rfl) db)
  | upsertCustomer row => exact .inl (commit_eventsKept (x := upsertCustomer row) (Tx.Closed.write fun _ => rfl) db)
  | upsertPayment row => exact .inl (commit_eventsKept (x := upsertPayment row) (Tx.Closed.write fun _ => rfl) db)
  | upsertSubscription row =>
    exact .inl (commit_eventsKept (x := upsertSubscription row) (Tx.Closed.write fun _ => rfl) db)
  | putMerchantRow row =>
    refine .inl (commit_eventsKept (x := putMerchantRow row) ?_ db)
    cases row <;> exact Tx.Closed.write fun _ => rfl
  | publishPolicy m policy =>
    refine .inl (commit_eventsKept (fun s a s' h => ?_) db)
    rcases publishPolicy_ok h with ⟨row, -, -, -, -, rfl⟩ | ⟨-, -, row, -, -, rfl⟩ <;> rfl
  | closeExpiredCustomerInterventions t limit =>
    refine .inl (commit_eventsKept (fun s a s' h => ?_) db)
    obtain ⟨_, _, checked, h⟩ := Tx.bind_ok h
    obtain ⟨-, rfl⟩ := Tx.check_ok checked
    obtain ⟨rows, _, read, h⟩ := Tx.bind_ok h
    obtain ⟨-, rfl⟩ := Tx.read_ok read
    obtain ⟨_, _, written, h⟩ := Tx.bind_ok h
    obtain ⟨-, rfl⟩ := Tx.pure_ok h
    rw [Tx.write_ok written]
    rfl
  | recordCustomerResponse m source invoiceId body reply t =>
    exact .inl (filed_eventsKept (recordCustomerResponse_filed m source invoiceId body reply t) db)
  | escalateBrokenPromises t limit => exact .inl (filed_eventsKept (escalateBrokenPromises_filed t limit) db)
  | applyDegradationAssessment a policy id =>
    exact .inl (writes_eventsKept (applyDegradationAssessment_writes
      (w := Command.writer rt (.applyDegradationAssessment a policy id) db) rfl fun onTime => onTime))
  | processEvent inputs m e caseId t =>
    exact .inl (writes_eventsKept (processEvent_writes (w := Command.writer rt (.processEvent inputs m e caseId t) db) rfl
      (fun _ known => ⟨known, rfl⟩) fun _ => And.intro))
  | reevaluateDeferred inputs t limit =>
    exact .inl (writes_eventsKept (reevaluateDeferred_writes (w := Command.writer rt (.reevaluateDeferred inputs t limit) db)
      rfl fun _ _ => id))
  | decideReview inputs m decision t =>
    exact .inl (writes_eventsKept (decideReview_writes (w := Command.writer rt (.decideReview inputs m decision t) db)
      rfl fun _ _ => id))
  | scheduleDuePromiseReminders t limit =>
    exact .inl (writes_eventsKept (scheduleDuePromiseReminders_writes
      (w := Command.writer rt (.scheduleDuePromiseReminders t limit) db) rfl))
  | claimDueActions tokens now leaseFor limit =>
    refine .inl (commit_eventsKept (fun s a s' h => ?_) db)
    exact (claimDueActions_quiet _ _ _ h).fixed.events
  | prepareExecution action token t =>
    exact .inl (writes_eventsKept (prepareExecution_writes (w := Command.writer rt (.prepareExecution action token t) db)
      rfl fun onTime => onTime))
  | recordExecutionResult id token result =>
    exact .inl (writes_eventsKept (recordExecutionResult_writes
      (w := Command.writer rt (.recordExecutionResult id token result) db) rfl))
  | markStaleCallsUnknown now limit =>
    exact .inl (writes_eventsKept (markStaleCallsUnknown_writes
      (w := Command.writer rt (.markStaleCallsUnknown now limit) db) rfl))
  | recordLookup id result =>
    exact .inl (writes_eventsKept (recordLookup_writes (w := Command.writer rt (.recordLookup id result) db) rfl))
  | verifySignedEvent event webhook =>
    exact .inl (writes_eventsKept (verifySignedEvent_writes (w := Command.writer rt (.verifySignedEvent event webhook) db) rfl))

/-- An event that a command adds is the one it persists, or the merchant's own report. -/
theorem exec_event {c : Command} (new : e ∉ db.events) (here : e ∈ (exec rt c db).events) :
    c = .persistNormalizedEvent e ∨ e.source = .merchant := by
  rcases exec_eventsKept rt c db with kept | ⟨event, rfl⟩ | ⟨m, source, o, t, t', rfl⟩
  · rw [kept] at here
    exact absurd here new
  · have ran : e ∈ db.events ∨ e = event :=
      Tx.commit_relates (x := persistNormalizedEvent event)
        (R := fun s s' : Database => e ∈ s'.events → e ∈ s.events ∨ e = event) .inl
        (fun h => (persistNormalizedEvent_persists event _ _ _ h).event) here
    exact .inl (by rw [ran.resolve_left new])
  · have ran : e ∈ db.events ∨ e.source = .merchant :=
      Tx.commit_relates (x := recordOverdueInvoice m source o t t')
        (R := fun s s' : Database => e ∈ s'.events → e ∈ s.events ∨ e.source = .merchant) .inl recordOverdueInvoice_event here
    exact .inr (ran.resolve_left new)

end events

section provenance

variable {rt : Runtime}

/-- Where an outcome that recovers money comes from. -/
inductive Evidenced (site : Site) (tasks : List Task) (o : VerifiedOutcome) : Prop
  | lookup (id : ActionIdentity) (result : ProviderLookupResult) (standalone : (Command.recordLookup id result).Standalone)
      (taken : .service (.recordLookup id result) standalone ∈ tasks) (looked : LookedUp id result o)
      (authoritative : result.status = .succeeded ∧ result.isAuthoritative = true)
  | webhook (w : AcceptedWebhook) (event : RevenueRiskEvent) (document entity : Mapping) (admitted : Admission site tasks w)
      (read : w.normalized site.worker.depth = .ok event) (stated : Stated site.worker.depth w event document entity)
      (credited : CreditedBy event w.id.identifier o)

structure Traced (site : Site) (tasks : List Task) (s : Deployment) : Prop where
  webhooks : ∀ w ∈ s.accepted, Admission site tasks w
  events : ∀ e ∈ s.database.events, e.source ≠ .merchant → ∃ w ∈ s.accepted, ∃ event document entity,
    w.normalized site.worker.depth = .ok event ∧ Stated site.worker.depth w event document entity ∧ e = event.row
  money : ∀ o ∈ s.database.outcomes, o.recoveredAmountMinor ≠ 0 → Evidenced site tasks o

/-- The command of a run that first brings about a fact of the services' tables, and its issue. -/
theorem issued_origin {cs : List Command} (issued : ∀ c ∈ cs, Issued site tasks s c)
    {P : Database → Prop} (absent : ¬ P {}) (present : P (execAll rt cs {})) :
    ∃ c db, Issued site tasks s c ∧ ¬ P db ∧ P (exec rt c db) := by
  obtain ⟨before, c, after, split, missing, found⟩ := Runs.origin (f := exec rt) (P := P) absent present
  refine ⟨c, _, issued c ?_, missing, found⟩
  rw [split]
  exact List.mem_append_right _ List.mem_cons_self

theorem credit_evidenced {c : Command} {db : Database} {o : VerifiedOutcome}
    (admitted : ∀ w ∈ s.accepted, Admission site tasks w) (issued : Issued site tasks s c) (new : o ∉ db.outcomes)
    (here : o ∈ (exec rt c db).outcomes) (paid : o.recoveredAmountMinor ≠ 0) : Evidenced site tasks o := by
  have booked : c.Books o := ((exec_gains rt c db).mem here).resolve_left new
  cases c with
  | recordLookup id result =>
    cases issued with
    | service c standalone taken =>
      exact .lookup id result standalone taken booked (credits_iff.mp (booked.credited paid))
    | webhook w event c stored read own => cases own
  | verifySignedEvent event webhook =>
    cases issued with
    | service c standalone taken => exact standalone.elim
    | webhook w event' c stored read own =>
      cases own
      obtain ⟨document, entity, stated⟩ := normalized_stated read
      exact .webhook w event document entity (admitted w stored) read stated booked
  | _ => exact absurd booked paid

/-- Every webhook, every provider event and all recovered money of a run is accounted for. -/
theorem deployed_traced (site : Site) (tasks : List Task) : Traced site tasks (deployed site tasks) := by
  have admitted := deployed_admitted site tasks
  obtain ⟨cs, issued, ran⟩ := (deployed_refines site tasks).issued
  refine ⟨admitted, fun e here provider => ?_, fun o here paid => ?_⟩
  · rw [ran] at here
    obtain ⟨c, db, issue, new, added⟩ := issued_origin issued (P := fun db => e ∈ db.events) List.not_mem_nil here
    obtain rfl := (exec_event new added).resolve_right provider
    cases issue with
    | service c standalone taken => exact standalone.elim
    | webhook w event c stored read own =>
      cases own
      obtain ⟨document, entity, stated⟩ := normalized_stated read
      exact ⟨w, stored, event, document, entity, read, stated, rfl⟩
  · rw [ran] at here
    obtain ⟨c, db, issue, new, added⟩ := issued_origin issued (P := fun db => o ∈ db.outcomes) List.not_mem_nil here
    exact credit_evidenced admitted issue new added paid

end provenance

end RevenueGuard
