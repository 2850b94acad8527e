import RevenueGuard.Safety.Provenance
import RevenueGuard.Safety.Processed

/-
Deliveries are taken in once and kept. The gateway answers 202 at most once for an
event id however often it is sent; what it has answered for is in the store from then
on with its dispatch; and a dispatch that has succeeded has its event in the store.
-/
namespace RevenueGuard

variable {site : Site} {s t : Deployment} {task : Task} {tasks : List Task} {w : AcceptedWebhook}

section columns

variable {box box' : Inbox} {c : InboxCommand}

/-- The columns of a webhook that never change. -/
def WebhookRow.origin (r : WebhookRow) : Identifier × Identifier × String × String :=
  (r.id, r.merchantId, r.provider, r.providerEventId)

/-- Whose dispatch it is, and of which webhook. -/
def DispatchRow.owner (d : DispatchRow) : Identifier × Identifier := (d.merchantId, d.webhookEventId)

def AcceptedWebhook.origin (w : AcceptedWebhook) : Identifier × Identifier × String × String :=
  (w.id.identifier, w.merchantId, w.provider, w.providerEventId.1)

def AcceptedWebhook.sender (w : AcceptedWebhook) : String × Identifier × String := (w.provider, w.merchantId, w.providerEventId.1)

theorem fail_owner (f : DispatchFailure) (d : DispatchRow) : (d.fail f).owner = d.owner := by
  unfold DispatchRow.fail
  dsimp only
  split <;> rfl

theorem DispatchRow.Changed.owner {d d' : DispatchRow} (changed : d.Changed box c d') : d'.owner = d.owner := by
  cases changed with
  | failed => exact fail_owner _ d
  | reported => exact fail_owner _ (d.spend _)
  | _ => rfl

theorem InboxStep.origins (step : InboxStep box c box') :
    box'.webhooks.map WebhookRow.origin = box.webhooks.map WebhookRow.origin ∨
      ∃ d, c = .recordWebhook d ∧ box' = box.receive d := by
  have kept (id : Identifier) {f : WebhookRow → WebhookRow} (same : ∀ r, (f r).origin = r.origin) :
      (Table.update WebhookRow.id id f box.webhooks).map WebhookRow.origin = box.webhooks.map WebhookRow.origin :=
    Table.map_update (fun r _ => same r) _
  cases step with
  | received d => exact .inr ⟨d, rfl, rfl⟩
  | succeeded d => exact .inl (kept d.webhookEventId fun r => rfl)
  | failed holder d => exact .inl (kept d.webhookEventId fun r => rfl)
  | reported holder d => exact .inl (kept d.webhookEventId fun r => rfl)
  | requeued d => exact .inl (kept d.webhookEventId fun r => rfl)
  | _ => exact .inl rfl

theorem InboxStep.owners (step : InboxStep box c box') (ids : (box.dispatches.map DispatchRow.id).Nodup) :
    box'.dispatches.map DispatchRow.owner = box.dispatches.map DispatchRow.owner ∨
      ∃ d, c = .recordWebhook d ∧ box' = box.receive d := by
  by_cases receives : ∃ d, c = .recordWebhook d
  · obtain ⟨d, rfl⟩ := receives
    cases step with
    | idle => exact .inl rfl
    | received => exact .inr ⟨d, rfl, rfl⟩
  · obtain ⟨f, fresh, rows, changed, new⟩ := step.rows ids
    have none : fresh = [] := by
      refine List.eq_nil_iff_forall_not_mem.mpr fun d member => receives ?_
      obtain ⟨w, same, -⟩ := new d member
      exact ⟨w, same⟩
    refine .inl ?_
    rw [rows, none, List.append_nil, List.map_map]
    refine List.map_congr_left fun d member => ?_
    rcases changed d member with same | changes
    · exact congrArg DispatchRow.owner same
    · exact changes.owner

/-- Other commands than a receipt keep the columns. -/
theorem exec_columns (sound : box.Sound) (silent : ∀ d, c ≠ .recordWebhook d) :
    (c.exec box).webhooks.map WebhookRow.origin = box.webhooks.map WebhookRow.origin ∧
      (c.exec box).dispatches.map DispatchRow.owner = box.dispatches.map DispatchRow.owner := by
  have step := exec_step c box
  constructor
  · exact step.origins.resolve_right fun ⟨d, receives, _⟩ => silent d receives
  · exact (step.owners sound.ids).resolve_right fun ⟨d, receives, _⟩ => silent d receives

end columns

section store

/-- The inbox and the kept columns tell the same webhooks, one for each sender's event id, each with its dispatch. -/
structure Deployment.Consistent (s : Deployment) : Prop where
  webhooks : s.inbox.webhooks.map WebhookRow.origin = s.accepted.map AcceptedWebhook.origin
  dispatches : s.inbox.dispatches.map DispatchRow.owner = s.accepted.map fun w => (w.merchantId, w.id.identifier)
  senders : (s.accepted.map AcceptedWebhook.sender).Nodup
  ids : (s.accepted.map AcceptedWebhook.id).Nodup

theorem knows_iff {provider providerEventId : String} {m : Identifier} (consistent : s.Consistent) :
    s.inbox.Knows provider m providerEventId ↔ ∃ w ∈ s.accepted, w.sender = (provider, m, providerEventId) := by
  have listed {i : Identifier} : (i, m, provider, providerEventId) ∈ s.inbox.webhooks.map WebhookRow.origin ↔
      (i, m, provider, providerEventId) ∈ s.accepted.map AcceptedWebhook.origin := by rw [consistent.webhooks]
  constructor
  · rintro ⟨r, member, rfl, rfl, rfl⟩
    obtain ⟨w, here, same⟩ := List.mem_map.mp (listed.mp (List.mem_map_of_mem (f := WebhookRow.origin) member))
    simp only [AcceptedWebhook.origin, Prod.mk.injEq] at same
    exact ⟨w, here, by rw [AcceptedWebhook.sender, same.2.1, same.2.2.1, same.2.2.2]⟩
  · rintro ⟨w, member, same⟩
    simp only [AcceptedWebhook.sender, Prod.mk.injEq] at same
    have here : (w.id.identifier, m, provider, providerEventId) ∈ s.accepted.map AcceptedWebhook.origin := by
      rw [← same.1, ← same.2.1, ← same.2.2]
      exact List.mem_map_of_mem (f := AcceptedWebhook.origin) member
    obtain ⟨r, there, column⟩ := List.mem_map.mp (listed.mpr here)
    simp only [WebhookRow.origin, Prod.mk.injEq] at column
    exact ⟨r, there, column.2.2.1, column.2.1, column.2.2.2⟩

theorem consistent_start : ({} : Deployment).Consistent := ⟨rfl, rfl, List.nodup_nil, List.nodup_nil⟩

/-- One more webhook, unknown so far and with ids of its own. -/
theorem Deployment.Consistent.accept {dispatchId : Uuid} {createdAt : Instant} {attempts : Nat} (consistent : s.Consistent)
    (unknown : ¬ s.inbox.Knows w.provider w.merchantId w.providerEventId.1)
    (fresh : (w.delivery dispatchId createdAt attempts).Fresh s.inbox) :
    (s.accept w (w.delivery dispatchId createdAt attempts)).Consistent := by
  constructor
  · simp only [Deployment.accept, Inbox.receive, List.map_append, List.map_cons, List.map_nil, consistent.webhooks]
    rfl
  · simp only [Deployment.accept, Inbox.receive, List.map_append, List.map_cons, List.map_nil, consistent.dispatches]
    rfl
  · refine Table.nodup_append_new consistent.senders (Table.lookup_none.mpr fun other member same => unknown ?_)
    exact (knows_iff consistent).mpr ⟨other, member, same⟩
  · refine Table.nodup_append_new consistent.ids (Table.lookup_none.mpr fun other member same => ?_)
    have here : other.origin ∈ s.inbox.webhooks.map WebhookRow.origin := by
      rw [consistent.webhooks]
      exact List.mem_map_of_mem member
    obtain ⟨r, there, column⟩ := List.mem_map.mp here
    simp only [WebhookRow.origin, AcceptedWebhook.origin, Prod.mk.injEq] at column
    exact fresh.webhook r there (column.1.trans (congrArg Uuid.identifier same))

theorem Deployment.Consistent.same (consistent : s.Consistent) (inbox : t.inbox = s.inbox) (accepted : t.accepted = s.accepted) :
    t.Consistent := by
  constructor
  · rw [inbox, accepted, consistent.webhooks]
  · rw [inbox, accepted, consistent.dispatches]
  · rw [accepted]
    exact consistent.senders
  · rw [accepted]
    exact consistent.ids

theorem Deployment.Consistent.executed {c : InboxCommand} (consistent : s.Consistent) (sound : s.inbox.Sound)
    (silent : ∀ d, c ≠ .recordWebhook d) (inbox : t.inbox = c.exec s.inbox) (accepted : t.accepted = s.accepted) :
    t.Consistent := by
  obtain ⟨origins, owners⟩ := exec_columns sound silent
  constructor
  · rw [inbox, accepted, origins, consistent.webhooks]
  · rw [inbox, accepted, owners, consistent.dispatches]
  · rw [accepted]
    exact consistent.senders
  · rw [accepted]
    exact consistent.ids

theorem TaskStep.consistent (step : TaskStep site s task t) (sound : s.inbox.Sound) (consistent : s.Consistent) :
    t.Consistent := by
  cases step with
  | ingested request visit answer t case =>
    cases case with
    | accepted a payload w answer examined unknown fresh => exact consistent.accept unknown fresh
    | _ => exact consistent.same rfl rfl
  | simulated task w d sessions delivers simulates provider unknown fresh =>
    obtain ⟨dispatchId, createdAt, rfl⟩ := delivers
    exact (consistent.accept unknown fresh).same rfl rfl
  | maintained task c upkeep =>
    refine consistent.executed sound (fun d receives => ?_) rfl rfl
    rw [receives] at upkeep
    exact upkeep
  | processed inputs dispatchId m id d w event u dispatched found read ran =>
    refine consistent.executed (c := .markDispatchSucceeded dispatchId inputs.completedAt) sound (fun d receives => ?_) rfl ?_
    · cases receives
    · change u.accepted = s.accepted
      rw [ran.rest]
  | _ => exact consistent.same rfl rfl

theorem deployed_sound (site : Site) (tasks : List Task) : (deployed site tasks).inbox.Sound :=
  inbox_sound (deployed_refines site tasks).inbox

theorem deployed_consistent (site : Site) (tasks : List Task) : (deployed site tasks).Consistent := by
  refine Runs.fold_history (f := perform site) (I := fun _ s => s.Consistent) (s := {}) consistent_start
    (fun before task consistent => ?_) tasks
  exact (perform_step site task _).consistent (deployed_sound site before) consistent

end store

section receipts

/-- The gateway takes the delivery of this event id in with this task. -/
def Takes (site : Site) (providerEventId : String) (task : Task) (s : Deployment) : Bool := match task with
  | .request request visit => decide (answered site request visit s = .receipt 202 "accepted" providerEventId)
  | _ => false

/-- How often a run's senders of this event id are told that it was accepted. -/
def acceptances (site : Site) (providerEventId : String) : List Task → Deployment → Nat
  | [], _ => 0
  | task :: rest, s => (if Takes site providerEventId task s then 1 else 0) + acceptances site providerEventId rest (perform site task s)

/-- The configured merchant's delivery of this event id is in the store. -/
def Held (site : Site) (providerEventId : String) (s : Deployment) : Prop :=
  ∃ w ∈ s.accepted, site.gateway.settings.merchantId = some w.merchantId ∧ w.provider = "RAZORPAY" ∧ w.providerEventId.1 = providerEventId

theorem Held.grows {providerEventId : String} (held : Held site providerEventId s) (grows : s.Grows t) : Held site providerEventId t := by
  obtain ⟨w, here, rest⟩ := held
  obtain ⟨more, grown⟩ := grows
  exact ⟨w, by rw [grown]; exact List.mem_append_left _ here, rest⟩

variable {request : WebhookRequest} {visit : Visit} {providerEventId : String}

/-- Whoever gets a receipt finds the delivery in the store; only a first one is accepted. -/
theorem receipt_held {code : Nat} {status : String} (consistent : s.Consistent)
    (told : answered site request visit s = .receipt code status providerEventId) :
    Held site providerEventId (perform site (.request request visit) s) ∧ (Held site providerEventId s → code = 200) := by
  have case := ingest_cases site.gateway request visit s
  change Ingested site.gateway request visit s (answered site request visit s) (perform site (.request request visit) s) at case
  rw [told] at case
  obtain ⟨a, payload, w, examined, named, ⟨rfl, same, known⟩ | ⟨-, same, unknown, -⟩⟩ := case.receipt
  · rw [same]
    have authentic := examined.authentic
    obtain ⟨stored, here, sender⟩ := (knows_iff consistent).mp known
    simp only [AcceptedWebhook.sender, Prod.mk.injEq] at sender
    refine ⟨⟨stored, here, ?_, sender.1.trans authentic.provider, sender.2.2.trans named⟩, fun _ => rfl⟩
    rw [sender.2.1]
    exact authentic.merchant
  · rw [same]
    have authentic := examined.authentic
    refine ⟨⟨w, List.mem_append_right _ List.mem_cons_self, authentic.merchant, authentic.provider, named⟩, fun held => ?_⟩
    obtain ⟨stored, here, merchant, provider, event⟩ := held
    refine absurd ((knows_iff consistent).mpr ⟨stored, here, ?_⟩) unknown
    rw [AcceptedWebhook.sender, provider, event, named, authentic.provider, Option.some.inj (merchant.symm.trans authentic.merchant)]

theorem takes_held (consistent : s.Consistent) (takes : Takes site providerEventId task s = true) :
    Held site providerEventId (perform site task s) ∧ ¬ Held site providerEventId s := by
  cases task with
  | request request visit =>
    obtain ⟨stored, first⟩ := receipt_held consistent (of_decide_eq_true takes)
    exact ⟨stored, fun held => absurd (first held) (by decide)⟩
  | _ => cases takes

theorem acceptances_held (rest : List Task) (before : List Task) (held : Held site providerEventId (deployed site before)) :
    acceptances site providerEventId rest (deployed site before) = 0 := by
  induction rest generalizing before with
  | nil => rfl
  | cons task rest ih =>
    have again : ¬ Takes site providerEventId task (deployed site before) = true :=
      fun takes => (takes_held (deployed_consistent site before) takes).2 held
    rw [acceptances, if_neg again, Nat.zero_add, ← deployed_snoc]
    refine ih _ ?_
    rw [deployed_snoc]
    exact held.grows (perform_grows site task _)

theorem acceptances_le (rest : List Task) (before : List Task) : acceptances site providerEventId rest (deployed site before) ≤ 1 := by
  induction rest generalizing before with
  | nil => exact Nat.zero_le 1
  | cons task rest ih =>
    rw [acceptances]
    by_cases takes : Takes site providerEventId task (deployed site before) = true
    · have held := (takes_held (deployed_consistent site before) takes).1
      rw [← deployed_snoc] at held
      rw [if_pos takes, ← deployed_snoc, acceptances_held rest _ held]
    · rw [if_neg takes, Nat.zero_add, ← deployed_snoc]
      exact ih _

/-- A request that passes every check goes to the inbox. -/
theorem Examined.ingest {g : Gateway} {a : Admitted} {payload : Mapping} (examined : Examined g request visit s a payload w) :
    ingestRazorpayWebhook g request visit s = transact visit.store
      (recordAccepted w visit.dispatchId visit.createdAt g.settings.eventDispatchMaxAttempts)
      (disposition a.providerEventId) inboxUnavailable s := by
  unfold ingestRazorpayWebhook
  rw [admitRequest_ok.mpr examined.admitted]
  dsimp only
  rw [examined.verified]
  dsimp only
  rw [decodedPayload_ok.mpr examined.decoded]
  dsimp only
  rw [ingestVerified, examined.row]

theorem ingest_redelivered {g : Gateway} {a : Admitted} {payload : Mapping} (examined : Examined g request visit s a payload w)
    (known : s.inbox.Knows w.provider w.merchantId w.providerEventId.1) :
    ingestRazorpayWebhook g request visit s =
      (if visit.store = .up then .receipt 200 "duplicate" w.providerEventId.1 else inboxUnavailable, s) := by
  have ran (dispatchId : Uuid) (createdAt : Instant) (attempts : Nat) :
      (recordAccepted w dispatchId createdAt attempts).run s = .ok (false, s) := recordAccepted_known known
  rw [examined.ingest, (acceptedRow_of examined.row).eventId]
  cases visit.store with
  | down => rfl
  | _ =>
    unfold transact
    rw [ran]
    rfl

end receipts

section guarantee

/-- What senders can rely on. -/
structure TakenOnce (site : Site) (tasks : List Task) : Prop where
  once : ∀ providerEventId, acceptances site providerEventId tasks {} ≤ 1
  durable : ∀ before request visit after code status providerEventId, tasks = before ++ .request request visit :: after →
    answered site request visit (deployed site before) = .receipt code status providerEventId →
    ∃ w ∈ (deployed site tasks).accepted, site.gateway.settings.merchantId = some w.merchantId ∧ w.provider = "RAZORPAY" ∧
      w.providerEventId.1 = providerEventId ∧ ∃ d ∈ (deployed site tasks).inbox.dispatches, d.owner = (w.merchantId, w.id.identifier)
  single : ∀ w ∈ (deployed site tasks).accepted, ∀ w' ∈ (deployed site tasks).accepted, w.sender = w'.sender → w = w'
  repeated : ∀ w ∈ (deployed site tasks).accepted, ∀ request visit a payload w',
    Examined site.gateway request visit (deployed site tasks) a payload w' → w'.sender = w.sender →
    ingestRazorpayWebhook site.gateway request visit (deployed site tasks) =
      (if visit.store = .up then .receipt 200 "duplicate" w.providerEventId.1 else inboxUnavailable, deployed site tasks)

/-- Each delivery is taken in once, whatever is sent again, and never lost. -/
theorem taken_once (site : Site) (tasks : List Task) : TakenOnce site tasks := by
  have consistent := deployed_consistent site tasks
  refine ⟨fun providerEventId => acceptances_le tasks [], ?_, ?_, ?_⟩
  · rintro before request visit after code status providerEventId rfl told
    have held := (receipt_held (deployed_consistent site before) told).1
    rw [← deployed_snoc] at held
    have later := held.grows (performAll_grows site after (deployed site (before ++ [.request request visit])))
    rw [← deployed_append, List.append_assoc, List.singleton_append] at later
    obtain ⟨w, here, merchant, provider, event⟩ := later
    refine ⟨w, here, merchant, provider, event, ?_⟩
    have listed : (w.merchantId, w.id.identifier) ∈ (deployed site (before ++ .request request visit :: after)).accepted.map
        fun w => (w.merchantId, w.id.identifier) := List.mem_map_of_mem (f := fun w : AcceptedWebhook => (w.merchantId, w.id.identifier)) here
    rw [← consistent.dispatches] at listed
    exact List.mem_map.mp listed
  · intro w here w' there same
    exact List.inj_on_of_nodup_map consistent.senders here there same
  · intro w here request visit a payload w' examined same
    have known := (knows_iff consistent).mpr ⟨w, here, same.symm⟩
    rw [ingest_redelivered examined known, show w'.providerEventId.1 = w.providerEventId.1 from congrArg (fun x => x.2.2) same]

end guarantee

section processed

variable {box box' : Inbox} {c : InboxCommand} {d d' : DispatchRow} {event : RevenueRiskEvent}

/-- Only the end of a processing makes a dispatch a succeeded one. -/
theorem InboxStep.success (step : InboxStep box c box') (ids : (box.dispatches.map DispatchRow.id).Nodup)
    (here : d' ∈ box'.dispatches) (done : d'.state = .succeeded) :
    d' ∈ box.dispatches ∨ ∃ d ∈ box.dispatches, ∃ at_, c = .markDispatchSucceeded d.id at_ ∧ d' = d.complete at_ := by
  obtain ⟨f, fresh, rows, changed, new⟩ := step.rows ids
  rw [rows] at here
  rcases List.mem_append.mp here with kept | added
  · obtain ⟨d, member, rfl⟩ := List.mem_map.mp kept
    rcases changed d member with same | changes
    · rw [same]
      exact .inl member
    · obtain ⟨at_, ends, -, completed⟩ := changed_succeeded changes done
      exact .inr ⟨d, member, at_, ends, completed⟩
  · obtain ⟨w, -, rfl, -⟩ := new d' added
    cases done

/-- What the processing of a webhook leaves behind: the task that ran it and its event. -/
structure Handled (site : Site) (tasks : List Task) (s : Deployment) (d : DispatchRow) (w : AcceptedWebhook)
    (event : RevenueRiskEvent) : Prop where
  stored : w ∈ s.accepted
  own : d.owner = (w.merchantId, w.id.identifier)
  ran : ∃ inputs, .process inputs d.id w.merchantId w.id.identifier ∈ tasks
  read : w.normalized site.worker.depth = .ok event
  known : ∃ kept, s.database.event event.merchantId event.eventId = some kept

theorem Handled.later (handled : Handled site tasks s d w event) (step : TaskStep site s task t) :
    Handled site (tasks ++ [task]) t d w event := by
  obtain ⟨more, grown⟩ := step.grows
  obtain ⟨cs, -, ran⟩ := step.commands
  obtain ⟨inputs, taken⟩ := handled.ran
  obtain ⟨kept, known⟩ := handled.known
  constructor
  · rw [grown]
    exact List.mem_append_left _ handled.stored
  · exact handled.own
  · exact ⟨inputs, List.mem_append_left _ taken⟩
  · exact handled.read
  · refine ⟨kept, ?_⟩
    rw [ran]
    exact event_kept (execAll_events _ cs _) known

theorem dispatch_mem {dispatchId m id : Identifier} (dispatched : tenantDispatch dispatchId m id s = some d) :
    d ∈ s.inbox.dispatches ∧ d.id = dispatchId ∧ d.owner = (m, id) := by
  unfold tenantDispatch at dispatched
  have found : d.id = dispatchId ∧ d.merchantId = m ∧ d.webhookEventId = id := by
    simpa using List.find?_some dispatched
  exact ⟨List.mem_of_find?_eq_some dispatched, found.1, Prod.ext found.2.1 found.2.2⟩

/-- A dispatch succeeds in one way only. -/
theorem TaskStep.success (step : TaskStep site s task t) (sound : s.inbox.Sound) (here : d ∈ t.inbox.dispatches)
    (done : d.state = .succeeded) : d ∈ s.inbox.dispatches ∨ ∃ w event, Handled site [task] t d w event := by
  have received {w : WebhookDelivery} (here : d ∈ (s.inbox.receive w).dispatches) : d ∈ s.inbox.dispatches := by
    rcases List.mem_append.mp here with old | added
    · exact old
    · rw [List.mem_singleton.mp added] at done
      cases done
  cases step with
  | ingested request visit answer t case =>
    cases case with
    | accepted a payload w => exact .inl (received here)
    | _ => exact .inl here
  | simulated task w d' sessions => exact .inl (received here)
  | maintained task c upkeep =>
    rcases (exec_step c s.inbox).success sound.ids here done with old | ⟨d', member, at_, rfl, -⟩
    · exact .inl old
    · exact upkeep.elim
  | processed inputs dispatchId m id d' w event u dispatched found read ran persisted =>
    rcases (exec_step (.markDispatchSucceeded dispatchId inputs.completedAt) s.inbox).success sound.ids here done with
      old | ⟨row, member, at_, same, rfl⟩
    · exact .inl old
    · obtain ⟨stored, merchant, named⟩ := webhook_mem found
      obtain ⟨there, dispatch, owner⟩ := dispatch_mem dispatched
      have ids : row.id = dispatchId := (InboxCommand.markDispatchSucceeded.inj same).1.symm
      obtain rfl : row = d' := List.inj_on_of_nodup_map sound.ids member there (ids.trans dispatch.symm)
      refine .inr ⟨w, event, ?_, ?_, ⟨inputs, ?_⟩, read, persisted⟩
      · change w ∈ u.accepted
        rw [ran.rest]
        exact stored
      · rw [merchant, named]
        exact owner
      · rw [merchant, named]
        rw [← ids]
        exact List.mem_singleton_self _
  | _ => exact .inl here

theorem deployed_handled (site : Site) (tasks : List Task) : ∀ d ∈ (deployed site tasks).inbox.dispatches,
    d.state = .succeeded → ∃ w event, Handled site tasks (deployed site tasks) d w event := by
  refine Runs.fold_history (f := perform site) (I := fun tasks s => ∀ d ∈ s.inbox.dispatches, d.state = .succeeded →
    ∃ w event, Handled site tasks s d w event) (s := {}) ?_ (fun before task handled => ?_) tasks
  · intro d none
    cases none
  · intro d here done
    have step := perform_step site task (deployed site before)
    rcases step.success (deployed_sound site before) here done with old | ⟨w, event, new⟩
    · obtain ⟨w, event, earlier⟩ := handled d old done
      exact ⟨w, event, earlier.later step⟩
    · obtain ⟨inputs, taken⟩ := new.ran
      exact ⟨w, event, { new with ran := ⟨inputs, List.mem_append_right _ taken⟩ }⟩

theorem eventIdOf_inj {id id' : Uuid} (same : eventIdOf id = eventIdOf id') : id = id' := by
  have texts := congrArg (fun i : Identifier => i.val.toList) same
  simp only [eventIdOf, String.toList_append] at texts
  exact Subtype.ext (String.toList_inj.mp (List.append_cancel_left texts))

theorem handled_kept {before later : List Task} (handled : Handled site before (deployed site before) d w event) :
    Handled site (before ++ later) (deployed site (before ++ later)) d w event := by
  induction later using List.reverseRecOn with
  | nil => rwa [List.append_nil]
  | append_singleton rest task ih =>
    rw [← List.append_assoc, deployed_snoc]
    exact ih.later (perform_step site task _)

theorem deployed_event_kept {before : List Task} (later : List Task) {m id : Identifier} {row : NormalizedEvent}
    (known : (deployed site before).database.event m id = some row) :
    (deployed site (before ++ later)).database.event m id = some row := by
  induction later using List.reverseRecOn with
  | nil => rwa [List.append_nil]
  | append_singleton rest task ih =>
    rw [← List.append_assoc, deployed_snoc]
    obtain ⟨cs, -, ran⟩ := (perform_step site task (deployed site (before ++ rest))).commands
    rw [ran]
    exact event_kept (execAll_events _ cs _) ih

/-- What a succeeded dispatch stands for, whatever becomes of the dispatch itself. -/
structure Delivered (site : Site) (tasks : List Task) : Prop where
  handled : ∀ d ∈ (deployed site tasks).inbox.dispatches, d.state = .succeeded →
    ∃ w event, Handled site tasks (deployed site tasks) d w event
  kept : ∀ d w event later, Handled site tasks (deployed site tasks) d w event →
    Handled site (tasks ++ later) (deployed site (tasks ++ later)) d w event
  lasting : ∀ m id row later, (deployed site tasks).database.event m id = some row →
    (deployed site (tasks ++ later)).database.event m id = some row
  single : ∀ d w event w' event', Handled site tasks (deployed site tasks) d w event →
    Handled site tasks (deployed site tasks) d w' event' → w = w' ∧ event = event'
  stated : ∀ d w event kept, Handled site tasks (deployed site tasks) d w event →
    (deployed site tasks).database.event event.merchantId event.eventId = some kept →
    kept = event.row ∨ kept.source = .merchant

/-- A dispatch that has succeeded was run on its own webhook, and the event that its body states is the one kept. -/
theorem deployed_delivered (site : Site) (tasks : List Task) : Delivered site tasks := by
  have consistent := deployed_consistent site tasks
  have traced := deployed_traced site tasks
  have single {w w' : AcceptedWebhook} (here : w ∈ (deployed site tasks).accepted) (there : w' ∈ (deployed site tasks).accepted)
      (same : w.id = w'.id) : w = w' := List.inj_on_of_nodup_map consistent.ids here there same
  refine ⟨deployed_handled site tasks, fun d w event later => handled_kept,
    fun m id row later => deployed_event_kept later, ?_, ?_⟩
  · intro d w event w' event' handled other
    have ids := congrArg Prod.snd (handled.own.symm.trans other.own)
    obtain rfl := single handled.stored other.stored (Uuid.identifier_inj ids)
    exact ⟨rfl, Except.ok.inj (handled.read.symm.trans other.read)⟩
  · intro d w event kept handled found
    by_cases merchant : kept.source = .merchant
    · exact .inr merchant
    · have key := congrArg Prod.snd (Table.lookup_key found)
      obtain ⟨w', there, event', document, entity, read, stated, rfl⟩ := traced.events kept (Table.lookup_mem found) merchant
      obtain ⟨document', entity', own⟩ := normalized_stated handled.read
      have ids : eventIdOf w'.id = eventIdOf w.id := stated.id.symm.trans (key.trans own.id)
      obtain rfl := single there handled.stored (eventIdOf_inj ids)
      rw [Except.ok.inj (read.symm.trans handled.read)]
      exact .inl rfl

end processed

end RevenueGuard
