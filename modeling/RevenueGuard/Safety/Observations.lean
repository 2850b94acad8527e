import RevenueGuard.Safety.Refinement

/-
Payment outcomes are counted once. Whatever is delivered again or processed again, the
observations that degradation is measured on hold one row for each provider event of a
merchant, drawn from a stored webhook of that merchant, and keep it.
-/
namespace RevenueGuard

variable {site : Site} {s t u : Deployment} {task : Task} {tasks : List Task} {w : AcceptedWebhook} {event : RevenueRiskEvent}

/-- Whose outcome a row is, and from which provider event. -/
def ObservationRow.source (r : ObservationRow) : Identifier × String := (r.observation.merchantId, r.sourceEventId.1)

section counting

/-- A webhook's task adds its own observation, where its event has none, and nothing else. -/
def Counts (table : UpperTable) (w : AcceptedWebhook) (event : RevenueRiskEvent) (s t : Deployment) : Prop :=
  t.observations = s.observations ∨
    ∃ row, paymentOutcomeObservation table event w.providerEventId w.rawPayload = some row ∧
      (∀ r ∈ s.observations, r.source ≠ row.source) ∧ t.observations = s.observations ++ [row]

variable {table : UpperTable}

theorem Counts.trans (first : Counts table w event s t) (second : Counts table w event t u) : Counts table w event s u := by
  rcases first with same | ⟨row, own, absent, added⟩
  · rcases second with same' | ⟨row', own', absent', added'⟩
    · exact .inl (same'.trans same)
    · rw [same] at absent' added'
      exact .inr ⟨row', own', absent', added'⟩
  · rcases second with same' | ⟨row', own', absent', added'⟩
    · exact .inr ⟨row, own, absent, same'.trans added⟩
    · obtain rfl := Option.some.inj (own.symm.trans own')
      have here : row ∈ t.observations := by
        rw [added]
        exact List.mem_append_right _ List.mem_cons_self
      exact absurd rfl (absent' row here)

theorem counts_closed : Tx.Closed (Counts table w event) := ⟨fun _ => .inl rfl, Counts.trans⟩

/-- The services' tables hold no observations. -/
theorem served_counts {A : Type} (x : Transaction A) : Tx.Keeps (served x) (Counts table w event) := by
  intro s a t h
  obtain ⟨db, ran, rfl⟩ := Tx.on_ok h
  exact .inl rfl

theorem ifGiven_counts {A : Type} (subject : Option A) {f : A → Processing Unit}
    (each : ∀ a, subject = some a → Tx.Keeps (f a) (Counts table w event)) : Tx.Keeps (ifGiven subject f) (Counts table w event) := by
  cases subject with
  | none => exact counts_closed.pure _
  | some a => exact each a rfl

theorem recordPaymentObservation_counts {row : ObservationRow}
    (own : paymentOutcomeObservation table event w.providerEventId w.rawPayload = some row) :
    Tx.Keeps (recordPaymentObservation row) (Counts table w event) := by
  intro s created t h
  obtain ⟨known, _, read, h⟩ := Tx.bind_ok h
  obtain ⟨seen, rfl⟩ := Tx.read_ok read
  split at h
  · obtain ⟨-, rfl⟩ := Tx.pure_ok h
    exact .inl rfl
  · rename_i unknown
    obtain ⟨taken, _, read, h⟩ := Tx.bind_ok h
    obtain ⟨-, rfl⟩ := Tx.read_ok read
    obtain ⟨_, _, checked, h⟩ := Tx.bind_ok h
    obtain ⟨-, rfl⟩ := Tx.check_ok checked
    obtain ⟨_, _, written, h⟩ := Tx.bind_ok h
    obtain ⟨-, rfl⟩ := Tx.pure_ok h
    rw [Tx.write_ok written]
    refine .inr ⟨row, own, fun r here same => unknown ?_, rfl⟩
    rw [seen]
    refine List.any_eq_true.mpr ⟨r, here, decide_eq_true ⟨congrArg Prod.fst same, Subtype.ext (congrArg Prod.snd same)⟩⟩

theorem applyAssessment_counts (rt : Runtime) (policy : DegradationPolicy) (a : DegradationAssessment) :
    Tx.Keeps (applyAssessment rt policy a) (Counts table w event) :=
  counts_closed.bind (counts_closed.found _ _) fun evaluatedAt => served_counts _

theorem observeAndEvaluate_counts (rt : Runtime) (policy : DegradationPolicy) {row : ObservationRow} (evaluatedAt : Instant)
    (own : paymentOutcomeObservation table event w.providerEventId w.rawPayload = some row) :
    Tx.Keeps (observeAndEvaluate rt policy row evaluatedAt) (Counts table w event) := by
  refine counts_closed.bind (served_counts _) fun _ => counts_closed.bind (recordPaymentObservation_counts own) fun created =>
    counts_closed.bind (counts_closed.lift _) fun _ => counts_closed.bind (counts_closed.read _) fun _ =>
      counts_closed.bind (counts_closed.lift _) fun assessments => ?_
  split
  · exact counts_closed.pure _
  · exact counts_closed.bind (counts_closed.each (fun a => applyAssessment_counts rt policy a.toDegradationAssessment) assessments)
      fun _ => counts_closed.pure _

theorem upsertProviderEntities_counts (upper : UpperTable) (document : Mapping) :
    Tx.Keeps (upsertProviderEntities upper event document) (Counts table w event) :=
  counts_closed.bind (ifGiven_counts _ fun _ _ => served_counts _) fun _ =>
    counts_closed.bind (ifGiven_counts _ fun _ _ => served_counts _) fun _ => ifGiven_counts _ fun _ _ => served_counts _

theorem processAccepted_counts {worker : Worker} {inputs : ProcessingInputs} {x : Unit}
    (h : (processAccepted worker inputs w).run s = .ok (x, t)) :
    ∃ event, w.normalized worker.depth = .ok event ∧ Counts worker.upper w event s t := by
  obtain ⟨event, _, lifted, h⟩ := Tx.bind_ok h
  obtain ⟨normal, rfl⟩ := Tx.lift_ok lifted
  have read := reported_ok normal
  have steps : Tx.Keeps _ (Counts worker.upper w event) :=
    counts_closed.bind (upsertProviderEntities_counts worker.upper w.rawPayload) fun _ =>
      counts_closed.bind (served_counts (persistNormalizedEvent event.row)) fun _ =>
        counts_closed.bind (ifGiven_counts (paymentOutcomeObservation worker.upper event w.providerEventId w.rawPayload)
          fun row own => observeAndEvaluate_counts worker.runtime worker.degradation event.receivedAt own) fun _ =>
          counts_closed.bind (served_counts (processEvent worker.runtime inputs.evaluation event.merchantId event.eventId
            inputs.newCaseId inputs.evaluatedAt)) fun _ =>
            counts_closed.bind (served_counts (verifySignedEvent worker.runtime event w.id.identifier)) fun _ =>
              counts_closed.pure ()
  exact ⟨event, read, steps _ _ _ h⟩

end counting

section tasks

/-- What any task does to the observations. -/
def Tallied (site : Site) (s t : Deployment) : Prop :=
  t.observations = s.observations ∨
    ∃ w ∈ s.accepted, ∃ event row, w.normalized site.worker.depth = .ok event ∧
      paymentOutcomeObservation site.worker.upper event w.providerEventId w.rawPayload = some row ∧
      (∀ r ∈ s.observations, r.source ≠ row.source) ∧ t.observations = s.observations ++ [row]

theorem processPending_tallied {inputs : ProcessingInputs} {dispatchId m id : Identifier} {out : ProcessingStatus}
    (h : (processPending site.worker inputs dispatchId m id).run s = .ok (out, t)) : Tallied site s t := by
  obtain ⟨found, _, read, h⟩ := Tx.bind_ok h
  obtain ⟨rfl, rfl⟩ := Tx.read_ok read
  obtain ⟨w, _, got, h⟩ := Tx.bind_ok h
  obtain ⟨found, rfl⟩ := Tx.found_ok got
  obtain ⟨_, u, worked, h⟩ := Tx.bind_ok h
  obtain ⟨_, _, ended, h⟩ := Tx.bind_ok h
  obtain ⟨-, rfl⟩ := Tx.pure_ok h
  obtain ⟨box, marked, rfl⟩ := Tx.on_ok ended
  obtain ⟨event, read, counts⟩ := processAccepted_counts worked
  rcases counts with same | ⟨row, own, absent, added⟩
  · exact .inl same
  · exact .inr ⟨w, (webhook_mem found).1, event, row, read, own, absent, added⟩

theorem processWebhookEvent_tallied (inputs : ProcessingInputs) (dispatchId m id : Identifier) :
    Tallied site s (perform site (.process inputs dispatchId m id) s) := by
  change Tallied site s ((processWebhookEvent site.worker inputs dispatchId m id).commit s)
  refine Tx.commit_relates (R := fun s t => Tallied site s t) (.inl rfl) fun h => ?_
  obtain ⟨found, _, read, h⟩ := Tx.bind_ok h
  obtain ⟨rfl, rfl⟩ := Tx.read_ok read
  obtain ⟨d, _, got, h⟩ := Tx.bind_ok h
  obtain ⟨dispatched, rfl⟩ := Tx.found_ok got
  split at h
  · obtain ⟨-, rfl⟩ := Tx.pure_ok h
    exact .inl rfl
  · obtain ⟨-, rfl⟩ := Tx.pure_ok h
    exact .inl rfl
  · exact processPending_tallied h

/-- Only a webhook's task observes. -/
theorem TaskStep.unobserved (step : TaskStep site s task t) (other : ∀ inputs dispatchId m id, task ≠ .process inputs dispatchId m id) :
    t.observations = s.observations := by
  cases step with
  | ingested request visit answer t case => cases case <;> rfl
  | processed inputs dispatchId m id => exact absurd rfl (other inputs dispatchId m id)
  | _ => rfl

theorem perform_tallied (site : Site) (task : Task) (s : Deployment) : Tallied site s (perform site task s) := by
  cases task with
  | process inputs dispatchId m id => exact processWebhookEvent_tallied inputs dispatchId m id
  | _ => exact .inl ((perform_step site _ s).unobserved fun _ _ _ _ same => by cases same)

theorem performAll_observed (site : Site) (tasks : List Task) (s : Deployment) :
    s.observations <+: (performAll site tasks s).observations := by
  refine Runs.fold_relates (f := perform site) (R := fun s t : Deployment => s.observations <+: t.observations)
    (fun s => List.prefix_refl _) List.IsPrefix.trans (fun task s => ?_) tasks s
  rcases perform_tallied site task s with same | ⟨w, -, event, row, -, -, -, added⟩
  · rw [same]
  · rw [added]
    exact List.prefix_append _ _

end tasks

section runs

/-- What the observations of a run are. -/
structure ObservedOnce (site : Site) (tasks : List Task) (s : Deployment) : Prop where
  once : (s.observations.map ObservationRow.source).Nodup
  drawn : ∀ r ∈ s.observations, ∃ w ∈ s.accepted, ∃ event, w.normalized site.worker.depth = .ok event ∧
    paymentOutcomeObservation site.worker.upper event w.providerEventId w.rawPayload = some r
  kept : ∀ before after, tasks = before ++ after → (deployed site before).observations <+: s.observations

theorem deployed_drawn (site : Site) (tasks : List Task) : ((deployed site tasks).observations.map ObservationRow.source).Nodup ∧
    ∀ r ∈ (deployed site tasks).observations, ∃ w ∈ (deployed site tasks).accepted, ∃ event,
      w.normalized site.worker.depth = .ok event ∧
        paymentOutcomeObservation site.worker.upper event w.providerEventId w.rawPayload = some r := by
  refine Runs.fold_history (f := perform site) (I := fun _ s => (s.observations.map ObservationRow.source).Nodup ∧
    ∀ r ∈ s.observations, ∃ w ∈ s.accepted, ∃ event, w.normalized site.worker.depth = .ok event ∧
      paymentOutcomeObservation site.worker.upper event w.providerEventId w.rawPayload = some r) (s := {}) ?_
    (fun before task earlier => ?_) tasks
  · exact ⟨List.nodup_nil, fun r none => absurd none List.not_mem_nil⟩
  · obtain ⟨once, drawn⟩ := earlier
    obtain ⟨more, grown⟩ := perform_grows site task (Runs.fold (perform site) before {})
    have stays {w : AcceptedWebhook} (here : w ∈ (Runs.fold (perform site) before {}).accepted) :
        w ∈ (perform site task (Runs.fold (perform site) before {})).accepted := by
      rw [grown]
      exact List.mem_append_left _ here
    rcases perform_tallied site task (Runs.fold (perform site) before {}) with same | ⟨w, stored, event, row, read, own, absent, added⟩
    · rw [same]
      refine ⟨once, fun r here => ?_⟩
      obtain ⟨w, stored, rest⟩ := drawn r here
      exact ⟨w, stays stored, rest⟩
    · rw [added]
      refine ⟨Table.nodup_append_new once (Table.lookup_none.mpr absent), fun r here => ?_⟩
      rcases List.mem_append.mp here with old | new
      · obtain ⟨w, stored, rest⟩ := drawn r old
        exact ⟨w, stays stored, rest⟩
      · rw [List.mem_singleton.mp new]
        exact ⟨w, stays stored, event, read, own⟩

/-- However often events are delivered and processed, degradation is measured on each of them once. -/
theorem observed_once (site : Site) (tasks : List Task) : ObservedOnce site tasks (deployed site tasks) := by
  obtain ⟨once, drawn⟩ := deployed_drawn site tasks
  refine ⟨once, drawn, ?_⟩
  rintro before after rfl
  rw [deployed_append]
  exact performAll_observed site after (deployed site before)

end runs

end RevenueGuard
