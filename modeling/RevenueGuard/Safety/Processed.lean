import RevenueGuard.Safety.Dispatches

/-
Processed dispatches. A success clears the lease, so while every failure is
reported by the holder of the current lease, nothing touches a finished dispatch
or its webhook but another success of it.
-/
namespace RevenueGuard

variable {s t : Inbox} {c : InboxCommand} {d : DispatchRow} {w : WebhookRow}

/-- The dispatch a failure is reported for, and the lease its reporter was handed it under. -/
def InboxCommand.report : InboxCommand → Option (Identifier × String)
  | .recordDispatchFailure holder id _ => some (id, holder)
  | .recordProcessingFailure holder id _ _ _ _ => some (id, holder)
  | _ => none

/-- Failures come from the holder of the dispatch's current lease. -/
def InboxCommand.Owned (s : Inbox) (c : InboxCommand) : Prop :=
  ∀ r ∈ c.report, ∀ d ∈ s.dispatches, d.id = r.1 → d.leaseToken = some r.2

instance (s : Inbox) (c : InboxCommand) : Decidable (c.Owned s) := by
  unfold InboxCommand.Owned
  cases c.report with
  | none => exact isTrue fun _ none => by cases none
  | some r => exact decidable_of_iff (∀ d ∈ s.dispatches, d.id = r.1 → d.leaseToken = some r.2) (by simp)

def InboxCommand.Completes (id : Identifier) : InboxCommand → Prop
  | .markDispatchSucceeded other _ => other = id
  | _ => False

/-- What a finished dispatch and its webhook look like. -/
structure Finished (s : Inbox) (d : DispatchRow) (w : WebhookRow) : Prop where
  dispatch : d ∈ s.dispatches
  succeeded : d.state = .succeeded
  webhook : w ∈ s.webhooks
  own : w.id = d.webhookEventId
  processed : w.processingState = .processed

/-- One dispatch a webhook, and every success processed its own. -/
structure Inbox.Paired (s : Inbox) : Prop where
  webhookIds : (s.webhooks.map WebhookRow.id).Nodup
  single : (s.dispatches.map (·.webhookEventId)).Nodup
  known : ∀ d ∈ s.dispatches, ∃ w ∈ s.webhooks, w.id = d.webhookEventId
  done : ∀ d ∈ s.dispatches, d.state = .succeeded → ∀ w ∈ s.webhooks, w.id = d.webhookEventId → w.processingState = .processed

section finished

/-- A row kept while another dispatch is written to. -/
theorem other_kept (ids : (s.dispatches.map DispatchRow.id).Nodup) (paired : s.Paired) (fin : Finished s d w) {d' : DispatchRow}
    (member : d' ∈ s.dispatches) (other : d' ≠ d) (f : DispatchRow → DispatchRow) (g : WebhookRow → WebhookRow) :
    Finished { webhooks := Table.update WebhookRow.id d'.webhookEventId g s.webhooks
               dispatches := Table.update DispatchRow.id d'.id f s.dispatches } d w := by
  have apart : d.id ≠ d'.id := fun same => other (List.inj_on_of_nodup_map ids member fin.dispatch same.symm)
  have elsewhere : w.id ≠ d'.webhookEventId := by
    rw [fin.own]
    exact fun same => other (List.inj_on_of_nodup_map paired.single member fin.dispatch same.symm)
  exact ⟨Table.mem_update.mpr ⟨d, fin.dispatch, .inr ⟨apart, rfl⟩⟩, fin.succeeded,
    Table.mem_update.mpr ⟨w, fin.webhook, .inr ⟨elsewhere, rfl⟩⟩, fin.own, fin.processed⟩

theorem finished_kept (sound : s.Sound) (paired : s.Paired) (fin : Finished s d w) (owned : c.Owned s)
    (silent : ¬ c.Completes d.id) : Finished (c.exec s) d w := by
  have idle : ¬ (d.state = .processing ∨ d.state = .published) := by
    rw [fin.succeeded]
    decide
  have unleased : d.leaseToken = none := (sound.rows d fin.dispatch).idle idle
  have stranger {holder : String} {d' : DispatchRow} (held : d'.leaseToken = some holder) : d' ≠ d := by
    rintro rfl
    rw [unleased] at held
    cases held
  have step := exec_step c s
  generalize c.exec s = t at step
  cases step with
  | idle c => exact fin
  | received w' =>
    exact ⟨List.mem_append_left _ fin.dispatch, fin.succeeded, List.mem_append_left _ fin.webhook, fin.own, fin.processed⟩
  | claimed tokens now leaseFor limit =>
    have untaken : d ∉ claimedRows now limit s := by
      intro taken
      rcases (mem_claimedRows taken).2.1 with ⟨waiting, -⟩ | ⟨flying, -⟩
      · rw [fin.succeeded] at waiting
        exact absurd waiting (by decide)
      · exact idle flying
    exact ⟨List.mem_map.mpr ⟨d, fin.dispatch, if_neg untaken⟩, fin.succeeded, fin.webhook, fin.own, fin.processed⟩
  | published d' member processing token task held at_ =>
    have kept := other_kept sound.ids paired fin member (stranger held) (DispatchRow.publish task at_) id
    exact { kept with webhook := fin.webhook }
  | succeeded d' member live at_ =>
    have other : d' ≠ d := fun same => silent (congrArg DispatchRow.id same)
    exact other_kept sound.ids paired fin member other _ _
  | failed holder d' member f =>
    exact other_kept sound.ids paired fin member (stranger (owned _ rfl d' member rfl)) _ _
  | reported holder d' member code detail terminal now =>
    exact other_kept sound.ids paired fin member (stranger (owned _ rfl d' member rfl)) _ _
  | requeued d' member dead at_ by_ =>
    refine other_kept sound.ids paired fin member ?_ _ _
    rintro rfl
    rw [fin.succeeded] at dead
    cases dead

/-- A success of a dispatch finishes it, again or for the first time. -/
theorem completed_finished (ids : (s.dispatches.map DispatchRow.id).Nodup) (member : d ∈ s.dispatches) (here : w ∈ s.webhooks)
    (own : w.id = d.webhookEventId) (at_ : Instant) :
    Finished (completeDispatch at_ d s) (d.complete at_) (w.processed at_) :=
  { dispatch := (Table.mem_update_found ids member).mpr (.inl rfl)
    succeeded := rfl
    webhook := Table.mem_update.mpr ⟨w, here, .inl ⟨own, rfl⟩⟩
    own := own
    processed := rfl }

theorem finished_again (sound : s.Sound) (paired : s.Paired) (fin : Finished s d w) (owned : c.Owned s) :
    ∃ d' w', d'.id = d.id ∧ w'.id = w.id ∧ Finished (c.exec s) d' w' := by
  by_cases completes : c.Completes d.id
  · cases c with
    | markDispatchSucceeded id at_ =>
      obtain rfl : id = d.id := completes
      have step := exec_step (.markDispatchSucceeded d.id at_) s
      generalize InboxCommand.exec (.markDispatchSucceeded d.id at_) s = t at step
      generalize same : d.id = id at step
      cases step with
      | idle => exact ⟨d, w, same, rfl, fin⟩
      | succeeded d' member =>
        obtain rfl := List.inj_on_of_nodup_map sound.ids fin.dispatch member same
        exact ⟨d.complete at_, w.processed at_, rfl, rfl, completed_finished sound.ids fin.dispatch fin.webhook fin.own at_⟩
    | _ => exact completes.elim
  · exact ⟨d, w, rfl, rfl, finished_kept sound paired fin owned completes⟩

end finished

section pairing

theorem fail_webhook (f : DispatchFailure) (d : DispatchRow) : (d.fail f).webhookEventId = d.webhookEventId := by
  unfold DispatchRow.fail
  dsimp only
  split <;> rfl

theorem InboxStep.paired (step : InboxStep s c t) (ids : (s.dispatches.map DispatchRow.id).Nodup) (paired : s.Paired) : (t.webhooks.map WebhookRow.id).Nodup ∧
    (t.dispatches.map (·.webhookEventId)).Nodup ∧ ∀ d ∈ t.dispatches, ∃ w ∈ t.webhooks, w.id = d.webhookEventId := by
  have written {k k' : Identifier} {f : DispatchRow → DispatchRow} {g : WebhookRow → WebhookRow}
      (keeps : ∀ r ∈ s.dispatches, r.id = k → (f r).webhookEventId = r.webhookEventId) (named : ∀ r, (g r).id = r.id) :
      ((Table.update WebhookRow.id k' g s.webhooks).map WebhookRow.id).Nodup ∧
        ((Table.update DispatchRow.id k f s.dispatches).map (·.webhookEventId)).Nodup ∧
        ∀ d ∈ Table.update DispatchRow.id k f s.dispatches, ∃ w ∈ Table.update WebhookRow.id k' g s.webhooks,
          w.id = d.webhookEventId := by
    refine ⟨?_, ?_, fun d member => ?_⟩
    · rw [Table.map_update fun r _ => named r]
      exact paired.webhookIds
    · have same : (Table.update DispatchRow.id k f s.dispatches).map DispatchRow.webhookEventId =
          s.dispatches.map DispatchRow.webhookEventId := by
        rw [Table.update, List.map_map]
        refine List.map_congr_left fun r there => ?_
        simp only [Function.comp_apply]
        split
        · rename_i here
          exact keeps r there here
        · rfl
      rw [same]
      exact paired.single
    · obtain ⟨r, there, how⟩ := Table.mem_update.mp member
      obtain ⟨w, here, own⟩ := paired.known r there
      have named' : d.webhookEventId = r.webhookEventId := by
        rcases how with ⟨here, rfl⟩ | ⟨-, rfl⟩
        · exact keeps r there here
        · rfl
      by_cases touched : w.id = k'
      · exact ⟨g w, Table.mem_update.mpr ⟨w, here, .inl ⟨touched, rfl⟩⟩, (named w).trans (own.trans named'.symm)⟩
      · exact ⟨w, Table.mem_update.mpr ⟨w, here, .inr ⟨touched, rfl⟩⟩, own.trans named'.symm⟩
  cases step with
  | idle c => exact ⟨paired.webhookIds, paired.single, paired.known⟩
  | received w newWebhook newDispatch attempts =>
    refine ⟨Table.nodup_append_new paired.webhookIds (Table.lookup_none.mpr newWebhook), ?_, fun d member => ?_⟩
    · refine Table.nodup_append_new paired.single (Table.lookup_none.mpr fun d member same => ?_)
      obtain ⟨r, here, own⟩ := paired.known d member
      exact newWebhook r here (own.trans same)
    · rcases List.mem_append.mp member with old | new
      · obtain ⟨r, here, own⟩ := paired.known d old
        exact ⟨r, List.mem_append_left _ here, own⟩
      · rw [List.mem_singleton.mp new]
        exact ⟨w.webhook, List.mem_append_right _ List.mem_cons_self, rfl⟩
  | claimed tokens now leaseFor limit =>
    have same : (claimRows tokens now leaseFor limit s).dispatches.map (·.webhookEventId) =
        s.dispatches.map (·.webhookEventId) := by
      simp only [claimRows, List.map_map]
      refine List.map_congr_left fun d _ => ?_
      simp only [Function.comp_apply]
      split <;> rfl
    refine ⟨paired.webhookIds, by rw [same]; exact paired.single, fun d member => ?_⟩
    obtain ⟨r, there, rfl⟩ := List.mem_map.mp member
    obtain ⟨w, here, own⟩ := paired.known r there
    refine ⟨w, here, own.trans ?_⟩
    split <;> rfl
  | published d member processing token task held at_ =>
    have untouched : Table.update WebhookRow.id d.webhookEventId id s.webhooks = s.webhooks := by simp [Table.update]
    have both : (s.webhooks.map WebhookRow.id).Nodup ∧
        ((Table.update DispatchRow.id d.id (DispatchRow.publish task at_) s.dispatches).map (·.webhookEventId)).Nodup ∧
        ∀ r ∈ Table.update DispatchRow.id d.id (DispatchRow.publish task at_) s.dispatches, ∃ w ∈ s.webhooks,
          w.id = r.webhookEventId := by
      rw [← untouched]
      exact written (fun _ _ _ => rfl) fun _ => rfl
    exact both
  | succeeded => exact written (fun _ _ _ => rfl) fun _ => rfl
  | failed holder d member f =>
    refine written (fun r there same => ?_) fun _ => rfl
    rw [List.inj_on_of_nodup_map ids there member same, fail_webhook]
  | reported holder d member code detail terminal now =>
    refine written (fun r there same => ?_) fun _ => rfl
    rw [List.inj_on_of_nodup_map ids there member same, fail_webhook]
    rfl
  | requeued => exact written (fun _ _ _ => rfl) fun _ => rfl

/-- Only a success makes a dispatch SUCCEEDED. -/
theorem changed_succeeded {d' : DispatchRow} (changed : d.Changed s c d') (succeeded : d'.state = .succeeded) :
    ∃ at_, c = .markDispatchSucceeded d.id at_ ∧ d.state ≠ .deadLetter ∧ d' = d.complete at_ := by
  have failing {r : DispatchRow} {f : DispatchFailure} (impossible : (r.fail f).state = .succeeded) : False := by
    unfold DispatchRow.fail at impossible
    dsimp only at impossible
    split at impossible <;> cases impossible
  cases changed with
  | claimed => cases succeeded
  | published => cases succeeded
  | succeeded live => exact ⟨_, rfl, live, rfl⟩
  | failed => exact (failing succeeded).elim
  | reported => exact (failing succeeded).elim
  | requeued => cases succeeded

theorem markDispatchSucceeded_run {at_ : Instant} (found : Table.lookup DispatchRow.id d.id s.dispatches = some d)
    (live : d.state ≠ .deadLetter) : (markDispatchSucceeded d.id at_).run s = .ok (true, completeDispatch at_ d s) := by
  refine (Tx.bind_of_ok rfl).trans ?_
  dsimp only
  rw [found]
  dsimp only
  rw [if_neg live]
  rfl

theorem exec_paired (sound : s.Sound) (paired : s.Paired) (owned : c.Owned s) : (c.exec s).Paired := by
  have step := exec_step c s
  obtain ⟨webhookIds, single, known⟩ := step.paired sound.ids paired
  refine ⟨webhookIds, single, known, fun d' member succeeded w' here own => ?_⟩
  have only {w : WebhookRow} (fin : Finished (c.exec s) d' w) : w'.processingState = .processed := by
    rw [List.inj_on_of_nodup_map webhookIds here fin.webhook (own.trans fin.own.symm)]
    exact fin.processed
  obtain ⟨f, fresh, rows, kept, new⟩ := step.rows sound.ids
  rw [rows] at member
  rcases List.mem_append.mp member with old | made
  · obtain ⟨d, there, same⟩ := List.mem_map.mp old
    obtain ⟨w, stored, paying⟩ := paired.known d there
    rcases kept d there with unchanged | changed
    · -- It was SUCCEEDED before: the command leaves it, or completes it once more.
      obtain rfl : d = d' := unchanged.symm.trans same
      have fin : Finished s d w := ⟨there, succeeded, stored, paying, paired.done d there succeeded w stored paying⟩
      by_cases completes : c.Completes d.id
      · obtain ⟨d2, w2, sameId, -, again⟩ := finished_again sound paired fin owned
        have present : d ∈ (c.exec s).dispatches := by
          rw [rows]
          exact member
        have equal := List.inj_on_of_nodup_map (step.ids sound.ids) again.dispatch present sameId
        rw [equal] at again
        exact only again
      · exact only (finished_kept sound paired fin owned completes)
    · rw [same] at changed
      obtain ⟨at_, rfl, live, rfl⟩ := changed_succeeded changed succeeded
      have ran : (InboxCommand.markDispatchSucceeded d.id at_).exec s = completeDispatch at_ d s :=
        Tx.commit_of_ok (markDispatchSucceeded_run (Table.lookup_of_mem sound.ids there) live)
      rw [ran] at only
      exact only (completed_finished sound.ids there stored paying at_)
  · obtain ⟨delivery, -, rfl, -⟩ := new d' made
    cases succeeded

theorem paired_invariant (reach : InboxReachable (fun c s => c.Owned s) s) : s.Paired :=
  (reach.invariant (fun s => s.Sound ∧ s.Paired)
    ⟨⟨List.nodup_nil, fun _ missing => (List.not_mem_nil missing).elim⟩, List.nodup_nil, List.nodup_nil,
      fun _ missing => (List.not_mem_nil missing).elim, fun _ missing => (List.not_mem_nil missing).elim⟩
    fun c _ ⟨sound, paired⟩ owned => ⟨exec_sound c sound, exec_paired sound paired owned⟩).2

end pairing

section runs

/-- A report always marks a dispatch that is not already failed. -/
theorem report_alters (sound : s.Sound) {r : Identifier × String} (reports : r ∈ c.report) (member : d ∈ s.dispatches)
    (here : d.id = r.1) (open_ : d.state ≠ .retryScheduled ∧ d.state ≠ .deadLetter) : d ∉ (c.exec s).dispatches := by
  have found := Table.lookup_of_mem sound.ids member
  have altered {q : DispatchRow} (f : DispatchFailure) (same : q.id = d.id) : d ∉ (failDispatch f q s).dispatches := by
    intro kept
    obtain ⟨x, -, ⟨-, failed⟩ | ⟨apart, rfl⟩⟩ := Table.mem_update.mp kept
    · rw [failed] at open_
      unfold DispatchRow.fail at open_
      dsimp only at open_
      split at open_
      · exact open_.2 rfl
      · exact open_.1 rfl
    · exact apart same.symm
  cases c with
  | recordDispatchFailure holder id f =>
    cases reports
    obtain rfl : d.id = id := here
    rw [InboxCommand.exec, Tx.commit_of_ok (recordDispatchFailure_run found)]
    exact altered f rfl
  | recordProcessingFailure holder id code detail terminal now =>
    cases reports
    obtain rfl : d.id = id := here
    rw [InboxCommand.exec, Tx.commit_of_ok (recordProcessingFailure_run found)]
    exact altered _ rfl
  | _ => cases reports

theorem processed_stays (reach : InboxReachable (fun c s => c.Owned s) s) :
    (∀ d ∈ s.dispatches, d.state = .succeeded → ∃ w, Finished s d w) ∧
    (∀ d w, Finished s d w → ∀ c : InboxCommand, c.Owned s → (¬ c.Completes d.id → Finished (c.exec s) d w) ∧
      ∃ d' w', d'.id = d.id ∧ w'.id = w.id ∧ Finished (c.exec s) d' w') ∧
    ∀ c : InboxCommand, ∀ r ∈ c.report, ∀ d ∈ s.dispatches, d.id = r.1 → d.state ≠ .retryScheduled ∧ d.state ≠ .deadLetter →
      d ∉ (c.exec s).dispatches := by
  have sound := inbox_sound reach
  have paired := paired_invariant reach
  refine ⟨fun d member succeeded => ?_, fun d w fin c owned => ⟨finished_kept sound paired fin owned,
    finished_again sound paired fin owned⟩, fun c r reports d member here open_ => report_alters sound reports member here open_⟩
  obtain ⟨w, here, own⟩ := paired.known d member
  exact ⟨w, member, succeeded, here, own, paired.done d member succeeded w here own⟩

/-- Claimed, published and processed, while the publisher still believes that the broker refused it. -/
def processedOnce : List InboxCommand :=
  [delivered 5, claimAt 10 "lease-1", .markDispatchPublished (ident "dispatch-1") "lease-1" "task-1" (seconds 11),
    .markDispatchSucceeded (ident "dispatch-1") (seconds 12)]

theorem processed_stays_claimed : ∃ d w, Finished (InboxCommand.execAll processedOnce {}) d w ∧
    Finished ((claimAt 80 "lease-2").exec (InboxCommand.execAll processedOnce {})) d w := by
  have reach : InboxReachable (fun c s => c.Owned s) (InboxCommand.execAll processedOnce {}) :=
    Runs.reaches_allowed (by decide +kernel)
  obtain ⟨done, kept, -⟩ := processed_stays reach
  have succeeded : ∃ d ∈ (InboxCommand.execAll processedOnce {}).dispatches, d.state = .succeeded := by decide +kernel
  obtain ⟨d, member, succeeded⟩ := succeeded
  obtain ⟨w, fin⟩ := done d member succeeded
  exact ⟨d, w, fin, (kept d w fin (claimAt 80 "lease-2") (fun _ silent => by cases silent)).1 fun impossible => impossible⟩

/-- The failure report of a publisher whose lease the success has cleared. -/
def lateReport : InboxCommand :=
  .recordProcessingFailure "lease-1" (ident "dispatch-1") "BROKER_PUBLISH_FAILED" "broker publication failed" false (seconds 13)

theorem processed_regresses : ¬ ∀ s, InboxReachable (fun _ _ => True) s → ∀ d w, Finished s d w → ∀ c : InboxCommand,
    ¬ c.Completes d.id → Finished (c.exec s) d w := by
  intro stays
  have reach : InboxReachable (fun _ _ => True) (InboxCommand.execAll processedOnce {}) :=
    Runs.reaches_allowed (by decide +kernel)
  have regressed : ∃ d ∈ (InboxCommand.execAll processedOnce {}).dispatches, d.state = .succeeded ∧
      ∃ w ∈ (InboxCommand.execAll processedOnce {}).webhooks, w.id = d.webhookEventId ∧ w.processingState = .processed ∧
        d ∉ (lateReport.exec (InboxCommand.execAll processedOnce {})).dispatches := by
    decide +kernel
  obtain ⟨d, member, succeeded, w, here, own, processed, gone⟩ := regressed
  exact gone (stays _ reach d w ⟨member, succeeded, here, own, processed⟩ lateReport fun impossible => impossible).dispatch

end runs

end RevenueGuard
