import RevenueGuard.Store.Dispatches

/-
What one command does to the inbox, and what holds of every dispatch row
whatever the order of claims, publications, crashes, results and replays.
-/
namespace RevenueGuard

variable {s t : Inbox} {c : InboxCommand} {d : DispatchRow}

section steps

/-- The rows a claim takes become its own. -/
def claimRows (tokens : Identifier → String) (now : Instant) (leaseFor : Int) (limit : Nat) (s : Inbox) : Inbox :=
  { s with dispatches := s.dispatches.map fun d =>
      if d ∈ claimedRows now limit s then d.claim (tokens d.id) now leaseFor else d }

/-- The inbox after a success of `d`. -/
def completeDispatch (completedAt : Instant) (d : DispatchRow) (s : Inbox) : Inbox :=
  { webhooks := Table.update WebhookRow.id d.webhookEventId (WebhookRow.processed completedAt) s.webhooks
    dispatches := Table.update DispatchRow.id d.id (DispatchRow.complete completedAt) s.dispatches }

/-- The inbox after a requeue of `d`. -/
def requeueDispatch (replayedAt : Instant) (replayedBy : String) (d : DispatchRow) (s : Inbox) : Inbox :=
  { webhooks := Table.update WebhookRow.id d.webhookEventId (fun w => { w with processingState := .pending }) s.webhooks
    dispatches := Table.update DispatchRow.id d.id (DispatchRow.requeue replayedAt replayedBy) s.dispatches }

/-- Everything a command can do. -/
inductive InboxStep (s : Inbox) : InboxCommand → Inbox → Prop
  | idle (c : InboxCommand) : InboxStep s c s
  | received (w : WebhookDelivery) (newWebhook : ∀ r ∈ s.webhooks, r.id ≠ w.eventId)
      (newDispatch : ∀ d ∈ s.dispatches, d.id ≠ w.dispatchId) (attempts : 0 < w.maxDispatchAttempts) :
      InboxStep s (.recordWebhook w) { webhooks := s.webhooks ++ [w.webhook], dispatches := s.dispatches ++ [w.dispatch] }
  | claimed (tokens : Identifier → String) (now : Instant) (leaseFor : Int) (limit : Nat) :
      InboxStep s (.claimDispatches tokens now leaseFor limit) (claimRows tokens now leaseFor limit s)
  | published (d : DispatchRow) (member : d ∈ s.dispatches) (processing : d.state = .processing) (token task : String)
      (held : d.leaseToken = some token) (at_ : Instant) : InboxStep s (.markDispatchPublished d.id token task at_)
        { s with dispatches := Table.update DispatchRow.id d.id (DispatchRow.publish task at_) s.dispatches }
  | succeeded (d : DispatchRow) (member : d ∈ s.dispatches) (live : d.state ≠ .deadLetter) (at_ : Instant) :
      InboxStep s (.markDispatchSucceeded d.id at_) (completeDispatch at_ d s)
  | failed (holder : String) (d : DispatchRow) (member : d ∈ s.dispatches) (f : DispatchFailure) :
      InboxStep s (.recordDispatchFailure holder d.id f) (failDispatch f d s)
  | reported (holder : String) (d : DispatchRow) (member : d ∈ s.dispatches) (code detail : String) (terminal : Bool)
      (now : Instant) : InboxStep s (.recordProcessingFailure holder d.id code detail terminal now)
        (failDispatch (processingFailure now code detail d) (d.spend terminal) s)
  | requeued (d : DispatchRow) (member : d ∈ s.dispatches) (dead : d.state = .deadLetter) (at_ : Instant) (by_ : String) :
      InboxStep s (.requeueDeadLetter d.id at_ by_) (requeueDispatch at_ by_ d s)

/-- A report first writes what it spent, then the failure over it. -/
theorem failDispatch_spent (f : DispatchFailure) (terminal : Bool) (d : DispatchRow) (s : Inbox) :
    failDispatch f (d.spend terminal)
      { s with dispatches := Table.update DispatchRow.id d.id (DispatchRow.spend terminal) s.dispatches } =
      failDispatch f (d.spend terminal) s := by
  have keeps : Table.KeepsKey DispatchRow.id d.id (DispatchRow.spend terminal) := fun _ same => same
  simp only [failDispatch]
  rw [show (d.spend terminal).id = d.id from rfl, Table.update_update keeps]
  rfl

theorem recordDispatchFailure_run {f : DispatchFailure} (found : Table.lookup DispatchRow.id d.id s.dispatches = some d) :
    (recordDispatchFailure d.id f).run s = .ok ((d.fail f).state, failDispatch f d s) := by
  refine (Tx.bind_of_ok rfl).trans ((Tx.bind_of_ok (t := s) (a := d) ?_).trans rfl)
  dsimp only
  rw [found]
  rfl

theorem recordProcessingFailure_run {code detail : String} {terminal : Bool} {now : Instant}
    (found : Table.lookup DispatchRow.id d.id s.dispatches = some d) :
    (recordProcessingFailure d.id code detail terminal now).run s =
      .ok (((d.spend terminal).fail (processingFailure now code detail d)).state,
        failDispatch (processingFailure now code detail d) (d.spend terminal) s) := by
  refine (Tx.bind_of_ok rfl).trans ((Tx.bind_of_ok (t := s) (a := d) ?_).trans ((Tx.bind_of_ok rfl).trans ?_))
  · dsimp only
    rw [found]
    rfl
  · have keeps : Table.KeepsKey DispatchRow.id d.id (DispatchRow.spend terminal) := fun _ same => same
    have spent : Table.lookup DispatchRow.id (d.spend terminal).id
        (Table.update DispatchRow.id d.id (DispatchRow.spend terminal) s.dispatches) = some (d.spend terminal) := by
      rw [show (d.spend terminal).id = d.id from rfl, Table.lookup_update_self keeps, found]
      rfl
    have failed := recordDispatchFailure_run (f := processingFailure now code detail d)
      (s := { s with dispatches := Table.update DispatchRow.id d.id (DispatchRow.spend terminal) s.dispatches }) spent
    rw [failDispatch_spent] at failed
    exact failed

theorem exec_step (c : InboxCommand) (s : Inbox) : InboxStep s c (c.exec s) := by
  cases c with
  | recordWebhook w =>
    refine Tx.commit_relates (R := fun s t => InboxStep s (.recordWebhook w) t) (.idle _) fun h => ?_
    obtain ⟨known, _, read, h⟩ := Tx.bind_ok h
    obtain ⟨-, rfl⟩ := Tx.read_ok read
    split at h
    · obtain ⟨-, rfl⟩ := Tx.pure_ok h
      exact .idle _
    · obtain ⟨fresh, _, read, h⟩ := Tx.bind_ok h
      obtain ⟨rfl, rfl⟩ := Tx.read_ok read
      obtain ⟨_, _, checked, h⟩ := Tx.bind_ok h
      obtain ⟨new, rfl⟩ := Tx.check_ok checked
      obtain ⟨_, _, checked, h⟩ := Tx.bind_ok h
      obtain ⟨attempts, rfl⟩ := Tx.check_ok checked
      obtain ⟨_, _, written, h⟩ := Tx.bind_ok h
      obtain ⟨-, rfl⟩ := Tx.pure_ok h
      obtain ⟨newWebhook, newDispatch⟩ := of_decide_eq_true new
      rw [Tx.write_ok written]
      exact .received w (Table.lookup_none.mp newWebhook) (Table.lookup_none.mp newDispatch) attempts
  | claimDispatches tokens now leaseFor limit => exact .claimed tokens now leaseFor limit
  | markDispatchPublished id token task at_ =>
    refine Tx.commit_relates (R := fun s t => InboxStep s (.markDispatchPublished id token task at_) t) (.idle _) fun h => ?_
    obtain ⟨row, _, read, h⟩ := Tx.bind_ok h
    obtain ⟨found, rfl⟩ := Tx.read_ok read
    cases row with
    | none =>
      obtain ⟨-, rfl⟩ := Tx.pure_ok h
      exact .idle _
    | some d =>
      obtain rfl := Table.lookup_key found.symm
      dsimp only at h
      split at h
      · rename_i owned
        obtain ⟨_, _, written, h⟩ := Tx.bind_ok h
        obtain ⟨-, rfl⟩ := Tx.pure_ok h
        rw [Tx.write_ok written]
        exact .published d (Table.lookup_mem found.symm) owned.1 token task owned.2 at_
      · obtain ⟨-, rfl⟩ := Tx.pure_ok h
        exact .idle _
  | markDispatchSucceeded id at_ =>
    refine Tx.commit_relates (R := fun s t => InboxStep s (.markDispatchSucceeded id at_) t) (.idle _) fun h => ?_
    obtain ⟨row, _, read, h⟩ := Tx.bind_ok h
    obtain ⟨found, rfl⟩ := Tx.read_ok read
    cases row with
    | none =>
      obtain ⟨-, rfl⟩ := Tx.pure_ok h
      exact .idle _
    | some d =>
      obtain rfl := Table.lookup_key found.symm
      dsimp only at h
      split at h
      · obtain ⟨-, rfl⟩ := Tx.pure_ok h
        exact .idle _
      · rename_i live
        obtain ⟨_, _, written, h⟩ := Tx.bind_ok h
        obtain ⟨-, rfl⟩ := Tx.pure_ok h
        rw [Tx.write_ok written]
        exact .succeeded d (Table.lookup_mem found.symm) live at_
  | recordDispatchFailure holder id f =>
    cases found : Table.lookup DispatchRow.id id s.dispatches with
    | none =>
      have missing : (recordDispatchFailure id f).run s = .error (.lookup "Unknown dispatch") := by
        refine (Tx.bind_of_ok rfl).trans (Tx.bind_of_error ?_)
        dsimp only
        rw [found]
        rfl
      rw [InboxCommand.exec, Tx.commit_of_error missing]
      exact .idle _
    | some d =>
      obtain rfl := Table.lookup_key found
      rw [InboxCommand.exec, Tx.commit_of_ok (recordDispatchFailure_run found)]
      exact .failed holder d (Table.lookup_mem found) f
  | recordProcessingFailure holder id code detail terminal now =>
    cases found : Table.lookup DispatchRow.id id s.dispatches with
    | none =>
      have missing : (recordProcessingFailure id code detail terminal now).run s =
          .error (.lookup "dispatch does not exist") := by
        refine (Tx.bind_of_ok rfl).trans (Tx.bind_of_error ?_)
        dsimp only
        rw [found]
        rfl
      rw [InboxCommand.exec, Tx.commit_of_error missing]
      exact .idle _
    | some d =>
      obtain rfl := Table.lookup_key found
      rw [InboxCommand.exec, Tx.commit_of_ok (recordProcessingFailure_run found)]
      exact .reported holder d (Table.lookup_mem found) code detail terminal now
  | requeueDeadLetter id at_ by_ =>
    refine Tx.commit_relates (R := fun s t => InboxStep s (.requeueDeadLetter id at_ by_) t) (.idle _) fun h => ?_
    obtain ⟨row, _, read, h⟩ := Tx.bind_ok h
    obtain ⟨found, rfl⟩ := Tx.read_ok read
    cases row with
    | none =>
      obtain ⟨-, rfl⟩ := Tx.pure_ok h
      exact .idle _
    | some d =>
      obtain rfl := Table.lookup_key found.symm
      dsimp only at h
      split at h
      · obtain ⟨-, rfl⟩ := Tx.pure_ok h
        exact .idle _
      · rename_i dead
        obtain ⟨_, _, written, h⟩ := Tx.bind_ok h
        obtain ⟨-, rfl⟩ := Tx.pure_ok h
        rw [Tx.write_ok written]
        exact .requeued d (Table.lookup_mem found.symm) (not_not.mp dead) at_ by_

theorem InboxStep.ids (step : InboxStep s c t) (nodup : (s.dispatches.map DispatchRow.id).Nodup) :
    (t.dispatches.map DispatchRow.id).Nodup := by
  have kept {id : Identifier} {f : DispatchRow → DispatchRow} (keeps : Table.KeepsKey DispatchRow.id id f) :
      ((Table.update DispatchRow.id id f s.dispatches).map DispatchRow.id).Nodup := by
    rw [Table.keys_update keeps]
    exact nodup
  cases step with
  | idle c => exact nodup
  | received w _ new _ => exact Table.nodup_append_new nodup (Table.lookup_none.mpr new)
  | claimed tokens now leaseFor limit =>
    have same : (claimRows tokens now leaseFor limit s).dispatches.map DispatchRow.id = s.dispatches.map DispatchRow.id := by
      simp only [claimRows, List.map_map]
      refine List.map_congr_left fun d _ => ?_
      simp only [Function.comp_apply]
      split <;> rfl
    rw [same]
    exact nodup
  | published => exact kept fun _ same => same
  | succeeded => exact kept fun _ same => same
  | failed holder d _ f => exact kept fun _ _ => by simp only [DispatchRow.fail]; split <;> rfl
  | reported holder d => exact kept fun _ _ => by simp only [DispatchRow.fail]; split <;> rfl
  | requeued => exact kept fun _ same => same

/-- What a command can make of a dispatch row. -/
inductive DispatchRow.Changed (s : Inbox) (d : DispatchRow) : InboxCommand → DispatchRow → Prop
  | claimed {tokens : Identifier → String} {now : Instant} {leaseFor : Int} {limit : Nat}
      (taken : d ∈ claimedRows now limit s) :
      d.Changed s (.claimDispatches tokens now leaseFor limit) (d.claim (tokens d.id) now leaseFor)
  | published {token task : String} {at_ : Instant} (processing : d.state = .processing) (held : d.leaseToken = some token) :
      d.Changed s (.markDispatchPublished d.id token task at_) (d.publish task at_)
  | succeeded {at_ : Instant} (live : d.state ≠ .deadLetter) : d.Changed s (.markDispatchSucceeded d.id at_) (d.complete at_)
  | failed {holder : String} {f : DispatchFailure} : d.Changed s (.recordDispatchFailure holder d.id f) (d.fail f)
  | reported {holder code detail : String} {terminal : Bool} {now : Instant} :
      d.Changed s (.recordProcessingFailure holder d.id code detail terminal now)
        ((d.spend terminal).fail (processingFailure now code detail d))
  | requeued {at_ : Instant} {by_ : String} (dead : d.state = .deadLetter) :
      d.Changed s (.requeueDeadLetter d.id at_ by_) (d.requeue at_ by_)

/-- Every row is kept, changed in one of these ways, or new with its webhook. -/
theorem InboxStep.rows (step : InboxStep s c t) (nodup : (s.dispatches.map DispatchRow.id).Nodup) :
    ∃ (f : DispatchRow → DispatchRow) (fresh : List DispatchRow), t.dispatches = s.dispatches.map f ++ fresh ∧
      (∀ d ∈ s.dispatches, f d = d ∨ d.Changed s c (f d)) ∧
      ∀ d ∈ fresh, ∃ w, c = .recordWebhook w ∧ d = w.dispatch ∧ 0 < w.maxDispatchAttempts := by
  have updated {d : DispatchRow} (member : d ∈ s.dispatches) (g : DispatchRow → DispatchRow)
      (changed : d.Changed s c (g d)) : ∃ (f : DispatchRow → DispatchRow) (fresh : List DispatchRow),
        Table.update DispatchRow.id d.id g s.dispatches = s.dispatches.map f ++ fresh ∧
        (∀ d ∈ s.dispatches, f d = d ∨ d.Changed s c (f d)) ∧
        ∀ d ∈ fresh, ∃ w, c = .recordWebhook w ∧ d = w.dispatch ∧ 0 < w.maxDispatchAttempts := by
    refine ⟨_, [], (List.append_nil _).symm, fun r there => ?_, fun _ none => (List.not_mem_nil none).elim⟩
    split
    · rename_i same
      rw [List.inj_on_of_nodup_map nodup there member same]
      exact .inr changed
    · exact .inl rfl
  cases step with
  | idle c =>
    exact ⟨id, [], by rw [List.map_id, List.append_nil], fun _ _ => .inl rfl, fun _ none => (List.not_mem_nil none).elim⟩
  | received w _ _ attempts =>
    refine ⟨id, [w.dispatch], by rw [List.map_id], fun _ _ => .inl rfl, fun d new => ?_⟩
    exact ⟨w, rfl, List.mem_singleton.mp new, attempts⟩
  | claimed tokens now leaseFor limit =>
    refine ⟨_, [], (List.append_nil _).symm, fun d _ => ?_, fun _ none => (List.not_mem_nil none).elim⟩
    split
    · rename_i taken
      exact .inr (.claimed taken)
    · exact .inl rfl
  | published d member processing token task held at_ => exact updated member _ (.published processing held)
  | succeeded d member live at_ => exact updated member _ (.succeeded live)
  | failed holder d member f => exact updated member (fun _ => d.fail f) .failed
  | reported holder d member code detail terminal now => exact updated member (fun _ => _) .reported
  | requeued d member dead at_ by_ => exact updated member _ (.requeued dead)

theorem DispatchRow.Changed.id {d' : DispatchRow} (changed : d.Changed s c d') : d'.id = d.id := by
  cases changed <;> first | rfl | (simp only [DispatchRow.fail]; split <;> rfl)

theorem mem_claimedRows {now : Instant} {limit : Nat} (taken : d ∈ claimedRows now limit s) :
    d ∈ s.dispatches ∧ d.Claimable now := by
  have sorted := List.mem_of_mem_take taken
  rw [List.mem_insertionSort, List.mem_filter] at sorted
  exact ⟨sorted.1, of_decide_eq_true sorted.2⟩

/-- A limit as high as the number of due rows takes them all. -/
theorem claimedRows_of {now : Instant} {limit : Nat} (member : d ∈ s.dispatches) (due : d.Claimable now)
    (room : (s.dispatches.filter fun d => decide (d.Claimable now)).length ≤ limit) : d ∈ claimedRows now limit s := by
  rw [claimedRows, List.take_of_length_le, List.mem_insertionSort, List.mem_filter]
  · exact ⟨member, decide_eq_true due⟩
  · rw [List.length_insertionSort]
    exact room

end steps

section rows

/-- What holds of a dispatch row in every inbox that any run reaches. -/
structure DispatchRow.Sound (d : DispatchRow) : Prop where
  attempts : d.attemptCount ≤ d.maxAttempts
  limit : 0 < d.maxAttempts
  waiting : d.state = .pending ∨ d.state = .retryScheduled → d.attemptCount < d.maxAttempts
  leased : d.state = .processing ∨ d.state = .published → d.leaseExpiresAt.isSome = true
  idle : ¬ (d.state = .processing ∨ d.state = .published) → d.leaseToken = none

theorem fail_sound (limit : 0 < d.maxAttempts) (attempts : d.attemptCount ≤ d.maxAttempts) (f : DispatchFailure) :
    (d.fail f).Sound := by
  unfold DispatchRow.fail
  dsimp only
  split
  · exact ⟨attempts, limit, by simp, by simp, by simp⟩
  · rename_i left
    exact ⟨attempts, limit, fun _ => Nat.lt_of_not_le left, by simp, by simp⟩

theorem DispatchRow.Sound.changed {d' : DispatchRow} (sound : d.Sound) (changed : d.Changed s c d') : d'.Sound := by
  cases changed with
  | claimed taken =>
    have room := (mem_claimedRows taken).2.2
    exact ⟨room, sound.limit, by simp [DispatchRow.claim], by simp [DispatchRow.claim], by simp [DispatchRow.claim]⟩
  | published processing =>
    exact ⟨sound.attempts, sound.limit, by simp [DispatchRow.publish], fun _ => sound.leased (.inl processing),
      by simp [DispatchRow.publish]⟩
  | succeeded =>
    exact ⟨sound.attempts, sound.limit, by simp [DispatchRow.complete], by simp [DispatchRow.complete],
      by simp [DispatchRow.complete]⟩
  | failed => exact fail_sound sound.limit sound.attempts _
  | @reported _ _ _ terminal =>
    refine fail_sound (d := d.spend terminal) sound.limit ?_ _
    cases terminal with
    | true => exact le_rfl
    | false => exact sound.attempts
  | requeued =>
    exact ⟨Nat.zero_le _, sound.limit, fun _ => sound.limit, by simp [DispatchRow.requeue], by simp [DispatchRow.requeue]⟩

theorem dispatch_sound (w : WebhookDelivery) (attempts : 0 < w.maxDispatchAttempts) : w.dispatch.Sound :=
  ⟨Nat.zero_le _, attempts, fun _ => attempts, by simp [WebhookDelivery.dispatch], by simp [WebhookDelivery.dispatch]⟩

structure Inbox.Sound (s : Inbox) : Prop where
  ids : (s.dispatches.map DispatchRow.id).Nodup
  rows : ∀ d ∈ s.dispatches, d.Sound

theorem exec_sound (c : InboxCommand) (sound : s.Sound) : (c.exec s).Sound := by
  have step := exec_step c s
  obtain ⟨f, fresh, rows, kept, new⟩ := step.rows sound.ids
  refine ⟨step.ids sound.ids, fun d member => ?_⟩
  rw [rows] at member
  rcases List.mem_append.mp member with old | made
  · obtain ⟨r, there, rfl⟩ := List.mem_map.mp old
    rcases kept r there with same | changed
    · rw [same]
      exact sound.rows r there
    · exact (sound.rows r there).changed changed
  · obtain ⟨w, -, rfl, attempts⟩ := new d made
    exact dispatch_sound w attempts

theorem inbox_sound {allowed : InboxCommand → Inbox → Prop} (reach : InboxReachable allowed s) : s.Sound :=
  reach.invariant Inbox.Sound ⟨List.nodup_nil, fun _ none => (List.not_mem_nil none).elim⟩ fun c _ sound _ => exec_sound c sound

end rows

end RevenueGuard
