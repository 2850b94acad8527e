import RevenueGuard.Protocol.Dispatching

/-
Dispatches. An unfinished dispatch comes up for claiming again as long as it has
an attempt left. The attempt is spent when it is claimed, so a worker lost in the
last one leaves it for nobody.
-/
namespace RevenueGuard

variable {s t : Inbox} {c : InboxCommand} {d : DispatchRow}

def DispatchRow.Unfinished (d : DispatchRow) : Prop := d.state ≠ .succeeded ∧ d.state ≠ .deadLetter

instance (d : DispatchRow) : Decidable d.Unfinished := inferInstanceAs (Decidable (_ ∧ _))

/-- Any claim from some time on, of at least as many dispatches as are due then, returns the dispatch. -/
def Reclaimed (s : Inbox) (d : DispatchRow) : Prop :=
  ∃ since, ∀ now, since ≤ now → ∀ (tokens : Identifier → String) (leaseFor : Int) (limit : Nat),
    (s.dispatches.filter fun d => decide (d.Claimable now)).length ≤ limit →
      ∃ claimed t, (claimDispatches tokens now leaseFor limit).run s = .ok (claimed, t) ∧ ∃ r ∈ claimed, r.id = d.id

/-- An operator can take the dead letter back, with all its attempts, and it is served. -/
def Requeueable (s : Inbox) (d : DispatchRow) : Prop :=
  ∀ at_ by_, ∃ t, (requeueDeadLetter d.id at_ by_).run s = .ok (true, t) ∧
    d.requeue at_ by_ ∈ t.dispatches ∧ Reclaimed t (d.requeue at_ by_)

/-- A claim that takes a dispatch for its last permitted attempt. -/
def InboxCommand.SpendsLast (s : Inbox) : InboxCommand → Prop
  | .claimDispatches _ now _ limit => ∃ d ∈ claimedRows now limit s, d.attemptCount + 1 = d.maxAttempts
  | _ => False

instance (s : Inbox) (c : InboxCommand) : Decidable (c.SpendsLast s) := by
  unfold InboxCommand.SpendsLast
  split <;> infer_instance

section serving

theorem claimable_since (sound : d.Sound) (unfinished : d.Unfinished) (left : d.attemptCount < d.maxAttempts) :
    ∃ since, ∀ now, since ≤ now → d.Claimable now := by
  by_cases flying : d.state = .processing ∨ d.state = .published
  · obtain ⟨expires, lease⟩ := Option.isSome_iff_exists.mp (sound.leased flying)
    exact ⟨expires, fun now late => ⟨.inr ⟨flying, expires, lease, late⟩, left⟩⟩
  · have waiting : d.state = .pending ∨ d.state = .retryScheduled := by
      obtain ⟨live, open_⟩ := unfinished
      cases state : d.state with
      | pending => exact .inl rfl
      | retryScheduled => exact .inr rfl
      | processing => exact absurd (.inl state) flying
      | published => exact absurd (.inr state) flying
      | succeeded => exact absurd state live
      | deadLetter => exact absurd state open_
    exact ⟨d.availableAt, fun now late => ⟨.inl ⟨waiting, late⟩, left⟩⟩

theorem claimDispatches_run (tokens : Identifier → String) (now : Instant) (leaseFor : Int) (limit : Nat) (s : Inbox) :
    (claimDispatches tokens now leaseFor limit).run s =
      .ok ((claimedRows now limit s).map fun d => d.claim (tokens d.id) now leaseFor, claimRows tokens now leaseFor limit s) :=
  rfl

theorem served_of (member : d ∈ s.dispatches) (sound : d.Sound) (unfinished : d.Unfinished)
    (left : d.attemptCount < d.maxAttempts) : Reclaimed s d := by
  obtain ⟨since, due⟩ := claimable_since sound unfinished left
  refine ⟨since, fun now late tokens leaseFor limit room => ⟨_, _, claimDispatches_run tokens now leaseFor limit s, ?_⟩⟩
  have taken := claimedRows_of member (due now late) room
  exact ⟨_, List.mem_map_of_mem taken, rfl⟩

theorem served_attempts (sound : s.Sound) (member : d ∈ s.dispatches) (served : Reclaimed s d) : d.attemptCount < d.maxAttempts := by
  obtain ⟨since, serves⟩ := served
  obtain ⟨claimed, t, ran, r, returned, same⟩ := serves since le_rfl (fun _ => "") 0 _ le_rfl
  rw [claimDispatches_run] at ran
  cases ran
  obtain ⟨q, taken, rfl⟩ := List.mem_map.mp returned
  obtain ⟨stored, due⟩ := mem_claimedRows taken
  rw [← List.inj_on_of_nodup_map sound.ids stored member same]
  exact due.2

theorem dead_requeueable (sound : s.Sound) (member : d ∈ s.dispatches) (dead : d.state = .deadLetter) : Requeueable s d := by
  intro at_ by_
  have found := Table.lookup_of_mem sound.ids member
  have requeues : (requeueDeadLetter d.id at_ by_).run s = .ok (true, requeueDispatch at_ by_ d s) := by
    refine (Tx.bind_of_ok rfl).trans ?_
    dsimp only
    rw [found]
    dsimp only
    rw [if_neg (not_not.mpr dead)]
    rfl
  have stored : d.requeue at_ by_ ∈ (requeueDispatch at_ by_ d s).dispatches :=
    (Table.mem_update_found sound.ids member).mpr (.inl rfl)
  have pending : (d.requeue at_ by_).Unfinished := by simp [DispatchRow.Unfinished, DispatchRow.requeue]
  have requeued : d.Changed s (.requeueDeadLetter d.id at_ by_) (d.requeue at_ by_) := .requeued dead
  have again := (sound.rows d member).changed requeued
  exact ⟨_, requeues, stored, served_of stored again pending (again.waiting (.inl rfl))⟩

end serving

section runs

/-- No dispatch out with a worker is in its last attempt. -/
def Spare (s : Inbox) : Prop := ∀ d ∈ s.dispatches, d.Unfinished → d.attemptCount < d.maxAttempts

/-- A failure that does not end a dispatch schedules its retry. -/
theorem fail_waits {f : DispatchFailure} (unfinished : (d.fail f).Unfinished) : (d.fail f).state = .retryScheduled := by
  unfold DispatchRow.Unfinished DispatchRow.fail at unfinished
  unfold DispatchRow.fail
  dsimp only at unfinished ⊢
  split at unfinished
  · exact absurd rfl unfinished.2
  · rename_i left
    rw [if_neg left]

theorem exec_spare (sound : s.Sound) (spare : Spare s) (saves : ¬ c.SpendsLast s) : Spare (c.exec s) := by
  intro d member unfinished
  have after := (exec_sound c sound).rows d member
  obtain ⟨f, fresh, rows, kept, new⟩ := (exec_step c s).rows sound.ids
  rw [rows] at member
  rcases List.mem_append.mp member with old | made
  · obtain ⟨r, there, rfl⟩ := List.mem_map.mp old
    rcases kept r there with same | changed
    · rw [same] at unfinished ⊢
      exact spare r there unfinished
    · revert unfinished after
      generalize f r = d' at changed
      intro unfinished after
      cases changed with
      | claimed taken =>
        have room := (mem_claimedRows taken).2.2
        have saved : r.attemptCount + 1 ≠ r.maxAttempts := fun last => saves ⟨r, taken, last⟩
        exact Nat.lt_of_le_of_ne room saved
      | published processing =>
        refine spare r there ⟨?_, ?_⟩ <;> rw [processing] <;> decide
      | succeeded => exact absurd rfl unfinished.1
      | failed => exact after.waiting (.inr (fail_waits unfinished))
      | reported => exact after.waiting (.inr (fail_waits unfinished))
      | requeued => exact after.waiting (.inl rfl)
  · obtain ⟨w, -, rfl, attempts⟩ := new d made
    exact attempts

theorem spare_invariant (reach : InboxReachable (fun c s => ¬ c.SpendsLast s) s) : Spare s :=
  (reach.invariant (fun s => s.Sound ∧ Spare s)
    ⟨⟨List.nodup_nil, fun _ none => (List.not_mem_nil none).elim⟩, fun _ none => (List.not_mem_nil none).elim⟩
    fun c _ ⟨sound, spare⟩ saves => ⟨exec_sound c sound, exec_spare sound spare saves⟩).2

/-- A last attempt begun is an unfinished dispatch without an attempt left. -/
theorem spent_unserved (sound : s.Sound) (spends : c.SpendsLast s) :
    ∃ d ∈ (c.exec s).dispatches, d.Unfinished ∧ ¬ Reclaimed (c.exec s) d := by
  cases c with
  | claimDispatches tokens now leaseFor limit =>
    obtain ⟨d, taken, last⟩ := spends
    have member : d.claim (tokens d.id) now leaseFor ∈ (claimRows tokens now leaseFor limit s).dispatches :=
      List.mem_map.mpr ⟨d, (mem_claimedRows taken).1, if_pos taken⟩
    refine ⟨_, member, by simp [DispatchRow.Unfinished, DispatchRow.claim], fun served => ?_⟩
    have left := served_attempts (exec_sound (.claimDispatches tokens now leaseFor limit) sound) member served
    exact absurd left (Nat.not_lt.mpr (Nat.le_of_eq last.symm))
  | _ => exact spends.elim

theorem dispatch_not_stranded (reach : InboxReachable (fun c s => ¬ c.SpendsLast s) s) :
    (∀ d ∈ s.dispatches, (d.Unfinished → Reclaimed s d) ∧ (d.state = .deadLetter → Requeueable s d)) ∧
      ∀ c : InboxCommand, (∀ d ∈ (c.exec s).dispatches, d.Unfinished → Reclaimed (c.exec s) d) ↔ ¬ c.SpendsLast s := by
  have sound := inbox_sound reach
  have spare := spare_invariant reach
  refine ⟨fun d member => ⟨fun unfinished => served_of member (sound.rows d member) unfinished (spare d member unfinished),
    dead_requeueable sound member⟩, fun c => ⟨fun served spends => ?_, fun saves d member unfinished => ?_⟩⟩
  · obtain ⟨d, member, unfinished, unserved⟩ := spent_unserved sound spends
    exact unserved (served d member unfinished)
  · exact served_of member ((exec_sound c sound).rows d member) unfinished (exec_spare sound spare saves d member unfinished)

/-- A delivery with so many attempts to process it. -/
def delivered (attempts : Nat) : InboxCommand :=
  .recordWebhook
    { eventId := ident "webhook-1", dispatchId := ident "dispatch-1", merchantId := ident "acme", provider := "RAZORPAY"
      providerEventId := "event-1", receivedAt := 0, createdAt := 0, maxDispatchAttempts := attempts }

/-- A claim with a lease of a minute. -/
def claimAt (second : Int) (token : String) : InboxCommand :=
  .claimDispatches (fun _ => token) (seconds second) (seconds 60) 100

theorem dispatch_not_stranded_claimed :
    (∀ d ∈ (InboxCommand.execAll [delivered 5, claimAt 10 "lease-1"] {}).dispatches, d.Unfinished →
      Reclaimed (InboxCommand.execAll [delivered 5, claimAt 10 "lease-1"] {}) d) ∧
    ∀ d ∈ ((claimAt 70 "lease-2").exec (InboxCommand.execAll [delivered 5, claimAt 10 "lease-1"] {})).dispatches,
      d.Unfinished → Reclaimed ((claimAt 70 "lease-2").exec (InboxCommand.execAll [delivered 5, claimAt 10 "lease-1"] {})) d := by
  have reach : InboxReachable (fun c s => ¬ c.SpendsLast s) (InboxCommand.execAll [delivered 5, claimAt 10 "lease-1"] {}) :=
    Runs.reaches_allowed (by decide +kernel)
  obtain ⟨served, next⟩ := dispatch_not_stranded reach
  exact ⟨fun d member => (served d member).1, (next (claimAt 70 "lease-2")).mpr (by decide +kernel)⟩

/-- The worker of the second of two attempts disappears. -/
theorem dispatch_stranded : ¬ ∀ s, InboxReachable (fun _ _ => True) s → ∀ d ∈ s.dispatches, d.Unfinished → Reclaimed s d := by
  intro served
  have reach : InboxReachable (fun _ _ => True)
      (InboxCommand.execAll [delivered 2, claimAt 10 "lease-1", claimAt 70 "lease-2"] {}) :=
    Runs.reaches_allowed (by decide +kernel)
  have spent : ∃ d ∈ (InboxCommand.execAll [delivered 2, claimAt 10 "lease-1", claimAt 70 "lease-2"] {}).dispatches,
      d.Unfinished ∧ ¬ d.attemptCount < d.maxAttempts := by decide +kernel
  obtain ⟨d, member, unfinished, exhausted⟩ := spent
  exact exhausted (served_attempts (inbox_sound reach) member (served _ reach d member unfinished))

end runs

end RevenueGuard
