import RevenueGuard.Protocol.Simulation

/-
The outbox of a case: at most one pending action, only while the case is READY
or EXECUTING, with at most one provider call open.
-/
namespace RevenueGuard

variable {db db' : Database} {rt : Runtime} {excluded : Kind → Prop} {k : CaseKey} {v v' : CaseView}

def executable : List (Option CaseState) := [some .ready, some .executing]

structure ActionRow.Sound (r : ActionRow) : Prop where
  counted : r.attemptCount = r.attempts.length
  limit : r.maxAttempts = 3
  live : r.status = .pending → r.deadLetteredAt = none ∧ (r.leaseToken.isSome = true → r.leaseExpiresAt.isSome = true)
  running : r.openAttempts ≠ [] → r.status = .pending
  single : r.openAttempts.length ≤ 1
  scheduled : r.status = .pending → r.action.authorizedAt ≤ r.nextAttemptAt

structure Outbox (v : CaseView) : Prop where
  ids : (v.actions.map ActionRow.id).Nodup
  sound : ∀ r ∈ v.actions, r.Sound
  owned : v.state = none → v.actions = []
  pending : ∀ r ∈ v.actions, r.status = .pending → v.state ∈ executable
  one : ∀ r ∈ v.actions, ∀ s ∈ v.actions, r.status = .pending → s.status = .pending → r = s
  fresh : v.state = some .ready → ∀ r ∈ v.actions, r.status = .pending → r.attempts = []

/-- An executable case has something to execute. -/
def Served (v : CaseView) : Prop := v.state ∈ executable → ∃ r ∈ v.actions, r.status = .pending

section rows

variable {r r' : ActionRow}

theorem ofAction_sound {action : RecoveryAction} (scheduled : action.authorizedAt ≤ action.executeAfter)
    (version : Identifier) (deadline : Instant) : (ActionRow.ofAction action version 3 deadline).Sound :=
  ⟨rfl, rfl, fun _ => ⟨rfl, fun h => by cases h⟩, fun h => absurd rfl h, Nat.zero_le _, fun _ => scheduled⟩

theorem lease_sound (h : r.Sound) (token : String) (now : Instant) (leaseFor : Int) : (r.lease token now leaseFor).Sound :=
  ⟨h.counted, h.limit, fun pending => ⟨(h.live pending).1, fun _ => rfl⟩, h.running, h.single, h.scheduled⟩

theorem begin_open (r : ActionRow) (token : String) (t : Instant) :
    (r.begin token t).openAttempts = r.openAttempts ++
      [{ attemptNumber := r.attemptCount + 1, leaseToken := token, startedAt := t }] := by
  simp only [ActionRow.openAttempts, ActionRow.begin, List.filter_append]
  rfl

theorem begin_sound (h : r.Sound) (pending : r.status = .pending) (idle : r.openAttempts = []) (token : String)
    (t : Instant) : (r.begin token t).Sound := by
  refine ⟨?_, h.limit, h.live, fun _ => pending, ?_, h.scheduled⟩
  · change r.attemptCount + 1 = (r.attempts ++ _).length
    rw [List.length_append, h.counted]
    rfl
  · rw [begin_open, idle]
    exact Nat.le_refl 1

/-- A row that is pending no longer, with nothing open. -/
theorem ActionRow.Sound.settled (h : r.Sound) (settled : r'.status ≠ .pending) (idle : r'.openAttempts = [])
    (counts : r'.attemptCount = r.attemptCount ∧ r'.maxAttempts = r.maxAttempts ∧
      r'.attempts.length = r.attempts.length) : r'.Sound where
  counted := by rw [counts.1, counts.2.2, h.counted]
  limit := by rw [counts.2.1, h.limit]
  live := fun pending => absurd pending settled
  running := fun open_ => absurd idle open_
  single := by rw [idle]; exact Nat.zero_le _
  scheduled := fun pending => absurd pending settled

theorem only_open (one : r.openAttempts.length ≤ 1) {token : String} (inFlight : ∃ a ∈ r.openAttempts, a.leaseToken = token) :
    ∀ a ∈ r.attempts, a.isOpen = true → a.leaseToken = token := by
  obtain ⟨b, hb, owned⟩ := inFlight
  intro a ha isOpen
  have member : a ∈ r.openAttempts := List.mem_filter.mpr ⟨ha, isOpen⟩
  obtain ⟨x, single⟩ := List.length_eq_one_iff.mp (Nat.le_antisymm one (List.length_pos_of_mem member))
  rw [single, List.mem_singleton] at member hb
  rw [member, ← hb, owned]

theorem finish_idle (one : r.openAttempts.length ≤ 1) {token : String} (inFlight : ∃ a ∈ r.openAttempts, a.leaseToken = token)
    (c : AttemptCompletion) (t d : Instant) : (r.finish token c t d).openAttempts = [] := by
  have closes : ∀ a ∈ r.attempts, (if a.isOpen ∧ a.leaseToken = token then a.complete c else a).isOpen = false := by
    intro a ha
    by_cases isOpen : a.isOpen = true
    · rw [if_pos ⟨isOpen, only_open one inFlight a ha isOpen⟩]
      rfl
    · rw [if_neg fun both => isOpen both.1]
      simpa using isOpen
  unfold ActionRow.finish
  split <;> exact closed_attempts closes

theorem finish_counts (r : ActionRow) (token : String) (c : AttemptCompletion) (t d : Instant) :
    (r.finish token c t d).attemptCount = r.attemptCount ∧ (r.finish token c t d).maxAttempts = r.maxAttempts ∧
      (r.finish token c t d).attempts.length = r.attempts.length := by
  unfold ActionRow.finish
  split <;> exact ⟨rfl, rfl, List.length_map _⟩

/-- A call that is to be tried again leaves its action live and without a lease. -/
theorem finish_live (h : r.Sound) (inFlight : r.openAttempts ≠ []) (token : String) (c : AttemptCompletion)
    (t d : Instant) (again : (r.finish token c t d).status = .pending) :
    (r.finish token c t d).deadLetteredAt = none ∧ (r.finish token c t d).leaseToken = none := by
  have live := (h.live (h.running inFlight)).1
  unfold ActionRow.finish at again ⊢
  split
  · exact ⟨live, rfl⟩
  · rename_i final
    rw [if_neg final] at again
    have unfailed : c.outcomeStatus ≠ .failed := fun failed => by
      have same : c.outcomeStatus = .pending := again
      rw [failed] at same
      cases same
    exact ⟨by simp [unfailed, live, ActionRow.setStatus, ActionRow.released], rfl⟩

/-- Only a failed call dead-letters its action. -/
theorem finish_undead {token : String} {c : AttemptCompletion} {t d : Instant} (live : r.deadLetteredAt = none)
    (accepted : resolvable (r.finish token c t d)) : (r.finish token c t d).deadLetteredAt = none := by
  unfold ActionRow.finish at accepted ⊢
  split
  · exact live
  · rename_i final
    rw [if_neg final] at accepted
    have unfailed : c.outcomeStatus ≠ .failed := fun failed => by
      rcases accepted with e | e <;> exact absurd (failed.symm.trans e) (by decide)
    simp [unfailed, live, ActionRow.setStatus, ActionRow.released]

theorem finish_sound (h : r.Sound) {token : String} (inFlight : ∃ a ∈ r.openAttempts, a.leaseToken = token)
    {c : AttemptCompletion} {t d : Instant} (scheduled : (r.finish token c t d).status = .pending →
      (r.finish token c t d).action.authorizedAt ≤ (r.finish token c t d).nextAttemptAt) : (r.finish token c t d).Sound := by
  have idle := finish_idle h.single inFlight c t d
  have counts := finish_counts r token c t d
  obtain ⟨a, ha, -⟩ := inFlight
  refine ⟨by rw [counts.1, counts.2.2, h.counted], by rw [counts.2.1, h.limit], fun again => ?_,
    fun open_ => absurd idle open_, by rw [idle]; exact Nat.zero_le _, scheduled⟩
  obtain ⟨live, free⟩ := finish_live h (List.ne_nil_of_mem ha) token c t d again
  exact ⟨live, fun leased => by rw [free] at leased; cases leased⟩

end rows

section changes

variable {r : ActionRow} {f : ActionRow → ActionRow}

/-- Nothing else is pending beside a pending action, or while the case cannot execute. -/
theorem Outbox.quiet (inv : Outbox v) (found : r ∈ v.actions) (calm : r.status = .pending ∨ v.state ∉ executable) :
    ∀ s ∈ v.actions, s.id ≠ r.id → s.status ≠ .pending := by
  intro s member other pending
  rcases calm with mine | idle
  · exact other (congrArg ActionRow.id (inv.one s member r found pending mine))
  · exact idle (inv.pending s member pending)

theorem Outbox.present (inv : Outbox v) (found : r ∈ v.actions) : v.state ≠ none := by
  intro absent
  rw [inv.owned absent] at found
  cases found

theorem Outbox.replace (inv : Outbox v) (found : r ∈ v.actions)
    (actions : v'.actions = Table.update ActionRow.id r.id f v.actions) (keeps : ∀ x, (f x).id = x.id)
    (sound : (f r).Sound) (owned : v'.state ≠ none)
    (mine : (f r).status = .pending → r.status = .pending ∧ v'.state ∈ executable ∧
      (v'.state = some .ready → (f r).attempts = []))
    (others : ∀ s ∈ v.actions, s.id ≠ r.id → s.status = .pending → v'.state = v.state) : Outbox v' := by
  have members : ∀ s ∈ v'.actions, s = f r ∨ (s ∈ v.actions ∧ s.id ≠ r.id) := fun s member =>
    (Table.mem_update_found inv.ids found).mp (actions ▸ member)
  refine ⟨?_, fun s member => ?_, fun none => absurd none owned, fun s member pending => ?_,
    fun s hs t ht sPending tPending => ?_, fun ready s member pending => ?_⟩
  · rw [actions, Table.keys_update fun x hx => by rw [keeps, hx]]
    exact inv.ids
  · rcases members s member with rfl | ⟨old, -⟩
    · exact sound
    · exact inv.sound s old
  · rcases members s member with rfl | ⟨old, other⟩
    · exact (mine pending).2.1
    · rw [others s old other pending]
      exact inv.pending s old pending
  · rcases members s hs with rfl | ⟨sOld, sOther⟩ <;> rcases members t ht with rfl | ⟨tOld, tOther⟩
    · rfl
    · exact absurd tPending (inv.quiet found (.inl (mine sPending).1) t tOld tOther)
    · exact absurd sPending (inv.quiet found (.inl (mine tPending).1) s sOld sOther)
    · exact inv.one s sOld t tOld sPending tPending
  · rcases members s member with rfl | ⟨old, other⟩
    · exact (mine pending).2.2 ready
    · rw [others s old other pending] at ready
      exact inv.fresh ready s old pending

/-- The last pending action settles, wherever the case goes. -/
theorem Outbox.settle (inv : Outbox v) (found : r ∈ v.actions)
    (actions : v'.actions = Table.update ActionRow.id r.id f v.actions) (keeps : ∀ x, (f x).id = x.id)
    (sound : (f r).Sound) (owned : v'.state ≠ none) (settled : (f r).status ≠ .pending) (calm : r.status = .pending ∨ v.state ∉ executable) : Outbox v' :=
  inv.replace found actions keeps sound owned (fun pending => absurd pending settled)
    fun s member other pending => absurd pending (inv.quiet found calm s member other)

/-- The case moves while nothing of it is pending. -/
theorem Outbox.move (inv : Outbox v) (actions : v'.actions = v.actions) (calm : v.state ∉ executable)
    (owned : v'.state ≠ none) : Outbox v' := by
  have none_pending : ∀ r ∈ v'.actions, r.status ≠ .pending := fun r member pending =>
    calm (inv.pending r (actions ▸ member) pending)
  exact ⟨by rw [actions]; exact inv.ids, fun r member => inv.sound r (actions ▸ member), fun none => absurd none owned,
    fun r member pending => absurd pending (none_pending r member),
    fun r member _ _ pending => absurd pending (none_pending r member),
    fun _ r member pending => absurd pending (none_pending r member)⟩

theorem Outbox.same (inv : Outbox v) (actions : v'.actions = v.actions) (state : v'.state = v.state) : Outbox v' :=
  ⟨by rw [actions]; exact inv.ids, fun r member => inv.sound r (actions ▸ member),
    fun none => by rw [actions]; exact inv.owned (state ▸ none),
    fun r member pending => by rw [state]; exact inv.pending r (actions ▸ member) pending,
    fun r hr s hs => inv.one r (actions ▸ hr) s (actions ▸ hs),
    fun ready r member => inv.fresh (state ▸ ready) r (actions ▸ member)⟩

theorem Outbox.empty (free : v.actions = []) : Outbox v := by
  have absent : ∀ r, r ∉ v.actions := fun r => by simp [free]
  exact ⟨by rw [free]; exact List.nodup_nil, fun r member => absurd member (absent r), fun _ => free,
    fun r member => absurd member (absent r), fun r member => absurd member (absent r),
    fun _ r member => absurd member (absent r)⟩

theorem Outbox.append {action : RecoveryAction} {version : Identifier} {deadline : Instant} (inv : Outbox v)
    (calm : v.state ∉ executable) (ready : v'.state = some .ready)
    (actions : v'.actions = v.actions ++ [.ofAction action version 3 deadline])
    (scheduled : action.authorizedAt ≤ action.executeAfter) (new : ∀ r ∈ v.actions, r.id ≠ action.identity) :
    Outbox v' := by
  have members : ∀ r ∈ v'.actions, r ∈ v.actions ∨ r = .ofAction action version 3 deadline := fun r member => by
    rw [actions, List.mem_append, List.mem_singleton] at member
    exact member
  have last : ∀ r ∈ v'.actions, r.status = .pending → r = .ofAction action version 3 deadline := fun r member pending =>
    (members r member).resolve_left fun old => calm (inv.pending r old pending)
  refine ⟨?_, fun r member => ?_, fun none => ?_, fun _ _ _ => ?_, fun r hr s hs rPending sPending => ?_,
    fun _ r member pending => ?_⟩
  · rw [actions]
    exact Table.nodup_append_new inv.ids (Table.lookup_none.mpr new)
  · rcases members r member with old | rfl
    · exact inv.sound r old
    · exact ofAction_sound scheduled _ _
  · rw [ready] at none
    cases none
  · rw [ready]
    decide
  · rw [last r hr rPending, last s hs sPending]
  · rw [last r member pending]
    rfl

end changes

section protocol

variable {row : CaseRow}

theorem calm_of {states : List CaseState} (present : v.row = some row) (state : row.case.state ∈ states)
    (calm : ∀ s ∈ states, some s ∉ executable) : v.state ∉ executable := by
  rw [v.state_of present]
  exact calm _ state

theorem Resolved.outbox {r : ActionRow} {s : ActionStatus} {actions : List ActionRow} (inv : Outbox v) (found : r ∈ v.actions)
    (settled : s ≠ .pending) (calm : v.state ∉ executable) (h : Resolved r.id s v.actions actions)
    (after : v'.actions = actions) (owned : v'.state ≠ none) : Outbox v' := by
  rcases h with rfl | ⟨t, object, code, rfl⟩
  · exact inv.move after calm owned
  · have unsettled : r.status ≠ .pending := fun pending => calm (inv.pending r found pending)
    have idle : r.openAttempts = [] := not_not.mp fun open_ => unsettled ((inv.sound r found).running open_)
    have sound : (ActionRow.resolve s t object code r).Sound := (inv.sound r found).settled settled idle ⟨rfl, rfl, rfl⟩
    exact inv.settle found after (fun _ => rfl) sound owned settled (.inr calm)

theorem Settles.calm {s : CaseState} {reviews : List HumanReviewRequest} (h : Settles k s reviews) :
    some s ∉ executable := by
  rcases h with ⟨state, -⟩ | ⟨rfl, -⟩
  · revert s
    decide
  · decide

theorem review_edges {s t : CaseState} (edge : s ∈ allowedTransitions t)
    (after : s ∈ [CaseState.decisionPending, .stopped]) : some t ∉ executable := by
  revert s
  cases t <;> decide

/-- No step of the protocol breaks the outbox, unless it cancels an action in flight. -/
theorem Change.outbox (h : Change excluded db k v v') (guarded : excluded .cancelInFlight) (inv : Outbox v) : Outbox v' := by
  cases h with
  | idle => exact inv
  | opened row absent =>
    exact .empty (inv.owned (by rw [CaseView.state, absent]; rfl))
  | linked => exact inv.same rfl rfl
  | heard row' link receipt _ _ before =>
    cases present : v.row with
    | none => exact .empty (inv.owned (by rw [CaseView.state, present]; rfl))
    | some row => exact inv.move rfl (calm_of present (before row present).1 (by decide)) (by simp [CaseView.state])
  | prepared row row' s present state =>
    exact inv.move rfl (calm_of present state (by decide)) (by simp [CaseView.state])
  | decided row row' s receipt reviews present state =>
    exact inv.move rfl (by rw [v.state_of present, state]; decide) (by simp [CaseView.state])
  | unreviewed row row' receipt _ present state =>
    exact inv.move rfl (by rw [v.state_of present, state]; decide) (by simp [CaseView.state])
  | authorized row row' receipt action version deadline present state moved _ _ _ scheduled _ new =>
    exact inv.append (by rw [v.state_of present, state]; decide) (congrArg some moved.state) rfl scheduled new
  | reauthorized row row' receipt _ present state =>
    exact inv.move rfl (by rw [v.state_of present, state]; decide) (by simp [CaseView.state])
  | reviewed row row' s review decided present edge after =>
    exact inv.move rfl (by rw [v.state_of present]; exact review_edges edge after) (by simp [CaseView.state])
  | leased id token now leaseFor =>
    by_cases member : ∃ r ∈ v.actions, r.id = id
    · obtain ⟨r, found, rfl⟩ := member
      exact inv.replace found rfl (fun _ => rfl) (lease_sound (inv.sound r found) token now leaseFor) (inv.present found)
        (fun pending => ⟨pending, inv.pending r found pending, fun ready => inv.fresh ready r found pending⟩)
        (fun _ _ _ _ => rfl)
    · rw [Table.update_absent fun r hr same => member ⟨r, hr, same⟩]
      exact inv
  | begun row row' r token t present state moved found pending idle =>
    refine inv.replace found rfl (fun _ => rfl) (begin_sound (inv.sound r found) pending idle token t)
      (by simp [CaseView.state]) (fun _ => ⟨pending, ?_, fun ready => ?_⟩)
      (fun s member other also => absurd also (inv.quiet found (.inl pending) s member other))
    · simp [CaseView.state, moved.state, executable]
    · simp [CaseView.state, moved.state] at ready
  | blocked row row' s r t code reviews present state moved settles found pending idle =>
    have cancelled : (r.cancel t code).Sound :=
      (inv.sound r found).settled (fun h => by cases h) (idle guarded) ⟨rfl, rfl, rfl⟩
    exact inv.settle found rfl (fun _ => rfl) cancelled (by simp [CaseView.state]) (fun h => by cases h) (.inl pending)
  | retried r token c retryAt deadline _ found inFlight again scheduled =>
    obtain ⟨a, ha, -⟩ := id inFlight
    have pending := (inv.sound r found).running (List.ne_nil_of_mem ha)
    have executing := inv.pending r found pending
    refine inv.replace found rfl (finish_id token c retryAt deadline)
      (finish_sound (inv.sound r found) inFlight fun _ => scheduled)
      (inv.present found) (fun _ => ⟨pending, executing, fun ready => ?_⟩) (fun _ _ _ _ => rfl)
    rw [ActionRow.openAttempts, inv.fresh ready r found pending] at ha
    cases ha
  | finished row row' s r token c retryAt deadline outcomes _ present state after moved found inFlight settled =>
    obtain ⟨a, ha, -⟩ := id inFlight
    exact inv.settle found rfl (finish_id token c retryAt deadline)
      (finish_sound (inv.sound r found) inFlight fun pending => absurd pending settled)
      (by simp [CaseView.state]) settled (.inl ((inv.sound r found).running (List.ne_nil_of_mem ha)))
  | lost row row' r now deadline outcomes _ present moved found inFlight =>
    have lost : (r.lost now deadline).Sound :=
      (inv.sound r found).settled (fun h => by cases h) (lost_idle r now deadline) ⟨rfl, rfl, List.length_map _⟩
    exact inv.settle found rfl (fun _ => rfl) lost (by simp [CaseView.state]) (fun h => by cases h)
      (.inl ((inv.sound r found).running inFlight))
  | unresolved row row' r f t outcomes _ present state moved found marked =>
    have calm := calm_of present state (by decide)
    have unsettled : r.status ≠ .pending := fun pending => calm (inv.pending r found pending)
    have idle : r.openAttempts = [] := not_not.mp fun open_ => unsettled ((inv.sound r found).running open_)
    have closed : ∀ {r' : ActionRow}, r'.status ≠ .pending → r'.attempts = r.attempts →
        r'.attemptCount = r.attemptCount → r'.maxAttempts = r.maxAttempts → r'.Sound := fun settled attempts count limit =>
      (inv.sound r found).settled settled (by rw [ActionRow.openAttempts, attempts]; exact idle)
        ⟨count, limit, by rw [attempts]⟩
    rcases marked with rfl | ⟨-, rfl⟩
    · exact inv.settle found rfl (fun _ => rfl) (closed unsettled rfl rfl rfl) (by simp [CaseView.state]) unsettled
        (.inr calm)
    · exact inv.settle found rfl (fun _ => rfl) (closed (fun h => by cases h) rfl rfl rfl) (by simp [CaseView.state])
        (fun h => by cases h) (.inr calm)
  | reconciled row row' s r status actions outcomes present state after moved found settled _ resolved =>
    refine resolved.outbox inv found ?_ (calm_of present state (by decide)) rfl (by simp [CaseView.state])
    revert settled
    cases status <;> decide
  | credited row row' r actions o present state moved found resolved =>
    exact resolved.outbox inv found (by decide) (calm_of present state (by decide)) rfl (by simp [CaseView.state])
  | shadowed row row' r actions o _ present state moved found resolved =>
    exact resolved.outbox inv found (by decide) (calm_of present state (by decide)) rfl (by simp [CaseView.state])
  | late r t object found accepted =>
    have unsettled : r.status ≠ .pending := by rcases accepted with e | e <;> rw [e] <;> decide
    have idle : r.openAttempts = [] := not_not.mp fun open_ => unsettled ((inv.sound r found).running open_)
    have resolved : (r.resolve .succeeded t object none).Sound :=
      (inv.sound r found).settled (fun h => by cases h) idle ⟨rfl, rfl, rfl⟩
    exact inv.replace found rfl (fun _ => rfl) resolved (inv.present found) (fun pending => by cases pending)
      (fun _ _ _ _ => rfl)
  | mismatched row row' present state unescalated moved =>
    exact inv.move rfl (calm_of present state (by decide)) (by simp [CaseView.state])

theorem Served.elsewhere (away : v'.state ∉ executable) : Served v' := fun here => absurd here away

theorem Served.update {r : ActionRow} {f : ActionRow → ActionRow} (inv : Outbox v) (served : Served v)
    (found : r ∈ v.actions) (actions : v'.actions = Table.update ActionRow.id r.id f v.actions)
    (kept : r.status = .pending → (f r).status = .pending) (state : v'.state ∈ executable → v.state ∈ executable) :
    Served v' := by
  intro here
  obtain ⟨s, member, pending⟩ := served (state here)
  rw [actions]
  by_cases same : s.id = r.id
  · obtain rfl := List.inj_on_of_nodup_map inv.ids member found same
    exact ⟨f s, (Table.mem_update_found inv.ids found).mpr (.inl rfl), kept pending⟩
  · exact ⟨s, (Table.mem_update_found inv.ids found).mpr (.inr ⟨member, same⟩), pending⟩

theorem settled_elsewhere {row row' : CaseRow} {s : CaseState} (moved : row.Moved s row') (calm : some s ∉ executable) :
    some row'.case.state ∉ executable := by
  rw [moved.state]
  exact calm

theorem settled_among {row row' : CaseRow} {s : CaseState} {states : List CaseState} (moved : row.Moved s row')
    (after : s ∈ states) (calm : ∀ s ∈ states, some s ∉ executable) : some row'.case.state ∉ executable :=
  settled_elsewhere moved (calm s after)

theorem Change.served (h : Change excluded db k v v') (fresh : excluded .reusedKey) (inv : Outbox v) (served : Served v) :
    Served v' := by
  cases h with
  | idle | linked => exact served
  | opened row _ _ state => exact .elsewhere (by rw [CaseView.state, Option.map_some, state]; decide)
  | heard row' _ _ _ _ _ stopped => exact .elsewhere (by rw [CaseView.state, Option.map_some, stopped]; decide)
  | prepared row row' s _ _ after moved =>
    exact .elsewhere (settled_among moved after (by decide))
  | decided row row' s _ reviews _ _ moved settles => exact .elsewhere (settled_elsewhere moved settles.calm)
  | unreviewed row row' _ _ _ _ moved => exact .elsewhere (settled_elsewhere moved (by decide))
  | authorized row row' _ action version deadline _ _ _ _ _ pending =>
    exact fun _ => ⟨_, List.mem_append_right _ (List.mem_singleton_self _), pending⟩
  | reauthorized row row' _ allowed => exact absurd fresh allowed
  | reviewed row row' s _ _ _ _ after moved => exact .elsewhere (settled_among moved after (by decide))
  | leased id token now leaseFor =>
    by_cases member : ∃ r ∈ v.actions, r.id = id
    · obtain ⟨r, found, rfl⟩ := member
      exact served.update inv found rfl id id
    · rw [Table.update_absent fun r hr same => member ⟨r, hr, same⟩]
      exact served
  | begun row row' r _ _ present state _ found pending =>
    refine served.update inv found rfl id fun _ => ?_
    rw [v.state_of present]
    revert state
    cases row.case.state <;> decide
  | blocked row row' s _ _ _ reviews _ _ moved settles => exact .elsewhere (settled_elsewhere moved settles.calm)
  | retried r _ _ _ _ _ found _ again => exact served.update inv found rfl (fun _ => again) id
  | finished row row' s _ _ _ _ _ _ _ _ _ after moved => exact .elsewhere (settled_among moved after (by decide))
  | lost row row' r _ _ _ _ present moved found inFlight =>
    have pending := (inv.sound r found).running inFlight
    refine .elsewhere (settled_elsewhere moved ?_)
    split
    · decide
    · rename_i other
      intro here
      have ready : row.case.state = .ready := by simpa [executable, other] using here
      refine inFlight ?_
      rw [ActionRow.openAttempts, inv.fresh (by rw [v.state_of present, ready]) r found pending]
      rfl
  | unresolved row row' _ _ _ _ _ _ _ moved => exact .elsewhere (settled_elsewhere moved (by decide))
  | reconciled row row' s _ _ _ _ _ _ after moved => exact .elsewhere (settled_among moved after (by decide))
  | credited row row' _ _ _ _ _ moved => exact .elsewhere (settled_elsewhere moved (by decide))
  | shadowed row row' _ _ _ _ _ _ moved => exact .elsewhere (settled_elsewhere moved (by decide))
  | late r _ _ found accepted =>
    refine served.update inv found rfl (fun pending => ?_) id
    rcases accepted with e | e <;> rw [e] at pending <;> cases pending
  | mismatched row row' _ _ _ moved => exact .elsewhere (settled_elsewhere moved (by decide))

end protocol

theorem Ambient.outbox (h : Ambient db db') (inv : Outbox (view k db)) : Outbox (view k db') :=
  inv.same (h.view_actions k) (h.state k)

theorem Ambient.served (h : Ambient db db') (served : Served (view k db)) : Served (view k db') := by
  unfold Served
  rw [h.state, h.view_actions]
  exact served

theorem outbox_invariant (guarded : excluded .cancelInFlight) (reach : ReachableUnder rt (Command.Avoids rt excluded) db)
    (k : CaseKey) : Outbox (view k db) := by
  have invariant := reach.invariant (fun db => ∀ k, Outbox (view k db)) (fun _ => .empty rfl)
    (fun _ step inv k => (step.change k).outbox guarded (inv k)) (fun _ ambient inv k => ambient.outbox (inv k))
  exact invariant.2 k

theorem served_invariant (fresh : excluded .reusedKey) (guarded : excluded .cancelInFlight)
    (reach : ReachableUnder rt (Command.Avoids rt excluded) db) (k : CaseKey) :
    Outbox (view k db) ∧ Served (view k db) := by
  have invariant := reach.invariant (fun db => ∀ k, Outbox (view k db) ∧ Served (view k db))
    (fun _ => ⟨.empty rfl, fun here => by cases here <;> contradiction⟩)
    (fun _ step inv k => ⟨(step.change k).outbox guarded (inv k).1, (step.change k).served fresh (inv k).1 (inv k).2⟩)
    (fun _ ambient inv k => ⟨ambient.outbox (inv k).1, ambient.served (inv k).2⟩)
  exact invariant.2 k

end RevenueGuard
