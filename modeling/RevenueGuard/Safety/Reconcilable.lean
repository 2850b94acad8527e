import RevenueGuard.Safety.Recovered

/-
Unresolved cases. A case that is UNKNOWN or VERIFYING has an action that
reconciliation selects, as long as no lookup without authority fails the last
one and no action is cancelled during its provider call.
-/
namespace RevenueGuard

variable {db db' : Database} {rt : Runtime} {excluded : Kind → Prop} {k : CaseKey} {v v' : CaseView} {r : ActionRow}

def awaiting : List (Option CaseState) := [some .unknown, some .verifying]

/-- A case that waits for an outcome has an action that is still to be reconciled. -/
def Reconcilable (v : CaseView) : Prop := v.state ∈ awaiting → ∃ r ∈ v.actions, r.Unresolved

theorem Reconcilable.elsewhere (away : v'.state ∉ awaiting) : Reconcilable v' := fun here => absurd here away

theorem settled_away {row row' : CaseRow} {s : CaseState} {states : List CaseState} (moved : row.Moved s row')
    (after : s ∈ states) (away : ∀ s ∈ states, some s ∉ awaiting) : some row'.case.state ∉ awaiting := by
  rw [moved.state]
  exact away s after

theorem Settles.away {s : CaseState} {reviews : List HumanReviewRequest} (h : Settles k s reviews) : some s ∉ awaiting := by
  rcases h with ⟨state, -⟩ | ⟨rfl, -⟩
  · revert s
    decide
  · decide

/-- Rewriting one action leaves another open one, or keeps the action itself open. -/
theorem Reconcilable.update {f : ActionRow → ActionRow} (open_ : Reconcilable v) (ids : (v.actions.map ActionRow.id).Nodup)
    (found : r ∈ v.actions) (actions : v'.actions = Table.update ActionRow.id r.id f v.actions)
    (kept : r.Unresolved → (f r).Unresolved) (state : v'.state ∈ awaiting → v.state ∈ awaiting) : Reconcilable v' := by
  intro here
  obtain ⟨s, member, unresolved⟩ := open_ (state here)
  rw [actions]
  by_cases same : s.id = r.id
  · obtain rfl := List.inj_on_of_nodup_map ids member found same
    exact ⟨f s, (Table.mem_update_found ids found).mpr (.inl rfl), kept unresolved⟩
  · exact ⟨s, (Table.mem_update_found ids found).mpr (.inr ⟨member, same⟩), unresolved⟩

theorem Reconcilable.holds (open_ : ∃ x ∈ v'.actions, x.Unresolved) : Reconcilable v' := fun _ => open_

theorem resolve_unresolved {t : Instant} {object code : Option String} (h : r.Unresolved) :
    (r.resolve .succeeded t object code).Unresolved := ⟨.inl rfl, h.2⟩

/-- Resolving an action keeps a case reconcilable, unless it fails the last open one. -/
theorem Resolved.reconcilable {s : ActionStatus} {actions : List ActionRow} (ids : (v.actions.map ActionRow.id).Nodup)
    (found : r ∈ v.actions) (settled : s ∈ [ActionStatus.succeeded, .failed])
    (others : s = .failed → OtherOpen r v.actions) (open_ : Reconcilable v) (state : v.state ∈ awaiting)
    (h : Resolved r.id s v.actions actions) : ∃ x ∈ actions, x.Unresolved := by
  rcases h with rfl | ⟨t, object, code, rfl⟩
  · exact open_ state
  · have resolved : s = .succeeded ∨ s = .failed := by simpa using settled
    rcases resolved with rfl | rfl
    · have kept : Reconcilable { v with actions := Table.update ActionRow.id r.id (·.resolve .succeeded t object code) v.actions } :=
        Reconcilable.update open_ ids found rfl resolve_unresolved id
      exact kept state
    · obtain ⟨x, member, apart, unresolved⟩ := others rfl
      exact ⟨x, (Table.mem_update_found ids found).mpr (.inr ⟨member, apart⟩), unresolved⟩

theorem Change.reconcilable (h : Change excluded db k v v') (confirmed : excluded .unconfirmedFailure) (inv : Outbox v)
    (open_ : Reconcilable v) : Reconcilable v' := by
  have live : ∀ r ∈ v.actions, r.openAttempts ≠ [] → r.deadLetteredAt = none := fun r found running =>
    ((inv.sound r found).live ((inv.sound r found).running running)).1
  cases h with
  | idle | linked => exact open_
  | opened row _ _ state => exact .elsewhere (by rw [CaseView.state, Option.map_some, state]; decide)
  | heard row' _ _ _ _ _ stopped => exact .elsewhere (by rw [CaseView.state, Option.map_some, stopped]; decide)
  | prepared _ _ _ _ _ after moved => exact .elsewhere (settled_away moved after (by decide))
  | decided _ _ s _ _ _ _ moved settles => exact .elsewhere (by rw [CaseView.state, Option.map_some, moved.state]; exact settles.away)
  | unreviewed _ _ _ _ _ _ moved => exact .elsewhere (settled_away moved (List.mem_singleton_self _) (by decide))
  | authorized _ _ _ _ _ _ _ _ moved => exact .elsewhere (settled_away moved (List.mem_singleton_self _) (by decide))
  | reauthorized _ _ _ _ _ _ moved => exact .elsewhere (settled_away moved (List.mem_singleton_self _) (by decide))
  | reviewed _ _ _ _ _ _ _ after moved => exact .elsewhere (settled_away moved after (by decide))
  | leased id token now leaseFor =>
    by_cases member : ∃ r ∈ v.actions, r.id = id
    · obtain ⟨r, found, rfl⟩ := member
      exact open_.update inv.ids found rfl id id
    · rw [Table.update_absent fun r hr same => member ⟨r, hr, same⟩]
      exact open_
  | begun _ _ _ _ _ _ _ moved => exact .elsewhere (settled_away moved (List.mem_singleton_self _) (by decide))
  | blocked _ _ s _ _ _ _ _ _ moved settles =>
    exact .elsewhere (by rw [CaseView.state, Option.map_some, moved.state]; exact settles.away)
  | retried r token c retryAt deadline _ found inFlight =>
    obtain ⟨a, ha, -⟩ := id inFlight
    have executing := inv.pending r found ((inv.sound r found).running (List.ne_nil_of_mem ha))
    refine .elsewhere fun here => ?_
    revert executing here
    change v.state ∈ executable → v.state ∈ awaiting → False
    cases v.state with
    | none => decide
    | some s => cases s <;> decide
  | finished row row' s r token c retryAt deadline outcomes _ present state after moved found inFlight settled accepted =>
    by_cases failed : s = .decisionPending
    · exact .elsewhere (settled_away moved (List.mem_singleton.mpr failed) (by decide))
    · have resolvable := accepted failed
      obtain ⟨a, ha, -⟩ := id inFlight
      refine .holds ⟨_, (Table.mem_update_found inv.ids found).mpr (.inl rfl), resolvable, ?_⟩
      exact finish_undead (live r found (List.ne_nil_of_mem ha)) resolvable
  | lost row row' r now deadline outcomes _ present moved found inFlight =>
    exact .holds ⟨_, (Table.mem_update_found inv.ids found).mpr (.inl rfl), .inr rfl, live r found inFlight⟩
  | unresolved _ _ _ _ _ _ _ _ _ moved => exact .elsewhere (settled_away moved (List.mem_singleton_self _) (by decide))
  | reconciled row row' s r status actions outcomes present state after moved found settled lasts resolved =>
    by_cases pending : s = .decisionPending
    · exact .elsewhere (settled_away moved (List.mem_singleton.mpr pending) (by decide))
    · have verifying : s = .verifying := by simpa [pending] using after
      exact .holds (resolved.reconcilable inv.ids found settled (fun failed => lasts verifying failed confirmed) open_
        (live_of present state))
  | credited _ _ _ _ _ _ _ moved => exact .elsewhere (settled_away moved (List.mem_singleton_self _) (by decide))
  | shadowed _ _ _ _ _ _ _ _ moved => exact .elsewhere (settled_away moved (List.mem_singleton_self _) (by decide))
  | late r t object found accepted => exact open_.update inv.ids found rfl resolve_unresolved id
  | mismatched _ _ _ _ _ moved => exact .elsewhere (settled_away moved (List.mem_singleton_self _) (by decide))

/-- What can leave an unresolved case with nothing to reconcile. -/
def unreconciled : List Kind := [.unconfirmedFailure, .cancelInFlight]

theorem reconcilable_invariant (reach : ReachableUnder rt (Command.Avoids rt (· ∈ unreconciled)) db) (k : CaseKey) :
    Reconcilable (view k db) := by
  have invariant := reach.invariant (fun db => ∀ k, Outbox (view k db) ∧ Reconcilable (view k db))
    (fun _ => ⟨.empty rfl, .elsewhere (show none ∉ awaiting by decide)⟩)
    (fun _ step inv k => ⟨(step.change k).outbox (by decide) (inv k).1,
      (step.change k).reconcilable (by decide) (inv k).1 (inv k).2⟩)
    (fun _ ambient inv k => ⟨ambient.outbox (inv k).1, by
      unfold Reconcilable
      rw [ambient.state, ambient.view_actions]
      exact (inv k).2⟩)
  exact (invariant.2 k).2

/-- Reconciliation, given room, returns the action at every time from its `unknown_since` on. -/
def SelectedAlways (rt : Runtime) (db : Database) (r : ActionRow) : Prop :=
  ∀ now, (∀ t ∈ r.unknownSince, t ≤ now) → ∀ limit, db.actions.length ≤ limit → r ∈ actionsForReconciliation rt now limit db

/-- A case that waits for an outcome has an action UNKNOWN or SUCCEEDED, not dead-lettered, that reconciliation selects. -/
def NotForgotten (rt : Runtime) (db : Database) (k : CaseKey) : Prop :=
  ∃ r ∈ db.actions, r.key = k ∧ r.Unresolved ∧ SelectedAlways rt db r

theorem selected_always {case : RecoveryCase} (found : r ∈ db.actions) (unresolved : r.Unresolved)
    (owned : db.caseOf r.key = some case) (state : case.state = .unknown ∨ case.state = .verifying) :
    SelectedAlways rt db r := by
  intro now since limit room
  unfold actionsForReconciliation
  rw [List.take_of_length_le, List.mem_insertionSort]
  · exact List.mem_filter.mpr ⟨found, decide_eq_true ⟨unresolved.1, unresolved.2, ⟨case, owned, state⟩, since⟩⟩
  · rw [List.length_insertionSort]
    exact (List.length_filter_le _ _).trans room

theorem unresolved_case_not_forgotten (reach : ReachableUnder rt (Command.Avoids rt (· ∈ unreconciled)) db)
    (waiting : db.stateOf k ∈ awaiting) : NotForgotten rt db k := by
  obtain ⟨r, member, unresolved⟩ := reconcilable_invariant reach k waiting
  obtain ⟨found, here⟩ := Table.mem_select.mp member
  have stateOf : db.stateOf k = (db.caseOf k).map (·.state) := by
    rw [Database.caseOf, Option.map_map]
    rfl
  rw [stateOf] at waiting
  cases owned : db.caseOf k with
  | none =>
    rw [owned] at waiting
    exact absurd waiting (show none ∉ awaiting by decide)
  | some case =>
    rw [owned] at waiting
    refine ⟨r, found, here, unresolved, selected_always found unresolved (here ▸ owned) ?_⟩
    simpa [awaiting] using waiting

section runs

/-- The accepted payment link is looked up and reported failed, without authority. -/
def failureUnconfirmed : List Command := linkAccepted ++ [.recordLookup link1 (lookedUp .failed false 40 failed_final)]

set_option maxRecDepth 100000 in
theorem unresolved_case_not_forgotten_accepted : NotForgotten {} (execAll {} linkAccepted {}) case1 :=
  unresolved_case_not_forgotten (reaches_runAvoids (by decide +kernel)) (by decide +kernel)

set_option maxRecDepth 100000 in
theorem unresolved_case_forgotten : ¬ ∀ (rt : Runtime) (db : Database), Reachable rt db → ∀ k : CaseKey,
    db.stateOf k ∈ awaiting → NotForgotten rt db k := by
  intro kept
  have reached := reachable_execAll {} failureUnconfirmed
  obtain ⟨r, found, -, unresolved, -⟩ := kept {} _ reached case1 (by decide +kernel)
  have none : ∀ r ∈ (execAll {} failureUnconfirmed {}).actions, ¬ r.Unresolved := by decide +kernel
  exact none r found unresolved

end runs

end RevenueGuard
