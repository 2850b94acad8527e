import RevenueGuard.Kit.Sums
import RevenueGuard.Safety.ReadyCases

/-
Recovered money. A case that is not RECOVERED has no outcome that credits money
and a RECOVERED one has at most one; without shadowed outcomes it has exactly
one, and the totals are the sums of these.
-/
namespace RevenueGuard

variable {db db' : Database} {rt : Runtime} {excluded : Kind → Prop} {k : CaseKey} {v v' : CaseView}

/-- What an action keeps for good. -/
def ActionRow.stamp (r : ActionRow) : ActionIdentity × ActionParameters := (r.id, r.action.parameters)

theorem finish_stamp (r : ActionRow) (token : String) (c : AttemptCompletion) (t d : Instant) :
    (r.finish token c t d).stamp = r.stamp := by
  unfold ActionRow.finish
  split <;> rfl

theorem stamps_update {id : ActionIdentity} {f : ActionRow → ActionRow} (same : ∀ r, (f r).stamp = r.stamp)
    (actions : List ActionRow) :
    (Table.update ActionRow.id id f actions).map ActionRow.stamp = actions.map ActionRow.stamp :=
  Table.map_update (fun r _ => same r) actions

theorem Resolved.stamps {id : ActionIdentity} {s : ActionStatus} {before after : List ActionRow}
    (h : Resolved id s before after) : after.map ActionRow.stamp = before.map ActionRow.stamp := by
  rcases h with rfl | ⟨t, object, code, rfl⟩
  · rfl
  · exact stamps_update (fun _ => by rfl) _

/-- Actions stay and keep their parameters; a new one has an identity of its own. -/
theorem Change.stamps (h : Change excluded db k v v') : v'.actions.map ActionRow.stamp = v.actions.map ActionRow.stamp ∨
    ∃ r, v'.actions = v.actions ++ [r] ∧ ∀ x ∈ v.actions, x.id ≠ r.id := by
  cases h with
  | authorized _ _ _ _ _ _ _ _ _ _ _ _ _ _ new => exact .inr ⟨_, rfl, new⟩
  | leased | begun | blocked | lost | late => exact .inl (stamps_update (fun _ => by rfl) _)
  | retried | finished => exact .inl (stamps_update (fun r => by exact finish_stamp r _ _ _ _) _)
  | unresolved _ _ _ f _ _ _ _ _ _ _ marked =>
    rcases marked with rfl | ⟨-, rfl⟩ <;> exact .inl (stamps_update (fun _ => by rfl) _)
  | reconciled _ _ _ _ _ _ _ _ _ _ _ _ _ _ resolved => exact .inl resolved.stamps
  | credited _ _ _ _ _ _ _ _ _ resolved => exact .inl resolved.stamps
  | shadowed _ _ _ _ _ _ _ _ _ _ resolved => exact .inl resolved.stamps
  | _ => exact .inl rfl

theorem Change.keeps_stamps (h : Change excluded db k v v') :
    v.actions.map ActionRow.stamp ⊆ v'.actions.map ActionRow.stamp := by
  rcases h.stamps with same | ⟨r, added, -⟩
  · rw [same]
    exact List.Subset.refl _
  · rw [added]
    exact List.map_subset _ (List.subset_append_left _ _)

theorem ids_of_stamps {before after : List ActionRow} (h : after.map ActionRow.stamp = before.map ActionRow.stamp) :
    after.map ActionRow.id = before.map ActionRow.id := by
  have firsts := congrArg (List.map Prod.fst) h
  rw [List.map_map, List.map_map] at firsts
  exact firsts

theorem Change.action_ids (h : Change excluded db k v v') (nodup : (v.actions.map ActionRow.id).Nodup) :
    (v'.actions.map ActionRow.id).Nodup := by
  rcases h.stamps with same | ⟨r, added, new⟩
  · rw [ids_of_stamps same]
    exact nodup
  · rw [added]
    exact Table.nodup_append_new nodup (Table.lookup_none.mpr new)

theorem action_ids_invariant (reach : ReachableUnder rt (Command.Avoids rt excluded) db) (k : CaseKey) :
    ((view k db).actions.map ActionRow.id).Nodup := by
  have invariant := reach.invariant (fun db => ∀ k, ((view k db).actions.map ActionRow.id).Nodup)
    (fun _ => List.nodup_nil) (fun _ step inv k => (step.change k).action_ids (inv k))
    (fun _ ambient inv k => by rw [ambient.view_actions]; exact inv k)
  exact invariant.2 k

theorem Reachable.actions_found (reach : Reachable rt db) : ∀ a ∈ db.actions, db.action a.id = some a := by
  intro a member
  rw [action_of_view]
  exact Table.lookup_of_mem (action_ids_invariant reach.under a.id.key) (Table.mem_select.mpr ⟨member, rfl⟩)

theorem terminal_of {row : CaseRow} {s : CaseState} {states : List CaseState} (present : v.row = some row)
    (done : v.state = some s) (terminal : s.Terminal) (state : row.case.state ∈ states)
    (live : ∀ s ∈ states, ¬ s.Terminal) : False := by
  rw [v.state_of present, Option.some.injEq] at done
  rw [done] at state
  exact live s state terminal

theorem edge_live {s t : CaseState} (edge : t ∈ allowedTransitions s) : ¬ s.Terminal := by
  intro terminal
  rcases (terminal_iff s).mp terminal with rfl | rfl <;> cases edge

/-- A finished case stays as it is. -/
theorem Change.terminal {s : CaseState} (h : Change excluded db k v v') (done : v.state = some s) (terminal : s.Terminal) :
    v'.state = some s := by
  cases h with
  | idle | linked | leased | retried | late => exact done
  | opened row absent => rw [CaseView.state, absent] at done; cases done
  | heard row' _ _ _ _ before =>
    cases present : v.row with
    | none => rw [CaseView.state, present] at done; cases done
    | some row => exact (terminal_of present done terminal (before row present).1 (by decide)).elim
  | prepared _ _ _ present state => exact (terminal_of present done terminal state (by decide)).elim
  | decided _ _ _ _ _ present state =>
    exact (terminal_of present done terminal (List.mem_singleton.mpr state) (by decide)).elim
  | unreviewed _ _ _ _ present state =>
    exact (terminal_of present done terminal (List.mem_singleton.mpr state) (by decide)).elim
  | authorized _ _ _ _ _ _ present state =>
    exact (terminal_of present done terminal (List.mem_singleton.mpr state) (by decide)).elim
  | reauthorized _ _ _ _ present state =>
    exact (terminal_of present done terminal (List.mem_singleton.mpr state) (by decide)).elim
  | reviewed row _ _ _ _ present edge =>
    rw [v.state_of present, Option.some.injEq] at done
    exact absurd terminal (done ▸ edge_live edge)
  | begun _ _ _ _ _ present state => exact (terminal_of present done terminal state (by decide)).elim
  | blocked _ _ _ _ _ _ _ present state => exact (terminal_of present done terminal state (by decide)).elim
  | finished _ _ _ _ _ _ _ _ _ _ present state => exact (terminal_of present done terminal state (by decide)).elim
  | lost row row' _ _ _ _ _ present moved =>
    rw [v.state_of present] at done
    rw [CaseView.state, Option.map_some, moved.state, ← done]
    split
    · rename_i executing
      rw [executing, Option.some.injEq] at done
      subst done
      exact absurd terminal (by decide)
    · rfl
  | unresolved _ _ _ _ _ _ _ present state => exact (terminal_of present done terminal state (by decide)).elim
  | reconciled _ _ _ _ _ _ _ present state => exact (terminal_of present done terminal state (by decide)).elim
  | credited _ _ _ _ _ present state => exact (terminal_of present done terminal state (by decide)).elim
  | shadowed _ _ _ _ _ _ present state => exact (terminal_of present done terminal state (by decide)).elim
  | mismatched _ _ present state => exact (terminal_of present done terminal state (by decide)).elim

/-- What a step does to the outcomes of a case. -/
inductive Observes (k : CaseKey) (v v' : CaseView) : Prop
  | quiet (same : v'.outcomes = v.outcomes)
  | noted (r : ActionRow) (found : r ∈ v.actions) (noted : Noted k r v.outcomes v'.outcomes)
  | credited (r : ActionRow) (o : VerifiedOutcome) (found : r ∈ v.actions) (live : v.state ∈ [some .unknown, some .verifying])
      (recovered : v'.state = some .recovered) (made : o.Of k r) (credits : creditsMoney o = true)
      (amount : o.recoveredAmountMinor = r.action.parameters.amountMinor)
      (currency : o.currency = r.action.parameters.currency) (outcomes : v'.outcomes = v.outcomes ++ [o])

theorem live_of {row : CaseRow} (present : v.row = some row) (state : row.case.state ∈ [CaseState.unknown, .verifying]) :
    v.state ∈ [some CaseState.unknown, some .verifying] := by
  rw [v.state_of present]
  exact List.mem_map_of_mem (f := some) state

theorem Change.observes (h : Change excluded db k v v') : Observes k v v' := by
  cases h with
  | finished _ _ _ r _ _ _ _ _ _ _ _ _ _ found _ _ _ noted => exact .noted r found noted
  | lost _ _ r _ _ _ _ _ _ found _ noted => exact .noted r found noted
  | unresolved _ _ r _ _ _ _ _ _ _ found _ noted => exact .noted r found noted
  | reconciled _ _ _ r _ _ _ _ _ _ _ found _ _ _ noted => exact .noted r found noted
  | credited row row' r actions o present state moved found resolved made credits amount currency =>
    exact .credited r o found (live_of present state) (congrArg some moved.state) made credits amount currency rfl
  | _ => exact .quiet rfl

/-- An outcome as an action of the case left it: one that credits money credits the whole action. -/
structure VerifiedOutcome.Recorded (o : VerifiedOutcome) (k : CaseKey) (actions : List ActionRow) : Prop where
  key : o.key = k
  home : o.actionId.key = k
  id : o.outcomeId.actionId = o.actionId
  signed : o.SignedSuccess → creditsMoney o = true
  paid : creditsMoney o = true → (o.actionId, o.recoveredAmountMinor, o.currency) ∈
    actions.map fun r => (r.id, r.action.parameters.amountMinor, r.action.parameters.currency)

structure Credited (k : CaseKey) (v : CaseView) : Prop where
  recorded : ∀ o ∈ v.outcomes, o.Recorded k v.actions
  once : (v.outcomes.filter creditsMoney).length ≤ 1
  recovered : v.outcomes.filter creditsMoney ≠ [] → v.state = some .recovered

theorem paid_subset {before after : List ActionRow} {x : ActionIdentity × Nat × Currency}
    (h : before.map ActionRow.stamp ⊆ after.map ActionRow.stamp)
    (paid : x ∈ before.map fun r => (r.id, r.action.parameters.amountMinor, r.action.parameters.currency)) :
    x ∈ after.map fun r => (r.id, r.action.parameters.amountMinor, r.action.parameters.currency) := by
  obtain ⟨r, member, rfl⟩ := List.mem_map.mp paid
  obtain ⟨s, stays, same⟩ := List.mem_map.mp (h (List.mem_map_of_mem member))
  simp only [ActionRow.stamp, Prod.mk.injEq] at same
  exact List.mem_map.mpr ⟨s, stays, by rw [same.1, same.2]⟩

theorem VerifiedOutcome.Recorded.mono {o : VerifiedOutcome} {before after : List ActionRow} (h : o.Recorded k before)
    (stays : before.map ActionRow.stamp ⊆ after.map ActionRow.stamp) : o.Recorded k after :=
  ⟨h.key, h.home, h.id, h.signed, fun credits => paid_subset stays (h.paid credits)⟩

theorem Uncredited.recorded {o : VerifiedOutcome} {r : ActionRow} {actions : List ActionRow} (made : o.Of k r)
    (here : r.key = k) (none : o.Uncredited) : o.Recorded k actions where
  key := made.key
  home := by rw [made.action]; exact here
  id := by rw [made.idAction, made.action]
  signed := fun signed => absurd signed none.unsigned
  paid := fun credits => by rw [none.credits] at credits; cases credits

/-- No step records a credit for a case that is not on its way to RECOVERED, or two for one case. -/
theorem Change.credited_once (h : Change excluded db k (view k db) v') (inv : Credited k (view k db)) : Credited k v' := by
  have stays := h.keeps_stamps
  have old : ∀ o ∈ (view k db).outcomes, o.Recorded k v'.actions := fun o member => (inv.recorded o member).mono stays
  have terminal : (view k db).outcomes.filter creditsMoney ≠ [] → v'.state = some .recovered := fun some_ =>
    h.terminal (inv.recovered some_) (by decide)
  have homes : ∀ r ∈ (view k db).actions, r.key = k := fun r member => (Table.mem_select.mp member).2
  rcases h.observes with same | ⟨r, found, same | ⟨o, made, none, seen⟩⟩ |
    ⟨r, o, found, live, recovered, made, credits, amount, currency, seen⟩
  · exact ⟨by rw [same]; exact old, by rw [same]; exact inv.once, by rw [same]; exact terminal⟩
  · exact ⟨by rw [same]; exact old, by rw [same]; exact inv.once, by rw [same]; exact terminal⟩
  · have unchanged : v'.outcomes.filter creditsMoney = (view k db).outcomes.filter creditsMoney := by
      rw [seen, List.filter_append]
      simp [none.credits]
    refine ⟨fun p member => ?_, by rw [unchanged]; exact inv.once, by rw [unchanged]; exact terminal⟩
    rw [seen, List.mem_append, List.mem_singleton] at member
    rcases member with before | rfl
    · exact old p before
    · exact Uncredited.recorded made (homes r found) none
  · have none : (view k db).outcomes.filter creditsMoney = [] := by
      by_contra some_
      rw [inv.recovered some_] at live
      revert live
      decide
    refine ⟨fun p member => ?_, ?_, fun _ => recovered⟩
    · rw [seen, List.mem_append, List.mem_singleton] at member
      rcases member with before | rfl
      · exact old p before
      · refine ⟨made.key, by rw [made.action]; exact homes r found, by rw [made.idAction, made.action], fun _ => credits,
          fun _ => paid_subset stays ?_⟩
        exact List.mem_map.mpr ⟨r, found, by rw [made.action, amount, currency]⟩
    · rw [seen, List.filter_append, none]
      simp [credits]

/-- Where a step can recover a case: by crediting it, or under a name an outcome has already. -/
theorem Change.recovers (h : Change excluded db k v v') (recovered : v'.state = some .recovered) :
    v.state = some .recovered ∨ v'.outcomes.filter creditsMoney ≠ [] ∨
      (v.state ∈ [some .unknown, some .verifying] ∧ ∃ o ∈ db.outcomes, ∃ r ∈ v.actions, o.outcomeId.actionId = r.id ∧
        (o.SignedSuccess ∨ ¬ excluded .shadowedOutcome)) := by
  have moved_from : ∀ {row row' : CaseRow} {s : CaseState} {states : List CaseState}, row.Moved s row' → s ∈ states →
      CaseState.recovered ∉ states → some row'.case.state ≠ some .recovered := fun moved after out same =>
    out (by rw [← Option.some.inj same, moved.state]; exact after)
  cases h with
  | idle | linked | leased | retried | late => exact .inl recovered
  | opened row absent key state =>
    rw [CaseView.state, Option.map_some, state] at recovered
    cases recovered
  | heard row' _ _ _ _ _ stopped =>
    rw [CaseView.state, Option.map_some, stopped] at recovered
    cases recovered
  | prepared _ _ _ _ _ after moved => exact absurd recovered (moved_from moved after (by decide))
  | decided _ _ s _ reviews _ _ moved settles =>
    rcases settles with ⟨after, -⟩ | ⟨rfl, -⟩
    · exact absurd recovered (moved_from moved after (by decide))
    · exact absurd recovered (moved_from moved (List.mem_singleton_self _) (by decide))
  | unreviewed _ _ _ _ _ _ moved => exact absurd recovered (moved_from moved (List.mem_singleton_self _) (by decide))
  | authorized _ _ _ _ _ _ _ _ moved =>
    exact absurd recovered (moved_from moved (List.mem_singleton_self _) (by decide))
  | reauthorized _ _ _ _ _ _ moved => exact absurd recovered (moved_from moved (List.mem_singleton_self _) (by decide))
  | reviewed _ _ _ _ _ _ _ after moved => exact absurd recovered (moved_from moved after (by decide))
  | begun _ _ _ _ _ _ _ moved => exact absurd recovered (moved_from moved (List.mem_singleton_self _) (by decide))
  | blocked _ _ s _ _ _ reviews _ _ moved settles =>
    rcases settles with ⟨after, -⟩ | ⟨rfl, -⟩
    · exact absurd recovered (moved_from moved after (by decide))
    · exact absurd recovered (moved_from moved (List.mem_singleton_self _) (by decide))
  | finished _ _ _ _ _ _ _ _ _ _ _ _ after moved => exact absurd recovered (moved_from moved after (by decide))
  | lost row row' _ _ _ _ _ present moved =>
    left
    rw [CaseView.state, Option.map_some, moved.state] at recovered
    rw [v.state_of present, ← recovered]
    split
    · rename_i executing
      rw [if_pos executing] at recovered
      cases recovered
    · rfl
  | unresolved _ _ _ _ _ _ _ _ _ moved =>
    exact absurd recovered (moved_from moved (List.mem_singleton_self _) (by decide))
  | reconciled _ _ _ _ _ _ _ _ _ after moved => exact absurd recovered (moved_from moved after (by decide))
  | credited _ _ _ _ o _ _ _ _ _ _ credits => exact .inr (.inl (by simp [List.filter_append, credits]))
  | shadowed row row' r actions o allowed present state moved found resolved stored same =>
    exact .inr (.inr ⟨live_of present state, o, stored, r, found, same, allowed⟩)
  | mismatched _ _ _ _ _ moved => exact absurd recovered (moved_from moved (List.mem_singleton_self _) (by decide))

/-- With no shadowed outcome, a RECOVERED case has its credit. -/
theorem Change.recovered_credits (h : Change excluded db k (view k db) v') (unshadowed : excluded .shadowedOutcome)
    (inv : ∀ k, Credited k (view k db))
    (credits : (view k db).state = some .recovered → (view k db).outcomes.filter creditsMoney ≠ [])
    (recovered : v'.state = some .recovered) : v'.outcomes.filter creditsMoney ≠ [] := by
  have grows : ∃ more, v'.outcomes = (view k db).outcomes ++ more := by
    rcases h.observes with same | ⟨r, found, same | ⟨o, made, none, seen⟩⟩ | ⟨r, o, _, _, _, _, _, _, _, seen⟩
    · exact ⟨[], by rw [same, List.append_nil]⟩
    · exact ⟨[], by rw [same, List.append_nil]⟩
    · exact ⟨_, seen⟩
    · exact ⟨_, seen⟩
  rcases h.recovers recovered with before | now | ⟨live, o, stored, r, found, same, signed | shadowed⟩
  · obtain ⟨more, seen⟩ := grows
    rw [seen, List.filter_append]
    exact fun none => credits before (List.append_eq_nil_iff.mp none).1
  · exact now
  · have member : o ∈ (view o.key db).outcomes := Table.mem_select.mpr ⟨stored, rfl⟩
    have recorded := (inv o.key).recorded o member
    have here : o.key = k := by
      rw [← recorded.home, ← recorded.id, same]
      exact (Table.mem_select.mp found).2
    rw [here] at member
    have done := (inv k).recovered (List.ne_nil_of_mem (List.mem_filter.mpr ⟨member, recorded.signed signed⟩))
    rw [done] at live
    exact absurd live (by decide)
  · exact absurd unshadowed shadowed

theorem Ambient.view_outcomes (h : Ambient db db') (k : CaseKey) : (view k db').outcomes = (view k db).outcomes := by
  simp only [view, h.outcomes]

theorem Ambient.credited (h : Ambient db db') (inv : Credited k (view k db)) : Credited k (view k db') :=
  ⟨by rw [h.view_outcomes, h.view_actions]; exact inv.recorded, by rw [h.view_outcomes]; exact inv.once,
    by rw [h.view_outcomes, h.state]; exact inv.recovered⟩

theorem credited_empty : Credited k (view k {}) :=
  ⟨fun _ h => absurd h List.not_mem_nil, Nat.zero_le _, fun h => absurd rfl h⟩

theorem credited_invariant (reach : ReachableUnder rt (Command.Avoids rt excluded) db) (k : CaseKey) :
    Credited k (view k db) := by
  have invariant := reach.invariant (fun db => ∀ k, Credited k (view k db)) (fun _ => credited_empty)
    (fun _ step inv k => (step.change k).credited_once (inv k)) (fun _ ambient inv k => ambient.credited (inv k))
  exact invariant.2 k

theorem recovered_invariant (reach : ReachableUnder rt (Command.Avoids rt excluded) db)
    (unshadowed : excluded .shadowedOutcome) (k : CaseKey)
    (recovered : (view k db).state = some .recovered) : (view k db).outcomes.filter creditsMoney ≠ [] := by
  have invariant := reach.invariant (fun db => ∀ k, Credited k (view k db) ∧
      ((view k db).state = some .recovered → (view k db).outcomes.filter creditsMoney ≠ []))
    (fun _ => ⟨credited_empty, fun h => by cases h⟩)
    (fun _ step inv k => ⟨(step.change k).credited_once (inv k).1,
      (step.change k).recovered_credits unshadowed (fun k => (inv k).1) (inv k).2⟩)
    (fun _ ambient inv k => ⟨ambient.credited (inv k).1, by rw [ambient.state, ambient.view_outcomes]; exact (inv k).2⟩)
  exact (invariant.2 k).2 recovered

/-- The authoritative successes among the outcomes of the case's actions. -/
def Database.creditsOf (db : Database) (k : CaseKey) : List VerifiedOutcome :=
  db.outcomes.filter fun o => decide (o.actionId.key = k) && creditsMoney o

/-- A RECOVERED case has one credit, for the amount of its action, and no other case has one. -/
def RecoveredOnce (db : Database) (k : CaseKey) : Prop :=
  db.stateOf k = some .recovered ↔ ∃ o r, db.creditsOf k = [o] ∧ db.action o.actionId = some r ∧
    o.recoveredAmountMinor = r.action.parameters.amountMinor ∧ o.currency = r.action.parameters.currency

/-- What the RECOVERED cases of a merchant recovered in one currency. -/
def Database.recoveredIn (db : Database) (merchantId : Identifier) (c : Currency) : Nat :=
  ((db.cases.filter fun r => decide (r.case.merchantId = merchantId ∧ r.case.state = .recovered)).map fun r =>
    (((db.creditsOf r.key).filter fun o => decide (o.currency = c)).map (·.recoveredAmountMinor)).sum).sum

/-- The totals name each currency once, with what the RECOVERED cases recovered in it. -/
structure TotalsExact (db : Database) (merchantId : Identifier) : Prop where
  distinct : ((recoveredTotals merchantId db).map (·.currency)).Nodup
  exact_ : ∀ t ∈ recoveredTotals merchantId db, t.recoveredAmountMinor = db.recoveredIn merchantId t.currency
  complete : ∀ c, db.recoveredIn merchantId c ≠ 0 → ∃ t ∈ recoveredTotals merchantId db, t.currency = c

theorem creditsOf_view (homes : ∀ o ∈ db.outcomes, o.actionId.key = o.key) :
    db.creditsOf k = (view k db).outcomes.filter creditsMoney := by
  simp only [Database.creditsOf, view, Table.select, List.filter_filter]
  refine List.filter_congr fun o member => ?_
  rw [homes o member, Bool.and_comm]

theorem recorded_homes (inv : ∀ k, Credited k (view k db)) : ∀ o ∈ db.outcomes, o.actionId.key = o.key := fun o member =>
  ((inv o.key).recorded o (Table.mem_select.mpr ⟨member, rfl⟩)).home

theorem creditsOf_nodup (inv : ∀ k, Credited k (view k db)) :
    ∀ o ∈ db.outcomes, creditsMoney o = true → db.creditsOf o.key = [o] ∧ db.stateOf o.key = some .recovered := by
  intro o member credits
  have here : o ∈ (view o.key db).outcomes.filter creditsMoney :=
    List.mem_filter.mpr ⟨Table.mem_select.mpr ⟨member, rfl⟩, credits⟩
  obtain ⟨p, only⟩ := List.length_eq_one_iff.mp (Nat.le_antisymm (inv o.key).once (List.length_pos_of_mem here))
  rw [only, List.mem_singleton] at here
  have done : db.stateOf o.key = some .recovered := (inv o.key).recovered (by rw [only]; exact List.cons_ne_nil _ _)
  exact ⟨by rw [creditsOf_view (recorded_homes inv), only, here], done⟩

/-- What one outcome adds to the total of its merchant and currency. -/
def VerifiedOutcome.counts (merchantId : Identifier) (c : Currency) (o : VerifiedOutcome) : Nat :=
  if o.merchantId = merchantId ∧ creditsMoney o = true ∧ o.currency = c then o.recoveredAmountMinor else 0

theorem credits_sum (merchantId : Identifier) (c : Currency) :
    (((db.credits merchantId).filter fun o => decide (o.currency = c)).map (·.recoveredAmountMinor)).sum =
      (db.outcomes.map (VerifiedOutcome.counts merchantId c)).sum := by
  rw [Database.credits, List.filter_filter, Table.sum_filter]
  refine congrArg List.sum (List.map_congr_left fun o _ => ?_)
  by_cases merchant : o.merchantId = merchantId <;> by_cases credits : creditsMoney o = true <;>
    by_cases same : o.currency = c <;> by_cases positive : 0 < o.recoveredAmountMinor <;>
    simp [VerifiedOutcome.counts, merchant, credits, same, positive]
  omega

theorem counts_credit {merchantId : Identifier} {c : Currency} {o : VerifiedOutcome} (h : o.counts merchantId c ≠ 0) :
    o.merchantId = merchantId ∧ creditsMoney o = true := by
  unfold VerifiedOutcome.counts at h
  split at h
  · rename_i all
    exact ⟨all.1, all.2.1⟩
  · exact absurd rfl h

theorem case_counts (inv : ∀ k, Credited k (view k db)) (keyed : Keyed db) {row : CaseRow} (member : row ∈ db.cases)
    (merchantId : Identifier) (c : Currency) :
    ((Table.select VerifiedOutcome.key row.key db.outcomes).map (VerifiedOutcome.counts merchantId c)).sum =
      if row.case.merchantId = merchantId ∧ row.case.state = .recovered then
        (((db.creditsOf row.key).filter fun o => decide (o.currency = c)).map (·.recoveredAmountMinor)).sum else 0 := by
  have merchant : ∀ o ∈ Table.select VerifiedOutcome.key row.key db.outcomes, o.merchantId = row.case.merchantId :=
    fun o here => congrArg CaseKey.merchantId (Table.mem_select.mp here).2
  split
  · rename_i mine
    rw [creditsOf_view (recorded_homes inv), List.filter_filter, Table.sum_filter]
    refine congrArg List.sum (List.map_congr_left fun o here => ?_)
    have owner : o.merchantId = merchantId := (merchant o here).trans mine.1
    by_cases credits : creditsMoney o = true <;> by_cases same : o.currency = c <;>
      simp [VerifiedOutcome.counts, owner, credits, same]
  · rename_i other
    refine Table.sum_zero fun o here => ?_
    by_contra counts
    obtain ⟨owner, credits⟩ := counts_credit counts
    obtain ⟨stored, key⟩ := Table.mem_select.mp here
    have recovered := (creditsOf_nodup inv o stored credits).2
    rw [key, Database.stateOf, CaseView.state_of (keyed.row member), Option.some.injEq] at recovered
    exact other ⟨(merchant o here).symm.trans owner, recovered⟩

theorem case_sum (inv : ∀ k, Credited k (view k db)) (keyed : Keyed db) (merchantId : Identifier) (c : Currency) :
    (db.outcomes.map (VerifiedOutcome.counts merchantId c)).sum = db.recoveredIn merchantId c := by
  have owned : ∀ o ∈ db.outcomes, o.counts merchantId c ≠ 0 → o.key ∈ db.cases.map CaseRow.key := by
    intro o member counts
    have recovered := (creditsOf_nodup inv o member (counts_credit counts).2).2
    cases present : (view o.key db).row with
    | none =>
      rw [Database.stateOf, CaseView.state, present] at recovered
      cases recovered
    | some row =>
      rw [← row_key present]
      exact List.mem_map_of_mem (Table.lookup_mem present)
  rw [Table.sum_by_key keyed.cases _ _ owned, Database.recoveredIn, Table.sum_filter]
  refine congrArg List.sum (List.map_congr_left fun row member => ?_)
  rw [case_counts inv keyed member]
  simp only [decide_eq_true_eq]

theorem totals_exact (inv : ∀ k, Credited k (view k db)) (keyed : Keyed db) (merchantId : Identifier) :
    TotalsExact db merchantId where
  distinct := by
    rw [recoveredTotals, List.map_map]
    change (List.map id _).Nodup
    rw [List.map_id, (List.perm_insertionSort _ _).nodup_iff]
    exact unique_nodup _
  exact_ := by
    intro t member
    obtain ⟨c, -, rfl⟩ := List.mem_map.mp member
    exact (credits_sum merchantId c).trans (case_sum inv keyed merchantId c)
  complete := by
    intro c counted
    rw [← case_sum inv keyed merchantId c, ← credits_sum merchantId c] at counted
    obtain ⟨n, member, -⟩ := List.exists_mem_ne_zero_of_sum_ne_zero counted
    obtain ⟨o, here, -⟩ := List.mem_map.mp member
    obtain ⟨credit, same⟩ := List.mem_filter.mp here
    refine ⟨_, List.mem_map_of_mem ((List.mem_insertionSort _).mpr (mem_unique.mpr ?_)), rfl⟩
    rw [← of_decide_eq_true same]
    exact List.mem_map_of_mem credit

theorem recovered_once (inv : Credited k (view k db)) (homes : ∀ o ∈ db.outcomes, o.actionId.key = o.key)
    (credits : (view k db).state = some .recovered → (view k db).outcomes.filter creditsMoney ≠ [])
    (ids : ((view k db).actions.map ActionRow.id).Nodup) : RecoveredOnce db k := by
  rw [RecoveredOnce, creditsOf_view homes]
  constructor
  · intro recovered
    have some_ := credits recovered
    obtain ⟨o, only⟩ := List.length_eq_one_iff.mp (Nat.le_antisymm inv.once (List.length_pos_of_ne_nil some_))
    obtain ⟨member, pays⟩ := List.mem_filter.mp (only ▸ List.mem_singleton_self o)
    have recorded := inv.recorded o member
    obtain ⟨r, found, same⟩ := List.mem_map.mp (recorded.paid pays)
    simp only [Prod.mk.injEq] at same
    refine ⟨o, r, only, ?_, same.2.1.symm, same.2.2.symm⟩
    rw [action_of_view, recorded.home, ← same.1]
    exact Table.lookup_of_mem ids found
  · rintro ⟨o, -, only, -⟩
    exact inv.recovered (by rw [only]; exact List.cons_ne_nil _ _)

theorem recovered_exactly_once (reach : ReachableUnder rt (Command.Avoids rt (· = .shadowedOutcome)) db) :
    (∀ k, RecoveredOnce db k) ∧ ∀ merchantId, TotalsExact db merchantId := by
  have inv := credited_invariant reach
  have unshadowed : (fun kind => kind = Kind.shadowedOutcome) .shadowedOutcome := rfl
  exact ⟨fun k => recovered_once (inv k) (recorded_homes inv) (recovered_invariant reach unshadowed k)
    (action_ids_invariant reach k), totals_exact inv reach.keyed⟩

section runs

def acceptedLink : ProviderExecutionResult :=
  { status := .succeeded
    evidenceSource := .providerResponse
    observedAt := 30
    responseCategory := "ACCEPTED"
    providerObjectId := some "plink-1"
    settled := by decide, unknown_final := by decide }

def lookedUp (status : ActionStatus) (authoritative : Bool) (at_ : Instant)
    (open_ : status = .unknown → authoritative = false := by decide) : ProviderLookupResult :=
  { status := status
    evidenceSource := .providerLookup
    evidenceReference := "lookup-1"
    observedAt := at_
    isAuthoritative := authoritative
    source_ok := lookup_source, unknown_open := open_ }

def linkAccepted : List Command := linkBegun linksOnly ++ [.recordExecutionResult link1 "lease-1" acceptedLink]

def linkPaid : List Command := linkAccepted ++ [.recordLookup link1 (lookedUp .succeeded true 50)]

/-- The payment is seen first without authority, then with it, under one reference. -/
def seenTwice : List Command :=
  linkAccepted ++ [.recordLookup link1 (lookedUp .succeeded false 40), .recordLookup link1 (lookedUp .succeeded true 50)]

set_option maxRecDepth 100000 in
theorem recovered_exactly_once_paid :
    (∀ k, RecoveredOnce (execAll {} linkPaid {}) k) ∧ ∀ merchantId, TotalsExact (execAll {} linkPaid {}) merchantId :=
  recovered_exactly_once (reaches_runAvoids (by decide +kernel))

set_option maxRecDepth 100000 in
theorem recovered_without_credit : ¬ ∀ (rt : Runtime) (db : Database), Reachable rt db →
    (∀ k, RecoveredOnce db k) ∧ ∀ merchantId, TotalsExact db merchantId := by
  intro once
  have recovered : (execAll {} seenTwice {}).stateOf case1 = some .recovered := by decide +kernel
  obtain ⟨o, r, credit, -⟩ := ((once {} _ (reachable_execAll {} seenTwice)).1 case1).mp recovered
  have empty : (execAll {} seenTwice {}).creditsOf case1 = [] := by decide +kernel
  rw [empty] at credit
  cases credit

end runs

end RevenueGuard
