import RevenueGuard.Kit.Hysteresis
import RevenueGuard.Protocol.Apart
import RevenueGuard.Safety.ReadyCases

/-
Incident windows. Over assessments in order the window of an active incident only
moves forward, and it resolves after enough clear windows since the latest
degraded assessment it was told of.
-/
namespace RevenueGuard

variable {db db' : Database} {rt : Runtime} {t : Instant} {a : DegradationAssessment} {policy : DegradationPolicy}
  {row : IncidentRow}

def DegradationPolicy.rule (policy : DegradationPolicy) : Hysteresis.Rule DegradationAssessment Instant :=
  { bad := (·.degraded)
    instant := (·.evaluatedAt)
    window := policy.currentWindow
    needed := policy.clearConsecutiveWindows
    window_nonneg := Int.le_of_lt policy.window_pos
    needed_pos := policy.clear_pos }

def IncidentRow.watch (r : IncidentRow) : Hysteresis.Watch Instant := ⟨r.updatedAt, r.clearWindowCount, r.resolvedAt⟩

def IncidentRow.dimension (r : IncidentRow) : Identifier × String := (r.merchantId, r.dimensionKey)

def DegradationAssessment.dimension (a : DegradationAssessment) : Identifier × String := (a.merchantId, dimensionKey a)

/-- Opened by an assessment, not declared by the merchant. -/
def IncidentRow.Assessed (r : IncidentRow) : Prop := r.dimensionKey ≠ "LEGACY"

theorem dimensionKey_assessed (a : DegradationAssessment) : dimensionKey a ≠ "LEGACY" := by
  intro same
  have bar : '|' ∈ (dimensionKey a).toList := by
    simp [dimensionKey, String.intercalate_cons_cons]
  rw [same] at bar
  revert bar
  decide

section effects

/-- The fields an assessment may change in the incident it falls on. -/
structure IncidentRow.Told (policy : DegradationPolicy) (a : DegradationAssessment) (r r' : IncidentRow) : Prop where
  id : r'.id = r.id
  dimension : r'.dimension = r.dimension
  startsAt : r'.incident.startsAt = r.incident.startsAt
  watch : r'.watch = r.watch.observe policy.rule a
  open_ : r'.status = .active → r'.resolvedAt = none
  closed : r'.status = .resolved → r'.resolvedAt.isSome = true
  endsAt : r'.status = .active → r' = r ∨ r'.incident.endsAt = r'.updatedAt + policy.incidentTtl

theorem IncidentRow.Told.moved {r r' : IncidentRow} (told : r.Told policy a r')
    (inOrder : a.degraded = true → r.updatedAt ≤ a.evaluatedAt) : r.updatedAt ≤ r'.updatedAt := by
  have watch : r.watch.updated ≤ (r.watch.observe policy.rule a).updated := Hysteresis.observe_updated inOrder
  rw [← told.watch] at watch
  exact watch

theorem extend_ok {i : IncidentConstraint} {endsAt : Instant} (window : i.startsAt < endsAt) :
    ∃ j : IncidentConstraint, i.extend endsAt = .ok j ∧ j.incidentId = i.incidentId ∧ j.startsAt = i.startsAt ∧
      j.endsAt = endsAt := by
  unfold IncidentConstraint.extend
  rw [dif_pos window]
  exact ⟨_, rfl, rfl, rfl, rfl⟩

/-- The incident with this key is replaced; the others stay. -/
def replaceIncident (row : IncidentRow) (rows : List IncidentRow) : List IncidentRow :=
  rows.map fun r => if r.id = row.id then row else r

theorem setIncident_incidents : (setIncident row).run db =
    .ok ((), { db with incidents := replaceIncident row db.incidents }) := by
  refine congrArg Except.ok (Prod.ext rfl ?_)
  simp only [replaceIncident, IncidentRow.id, Prod.mk.injEq]

theorem replaceIncident_self {rows : List IncidentRow} (nodup : (rows.map IncidentRow.id).Nodup) (member : row ∈ rows) :
    replaceIncident row rows = rows := by
  refine (List.map_congr_left fun r here => ?_).trans (List.map_id _)
  split
  · rename_i same
    exact (List.inj_on_of_nodup_map nodup here member same).symm
  · rfl

theorem resolveIncident_incidents {j : IncidentConstraint}
    (extended : row.incident.extend (max (row.incident.startsAt + 1) t) = .ok j) :
    ∃ u db', (resolveIncident rt row t).run db = .ok (u, db') ∧ db'.incidents =
      replaceIncident { row with incident := j, status := .resolved, resolvedAt := some t } db.incidents := by
  refine Tx.ok_of_map (g := Database.incidents) ?_
  simp only [resolveIncident, Tx.run_bind, Tx.run_read, extended, Tx.run_lift_ok, setIncident_incidents, Tx.run_write,
    Except.map]

theorem window_after (started : row.incident.startsAt ≤ row.updatedAt) (after : row.updatedAt ≤ a.evaluatedAt) :
    row.incident.startsAt < a.evaluatedAt + policy.incidentTtl :=
  Int.lt_of_le_of_lt (le_trans started after) (Int.lt_add_of_pos_right _ policy.ttl_pos)

theorem extendIncident_told (active : row.status = .active) (unresolved : row.resolvedAt = none) (degraded : a.degraded = true)
    (window : row.incident.startsAt < a.evaluatedAt + policy.incidentTtl) :
    ∃ row' db', (extendIncident rt a policy row).run db = .ok ((), db') ∧ row.Told policy a row' ∧
      db'.incidents = replaceIncident row' db.incidents := by
  obtain ⟨j, extended, id, startsAt, endsAt⟩ := extend_ok window
  let row' : IncidentRow := { row with incident := j, clearWindowCount := 0, updatedAt := a.evaluatedAt }
  have attaches : ∃ db', (attachAffectedCases rt j a).run { db with incidents := replaceIncident row' db.incidents } =
      .ok ((), db') ∧ db'.incidents = replaceIncident row' db.incidents := ⟨_, rfl, rfl⟩
  obtain ⟨db', attached, replaced⟩ := attaches
  refine ⟨row', db', ?_, ?_, replaced⟩
  · refine (Tx.bind_of_ok (a := j) (by rw [extended]; rfl)).trans ?_
    exact (Tx.bind_of_ok setIncident_incidents).trans attached
  · refine ⟨by rw [IncidentRow.id, IncidentRow.id, id], rfl, startsAt, ?_, fun _ => unresolved, fun resolved => ?_,
      fun _ => .inr endsAt⟩
    · have restarted : row.watch.observe policy.rule a = Hysteresis.opened a.evaluatedAt := Hysteresis.observe_bad degraded
      rw [restarted, IncidentRow.watch, unresolved]
      rfl
    · change row.status = .resolved at resolved
      rw [active] at resolved
      cases resolved

/-- A clear assessment in time counts one window, and resolves the incident when enough are counted. -/
theorem clearWindow_told (member : row ∈ db.incidents) (nodup : (db.incidents.map IncidentRow.id).Nodup)
    (active : row.status = .active) (unresolved : row.resolvedAt = none) (clear : a.degraded = false)
    (started : row.incident.startsAt ≤ row.updatedAt) :
    ∃ row' db', (clearWindow rt a policy row).run db = .ok ((), db') ∧ row.Told policy a row' ∧
      db'.incidents = replaceIncident row' db.incidents := by
  have good : ¬ (policy.rule.bad a = true) := by
    change ¬ (a.degraded = true)
    rw [clear]
    decide
  have stays : row.status ≠ .resolved := by rw [active]; decide
  unfold clearWindow
  split
  · rename_i early
    refine ⟨row, db, rfl, ⟨rfl, rfl, rfl, ?_, fun _ => unresolved, fun resolved => absurd resolved stays, fun _ => .inl rfl⟩,
      (replaceIncident_self nodup member).symm⟩
    rw [Hysteresis.Watch.observe, if_neg good, if_pos (show policy.rule.instant a < row.watch.updated + policy.rule.window from early)]
  rename_i late
  have observed : row.watch.observe policy.rule a = ⟨a.evaluatedAt, row.clearWindowCount + 1,
      if policy.clearConsecutiveWindows ≤ row.clearWindowCount + 1 then some a.evaluatedAt else none⟩ := by
    rw [Hysteresis.Watch.observe, if_neg good, if_neg (show ¬ policy.rule.instant a < row.watch.updated + policy.rule.window from late)]
    rfl
  dsimp only
  split
  · rename_i enough
    have after : row.incident.startsAt < max (row.incident.startsAt + 1) a.evaluatedAt :=
      lt_of_lt_of_le (Int.lt_succ _) (le_max_left _ _)
    obtain ⟨j, extended, id, startsAt, -⟩ := extend_ok after
    let row' : IncidentRow := { row with
      incident := j, clearWindowCount := row.clearWindowCount + 1, updatedAt := a.evaluatedAt
      status := .resolved, resolvedAt := some a.evaluatedAt }
    have resolves : ∃ u db', (resolveIncident rt { row with
        clearWindowCount := row.clearWindowCount + 1, updatedAt := a.evaluatedAt } a.evaluatedAt).run db = .ok (u, db') ∧
        db'.incidents = replaceIncident row' db.incidents := resolveIncident_incidents extended
    obtain ⟨u, db', resolves, replaced⟩ := resolves
    refine ⟨row', db', resolves, ?_, replaced⟩
    · refine ⟨by rw [IncidentRow.id, IncidentRow.id, id], rfl, startsAt, ?_, fun impossible => ?_, fun _ => rfl,
        fun impossible => ?_⟩
      · rw [observed, if_pos enough]
        rfl
      · cases impossible
      · cases impossible
  · rename_i few
    have after : row.updatedAt ≤ a.evaluatedAt :=
      le_trans (Int.le_of_lt (Int.lt_add_of_pos_right _ policy.window_pos)) (not_lt.mp late)
    obtain ⟨j, extended, id, startsAt, endsAt⟩ := extend_ok (window_after started after)
    refine ⟨{ row with incident := j, clearWindowCount := row.clearWindowCount + 1, updatedAt := a.evaluatedAt }, _,
      (Tx.bind_of_ok (a := j) (by rw [extended]; rfl)).trans setIncident_incidents, ?_, rfl⟩
    · refine ⟨by rw [IncidentRow.id, IncidentRow.id, id], rfl, startsAt, ?_, fun _ => unresolved,
        fun resolved => absurd resolved stays, fun _ => .inr endsAt⟩
      rw [observed, if_neg few, IncidentRow.watch, unresolved]

/-- Told to the active incident of its dimension, or opening one, or without effect. -/
theorem exec_assessment (policy : DegradationPolicy) (id : Identifier) (nodup : (db.incidents.map IncidentRow.id).Nodup)
    (intact : ∀ r ∈ db.incidents, r.dimension = a.dimension → r.status = .active → r.resolvedAt = none ∧
      r.incident.startsAt ≤ r.updatedAt ∧ (a.degraded = true → r.updatedAt ≤ a.evaluatedAt)) :
    (∃ r ∈ db.incidents, r.dimension = a.dimension ∧ r.status = .active ∧ ∃ r', r.Told policy a r' ∧
      (exec rt (.applyDegradationAssessment a policy id) db).incidents = replaceIncident r' db.incidents) ∨
    (∀ r ∈ db.incidents, ¬ (r.dimension = a.dimension ∧ r.status = .active)) ∧
      ((exec rt (.applyDegradationAssessment a policy id) db).incidents = db.incidents ∨
        a.degraded = true ∧ (∀ r ∈ db.incidents, r.id ≠ (openIncident a policy id).id) ∧
          (exec rt (.applyDegradationAssessment a policy id) db).incidents = db.incidents ++ [openIncident a policy id]) := by
  have ran : ∀ {db'}, (applyDegradationAssessment rt a policy id).run db = .ok ((), db') →
      (exec rt (.applyDegradationAssessment a policy id) db) = db' := Tx.commit_of_ok
  cases search : activeIncident a db with
  | some r =>
    have member := List.mem_of_find?_eq_some search
    have found := List.find?_some search
    simp only [decide_eq_true_eq] at found
    obtain ⟨tenant, key, active⟩ := found
    have here : r.dimension = a.dimension := Prod.ext tenant key
    obtain ⟨unresolved, started, inOrder⟩ := intact r member here active
    have split : (applyDegradationAssessment rt a policy id).run db =
        (if a.degraded then extendIncident rt a policy r else clearWindow rt a policy r).run db := by
      refine (Tx.bind_of_ok rfl).trans ?_
      dsimp only
      rw [search]
    by_cases degraded : a.degraded = true
    · rw [if_pos degraded] at split
      obtain ⟨r', db', extends_, told, incidents⟩ := extendIncident_told active unresolved degraded (window_after started (inOrder degraded))
      rw [ran (split.trans extends_)]
      exact .inl ⟨r, member, here, active, r', told, incidents⟩
    · rw [if_neg degraded] at split
      obtain ⟨r', db', clears, told, incidents⟩ :=
        clearWindow_told member nodup active unresolved (Bool.eq_false_of_not_eq_true degraded) started
      rw [ran (split.trans clears)]
      exact .inl ⟨r, member, here, active, r', told, incidents⟩
  | none =>
    have idle : ∀ r ∈ db.incidents, ¬ (r.dimension = a.dimension ∧ r.status = .active) := by
      rintro r member ⟨here, active⟩
      have missed := List.find?_eq_none.mp search r member
      obtain ⟨tenant, key⟩ := Prod.ext_iff.mp here
      exact missed (decide_eq_true ⟨tenant, key, active⟩)
    refine .inr ⟨idle, ?_⟩
    cases result : (applyDegradationAssessment rt a policy id).run db with
    | error e => exact .inl (by rw [exec, Tx.commit_of_error result])
    | ok out =>
      obtain ⟨u, db'⟩ := out
      rw [ran result]
      obtain ⟨active, _, read, h⟩ := Tx.bind_ok result
      obtain ⟨rfl, rfl⟩ := Tx.read_ok read
      rw [search] at h
      dsimp only at h
      split at h
      · rename_i degraded
        obtain ⟨present, _, read, h⟩ := Tx.bind_ok h
        obtain ⟨rfl, rfl⟩ := Tx.read_ok read
        obtain ⟨_, _, checked, h⟩ := Tx.bind_ok h
        obtain ⟨absent, rfl⟩ := Tx.check_ok checked
        obtain ⟨_, d1, opened, attached⟩ := Tx.bind_ok h
        refine .inr ⟨degraded, fun r member same => ?_, ?_⟩
        · have other := List.any_eq_false.mp absent r member
          obtain ⟨tenant, named⟩ := Prod.ext_iff.mp same
          exact other (decide_eq_true ⟨tenant, named⟩)
        · rw [Tx.write_ok attached, Tx.write_ok opened]
      · obtain ⟨-, rfl⟩ := Tx.pure_ok h
        exact .inl rfl

theorem mem_replaceIncident {r : IncidentRow} {rows : List IncidentRow} (member : r ∈ replaceIncident row rows) :
    (r = row ∧ ∃ old ∈ rows, old.id = row.id) ∨ (r ∈ rows ∧ r.id ≠ row.id) := by
  obtain ⟨old, here, same⟩ := List.mem_map.mp member
  split at same
  · rename_i replaced
    exact .inl ⟨same.symm, old, here, replaced⟩
  · rename_i other
    subst same
    exact .inr ⟨here, other⟩

theorem replaceIncident_ids (rows : List IncidentRow) :
    (replaceIncident row rows).map IncidentRow.id = rows.map IncidentRow.id := by
  simp only [replaceIncident, List.map_map]
  refine List.map_congr_left fun r _ => ?_
  simp only [Function.comp_apply]
  split
  · rename_i same
    exact same.symm
  · rfl

end effects

section journals

/-- What is commanded of a dimension, in order. -/
def Command.assessment : Command → Option DegradationAssessment
  | .applyDegradationAssessment a _ _ => some a
  | _ => none

def assessmentsOf (dimension : Identifier × String) (commands : List Command) : List DegradationAssessment :=
  (commands.filterMap Command.assessment).filter fun a => decide (a.dimension = dimension)

/-- The assessments an incident was told of, among those heard of its dimension. -/
structure IncidentRow.Journal (policy : DegradationPolicy) (heard : List DegradationAssessment) (r : IncidentRow)
    (earlier told later : List DegradationAssessment) : Prop where
  heard : heard = earlier ++ told ++ later
  run : Hysteresis.Run policy.rule told r.watch
  opened : told.head?.map (·.evaluatedAt) = some r.incident.startsAt
  started : r.incident.startsAt ≤ r.updatedAt
  active : r.status = .active → later = [] ∧ r.resolvedAt = none ∧ r.incident.endsAt = r.updatedAt + policy.incidentTtl
  resolved : r.status = .resolved → r.resolvedAt.isSome = true

structure Watched (policy : DegradationPolicy) (commands : List Command) (db : Database) : Prop where
  ids : (db.incidents.map IncidentRow.id).Nodup
  single : ∀ r ∈ db.incidents, ∀ r' ∈ db.incidents, r.Assessed → r.status = .active → r'.status = .active →
    r.dimension = r'.dimension → r.id = r'.id
  journal : ∀ r ∈ db.incidents, r.Assessed →
    ∃ earlier told later, r.Journal policy (assessmentsOf r.dimension commands) earlier told later

/-- Assessments under one policy, no degraded one from before the window it would move; and no incident of the merchant's
own in the place of an assessed one. -/
def Command.Punctual (policy : DegradationPolicy) : Command → Database → Prop
  | .applyDegradationAssessment a p _, db => p = policy ∧ (a.degraded = true →
    ∀ r ∈ db.incidents, r.dimension = a.dimension → r.status = .active → r.updatedAt ≤ a.evaluatedAt)
  | .putMerchantRow (.incident row), db =>
    row.dimensionKey = "LEGACY" ∧ ∀ r ∈ db.incidents, r.id = row.id → r.dimensionKey = "LEGACY"
  | _, _ => True

instance (policy : DegradationPolicy) (c : Command) (db : Database) : Decidable (c.Punctual policy db) :=
  match c with
  | .applyDegradationAssessment .. => by unfold Command.Punctual; infer_instance
  | .putMerchantRow (.incident _) => by unfold Command.Punctual; infer_instance
  | .putMerchantRow (.consent _) | .putMerchantRow (.invoice _) | .registerMerchant .. | .upsertCustomer ..
  | .upsertPayment .. | .upsertSubscription .. | .persistNormalizedEvent .. | .publishPolicy .. | .processEvent ..
  | .reevaluateDeferred .. | .decideReview .. | .closeExpiredCustomerInterventions .. | .recordOverdueInvoice ..
  | .recordCustomerResponse .. | .scheduleDuePromiseReminders .. | .escalateBrokenPromises .. | .claimDueActions ..
  | .prepareExecution .. | .recordExecutionResult .. | .markStaleCallsUnknown .. | .recordLookup ..
  | .verifySignedEvent .. => isTrue trivial

theorem assessmentsOf_append (dimension : Identifier × String) (commands : List Command) (c : Command) :
    assessmentsOf dimension (commands ++ [c]) = assessmentsOf dimension commands ++
      (c.assessment.toList.filter fun a => decide (a.dimension = dimension)) := by
  rw [assessmentsOf, List.filterMap_append, List.filter_append, ← assessmentsOf]
  cases c <;> rfl

/-- An assessment of another dimension is not heard. -/
theorem assessmentsOf_other {dimension : Identifier × String} {commands : List Command} {c : Command}
    (other : ∀ a ∈ c.assessment, a.dimension ≠ dimension) :
    assessmentsOf dimension (commands ++ [c]) = assessmentsOf dimension commands := by
  have unheard : c.assessment.toList.filter (fun a => decide (a.dimension = dimension)) = [] := by
    refine List.filter_eq_nil_iff.mpr fun a member => ?_
    rw [decide_eq_true_eq]
    exact other a (Option.mem_toList.mp member)
  rw [assessmentsOf_append, unheard, List.append_nil]

theorem assessmentsOf_own (commands : List Command) (a : DegradationAssessment) (p : DegradationPolicy) (id : Identifier) :
    assessmentsOf a.dimension (commands ++ [.applyDegradationAssessment a p id]) =
      assessmentsOf a.dimension commands ++ [a] := by
  rw [assessmentsOf_append]
  simp [Command.assessment]

theorem Watched.congr {commands : List Command} {c : Command} (watched : Watched policy commands db)
    (silent : c.assessment = none) (incidents : db'.incidents = db.incidents) : Watched policy (commands ++ [c]) db' := by
  refine ⟨by rw [incidents]; exact watched.ids, by rw [incidents]; exact watched.single, fun r member assessed => ?_⟩
  rw [incidents] at member
  rw [assessmentsOf_other fun a told => by rw [silent] at told; cases told]
  exact watched.journal r member assessed

variable {r r' : IncidentRow} {heard earlier told later : List DegradationAssessment}

/-- One more assessment told to an active incident. -/
theorem IncidentRow.Journal.tell (journal : r.Journal policy heard earlier told later) (active : r.status = .active)
    (inOrder : a.degraded = true → r.updatedAt ≤ a.evaluatedAt) (step : r.Told policy a r') :
    r'.Journal policy (heard ++ [a]) earlier (told ++ [a]) [] := by
  obtain ⟨nothing, unresolved, endsAt⟩ := journal.active active
  subst nothing
  have moved := step.moved inOrder
  refine ⟨?_, ?_, ?_, ?_, fun still => ⟨rfl, step.open_ still, ?_⟩, step.closed⟩
  · rw [journal.heard, List.append_nil, List.append_nil, List.append_assoc]
  · rw [step.watch]
    exact .observed a journal.run unresolved inOrder
  · obtain ⟨first, rest, same, -⟩ := journal.run.head
    have opened := journal.opened
    rw [same] at opened ⊢
    rw [step.startsAt]
    exact opened
  · rw [step.startsAt]
    exact le_trans journal.started moved
  · rcases step.endsAt still with rfl | later
    · exact endsAt
    · exact later

theorem IncidentRow.Journal.hear (journal : r.Journal policy heard earlier told later) (closed : r.status ≠ .active) :
    r.Journal policy (heard ++ [a]) earlier told (later ++ [a]) :=
  { journal with
    heard := by rw [journal.heard, List.append_assoc (earlier ++ told)]
    active := fun active => absurd active closed }

theorem openIncident_journal (degraded : a.degraded = true) (id : Identifier) :
    (openIncident a policy id).Journal policy (heard ++ [a]) heard [a] [] :=
  { heard := by rw [List.append_nil]
    run := .opening a degraded
    opened := rfl
    started := le_rfl
    active := fun _ => ⟨rfl, rfl, rfl⟩
    resolved := fun impossible => by cases impossible }

end journals

section runs

variable {commands : List Command} {c : Command}

theorem assessed_of {r r' : IncidentRow} (assessed : r.Assessed) (same : r.dimension = r'.dimension) : r'.Assessed := by
  have key : r.dimensionKey = r'.dimensionKey := congrArg Prod.snd same
  rw [IncidentRow.Assessed, ← key]
  exact assessed

theorem Watched.put {row : IncidentRow} (watched : Watched policy commands db) (declared : row.dimensionKey = "LEGACY")
    (incidents : db'.incidents = upsert IncidentRow.id (fun _ _ => true) row db.incidents) :
    Watched policy (commands ++ [.putMerchantRow (.incident row)]) db' := by
  have old : ∀ r ∈ db'.incidents, r.Assessed → r ∈ db.incidents := by
    intro r member assessed
    rw [incidents] at member
    rcases mem_upsert member with old | rfl
    · exact old
    · exact absurd declared assessed
  refine ⟨by rw [incidents]; exact upsert_nodup watched.ids, fun r here r' there assessed active active' same => ?_,
    fun r member assessed => ?_⟩
  · exact watched.single r (old r here assessed) r' (old r' there (assessed_of assessed same)) assessed active active' same
  · rw [assessmentsOf_other fun a told => by cases told]
    exact watched.journal r (old r member assessed) assessed

/-- An incident the assessment does not fall on hears it at most. -/
theorem Watched.unheard {r : IncidentRow} (watched : Watched policy commands db) (p : DegradationPolicy) (id : Identifier)
    (member : r ∈ db.incidents) (assessed : r.Assessed) (apart : ¬ (r.dimension = a.dimension ∧ r.status = .active)) :
    ∃ earlier told later, r.Journal policy (assessmentsOf r.dimension (commands ++ [.applyDegradationAssessment a p id]))
      earlier told later := by
  obtain ⟨earlier, told, later, journal⟩ := watched.journal r member assessed
  by_cases same : r.dimension = a.dimension
  · rw [same] at journal ⊢
    rw [assessmentsOf_own]
    exact ⟨_, _, _, journal.hear fun active => apart ⟨same, active⟩⟩
  · rw [assessmentsOf_other fun b told => by cases told; exact fun here => same here.symm]
    exact ⟨_, _, _, journal⟩

theorem dimension_assessed {r : IncidentRow} (here : r.dimension = a.dimension) : r.Assessed := by
  have key : r.dimensionKey = dimensionKey a := congrArg Prod.snd here
  rw [IncidentRow.Assessed, key]
  exact dimensionKey_assessed a

/-- What a degraded assessment in order does to the incidents. -/
theorem Watched.effect (watched : Watched policy commands db) (id : Identifier)
    (inOrder : a.degraded = true → ∀ r ∈ db.incidents, r.dimension = a.dimension → r.status = .active →
      r.updatedAt ≤ a.evaluatedAt) :
    (∃ r ∈ db.incidents, r.dimension = a.dimension ∧ r.status = .active ∧ ∃ r', r.Told policy a r' ∧
      (exec rt (.applyDegradationAssessment a policy id) db).incidents = replaceIncident r' db.incidents) ∨
    (∀ r ∈ db.incidents, ¬ (r.dimension = a.dimension ∧ r.status = .active)) ∧
      ((exec rt (.applyDegradationAssessment a policy id) db).incidents = db.incidents ∨
        a.degraded = true ∧ (∀ r ∈ db.incidents, r.id ≠ (openIncident a policy id).id) ∧
          (exec rt (.applyDegradationAssessment a policy id) db).incidents = db.incidents ++ [openIncident a policy id]) := by
  apply exec_assessment policy id watched.ids
  intro r member here active
  obtain ⟨_, _, _, journal⟩ := watched.journal r member (dimension_assessed here)
  exact ⟨(journal.active active).2.1, journal.started, fun degraded => inOrder degraded r member here active⟩

theorem exec_watched_assessment (watched : Watched policy commands db) (id : Identifier)
    (inOrder : a.degraded = true → ∀ r ∈ db.incidents, r.dimension = a.dimension → r.status = .active →
      r.updatedAt ≤ a.evaluatedAt) :
    Watched policy (commands ++ [.applyDegradationAssessment a policy id])
      (exec rt (.applyDegradationAssessment a policy id) db) := by
  rcases watched.effect id inOrder with
    ⟨r, member, here, active, r', told, incidents⟩ | ⟨idle, incidents | ⟨degraded, new, incidents⟩⟩
  · -- Told to the one active incident of its dimension.
    have elsewhere : ∀ q ∈ db.incidents, q.id ≠ r'.id → q.dimension = a.dimension → q.status ≠ .active := by
      intro q old apart same active'
      exact apart ((watched.single q old r member (dimension_assessed same) active' active (same.trans here.symm)).trans told.id.symm)
    refine ⟨by rw [incidents, replaceIncident_ids]; exact watched.ids, fun q this q' that isAssessed isActive isActive' same => ?_,
      fun q this isAssessed => ?_⟩
    · rw [incidents] at this that
      rcases mem_replaceIncident this with ⟨rfl, -⟩ | ⟨old, apart⟩ <;>
        rcases mem_replaceIncident that with ⟨rfl, -⟩ | ⟨old', apart'⟩
      · rfl
      · exact absurd isActive' (elsewhere q' old' apart' (same.symm.trans (told.dimension.trans here)))
      · exact absurd isActive (elsewhere q old apart (same.trans (told.dimension.trans here)))
      · exact watched.single q old q' old' isAssessed isActive isActive' same
    · rw [incidents] at this
      rcases mem_replaceIncident this with ⟨rfl, -⟩ | ⟨old, apart⟩
      · obtain ⟨earlier, before, later, journal⟩ := watched.journal r member (dimension_assessed here)
        rw [here] at journal
        rw [told.dimension, here, assessmentsOf_own]
        exact ⟨_, _, _, journal.tell active (fun degraded => inOrder degraded r member here active) told⟩
      · exact watched.unheard policy id old isAssessed fun ⟨same, isActive⟩ => elsewhere q old apart same isActive
  · exact ⟨by rw [incidents]; exact watched.ids, by rw [incidents]; exact watched.single, fun q this isAssessed => by
      rw [incidents] at this
      exact watched.unheard policy id this isAssessed (idle q this)⟩
  · -- A new incident of the dimension, which had none active.
    refine ⟨?_, fun q this q' that isAssessed isActive isActive' same => ?_, fun q this isAssessed => ?_⟩
    · rw [incidents]
      exact Table.nodup_append_new watched.ids (Table.lookup_none.mpr new)
    · rw [incidents] at this that
      rcases List.mem_append.mp this with old | opened <;> rcases List.mem_append.mp that with old' | opened'
      · exact watched.single q old q' old' isAssessed isActive isActive' same
      · rw [List.mem_singleton.mp opened'] at same
        exact absurd ⟨same, isActive⟩ (idle q old)
      · rw [List.mem_singleton.mp opened] at same
        exact absurd ⟨same.symm, isActive'⟩ (idle q' old')
      · rw [List.mem_singleton.mp opened, List.mem_singleton.mp opened']
    · rw [incidents] at this
      rcases List.mem_append.mp this with old | opened
      · exact watched.unheard policy id old isAssessed (idle q old)
      · rw [List.mem_singleton.mp opened]
        have own : (openIncident a policy id).dimension = a.dimension := rfl
        rw [own, assessmentsOf_own]
        exact ⟨_, _, _, openIncident_journal degraded id⟩

/-- Only assessments and the merchant's own declarations write incidents. -/
theorem exec_incidents (c : Command) (db : Database) (silent : c.assessment = none)
    (undeclared : ∀ row, c ≠ .putMerchantRow (.incident row)) : (exec rt c db).incidents = db.incidents := by
  have filed {A : Type} {x : Transaction A} (files : Tx.Keeps x Filed) : (x.commit db).incidents = db.incidents := by
    have kept : Filed db (x.commit db) := Tx.commit_relates (R := Filed) rfl (files _ _ _)
    rw [Filed] at kept
    rw [kept]
  by_cases concerns : c.Concerns
  · cases c with
    | putMerchantRow row =>
      cases row with
      | consent row => rfl
      | invoice row => rfl
      | incident row => exact absurd rfl (undeclared row)
    | applyDegradationAssessment a p id => cases silent
    | recordOverdueInvoice m source o t t' =>
      refine Tx.commit_relates (R := fun s s' : Database => s'.incidents = s.incidents) rfl fun h => ?_
      obtain ⟨_, d1, recorded, h⟩ := Tx.bind_ok h
      obtain ⟨_, d2, upserted, persisted⟩ := Tx.bind_ok h
      have after := upsertOverdueInvoice_filed m o t _ _ _ upserted
      rw [Filed] at after
      rw [(persistMerchantEvent_spared _ _ _ _ persisted).apart.incidents, after]
      exact (recordMerchantEvent_apart _ _ _ _ _ _ recorded).incidents
    | recordCustomerResponse m source invoiceId body reply t =>
      exact filed (recordCustomerResponse_filed m source invoiceId body reply t)
    | escalateBrokenPromises t limit => exact filed (escalateBrokenPromises_filed t limit)
    | _ => exact absurd concerns fun h => h
  · exact (exec_apart c db concerns).incidents

theorem exec_watched (c : Command) (watched : Watched policy commands db) (punctual : c.Punctual policy db) :
    Watched policy (commands ++ [c]) (exec rt c db) := by
  cases told : c.assessment with
  | some a =>
    cases c <;> cases told
    obtain ⟨rfl, inOrder⟩ := punctual
    exact exec_watched_assessment watched _ inOrder
  | none =>
    by_cases declared : ∃ row, c = .putMerchantRow (.incident row)
    · obtain ⟨row, rfl⟩ := declared
      exact watched.put punctual.1 rfl
    · exact watched.congr told (exec_incidents c db told fun row same => declared ⟨row, same⟩)

theorem watched_run {todo : List Command} (watched : Watched policy commands db)
    (ok : Runs.Allowed (exec rt) (fun c db => c.Punctual policy db) todo db) :
    Watched policy (commands ++ todo) (execAll rt todo db) := by
  induction todo generalizing commands db with
  | nil =>
    rw [List.append_nil]
    exact watched
  | cons c rest ih =>
    have next := ih (exec_watched c watched ok.1) ok.2
    rw [List.append_assoc, List.singleton_append] at next
    exact next

/-- `latest` is the latest degraded assessment told to the incident before it resolved at `resolvedAt`, and `counted` are
the clear ones that resolved it. -/
structure IncidentRow.ClearedBy (policy : DegradationPolicy) (heard : List DegradationAssessment) (r : IncidentRow)
    (resolvedAt : Instant) (before : List DegradationAssessment) (latest : DegradationAssessment)
    (since counted : List DegradationAssessment) : Prop where
  heard : ∃ earlier later, heard = earlier ++ (before ++ latest :: since) ++ later
  opened : (before ++ [latest]).head?.map (·.evaluatedAt) = some r.incident.startsAt
  degraded : latest.degraded = true
  newest : ∀ a ∈ before, a.degraded = true → a.evaluatedAt ≤ latest.evaluatedAt
  clear : ∀ a ∈ since, a.degraded = false
  sublist : counted.Sublist since
  enough : counted.length = policy.clearConsecutiveWindows
  spaced : (latest :: counted).Pairwise fun a b => a.evaluatedAt + policy.currentWindow ≤ b.evaluatedAt
  last : ((latest :: counted).getLast (List.cons_ne_nil _ _)).evaluatedAt = resolvedAt
  bound : latest.evaluatedAt + policy.clearConsecutiveWindows * policy.currentWindow ≤ resolvedAt

theorem IncidentRow.Journal.cleared {r : IncidentRow} {heard earlier told later : List DegradationAssessment}
    (journal : r.Journal policy heard earlier told later) {resolvedAt : Instant} (resolved : r.resolvedAt = some resolvedAt) :
    ∃ before latest since counted, r.ClearedBy policy heard resolvedAt before latest since counted := by
  obtain ⟨before, latest, since, counted, account⟩ := journal.run.resolution resolved
  refine ⟨before, latest, since, counted, ⟨earlier, later, ?_⟩, ?_, account.bad, account.latest, account.good, account.sublist,
    account.length, account.spaced, account.updated, ?_⟩
  · rw [journal.heard, account.split]
  · have opened := journal.opened
    rw [account.split] at opened
    rw [← opened]
    cases before <;> rfl
  · have elapsed := account.elapsed
    rw [nsmul_eq_mul] at elapsed
    exact elapsed

theorem assessment_forward (watched : Watched policy commands db) (id : Identifier)
    (inOrder : a.degraded = true → ∀ r ∈ db.incidents, r.dimension = a.dimension → r.status = .active →
      r.updatedAt ≤ a.evaluatedAt) {r : IncidentRow} (member : r ∈ db.incidents) (assessed : r.Assessed)
    (active : r.status = .active) :
    ∃ r' ∈ (exec rt (.applyDegradationAssessment a policy id) db).incidents, r'.id = r.id ∧
      (r'.status = .active → r.updatedAt ≤ r'.updatedAt ∧ r.incident.endsAt ≤ r'.incident.endsAt) := by
  rcases watched.effect id inOrder with ⟨q, there, here, isActive, q', told, incidents⟩ | ⟨idle, incidents | ⟨degraded, new, incidents⟩⟩
  · rw [incidents]
    by_cases same : r.id = q.id
    · have equal : r = q := List.inj_on_of_nodup_map watched.ids member there same
      subst equal
      refine ⟨q', List.mem_map.mpr ⟨r, member, if_pos told.id.symm⟩, told.id, fun still => ?_⟩
      have moved := told.moved fun degraded => inOrder degraded r member here active
      refine ⟨moved, ?_⟩
      rcases told.endsAt still with rfl | ends
      · exact le_rfl
      · obtain ⟨_, _, _, journal⟩ := watched.journal r member assessed
        rw [ends, (journal.active active).2.2]
        exact Int.add_le_add_right moved _
    · refine ⟨r, List.mem_map.mpr ⟨r, member, if_neg ?_⟩, rfl, fun _ => ⟨le_rfl, le_rfl⟩⟩
      rw [told.id]
      exact same
  · rw [incidents]
    exact ⟨r, member, rfl, fun _ => ⟨le_rfl, le_rfl⟩⟩
  · rw [incidents]
    exact ⟨r, List.mem_append_left _ member, rfl, fun _ => ⟨le_rfl, le_rfl⟩⟩

/-- Whatever comes next in order, an active incident keeps its window or moves it forward. -/
theorem exec_forward (c : Command) (watched : Watched policy commands db) (punctual : c.Punctual policy db) {r : IncidentRow}
    (member : r ∈ db.incidents) (assessed : r.Assessed) (active : r.status = .active) :
    ∃ r' ∈ (exec rt c db).incidents, r'.id = r.id ∧
      (r'.status = .active → r.updatedAt ≤ r'.updatedAt ∧ r.incident.endsAt ≤ r'.incident.endsAt) := by
  cases told : c.assessment with
  | some a =>
    cases c <;> cases told
    obtain ⟨rfl, inOrder⟩ := punctual
    exact assessment_forward watched _ inOrder member assessed active
  | none =>
    refine ⟨r, ?_, rfl, fun _ => ⟨le_rfl, le_rfl⟩⟩
    by_cases declared : ∃ row, c = .putMerchantRow (.incident row)
    · obtain ⟨row, rfl⟩ := declared
      have kept : r ∈ upsert IncidentRow.id (fun _ _ => true) row db.incidents :=
        upsert_other member fun same => assessed (punctual.2 r member same)
      exact kept
    · rw [exec_incidents c db told fun row same => declared ⟨row, same⟩]
      exact member

theorem protected_window {commands : List Command}
    (ok : Runs.Allowed (exec rt) (fun c db => c.Punctual policy db) commands {}) :
    (∀ c : Command, c.Punctual policy (execAll rt commands {}) → ∀ r ∈ (execAll rt commands {}).incidents, r.Assessed →
      r.status = .active → ∃ r' ∈ (exec rt c (execAll rt commands {})).incidents, r'.id = r.id ∧
        (r'.status = .active → r.updatedAt ≤ r'.updatedAt ∧ r.incident.endsAt ≤ r'.incident.endsAt)) ∧
    ∀ r ∈ (execAll rt commands {}).incidents, r.Assessed → r.status = .resolved →
      ∃ resolvedAt, r.resolvedAt = some resolvedAt ∧ ∃ before latest since counted,
        r.ClearedBy policy (assessmentsOf r.dimension commands) resolvedAt before latest since counted := by
  have start : Watched policy [] ({} : Database) :=
    ⟨List.nodup_nil, fun _ none => (List.not_mem_nil none).elim, fun _ none => (List.not_mem_nil none).elim⟩
  have watched : Watched policy commands (execAll rt commands {}) := watched_run start ok
  refine ⟨fun c punctual r member assessed active => exec_forward c watched punctual member assessed active,
    fun r member assessed closed => ?_⟩
  obtain ⟨_, _, _, journal⟩ := watched.journal r member assessed
  obtain ⟨resolvedAt, resolved⟩ := Option.isSome_iff_exists.mp (journal.resolved closed)
  exact ⟨resolvedAt, resolved, journal.cleared resolved⟩

/-- An assessment of cards of one bank, made `second` seconds after the start. -/
def cardsAt (second : Int) (degraded : Bool) : DegradationAssessment :=
  { merchantId := acme, paymentMethod := ident "CARD", issuerFamily := ident "HDFC", errorFamily := ident "ISSUER_DOWN"
    degraded := degraded, evaluatedAt := seconds second }

def assess (second : Int) (degraded : Bool) : Command :=
  .applyDegradationAssessment (cardsAt second degraded) {} (ident "incident-1")

/-- Two clear windows after the latest degraded one, with an early clear assessment between that does not count. -/
def degradedTwice : List Command := [assess 0 true, assess 300 true, assess 600 false, assess 1200 false, assess 2100 false]

set_option maxRecDepth 100000 in
theorem protected_window_cleared : ∃ r ∈ (execAll {} degradedTwice {}).incidents, r.status = .resolved ∧
    ∃ resolvedAt, r.resolvedAt = some resolvedAt ∧ ∃ before latest since counted,
      r.ClearedBy {} (assessmentsOf r.dimension degradedTwice) resolvedAt before latest since counted := by
  have ok : Runs.Allowed (exec {}) (fun c db => c.Punctual {} db) degradedTwice {} := by decide +kernel
  have closed : ∃ r ∈ (execAll {} degradedTwice {}).incidents, r.dimensionKey ≠ "LEGACY" ∧ r.status = .resolved := by
    decide +kernel
  obtain ⟨r, member, assessed, resolved⟩ := closed
  exact ⟨r, member, resolved, (protected_window ok).2 r member assessed resolved⟩

set_option maxRecDepth 100000 in
/-- Two failures five minutes apart, the later one processed first. -/
theorem windows_rewound : ¬ ∀ (rt : Runtime) (db : Database), Reachable rt db →
    ∀ (a : DegradationAssessment) (id : Identifier), ∀ r ∈ db.incidents, r.status = .active →
      ∀ r' ∈ (exec rt (.applyDegradationAssessment a {} id) db).incidents, r'.id = r.id → r'.status = .active →
        r.updatedAt ≤ r'.updatedAt ∧ r.incident.endsAt ≤ r'.incident.endsAt := by
  intro forward
  have rewound : ∃ r ∈ (execAll {} [assess 300 true] {}).incidents, r.status = .active ∧
      ∃ r' ∈ (exec {} (assess 0 true) (execAll {} [assess 300 true] {})).incidents, r'.id = r.id ∧ r'.status = .active ∧
        ¬ (r.updatedAt ≤ r'.updatedAt ∧ r.incident.endsAt ≤ r'.incident.endsAt) := by decide +kernel
  obtain ⟨r, member, active, r', member', same, active', back⟩ := rewound
  exact back (forward {} _ (reachable_execAll {} _) (cardsAt 0 true) (ident "incident-1") r member active r' member' same active')

end runs

end RevenueGuard
