import Mathlib.Algebra.BigOperators.Group.List.Basic
import Mathlib.Algebra.GroupWithZero.Nat
import RevenueGuard.Kit.Table

/-
Sums over keyed tables: what a table adds up to, counted row by row or key by key.
-/
namespace Table

variable {R S K : Type} [DecidableEq K]

theorem sum_filter (p : R → Bool) (w : R → Nat) (rows : List R) :
    ((rows.filter p).map w).sum = (rows.map fun r => if p r then w r else 0).sum := by
  induction rows with
  | nil => rfl
  | cons r rows ih =>
    by_cases here : p r = true <;> simp [here, ih]

theorem sum_zero {w : R → Nat} {rows : List R} (zero : ∀ r ∈ rows, w r = 0) : (rows.map w).sum = 0 :=
  List.sum_eq_zero fun n member => by
    obtain ⟨r, stored, rfl⟩ := List.mem_map.mp member
    exact zero r stored

theorem sum_indicator {key : S → K} {owners : List S} (nodup : (owners.map key).Nodup) {k : K} (n : Nat)
    (known : k ∈ owners.map key) : (owners.map fun s => if k = key s then n else 0).sum = n := by
  induction owners with
  | nil => cases known
  | cons s rest ih =>
    rw [List.map_cons, List.nodup_cons] at nodup
    rw [List.map_cons, List.sum_cons]
    by_cases here : k = key s
    · have none_else : (rest.map fun t => if k = key t then n else 0).sum = 0 := sum_zero fun t member => by
        refine if_neg fun same => nodup.1 ?_
        rw [← here, same]
        exact List.mem_map_of_mem member
      rw [if_pos here, none_else, Nat.add_zero]
    · rw [if_neg here, Nat.zero_add]
      exact ih nodup.2 ((List.mem_cons.mp known).resolve_left here)

/-- Writing one row changes the sum by what that row changes. -/
theorem sum_update {key : R → K} {k : K} {f : R → R} (w : R → Nat) {rows : List R} (nodup : (rows.map key).Nodup) {r : R}
    (found : lookup key k rows = some r) : ((update key k f rows).map w).sum + w r = (rows.map w).sum + w (f r) := by
  induction rows with
  | nil => cases found
  | cons s rest ih =>
    rw [List.map_cons, List.nodup_cons] at nodup
    by_cases here : key s = k
    · have same : s = r := by
        rw [lookup, List.find?_cons_of_pos (by simpa using here)] at found
        exact Option.some.inj found
      have others : update key k f rest = rest := update_absent fun t member hit => by
        refine nodup.1 ?_
        rw [here, ← hit]
        exact List.mem_map_of_mem member
      rw [update, List.map_cons, if_pos here, List.map_cons, ← update, others, List.sum_cons, List.map_cons,
        List.sum_cons, same]
      omega
    · rw [lookup, List.find?_cons_of_neg (by simpa using here)] at found
      have rest_sum := ih nodup.2 found
      rw [update, List.map_cons, if_neg here, List.map_cons, ← update, List.sum_cons, List.map_cons, List.sum_cons]
      omega

/-- A table adds up to what its owners' parts do, where every row that counts has an owner. -/
theorem sum_by_key {key : R → K} {owner : S → K} {owners : List S} (nodup : (owners.map owner).Nodup) (w : R → Nat) :
    ∀ rows : List R, (∀ r ∈ rows, w r ≠ 0 → key r ∈ owners.map owner) →
      (rows.map w).sum = (owners.map fun s => ((select key (owner s) rows).map w).sum).sum := by
  intro rows
  induction rows with
  | nil => exact fun _ => (sum_zero fun _ _ => rfl).symm
  | cons r rows ih =>
    intro owned
    have rest := ih fun x member => owned x (List.mem_cons_of_mem _ member)
    have split : ∀ s, ((select key (owner s) (r :: rows)).map w).sum =
        (if key r = owner s then w r else 0) + ((select key (owner s) rows).map w).sum := by
      intro s
      by_cases here : key r = owner s <;> simp [select, here]
    have mine : (owners.map fun s => if key r = owner s then w r else 0).sum = w r := by
      by_cases counts : w r = 0
      · rw [counts]
        exact sum_zero fun _ _ => by simp
      · exact sum_indicator nodup (w r) (owned r List.mem_cons_self counts)
    calc ((r :: rows).map w).sum = w r + (rows.map w).sum := by simp
      _ = (owners.map fun s => if key r = owner s then w r else 0).sum +
          (owners.map fun s => ((select key (owner s) rows).map w).sum).sum := by rw [mine, rest]
      _ = (owners.map fun s => ((select key (owner s) (r :: rows)).map w).sum).sum := by
          rw [← List.sum_map_add]
          exact congrArg List.sum (List.map_congr_left fun s _ => (split s).symm)

end Table
