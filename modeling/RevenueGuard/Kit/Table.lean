import Mathlib.Data.List.Basic
import Mathlib.Data.List.Nodup
import Mathlib.Data.List.Perm.Basic

/-
Keyed tables as lists of rows. A row is found by its key, updated in place, or
appended; other keys are untouched and the list of keys never loses an entry.
-/
namespace Table

variable {R K : Type} [DecidableEq K]

def lookup (key : R → K) (k : K) (rows : List R) : Option R := rows.find? fun r => decide (key r = k)

def select (key : R → K) (k : K) (rows : List R) : List R := rows.filter fun r => decide (key r = k)

def update (key : R → K) (k : K) (f : R → R) (rows : List R) : List R :=
  rows.map fun r => if key r = k then f r else r

def KeepsKey (key : R → K) (k : K) (f : R → R) : Prop := ∀ r, key r = k → key (f r) = k

theorem lookup_key {key : R → K} {k : K} {rows : List R} {r : R} (h : lookup key k rows = some r) :
    key r = k := by
  have found := List.find?_some h
  simpa using found

theorem lookup_mem {key : R → K} {k : K} {rows : List R} {r : R} (h : lookup key k rows = some r) :
    r ∈ rows := List.mem_of_find?_eq_some h

theorem lookup_none {key : R → K} {k : K} {rows : List R} :
    lookup key k rows = none ↔ ∀ r ∈ rows, key r ≠ k := by
  simp [lookup, List.find?_eq_none]

theorem lookup_isSome {key : R → K} {k : K} {rows : List R} {r : R} (hr : r ∈ rows) (hk : key r = k) :
    ∃ s, lookup key k rows = some s := by
  cases found : lookup key k rows with
  | some s => exact ⟨s, rfl⟩
  | none => exact absurd hk (lookup_none.mp found r hr)

theorem lookup_append {key : R → K} {k : K} {rows : List R} {r : R} :
    lookup key k (rows ++ [r]) = (lookup key k rows).or (if key r = k then some r else none) := by
  simp only [lookup, List.find?_append, List.find?_cons, List.find?_nil]
  by_cases hk : key r = k <;> simp [hk]

theorem lookup_append_ne {key : R → K} {k : K} {rows : List R} {r : R} (h : key r ≠ k) :
    lookup key k (rows ++ [r]) = lookup key k rows := by
  simp [lookup_append, h]

theorem lookup_append_new {key : R → K} {rows : List R} {r : R} (h : lookup key (key r) rows = none) :
    lookup key (key r) (rows ++ [r]) = some r := by
  simp [lookup_append, h]

theorem lookup_update_self {key : R → K} {k : K} {f : R → R} (keeps : KeepsKey key k f) (rows : List R) :
    lookup key k (update key k f rows) = (lookup key k rows).map f := by
  induction rows with
  | nil => rfl
  | cons r rows ih =>
    simp only [lookup, update, List.map_cons, List.find?_cons] at ih ⊢
    by_cases hk : key r = k
    · simp [hk, keeps r hk]
    · simp only [hk, if_false, decide_false]
      exact ih

theorem lookup_update_ne {key : R → K} {k k' : K} {f : R → R} (keeps : KeepsKey key k f) (h : k' ≠ k)
    (rows : List R) : lookup key k' (update key k f rows) = lookup key k' rows := by
  induction rows with
  | nil => rfl
  | cons r rows ih =>
    simp only [lookup, update, List.map_cons, List.find?_cons] at ih ⊢
    by_cases hk : key r = k
    · have moved : key (f r) ≠ k' := by rw [keeps r hk]; exact fun e => h e.symm
      have here : key r ≠ k' := by rw [hk]; exact fun e => h e.symm
      simp only [hk, if_true, moved, decide_false, h.symm]
      exact ih
    · simp only [hk, if_false]
      split
      · rfl
      · exact ih

theorem mem_update {key : R → K} {k : K} {f : R → R} {rows : List R} {s : R} :
    s ∈ update key k f rows ↔ ∃ r ∈ rows, (key r = k ∧ s = f r) ∨ (key r ≠ k ∧ s = r) := by
  simp only [update, List.mem_map]
  constructor
  · rintro ⟨r, hr, rfl⟩
    by_cases hk : key r = k <;> exact ⟨r, hr, by simp [hk]⟩
  · rintro ⟨r, hr, ⟨hk, same⟩ | ⟨hk, same⟩⟩ <;> exact ⟨r, hr, by simp [hk, same]⟩

theorem map_update {B : Type} {key : R → K} {k : K} {f : R → R} {g : R → B} (same : ∀ r, key r = k → g (f r) = g r)
    (rows : List R) : (update key k f rows).map g = rows.map g := by
  simp only [update, List.map_map]
  refine List.map_congr_left fun r _ => ?_
  by_cases hk : key r = k <;> simp [hk, same]

theorem keys_update {key : R → K} {k : K} {f : R → R} (keeps : KeepsKey key k f) (rows : List R) :
    (update key k f rows).map key = rows.map key :=
  map_update (fun r hk => by rw [keeps r hk, hk]) rows

theorem filter_update {key : R → K} {k : K} {f : R → R} {p : R → Bool} (same : ∀ r, key r = k → p (f r) = p r)
    (rows : List R) : (update key k f rows).filter p = update key k f (rows.filter p) := by
  induction rows with
  | nil => rfl
  | cons r rows ih =>
    simp only [update, List.map_cons, List.filter_cons] at ih ⊢
    by_cases hk : key r = k
    · simp only [hk, if_true, same r hk]
      split <;> simp [hk, ih]
    · simp only [hk, if_false]
      split <;> simp [hk, ih]

/-- What is kept of the rows, and read of them, is the same after an update that neither notices. -/
theorem filter_map_update {B : Type} {key : R → K} {k : K} {f : R → R} {p : R → Bool} {g : R → B} {rows : List R}
    (same : ∀ r ∈ rows, key r = k → p (f r) = p r ∧ g (f r) = g r) :
    ((update key k f rows).filter p).map g = (rows.filter p).map g := by
  induction rows with
  | nil => rfl
  | cons r rows ih =>
    have later := ih fun s member => same s (List.mem_cons_of_mem _ member)
    simp only [update, List.map_cons] at later ⊢
    by_cases hk : key r = k
    · obtain ⟨kept, read⟩ := same r List.mem_cons_self hk
      rw [if_pos hk, List.filter_cons, List.filter_cons, kept]
      split
      · rw [List.map_cons, List.map_cons, read, later]
      · exact later
    · rw [if_neg hk, List.filter_cons, List.filter_cons]
      split
      · rw [List.map_cons, List.map_cons, later]
      · exact later

theorem update_update {key : R → K} {k : K} {f g : R → R} (keeps : KeepsKey key k g) (rows : List R) :
    update key k f (update key k g rows) = update key k (f ∘ g) rows := by
  simp only [update, List.map_map]
  refine List.map_congr_left fun r _ => ?_
  by_cases hk : key r = k
  · simp [hk, keeps r hk]
  · simp [hk]

theorem update_absent {key : R → K} {k : K} {f : R → R} {rows : List R} (h : ∀ r ∈ rows, key r ≠ k) :
    update key k f rows = rows := by
  simp only [update]
  conv_rhs => rw [← List.map_id rows]
  exact List.map_congr_left fun r hr => by simp [h r hr]

theorem select_append (key : R → K) (k : K) (rows : List R) (r : R) :
    select key k (rows ++ [r]) = if key r = k then select key k rows ++ [r] else select key k rows := by
  simp only [select, List.filter_append, List.filter_cons, List.filter_nil]
  by_cases hk : key r = k <;> simp [hk]

theorem mem_select {key : R → K} {k : K} {rows : List R} {r : R} :
    r ∈ select key k rows ↔ r ∈ rows ∧ key r = k := by simp [select]

theorem lookup_select {J : Type} [DecidableEq J] {key : R → K} {id : R → J} {i : J} {k : K} {rows : List R}
    (within : ∀ r, id r = i → key r = k) : lookup id i (select key k rows) = lookup id i rows := by
  induction rows with
  | nil => rfl
  | cons r rows ih =>
    simp only [lookup, select, List.filter_cons] at ih ⊢
    by_cases hk : key r = k
    · simp only [hk, decide_true, if_true, List.find?_cons]
      split
      · rfl
      · exact ih
    · have other : id r ≠ i := fun e => hk (within r e)
      simp only [hk, decide_false, Bool.false_eq_true, if_false, List.find?_cons, other]
      exact ih

theorem nodup_append_new {key : R → K} {rows : List R} {r : R} (nodup : (rows.map key).Nodup)
    (new : lookup key (key r) rows = none) : ((rows ++ [r]).map key).Nodup := by
  rw [List.map_append, List.nodup_append]
  refine ⟨nodup, by simp, ?_⟩
  intro a ha b hb
  obtain ⟨s, hs, rfl⟩ := List.mem_map.mp ha
  rw [List.map_singleton, List.mem_singleton] at hb
  subst hb
  exact lookup_none.mp new s hs

/-- Keys are unique, so an update of a stored row's key replaces that row alone. -/
theorem mem_update_found {key : R → K} {f : R → R} {rows : List R} {r s : R} (nodup : (rows.map key).Nodup)
    (found : r ∈ rows) : s ∈ update key (key r) f rows ↔ s = f r ∨ (s ∈ rows ∧ key s ≠ key r) := by
  rw [mem_update]
  constructor
  · rintro ⟨x, hx, ⟨same, rfl⟩ | ⟨other, rfl⟩⟩
    · exact .inl (by rw [List.inj_on_of_nodup_map nodup hx found same])
    · exact .inr ⟨hx, other⟩
  · rintro (rfl | ⟨member, other⟩)
    · exact ⟨r, found, .inl ⟨rfl, rfl⟩⟩
    · exact ⟨s, member, .inr ⟨other, rfl⟩⟩

theorem lookup_of_mem {key : R → K} {rows : List R} {r : R} (nodup : (rows.map key).Nodup) (hr : r ∈ rows) :
    lookup key (key r) rows = some r := by
  induction rows with
  | nil => cases hr
  | cons s rows ih =>
    rw [List.map_cons, List.nodup_cons] at nodup
    simp only [lookup, List.find?_cons]
    rcases List.mem_cons.mp hr with rfl | hr
    · simp
    · have differs : key s ≠ key r := by
        intro e
        exact nodup.1 (e ▸ List.mem_map_of_mem hr)
      simp only [differs, decide_false]
      exact ih nodup.2 hr

theorem filter_singleton {p : R → Bool} {key : R → K} {rows : List R} {r : R} (nodup : (rows.map key).Nodup)
    (found : r ∈ rows) (here : p r = true) (only : ∀ s ∈ rows, p s = true → s = r) : rows.filter p = [r] := by
  have distinct : (rows.filter p).Nodup := (List.Nodup.of_map key nodup).filter p
  have all_r : ∀ s ∈ rows.filter p, s = r := fun s hs => only s (List.mem_filter.mp hs).1 (List.mem_filter.mp hs).2
  have member : r ∈ rows.filter p := List.mem_filter.mpr ⟨found, here⟩
  cases listed : rows.filter p with
  | nil => rw [listed] at member; cases member
  | cons s rest =>
    rw [listed] at distinct all_r
    obtain rfl := all_r s List.mem_cons_self
    cases rest with
    | nil => rfl
    | cons t rest =>
      obtain rfl := all_r t (by simp)
      simp at distinct

/-- Closing some of the rows that are counted leaves fewer. -/
theorem countP_closed {A : Type} [DecidableEq A] {p : A → Bool} {close : A → A} (closes : ∀ a, p (close a) = false) (rows l : List A)
    (found : ∃ a ∈ l, p a = true ∧ a ∈ rows) :
    (l.map fun a => if a ∈ rows then close a else a).countP p < l.countP p := by
  induction l with
  | nil =>
    obtain ⟨a, member, -⟩ := found
    cases member
  | cons b l ih =>
    have le : (l.map fun a => if a ∈ rows then close a else a).countP p ≤ l.countP p := by
      rw [List.countP_map]
      refine List.countP_mono_left fun a _ counted => ?_
      simp only [Function.comp_apply] at counted
      split at counted
      · rw [closes] at counted
        cases counted
      · exact counted
    rw [List.map_cons, List.countP_cons, List.countP_cons]
    by_cases here : p b = true ∧ b ∈ rows
    · rw [if_pos here.2, closes, here.1]
      simp only [Bool.false_eq_true, if_false, if_true]
      omega
    · obtain ⟨a, member, counted, closing⟩ := found
      have later : a ∈ l := by
        rcases List.mem_cons.mp member with rfl | later
        · exact absurd ⟨counted, closing⟩ here
        · exact later
      have less := ih ⟨a, later, counted, closing⟩
      split
      · rw [closes]
        simp only [Bool.false_eq_true, if_false]
        omega
      · omega

end Table
