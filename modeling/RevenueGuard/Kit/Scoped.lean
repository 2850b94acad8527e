import RevenueGuard.Kit.Runs
import RevenueGuard.Kit.Table
import RevenueGuard.Kit.Transaction
import Mathlib.Data.List.Sort

/-
Tenants of one store. A transaction scoped to a tenant does the same on that
tenant's part of the store as on the whole, and leaves every other part alone.
A loop over rows of many tenants then does to each part what the rows of that
tenant do, and a run of commands leaves each part as the tenant's own commands do.
-/
namespace Table

variable {R I : Type} [DecidableEq I] {owner : R → I} {i j : I} {rows : List R}

theorem find_select {p : R → Bool} (within : ∀ r ∈ rows, p r = true → owner r = i) :
    (select owner i rows).find? p = rows.find? p := by
  induction rows with
  | nil => rfl
  | cons r rows ih =>
    have later := ih fun s member => within s (List.mem_cons_of_mem _ member)
    have here := within r List.mem_cons_self
    simp only [select, List.filter_cons] at later ⊢
    by_cases mine : owner r = i
    · simp only [mine, decide_true, if_true, List.find?_cons, later]
    · have apart : p r = false := by
        cases taken : p r with
        | false => rfl
        | true => exact absurd (here taken) mine
      simp only [mine, decide_false, Bool.false_eq_true, if_false, List.find?_cons, apart]
      exact later

theorem filter_select {p : R → Bool} (within : ∀ r ∈ rows, p r = true → owner r = i) :
    (select owner i rows).filter p = rows.filter p := by
  rw [select, List.filter_filter]
  refine List.filter_congr fun r member => ?_
  cases taken : p r with
  | false => rfl
  | true => simp [within r member taken]

theorem any_select {p : R → Bool} (within : ∀ r ∈ rows, p r = true → owner r = i) :
    (select owner i rows).any p = rows.any p := by
  rw [Bool.eq_iff_iff, List.any_eq_true, List.any_eq_true]
  constructor
  · rintro ⟨r, member, taken⟩
    exact ⟨r, (mem_select.mp member).1, taken⟩
  · rintro ⟨r, member, taken⟩
    exact ⟨r, mem_select.mpr ⟨member, within r member taken⟩, taken⟩

theorem forall_select {P : R → Prop} (apart : ∀ r ∈ rows, owner r ≠ i → P r) :
    (∀ r ∈ select owner i rows, P r) ↔ ∀ r ∈ rows, P r := by
  constructor
  · intro mine r member
    by_cases here : owner r = i
    · exact mine r (mem_select.mpr ⟨member, here⟩)
    · exact apart r member here
  · intro all r member
    exact all r (mem_select.mp member).1

theorem filter_select_comm (p : R → Bool) : (select owner i rows).filter p = select owner i (rows.filter p) := by
  rw [select, select, List.filter_filter, List.filter_filter]
  exact List.filter_congr fun r _ => Bool.and_comm _ _

/-- A change of the rows of owner `i` alone, the same when no others are stored. -/
structure Owned (owner : R → I) (i : I) (g : List R → List R) (rows : List R) : Prop where
  inside : select owner i (g rows) = g (select owner i rows)
  outside : ∀ j, j ≠ i → select owner j (g rows) = select owner j rows

theorem owned_append {new : List R} (here : ∀ r ∈ new, owner r = i) : Owned owner i (· ++ new) rows := by
  constructor
  · simp only [select, List.filter_append]
    congr 1
    exact List.filter_eq_self.mpr fun r member => by simp [here r member]
  · intro j other
    simp only [select, List.filter_append]
    have none_of : new.filter (fun r => decide (owner r = j)) = [] := by
      rw [List.filter_eq_nil_iff]
      intro r member
      simp [here r member, Ne.symm other]
    rw [none_of, List.append_nil]

theorem owned_add {r : R} (here : owner r = i) : Owned owner i (· ++ [r]) rows :=
  owned_append fun s member => by rw [List.mem_singleton.mp member, here]

theorem select_map {f : R → R} (keeps : ∀ r ∈ rows, owner (f r) = owner r) :
    select owner j (rows.map f) = (select owner j rows).map f := by
  rw [select, select, List.filter_map]
  congr 1
  exact List.filter_congr fun r member => by simp [keeps r member]

theorem owned_map {f : R → R} (keeps : ∀ r ∈ rows, owner (f r) = owner r)
    (others : ∀ r ∈ rows, owner r ≠ i → f r = r) : Owned owner i (List.map f) rows := by
  refine ⟨select_map keeps, fun j other => ?_⟩
  rw [select_map keeps]
  conv_rhs => rw [← List.map_id (select owner j rows)]
  refine List.map_congr_left fun r member => ?_
  obtain ⟨stored, here⟩ := mem_select.mp member
  exact others r stored (here ▸ other)

theorem owned_update {K : Type} [DecidableEq K] {key : R → K} {k : K} {f : R → R}
    (here : ∀ r ∈ rows, key r = k → owner r = i) (keeps : ∀ r ∈ rows, key r = k → owner (f r) = owner r) :
    Owned owner i (update key k f) rows := by
  refine owned_map (fun r member => ?_) fun r member other => ?_
  · split
    · exact keeps r member (by assumption)
    · rfl
  · exact if_neg fun found => other (here r member found)

section sorting

variable (r : R → R → Prop) [DecidableRel r]

theorem filter_orderedInsert_neg {p : R → Bool} {a : R} (dropped : p a = false) (l : List R) :
    (l.orderedInsert r a).filter p = l.filter p := by
  induction l with
  | nil => simp [List.orderedInsert, dropped]
  | cons b l ih =>
    simp only [List.orderedInsert]
    split
    · simp [List.filter_cons, dropped]
    · simp [List.filter_cons, ih]

theorem filter_orderedInsert_pos [IsTrans R r] {p : R → Bool} {a : R} (taken : p a = true) :
    ∀ {l : List R}, l.Pairwise r → (l.orderedInsert r a).filter p = (l.filter p).orderedInsert r a := by
  intro l
  induction l with
  | nil => simp [List.orderedInsert, taken]
  | cons b l ih =>
    intro sorted
    obtain ⟨first, rest⟩ := List.pairwise_cons.mp sorted
    simp only [List.orderedInsert]
    split
    · rename_i before
      -- `a` comes before every row that stays, so it stays first.
      have lowest : ∀ c ∈ (b :: l).filter p, r a c := by
        intro c member
        rcases List.mem_cons.mp (List.mem_filter.mp member).1 with rfl | later
        · exact before
        · exact IsTrans.trans a b c before (first c later)
      rw [List.filter_cons_of_pos taken]
      cases kept : (b :: l).filter p with
      | nil => rfl
      | cons c cs => rw [List.orderedInsert, if_pos (lowest c (by rw [kept]; exact List.mem_cons_self))]
    · rename_i after
      by_cases stays : p b = true
      · rw [List.filter_cons_of_pos stays, List.filter_cons_of_pos stays, List.orderedInsert, if_neg after, ih rest]
      · rw [List.filter_cons_of_neg stays, List.filter_cons_of_neg stays, ih rest]

/-- Sorting is stable under leaving rows out. -/
theorem filter_insertionSort [Std.Total r] [IsTrans R r] (p : R → Bool) (l : List R) :
    (l.insertionSort r).filter p = (l.filter p).insertionSort r := by
  induction l with
  | nil => rfl
  | cons a l ih =>
    rw [List.insertionSort_cons]
    by_cases taken : p a = true
    · rw [filter_orderedInsert_pos r taken (List.pairwise_insertionSort r l), ih, List.filter_cons_of_pos taken,
        List.insertionSort_cons]
    · rw [filter_orderedInsert_neg r (by simpa using taken), ih, List.filter_cons_of_neg taken]

/-- The batch a sweep takes: the first rows in order, as long as the limit leaves no due row out. -/
theorem select_batch (total : ∀ a b, r a b ∨ r b a) (trans : ∀ a b c, r a b → r b c → r a c) {due : R → Bool}
    {limit : Nat} (all : (rows.filter due).length ≤ limit) :
    select owner i (((rows.filter due).insertionSort r).take limit) =
      (((select owner i rows).filter due).insertionSort r).take limit := by
  have : Std.Total r := ⟨total⟩
  have : IsTrans R r := ⟨trans⟩
  have fewer : ((select owner i rows).filter due).length ≤ limit := by
    rw [filter_select_comm]
    exact Nat.le_trans (List.length_filter_le _ _) all
  rw [List.take_of_length_le (by rwa [List.length_insertionSort]),
    List.take_of_length_le (by rwa [List.length_insertionSort]), select, filter_insertionSort, filter_select_comm]
  rfl

section lexicographic

variable {K : Type} [LinearOrder K] {key : R → K} (same : R → R → Prop) {before : R → R → Prop}

/-- First by `key`, then by `before`: the order every sweep sorts its rows in. -/
theorem lex_total (agree : ∀ a b, same a b ↔ key a = key b) (total : ∀ a b, before a b ∨ before b a) (a b : R) :
    (key a < key b ∨ (same a b ∧ before a b)) ∨ (key b < key a ∨ (same b a ∧ before b a)) := by
  rcases lt_trichotomy (key a) (key b) with less | equal | more
  · exact .inl (.inl less)
  · rcases total a b with first | second
    · exact .inl (.inr ⟨(agree a b).mpr equal, first⟩)
    · exact .inr (.inr ⟨(agree b a).mpr equal.symm, second⟩)
  · exact .inr (.inl more)

theorem lex_trans (agree : ∀ a b, same a b ↔ key a = key b) (trans : ∀ a b c, before a b → before b c → before a c)
    (a b c : R) (first : key a < key b ∨ (same a b ∧ before a b)) (second : key b < key c ∨ (same b c ∧ before b c)) :
    key a < key c ∨ (same a c ∧ before a c) := by
  rcases first with less | ⟨equal, first⟩ <;> rcases second with less' | ⟨equal', second⟩
  · exact .inl (less.trans less')
  · exact .inl (by rwa [← (agree b c).mp equal'])
  · exact .inl (by rwa [(agree a b).mp equal])
  · exact .inr ⟨(agree a c).mpr (((agree a b).mp equal).trans ((agree b c).mp equal')), trans a b c first second⟩

end lexicographic

end sorting

end Table

namespace Tx

variable {I S E A B : Type} {part : I → S → S} {Inv : S → Prop} {i : I} {P : A → Prop} {Q : B → Prop}

theorem check_congr {c c' : Prop} [Decidable c] [Decidable c'] (same : c ↔ c') (e : E) (k : Unit → Tx S E B) (s : S) :
    (check c e >>= k).run s = (check c' e >>= k).run s := by
  by_cases held : c
  · rw [bind_of_ok (check_of held), bind_of_ok (check_of (same.mp held))]
  · rw [bind_of_error (check_fails held), bind_of_error (check_fails fun h => held (same.mpr h))]

theorem bind_congr {x : Tx S E A} {f g : A → Tx S E B} (same : ∀ a t, (f a).run t = (g a).run t) (s : S) :
    (x >>= f).run s = (x >>= g).run s := by
  rw [run_bind, run_bind]
  split
  · exact same _ _
  · rfl

/-- `x` does on the part of `i` what it does on the whole store, keeps the invariant and leaves other parts alone;
its results satisfy `P`. -/
structure Scoped (part : I → S → S) (Inv : S → Prop) (i : I) (P : A → Prop) (x : Tx S E A) : Prop where
  sees : ∀ s, Inv s → x.run (part i s) = (x.run s).map fun out => (out.1, part i out.2)
  stays : ∀ {s a t}, Inv s → x.run s = .ok (a, t) → P a ∧ Inv t ∧ ∀ j, j ≠ i → part j t = part j s

namespace Scoped

theorem pure {a : A} (holds : P a) : Scoped part Inv i P (Pure.pure a : Tx S E A) where
  sees _ _ := rfl
  stays inv ran := by
    obtain ⟨rfl, rfl⟩ := pure_ok ran
    exact ⟨holds, inv, fun _ _ => rfl⟩

theorem read {f : S → A} (same : ∀ s, Inv s → f (part i s) = f s) (holds : ∀ s, Inv s → P (f s)) :
    Scoped part Inv i P (Tx.read f : Tx S E A) where
  sees s inv := by
    rw [run_read, run_read, same s inv]
    rfl
  stays inv ran := by
    obtain ⟨rfl, rfl⟩ := read_ok ran
    exact ⟨holds _ inv, inv, fun _ _ => rfl⟩

theorem look {f : S → A} (same : ∀ s, Inv s → f (part i s) = f s) :
    Scoped part Inv i (fun _ => True) (Tx.read f : Tx S E A) := .read same fun _ _ => trivial

theorem check (c : Prop) [Decidable c] (e : E) : Scoped part Inv i (fun _ => c) (Tx.check c e : Tx S E Unit) where
  sees s _ := by
    rw [run_check, run_check]
    split <;> rfl
  stays inv ran := by
    obtain ⟨held, rfl⟩ := check_ok ran
    exact ⟨held, inv, fun _ _ => rfl⟩

theorem found (o : Option A) (e : E) : Scoped part Inv i (fun a => o = some a) (Tx.found o e : Tx S E A) where
  sees s _ := by cases o <;> rfl
  stays inv ran := by
    obtain ⟨held, rfl⟩ := found_ok ran
    exact ⟨held, inv, fun _ _ => rfl⟩

theorem lift (x : Except E A) : Scoped part Inv i (fun a => x = .ok a) (Tx.lift x : Tx S E A) where
  sees s _ := by cases x <;> rfl
  stays inv ran := by
    obtain ⟨held, rfl⟩ := lift_ok ran
    exact ⟨held, inv, fun _ _ => rfl⟩

theorem write {f : S → S} (inside : ∀ s, Inv s → part i (f s) = f (part i s))
    (outside : ∀ s, Inv s → ∀ j, j ≠ i → part j (f s) = part j s) (keeps : ∀ s, Inv s → Inv (f s)) :
    Scoped part Inv i (fun _ => True) (Tx.write f : Tx S E Unit) where
  sees s inv := by
    rw [run_write, run_write, ← inside s inv]
    rfl
  stays inv ran := by
    rw [write_ok ran]
    exact ⟨trivial, keeps _ inv, outside _ inv⟩

theorem bind {x : Tx S E A} {f : A → Tx S E B} (first : Scoped part Inv i P x)
    (second : ∀ a, P a → Scoped part Inv i Q (f a)) : Scoped part Inv i Q (x >>= f) where
  sees s inv := by
    rw [run_bind, run_bind, first.sees s inv]
    cases ran : x.run s with
    | error e => rfl
    | ok out =>
      obtain ⟨held, kept, -⟩ := first.stays inv (a := out.1) (t := out.2) ran
      exact (second out.1 held).sees out.2 kept
  stays inv ran := by
    obtain ⟨a, u, ran, later⟩ := bind_ok ran
    obtain ⟨held, kept, apart⟩ := first.stays inv ran
    obtain ⟨result, last, apart'⟩ := (second a held).stays kept later
    exact ⟨result, last, fun j other => (apart' j other).trans (apart j other)⟩

theorem comp {f g : S → S} (first : Scoped part Inv i (fun _ => True) (Tx.write g : Tx S E Unit))
    (second : Scoped part Inv i (fun _ => True) (Tx.write f : Tx S E Unit)) :
    Scoped part Inv i (fun _ => True) (Tx.write (fun s => f (g s)) : Tx S E Unit) := first.bind fun _ _ => second

theorem mono {P' : A → Prop} {x : Tx S E A} (h : Scoped part Inv i P x) (weaker : ∀ a, P a → P' a) :
    Scoped part Inv i P' x where
  sees := h.sees
  stays inv ran := by
    obtain ⟨held, rest⟩ := h.stays inv ran
    exact ⟨weaker _ held, rest⟩

/-- A read of whole tables that is only tested: the tests come out alike on the part and on the whole. -/
theorem test {f : S → A} {y : A → Tx S E B}
    (same : ∀ s, Inv s → (y (f (part i s))).run (part i s) = (y (f s)).run (part i s))
    (body : ∀ a, Scoped part Inv i Q (y a)) : Scoped part Inv i Q (Tx.read f >>= y) where
  sees s inv := by
    rw [bind_of_ok (run_read f _), bind_of_ok (run_read f _), same s inv]
    exact (body (f s)).sees s inv
  stays inv ran := by
    rw [bind_of_ok (run_read f _)] at ran
    exact (body _).stays inv ran

/-- A further invariant that the transaction keeps. -/
theorem also {J : S → Prop} {x : Tx S E A} (h : Scoped part Inv i P x) (keeps : Keeps x fun s t => J s → J t) :
    Scoped part (fun s => Inv s ∧ J s) i P x where
  sees s inv := h.sees s inv.1
  stays inv ran := by
    obtain ⟨held, kept, apart⟩ := h.stays inv.1 ran
    exact ⟨held, ⟨kept, keeps _ _ _ ran inv.2⟩, apart⟩

theorem ite {c : Prop} [Decidable c] {x y : Tx S E A} (yes : c → Scoped part Inv i P x)
    (no : ¬ c → Scoped part Inv i P y) : Scoped part Inv i P (if c then x else y) := by
  split
  · exact yes (by assumption)
  · exact no (by assumption)

/-- A scoped transaction commits on a part what it commits of it on the whole. -/
theorem commit_inside {x : Tx S E A} (h : Scoped part Inv i P x) {s : S} (inv : Inv s) :
    part i (x.commit s) = x.commit (part i s) := by
  have same := h.sees s inv
  cases ran : x.run s with
  | error e =>
    rw [ran] at same
    rw [commit_of_error ran, commit_of_error same]
  | ok out =>
    rw [ran] at same
    rw [commit_of_ok (a := out.1) (t := out.2) ran]
    exact (commit_of_ok same).symm

theorem commit_apart {x : Tx S E A} (h : Scoped part Inv i P x) {s : S} (inv : Inv s) :
    Inv (x.commit s) ∧ ∀ j, j ≠ i → part j (x.commit s) = part j s :=
  commit_relates (R := fun s t => Inv t ∧ ∀ j, j ≠ i → part j t = part j s) ⟨inv, fun _ _ => rfl⟩
    fun ran => (h.stays inv ran).2

end Scoped

section sweeps

variable [DecidableEq I] {owner : A → I} {f : A → Tx S E B} {rows : List A} {s t : S}

/-- A loop that commits does to every part what the rows of its owner alone do there. -/
theorem each_part (body : ∀ a ∈ rows, Scoped part Inv (owner a) (fun _ => True) (f a)) (inv : Inv s)
    {bs : List B} (ran : (each f rows).run s = .ok (bs, t)) :
    Inv t ∧ ∀ i, ∃ cs, (each f (Table.select owner i rows)).run (part i s) = .ok (cs, part i t) := by
  induction rows generalizing s bs with
  | nil =>
    obtain ⟨-, rfl⟩ := pure_ok ran
    exact ⟨inv, fun i => ⟨[], rfl⟩⟩
  | cons a rest ih =>
    obtain ⟨b, u, first, ran⟩ := bind_ok ran
    obtain ⟨later, v, second, ran⟩ := bind_ok ran
    obtain ⟨-, rfl⟩ := pure_ok ran
    have here := body a List.mem_cons_self
    obtain ⟨-, kept, apart⟩ := here.stays inv first
    obtain ⟨last, parts⟩ := ih (fun c member => body c (List.mem_cons_of_mem _ member)) kept second
    refine ⟨last, fun i => ?_⟩
    obtain ⟨cs, ran⟩ := parts i
    simp only [Table.select, List.filter_cons] at ran ⊢
    by_cases mine : owner a = i
    · have same := here.sees s inv
      rw [first, mine] at same
      simp only [mine, decide_true, if_true]
      exact ⟨b :: cs, (bind_of_ok same).trans (bind_of_ok ran)⟩
    · simp only [mine, decide_false, Bool.false_eq_true, if_false]
      rw [apart i (Ne.symm mine)] at ran
      exact ⟨cs, ran⟩

/-- A sweep that commits leaves each part as the sweep of that part does, when its batch there is the owner's share. -/
theorem sweep_part {batch : S → List A} {c : Prop} [Decidable c] {e : E}
    (body : ∀ a ∈ batch s, Scoped part Inv (owner a) (fun _ => True) (f a)) (inv : Inv s)
    {bs : List B} (ran : (check c e >>= fun _ => read batch >>= fun rows => each f rows).run s = .ok (bs, t)) :
    Inv t ∧ ∀ i, batch (part i s) = Table.select owner i (batch s) →
      ∃ cs, (check c e >>= fun _ => read batch >>= fun rows => each f rows).run (part i s) = .ok (cs, part i t) := by
  obtain ⟨_, _, checked, ran⟩ := bind_ok ran
  obtain ⟨held, rfl⟩ := check_ok checked
  obtain ⟨_, _, looked, ran⟩ := bind_ok ran
  obtain ⟨rfl, rfl⟩ := read_ok looked
  obtain ⟨kept, parts⟩ := each_part body inv ran
  refine ⟨kept, fun i share => ?_⟩
  obtain ⟨cs, last⟩ := parts i
  rw [← share] at last
  exact ⟨cs, (bind_of_ok (check_of held)).trans ((bind_of_ok (run_read batch _)).trans last)⟩

end sweeps

end Tx

namespace Runs

variable {I S C : Type} [DecidableEq I]

/-- Commands of one owner, or of all owners at once, over a store with a part for each owner. -/
structure Parted (part : I → S → S) (Inv : S → Prop) (owner : C → Option I) (next : C → S → S)
    (served : C → S → Prop) : Prop where
  keeps : ∀ {c s}, Inv s → served c s → Inv (next c s)
  inside : ∀ {c s i}, Inv s → served c s → owner c = none ∨ owner c = some i → part i (next c s) = next c (part i s)
  outside : ∀ {c s i j}, Inv s → served c s → owner c = some j → i ≠ j → part i (next c s) = part i s

/-- The commands that concern `i`. -/
def concerning (owner : C → Option I) (i : I) (cs : List C) : List C :=
  cs.filter fun c => decide (owner c = none ∨ owner c = some i)

/-- Each part of a run's last state is the run of the commands that concern its owner. -/
theorem Parted.run {part : I → S → S} {Inv : S → Prop} {owner : C → Option I} {next : C → S → S}
    {served : C → S → Prop} (parted : Parted part Inv owner next served) (i : I) {cs : List C} {s : S} (inv : Inv s)
    (ok : Allowed next served cs s) :
    part i (cs.foldl (fun s c => next c s) s) =
      (concerning owner i cs).foldl (fun s c => next c s) (part i s) := by
  induction cs generalizing s with
  | nil => rfl
  | cons c rest ih =>
    have later := ih (parted.keeps inv ok.1) ok.2
    rw [List.foldl_cons, later, concerning, concerning, List.filter_cons]
    by_cases mine : owner c = none ∨ owner c = some i
    · rw [if_pos (by simpa using mine), List.foldl_cons, parted.inside inv ok.1 mine]
    · rw [if_neg (by simpa using mine)]
      cases whose : owner c with
      | none => exact absurd (.inl whose) mine
      | some j =>
        have other : i ≠ j := by
          rintro rfl
          exact mine (.inr whose)
        rw [parted.outside inv ok.1 whose other]

end Runs
