import Mathlib.Data.Int.Init
import Mathlib.Tactic.Common

/-
A local clock given by its offset at each instant, and the instants its readings
stand for when they are read back: the first or the last one that shows a reading
that repeats, and one computed from either side of the gap for a reading that is
skipped.
-/

structure LocalClock where
  utcoffset : Int → Int
  /-- the offset a reading has under a fold -/
  wallOffset : Bool → Int → Int
  bounded : ∃ bound, ∀ i, -bound < utcoffset i ∧ utcoffset i < bound
  shown : ∀ fold i, let instant := i + utcoffset i - wallOffset fold (i + utcoffset i)
    instant + utcoffset instant = i + utcoffset i ∧ if fold then i ≤ instant else instant ≤ i
  skipped : ∀ fold wall change, (∀ i, i + utcoffset i ≠ wall) → change + utcoffset (change - 1) ≤ wall →
    wall < change + utcoffset change → wallOffset fold wall = if fold then utcoffset change else utcoffset (change - 1)

namespace LocalClock

variable {clock : LocalClock} {fold : Bool} {wall i : Int}

def reading (clock : LocalClock) (i : Int) : Int := i + clock.utcoffset i

def instantOf (clock : LocalClock) (fold : Bool) (wall : Int) : Int := wall - clock.wallOffset fold wall

/-- The clock jumps over the reading. -/
def Skips (clock : LocalClock) (wall change : Int) : Prop :=
  change + clock.utcoffset (change - 1) ≤ wall ∧ wall < clock.reading change

/-- The offset a skipped reading is read with. -/
def gapOffset (clock : LocalClock) (fold : Bool) (change : Int) : Int :=
  if fold then clock.utcoffset change else clock.utcoffset (change - 1)

/-- The clock shows the reading after `i`; for the first fold it has not shown it until then. -/
def Ahead (clock : LocalClock) (fold : Bool) (wall i : Int) : Prop :=
  if fold then ∃ j, i < j ∧ clock.reading j = wall else ∀ j, j ≤ i → clock.reading j ≠ wall

/-- At `i` the reading is still to come. One that the clock skips would be shown later if the clock kept the offset of
one side of the gap. -/
def ToCome (clock : LocalClock) (fold : Bool) (wall i : Int) : Prop :=
  ((∃ j, clock.reading j = wall) ∧ clock.Ahead fold wall i) ∨
    ((∀ j, clock.reading j ≠ wall) ∧ ∃ change, clock.Skips wall change ∧ i + clock.gapOffset fold change < wall)

theorem reading_instantOf (shows : clock.reading i = wall) : clock.reading (clock.instantOf fold wall) = wall := by
  subst shows
  exact (clock.shown fold i).1

theorem instantOf_first (shows : clock.reading i = wall) : clock.instantOf false wall ≤ i := by
  subst shows
  exact (clock.shown false i).2

theorem instantOf_last (shows : clock.reading i = wall) : i ≤ clock.instantOf true wall := by
  subst shows
  exact (clock.shown true i).2

/-- A clock that shows less at first and more later, and never `wall`, jumps over it. -/
theorem exists_skips (unshown : ∀ j, clock.reading j ≠ wall) : ∃ change, clock.Skips wall change := by
  obtain ⟨bound, within⟩ := clock.bounded
  by_contra none
  have below : ∀ i, wall - bound ≤ i → clock.reading i < wall := by
    intro i after
    induction i, after using Int.leInduction with
    | base =>
      have early := (within (wall - bound)).2
      unfold reading
      omega
    | succ i after ih =>
      have apart := unshown (i + 1)
      have kept : i + 1 + clock.utcoffset (i + 1 - 1) ≤ wall := by
        rw [Int.add_sub_cancel]
        unfold reading at ih
        omega
      by_contra past
      exact none ⟨i + 1, kept, by omega⟩
  have late := (within (wall + bound)).1
  have positive : 0 < bound := by
    have here := within 0
    omega
  have reached := below (wall + bound) (by omega)
  unfold reading at reached
  omega

theorem instantOf_skipped (unshown : ∀ j, clock.reading j ≠ wall) {change : Int} (skips : clock.Skips wall change) :
    clock.instantOf fold wall = wall - clock.gapOffset fold change := by
  rw [instantOf, clock.skipped fold wall change unshown skips.1 skips.2, gapOffset]

theorem ahead_iff (shows : ∃ j, clock.reading j = wall) : clock.Ahead fold wall i ↔ i < clock.instantOf fold wall := by
  obtain ⟨j, shown⟩ := shows
  have back : clock.reading (clock.instantOf fold wall) = wall := reading_instantOf shown
  cases fold with
  | false =>
    constructor
    · intro unseen
      by_contra past
      exact unseen _ (by omega) back
    · intro later k early seen
      have first := instantOf_first seen
      omega
  | true =>
    constructor
    · rintro ⟨k, later, seen⟩
      have last := instantOf_last seen
      omega
    · exact fun later => ⟨_, later, back⟩

/-- What is still to come is what is read back to a later instant. -/
theorem toCome_iff : clock.ToCome fold wall i ↔ i < clock.instantOf fold wall := by
  by_cases shows : ∃ j, clock.reading j = wall
  · rw [← ahead_iff shows]
    constructor
    · rintro (⟨-, ahead⟩ | ⟨unshown, -⟩)
      · exact ahead
      · exact absurd shows (not_exists.mpr unshown)
    · exact fun ahead => .inl ⟨shows, ahead⟩
  · have unshown : ∀ j, clock.reading j ≠ wall := not_exists.mp shows
    constructor
    · rintro (⟨shown, -⟩ | ⟨-, change, skips, before⟩)
      · exact absurd shown shows
      · rw [instantOf_skipped unshown skips]
        omega
    · intro later
      obtain ⟨change, skips⟩ := exists_skips unshown
      rw [instantOf_skipped unshown skips] at later
      exact .inr ⟨unshown, change, skips, by omega⟩

/-- A clock that keeps its offset. -/
def fixed (offset : Int) : LocalClock where
  utcoffset := fun _ => offset
  wallOffset := fun _ _ => offset
  bounded := ⟨offset.natAbs + 1, fun _ => by omega⟩
  shown := by
    intro fold i
    cases fold <;> simp
  skipped := by
    intro fold wall change _ from_ until_
    omega

theorem reading_fixed (offset i : Int) : (fixed offset).reading i = i + offset := rfl

theorem toCome_fixed {offset : Int} : (fixed offset).ToCome fold wall i ↔ i + offset < wall := by
  rw [toCome_iff]
  simp only [instantOf, fixed]
  omega

end LocalClock
