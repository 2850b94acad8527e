import Mathlib.Order.Basic
import Mathlib.Order.Defs.LinearOrder
import Mathlib.Order.Lattice
import Mathlib.Tactic.Common

/-
A high-water mark. Each input may move it to a strictly higher place; where the
admitted inputs have distinct places the order they come in does not show.
-/
namespace HighWater

variable {X M K : Type} [LinearOrder K]

structure Rule (X M K : Type) where
  admits : X → Bool
  mark : X → M
  key : M → K

variable {rule : Rule X M K} {x : X} {xs ys : List X}

def advance (rule : Rule X M K) (m : M) (x : X) : M :=
  if rule.admits x = true ∧ rule.key m < rule.key (rule.mark x) then rule.mark x else m

def advanceAll (rule : Rule X M K) (m : M) (xs : List X) : M := xs.foldl (advance rule) m

theorem advance_le (rule : Rule X M K) (m : M) (x : X) : rule.key m ≤ rule.key (advance rule m x) := by
  unfold advance
  split
  · rename_i moves
    exact moves.2.le
  · exact le_rfl

theorem advance_reaches (m : M) (admitted : rule.admits x = true) : rule.key (rule.mark x) ≤ rule.key (advance rule m x) := by
  unfold advance
  split
  · exact le_rfl
  · rename_i stays
    exact not_lt.mp fun above => stays ⟨admitted, above⟩

theorem advanceAll_le (rule : Rule X M K) (m : M) (xs : List X) : rule.key m ≤ rule.key (advanceAll rule m xs) := by
  induction xs generalizing m with
  | nil => exact le_rfl
  | cons x rest ih => exact (advance_le rule m x).trans (ih _)

theorem advanceAll_reaches (rule : Rule X M K) (m : M) (member : x ∈ xs) (admitted : rule.admits x = true) :
    rule.key (rule.mark x) ≤ rule.key (advanceAll rule m xs) := by
  induction xs generalizing m with
  | nil => cases member
  | cons y rest ih =>
    rcases List.mem_cons.mp member with first | later
    · subst first
      exact (advance_reaches m admitted).trans (advanceAll_le rule _ rest)
    · exact ih _ later

/-- The mark has not moved, or it stands strictly higher at an admitted input. -/
theorem advanceAll_source (rule : Rule X M K) (m : M) (xs : List X) : advanceAll rule m xs = m ∨
    ∃ x ∈ xs, rule.admits x = true ∧ advanceAll rule m xs = rule.mark x ∧ rule.key m < rule.key (rule.mark x) := by
  induction xs generalizing m with
  | nil => exact .inl rfl
  | cons x rest ih =>
    have next : advanceAll rule m (x :: rest) = advanceAll rule (advance rule m x) rest :=
      rfl
    rw [next]
    by_cases moves : rule.admits x = true ∧ rule.key m < rule.key (rule.mark x)
    · have moved : advance rule m x = rule.mark x := if_pos moves
      rw [moved]
      rcases ih (rule.mark x) with stays | ⟨y, member, admitted, stands, above⟩
      · exact .inr ⟨x, List.mem_cons_self, moves.1, stays, moves.2⟩
      · exact .inr ⟨y, List.mem_cons_of_mem x member, admitted, stands, moves.2.trans above⟩
    · have kept : advance rule m x = m := if_neg moves
      rw [kept]
      rcases ih m with stays | ⟨y, member, rest⟩
      · exact .inl stays
      · exact .inr ⟨y, List.mem_cons_of_mem x member, rest⟩

theorem advance_again (m : M) (member : x ∈ xs) :
    advance rule (advanceAll rule m xs) x = advanceAll rule m xs := by
  refine if_neg ?_
  rintro ⟨admitted, above⟩
  exact absurd above (not_lt.mpr (advanceAll_reaches rule m member admitted))

theorem advanceAll_same (m : M) (same : ∀ x, x ∈ xs ↔ x ∈ ys)
    (apart : ∀ x ∈ xs, ∀ y ∈ xs, rule.key (rule.mark x) = rule.key (rule.mark y) → x = y) :
    advanceAll rule m xs = advanceAll rule m ys := by
  have below : ∀ {xs ys : List X} {x : X}, x ∈ xs → rule.admits x = true → advanceAll rule m ys = m →
      (∀ x, x ∈ xs ↔ x ∈ ys) → ¬ rule.key m < rule.key (rule.mark x) := by
    intro xs ys x member admitted stays same above
    have reached := advanceAll_reaches rule m ((same x).mp member) admitted
    rw [stays] at reached
    exact absurd above (not_lt.mpr reached)
  rcases advanceAll_source rule m xs with stays | ⟨x, hx, ax, stands, above⟩
  · rcases advanceAll_source rule m ys with stays' | ⟨y, hy, ay, -, above⟩
    · exact stays.trans stays'.symm
    · exact absurd above (below hy ay stays fun x => (same x).symm)
  · rcases advanceAll_source rule m ys with stays | ⟨y, hy, ay, stands', -⟩
    · exact absurd above (below hx ax stays same)
    · have up := advanceAll_reaches rule m ((same x).mp hx) ax
      have down := advanceAll_reaches rule m ((same y).mpr hy) ay
      rw [stands'] at up
      rw [stands] at down
      rw [stands, stands', apart x hx y ((same y).mpr hy) (le_antisymm up down)]

end HighWater
