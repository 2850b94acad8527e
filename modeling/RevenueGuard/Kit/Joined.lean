import Mathlib.Tactic.Common
import Mathlib.Data.List.Basic

/-
Lists joined with a separator. Joining keeps the pieces between separators and
forgets which part each piece came from.
-/
namespace Joined

variable {A : Type} [DecidableEq A] {sep : A} {parts others : List (List A)}

/-- Every part cut at every separator, part after part. -/
def pieces (sep : A) (parts : List (List A)) : List (List A) := parts.flatMap (·.splitOn sep)

/-- Two ways to group one sequence of pieces. -/
def Regrouped (sep : A) (parts others : List (List A)) : Prop :=
  parts ≠ others ∧ pieces sep parts = pieces sep others

instance (sep : A) (parts others : List (List A)) : Decidable (Regrouped sep parts others) := by
  unfold Regrouped
  infer_instance

theorem splitOn_intercalate (nonempty : parts ≠ []) :
    ([sep].intercalate parts).splitOn sep = pieces sep parts := by
  induction parts with
  | nil => exact absurd rfl nonempty
  | cons p rest ih =>
    cases rest with
    | nil => simp [pieces]
    | cons q rest =>
      have later := ih (List.cons_ne_nil q rest)
      rw [List.intercalate_cons_cons, List.append_assoc, List.singleton_append, List.splitOn_append_cons_self, later]
      rfl

theorem intercalate_pieces (nonempty : parts ≠ []) : [sep].intercalate (pieces sep parts) = [sep].intercalate parts := by
  rw [← splitOn_intercalate nonempty]
  exact List.intercalate_splitOn sep

theorem intercalate_eq_iff (nonempty : parts ≠ []) (nonempty' : others ≠ []) :
    [sep].intercalate parts = [sep].intercalate others ↔ pieces sep parts = pieces sep others := by
  constructor
  · intro same
    rw [← splitOn_intercalate nonempty, ← splitOn_intercalate nonempty', same]
  · intro same
    rw [← intercalate_pieces nonempty, ← intercalate_pieces nonempty', same]

/-- Exactly when joining tells two lists of parts apart. -/
theorem apart_iff (nonempty : parts ≠ []) (nonempty' : others ≠ []) :
    ([sep].intercalate parts = [sep].intercalate others → parts = others) ↔ ¬ Regrouped sep parts others := by
  rw [intercalate_eq_iff nonempty nonempty']
  constructor
  · intro apart regrouped
    exact regrouped.1 (apart regrouped.2)
  · intro single same
    by_contra different
    exact single ⟨different, same⟩

theorem pieces_clean (clean : ∀ p ∈ parts, sep ∉ p) : pieces sep parts = parts := by
  induction parts with
  | nil => rfl
  | cons p rest ih =>
    have whole : p.splitOn sep = [p] := List.splitOn_eq_singleton (clean p (by simp))
    rw [pieces, List.flatMap_cons, whole, ← pieces, ih fun q member => clean q (by simp [member])]
    rfl

theorem length_le_pieces (sep : A) (parts : List (List A)) : parts.length ≤ (pieces sep parts).length := by
  induction parts with
  | nil => simp [pieces]
  | cons p rest ih =>
    have some := List.length_pos_of_ne_nil (List.splitOn_ne_nil sep p)
    simp only [pieces, List.flatMap_cons, List.length_append, List.length_cons] at ih ⊢
    omega

/-- With as many pieces as parts, each part is one piece. -/
theorem pieces_of_length (full : (pieces sep parts).length = parts.length) : pieces sep parts = parts := by
  induction parts with
  | nil => rfl
  | cons p rest ih =>
    have some := List.length_pos_of_ne_nil (List.splitOn_ne_nil sep p)
    have rest_le := length_le_pieces sep rest
    simp only [pieces, List.flatMap_cons, List.length_append, List.length_cons] at full ih rest_le ⊢
    obtain ⟨q, single⟩ := List.length_eq_one_iff.mp (show (p.splitOn sep).length = 1 by omega)
    have whole : [sep].intercalate (p.splitOn sep) = p := List.intercalate_splitOn sep
    rw [single, List.intercalate_singleton] at whole
    rw [single, ih (by omega), whole]
    rfl

/-- Parts without the separator share their joined text with no other list of as many parts. -/
theorem not_regrouped (clean : ∀ p ∈ parts, sep ∉ p) (length : parts.length = others.length) :
    ¬ Regrouped sep parts others := by
  rintro ⟨different, same⟩
  rw [pieces_clean clean] at same
  apply different
  rw [same]
  apply pieces_of_length
  rw [← same, length]

/-- Two parts are regrouped by moving what stands between two separators from one part to the other. -/
theorem regrouped_pair {a b a' b' : List A} : Regrouped sep [a, b] [a', b'] ↔
    ∃ x, (a' = a ++ sep :: x ∧ b = x ++ sep :: b') ∨ (a = a' ++ sep :: x ∧ b' = x ++ sep :: b) := by
  have joined : pieces sep [a, b] = pieces sep [a', b'] ↔ a ++ sep :: b = a' ++ sep :: b' := by
    rw [← intercalate_eq_iff (List.cons_ne_nil _ _) (List.cons_ne_nil _ _)]
    simp
  rw [Regrouped, joined]
  constructor
  · rintro ⟨different, same⟩
    rcases List.append_eq_append_iff.mp same with ⟨c, left, right⟩ | ⟨c, left, right⟩
    · cases c with
      | nil => simp_all
      | cons s x =>
        obtain ⟨rfl, moved⟩ := List.cons.inj right
        exact ⟨x, .inl ⟨left, moved⟩⟩
    · cases c with
      | nil => simp_all
      | cons s x =>
        obtain ⟨rfl, moved⟩ := List.cons.inj right
        exact ⟨x, .inr ⟨left, moved⟩⟩
  · rintro ⟨x, ⟨rfl, rfl⟩ | ⟨rfl, rfl⟩⟩
    · simp
    · simp

end Joined
