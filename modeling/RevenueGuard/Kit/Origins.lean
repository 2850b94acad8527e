import Mathlib.Data.List.Induction
import Mathlib.Tactic.Common

/-
Where a fact of a run comes from: a property that a sequence of commands brings
about is brought about by one of them, and one that every command keeps lasts.
-/
namespace Runs

variable {S C : Type} {f : C → S → S} {P : S → Prop}

def fold (f : C → S → S) (cs : List C) (s : S) : S := cs.foldl (fun s c => f c s) s

theorem fold_append (cs cs' : List C) (s : S) : fold f (cs ++ cs') s = fold f cs' (fold f cs s) := List.foldl_append

/-- The command at which `P` first holds, with the commands before and after it. -/
theorem origin {cs : List C} {s : S} (absent : ¬ P s) (present : P (fold f cs s)) :
    ∃ before c after, cs = before ++ c :: after ∧ ¬ P (fold f before s) ∧ P (f c (fold f before s)) := by
  induction cs generalizing s with
  | nil => exact absurd present absent
  | cons c rest ih =>
    by_cases here : P (f c s)
    · exact ⟨[], c, rest, rfl, absent, here⟩
    · obtain ⟨before, d, after, split, missing, found⟩ := ih here present
      exact ⟨c :: before, d, after, congrArg (c :: ·) split, missing, found⟩

/-- A relation kept by every command relates the ends. -/
theorem fold_relates {R : S → S → Prop} (refl : ∀ s, R s s) (compose : ∀ {s t u}, R s t → R t u → R s u)
    (step : ∀ c s, R s (f c s)) (cs : List C) (s : S) : R s (fold f cs s) := by
  induction cs generalizing s with
  | nil => exact refl s
  | cons c rest ih => exact compose (step c s) (ih (f c s))

/-- A property of the history and the state it leads to, kept by one command more. -/
theorem fold_history {I : List C → S → Prop} {s : S} (base : I [] s)
    (step : ∀ cs c, I cs (fold f cs s) → I (cs ++ [c]) (f c (fold f cs s))) (cs : List C) :
    I cs (fold f cs s) := by
  induction cs using List.reverseRecOn with
  | nil => exact base
  | append_singleton cs c ih =>
    rw [fold_append]
    exact step cs c ih

end Runs
