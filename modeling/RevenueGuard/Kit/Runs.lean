import Mathlib.Logic.Relation
import Mathlib.Tactic.Common

/-
Runs of a system whose commands are chosen by an environment. `allowed` limits
the commands a run may take in a state; a property kept by every allowed step
holds in every state such a run reaches.
-/
namespace Runs

variable {S C : Type}

inductive Reaches (next : C → S → S) (allowed : C → S → Prop) (s : S) : S → Prop
  | start : Reaches next allowed s s
  | step {t : S} (c : C) (before : Reaches next allowed s t) (ok : allowed c t) :
      Reaches next allowed s (next c t)

variable {next : C → S → S} {allowed allowed' : C → S → Prop} {s t u : S}

theorem Reaches.invariant (Inv : S → Prop) (run : Reaches next allowed s t) (base : Inv s)
    (step : ∀ c t, Inv t → allowed c t → Inv (next c t)) : Inv t := by
  induction run with
  | start => exact base
  | step c _ ok ih => exact step c _ ih ok

theorem Reaches.trans (first : Reaches next allowed s t) (second : Reaches next allowed t u) :
    Reaches next allowed s u := by
  induction second with
  | start => exact first
  | step c _ ok ih => exact .step c ih ok

theorem Reaches.mono (run : Reaches next allowed s t) (weaker : ∀ c t, allowed c t → allowed' c t) :
    Reaches next allowed' s t := by
  induction run with
  | start => exact .start
  | step c _ ok ih => exact .step c ih (weaker c _ ok)

/-- A run given by its commands: each of them is allowed where it is taken. -/
def Allowed (next : C → S → S) (allowed : C → S → Prop) : List C → S → Prop
  | [], _ => True
  | c :: rest, s => allowed c s ∧ Allowed next allowed rest (next c s)

instance decidableAllowed [∀ c s, Decidable (allowed c s)] : ∀ (cs : List C) (s : S), Decidable (Allowed next allowed cs s)
  | [], _ => isTrue trivial
  | c :: rest, s =>
    have := decidableAllowed rest (next c s)
    inferInstanceAs (Decidable (_ ∧ _))

theorem reaches_allowed {cs : List C} (ok : Allowed next allowed cs s) :
    Reaches next allowed s (cs.foldl (fun s c => next c s) s) := by
  induction cs generalizing s with
  | nil => exact .start
  | cons c rest ih => exact (Reaches.step c .start ok.1).trans (ih ok.2)

end Runs
