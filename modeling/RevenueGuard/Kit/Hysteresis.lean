import Mathlib.Algebra.Order.Group.Defs
import Mathlib.Algebra.Order.Monoid.NatCast
import Mathlib.Data.List.Sort
import Mathlib.Tactic.Common

/-
Hysteresis. A watch opens on a bad sample, starts over on each later one and
resolves after enough good samples, each a window after the one before. Samples
that come early are passed over; bad ones are taken at any time.
-/
namespace Hysteresis

variable {A T : Type} [AddCommGroup T] [LinearOrder T] [IsOrderedAddMonoid T]

/-- How samples of type `A` are read, and when a watch over them resolves. -/
structure Rule (A T : Type) [Zero T] [LE T] where
  bad : A → Bool
  instant : A → T
  window : T
  needed : Nat
  window_nonneg : 0 ≤ window
  needed_pos : 0 < needed

structure Watch (T : Type) where
  updated : T
  clears : Nat
  resolved : Option T

def opened (t : T) : Watch T := ⟨t, 0, none⟩

def Watch.observe (rule : Rule A T) (w : Watch T) (s : A) : Watch T :=
  if rule.bad s then opened (rule.instant s)
  else if rule.instant s < w.updated + rule.window then w
  else ⟨rule.instant s, w.clears + 1, if rule.needed ≤ w.clears + 1 then some (rule.instant s) else none⟩

/-- The samples of one watch, from the one that opened it, with no bad one out of order. -/
inductive Run (rule : Rule A T) : List A → Watch T → Prop
  | opening (s : A) (bad : rule.bad s = true) : Run rule [s] (opened (rule.instant s))
  | observed {samples : List A} {w : Watch T} (s : A) (before : Run rule samples w)
      (unresolved : w.resolved = none) (inOrder : rule.bad s = true → w.updated ≤ rule.instant s) :
      Run rule (samples ++ [s]) (w.observe rule s)

/-- What a watch's state says of its samples: the latest bad one, and the good ones counted since. -/
structure Account (rule : Rule A T) (samples : List A) (w : Watch T) (before : List A)
    (last : A) (since counted : List A) : Prop where
  split : samples = before ++ last :: since
  bad : rule.bad last = true
  good : ∀ s ∈ since, rule.bad s = false
  sublist : counted.Sublist since
  length : counted.length = w.clears
  spaced : (last :: counted).Pairwise fun s t => rule.instant s + rule.window ≤ rule.instant t
  updated : rule.instant ((last :: counted).getLast (List.cons_ne_nil _ _)) = w.updated
  reached : ∀ s ∈ last :: counted, rule.instant s ≤ w.updated
  elapsed : rule.instant last + w.clears • rule.window ≤ w.updated
  latest : ∀ s ∈ before, rule.bad s = true → rule.instant s ≤ rule.instant last

variable {rule : Rule A T} {samples before since counted : List A} {w : Watch T} {last s : A} {t : T}

theorem observe_bad (bad : rule.bad s = true) : w.observe rule s = opened (rule.instant s) := if_pos bad

/-- The watch never moves back, as long as bad samples come in order. -/
theorem observe_updated (inOrder : rule.bad s = true → w.updated ≤ rule.instant s) : w.updated ≤ (w.observe rule s).updated := by
  unfold Watch.observe
  split
  · rename_i bad
    exact inOrder bad
  split
  · exact le_rfl
  · rename_i late
    exact (le_add_of_nonneg_right rule.window_nonneg).trans (not_lt.mp late)

theorem Account.restart (account : Account rule samples w before last since counted) (bad : rule.bad s = true)
    (inOrder : w.updated ≤ rule.instant s) : Account rule (samples ++ [s]) (opened (rule.instant s)) samples s [] [] := by
  refine ⟨rfl, bad, by simp, List.Sublist.refl _, rfl, List.pairwise_singleton _ _, rfl, by simp [opened], by simp [opened],
    fun b member isBad => ?_⟩
  rw [account.split] at member
  have last_le : rule.instant last ≤ rule.instant s := (account.reached last List.mem_cons_self).trans inOrder
  rcases List.mem_append.mp member with old | recent
  · exact (account.latest b old isBad).trans last_le
  · rcases List.mem_cons.mp recent with rfl | good
    · exact last_le
    · rw [account.good b good] at isBad
      cases isBad

theorem Account.skip (account : Account rule samples w before last since counted) (good : rule.bad s = false) :
    Account rule (samples ++ [s]) w before last (since ++ [s]) counted where
  split := by rw [account.split, List.append_assoc, List.cons_append]
  bad := account.bad
  good := by
    intro b member
    rcases List.mem_append.mp member with old | new
    · exact account.good b old
    · rw [List.mem_singleton.mp new]
      exact good
  sublist := account.sublist.trans (List.sublist_append_left _ _)
  length := account.length
  spaced := account.spaced
  updated := account.updated
  reached := account.reached
  elapsed := account.elapsed
  latest := account.latest

theorem Account.count (account : Account rule samples w before last since counted) (good : rule.bad s = false)
    (late : w.updated + rule.window ≤ rule.instant s) (r : Option T) :
    Account rule (samples ++ [s]) ⟨rule.instant s, w.clears + 1, r⟩ before last (since ++ [s]) (counted ++ [s]) where
  split := by rw [account.split, List.append_assoc, List.cons_append]
  bad := account.bad
  good := (account.skip good).good
  sublist := account.sublist.append_right [s]
  length := by rw [List.length_append, account.length, List.length_singleton]
  spaced := by
    rw [← List.cons_append, List.pairwise_append]
    refine ⟨account.spaced, List.pairwise_singleton _ _, fun a member b new => ?_⟩
    rw [List.mem_singleton.mp new]
    exact (add_le_add_left (account.reached a member) rule.window).trans late
  updated := by simp
  reached := by
    intro a member
    rw [← List.cons_append] at member
    rcases List.mem_append.mp member with old | new
    · exact (account.reached a old).trans ((le_add_of_nonneg_right rule.window_nonneg).trans late)
    · rw [List.mem_singleton.mp new]
  elapsed := by
    rw [succ_nsmul, ← add_assoc]
    exact (add_le_add_left account.elapsed rule.window).trans late
  latest := account.latest

/-- The first sample of a run opened it. -/
theorem Run.head (run : Run rule samples w) : ∃ s rest, samples = s :: rest ∧ rule.bad s = true := by
  induction run with
  | opening s bad => exact ⟨s, [], rfl, bad⟩
  | observed s _ _ _ ih =>
    obtain ⟨first, rest, same, bad⟩ := ih
    exact ⟨first, rest ++ [s], by rw [same, List.cons_append], bad⟩

theorem Run.account (run : Run rule samples w) : ∃ before last since counted,
    Account rule samples w before last since counted := by
  induction run with
  | opening s bad =>
    exact ⟨[], s, [], [], rfl, bad, by simp, List.Sublist.refl _, rfl, List.pairwise_singleton _ _, rfl, by simp [opened],
      by simp [opened], by simp⟩
  | observed s run unresolved inOrder ih =>
    obtain ⟨before, last, since, counted, account⟩ := ih
    unfold Watch.observe
    split
    · rename_i bad
      exact ⟨_, _, _, _, account.restart bad (inOrder bad)⟩
    rename_i good
    have good := Bool.eq_false_of_not_eq_true good
    split
    · exact ⟨_, _, _, _, account.skip good⟩
    · rename_i late
      exact ⟨_, _, _, _, account.count good (not_lt.mp late) _⟩

/-- Unresolved below the count, resolved exactly at it and at the sample counted last. -/
theorem Run.count (run : Run rule samples w) :
    (w.resolved = none ∧ w.clears < rule.needed) ∨ (w.resolved = some w.updated ∧ w.clears = rule.needed) := by
  induction run with
  | opening s bad => exact .inl ⟨rfl, rule.needed_pos⟩
  | @observed _ w s run unresolved inOrder ih =>
    have below : w.clears < rule.needed := by
      rcases ih with ⟨-, below⟩ | ⟨resolved, -⟩
      · exact below
      · rw [unresolved] at resolved
        cases resolved
    unfold Watch.observe
    split
    · exact .inl ⟨rfl, rule.needed_pos⟩
    split
    · exact .inl ⟨unresolved, below⟩
    · by_cases enough : rule.needed ≤ w.clears + 1
      · exact .inr ⟨if_pos enough, Nat.le_antisymm below enough⟩
      · exact .inl ⟨if_neg enough, Nat.lt_of_not_le enough⟩

/-- A watch that resolved: as many good samples as needed since the latest bad one, a window apart each. -/
theorem Run.resolution (run : Run rule samples w) (resolved : w.resolved = some t) : ∃ before last since counted,
    Account rule samples ⟨t, rule.needed, some t⟩ before last since counted := by
  obtain ⟨before, last, since, counted, account⟩ := run.account
  rcases run.count with ⟨unresolved, -⟩ | ⟨at_updated, enough⟩
  · rw [unresolved] at resolved
    cases resolved
  · have same : w = ⟨t, rule.needed, some t⟩ := by
      rw [at_updated, Option.some.injEq] at resolved
      rw [← resolved, ← enough, ← at_updated]
    exact ⟨before, last, since, counted, same ▸ account⟩

end Hysteresis
