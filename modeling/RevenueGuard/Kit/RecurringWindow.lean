import Mathlib.Data.Int.Init
import Mathlib.Tactic.Common

/-
Windows that recur with a period, read off a clock that may be set. Between two
changes the clock goes forward by one; it stays inside a window as long as every
change lands inside and it does not come to show the window's end.
-/
namespace RecurringWindow

structure Window where
  period : Int
  start : Int
  stop : Int
  start_mem : 0 ≤ start ∧ start < period
  stop_mem : 0 ≤ stop ∧ stop < period

variable {w : Window} {r t e : Int} {clock : Int → Int}

/-- A window whose start and stop agree is empty; one that stops before it starts wraps around. -/
def Inside (w : Window) (r : Int) : Prop :=
  (w.start < w.stop ∧ w.start ≤ r % w.period ∧ r % w.period < w.stop)
    ∨ (w.stop < w.start ∧ (w.start ≤ r % w.period ∨ r % w.period < w.stop))

/-- The first reading after `r` that is a stop. -/
def nextStop (w : Window) (r : Int) : Int :=
  let stop := r / w.period * w.period + w.stop
  if stop ≤ r then stop + w.period else stop

def Changed (clock : Int → Int) (i : Int) : Prop := clock i ≠ clock (i - 1) + 1

theorem period_pos (w : Window) : 0 < w.period := by
  have mem := w.start_mem
  omega

theorem emod_of_split (w : Window) (q : Int) {m : Int} (low : 0 ≤ m) (high : m < w.period) :
    (q * w.period + m) % w.period = m := by
  rw [Int.add_comm, Int.add_mul_emod_self_right]
  exact Int.emod_eq_of_lt low high

theorem split (w : Window) (r : Int) : r / w.period * w.period + r % w.period = r := by
  rw [Int.mul_comm]
  exact Int.mul_ediv_add_emod r w.period

theorem emod_mem (w : Window) (r : Int) : 0 ≤ r % w.period ∧ r % w.period < w.period :=
  ⟨Int.emod_nonneg r (Int.ne_of_gt (period_pos w)), Int.emod_lt_of_pos r (period_pos w)⟩

theorem succ_emod (w : Window) (r : Int) :
    (r + 1) % w.period = r % w.period + 1 ∨ (r % w.period + 1 = w.period ∧ (r + 1) % w.period = 0) := by
  have parts := split w r
  obtain ⟨low, high⟩ := emod_mem w r
  by_cases last : r % w.period + 1 = w.period
  · refine .inr ⟨last, ?_⟩
    have whole : r + 1 = (r / w.period + 1) * w.period + 0 := by
      rw [Int.add_mul]
      omega
    rw [whole]
    exact emod_of_split w _ (by omega) (period_pos w)
  · refine .inl ?_
    have moved : r + 1 = r / w.period * w.period + (r % w.period + 1) := by omega
    rw [moved]
    exact emod_of_split w _ (by omega) (by omega)

theorem lt_nextStop (w : Window) (r : Int) : r < nextStop w r := by
  have parts := split w r
  obtain ⟨low, high⟩ := emod_mem w r
  have mem := w.stop_mem
  unfold nextStop
  dsimp only
  split <;> omega

theorem nextStop_le (w : Window) (r : Int) : nextStop w r ≤ r + w.period := by
  have parts := split w r
  obtain ⟨low, high⟩ := emod_mem w r
  have mem := w.stop_mem
  unfold nextStop
  dsimp only
  split <;> omega

theorem nextStop_emod (w : Window) (r : Int) : nextStop w r % w.period = w.stop := by
  unfold nextStop
  dsimp only
  split
  · have later : r / w.period * w.period + w.stop + w.period = (r / w.period + 1) * w.period + w.stop := by
      rw [Int.add_mul]
      omega
    rw [later]
    exact emod_of_split w _ w.stop_mem.1 w.stop_mem.2
  · exact emod_of_split w _ w.stop_mem.1 w.stop_mem.2

theorem nextStop_first {s : Int} (after : r < s) (before : s < nextStop w r) : s % w.period ≠ w.stop := by
  intro shown
  have bound := nextStop_le w r
  have apart : (nextStop w r - s) % w.period = 0 :=
    Int.emod_eq_emod_iff_emod_sub_eq_zero.mp ((nextStop_emod w r).trans shown.symm)
  rw [Int.emod_eq_of_lt (by omega) (by omega)] at apart
  omega

theorem stop_outside (shown : r % w.period = w.stop) : ¬ Inside w r := by
  rintro (⟨-, -, before⟩ | ⟨wraps, after | before⟩) <;> omega

/-- One tick inside the window leads out of it only by showing its stop. -/
theorem inside_succ (inside : Inside w r) (unseen : (r + 1) % w.period ≠ w.stop) : Inside w (r + 1) := by
  have starts := w.start_mem
  have stops := w.stop_mem
  rcases inside with ⟨plain, after, before⟩ | ⟨wraps, side⟩
  · refine .inl ⟨plain, ?_⟩
    rcases succ_emod w r with next | ⟨last, zero⟩ <;> omega
  · refine .inr ⟨wraps, ?_⟩
    rcases succ_emod w r with next | ⟨last, zero⟩ <;> omega

/-- The clock stays inside until `e` exactly when no change and no stop takes it out before. -/
theorem stays_inside_iff (inside : Inside w (clock t)) :
    (∀ i, t ≤ i → i < e → Inside w (clock i)) ↔
      ∀ i, t < i → i < e → (Changed clock i → Inside w (clock i)) ∧ clock i % w.period ≠ w.stop := by
  constructor
  · intro stays i after before
    have here := stays i (by omega) before
    exact ⟨fun _ => here, fun shown => stop_outside shown here⟩
  · intro steady i after
    induction i, after using Int.leInduction with
    | base => exact fun _ => inside
    | succ i after ih =>
      intro before
      obtain ⟨changes, unseen⟩ := steady (i + 1) (by omega) before
      by_cases changed : Changed clock (i + 1)
      · exact changes changed
      · have ticks : clock (i + 1) = clock i + 1 := by
          simpa [Changed] using changed
        rw [ticks] at unseen ⊢
        exact inside_succ (ih (by omega)) unseen

end RecurringWindow
