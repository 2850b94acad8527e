import RevenueGuard.Safety.Proceeds
import RevenueGuard.Kit.RecurringWindow

/-
Quiet hours on a local clock. The computed end is the end of the current quiet
interval as long as the clock is steady until then; a clock that is set back or
over the window's end breaks it.
-/
namespace RevenueGuard
open RecurringWindow

variable {zone : Zone} {policy : MerchantPolicySnapshot} {t : Instant}

def MerchantPolicySnapshot.quietWindow (policy : MerchantPolicySnapshot) : Window :=
  { period := dayMicros
    start := policy.quietHoursStart.val
    stop := policy.quietHoursEnd.val
    start_mem := by
      have bound := policy.quietHoursStart.property
      simp only [dayMicros]
      omega
    stop_mem := by
      have bound := policy.quietHoursEnd.property
      simp only [dayMicros]
      omega }

/-- The window's end that comes next on the wall. -/
def endReading (zone : Zone) (policy : MerchantPolicySnapshot) (t : Instant) : Int :=
  nextStop policy.quietWindow (zone.reading t)

/-- The fold of that end: the policy's own on the day `t` is on, none on the next. -/
def endFold (zone : Zone) (policy : MerchantPolicySnapshot) (t : Instant) : Bool :=
  decide (zone.reading t % dayMicros < policy.quietHoursEnd.val) && policy.quietHoursEndFold

theorem inQuietHours_iff : inQuietHours zone policy t = true ↔ Inside policy.quietWindow (zone.reading t) := by
  unfold inQuietHours Inside LocalClock.reading
  dsimp only [MerchantPolicySnapshot.quietWindow]
  split
  · rename_i empty
    simp [empty]
  · rename_i proper
    split
    · rename_i plain
      simp [plain, not_lt.mpr plain.le]
    · rename_i wraps
      have wraps : (policy.quietHoursEnd.val : Int) < policy.quietHoursStart.val := by omega
      simp [wraps, not_lt.mpr wraps.le]

theorem quietHoursEnd_eq (zone : Zone) (policy : MerchantPolicySnapshot) (t : Instant) :
    quietHoursEnd zone policy t = zone.instantOf (endFold zone policy t) (endReading zone policy t) := by
  have parts := RecurringWindow.split policy.quietWindow (zone.reading t)
  unfold quietHoursEnd endFold endReading nextStop LocalClock.instantOf
  dsimp only [MerchantPolicySnapshot.quietWindow] at parts ⊢
  unfold LocalClock.reading dayMicros Instant at *
  split
  · rename_i over_
    have later : ¬ (t + zone.utcoffset t) % 86400000000 < policy.quietHoursEnd.val := by omega
    simp [later]
  · rename_i ahead
    have sooner : (t + zone.utcoffset t) % 86400000000 < policy.quietHoursEnd.val := by omega
    simp [sooner]

/-- The wake-up is exactly the end of the quiet interval `t` lies in. -/
structure WakesAtEnd (zone : Zone) (policy : MerchantPolicySnapshot) (t : Instant) : Prop where
  later : t < quietHoursEnd zone policy t
  awake : inQuietHours zone policy (quietHoursEnd zone policy t) = false
  quiet : ∀ i, t ≤ i → i < quietHoursEnd zone policy t → inQuietHours zone policy i = true

/-- At `i` the end of the window that `t` lies in is still to come. -/
def EndToCome (zone : Zone) (policy : MerchantPolicySnapshot) (t i : Instant) : Prop :=
  zone.ToCome (endFold zone policy t) (endReading zone policy t) i

/-- The clock has been set back: it has shown the window's end by now, or will not show it again for its second fold. -/
def TurnedBack (zone : Zone) (policy : MerchantPolicySnapshot) (t : Instant) : Prop := ¬ EndToCome zone policy t t

/-- The local clock from `t` to the window's end. -/
structure SteadyClock (zone : Zone) (policy : MerchantPolicySnapshot) (t : Instant) : Prop where
  ahead : ¬ TurnedBack zone policy t
  changes : ∀ i, t < i → EndToCome zone policy t i → zone.utcoffset i ≠ zone.utcoffset (i - 1) →
    Inside policy.quietWindow (zone.reading i)
  /- only a change by whole days, or an end that is shown twice, could show its time of day before -/
  unseen : ∀ i, t < i → EndToCome zone policy t i → zone.reading i % dayMicros ≠ policy.quietHoursEnd.val
  skipped : (∀ i, zone.reading i ≠ endReading zone policy t) → ∀ change, zone.Skips (endReading zone policy t) change →
    ¬ Inside policy.quietWindow (zone.reading (endReading zone policy t - zone.gapOffset (endFold zone policy t) change))

theorem changed_iff (zone : Zone) (i : Instant) :
    Changed zone.reading i ↔ zone.utcoffset i ≠ zone.utcoffset (i - 1) := by
  unfold Changed LocalClock.reading
  constructor
  · intro changed same
    rw [same] at changed
    omega
  · intro changed same
    apply changed
    omega

theorem endToCome_iff {i : Instant} : EndToCome zone policy t i ↔ i < quietHoursEnd zone policy t := by
  rw [quietHoursEnd_eq]
  exact LocalClock.toCome_iff

theorem turnedBack_iff : TurnedBack zone policy t ↔ quietHoursEnd zone policy t ≤ t := by
  rw [TurnedBack, endToCome_iff, not_lt]

/-- A window's end that the clock shows is over when it is shown. -/
theorem shown_end_over {i : Instant} (shows : zone.reading i = endReading zone policy t) :
    ¬ Inside policy.quietWindow (zone.reading (quietHoursEnd zone policy t)) := by
  rw [quietHoursEnd_eq, LocalClock.reading_instantOf shows]
  exact stop_outside (nextStop_emod _ _)

theorem steady_quiet (quiet : inQuietHours zone policy t = true) :
    (∀ i, t ≤ i → i < quietHoursEnd zone policy t → inQuietHours zone policy i = true) ↔
      ∀ i, t < i → EndToCome zone policy t i →
        (zone.utcoffset i ≠ zone.utcoffset (i - 1) → Inside policy.quietWindow (zone.reading i))
          ∧ zone.reading i % dayMicros ≠ policy.quietHoursEnd.val := by
  have stays := stays_inside_iff (e := quietHoursEnd zone policy t) (inQuietHours_iff.mp quiet)
  simp only [inQuietHours_iff, endToCome_iff, ← changed_iff]
  exact stays

/-- A zone that keeps its offset is steady through every window. -/
theorem fixed_steady (offset : Int) (policy : MerchantPolicySnapshot) (t : Instant) :
    SteadyClock (LocalClock.fixed offset) policy t := by
  have ahead : (LocalClock.fixed offset).reading t < endReading (LocalClock.fixed offset) policy t := lt_nextStop _ _
  constructor
  · exact not_not.mpr (LocalClock.toCome_fixed.mpr ahead)
  · exact fun i _ _ changed => absurd rfl changed
  · intro i after before
    refine nextStop_first (w := policy.quietWindow) (r := (LocalClock.fixed offset).reading t) ?_ ?_
    · simp only [LocalClock.reading_fixed]
      exact Int.add_lt_add_right after offset
    · exact LocalClock.toCome_fixed.mp before
  · intro _ change skips
    exact absurd skips.1 (not_le.mpr skips.2)

/-- Local time two hours ahead of UTC, set back to one hour ahead when it shows 02:00. -/
def setBack : Zone where
  utcoffset := fun i => if i < 86400000000 then 7200000000 else 3600000000
  wallOffset := fun fold wall => if wall < (if fold then 90000000000 else 93600000000) then 7200000000 else 3600000000
  bounded := by
    refine ⟨7200000001, fun i => ?_⟩
    split <;> omega
  shown := by
    intro fold i
    dsimp only
    cases fold <;> simp only [Bool.false_eq_true, if_true, if_false] <;> constructor <;> repeat' split
    all_goals omega
  skipped := by
    intro fold wall change _ from_ until_
    exfalso
    revert from_ until_
    repeat' split
    all_goals omega

/-- Quiet from 22:00 to 01:30. -/
def untilHalfPastOne : MerchantPolicySnapshot := { anyAction with quietHoursEnd := ⟨5400000000, by decide⟩ }

/-- The second time the clock shows 01:10 that night. -/
def secondTenPastOne : Instant := 87000000000

end RevenueGuard
