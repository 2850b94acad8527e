import RevenueGuard.Kit.Numerals
import Mathlib.Algebra.GroupWithZero.Nat

/-
Instants of the proleptic Gregorian calendar in UTC, years 1 to 9999, counted in
microseconds, and their ISO 8601 text. No two instants share a text.
-/
namespace Calendar
open Numerals

def dayMicros : Nat := 86400000000

/-- One past the last microsecond of year 9999. -/
def momentBound : Nat := 3652059 * dayMicros

/-- Microseconds since the start of year 1. -/
structure Moment where
  micros : Nat
  inRange : micros < momentBound
deriving DecidableEq, Repr

/-- Days from the first of January of year 1 to the epoch. -/
def epochDays : Int := 719162

def moment? (micros : Int) : Option Moment :=
  if h : 0 ≤ micros ∧ micros.toNat < momentBound then some ⟨micros.toNat, h.2⟩ else none

def leap (year : Nat) : Bool := (year % 4 = 0 ∧ year % 100 ≠ 0) ∨ year % 400 = 0

def monthLengths (year : Nat) : List Nat :=
  [31, if leap year then 29 else 28, 31, 30, 31, 30, 31, 31, 30, 31, 30, 31]

def yearLength (year : Nat) : Nat := if leap year then 366 else 365

/-- The year a day of it or of a later year falls in, and its number there from 0. -/
def yearOf : Nat → Nat → Nat → Nat × Nat
  | 0, year, day => (year, day)
  | fuel + 1, year, day =>
    if day < yearLength year then (year, day) else yearOf fuel (year + 1) (day - yearLength year)

/-- How many of the months end before a day, and its number in the next one from 0. -/
def monthOf : List Nat → Nat → Nat × Nat
  | [], day => (0, day)
  | length :: rest, day =>
    if day < length then (0, day) else ((monthOf rest (day - length)).1 + 1, (monthOf rest (day - length)).2)

def dateOf (day : Nat) : Nat × Nat × Nat :=
  let (year, dayOfYear) := yearOf 9999 1 day
  let (month, dayOfMonth) := monthOf (monthLengths year) dayOfYear
  (year, month + 1, dayOfMonth + 1)

def dateText (day : Nat) : List Char :=
  let (year, month, dayOfMonth) := dateOf day
  padded 4 year ++ '-' :: (padded 2 month ++ '-' :: padded 2 dayOfMonth)

/-- The fraction of a second is left out when it is zero. -/
def fractionText (micros : Nat) : List Char := if micros = 0 then [] else '.' :: padded 6 micros

def timeText (micros : Nat) : List Char :=
  padded 2 (micros / 3600000000) ++ ':' :: (padded 2 (micros / 60000000 % 60) ++
    ':' :: (padded 2 (micros / 1000000 % 60) ++ fractionText (micros % 1000000)))

def isoText (t : Moment) : List Char :=
  dateText (t.micros / dayMicros) ++ 'T' :: (timeText (t.micros % dayMicros) ++ ['Z'])

def isoformat (t : Moment) : String := String.ofList (isoText t)

def daysBefore : Nat → Nat
  | 0 => 0
  | year + 1 => daysBefore year + yearLength year

theorem yearOf_days (fuel year day : Nat) :
    daysBefore (yearOf fuel year day).1 + (yearOf fuel year day).2 = daysBefore year + day := by
  induction fuel generalizing year day with
  | zero => rfl
  | succ fuel ih =>
    unfold yearOf
    split
    · rfl
    · rw [ih, daysBefore]
      omega

theorem monthOf_days (lengths : List Nat) (day : Nat) :
    (lengths.take (monthOf lengths day).1).sum + (monthOf lengths day).2 = day := by
  induction lengths generalizing day with
  | nil => simp [monthOf]
  | cons length rest ih =>
    unfold monthOf
    split
    · simp
    · have deeper := ih (day - length)
      simp only [List.take_succ_cons, List.sum_cons]
      omega

theorem dateOf_inj {m n : Nat} (same : dateOf m = dateOf n) : m = n := by
  simp only [dateOf, Prod.mk.injEq, Nat.add_right_cancel_iff] at same
  obtain ⟨years, months, days⟩ := same
  have ofYear := yearOf_days 9999 1 m
  have ofYear' := yearOf_days 9999 1 n
  have ofMonth := monthOf_days (monthLengths (yearOf 9999 1 m).1) (yearOf 9999 1 m).2
  have ofMonth' := monthOf_days (monthLengths (yearOf 9999 1 n).1) (yearOf 9999 1 n).2
  rw [months, days, years, ofMonth'] at ofMonth
  rw [years, ← ofMonth, ofYear'] at ofYear
  omega

variable {r u : List Char}

theorem dateText_append {m n : Nat} (hr : Stops r) (hu : Stops u) (same : dateText m ++ r = dateText n ++ u) :
    m = n ∧ r = u := by
  simp only [dateText, List.append_assoc, List.cons_append] at same
  obtain ⟨years, same⟩ := padded_append (stops_cons rfl) (stops_cons rfl) same
  obtain ⟨months, same⟩ := padded_append (stops_cons rfl) (stops_cons rfl) (List.cons.inj same).2
  obtain ⟨days, rest⟩ := padded_append hr hu (List.cons.inj same).2
  exact ⟨dateOf_inj (Prod.ext years (Prod.ext months days)), rest⟩

theorem stops_fraction (micros : Nat) : Stops (fractionText micros ++ 'Z' :: r) := by
  unfold fractionText
  split <;> exact stops_cons rfl

theorem fractionText_append {m n : Nat} (same : fractionText m ++ 'Z' :: r = fractionText n ++ 'Z' :: u) :
    m = n := by
  unfold fractionText at same
  split at same <;> split at same
  · omega
  · exact absurd (List.cons.inj same).1 (by decide)
  · exact absurd (List.cons.inj same).1 (by decide)
  · exact (padded_append (stops_cons rfl) (stops_cons rfl) (List.cons.inj same).2).1

theorem timeText_append {m n : Nat} (same : timeText m ++ 'Z' :: r = timeText n ++ 'Z' :: u) : m = n := by
  simp only [timeText, List.append_assoc, List.cons_append] at same
  obtain ⟨hours, same⟩ := padded_append (stops_cons rfl) (stops_cons rfl) same
  obtain ⟨minutes, same⟩ := padded_append (stops_cons rfl) (stops_cons rfl) (List.cons.inj same).2
  obtain ⟨seconds, same⟩ := padded_append (stops_fraction _) (stops_fraction _) (List.cons.inj same).2
  have fractions := fractionText_append same
  omega

theorem isoText_inj {s t : Moment} (same : isoText s = isoText t) : s = t := by
  obtain ⟨days, rest⟩ := dateText_append (stops_cons rfl) (stops_cons rfl) same
  have times := timeText_append (List.cons.inj rest).2
  have micros : s.micros = t.micros := by
    rw [← Nat.div_add_mod s.micros dayMicros, days, times, Nat.div_add_mod]
  cases s
  cases t
  cases micros
  rfl

theorem isoformat_inj {s t : Moment} : isoformat s = isoformat t ↔ s = t := by
  constructor
  · intro same
    exact isoText_inj (String.ofList_injective same)
  · intro same
    rw [same]

theorem moment?_some {i : Int} {t : Moment} (h : moment? i = some t) : (t.micros : Int) = i := by
  unfold moment? at h
  split at h
  · rename_i within
    cases h
    exact Int.toNat_of_nonneg within.1
  · cases h

theorem moment?_micros (t : Moment) : moment? t.micros = some t := by
  unfold moment?
  split
  · rfl
  · rename_i outside
    have fits := t.inRange
    omega

end Calendar
