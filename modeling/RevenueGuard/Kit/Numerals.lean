import Mathlib.Tactic.Common

/-
Decimal numerals as text: what they say, and where they end when more text follows.
-/
namespace Numerals

def natural (n : Nat) : List Char := Nat.toDigits 10 n

def integer : Int → List Char
  | .ofNat n => natural n
  | .negSucc n => '-' :: natural (n + 1)

/-- A natural number with zeros in front of it, at least `width` digits long. -/
def padded (width n : Nat) : List Char :=
  List.replicate (width - (natural n).length) '0' ++ natural n

/-- The text after a numeral does not go on with a digit. -/
def Stops (rest : List Char) : Prop := ∀ c, rest.head? = some c → c.isDigit = false

def Digits (text : List Char) : Prop := ∀ c ∈ text, c.isDigit = true

variable {r u : List Char}

theorem stops_nil : Stops [] := by
  intro c h
  cases h

theorem stops_cons {c : Char} (h : c.isDigit = false) : Stops (c :: r) := by
  intro d hd
  cases hd
  exact h

/-- Digits end where the text after them starts. -/
theorem digits_append {xs ys : List Char} (hx : Digits xs) (hy : Digits ys) (hr : Stops r) (hu : Stops u)
    (same : xs ++ r = ys ++ u) : xs = ys ∧ r = u := by
  induction xs generalizing ys with
  | nil =>
    cases ys with
    | nil => exact ⟨rfl, same⟩
    | cons d ys =>
      have digit := hy d (.head _)
      have stop := hr d (by rw [show r = d :: (ys ++ u) from same]; rfl)
      simp [digit] at stop
  | cons c xs ih =>
    cases ys with
    | nil =>
      have digit := hx c (.head _)
      have stop := hu c (by rw [← show c :: (xs ++ r) = u from same]; rfl)
      simp [digit] at stop
    | cons d ys =>
      obtain ⟨rfl, tails⟩ := List.cons.inj same
      obtain ⟨rfl, rest⟩ := ih (fun c hc => hx c (.tail _ hc)) (fun c hc => hy c (.tail _ hc)) tails
      exact ⟨rfl, rest⟩

theorem natural_digits (n : Nat) : Digits (natural n) :=
  fun _ hc => Nat.isDigit_of_mem_toDigits (by decide) (by decide) hc

theorem natural_value (n : Nat) : Nat.ofDigitChars 10 (natural n) 0 = n := Nat.ofDigitChars_ten_toDigits

theorem natural_ne_nil (n : Nat) : natural n ≠ [] := Nat.toDigits_ne_nil

theorem natural_append {m n : Nat} (hr : Stops r) (hu : Stops u) (same : natural m ++ r = natural n ++ u) :
    m = n ∧ r = u := by
  obtain ⟨text, rest⟩ := digits_append (natural_digits m) (natural_digits n) hr hu same
  refine ⟨?_, rest⟩
  rw [← natural_value m, text, natural_value]

theorem padded_digits (width n : Nat) : Digits (padded width n) := by
  intro c hc
  rcases List.mem_append.mp hc with zero | digit
  · rw [List.eq_of_mem_replicate zero]
    rfl
  · exact natural_digits n c digit

theorem padded_value (width n : Nat) : Nat.ofDigitChars 10 (padded width n) 0 = n := by
  rw [padded, Nat.ofDigitChars_append, Nat.ofDigitChars_replicate_zero, Nat.mul_zero, natural_value]

theorem padded_append {width m n : Nat} (hr : Stops r) (hu : Stops u)
    (same : padded width m ++ r = padded width n ++ u) : m = n ∧ r = u := by
  obtain ⟨text, rest⟩ := digits_append (padded_digits width m) (padded_digits width n) hr hu same
  refine ⟨?_, rest⟩
  rw [← padded_value width m, text, padded_value]

theorem natural_head (n : Nat) : ∃ c rest, natural n = c :: rest ∧ c.isDigit = true := by
  cases text : natural n with
  | nil => exact absurd text (natural_ne_nil n)
  | cons c rest => exact ⟨c, rest, rfl, natural_digits n c (by rw [text]; exact .head _)⟩

/-- An integer starts with a digit or with its sign. -/
theorem integer_head (i : Int) : ∃ c rest, integer i = c :: rest ∧ (c.isDigit = true ∨ c = '-') := by
  cases i with
  | ofNat n =>
    obtain ⟨c, rest, text, digit⟩ := natural_head n
    exact ⟨c, rest, text, .inl digit⟩
  | negSucc n => exact ⟨'-', natural (n + 1), rfl, .inr rfl⟩

theorem natural_ne_sign {n : Nat} {rest : List Char} : natural n ++ r ≠ '-' :: rest := by
  obtain ⟨c, more, text, digit⟩ := natural_head n
  intro same
  rw [text] at same
  obtain ⟨rfl, -⟩ := List.cons.inj same
  revert digit
  decide

theorem integer_append {i j : Int} (hr : Stops r) (hu : Stops u) (same : integer i ++ r = integer j ++ u) :
    i = j ∧ r = u := by
  cases i with
  | ofNat m =>
    cases j with
    | ofNat n =>
      obtain ⟨rfl, rest⟩ := natural_append hr hu same
      exact ⟨rfl, rest⟩
    | negSucc n => exact absurd same natural_ne_sign
  | negSucc m =>
    cases j with
    | ofNat n => exact absurd same.symm natural_ne_sign
    | negSucc n =>
      obtain ⟨numbers, rest⟩ := natural_append hr hu (List.cons.inj same).2
      exact ⟨by rw [Nat.succ.inj numbers], rest⟩

end Numerals
