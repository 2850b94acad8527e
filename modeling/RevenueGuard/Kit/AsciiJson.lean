import RevenueGuard.Kit.Json

/-
The compact encoding with every character beyond printable ASCII escaped as well,
a character outside the basic plane by its two surrogates. Nothing is lost by it.
-/
namespace Json
open Numerals

def fourHex (n : Nat) : List Char :=
  [hexDigit (n / 4096 % 16), hexDigit (n / 256 % 16), hexDigit (n / 16 % 16), hexDigit (n % 16)]

def unitEscape (n : Nat) : List Char := backslash :: 'u' :: fourHex n

def highSurrogate (n : Nat) : Nat := 0xD800 + (n - 0x10000) / 0x400

def lowSurrogate (n : Nat) : Nat := 0xDC00 + (n - 0x10000) % 0x400

def Printable (c : Char) : Prop := 32 ≤ c.toNat ∧ c.toNat ≤ 126

instance (c : Char) : Decidable (Printable c) := inferInstanceAs (Decidable (_ ∧ _))

def asciiChar (c : Char) : List Char :=
  if Printable c then [c]
  else if c.toNat < 0x10000 then unitEscape c.toNat
  else unitEscape (highSurrogate c.toNat) ++ unitEscape (lowSurrogate c.toNat)

/-- Outside strings the encoding is printable already, so only their characters change. -/
def asciiText (text : List Char) : List Char := text.flatMap asciiChar

def asciiDumps (a : Json) : List Char := asciiText (dumps a)

section escaped

variable {s t r u : List Char} {c d : Char} {m n : Nat}

/-- What `escape` leaves: a control character's escape, a short escape, or a plain character. -/
inductive Token : List Char → Prop
  | plain (c : Char) (control : 32 ≤ c.toNat) (mark : c ≠ backslash) : Token [c]
  | short (letter : Char) (printable : Printable letter) (hex : letter ≠ 'u') : Token [backslash, letter]
  | unit (n : Nat) (control : n < 32) : Token (unitEscape n)

/-- Texts made of tokens. -/
def Escaped (text : List Char) : Prop := ∃ tokens : List (List Char), (∀ x ∈ tokens, Token x) ∧ tokens.flatten = text

theorem hexDigit_inj (hm : m < 16) (hn : n < 16) (same : hexDigit m = hexDigit n) : m = n := by
  rw [← hexValue_hexDigit m hm, ← hexValue_hexDigit n hn, same]

theorem fourHex_inj (hm : m < 0x10000) (hn : n < 0x10000) (same : fourHex m = fourHex n) : m = n := by
  simp only [fourHex, List.cons.injEq, and_true] at same
  obtain ⟨first, second, third, fourth⟩ := same
  have := hexDigit_inj (Nat.mod_lt _ (by decide)) (Nat.mod_lt _ (by decide)) first
  have := hexDigit_inj (Nat.mod_lt _ (by decide)) (Nat.mod_lt _ (by decide)) second
  have := hexDigit_inj (Nat.mod_lt _ (by decide)) (Nat.mod_lt _ (by decide)) third
  have := hexDigit_inj (Nat.mod_lt _ (by decide)) (Nat.mod_lt _ (by decide)) fourth
  omega

theorem unitEscape_append (hm : m < 0x10000) (hn : n < 0x10000) (same : unitEscape m ++ r = unitEscape n ++ u) :
    m = n ∧ r = u := by
  obtain ⟨units, rest⟩ := List.append_inj same rfl
  simp only [unitEscape, List.cons.injEq, true_and] at units
  exact ⟨fourHex_inj hm hn units, rest⟩

theorem char_bounds (c : Char) : c.toNat < 0xD800 ∨ (0xDFFF < c.toNat ∧ c.toNat < 0x110000) := c.valid

theorem highSurrogate_bounds (low : 0x10000 ≤ n) (high : n < 0x110000) :
    0xD800 ≤ highSurrogate n ∧ highSurrogate n ≤ 0xDBFF := by
  unfold highSurrogate
  omega

theorem lowSurrogate_lt (n : Nat) : lowSurrogate n < 0x10000 := by
  unfold lowSurrogate
  omega

theorem surrogates_inj (hm : 0x10000 ≤ m) (hn : 0x10000 ≤ n) (highs : highSurrogate m = highSurrogate n)
    (lows : lowSurrogate m = lowSurrogate n) : m = n := by
  unfold highSurrogate at highs
  unfold lowSurrogate at lows
  omega

theorem asciiChar_wide (wide : 0x10000 ≤ c.toNat) :
    asciiChar c = unitEscape (highSurrogate c.toNat) ++ unitEscape (lowSurrogate c.toNat) := by
  have unprintable : ¬ Printable c := fun printable => absurd printable.2 (by omega)
  rw [asciiChar, if_neg unprintable, if_neg (by omega)]

/-- What is escaped starts with a unit beyond ASCII. -/
theorem asciiChar_escaped (control : 32 ≤ c.toNat) (unprintable : ¬ Printable c) :
    ∃ unit tail, asciiChar c = unitEscape unit ++ tail ∧ 127 ≤ unit ∧ unit < 0x10000 := by
  have beyond : 127 ≤ c.toNat := by
    unfold Printable at unprintable
    omega
  by_cases wide : 0x10000 ≤ c.toNat
  · have bounds := highSurrogate_bounds wide ((char_bounds c).resolve_left (by omega)).2
    exact ⟨_, _, asciiChar_wide wide, by omega, by omega⟩
  · refine ⟨c.toNat, [], ?_, beyond, by omega⟩
    rw [asciiChar, if_neg unprintable, if_pos (by omega), List.append_nil]

theorem asciiChar_append (hc : 32 ≤ c.toNat) (hd : 32 ≤ d.toNat) (plain : c ≠ backslash) (plain' : d ≠ backslash)
    (same : asciiChar c ++ r = asciiChar d ++ u) : c = d ∧ r = u := by
  by_cases printable : Printable c
  · rw [asciiChar, if_pos printable] at same
    by_cases printable' : Printable d
    · rw [asciiChar, if_pos printable'] at same
      exact List.cons.inj same
    · obtain ⟨unit, tail, text, -⟩ := asciiChar_escaped hd printable'
      rw [text] at same
      exact absurd (List.cons.inj same).1 plain
  · by_cases printable' : Printable d
    · obtain ⟨unit, tail, text, -⟩ := asciiChar_escaped hc printable
      rw [text, asciiChar, if_pos printable'] at same
      exact absurd (List.cons.inj same).1.symm plain'
    · have bounds := char_bounds c
      have bounds' := char_bounds d
      by_cases wide : 0x10000 ≤ c.toNat
      · by_cases wide' : 0x10000 ≤ d.toNat
        · have high := highSurrogate_bounds wide (by omega)
          have high' := highSurrogate_bounds wide' (by omega)
          rw [asciiChar_wide wide, asciiChar_wide wide', List.append_assoc, List.append_assoc] at same
          obtain ⟨highs, rest⟩ := unitEscape_append (by omega) (by omega) same
          obtain ⟨lows, rest⟩ := unitEscape_append (lowSurrogate_lt _) (lowSurrogate_lt _) rest
          exact ⟨Char.toNat_inj.mp (surrogates_inj wide wide' highs lows), rest⟩
        · have high := highSurrogate_bounds wide (by omega)
          rw [asciiChar_wide wide, asciiChar, if_neg printable', if_pos (by omega), List.append_assoc] at same
          obtain ⟨units, -⟩ := unitEscape_append (by omega) (by omega) same
          omega
      · by_cases wide' : 0x10000 ≤ d.toNat
        · have high := highSurrogate_bounds wide' (by omega)
          rw [asciiChar_wide wide', asciiChar, if_neg printable, if_pos (by omega), List.append_assoc] at same
          obtain ⟨units, -⟩ := unitEscape_append (by omega) (by omega) same
          omega
        · rw [asciiChar, asciiChar, if_neg printable, if_neg printable', if_pos (by omega), if_pos (by omega)] at same
          obtain ⟨units, rest⟩ := unitEscape_append (by omega) (by omega) same
          exact ⟨Char.toNat_inj.mp units, rest⟩

theorem hexDigit_printable : ∀ n < 16, Printable (hexDigit n) := by decide

theorem asciiText_printable (printable : ∀ c ∈ s, Printable c) : asciiText s = s := by
  induction s with
  | nil => rfl
  | cons c s ih =>
    have first : asciiChar c = [c] := if_pos (printable c (.head _))
    rw [asciiText, List.flatMap_cons, first, ← asciiText, ih fun d hd => printable d (.tail _ hd)]
    rfl

theorem unitEscape_ascii (n : Nat) : asciiText (unitEscape n) = unitEscape n := by
  apply asciiText_printable
  simp only [unitEscape, fourHex, List.forall_mem_cons]
  refine ⟨by decide, by decide, ?_, ?_, ?_, ?_, by simp⟩
  all_goals exact hexDigit_printable _ (Nat.mod_lt _ (by decide))

theorem short_ascii {letter : Char} (printable : Printable letter) : asciiText [backslash, letter] = [backslash, letter] := by
  apply asciiText_printable
  simp only [List.forall_mem_cons]
  exact ⟨by decide, printable, by simp⟩

theorem asciiText_singleton (c : Char) : asciiText [c] = asciiChar c := List.append_nil _

/-- A character beyond ASCII is no control character, and no escape of two letters. -/
theorem plain_ne_escape (hc : 32 ≤ c.toNat) (plain : c ≠ backslash) {letter : Char} {rest : List Char}
    (same : asciiChar c ++ r = backslash :: letter :: rest) : letter = 'u' ∧
      ∃ unit tail, fourHex unit ++ tail = rest ∧ 127 ≤ unit ∧ unit < 0x10000 := by
  by_cases printable : Printable c
  · rw [asciiChar, if_pos printable] at same
    exact absurd (List.cons.inj same).1 plain
  · obtain ⟨unit, tail, text, low, high⟩ := asciiChar_escaped hc printable
    rw [text] at same
    simp only [unitEscape, List.cons_append, List.append_assoc, List.cons.injEq, true_and] at same
    exact ⟨same.1.symm, unit, tail ++ r, same.2, low, high⟩

theorem plain_ne_unit (hc : 32 ≤ c.toNat) (plain : c ≠ backslash) (control : n < 32) :
    asciiChar c ++ r ≠ unitEscape n ++ u := by
  intro same
  obtain ⟨-, unit, tail, text, low, high⟩ := plain_ne_escape hc plain same
  have units := fourHex_inj high (by omega) (List.append_inj text rfl).1
  omega

theorem plain_ne_short (hc : 32 ≤ c.toNat) (plain : c ≠ backslash) {letter : Char} (hex : letter ≠ 'u') :
    asciiChar c ++ r ≠ [backslash, letter] ++ u := by
  intro same
  exact hex (plain_ne_escape hc plain same).1

theorem token_append {x y : List Char} (hx : Token x) (hy : Token y) (same : asciiText x ++ r = asciiText y ++ u) :
    x = y ∧ r = u := by
  cases hx with
  | plain c control mark =>
    rw [asciiText_singleton] at same
    cases hy with
    | plain d control' mark' =>
      rw [asciiText_singleton] at same
      obtain ⟨rfl, rest⟩ := asciiChar_append control control' mark mark' same
      exact ⟨rfl, rest⟩
    | short letter printable hex =>
      rw [short_ascii printable] at same
      exact absurd same (plain_ne_short control mark hex)
    | unit n small =>
      rw [unitEscape_ascii] at same
      exact absurd same (plain_ne_unit control mark small)
  | short letter printable hex =>
    rw [short_ascii printable] at same
    cases hy with
    | plain d control' mark' =>
      rw [asciiText_singleton] at same
      exact absurd same.symm (plain_ne_short control' mark' hex)
    | short letter' printable' hex' =>
      rw [short_ascii printable'] at same
      simp only [List.cons_append, List.nil_append, List.cons.injEq, true_and] at same
      obtain ⟨rfl, rest⟩ := same
      exact ⟨rfl, rest⟩
    | unit n small =>
      rw [unitEscape_ascii] at same
      exact absurd (List.cons.inj (List.cons.inj same).2).1 hex
  | unit m small =>
    rw [unitEscape_ascii] at same
    cases hy with
    | plain d control' mark' =>
      rw [asciiText_singleton] at same
      exact absurd same.symm (plain_ne_unit control' mark' small)
    | short letter printable hex =>
      rw [short_ascii printable] at same
      exact absurd (List.cons.inj (List.cons.inj same).2).1.symm hex
    | unit n small' =>
      rw [unitEscape_ascii] at same
      obtain ⟨rfl, rest⟩ := unitEscape_append (by omega) (by omega) same
      exact ⟨rfl, rest⟩

theorem token_ascii_ne_nil {x : List Char} (hx : Token x) : asciiText x ≠ [] := by
  cases hx with
  | plain c control mark =>
    rw [asciiText_singleton]
    by_cases printable : Printable c
    · rw [asciiChar, if_pos printable]
      exact List.cons_ne_nil _ _
    · obtain ⟨unit, tail, text, -⟩ := asciiChar_escaped control printable
      rw [text]
      exact List.cons_ne_nil _ _
  | short letter printable hex =>
    rw [short_ascii printable]
    exact List.cons_ne_nil _ _
  | unit n control =>
    rw [unitEscape_ascii]
    exact List.cons_ne_nil _ _

theorem asciiText_append (s t : List Char) : asciiText (s ++ t) = asciiText s ++ asciiText t := List.flatMap_append

theorem tokens_inj {xs ys : List (List Char)} (hx : ∀ x ∈ xs, Token x) (hy : ∀ y ∈ ys, Token y)
    (same : asciiText xs.flatten = asciiText ys.flatten) : xs = ys := by
  induction xs generalizing ys with
  | nil =>
    cases ys with
    | nil => rfl
    | cons y ys =>
      rw [List.flatten_cons, asciiText_append] at same
      exact absurd (List.append_eq_nil_iff.mp same.symm).1 (token_ascii_ne_nil (hy y (.head _)))
  | cons x xs ih =>
    cases ys with
    | nil =>
      rw [List.flatten_cons, asciiText_append] at same
      exact absurd (List.append_eq_nil_iff.mp same).1 (token_ascii_ne_nil (hx x (.head _)))
    | cons y ys =>
      rw [List.flatten_cons, List.flatten_cons, asciiText_append, asciiText_append] at same
      obtain ⟨rfl, rest⟩ := token_append (hx x (.head _)) (hy y (.head _)) same
      rw [ih (fun a ha => hx a (.tail _ ha)) (fun a ha => hy a (.tail _ ha)) rest]

/-- Escaping a text made of tokens loses nothing. -/
theorem asciiText_inj (hs : Escaped s) (ht : Escaped t) (same : asciiText s = asciiText t) : s = t := by
  obtain ⟨xs, hx, rfl⟩ := hs
  obtain ⟨ys, hy, rfl⟩ := ht
  rw [tokens_inj hx hy same]

theorem Escaped.append (hs : Escaped s) (ht : Escaped t) : Escaped (s ++ t) := by
  obtain ⟨xs, hx, rfl⟩ := hs
  obtain ⟨ys, hy, rfl⟩ := ht
  refine ⟨xs ++ ys, ?_, List.flatten_append⟩
  intro x hx'
  rcases List.mem_append.mp hx' with here | there
  · exact hx x here
  · exact hy x there

theorem Token.escaped {x : List Char} (hx : Token x) : Escaped x := ⟨[x], by simpa using hx, by simp⟩

theorem escaped_nil : Escaped [] := ⟨[], by simp, rfl⟩

theorem escaped_plain (plain : s.all (fun c => decide (32 ≤ c.toNat ∧ c ≠ backslash)) = true) : Escaped s := by
  induction s with
  | nil => exact escaped_nil
  | cons c s ih =>
    simp only [List.all_cons, Bool.and_eq_true, decide_eq_true_eq] at plain
    exact (Token.plain c plain.1.1 plain.1.2).escaped.append (ih plain.2)

theorem shortEscapes_letters : ∀ e ∈ shortEscapes, Printable e.2 ∧ e.2 ≠ 'u' := by decide

theorem escape_token (c : Char) : Token (escape c) := by
  unfold escape
  split
  · rename_i letter found
    obtain ⟨before, after, split, -⟩ := List.lookup_eq_some_iff.mp found
    have known := shortEscapes_letters (c.toNat, letter) (by simp [split])
    exact .short letter known.1 known.2
  · split
    · rename_i control
      have unit := Token.unit c.toNat control
      have high : c.toNat / 16 % 16 = c.toNat / 16 := Nat.mod_eq_of_lt (by omega)
      have zeros : c.toNat / 4096 % 16 = 0 ∧ c.toNat / 256 % 16 = 0 := by omega
      rw [unitEscape, fourHex, zeros.1, zeros.2, high] at unit
      exact unit
    · rename_i absent control
      refine .plain c (by omega) ?_
      rintro rfl
      revert absent
      decide

theorem escapes_escaped (s : List Char) : Escaped (escapes s) := by
  induction s with
  | nil => exact escaped_nil
  | cons c s ih => exact (escape_token c).escaped.append ih

theorem escaped_cons (plain : 32 ≤ c.toNat ∧ c ≠ backslash) (hs : Escaped s) : Escaped (c :: s) :=
  (Token.plain c plain.1 plain.2).escaped.append hs

theorem quoted_escaped (s : String) : Escaped (quoted s) :=
  escaped_cons (by decide) ((escapes_escaped s.toList).append (escaped_cons (by decide) escaped_nil))

theorem digit_plain (digit : c.isDigit = true) : 32 ≤ c.toNat ∧ c ≠ backslash := by
  have bounds : 48 ≤ c.toNat ∧ c.toNat ≤ 57 := Char.isDigit_iff_toNat.mp digit
  refine ⟨by omega, ?_⟩
  rintro rfl
  revert digit
  decide

theorem natural_escaped (n : Nat) : Escaped (natural n) :=
  escaped_plain (List.all_eq_true.mpr fun _ hc => decide_eq_true (digit_plain (natural_digits n _ hc)))

theorem integer_escaped (i : Int) : Escaped (integer i) := by
  cases i with
  | ofNat n => exact natural_escaped n
  | negSucc n => exact escaped_cons (by decide) (natural_escaped (n + 1))

mutual
theorem text_escaped : ∀ {a : Json}, FloatFree a → Escaped (text a)
  | .null, _ => escaped_plain (by decide)
  | .bool true, _ => escaped_plain (by decide)
  | .bool false, _ => escaped_plain (by decide)
  | .int i, _ => integer_escaped i
  | .float _, free => nomatch free
  | .str s, _ => quoted_escaped s
  | .arr _, free => escaped_cons (by decide) ((textItems_escaped free).append (escaped_plain (by decide)))
  | .obj _, free => escaped_cons (by decide) ((textFields_escaped free).append (escaped_plain (by decide)))

theorem textItems_escaped : ∀ {items : List Json}, FloatFreeItems items → Escaped (textItems items)
  | [], _ => escaped_nil
  | [_], free => text_escaped free.1
  | _ :: _ :: _, free => (text_escaped free.1).append (escaped_cons (by decide) (textItems_escaped free.2))

theorem textFields_escaped : ∀ {fields : List (String × Json)}, FloatFreeFields fields → Escaped (textFields fields)
  | [], _ => escaped_nil
  | [(k, _)], free => (quoted_escaped k).append (escaped_cons (by decide) (text_escaped free.1))
  | (k, _) :: _ :: _, free =>
    (quoted_escaped k).append (escaped_cons (by decide)
      ((text_escaped free.1).append (escaped_cons (by decide) (textFields_escaped free.2))))
end

/-- The ASCII encoding says what the value is, up to the order of its keys. -/
theorem asciiDumps_inj {a b : Json} (ha : FloatFree a) (hb : FloatFree b) :
    asciiDumps a = asciiDumps b ↔ sorted a = sorted b := by
  rw [← dumps_inj ha hb]
  constructor
  · exact asciiText_inj (text_escaped (floatFree_sorted.mpr ha)) (text_escaped (floatFree_sorted.mpr hb))
  · intro same
    rw [asciiDumps, asciiDumps, same]

end escaped

end Json
