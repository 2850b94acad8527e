import RevenueGuard.Kit.Json
import Mathlib.Data.List.TakeWhile

/-
Reading JSON text the way Python's json module does. The reader stops for the length
of a number or the depth of a value only where the text itself has such a part.
-/
namespace JsonReader
open Json (quote backslash shortEscapes)

inductive LoadsError where
  | decode | digits | depth
deriving DecidableEq, Repr

abbrev Scan (A : Type) : Type := Except LoadsError (A × List Char)

def isSpace (c : Char) : Bool := decide (c.toNat = 32 ∨ c.toNat = 9 ∨ c.toNat = 10 ∨ c.toNat = 13)

def skipSpace (cs : List Char) : List Char := cs.dropWhile isSpace

section strings

def hexValue (c : Char) : Option Nat :=
  if c.isDigit then some (c.toNat - 48)
  else if 'a' ≤ c ∧ c ≤ 'f' then some (c.toNat - 87)
  else if 'A' ≤ c ∧ c ≤ 'F' then some (c.toNat - 55)
  else none

def hexQuad (a b c d : Char) : Option Nat :=
  match hexValue a, hexValue b, hexValue c, hexValue d with
  | some a, some b, some c, some d => some (((a * 16 + b) * 16 + c) * 16 + d)
  | _, _, _, _ => none

/-- What a backslash and one letter stand for. -/
def unescape (letter : Char) : Option Nat :=
  if letter = '/' then some 47 else (shortEscapes.find? fun e => e.2 = letter).map Prod.fst

/-- The code units of a string up to its closing quote, surrogates as they are written. -/
def codeUnits : List Char → Scan (List Nat)
  | [] => .error .decode
  | c :: rest =>
    if c = quote then .ok ([], rest)
    else if c ≠ backslash then
      if c.toNat < 32 then .error .decode else (codeUnits rest).map fun r => (c.toNat :: r.1, r.2)
    else match rest with
      | [] => .error .decode
      | letter :: rest =>
        match unescape letter with
        | some unit => (codeUnits rest).map fun r => (unit :: r.1, r.2)
        | none => match rest with
          | a :: b :: c :: d :: rest =>
            match decide (letter = 'u'), hexQuad a b c d with
            | true, some unit => (codeUnits rest).map fun r => (unit :: r.1, r.2)
            | _, _ => .error .decode
          | _ => .error .decode

def isHigh (unit : Nat) : Bool := decide (0xD800 ≤ unit ∧ unit ≤ 0xDBFF)

def isLow (unit : Nat) : Bool := decide (0xDC00 ≤ unit ∧ unit ≤ 0xDFFF)

/-- Python keeps a surrogate without a partner; here it reads as the replacement character. -/
def character (unit : Nat) : Char := Char.ofNat (if isHigh unit || isLow unit then 0xFFFD else unit)

def joined : List Nat → List Char
  | [] => []
  | [unit] => [character unit]
  | high :: low :: rest =>
    if isHigh high && isLow low then Char.ofNat (0x10000 + (high - 0xD800) * 0x400 + (low - 0xDC00)) :: joined rest
    else character high :: joined (low :: rest)

def string (cs : List Char) : Scan String := (codeUnits cs).map fun r => (String.ofList (joined r.1), r.2)

end strings

section numbers

def run (cs : List Char) : List Char := cs.takeWhile Char.isDigit

def afterRun (cs : List Char) : List Char := cs.dropWhile Char.isDigit

def sign : List Char → List Char × List Char
  | '-' :: rest => (['-'], rest)
  | cs => ([], cs)

def whole : List Char → Option (List Char × List Char)
  | [] => none
  | c :: rest =>
    if c = '0' then some ([c], rest)
    else if c.isDigit then some (c :: run rest, afterRun rest)
    else none

def fraction : List Char → List Char × List Char
  | '.' :: rest => if run rest = [] then ([], '.' :: rest) else ('.' :: run rest, afterRun rest)
  | cs => ([], cs)

def exponentSign : List Char → List Char × List Char
  | '+' :: rest => (['+'], rest)
  | cs => sign cs

def exponent : List Char → List Char × List Char
  | [] => ([], [])
  | c :: rest =>
    if (c = 'e' ∨ c = 'E') ∧ run (exponentSign rest).2 ≠ [] then
      (c :: ((exponentSign rest).1 ++ run (exponentSign rest).2), afterRun (exponentSign rest).2)
    else ([], c :: rest)

/-- The interpreter converts no longer text to an integer. -/
def maxStrDigits : Nat := 4300

/-- A number with a fraction or an exponent is a float, kept as it is written. -/
def number (cs : List Char) : Scan Json :=
  match whole (sign cs).2 with
  | none => .error .decode
  | some (digits, rest) =>
    let part := (fraction rest).1 ++ (exponent (fraction rest).2).1
    let rest := (exponent (fraction rest).2).2
    if part ≠ [] then .ok (.float (String.ofList ((sign cs).1 ++ digits ++ part)), rest)
    else if maxStrDigits < digits.length then .error .digits
    else if (sign cs).1 = [] then .ok (.int (Nat.ofDigitChars 10 digits 0), rest)
    else .ok (.int (-(Nat.ofDigitChars 10 digits 0 : Int)), rest)

end numbers

def keywords : List (List Char × Json) :=
  [(['n', 'u', 'l', 'l'], .null), (['t', 'r', 'u', 'e'], .bool true), (['f', 'a', 'l', 's', 'e'], .bool false),
    (['N', 'a', 'N'], .float "NaN"), (['I', 'n', 'f', 'i', 'n', 'i', 't', 'y'], .float "Infinity"),
    (['-', 'I', 'n', 'f', 'i', 'n', 'i', 't', 'y'], .float "-Infinity")]

def scalar (cs : List Char) : Scan Json :=
  match keywords.find? fun k => k.1.isPrefixOf cs with
  | some k => .ok (k.2, cs.drop k.1.length)
  | none => number cs

/-- The elements up to the closing bracket. Every element takes a character, so `fuel` beyond the text's length is enough. -/
def separated {A : Type} (close : Char) (element : List Char → Scan A) : Nat → List Char → Scan (List A)
  | 0, _ => .error .decode
  | fuel + 1, cs =>
    match element cs with
    | .error e => .error e
    | .ok (a, rest) =>
      match skipSpace rest with
      | [] => .error .decode
      | c :: rest =>
        if c = close then .ok ([a], rest)
        else if c = ',' then (separated close element fuel (skipSpace rest)).map fun r => (a :: r.1, r.2)
        else .error .decode

def enclosed {A : Type} (close : Char) (element : List Char → Scan A) (cs : List Char) : Scan (List A) :=
  match skipSpace cs with
  | [] => .error .decode
  | c :: rest => if c = close then .ok ([], rest) else separated close element (rest.length + 2) (c :: rest)

def member (part : List Char → Scan Json) : List Char → Scan (String × Json)
  | [] => .error .decode
  | c :: rest =>
    if c ≠ quote then .error .decode
    else match string rest with
      | .error e => .error e
      | .ok (key, rest) =>
        match skipSpace rest with
        | [] => .error .decode
        | c :: rest => if c = ':' then (part (skipSpace rest)).map fun r => ((key, r.1), r.2) else .error .decode

/-- The last value of a key stands. -/
def dict : List (String × Json) → List (String × Json)
  | [] => []
  | (key, a) :: rest => if rest.any fun f => decide (f.1 = key) then dict rest else (key, a) :: dict rest

def opens (c : Char) : Bool := decide (c = '[' ∨ c = '{')

/-- One value, with the parts of a container read by `part`; without `part` no container may be opened. -/
def valueOf (part : Option (List Char → Scan Json)) : List Char → Scan Json
  | [] => .error .decode
  | c :: rest =>
    if c = quote then (string rest).map fun r => (.str r.1, r.2)
    else if opens c then
      match part with
      | none => .error .depth
      | some part =>
        if c = '[' then (enclosed ']' part rest).map fun r => (.arr r.1, r.2)
        else (enclosed '}' (member part) rest).map fun r => (.obj (dict r.1), r.2)
    else scalar (c :: rest)

/-- `depth` containers may still be opened one inside the other. -/
def value : Nat → List Char → Scan Json
  | 0 => valueOf none
  | depth + 1 => valueOf (some (value depth))

def byteOrderMark : Char := Char.ofNat 0xFEFF

def loads (limit : Nat) (text : List Char) : Except LoadsError Json :=
  if text.head? = some byteOrderMark then .error .decode
  else match value limit (skipSpace text) with
    | .error e => .error e
    | .ok (a, rest) => if skipSpace rest = [] then .ok a else .error .decode


section soundness

/-- Where a scan of `cs` may end: behind its first characters, at a long number, or below `limit` containers. -/
def Sound {A : Type} (limit : Nat) (cs : List Char) : Scan A → Prop
  | .ok (_, rest) => rest <:+ cs ∧ rest.length < cs.length
  | .error .decode => True
  | .error .digits => ∃ digits, digits <:+: cs ∧ maxStrDigits < digits.length ∧ Numerals.Digits digits
  | .error .depth => limit < cs.countP opens

variable {A B : Type} {limit : Nat} {cs rest : List Char} {result : Scan A}

/-- A scan of what is left of the text. -/
theorem Sound.after (sound : Sound limit rest result) (suffix : rest <:+ cs) : Sound limit cs result := by
  match result with
  | .ok (a, left) => exact ⟨sound.1.trans suffix, Nat.lt_of_lt_of_le sound.2 suffix.length_le⟩
  | .error .decode => trivial
  | .error .digits =>
    obtain ⟨digits, infixed, long⟩ := sound
    exact ⟨digits, infixed.trans suffix.isInfix, long⟩
  | .error .depth => exact Nat.lt_of_lt_of_le sound suffix.sublist.countP_le

/-- A bracket lets the text behind it go one container deeper. -/
theorem Sound.opened {c : Char} (bracket : opens c = true) (sound : Sound limit rest result) :
    Sound (limit + 1) (c :: rest) result := by
  have behind : Sound limit (c :: rest) result := sound.after (List.suffix_cons c rest)
  match result with
  | .ok (a, left) => exact behind
  | .error .decode => trivial
  | .error .digits => exact behind
  | .error .depth =>
    show limit + 1 < (c :: rest).countP opens
    rw [List.countP_cons_of_pos bracket]
    exact Nat.succ_lt_succ sound

theorem Sound.map {f : A × List Char → B × List Char} (sound : Sound limit cs result) (keeps : ∀ r, (f r).2 = r.2) :
    Sound limit cs (result.map f) := by
  match result with
  | .ok r =>
    show (f r).2 <:+ cs ∧ (f r).2.length < cs.length
    rw [keeps r]
    exact sound
  | .error .decode => trivial
  | .error .digits => exact sound
  | .error .depth => exact sound

theorem sound_step (c : Char) (a : A) (suffix : rest <:+ cs) : Sound limit (c :: cs) (.ok (a, rest)) :=
  ⟨suffix.trans (List.suffix_cons c cs), Nat.lt_succ_of_le suffix.length_le⟩

theorem skipSpace_suffix (cs : List Char) : skipSpace cs <:+ cs := List.dropWhile_suffix _

/-- What follows the white space, without its first character. -/
theorem skipSpace_tail {c : Char} (h : skipSpace cs = c :: rest) : rest <:+ cs :=
  (List.suffix_cons c rest).trans (h ▸ skipSpace_suffix cs)

theorem codeUnits_sound (limit : Nat) (cs : List Char) : Sound limit cs (codeUnits cs) := by
  fun_induction codeUnits cs with
  | case1 => trivial
  | case2 rest => exact sound_step _ _ List.suffix_rfl
  | case3 => trivial
  | case4 c rest _ _ _ ih => exact Sound.after (ih.map fun _ => rfl) (List.suffix_cons _ _)
  | case5 => trivial
  | case6 c _ _ letter rest unit _ ih => exact Sound.after (ih.map fun _ => rfl) (List.suffix_append [c, letter] rest)
  | case7 e _ _ letter _ a b c d rest unit _ _ ih =>
    exact Sound.after (ih.map fun _ => rfl) (List.suffix_append [e, letter, a, b, c, d] rest)
  | case8 => trivial
  | case9 => trivial

theorem string_sound (limit : Nat) (cs : List Char) : Sound limit cs (string cs) :=
  (codeUnits_sound limit cs).map fun _ => rfl

theorem run_digits (cs : List Char) : Numerals.Digits (run cs) := fun _ h => List.mem_takeWhile_imp h

theorem afterRun_suffix (cs : List Char) : afterRun cs <:+ cs := List.dropWhile_suffix _

theorem run_append (cs : List Char) : run cs ++ afterRun cs = cs := List.takeWhile_append_dropWhile

theorem sign_suffix (cs : List Char) : (sign cs).2 <:+ cs := by
  unfold sign
  split
  · exact List.suffix_cons _ _
  · exact List.suffix_rfl

theorem fraction_suffix (cs : List Char) : (fraction cs).2 <:+ cs := by
  unfold fraction
  split
  · split
    · exact List.suffix_rfl
    · exact (afterRun_suffix _).trans (List.suffix_cons _ _)
  · exact List.suffix_rfl

theorem exponentSign_suffix (cs : List Char) : (exponentSign cs).2 <:+ cs := by
  unfold exponentSign
  split
  · exact List.suffix_cons _ _
  · exact sign_suffix cs

theorem exponent_suffix (cs : List Char) : (exponent cs).2 <:+ cs := by
  unfold exponent
  split
  · exact List.suffix_rfl
  · split
    · exact (afterRun_suffix _).trans ((exponentSign_suffix _).trans (List.suffix_cons _ _))
    · exact List.suffix_rfl

theorem whole_spec {digits : List Char} (h : whole cs = some (digits, rest)) :
    cs = digits ++ rest ∧ digits ≠ [] ∧ Numerals.Digits digits := by
  unfold whole at h
  split at h
  · cases h
  · rename_i c cs
    split at h
    · rename_i zero
      cases h
      subst zero
      exact ⟨rfl, List.cons_ne_nil _ _, List.forall_mem_singleton.mpr (by decide)⟩
    · split at h
      · rename_i digit
        cases h
        refine ⟨?_, List.cons_ne_nil _ _, ?_⟩
        · rw [List.cons_append, run_append]
        · intro d hd
          rcases List.mem_cons.mp hd with rfl | later
          · exact digit
          · exact run_digits cs d later
      · cases h

theorem number_sound (limit : Nat) (cs : List Char) : Sound limit cs (number cs) := by
  unfold number
  split
  · trivial
  · rename_i digits rest found
    obtain ⟨text, nonempty, digitsOnly⟩ := whole_spec found
    have left : (exponent (fraction rest).2).2 <:+ rest := (exponent_suffix _).trans (fraction_suffix _)
    have behind : rest <:+ (sign cs).2 := text ▸ List.suffix_append digits rest
    have shorter : rest.length < (sign cs).2.length := by
      rw [text, List.length_append]
      have := List.length_pos_of_ne_nil nonempty
      omega
    have ends (a : Json) : Sound limit cs (.ok (a, (exponent (fraction rest).2).2)) := by
      refine ⟨left.trans (behind.trans (sign_suffix cs)), ?_⟩
      have := left.length_le
      have := (sign_suffix cs).length_le
      omega
    dsimp only
    split
    · exact ends _
    · split
      · rename_i long
        refine ⟨digits, ?_, long, digitsOnly⟩
        exact List.IsInfix.trans (text ▸ (List.prefix_append digits rest).isInfix) (sign_suffix cs).isInfix
      · split
        · exact ends _
        · exact ends _

theorem keywords_long : ∀ k ∈ keywords, 0 < k.1.length := by
  simp [keywords]

theorem scalar_sound (limit : Nat) (cs : List Char) : Sound limit cs (scalar cs) := by
  unfold scalar
  split
  · rename_i k found
    have starts : k.1 <+: cs := by simpa using List.find?_some found
    have word : 0 < k.1.length := keywords_long k (List.mem_of_find?_eq_some found)
    have := starts.length_le
    exact ⟨List.drop_suffix _ _, by rw [List.length_drop]; omega⟩
  · exact number_sound limit cs

variable {element : List Char → Scan A} {close : Char}

theorem separated_sound (sound : ∀ cs, Sound limit cs (element cs)) (fuel : Nat) (cs : List Char) :
    Sound limit cs (separated close element fuel cs) := by
  induction fuel generalizing cs with
  | zero => trivial
  | succ fuel ih =>
    have first := sound cs
    unfold separated
    split
    · rename_i e failed
      rw [failed] at first
      cases e <;> exact first
    · rename_i a rest found
      rw [found] at first
      split
      · trivial
      · rename_i c left next
        have behind : left <:+ cs := (skipSpace_tail next).trans first.1
        have shorter : left.length < cs.length := Nat.lt_of_le_of_lt (skipSpace_tail next).length_le first.2
        split
        · exact ⟨behind, shorter⟩
        · split
          · exact Sound.after ((ih (skipSpace left)).map fun _ => rfl) ((skipSpace_suffix left).trans behind)
          · trivial

/-- Fuel beyond the text's length changes nothing. -/
theorem separated_fuel (sound : ∀ cs, Sound limit cs (element cs)) {m n : Nat} (enough : cs.length < m)
    (enough' : cs.length < n) : separated close element m cs = separated close element n cs := by
  induction m generalizing n cs with
  | zero => omega
  | succ m ih =>
    cases n with
    | zero => omega
    | succ n =>
      have first := sound cs
      unfold separated
      split
      · rfl
      · rename_i a rest found
        rw [found] at first
        split
        · rfl
        · rename_i c left next
          have left_le := (skipSpace_tail next).length_le
          have skipped := (skipSpace_suffix left).length_le
          have rest_lt := first.2
          rw [ih (by omega : (skipSpace left).length < m) (by omega : (skipSpace left).length < n)]

theorem enclosed_sound (sound : ∀ cs, Sound limit cs (element cs)) (cs : List Char) :
    Sound limit cs (enclosed close element cs) := by
  unfold enclosed
  split
  · trivial
  · rename_i c rest next
    split
    · have behind := skipSpace_suffix cs
      rw [next] at behind
      have closed : Sound limit (c :: rest) (.ok (([] : List A), rest)) := sound_step c _ List.suffix_rfl
      exact closed.after behind
    · exact next ▸ (separated_sound sound _ (skipSpace cs)).after (skipSpace_suffix cs)

theorem member_sound {part : List Char → Scan Json} (sound : ∀ cs, Sound limit cs (part cs)) (cs : List Char) :
    Sound limit cs (member part cs) := by
  unfold member
  split
  · trivial
  · rename_i c rest
    split
    · trivial
    · have name := string_sound limit rest
      split
      · rename_i e failed
        rw [failed] at name
        have unnamed : Sound limit rest (.error e : Scan (String × Json)) := by cases e <;> exact name
        exact unnamed.after (List.suffix_cons c rest)
      · rename_i key left found
        rw [found] at name
        split
        · trivial
        · rename_i d behind next
          split
          · have tail : skipSpace behind <:+ c :: rest :=
              (skipSpace_suffix behind).trans ((skipSpace_tail next).trans (name.1.trans (List.suffix_cons c rest)))
            exact Sound.after ((sound (skipSpace behind)).map fun _ => rfl) tail
          · trivial

theorem value_sound (depth : Nat) (cs : List Char) : Sound depth cs (value depth cs) := by
  induction depth generalizing cs with
  | zero =>
    unfold value valueOf
    split
    · trivial
    · rename_i c rest
      split
      · exact Sound.after ((string_sound 0 rest).map fun _ => rfl) (List.suffix_cons c rest)
      · split
        · rename_i bracket
          show 0 < (c :: rest).countP opens
          rw [List.countP_cons_of_pos bracket]
          omega
        · exact scalar_sound 0 (c :: rest)
  | succ depth ih =>
    unfold value valueOf
    split
    · trivial
    · rename_i c rest
      split
      · exact Sound.after ((string_sound (depth + 1) rest).map fun _ => rfl) (List.suffix_cons c rest)
      · split
        · rename_i bracket
          dsimp only
          split
          · exact Sound.opened bracket ((enclosed_sound ih rest).map fun _ => rfl)
          · exact Sound.opened bracket ((enclosed_sound (member_sound ih) rest).map fun _ => rfl)
        · exact scalar_sound (depth + 1) (c :: rest)

theorem loads_sound {text : List Char} {e : LoadsError} (h : loads limit text = .error e) :
    Sound limit text (.error e : Scan Json) := by
  have sound := (value_sound limit (skipSpace text)).after (skipSpace_suffix text)
  unfold loads at h
  split at h
  · cases h
    trivial
  · split at h
    · rename_i failed
      cases h
      exact failed ▸ sound
    · split at h
      · cases h
      · cases h
        trivial

/-- Digits stop the reader only where there is a number too long to convert. -/
theorem loads_digits {text : List Char} (h : loads limit text = .error .digits) :
    ∃ digits, digits <:+: text ∧ maxStrDigits < digits.length ∧ Numerals.Digits digits := loads_sound h

/-- Depth stops the reader only where more brackets open than containers may. -/
theorem loads_depth {text : List Char} (h : loads limit text = .error .depth) : limit < text.countP opens :=
  loads_sound h

end soundness

end JsonReader
