import RevenueGuard.Kit.JsonReader

/-
Reading JSON from bytes whose encoding the first bytes give away, surrogates let through.
A body that strict UTF-8 reads as an object is read the same way here, and
whatever two readers accept at different depths they read alike.
-/
namespace JsonReader

inductive Encoding where
  | utf8 | utf8Sig | utf16 | utf16Be | utf16Le | utf32 | utf32Be | utf32Le
deriving DecidableEq, Repr

/-- `json.detect_encoding`. -/
def detectEncoding (b : List UInt8) : Encoding :=
  if [0, 0, 0xFE, 0xFF].isPrefixOf b || [0xFF, 0xFE, 0, 0].isPrefixOf b then .utf32
  else if [0xFE, 0xFF].isPrefixOf b || [0xFF, 0xFE].isPrefixOf b then .utf16
  else if [0xEF, 0xBB, 0xBF].isPrefixOf b then .utf8Sig
  else match b with
    | b0 :: b1 :: b2 :: b3 :: _ =>
      if b0 = 0 then if b1 ≠ 0 then .utf16Be else .utf32Be
      else if b1 = 0 then if b2 ≠ 0 ∨ b3 ≠ 0 then .utf16Le else .utf32Le
      else .utf8
    | [b0, b1] => if b0 = 0 then .utf16Be else if b1 = 0 then .utf16Le else .utf8
    | _ => .utf8

/-- A surrogate written in UTF-8 becomes the replacement character, as everywhere in this reader. -/
def passSurrogates : List UInt8 → List UInt8
  | a :: b :: c :: rest =>
    if a = 0xED ∧ 0xA0 ≤ b ∧ b ≤ 0xBF ∧ 0x80 ≤ c ∧ c ≤ 0xBF then 0xEF :: 0xBF :: 0xBD :: passSurrogates rest
    else a :: passSurrogates (b :: c :: rest)
  | b => b

def decodeUtf8 (b : List UInt8) : Option (List Char) :=
  (String.fromUTF8? (passSurrogates b).toByteArray).map String.toList

def bigUnit (bytes : List UInt8) : Nat := bytes.foldl (fun n b => 256 * n + b.toNat) 0

/-- The units of `width` bytes each; bytes that are left over are an error. -/
def units (width : Nat) (big : Bool) : Nat → List UInt8 → Option (List Nat)
  | _, [] => some []
  | 0, _ => none
  | fuel + 1, b =>
    if b.length < width then none
    else (units width big fuel (b.drop width)).map fun rest =>
      bigUnit (if big then b.take width else (b.take width).reverse) :: rest

def decodeUtf16 (big : Bool) (b : List UInt8) : Option (List Char) := (units 2 big b.length b).map joined

def decodeUtf32 (big : Bool) (b : List UInt8) : Option (List Char) := do
  let points ← units 4 big b.length b
  if points.all fun n => decide (n < 0x110000) then some (points.map character) else none

def decode (encoding : Encoding) (b : List UInt8) : Option (List Char) := match encoding with
  | .utf8 => decodeUtf8 b
  | .utf8Sig => decodeUtf8 (b.drop 3)
  | .utf16 => decodeUtf16 ([0xFE, 0xFF].isPrefixOf b) (b.drop 2)
  | .utf16Be => decodeUtf16 true b
  | .utf16Le => decodeUtf16 false b
  | .utf32 => decodeUtf32 ([0, 0].isPrefixOf b) (b.drop 4)
  | .utf32Be => decodeUtf32 true b
  | .utf32Le => decodeUtf32 false b

def loadsBytes (limit : Nat) (b : List UInt8) : Except LoadsError Json :=
  match decode (detectEncoding b) b with
  | none => .error .decode
  | some text => loads limit text

section depth

variable {A : Type} {cs : List Char} {close : Char}

/-- Whatever `p` reads, `q` reads too. -/
def Extends (p q : List Char → Scan A) : Prop := ∀ cs r, p cs = .ok r → q cs = .ok r

variable {p q : List Char → Scan A}

theorem separated_extends (more : Extends p q) (fuel : Nat) :
    Extends (separated close p fuel) (separated close q fuel) := by
  induction fuel with
  | zero =>
    intro cs r h
    cases h
  | succ fuel ih =>
    intro cs r h
    unfold separated at h ⊢
    cases first : p cs with
    | error e =>
      rw [first] at h
      cases h
    | ok found =>
      obtain ⟨a, rest⟩ := found
      rw [first] at h
      rw [more cs _ first]
      dsimp only at h ⊢
      split at h
      · cases h
      · rename_i c left next
        split at h
        · rename_i closed
          rw [if_pos closed]
          exact h
        · rename_i opened
          rw [if_neg opened]
          split at h
          · rename_i comma
            rw [if_pos comma]
            cases others : separated close p fuel (skipSpace left) with
            | error e =>
              rw [others] at h
              cases h
            | ok found =>
              rw [others] at h
              rw [ih _ _ others]
              exact h
          · cases h

theorem enclosed_extends (more : Extends p q) : Extends (enclosed close p) (enclosed close q) := by
  intro cs r h
  unfold enclosed at h ⊢
  split at h
  · cases h
  · rename_i c rest next
    split at h
    · rename_i closed
      rw [if_pos closed]
      exact h
    · rename_i opened
      rw [if_neg opened]
      exact separated_extends more _ _ _ h

theorem map_extends {x y : Scan A} {B : Type} {f : A × List Char → B × List Char} {r : B × List Char}
    (more : ∀ a, x = .ok a → y = .ok a) (h : x.map f = .ok r) : y.map f = .ok r := by
  cases found : x with
  | error e =>
    rw [found] at h
    cases h
  | ok a =>
    rw [found] at h
    rw [more a found]
    exact h

theorem member_extends {p q : List Char → Scan Json} (more : Extends p q) : Extends (member p) (member q) := by
  intro cs r h
  unfold member at h ⊢
  split at h
  · cases h
  · split at h
    · cases h
    · rename_i quoted
      rw [if_neg quoted]
      split at h
      · cases h
      · rename_i key rest named
        split at h
        · cases h
        · rename_i c left next
          split at h
          · rename_i colon
            rw [if_pos colon]
            exact map_extends (fun a found => more _ a found) h
          · cases h

theorem valueOf_extends {p q : List Char → Scan Json} (more : Extends p q) :
    Extends (valueOf (some p)) (valueOf (some q)) := by
  intro cs r h
  unfold valueOf at h ⊢
  split at h
  · cases h
  · dsimp only at h ⊢
    split at h
    · rename_i quoted
      rw [if_pos quoted]
      exact h
    · rename_i plain
      rw [if_neg plain]
      split at h
      · rename_i bracket
        rw [if_pos bracket]
        split at h
        · rename_i square
          rw [if_pos square]
          exact map_extends (fun a found => enclosed_extends more _ a found) h
        · rename_i brace
          rw [if_neg brace]
          exact map_extends (fun a found => enclosed_extends (member_extends more) _ a found) h
      · rename_i bare
        rw [if_neg bare]
        exact h

theorem valueOf_none_extends (q : List Char → Scan Json) : Extends (valueOf none) (valueOf (some q)) := by
  intro cs r h
  unfold valueOf at h ⊢
  split at h
  · cases h
  · dsimp only at h ⊢
    split at h
    · rename_i quoted
      rw [if_pos quoted]
      exact h
    · rename_i plain
      rw [if_neg plain]
      split at h
      · cases h
      · rename_i bare
        rw [if_neg bare]
        exact h

theorem value_extends (n : Nat) : Extends (value n) (value (n + 1)) := by
  induction n with
  | zero => exact valueOf_none_extends _
  | succ n ih => exact valueOf_extends ih

theorem value_mono {m n : Nat} (le : m ≤ n) : Extends (value m) (value n) := by
  induction le with
  | refl => exact fun _ _ h => h
  | step _ ih => exact fun cs r h => value_extends _ cs r (ih cs r h)

theorem loads_mono {m n : Nat} (le : m ≤ n) {text : List Char} {a : Json} (h : loads m text = .ok a) :
    loads n text = .ok a := by
  unfold loads at h ⊢
  split at h
  · cases h
  · rename_i unmarked
    rw [if_neg unmarked]
    split at h
    · cases h
    · rename_i found
      rw [value_mono le _ _ found]
      exact h

/-- Two readers that take a text take it for the same value, whatever depth each allows. -/
theorem loads_unique {m n : Nat} {text : List Char} {a b : Json} (ha : loads m text = .ok a) (hb : loads n text = .ok b) :
    a = b := by
  have first := loads_mono (Nat.le_max_left m n) ha
  have second := loads_mono (Nat.le_max_right m n) hb
  rw [first] at second
  exact Except.ok.inj second

end depth

section agreement

theorem passSurrogates_cons {a : UInt8} (other : a.toNat ≠ 0xED) (rest : List UInt8) :
    passSurrogates (a :: rest) = a :: passSurrogates rest := by
  have lead : a ≠ 0xED := by
    intro same
    exact other (same ▸ rfl)
  match rest with
  | [] => rfl
  | [b] => rfl
  | b :: c :: rest =>
    rw [passSurrogates, if_neg]
    rintro ⟨same, -⟩
    exact lead same

theorem passSurrogates_below {b : UInt8} (low : b.toNat < 0xA0) (a : UInt8) (rest : List UInt8) :
    passSurrogates (a :: b :: rest) = a :: passSurrogates (b :: rest) := by
  match rest with
  | [] => rfl
  | c :: rest =>
    rw [passSurrogates, if_neg]
    rintro ⟨-, high, -⟩
    exact absurd (UInt8.le_iff_toNat_le.mp high) (by simpa using low)

theorem ofNat_toNat {n : Nat} (h : n < 256) : (UInt8.ofNat n).toNat = n := by
  simp [Nat.mod_eq_of_lt h]

/-- No character's encoding is a surrogate's. -/
theorem passSurrogates_char (c : Char) (rest : List UInt8) :
    passSurrogates (String.utf8EncodeChar c ++ rest) = String.utf8EncodeChar c ++ passSurrogates rest := by
  have bounds : c.val.toNat < 0xD800 ∨ (0xDFFF < c.val.toNat ∧ c.val.toNat < 0x110000) := c.valid
  unfold String.utf8EncodeChar
  dsimp only
  generalize c.val.toNat = v at bounds
  have trail (n : Nat) : ((UInt8.ofNat (n % 64 + 128)).toNat) ≠ 0xED := by
    rw [ofNat_toNat (by omega)]
    omega
  split
  · rw [List.singleton_append, List.singleton_append, passSurrogates_cons]
    rw [ofNat_toNat (by omega)]
    omega
  · split
    · simp only [List.cons_append, List.nil_append]
      rw [passSurrogates_cons, passSurrogates_cons (trail v)]
      rw [ofNat_toNat (by omega)]
      omega
    · split
      · simp only [List.cons_append, List.nil_append]
        have tail : passSurrogates (UInt8.ofNat (v / 64 % 64 + 128) :: UInt8.ofNat (v % 64 + 128) :: rest) =
            UInt8.ofNat (v / 64 % 64 + 128) :: UInt8.ofNat (v % 64 + 128) :: passSurrogates rest := by
          rw [passSurrogates_cons (trail (v / 64)), passSurrogates_cons (trail v)]
        by_cases lead : v / 4096 % 16 + 224 = 0xED
        · rw [passSurrogates_below, tail]
          rw [ofNat_toNat (by omega)]
          omega
        · rw [passSurrogates_cons, tail]
          rw [ofNat_toNat (by omega)]
          exact lead
      · simp only [List.cons_append, List.nil_append]
        rw [passSurrogates_cons, passSurrogates_cons (trail (v / 4096)), passSurrogates_cons (trail (v / 64)),
          passSurrogates_cons (trail v)]
        rw [ofNat_toNat (by omega)]
        omega

theorem passSurrogates_utf8 (text : List Char) : passSurrogates (Json.utf8 text) = Json.utf8 text := by
  induction text with
  | nil => rfl
  | cons c rest ih =>
    show passSurrogates (String.utf8EncodeChar c ++ Json.utf8 rest) = String.utf8EncodeChar c ++ Json.utf8 rest
    rw [passSurrogates_char, ih]

theorem fromUTF8?_utf8 (text : List Char) : String.fromUTF8? (Json.utf8 text).toByteArray = some (String.ofList text) := by
  have valid : ((Json.utf8 text).toByteArray).IsValidUTF8 := .intro text rfl
  unfold String.fromUTF8?
  rw [dif_pos valid]
  rfl

/-- Strict UTF-8 is the encoding of the text it reads. -/
theorem bytes_of_fromUTF8? {b : List UInt8} {text : String} (h : String.fromUTF8? b.toByteArray = some text) :
    b = Json.utf8 text.toList := by
  unfold String.fromUTF8? at h
  split at h
  · rename_i valid
    obtain ⟨m, same⟩ := valid
    have bytes : b = Json.utf8 m := by
      have := congrArg (fun a : ByteArray => a.data.toList) same
      simpa [List.utf8Encode, Json.utf8] using this
    subst bytes
    have again := fromUTF8?_utf8 m
    unfold String.fromUTF8? at again
    split at again
    · cases h
      rename_i valid
      rw [Option.some.inj again]
      simp
    · cases again
  · cases h

theorem decodeUtf8_utf8 (text : List Char) : decodeUtf8 (Json.utf8 text) = some text := by
  rw [decodeUtf8, passSurrogates_utf8, fromUTF8?_utf8]
  simp

theorem detectEncoding_utf8 {a : UInt8} {rest : List UInt8} (unmarked : a ≠ 0 ∧ a ≠ 0xFF ∧ a ≠ 0xFE ∧ a ≠ 0xEF)
    (second : rest.head? ≠ some 0) : detectEncoding (a :: rest) = .utf8 := by
  obtain ⟨zero, little, big, sig⟩ := unmarked
  unfold detectEncoding
  simp only [List.isPrefixOf, beq_eq_false_iff_ne.mpr (Ne.symm zero), beq_eq_false_iff_ne.mpr (Ne.symm little),
    beq_eq_false_iff_ne.mpr (Ne.symm big), beq_eq_false_iff_ne.mpr (Ne.symm sig), Bool.false_and, Bool.or_false,
    Bool.false_eq_true, if_false]
  split
  · rename_i b0 b1 b2 b3 more same
    obtain ⟨rfl, rfl⟩ := List.cons.inj same
    rw [if_neg zero, if_neg (fun h => second (by rw [h]; rfl))]
  · rename_i b0 b1 same
    obtain ⟨rfl, rfl⟩ := List.cons.inj same
    rw [if_neg zero, if_neg (fun h => second (by rw [h]; rfl))]
  · rfl

theorem utf8EncodeChar_head {c : Char} (visible : c.toNat ≠ 0) :
    ∃ a rest, String.utf8EncodeChar c = a :: rest ∧ a ≠ 0 := by
  have bounds : c.val.toNat < 0xD800 ∨ (0xDFFF < c.val.toNat ∧ c.val.toNat < 0x110000) := c.valid
  have nonzero : c.val.toNat ≠ 0 := visible
  have lead {n : Nat} (positive : n ≠ 0) (small : n < 256) : UInt8.ofNat n ≠ 0 := by
    intro same
    exact positive (by rw [← ofNat_toNat small, same]; rfl)
  unfold String.utf8EncodeChar
  dsimp only
  generalize c.val.toNat = v at bounds nonzero
  split
  · exact ⟨_, _, rfl, lead nonzero (by omega)⟩
  · split
    · exact ⟨_, _, rfl, lead (by omega) (by omega)⟩
    · split
      · exact ⟨_, _, rfl, lead (by omega) (by omega)⟩
      · exact ⟨_, _, rfl, lead (by omega) (by omega)⟩

theorem utf8_head {text : List Char} (visible : ∀ c ∈ text.head?, c.toNat ≠ 0) : (Json.utf8 text).head? ≠ some 0 := by
  cases text with
  | nil => simp [Json.utf8]
  | cons c rest =>
    obtain ⟨a, tail, encoded, nonzero⟩ := utf8EncodeChar_head (visible c rfl)
    simp [Json.utf8, encoded, nonzero]

theorem utf8_ascii {c : Char} (ascii : c.toNat < 128) (rest : List Char) :
    Json.utf8 (c :: rest) = UInt8.ofNat c.toNat :: Json.utf8 rest := by
  have encoded : String.utf8EncodeChar c = [UInt8.ofNat c.toNat] := by
    unfold String.utf8EncodeChar
    exact if_pos (Nat.lt_succ_iff.mp ascii)
  simp [Json.utf8, encoded]

variable {limit : Nat} {c : Char} {cs rest : List Char} {fields : List (String × Json)}

theorem number_scalar (h : number cs = .ok (.obj fields, rest)) : False := by
  unfold number at h
  split at h
  · cases h
  · dsimp only at h
    split at h
    · cases h
    · split at h
      · cases h
      · split at h <;> cases h

theorem scalar_scalar (h : scalar cs = .ok (.obj fields, rest)) : False := by
  unfold scalar at h
  split at h
  · rename_i k found
    have word : ∀ k ∈ keywords, k.2 ≠ .obj fields := by simp [keywords]
    exact word k (List.mem_of_find?_eq_some found) (Prod.mk.inj (Except.ok.inj h)).1
  · exact number_scalar h

/-- An object begins with a brace, and what follows it is no NUL. -/
theorem value_obj (h : value limit (c :: cs) = .ok (.obj fields, rest)) :
    c = '{' ∧ ∀ d ∈ cs.head?, d.toNat ≠ 0 := by
  have quoted {d : Char} {text : List Char} :
      (string text).map (fun r => (Json.str r.1, r.2)) ≠ .ok (.obj fields, rest) := by
    intro same
    cases found : string text <;> rw [found] at same <;> cases same
  have listed {part : List Char → Scan Json} {text : List Char} :
      (enclosed ']' part text).map (fun r => (Json.arr r.1, r.2)) ≠ .ok (.obj fields, rest) := by
    intro same
    cases found : enclosed ']' part text <;> rw [found] at same <;> cases same
  cases limit with
  | zero =>
    unfold value valueOf at h
    dsimp only at h
    split at h
    · exact absurd h (quoted (d := c))
    · split at h
      · cases h
      · exact (scalar_scalar h).elim
  | succ limit =>
    unfold value valueOf at h
    dsimp only at h
    split at h
    · exact absurd h (quoted (d := c))
    · split at h
      · rename_i bracket
        split at h
        · exact absurd h listed
        · rename_i square
          refine ⟨?_, ?_⟩
          · simp only [opens, decide_eq_true_eq] at bracket
            exact bracket.resolve_left square
          · intro d first
            cases cs with
            | nil => cases first
            | cons e tail =>
              cases first
              intro nul
              have same : d = Char.ofNat 0 := by
                rw [← nul, Char.ofNat_toNat]
              subst same
              cases h
      · exact (scalar_scalar h).elim

theorem loads_obj {text : List Char} (h : loads limit text = .ok (.obj fields)) :
    ∃ c rest, text = c :: rest ∧ (isSpace c = true ∨ c = '{') ∧ ∀ d ∈ rest.head?, d.toNat ≠ 0 := by
  unfold loads at h
  split at h
  · cases h
  · split at h
    · cases h
    · rename_i a left read
      split at h
      · cases h
        cases text with
        | nil => cases limit <;> cases read
        | cons c rest =>
          by_cases blank : isSpace c = true
          · refine ⟨c, rest, rfl, .inl blank, ?_⟩
            intro d first
            cases rest with
            | nil => cases first
            | cons e tail =>
              cases first
              intro nul
              have visible : isSpace d = false := by simp [isSpace, nul]
              have skipped : skipSpace (c :: d :: tail) = d :: tail := by
                simp [skipSpace, blank, visible]
              rw [skipped] at read
              have brace := (value_obj read).1
              rw [brace] at nul
              exact absurd nul (by decide)
          · have kept : skipSpace (c :: rest) = c :: rest := by simp [skipSpace, blank]
            rw [kept] at read
            obtain ⟨brace, visible⟩ := value_obj read
            exact ⟨c, rest, rfl, .inr brace, visible⟩
      · cases h

/-- An object that strict UTF-8 carries is read from the bytes as from the text. -/
theorem loadsBytes_of_strict {b : List UInt8} {text : String} (strict : String.fromUTF8? b.toByteArray = some text)
    (h : loads limit text.toList = .ok (.obj fields)) (limit' : Nat) :
    loadsBytes limit' b = loads limit' text.toList := by
  have bytes := bytes_of_fromUTF8? strict
  obtain ⟨c, rest, chars, start, visible⟩ := loads_obj h
  have code : c.toNat = 9 ∨ c.toNat = 10 ∨ c.toNat = 13 ∨ c.toNat = 32 ∨ c.toNat = 123 := by
    rcases start with blank | rfl
    · simp only [isSpace, decide_eq_true_eq] at blank
      omega
    · decide
  have plain : detectEncoding b = .utf8 := by
    rw [bytes, chars, utf8_ascii (by omega)]
    refine detectEncoding_utf8 ?_ (utf8_head visible)
    rcases code with same | same | same | same | same <;> rw [same] <;> decide
  unfold loadsBytes
  rw [plain, decode, bytes, decodeUtf8_utf8]

end agreement

end JsonReader
