import RevenueGuard.Kit.Numerals
import Mathlib.Data.List.Sort
import Mathlib.Data.String.Basic

/-
JSON values and their compact encoding with sorted keys and unescaped Unicode.
Two values without floats that encode alike are the same up to the order of keys.
-/
inductive Json where
  | null
  | bool (b : Bool)
  | int (i : Int)
  /-- A float, as the shortest text that reads back as it. -/
  | float (text : String)
  | str (s : String)
  | arr (items : List Json)
  | obj (fields : List (String × Json))
deriving Repr

namespace Json
open Numerals

def sortFields {A : Type} (fields : List (String × A)) : List (String × A) :=
  fields.insertionSort fun a b => a.1 ≤ b.1

mutual
/-- The value with every object's keys in order. -/
def sorted : Json → Json
  | .arr items => .arr (sortedItems items)
  | .obj fields => .obj (sortFields (sortedFields fields))
  | .null => .null
  | .bool b => .bool b
  | .int i => .int i
  | .float text => .float text
  | .str s => .str s

def sortedItems : List Json → List Json
  | [] => []
  | a :: rest => sorted a :: sortedItems rest

def sortedFields : List (String × Json) → List (String × Json)
  | [] => []
  | (k, a) :: rest => (k, sorted a) :: sortedFields rest
end

mutual
def FloatFree : Json → Prop
  | .float _ => False
  | .arr items => FloatFreeItems items
  | .obj fields => FloatFreeFields fields
  | .null => True
  | .bool _ => True
  | .int _ => True
  | .str _ => True

def FloatFreeItems : List Json → Prop
  | [] => True
  | a :: rest => FloatFree a ∧ FloatFreeItems rest

def FloatFreeFields : List (String × Json) → Prop
  | [] => True
  | (_, a) :: rest => FloatFree a ∧ FloatFreeFields rest
end

def quote : Char := Char.ofNat 34

def backslash : Char := Char.ofNat 92

def hexDigit (n : Nat) : Char := Nat.digitChar n

/-- The characters with an escape of two letters. -/
def shortEscapes : List (Nat × Char) :=
  [(34, quote), (92, backslash), (8, 'b'), (9, 't'), (10, 'n'), (12, 'f'), (13, 'r')]

def escape (c : Char) : List Char :=
  match shortEscapes.lookup c.toNat with
  | some letter => [backslash, letter]
  | none =>
    if c.toNat < 32 then [backslash, 'u', '0', '0', hexDigit (c.toNat / 16), hexDigit (c.toNat % 16)] else [c]

def escapes : List Char → List Char
  | [] => []
  | c :: rest => escape c ++ escapes rest

def quoted (s : String) : List Char := quote :: (escapes s.toList ++ [quote])

mutual
def text : Json → List Char
  | .null => ['n', 'u', 'l', 'l']
  | .bool true => ['t', 'r', 'u', 'e']
  | .bool false => ['f', 'a', 'l', 's', 'e']
  | .int i => integer i
  | .float text => text.toList
  | .str s => quoted s
  | .arr items => '[' :: (textItems items ++ [']'])
  | .obj fields => '{' :: (textFields fields ++ ['}'])

def textItems : List Json → List Char
  | [] => []
  | [a] => text a
  | a :: b :: rest => text a ++ ',' :: textItems (b :: rest)

def textFields : List (String × Json) → List Char
  | [] => []
  | [(k, a)] => quoted k ++ ':' :: text a
  | (k, a) :: b :: rest => quoted k ++ ':' :: (text a ++ ',' :: textFields (b :: rest))
end

def dumps (a : Json) : List Char := text (sorted a)

def utf8 (text : List Char) : List UInt8 := text.flatMap String.utf8EncodeChar

theorem sortedItems_eq (items : List Json) : sortedItems items = items.map sorted := by
  induction items with
  | nil => rfl
  | cons a rest ih => simp only [sortedItems, List.map_cons, ih]

theorem sortedFields_eq (fields : List (String × Json)) :
    sortedFields fields = fields.map fun f => (f.1, sorted f.2) := by
  induction fields with
  | nil => rfl
  | cons f rest ih => simp only [sortedFields, List.map_cons, ih]

theorem lookup_sortedFields (k : String) (fields : List (String × Json)) :
    (sortedFields fields).lookup k = (fields.lookup k).map sorted := by
  induction fields with
  | nil => rfl
  | cons f rest ih =>
    obtain ⟨l, a⟩ := f
    simp only [sortedFields, List.lookup_cons, ih]
    cases k == l <;> rfl

theorem floatFreeItems_iff {items : List Json} : FloatFreeItems items ↔ ∀ a ∈ items, FloatFree a := by
  induction items with
  | nil => simp [FloatFreeItems]
  | cons a rest ih => simp [FloatFreeItems, ih]

theorem floatFreeFields_iff {fields : List (String × Json)} :
    FloatFreeFields fields ↔ ∀ f ∈ fields, FloatFree f.2 := by
  induction fields with
  | nil => simp [FloatFreeFields]
  | cons f rest ih => simp only [FloatFreeFields, ih, List.forall_mem_cons]

section sorting

variable {A B : Type}

theorem sortFields_perm (fields : List (String × A)) : (sortFields fields).Perm fields :=
  List.perm_insertionSort _ fields

theorem mem_sortFields {fields : List (String × A)} {f : String × A} : f ∈ sortFields fields ↔ f ∈ fields :=
  (sortFields_perm fields).mem_iff

/-- Sorting looks at the keys only. -/
theorem sortFields_map (g : A → B) (fields : List (String × A)) :
    sortFields (fields.map fun f => (f.1, g f.2)) = (sortFields fields).map fun f => (f.1, g f.2) := by
  symm
  exact List.map_insertionSort _ _ _ fields fun _ _ _ _ => Iff.rfl

theorem sortFields_ordered (fields : List (String × A)) :
    (sortFields fields).Pairwise fun a b => a.1 ≤ b.1 := by
  have total : Std.Total fun a b : String × A => a.1 ≤ b.1 := ⟨fun a b => le_total a.1 b.1⟩
  have trans : IsTrans (String × A) fun a b => a.1 ≤ b.1 := ⟨fun _ _ _ => le_trans⟩
  exact List.pairwise_insertionSort _ fields

theorem sortFields_of_ordered {fields : List (String × A)} (ordered : fields.Pairwise fun a b => a.1 ≤ b.1) :
    sortFields fields = fields := ordered.insertionSort_eq

end sorting

mutual
theorem floatFree_sorted : ∀ {a : Json}, FloatFree (sorted a) ↔ FloatFree a
  | .arr items => by
    rw [sorted, FloatFree, FloatFree]
    exact floatFree_sortedItems
  | .obj fields => by
    rw [FloatFree, ← floatFree_sortedFields, sorted, FloatFree, floatFreeFields_iff, floatFreeFields_iff]
    simp only [mem_sortFields]
  | .null => Iff.rfl
  | .bool _ => Iff.rfl
  | .int _ => Iff.rfl
  | .float _ => Iff.rfl
  | .str _ => Iff.rfl

theorem floatFree_sortedItems : ∀ {items : List Json}, FloatFreeItems (sortedItems items) ↔ FloatFreeItems items
  | [] => Iff.rfl
  | _ :: _ => and_congr floatFree_sorted floatFree_sortedItems

theorem floatFree_sortedFields : ∀ {fields : List (String × Json)},
    FloatFreeFields (sortedFields fields) ↔ FloatFreeFields fields
  | [] => Iff.rfl
  | (_, _) :: _ => and_congr floatFree_sorted floatFree_sortedFields
end

mutual
theorem sorted_sorted : ∀ a : Json, sorted (sorted a) = sorted a
  | .arr items => by simp only [sorted, sortedItems_sorted items]
  | .obj fields => by
    have inner := sortedFields_sorted fields
    rw [sortedFields_eq (sortedFields fields)] at inner
    simp only [sorted, sortedFields_eq (sortFields _), ← sortFields_map, inner]
    rw [sortFields_of_ordered (sortFields_ordered _)]
  | .null => rfl
  | .bool _ => rfl
  | .int _ => rfl
  | .float _ => rfl
  | .str _ => rfl

theorem sortedItems_sorted : ∀ items : List Json, sortedItems (sortedItems items) = sortedItems items
  | [] => rfl
  | a :: rest => by simp only [sortedItems, sorted_sorted a, sortedItems_sorted rest]

theorem sortedFields_sorted : ∀ fields : List (String × Json),
    sortedFields (sortedFields fields) = sortedFields fields
  | [] => rfl
  | (_, a) :: rest => by simp only [sortedFields, sorted_sorted a, sortedFields_sorted rest]
end

section reading

/-
Reading the encoding back, as far as it takes to see that it is unambiguous.
-/
variable {r u : List Char}

def hexValue (c : Char) : Nat := (List.range 16).findIdx fun n => decide (hexDigit n = c)

def unescape : List Char → Option (Char × List Char)
  | [] => none
  | a :: rest =>
    if a ≠ backslash then some (a, rest)
    else match rest with
      | [] => none
      | 'u' :: _ :: _ :: high :: low :: more => some (Char.ofNat (16 * hexValue high + hexValue low), more)
      | letter :: more => (shortEscapes.find? fun e => decide (e.2 = letter)).map fun e => (Char.ofNat e.1, more)

theorem hexValue_hexDigit : ∀ n < 16, hexValue (hexDigit n) = n := by decide

theorem unescape_short : ∀ e ∈ shortEscapes, unescape (backslash :: e.2 :: r) = some (Char.ofNat e.1, r) := by
  simp only [shortEscapes, List.forall_mem_cons]
  exact ⟨rfl, rfl, rfl, rfl, rfl, rfl, rfl, by simp⟩

theorem unescape_escape (c : Char) (r : List Char) : unescape (escape c ++ r) = some (c, r) := by
  unfold escape
  split
  · rename_i letter found
    obtain ⟨before, after, split, -⟩ := List.lookup_eq_some_iff.mp found
    have known := unescape_short (r := r) (c.toNat, letter) (by simp [split])
    rw [Char.ofNat_toNat] at known
    exact known
  · split
    · have high := hexValue_hexDigit (c.toNat / 16) (by omega)
      have low := hexValue_hexDigit (c.toNat % 16) (by omega)
      simp only [List.cons_append, List.nil_append, unescape, ne_eq, not_true_eq_false, if_false, high, low]
      rw [Nat.div_add_mod, Char.ofNat_toNat]
    · rename_i absent _
      have plain : c ≠ backslash := by
        rintro rfl
        revert absent
        decide
      simp only [List.cons_append, List.nil_append, unescape, ne_eq, plain, not_false_eq_true, if_true]

theorem escape_append {c d : Char} (same : escape c ++ r = escape d ++ u) : c = d ∧ r = u := by
  have read := unescape_escape c r
  rw [same, unescape_escape d u] at read
  cases read
  exact ⟨rfl, rfl⟩

theorem escape_ne_quote {c : Char} : escape c ++ r ≠ quote :: u := by
  intro same
  have read := unescape_escape c r
  rw [same] at read
  cases read
  have heads : backslash = quote := (List.cons.inj same).1
  revert heads
  decide

theorem escapes_append {s t : List Char} (same : escapes s ++ quote :: r = escapes t ++ quote :: u) :
    s = t ∧ r = u := by
  induction s generalizing t with
  | nil =>
    cases t with
    | nil => exact ⟨rfl, (List.cons.inj same).2⟩
    | cons d t =>
      simp only [escapes, List.nil_append, List.append_assoc] at same
      exact absurd same.symm escape_ne_quote
  | cons c s ih =>
    cases t with
    | nil =>
      simp only [escapes, List.nil_append, List.append_assoc] at same
      exact absurd same escape_ne_quote
    | cons d t =>
      simp only [escapes, List.append_assoc] at same
      obtain ⟨rfl, tails⟩ := escape_append same
      obtain ⟨rfl, rest⟩ := ih tails
      exact ⟨rfl, rest⟩

theorem quoted_append {s t : String} (same : quoted s ++ r = quoted t ++ u) : s = t ∧ r = u := by
  simp only [quoted, List.cons_append, List.append_assoc, List.nil_append] at same
  obtain ⟨texts, rest⟩ := escapes_append (List.cons.inj same).2
  exact ⟨String.toList_inj.mp texts, rest⟩

/-- Which kind of value a text is, by its first character. -/
def kind (c : Char) : Nat :=
  if c.isDigit = true ∨ c = '-' then 2
  else ([('n', 0), ('t', 1), ('f', 1), (quote, 3), ('[', 4), ('{', 5)].lookup c).getD 6

def shape : Json → Nat
  | .null => 0
  | .bool _ => 1
  | .int _ => 2
  | .float _ => 2
  | .str _ => 3
  | .arr _ => 4
  | .obj _ => 5

theorem text_head {a : Json} (free : FloatFree a) : ∃ c rest, text a = c :: rest ∧ kind c = shape a := by
  cases a with
  | null => exact ⟨'n', _, rfl, rfl⟩
  | bool b =>
    cases b with
    | true => exact ⟨'t', _, rfl, rfl⟩
    | false => exact ⟨'f', _, rfl, rfl⟩
  | int i =>
    obtain ⟨c, rest, text, number⟩ := integer_head i
    exact ⟨c, rest, text, if_pos number⟩
  | float _ => cases free
  | str s => exact ⟨quote, _, rfl, rfl⟩
  | arr items => exact ⟨'[', _, rfl, rfl⟩
  | obj fields => exact ⟨'{', _, rfl, rfl⟩

theorem text_shape {a b : Json} (ha : FloatFree a) (hb : FloatFree b) (same : text a ++ r = text b ++ u) :
    shape a = shape b := by
  obtain ⟨c, rest, textA, kindA⟩ := text_head ha
  obtain ⟨d, rest', textB, kindB⟩ := text_head hb
  rw [textA, textB] at same
  rw [← kindA, ← kindB, (List.cons.inj same).1]

/-- No value's text starts with the end of a list. -/
theorem text_ne_close {a : Json} (ha : FloatFree a) : text a ++ r ≠ ']' :: u := by
  obtain ⟨c, rest, textA, kindA⟩ := text_head ha
  intro same
  rw [textA] at same
  rw [(List.cons.inj same).1] at kindA
  cases a <;> cases kindA

theorem textItems_ne_close {a : Json} {xs : List Json} (hx : FloatFreeItems (a :: xs)) :
    textItems (a :: xs) ++ r ≠ ']' :: u := by
  cases xs with
  | nil => exact text_ne_close hx.1
  | cons b xs =>
    simp only [textItems, List.append_assoc]
    exact text_ne_close hx.1

theorem textFields_ne_close {f : String × Json} {fs : List (String × Json)} :
    textFields (f :: fs) ++ r ≠ '}' :: u := by
  intro same
  have heads : quote = '}' := by
    cases fs with
    | nil => exact (List.cons.inj same).1
    | cons g fs => exact (List.cons.inj same).1
  revert heads
  decide

theorem stops_comma : Stops (',' :: r) := stops_cons rfl

theorem stops_bracket : Stops (']' :: r) := stops_cons rfl

theorem stops_brace : Stops ('}' :: r) := stops_cons rfl

mutual
theorem text_append : ∀ {a b : Json} {r u : List Char}, FloatFree a → FloatFree b → Stops r → Stops u →
    text a ++ r = text b ++ u → a = b ∧ r = u
  | .null, b, r, u, ha, hb, _, _, same => by
    have shapes := text_shape ha hb same
    cases b with
    | null => exact ⟨rfl, by simpa [text] using same⟩
    | _ => cases shapes
  | .bool x, b, r, u, ha, hb, _, _, same => by
    have shapes := text_shape ha hb same
    cases b with
    | bool y => cases x <;> cases y <;> simp_all [text]
    | _ => cases shapes
  | .int i, b, r, u, ha, hb, hr, hu, same => by
    have shapes := text_shape ha hb same
    cases b with
    | int j =>
      simp only [text] at same
      obtain ⟨rfl, rest⟩ := integer_append hr hu same
      exact ⟨rfl, rest⟩
    | float _ => cases hb
    | _ => cases shapes
  | .float _, _, _, _, ha, _, _, _, _ => nomatch ha
  | .str s, b, r, u, ha, hb, _, _, same => by
    have shapes := text_shape ha hb same
    cases b with
    | str t =>
      simp only [text] at same
      obtain ⟨rfl, rest⟩ := quoted_append same
      exact ⟨rfl, rest⟩
    | _ => cases shapes
  | .arr xs, b, r, u, ha, hb, _, _, same => by
    have shapes := text_shape ha hb same
    cases b with
    | arr ys =>
      simp only [text, List.cons_append, List.append_assoc, List.nil_append] at same
      obtain ⟨rfl, rest⟩ := textItems_append ha hb (List.cons.inj same).2
      exact ⟨rfl, rest⟩
    | _ => cases shapes
  | .obj fs, b, r, u, ha, hb, _, _, same => by
    have shapes := text_shape ha hb same
    cases b with
    | obj gs =>
      simp only [text, List.cons_append, List.append_assoc, List.nil_append] at same
      obtain ⟨rfl, rest⟩ := textFields_append ha hb (List.cons.inj same).2
      exact ⟨rfl, rest⟩
    | _ => cases shapes

theorem textItems_append : ∀ {xs ys : List Json} {r u : List Char}, FloatFreeItems xs → FloatFreeItems ys →
    textItems xs ++ ']' :: r = textItems ys ++ ']' :: u → xs = ys ∧ r = u
  | [], [], _, _, _, _, same => ⟨rfl, (List.cons.inj same).2⟩
  | [], _ :: _, _, _, _, hy, same => absurd same.symm (textItems_ne_close hy)
  | _ :: _, [], _, _, hx, _, same => absurd same (textItems_ne_close hx)
  | [a], [b], _, _, hx, hy, same => by
    obtain ⟨rfl, rest⟩ := text_append hx.1 hy.1 stops_bracket stops_bracket same
    exact ⟨rfl, (List.cons.inj rest).2⟩
  | [a], b :: b' :: ys, _, _, hx, hy, same => by
    simp only [textItems, List.append_assoc] at same
    obtain ⟨-, rest⟩ := text_append hx.1 hy.1 stops_bracket stops_comma same
    exact absurd (List.cons.inj rest).1 (by decide)
  | a :: a' :: xs, [b], _, _, hx, hy, same => by
    simp only [textItems, List.append_assoc] at same
    obtain ⟨-, rest⟩ := text_append hx.1 hy.1 stops_comma stops_bracket same
    exact absurd (List.cons.inj rest).1 (by decide)
  | a :: a' :: xs, b :: b' :: ys, _, _, hx, hy, same => by
    simp only [textItems, List.append_assoc, List.cons_append] at same
    obtain ⟨rfl, more⟩ := text_append hx.1 hy.1 stops_comma stops_comma same
    obtain ⟨items, rest⟩ := textItems_append hx.2 hy.2 (List.cons.inj more).2
    exact ⟨by rw [items], rest⟩

theorem textFields_append : ∀ {fs gs : List (String × Json)} {r u : List Char}, FloatFreeFields fs →
    FloatFreeFields gs → textFields fs ++ '}' :: r = textFields gs ++ '}' :: u → fs = gs ∧ r = u
  | [], [], _, _, _, _, same => ⟨rfl, (List.cons.inj same).2⟩
  | [], _ :: _, _, _, _, _, same => absurd same.symm textFields_ne_close
  | _ :: _, [], _, _, _, _, same => absurd same textFields_ne_close
  | [(k, a)], [(l, b)], _, _, hx, hy, same => by
    simp only [textFields, List.append_assoc, List.cons_append] at same
    obtain ⟨rfl, values⟩ := quoted_append same
    obtain ⟨rfl, rest⟩ := text_append hx.1 hy.1 stops_brace stops_brace (List.cons.inj values).2
    exact ⟨rfl, (List.cons.inj rest).2⟩
  | [(k, a)], (l, b) :: g :: gs, _, _, hx, hy, same => by
    simp only [textFields, List.append_assoc, List.cons_append] at same
    obtain ⟨rfl, values⟩ := quoted_append same
    obtain ⟨-, rest⟩ := text_append hx.1 hy.1 stops_brace stops_comma (List.cons.inj values).2
    exact absurd (List.cons.inj rest).1 (by decide)
  | (k, a) :: f :: fs, [(l, b)], _, _, hx, hy, same => by
    simp only [textFields, List.append_assoc, List.cons_append] at same
    obtain ⟨rfl, values⟩ := quoted_append same
    obtain ⟨-, rest⟩ := text_append hx.1 hy.1 stops_comma stops_brace (List.cons.inj values).2
    exact absurd (List.cons.inj rest).1 (by decide)
  | (k, a) :: f :: fs, (l, b) :: g :: gs, _, _, hx, hy, same => by
    simp only [textFields, List.append_assoc, List.cons_append] at same
    obtain ⟨rfl, values⟩ := quoted_append same
    obtain ⟨rfl, more⟩ := text_append hx.1 hy.1 stops_comma stops_comma (List.cons.inj values).2
    obtain ⟨fields, rest⟩ := textFields_append hx.2 hy.2 (List.cons.inj more).2
    exact ⟨by rw [fields], rest⟩
end

theorem utf8_inj {s t : List Char} : utf8 s = utf8 t ↔ s = t := by
  constructor
  · intro same
    have bytes : s.utf8Encode = t.utf8Encode := congrArg List.toByteArray same
    exact String.ofList_injective (String.toByteArray_inj.mp bytes)
  · intro same
    rw [same]

/-- The encoding says what the value is, up to the order of its keys. -/
theorem dumps_inj {a b : Json} (ha : FloatFree a) (hb : FloatFree b) : dumps a = dumps b ↔ sorted a = sorted b := by
  constructor
  · intro same
    have texts : text (sorted a) ++ [] = text (sorted b) ++ [] := by
      rw [List.append_nil, List.append_nil]
      exact same
    exact (text_append (floatFree_sorted.mpr ha) (floatFree_sorted.mpr hb) stops_nil stops_nil texts).1
  · intro same
    rw [dumps, dumps, same]

end reading

/-- Two objects with the same distinct keys in the same order that are equal up to that order are equal. -/
theorem eq_of_perm {A : Type} {fs gs : List (String × A)} (perm : fs.Perm gs)
    (keys : fs.map Prod.fst = gs.map Prod.fst) (nodup : (fs.map Prod.fst).Nodup) : fs = gs := by
  induction fs generalizing gs with
  | nil => exact (List.nil_perm.mp perm).symm
  | cons f fs ih =>
    cases gs with
    | nil => cases keys
    | cons g gs =>
      obtain ⟨key, keysRest⟩ := List.cons.inj keys
      obtain ⟨fresh, nodup⟩ := List.nodup_cons.mp nodup
      have same : f = g := by
        rcases List.mem_cons.mp (perm.mem_iff.mp (.head fs)) with here | later
        · exact here
        · exact absurd (keysRest ▸ List.mem_map_of_mem later) fresh
      subst same
      rw [ih ((List.perm_cons f).mp perm) keysRest nodup]

theorem sorted_obj_inj {fs gs : List (String × Json)} (same : sorted (.obj fs) = sorted (.obj gs))
    (keys : fs.map Prod.fst = gs.map Prod.fst) (nodup : (fs.map Prod.fst).Nodup) :
    sortedFields fs = sortedFields gs := by
  simp only [sorted, obj.injEq] at same
  have kept : ∀ hs : List (String × Json), (sortedFields hs).map Prod.fst = hs.map Prod.fst := by
    intro hs
    simp only [sortedFields_eq, List.map_map]
    rfl
  apply eq_of_perm
  · exact (sortFields_perm _).symm.trans (same ▸ sortFields_perm _)
  · rw [kept, kept, keys]
  · rw [kept]
    exact nodup

end Json
