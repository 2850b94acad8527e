import RevenueGuard.Store.AuditLedger
import RevenueGuard.Kit.Failures

/-
Canonical payloads. Canonicalisation takes a value to a document without floats
whose keys are in order, and leaves such a document as it is; equal canonical
bytes mean equal documents up to the order of their keys.
-/
namespace RevenueGuard
open Json (FloatFree FloatFreeItems FloatFreeFields sorted sortedItems sortedFields sortFields)

theorem gather_ok {fields : List (String × Except AuditError Json)} {out : List (String × Json)} :
    gather fields = .ok out ↔ fields = out.map fun f => (f.1, .ok f.2) := by
  induction fields generalizing out with
  | nil => cases out <;> simp [gather]
  | cons f rest ih =>
    obtain ⟨k, x⟩ := f
    constructor
    · intro h
      obtain ⟨a, hx, h⟩ := Tx.ok_of_bind h
      obtain ⟨more, hrest, h⟩ := Tx.ok_of_bind h
      cases h
      rw [hx, ih.mp hrest]
      rfl
    · intro h
      cases out with
      | nil => cases h
      | cons g more =>
        obtain ⟨here, rest'⟩ := List.cons.inj h
        cases here
        rw [gather, ih.mpr rest']
        rfl

theorem map_ok {A B : Type} {x : Except AuditError A} {f : A → B} {b : B} (h : x.map f = .ok b) :
    ∃ a, x = .ok a ∧ b = f a := by
  cases x with
  | error e => cases h
  | ok a =>
    cases h
    exact ⟨a, rfl, rfl⟩

/-- A canonical document: no floats, and the keys of its objects in order. -/
structure Canonical (a : Json) : Prop where
  free : FloatFree a
  ordered : sorted a = a

theorem canonical_obj {fields : List (String × Json)} (ordered : fields.Pairwise fun a b => a.1 ≤ b.1)
    (values : ∀ f ∈ fields, Canonical f.2) : Canonical (.obj fields) := by
  constructor
  · exact Json.floatFreeFields_iff.mpr fun f hf => (values f hf).free
  · have kept : sortedFields fields = fields := by
      rw [Json.sortedFields_eq]
      conv_rhs => rw [← List.map_id fields]
      exact List.map_congr_left fun f hf => by rw [(values f hf).ordered]; rfl
    rw [sorted, kept, Json.sortFields_of_ordered ordered]

theorem canonical_arr {items : List Json} (values : ∀ a ∈ items, Canonical a) : Canonical (.arr items) := by
  constructor
  · exact Json.floatFreeItems_iff.mpr fun a ha => (values a ha).free
  · have kept : sortedItems items = items := by
      rw [Json.sortedItems_eq]
      conv_rhs => rw [← List.map_id items]
      exact List.map_congr_left fun a ha => (values a ha).ordered
    rw [sorted, kept]

/-- The values of a mapping in key order, as far as all of them run. -/
theorem gathered_ordered {fields : List (String × Except AuditError Json)} {out : List (String × Json)}
    (h : gather (sortFields fields) = .ok out) : out.Pairwise fun a b => a.1 ≤ b.1 := by
  have ordered := Json.sortFields_ordered fields
  rw [gather_ok.mp h, List.pairwise_map] at ordered
  exact ordered

theorem gathered_mem {fields : List (String × Except AuditError Json)} {out : List (String × Json)}
    {f : String × Json} (h : gather (sortFields fields) = .ok out) (hf : f ∈ out) : (f.1, .ok f.2) ∈ fields := by
  rw [← Json.mem_sortFields, gather_ok.mp h]
  exact List.mem_map_of_mem hf

mutual
theorem canonicalValue_canonical : ∀ {v : Value} {a : Json}, canonicalValue v = .ok a → Canonical a
  | .none, _, h => by cases h; exact ⟨trivial, rfl⟩
  | .bool _, _, h => by cases h; exact ⟨trivial, rfl⟩
  | .int _, _, h => by cases h; exact ⟨trivial, rfl⟩
  | .float _, _, h => by cases h
  | .str _, _, h => by cases h; exact ⟨trivial, rfl⟩
  | .datetime _, _, h => by
    obtain ⟨t, -, rfl⟩ := map_ok h
    exact ⟨trivial, rfl⟩
  | .mapping items, _, h => by
    rw [canonicalValue] at h
    split at h
    · obtain ⟨fields, gathered, rfl⟩ := map_ok h
      exact canonical_obj (gathered_ordered gathered) fun f hf =>
        canonicalFields_canonical items _ (gathered_mem gathered hf) rfl
    · cases h
  | .sequence items, _, h => by
    rw [canonicalValue] at h
    obtain ⟨values, run, rfl⟩ := map_ok h
    exact canonical_arr (canonicalItems_canonical run)
  | .other _, _, h => by cases h

theorem canonicalItems_canonical : ∀ {items : List Value} {out : List Json}, canonicalItems items = .ok out →
    ∀ a ∈ out, Canonical a
  | [], _, h => by
    cases h
    intro a ha
    cases ha
  | v :: rest, _, h => by
    rw [canonicalItems] at h
    obtain ⟨a, here, h⟩ := Tx.ok_of_bind h
    obtain ⟨more, later, h⟩ := Tx.ok_of_bind h
    cases h
    intro b hb
    rcases List.mem_cons.mp hb with rfl | hb
    · exact canonicalValue_canonical here
    · exact canonicalItems_canonical later b hb

theorem canonicalFields_canonical : ∀ (items : List (MappingKey × Value)), ∀ f ∈ canonicalFields items,
    ∀ {a : Json}, f.2 = .ok a → Canonical a
  | [], _, hf => by cases hf
  | (.str k, v) :: rest, f, hf => by
    intro h
    rw [canonicalFields] at hf
    rcases List.mem_cons.mp hf with rfl | hf
    · exact canonicalValue_canonical h
    · exact canonicalFields_canonical rest f hf h
  | (.other _, _) :: rest, f, hf => by
    rw [canonicalFields] at hf
    exact canonicalFields_canonical rest f hf
end

theorem ofFields_isStr (fields : List (String × Json)) :
    ((ofFields fields).all fun item => item.1.isStr) = true := by
  induction fields with
  | nil => rfl
  | cons f rest ih => simpa [ofFields, MappingKey.isStr] using ih

mutual
/-- Canonicalising a stored document only puts its keys in order. -/
theorem canonicalValue_ofJson : ∀ {a : Json}, FloatFree a → canonicalValue (.ofJson a) = .ok (sorted a)
  | .null, _ => rfl
  | .bool _, _ => rfl
  | .int _, _ => rfl
  | .str _, _ => rfl
  | .arr items, h => by rw [Value.ofJson, canonicalValue, canonicalItems_ofItems h]; rfl
  | .obj fields, h => by
    rw [Value.ofJson, canonicalValue, if_pos (ofFields_isStr fields), canonicalFields_ofFields h, Json.sortFields_map,
      gather_ok.mpr rfl]
    rfl

theorem canonicalItems_ofItems : ∀ {items : List Json}, FloatFreeItems items →
    canonicalItems (ofItems items) = .ok (sortedItems items)
  | [], _ => rfl
  | _ :: _, h => by rw [ofItems, canonicalItems, canonicalValue_ofJson h.1, canonicalItems_ofItems h.2]; rfl

theorem canonicalFields_ofFields : ∀ {fields : List (String × Json)}, FloatFreeFields fields →
    canonicalFields (ofFields fields) = (sortedFields fields).map fun f => (f.1, .ok f.2)
  | [], _ => rfl
  | (_, _) :: _, h => by
    rw [ofFields, canonicalFields, canonicalValue_ofJson h.1, canonicalFields_ofFields h.2]
    rfl
end

mutual
theorem floatFree_of_canonicalValue : ∀ {a b : Json}, canonicalValue (.ofJson a) = .ok b → FloatFree a
  | .null, _, _ => trivial
  | .bool _, _, _ => trivial
  | .int _, _, _ => trivial
  | .float _, _, h => by cases h
  | .str _, _, _ => trivial
  | .arr items, _, h => by
    rw [Value.ofJson, canonicalValue] at h
    obtain ⟨values, run, -⟩ := map_ok h
    exact floatFree_of_canonicalItems run
  | .obj fields, _, h => by
    rw [Value.ofJson, canonicalValue, if_pos (ofFields_isStr fields)] at h
    obtain ⟨out, gathered, -⟩ := map_ok h
    apply floatFree_of_canonicalFields
    intro f hf
    rw [← Json.mem_sortFields, gather_ok.mp gathered] at hf
    obtain ⟨g, -, rfl⟩ := List.mem_map.mp hf
    exact ⟨g.2, rfl⟩

theorem floatFree_of_canonicalItems : ∀ {items out : List Json}, canonicalItems (ofItems items) = .ok out →
    FloatFreeItems items
  | [], _, _ => trivial
  | _ :: _, _, h => by
    rw [ofItems, canonicalItems] at h
    obtain ⟨a, here, h⟩ := Tx.ok_of_bind h
    obtain ⟨more, later, -⟩ := Tx.ok_of_bind h
    exact ⟨floatFree_of_canonicalValue here, floatFree_of_canonicalItems later⟩

theorem floatFree_of_canonicalFields : ∀ {fields : List (String × Json)},
    (∀ f ∈ canonicalFields (ofFields fields), ∃ b, f.2 = .ok b) → FloatFreeFields fields
  | [], _ => trivial
  | (k, a) :: rest, h => by
    rw [ofFields, canonicalFields] at h
    obtain ⟨b, here⟩ := h _ (.head _)
    exact ⟨floatFree_of_canonicalValue here, floatFree_of_canonicalFields fun f hf => h f (.tail _ hf)⟩
end

theorem canonicalValue_fixed {a : Json} (h : Canonical a) : canonicalValue (.ofJson a) = .ok a := by
  rw [canonicalValue_ofJson h.free, h.ordered]

/-- What is stored of a payload is canonical, and canonicalises to itself. -/
theorem canonicalPayload_idempotent {v : Value} {a : Json} (h : canonicalPayload v = .ok a) :
    canonicalValue v = .ok a ∧ canonicalValue (.ofJson a) = .ok a ∧ canonicalPayload (.ofJson a) = .ok a := by
  obtain ⟨b, value, h⟩ := Tx.ok_of_bind h
  cases b with
  | obj fields =>
    cases h
    have fixed := canonicalValue_fixed (canonicalValue_canonical value)
    refine ⟨value, fixed, ?_⟩
    rw [canonicalPayload, fixed]
    rfl
  | _ => cases h

theorem canonicalBytes_ofJson {a : Json} (h : FloatFree a) :
    canonicalBytes (.ofJson a) = .ok (Json.utf8 (Json.dumps a)) := by
  rw [canonicalBytes, canonicalValue_ofJson h]
  simp only [Except.map, Json.dumps, Json.sorted_sorted]

theorem canonicalBytes_free {a : Json} {bytes : List UInt8} (h : canonicalBytes (.ofJson a) = .ok bytes) :
    FloatFree a ∧ bytes = Json.utf8 (Json.dumps a) := by
  obtain ⟨b, run, -⟩ := map_ok h
  have free := floatFree_of_canonicalValue run
  rw [canonicalBytes_ofJson free] at h
  cases h
  exact ⟨free, rfl⟩

/-- Equal canonical bytes are those of documents equal up to the order of their keys. -/
theorem canonicalBytes_inj {a b : Json} {bytes : List UInt8} (ha : canonicalBytes (.ofJson a) = .ok bytes)
    (hb : canonicalBytes (.ofJson b) = .ok bytes) : sorted a = sorted b := by
  obtain ⟨freeA, bytesA⟩ := canonicalBytes_free ha
  obtain ⟨freeB, bytesB⟩ := canonicalBytes_free hb
  rw [bytesA] at bytesB
  exact (Json.dumps_inj freeA freeB).mp (Json.utf8_inj.mp bytesB)

theorem canonicalBytes_congr {a b : Json} {bytes : List UInt8} (same : sorted a = sorted b)
    (ha : canonicalBytes (.ofJson a) = .ok bytes) : canonicalBytes (.ofJson b) = .ok bytes := by
  obtain ⟨freeA, rfl⟩ := canonicalBytes_free ha
  have freeB : FloatFree b := by
    rw [← Json.floatFree_sorted, ← same, Json.floatFree_sorted]
    exact freeA
  rw [canonicalBytes_ofJson freeB, (Json.dumps_inj freeA freeB).mpr same]

end RevenueGuard
