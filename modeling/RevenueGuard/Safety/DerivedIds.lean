import RevenueGuard.Kit.Joined
import RevenueGuard.Safety.Windows

/-
Ids derived by joining. The key of a degradation and the id of an invoice event
tell their inputs apart unless the inputs are two groupings of the same pieces.
-/
namespace RevenueGuard

variable {db db' : Database} {a b : DegradationAssessment} {m m' : Identifier} {s s' : String}

/-- Two lists of parts that read alike once they are joined. -/
def Regrouped (sep : Char) (parts others : List String) : Prop :=
  Joined.Regrouped sep (parts.map String.toList) (others.map String.toList)

instance (sep : Char) (parts others : List String) : Decidable (Regrouped sep parts others) := by
  unfold Regrouped
  infer_instance

theorem joined_apart_iff {joint : String} {sep : Char} {parts others : List String} (single : joint.toList = [sep])
    (nonempty : parts ≠ []) (nonempty' : others ≠ []) :
    (joint.intercalate parts = joint.intercalate others → parts = others) ↔ ¬ Regrouped sep parts others := by
  have same_iff : parts.map String.toList = others.map String.toList ↔ parts = others :=
    (List.map_injective_iff.mpr fun _ _ => String.toList_injective).eq_iff
  have joined_iff : joint.intercalate parts = joint.intercalate others ↔
      [sep].intercalate (parts.map String.toList) = [sep].intercalate (others.map String.toList) := by
    rw [← String.toList_inj, String.toList_intercalate, String.toList_intercalate, single]
  rw [Regrouped, ← Joined.apart_iff (by simpa using nonempty) (by simpa using nonempty'), same_iff, joined_iff]

/-- Two parts read alike when what stands between two separators moves from one part to the other. -/
theorem regrouped_pair {sep : Char} {p q p' q' : String} : Regrouped sep [p, q] [p', q'] ↔
    ∃ x : String, (p' = p ++ String.singleton sep ++ x ∧ q = x ++ String.singleton sep ++ q') ∨
      (p = p' ++ String.singleton sep ++ x ∧ q' = x ++ String.singleton sep ++ q) := by
  simp only [Regrouped, List.map_cons, List.map_nil, Joined.regrouped_pair]
  constructor
  · rintro ⟨x, moved⟩
    refine ⟨String.ofList x, ?_⟩
    simpa [← String.toList_inj] using moved
  · rintro ⟨x, moved⟩
    refine ⟨x.toList, ?_⟩
    simpa [← String.toList_inj] using moved

section incidents

def DegradationAssessment.parts (a : DegradationAssessment) : List String :=
  [a.paymentMethod.val, a.issuerFamily.val, a.errorFamily.val]

theorem dimensionKey_apart_iff : (dimensionKey a = dimensionKey b → a.parts = b.parts) ↔ ¬ Regrouped '|' a.parts b.parts :=
  joined_apart_iff (by simp) (List.cons_ne_nil _ _) (List.cons_ne_nil _ _)

theorem activeIncident_found {row : IncidentRow} (found : activeIncident a db = some row) :
    row.merchantId = a.merchantId ∧ row.dimensionKey = dimensionKey a := by
  unfold activeIncident at found
  have search := List.find?_some found
  simp only [decide_eq_true_eq] at search
  obtain ⟨tenant, key, -⟩ := search
  exact ⟨tenant, key⟩

/-- Assessments fall on the same incident exactly when they are one merchant's and have the same key. -/
theorem activeIncident_iff {row : IncidentRow} (found : activeIncident a db = some row) :
    activeIncident b db = some row ↔ a.merchantId = b.merchantId ∧ dimensionKey a = dimensionKey b := by
  constructor
  · intro shared
    obtain ⟨tenant, key⟩ := activeIncident_found found
    obtain ⟨tenant', key'⟩ := activeIncident_found shared
    exact ⟨tenant.symm.trans tenant', key.symm.trans key'⟩
  · rintro ⟨tenants, keys⟩
    unfold activeIncident at found ⊢
    rw [← tenants, ← keys]
    exact found

end incidents

section events

/-- Without a collision between the two, equal tokens come from equal material. -/
def Binding (parts others : List String) : Prop :=
  stableToken parts = stableToken others → ":".intercalate parts = ":".intercalate others

theorem invoiceEventId_eq_iff : invoiceEventId m s = invoiceEventId m' s' ↔
    stableToken [m.val, s] = stableToken [m'.val, s'] := by
  rw [Subtype.ext_iff]
  exact String.append_right_inj "event_"

theorem invoiceEventId_apart_iff (binding : Binding [m.val, s] [m'.val, s']) :
    (invoiceEventId m s = invoiceEventId m' s' → m = m' ∧ s = s') ↔ ¬ Regrouped ':' [m.val, s] [m'.val, s'] := by
  have tokens : stableToken [m.val, s] = stableToken [m'.val, s'] ↔ ":".intercalate [m.val, s] = ":".intercalate [m'.val, s'] :=
    ⟨binding, fun same => by rw [stableToken, same, ← stableToken]⟩
  have parts : [m.val, s] = [m'.val, s'] ↔ m = m' ∧ s = s' := by
    simp [Subtype.ext_iff]
  rw [invoiceEventId_eq_iff, tokens, ← parts]
  exact joined_apart_iff (by simp) (List.cons_ne_nil _ _) (List.cons_ne_nil _ _)

/-- The invoices of a merchant stay out while another merchant's event has their id. -/
theorem recordOverdueInvoice_taken {e : NormalizedEvent}
    (own : ∀ e ∈ db.events, ¬ (e.merchantId = m ∧ e.source = .merchant ∧ e.sourceEventId = s))
    (stored : e ∈ db.events) (same : e.eventId = invoiceEventId m s) (o : OverdueInvoice) (t t' : Instant) :
    ∃ failure, (recordOverdueInvoice m s o t t').run db = .error failure := by
  cases ran : (recordOverdueInvoice m s o t t').run db with
  | error failure => exact ⟨failure, rfl⟩
  | ok out =>
    obtain ⟨u, db'⟩ := out
    obtain ⟨_, d1, recorded, h⟩ := Tx.bind_ok ran
    obtain ⟨_, d2, upserted, persisted⟩ := Tx.bind_ok h
    have first := recordMerchantEvent_filed m s o _ _ _ recorded
    have second := upsertOverdueInvoice_filed m o t _ _ _ upserted
    have events : d2.events = db.events := by
      rw [Filed] at first second
      rw [second, first]
    rcases persistMerchantEvent_ok persisted with ⟨⟨kept, member, source⟩, -⟩ | ⟨apart, -, -⟩
    · simp only [RevenueRiskEvent.sameSource, Bool.and_eq_true, beq_iff_eq] at source
      rw [events] at member
      exact absurd ⟨source.1.1, source.1.2, source.2⟩ (own kept member)
    · rw [events] at apart
      exact absurd same (apart e stored)

end events

theorem derived_ids_apart (tenant : a.merchantId = b.merchantId) (binding : Binding [m.val, s] [m'.val, s']) :
    ((dimensionKey a = dimensionKey b → a.parts = b.parts) ↔ ¬ Regrouped '|' a.parts b.parts) ∧
    (∀ db row, activeIncident a db = some row →
      ((activeIncident b db = some row → a.parts = b.parts) ↔ ¬ Regrouped '|' a.parts b.parts)) ∧
    ((invoiceEventId m s = invoiceEventId m' s' → m = m' ∧ s = s') ↔
      ¬ ∃ x, (m'.val = m.val ++ ":" ++ x ∧ s = x ++ ":" ++ s') ∨ (m.val = m'.val ++ ":" ++ x ∧ s' = x ++ ":" ++ s)) := by
  refine ⟨dimensionKey_apart_iff, fun db row found => ?_, ?_⟩
  · rw [activeIncident_iff found, ← dimensionKey_apart_iff]
    exact ⟨fun apart same => apart ⟨tenant, same⟩, fun apart same => apart same.2⟩
  · rw [invoiceEventId_apart_iff binding, regrouped_pair]
    rfl

def globex : Identifier := ident "globex"

/-- Failures of two banks, which nothing is regrouped between. -/
theorem derived_ids_apart_plain :
    (dimensionKey (cardsAt 0 true) = dimensionKey { cardsAt 0 true with issuerFamily := ident "ICICI" } →
      (cardsAt 0 true).parts = { cardsAt 0 true with issuerFamily := ident "ICICI" : DegradationAssessment }.parts) ∧
    (invoiceEventId acme "overdue-1" = invoiceEventId globex "overdue-1" → acme = globex ∧ "overdue-1" = "overdue-1") := by
  have binding : Binding [acme.val, "overdue-1"] [globex.val, "overdue-1"] := by
    intro same
    have different : stableToken [acme.val, "overdue-1"] ≠ stableToken [globex.val, "overdue-1"] := by decide +kernel
    exact absurd same different
  obtain ⟨keys, -, ids⟩ := derived_ids_apart (a := cardsAt 0 true) (b := { cardsAt 0 true with issuerFamily := ident "ICICI" })
    rfl binding
  have plain : ¬ Regrouped ':' [acme.val, "overdue-1"] [globex.val, "overdue-1"] := by decide +kernel
  rw [regrouped_pair] at plain
  exact ⟨keys.mpr (by decide +kernel), ids.mpr plain⟩

/-- Failures of one method and bank, and of another method and another bank with the same key. -/
def nested (second : Int) (degraded : Bool) : DegradationAssessment :=
  { cardsAt second degraded with paymentMethod := ident "CARD|VISA", issuerFamily := ident "HDFC" }

def nestedOther (second : Int) (degraded : Bool) : DegradationAssessment :=
  { cardsAt second degraded with paymentMethod := ident "CARD", issuerFamily := ident "VISA|HDFC" }

/-- The incident of one dimension, cleared by the windows of the other. -/
def clearedByOther : List Command :=
  [.applyDegradationAssessment (nested 0 true) {} (ident "incident-1"),
    .applyDegradationAssessment (nestedOther 900 false) {} (ident "incident-2"),
    .applyDegradationAssessment (nestedOther 1800 false) {} (ident "incident-3")]

set_option maxRecDepth 100000 in
theorem derived_ids_collide :
    ¬ (∀ a b : DegradationAssessment, a.merchantId = b.merchantId → dimensionKey a = dimensionKey b → a.parts = b.parts) ∧
    (∃ r ∈ (execAll {} clearedByOther {}).incidents, r.incident.incidentId = ident "incident-1" ∧ r.status = .resolved) ∧
    ¬ (∀ (m : Identifier) (s : String) (m' : Identifier) (s' : String),
      invoiceEventId m s = invoiceEventId m' s' → m = m' ∧ s = s') := by
  refine ⟨fun apart => ?_, by decide +kernel, fun apart => ?_⟩
  · have same := apart (nested 0 true) (nestedOther 0 true) rfl (by decide +kernel)
    revert same
    decide +kernel
  · have same : invoiceEventId (ident "acme") "eu:1" = invoiceEventId (ident "acme:eu") "1" := by
      rw [invoiceEventId_eq_iff, stableToken, stableToken]
      rfl
    exact absurd (apart _ _ _ _ same).2 (by decide)

end RevenueGuard
