import RevenueGuard.System
import RevenueGuard.Protocol.Recovery
import RevenueGuard.Protocol.Execution
import RevenueGuard.Protocol.Receivables

/-
The whole system as steps of the protocol: every command is a sequence of them,
or changes what surrounds the cases and moves none. What the steps keep holds in
every state a run reaches.
-/
namespace RevenueGuard

variable {db db' : Database} {rt : Runtime} {excluded : Kind → Prop}

/-- The row that a policy was published as. -/
structure PolicyVersionRow.Publishes (r : PolicyVersionRow) (p : MerchantPolicySnapshot) : Prop where
  version : r.version = p.version
  snapshot : r.snapshot = p.canonicalDocument
  digest : r.contentSha256 = p.contentDigest
  effectiveAt : r.effectiveAt = p.effectiveAt

/-- One row for a version of a merchant's policy and one for an instant, each as it was published. -/
structure PolicyTable (rows : List PolicyVersionRow) : Prop where
  versions : (rows.map fun r => (r.merchantId, r.version)).Nodup
  times : (rows.map fun r => (r.merchantId, r.effectiveAt)).Nodup
  published : ∀ r ∈ rows, ∃ p, r.Publishes p

/-- What the provider, the merchant and the portfolio monitor report. No case moves. -/
structure Ambient (db db' : Database) : Prop where
  cases : ∃ g : CaseRow → CaseRow, (∀ r : CaseRow, r.Moved r.case.state (g r)) ∧ db'.cases = db.cases.map g
  caseEvents : db'.caseEvents = db.caseEvents
  reviews : db'.reviews = db.reviews
  receipts : db'.receipts = db.receipts
  actions : db'.actions = db.actions
  outcomes : db'.outcomes = db.outcomes
  merchants : ∀ m ∈ db.merchants, m ∈ db'.merchants
  customers : ∀ m customer, db.knows m customer = true → db'.knows m customer = true
  policies : ∀ r ∈ db.policies, r ∈ db'.policies
  published : PolicyTable db.policies → PolicyTable db'.policies
  events : ∃ more, db'.events = db.events ++ more
  promises : ∀ p ∈ db'.promises, PromisedCase p.key db ∨
    ∃ row ∈ db.cases, row.key = p.key ∧ row.case.subjectType = .invoice

/-- Tables of no interest to any case. -/
theorem Ambient.unrelated (cases : db'.cases = db.cases) (caseEvents : db'.caseEvents = db.caseEvents)
    (reviews : db'.reviews = db.reviews) (receipts : db'.receipts = db.receipts) (actions : db'.actions = db.actions)
    (outcomes : db'.outcomes = db.outcomes) (merchants : db'.merchants = db.merchants)
    (customers : db'.customers = db.customers) (policies : db'.policies = db.policies) (events : db'.events = db.events)
    (promises : db'.promises.map PromiseRow.key = db.promises.map PromiseRow.key) : Ambient db db' where
  cases := ⟨fun r => r, fun _ => ⟨rfl, rfl, rfl⟩, by rw [cases, List.map_id']⟩
  caseEvents := caseEvents
  reviews := reviews
  receipts := receipts
  actions := actions
  outcomes := outcomes
  merchants := fun _ h => by rw [merchants]; exact h
  customers := fun m customer known => by rw [Database.knows, customers]; exact known
  policies := fun _ h => by rw [policies]; exact h
  published := by rw [policies]; exact id
  events := ⟨[], by rw [events, List.append_nil]⟩
  promises := fun p h => .inl (by rw [PromisedCase, ← promises]; exact List.mem_map_of_mem h)

theorem Ambient.refl (db : Database) : Ambient db db := .unrelated rfl rfl rfl rfl rfl rfl rfl rfl rfl rfl rfl

theorem Ambient.trans {d e f : Database} (h : Ambient d e) (h' : Ambient e f) : Ambient d f where
  cases := by
    obtain ⟨g, moved, seen⟩ := h.cases
    obtain ⟨g', moved', seen'⟩ := h'.cases
    refine ⟨g' ∘ g, fun r => ?_, by rw [seen', seen, List.map_map]⟩
    have after := moved' (g r)
    rw [(moved r).state] at after
    exact (moved r).trans after
  caseEvents := h'.caseEvents.trans h.caseEvents
  reviews := h'.reviews.trans h.reviews
  receipts := h'.receipts.trans h.receipts
  actions := h'.actions.trans h.actions
  outcomes := h'.outcomes.trans h.outcomes
  merchants := fun m member => h'.merchants m (h.merchants m member)
  customers := fun m customer known => h'.customers m customer (h.customers m customer known)
  policies := fun r member => h'.policies r (h.policies r member)
  published := fun table => h'.published (h.published table)
  events := by
    obtain ⟨more, seen⟩ := h.events
    obtain ⟨more', seen'⟩ := h'.events
    exact ⟨more ++ more', by rw [seen', seen, List.append_assoc]⟩
  promises := fun p member => by
    obtain ⟨g, moved, seen⟩ := h.cases
    rcases h'.promises p member with known | ⟨row, here, key, invoice⟩
    · obtain ⟨q, stored, same⟩ := List.mem_map.mp known
      rw [← same]
      exact h.promises q stored
    · rw [seen] at here
      obtain ⟨old, stored, rfl⟩ := List.mem_map.mp here
      have anchor := (moved old).anchor
      refine .inr ⟨old, stored, by rw [← key]; exact ((moved old).key_eq).symm, ?_⟩
      simp only [RecoveryCase.anchor, CaseAnchor.mk.injEq] at anchor
      rw [← anchor.2.2.2.1]
      exact invoice

theorem Ambient.caseKeys (h : Ambient db db') : db'.cases.map CaseRow.key = db.cases.map CaseRow.key := by
  obtain ⟨g, moved, seen⟩ := h.cases
  rw [seen, List.map_map]
  exact List.map_congr_left fun r _ => (moved r).key_eq

theorem Ambient.row (h : Ambient db db') (k : CaseKey) :
    (∃ row row', (view k db).row = some row ∧ (view k db').row = some row' ∧ row.Moved row.case.state row') ∨
      ((view k db).row = none ∧ (view k db').row = none) := by
  obtain ⟨g, moved, seen⟩ := h.cases
  have lookups : (view k db').row = (view k db).row.map g := by
    simp only [view, Database.caseRow, Table.lookup, seen, List.find?_map]
    congr 2
    funext r
    simp [Function.comp, show (g r).key = r.key from (moved r).key_eq]
  cases present : (view k db).row with
  | none => exact .inr ⟨rfl, by rw [lookups, present]; rfl⟩
  | some row => exact .inl ⟨row, g row, rfl, by rw [lookups, present]; rfl, moved row⟩

theorem Ambient.state (h : Ambient db db') (k : CaseKey) : (view k db').state = (view k db).state := by
  rcases h.row k with ⟨row, row', before, after, moved⟩ | ⟨before, after⟩
  · rw [CaseView.state_of before, CaseView.state_of after, moved.state]
  · rw [CaseView.state, CaseView.state, before, after]

theorem Ambient.view_actions (h : Ambient db db') (k : CaseKey) : (view k db').actions = (view k db).actions := by
  simp only [view, h.actions]

theorem Ambient.event (h : Ambient db db') {m id : Identifier} {e : NormalizedEvent} (known : db.event m id = some e) :
    db'.event m id = some e := by
  obtain ⟨more, seen⟩ := h.events
  simp only [Database.event, Table.lookup, seen, List.find?_append] at known ⊢
  rw [known]
  rfl

theorem Keyed.ambient (keyed : Keyed db) (h : Ambient db db') : Keyed db' :=
  ⟨by rw [h.caseKeys]; exact keyed.cases, by rw [h.reviews]; exact keyed.reviews⟩

section commands

variable {u : Unit}

theorem registerMerchant_ambient {m : Identifier} (h : (registerMerchant m).run db = .ok (u, db')) : Ambient db db' := by
  rw [Tx.write_ok h]
  split
  · exact .refl _
  · exact { Ambient.refl db with merchants := fun _ member => List.mem_append_left _ member }

/-- A customer once known stays known. -/
theorem knows_upsert {m customer : Identifier} (wins : CustomerRow → CustomerRow → Bool) (row : CustomerRow)
    (known : db.knows m customer = true) :
    Database.knows { db with customers := upsert CustomerRow.id wins row db.customers } m customer = true := by
  obtain ⟨c, member, named⟩ := List.any_eq_true.mp known
  have covered : ∃ c' ∈ upsert CustomerRow.id wins row db.customers, c'.id = c.id := upsert_key member
  obtain ⟨c', member', same⟩ := covered
  refine List.any_eq_true.mpr ⟨c', member', ?_⟩
  simp only [CustomerRow.id, Prod.mk.injEq] at same
  rw [same.1, same.2]
  exact named

theorem upsertCustomer_ambient {row : CustomerRow} (h : (upsertCustomer row).run db = .ok (u, db')) : Ambient db db' := by
  rw [Tx.write_ok h]
  exact { Ambient.refl db with customers := fun _ _ known => knows_upsert _ row known }

theorem upsertPayment_ambient {row : PaymentRow} (h : (upsertPayment row).run db = .ok (u, db')) : Ambient db db' := by
  rw [Tx.write_ok h]
  exact .unrelated rfl rfl rfl rfl rfl rfl rfl rfl rfl rfl rfl

theorem upsertSubscription_ambient {row : SubscriptionRow} (h : (upsertSubscription row).run db = .ok (u, db')) :
    Ambient db db' := by
  rw [Tx.write_ok h]
  exact .unrelated rfl rfl rfl rfl rfl rfl rfl rfl rfl rfl rfl

theorem Persists.ambient {event : NormalizedEvent} (h : Persists event db db') : Ambient db db' := by
  rcases h with rfl | rfl
  · exact .refl _
  · exact { Ambient.refl db with events := ⟨_, rfl⟩ }

theorem putMerchantRow_ambient {row : MerchantRow} (h : (putMerchantRow row).run db = .ok (u, db')) :
    Ambient db db' := by
  cases row <;> rw [Tx.write_ok h] <;> exact .unrelated rfl rfl rfl rfl rfl rfl rfl rfl rfl rfl rfl

/-- Publishing finds the version with this content already there, or adds it at a time of its own. -/
theorem publishPolicy_ok {m : Identifier} {policy : MerchantPolicySnapshot} {u : Unit}
    (h : (publishPolicy m policy).run db = .ok (u, db')) :
    (∃ row ∈ db.policies, row.merchantId = m ∧ row.version = policy.version ∧ row.contentSha256 = policy.contentDigest ∧
      db' = db) ∨
    (∀ r ∈ db.policies, r.merchantId = m → r.version ≠ policy.version) ∧
      (∀ r ∈ db.policies, r.merchantId = m → r.effectiveAt ≠ policy.effectiveAt) ∧
      ∃ row : PolicyVersionRow, row.merchantId = m ∧ row.Publishes policy ∧
        db' = { db with policies := db.policies ++ [row] } := by
  obtain ⟨_, _, read, h⟩ := Tx.bind_ok h
  obtain ⟨rfl, rfl⟩ := Tx.read_ok read
  split at h
  · rename_i row found
    obtain ⟨content, rfl⟩ := Tx.check_ok h
    have here := List.find?_some found
    simp only [decide_eq_true_eq] at here
    exact .inl ⟨row, List.mem_of_find?_eq_some found, here.1, here.2, content, rfl⟩
  · rename_i absent
    obtain ⟨_, _, read, h⟩ := Tx.bind_ok h
    obtain ⟨rfl, rfl⟩ := Tx.read_ok read
    obtain ⟨_, _, checked, h⟩ := Tx.bind_ok h
    obtain ⟨apart, rfl⟩ := Tx.check_ok checked
    refine .inr ⟨fun r member merchant version => ?_, fun r member merchant time => ?_, _, rfl, ⟨rfl, rfl, rfl, rfl⟩,
      Tx.write_ok h⟩
    · have other := List.find?_eq_none.mp absent r member
      simp [merchant, version] at other
    · have other := List.any_eq_false.mp apart r member
      simp [merchant, time] at other

theorem publishPolicy_ambient {m : Identifier} {policy : MerchantPolicySnapshot}
    (h : (publishPolicy m policy).run db = .ok (u, db')) : Ambient db db' := by
  rcases publishPolicy_ok h with ⟨row, -, -, -, -, rfl⟩ | ⟨fresh, apart, row, merchant, publishes, rfl⟩
  · exact .refl _
  · refine { Ambient.refl db with policies := fun _ member => List.mem_append_left _ member, published := fun table => ?_ }
    constructor
    · refine @Table.nodup_append_new _ _ _ (fun r : PolicyVersionRow => (r.merchantId, r.version)) _ _ table.versions
        (Table.lookup_none.mpr fun r member same => ?_)
      rw [merchant, publishes.version] at same
      exact fresh r member (congrArg Prod.fst same) (congrArg Prod.snd same)
    · refine @Table.nodup_append_new _ _ _ (fun r : PolicyVersionRow => (r.merchantId, r.effectiveAt)) _ _ table.times
        (Table.lookup_none.mpr fun r member same => ?_)
      rw [merchant, publishes.effectiveAt] at same
      exact apart r member (congrArg Prod.fst same) (congrArg Prod.snd same)
    · intro r member
      rcases List.mem_append.mp member with old | new
      · exact table.published r old
      · rw [List.mem_singleton.mp new]
        exact ⟨policy, publishes⟩

theorem closeExpiredCustomerInterventions_ambient {t : Instant} {limit n : Nat}
    (h : (closeExpiredCustomerInterventions rt t limit).run db = .ok (n, db')) : Ambient db db' := by
  obtain ⟨_, _, checked, h⟩ := Tx.bind_ok h
  obtain ⟨-, rfl⟩ := Tx.check_ok checked
  obtain ⟨rows, _, read, h⟩ := Tx.bind_ok h
  obtain ⟨-, rfl⟩ := Tx.read_ok read
  obtain ⟨_, _, written, h⟩ := Tx.bind_ok h
  have written := Tx.write_ok written
  obtain ⟨-, rfl⟩ := Tx.pure_ok h
  rw [written]
  exact .unrelated rfl rfl rfl rfl rfl rfl rfl rfl rfl rfl rfl

theorem mapCases_ambient {g : CaseRow → CaseRow} (moves : ∀ r : CaseRow, r.Moved r.case.state (g r))
    (incidents : List IncidentRow) (links : List IncidentCaseLink) :
    Ambient db { db with cases := db.cases.map g, incidents := incidents, incidentLinks := links } :=
  { Ambient.refl db with cases := ⟨g, moves, rfl⟩ }

theorem setIncident_ambient {row : IncidentRow} (h : (setIncident row).run db = .ok (u, db')) : Ambient db db' := by
  rw [Tx.write_ok h]
  exact .unrelated rfl rfl rfl rfl rfl rfl rfl rfl rfl rfl rfl

theorem attachAffectedCases_ambient {incident : IncidentConstraint} {a : DegradationAssessment}
    (h : (attachAffectedCases rt incident a).run db = .ok (u, db')) : Ambient db db' := by
  rw [Tx.write_ok h]
  refine mapCases_ambient (fun r => ?_) _ _
  split
  · exact (attach_moved r incident).trans (flushed_moved _ _ _ _)
  · exact ⟨rfl, rfl, rfl⟩

theorem resume_moved (incidentId : Identifier) (t : Instant) (r : CaseRow) :
    r.Moved r.case.state (r.resume incidentId t) := by
  unfold CaseRow.resume
  split <;> exact ⟨rfl, rfl, rfl⟩

theorem flushed_resume_moved (incidentId : Identifier) (resume t : Instant) (r : CaseRow) :
    r.Moved r.case.state ((r.resume incidentId resume).flushed rt t r.case.activeIncidentId) := by
  have resumed := resume_moved incidentId resume r
  have stamped := flushed_moved rt t r.case.activeIncidentId (r.resume incidentId resume)
  rw [resumed.state] at stamped
  exact resumed.trans stamped

theorem resolveIncident_ambient {row : IncidentRow} {t : Instant}
    (h : (resolveIncident rt row t).run db = .ok (u, db')) : Ambient db db' := by
  obtain ⟨order, _, read, h⟩ := Tx.bind_ok h
  obtain ⟨-, rfl⟩ := Tx.read_ok read
  obtain ⟨incident, _, lifted, h⟩ := Tx.bind_ok h
  obtain ⟨-, rfl⟩ := Tx.lift_ok lifted
  obtain ⟨_, d1, set, h⟩ := Tx.bind_ok h
  refine (setIncident_ambient set).trans ?_
  rw [Tx.write_ok h]
  refine mapCases_ambient (fun r => ?_) _ _
  split
  · exact flushed_resume_moved _ _ _ r
  · exact ⟨rfl, rfl, rfl⟩

theorem clearWindow_ambient {a : DegradationAssessment} {policy : DegradationPolicy} {row : IncidentRow}
    (h : (clearWindow rt a policy row).run db = .ok (u, db')) : Ambient db db' := by
  unfold clearWindow at h
  split at h
  · obtain ⟨-, rfl⟩ := Tx.pure_ok h
    exact .refl _
  · dsimp only at h
    split at h
    · exact resolveIncident_ambient h
    · obtain ⟨incident, _, lifted, h⟩ := Tx.bind_ok h
      obtain ⟨-, rfl⟩ := Tx.lift_ok lifted
      exact setIncident_ambient h

theorem extendIncident_ambient {a : DegradationAssessment} {policy : DegradationPolicy} {row : IncidentRow}
    (h : (extendIncident rt a policy row).run db = .ok (u, db')) : Ambient db db' := by
  obtain ⟨incident, _, lifted, h⟩ := Tx.bind_ok h
  obtain ⟨-, rfl⟩ := Tx.lift_ok lifted
  obtain ⟨_, d1, set, h⟩ := Tx.bind_ok h
  exact (setIncident_ambient set).trans (attachAffectedCases_ambient h)

theorem applyDegradationAssessment_ambient {a : DegradationAssessment} {policy : DegradationPolicy}
    {incidentId : Identifier} (h : (applyDegradationAssessment rt a policy incidentId).run db = .ok (u, db')) :
    Ambient db db' := by
  obtain ⟨active, _, read, h⟩ := Tx.bind_ok h
  obtain ⟨-, rfl⟩ := Tx.read_ok read
  split at h
  · split at h
    · exact extendIncident_ambient h
    · exact clearWindow_ambient h
  · split at h
    · obtain ⟨_, _, read, h⟩ := Tx.bind_ok h
      obtain ⟨-, rfl⟩ := Tx.read_ok read
      obtain ⟨_, _, checked, h⟩ := Tx.bind_ok h
      obtain ⟨-, rfl⟩ := Tx.check_ok checked
      obtain ⟨_, d1, written, h⟩ := Tx.bind_ok h
      refine Ambient.trans ?_ (attachAffectedCases_ambient h)
      rw [Tx.write_ok written]
      exact .unrelated rfl rfl rfl rfl rfl rfl rfl rfl rfl rfl rfl
    · obtain ⟨-, rfl⟩ := Tx.pure_ok h
      exact .refl _

theorem recordMerchantEvent_ambient {m : Identifier} {source : String} {o : OverdueInvoice}
    (h : (recordMerchantEvent m source o).run db = .ok (u, db')) : Ambient db db' := by
  obtain ⟨_, _, read, h⟩ := Tx.bind_ok h
  obtain ⟨rfl, rfl⟩ := Tx.read_ok read
  split at h
  · rw [← (Tx.check_ok h).2]
    exact .refl _
  · rw [Tx.write_ok h]
    exact .unrelated rfl rfl rfl rfl rfl rfl rfl rfl rfl rfl rfl

theorem upsertOverdueInvoice_ambient {m : Identifier} {o : OverdueInvoice} {t : Instant}
    (h : (upsertOverdueInvoice m o t).run db = .ok (u, db')) : Ambient db db' := by
  obtain ⟨_, _, read, h⟩ := Tx.bind_ok h
  obtain ⟨rfl, rfl⟩ := Tx.read_ok read
  obtain ⟨_, _, read, h⟩ := Tx.bind_ok h
  obtain ⟨rfl, rfl⟩ := Tx.read_ok read
  obtain ⟨_, _, checked, h⟩ := Tx.bind_ok h
  obtain ⟨-, rfl⟩ := Tx.check_ok checked
  split at h
  · rw [Tx.write_ok h]
    exact .unrelated rfl rfl rfl rfl rfl rfl rfl rfl rfl rfl rfl
  · obtain ⟨_, _, checked, h⟩ := Tx.bind_ok h
    obtain ⟨-, rfl⟩ := Tx.check_ok checked
    rw [Tx.write_ok h]
    exact .unrelated rfl rfl rfl rfl rfl rfl rfl rfl rfl rfl rfl

theorem recordOverdueInvoice_ambient {m : Identifier} {source : String} {o : OverdueInvoice} {t t' : Instant}
    (h : (recordOverdueInvoice m source o t t').run db = .ok (u, db')) : Ambient db db' := by
  obtain ⟨_, d1, recorded, h⟩ := Tx.bind_ok h
  obtain ⟨_, d2, invoiced, h⟩ := Tx.bind_ok h
  exact ((recordMerchantEvent_ambient recorded).trans (upsertOverdueInvoice_ambient invoiced)).trans
    (persistMerchantEvent_persists _ _ _ _ h).ambient

theorem updateInvoice_ambient (m id : Identifier) (f : InvoiceRow → InvoiceRow) : Ambient db (updateInvoice m id f db) :=
  .unrelated rfl rfl rfl rfl rfl rfl rfl rfl rfl rfl rfl

theorem updatePromises_ambient {p : PromiseRow → Bool} {f : PromiseRow → PromiseRow} (keeps : ∀ r, (f r).key = r.key) :
    Ambient db (updatePromises p f db) :=
  .unrelated rfl rfl rfl rfl rfl rfl rfl rfl rfl rfl (updatePromises_unseen keeps).kept.promises

theorem storeReceivableEscalation_ambient {row : ReceivableEscalationRow}
    (h : (storeReceivableEscalation row).run db = .ok (u, db')) : Ambient db db' := by
  obtain ⟨_, _, read, h⟩ := Tx.bind_ok h
  obtain ⟨rfl, rfl⟩ := Tx.read_ok read
  split at h
  · obtain ⟨-, rfl⟩ := Tx.pure_ok h
    exact .refl _
  · rw [Tx.write_ok h]
    exact .unrelated rfl rfl rfl rfl rfl rfl rfl rfl rfl rfl rfl

theorem freezeAndEscalate_ambient {row : ReceivableEscalationRow} {status : InvoiceStatus} {from_ : List InvoiceStatus}
    {ended : PromiseStatus} (h : (freezeAndEscalate row status from_ ended).run db = .ok (u, db')) : Ambient db db' := by
  obtain ⟨_, d1, frozen, h⟩ := Tx.bind_ok h
  obtain ⟨_, d2, done, h⟩ := Tx.bind_ok h
  refine Ambient.trans ?_ (storeReceivableEscalation_ambient h)
  rw [Tx.write_ok done, Tx.write_ok frozen]
  exact (updateInvoice_ambient _ _ _).trans (updatePromises_ambient fun _ => rfl)

theorem storeCustomerResponse_ambient {response : CustomerResponseRow} {extraction : PromiseExtraction}
    {stored : CustomerResponseRow × Bool} (h : (storeCustomerResponse response extraction).run db = .ok (stored, db')) :
    Ambient db db' ∧ (stored.2 = true → stored.1 = response) := by
  obtain ⟨_, _, checked, h⟩ := Tx.bind_ok h
  obtain ⟨-, rfl⟩ := Tx.check_ok checked
  obtain ⟨_, _, read, h⟩ := Tx.bind_ok h
  obtain ⟨rfl, rfl⟩ := Tx.read_ok read
  split at h
  · obtain ⟨_, _, checked, h⟩ := Tx.bind_ok h
    obtain ⟨-, rfl⟩ := Tx.check_ok checked
    obtain ⟨rfl, rfl⟩ := Tx.pure_ok h
    exact ⟨.refl _, fun new => by cases new⟩
  · obtain ⟨_, d1, written, h⟩ := Tx.bind_ok h
    have written := Tx.write_ok written
    obtain ⟨rfl, rfl⟩ := Tx.pure_ok h
    rw [written]
    exact ⟨.unrelated rfl rfl rfl rfl rfl rfl rfl rfl rfl rfl rfl, fun _ => rfl⟩

/-- Promises are made for the invoice case the reply was found to belong to. -/
theorem storePromise_ambient {promise : PromiseToPay} {row : CaseRow} (member : row ∈ db.cases)
    (key : row.key = ⟨promise.merchantId, promise.caseId⟩) (invoice : row.case.subjectType = .invoice)
    (h : (storePromise promise).run db = .ok (u, db')) : Ambient db db' := by
  obtain ⟨_, _, read, h⟩ := Tx.bind_ok h
  obtain ⟨rfl, rfl⟩ := Tx.read_ok read
  split at h
  · obtain ⟨-, rfl⟩ := Tx.pure_ok h
    exact .refl _
  · obtain ⟨_, d1, written, h⟩ := Tx.bind_ok h
    rw [Tx.write_ok h, Tx.write_ok written]
    refine Ambient.trans ?_ (updateInvoice_ambient _ _ _)
    refine { Ambient.refl db with promises := fun p stored => ?_ }
    rcases List.mem_append.mp stored with old | new
    · exact .inl (List.mem_map_of_mem old)
    · rw [List.mem_singleton] at new
      subst new
      exact .inr ⟨row, member, key, invoice⟩

theorem createPromise_parties {parties : PromiseParties} {n : Nat} {c : Currency} {e : PromiseExtraction} {t : Instant}
    {promise : PromiseToPay} (h : createPromise parties n c e t = .ok promise) :
    promise.merchantId = parties.merchantId ∧ promise.caseId = parties.caseId ∧ promise.invoiceId = parties.invoiceId := by
  unfold createPromise at h
  obtain ⟨_, -, h⟩ := except_bind_ok h
  split at h
  · cases h
  · obtain ⟨_, -, h⟩ := except_bind_ok h
    obtain ⟨_, -, h⟩ := except_bind_ok h
    obtain ⟨_, -, h⟩ := except_bind_ok h
    obtain ⟨_, -, h⟩ := except_bind_ok h
    obtain ⟨_, -, h⟩ := except_bind_ok h
    cases h
    exact ⟨rfl, rfl, rfl⟩

theorem applyResponse_ambient {response : CustomerResponseRow} {invoiceRow : InvoiceRow} {extraction : PromiseExtraction}
    {out : CustomerResponseResult} {row : CaseRow} (member : row ∈ db.cases)
    (key : row.key = ⟨response.responseId.merchantId, response.caseId⟩) (invoice : row.case.subjectType = .invoice)
    (h : (applyResponse response invoiceRow extraction).run db = .ok (out, db')) : Ambient db db' := by
  unfold applyResponse at h
  dsimp only at h
  split at h
  · obtain ⟨promise, _, lifted, h⟩ := Tx.bind_ok h
    obtain ⟨made, rfl⟩ := Tx.lift_ok lifted
    obtain ⟨_, d1, stored, h⟩ := Tx.bind_ok h
    obtain ⟨-, rfl⟩ := Tx.pure_ok h
    obtain ⟨merchant, caseId, -⟩ := createPromise_parties made
    exact storePromise_ambient member (by rw [key, merchant, caseId]) invoice stored
  · obtain ⟨_, d1, frozen, h⟩ := Tx.bind_ok h
    obtain ⟨-, rfl⟩ := Tx.pure_ok h
    exact freezeAndEscalate_ambient frozen
  · obtain ⟨_, d1, frozen, h⟩ := Tx.bind_ok h
    obtain ⟨-, rfl⟩ := Tx.pure_ok h
    exact freezeAndEscalate_ambient frozen
  · obtain ⟨_, d1, escalated, h⟩ := Tx.bind_ok h
    obtain ⟨-, rfl⟩ := Tx.pure_ok h
    exact storeReceivableEscalation_ambient escalated

theorem recordCustomerResponse_ambient {m invoiceId : Identifier} {source body : String} {reply : Option PromiseExtraction}
    {t : Instant} {out : CustomerResponseResult}
    (h : (recordCustomerResponse m source invoiceId body reply t).run db = .ok (out, db')) : Ambient db db' := by
  obtain ⟨_, _, read, h⟩ := Tx.bind_ok h
  obtain ⟨rfl, rfl⟩ := Tx.read_ok read
  obtain ⟨invoice, _, found, h⟩ := Tx.bind_ok h
  obtain ⟨-, rfl⟩ := Tx.found_ok found
  obtain ⟨_, _, read, h⟩ := Tx.bind_ok h
  obtain ⟨rfl, rfl⟩ := Tx.read_ok read
  obtain ⟨row, _, found, h⟩ := Tx.bind_ok h
  obtain ⟨active, rfl⟩ := Tx.found_ok found
  obtain ⟨extraction, _, lifted, h⟩ := Tx.bind_ok h
  obtain ⟨-, rfl⟩ := Tx.lift_ok lifted
  obtain ⟨stored, d1, responded, h⟩ := Tx.bind_ok h
  obtain ⟨ambient, new⟩ := storeCustomerResponse_ambient responded
  refine ambient.trans ?_
  split at h
  · rename_i fresh
    have spec := List.find?_some active
    simp only [decide_eq_true_eq] at spec
    obtain ⟨merchant, -, invoiceCase, -⟩ := spec
    have member := List.mem_of_find?_eq_some active
    obtain ⟨g, moves, seen⟩ := ambient.cases
    have stays : g row ∈ d1.cases := by rw [seen]; exact List.mem_map_of_mem member
    refine applyResponse_ambient stays ?_ ?_ h
    · rw [new fresh, (moves row).key_eq, CaseRow.key, RecoveryCase.key, merchant]
    · have anchor := (moves row).anchor
      simp only [RecoveryCase.anchor, CaseAnchor.mk.injEq] at anchor
      rw [anchor.2.2.2.1]
      exact invoiceCase
  · obtain ⟨-, rfl⟩ := Tx.pure_ok h
    exact .refl _

theorem setPromise_ambient {promise : PromiseRow} {f : PromiseRow → PromiseRow} (keeps : ∀ r, (f r).key = r.key) :
    Ambient db (setPromise promise f db) := updatePromises_ambient keeps

theorem escalateBrokenPromise_ambient {t : Instant} {promise : PromiseRow} {out : PromiseMaintenanceResult}
    (h : (escalateBrokenPromise t promise).run db = .ok (out, db')) : Ambient db db' := by
  obtain ⟨_, _, read, h⟩ := Tx.bind_ok h
  obtain ⟨rfl, rfl⟩ := Tx.read_ok read
  obtain ⟨invoice, _, found, h⟩ := Tx.bind_ok h
  obtain ⟨-, rfl⟩ := Tx.found_ok found
  split at h
  · obtain ⟨_, d1, written, h⟩ := Tx.bind_ok h
    have written := Tx.write_ok written
    obtain ⟨-, rfl⟩ := Tx.pure_ok h
    rw [written]
    exact setPromise_ambient fun _ => rfl
  · obtain ⟨_, d1, written, h⟩ := Tx.bind_ok h
    obtain ⟨_, d2, frozen, h⟩ := Tx.bind_ok h
    obtain ⟨_, d3, escalated, h⟩ := Tx.bind_ok h
    obtain ⟨-, rfl⟩ := Tx.pure_ok h
    have broken : Ambient db d1 := by
      rw [Tx.write_ok written]
      exact setPromise_ambient fun _ => rfl
    have stopped : Ambient d1 d2 := by
      rw [Tx.write_ok frozen]
      exact updateInvoice_ambient _ _ _
    exact (broken.trans stopped).trans (storeReceivableEscalation_ambient escalated)

theorem escalateBrokenPromises_ambient {t : Instant} {limit : Nat} {out : List PromiseMaintenanceResult}
    (h : (escalateBrokenPromises rt t limit).run db = .ok (out, db')) : Ambient db db' := by
  obtain ⟨_, _, checked, h⟩ := Tx.bind_ok h
  obtain ⟨-, rfl⟩ := Tx.check_ok checked
  obtain ⟨_, _, read, h⟩ := Tx.bind_ok h
  obtain ⟨rfl, rfl⟩ := Tx.read_ok read
  exact Tx.Closed.each ⟨Ambient.refl, Ambient.trans⟩ (fun promise _ _ _ body => escalateBrokenPromise_ambient body) _ _ _ _ h

end commands

/-- The command, taken in `db`, is none of the excluded kinds. -/
def Command.Avoids (rt : Runtime) (excluded : Kind → Prop) : Command → Database → Prop
  | .processEvent inputs m e caseId t, db => EventAvoids rt excluded inputs m e caseId t db
  | .reevaluateDeferred inputs t limit, db =>
    Tx.Along (reevaluateRow rt inputs t) (WakeAvoids rt excluded inputs t) (dueDeferredCases t limit db) db
  | .decideReview inputs m decision t, db => ReviewAvoids rt excluded inputs m decision t db
  | .scheduleDuePromiseReminders t limit, db =>
    Tx.Along (remindPromise rt t) (ReminderAvoids rt excluded t)
      (duePromises rt (·.reminderAt) (reminderDue t) limit db) db
  | .prepareExecution id _ t, db => PrepareAvoids rt excluded id t db
  | .recordExecutionResult .., _ => ¬ excluded .reported
  | .markStaleCallsUnknown .., _ => ¬ excluded .lost
  | .recordLookup id result, db => LookupAvoids excluded id result db
  | .verifySignedEvent event _, db => VerifyAvoids rt excluded event db
  | _, _ => True

instance [DecidablePred excluded] (c : Command) (db : Database) : Decidable (c.Avoids rt excluded db) := by
  cases c <;> dsimp only [Command.Avoids] <;> infer_instance

/-- The kinds that provider calls alone take. -/
def callKinds : List Kind := [.cancelInFlight, .reported, .lost]

/-- Where only kinds of provider calls are excluded, only the commands of provider calls are limited. -/
theorem Command.avoids_calls {c : Command} (only : ∀ kind, excluded kind → kind ∈ callKinds)
    (prepare : ∀ id token t, c = .prepareExecution id token t → PrepareAvoids rt excluded id t db)
    (report : ∀ id token result, c = .recordExecutionResult id token result → ¬ excluded .reported)
    (lose : ∀ now limit, c = .markStaleCallsUnknown now limit → ¬ excluded .lost) : c.Avoids rt excluded db := by
  have other : ∀ {kind}, kind ∉ callKinds → ¬ excluded kind := fun absent ex => absent (only _ ex)
  have evaluates : ∀ inputs r d, EvaluationAvoids rt excluded inputs r d := fun _ _ _ ex => absurd ex (other (by decide))
  have routes : ∀ inputs (routed : Routed) d, routed.Avoids rt excluded inputs d := by
    intro inputs routed d
    cases routed with
    | done => trivial
    | evaluate r => exact evaluates inputs r d
  cases c with
  | processEvent inputs m e caseId t =>
    exact ⟨fun ex => absurd ex (other (by decide)), fun routed middle _ => routes inputs routed middle⟩
  | reevaluateDeferred inputs t limit =>
    exact Tx.along_of (fun _ _ _ _ _ => evaluates _ _ _) _ _
  | decideReview inputs m decision t => exact fun routed middle _ => routes inputs routed middle
  | scheduleDuePromiseReminders t limit =>
    exact Tx.along_of (fun _ _ _ _ _ _ _ =>
      ⟨fun ex => absurd ex (other (by decide)), fun ex => absurd ex (other (by decide))⟩) _ _
  | prepareExecution id token t => exact prepare id token t rfl
  | recordExecutionResult id token result => exact report id token result rfl
  | markStaleCallsUnknown now limit => exact lose now limit rfl
  | recordLookup id result =>
    exact fun _ _ _ _ _ => ⟨fun ex => absurd ex (other (by decide)), fun ex => absurd ex (other (by decide)),
      fun ex => absurd ex (other (by decide))⟩
  | verifySignedEvent event webhook => exact fun ex => absurd ex (other (by decide))
  | _ => trivial

/-- Where nothing is excluded every command is allowed. -/
theorem Command.avoids_nothing (rt : Runtime) (c : Command) (db : Database) : c.Avoids rt (fun _ => False) db :=
  Command.avoids_calls (fun _ no => no.elim) (fun _ _ _ _ no => no.elim) (fun _ _ _ _ no => no) fun _ _ _ no => no

theorem commit_simulated {A : Type} {x : Transaction A}
    (committed : ∀ {a db'}, x.run db = .ok (a, db') → Steps excluded db db' ∨ Ambient db db') :
    Steps excluded db (x.commit db) ∨ Ambient db (x.commit db) :=
  Tx.commit_relates (R := fun d e => Steps excluded d e ∨ Ambient d e) (.inl (.refl db)) committed

/-- Every command is steps of the protocol, or moves no case. -/
theorem exec_simulated (keyed : Keyed db) (c : Command) (avoids : c.Avoids rt excluded db) :
    Steps excluded db (exec rt c db) ∨ Ambient db (exec rt c db) := by
  cases c with
  | registerMerchant m => exact commit_simulated fun h => .inr (registerMerchant_ambient h)
  | upsertCustomer row => exact commit_simulated fun h => .inr (upsertCustomer_ambient h)
  | upsertPayment row => exact commit_simulated fun h => .inr (upsertPayment_ambient h)
  | upsertSubscription row => exact commit_simulated fun h => .inr (upsertSubscription_ambient h)
  | persistNormalizedEvent event => exact commit_simulated fun h => .inr (persistNormalizedEvent_persists event _ _ _ h).ambient
  | putMerchantRow row => exact commit_simulated fun h => .inr (putMerchantRow_ambient h)
  | publishPolicy m policy => exact commit_simulated fun h => .inr (publishPolicy_ambient h)
  | applyDegradationAssessment a policy id => exact commit_simulated fun h => .inr (applyDegradationAssessment_ambient h)
  | processEvent inputs m e caseId t => exact commit_simulated fun h => .inl (processEvent_steps keyed avoids h)
  | reevaluateDeferred inputs t limit => exact commit_simulated fun h => .inl (reevaluateDeferred_steps keyed avoids h)
  | decideReview inputs m decision t => exact commit_simulated fun h => .inl (decideReviewRequest_steps keyed avoids h)
  | closeExpiredCustomerInterventions t limit =>
    exact commit_simulated fun h => .inr (closeExpiredCustomerInterventions_ambient h)
  | recordOverdueInvoice m source invoice t t' => exact commit_simulated fun h => .inr (recordOverdueInvoice_ambient h)
  | recordCustomerResponse m source invoiceId body reply t =>
    exact commit_simulated fun h => .inr (recordCustomerResponse_ambient h)
  | scheduleDuePromiseReminders t limit =>
    exact commit_simulated fun h => .inl (scheduleDuePromiseReminders_steps avoids h)
  | escalateBrokenPromises t limit => exact commit_simulated fun h => .inr (escalateBrokenPromises_ambient h)
  | claimDueActions tokens now leaseFor limit => exact commit_simulated fun h => .inl (claimDueActions_steps h)
  | prepareExecution id token t => exact commit_simulated fun h => .inl (.single (prepareExecution_step avoids h))
  | recordExecutionResult id token result =>
    exact commit_simulated fun h => .inl (.single (recordExecutionResult_step avoids h))
  | markStaleCallsUnknown now limit => exact commit_simulated fun h => .inl (markStaleCallsUnknown_steps avoids h)
  | recordLookup id result => exact commit_simulated fun h => .inl (.single (recordLookup_step avoids h))
  | verifySignedEvent event webhook => exact commit_simulated fun h => .inl (.single (verifySignedEvent_step avoids h))

/-- What every protocol step and every ambient command keeps holds in every state a run reaches. -/
theorem ReachableUnder.invariant (Inv : Database → Prop) (base : Inv {})
    (step : ∀ {d e}, Keyed d → Step excluded d e → Inv d → Inv e)
    (ambient : ∀ {d e}, Keyed d → Ambient d e → Inv d → Inv e)
    (reach : ReachableUnder rt (Command.Avoids rt excluded) db) : Keyed db ∧ Inv db := by
  refine Runs.Reaches.invariant (fun db => Keyed db ∧ Inv db) reach ⟨⟨List.nodup_nil, List.nodup_nil⟩, base⟩
    fun c db' both ok => ?_
  rcases exec_simulated both.1 c ok with steps | changed
  · exact steps.invariant (fun db => Keyed db ∧ Inv db) both
      fun s h => ⟨h.1.kept s.kept, step h.1 s h.2⟩
  · exact ⟨both.1.ambient changed, ambient both.1 changed both.2⟩

theorem ReachableUnder.keyed (reach : ReachableUnder rt (Command.Avoids rt excluded) db) : Keyed db :=
  (reach.invariant (fun _ => True) trivial (fun _ _ _ => trivial) fun _ _ _ => trivial).1

theorem reaches_runAvoids {cs : List Command} (avoids : Runs.Allowed (exec rt) (Command.Avoids rt excluded) cs db) :
    Runs.Reaches (exec rt) (Command.Avoids rt excluded) db (execAll rt cs db) := Runs.reaches_allowed avoids

theorem Reachable.under (reach : Reachable rt db) : ReachableUnder rt (Command.Avoids rt fun _ => False) db :=
  reach.mono fun c db _ => c.avoids_nothing rt db

end RevenueGuard
