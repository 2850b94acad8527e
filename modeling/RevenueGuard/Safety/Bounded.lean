import RevenueGuard.Kit.Sums
import RevenueGuard.Safety.CaseTime

/-
Bounded autonomy. Retries of a case and contacts of a customer only grow, one at
a time, and each step starts below the limit of the policy in force, so no
counter passes the largest limit its merchant ever published.
-/
namespace RevenueGuard

variable {rt : Runtime} {w : Writer} {db db' d e : Database} {k : CaseKey} {row row' : CaseRow} {new : List CaseTransition}
  {m customer : Identifier}

/-- A counter taken from `n` to `n'`: every value it left was below the limit. -/
structure Raised (below : Nat → Prop) (n n' : Nat) : Prop where
  grows : n ≤ n'
  each : ∀ i, n ≤ i → i < n' → below i

theorem Raised.refl (below : Nat → Prop) (n : Nat) : Raised below n n := ⟨le_refl n, fun _ _ _ => by omega⟩

theorem Raised.step {below : Nat → Prop} {n n' : Nat} (h : Raised below n n') (one : below n') : Raised below n (n' + 1) := by
  refine ⟨h.grows.trans (Nat.le_succ n'), fun i low high => ?_⟩
  rcases Nat.lt_succ_iff_lt_or_eq.mp high with earlier | last
  · exact h.each i low earlier
  · rw [last]
    exact one

/-- A counter whose every step starts below `limit` stays within it. -/
theorem Raised.within {below : Nat → Prop} {n n' limit : Nat} (h : Raised below n n') (start : n ≤ limit)
    (under : ∀ i, below i → i < limit) : n' ≤ limit := by
  rcases Nat.lt_or_ge n n' with raised | same
  · have last := under (n' - 1) (h.each (n' - 1) (by omega) (by omega))
    omega
  · omega

def RetriesBelow (m : Identifier) (t : Instant) (db : Database) (n : Nat) : Prop :=
  ∃ policy, InForce m t policy db ∧ n < policy.retryLimit

def ContactsBelow (m : Identifier) (t : Instant) (db : Database) (n : Nat) : Prop :=
  ∃ policy, InForce m t policy db ∧ n < policy.contactLimit

def retries (k : CaseKey) (db : Database) : Nat := ((db.caseRow k).map (·.case.retryCount)).getD 0

def contacts (k : CaseKey) (db : Database) : Nat := ((db.caseRow k).map (·.case.contactCount)).getD 0

/-- The contacts of all the customer's cases, as `customer_contact_snapshot` adds them up. -/
def customerContacts (m customer : Identifier) (db : Database) : Nat :=
  (contactSnapshot m customer db).aggregateContactCount

theorem retries_of (found : db.caseRow k = some row) : retries k db = row.case.retryCount := by
  rw [retries, found]
  rfl

theorem contacts_of (found : db.caseRow k = some row) : contacts k db = row.case.contactCount := by
  rw [contacts, found]
  rfl

theorem retryCount_of_ledger {ledger : CaseLedger} (h : row.case.ledger = ledger) : row.case.retryCount = ledger.retryCount :=
  congrArg CaseLedger.retryCount h

theorem contactCount_of_ledger {ledger : CaseLedger} (h : row.case.ledger = ledger) :
    row.case.contactCount = ledger.contactCount := congrArg CaseLedger.contactCount h

theorem merchant_of_key (here : row.key = k) : row.case.merchantId = k.merchantId := congrArg CaseKey.merchantId here

section case

/-- What one write does to the counters of a case. -/
theorem CaseWrite.counters (h : CaseWrite w d e) (k : CaseKey) : contacts k d ≤ contacts k e ∧
    (retries k e = retries k d ∨ retries k e = retries k d + 1 ∧ RetriesBelow k.merchantId w.now d (retries k d)) := by
  obtain ⟨new, -, step⟩ := h.caseStep k
  generalize before : d.caseRow k = found at step
  generalize after : e.caseRow k = found' at step
  cases step with
  | absent =>
    rw [contacts, contacts, retries, retries, before, after]
    exact ⟨le_refl _, .inl rfl⟩
  | created row event here fresh =>
    rw [contacts_of after, retries_of after, contacts, retries, before, fresh.retries, fresh.contacts]
    exact ⟨le_refl _, .inl rfl⟩
  | kept row row' stamped =>
    rw [contacts_of before, contacts_of after, retries_of before, retries_of after, contactCount_of_ledger stamped.ledger,
      retryCount_of_ledger stamped.ledger]
    exact ⟨le_refl _, .inl rfl⟩
  | moved row row' t event retry legal instant heard below ledger =>
    rw [contacts_of before, contacts_of after, retries_of before, retries_of after, contactCount_of_ledger ledger,
      retryCount_of_ledger ledger]
    refine ⟨le_refl _, ?_⟩
    cases retry with
    | false => exact .inl rfl
    | true =>
      obtain ⟨policy, force, under⟩ := below rfl
      rw [merchant_of_key (Table.lookup_key before)] at force
      exact .inr ⟨rfl, policy, force, under⟩
  | counted row row' retry contact one timely retriesLeft contactsLeft ledger =>
    rw [contacts_of before, contacts_of after, retries_of before, retries_of after, contactCount_of_ledger ledger,
      retryCount_of_ledger ledger]
    refine ⟨Nat.le_add_right _ _, ?_⟩
    by_cases counts : retry = 1
    · obtain ⟨policy, force, under⟩ := retriesLeft counts
      rw [merchant_of_key (Table.lookup_key before)] at force
      exact .inr ⟨congrArg (row.case.retryCount + ·) counts, policy, force, under⟩
    · have zero : retry = 0 := by omega
      exact .inl (congrArg (row.case.retryCount + ·) zero)

theorem retries_raised (rt : Runtime) (c : Command) (k : CaseKey) (db : Database) :
    Raised (RetriesBelow k.merchantId c.instant db) (retries k db) (retries k (exec rt c db)) ∧
      contacts k db ≤ contacts k (exec rt c db) := by
  rcases exec_writes rt c db with writes | reported
  · refine (writes.keeps (fun d => Fixed db d ∧ Raised (RetriesBelow k.merchantId c.instant db) (retries k db) (retries k d) ∧
      contacts k db ≤ contacts k d) ⟨.refl db, .refl _ _, le_refl _⟩ ?_).2
    rintro d e write ⟨fixed, raised, grown⟩
    obtain ⟨more, same | ⟨one, policy, force, under⟩⟩ := write.counters k
    · rw [same]
      exact ⟨fixed.trans write.fixed, raised, grown.trans more⟩
    · rw [one]
      exact ⟨fixed.trans write.fixed, raised.step ⟨policy, force.of_policies fixed.policies.symm, under⟩, grown.trans more⟩
  · rw [retries, retries, contacts, contacts, reported.caseRow]
    exact ⟨.refl _ _, le_refl _⟩

end case

section customer

/-- What a row adds to the contacts of a customer. -/
def contactWeight (m customer : Identifier) (row : CaseRow) : Nat :=
  if row.case.merchantId = m ∧ row.case.customerId = some customer then row.case.contactCount else 0

theorem customerContacts_sum (m customer : Identifier) (db : Database) :
    customerContacts m customer db = (db.cases.map (contactWeight m customer)).sum := by
  simp only [customerContacts, contactSnapshot]
  rw [Table.sum_filter]
  simp only [decide_eq_true_eq]
  rfl

theorem contactWeight_congr (anchor : row'.case.anchor = row.case.anchor)
    (same : row'.case.contactCount = row.case.contactCount) (m customer : Identifier) :
    contactWeight m customer row' = contactWeight m customer row := by
  simp only [RecoveryCase.anchor, CaseAnchor.mk.injEq] at anchor
  simp only [contactWeight, anchor, same]

theorem CaseWrite.caseKeys (h : CaseWrite w d e) (nodup : (d.cases.map CaseRow.key).Nodup) :
    (e.cases.map CaseRow.key).Nodup := by
  cases h with
  | quiet same =>
    rw [same.cases]
    exact nodup
  | touched f stamps punctual cases =>
    rw [cases, List.map_map, show CaseRow.key ∘ f = CaseRow.key from funext fun r => key_of_stamped (stamps r)]
    exact nodup
  | created row event new fresh heard eventId occurredAt cases =>
    rw [cases]
    exact Table.nodup_append_new nodup new
  | moved case t o event retry snap legal instant heard below cases =>
    rw [cases, Table.keys_update (keepsKey_apply _ _ event)]
    exact nodup
  | counted case retry contact snap one timely retriesLeft contactsLeft cases =>
    rw [cases, Table.keys_update (keepsKey_count _ _)]
    exact nodup
  | linked _ _ cases =>
    rw [cases]
    exact nodup
  | receipted _ _ cases =>
    rw [cases]
    exact nodup

/-- One write adds at most one contact of a customer, and then from below the limit. -/
theorem CaseWrite.customerCounter (h : CaseWrite w d e) (nodup : (d.cases.map CaseRow.key).Nodup) (m customer : Identifier) :
    customerContacts m customer e = customerContacts m customer d ∨
      customerContacts m customer e = customerContacts m customer d + 1 ∧
        ContactsBelow m w.now d (customerContacts m customer d) := by
  simp only [customerContacts_sum]
  cases h with
  | quiet same => exact .inl (by rw [same.cases])
  | linked _ _ cases => exact .inl (by rw [cases])
  | receipted _ _ cases => exact .inl (by rw [cases])
  | touched f stamps punctual cases =>
    refine .inl ?_
    rw [cases, List.map_map]
    exact congrArg List.sum (List.map_congr_left fun r _ => contactWeight_congr
      (congrArg CaseLedger.anchor (stamps r).ledger) (contactCount_of_ledger (stamps r).ledger) m customer)
  | created row event new fresh heard eventId occurredAt cases =>
    refine .inl ?_
    have nothing : contactWeight m customer row = 0 := by
      unfold contactWeight
      rw [fresh.contacts, ite_self]
    rw [cases, List.map_append, List.sum_append, List.map_singleton, List.sum_singleton, nothing, Nat.add_zero]
  | moved case t o event retry snap legal instant heard below cases =>
    obtain ⟨row, found, ledger⟩ := snap
    have sum := Table.sum_update (f := fun r => r.apply (case.settle t o retry) event) (contactWeight m customer) nodup found
    have same : contactWeight m customer (row.apply (case.settle t o retry) event) = contactWeight m customer row := by
      have anchor : (row.apply (case.settle t o retry) event).case.anchor = row.case.anchor := rfl
      have written := congrArg CaseLedger.contactCount (settle_ledger case t o retry)
      exact contactWeight_congr anchor (written.trans (contactCount_of_ledger ledger).symm) m customer
    rw [cases]
    exact .inl (by omega)
  | counted case retry contact snap one timely retriesLeft contactsLeft cases =>
    obtain ⟨row, found, ledger⟩ := snap
    have sum := Table.sum_update (f := CaseRow.count (case.counted retry contact w.now)) (contactWeight m customer) nodup found
    have count : (row.count (case.counted retry contact w.now)).case.contactCount = row.case.contactCount + contact := by
      rw [contactCount_of_ledger ledger]
      rfl
    rw [cases]
    by_cases theirs : row.case.merchantId = m ∧ row.case.customerId = some customer
    · have before : contactWeight m customer row = row.case.contactCount := if_pos theirs
      have after : contactWeight m customer (row.count (case.counted retry contact w.now)) = row.case.contactCount + contact := by
        rw [← count]
        exact if_pos theirs
      by_cases counts : contact = 1
      · obtain ⟨policy, known, force, same, under⟩ := contactsLeft counts
        have anchor : row.case.anchor = case.anchor := congrArg CaseLedger.anchor ledger
        simp only [RecoveryCase.anchor, CaseAnchor.mk.injEq] at anchor
        rw [← anchor.2.2.2.2.2.1, theirs.2, Option.some.injEq] at same
        rw [← anchor.2.1, theirs.1] at force under
        rw [← same] at under
        refine .inr ⟨by omega, policy, force, ?_⟩
        rw [← customerContacts_sum]
        exact under
      · exact .inl (by omega)
    · have before : contactWeight m customer row = 0 := if_neg theirs
      have after : contactWeight m customer (row.count (case.counted retry contact w.now)) = 0 := if_neg theirs
      exact .inl (by omega)

theorem contacts_raised (rt : Runtime) (c : Command) (nodup : (db.cases.map CaseRow.key).Nodup) (m customer : Identifier) :
    Raised (ContactsBelow m c.instant db) (customerContacts m customer db) (customerContacts m customer (exec rt c db)) := by
  rcases exec_writes rt c db with writes | reported
  · refine (writes.keeps (fun d => (Fixed db d ∧ (d.cases.map CaseRow.key).Nodup) ∧
      Raised (ContactsBelow m c.instant db) (customerContacts m customer db) (customerContacts m customer d))
      ⟨⟨.refl db, nodup⟩, .refl _ _⟩ ?_).2
    rintro d e write ⟨⟨fixed, keys⟩, raised⟩
    refine ⟨⟨fixed.trans write.fixed, write.caseKeys keys⟩, ?_⟩
    rcases write.customerCounter keys m customer with same | ⟨one, policy, force, under⟩
    · rw [same]
      exact raised
    · rw [one]
      exact raised.step ⟨policy, force.of_policies fixed.policies.symm, under⟩
  · rw [customerContacts_sum, customerContacts_sum, reported.cases]
    exact .refl _ _

end customer

/-- Every policy the merchant has published allows at most `limit` of what `bound` reads. -/
def Published (m : Identifier) (bound : MerchantPolicySnapshot → Nat) (limit : Nat) (db : Database) : Prop :=
  ∀ row ∈ db.policies, row.merchantId = m → bound (policyFromDocument row.snapshot) ≤ limit

theorem inForce_published {t : Instant} {policy : MerchantPolicySnapshot} {bound : MerchantPolicySnapshot → Nat} {limit : Nat}
    (published : Published m bound limit db) (force : InForce m t policy db) : bound policy ≤ limit := by
  obtain ⟨_, _, read, force⟩ := Tx.bind_ok force
  obtain ⟨rfl, rfl⟩ := Tx.read_ok read
  obtain ⟨row, _, found, force⟩ := Tx.bind_ok force
  obtain ⟨here, rfl⟩ := Tx.found_ok found
  obtain ⟨_, _, checked, force⟩ := Tx.bind_ok force
  obtain ⟨-, rfl⟩ := Tx.check_ok checked
  obtain ⟨rfl, -⟩ := Tx.pure_ok force
  have member := List.mem_filter.mp (latest_mem here)
  exact published row member.1 (of_decide_eq_true member.2).1

theorem exec_policies (rt : Runtime) (c : Command) (db : Database) : ∀ row ∈ db.policies, row ∈ (exec rt c db).policies := by
  intro row member
  rcases exec_writes rt c db with writes | reported
  · rw [writes.fixed.policies]
    exact member
  · exact reported.policies row member

/-- What the counters of a merchant's cases may reach. -/
structure Limited (db : Database) : Prop where
  retries : ∀ (m : Identifier) (limit : Nat), Published m (·.retryLimit) limit db →
    ∀ k : CaseKey, k.merchantId = m → retries k db ≤ limit
  contacts : ∀ (m : Identifier) (limit : Nat), Published m (·.contactLimit) limit db →
    ∀ customer, customerContacts m customer db ≤ limit

theorem limited_step (rt : Runtime) (c : Command) (nodup : (db.cases.map CaseRow.key).Nodup) (h : Limited db) :
    Limited (exec rt c db) := by
  have earlier : ∀ {m bound limit}, Published m bound limit (exec rt c db) → Published m bound limit db :=
    fun published row member owner => published row (exec_policies rt c db row member) owner
  refine ⟨fun m limit published k owner => ?_, fun m limit published customer => ?_⟩
  · refine (retries_raised rt c k db).1.within (h.retries m limit (earlier published) k owner) fun i below => ?_
    obtain ⟨policy, force, under⟩ := below
    rw [owner] at force
    exact Nat.lt_of_lt_of_le under (inForce_published (earlier published) force)
  · refine (contacts_raised rt c nodup m customer).within (h.contacts m limit (earlier published) customer) fun i below => ?_
    obtain ⟨policy, force, under⟩ := below
    exact Nat.lt_of_lt_of_le under (inForce_published (earlier published) force)

theorem limited_invariant (reach : Reachable rt db) : Limited db := by
  have both := Runs.Reaches.invariant (fun db => (db.cases.map CaseRow.key).Nodup ∧ Limited db) reach
    ⟨List.nodup_nil, fun _ _ _ _ _ => Nat.zero_le _, fun _ _ _ _ => Nat.zero_le _⟩ ?_
  · exact both.2
  rintro c db ⟨nodup, limited⟩ -
  refine ⟨?_, limited_step rt c nodup limited⟩
  rcases exec_writes rt c db with writes | reported
  · exact writes.keeps (fun d => (d.cases.map CaseRow.key).Nodup) nodup fun write keys => write.caseKeys keys
  · rw [reported.cases]
    exact nodup

theorem autonomy_bounded (reach : Reachable rt db) :
    (∀ (c : Command) (k : CaseKey), Raised (RetriesBelow k.merchantId c.instant db) (retries k db) (retries k (exec rt c db)) ∧
      contacts k db ≤ contacts k (exec rt c db)) ∧
    (∀ (c : Command) (m customer : Identifier), Raised (ContactsBelow m c.instant db) (customerContacts m customer db)
      (customerContacts m customer (exec rt c db))) ∧ Limited db :=
  ⟨fun c k => retries_raised rt c k db, fun c => contacts_raised rt c reach.under.keyed.cases, limited_invariant reach⟩

set_option maxRecDepth 100000 in
theorem autonomy_bounded_retry : retries case1 (execAll {} retryAuthorized {}) = 0 ∧
    retries case1 (exec {} (.prepareExecution retry1 "lease-1" 3600000020) (execAll {} retryAuthorized {})) = 1 ∧
    RetriesBelow acme 3600000020 (execAll {} retryAuthorized {}) 0 := by
  have none_yet : retries case1 (execAll {} retryAuthorized {}) = 0 := by decide +kernel
  have counted : retries case1 (exec {} (.prepareExecution retry1 "lease-1" 3600000020) (execAll {} retryAuthorized {})) = 1 := by
    decide +kernel
  have raised := ((autonomy_bounded (reachable_execAll {} retryAuthorized)).1
    (.prepareExecution retry1 "lease-1" 3600000020) case1).1
  exact ⟨none_yet, counted, raised.each 0 (by omega) (by omega)⟩

end RevenueGuard
