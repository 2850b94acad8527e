import RevenueGuard.Kit.Register
import RevenueGuard.System

/-
Provider truth. A payment or a subscription keeps the update with the greatest
time and status rank, never goes back, and ends the same whatever the delivery,
unless two different updates share the greatest time and rank.
-/
namespace RevenueGuard

open Register

/-- An update as `_provider_update_is_authoritative` reads it. -/
structure ProviderMark where
  status : String
  updatedAt : Option Instant

def PaymentRow.mark (r : PaymentRow) : ProviderMark := ⟨r.status, r.providerUpdatedAt⟩

def SubscriptionRow.mark (r : SubscriptionRow) : ProviderMark := ⟨r.status, r.providerUpdatedAt⟩

def ProviderMark.yields (current next : ProviderMark) : Bool :=
  providerUpdateIsAuthoritative current.status current.updatedAt next.status next.updatedAt

theorem newer_total (t u : Int) (m n : Nat) : (t < u ∨ u = t ∧ m ≤ n) ∨ (u < t ∨ t = u ∧ n ≤ m) := by omega

theorem newer_trans {t u v : Int} {m n o : Nat} (h : t < u ∨ u = t ∧ m ≤ n) (h' : u < v ∨ v = u ∧ n ≤ o) :
    t < v ∨ v = t ∧ m ≤ o := by omega

theorem yields_ranked {R : Type} (mark : R → ProviderMark) : Ranked fun a b => (mark a).yields (mark b) where
  total a b := by
    simp only [ProviderMark.yields, providerUpdateIsAuthoritative]
    cases (mark a).updatedAt <;> cases (mark b).updatedAt <;> simp only [decide_eq_true_eq, true_or, or_true]
    exact newer_total _ _ _ _
  trans {a b c} := by
    simp only [ProviderMark.yields, providerUpdateIsAuthoritative]
    cases (mark a).updatedAt <;> cases (mark b).updatedAt <;> cases (mark c).updatedAt <;>
      simp only [decide_eq_true_eq, Bool.false_eq_true, false_implies, implies_true, imp_self]
    exact newer_trans

/-- The pair (provider_updated_at, status rank) of a stored row does not decrease. -/
def NotBefore (before after : ProviderMark) : Prop :=
  ∀ t ∈ before.updatedAt, ∃ t' ∈ after.updatedAt, t < t' ∨
    (t = t' ∧ providerStatusPrecedence before.status ≤ providerStatusPrecedence after.status)

theorem notBefore_of_yields {before after : ProviderMark} (h : before.yields after = true) : NotBefore before after := by
  intro t here
  simp only [ProviderMark.yields, providerUpdateIsAuthoritative, Option.mem_def.mp here] at h
  cases later : after.updatedAt with
  | none => simp [later] at h
  | some t' =>
    simp only [later, decide_eq_true_eq] at h
    exact ⟨t', rfl, h.imp_right fun tie => ⟨tie.1.symm, tie.2⟩⟩

/-- The updates of one provider object, as a table keeps it. -/
structure ProviderTable (R : Type) where
  apply : R → Database → Database
  stored : R → Database → Option R
  mark : R → ProviderMark

def ProviderTable.applyAll {R : Type} (t : ProviderTable R) (updates : List R) (db : Database) : Database :=
  updates.foldl (fun db r => t.apply r db) db

def paymentTable : ProviderTable PaymentRow :=
  { apply := fun r => (upsertPayment r).commit
    stored := fun r db => Table.lookup PaymentRow.id r.id db.payments
    mark := PaymentRow.mark }

def subscriptionTable : ProviderTable SubscriptionRow :=
  { apply := fun r => (upsertSubscription r).commit
    stored := fun r db => Table.lookup SubscriptionRow.id r.id db.subscriptions
    mark := SubscriptionRow.mark }

/-- Every delivery of `updates` leaves the same row of the object `o`, and no update of a delivery takes it back. -/
structure ProviderTable.Truthful {R : Type} (t : ProviderTable R) (o : R) (updates : List R) (db : Database) : Prop where
  converges : ∀ xs ys, SameWrites xs updates → SameWrites ys updates →
    t.stored o (t.applyAll xs db) = t.stored o (t.applyAll ys db)
  advances : ∀ xs r, (∀ x ∈ xs, x ∈ updates) → r ∈ updates → ∀ before ∈ t.stored o (t.applyAll xs db),
    ∃ after ∈ t.stored o (t.applyAll (xs ++ [r]) db), NotBefore (t.mark before) (t.mark after)

/-- No stored row or update is ahead of `r`. -/
def ProviderTable.Greatest {R : Type} (t : ProviderTable R) (updates : List R) (db : Database) (r : R) : Prop :=
  Leads (fun a b => (t.mark a).yields (t.mark b)) (t.stored r db) updates r

/-- One update at most has the greatest time and rank. -/
def ProviderTable.Untied {R : Type} (t : ProviderTable R) (updates : List R) (db : Database) : Prop :=
  ∀ a ∈ updates, ∀ b ∈ updates, t.Greatest updates db a → t.Greatest updates db b → a = b

theorem lookup_upsert {R K : Type} [DecidableEq K] {key : R → K} {wins : R → R → Bool} (row : R) (rows : List R) :
    Table.lookup key (key row) (upsert key wins row rows) = put wins (Table.lookup key (key row) rows) row := by
  unfold upsert
  cases found : Table.lookup key (key row) rows with
  | none => exact Table.lookup_append_new found
  | some current =>
    simp only [Option.isSome_some, if_true]
    rw [Table.lookup_update_self, found]
    · exact apply_ite some _ _ _
    · intro r here
      dsimp only
      split
      · rfl
      · exact here

section table

variable {R : Type} {t : ProviderTable R} {db : Database} {o : R} {updates : List R}

/-- A table whose updates of `o` write its row as a register. -/
def ProviderTable.Writes (t : ProviderTable R) (o : R) (updates : List R) : Prop :=
  ∀ r ∈ updates, ∀ db, t.stored o (t.apply r db) = put (fun a b => (t.mark a).yields (t.mark b)) (t.stored o db) r

theorem ProviderTable.Writes.all (writes : t.Writes o updates) {xs : List R} (within : ∀ x ∈ xs, x ∈ updates) (db : Database) :
    t.stored o (t.applyAll xs db) = puts (fun a b => (t.mark a).yields (t.mark b)) (t.stored o db) xs := by
  induction xs generalizing db with
  | nil => rfl
  | cons r rest ih =>
    rw [applyAll, List.foldl_cons, ← applyAll, ih fun x later => within x (List.mem_cons_of_mem r later),
      writes r (within r List.mem_cons_self), puts, puts, List.foldl_cons]

theorem ProviderTable.Writes.truthful_iff (writes : t.Writes o updates)
    (same : ∀ r ∈ updates, ∀ db, t.stored r db = t.stored o db) (db : Database) :
    t.Truthful o updates db ↔ t.Untied updates db := by
  have converges := converges_iff (yields_ranked t.mark) (t.stored o db) updates
  have untied : t.Untied updates db ↔ ∀ a ∈ updates, ∀ b ∈ updates,
      Leads (fun a b => (t.mark a).yields (t.mark b)) (t.stored o db) updates a →
      Leads (fun a b => (t.mark a).yields (t.mark b)) (t.stored o db) updates b → a = b := by
    refine forall₂_congr fun a ha => forall₂_congr fun b hb => ?_
    rw [Greatest, Greatest, same a ha, same b hb]
  rw [untied, ← converges]
  constructor
  · intro truthful xs ys hx hy
    rw [← writes.all fun x member => (hx x).mp member, ← writes.all fun x member => (hy x).mp member]
    exact truthful.converges xs ys hx hy
  · intro agree
    refine ⟨fun xs ys hx hy => ?_, fun xs r within member before here => ?_⟩
    · rw [writes.all fun x member => (hx x).mp member, writes.all fun x member => (hy x).mp member]
      exact agree xs ys hx hy
    · obtain ⟨after, holds, advanced⟩ := put_advances (yields_ranked t.mark) (t.stored o (t.applyAll xs db)) r
      refine ⟨after, ?_, notBefore_of_yields (advanced before here)⟩
      rw [applyAll, List.foldl_append, ← applyAll]
      exact (writes r member _).trans holds

end table

theorem payment_writes {o : PaymentRow} {updates : List PaymentRow} (one : ∀ r ∈ updates, r.id = o.id) :
    paymentTable.Writes o updates := by
  intro r member db
  have written := @lookup_upsert PaymentRow _ _ PaymentRow.id (fun a b => a.mark.yields b.mark) r db.payments
  rw [one r member] at written
  exact written

theorem subscription_writes {o : SubscriptionRow} {updates : List SubscriptionRow} (one : ∀ r ∈ updates, r.id = o.id) :
    subscriptionTable.Writes o updates := by
  intro r member db
  have written := @lookup_upsert SubscriptionRow _ _ SubscriptionRow.id (fun a b => a.mark.yields b.mark) r db.subscriptions
  rw [one r member] at written
  exact written

/-- One object's updates are told apart by nothing but their delivery when the greatest one is unique. -/
theorem provider_truth_converges (db : Database) :
    (∀ (o : PaymentRow) (updates : List PaymentRow), (∀ r ∈ updates, r.id = o.id) →
      (paymentTable.Truthful o updates db ↔ paymentTable.Untied updates db)) ∧
    (∀ (o : SubscriptionRow) (updates : List SubscriptionRow), (∀ r ∈ updates, r.id = o.id) →
      (subscriptionTable.Truthful o updates db ↔ subscriptionTable.Untied updates db)) := by
  refine ⟨fun o updates one => ?_, fun o updates one => ?_⟩
  · refine (payment_writes one).truthful_iff (fun r member db => ?_) db
    simp only [paymentTable, one r member]
  · refine (subscription_writes one).truthful_iff (fun r member db => ?_) db
    simp only [subscriptionTable, one r member]

section updates

/-- A captured payment, as its own event reports it. -/
def captured (at_ : Instant) : PaymentRow :=
  { merchantId := ident "acme"
    paymentId := ident "pay-1"
    customerId := none
    orderId := some (ident "order-1")
    amountMinor := 1000
    currency := currency "INR"
    status := "CAPTURED"
    providerOccurredAt := at_
    providerUpdatedAt := some at_ }

/-- The same capture, as the event of the payment link it was paid through reports it: the link names the customer. -/
def capturedThroughLink (at_ : Instant) : PaymentRow := { captured at_ with customerId := some (ident "cust-1") }

theorem provider_truth_converges_apart : paymentTable.Truthful (captured 5) [captured 5, capturedThroughLink 6] {} :=
  ((provider_truth_converges {}).1 (captured 5) [captured 5, capturedThroughLink 6] (by decide)).mpr
    (by unfold ProviderTable.Untied ProviderTable.Greatest; decide)

theorem provider_truth_tied : ¬ ∀ (o : PaymentRow) (updates : List PaymentRow),
    (∀ r ∈ updates, r.id = o.id ∧ r.providerUpdatedAt.isSome = true) → paymentTable.Truthful o updates {} := by
  intro truthful
  have same := (truthful (captured 5) [captured 5, capturedThroughLink 5] (by decide)).converges
    [captured 5, capturedThroughLink 5] [capturedThroughLink 5, captured 5] (fun _ => Iff.rfl)
    (fun _ => by rw [List.mem_pair, List.mem_pair, or_comm])
  revert same
  decide

end updates

end RevenueGuard
