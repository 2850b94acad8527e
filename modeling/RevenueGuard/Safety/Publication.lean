import RevenueGuard.Safety.Bounded
import RevenueGuard.Safety.PoliciesInForce

/-
Published policies read back. The document and its digest keep whole seconds, so
a policy governs as it was published exactly when its times are whole seconds and
its version was not published for another instant before.
-/
namespace RevenueGuard

variable {db db' : Database} {rt : Runtime} {t : Instant} {m : Identifier} {p q : MerchantPolicySnapshot}

section documents

/-- No time of the policy has a fraction of a second. -/
structure MerchantPolicySnapshot.WholeSeconds (p : MerchantPolicySnapshot) : Prop where
  effectiveAt : 1000000 ∣ p.effectiveAt
  quietHoursStart : 1000000 ∣ p.quietHoursStart.val
  quietHoursEnd : 1000000 ∣ p.quietHoursEnd.val

theorem policyFromDocument_whole (d : PolicyDocument) : (policyFromDocument d).WholeSeconds :=
  ⟨Dvd.intro_left _ rfl, Dvd.intro_left _ rfl, Dvd.intro_left _ rfl⟩

theorem MerchantPolicySnapshot.Equals.fields (same : p.Equals q) : p.toPolicyTerms = q.toPolicyTerms ∧
    p.effectiveAt = q.effectiveAt ∧ p.quietHoursStart = q.quietHoursStart ∧ p.quietHoursEnd = q.quietHoursEnd := by
  simpa [MerchantPolicySnapshot.Equals, MerchantPolicySnapshot.mk.injEq] using same

theorem MerchantPolicySnapshot.Equals.wholeSeconds (same : p.Equals q) (whole : p.WholeSeconds) : q.WholeSeconds := by
  obtain ⟨effective, start, stop⟩ := whole
  obtain ⟨-, at_, quietFrom, quietTo⟩ := same.fields
  exact ⟨at_ ▸ effective, quietFrom ▸ start, quietTo ▸ stop⟩

/-- The document of a policy reads back as it was, up to fractions of a second. -/
theorem policyFromDocument_canonical : (policyFromDocument p.canonicalDocument).Equals p ↔ p.WholeSeconds := by
  constructor
  · exact fun same => same.wholeSeconds (policyFromDocument_whole _)
  · intro whole
    obtain ⟨terms, at_, ⟨quietFrom, startBound⟩, ⟨quietTo, endBound⟩, fold⟩ := p
    obtain ⟨effective, start, stop⟩ := whole
    simp only [MerchantPolicySnapshot.Equals, policyFromDocument, MerchantPolicySnapshot.canonicalDocument,
      MerchantPolicySnapshot.mk.injEq, true_and, and_true, Subtype.mk.injEq, seconds]
    exact ⟨Int.ediv_mul_cancel effective, Nat.div_mul_cancel start, Nat.div_mul_cancel stop⟩

theorem contentDigest_inj (whole : p.WholeSeconds) (whole' : q.WholeSeconds) (same : p.contentDigest = q.contentDigest) :
    p.Equals q := by
  have read : (policyFromDocument p.canonicalDocument).Equals p := policyFromDocument_canonical.mpr whole
  have read' : (policyFromDocument q.canonicalDocument).Equals q := policyFromDocument_canonical.mpr whole'
  rw [show p.canonicalDocument = q.canonicalDocument from same] at read
  exact read.symm.trans read'

/-- A policy shares its digest with no other one in whole seconds, unless it has a fraction itself. -/
theorem contentDigest_determines :
    (∀ q : MerchantPolicySnapshot, q.WholeSeconds → q.contentDigest = p.contentDigest → q.Equals p) ↔ p.WholeSeconds := by
  constructor
  · intro alone
    have cut := alone (policyFromDocument p.canonicalDocument) (policyFromDocument_whole _) (policyFromDocument_digest _)
    exact policyFromDocument_canonical.mp cut
  · intro whole q whole' same
    exact contentDigest_inj whole' whole same

end documents

section rows

theorem latest_of_greatest {A : Type} {time : A → Instant} {rows : List A} {r : A} (member : r ∈ rows)
    (greatest : ∀ s ∈ rows, time s ≤ time r) (alone : ∀ s ∈ rows, time s = time r → s = r) : latest time rows = some r := by
  induction rows with
  | nil => cases member
  | cons a rest ih =>
    have below : ∀ s ∈ rest, time s ≤ time r := fun s here => greatest s (List.mem_cons_of_mem _ here)
    unfold latest
    cases found : latest time rest with
    | none =>
      rcases List.mem_cons.mp member with rfl | later
      · rfl
      · obtain ⟨newest, some_found⟩ := latest_of_mem time later
        rw [found] at some_found
        cases some_found
    | some b =>
      have listed := latest_mem found
      dsimp only
      by_cases older : time a < time b
      · rw [if_pos older]
        have later : r ∈ rest := by
          rcases List.mem_cons.mp member with rfl | later
          · exact absurd (below b listed) (not_le.mpr older)
          · exact later
        have newest := ih later below fun s here => alone s (List.mem_cons_of_mem _ here)
        rw [← newest, found]
      · rw [if_neg older]
        rcases List.mem_cons.mp member with rfl | later
        · rfl
        · have newest := ih later below fun s here => alone s (List.mem_cons_of_mem _ here)
          rw [found] at newest
          cases newest
          have same : time a = time r := le_antisymm (greatest a List.mem_cons_self) (not_lt.mp older)
          rw [alone a List.mem_cons_self same]

theorem PolicyTable.eq_of_version (table : PolicyTable db.policies) {r s : PolicyVersionRow} (hr : r ∈ db.policies)
    (hs : s ∈ db.policies) (merchant : r.merchantId = s.merchantId) (version : r.version = s.version) : r = s :=
  List.inj_on_of_nodup_map table.versions hr hs (Prod.ext merchant version)

/-- The newest row that is not later than an instant is the policy in force then. -/
theorem inForce_newest (table : PolicyTable db.policies) {row : PolicyVersionRow} (member : row ∈ db.policies)
    (owner : row.merchantId = m) (due : row.effectiveAt ≤ t)
    (newest : ∀ r ∈ db.policies, r.merchantId = m → r.effectiveAt ≤ t → r.effectiveAt ≤ row.effectiveAt) :
    InForce m t (policyFromDocument row.snapshot) db := by
  have found : latest (·.effectiveAt) (db.policies.filter fun r => decide (r.merchantId = m ∧ r.effectiveAt ≤ t)) = some row := by
    refine latest_of_greatest (List.mem_filter.mpr ⟨member, decide_eq_true ⟨owner, due⟩⟩) (fun s here => ?_) fun s here same => ?_
    · obtain ⟨stored, chosen⟩ := List.mem_filter.mp here
      obtain ⟨merchant, early⟩ := of_decide_eq_true chosen
      exact newest s stored merchant early
    · obtain ⟨stored, chosen⟩ := List.mem_filter.mp here
      obtain ⟨merchant, -⟩ := of_decide_eq_true chosen
      exact List.inj_on_of_nodup_map table.times stored member (Prod.ext (merchant.trans owner.symm) same)
  obtain ⟨p, publishes⟩ := table.published row member
  have digest : (policyFromDocument row.snapshot).contentDigest = row.contentSha256 := by
    rw [policyFromDocument_digest, publishes.snapshot, publishes.digest]
    rfl
  unfold InForce effectivePolicy
  rw [Tx.bind_of_ok (Tx.run_read _ _), found, Tx.bind_of_ok (Tx.run_found_some _ _ _)]
  exact Tx.bind_of_ok (Tx.check_of digest)

end rows

section governs

/-- Whatever comes later, the policy in force from its time on, until a later one's, is this very policy. -/
def Governs (rt : Runtime) (m : Identifier) (p : MerchantPolicySnapshot) (db : Database) : Prop :=
  ∀ db', Runs.Reaches (exec rt) (fun _ _ => True) db db' → ∀ t, p.effectiveAt ≤ t →
    (∀ row ∈ db'.policies, row.merchantId = m → row.effectiveAt ≤ t → row.effectiveAt ≤ p.effectiveAt) →
      ∃ q, InForce m t q db' ∧ q.Equals p

/-- The version was published for no other instant. -/
def OneInstant (m : Identifier) (p : MerchantPolicySnapshot) (db : Database) : Prop :=
  ∀ row ∈ db.policies, row.merchantId = m → row.version = p.version → row.effectiveAt = p.effectiveAt

instance (m : Identifier) (p : MerchantPolicySnapshot) (db : Database) : Decidable (OneInstant m p db) :=
  inferInstanceAs (Decidable (∀ row ∈ db.policies, _))

theorem governs_of_row (reach : Reachable rt db) (whole : p.WholeSeconds) {row : PolicyVersionRow} (member : row ∈ db.policies)
    (owner : row.merchantId = m) (snapshot : row.snapshot = p.canonicalDocument) (at_ : row.effectiveAt = p.effectiveAt) :
    Governs rt m p db := by
  intro db' later t due newest
  have kept : row ∈ db'.policies :=
    Runs.Reaches.invariant (fun d => row ∈ d.policies) later member fun c d stored _ => exec_policies rt c d row stored
  have table := @policiesSound_invariant rt _ (Runs.Reaches.trans reach later)
  have force := inForce_newest table kept owner (at_ ▸ due) fun r stored merchant early => at_ ▸ newest r stored merchant early
  rw [snapshot] at force
  exact ⟨_, force, policyFromDocument_canonical.mpr whole⟩

/-- What governs is in whole seconds, and its row is for its own instant. -/
theorem governs_row (reach : Reachable rt db) (governs : Governs rt m p db) : p.WholeSeconds ∧ OneInstant m p db := by
  have table := policiesSound_invariant reach
  obtain ⟨p', now, same⟩ := governs db .start p.effectiveAt (le_refl _) fun _ _ _ early => early
  obtain ⟨⟨r, stored, owner, due, decoded, -⟩, -⟩ := effectivePolicy_effect now
  obtain ⟨q, publishes⟩ := table.published r stored
  obtain ⟨terms, at_, -, -⟩ := same.fields
  have version : r.version = p.version := by
    rw [← terms, decoded, publishes.version, publishes.snapshot]
    rfl
  refine ⟨same.wholeSeconds (decoded ▸ policyFromDocument_whole _), fun row member merchant named => ?_⟩
  obtain rfl := table.eq_of_version member stored (merchant.trans owner.symm) (named.trans version.symm)
  refine le_antisymm due ?_
  rw [← at_, decoded, publishes.effectiveAt, publishes.snapshot]
  exact policyFromDocument_effective q

/-- A published policy governs as it is exactly when its times are whole seconds and its version is of one instant; its
digest then determines it, and no two policies in force share a digest. -/
theorem policy_published (reach : Reachable rt db) (published : (publishPolicy m p).run db = .ok ((), db')) :
    (Governs rt m p db' ↔ p.WholeSeconds ∧ OneInstant m p db) ∧
      ((∀ q : MerchantPolicySnapshot, q.WholeSeconds → q.contentDigest = p.contentDigest → q.Equals p) ↔ p.WholeSeconds) ∧
      ∀ (m m' : Identifier) (t t' : Instant) (q q' : MerchantPolicySnapshot) (d d' : Database),
        InForce m t q d → InForce m' t' q' d' → q.contentDigest = q'.contentDigest → q = q' := by
  have reach' : Reachable rt db' := by
    have step : exec rt (.publishPolicy m p) db = db' := Tx.commit_of_ok published
    exact step ▸ Runs.Reaches.step _ reach trivial
  refine ⟨⟨fun governs => ?_, fun ⟨whole, instant⟩ => ?_⟩, contentDigest_determines, ?_⟩
  · obtain ⟨whole, instant⟩ := governs_row reach' governs
    refine ⟨whole, fun row member => instant row ?_⟩
    rcases publishPolicy_ok published with ⟨-, -, -, -, -, rfl⟩ | ⟨-, -, row', -, -, rfl⟩
    · exact member
    · exact List.mem_append_left _ member
  · rcases publishPolicy_ok published with ⟨row, member, owner, version, content, rfl⟩ | ⟨-, -, row, owner, publishes, rfl⟩
    · obtain ⟨q, publishes⟩ := (policiesSound_invariant reach).published row member
      have snapshot : row.snapshot = p.canonicalDocument := by
        rw [publishes.snapshot]
        exact publishes.digest.symm.trans content
      exact governs_of_row reach whole member owner snapshot (instant row member owner version)
    · exact governs_of_row reach' whole (List.mem_append_right _ (List.mem_singleton_self row)) owner publishes.snapshot
        publishes.effectiveAt
  · intro m m' t t' q q' d d' force force' same
    obtain ⟨⟨r, -, -, -, rfl, -⟩, -⟩ := effectivePolicy_effect force
    obtain ⟨⟨r', -, -, -, rfl, -⟩, -⟩ := effectivePolicy_effect force'
    rw [policyFromDocument_digest, policyFromDocument_digest] at same
    rw [same]

theorem policy_published_links : Governs {} acme linksOnly (execAll {} [.publishPolicy acme linksOnly] {}) := by
  have published : (publishPolicy acme linksOnly).run {} = .ok ((), execAll {} [.publishPolicy acme linksOnly] {}) := rfl
  have instant : OneInstant acme linksOnly {} := fun _ member => absurd member List.not_mem_nil
  exact (@policy_published _ _ {} _ _ .start published).1.mpr ⟨⟨by decide, by decide, by decide⟩, instant⟩

/-- In force from half a second past. -/
def linksSoon : MerchantPolicySnapshot := { linksOnly with effectiveAt := 1500000 }

theorem policy_cut : ¬ ∀ (rt : Runtime) (db db' : Database) (m : Identifier) (p : MerchantPolicySnapshot), Reachable rt db →
    (publishPolicy m p).run db = .ok ((), db') → Governs rt m p db' := by
  intro governs
  have published : (publishPolicy acme linksSoon).run {} = .ok ((), execAll {} [.publishPolicy acme linksSoon] {}) := rfl
  have cut := governs_row (reachable_execAll {} [.publishPolicy acme linksSoon]) (governs {} {} _ acme linksSoon .start published)
  exact absurd cut.1.effectiveAt (by decide)

end governs

end RevenueGuard
