import RevenueGuard.Protocol.Evidence

/-
The stored policies are what was published: a merchant with a policy that has
come into force has a policy in force.
-/
namespace RevenueGuard

variable {rt : Runtime} {db : Database}

def PoliciesSound (db : Database) : Prop := PolicyTable db.policies

theorem policiesSound_invariant (reach : Reachable rt db) : PoliciesSound db :=
  (reach.under.invariant PoliciesSound ⟨List.nodup_nil, List.nodup_nil, List.forall_mem_nil _⟩
    (fun _ step before => by rw [PoliciesSound, step.kept.policies]; exact before)
    fun _ changed before => changed.published before).2

theorem latest_of_mem {A : Type} (time : A → Instant) {rows : List A} {r : A} (member : r ∈ rows) :
    ∃ newest, latest time rows = some newest := by
  cases rows with
  | nil => cases member
  | cons a rest =>
    unfold latest
    split
    · split
      · exact ⟨_, rfl⟩
      · exact ⟨_, rfl⟩
    · exact ⟨_, rfl⟩

/-- A merchant with a published policy that has come into force has a policy in force. -/
theorem inForce_of_published {m : Identifier} {t : Instant} (sound : PoliciesSound db)
    (published : ∃ r ∈ db.policies, r.merchantId = m ∧ r.effectiveAt ≤ t) :
    ∃ policy, InForce m t policy db ∧ policy.effectiveAt ≤ t := by
  obtain ⟨r, member, here⟩ := published
  have candidate : r ∈ db.policies.filter fun r => decide (r.merchantId = m ∧ r.effectiveAt ≤ t) :=
    List.mem_filter.mpr ⟨member, decide_eq_true here⟩
  obtain ⟨row, found⟩ := latest_of_mem (·.effectiveAt) candidate
  obtain ⟨stored, due⟩ := List.mem_filter.mp (latest_mem found)
  obtain ⟨p, publishes⟩ := sound.published row stored
  have digest : (policyFromDocument row.snapshot).contentDigest = row.contentSha256 := by
    rw [policyFromDocument_digest, publishes.snapshot, publishes.digest]
    rfl
  have effective : (policyFromDocument row.snapshot).effectiveAt ≤ row.effectiveAt := by
    rw [publishes.snapshot, publishes.effectiveAt]
    exact policyFromDocument_effective p
  simp only [decide_eq_true_eq] at due
  refine ⟨policyFromDocument row.snapshot, ?_, le_trans effective due.2⟩
  exact (Tx.bind_of_ok (Tx.run_read _ _)).trans ((Tx.bind_of_ok (by rw [found]; rfl)).trans
    ((Tx.bind_of_ok (Tx.check_of digest)).trans rfl))

end RevenueGuard
