import RevenueGuard.Protocol.Recovery
import RevenueGuard.Protocol.Writes

/-
The paths an event takes: an audit, a new case, or the case it selects.
-/
namespace RevenueGuard

variable {db d : Database} {m eventId caseId : Identifier} {t : Instant} {routed : Routed}

/-- What routing does with a known event, by what the store holds for it. -/
inductive Route (m caseId : Identifier) (t : Instant) (event : NormalizedEvent) (db : Database) : Transaction Routed → Prop
  | unsupported (unidentified : selectCaseIdentity event = none) :
      Route m caseId t event db (linkAuditOnly event none "UNSUPPORTED_EVENT_SUBJECT")
  | undiagnosed (identity : CaseIdentity) (identified : selectCaseIdentity event = some identity)
      (undiagnosed : diagnoseEvent event = none) :
      Route m caseId t event db (linkAuditOnly event ((findActiveCase m identity db).or (findEpisodeCase m identity db))
        "EVENT_HAS_NO_RECOVERY_DIAGNOSIS")
  | opened (identity : CaseIdentity) (diagnosis : Diagnosis) (policy : MerchantPolicySnapshot)
      (identified : selectCaseIdentity event = some identity) (diagnosed : diagnoseEvent event = some diagnosis)
      (unknown : (findActiveCase m identity db).or (findEpisodeCase m identity db) = none) (force : InForce m t policy db) :
      Route m caseId t event db (openCase caseId identity diagnosis event policy t)
  | ended (identity : CaseIdentity) (diagnosis : Diagnosis) (row : CaseRow)
      (identified : selectCaseIdentity event = some identity) (diagnosed : diagnoseEvent event = some diagnosis)
      (selected : (findActiveCase m identity db).or (findEpisodeCase m identity db) = some row)
      (terminated : row.case.state.Terminal) :
      Route m caseId t event db (linkAuditOnly event (some row) "TERMINAL_CASE_EVIDENCE")
  | updated (identity : CaseIdentity) (diagnosis : Diagnosis) (policy : MerchantPolicySnapshot) (row : CaseRow)
      (identified : selectCaseIdentity event = some identity) (diagnosed : diagnoseEvent event = some diagnosis)
      (selected : (findActiveCase m identity db).or (findEpisodeCase m identity db) = some row)
      (live : ¬ row.case.state.Terminal) (force : InForce m t policy db) :
      Route m caseId t event db (updateCase row diagnosis event policy t)

theorem routeEvent_route (h : (routeEvent m eventId caseId t).run db = .ok (routed, d)) : m ∈ db.merchants ∧
    ∃ event x, db.event m eventId = some event ∧ Route m caseId t event db x ∧ x.run db = .ok (routed, d) := by
  obtain ⟨_, _, locked, h⟩ := Tx.bind_ok h
  obtain ⟨merchant, rfl⟩ := lockMerchant_effect locked
  obtain ⟨_, _, read, h⟩ := Tx.bind_ok h
  obtain ⟨rfl, rfl⟩ := Tx.read_ok read
  obtain ⟨event, _, found, h⟩ := Tx.bind_ok h
  obtain ⟨known, rfl⟩ := Tx.found_ok found
  refine ⟨merchant, event, ?_⟩
  split at h
  · rename_i unidentified
    exact ⟨_, known, .unsupported unidentified, h⟩
  rename_i identity identified
  obtain ⟨row, _, read, h⟩ := Tx.bind_ok h
  obtain ⟨rfl, rfl⟩ := Tx.read_ok read
  split at h
  · rename_i undiagnosed
    exact ⟨_, known, .undiagnosed identity identified undiagnosed, h⟩
  rename_i diagnosis diagnosed
  split at h
  · rename_i unknown
    obtain ⟨policy, _, effective, h⟩ := Tx.bind_ok h
    obtain ⟨force, rfl⟩ := inForce_ok effective
    exact ⟨_, known, .opened identity diagnosis policy identified diagnosed unknown force, h⟩
  · rename_i row selected
    split at h
    · rename_i terminated
      exact ⟨_, known, .ended identity diagnosis row identified diagnosed selected terminated, h⟩
    · rename_i live
      obtain ⟨policy, _, effective, h⟩ := Tx.bind_ok h
      obtain ⟨force, rfl⟩ := inForce_ok effective
      exact ⟨_, known, .updated identity diagnosis policy row identified diagnosed selected live force, h⟩

end RevenueGuard
