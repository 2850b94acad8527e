import RevenueGuard.Kit.Failures
import RevenueGuard.Services.Recovery

/-
What routing and evaluation can fail with: the unique indexes of the cases are
met by the row of a new case alone.
-/
namespace RevenueGuard

/-- A violation of a unique index of the cases. -/
def Failure.onCaseIndex : Failure → Bool
  | .integrity name => name == "uq_recovery_cases_active_subject" || name == "uq_recovery_cases_episode"
  | _ => false

def Unindexed (e : Failure) : Prop := e.onCaseIndex = false

instance (e : Failure) : Decidable (Unindexed e) := by
  unfold Unindexed
  infer_instance

theorem require_unindexed (c : Prop) [Decidable c] {e : Failure} (other : Unindexed e) : Tx.Throws (require c e) Unindexed := by
  unfold require
  split
  · exact Tx.throws_ok _
  · exact Tx.throws_error other

theorem legal_unindexed (case : RecoveryCase) (version : Nat) (t : Transition) : Tx.Throws (t.legal case version) Unindexed :=
  Tx.throws_bind (require_unindexed _ rfl) fun _ => Tx.throws_bind (require_unindexed _ rfl) fun _ =>
    Tx.throws_bind (require_unindexed _ rfl) fun _ => Tx.throws_bind (require_unindexed _ rfl) fun _ =>
      Tx.throws_bind (require_unindexed _ rfl) fun _ => require_unindexed _ rfl

theorem wellSized_unindexed (t : Transition) : Tx.Throws t.wellSized Unindexed :=
  Tx.throws_bind (require_unindexed _ rfl) fun _ => Tx.throws_bind (require_unindexed _ rfl) fun _ =>
    Tx.throws_bind (require_unindexed _ rfl) fun _ => Tx.throws_bind (require_unindexed _ rfl) fun _ =>
      require_unindexed _ rfl

theorem transitionCase_unindexed (case : RecoveryCase) (version : Nat) (t : Transition) :
    Tx.Throws (transitionCase case version t) Unindexed :=
  Tx.throws_bind (legal_unindexed case version t) fun _ => Tx.throws_bind (wellSized_unindexed t) fun _ => Tx.throws_ok _

theorem candidateList_unindexed (items : List CandidateAction) : Tx.Throws (candidateList items) Unindexed := by
  unfold candidateList
  split
  · split
    · exact Tx.throws_ok _
    · exact Tx.throws_error rfl
  · exact Tx.throws_error rfl

theorem selectCandidate_unindexed (zone : Zone) (policy : MerchantPolicySnapshot) (e : PolicyEvaluationInput)
    (skipped : List PolicyReason) (evaluated rest : List CandidateAction) :
    Tx.Throws (selectCandidate zone policy e skipped evaluated rest) Unindexed := by
  induction rest generalizing skipped evaluated with
  | nil => exact Tx.throws_error rfl
  | cons candidate rest ih =>
    unfold selectCandidate
    split
    · exact Tx.throws_ok _
    · split
      · exact ih _ _
      · exact Tx.throws_ok _

theorem evaluatePolicy_unindexed (zone : Zone) (policy : MerchantPolicySnapshot) (e : PolicyEvaluationInput) :
    Tx.Throws (evaluatePolicy zone policy e) Unindexed := by
  unfold evaluatePolicy
  split
  · exact Tx.throws_error rfl
  split
  · exact Tx.throws_ok _
  split
  · exact Tx.throws_ok _
  · exact selectCandidate_unindexed _ _ _ _ _ _

theorem lockMerchant_unindexed (m : Identifier) : Tx.Fails (lockMerchant m) Unindexed :=
  .bind (.read _) fun _ => .check _ rfl

theorem effectivePolicy_unindexed (m : Identifier) (t : Instant) : Tx.Fails (effectivePolicy m t) Unindexed :=
  .bind (.read _) fun _ => .bind (.found _ rfl) fun _ => .bind (.check _ rfl) fun _ => .pure _

theorem linkEvidence_unindexed (link : CaseEventRow) : Tx.Fails (linkEvidence link) Unindexed := by
  refine .bind (.read _) fun existing => ?_
  cases existing with
  | some row => exact .pure _
  | none => exact .bind (.write _) fun _ => .pure _

theorem linkAuditOnly_unindexed (event : NormalizedEvent) (row : Option CaseRow) (reason : String) :
    Tx.Fails (linkAuditOnly event row reason) Unindexed := .bind (linkEvidence_unindexed _) fun _ => .pure _

theorem recoveryTransition_unindexed (case : RecoveryCase) (t : Transition) (d : Option Diagnosis)
    (e : Option NormalizedEvent) (retry : Bool) : Tx.Fails (recoveryTransition case t d e retry) Unindexed :=
  .bind (.lift (transitionCase_unindexed _ _ _)) fun _ => .bind
    (.bind (.read _) fun _ => .bind (.check _ rfl) fun _ => .write _) fun _ => .pure _

theorem advance_unindexed (case : RecoveryCase) (d : Diagnosis) (event : NormalizedEvent) (policy : MerchantPolicySnapshot)
    (t : Instant) : Tx.Fails (advanceToDecisionPending case d event policy t) Unindexed := by
  unfold advanceToDecisionPending
  dsimp only
  rw [Tx.ite_bind]
  refine .bind ?_ fun started => ?_
  · split
    · exact recoveryTransition_unindexed _ _ _ _ _
    · exact .pure _
  · split
    · exact recoveryTransition_unindexed _ _ _ _ _
    · exact recoveryTransition_unindexed _ _ _ _ _
    · exact .pure _
    · exact .pure _

theorem proceed_unindexed (case : RecoveryCase) (d : Diagnosis) (event : NormalizedEvent) (policy : MerchantPolicySnapshot)
    (t : Instant) : Tx.Fails (proceedToEvaluation case d event policy t) Unindexed := by
  refine .bind (advance_unindexed _ _ _ _ _) fun pending => ?_
  split
  · exact .pure _
  · exact .pure _

theorem updateCase_unindexed (row : CaseRow) (d : Diagnosis) (event : NormalizedEvent) (policy : MerchantPolicySnapshot)
    (t : Instant) : Tx.Fails (updateCase row d event policy t) Unindexed := by
  refine .bind (.read _) fun ordering => .bind (linkEvidence_unindexed _) fun link => ?_
  split
  · exact .pure _
  split
  · exact .pure _
  · exact .bind (.bind (.read _) fun _ => .found _ rfl) fun _ => proceed_unindexed _ _ _ _ _

theorem contactFacts_unindexed (r : EvaluationRequest) : Tx.Fails (contactFacts r) Unindexed := by
  unfold contactFacts
  split
  · exact .pure _
  · refine .bind (.bind (.read _) fun _ => .bind (.check _ rfl) fun _ => .read _) fun snapshot => .bind ?_ fun _ => .pure _
    unfold coordinateWith
    split
    · refine .bind (.read _) fun row => ?_
      cases row with
      | none => exact .pure _
      | some row =>
        dsimp only
        split
        · exact .pure _
        · exact .write _
    · exact .pure _

theorem assessCase_unindexed (rt : Runtime) (inputs : EvaluationInputs) (r : EvaluationRequest) :
    Tx.Fails (assessCase rt inputs r) Unindexed :=
  .bind (recoveryTransition_unindexed _ _ _ _ _) fun _ => .bind (.read _) fun _ =>
    .bind (.bind (.read _) fun _ => .bind (.read _) fun _ => .bind (.write _) fun _ => .pure _) fun _ =>
      .bind (contactFacts_unindexed r) fun _ => .bind (.read _) fun _ => .bind (.read _) fun _ =>
        .bind (.lift (candidateList_unindexed _)) fun _ => .bind (.lift (evaluatePolicy_unindexed _ _ _)) fun _ => .pure _

theorem storeReview_unindexed (review : HumanReviewRequest) : Tx.Fails (storeReview review) Unindexed :=
  .bind (.read _) fun _ => .bind (.check _ (by decide)) fun _ => .write _

theorem storeReceipt_unindexed (receipt : ReceiptRow) : Tx.Fails (storeReceipt receipt) Unindexed :=
  .bind (.read _) fun _ => .bind (.check _ (by decide)) fun _ => .write _

theorem storeAction_unindexed (action : RecoveryAction) (version : Identifier) (n : Nat) (deadline : Instant) :
    Tx.Fails (storeAction action version n deadline) Unindexed := by
  refine .bind (.check _ rfl) fun _ => .bind (.check _ rfl) fun _ => .bind (.read _) fun existing => ?_
  cases existing with
  | some row => exact .pure _
  | none => exact .bind (.write _) fun _ => .pure _

theorem storeCustomerIntervention_unindexed (i : InterventionRow) : Tx.Fails (storeCustomerIntervention i) Unindexed := by
  refine .bind (.read _) fun existing => ?_
  cases existing with
  | some row => exact .check _ rfl
  | none => exact .bind (.read _) fun _ => .bind (.check _ (by decide)) fun _ => .write _

theorem storeActionIfAny_unindexed (r : EvaluationRequest) (ids : List Identifier) (action : Option RecoveryAction) :
    Tx.Fails (storeActionIfAny r ids action) Unindexed := by
  cases action with
  | none => exact .pure _
  | some action =>
    refine .bind (storeAction_unindexed _ _ _ _) fun _ => ?_
    split
    · split
      · exact storeCustomerIntervention_unindexed _
      · exact .pure _
    · exact .pure _

theorem decideCase_unindexed (rt : Runtime) (inputs : EvaluationInputs) (r : EvaluationRequest) (a : Assessment) :
    Tx.Fails (decideCase rt inputs r a) Unindexed := by
  refine .bind ?_ fun _ => .bind (recoveryTransition_unindexed _ _ _ _ _) fun _ => .bind (storeReceipt_unindexed _) fun _ =>
    .bind (storeActionIfAny_unindexed _ _ _) fun _ => .pure _
  split
  · exact storeReview_unindexed _
  · exact .pure _

theorem finishRouting_unindexed (rt : Runtime) (inputs : EvaluationInputs) (routed : Routed) :
    Tx.Fails (finishRouting rt inputs routed) Unindexed := by
  cases routed with
  | done result => exact .pure _
  | evaluate r => exact .bind (assessCase_unindexed rt inputs r) fun _ => decideCase_unindexed rt inputs r _

/-- The row stands beside no live case of its subject and no case of its episode. -/
structure CaseRow.Unrivalled (row : CaseRow) (cases : List CaseRow) : Prop where
  subject : ∀ r ∈ cases, ¬ (r.case.merchantId = row.case.merchantId ∧ r.case.workflowType = row.case.workflowType
    ∧ r.case.subjectType = row.case.subjectType ∧ r.case.subjectId = row.case.subjectId ∧ ¬ r.case.state.Terminal)
  episode : ∀ r ∈ cases, row.recoveryEpisodeKey.isSome = true → r.recoveryEpisodeKey ≠ row.recoveryEpisodeKey

theorem createCase_unindexed {row : CaseRow} {db : Database} {e : Failure} (alone : row.Unrivalled db.cases)
    (h : (createCase row).run db = .error e) : Unindexed e := by
  unfold createCase at h
  rw [Tx.bind_of_ok (Tx.run_read _ _)] at h
  rcases Tx.bind_error h with failed | ⟨_, _, checked, h⟩
  · exact Tx.Fails.check _ (by decide) _ _ failed
  obtain ⟨-, rfl⟩ := Tx.check_ok checked
  rw [Tx.bind_of_ok (Tx.run_read _ _)] at h
  rcases Tx.bind_error h with failed | ⟨_, _, checked, h⟩
  · exact Tx.Fails.check _ (by decide) _ _ failed
  obtain ⟨-, rfl⟩ := Tx.check_ok checked
  rw [Tx.bind_of_ok (Tx.run_read _ _), Tx.bind_of_ok (Tx.check_of alone.subject),
    Tx.bind_of_ok (Tx.check_of alone.episode)] at h
  cases h

end RevenueGuard
