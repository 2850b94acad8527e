import RevenueGuard.Protocol.Frames
import RevenueGuard.Protocol.Simulation
import RevenueGuard.Protocol.Writers

/-
Which outcomes a command adds. Outcomes are never changed; only a provider lookup
and a signed event add one that recovers money, and each says where it comes from.
-/
namespace RevenueGuard

variable {db db' : Database} {rt : Runtime} {P : VerifiedOutcome → Prop}

/-- Outcomes are added, each of this kind. -/
def Gains (P : VerifiedOutcome → Prop) (db db' : Database) : Prop :=
  ∃ more, db'.outcomes = db.outcomes ++ more ∧ ∀ o ∈ more, P o

theorem Gains.same (kept : db'.outcomes = db.outcomes) : Gains P db db' :=
  ⟨[], by rw [kept, List.append_nil], fun o none => absurd none List.not_mem_nil⟩

theorem Gains.refl (db : Database) : Gains P db db := .same rfl

theorem Gains.trans {d : Database} (first : Gains P db d) (second : Gains P d db') : Gains P db db' := by
  obtain ⟨more, grown, all⟩ := first
  obtain ⟨more', grown', all'⟩ := second
  refine ⟨more ++ more', by rw [grown', grown, List.append_assoc], fun o member => ?_⟩
  rcases List.mem_append.mp member with here | there
  · exact all o here
  · exact all' o there

theorem Gains.mono {Q : VerifiedOutcome → Prop} (gains : Gains P db db') (weaker : ∀ o, P o → Q o) : Gains Q db db' := by
  obtain ⟨more, grown, all⟩ := gains
  exact ⟨more, grown, fun o member => weaker o (all o member)⟩

/-- An outcome that a command stores is one that was there, or of its kind. -/
theorem Gains.mem {o : VerifiedOutcome} (gains : Gains P db db') (here : o ∈ db'.outcomes) : o ∈ db.outcomes ∨ P o := by
  obtain ⟨more, grown, all⟩ := gains
  rw [grown] at here
  exact (List.mem_append.mp here).imp_right (all o)

theorem gains_closed : Tx.Closed (Gains P) := ⟨.refl, .trans⟩

theorem gains_write {f : Database → Database} (kept : ∀ s, (f s).outcomes = s.outcomes) :
    Tx.Keeps (Tx.write f : Transaction Unit) (Gains P) := Tx.Closed.write fun s => .same (kept s)

section recovery

theorem lockMerchant_gains (m : Identifier) : Tx.Keeps (lockMerchant m) (Gains P) :=
  gains_closed.bind (gains_closed.read _) fun _ => gains_closed.check _ _

theorem effectivePolicy_gains (m : Identifier) (t : Instant) : Tx.Keeps (effectivePolicy m t) (Gains P) :=
  gains_closed.bind (gains_closed.read _) fun _ => gains_closed.bind (gains_closed.found _ _) fun _ =>
    gains_closed.bind (gains_closed.check _ _) fun _ => gains_closed.pure _

theorem linkEvidence_gains (link : CaseEventRow) : Tx.Keeps (linkEvidence link) (Gains P) := by
  refine gains_closed.bind (gains_closed.read _) fun existing => ?_
  cases existing with
  | some row => exact gains_closed.pure _
  | none => exact gains_closed.bind (gains_write fun _ => rfl) fun _ => gains_closed.pure _

theorem linkAuditOnly_gains (event : NormalizedEvent) (row : Option CaseRow) (reason : String) :
    Tx.Keeps (linkAuditOnly event row reason) (Gains P) :=
  gains_closed.bind (linkEvidence_gains _) fun _ => gains_closed.pure _

theorem createCase_gains (row : CaseRow) : Tx.Keeps (createCase row) (Gains P) :=
  gains_closed.bind (gains_closed.read _) fun _ => gains_closed.bind (gains_closed.check _ _) fun _ =>
    gains_closed.bind (gains_closed.read _) fun _ => gains_closed.bind (gains_closed.check _ _) fun _ =>
      gains_closed.bind (gains_closed.read _) fun _ => gains_closed.bind (gains_closed.check _ _) fun _ =>
        gains_closed.bind (gains_closed.check _ _) fun _ => gains_write fun _ => rfl

theorem recoveryTransition_gains (case : RecoveryCase) (t : Transition) (o : Option Diagnosis) (e : Option NormalizedEvent)
    (retry : Bool) : Tx.Keeps (recoveryTransition case t o e retry) (Gains P) := by
  intro s updated s' h
  obtain ⟨-, -, rfl⟩ := recoveryTransition_ran h
  exact .same rfl

theorem transitionIf_gains {c : Prop} [Decidable c] (case : RecoveryCase) (t : Transition) :
    Tx.Keeps (if c then recoveryTransition case t else pure case) (Gains P) := by
  split
  · exact recoveryTransition_gains _ _ _ _ _
  · exact gains_closed.pure _

theorem requireCase_gains (k : CaseKey) : Tx.Keeps (requireCase k) (Gains P) :=
  gains_closed.bind (gains_closed.read _) fun _ => gains_closed.found _ _

theorem advance_gains (case : RecoveryCase) (d : Diagnosis) (event : NormalizedEvent) (policy : MerchantPolicySnapshot)
    (t : Instant) : Tx.Keeps (advanceToDecisionPending case d event policy t) (Gains P) := by
  unfold advanceToDecisionPending
  dsimp only
  rw [Tx.ite_bind]
  refine gains_closed.bind (transitionIf_gains _ _) fun started => ?_
  split
  · exact recoveryTransition_gains _ _ _ _ _
  · exact recoveryTransition_gains _ _ _ _ _
  · exact gains_closed.pure _
  · exact gains_closed.pure _

theorem proceed_gains (case : RecoveryCase) (d : Diagnosis) (event : NormalizedEvent) (policy : MerchantPolicySnapshot)
    (t : Instant) : Tx.Keeps (proceedToEvaluation case d event policy t) (Gains P) := by
  refine gains_closed.bind (advance_gains _ _ _ _ _) fun pending => ?_
  split
  · exact gains_closed.pure _
  · exact gains_closed.pure _

theorem openCase_gains (caseId : Identifier) (identity : CaseIdentity) (d : Diagnosis) (event : NormalizedEvent)
    (policy : MerchantPolicySnapshot) (t : Instant) : Tx.Keeps (openCase caseId identity d event policy t) (Gains P) := by
  refine gains_closed.bind (createCase_gains _) fun _ => gains_closed.bind (linkEvidence_gains _) fun link => ?_
  split
  · exact proceed_gains _ _ _ _ _
  · exact gains_closed.pure _

theorem updateCase_gains (row : CaseRow) (d : Diagnosis) (event : NormalizedEvent) (policy : MerchantPolicySnapshot)
    (t : Instant) : Tx.Keeps (updateCase row d event policy t) (Gains P) := by
  refine gains_closed.bind (gains_closed.read _) fun ordering => gains_closed.bind (linkEvidence_gains _) fun link => ?_
  split
  · exact gains_closed.pure _
  split
  · exact gains_closed.pure _
  · exact gains_closed.bind (requireCase_gains _) fun _ => proceed_gains _ _ _ _ _

theorem routeEvent_gains (m eventId caseId : Identifier) (t : Instant) : Tx.Keeps (routeEvent m eventId caseId t) (Gains P) := by
  intro s routed s' h
  obtain ⟨-, event, _, -, route, ran⟩ := routeEvent_route h
  cases route with
  | unsupported unidentified => exact linkAuditOnly_gains _ _ _ _ _ _ ran
  | undiagnosed identity identified undiagnosed => exact linkAuditOnly_gains _ _ _ _ _ _ ran
  | opened identity diagnosis policy identified diagnosed unknown force => exact openCase_gains _ _ _ _ _ _ _ _ _ ran
  | ended identity diagnosis row identified diagnosed selected terminated => exact linkAuditOnly_gains _ _ _ _ _ _ ran
  | updated identity diagnosis policy row identified diagnosed selected live force =>
    exact updateCase_gains _ _ _ _ _ _ _ _ ran

theorem activeIncidents_gains (key : CaseKey) (t : Instant) (code : Option Identifier) :
    Tx.Keeps (activeIncidents key t code) (Gains P) :=
  gains_closed.bind (gains_closed.read _) fun _ => gains_closed.bind (gains_closed.read _) fun _ =>
    gains_closed.bind (gains_write fun _ => rfl) fun _ => gains_closed.pure _

theorem contactFacts_gains (r : EvaluationRequest) : Tx.Keeps (contactFacts r) (Gains P) := by
  unfold contactFacts
  split
  · exact gains_closed.pure _
  · refine gains_closed.bind (gains_closed.bind (gains_closed.read _) fun _ => gains_closed.bind (gains_closed.check _ _) fun _ =>
      gains_closed.read _) fun _ => gains_closed.bind ?_ fun _ => gains_closed.pure _
    unfold coordinateWith
    split
    · refine gains_closed.bind (gains_closed.read _) fun row => ?_
      cases row with
      | none => exact gains_closed.pure _
      | some row =>
        dsimp only
        split
        · exact gains_closed.pure _
        · exact gains_write fun _ => rfl
    · exact gains_closed.pure _

theorem assessCase_gains (inputs : EvaluationInputs) (r : EvaluationRequest) : Tx.Keeps (assessCase rt inputs r) (Gains P) :=
  gains_closed.bind (recoveryTransition_gains _ _ _ _ _) fun _ => gains_closed.bind (gains_closed.read _) fun _ =>
    gains_closed.bind (activeIncidents_gains _ _ _) fun _ => gains_closed.bind (contactFacts_gains r) fun _ =>
      gains_closed.bind (gains_closed.read _) fun _ => gains_closed.bind (gains_closed.read _) fun _ =>
        gains_closed.bind (gains_closed.lift _) fun _ => gains_closed.bind (gains_closed.lift _) fun _ => gains_closed.pure _

theorem storeReview_gains (review : HumanReviewRequest) : Tx.Keeps (storeReview review) (Gains P) :=
  gains_closed.bind (gains_closed.read _) fun _ => gains_closed.bind (gains_closed.check _ _) fun _ => gains_write fun _ => rfl

theorem storeReceipt_gains (receipt : ReceiptRow) : Tx.Keeps (storeReceipt receipt) (Gains P) :=
  gains_closed.bind (gains_closed.read _) fun _ => gains_closed.bind (gains_closed.check _ _) fun _ => gains_write fun _ => rfl

theorem storeAction_gains (action : RecoveryAction) (version : Identifier) (n : Nat) (deadline : Instant) :
    Tx.Keeps (storeAction action version n deadline) (Gains P) := by
  refine gains_closed.bind (gains_closed.check _ _) fun _ => gains_closed.bind (gains_closed.check _ _) fun _ =>
    gains_closed.bind (gains_closed.read _) fun existing => ?_
  cases existing with
  | some row => exact gains_closed.pure _
  | none => exact gains_closed.bind (gains_write fun _ => rfl) fun _ => gains_closed.pure _

theorem storeCustomerIntervention_gains (i : InterventionRow) : Tx.Keeps (storeCustomerIntervention i) (Gains P) := by
  refine gains_closed.bind (gains_closed.read _) fun existing => ?_
  cases existing with
  | some row => exact gains_closed.check _ _
  | none => exact gains_closed.bind (gains_closed.read _) fun _ => gains_closed.bind (gains_closed.check _ _) fun _ => gains_write fun _ => rfl

theorem storeActionIfAny_gains (r : EvaluationRequest) (ids : List Identifier) (action : Option RecoveryAction) :
    Tx.Keeps (storeActionIfAny r ids action) (Gains P) := by
  cases action with
  | none => exact gains_closed.pure _
  | some action =>
    refine gains_closed.bind (storeAction_gains _ _ _ _) fun _ => ?_
    split
    · split
      · exact storeCustomerIntervention_gains _
      · exact gains_closed.pure _
    · exact gains_closed.pure _

theorem decideCase_gains (inputs : EvaluationInputs) (r : EvaluationRequest) (a : Assessment) :
    Tx.Keeps (decideCase rt inputs r a) (Gains P) := by
  refine gains_closed.bind ?_ fun _ => gains_closed.bind (recoveryTransition_gains _ _ _ _ _) fun _ =>
    gains_closed.bind (storeReceipt_gains _) fun _ => gains_closed.bind (storeActionIfAny_gains _ _ _) fun _ => gains_closed.pure _
  generalize (if a.decision.result = .requireHuman then
    some (buildReview rt inputs.reviewId a.checking r.policy a.decision r.evaluatedAt) else none) = review
  cases review with
  | none => exact gains_closed.pure _
  | some review => exact storeReview_gains review

theorem evaluateCase_gains (inputs : EvaluationInputs) (r : EvaluationRequest) : Tx.Keeps (evaluateCase rt inputs r) (Gains P) :=
  gains_closed.bind (assessCase_gains inputs r) fun a => decideCase_gains inputs r a

theorem finishRouting_gains (inputs : EvaluationInputs) (routed : Routed) : Tx.Keeps (finishRouting rt inputs routed) (Gains P) := by
  cases routed with
  | done result => exact gains_closed.pure _
  | evaluate request => exact evaluateCase_gains inputs request

theorem reevaluateRow_gains (inputs : CaseKey → EvaluationInputs) (t : Instant) (row : CaseRow) :
    Tx.Keeps (reevaluateRow rt inputs t row) (Gains P) := by
  refine gains_closed.bind ?_ fun request => evaluateCase_gains _ request
  exact gains_closed.bind (gains_closed.found _ _) fun _ => gains_closed.bind (gains_closed.read _) fun _ =>
    gains_closed.bind (gains_closed.found _ _) fun _ => gains_closed.bind (gains_closed.found _ _) fun _ =>
      gains_closed.bind (effectivePolicy_gains _ _) fun _ => gains_closed.bind (requireCase_gains _) fun _ =>
        gains_closed.bind (recoveryTransition_gains _ _ _ _ _) fun _ => gains_closed.pure _

theorem reevaluateDeferred_gains (inputs : CaseKey → EvaluationInputs) (t : Instant) (limit : Nat) :
    Tx.Keeps (reevaluateDeferred rt inputs t limit) (Gains P) :=
  gains_closed.bind (gains_closed.check _ _) fun _ => gains_closed.bind (gains_closed.read _) fun rows =>
    gains_closed.each (fun row => reevaluateRow_gains inputs t row) rows

theorem updateReviewDecision_gains (m : Identifier) (review : HumanReviewRequest) :
    Tx.Keeps (updateReviewDecision m review) (Gains P) :=
  gains_closed.bind (gains_closed.check _ _) fun _ => gains_closed.bind (gains_closed.read _) fun _ =>
    gains_closed.bind (gains_closed.check _ _) fun _ => gains_write fun _ => rfl

theorem stopReviewed_gains (case : RecoveryCase) (reason : String) (decision : HumanReviewDecision)
    (policy : MerchantPolicySnapshot) (t : Instant) (decided : HumanReviewRequest) :
    Tx.Keeps (stopReviewed case reason decision policy t decided) (Gains P) :=
  gains_closed.bind (updateReviewDecision_gains _ _) fun _ => gains_closed.bind (recoveryTransition_gains _ _ _ _ _) fun _ =>
    gains_closed.pure _

theorem routeReview_gains (m : Identifier) (decision : HumanReviewDecision) (t : Instant) :
    Tx.Keeps (routeReview m decision t) (Gains P) := by
  refine gains_closed.bind (gains_closed.check _ _) fun _ => gains_closed.bind (lockMerchant_gains _) fun _ =>
    gains_closed.bind (gains_closed.read _) fun _ => gains_closed.bind (gains_closed.found _ _) fun _ =>
      gains_closed.bind (requireCase_gains _) fun _ => gains_closed.bind (effectivePolicy_gains _ _) fun _ => ?_
  split
  · exact gains_closed.bind (gains_closed.lift _) fun _ => stopReviewed_gains _ _ _ _ _ _
  · refine gains_closed.bind (gains_closed.lift _) fun _ => ?_
    split
    · exact stopReviewed_gains _ _ _ _ _ _
    · exact gains_closed.bind (updateReviewDecision_gains _ _) fun _ => gains_closed.bind (gains_closed.read _) fun _ =>
        gains_closed.bind (gains_closed.found _ _) fun _ => gains_closed.bind (gains_closed.read _) fun _ =>
          gains_closed.bind (gains_closed.found _ _) fun _ => gains_closed.bind (recoveryTransition_gains _ _ _ _ _) fun _ =>
            gains_closed.pure _

end recovery

section reminders

theorem assessReminder_gains (t : Instant) (promise : PromiseRow) : Tx.Keeps (assessReminder rt t promise) (Gains P) := by
  refine gains_closed.bind (gains_closed.read _) fun _ => gains_closed.bind (gains_closed.found _ _) fun _ =>
    gains_closed.bind (effectivePolicy_gains _ _) fun _ => ?_
  rw [Tx.ite_bind]
  refine gains_closed.bind (transitionIf_gains _ _) fun _ => ?_
  dsimp only
  split
  · exact gains_closed.pure _
  · exact gains_closed.bind (recoveryTransition_gains _ _ _ _ _) fun _ => gains_closed.bind (gains_closed.read _) fun _ =>
      gains_closed.bind (activeIncidents_gains _ _ _) fun _ => gains_closed.bind (gains_closed.lift _) fun _ =>
        gains_closed.bind (gains_closed.lift _) fun _ => gains_closed.pure _

theorem decideReminder_gains (t : Instant) (promise : PromiseRow) (a : ReminderAssessment) :
    Tx.Keeps (decideReminder t promise a) (Gains P) := by
  refine gains_closed.bind (recoveryTransition_gains _ _ _ _ _) fun _ => gains_closed.bind (storeReceipt_gains _) fun _ => ?_
  split
  · exact gains_closed.bind (storeAction_gains _ _ _ _) fun _ => gains_closed.bind (gains_closed.bind (gains_closed.read _) fun _ =>
      gains_closed.bind (gains_closed.check _ _) fun _ => gains_write fun _ => rfl) fun _ => gains_closed.pure _
  · refine gains_closed.bind ?_ fun _ => gains_closed.pure _
    cases a.decision.nextEvaluationAt with
    | none => exact gains_closed.pure _
    | some wake => exact gains_write fun _ => rfl

theorem remindPromise_gains (t : Instant) (promise : PromiseRow) : Tx.Keeps (remindPromise rt t promise) (Gains P) := by
  refine gains_closed.bind (assessReminder_gains _ _) fun assessed => ?_
  cases assessed with
  | none => exact gains_closed.pure _
  | some a => exact decideReminder_gains _ _ a

theorem scheduleDuePromiseReminders_gains (t : Instant) (limit : Nat) :
    Tx.Keeps (scheduleDuePromiseReminders rt t limit) (Gains P) :=
  gains_closed.bind (gains_closed.check _ _) fun _ => gains_closed.bind (gains_closed.read _) fun rows =>
    gains_closed.each (fun promise => remindPromise_gains t promise) rows

end reminders

section execution

/-- An outcome that recovers nothing. -/
def VerifiedOutcome.Nothing (o : VerifiedOutcome) : Prop := o.recoveredAmountMinor = 0

theorem updateAction_gains (id : ActionIdentity) (f : ActionRow → ActionRow) :
    Tx.Keeps (Tx.write (updateAction id f) : Transaction Unit) (Gains P) := gains_write fun _ => rfl

theorem storeObservation_gains {o : VerifiedOutcome} (own : P o) : Tx.Keeps (storeObservation o) (Gains P) := by
  refine gains_closed.bind (gains_closed.lift _) fun _ => gains_closed.bind (gains_closed.read _) fun existing => ?_
  cases existing with
  | some row => exact gains_closed.pure _
  | none =>
    refine gains_closed.bind (gains_closed.check _ _) fun _ => gains_closed.bind (gains_closed.read _) fun _ =>
      gains_closed.bind (gains_closed.check _ _) fun _ => ?_
    refine Tx.Closed.write fun s => ⟨[o], rfl, fun p member => ?_⟩
    rw [List.mem_singleton.mp member]
    exact own

theorem requiredCase_gains (action : ActionRow) : Tx.Keeps (requiredCase action) (Gains P) :=
  gains_closed.bind (gains_closed.read _) fun _ => gains_closed.found _ _

theorem executionTransition_gains (case : RecoveryCase) (action : ActionRow) (s : CaseState) (reason : String) (t : Instant)
    (reference terminal : Option String) (wake : Option Instant) (version : Identifier) :
    Tx.Keeps (executionTransition case action s reason t reference terminal wake version) (Gains P) :=
  recoveryTransition_gains _ _ _ _ _

theorem rerouteBlocked_gains (action : ActionRow) (case : RecoveryCase) (check : FinalPolicyCheck) (t : Instant) :
    Tx.Keeps (rerouteBlocked action case check t) (Gains P) := by
  unfold rerouteBlocked
  dsimp only
  split
  · exact recoveryTransition_gains _ _ _ _ _
  · exact gains_closed.bind (recoveryTransition_gains _ _ _ _ _) fun _ =>
      gains_closed.bind (recoveryTransition_gains _ _ _ _ _) fun _ => recoveryTransition_gains _ _ _ _ _
  · exact gains_closed.bind (recoveryTransition_gains _ _ _ _ _) fun _ => gains_closed.bind (storeReview_gains _) fun _ =>
      gains_closed.bind (recoveryTransition_gains _ _ _ _ _) fun _ => recoveryTransition_gains _ _ _ _ _
  · exact recoveryTransition_gains _ _ _ _ _

theorem blockExecution_gains (action : ActionRow) (case : RecoveryCase) (check : FinalPolicyCheck) (t : Instant) :
    Tx.Keeps (blockExecution action case check t) (Gains P) := by
  unfold blockExecution
  dsimp only
  rw [Tx.ite_bind]
  exact gains_closed.bind (gains_closed.bind (gains_closed.check _ _) fun _ => gains_write fun _ => rfl) fun _ =>
    gains_closed.bind (transitionIf_gains _ _) fun _ => gains_closed.bind (executionTransition_gains _ _ _ _ _ _ _ _ _) fun _ =>
      gains_closed.bind (rerouteBlocked_gains _ _ _ _) fun _ => gains_closed.pure _

theorem beginAttempt_gains (id : ActionIdentity) (token : String) (t : Instant) : Tx.Keeps (beginAttempt id token t) (Gains P) :=
  gains_closed.bind (gains_closed.read _) fun _ => gains_closed.bind (gains_closed.found _ _) fun _ =>
    gains_closed.bind (gains_closed.check _ _) fun _ => gains_closed.bind (gains_closed.check _ _) fun _ =>
      gains_closed.bind (gains_closed.check _ _) fun _ => gains_closed.bind (gains_closed.check _ _) fun _ =>
        gains_closed.bind (gains_closed.check _ _) fun _ => gains_closed.bind (gains_closed.check _ _) fun _ =>
          gains_closed.bind (gains_write fun _ => rfl) fun _ => gains_closed.pure _

theorem recordExecutionAttemptCounters_gains (case : RecoveryCase) (retry contact : Nat) (t : Instant) :
    Tx.Keeps (recordExecutionAttemptCounters case retry contact t) (Gains P) := by
  refine gains_closed.bind (gains_closed.check _ _) fun _ => gains_closed.bind (gains_closed.check _ _) fun _ => ?_
  split
  · exact gains_closed.pure _
  · exact gains_closed.bind (gains_closed.check _ _) fun _ => gains_closed.bind (gains_closed.read _) fun _ =>
      gains_closed.bind (gains_closed.check _ _) fun _ => gains_closed.bind (gains_write fun _ => rfl) fun _ => gains_closed.pure _

theorem beginExecution_gains (action : ActionRow) (case : RecoveryCase) (token : String) (t : Instant) :
    Tx.Keeps (beginExecution rt action case token t) (Gains P) := by
  refine gains_closed.bind (beginAttempt_gains _ _ _) fun _ =>
    gains_closed.bind (gains_closed.bind (recordExecutionAttemptCounters_gains _ _ _ _) fun _ => ?_) fun _ =>
      gains_closed.bind (gains_closed.lift _) fun _ => gains_closed.pure _
  split
  · exact gains_closed.bind (executionTransition_gains _ _ _ _ _ _ _ _ _) fun _ => gains_closed.pure _
  · split
    · exact gains_closed.pure _
    · exact gains_write fun _ => rfl

theorem prepareExecution_gains (id : ActionIdentity) (token : String) (t : Instant) :
    Tx.Keeps (prepareExecution rt id token t) (Gains P) := by
  refine gains_closed.bind (gains_closed.read _) fun _ => gains_closed.bind (gains_closed.found _ _) fun action =>
    gains_closed.bind (requiredCase_gains _) fun _ => gains_closed.bind (gains_closed.check _ _) fun _ =>
      gains_closed.bind (fun s checked s' h => ?_) fun check => ?_
  · obtain ⟨rfl, -⟩ := finalPolicyDecision_effect h
    refine .same ?_
    unfold attachIncidents
    split <;> rfl
  · split
    · exact gains_closed.bind (blockExecution_gains _ _ _ _) fun _ => gains_closed.pure _
    · exact beginExecution_gains _ _ _ _

theorem finishAttempt_gains (id : ActionIdentity) (token : String) (c : AttemptCompletion) (again deadline : Instant) :
    Tx.Keeps (finishAttempt id token c again deadline) (Gains P) :=
  gains_closed.bind (gains_closed.read _) fun _ => gains_closed.bind (gains_closed.found _ _) fun _ =>
    gains_closed.bind (gains_closed.check _ _) fun _ => gains_closed.bind (gains_closed.check _ _) fun _ =>
      gains_closed.bind (gains_closed.check _ _) fun _ => gains_closed.bind (gains_closed.check _ _) fun _ =>
        gains_closed.bind (gains_closed.check _ _) fun _ => gains_closed.bind (gains_write fun _ => rfl) fun _ =>
          gains_closed.pure _

/-- A provider's answer credits nothing: what it accepted is still to be verified. -/
theorem recordExecutionResult_gains (id : ActionIdentity) (token : String) (result : ProviderExecutionResult) :
    Tx.Keeps (recordExecutionResult rt id token result) (Gains VerifiedOutcome.Nothing) := by
  refine gains_closed.bind (gains_closed.read _) fun _ => gains_closed.bind (gains_closed.found _ _) fun _ =>
    gains_closed.bind (finishAttempt_gains _ _ _ _ _) fun action => gains_closed.bind (requiredCase_gains _) fun case => ?_
  split
  · exact gains_closed.pure _
  split
  · exact gains_closed.bind (executionTransition_gains _ _ _ _ _ _ _ _ _) fun _ =>
      gains_closed.bind (storeObservation_gains rfl) fun _ => gains_closed.pure _
  split
  · exact gains_closed.bind (executionTransition_gains _ _ _ _ _ _ _ _ _) fun _ =>
      gains_closed.bind (storeObservation_gains rfl) fun _ => gains_closed.pure _
  · exact gains_closed.bind (executionTransition_gains _ _ _ _ _ _ _ _ _) fun _ =>
      gains_closed.bind (storeObservation_gains rfl) fun _ =>
        gains_closed.bind (executionTransition_gains _ _ _ _ _ _ _ _ _) fun _ => gains_closed.pure _

theorem markStaleCall_gains (t : Instant) (action : ActionRow) :
    Tx.Keeps (markStaleCall rt t action) (Gains VerifiedOutcome.Nothing) := by
  unfold markStaleCall
  dsimp only
  refine gains_closed.bind (gains_closed.bind (gains_closed.read _) fun _ => gains_closed.bind (gains_closed.found _ _) fun _ =>
    gains_closed.bind (gains_closed.check _ _) fun _ => gains_closed.bind (gains_closed.check _ _) fun _ =>
      gains_closed.bind (gains_closed.check _ _) fun _ => gains_write fun _ => rfl) fun _ =>
    gains_closed.bind (requiredCase_gains _) fun case => ?_
  rw [Tx.ite_bind]
  exact gains_closed.bind (transitionIf_gains _ _) fun _ => gains_closed.bind (storeObservation_gains rfl) fun _ =>
    gains_closed.pure _

theorem markStaleCallsUnknown_gains (now : Instant) (limit : Nat) :
    Tx.Keeps (markStaleCallsUnknown rt now limit) (Gains VerifiedOutcome.Nothing) :=
  gains_closed.bind (gains_closed.check _ _) fun _ => gains_closed.bind (gains_closed.read _) fun rows =>
    gains_closed.each (fun action => markStaleCall_gains now action) rows

theorem claimDueActions_gains (tokens : ActionIdentity → String) (now : Instant) (leaseFor : Int) (limit : Nat) :
    Tx.Keeps (claimDueActions rt tokens now leaseFor limit) (Gains P) :=
  gains_closed.bind (gains_closed.check _ _) fun _ => gains_closed.bind (gains_closed.read _) fun rows =>
    gains_closed.each (fun row => gains_closed.bind (updateAction_gains _ _) fun _ => gains_closed.pure _) rows

end execution

section lookups

variable {action : ActionRow} {case : RecoveryCase} {result : ProviderLookupResult}

theorem setActionResolution_gains (action : ActionRow) (status : ActionStatus) (t : Instant) (object code : Option String) :
    Tx.Keeps (setActionResolution action status t object code) (Gains P) :=
  gains_closed.bind (gains_closed.check _ _) fun _ => gains_closed.bind (gains_write fun _ => rfl) fun _ =>
    gains_closed.pure _

/-- What a lookup's outcome owes to its answer. -/
structure LookedUp (id : ActionIdentity) (result : ProviderLookupResult) (o : VerifiedOutcome) : Prop where
  action : o.actionId = id
  merchant : o.merchantId = id.merchantId
  source : o.evidenceSource = result.evidenceSource
  reference : o.evidenceReference = some result.evidenceReference
  observed : o.observedAt = result.observedAt
  credited : o.recoveredAmountMinor ≠ 0 → result.credits = true

theorem lookup_looked {r : ActionRow} {id : ActionIdentity} (named : r.id = id) (reason : Option String) {amount : Nat}
    (credited : amount ≠ 0 → result.credits = true) (status : ActionStatus) (authoritative : Bool) :
    LookedUp id result (observation r status result.evidenceSource result.observedAt (some result.evidenceReference) reason
      authoritative amount) :=
  ⟨named, congrArg ActionIdentity.merchantId named, rfl, rfl, rfl, credited⟩

theorem reconcile_gains (action : ActionRow) (case : RecoveryCase) (result : ProviderLookupResult) :
    Tx.Keeps (reconcile action case result) (Gains (LookedUp action.id result)) := by
  intro s out s' h
  unfold reconcile at h
  dsimp only at h
  rw [Tx.ite_bind] at h
  obtain ⟨after, d1, resolve, h⟩ := Tx.bind_ok h
  have resolves := resolveIf_effect resolve
  rw [Tx.ite_bind] at h
  obtain ⟨verifying, d2, verify, h⟩ := Tx.bind_ok h
  obtain ⟨_, d3, store, h⟩ := Tx.bind_ok h
  obtain ⟨settled, d4, settle, h⟩ := Tx.bind_ok h
  obtain ⟨-, rfl⟩ := Tx.pure_ok h
  have first : Gains (LookedUp action.id result) s d1 := by
    split at resolve
    · exact setActionResolution_gains _ _ _ _ _ _ _ _ resolve
    · obtain ⟨-, rfl⟩ := Tx.pure_ok resolve
      exact .refl _
  have second : Gains (LookedUp action.id result) d1 d2 := transitionIf_gains _ _ _ _ _ verify
  have looked : ∀ amount : Nat, (amount = if result.credits then after.action.parameters.amountMinor else 0) →
      (amount ≠ 0 → result.credits = true) := by
    intro amount same paid
    by_contra uncredited
    rw [if_neg uncredited] at same
    exact paid same
  have third : Gains (LookedUp action.id result) d2 d3 :=
    storeObservation_gains (lookup_looked resolves.id result.reasonCode (looked _ rfl) _ _) _ _ _ store
  refine ((first.trans second).trans third).trans ?_
  unfold settleLookup at settle
  dsimp only at settle
  split at settle
  · exact executionTransition_gains _ _ _ _ _ _ _ _ _ _ _ _ settle
  split at settle
  · exact executionTransition_gains _ _ _ _ _ _ _ _ _ _ _ _ settle
  · obtain ⟨-, rfl⟩ := Tx.pure_ok settle
    exact .refl _

theorem escalateUnresolved_gains (action : ActionRow) (case : RecoveryCase) (result : ProviderLookupResult) :
    Tx.Keeps (escalateUnresolved action case result) (Gains P) :=
  gains_closed.bind (updateAction_gains _ _) fun _ => gains_closed.bind (executionTransition_gains _ _ _ _ _ _ _ _ _)
    fun _ => gains_closed.pure _

theorem expireVerification_gains (action : ActionRow) (case : RecoveryCase) (result : ProviderLookupResult) {s s' : Database}
    {out : ActionRow × RecoveryCase} (h : (expireVerification action case result).run s = .ok (out, s')) :
    out.1.id = action.id ∧ Gains (LookedUp action.id result) s s' := by
  obtain ⟨marked, d1, mark, h⟩ := Tx.bind_ok h
  obtain ⟨moved, d2, move, h⟩ := Tx.bind_ok h
  obtain ⟨_, d3, store, h⟩ := Tx.bind_ok h
  obtain ⟨rfl, rfl⟩ := Tx.pure_ok h
  obtain ⟨_, _, checked, mark⟩ := Tx.bind_ok mark
  obtain ⟨-, rfl⟩ := Tx.check_ok checked
  obtain ⟨_, d, written, mark⟩ := Tx.bind_ok mark
  obtain ⟨same, kept⟩ := Tx.pure_ok mark
  subst same kept
  have first : Gains (LookedUp action.id result) s d := updateAction_gains _ _ _ _ _ written
  have second : Gains (LookedUp action.id result) d d2 := executionTransition_gains _ _ _ _ _ _ _ _ _ _ _ _ move
  have third : Gains (LookedUp action.id result) d2 d3 :=
    storeObservation_gains (lookup_looked rfl _ (fun some_ => absurd rfl some_) _ _) _ _ _ store
  exact ⟨rfl, (first.trans second).trans third⟩

/-- A lookup credits its own action only, and only with an authoritative success. -/
theorem recordLookup_gains (id : ActionIdentity) (result : ProviderLookupResult) :
    Tx.Keeps (recordLookup id result) (Gains (LookedUp id result)) := by
  intro s out s' h
  obtain ⟨found, _, read, h⟩ := Tx.bind_ok h
  obtain ⟨rfl, rfl⟩ := Tx.read_ok read
  obtain ⟨action, _, got, h⟩ := Tx.bind_ok h
  obtain ⟨stored, rfl⟩ := Tx.found_ok got
  rw [show id = action.id from (Table.lookup_key stored).symm]
  obtain ⟨case, d1, required, h⟩ := Tx.bind_ok h
  have same := (requiredCase_effect required).2
  subst same
  split at h
  · obtain ⟨-, rfl⟩ := Tx.pure_ok h
    exact .refl _
  dsimp only at h
  rw [Tx.ite_bind] at h
  obtain ⟨current, d2, expire, h⟩ := Tx.bind_ok h
  have expired : current.1.id = action.id ∧ Gains (LookedUp action.id result) s d2 := by
    split at expire
    · exact expireVerification_gains _ _ _ expire
    · obtain ⟨rfl, rfl⟩ := Tx.pure_ok expire
      exact ⟨rfl, .refl _⟩
  refine expired.2.trans ?_
  unfold settleLookupDeadline at h
  split at h
  · exact escalateUnresolved_gains _ _ _ _ _ _ h
  split at h
  · obtain ⟨-, rfl⟩ := Tx.pure_ok h
    exact .refl _
  · rw [← expired.1]
    exact reconcile_gains _ _ _ _ _ _ h

end lookups

section signed

variable {event : NormalizedEvent} {webhook : Identifier}

/-- What a signed event's outcome owes to the event. -/
structure CreditedBy (event : NormalizedEvent) (webhook : Identifier) (o : VerifiedOutcome) : Prop where
  success : event.eventType.val ∈ signedSuccessEvents
  merchant : o.merchantId = event.merchantId
  source : o.evidenceSource = .signedWebhook
  reference : o.evidenceReference = some (webhookReference webhook)
  amount : o.recoveredAmountMinor = event.amountMinor
  currency : o.currency = event.currency
  observed : o.observedAt = event.occurredAt

theorem acknowledgeSigned_gains (case : RecoveryCase) (action : ActionRow) (event : NormalizedEvent) (reference : String) :
    Tx.Keeps (acknowledgeSigned case action event reference) (Gains P) := transitionIf_gains _ _

theorem creditSigned_gains {action : ActionRow} {case : RecoveryCase} (success : event.eventType.val ∈ signedSuccessEvents)
    (merchant : action.merchantId = event.merchantId) (agrees : amountMatches action event = true) :
    Tx.Keeps (creditSigned action case event (webhookReference webhook)) (Gains (CreditedBy event webhook)) := by
  intro s out s' h
  obtain ⟨after, d1, resolve, h⟩ := Tx.bind_ok h
  have resolves := resolve_effect resolve
  have first : Gains (CreditedBy event webhook) s d1 :=
    setActionResolution_gains _ _ _ _ _ _ _ _ resolve
  refine first.trans (gains_closed.bind (acknowledgeSigned_gains _ _ _ _) (fun known => ?_) _ _ _ h)
  split
  · exact gains_closed.pure _
  · refine gains_closed.bind (storeObservation_gains ?_) fun _ =>
      gains_closed.bind (executionTransition_gains _ _ _ _ _ _ _ _ _) fun _ => gains_closed.pure _
    simp only [amountMatches, Bool.and_eq_true, beq_iff_eq] at agrees
    refine ⟨success, ?_, rfl, rfl, rfl, ?_, rfl⟩
    · exact (congrArg ActionIdentity.merchantId resolves.id).trans merchant
    · exact (congrArg ActionParameters.currency resolves.parameters).trans agrees.2.symm

/-- A signed event credits its own amount to its own merchant, under the webhook it came with. -/
theorem verifySignedEvent_gains (event : NormalizedEvent) (webhook : Identifier) :
    Tx.Keeps (verifySignedEvent rt event webhook) (Gains (CreditedBy event webhook)) := by
  intro s out s' h
  unfold verifySignedEvent at h
  split at h
  · obtain ⟨-, rfl⟩ := Tx.pure_ok h
    exact .refl _
  rename_i success
  obtain ⟨credited, d1, search, h⟩ := Tx.bind_ok h
  obtain ⟨rfl, spec⟩ := creditedAction_effect search
  cases credited with
  | none =>
    obtain ⟨-, rfl⟩ := Tx.pure_ok h
    exact .refl _
  | some action =>
    refine gains_closed.bind (gains_closed.bind (requiredCase_gains _) fun case => ?_) (fun _ => gains_closed.pure _) _ _ _ h
    split
    · exact gains_closed.pure _
    split
    · exact gains_closed.bind (acknowledgeSigned_gains _ _ _ _) fun _ =>
        gains_closed.bind (executionTransition_gains _ _ _ _ _ _ _ _ _) fun _ => gains_closed.pure _
    · rename_i agrees
      exact creditSigned_gains (not_not.mp success) (spec action rfl).2.1 (by simpa using agrees)

end signed

section commands

/-- The outcomes a command may add. -/
def Command.Books : Command → VerifiedOutcome → Prop
  | .recordLookup id result => LookedUp id result
  | .verifySignedEvent event webhook => CreditedBy event webhook
  | _ => VerifiedOutcome.Nothing

theorem commit_gains {A : Type} {x : Transaction A} (keeps : Tx.Keeps x (Gains P)) (db : Database) : Gains P db (x.commit db) :=
  Tx.commit_relates (R := Gains P) (.refl db) (keeps _ _ _)

theorem ambient_gains {A : Type} {x : Transaction A} (ambient : ∀ {a db'}, x.run db = .ok (a, db') → Ambient db db') :
    Gains P db (x.commit db) :=
  Tx.commit_relates (R := Gains P) (.refl db) fun h => .same (ambient h).outcomes

theorem exec_gains (rt : Runtime) (c : Command) (db : Database) : Gains c.Books db (exec rt c db) := by
  cases c with
  | registerMerchant m => exact ambient_gains registerMerchant_ambient
  | upsertCustomer row => exact ambient_gains upsertCustomer_ambient
  | upsertPayment row => exact ambient_gains upsertPayment_ambient
  | upsertSubscription row => exact ambient_gains upsertSubscription_ambient
  | persistNormalizedEvent event => exact ambient_gains fun h => (persistNormalizedEvent_persists event _ _ _ h).ambient
  | putMerchantRow row => exact ambient_gains putMerchantRow_ambient
  | publishPolicy m policy => exact ambient_gains publishPolicy_ambient
  | applyDegradationAssessment a policy id => exact ambient_gains applyDegradationAssessment_ambient
  | processEvent inputs m e caseId t =>
    exact commit_gains (gains_closed.bind (routeEvent_gains _ _ _ _) fun routed => finishRouting_gains inputs routed) db
  | reevaluateDeferred inputs t limit => exact commit_gains (reevaluateDeferred_gains inputs t limit) db
  | decideReview inputs m decision t =>
    exact commit_gains (gains_closed.bind (routeReview_gains _ _ _) fun routed => finishRouting_gains inputs routed) db
  | closeExpiredCustomerInterventions t limit => exact ambient_gains closeExpiredCustomerInterventions_ambient
  | recordOverdueInvoice m source invoice t t' => exact ambient_gains recordOverdueInvoice_ambient
  | recordCustomerResponse m source invoiceId body reply t => exact ambient_gains recordCustomerResponse_ambient
  | scheduleDuePromiseReminders t limit => exact commit_gains (scheduleDuePromiseReminders_gains t limit) db
  | escalateBrokenPromises t limit => exact ambient_gains escalateBrokenPromises_ambient
  | claimDueActions tokens now leaseFor limit => exact commit_gains (claimDueActions_gains tokens now leaseFor limit) db
  | prepareExecution id token t => exact commit_gains (prepareExecution_gains id token t) db
  | recordExecutionResult id token result => exact commit_gains (recordExecutionResult_gains id token result) db
  | markStaleCallsUnknown now limit => exact commit_gains (markStaleCallsUnknown_gains now limit) db
  | recordLookup id result => exact commit_gains (recordLookup_gains id result) db
  | verifySignedEvent event webhook => exact commit_gains (verifySignedEvent_gains event webhook) db

end commands

end RevenueGuard
