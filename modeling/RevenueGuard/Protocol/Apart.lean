import RevenueGuard.Protocol.Frames

/-
Invoices, promises and incidents move only by the commands that are about them:
evaluation, execution, reminders and ingestion leave all three as they stand.
-/
namespace RevenueGuard

variable {db d db' : Database} {rt : Runtime} {t : Instant}

theorem apart_of {A : Type} {x : Transaction A} (keeps : Tx.Keeps x Spared) : Tx.Keeps x Apart :=
  keeps.mono fun h => h.apart

theorem apart_write {f : Database → Database} (apart : ∀ s, Apart s (f s)) :
    Tx.Keeps (Tx.write f : Transaction Unit) Apart := Tx.Closed.write apart

theorem updateAction_apart (id : ActionIdentity) (f : ActionRow → ActionRow) :
    Tx.Keeps (Tx.write (updateAction id f) : Transaction Unit) Apart := apart_write fun _ => ⟨⟨rfl, rfl, rfl⟩, rfl, rfl⟩

section evaluation

theorem storeAction_apart (action : RecoveryAction) (version : Identifier) (n : Nat) (deadline : Instant) :
    Tx.Keeps (storeAction action version n deadline) Apart := by
  intro s row s' h
  obtain ⟨-, ⟨-, rfl⟩ | ⟨-, rfl, rfl⟩⟩ := storeAction_ok h
  · exact .refl _
  · exact ⟨⟨rfl, rfl, rfl⟩, rfl, rfl⟩

theorem storeCustomerIntervention_apart (row : InterventionRow) :
    Tx.Keeps (storeCustomerIntervention row) Apart := by
  refine apart_closed.bind (apart_closed.read _) fun existing => ?_
  cases existing with
  | some current => exact apart_closed.check _ _
  | none => exact apart_closed.bind (apart_closed.read _) fun _ => apart_closed.bind (apart_closed.check _ _) fun _ =>
      apart_write fun _ => ⟨⟨rfl, rfl, rfl⟩, rfl, rfl⟩

theorem storeAuthorizedAction_apart (r : EvaluationRequest) (ids : List Identifier) (action : RecoveryAction) :
    Tx.Keeps (storeAuthorizedAction r ids action) Apart := by
  refine apart_closed.bind (storeAction_apart _ _ _ _) fun _ => ?_
  split
  · split
    · exact storeCustomerIntervention_apart _
    · exact apart_closed.pure _
  · exact apart_closed.pure _

theorem decideCase_apart (inputs : EvaluationInputs) (r : EvaluationRequest) (a : Assessment) :
    Tx.Keeps (decideCase rt inputs r a) Apart := by
  refine apart_closed.bind (apart_of (storeReviewIfAny_spared _)) fun _ =>
    apart_closed.bind (apart_of (recoveryTransition_spared _ _ _ _ _)) fun decided =>
      apart_closed.bind (apart_of (storeReceipt_spared _)) fun _ =>
        apart_closed.bind ?_ fun _ => apart_closed.pure _
  cases buildAction decided a.decision (.generated inputs.receiptId) r.evaluatedAt a.activeCaseIds with
  | none => exact apart_closed.pure _
  | some action => exact storeAuthorizedAction_apart _ _ _

theorem evaluateCase_apart (inputs : EvaluationInputs) (r : EvaluationRequest) :
    Tx.Keeps (evaluateCase rt inputs r) Apart :=
  apart_closed.bind (apart_of (assessCase_spared _ _)) fun _ => decideCase_apart _ _ _

theorem finishRouting_apart (inputs : EvaluationInputs) (routed : Routed) :
    Tx.Keeps (finishRouting rt inputs routed) Apart := by
  cases routed with
  | done result => exact apart_closed.pure _
  | evaluate r => exact evaluateCase_apart _ _

theorem processEvent_apart (inputs : EvaluationInputs) (m eventId caseId : Identifier) (t : Instant) :
    Tx.Keeps (processEvent rt inputs m eventId caseId t) Apart :=
  apart_closed.bind (apart_of (routeEvent_spared _ _ _ _)) fun _ => finishRouting_apart _ _

theorem reevaluateDeferred_apart (inputs : CaseKey → EvaluationInputs) (t : Instant) (limit : Nat) :
    Tx.Keeps (reevaluateDeferred rt inputs t limit) Apart :=
  apart_closed.bind (apart_closed.check _ _) fun _ => apart_closed.bind (apart_closed.read _) fun _ =>
    apart_closed.each (fun row => apart_closed.bind (apart_of (wakeDeferred_spared t row)) fun _ => evaluateCase_apart _ _) _

theorem decideReviewRequest_apart (inputs : EvaluationInputs) (m : Identifier) (decision : HumanReviewDecision)
    (t : Instant) : Tx.Keeps (decideReviewRequest rt inputs m decision t) Apart :=
  apart_closed.bind (apart_of (routeReview_spared _ _ _)) fun _ => finishRouting_apart _ _

theorem closeExpiredCustomerInterventions_apart (t : Instant) (limit : Nat) :
    Tx.Keeps (closeExpiredCustomerInterventions rt t limit) Apart :=
  apart_closed.bind (apart_closed.check _ _) fun _ => apart_closed.bind (apart_closed.read _) fun _ =>
    apart_closed.bind (apart_write fun _ => ⟨⟨rfl, rfl, rfl⟩, rfl, rfl⟩) fun _ => apart_closed.pure _

end evaluation

section execution

variable {id : ActionIdentity} {case : RecoveryCase} {action : ActionRow} {check : FinalPolicyCheck}
  {result : ProviderLookupResult}

theorem blockExecution_apart (action : ActionRow) (case : RecoveryCase) (check : FinalPolicyCheck) (t : Instant) :
    Tx.Keeps (blockExecution action case check t) Apart := by
  unfold blockExecution
  refine apart_closed.bind (apart_closed.bind (apart_closed.check _ _) fun _ => updateAction_apart _ _) fun _ => ?_
  dsimp only
  rw [Tx.ite_bind]
  exact apart_closed.bind (apart_of (transitionIf_spared _ _)) fun _ =>
    apart_closed.bind (apart_of (recoveryTransition_spared _ _ _ _ _)) fun _ =>
      apart_closed.bind (apart_of (rerouteBlocked_spared _ _ _ _)) fun _ => apart_closed.pure _

theorem beginAttempt_apart (id : ActionIdentity) (token : String) (t : Instant) :
    Tx.Keeps (beginAttempt id token t) Apart := by
  intro s done s' h
  obtain ⟨r, -, -, -, -, -, -, -, -, rfl⟩ := beginAttempt_effect h
  exact ⟨⟨rfl, rfl, rfl⟩, rfl, rfl⟩

theorem beginExecution_apart (action : ActionRow) (case : RecoveryCase) (token : String) (t : Instant) :
    Tx.Keeps (beginExecution rt action case token t) Apart :=
  apart_closed.bind (beginAttempt_apart _ _ _) fun _ => apart_closed.bind (apart_of (startExecution_spared _ _ _)) fun _ =>
    apart_closed.bind (apart_closed.lift _) fun _ => apart_closed.pure _

theorem prepareExecution_apart (id : ActionIdentity) (token : String) (t : Instant) :
    Tx.Keeps (prepareExecution rt id token t) Apart := by
  intro s p s' h
  obtain ⟨action, case, check, preparing⟩ := prepareExecution_ok h
  have checked : Apart s _ := (finalPolicyDecision_spared _ _ _ _ _ _ preparing.checked).apart
  rcases preparing.branch with ⟨-, out, -, block⟩ | ⟨-, begins⟩
  · exact checked.trans (blockExecution_apart _ _ _ _ _ _ _ block)
  · exact checked.trans (beginExecution_apart _ _ _ _ _ _ _ begins)

theorem finishAttempt_apart (id : ActionIdentity) (token : String) (c : AttemptCompletion) (again deadline : Instant) :
    Tx.Keeps (finishAttempt id token c again deadline) Apart := by
  intro s done s' h
  obtain ⟨r, -, -, -, -, rfl⟩ := finishAttempt_effect h
  exact ⟨⟨rfl, rfl, rfl⟩, rfl, rfl⟩

theorem transitionObserved_apart {A : Type} (case : RecoveryCase) (t : Transition) (o : RecoveryCase → VerifiedOutcome)
    (out : RecoveryCase → A) : Tx.Keeps (do
      let case ← recoveryTransition case t
      storeObservation (o case)
      pure (out case)) Apart :=
  apart_closed.bind (apart_of (recoveryTransition_spared _ _ _ _ _)) fun _ =>
    apart_closed.bind (apart_of (storeObservation_spared _)) fun _ => apart_closed.pure _

theorem recordExecutionResult_apart (id : ActionIdentity) (token : String) (answer : ProviderExecutionResult) :
    Tx.Keeps (recordExecutionResult rt id token answer) Apart := by
  refine apart_closed.bind (apart_closed.read _) fun _ => apart_closed.bind (apart_closed.found _ _) fun _ =>
    apart_closed.bind (finishAttempt_apart _ _ _ _ _) fun _ => apart_closed.bind (apart_of (requiredCase_spared _)) fun _ => ?_
  split
  · exact apart_closed.pure _
  split
  · exact transitionObserved_apart _ _ _ _
  split
  · exact transitionObserved_apart _ _ _ _
  · exact apart_closed.bind (apart_of (recoveryTransition_spared _ _ _ _ _)) fun _ =>
      apart_closed.bind (apart_of (storeObservation_spared _)) fun _ =>
        apart_closed.bind (apart_of (recoveryTransition_spared _ _ _ _ _)) fun _ => apart_closed.pure _

theorem markStaleCall_apart (t : Instant) (action : ActionRow) : Tx.Keeps (markStaleCall rt t action) Apart := by
  have lost : Tx.Keeps (markStaleInflightUnknown action t (t + rt.unknownTtl)) Apart := by
    intro s u s' h
    obtain ⟨r, -, -, rfl⟩ := markStaleInflightUnknown_effect h
    exact ⟨⟨rfl, rfl, rfl⟩, rfl, rfl⟩
  refine apart_closed.bind lost fun _ => apart_closed.bind (apart_of (requiredCase_spared _)) fun _ => ?_
  dsimp only
  rw [Tx.ite_bind]
  exact apart_closed.bind (apart_of (transitionIf_spared _ _)) fun _ =>
    apart_closed.bind (apart_of (storeObservation_spared _)) fun _ => apart_closed.pure _

theorem markStaleCallsUnknown_apart (t : Instant) (limit : Nat) : Tx.Keeps (markStaleCallsUnknown rt t limit) Apart :=
  apart_closed.bind (apart_closed.check _ _) fun _ => apart_closed.bind (apart_closed.read _) fun _ =>
    apart_closed.each (markStaleCall_apart t) _

theorem claimDueActions_apart (tokens : ActionIdentity → String) (now : Instant) (leaseFor : Int) (limit : Nat) :
    Tx.Keeps (claimDueActions rt tokens now leaseFor limit) Apart :=
  apart_closed.bind (apart_closed.check _ _) fun _ => apart_closed.bind (apart_closed.read _) fun _ =>
    apart_closed.each (fun _ => apart_closed.bind (updateAction_apart _ _) fun _ => apart_closed.pure _) _

theorem setActionResolution_apart (action : ActionRow) (status : ActionStatus) (t : Instant) (object code : Option String) :
    Tx.Keeps (setActionResolution action status t object code) Apart :=
  apart_closed.bind (apart_closed.check _ _) fun _ => apart_closed.bind (updateAction_apart _ _) fun _ =>
    apart_closed.pure _

theorem reconcile_apart (action : ActionRow) (case : RecoveryCase) (result : ProviderLookupResult) :
    Tx.Keeps (reconcile action case result) Apart := by
  unfold reconcile
  dsimp only
  rw [Tx.ite_bind]
  refine apart_closed.bind ?_ fun after => ?_
  · split
    · exact setActionResolution_apart _ _ _ _ _
    · exact apart_closed.pure _
  · rw [Tx.ite_bind]
    refine apart_closed.bind (apart_of (transitionIf_spared _ _)) fun _ =>
      apart_closed.bind (apart_of (storeObservation_spared _)) fun _ => apart_closed.bind ?_ fun _ => apart_closed.pure _
    unfold settleLookup
    dsimp only
    split
    · exact apart_of (recoveryTransition_spared _ _ _ _ _)
    split
    · exact apart_of (recoveryTransition_spared _ _ _ _ _)
    · exact apart_closed.pure _

theorem expireVerification_apart (action : ActionRow) (case : RecoveryCase) (result : ProviderLookupResult) :
    Tx.Keeps (expireVerification action case result) Apart := by
  have marked : Tx.Keeps (markVerificationExpiredUnknown action result.observedAt) Apart :=
    apart_closed.bind (apart_closed.check _ _) fun _ => apart_closed.bind (updateAction_apart _ _) fun _ => apart_closed.pure _
  exact apart_closed.bind marked fun _ => transitionObserved_apart _ _ _ _

theorem recordLookup_apart (id : ActionIdentity) (result : ProviderLookupResult) :
    Tx.Keeps (recordLookup id result) Apart := by
  refine apart_closed.bind (apart_closed.read _) fun _ => apart_closed.bind (apart_closed.found _ _) fun _ =>
    apart_closed.bind (apart_of (requiredCase_spared _)) fun _ => ?_
  split
  · exact apart_closed.pure _
  dsimp only
  rw [Tx.ite_bind]
  refine apart_closed.bind ?_ fun current => ?_
  · split
    · exact expireVerification_apart _ _ _
    · exact apart_closed.pure _
  unfold settleLookupDeadline
  split
  · exact apart_closed.bind (updateAction_apart _ _) fun _ =>
      apart_closed.bind (apart_of (recoveryTransition_spared _ _ _ _ _)) fun _ => apart_closed.pure _
  split
  · exact apart_closed.pure _
  · exact reconcile_apart _ _ _

theorem verifyAgainst_apart (event : NormalizedEvent) (webhook : Identifier) (action : ActionRow) :
    Tx.Keeps (verifyAgainst event webhook action) Apart := by
  refine apart_closed.bind (apart_of (requiredCase_spared _)) fun case => ?_
  split
  · exact apart_closed.pure _
  split
  · exact apart_closed.bind (apart_of (transitionIf_spared _ _)) fun _ =>
      apart_closed.bind (apart_of (recoveryTransition_spared _ _ _ _ _)) fun _ => apart_closed.pure _
  · refine apart_closed.bind (setActionResolution_apart _ _ _ _ _) fun _ =>
      apart_closed.bind (apart_of (transitionIf_spared _ _)) fun _ => ?_
    split
    · exact apart_closed.pure _
    · exact apart_closed.bind (apart_of (storeObservation_spared _)) fun _ =>
        apart_closed.bind (apart_of (recoveryTransition_spared _ _ _ _ _)) fun _ => apart_closed.pure _

theorem verifySignedEvent_apart (event : NormalizedEvent) (webhook : Identifier) :
    Tx.Keeps (verifySignedEvent rt event webhook) Apart := by
  intro s found s' h
  unfold verifySignedEvent at h
  split at h
  · obtain ⟨-, rfl⟩ := Tx.pure_ok h
    exact .refl _
  obtain ⟨credited, d1, search, h⟩ := Tx.bind_ok h
  obtain ⟨rfl, -⟩ := creditedAction_effect search
  split at h
  · obtain ⟨-, rfl⟩ := Tx.pure_ok h
    exact .refl _
  · exact apart_closed.bind (verifyAgainst_apart _ _ _) (fun _ => apart_closed.pure _) _ _ _ h

end execution

section reminders

theorem updatePromises_apart (p : PromiseRow → Bool) (f : PromiseRow → PromiseRow) (keeps : ∀ r, (f r).terms = r.terms) :
    Tx.Keeps (Tx.write (updatePromises p f) : Transaction Unit) Apart := by
  refine apart_write fun s => ⟨⟨rfl, ?_, rfl⟩, rfl, rfl⟩
  simp only [updatePromises, List.map_map]
  refine List.map_congr_left fun r _ => ?_
  simp only [Function.comp_apply]
  split
  · exact keeps r
  · rfl

theorem decideReminder_apart (t : Instant) (promise : PromiseRow) (a : ReminderAssessment) :
    Tx.Keeps (decideReminder t promise a) Apart := by
  refine apart_closed.bind (apart_of (recoveryTransition_spared _ _ _ _ _)) fun _ =>
    apart_closed.bind (apart_of (storeReceipt_spared _)) fun _ => ?_
  have marked (id : ActionIdentity) : Tx.Keeps (markPromiseReminderScheduled promise id t) Apart :=
    apart_closed.bind (apart_closed.read _) fun _ => apart_closed.bind (apart_closed.check _ _) fun _ =>
      updatePromises_apart _ _ fun _ => rfl
  split
  · exact apart_closed.bind (storeAction_apart _ _ _ _) fun _ => apart_closed.bind (marked _) fun _ => apart_closed.pure _
  · refine apart_closed.bind ?_ fun _ => apart_closed.pure _
    cases a.decision.nextEvaluationAt with
    | none => exact apart_closed.pure _
    | some wake => exact updatePromises_apart _ _ fun _ => rfl

theorem remindPromise_apart (t : Instant) (promise : PromiseRow) : Tx.Keeps (remindPromise rt t promise) Apart := by
  refine apart_closed.bind (apart_of (assessReminder_spared _ _)) fun assessed => ?_
  cases assessed with
  | none => exact apart_closed.pure _
  | some a => exact decideReminder_apart _ _ _

theorem scheduleDuePromiseReminders_apart (t : Instant) (limit : Nat) :
    Tx.Keeps (scheduleDuePromiseReminders rt t limit) Apart :=
  apart_closed.bind (apart_closed.check _ _) fun _ => apart_closed.bind (apart_closed.read _) fun _ =>
    apart_closed.each (remindPromise_apart t) _

end reminders

section commands

/-- The commands that are about invoices, promises or incidents. -/
def Command.Concerns : Command → Prop
  | .putMerchantRow .. | .applyDegradationAssessment .. | .recordOverdueInvoice .. | .recordCustomerResponse ..
  | .escalateBrokenPromises .. => True
  | _ => False

theorem commit_apart {A : Type} {x : Transaction A} (keeps : Tx.Keeps x Apart) : Apart db (x.commit db) :=
  Tx.commit_relates (R := Apart) (.refl db) (keeps _ _ _)

theorem exec_apart (c : Command) (db : Database) (apart : ¬ c.Concerns) : Apart db (exec rt c db) := by
  cases c with
  | registerMerchant m => exact commit_apart (apart_of (registerMerchant_spared m))
  | upsertCustomer row => exact commit_apart (apart_of (upsertCustomer_spared row))
  | upsertPayment row => exact commit_apart (apart_of (upsertPayment_spared row))
  | upsertSubscription row => exact commit_apart (apart_of (upsertSubscription_spared row))
  | persistNormalizedEvent event => exact commit_apart (apart_of (persistNormalizedEvent_spared event))
  | putMerchantRow row => exact absurd trivial apart
  | publishPolicy m policy => exact commit_apart (apart_of (publishPolicy_spared m policy))
  | applyDegradationAssessment a policy id => exact absurd trivial apart
  | processEvent inputs m e caseId t => exact commit_apart (processEvent_apart inputs m e caseId t)
  | reevaluateDeferred inputs t limit => exact commit_apart (reevaluateDeferred_apart inputs t limit)
  | decideReview inputs m decision t => exact commit_apart (decideReviewRequest_apart inputs m decision t)
  | closeExpiredCustomerInterventions t limit => exact commit_apart (closeExpiredCustomerInterventions_apart t limit)
  | recordOverdueInvoice m source invoice t t' => exact absurd trivial apart
  | recordCustomerResponse m source invoiceId body reply t => exact absurd trivial apart
  | scheduleDuePromiseReminders t limit => exact commit_apart (scheduleDuePromiseReminders_apart t limit)
  | escalateBrokenPromises t limit => exact absurd trivial apart
  | claimDueActions tokens now leaseFor limit => exact commit_apart (claimDueActions_apart tokens now leaseFor limit)
  | prepareExecution id token t => exact commit_apart (prepareExecution_apart id token t)
  | recordExecutionResult id token result => exact commit_apart (recordExecutionResult_apart id token result)
  | markStaleCallsUnknown now limit => exact commit_apart (markStaleCallsUnknown_apart now limit)
  | recordLookup id result => exact commit_apart (recordLookup_apart id result)
  | verifySignedEvent event webhook => exact commit_apart (verifySignedEvent_apart event webhook)

theorem recordMerchantEvent_apart (m : Identifier) (source : String) (o : OverdueInvoice) :
    Tx.Keeps (recordMerchantEvent m source o) Apart := by
  refine apart_closed.bind (apart_closed.read _) fun existing => ?_
  cases existing with
  | some row => exact apart_closed.check _ _
  | none => exact apart_write fun _ => ⟨⟨rfl, rfl, rfl⟩, rfl, rfl⟩

/-- A reply is stored once; a reply stored before is read back. -/
theorem storeCustomerResponse_ok {response : CustomerResponseRow} {extraction : PromiseExtraction}
    {stored : CustomerResponseRow × Bool} (h : (storeCustomerResponse response extraction).run db = .ok (stored, db')) :
    (Table.lookup (·.responseId) response.responseId db.responses = none ∧ stored = (response, true) ∧
      db' = { db with responses := db.responses ++ [response] }) ∨
    ∃ row, Table.lookup (·.responseId) response.responseId db.responses = some row ∧
      row.body = response.body ∧ stored = (row, false) ∧ db' = db := by
  obtain ⟨_, _, checked, h⟩ := Tx.bind_ok h
  obtain ⟨-, rfl⟩ := Tx.check_ok checked
  obtain ⟨existing, _, read, h⟩ := Tx.bind_ok h
  obtain ⟨found, rfl⟩ := Tx.read_ok read
  cases existing with
  | some row =>
    obtain ⟨_, _, checked, h⟩ := Tx.bind_ok h
    obtain ⟨same, rfl⟩ := Tx.check_ok checked
    obtain ⟨rfl, rfl⟩ := Tx.pure_ok h
    exact .inr ⟨row, found.symm, same, rfl, rfl⟩
  | none =>
    obtain ⟨_, _, written, h⟩ := Tx.bind_ok h
    obtain ⟨rfl, rfl⟩ := Tx.pure_ok h
    exact .inl ⟨found.symm, rfl, Tx.write_ok written⟩

theorem storeCustomerResponse_termed {response : CustomerResponseRow} {extraction : PromiseExtraction}
    {stored : CustomerResponseRow × Bool} (h : (storeCustomerResponse response extraction).run db = .ok (stored, db')) : Termed db db' := by
  rcases storeCustomerResponse_ok h with ⟨-, -, rfl⟩ | ⟨_, -, -, -, rfl⟩
  · exact ⟨rfl, rfl, rfl⟩
  · exact ⟨rfl, rfl, rfl⟩

/-- The escalation of a response, unless it has one. -/
def escalate (row : ReceivableEscalationRow) (db : Database) : Database :=
  if Table.lookup (·.responseId) row.responseId db.escalations = none then
    { db with escalations := db.escalations ++ [row] }
  else db

theorem escalate_termed (row : ReceivableEscalationRow) (db : Database) : Termed db (escalate row db) := by
  unfold escalate
  split
  · exact ⟨rfl, rfl, rfl⟩
  · exact ⟨rfl, rfl, rfl⟩

theorem storeReceivableEscalation_run (row : ReceivableEscalationRow) (db : Database) :
    (storeReceivableEscalation row).run db = .ok ((), escalate row db) := by
  unfold storeReceivableEscalation escalate Table.lookup
  rw [Tx.bind_of_ok (Tx.run_read _ _)]
  cases db.escalations.find? fun r => decide (r.responseId = row.responseId) with
  | none => rfl
  | some existing => rfl

theorem storeReceivableEscalation_termed {row : ReceivableEscalationRow} {u : Unit}
    (h : (storeReceivableEscalation row).run db = .ok (u, db')) : Termed db db' := by
  rw [storeReceivableEscalation_run] at h
  cases h
  exact escalate_termed row db

/-- Invoices, promises, replies and escalations as they were, whatever became of the incidents. -/
structure Papers (db db' : Database) : Prop where
  invoices : db'.invoices = db.invoices
  promises : db'.promises = db.promises
  responses : db'.responses = db.responses
  escalations : db'.escalations = db.escalations

theorem papers_closed : Tx.Closed Papers :=
  ⟨fun _ => ⟨rfl, rfl, rfl, rfl⟩, fun h h' => ⟨h'.invoices.trans h.invoices, h'.promises.trans h.promises,
    h'.responses.trans h.responses, h'.escalations.trans h.escalations⟩⟩

theorem setIncident_papers (row : IncidentRow) : Tx.Keeps (setIncident row) Papers :=
  Tx.Closed.write fun _ => ⟨rfl, rfl, rfl, rfl⟩

theorem attachAffectedCases_papers (incident : IncidentConstraint) (a : DegradationAssessment) :
    Tx.Keeps (attachAffectedCases rt incident a) Papers := Tx.Closed.write fun _ => ⟨rfl, rfl, rfl, rfl⟩

theorem resolveIncident_papers (row : IncidentRow) (t : Instant) : Tx.Keeps (resolveIncident rt row t) Papers :=
  papers_closed.bind (papers_closed.read _) fun _ => papers_closed.bind (papers_closed.lift _) fun _ =>
    papers_closed.bind (setIncident_papers _) fun _ => Tx.Closed.write fun _ => ⟨rfl, rfl, rfl, rfl⟩

theorem applyDegradationAssessment_papers (a : DegradationAssessment) (policy : DegradationPolicy) (id : Identifier) :
    Tx.Keeps (applyDegradationAssessment rt a policy id) Papers := by
  refine papers_closed.bind (papers_closed.read _) fun active => ?_
  split
  · split
    · exact papers_closed.bind (papers_closed.lift _) fun _ => papers_closed.bind (setIncident_papers _) fun _ =>
        attachAffectedCases_papers _ _
    · unfold clearWindow
      split
      · exact papers_closed.pure _
      dsimp only
      split
      · exact resolveIncident_papers _ _
      · exact papers_closed.bind (papers_closed.lift _) fun _ => setIncident_papers _
  · split
    · exact papers_closed.bind (papers_closed.read _) fun _ => papers_closed.bind (papers_closed.check _ _) fun _ =>
        papers_closed.bind (Tx.Closed.write fun _ => ⟨rfl, rfl, rfl, rfl⟩) fun _ => attachAffectedCases_papers _ _
    · exact papers_closed.pure _

end commands

end RevenueGuard
