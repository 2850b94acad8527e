import RevenueGuard.Protocol.Ledger

/-
What the services leave alone. Routing and assessing a case authorize nothing;
no service of recovery or execution writes an invoice, an incident or the terms
of a promise.
-/
namespace RevenueGuard

variable {db d db' : Database} {rt : Runtime} {t : Instant}

/-- What an intervention is about; coordination changes the rest. -/
def InterventionRow.core (i : InterventionRow) :
    Identifier × Identifier × ActionIdentity × CustomerInterventionStatus × Instant × Option Instant × Identifier :=
  (i.merchantId, i.customerId, i.actionId, i.status, i.cooldownUntil, i.closedAt, i.ownerCaseId)

/-- What a promise is about and how it stands; its reminders change the rest. -/
def PromiseRow.terms (p : PromiseRow) : Identifier × PromiseId × Identifier × PromiseStatus × Instant × Option Instant :=
  (p.merchantId, p.promiseId, p.invoiceId, p.status, p.promisedFor, p.brokenAt)

structure Termed (db db' : Database) : Prop where
  invoices : db'.invoices = db.invoices
  promises : db'.promises.map PromiseRow.terms = db.promises.map PromiseRow.terms
  incidents : db'.incidents = db.incidents

structure Apart (db db' : Database) : Prop extends Termed db db' where
  responses : db'.responses = db.responses
  escalations : db'.escalations = db.escalations

structure Spared (db db' : Database) : Prop where
  actions : db'.actions = db.actions
  interventions : db'.interventions.map InterventionRow.core = db.interventions.map InterventionRow.core
  apart : Apart db db'

theorem Apart.refl (db : Database) : Apart db db := ⟨⟨rfl, rfl, rfl⟩, rfl, rfl⟩

theorem Apart.trans (h : Apart db d) (h' : Apart d db') : Apart db db' :=
  ⟨⟨h'.invoices.trans h.invoices, h'.promises.trans h.promises, h'.incidents.trans h.incidents⟩,
    h'.responses.trans h.responses, h'.escalations.trans h.escalations⟩

theorem apart_closed : Tx.Closed Apart := ⟨.refl, .trans⟩

theorem Spared.refl (db : Database) : Spared db db := ⟨rfl, rfl, .refl db⟩

theorem Spared.trans (h : Spared db d) (h' : Spared d db') : Spared db db' :=
  ⟨h'.actions.trans h.actions, h'.interventions.trans h.interventions, h.apart.trans h'.apart⟩

theorem spared_closed : Tx.Closed Spared := ⟨.refl, .trans⟩

theorem spared_write {f : Database → Database} (spared : ∀ s, Spared s (f s)) :
    Tx.Keeps (Tx.write f : Transaction Unit) Spared := Tx.Closed.write spared

section recovery

theorem lockMerchant_spared (m : Identifier) : Tx.Keeps (lockMerchant m) Spared :=
  spared_closed.bind (spared_closed.read _) fun _ => spared_closed.check _ _

theorem effectivePolicy_spared (m : Identifier) (t : Instant) : Tx.Keeps (effectivePolicy m t) Spared :=
  spared_closed.bind (spared_closed.read _) fun _ => spared_closed.bind (spared_closed.found _ _) fun _ =>
    spared_closed.bind (spared_closed.check _ _) fun _ => spared_closed.pure _

theorem linkEvidence_spared (link : CaseEventRow) : Tx.Keeps (linkEvidence link) Spared := by
  refine spared_closed.bind (spared_closed.read _) fun existing => ?_
  cases existing with
  | some row => exact spared_closed.pure _
  | none => exact spared_closed.bind (spared_write fun _ => ⟨rfl, rfl, ⟨rfl, rfl, rfl⟩, rfl, rfl⟩) fun _ => spared_closed.pure _

theorem linkAuditOnly_spared (event : NormalizedEvent) (row : Option CaseRow) (reason : String) :
    Tx.Keeps (linkAuditOnly event row reason) Spared :=
  spared_closed.bind (linkEvidence_spared _) fun _ => spared_closed.pure _

theorem createCase_spared (row : CaseRow) : Tx.Keeps (createCase row) Spared :=
  spared_closed.bind (spared_closed.read _) fun _ => spared_closed.bind (spared_closed.check _ _) fun _ =>
    spared_closed.bind (spared_closed.read _) fun _ => spared_closed.bind (spared_closed.check _ _) fun _ =>
      spared_closed.bind (spared_closed.read _) fun _ => spared_closed.bind (spared_closed.check _ _) fun _ =>
        spared_closed.bind (spared_closed.check _ _) fun _ => spared_write fun _ => ⟨rfl, rfl, ⟨rfl, rfl, rfl⟩, rfl, rfl⟩

theorem recoveryTransition_spared (case : RecoveryCase) (t : Transition) (o : Option Diagnosis) (e : Option NormalizedEvent)
    (retry : Bool) : Tx.Keeps (recoveryTransition case t o e retry) Spared := by
  intro s updated s' h
  obtain ⟨-, -, rfl⟩ := recoveryTransition_ran h
  exact ⟨rfl, rfl, ⟨rfl, rfl, rfl⟩, rfl, rfl⟩

theorem transitionIf_spared {c : Prop} [Decidable c] (case : RecoveryCase) (t : Transition) :
    Tx.Keeps (if c then recoveryTransition case t else pure case) Spared := by
  split
  · exact recoveryTransition_spared _ _ _ _ _
  · exact spared_closed.pure _

theorem requireCase_spared (k : CaseKey) : Tx.Keeps (requireCase k) Spared :=
  spared_closed.bind (spared_closed.read _) fun _ => spared_closed.found _ _

theorem advance_spared (case : RecoveryCase) (d : Diagnosis) (event : NormalizedEvent) (policy : MerchantPolicySnapshot)
    (t : Instant) : Tx.Keeps (advanceToDecisionPending case d event policy t) Spared := by
  unfold advanceToDecisionPending
  dsimp only
  rw [Tx.ite_bind]
  refine spared_closed.bind (transitionIf_spared _ _) fun started => ?_
  split
  · exact recoveryTransition_spared _ _ _ _ _
  · exact recoveryTransition_spared _ _ _ _ _
  · exact spared_closed.pure _
  · exact spared_closed.pure _

theorem proceed_spared (case : RecoveryCase) (d : Diagnosis) (event : NormalizedEvent) (policy : MerchantPolicySnapshot)
    (t : Instant) : Tx.Keeps (proceedToEvaluation case d event policy t) Spared := by
  refine spared_closed.bind (advance_spared _ _ _ _ _) fun pending => ?_
  split
  · exact spared_closed.pure _
  · exact spared_closed.pure _

theorem openCase_spared (caseId : Identifier) (identity : CaseIdentity) (d : Diagnosis) (event : NormalizedEvent)
    (policy : MerchantPolicySnapshot) (t : Instant) :
    Tx.Keeps (openCase caseId identity d event policy t) Spared := by
  refine spared_closed.bind (createCase_spared _) fun _ => spared_closed.bind (linkEvidence_spared _) fun link => ?_
  split
  · exact proceed_spared _ _ _ _ _
  · exact spared_closed.pure _

theorem updateCase_spared (row : CaseRow) (d : Diagnosis) (event : NormalizedEvent) (policy : MerchantPolicySnapshot)
    (t : Instant) : Tx.Keeps (updateCase row d event policy t) Spared := by
  refine spared_closed.bind (spared_closed.read _) fun ordering => spared_closed.bind (linkEvidence_spared _) fun link => ?_
  split
  · exact spared_closed.pure _
  split
  · exact spared_closed.pure _
  · exact spared_closed.bind (requireCase_spared _) fun _ => proceed_spared _ _ _ _ _

theorem routeEvent_spared (m eventId caseId : Identifier) (t : Instant) :
    Tx.Keeps (routeEvent m eventId caseId t) Spared := by
  intro s routed s' h
  obtain ⟨-, event, _, -, route, ran⟩ := routeEvent_route h
  cases route with
  | unsupported unidentified => exact linkAuditOnly_spared _ _ _ _ _ _ ran
  | undiagnosed identity identified undiagnosed => exact linkAuditOnly_spared _ _ _ _ _ _ ran
  | opened identity diagnosis policy identified diagnosed unknown force => exact openCase_spared _ _ _ _ _ _ _ _ _ ran
  | ended identity diagnosis row identified diagnosed selected terminated => exact linkAuditOnly_spared _ _ _ _ _ _ ran
  | updated identity diagnosis policy row identified diagnosed selected live force =>
    exact updateCase_spared _ _ _ _ _ _ _ _ ran

theorem wakeDeferred_spared (t : Instant) (row : CaseRow) : Tx.Keeps (wakeDeferred t row) Spared :=
  spared_closed.bind (spared_closed.found _ _) fun _ => spared_closed.bind (spared_closed.read _) fun _ =>
    spared_closed.bind (spared_closed.found _ _) fun _ => spared_closed.bind (spared_closed.found _ _) fun _ =>
      spared_closed.bind (effectivePolicy_spared _ _) fun _ => spared_closed.bind (requireCase_spared _) fun _ =>
        spared_closed.bind (recoveryTransition_spared _ _ _ _ _) fun _ => spared_closed.pure _

theorem updateReviewDecision_spared (m : Identifier) (review : HumanReviewRequest) :
    Tx.Keeps (updateReviewDecision m review) Spared :=
  spared_closed.bind (spared_closed.check _ _) fun _ => spared_closed.bind (spared_closed.read _) fun _ =>
    spared_closed.bind (spared_closed.check _ _) fun _ => spared_write fun _ => ⟨rfl, rfl, ⟨rfl, rfl, rfl⟩, rfl, rfl⟩

theorem stopReviewed_spared (case : RecoveryCase) (reason : String) (decision : HumanReviewDecision)
    (policy : MerchantPolicySnapshot) (t : Instant) (decided : HumanReviewRequest) :
    Tx.Keeps (stopReviewed case reason decision policy t decided) Spared :=
  spared_closed.bind (updateReviewDecision_spared _ _) fun _ => spared_closed.bind (recoveryTransition_spared _ _ _ _ _) fun _ =>
    spared_closed.pure _

theorem resumeReviewed_spared (case : RecoveryCase) (decision : HumanReviewDecision) (policy : MerchantPolicySnapshot)
    (t : Instant) (decided : HumanReviewRequest) :
    Tx.Keeps (resumeReviewed case decision policy t decided) Spared :=
  spared_closed.bind (updateReviewDecision_spared _ _) fun _ => spared_closed.bind (spared_closed.read _) fun _ =>
    spared_closed.bind (spared_closed.found _ _) fun _ => spared_closed.bind (spared_closed.read _) fun _ =>
      spared_closed.bind (spared_closed.found _ _) fun _ => spared_closed.bind (recoveryTransition_spared _ _ _ _ _) fun _ =>
        spared_closed.pure _

theorem routeReview_spared (m : Identifier) (decision : HumanReviewDecision) (t : Instant) :
    Tx.Keeps (routeReview m decision t) Spared := by
  refine spared_closed.bind (spared_closed.check _ _) fun _ => spared_closed.bind (lockMerchant_spared _) fun _ =>
    spared_closed.bind (spared_closed.read _) fun _ => spared_closed.bind (spared_closed.found _ _) fun _ =>
      spared_closed.bind (requireCase_spared _) fun _ => spared_closed.bind (effectivePolicy_spared _ _) fun _ => ?_
  split
  · exact spared_closed.bind (spared_closed.lift _) fun _ => stopReviewed_spared _ _ _ _ _ _
  · refine spared_closed.bind (spared_closed.lift _) fun _ => ?_
    split
    · exact stopReviewed_spared _ _ _ _ _ _
    · exact resumeReviewed_spared _ _ _ _ _

theorem activeIncidents_spared (key : CaseKey) (t : Instant) (code : Option Identifier) :
    Tx.Keeps (activeIncidents key t code) Spared :=
  spared_closed.bind (spared_closed.read _) fun _ => spared_closed.bind (spared_closed.read _) fun _ =>
    spared_closed.bind (spared_write fun _ => ⟨rfl, rfl, ⟨rfl, rfl, rfl⟩, rfl, rfl⟩) fun _ => spared_closed.pure _

theorem coordinate_core (rows : List InterventionRow) (k : ActionIdentity) (ids : List Identifier) (t : Instant) :
    (Table.update InterventionRow.actionId k (fun r => { r with coordinatedCaseIds := ids, updatedAt := t }) rows).map
      InterventionRow.core = rows.map InterventionRow.core := by
  simp only [Table.update, List.map_map]
  refine List.map_congr_left fun r _ => ?_
  simp only [Function.comp_apply]
  split <;> rfl

theorem coordinate_spared (m customer caseId : Identifier) (t : Instant) :
    Tx.Keeps (coordinateCaseWithActiveIntervention m customer caseId t) Spared := by
  refine spared_closed.bind (spared_closed.read _) fun row => ?_
  cases row with
  | none => exact spared_closed.pure _
  | some row =>
    dsimp only
    split
    · exact spared_closed.pure _
    · exact Tx.Closed.write fun s => ⟨rfl, coordinate_core _ _ _ _, ⟨rfl, rfl, rfl⟩, rfl, rfl⟩

theorem customerContactSnapshot_spared (m customer : Identifier) :
    Tx.Keeps (customerContactSnapshot m customer) Spared :=
  spared_closed.bind (spared_closed.read _) fun _ => spared_closed.bind (spared_closed.check _ _) fun _ => spared_closed.read _

theorem contactFacts_spared (r : EvaluationRequest) : Tx.Keeps (contactFacts r) Spared := by
  unfold contactFacts
  split
  · exact spared_closed.pure _
  · refine spared_closed.bind (customerContactSnapshot_spared _ _) fun _ => spared_closed.bind ?_ fun _ => spared_closed.pure _
    unfold coordinateWith
    split
    · exact coordinate_spared _ _ _ _
    · exact spared_closed.pure _

theorem assessCase_spared (inputs : EvaluationInputs) (r : EvaluationRequest) :
    Tx.Keeps (assessCase rt inputs r) Spared :=
  spared_closed.bind (recoveryTransition_spared _ _ _ _ _) fun _ => spared_closed.bind (spared_closed.read _) fun _ =>
    spared_closed.bind (activeIncidents_spared _ _ _) fun _ => spared_closed.bind (contactFacts_spared r) fun _ =>
      spared_closed.bind (spared_closed.read _) fun _ => spared_closed.bind (spared_closed.read _) fun _ =>
        spared_closed.bind (spared_closed.lift _) fun _ => spared_closed.bind (spared_closed.lift _) fun _ => spared_closed.pure _

theorem storeReview_spared (review : HumanReviewRequest) : Tx.Keeps (storeReview review) Spared :=
  spared_closed.bind (spared_closed.read _) fun _ => spared_closed.bind (spared_closed.check _ _) fun _ =>
    spared_write fun _ => ⟨rfl, rfl, ⟨rfl, rfl, rfl⟩, rfl, rfl⟩

theorem storeReviewIfAny_spared (review : Option HumanReviewRequest) :
    Tx.Keeps (storeReviewIfAny review) Spared := by
  cases review with
  | none => exact spared_closed.pure _
  | some review => exact storeReview_spared review

theorem storeReceipt_spared (receipt : ReceiptRow) : Tx.Keeps (storeReceipt receipt) Spared :=
  spared_closed.bind (spared_closed.read _) fun _ => spared_closed.bind (spared_closed.check _ _) fun _ =>
    spared_write fun _ => ⟨rfl, rfl, ⟨rfl, rfl, rfl⟩, rfl, rfl⟩

end recovery

section execution

theorem requiredCase_spared (action : ActionRow) : Tx.Keeps (requiredCase action) Spared :=
  spared_closed.bind (spared_closed.read _) fun _ => spared_closed.found _ _

theorem storeObservation_spared (o : VerifiedOutcome) : Tx.Keeps (storeObservation o) Spared := by
  refine spared_closed.bind (spared_closed.lift _) fun _ => spared_closed.bind (spared_closed.read _) fun existing => ?_
  cases existing with
  | some row => exact spared_closed.pure _
  | none =>
    exact spared_closed.bind (spared_closed.check _ _) fun _ => spared_closed.bind (spared_closed.read _) fun _ =>
      spared_closed.bind (spared_closed.check _ _) fun _ => spared_write fun _ => ⟨rfl, rfl, ⟨rfl, rfl, rfl⟩, rfl, rfl⟩

theorem finalPolicyDecision_spared (action : ActionRow) (case : RecoveryCase) (t : Instant) :
    Tx.Keeps (finalPolicyDecision rt action case t) Spared := by
  intro s checked s' h
  obtain ⟨rfl, -⟩ := finalPolicyDecision_effect h
  unfold attachIncidents
  split
  · exact ⟨rfl, rfl, ⟨rfl, rfl, rfl⟩, rfl, rfl⟩
  · exact ⟨rfl, rfl, ⟨rfl, rfl, rfl⟩, rfl, rfl⟩

theorem recordExecutionAttemptCounters_spared (case : RecoveryCase) (retry contact : Nat) (t : Instant) :
    Tx.Keeps (recordExecutionAttemptCounters case retry contact t) Spared := by
  refine spared_closed.bind (spared_closed.check _ _) fun _ => spared_closed.bind (spared_closed.check _ _) fun _ => ?_
  split
  · exact spared_closed.pure _
  · exact spared_closed.bind (spared_closed.check _ _) fun _ => spared_closed.bind (spared_closed.read _) fun _ =>
      spared_closed.bind (spared_closed.check _ _) fun _ => spared_closed.bind (spared_write fun _ => ⟨rfl, rfl, ⟨rfl, rfl, rfl⟩, rfl, rfl⟩)
        fun _ => spared_closed.pure _

theorem rerouteBlocked_spared (action : ActionRow) (case : RecoveryCase) (check : FinalPolicyCheck) (t : Instant) :
    Tx.Keeps (rerouteBlocked action case check t) Spared := by
  unfold rerouteBlocked
  dsimp only
  split
  · exact recoveryTransition_spared _ _ _ _ _
  · exact spared_closed.bind (recoveryTransition_spared _ _ _ _ _) fun _ =>
      spared_closed.bind (recoveryTransition_spared _ _ _ _ _) fun _ => recoveryTransition_spared _ _ _ _ _
  · exact spared_closed.bind (recoveryTransition_spared _ _ _ _ _) fun _ => spared_closed.bind (storeReview_spared _) fun _ =>
      spared_closed.bind (recoveryTransition_spared _ _ _ _ _) fun _ => recoveryTransition_spared _ _ _ _ _
  · exact recoveryTransition_spared _ _ _ _ _
end execution

section commands

theorem assessReminder_spared (t : Instant) (promise : PromiseRow) :
    Tx.Keeps (assessReminder rt t promise) Spared := by
  refine spared_closed.bind (spared_closed.read _) fun _ => spared_closed.bind (spared_closed.found _ _) fun _ =>
    spared_closed.bind (effectivePolicy_spared _ _) fun _ => ?_
  rw [Tx.ite_bind]
  refine spared_closed.bind (transitionIf_spared _ _) fun _ => ?_
  dsimp only
  split
  · exact spared_closed.pure _
  · exact spared_closed.bind (recoveryTransition_spared _ _ _ _ _) fun _ => spared_closed.bind (spared_closed.read _) fun _ =>
      spared_closed.bind (activeIncidents_spared _ _ _) fun _ => spared_closed.bind (spared_closed.lift _) fun _ =>
        spared_closed.bind (spared_closed.lift _) fun _ => spared_closed.pure _
theorem upsertCustomer_spared (row : CustomerRow) : Tx.Keeps (upsertCustomer row) Spared :=
  spared_write fun _ => ⟨rfl, rfl, ⟨rfl, rfl, rfl⟩, rfl, rfl⟩

theorem upsertPayment_spared (row : PaymentRow) : Tx.Keeps (upsertPayment row) Spared :=
  spared_write fun _ => ⟨rfl, rfl, ⟨rfl, rfl, rfl⟩, rfl, rfl⟩

theorem upsertSubscription_spared (row : SubscriptionRow) : Tx.Keeps (upsertSubscription row) Spared :=
  spared_write fun _ => ⟨rfl, rfl, ⟨rfl, rfl, rfl⟩, rfl, rfl⟩

theorem startExecution_spared (action : ActionRow) (case : RecoveryCase) (t : Instant) :
    Tx.Keeps (startExecution rt action case t) Spared := by
  refine spared_closed.bind (recordExecutionAttemptCounters_spared _ _ _ _) fun counted => ?_
  split
  · exact spared_closed.bind (recoveryTransition_spared _ _ _ _ _) fun _ => spared_closed.pure _
  · split
    · exact spared_closed.pure _
    · exact spared_write fun _ => ⟨rfl, rfl, ⟨rfl, rfl, rfl⟩, rfl, rfl⟩

theorem Persists.spared {event : NormalizedEvent} (h : Persists event db db') : Spared db db' := by
  rcases h with rfl | rfl
  · exact spared_closed.refl _
  · exact ⟨rfl, rfl, ⟨rfl, rfl, rfl⟩, rfl, rfl⟩

theorem persistNormalizedEvent_spared (event : NormalizedEvent) : Tx.Keeps (persistNormalizedEvent event) Spared :=
  fun _ _ _ h => (persistNormalizedEvent_persists event _ _ _ h).spared

theorem persistMerchantEvent_spared (event : NormalizedEvent) : Tx.Keeps (persistMerchantEvent event) Spared :=
  fun _ _ _ h => (persistMerchantEvent_persists event _ _ _ h).spared

theorem registerMerchant_spared (m : Identifier) : Tx.Keeps (registerMerchant m) Spared :=
  spared_write fun s => ⟨by split <;> rfl, by split <;> rfl,
    ⟨by split <;> rfl, by split <;> rfl, by split <;> rfl⟩, by split <;> rfl, by split <;> rfl⟩

theorem publishPolicy_spared (m : Identifier) (policy : MerchantPolicySnapshot) :
    Tx.Keeps (publishPolicy m policy) Spared := by
  refine spared_closed.bind (spared_closed.read _) fun existing => ?_
  cases existing with
  | some row => exact spared_closed.check _ _
  | none =>
    exact spared_closed.bind (spared_closed.read _) fun _ => spared_closed.bind (spared_closed.check _ _) fun _ =>
      spared_write fun _ => ⟨rfl, rfl, ⟨rfl, rfl, rfl⟩, rfl, rfl⟩
end commands

end RevenueGuard
