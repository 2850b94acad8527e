import RevenueGuard.Protocol.Tenants
import RevenueGuard.Safety.Promises

/-
Whose data each service call reads and writes: the services of recovery, execution,
receivables and ingestion stay within the merchant they are called for.
-/
namespace RevenueGuard

variable {m : Identifier} {db db' : Database} {rt : Runtime} {t : Instant} {case : RecoveryCase}

section recovery

theorem coordinateWith_scoped {r : EvaluationRequest} (here : r.case.merchantId = m) (customer : Identifier)
    (active : Option ActionIdentity) : ScopedTo m Any (coordinateWith r customer active) := by
  subst here
  exact .ite (fun _ => coordinate_scoped customer _) fun _ => .pure trivial

theorem contactFacts_scoped {r : EvaluationRequest} (here : r.case.merchantId = m) :
    ScopedTo m Any (contactFacts r) := by
  subst here
  unfold contactFacts
  split
  · exact .pure trivial
  · exact .bind (customerContactSnapshot_scoped _) fun _ _ => .bind (coordinateWith_scoped rfl _ _) fun _ _ => .pure trivial

theorem assessCase_scoped {r : EvaluationRequest} (here : r.case.merchantId = m) (inputs : EvaluationInputs) :
    ScopedTo m (fun a => a.checking.merchantId = m) (assessCase rt inputs r) := by
  subst here
  refine .bind (recoveryTransition_scoped rfl _ _ _ _) fun checking own =>
    .bind (.look fun s _ => ofMerchant_consentFacts _) fun _ _ =>
      .bind (activeIncidents_scoped (k := r.case.key) rfl _) fun incidents _ => ?_
  dsimp only
  split
  all_goals
    exact .bind (contactFacts_scoped rfl) fun _ _ => .bind (.look fun s _ => ofMerchant_facts own) fun _ _ =>
      .bind (.look fun s _ => ofMerchant_unknownEquivalent rfl _) fun _ _ => .bind (.lift _) fun _ _ =>
        .bind (.lift _) fun _ _ => .pure own

theorem storeAuthorizedAction_scoped {r : EvaluationRequest} {action : RecoveryAction} (here : r.case.merchantId = m)
    (own : action.identity.merchantId = m) (caseIds : List Identifier) :
    ScopedTo m Any (storeAuthorizedAction r caseIds action) := by
  refine .bind (storeAction_scoped own _ _ _) fun _ _ => ?_
  split
  · exact .ite (fun _ => storeCustomerIntervention_scoped here own) fun _ => .pure trivial
  · exact .pure trivial

theorem decideCase_scoped {r : EvaluationRequest} {a : Assessment} (here : r.case.merchantId = m)
    (own : a.checking.merchantId = m) (inputs : EvaluationInputs) : ScopedTo m Any (decideCase rt inputs r a) := by
  have reviewed : ScopedTo m Any (storeReviewIfAny (if a.decision.result = .requireHuman then
      some (buildReview rt inputs.reviewId a.checking r.policy a.decision r.evaluatedAt) else none)) := by
    split
    · exact storeReview_scoped own
    · exact .pure trivial
  refine .bind reviewed fun _ _ => .bind (recoveryTransition_scoped own _ _ _ _) fun decided moved =>
    .bind (storeReceipt_scoped here) fun _ _ => .bind (P := Any) ?_ fun _ _ => .pure trivial
  unfold storeActionIfAny
  split
  · rename_i action built
    refine storeAuthorizedAction_scoped here ?_ _
    unfold buildAction at built
    split at built
    · cases built
    · cases built
      exact moved
  · exact .pure trivial

theorem evaluateCase_scoped {r : EvaluationRequest} (here : r.case.merchantId = m) (inputs : EvaluationInputs) :
    ScopedTo m Any (evaluateCase rt inputs r) :=
  .bind (assessCase_scoped here inputs) fun _ own => decideCase_scoped here own inputs

/-- What routing hands to evaluation is a case of the merchant. -/
def Routed.Own (m : Identifier) : Routed → Prop
  | .done _ => True
  | .evaluate request => request.case.merchantId = m

theorem finishRouting_scoped {routed : Routed} (own : routed.Own m) (inputs : EvaluationInputs) :
    ScopedTo m Any (finishRouting rt inputs routed) := by
  cases routed with
  | done result => exact .pure trivial
  | evaluate request => exact evaluateCase_scoped own inputs

theorem linkAuditOnly_scoped {event : NormalizedEvent} (here : event.merchantId = m) (row : Option CaseRow)
    (reason : String) : ScopedTo m (Routed.Own m) (linkAuditOnly event row reason) :=
  .bind (linkEvidence_scoped here) fun _ _ => .pure trivial

theorem advance_scoped (here : case.merchantId = m) (d : Diagnosis) (event : NormalizedEvent)
    (policy : MerchantPolicySnapshot) :
    ScopedTo m (fun c => c.merchantId = m) (advanceToDecisionPending case d event policy t) := by
  unfold advanceToDecisionPending
  dsimp only
  rw [Tx.ite_bind]
  refine .bind (P := fun c => c.merchantId = m)
    (.ite (fun _ => recoveryTransition_scoped here _ _ _ _) fun _ => .pure here) fun started own => ?_
  split
  · exact recoveryTransition_scoped own _ _ _ _
  · exact recoveryTransition_scoped own _ _ _ _
  · exact .pure own
  · exact .pure own

theorem proceed_scoped (here : case.merchantId = m) (d : Diagnosis) (event : NormalizedEvent)
    (policy : MerchantPolicySnapshot) : ScopedTo m (Routed.Own m) (proceedToEvaluation case d event policy t) :=
  .bind (advance_scoped here d event policy) fun _ own => .ite (fun _ => .pure trivial) fun _ => .pure own

theorem identity_merchant {event : NormalizedEvent} {identity : CaseIdentity}
    (identified : selectCaseIdentity event = some identity) : ∀ e ∈ identity.episodeKey, e.merchantId = event.merchantId := by
  intro e keyed
  unfold selectCaseIdentity at identified
  dsimp only at identified
  split at identified
  case h_4 => cases identified
  all_goals
    cases identified
    obtain ⟨reference, -, rfl⟩ := Option.map_eq_some_iff.mp keyed
    rfl

theorem openCase_scoped {event : NormalizedEvent} {identity : CaseIdentity} (here : event.merchantId = m)
    (identified : selectCaseIdentity event = some identity) (caseId : Identifier) (d : Diagnosis)
    (policy : MerchantPolicySnapshot) : ScopedTo m (Routed.Own m) (openCase caseId identity d event policy t) := by
  refine .bind (createCase_scoped here fun e keyed => (identity_merchant identified e keyed).trans here) fun _ _ =>
    .bind (linkEvidence_scoped here) fun _ _ => .ite (fun _ => proceed_scoped here d event policy) fun _ => .pure trivial

theorem updateCase_scoped {event : NormalizedEvent} {row : CaseRow} (here : event.merchantId = m) (own : row.owner = m)
    (d : Diagnosis) (policy : MerchantPolicySnapshot) :
    ScopedTo m (Routed.Own m) (updateCase row d event policy t) :=
  .bind (.look fun _ _ => ofMerchant_order here) fun _ _ => .bind (linkEvidence_scoped here) fun _ _ =>
    .ite (fun _ => .pure trivial) fun _ => .ite (fun _ => .pure trivial) fun _ =>
      .bind (requireCase_scoped own) fun _ found => proceed_scoped found d event policy

theorem chosen_merchant {identity : CaseIdentity} {row : CaseRow}
    (chosen : (findActiveCase m identity db).or (findEpisodeCase m identity db) = some row) : row.owner = m := by
  rcases Option.or_eq_some_iff.mp chosen with active | ⟨-, episode⟩
  · have taken := List.find?_some active
    rw [decide_eq_true_eq] at taken
    exact taken.1
  · unfold findEpisodeCase at episode
    split at episode
    · cases episode
    · have taken := List.find?_some episode
      rw [decide_eq_true_eq] at taken
      exact taken.1

theorem routeEvent_scoped (eventId caseId : Identifier) :
    ScopedTo m (Routed.Own m) (routeEvent m eventId caseId t) := by
  refine .bind lockMerchant_scoped fun _ _ => .bind (P := fun o => ∀ e ∈ o, e.merchantId = m)
    (.read (fun s _ => ofMerchant_event eventId) fun s _ e found => congrArg Prod.fst (Table.lookup_key found))
    fun stored own => .bind (.found _ _) fun event found => ?_
  have here : event.merchantId = m := own event found
  cases identified : selectCaseIdentity event with
  | none => exact linkAuditOnly_scoped here _ _
  | some identity =>
    refine .bind (P := fun o => ∀ row ∈ o, row.owner = m) (.read (fun s _ => ?_) fun s _ row chosen => ?_)
      fun row mine => ?_
    · rw [ofMerchant_activeCase, ofMerchant_episodeCase]
    · exact chosen_merchant chosen
    cases diagnosed : diagnoseEvent event with
    | none => exact linkAuditOnly_scoped here _ _
    | some diagnosis =>
      cases row with
      | none =>
        exact .bind effectivePolicy_scoped fun policy _ => openCase_scoped here identified caseId diagnosis policy
      | some row =>
        exact .ite (fun _ => linkAuditOnly_scoped here _ _) fun _ => .bind effectivePolicy_scoped fun policy _ =>
          updateCase_scoped here (mine row rfl) diagnosis policy

theorem processEvent_scoped (inputs : EvaluationInputs) (eventId caseId : Identifier) :
    ScopedTo m Any (processEvent rt inputs m eventId caseId t) :=
  .bind (routeEvent_scoped eventId caseId) fun _ own => finishRouting_scoped own inputs

theorem reevaluateRow_scoped (inputs : CaseKey → EvaluationInputs) (row : CaseRow) :
    ScopedTo row.owner Any (reevaluateRow rt inputs t row) := by
  refine .bind (P := fun r => r.case.merchantId = row.owner) ?_ fun _ own => evaluateCase_scoped own _
  exact .bind (.found _ _) fun eventId _ => .bind (.look fun s _ => ofMerchant_event eventId) fun _ _ =>
    .bind (.found _ _) fun _ _ => .bind (.found _ _) fun _ _ => .bind effectivePolicy_scoped fun _ _ =>
      .bind (requireCase_scoped rfl) fun _ own => .bind (recoveryTransition_scoped own _ _ _ _) fun _ moved => .pure moved

theorem stopReviewed_scoped (here : case.merchantId = m) (reason : String) (decision : HumanReviewDecision)
    (policy : MerchantPolicySnapshot) (decided : HumanReviewRequest) :
    ScopedTo m (Routed.Own m) (stopReviewed case reason decision policy t decided) := by
  subst here
  exact .bind (updateReviewDecision_scoped _) fun _ _ => .bind (recoveryTransition_scoped rfl _ _ _ _) fun _ _ =>
    .pure trivial

theorem resumeReviewed_scoped (here : case.merchantId = m) (decision : HumanReviewDecision)
    (policy : MerchantPolicySnapshot) (decided : HumanReviewRequest) :
    ScopedTo m (Routed.Own m) (resumeReviewed case decision policy t decided) := by
  subst here
  refine .bind (updateReviewDecision_scoped _) fun _ _ => .bind (.look fun s _ => ?_) fun _ _ =>
    .bind (.found _ _) fun eventId _ => .bind (.look fun s _ => ofMerchant_event eventId) fun _ _ =>
      .bind (.found _ _) fun _ _ => .bind (recoveryTransition_scoped rfl _ _ _ _) fun _ moved => .pure moved
  exact congrArg (Option.bind · _) (ofMerchant_caseRow (k := case.key) rfl)

theorem routeReview_scoped (decision : HumanReviewDecision) :
    ScopedTo m (Routed.Own m) (routeReview m decision t) := by
  refine .bind (.check _ _) fun _ _ => .bind lockMerchant_scoped fun _ _ =>
    .bind (.look fun s _ => ofMerchant_review _) fun _ _ => .bind (.found _ _) fun request _ =>
      .bind (requireCase_scoped rfl) fun case own => .bind effectivePolicy_scoped fun policy _ => ?_
  refine .ite (fun _ => .bind (.lift _) fun decided _ => stopReviewed_scoped own _ _ _ _) fun _ =>
    .bind (.lift _) fun decided _ => ?_
  split
  · exact stopReviewed_scoped own _ _ _ _
  · exact resumeReviewed_scoped own _ _ _

theorem decideReviewRequest_scoped (inputs : EvaluationInputs) (decision : HumanReviewDecision) :
    ScopedTo m Any (decideReviewRequest rt inputs m decision t) :=
  .bind (routeReview_scoped decision) fun _ own => finishRouting_scoped own inputs

end recovery

section execution

variable {action : ActionRow}

theorem requiredCase_scoped (here : action.merchantId = m) :
    ScopedTo m (fun case => case.merchantId = m) (requiredCase action) :=
  .bind (read_case here) fun _ own => (Tx.Scoped.found _ _).mono fun case found => own case found

theorem executionTransition_scoped (here : case.merchantId = m) (to_ : CaseState) (reason : String)
    (reference terminal : Option String) (wake : Option Instant) (version : Identifier) :
    ScopedTo m (fun moved => moved.merchantId = m)
      (executionTransition case action to_ reason t reference terminal wake version) :=
  recoveryTransition_scoped here _ _ _ _

theorem executionContact_scoped (here : action.merchantId = m) : ScopedTo m Any (executionContact action case) := by
  subst here
  unfold executionContact
  split
  · exact .pure trivial
  · exact .bind (customerContactSnapshot_scoped _) fun _ _ => .pure trivial

theorem finalPolicyDecision_scoped (here : action.merchantId = m) (own : case.merchantId = m) :
    ScopedTo m Any (finalPolicyDecision rt action case t) := by
  subst here
  refine .bind (.look fun s _ => ofMerchant_receipt _) fun _ _ => .bind (.found _ _) fun receipt _ =>
    .bind (.found _ _) fun _ _ => .bind effectivePolicy_scoped fun _ _ =>
      .bind (.look fun s _ => ofMerchant_consentFacts _) fun _ _ =>
        .bind (activeIncidents_scoped (k := action.key) rfl _) fun _ _ => .bind (.look fun s _ => ofMerchant_facts own) fun _ _ =>
          .bind (executionContact_scoped rfl) fun _ _ => .bind (.look fun s _ => ?_) fun _ _ =>
            .bind (.lift _) fun _ _ => .bind (.lift _) fun _ _ => .pure trivial
  cases receipt.humanReviewId with
  | none => rfl
  | some review => exact ofMerchant_review review

theorem rerouteBlocked_scoped (here : action.merchantId = m) (own : case.merchantId = m) (check : FinalPolicyCheck) :
    ScopedTo m Any (rerouteBlocked action case check t) := by
  unfold rerouteBlocked
  dsimp only
  split
  · exact (executionTransition_scoped own _ _ _ _ _ _).mono fun _ _ => trivial
  · exact .bind (executionTransition_scoped own _ _ _ _ _ _) fun _ own => .bind (executionTransition_scoped own _ _ _ _ _ _)
      fun _ own => (executionTransition_scoped own _ _ _ _ _ _).mono fun _ _ => trivial
  · exact .bind (executionTransition_scoped own _ _ _ _ _ _) fun _ own => .bind (storeReview_scoped here) fun _ _ =>
      .bind (executionTransition_scoped own _ _ _ _ _ _) fun _ own =>
        (executionTransition_scoped own _ _ _ _ _ _).mono fun _ _ => trivial
  · exact (executionTransition_scoped own _ _ _ _ _ _).mono fun _ _ => trivial

theorem blockExecution_scoped (here : action.merchantId = m) (own : case.merchantId = m) (check : FinalPolicyCheck) :
    ScopedTo m Any (blockExecution action case check t) := by
  refine .bind (cancelBeforeExecution_scoped here _) fun _ _ => ?_
  dsimp only
  rw [Tx.ite_bind]
  exact .bind (P := fun c => c.merchantId = m)
    (.ite (fun _ => executionTransition_scoped own _ _ _ _ _ _) fun _ => .pure own) fun _ own =>
      .bind (executionTransition_scoped own _ _ _ _ _ _) fun _ own => .bind (rerouteBlocked_scoped here own check) fun _ _ =>
        .pure trivial

theorem flushed_home (rt : Runtime) (t : Instant) (before : Option Identifier) (r : CaseRow) :
    (r.flushed rt t before).recoveryEpisodeKey = r.recoveryEpisodeKey ∧ (r.flushed rt t before).owner = r.owner := by
  unfold CaseRow.flushed
  split <;> exact ⟨rfl, rfl⟩

theorem startExecution_scoped (own : case.merchantId = m) : ScopedTo m Any (startExecution rt action case t) :=
  .bind (recordExecutionAttemptCounters_scoped own _ _) fun _ own =>
    .ite (fun _ => .bind (executionTransition_scoped own _ _ _ _ _ _) fun _ _ => .pure trivial) fun _ =>
      .ite (fun _ => .pure trivial) fun _ => write_case own fun r => flushed_home _ _ _ r

theorem beginExecution_scoped (here : action.merchantId = m) (own : case.merchantId = m) (token : String) :
    ScopedTo m Any (beginExecution rt action case token t) :=
  .bind (beginAttempt_scoped here token) fun _ _ => .bind (startExecution_scoped own) fun _ _ => .bind (.lift _) fun _ _ =>
    .pure trivial

theorem prepareExecution_scoped {id : ActionIdentity} (here : id.merchantId = m) (token : String) :
    ScopedTo m Any (prepareExecution rt id token t) :=
  .bind (read_action here) fun _ mine => .bind (.found _ _) fun action found =>
    .bind (requiredCase_scoped (mine action found)) fun case own => .bind (.check _ _) fun _ _ =>
      .bind (finalPolicyDecision_scoped (mine action found) own) fun check _ =>
        .ite (fun _ => .bind (blockExecution_scoped (mine action found) own check) fun _ _ => .pure trivial)
          fun _ => beginExecution_scoped (mine action found) own token

theorem recordExecutionResult_scoped {id : ActionIdentity} (here : id.merchantId = m) (token : String)
    (result : ProviderExecutionResult) : ScopedTo m Any (recordExecutionResult rt id token result) := by
  refine .bind (read_action here) fun _ _ => .bind (.found _ _) fun _ _ => .bind (finishAttempt_scoped here _ _ _ _)
    fun action mine => .bind (requiredCase_scoped mine) fun case own => .ite (fun _ => .pure trivial) fun _ =>
      .ite (fun _ => ?_) fun _ => .ite (fun _ => ?_) fun _ => ?_
  · exact .bind (executionTransition_scoped own _ _ _ _ _ _) fun _ _ => .bind (storeObservation_scoped mine) fun _ _ =>
      .pure trivial
  · exact .bind (executionTransition_scoped own _ _ _ _ _ _) fun _ _ => .bind (storeObservation_scoped mine) fun _ _ =>
      .pure trivial
  · exact .bind (executionTransition_scoped own _ _ _ _ _ _) fun _ own => .bind (storeObservation_scoped mine) fun _ _ =>
      .bind (executionTransition_scoped own _ _ _ _ _ _) fun _ _ => .pure trivial

theorem markStaleCall_scoped : ScopedTo action.merchantId Any (markStaleCall rt t action) := by
  refine .bind (markStaleInflightUnknown_scoped rfl _) fun _ _ => .bind (requiredCase_scoped rfl) fun case own => ?_
  dsimp only
  rw [Tx.ite_bind]
  exact .bind (P := fun c => c.merchantId = action.merchantId)
    (.ite (fun _ => executionTransition_scoped own _ _ _ _ _ _) fun _ => .pure own) fun _ _ =>
      .bind (storeObservation_scoped rfl) fun _ _ => .pure trivial

theorem expireVerification_scoped (here : action.merchantId = m) (own : case.merchantId = m)
    (result : ProviderLookupResult) :
    ScopedTo m (fun out => out.1.merchantId = m ∧ out.2.merchantId = m) (expireVerification action case result) :=
  .bind (markVerificationExpiredUnknown_scoped here) fun _ mine => .bind (executionTransition_scoped own _ _ _ _ _ _)
    fun _ own => .bind (storeObservation_scoped mine) fun _ _ => .pure ⟨mine, own⟩

theorem settleLookup_scoped (own : case.merchantId = m) (result : ProviderLookupResult) :
    ScopedTo m Any (settleLookup action case result) :=
  .ite (fun _ => (executionTransition_scoped own _ _ _ _ _ _).mono fun _ _ => trivial) fun _ =>
    .ite (fun _ => (executionTransition_scoped own _ _ _ _ _ _).mono fun _ _ => trivial) fun _ => .pure trivial

theorem reconcile_scoped (here : action.merchantId = m) (own : case.merchantId = m) (result : ProviderLookupResult) :
    ScopedTo m Any (reconcile action case result) := by
  unfold reconcile
  dsimp only
  rw [Tx.ite_bind]
  refine .bind (P := fun r => r.merchantId = m)
    (.ite (fun _ => setActionResolution_scoped here _ _ _) fun _ => .pure here) fun resolved mine => ?_
  rw [Tx.ite_bind]
  exact .bind (P := fun c => c.merchantId = m)
    (.ite (fun _ => executionTransition_scoped own _ _ _ _ _ _) fun _ => .pure own) fun _ own =>
      .bind (storeObservation_scoped mine) fun _ _ => .bind (settleLookup_scoped own result) fun _ _ => .pure trivial

theorem settleLookupDeadline_scoped (here : action.merchantId = m) (own : case.merchantId = m)
    (result : ProviderLookupResult) : ScopedTo m Any (settleLookupDeadline action case result) :=
  .ite (fun _ => .bind (write_action here fun _ => rfl) fun _ _ => .bind (executionTransition_scoped own _ _ _ _ _ _)
      fun _ _ => .pure trivial)
    fun _ => .ite (fun _ => .pure trivial) fun _ => reconcile_scoped here own result

theorem recordLookup_scoped {id : ActionIdentity} (here : id.merchantId = m) (result : ProviderLookupResult) :
    ScopedTo m Any (recordLookup id result) := by
  refine .bind (read_action here) fun _ mine => .bind (.found _ _) fun action found =>
    .bind (requiredCase_scoped (mine action found)) fun case own => .ite (fun _ => .pure trivial) fun _ => ?_
  dsimp only
  rw [Tx.ite_bind]
  exact .bind (P := fun out => out.1.merchantId = m ∧ out.2.merchantId = m)
    (.ite (fun _ => expireVerification_scoped (mine action found) own result) fun _ => .pure ⟨mine action found, own⟩)
    fun current both => settleLookupDeadline_scoped both.1 both.2 result

theorem creditedAction_scoped {event : NormalizedEvent} (here : event.merchantId = m) :
    ScopedTo m (fun o => ∀ r ∈ o, r.merchantId = m) (creditedAction rt event) := by
  subst here
  unfold creditedAction
  split
  · exact findActionForProviderObject_scoped _ _
  · split
    · exact latestAction_scoped _ _
    · exact .pure fun _ absent => by cases absent

theorem acknowledgeSigned_scoped (own : case.merchantId = m) (event : NormalizedEvent) (reference : String) :
    ScopedTo m (fun c => c.merchantId = m) (acknowledgeSigned case action event reference) :=
  .ite (fun _ => executionTransition_scoped own _ _ _ _ _ _) fun _ => .pure own

theorem verifyAgainst_scoped (here : action.merchantId = m) (event : NormalizedEvent) (webhook : Identifier) :
    ScopedTo m Any (verifyAgainst event webhook action) := by
  refine .bind (requiredCase_scoped here) fun case own => .ite (fun _ => .pure trivial) fun _ =>
    .ite (fun _ => ?_) fun _ => ?_
  · exact .bind (acknowledgeSigned_scoped own event _) fun _ own => .bind (executionTransition_scoped own _ _ _ _ _ _)
      fun _ _ => .pure trivial
  · exact .bind (setActionResolution_scoped here _ _ _) fun _ mine => .bind (acknowledgeSigned_scoped own event _) fun _ own =>
      .ite (fun _ => .pure trivial) fun _ => .bind (storeObservation_scoped mine) fun _ _ =>
        .bind (executionTransition_scoped own _ _ _ _ _ _) fun _ _ => .pure trivial

theorem verifySignedEvent_scoped {event : NormalizedEvent} (here : event.merchantId = m) (webhook : Identifier) :
    ScopedTo m Any (verifySignedEvent rt event webhook) := by
  refine .ite (fun _ => .pure trivial) fun _ => .bind (creditedAction_scoped here) fun action mine => ?_
  cases action with
  | none => exact .pure trivial
  | some action => exact .bind (verifyAgainst_scoped (mine action rfl) event webhook) fun _ _ => .pure trivial

end execution

section ingestion

theorem owned_upsert {R K : Type} [DecidableEq K] {key : R → K} {owner : R → Identifier} {wins : R → R → Bool} {row : R}
    {rows : List R} (here : owner row = m) (within : ∀ r, key r = key row → owner r = owner row) :
    Table.Owned owner m (upsert key wins row) rows := by
  have present : (Table.lookup key (key row) (Table.select owner m rows)).isSome =
      (Table.lookup key (key row) rows).isSome := by
    rw [Table.lookup_select fun r found => (within r found).trans here]
  have replaced : Table.Owned owner m (Table.update key (key row) fun current => if wins current row then row else current) rows :=
    Table.owned_update (fun r _ found => (within r found).trans here) fun r _ found => by
      split
      · exact (within r found).symm
      · rfl
  have added : Table.Owned owner m (· ++ [row]) rows := Table.owned_add here
  constructor
  · simp only [upsert, present]
    split
    · exact replaced.inside
    · exact added.inside
  · intro j other
    simp only [upsert]
    split
    · exact replaced.outside j other
    · exact added.outside j other

theorem registerMerchant_scoped : ScopedTo m Any (registerMerchant m) := by
  have same : registerMerchant m = Tx.write fun db => { db with
      merchants := if m ∈ db.merchants then db.merchants else db.merchants ++ [m] } := by
    refine congrArg Tx.write (funext fun db => ?_)
    split <;> rfl
  rw [same]
  refine TenantTable.merchants.write
    (fun rows => if m ∈ rows then rows else rows ++ [m]) fun s _ => ?_
  have known : m ∈ Table.select id m s.merchants ↔ m ∈ s.merchants := Table.mem_select.trans (and_iff_left rfl)
  have added : Table.Owned id m (· ++ [m]) s.merchants := Table.owned_add rfl
  constructor
  · simp only [known]
    split
    · rfl
    · exact added.inside
  · intro j other
    split
    · rfl
    · exact added.outside j other

theorem upsertCustomer_scoped {row : CustomerRow} (here : row.merchantId = m) : ScopedTo m Any (upsertCustomer row) :=
  TenantTable.customers.write _
    fun _ _ => owned_upsert here fun _ found => congrArg Prod.fst found

theorem upsertPayment_scoped {row : PaymentRow} (here : row.merchantId = m) : ScopedTo m Any (upsertPayment row) :=
  TenantTable.payments.write _
    fun _ _ => owned_upsert here fun _ found => congrArg Prod.fst found

theorem upsertSubscription_scoped {row : SubscriptionRow} (here : row.merchantId = m) :
    ScopedTo m Any (upsertSubscription row) :=
  TenantTable.subscriptions.write _
    fun _ _ => owned_upsert here fun _ found => congrArg Prod.fst found

def MerchantRow.merchantId : MerchantRow → Identifier
  | .consent row => row.merchantId
  | .invoice row => row.merchantId
  | .incident row => row.merchantId

theorem putMerchantRow_scoped {row : MerchantRow} (here : row.merchantId = m) : ScopedTo m Any (putMerchantRow row) := by
  cases row with
  | consent row =>
    exact TenantTable.consents.write _
      fun _ _ => owned_upsert here fun _ found => congrArg Prod.fst found
  | invoice row =>
    exact TenantTable.invoices.write _
      fun _ _ => owned_upsert here fun _ found => congrArg Prod.fst found
  | incident row =>
    exact TenantTable.incidents.write _
      fun _ _ => owned_upsert here fun _ found => congrArg Prod.fst found

/-- No other merchant's event has this id: the events' table has no other key. -/
def OwnEvent (m eventId : Identifier) (db : Database) : Prop := ∀ e ∈ db.events, e.eventId = eventId → e.merchantId = m

instance (m eventId : Identifier) (db : Database) : Decidable (OwnEvent m eventId db) :=
  inferInstanceAs (Decidable (∀ e ∈ db.events, _))

theorem listed_select {R : Type} {owner : R → Identifier} {key : R → Identifier × Identifier} {rows : List R}
    (first : ∀ r, (key r).1 = owner r) (id : Identifier) :
    (m, id) ∈ (Table.select owner m rows).map key ↔ (m, id) ∈ rows.map key := by
  simp only [List.mem_map, Table.mem_select]
  constructor
  · rintro ⟨r, ⟨member, -⟩, here⟩
    exact ⟨r, member, here⟩
  · rintro ⟨r, member, here⟩
    exact ⟨r, ⟨member, by rw [← first r, here]⟩, here⟩

theorem ofMerchant_referenced (event : NormalizedEvent) :
    event.Referenced (db.ofMerchant event.merchantId) ↔ event.Referenced db := by
  have registered : event.merchantId ∈ (db.ofMerchant event.merchantId).merchants ↔ event.merchantId ∈ db.merchants :=
    Table.mem_select.trans (and_iff_left rfl)
  have customers (id : Identifier) : (event.merchantId, id) ∈ (db.ofMerchant event.merchantId).customers.map CustomerRow.id ↔
      (event.merchantId, id) ∈ db.customers.map CustomerRow.id := listed_select (fun _ => rfl) id
  have payments (id : Identifier) : (event.merchantId, id) ∈ (db.ofMerchant event.merchantId).payments.map PaymentRow.id ↔
      (event.merchantId, id) ∈ db.payments.map PaymentRow.id := listed_select (fun _ => rfl) id
  have subscriptions (id : Identifier) :
      (event.merchantId, id) ∈ (db.ofMerchant event.merchantId).subscriptions.map SubscriptionRow.id ↔
      (event.merchantId, id) ∈ db.subscriptions.map SubscriptionRow.id := listed_select (fun _ => rfl) id
  constructor
  · intro held
    exact ⟨registered.mp held.merchant, fun id named => (customers id).mp (held.customer id named),
      fun id named => (payments id).mp (held.payment id named),
      fun id named => (subscriptions id).mp (held.subscription id named)⟩
  · intro held
    exact ⟨registered.mpr held.merchant, fun id named => (customers id).mpr (held.customer id named),
      fun id named => (payments id).mpr (held.payment id named),
      fun id named => (subscriptions id).mpr (held.subscription id named)⟩

/-- An event that no other merchant's event shares its id with is inserted into its merchant's part. -/
theorem insertNormalizedEvent_scoped (event : NormalizedEvent) :
    Tx.Scoped Database.ofMerchant (fun db => AtHome db ∧ OwnEvent event.merchantId event.eventId db) event.merchantId Any
      (insertNormalizedEvent event) := by
  have added (s : Database) : Table.Owned RevenueRiskEvent.merchantId event.merchantId (· ++ [event]) s.events :=
    Table.owned_add rfl
  refine .bind (.look fun s _ => decide_eq_decide.mpr (ofMerchant_referenced event)) fun _ _ => .bind (.check _ _) fun _ _ => ?_
  refine .write (fun s _ => ?_) (fun s _ j other => ?_) fun s h => ⟨h.1.of_same rfl rfl rfl rfl, fun e member same => ?_⟩
  · simp only [Database.ofMerchant, (added s).inside]
  · simp only [Database.ofMerchant, (added s).outside j other]
  · rcases List.mem_append.mp member with old | new
    · exact h.2 e old same
    · rw [List.mem_singleton.mp new]

theorem persistNormalizedEvent_scoped (event : NormalizedEvent) :
    Tx.Scoped Database.ofMerchant (fun db => AtHome db ∧ OwnEvent event.merchantId event.eventId db) event.merchantId Any
      (persistNormalizedEvent event) := by
  refine .bind (.look fun s _ => ofMerchant_event event.eventId) fun existing _ => ?_
  cases existing with
  | some row => exact .pure trivial
  | none =>
    refine .bind (.look fun s h => Table.any_select fun e member same => ?_) fun _ _ =>
      .bind (.check _ _) fun _ _ => insertNormalizedEvent_scoped event
    simp only [Bool.or_eq_true, RevenueRiskEvent.sameSource, Bool.and_eq_true, beq_iff_eq] at same
    rcases same with same | ⟨⟨own, -⟩, -⟩
    · exact h.2 e member same
    · exact own

theorem persistMerchantEvent_scoped (event : NormalizedEvent) :
    Tx.Scoped Database.ofMerchant (fun db => AtHome db ∧ OwnEvent event.merchantId event.eventId db) event.merchantId Any
      (persistMerchantEvent event) := by
  refine .bind (.look fun s _ => Table.find_select fun e _ same => ?_) fun existing _ => ?_
  · simp only [RevenueRiskEvent.sameSource, Bool.and_eq_true, beq_iff_eq] at same
    exact same.1.1
  cases existing with
  | some row => exact .pure trivial
  | none =>
    exact .bind (.look fun s h => Table.any_select fun e member same => h.2 e member (beq_iff_eq.mp same)) fun _ _ =>
      .bind (.check _ _) fun _ _ => insertNormalizedEvent_scoped event

theorem recordMerchantEvent_scoped (sourceEventId : String) (o : OverdueInvoice) :
    ScopedTo m Any (recordMerchantEvent m sourceEventId o) := by
  refine .bind (.look fun s _ => Table.find_select fun _ _ taken => (of_decide_eq_true taken).1) fun existing _ => ?_
  cases existing with
  | some row => exact (Tx.Scoped.check _ _).mono fun _ _ => trivial
  | none =>
    exact TenantTable.merchantEvents.write
      (· ++ [⟨m, sourceEventId, o⟩]) fun _ _ => Table.owned_add rfl

theorem write_invoice (invoiceId : Identifier) {f : InvoiceRow → InvoiceRow}
    (keeps : ∀ r, (f r).merchantId = r.merchantId) : ScopedTo m Any (Tx.write (updateInvoice m invoiceId f)) := by
  refine TenantTable.invoices.write
    (List.map fun r => if r.merchantId = m ∧ r.invoiceId = invoiceId then f r else r) fun s _ =>
      Table.owned_map (fun r _ => ?_) fun r _ other => if_neg fun found => other found.1
  split
  · exact keeps r
  · rfl

theorem overdue_merchant (o : OverdueInvoice) (r : InvoiceRow) : (r.overdue o t).merchantId = r.merchantId := by
  unfold InvoiceRow.overdue
  split <;> rfl

theorem upsertOverdueInvoice_scoped (o : OverdueInvoice) : ScopedTo m Any (upsertOverdueInvoice m o t) := by
  refine .bind (.look fun s _ => Table.any_select fun c _ taken => ?_) fun _ _ =>
    .bind (.look fun s _ => ofMerchant_invoice _) fun existing _ => .bind (.check _ _) fun _ _ => ?_
  · simp only [Bool.and_eq_true, beq_iff_eq] at taken
    exact taken.1
  cases existing with
  | some row => exact write_invoice _ (overdue_merchant o)
  | none =>
    exact .bind (.check _ _) fun _ _ => TenantTable.invoices.write (· ++ [_]) fun _ _ => Table.owned_add rfl

def EventsKept (db db' : Database) : Prop := db'.events = db.events

theorem eventsKept_closed : Tx.Closed EventsKept := ⟨fun _ => rfl, fun h h' => Eq.trans h' h⟩

theorem recordMerchantEvent_events (sourceEventId : String) (o : OverdueInvoice) :
    Tx.Keeps (recordMerchantEvent m sourceEventId o) EventsKept := by
  refine eventsKept_closed.bind (eventsKept_closed.read _) fun existing => ?_
  cases existing with
  | some row => exact eventsKept_closed.check _ _
  | none => exact Tx.Closed.write fun _ => rfl

theorem upsertOverdueInvoice_events (o : OverdueInvoice) :
    Tx.Keeps (upsertOverdueInvoice m o t) EventsKept := by
  refine eventsKept_closed.bind (eventsKept_closed.read _) fun _ => eventsKept_closed.bind (eventsKept_closed.read _)
    fun existing => eventsKept_closed.bind (eventsKept_closed.check _ _) fun _ => ?_
  cases existing with
  | some row => exact Tx.Closed.write fun _ => rfl
  | none => exact eventsKept_closed.bind (eventsKept_closed.check _ _) fun _ => Tx.Closed.write fun _ => rfl

theorem recordOverdueInvoice_scoped (sourceEventId : String) (o : OverdueInvoice) (received : Instant) :
    Tx.Scoped Database.ofMerchant (fun db => AtHome db ∧ OwnEvent m (invoiceEventId m sourceEventId) db) m Any
      (recordOverdueInvoice m sourceEventId o t received) := by
  have own : ∀ {x : Transaction Unit}, Tx.Keeps x EventsKept → Tx.Keeps x fun s s' =>
      OwnEvent m (invoiceEventId m sourceEventId) s → OwnEvent m (invoiceEventId m sourceEventId) s' :=
    fun keeps => keeps.mono fun same before => by rwa [OwnEvent, same]
  exact .bind ((recordMerchantEvent_scoped sourceEventId o).also (own (recordMerchantEvent_events sourceEventId o)))
    fun _ _ => .bind ((upsertOverdueInvoice_scoped o).also (own (upsertOverdueInvoice_events o))) fun _ _ =>
      persistMerchantEvent_scoped (overdueEvent m sourceEventId o t received)

end ingestion

section portfolio

variable {a : DegradationAssessment} {row : IncidentRow}

/-- A change of the case rows of one merchant that keeps their merchant and episode. -/
theorem write_cases {f : CaseRow → CaseRow}
    (kept : ∀ r, (f r).recoveryEpisodeKey = r.recoveryEpisodeKey ∧ (f r).owner = r.owner)
    (others : ∀ r, r.owner ≠ m → f r = r) :
    ScopedTo m Any (Tx.write fun db => { db with cases := db.cases.map f }) := by
  refine TenantTable.cases.write (List.map f)
    (fun _ _ => Table.owned_map (fun r _ => (kept r).2) fun r _ => others r)
    fun s home => { home with cases := fun r member e episode => ?_ }
  obtain ⟨before, stored, rfl⟩ := List.mem_map.mp member
  rw [(kept before).1] at episode
  rw [(kept before).2]
  exact home.cases before stored e episode

theorem write_links {f : IncidentCaseLink → IncidentCaseLink} (kept : ∀ l, (f l).merchantId = l.merchantId)
    (others : ∀ l, l.merchantId ≠ m → f l = l) :
    ScopedTo m Any (Tx.write fun db => { db with incidentLinks := db.incidentLinks.map f }) :=
  TenantTable.incidentLinks.write (List.map f)
    fun _ _ => Table.owned_map (fun l _ => kept l) fun l _ => others l

def newlyAffected (incident : IncidentConstraint) (a : DegradationAssessment) (db : Database) : List IncidentCaseLink :=
  ((db.cases.filter (CaseRow.affectedBy a)).filter fun r => !db.incidentLinks.any fun l =>
    l.merchantId == a.merchantId && l.incidentId == incident.incidentId && l.caseId == r.case.caseId).map
      fun r => ⟨a.merchantId, incident.incidentId, r.case.caseId, a.evaluatedAt, none⟩

theorem affected_merchant {r : CaseRow} (affected : r.affectedBy a = true) : r.owner = a.merchantId :=
  (of_decide_eq_true affected).1

theorem ofMerchant_newlyAffected (incident : IncidentConstraint) :
    newlyAffected incident a (db.ofMerchant a.merchantId) = newlyAffected incident a db := by
  have affected : (Table.select CaseRow.owner a.merchantId db.cases).filter (CaseRow.affectedBy a) =
      db.cases.filter (CaseRow.affectedBy a) := Table.filter_select fun _ _ taken => affected_merchant taken
  have linked : ∀ r : CaseRow, (Table.select IncidentCaseLink.merchantId a.merchantId db.incidentLinks).any (fun l =>
      l.merchantId == a.merchantId && l.incidentId == incident.incidentId && l.caseId == r.case.caseId) =
      db.incidentLinks.any fun l =>
        l.merchantId == a.merchantId && l.incidentId == incident.incidentId && l.caseId == r.case.caseId := by
    intro r
    refine Table.any_select fun l _ taken => ?_
    simp only [Bool.and_eq_true, beq_iff_eq] at taken
    exact taken.1.1
  simp only [newlyAffected, Database.ofMerchant, affected, linked]

theorem linkAffected_scoped (incident : IncidentConstraint) : ScopedTo a.merchantId Any
    (Tx.write fun db => { db with incidentLinks := db.incidentLinks ++ newlyAffected incident a db }) := by
  have added (s : Database) : Table.Owned IncidentCaseLink.merchantId a.merchantId (· ++ newlyAffected incident a s)
      s.incidentLinks := Table.owned_append fun l member => by
    obtain ⟨r, -, rfl⟩ := List.mem_map.mp member
    rfl
  refine scoped_write (fun s _ => ?_) (fun s _ j other => ?_) fun s home => home.of_same rfl rfl rfl rfl
  · rw [ofMerchant_newlyAffected]
    simp only [Database.ofMerchant, (added s).inside]
  · simp only [Database.ofMerchant, (added s).outside j other]

/-- A row that is kept, or flushed after a change that keeps its merchant and episode, has them. -/
theorem flushed_kept {f : CaseRow → CaseRow} {r : CaseRow}
    (kept : (f r).recoveryEpisodeKey = r.recoveryEpisodeKey ∧ (f r).owner = r.owner) (changed : Prop) [Decidable changed] :
    (if changed then (f r).flushed rt t r.case.activeIncidentId else r).recoveryEpisodeKey = r.recoveryEpisodeKey ∧
      (if changed then (f r).flushed rt t r.case.activeIncidentId else r).owner = r.owner := by
  split
  · have home := flushed_home rt t r.case.activeIncidentId (f r)
    exact ⟨home.1.trans kept.1, home.2.trans kept.2⟩
  · exact ⟨rfl, rfl⟩

theorem attachAffectedCases_scoped (incident : IncidentConstraint) :
    ScopedTo a.merchantId Any (attachAffectedCases rt incident a) :=
  (linkAffected_scoped incident).comp (write_cases (fun _ => flushed_kept (f := CaseRow.attach incident) ⟨rfl, rfl⟩ _) fun r other =>
    if_neg fun affected => other (affected_merchant affected))

theorem setIncident_scoped (here : row.merchantId = m) : ScopedTo m Any (setIncident row) := by
  subst here
  refine TenantTable.incidents.write
    (List.map fun r => if r.merchantId = row.merchantId ∧ r.incident.incidentId = row.incident.incidentId then row else r)
    fun s _ => Table.owned_map (fun r _ => ?_) fun r _ other => if_neg fun found => other found.1
  split
  · rename_i found
    exact found.1.symm
  · rfl

theorem ofMerchant_resumeOrder (incidentId : Identifier) :
    resumeOrder m incidentId (db.ofMerchant m) = resumeOrder m incidentId db := by
  have rows : (Table.select IncidentCaseLink.merchantId m db.incidentLinks).filter
      (fun l => decide (l.merchantId = m ∧ l.incidentId = incidentId)) =
      db.incidentLinks.filter fun l => decide (l.merchantId = m ∧ l.incidentId = incidentId) :=
    Table.filter_select fun _ _ taken => (of_decide_eq_true taken).1
  simp only [resumeOrder, Database.ofMerchant, rows]

theorem resume_kept (incidentId : Identifier) (at_ : Instant) (r : CaseRow) :
    (r.resume incidentId at_).recoveryEpisodeKey = r.recoveryEpisodeKey ∧ (r.resume incidentId at_).owner = r.owner := by
  unfold CaseRow.resume
  split <;> exact ⟨rfl, rfl⟩

theorem resolveIncident_scoped (here : row.merchantId = m) : ScopedTo m Any (resolveIncident rt row t) := by
  subst here
  refine .bind (.look fun s _ => ofMerchant_resumeOrder _) fun order _ => .bind (.lift _) fun incident _ =>
    .bind (setIncident_scoped rfl) fun _ _ => (write_links
      (f := fun l => if l.merchantId = row.merchantId ∧ l.incidentId = row.incident.incidentId then
        { l with resumeAfter := some (resumeAt order t l.caseId) } else l) (fun l => ?_) fun l other => ?_).comp
      (write_cases (fun r => flushed_kept
        (f := fun r => r.resume row.incident.incidentId (resumeAt order t r.case.caseId)) (resume_kept _ _ r) _)
        fun r other => ?_)
  · split <;> rfl
  · exact if_neg fun found => other found.1
  · exact if_neg fun found => other found.1

theorem clearWindow_scoped (here : row.merchantId = a.merchantId) (policy : DegradationPolicy) :
    ScopedTo a.merchantId Any (clearWindow rt a policy row) :=
  .ite (fun _ => .pure trivial) fun _ => .ite (fun _ => resolveIncident_scoped here) fun _ =>
    .bind (.lift _) fun _ _ => setIncident_scoped here

theorem extendIncident_scoped (here : row.merchantId = a.merchantId) (policy : DegradationPolicy) :
    ScopedTo a.merchantId Any (extendIncident rt a policy row) :=
  .bind (.lift _) fun _ _ => .bind (setIncident_scoped here) fun _ _ => attachAffectedCases_scoped _

theorem applyDegradationAssessment_scoped (here : a.merchantId = m) (policy : DegradationPolicy) (incidentId : Identifier) :
    ScopedTo m Any (applyDegradationAssessment rt a policy incidentId) := by
  subst here
  refine .bind (P := fun o => ∀ row ∈ o, row.merchantId = a.merchantId) (.read (fun s _ => ?_) fun s _ row found => ?_)
    fun active own => ?_
  · exact Table.find_select fun _ _ taken => (of_decide_eq_true taken).1
  · have taken := List.find?_some found
    rw [decide_eq_true_eq] at taken
    exact taken.1
  cases active with
  | some row =>
    exact .ite (fun _ => extendIncident_scoped (own row rfl) policy) fun _ => clearWindow_scoped (own row rfl) policy
  | none =>
    refine .ite (fun _ => ?_) fun _ => .pure trivial
    refine .bind (.look fun s _ => Table.any_select fun _ _ taken => (of_decide_eq_true taken).1) fun _ _ =>
      .bind (.check _ _) fun _ _ => .bind (TenantTable.incidents.write (· ++ [openIncident a policy incidentId]) fun _ _ => Table.owned_add rfl) fun _ _ =>
          attachAffectedCases_scoped _

end portfolio

section receivables

variable {promise : PromiseRow}

theorem write_promises {p : PromiseRow → Bool} {f : PromiseRow → PromiseRow}
    (within : ∀ r, r.promiseId.merchantId = r.merchantId → p r = true → r.merchantId = m)
    (kept : ∀ r, (f r).merchantId = r.merchantId ∧ (f r).promiseId = r.promiseId) :
    ScopedTo m Any (Tx.write (updatePromises p f)) := by
  refine TenantTable.promises.write
    (List.map fun r => if p r then f r else r) (fun s home => Table.owned_map (fun r _ => ?_) fun r member other => ?_)
    fun s home => { home with promises := fun r member => ?_ }
  · split
    · exact (kept r).1
    · rfl
  · exact if_neg fun taken => other (within r (home.promises r member) taken)
  · obtain ⟨before, stored, rfl⟩ := List.mem_map.mp member
    split
    · rw [(kept before).1, (kept before).2]
      exact home.promises before stored
    · exact home.promises before stored

theorem storeCustomerResponse_scoped {response : CustomerResponseRow} {extraction : PromiseExtraction}
    (here : response.owner = m) :
    ScopedTo m (fun out => out.1.owner = m) (storeCustomerResponse response extraction) := by
  refine .bind (.check _ _) fun _ _ => .bind (P := fun o => ∀ row ∈ o, row.owner = m) (.read (fun s _ => ?_) fun s _ row found => ?_) fun existing own => ?_
  · refine Table.find_select fun r _ taken => ?_
    rw [← here, CustomerResponseRow.owner, of_decide_eq_true taken]
    rfl
  · have taken := List.find?_some found
    rw [decide_eq_true_eq] at taken
    rw [← here, CustomerResponseRow.owner, taken]
    rfl
  cases existing with
  | some row => exact .bind (.check _ _) fun _ _ => .pure (own row rfl)
  | none =>
    exact .bind (TenantTable.responses.write
      (· ++ [response]) fun _ _ => Table.owned_add here) fun _ _ => .pure here

theorem storePromise_scoped {p : PromiseToPay} (here : p.merchantId = m) (own : p.promiseId.merchantId = m) :
    ScopedTo m Any (storePromise p) := by
  subst here
  refine .bind (.look fun s home => Table.find_select fun r member taken => ?_) fun existing _ => ?_
  · rw [← home.promises r member, of_decide_eq_true taken, own]
  cases existing with
  | some row => exact .pure trivial
  | none =>
    refine .bind (TenantTable.promises.write
      (· ++ [p.row]) (fun _ _ => Table.owned_add rfl) fun s home => { home with promises := fun r member => ?_ })
        fun _ _ => write_invoice _ fun r => ?_
    · rcases List.mem_append.mp member with old | new
      · exact home.promises r old
      · rw [List.mem_singleton.mp new]
        exact own
    · unfold InvoiceRow.promised
      split <;> rfl

theorem storeReceivableEscalation_scoped {row : ReceivableEscalationRow} (here : row.merchantId = m)
    (own : row.responseId.merchantId = m) : ScopedTo m Any (storeReceivableEscalation row) := by
  refine .bind (.look fun s home => Table.find_select fun r member taken => ?_) fun existing _ => ?_
  · rw [← home.escalations r member, of_decide_eq_true taken, own]
  cases existing with
  | some row => exact .pure trivial
  | none =>
    refine TenantTable.escalations.write
      (· ++ [row]) (fun _ _ => Table.owned_add here) fun s home => { home with escalations := fun r member => ?_ }
    rcases List.mem_append.mp member with old | new
    · exact home.escalations r old
    · rw [List.mem_singleton.mp new, own, here]

theorem freeze_merchant (status : InvoiceStatus) (from_ : List InvoiceStatus) (at_ : Instant) (r : InvoiceRow) :
    (r.freeze status from_ at_).merchantId = r.merchantId := by
  unfold InvoiceRow.freeze
  split <;> rfl

theorem freezeAndEscalate_scoped {row : ReceivableEscalationRow} (here : row.merchantId = m)
    (own : row.responseId.merchantId = m) (status : InvoiceStatus) (from_ : List InvoiceStatus) (ended : PromiseStatus) :
    ScopedTo m Any (freezeAndEscalate row status from_ ended) := by
  subst here
  exact .bind (write_invoice _ (freeze_merchant status from_ _)) fun _ _ =>
    .bind (write_promises (fun _ _ taken => (of_decide_eq_true taken).1) fun _ => ⟨rfl, rfl⟩) fun _ _ =>
      storeReceivableEscalation_scoped rfl own

theorem applyResponse_scoped {response : CustomerResponseRow} (here : response.owner = m) (invoice : InvoiceRow)
    (extraction : PromiseExtraction) : ScopedTo m Any (applyResponse response invoice extraction) := by
  unfold applyResponse
  dsimp only
  split
  · refine .bind (.lift _) fun promise made => ?_
    obtain ⟨-, terms, -, -, rfl⟩ := createPromise_iff.mp made
    exact .bind (storePromise_scoped here here) fun _ _ => .pure trivial
  · exact .bind (freezeAndEscalate_scoped here here _ _ _) fun _ _ => .pure trivial
  · exact .bind (freezeAndEscalate_scoped here here _ _ _) fun _ _ => .pure trivial
  · exact .bind (storeReceivableEscalation_scoped here here) fun _ _ => .pure trivial

theorem recordCustomerResponse_scoped (source : String) (invoiceId : Identifier) (body : String)
    (reply : Option PromiseExtraction) : ScopedTo m Any (recordCustomerResponse m source invoiceId body reply t) :=
  .bind (.look fun s _ => ofMerchant_invoice _) fun _ _ => .bind (.found _ _) fun invoice _ =>
    .bind (.look fun s _ => ofMerchant_activeCase _) fun _ _ => .bind (.found _ _) fun row _ =>
      .bind (.lift _) fun extraction _ => .bind (storeCustomerResponse_scoped rfl) fun stored own =>
        .ite (fun _ => applyResponse_scoped own invoice extraction) fun _ => .pure trivial

theorem assessReminder_scoped : ScopedTo promise.merchantId
    (fun o => ∀ a ∈ o, a.checking.merchantId = promise.merchantId) (assessReminder rt t promise) := by
  refine .bind (read_case (k := ⟨promise.merchantId, promise.caseId⟩) rfl) fun _ own => .bind (.found _ _) fun case found =>
    .bind effectivePolicy_scoped fun policy _ => ?_
  rw [Tx.ite_bind]
  refine .bind (P := fun c => c.merchantId = promise.merchantId)
    (.ite (fun _ => recoveryTransition_scoped (own case found) _ _ _ _) fun _ => .pure (own case found)) fun moved mine => ?_
  dsimp only
  refine .ite (fun _ => .pure fun _ absent => by cases absent) fun _ =>
    .bind (recoveryTransition_scoped mine _ _ _ _) fun checking mine =>
      .bind (.look fun s _ => ofMerchant_consentFacts _) fun _ _ =>
        .bind (activeIncidents_scoped (k := ⟨promise.merchantId, checking.caseId⟩) rfl _) fun _ _ =>
          .bind (.lift _) fun _ _ => .bind (.lift _) fun _ _ => .pure fun a made => ?_
  cases made
  exact mine

theorem awaits_merchant (own : promise.promiseId.merchantId = promise.merchantId) {r : PromiseRow}
    (home : r.promiseId.merchantId = r.merchantId) (taken : r.awaits promise.promiseId = true) :
    r.merchantId = promise.merchantId := by
  rw [← home, (of_decide_eq_true taken).1, own]

theorem markPromiseReminderScheduled_scoped (own : promise.promiseId.merchantId = promise.merchantId)
    (id : ActionIdentity) : ScopedTo promise.merchantId Any (markPromiseReminderScheduled promise id t) :=
  .bind (.look fun _ home => Table.filter_select fun r member taken => awaits_merchant own (home.promises r member) taken)
    fun _ _ => .bind (.check _ _) fun _ _ => write_promises (fun _ home taken => awaits_merchant own home taken)
      fun _ => ⟨rfl, rfl⟩

theorem decideReminder_scoped (own : promise.promiseId.merchantId = promise.merchantId) {a : ReminderAssessment}
    (mine : a.checking.merchantId = promise.merchantId) :
    ScopedTo promise.merchantId Any (decideReminder t promise a) := by
  unfold decideReminder
  refine .bind (recoveryTransition_scoped mine _ _ _ _) fun decided _ => .bind (storeReceipt_scoped rfl) fun _ _ => ?_
  split
  · rename_i action made
    have named : action.identity.merchantId = promise.merchantId := by
      split at made
      · cases made
        rfl
      · cases made
    exact .bind (storeAction_scoped named _ _ _) fun _ _ => .bind (markPromiseReminderScheduled_scoped own _) fun _ _ =>
      .pure trivial
  · refine .bind (P := Any) ?_ fun _ _ => .pure trivial
    unfold rescheduleIfDeferred
    split
    · exact write_promises (fun _ home taken => awaits_merchant own home taken) fun _ => ⟨rfl, rfl⟩
    · exact .pure trivial

theorem remindPromise_scoped (own : promise.promiseId.merchantId = promise.merchantId) :
    ScopedTo promise.merchantId Any (remindPromise rt t promise) := by
  refine .bind assessReminder_scoped fun assessed mine => ?_
  cases assessed with
  | none => exact .pure trivial
  | some a => exact decideReminder_scoped own (mine a rfl)

theorem escalateBrokenPromise_scoped (own : promise.promiseId.merchantId = promise.merchantId) :
    ScopedTo promise.merchantId Any (escalateBrokenPromise t promise) := by
  have settled : ∀ {f : PromiseRow → PromiseRow}, (∀ r, (f r).merchantId = r.merchantId ∧ (f r).promiseId = r.promiseId) →
      ScopedTo promise.merchantId Any (Tx.write (setPromise promise f)) := fun kept =>
    write_promises (fun r home taken => by rw [← home, of_decide_eq_true taken, own]) kept
  exact .bind (.look fun s _ => ofMerchant_invoice _) fun _ _ => .bind (.found _ _) fun invoice _ =>
    .ite (fun _ => .bind (settled fun _ => ⟨rfl, rfl⟩) fun _ _ => .pure trivial) fun _ =>
      .bind (settled fun _ => ⟨rfl, rfl⟩) fun _ _ => .bind (write_invoice _ (freeze_merchant _ _ _)) fun _ _ =>
        .bind (storeReceivableEscalation_scoped rfl own) fun _ _ => .pure trivial

end receivables

end RevenueGuard
