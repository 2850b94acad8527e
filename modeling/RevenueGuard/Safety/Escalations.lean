import RevenueGuard.Protocol.Forward
import RevenueGuard.Safety.Approvals
import RevenueGuard.Safety.PaidOrders
import RevenueGuard.Safety.SignedEvents

/-
Escalated cases and their reviews. A case is ESCALATED exactly while one review
of it is requested, unless it was escalated without one or ended past it.
-/
namespace RevenueGuard

variable {db db' d e : Database} {rt : Runtime} {excluded : Kind → Prop} {k : CaseKey} {v v' : CaseView} {row : CaseRow}

/-- The reviews of a case that nobody has decided. -/
def CaseView.openReviews (v : CaseView) : List HumanReviewRequest := v.reviews.filter fun r => decide (r.status = .requested)

/-- One review is open while the case is ESCALATED, and none otherwise. -/
def CaseView.Reviewed (v : CaseView) : Prop := v.openReviews.length = if v.state = some .escalated then 1 else 0

theorem reviewed_open (h : v.Reviewed) {review : HumanReviewRequest} (member : review ∈ v.reviews)
    (requested : review.status = .requested) : v.state = some .escalated ∧ v.openReviews = [review] := by
  have here : review ∈ v.openReviews := List.mem_filter.mpr ⟨member, decide_eq_true requested⟩
  unfold CaseView.Reviewed at h
  split at h
  · rename_i escalated
    obtain ⟨only, alone⟩ := List.length_eq_one_iff.mp h
    rw [alone, List.mem_singleton] at here
    exact ⟨escalated, by rw [alone, here]⟩
  · rw [List.length_eq_zero_iff.mp h] at here
    cases here

/-- A step between two states that are not ESCALATED, or both are, and that leaves the reviews alone. -/
theorem reviewed_same (inv : v.Reviewed) (reviews : v'.reviews = v.reviews)
    (same : v'.state = some .escalated ↔ v.state = some .escalated) : v'.Reviewed := by
  unfold CaseView.Reviewed CaseView.openReviews at *
  rw [reviews, inv]
  simp only [same]

theorem reviewed_moved {row row' : CaseRow} {s : CaseState} {states : List CaseState} (inv : v.Reviewed)
    (present : v.row = some row) (state : row.case.state ∈ states) (live : CaseState.escalated ∉ states)
    (moved : row.Moved s row') (other : s ≠ .escalated) (here : v'.row = some row') (reviews : v'.reviews = v.reviews) :
    v'.Reviewed := by
  refine reviewed_same inv reviews (iff_of_false ?_ ?_)
  · rw [CaseView.state_of here, moved.state, Option.some.injEq]
    exact other
  · rw [CaseView.state_of present, Option.some.injEq]
    intro escalated
    exact live (escalated ▸ state)

/-- A decision that authorizes nothing opens a review exactly when it escalates. -/
theorem reviewed_settled {row row' : CaseRow} {s : CaseState} {states : List CaseState} {reviews : List HumanReviewRequest}
    (inv : v.Reviewed) (present : v.row = some row) (state : row.case.state ∈ states) (live : CaseState.escalated ∉ states)
    (moved : row.Moved s row') (settles : Settles k s reviews) (here : v'.row = some row')
    (added : v'.reviews = v.reviews ++ reviews) : v'.Reviewed := by
  have unescalated : v.state ≠ some .escalated := by
    rw [CaseView.state_of present, ne_eq, Option.some.injEq]
    intro escalated
    exact live (escalated ▸ state)
  have none : v.openReviews = [] := by
    unfold CaseView.Reviewed at inv
    rw [if_neg unescalated] at inv
    exact List.length_eq_zero_iff.mp inv
  unfold CaseView.openReviews at none
  unfold CaseView.Reviewed CaseView.openReviews
  rw [CaseView.state_of here, moved.state, added, List.filter_append, none, List.nil_append]
  rcases settles with ⟨after, rfl⟩ | ⟨rfl, r, rfl, requested, -⟩
  · rw [if_neg]
    · rfl
    · intro escalated
      rw [Option.some.inj escalated] at after
      exact absurd after (by decide)
  · simp [requested]

/-- Deciding the open review closes it. -/
theorem reviewed_decided {row row' : CaseRow} {s : CaseState} {review decided : HumanReviewRequest} (inv : v.Reviewed)
    (after : s ∈ [CaseState.decisionPending, .stopped]) (moved : row.Moved s row') (open_ : review ∈ v.reviews)
    (requested : review.status = .requested) (closed : decided.status ≠ .requested) (here : v'.row = some row')
    (reviews : v'.reviews = Table.update HumanReviewRequest.id review.id (HumanReviewRequest.decide decided) v.reviews) :
    v'.Reviewed := by
  obtain ⟨-, only⟩ := reviewed_open inv open_ requested
  have none : v'.openReviews = [] := by
    refine List.filter_eq_nil_iff.mpr fun r member => ?_
    rw [reviews] at member
    rw [decide_eq_true_eq]
    obtain ⟨one, stored, ⟨same, rfl⟩ | ⟨other, rfl⟩⟩ := Table.mem_update.mp member
    · exact closed
    · intro asks
      have there : r ∈ v.openReviews := List.mem_filter.mpr ⟨stored, decide_eq_true asks⟩
      rw [only, List.mem_singleton] at there
      exact other (congrArg HumanReviewRequest.id there)
  unfold CaseView.Reviewed
  rw [none, CaseView.state_of here, moved.state, if_neg]
  · rfl
  · intro escalated
    rw [Option.some.inj escalated] at after
    exact absurd after (by decide)

theorem Change.keeps_reviewed (h : Change excluded db k v v') (deadline : excluded .deadlineEscalation)
    (reminder : excluded .unreviewedReminder) (mismatch : excluded .mismatchEscalated) (inv : v.Reviewed) : v'.Reviewed := by
  cases h with
  | idle | linked | leased | retried | late => exact inv
  | opened row absent key state =>
    refine reviewed_same inv rfl (iff_of_false ?_ ?_)
    · rw [CaseView.state, Option.map_some, state]
      decide
    · rw [CaseView.state, absent]
      exact fun none => by cases none
  | heard row' _ _ _ _ before stopped =>
    refine reviewed_same inv rfl (iff_of_false ?_ ?_)
    · rw [CaseView.state, Option.map_some, stopped]
      decide
    · intro escalated
      cases present : v.row with
      | none =>
        rw [CaseView.state, present] at escalated
        cases escalated
      | some row =>
        rw [CaseView.state_of present, Option.some.injEq] at escalated
        have state := (before row present).1
        rw [escalated] at state
        exact absurd state (by decide)
  | prepared _ _ _ present state after moved =>
    refine reviewed_moved inv present state (by decide) moved (fun escalated => ?_) rfl rfl
    rw [escalated] at after
    exact absurd after (by decide)
  | decided _ _ _ _ _ present state moved settles =>
    exact reviewed_settled inv present (List.mem_singleton.mpr state) (by decide) moved settles rfl rfl
  | unreviewed _ _ _ allowed => exact absurd reminder allowed
  | authorized _ _ _ _ _ _ present state moved =>
    exact reviewed_moved inv present (List.mem_singleton.mpr state) (by decide) moved (by decide) rfl rfl
  | reauthorized _ _ _ _ present state moved =>
    exact reviewed_moved inv present (List.mem_singleton.mpr state) (by decide) moved (by decide) rfl rfl
  | reviewed _ _ _ _ _ _ _ after moved open_ requested closed =>
    exact reviewed_decided inv after moved open_ requested closed rfl rfl
  | begun _ _ _ _ _ present state moved => exact reviewed_moved inv present state (by decide) moved (by decide) rfl rfl
  | blocked _ _ _ _ _ _ _ present state moved settles => exact reviewed_settled inv present state (by decide) moved settles rfl rfl
  | finished _ _ _ _ _ _ _ _ _ _ present state after moved =>
    refine reviewed_moved inv present state (by decide) moved (fun escalated => ?_) rfl rfl
    rw [escalated] at after
    exact absurd after (by decide)
  | lost row row' _ _ _ _ _ present moved =>
    refine reviewed_same inv rfl ?_
    rw [CaseView.state_of present, CaseView.state, Option.map_some, moved.state, Option.some.injEq, Option.some.injEq]
    split
    · rename_i executing
      rw [executing]
      exact iff_of_false (by decide) (by decide)
    · rfl
  | unresolved _ _ _ _ _ _ allowed => exact absurd deadline allowed
  | reconciled _ _ _ _ _ _ _ present state after moved =>
    refine reviewed_moved inv present state (by decide) moved (fun escalated => ?_) rfl rfl
    rw [escalated] at after
    exact absurd after (by decide)
  | credited _ _ _ _ _ present state moved => exact reviewed_moved inv present state (by decide) moved (by decide) rfl rfl
  | shadowed _ _ _ _ _ _ present state moved => exact reviewed_moved inv present state (by decide) moved (by decide) rfl rfl
  | mismatched row row' present state unescalated moved =>
    refine reviewed_same inv rfl (iff_of_false ?_ ?_)
    · rw [CaseView.state, Option.map_some, moved.state]
      decide
    · rw [CaseView.state_of present, Option.some.injEq]
      exact unescalated mismatch

/-- The merchant of a stored case exists and has published a policy. -/
def CasesGoverned (db : Database) : Prop := ∀ k row, (view k db).row = some row → Governed k.merchantId db

theorem Change.governed (h : Change excluded db k v v') (before : ∀ row, v.row = some row → Governed k.merchantId db) {row' : CaseRow}
    (there : v'.row = some row') : Governed k.merchantId db := by
  cases h with
  | idle | linked | leased | retried | late => exact before row' there
  | opened _ _ _ _ governed => exact governed
  | heard _ _ _ _ _ _ _ _ governed => exact governed
  | prepared row _ _ present => exact before row present
  | decided row _ _ _ _ present => exact before row present
  | unreviewed row _ _ _ present => exact before row present
  | authorized row _ _ _ _ _ present => exact before row present
  | reauthorized row _ _ _ present => exact before row present
  | reviewed row _ _ _ _ present => exact before row present
  | begun row _ _ _ _ present => exact before row present
  | blocked row _ _ _ _ _ _ present => exact before row present
  | finished row _ _ _ _ _ _ _ _ _ present => exact before row present
  | lost row _ _ _ _ _ _ present => exact before row present
  | unresolved row _ _ _ _ _ _ present => exact before row present
  | reconciled row _ _ _ _ _ _ present => exact before row present
  | credited row _ _ _ _ present => exact before row present
  | shadowed row _ _ _ _ _ present => exact before row present
  | mismatched row _ present => exact before row present

theorem casesGoverned_invariant (reach : Reachable rt db) : CasesGoverned db := by
  refine (reach.under.invariant CasesGoverned (fun k row none => by cases none)
    (fun {d e} _ step before k row there => ?_) fun {d e} _ changed before k row there => ?_).2
  · have governed := (step.change k).governed (fun row here => before k row here) there
    rw [Governed, step.kept.merchants, step.kept.policies]
    exact governed
  · rcases changed.row k with ⟨one, other, present, -, -⟩ | ⟨-, absent⟩
    · obtain ⟨merchant, r, stored, named⟩ := before k one present
      exact ⟨changed.merchants _ merchant, r, changed.policies _ stored, named⟩
    · rw [there] at absent
      cases absent

theorem reviewed_invariant (reach : ReachableUnder rt (Command.Avoids rt excluded) db) (deadline : excluded .deadlineEscalation)
    (reminder : excluded .unreviewedReminder) (mismatch : excluded .mismatchEscalated) (k : CaseKey) : (view k db).Reviewed := by
  have invariant := reach.invariant (fun db => ∀ k, (view k db).Reviewed) (fun _ => rfl)
    (fun _ step inv k => (step.change k).keeps_reviewed deadline reminder mismatch (inv k))
    (fun _ ambient inv k => by
      have reviews : (view k _).reviews = (view k _).reviews := congrArg (Table.select HumanReviewRequest.key k) ambient.reviews
      exact reviewed_same (inv k) reviews (by rw [ambient.state]))
  exact invariant.2 k

section leaving

theorem operator_named : "operator" ≠ "" := by decide

theorem rationale_given : "review has run out" ≠ "" := by decide

/-- What an operator answers when a review has run out. -/
def closing (review : HumanReviewRequest) (at_ : Instant) : HumanReviewDecision :=
  { reviewId := review.reviewId
    decision := .reject
    reviewerId := "operator"
    rationale := "review has run out"
    decidedAt := at_
    reviewer_ne := operator_named, rationale_ne := rationale_given }

/-- The review as its expiry leaves it. -/
def HumanReviewRequest.expired (review : HumanReviewRequest) (at_ : Instant) : HumanReviewRequest :=
  { review with status := .expired, reviewerId := some "SYSTEM", rationale := some "REVIEW_EXPIRED", decidedAt := some at_ }

theorem expireReview_run {review : HumanReviewRequest} {t : Instant} (requested : review.status = .requested)
    (due : review.expiresAt ≤ t) : expireReview review t = .ok (review.expired t) := by
  unfold expireReview
  rw [require_of requested, require_of due, require_of (by decide)]
  rfl

theorem updateReviewDecision_run {review decided : HumanReviewRequest} {m : Identifier} (stored : db.review m decided.reviewId = some review)
    (requested : review.status = .requested) (closed : decided.status ≠ .requested) :
    (updateReviewDecision m decided).run db = .ok ((), { db with
      reviews := Table.update HumanReviewRequest.id (m, decided.reviewId) (HumanReviewRequest.decide decided) db.reviews }) := by
  refine (Tx.bind_of_ok (Tx.check_of closed)).trans ((Tx.bind_of_ok (Tx.run_read _ _)).trans ?_)
  refine (Tx.bind_of_ok (Tx.check_of ?_)).trans rfl
  rw [stored]
  exact ⟨review, rfl, requested⟩

theorem lockMerchant_run {m : Identifier} (known : m ∈ db.merchants) : (lockMerchant m).run db = .ok ((), db) :=
  (Tx.bind_of_ok (Tx.run_read _ _)).trans (Tx.check_of (decide_eq_true known))

theorem requireCase_run {case : RecoveryCase} (here : db.caseOf k = some case) :
    (requireCase k).run db = .ok (case, db) := by
  refine (Tx.bind_of_ok (Tx.run_read _ _)).trans ?_
  rw [here]
  rfl

/-- An open review of an ESCALATED case can be decided at some time, and the case leaves ESCALATED. -/
theorem escalated_leaves (reach : Reachable rt db) (escalated : db.stateOf k = some .escalated) {review : HumanReviewRequest}
    (member : review ∈ (view k db).reviews) (requested : review.status = .requested) (inputs : EvaluationInputs) :
    ∃ t, (exec rt (.decideReview inputs k.merchantId (closing review t) t) db).stateOf k = some .stopped := by
  obtain ⟨row, here⟩ : ∃ row, (view k db).row = some row := by
    cases present : (view k db).row with
    | some row => exact ⟨row, rfl⟩
    | none =>
      rw [Database.stateOf, CaseView.state, present] at escalated
      cases escalated
  obtain ⟨stored, key⟩ := Table.mem_select.mp member
  have merchant : review.merchantId = k.merchantId := congrArg CaseKey.merchantId key
  obtain ⟨known, published, inForce, named⟩ := casesGoverned_invariant reach k row here
  obtain ⟨t, expired, later, effective⟩ : ∃ t : Instant, review.expiresAt ≤ t ∧ row.case.updatedAt ≤ t ∧ published.effectiveAt ≤ t :=
    ⟨max review.expiresAt (max row.case.updatedAt published.effectiveAt), le_max_left _ _,
      le_trans (le_max_left _ _) (le_max_right _ _), le_trans (le_max_right _ _) (le_max_right _ _)⟩
  obtain ⟨policy, force, -⟩ := inForce_of_published (policiesSound_invariant reach) ⟨published, inForce, named, effective⟩
  refine ⟨t, ?_⟩
  have found : db.review k.merchantId review.reviewId = some review := by
    rw [← merchant]
    exact Table.lookup_of_mem reach.under.keyed.reviews stored
  have case : db.caseOf k = some row.case := by
    rw [Database.caseOf, show db.caseRow k = some row from here]
    rfl
  have state : row.case.state = .escalated := by
    rw [Database.stateOf, CaseView.state_of here, Option.some.injEq] at escalated
    exact escalated
  have owner : row.case.key = k := row_key here
  let decided := review.expired t
  let after : Database := { db with
    reviews := Table.update HumanReviewRequest.id (k.merchantId, decided.reviewId) (HumanReviewRequest.decide decided) db.reviews }
  have update : (updateReviewDecision row.case.merchantId decided).run db = .ok ((), after) := by
    rw [show row.case.merchantId = k.merchantId from congrArg CaseKey.merchantId owner]
    exact updateReviewDecision_run found requested (fun same => by cases same)
  have current : Current row.case after := ⟨row, by rw [owner]; exact here, rfl, rfl⟩
  have edge : CaseState.stopped ∈ allowedTransitions row.case.state := by
    rw [state]
    decide
  let transition := reviewTransition .stopped "HUMAN_REVIEW_EXPIRED" (closing review t) policy t
  have terminal : blank (some "HUMAN_REVIEW_EXPIRED") = false ∧ "HUMAN_REVIEW_EXPIRED".length ≤ 128 := by decide
  have legal : transition.Legal row.case :=
    ⟨edge, later, fun _ => terminal.1, fun live => absurd (show CaseState.stopped.Terminal by decide) live, fun recovered => by
      cases recovered⟩
  have sized : transition.Sized := by
    refine ⟨fun x named => ?_, show "operator" ≠ "" ∧ "operator".length ≤ 128 by decide,
      show "HUMAN_REVIEW_EXPIRED" ≠ "" ∧ "HUMAN_REVIEW_EXPIRED".length ≤ 128 by decide, fun x none => ?_, fun x none => ?_⟩
    · cases named
      exact terminal.2.trans (by decide)
    · cases none
    · cases none
  obtain ⟨stopped, db', moved, moves⟩ := recoveryTransition_run current legal sized none none false
  have routed : (routeReview k.merchantId (closing review t) t).run db = .ok (.done
      { caseId := some stopped.caseId, caseState := some stopped.state, disposition := none
        reasonCode := "HUMAN_REVIEW_EXPIRED", reviewId := some decided.reviewId }, db') := by
    unfold routeReview
    refine (Tx.bind_of_ok (Tx.check_of (le_refl t))).trans ((Tx.bind_of_ok (lockMerchant_run known)).trans ?_)
    refine (Tx.bind_of_ok (Tx.run_read _ _)).trans ?_
    rw [show db.review k.merchantId (closing review t).reviewId = some review from found]
    refine (Tx.bind_of_ok (Tx.run_found_some _ _ _)).trans ?_
    rw [show (⟨k.merchantId, review.caseId⟩ : CaseKey) = k from by rw [← key]; rfl]
    refine (Tx.bind_of_ok (requireCase_run case)).trans ((Tx.bind_of_ok force).trans ?_)
    rw [if_pos expired]
    refine (Tx.bind_of_ok (by rw [expireReview_run requested expired]; rfl)).trans ?_
    exact (Tx.bind_of_ok update).trans ((Tx.bind_of_ok moved).trans rfl)
  have committed : exec rt (.decideReview inputs k.merchantId (closing review t) t) db = db' :=
    Tx.commit_of_ok ((Tx.bind_of_ok routed).trans rfl)
  obtain ⟨last, there, ended, -⟩ := moves.current
  rw [moves.key, owner] at there
  rw [committed, Database.stateOf, CaseView.state_of (show (view k db').row = some last from there), ended, moves.state]
  rfl

end leaving

/-- An ESCALATED case waits for one open review that can still take it out of ESCALATED; other cases have none open. -/
structure AwaitsHuman (rt : Runtime) (k : CaseKey) (db : Database) : Prop where
  escalated : db.stateOf k = some .escalated ↔ (view k db).openReviews.length = 1
  others : db.stateOf k ≠ some .escalated → (view k db).openReviews = []
  leaves : db.stateOf k = some .escalated → ∀ inputs, ∃ review ∈ (view k db).openReviews, ∃ t,
    (exec rt (.decideReview inputs k.merchantId (closing review t) t) db).stateOf k = some .stopped

/-- Runs without an escalation that asks nobody and without a stop that skips the review. -/
def SkipsReview (kind : Kind) : Prop := kind = .deadlineEscalation ∨ kind = .unreviewedReminder ∨ kind = .mismatchEscalated

instance : DecidablePred SkipsReview := fun _ => inferInstanceAs (Decidable (_ ∨ _ ∨ _))

section runs

end runs

end RevenueGuard
