import RevenueGuard.Protocol.Ledger
import RevenueGuard.Safety.ReadyCases
import RevenueGuard.Safety.Selection

/-
From a decision that asks for a human to the re-evaluation its approval leads to.
The approval answers the question unless the candidate is an escalation, which
asks again without looking at it.
-/
namespace RevenueGuard

variable {rt : Runtime} {zone : Zone} {policy : MerchantPolicySnapshot} {e : PolicyEvaluationInput} {c : CandidateAction}
  {r : EvaluationRequest} {db db' : Database} {k : CaseKey}

/-- The same action, as its fingerprint tells actions of a case apart. -/
structure SameAction (c c' : CandidateAction) : Prop where
  actionType : c'.actionType = c.actionType
  target : c'.target = c.target
  logicalAttempt : c'.logicalAttempt = c.logicalAttempt

instance (c c' : CandidateAction) : Decidable (SameAction c c') :=
  decidable_of_iff (c'.actionType = c.actionType ∧ c'.target = c.target ∧ c'.logicalAttempt = c.logicalAttempt)
    ⟨fun ⟨t, o, n⟩ => ⟨t, o, n⟩, fun h => ⟨h.actionType, h.target, h.logicalAttempt⟩⟩

theorem Ruled.asks_iff {v : PolicyResult × PolicyReason × Option Instant} (h : Ruled zone policy e c v)
    (approved : approvalMatches policy e c = true) : v.1 = .requireHuman ↔ c.actionType = .escalateHuman := by
  cases h with
  | escalated rule => simp [rule]
  | unreviewed _ _ _ unapproved =>
    rw [approved] at unapproved
    cases unapproved
  | refused rule => simp [refused_notEscalation rule]
  | waiting past | unsettled past => simp [past.notEscalation]
  | promised past | affected past | unsure past | delayed past => simp [past.notEscalation]
  | night past => simp [past.notEscalation]
  | worthless past | authorized past => simp [past.notEscalation]

/-- An approved candidate that decides asks for a human only as an escalation. -/
theorem evaluatePolicy_asks_iff {d : PolicyDecision} (h : evaluatePolicy zone policy e = .ok d)
    (approved : approvalMatches policy e d.selectedAction = true) :
    d.result = .requireHuman ↔ d.selectedAction.actionType = .escalateHuman := by
  have decided := h
  unfold evaluatePolicy at h
  split at h
  · cases h
  rename_i effective
  split at h
  · cases h
    simp [stopDecision, stopCandidate]
  rename_i currencies
  split at h
  · cases h
    simp [stopDecision, stopCandidate]
  rename_i open_
  obtain ⟨d', passed, rest, decided', selects⟩ :=
    evaluatePolicy_selects (not_lt.mp effective) (not_not.mp currencies) open_
  obtain rfl : d = d' := Except.ok.inj (decided.symm.trans decided')
  rw [selects.result]
  unfold verdictOn
  split
  · rename_i idle
    simp [idle]
  · exact (evaluateCandidate_ruled zone policy e _).asks_iff approved

theorem fingerprint_same {case case' : RecoveryCase} {c c' : CandidateAction} (anchor : case'.anchor = case.anchor)
    (same : SameAction c c') : fingerprintOf policy case'.caseId case'.revenueAtRiskMinor case'.currency c' =
      fingerprintOf policy case.caseId case.revenueAtRiskMinor case.currency c := by
  simp only [RecoveryCase.anchor, CaseAnchor.mk.injEq] at anchor
  simp [fingerprintOf, anchor, same.actionType, same.target, same.logicalAttempt]

theorem decideReview_approved {request decided : HumanReviewRequest} {decision : HumanReviewDecision}
    (h : decideReview request decision = .ok decided) (approves : decision.decision = .approve) :
    decided.status = .approved ∧ decided.expiresAt = request.expiresAt
      ∧ decided.actionFingerprint = request.actionFingerprint ∧ decided.policyDigest = request.policyDigest := by
  unfold decideReview at h
  obtain ⟨_, -, h⟩ := except_bind_ok h
  obtain ⟨_, -, h⟩ := except_bind_ok h
  obtain ⟨_, -, h⟩ := except_bind_ok h
  obtain ⟨_, -, h⟩ := except_bind_ok h
  cases h
  simp [approves, ReviewDecisionType.status]

/-- What an approval hands to the re-evaluation. -/
structure Resumed (m : Identifier) (decision : HumanReviewDecision) (t : Instant) (db : Database) (r : EvaluationRequest)
    (request decided : HumanReviewRequest) (row : CaseRow) : Prop where
  stored : db.review m decision.reviewId = some request
  settled : decideReview request decision = .ok decided
  approves : decision.decision = .approve
  unexpired : t < request.expiresAt
  case : db.caseRow ⟨m, request.caseId⟩ = some row
  anchor : r.case.anchor = row.case.anchor
  approval : r.approval = some decided
  instant : r.evaluatedAt = t

theorem routeReview_resumed {m : Identifier} {decision : HumanReviewDecision} {t : Instant}
    (h : (routeReview m decision t).run db = .ok (.evaluate r, db')) :
    ∃ request decided row, Resumed m decision t db r request decided row := by
  obtain ⟨_, _, checked, h⟩ := Tx.bind_ok h
  obtain ⟨-, rfl⟩ := Tx.check_ok checked
  obtain ⟨_, _, locked, h⟩ := Tx.bind_ok h
  obtain ⟨-, rfl⟩ := lockMerchant_effect locked
  obtain ⟨_, _, read, h⟩ := Tx.bind_ok h
  obtain ⟨rfl, rfl⟩ := Tx.read_ok read
  obtain ⟨request, _, found, h⟩ := Tx.bind_ok h
  obtain ⟨stored, rfl⟩ := Tx.found_ok found
  obtain ⟨case, _, required, h⟩ := Tx.bind_ok h
  obtain ⟨here, rfl⟩ := requireCase_effect required
  obtain ⟨row, present, rfl, key⟩ := caseOf_row here
  obtain ⟨policy, _, effective, h⟩ := Tx.bind_ok h
  obtain ⟨-, rfl⟩ := inForce_ok effective
  have unrouted {decided : HumanReviewRequest} {reason : String} :
      (stopReviewed row.case reason decision policy t decided).run db ≠ .ok (.evaluate r, db') := by
    intro stop
    obtain ⟨_, _, -, stop⟩ := Tx.bind_ok stop
    obtain ⟨_, _, -, stop⟩ := Tx.bind_ok stop
    cases (Tx.pure_ok stop).1
  split at h
  · obtain ⟨decided, _, lifted, h⟩ := Tx.bind_ok h
    obtain ⟨-, rfl⟩ := Tx.lift_ok lifted
    exact absurd h unrouted
  · rename_i unexpired
    obtain ⟨decided, _, lifted, h⟩ := Tx.bind_ok h
    obtain ⟨settled, rfl⟩ := Tx.lift_ok lifted
    split at h
    · exact absurd h unrouted
    · rename_i approves
      obtain ⟨_, _, -, h⟩ := Tx.bind_ok h
      obtain ⟨_, _, -, h⟩ := Tx.bind_ok h
      obtain ⟨_, _, -, h⟩ := Tx.bind_ok h
      obtain ⟨_, _, -, h⟩ := Tx.bind_ok h
      obtain ⟨_, _, -, h⟩ := Tx.bind_ok h
      obtain ⟨pending, _, transition, h⟩ := Tx.bind_ok h
      obtain ⟨same, -⟩ := Tx.pure_ok h
      cases same
      exact ⟨request, decided, row, stored, settled, approves, not_le.mp unexpired, present,
        (recoveryTransition_effect transition).anchor, rfl, rfl⟩

/-- The requests the service evaluates, each in the state it is handed over in. -/
inductive Requested (r : EvaluationRequest) (db' : Database) : Prop
  | event {db : Database} {m eventId caseId : Identifier} {t : Instant}
      (h : (routeEvent m eventId caseId t).run db = .ok (.evaluate r, db'))
  | deferred {db : Database} {row : CaseRow} {t : Instant} (h : (wakeDeferred t row).run db = .ok (r, db'))
  | review {db : Database} {m : Identifier} {decision : HumanReviewDecision} {t : Instant}
      (h : (routeReview m decision t).run db = .ok (.evaluate r, db'))

def anyWriter (t : Instant) : Writer := ⟨t, True, fun _ _ => True, fun _ => True⟩

theorem Requested.current (h : Requested r db) : ∃ t, r.Current (anyWriter t) db := by
  cases h with
  | @event _ _ _ _ t h =>
    exact ⟨t, (routeEvent_routed (w := anyWriter t) rfl (fun _ _ => trivial) (fun _ _ _ => trivial) h).2⟩
  | @deferred start row t h =>
    exact ⟨t, (wakeDeferred_current (w := anyWriter t) (d := { start with cases := [row] }) rfl
      (List.mem_singleton_self _) (show start.events = start.events from rfl) (fun _ _ _ => trivial) h).2⟩
  | @review _ _ _ t h =>
    exact ⟨t, (routeReview_routed (w := anyWriter t) rfl (fun _ _ _ => trivial) h).2⟩

/-- What may happen after an evaluation: the rest of its batch, and any commands. -/
inductive Since (rt : Runtime) (db : Database) : Database → Prop
  | now : Since rt db db
  | row {d d' : Database} {inputs : CaseKey → EvaluationInputs} {t : Instant} {row : CaseRow}
      {res : RecoveryServiceResult} (before : Since rt db d) (h : (reevaluateRow rt inputs t row).run d = .ok (res, d')) :
      Since rt db d'
  | command {d : Database} (before : Since rt db d) (c : Command) : Since rt db (exec rt c d)

theorem Since.standing (h : Since rt db db') : Standing db db' := by
  induction h with
  | now => exact .refl _
  | @row d d' inputs t row res before h ih =>
    obtain ⟨request, d1, wake, evaluate⟩ := Tx.bind_ok h
    obtain ⟨writes, current⟩ := wakeDeferred_current (w := anyWriter t) (d := { d with cases := [row] }) rfl
      (List.mem_singleton_self _) (show d.events = d.events from rfl) (fun _ _ _ => trivial) wake
    exact ih.trans (writes.trans (evaluateCase_writes current evaluate)).standing
  | command before c ih => exact ih.trans (exec_standing rt c _)

/-- An evaluation that asked for a human, its review approved, and the evaluation the approval led to. -/
structure ReviewCycle (rt : Runtime) where
  inputs : EvaluationInputs
  asking : EvaluationRequest
  asked : Assessment
  result : RecoveryServiceResult
  merchantId : Identifier
  decision : HumanReviewDecision
  decidedAt : Instant
  inputs' : EvaluationInputs
  reasking : EvaluationRequest
  reasked : Assessment
  start : Database
  assessed : Database
  stored : Database
  later : Database
  resumed : Database
  final : Database
  requested : Requested asking start
  assesses : (assessCase rt inputs asking).run start = .ok (asked, assessed)
  human : asked.decision.result = .requireHuman
  decides : (decideCase rt inputs asking asked).run assessed = .ok (result, stored)
  since : Since rt stored later
  review : later.review merchantId decision.reviewId =
    some (buildReview rt inputs.reviewId asked.checking asking.policy asked.decision asking.evaluatedAt)
  approved : (routeReview merchantId decision decidedAt).run later = .ok (.evaluate reasking, resumed)
  unchanged : reasking.policy = asking.policy
  reassesses : (assessCase rt inputs' reasking).run resumed = .ok (reasked, final)

theorem ReviewCycle.sameCase (cycle : ReviewCycle rt) :
    cycle.asked.checking.anchor = cycle.asking.case.anchor ∧ cycle.reasking.case.anchor = cycle.asking.case.anchor := by
  obtain ⟨t, current⟩ := cycle.requested.current
  have evaluated : (evaluateCase rt cycle.inputs cycle.asking).run cycle.start = .ok (cycle.result, cycle.stored) :=
    (Tx.bind_of_ok cycle.assesses).trans cycle.decides
  have standing := (evaluateCase_writes current evaluated).standing.trans cycle.since.standing
  obtain ⟨row, present, ledger⟩ := current.snap
  have anchor : row.case.anchor = cycle.asking.case.anchor := congrArg CaseLedger.anchor ledger
  obtain ⟨row', there, kept⟩ := standing _ _ present
  have checking : cycle.asked.checking.anchor = cycle.asking.case.anchor := by
    cases assessCase_ok cycle.assesses with
    | ran checking d contact candidates consent unknownEquivalent moved facts noted listed types decided =>
      obtain ⟨incident, noted⟩ := noted
      rw [noted]
      exact (recoveryTransition_effect moved).anchor
  refine ⟨checking, ?_⟩
  obtain ⟨request, decided, row'', resumes⟩ := routeReview_resumed cycle.approved
  have stored := resumes.stored
  have merchant := congrArg Prod.fst (Table.lookup_key (cycle.review))
  rw [cycle.review] at stored
  cases stored
  have key : (⟨cycle.merchantId, cycle.asked.checking.caseId⟩ : CaseKey) = cycle.asking.case.key :=
    (congrArg (fun m => CaseKey.mk m cycle.asked.checking.caseId) merchant.symm).trans (key_of_anchor checking)
  have same : row'' = row' := by
    have here : cycle.later.caseRow ⟨cycle.merchantId, cycle.asked.checking.caseId⟩ = some row'' := resumes.case
    rw [key, there] at here
    exact (Option.some.inj here).symm
  rw [resumes.anchor, same, kept.anchor, anchor]

theorem approval_answers_iff (cycle : ReviewCycle rt)
    (same : SameAction cycle.asked.decision.selectedAction cycle.reasked.decision.selectedAction) :
    cycle.reasked.decision.result ≠ .requireHuman ↔
      cycle.asked.decision.selectedAction.actionType ≠ .escalateHuman := by
  obtain ⟨checking, anchor⟩ := cycle.sameCase
  obtain ⟨request, decided, row, resumes⟩ := routeReview_resumed cycle.approved
  have stored := resumes.stored
  rw [cycle.review] at stored
  cases stored
  obtain ⟨status, expires, fingerprint, digest⟩ := decideReview_approved resumes.settled resumes.approves
  cases assessCase_ok cycle.reassesses with
  | ran checked d contact candidates consent unknownEquivalent moved facts noted listed types decided' =>
    have asks := evaluatePolicy_asks_iff decided' ?_
    · rw [← same.actionType, ne_eq, ne_eq, asks]
    · rw [approvalMatches_iff]
      refine ⟨decided, resumes.approval, status, ?_, ?_, ?_⟩
      · show cycle.reasking.evaluatedAt < _
        rw [expires, resumes.instant]
        exact resumes.unexpired
      · rw [fingerprint, cycle.unchanged]
        exact (fingerprint_same (anchor.trans checking.symm) same).symm
      · rw [digest, cycle.unchanged]
        rfl

section runs

/-- The cycle an event starts whose review is decided next, if it gets that far. -/
def reviewCycle (rt : Runtime) (inputs inputs' : EvaluationInputs) (db : Database) (m eventId caseId : Identifier)
    (t : Instant) (decision : HumanReviewDecision) (decidedAt : Instant) : Option (ReviewCycle rt) :=
  match requested : (routeEvent m eventId caseId t).run db with
  | .ok (.evaluate asking, start) =>
    match assesses : (assessCase rt inputs asking).run start with
    | .ok (asked, assessed) =>
      match decides : (decideCase rt inputs asking asked).run assessed with
      | .ok (result, stored) =>
        match approved : (routeReview m decision decidedAt).run stored with
        | .ok (.evaluate reasking, resumed) =>
          match reassesses : (assessCase rt inputs' reasking).run resumed with
          | .ok (reasked, final) =>
            if agree : asked.decision.result = .requireHuman ∧ reasking.policy = asking.policy ∧
                stored.review m decision.reviewId =
                  some (buildReview rt inputs.reviewId asked.checking asking.policy asked.decision asking.evaluatedAt) then
              some ⟨inputs, asking, asked, result, m, decision, decidedAt, inputs', reasking, reasked, start, assessed,
                stored, stored, resumed, final, .event requested, assesses, agree.1, decides, .now, agree.2.2, approved,
                agree.2.1, reassesses⟩
            else none
          | .error _ => none
        | _ => none
      | .error _ => none
    | .error _ => none
  | _ => none

def told (policy : MerchantPolicySnapshot) (event : NormalizedEvent) : Database :=
  execAll {} ([.registerMerchant acme, .publishPolicy acme policy] ++ ingested event) {}

def approval : HumanReviewDecision :=
  { reviewId := .generated (ident "asked-1"), decision := .approve, reviewerId := "operator-1", rationale := "agreed"
    decidedAt := 20, reviewer_ne := by decide, rationale_ne := by decide }

/-- The event is decided with a review, the review approved ten microseconds later. -/
def approvedAt20 (policy : MerchantPolicySnapshot) (event : NormalizedEvent) : Option (ReviewCycle {}) :=
  reviewCycle {} (drawn "asked-1") (drawn "asked-2") (told policy event) acme event.eventId (ident "case-1") 10 approval 20

def reviewEveryLink : MerchantPolicySnapshot := { linksOnly with humanReviewAmountMinor := 1000 }

/-- A failure nobody can name, which leaves nothing but escalation where only links are allowed. -/
def unnamedFailure : NormalizedEvent :=
  { expiredCard (ident "event-1") (ident "pay-1") 5 with normalizedFailureCategory := .unknown }

set_option maxRecDepth 100000 in
theorem approval_answers_link : ∃ cycle : ReviewCycle {}, cycle.reasked.decision.result ≠ .requireHuman ∧
    cycle.reasked.decision.selectedAction.actionType = .createPaymentLink := by
  have ran : (approvedAt20 reviewEveryLink (expiredCard (ident "event-1") (ident "pay-1") 5)).any (fun cycle =>
      decide (SameAction cycle.asked.decision.selectedAction cycle.reasked.decision.selectedAction) &&
      decide (cycle.reasked.decision.selectedAction.actionType = .createPaymentLink) &&
      decide (cycle.asked.decision.selectedAction.actionType ≠ .escalateHuman)) = true := by decide +kernel
  obtain ⟨cycle, -, agreed⟩ := (Option.any_eq_true _ _).mp ran
  simp only [Bool.and_eq_true, decide_eq_true_eq] at agreed
  obtain ⟨⟨same, link⟩, ordinary⟩ := agreed
  exact ⟨cycle, (approval_answers_iff cycle same).mpr ordinary, link⟩

set_option maxRecDepth 100000 in
theorem approved_escalation_asks_again : ¬ ∀ (rt : Runtime) (cycle : ReviewCycle rt),
    SameAction cycle.asked.decision.selectedAction cycle.reasked.decision.selectedAction →
      cycle.reasked.decision.result ≠ .requireHuman := by
  intro answered
  have ran : (approvedAt20 linksOnly unnamedFailure).any (fun cycle =>
      decide (SameAction cycle.asked.decision.selectedAction cycle.reasked.decision.selectedAction) &&
      decide (cycle.reasked.decision.result = .requireHuman)) = true := by decide +kernel
  obtain ⟨cycle, -, agreed⟩ := (Option.any_eq_true _ _).mp ran
  simp only [Bool.and_eq_true, decide_eq_true_eq] at agreed
  exact answered _ cycle agreed.1 agreed.2

end runs

end RevenueGuard
