import RevenueGuard.Domain.Policy

/-
Human reviews and the action-bound approval they give. A fingerprint is the
digest of the action it approves and is kept as that action.
-/
namespace RevenueGuard

inductive ReviewStatus where
  | requested | approved | rejected | expired
deriving DecidableEq, Repr

inductive ReviewDecisionType where
  | approve | reject
deriving DecidableEq, Repr

structure ActionFingerprint where
  caseId : Identifier
  actionType : ActionType
  target : Identifier
  amountMinor : Nat
  currency : Currency
  logicalAttempt : Nat
  policyDigest : PolicyDigest
deriving DecidableEq

/-- The recovery action's logical identity: its idempotency key and its id are digests of it. -/
structure ActionIdentity where
  merchantId : Identifier
  caseId : Identifier
  actionType : ActionType
  targetType : SubjectType
  targetId : Identifier
  logicalAttempt : Nat
  attempt_pos : 1 ≤ logicalAttempt
deriving Repr

def ActionIdentity.parts (a : ActionIdentity) : Identifier × Identifier × ActionType × SubjectType × Identifier × Nat :=
  (a.merchantId, a.caseId, a.actionType, a.targetType, a.targetId, a.logicalAttempt)

theorem ActionIdentity.parts_inj {a b : ActionIdentity} : a.parts = b.parts ↔ a = b := by
  cases a
  cases b
  simp [ActionIdentity.parts]

instance : DecidableEq ActionIdentity := fun a b => decidable_of_iff (a.parts = b.parts) ActionIdentity.parts_inj

/-- Drawn by the id generator, or derived from the action a pre-execution check sends to review. -/
inductive ReviewId where
  | generated (id : Identifier)
  | preExecution (action : ActionIdentity) (policyVersion : Identifier) (fingerprint : ActionFingerprint)
deriving DecidableEq

structure HumanReviewRequest where
  reviewId : ReviewId
  merchantId : Identifier
  caseId : Identifier
  actionFingerprint : ActionFingerprint
  proposedActionType : ActionType
  policyVersion : Identifier
  policyDigest : PolicyDigest
  reasonCode : String
  riskDetail : String
  requestedAt : Instant
  expiresAt : Instant
  status : ReviewStatus := .requested
  reviewerId : Option String := none
  rationale : Option String := none
  decidedAt : Option Instant := none
deriving DecidableEq

def HumanReviewRequest.isMatchingApproval (r : HumanReviewRequest) (fingerprint : ActionFingerprint)
    (policyDigest : PolicyDigest) (evaluatedAt : Instant) : Bool :=
  r.status == .approved && decide (evaluatedAt < r.expiresAt) && r.actionFingerprint == fingerprint
    && r.policyDigest == policyDigest

structure HumanReviewDecision where
  reviewId : ReviewId
  decision : ReviewDecisionType
  reviewerId : String
  rationale : String
  decidedAt : Instant
  reviewer_ne : reviewerId ≠ ""
  rationale_ne : rationale ≠ ""

def ReviewDecisionType.status : ReviewDecisionType → ReviewStatus
  | .approve => .approved
  | .reject => .rejected

def decideReview (request : HumanReviewRequest) (decision : HumanReviewDecision) :
    Except Failure HumanReviewRequest := do
  require (request.status = .requested) (.value "only a requested review can be decided")
  require (request.reviewId = decision.reviewId) (.value "review decision targets a different request")
  require (decision.decidedAt < request.expiresAt) (.value "expired review cannot be approved or rejected")
  require (request.requestedAt ≤ decision.decidedAt) (.value "review decision cannot precede its request")
  pure { request with
    status := decision.decision.status
    reviewerId := some decision.reviewerId
    rationale := some decision.rationale
    decidedAt := some decision.decidedAt }

def expireReview (request : HumanReviewRequest) (expiredAt : Instant) (actor : String := "SYSTEM") :
    Except Failure HumanReviewRequest := do
  require (request.status = .requested) (.value "only a requested review can expire")
  require (request.expiresAt ≤ expiredAt) (.value "review has not reached its expiry")
  require (actor ≠ "") (.value "actor is required")
  pure { request with
    status := .expired
    reviewerId := some actor
    rationale := some "REVIEW_EXPIRED"
    decidedAt := some expiredAt }

end RevenueGuard
