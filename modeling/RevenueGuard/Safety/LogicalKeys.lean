import RevenueGuard.Domain.Keys
import RevenueGuard.Store.Actions
import RevenueGuard.Protocol.Effects

/-
The outbox finds an action by its key and a review holds the digest of what it
approves. Both tell logical identities apart, so that rows may be kept by identity.
-/
namespace RevenueGuard

section outbox

variable {action : RecoveryAction} {db db' : Database}

/-- `ActionRepository.store_action` with its lookup by the stored key, a unique column. -/
def storeActionByKey (action : RecoveryAction) (policyVersion : Identifier) (maxAttempts : Nat)
    (reconciliationDeadline : Instant) : Transaction ActionRow := do
  Tx.check (1 ≤ maxAttempts) (.value "max_attempts must be positive")
  Tx.check (action.authorizedAt < reconciliationDeadline)
    (.value "reconciliation deadline must follow authorization")
  let existing ← Tx.read fun db =>
    db.actions.find? fun r => decide (actionIdempotencyKey r.id = actionIdempotencyKey action.identity)
  match existing with
  | some row => do
    Tx.check (row.merchantId = action.identity.merchantId ∧ actionIdOf row.id = actionIdOf action.identity)
      (.actionPersistence "IDEMPOTENCY_KEY_CONFLICT" "idempotency key already identifies another logical action")
    pure row
  | none => do
    let row := ActionRow.ofAction action policyVersion maxAttempts reconciliationDeadline
    Tx.write fun db => { db with actions := db.actions ++ [row] }
    pure row

/-- No stored action's key collides with that of the action. -/
def KeysApart (action : RecoveryAction) (db : Database) : Prop :=
  ∀ r ∈ db.actions, CollisionFree r.id.document action.identity.document

theorem find_by_key (apart : KeysApart action db) :
    (db.actions.find? fun r => decide (actionIdempotencyKey r.id = actionIdempotencyKey action.identity)) =
      db.action action.idempotencyKey := by
  unfold Database.action Table.lookup
  rw [← List.head?_filter, ← List.head?_filter]
  refine congrArg List.head? (List.filter_congr fun r stored => ?_)
  refine decide_eq_decide.mpr ⟨actionIdempotencyKey_inj (apart r stored), fun same => ?_⟩
  rw [show r.id = action.identity from same]

/-- A row found by identity passes the check on its merchant and id. -/
theorem found_by_identity {row : ActionRow} (found : db.action action.idempotencyKey = some row) :
    row.id = action.identity := Table.lookup_key found

/-- The lookup by key is the lookup by identity. -/
theorem storeActionByKey_run (apart : KeysApart action db) (policyVersion : Identifier) (maxAttempts : Nat)
    (reconciliationDeadline : Instant) :
    (storeActionByKey action policyVersion maxAttempts reconciliationDeadline).run db =
      (storeAction action policyVersion maxAttempts reconciliationDeadline).run db := by
  unfold storeActionByKey storeAction
  by_cases positive : 1 ≤ maxAttempts
  · by_cases later : action.authorizedAt < reconciliationDeadline
    · rw [Tx.bind_of_ok (Tx.check_of positive), Tx.bind_of_ok (Tx.check_of positive), Tx.bind_of_ok (Tx.check_of later),
        Tx.bind_of_ok (Tx.check_of later), Tx.bind_of_ok (Tx.run_read _ _), Tx.bind_of_ok (Tx.run_read _ _), find_by_key apart]
      cases found : db.action action.idempotencyKey with
      | none => rfl
      | some row =>
        have identity := found_by_identity found
        have own : row.merchantId = action.identity.merchantId ∧ actionIdOf row.id = actionIdOf action.identity := by
          rw [identity]
          exact ⟨congrArg ActionIdentity.merchantId identity, rfl⟩
        exact Tx.bind_of_ok (Tx.check_of own)
    · rw [Tx.bind_of_ok (Tx.check_of positive), Tx.bind_of_ok (Tx.check_of positive), Tx.bind_of_error (Tx.check_fails later),
        Tx.bind_of_error (Tx.check_fails later)]
  · rw [Tx.bind_of_error (Tx.check_fails positive), Tx.bind_of_error (Tx.check_fails positive)]

theorem storeAction_identity {policyVersion : Identifier} {maxAttempts : Nat} {reconciliationDeadline : Instant}
    {row : ActionRow} (h : (storeAction action policyVersion maxAttempts reconciliationDeadline).run db = .ok (row, db')) :
    row.id = action.identity := by
  obtain ⟨_, _, checked, h⟩ := Tx.bind_ok h
  obtain ⟨-, rfl⟩ := Tx.check_ok checked
  obtain ⟨_, _, checked, h⟩ := Tx.bind_ok h
  obtain ⟨-, rfl⟩ := Tx.check_ok checked
  obtain ⟨existing, _, read, h⟩ := Tx.bind_ok h
  obtain ⟨found, rfl⟩ := Tx.read_ok read
  cases existing with
  | some stored =>
    obtain ⟨rfl, -⟩ := Tx.pure_ok h
    exact found_by_identity found.symm
  | none =>
    obtain ⟨_, _, -, h⟩ := Tx.bind_ok h
    obtain ⟨rfl, -⟩ := Tx.pure_ok h
    rfl

end outbox

section approvals

/-- What `is_matching_approval` reads of a stored review. -/
structure ApprovalRecord where
  status : ReviewStatus
  expiresAt : Instant
  actionFingerprint : String
  policyDigest : String

def ApprovalRecord.isMatchingApproval (r : ApprovalRecord) (fingerprint policyDigest : String) (evaluatedAt : Instant) : Bool :=
  r.status == .approved && decide (evaluatedAt < r.expiresAt) && r.actionFingerprint == fingerprint
    && r.policyDigest == policyDigest

variable {f g : ActionFingerprintInput} {r : ApprovalRecord} {evaluatedAt : Instant}

/-- An approval of one action that matches another action approves that action. -/
theorem matching_approval (free : CollisionFree f.document g.document) (requested : r.actionFingerprint = f.digest)
    (matching : r.isMatchingApproval g.digest g.policyDigest evaluatedAt = true) : f = g := by
  simp only [ApprovalRecord.isMatchingApproval, Bool.and_eq_true, beq_iff_eq] at matching
  exact digest_inj free (requested.symm.trans matching.1.2)

/-- A fingerprint's input, with the text of its policy's digest. -/
def ActionFingerprint.input (p : ActionFingerprint) : ActionFingerprintInput :=
  { caseId := p.caseId.val, actionType := p.actionType.value, target := p.target.val, amountMinor := p.amountMinor
    currency := p.currency.val, logicalAttempt := p.logicalAttempt, policyDigest := p.policyDigest.sha256 }

/-- A review as it is stored. -/
def HumanReviewRequest.record (review : HumanReviewRequest) : ApprovalRecord :=
  { status := review.status, expiresAt := review.expiresAt
    actionFingerprint := review.actionFingerprint.input.digest, policyDigest := review.policyDigest.sha256 }

theorem input_inj {p q : ActionFingerprint} (apart : PoliciesApart p.policyDigest q.policyDigest)
    (same : p.input = q.input) : p = q := by
  simp only [ActionFingerprint.input, ActionFingerprintInput.mk.injEq, Int.natCast_inj] at same
  obtain ⟨caseId, actionType, target, amount, currency, attempt, policy⟩ := same
  cases p
  cases q
  obtain rfl := ActionType.value_inj actionType
  obtain rfl := Subtype.ext caseId
  obtain rfl := Subtype.ext target
  obtain rfl := Subtype.ext currency
  obtain rfl := (sha256_inj apart).mp policy
  obtain rfl := amount
  obtain rfl := attempt
  rfl

/-- Matching by digests is matching by what they are digests of. -/
theorem record_matches {review : HumanReviewRequest} {p : ActionFingerprint} {digest : PolicyDigest}
    (free : CollisionFree review.actionFingerprint.input.document p.input.document)
    (prints : PoliciesApart review.actionFingerprint.policyDigest p.policyDigest)
    (policies : PoliciesApart review.policyDigest digest) :
    review.record.isMatchingApproval p.input.digest digest.sha256 evaluatedAt =
      review.isMatchingApproval p digest evaluatedAt := by
  have fingerprints : review.actionFingerprint.input.digest = p.input.digest ↔ review.actionFingerprint = p :=
    ⟨fun same => input_inj prints (digest_inj free same), fun same => by rw [same]⟩
  simp only [ApprovalRecord.isMatchingApproval, HumanReviewRequest.isMatchingApproval, HumanReviewRequest.record]
  congr 1
  · congr 1
    exact Bool.eq_iff_iff.mpr (by simpa using fingerprints)
  · exact Bool.eq_iff_iff.mpr (by simpa using sha256_inj policies)

end approvals

/-- Keys and fingerprints tell logical identities apart, so do the outbox and the approvals that compare them. -/
theorem logical_identities_apart :
    (∀ a b : ActionIdentity, CollisionFree a.document b.document →
      actionIdempotencyKey a = actionIdempotencyKey b → a = b) ∧
    (∀ f g : ActionFingerprintInput, CollisionFree f.document g.document → f.digest = g.digest → f = g) ∧
    (∀ (action : RecoveryAction) (policyVersion : Identifier) (maxAttempts : Nat) (deadline : Instant) (db : Database),
      KeysApart action db → ∀ row db', (storeActionByKey action policyVersion maxAttempts deadline).run db = .ok (row, db') →
        row.id = action.identity) ∧
    (∀ (review : ApprovalRecord) (f g : ActionFingerprintInput) (evaluatedAt : Instant), CollisionFree f.document g.document →
      review.actionFingerprint = f.digest → review.isMatchingApproval g.digest g.policyDigest evaluatedAt = true → f = g) := by
  refine ⟨fun _ _ => actionIdempotencyKey_inj, fun _ _ => digest_inj, ?_, fun _ _ _ _ => matching_approval⟩
  intro action policyVersion maxAttempts deadline db apart row db' ran
  rw [storeActionByKey_run apart] at ran
  exact storeAction_identity ran

/-- A link for a case whose id looks like the end of a field, and for one with a letter beyond ASCII. -/
def quotedLink : ActionIdentity :=
  { merchantId := ident "acme", caseId := ident "case\",\"", actionType := .createPaymentLink, targetType := .payment
    targetId := ident "pay-1", logicalAttempt := 1, attempt_pos := first_pos }

def accentedLink : ActionIdentity := { quotedLink with caseId := ident "café" }

def linkFor (identity : ActionIdentity) : RecoveryAction :=
  { identity := identity, decisionReceiptId := .generated (ident "receipt-1"), status := .pending
    parameters := { amountMinor := 500, currency := currency "INR" }, authorizedAt := 0, executeAfter := 0, createdAt := 0 }

def storedLink : ActionRow := ActionRow.ofAction (linkFor accentedLink) (ident "v1") 3 10

def linkFingerprint (target : String) : ActionFingerprintInput :=
  { caseId := "case-1", actionType := "CREATE_PAYMENT_LINK", target := target, amountMinor := 500, currency := "INR"
    logicalAttempt := 1, policyDigest := "digest-1" }

/-- The quoted link beside the stored accented one, and an approval of a link for another payment. -/
theorem logical_identities_apart_quoted :
    (actionIdempotencyKey accentedLink = actionIdempotencyKey quotedLink → accentedLink = quotedLink) ∧
    ((linkFingerprint "pay-1").digest = (linkFingerprint "pay-2").digest → linkFingerprint "pay-1" = linkFingerprint "pay-2") ∧
    (∃ row db', (storeActionByKey (linkFor quotedLink) (ident "v1") 3 10).run { actions := [storedLink] } = .ok (row, db') ∧
      row.id = quotedLink) ∧
    ((⟨.approved, 100, (linkFingerprint "pay-1").digest, "digest-1"⟩ : ApprovalRecord).isMatchingApproval
      (linkFingerprint "pay-2").digest "digest-1" 50 = true → linkFingerprint "pay-1" = linkFingerprint "pay-2") := by
  obtain ⟨keys, prints, stores, approves⟩ := logical_identities_apart
  have links : CollisionFree accentedLink.document quotedLink.document := by
    intro same
    have different : Sha256.hexdigest (asciiBytes accentedLink.document) ≠ Sha256.hexdigest (asciiBytes quotedLink.document) := by
      decide +kernel
    exact absurd same different
  have payments : CollisionFree (linkFingerprint "pay-1").document (linkFingerprint "pay-2").document := by
    intro same
    have different : Sha256.hexdigest (asciiBytes (linkFingerprint "pay-1").document) ≠
        Sha256.hexdigest (asciiBytes (linkFingerprint "pay-2").document) := by decide +kernel
    exact absurd same different
  have apart : KeysApart (linkFor quotedLink) { actions := [storedLink] } := by
    intro r stored
    rw [List.mem_singleton.mp stored]
    exact links
  have ran : (storeActionByKey (linkFor quotedLink) (ident "v1") 3 10).run { actions := [storedLink] } =
      .ok (ActionRow.ofAction (linkFor quotedLink) (ident "v1") 3 10,
        { actions := [storedLink, ActionRow.ofAction (linkFor quotedLink) (ident "v1") 3 10] }) := by
    rw [storeActionByKey_run apart]
    rfl
  exact ⟨keys _ _ links, prints _ _ payments, ⟨_, _, ran, stores _ _ _ _ _ apart _ _ ran⟩,
    approves _ _ _ _ payments rfl⟩

end RevenueGuard
