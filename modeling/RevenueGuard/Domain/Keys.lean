import RevenueGuard.Domain.Actions
import RevenueGuard.Kit.AsciiJson
import RevenueGuard.Kit.Calendar
import RevenueGuard.Kit.Sha256

/-
Digests of logical identities: the idempotency key of an action, the fingerprint
that binds an approval to an action, and the digest of a policy's document.
-/
namespace RevenueGuard

def SubjectType.value : SubjectType → String
  | .payment => "PAYMENT"
  | .subscription => "SUBSCRIPTION"
  | .invoice => "INVOICE"
  | .portfolioIncident => "PORTFOLIO_INCIDENT"

/-- `json.dumps(document, sort_keys=True, separators=(",", ":")).encode()`. -/
def asciiBytes (document : Json) : List UInt8 := Json.utf8 (Json.asciiDumps document)

def canonicalDigest (document : Json) : String := Sha256.hexdigest (asciiBytes document)

def ActionIdentity.document (a : ActionIdentity) : Json :=
  .obj
    [("action_type", .str a.actionType.value), ("case_id", .str a.caseId.val), ("logical_attempt", .int a.logicalAttempt),
      ("merchant_id", .str a.merchantId.val), ("target_id", .str a.targetId.val), ("target_type", .str a.targetType.value),
      ("version", .int 1)]

def actionIdempotencyKey (a : ActionIdentity) : String := "rg:v1:" ++ canonicalDigest a.document

/-- The action's id, the first half of its key's digest. -/
def actionIdOf (a : ActionIdentity) : String :=
  "action_" ++ String.ofList ((canonicalDigest a.document).toList.take 32)

/-- Any seven values; the checks of `__post_init__` only narrow them. -/
structure ActionFingerprintInput where
  caseId : String
  actionType : String
  target : String
  amountMinor : Int
  currency : String
  logicalAttempt : Int
  policyDigest : String
deriving DecidableEq, Repr

def ActionFingerprintInput.document (f : ActionFingerprintInput) : Json :=
  .obj
    [("action_type", .str f.actionType), ("amount_minor", .int f.amountMinor), ("case_id", .str f.caseId),
      ("currency", .str f.currency), ("logical_attempt", .int f.logicalAttempt), ("policy_digest", .str f.policyDigest),
      ("target", .str f.target)]

def ActionFingerprintInput.digest (f : ActionFingerprintInput) : String := canonicalDigest f.document

/-- `_format`: whole seconds, as far as they have a date. -/
def formatSecond (second : Int) : Option String :=
  (Calendar.moment? (Calendar.epochDays * Calendar.dayMicros + seconds second)).map Calendar.isoformat

/-- `time.isoformat(timespec="seconds")`. -/
def clockText (second : Nat) : String := String.ofList (Calendar.timeText (second * 1000000))

/-- The action types in the order of their values. -/
def ActionType.sorted : List ActionType :=
  [.createPaymentLink, .deferRetry, .escalateHuman, .noAction, .pauseRetries, .requestPaymentMethodUpdate,
    .resumeDeferredCase, .schedulePromiseReminder, .sendReminder, .stopAutomation]

def PolicyDocument.fields (d : PolicyDocument) (effectiveAt : String) : List (String × Json) :=
  [("allowed_actions", .arr ((ActionType.sorted.filter (· ∈ d.allowedActions)).map fun a => .str a.value)),
    ("contact_limit", .int d.contactLimit), ("currency", .str d.currency.val),
    ("default_defer_seconds", .int d.defaultDeferSeconds), ("effective_at", .str effectiveAt),
    ("features_version", .str d.featuresVersion), ("human_review_amount_minor", .int d.humanReviewAmountMinor),
    ("minimum_confidence_basis_points", .int d.minimumConfidenceBasisPoints),
    ("minimum_expected_net_recovery_minor", .int d.minimumExpectedNetRecoveryMinor),
    ("quiet_hours_end", .str (clockText d.quietHoursEndSecond)), ("quiet_hours_start", .str (clockText d.quietHoursStartSecond)),
    ("retry_limit", .int d.retryLimit), ("timezone", .str d.timezone), ("version", .str d.version.val)]

/-- The JSON of a policy document, as far as its date can be written. -/
def PolicyDocument.json (d : PolicyDocument) : Option Json :=
  (formatSecond d.effectiveAtSecond).map fun text => .obj (d.fields text)

/-- The text of `content_digest`. -/
def PolicyDocument.sha256 (d : PolicyDocument) : String := (d.json.map canonicalDigest).getD ""

/-- SHA-256 has no collision between the two documents. -/
def CollisionFree (a b : Json) : Prop :=
  Sha256.hexdigest (asciiBytes a) = Sha256.hexdigest (asciiBytes b) → asciiBytes a = asciiBytes b

section injective

variable {a b : ActionIdentity} {f g : ActionFingerprintInput}

theorem ActionType.value_inj {t u : ActionType} (same : t.value = u.value) : t = u := by
  cases t <;> cases u <;> first | rfl | (revert same; decide)

theorem SubjectType.value_inj {t u : SubjectType} (same : t.value = u.value) : t = u := by
  cases t <;> cases u <;> first | rfl | (revert same; decide)

theorem canonicalDigest_inj {document other : Json} (free : CollisionFree document other) (floats : document.FloatFree)
    (floats' : other.FloatFree) (same : canonicalDigest document = canonicalDigest other) :
    document.sorted = other.sorted :=
  (Json.asciiDumps_inj floats floats').mp (Json.utf8_inj.mp (free same))

theorem identity_of_document (same : a.document.sorted = b.document.sorted) : a = b := by
  have fields := Json.sorted_obj_inj same rfl (by simp)
  simp only [Json.sortedFields, Json.sorted, List.cons.injEq, Prod.mk.injEq, Json.str.injEq, Json.int.injEq, true_and,
    and_true, Int.natCast_inj] at fields
  obtain ⟨actionType, caseId, attempt, merchantId, targetId, targetType⟩ := fields
  cases a
  cases b
  obtain rfl := ActionType.value_inj actionType
  obtain rfl := SubjectType.value_inj targetType
  obtain rfl := Subtype.ext caseId
  obtain rfl := Subtype.ext merchantId
  obtain rfl := Subtype.ext targetId
  obtain rfl := attempt
  rfl

theorem input_of_document (same : f.document.sorted = g.document.sorted) : f = g := by
  have fields := Json.sorted_obj_inj same rfl (by simp)
  simp only [Json.sortedFields, Json.sorted, List.cons.injEq, Prod.mk.injEq, Json.str.injEq, Json.int.injEq, true_and,
    and_true] at fields
  obtain ⟨actionType, amount, caseId, currency, attempt, policy, target⟩ := fields
  cases f
  cases g
  subst actionType amount caseId currency attempt policy target
  rfl

theorem identity_floatFree (a : ActionIdentity) : a.document.FloatFree := by
  simp [ActionIdentity.document, Json.FloatFree, Json.FloatFreeFields]

theorem input_floatFree (f : ActionFingerprintInput) : f.document.FloatFree := by
  simp [ActionFingerprintInput.document, Json.FloatFree, Json.FloatFreeFields]

theorem actionIdempotencyKey_inj (free : CollisionFree a.document b.document)
    (same : actionIdempotencyKey a = actionIdempotencyKey b) : a = b := by
  have digests : canonicalDigest a.document = canonicalDigest b.document := (String.append_right_inj "rg:v1:").mp same
  exact identity_of_document (canonicalDigest_inj free (identity_floatFree a) (identity_floatFree b) digests)

theorem digest_inj (free : CollisionFree f.document g.document) (same : f.digest = g.digest) : f = g :=
  input_of_document (canonicalDigest_inj free (input_floatFree f) (input_floatFree g) same)

end injective

section policies

variable {d e : PolicyDocument}

theorem formatSecond_inj {m n : Int} {text : String} (first : formatSecond m = some text) (second : formatSecond n = some text) :
    m = n := by
  obtain ⟨t, here, rfl⟩ := Option.map_eq_some_iff.mp first
  obtain ⟨u, there, same⟩ := Option.map_eq_some_iff.mp second
  rw [Calendar.isoformat_inj.mp same] at there
  have micros := (Calendar.moment?_some here).symm.trans (Calendar.moment?_some there)
  simp only [seconds] at micros
  omega

theorem clockText_inj {m n : Nat} (same : clockText m = clockText n) : m = n := by
  have times := Calendar.timeText_append (r := []) (u := [])
    (congrArg (· ++ ['Z']) (String.ofList_injective same))
  omega

theorem sorted_complete (a : ActionType) : a ∈ ActionType.sorted := by
  cases a <;> decide

theorem allowed_inj {A : Type} {f : ActionType → A} (injective : Function.Injective f) {s t : Finset ActionType}
    (same : (ActionType.sorted.filter (· ∈ s)).map f = (ActionType.sorted.filter (· ∈ t)).map f) : s = t := by
  have kept := List.map_injective_iff.mpr injective same
  ext a
  have member (u : Finset ActionType) : a ∈ ActionType.sorted.filter (· ∈ u) ↔ a ∈ u := by
    simp [sorted_complete a]
  rw [← member s, ← member t, kept]

theorem fields_floatFree (d : PolicyDocument) (text : String) : (Json.obj (d.fields text)).FloatFree := by
  simp only [PolicyDocument.fields, Json.FloatFree, Json.FloatFreeFields, Json.floatFreeItems_iff, List.mem_map]
  simp only [and_true]
  rintro a ⟨t, -, rfl⟩
  trivial

theorem document_of_fields {text : String} (first : formatSecond d.effectiveAtSecond = some text) {other : String}
    (second : formatSecond e.effectiveAtSecond = some other)
    (same : (Json.obj (d.fields text)).sorted = (Json.obj (e.fields other)).sorted) : d = e := by
  have keys : (d.fields text).map Prod.fst = (e.fields other).map Prod.fst := by
    simp only [PolicyDocument.fields, List.map_cons, List.map_nil]
  have fields := Json.sorted_obj_inj same keys (by simp [PolicyDocument.fields])
  simp only [PolicyDocument.fields, Json.sortedFields, Json.sorted, Json.sortedItems_eq, List.map_map, List.cons.injEq,
    Prod.mk.injEq, Json.str.injEq, Json.int.injEq, Json.arr.injEq, true_and, and_true, Int.natCast_inj] at fields
  obtain ⟨actions, contacts, currency, defer, effective, features, review, confidence, minimum, quietEnd, quietStart, retries,
    timezone, version⟩ := fields
  subst effective
  have allowed := allowed_inj (fun a b h => ActionType.value_inj (Json.str.inj h)) actions
  have at_ := formatSecond_inj first second
  have start := clockText_inj quietStart
  have stop := clockText_inj quietEnd
  cases d with | mk terms =>
  cases e with | mk terms' =>
  cases terms
  cases terms'
  simp_all [Subtype.ext_iff]

/-- Both policies have a date, and SHA-256 has no collision between them. -/
def PoliciesApart (d e : PolicyDocument) : Prop := ∃ a ∈ d.json, ∃ b ∈ e.json, CollisionFree a b

/-- Digests of policies tell their documents apart. -/
theorem sha256_inj (apart : PoliciesApart d e) : d.sha256 = e.sha256 ↔ d = e := by
  refine ⟨fun same => ?_, fun same => by rw [same]⟩
  obtain ⟨a, first, b, second, free⟩ := apart
  rw [PolicyDocument.sha256, PolicyDocument.sha256, Option.mem_def.mp first, Option.mem_def.mp second] at same
  obtain ⟨text, here, rfl⟩ := Option.map_eq_some_iff.mp first
  obtain ⟨other, there, rfl⟩ := Option.map_eq_some_iff.mp second
  exact document_of_fields here there (canonicalDigest_inj free (fields_floatFree _ _) (fields_floatFree _ _) same)

end policies

end RevenueGuard
