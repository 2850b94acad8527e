import Mathlib.Tactic.Common

/-
Recovery cases: the frozen state machine and the one function that moves a case
through it. Instants are microseconds since the epoch in UTC, and a timestamp
that reaches this layer is already timezone-aware. `_identifier` bounds are
carried by the type of a name, so a row with an empty or overlong name has no
value here.
-/
namespace RevenueGuard

abbrev Instant := Int

def seconds (n : Int) : Int := n * 1000000

abbrev Identifier := { s : String // s ≠ "" ∧ s.length ≤ 128 }

instance : LawfulBEq Identifier := inferInstance

abbrev Currency := { s : String // s.toList.length = 3 ∧ ∀ c ∈ s.toList, 'A' ≤ c ∧ c ≤ 'Z' }

abbrev BasisPoints := { n : Nat // n ≤ 10000 }

def wellNamed (s : String) : Bool := s != "" && decide (s.length ≤ 128)

theorem wellNamed_ok {s : String} (h : wellNamed s = true) : s ≠ "" ∧ s.length ≤ 128 := by simpa [wellNamed] using h

def ident (s : String) (valid : wellNamed s = true := by exact Eq.refl true) : Identifier := ⟨s, wellNamed_ok valid⟩

def threeCapitals (s : String) : Bool :=
  s.toList.length == 3 && s.toList.all fun c => decide ('A'.toNat ≤ c.toNat ∧ c.toNat ≤ 'Z'.toNat)

theorem threeCapitals_ok {s : String} (h : threeCapitals s = true) :
    s.toList.length = 3 ∧ ∀ c ∈ s.toList, 'A' ≤ c ∧ c ≤ 'Z' := by
  simp only [threeCapitals, Bool.and_eq_true, beq_iff_eq, List.all_eq_true, decide_eq_true_eq] at h
  exact ⟨h.1, fun c member => ⟨(h.2 c member).1, (h.2 c member).2⟩⟩

def currency (s : String) (valid : threeCapitals s = true := by exact Eq.refl true) : Currency :=
  ⟨s, threeCapitals_ok valid⟩

def basisPoints (n : Nat) (valid : Nat.ble n 10000 = true := by exact Eq.refl true) : BasisPoints :=
  ⟨n, Nat.le_of_ble_eq_true valid⟩

/-- `value or default` on an optional string: the empty string is false as well. -/
def orText (value : Option String) (default : String) : String :=
  match value with
  | some s => if s = "" then default else s
  | none => default

/-- `if not value` on an optional string. -/
def blank (value : Option String) : Bool := match value with
  | some s => s == ""
  | none => true

/-- What a failed call raises. Its transaction is rolled back with it. -/
inductive Failure where
  | lookup (detail : String)
  | value (detail : String)
  | assertion (detail : String)
  | staleCaseVersion (detail : String)
  | caseTransition (code detail : String)
  | actionPersistence (code detail : String)
  | recoveryPersistence (code detail : String)
  | missingPolicy (detail : String)
  | integrity (constraint : String)
  | data (table : String)
  | cancelled
  | multipleResults
  | noResult
deriving DecidableEq, Repr

inductive WorkflowType where
  | failedSubscription | paymentDegradation | b2bPromiseToPay
deriving DecidableEq, Repr

inductive SubjectType where
  | payment | subscription | invoice | portfolioIncident
deriving DecidableEq, Repr

inductive CaseState where
  | detected | diagnosing | decisionPending | policyCheck | ready | executing
  | verifying | unknown | deferred | escalated | recovered | stopped
deriving DecidableEq, Repr

def CaseState.value : CaseState → String
  | .detected => "DETECTED"
  | .diagnosing => "DIAGNOSING"
  | .decisionPending => "DECISION_PENDING"
  | .policyCheck => "POLICY_CHECK"
  | .ready => "READY"
  | .executing => "EXECUTING"
  | .verifying => "VERIFYING"
  | .unknown => "UNKNOWN"
  | .deferred => "DEFERRED"
  | .escalated => "ESCALATED"
  | .recovered => "RECOVERED"
  | .stopped => "STOPPED"

def terminalStates : List CaseState := [.recovered, .stopped]

def CaseState.Terminal (s : CaseState) : Prop := s ∈ terminalStates

instance (s : CaseState) : Decidable s.Terminal := inferInstanceAs (Decidable (s ∈ terminalStates))

def allowedTransitions : CaseState → List CaseState
  | .detected => [.diagnosing]
  | .diagnosing => [.decisionPending]
  | .decisionPending => [.policyCheck]
  | .policyCheck => [.ready, .deferred, .decisionPending, .escalated, .stopped]
  | .ready => [.executing]
  | .executing => [.verifying, .unknown]
  | .verifying => [.recovered, .decisionPending, .unknown, .stopped]
  | .unknown => [.verifying, .escalated]
  | .deferred => [.decisionPending]
  | .escalated => [.decisionPending, .stopped]
  | .recovered => []
  | .stopped => []

def canTransition (before after : CaseState) : Bool := decide (after ∈ allowedTransitions before)

theorem terminal_has_no_transition {before after : CaseState} (h : before.Terminal) :
    canTransition before after = false := by
  rcases before with _ | _ | _ | _ | _ | _ | _ | _ | _ | _ | _ | _ <;>
    simp [CaseState.Terminal, terminalStates, canTransition, allowedTransitions] at h ⊢

theorem terminal_iff (s : CaseState) : s.Terminal ↔ s = .recovered ∨ s = .stopped := by
  simp [CaseState.Terminal, terminalStates]

structure RecoveryCase where
  caseId : Identifier
  merchantId : Identifier
  workflowType : WorkflowType
  subjectType : SubjectType
  subjectId : Identifier
  customerId : Option Identifier
  revenueAtRiskMinor : Nat
  currency : Currency
  state : CaseState
  stateVersion : Nat
  retryCount : Nat
  contactCount : Nat
  createdAt : Instant
  updatedAt : Instant
  diagnosis : Option Identifier := none
  diagnosisConfidenceBasisPoints : Option BasisPoints := none
  activeIncidentId : Option Identifier := none
  nextEvaluationAt : Option Instant := none
  terminalReason : Option String := none
deriving DecidableEq, Repr

/-- `round((diagnosis_confidence or 0) * 10_000)`. -/
def RecoveryCase.confidence (c : RecoveryCase) : BasisPoints := c.diagnosisConfidenceBasisPoints.getD (basisPoints 0)

theorem RecoveryCase.confidence_le (c : RecoveryCase) : c.confidence.val ≤ 10000 := c.confidence.property

structure CaseTransition where
  caseId : Identifier
  merchantId : Identifier
  beforeState : CaseState
  afterState : CaseState
  beforeVersion : Nat
  afterVersion : Nat
  actor : String
  reasonCode : String
  reasonDetail : Option String
  policyVersion : Identifier
  authoritativeEvidenceReference : Option String
  occurredAt : Instant
deriving DecidableEq, Repr

/-- The keyword arguments of `transition_case`. -/
structure Transition where
  toState : CaseState
  actor : String
  reasonCode : String
  occurredAt : Instant
  policyVersion : Identifier
  reasonDetail : Option String := none
  authoritativeEvidenceReference : Option String := none
  terminalReason : Option String := none
  nextEvaluationAt : Option Instant := none
deriving DecidableEq, Repr

def require (c : Prop) [Decidable c] (e : Failure) : Except Failure Unit := if c then .ok () else .error e

def Transition.legal (case : RecoveryCase) (expectedVersion : Nat) (t : Transition) : Except Failure Unit := do
  require (case.stateVersion = expectedVersion)
    (.staleCaseVersion s!"expected version {expectedVersion}, found {case.stateVersion}")
  require (canTransition case.state t.toState)
    (.caseTransition "ILLEGAL_CASE_TRANSITION"
      ("cannot transition " ++ case.state.value ++ " to " ++ t.toState.value))
  require (case.updatedAt ≤ t.occurredAt)
    (.caseTransition "TRANSITION_TIME_REGRESSION" "transition time precedes case update")
  require (t.toState.Terminal → blank t.terminalReason = false)
    (.caseTransition "TERMINAL_REASON_REQUIRED" "terminal transition requires a reason")
  require (¬ t.toState.Terminal → t.terminalReason = none)
    (.caseTransition "UNEXPECTED_TERMINAL_REASON" "nonterminal transition has a reason")
  require (t.toState = .recovered → blank t.authoritativeEvidenceReference = false)
    (.caseTransition "AUTHORITATIVE_EVIDENCE_REQUIRED" "recovered transition requires authoritative evidence")

/-- The length limits that `RecoveryCase` and `CaseTransition` put on free text. -/
def Transition.wellSized (t : Transition) : Except Failure Unit := do
  require (∀ s ∈ t.terminalReason, s.length ≤ 256)
    (.value "terminal_reason must contain between 1 and 256 characters")
  require (t.actor ≠ "" ∧ t.actor.length ≤ 128) (.value "actor must contain between 1 and 128 characters")
  require (t.reasonCode ≠ "" ∧ t.reasonCode.length ≤ 128)
    (.value "reason_code must contain between 1 and 128 characters")
  require (∀ s ∈ t.reasonDetail, s.length ≤ 2000) (.value "reason_detail cannot exceed 2000 characters")
  require (∀ s ∈ t.authoritativeEvidenceReference, s.length ≤ 512)
    (.value "authoritative evidence reference cannot exceed 512 characters")

def RecoveryCase.moved (case : RecoveryCase) (t : Transition) : RecoveryCase :=
  { case with
    state := t.toState
    stateVersion := case.stateVersion + 1
    updatedAt := t.occurredAt
    terminalReason := t.terminalReason
    nextEvaluationAt := t.nextEvaluationAt }

def RecoveryCase.transition (case : RecoveryCase) (t : Transition) : CaseTransition :=
  { caseId := case.caseId
    merchantId := case.merchantId
    beforeState := case.state
    afterState := t.toState
    beforeVersion := case.stateVersion
    afterVersion := case.stateVersion + 1
    actor := t.actor
    reasonCode := t.reasonCode
    reasonDetail := t.reasonDetail
    policyVersion := t.policyVersion
    authoritativeEvidenceReference := t.authoritativeEvidenceReference
    occurredAt := t.occurredAt }

def transitionCase (case : RecoveryCase) (expectedVersion : Nat) (t : Transition) :
    Except Failure (RecoveryCase × CaseTransition) := do
  t.legal case expectedVersion
  t.wellSized
  pure (case.moved t, case.transition t)

end RevenueGuard
