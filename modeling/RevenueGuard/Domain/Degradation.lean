import RevenueGuard.Domain.Evaluation
import RevenueGuard.Domain.Playbooks
import Mathlib.Data.List.Sort
import Mathlib.Data.Prod.Lex
import Mathlib.Data.String.Basic

/-
Payment degradation: the rule that compares a recent window of payment outcomes
with the baseline before it. Observation and payment ids, which no rule reads, are
left out.
-/
namespace RevenueGuard

structure PaymentOutcomeObservation where
  merchantId : Identifier
  succeeded : Bool
  paymentMethod : Identifier
  issuerFamily : Identifier
  errorFamily : Identifier
  occurredAt : Instant
deriving DecidableEq, Repr

/-- The four names a degradation is found by, ordered as Python orders tuples of strings. -/
abbrev Dimension := Identifier ×ₗ Identifier ×ₗ Identifier ×ₗ Identifier

def Dimension.of (merchantId paymentMethod issuerFamily errorFamily : Identifier) : Dimension :=
  toLex (merchantId, toLex (paymentMethod, toLex (issuerFamily, errorFamily)))

def Dimension.merchantId (k : Dimension) : Identifier := (ofLex k).1
def Dimension.paymentMethod (k : Dimension) : Identifier := (ofLex (ofLex k).2).1
def Dimension.issuerFamily (k : Dimension) : Identifier := (ofLex (ofLex (ofLex k).2).2).1
def Dimension.errorFamily (k : Dimension) : Identifier := (ofLex (ofLex (ofLex k).2).2).2

def PaymentOutcomeObservation.dimension (o : PaymentOutcomeObservation) : Dimension :=
  .of o.merchantId o.paymentMethod o.issuerFamily o.errorFamily

/-- The whole assessment: its dimension and verdict with the counts and rates they rest on. -/
structure MeasuredDegradation extends DegradationAssessment where
  baselineTotal : Nat
  baselineFailures : Nat
  currentTotal : Nat
  currentFailures : Nat
  baselineFailureRateBasisPoints : Nat
  currentFailureRateBasisPoints : Nat
  failureRateIncreaseBasisPoints : Int
  failureRateRatioBasisPoints : Nat
  policyVersion : Identifier
deriving DecidableEq, Repr

def MeasuredDegradation.dimension (a : MeasuredDegradation) : Dimension :=
  .of a.merchantId a.paymentMethod a.issuerFamily a.errorFamily

inductive ArithmeticFailure where
  | zeroDivision | overflow
deriving DecidableEq, Repr

/-- The first and the last instant that a `datetime` in UTC names: 0001-01-01T00:00:00 and 9999-12-31T23:59:59.999999. -/
def calendarStart : Instant := -62135596800000000

def calendarEnd : Instant := 253402300799999999

def Representable (t : Instant) : Prop := calendarStart ≤ t ∧ t ≤ calendarEnd

instance (t : Instant) : Decidable (Representable t) := inferInstanceAs (Decidable (_ ∧ _))

/-- An instant less a window, which is refused outside the calendar. -/
def windowStart (t : Instant) (window : Int) : Except ArithmeticFailure Instant :=
  if Representable (t - window) then .ok (t - window) else .error .overflow

/-- Floor division, which refuses a zero divisor. -/
def floorDivide (a b : Nat) : Except ArithmeticFailure Nat :=
  if b = 0 then .error .zeroDivision else .ok (a / b)

def rateBasisPoints (failures total : Nat) : Except ArithmeticFailure Nat :=
  if total ≠ 0 then floorDivide (failures * 10000) total else .ok 0

def rateRatio (currentRate baselineRate : Nat) : Except ArithmeticFailure Nat :=
  if 0 < baselineRate then floorDivide (currentRate * 10000) baselineRate
  else .ok (if 0 < currentRate then 100000 else 10000)

variable (policy : DegradationPolicy) (evaluatedAt : Instant)

def PaymentOutcomeObservation.inWindow (o : PaymentOutcomeObservation) : Bool :=
  decide (evaluatedAt - policy.baselineWindow ≤ o.occurredAt) && decide (o.occurredAt ≤ evaluatedAt)

/-- A success of the method and issuer, or a failure of the family. -/
def PaymentOutcomeObservation.relevant (key : Dimension) (o : PaymentOutcomeObservation) : Bool :=
  decide (o.merchantId = key.merchantId) && decide (o.paymentMethod = key.paymentMethod)
    && decide (o.issuerFamily = key.issuerFamily) && (o.succeeded || decide (o.errorFamily = key.errorFamily))

def assessDimension (inWindow : List PaymentOutcomeObservation) (key : Dimension) :
    Except ArithmeticFailure MeasuredDegradation := do
  let currentStart := evaluatedAt - policy.currentWindow
  let relevant := inWindow.filter (·.relevant key)
  let baseline := relevant.filter fun item => decide (item.occurredAt < currentStart)
  let current := relevant.filter fun item => decide (currentStart ≤ item.occurredAt)
  let baselineFailures := (baseline.filter fun item => !item.succeeded).length
  let currentFailures := (current.filter fun item => !item.succeeded).length
  let baselineRate ← rateBasisPoints baselineFailures baseline.length
  let currentRate ← rateBasisPoints currentFailures current.length
  let increase : Int := currentRate - baselineRate
  let ratio ← rateRatio currentRate baselineRate
  pure
    { merchantId := key.merchantId
      paymentMethod := key.paymentMethod
      issuerFamily := key.issuerFamily
      errorFamily := key.errorFamily
      degraded := decide (policy.minimumBaselineCount ≤ baseline.length)
        && decide (policy.minimumCurrentCount ≤ current.length)
        && decide (policy.minimumFailureRateBasisPoints ≤ currentRate)
        && decide (policy.minimumRateIncreaseBasisPoints ≤ increase)
        && decide (policy.minimumRateRatioBasisPoints ≤ ratio)
      evaluatedAt := evaluatedAt
      baselineTotal := baseline.length
      baselineFailures := baselineFailures
      currentTotal := current.length
      currentFailures := currentFailures
      baselineFailureRateBasisPoints := baselineRate
      currentFailureRateBasisPoints := currentRate
      failureRateIncreaseBasisPoints := increase
      failureRateRatioBasisPoints := ratio
      policyVersion := policy.version }

def failureDimensions (inWindow : List PaymentOutcomeObservation) : List Dimension :=
  (unique ((inWindow.filter fun o => !o.succeeded).map (·.dimension))).insertionSort (· ≤ ·)

def assessPaymentDegradation (observations : List PaymentOutcomeObservation) :
    Except ArithmeticFailure (List MeasuredDegradation) := do
  -- The two starts that `inWindow` and `assessDimension` compare with: either one can leave the calendar.
  let _ ← windowStart evaluatedAt policy.baselineWindow
  let _ ← windowStart evaluatedAt policy.currentWindow
  let inWindow := observations.filter (·.inWindow policy evaluatedAt)
  (failureDimensions inWindow).mapM (assessDimension policy evaluatedAt inWindow)

end RevenueGuard
