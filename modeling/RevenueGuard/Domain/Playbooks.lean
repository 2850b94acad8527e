import RevenueGuard.Domain.Actions

/-
Receivables and portfolio playbooks: what a customer's reply was understood to
say, the promise it becomes, and the verdict of a degradation assessment. A
promised date is a day number; it falls due at midnight UTC of that day.
-/
namespace RevenueGuard

inductive PromiseIntent where
  | promiseToPay | dispute | alreadyPaid | needsHelp | unknown
deriving DecidableEq, Repr

structure PromiseTerms where
  promisedDate : Int
  amountMinor : Nat
  currency : Currency
  amount_pos : 0 < amountMinor
deriving Repr

def PromiseTerms.parts (t : PromiseTerms) : Int × Nat × Currency := (t.promisedDate, t.amountMinor, t.currency)

theorem PromiseTerms.parts_inj {a b : PromiseTerms} : a.parts = b.parts ↔ a = b := by
  cases a
  cases b
  simp [PromiseTerms.parts]

instance : DecidableEq PromiseTerms := fun a b => decidable_of_iff (a.parts = b.parts) PromiseTerms.parts_inj

/-- Promise terms come with the promise intent and with no other. -/
structure PromiseExtraction where
  intent : PromiseIntent
  confidenceBasisPoints : BasisPoints
  terms : Option PromiseTerms := none
  terms_iff : terms.isSome = true ↔ intent = .promiseToPay
deriving DecidableEq, Repr

def fallbackExtraction : PromiseExtraction :=
  { intent := .unknown, confidenceBasisPoints := basisPoints 0, terms_iff := by simp }

/-- The characters `str.strip` removes. -/
def stripped (c : Char) : Bool :=
  let n := c.toNat
  (9 ≤ n && n ≤ 13) || (28 ≤ n && n ≤ 32) || n == 0x85 || n == 0xa0 || n == 0x1680 || (0x2000 ≤ n && n ≤ 0x200a)
    || n == 0x2028 || n == 0x2029 || n == 0x202f || n == 0x205f || n == 0x3000

/-- `BoundedPromiseExtractor.extract`; a provider that is missing, fails or answers out of shape has no reply. -/
def extractPromise (reply : Option PromiseExtraction) (text : String) : Except Failure PromiseExtraction :=
  if text.toList.all stripped then .error (.value "customer response text is required")
  else if 2000 < text.length then .ok fallbackExtraction
  else .ok (reply.getD fallbackExtraction)

def dayStart (day : Int) : Instant := day * 86400000000

structure PromiseToPay where
  promiseId : PromiseId
  merchantId : Identifier
  caseId : Identifier
  invoiceId : Identifier
  customerId : Identifier
  amountMinor : Nat
  currency : Currency
  promisedFor : Int
  reminderAt : Instant
  extractionConfidence : BasisPoints
  createdAt : Instant
deriving DecidableEq, Repr

structure PromiseParties where
  promiseId : PromiseId
  merchantId : Identifier
  caseId : Identifier
  invoiceId : Identifier
  customerId : Identifier

def createPromise (parties : PromiseParties) (outstandingAmountMinor : Nat) (invoiceCurrency : Currency)
    (extraction : PromiseExtraction) (receivedAt : Instant) (reminderLead : Int := seconds 86400) :
    Except Failure PromiseToPay := do
  require (extraction.intent = .promiseToPay) (.value "only PROMISE_TO_PAY extraction can create a promise")
  match extraction.terms with
  | none => .error (.assertion "validated promise extraction is missing money terms")
  | some terms => do
    require (terms.currency = invoiceCurrency) (.value "promise currency must equal invoice currency")
    require (terms.amountMinor ≤ outstandingAmountMinor)
      (.value "promise amount cannot exceed invoice outstanding amount")
    require (0 ≤ reminderLead) (.value "reminder_lead cannot be negative")
    require (dayStart (receivedAt / 86400000000) ≤ dayStart terms.promisedDate)
      (.value "promise date cannot be in the past")
    require (parties.promiseId.sourceResponseId ≠ "" ∧ parties.promiseId.sourceResponseId.length ≤ 128)
      (.value "source_response_id must contain between 1 and 128 characters")
    pure
      { promiseId := parties.promiseId
        merchantId := parties.merchantId
        caseId := parties.caseId
        invoiceId := parties.invoiceId
        customerId := parties.customerId
        amountMinor := terms.amountMinor
        currency := terms.currency
        promisedFor := terms.promisedDate
        reminderAt := max receivedAt (dayStart terms.promisedDate - reminderLead)
        extractionConfidence := extraction.confidenceBasisPoints
        createdAt := receivedAt }

theorem baseline_default : seconds 900 < seconds 86400 := by decide

theorem window_default : 0 < seconds 900 := by decide

theorem ttl_default : 0 < seconds 1800 := by decide

theorem counts_default : 0 < 20 ∧ 0 < 10 := by decide

theorem rates_default : 2500 ≤ 10000 ∧ 1500 ≤ 10000 := by decide

structure DegradationPolicy where
  baselineWindow : Int := seconds 86400
  currentWindow : Int := seconds 900
  minimumBaselineCount : Nat := 20
  minimumCurrentCount : Nat := 10
  minimumFailureRateBasisPoints : Nat := 2500
  minimumRateIncreaseBasisPoints : Nat := 1500
  minimumRateRatioBasisPoints : Nat := 20000
  incidentTtl : Int := seconds 1800
  clearConsecutiveWindows : Nat := 2
  version : Identifier := ident "phase6-playbooks-1.0"
  baseline_longer : currentWindow < baselineWindow := by first | exact baseline_default | decide
  window_pos : 0 < currentWindow := by first | exact window_default | decide
  ttl_pos : 0 < incidentTtl := by first | exact ttl_default | decide
  counts_pos : 0 < minimumBaselineCount ∧ 0 < minimumCurrentCount := by first | exact counts_default | decide
  clear_pos : 0 < clearConsecutiveWindows := by first | exact second_pos | decide
  rates_le : minimumFailureRateBasisPoints ≤ 10000 ∧ minimumRateIncreaseBasisPoints ≤ 10000 := by
    first | exact rates_default | decide

def DegradationPolicy.parts (p : DegradationPolicy) : (Int × Int × Int) × (Nat × Nat × Nat × Nat × Nat) × Nat × Identifier :=
  ((p.baselineWindow, p.currentWindow, p.incidentTtl),
    (p.minimumBaselineCount, p.minimumCurrentCount, p.minimumFailureRateBasisPoints, p.minimumRateIncreaseBasisPoints,
      p.minimumRateRatioBasisPoints), p.clearConsecutiveWindows, p.version)

theorem DegradationPolicy.parts_inj {a b : DegradationPolicy} : a.parts = b.parts ↔ a = b := by
  cases a
  cases b
  simp only [DegradationPolicy.parts, Prod.mk.injEq, DegradationPolicy.mk.injEq]
  tauto

instance : DecidableEq DegradationPolicy := fun a b => decidable_of_iff (a.parts = b.parts) DegradationPolicy.parts_inj

/-- The part of a degradation assessment that incidents are kept by. -/
structure DegradationAssessment where
  merchantId : Identifier
  paymentMethod : Identifier
  issuerFamily : Identifier
  errorFamily : Identifier
  degraded : Bool
  evaluatedAt : Instant
deriving DecidableEq, Repr

end RevenueGuard
