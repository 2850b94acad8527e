import RevenueGuard.Domain.Policy

/-
Normalized revenue-risk events, the case an event belongs to, and its
deterministic diagnosis with ranked recovery candidates.
-/
namespace RevenueGuard

inductive EventSource where
  | razorpay | merchant | synthetic
deriving DecidableEq, Repr

inductive NormalizedFailureCategory where
  | none | insufficientFunds | expiredPaymentMethod | authenticationFailure | issuerUnavailable
  | gatewayUnavailable | customerActionRequired | dispute | unknown
deriving DecidableEq, Repr

def NormalizedFailureCategory.value : NormalizedFailureCategory → String
  | .none => "NONE"
  | .insufficientFunds => "INSUFFICIENT_FUNDS"
  | .expiredPaymentMethod => "EXPIRED_PAYMENT_METHOD"
  | .authenticationFailure => "AUTHENTICATION_FAILURE"
  | .issuerUnavailable => "ISSUER_UNAVAILABLE"
  | .gatewayUnavailable => "GATEWAY_UNAVAILABLE"
  | .customerActionRequired => "CUSTOMER_ACTION_REQUIRED"
  | .dispute => "DISPUTE"
  | .unknown => "UNKNOWN"

def NormalizedFailureCategory.identifier (category : NormalizedFailureCategory) : Identifier :=
  ⟨category.value, by cases category <;> decide⟩

/-- The merchant comes from the authenticated ingress, never from the payload. -/
structure RevenueRiskEvent where
  eventId : Identifier
  merchantId : Identifier
  source : EventSource
  sourceEventId : String
  eventType : Identifier
  occurredAt : Instant
  receivedAt : Instant
  amountMinor : Nat
  currency : Currency
  normalizedFailureCategory : NormalizedFailureCategory
  customerId : Option Identifier := none
  paymentId : Option Identifier := none
  orderId : Option Identifier := none
  subscriptionId : Option Identifier := none
  invoiceId : Option Identifier := none
  paymentLinkId : Option Identifier := none
  subject : (customerId.isSome || paymentId.isSome || subscriptionId.isSome || invoiceId.isSome
    || paymentLinkId.isSome) = true
deriving DecidableEq, Repr

structure EpisodeKey where
  merchantId : Identifier
  workflowType : WorkflowType
  subjectType : SubjectType
  episodeReference : Identifier
deriving DecidableEq, Repr

structure CaseIdentity where
  workflowType : WorkflowType
  subjectType : SubjectType
  subjectId : Identifier
  episodeKey : Option EpisodeKey
deriving DecidableEq, Repr

structure Diagnosis where
  code : Identifier
  confidenceBasisPoints : Nat
  candidates : List CandidateAction
  deferUntil : Option Instant := none
  terminal : Bool := false
  confidence_le : confidenceBasisPoints ≤ 10000
deriving Repr

def Diagnosis.parts (d : Diagnosis) : Identifier × Nat × List CandidateAction × Option Instant × Bool :=
  (d.code, d.confidenceBasisPoints, d.candidates, d.deferUntil, d.terminal)

theorem Diagnosis.parts_inj {a b : Diagnosis} : a.parts = b.parts ↔ a = b := by
  cases a
  cases b
  simp [Diagnosis.parts]

instance : DecidableEq Diagnosis := fun a b => decidable_of_iff (a.parts = b.parts) Diagnosis.parts_inj

def paymentDisputed : Identifier := ident "PAYMENT_DISPUTED"

/-- A merchant order, not the payment id, bounds one recovery opportunity. -/
def selectCaseIdentity (event : RevenueRiskEvent) : Option CaseIdentity :=
  let identity (workflow : WorkflowType) (subject : SubjectType) (subjectId : Identifier)
      (reference : Option Identifier) : CaseIdentity :=
    { workflowType := workflow, subjectType := subject, subjectId := subjectId
      episodeKey := reference.map fun r => ⟨event.merchantId, workflow, subject, r⟩ }
  match event.subscriptionId, event.invoiceId, event.paymentId with
  | some subscription, _, _ =>
    some (identity .failedSubscription .subscription subscription (event.paymentId.or event.subscriptionId))
  | none, some invoice, _ => some (identity .b2bPromiseToPay .invoice invoice event.invoiceId)
  | none, none, some payment =>
    some (identity .paymentDegradation .payment payment
      ((event.orderId.or event.paymentLinkId).or event.paymentId))
  | none, none, none => none

def eventTarget (event : RevenueRiskEvent) : Identifier :=
  ((((event.subscriptionId.or event.invoiceId).or event.paymentId).or event.customerId).getD event.eventId)

structure CandidateTemplate where
  actionType : ActionType
  probabilityBasisPoints : Nat
  expectedValueBasisPoints : Nat
  channel : Option ContactChannel := none
  probability_le : probabilityBasisPoints ≤ 10000 := by decide
  channel_iff : channel.isSome = true ↔ actionType.actionClass = .customerContact := by decide

def CandidateTemplate.candidate (t : CandidateTemplate) (event : RevenueRiskEvent) (rank : Nat) (pos : 1 ≤ rank) :
    CandidateAction :=
  { actionType := t.actionType
    recoveryProbabilityBasisPoints := t.probabilityBasisPoints
    expectedNetRecoveryMinor := event.amountMinor * t.expectedValueBasisPoints / 10000
    rank := rank
    target := eventTarget event
    channel := t.channel
    probability_le := t.probability_le, rank_pos := pos, attempt_pos := first_pos
    channel_iff := t.channel_iff }

structure DiagnosisEntry where
  code : Identifier
  confidenceBasisPoints : Nat
  templates : CandidateTemplate × CandidateTemplate
  deferSeconds : Nat
  confidence_le : confidenceBasisPoints ≤ 10000 := by decide

/-- The table of diagnosable failures. -/
def diagnosisEntry : NormalizedFailureCategory → Option DiagnosisEntry
  | .insufficientFunds => some
    { code := ident "TEMPORARY_INSUFFICIENT_FUNDS", confidenceBasisPoints := 9000
      templates := ({ actionType := .deferRetry, probabilityBasisPoints := 7200, expectedValueBasisPoints := 7000 },
        { actionType := .requestPaymentMethodUpdate, probabilityBasisPoints := 5200
          expectedValueBasisPoints := 4800, channel := some .email })
      deferSeconds := 86400 }
  | .expiredPaymentMethod => some
    { code := ident "EXPIRED_PAYMENT_METHOD", confidenceBasisPoints := 9700
      templates := ({ actionType := .requestPaymentMethodUpdate, probabilityBasisPoints := 8000
                      expectedValueBasisPoints := 7500, channel := some .email },
        { actionType := .createPaymentLink, probabilityBasisPoints := 6200, expectedValueBasisPoints := 5500 })
      deferSeconds := 0 }
  | .authenticationFailure => some
    { code := ident "PAYMENT_AUTHENTICATION_REQUIRED", confidenceBasisPoints := 9300
      templates := ({ actionType := .requestPaymentMethodUpdate, probabilityBasisPoints := 7200
                      expectedValueBasisPoints := 6500, channel := some .email },
        { actionType := .createPaymentLink, probabilityBasisPoints := 6100, expectedValueBasisPoints := 5300 })
      deferSeconds := 0 }
  | .customerActionRequired => some
    { code := ident "CUSTOMER_ACTION_REQUIRED", confidenceBasisPoints := 9400
      templates := ({ actionType := .requestPaymentMethodUpdate, probabilityBasisPoints := 7600
                      expectedValueBasisPoints := 6800, channel := some .email },
        { actionType := .sendReminder, probabilityBasisPoints := 5600, expectedValueBasisPoints := 4500
          channel := some .email })
      deferSeconds := 0 }
  | .issuerUnavailable => some
    { code := ident "ISSUER_TEMPORARILY_UNAVAILABLE", confidenceBasisPoints := 8800
      templates := ({ actionType := .deferRetry, probabilityBasisPoints := 7800, expectedValueBasisPoints := 7300 },
        { actionType := .pauseRetries, probabilityBasisPoints := 1000, expectedValueBasisPoints := 0 })
      deferSeconds := 3600 }
  | .gatewayUnavailable => some
    { code := ident "GATEWAY_TEMPORARILY_UNAVAILABLE", confidenceBasisPoints := 9000
      templates := ({ actionType := .pauseRetries, probabilityBasisPoints := 1000, expectedValueBasisPoints := 0 },
        { actionType := .deferRetry, probabilityBasisPoints := 7600, expectedValueBasisPoints := 7100 })
      deferSeconds := 1800 }
  | .unknown => some
    { code := ident "UNKNOWN_PAYMENT_FAILURE", confidenceBasisPoints := 3000
      templates := ({ actionType := .deferRetry, probabilityBasisPoints := 3000, expectedValueBasisPoints := 0 },
        { actionType := .escalateHuman, probabilityBasisPoints := 1000, expectedValueBasisPoints := 0 })
      deferSeconds := 900 }
  | .none => none
  | .dispute => none

def eventNoAction (event : RevenueRiskEvent) (rank : Nat) (pos : 1 ≤ rank) : CandidateAction :=
  noActionCandidate (eventTarget event) rank pos

def overdueDiagnosis (event : RevenueRiskEvent) (invoice : Identifier) : Diagnosis :=
  { code := ident "INVOICE_OVERDUE"
    confidenceBasisPoints := 10000
    candidates := [
      { actionType := .sendReminder, recoveryProbabilityBasisPoints := 6500
        expectedNetRecoveryMinor := event.amountMinor * 6000 / 10000, rank := 1, target := invoice
        channel := some .email
        probability_le := by decide, rank_pos := first_pos, attempt_pos := first_pos
        channel_iff := by decide },
      { actionType := .escalateHuman, recoveryProbabilityBasisPoints := 1000
        expectedNetRecoveryMinor := 0, rank := 2, target := invoice
        probability_le := by decide, rank_pos := second_pos, attempt_pos := first_pos
        channel_iff := by decide },
      eventNoAction event 3 third_pos]
    confidence_le := by decide }

def disputeDiagnosis (event : RevenueRiskEvent) : Diagnosis :=
  { code := paymentDisputed
    confidenceBasisPoints := 10000
    candidates := [stopCandidate (eventTarget event), eventNoAction event 2 second_pos]
    terminal := true
    confidence_le := by decide }

def DiagnosisEntry.diagnosis (entry : DiagnosisEntry) (event : RevenueRiskEvent) : Diagnosis :=
  { code := entry.code
    confidenceBasisPoints := entry.confidenceBasisPoints
    candidates := [entry.templates.1.candidate event 1 first_pos,
      entry.templates.2.candidate event 2 second_pos, eventNoAction event 3 third_pos]
    deferUntil := if entry.deferSeconds = 0 then none else some (event.occurredAt + seconds entry.deferSeconds)
    confidence_le := entry.confidence_le }

def diagnoseEvent (event : RevenueRiskEvent) : Option Diagnosis :=
  match (if event.eventType.val = "invoice.overdue" then event.invoiceId else none) with
  | some invoice => some (overdueDiagnosis event invoice)
  | none => match event.normalizedFailureCategory with
    | .none => none
    | .dispute => some (disputeDiagnosis event)
    | category => (diagnosisEntry category).map fun entry => entry.diagnosis event

theorem diagnosed_candidate_types {event : RevenueRiskEvent} {d : Diagnosis} (h : diagnoseEvent event = some d)
    (calm : d.code ≠ paymentDisputed) : ∀ c ∈ d.candidates, c.actionType ≠ .stopAutomation := by
  unfold diagnoseEvent at h
  split at h
  · cases h
    intro c hc
    simp only [overdueDiagnosis, List.mem_cons, List.not_mem_nil, or_false] at hc
    rcases hc with rfl | rfl | rfl <;> simp [eventNoAction, noActionCandidate]
  · split at h
    · cases h
    · cases h; exact absurd rfl calm
    · obtain ⟨entry, found, rfl⟩ := Option.map_eq_some_iff.mp h
      intro c hc
      simp only [DiagnosisEntry.diagnosis, List.mem_cons, List.not_mem_nil, or_false] at hc
      revert found
      generalize event.normalizedFailureCategory = category
      intro found
      cases category <;> simp only [diagnosisEntry, Option.some.injEq, reduceCtorEq] at found <;> subst found <;>
        rcases hc with rfl | rfl | rfl <;> simp [CandidateTemplate.candidate, eventNoAction, noActionCandidate]

end RevenueGuard
