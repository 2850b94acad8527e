import RevenueGuard.Domain.Playbooks

/-
Bounded extraction of a customer's reply: what the model's provider answered is
checked field by field, and every way it can go wrong ends in the fallback.
-/
namespace RevenueGuard

/-- A value of the provider's payload, as far as the checks tell values apart. -/
inductive ModelValue where
  | text (s : String)
  | integer (n : Int)
  | boolean (b : Bool)
  | other
deriving DecidableEq, Repr

/-- A mapping; keys that are no strings are only ever unexpected. -/
structure ModelPayload where
  entries : List (String × ModelValue)
  otherKeys : Bool := false
deriving DecidableEq, Repr

/-- What became of a call to the provider: an `Exception` or the timeout, a cancellation of the task, which is none, or an
object with the model's version. -/
inductive ProviderAnswer where
  | raised
  | cancelled
  | answered (payload : Option ModelPayload) (modelVersion : ModelValue)
deriving DecidableEq, Repr

def ModelPayload.get (payload : ModelPayload) (field : String) : ModelValue :=
  ((payload.entries.find? fun e => e.1 == field).map (·.2)).getD .other

def allowedFields : List String := ["intent", "confidence_basis_points", "promised_date", "amount_minor", "currency"]

def PromiseIntent.value : PromiseIntent → String
  | .promiseToPay => "PROMISE_TO_PAY"
  | .dispute => "DISPUTE"
  | .alreadyPaid => "ALREADY_PAID"
  | .needsHelp => "NEEDS_HELP"
  | .unknown => "UNKNOWN"

/-- `PromiseIntent(value)`. -/
def promiseIntent (value : String) : Except String PromiseIntent :=
  match [PromiseIntent.promiseToPay, .dispute, .alreadyPaid, .needsHelp, .unknown].find? fun i => i.value == value with
  | some intent => .ok intent
  | none => .error (value ++ " is not a valid PromiseIntent")

def requiredString (payload : ModelPayload) (field : String) : Except String String :=
  match payload.get field with
  | .text s => if s = "" then .error (field ++ " must be a non-empty string") else .ok s
  | _ => .error (field ++ " must be a non-empty string")

def requiredInteger (payload : ModelPayload) (field : String) : Except String Int :=
  match payload.get field with
  | .integer n => .ok n
  | _ => .error (field ++ " must be an integer")

/-- `PromiseExtraction.__post_init__` on the confidence and the model's version. -/
def checkExtraction (confidence : Int) (modelVersion : ModelValue) : Except String BasisPoints :=
  if h : 0 ≤ confidence ∧ confidence ≤ 10000 then
    match modelVersion with
    | .text version =>
      if version = "" ∨ 128 < version.length then .error "extractor_version must contain between 1 and 128 characters"
      else .ok ⟨confidence.toNat, by omega⟩
    | _ => .error "extractor_version must be a string"
  else .error "confidence_basis_points must be between 0 and 10000"

/-- `PromiseExtraction.__post_init__` on the terms of a promise. -/
def checkTerms (promisedDate amountMinor : Int) (currency : String) : Except String PromiseTerms :=
  if amount : amountMinor ≤ 0 then .error "promised amount must be positive"
  else if pattern : currency.toList.length = 3 ∧ currency.toList.all (fun c => 'A' ≤ c ∧ c ≤ 'Z') = true then
    .ok ⟨promisedDate, amountMinor.toNat, ⟨currency, by simpa using pattern⟩, by omega⟩
  else .error "currency must be a three-letter uppercase ISO code"

/-- `_validated_extraction`; `fromisoformat` reads a date as its day number. -/
def validatedExtraction (fromisoformat : String → Option Int) (payload : Option ModelPayload) (modelVersion : ModelValue) :
    Except String PromiseExtraction :=
  match payload with
  | none => .error "model output must be a mapping"
  | some payload =>
    if payload.otherKeys = true ∨ ∃ e ∈ payload.entries, e.1 ∉ allowedFields then
      .error "model output contains unexpected fields"
    else do
      let name ← requiredString payload "intent"
      let intent ← promiseIntent name
      let confidence ← requiredInteger payload "confidence_basis_points"
      if promise : intent = .promiseToPay then do
        let date ← requiredString payload "promised_date"
        match fromisoformat date with
        | none => .error ("Invalid isoformat string: " ++ date)
        | some day => do
          let amount ← requiredInteger payload "amount_minor"
          let currency ← requiredString payload "currency"
          let checked ← checkExtraction confidence modelVersion
          let terms ← checkTerms day amount currency
          pure { intent := intent, confidenceBasisPoints := checked, terms := some terms, terms_iff := by simp [promise] }
      else do
        let checked ← checkExtraction confidence modelVersion
        pure { intent := intent, confidenceBasisPoints := checked, terms_iff := by simp [promise] }

/-- The reply that a provider's answer is, if it is one. -/
def providerReply (fromisoformat : String → Option Int) : Option ProviderAnswer → Option PromiseExtraction
  | none | some .raised | some .cancelled => none
  | some (.answered payload modelVersion) => (validatedExtraction fromisoformat payload modelVersion).toOption

/-- `BoundedPromiseExtractor.extract`, with the provider's answer to the text it was sent. -/
def boundedExtract (fromisoformat : String → Option Int) (answer : Option ProviderAnswer) (text : String) :
    Except Failure PromiseExtraction :=
  if text.toList.all stripped then .error (.value "customer response text is required")
  else if 2000 < text.length then .ok fallbackExtraction
  else match answer with
    | none => .ok fallbackExtraction
    | some .raised => .ok fallbackExtraction
    | some .cancelled => .error .cancelled
    | some (.answered payload modelVersion) =>
      match validatedExtraction fromisoformat payload modelVersion with
      | .ok extraction => .ok extraction
      | .error _ => .ok fallbackExtraction

/-- The call is made, and the task is cancelled while it waits. -/
def Cancelled (answer : Option ProviderAnswer) (text : String) : Prop :=
  answer = some .cancelled ∧ text.toList.all stripped = false ∧ text.length ≤ 2000

theorem boundedExtract_eq (fromisoformat : String → Option Int) {answer : Option ProviderAnswer} {text : String}
    (finished : ¬ Cancelled answer text) :
    boundedExtract fromisoformat answer text = extractPromise (providerReply fromisoformat answer) text := by
  unfold boundedExtract extractPromise
  by_cases blank : text.toList.all stripped = true
  · rw [if_pos blank, if_pos blank]
  rw [if_neg blank, if_neg blank]
  by_cases long : 2000 < text.length
  · rw [if_pos long, if_pos long]
  rw [if_neg long, if_neg long]
  cases answer with
  | none => rfl
  | some answer =>
    cases answer with
    | raised => rfl
    | cancelled => exact (finished ⟨rfl, Bool.eq_false_iff.mpr blank, not_lt.mp long⟩).elim
    | answered payload modelVersion =>
      unfold providerReply
      dsimp only
      cases validatedExtraction fromisoformat payload modelVersion with
      | ok extraction => rfl
      | error e => rfl

theorem boundedExtract_cancelled (fromisoformat : String → Option Int) {answer : Option ProviderAnswer} {text : String}
    (cancelled : Cancelled answer text) : boundedExtract fromisoformat answer text = .error .cancelled := by
  obtain ⟨rfl, written, short⟩ := cancelled
  unfold boundedExtract
  rw [if_neg (by rw [written]; decide), if_neg (not_lt.mpr short)]

end RevenueGuard
