import RevenueGuard.Services.Normalization
import RevenueGuard.Protocol.Effects
import RevenueGuard.Safety.Dispatches

/-
Which bodies the normalizer classifies. The document's checks and the event's contract
disagree on the length of names and on the need of a subject, and the worker takes what
falls between them for a transient failure.
-/
namespace RevenueGuard

section documents

variable {entity : Option Mapping} {document payload : Mapping} {field name : String}

def jsonText : Json → Option String
  | .str s => some s
  | _ => none

/-- The text of an entity's field, if it is one. -/
def fieldText (entity : Option Mapping) (field : String) : Option String :=
  entity.bind fun m => jsonText (m.get field)

def Mapping.entityOf (payload : Mapping) (name : String) : Option Mapping :=
  match payload.get name with
  | .obj wrapper =>
    match Mapping.get wrapper "entity" with
    | .obj entity => some entity
    | _ => none
  | _ => none

/-- The object at `payload.<name>.entity`. -/
def Mapping.entityAt (document : Mapping) (name : String) : Option Mapping :=
  match document.get "payload" with
  | .obj payload => Mapping.entityOf payload name
  | _ => none

def Mapping.textAt (document : Mapping) (name field : String) : Option String :=
  fieldText (document.entityAt name) field

def Mapping.customer (document : Mapping) : Option String :=
  (document.textAt "payment" "customer_id").or
    ((document.textAt "subscription" "customer_id").or (document.textAt "payment_link" "customer_id"))

/-- The names of the document that say whom or what it is about. -/
def Mapping.subjects (document : Mapping) : List (Option String) :=
  [document.customer, document.textAt "payment" "id", document.textAt "subscription" "id",
    document.textAt "payment" "invoice_id", document.textAt "payment_link" "id"]

def Mapping.failureCode (document : Mapping) : Option String :=
  match document.get "event" with
  | .str event =>
    if event ∈ failureEvents then (document.textAt "payment" "error_code").or (document.textAt "payment" "error_reason")
    else none
  | _ => none

/-- A subject is named, and no name or failure code is longer than the contract allows. -/
structure Mapping.Fits (document : Mapping) : Prop where
  subject : document.subjects.any Option.isSome = true
  short : ∀ value ∈ document.subjects ++ [document.textAt "payment" "order_id", document.failureCode],
    ∀ s ∈ value, s.length ≤ 128

theorem entityIdentifier_ok {value : Option String} (h : entityIdentifier entity field = .ok value) :
    value = fieldText entity field ∧ ∀ s ∈ value, s ≠ "" := by
  unfold entityIdentifier at h
  unfold fieldText
  cases entity with
  | none => cases h; exact ⟨rfl, by simp⟩
  | some m =>
    rw [Option.bind_some]
    dsimp only at h
    generalize m.get field = json at h ⊢
    cases json with
    | null => cases h; exact ⟨rfl, by simp⟩
    | str s =>
      dsimp only at h
      split at h
      · cases h
      · rename_i nonempty
        cases h
        exact ⟨rfl, by simpa using nonempty⟩
    | bool _ => cases h
    | int _ => cases h
    | float _ => cases h
    | arr _ => cases h
    | obj _ => cases h

theorem firstIdentifier_ok {entities : List (Option Mapping)} {value : Option String}
    (h : firstIdentifier field entities = .ok value) :
    value = entities.foldr (fun e rest => (fieldText e field).or rest) none ∧ ∀ s ∈ value, s ≠ "" := by
  induction entities with
  | nil => cases h; exact ⟨rfl, by simp⟩
  | cons e rest ih =>
    obtain ⟨found, read, h⟩ := except_bind_ok h
    obtain ⟨text, nonempty⟩ := entityIdentifier_ok read
    rw [List.foldr_cons, ← text]
    cases found with
    | none => exact ih h
    | some s =>
      cases h
      exact ⟨rfl, nonempty⟩

theorem optionalEntity_ok {allow : Bool} (h : payload.optionalEntity name allow = .ok entity) :
    entity = payload.entityOf name := by
  unfold Mapping.optionalEntity at h
  cases found : payload.get name with
  | null =>
    rw [found] at h
    cases h
    rw [Mapping.entityOf, found]
  | obj wrapper =>
    rw [found] at h
    dsimp only at h
    cases inner : Mapping.get wrapper "entity" with
    | obj m =>
      rw [inner] at h
      dsimp only at h
      split at h
      · cases h
        rw [Mapping.entityOf, found]
        dsimp only
        rw [inner]
      · cases h
    | _ =>
      rw [inner] at h
      cases h
  | _ =>
    rw [found] at h
    cases h

theorem failureDetails_ok {event : String} {payment : Option Mapping} {found : Option String × NormalizedFailureCategory}
    (h : failureDetails event payment = .ok found) :
    found.1 = (if event ∈ failureEvents then (fieldText payment "error_code").or (fieldText payment "error_reason") else none) ∧
      ∀ s ∈ found.1, s ≠ "" := by
  unfold failureDetails at h
  split at h
  · rename_i other
    cases h
    exact ⟨by rw [if_neg other], by simp⟩
  · rename_i failed
    rw [if_pos (not_not.mp failed)]
    split at h
    · rename_i absent
      cases h
      rw [Option.isNone_iff_eq_none.mp absent]
      exact ⟨rfl, by simp⟩
    · obtain ⟨code, readCode, h⟩ := except_bind_ok h
      obtain ⟨reason, readReason, h⟩ := except_bind_ok h
      obtain ⟨_, -, h⟩ := except_bind_ok h
      cases h
      obtain ⟨rfl, codeText⟩ := entityIdentifier_ok readCode
      obtain ⟨rfl, reasonText⟩ := entityIdentifier_ok readReason
      refine ⟨rfl, fun s chosen => ?_⟩
      rcases Option.or_eq_some_iff.mp chosen with found | ⟨-, found⟩
      · exact codeText s found
      · exact reasonText s found

theorem requiredString_text {value : String} (h : document.requiredString field = .ok value) :
    document.get field = .str value ∧ value ≠ "" := by
  unfold Mapping.requiredString at h
  split at h
  · rename_i found
    split at h
    · cases h
    · rename_i nonempty
      cases h
      exact ⟨found, nonempty⟩
  · cases h

theorem requiredMapping_ok (h : document.requiredMapping field = .ok payload) : document.get field = .obj payload := by
  unfold Mapping.requiredMapping at h
  split at h
  · rename_i found
    cases h
    exact found
  · cases h

theorem requiredNonnegativeInteger_ok {value : Int} (h : document.requiredNonnegativeInteger field = .ok value) :
    0 ≤ value := by
  unfold Mapping.requiredNonnegativeInteger at h
  split at h
  · split at h
    · cases h
    · cases h
      omega
  · cases h

/-- `isascii`, `isalpha` and `isupper` of three characters say what the contract's pattern says. -/
theorem uppercase_of_letters {value : String} (length : value.length = 3) (letters : isAlpha value = true)
    (upper : isUpper value = true) : uppercaseCode value = true := by
  refine uppercaseCode_iff.mpr ⟨String.length_toList.trans length, fun c hc => ?_⟩
  have letter : c.isAlpha = true := by
    simp only [isAlpha, Bool.and_eq_true, List.all_eq_true] at letters
    exact letters.2 c hc
  have notLower : c.isLower = false := by
    simp only [isUpper, Bool.and_eq_true, List.all_eq_true] at upper
    simpa using upper.2 c hc
  have capital : c.isUpper = true := by
    change (c.isUpper || c.isLower) = true at letter
    rwa [notLower, Bool.or_false] at letter
  have range : decide (65 ≤ c.val ∧ c.val ≤ 90) = true := capital
  exact decide_eq_true_eq.mp range

theorem requiredCurrency_ok {value : String} (h : document.requiredCurrency = .ok value) : uppercaseCode value = true := by
  obtain ⟨code, -, h⟩ := except_bind_ok h
  obtain ⟨_, checked, h⟩ := except_bind_ok h
  cases h
  have shape := demand_ok_iff.mp checked
  simp only [not_or, not_not, Bool.not_eq_false] at shape
  exact uppercase_of_letters shape.1 shape.2.2.1 shape.2.2.2

theorem supported_limit : ∀ event ∈ supportedEventTypes, event ≠ "" ∧ event.length ≤ 128 := by
  decide

end documents

section contract

variable {limit : Nat} {context : EventContext} {document : Mapping} {f : EventFields} {body : ByteArray}

/-- What the fields of a document that passes its checks are. -/
structure Drawn (document : Mapping) (f : EventFields) : Prop where
  version : f.schemaVersion = "1.0"
  required : ∀ l ∈ f.requiredLimits, l.Met
  amount : 0 ≤ f.amountMinor
  currency : uppercaseCode f.currency = true
  subjects : f.subjects = document.subjects
  order : f.orderId = document.textAt "payment" "order_id"
  failure : f.failureCode = document.failureCode
  nonempty : ∀ value ∈ f.subjects ++ [f.orderId, f.failureCode], ∀ s ∈ value, s ≠ ""
  causation : ∀ s ∈ f.causationId, s ≠ "" ∧ s.length ≤ 128

theorem eventFields_drawn (h : eventFields context document = .ok f) : Drawn document f := by
  obtain ⟨event, readEvent, h⟩ := except_bind_ok h
  obtain ⟨_, supported, h⟩ := except_bind_ok h
  obtain ⟨_, -, h⟩ := except_bind_ok h
  obtain ⟨_, -, h⟩ := except_bind_ok h
  obtain ⟨payload, readPayload, h⟩ := except_bind_ok h
  obtain ⟨payment, readPayment, h⟩ := except_bind_ok h
  obtain ⟨subscription, readSubscription, h⟩ := except_bind_ok h
  obtain ⟨link, readLink, h⟩ := except_bind_ok h
  obtain ⟨_, -, h⟩ := except_bind_ok h
  obtain ⟨_, -, h⟩ := except_bind_ok h
  obtain ⟨_, -, h⟩ := except_bind_ok h
  split at h
  · cases h
  · rename_i financial _
    obtain ⟨amount, readAmount, h⟩ := except_bind_ok h
    obtain ⟨currency, readCurrency, h⟩ := except_bind_ok h
    obtain ⟨failure, readFailure, h⟩ := except_bind_ok h
    obtain ⟨_, -, h⟩ := except_bind_ok h
    obtain ⟨customer, readCustomer, h⟩ := except_bind_ok h
    obtain ⟨paymentId, readId, h⟩ := except_bind_ok h
    obtain ⟨order, readOrder, h⟩ := except_bind_ok h
    obtain ⟨subscriptionId, readSubscriptionId, h⟩ := except_bind_ok h
    obtain ⟨invoice, readInvoice, h⟩ := except_bind_ok h
    obtain ⟨linkId, readLinkId, h⟩ := except_bind_ok h
    cases h
    have payloadAt := requiredMapping_ok readPayload
    have paymentAt : payment = document.entityAt "payment" := by
      rw [Mapping.entityAt, payloadAt, optionalEntity_ok readPayment]
    have subscriptionAt : subscription = document.entityAt "subscription" := by
      rw [Mapping.entityAt, payloadAt, optionalEntity_ok readSubscription]
    have linkAt : link = document.entityAt "payment_link" := by
      rw [Mapping.entityAt, payloadAt, optionalEntity_ok readLink]
    obtain ⟨customerText, customerNonempty⟩ := firstIdentifier_ok readCustomer
    obtain ⟨idText, idNonempty⟩ := entityIdentifier_ok readId
    obtain ⟨orderText, orderNonempty⟩ := entityIdentifier_ok readOrder
    obtain ⟨subscriptionText, subscriptionNonempty⟩ := entityIdentifier_ok readSubscriptionId
    obtain ⟨invoiceText, invoiceNonempty⟩ := entityIdentifier_ok readInvoice
    obtain ⟨linkText, linkNonempty⟩ := entityIdentifier_ok readLinkId
    obtain ⟨failureText, failureNonempty⟩ := failureDetails_ok readFailure
    have eventLimit := supported_limit event (demand_ok_iff.mp supported)
    constructor
    · rfl
    · simp only [EventFields.requiredLimits, List.forall_mem_cons, FieldLimit.Met]
      exact ⟨context.eventId.2, context.merchantId.2, context.providerEventId.2, eventLimit, context.correlationId.2,
        context.sourcePayloadReference.2, by simp⟩
    · exact requiredNonnegativeInteger_ok readAmount
    · exact requiredCurrency_ok readCurrency
    · subst paymentAt subscriptionAt linkAt
      simp only [EventFields.subjects, Mapping.subjects, customerText, idText, subscriptionText, invoiceText, linkText]
      simp only [Mapping.customer, Mapping.textAt, List.foldr_cons, List.foldr_nil, Option.or_none]
    · subst paymentAt
      exact orderText
    · subst paymentAt
      dsimp only
      rw [failureText, Mapping.failureCode, (requiredString_text readEvent).1]
      rfl
    · simp only [EventFields.subjects, List.cons_append, List.nil_append, List.forall_mem_cons]
      exact ⟨customerNonempty, idNonempty, subscriptionNonempty, invoiceNonempty, linkNonempty, orderNonempty,
        failureNonempty, by simp⟩
    · intro s given
      obtain ⟨cause, -, rfl⟩ := Option.map_eq_some_iff.mp given
      exact cause.2

theorem contract_of_fits (drawn : Drawn document f) (fits : document.Fits) : f.Contract := by
  have short : ∀ value ∈ f.subjects ++ [f.orderId, f.failureCode], ∀ s ∈ value, s ≠ "" ∧ s.length ≤ 128 := by
    intro value listed s given
    refine ⟨drawn.nonempty value listed s given, fits.short value ?_ s given⟩
    rw [← drawn.subjects, ← drawn.order, ← drawn.failure]
    exact listed
  refine ⟨drawn.version, drawn.required, ?_, drawn.subjects ▸ fits.subject, drawn.amount, drawn.currency⟩
  intro l listed
  simp only [EventFields.subjects, List.cons_append, List.nil_append, List.forall_mem_cons] at short
  simp only [given, EventFields.optionalLimits, List.mem_filterMap, List.mem_cons, List.not_mem_nil, or_false] at listed
  obtain ⟨entry, place, there⟩ := listed
  obtain ⟨value, present, rfl⟩ := Option.map_eq_some_iff.mp there
  rcases place with rfl | rfl | rfl | rfl | rfl | rfl | rfl | rfl
  · exact short.1 value present
  · exact short.2.1 value present
  · exact short.2.2.2.2.2.1 value present
  · exact short.2.2.1 value present
  · exact short.2.2.2.1 value present
  · exact short.2.2.2.2.1 value present
  · exact short.2.2.2.2.2.2.1 value present
  · exact drawn.causation value present

theorem fits_of_contract (drawn : Drawn document f) (contract : f.Contract) : document.Fits := by
  refine ⟨drawn.subjects ▸ contract.subject, ?_⟩
  rw [← drawn.subjects, ← drawn.order, ← drawn.failure]
  intro value listed s present
  simp only [EventFields.subjects, List.cons_append, List.nil_append, List.mem_cons, List.not_mem_nil, or_false] at listed
  rcases listed with rfl | rfl | rfl | rfl | rfl | rfl | rfl
  · exact (contract.given "customer_id" (by simp [EventFields.optionalLimits]) s present).2
  · exact (contract.given "payment_id" (by simp [EventFields.optionalLimits]) s present).2
  · exact (contract.given "subscription_id" (by simp [EventFields.optionalLimits]) s present).2
  · exact (contract.given "invoice_id" (by simp [EventFields.optionalLimits]) s present).2
  · exact (contract.given "payment_link_id" (by simp [EventFields.optionalLimits]) s present).2
  · exact (contract.given "order_id" (by simp [EventFields.optionalLimits]) s present).2
  · exact (contract.given "failure_code" (by simp [EventFields.optionalLimits]) s present).2

end contract

section classification

variable {limit : Nat} {context : EventContext} {body : ByteArray} {error : NormalizationError}

/-- Normalization returns an event or raises a `RazorpayEventError`. -/
def Classified (limit : Nat) (context : EventContext) (body : ByteArray) : Prop :=
  ∀ error, normalizeRazorpayEvent limit context body = .error error → ∃ e, error = .razorpay e

/-- Whatever the dispatch of a body that cannot be normalized has been through, its failure is its last. -/
def DeadLettered (limit : Nat) (context : EventContext) (body : ByteArray) : Prop :=
  ∀ error, normalizeRazorpayEvent limit context body = .error error →
    ∀ (printable : Char → Bool) (now : Instant) (s : Inbox) (d : DispatchRow),
      Table.lookup DispatchRow.id d.id s.dispatches = some d →
        ∃ t row, (reportFailure printable d.id error now).run s = .ok (.deadLetter, t) ∧
          Table.lookup DispatchRow.id d.id t.dispatches = some row ∧ row.state = .deadLetter

/-- The JSON reader takes the body or says that it is no JSON. -/
def Readable (limit : Nat) (body : ByteArray) : Prop :=
  ∀ decoded, String.fromUTF8? body = some decoded →
    JsonReader.loads limit decoded.toList ≠ .error .digits ∧ JsonReader.loads limit decoded.toList ≠ .error .depth

/-- The body is readable, and a document that passes the normalizer's checks fits the contract. -/
structure BodyFits (limit : Nat) (context : EventContext) (body : ByteArray) : Prop where
  readable : Readable limit body
  fits : ∀ document, parseDocument limit body = .ok document →
    (∃ fields, eventFields context document = .ok fields) → document.Fits

/-- No long number and no deep nesting make a body readable. -/
theorem readable_of_short
    (short : ∀ decoded, String.fromUTF8? body = some decoded → decoded.toList.countP JsonReader.opens ≤ limit ∧
      ∀ digits, digits <:+: decoded.toList → Numerals.Digits digits → digits.length ≤ JsonReader.maxStrDigits) :
    Readable limit body := by
  intro decoded text
  obtain ⟨brackets, numbers⟩ := short decoded text
  constructor
  · intro failed
    obtain ⟨digits, infixed, long, digitsOnly⟩ := JsonReader.loads_digits failed
    exact absurd (numbers digits infixed digitsOnly) (Nat.not_le.mpr long)
  · intro failed
    exact absurd brackets (Nat.not_le.mpr (JsonReader.loads_depth failed))

theorem parseDocument_error (h : parseDocument limit body = .error error) :
    (∃ e, error = .razorpay e) ∨ ¬ Readable limit body := by
  unfold parseDocument at h
  split at h
  · cases h
    exact .inl ⟨_, rfl⟩
  · rename_i decoded text
    split at h
    · cases h
      exact .inl ⟨_, rfl⟩
    · rename_i failed
      exact .inr fun readable => (readable decoded text).1 failed
    · rename_i failed
      exact .inr fun readable => (readable decoded text).2 failed
    · cases h
    · cases h
      exact .inl ⟨_, rfl⟩

theorem readable_of_classified (classified : Classified limit context body) : Readable limit body := by
  intro decoded text
  constructor
  · intro failed
    obtain ⟨e, wrong⟩ := classified .digits (by simp [normalizeRazorpayEvent, parseDocument, text, failed]; rfl)
    cases wrong
  · intro failed
    obtain ⟨e, wrong⟩ := classified .depth (by simp [normalizeRazorpayEvent, parseDocument, text, failed]; rfl)
    cases wrong

theorem fits_of_classified (classified : Classified limit context body) {document : Mapping} {fields : EventFields}
    (parsed : parseDocument limit body = .ok document) (read : eventFields context document = .ok fields) :
    document.Fits := by
  refine fits_of_contract (eventFields_drawn read) (EventFields.checks_ok_iff.mp ?_)
  cases checked : fields.checks with
  | ok u => rfl
  | error message =>
    have refused : revenueRiskEvent fields = .error message := by
      unfold revenueRiskEvent
      split
      · rename_i passed
        rw [passed] at checked
        cases checked
      · rename_i failed
        rw [failed] at checked
        cases checked
        rfl
    obtain ⟨e, wrong⟩ := classified (.contract message) (by
      simp [normalizeRazorpayEvent, parsed, read, refused, Except.mapError, bind, Except.bind])
    cases wrong

theorem classified_of_fits (fits : BodyFits limit context body) : Classified limit context body := by
  intro error h
  unfold normalizeRazorpayEvent at h
  cases parsed : parseDocument limit body with
  | error e =>
    rw [parsed] at h
    cases h
    exact (parseDocument_error parsed).resolve_right (not_not.mpr fits.readable)
  | ok document =>
    rw [parsed] at h
    cases read : eventFields context document with
    | error e =>
      simp only [read, bind, Except.bind, Except.mapError] at h
      cases h
      exact ⟨e, rfl⟩
    | ok fields =>
      have contract := contract_of_fits (eventFields_drawn read) (fits.fits document parsed ⟨fields, read⟩)
      have built : revenueRiskEvent fields = .ok ⟨fields, contract⟩ := by
        unfold revenueRiskEvent
        split
        · rfl
        · rename_i failed
          rw [EventFields.checks_ok_iff.mpr contract] at failed
          cases failed
      simp only [read, built, bind, Except.bind, Except.mapError] at h
      cases h

/-- A terminal report leaves the dispatch dead. -/
theorem terminal_deadLetters {s : Inbox} {d : DispatchRow} {code detail : String} {now : Instant}
    (found : Table.lookup DispatchRow.id d.id s.dispatches = some d) :
    ∃ t row, (recordProcessingFailure d.id code detail true now).run s = .ok (.deadLetter, t) ∧
      Table.lookup DispatchRow.id d.id t.dispatches = some row ∧ row.state = .deadLetter := by
  have dead : ((d.spend true).fail (processingFailure now code detail d)).state = .deadLetter := by
    simp [DispatchRow.spend, DispatchRow.fail]
  have same : ((d.spend true).fail (processingFailure now code detail d)).id = d.id := by
    simp [DispatchRow.spend, DispatchRow.fail]
  have stored : Table.lookup DispatchRow.id d.id
      (failDispatch (processingFailure now code detail d) (d.spend true) s).dispatches =
        some ((d.spend true).fail (processingFailure now code detail d)) := by
    refine (Table.lookup_update_self (fun _ _ => same) s.dispatches).trans ?_
    rw [found]
    rfl
  exact ⟨_, _, dead ▸ recordProcessingFailure_run found, stored, dead⟩

theorem deadLettered_of_classified (classified : Classified limit context body) : DeadLettered limit context body := by
  intro error raised printable now s d found
  obtain ⟨e, rfl⟩ := classified error raised
  exact terminal_deadLetters found

/-- Exactly when a body is classified, and its dispatch dead-lettered at once if it is not normalized. -/
theorem normalization_classifies (limit : Nat) (context : EventContext) (body : ByteArray) :
    (Classified limit context body ∧ DeadLettered limit context body) ↔ BodyFits limit context body := by
  constructor
  · rintro ⟨classified, -⟩
    exact ⟨readable_of_classified classified, fun _ parsed ⟨_, read⟩ => fits_of_classified classified parsed read⟩
  · intro fits
    have classified := classified_of_fits fits
    exact ⟨classified, deadLettered_of_classified classified⟩

/-- A verified delivery of the provider. -/
def providerDelivery : EventContext :=
  { merchantId := ident "acme", providerEventId := ⟨"event-1", by decide⟩, eventId := ident "evt_webhook-1", receivedAt := 0
    correlationId := ident "correlation-1", sourcePayloadReference := ⟨"webhook_events/event-1", by decide⟩ }

/-- A failed payment without an id; braces are written by their codes. -/
def namelessPayment : String :=
  "\x7b\"entity\":\"event\",\"event\":\"payment.failed\",\"created_at\":1,\"payload\":\x7b\"payment\":\x7b\"entity\":" ++
    "\x7b\"entity\":\"payment\",\"amount\":500,\"currency\":\"INR\"\x7d\x7d\x7d\x7d"

theorem fromUTF8?_toUTF8 (text : String) : String.fromUTF8? text.toUTF8 = some text := by
  unfold String.fromUTF8?
  rw [String.toUTF8_eq_toByteArray, dif_pos text.isValidUTF8]
  rfl

theorem nameless_payment_refused :
    (normalizeRazorpayEvent 100 providerDelivery namelessPayment.toUTF8).map (fun e => e.1) =
      .error (.contract "a RevenueRiskEvent requires at least one subject reference") := by
  unfold normalizeRazorpayEvent parseDocument
  rw [fromUTF8?_toUTF8]
  decide +kernel

theorem nameless_payment_retried :
    ¬ (Classified 100 providerDelivery namelessPayment.toUTF8 ∧ DeadLettered 100 providerDelivery namelessPayment.toUTF8) ∧
      ((reportFailure (fun _ => true) (ident "dispatch-1")
        (.contract "a RevenueRiskEvent requires at least one subject reference") (seconds 13)).run
        (InboxCommand.execAll [delivered 5, claimAt 10 "lease-1"] {})).toOption.map Prod.fst = some .retryScheduled := by
  refine ⟨?_, by decide +kernel⟩
  rintro ⟨classified, -⟩
  have refused := nameless_payment_refused
  cases raised : normalizeRazorpayEvent 100 providerDelivery namelessPayment.toUTF8 with
  | ok event =>
    rw [raised] at refused
    cases refused
  | error e =>
    rw [raised] at refused
    obtain ⟨r, rfl⟩ := classified e raised
    cases refused

end classification

end RevenueGuard
