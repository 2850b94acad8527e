import RevenueGuard.Services.Gateway
import RevenueGuard.Protocol.Dispatching

/-
What one request can do to the store: nothing, one accepted webhook with its
dispatch, or one rejected delivery; and what the gateway has checked by then.
-/
namespace RevenueGuard

variable {s t : Deployment} {g : Gateway} {settings : Settings} {request : WebhookRequest} {visit : Visit}

section headers

/-- A body is taken whole, however its chunks fall. -/
theorem readStream_eq (maximumBytes : Nat) (chunks : List (List UInt8)) {body : List UInt8} (short : body.length ≤ maximumBytes) :
    readStream maximumBytes body chunks =
      if (body ++ chunks.flatten).length ≤ maximumBytes then .ok (body ++ chunks.flatten) else .error tooLarge := by
  induction chunks generalizing body with
  | nil =>
    simp only [readStream, List.flatten_nil, List.append_nil]
    rw [if_pos short]
  | cons chunk rest ih =>
    simp only [readStream, List.flatten_cons]
    split
    · rename_i large
      rw [if_neg]
      simp only [List.length_append] at large ⊢
      omega
    · rename_i fits
      rw [ih (Nat.le_of_not_lt fits), List.append_assoc]

theorem readBoundedRawBody_ok {maximumBytes : Nat} {body : List UInt8} :
    readBoundedRawBody request maximumBytes = .ok body ↔
      checkContentLength (request.header "content-length") maximumBytes = .ok () ∧
        body = request.stream.flatten ∧ body.length ≤ maximumBytes := by
  unfold readBoundedRawBody
  cases declared : checkContentLength (request.header "content-length") maximumBytes with
  | error e => exact ⟨fun h => (by cases h), fun h => by cases h.1⟩
  | ok u =>
    change readStream maximumBytes [] request.stream = .ok body ↔ _
    rw [readStream_eq _ _ (Nat.zero_le _), List.nil_append]
    split
    · rename_i fits
      constructor
      · intro h
        cases h
        exact ⟨rfl, rfl, fits⟩
      · rintro ⟨-, rfl, -⟩
        rfl
    · rename_i large
      constructor
      · intro h
        cases h
      · rintro ⟨-, rfl, fits⟩
        exact absurd fits large

end headers

section admission

theorem configured_ok {merchant : ResolvedMerchant} (h : settings.configured = some merchant) :
    settings.merchantId = some merchant.merchantId ∧ settings.webhookSecret = some merchant.webhookSecret ∧
      merchant.webhookSecret ≠ "" := by
  unfold Settings.configured at h
  split at h
  · rename_i merchantId secret named given
    split at h
    · cases h
    · rename_i filled
      cases h
      exact ⟨named, given, filled⟩
  · cases h

theorem resolveMerchant_ok {routing : String} {up : Bool} {merchant : ResolvedMerchant} :
    resolveMerchant settings routing up s = .ok (some merchant) ↔
      settings.configured = some merchant ∧ routing = merchant.merchantId.val ∧ up = true ∧ s.active merchant.merchantId = true := by
  unfold resolveMerchant
  cases configured : settings.configured with
  | none => exact ⟨fun h => (by cases h), fun h => by cases h.1⟩
  | some known =>
    dsimp only
    split
    · rename_i other
      exact ⟨fun h => (by cases h), fun h => absurd (h.2.1.trans (by rw [Option.some.inj h.1])) other⟩
    rename_i routed
    split
    · rename_i down
      exact ⟨fun h => (by cases h), fun h => absurd (h.2.2.1.symm.trans down) (by decide)⟩
    rename_i answers
    split
    · rename_i active
      constructor
      · intro h
        cases h
        exact ⟨rfl, not_not.mp routed, by simpa using answers, active⟩
      · intro h
        rw [h.1]
    · rename_i inactive
      refine ⟨fun h => (by cases h), fun h => absurd h.2.2.2 ?_⟩
      rwa [← Option.some.inj h.1]

/-- What is settled of a request before its signature is looked at. -/
structure Admits (settings : Settings) (request : WebhookRequest) (up : Bool) (s : Deployment) (a : Admitted) : Prop where
  signature : requiredHeader (request.header "X-Razorpay-Signature") "X-Razorpay-Signature" = .ok a.signature
  eventId : requiredHeader (request.header "X-Razorpay-Event-Id") "X-Razorpay-Event-Id" = .ok a.providerEventId
  routed : merchantRoutingIdentifier (routingValue settings request) settings = .ok a.merchant.merchantId.val
  read : readBoundedRawBody request settings.webhookMaxBodyBytes = .ok a.rawBody
  configured : settings.configured = some a.merchant
  resolver : up = true
  active : s.active a.merchant.merchantId = true

theorem admitRequest_ok {up : Bool} {a : Admitted} : admitRequest settings request up s = .ok a ↔ Admits settings request up s a := by
  unfold admitRequest
  cases signature : requiredHeader (request.header "X-Razorpay-Signature") "X-Razorpay-Signature" with
  | error e => exact ⟨fun h => (by cases h), fun h => by cases signature.symm.trans h.signature⟩
  | ok signed =>
  cases eventId : requiredHeader (request.header "X-Razorpay-Event-Id") "X-Razorpay-Event-Id" with
  | error e => exact ⟨fun h => (by cases h), fun h => by cases eventId.symm.trans h.eventId⟩
  | ok named =>
  cases routing : merchantRoutingIdentifier (routingValue settings request) settings with
  | error e => exact ⟨fun h => (by cases h), fun h => by cases routing.symm.trans h.routed⟩
  | ok routed =>
  cases body : readBoundedRawBody request settings.webhookMaxBodyBytes with
  | error e => exact ⟨fun h => (by cases h), fun h => by cases body.symm.trans h.read⟩
  | ok rawBody =>
  cases resolved : resolveMerchant settings routed up s with
  | error e =>
    refine ⟨fun h => ?_, fun h => ?_⟩
    · simp only [bind, Except.bind, resolved] at h
      cases h
    · have same := Except.ok.inj (routing.symm.trans h.routed)
      rw [resolveMerchant_ok.mpr ⟨h.configured, same, h.resolver, h.active⟩] at resolved
      cases resolved
  | ok found =>
    simp only [bind, Except.bind, resolved]
    cases found with
    | none =>
      refine ⟨fun h => (by cases h), fun h => ?_⟩
      have same := Except.ok.inj (routing.symm.trans h.routed)
      rw [resolveMerchant_ok.mpr ⟨h.configured, same, h.resolver, h.active⟩] at resolved
      cases resolved
    | some merchant =>
      obtain ⟨configured, same, answers, active⟩ := resolveMerchant_ok.mp resolved
      constructor
      · intro h
        cases h
        exact ⟨signature, eventId, by rw [routing, same], body, configured, answers, active⟩
      · intro h
        obtain ⟨merchant', signature', eventId', rawBody'⟩ := a
        obtain rfl := Except.ok.inj (signature.symm.trans h.signature)
        obtain rfl := Except.ok.inj (eventId.symm.trans h.eventId)
        obtain rfl := Except.ok.inj (body.symm.trans h.read)
        obtain rfl := Option.some.inj (configured.symm.trans h.configured)
        rfl

end admission

section signature

/-- The signature a sender who holds the secret computes. -/
def webhookSignature (secret : String) (rawBody : List UInt8) : String :=
  Sha256.hmacHexdigest (Json.utf8 secret.toList) rawBody

theorem utf8_eq_nil {cs : List Char} (h : Json.utf8 cs = []) : cs = [] := by
  cases cs with
  | nil => rfl
  | cons c rest =>
    exfalso
    have length := congrArg List.length h
    simp only [Json.utf8, List.flatMap_cons, List.length_append, List.length_nil, String.length_utf8EncodeChar] at length
    have := c.utf8Size_pos
    omega

theorem secret_nonempty {secret : String} (filled : secret ≠ "") : Json.utf8 secret.toList ≠ [] := by
  intro empty
  exact filled (String.toList_eq_nil_iff.mp (utf8_eq_nil empty))

/-- A signature is accepted when, in lower case and without white space, it is the body's own. -/
theorem verifyRazorpaySignature_iff {rawBody : List UInt8} {signature secret : String} (filled : secret ≠ "") :
    verifyRazorpaySignature rawBody signature secret = .ok true ↔
      sha256Hex (strip signature) = true ∧ lower (strip signature) = webhookSignature secret rawBody := by
  unfold verifyRazorpaySignature verifyWebhookSignature
  rw [if_neg (secret_nonempty filled)]
  split
  · rename_i garbled
    refine ⟨fun h => (by cases h), fun h => ?_⟩
    rw [garbled] at h
    cases h.1
  · rename_i hex
    constructor
    · intro h
      exact ⟨by simpa using hex, (of_decide_eq_true (Except.ok.inj h)).symm⟩
    · rintro ⟨-, same⟩
      exact congrArg Except.ok (decide_eq_true same.symm)

end signature

section storing

/-- The inbox holds a webhook of this provider, merchant and event id. -/
def Inbox.Knows (box : Inbox) (provider : String) (merchantId : Identifier) (providerEventId : String) : Prop :=
  ∃ r ∈ box.webhooks, r.provider = provider ∧ r.merchantId = merchantId ∧ r.providerEventId = providerEventId

def AcceptedWebhook.delivery (w : AcceptedWebhook) (dispatchId : Uuid) (createdAt : Instant) (maxDispatchAttempts : Nat) :
    WebhookDelivery :=
  { eventId := w.id.identifier, dispatchId := dispatchId.identifier, merchantId := w.merchantId, provider := w.provider
    providerEventId := w.providerEventId.1, receivedAt := w.receivedAt, createdAt := createdAt
    maxDispatchAttempts := maxDispatchAttempts }

/-- The ids drawn for a delivery are in no row yet. -/
structure WebhookDelivery.Fresh (d : WebhookDelivery) (box : Inbox) : Prop where
  webhook : ∀ r ∈ box.webhooks, r.id ≠ d.eventId
  dispatch : ∀ r ∈ box.dispatches, r.id ≠ d.dispatchId
  attempts : 0 < d.maxDispatchAttempts

def Inbox.receive (d : WebhookDelivery) (box : Inbox) : Inbox :=
  { webhooks := box.webhooks ++ [d.webhook], dispatches := box.dispatches ++ [d.dispatch] }

theorem knows_any {box : Inbox} {d : WebhookDelivery} :
    (box.webhooks.any fun r => decide (r.provider = d.provider ∧ r.merchantId = d.merchantId
      ∧ r.providerEventId = d.providerEventId)) = true ↔ box.Knows d.provider d.merchantId d.providerEventId := by
  simp only [List.any_eq_true, decide_eq_true_eq, Inbox.Knows]

theorem recordWebhook_ok {d : WebhookDelivery} {box box' : Inbox} {created : Bool}
    (h : (recordWebhook d).run box = .ok (created, box')) :
    (created = false ∧ box' = box ∧ box.Knows d.provider d.merchantId d.providerEventId) ∨
      (created = true ∧ ¬ box.Knows d.provider d.merchantId d.providerEventId ∧ d.Fresh box ∧ box' = box.receive d) := by
  obtain ⟨known, _, read, h⟩ := Tx.bind_ok h
  obtain ⟨same, rfl⟩ := Tx.read_ok read
  split at h
  · rename_i here
    obtain ⟨rfl, rfl⟩ := Tx.pure_ok h
    exact .inl ⟨rfl, rfl, knows_any.mp (same.symm.trans here)⟩
  · rename_i absent
    obtain ⟨fresh, _, read, h⟩ := Tx.bind_ok h
    obtain ⟨rfl, rfl⟩ := Tx.read_ok read
    obtain ⟨_, _, checked, h⟩ := Tx.bind_ok h
    obtain ⟨new, rfl⟩ := Tx.check_ok checked
    obtain ⟨_, _, checked, h⟩ := Tx.bind_ok h
    obtain ⟨attempts, rfl⟩ := Tx.check_ok checked
    obtain ⟨_, _, written, h⟩ := Tx.bind_ok h
    obtain ⟨rfl, rfl⟩ := Tx.pure_ok h
    obtain ⟨newWebhook, newDispatch⟩ := of_decide_eq_true new
    refine .inr ⟨rfl, fun knows => absent (same.trans (knows_any.mpr knows)), ?_, Tx.write_ok written⟩
    exact ⟨Table.lookup_none.mp newWebhook, Table.lookup_none.mp newDispatch, attempts⟩

theorem recordWebhook_known {d : WebhookDelivery} {box : Inbox} (knows : box.Knows d.provider d.merchantId d.providerEventId) :
    (recordWebhook d).run box = .ok (false, box) := by
  refine (Tx.bind_of_ok (Tx.run_read _ _)).trans ?_
  rw [if_pos (knows_any.mpr knows)]
  rfl

theorem recordWebhook_new {d : WebhookDelivery} {box : Inbox}
    (unknown : ¬ box.Knows d.provider d.merchantId d.providerEventId) (fresh : d.Fresh box) :
    (recordWebhook d).run box = .ok (true, box.receive d) := by
  refine (Tx.bind_of_ok (Tx.run_read _ _)).trans ?_
  rw [if_neg fun known => unknown (knows_any.mp known)]
  refine (Tx.bind_of_ok (Tx.run_read _ _)).trans ((Tx.bind_of_ok (Tx.check_of ?_)).trans
    ((Tx.bind_of_ok (Tx.check_of fresh.attempts)).trans rfl))
  exact decide_eq_true ⟨Table.lookup_none.mpr fresh.webhook, Table.lookup_none.mpr fresh.dispatch⟩

variable {w : AcceptedWebhook} {dispatchId : Uuid} {createdAt : Instant} {attempts : Nat} {created : Bool}

/-- The store with one more accepted webhook. -/
def Deployment.accept (w : AcceptedWebhook) (d : WebhookDelivery) (s : Deployment) : Deployment :=
  { s with inbox := s.inbox.receive d, accepted := s.accepted ++ [w] }

theorem recordAccepted_ok (h : (recordAccepted w dispatchId createdAt attempts).run s = .ok (created, t)) :
    (created = false ∧ t = s ∧ s.inbox.Knows w.provider w.merchantId w.providerEventId.1) ∨
      (created = true ∧ ¬ s.inbox.Knows w.provider w.merchantId w.providerEventId.1 ∧
        (w.delivery dispatchId createdAt attempts).Fresh s.inbox ∧
        t = s.accept w (w.delivery dispatchId createdAt attempts)) := by
  obtain ⟨taken, d, recorded, h⟩ := Tx.bind_ok h
  obtain ⟨box, ran, rfl⟩ := Tx.on_ok recorded
  rcases recordWebhook_ok ran with ⟨rfl, rfl, knows⟩ | ⟨rfl, unknown, fresh, rfl⟩
  · rw [if_neg Bool.false_ne_true] at h
    obtain ⟨rfl, rfl⟩ := Tx.pure_ok h
    exact .inl ⟨rfl, rfl, knows⟩
  · rw [if_pos rfl] at h
    obtain ⟨_, _, written, h⟩ := Tx.bind_ok h
    obtain ⟨rfl, rfl⟩ := Tx.pure_ok h
    exact .inr ⟨rfl, unknown, fresh, Tx.write_ok written⟩

theorem recordAccepted_known (knows : s.inbox.Knows w.provider w.merchantId w.providerEventId.1) :
    (recordAccepted w dispatchId createdAt attempts).run s = .ok (false, s) :=
  (Tx.bind_of_ok (Tx.on_of_ok (recordWebhook_known (d := w.delivery dispatchId createdAt attempts) knows))).trans rfl

theorem recordAccepted_new (unknown : ¬ s.inbox.Knows w.provider w.merchantId w.providerEventId.1)
    (fresh : (w.delivery dispatchId createdAt attempts).Fresh s.inbox) :
    (recordAccepted w dispatchId createdAt attempts).run s = .ok (true, s.accept w (w.delivery dispatchId createdAt attempts)) :=
  (Tx.bind_of_ok (Tx.on_of_ok (recordWebhook_new (d := w.delivery dispatchId createdAt attempts) unknown fresh))).trans rfl

end storing

section requests

variable {a : Admitted} {payload : Mapping} {answer : Answer} {w : AcceptedWebhook}

theorem decodedPayload_ok {depth : Nat} {rawBody : List UInt8} :
    decodedPayload depth rawBody = .ok payload ↔ JsonReader.loadsBytes depth rawBody = .ok (.obj payload) := by
  unfold decodedPayload
  split
  · rename_i here
    rw [here]
    simp
  · rename_i other value
    rw [value]
    exact ⟨fun h => (by cases h), fun h => (other payload (Except.ok.inj h)).elim⟩
  · rename_i failed
    rw [failed]
    exact ⟨fun h => (by cases h), fun h => (by cases h)⟩
  · rename_i failed
    rw [failed]
    exact ⟨fun h => (by cases h), fun h => (by cases h)⟩

/-- The row a checked request becomes. -/
structure RowOf (g : Gateway) (visit : Visit) (a : Admitted) (payload : Mapping) (w : AcceptedWebhook) : Prop where
  id : w.id = visit.eventId
  merchant : w.merchantId = a.merchant.merchantId
  provider : w.provider = "RAZORPAY"
  eventId : w.providerEventId.1 = a.providerEventId
  body : w.rawBody = a.rawBody
  column : g.jsonColumn payload = some w.rawPayload
  received : w.receivedAt = visit.receivedAt

theorem acceptedRow_of (h : acceptedRow g visit a payload = some w) : RowOf g visit a payload w := by
  unfold acceptedRow at h
  split at h
  · dsimp only at h
    split at h
    · obtain ⟨column, taken, rfl⟩ := Option.map_eq_some_iff.mp h
      exact ⟨rfl, rfl, rfl, rfl, rfl, taken, rfl⟩
    · cases h
  · cases h

theorem transact_cases {A : Type} {x : Tx Deployment Failure A} {health : StoreHealth} {say : A → Answer}
    {unavailable : Answer} (h : transact health x say unavailable s = (answer, t)) :
    (answer = unavailable ∧ t = s) ∨
      ∃ b, x.run s = .ok (b, t) ∧ (health = .up ∧ answer = say b ∨ health = .replyLost ∧ answer = unavailable) := by
  unfold transact at h
  split at h
  · rename_i b d ran
    cases h
    exact .inr ⟨b, ran, .inl ⟨rfl, rfl⟩⟩
  · rename_i b d ran
    cases h
    exact .inr ⟨b, ran, .inr ⟨rfl, rfl⟩⟩
  · cases h
    exact .inl ⟨rfl, rfl⟩

/-- What the gateway has checked of a request whose webhook it stores. -/
structure Examined (g : Gateway) (request : WebhookRequest) (visit : Visit) (s : Deployment) (a : Admitted) (payload : Mapping)
    (w : AcceptedWebhook) : Prop where
  admitted : Admits g.settings request visit.resolver s a
  verified : verifyRazorpaySignature a.rawBody a.signature a.merchant.webhookSecret = .ok true
  decoded : JsonReader.loadsBytes g.depth a.rawBody = .ok (.obj payload)
  row : acceptedRow g visit a payload = some w

def AcceptedWebhook.visited (w : AcceptedWebhook) (g : Gateway) (visit : Visit) : WebhookDelivery :=
  w.delivery visit.dispatchId visit.createdAt g.settings.eventDispatchMaxAttempts

/-- Everything a request can lead to. -/
inductive Ingested (g : Gateway) (request : WebhookRequest) (visit : Visit) (s : Deployment) : Answer → Deployment → Prop
  | refused (error : HandlerError) : Ingested g request visit s (.raised error) s
  | rejected (a : Admitted) (error : HandlerError) (admitted : Admits g.settings request visit.resolver s a)
      (forged : verifyRazorpaySignature a.rawBody a.signature a.merchant.webhookSecret = .ok false)
      (fits : a.providerEventId.length ≤ 256) (new : ∀ r ∈ s.rejected, r.id ≠ visit.eventId) :
      Ingested g request visit s (.raised error) { s with rejected := s.rejected ++ [invalidSignatureRecord visit a] }
  | duplicate (a : Admitted) (payload : Mapping) (w : AcceptedWebhook) (examined : Examined g request visit s a payload w)
      (known : s.inbox.Knows w.provider w.merchantId w.providerEventId.1) :
      Ingested g request visit s (.receipt 200 "duplicate" w.providerEventId.1) s
  | accepted (a : Admitted) (payload : Mapping) (w : AcceptedWebhook) (answer : Answer)
      (examined : Examined g request visit s a payload w)
      (unknown : ¬ s.inbox.Knows w.provider w.merchantId w.providerEventId.1) (fresh : (w.visited g visit).Fresh s.inbox)
      (told : visit.store = .up ∧ answer = .receipt 202 "accepted" w.providerEventId.1 ∨
        visit.store = .replyLost ∧ answer = inboxUnavailable) :
      Ingested g request visit s answer (s.accept w (w.visited g visit))

theorem recordRejected_ok {r : RejectedWebhook} {u : Unit} (h : (recordRejected r).run s = .ok (u, t)) :
    (∀ other ∈ s.rejected, other.id ≠ r.id) ∧ t = { s with rejected := s.rejected ++ [r] } := by
  obtain ⟨fresh, _, read, h⟩ := Tx.bind_ok h
  obtain ⟨rfl, rfl⟩ := Tx.read_ok read
  obtain ⟨_, _, checked, h⟩ := Tx.bind_ok h
  obtain ⟨new, rfl⟩ := Tx.check_ok checked
  exact ⟨fun other member => of_decide_eq_true (List.all_eq_true.mp new other member), Tx.write_ok h⟩

theorem ingestVerified_cases (admitted : Admits g.settings request visit.resolver s a)
    (verified : verifyRazorpaySignature a.rawBody a.signature a.merchant.webhookSecret = .ok true)
    (decoded : JsonReader.loadsBytes g.depth a.rawBody = .ok (.obj payload)) {outcome : Answer × Deployment}
    (h : ingestVerified g visit a payload s = outcome) : Ingested g request visit s outcome.1 outcome.2 := by
  obtain ⟨answer, t⟩ := outcome
  unfold ingestVerified at h
  split at h
  · cases h
    exact .refused _
  · rename_i w row
    have examined : Examined g request visit s a payload w := ⟨admitted, verified, decoded, row⟩
    have named := (acceptedRow_of row).eventId
    rcases transact_cases h with ⟨rfl, rfl⟩ | ⟨created, ran, told⟩
    · exact .refused _
    rcases recordAccepted_ok ran with ⟨rfl, rfl, known⟩ | ⟨rfl, unknown, fresh, rfl⟩
    · rcases told with ⟨-, rfl⟩ | ⟨-, rfl⟩
      · rw [disposition, ← named]
        exact .duplicate a payload w examined known
      · exact .refused _
    · refine .accepted a payload w _ examined unknown fresh ?_
      rcases told with ⟨up, rfl⟩ | lost
      · exact .inl ⟨up, by rw [disposition, named]; rfl⟩
      · exact .inr lost

theorem ingest_cases (g : Gateway) (request : WebhookRequest) (visit : Visit) (s : Deployment) :
    Ingested g request visit s (ingestRazorpayWebhook g request visit s).1 (ingestRazorpayWebhook g request visit s).2 := by
  unfold ingestRazorpayWebhook
  cases admission : admitRequest g.settings request visit.resolver s with
  | error e => exact .refused e
  | ok a =>
  have admitted := admitRequest_ok.mp admission
  dsimp only
  cases verified : verifyRazorpaySignature a.rawBody a.signature a.merchant.webhookSecret with
  | error e => exact .refused e
  | ok valid =>
  cases valid with
  | false =>
    dsimp only
    generalize same : recordInvalidSignature visit a s = outcome
    obtain ⟨answer, t⟩ := outcome
    unfold recordInvalidSignature at same
    split at same
    · cases same
      exact .refused _
    · rename_i fits
      rcases transact_cases same with ⟨rfl, rfl⟩ | ⟨u, ran, told⟩
      · exact .refused _
      · obtain ⟨new, rfl⟩ := recordRejected_ok ran
        have raised : ∃ error, answer = .raised error := by
          rcases told with ⟨-, rfl⟩ | ⟨-, rfl⟩ <;> exact ⟨_, rfl⟩
        obtain ⟨error, rfl⟩ := raised
        exact .rejected a error admitted verified (Nat.le_of_not_lt fits) new
  | true =>
    dsimp only
    cases decoded : decodedPayload g.depth a.rawBody with
    | error e => exact .refused e
    | ok payload => exact ingestVerified_cases admitted verified (decodedPayload_ok.mp decoded) rfl

/-- A receipt is for a checked delivery, known before or stored by the request. -/
theorem Ingested.receipt {code : Nat} {status providerEventId : String}
    (case : Ingested g request visit s (.receipt code status providerEventId) t) :
    ∃ a payload w, Examined g request visit s a payload w ∧ w.providerEventId.1 = providerEventId ∧
      (code = 200 ∧ t = s ∧ s.inbox.Knows w.provider w.merchantId w.providerEventId.1 ∨
        code = 202 ∧ t = s.accept w (w.visited g visit) ∧ ¬ s.inbox.Knows w.provider w.merchantId w.providerEventId.1 ∧
          (w.visited g visit).Fresh s.inbox ∧ visit.store = .up) := by
  generalize same : Answer.receipt code status providerEventId = answer at case
  cases case with
  | refused error => cases same
  | rejected a error => cases same
  | duplicate a payload w examined known =>
    cases same
    exact ⟨a, payload, w, examined, rfl, .inl ⟨rfl, rfl, known⟩⟩
  | accepted a payload w answer examined unknown fresh told =>
    rcases told with ⟨up, here⟩ | ⟨-, here⟩
    · rw [here] at same
      cases same
      exact ⟨a, payload, w, examined, rfl, .inr ⟨rfl, rfl, unknown, fresh, up⟩⟩
    · rw [here] at same
      cases same

end requests

end RevenueGuard
