import RevenueGuard.Safety.Acceptance
import RevenueGuard.Kit.Encodings

/-
What the gateway keeps. A request is stored exactly when every check passed and the
store committed it, a forged one leaves its digests, and anything else leaves the store
as it was, however the body was cut. The document stored beside the bytes is the one
that the worker's own reader finds in them.
-/
namespace RevenueGuard

variable {site : Site} {s t : Deployment} {task : Task} {tasks : List Task} {g : Gateway} {request : WebhookRequest}
  {visit : Visit} {w : AcceptedWebhook}

section chunks

/-- The same request with its body in one piece. -/
def WebhookRequest.whole (request : WebhookRequest) : WebhookRequest := { request with stream := [request.stream.flatten] }

theorem readBoundedRawBody_whole (request : WebhookRequest) (maximumBytes : Nat) :
    readBoundedRawBody request.whole maximumBytes = readBoundedRawBody request maximumBytes := by
  have same : readStream maximumBytes [] request.whole.stream = readStream maximumBytes [] request.stream := by
    rw [readStream_eq _ _ (Nat.zero_le _), readStream_eq _ _ (Nat.zero_le _)]
    simp only [WebhookRequest.whole, List.flatten_cons, List.flatten_nil, List.append_nil]
  unfold readBoundedRawBody
  rw [same]
  rfl

theorem ingest_whole (g : Gateway) (request : WebhookRequest) (visit : Visit) (s : Deployment) :
    ingestRazorpayWebhook g request.whole visit s = ingestRazorpayWebhook g request visit s := by
  have same : admitRequest g.settings request.whole visit.resolver s = admitRequest g.settings request visit.resolver s := by
    unfold admitRequest
    rw [readBoundedRawBody_whole]
    rfl
  unfold ingestRazorpayWebhook
  rw [same]

end chunks

section signatures

theorem dropWhile_plain {cs : List Char} (plain : ∀ c ∈ cs, stripped c = false) : cs.dropWhile stripped = cs := by
  cases cs with
  | nil => rfl
  | cons c rest => simp only [List.dropWhile_cons, plain c List.mem_cons_self, Bool.false_eq_true, if_false]

theorem strip_plain {text : String} (plain : ∀ c ∈ text.toList, stripped c = false) : strip text = text := by
  unfold strip
  rw [dropWhile_plain plain, dropWhile_plain (fun c member => plain c (List.mem_reverse.mp member)), List.reverse_reverse,
    String.ofList_toList]

theorem lowerHex_plain {c : Char} (member : c ∈ Sha256.lowerHex) : stripped c = false ∧ isHex c = true := by
  have all : Sha256.lowerHex.all (fun c => !stripped c && isHex c) = true := by decide
  have both := List.all_eq_true.mp all c member
  simpa using both

/-- The signature that a holder of the secret computes over the bytes is accepted. -/
theorem own_signature {secret : String} {rawBody : List UInt8} (filled : secret ≠ "") :
    verifyRazorpaySignature rawBody (webhookSignature secret rawBody) secret = .ok true := by
  have hex : ∀ c ∈ (webhookSignature secret rawBody).toList, c ∈ Sha256.lowerHex := Sha256.hexdigest_lowerHex _
  rw [verifyRazorpaySignature_iff filled, strip_plain fun c member => (lowerHex_plain (hex c member)).1]
  constructor
  · have length : (webhookSignature secret rawBody).length = 64 := Sha256.hexdigest_length _
    have digits : (webhookSignature secret rawBody).toList.all isHex = true :=
      List.all_eq_true.mpr fun c member => (lowerHex_plain (hex c member)).2
    rw [sha256Hex, length, digits]
    rfl
  · exact Sha256.map_toLower_hexdigest _

end signatures

section storing

/-- Everything the gateway asks of a request before it stores `w` for it. -/
structure Storable (g : Gateway) (request : WebhookRequest) (visit : Visit) (s : Deployment) (w : AcceptedWebhook) : Prop where
  examined : ∃ a payload, Examined g request visit s a payload w
  unknown : ¬ s.inbox.Knows w.provider w.merchantId w.providerEventId.1
  fresh : (w.visited g visit).Fresh s.inbox
  committed : visit.store ≠ .down

theorem ingest_stored (storable : Storable g request visit s w) :
    ingestRazorpayWebhook g request visit s =
      (if visit.store = .up then .receipt 202 "accepted" w.providerEventId.1 else inboxUnavailable,
        s.accept w (w.visited g visit)) := by
  obtain ⟨a, payload, examined⟩ := storable.examined
  have ran : (recordAccepted w visit.dispatchId visit.createdAt g.settings.eventDispatchMaxAttempts).run s =
      .ok (true, s.accept w (w.visited g visit)) := recordAccepted_new storable.unknown storable.fresh
  rw [examined.ingest, (acceptedRow_of examined.row).eventId]
  cases health : visit.store with
  | down => exact absurd health storable.committed
  | _ =>
    unfold transact
    rw [ran]
    rfl

theorem stored_iff : (ingestRazorpayWebhook g request visit s).2.accepted = s.accepted ++ [w] ↔ Storable g request visit s w := by
  have unchanged : ¬ s.accepted = s.accepted ++ [w] := by
    intro same
    have length := congrArg List.length same
    rw [List.length_append, List.length_singleton] at length
    omega
  constructor
  · intro stored
    have case := ingest_cases g request visit s
    generalize ingestRazorpayWebhook g request visit s = outcome at case stored
    obtain ⟨answer, t⟩ := outcome
    dsimp only at case stored
    cases case with
    | accepted a payload w' answer examined unknown fresh told =>
      obtain rfl := List.singleton_inj.mp (List.append_cancel_left stored)
      refine ⟨⟨a, payload, examined⟩, unknown, fresh, ?_⟩
      rcases told with ⟨up, -⟩ | ⟨lost, -⟩
      · rw [up]
        decide
      · rw [lost]
        decide
    | _ => exact absurd stored unchanged
  · intro storable
    rw [ingest_stored storable]
    rfl

/-- A request that stores nothing leaves the store as it was, or one more digest of a forged body. -/
theorem ingest_refused (refused : ∀ w, ¬ Storable g request visit s w) :
    (ingestRazorpayWebhook g request visit s).2 = s ∨
      ∃ a, Admits g.settings request visit.resolver s a ∧
        verifyRazorpaySignature a.rawBody a.signature a.merchant.webhookSecret = .ok false ∧
        (ingestRazorpayWebhook g request visit s).2 = { s with rejected := s.rejected ++ [invalidSignatureRecord visit a] } := by
  have case := ingest_cases g request visit s
  generalize same : ingestRazorpayWebhook g request visit s = outcome at case ⊢
  obtain ⟨answer, t⟩ := outcome
  dsimp only at case ⊢
  cases case with
  | rejected a error admitted forged => exact .inr ⟨a, admitted, forged, rfl⟩
  | accepted a payload w =>
    refine absurd (stored_iff.mp ?_) (refused w)
    rw [same]
    rfl
  | _ => exact .inl rfl

/-- What the gateway does with any request, in any store. -/
structure FailClosed (g : Gateway) (s : Deployment) : Prop where
  stored : ∀ request visit w,
    (ingestRazorpayWebhook g request visit s).2.accepted = s.accepted ++ [w] ↔ Storable g request visit s w
  told : ∀ request visit status providerEventId,
    (ingestRazorpayWebhook g request visit s).1 = .receipt 202 status providerEventId →
      ∃ w, Storable g request visit s w ∧ w.providerEventId.1 = providerEventId
  refused : ∀ request visit, (∀ w, ¬ Storable g request visit s w) →
    (ingestRazorpayWebhook g request visit s).2 = s ∨
      ∃ a, Admits g.settings request visit.resolver s a ∧
        verifyRazorpaySignature a.rawBody a.signature a.merchant.webhookSecret = .ok false ∧
        (ingestRazorpayWebhook g request visit s).2 = { s with rejected := s.rejected ++ [invalidSignatureRecord visit a] }
  pieces : ∀ request visit, ingestRazorpayWebhook g request.whole visit s = ingestRazorpayWebhook g request visit s
  signed : ∀ secret rawBody, secret ≠ "" → verifyRazorpaySignature rawBody (webhookSignature secret rawBody) secret = .ok true

/-- The gateway stores exactly what passes every check, and says so only then. -/
theorem gateway_fails_closed (g : Gateway) (s : Deployment) : FailClosed g s := by
  refine ⟨fun request visit w => stored_iff, ?_, fun request visit refused => ingest_refused refused,
    fun request visit => ingest_whole g request visit s, fun secret rawBody filled => own_signature filled⟩
  intro request visit status providerEventId told
  have case := ingest_cases g request visit s
  rw [told] at case
  obtain ⟨a, payload, w, examined, named, ⟨wrong, -⟩ | ⟨-, -, unknown, fresh, up⟩⟩ := case.receipt
  · cases wrong
  · refine ⟨w, ⟨⟨a, payload, examined⟩, unknown, fresh, ?_⟩, named⟩
    rw [up]
    decide

end storing

section readers

/-- The checks a stored delivery of the provider passed, in the store it met. -/
theorem deployed_examined {tasks : List Task} (here : w ∈ (deployed site tasks).accepted) (provider : w.provider = "RAZORPAY") :
    ∃ before request visit a payload, .request request visit ∈ tasks ∧
      Examined site.gateway request visit (deployed site before) a payload w := by
  obtain ⟨before, task, after, split, absent, present⟩ :=
    Runs.origin (f := perform site) (P := fun s => w ∈ s.accepted) (s := {}) List.not_mem_nil here
  rcases (perform_step site task _).admits absent present with ⟨request, visit, a, payload, rfl, examined⟩ | ⟨simulator, -⟩
  · refine ⟨before, request, visit, a, payload, ?_, examined⟩
    rw [split]
    exact List.mem_append_right _ List.mem_cons_self
  · rw [simulator] at provider
    exact absurd provider (by decide)

theorem parseDocument_text {depth : Nat} {body : ByteArray} {document : Mapping} (h : parseDocument depth body = .ok document) :
    ∃ text, String.fromUTF8? body = some text ∧ JsonReader.loads depth text.toList = .ok (.obj document) := by
  unfold parseDocument at h
  cases decoded : String.fromUTF8? body with
  | none =>
    rw [decoded] at h
    cases h
  | some text =>
    rw [decoded] at h
    dsimp only at h
    split at h
    · cases h
    · cases h
    · cases h
    · rename_i read
      cases h
      exact ⟨text, rfl, read⟩
    · cases h

/-- The bytes as the gateway reads them and as the worker does. -/
theorem readers_agree {depth depth' : Nat} {rawBody : List UInt8} {document payload : Mapping}
    (worker : parseDocument depth rawBody.toByteArray = .ok document)
    (gateway : JsonReader.loadsBytes depth' rawBody = .ok (.obj payload)) : payload = document := by
  obtain ⟨text, strict, read⟩ := parseDocument_text worker
  rw [JsonReader.loadsBytes_of_strict strict read] at gateway
  exact Json.obj.inj (JsonReader.loads_unique gateway read)

/-- The two readings of a stored body. -/
structure ReadAlike (site : Site) (tasks : List Task) : Prop where
  column : ∀ w ∈ (deployed site tasks).accepted, w.provider = "RAZORPAY" → ∀ depth document,
    parseDocument depth w.body = .ok document → site.gateway.jsonColumn document = some w.rawPayload
  event : ∀ w ∈ (deployed site tasks).accepted, w.provider = "RAZORPAY" → ∀ event,
    w.normalized site.worker.depth = .ok event → ∃ document entity,
      Stated site.worker.depth w event document entity ∧ site.gateway.jsonColumn document = some w.rawPayload

/-- The document in the store's column and the one an event is drawn from are the same. -/
theorem read_alike (site : Site) (tasks : List Task) : ReadAlike site tasks := by
  have column : ∀ w ∈ (deployed site tasks).accepted, w.provider = "RAZORPAY" → ∀ depth document,
      parseDocument depth w.body = .ok document → site.gateway.jsonColumn document = some w.rawPayload := by
    intro w here provider depth document parsed
    obtain ⟨before, request, visit, a, payload, -, examined⟩ := deployed_examined here provider
    have row := acceptedRow_of examined.row
    rw [AcceptedWebhook.body, row.body] at parsed
    rw [← readers_agree parsed examined.decoded]
    exact row.column
  refine ⟨column, fun w here provider event read => ?_⟩
  obtain ⟨document, entity, stated⟩ := normalized_stated read
  exact ⟨document, entity, stated, column w here provider _ _ stated.parsed⟩

end readers

end RevenueGuard
