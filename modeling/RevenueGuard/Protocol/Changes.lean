import RevenueGuard.Protocol.Effects

/-
The protocol of one case: every way a committed transaction changes the case's
view. A claim that holds of runs without some kind of step excludes that kind.
-/
namespace RevenueGuard

/-- Kinds of step that a run may be required not to take. -/
inductive Kind where
  | reusedKey | cancelInFlight | shadowedOutcome | unheardDispute | deadlineEscalation | unreviewedReminder
  | mismatchEscalated | reported | lost | unconfirmedFailure
deriving DecidableEq

/-- Applied evidence of a disputed payment. -/
def CaseEventRow.Disputes (l : CaseEventRow) (db : Database) : Prop :=
  l.disposition = .applied ∧ ∃ e d, db.event l.merchantId l.normalizedEventId = some e ∧ diagnoseEvent e = some d
    ∧ d.code = paymentDisputed

/-- Applied evidence is an event the store holds. -/
def CaseEventRow.Known (l : CaseEventRow) (db : Database) : Prop :=
  l.disposition = .applied → ∃ e, db.event l.merchantId l.normalizedEventId = some e

def evaluableStates : List CaseState := [.detected, .diagnosing, .deferred, .decisionPending]

/-- Where a decision that authorizes nothing leaves the case, with the review it opens. -/
def Settles (k : CaseKey) (s : CaseState) (reviews : List HumanReviewRequest) : Prop :=
  (s ∈ [CaseState.deferred, .decisionPending, .stopped] ∧ reviews = []) ∨
    (s = .escalated ∧ ∃ r, reviews = [r] ∧ r.status = .requested ∧ r.key = k)

def CaseRow.Unpaid (row : CaseRow) (db : Database) : Prop :=
  paidStatus (authoritativeFactsForCase row.case db).status = false

def PromisedCase (k : CaseKey) (db : Database) : Prop := k ∈ db.promises.map PromiseRow.key

def Governed (m : Identifier) (db : Database) : Prop :=
  m ∈ db.merchants ∧ ∃ r ∈ db.policies, r.merchantId = m

/-- An outcome as `_store_observation` builds it for an action of the case. -/
structure VerifiedOutcome.Of (o : VerifiedOutcome) (k : CaseKey) (r : ActionRow) : Prop where
  key : o.key = k
  action : o.actionId = r.id
  idAction : o.outcomeId.actionId = r.id
  merchant : o.outcomeId.merchantId = o.merchantId
  status : o.outcomeId.status = o.outcomeStatus

def VerifiedOutcome.SignedSuccess (o : VerifiedOutcome) : Prop :=
  o.outcomeId.evidenceSource = .signedWebhook ∧ o.outcomeId.status = .succeeded

structure VerifiedOutcome.Uncredited (o : VerifiedOutcome) : Prop where
  credits : creditsMoney o = false
  amount : o.recoveredAmountMinor = 0
  unsigned : ¬ o.SignedSuccess

/-- At most one outcome that recovers nothing is noted for `r`. -/
def Noted (k : CaseKey) (r : ActionRow) (before after : List VerifiedOutcome) : Prop :=
  after = before ∨ ∃ o : VerifiedOutcome, o.Of k r ∧ o.Uncredited ∧ after = before ++ [o]

/-- An action still to be reconciled. -/
def ActionRow.Unresolved (r : ActionRow) : Prop := resolvable r ∧ r.deadLetteredAt = none

instance (r : ActionRow) : Decidable r.Unresolved := inferInstanceAs (Decidable (_ ∧ _))

def OtherOpen (r : ActionRow) (actions : List ActionRow) : Prop := ∃ x ∈ actions, x.id ≠ r.id ∧ x.Unresolved

instance (r : ActionRow) (actions : List ActionRow) : Decidable (OtherOpen r actions) :=
  inferInstanceAs (Decidable (∃ x ∈ actions, _))

/-- The action is resolved to `s`, or left as it is. -/
def Resolved (id : ActionIdentity) (s : ActionStatus) (before after : List ActionRow) : Prop :=
  after = before ∨ ∃ t object code, after = Table.update ActionRow.id id (ActionRow.resolve s t object code) before

inductive Change (excluded : Kind → Prop) (db : Database) (k : CaseKey) (v : CaseView) : CaseView → Prop
  | idle : Change excluded db k v v
  | opened (row : CaseRow) (absent : v.row = none) (key : row.key = k) (state : row.case.state = .detected)
      (governed : Governed k.merchantId db)
      (customer : ∀ id ∈ row.case.customerId, db.knows k.merchantId id = true) : Change excluded db k v { v with row := some row }
  | linked (link : CaseEventRow) (key : link.key = some k) (known : link.Known db)
      (heard : link.Disputes db → ¬ excluded .unheardDispute) :
      Change excluded db k v { v with links := v.links ++ [link] }
  | heard (row' : CaseRow) (link : CaseEventRow) (receipt : ReceiptRow) (key : link.key = some k) (key' : row'.key = k)
      (before : ∀ row, v.row = some row → row.case.state ∈ evaluableStates ∧ row.Moved .stopped row')
      (stopped : row'.case.state = .stopped) (known : link.Known db) (governed : Governed k.merchantId db)
      (receiptKey : receipt.key = k) (refused : receipt.policyResult = .stop) :
      Change excluded db k v
        { v with row := some row', links := v.links ++ [link], receipts := v.receipts ++ [receipt] }
  | prepared (row row' : CaseRow) (s : CaseState) (present : v.row = some row)
      (state : row.case.state ∈ [CaseState.detected, .diagnosing, .deferred, .verifying])
      (after : s ∈ [CaseState.diagnosing, .decisionPending]) (moved : row.Moved s row') :
      Change excluded db k v { v with row := some row' }
  | decided (row row' : CaseRow) (s : CaseState) (receipt : ReceiptRow) (reviews : List HumanReviewRequest)
      (present : v.row = some row) (state : row.case.state = .decisionPending) (moved : row.Moved s row')
      (settles : Settles k s reviews) (receiptKey : receipt.key = k) (refused : receipt.policyResult ≠ .proceed) :
      Change excluded db k v
        { v with row := some row', reviews := v.reviews ++ reviews, receipts := v.receipts ++ [receipt] }
  | unreviewed (row row' : CaseRow) (receipt : ReceiptRow) (allowed : ¬ excluded .unreviewedReminder)
      (present : v.row = some row) (state : row.case.state = .decisionPending) (moved : row.Moved .escalated row')
      (receiptKey : receipt.key = k) (refused : receipt.policyResult ≠ .proceed) :
      Change excluded db k v { v with row := some row', receipts := v.receipts ++ [receipt] }
  | authorized (row row' : CaseRow) (receipt : ReceiptRow) (action : RecoveryAction) (version : Identifier)
      (deadline : Instant) (present : v.row = some row) (state : row.case.state = .decisionPending)
      (moved : row.Moved .ready row') (receiptKey : receipt.key = k) (key : action.identity.key = k)
      (pending : action.status = .pending) (scheduled : action.authorizedAt ≤ action.executeAfter)
      (ordinary : action.identity.actionType.actionClass ∉ alwaysAllowedClasses)
      (new : ∀ r ∈ v.actions, r.id ≠ action.identity) (unpaid : row.Unpaid db ∨ PromisedCase k db) :
      Change excluded db k v
        { v with row := some row', receipts := v.receipts ++ [receipt]
                 actions := v.actions ++ [.ofAction action version 3 deadline] }
  | reauthorized (row row' : CaseRow) (receipt : ReceiptRow) (allowed : ¬ excluded .reusedKey)
      (present : v.row = some row) (state : row.case.state = .decisionPending) (moved : row.Moved .ready row')
      (receiptKey : receipt.key = k) (unpaid : row.Unpaid db ∨ PromisedCase k db) :
      Change excluded db k v { v with row := some row', receipts := v.receipts ++ [receipt] }
  | reviewed (row row' : CaseRow) (s : CaseState) (review decided : HumanReviewRequest) (present : v.row = some row)
      (edge : s ∈ allowedTransitions row.case.state) (after : s ∈ [CaseState.decisionPending, .stopped])
      (moved : row.Moved s row') (open_ : review ∈ v.reviews) (requested : review.status = .requested)
      (closed : decided.status ≠ .requested) :
      Change excluded db k v { v with
        row := some row'
        reviews := Table.update HumanReviewRequest.id review.id (HumanReviewRequest.decide decided) v.reviews }
  | leased (id : ActionIdentity) (token : String) (now : Instant) (leaseFor : Int) : Change excluded db k v
      { v with actions := Table.update ActionRow.id id (ActionRow.lease token now leaseFor) v.actions }
  | begun (row row' : CaseRow) (r : ActionRow) (token : String) (t : Instant) (present : v.row = some row)
      (state : row.case.state ∈ [CaseState.ready, .executing]) (moved : row.Moved .executing row')
      (found : r ∈ v.actions) (pending : r.status = .pending) (idle : r.openAttempts = [])
      (below : r.attemptCount < r.maxAttempts) (unpaid : row.Unpaid db) :
      Change excluded db k v
        { v with row := some row', actions := Table.update ActionRow.id r.id (ActionRow.begin token t) v.actions }
  | blocked (row row' : CaseRow) (s : CaseState) (r : ActionRow) (t : Instant) (code : String)
      (reviews : List HumanReviewRequest) (present : v.row = some row)
      (state : row.case.state ∈ [CaseState.ready, .executing]) (moved : row.Moved s row') (settles : Settles k s reviews)
      (found : r ∈ v.actions) (pending : r.status = .pending)
      (idle : excluded .cancelInFlight → r.openAttempts = []) :
      Change excluded db k v
        { v with row := some row', reviews := v.reviews ++ reviews
                 actions := Table.update ActionRow.id r.id (ActionRow.cancel t code) v.actions }
  | retried (r : ActionRow) (token : String) (c : AttemptCompletion) (retryAt deadline : Instant)
      (allowed : ¬ excluded .reported) (found : r ∈ v.actions) (inFlight : ∃ a ∈ r.openAttempts, a.leaseToken = token)
      (again : (r.finish token c retryAt deadline).status = .pending)
      (scheduled : (r.finish token c retryAt deadline).action.authorizedAt ≤
        (r.finish token c retryAt deadline).nextAttemptAt) :
      Change excluded db k v
        { v with actions := Table.update ActionRow.id r.id (ActionRow.finish token c retryAt deadline) v.actions }
  | finished (row row' : CaseRow) (s : CaseState) (r : ActionRow) (token : String) (c : AttemptCompletion)
      (retryAt deadline : Instant) (outcomes : List VerifiedOutcome) (allowed : ¬ excluded .reported)
      (present : v.row = some row) (state : row.case.state ∈ [CaseState.executing, .unknown, .verifying])
      (after : s ∈ [CaseState.unknown, .verifying, .decisionPending]) (moved : row.Moved s row') (found : r ∈ v.actions)
      (inFlight : ∃ a ∈ r.openAttempts, a.leaseToken = token)
      (settled : (r.finish token c retryAt deadline).status ≠ .pending)
      (accepted : s ≠ .decisionPending → resolvable (r.finish token c retryAt deadline)) (noted : Noted k r v.outcomes outcomes) :
      Change excluded db k v
        { v with row := some row', outcomes := outcomes
                 actions := Table.update ActionRow.id r.id (ActionRow.finish token c retryAt deadline) v.actions }
  | lost (row row' : CaseRow) (r : ActionRow) (now deadline : Instant) (outcomes : List VerifiedOutcome)
      (allowed : ¬ excluded .lost) (present : v.row = some row)
      (moved : row.Moved (if row.case.state = .executing then .unknown else row.case.state) row')
      (found : r ∈ v.actions) (inFlight : r.openAttempts ≠ []) (noted : Noted k r v.outcomes outcomes) :
      Change excluded db k v
        { v with row := some row', outcomes := outcomes
                 actions := Table.update ActionRow.id r.id (ActionRow.lost now deadline) v.actions }
  | unresolved (row row' : CaseRow) (r : ActionRow) (f : ActionRow → ActionRow) (t : Instant)
      (outcomes : List VerifiedOutcome) (allowed : ¬ excluded .deadlineEscalation) (present : v.row = some row)
      (state : row.case.state ∈ [CaseState.unknown, .verifying]) (moved : row.Moved .escalated row')
      (found : r ∈ v.actions) (marked : f = ActionRow.deadLetter t ∨
        r.status = .succeeded ∧ f = ActionRow.deadLetter t ∘ ActionRow.verificationExpired t)
      (noted : Noted k r v.outcomes outcomes) :
      Change excluded db k v
        { v with row := some row', outcomes := outcomes, actions := Table.update ActionRow.id r.id f v.actions }
  | reconciled (row row' : CaseRow) (s : CaseState) (r : ActionRow) (status : ActionStatus)
      (actions : List ActionRow) (outcomes : List VerifiedOutcome) (present : v.row = some row)
      (state : row.case.state ∈ [CaseState.unknown, .verifying]) (after : s ∈ [CaseState.verifying, .decisionPending])
      (moved : row.Moved s row') (found : r ∈ v.actions) (settled : status ∈ [ActionStatus.succeeded, .failed])
      (confirmed : s = .verifying → status = .failed → excluded .unconfirmedFailure → OtherOpen r v.actions)
      (resolved : Resolved r.id status v.actions actions) (noted : Noted k r v.outcomes outcomes) :
      Change excluded db k v { v with row := some row', actions := actions, outcomes := outcomes }
  | credited (row row' : CaseRow) (r : ActionRow) (actions : List ActionRow) (o : VerifiedOutcome)
      (present : v.row = some row) (state : row.case.state ∈ [CaseState.unknown, .verifying])
      (moved : row.Moved .recovered row') (found : r ∈ v.actions) (resolved : Resolved r.id .succeeded v.actions actions)
      (made : o.Of k r) (credits : creditsMoney o = true)
      (amount : o.recoveredAmountMinor = r.action.parameters.amountMinor)
      (currency : o.currency = r.action.parameters.currency)
      (new : ∀ p ∈ v.outcomes, p.outcomeId ≠ o.outcomeId) :
      Change excluded db k v { v with row := some row', actions := actions, outcomes := v.outcomes ++ [o] }
  | shadowed (row row' : CaseRow) (r : ActionRow) (actions : List ActionRow) (o : VerifiedOutcome)
      (allowed : o.SignedSuccess ∨ ¬ excluded .shadowedOutcome) (present : v.row = some row)
      (state : row.case.state ∈ [CaseState.unknown, .verifying]) (moved : row.Moved .recovered row')
      (found : r ∈ v.actions) (resolved : Resolved r.id .succeeded v.actions actions) (stored : o ∈ db.outcomes)
      (same : o.outcomeId.actionId = r.id) :
      Change excluded db k v { v with row := some row', actions := actions }
  | late (r : ActionRow) (t : Instant) (object : Option String) (found : r ∈ v.actions) (accepted : resolvable r) :
      Change excluded db k v
        { v with actions := Table.update ActionRow.id r.id (ActionRow.resolve .succeeded t object none) v.actions }
  | mismatched (row row' : CaseRow) (present : v.row = some row)
      (state : row.case.state ∈ [CaseState.unknown, .verifying, .policyCheck, .escalated])
      (unescalated : excluded .mismatchEscalated → row.case.state ≠ .escalated) (moved : row.Moved .stopped row') :
      Change excluded db k v { v with row := some row' }

/-- One step of the protocol, seen by every case. -/
structure Step (excluded : Kind → Prop) (db db' : Database) : Prop where
  change : ∀ k, Change excluded db k (view k db) (view k db')
  kept : Kept db db'

def Steps (excluded : Kind → Prop) : Database → Database → Prop := Relation.ReflTransGen (Step excluded)

variable {excluded : Kind → Prop} {d e f : Database}

theorem Step.ofLocal {k : CaseKey} (isLocal : Local k d e) (change : Change excluded d k (view k d) (view k e)) :
    Step excluded d e := by
  refine ⟨fun k' => ?_, isLocal.kept⟩
  by_cases same : k' = k
  · subst same
    exact change
  · rw [isLocal.elsewhere k' same]
    exact .idle

theorem Step.ofUnseen (h : Unseen d e) : Step excluded d e :=
  ⟨fun k => by rw [h.same k]; exact .idle, h.kept⟩

theorem Steps.refl (d : Database) : Steps excluded d d := Relation.ReflTransGen.refl

theorem Steps.single (h : Step excluded d e) : Steps excluded d e := Relation.ReflTransGen.single h

theorem Steps.trans (h : Steps excluded d e) (h' : Steps excluded e f) : Steps excluded d f :=
  Relation.ReflTransGen.trans h h'

theorem Steps.kept (h : Steps excluded d e) : Kept d e := by
  induction h with
  | refl => exact .refl d
  | tail _ step ih => exact ih.trans step.kept

/-- A property of the store that every step keeps holds after any number of them. -/
theorem Steps.invariant (Inv : Database → Prop) (h : Steps excluded d e) (base : Inv d)
    (step : ∀ {d e}, Step excluded d e → Inv d → Inv e) : Inv e := by
  induction h with
  | refl => exact base
  | tail _ s ih => exact step s ih

end RevenueGuard
