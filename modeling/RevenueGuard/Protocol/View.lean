import RevenueGuard.System

/-
The store seen from one case: its row, evidence links, reviews, receipts,
actions and outcomes. A transaction about one case leaves the view of every
other case and the tables no case owns as they were.
-/
namespace RevenueGuard

structure CaseView where
  row : Option CaseRow
  links : List CaseEventRow
  reviews : List HumanReviewRequest
  receipts : List ReceiptRow
  actions : List ActionRow
  outcomes : List VerifiedOutcome

def CaseEventRow.key (l : CaseEventRow) : Option CaseKey := l.caseId.map fun c => ⟨l.merchantId, c⟩

def PromiseRow.key (p : PromiseRow) : CaseKey := ⟨p.merchantId, p.caseId⟩

def view (k : CaseKey) (db : Database) : CaseView :=
  { row := db.caseRow k
    links := Table.select CaseEventRow.key (some k) db.caseEvents
    reviews := Table.select HumanReviewRequest.key k db.reviews
    receipts := Table.select ReceiptRow.key k db.receipts
    actions := Table.select ActionRow.key k db.actions
    outcomes := Table.select VerifiedOutcome.key k db.outcomes }

def CaseView.state (v : CaseView) : Option CaseState := v.row.map (·.case.state)

def Database.stateOf (db : Database) (k : CaseKey) : Option CaseState := (view k db).state

theorem CaseView.state_of {v : CaseView} {row : CaseRow} (present : v.row = some row) :
    v.state = some row.case.state := by
  rw [CaseView.state, present]
  rfl

/-- What stays of a case for good. -/
structure CaseAnchor where
  caseId : Identifier
  merchantId : Identifier
  workflowType : WorkflowType
  subjectType : SubjectType
  subjectId : Identifier
  customerId : Option Identifier
  revenueAtRiskMinor : Nat
  currency : Currency
  createdAt : Instant
deriving DecidableEq

def RecoveryCase.anchor (c : RecoveryCase) : CaseAnchor :=
  ⟨c.caseId, c.merchantId, c.workflowType, c.subjectType, c.subjectId, c.customerId, c.revenueAtRiskMinor, c.currency,
    c.createdAt⟩

theorem key_of_anchor {c d : RecoveryCase} (h : c.anchor = d.anchor) : c.key = d.key := by
  simp only [RecoveryCase.anchor, CaseAnchor.mk.injEq] at h
  simp [RecoveryCase.key, h.1, h.2.1]

theorem facts_of_anchor {c d : RecoveryCase} (h : c.anchor = d.anchor) (db : Database) :
    authoritativeFactsForCase c db = authoritativeFactsForCase d db := by
  simp only [RecoveryCase.anchor, CaseAnchor.mk.injEq] at h
  simp only [authoritativeFactsForCase, h.2.1, h.2.2.2.1, h.2.2.2.2.1]

/-- The row after a step: the same case and episode, in state `s`. -/
structure CaseRow.Moved (row : CaseRow) (s : CaseState) (row' : CaseRow) : Prop where
  anchor : row'.case.anchor = row.case.anchor
  episode : row'.recoveryEpisodeKey = row.recoveryEpisodeKey
  state : row'.case.state = s

theorem CaseRow.Moved.trans {row row' row'' : CaseRow} {s t : CaseState} (first : row.Moved s row')
    (second : row'.Moved t row'') : row.Moved t row'' :=
  ⟨second.anchor.trans first.anchor, second.episode.trans first.episode, second.state⟩

theorem CaseRow.Moved.key_eq {row row' : CaseRow} {s : CaseState} (h : row.Moved s row') : row'.key = row.key :=
  key_of_anchor h.anchor

/-- The tables no case owns, as one transaction about cases leaves them. -/
structure Kept (db db' : Database) : Prop where
  merchants : db'.merchants = db.merchants
  customers : db'.customers = db.customers
  policies : db'.policies = db.policies
  payments : db'.payments = db.payments
  subscriptions : db'.subscriptions = db.subscriptions
  invoices : db'.invoices = db.invoices
  events : db'.events = db.events
  promises : db'.promises.map PromiseRow.key = db.promises.map PromiseRow.key
  reviewIds : (db.reviews.map HumanReviewRequest.id).Nodup → (db'.reviews.map HumanReviewRequest.id).Nodup
  caseKeys : (db.cases.map CaseRow.key).Nodup → (db'.cases.map CaseRow.key).Nodup

theorem Kept.refl (db : Database) : Kept db db := ⟨rfl, rfl, rfl, rfl, rfl, rfl, rfl, rfl, id, id⟩

theorem Kept.trans {d e f : Database} (h : Kept d e) (h' : Kept e f) : Kept d f where
  merchants := h'.merchants.trans h.merchants
  customers := h'.customers.trans h.customers
  policies := h'.policies.trans h.policies
  payments := h'.payments.trans h.payments
  subscriptions := h'.subscriptions.trans h.subscriptions
  invoices := h'.invoices.trans h.invoices
  events := h'.events.trans h.events
  promises := h'.promises.trans h.promises
  reviewIds := h'.reviewIds ∘ h.reviewIds
  caseKeys := h'.caseKeys ∘ h.caseKeys

theorem Kept.facts {db db' : Database} (h : Kept db db') (case : RecoveryCase) :
    (authoritativeFactsForCase case db').status = (authoritativeFactsForCase case db).status := by
  unfold authoritativeFactsForCase
  split
  · simp only [subscriptionFacts, h.subscriptions]
  · simp only [paymentFacts, h.payments]
  · simp only [invoiceFacts, h.invoices]; split <;> rfl
  · rfl

theorem Kept.event {db db' : Database} (h : Kept db db') (merchantId eventId : Identifier) :
    db'.event merchantId eventId = db.event merchantId eventId := by
  simp only [Database.event, h.events]

/-- A transaction about the case `k` alone. -/
structure Local (k : CaseKey) (db db' : Database) : Prop where
  elsewhere : ∀ k', k' ≠ k → view k' db' = view k' db
  kept : Kept db db'

theorem Local.refl (k : CaseKey) (db : Database) : Local k db db := ⟨fun _ _ => rfl, .refl db⟩

theorem Local.trans {k : CaseKey} {d e f : Database} (h : Local k d e) (h' : Local k e f) : Local k d f :=
  ⟨fun k' ne => (h'.elsewhere k' ne).trans (h.elsewhere k' ne), h.kept.trans h'.kept⟩

/-- A transaction no case sees. -/
structure Unseen (db db' : Database) : Prop where
  same : ∀ k, view k db' = view k db
  kept : Kept db db'

theorem Unseen.local {db db' : Database} (h : Unseen db db') (k : CaseKey) : Local k db db' :=
  ⟨fun k' _ => h.same k', h.kept⟩

theorem Unseen.refl (db : Database) : Unseen db db := ⟨fun _ => rfl, .refl db⟩

theorem Unseen.trans {d e f : Database} (h : Unseen d e) (h' : Unseen e f) : Unseen d f :=
  ⟨fun k => (h'.same k).trans (h.same k), h.kept.trans h'.kept⟩

section tables

variable {R : Type}

theorem select_update_self {key : R → CaseKey} {K : Type} [DecidableEq K] {id : R → K} {i : K} {f : R → R}
    (keeps : ∀ r, id r = i → key (f r) = key r) (k : CaseKey) (rows : List R) :
    Table.select key k (Table.update id i f rows) = Table.update id i f (Table.select key k rows) := by
  unfold Table.select
  exact Table.filter_update (fun r hr => by simp [keeps r hr]) rows

theorem select_update_ne {key : R → CaseKey} {K : Type} [DecidableEq K] {id : R → K} {i : K} {f : R → R}
    {k : CaseKey} {rows : List R} (keeps : ∀ r, id r = i → key (f r) = key r)
    (ne : ∀ r ∈ rows, id r = i → key r ≠ k) :
    Table.select key k (Table.update id i f rows) = Table.select key k rows := by
  rw [select_update_self keeps]
  refine Table.update_absent fun r hr hi => ?_
  obtain ⟨member, here⟩ := Table.mem_select.mp hr
  exact ne r member hi here

theorem select_append_ne {K : Type} [DecidableEq K] {key : R → K} {k : K} {r : R} (ne : key r ≠ k) (rows : List R) :
    Table.select key k (rows ++ [r]) = Table.select key k rows := by
  rw [Table.select_append, if_neg ne]

theorem select_append_self {K : Type} [DecidableEq K] {key : R → K} {k : K} {r : R} (here : key r = k) (rows : List R) :
    Table.select key k (rows ++ [r]) = Table.select key k rows ++ [r] := by
  rw [Table.select_append, if_pos here]

end tables

theorem action_mem_view {db : Database} {id : ActionIdentity} {r : ActionRow} (h : db.action id = some r) :
    r.id = id ∧ r ∈ (view id.key db).actions := by
  have here : r.id = id := Table.lookup_key h
  exact ⟨here, Table.mem_select.mpr ⟨Table.lookup_mem h, by rw [← here]; rfl⟩⟩

theorem action_of_view (db : Database) (id : ActionIdentity) :
    db.action id = Table.lookup ActionRow.id id (view id.key db).actions := by
  have within : ∀ r : ActionRow, r.id = id → r.key = id.key := fun r here => by rw [← here]; rfl
  exact (Table.lookup_select within).symm

theorem caseOf_row {db : Database} {k : CaseKey} {case : RecoveryCase} (h : db.caseOf k = some case) :
    ∃ row, (view k db).row = some row ∧ row.case = case ∧ row.key = k := by
  simp only [Database.caseOf, Option.map_eq_some_iff] at h
  obtain ⟨row, found, rfl⟩ := h
  exact ⟨row, found, rfl, Table.lookup_key found⟩

/-- The store holds this case, perhaps with other counters. -/
def Tracks (case : RecoveryCase) (db : Database) : Prop :=
  ∃ row, (view case.key db).row = some row ∧ row.case.anchor = case.anchor ∧ row.case.state = case.state

theorem tracks_caseOf {db : Database} {k : CaseKey} {case : RecoveryCase} (h : db.caseOf k = some case) :
    case.key = k ∧ Tracks case db := by
  obtain ⟨row, found, rfl, here⟩ := caseOf_row h
  exact ⟨here, row, by rw [show row.case.key = k from here]; exact found, rfl, rfl⟩

theorem row_key {db : Database} {k : CaseKey} {row : CaseRow} (h : (view k db).row = some row) : row.key = k :=
  Table.lookup_key h

end RevenueGuard
