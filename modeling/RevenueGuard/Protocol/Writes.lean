import RevenueGuard.Domain.Decisions
import RevenueGuard.Protocol.Effects

/-
Who writes a case's row, and how: every service leaves the cases alone, opens
one, attaches an incident, moves one case by a legal transition, or counts one
attempt, each from the row as it is stored.
-/
namespace RevenueGuard

/-- What a case's writers compare, count and stamp. -/
structure CaseLedger where
  anchor : CaseAnchor
  state : CaseState
  stateVersion : Nat
  retryCount : Nat
  contactCount : Nat
  updatedAt : Instant
  terminalReason : Option String
deriving DecidableEq

def RecoveryCase.ledger (c : RecoveryCase) : CaseLedger :=
  ⟨c.anchor, c.state, c.stateVersion, c.retryCount, c.contactCount, c.updatedAt, c.terminalReason⟩

/-- The store holds exactly this case. -/
def Snap (case : RecoveryCase) (db : Database) : Prop :=
  ∃ row, db.caseRow case.key = some row ∧ row.case.ledger = case.ledger

def InForce (m : Identifier) (t : Instant) (policy : MerchantPolicySnapshot) (db : Database) : Prop :=
  (effectivePolicy m t).run db = .ok (policy, db)

/-- The tables a call that writes cases reads and never writes. -/
structure Fixed (db db' : Database) : Prop where
  policies : db'.policies = db.policies
  events : db'.events = db.events

/-- No evidence is linked and no decision is put down. -/
structure Silent (db db' : Database) : Prop where
  links : db'.caseEvents = db.caseEvents
  receipts : db'.receipts = db.receipts
  fixed : Fixed db db'

/-- A step that no case sees. -/
structure Quiet (db db' : Database) : Prop where
  cases : db'.cases = db.cases
  transitions : db'.transitions = db.transitions
  silent : Silent db db'

theorem Quiet.fixed {db db' : Database} (h : Quiet db db') : Fixed db db' := h.silent.fixed

/-- A row with other columns than its ledger, its episode and its watermark. -/
structure CaseRow.Touched (row row' : CaseRow) : Prop where
  ledger : row'.case.ledger = row.case.ledger
  episode : row'.recoveryEpisodeKey = row.recoveryEpisodeKey
  eventId : row'.latestEvidenceEventId = row.latestEvidenceEventId
  occurredAt : row'.latestEvidenceOccurredAt = row.latestEvidenceOccurredAt

/-- A row like that, but for the time it was written at. -/
structure CaseRow.Stamped (row row' : CaseRow) : Prop where
  ledger : row'.case.ledger = { row.case.ledger with updatedAt := row'.case.updatedAt }
  episode : row'.recoveryEpisodeKey = row.recoveryEpisodeKey
  eventId : row'.latestEvidenceEventId = row.latestEvidenceEventId
  occurredAt : row'.latestEvidenceOccurredAt = row.latestEvidenceOccurredAt

/-- The row's time stands, or it goes on in a call that comes no earlier. -/
def CaseRow.Punctual (now : Instant) (row row' : CaseRow) : Prop :=
  row'.case.updatedAt = row.case.updatedAt ∨ row.case.updatedAt ≤ row'.case.updatedAt ∧ row.case.updatedAt ≤ now

structure CaseRow.Fresh (row : CaseRow) : Prop where
  state : row.case.state = .detected
  version : row.case.stateVersion = 1
  retries : row.case.retryCount = 0
  contacts : row.case.contactCount = 0
  reason : row.case.terminalReason = none

/-- One call of a service: its instant, whether its attempts are in time, the evidence it may put on a case, and the
links it may make. -/
structure Writer where
  now : Instant
  timely : Prop
  hears : CaseKey → NormalizedEvent → Prop
  links : CaseEventRow → Prop

/-- The receipt of an evaluation, not of a reminder. -/
def ReceiptRow.Evaluation (r : ReceiptRow) : Prop := match r.receiptId with
  | .generated _ => True
  | .promise _ _ _ => False

def RecoveryCase.settle (case : RecoveryCase) (t : Transition) (d : Option Diagnosis) (retry : Bool) : RecoveryCase :=
  ((case.moved t).withDiagnosis d).countRetry retry

def RetriesLeft (case : RecoveryCase) (t : Instant) (db : Database) : Prop :=
  ∃ policy, InForce case.merchantId t policy db ∧ case.retryCount < policy.retryLimit

/-- The contacts of the whole customer are below the limit in force. -/
def ContactsLeft (case : RecoveryCase) (t : Instant) (db : Database) : Prop :=
  ∃ policy customer, InForce case.merchantId t policy db ∧ case.customerId = some customer ∧
    (contactSnapshot case.merchantId customer db).aggregateContactCount < policy.contactLimit

inductive CaseWrite (w : Writer) (db db' : Database) : Prop
  | quiet (same : Quiet db db')
  | touched (f : CaseRow → CaseRow) (stamps : ∀ row : CaseRow, row.Stamped (f row))
      (punctual : w.timely → ∀ k row, db.caseRow k = some row → row.Punctual w.now (f row))
      (cases : db'.cases = db.cases.map f) (transitions : db'.transitions = db.transitions) (silent : Silent db db')
  | created (row : CaseRow) (event : NormalizedEvent) (new : db.caseRow row.key = none) (fresh : row.Fresh)
      (heard : w.hears row.key event) (eventId : row.latestEvidenceEventId = some event.eventId)
      (occurredAt : row.latestEvidenceOccurredAt = some event.occurredAt) (cases : db'.cases = db.cases ++ [row])
      (transitions : db'.transitions = db.transitions) (silent : Silent db db')
  | moved (case : RecoveryCase) (t : Transition) (d : Option Diagnosis) (e : Option NormalizedEvent) (retry : Bool)
      (snap : Snap case db) (legal : t.Legal case) (instant : t.occurredAt = w.now)
      (heard : ∀ event ∈ e, w.hears case.key event) (below : retry = true → RetriesLeft case w.now db)
      (cases : db'.cases =
        Table.update CaseRow.key case.key (fun r => r.apply (case.settle t d retry) e) db.cases)
      (transitions : db'.transitions = db.transitions ++ [case.transition t]) (silent : Silent db db')
  | counted (case : RecoveryCase) (retry contact : Nat) (snap : Snap case db) (one : retry + contact = 1)
      (timely : w.timely → case.updatedAt ≤ w.now) (retries : retry = 1 → RetriesLeft case w.now db)
      (contacts : contact = 1 → ContactsLeft case w.now db)
      (cases : db'.cases =
        Table.update CaseRow.key case.key (CaseRow.count (case.counted retry contact w.now)) db.cases)
      (transitions : db'.transitions = db.transitions) (silent : Silent db db')
  | linked (link : CaseEventRow) (told : w.links link) (cases : db'.cases = db.cases)
      (transitions : db'.transitions = db.transitions) (links : db'.caseEvents = db.caseEvents ++ [link])
      (receipts : db'.receipts = db.receipts) (fixed : Fixed db db')
  | receipted (receipt : ReceiptRow)
      (told : receipt.Evaluation → ∃ event, w.hears receipt.key event ∧
        receipt.evidenceReferences = [.event event.eventId])
      (cases : db'.cases = db.cases) (transitions : db'.transitions = db.transitions)
      (links : db'.caseEvents = db.caseEvents) (receipts : db'.receipts = db.receipts ++ [receipt]) (fixed : Fixed db db')

def Writes (w : Writer) : Database → Database → Prop := Relation.ReflTransGen (CaseWrite w)

variable {w : Writer} {db d db' : Database} {case updated moved : RecoveryCase}

theorem Fixed.refl (db : Database) : Fixed db db := ⟨rfl, rfl⟩

theorem Fixed.trans {d e f : Database} (h : Fixed d e) (h' : Fixed e f) : Fixed d f :=
  ⟨h'.policies.trans h.policies, h'.events.trans h.events⟩

theorem Silent.refl (db : Database) : Silent db db := ⟨rfl, rfl, .refl db⟩

theorem Silent.trans {d e f : Database} (h : Silent d e) (h' : Silent e f) : Silent d f :=
  ⟨h'.links.trans h.links, h'.receipts.trans h.receipts, h.fixed.trans h'.fixed⟩

theorem Quiet.refl (db : Database) : Quiet db db := ⟨rfl, rfl, .refl db⟩

theorem Quiet.trans {d e f : Database} (h : Quiet d e) (h' : Quiet e f) : Quiet d f :=
  ⟨h'.cases.trans h.cases, h'.transitions.trans h.transitions, h.silent.trans h'.silent⟩

theorem quiet_closed : Tx.Closed Quiet := ⟨Quiet.refl, Quiet.trans⟩

theorem Writes.refl (db : Database) : Writes w db db := Relation.ReflTransGen.refl

theorem Writes.trans {d e f : Database} (h : Writes w d e) (h' : Writes w e f) : Writes w d f :=
  Relation.ReflTransGen.trans h h'

theorem Writes.single (h : CaseWrite w db db') : Writes w db db' := Relation.ReflTransGen.single h

theorem Quiet.writes (h : Quiet db db') : Writes w db db' := .single (.quiet h)

theorem CaseWrite.fixed (h : CaseWrite w db db') : Fixed db db' := by
  cases h with
  | quiet same => exact same.fixed
  | touched _ _ _ _ _ silent => exact silent.fixed
  | created _ _ _ _ _ _ _ _ _ silent => exact silent.fixed
  | moved _ _ _ _ _ _ _ _ _ _ _ _ silent => exact silent.fixed
  | counted _ _ _ _ _ _ _ _ _ _ silent => exact silent.fixed
  | linked _ _ _ _ _ _ fixed => exact fixed
  | receipted _ _ _ _ _ _ fixed => exact fixed

theorem Writes.fixed (h : Writes w db db') : Fixed db db' := by
  induction h with
  | refl => exact .refl db
  | tail _ step ih => exact ih.trans step.fixed

theorem InForce.of_policies {m : Identifier} {t : Instant} {policy : MerchantPolicySnapshot}
    (h : InForce m t policy db) (same : db'.policies = db.policies) : InForce m t policy db' := by
  obtain ⟨_, _, read, h⟩ := Tx.bind_ok h
  obtain ⟨rfl, rfl⟩ := Tx.read_ok read
  obtain ⟨row, _, found, h⟩ := Tx.bind_ok h
  obtain ⟨here, rfl⟩ := Tx.found_ok found
  obtain ⟨_, _, checked, h⟩ := Tx.bind_ok h
  obtain ⟨digest, rfl⟩ := Tx.check_ok checked
  obtain ⟨rfl, -⟩ := Tx.pure_ok h
  rw [← same] at here
  exact (Tx.bind_of_ok (Tx.run_read _ _)).trans ((Tx.bind_of_ok (by rw [here]; rfl)).trans
    ((Tx.bind_of_ok (Tx.check_of digest)).trans rfl))

theorem inForce_ok {m : Identifier} {t : Instant} {policy : MerchantPolicySnapshot}
    (h : (effectivePolicy m t).run db = .ok (policy, db')) : InForce m t policy db ∧ db = db' := by
  obtain ⟨-, rfl⟩ := effectivePolicy_effect h
  exact ⟨h, rfl⟩

theorem snap_caseOf {k : CaseKey} (h : db.caseOf k = some case) : case.key = k ∧ Snap case db := by
  obtain ⟨row, found, rfl, here⟩ := caseOf_row h
  exact ⟨here, row, by rw [show row.case.key = k from here]; exact found, rfl⟩

theorem key_of_ledger {c d : RecoveryCase} (h : c.ledger = d.ledger) : c.key = d.key :=
  key_of_anchor (congrArg CaseLedger.anchor h)

/-- Cases that agree on the ledger are held alike. -/
theorem Snap.congr {c : RecoveryCase} (h : Snap case db) (same : c.ledger = case.ledger) : Snap c db := by
  obtain ⟨row, found, ledger⟩ := h
  exact ⟨row, by rw [key_of_ledger same]; exact found, ledger.trans same.symm⟩

theorem Snap.of_cases (h : Snap case db) (same : db'.cases = db.cases) : Snap case db' := by
  obtain ⟨row, found, ledger⟩ := h
  exact ⟨row, by rw [Database.caseRow, same]; exact found, ledger⟩

theorem Snap.quiet (h : Snap case db) (same : Quiet db db') : Snap case db' := h.of_cases same.cases

/-- A case written by one call, and held as written. -/
structure Wrote (w : Writer) (case updated : RecoveryCase) (db db' : Database) : Prop where
  writes : Writes w db db'
  snap : Snap updated db'
  key : updated.key = case.key

theorem Wrote.refl (h : Snap case db) : Wrote w case case db db := ⟨.refl db, h, rfl⟩

theorem Wrote.trans (h : Wrote w case updated db d) (h' : Wrote w updated moved d db') : Wrote w case moved db db' :=
  ⟨h.writes.trans h'.writes, h'.snap, h'.key.trans h.key⟩

theorem Wrote.quiet (h : Wrote w case updated db d) (same : Quiet d db') : Wrote w case updated db db' :=
  ⟨h.writes.trans same.writes, h.snap.quiet same, h.key⟩

theorem Wrote.after (same : Quiet db d) (h : Wrote w case updated d db') : Wrote w case updated db db' :=
  ⟨same.writes.trans h.writes, h.snap, h.key⟩

theorem settle_ledger (case : RecoveryCase) (t : Transition) (d : Option Diagnosis) (retry : Bool) :
    (case.settle t d retry).ledger = ⟨case.anchor, t.toState, case.stateVersion + 1,
      case.retryCount + (if retry then 1 else 0), case.contactCount, t.occurredAt, t.terminalReason⟩ := by
  cases d <;> cases retry <;> rfl

theorem settle_anchor (case : RecoveryCase) (t : Transition) (d : Option Diagnosis) (retry : Bool) :
    (case.settle t d retry).anchor = case.anchor := congrArg CaseLedger.anchor (settle_ledger case t d retry)

theorem apply_ledger {row : CaseRow} {c : RecoveryCase} (same : row.case.anchor = c.anchor) (e : Option NormalizedEvent) :
    (row.apply c e).case.ledger = c.ledger := by
  have anchor : (row.apply c e).case.anchor = row.case.anchor := rfl
  simp only [RecoveryCase.ledger, anchor, same]
  rfl

theorem count_ledger {row : CaseRow} (same : row.case.ledger = case.ledger) (retry contact : Nat) (t : Instant) :
    (row.count (case.counted retry contact t)).case.ledger = (case.counted retry contact t).ledger := by
  simp only [RecoveryCase.ledger, CaseLedger.mk.injEq] at same ⊢
  exact ⟨same.1, same.2.1, same.2.2.1, rfl, rfl, rfl, same.2.2.2.2.2.2⟩

theorem recoveryTransition_ran {t : Transition} {e : Option NormalizedEvent} {retry : Bool} {o : Option Diagnosis}
    (h : (recoveryTransition case t o e retry).run db = .ok (updated, db')) :
    updated = case.settle t o retry ∧ t.Legal case ∧ db' = { db with
      cases := Table.update CaseRow.key case.key (fun r => r.apply (case.settle t o retry) e) db.cases
      transitions := db.transitions ++ [case.transition t] } := by
  obtain ⟨decided, _, lifted, h⟩ := Tx.bind_ok h
  obtain ⟨made, rfl⟩ := Tx.lift_ok lifted
  obtain ⟨-, legal, rfl⟩ := transitionCase_ok made
  obtain ⟨_, _, applied, h⟩ := Tx.bind_ok h
  obtain ⟨rfl, rfl⟩ := Tx.pure_ok h
  obtain ⟨_, _, read, applied⟩ := Tx.bind_ok applied
  obtain ⟨rfl, rfl⟩ := Tx.read_ok read
  obtain ⟨_, _, checked, applied⟩ := Tx.bind_ok applied
  obtain ⟨-, rfl⟩ := Tx.check_ok checked
  exact ⟨rfl, legal, Tx.write_ok applied⟩

/-- A case moved on is held as it was moved. -/
theorem Snap.settled (h : Snap case db) (t : Transition) (o : Option Diagnosis) (retry : Bool) (e : Option NormalizedEvent)
    (cases : db'.cases = Table.update CaseRow.key case.key (fun r => r.apply (case.settle t o retry) e) db.cases) :
    Snap (case.settle t o retry) db' := by
  obtain ⟨row, found, ledger⟩ := h
  refine ⟨row.apply (case.settle t o retry) e, ?_, apply_ledger ?_ e⟩
  · rw [key_of_anchor (settle_anchor case t o retry), Database.caseRow, cases]
    exact (Table.lookup_update_self (keepsKey_apply _ _ e) db.cases).trans (by rw [← Database.caseRow, found]; rfl)
  · rw [settle_anchor]
    exact congrArg CaseLedger.anchor ledger

/-- A transition from the case as it is stored is one write. -/
theorem recoveryTransition_wrote {t : Transition} {e : Option NormalizedEvent} {retry : Bool} {o : Option Diagnosis}
    (snap : Snap case db) (instant : t.occurredAt = w.now) (heard : ∀ event ∈ e, w.hears case.key event)
    (below : retry = true → RetriesLeft case w.now db)
    (h : (recoveryTransition case t o e retry).run db = .ok (updated, db')) :
    updated = case.settle t o retry ∧ t.Legal case ∧ Wrote w case updated db db' := by
  obtain ⟨rfl, legal, rfl⟩ := recoveryTransition_ran h
  exact ⟨rfl, legal, .single (.moved case t o e retry snap legal instant heard below rfl rfl ⟨rfl, rfl, ⟨rfl, rfl⟩⟩),
    snap.settled t o retry e rfl, key_of_anchor (settle_anchor case t o retry)⟩

theorem recordExecutionAttemptCounters_wrote {retry contact : Nat} {t : Instant} (snap : Snap case db) (now : t = w.now)
    (timely : 0 < retry + contact → w.timely → case.updatedAt ≤ w.now) (retries : retry = 1 → RetriesLeft case w.now db)
    (contacts : contact = 1 → ContactsLeft case w.now db)
    (h : (recordExecutionAttemptCounters case retry contact t).run db = .ok (updated, db')) :
    updated.state = case.state ∧ Wrote w case updated db db' := by
  subst now
  obtain ⟨_, _, checked, h⟩ := Tx.bind_ok h
  obtain ⟨-, rfl⟩ := Tx.check_ok checked
  obtain ⟨_, _, checked, h⟩ := Tx.bind_ok h
  obtain ⟨most, rfl⟩ := Tx.check_ok checked
  split at h
  · obtain ⟨rfl, rfl⟩ := Tx.pure_ok h
    exact ⟨rfl, .refl snap⟩
  rename_i some_
  obtain ⟨_, _, checked, h⟩ := Tx.bind_ok h
  obtain ⟨-, rfl⟩ := Tx.check_ok checked
  obtain ⟨_, _, read, h⟩ := Tx.bind_ok h
  obtain ⟨rfl, rfl⟩ := Tx.read_ok read
  obtain ⟨_, _, checked, h⟩ := Tx.bind_ok h
  obtain ⟨-, rfl⟩ := Tx.check_ok checked
  obtain ⟨_, _, written, h⟩ := Tx.bind_ok h
  have written := Tx.write_ok written
  subst written
  obtain ⟨rfl, rfl⟩ := Tx.pure_ok h
  refine ⟨rfl, .single (.counted case retry contact snap (by omega) (timely (by omega)) retries contacts rfl rfl ⟨rfl, rfl, ⟨rfl, rfl⟩⟩), ?_,
    rfl⟩
  obtain ⟨row, found, ledger⟩ := snap
  refine ⟨row.count (case.counted retry contact w.now), ?_, count_ledger ledger retry contact w.now⟩
  have lookup := Table.lookup_update_self (keepsKey_count case.key (case.counted retry contact w.now)) db.cases
  rw [show Table.lookup CaseRow.key case.key db.cases = some row from found] at lookup
  exact lookup

/-- A receipt is one more entry of the log, and an evaluation's names what it heard. -/
theorem storeReceipt_ran {receipt : ReceiptRow} {u : Unit}
    (h : (storeReceipt receipt).run db = .ok (u, db')) : db' = { db with receipts := db.receipts ++ [receipt] } := by
  obtain ⟨_, _, read, h⟩ := Tx.bind_ok h
  obtain ⟨rfl, rfl⟩ := Tx.read_ok read
  obtain ⟨_, _, checked, h⟩ := Tx.bind_ok h
  obtain ⟨-, rfl⟩ := Tx.check_ok checked
  exact Tx.write_ok h

theorem storeReceipt_write {receipt : ReceiptRow} {u : Unit}
    (told : receipt.Evaluation → ∃ event, w.hears receipt.key event ∧ receipt.evidenceReferences = [.event event.eventId])
    (h : (storeReceipt receipt).run db = .ok (u, db')) : Writes w db db' ∧ db'.cases = db.cases := by
  have written := storeReceipt_ran h
  subst written
  exact ⟨.single (.receipted receipt told rfl rfl rfl rfl ⟨rfl, rfl⟩), rfl⟩

/-- A link is found under its event, or is one more entry of the log. -/
theorem linkEvidence_ran {link : CaseEventRow} {made : EvidenceLinkResult}
    (h : (linkEvidence link).run db = .ok (made, db')) :
    (made.created = false ∧ Table.lookup CaseEventRow.id link.id db.caseEvents = some made.link ∧ db' = db) ∨
      (made = ⟨link, true⟩ ∧ Table.lookup CaseEventRow.id link.id db.caseEvents = none ∧
        db' = { db with caseEvents := db.caseEvents ++ [link] }) := by
  obtain ⟨existing, _, read, h⟩ := Tx.bind_ok h
  obtain ⟨rfl, rfl⟩ := Tx.read_ok read
  split at h
  · rename_i found
    obtain ⟨rfl, rfl⟩ := Tx.pure_ok h
    exact .inl ⟨rfl, found, rfl⟩
  · rename_i absent
    obtain ⟨_, _, written, h⟩ := Tx.bind_ok h
    have written := Tx.write_ok written
    subst written
    obtain ⟨rfl, rfl⟩ := Tx.pure_ok h
    exact .inr ⟨rfl, absent, rfl⟩

theorem linkEvidence_write {link : CaseEventRow} {made : EvidenceLinkResult} (told : w.links link)
    (h : (linkEvidence link).run db = .ok (made, db')) : Writes w db db' ∧ db'.cases = db.cases := by
  rcases linkEvidence_ran h with ⟨-, -, rfl⟩ | ⟨-, -, rfl⟩
  · exact ⟨.refl _, rfl⟩
  · exact ⟨.single (.linked link told rfl rfl rfl rfl ⟨rfl, rfl⟩), rfl⟩

section quiet

theorem storeReview_quiet (review : HumanReviewRequest) : Tx.Keeps (storeReview review) Quiet :=
  quiet_closed.bind (quiet_closed.read _) fun _ => quiet_closed.bind (quiet_closed.check _ _) fun _ =>
    Tx.Closed.write fun _ => ⟨rfl, rfl, ⟨rfl, rfl, ⟨rfl, rfl⟩⟩⟩

theorem storeReviewIfAny_quiet (review : Option HumanReviewRequest) : Tx.Keeps (storeReviewIfAny review) Quiet := by
  cases review with
  | none => exact quiet_closed.pure _
  | some review => exact storeReview_quiet review

theorem updateReviewDecision_quiet (m : Identifier) (review : HumanReviewRequest) :
    Tx.Keeps (updateReviewDecision m review) Quiet :=
  quiet_closed.bind (quiet_closed.check _ _) fun _ => quiet_closed.bind (quiet_closed.read _) fun _ =>
    quiet_closed.bind (quiet_closed.check _ _) fun _ => Tx.Closed.write fun _ => ⟨rfl, rfl, ⟨rfl, rfl, ⟨rfl, rfl⟩⟩⟩

theorem storeAction_quiet (action : RecoveryAction) (version : Identifier) (n : Nat) (deadline : Instant) :
    Tx.Keeps (storeAction action version n deadline) Quiet := by
  refine quiet_closed.bind (quiet_closed.check _ _) fun _ => quiet_closed.bind (quiet_closed.check _ _) fun _ =>
    quiet_closed.bind (quiet_closed.read _) fun existing => ?_
  cases existing with
  | some row => exact quiet_closed.pure _
  | none => exact quiet_closed.bind (Tx.Closed.write fun _ => ⟨rfl, rfl, ⟨rfl, rfl, ⟨rfl, rfl⟩⟩⟩) fun _ => quiet_closed.pure _

theorem storeCustomerIntervention_quiet (i : InterventionRow) : Tx.Keeps (storeCustomerIntervention i) Quiet := by
  refine quiet_closed.bind (quiet_closed.read _) fun existing => ?_
  cases existing with
  | some row => exact quiet_closed.check _ _
  | none =>
    exact quiet_closed.bind (quiet_closed.read _) fun _ => quiet_closed.bind (quiet_closed.check _ _) fun _ =>
      Tx.Closed.write fun _ => ⟨rfl, rfl, ⟨rfl, rfl, ⟨rfl, rfl⟩⟩⟩

theorem coordinate_quiet (m customer caseId : Identifier) (t : Instant) :
    Tx.Keeps (coordinateCaseWithActiveIntervention m customer caseId t) Quiet := by
  refine quiet_closed.bind (quiet_closed.read _) fun row => ?_
  cases row with
  | none => exact quiet_closed.pure _
  | some row =>
    dsimp only
    split
    · exact quiet_closed.pure _
    · exact Tx.Closed.write fun _ => ⟨rfl, rfl, ⟨rfl, rfl, ⟨rfl, rfl⟩⟩⟩

theorem customerContactSnapshot_quiet (m customer : Identifier) :
    Tx.Keeps (customerContactSnapshot m customer) Quiet :=
  quiet_closed.bind (quiet_closed.read _) fun _ => quiet_closed.bind (quiet_closed.check _ _) fun _ =>
    quiet_closed.read _

theorem contactFacts_quiet (r : EvaluationRequest) : Tx.Keeps (contactFacts r) Quiet := by
  unfold contactFacts
  split
  · exact quiet_closed.pure _
  · refine quiet_closed.bind (customerContactSnapshot_quiet _ _) fun _ => quiet_closed.bind ?_ fun _ => quiet_closed.pure _
    unfold coordinateWith
    split
    · exact coordinate_quiet _ _ _ _
    · exact quiet_closed.pure _

theorem storeAuthorizedAction_quiet (r : EvaluationRequest) (ids : List Identifier) (action : RecoveryAction) :
    Tx.Keeps (storeAuthorizedAction r ids action) Quiet := by
  refine quiet_closed.bind (storeAction_quiet _ _ _ _) fun _ => ?_
  split
  · split
    · exact storeCustomerIntervention_quiet _
    · exact quiet_closed.pure _
  · exact quiet_closed.pure _

theorem storeActionIfAny_quiet (r : EvaluationRequest) (ids : List Identifier) (action : Option RecoveryAction) :
    Tx.Keeps (storeActionIfAny r ids action) Quiet := by
  cases action with
  | none => exact quiet_closed.pure _
  | some action => exact storeAuthorizedAction_quiet r ids action

theorem storeOutcome_quiet (o : VerifiedOutcome) : Tx.Keeps (storeOutcome o) Quiet := by
  refine quiet_closed.bind (quiet_closed.read _) fun existing => ?_
  cases existing with
  | some row => exact quiet_closed.pure _
  | none =>
    exact quiet_closed.bind (quiet_closed.check _ _) fun _ => quiet_closed.bind (quiet_closed.read _) fun _ =>
      quiet_closed.bind (quiet_closed.check _ _) fun _ => Tx.Closed.write fun _ => ⟨rfl, rfl, ⟨rfl, rfl, ⟨rfl, rfl⟩⟩⟩

theorem storeObservation_quiet (o : VerifiedOutcome) : Tx.Keeps (storeObservation o) Quiet :=
  quiet_closed.bind (quiet_closed.lift _) fun _ => storeOutcome_quiet o

theorem updateAction_quiet (db : Database) (id : ActionIdentity) (f : ActionRow → ActionRow) :
    Quiet db (updateAction id f db) := ⟨rfl, rfl, ⟨rfl, rfl, ⟨rfl, rfl⟩⟩⟩

end quiet

theorem CaseRow.Touched.time {row row' : CaseRow} (h : row.Touched row') : row'.case.updatedAt = row.case.updatedAt :=
  congrArg CaseLedger.updatedAt h.ledger

theorem CaseRow.Touched.stamped {row row' : CaseRow} (h : row.Touched row') : row.Stamped row' :=
  ⟨by rw [h.ledger, h.time]; rfl, h.episode, h.eventId, h.occurredAt⟩

theorem CaseRow.Touched.refl (row : CaseRow) : row.Touched row := ⟨rfl, rfl, rfl, rfl⟩

theorem attach_touched (incident : IncidentConstraint) (row : CaseRow) : row.Touched (row.attach incident) :=
  ⟨rfl, rfl, rfl, rfl⟩

/-- Attaching the incident to the rows of one case. -/
theorem attachTo_touched (key : CaseKey) (first : IncidentConstraint) (row : CaseRow) :
    row.Touched (if row.key = key then row.attach first else row) := by
  split
  · exact attach_touched first row
  · exact .refl row

theorem attachIncidents_write (key : CaseKey) (t : Instant) (code : Option Identifier) (db : Database) :
    CaseWrite w db (attachIncidents key t code db) := by
  unfold attachIncidents
  split
  · exact .quiet ⟨rfl, rfl, ⟨rfl, rfl, ⟨rfl, rfl⟩⟩⟩
  · rename_i first _
    exact .touched (fun r => if r.key = key then r.attach first else r) (fun row => (attachTo_touched key first row).stamped)
      (fun _ _ row _ => .inl (attachTo_touched key first row).time) rfl rfl ⟨rfl, rfl, ⟨rfl, rfl⟩⟩

theorem touched_snap {f : CaseRow → CaseRow} (touches : ∀ row : CaseRow, row.Touched (f row)) (cases : db'.cases = db.cases.map f)
    (snap : Snap case db) : Snap case db' := by
  obtain ⟨row, found, ledger⟩ := snap
  refine ⟨f row, ?_, (touches row).ledger.trans ledger⟩
  have keys : (fun r : CaseRow => decide (CaseRow.key (f r) = case.key)) = fun r => decide (r.key = case.key) := by
    funext r
    rw [show (f r).key = r.key from key_of_ledger (touches r).ledger]
  simp only [Database.caseRow, Table.lookup, cases, List.find?_map, Function.comp_def, keys]
  rw [show db.cases.find? _ = some row from found]
  rfl

theorem attachIncidents_snap (key : CaseKey) (t : Instant) (code : Option Identifier) (snap : Snap case db) :
    Snap case (attachIncidents key t code db) := by
  unfold attachIncidents
  split
  · exact snap
  · rename_i first _
    exact touched_snap (attachTo_touched key first) rfl snap

theorem attachIncidents_wrote (key : CaseKey) (t : Instant) (code : Option Identifier) (snap : Snap case db) :
    Wrote w case case db (attachIncidents key t code db) :=
  ⟨.single (attachIncidents_write key t code db), attachIncidents_snap key t code snap, rfl⟩

section stamps

variable {rt : Runtime} {t : Instant} {row row' : CaseRow}

theorem key_of_stamped (h : row.Stamped row') : row'.key = row.key :=
  key_of_anchor (congrArg CaseLedger.anchor h.ledger)

theorem lookup_touched {f : CaseRow → CaseRow} (stamps : ∀ row : CaseRow, row.Stamped (f row))
    (cases : db'.cases = db.cases.map f) (k : CaseKey) : db'.caseRow k = (db.caseRow k).map f := by
  have keys : (fun r : CaseRow => decide (CaseRow.key (f r) = k)) = fun r => decide (r.key = k) := by
    funext r
    rw [key_of_stamped (stamps r)]
  simp only [Database.caseRow, Table.lookup, cases, List.find?_map, Function.comp_def, keys]

/-- A row flushed with another active incident takes the database's time, and nothing else of its ledger changes. -/
theorem flushed_stamped (h : row.Touched row') (before : Option Identifier) : row.Stamped (row'.flushed rt t before) := by
  unfold CaseRow.flushed
  split
  · exact h.stamped
  · refine ⟨?_, h.episode, h.eventId, h.occurredAt⟩
    exact congrArg (fun ledger : CaseLedger =>
      { ledger with updatedAt := rt.currentTimestamp row'.key row'.case.updatedAt t }) h.ledger

theorem flushed_punctual (h : row.Touched row') {before : Option Identifier}
    (inTime : row'.case.activeIncidentId ≠ before →
      row.case.updatedAt ≤ t ∧ row.case.updatedAt ≤ rt.currentTimestamp row.key row.case.updatedAt t) :
    row.Punctual t (row'.flushed rt t before) := by
  unfold CaseRow.flushed
  split
  · exact .inl h.time
  · rename_i changed
    obtain ⟨call, database⟩ := inTime changed
    refine .inr ⟨?_, call⟩
    rw [← show row'.key = row.key from key_of_ledger h.ledger, ← h.time] at database
    exact h.time.symm.le.trans database

end stamps

end RevenueGuard
