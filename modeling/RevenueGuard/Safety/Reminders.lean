import RevenueGuard.Safety.Promises
import RevenueGuard.Safety.WakeUps

/-
Promise reminders. A maintenance run moves a promise out of its way when the
policy sends the reminder or puts it off to a later time; a promise whose case or
policy does neither is as due after the run as before.
-/
namespace RevenueGuard

variable {db d db' : Database} {rt : Runtime} {t : Instant} {promise : PromiseRow}

section rules

variable {zone : Zone} {policy : MerchantPolicySnapshot} {contacts : Nat} {checking : RecoveryCase}
  {candidates : CandidateList} {incidents : List IncidentConstraint}
  {consent : List (ContactChannel × ConsentState) × List ContactChannel}

/-- The policy lets the customer be reminded by mail. -/
structure Mailable (policy : MerchantPolicySnapshot) (contacts : Nat)
    (consent : List (ContactChannel × ConsentState) × List ContactChannel) : Prop where
  allowed : ActionType.schedulePromiseReminder ∈ policy.allowedActions
  contacts : contacts < policy.contactLimit
  optedIn : ContactChannel.email ∉ consent.2
  granted : (consent.1.reverse.lookup .email).getD .unknown = .granted

/-- The reminder waits for the end of an incident or of the night, or is worth sending and needs no review. -/
def Sendable (zone : Zone) (policy : MerchantPolicySnapshot) (promise : PromiseRow) (incidents : List IncidentConstraint)
    (t : Instant) : Prop :=
  (∃ i ∈ incidents, i.applies (reminderCandidate promise) t = true) ∨
    if inQuietHours zone policy t = true then ¬ TurnedBack zone policy t
    else policy.minimumExpectedNetRecoveryMinor ≤ (reminderCandidate promise).expectedNetRecoveryMinor ∧
      promise.amountMinor < policy.humanReviewAmountMinor ∧
      policy.minimumConfidenceBasisPoints ≤ promise.extractionConfidenceBasisPoints

structure Remindable (zone : Zone) (policy : MerchantPolicySnapshot) (promise : PromiseRow) (contacts : Nat)
    (incidents : List IncidentConstraint) (consent : List (ContactChannel × ConsentState) × List ContactChannel)
    (t : Instant) : Prop extends Mailable policy contacts consent where
  currency : policy.currency = promise.currency
  sendable : Sendable zone policy promise incidents t

/-- The decision authorizes the reminder or gives it a later date. -/
def PolicyDecision.Moves (d : PolicyDecision) (t : Instant) : Prop :=
  d.result = .proceed ∨ ∃ wake ∈ d.nextEvaluationAt, t < wake

theorem reminder_contacts (promise : PromiseRow) : (reminderCandidate promise).actionType.actionClass = .customerContact := rfl

theorem reminder_refused : Refused policy (reminderInput promise checking t candidates incidents consent) (reminderCandidate promise) ↔
    ¬ Mailable policy checking.contactCount consent := by
  constructor
  · rintro (⟨disallowed, -⟩ | ⟨isRetry, -⟩ | ⟨channel, named, unidentified | ⟨-, reached | opted | denied⟩⟩) mailable
    · exact disallowed mailable.allowed
    · cases isRetry
    · cases unidentified
    · exact absurd mailable.contacts (not_lt.mpr reached)
    · cases named
      exact mailable.optedIn opted
    · cases named
      exact denied mailable.granted
  · intro unmailable
    by_contra accepted
    apply unmailable
    constructor
    · by_contra disallowed
      exact accepted (.inl ⟨disallowed, by simp [reminder_contacts, alwaysAllowedClasses]⟩)
    · by_contra reached
      exact accepted (.inr (.inr ⟨_, rfl, .inr ⟨rfl, .inl (not_lt.mp reached)⟩⟩))
    · intro opted
      exact accepted (.inr (.inr ⟨_, rfl, .inr ⟨rfl, .inr (.inl opted)⟩⟩))
    · by_contra denied
      exact accepted (.inr (.inr ⟨_, rfl, .inr ⟨rfl, .inr (.inr denied)⟩⟩))

/-- The decision on a reminder is its verdict, or the closing no action when it is skipped. -/
theorem selectReminder_ok {e : PolicyEvaluationInput} {d : PolicyDecision} {v : PolicyResult × PolicyReason × Option Instant}
    (verdict : evaluateCandidate zone policy e (reminderCandidate promise) = v)
    (h : selectCandidate zone policy e [] [] (reminderCandidates promise) = .ok d) :
    (v.1 = .skip ∧ d.result = .skip ∧ d.nextEvaluationAt = none) ∨
      (v.1 ≠ .skip ∧ d.result = v.1 ∧ d.nextEvaluationAt = v.2.2) := by
  have reminds : (reminderCandidate promise).actionType ≠ .noAction := by
    intro same
    cases same
  unfold reminderCandidates selectCandidate at h
  rw [if_neg reminds, verdict] at h
  obtain ⟨result, reason, wake⟩ := v
  cases result with
  | skip =>
    unfold selectCandidate at h
    dsimp only at h
    rw [if_pos (show (noActionCandidate promise.invoiceId 2 _).actionType = .noAction from rfl)] at h
    cases h
    exact .inl ⟨rfl, rfl, rfl⟩
  | _ =>
    cases h
    exact .inr ⟨by simp, rfl, rfl⟩

/-- A verdict moves the reminder on: it is authorized, or not skipped and with a later date. -/
def Moving (v : PolicyResult × PolicyReason × Option Instant) (t : Instant) : Prop :=
  v.1 = .proceed ∨ (v.1 ≠ .skip ∧ ∃ wake ∈ v.2.2, t < wake)

theorem moves_iff {e : PolicyEvaluationInput} {d : PolicyDecision} {v : PolicyResult × PolicyReason × Option Instant}
    (verdict : evaluateCandidate zone policy e (reminderCandidate promise) = v)
    (h : selectCandidate zone policy e [] [] (reminderCandidates promise) = .ok d) : d.Moves t ↔ Moving v t := by
  unfold PolicyDecision.Moves Moving
  rcases selectReminder_ok verdict h with ⟨skips, result, wake⟩ | ⟨decides, result, wake⟩
  · rw [skips, result, wake]
    simp
  · rw [result, wake]
    simp [decides]

theorem sendable_night (unaffected : ¬ ∃ i ∈ incidents, i.applies (reminderCandidate promise) t = true)
    (asleep : inQuietHours zone policy t = true) :
    Sendable zone policy promise incidents t ↔ ¬ TurnedBack zone policy t := by
  unfold Sendable
  rw [if_pos asleep]
  exact or_iff_right unaffected

theorem sendable_day (unaffected : ¬ ∃ i ∈ incidents, i.applies (reminderCandidate promise) t = true)
    (awake : ¬ inQuietHours zone policy t = true) : Sendable zone policy promise incidents t ↔
      policy.minimumExpectedNetRecoveryMinor ≤ (reminderCandidate promise).expectedNetRecoveryMinor ∧
        promise.amountMinor < policy.humanReviewAmountMinor ∧
        policy.minimumConfidenceBasisPoints ≤ promise.extractionConfidenceBasisPoints := by
  unfold Sendable
  rw [if_neg awake]
  exact or_iff_right unaffected

theorem reminder_moving {v : PolicyResult × PolicyReason × Option Instant}
    (ruled : Ruled zone policy (reminderInput promise checking t candidates incidents consent) (reminderCandidate promise) v) :
    Moving v t ↔ Mailable policy checking.contactCount consent ∧ Sendable zone policy promise incidents t := by
  have mailable (past : ¬ Refused policy (reminderInput promise checking t candidates incidents consent)
      (reminderCandidate promise)) : Mailable policy checking.contactCount consent := not_not.mp (mt reminder_refused.mpr past)
  have unaffected (past : Clear policy (reminderInput promise checking t candidates incidents consent)
      (reminderCandidate promise)) : ¬ ∃ i ∈ incidents, i.applies (reminderCandidate promise) t = true := past.unaffected
  have valued : ActionClass.customerContact ∉ expectedValueExemptClasses := by decide
  cases ruled with
  | refused rule =>
    have unmailable := reminder_refused.mp rule
    simp [Moving, unmailable]
  | escalated rule => cases rule
  | waiting _ rule => cases rule.2.2
  | unsettled _ _ rule => cases rule.1
  | promised _ rule => exact absurd rfl rule.2.1
  | affected past _ rule ends =>
    obtain ⟨i, member, same⟩ := earliestEnd_mem ends
    have applies := (List.mem_filter.mp member).2
    refine iff_of_true (.inr ⟨by simp, _, rfl, ?_⟩) ⟨mailable past.notRefused, .inl rule⟩
    rw [← same]
    exact applies_window applies
  | unsure _ rule => cases rule.1
  | delayed _ _ rule =>
    obtain ⟨wake, named, -⟩ := rule
    cases named
  | night past rule =>
    rw [sendable_night (unaffected past.toClear) rule.2, and_iff_right (mailable past.notRefused), turnedBack_iff, not_le]
    simp [Moving, reminderInput]
  | worthless past rule =>
    have awake : ¬ inQuietHours zone policy t = true := fun asleep => past.awake ⟨rfl, asleep⟩
    rw [sendable_day (unaffected past.toClear) awake]
    simp only [Moving]
    refine iff_of_false (by simp) fun sendable => ?_
    exact absurd rule.2 (not_lt.mpr sendable.2.1)
  | unreviewed past _ rule _ =>
    have awake : ¬ inQuietHours zone policy t = true := fun asleep => past.awake ⟨rfl, asleep⟩
    rw [sendable_day (unaffected past.toClear) awake]
    simp only [Moving]
    refine iff_of_false (by simp) fun sendable => ?_
    rcases rule.2 with large | unsure
    · exact absurd sendable.2.2.1 (not_lt.mpr large)
    · exact absurd unsure (not_lt.mpr sendable.2.2.2)
  | authorized past worth reviewed =>
    have awake : ¬ inQuietHours zone policy t = true := fun asleep => past.awake ⟨rfl, asleep⟩
    have unreviewed : ¬ NeedsReview policy (reminderInput promise checking t candidates incidents consent)
        (reminderCandidate promise) := by
      intro needed
      cases reviewed needed
    rw [sendable_day (unaffected past.toClear) awake]
    refine iff_of_true (.inl rfl) ⟨mailable past.notRefused, ?_, ?_, ?_⟩
    · by_contra small
      exact worth ⟨valued, not_le.mp small⟩
    · by_contra large
      exact unreviewed ⟨valued, .inl (not_lt.mp large)⟩
    · by_contra unsure
      exact unreviewed ⟨valued, .inr (not_le.mp unsure)⟩

/-- The reminder is authorized or put off exactly when it is remindable. -/
theorem reminder_moves {d : PolicyDecision} (items : candidates.items = reminderCandidates promise)
    (h : evaluatePolicy zone policy (reminderInput promise checking t candidates incidents consent) = .ok d) :
    d.Moves t ↔ Remindable zone policy promise checking.contactCount incidents consent t := by
  unfold evaluatePolicy at h
  split at h
  · cases h
  split at h
  · rename_i other
    cases h
    constructor
    · rintro (proceeds | ⟨wake, named, -⟩)
      · cases proceeds
      · cases named
    · intro remindable
      exact absurd remindable.currency other
  rename_i currency
  have currency : policy.currency = promise.currency := not_not.mp currency
  have open_ : globalStopReason (reminderInput promise checking t candidates incidents consent) = none := rfl
  have listed : (reminderInput promise checking t candidates incidents consent).candidates.items = reminderCandidates promise :=
    items
  rw [open_] at h
  dsimp only at h
  rw [listed] at h
  rw [moves_iff rfl h, reminder_moving (evaluateCandidate_ruled _ _ _ _)]
  exact ⟨fun ⟨mailable, sendable⟩ => ⟨mailable, currency, sendable⟩, fun remindable => ⟨remindable.toMailable, remindable.sendable⟩⟩

end rules

section steps

variable {case moved : RecoveryCase}

/-- A reminder of this promise is due: it is active, its date has come and no action reminds of it yet. -/
def PromiseRow.DueAt (t : Instant) (r : PromiseRow) : Prop := r.status = .active ∧ r.reminderAt ≤ t ∧ r.reminderActionId = none

instance (t : Instant) (r : PromiseRow) : Decidable (r.DueAt t) := by
  unfold PromiseRow.DueAt
  infer_instance

/-- The states a reminder can be decided in. -/
def RecoveryCase.TakesReminder (case : RecoveryCase) : Prop :=
  case.state = .deferred ∨ case.state = .verifying ∨ case.state = .decisionPending

/-- The case takes a reminder and the policy in force sends it or puts it off. -/
def Progresses (rt : Runtime) (t : Instant) (promise : PromiseRow) (db : Database) : Prop :=
  ∃ case ∈ db.caseOf promise.key, case.TakesReminder ∧ ∃ policy, InForce promise.merchantId t policy db ∧
    Remindable (rt.zoneInfo policy.timezone) policy promise case.contactCount (incidentsBearing promise.key t case.diagnosis db)
      (consentFacts promise.merchantId (some promise.customerId) db) t

theorem progresses_iff {policy : MerchantPolicySnapshot} (stored : db.caseOf promise.key = some case)
    (force : InForce promise.merchantId t policy db) : Progresses rt t promise db ↔ case.TakesReminder ∧
      Remindable (rt.zoneInfo policy.timezone) policy promise case.contactCount
        (incidentsBearing promise.key t case.diagnosis db) (consentFacts promise.merchantId (some promise.customerId) db) t := by
  constructor
  · rintro ⟨other, here, takes, policy', force', remindable⟩
    rw [stored] at here
    cases here
    rw [InForce, force] at force'
    cases force'
    exact ⟨takes, remindable⟩
  · rintro ⟨takes, remindable⟩
    exact ⟨case, stored, takes, policy, force, remindable⟩

/-- What a reminder is decided on is as it was. -/
structure SameFacts (db db' : Database) : Prop where
  promises : db'.promises = db.promises
  incidents : db'.incidents = db.incidents
  incidentLinks : db'.incidentLinks = db.incidentLinks
  consents : db'.consents = db.consents

theorem SameFacts.refl (db : Database) : SameFacts db db := ⟨rfl, rfl, rfl, rfl⟩

theorem SameFacts.trans (h : SameFacts db d) (h' : SameFacts d db') : SameFacts db db' :=
  ⟨h'.promises.trans h.promises, h'.incidents.trans h.incidents, h'.incidentLinks.trans h.incidentLinks,
    h'.consents.trans h.consents⟩

theorem SameFacts.bearing (same : SameFacts db db') (k : CaseKey) (code : Option Identifier) :
    incidentsBearing k t code db' = incidentsBearing k t code db := by
  simp only [incidentsBearing, incidentsAt, linkedToCase, same.incidents, same.incidentLinks]

theorem SameFacts.consent (same : SameFacts db db') (m : Identifier) (customer : Option Identifier) :
    consentFacts m customer db' = consentFacts m customer db := by
  simp only [consentFacts, same.consents]

/-- A moved case keeps what a reminder is decided on. -/
structure MovedTo (s : CaseState) (case moved : RecoveryCase) : Prop where
  state : moved.state = s
  caseId : moved.caseId = case.caseId
  contactCount : moved.contactCount = case.contactCount
  diagnosis : moved.diagnosis = case.diagnosis

theorem playbookTransition_facts {s : CaseState} {reason : String} {version : Identifier} {terminal : Option String}
    {wake : Option Instant} (h : (playbookTransition case s reason version t terminal wake).run db = .ok (moved, db')) :
    MovedTo s case moved ∧ SameFacts db db' := by
  obtain ⟨rfl, -, rfl⟩ := recoveryTransition_ran h
  exact ⟨⟨rfl, rfl, rfl, rfl⟩, ⟨rfl, rfl, rfl, rfl⟩⟩

theorem reminderPrepared_facts {version : Identifier}
    (h : (if case.state = .deferred ∨ case.state = .verifying then
      playbookTransition case .decisionPending "PROMISE_REMINDER_DUE" version t else pure case).run db = .ok (moved, db')) :
    (moved.state = .decisionPending ↔ case.TakesReminder) ∧ moved.caseId = case.caseId ∧
      moved.contactCount = case.contactCount ∧ moved.diagnosis = case.diagnosis ∧ SameFacts db db' := by
  unfold RecoveryCase.TakesReminder
  split at h
  · rename_i waits
    obtain ⟨reached, same⟩ := playbookTransition_facts h
    refine ⟨iff_of_true reached.state ?_, reached.caseId, reached.contactCount, reached.diagnosis, same⟩
    exact waits.imp_right .inl
  · rename_i waits
    obtain ⟨rfl, rfl⟩ := Tx.pure_ok h
    refine ⟨⟨fun pending => .inr (.inr pending), ?_⟩, rfl, rfl, rfl, .refl _⟩
    rintro (deferred | verifying | pending)
    · exact absurd (.inl deferred) waits
    · exact absurd (.inr verifying) waits
    · exact pending

theorem activeIncidents_facts {k : CaseKey} {code : Option Identifier} {found : List IncidentConstraint}
    (h : (activeIncidents k t code).run db = .ok (found, db')) :
    found = incidentsBearing k t code db ∧ db'.promises = db.promises := by
  rw [activeIncidents_run] at h
  cases h
  exact ⟨rfl, rfl⟩

/-- Without a decision the promise does not progress; with one it does exactly when the decision moves it. -/
theorem assessReminder_facts {found : Option ReminderAssessment}
    (h : (assessReminder rt t promise).run db = .ok (found, db')) : db'.promises = db.promises ∧
      ((found = none ∧ ¬ Progresses rt t promise db) ∨
        ∃ a, found = some a ∧ (a.decision.Moves t ↔ Progresses rt t promise db)) := by
  unfold assessReminder at h
  obtain ⟨_, _, read, h⟩ := Tx.bind_ok h
  obtain ⟨rfl, rfl⟩ := Tx.read_ok read
  obtain ⟨case, _, found, h⟩ := Tx.bind_ok h
  obtain ⟨stored, rfl⟩ := Tx.found_ok found
  obtain ⟨policy, d1, effective, h⟩ := Tx.bind_ok h
  obtain ⟨-, same⟩ := effectivePolicy_effect effective
  subst same
  have force : InForce promise.merchantId t policy db := effective
  rw [progresses_iff stored force]
  dsimp only at h
  rw [Tx.ite_bind] at h
  obtain ⟨pending, d2, prepare, h⟩ := Tx.bind_ok h
  obtain ⟨takes, caseId, contacts, diagnosis, prepared⟩ := reminderPrepared_facts prepare
  split at h
  · rename_i untaken
    obtain ⟨rfl, rfl⟩ := Tx.pure_ok h
    exact ⟨prepared.promises, .inl ⟨rfl, fun progresses => untaken (takes.mpr progresses.1)⟩⟩
  rename_i ready
  have ready := takes.mp (not_not.mp ready)
  obtain ⟨checking, d3, check, h⟩ := Tx.bind_ok h
  obtain ⟨checked, same⟩ := playbookTransition_facts check
  have facts := prepared.trans same
  obtain ⟨_, _, read, h⟩ := Tx.bind_ok h
  obtain ⟨rfl, rfl⟩ := Tx.read_ok read
  obtain ⟨incidents, d4, attached, h⟩ := Tx.bind_ok h
  obtain ⟨rfl, kept⟩ := activeIncidents_facts attached
  obtain ⟨candidates, _, lifted, h⟩ := Tx.bind_ok h
  obtain ⟨listed, rfl⟩ := Tx.lift_ok lifted
  obtain ⟨decision, _, lifted, h⟩ := Tx.bind_ok h
  obtain ⟨decided, rfl⟩ := Tx.lift_ok lifted
  obtain ⟨rfl, rfl⟩ := Tx.pure_ok h
  have here : (⟨promise.merchantId, checking.caseId⟩ : CaseKey) = promise.key := by
    have key : case.key = promise.key := (tracks_caseOf stored).1
    rw [checked.caseId, caseId, ← key]
    exact congrArg (CaseKey.mk · case.caseId) (congrArg CaseKey.merchantId key).symm
  have moves := reminder_moves (candidateList_ok listed) decided
  rw [here, facts.bearing, facts.consent, checked.contactCount, contacts, checked.diagnosis, diagnosis] at moves
  exact ⟨kept.trans facts.promises, .inr ⟨_, rfl, moves.trans (and_iff_right ready).symm⟩⟩

/-- How a step rewrites the rows of one promise. -/
structure Rewritten (promise : PromiseRow) (g : PromiseRow → PromiseRow) (db db' : Database) : Prop where
  ids : ∀ r, (g r).promiseId = r.promiseId
  rows : db'.promises = db.promises.map fun r => if r.awaits promise.promiseId = true then g r else r

theorem Rewritten.none (same : db'.promises = db.promises) : Rewritten promise id db db' := by
  refine ⟨fun _ => rfl, same.trans ?_⟩
  refine ((List.map_congr_left fun r _ => ?_).trans (List.map_id _)).symm
  split <;> rfl

theorem storeReceipt_promises {receipt : ReceiptRow} {u : Unit} (h : (storeReceipt receipt).run db = .ok (u, db')) :
    db'.promises = db.promises := by
  obtain ⟨_, _, read, h⟩ := Tx.bind_ok h
  obtain ⟨rfl, rfl⟩ := Tx.read_ok read
  obtain ⟨_, _, checked, h⟩ := Tx.bind_ok h
  obtain ⟨-, rfl⟩ := Tx.check_ok checked
  rw [Tx.write_ok h]

theorem storeAction_promises {action : RecoveryAction} {version : Identifier} {n : Nat} {deadline : Instant} {row : ActionRow}
    (h : (storeAction action version n deadline).run db = .ok (row, db')) : db'.promises = db.promises := by
  obtain ⟨-, ⟨-, rfl⟩ | ⟨-, rfl, rfl⟩⟩ := storeAction_ok h
  · rfl
  · rfl

/-- After a decision a due promise is due unless the decision moves it. -/
theorem decideReminder_due {a : ReminderAssessment} {out : PromiseMaintenanceResult}
    (h : (decideReminder t promise a).run db = .ok (out, db')) :
    ∃ g, Rewritten promise g db db' ∧ ∀ r : PromiseRow, r.DueAt t → ((g r).DueAt t ↔ ¬ a.decision.Moves t) := by
  unfold decideReminder at h
  obtain ⟨decided, d1, transition, h⟩ := Tx.bind_ok h
  obtain ⟨-, facts⟩ := playbookTransition_facts transition
  dsimp only at h
  obtain ⟨_, d2, receipted, h⟩ := Tx.bind_ok h
  have before : d2.promises = db.promises := (storeReceipt_promises receipted).trans facts.promises
  by_cases proceeds : a.decision.result = .proceed
  · simp only [proceeds, if_true] at h
    obtain ⟨_, d3, acted, h⟩ := Tx.bind_ok h
    obtain ⟨_, d4, marked, h⟩ := Tx.bind_ok h
    obtain ⟨-, rfl⟩ := Tx.pure_ok h
    obtain ⟨_, _, read, marked⟩ := Tx.bind_ok marked
    obtain ⟨rfl, rfl⟩ := Tx.read_ok read
    obtain ⟨_, _, checked, marked⟩ := Tx.bind_ok marked
    obtain ⟨-, rfl⟩ := Tx.check_ok checked
    refine ⟨fun r => { r with reminderActionId := some (reminderAction promise a.checking.caseId t).identity, updatedAt := t },
      ⟨fun _ => rfl, ?_⟩, fun r _ => iff_of_false (fun due => ?_) (not_not.mpr (.inl proceeds))⟩
    · rw [Tx.write_ok marked, ← before, ← storeAction_promises acted]
      rfl
    · cases due.2.2
  · simp only [proceeds, if_false] at h
    obtain ⟨_, d3, rescheduled, h⟩ := Tx.bind_ok h
    obtain ⟨-, rfl⟩ := Tx.pure_ok h
    cases wake : a.decision.nextEvaluationAt with
    | none =>
      rw [wake] at rescheduled
      obtain ⟨-, rfl⟩ := Tx.pure_ok rescheduled
      refine ⟨id, .none before, fun r due => iff_of_true due ?_⟩
      rintro (proceed | ⟨_, named, -⟩)
      · exact proceeds proceed
      · rw [wake] at named
        cases named
    | some at_ =>
      rw [wake] at rescheduled
      refine ⟨fun r => { r with reminderAt := at_, updatedAt := at_ }, ⟨fun _ => rfl, ?_⟩, fun r due => ?_⟩
      · rw [Tx.write_ok rescheduled, ← before]
        rfl
      · have moves : a.decision.Moves t ↔ t < at_ := by simp [PolicyDecision.Moves, proceeds, wake]
        rw [moves, not_lt]
        exact ⟨fun later => later.2.1, fun past => ⟨due.1, past, due.2.2⟩⟩

theorem remindPromise_due {out : PromiseMaintenanceResult} (h : (remindPromise rt t promise).run db = .ok (out, db')) :
    ∃ g, Rewritten promise g db db' ∧ ∀ r : PromiseRow, r.DueAt t → ((g r).DueAt t ↔ ¬ Progresses rt t promise db) := by
  obtain ⟨found, d1, assess, h⟩ := Tx.bind_ok h
  obtain ⟨before, ⟨rfl, stuck⟩ | ⟨a, rfl, moves⟩⟩ := assessReminder_facts assess
  · obtain ⟨-, rfl⟩ := Tx.pure_ok h
    exact ⟨id, .none before, fun r due => iff_of_true due stuck⟩
  · obtain ⟨g, rewritten, due⟩ := decideReminder_due h
    refine ⟨g, ⟨rewritten.ids, by rw [rewritten.rows, before]⟩, fun r now => ?_⟩
    rw [due r now, moves]

end steps

section runs

theorem due_awaits {r : PromiseRow} (due : r.DueAt t) : r.awaits r.promiseId = true := decide_eq_true ⟨rfl, due.1, due.2.2⟩

theorem Rewritten.promiseIds {g : PromiseRow → PromiseRow} (h : Rewritten promise g db db') :
    db'.promises.map (·.promiseId) = db.promises.map (·.promiseId) := by
  rw [h.rows, List.map_map]
  refine List.map_congr_left fun r _ => ?_
  simp only [Function.comp_apply]
  split
  · exact h.ids r
  · rfl

theorem Rewritten.other {g : PromiseRow → PromiseRow} (h : Rewritten promise g db db') {r : PromiseRow} (member : r ∈ db.promises)
    (other : r.promiseId ≠ promise.promiseId) : r ∈ db'.promises := by
  rw [h.rows]
  refine List.mem_map.mpr ⟨r, member, if_neg ?_⟩
  intro awaits
  exact other (of_decide_eq_true awaits).1

theorem Rewritten.own {g : PromiseRow → PromiseRow} (h : Rewritten promise g db db') (member : promise ∈ db.promises)
    (due : promise.DueAt t) : g promise ∈ db'.promises := by
  rw [h.rows]
  exact List.mem_map.mpr ⟨promise, member, if_pos (due_awaits due)⟩

/-- A promise of the batch is due after it exactly when it did not progress at its turn; the others keep their rows. -/
theorem remindEach_due {rows : List PromiseRow} : ∀ {db db' : Database} {outs : List PromiseMaintenanceResult},
    (db.promises.map (·.promiseId)).Nodup → (rows.map (·.promiseId)).Nodup → (∀ p ∈ rows, p ∈ db.promises ∧ p.DueAt t) →
      (Tx.each (remindPromise rt t) rows).run db = .ok (outs, db') →
      db'.promises.map (·.promiseId) = db.promises.map (·.promiseId) ∧
      (∀ r ∈ db.promises, r.promiseId ∉ rows.map (·.promiseId) → r ∈ db'.promises) ∧
      ((∀ p ∈ rows, ∀ r ∈ db'.promises, r.promiseId = p.promiseId → ¬ r.DueAt t) ↔
        Tx.Along (remindPromise rt t) (Progresses rt t) rows db) := by
  induction rows with
  | nil =>
    intro db db' outs _ _ _ ran
    obtain ⟨-, rfl⟩ := Tx.pure_ok ran
    exact ⟨rfl, fun r member _ => member, iff_of_true (fun _ none => absurd none List.not_mem_nil) trivial⟩
  | cons p rest ih =>
    intro db db' outs ids distinct due ran
    obtain ⟨out, d, first, ran⟩ := Tx.bind_ok ran
    obtain ⟨outs', d', second, ran⟩ := Tx.bind_ok ran
    obtain ⟨-, rfl⟩ := Tx.pure_ok ran
    obtain ⟨g, rewritten, still⟩ := remindPromise_due first
    obtain ⟨fresh, distinct⟩ := List.nodup_cons.mp distinct
    obtain ⟨stored, now⟩ := due p List.mem_cons_self
    have later : ∀ q ∈ rest, q ∈ d.promises ∧ q.DueAt t := by
      intro q member
      obtain ⟨old, awaits⟩ := due q (List.mem_cons_of_mem _ member)
      refine ⟨rewritten.other old fun same => fresh ?_, awaits⟩
      exact List.mem_map.mpr ⟨q, member, same⟩
    obtain ⟨keep, others, iff_rest⟩ := ih (by rw [rewritten.promiseIds]; exact ids) distinct later second
    have own : g p ∈ d'.promises := others _ (rewritten.own stored now) (by rw [rewritten.ids]; exact fresh)
    have unique_id : (d'.promises.map (·.promiseId)).Nodup := by
      rw [keep, rewritten.promiseIds]
      exact ids
    have head_iff : (∀ r ∈ d'.promises, r.promiseId = p.promiseId → ¬ r.DueAt t) ↔ Progresses rt t p db := by
      constructor
      · intro settled
        by_contra stuck
        exact settled _ own (rewritten.ids p) ((still p now).mpr stuck)
      · intro progresses r member same waits
        have row : r = g p := List.inj_on_of_nodup_map unique_id member own (same.trans (rewritten.ids p).symm)
        rw [row] at waits
        exact (still p now).mp waits progresses
    refine ⟨keep.trans rewritten.promiseIds, fun r member other => ?_, ?_⟩
    · rw [List.map_cons, List.mem_cons, not_or] at other
      exact others r (rewritten.other member other.1) other.2
    · rw [List.forall_mem_cons, head_iff, iff_rest]
      refine and_congr_right fun _ => ⟨fun along b s again => ?_, fun after => after _ _ first⟩
      rw [first] at again
      cases again
      exact along

/-- The promises a reminder run picks. -/
def dueReminders (rt : Runtime) (t : Instant) (limit : Nat) (db : Database) : List PromiseRow :=
  duePromises rt (·.reminderAt) (reminderDue t) limit db

theorem dueReminders_due {limit : Nat} : ∀ p ∈ dueReminders rt t limit db, p ∈ db.promises ∧ p.DueAt t := by
  intro p member
  obtain ⟨stored, active, due⟩ := duePromises_listed p member
  exact ⟨stored, active, of_decide_eq_true due⟩

/-- A run that returns settles all it picked exactly when each progresses at its turn; then no run at the same time picks
one of them again. A run that raises leaves everything as it was. -/
theorem reminders_move_on (reach : Reachable rt db) (t : Instant) (limit : Nat) :
    (∀ out db', (scheduleDuePromiseReminders rt t limit).run db = .ok (out, db') →
      ((∀ p ∈ dueReminders rt t limit db, ∀ r ∈ db'.promises, r.promiseId = p.promiseId → ¬ r.DueAt t) ↔
        Tx.Along (remindPromise rt t) (Progresses rt t) (dueReminders rt t limit db) db) ∧
      (Tx.Along (remindPromise rt t) (Progresses rt t) (dueReminders rt t limit db) db →
        ∀ n, ∀ q ∈ dueReminders rt t n db', ∀ p ∈ dueReminders rt t limit db, q.promiseId ≠ p.promiseId)) ∧
    ∀ e, (scheduleDuePromiseReminders rt t limit).run db = .error e →
      exec rt (.scheduleDuePromiseReminders t limit) db = db := by
  refine ⟨fun out db' ran => ?_, fun e raised => Tx.commit_of_error raised⟩
  have inv := answered_invariant reach
  obtain ⟨_, _, checked, h⟩ := Tx.bind_ok ran
  obtain ⟨-, rfl⟩ := Tx.check_ok checked
  obtain ⟨_, _, read, h⟩ := Tx.bind_ok h
  obtain ⟨rfl, rfl⟩ := Tx.read_ok read
  have distinct := duePromises_distinct rt (·.reminderAt) (reminderDue t) limit inv
  obtain ⟨-, -, settles⟩ := remindEach_due inv.promiseIds distinct dueReminders_due h
  refine ⟨settles, fun along n q again p member same => ?_⟩
  obtain ⟨stored, due⟩ := dueReminders_due q again
  exact settles.mpr along p member q stored same due

/-- A promise for tomorrow, made in the night. -/
def promisedAtNight : List Command :=
  reachable1 ++ [.recordOverdueInvoice acme "overdue-1" overdue1 5 5,
    .processEvent (drawn "receipt-1") acme (invoiceEventId acme "overdue-1") (ident "case-1") 10,
    .recordCustomerResponse acme "reply-1" (ident "inv-1") "I will pay tomorrow" (some promised) 20]

set_option maxRecDepth 100000 in
/-- Sent in the day, and then picked no more. -/
theorem reminders_move_on_sent : dueReminders {} 3600000010 5 (execAll {} promisedAtNight {}) ≠ [] ∧ ∃ out db',
    (scheduleDuePromiseReminders {} 3600000010 5).run (execAll {} promisedAtNight {}) = .ok (out, db') ∧
      ∀ n, ∀ q ∈ dueReminders {} 3600000010 n db',
        ∀ p ∈ dueReminders {} 3600000010 5 (execAll {} promisedAtNight {}), q.promiseId ≠ p.promiseId := by
  have picked : dueReminders {} 3600000010 5 (execAll {} promisedAtNight {}) ≠ [] := by decide +kernel
  have ran : ¬ (scheduleDuePromiseReminders {} 3600000010 5).After (fun _ d => ¬ ∀ p ∈ dueReminders {} 3600000010 5
      (execAll {} promisedAtNight {}), ∀ r ∈ d.promises, r.promiseId = p.promiseId → ¬ r.DueAt 3600000010)
      (execAll {} promisedAtNight {}) := by decide +kernel
  obtain ⟨out, ran⟩ := not_forall.mp ran
  obtain ⟨db', ran⟩ := not_forall.mp ran
  obtain ⟨returned, settled⟩ := Classical.not_imp.mp ran
  obtain ⟨settles, once⟩ := (reminders_move_on (reachable_execAll {} promisedAtNight) 3600000010 5).1 out db' returned
  exact ⟨picked, out, db', returned, once (settles.mp (not_not.mp settled))⟩

/-- The customer opts out of mail before the reminder is due. -/
def optedOutAtNight : List Command :=
  promisedAtNight ++ [.putMerchantRow (.consent ⟨acme, customer1, .email, .granted, true⟩)]

set_option maxRecDepth 100000 in
theorem reminder_stuck : ¬ ∀ (rt : Runtime) (db : Database), Reachable rt db → ∀ (t : Instant) (limit : Nat)
    (out : List PromiseMaintenanceResult) (db' : Database),
      (scheduleDuePromiseReminders rt t limit).run db = .ok (out, db') →
        ∀ p ∈ dueReminders rt t limit db, ∀ r ∈ db'.promises, r.promiseId = p.promiseId → ¬ r.DueAt t := by
  intro settled
  have stuck : ¬ (scheduleDuePromiseReminders {} 3600000010 5).After (fun _ d => ∀ p ∈ dueReminders {} 3600000010 5
      (execAll {} optedOutAtNight {}), ∀ r ∈ d.promises, r.promiseId = p.promiseId → ¬ r.DueAt 3600000010)
      (execAll {} optedOutAtNight {}) := by decide +kernel
  exact stuck fun out db' ran => settled {} _ (reachable_execAll {} optedOutAtNight) 3600000010 5 out db' ran

end runs

end RevenueGuard
