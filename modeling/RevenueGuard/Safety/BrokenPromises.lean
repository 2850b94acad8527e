import RevenueGuard.Safety.Promises

/-
When promises break. A promised day is stored as its midnight, and a maintenance
run breaks every promise whose midnight is past; the day itself is over only when
no run comes before its end, and no reply promises its own day.
-/
namespace RevenueGuard

variable {db db' : Database} {rt : Runtime} {t : Instant}

/-- The promised day had ended when the promise was broken. -/
def PromiseRow.DayOver (r : PromiseRow) : Prop := ∃ b ∈ r.brokenAt, r.promisedFor + 86400000000 ≤ b

instance (r : PromiseRow) : Decidable r.DayOver := inferInstanceAs (Decidable (∃ b ∈ r.brokenAt, _))

/-- What a step breaks is past its day, and what it stores is not yet due to be broken. -/
structure Punctual (db db' : Database) : Prop where
  broken : ∀ r' ∈ db'.promises, r'.status = .broken →
    (∀ r ∈ db.promises, r.promiseId = r'.promiseId → r.status ≠ .broken) → r'.DayOver
  stored : ∀ r' ∈ db'.promises, (∀ r ∈ db.promises, r.promiseId ≠ r'.promiseId) → r'.updatedAt ≤ r'.promisedFor

/-- No promise is broken within its day, and no reply after midnight promises the day it comes on. -/
def Command.AwaitsDay (rt : Runtime) : Command → Database → Prop
  | .escalateBrokenPromises t limit, db =>
    ∀ p ∈ pastPromises rt t limit db, db.Paid p.invoice ∨ p.promisedFor + 86400000000 ≤ t
  | .recordCustomerResponse m source invoiceId body reply t, db =>
    ∀ p ∈ promiseMade m source invoiceId body reply t db, t ≤ dayStart p.promisedFor
  | _, _ => True

instance (c : Command) (db : Database) : Decidable (c.AwaitsDay rt db) :=
  match c with
  | .escalateBrokenPromises .. => by unfold Command.AwaitsDay; infer_instance
  | .recordCustomerResponse .. => by unfold Command.AwaitsDay; infer_instance
  | .registerMerchant .. | .upsertCustomer .. | .upsertPayment .. | .upsertSubscription ..
  | .persistNormalizedEvent .. | .putMerchantRow .. | .publishPolicy .. | .applyDegradationAssessment ..
  | .processEvent .. | .reevaluateDeferred .. | .decideReview .. | .closeExpiredCustomerInterventions ..
  | .recordOverdueInvoice .. | .scheduleDuePromiseReminders .. | .claimDueActions .. | .prepareExecution ..
  | .recordExecutionResult .. | .markStaleCallsUnknown .. | .recordLookup .. | .verifySignedEvent .. => isTrue trivial

section steps

variable {m invoiceId : Identifier} {source body : String} {reply : Option PromiseExtraction} {promise : PromiseToPay}

theorem Punctual.of_age (aged : PromisesAge db db') : Punctual db db' := by
  constructor
  · intro r' member broken new
    obtain ⟨r, old, ages⟩ := aged.back r' member
    exact absurd (ages.unbroken broken) (new r old ages.promiseId.symm)
  · intro r' member new
    obtain ⟨r, old, ages⟩ := aged.back r' member
    exact absurd ages.promiseId.symm (new r old)

variable (rt) in
/-- The inputs that make a promise store it, as one of this instant. -/
theorem promiseMade_stored (made : promiseMade m source invoiceId body reply t db = some promise) :
    (exec rt (.recordCustomerResponse m source invoiceId body reply t) db).promises = db.promises ++ [promise.row] ∧
      db.promise promise.promiseId = none ∧ promise.createdAt = t := by
  unfold promiseMade at made
  simp only [Option.bind_eq_bind, Option.bind_eq_some_iff] at made
  obtain ⟨invoice, found, row, active, extraction, understood, made⟩ := made
  have understood : extractPromise reply body = .ok extraction := by
    cases extracted : extractPromise reply body with
    | error e =>
      rw [extracted] at understood
      cases understood
    | ok e =>
      rw [extracted] at understood
      cases understood
      rfl
  split at made
  · rename_i new
    cases created : createPromise ((replyRow m source invoice row body extraction t).parties invoice)
        invoice.outstandingAmountMinor invoice.currency extraction t with
    | error e =>
      rw [created] at made
      cases made
    | ok p =>
      rw [created] at made
      cases made
      obtain ⟨intent, terms, -, -, rfl⟩ := createPromise_iff.mp created
      refine ⟨?_, new.2.2, rfl⟩
      have ran := recordCustomerResponse_run t source found active understood new.1
      rw [new.2.1] at ran
      dsimp only at ran
      rw [applyResponse_promise intent, show (replyRow m source invoice row body extraction t).receivedAt = t from rfl,
        created] at ran
      change ((recordCustomerResponse m source invoiceId body reply t).commit db).promises = _
      rw [Tx.commit_of_ok ran]
      exact keepPromise_new new.2.2
  · cases made

theorem reply_ages (unmade : promiseMade m source invoiceId body reply t db = none) :
    PromisesAge db (exec rt (.recordCustomerResponse m source invoiceId body reply t) db) := by
  refine Tx.commit_relates (R := PromisesAge) (.refl db) fun h => ?_
  rcases recordCustomerResponse_promises h with aged | ⟨promise, made, -⟩
  · exact aged
  · rw [unmade] at made
    cases made

theorem reply_punctual : Punctual db (exec rt (.recordCustomerResponse m source invoiceId body reply t) db) ↔
    (Command.recordCustomerResponse m source invoiceId body reply t).AwaitsDay rt db := by
  change _ ↔ ∀ p ∈ promiseMade m source invoiceId body reply t db, t ≤ dayStart p.promisedFor
  cases made : promiseMade m source invoiceId body reply t db with
  | none =>
    constructor
    · rintro - p ⟨⟩
    · intro _
      exact .of_age (reply_ages made)
  | some promise =>
    obtain ⟨promises, new, createdAt⟩ := promiseMade_stored rt made
    have fresh : ∀ r ∈ db.promises, r.promiseId ≠ promise.row.promiseId := Table.lookup_none.mp new
    constructor
    · rintro punctual p member
      cases member
      have stored := punctual.stored promise.row (by rw [promises]; simp) fresh
      rw [show promise.row.updatedAt = promise.createdAt from rfl, createdAt] at stored
      exact stored
    · intro awaits
      constructor
      · intro r' member broken unbroken
        rw [promises] at member
        rcases List.mem_append.mp member with old | last
        · exact absurd broken (unbroken r' old rfl)
        · rw [List.mem_singleton.mp last] at broken
          cases broken
      · intro r' member unstored
        rw [promises] at member
        rcases List.mem_append.mp member with old | last
        · exact absurd rfl (unstored r' old)
        · rw [List.mem_singleton.mp last]
          change promise.createdAt ≤ _
          rw [createdAt]
          exact awaits promise rfl

theorem matures_label (batch : List PromiseRow) (r : PromiseRow) : (r.matures t batch db).label = r.label := by
  unfold PromiseRow.matures
  split
  · split <;> rfl
  · rfl

/-- The rows a batch leaves as they are: those that are not in it. -/
theorem matures_of_ended {limit : Nat} (inv : Answered db) {r : PromiseRow} (member : r ∈ db.promises) (ended : r.status ≠ .active) :
    r.matures t (pastPromises rt t limit db) db = r := by
  unfold PromiseRow.matures
  rw [if_neg]
  intro listed
  obtain ⟨p, due, same⟩ := List.mem_map.mp listed
  obtain ⟨stored, active, -⟩ := duePromises_listed p due
  exact ended (List.inj_on_of_nodup_map inv.promiseIds stored member same ▸ active)

theorem maintenance_punctual {limit : Nat} (inv : Answered db) :
    Punctual db (exec rt (.escalateBrokenPromises t limit) db) ↔
      (Command.escalateBrokenPromises t limit).AwaitsDay rt db := by
  change _ ↔ ∀ p ∈ pastPromises rt t limit db, db.Paid p.invoice ∨ p.promisedFor + 86400000000 ≤ t
  obtain ⟨-, -, promises⟩ := escalateBrokenPromises_matures rt t limit inv
  constructor
  · intro punctual p due
    by_cases paid : db.Paid p.invoice
    · exact .inl paid
    · obtain ⟨stored, active, -⟩ := duePromises_listed p due
      have broke : p.matures t (pastPromises rt t limit db) db = p.breaks t := by
        unfold PromiseRow.matures
        rw [if_pos (List.mem_map_of_mem due), if_neg paid]
      have dayOver := punctual.broken (p.breaks t) (by rw [promises, ← broke]; exact List.mem_map_of_mem stored) rfl
        fun r member same => by
          obtain rfl := List.inj_on_of_nodup_map inv.promiseIds member stored same
          rw [active]
          decide
      obtain ⟨b, at_, late⟩ := dayOver
      cases at_
      exact .inr late
  · intro awaits
    constructor
    · intro r' member broken new
      rw [promises] at member
      obtain ⟨r, old, rfl⟩ := List.mem_map.mp member
      have unbroken := new r old (congrArg Prod.fst (matures_label _ r)).symm
      by_cases listed : r.promiseId ∈ (pastPromises rt t limit db).map (·.promiseId)
      · obtain ⟨p, due, same⟩ := List.mem_map.mp listed
        obtain rfl := List.inj_on_of_nodup_map inv.promiseIds (duePromises_listed p due).1 old same
        unfold PromiseRow.matures at broken ⊢
        rw [if_pos listed] at broken ⊢
        by_cases paid : db.Paid p.invoice
        · rw [if_pos paid] at broken
          cases broken
        · rw [if_neg paid]
          exact ⟨t, rfl, (awaits p due).resolve_left paid⟩
      · unfold PromiseRow.matures at broken
        rw [if_neg listed] at broken
        exact absurd broken unbroken
    · intro r' member new
      rw [promises] at member
      obtain ⟨r, old, rfl⟩ := List.mem_map.mp member
      exact absurd (congrArg Prod.fst (matures_label _ r)).symm (new r old)

theorem exec_ages {c : Command} (quiet : match c with
    | .escalateBrokenPromises .. | .recordCustomerResponse .. => False
    | _ => True) : PromisesAge db (exec rt c db) := by
  by_cases concerns : c.Concerns
  · cases c with
    | putMerchantRow row =>
      refine Tx.commit_relates (R := PromisesAge) (.refl db) fun h => .of_promises ?_
      cases row with
      | consent row => rw [Tx.write_ok h]
      | invoice row => rw [Tx.write_ok h]
      | incident row => rw [Tx.write_ok h]
    | applyDegradationAssessment a policy id =>
      exact Tx.commit_relates (R := PromisesAge) (.refl db) fun h =>
        .of_promises (applyDegradationAssessment_papers a policy id _ _ _ h).promises
    | recordOverdueInvoice m source o t t' =>
      refine Tx.commit_relates (R := PromisesAge) (.refl db) fun h => ?_
      obtain ⟨_, d1, recorded, h⟩ := Tx.bind_ok h
      obtain ⟨_, d2, upserted, persisted⟩ := Tx.bind_ok h
      have before := (recordMerchantEvent_apart m source o _ _ _ recorded).promisesAge
      have after := (persistMerchantEvent_spared _ _ _ _ persisted).apart.promisesAge
      refine (before.trans ?_).trans after
      rcases upsertOverdueInvoice_ok upserted with rfl | ⟨-, row, -, -, rfl⟩
      · exact updateInvoice_age
      · exact .of_promises rfl
    | recordCustomerResponse m source invoiceId body reply t => exact quiet.elim
    | escalateBrokenPromises t limit => exact quiet.elim
    | _ => exact absurd concerns id
  · exact (exec_apart c db concerns).promisesAge

theorem exec_punctual (inv : Answered db) (c : Command) : Punctual db (exec rt c db) ↔ c.AwaitsDay rt db := by
  cases c with
  | recordCustomerResponse m source invoiceId body reply t => exact reply_punctual
  | escalateBrokenPromises t limit => exact maintenance_punctual inv
  | _ => exact ⟨fun _ => trivial, fun _ => .of_age (exec_ages trivial)⟩

end steps

section runs

/-- A promise that was broken after its day stays so. -/
theorem exec_dayOver (c : Command) (inv : Answered db) (awaits : c.AwaitsDay rt db)
    (before : ∀ r ∈ db.promises, r.status = .broken → r.DayOver) :
    ∀ r ∈ (exec rt c db).promises, r.status = .broken → r.DayOver := by
  have aged (h : PromisesAge db (exec rt c db)) : ∀ r ∈ (exec rt c db).promises, r.status = .broken → r.DayOver := by
    intro r' member broken
    obtain ⟨r, old, ages⟩ := h.back r' member
    obtain ⟨b, at_, late⟩ := before r old (ages.unbroken broken)
    exact ⟨b, ages.brokenAt.trans at_, ages.promisedFor ▸ late⟩
  have punctual := (exec_punctual inv c).mpr awaits
  cases c with
  | recordCustomerResponse m source invoiceId body reply t =>
    cases made : promiseMade m source invoiceId body reply t db with
    | none => exact aged (reply_ages made)
    | some promise =>
      intro r' member broken
      rw [(promiseMade_stored rt made).1] at member
      rcases List.mem_append.mp member with old | last
      · exact before r' old broken
      · rw [List.mem_singleton.mp last] at broken
        cases broken
  | escalateBrokenPromises t limit =>
    intro r' member broken
    by_cases new : ∀ r ∈ db.promises, r.promiseId = r'.promiseId → r.status ≠ .broken
    · exact punctual.broken r' member broken new
    · push Not at new
      obtain ⟨r, old, same, was⟩ := new
      obtain ⟨-, -, promises⟩ := escalateBrokenPromises_matures rt t limit inv
      rw [promises] at member
      obtain ⟨r₀, stored, rfl⟩ := List.mem_map.mp member
      obtain rfl := List.inj_on_of_nodup_map inv.promiseIds stored old (same.trans (congrArg Prod.fst (matures_label _ r₀))).symm
      rw [matures_of_ended inv stored (by rw [was]; decide)]
      exact before r₀ stored was
  | _ => exact aged (exec_ages trivial)

/-- Exactly the runs that wait for the promised day to end break their promises on time. -/
theorem broken_after_day (reach : Reachable rt db) :
    (ReachableUnder rt (Command.AwaitsDay rt) db → ∀ r ∈ db.promises, r.status = .broken → r.DayOver) ∧
      ∀ c : Command, Punctual db (exec rt c db) ↔ c.AwaitsDay rt db := by
  constructor
  · intro waiting
    have both : Answered db ∧ ∀ r ∈ db.promises, r.status = .broken → r.DayOver := by
      refine Runs.Reaches.invariant (fun db => Answered db ∧ ∀ r ∈ db.promises, r.status = .broken → r.DayOver) waiting
        ⟨@answered_invariant _ rt .start, fun _ member => absurd member List.not_mem_nil⟩ fun c d both awaits => ?_
      exact ⟨exec_answered c both.1, exec_dayOver c both.1 awaits both.2⟩
    exact both.2
  · exact exec_punctual (answered_invariant reach)

/-- A promise for tomorrow, and a maintenance run on the day after. -/
def promisedTomorrow : List Command :=
  reachable1 ++ [.recordOverdueInvoice acme "overdue-1" overdue1 5 5,
    .processEvent (drawn "receipt-1") acme (invoiceEventId acme "overdue-1") (ident "case-1") 10,
    .recordCustomerResponse acme "reply-1" (ident "inv-1") "I will pay tomorrow" (some promised) 20,
    .escalateBrokenPromises 172800000000 5]

set_option maxRecDepth 100000 in
theorem broken_after_day_tomorrow : (∃ r ∈ (execAll {} promisedTomorrow {}).promises, r.status = .broken ∧ r.DayOver) ∧
    ∀ c : Command, Punctual (execAll {} promisedTomorrow {}) (exec {} c (execAll {} promisedTomorrow {})) ↔
      c.AwaitsDay {} (execAll {} promisedTomorrow {}) := by
  have broken : ∃ r ∈ (execAll {} promisedTomorrow {}).promises, r.status = .broken := by decide +kernel
  obtain ⟨r, member, status⟩ := broken
  obtain ⟨onTime, exact_⟩ := broken_after_day (reachable_execAll {} promisedTomorrow)
  exact ⟨⟨r, member, status, onTime (Runs.reaches_allowed (by decide +kernel)) r member status⟩, exact_⟩

/-- A promise for the day the reply comes on, and a maintenance run a moment later. -/
def promisedToday : List Command :=
  reachable1 ++ [.recordOverdueInvoice acme "overdue-1" overdue1 5 5,
    .processEvent (drawn "receipt-1") acme (invoiceEventId acme "overdue-1") (ident "case-1") 10,
    .recordCustomerResponse acme "reply-1" (ident "inv-1") "I will pay today" (some { promised with
      terms := some { promisedDate := 0, amountMinor := 1000, currency := currency "INR", amount_pos := promised_pos }
      terms_iff := by decide }) 20,
    .escalateBrokenPromises 30 5]

set_option maxRecDepth 100000 in
theorem broken_within_day : ¬ ∀ (rt : Runtime) (db : Database), Reachable rt db →
    ∀ r ∈ db.promises, r.status = .broken → r.DayOver := by
  intro onTime
  have early : ∃ r ∈ (execAll {} promisedToday {}).promises, r.status = .broken ∧ ¬ r.DayOver := by decide +kernel
  obtain ⟨r, member, broken, within⟩ := early
  exact within (onTime {} _ (reachable_execAll {} promisedToday) r member broken)

end runs

end RevenueGuard
