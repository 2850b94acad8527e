import RevenueGuard.Safety.ContactLock
import RevenueGuard.Safety.PoliciesInForce
import RevenueGuard.Safety.Recovered

/-
Orders that are paid. A case proceeds and begins attempts on the word of its own
payment's row; the other payments of the order are not asked.
-/
namespace RevenueGuard

variable {db db' d e : Database} {rt : Runtime} {excluded : Kind → Prop} {k : CaseKey} {v v' v'' : CaseView} {row : CaseRow}
  {order : Identifier}

/-- The decisions of a case to proceed. -/
def CaseView.proceeds (v : CaseView) : List ReceiptRow := v.receipts.filter fun r => decide (r.policyResult = .proceed)

/-- The provider calls begun for the actions of a case. -/
def CaseView.calls (v : CaseView) : List (ActionIdentity × Nat) := v.actions.map fun r => (r.id, r.attempts.length)

/-- Nothing new is authorized for the case and no provider call begins. -/
structure Halted (v v' : CaseView) : Prop where
  proceeds : v'.proceeds = v.proceeds
  calls : v'.calls = v.calls

theorem Halted.refl (v : CaseView) : Halted v v := ⟨rfl, rfl⟩

theorem Halted.trans (h : Halted v v') (h' : Halted v' v'') : Halted v v'' :=
  ⟨h'.proceeds.trans h.proceeds, h'.calls.trans h.calls⟩

theorem proceeds_refused {receipt : ReceiptRow} (receipts : List ReceiptRow) (refused : receipt.policyResult ≠ .proceed) :
    (receipts ++ [receipt]).filter (fun r => decide (r.policyResult = .proceed)) =
      receipts.filter fun r => decide (r.policyResult = .proceed) := by
  simp [List.filter_append, refused]

/-- An update that keeps the number of attempts. -/
theorem calls_update {id : ActionIdentity} {f : ActionRow → ActionRow} (same : ∀ r, (f r).id = r.id)
    (attempts : ∀ r, (f r).attempts.length = r.attempts.length) (actions : List ActionRow) :
    (Table.update ActionRow.id id f actions).map (fun r => (r.id, r.attempts.length)) =
      actions.map fun r => (r.id, r.attempts.length) :=
  Table.map_update (fun r _ => by rw [same, attempts]) actions

theorem finish_attempts (r : ActionRow) (token : String) (c : AttemptCompletion) (t u : Instant) :
    (r.finish token c t u).attempts.length = r.attempts.length := by
  unfold ActionRow.finish
  dsimp only
  split <;> exact List.length_map _

theorem Resolved.calls {id : ActionIdentity} {s : ActionStatus} {before after : List ActionRow}
    (h : Resolved id s before after) :
    after.map (fun r => (r.id, r.attempts.length)) = before.map fun r => (r.id, r.attempts.length) := by
  rcases h with rfl | ⟨t, object, code, rfl⟩
  · rfl
  · exact calls_update (fun _ => by rfl) (fun _ => by rfl) _

/-- A step proceeds or calls only from three states, and where the case's own facts are unpaid or it was promised. -/
theorem Change.halts (h : Change excluded db k v v') (blocked : ∀ row, v.row = some row →
    row.case.state ∈ [CaseState.decisionPending, .ready, .executing] → ¬ row.Unpaid db ∧ ¬ PromisedCase k db) :
    Halted v v' := by
  cases h with
  | idle | opened | linked | prepared | reviewed | mismatched => exact ⟨rfl, rfl⟩
  | heard _ _ receipt _ _ _ _ _ _ _ refused =>
    exact ⟨proceeds_refused v.receipts (by rw [refused]; decide), rfl⟩
  | decided _ _ _ _ _ _ _ _ _ _ refused => exact ⟨proceeds_refused v.receipts refused, rfl⟩
  | unreviewed _ _ _ _ _ _ _ _ refused => exact ⟨proceeds_refused v.receipts refused, rfl⟩
  | authorized row _ _ _ _ _ present state _ _ _ _ _ _ _ unpaid =>
    obtain ⟨paid, unpromised⟩ := blocked row present (by rw [state]; decide)
    exact (unpaid.elim paid unpromised).elim
  | reauthorized row _ _ _ present state _ _ unpaid =>
    obtain ⟨paid, unpromised⟩ := blocked row present (by rw [state]; decide)
    exact (unpaid.elim paid unpromised).elim
  | begun row _ _ _ _ present state _ _ _ _ _ unpaid =>
    exact absurd unpaid (blocked row present (List.mem_cons_of_mem _ state)).1
  | leased => exact ⟨rfl, calls_update (fun _ => by rfl) (fun _ => by rfl) _⟩
  | blocked => exact ⟨rfl, calls_update (fun _ => by rfl) (fun _ => by rfl) _⟩
  | late => exact ⟨rfl, calls_update (fun _ => by rfl) (fun _ => by rfl) _⟩
  | retried => exact ⟨rfl, calls_update (fun r => congrArg Prod.fst (finish_stamp r _ _ _ _)) (fun r => finish_attempts r _ _ _ _) _⟩
  | finished => exact ⟨rfl, calls_update (fun r => congrArg Prod.fst (finish_stamp r _ _ _ _)) (fun r => finish_attempts r _ _ _ _) _⟩
  | lost => exact ⟨rfl, calls_update (fun _ => by rfl) (fun r => List.length_map _) _⟩
  | unresolved _ _ _ f _ _ _ _ _ _ _ marked =>
    rcases marked with rfl | ⟨-, rfl⟩ <;> exact ⟨rfl, calls_update (fun _ => by rfl) (fun _ => by rfl) _⟩
  | reconciled _ _ _ _ _ _ _ _ _ _ _ _ _ _ resolved => exact ⟨rfl, resolved.calls⟩
  | credited _ _ _ _ _ _ _ _ _ resolved => exact ⟨rfl, resolved.calls⟩
  | shadowed _ _ _ _ _ _ _ _ _ _ resolved => exact ⟨rfl, resolved.calls⟩

/-- A stored case stays and is about what it was about. -/
theorem Change.stays (h : Change excluded db k v v') (here : v.row = some row) :
    ∃ row', v'.row = some row' ∧ row'.case.anchor = row.case.anchor ∧ row'.recoveryEpisodeKey = row.recoveryEpisodeKey := by
  have moved {one other : CaseRow} {s : CaseState} (present : v.row = some one) (moved : one.Moved s other) :
      ∃ row', some other = some row' ∧ row'.case.anchor = row.case.anchor ∧
        row'.recoveryEpisodeKey = row.recoveryEpisodeKey := by
    rw [here, Option.some.injEq] at present
    subst present
    exact ⟨other, rfl, moved.anchor, moved.episode⟩
  cases h with
  | idle | linked | leased | retried | late => exact ⟨row, here, rfl, rfl⟩
  | opened _ absent =>
    rw [here] at absent
    cases absent
  | heard _ _ _ _ _ before => exact moved here (before row here).2
  | prepared _ _ _ present _ _ move => exact moved present move
  | decided _ _ _ _ _ present _ move => exact moved present move
  | unreviewed _ _ _ _ present _ move => exact moved present move
  | authorized _ _ _ _ _ _ present _ move => exact moved present move
  | reauthorized _ _ _ _ present _ move => exact moved present move
  | reviewed _ _ _ _ _ present _ _ move => exact moved present move
  | begun _ _ _ _ _ present _ move => exact moved present move
  | blocked _ _ _ _ _ _ _ present _ move => exact moved present move
  | finished _ _ _ _ _ _ _ _ _ _ present _ _ move => exact moved present move
  | lost _ _ _ _ _ _ _ present move => exact moved present move
  | unresolved _ _ _ _ _ _ _ present _ move => exact moved present move
  | reconciled _ _ _ _ _ _ _ present _ _ move => exact moved present move
  | credited _ _ _ _ _ present _ move => exact moved present move
  | shadowed _ _ _ _ _ _ present _ move => exact moved present move
  | mismatched _ _ present _ _ move => exact moved present move

/-- Promises are made for invoice cases. -/
def PromisesInvoiced (db : Database) : Prop :=
  ∀ k, PromisedCase k db → ∃ row, (view k db).row = some row ∧ row.case.subjectType = .invoice

theorem subject_of_anchor {row row' : CaseRow} (anchor : row'.case.anchor = row.case.anchor) :
    row'.case.subjectType = row.case.subjectType := congrArg CaseAnchor.subjectType anchor

theorem promisesInvoiced_invariant (reach : Reachable rt db) : PromisesInvoiced db := by
  refine (reach.under.invariant PromisesInvoiced (fun k none => absurd none List.not_mem_nil)
    (fun {d e} _ step before k promised => ?_) fun {d e} keyed changed before k promised => ?_).2
  · rw [PromisedCase, step.kept.promises] at promised
    obtain ⟨row, here, invoice⟩ := before k promised
    obtain ⟨row', there, anchor, -⟩ := (step.change k).stays here
    exact ⟨row', there, (subject_of_anchor anchor).trans invoice⟩
  · obtain ⟨p, member, rfl⟩ := List.mem_map.mp promised
    obtain ⟨row, here, invoice⟩ : ∃ row, (view p.key d).row = some row ∧ row.case.subjectType = .invoice := by
      rcases changed.promises p member with old | ⟨row, stored, key, invoice⟩
      · exact before p.key old
      · refine ⟨row, ?_, invoice⟩
        rw [← key]
        exact keyed.row stored
    rcases changed.row p.key with ⟨one, other, present, after, moved⟩ | ⟨absent, -⟩
    · rw [here, Option.some.injEq] at present
      subst present
      exact ⟨other, after, (subject_of_anchor moved.anchor).trans invoice⟩
    · rw [here] at absent
      cases absent

/-- The case's own payment, subscription or invoice is paid. -/
def PaidCase (k : CaseKey) (db : Database) : Prop :=
  (∃ row, (view k db).row = some row ∧ row.case.subjectType ≠ .invoice) ∧ ∀ row, (view k db).row = some row → ¬ row.Unpaid db

theorem Steps.halts (steps : Steps excluded d e) (paid : PaidCase k d) (unpromised : ¬ PromisedCase k d) :
    Halted (view k d) (view k e) ∧ PaidCase k e ∧ ¬ PromisedCase k e := by
  refine steps.invariant (fun e => Halted (view k d) (view k e) ∧ PaidCase k e ∧ ¬ PromisedCase k e)
    ⟨.refl _, paid, unpromised⟩ fun {b c} step before => ?_
  obtain ⟨halted, ⟨⟨row, here, subject⟩, unpaid⟩, unpromised⟩ := before
  obtain ⟨row', there, anchor, -⟩ := (step.change k).stays here
  refine ⟨halted.trans ((step.change k).halts fun one found _ => ⟨unpaid one found, unpromised⟩), ⟨⟨row', there, ?_⟩, fun one found => ?_⟩, ?_⟩
  · rw [subject_of_anchor anchor]
    exact subject
  · rw [there, Option.some.injEq] at found
    subst found
    have same := unpaid row here
    rw [CaseRow.Unpaid] at same ⊢
    rw [facts_of_anchor anchor, step.kept.facts]
    exact same
  · rw [PromisedCase, step.kept.promises]
    exact unpromised

/-- No command proceeds with a paid case that is not an invoice's, or calls the provider for it. -/
theorem exec_halts (reach : Reachable rt db) (paid : PaidCase k db) (c : Command) :
    Halted (view k db) (view k (exec rt c db)) := by
  have unpromised : ¬ PromisedCase k db := by
    intro promised
    obtain ⟨row, here, invoice⟩ := promisesInvoiced_invariant reach k promised
    obtain ⟨⟨other, there, subject⟩, -⟩ := paid
    rw [here, Option.some.injEq] at there
    subst there
    exact subject invoice
  rcases exec_simulated reach.under.keyed c (c.avoids_nothing rt db) with steps | changed
  · exact (steps.halts paid unpromised).1
  · refine ⟨?_, ?_⟩
    · simp only [CaseView.proceeds, view, changed.receipts]
    · simp only [CaseView.calls, view, changed.actions]

/-- The payment case was opened for the order. -/
def CaseRow.OpenedFor (row : CaseRow) (order : Identifier) : Prop :=
  row.case.subjectType = .payment ∧
    row.recoveryEpisodeKey = some ⟨row.case.merchantId, .paymentDegradation, .payment, order⟩

def Database.payment (db : Database) (merchantId paymentId : Identifier) : Option PaymentRow :=
  db.payments.find? fun r => decide (r.merchantId = merchantId ∧ r.paymentId = paymentId)

/-- A stored payment of the order has a paid status. -/
def PaysOrder (merchantId order paymentId : Identifier) (db : Database) : Prop :=
  ∃ p, db.payment merchantId paymentId = some p ∧ p.orderId = some order ∧ paidStatus (some p.status) = true

theorem paid_order_halted (reach : Reachable rt db) (here : db.caseRow k = some row) (opened : row.OpenedFor order)
    {payment : Identifier} (paid : PaysOrder row.case.merchantId order payment db) (own : payment = row.case.subjectId)
    (c : Command) : Halted (view k db) (view k (exec rt c db)) := by
  obtain ⟨p, stored, -, status⟩ := paid
  refine exec_halts reach ⟨⟨row, here, ?_⟩, fun one found => ?_⟩ c
  · rw [opened.1]
    decide
  · rw [show (view k db).row = some row from here, Option.some.injEq] at found
    subst found
    have facts : (authoritativeFactsForCase row.case db).status = some p.status := by
      unfold authoritativeFactsForCase paymentFacts
      rw [opened.1]
      rw [own, Database.payment] at stored
      dsimp only
      rw [stored]
    rw [CaseRow.Unpaid, facts, status]
    decide

section runs

/-- A payment attempt of the order. -/
def attempted (payment : Identifier) (status : String) (at_ : Instant) : PaymentRow :=
  { merchantId := acme
    paymentId := payment
    customerId := none
    orderId := some (ident "order-1")
    amountMinor := 1000
    currency := currency "INR"
    status := status
    providerOccurredAt := at_
    providerUpdatedAt := some at_ }

/-- The first attempt of the order fails and its payment link is authorized; then `payment` is captured. -/
def capturedMeanwhile (payment : Identifier) : List Command :=
  [.registerMerchant acme, .publishPolicy acme linksOnly, .upsertPayment (attempted (ident "pay-1") "failed" 5),
    .persistNormalizedEvent { expiredCard (ident "event-1") (ident "pay-1") 5 with
      orderId := some (ident "order-1"), subject := expiredCard_subject _ _ _ },
    .processEvent (drawn "receipt-1") acme (ident "event-1") (ident "case-1") 10,
    .claimDueActions (fun _ => "lease-1") 20 1000 5, .upsertPayment (attempted payment "captured" 22)]

theorem openedFor_of (opened : row.case.subjectType = .payment)
    (episode : row.recoveryEpisodeKey = some ⟨row.case.merchantId, .paymentDegradation, .payment, order⟩) :
    row.OpenedFor order := ⟨opened, episode⟩

set_option maxRecDepth 100000 in
theorem paid_order_halted_own : ∃ row, (execAll {} (capturedMeanwhile (ident "pay-1")) {}).caseRow case1 = some row ∧
    Halted (view case1 (execAll {} (capturedMeanwhile (ident "pay-1")) {}))
      (view case1 (exec {} (.prepareExecution link1 "lease-1" 25) (execAll {} (capturedMeanwhile (ident "pay-1")) {}))) := by
  obtain ⟨row, here, subject, episode, own⟩ :
      ∃ r ∈ (execAll {} (capturedMeanwhile (ident "pay-1")) {}).caseRow case1, r.case.subjectType = .payment ∧
        r.recoveryEpisodeKey = some ⟨r.case.merchantId, .paymentDegradation, .payment, ident "order-1"⟩ ∧
          r.case.merchantId = acme ∧ r.case.subjectId = ident "pay-1" := by decide +kernel
  obtain ⟨p, stored, of, status⟩ : ∃ p ∈ (execAll {} (capturedMeanwhile (ident "pay-1")) {}).payment acme (ident "pay-1"),
      p.orderId = some (ident "order-1") ∧ paidStatus (some p.status) = true := by decide +kernel
  rw [← own.1] at stored
  exact ⟨row, here, paid_order_halted (reachable_execAll {} (capturedMeanwhile (ident "pay-1"))) here
    (openedFor_of subject episode) ⟨p, stored, of, status⟩ own.2.symm _⟩

set_option maxRecDepth 100000 in
theorem paid_order_called : ¬ ∀ (rt : Runtime) (db : Database), Reachable rt db →
    ∀ (k : CaseKey) (row : CaseRow) (order payment : Identifier), db.caseRow k = some row → row.OpenedFor order →
      PaysOrder row.case.merchantId order payment db → ∀ c, Halted (view k db) (view k (exec rt c db)) := by
  intro halted
  obtain ⟨row, here, subject, episode, own⟩ :
      ∃ r ∈ (execAll {} (capturedMeanwhile (ident "pay-2")) {}).caseRow case1, r.case.subjectType = .payment ∧
        r.recoveryEpisodeKey = some ⟨r.case.merchantId, .paymentDegradation, .payment, ident "order-1"⟩ ∧
          r.case.merchantId = acme := by decide +kernel
  obtain ⟨p, stored, of, status⟩ : ∃ p ∈ (execAll {} (capturedMeanwhile (ident "pay-2")) {}).payment acme (ident "pay-2"),
      p.orderId = some (ident "order-1") ∧ paidStatus (some p.status) = true := by decide +kernel
  rw [← own] at stored
  have kept := (halted {} _ (reachable_execAll {} (capturedMeanwhile (ident "pay-2"))) case1 row (ident "order-1")
    (ident "pay-2") here (openedFor_of subject episode) ⟨p, stored, of, status⟩
    (.prepareExecution link1 "lease-1" 25)).calls
  have before : (view case1 (execAll {} (capturedMeanwhile (ident "pay-2")) {})).calls = [(link1, 0)] := by decide +kernel
  have after : (view case1 (exec {} (.prepareExecution link1 "lease-1" 25)
      (execAll {} (capturedMeanwhile (ident "pay-2")) {}))).calls = [(link1, 1)] := by decide +kernel
  rw [before, after] at kept
  exact absurd kept (by decide)

end runs

end RevenueGuard
