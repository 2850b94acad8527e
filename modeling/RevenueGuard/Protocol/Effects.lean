import RevenueGuard.Protocol.View

/-
What each store transaction does to the view of the case it is about: one lemma
for each of them. Callers use these and do not look inside the transactions.
-/
namespace RevenueGuard

variable {db db' : Database}

theorem keepsKey_apply (k : CaseKey) (updated : RecoveryCase) (e : Option NormalizedEvent) :
    Table.KeepsKey CaseRow.key k fun r => r.apply updated e := fun _ h => h

theorem keepsKey_count (k : CaseKey) (updated : RecoveryCase) : Table.KeepsKey CaseRow.key k (CaseRow.count updated) :=
  fun _ h => h

theorem view_updateCase (k key : CaseKey) {f : CaseRow → CaseRow} (keeps : Table.KeepsKey CaseRow.key key f)
    (ts : List CaseTransition) (links : List IncidentCaseLink) :
    view k { db with cases := Table.update CaseRow.key key f db.cases, transitions := ts, incidentLinks := links } =
      if k = key then { view k db with row := (view k db).row.map f } else view k db := by
  by_cases same : k = key
  · subst same
    simp only [view, Database.caseRow, Table.lookup_update_self keeps, if_true]
  · simp only [view, Database.caseRow, Table.lookup_update_ne keeps same, if_neg same]

theorem local_updateCase (key : CaseKey) {f : CaseRow → CaseRow} (keeps : Table.KeepsKey CaseRow.key key f)
    (ts : List CaseTransition) (links : List IncidentCaseLink) :
    Local key db
      { db with cases := Table.update CaseRow.key key f db.cases, transitions := ts, incidentLinks := links } where
  elsewhere k' ne := by rw [view_updateCase k' key keeps, if_neg ne]
  kept := ⟨rfl, rfl, rfl, rfl, rfl, rfl, rfl, rfl, id, fun nodup => by
    rw [Table.keys_update keeps]; exact nodup⟩

theorem apply_moved (row : CaseRow) (updated : RecoveryCase) (e : Option NormalizedEvent) :
    row.Moved updated.state (row.apply updated e) := ⟨rfl, rfl, rfl⟩

theorem applyTransition_effect {updated : RecoveryCase} {t : CaseTransition} {e : Option NormalizedEvent} {u : Unit}
    (h : (applyTransition updated t e).run db = .ok (u, db')) :
    Local ⟨t.merchantId, t.caseId⟩ db db' ∧ ∃ row, (view ⟨t.merchantId, t.caseId⟩ db).row = some row ∧
      row.case.state = t.beforeState ∧ row.case.stateVersion = t.beforeVersion ∧
      view ⟨t.merchantId, t.caseId⟩ db' =
        { view ⟨t.merchantId, t.caseId⟩ db with row := some (row.apply updated e) } ∧ db'.outcomes = db.outcomes := by
  obtain ⟨_, _, read, h⟩ := Tx.bind_ok h
  obtain ⟨rfl, rfl⟩ := Tx.read_ok read
  obtain ⟨_, _, checked, h⟩ := Tx.bind_ok h
  obtain ⟨⟨row, present, state, version⟩, rfl⟩ := Tx.check_ok checked
  have written := Tx.write_ok h
  subst written
  refine ⟨local_updateCase _ (keepsKey_apply _ updated e) _ _, row, present, state, version, ?_, rfl⟩
  have here : (view ⟨t.merchantId, t.caseId⟩ db).row = some row := present
  rw [view_updateCase _ _ (keepsKey_apply _ updated e), if_pos rfl, here]
  rfl

/-- What a committed transition says about the case and does to its view. -/
structure Transited (case : RecoveryCase) (t : Transition) (updated : RecoveryCase) (db db' : Database) : Prop where
  legal : t.toState ∈ allowedTransitions case.state
  anchor : updated.anchor = case.anchor
  state : updated.state = t.toState
  updatedAt : updated.updatedAt = t.occurredAt
  isLocal : Local case.key db db'
  outcomes : db'.outcomes = db.outcomes
  effect : ∃ row row', (view case.key db).row = some row ∧ row.case.state = case.state ∧ row.Moved t.toState row' ∧
    view case.key db' = { view case.key db with row := some row' }

theorem Transited.key {case updated : RecoveryCase} {t : Transition} (h : Transited case t updated db db') :
    updated.key = case.key := key_of_anchor h.anchor

theorem require_ok {c : Prop} [Decidable c] {e : Failure} {u : Unit} (h : require c e = .ok u) : c := by
  unfold require at h
  split at h
  · assumption
  · cases h

theorem except_bind_ok {E A B : Type} {x : Except E A} {f : A → Except E B} {b : B}
    (h : (x >>= f) = .ok b) : ∃ a, x = .ok a ∧ f a = .ok b := by
  cases x with
  | error e => cases h
  | ok a => exact ⟨a, rfl, h⟩

structure Transition.Legal (t : Transition) (case : RecoveryCase) : Prop where
  edge : t.toState ∈ allowedTransitions case.state
  time : case.updatedAt ≤ t.occurredAt
  terminalReason : t.toState.Terminal → blank t.terminalReason = false
  noTerminalReason : ¬ t.toState.Terminal → t.terminalReason = none
  evidence : t.toState = .recovered → blank t.authoritativeEvidenceReference = false

theorem legal_ok {case : RecoveryCase} {n : Nat} {t : Transition} {u : Unit} (h : t.legal case n = .ok u) :
    case.stateVersion = n ∧ t.Legal case := by
  unfold Transition.legal at h
  obtain ⟨_, version, h⟩ := except_bind_ok h
  obtain ⟨_, edge, h⟩ := except_bind_ok h
  obtain ⟨_, time, h⟩ := except_bind_ok h
  obtain ⟨_, terminal, h⟩ := except_bind_ok h
  obtain ⟨_, live, evidence⟩ := except_bind_ok h
  exact ⟨require_ok version, of_decide_eq_true (require_ok edge), require_ok time, require_ok terminal,
    require_ok live, require_ok evidence⟩

theorem transitionCase_ok {case : RecoveryCase} {n : Nat} {t : Transition} {moved : RecoveryCase × CaseTransition}
    (h : transitionCase case n t = .ok moved) :
    case.stateVersion = n ∧ t.Legal case ∧ moved = (case.moved t, case.transition t) := by
  unfold transitionCase at h
  obtain ⟨_, legal, h⟩ := except_bind_ok h
  obtain ⟨_, -, h⟩ := except_bind_ok h
  cases h
  exact ⟨(legal_ok legal).1, (legal_ok legal).2, rfl⟩

theorem settled_case (case : RecoveryCase) (t : Transition) (d : Option Diagnosis) (retry : Bool) :
    (((case.moved t).withDiagnosis d).countRetry retry).anchor = case.anchor ∧
      (((case.moved t).withDiagnosis d).countRetry retry).state = t.toState ∧
      (((case.moved t).withDiagnosis d).countRetry retry).updatedAt = t.occurredAt := by
  cases d <;> cases retry <;> exact ⟨rfl, rfl, rfl⟩

theorem recoveryTransition_effect {case updated : RecoveryCase} {t : Transition} {d : Option Diagnosis}
    {e : Option NormalizedEvent} {retry : Bool}
    (h : (recoveryTransition case t d e retry).run db = .ok (updated, db')) : Transited case t updated db db' := by
  obtain ⟨moved, d1, lifted, h⟩ := Tx.bind_ok h
  obtain ⟨decided, rfl⟩ := Tx.lift_ok lifted
  obtain ⟨_, legal, rfl⟩ := transitionCase_ok decided
  obtain ⟨_, d2, applied, h⟩ := Tx.bind_ok h
  obtain ⟨isLocal, row, present, state, -, seen, outcomes⟩ := applyTransition_effect applied
  obtain ⟨rfl, rfl⟩ := Tx.pure_ok h
  have shape := settled_case case t d retry
  refine ⟨legal.edge, shape.1, shape.2.1, shape.2.2, isLocal, outcomes, row, row.apply _ e, present, state, ?_, seen⟩
  have kept := apply_moved row (((case.moved t).withDiagnosis d).countRetry retry) e
  rw [shape.2.1] at kept
  exact kept

theorem Transited.tracks {case updated : RecoveryCase} {t : Transition} (h : Transited case t updated db db')
    (tracked : Tracks case db) : Tracks updated db' := by
  obtain ⟨row, row', present, _, moved, seen⟩ := h.effect
  obtain ⟨tracking, here, anchor, -⟩ := tracked
  have same : row = tracking := Option.some.inj (present.symm.trans here)
  refine ⟨row', by rw [h.key, seen], ?_, by rw [moved.state, h.state]⟩
  rw [moved.anchor, same, anchor, h.anchor]

/-- A case taken through some transitions, nothing else of it changed. -/
structure Passed (case moved : RecoveryCase) (db db' : Database) : Prop where
  anchor : moved.anchor = case.anchor
  tracks : Tracks moved db'
  isLocal : Local case.key db db'
  outcomes : db'.outcomes = db.outcomes
  effect : ∃ row row', (view case.key db).row = some row ∧ row.case.state = case.state ∧ row.Moved moved.state row' ∧
    view case.key db' = { view case.key db with row := some row' }

theorem Passed.key {case moved : RecoveryCase} (h : Passed case moved db db') : moved.key = case.key :=
  key_of_anchor h.anchor

theorem Passed.refl {case : RecoveryCase} (tracked : Tracks case db) : Passed case case db db := by
  obtain ⟨row, present, anchor, state⟩ := tracked
  exact ⟨rfl, ⟨row, present, anchor, state⟩, .refl _ _, rfl, row, row, present, state, ⟨rfl, rfl, state⟩,
    by rw [← present]⟩

theorem Transited.passed {case updated : RecoveryCase} {t : Transition} (h : Transited case t updated db db')
    (tracked : Tracks case db) : Passed case updated db db' := by
  refine ⟨h.anchor, h.tracks tracked, h.isLocal, h.outcomes, ?_⟩
  obtain ⟨row, row', present, state, moved, seen⟩ := h.effect
  exact ⟨row, row', present, state, h.state ▸ moved, seen⟩

theorem Passed.trans {case middle moved : RecoveryCase} {d : Database} (first : Passed case middle db d)
    (second : Passed middle moved d db') : Passed case moved db db' := by
  refine ⟨second.anchor.trans first.anchor, second.tracks, ?_, second.outcomes.trans first.outcomes, ?_⟩
  · have isLocal := second.isLocal
    rw [first.key] at isLocal
    exact first.isLocal.trans isLocal
  · obtain ⟨row, row1, present, state, moved, seen⟩ := first.effect
    obtain ⟨row1', row', present', -, moved', seen'⟩ := second.effect
    rw [first.key, seen] at present' seen'
    cases present'
    exact ⟨row, row', present, state, moved.trans moved', seen'⟩

theorem requireCase_effect {k : CaseKey} {case : RecoveryCase} (h : (requireCase k).run db = .ok (case, db')) :
    db.caseOf k = some case ∧ db = db' := by
  obtain ⟨_, _, read, h⟩ := Tx.bind_ok h
  obtain ⟨rfl, rfl⟩ := Tx.read_ok read
  exact Tx.found_ok h

theorem requiredCase_effect {action : ActionRow} {case : RecoveryCase}
    (h : (requiredCase action).run db = .ok (case, db')) : db.caseOf action.key = some case ∧ db = db' := by
  obtain ⟨_, _, read, h⟩ := Tx.bind_ok h
  obtain ⟨rfl, rfl⟩ := Tx.read_ok read
  exact Tx.found_ok h

theorem lockMerchant_effect {m : Identifier} {u : Unit} (h : (lockMerchant m).run db = .ok (u, db')) :
    m ∈ db.merchants ∧ db = db' := by
  obtain ⟨_, _, read, h⟩ := Tx.bind_ok h
  obtain ⟨rfl, rfl⟩ := Tx.read_ok read
  obtain ⟨known, same⟩ := Tx.check_ok h
  exact ⟨of_decide_eq_true known, same⟩

theorem latest_mem {A : Type} {time : A → Instant} {rows : List A} {r : A} (h : latest time rows = some r) :
    r ∈ rows := by
  induction rows with
  | nil => cases h
  | cons a rest ih =>
    unfold latest at h
    cases found : latest time rest with
    | none =>
      simp only [found, Option.some.injEq] at h
      exact h ▸ List.mem_cons_self
    | some b =>
      simp only [found] at h
      split at h <;> cases h
      · exact List.mem_cons_of_mem _ (ih found)
      · exact List.mem_cons_self

theorem effectivePolicy_effect {m : Identifier} {t : Instant} {policy : MerchantPolicySnapshot}
    (h : (effectivePolicy m t).run db = .ok (policy, db')) :
    (∃ r ∈ db.policies, r.merchantId = m ∧ r.effectiveAt ≤ t ∧ policy = policyFromDocument r.snapshot
      ∧ policy.contentDigest = r.contentSha256) ∧ db = db' := by
  obtain ⟨_, _, read, h⟩ := Tx.bind_ok h
  obtain ⟨rfl, rfl⟩ := Tx.read_ok read
  obtain ⟨r, _, found, h⟩ := Tx.bind_ok h
  obtain ⟨newest, rfl⟩ := Tx.found_ok found
  obtain ⟨_, _, checked, h⟩ := Tx.bind_ok h
  obtain ⟨digest, rfl⟩ := Tx.check_ok checked
  obtain ⟨rfl, rfl⟩ := Tx.pure_ok h
  obtain ⟨member, here⟩ := List.mem_filter.mp (latest_mem newest)
  obtain ⟨merchant, effective⟩ := of_decide_eq_true here
  exact ⟨⟨r, member, merchant, effective, rfl, digest⟩, rfl⟩

theorem storeReview_effect {review : HumanReviewRequest} {u : Unit}
    (h : (storeReview review).run db = .ok (u, db')) :
    Local review.key db db' ∧ view review.key db' =
      { view review.key db with reviews := (view review.key db).reviews ++ [review] } := by
  obtain ⟨_, _, read, h⟩ := Tx.bind_ok h
  obtain ⟨rfl, rfl⟩ := Tx.read_ok read
  obtain ⟨_, _, checked, h⟩ := Tx.bind_ok h
  obtain ⟨absent, rfl⟩ := Tx.check_ok checked
  have written := Tx.write_ok h
  subst written
  have new : Table.lookup HumanReviewRequest.id review.id db.reviews = none := by
    simpa [Database.review, HumanReviewRequest.id] using absent
  refine ⟨⟨fun k' ne => ?_, ?_⟩, ?_⟩
  · simp only [view, Database.caseRow, select_append_ne (Ne.symm ne)]
  · exact ⟨rfl, rfl, rfl, rfl, rfl, rfl, rfl, rfl, fun nodup => Table.nodup_append_new nodup new, id⟩
  · simp only [view, Database.caseRow, select_append_self]

theorem storeReceipt_effect {k : CaseKey} {receipt : ReceiptRow} {u : Unit} (here : receipt.key = k)
    (h : (storeReceipt receipt).run db = .ok (u, db')) :
    Local k db db' ∧ view k db' = { view k db with receipts := (view k db).receipts ++ [receipt] } := by
  subst here
  obtain ⟨_, _, read, h⟩ := Tx.bind_ok h
  obtain ⟨rfl, rfl⟩ := Tx.read_ok read
  obtain ⟨_, _, checked, h⟩ := Tx.bind_ok h
  obtain ⟨-, rfl⟩ := Tx.check_ok checked
  have written := Tx.write_ok h
  subst written
  refine ⟨⟨fun k' ne => ?_, ?_⟩, ?_⟩
  · simp only [view, Database.caseRow, select_append_ne (Ne.symm ne)]
  · exact ⟨rfl, rfl, rfl, rfl, rfl, rfl, rfl, rfl, id, id⟩
  · simp only [view, Database.caseRow, select_append_self]

theorem storeAction_ok {action : RecoveryAction} {version : Identifier} {n : Nat} {deadline : Instant} {row : ActionRow}
    (h : (storeAction action version n deadline).run db = .ok (row, db')) :
    1 ≤ n ∧ ((db.action action.identity = some row ∧ db = db') ∨
      (db.action action.identity = none ∧ row = .ofAction action version n deadline ∧
        db' = { db with actions := db.actions ++ [row] })) := by
  obtain ⟨_, _, checked, h⟩ := Tx.bind_ok h
  obtain ⟨positive, rfl⟩ := Tx.check_ok checked
  obtain ⟨_, _, checked, h⟩ := Tx.bind_ok h
  obtain ⟨-, rfl⟩ := Tx.check_ok checked
  obtain ⟨_, _, read, h⟩ := Tx.bind_ok h
  obtain ⟨rfl, rfl⟩ := Tx.read_ok read
  refine ⟨positive, ?_⟩
  split at h
  · rename_i found
    obtain ⟨rfl, rfl⟩ := Tx.pure_ok h
    exact .inl ⟨found, rfl⟩
  · rename_i absent
    obtain ⟨_, _, written, h⟩ := Tx.bind_ok h
    have written := Tx.write_ok written
    subst written
    obtain ⟨rfl, rfl⟩ := Tx.pure_ok h
    exact .inr ⟨absent, rfl, rfl⟩

theorem storeAction_effect {action : RecoveryAction} {version : Identifier} {n : Nat} {deadline : Instant}
    {row : ActionRow} (h : (storeAction action version n deadline).run db = .ok (row, db')) :
    1 ≤ n ∧ ((db.action action.identity = some row ∧ db = db') ∨
      (db.action action.identity = none ∧ row = .ofAction action version n deadline ∧
        Local action.identity.key db db' ∧ view action.identity.key db' =
          { view action.identity.key db with actions := (view action.identity.key db).actions ++ [row] })) := by
  obtain ⟨positive, existing | ⟨absent, made, rfl⟩⟩ := storeAction_ok h
  · exact ⟨positive, .inl existing⟩
  · have here : row.key = action.identity.key := by rw [made]; rfl
    refine ⟨positive, .inr ⟨absent, made, ⟨fun k' ne => ?_, ?_⟩, ?_⟩⟩
    · simp only [view, Database.caseRow]
      rw [select_append_ne (fun e => ne (e.symm.trans here))]
    · exact ⟨rfl, rfl, rfl, rfl, rfl, rfl, rfl, rfl, id, id⟩
    · simp only [view, Database.caseRow]
      rw [select_append_self here]

theorem linkEvidence_effect {link : CaseEventRow} {k : CaseKey} {r : EvidenceLinkResult} (here : link.key = some k)
    (h : (linkEvidence link).run db = .ok (r, db')) :
    (r.created = false ∧ db = db') ∨ (r = ⟨link, true⟩ ∧
      Table.lookup CaseEventRow.id link.id db.caseEvents = none ∧ Local k db db' ∧
      view k db' = { view k db with links := (view k db).links ++ [link] }) := by
  obtain ⟨_, _, read, h⟩ := Tx.bind_ok h
  obtain ⟨rfl, rfl⟩ := Tx.read_ok read
  split at h
  · obtain ⟨rfl, rfl⟩ := Tx.pure_ok h
    exact .inl ⟨rfl, rfl⟩
  · rename_i absent
    obtain ⟨_, _, written, h⟩ := Tx.bind_ok h
    have written := Tx.write_ok written
    subst written
    obtain ⟨rfl, rfl⟩ := Tx.pure_ok h
    refine .inr ⟨rfl, absent, ⟨fun k' ne => ?_, ?_⟩, ?_⟩
    · simp only [view, Database.caseRow]
      rw [select_append_ne (fun e => ne (Option.some.inj (e.symm.trans here)))]
    · exact ⟨rfl, rfl, rfl, rfl, rfl, rfl, rfl, rfl, id, id⟩
    · simp only [view, Database.caseRow]
      rw [select_append_self here]

/-- A link without a case is seen by none. -/
theorem linkEvidence_unseen {link : CaseEventRow} {r : EvidenceLinkResult} (nowhere : link.key = none)
    (h : (linkEvidence link).run db = .ok (r, db')) : Unseen db db' := by
  obtain ⟨_, _, read, h⟩ := Tx.bind_ok h
  obtain ⟨rfl, rfl⟩ := Tx.read_ok read
  split at h
  · obtain ⟨rfl, rfl⟩ := Tx.pure_ok h
    exact .refl _
  · obtain ⟨_, _, written, h⟩ := Tx.bind_ok h
    have written := Tx.write_ok written
    subst written
    obtain ⟨rfl, rfl⟩ := Tx.pure_ok h
    refine ⟨fun k => ?_, ⟨rfl, rfl, rfl, rfl, rfl, rfl, rfl, rfl, id, id⟩⟩
    simp only [view, Database.caseRow]
    rw [select_append_ne (by rw [nowhere]; simp)]

def Database.knows (db : Database) (m customer : Identifier) : Bool :=
  db.customers.any fun c => c.merchantId == m && c.customerId == customer

/-- What the checks of an insert have seen: the key is free, the customer known, the subject and the episode unclaimed. -/
structure CaseRow.Admitted (row : CaseRow) (db : Database) : Prop where
  new : db.caseRow row.key = none
  customer : ∀ id ∈ row.case.customerId, db.knows row.case.merchantId id = true
  subject : ∀ r ∈ db.cases, ¬ (r.case.merchantId = row.case.merchantId ∧ r.case.workflowType = row.case.workflowType
    ∧ r.case.subjectType = row.case.subjectType ∧ r.case.subjectId = row.case.subjectId ∧ ¬ r.case.state.Terminal)
  episode : ∀ r ∈ db.cases, row.recoveryEpisodeKey.isSome = true → r.recoveryEpisodeKey ≠ row.recoveryEpisodeKey

theorem createCase_ok {row : CaseRow} {u : Unit} (h : (createCase row).run db = .ok (u, db')) :
    row.Admitted db ∧ db' = { db with cases := db.cases ++ [row] } := by
  obtain ⟨_, _, read, h⟩ := Tx.bind_ok h
  obtain ⟨rfl, rfl⟩ := Tx.read_ok read
  obtain ⟨_, _, checked, h⟩ := Tx.bind_ok h
  obtain ⟨absent, rfl⟩ := Tx.check_ok checked
  obtain ⟨_, _, read, h⟩ := Tx.bind_ok h
  obtain ⟨rfl, rfl⟩ := Tx.read_ok read
  obtain ⟨_, _, checked, h⟩ := Tx.bind_ok h
  obtain ⟨customer, rfl⟩ := Tx.check_ok checked
  obtain ⟨_, _, read, h⟩ := Tx.bind_ok h
  obtain ⟨rfl, rfl⟩ := Tx.read_ok read
  obtain ⟨_, _, checked, h⟩ := Tx.bind_ok h
  obtain ⟨subject, rfl⟩ := Tx.check_ok checked
  obtain ⟨_, _, checked, h⟩ := Tx.bind_ok h
  obtain ⟨episode, rfl⟩ := Tx.check_ok checked
  refine ⟨⟨by simpa using absent, fun id named => ?_, subject, episode⟩, Tx.write_ok h⟩
  obtain ⟨c, member, merchant, same⟩ := customer id named
  exact List.any_eq_true.mpr ⟨c, member, by simp [merchant, same]⟩

theorem createCase_effect {row : CaseRow} {u : Unit} (h : (createCase row).run db = .ok (u, db')) :
    row.Admitted db ∧ Local row.key db db' ∧ view row.key db' = { view row.key db with row := some row } := by
  obtain ⟨admitted, rfl⟩ := createCase_ok h
  refine ⟨admitted, ⟨fun k' ne => ?_, ?_⟩, ?_⟩
  · simp only [view, Database.caseRow, Table.lookup_append_ne (Ne.symm ne)]
  · exact ⟨rfl, rfl, rfl, rfl, rfl, rfl, rfl, rfl, id, fun nodup => Table.nodup_append_new nodup admitted.new⟩
  · simp only [view, Database.caseRow, Table.lookup_append_new admitted.new]

theorem count_moved (row : CaseRow) (updated : RecoveryCase) : row.Moved row.case.state (row.count updated) :=
  ⟨rfl, rfl, rfl⟩

theorem recordExecutionAttemptCounters_effect {case updated : RecoveryCase} {retry contact : Nat} {t : Instant}
    {row : CaseRow} (present : (view case.key db).row = some row)
    (h : (recordExecutionAttemptCounters case retry contact t).run db = .ok (updated, db')) :
    updated.anchor = case.anchor ∧ updated.state = case.state ∧ Local case.key db db' ∧
      ∃ row', row.Moved row.case.state row' ∧ view case.key db' = { view case.key db with row := some row' } := by
  obtain ⟨_, _, checked, h⟩ := Tx.bind_ok h
  obtain ⟨-, rfl⟩ := Tx.check_ok checked
  obtain ⟨_, _, checked, h⟩ := Tx.bind_ok h
  obtain ⟨-, rfl⟩ := Tx.check_ok checked
  split at h
  · obtain ⟨rfl, rfl⟩ := Tx.pure_ok h
    refine ⟨rfl, rfl, .refl _ _, row, ⟨rfl, rfl, rfl⟩, ?_⟩
    rw [← present]
  · obtain ⟨_, _, checked, h⟩ := Tx.bind_ok h
    obtain ⟨-, rfl⟩ := Tx.check_ok checked
    obtain ⟨_, _, read, h⟩ := Tx.bind_ok h
    obtain ⟨rfl, rfl⟩ := Tx.read_ok read
    obtain ⟨_, _, checked, h⟩ := Tx.bind_ok h
    obtain ⟨-, rfl⟩ := Tx.check_ok checked
    obtain ⟨_, _, written, h⟩ := Tx.bind_ok h
    have written := Tx.write_ok written
    subst written
    obtain ⟨rfl, rfl⟩ := Tx.pure_ok h
    refine ⟨rfl, rfl, local_updateCase _ (keepsKey_count _ _) _ _, _,
      count_moved row (case.counted retry contact t), ?_⟩
    rw [view_updateCase _ _ (keepsKey_count _ _), if_pos rfl, present]
    rfl

theorem updateReviewDecision_effect {m : Identifier} {review : HumanReviewRequest} {u : Unit}
    (nodup : (db.reviews.map HumanReviewRequest.id).Nodup)
    (h : (updateReviewDecision m review).run db = .ok (u, db')) :
    review.status ≠ .requested ∧ ∃ r, db.review m review.reviewId = some r ∧ r.status = .requested ∧
      Local r.key db db' ∧ r ∈ (view r.key db).reviews ∧ view r.key db' = { view r.key db with
        reviews := Table.update HumanReviewRequest.id (m, review.reviewId) (HumanReviewRequest.decide review)
          (view r.key db).reviews } := by
  obtain ⟨_, _, checked, h⟩ := Tx.bind_ok h
  obtain ⟨settled, rfl⟩ := Tx.check_ok checked
  obtain ⟨_, _, read, h⟩ := Tx.bind_ok h
  obtain ⟨rfl, rfl⟩ := Tx.read_ok read
  obtain ⟨_, _, checked, h⟩ := Tx.bind_ok h
  obtain ⟨⟨r, found, requested⟩, rfl⟩ := Tx.check_ok checked
  have written := Tx.write_ok h
  subst written
  have keeps : ∀ s : HumanReviewRequest, s.id = (m, review.reviewId) →
      (HumanReviewRequest.decide review s).key = s.key := fun _ _ => rfl
  refine ⟨settled, r, found, requested, ⟨fun k' ne => ?_, ?_⟩, ?_, ?_⟩
  · simp only [view, Database.caseRow]
    rw [select_update_ne keeps]
    intro s hs same here
    have unique := Table.lookup_of_mem nodup hs
    rw [same] at unique
    rw [Option.some.inj (unique.symm.trans found)] at here
    exact ne here.symm
  · refine ⟨rfl, rfl, rfl, rfl, rfl, rfl, rfl, rfl, fun nodup => ?_, id⟩
    have kept : Table.KeepsKey HumanReviewRequest.id (m, review.reviewId) (HumanReviewRequest.decide review) :=
      fun _ hs => hs
    rw [Table.keys_update kept]
    exact nodup
  · exact Table.mem_select.mpr ⟨Table.lookup_mem found, rfl⟩
  · simp only [view, Database.caseRow]
    rw [select_update_self keeps]

theorem flushed_moved (rt : Runtime) (t : Instant) (before : Option Identifier) (row : CaseRow) :
    row.Moved row.case.state (row.flushed rt t before) := by
  unfold CaseRow.flushed
  split <;> exact ⟨rfl, rfl, rfl⟩

theorem keepsKey_flushed (rt : Runtime) (t : Instant) (before : Option Identifier) (k : CaseKey) :
    Table.KeepsKey CaseRow.key k (CaseRow.flushed rt t before) := by
  intro row here
  unfold CaseRow.flushed
  split <;> exact here

theorem stampAttached_effect {rt : Runtime} {case : RecoveryCase} {t : Instant} {row : CaseRow} {u : Unit}
    (present : (view case.key db).row = some row) (h : (stampAttached rt case t).run db = .ok (u, db')) :
    Local case.key db db' ∧ ∃ row', row.Moved row.case.state row' ∧
      view case.key db' = { view case.key db with row := some row' } := by
  have written := Tx.write_ok h
  subst written
  have keeps := keepsKey_flushed rt t case.activeIncidentId case.key
  refine ⟨local_updateCase _ keeps _ _, _, flushed_moved rt t case.activeIncidentId row, ?_⟩
  rw [view_updateCase _ _ keeps, if_pos rfl, present]
  rfl

theorem attach_moved (row : CaseRow) (i : IncidentConstraint) : row.Moved row.case.state (row.attach i) := ⟨rfl, rfl, rfl⟩

def incidentsBearing (key : CaseKey) (t : Instant) (code : Option Identifier) (db : Database) : List IncidentConstraint :=
  (incidentsAt key.merchantId t db).filter fun i =>
    broadScope i || linkedToCase key db i || incidentMatchesDiagnosis i code

def newlyMatched (key : CaseKey) (t : Instant) (code : Option Identifier) (db : Database) : List IncidentConstraint :=
  (incidentsAt key.merchantId t db).filter fun i =>
    !broadScope i && !linkedToCase key db i && incidentMatchesDiagnosis i code

/-- The store with the newly matched incidents attached to the case. -/
def attachIncidents (key : CaseKey) (t : Instant) (code : Option Identifier) (db : Database) : Database :=
  { db with
    incidentLinks := db.incidentLinks ++ (newlyMatched key t code db).map fun i =>
      ⟨key.merchantId, i.incidentId, key.caseId, t, none⟩
    cases := match (newlyMatched key t code db).head? with
      | none => db.cases
      | some first => Table.update CaseRow.key key (CaseRow.attach first) db.cases }

theorem activeIncidents_run (key : CaseKey) (t : Instant) (code : Option Identifier) (db : Database) :
    (activeIncidents key t code).run db = .ok (incidentsBearing key t code db, attachIncidents key t code db) := rfl

theorem attachIncidents_effect {key : CaseKey} {row : CaseRow} (present : (view key db).row = some row) (t : Instant)
    (code : Option Identifier) : Local key db (attachIncidents key t code db) ∧ ∃ row', row.Moved row.case.state row' ∧
      view key (attachIncidents key t code db) = { view key db with row := some row' } := by
  unfold attachIncidents
  split
  · refine ⟨⟨fun _ _ => rfl, ⟨rfl, rfl, rfl, rfl, rfl, rfl, rfl, rfl, id, id⟩⟩, row,
      ⟨rfl, rfl, rfl⟩, ?_⟩
    rw [← present]
    rfl
  · rename_i first _
    have keeps : Table.KeepsKey CaseRow.key key (CaseRow.attach first) := fun _ h => h
    refine ⟨local_updateCase key keeps _ _, _, attach_moved row first, ?_⟩
    rw [view_updateCase key key keeps, if_pos rfl, present]
    rfl

theorem activeIncidents_effect {key : CaseKey} {t : Instant} {code : Option Identifier} {found : List IncidentConstraint}
    {row : CaseRow} (present : (view key db).row = some row)
    (h : (activeIncidents key t code).run db = .ok (found, db')) :
    found = incidentsBearing key t code db ∧ Local key db db' ∧
      ∃ row', row.Moved row.case.state row' ∧ view key db' = { view key db with row := some row' } := by
  rw [activeIncidents_run] at h
  cases h
  exact ⟨rfl, attachIncidents_effect present t code⟩

theorem unseen_interventions (rows : List InterventionRow) : Unseen db { db with interventions := rows } :=
  ⟨fun _ => rfl, ⟨rfl, rfl, rfl, rfl, rfl, rfl, rfl, rfl, id, id⟩⟩

theorem storeCustomerIntervention_unseen {i : InterventionRow} {u : Unit}
    (h : (storeCustomerIntervention i).run db = .ok (u, db')) : Unseen db db' := by
  obtain ⟨_, _, read, h⟩ := Tx.bind_ok h
  obtain ⟨rfl, rfl⟩ := Tx.read_ok read
  split at h
  · obtain ⟨-, rfl⟩ := Tx.check_ok h
    exact .refl _
  · obtain ⟨_, _, read, h⟩ := Tx.bind_ok h
    obtain ⟨rfl, rfl⟩ := Tx.read_ok read
    obtain ⟨_, _, checked, h⟩ := Tx.bind_ok h
    obtain ⟨-, rfl⟩ := Tx.check_ok checked
    have written := Tx.write_ok h
    subst written
    exact unseen_interventions _

theorem coordinate_unseen {m customer caseId : Identifier} {t : Instant} {u : Unit}
    (h : (coordinateCaseWithActiveIntervention m customer caseId t).run db = .ok (u, db')) : Unseen db db' := by
  obtain ⟨_, _, read, h⟩ := Tx.bind_ok h
  obtain ⟨rfl, rfl⟩ := Tx.read_ok read
  split at h
  · obtain ⟨-, rfl⟩ := Tx.pure_ok h
    exact .refl _
  · dsimp only at h
    split at h
    · obtain ⟨-, rfl⟩ := Tx.pure_ok h
      exact .refl _
    · have written := Tx.write_ok h
      subst written
      exact unseen_interventions _

def contactSnapshot (m customer : Identifier) (db : Database) : CustomerContactSnapshot :=
  let ofCustomer := db.cases.filter fun r => decide (r.case.merchantId = m ∧ r.case.customerId = some customer)
  let active := ofCustomer.filter fun r => decide (¬ r.case.state.Terminal)
  { aggregateContactCount := (ofCustomer.map fun r => r.case.contactCount).sum
    activeCaseIds := (active.map fun r => r.case.caseId).insertionSort fun a b => a.val ≤ b.val
    activeInterventionActionId := (db.activeIntervention m customer).map (·.actionId) }

theorem customerContactSnapshot_run {m customer : Identifier} (known : db.knows m customer = true) :
    (customerContactSnapshot m customer).run db = .ok (contactSnapshot m customer db, db) :=
  Tx.bind_of_ok (Tx.check_of known)

theorem customerContactSnapshot_effect {m customer : Identifier} {s : CustomerContactSnapshot}
    (h : (customerContactSnapshot m customer).run db = .ok (s, db')) :
    db.knows m customer = true ∧ s = contactSnapshot m customer db ∧ db = db' := by
  obtain ⟨_, _, read, h⟩ := Tx.bind_ok h
  obtain ⟨rfl, rfl⟩ := Tx.read_ok read
  obtain ⟨_, _, checked, h⟩ := Tx.bind_ok h
  obtain ⟨known, rfl⟩ := Tx.check_ok checked
  obtain ⟨rfl, rfl⟩ := Tx.read_ok h
  exact ⟨known, rfl, rfl⟩

/-- What a customer's contact facts read of a case. -/
structure CaseRow.SameContact (row row' : CaseRow) : Prop where
  caseId : row'.case.caseId = row.case.caseId
  merchant : row'.case.merchantId = row.case.merchantId
  customer : row'.case.customerId = row.case.customerId
  count : row'.case.contactCount = row.case.contactCount
  live : row'.case.state.Terminal ↔ row.case.state.Terminal

theorem contactSnapshot_update (key : CaseKey) {f : CaseRow → CaseRow}
    (same : ∀ row ∈ db.cases, row.key = key → row.SameContact (f row))
    (cases : db'.cases = Table.update CaseRow.key key f db.cases) (interventions : db'.interventions = db.interventions)
    (m customer : Identifier) : contactSnapshot m customer db' = contactSnapshot m customer db := by
  have counts : ((Table.update CaseRow.key key f db.cases).filter fun r =>
      decide (r.case.merchantId = m ∧ r.case.customerId = some customer)).map (fun r => r.case.contactCount) =
        (db.cases.filter fun r => decide (r.case.merchantId = m ∧ r.case.customerId = some customer)).map
          fun r => r.case.contactCount := by
    refine Table.filter_map_update fun row member here => ?_
    have alike := same row member here
    simp only [alike.merchant, alike.customer, alike.count, and_self]
  have live : ((Table.update CaseRow.key key f db.cases).filter fun r => decide (¬ r.case.state.Terminal) &&
      decide (r.case.merchantId = m ∧ r.case.customerId = some customer)).map (fun r => r.case.caseId) =
        (db.cases.filter fun r => decide (¬ r.case.state.Terminal) &&
          decide (r.case.merchantId = m ∧ r.case.customerId = some customer)).map fun r => r.case.caseId := by
    refine Table.filter_map_update fun row member here => ?_
    have alike := same row member here
    simp only [alike.merchant, alike.customer, alike.caseId, alike.live, and_self]
  simp only [contactSnapshot, Database.activeIntervention, cases, interventions, List.filter_filter]
  rw [counts, live]

theorem contactSnapshot_attach (m customer : Identifier) (key : CaseKey) (t : Instant) (code : Option Identifier)
    (db : Database) : contactSnapshot m customer (attachIncidents key t code db) = contactSnapshot m customer db := by
  unfold attachIncidents
  split
  · rfl
  · rename_i first _
    refine contactSnapshot_update key (f := CaseRow.attach first) (fun row _ _ => ?_) ?_ ?_ m customer
    · exact ⟨rfl, rfl, rfl, rfl, Iff.rfl⟩
    · rfl
    · rfl

theorem contactFacts_unseen {r : EvaluationRequest} {s : CustomerContactSnapshot}
    (h : (contactFacts r).run db = .ok (s, db')) : Unseen db db' := by
  unfold contactFacts at h
  split at h
  · obtain ⟨-, rfl⟩ := Tx.pure_ok h
    exact .refl _
  · obtain ⟨_, _, snapshot, h⟩ := Tx.bind_ok h
    obtain ⟨-, -, rfl⟩ := customerContactSnapshot_effect snapshot
    obtain ⟨_, _, coordinated, h⟩ := Tx.bind_ok h
    obtain ⟨-, rfl⟩ := Tx.pure_ok h
    unfold coordinateWith at coordinated
    split at coordinated
    · exact coordinate_unseen coordinated
    · obtain ⟨-, rfl⟩ := Tx.pure_ok coordinated
      exact .refl _

section actions

variable {id : ActionIdentity} {f : ActionRow → ActionRow}

theorem view_updateAction (k : CaseKey) (keeps : ∀ r, (f r).id = r.id) :
    view k (updateAction id f db) = if k = id.key then
      { view k db with actions := Table.update ActionRow.id id f (view k db).actions } else view k db := by
  have keeps' : ∀ r : ActionRow, r.id = id → (f r).key = r.key := fun r _ => by simp only [ActionRow.key, keeps r]
  by_cases same : k = id.key
  · simp only [view, updateAction, Database.caseRow, if_pos same]
    rw [select_update_self keeps']
  · simp only [view, updateAction, Database.caseRow, if_neg same]
    rw [select_update_ne keeps']
    intro r _ hr here
    exact same (by rw [← here, ActionRow.key, hr])

theorem updateAction_effect (db : Database) (id : ActionIdentity) (f : ActionRow → ActionRow)
    (keeps : ∀ r, (f r).id = r.id) :
    Local id.key db (updateAction id f db) ∧ view id.key (updateAction id f db) =
      { view id.key db with actions := Table.update ActionRow.id id f (view id.key db).actions } := by
  refine ⟨⟨fun k' ne => ?_, ⟨rfl, rfl, rfl, rfl, rfl, rfl, rfl, rfl, fun h => h, fun h => h⟩⟩, ?_⟩
  · rw [view_updateAction k' keeps, if_neg ne]
  · rw [view_updateAction _ keeps, if_pos rfl]

theorem finish_id (token : String) (c : AttemptCompletion) (t d : Instant) (r : ActionRow) :
    (r.finish token c t d).id = r.id := by
  unfold ActionRow.finish
  split <;> rfl

theorem closed_attempts {g : ActionAttempt → ActionAttempt} {attempts : List ActionAttempt}
    (closes : ∀ a ∈ attempts, (g a).isOpen = false) : (attempts.map g).filter (·.isOpen) = [] := by
  rw [List.filter_eq_nil_iff]
  intro b hb
  obtain ⟨a, ha, rfl⟩ := List.mem_map.mp hb
  simp [closes a ha]

theorem lost_idle (r : ActionRow) (now d : Instant) : (r.lost now d).openAttempts = [] := by
  refine closed_attempts fun a _ => ?_
  by_cases isOpen : a.isOpen = true
  · rw [if_pos isOpen]
    rfl
  · rw [if_neg isOpen]
    simpa using isOpen

theorem beginAttempt_effect {token : String} {t : Instant} {begun : ActionRow}
    (h : (beginAttempt id token t).run db = .ok (begun, db')) :
    ∃ r, db.action id = some r ∧ r.status = .pending ∧ r.leaseToken = some token ∧ r.leaseExpiresAt.isSome = true ∧
      (∀ e ∈ r.leaseExpiresAt, t < e) ∧ r.openAttempts = [] ∧ r.attemptCount < r.maxAttempts ∧
      begun = r.begin token t ∧ db' = updateAction id (ActionRow.begin token t) db := by
  obtain ⟨_, _, read, h⟩ := Tx.bind_ok h
  obtain ⟨rfl, rfl⟩ := Tx.read_ok read
  obtain ⟨r, _, found, h⟩ := Tx.bind_ok h
  obtain ⟨present, rfl⟩ := Tx.found_ok found
  obtain ⟨_, _, checked, h⟩ := Tx.bind_ok h
  obtain ⟨pending, rfl⟩ := Tx.check_ok checked
  obtain ⟨_, _, checked, h⟩ := Tx.bind_ok h
  obtain ⟨owned, rfl⟩ := Tx.check_ok checked
  obtain ⟨_, _, checked, h⟩ := Tx.bind_ok h
  obtain ⟨live, rfl⟩ := Tx.check_ok checked
  obtain ⟨_, _, checked, h⟩ := Tx.bind_ok h
  obtain ⟨-, rfl⟩ := Tx.check_ok checked
  obtain ⟨_, _, checked, h⟩ := Tx.bind_ok h
  obtain ⟨idle, rfl⟩ := Tx.check_ok checked
  obtain ⟨_, _, checked, h⟩ := Tx.bind_ok h
  obtain ⟨below, rfl⟩ := Tx.check_ok checked
  obtain ⟨_, _, written, h⟩ := Tx.bind_ok h
  have written := Tx.write_ok written
  obtain ⟨rfl, rfl⟩ := Tx.pure_ok h
  exact ⟨r, present, pending, owned.1, owned.2, live, idle, below, rfl, written⟩

theorem finishAttempt_effect {token : String} {c : AttemptCompletion} {retryAt deadline : Instant} {done : ActionRow}
    (h : (finishAttempt id token c retryAt deadline).run db = .ok (done, db')) :
    ∃ r, db.action id = some r ∧ (∃ a ∈ r.openAttempts, a.leaseToken = token) ∧
      (r.finish token c retryAt deadline).action.authorizedAt ≤ (r.finish token c retryAt deadline).nextAttemptAt ∧
      done = r.finish token c retryAt deadline ∧ db' = updateAction id (ActionRow.finish token c retryAt deadline) db := by
  obtain ⟨_, _, read, h⟩ := Tx.bind_ok h
  obtain ⟨rfl, rfl⟩ := Tx.read_ok read
  obtain ⟨r, _, found, h⟩ := Tx.bind_ok h
  obtain ⟨present, rfl⟩ := Tx.found_ok found
  obtain ⟨_, _, checked, h⟩ := Tx.bind_ok h
  obtain ⟨-, rfl⟩ := Tx.check_ok checked
  obtain ⟨_, _, checked, h⟩ := Tx.bind_ok h
  obtain ⟨mine, rfl⟩ := Tx.check_ok checked
  obtain ⟨_, _, checked, h⟩ := Tx.bind_ok h
  obtain ⟨-, rfl⟩ := Tx.check_ok checked
  obtain ⟨_, _, checked, h⟩ := Tx.bind_ok h
  obtain ⟨-, rfl⟩ := Tx.check_ok checked
  obtain ⟨_, _, checked, h⟩ := Tx.bind_ok h
  obtain ⟨scheduled, rfl⟩ := Tx.check_ok checked
  obtain ⟨_, _, written, h⟩ := Tx.bind_ok h
  have written := Tx.write_ok written
  obtain ⟨rfl, rfl⟩ := Tx.pure_ok h
  obtain ⟨a, ha⟩ := List.exists_mem_of_ne_nil _ mine
  obtain ⟨isOpen, token_eq⟩ := List.mem_filter.mp ha
  exact ⟨r, present, ⟨a, isOpen, of_decide_eq_true token_eq⟩, scheduled, rfl, written⟩

theorem markStaleInflightUnknown_effect {action : ActionRow} {now deadline : Instant} {u : Unit}
    (h : (markStaleInflightUnknown action now deadline).run db = .ok (u, db')) :
    ∃ r, db.action action.id = some r ∧ r.openAttempts ≠ [] ∧
      db' = updateAction action.id (ActionRow.lost now deadline) db := by
  obtain ⟨_, _, read, h⟩ := Tx.bind_ok h
  obtain ⟨rfl, rfl⟩ := Tx.read_ok read
  obtain ⟨r, _, found, h⟩ := Tx.bind_ok h
  obtain ⟨present, rfl⟩ := Tx.found_ok found
  obtain ⟨_, _, checked, h⟩ := Tx.bind_ok h
  obtain ⟨-, rfl⟩ := Tx.check_ok checked
  obtain ⟨_, _, checked, h⟩ := Tx.bind_ok h
  obtain ⟨inFlight, rfl⟩ := Tx.check_ok checked
  obtain ⟨_, _, checked, h⟩ := Tx.bind_ok h
  obtain ⟨-, rfl⟩ := Tx.check_ok checked
  exact ⟨r, present, inFlight, Tx.write_ok h⟩

theorem markVerificationExpiredUnknown_effect {action expired : ActionRow} {t : Instant}
    (h : (markVerificationExpiredUnknown action t).run db = .ok (expired, db')) :
    action.status = .succeeded ∧ expired = action.verificationExpired t ∧
      db' = updateAction action.id (ActionRow.verificationExpired t) db := by
  obtain ⟨_, _, checked, h⟩ := Tx.bind_ok h
  obtain ⟨accepted, rfl⟩ := Tx.check_ok checked
  obtain ⟨_, _, written, h⟩ := Tx.bind_ok h
  have written := Tx.write_ok written
  obtain ⟨rfl, rfl⟩ := Tx.pure_ok h
  exact ⟨accepted, rfl, written⟩

theorem cancelBeforeExecution_effect {action : ActionRow} {t : Instant} {code : String} {u : Unit}
    (h : (cancelBeforeExecution action t code).run db = .ok (u, db')) :
    action.status = .pending ∧ db' = updateAction action.id (ActionRow.cancel t code) db := by
  obtain ⟨_, _, checked, h⟩ := Tx.bind_ok h
  obtain ⟨pending, rfl⟩ := Tx.check_ok checked
  exact ⟨pending, Tx.write_ok h⟩

theorem setActionResolution_effect {action resolved : ActionRow} {s : ActionStatus} {t : Instant}
    {object code : Option String} (h : (setActionResolution action s t object code).run db = .ok (resolved, db')) :
    resolved = action.resolve s t object code ∧ db' = updateAction action.id (ActionRow.resolve s t object code) db := by
  obtain ⟨_, _, checked, h⟩ := Tx.bind_ok h
  obtain ⟨-, rfl⟩ := Tx.check_ok checked
  obtain ⟨_, _, written, h⟩ := Tx.bind_ok h
  have written := Tx.write_ok written
  obtain ⟨rfl, rfl⟩ := Tx.pure_ok h
  exact ⟨rfl, written⟩

end actions

theorem setActionResolution_run {action : ActionRow} {s : ActionStatus} {t : Instant} {object code : Option String}
    (fits : FitsIn 128 object ∧ FitsIn 128 code) : (setActionResolution action s t object code).run db =
      .ok (action.resolve s t object code, updateAction action.id (ActionRow.resolve s t object code) db) :=
  (Tx.bind_of_ok (Tx.check_of fits)).trans rfl

theorem storeOutcome_effect {o : VerifiedOutcome} {u : Unit} (h : (storeOutcome o).run db = .ok (u, db')) :
    ((∃ p, db.outcome o.merchantId o.outcomeId = some p) ∧ db = db') ∨
      (db.outcome o.merchantId o.outcomeId = none ∧
        (creditsMoney o = true → ∀ p ∈ db.outcomes, ¬ (p.merchantId = o.merchantId ∧ p.actionId = o.actionId
          ∧ creditsMoney p = true)) ∧
        Local o.key db db' ∧ view o.key db' = { view o.key db with outcomes := (view o.key db).outcomes ++ [o] }) := by
  obtain ⟨_, _, read, h⟩ := Tx.bind_ok h
  obtain ⟨rfl, rfl⟩ := Tx.read_ok read
  split at h
  · rename_i p found
    obtain ⟨-, rfl⟩ := Tx.pure_ok h
    exact .inl ⟨⟨p, found⟩, rfl⟩
  · rename_i absent
    obtain ⟨_, _, checked, h⟩ := Tx.bind_ok h
    obtain ⟨-, rfl⟩ := Tx.check_ok checked
    obtain ⟨_, _, read, h⟩ := Tx.bind_ok h
    obtain ⟨rfl, rfl⟩ := Tx.read_ok read
    obtain ⟨_, _, checked, h⟩ := Tx.bind_ok h
    obtain ⟨unique, rfl⟩ := Tx.check_ok checked
    have written := Tx.write_ok h
    subst written
    refine .inr ⟨absent, unique, ⟨fun k' ne => ?_, ?_⟩, ?_⟩
    · simp only [view, Database.caseRow, select_append_ne (Ne.symm ne)]
    · exact ⟨rfl, rfl, rfl, rfl, rfl, rfl, rfl, rfl, id, id⟩
    · simp only [view, Database.caseRow, select_append_self]

section events

variable {event : NormalizedEvent} {u : Unit}

theorem insertNormalizedEvent_ok (h : (insertNormalizedEvent event).run db = .ok (u, db')) :
    event.Referenced db ∧ db' = { db with events := db.events ++ [event] } := by
  obtain ⟨_, _, read, h⟩ := Tx.bind_ok h
  obtain ⟨rfl, rfl⟩ := Tx.read_ok read
  obtain ⟨_, _, checked, h⟩ := Tx.bind_ok h
  obtain ⟨referenced, rfl⟩ := Tx.check_ok checked
  exact ⟨of_decide_eq_true referenced, Tx.write_ok h⟩

/-- The webhook's event is there, or it is stored under an id and a source that no event has. -/
theorem persistNormalizedEvent_ok (h : (persistNormalizedEvent event).run db = .ok (u, db')) :
    ((∃ e, db.event event.merchantId event.eventId = some e) ∧ db' = db) ∨
      ((∀ e ∈ db.events, e.eventId ≠ event.eventId ∧ event.sameSource e = false) ∧ event.Referenced db ∧
        db' = { db with events := db.events ++ [event] }) := by
  obtain ⟨_, _, read, h⟩ := Tx.bind_ok h
  obtain ⟨rfl, rfl⟩ := Tx.read_ok read
  split at h
  · rename_i e known
    exact .inl ⟨⟨e, known⟩, (Tx.pure_ok h).2.symm⟩
  · obtain ⟨_, _, read, h⟩ := Tx.bind_ok h
    obtain ⟨rfl, rfl⟩ := Tx.read_ok read
    obtain ⟨_, _, checked, h⟩ := Tx.bind_ok h
    obtain ⟨apart, rfl⟩ := Tx.check_ok checked
    refine .inr ⟨fun e member => ?_, insertNormalizedEvent_ok h⟩
    have other := List.any_eq_false.mp apart e member
    simp only [Bool.not_eq_true, Bool.or_eq_false_iff, beq_eq_false_iff_ne] at other
    exact other

theorem persistMerchantEvent_ok (h : (persistMerchantEvent event).run db = .ok (u, db')) :
    ((∃ e ∈ db.events, event.sameSource e = true) ∧ db' = db) ∨
      ((∀ e ∈ db.events, e.eventId ≠ event.eventId) ∧ event.Referenced db ∧
        db' = { db with events := db.events ++ [event] }) := by
  obtain ⟨_, _, read, h⟩ := Tx.bind_ok h
  obtain ⟨rfl, rfl⟩ := Tx.read_ok read
  split at h
  · rename_i e known
    exact .inl ⟨⟨e, List.mem_of_find?_eq_some known, List.find?_some known⟩, (Tx.pure_ok h).2.symm⟩
  · obtain ⟨_, _, read, h⟩ := Tx.bind_ok h
    obtain ⟨rfl, rfl⟩ := Tx.read_ok read
    obtain ⟨_, _, checked, h⟩ := Tx.bind_ok h
    obtain ⟨apart, rfl⟩ := Tx.check_ok checked
    refine .inr ⟨fun e member => ?_, insertNormalizedEvent_ok h⟩
    have other := List.any_eq_false.mp apart e member
    simp only [Bool.not_eq_true, beq_eq_false_iff_ne] at other
    exact other

/-- What storing an event does: nothing, or it adds the event. -/
def Persists (event : NormalizedEvent) (db db' : Database) : Prop :=
  db' = db ∨ db' = { db with events := db.events ++ [event] }

theorem persistNormalizedEvent_persists (event : NormalizedEvent) :
    Tx.Keeps (persistNormalizedEvent event) (Persists event) := by
  intro s _ t h
  rcases persistNormalizedEvent_ok h with ⟨-, same⟩ | ⟨-, -, added⟩
  · exact .inl same
  · exact .inr added

theorem persistMerchantEvent_persists (event : NormalizedEvent) :
    Tx.Keeps (persistMerchantEvent event) (Persists event) := by
  intro s _ t h
  rcases persistMerchantEvent_ok h with ⟨-, same⟩ | ⟨-, -, added⟩
  · exact .inl same
  · exact .inr added

end events

end RevenueGuard
