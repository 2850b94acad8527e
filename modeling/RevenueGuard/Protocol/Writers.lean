import RevenueGuard.Protocol.Routing
import RevenueGuard.Protocol.Simulation

/-
Every command as a chain of case writes, each from the row as the command finds
it, or as a report that changes no case.
-/
namespace RevenueGuard

variable {w : Writer} {rt : Runtime} {db d db' : Database} {case updated moved : RecoveryCase} {t : Instant}

/-- A transition that brings no evidence and counts nothing. -/
theorem plain_wrote {change : Transition} {o : Option Diagnosis} (snap : Snap case db) (instant : change.occurredAt = w.now)
    (h : (recoveryTransition case change o none false).run db = .ok (updated, db')) : Wrote w case updated db db' :=
  (recoveryTransition_wrote snap instant (fun _ none => by cases none) (fun counts => by cases counts) h).2.2

theorem plainIf_wrote {c : Prop} [Decidable c] {change : Transition} (snap : Snap case db)
    (instant : change.occurredAt = w.now)
    (h : (if c then recoveryTransition case change else pure case).run db = .ok (updated, db')) :
    Wrote w case updated db db' := by
  split at h
  · exact plain_wrote snap instant h
  · obtain ⟨rfl, rfl⟩ := Tx.pure_ok h
    exact .refl snap

theorem writes_closed : Tx.Closed (Writes w) := ⟨Writes.refl, Writes.trans⟩

section recovery

variable {inputs : EvaluationInputs} {r : EvaluationRequest} {a : Assessment} {event : NormalizedEvent} {diagnosis : Diagnosis}
  {policy : MerchantPolicySnapshot} {routed : Routed} {res : RecoveryServiceResult}

theorem countsAsRetry_below {zone : Zone} {e : PolicyEvaluationInput} {decision : PolicyDecision}
    (decided : evaluatePolicy zone policy e = .ok decision) (counts : countsAsRetry decision = true) :
    e.retryCount < policy.retryLimit := by
  obtain ⟨deferred, kind, -⟩ := of_decide_eq_true counts
  exact evaluatePolicy_retries decided deferred (by rw [kind]; rfl)

/-- What an evaluation starts from: the stored case, heard evidence and the policy in force. -/
structure EvaluationRequest.Current (r : EvaluationRequest) (w : Writer) (db : Database) : Prop where
  snap : Snap r.case db
  now : r.evaluatedAt = w.now
  heard : w.hears r.case.key r.event
  policy : InForce r.case.merchantId w.now r.policy db

theorem assessCase_wrote (current : r.Current w db) (h : (assessCase rt inputs r).run db = .ok (a, db')) :
    Wrote w r.case a.checking db db' ∧
      (countsAsRetry a.decision = true → a.checking.retryCount < r.policy.retryLimit) := by
  cases assessCase_ok h with
  | ran checking d1 contact candidates consent unknownEquivalent moved facts noted listed types decided =>
    obtain ⟨settled, -, moved⟩ := recoveryTransition_wrote current.snap current.now
      (fun e same => by cases same; exact current.heard) (fun counts => by cases counts) moved
    have attached := moved.trans (attachIncidents_wrote r.case.key r.evaluatedAt
      (some (adviseCase rt inputs r).code) moved.snap)
    have written := attached.quiet (contactFacts_quiet r _ _ _ facts)
    obtain ⟨incident, noted⟩ := noted
    have kept : a.checking.ledger = checking.ledger := by rw [noted]; rfl
    refine ⟨⟨written.writes, written.snap.congr kept, (key_of_ledger kept).trans written.key⟩, fun counts => ?_⟩
    have retries : checking.retryCount = r.case.retryCount := by rw [settled]; rfl
    exact lt_of_eq_of_lt ((congrArg CaseLedger.retryCount kept).trans retries) (countsAsRetry_below decided counts)

theorem decideCase_writes (snap : Snap a.checking db) (now : r.evaluatedAt = w.now) (heard : w.hears r.case.key r.event)
    (policy : InForce a.checking.merchantId w.now r.policy db)
    (below : countsAsRetry a.decision = true → a.checking.retryCount < r.policy.retryLimit)
    (h : (decideCase rt inputs r a).run db = .ok (res, db')) : Writes w db db' := by
  obtain ⟨_, d1, reviewed, h⟩ := Tx.bind_ok h
  have quiet := storeReviewIfAny_quiet _ _ _ _ reviewed
  obtain ⟨decided, d2, transition, h⟩ := Tx.bind_ok h
  obtain ⟨-, -, moved⟩ := recoveryTransition_wrote (snap.quiet quiet) now (fun _ none => by cases none)
    (fun counts => ⟨r.policy, policy.of_policies quiet.fixed.policies, below counts⟩) transition
  obtain ⟨_, d3, receipted, h⟩ := Tx.bind_ok h
  obtain ⟨_, d4, acted, h⟩ := Tx.bind_ok h
  obtain ⟨-, rfl⟩ := Tx.pure_ok h
  obtain ⟨receipted, -⟩ := storeReceipt_write (fun _ => ⟨r.event, heard, rfl⟩) receipted
  have acted := storeActionIfAny_quiet _ _ _ _ _ _ acted
  exact (moved.after quiet).writes.trans (receipted.trans acted.writes)

theorem evaluateCase_writes (current : r.Current w db) (h : (evaluateCase rt inputs r).run db = .ok (res, db')) :
    Writes w db db' := by
  obtain ⟨a, d, assess, decide⟩ := Tx.bind_ok h
  obtain ⟨wrote, below⟩ := assessCase_wrote current assess
  have merchant : a.checking.merchantId = r.case.merchantId := congrArg CaseKey.merchantId wrote.key
  refine wrote.writes.trans (decideCase_writes wrote.snap current.now current.heard ?_ below decide)
  rw [merchant]
  exact current.policy.of_policies wrote.writes.fixed.policies

theorem advance_wrote {pending : RecoveryCase} (snap : Snap case db) (now : t = w.now) (heard : w.hears case.key event)
    (h : (advanceToDecisionPending case diagnosis event policy t).run db = .ok (pending, db')) :
    Wrote w case pending db db' := by
  unfold advanceToDecisionPending at h
  dsimp only at h
  rw [Tx.ite_bind] at h
  obtain ⟨started, d1, start, h⟩ := Tx.bind_ok h
  have begun : Wrote w case started db d1 := plainIf_wrote snap now start
  have hears : ∀ e ∈ some event, w.hears started.key e := by
    intro e same
    cases same
    rw [begun.key]
    exact heard
  split at h
  · exact begun.trans (recoveryTransition_wrote begun.snap now hears (fun counts => by cases counts) h).2.2
  · exact begun.trans (recoveryTransition_wrote begun.snap now hears (fun counts => by cases counts) h).2.2
  · obtain ⟨rfl, rfl⟩ := Tx.pure_ok h
    exact ⟨begun.writes, begun.snap, begun.key⟩
  · obtain ⟨rfl, rfl⟩ := Tx.pure_ok h
    exact begun

/-- What routing hands on: nothing, or a request that is current. -/
def Routed.Current (w : Writer) (db : Database) : Routed → Prop
  | .done _ => True
  | .evaluate r => r.Current w db

theorem finishRouting_writes (current : routed.Current w db)
    (h : (finishRouting rt inputs routed).run db = .ok (res, db')) : Writes w db db' := by
  cases routed with
  | done result =>
    obtain ⟨-, rfl⟩ := Tx.pure_ok h
    exact .refl _
  | evaluate r => exact evaluateCase_writes current h

theorem proceed_routed (snap : Snap case db) (now : t = w.now) (heard : w.hears case.key event)
    (force : InForce case.merchantId w.now policy db)
    (h : (proceedToEvaluation case diagnosis event policy t).run db = .ok (routed, db')) :
    Writes w db db' ∧ routed.Current w db' := by
  obtain ⟨pending, d1, advance, h⟩ := Tx.bind_ok h
  have wrote := advance_wrote snap now heard advance
  split at h
  · obtain ⟨rfl, rfl⟩ := Tx.pure_ok h
    exact ⟨wrote.writes, trivial⟩
  · obtain ⟨rfl, rfl⟩ := Tx.pure_ok h
    have merchant : pending.merchantId = case.merchantId := congrArg CaseKey.merchantId wrote.key
    refine ⟨wrote.writes, wrote.snap, now, by rw [wrote.key]; exact heard, ?_⟩
    change InForce pending.merchantId w.now policy d1
    rw [merchant]
    exact force.of_policies wrote.writes.fixed.policies

theorem linkAuditOnly_routed {row : Option CaseRow} {reason : String}
    (told : w.links ⟨event.merchantId, row.map (·.case.caseId), event.eventId, .auditOnly, reason⟩)
    (h : (linkAuditOnly event row reason).run db = .ok (routed, db')) : Writes w db db' ∧ routed.Current w db' := by
  obtain ⟨link, d1, linking, h⟩ := Tx.bind_ok h
  obtain ⟨rfl, rfl⟩ := Tx.pure_ok h
  exact ⟨(linkEvidence_write told linking).1, trivial⟩

theorem openCase_routed {caseId : Identifier} {identity : CaseIdentity} (now : t = w.now)
    (heard : w.hears ⟨event.merchantId, caseId⟩ event)
    (told : w.links ⟨event.merchantId, some caseId, event.eventId, .applied, "EVIDENCE_ACCEPTED"⟩) (force : InForce event.merchantId w.now policy db)
    (h : (openCase caseId identity diagnosis event policy t).run db = .ok (routed, db')) :
    Writes w db db' ∧ routed.Current w db' := by
  obtain ⟨_, d1, created, h⟩ := Tx.bind_ok h
  obtain ⟨⟨absent, -, -, -⟩, rfl⟩ := createCase_ok created
  have opening : Writes w db { db with cases := db.cases ++ [newCase caseId identity event t] } :=
    .single (.created (newCase caseId identity event t) event absent ⟨rfl, rfl, rfl, rfl, rfl⟩ heard rfl rfl rfl rfl
      ⟨rfl, rfl, ⟨rfl, rfl⟩⟩)
  have snap : Snap (newCase caseId identity event t).case { db with cases := db.cases ++ [newCase caseId identity event t] } :=
    ⟨newCase caseId identity event t, Table.lookup_append_new absent, rfl⟩
  obtain ⟨link, d2, linking, h⟩ := Tx.bind_ok h
  obtain ⟨linked, cases⟩ := linkEvidence_write told linking
  split at h
  · have force' : InForce event.merchantId w.now policy d2 := force.of_policies linked.fixed.policies
    obtain ⟨proceeding, current⟩ := proceed_routed (snap.of_cases cases) now heard force' h
    exact ⟨(opening.trans linked).trans proceeding, current⟩
  · obtain ⟨rfl, rfl⟩ := Tx.pure_ok h
    exact ⟨opening.trans linked, trivial⟩

theorem updateCase_routed {row : CaseRow} (now : t = w.now) (heard : w.hears row.key event)
    (told : ∀ (d : EvidenceDisposition) (reason : String),
      w.links ⟨event.merchantId, some row.case.caseId, event.eventId, d, reason⟩)
    (force : InForce row.case.merchantId w.now policy db)
    (h : (updateCase row diagnosis event policy t).run db = .ok (routed, db')) :
    Writes w db db' ∧ routed.Current w db' := by
  obtain ⟨_, _, read, h⟩ := Tx.bind_ok h
  obtain ⟨rfl, rfl⟩ := Tx.read_ok read
  obtain ⟨link, d1, linking, h⟩ := Tx.bind_ok h
  obtain ⟨linked, -⟩ := linkEvidence_write (told _ _) linking
  split at h
  · obtain ⟨rfl, rfl⟩ := Tx.pure_ok h
    exact ⟨linked, trivial⟩
  split at h
  · obtain ⟨rfl, rfl⟩ := Tx.pure_ok h
    exact ⟨linked, trivial⟩
  obtain ⟨case, _, required, h⟩ := Tx.bind_ok h
  obtain ⟨stored, rfl⟩ := requireCase_effect required
  obtain ⟨key, snap⟩ := snap_caseOf stored
  have merchant : case.merchantId = row.case.merchantId := congrArg CaseKey.merchantId key
  obtain ⟨proceeding, current⟩ := proceed_routed snap now (by rw [key]; exact heard)
    (by rw [merchant]; exact force.of_policies linked.fixed.policies) h
  exact ⟨linked.trans proceeding, current⟩

/-- The case an event is routed to: the one it selects, or the new one. -/
def eventCase (m eventId caseId : Identifier) (db : Database) : CaseKey :=
  match (db.event m eventId).bind selectCaseIdentity with
  | none => ⟨m, caseId⟩
  | some identity => match (findActiveCase m identity db).or (findEpisodeCase m identity db) with
    | none => ⟨m, caseId⟩
    | some row => row.key

theorem eventCase_merchant (m eventId caseId : Identifier) (db : Database) :
    (eventCase m eventId caseId db).merchantId = m := by
  unfold eventCase
  split
  · rfl
  · split
    · rfl
    · rename_i selected
      exact (selected_mem selected).2

theorem eventCase_identified {m eventId caseId : Identifier} {identity : CaseIdentity}
    (known : db.event m eventId = some event) (identified : selectCaseIdentity event = some identity) :
    eventCase m eventId caseId db =
      (((findActiveCase m identity db).or (findEpisodeCase m identity db)).map CaseRow.key).getD ⟨m, caseId⟩ := by
  simp only [eventCase, known, Option.bind_some, identified]
  cases (findActiveCase m identity db).or (findEpisodeCase m identity db) with
  | none => rfl
  | some row => rfl

theorem routeEvent_routed {m eventId caseId : Identifier} (now : t = w.now)
    (heard : ∀ e, db.event m eventId = some e → w.hears (eventCase m eventId caseId db) e)
    (told : ∀ link : CaseEventRow, link.id = (m, eventId) →
      link.key = none ∨ link.key = some (eventCase m eventId caseId db) → w.links link)
    (h : (routeEvent m eventId caseId t).run db = .ok (routed, db')) : Writes w db db' ∧ routed.Current w db' := by
  obtain ⟨-, event, _, known, route, h⟩ := routeEvent_route h
  obtain ⟨owner, named⟩ := event_merchant known
  have id (c : Option Identifier) (d : EvidenceDisposition) (reason : String) :
      CaseEventRow.id ⟨event.merchantId, c, event.eventId, d, reason⟩ = (m, eventId) := Prod.ext owner named
  have mine {row : CaseRow} (here : row.case.merchantId = m) (d : EvidenceDisposition) (reason : String) :
      CaseEventRow.key ⟨event.merchantId, some row.case.caseId, event.eventId, d, reason⟩ = some row.key := by
    rw [owner, ← here]
    rfl
  have here := heard event known
  simp only [eventCase, known, Option.bind_some] at here told
  cases route with
  | unsupported unidentified => exact linkAuditOnly_routed (told _ (id _ _ _) (.inl rfl)) h
  | undiagnosed identity identified undiagnosed =>
    simp only [identified] at told
    refine linkAuditOnly_routed (told _ (id _ _ _) ?_) h
    cases selected : (findActiveCase m identity db).or (findEpisodeCase m identity db) with
    | none => exact .inl rfl
    | some row => exact .inr (mine (selected_mem selected).2 _ _)
  | opened identity diagnosis policy identified diagnosed unknown force =>
    simp only [identified, unknown] at here told
    subst now
    exact openCase_routed rfl (by rw [owner]; exact here) (told _ (id _ _ _) (.inr (by rw [← owner]; rfl)))
      (by rw [owner]; exact force) h
  | ended identity diagnosis row identified diagnosed selected terminated =>
    simp only [identified, selected] at told
    exact linkAuditOnly_routed (told ⟨event.merchantId, some row.case.caseId, event.eventId, .auditOnly, _⟩ (id _ _ _)
      (.inr (mine (selected_mem selected).2 _ _))) h
  | updated identity diagnosis policy row identified diagnosed selected live force =>
    simp only [identified, selected] at here told
    subst now
    have owned := (selected_mem selected).2
    exact updateCase_routed rfl here (fun d reason => told _ (id _ _ _) (.inr (mine owned d reason)))
      (by rw [owned]; exact force) h

theorem processEvent_writes {m eventId caseId : Identifier} (now : t = w.now)
    (heard : ∀ e, db.event m eventId = some e → w.hears (eventCase m eventId caseId db) e)
    (told : ∀ link : CaseEventRow, link.id = (m, eventId) →
      link.key = none ∨ link.key = some (eventCase m eventId caseId db) → w.links link)
    (h : (processEvent rt inputs m eventId caseId t).run db = .ok (res, db')) : Writes w db db' := by
  obtain ⟨routed, d, route, finish⟩ := Tx.bind_ok h
  obtain ⟨routing, current⟩ := routeEvent_routed now heard told route
  exact routing.trans (finishRouting_writes current finish)

/-- The event at a case's watermark. -/
def AtWatermark (db : Database) (k : CaseKey) (event : NormalizedEvent) : Prop :=
  ∃ row ∈ db.cases, row.key = k ∧ row.latestEvidenceEventId = some event.eventId ∧
    db.event k.merchantId event.eventId = some event

theorem wakeDeferred_current {row : CaseRow} (now : t = w.now) (member : row ∈ d.cases) (events : db.events = d.events)
    (heard : ∀ k e, AtWatermark d k e → w.hears k e) (h : (wakeDeferred t row).run db = .ok (r, db')) :
    Writes w db db' ∧ r.Current w db' := by
  obtain ⟨eventId, _, found, h⟩ := Tx.bind_ok h
  obtain ⟨watermark, rfl⟩ := Tx.found_ok found
  obtain ⟨_, _, read, h⟩ := Tx.bind_ok h
  obtain ⟨rfl, rfl⟩ := Tx.read_ok read
  obtain ⟨event, _, found, h⟩ := Tx.bind_ok h
  obtain ⟨known, rfl⟩ := Tx.found_ok found
  obtain ⟨diagnosis, _, found, h⟩ := Tx.bind_ok h
  obtain ⟨-, rfl⟩ := Tx.found_ok found
  obtain ⟨policy, _, effective, h⟩ := Tx.bind_ok h
  obtain ⟨force, rfl⟩ := inForce_ok effective
  obtain ⟨case, _, required, h⟩ := Tx.bind_ok h
  obtain ⟨stored, rfl⟩ := requireCase_effect required
  obtain ⟨pending, d1, transition, h⟩ := Tx.bind_ok h
  obtain ⟨rfl, rfl⟩ := Tx.pure_ok h
  obtain ⟨key, snap⟩ := snap_caseOf stored
  have wrote := plain_wrote snap now transition
  have merchant : pending.merchantId = row.case.merchantId := congrArg CaseKey.merchantId (wrote.key.trans key)
  obtain ⟨-, id⟩ := event_merchant known
  subst now
  refine ⟨wrote.writes, wrote.snap, rfl, heard _ _ ⟨row, member, (wrote.key.trans key).symm, ?_, ?_⟩, ?_⟩
  · rw [watermark, id]
  · rw [show pending.key.merchantId = row.case.merchantId from merchant, id]
    rw [Database.event, ← events]
    exact known
  · change InForce pending.merchantId w.now policy d1
    rw [merchant]
    exact force.of_policies wrote.writes.fixed.policies

theorem reevaluateRows_writes {inputs : CaseKey → EvaluationInputs} (now : t = w.now)
    (heard : ∀ k e, AtWatermark db k e → w.hears k e) : ∀ {rows : List CaseRow} {d e : Database}
    {out : List RecoveryServiceResult}, (∀ row ∈ rows, row ∈ db.cases) → Writes w db d →
    (Tx.each (reevaluateRow rt inputs t) rows).run d = .ok (out, e) → Writes w d e := by
  intro rows
  induction rows with
  | nil =>
    intro d e out _ _ h
    obtain ⟨-, rfl⟩ := Tx.pure_ok h
    exact .refl _
  | cons row rest ih =>
    intro d e out members soFar h
    obtain ⟨_, d1, first, h⟩ := Tx.bind_ok h
    obtain ⟨_, d2, later, h⟩ := Tx.bind_ok h
    obtain ⟨-, rfl⟩ := Tx.pure_ok h
    obtain ⟨request, d3, wake, evaluate⟩ := Tx.bind_ok first
    obtain ⟨woken, current⟩ := wakeDeferred_current now (members row List.mem_cons_self) soFar.fixed.events heard wake
    have here := woken.trans (evaluateCase_writes current evaluate)
    exact here.trans (ih (fun x member => members x (List.mem_cons_of_mem row member)) (soFar.trans here) later)

theorem reevaluateDeferred_writes {inputs : CaseKey → EvaluationInputs} {limit : Nat} {out : List RecoveryServiceResult}
    (now : t = w.now) (heard : ∀ k e, AtWatermark db k e → w.hears k e)
    (h : (reevaluateDeferred rt inputs t limit).run db = .ok (out, db')) : Writes w db db' := by
  obtain ⟨_, _, checked, h⟩ := Tx.bind_ok h
  obtain ⟨-, rfl⟩ := Tx.check_ok checked
  obtain ⟨_, _, read, h⟩ := Tx.bind_ok h
  obtain ⟨rfl, rfl⟩ := Tx.read_ok read
  refine reevaluateRows_writes now heard (fun row member => ?_) (.refl db) h
  exact (List.mem_filter.mp ((List.mem_insertionSort _).mp (List.mem_of_mem_take member))).1

theorem routeReview_routed {m : Identifier} {decision : HumanReviewDecision} (now : t = w.now)
    (heard : ∀ k e, AtWatermark db k e → w.hears k e)
    (h : (routeReview m decision t).run db = .ok (routed, db')) : Writes w db db' ∧ routed.Current w db' := by
  obtain ⟨_, _, checked, h⟩ := Tx.bind_ok h
  obtain ⟨-, rfl⟩ := Tx.check_ok checked
  obtain ⟨_, _, locked, h⟩ := Tx.bind_ok h
  obtain ⟨-, rfl⟩ := lockMerchant_effect locked
  obtain ⟨_, _, read, h⟩ := Tx.bind_ok h
  obtain ⟨rfl, rfl⟩ := Tx.read_ok read
  obtain ⟨request, _, found, h⟩ := Tx.bind_ok h
  obtain ⟨-, rfl⟩ := Tx.found_ok found
  obtain ⟨case, _, required, h⟩ := Tx.bind_ok h
  obtain ⟨stored, rfl⟩ := requireCase_effect required
  obtain ⟨key, snap⟩ := snap_caseOf stored
  obtain ⟨policy, _, effective, h⟩ := Tx.bind_ok h
  obtain ⟨force, rfl⟩ := inForce_ok effective
  have stops {decided : HumanReviewRequest} {reason : String}
      (stop : (stopReviewed case reason decision policy t decided).run db = .ok (routed, db')) :
      Writes w db db' ∧ routed.Current w db' := by
    obtain ⟨_, d1, update, stop⟩ := Tx.bind_ok stop
    obtain ⟨stopped, d2, transition, stop⟩ := Tx.bind_ok stop
    obtain ⟨rfl, rfl⟩ := Tx.pure_ok stop
    have quiet := updateReviewDecision_quiet _ _ _ _ _ update
    exact ⟨((plain_wrote (snap.quiet quiet) now transition).after quiet).writes, trivial⟩
  split at h
  · obtain ⟨decided, _, lifted, h⟩ := Tx.bind_ok h
    obtain ⟨-, rfl⟩ := Tx.lift_ok lifted
    exact stops h
  · obtain ⟨decided, _, lifted, h⟩ := Tx.bind_ok h
    obtain ⟨-, rfl⟩ := Tx.lift_ok lifted
    split at h
    · exact stops h
    · obtain ⟨_, d1, update, h⟩ := Tx.bind_ok h
      have quiet := updateReviewDecision_quiet _ _ _ _ _ update
      obtain ⟨_, _, read, h⟩ := Tx.bind_ok h
      obtain ⟨rfl, rfl⟩ := Tx.read_ok read
      obtain ⟨eventId, _, found, h⟩ := Tx.bind_ok h
      obtain ⟨watermark, rfl⟩ := Tx.found_ok found
      obtain ⟨_, _, read, h⟩ := Tx.bind_ok h
      obtain ⟨rfl, rfl⟩ := Tx.read_ok read
      obtain ⟨event, _, found, h⟩ := Tx.bind_ok h
      obtain ⟨known, rfl⟩ := Tx.found_ok found
      obtain ⟨pending, d2, transition, h⟩ := Tx.bind_ok h
      obtain ⟨rfl, rfl⟩ := Tx.pure_ok h
      have wrote := (plain_wrote (snap.quiet quiet) now transition).after quiet
      obtain ⟨row, present, marked⟩ := Option.bind_eq_some_iff.mp watermark
      rw [Database.caseRow, quiet.cases] at present
      obtain ⟨-, id⟩ := event_merchant known
      have merchant : pending.merchantId = m := congrArg CaseKey.merchantId (wrote.key.trans key)
      have owner : case.merchantId = m := congrArg CaseKey.merchantId key
      subst now
      refine ⟨wrote.writes, wrote.snap, rfl, heard _ _ ⟨row, Table.lookup_mem present, ?_, ?_, ?_⟩, ?_⟩
      · exact (Table.lookup_key present).trans wrote.key.symm
      · rw [marked, id]
      · rw [show pending.key.merchantId = m from merchant, id, ← owner]
        rw [Database.event, ← quiet.fixed.events]
        exact known
      · change InForce pending.merchantId w.now policy d2
        rw [merchant]
        exact force.of_policies wrote.writes.fixed.policies

theorem decideReview_writes {m : Identifier} {decision : HumanReviewDecision} (now : t = w.now)
    (heard : ∀ k e, AtWatermark db k e → w.hears k e)
    (h : (decideReviewRequest rt inputs m decision t).run db = .ok (res, db')) : Writes w db db' := by
  obtain ⟨routed, d, route, finish⟩ := Tx.bind_ok h
  obtain ⟨routing, current⟩ := routeReview_routed now heard route
  exact routing.trans (finishRouting_writes current finish)

end recovery

section execution

variable {action : ActionRow} {check : FinalPolicyCheck} {result : ProviderLookupResult} {out : ExecutionDisposition}

/-- An attempt that may begin is below the limits it counts against. -/
theorem FinalChecked.within {receipt : ReceiptRow} {selected : CandidateAction} {contact : Nat × Bool}
    {candidates : CandidateList} (final : FinalChecked rt action case t check db receipt selected contact candidates)
    (owner : action.key = case.key) (clear : check.blocks action = false) :
    (action.actionType.actionClass = .retry → RetriesLeft case t db) ∧
      (action.actionType.actionClass = .customerContact → ContactsLeft case t db) := by
  obtain ⟨proceeds, kind⟩ := blocks_false clear
  have compliant := (evaluatePolicy_proceed final.decided proceeds).compliant
  have merchant : action.merchantId = case.merchantId := congrArg CaseKey.merchantId owner
  have force : InForce case.merchantId t check.policy db := by
    rw [← merchant]
    exact final.effective
  refine ⟨fun isRetry => ⟨check.policy, force, compliant.retries (by rw [kind]; exact isRetry)⟩, fun isContact => ?_⟩
  have named : check.decision.selectedAction.channel.isSome = true :=
    check.decision.selectedAction.channel_iff.mpr (by rw [kind]; exact isContact)
  obtain ⟨channel, named⟩ := Option.isSome_iff_exists.mp named
  obtain ⟨resolved, -, below, -⟩ := compliant.contact channel named
  have contacted := final.contacted
  unfold executionContact at contacted
  cases known : case.customerId with
  | none => simp [executionInput, known] at resolved
  | some customer =>
    simp only [known] at contacted
    obtain ⟨snapshot, _, taken, contacted⟩ := Tx.bind_ok contacted
    obtain ⟨-, rfl, rfl⟩ := customerContactSnapshot_effect taken
    obtain ⟨rfl, -⟩ := Tx.pure_ok contacted
    rw [merchant] at below
    exact ⟨check.policy, customer, force, known, below⟩

theorem RetriesLeft.transport (h : RetriesLeft case t db) (same : db'.policies = db.policies) : RetriesLeft case t db' := by
  obtain ⟨policy, force, below⟩ := h
  exact ⟨policy, force.of_policies same, below⟩

theorem ContactsLeft.transport (h : ContactsLeft case t db) (same : db'.policies = db.policies)
    (contacts : ∀ m customer, (contactSnapshot m customer db').aggregateContactCount =
      (contactSnapshot m customer db).aggregateContactCount) : ContactsLeft case t db' := by
  obtain ⟨policy, customer, force, known, below⟩ := h
  exact ⟨policy, customer, force.of_policies same, known, by rw [contacts]; exact below⟩

theorem rerouteBlocked_wrote (snap : Snap case db) (now : t = w.now)
    (h : (rerouteBlocked action case check t).run db = .ok (moved, db')) : Wrote w case moved db db' := by
  unfold rerouteBlocked at h
  dsimp only at h
  split at h
  · exact plain_wrote snap now h
  · obtain ⟨pending, d1, first, h⟩ := Tx.bind_ok h
    obtain ⟨checking, d2, second, third⟩ := Tx.bind_ok h
    have one := plain_wrote snap now first
    have two := plain_wrote one.snap now second
    exact (one.trans two).trans (plain_wrote two.snap now third)
  · obtain ⟨pending, d1, first, h⟩ := Tx.bind_ok h
    obtain ⟨_, d2, reviewed, h⟩ := Tx.bind_ok h
    obtain ⟨checking, d3, second, third⟩ := Tx.bind_ok h
    have one := (plain_wrote snap now first).quiet (storeReview_quiet _ _ _ _ reviewed)
    have two := plain_wrote one.snap now second
    exact (one.trans two).trans (plain_wrote two.snap now third)
  · exact plain_wrote snap now h

theorem blockExecution_wrote (snap : Snap case db) (now : t = w.now)
    (h : (blockExecution action case check t).run db = .ok (out, db')) : Writes w db db' := by
  unfold blockExecution at h
  obtain ⟨_, d1, cancelled, h⟩ := Tx.bind_ok h
  dsimp only at h
  rw [Tx.ite_bind] at h
  obtain ⟨started, d2, start, h⟩ := Tx.bind_ok h
  obtain ⟨verifying, d3, verify, h⟩ := Tx.bind_ok h
  obtain ⟨settled, d4, reroute, h⟩ := Tx.bind_ok h
  obtain ⟨-, rfl⟩ := Tx.pure_ok h
  obtain ⟨-, rfl⟩ := cancelBeforeExecution_effect cancelled
  have quiet := updateAction_quiet db action.id (ActionRow.cancel t (blockCode check.decision))
  have begun := plainIf_wrote (snap.quiet quiet) now start
  have verified := begun.trans (plain_wrote begun.snap now verify)
  exact ((verified.trans (rerouteBlocked_wrote verified.snap now reroute)).after quiet).writes

/-- The rows of one case that an attached incident had flushed take the database's time. -/
theorem stampAttached_write {u : Unit} (snap : Snap case db) (now : t = w.now)
    (timely : w.timely → ∀ row, db.caseRow case.key = some row → row.case.activeIncidentId ≠ case.activeIncidentId →
      case.updatedAt ≤ w.now ∧ case.updatedAt ≤ rt.currentTimestamp case.key case.updatedAt w.now)
    (h : (stampAttached rt case t).run db = .ok (u, db')) : Writes w db db' := by
  subst now
  rw [Tx.write_ok h]
  refine .single (.touched (fun r => if r.key = case.key then r.flushed rt w.now case.activeIncidentId else r)
    (fun row => ?_) (fun on k row found => ?_) rfl rfl ⟨rfl, rfl, ⟨rfl, rfl⟩⟩)
  · split
    · exact flushed_stamped (.refl row) _
    · exact CaseRow.Touched.stamped (.refl row)
  · split
    · rename_i here
      obtain ⟨row', stored, ledger⟩ := snap
      have same : row' = row := by
        rw [← here, show row.key = k from Table.lookup_key found] at stored
        exact Option.some.inj (stored.symm.trans found)
      subst same
      refine flushed_punctual (.refl row') fun changed => ?_
      rw [here, show row'.case.updatedAt = case.updatedAt from congrArg CaseLedger.updatedAt ledger]
      exact timely on row' stored changed
    · exact .inl rfl

theorem counts_of {action : ActionRow} (counts : action.actionType.actionClass ∈ [ActionClass.retry, .customerContact]) :
    action.counts = true := by
  simpa [ActionRow.counts] using counts

/-- An attempt that does not count leaves the counters alone. -/
theorem uncounted_counters {action : ActionRow} (uncounted : action.counts = false)
    (h : (recordExecutionAttemptCounters case (if action.actionType.actionClass = .retry then 1 else 0)
      (if action.actionType.actionClass = .customerContact then 1 else 0) t).run db = .ok (moved, db')) :
    moved = case ∧ db' = db := by
  simp only [ActionRow.counts, Bool.or_eq_false_iff, beq_eq_false_iff_ne] at uncounted
  rw [if_neg uncounted.1, if_neg uncounted.2] at h
  obtain ⟨_, _, checked, h⟩ := Tx.bind_ok h
  obtain ⟨-, rfl⟩ := Tx.check_ok checked
  obtain ⟨_, _, checked, h⟩ := Tx.bind_ok h
  obtain ⟨-, rfl⟩ := Tx.check_ok checked
  obtain ⟨rfl, rfl⟩ := Tx.pure_ok h
  exact ⟨rfl, rfl⟩

theorem startExecution_writes {u : Unit} (snap : Snap case db) (now : t = w.now)
    (counted : action.counts = true → w.timely → case.updatedAt ≤ w.now)
    (stamped : action.counts = false → case.state ≠ .ready → w.timely → ∀ row, db.caseRow case.key = some row →
      row.case.activeIncidentId ≠ case.activeIncidentId →
        case.updatedAt ≤ w.now ∧ case.updatedAt ≤ rt.currentTimestamp case.key case.updatedAt w.now)
    (retries : action.actionType.actionClass = .retry → RetriesLeft case w.now db)
    (contacts : action.actionType.actionClass = .customerContact → ContactsLeft case w.now db)
    (h : (startExecution rt action case t).run db = .ok (u, db')) : Writes w db db' := by
  obtain ⟨after, d1, counting, h⟩ := Tx.bind_ok h
  have wrote : Wrote w case after db d1 := by
    refine (recordExecutionAttemptCounters_wrote snap now (fun some_ => counted (counts_of ?_)) (fun one => retries ?_)
      (fun one => contacts ?_) counting).2
    · by_contra other
      simp only [List.mem_cons, List.not_mem_nil, or_false, not_or] at other
      simp [other.1, other.2] at some_
    · by_contra other
      simp [other] at one
    · by_contra other
      simp [other] at one
  split at h
  · obtain ⟨started, d2, start, h⟩ := Tx.bind_ok h
    obtain ⟨-, rfl⟩ := Tx.pure_ok h
    exact (wrote.trans (plain_wrote wrote.snap now start)).writes
  · rename_i unready
    split at h
    · obtain ⟨-, rfl⟩ := Tx.pure_ok h
      exact wrote.writes
    · rename_i uncounted
      rw [Bool.not_eq_true] at uncounted
      obtain ⟨same, same'⟩ := uncounted_counters uncounted counting
      rw [same, same'] at h
      rw [same] at unready
      exact stampAttached_write snap now (stamped uncounted unready) h

theorem beginExecution_writes {token : String} {p : Prepared} (snap : Snap case db) (now : t = w.now)
    (counted : action.counts = true → w.timely → case.updatedAt ≤ w.now)
    (stamped : action.counts = false → case.state ≠ .ready → w.timely → ∀ row, db.caseRow case.key = some row →
      row.case.activeIncidentId ≠ case.activeIncidentId →
        case.updatedAt ≤ w.now ∧ case.updatedAt ≤ rt.currentTimestamp case.key case.updatedAt w.now)
    (retries : action.actionType.actionClass = .retry → RetriesLeft case w.now db)
    (contacts : action.actionType.actionClass = .customerContact → ContactsLeft case w.now db)
    (h : (beginExecution rt action case token t).run db = .ok (p, db')) : Writes w db db' := by
  obtain ⟨begun, d1, beginning, h⟩ := Tx.bind_ok h
  obtain ⟨r, -, -, -, -, -, -, -, -, rfl⟩ := beginAttempt_effect beginning
  obtain ⟨_, d2, starting, h⟩ := Tx.bind_ok h
  obtain ⟨_, _, checked, h⟩ := Tx.bind_ok h
  obtain ⟨-, rfl⟩ := Tx.lift_ok checked
  obtain ⟨-, rfl⟩ := Tx.pure_ok h
  have quiet := updateAction_quiet db action.id (ActionRow.begin token t)
  exact quiet.writes.trans (startExecution_writes (snap.quiet quiet) now counted stamped
    (fun isRetry => (retries isRetry).transport rfl) (fun isContact => (contacts isContact).transport rfl fun _ _ => rfl)
    starting)

def Prepared.Begun : Prepared → Prop
  | .execution _ _ => True
  | .disposition _ => False

instance : ∀ p : Prepared, Decidable p.Begun
  | .execution _ _ => isTrue trivial
  | .disposition _ => isFalse id

/-- An attempt begins no earlier than its case was last written if it counts, or if all it does to the case is to attach
an incident; then the database's clock is not behind either. -/
def PrepareOnTime (rt : Runtime) (actionId : ActionIdentity) (token : String) (t : Instant) (db : Database) : Prop :=
  ∀ action ∈ db.action actionId, ∀ case ∈ db.caseOf action.key,
    (prepareExecution rt actionId token t).After (fun p _ => p.Begun →
      (action.counts = true → case.updatedAt ≤ t) ∧
      (action.counts = false ∧ case.state = .executing ∧ case.activeIncidentId = none ∧
          newlyMatched action.key t case.diagnosis db ≠ [] →
        case.updatedAt ≤ t ∧ case.updatedAt ≤ rt.currentTimestamp case.key case.updatedAt t)) db

instance (actionId : ActionIdentity) (token : String) (t : Instant) (db : Database) :
    Decidable (PrepareOnTime rt actionId token t db) := by
  unfold PrepareOnTime
  infer_instance

theorem begun_execution {token : String} {p : Prepared}
    (h : (beginExecution rt action case token t).run db = .ok (p, db')) : p.Begun := by
  obtain ⟨begun, d1, -, h⟩ := Tx.bind_ok h
  obtain ⟨_, d2, -, h⟩ := Tx.bind_ok h
  obtain ⟨_, _, -, h⟩ := Tx.bind_ok h
  obtain ⟨rfl, -⟩ := Tx.pure_ok h
  exact trivial

/-- A case whose active incident attaching has set had none, and an incident newly matches it. -/
theorem attachIncidents_sets {key : CaseKey} {code : Option Identifier} {row : CaseRow} (owned : db.caseOf key = some case)
    (found : (attachIncidents key t code db).caseRow key = some row)
    (changed : row.case.activeIncidentId ≠ case.activeIncidentId) :
    case.activeIncidentId = none ∧ newlyMatched key t code db ≠ [] := by
  obtain ⟨row0, stored, rfl, -⟩ := caseOf_row owned
  unfold attachIncidents at found
  split at found
  · obtain rfl : row0 = row := Option.some.inj (stored.symm.trans found)
    exact absurd rfl changed
  · rename_i first matched
    have keeps : Table.KeepsKey CaseRow.key key (CaseRow.attach first) := fun _ here => here
    have attached := (Table.lookup_update_self keeps db.cases).symm.trans found
    rw [show Table.lookup CaseRow.key key db.cases = some row0 from stored] at attached
    cases attached
    refine ⟨?_, fun none_ => by rw [none_] at matched; cases matched⟩
    cases active : row0.case.activeIncidentId with
    | none => rfl
    | some incident => exact absurd (show (row0.case.activeIncidentId.or _) = _ by rw [active]; rfl) changed

theorem prepareExecution_writes {actionId : ActionIdentity} {token : String} {p : Prepared} (now : t = w.now)
    (timely : w.timely → PrepareOnTime rt actionId token t db)
    (h : (prepareExecution rt actionId token t).run db = .ok (p, db')) : Writes w db db' := by
  obtain ⟨action, case, check, preparing⟩ := prepareExecution_ok h
  obtain ⟨key, snap⟩ := snap_caseOf preparing.owned
  have attached : Wrote w case case db _ := attachIncidents_wrote action.key t case.diagnosis snap
  subst now
  rcases preparing.branch with ⟨-, out, -, block⟩ | ⟨clear, begins⟩
  · exact attached.writes.trans (blockExecution_wrote attached.snap rfl block)
  · obtain ⟨-, receipt, selected, contact, candidates, final⟩ := finalPolicyDecision_effect preparing.checked
    obtain ⟨retries, contacts⟩ := final.within key.symm clear
    have inTime (on : w.timely) := timely on action preparing.stored case preparing.owned p db' h (begun_execution begins)
    refine attached.writes.trans (beginExecution_writes attached.snap rfl (fun counts on => (inTime on).1 counts)
      (fun uncounted unready on row found changed => ?_) (fun isRetry => ?_) (fun isContact => ?_) begins)
    · rw [key] at found
      exact (inTime on).2 ⟨uncounted, preparing.state.resolve_left unready, attachIncidents_sets preparing.owned found changed⟩
    · exact (retries isRetry).transport attached.writes.fixed.policies
    · exact (contacts isContact).transport attached.writes.fixed.policies fun m customer => by
        rw [contactSnapshot_attach]

theorem recordExecutionResult_writes {actionId : ActionIdentity} {token : String} {answer : ProviderExecutionResult}
    (now : answer.observedAt = w.now) (h : (recordExecutionResult rt actionId token answer).run db = .ok (out, db')) :
    Writes w db db' := by
  unfold recordExecutionResult at h
  dsimp only at h
  obtain ⟨_, _, read, h⟩ := Tx.bind_ok h
  obtain ⟨rfl, rfl⟩ := Tx.read_ok read
  obtain ⟨before, _, found, h⟩ := Tx.bind_ok h
  obtain ⟨-, rfl⟩ := Tx.found_ok found
  obtain ⟨done, d1, finish, h⟩ := Tx.bind_ok h
  obtain ⟨r, -, -, -, rfl, rfl⟩ := finishAttempt_effect finish
  have quiet := updateAction_quiet db actionId (ActionRow.finish token answer.completion
    (retryAt rt before.attemptCount answer.observedAt) (answer.observedAt + rt.unknownTtl))
  obtain ⟨case, _, required, h⟩ := Tx.bind_ok h
  obtain ⟨here, rfl⟩ := requiredCase_effect required
  obtain ⟨-, snap⟩ := snap_caseOf here
  refine quiet.writes.trans ?_
  split at h
  · obtain ⟨-, rfl⟩ := Tx.pure_ok h
    exact .refl _
  split at h
  · obtain ⟨unknown, d2, transition, h⟩ := Tx.bind_ok h
    obtain ⟨_, d3, store, h⟩ := Tx.bind_ok h
    obtain ⟨-, rfl⟩ := Tx.pure_ok h
    exact ((plain_wrote snap now transition).quiet (storeObservation_quiet _ _ _ _ store)).writes
  split at h
  · obtain ⟨verifying, d2, transition, h⟩ := Tx.bind_ok h
    obtain ⟨_, d3, store, h⟩ := Tx.bind_ok h
    obtain ⟨-, rfl⟩ := Tx.pure_ok h
    exact ((plain_wrote snap now transition).quiet (storeObservation_quiet _ _ _ _ store)).writes
  · obtain ⟨verifying, d2, transition, h⟩ := Tx.bind_ok h
    obtain ⟨_, d3, store, h⟩ := Tx.bind_ok h
    obtain ⟨pending, d4, transition', h⟩ := Tx.bind_ok h
    obtain ⟨-, rfl⟩ := Tx.pure_ok h
    have observed := (plain_wrote snap now transition).quiet (storeObservation_quiet _ _ _ _ store)
    exact (observed.trans (plain_wrote observed.snap now transition')).writes

theorem markStaleCall_writes (now : t = w.now) (h : (markStaleCall rt t action).run db = .ok (out, db')) :
    Writes w db db' := by
  unfold markStaleCall at h
  obtain ⟨_, d1, mark, h⟩ := Tx.bind_ok h
  obtain ⟨r, -, -, rfl⟩ := markStaleInflightUnknown_effect mark
  obtain ⟨case, _, required, h⟩ := Tx.bind_ok h
  obtain ⟨here, rfl⟩ := requiredCase_effect required
  obtain ⟨-, snap⟩ := snap_caseOf here
  dsimp only at h
  rw [Tx.ite_bind] at h
  obtain ⟨unknown, d2, transition, h⟩ := Tx.bind_ok h
  obtain ⟨_, d3, store, h⟩ := Tx.bind_ok h
  obtain ⟨-, rfl⟩ := Tx.pure_ok h
  have moves := plainIf_wrote snap now transition
  exact ((moves.quiet (storeObservation_quiet _ _ _ _ store)).after (updateAction_quiet _ _ _)).writes

theorem markStaleCallsUnknown_writes {limit : Nat} {outs : List ExecutionDisposition} (now : t = w.now)
    (h : (markStaleCallsUnknown rt t limit).run db = .ok (outs, db')) : Writes w db db' := by
  obtain ⟨_, _, checked, h⟩ := Tx.bind_ok h
  obtain ⟨-, rfl⟩ := Tx.check_ok checked
  obtain ⟨rows, _, read, h⟩ := Tx.bind_ok h
  obtain ⟨-, rfl⟩ := Tx.read_ok read
  exact writes_closed.each (fun row _ _ _ body => markStaleCall_writes now body) rows _ _ _ h

theorem setActionResolution_quiet {after : ActionRow} {s : ActionStatus} {object code : Option String}
    (h : (setActionResolution action s t object code).run db = .ok (after, db')) : Quiet db db' := by
  obtain ⟨-, rfl⟩ := setActionResolution_effect h
  exact updateAction_quiet _ _ _

theorem reconcile_writes (snap : Snap case db) (now : result.observedAt = w.now)
    (h : (reconcile action case result).run db = .ok (out, db')) : Writes w db db' := by
  unfold reconcile at h
  dsimp only at h
  rw [Tx.ite_bind] at h
  obtain ⟨after, d1, resolve, h⟩ := Tx.bind_ok h
  rw [Tx.ite_bind] at h
  obtain ⟨verifying, d2, verify, h⟩ := Tx.bind_ok h
  obtain ⟨_, d3, store, h⟩ := Tx.bind_ok h
  obtain ⟨settled, d4, settle, h⟩ := Tx.bind_ok h
  obtain ⟨-, rfl⟩ := Tx.pure_ok h
  have quiet : Quiet db d1 := by
    split at resolve
    · exact setActionResolution_quiet resolve
    · obtain ⟨-, rfl⟩ := Tx.pure_ok resolve
      exact .refl _
  have verified := plainIf_wrote (snap.quiet quiet) now verify
  have observed := verified.quiet (storeObservation_quiet _ _ _ _ store)
  have settles : Writes w d3 d4 := by
    unfold settleLookup at settle
    dsimp only at settle
    split at settle
    · exact (plain_wrote observed.snap now settle).writes
    split at settle
    · exact (plain_wrote observed.snap now settle).writes
    · obtain ⟨-, rfl⟩ := Tx.pure_ok settle
      exact .refl _
  exact (observed.after quiet).writes.trans settles

theorem recordLookup_writes {actionId : ActionIdentity} (now : result.observedAt = w.now)
    (h : (recordLookup actionId result).run db = .ok (out, db')) : Writes w db db' := by
  unfold recordLookup at h
  obtain ⟨_, _, read, h⟩ := Tx.bind_ok h
  obtain ⟨rfl, rfl⟩ := Tx.read_ok read
  obtain ⟨action, _, found, h⟩ := Tx.bind_ok h
  obtain ⟨-, rfl⟩ := Tx.found_ok found
  obtain ⟨case, _, required, h⟩ := Tx.bind_ok h
  obtain ⟨here, rfl⟩ := requiredCase_effect required
  obtain ⟨-, snap⟩ := snap_caseOf here
  split at h
  · obtain ⟨-, rfl⟩ := Tx.pure_ok h
    exact .refl _
  dsimp only at h
  rw [Tx.ite_bind] at h
  obtain ⟨current, d1, expire, h⟩ := Tx.bind_ok h
  have expired : Wrote w case current.2 db d1 := by
    split at expire
    · obtain ⟨marked, d2, mark, expire⟩ := Tx.bind_ok expire
      obtain ⟨-, rfl, rfl⟩ := markVerificationExpiredUnknown_effect mark
      obtain ⟨unknown, d3, transition, expire⟩ := Tx.bind_ok expire
      obtain ⟨_, d4, store, expire⟩ := Tx.bind_ok expire
      obtain ⟨rfl, rfl⟩ := Tx.pure_ok expire
      have quiet := updateAction_quiet db action.id (ActionRow.verificationExpired result.observedAt)
      exact ((plain_wrote (snap.quiet quiet) now transition).quiet (storeObservation_quiet _ _ _ _ store)).after quiet
    · obtain ⟨rfl, rfl⟩ := Tx.pure_ok expire
      exact .refl snap
  refine expired.writes.trans ?_
  unfold settleLookupDeadline at h
  split at h
  · obtain ⟨_, d2, written, h⟩ := Tx.bind_ok h
    have written := Tx.write_ok written
    subst written
    obtain ⟨escalated, d3, transition, h⟩ := Tx.bind_ok h
    obtain ⟨-, rfl⟩ := Tx.pure_ok h
    have quiet := updateAction_quiet d1 current.1.id (ActionRow.deadLetter result.observedAt)
    exact ((plain_wrote (expired.snap.quiet quiet) now transition).after quiet).writes
  split at h
  · obtain ⟨-, rfl⟩ := Tx.pure_ok h
    exact .refl _
  · exact reconcile_writes expired.snap now h

theorem acknowledgeSigned_wrote {event : NormalizedEvent} {reference : String} (snap : Snap case db)
    (now : event.receivedAt = w.now) (h : (acknowledgeSigned case action event reference).run db = .ok (moved, db')) :
    Wrote w case moved db db' := by
  unfold acknowledgeSigned at h
  exact plainIf_wrote snap now h

theorem verifySignedEvent_writes {event : NormalizedEvent} {webhook : Identifier} {found : Option ExecutionDisposition}
    (now : event.receivedAt = w.now) (h : (verifySignedEvent rt event webhook).run db = .ok (found, db')) :
    Writes w db db' := by
  unfold verifySignedEvent at h
  split at h
  · obtain ⟨-, rfl⟩ := Tx.pure_ok h
    exact .refl _
  obtain ⟨credited, d1, search, h⟩ := Tx.bind_ok h
  obtain ⟨rfl, -⟩ := creditedAction_effect search
  split at h
  · obtain ⟨-, rfl⟩ := Tx.pure_ok h
    exact .refl _
  rename_i action
  obtain ⟨out, d1, against, h⟩ := Tx.bind_ok h
  obtain ⟨-, rfl⟩ := Tx.pure_ok h
  obtain ⟨case, _, required, h⟩ := Tx.bind_ok against
  obtain ⟨here, rfl⟩ := requiredCase_effect required
  obtain ⟨-, snap⟩ := snap_caseOf here
  split at h
  · obtain ⟨-, rfl⟩ := Tx.pure_ok h
    exact .refl _
  split at h
  · obtain ⟨known, d2, acknowledge, h⟩ := Tx.bind_ok h
    obtain ⟨stopped, d3, stop, h⟩ := Tx.bind_ok h
    obtain ⟨-, rfl⟩ := Tx.pure_ok h
    have acknowledged := acknowledgeSigned_wrote snap now acknowledge
    exact (acknowledged.trans (plain_wrote acknowledged.snap now stop)).writes
  · obtain ⟨after, d2, resolve, h⟩ := Tx.bind_ok h
    have quiet := setActionResolution_quiet resolve
    obtain ⟨known, d3, acknowledge, h⟩ := Tx.bind_ok h
    have acknowledged := (acknowledgeSigned_wrote (snap.quiet quiet) now acknowledge).after quiet
    split at h
    · obtain ⟨-, rfl⟩ := Tx.pure_ok h
      exact acknowledged.writes
    · obtain ⟨_, d4, store, h⟩ := Tx.bind_ok h
      obtain ⟨recovered, d5, recover, h⟩ := Tx.bind_ok h
      obtain ⟨-, rfl⟩ := Tx.pure_ok h
      have observed := acknowledged.quiet (storeObservation_quiet _ _ _ _ store)
      exact (observed.trans (plain_wrote observed.snap now recover)).writes

theorem claimDueActions_quiet {tokens : ActionIdentity → String} {leaseFor : Int} {limit : Nat} :
    Tx.Keeps (claimDueActions rt tokens t leaseFor limit) Quiet :=
  quiet_closed.bind (quiet_closed.check _ _) fun _ => quiet_closed.bind (quiet_closed.read _) fun rows =>
    quiet_closed.each (fun row => quiet_closed.bind (Tx.Closed.write fun s => updateAction_quiet s row.id _) fun _ =>
      quiet_closed.pure _) rows

end execution

section receivables

variable {promise : PromiseRow}

theorem markPromiseReminderScheduled_quiet (id : ActionIdentity) (t : Instant) :
    Tx.Keeps (markPromiseReminderScheduled promise id t) Quiet :=
  quiet_closed.bind (quiet_closed.read _) fun _ => quiet_closed.bind (quiet_closed.check _ _) fun _ =>
    Tx.Closed.write fun _ => ⟨rfl, rfl, ⟨rfl, rfl, ⟨rfl, rfl⟩⟩⟩

theorem rescheduleIfDeferred_quiet (wake : Option Instant) : Tx.Keeps (rescheduleIfDeferred promise wake) Quiet := by
  cases wake with
  | none => exact quiet_closed.pure _
  | some at_ => exact Tx.Closed.write fun _ => ⟨rfl, rfl, ⟨rfl, rfl, ⟨rfl, rfl⟩⟩⟩

theorem assessReminder_writes {found : Option ReminderAssessment} (now : t = w.now)
    (h : (assessReminder rt t promise).run db = .ok (found, db')) :
    Writes w db db' ∧ ∀ a ∈ found, Snap a.checking db' := by
  unfold assessReminder at h
  obtain ⟨_, _, read, h⟩ := Tx.bind_ok h
  obtain ⟨rfl, rfl⟩ := Tx.read_ok read
  obtain ⟨case, _, found, h⟩ := Tx.bind_ok h
  obtain ⟨stored, rfl⟩ := Tx.found_ok found
  obtain ⟨-, snap⟩ := snap_caseOf stored
  obtain ⟨policy, _, effective, h⟩ := Tx.bind_ok h
  obtain ⟨-, rfl⟩ := inForce_ok effective
  dsimp only at h
  rw [Tx.ite_bind] at h
  obtain ⟨pending, d1, prepare, h⟩ := Tx.bind_ok h
  have due := plainIf_wrote snap now prepare
  split at h
  · obtain ⟨rfl, rfl⟩ := Tx.pure_ok h
    exact ⟨due.writes, fun a none => by cases none⟩
  obtain ⟨checking, d2, check, h⟩ := Tx.bind_ok h
  have checked := due.trans (plain_wrote due.snap now check)
  obtain ⟨_, _, read, h⟩ := Tx.bind_ok h
  obtain ⟨rfl, rfl⟩ := Tx.read_ok read
  obtain ⟨incidents, d3, attached, h⟩ := Tx.bind_ok h
  rw [activeIncidents_run] at attached
  cases attached
  obtain ⟨candidates, _, lifted, h⟩ := Tx.bind_ok h
  obtain ⟨-, rfl⟩ := Tx.lift_ok lifted
  obtain ⟨decision, _, lifted, h⟩ := Tx.bind_ok h
  obtain ⟨-, rfl⟩ := Tx.lift_ok lifted
  obtain ⟨rfl, rfl⟩ := Tx.pure_ok h
  have attached := checked.trans (attachIncidents_wrote ⟨promise.merchantId, checking.caseId⟩ t checking.diagnosis
    checked.snap)
  exact ⟨attached.writes, fun a same => by cases same; exact attached.snap⟩

theorem decideReminder_writes {a : ReminderAssessment} {out : PromiseMaintenanceResult} (snap : Snap a.checking db)
    (now : t = w.now) (h : (decideReminder t promise a).run db = .ok (out, db')) : Writes w db db' := by
  unfold decideReminder at h
  obtain ⟨decided, d1, transition, h⟩ := Tx.bind_ok h
  have wrote := plain_wrote snap now transition
  dsimp only at h
  obtain ⟨_, d2, receipted, h⟩ := Tx.bind_ok h
  obtain ⟨receipted, -⟩ := storeReceipt_write (fun evaluation => by cases evaluation) receipted
  refine (wrote.writes.trans receipted).trans ?_
  split at h
  · obtain ⟨_, d3, acted, h⟩ := Tx.bind_ok h
    obtain ⟨_, d4, marked, h⟩ := Tx.bind_ok h
    obtain ⟨-, rfl⟩ := Tx.pure_ok h
    have acted := storeAction_quiet _ _ _ _ _ _ _ acted
    exact (acted.trans (markPromiseReminderScheduled_quiet _ _ _ _ _ marked)).writes
  · obtain ⟨_, d3, rescheduled, h⟩ := Tx.bind_ok h
    obtain ⟨-, rfl⟩ := Tx.pure_ok h
    exact (rescheduleIfDeferred_quiet _ _ _ _ rescheduled).writes

theorem remindPromise_writes {out : PromiseMaintenanceResult} (now : t = w.now)
    (h : (remindPromise rt t promise).run db = .ok (out, db')) : Writes w db db' := by
  obtain ⟨found, d, assess, h⟩ := Tx.bind_ok h
  obtain ⟨writes, snap⟩ := assessReminder_writes now assess
  split at h
  · obtain ⟨-, rfl⟩ := Tx.pure_ok h
    exact writes
  · exact writes.trans (decideReminder_writes (snap _ rfl) now h)

theorem scheduleDuePromiseReminders_writes {limit : Nat} {out : List PromiseMaintenanceResult} (now : t = w.now)
    (h : (scheduleDuePromiseReminders rt t limit).run db = .ok (out, db')) : Writes w db db' := by
  obtain ⟨_, _, checked, h⟩ := Tx.bind_ok h
  obtain ⟨-, rfl⟩ := Tx.check_ok checked
  obtain ⟨rows, _, read, h⟩ := Tx.bind_ok h
  obtain ⟨-, rfl⟩ := Tx.read_ok read
  exact writes_closed.each (fun row _ _ _ body => remindPromise_writes now body) rows _ _ _ h

end receivables

section portfolio

variable {a : DegradationAssessment} {policy : DegradationPolicy}

/-- At most the active incidents of the cases reached change, which the database stamps. -/
def Flushes (rt : Runtime) (t : Instant) (reached : CaseRow → Prop) (db db' : Database) : Prop :=
  db'.transitions = db.transitions ∧ Silent db db' ∧ ∃ g : CaseRow → CaseRow, (∀ row : CaseRow, row.Touched (g row)) ∧
    (∀ row : CaseRow, (g row).case.activeIncidentId ≠ row.case.activeIncidentId → reached row) ∧
    db'.cases = db.cases.map fun r => (g r).flushed rt t r.case.activeIncidentId

variable {reached : CaseRow → Prop}

theorem flushed_self (t : Instant) (row : CaseRow) : row.flushed rt t row.case.activeIncidentId = row := if_pos rfl

theorem Quiet.flushes (h : Quiet db db') : Flushes rt t reached db db' :=
  ⟨h.transitions, h.silent, id, .refl, fun _ changed => absurd rfl changed, by
    simp only [id, flushed_self, List.map_id']; exact h.cases⟩

theorem Quiet.flushes_next {d : Database} (h : Quiet db d) (h' : Flushes rt t reached d db') :
    Flushes rt t reached db db' := by
  obtain ⟨transitions, silent, g, touches, reaches, cases⟩ := h'
  exact ⟨transitions.trans h.transitions, h.silent.trans silent, g, touches, reaches, by rw [cases, h.cases]⟩

theorem Flushes.mono {reached' : CaseRow → Prop} (h : Flushes rt t reached db db') (weaker : ∀ row, reached row → reached' row) :
    Flushes rt t reached' db db' := by
  obtain ⟨transitions, silent, g, touches, reaches, cases⟩ := h
  exact ⟨transitions, silent, g, touches, fun row changed => weaker row (reaches row changed), cases⟩

theorem setIncident_quiet {row : IncidentRow} {u : Unit} (h : (setIncident row).run db = .ok (u, db')) : Quiet db db' := by
  rw [Tx.write_ok h]
  exact ⟨rfl, rfl, ⟨rfl, rfl, ⟨rfl, rfl⟩⟩⟩

theorem attachAffectedCases_flushes {incident : IncidentConstraint} {u : Unit}
    (h : (attachAffectedCases rt incident a).run db = .ok (u, db')) :
    Flushes rt a.evaluatedAt (fun row => row.affectedBy a = true ∧ row.case.activeIncidentId = none) db db' := by
  rw [Tx.write_ok h]
  refine ⟨rfl, ⟨rfl, rfl, ⟨rfl, rfl⟩⟩, fun r => if r.affectedBy a then r.attach incident else r, fun row => ?_,
    fun row changed => ?_, List.map_congr_left fun row _ => ?_⟩ <;> dsimp only at *
  · split
    · exact attach_touched incident row
    · exact .refl row
  · split at changed
    · rename_i affected
      refine ⟨affected, ?_⟩
      cases active : row.case.activeIncidentId with
      | none => rfl
      | some id => exact absurd (show row.case.activeIncidentId.or _ = _ by rw [active]; rfl) changed
    · exact absurd rfl changed
  · by_cases affected : row.affectedBy a = true
    · rw [if_pos affected, if_pos affected]
    · rw [if_neg affected, if_neg affected, flushed_self]

theorem resume_touched (incidentId : Identifier) (t : Instant) (row : CaseRow) : row.Touched (row.resume incidentId t) := by
  unfold CaseRow.resume
  split <;> exact ⟨rfl, rfl, rfl, rfl⟩

/-- The cases linked to the incident that have it as their active one. -/
def CaseRow.Held (incident : IncidentRow) (db : Database) (row : CaseRow) : Prop :=
  row.case.merchantId = incident.merchantId ∧
    row.case.caseId ∈ resumeOrder incident.merchantId incident.incident.incidentId db ∧
    row.case.activeIncidentId = some incident.incident.incidentId

instance (incident : IncidentRow) (db : Database) (row : CaseRow) : Decidable (row.Held incident db) := by
  unfold CaseRow.Held
  infer_instance

theorem resolveIncident_flushes {row : IncidentRow} {u : Unit} (h : (resolveIncident rt row t).run db = .ok (u, db')) :
    Flushes rt t (CaseRow.Held row db) db db' := by
  obtain ⟨order, _, read, h⟩ := Tx.bind_ok h
  obtain ⟨rfl, rfl⟩ := Tx.read_ok read
  obtain ⟨incident, _, lifted, h⟩ := Tx.bind_ok h
  obtain ⟨-, rfl⟩ := Tx.lift_ok lifted
  obtain ⟨_, d1, set, h⟩ := Tx.bind_ok h
  refine (setIncident_quiet set).flushes_next ?_
  rw [Tx.write_ok h]
  refine ⟨rfl, ⟨rfl, rfl, ⟨rfl, rfl⟩⟩, fun r => if r.case.merchantId = row.merchantId ∧
      r.case.caseId ∈ resumeOrder row.merchantId row.incident.incidentId db then r.resume row.incident.incidentId
        (resumeAt (resumeOrder row.merchantId row.incident.incidentId db) t r.case.caseId) else r,
    fun r => ?_, fun r changed => ?_, List.map_congr_left fun r _ => ?_⟩ <;> dsimp only at *
  · split
    · exact resume_touched _ _ r
    · exact .refl r
  · split at changed
    · rename_i linked
      refine ⟨linked.1, linked.2, ?_⟩
      unfold CaseRow.resume at changed
      split at changed
      · assumption
      · exact absurd rfl changed
    · exact absurd rfl changed
  · by_cases linked : r.case.merchantId = row.merchantId ∧
        r.case.caseId ∈ resumeOrder row.merchantId row.incident.incidentId db
    · rw [if_pos linked, if_pos linked]
    · rw [if_neg linked, if_neg linked, flushed_self]

theorem clearWindow_flushes {row : IncidentRow} {u : Unit} (h : (clearWindow rt a policy row).run db = .ok (u, db')) :
    Flushes rt a.evaluatedAt (fun r => row.updatedAt + policy.currentWindow ≤ a.evaluatedAt ∧
      policy.clearConsecutiveWindows ≤ row.clearWindowCount + 1 ∧ r.Held row db) db db' := by
  unfold clearWindow at h
  split at h
  · obtain ⟨-, rfl⟩ := Tx.pure_ok h
    exact (Quiet.refl _).flushes
  · rename_i late
    dsimp only at h
    split at h
    · rename_i enough
      exact (resolveIncident_flushes h).mono fun r held => ⟨not_lt.mp late, enough, held⟩
    · obtain ⟨incident, _, lifted, h⟩ := Tx.bind_ok h
      obtain ⟨-, rfl⟩ := Tx.lift_ok lifted
      exact (setIncident_quiet h).flushes

/-- The cases whose active incident an assessment sets or clears: those it affects that have none, or those held by the
incident whose last clear window it is. -/
def CaseRow.Reassigned (a : DegradationAssessment) (policy : DegradationPolicy) (db : Database) (row : CaseRow) : Prop :=
  (a.degraded = true ∧ row.affectedBy a = true ∧ row.case.activeIncidentId = none) ∨
    a.degraded = false ∧ ∃ incident ∈ activeIncident a db, incident.updatedAt + policy.currentWindow ≤ a.evaluatedAt ∧
      policy.clearConsecutiveWindows ≤ incident.clearWindowCount + 1 ∧ row.Held incident db

instance (db : Database) (row : CaseRow) : Decidable (row.Reassigned a policy db) := by
  unfold CaseRow.Reassigned
  infer_instance

theorem applyDegradationAssessment_flushes {incidentId : Identifier} {u : Unit}
    (h : (applyDegradationAssessment rt a policy incidentId).run db = .ok (u, db')) :
    Flushes rt a.evaluatedAt (CaseRow.Reassigned a policy db) db db' := by
  obtain ⟨active, _, read, h⟩ := Tx.bind_ok h
  obtain ⟨found, rfl⟩ := Tx.read_ok read
  split at h
  · rename_i row
    split at h
    · rename_i degraded
      obtain ⟨incident, _, lifted, h⟩ := Tx.bind_ok h
      obtain ⟨-, rfl⟩ := Tx.lift_ok lifted
      obtain ⟨_, d1, set, h⟩ := Tx.bind_ok h
      exact ((setIncident_quiet set).flushes_next (attachAffectedCases_flushes h)).mono fun r affected => .inl ⟨degraded, affected⟩
    · rename_i clear
      exact (clearWindow_flushes h).mono fun r held =>
        .inr ⟨Bool.eq_false_of_not_eq_true clear, row, found.symm, held⟩
  · split at h
    · rename_i degraded
      obtain ⟨_, _, read, h⟩ := Tx.bind_ok h
      obtain ⟨rfl, rfl⟩ := Tx.read_ok read
      obtain ⟨_, _, checked, h⟩ := Tx.bind_ok h
      obtain ⟨-, rfl⟩ := Tx.check_ok checked
      obtain ⟨_, d1, written, h⟩ := Tx.bind_ok h
      have opened : Quiet db d1 := by
        rw [Tx.write_ok written]
        exact ⟨rfl, rfl, ⟨rfl, rfl, ⟨rfl, rfl⟩⟩⟩
      exact (opened.flushes_next (attachAffectedCases_flushes h)).mono fun r affected => .inl ⟨degraded, affected⟩
    · obtain ⟨-, rfl⟩ := Tx.pure_ok h
      exact (Quiet.refl _).flushes

/-- An assessment that commits: the cases whose active incident it sets or clears were last written no later than it was
made, and than the database's clock shows. -/
def AssessmentOnTime (rt : Runtime) (a : DegradationAssessment) (policy : DegradationPolicy) (incidentId : Identifier)
    (db : Database) : Prop :=
  (applyDegradationAssessment rt a policy incidentId).After (fun _ _ => ∀ row ∈ db.cases, row.Reassigned a policy db →
    row.case.updatedAt ≤ a.evaluatedAt ∧
      row.case.updatedAt ≤ rt.currentTimestamp row.key row.case.updatedAt a.evaluatedAt) db

instance (incidentId : Identifier) (db : Database) : Decidable (AssessmentOnTime rt a policy incidentId db) := by
  unfold AssessmentOnTime
  infer_instance

theorem applyDegradationAssessment_writes {incidentId : Identifier} {u : Unit} (now : a.evaluatedAt = w.now)
    (timely : w.timely → AssessmentOnTime rt a policy incidentId db)
    (h : (applyDegradationAssessment rt a policy incidentId).run db = .ok (u, db')) : Writes w db db' := by
  obtain ⟨transitions, silent, g, touches, reaches, cases⟩ := applyDegradationAssessment_flushes h
  have stamps (row : CaseRow) : row.Stamped ((g row).flushed rt a.evaluatedAt row.case.activeIncidentId) :=
    flushed_stamped (touches row) _
  refine .single (.touched _ stamps (fun on k row found => ?_) cases transitions silent)
  rw [← now]
  exact flushed_punctual (touches row) fun changed =>
    timely on _ db' h row (Table.lookup_mem found) (reaches row changed)

end portfolio

section reports

/-- What the provider, the merchant and the customer report: no case changes. -/
structure Reported (db db' : Database) : Prop where
  cases : db'.cases = db.cases
  caseEvents : db'.caseEvents = db.caseEvents
  transitions : db'.transitions = db.transitions
  receipts : db'.receipts = db.receipts
  policies : ∀ r ∈ db.policies, r ∈ db'.policies
  events : ∃ more, db'.events = db.events ++ more

theorem Reported.refl (db : Database) : Reported db db := ⟨rfl, rfl, rfl, rfl, fun _ => id, [], (List.append_nil _).symm⟩

theorem Reported.trans {d e f : Database} (h : Reported d e) (h' : Reported e f) : Reported d f := by
  obtain ⟨more, seen⟩ := h.events
  obtain ⟨more', seen'⟩ := h'.events
  exact ⟨h'.cases.trans h.cases, h'.caseEvents.trans h.caseEvents, h'.transitions.trans h.transitions,
    h'.receipts.trans h.receipts, fun r member => h'.policies r (h.policies r member), more ++ more', by rw [seen', seen, List.append_assoc]⟩

theorem reported_closed : Tx.Closed Reported := ⟨Reported.refl, Reported.trans⟩

/-- A report that no case, policy or event is part of. -/
theorem Reported.aside (cases : db'.cases = db.cases) (caseEvents : db'.caseEvents = db.caseEvents)
    (transitions : db'.transitions = db.transitions) (receipts : db'.receipts = db.receipts)
    (policies : db'.policies = db.policies) (events : db'.events = db.events) : Reported db db' :=
  ⟨cases, caseEvents, transitions, receipts, fun r member => by rw [policies]; exact member, [], by rw [events, List.append_nil]⟩

theorem registerMerchant_reported (m : Identifier) : Tx.Keeps (registerMerchant m) Reported :=
  Tx.Closed.write fun db => by split <;> exact .aside rfl rfl rfl rfl rfl rfl

theorem Persists.reported {event : NormalizedEvent} (h : Persists event db db') : Reported db db' := by
  rcases h with rfl | rfl
  · exact .refl _
  · exact ⟨rfl, rfl, rfl, rfl, fun _ => id, _, rfl⟩

theorem putMerchantRow_reported (row : MerchantRow) : Tx.Keeps (putMerchantRow row) Reported := by
  cases row <;> exact Tx.Closed.write fun _ => .aside rfl rfl rfl rfl rfl rfl

theorem publishPolicy_reported (m : Identifier) (policy : MerchantPolicySnapshot) :
    Tx.Keeps (publishPolicy m policy) Reported := by
  refine reported_closed.bind (reported_closed.read _) fun existing => ?_
  cases existing with
  | some row => exact reported_closed.check _ _
  | none =>
    exact reported_closed.bind (reported_closed.read _) fun _ => reported_closed.bind (reported_closed.check _ _) fun _ =>
      Tx.Closed.write fun db => ⟨rfl, rfl, rfl, rfl, fun _ => List.mem_append_left _, [], (List.append_nil _).symm⟩

theorem closeExpiredCustomerInterventions_reported (t : Instant) (limit : Nat) :
    Tx.Keeps (closeExpiredCustomerInterventions rt t limit) Reported :=
  reported_closed.bind (reported_closed.check _ _) fun _ => reported_closed.bind (reported_closed.read _) fun _ =>
    reported_closed.bind (Tx.Closed.write fun _ => .aside rfl rfl rfl rfl rfl rfl) fun _ => reported_closed.pure _

/-- The receivables' own papers; no other table changes. -/
def Filed (db db' : Database) : Prop :=
  db' = { db with
    merchantEvents := db'.merchantEvents, invoices := db'.invoices, promises := db'.promises
    responses := db'.responses, escalations := db'.escalations }

theorem Filed.trans {d e f : Database} (h : Filed d e) (h' : Filed e f) : Filed d f := by
  rw [Filed] at h h' ⊢
  rw [h', h]

theorem filed_closed : Tx.Closed Filed := ⟨fun _ => rfl, Filed.trans⟩

theorem Filed.reported (h : Filed db db') : Reported db db' := by
  rw [Filed] at h
  rw [h]
  exact .aside rfl rfl rfl rfl rfl rfl

theorem recordMerchantEvent_filed (m : Identifier) (source : String) (o : OverdueInvoice) :
    Tx.Keeps (recordMerchantEvent m source o) Filed := by
  refine filed_closed.bind (filed_closed.read _) fun existing => ?_
  cases existing with
  | some row => exact filed_closed.check _ _
  | none => exact Tx.Closed.write fun _ => rfl

theorem upsertOverdueInvoice_filed (m : Identifier) (o : OverdueInvoice) (t : Instant) :
    Tx.Keeps (upsertOverdueInvoice m o t) Filed := by
  refine filed_closed.bind (filed_closed.read _) fun _ => filed_closed.bind (filed_closed.read _) fun existing =>
    filed_closed.bind (filed_closed.check _ _) fun _ => ?_
  cases existing with
  | some row => exact Tx.Closed.write fun _ => rfl
  | none => exact filed_closed.bind (filed_closed.check _ _) fun _ => Tx.Closed.write fun _ => rfl

theorem recordOverdueInvoice_reported (m : Identifier) (source : String) (o : OverdueInvoice) (t t' : Instant) :
    Tx.Keeps (recordOverdueInvoice m source o t t') Reported :=
  reported_closed.bind (fun _ _ _ h => (recordMerchantEvent_filed m source o _ _ _ h).reported) fun _ =>
    reported_closed.bind (fun _ _ _ h => (upsertOverdueInvoice_filed m o t _ _ _ h).reported) fun _ =>
      fun _ _ _ h => (persistMerchantEvent_persists _ _ _ _ h).reported

theorem updateInvoice_filed (m id : Identifier) (f : InvoiceRow → InvoiceRow) :
    Tx.Keeps (Tx.write (updateInvoice m id f) : Transaction Unit) Filed := Tx.Closed.write fun _ => rfl

theorem updatePromises_filed (p : PromiseRow → Bool) (f : PromiseRow → PromiseRow) :
    Tx.Keeps (Tx.write (updatePromises p f) : Transaction Unit) Filed := Tx.Closed.write fun _ => rfl

theorem storeReceivableEscalation_filed (row : ReceivableEscalationRow) : Tx.Keeps (storeReceivableEscalation row) Filed := by
  refine filed_closed.bind (filed_closed.read _) fun existing => ?_
  cases existing with
  | some row => exact filed_closed.pure _
  | none => exact Tx.Closed.write fun _ => rfl

theorem freezeAndEscalate_filed (row : ReceivableEscalationRow) (status : InvoiceStatus) (from_ : List InvoiceStatus)
    (ended : PromiseStatus) : Tx.Keeps (freezeAndEscalate row status from_ ended) Filed :=
  filed_closed.bind (updateInvoice_filed _ _ _) fun _ => filed_closed.bind (updatePromises_filed _ _) fun _ =>
    storeReceivableEscalation_filed row

theorem storeCustomerResponse_filed (response : CustomerResponseRow) (extraction : PromiseExtraction) :
    Tx.Keeps (storeCustomerResponse response extraction) Filed := by
  refine filed_closed.bind (filed_closed.check _ _) fun _ => filed_closed.bind (filed_closed.read _) fun existing => ?_
  cases existing with
  | some row => exact filed_closed.bind (filed_closed.check _ _) fun _ => filed_closed.pure _
  | none => exact filed_closed.bind (Tx.Closed.write fun _ => rfl) fun _ => filed_closed.pure _

theorem storePromise_filed (promise : PromiseToPay) : Tx.Keeps (storePromise promise) Filed := by
  refine filed_closed.bind (filed_closed.read _) fun existing => ?_
  cases existing with
  | some row => exact filed_closed.pure _
  | none => exact filed_closed.bind (Tx.Closed.write fun _ => rfl) fun _ => updateInvoice_filed _ _ _

theorem applyResponse_filed (response : CustomerResponseRow) (invoice : InvoiceRow) (extraction : PromiseExtraction) :
    Tx.Keeps (applyResponse response invoice extraction) Filed := by
  unfold applyResponse
  dsimp only
  split
  · exact filed_closed.bind (filed_closed.lift _) fun _ => filed_closed.bind (storePromise_filed _) fun _ =>
      filed_closed.pure _
  · exact filed_closed.bind (freezeAndEscalate_filed _ _ _ _) fun _ => filed_closed.pure _
  · exact filed_closed.bind (freezeAndEscalate_filed _ _ _ _) fun _ => filed_closed.pure _
  · exact filed_closed.bind (storeReceivableEscalation_filed _) fun _ => filed_closed.pure _

theorem recordCustomerResponse_filed (m : Identifier) (source : String) (invoiceId : Identifier) (body : String)
    (reply : Option PromiseExtraction) (t : Instant) :
    Tx.Keeps (recordCustomerResponse m source invoiceId body reply t) Filed := by
  refine filed_closed.bind (filed_closed.read _) fun _ => filed_closed.bind (filed_closed.found _ _) fun _ =>
    filed_closed.bind (filed_closed.read _) fun _ => filed_closed.bind (filed_closed.found _ _) fun _ =>
    filed_closed.bind (filed_closed.lift _) fun _ => filed_closed.bind (storeCustomerResponse_filed _ _) fun _ => ?_
  split
  · exact applyResponse_filed _ _ _
  · exact filed_closed.pure _

theorem escalateBrokenPromises_filed (t : Instant) (limit : Nat) : Tx.Keeps (escalateBrokenPromises rt t limit) Filed := by
  refine filed_closed.bind (filed_closed.check _ _) fun _ => filed_closed.bind (filed_closed.read _) fun rows =>
    filed_closed.each (fun promise => ?_) rows
  refine filed_closed.bind (filed_closed.read _) fun _ => filed_closed.bind (filed_closed.found _ _) fun _ => ?_
  split
  · exact filed_closed.bind (updatePromises_filed _ _) fun _ => filed_closed.pure _
  · exact filed_closed.bind (updatePromises_filed _ _) fun _ => filed_closed.bind (updateInvoice_filed _ _ _)
      fun _ => filed_closed.bind (storeReceivableEscalation_filed _) fun _ => filed_closed.pure _

end reports

/-- The time of the call: what a command that moves cases stamps them with. -/
def Command.instant : Command → Instant
  | .applyDegradationAssessment a _ _ => a.evaluatedAt
  | .processEvent _ _ _ _ t => t
  | .reevaluateDeferred _ t _ => t
  | .decideReview _ _ _ t => t
  | .scheduleDuePromiseReminders t _ => t
  | .prepareExecution _ _ t => t
  | .recordExecutionResult _ _ result => result.observedAt
  | .markStaleCallsUnknown t _ => t
  | .recordLookup _ result => result.observedAt
  | .verifySignedEvent event _ => event.receivedAt
  | _ => 0

/-- The evidence a command may put on a case: its event, or what the case heard last. -/
def Command.hears : Command → Database → CaseKey → NormalizedEvent → Prop
  | .processEvent _ m eventId caseId _, db, k, event => db.event m eventId = some event ∧ k = eventCase m eventId caseId db
  | _, db, k, event => AtWatermark db k event

/-- The links a command may make: an event's, to the case it is routed to or to none. -/
def Command.links : Command → Database → CaseEventRow → Prop
  | .processEvent _ m eventId caseId _, db, link =>
    link.id = (m, eventId) ∧ (link.key = none ∨ link.key = some (eventCase m eventId caseId db))
  | _, _, _ => False

def Command.OnTime (rt : Runtime) : Command → Database → Prop
  | .prepareExecution id token t, db => PrepareOnTime rt id token t db
  | .applyDegradationAssessment a policy id, db => AssessmentOnTime rt a policy id db
  | _, _ => True

instance (c : Command) (db : Database) : Decidable (c.OnTime rt db) :=
  match c with
  | .prepareExecution .. => by unfold Command.OnTime; infer_instance
  | .applyDegradationAssessment .. => by unfold Command.OnTime; infer_instance
  | .registerMerchant .. | .upsertCustomer .. | .upsertPayment .. | .upsertSubscription ..
  | .persistNormalizedEvent .. | .putMerchantRow .. | .publishPolicy ..
  | .processEvent .. | .reevaluateDeferred .. | .decideReview .. | .closeExpiredCustomerInterventions ..
  | .recordOverdueInvoice .. | .recordCustomerResponse .. | .scheduleDuePromiseReminders ..
  | .escalateBrokenPromises .. | .claimDueActions .. | .recordExecutionResult .. | .markStaleCallsUnknown ..
  | .recordLookup .. | .verifySignedEvent .. => isTrue trivial

def Command.writer (rt : Runtime) (c : Command) (db : Database) : Writer := ⟨c.instant, c.OnTime rt db, c.hears db, c.links db⟩

theorem commit_writes {A : Type} {x : Transaction A} (committed : ∀ {a db'}, x.run db = .ok (a, db') → Writes w db db') :
    Writes w db (x.commit db) ∨ Reported db (x.commit db) :=
  .inl (Tx.commit_relates (R := Writes w) (.refl db) committed)

theorem commit_reported {A : Type} {x : Transaction A} (keeps : Tx.Keeps x Reported) :
    Writes w db (x.commit db) ∨ Reported db (x.commit db) :=
  .inr (Tx.commit_relates (R := Reported) (.refl db) (keeps _ _ _))

/-- Every command writes cases one at a time, or only reports. -/
theorem exec_writes (rt : Runtime) (c : Command) (db : Database) :
    Writes (c.writer rt db) db (exec rt c db) ∨ Reported db (exec rt c db) := by
  cases c with
  | registerMerchant m => exact commit_reported (registerMerchant_reported m)
  | upsertCustomer row =>
    exact commit_reported (x := upsertCustomer row) (Tx.Closed.write fun _ => .aside rfl rfl rfl rfl rfl rfl)
  | upsertPayment row =>
    exact commit_reported (x := upsertPayment row) (Tx.Closed.write fun _ => .aside rfl rfl rfl rfl rfl rfl)
  | upsertSubscription row =>
    exact commit_reported (x := upsertSubscription row) (Tx.Closed.write fun _ => .aside rfl rfl rfl rfl rfl rfl)
  | persistNormalizedEvent event => exact commit_reported fun _ _ _ h => (persistNormalizedEvent_persists event _ _ _ h).reported
  | putMerchantRow row => exact commit_reported (putMerchantRow_reported row)
  | publishPolicy m policy => exact commit_reported (publishPolicy_reported m policy)
  | applyDegradationAssessment a policy id => exact commit_writes (applyDegradationAssessment_writes rfl fun onTime => onTime)
  | processEvent inputs m e caseId t =>
    exact commit_writes (processEvent_writes rfl (fun _ known => ⟨known, rfl⟩) fun _ => And.intro)
  | reevaluateDeferred inputs t limit => exact commit_writes (reevaluateDeferred_writes rfl fun _ _ => id)
  | decideReview inputs m decision t => exact commit_writes (decideReview_writes rfl fun _ _ => id)
  | closeExpiredCustomerInterventions t limit =>
    exact commit_reported (closeExpiredCustomerInterventions_reported t limit)
  | recordOverdueInvoice m source invoice t t' =>
    exact commit_reported (recordOverdueInvoice_reported m source invoice t t')
  | recordCustomerResponse m source invoiceId body reply t =>
    exact commit_reported fun _ _ _ h => (recordCustomerResponse_filed m source invoiceId body reply t _ _ _ h).reported
  | scheduleDuePromiseReminders t limit => exact commit_writes (scheduleDuePromiseReminders_writes rfl)
  | escalateBrokenPromises t limit => exact commit_reported fun _ _ _ h => (escalateBrokenPromises_filed t limit _ _ _ h).reported
  | claimDueActions tokens now leaseFor limit =>
    exact commit_writes fun h => Quiet.writes (claimDueActions_quiet _ _ _ h)
  | prepareExecution action token t => exact commit_writes (prepareExecution_writes rfl fun onTime => onTime)
  | recordExecutionResult id token result => exact commit_writes (recordExecutionResult_writes rfl)
  | markStaleCallsUnknown now limit => exact commit_writes (markStaleCallsUnknown_writes rfl)
  | recordLookup id result => exact commit_writes (recordLookup_writes rfl)
  | verifySignedEvent event webhook => exact commit_writes (verifySignedEvent_writes rfl)

end RevenueGuard
