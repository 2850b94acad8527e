import RevenueGuard.Protocol.Evidence
import RevenueGuard.Safety.ReadyCases

/-
The evidence watermark. Where every applied event is decided at once, a case's
watermark is the newest event applied to it, its applied events came in order,
and its last evaluation rested on that event.
-/
namespace RevenueGuard

variable {rt : Runtime} {db db' d : Database} {k : CaseKey} {c : Command} {event e f g : NormalizedEvent}

def NormalizedEvent.rank (event : NormalizedEvent) : Nat := statusRank (some (eventStatus event.eventType))

/-- Older evidence: by time, then by provider status, then by event id. -/
def NormalizedEvent.Before (e f : NormalizedEvent) : Prop :=
  e.occurredAt < f.occurredAt ∨
    (e.occurredAt = f.occurredAt ∧ (e.rank < f.rank ∨ (e.rank = f.rank ∧ e.eventId.val < f.eventId.val)))

theorem NormalizedEvent.Before.trans (first : e.Before f) (second : f.Before g) : e.Before g := by
  rcases first with earlier | ⟨same, rest⟩
  · rcases second with later | ⟨equal, -⟩
    · exact .inl (lt_trans earlier later)
    · exact .inl (by rw [← equal]; exact earlier)
  · rcases second with later | ⟨equal, rest'⟩
    · exact .inl (by rw [same]; exact later)
    · refine .inr ⟨same.trans equal, ?_⟩
      rcases rest with lower | ⟨level, smaller⟩
      · rcases rest' with lower' | ⟨level', -⟩
        · exact .inl (lt_trans lower lower')
        · exact .inl (by rw [← level']; exact lower)
      · rcases rest' with lower' | ⟨level', smaller'⟩
        · exact .inl (by rw [level]; exact lower')
        · exact .inr ⟨level.trans level', String.lt_trans smaller smaller'⟩

/-- The applied events came oldest first. -/
def Ordered (k : CaseKey) (db : Database) : Prop :=
  (appliedTo k db).Pairwise fun i j => ∃ f g, db.event k.merchantId i = some f ∧ db.event k.merchantId j = some g ∧ f.Before g

/-- The case stands at this event: last applied, at the watermark, and evaluated. -/
structure Latest (k : CaseKey) (event : NormalizedEvent) (db : Database) : Prop where
  stored : db.event k.merchantId event.eventId = some event
  marked : watermark k db = some event.mark
  last : (appliedTo k db).getLast? = some event.eventId
  evaluated : lastEvaluation k db = some [.event event.eventId]

def Heard (k : CaseKey) (db : Database) : Prop :=
  Ordered k db ∧ ((watermark k db = none ∧ appliedTo k db = []) ∨ ∃ event, Latest k event db)

/-- An event accepted over the watermark is newer than the event there. -/
theorem before_of_applied {row : CaseRow} (marked : row.latestEvidenceEventId = some e.eventId ∧
    row.latestEvidenceOccurredAt = some e.occurredAt) (stored : db.event event.merchantId e.eventId = some e)
    (applied : (orderForCase row event db).disposition = .applied) : e.Before event := by
  unfold orderForCase orderEvidence at applied
  rw [marked.1, marked.2] at applied
  simp only [Option.bind_some, stored, Option.map_some, Option.mem_some_iff, exists_eq_left', Option.some.injEq] at applied
  split at applied
  · cases applied
  split at applied
  · cases applied
  rename_i earlier
  split at applied
  · cases applied
  split at applied
  · cases applied
  rename_i lower
  split at applied
  · cases applied
  rename_i tied
  rcases lt_or_eq_of_le (not_lt.mp earlier) with before | same
  · exact .inl before
  · refine .inr ⟨same, ?_⟩
    rcases Nat.lt_or_ge e.rank event.rank with below | above
    · exact .inl below
    · have level : event.rank = e.rank := Nat.le_antisymm above (Nat.not_lt.mp fun less => lower ⟨same, less⟩)
      exact .inr ⟨level.symm, String.not_le.mp fun small => tied ⟨same, level, small⟩⟩

theorem pairwise_last {A : Type} {R : A → A → Prop} {xs : List A} {x : A} (pairwise : xs.Pairwise R)
    (last : xs.getLast? = some x) : ∀ y ∈ xs, y = x ∨ R y x := by
  obtain ⟨front, rfl⟩ := List.getLast?_eq_some_iff.mp last
  intro y member
  rcases List.mem_append.mp member with earlier | here
  · exact .inr ((List.pairwise_append.mp pairwise).2.2 y earlier x (List.mem_singleton_self x))
  · exact .inl (List.mem_singleton.mp here)

theorem event_append {more : List NormalizedEvent} {m id : Identifier} (events : d.events = db.events ++ more)
    (known : db.event m id = some event) : d.event m id = some event := by
  rw [Database.event, Table.lookup, events, List.find?_append]
  rw [Database.event, Table.lookup] at known
  rw [known]
  rfl

theorem event_of_events (same : d.events = db.events) (m id : Identifier) : d.event m id = db.event m id := by
  rw [Database.event, Database.event, same]

theorem Ordered.of_events (h : Ordered k db) (applied : appliedTo k d = appliedTo k db)
    (grows : ∀ {m id ev}, db.event m id = some ev → d.event m id = some ev) : Ordered k d := by
  rw [Ordered, applied]
  exact h.imp fun ⟨f, g, older, newer, before⟩ => ⟨f, g, grows older, grows newer, before⟩

theorem Heard.reported (h : Heard k db) (reported : Reported db d) : Heard k d := by
  obtain ⟨more, events⟩ := reported.events
  have applied : appliedTo k d = appliedTo k db := appliedTo_of_links reported.caseEvents k
  have marked : watermark k d = watermark k db := reported.watermark k
  refine ⟨h.1.of_events applied (event_append events), ?_⟩
  rcases h.2 with ⟨absent, nothing⟩ | ⟨event, latest⟩
  · exact .inl ⟨marked.trans absent, applied.trans nothing⟩
  · exact .inr ⟨event, event_append events latest.stored, marked.trans latest.marked, by rw [applied]; exact latest.last,
      (lastEvaluation_of_receipts reported.receipts k).trans latest.evaluated⟩

theorem Heard.undisturbed (h : Heard k db) (same : Undisturbed k db d) : Heard k d := by
  refine ⟨h.1.of_events same.applied fun known => (event_of_events same.events _ _).trans known, ?_⟩
  rcases h.2 with ⟨absent, nothing⟩ | ⟨event, latest⟩
  · exact .inl ⟨same.marked.trans absent, same.applied.trans nothing⟩
  · refine .inr ⟨event, (event_of_events same.events _ _).trans latest.stored, same.marked.trans latest.marked,
      by rw [same.applied]; exact latest.last, ?_⟩
    rcases same.evaluated with kept | ⟨ev, marked, again⟩
    · exact kept.trans latest.evaluated
    · have mark := Option.some.inj (marked.symm.trans latest.marked)
      rw [again, Option.some.inj (congrArg Prod.fst mark)]

/-- The event a call may read off a case's watermark is the one the case stands at. -/
theorem Heard.at_watermark (h : Heard k db) (keyed : Keyed db) (here : AtWatermark db k event) :
    watermark k db = some event.mark := by
  obtain ⟨row, member, key, marked, known⟩ := here
  have found : db.caseRow k = some row := by
    rw [← key]
    exact keyed.row member
  rcases h.2 with ⟨absent, -⟩ | ⟨e, latest⟩
  · rw [watermark, found] at absent
    cases absent
  · have mark := latest.marked
    rw [watermark, found, Option.map_some, marked] at mark
    have id := congrArg Prod.fst (Option.some.inj mark)
    have same : e = event := by
      have stored := latest.stored
      rw [show e.eventId = event.eventId from (Option.some.inj id).symm, known] at stored
      exact (Option.some.inj stored).symm
    rw [← same]
    exact latest.marked

/-- A command that brings the case no evidence of its own keeps what it heard. -/
theorem Heard.unrelated (h : Heard k db) (hears : ∀ event, c.hears db k event → watermark k db = some event.mark)
    (links : ∀ link, c.links db link → link.key = some k → link.disposition ≠ .applied) : Heard k (exec rt c db) := by
  rcases exec_writes rt c db with writes | reported
  · exact h.undisturbed (writes.undisturbed hears links)
  · exact h.reported reported

/-- The event handed on is newer than all the case has heard, and is evaluated at once. -/
theorem Heard.handed {routed : Routed} (h : Heard k db)
    (owner : event.merchantId = k.merchantId) (known : db.event k.merchantId event.eventId = some event)
    (order : InOrder k event db) (handed : HandedOn k event routed db d) (evaluated : EvaluatedWith k event d db') :
    Heard k db' := by
  obtain ⟨reason, links⟩ := handed.links
  have events : db'.events = db.events := evaluated.events.trans handed.events
  have applied : appliedTo k db' = appliedTo k db ++ [event.eventId] := by
    rw [appliedTo_of_links evaluated.links, appliedTo_link links, if_pos ⟨by rw [CaseEventRow.key, owner]; rfl, rfl⟩]
  have older : ∀ i ∈ appliedTo k db, ∃ f, db.event k.merchantId i = some f ∧ f.Before event := by
    rcases h.2 with ⟨-, nothing⟩ | ⟨e, latest⟩
    · rw [nothing]
      exact List.forall_mem_nil _
    · have newer : e.Before event := by
        rcases order with absent | ⟨row, found, accepted⟩
        · have marked := latest.marked
          rw [watermark, absent] at marked
          cases marked
        · have marked := latest.marked
          rw [watermark, found] at marked
          have mark := Option.some.inj marked
          exact before_of_applied ⟨congrArg Prod.fst mark, congrArg Prod.snd mark⟩ (by rw [owner]; exact latest.stored) accepted
      intro i member
      rcases pairwise_last h.1 latest.last i member with same | ⟨f, e', known', stored, before⟩
      · exact ⟨e, by rw [same]; exact latest.stored, newer⟩
      · rw [latest.stored] at stored
        cases stored
        exact ⟨f, known', before.trans newer⟩
  refine ⟨?_, .inr ⟨event, (event_of_events events _ _).trans known, evaluated.watermark, by rw [applied]; simp,
    evaluated.evaluated⟩⟩
  rw [Ordered, applied, List.pairwise_append]
  refine ⟨(h.1.of_events (d := { db with events := db'.events }) rfl fun known => ?_), List.pairwise_singleton _ _,
    fun i member j here => ?_⟩
  · exact (event_of_events events _ _).trans known
  · obtain ⟨f, stored, before⟩ := older i member
    rw [List.mem_singleton.mp here]
    exact ⟨f, event, (event_of_events events _ _).trans stored, (event_of_events events _ _).trans known, before⟩

def Command.Heeds : Command → Database → Prop
  | .processEvent _ m eventId _ _, db => EventHeeded m eventId db
  | _, _ => True

instance (c : Command) (db : Database) : Decidable (c.Heeds db) :=
  match c with
  | .processEvent .. => by unfold Command.Heeds; infer_instance
  | .registerMerchant .. | .upsertCustomer .. | .upsertPayment .. | .upsertSubscription ..
  | .persistNormalizedEvent .. | .putMerchantRow .. | .publishPolicy .. | .applyDegradationAssessment ..
  | .reevaluateDeferred .. | .decideReview .. | .closeExpiredCustomerInterventions .. | .recordOverdueInvoice ..
  | .recordCustomerResponse .. | .scheduleDuePromiseReminders .. | .escalateBrokenPromises .. | .claimDueActions ..
  | .prepareExecution .. | .recordExecutionResult .. | .markStaleCallsUnknown .. | .recordLookup ..
  | .verifySignedEvent .. => isTrue trivial

theorem heard_processEvent {inputs : EvaluationInputs} {m eventId caseId : Identifier} {t : Instant} (keyed : Keyed db)
    (heeded : EventHeeded m eventId db) (h : Heard k db) : Heard k (exec rt (.processEvent inputs m eventId caseId t) db) := by
  by_cases here : k = eventCase m eventId caseId db
  · cases ran : (processEvent rt inputs m eventId caseId t).run db with
    | error failure =>
      rw [exec, Tx.commit_of_error ran]
      exact h
    | ok result =>
      obtain ⟨res, db'⟩ := result
      rw [exec, Tx.commit_of_ok ran]
      obtain ⟨routed, d, route, finish⟩ := Tx.bind_ok ran
      rcases routeEvent_heeded keyed heeded route with passed | ⟨event, known, handed, order⟩
      · obtain ⟨result, rfl⟩ := passed.done
        obtain ⟨-, rfl⟩ := Tx.pure_ok finish
        exact h.undisturbed ⟨watermark_of_cases passed.cases k, passed.applied k,
          .inl (lastEvaluation_of_receipts passed.receipts k), passed.events⟩
      · obtain ⟨r, rfl, heard, target, snap⟩ := handed.request
        have evaluated := evaluateCase_marks snap finish
        rw [heard, target] at evaluated
        rw [← here] at handed evaluated order
        obtain ⟨owner, id⟩ := event_merchant known
        have merchant : k.merchantId = m := by rw [here, eventCase_merchant]
        exact h.handed (by rw [owner, merchant]) (by rw [merchant, id]; exact known) order handed evaluated
  · refine h.unrelated (fun event heard => absurd heard.2 here) fun link told mine => ?_
    rcases told.2 with nobody | target
    · rw [nobody] at mine
      cases mine
    · rw [target] at mine
      exact absurd (Option.some.inj mine).symm here

theorem heard_step (keyed : Keyed db) (heeds : c.Heeds db) (h : Heard k db) : Heard k (exec rt c db) := by
  cases c with
  | processEvent inputs m eventId caseId t => exact heard_processEvent keyed heeds h
  | _ => exact h.unrelated (fun event here => h.at_watermark keyed here) fun link told => by cases told

theorem heard_invariant (reach : ReachableUnder rt (fun c db => c.Heeds db) db) (k : CaseKey) : Heard k db := by
  have both := Runs.Reaches.invariant (fun db => Reachable rt db ∧ Heard k db) reach
    ⟨.start, List.Pairwise.nil, .inl ⟨rfl, rfl⟩⟩ fun c db before heeds =>
      ⟨.step c before.1 trivial, heard_step before.1.under.keyed heeds before.2⟩
  exact both.2

/-- The case's watermark is the newest event applied to it, and its last evaluation rested on that event. -/
structure AtNewest (db : Database) (row : CaseRow) (event : NormalizedEvent) : Prop where
  eventId : row.latestEvidenceEventId = some event.eventId
  occurredAt : row.latestEvidenceOccurredAt = some event.occurredAt
  applied : event.eventId ∈ appliedTo row.key db
  newest : ∀ i ∈ appliedTo row.key db, ∃ f, db.event row.case.merchantId i = some f ∧ (f = event ∨ f.Before event)
  evaluated : lastEvaluation row.key db = some [.event event.eventId]

theorem watermark_newest (reach : ReachableUnder rt (fun c db => c.Heeds db) db) :
    ∀ row ∈ db.cases, (∃ event, AtNewest db row event) ∧ Ordered row.key db := by
  intro row member
  have found : db.caseRow row.key = some row := reach.reachable.under.keyed.row member
  obtain ⟨ordered, ⟨absent, -⟩ | ⟨event, latest⟩⟩ := heard_invariant reach row.key
  · rw [watermark, found] at absent
    cases absent
  · have marked := latest.marked
    rw [watermark, found] at marked
    have mark := Option.some.inj marked
    refine ⟨⟨event, congrArg Prod.fst mark, congrArg Prod.snd mark, List.mem_of_getLast? latest.last, fun i applied => ?_,
      latest.evaluated⟩, ordered⟩
    rcases pairwise_last ordered latest.last i applied with same | ⟨f, e, known, stored, before⟩
    · exact ⟨event, by rw [same]; exact latest.stored, .inl rfl⟩
    · rw [latest.stored] at stored
      cases stored
      exact ⟨f, known, .inr before⟩

/-- A second failure arrives while the payment link of the first waits for its worker. -/
def failedAgain : List Command :=
  linkAuthorized linksOnly ++ ingested (expiredCard (ident "event-2") (ident "pay-1") 35) ++
    [.processEvent (drawn "receipt-2") acme (ident "event-2") (ident "case-2") 40]

set_option maxRecDepth 100000 in
theorem watermark_newest_first : ∃ row ∈ (execAll {} (linkAuthorized linksOnly) {}).cases, row.case.state = .ready ∧
    ∃ event, AtNewest (execAll {} (linkAuthorized linksOnly) {}) row event := by
  have stored : ∃ row ∈ (execAll {} (linkAuthorized linksOnly) {}).cases, row.case.state = .ready := by decide +kernel
  obtain ⟨row, member, ready⟩ := stored
  exact ⟨row, member, ready, (watermark_newest (Runs.reaches_allowed (by decide +kernel)) row member).1⟩

set_option maxRecDepth 100000 in
theorem watermark_behind : ¬ ∀ (rt : Runtime) (db : Database), Reachable rt db → ∀ row ∈ db.cases,
    ¬ row.case.state.Terminal → ∃ event, AtNewest db row event := by
  intro kept
  have stored : ∃ row ∈ (execAll {} failedAgain {}).cases, row.key = case1 ∧ ¬ row.case.state.Terminal ∧
      row.latestEvidenceOccurredAt = some 5 := by decide +kernel
  obtain ⟨row, member, here, live, written⟩ := stored
  obtain ⟨event, newest⟩ := kept {} _ (reachable_execAll {} failedAgain) row member live
  have applied : ident "event-2" ∈ appliedTo case1 (execAll {} failedAgain {}) := by decide +kernel
  have second : ((execAll {} failedAgain {}).event acme (ident "event-2")).map (·.occurredAt) = some 35 := by decide +kernel
  have merchant : row.case.merchantId = acme := congrArg CaseKey.merchantId here
  have first : event.occurredAt = 5 := Option.some.inj (newest.occurredAt.symm.trans written)
  obtain ⟨f, known, order⟩ := newest.newest _ (by rw [here]; exact applied)
  rw [merchant] at known
  rw [known, Option.map_some, Option.some.injEq] at second
  rcases order with rfl | earlier | ⟨same, -⟩
  · exact absurd (second.symm.trans first) (by decide)
  · rw [second, first] at earlier
    exact absurd earlier (by decide)
  · exact absurd (second.symm.trans (same.trans first)) (by decide)

end RevenueGuard
