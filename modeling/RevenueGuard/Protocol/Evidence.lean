import RevenueGuard.Protocol.Ledger

/-
What a case has heard: the links of its applied events, its watermark and the
receipts of its evaluations. Only process_event links evidence, and an evaluation
leaves its event at the watermark and on its receipt.
-/
namespace RevenueGuard

variable {w : Writer} {rt : Runtime} {db db' d e : Database} {k : CaseKey} {case updated : RecoveryCase} {t : Instant}
  {event : NormalizedEvent} {inputs : EvaluationInputs} {r : EvaluationRequest} {a : Assessment} {routed : Routed}

instance (r : ReceiptRow) : Decidable r.Evaluation := by
  unfold ReceiptRow.Evaluation
  split <;> infer_instance

/-- The events applied to a case, in the order they were linked. -/
def appliedTo (k : CaseKey) (db : Database) : List Identifier :=
  (db.caseEvents.filter fun l => decide (l.key = some k ∧ l.disposition = .applied)).map (·.normalizedEventId)

/-- What the case's most recent evaluation rested on. -/
def lastEvaluation (k : CaseKey) (db : Database) : Option (List EvidenceReference) :=
  (db.receipts.filter fun r => decide (r.key = k ∧ r.Evaluation)).getLast?.map (·.evidenceReferences)

/-- The case's watermark, if there is such a case. -/
def watermark (k : CaseKey) (db : Database) : Option (Option Identifier × Option Instant) :=
  (db.caseRow k).map fun r => (r.latestEvidenceEventId, r.latestEvidenceOccurredAt)

def NormalizedEvent.mark (event : NormalizedEvent) : Option Identifier × Option Instant :=
  (some event.eventId, some event.occurredAt)

theorem appliedTo_of_links (same : db'.caseEvents = db.caseEvents) (k : CaseKey) : appliedTo k db' = appliedTo k db := by
  rw [appliedTo, appliedTo, same]

theorem lastEvaluation_of_receipts (same : db'.receipts = db.receipts) (k : CaseKey) :
    lastEvaluation k db' = lastEvaluation k db := by
  rw [lastEvaluation, lastEvaluation, same]

theorem watermark_of_cases (same : db'.cases = db.cases) (k : CaseKey) : watermark k db' = watermark k db := by
  rw [watermark, watermark, caseRow_of_cases same]

theorem appliedTo_link {link : CaseEventRow} (links : db'.caseEvents = db.caseEvents ++ [link]) (k : CaseKey) :
    appliedTo k db' = appliedTo k db ++
      if link.key = some k ∧ link.disposition = .applied then [link.normalizedEventId] else [] := by
  rw [appliedTo, appliedTo, links, List.filter_append, List.map_append]
  congr 1
  by_cases here : link.key = some k ∧ link.disposition = .applied <;> simp [here]

theorem lastEvaluation_receipt {receipt : ReceiptRow} (receipts : db'.receipts = db.receipts ++ [receipt]) (k : CaseKey) :
    lastEvaluation k db' =
      if receipt.key = k ∧ receipt.Evaluation then some receipt.evidenceReferences else lastEvaluation k db := by
  rw [lastEvaluation, lastEvaluation, receipts, List.filter_append]
  by_cases here : receipt.key = k ∧ receipt.Evaluation <;> simp [here]

/-- A transition puts its event, if any, at the case's watermark. -/
theorem recoveryTransition_watermark {change : Transition} {ev : Option NormalizedEvent} {retry : Bool}
    {o : Option Diagnosis} (snap : Snap case db)
    (h : (recoveryTransition case change o ev retry).run db = .ok (updated, db')) :
    watermark case.key db' = (ev.map NormalizedEvent.mark).or (watermark case.key db) := by
  obtain ⟨rfl, -, rfl⟩ := recoveryTransition_ran h
  obtain ⟨row, found, -⟩ := snap
  rw [watermark, lookup_written (keepsKey_apply _ _ ev) rfl, if_pos rfl, found, watermark, found]
  cases ev <;> rfl

theorem recoveryTransition_silent {change : Transition} {ev : Option NormalizedEvent} {retry : Bool}
    {o : Option Diagnosis} (h : (recoveryTransition case change o ev retry).run db = .ok (updated, db')) : Silent db db' := by
  obtain ⟨-, -, rfl⟩ := recoveryTransition_ran h
  exact ⟨rfl, rfl, ⟨rfl, rfl⟩⟩

theorem attachIncidents_watermark (key : CaseKey) (t : Instant) (code : Option Identifier) (k : CaseKey) (db : Database) :
    watermark k (attachIncidents key t code db) = watermark k db := by
  unfold attachIncidents
  split
  · rfl
  · rename_i first _
    have touches := attachTo_touched key first
    rw [watermark, lookup_touched (fun row => (touches row).stamped) rfl, watermark, Option.map_map]
    refine congrArg (fun f => Option.map f (db.caseRow k)) (funext fun row => ?_)
    exact Prod.ext (touches row).eventId (touches row).occurredAt

theorem attachIncidents_silent (key : CaseKey) (t : Instant) (code : Option Identifier) (db : Database) :
    Silent db (attachIncidents key t code db) := by
  unfold attachIncidents
  split <;> exact ⟨rfl, rfl, ⟨rfl, rfl⟩⟩

section evaluation

variable {res : RecoveryServiceResult}

theorem assessCase_marks (snap : Snap r.case db) (h : (assessCase rt inputs r).run db = .ok (a, db')) :
    watermark r.case.key db' = some r.event.mark ∧ Silent db db' ∧ Snap a.checking db' ∧ a.checking.key = r.case.key := by
  cases assessCase_ok h with
  | ran checking d1 contact candidates consent unknownEquivalent moved facts noted listed types decided =>
    have marked := recoveryTransition_watermark snap moved
    have silent := recoveryTransition_silent moved
    obtain ⟨_, -, moved⟩ := recoveryTransition_wrote (w := ⟨r.evaluatedAt, True, fun _ _ => True, fun _ => True⟩) snap rfl
      (fun _ _ => trivial) (fun counts => by cases counts) moved
    have quiet := contactFacts_quiet r _ _ _ facts
    have attached := (moved.trans (attachIncidents_wrote (w := ⟨r.evaluatedAt, True, fun _ _ => True, fun _ => True⟩)
      r.case.key r.evaluatedAt (some (adviseCase rt inputs r).code) moved.snap)).quiet quiet
    obtain ⟨incident, noted⟩ := noted
    have kept : a.checking.ledger = checking.ledger := by rw [noted]; rfl
    refine ⟨?_, (silent.trans (attachIncidents_silent _ _ _ _)).trans quiet.silent, attached.snap.congr kept,
      (key_of_ledger kept).trans attached.key⟩
    rw [watermark_of_cases quiet.cases, attachIncidents_watermark, marked]
    rfl

theorem decideCase_marks (snap : Snap a.checking db) (key : a.checking.key = r.case.key)
    (h : (decideCase rt inputs r a).run db = .ok (res, db')) :
    watermark r.case.key db' = watermark r.case.key db ∧ db'.caseEvents = db.caseEvents ∧ db'.events = db.events ∧
      lastEvaluation r.case.key db' = some [.event r.event.eventId] := by
  obtain ⟨_, d1, reviewed, h⟩ := Tx.bind_ok h
  have quiet := storeReviewIfAny_quiet _ _ _ _ reviewed
  obtain ⟨decided, d2, transition, h⟩ := Tx.bind_ok h
  have marked := recoveryTransition_watermark (snap.quiet quiet) transition
  have silent := quiet.silent.trans (recoveryTransition_silent transition)
  obtain ⟨_, d3, receipted, h⟩ := Tx.bind_ok h
  have written := storeReceipt_ran receipted
  obtain ⟨_, d4, acted, h⟩ := Tx.bind_ok h
  have acted := storeActionIfAny_quiet _ _ _ _ _ _ acted
  obtain ⟨-, rfl⟩ := Tx.pure_ok h
  have cases : d4.cases = d2.cases := acted.cases.trans (by rw [written])
  have links : d4.caseEvents = d2.caseEvents := acted.silent.links.trans (by rw [written])
  have events : d4.events = d2.events := acted.fixed.events.trans (by rw [written])
  refine ⟨?_, links.trans silent.links, events.trans silent.fixed.events, ?_⟩
  · rw [key] at marked
    rw [watermark_of_cases cases, marked, watermark_of_cases quiet.cases]
    rfl
  · rw [lastEvaluation_of_receipts acted.silent.receipts, written, lastEvaluation_receipt rfl, if_pos ⟨rfl, trivial⟩]

/-- What an evaluation leaves of its event. -/
structure EvaluatedWith (key : CaseKey) (event : NormalizedEvent) (db db' : Database) : Prop where
  watermark : watermark key db' = some event.mark
  links : db'.caseEvents = db.caseEvents
  events : db'.events = db.events
  evaluated : lastEvaluation key db' = some [.event event.eventId]

theorem evaluateCase_marks (snap : Snap r.case db) (h : (evaluateCase rt inputs r).run db = .ok (res, db')) :
    EvaluatedWith r.case.key r.event db db' := by
  obtain ⟨a, d, assess, decide⟩ := Tx.bind_ok h
  obtain ⟨marked, silent, checking, key⟩ := assessCase_marks snap assess
  obtain ⟨kept, links, events, evaluated⟩ := decideCase_marks checking key decide
  exact ⟨kept.trans marked, links.trans silent.links, events.trans silent.fixed.events, evaluated⟩

end evaluation

section undisturbed

/-- Of the case nothing was heard since: at most an evaluation of its watermark was put down. -/
structure Undisturbed (k : CaseKey) (db d : Database) : Prop where
  marked : watermark k d = watermark k db
  applied : appliedTo k d = appliedTo k db
  evaluated : lastEvaluation k d = lastEvaluation k db ∨
    ∃ event : NormalizedEvent, watermark k db = some event.mark ∧ lastEvaluation k d = some [.event event.eventId]
  events : d.events = db.events

theorem Undisturbed.refl (k : CaseKey) (db : Database) : Undisturbed k db db := ⟨rfl, rfl, .inl rfl, rfl⟩

theorem CaseStep.watermark {found found' : Option CaseRow} {ts : List CaseTransition} (h : CaseStep w d k found found' ts) :
    found'.map (fun r => (r.latestEvidenceEventId, r.latestEvidenceOccurredAt)) =
        found.map (fun r => (r.latestEvidenceEventId, r.latestEvidenceOccurredAt)) ∨
      ∃ event, w.hears k event ∧
        found'.map (fun r => (r.latestEvidenceEventId, r.latestEvidenceOccurredAt)) = some event.mark := by
  cases h with
  | absent => exact .inl rfl
  | created row event here fresh heard eventId occurredAt =>
    exact .inr ⟨event, heard, congrArg some (Prod.ext eventId occurredAt)⟩
  | kept row row' stamped => exact .inl (congrArg some (Prod.ext stamped.eventId stamped.occurredAt))
  | moved row row' t e retry legal instant heard below ledger marked =>
    cases e with
    | none => exact .inl (congrArg some (Prod.ext marked.eventId marked.occurredAt))
    | some event => exact .inr ⟨event, heard event rfl, congrArg some (Prod.ext marked.eventId marked.occurredAt)⟩
  | counted row row' retry contact one timely retries contacts ledger marked =>
    exact .inl (congrArg some (Prod.ext marked.eventId marked.occurredAt))

theorem CaseWrite.links (h : CaseWrite w d e) : e.caseEvents = d.caseEvents ∨
    ∃ link, w.links link ∧ e.caseEvents = d.caseEvents ++ [link] := by
  cases h with
  | quiet same => exact .inl same.silent.links
  | touched _ _ _ _ _ silent => exact .inl silent.links
  | created _ _ _ _ _ _ _ _ _ silent => exact .inl silent.links
  | moved _ _ _ _ _ _ _ _ _ _ _ _ silent => exact .inl silent.links
  | counted _ _ _ _ _ _ _ _ _ _ silent => exact .inl silent.links
  | linked link told _ _ links => exact .inr ⟨link, told, links⟩
  | receipted _ _ _ _ links => exact .inl links

theorem CaseWrite.receipts (h : CaseWrite w d e) : e.receipts = d.receipts ∨
    ∃ receipt : ReceiptRow, (receipt.Evaluation → ∃ event, w.hears receipt.key event ∧
      receipt.evidenceReferences = [.event event.eventId]) ∧ e.receipts = d.receipts ++ [receipt] := by
  cases h with
  | quiet same => exact .inl same.silent.receipts
  | touched _ _ _ _ _ silent => exact .inl silent.receipts
  | created _ _ _ _ _ _ _ _ _ silent => exact .inl silent.receipts
  | moved _ _ _ _ _ _ _ _ _ _ _ _ silent => exact .inl silent.receipts
  | counted _ _ _ _ _ _ _ _ _ _ silent => exact .inl silent.receipts
  | linked _ _ _ _ _ receipts => exact .inl receipts
  | receipted receipt told _ _ _ receipts => exact .inr ⟨receipt, told, receipts⟩

/-- A call that brings the case no evidence but its own watermark leaves it undisturbed. -/
theorem Writes.undisturbed (h : Writes w db d) (hears : ∀ event, w.hears k event → watermark k db = some event.mark)
    (links : ∀ link, w.links link → link.key = some k → link.disposition ≠ .applied) : Undisturbed k db d := by
  refine h.keeps (Undisturbed k db) (.refl k db) fun {d e} write before => ?_
  obtain ⟨ts, -, step⟩ := write.caseStep k
  refine ⟨?_, ?_, ?_, write.fixed.events.trans before.events⟩
  · rcases step.watermark with same | ⟨event, heard, marked⟩
    · exact Eq.trans same before.marked
    · exact Eq.trans marked (hears event heard).symm
  · rcases write.links with same | ⟨link, told, linked⟩
    · rw [appliedTo_of_links same]
      exact before.applied
    · rw [appliedTo_link linked, before.applied, if_neg fun applied => links link told applied.1 applied.2, List.append_nil]
  · rcases write.receipts with same | ⟨receipt, told, receipted⟩
    · rw [lastEvaluation_of_receipts same]
      exact before.evaluated
    · rw [lastEvaluation_receipt receipted]
      by_cases mine : receipt.key = k ∧ receipt.Evaluation
      · obtain ⟨event, heard, rests⟩ := told mine.2
        rw [mine.1] at heard
        rw [if_pos mine, rests]
        exact .inr ⟨event, hears event heard, rfl⟩
      · rw [if_neg mine]
        exact before.evaluated

theorem Reported.watermark (h : Reported db d) (k : CaseKey) : watermark k d = watermark k db := watermark_of_cases h.cases k

end undisturbed

section routing

variable {m eventId caseId : Identifier} {diagnosis : Diagnosis} {policy : MerchantPolicySnapshot}

/-- Routing that applies nothing and hands nothing on. -/
structure PassedOver (routed : Routed) (db d : Database) : Prop where
  cases : d.cases = db.cases
  receipts : d.receipts = db.receipts
  events : d.events = db.events
  applied : ∀ k, appliedTo k d = appliedTo k db
  done : ∃ result, routed = .done result

/-- Routing that applies the event to its case and hands the case on to evaluation. -/
structure HandedOn (target : CaseKey) (event : NormalizedEvent) (routed : Routed) (db d : Database) : Prop where
  fresh : Table.lookup CaseEventRow.id (event.merchantId, event.eventId) db.caseEvents = none
  links : ∃ reason, d.caseEvents = db.caseEvents ++ [⟨event.merchantId, some target.caseId, event.eventId, .applied, reason⟩]
  receipts : d.receipts = db.receipts
  events : d.events = db.events
  request : ∃ r, routed = .evaluate r ∧ r.event = event ∧ r.case.key = target ∧ Snap r.case d

theorem linkAuditOnly_passed {row : Option CaseRow} {reason : String}
    (h : (linkAuditOnly event row reason).run db = .ok (routed, d)) : PassedOver routed db d := by
  obtain ⟨link, d1, linking, h⟩ := Tx.bind_ok h
  obtain ⟨rfl, rfl⟩ := Tx.pure_ok h
  rcases linkEvidence_ran linking with ⟨-, -, rfl⟩ | ⟨-, -, rfl⟩
  · exact ⟨rfl, rfl, rfl, fun _ => rfl, _, rfl⟩
  · refine ⟨rfl, rfl, rfl, fun k => ?_, _, rfl⟩
    rw [appliedTo_link rfl, if_neg (fun applied => by cases applied.2), List.append_nil]

theorem advance_silent {pending : RecoveryCase}
    (h : (advanceToDecisionPending case diagnosis event policy t).run db = .ok (pending, db')) : Silent db db' := by
  unfold advanceToDecisionPending at h
  dsimp only at h
  rw [Tx.ite_bind] at h
  obtain ⟨started, d1, start, h⟩ := Tx.bind_ok h
  have begun : Silent db d1 := by
    split at start
    · exact recoveryTransition_silent start
    · obtain ⟨-, rfl⟩ := Tx.pure_ok start
      exact .refl db
  split at h
  · exact begun.trans (recoveryTransition_silent h)
  · exact begun.trans (recoveryTransition_silent h)
  · obtain ⟨-, rfl⟩ := Tx.pure_ok h
    exact begun
  · obtain ⟨-, rfl⟩ := Tx.pure_ok h
    exact begun

/-- A case in a state that new evidence advances is handed on. -/
theorem proceed_handed (snap : Snap case db) (state : case.state ∈ evaluableStates)
    (h : (proceedToEvaluation case diagnosis event policy t).run db = .ok (routed, db')) :
    Silent db db' ∧ ∃ r, routed = .evaluate r ∧ r.event = event ∧ r.case.key = case.key ∧ Snap r.case db' := by
  obtain ⟨pending, d1, advance, h⟩ := Tx.bind_ok h
  have silent := advance_silent advance
  obtain ⟨row, found, ledger⟩ := snap
  have tracked : Tracks case db := ⟨row, found, congrArg CaseLedger.anchor ledger, congrArg CaseLedger.state ledger⟩
  have wrote := advance_wrote (w := ⟨t, True, fun _ _ => True, fun _ => True⟩) ⟨row, found, ledger⟩ rfl trivial advance
  rcases advance_effect tracked advance with ⟨-, advanced, -⟩ | ⟨stuck, -⟩
  · rw [if_neg (by simp [advanced])] at h
    obtain ⟨rfl, rfl⟩ := Tx.pure_ok h
    exact ⟨silent, _, rfl, rfl, wrote.key, wrote.snap⟩
  · exact absurd state stuck

/-- The event is applied only to a case that is decided at once, and opens a case only while it is new. -/
def EventHeeded (m eventId : Identifier) (db : Database) : Prop :=
  ∀ event ∈ db.event m eventId, ∀ identity ∈ selectCaseIdentity event, ∀ _ ∈ diagnoseEvent event,
    ((findActiveCase m identity db).or (findEpisodeCase m identity db) = none →
      Table.lookup CaseEventRow.id (m, eventId) db.caseEvents = none) ∧
    ∀ row ∈ (findActiveCase m identity db).or (findEpisodeCase m identity db),
      NewEvidence event row db → row.case.state ∈ evaluableStates

instance (m eventId : Identifier) (db : Database) : Decidable (EventHeeded m eventId db) := by
  unfold EventHeeded
  infer_instance

/-- An event is in order for its case if the case is new or accepts it over its watermark. -/
def InOrder (target : CaseKey) (event : NormalizedEvent) (db : Database) : Prop :=
  db.caseRow target = none ∨ ∃ row, db.caseRow target = some row ∧ (orderForCase row event db).disposition = .applied

theorem openCase_handed {identity : CaseIdentity}
    (fresh : Table.lookup CaseEventRow.id (event.merchantId, event.eventId) db.caseEvents = none)
    (h : (openCase caseId identity diagnosis event policy t).run db = .ok (routed, d)) :
    HandedOn ⟨event.merchantId, caseId⟩ event routed db d ∧ db.caseRow ⟨event.merchantId, caseId⟩ = none := by
  obtain ⟨_, d1, created, h⟩ := Tx.bind_ok h
  obtain ⟨⟨absent, -, -, -⟩, rfl⟩ := createCase_ok created
  have snap : Snap (newCase caseId identity event t).case { db with cases := db.cases ++ [newCase caseId identity event t] } :=
    ⟨newCase caseId identity event t, Table.lookup_append_new absent, rfl⟩
  obtain ⟨link, d2, linking, h⟩ := Tx.bind_ok h
  rcases linkEvidence_ran linking with ⟨-, found, -⟩ | ⟨rfl, -, linked⟩
  · have impossible := fresh.symm.trans found
    cases impossible
  · rw [if_pos rfl] at h
    have current : Snap (newCase caseId identity event t).case d2 := snap.of_cases (by rw [linked])
    obtain ⟨silent, handed⟩ := proceed_handed current (by simp [newCase, evaluableStates]) h
    rw [linked] at silent
    exact ⟨⟨fresh, ⟨_, silent.links⟩, silent.receipts, silent.fixed.events, handed⟩, absent⟩

theorem updateCase_handed {row : CaseRow} (found : db.caseRow row.key = some row)
    (evaluable : NewEvidence event row db → row.case.state ∈ evaluableStates) (live : ¬ row.case.state.Terminal)
    (h : (updateCase row diagnosis event policy t).run db = .ok (routed, d)) :
    PassedOver routed db d ∨ HandedOn row.key event routed db d ∧ (orderForCase row event db).disposition = .applied := by
  obtain ⟨_, _, read, h⟩ := Tx.bind_ok h
  obtain ⟨rfl, rfl⟩ := Tx.read_ok read
  obtain ⟨link, d1, linking, h⟩ := Tx.bind_ok h
  rcases linkEvidence_ran linking with ⟨old, -, rfl⟩ | ⟨rfl, new, rfl⟩
  · rw [if_pos (by simp [old])] at h
    obtain ⟨rfl, rfl⟩ := Tx.pure_ok h
    exact .inl ⟨rfl, rfl, rfl, fun _ => rfl, _, rfl⟩
  rw [if_neg (by simp)] at h
  by_cases applied : (orderForCase row event db).disposition = .applied
  · rw [if_neg (by simp [applied])] at h
    obtain ⟨case, _, required, h⟩ := Tx.bind_ok h
    obtain ⟨stored, rfl⟩ := requireCase_effect required
    obtain ⟨key, snap⟩ := snap_caseOf stored
    have same : case = row.case := by
      have here : Database.caseOf db row.key = some row.case := by
        rw [Database.caseOf, found]
        rfl
      exact Option.some.inj (stored.symm.trans here)
    have state := evaluable ⟨live, applied, new⟩
    rw [← same] at state
    obtain ⟨silent, r, rfl, heard, mine, current⟩ := proceed_handed snap state h
    have target : (⟨event.merchantId, some row.case.caseId, event.eventId, .applied,
        (orderForCase row event db).reasonCode⟩ : CaseEventRow) =
        ⟨event.merchantId, some row.case.caseId, event.eventId, (orderForCase row event db).disposition,
          (orderForCase row event db).reasonCode⟩ := by rw [applied]
    exact .inr ⟨⟨new, ⟨_, by rw [silent.links, ← target]; rfl⟩, silent.receipts, silent.fixed.events, r, rfl, heard,
      mine.trans key, current⟩, applied⟩
  · rw [if_pos applied] at h
    obtain ⟨rfl, rfl⟩ := Tx.pure_ok h
    refine .inl ⟨rfl, rfl, rfl, fun k => ?_, _, rfl⟩
    rw [appliedTo_link rfl, if_neg (fun both => applied both.2), List.append_nil]

theorem routeEvent_heeded (keyed : Keyed db) (heeded : EventHeeded m eventId db)
    (h : (routeEvent m eventId caseId t).run db = .ok (routed, d)) : PassedOver routed db d ∨
      ∃ event, db.event m eventId = some event ∧ HandedOn (eventCase m eventId caseId db) event routed db d ∧
        InOrder (eventCase m eventId caseId db) event db := by
  obtain ⟨-, event, _, known, route, h⟩ := routeEvent_route h
  obtain ⟨owner, id⟩ := event_merchant known
  cases route with
  | unsupported unidentified => exact .inl (linkAuditOnly_passed h)
  | undiagnosed identity identified undiagnosed => exact .inl (linkAuditOnly_passed h)
  | ended identity diagnosis row identified diagnosed selected terminated => exact .inl (linkAuditOnly_passed h)
  | opened identity diagnosis policy identified diagnosed unknown force =>
    have here : eventCase m eventId caseId db = ⟨m, caseId⟩ := by
      rw [eventCase_identified known identified, unknown]
      rfl
    have fresh := (heeded event known identity identified diagnosis diagnosed).1 unknown
    rw [← owner, ← id] at fresh
    obtain ⟨handed, absent⟩ := openCase_handed fresh h
    rw [owner] at handed absent
    exact .inr ⟨event, known, by rw [here]; exact handed, .inl (by rw [here]; exact absent)⟩
  | updated identity diagnosis policy row identified diagnosed selected live force =>
    have here : eventCase m eventId caseId db = row.key := by
      rw [eventCase_identified known identified, selected]
      rfl
    have stored : db.caseRow row.key = some row := keyed.row (selected_mem selected).1
    have evaluable := (heeded event known identity identified diagnosis diagnosed).2 row selected
    rcases updateCase_handed stored evaluable live h with passed | ⟨handed, applied⟩
    · exact .inl passed
    · exact .inr ⟨event, known, by rw [here]; exact handed, .inr ⟨row, by rw [here]; exact stored, applied⟩⟩

end routing

end RevenueGuard
