import RevenueGuard.Protocol.Writers

/-
A write as one case sees it: its row and its stored transitions before and after.
-/
namespace RevenueGuard

variable {w : Writer} {db db' : Database} {k : CaseKey} {case : RecoveryCase} {row : CaseRow}

def CaseTransition.key (t : CaseTransition) : CaseKey := ⟨t.merchantId, t.caseId⟩

/-- The stored transitions of a case, oldest first. -/
def history (k : CaseKey) (db : Database) : List CaseTransition := Table.select CaseTransition.key k db.transitions

/-- Evidence moves the watermark, anything else leaves it. -/
structure CaseRow.Marked (row row' : CaseRow) (e : Option NormalizedEvent) : Prop where
  episode : row'.recoveryEpisodeKey = row.recoveryEpisodeKey
  eventId : row'.latestEvidenceEventId = (e.map (·.eventId)).or row.latestEvidenceEventId
  occurredAt : row'.latestEvidenceOccurredAt = (e.map (·.occurredAt)).or row.latestEvidenceOccurredAt

inductive CaseStep (w : Writer) (db : Database) (k : CaseKey) :
    Option CaseRow → Option CaseRow → List CaseTransition → Prop
  | absent : CaseStep w db k none none []
  | created (row : CaseRow) (event : NormalizedEvent) (here : row.key = k) (fresh : row.Fresh) (heard : w.hears k event)
      (eventId : row.latestEvidenceEventId = some event.eventId)
      (occurredAt : row.latestEvidenceOccurredAt = some event.occurredAt) : CaseStep w db k none (some row) []
  | kept (row row' : CaseRow) (stamped : row.Stamped row') (punctual : w.timely → row.Punctual w.now row') :
      CaseStep w db k (some row) (some row') []
  | moved (row row' : CaseRow) (t : Transition) (e : Option NormalizedEvent) (retry : Bool) (legal : t.Legal row.case)
      (instant : t.occurredAt = w.now) (heard : ∀ event ∈ e, w.hears k event)
      (below : retry = true → RetriesLeft row.case w.now db)
      (ledger : row'.case.ledger = ⟨row.case.anchor, t.toState, row.case.stateVersion + 1,
        row.case.retryCount + (if retry then 1 else 0), row.case.contactCount, t.occurredAt, t.terminalReason⟩)
      (marked : row.Marked row' e) : CaseStep w db k (some row) (some row') [row.case.transition t]
  | counted (row row' : CaseRow) (retry contact : Nat) (one : retry + contact = 1)
      (timely : w.timely → row.case.updatedAt ≤ w.now) (retries : retry = 1 → RetriesLeft row.case w.now db)
      (contacts : contact = 1 → ContactsLeft row.case w.now db)
      (ledger : row'.case.ledger = ⟨row.case.anchor, row.case.state, row.case.stateVersion,
        row.case.retryCount + retry, row.case.contactCount + contact, w.now, row.case.terminalReason⟩)
      (marked : row.Marked row' none) : CaseStep w db k (some row) (some row') []

theorem legal_congr {c : RecoveryCase} {t : Transition} (same : c.ledger = case.ledger) (legal : t.Legal case) :
    t.Legal c := by
  have state : c.state = case.state := congrArg CaseLedger.state same
  have time : c.updatedAt = case.updatedAt := congrArg CaseLedger.updatedAt same
  exact ⟨by rw [state]; exact legal.edge, by rw [time]; exact legal.time, legal.terminalReason, legal.noTerminalReason,
    legal.evidence⟩

theorem transition_congr {c : RecoveryCase} (same : c.ledger = case.ledger) (t : Transition) :
    c.transition t = case.transition t := by
  simp only [RecoveryCase.ledger, RecoveryCase.anchor, CaseLedger.mk.injEq, CaseAnchor.mk.injEq] at same
  simp only [RecoveryCase.transition, same]

theorem merchant_congr {c : RecoveryCase} (same : c.ledger = case.ledger) : c.merchantId = case.merchantId :=
  congrArg (CaseAnchor.merchantId ∘ CaseLedger.anchor) same

theorem retries_congr {c : RecoveryCase} {t : Instant} (same : c.ledger = case.ledger) (left : RetriesLeft case t db) :
    RetriesLeft c t db := by
  obtain ⟨policy, force, below⟩ := left
  refine ⟨policy, by rw [merchant_congr same]; exact force, ?_⟩
  rw [show c.retryCount = case.retryCount from congrArg CaseLedger.retryCount same]
  exact below

theorem contacts_congr {c : RecoveryCase} {t : Instant} (same : c.ledger = case.ledger) (left : ContactsLeft case t db) :
    ContactsLeft c t db := by
  obtain ⟨policy, customer, force, known, below⟩ := left
  have customers : c.customerId = case.customerId := congrArg (CaseAnchor.customerId ∘ CaseLedger.anchor) same
  exact ⟨policy, customer, by rw [merchant_congr same]; exact force, by rw [customers]; exact known,
    by rw [merchant_congr same]; exact below⟩

theorem marked_apply (row : CaseRow) (c : RecoveryCase) (e : Option NormalizedEvent) : row.Marked (row.apply c e) e := by
  cases e <;> exact ⟨rfl, rfl, rfl⟩

theorem lookup_written {f : CaseRow → CaseRow} {key : CaseKey} (keeps : Table.KeepsKey CaseRow.key key f)
    (cases : db'.cases = Table.update CaseRow.key key f db.cases) (k : CaseKey) :
    db'.caseRow k = if k = key then (db.caseRow k).map f else db.caseRow k := by
  by_cases here : k = key
  · rw [if_pos here, here]
    simp only [Database.caseRow, cases]
    exact Table.lookup_update_self keeps db.cases
  · rw [if_neg here]
    simp only [Database.caseRow, cases]
    exact Table.lookup_update_ne keeps here db.cases

theorem caseRow_of_cases (same : db'.cases = db.cases) (k : CaseKey) : db'.caseRow k = db.caseRow k := by
  rw [Database.caseRow, Database.caseRow, same]

/-- A case a write leaves alone. -/
theorem CaseStep.idle (w : Writer) (db : Database) (k : CaseKey) (found : Option CaseRow) :
    CaseStep w db k found found [] := by
  cases found with
  | none => exact .absent
  | some row => exact .kept row row ⟨rfl, rfl, rfl, rfl⟩ fun _ => .inl rfl

theorem CaseWrite.caseStep (h : CaseWrite w db db') (k : CaseKey) : ∃ ts, history k db' = history k db ++ ts ∧
    CaseStep w db k (db.caseRow k) (db'.caseRow k) ts := by
  cases h with
  | quiet same =>
    refine ⟨[], by rw [history, history, same.transitions, List.append_nil], ?_⟩
    rw [caseRow_of_cases same.cases]
    exact .idle w db k _
  | touched f stamps punctual cases transitions _ =>
    refine ⟨[], by rw [history, history, transitions, List.append_nil], ?_⟩
    rw [lookup_touched stamps cases]
    cases found : db.caseRow k with
    | none => exact .absent
    | some row => exact .kept row (f row) (stamps row) fun timely => punctual timely k row found
  | created row event new fresh heard eventId occurredAt cases transitions _ =>
    refine ⟨[], by rw [history, history, transitions, List.append_nil], ?_⟩
    by_cases here : row.key = k
    · have found : db'.caseRow k = some row := by
        rw [← here, Database.caseRow, cases]
        exact Table.lookup_append_new new
      rw [found, ← here, new]
      exact .created row event rfl fresh heard eventId occurredAt
    · have found : db'.caseRow k = db.caseRow k := by
        simp only [Database.caseRow, cases]
        exact Table.lookup_append_ne here
      rw [found]
      exact .idle w db k _
  | moved case t d e retry snap legal instant heard below cases transitions _ =>
    rw [lookup_written (keepsKey_apply _ _ e) cases]
    by_cases here : k = case.key
    · subst here
      obtain ⟨row, found, ledger⟩ := snap
      refine ⟨[row.case.transition t], ?_, ?_⟩
      · simp only [history, transitions]
        rw [select_append_self (show (case.transition t).key = case.key from rfl), transition_congr ledger]
      · rw [if_pos rfl, found]
        have anchor : row.case.anchor = case.anchor := congrArg CaseLedger.anchor ledger
        refine .moved row _ t e retry (legal_congr ledger legal) instant heard (fun counts => retries_congr ledger
          (below counts)) ?_ (marked_apply row _ e)
        refine (apply_ledger (anchor.trans (settle_anchor case t d retry).symm) e).trans ?_
        rw [settle_ledger, anchor, show row.case.stateVersion = case.stateVersion from
          congrArg CaseLedger.stateVersion ledger, show row.case.retryCount = case.retryCount from
          congrArg CaseLedger.retryCount ledger, show row.case.contactCount = case.contactCount from
          congrArg CaseLedger.contactCount ledger]
    · refine ⟨[], ?_, ?_⟩
      · simp only [history, transitions]
        rw [select_append_ne (show (case.transition t).key ≠ k from Ne.symm here), List.append_nil]
      · rw [if_neg here]
        exact .idle w db k _
  | counted case retry contact snap one timely retries contacts cases transitions _ =>
    rw [lookup_written (keepsKey_count _ _) cases]
    refine ⟨[], by rw [history, history, transitions, List.append_nil], ?_⟩
    by_cases here : k = case.key
    · subst here
      obtain ⟨row, found, ledger⟩ := snap
      rw [if_pos rfl, found]
      have time : row.case.updatedAt = case.updatedAt := congrArg CaseLedger.updatedAt ledger
      refine .counted row _ retry contact one (by rw [time]; exact timely) (fun used => retries_congr ledger (retries used))
        (fun used => contacts_congr ledger (contacts used)) ?_ ⟨rfl, rfl, rfl⟩
      rw [count_ledger ledger]
      simp only [RecoveryCase.ledger, CaseLedger.mk.injEq] at ledger
      simp only [RecoveryCase.ledger, ledger]
      rfl
    · rw [if_neg here]
      exact .idle w db k _
  | linked _ _ cases transitions =>
    refine ⟨[], by rw [history, history, transitions, List.append_nil], ?_⟩
    rw [caseRow_of_cases cases]
    exact .idle w db k _
  | receipted _ _ cases transitions =>
    refine ⟨[], by rw [history, history, transitions, List.append_nil], ?_⟩
    rw [caseRow_of_cases cases]
    exact .idle w db k _

/-- A property of a case's row and history that every write of it keeps. -/
theorem Writes.keeps (Inv : Database → Prop) (h : Writes w db db') (base : Inv db)
    (step : ∀ {d e}, CaseWrite w d e → Inv d → Inv e) : Inv db' := by
  induction h with
  | refl => exact base
  | tail _ write ih => exact step write ih

theorem Reported.caseRow (h : Reported db db') (k : CaseKey) : db'.caseRow k = db.caseRow k :=
  caseRow_of_cases h.cases k

theorem Reported.sameHistory (h : Reported db db') (k : CaseKey) : history k db' = history k db := by
  rw [history, history, h.transitions]

/-- Columns that no write touches, and an end that none takes back. -/
structure CaseRow.Kept (row row' : CaseRow) : Prop where
  anchor : row'.case.anchor = row.case.anchor
  episode : row'.recoveryEpisodeKey = row.recoveryEpisodeKey
  ended : row.case.state.Terminal → row'.case.state.Terminal

theorem CaseRow.Kept.refl (row : CaseRow) : row.Kept row := ⟨rfl, rfl, id⟩

theorem CaseRow.Kept.trans {row row' row'' : CaseRow} (h : row.Kept row') (h' : row'.Kept row'') : row.Kept row'' :=
  ⟨h'.anchor.trans h.anchor, h'.episode.trans h.episode, h'.ended ∘ h.ended⟩

theorem CaseStep.rowKept {found found' : Option CaseRow} {ts : List CaseTransition} (h : CaseStep w db k found found' ts)
    (present : ∀ event, w.hears k event → found.isSome = true) : Option.Rel CaseRow.Kept found found' := by
  cases h with
  | absent => exact .none
  | created row event here fresh heard =>
    have impossible := present event heard
    cases impossible
  | kept row row' stamped =>
    have state : row'.case.state = row.case.state := congrArg CaseLedger.state stamped.ledger
    exact .some ⟨congrArg CaseLedger.anchor stamped.ledger, stamped.episode, fun terminated => by rw [state]; exact terminated⟩
  | moved row row' t e retry legal instant heard below ledger marked =>
    refine .some ⟨congrArg CaseLedger.anchor ledger, marked.episode, fun terminated => absurd legal.edge ?_⟩
    exact of_decide_eq_false (terminal_has_no_transition terminated)
  | counted row row' retry contact one timely retries contacts ledger marked =>
    have state : row'.case.state = row.case.state := congrArg CaseLedger.state ledger
    exact .some ⟨congrArg CaseLedger.anchor ledger, marked.episode, fun terminated => by rw [state]; exact terminated⟩

/-- The same cases, each where it was placed. -/
def Steady (db db' : Database) : Prop := ∀ k, Option.Rel CaseRow.Kept (db.caseRow k) (db'.caseRow k)

theorem kept_refl (found : Option CaseRow) : Option.Rel CaseRow.Kept found found := by
  cases found with
  | none => exact .none
  | some row => exact .some (.refl row)

theorem kept_trans {found found' found'' : Option CaseRow} (h : Option.Rel CaseRow.Kept found found')
    (h' : Option.Rel CaseRow.Kept found' found'') : Option.Rel CaseRow.Kept found found'' := by
  cases h with
  | none => exact h'
  | some one =>
    cases h' with
    | some two => exact .some (one.trans two)

theorem Steady.of_cases (same : db'.cases = db.cases) : Steady db db' := by
  intro k
  rw [caseRow_of_cases same]
  exact kept_refl _

theorem Steady.trans {d : Database} (h : Steady db d) (h' : Steady d db') : Steady db db' := fun k => kept_trans (h k) (h' k)

theorem Steady.found (h : Steady db db') (here : db.caseRow k = some row) :
    ∃ row', db'.caseRow k = some row' ∧ row.Kept row' := by
  have kept := h k
  rw [here] at kept
  generalize db'.caseRow k = found at kept
  cases kept with
  | some same => exact ⟨_, rfl, same⟩

theorem Steady.back (h : Steady db db') (here : db'.caseRow k = some row) :
    ∃ row', db.caseRow k = some row' ∧ row'.Kept row := by
  have kept := h k
  rw [here] at kept
  generalize db.caseRow k = found at kept
  cases kept with
  | some same => exact ⟨_, rfl, same⟩

/-- A call that puts evidence only on stored cases opens none. -/
theorem Writes.steady (h : Writes w db db') (present : ∀ k event, w.hears k event → (db.caseRow k).isSome = true) :
    Steady db db' := by
  refine h.keeps (Steady db) (.of_cases rfl) fun {d e} write before => before.trans fun k => ?_
  obtain ⟨ts, -, step⟩ := write.caseStep k
  refine step.rowKept fun event heard => ?_
  obtain ⟨row, here⟩ := Option.isSome_iff_exists.mp (present k event heard)
  obtain ⟨row', there, -⟩ := before.found here
  rw [there]
  rfl

/-- Every stored case stays where it was placed. -/
def Standing (db db' : Database) : Prop :=
  ∀ k row, db.caseRow k = some row → ∃ row', db'.caseRow k = some row' ∧ row.Kept row'

theorem Standing.refl (db : Database) : Standing db db := fun _ row found => ⟨row, found, .refl row⟩

theorem Standing.trans {d : Database} (h : Standing db d) (h' : Standing d db') : Standing db db' := by
  intro k row found
  obtain ⟨row', there, kept⟩ := h k row found
  obtain ⟨row'', last, kept'⟩ := h' k row' there
  exact ⟨row'', last, kept.trans kept'⟩

theorem Writes.standing (h : Writes w db db') : Standing db db' := by
  refine h.keeps (Standing db) (.refl db) fun {d e} write before => before.trans fun k row found => ?_
  obtain ⟨ts, -, step⟩ := write.caseStep k
  have kept := step.rowKept fun _ _ => by rw [found]; rfl
  rw [found] at kept
  generalize e.caseRow k = after at kept
  cases kept with
  | some same => exact ⟨_, rfl, same⟩

theorem exec_standing (rt : Runtime) (c : Command) (db : Database) : Standing db (exec rt c db) := by
  rcases exec_writes rt c db with writes | reported
  · exact writes.standing
  · exact fun k row found => ⟨row, (reported.caseRow k).trans found, .refl row⟩

end RevenueGuard
