import RevenueGuard.Protocol.AuditChain

/-
The ledger after any interleaving of appends: each merchant's log is its genesis
entry and one entry for each accepted append, intact and ending at its head.
-/
namespace RevenueGuard
namespace AuditLedger
open HashChain

def rowsOf (m : String) (tables : AuditTables) : List AuditEntry :=
  tables.entries.filter fun row => row.merchantId == m

/-- A merchant's log and head, against the calls accepted for it. -/
structure Sound (m : String) (log : List Call) (tables : AuditTables) : Prop where
  empty : log = [] → rowsOf m tables = [] ∧ Table.lookup AuditLedgerHead.merchantId m tables.heads = none
  length : log ≠ [] → (rowsOf m tables).length = log.length + 1
  head : log ≠ [] → Table.lookup AuditLedgerHead.merchantId m tables.heads =
    some ⟨m, (rowsOf m tables).length, lastHash zeroHash (rowsOf m tables)⟩
  intact : Intact 1 zeroHash (rowsOf m tables)
  records : List.Forall₂ (fun call e => Records call.request e) log (rowsOf m tables).tail

theorem sound_empty (m : String) : Sound m [] {} where
  empty _ := ⟨rfl, rfl⟩
  length h := absurd rfl h
  head h := absurd rfl h
  intact := trivial
  records := .nil

variable {m : String} {log : List Call} {tables after : AuditTables} {call : Call} {e : AuditEntry}

theorem rowsOf_append {rows : List AuditEntry} (h : after.entries = tables.entries ++ rows) :
    rowsOf m after = rowsOf m tables ++ rows.filter fun row => row.merchantId == m := by
  rw [rowsOf, h, List.filter_append]
  rfl

theorem filter_own {rows : List AuditEntry} (own : ∀ row ∈ rows, row.merchantId = m) :
    rows.filter (fun row => row.merchantId == m) = rows := by
  rw [List.filter_eq_self]
  intro row hr
  simp [own row hr]

theorem filter_foreign {rows : List AuditEntry} (foreign : ∀ row ∈ rows, row.merchantId ≠ m) :
    rows.filter (fun row => row.merchantId == m) = [] := by
  rw [List.filter_eq_nil_iff]
  intro row hr
  simp [foreign row hr]

/-- Both entries of an append are the caller's merchant's. -/
theorem appended_rows (h : Appended call tables e after) : ∃ rows, after.entries = tables.entries ++ rows ∧
    ∀ row ∈ rows, row.merchantId = call.request.merchantId := by
  by_cases zero : (headOf tables call.request.merchantId).latestSequence = 0
  · obtain ⟨genesis, madeGenesis, made, rows⟩ := h.first zero
    refine ⟨[genesis, e], by rw [rows, List.append_assoc]; rfl, ?_⟩
    have first := (entryFromRequest_ok madeGenesis).1.merchant
    have second := (entryFromRequest_ok made).1.merchant
    simp only [List.forall_mem_cons, first, second]
    exact ⟨rfl, trivial, by simp⟩
  · obtain ⟨made, rows⟩ := h.later zero
    refine ⟨[e], rows, ?_⟩
    simp only [List.forall_mem_cons, (entryFromRequest_ok made).1.merchant]
    exact ⟨trivial, by simp⟩

theorem sound_foreign (sound : Sound m log tables) (h : Appended call tables e after)
    (foreign : m ≠ call.request.merchantId) : Sound m log after := by
  obtain ⟨rows, grown, own⟩ := appended_rows h
  have same : rowsOf m after = rowsOf m tables := by
    rw [rowsOf_append grown, filter_foreign, List.append_nil]
    intro row hr is
    exact foreign (is.symm.trans (own row hr))
  constructor
  · rw [same, h.others m foreign]
    exact sound.empty
  · rw [same]
    exact sound.length
  · rw [same, h.others m foreign]
    exact sound.head
  · rw [same]
    exact sound.intact
  · rw [same]
    exact sound.records

theorem sound_first (sound : Sound m [] tables) (h : Appended call tables e after)
    (own : call.request.merchantId = m) : Sound m [call] after := by
  subst own
  obtain ⟨noRows, noHead⟩ := sound.empty rfl
  have zero : (headOf tables call.request.merchantId).latestSequence = 0 := by rw [headOf, noHead]; rfl
  obtain ⟨genesis, madeGenesis, made, grown⟩ := h.first zero
  obtain ⟨firstRecords, firstDigested, firstSequence, firstPrevious⟩ := entryFromRequest_ok madeGenesis
  obtain ⟨records, digested, sequence, previous⟩ := entryFromRequest_ok made
  have rows : rowsOf call.request.merchantId after = [genesis, e] := by
    rw [List.append_assoc] at grown
    rw [rowsOf_append grown, noRows, filter_own]
    · rfl
    · simp only [List.cons_append, List.nil_append, List.forall_mem_cons, records.merchant, firstRecords.merchant]
      exact ⟨rfl, trivial, by simp⟩
  constructor
  · intro none
    cases none
  · intro _
    rw [rows]
    rfl
  · intro _
    rw [h.head, rows, sequence, firstSequence]
    rfl
  · rw [rows]
    refine ⟨firstSequence, fun _ => genesis_isGenesis madeGenesis, firstPrevious, firstDigested, ?_⟩
    refine ⟨by rw [sequence, firstSequence], ?_, previous, digested, trivial⟩
    intro one
    cases one
  · rw [rows]
    exact .cons records .nil

theorem sound_next (sound : Sound m log tables) (started : log ≠ []) (h : Appended call tables e after)
    (own : call.request.merchantId = m) : Sound m (log ++ [call]) after := by
  subst own
  have head := sound.head started
  have length := sound.length started
  have isHead : headOf tables call.request.merchantId = ⟨call.request.merchantId,
      (rowsOf call.request.merchantId tables).length,
      lastHash zeroHash (rowsOf call.request.merchantId tables)⟩ := by
    rw [headOf, head]
    rfl
  have nonzero : (headOf tables call.request.merchantId).latestSequence ≠ 0 := by
    rw [isHead, length]
    exact Nat.succ_ne_zero _
  obtain ⟨made, grown⟩ := h.later nonzero
  rw [isHead] at made
  obtain ⟨records, digested, sequence, previous⟩ := entryFromRequest_ok made
  have rows : rowsOf call.request.merchantId after = rowsOf call.request.merchantId tables ++ [e] := by
    rw [rowsOf_append grown, filter_own]
    simp only [List.forall_mem_cons, records.merchant]
    exact ⟨trivial, by simp⟩
  constructor
  · intro none
    simp at none
  · intro _
    rw [rows, List.length_append, List.length_append, length]
    rfl
  · intro _
    rw [h.head, rows, sequence, lastHash, tip_append, List.length_append]
    rfl
  · rw [rows, intact_append]
    refine ⟨sound.intact, by rw [sequence]; exact Nat.add_comm _ _, ?_, previous, digested⟩
    intro first
    omega
  · cases existing : rowsOf call.request.merchantId tables with
    | nil =>
      rw [existing] at length
      simp at length
    | cons genesis rest =>
      have before := sound.records
      rw [existing] at before
      rw [rows, existing]
      exact List.rel_append before (.cons records .nil)

theorem sound_call (sound : Sound m log tables) (h : Appended call tables e after)
    (own : call.request.merchantId = m) : Sound m (log ++ [call]) after := by
  by_cases started : log = []
  · subst started
    exact sound_first sound h own
  · exact sound_next sound started h own

/-- Every interleaving of appends, failed ones included, keeps every merchant's log sound. -/
theorem sound_run (calls : List Call) (sound : Sound m log tables) :
    Sound m (log ++ accepted m calls tables) (appendAll calls tables) := by
  induction calls generalizing log tables with
  | nil =>
    rw [accepted, List.append_nil]
    exact sound
  | cons call rest ih =>
    unfold accepted
    cases ran : call.run.run tables with
    | error err =>
      have kept := Tx.commit_of_error ran
      have deeper := ih sound
      simp only [appendAll, List.foldl_cons, kept] at deeper ⊢
      simpa [Except.isOk, Except.toBool] using deeper
    | ok out =>
      have moved := Tx.commit_of_ok ran
      have appended := append_ok ran
      simp only [appendAll, List.foldl_cons, moved]
      by_cases own : call.request.merchantId = m
      · have deeper := ih (sound_call sound appended own)
        simp only [appendAll, List.append_assoc, List.cons_append, List.nil_append] at deeper
        simpa [Except.isOk, Except.toBool, own] using deeper
      · have deeper := ih (sound_foreign sound appended fun same => own same.symm)
        simpa [appendAll, Except.isOk, Except.toBool, own] using deeper

theorem sound_appendAll (m : String) (calls : List Call) :
    Sound m (accepted m calls {}) (appendAll calls {}) := sound_run calls (sound_empty m)

theorem Sound.entries (sound : Sound m log tables) : entriesOf m tables.entries = rowsOf m tables :=
  entriesOf_intact sound.intact

/-- What a stored entry says of its request, and that reading it back changes nothing. -/
theorem records_canonical (h : Records call.request e) :
    Records call.request e ∧ canonicalPayload (.ofJson e.payload) = .ok e.payload :=
  ⟨h, (canonicalPayload_idempotent h.payload).2.2⟩

theorem audit_sound (m : String) (calls : List Call) :
    let tables := appendAll calls {}
    let log := accepted m calls {}
    let entries := entriesOf m tables.entries
    let checked := if log.isEmpty then 0 else log.length + 1
    verify tables m = .ok ⟨m, .valid, checked, none⟩ ∧
      entries.map (fun e => e.sequence) = List.range' 1 checked ∧
      (∀ e ∈ entries.head?, isGenesis e = true) ∧
      Chained zeroHash entries ∧
      (∀ e ∈ entries, e.Digested) ∧
      List.Forall₂ (fun call e => Records call.request e ∧ canonicalPayload (.ofJson e.payload) = .ok e.payload)
        log entries.tail := by
  intro tables log entries checked
  have sound : Sound m log tables := sound_appendAll m calls
  have rows : entries = rowsOf m tables := sound.entries
  have intact : Intact 1 zeroHash entries := rows ▸ sound.intact
  have length : entries.length = checked := by
    by_cases none : log = []
    · rw [rows, (sound.empty none).1]
      simp [checked, none]
    · rw [rows, sound.length none]
      simp [checked, none]
  refine ⟨?_, ?_, ?_, intact_chained intact, intact_digested intact, ?_⟩
  · rw [← length]
    by_cases none : log = []
    · have empty : entries = [] := rows.trans (sound.empty none).1
      unfold verify
      rw [show entriesOf m tables.entries = [] from empty, empty]
      rfl
    · exact verify_intact (rows ▸ sound.head none) intact rfl rfl
  · rw [intact_sequences intact, length]
  · intro e first
    cases listed : entries with
    | nil =>
      rw [listed] at first
      cases first
    | cons a rest =>
      rw [listed] at first intact
      cases first
      exact intact.2.1 rfl
  · rw [rows]
    exact sound.records.imp fun _ _ => records_canonical

/-- A merchant without appends has no genesis entry either. -/
theorem unopened_unchecked : ¬ ∀ (m : String) (calls : List Call), ∃ result,
    verify (appendAll calls {}) m = .ok result ∧ result.status = .valid ∧
      result.checkedEntries = (accepted m calls {}).length + 1 := by
  intro claim
  obtain ⟨result, run, -, checked⟩ := claim "acme" []
  cases run
  cases checked

end AuditLedger
end RevenueGuard
