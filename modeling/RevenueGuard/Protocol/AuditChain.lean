import RevenueGuard.Protocol.Canonical
import RevenueGuard.Kit.HashChain

/-
What an append writes and what the verifier checks: entries numbered from 1,
linked by their hashes, each with the digests of its own payload and columns.
-/
namespace RevenueGuard
open Json (FloatFree sorted sortedFields)

namespace AuditEntry

/-- The columns other than the payload and the entry's own hash; the hash covers all of them. -/
def columns (e : AuditEntry) : AuditEntry := { e with payload := .null, entryHash := "" }

/-- Both digests are those of what is stored. -/
structure Digested (e : AuditEntry) : Prop where
  payload : digestPayload (.ofJson e.payload) = .ok e.payloadSha256
  entry : entryDigest e e.payloadSha256 = .ok e.entryHash

/-- The byte strings an entry's digests are taken of. -/
def hashed (e : AuditEntry) : List (List UInt8) :=
  (canonicalBytes (.ofJson e.payload)).toOption.toList ++
    (canonicalBytes (.ofJson (e.document e.payloadSha256 e.recordedAt))).toOption.toList

theorem payload_hashed {e : AuditEntry} {bytes : List UInt8} (h : canonicalBytes (.ofJson e.payload) = .ok bytes) :
    bytes ∈ e.hashed := by
  simp [hashed, h, Except.toOption]

theorem document_hashed {e : AuditEntry} {bytes : List UInt8}
    (h : canonicalBytes (.ofJson (e.document e.payloadSha256 e.recordedAt)) = .ok bytes) : bytes ∈ e.hashed := by
  simp [hashed, h, Except.toOption]

end AuditEntry

open AuditEntry

theorem utc_stored (t : Calendar.Moment) : utc (Datetime.stored t) = .ok t := by
  simp only [utc, Datetime.stored, Int.sub_zero, Calendar.moment?_micros]

@[simp] theorem sorted_optionalText (o : Option String) : sorted (optionalText o) = optionalText o := by
  cases o <;> rfl

@[simp] theorem free_optionalText (o : Option String) : FloatFree (optionalText o) := by
  cases o <;> trivial

theorem optionalText_inj {o p : Option String} : optionalText o = optionalText p ↔ o = p := by
  cases o <;> cases p <;> simp [optionalText]

theorem entryDigest_eq (e : AuditEntry) (payloadSha256 : String) : entryDigest e payloadSha256 =
    (canonicalBytes (.ofJson (e.document payloadSha256 e.recordedAt))).map Sha256.hexdigest := by
  simp only [entryDigest, utc_stored, bind, Except.bind]

theorem document_inj {e f : AuditEntry} (same : sorted (e.document e.payloadSha256 e.recordedAt) =
    sorted (f.document f.payloadSha256 f.recordedAt)) : e.columns = f.columns := by
  have fields := Json.sorted_obj_inj same rfl (by
    simp only [List.map_cons, List.map_nil]
    decide)
  simp only [sortedFields, sorted, sorted_optionalText, List.cons.injEq, Prod.mk.injEq, true_and, and_true,
    Json.str.injEq, Json.int.injEq, optionalText_inj, Calendar.isoformat_inj, Int.natCast_inj] at fields
  simp only [columns, fields]

theorem document_congr {e f : AuditEntry} (same : e.columns = f.columns) :
    e.document e.payloadSha256 e.recordedAt = f.document f.payloadSha256 f.recordedAt := by
  simp only [columns, AuditEntry.mk.injEq, true_and] at same
  simp only [document, same]

theorem digest_ok {v : Value} {digest : String} (h : digestPayload v = .ok digest) :
    ∃ bytes, canonicalBytes v = .ok bytes ∧ digest = Sha256.hexdigest bytes := map_ok h

theorem entryDigest_ok {e : AuditEntry} {p digest : String} (h : entryDigest e p = .ok digest) :
    ∃ bytes, canonicalBytes (.ofJson (e.document p e.recordedAt)) = .ok bytes ∧
      digest = Sha256.hexdigest bytes := by
  rw [entryDigest_eq] at h
  exact map_ok h

namespace AuditLedger
open HashChain

abbrev Chained : String → List AuditEntry → Prop := Linked AuditEntry.previousEntryHash AuditEntry.entryHash

abbrev lastHash : String → List AuditEntry → String := tip AuditEntry.entryHash

/-- What the verifier's loop asks of the entries it has still to read. -/
def Intact : Nat → String → List AuditEntry → Prop
  | _, _, [] => True
  | expected, previousHash, e :: rest =>
    e.sequence = expected ∧ (expected = 1 → isGenesis e = true) ∧ e.previousEntryHash = previousHash ∧
      Digested e ∧ Intact (expected + 1) e.entryHash rest

variable {m : String} {expected : Nat} {previousHash : String} {entries : List AuditEntry}

theorem verifyEntries_intact (h : Intact expected previousHash entries) :
    verifyEntries m expected previousHash entries = .ok (.inr (lastHash previousHash entries)) := by
  induction entries generalizing expected previousHash with
  | nil => rfl
  | cons e rest ih =>
    obtain ⟨sequence, genesis, previous, digested, later⟩ := h
    have first : ¬ (expected = 1 ∧ isGenesis e = false) := by
      rintro ⟨one, missing⟩
      rw [genesis one] at missing
      cases missing
    rw [verifyEntries, if_neg (not_not.mpr sequence), if_neg first, if_neg (not_not.mpr previous), digested.payload]
    simp only [bind, Except.bind, ne_eq, not_true_eq_false, if_false, digested.entry]
    exact ih later

/-- The loop reads to the end of an intact chain only, and no early result is `VALID`. -/
theorem verifyEntries_ok {outcome : AuditVerificationResult ⊕ String}
    (h : verifyEntries m expected previousHash entries = .ok outcome) :
    (∃ result, outcome = .inl result ∧ result.status ≠ .valid) ∨ Intact expected previousHash entries := by
  induction entries generalizing expected previousHash with
  | nil => exact .inr trivial
  | cons e rest ih =>
    rw [verifyEntries] at h
    split at h
    · cases h
      exact .inl ⟨_, rfl, by simp [broken]⟩
    · rename_i sequence
      split at h
      · cases h
        exact .inl ⟨_, rfl, by simp [broken]⟩
      · rename_i genesis
        split at h
        · cases h
          exact .inl ⟨_, rfl, by simp [broken]⟩
        · rename_i previous
          obtain ⟨payloadSha256, payload, h⟩ := Tx.ok_of_bind h
          split at h
          · cases h
            exact .inl ⟨_, rfl, by simp [broken]⟩
          · rename_i samePayload
            obtain ⟨entryHash, entry, h⟩ := Tx.ok_of_bind h
            split at h
            · cases h
              exact .inl ⟨_, rfl, by simp [broken]⟩
            · rename_i sameHash
              rcases ih h with early | later
              · exact .inl early
              · refine .inr ⟨not_not.mp sequence, ?_, not_not.mp previous, ⟨?_, ?_⟩, later⟩
                · intro one
                  simpa [one] using genesis
                · rw [payload, not_not.mp samePayload]
                · rw [not_not.mp samePayload, entry, not_not.mp sameHash]

theorem verify_intact {tables : AuditTables} {head : AuditLedgerHead}
    (found : Table.lookup AuditLedgerHead.merchantId m tables.heads = some head)
    (intact : Intact 1 zeroHash (entriesOf m tables.entries))
    (length : head.latestSequence = (entriesOf m tables.entries).length)
    (last : head.latestEntryHash = lastHash zeroHash (entriesOf m tables.entries)) :
    verify tables m = .ok ⟨m, .valid, (entriesOf m tables.entries).length, none⟩ := by
  unfold verify
  split
  · rename_i empty
    rw [empty]
    rfl
  · rename_i first rest rows
    rw [rows] at intact length last ⊢
    rw [found]
    simp only [verifyEntries_intact intact, bind, Except.bind, length, last, ne_eq, not_true_eq_false, or_self,
      if_false]
    rfl

/-- `VALID` is an empty ledger, or an intact chain that ends where the head says. -/
theorem verify_valid {tables : AuditTables} : (verify tables m).map (fun result => result.status) = .ok .valid ↔
    entriesOf m tables.entries = [] ∨
      ∃ head, Table.lookup AuditLedgerHead.merchantId m tables.heads = some head ∧
        Intact 1 zeroHash (entriesOf m tables.entries) ∧
        head.latestSequence = (entriesOf m tables.entries).length ∧
        head.latestEntryHash = lastHash zeroHash (entriesOf m tables.entries) := by
  constructor
  · intro h
    unfold verify at h
    split at h
    · rename_i empty
      exact .inl empty
    · rename_i first rest rows
      right
      rw [rows]
      split at h
      · cases h
      · rename_i head found
        obtain ⟨result, run, valid⟩ := map_ok h
        obtain ⟨outcome, loop, run⟩ := Tx.ok_of_bind run
        rcases verifyEntries_ok loop with ⟨early, rfl, bad⟩ | intact
        · cases run
          exact absurd valid.symm bad
        · rw [verifyEntries_intact intact] at loop
          cases loop
          dsimp only at run
          split at run
          · cases run
            cases valid
          · rename_i agrees
            rw [not_or, not_not, not_not] at agrees
            exact ⟨head, found, intact, agrees.1, agrees.2⟩
  · rintro (empty | ⟨head, found, intact, length, last⟩)
    · unfold verify
      rw [empty]
      rfl
    · rw [verify_intact found intact length last]
      rfl

theorem intact_append {e : AuditEntry} : Intact expected previousHash (entries ++ [e]) ↔
    Intact expected previousHash entries ∧ e.sequence = expected + entries.length ∧
      (expected + entries.length = 1 → isGenesis e = true) ∧
      e.previousEntryHash = lastHash previousHash entries ∧ Digested e := by
  induction entries generalizing expected previousHash with
  | nil => simp [Intact, lastHash, tip]
  | cons a rest ih =>
    have shift : expected + 1 + rest.length = expected + (a :: rest).length := by
      simp only [List.length_cons]
      omega
    simp only [List.cons_append, Intact, ih, shift, and_assoc]
    rfl

theorem intact_sequences (h : Intact expected previousHash entries) :
    entries.map (fun e => e.sequence) = List.range' expected entries.length := by
  induction entries generalizing expected previousHash with
  | nil => rfl
  | cons e rest ih =>
    obtain ⟨sequence, -, -, -, later⟩ := h
    rw [List.map_cons, ih later, sequence, List.length_cons, List.range'_succ]

theorem intact_chained (h : Intact expected previousHash entries) : Chained previousHash entries := by
  induction entries generalizing expected previousHash with
  | nil => trivial
  | cons e rest ih => exact ⟨h.2.2.1, ih h.2.2.2.2⟩

theorem intact_digested (h : Intact expected previousHash entries) : ∀ e ∈ entries, Digested e := by
  induction entries generalizing expected previousHash with
  | nil => simp
  | cons e rest ih =>
    intro f hf
    rcases List.mem_cons.mp hf with rfl | later
    · exact h.2.2.2.1
    · exact ih h.2.2.2.2 f later

/-- Rows in the order of their sequence numbers are read in that order. -/
theorem entriesOf_intact {rows : List AuditEntry}
    (h : Intact expected previousHash (rows.filter fun row => row.merchantId == m)) :
    entriesOf m rows = rows.filter fun row => row.merchantId == m := by
  apply List.Pairwise.insertionSort_eq
  have ordered := List.pairwise_le_range' (s := expected) (n := (rows.filter fun row => row.merchantId == m).length)
  rw [← intact_sequences h, List.pairwise_map] at ordered
  exact ordered

/-- What an entry holds of the request it was made from. -/
structure Records (request : AuditAppend) (e : AuditEntry) : Prop where
  merchant : e.merchantId = request.merchantId
  event : e.eventType = request.eventType
  aggregateType : e.aggregateType = request.aggregateType
  aggregateId : e.aggregateId = request.aggregateId
  payload : canonicalPayload request.payload = .ok e.payload
  payloadSha256 : digestPayload request.payload = .ok e.payloadSha256
  recordedAt : utc request.recordedAt = .ok e.recordedAt

theorem entryFromRequest_ok {request : AuditAppend} {uuid : String} {sequence : Nat} {e : AuditEntry}
    (h : entryFromRequest request uuid sequence previousHash = .ok e) :
    Records request e ∧ Digested e ∧ e.sequence = sequence ∧ e.previousEntryHash = previousHash := by
  obtain ⟨payload, canonical, h⟩ := Tx.ok_of_bind h
  obtain ⟨payloadSha256, digest, h⟩ := Tx.ok_of_bind h
  obtain ⟨recordedAt, instant, h⟩ := Tx.ok_of_bind h
  obtain ⟨entryHash, hash, h⟩ := Tx.ok_of_bind h
  cases h
  obtain ⟨value, fixed, -⟩ := canonicalPayload_idempotent canonical
  have requested : digestPayload request.payload = .ok payloadSha256 := by
    rw [← digest]
    simp only [digestPayload, canonicalBytes, value, fixed]
  exact ⟨⟨rfl, rfl, rfl, rfl, canonical, requested, instant⟩, ⟨digest, hash⟩, rfl, rfl⟩

theorem genesis_isGenesis {request : AuditAppend} {uuid : String} {e : AuditEntry}
    (h : entryFromRequest (genesisRequest request) uuid 1 zeroHash = .ok e) : isGenesis e = true := by
  obtain ⟨records, -, -, previous⟩ := entryFromRequest_ok h
  have payload := records.payload
  have document : canonicalPayload genesisPayload =
      .ok (.obj [("coverage", .str "FORWARD_ONLY"), ("previous_records_backfilled", .bool false)]) := rfl
  have stored := Except.ok.inj (document.symm.trans payload)
  simp only [isGenesis, records.event, records.aggregateType, records.aggregateId, records.merchant, previous,
    ← stored]
  have fixed : isGenesisPayload
      (.obj [("coverage", .str "FORWARD_ONLY"), ("previous_records_backfilled", .bool false)]) = true := by decide
  simp [genesisRequest, fixed]

/-- The head a merchant's next append starts from. -/
def headOf (tables : AuditTables) (m : String) : AuditLedgerHead :=
  (Table.lookup AuditLedgerHead.merchantId m tables.heads).getD ⟨m, 0, zeroHash⟩

theorem lockedHead_ok {tables after : AuditTables} {head : AuditLedgerHead}
    (h : (lockedHead m).run tables = .ok (head, after)) : head = headOf tables m ∧ head.merchantId = m ∧
      after.entries = tables.entries ∧ Table.lookup AuditLedgerHead.merchantId m after.heads = some head ∧
      ∀ m', m' ≠ m → Table.lookup AuditLedgerHead.merchantId m' after.heads =
        Table.lookup AuditLedgerHead.merchantId m' tables.heads := by
  obtain ⟨_, t, write, h⟩ := Tx.bind_ok h
  obtain ⟨found, t', read, h⟩ := Tx.bind_ok h
  obtain ⟨rfl, rfl⟩ := Tx.read_ok read
  obtain ⟨row, rfl⟩ := Tx.found_ok h
  have stored := Tx.write_ok write
  subst stored
  split at row
  · rename_i present
    refine ⟨?_, Table.lookup_key row, by rw [if_pos present], by rw [if_pos present]; exact row, fun m' _ => by rw [if_pos present]⟩
    rw [headOf, row]
    rfl
  · rename_i absent
    have fresh : Table.lookup AuditLedgerHead.merchantId m tables.heads = none := by
      rw [Table.lookup_none]
      simpa using absent
    simp only [if_neg absent, Table.lookup_append, fresh, Option.none_or, if_true, Option.some.injEq] at row ⊢
    refine ⟨?_, ?_, trivial, row, ?_⟩
    · rw [headOf, fresh]
      exact row.symm
    · rw [← row]
    · intro m' other
      rw [if_neg (fun same => other same.symm), Option.or_none]

theorem insertEntry_ok {tables after : AuditTables} {e : AuditEntry} {u : Unit}
    (h : (insertEntry e).run tables = .ok (u, after)) :
    after = { tables with entries := tables.entries ++ [e] } := by
  obtain ⟨rows, t, read, h⟩ := Tx.bind_ok h
  obtain ⟨rfl, rfl⟩ := Tx.read_ok read
  obtain ⟨_, t, unique, h⟩ := Tx.bind_ok h
  obtain ⟨-, rfl⟩ := Tx.check_ok unique
  exact Tx.write_ok h

/-- What a committed append did: an entry after the merchant's last one, and a genesis entry before the first. -/
structure Appended (call : Call) (tables : AuditTables) (e : AuditEntry) (after : AuditTables) : Prop where
  first : (headOf tables call.request.merchantId).latestSequence = 0 → ∃ genesis,
    entryFromRequest (genesisRequest call.request) call.uuids.1 1 zeroHash = .ok genesis ∧
      entryFromRequest call.request call.uuids.2 (genesis.sequence + 1) genesis.entryHash = .ok e ∧
      after.entries = tables.entries ++ [genesis] ++ [e]
  later : (headOf tables call.request.merchantId).latestSequence ≠ 0 →
    entryFromRequest call.request call.uuids.2 ((headOf tables call.request.merchantId).latestSequence + 1)
        (headOf tables call.request.merchantId).latestEntryHash = .ok e ∧
      after.entries = tables.entries ++ [e]
  head : Table.lookup AuditLedgerHead.merchantId call.request.merchantId after.heads =
    some ⟨call.request.merchantId, e.sequence, e.entryHash⟩
  others : ∀ m, m ≠ call.request.merchantId → Table.lookup AuditLedgerHead.merchantId m after.heads =
    Table.lookup AuditLedgerHead.merchantId m tables.heads

theorem updateHead_ok {tables after : AuditTables} {head old : AuditLedgerHead} {u : Unit}
    (stored : Table.lookup AuditLedgerHead.merchantId head.merchantId tables.heads = some old)
    (h : (updateHead head).run tables = .ok (u, after)) : after.entries = tables.entries ∧
      Table.lookup AuditLedgerHead.merchantId head.merchantId after.heads = some head ∧
      ∀ m, m ≠ head.merchantId → Table.lookup AuditLedgerHead.merchantId m after.heads =
        Table.lookup AuditLedgerHead.merchantId m tables.heads := by
  have written := Tx.write_ok h
  subst written
  have keeps : Table.KeepsKey AuditLedgerHead.merchantId head.merchantId fun _ => head := fun _ _ => rfl
  refine ⟨rfl, ?_, fun m other => Table.lookup_update_ne keeps other _⟩
  rw [Table.lookup_update_self keeps, stored]
  rfl

theorem openLedger_ok {request : AuditAppend} {uuid : String} {head opened : AuditLedgerHead}
    {tables after : AuditTables} (h : (openLedger request uuid head).run tables = .ok (opened, after)) :
    after.heads = tables.heads ∧ opened.merchantId = head.merchantId ∧
      (head.latestSequence = 0 → ∃ genesis, entryFromRequest (genesisRequest request) uuid 1 zeroHash = .ok genesis ∧
        opened.latestSequence = genesis.sequence ∧ opened.latestEntryHash = genesis.entryHash ∧
        after.entries = tables.entries ++ [genesis]) ∧
      (head.latestSequence ≠ 0 → opened = head ∧ after = tables) := by
  unfold openLedger at h
  split at h
  · rename_i zero
    obtain ⟨genesis, t, lifted, h⟩ := Tx.bind_ok h
    obtain ⟨made, rfl⟩ := Tx.lift_ok lifted
    obtain ⟨_, t', inserted, h⟩ := Tx.bind_ok h
    obtain ⟨rfl, rfl⟩ := Tx.pure_ok h
    rw [insertEntry_ok inserted]
    exact ⟨rfl, rfl, fun _ => ⟨genesis, made, rfl, rfl, rfl⟩, fun nonzero => absurd zero nonzero⟩
  · rename_i nonzero
    obtain ⟨rfl, rfl⟩ := Tx.pure_ok h
    exact ⟨rfl, rfl, fun zero => absurd zero nonzero, fun _ => ⟨rfl, rfl⟩⟩

theorem append_ok {call : Call} {tables after : AuditTables} {e : AuditEntry}
    (h : call.run.run tables = .ok (e, after)) : Appended call tables e after := by
  obtain ⟨_, t, validated, h⟩ := Tx.bind_ok h
  obtain ⟨-, rfl⟩ := Tx.lift_ok validated
  obtain ⟨head, t, locked, h⟩ := Tx.bind_ok h
  obtain ⟨rfl, merchant, sameEntries, stored, sameHeads⟩ := lockedHead_ok locked
  obtain ⟨opened, t', opening, h⟩ := Tx.bind_ok h
  obtain ⟨openHeads, openMerchant, first, later⟩ := openLedger_ok opening
  obtain ⟨entry, t'', lifted, h⟩ := Tx.bind_ok h
  obtain ⟨made, rfl⟩ := Tx.lift_ok lifted
  obtain ⟨_, t''', inserted, h⟩ := Tx.bind_ok h
  have rows := insertEntry_ok inserted
  subst rows
  obtain ⟨_, u, moved, h⟩ := Tx.bind_ok h
  obtain ⟨rfl, rfl⟩ := Tx.pure_ok h
  have key : opened.merchantId = call.request.merchantId := openMerchant.trans merchant
  rw [key] at moved
  have kept : Table.lookup AuditLedgerHead.merchantId call.request.merchantId t'.heads =
      some (headOf tables call.request.merchantId) := by rw [openHeads, stored]
  obtain ⟨movedEntries, movedHead, movedOthers⟩ := updateHead_ok kept moved
  constructor
  · intro zero
    obtain ⟨genesis, madeGenesis, sequence, hash, grown⟩ := first zero
    rw [sequence, hash] at made
    refine ⟨genesis, madeGenesis, made, ?_⟩
    rw [movedEntries]
    simp only [grown, sameEntries]
  · intro nonzero
    obtain ⟨rfl, rfl⟩ := later nonzero
    refine ⟨made, ?_⟩
    rw [movedEntries, sameEntries]
  · exact movedHead
  · intro m other
    rw [movedOthers m other, openHeads, sameHeads m other]

end AuditLedger

end RevenueGuard
