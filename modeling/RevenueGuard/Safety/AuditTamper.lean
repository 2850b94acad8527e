import RevenueGuard.Safety.AuditSound
import Mathlib.Data.Set.Function

/-
Tamper evidence: what the verifier makes of any table of stored entries, against
the head that the appends left behind.
-/
namespace RevenueGuard
namespace AuditLedger
open HashChain AuditEntry
open Json (sorted)

/-- Equal in every column the hash covers and in the payload, up to the order of its keys. -/
structure Covered (e f : AuditEntry) : Prop where
  columns : e.columns = f.columns
  payload : sorted e.payload = sorted f.payload

/-- The entries a merchant's appends wrote. -/
def appended (m : String) (calls : List Call) : List AuditEntry :=
  entriesOf m (appendAll calls {}).entries

/-- The ledger after `calls`, with the entries table replaced and the heads as they were. -/
def altered (calls : List Call) (stored : List AuditEntry) : AuditTables :=
  { appendAll calls {} with entries := stored }

/-- SHA-256 takes no two of the byte strings hashed for these entries to one digest. -/
def CollisionFree (entries : List AuditEntry) : Prop :=
  Set.InjOn Sha256.hexdigest { bytes | bytes ∈ entries.flatMap hashed }

def Valid (m : String) (calls : List Call) (stored : List AuditEntry) : Prop :=
  (verify (altered calls stored) m).map (fun result => result.status) = .ok .valid

def Unaltered (m : String) (calls : List Call) (stored : List AuditEntry) : Prop :=
  List.Forall₂ Covered (entriesOf m stored) (appended m calls)

/-- Every entry of a merchant that has some is gone. -/
def Emptied (m : String) (calls : List Call) (stored : List AuditEntry) : Prop :=
  entriesOf m stored = [] ∧ appended m calls ≠ []

/-- The one thing edited is the `entry_hash` column. -/
def Rehashed (m : String) (calls : List Call) (stored : List AuditEntry) : Prop :=
  Unaltered m calls stored ∧
    (entriesOf m stored).map (fun e => e.entryHash) ≠ (appended m calls).map fun e => e.entryHash

variable {m : String} {calls : List Call} {stored : List AuditEntry} {e f : AuditEntry}

theorem CollisionFree.mono {entries others : List AuditEntry} (free : CollisionFree entries)
    (within : ∀ e ∈ others, e ∈ entries) : CollisionFree others := by
  apply Set.InjOn.mono _ free
  intro bytes hb
  obtain ⟨e, he, hashed⟩ := List.mem_flatMap.mp hb
  exact List.mem_flatMap_of_mem (within e he) hashed

/-- Without collisions an entry hash settles its entry. -/
theorem hash_binding (free : CollisionFree [e, f]) (he : e.Digested) (hf : f.Digested)
    (same : e.entryHash = f.entryHash) : Covered e f := by
  obtain ⟨bytes, ofE, hashE⟩ := entryDigest_ok he.entry
  obtain ⟨bytes', ofF, hashF⟩ := entryDigest_ok hf.entry
  have sameBytes : bytes = bytes' :=
    free (by simp [document_hashed ofE]) (by simp [document_hashed ofF]) (hashE.symm.trans (same.trans hashF))
  subst sameBytes
  have columns := document_inj (canonicalBytes_inj ofE ofF)
  obtain ⟨payload, ofP, digestP⟩ := digest_ok he.payload
  obtain ⟨payload', ofQ, digestQ⟩ := digest_ok hf.payload
  have samePayload : payload = payload' := by
    have digests := congrArg AuditEntry.payloadSha256 columns
    exact free (by simp [payload_hashed ofP]) (by simp [payload_hashed ofQ]) (digestP.symm.trans (digests.trans digestQ))
  subst samePayload
  exact ⟨columns, canonicalBytes_inj ofP ofQ⟩

theorem equalsText_sorted (text : String) (a : Json) : equalsText text (sorted a) = equalsText text a := by
  cases a <;> rfl

theorem equalsFalse_sorted (a : Json) : equalsFalse (sorted a) = equalsFalse a := by
  cases a <;> rfl

theorem lookup_swap {k l : String} (other : k ≠ l) (key : String) (v w : Json) :
    [(l, w), (k, v)].lookup key = [(k, v), (l, w)].lookup key := by
  simp only [List.lookup_cons, List.lookup_nil]
  cases atK : key == k with
  | false => rfl
  | true =>
    have notL : (key == l) = false := by
      rw [beq_iff_eq] at atK
      simp [atK, other]
    rw [notL]

/-- Two fields are found alike in either order. -/
theorem lookup_sortFields_pair (key : String) {fields : List (String × Json)} (two : fields.length = 2) :
    (Json.sortFields fields).lookup key = fields.lookup key := by
  obtain ⟨⟨k, v⟩, ⟨l, w⟩, rfl⟩ := List.length_eq_two.mp two
  simp only [Json.sortFields, List.insertionSort_cons, List.insertionSort_nil, List.orderedInsert_nil,
    List.orderedInsert_cons]
  split
  · rfl
  · rename_i swapped
    apply lookup_swap
    rintro rfl
    exact swapped le_rfl

theorem isGenesisPayload_sorted (a : Json) : isGenesisPayload (sorted a) = isGenesisPayload a := by
  cases a with
  | obj fields =>
    have length : (Json.sortFields (Json.sortedFields fields)).length = fields.length := by
      rw [(Json.sortFields_perm _).length_eq, Json.sortedFields_eq, List.length_map]
    rw [sorted, isGenesisPayload, isGenesisPayload, length]
    by_cases two : fields.length = 2
    · have two' : (Json.sortedFields fields).length = 2 := by rw [Json.sortedFields_eq, List.length_map, two]
      rw [lookup_sortFields_pair _ two', lookup_sortFields_pair _ two', Json.lookup_sortedFields,
        Json.lookup_sortedFields]
      simp only [Option.any_map, equalsText_sorted, equalsFalse_sorted]
    · have short : (fields.length == 2) = false := by simpa using two
      simp only [short, Bool.false_and]
  | _ => rfl

theorem Covered.isGenesis (h : Covered e f) : RevenueGuard.isGenesis e = RevenueGuard.isGenesis f := by
  obtain ⟨columns, payload⟩ := h
  simp only [AuditEntry.columns, AuditEntry.mk.injEq] at columns
  have payloads := congrArg isGenesisPayload payload
  rw [isGenesisPayload_sorted, isGenesisPayload_sorted] at payloads
  simp only [RevenueGuard.isGenesis, columns, payloads]

theorem Covered.digested (h : Covered e f) (hash : e.entryHash = f.entryHash) (hf : f.Digested) : e.Digested := by
  obtain ⟨bytes, ofF, hashF⟩ := entryDigest_ok hf.entry
  obtain ⟨payload, ofP, digestP⟩ := digest_ok hf.payload
  have digests := congrArg AuditEntry.payloadSha256 h.columns
  constructor
  · rw [digestPayload, canonicalBytes_congr h.payload.symm ofP]
    exact congrArg Except.ok (digestP.symm.trans digests.symm)
  · rw [entryDigest_eq, document_congr h.columns, ofF]
    exact congrArg Except.ok (hashF.symm.trans hash.symm)

/-- An intact chain stays intact under edits the hashes do not see. -/
theorem intact_covered {expected : Nat} {previousHash : String} {log other : List AuditEntry}
    (intact : Intact expected previousHash other) (covered : List.Forall₂ Covered log other)
    (hashes : log.map (fun e => e.entryHash) = other.map fun e => e.entryHash) :
    Intact expected previousHash log := by
  induction covered generalizing expected previousHash with
  | nil => trivial
  | cons here later ih =>
    obtain ⟨sequence, genesis, previous, digested, rest⟩ := intact
    obtain ⟨hash, hashes⟩ := List.cons.inj hashes
    dsimp only at hash
    rw [← hash] at rest
    have sequences := congrArg AuditEntry.sequence here.columns
    have links := congrArg AuditEntry.previousEntryHash here.columns
    refine ⟨sequences.trans sequence, ?_, links.trans previous, here.digested hash digested, ?_⟩
    · intro one
      rw [here.isGenesis]
      exact genesis one
    · exact ih rest hashes

theorem covered_hashes {log other : List AuditEntry}
    (h : List.Forall₂ (fun e f => Covered e f ∧ e.entryHash = f.entryHash) log other) :
    List.Forall₂ Covered log other ∧ log.map (fun e => e.entryHash) = other.map fun e => e.entryHash := by
  induction h with
  | nil => exact ⟨.nil, rfl⟩
  | cons here _ ih =>
    obtain ⟨covered, hashes⟩ := ih
    exact ⟨.cons here.1 covered, by rw [List.map_cons, List.map_cons, here.2, hashes]⟩

/-- Entries whose stored digests all differ hash to different digests. -/
theorem collisionFree_of_nodup {entries : List AuditEntry} (digested : ∀ e ∈ entries, e.Digested)
    (nodup : (entries.flatMap fun e => [e.payloadSha256, e.entryHash]).Nodup) : CollisionFree entries := by
  have digests : (entries.flatMap hashed).map Sha256.hexdigest =
      entries.flatMap fun e => [e.payloadSha256, e.entryHash] := by
    rw [List.map_flatMap]
    apply List.flatMap_congr
    intro e he
    obtain ⟨payload, ofP, digestP⟩ := digest_ok (digested e he).payload
    obtain ⟨bytes, ofE, digestE⟩ := entryDigest_ok (digested e he).entry
    simp only [hashed, ofP, ofE, Except.toOption, Option.toList_some, List.cons_append, List.nil_append, List.map_cons,
      List.map_nil, ← digestP, ← digestE]
  rw [← digests] at nodup
  intro a ha b hb same
  exact List.inj_on_of_nodup_map nodup ha hb same

theorem appended_eq (m : String) (calls : List Call) : appended m calls = rowsOf m (appendAll calls {}) :=
  (sound_appendAll m calls).entries

/-- The head that the appends left, once there is an entry. -/
theorem head_started (started : appended m calls ≠ []) :
    Table.lookup AuditLedgerHead.merchantId m (appendAll calls {}).heads =
      some ⟨m, (appended m calls).length, lastHash zeroHash (appended m calls)⟩ := by
  have sound := sound_appendAll m calls
  rw [appended_eq] at started ⊢
  apply sound.head
  intro empty
  exact started (sound.empty empty).1

theorem head_unstarted (empty : appended m calls = []) :
    Table.lookup AuditLedgerHead.merchantId m (appendAll calls {}).heads = none := by
  have sound := sound_appendAll m calls
  rw [appended_eq] at empty
  by_cases none : accepted m calls {} = []
  · exact (sound.empty none).2
  · have length := sound.length none
    rw [empty] at length
    cases length

theorem appended_intact (m : String) (calls : List Call) : Intact 1 zeroHash (appended m calls) := by
  rw [appended_eq]
  exact (sound_appendAll m calls).intact

/-- A table with entries left verifies if and only if they are the appended ones under their hashes. -/
theorem valid_iff (free : CollisionFree (entriesOf m stored ++ appended m calls))
    (left : entriesOf m stored ≠ []) : Valid m calls stored ↔ Unaltered m calls stored ∧
      (entriesOf m stored).map (fun e => e.entryHash) = (appended m calls).map fun e => e.entryHash := by
  rw [Valid, verify_valid]
  constructor
  · rintro (empty | ⟨head, found, intact, length, last⟩)
    · exact absurd empty left
    · have started : appended m calls ≠ [] := by
        intro empty
        rw [altered, head_unstarted empty] at found
        cases found
      rw [altered, head_started started] at found
      cases found
      have binding : ∀ e ∈ entriesOf m stored, ∀ f ∈ appended m calls, e.entryHash = f.entryHash →
          (Covered e f ∧ e.entryHash = f.entryHash) ∧ e.previousEntryHash = f.previousEntryHash := by
        intro e he f hf hash
        have pair : CollisionFree [e, f] := by
          apply free.mono
          simp only [List.forall_mem_cons]
          exact ⟨List.mem_append_left _ he, List.mem_append_right _ hf, by simp⟩
        have covered := hash_binding pair (intact_digested intact e he)
          (intact_digested (appended_intact m calls) f hf) hash
        have links := congrArg AuditEntry.previousEntryHash covered.columns
        exact ⟨⟨covered, hash⟩, links⟩
      have same := forall₂_of_tip (intact_chained intact) (intact_chained (appended_intact m calls)) binding
        length.symm last.symm
      exact covered_hashes same.1
  · rintro ⟨covered, hashes⟩
    have started : appended m calls ≠ [] := by
      intro empty
      rw [Unaltered, empty, List.forall₂_nil_right_iff] at covered
      exact left covered
    refine .inr ⟨_, head_started started, intact_covered (appended_intact m calls) covered hashes, ?_, ?_⟩
    · exact covered.length_eq.symm
    · exact (tip_congr hashes zeroHash).symm

theorem valid_emptied (gone : entriesOf m stored = []) : Valid m calls stored := verify_valid.mpr (.inl gone)

/-- The verifier tells an altered ledger from the appended one unless every entry is gone; edits of the
`entry_hash` column alone, which no hash covers, it reports as well. -/
theorem tampering_evident (m : String) (calls : List Call) (stored : List AuditEntry)
    (free : CollisionFree (entriesOf m stored ++ appended m calls)) :
    (Valid m calls stored ↔ Unaltered m calls stored) ↔
      ¬ Emptied m calls stored ∧ ¬ Rehashed m calls stored := by
  by_cases left : entriesOf m stored = []
  · have valid : Valid m calls stored := valid_emptied left
    have unaltered : Unaltered m calls stored ↔ appended m calls = [] := by
      rw [Unaltered, left, List.forall₂_nil_left_iff]
    have rehashed : ¬ Rehashed m calls stored := by
      rintro ⟨same, differ⟩
      rw [left, unaltered.mp same] at differ
      exact differ rfl
    simp only [valid, true_iff, unaltered, Emptied, left, true_and, not_not, rehashed, not_false_eq_true, and_true,
      ne_eq]
  · have emptied : ¬ Emptied m calls stored := fun gone => left gone.1
    rw [valid_iff free left, Rehashed]
    simp only [emptied, not_false_eq_true, true_and, not_and, ne_eq, not_not]
    exact ⟨fun h same => (h.mpr same).2, fun h => ⟨fun both => both.1, fun same => ⟨same, h same⟩⟩⟩

def authorizedPayment : Call where
  request :=
    { merchantId := "acme"
      eventType := "AUTHORIZED"
      aggregateType := "ACTION"
      aggregateId := "a1"
      correlationId := "c1"
      actorType := "SYSTEM"
      actorReference := "s"
      payload := .mapping []
      recordedAt := ⟨⟨63924033600000000, by decide⟩, some 0⟩ }
  uuids := ("g1", "a1")

set_option maxRecDepth 100000 in
theorem authorizedPayment_digests :
    (appended "acme" [authorizedPayment]).map (fun e => (e.payloadSha256, e.entryHash)) =
      [("6da2489e97e719041f72d7f39f58d74f8c8b53534dd967d434a35da13479ba8d",
        "09ed157e798f7ae48545f70e828f25a935651d7121fcbb97c41611f9def726f6"),
       ("44136fa355b3678a1146ad16f7e8649e94fb4fc21fe77e8310c060f61caaff8a",
        "73ad93a55d0de756ca5a35ac9724bf863fc3600abdf1915f46b632ae68380127")] := by
  decide +kernel

theorem authorizedPayment_length : (appended "acme" [authorizedPayment]).length = 2 := by
  rw [← List.length_map (fun e : AuditEntry => (e.payloadSha256, e.entryHash)), authorizedPayment_digests]
  rfl

theorem authorizedPayment_free : CollisionFree (appended "acme" [authorizedPayment]) := by
  apply collisionFree_of_nodup (intact_digested (appended_intact _ _))
  have columns : ((appended "acme" [authorizedPayment]).flatMap fun e => [e.payloadSha256, e.entryHash]) =
      ((appended "acme" [authorizedPayment]).map fun e => (e.payloadSha256, e.entryHash)).flatMap
        fun row => [row.1, row.2] := by rw [List.flatMap_map]
  rw [columns, authorizedPayment_digests]
  decide

theorem appended_own {e : AuditEntry} (h : e ∈ appended m calls) : e.merchantId = m := by
  rw [appended_eq] at h
  simpa using (List.mem_filter.mp h).2

/-- A log without its last entry does not verify. -/
theorem tampering_evident_truncated :
    ¬ Valid "acme" [authorizedPayment] ((appended "acme" [authorizedPayment]).take 1) := by
  have own : ∀ e ∈ (appended "acme" [authorizedPayment]).take 1, e.merchantId = "acme" :=
    fun e he => appended_own (List.mem_of_mem_take he)
  have rows : (entriesOf "acme" ((appended "acme" [authorizedPayment]).take 1)).length = 1 := by
    rw [entriesOf, List.length_insertionSort, filter_own own, List.length_take, authorizedPayment_length]
    rfl
  have free : CollisionFree (entriesOf "acme" ((appended "acme" [authorizedPayment]).take 1) ++
      appended "acme" [authorizedPayment]) := by
    apply authorizedPayment_free.mono
    intro e he
    rcases List.mem_append.mp he with kept | wrote
    · rw [entriesOf, List.mem_insertionSort, filter_own own] at kept
      exact List.mem_of_mem_take kept
    · exact wrote
  have altered : ¬ Unaltered "acme" [authorizedPayment] ((appended "acme" [authorizedPayment]).take 1) := by
    intro same
    have lengths := same.length_eq
    rw [rows, authorizedPayment_length] at lengths
    cases lengths
  have detected := (tampering_evident "acme" [authorizedPayment] ((appended "acme" [authorizedPayment]).take 1)
    free).mpr ⟨fun gone => by simp [gone.1] at rows, fun edited => altered edited.1⟩
  exact fun valid => altered (detected.mp valid)

/-- A log without any of its entries does. -/
theorem deletion_undetected : ¬ ∀ (m : String) (calls : List Call) (stored : List AuditEntry),
    CollisionFree (entriesOf m stored ++ appended m calls) →
      (Valid m calls stored ↔ Unaltered m calls stored) := by
  intro claim
  have valid : Valid "acme" [authorizedPayment] [] := valid_emptied rfl
  have free : CollisionFree (entriesOf "acme" [] ++ appended "acme" [authorizedPayment]) := by
    rw [show entriesOf "acme" [] = [] from rfl, List.nil_append]
    exact authorizedPayment_free
  have unaltered := (claim "acme" [authorizedPayment] [] free).mp valid
  have lengths := unaltered.length_eq
  rw [authorizedPayment_length] at lengths
  cases lengths

end AuditLedger
end RevenueGuard
