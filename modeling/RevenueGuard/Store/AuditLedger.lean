import RevenueGuard.Kit.Calendar
import RevenueGuard.Kit.Json
import RevenueGuard.Kit.Sha256
import RevenueGuard.Kit.Table
import RevenueGuard.Kit.Transaction

/-
The audit ledger: one hash-chained log for each merchant, its head row, the
canonical encoding that is hashed, and the verifier, which only reads.
-/
namespace RevenueGuard
open Calendar (Moment isoformat moment?)

inductive AuditError where
  | valueError (message : String)
  | overflowError (message : String)
  | integrityError
deriving DecidableEq, Repr

/-- A point on some clock, and how far that clock is ahead of UTC in microseconds; `none` when naive. -/
structure Datetime where
  wall : Moment
  utcoffset : Option Int
deriving DecidableEq, Repr

inductive MappingKey where
  | str (key : String)
  | other (typeName : String)
deriving DecidableEq, Repr

/-- A Python value, as far as the ledger tells values apart. -/
inductive Value where
  | none
  | bool (b : Bool)
  | int (i : Int)
  | float (text : String)
  | str (s : String)
  | datetime (d : Datetime)
  | mapping (items : List (MappingKey × Value))
  | sequence (items : List Value)
  | other (typeName : String)
deriving Repr

structure AuditAppend where
  merchantId : String
  eventType : String
  aggregateType : String
  aggregateId : String
  correlationId : String
  actorType : String
  actorReference : String
  payload : Value
  recordedAt : Datetime
  causationId : Option String := .none
  policyVersion : Option String := .none
  modelVersion : Option String := .none
  promptVersion : Option String := .none
  schemaVersion : Option String := .none
  featureVersion : Option String := .none
  applicationVersion : Option String := .none

structure AuditLedgerHead where
  merchantId : String
  latestSequence : Nat
  latestEntryHash : String
deriving DecidableEq, Repr

structure AuditEntry where
  merchantId : String
  sequence : Nat
  entryId : String
  eventType : String
  aggregateType : String
  aggregateId : String
  correlationId : String
  causationId : Option String
  actorType : String
  actorReference : String
  payload : Json
  payloadSha256 : String
  previousEntryHash : String
  entryHash : String
  policyVersion : Option String
  modelVersion : Option String
  promptVersion : Option String
  schemaVersion : Option String
  featureVersion : Option String
  applicationVersion : Option String
  recordedAt : Moment
deriving Repr

structure AuditTables where
  heads : List AuditLedgerHead := []
  entries : List AuditEntry := []

inductive AuditVerificationStatus where
  | valid | missingGenesis | sequenceGap | previousHashMismatch | payloadHashMismatch | entryHashMismatch | headMismatch
deriving DecidableEq, Repr

structure AuditVerificationResult where
  merchantId : String
  status : AuditVerificationStatus
  checkedEntries : Nat
  firstBrokenSequence : Option Nat := .none
deriving DecidableEq, Repr

def zeroHash : String := String.ofList (List.replicate 64 '0')

def utc (d : Datetime) : Except AuditError Moment :=
  match d.utcoffset with
  | .none => .error (.valueError "audit timestamps must be timezone-aware")
  | some offset =>
    match moment? (d.wall.micros - offset) with
    | .none => .error (.overflowError "date value out of range")
    | some t => .ok t

/-- A stored timestamp, which the driver returns in UTC. -/
def Datetime.stored (t : Moment) : Datetime := ⟨t, some 0⟩

def MappingKey.isStr : MappingKey → Bool
  | .str _ => true
  | .other _ => false

/-- Runs the values of a mapping in the order of its items. -/
def gather : List (String × Except AuditError Json) → Except AuditError (List (String × Json))
  | [] => .ok []
  | (k, x) :: rest => do
    let a ← x
    let fields ← gather rest
    pure ((k, a) :: fields)

mutual
def canonicalValue : Value → Except AuditError Json
  | .none => .ok .null
  | .bool b => .ok (.bool b)
  | .str s => .ok (.str s)
  | .int i => .ok (.int i)
  | .float _ => .error (.valueError "audit payloads cannot contain binary floating point")
  | .datetime d => (utc d).map fun t => .str (isoformat t)
  | .mapping items =>
    if items.all fun item => item.1.isStr then (gather (Json.sortFields (canonicalFields items))).map .obj
    else .error (.valueError "audit payload keys must be strings")
  | .sequence items => (canonicalItems items).map .arr
  | .other typeName => .error (.valueError s!"audit payload contains unsupported value type: {typeName}")

def canonicalItems : List Value → Except AuditError (List Json)
  | [] => .ok []
  | v :: rest => do
    let a ← canonicalValue v
    let items ← canonicalItems rest
    pure (a :: items)

/-- The values of the items with string keys, each still to be run. -/
def canonicalFields : List (MappingKey × Value) → List (String × Except AuditError Json)
  | [] => []
  | (.str k, v) :: rest => (k, canonicalValue v) :: canonicalFields rest
  | (.other _, _) :: rest => canonicalFields rest
end

mutual
/-- A stored document, as the driver decodes it. -/
def Value.ofJson : Json → Value
  | .null => .none
  | .bool b => .bool b
  | .int i => .int i
  | .float text => .float text
  | .str s => .str s
  | .arr items => .sequence (ofItems items)
  | .obj fields => .mapping (ofFields fields)

def ofItems : List Json → List Value
  | [] => []
  | a :: rest => Value.ofJson a :: ofItems rest

def ofFields : List (String × Json) → List (MappingKey × Value)
  | [] => []
  | (k, a) :: rest => (.str k, Value.ofJson a) :: ofFields rest
end

def canonicalPayload (payload : Value) : Except AuditError Json := do
  let value ← canonicalValue payload
  match value with
  | .obj fields => pure (.obj fields)
  | _ => throw (.valueError "audit payload must be a mapping")

def canonicalBytes (value : Value) : Except AuditError (List UInt8) :=
  (canonicalValue value).map fun a => Json.utf8 (Json.dumps a)

def digestPayload (payload : Value) : Except AuditError String := (canonicalBytes payload).map Sha256.hexdigest

def optionalText : Option String → Json
  | .none => .null
  | some s => .str s

/-- What an entry's hash covers; the payload by its own digest. -/
def AuditEntry.document (entry : AuditEntry) (payloadSha256 : String) (recordedAt : Moment) : Json :=
  .obj
    [("aggregate_id", .str entry.aggregateId),
     ("aggregate_type", .str entry.aggregateType),
     ("application_version", optionalText entry.applicationVersion),
     ("actor_reference", .str entry.actorReference),
     ("actor_type", .str entry.actorType),
     ("causation_id", optionalText entry.causationId),
     ("correlation_id", .str entry.correlationId),
     ("entry_id", .str entry.entryId),
     ("event_type", .str entry.eventType),
     ("feature_version", optionalText entry.featureVersion),
     ("merchant_id", .str entry.merchantId),
     ("model_version", optionalText entry.modelVersion),
     ("payload_sha256", .str payloadSha256),
     ("policy_version", optionalText entry.policyVersion),
     ("previous_entry_hash", .str entry.previousEntryHash),
     ("prompt_version", optionalText entry.promptVersion),
     ("recorded_at", .str (isoformat recordedAt)),
     ("schema_version", optionalText entry.schemaVersion),
     ("sequence", .int entry.sequence)]

def entryDigest (entry : AuditEntry) (payloadSha256 : String) : Except AuditError String := do
  let recordedAt ← utc (Datetime.stored entry.recordedAt)
  (canonicalBytes (.ofJson (entry.document payloadSha256 recordedAt))).map Sha256.hexdigest

def genesisPayload : Value :=
  .mapping [(.str "coverage", .str "FORWARD_ONLY"), (.str "previous_records_backfilled", .bool false)]

/-- Python's `== False`, which also holds of the number zero. -/
def equalsFalse : Json → Bool
  | .bool b => !b
  | .int i => i == 0
  | .float text => text == "0.0" || text == "-0.0"
  | _ => false

def equalsText (text : String) : Json → Bool
  | .str s => s == text
  | _ => false

def isGenesisPayload : Json → Bool
  | .obj fields =>
    fields.length == 2 && (fields.lookup "coverage").any (equalsText "FORWARD_ONLY") &&
      (fields.lookup "previous_records_backfilled").any equalsFalse
  | _ => false

def isGenesis (entry : AuditEntry) : Bool :=
  entry.eventType == "LEDGER_GENESIS" && entry.aggregateType == "MERCHANT" &&
    entry.aggregateId == entry.merchantId && entry.previousEntryHash == zeroHash && isGenesisPayload entry.payload

def validateAppend (request : AuditAppend) : Except AuditError Unit := do
  if [request.merchantId, request.eventType, request.aggregateType, request.aggregateId, request.correlationId,
      request.actorType, request.actorReference].any fun value => value.isEmpty || value.length > 128 then
    throw (.valueError "audit identity fields must be non-empty and at most 128 characters")
  if request.eventType.length > 64 ∨ request.aggregateType.length > 64 then
    throw (.valueError "audit event and aggregate types must be at most 64 characters")
  let _ ← canonicalPayload request.payload
  let _ ← utc request.recordedAt

def entryFromRequest (request : AuditAppend) (uuid : String) (sequence : Nat) (previousEntryHash : String) :
    Except AuditError AuditEntry := do
  let payload ← canonicalPayload request.payload
  let payloadSha256 ← digestPayload (.ofJson payload)
  let recordedAt ← utc request.recordedAt
  let entry : AuditEntry :=
    { merchantId := request.merchantId
      sequence
      entryId := "audit_" ++ uuid
      eventType := request.eventType
      aggregateType := request.aggregateType
      aggregateId := request.aggregateId
      correlationId := request.correlationId
      causationId := request.causationId
      actorType := request.actorType
      actorReference := request.actorReference
      payload
      payloadSha256
      previousEntryHash
      entryHash := ""
      policyVersion := request.policyVersion
      modelVersion := request.modelVersion
      promptVersion := request.promptVersion
      schemaVersion := request.schemaVersion
      featureVersion := request.featureVersion
      applicationVersion := request.applicationVersion
      recordedAt }
  let entryHash ← entryDigest entry payloadSha256
  pure { entry with entryHash }

namespace AuditLedger

def lockedHead (merchantId : String) : Tx AuditTables AuditError AuditLedgerHead := do
  Tx.write fun tables =>
    if tables.heads.any fun h => h.merchantId == merchantId then tables
    else { tables with heads := tables.heads ++ [⟨merchantId, 0, zeroHash⟩] }
  let head ← Tx.read fun tables => Table.lookup AuditLedgerHead.merchantId merchantId tables.heads
  Tx.found head .integrityError

/-- An insert, with the table's primary key and unique constraints. -/
def insertEntry (entry : AuditEntry) : Tx AuditTables AuditError Unit := do
  let rows ← Tx.read AuditTables.entries
  Tx.check (∀ row ∈ rows, row.entryId ≠ entry.entryId ∧ (row.merchantId = entry.merchantId →
    row.sequence ≠ entry.sequence ∧ row.entryHash ≠ entry.entryHash)) .integrityError
  Tx.write fun tables => { tables with entries := tables.entries ++ [entry] }

def updateHead (head : AuditLedgerHead) : Tx AuditTables AuditError Unit :=
  Tx.write fun tables =>
    { tables with heads := Table.update AuditLedgerHead.merchantId head.merchantId (fun _ => head) tables.heads }

def genesisRequest (request : AuditAppend) : AuditAppend :=
  { merchantId := request.merchantId
    eventType := "LEDGER_GENESIS"
    aggregateType := "MERCHANT"
    aggregateId := request.merchantId
    correlationId := request.correlationId
    actorType := "SYSTEM"
    actorReference := "audit-ledger"
    payload := genesisPayload
    recordedAt := request.recordedAt
    applicationVersion := request.applicationVersion }

/-- The head after a genesis entry where there is none yet, which is not written back by itself. -/
def openLedger (request : AuditAppend) (uuid : String) (head : AuditLedgerHead) :
    Tx AuditTables AuditError AuditLedgerHead :=
  if head.latestSequence = 0 then do
    let genesis ← Tx.lift (entryFromRequest (genesisRequest request) uuid 1 zeroHash)
    insertEntry genesis
    pure { head with latestSequence := genesis.sequence, latestEntryHash := genesis.entryHash }
  else pure head

/-- `uuids` are the random parts of the entry ids, of the genesis entry and of the appended one. -/
def append (request : AuditAppend) (uuids : String × String) : Tx AuditTables AuditError AuditEntry := do
  Tx.lift (validateAppend request)
  let head ← lockedHead request.merchantId
  let head ← openLedger request uuids.1 head
  let entry ← Tx.lift (entryFromRequest request uuids.2 (head.latestSequence + 1) head.latestEntryHash)
  insertEntry entry
  updateHead { head with latestSequence := entry.sequence, latestEntryHash := entry.entryHash }
  pure entry

/-- A merchant's rows, `ORDER BY sequence`. -/
def entriesOf (merchantId : String) (rows : List AuditEntry) : List AuditEntry :=
  (rows.filter fun row => row.merchantId == merchantId).insertionSort fun a b => a.sequence ≤ b.sequence

def broken (merchantId : String) (status : AuditVerificationStatus) (checkedEntries sequence : Nat) :
    AuditVerificationResult := ⟨merchantId, status, checkedEntries, some sequence⟩

/-- The loop of `verify`: its early result, or the last hash of an intact chain. -/
def verifyEntries (merchantId : String) :
    Nat → String → List AuditEntry → Except AuditError (AuditVerificationResult ⊕ String)
  | _, previousHash, [] => .ok (.inr previousHash)
  | expected, previousHash, entry :: rest =>
    if entry.sequence ≠ expected then
      .ok (.inl (broken merchantId .sequenceGap (expected - 1) entry.sequence))
    else if expected = 1 ∧ isGenesis entry = false then
      .ok (.inl (broken merchantId .missingGenesis 0 entry.sequence))
    else if entry.previousEntryHash ≠ previousHash then
      .ok (.inl (broken merchantId .previousHashMismatch (expected - 1) entry.sequence))
    else do
      let payloadSha256 ← digestPayload (.ofJson entry.payload)
      if entry.payloadSha256 ≠ payloadSha256 then
        pure (.inl (broken merchantId .payloadHashMismatch (expected - 1) entry.sequence))
      else do
        let entryHash ← entryDigest entry payloadSha256
        if entry.entryHash ≠ entryHash then
          pure (.inl (broken merchantId .entryHashMismatch (expected - 1) entry.sequence))
        else verifyEntries merchantId (expected + 1) entry.entryHash rest

def verify (tables : AuditTables) (merchantId : String) : Except AuditError AuditVerificationResult :=
  match entriesOf merchantId tables.entries with
  | [] => .ok { merchantId, status := .valid, checkedEntries := 0 }
  | first :: rest =>
    match Table.lookup AuditLedgerHead.merchantId merchantId tables.heads with
    | none => .ok (broken merchantId .headMismatch 0 first.sequence)
    | some head => do
      let outcome ← verifyEntries merchantId 1 zeroHash (first :: rest)
      match outcome with
      | .inl result => pure result
      | .inr previousHash =>
        if head.latestSequence ≠ (first :: rest).length ∨ head.latestEntryHash ≠ previousHash then
          pure (broken merchantId .headMismatch (first :: rest).length head.latestSequence)
        else pure { merchantId, status := .valid, checkedEntries := (first :: rest).length }

/-- An append as its caller makes it, in a transaction of its own. -/
structure Call where
  request : AuditAppend
  uuids : String × String

def Call.run (call : Call) : Tx AuditTables AuditError AuditEntry := append call.request call.uuids

def appendAll (calls : List Call) (tables : AuditTables) : AuditTables :=
  calls.foldl (fun tables call => call.run.commit tables) tables

/-- The calls for a merchant that succeeded, in the order they were made. -/
def accepted (merchantId : String) : List Call → AuditTables → List Call
  | [], _ => []
  | call :: rest, tables =>
    if (call.run.run tables).isOk = true ∧ call.request.merchantId = merchantId then
      call :: accepted merchantId rest (call.run.commit tables)
    else accepted merchantId rest (call.run.commit tables)

end AuditLedger

end RevenueGuard
