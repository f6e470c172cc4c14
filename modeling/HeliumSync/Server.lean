import HeliumSync.Protocol
import Mathlib.Logic.Function.Basic

/-! The server: three tables and the transactions of `api.rs` on them. -/
namespace HeliumSync

/-- A nonnegative `INTEGER` column. -/
abbrev I64 := Fin 9223372036854775808

/-- `u64_from_i64` -/
def I64.toU64 (value : I64) : U64 := ⟨value.val, value.isLt.trans (by decide)⟩

structure ObjectRow (C : Type) where
  nameSpace : String
  revision : I64
  cursor : I64
  deviceId : DeviceId
  modifiedAt : String
  deleted : Bool
  envelope : Option (EncryptedEnvelopeV1 C)

structure ChangeRow where
  cursor : I64
  objectId : ObjectId
  nameSpace : String
  revision : I64
  deviceId : DeviceId
  modifiedAt : String
  deleted : Bool
  deriving DecidableEq

structure DeviceRow where
  name : String
  createdAt : String
  revokedAt : Option String
  deriving DecidableEq

/-- `changes` lists its rows in the order of insertion; `sequence` is the last cursor that
`AUTOINCREMENT` gave out. -/
structure Server (C : Type) where
  devices : DeviceId → Option DeviceRow
  objects : ObjectId → Option (ObjectRow C)
  changes : List ChangeRow
  sequence : Nat

def Server.empty {C : Type} : Server C := ⟨fun _ => none, fun _ => none, [], 0⟩

namespace ApiError

def new (status : Nat) (code message : String) : ApiError := ⟨status, code, message, none, none⟩

def conflict (currentRevision currentCursor : U64) : ApiError :=
  { new 409 "revision_conflict" "the object changed since the supplied base revision" with
    currentRevision := some currentRevision
    currentCursor := some currentCursor }

def database : ApiError :=
  new 500 "database_unavailable" "the server database operation failed"

def serialization : ApiError :=
  new 500 "stored_data_invalid" "stored synchronization metadata was invalid"

def objectNotFound : ApiError := new 404 "object_not_found" "sync object was not found"

def revisionExhausted : ApiError :=
  new 409 "revision_exhausted" "object revision cannot be incremented"

end ApiError

/-- `MAX_PAYLOAD_BYTES` -/
def maxPayloadBytes : Nat := 4 * 1024 * 1024

/-- `MAX_BATCH_OPERATIONS` -/
def maxBatchOperations : Nat := 100

/-- `MAX_CHANGES_LIMIT` -/
def maxChangesLimit : Nat := 1000

/-- `default_changes_limit` -/
def defaultChangesLimit : Nat := 100

def envelopeAlgorithm : String := "XCHACHA20-POLY1305"

namespace Server
variable {C : Type} (P : Primitives C)

/-- `validate_put` -/
def validatePut (request : PutObjectRequest C) : Except ApiError Unit :=
  if request.nameSpace.isEmpty ∨ 128 < request.nameSpace.utf8ByteSize then
    .error (.new 422 "invalid_namespace" "namespace must contain between 1 and 128 characters")
  else if request.envelope.version ≠ 1 ∨ request.envelope.algorithm ≠ envelopeAlgorithm ∨
      request.envelope.nonce.length ≠ 24 then
    .error (.new 422 "invalid_envelope"
      "encrypted envelope must use version 1 XChaCha20-Poly1305 with a 24-byte nonce")
  else if maxPayloadBytes < P.cipherLength request.envelope.ciphertext then
    .error (.new 413 "payload_too_large"
      "encrypted payload exceeds the configured 4 MiB limit")
  else .ok ()

/-- `ensure_active_device` -/
def ensureActiveDevice (server : Server C) (id : DeviceId) : Except ApiError Unit :=
  match server.devices id with
  | some row =>
      if row.revokedAt = none then .ok ()
      else .error (.new 403 "device_revoked" "the writing device is revoked")
  | none => .error (.new 403 "device_unregistered" "the writing device is not registered")

/-- `timestamp_string` -/
def timestampString (time : Timestamp) : Except ApiError String :=
  match P.formatRfc3339 time with
  | .ok text => .ok text
  | .error _ => .error .serialization

/-- `parse_timestamp` -/
def parseTimestamp (text : String) : Except ApiError Timestamp :=
  match P.parseRfc3339 text with
  | .ok time => .ok time
  | .error _ => .error .serialization

/-- `i64_from_u64` -/
def i64FromU64 (value : U64) (label : String) : Except ApiError I64 :=
  if h : value.val < 9223372036854775808 then .ok ⟨value.val, h⟩
  else .error (.new 422 "numeric_range" s!"{label} exceeds the supported range")

/-- `checked_add(1)` -/
def checkedSucc (revision : U64) : Except ApiError U64 :=
  if h : revision.val + 1 < 18446744073709551616 then .ok ⟨revision.val + 1, h⟩
  else .error .revisionExhausted

/-- The revision a put would create. -/
def nextRevision : Option (ObjectRow C) → Option U64 → Except ApiError U64
  | none, none => .ok 1
  | some row, some base =>
      if row.revision.toU64 = base then checkedSucc base
      else .error (.conflict row.revision.toU64 row.cursor.toU64)
  | some row, none => .error (.conflict row.revision.toU64 row.cursor.toU64)
  | none, some _ =>
      .error (.new 409 "object_missing"
        "an update base revision was supplied for a missing object")

/-- `AUTOINCREMENT` -/
def nextCursor (server : Server C) : Except ApiError I64 :=
  if h : server.sequence + 1 < 9223372036854775808 then .ok ⟨server.sequence + 1, h⟩
  else .error .database

/-- Both statements of a write: the change row and the object row it describes. -/
def write (server : Server C) (id : ObjectId) (row : ObjectRow C) : Server C where
  devices := server.devices
  objects := Function.update server.objects id (some row)
  changes := server.changes ++ [{
    cursor := row.cursor
    objectId := id
    nameSpace := row.nameSpace
    revision := row.revision
    deviceId := row.deviceId
    modifiedAt := row.modifiedAt
    deleted := row.deleted }]
  sequence := row.cursor.val

/-- `put_object_tx` -/
def putObject (server : Server C) (id : ObjectId) (request : PutObjectRequest C) :
    Except ApiError (SyncObject C × Server C) := do
  validatePut P request
  server.ensureActiveDevice request.deviceId
  let newRevision ← nextRevision (server.objects id) request.baseRevision
  let modifiedAt ← timestampString P request.modifiedAt
  let revision ← i64FromU64 newRevision "revision"
  let cursor ← server.nextCursor
  return ({
    id
    nameSpace := request.nameSpace
    revision := newRevision
    cursor := cursor.toU64
    deviceId := request.deviceId
    modifiedAt := request.modifiedAt
    deleted := false
    envelope := some request.envelope },
    server.write id {
      nameSpace := request.nameSpace
      revision
      cursor
      deviceId := request.deviceId
      modifiedAt
      deleted := false
      envelope := some request.envelope })

/-- `delete_object_tx` -/
def deleteObject (server : Server C) (id : ObjectId) (request : DeleteObjectRequest) :
    Except ApiError (SyncObject C × Server C) := do
  server.ensureActiveDevice request.deviceId
  let some row := server.objects id | throw .objectNotFound
  if row.revision.toU64 ≠ request.baseRevision then
    throw (.conflict row.revision.toU64 row.cursor.toU64)
  let newRevision ← checkedSucc row.revision.toU64
  let modifiedAt ← timestampString P request.modifiedAt
  let revision ← i64FromU64 newRevision "revision"
  let cursor ← server.nextCursor
  return ({
    id
    nameSpace := row.nameSpace
    revision := newRevision
    cursor := cursor.toU64
    deviceId := request.deviceId
    modifiedAt := request.modifiedAt
    deleted := true
    envelope := none },
    server.write id {
      nameSpace := row.nameSpace
      revision
      cursor
      deviceId := request.deviceId
      modifiedAt
      deleted := true
      envelope := none })

/-- `row_to_object` -/
def rowToObject (id : ObjectId) (row : ObjectRow C) : Except ApiError (SyncObject C) := do
  return {
    id
    nameSpace := row.nameSpace
    revision := row.revision.toU64
    cursor := row.cursor.toU64
    deviceId := row.deviceId
    modifiedAt := ← parseTimestamp P row.modifiedAt
    deleted := row.deleted
    envelope := row.envelope }

/-- `get_object` -/
def getObject (server : Server C) (id : ObjectId) : Except ApiError (SyncObject C) :=
  match server.objects id with
  | some row => rowToObject P id row
  | none => .error .objectNotFound

/-- `row_to_change` -/
def rowToChange (row : ChangeRow) : Except ApiError Change := do
  return {
    cursor := row.cursor.toU64
    objectId := row.objectId
    nameSpace := row.nameSpace
    revision := row.revision.toU64
    deviceId := row.deviceId
    modifiedAt := ← parseTimestamp P row.modifiedAt
    deleted := row.deleted }

/-- `changes`: one row more than the limit is fetched to see whether there are more. -/
def changesAfter (server : Server C) (after : U64) (limit : Nat) :
    Except ApiError ChangesResponse := do
  if limit = 0 ∨ maxChangesLimit < limit then
    throw (.new 422 "invalid_limit" "changes limit must be between 1 and 1000")
  let cursor ← i64FromU64 after "after cursor"
  let rows := (server.changes.filter (cursor < ·.cursor)).take (limit + 1)
  let changes ← (rows.take limit).mapM (rowToChange P)
  return {
    changes
    nextCursor := (changes.getLast?.map Change.cursor).getD after
    hasMore := limit < rows.length }

/-- `batch`: the operations share one transaction. -/
def batch (server : Server C) (operations : List (BatchOperation C)) :
    Except ApiError (List (SyncObject C) × Server C) :=
  if operations = [] ∨ maxBatchOperations < operations.length then
    .error (.new 422 "invalid_batch_size" "a batch must contain between 1 and 100 operations")
  else apply server operations
where
  apply (server : Server C) : List (BatchOperation C) →
      Except ApiError (List (SyncObject C) × Server C)
    | [] => .ok ([], server)
    | operation :: operations => do
        let (object, next) ← match operation with
          | .put id request => server.putObject P id request
          | .delete id request => server.deleteObject P id request
        let (objects, last) ← apply next operations
        return (object :: objects, last)

/-- `register_device`, at the server's time `now`. -/
def registerDevice (server : Server C) (request : RegisterDeviceRequest) (now : Timestamp) :
    Except ApiError (Device × Server C) := do
  let name := trim request.name
  if name.isEmpty ∨ 128 < name.utf8ByteSize then
    throw (.new 422 "invalid_device_name"
      "device name must contain between 1 and 128 characters")
  match server.devices request.id with
  | some existing =>
      if existing.name = name ∧ existing.revokedAt = none then
        let createdAt ← parseTimestamp P existing.createdAt
        return (⟨request.id, existing.name, createdAt, none⟩, server)
      else throw (.new 409 "device_exists"
        "a device with this ID is already registered with different or revoked metadata")
  | none =>
      let createdAt ← timestampString P now
      return (⟨request.id, name, now, none⟩,
        { server with
          devices := Function.update server.devices request.id (some ⟨name, createdAt, none⟩) })

/-- `revoke_device`, at the server's time `now`. -/
def revokeDevice (server : Server C) (id : DeviceId) (now : Timestamp) :
    Except ApiError (Server C) := do
  let revokedAt ← timestampString P now
  match server.devices id with
  | some row =>
      if row.revokedAt = none then
        return { server with
          devices := Function.update server.devices id
            (some { row with revokedAt := some revokedAt }) }
      else throw (.new 404 "device_not_found" "active device was not found")
  | none => throw (.new 404 "device_not_found" "active device was not found")

end Server
end HeliumSync
