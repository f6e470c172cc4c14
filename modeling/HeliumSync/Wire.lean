import HeliumSync.Base64
import HeliumSync.Codec
import HeliumSync.Manifest

/-! The JSON forms of the protocol types. On the wire a ciphertext is its bytes. -/
namespace HeliumSync
open Json (asString asU64 asOption asList ofU64 fields lookup required defaulted)

structure ProtocolRange where
  min : Nat
  max : Nat
  deriving DecidableEq

/-- `ProtocolRange::negotiate` -/
def ProtocolRange.negotiate (self peer : ProtocolRange) : Option Nat :=
  let lowestMax := Nat.min self.max peer.max
  if Nat.max self.min peer.min ≤ lowestMax then some lowestMax else none

/-- `PROTOCOL_MIN` -/
def protocolMin : Nat := 1

structure VersionResponse where
  serverVersion : String
  protocol : ProtocolRange
  capabilities : List String
  deriving DecidableEq

structure StatusResponse where
  status : String
  database : String
  serverTime : Timestamp
  protocol : Nat
  deriving DecidableEq

structure ApiErrorBody where
  code : String
  message : String
  requestId : String
  currentRevision : Option U64
  currentCursor : Option U64
  deriving DecidableEq

namespace Json

/-- `u8`, `u16` and `u32` -/
def asUnsigned (bound : Nat) : Json → Except String Nat
  | int value =>
      if 0 ≤ value ∧ value.toNat < bound then .ok value.toNat
      else .error "invalid value: integer out of range"
  | _ => .error "invalid type: expected an integer"

def asBool : Json → Except String Bool
  | bool value => .ok value
  | _ => .error "invalid type: expected a boolean"

/-- `Serialize for Option` -/
def ofMaybe {α : Type} (write : α → Json) : Option α → Json
  | none => null
  | some value => write value

theorem asUnsigned_int {bound value : Nat} (small : value < bound) :
    asUnsigned bound (int value) = .ok value := if_pos ⟨Int.natCast_nonneg value, small⟩

theorem asOption_ofMaybe {α : Type} {read : Json → Except String α} {write : α → Json}
    (plain : ∀ value, write value ≠ null) (value : Option α)
    (round : ∀ a, value = some a → read (write a) = .ok a) :
    asOption read (ofMaybe write value) = .ok value := by
  cases value with
  | none => rfl
  | some a =>
      have read' := round a rfl
      rw [ofMaybe, asOption]
      · rw [read']; rfl
      · exact plain a

end Json
open Json (asUnsigned asBool ofMaybe)

section
variable {C : Type} (P : Primitives C)

/-- `Serialize for Timestamp` -/
def writeTimestamp (time : Timestamp) : Except String Json := .str <$> P.formatRfc3339 time

/-- `Deserialize for Timestamp` -/
def readTimestamp (value : Json) : Except String Timestamp := do P.parseRfc3339 (← asString value)

/-- `Serialize for Base64UrlBytes` -/
def writeBytes (bytes : Bytes) : Json := .str (Base64.encode bytes)

/-- `Deserialize for Base64UrlBytes` -/
def readBytes (value : Json) : Except String Bytes := do
  match Base64.decode (← asString value) with
  | some bytes => return bytes
  | none => throw "invalid base64"

/-- `Deserialize for DeviceId` -/
def readDeviceId (value : Json) : Except String DeviceId := do
  return ⟨← P.parseUuid (← asString value)⟩

/-- `Serialize for EncryptedEnvelopeV1` -/
def writeEnvelope (envelope : EncryptedEnvelopeV1 Bytes) : Json :=
  .obj [("version", .int envelope.version), ("algorithm", .str envelope.algorithm),
    ("key_version", .int envelope.keyVersion), ("nonce", writeBytes envelope.nonce),
    ("ciphertext", writeBytes envelope.ciphertext)]

/-- `Deserialize for EncryptedEnvelopeV1` -/
def readEnvelope (value : Json) : Except String (EncryptedEnvelopeV1 Bytes) := do
  let entries ← fields ["version", "algorithm", "key_version", "nonce", "ciphertext"] 5 value
  return {
    version := ← required entries "version" (asUnsigned 256)
    algorithm := ← required entries "algorithm" asString
    keyVersion := ← required entries "key_version" (asUnsigned 4294967296)
    nonce := ← required entries "nonce" readBytes
    ciphertext := ← required entries "ciphertext" readBytes }

/-- `Serialize for SyncObject` -/
def writeSyncObject (object : SyncObject Bytes) : Except String Json := do
  return .obj [("id", .str (P.formatUuid object.id.uuid)), ("namespace", .str object.nameSpace),
    ("revision", ofU64 object.revision), ("cursor", ofU64 object.cursor),
    ("device_id", .str (P.formatUuid object.deviceId.uuid)),
    ("modified_at", ← writeTimestamp P object.modifiedAt), ("deleted", .bool object.deleted),
    ("envelope", ofMaybe writeEnvelope object.envelope)]

/-- `Deserialize for SyncObject` -/
def readSyncObject (value : Json) : Except String (SyncObject Bytes) := do
  let entries ← fields ["id", "namespace", "revision", "cursor", "device_id", "modified_at",
    "deleted", "envelope"] 8 value
  return {
    id := ← required entries "id" (readObjectId P)
    nameSpace := ← required entries "namespace" asString
    revision := ← required entries "revision" asU64
    cursor := ← required entries "cursor" asU64
    deviceId := ← required entries "device_id" (readDeviceId P)
    modifiedAt := ← required entries "modified_at" (readTimestamp P)
    deleted := ← required entries "deleted" asBool
    envelope := ← defaulted entries "envelope" none (asOption readEnvelope) }

/-- `Serialize for PutObjectRequest` -/
def writePutObject (request : PutObjectRequest Bytes) : Except String Json := do
  return .obj [("namespace", .str request.nameSpace),
    ("base_revision", ofMaybe ofU64 request.baseRevision),
    ("device_id", .str (P.formatUuid request.deviceId.uuid)),
    ("modified_at", ← writeTimestamp P request.modifiedAt),
    ("envelope", writeEnvelope request.envelope)]

/-- `Deserialize for PutObjectRequest` -/
def readPutObject (value : Json) : Except String (PutObjectRequest Bytes) := do
  let entries ← fields ["namespace", "base_revision", "device_id", "modified_at", "envelope"] 5 value
  return {
    nameSpace := ← required entries "namespace" asString
    baseRevision := ← defaulted entries "base_revision" none (asOption asU64)
    deviceId := ← required entries "device_id" (readDeviceId P)
    modifiedAt := ← required entries "modified_at" (readTimestamp P)
    envelope := ← required entries "envelope" readEnvelope }

/-- `Serialize for DeleteObjectRequest` -/
def writeDeleteObject (request : DeleteObjectRequest) : Except String Json := do
  return .obj [("base_revision", ofU64 request.baseRevision),
    ("device_id", .str (P.formatUuid request.deviceId.uuid)),
    ("modified_at", ← writeTimestamp P request.modifiedAt)]

/-- `Deserialize for DeleteObjectRequest` -/
def readDeleteObject (value : Json) : Except String DeleteObjectRequest := do
  let entries ← fields ["base_revision", "device_id", "modified_at"] 3 value
  return {
    baseRevision := ← required entries "base_revision" asU64
    deviceId := ← required entries "device_id" (readDeviceId P)
    modifiedAt := ← required entries "modified_at" (readTimestamp P) }

/-- The variant that the tag of a `BatchOperation` names. -/
def readTagged (content : Json) : String → Except String (BatchOperation Bytes)
  | "put" => do
      let entries ← fields ["id", "request"] 2 content
      return .put (← required entries "id" (readObjectId P))
        (← required entries "request" (readPutObject P))
  | "delete" => do
      let entries ← fields ["id", "request"] 2 content
      return .delete (← required entries "id" (readObjectId P))
        (← required entries "request" (readDeleteObject P))
  | _ => .error "unknown variant"

/-- `Deserialize for BatchOperation`, whose tag is one of the fields or the first item. -/
def readBatchOperation : Json → Except String (BatchOperation Bytes)
  | .obj entries => do
      let tag ← required entries "operation" asString
      readTagged P (.obj (entries.filter (·.1 ≠ "operation"))) tag
  | .arr (tag :: items) => do readTagged P (.arr items) (← asString tag)
  | _ => .error "missing field operation"

/-- `Deserialize for BatchRequest` -/
def readBatch (value : Json) : Except String (List (BatchOperation Bytes)) := do
  let entries ← fields ["operations"] 1 value
  required entries "operations" (asList (readBatchOperation P))

/-- How deep the parser goes for the fields of an operation, which are buffered with all that they have,
up to a tag that is none. -/
def contentDepth : Bool → List (String × Json) → Nat
  | _, [] => 0
  | tagged, (key, value) :: entries =>
      if key = "operation" then
        if tagged = false ∧ (value = .str "put" ∨ value = .str "delete") then
          contentDepth true entries
        else 0
      else max value.depth (contentDepth tagged entries)

/-- How deep the parser goes for a `BatchOperation`. -/
def operationDepth : Json → Nat
  | .obj entries => 1 + contentDepth false entries
  | .arr (tag :: items) =>
      if tag = .str "put" ∨ tag = .str "delete" then 1 + Json.depthItems items else 1
  | .arr [] => 1
  | _ => 0

/-- How deep the parser goes for operations, up to the first that cannot be read. -/
def operationsDepth : List Json → Nat
  | [] => 0
  | item :: items =>
      max (operationDepth item)
        (if (readBatchOperation P item).isOk then operationsDepth items else 0)

/-- How deep the parser goes for a `BatchRequest`, which may not have its field twice. -/
def batchDepth : Json → Nat
  | .obj entries =>
      match entries.find? (·.1 = "operations") with
      | some (_, .arr items) => 2 + operationsDepth P items
      | _ => 1
  | .arr (.arr items :: _) => 2 + operationsDepth P items
  | .arr _ => 1
  | _ => 0

/-- `Serialize for BatchResponse` -/
def writeBatch (objects : List (SyncObject Bytes)) : Except String Json := do
  return .obj [("objects", .arr (← objects.mapM (writeSyncObject P)))]

/-- `Serialize for Change` -/
def writeChange (change : Change) : Except String Json := do
  return .obj [("cursor", ofU64 change.cursor),
    ("object_id", .str (P.formatUuid change.objectId.uuid)), ("namespace", .str change.nameSpace),
    ("revision", ofU64 change.revision),
    ("device_id", .str (P.formatUuid change.deviceId.uuid)),
    ("modified_at", ← writeTimestamp P change.modifiedAt), ("deleted", .bool change.deleted)]

/-- `Deserialize for Change` -/
def readChange (value : Json) : Except String Change := do
  let entries ← fields ["cursor", "object_id", "namespace", "revision", "device_id", "modified_at",
    "deleted"] 7 value
  return {
    cursor := ← required entries "cursor" asU64
    objectId := ← required entries "object_id" (readObjectId P)
    nameSpace := ← required entries "namespace" asString
    revision := ← required entries "revision" asU64
    deviceId := ← required entries "device_id" (readDeviceId P)
    modifiedAt := ← required entries "modified_at" (readTimestamp P)
    deleted := ← required entries "deleted" asBool }

/-- `Serialize for ChangesResponse` -/
def writeChanges (page : ChangesResponse) : Except String Json := do
  return .obj [("changes", .arr (← page.changes.mapM (writeChange P))),
    ("next_cursor", ofU64 page.nextCursor), ("has_more", .bool page.hasMore)]

/-- `Deserialize for ChangesResponse` -/
def readChanges (value : Json) : Except String ChangesResponse := do
  let entries ← fields ["changes", "next_cursor", "has_more"] 3 value
  return {
    changes := ← required entries "changes" (asList (readChange P))
    nextCursor := ← required entries "next_cursor" asU64
    hasMore := ← required entries "has_more" asBool }

/-- `Serialize for RegisterDeviceRequest` -/
def writeRegister (request : RegisterDeviceRequest) : Json :=
  .obj [("id", .str (P.formatUuid request.id.uuid)), ("name", .str request.name)]

/-- `Deserialize for RegisterDeviceRequest` -/
def readRegister (value : Json) : Except String RegisterDeviceRequest := do
  let entries ← fields ["id", "name"] 2 value
  return {
    id := ← required entries "id" (readDeviceId P)
    name := ← required entries "name" asString }

/-- `Serialize for Device` -/
def writeDevice (device : Device) : Except String Json := do
  let revokedAt ← match device.revokedAt with
    | none => .ok .null
    | some time => writeTimestamp P time
  return .obj [("id", .str (P.formatUuid device.id.uuid)), ("name", .str device.name),
    ("created_at", ← writeTimestamp P device.createdAt), ("revoked_at", revokedAt)]

/-- `Deserialize for Device` -/
def readDevice (value : Json) : Except String Device := do
  let entries ← fields ["id", "name", "created_at", "revoked_at"] 4 value
  return {
    id := ← required entries "id" (readDeviceId P)
    name := ← required entries "name" asString
    createdAt := ← required entries "created_at" (readTimestamp P)
    revokedAt := ← defaulted entries "revoked_at" none (asOption (readTimestamp P)) }

/-- `Serialize for StatusResponse` -/
def writeStatus (response : StatusResponse) : Except String Json := do
  return .obj [("status", .str response.status), ("database", .str response.database),
    ("server_time", ← writeTimestamp P response.serverTime), ("protocol", .int response.protocol)]

/-- `Deserialize for StatusResponse` -/
def readStatus (value : Json) : Except String StatusResponse := do
  let entries ← fields ["status", "database", "server_time", "protocol"] 4 value
  return {
    status := ← required entries "status" asString
    database := ← required entries "database" asString
    serverTime := ← required entries "server_time" (readTimestamp P)
    protocol := ← required entries "protocol" (asUnsigned 65536) }

end

/-- `Serialize for VersionResponse` -/
def writeVersion (response : VersionResponse) : Json :=
  .obj [("server_version", .str response.serverVersion),
    ("protocol", .obj [("min", .int response.protocol.min), ("max", .int response.protocol.max)]),
    ("capabilities", .arr (response.capabilities.map .str))]

/-- `Deserialize for ProtocolRange` -/
def readProtocolRange (value : Json) : Except String ProtocolRange := do
  let entries ← fields ["min", "max"] 2 value
  return {
    min := ← required entries "min" (asUnsigned 65536)
    max := ← required entries "max" (asUnsigned 65536) }

/-- `Deserialize for VersionResponse` -/
def readVersion (value : Json) : Except String VersionResponse := do
  let entries ← fields ["server_version", "protocol", "capabilities"] 3 value
  return {
    serverVersion := ← required entries "server_version" asString
    protocol := ← required entries "protocol" readProtocolRange
    capabilities := ← required entries "capabilities" (asList asString) }

/-- `Serialize for ApiErrorBody`, which leaves out what is absent. -/
def writeApiErrorBody (body : ApiErrorBody) : Json :=
  .obj ([("code", .str body.code), ("message", .str body.message),
      ("request_id", .str body.requestId)] ++
    (body.currentRevision.map fun revision => ("current_revision", ofU64 revision)).toList ++
    (body.currentCursor.map fun cursor => ("current_cursor", ofU64 cursor)).toList)

/-- `Deserialize for ApiErrorBody` -/
def readApiErrorBody (value : Json) : Except String ApiErrorBody := do
  let entries ← fields ["code", "message", "request_id", "current_revision", "current_cursor"] 5 value
  return {
    code := ← required entries "code" asString
    message := ← required entries "message" asString
    requestId := ← required entries "request_id" asString
    currentRevision := ← defaulted entries "current_revision" none (asOption asU64)
    currentCursor := ← defaulted entries "current_cursor" none (asOption asU64) }

/-- What the exchange relies on: times that can be written are written exactly, and times that were
read can be written. -/
structure Primitives.Textual (P : Primitives Bytes) : Prop where
  uuid : ∀ uuid, P.parseUuid (P.formatUuid uuid) = .ok uuid
  named : ∀ uuid, P.formatUuid uuid ≠ ""
  written : ∀ {time text}, P.formatRfc3339 time = .ok text → P.parseRfc3339 text = .ok time
  writable : ∀ {time text}, P.parseRfc3339 text = .ok time → ∃ text', P.formatRfc3339 time = .ok text'
  cipherLength : ∀ cipher, P.cipherLength cipher = cipher.length

/-- The numbers of an envelope are a `u8` and a `u32`. -/
structure EncryptedEnvelopeV1.Sized (envelope : EncryptedEnvelopeV1 Bytes) : Prop where
  version : envelope.version < 256
  keyVersion : envelope.keyVersion < 4294967296

section
variable {P : Primitives Bytes}

theorem readBytes_writeBytes (bytes : Bytes) : readBytes (writeBytes bytes) = .ok bytes := by
  have decoded : Base64.decode (Base64.encode bytes) = some bytes := Base64.decode_eq_some.mpr rfl
  simp [readBytes, writeBytes, decoded, bind, Except.bind, pure, Except.pure]

theorem readDeviceId_str (textual : P.Textual) (id : DeviceId) :
    readDeviceId P (.str (P.formatUuid id.uuid)) = .ok id := by
  simp [readDeviceId, textual.uuid, bind, Except.bind, pure, Except.pure]

theorem readTimestamp_str (textual : P.Textual) {time : Timestamp} {text : String}
    (written : P.formatRfc3339 time = .ok text) : readTimestamp P (.str text) = .ok time :=
  textual.written written

theorem readEnvelope_writeEnvelope {envelope : EncryptedEnvelopeV1 Bytes} (sized : envelope.Sized) :
    readEnvelope (writeEnvelope envelope) = .ok envelope := by
  have version := Json.asUnsigned_int sized.version
  have keyVersion := Json.asUnsigned_int sized.keyVersion
  simp [readEnvelope, writeEnvelope, fields, required, lookup, Json.only, version, keyVersion,
    readBytes_writeBytes, bind, Except.bind, pure, Except.pure]

theorem asUnsigned_ok {bound n : Nat} {value : Json} (h : asUnsigned bound value = .ok n) :
    n < bound := by
  cases value with
  | int value =>
      rw [asUnsigned] at h
      split_ifs at h with small
      cases h
      exact small.2
  | null | bool | float | str | arr | obj => cases h

theorem readEnvelope_sized {value : Json} {envelope : EncryptedEnvelopeV1 Bytes}
    (h : readEnvelope value = .ok envelope) : envelope.Sized := by
  obtain ⟨entries, _, h⟩ := Fallible.bind_ok_iff.mp h
  obtain ⟨version, first, h⟩ := Fallible.bind_ok_iff.mp h
  obtain ⟨_, _, h⟩ := Fallible.bind_ok_iff.mp h
  obtain ⟨keyVersion, second, h⟩ := Fallible.bind_ok_iff.mp h
  obtain ⟨_, _, h⟩ := Fallible.bind_ok_iff.mp h
  obtain ⟨_, _, h⟩ := Fallible.bind_ok_iff.mp h
  cases h
  obtain ⟨_, _, first⟩ := Json.required_mem first
  obtain ⟨_, _, second⟩ := Json.required_mem second
  exact ⟨asUnsigned_ok first, asUnsigned_ok second⟩

theorem readPutObject_sized {value : Json} {request : PutObjectRequest Bytes}
    (h : readPutObject P value = .ok request) : request.envelope.Sized := by
  obtain ⟨entries, _, h⟩ := Fallible.bind_ok_iff.mp h
  obtain ⟨_, _, h⟩ := Fallible.bind_ok_iff.mp h
  obtain ⟨_, _, h⟩ := Fallible.bind_ok_iff.mp h
  obtain ⟨_, _, h⟩ := Fallible.bind_ok_iff.mp h
  obtain ⟨_, _, h⟩ := Fallible.bind_ok_iff.mp h
  obtain ⟨envelope, last, h⟩ := Fallible.bind_ok_iff.mp h
  cases h
  obtain ⟨_, _, read⟩ := Json.required_mem last
  exact readEnvelope_sized read

theorem writeTimestamp_ok {time : Timestamp} {value : Json} (h : writeTimestamp P time = .ok value) :
    ∃ text, P.formatRfc3339 time = .ok text ∧ value = .str text := by
  rw [writeTimestamp] at h
  cases formatted : P.formatRfc3339 time with
  | error e =>
      rw [formatted] at h
      cases h
  | ok text =>
      rw [formatted] at h
      cases h
      exact ⟨text, rfl, rfl⟩

theorem readMaybe_ofU64 (value : Option U64) : asOption asU64 (ofMaybe ofU64 value) = .ok value :=
  Json.asOption_ofMaybe (fun _ => by simp [ofU64]) value fun a _ => Json.asU64_ofU64 a

theorem readMaybe_writeEnvelope {envelope : Option (EncryptedEnvelopeV1 Bytes)}
    (sized : ∀ e, envelope = some e → e.Sized) :
    asOption readEnvelope (ofMaybe writeEnvelope envelope) = .ok envelope :=
  Json.asOption_ofMaybe (fun _ => by simp [writeEnvelope]) envelope fun e same =>
    readEnvelope_writeEnvelope (sized e same)

/-- A put that can be written is read back as it is. -/
theorem readPutObject_write (textual : P.Textual) {request : PutObjectRequest Bytes}
    (sized : request.envelope.Sized) {value : Json} (h : writePutObject P request = .ok value) :
    readPutObject P value = .ok request := by
  obtain ⟨written, time, h⟩ := Fallible.bind_ok_iff.mp h
  obtain ⟨text, formatted, rfl⟩ := writeTimestamp_ok time
  cases h
  have time := readTimestamp_str textual formatted
  have device := readDeviceId_str textual request.deviceId
  have envelope := readEnvelope_writeEnvelope sized
  have base := readMaybe_ofU64 request.baseRevision
  simp [readPutObject, fields, required, defaulted, lookup, Json.only, time, device, envelope, base,
    bind, Except.bind, pure, Except.pure]

theorem readDeleteObject_write (textual : P.Textual) {request : DeleteObjectRequest} {value : Json}
    (h : writeDeleteObject P request = .ok value) : readDeleteObject P value = .ok request := by
  obtain ⟨written, time, h⟩ := Fallible.bind_ok_iff.mp h
  obtain ⟨text, formatted, rfl⟩ := writeTimestamp_ok time
  cases h
  have time := readTimestamp_str textual formatted
  have device := readDeviceId_str textual request.deviceId
  simp [readDeleteObject, fields, required, lookup, Json.only, time, device, bind, Except.bind, pure,
    Except.pure]

theorem readObjectId_text (textual : P.Textual) (id : ObjectId) :
    readObjectId P (.str (P.formatUuid id.uuid)) = .ok id := by
  simp [readObjectId, textual.uuid, bind, Except.bind, pure, Except.pure]

theorem readSyncObject_write (textual : P.Textual) {object : SyncObject Bytes}
    (sized : ∀ e, object.envelope = some e → e.Sized) {value : Json}
    (h : writeSyncObject P object = .ok value) : readSyncObject P value = .ok object := by
  obtain ⟨written, time, h⟩ := Fallible.bind_ok_iff.mp h
  obtain ⟨text, formatted, rfl⟩ := writeTimestamp_ok time
  cases h
  have time := readTimestamp_str textual formatted
  have device := readDeviceId_str textual object.deviceId
  have id := readObjectId_text textual object.id
  have envelope := readMaybe_writeEnvelope sized
  simp [readSyncObject, fields, required, defaulted, lookup, Json.only, time, device, id, envelope,
    asBool, bind, Except.bind, pure, Except.pure]

theorem readChange_write (textual : P.Textual) {change : Change} {value : Json}
    (h : writeChange P change = .ok value) : readChange P value = .ok change := by
  obtain ⟨written, time, h⟩ := Fallible.bind_ok_iff.mp h
  obtain ⟨text, formatted, rfl⟩ := writeTimestamp_ok time
  cases h
  have time := readTimestamp_str textual formatted
  have device := readDeviceId_str textual change.deviceId
  have id := readObjectId_text textual change.objectId
  simp [readChange, fields, required, lookup, Json.only, time, device, id, asBool, bind, Except.bind,
    pure, Except.pure]

/-- What is written item by item is read item by item. -/
theorem asList_written {α : Type} {write : α → Except String Json} {read : Json → Except String α}
    (round : ∀ a value, write a = .ok value → read value = .ok a) {values : List α}
    {items : List Json} (h : values.mapM write = .ok items) : asList read (.arr items) = .ok values := by
  induction values generalizing items with
  | nil =>
      cases h
      rfl
  | cons a values ih =>
      rw [List.mapM_cons] at h
      obtain ⟨item, first, h⟩ := Fallible.bind_ok_iff.mp h
      obtain ⟨rest, later, h⟩ := Fallible.bind_ok_iff.mp h
      cases h
      have later : rest.mapM read = .ok values := ih later
      rw [asList, List.mapM_cons, round a item first, later]
      rfl

theorem readChanges_write (textual : P.Textual) {page : ChangesResponse} {value : Json}
    (h : writeChanges P page = .ok value) : readChanges P value = .ok page := by
  obtain ⟨items, written, h⟩ := Fallible.bind_ok_iff.mp h
  cases h
  have changes := asList_written (fun _ _ => readChange_write textual) written
  simp [readChanges, fields, required, lookup, Json.only, changes, asBool, bind, Except.bind, pure,
    Except.pure]

theorem readVersion_write {response : VersionResponse} (min : response.protocol.min < 65536)
    (max : response.protocol.max < 65536) : readVersion (writeVersion response) = .ok response := by
  have min := Json.asUnsigned_int min
  have max := Json.asUnsigned_int max
  have capabilities : asList asString (.arr (response.capabilities.map .str)) =
      .ok response.capabilities := Json.asList_map _ fun _ _ => rfl
  simp [readVersion, readProtocolRange, writeVersion, fields, required, lookup, Json.only, min, max,
    capabilities, bind, Except.bind, pure, Except.pure]

theorem readApiErrorBody_write (body : ApiErrorBody) :
    readApiErrorBody (writeApiErrorBody body) = .ok body := by
  obtain ⟨code, message, requestId, revision, cursor⟩ := body
  have number : ∀ value : U64, asOption asU64 (ofU64 value) = .ok (some value) := fun value =>
    readMaybe_ofU64 (some value)
  cases revision <;> cases cursor <;>
    simp [readApiErrorBody, writeApiErrorBody, fields, required, defaulted, lookup, Json.only, number,
      bind, Except.bind, pure, Except.pure]

end
end HeliumSync
