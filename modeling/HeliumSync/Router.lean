import HeliumSync.RecoveryCode
import HeliumSync.Store
import HeliumSync.Wire

/-! The server as it is reached: authentication, protocol negotiation, routing and the handlers of
`api.rs` around the transactions. -/
namespace HeliumSync
open Json (asString)

inductive Method where
  | get
  | head
  | post
  | put
  | delete
  | other (name : String)
  deriving DecidableEq

/-- The path in its segments and the query in its pairs, percent-decoded. -/
structure TransportRequest where
  method : Method
  path : List String
  query : List (String × String)
  headers : List (String × String)
  body : Plaintext

structure TransportResponse where
  status : Nat
  headers : List (String × String)
  body : Plaintext
  deriving DecidableEq

/-- `PROTOCOL_HEADER` -/
def protocolHeader : String := "x-helium-sync-protocol"

/-- `HeaderMap::get` and `HeaderValue::to_str`, which takes visible ASCII only. -/
def headerText (headers : List (String × String)) (name : String) : Option String :=
  ((headers.find? (·.1 = name)).map (·.2)).filter fun value =>
    value.toList.all fun c => (32 ≤ c.toNat && c.toNat < 127) || c = '\t'

/-- `str::parse` of an unsigned number, which takes a plus before the digits. -/
def parseUnsigned (bound : Nat) (text : String) : Option Nat :=
  let digits := match text.toList with
    | '+' :: rest => rest
    | chars => chars
  if digits.isEmpty ∨ ¬ digits.all Char.isDigit then none
  else
    let value := Nat.ofDigitChars 10 digits 0
    if value < bound then some value else none

/-- What `axum` decides and words by itself. -/
structure Axum where
  /-- `json_content_type` -/
  jsonContentType : String → Bool
  rejection : Nat → String
  /-- In a body that is no JSON, a value of another type stands before what is wrong with the text. -/
  mistyped : TransportRequest → Bool

/-- The status for a body that is no JSON: what stands first in it decides. -/
def Axum.malformed (A : Axum) (request : TransportRequest) : Nat :=
  if A.mistyped request then 422 else 400

/-- What the server meets while it handles one request. -/
structure Moment where
  now : Timestamp
  requestId : String
  /-- The database fails. -/
  fault : Bool
  /-- The rows that `list_devices` finds. -/
  listed : List Device

structure AppState where
  tokenDigest : String

/-- `DefaultBodyLimit` -/
def bodyLimit : Nat := maxPayloadBytes + 64 * 1024

/-- Why a handler is not reached or does not succeed. -/
inductive Refusal where
  | api (error : ApiError)
  | axum (status : Nat)

inductive Route where
  | version
  | status
  | devices
  | device (id : String)
  | changes
  | object (id : String)
  | batch
  deriving DecidableEq

/-- The paths of `router`. -/
def route : List String → Option Route
  | ["v1", "version"] => some .version
  | ["v1", "status"] => some .status
  | ["v1", "devices"] => some .devices
  | ["v1", "devices", id] => if id = "" then none else some (.device id)
  | ["v1", "changes"] => some .changes
  | ["v1", "objects", id] => if id = "" then none else some (.object id)
  | ["v1", "batch"] => some .batch
  | _ => none

/-- A status and, where there is one, the document to send. -/
structure Answer where
  status : Nat
  document : Option (Except String Json)

def versionResponse : VersionResponse where
  serverVersion := "0.5.0"
  protocol := ⟨protocolMin, protocolMax⟩
  capabilities := ["objects", "changes", "devices", "batch", "encrypted-envelope-v1"]

section
variable (A : Axum) (P : Primitives Bytes) (app : AppState) (moment : Moment)
  (request : TransportRequest) (server : Server Bytes)

/-- `token_digest` -/
def tokenDigest (token : String) : String := P.sha256 (textBytes token)

/-- `require_auth` -/
def requireAuth : Except Refusal Unit :=
  match (headerText request.headers "authorization").bind (stripPrefix "Bearer ") with
  | none => .error (.api (.new 401 "authentication_required" "a bearer token is required"))
  | some presented =>
      if tokenDigest P presented = app.tokenDigest then .ok ()
      else .error (.api (.new 401 "authentication_rejected" "the bearer token was rejected"))

/-- `require_protocol` -/
def requireProtocol : Except Refusal Unit :=
  if (headerText request.headers protocolHeader).bind (parseUnsigned 65536) = some protocolMax then
    .ok ()
  else .error (.api (.new 426 "protocol_incompatible"
    "a supported x-helium-sync-protocol header is required"))

/-- `Path<Uuid>` -/
def pathUuid (segment : String) : Except Refusal (BitVec 128) :=
  (P.parseUuid segment).mapError fun _ => .axum 400

/-- `Json<T>`, for a `T` into which the parser goes this deep. -/
def readBody {α : Type} (depth : Json → Nat) (read : Json → Except String α) :
    Except Refusal α := do
  if ¬ (headerText request.headers "content-type").any A.jsonContentType then throw (.axum 415)
  else if bodyLimit < (P.plainBytes request.body).length then throw (.axum 413)
  else
    let value ← (P.parseText request.body).mapError fun _ => .axum (A.malformed request)
    if depth value < Json.recursionLimit then (read value).mapError fun _ => .axum 422
    else throw (.axum 400)

/-- A field of `Query<ChangesQuery>` with its default. -/
def queryNumber (name : String) (bound default : Nat) : Except Refusal Nat :=
  match request.query.filter (·.1 = name) with
  | [] => .ok default
  | [(_, text)] =>
      match parseUnsigned bound text with
      | some value => .ok value
      | none => .error (.axum 400)
  | _ => .error (.axum 400)

/-- A query or transaction that runs unless the database fails. -/
def queried {α : Type} (result : Except ApiError α) : Except Refusal α :=
  if moment.fault then .error (.api .database) else result.mapError .api

/-- `status` -/
def handleStatus : Except Refusal (Answer × Server Bytes) := do
  queried moment (.ok ())
  return (⟨200, some (writeStatus P ⟨"ok", "ok", moment.now, protocolMax⟩)⟩, server)

/-- `list_devices` -/
def handleListDevices : Except Refusal (Answer × Server Bytes) := do
  let devices ← queried moment (.ok moment.listed)
  return (⟨200, some (.arr <$> devices.mapM (writeDevice P))⟩, server)

/-- `register_device` -/
def handleRegisterDevice : Except Refusal (Answer × Server Bytes) := do
  let body ← readBody A P request (fun _ => 1) (readRegister P)
  let name := trim body.name
  if name.isEmpty ∨ 128 < name.utf8ByteSize then
    throw (.api (.new 422 "invalid_device_name"
      "device name must contain between 1 and 128 characters"))
  else
    let (device, server') ← queried moment (server.registerDevice P body moment.now)
    let status := if (server.devices body.id).isSome then 200 else 201
    return (⟨status, some (writeDevice P device)⟩, server')

/-- `revoke_device` -/
def handleRevokeDevice (segment : String) : Except Refusal (Answer × Server Bytes) := do
  let id ← pathUuid P segment
  let _ ← (Server.timestampString P moment.now).mapError .api
  let server' ← queried moment (server.revokeDevice P ⟨id⟩ moment.now)
  return (⟨204, none⟩, server')

/-- `changes` -/
def handleChanges : Except Refusal (Answer × Server Bytes) := do
  let after ← queryNumber request "after" 18446744073709551616 0
  let limit ← queryNumber request "limit" 4294967296 defaultChangesLimit
  if limit = 0 ∨ maxChangesLimit < limit then
    throw (.api (.new 422 "invalid_limit" "changes limit must be between 1 and 1000"))
  else
    let _ ← (Server.i64FromU64 (Fin.ofNat _ after) "after cursor").mapError .api
    let page ← queried moment (server.changesAfter P (Fin.ofNat _ after) limit)
    return (⟨200, some (writeChanges P page)⟩, server)

/-- `get_object` -/
def handleGetObject (segment : String) : Except Refusal (Answer × Server Bytes) := do
  let id ← pathUuid P segment
  let object ← queried moment (server.getObject P ⟨id⟩)
  return (⟨200, some (writeSyncObject P object)⟩, server)

/-- `put_object` -/
def handlePutObject (segment : String) : Except Refusal (Answer × Server Bytes) := do
  let id ← pathUuid P segment
  let body ← readBody A P request (fun _ => 2) (readPutObject P)
  let (object, server') ← queried moment (server.putObject P ⟨id⟩ body)
  return (⟨200, some (writeSyncObject P object)⟩, server')

/-- `delete_object` -/
def handleDeleteObject (segment : String) : Except Refusal (Answer × Server Bytes) := do
  let id ← pathUuid P segment
  let body ← readBody A P request (fun _ => 1) (readDeleteObject P)
  let (object, server') ← queried moment (server.deleteObject P ⟨id⟩ body)
  return (⟨200, some (writeSyncObject P object)⟩, server')

/-- `batch` -/
def handleBatch : Except Refusal (Answer × Server Bytes) := do
  let operations ← readBody A P request (batchDepth P) (readBatch P)
  if operations = [] ∨ maxBatchOperations < operations.length then
    throw (.api (.new 422 "invalid_batch_size" "a batch must contain between 1 and 100 operations"))
  else
    let (objects, server') ← queried moment (server.batch P operations)
    return (⟨200, some (writeBatch P objects)⟩, server')

/-- The handlers behind `require_protocol`. `HEAD` is served as `GET`. -/
def handleNegotiated : Route → Except Refusal (Answer × Server Bytes)
  | .status =>
      match request.method with
      | .get | .head => handleStatus P moment server
      | _ => .error (.axum 405)
  | .devices =>
      match request.method with
      | .get | .head => handleListDevices P moment server
      | .post => handleRegisterDevice A P moment request server
      | _ => .error (.axum 405)
  | .device id =>
      match request.method with
      | .delete => handleRevokeDevice P moment server id
      | _ => .error (.axum 405)
  | .changes =>
      match request.method with
      | .get | .head => handleChanges P moment request server
      | _ => .error (.axum 405)
  | .object id =>
      match request.method with
      | .get | .head => handleGetObject P moment server id
      | .put => handlePutObject A P moment request server id
      | .delete => handleDeleteObject A P moment request server id
      | _ => .error (.axum 405)
  | .batch =>
      match request.method with
      | .post => handleBatch A P moment request server
      | _ => .error (.axum 405)
  | .version => .error (.axum 404)

/-- The layers of `router` in their order, up to the handler. What `merge` takes for paths that nobody
has comes from the negotiated routes, with their layer. -/
def handle : Except Refusal (Answer × Server Bytes) := do
  requireAuth P app request
  match route request.path with
  | none => do
      requireProtocol request
      throw (.axum 404)
  | some .version =>
      match request.method with
      | .get | .head => return (⟨200, some (.ok (writeVersion versionResponse))⟩, server)
      | _ => throw (.axum 405)
  | some route => do
      requireProtocol request
      handleNegotiated A P moment request server route

/-- `IntoResponse for ApiError` -/
def ApiError.respond (error : ApiError) : TransportResponse where
  status := error.status
  headers := [("content-type", "application/json"), ("x-request-id", moment.requestId)]
  body := .json (writeApiErrorBody
    ⟨error.code, error.message, moment.requestId, error.currentRevision, error.currentCursor⟩)

def Refusal.respond : Refusal → TransportResponse
  | .api error => error.respond moment
  | .axum status => ⟨status, [], .text (A.rejection status)⟩

/-- `IntoResponse` of what a handler returns. A document that cannot be written is an error. -/
def Answer.respond (answer : Answer) : TransportResponse :=
  match answer.document with
  | none => ⟨answer.status, [], .binary []⟩
  | some (.ok document) => ⟨answer.status, [("content-type", "application/json")], .json document⟩
  | some (.error e) => ⟨500, [("content-type", "text/plain; charset=utf-8")], .text e⟩

/-- `router` -/
def router : TransportResponse × Server Bytes :=
  let (response, server') := match handle A P app moment request server with
    | .ok (answer, server') => (answer.respond, server')
    | .error refusal => (refusal.respond A moment, server)
  (if request.method = .head then { response with body := .binary [] } else response, server')

end
end HeliumSync
