import HeliumSync.Admission
import HeliumSync.World

/-! `ApiClient`: how the requests of a client are sent, and what their answers are taken for. -/
namespace HeliumSync
open Interaction (Prog)

/-- The errors of `ClientError` that only the connection meets are told apart here. -/
inductive RequestError where
  | client (error : ClientError)
  | configuration (details : String)
  | protocolIncompatible (clientMin clientMax serverMin serverMax : Nat)

structure ApiClient where
  token : String
  protocol : Option Nat

/-- A program over the transport. -/
abbrev Web (α : Type) := Prog TransportRequest (fun _ => Except ClientError TransportResponse) α

/-- `HeaderValue::from_str` -/
def isHeaderValue (text : String) : Bool :=
  text.toList.all fun c => (32 ≤ c.toNat && c.toNat ≠ 127) || c = '\t'

section
variable {R : Type} (P : Primitives Bytes)

/-- The error that an answer carries, or stands for. -/
def errorBody (response : TransportResponse) : ApiErrorBody :=
  match (P.parseText response.body).bind readApiErrorBody with
  | .ok body => body
  | .error _ => {
      code := "unexpected_response"
      message := "server returned a non-JSON error response"
      requestId := (headerText response.headers "x-request-id").getD "unknown"
      currentRevision := none
      currentCursor := none }

/-- `parse_response` -/
def parseResponse (read : Json → Except String R) (response : TransportResponse) :
    Except RequestError R :=
  if 200 ≤ response.status ∧ response.status < 300 then
    ((P.parseText response.body).bind read).mapError fun e => .client (.serialization e)
  else if response.status = 401 then .error (.client .apiAuthentication)
  else
    let body := errorBody P response
    .error (.client (.api response.status body.code body.message))

namespace ApiClient
variable (client : ApiClient)

def authorization : String := s!"Bearer {client.token}"

/-- The headers of `json_request`. -/
def headers (includeProtocol body : Bool) : List (String × String) :=
  [("authorization", client.authorization)] ++
    (if includeProtocol then [(protocolHeader, toString (client.protocol.getD protocolMax))] else []) ++
    if body then [("content-type", "application/json")] else []

/-- `json_request` -/
def jsonRequest (method : Method) (path : List String) (query : List (String × String))
    (body : Option (Except String Json)) (includeProtocol : Bool) (read : Json → Except String R) :
    Web (Except RequestError R) :=
  if ¬ isHeaderValue client.authorization then
    .done (.error (.configuration "API token contains invalid header characters"))
  else
    match body with
    | some (.error e) => .done (.error (.client (.serialization e)))
    | some (.ok document) =>
        send ⟨method, path, query, client.headers includeProtocol true, .json document⟩
    | none => send ⟨method, path, query, client.headers includeProtocol false, .binary []⟩
where
  send (request : TransportRequest) : Web (Except RequestError R) :=
    .call request fun
      | .ok response => .done (parseResponse P read response)
      | .error e => .done (.error (.client e))

/-- `negotiate` -/
def negotiate : Web (Except RequestError VersionResponse × ApiClient) :=
  (client.jsonRequest P .get ["v1", "version"] [] none false readVersion).bind fun
    | .error e => .done (.error e, client)
    | .ok response =>
        match ProtocolRange.negotiate ⟨protocolMin, protocolMax⟩ response.protocol with
        | some selected => .done (.ok response, { client with protocol := some selected })
        | none => .done (.error (.protocolIncompatible protocolMin protocolMax
            response.protocol.min response.protocol.max), client)

/-- `ensure_negotiated` -/
def ensureNegotiated : Web (Except RequestError Nat × ApiClient) :=
  match client.protocol with
  | some protocol => .done (.ok protocol, client)
  | none => (client.negotiate P).bind fun
      | (.error e, client) => .done (.error e, client)
      | (.ok _, client) =>
          match client.protocol with
          | some protocol => .done (.ok protocol, client)
          | none => .done (.error (.protocolIncompatible protocolMin protocolMax 0 0), client)

/-- What the methods after negotiation share. -/
def negotiated (method : Method) (path : List String) (query : List (String × String))
    (body : Option (Except String Json)) (read : Json → Except String R) :
    Web (Except RequestError R × ApiClient) :=
  (client.ensureNegotiated P).bind fun
    | (.error e, client) => .done (.error e, client)
    | (.ok _, client) =>
        (client.jsonRequest P method path query body true read).bind fun result =>
          .done (result, client)

/-- `status` -/
def status : Web (Except RequestError StatusResponse × ApiClient) :=
  client.negotiated P .get ["v1", "status"] [] none (readStatus P)

/-- `register_device` -/
def registerDevice (request : RegisterDeviceRequest) : Web (Except RequestError Device × ApiClient) :=
  client.negotiated P .post ["v1", "devices"] [] (some (.ok (writeRegister P request))) (readDevice P)

/-- `put_object` -/
def putObject (id : ObjectId) (request : PutObjectRequest Bytes) :
    Web (Except RequestError (SyncObject Bytes) × ApiClient) :=
  client.negotiated P .put ["v1", "objects", P.formatUuid id.uuid] [] (some (writePutObject P request))
    (readSyncObject P)

/-- `get_object` -/
def getObject (id : ObjectId) : Web (Except RequestError (SyncObject Bytes) × ApiClient) :=
  client.negotiated P .get ["v1", "objects", P.formatUuid id.uuid] [] none (readSyncObject P)

/-- `delete_object` -/
def deleteObject (id : ObjectId) (request : DeleteObjectRequest) :
    Web (Except RequestError (SyncObject Bytes) × ApiClient) :=
  client.negotiated P .delete ["v1", "objects", P.formatUuid id.uuid] []
    (some (writeDeleteObject P request)) (readSyncObject P)

/-- `changes` -/
def changes (after : U64) : Web (Except RequestError ChangesResponse × ApiClient) :=
  client.negotiated P .get ["v1", "changes"] [("after", toString after.val)] none (readChanges P)

end ApiClient

/-- What becomes of a request: it may be lost, or its answer may. -/
inductive Delivery where
  | delivered (moment : Moment)
  | lostRequest (error : ClientError)
  | lostReply (moment : Moment) (error : ClientError)

/-- The transport, up to the server and back. -/
def deliver (A : Axum) (app : AppState) (request : TransportRequest) :
    Delivery → Server Bytes → Option (Server Bytes × Except ClientError TransportResponse)
  | .delivered moment, server =>
      let (response, server') := router A P app moment request server
      some (server', .ok response)
  | .lostRequest error, server => if error.fromTransport then some (server, .error error) else none
  | .lostReply moment error, server =>
      if error.fromTransport then some ((router A P app moment request server).2, .error error)
      else none

end
end HeliumSync
