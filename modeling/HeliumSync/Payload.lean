import HeliumSync.Answers
import HeliumSync.RemoteCalls
import HeliumSync.WireReference

/-! What the limit on bodies means for payloads: base64 makes a ciphertext that `validate_put` would still
take too long to arrive. -/
namespace HeliumSync
open Fallible (Fails)

/-- Every three bytes become four characters. -/
theorem length_encode (bytes : Bytes) : 4 * bytes.length ≤ 3 * (Base64.encode bytes).length := by
  have packed : ∀ bytes : Bytes, 4 * bytes.length ≤ 3 * (Base64.pack bytes).length := by
    intro bytes
    induction bytes using Base64.pack.induct with
    | case1 => exact Nat.le_refl 0
    | case2 a => exact Nat.le_of_ble_eq_true rfl
    | case3 a b => exact Nat.le_of_ble_eq_true rfl
    | case4 a b c rest ih =>
        simp only [Base64.pack, List.length_cons]
        omega
  rw [Base64.encode, String.length_ofList, List.length_map]
  exact packed bytes

section
variable {P : Primitives Bytes}

theorem readBytes_ok {value : Json} {bytes : Bytes} (h : readBytes value = .ok bytes) :
    value = .str (Base64.encode bytes) := by
  cases value with
  | str text =>
      rw [readBytes, Json.asString_str, Fallible.ok_bind] at h
      split at h
      · rename_i decoded
        cases h
        rw [Base64.decode_eq_some.mp decoded]
      · cases h
  | null | bool | int | float | arr | obj => cases h

/-- The ciphertext of an envelope is a text of its document. -/
theorem readEnvelope_strings {value : Json} {envelope : EncryptedEnvelopeV1 Bytes}
    (h : readEnvelope value = .ok envelope) : Base64.encode envelope.ciphertext ∈ value.strings := by
  obtain ⟨entries, visited, h⟩ := Fallible.bind_ok_iff.mp h
  obtain ⟨_, _, h⟩ := Fallible.bind_ok_iff.mp h
  obtain ⟨_, _, h⟩ := Fallible.bind_ok_iff.mp h
  obtain ⟨_, _, h⟩ := Fallible.bind_ok_iff.mp h
  obtain ⟨_, _, h⟩ := Fallible.bind_ok_iff.mp h
  obtain ⟨ciphertext, last, h⟩ := Fallible.bind_ok_iff.mp h
  cases h
  obtain ⟨field, read, within⟩ := Json.strings_required visited last
  refine within ?_
  rw [readBytes_ok read]
  exact List.mem_singleton.mpr rfl

theorem readPutObject_strings {value : Json} {request : PutObjectRequest Bytes}
    (h : readPutObject P value = .ok request) :
    Base64.encode request.envelope.ciphertext ∈ value.strings := by
  obtain ⟨entries, visited, h⟩ := Fallible.bind_ok_iff.mp h
  obtain ⟨_, _, h⟩ := Fallible.bind_ok_iff.mp h
  obtain ⟨_, _, h⟩ := Fallible.bind_ok_iff.mp h
  obtain ⟨_, _, h⟩ := Fallible.bind_ok_iff.mp h
  obtain ⟨_, _, h⟩ := Fallible.bind_ok_iff.mp h
  obtain ⟨envelope, last, h⟩ := Fallible.bind_ok_iff.mp h
  cases h
  obtain ⟨field, read, within⟩ := Json.strings_required visited last
  exact within (readEnvelope_strings read)

/-- A put that is read from a part of a body that arrives is short. -/
theorem arrived_short (spells : P.Spells) {body : Plaintext} {document value : Json}
    {request : PutObjectRequest Bytes} (parsed : P.parseText body = .ok document)
    (short : (P.plainBytes body).length ≤ bodyLimit) (within : value.strings ⊆ document.strings)
    (read : readPutObject P value = .ok request) :
    4 * request.envelope.ciphertext.length ≤ 3 * bodyLimit := by
  have encoded := spells parsed _ (within (readPutObject_strings read))
  have longer := length_encode request.envelope.ciphertext
  omega

/-- The error of a handler, if it is one of the application. -/
def Refusal.Tells (told : ApiError → Prop) : Refusal → Prop
  | .api error => told error
  | .axum _ => True

/-- An error that is not about the size of a payload. -/
def ApiError.Other (error : ApiError) : Prop := error.code ≠ "payload_too_large"

theorem other_new {status : Nat} {code message : String} (other : code ≠ "payload_too_large") :
    (ApiError.new status code message).Other := other

theorem usual_other : Usual ApiError.Other where
  new _ _ other := other_new other
  conflict := by
    intro revision cursor
    have apart : "revision_conflict" ≠ "payload_too_large" := by simp
    exact apart

section
variable {A : Axum} {app : AppState} {moment : Moment} {request : TransportRequest}
  {server : Server Bytes} {segment : String}

theorem tells_queried {α : Type} {result : Except ApiError α} (tells : Fails ApiError.Other result) :
    Fails (Refusal.Tells ApiError.Other) (queried moment result) := by
  rw [queried]
  split_ifs
  · exact .error usual_other.database
  · exact tells.mapError fun _ other => other

theorem tells_pathUuid : Fails (Refusal.Tells ApiError.Other) (pathUuid P segment) := by
  rw [pathUuid]
  cases P.parseUuid segment with
  | ok id => exact .ok
  | error => exact .error trivial

theorem tells_readBody {α : Type} {depth : Json → Nat} {read : Json → Except String α} :
    Fails (Refusal.Tells ApiError.Other) (readBody A P request depth read) := by
  rw [readBody]
  split_ifs
  · exact .error trivial
  · refine Fails.bind ?_ fun document _ => ?_
    · cases P.parseText request.body with
      | ok document => exact .ok
      | error => exact .error trivial
    · split_ifs
      · cases read document with
        | ok a => exact .ok
        | error => exact .error trivial
      · exact .error trivial
  · exact .error trivial

theorem tells_queryNumber {name : String} {bound default : Nat} :
    Fails (Refusal.Tells ApiError.Other) (queryNumber request name bound default) := by
  rw [queryNumber]
  split
  · exact .ok
  · split
    · exact .ok
    · exact .error trivial
  · exact .error trivial

/-- No payload that has arrived is too long for `validate_put`. -/
theorem fits_of_arrived (textual : P.Textual) (spells : P.Spells) {document value : Json}
    {put : PutObjectRequest Bytes} (parsed : P.parseText request.body = .ok document)
    (short : (P.plainBytes request.body).length ≤ bodyLimit)
    (within : value.strings ⊆ document.strings) (read : readPutObject P value = .ok put) :
    ¬ maxPayloadBytes < P.cipherLength put.envelope.ciphertext := by
  have bound : 4 * put.envelope.ciphertext.length ≤ 3 * bodyLimit :=
    arrived_short spells parsed short within read
  have limits : 3 * bodyLimit < 4 * maxPayloadBytes := by decide
  rw [textual.cipherLength]
  omega

theorem tells_handleNegotiated (textual : P.Textual) (spells : P.Spells) (route : Route) :
    Fails (Refusal.Tells ApiError.Other) (handleNegotiated A P moment request server route) := by
  have refused : Fails (Refusal.Tells ApiError.Other)
      (.error (.axum 405) : Except Refusal (Answer × Server Bytes)) := .error trivial
  have fits {put : PutObjectRequest Bytes} (read : readBody A P request (fun _ => 2) (readPutObject P) = .ok put) :
      ¬ maxPayloadBytes < P.cipherLength put.envelope.ciphertext := by
    obtain ⟨document, parsed, short, read⟩ := readBody_ok read
    exact fits_of_arrived textual spells parsed short (List.Subset.refl _) read
  have eachFits {operations : List (BatchOperation Bytes)}
      (read : readBody A P request (batchDepth P) (readBatch P) = .ok operations) {id : ObjectId}
      {put : PutObjectRequest Bytes} (member : .put id put ∈ operations) :
      ¬ maxPayloadBytes < P.cipherLength put.envelope.ciphertext := by
    obtain ⟨document, parsed, short, read⟩ := readBody_ok read
    obtain ⟨value, read, within⟩ := readBatch_put read member
    exact fits_of_arrived textual spells parsed short within read
  cases route with
  | version => exact .error trivial
  | status =>
      rw [handleNegotiated]
      split <;> first | exact refused | exact (tells_queried .ok).bind fun _ _ => .ok
  | devices =>
      rw [handleNegotiated]
      split
      · exact (tells_queried .ok).bind fun _ _ => .ok
      · exact (tells_queried .ok).bind fun _ _ => .ok
      · refine tells_readBody.bind fun body _ => ?_
        dsimp only
        split
        · exact .error (other_new (by simp))
        · exact (tells_queried usual_other.registerDevice).bind fun _ _ => .ok
      · exact refused
  | device segment =>
      rw [handleNegotiated]
      split
      · refine tells_pathUuid.bind fun _ _ => Fails.bind
          (usual_other.timestampString.mapError fun _ other => ?_) fun _ _ =>
          (tells_queried usual_other.revokeDevice).bind fun _ _ => .ok
        exact other
      · exact refused
  | changes =>
      rw [handleNegotiated]
      have pages : Fails (Refusal.Tells ApiError.Other) (handleChanges P moment request server) := by
        refine tells_queryNumber.bind fun after _ => tells_queryNumber.bind fun limit _ => ?_
        split_ifs
        · exact .error (other_new (by simp))
        · refine Fails.bind (usual_other.i64FromU64.mapError fun _ other => ?_) fun _ _ =>
            (tells_queried usual_other.changesAfter).bind fun _ _ => .ok
          exact other
      split
      · exact pages
      · exact pages
      · exact refused
  | object segment =>
      have gets : Fails (Refusal.Tells ApiError.Other) (handleGetObject P moment server segment) :=
        tells_pathUuid.bind fun _ _ => (tells_queried usual_other.getObject).bind fun _ _ => .ok
      rw [handleNegotiated]
      split
      · exact gets
      · exact gets
      · exact tells_pathUuid.bind fun _ _ => tells_readBody.bind fun _ read =>
          (tells_queried (usual_other.putObject fun long => absurd long (fits read))).bind
            fun _ _ => .ok
      · exact tells_pathUuid.bind fun _ _ => tells_readBody.bind fun _ _ =>
          (tells_queried usual_other.deleteObject).bind fun _ _ => .ok
      · exact refused
  | batch =>
      rw [handleNegotiated]
      split
      · refine tells_readBody.bind fun operations read => ?_
        dsimp only
        split_ifs
        · exact .error (other_new (by simp))
        · exact (tells_queried (usual_other.batch fun _ _ member long =>
            absurd long (eachFits read member))).bind fun _ _ => .ok
      · exact refused

theorem tells_handle (textual : P.Textual) (spells : P.Spells) :
    Fails (Refusal.Tells ApiError.Other) (handle A P app moment request server) := by
  refine Fails.bind ?_ fun _ _ => ?_
  · rw [requireAuth]
    split
    · exact .error (other_new (by simp))
    · split_ifs
      · exact .ok
      · exact .error (other_new (by simp))
  · have negotiated : Fails (Refusal.Tells ApiError.Other) (requireProtocol request) := by
      rw [requireProtocol]
      split_ifs
      · exact .ok
      · exact .error (other_new (by simp))
    split
    · exact negotiated.bind fun _ _ => .error trivial
    · split
      · exact .ok
      · exact .ok
      · exact .error trivial
    · exact negotiated.bind fun _ _ => tells_handleNegotiated textual spells _

variable {client : ApiClient} {id : ObjectId} {put : PutObjectRequest Bytes} {document : Json}

/-- The text of a long ciphertext is over the limit by itself. -/
theorem long_body (textual : P.Textual) (spells : P.Spells) (sized : put.envelope.Sized)
    (written : writePutObject P put = .ok document)
    (long : 3 * bodyLimit < 4 * put.envelope.ciphertext.length) :
    bodyLimit < (P.writeJson document).length := by
  have parsed : P.parseText (.json document) = .ok document := rfl
  have encoded : (Base64.encode put.envelope.ciphertext).length ≤ (P.writeJson document).length :=
    spells parsed _ (readPutObject_strings (readPutObject_write textual sized written))
  have longer := length_encode put.envelope.ciphertext
  omega

theorem handle_long (textual : P.Textual) (spells : P.Spells)
    (json : A.jsonContentType "application/json" = true)
    (ready : client.protocol = some protocolMax) (sized : put.envelope.Sized)
    (written : writePutObject P put = .ok document)
    (long : 3 * bodyLimit < 4 * put.envelope.ciphertext.length)
    (authorized : Authorized P app ⟨.put, ["v1", "objects", P.formatUuid id.uuid], [],
      client.headers true true, .json document⟩) :
    handle A P app moment ⟨.put, ["v1", "objects", P.formatUuid id.uuid], [],
      client.headers true true, .json document⟩ server = .error (.axum 413) := by
  have past : bodyLimit < (P.plainBytes (.json document)).length :=
    long_body textual spells sized written long
  have refused : readBody A P ⟨.put, ["v1", "objects", P.formatUuid id.uuid], [],
      client.headers true true, .json document⟩ (fun _ => 2) (readPutObject P) =
        .error (.axum 413) := by
    rw [readBody]
    simp only [contentType_sent, Option.any_some, json, not_true, if_false, if_pos past]
    rfl
  rw [handle_sent ready (route_object textual) (fun same => by cases same) authorized]
  simp only [handleNegotiated, handlePutObject, pathUuid_sent textual, refused]
  rfl

/-- `validate_put` never refuses a payload for its length: a ciphertext of more than three quarters of the
limit on bodies does not get there. The server answers such a put in words that the client cannot
read. -/
theorem payload_limit (A : Axum) (P : Primitives Bytes) (app : AppState) (textual : P.Textual)
    (spells : P.Spells) (json : A.jsonContentType "application/json" = true)
    (plain : ∀ body, (P.parseText (.text (A.rejection 413))).bind readApiErrorBody ≠ .ok body) :
    (∀ history id row, (served A P app .empty history).objects id = some row →
      ∀ e, row.envelope = some e → 4 * e.ciphertext.length ≤ 3 * bodyLimit) ∧
    (∀ moment request server error, handle A P app moment request server = .error (.api error) →
      error.code ≠ "payload_too_large") ∧
    ∀ (moment : Moment) (server : Server Bytes) (client : ApiClient) (id : ObjectId)
      (put : PutObjectRequest Bytes) (document : Json), client.protocol = some protocolMax → put.envelope.Sized →
      writePutObject P put = .ok document → 3 * bodyLimit < 4 * put.envelope.ciphertext.length →
      Authorized P app ⟨.put, ["v1", "objects", P.formatUuid id.uuid], [],
        client.headers true true, .json document⟩ →
      ∃ response, router A P app moment ⟨.put, ["v1", "objects", P.formatUuid id.uuid], [],
          client.headers true true, .json document⟩ server = (response, server) ∧
        parseResponse P (readSyncObject P) response = .error (.client (.api 413
          "unexpected_response" "server returned a non-JSON error response")) := by
  refine ⟨?_, fun _ _ _ _ refused => tells_handle textual spells _ refused, ?_⟩
  · intro history
    rw [served_eq_run]
    have empty : Server.empty.Stores fun e : EncryptedEnvelopeV1 Bytes =>
        4 * e.ciphertext.length ≤ 3 * bodyLimit := by
      intro id row found
      cases found
    refine empty.run fun asked member => ?_
    obtain ⟨arrival, _, came⟩ := List.mem_filterMap.mp member
    exact admitted_brings (fun parsed short within read =>
      arrived_short spells parsed short within read) came
  · intro moment server client id put document ready sized written long authorized
    refine ⟨_, router_error (handle_long textual spells json ready sized written long authorized)
      nofun, ?_⟩
    have unread : errorBody P ((Refusal.axum 413).respond A moment) = ⟨"unexpected_response",
        "server returned a non-JSON error response", "unknown", none, none⟩ := by
      rw [errorBody]
      split
      · rename_i body read
        exact absurd read (plain body)
      · rfl
    have status : ((Refusal.axum 413).respond A moment).status = 413 := rfl
    have failed : ¬ (200 ≤ ((Refusal.axum 413).respond A moment).status ∧
        ((Refusal.axum 413).respond A moment).status < 300) := by
      rw [status]
      decide
    have known : ((Refusal.axum 413).respond A moment).status ≠ 401 := by
      rw [status]
      decide
    rw [parseResponse, if_neg failed, if_neg known]
    simp only [unread]
    rfl

end

section
open Reference (wire wire_textual wire_spells axum app moment)

/-- A put with a ciphertext of this many bytes. -/
def putOf (length : Nat) : PutObjectRequest Bytes where
  nameSpace := "bookmarks"
  baseRevision := none
  deviceId := ⟨1⟩
  modifiedAt := ⟨0⟩
  envelope := ⟨1, "XCHACHA20-POLY1305", 1, List.replicate 24 0, List.replicate length 0⟩

def documentOf (length : Nat) : Json := ((writePutObject wire (putOf length)).toOption).getD .null

theorem putOf_sized (length : Nat) : (putOf length).envelope.Sized :=
  ⟨Nat.le_of_ble_eq_true rfl, Nat.le_of_ble_eq_true rfl⟩

theorem putOf_length (length : Nat) : (putOf length).envelope.ciphertext.length = length :=
  List.length_replicate

theorem writePutObject_putOf (length : Nat) :
    writePutObject wire (putOf length) = .ok (documentOf length) := rfl

theorem authorized_client {method : Method} {path : List String} {body : Plaintext} :
    Authorized wire app ⟨method, path, [], Reference.client.headers true true, body⟩ := by
  have presented : (headerText (Reference.client.headers true true) "authorization").bind
      (stripPrefix "Bearer ") = some Reference.token := by decide +kernel
  exact ⟨Reference.token, presented, rfl⟩

/-- The device is registered and puts a short ciphertext. -/
def shortHistory : List (Moment × TransportRequest) :=
  [(moment, ⟨.post, ["v1", "devices"], [], Reference.client.headers true true,
      .json (writeRegister wire ⟨⟨1⟩, "laptop"⟩)⟩),
    (moment, ⟨.put, ["v1", "objects", wire.formatUuid 9], [], Reference.client.headers true true,
      .json (documentOf 20)⟩)]

theorem payload_limit_long_put :
    (∃ row e, (served axum wire app .empty shortHistory).objects ⟨9⟩ = some row ∧
      row.envelope = some e ∧ 4 * e.ciphertext.length ≤ 3 * bodyLimit) ∧
    ∃ response, router axum wire app moment ⟨.put, ["v1", "objects", wire.formatUuid 9], [],
        Reference.client.headers true true, .json (documentOf 3200000)⟩ .empty =
          (response, .empty) ∧
      parseResponse wire (readSyncObject wire) response = .error (.client (.api 413
        "unexpected_response" "server returned a non-JSON error response")) := by
  obtain ⟨short, _, long⟩ := payload_limit axum wire app wire_textual wire_spells
    (by decide +kernel) nofun
  constructor
  · have stored : (((served axum wire app .empty shortHistory).objects ⟨9⟩).bind
        ObjectRow.envelope).isSome = true := by decide +kernel
    obtain ⟨e, some⟩ := Option.isSome_iff_exists.mp stored
    obtain ⟨row, found, held⟩ := Option.bind_eq_some_iff.mp some
    exact ⟨row, e, found, held, short shortHistory ⟨9⟩ row found e held⟩
  · have size : 3 * bodyLimit < 4 * (putOf 3200000).envelope.ciphertext.length := by
      rw [putOf_length]
      decide
    exact long moment .empty Reference.client ⟨9⟩ (putOf 3200000) (documentOf 3200000) rfl
      (putOf_sized 3200000) (writePutObject_putOf 3200000) size authorized_client

end

end
end HeliumSync
