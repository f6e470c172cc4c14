import HeliumSync.Exchange
import HeliumSync.Stored

/-! Each remote operation of a client, sent over HTTP. -/
namespace HeliumSync

section
variable {A : Axum} {P : Primitives Bytes} {app : AppState} {moment : Moment} {server : Server Bytes}
  {client : ApiClient} {method : Method} {path : List String} {query : List (String × String)}
  {body : Plaintext} {typed : Bool} {id : ObjectId}

theorem requireProtocol_sent (ready : client.protocol = some protocolMax) :
    requireProtocol ⟨method, path, query, client.headers true typed, body⟩ = .ok () := by
  have named : headerText (client.headers true typed) protocolHeader = some "1" := by
    rw [ApiClient.headers, ready, headerText, List.append_assoc, List.find?_append]
    have apart : ("authorization" = protocolHeader) = False := by simp [protocolHeader]
    have digit : Nat.repr 1 = "1" := by decide +kernel
    simp [apart, protocolMax, digit]
  have parsed : parseUnsigned 65536 "1" = some protocolMax := by decide +kernel
  rw [requireProtocol]
  simp only [named, Option.bind_some, parsed, if_true]

theorem contentType_sent :
    headerText (client.headers true true) "content-type" = some "application/json" := by
  rw [ApiClient.headers, headerText, List.append_assoc, List.find?_append]
  simp [protocolHeader]

/-- A document that fits is read from the body it was sent in. -/
theorem readBody_sent {α : Type} {depth : Json → Nat} {read : Json → Except String α}
    {document : Json} {a : α}
    (json : A.jsonContentType "application/json" = true)
    (fits : (P.writeJson document).length ≤ bodyLimit)
    (shallow : depth document < Json.recursionLimit) (round : read document = .ok a) :
    readBody A P ⟨method, path, query, client.headers true true, .json document⟩ depth read =
      .ok a := by
  have small : ¬ bodyLimit < (P.plainBytes (.json document)).length := Nat.not_lt.mpr fits
  rw [readBody]
  simp only [contentType_sent, Option.any_some, json, not_true, if_false, small,
    P.parseText_json]
  rw [Except.mapError, Fallible.bind_ok_iff]
  refine ⟨document, rfl, ?_⟩
  rw [if_pos shallow, round]
  rfl

theorem route_object (textual : P.Textual) :
    route ["v1", "objects", P.formatUuid id.uuid] = some (.object (P.formatUuid id.uuid)) :=
  if_neg (textual.named id.uuid)

theorem pathUuid_sent (textual : P.Textual) :
    pathUuid P (P.formatUuid id.uuid) = .ok id.uuid := by
  rw [pathUuid, textual.uuid]
  rfl

/-- What passes authentication, routing and negotiation gets to its handler. -/
theorem handle_sent (ready : client.protocol = some protocolMax) {route' : Route}
    (routed : route path = some route') (other : route' ≠ .version)
    (authorized : Authorized P app ⟨method, path, query, client.headers true typed, body⟩) :
    handle A P app moment ⟨method, path, query, client.headers true typed, body⟩ server =
      handleNegotiated A P moment ⟨method, path, query, client.headers true typed, body⟩ server
        route' := by
  rw [handle, requireAuth_authorized authorized, routed]
  have negotiated : requireProtocol ⟨method, path, query, client.headers true typed, body⟩ = .ok () :=
    requireProtocol_sent ready
  cases route' with
  | version => exact absurd rfl other
  | status | devices | device | changes | object | batch =>
      change (requireProtocol _ >>= fun _ => _) = _
      rw [negotiated]
      rfl

/-- An object whose time can be written is written, and read back as it is. -/
theorem writeSyncObject_round (textual : P.Textual) {object : SyncObject Bytes}
    (sized : ∀ e, object.envelope = some e → e.Sized) {text : String}
    (formatted : P.formatRfc3339 object.modifiedAt = .ok text) :
    ∃ document, writeSyncObject P object = .ok document ∧
      readSyncObject P document = .ok object := by
  have written : ∃ document, writeSyncObject P object = .ok document := by
    rw [writeSyncObject, writeTimestamp, formatted]
    exact ⟨_, rfl⟩
  obtain ⟨document, written⟩ := written
  exact ⟨document, written, readSyncObject_write textual sized written⟩

theorem writeChange_ok {change : Change} {text : String}
    (formatted : P.formatRfc3339 change.modifiedAt = .ok text) :
    ∃ document, writeChange P change = .ok document := by
  rw [writeChange, writeTimestamp, formatted]
  exact ⟨_, rfl⟩

theorem writeChanges_round (textual : P.Textual) {page : ChangesResponse}
    (formatted : ∀ change ∈ page.changes, ∃ text, P.formatRfc3339 change.modifiedAt = .ok text) :
    ∃ document, writeChanges P page = .ok document ∧ readChanges P document = .ok page := by
  have items : ∃ items, page.changes.mapM (writeChange P) = .ok items := by
    have each : ∀ changes : List Change, (∀ change ∈ changes, ∃ text,
        P.formatRfc3339 change.modifiedAt = .ok text) →
        ∃ items, changes.mapM (writeChange P) = .ok items := by
      intro changes
      induction changes with
      | nil => exact fun _ => ⟨[], rfl⟩
      | cons change changes ih =>
          intro formatted
          obtain ⟨text, time⟩ := formatted change List.mem_cons_self
          obtain ⟨item, written⟩ := writeChange_ok time
          obtain ⟨items, rest⟩ := ih fun other later =>
            formatted other (List.mem_cons_of_mem change later)
          refine ⟨item :: items, ?_⟩
          rw [List.mapM_cons, written, rest]
          rfl
    exact each page.changes formatted
  obtain ⟨items, written⟩ := items
  have whole : writeChanges P page = .ok (.obj [("changes", .arr items),
      ("next_cursor", Json.ofU64 page.nextCursor), ("has_more", .bool page.hasMore)]) := by
    rw [writeChanges, written]
    rfl
  exact ⟨_, whole, readChanges_write textual whole⟩

/-- A number that is written is read as itself. -/
theorem parseUnsigned_toString {bound n : Nat} (small : n < bound) :
    parseUnsigned bound (toString n) = some n := by
  have digits : (toString n).toList = Nat.toDigits 10 n := by
    rw [Nat.toString_eq_ofList_toDigits, String.toList_ofList]
  have numeric : ∀ c ∈ Nat.toDigits 10 n, c.isDigit := fun c member =>
    Nat.isDigit_of_mem_toDigits (by decide) (by decide) member
  have unsigned : ∀ rest, Nat.toDigits 10 n ≠ '+' :: rest := by
    intro rest same
    have plus := numeric '+' (same ▸ List.mem_cons_self)
    exact absurd plus (by decide)
  have present : Nat.toDigits 10 n ≠ [] := Nat.toDigits_ne_nil
  have empty : ¬ ((Nat.toDigits 10 n).isEmpty = true ∨
      ¬ (Nat.toDigits 10 n).all Char.isDigit = true) := by
    rintro (none | other)
    · exact present (List.isEmpty_iff.mp none)
    · exact other (List.all_eq_true.mpr numeric)
  rw [parseUnsigned, digits]
  split
  · rename_i plus
    exact absurd plus (unsigned _)
  · rw [if_neg empty, Nat.ofDigitChars_ten_toDigits]
    exact if_pos small

end

section
variable {ι : Type} {A : Axum} {P : Primitives Bytes} {app : AppState}
  {w : World ι Bytes} {client : ApiClient}

/-- What an accepted put answers is what was put. -/
theorem putObject_object {server server' : Server Bytes} {id : ObjectId}
    {request : PutObjectRequest Bytes} {object : SyncObject Bytes}
    (accepted : server.putObject P id request = .ok (object, server')) :
    object.modifiedAt = request.modifiedAt ∧ object.envelope = some request.envelope := by
  obtain ⟨_, _, accepted⟩ := Fallible.bind_ok_iff.mp accepted
  obtain ⟨_, _, accepted⟩ := Fallible.bind_ok_iff.mp accepted
  obtain ⟨_, _, accepted⟩ := Fallible.bind_ok_iff.mp accepted
  obtain ⟨_, _, accepted⟩ := Fallible.bind_ok_iff.mp accepted
  obtain ⟨_, _, accepted⟩ := Fallible.bind_ok_iff.mp accepted
  obtain ⟨_, _, accepted⟩ := Fallible.bind_ok_iff.mp accepted
  cases accepted
  exact ⟨rfl, rfl⟩

theorem deleteObject_object {server server' : Server Bytes} {id : ObjectId}
    {request : DeleteObjectRequest} {object : SyncObject Bytes}
    (accepted : server.deleteObject P id request = .ok (object, server')) :
    object.modifiedAt = request.modifiedAt ∧ object.envelope = none := by
  obtain ⟨_, _, accepted⟩ := Fallible.bind_ok_iff.mp accepted
  split at accepted
  · split at accepted
    · cases accepted
    · obtain ⟨_, _, accepted⟩ := Fallible.bind_ok_iff.mp accepted
      obtain ⟨_, _, accepted⟩ := Fallible.bind_ok_iff.mp accepted
      obtain ⟨_, _, accepted⟩ := Fallible.bind_ok_iff.mp accepted
      obtain ⟨_, _, accepted⟩ := Fallible.bind_ok_iff.mp accepted
      cases accepted
      exact ⟨rfl, rfl⟩
  · cases accepted

/-- A stored time is one that can be written. -/
theorem parseTimestamp_writable (textual : P.Textual) {text : String} {time : Timestamp}
    (parsed : Server.parseTimestamp P text = .ok time) : ∃ text', P.formatRfc3339 time = .ok text' := by
  rw [Server.parseTimestamp] at parsed
  split at parsed
  · rename_i found
    cases parsed
    exact textual.writable found
  · cases parsed

/-- The page of changes after a cursor that is sent as a number. -/
theorem handleChanges_sent {server : Server Bytes} {moment : Moment} {after : U64}
    {headers : List (String × String)} :
    handleChanges P moment ⟨.get, ["v1", "changes"], [("after", toString after.val)], headers,
        .binary []⟩ server =
      ((Server.i64FromU64 after "after cursor").mapError .api >>= fun _ =>
        queried moment (server.changesAfter P after defaultChangesLimit) >>= fun page =>
          pure (⟨200, some (writeChanges P page)⟩, server)) := by
  have first : queryNumber ⟨.get, ["v1", "changes"], [("after", toString after.val)], headers,
      .binary []⟩ "after" 18446744073709551616 0 = .ok after.val := by
    simp only [queryNumber, List.filter_cons_of_pos, decide_true, List.filter_nil,
      parseUnsigned_toString after.isLt]
  have second : queryNumber ⟨.get, ["v1", "changes"], [("after", toString after.val)], headers,
      .binary []⟩ "limit" 4294967296 defaultChangesLimit = .ok defaultChangesLimit := by
    simp [queryNumber]
  have limit : ¬ (defaultChangesLimit = 0 ∨ maxChangesLimit < defaultChangesLimit) := by decide
  rw [handleChanges, first, Fallible.ok_bind, second, Fallible.ok_bind, if_neg limit,
    Fin.ofNat_val_eq_self]

section
variable {id : ObjectId} (textual : P.Textual) (json : A.jsonContentType "application/json" = true)
  (ready : client.protocol = some protocolMax)
include textual ready

include json in
theorem putObject_carries {request : PutObjectRequest Bytes} {document : Json}
    (sized : request.envelope.Sized) (written : writePutObject P request = .ok document)
    (fits : (P.writeJson document).length ≤ bodyLimit) :
    Carries A P app ⟨.put, ["v1", "objects", P.formatUuid id.uuid], [], client.headers true true,
      .json document⟩ (readSyncObject P) w (w.commit (w.server.putObject P id request)) := by
  refine carries_commit (writeSyncObject P) (fun moment authorized => .inl ?_) nofun
    (usual_told.putObject fun _ => ⟨by decide, by decide⟩) ?_
  · rw [handle_sent ready (route_object textual) nofun authorized]
    have read : readBody A P ⟨.put, ["v1", "objects", P.formatUuid id.uuid], [],
        client.headers true true, .json document⟩ (fun _ => 2) (readPutObject P) = .ok request :=
      readBody_sent json fits (by decide) (readPutObject_write textual sized written)
    simp only [handleNegotiated, handlePutObject, pathUuid_sent textual, read]
    rfl
  · rintro ⟨object, server'⟩ accepted
    obtain ⟨_, _, modifiedAt, _, _, _, _, formatted, _⟩ := Server.putObject_ok accepted
    obtain ⟨time, envelope⟩ := putObject_object accepted
    refine writeSyncObject_round textual (fun e same => ?_) (time ▸ formatted)
    cases envelope.symm.trans same
    exact sized

include json in
theorem deleteObject_carries {request : DeleteObjectRequest} {document : Json}
    (written : writeDeleteObject P request = .ok document)
    (fits : (P.writeJson document).length ≤ bodyLimit) :
    Carries A P app ⟨.delete, ["v1", "objects", P.formatUuid id.uuid], [], client.headers true true,
      .json document⟩ (readSyncObject P) w (w.commit (w.server.deleteObject P id request)) := by
  refine carries_commit (writeSyncObject P) (fun moment authorized => .inl ?_) nofun
    usual_told.deleteObject ?_
  · rw [handle_sent ready (route_object textual) nofun authorized]
    have read : readBody A P ⟨.delete, ["v1", "objects", P.formatUuid id.uuid], [],
        client.headers true true, .json document⟩ (fun _ => 1) (readDeleteObject P) =
          .ok request :=
      readBody_sent json fits (by decide) (readDeleteObject_write textual written)
    simp only [handleNegotiated, handleDeleteObject, pathUuid_sent textual, read]
    rfl
  · rintro ⟨object, server'⟩ accepted
    obtain ⟨_, _, _, modifiedAt, _, _, _, _, formatted, _⟩ := Server.deleteObject_ok accepted
    obtain ⟨time, envelope⟩ := deleteObject_object accepted
    refine writeSyncObject_round textual (fun e same => ?_) (time ▸ formatted)
    cases envelope.symm.trans same

theorem getObject_carries (sized : w.server.Stores EncryptedEnvelopeV1.Sized) :
    Carries A P app ⟨.get, ["v1", "objects", P.formatUuid id.uuid], [], client.headers true false,
      .binary []⟩ (readSyncObject P) w (w.ask (w.server.getObject P id)) := by
  refine carries_ask (writeSyncObject P) (fun moment authorized => .inl ?_) nofun
    usual_told.getObject ?_
  · rw [handle_sent ready (route_object textual) nofun authorized]
    simp only [handleNegotiated, handleGetObject, pathUuid_sent textual]
    rfl
  · intro object found
    rw [Server.getObject] at found
    split at found
    · rename_i row stored
      obtain ⟨time, parsed, found⟩ := Fallible.bind_ok_iff.mp found
      cases found
      obtain ⟨text, formatted⟩ := parseTimestamp_writable textual parsed
      exact writeSyncObject_round textual (sized id row stored) formatted
    · cases found

theorem changes_carries {after : U64} :
    Carries A P app ⟨.get, ["v1", "changes"], [("after", toString after.val)],
      client.headers true false, .binary []⟩ (readChanges P) w
      (w.ask (w.server.changesAfter P after defaultChangesLimit)) := by
  refine carries_ask (writeChanges P) (fun moment authorized => ?_) nofun
    usual_told.changesAfter ?_
  · have routed : route ["v1", "changes"] = some .changes := rfl
    rw [handle_sent ready routed nofun authorized]
    have limit : ¬ (defaultChangesLimit = 0 ∨ maxChangesLimit < defaultChangesLimit) := by decide
    rw [handleNegotiated, handleChanges_sent]
    cases ranged : Server.i64FromU64 after "after cursor" with
    | ok cursor => exact .inl rfl
    | error e =>
        refine .inr ⟨e, ?_, rfl⟩
        rw [Server.changesAfter, if_neg limit, ranged]
        rfl
  · intro page found
    rw [Server.changesAfter] at found
    split_ifs at found
    · cases found
    · obtain ⟨cursor, _, found⟩ := Fallible.bind_ok_iff.mp found
      obtain ⟨listed, each, found⟩ := Fallible.bind_ok_iff.mp found
      cases found
      refine writeChanges_round textual fun change member => ?_
      obtain ⟨row, _, read⟩ := Fallible.mapM_ok_mem each member
      obtain ⟨time, parsed, read⟩ := Fallible.bind_ok_iff.mp read
      cases read
      exact parseTimestamp_writable textual parsed

end

end
end HeliumSync
