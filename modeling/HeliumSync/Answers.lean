import HeliumSync.Server

/-! The errors that the transactions of the server answer. -/
namespace HeliumSync
open Fallible (Fails)

/-- A kind of error that every refusal but that of a payload is of. -/
structure Usual (told : ApiError → Prop) : Prop where
  new : ∀ {status code message}, 400 ≤ status → status ≠ 401 → code ≠ "payload_too_large" →
    told (.new status code message)
  conflict : ∀ {revision cursor}, told (.conflict revision cursor)

namespace Usual
variable {C : Type} {P : Primitives C} {server : Server C} {told : ApiError → Prop}

theorem database (usual : Usual told) : told .database :=
  usual.new (by decide) (by decide) (by simp)

theorem serialization (usual : Usual told) : told .serialization :=
  usual.new (by decide) (by decide) (by simp)

theorem objectNotFound (usual : Usual told) : told .objectNotFound :=
  usual.new (by decide) (by decide) (by simp)

theorem revisionExhausted (usual : Usual told) : told .revisionExhausted :=
  usual.new (by decide) (by decide) (by simp)

/-- A put is refused as usual unless its payload is too long. -/
theorem validatePut (usual : Usual told) {request : PutObjectRequest C}
    (long : maxPayloadBytes < P.cipherLength request.envelope.ciphertext →
      told (.new 413 "payload_too_large" "encrypted payload exceeds the configured 4 MiB limit")) :
    Fails told (Server.validatePut P request) := by
  rw [Server.validatePut]
  split_ifs with _ _ longer
  · exact .error (usual.new (by decide) (by decide) (by simp))
  · exact .error (usual.new (by decide) (by decide) (by simp))
  · exact .error (long longer)
  · exact .ok

theorem ensureActiveDevice (usual : Usual told) {id : DeviceId} :
    Fails told (server.ensureActiveDevice id) := by
  rw [Server.ensureActiveDevice]
  split
  · split_ifs
    · exact .ok
    · exact .error (usual.new (by decide) (by decide) (by simp))
  · exact .error (usual.new (by decide) (by decide) (by simp))

theorem checkedSucc (usual : Usual told) {revision : U64} :
    Fails told (Server.checkedSucc revision) := by
  rw [Server.checkedSucc]
  split_ifs
  · exact .ok
  · exact .error usual.revisionExhausted

theorem nextRevision (usual : Usual told) {current : Option (ObjectRow C)} {base : Option U64} :
    Fails told (Server.nextRevision current base) := by
  rw [Server.nextRevision.eq_def]
  split
  · exact .ok
  · split_ifs
    · exact usual.checkedSucc
    · exact .error usual.conflict
  · exact .error usual.conflict
  · exact .error (usual.new (by decide) (by decide) (by simp))

theorem timestampString (usual : Usual told) {time : Timestamp} :
    Fails told (Server.timestampString P time) := by
  rw [Server.timestampString]
  split
  · exact .ok
  · exact .error usual.serialization

theorem parseTimestamp (usual : Usual told) {text : String} :
    Fails told (Server.parseTimestamp P text) := by
  rw [Server.parseTimestamp]
  split
  · exact .ok
  · exact .error usual.serialization

theorem i64FromU64 (usual : Usual told) {value : U64} {label : String} :
    Fails told (Server.i64FromU64 value label) := by
  rw [Server.i64FromU64]
  split_ifs
  · exact .ok
  · exact .error (usual.new (by decide) (by decide) (by simp))

theorem nextCursor (usual : Usual told) : Fails told server.nextCursor := by
  rw [Server.nextCursor]
  split_ifs
  · exact .ok
  · exact .error usual.database

theorem putObject (usual : Usual told) {id : ObjectId} {request : PutObjectRequest C}
    (long : maxPayloadBytes < P.cipherLength request.envelope.ciphertext →
      told (.new 413 "payload_too_large" "encrypted payload exceeds the configured 4 MiB limit")) :
    Fails told (server.putObject P id request) :=
  (usual.validatePut long).bind fun _ _ => usual.ensureActiveDevice.bind fun _ _ =>
    usual.nextRevision.bind fun _ _ => usual.timestampString.bind fun _ _ =>
    usual.i64FromU64.bind fun _ _ => usual.nextCursor.bind fun _ _ => .ok

theorem deleteObject (usual : Usual told) {id : ObjectId} {request : DeleteObjectRequest} :
    Fails told (server.deleteObject P id request) := by
  refine usual.ensureActiveDevice.bind fun _ _ => ?_
  split
  · split_ifs
    · exact .error usual.conflict
    · exact usual.checkedSucc.bind fun _ _ => usual.timestampString.bind fun _ _ =>
        usual.i64FromU64.bind fun _ _ => usual.nextCursor.bind fun _ _ => .ok
  · exact .error usual.objectNotFound

theorem getObject (usual : Usual told) {id : ObjectId} : Fails told (server.getObject P id) := by
  rw [Server.getObject]
  split
  · exact usual.parseTimestamp.bind fun _ _ => .ok
  · exact .error usual.objectNotFound

theorem changesAfter (usual : Usual told) {after : U64} {limit : Nat} :
    Fails told (server.changesAfter P after limit) := by
  rw [Server.changesAfter]
  split_ifs
  · exact .error (usual.new (by decide) (by decide) (by simp))
  · refine usual.i64FromU64.bind fun _ _ => Fails.bind (.mapM (fun _ => ?_) _) fun _ _ => .ok
    exact usual.parseTimestamp.bind fun _ _ => .ok

theorem registerDevice (usual : Usual told) {request : RegisterDeviceRequest} {now : Timestamp} :
    Fails told (server.registerDevice P request now) := by
  rw [Server.registerDevice]
  split_ifs
  · exact .error (usual.new (by decide) (by decide) (by simp))
  · split
    · split_ifs
      · exact usual.parseTimestamp.bind fun _ _ => .ok
      · exact .error (usual.new (by decide) (by decide) (by simp))
    · exact usual.timestampString.bind fun _ _ => .ok

theorem revokeDevice (usual : Usual told) {id : DeviceId} {now : Timestamp} :
    Fails told (server.revokeDevice P id now) := by
  refine usual.timestampString.bind fun _ _ => ?_
  split
  · split_ifs
    · exact .ok
    · exact .error (usual.new (by decide) (by decide) (by simp))
  · exact .error (usual.new (by decide) (by decide) (by simp))

/-- Some operation of a batch brings a payload that is too long, or the batch is refused as usual. -/
theorem batch (usual : Usual told) {operations : List (BatchOperation C)}
    (long : ∀ id request, .put id request ∈ operations →
      maxPayloadBytes < P.cipherLength request.envelope.ciphertext →
      told (.new 413 "payload_too_large" "encrypted payload exceeds the configured 4 MiB limit")) :
    Fails told (server.batch P operations) := by
  have each : ∀ (operations : List (BatchOperation C)) (server : Server C),
      (∀ id request, .put id request ∈ operations →
        maxPayloadBytes < P.cipherLength request.envelope.ciphertext →
        told (.new 413 "payload_too_large" "encrypted payload exceeds the configured 4 MiB limit")) →
      Fails told (Server.batch.apply P server operations) := by
    intro operations
    induction operations with
    | nil => exact fun _ _ => .ok
    | cons operation operations ih =>
        intro server long
        have later : ∀ server', Fails told (Server.batch.apply P server' operations) := fun server' =>
          ih server' fun id request member => long id request (List.mem_cons_of_mem _ member)
        cases operation with
        | put id request =>
            exact (usual.putObject (long id request List.mem_cons_self)).bind fun _ _ =>
              (later _).bind fun _ _ => .ok
        | delete id request =>
            exact usual.deleteObject.bind fun _ _ => (later _).bind fun _ _ => .ok
  rw [Server.batch]
  split_ifs
  · exact .error (usual.new (by decide) (by decide) (by simp))
  · exact each operations server long

end Usual
end HeliumSync
