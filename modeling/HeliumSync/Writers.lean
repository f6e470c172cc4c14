import HeliumSync.Feed
import HeliumSync.Sealing

/-! What the server holds when only clients write to it: every live object is a document that some
client sealed for the namespace it is in. -/
namespace HeliumSync
open Interaction (Prog Action)

/-- `SYNTHETIC_SENTINEL` -/
def syntheticSentinel : String := "HELIUM_SYNC_TRANSPORT_TEST_PLAINTEXT_7f3a9c21"

/-- The calls of `ClientCore` that write. `save_bookmarks` and `bookmark_round_trip` save a snapshot
that they have read. -/
inductive WriterCall where
  | syntheticRoundTrip
  | saveBookmarkSnapshot (snapshot : BookmarkSnapshotV1) (objectId : Option ObjectId)
      (baseRevision : Option U64)
  | saveExtensionBundle (descriptor : ExtensionBundleDescriptor) (archive : Bytes)
      (objectId : Option ObjectId) (baseRevision : Option U64)

namespace ClientCore
variable {C : Type} (P : Primitives C) (core : ClientCore)

/-- `synthetic_round_trip` -/
def syntheticRoundTrip : Client C ClientError SyncProof :=
  core.upload P "synthetic.v1" (.text syntheticSentinel) none none

/-- The call may come to this request, whatever it was answered before. -/
def MayAsk (op : Op C) : WriterCall → Prop
  | .syntheticRoundTrip => (core.syntheticRoundTrip P).run.Asks op
  | .saveBookmarkSnapshot snapshot objectId baseRevision =>
      (core.saveBookmarkSnapshot P snapshot objectId baseRevision).run.Asks op
  | .saveExtensionBundle descriptor archive objectId baseRevision =>
      (core.saveExtensionBundle P descriptor archive objectId baseRevision).run.Asks op

end ClientCore

section
variable {C : Type} (P : Primitives C)

/-- The states of a server to which only clients write, with any master keys, any arguments and their
requests in any order. -/
inductive Written : Server C → Prop
  | empty : Written Server.empty
  | register {server} (request : RegisterDeviceRequest) (now : Timestamp) :
      Written server → Written (server.after P (.register request now))
  | revoke {server} (id : DeviceId) (now : Timestamp) :
      Written server → Written (server.after P (.revoke id now))
  | put {server} (core : ClientCore) (call : WriterCall) {id : ObjectId}
      {request : PutObjectRequest C} : Written server →
      core.MayAsk P (.putObject id request) call →
      Written (server.after P (.put id request))
  | delete {server} (core : ClientCore) (call : WriterCall) {id : ObjectId}
      {request : DeleteObjectRequest} : Written server →
      core.MayAsk P (.deleteObject id request) call →
      Written (server.after P (.delete id request))

/-- What clients seal for a namespace. -/
inductive Document : String → Plaintext → Prop
  | synthetic : Document "synthetic.v1" (.text syntheticSentinel)
  | bookmarks (snapshot : BookmarkSnapshotV1) :
      Document bookmarkNamespace (.json (writeSnapshot snapshot))
  | manifest (manifest : ExtensionManifestV1) :
      Document extensionManifestNamespace (.json (writeManifest P manifest))
  | chunk (bytes : Bytes) : Document extensionChunkNamespace (.binary bytes)

/-- A put that carries a document of its namespace. -/
def ClientCore.Carries (core : ClientCore) : Op C → Prop
  | .putObject id request => ∃ plaintext objectId base, Document P request.nameSpace plaintext ∧
      SealsFor P core request.nameSpace plaintext objectId base (.putObject id request)
  | _ => True

/-- The row is a document that the holder of some master key sealed for it. -/
structure SealedRow (id : ObjectId) (row : ObjectRow C) (masterKey : MasterKey)
    (plaintext : Plaintext) : Prop where
  document : Document P row.nameSpace plaintext
  sealed : ∃ metadata nonce envelope, encrypt P masterKey metadata plaintext nonce = .ok envelope ∧
    row.envelope = some envelope
  opens : RowOpens P masterKey id row plaintext

/-- What holds of such a server: its feed is in order, and a live object is a sealed document. -/
structure Kept (server : Server C) : Prop where
  sound : server.Sound
  readable : server.Readable P
  counted : ∀ change ∈ server.changes, 0 < change.cursor.val
  authored : ∀ id row, server.objects id = some row → row.deleted = false →
    ∃ masterKey plaintext, SealedRow P id row masterKey plaintext

end

variable {C : Type} {P : Primitives C} {core : ClientCore}

namespace ClientCore

theorem carries_plain (op : Op C) (plain : op.Plain) : core.Carries P op := by
  cases op with
  | putObject => exact plain.elim
  | _ => exact trivial

theorem upload_carries {nameSpace : String} {plaintext : Plaintext}
    (document : Document P nameSpace plaintext) (objectId : Option ObjectId) (base : Option U64) :
    (core.upload P nameSpace plaintext objectId base).run.Issues (core.Carries P) :=
  upload_issues carries_plain fun s envelope sealed =>
    ⟨plaintext, objectId, base, document, s, envelope, rfl, rfl, sealed⟩

theorem saveBookmarkSnapshot_carries (snapshot : BookmarkSnapshotV1) (objectId : Option ObjectId)
    (base : Option U64) :
    (core.saveBookmarkSnapshot P snapshot objectId base).run.Issues (core.Carries P) := by
  unfold saveBookmarkSnapshot
  split_ifs
  · exact trivial
  · exact upload_carries (.bookmarks snapshot) objectId base

theorem saveExtensionBundle_carries (descriptor : ExtensionBundleDescriptor) (archive : Bytes)
    (objectId : Option ObjectId) (base : Option U64) :
    (core.saveExtensionBundle P descriptor archive objectId base).run.Issues (core.Carries P) := by
  have publishes (old : Option ExtensionManifestV1) :
      (core.publish P descriptor archive objectId base old).run.Issues (core.Carries P) := by
    refine Action.issues_bind (uploadChunks_issues carries_plain (fun chunk s envelope sealed =>
      ⟨.binary chunk, none, none, .chunk chunk, s, envelope, rfl, rfl, sealed⟩) _ _) ?_
    intro uploaded
    refine Action.issues_bind (Action.issues_outcome
      (upload_carries (.manifest (manifestOf descriptor uploaded)) objectId base)) ?_
    rintro (e | proof)
    · exact cleanUp_issues carries_plain uploaded e _
    · exact Action.issues_bind (deleteOldChunks_issues carries_plain old) fun _ => trivial
  unfold saveExtensionBundle
  split_ifs
  · exact trivial
  · exact trivial
  · cases objectId with
    | none => exact publishes none
    | some id =>
        refine Action.issues_bind (loadExtensionManifest_issues carries_plain id) ?_
        rintro ⟨manifest, proof⟩
        exact publishes (some manifest)

/-- Every put of a client carries a document of its namespace. -/
theorem carries_of_mayAsk {op : Op C} {call : WriterCall} (asked : core.MayAsk P op call) :
    core.Carries P op := by
  cases call with
  | syntheticRoundTrip => exact (upload_carries .synthetic none none).asked asked
  | saveBookmarkSnapshot snapshot objectId base =>
      exact (saveBookmarkSnapshot_carries snapshot objectId base).asked asked
  | saveExtensionBundle descriptor archive objectId base =>
      exact (saveExtensionBundle_carries descriptor archive objectId base).asked asked

end ClientCore

theorem after_put_cases (server : Server C) (id : ObjectId) (request : PutObjectRequest C) :
    server.after P (.put id request) = server ∨
      ∃ object, server.putObject P id request = .ok (object, server.after P (.put id request)) := by
  unfold Server.after
  split
  · next committed accepted => exact .inr (Server.transact_ok accepted)
  · exact .inl rfl

theorem after_delete_cases (server : Server C) (id : ObjectId) (request : DeleteObjectRequest) :
    server.after P (.delete id request) = server ∨
      ∃ object, server.deleteObject P id request =
        .ok (object, server.after P (.delete id request)) := by
  unfold Server.after
  split
  · next committed accepted => exact .inr (Server.transact_ok accepted)
  · exact .inl rfl

theorem kept_empty : Kept P Server.empty where
  sound := Server.sound_empty
  readable := Server.readable_empty
  counted _ member := absurd member List.not_mem_nil
  authored _ _ found := by cases found

theorem Kept.of_tables {server server' : Server C} (kept : Kept P server)
    (objects : server'.objects = server.objects) (changes : server'.changes = server.changes)
    (sequence : server'.sequence = server.sequence) : Kept P server' where
  sound := kept.sound.of_tables objects changes sequence
  readable change member := kept.readable change (changes ▸ member)
  counted change member := kept.counted change (changes ▸ member)
  authored id row found := kept.authored id row (objects ▸ found)

theorem Kept.tidy {server : Server C} (kept : Kept P server) : server.Tidy P :=
  ⟨kept.sound, kept.readable, kept.counted⟩

/-- A write of a sealed row or of a tombstone. -/
theorem Kept.write {server : Server C} (kept : Kept P server) {id : ObjectId} {row : ObjectRow C}
    (writable : server.Writable P id row)
    (sealed : row.deleted = false → ∃ masterKey plaintext, SealedRow P id row masterKey plaintext) :
    Kept P (server.write id row) where
  sound := kept.sound.write writable
  readable := (kept.tidy.write writable).readable
  counted := (kept.tidy.write writable).counted
  authored := by
    intro other row' found live
    by_cases here : other = id
    · subst here
      rw [Server.write_objects_self] at found
      cases found
      exact sealed live
    · rw [Server.write_objects_of_ne server row here] at found
      exact kept.authored other row' found live

/-- A put that carries a document leaves a row that is sealed. -/
theorem sealedRow_of_put (lawful : P.Lawful) {id : ObjectId} {request : PutObjectRequest C}
    (carries : core.Carries P (.putObject id request)) {server server' : Server C}
    {object : SyncObject C} (accepted : server.putObject P id request = .ok (object, server')) :
    ∃ row, server.Writable P id row ∧ server' = server.write id row ∧
      ∃ plaintext, SealedRow P id row core.masterKey plaintext := by
  obtain ⟨plaintext, objectId, base, document, s, envelope, rfl, shape, sealed⟩ := carries
  obtain ⟨row, writable, rfl⟩ := Server.putObject_writes accepted
  obtain ⟨_, _, _, _, _, _, _, _, written⟩ := Server.putObject_ok accepted
  rw [shape] at accepted written
  obtain ⟨row', uploads⟩ := ClientCore.uploads_of_put lawful sealed accepted
  cases Server.write_inj uploads.written
  have put : row.envelope = some envelope := by
    rw [Server.write_inj written]
    rfl
  refine ⟨row, writable, rfl, plaintext, ?_, ⟨_, _, envelope, sealed, put⟩,
    uploads.opens⟩
  rw [uploads.space]
  exact document

/-- The invariant of the server that only clients write to. -/
theorem kept_of_written (lawful : P.Lawful) {server : Server C} (written : Written P server) :
    Kept P server := by
  induction written with
  | empty => exact kept_empty
  | @register server request now _ kept =>
      unfold Server.after
      split
      · next committed accepted =>
          obtain ⟨_, accepted⟩ := Server.transact_ok accepted
          obtain ⟨objects, changes, sequence⟩ := Server.registerDevice_tables accepted
          exact kept.of_tables objects changes sequence
      · exact kept
  | @revoke server id now _ kept =>
      unfold Server.after
      split
      · next committed accepted =>
          obtain ⟨objects, changes, sequence⟩ := Server.revokeDevice_tables accepted
          exact kept.of_tables objects changes sequence
      · exact kept
  | @put server core call id request _ asked kept =>
      rcases after_put_cases (P := P) server id request with same | ⟨object, accepted⟩
      · rw [same]
        exact kept
      · obtain ⟨row, writable, written, sealed⟩ :=
          sealedRow_of_put lawful (ClientCore.carries_of_mayAsk asked) accepted
        rw [written]
        exact kept.write writable fun _ => ⟨core.masterKey, sealed⟩
  | @delete server core call id request _ asked kept =>
      rcases after_delete_cases (P := P) server id request with same | ⟨object, accepted⟩
      · rw [same]
        exact kept
      · obtain ⟨row, writable, written⟩ := Server.deleteObject_writes accepted
        obtain ⟨old, _, _, _, found, _, _, _, _, buried⟩ := Server.deleteObject_ok accepted
        have shape := Server.write_inj (written.symm.trans buried)
        rw [written]
        refine kept.write writable fun live => ?_
        rw [shape] at live
        cases live

/-- An upload of a call leads from such a state to another one. -/
theorem Written.uploads (lawful : P.Lawful) {server : Server C} (written : Written P server)
    (call : WriterCall) (objectId : Option ObjectId) (base : Option U64) (s : Sample)
    {nameSpace : String} {plaintext : Plaintext}
    (uploadable : core.Uploadable P nameSpace plaintext base
      (server.objects (objectId.getD s.objectId)) server)
    (formatted : ∃ text, P.formatRfc3339 s.time = .ok text)
    (asks : ∀ op, (core.upload P nameSpace plaintext objectId base).run.Asks op →
      core.MayAsk P op call) :
    ∃ server' row, Written P server' ∧
      core.Uploads P nameSpace plaintext base (objectId.getD s.objectId) server server' row := by
  obtain ⟨envelope, sealed⟩ := uploadable.seals lawful formatted
  obtain ⟨⟨object, server'⟩, accepted⟩ := uploadable.puts lawful formatted sealed
  obtain ⟨row, uploads⟩ := ClientCore.uploads_of_put lawful sealed accepted
  have put := Written.put core call written (asks _ (upload_asks sealed))
  have after : server.after P (.put (objectId.getD s.objectId)
      (core.request nameSpace base s envelope)) = server' := by
    rw [Server.after, Server.transact, accepted]
    rfl
  exact ⟨server', row, after ▸ put, uploads⟩

end HeliumSync
