import HeliumSync.Commands
import HeliumSync.Requests

/-! Which operations a program may come to: apart from its puts and its local writes they are
plain. -/
namespace HeliumSync
open Interaction

/-- An operation that puts no object and writes nothing on the device. -/
def Op.Plain {C : Type} : Op C → Prop
  | .putObject .. | .saveSyncState .. | .replaceFile _ | .restoreExtensionBundle _ => False
  | _ => True

/-- `save_extension_bundle` once it has read the manifest that it replaces. -/
def ClientCore.publish {C : Type} (P : Primitives C) (core : ClientCore)
    (descriptor : ExtensionBundleDescriptor) (archive : Bytes) (objectId : Option ObjectId)
    (base : Option U64) (old : Option ExtensionManifestV1) :
    Client C ClientError (SyncProof × ExtensionManifestV1) := do
  let uploaded ← core.uploadChunks P (chunksOf extensionChunkBytes archive) []
  let manifest := manifestOf descriptor uploaded
  match ← Action.outcome (core.upload P extensionManifestNamespace
      (.json (writeManifest P manifest)) objectId base) with
  | .ok proof =>
      core.deleteOldChunks old
      return (proof, manifest)
  | .error error =>
      core.cleanUp uploaded error fun error cleanup =>
        s!"extension manifest upload failed ({error}); new chunk cleanup also failed ({cleanup})"

section
variable {C : Type} {P : Primitives C} {core : ClientCore} {session : Session} {good : Op C → Prop}

namespace ClientCore

/-- An upload puts what it encrypted, and is plain otherwise. -/
theorem upload_issues (plain : ∀ op : Op C, op.Plain → good op) {nameSpace : String}
    {plaintext : Plaintext} {objectId : Option ObjectId} {base : Option U64}
    (put : ∀ s envelope, encrypt P core.masterKey
      (core.metadata nameSpace base (objectId.getD s.objectId) s) plaintext s.nonce = .ok envelope →
      good (.putObject (objectId.getD s.objectId) (core.request nameSpace base s envelope))) :
    (core.upload P nameSpace plaintext objectId base).run.Issues good := by
  refine Action.issues_bind ⟨plain _ trivial, fun _ => trivial⟩ ?_
  intro s
  refine Action.issues_bind_ofExcept ?_
  intro envelope sealed
  refine Action.issues_bind ⟨put s envelope sealed, fun _ => trivial⟩ ?_
  intro _
  refine Action.issues_bind ⟨plain _ trivial, fun _ => trivial⟩ ?_
  intro stored
  refine Action.issues_bind Action.issues_ofExcept ?_
  intro decrypted
  split_ifs <;> exact trivial

theorem download_issues (plain : ∀ op : Op C, op.Plain → good op) (nameSpace : String)
    (id : ObjectId) : (core.download P nameSpace id).run.Issues good := by
  refine Action.issues_bind ⟨plain _ trivial, fun _ => trivial⟩ ?_
  intro stored
  split_ifs
  · exact Action.issues_bind Action.issues_ofExcept fun _ => trivial
  · exact trivial

theorem loadExtensionManifest_issues (plain : ∀ op : Op C, op.Plain → good op) (id : ObjectId) :
    (core.loadExtensionManifest P id).run.Issues good :=
  Action.issues_bind (download_issues plain _ id) fun _ =>
    Action.issues_bind Action.issues_ofExcept fun _ => trivial

theorem deleteObjects_issues (plain : ∀ op : Op C, op.Plain → good op)
    (objects : List (ObjectId × U64)) :
    (core.deleteObjects objects : Client C ClientError Unit).run.Issues good := by
  induction objects with
  | nil => exact trivial
  | cons object objects ih =>
      refine Action.issues_bind ⟨plain _ trivial, fun _ => trivial⟩ ?_
      intro s
      refine Action.issues_bind ⟨plain _ trivial, fun _ => trivial⟩ ?_
      intro _
      exact ih

theorem cleanUp_issues (plain : ∀ op : Op C, op.Plain → good op) {α : Type}
    (uploaded : List UploadedChunk) (error : ClientError) (both : String → String → String) :
    (core.cleanUp uploaded error both : Client C ClientError α).run.Issues good := by
  refine Action.issues_bind (Action.issues_outcome (deleteObjects_issues plain _)) ?_
  rintro (e | _) <;> exact trivial

/-- The chunk loop puts each chunk as a new object. -/
theorem uploadChunks_issues (plain : ∀ op : Op C, op.Plain → good op)
    (put : ∀ chunk s envelope, encrypt P core.masterKey
      (core.metadata extensionChunkNamespace none s.objectId s) (.binary chunk) s.nonce =
        .ok envelope →
      good (.putObject s.objectId (core.request extensionChunkNamespace none s envelope)))
    (chunks : List Bytes) (uploaded : List UploadedChunk) :
    (core.uploadChunks P chunks uploaded).run.Issues good := by
  induction chunks generalizing uploaded with
  | nil => exact trivial
  | cons chunk chunks ih =>
      refine Action.issues_bind (Action.issues_outcome (upload_issues plain (put chunk))) ?_
      rintro (e | proof)
      · exact cleanUp_issues plain uploaded e _
      · exact ih _

theorem deleteOldChunks_issues (plain : ∀ op : Op C, op.Plain → good op)
    (old : Option ExtensionManifestV1) :
    (core.deleteOldChunks old : Client C ClientError Unit).run.Issues good := by
  cases old with
  | none => exact trivial
  | some old =>
      refine Action.issues_bind (Action.issues_outcome (deleteObjects_issues plain _)) ?_
      rintro (e | _) <;> exact trivial

theorem downloadChunks_issues (plain : ∀ op : Op C, op.Plain → good op)
    (chunks : List ExtensionChunkV1) (archive : Bytes) :
    (core.downloadChunks P chunks archive).run.Issues good := by
  induction chunks generalizing archive with
  | nil => exact trivial
  | cons chunk chunks ih =>
      refine Action.issues_bind (download_issues plain _ _) ?_
      rintro ⟨plaintext, proof⟩
      dsimp only
      split_ifs
      · exact trivial
      · exact ih _

end ClientCore

theorem readBookmarks_issues (plain : ∀ op : Op C, op.Plain → good op)
    (profile : DiscoveredProfile) : (readBookmarks P profile).run.Issues good := by
  have attempt {changed : Client C ProfileError BookmarkSnapshotV1}
      (rest : changed.run.Issues good) : (readAttempt P profile changed).run.Issues good := by
    refine Action.issues_bind (Action.issues_mapErr ⟨plain _ trivial, fun _ => trivial⟩) ?_
    intro read
    split_ifs
    · exact rest
    · exact Action.issues_ofExcept
  exact attempt (attempt Action.issues_throw)

/-- A restore writes the file and does nothing else. -/
theorem restoreBookmarks_issues (replace : ∀ content, good (.replaceFile content))
    (profile : DiscoveredProfile) (snapshot : BookmarkSnapshotV1) :
    (restoreBookmarks P profile snapshot).run.Issues good := by
  unfold restoreBookmarks
  split_ifs
  · exact trivial
  · exact Action.issues_bind ⟨replace _, fun _ => trivial⟩ fun _ => trivial

namespace Session

theorem captureExtensions_issues (plain : ∀ op : Op C, op.Plain → good op) :
    (session.captureExtensions P).run.Issues good :=
  Action.issues_bind ⟨plain _ trivial, fun _ => trivial⟩ fun _ => trivial

theorem extensionBaseHash_issues (plain : ∀ op : Op C, op.Plain → good op) :
    (session.extensionBaseHash P).run.Issues good := by
  refine Action.issues_bind (Action.issues_mapErr ⟨plain _ trivial, fun _ => trivial⟩) ?_
  rintro (_ | encrypted)
  · exact trivial
  · refine Action.issues_bind (Action.issues_mapErr Action.issues_ofExcept) ?_
    intro plaintext
    exact Action.issues_bind Action.issues_ofExcept fun _ => trivial

theorem profileName_issues (plain : ∀ op : Op C, op.Plain → good op) :
    (session.profileName : Client C String String).run.Issues good :=
  Action.issues_bind (Action.issues_mapErr ⟨plain _ trivial, fun _ => trivial⟩) fun _ => trivial

theorem restoreMerged_issues (replace : ∀ content, good (.replaceFile content))
    (loc merged : BookmarkSnapshotV1) : (session.restoreMerged P loc merged).run.Issues good := by
  unfold restoreMerged
  split_ifs
  · exact Action.issues_bind (Action.issues_mapErr (restoreBookmarks_issues replace _ _))
      fun _ => trivial
  · exact trivial

theorem bookmarkBase_issues (plain : ∀ op : Op C, op.Plain → good op) :
    (session.bookmarkBase P).run.Issues good := by
  refine Action.issues_bind (Action.issues_mapErr ⟨plain _ trivial, fun _ => trivial⟩) ?_
  rintro (_ | encrypted)
  · exact trivial
  · refine Action.issues_bind (Action.issues_mapErr Action.issues_ofExcept) ?_
    intro plaintext
    exact Action.issues_bind (Action.issues_mapErr Action.issues_ofExcept) fun _ => trivial

end Session
end
end HeliumSync
