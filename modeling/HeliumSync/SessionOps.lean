import HeliumSync.Devices

/-! What the commands of a session ask for: puts of what they encrypted, and sync state of their own
profile. -/
namespace HeliumSync
open Interaction (Prog Action Entry)

section
variable {C : Type} {P : Primitives C} {session : Session} {good : Op C → Prop}

/-- Everything that a session asks for. -/
structure Welcome (P : Primitives C) (session : Session) (good : Op C → Prop) : Prop where
  plain : ∀ op : Op C, op.Plain → good op
  put : ∀ {masterKey metadata plaintext nonce id request},
    encrypt P masterKey metadata plaintext nonce = .ok request.envelope →
    good (.putObject id request)
  replace : ∀ content, good (.replaceFile content)
  restore : ∀ archive, good (.restoreExtensionBundle archive)
  bookmarks : ∀ mapping base, good (.saveSyncState session.bookmarkKey mapping base)
  extensions : ∀ mapping base, good (.saveSyncState session.extensionKey mapping base)

namespace Welcome

theorem mapping (welcome : Welcome P session good) {key : LocalKey} :
    (Action.mapErr ClientError.message (localMapping key) :
      Client C String (Option ObjectMapping)).run.Issues good :=
  Action.issues_mapErr ⟨welcome.plain _ trivial, fun _ => trivial⟩

theorem upload (welcome : Welcome P session good) {nameSpace : String} {plaintext : Plaintext}
    {objectId : Option ObjectId} {base : Option U64} :
    (session.core.upload P nameSpace plaintext objectId base).run.Issues good :=
  ClientCore.upload_issues welcome.plain fun _ _ sealed => welcome.put sealed

theorem saveBookmarkSnapshot (welcome : Welcome P session good) {snapshot : BookmarkSnapshotV1}
    {objectId : Option ObjectId} {base : Option U64} :
    (session.core.saveBookmarkSnapshot P snapshot objectId base).run.Issues good := by
  rw [ClientCore.saveBookmarkSnapshot]
  split_ifs
  · exact trivial
  · exact welcome.upload

theorem loadBookmarks (welcome : Welcome P session good) {id : ObjectId} :
    (session.core.loadBookmarks P id).run.Issues good :=
  Action.issues_bind (ClientCore.download_issues welcome.plain _ _) fun _ =>
    Action.issues_bind Action.issues_ofExcept fun _ => trivial

theorem discoverChanges (welcome : Welcome P session good) {nameSpace : String}
    {candidates : List Candidate} {after : U64} :
    (ClientCore.discoverChanges nameSpace candidates after :
      Client C ClientError (List Candidate)).run.Issues good := by
  rw [ClientCore.discoverChanges]
  refine Action.issues_bind ⟨welcome.plain _ trivial, fun _ => trivial⟩ ?_
  intro page
  split_ifs with more advances
  · exact welcome.discoverChanges
  · exact trivial
  · exact trivial
termination_by 18446744073709551616 - after.val
decreasing_by
  have := page.nextCursor.isLt
  have : after.val < page.nextCursor.val := advances
  omega

theorem firstOf {α : Type}
    {load : ObjectId → Client C ClientError (α × SyncProof)} {belongs : α → Bool}
    (loads : ∀ id, (load id).run.Issues good) (candidates : List Candidate) :
    (ClientCore.firstOf load belongs candidates).run.Issues good := by
  induction candidates with
  | nil => exact trivial
  | cons candidate candidates ih =>
      refine Action.issues_bind (Action.issues_outcome (loads _)) ?_
      rintro (e | ⟨value, proof⟩)
      · dsimp only
        split_ifs
        · exact ih
        · exact trivial
      · dsimp only
        split_ifs
        · exact trivial
        · exact ih

theorem remoteBookmarks (welcome : Welcome P session good) :
    (session.remoteBookmarks P).run.Issues good := by
  refine Action.issues_bind welcome.mapping ?_
  rintro (_ | mapping)
  · exact Action.issues_mapErr (Action.issues_bind welcome.discoverChanges fun _ =>
      firstOf (fun _ => welcome.loadBookmarks) _)
  · exact Action.issues_bind (Action.issues_mapErr welcome.loadBookmarks) fun _ => trivial

theorem remoteExtensionManifest (welcome : Welcome P session good) :
    (session.remoteExtensionManifest P).run.Issues good := by
  refine Action.issues_bind welcome.mapping ?_
  rintro (_ | mapping)
  · exact Action.issues_mapErr (Action.issues_bind welcome.discoverChanges fun _ => firstOf
      (fun _ => ClientCore.loadExtensionManifest_issues welcome.plain _) _)
  · exact Action.issues_bind (Action.issues_mapErr
      (ClientCore.loadExtensionManifest_issues welcome.plain _)) fun _ => trivial

theorem saveExtensionBundle (welcome : Welcome P session good) {descriptor : ExtensionBundleDescriptor}
    {archive : Bytes} {objectId : Option ObjectId} {base : Option U64} :
    (session.core.saveExtensionBundle P descriptor archive objectId base).run.Issues good := by
  have publish : ∀ old, (session.core.publish P descriptor archive objectId base old).run.Issues
      good := by
    intro old
    refine Action.issues_bind (ClientCore.uploadChunks_issues welcome.plain
      (fun _ _ _ sealed => welcome.put sealed) _ _) ?_
    intro uploaded
    refine Action.issues_bind (Action.issues_outcome welcome.upload) ?_
    rintro (e | proof)
    · exact ClientCore.cleanUp_issues welcome.plain _ _ _
    · exact Action.issues_bind (ClientCore.deleteOldChunks_issues welcome.plain old) fun _ => trivial
  rw [ClientCore.saveExtensionBundle]
  split_ifs
  · exact trivial
  · exact trivial
  · cases objectId with
    | none => exact publish none
    | some id =>
        refine Action.issues_bind (ClientCore.loadExtensionManifest_issues welcome.plain id) ?_
        exact fun old => publish (some old.1)

theorem persistExtensionSyncState (welcome : Welcome P session good) {manifest : ExtensionManifestV1}
    {proof : SyncProof} : (session.persistExtensionSyncState P manifest proof).run.Issues good := by
  refine Action.issues_bind (Action.issues_mapErr ⟨welcome.plain _ trivial, fun _ => trivial⟩) ?_
  intro s
  refine Action.issues_bind (Action.issues_mapErr Action.issues_ofExcept) ?_
  intro encrypted
  exact Action.issues_mapErr ⟨welcome.extensions _ _, fun _ => trivial⟩

theorem persistSyncState (welcome : Welcome P session good) {snapshot : BookmarkSnapshotV1}
    {proof : SyncProof} : (session.persistSyncState P snapshot proof).run.Issues good := by
  refine Action.issues_bind (Action.issues_mapErr ⟨welcome.plain _ trivial, fun _ => trivial⟩) ?_
  intro s
  refine Action.issues_bind (Action.issues_mapErr Action.issues_ofExcept) ?_
  intro encrypted
  exact Action.issues_mapErr ⟨welcome.bookmarks _ _, fun _ => trivial⟩

theorem saveExtensionsToServer (welcome : Welcome P session good) :
    (session.saveExtensionsToServer P).run.Issues good := by
  refine Action.issues_bind (Session.captureExtensions_issues welcome.plain) ?_
  rintro ⟨descriptor, archive⟩
  refine Action.issues_bind welcome.remoteExtensionManifest ?_
  intro remote
  refine Action.issues_bind (Action.issues_mapErr welcome.saveExtensionBundle) ?_
  rintro ⟨proof, manifest⟩
  exact Action.issues_bind welcome.persistExtensionSyncState fun _ => trivial

theorem loadExtensionsFromServer (welcome : Welcome P session good) :
    (session.loadExtensionsFromServer P).run.Issues good := by
  refine Action.issues_bind welcome.remoteExtensionManifest ?_
  rintro (_ | ⟨remote, proof⟩)
  · exact trivial
  · refine Action.issues_bind (Action.issues_mapErr ?_) ?_
    · refine Action.issues_bind (ClientCore.loadExtensionManifest_issues welcome.plain _) ?_
      rintro ⟨manifest, proof⟩
      refine Action.issues_bind (ClientCore.downloadChunks_issues welcome.plain _ _) ?_
      intro archive
      split_ifs <;> exact trivial
    · rintro ⟨manifest, archive, proof⟩
      refine Action.issues_bind ⟨welcome.restore _, fun _ => trivial⟩ ?_
      rintro ⟨path, stats⟩
      exact Action.issues_bind welcome.persistExtensionSyncState fun _ => trivial

theorem syncExtensionsWithServer (welcome : Welcome P session good) :
    (session.syncExtensionsWithServer P).run.Issues good := by
  refine Action.issues_bind (Session.captureExtensions_issues welcome.plain) ?_
  rintro ⟨descriptor, archive⟩
  refine Action.issues_bind welcome.remoteExtensionManifest ?_
  rintro (_ | ⟨remote, proof⟩)
  · refine Action.issues_bind (Action.issues_mapErr welcome.saveExtensionBundle) ?_
    rintro ⟨proof, manifest⟩
    exact Action.issues_bind welcome.persistExtensionSyncState fun _ => trivial
  · refine Action.issues_bind (Session.extensionBaseHash_issues welcome.plain) ?_
    intro base
    dsimp only
    split_ifs
    · exact Action.issues_bind welcome.persistExtensionSyncState fun _ => trivial
    · split
      · exact Action.issues_bind welcome.persistExtensionSyncState fun _ => trivial
      · exact Action.issues_bind welcome.persistExtensionSyncState fun _ => trivial
      · exact welcome.loadExtensionsFromServer
      · exact welcome.loadExtensionsFromServer
      · exact welcome.saveExtensionsToServer
      · exact trivial

theorem feedback (welcome : Welcome P session good) {f : String → SyncFeedback} :
    (session.profileName >>= fun name => pure (f name) :
      Client C String SyncFeedback).run.Issues good :=
  Action.issues_bind (Session.profileName_issues welcome.plain) fun _ => trivial

theorem syncBookmarks (welcome : Welcome P session good) {extensions : ExtensionSyncOutcome} :
    (session.syncBookmarks P extensions).run.Issues good := by
  refine Action.issues_bind (Action.issues_mapErr (readBookmarks_issues welcome.plain _)) ?_
  intro localSnapshot
  refine Action.issues_bind welcome.remoteBookmarks ?_
  rintro (_ | ⟨remote, loaded⟩)
  · refine Action.issues_bind (Action.issues_mapErr welcome.saveBookmarkSnapshot) ?_
    intro proof
    exact Action.issues_bind welcome.persistSyncState fun _ => welcome.feedback
  · refine Action.issues_bind (Session.bookmarkBase_issues welcome.plain) ?_
    intro base
    refine Action.issues_bind (Action.issues_mapErr Action.issues_ofExcept) ?_
    intro merged
    refine Action.issues_bind ?_ ?_
    · rw [Session.uploadMerged]
      split_ifs
      · exact Action.issues_mapErr welcome.saveBookmarkSnapshot
      · exact trivial
    · intro proof
      refine Action.issues_bind (Session.restoreMerged_issues welcome.replace _ _) ?_
      intro backupPath
      exact Action.issues_bind welcome.persistSyncState fun _ => welcome.feedback

/-- What a command of a session asks for. -/
theorem perform (welcome : Welcome P session good) (kind : ProfileCommand) :
    (session.perform P kind).run.Issues good := by
  cases kind with
  | sync =>
      exact Action.issues_bind (Action.issues_mapErr welcome.syncExtensionsWithServer)
        fun _ => welcome.syncBookmarks
  | save =>
      refine Action.issues_bind (Action.issues_mapErr welcome.saveExtensionsToServer) ?_
      intro extensions
      refine Action.issues_bind welcome.mapping ?_
      intro mapping
      refine Action.issues_bind (Action.issues_mapErr (readBookmarks_issues welcome.plain _)) ?_
      intro snapshot
      refine Action.issues_bind (Action.issues_mapErr welcome.saveBookmarkSnapshot) ?_
      intro proof
      exact Action.issues_bind welcome.persistSyncState fun _ => welcome.feedback
  | load =>
      refine Action.issues_bind (Action.issues_mapErr welcome.loadExtensionsFromServer) ?_
      intro extensions
      refine Action.issues_bind welcome.mapping ?_
      rintro (_ | mapping)
      · exact trivial
      · refine Action.issues_bind (Action.issues_mapErr welcome.loadBookmarks) ?_
        rintro ⟨snapshot, proof⟩
        refine Action.issues_bind (Action.issues_mapErr
          (restoreBookmarks_issues welcome.replace _ _)) ?_
        intro restored
        exact Action.issues_bind welcome.persistSyncState fun _ => welcome.feedback

end Welcome

end
end HeliumSync
