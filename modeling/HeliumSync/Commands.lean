import HeliumSync.Client

/-! The commands of `main.rs` that synchronize one profile, and the profile functions they use. -/
namespace HeliumSync
open Interaction (Prog Action)

structure DiscoveredProfile where
  directoryName : String
  displayName : String
  bookmarksPath : String
  deriving DecidableEq, Repr

/-- A signed-in client and the profile its command is about. -/
structure Session where
  core : ClientCore
  serverId : String
  profile : DiscoveredProfile

structure BookmarkStats where
  bookmarks : Nat
  folders : Nat
  bytes : Nat
  deriving DecidableEq, Repr

structure RestoreResult where
  backupPath : String
  stats : BookmarkStats
  deriving DecidableEq, Repr

structure ExtensionSyncOutcome where
  stats : ExtensionBundleStats
  backupPath : Option String
  message : String
  deriving DecidableEq, Repr

structure SyncFeedback where
  action : String
  profileDirectory : String
  profileName : String
  stats : BookmarkStats
  revision : U64
  conflicts : Nat
  backupPath : Option String
  extensionStats : Option ExtensionBundleStats
  extensionBackupPath : Option String
  message : String
  deriving DecidableEq, Repr

/-- `EXTENSION_BUNDLE_FORMAT` -/
def extensionBundleFormat : String := "helium-extensions-v1"

mutual
def countBookmarks : BookmarkNode → Nat
  | .folder _ _ _ _ children => countBookmarksIn children
  | .url .. => 1

def countBookmarksIn : List BookmarkNode → Nat
  | [] => 0
  | node :: nodes => countBookmarks node + countBookmarksIn nodes
end

mutual
def countFolders : BookmarkNode → Nat
  | .folder _ _ _ _ children => 1 + countFoldersIn children
  | .url .. => 0

def countFoldersIn : List BookmarkNode → Nat
  | [] => 0
  | node :: nodes => countFolders node + countFoldersIn nodes
end

section
variable {C : Type}

/-- `LocalState::mapping` -/
def localMapping (key : LocalKey) : Client C ClientError (Option ObjectMapping) :=
  Action.ask (.perform (Op.mapping key))

/-- `LocalState::sync_base` -/
def localSyncBase (key : LocalKey) : Client C ClientError (Option (EncryptedEnvelopeV1 C)) :=
  Action.ask (.perform (Op.syncBase key))

/-- `LocalState::save_sync_state` -/
def saveSyncState (key : LocalKey) (mapping : ObjectMapping) (base : EncryptedEnvelopeV1 C) :
    Client C ClientError Unit := Action.ask (.perform (Op.saveSyncState key mapping base))

/-- `LocalState::profile_preferences` -/
def profilePreferences : Client C ClientError (List ProfilePreference) :=
  Action.ask (.perform Op.profilePreferences)

def sampleFile : Client C String FileRead := Action.ask (.perform Op.readFile)

def replaceFile (content : Plaintext) : Client C ProfileError String :=
  Action.ask (.perform (Op.replaceFile content))

def createExtensionBundle : Client C String (Bytes × ExtensionBundleStats) :=
  Action.ask (.perform Op.createExtensionBundle)

def restoreExtensionBundle (archive : Bytes) : Client C String (String × ExtensionBundleStats) :=
  Action.ask (.perform (Op.restoreExtensionBundle archive))

end

section
variable {C : Type} (P : Primitives C)

/-- `bookmark_stats` -/
def bookmarkStats (snapshot : BookmarkSnapshotV1) : BookmarkStats where
  bookmarks := (snapshot.roots.map fun root => countBookmarks root.node).sum
  folders := (snapshot.roots.map fun root => countFolders root.node).sum
  bytes := (P.writeJson (writeSnapshot snapshot)).length

/-- What `read_bookmarks` makes of the bytes of a file. -/
def parseBookmarks (profile : DiscoveredProfile) (content : Plaintext) :
    Except ProfileError BookmarkSnapshotV1 := do
  let raw ← ((P.parseText content).bind (Json.limited rawBookmarksDepth readRawBookmarks)).mapError
    (.parse profile.bookmarksPath)
  snapshotOf profile.directoryName raw

/-- One attempt of `read_bookmarks`, and what to do when the file changed under it. -/
def readAttempt (profile : DiscoveredProfile)
    (changed : Client C ProfileError BookmarkSnapshotV1) :
    Client C ProfileError BookmarkSnapshotV1 := do
  let read ← Action.mapErr (.read profile.bookmarksPath) sampleFile
  if read.before.len ≠ read.after.len ∨ read.before.modified ≠ read.after.modified then changed
  else .ofExcept (parseBookmarks P profile read.content)

/-- `read_bookmarks` retries once. -/
def readBookmarks (profile : DiscoveredProfile) : Client C ProfileError BookmarkSnapshotV1 :=
  readAttempt P profile (readAttempt P profile (throw (.changing profile.bookmarksPath)))

/-- `restore_bookmarks` -/
def restoreBookmarks (profile : DiscoveredProfile) (snapshot : BookmarkSnapshotV1) :
    Client C ProfileError RestoreResult :=
  if snapshot.profileDirectory ≠ profile.directoryName then
    throw (.profileMismatch snapshot.profileDirectory profile.directoryName)
  else do
    let backupPath ← replaceFile (.json (chromiumBookmarksJson snapshot))
    return ⟨backupPath, bookmarkStats P snapshot⟩

end

namespace Session
variable {C : Type} (P : Primitives C) (session : Session)

def bookmarkKey : LocalKey := ⟨session.serverId, bookmarkNamespace, session.profile.directoryName⟩

def extensionKey : LocalKey :=
  ⟨session.serverId, extensionManifestNamespace, session.profile.directoryName⟩

/-- `profile_name` -/
def profileName : Client C String String := do
  let preferences ← Action.mapErr ClientError.message profilePreferences
  let found := preferences.find? (·.directoryName = session.profile.directoryName)
  return (found.map ProfilePreference.displayName).getD session.profile.displayName

/-- `capture_extensions` -/
def captureExtensions : Client C String (ExtensionBundleDescriptor × Bytes) := do
  let (archive, stats) ← createExtensionBundle
  return ({
    format := extensionBundleFormat
    profileDirectory := session.profile.directoryName
    archiveSha256 := P.sha256 archive
    archiveBytes := Fin.ofNat _ archive.length
    stats }, archive)

/-- `persist_extension_sync_state` -/
def persistExtensionSyncState (manifest : ExtensionManifestV1) (proof : SyncProof) :
    Client C String Unit := do
  let sample ← Action.mapErr ClientError.message sample
  let encrypted ← Action.mapErr (fun error => s!"Extension sync state: {error.message}")
    (.ofExcept (session.core.protectBase P extensionManifestNamespace
      session.profile.directoryName (.text manifest.archiveSha256) sample.nonce))
  Action.mapErr ClientError.message
    (saveSyncState session.extensionKey ⟨proof.objectId, proof.revision⟩ encrypted)

/-- `String::from_utf8` -/
def plainText : Plaintext → Except String String
  | .text value => .ok value
  | plain =>
      match String.fromUTF8? ⟨(P.plainBytes plain).toArray⟩ with
      | some text => .ok text
      | none => .error "Stored extension sync base is invalid: invalid utf-8 sequence"

/-- `extension_base_hash` -/
def extensionBaseHash : Client C String (Option String) := do
  match ← Action.mapErr ClientError.message (localSyncBase session.extensionKey) with
  | none => return none
  | some encrypted =>
      let plaintext ← Action.mapErr
        (fun error => s!"Stored extension sync base: {error.message}")
        (.ofExcept (session.core.openBase P extensionManifestNamespace
          session.profile.directoryName encrypted))
      return some (← .ofExcept (plainText P plaintext))

/-- `remote_extension_manifest` -/
def remoteExtensionManifest : Client C String (Option (ExtensionManifestV1 × SyncProof)) := do
  match ← Action.mapErr ClientError.message (localMapping session.extensionKey) with
  | some mapping => do
      return some (← Action.mapErr ClientError.message
        (session.core.loadExtensionManifest P mapping.objectId))
  | none =>
      Action.mapErr ClientError.message
        (session.core.discoverExtensionBundle P session.profile.directoryName)

/-- `save_extensions_to_server` -/
def saveExtensionsToServer : Client C String ExtensionSyncOutcome := do
  let (descriptor, archive) ← session.captureExtensions P
  let remote ← session.remoteExtensionManifest P
  let (proof, manifest) ← Action.mapErr ClientError.message
    (session.core.saveExtensionBundle P descriptor archive
      (remote.map (·.2.objectId)) (remote.map (·.2.revision)))
  session.persistExtensionSyncState P manifest proof
  return ⟨manifest.stats, none, "Uploaded installed extensions and extension data."⟩

/-- `load_extensions_from_server` -/
def loadExtensionsFromServer : Client C String ExtensionSyncOutcome := do
  match ← session.remoteExtensionManifest P with
  | none => throw "This profile has no saved extension copy."
  | some (_, manifestProof) =>
      let (manifest, archive, proof) ← Action.mapErr ClientError.message
        (session.core.loadExtensionBundle P manifestProof.objectId)
      let (backupPath, stats) ← restoreExtensionBundle archive
      session.persistExtensionSyncState P manifest proof
      return ⟨stats, some backupPath,
        "Restored installed extensions and extension data after backup."⟩

/-- The error of a sync that finds both sides changed. -/
def extensionConflict : String :=
  "Extensions changed both locally and on the server. Use Recovery to explicitly replace the server copy or restore the server copy."

def upToDate (remote : ExtensionManifestV1) : ExtensionSyncOutcome :=
  ⟨remote.stats, none, "Extensions are already up to date."⟩

/-- `sync_extensions_with_server` -/
def syncExtensionsWithServer : Client C String ExtensionSyncOutcome := do
  let (descriptor, archive) ← session.captureExtensions P
  match ← session.remoteExtensionManifest P with
  | none =>
      let (proof, manifest) ← Action.mapErr ClientError.message
        (session.core.saveExtensionBundle P descriptor archive none none)
      session.persistExtensionSyncState P manifest proof
      return ⟨manifest.stats, none, "Started encrypted extension sync."⟩
  | some (remote, proof) =>
      let base ← session.extensionBaseHash P
      if base = none ∧ descriptor.archiveSha256 = remote.archiveSha256 then
        session.persistExtensionSyncState P remote proof
        return upToDate remote
      else
        let localChanged := base ≠ some descriptor.archiveSha256
        let remoteChanged := base ≠ some remote.archiveSha256
        match base.isSome, decide localChanged, decide remoteChanged with
        | _, false, false | false, _, false =>
            session.persistExtensionSyncState P remote proof
            return upToDate remote
        | false, _, true | true, false, true => session.loadExtensionsFromServer P
        | true, true, false => session.saveExtensionsToServer P
        | true, true, true => throw extensionConflict

/-- `persist_sync_state` -/
def persistSyncState (snapshot : BookmarkSnapshotV1) (proof : SyncProof) :
    Client C String Unit := do
  let sample ← Action.mapErr ClientError.message sample
  let encrypted ← Action.mapErr (fun error => s!"Bookmark sync state: {error.message}")
    (.ofExcept (session.core.protectBase P bookmarkNamespace session.profile.directoryName
      (.json (writeSnapshot snapshot)) sample.nonce))
  Action.mapErr ClientError.message
    (saveSyncState session.bookmarkKey ⟨proof.objectId, proof.revision⟩ encrypted)

/-- The remote snapshot of a sync: that of the mapped object, or else one discovered. -/
def remoteBookmarks : Client C String (Option (BookmarkSnapshotV1 × SyncProof)) := do
  match ← Action.mapErr ClientError.message (localMapping session.bookmarkKey) with
  | some mapping => do
      return some (← Action.mapErr ClientError.message
        (session.core.loadBookmarks P mapping.objectId))
  | none =>
      Action.mapErr ClientError.message
        (session.core.discoverBookmarks P session.profile.directoryName)

/-- The merge base a sync reads back. -/
def bookmarkBase : Client C String (Option BookmarkSnapshotV1) := do
  match ← Action.mapErr ClientError.message (localSyncBase session.bookmarkKey) with
  | none => return none
  | some encrypted =>
      let plaintext ← Action.mapErr (fun error => s!"Stored bookmark sync base: {error.message}")
        (.ofExcept (session.core.openBase P bookmarkNamespace session.profile.directoryName
          encrypted))
      return some (← Action.mapErr (s!"Stored bookmark sync base is invalid: {·}")
        (.ofExcept ((P.parseText plaintext).bind readSnapshot)))

def syncMessage (localChanged remoteChanged : Bool) (conflicts : Nat) : String :=
  match localChanged, remoteChanged with
  | false, false => "Bookmarks are already up to date."
  | true, false =>
      "Applied server changes locally and backed up the previous Bookmarks file."
  | false, true => "Uploaded local bookmark changes."
  | true, true =>
      s!"Merged local and server changes; {conflicts} concurrent edit(s) were resolved."

/-- The upload of a sync: only what differs from the remote snapshot. -/
def uploadMerged (remoteSnapshot : BookmarkSnapshotV1) (loaded : SyncProof)
    (merged : BookmarkSnapshotV1) : Client C String SyncProof :=
  if merged ≠ remoteSnapshot then
    Action.mapErr ClientError.message
      (session.core.saveBookmarkSnapshot P merged (some loaded.objectId) (some loaded.revision))
  else return loaded

/-- The local write of a sync: only what differs from the local bookmarks. -/
def restoreMerged (localSnapshot merged : BookmarkSnapshotV1) :
    Client C String (Option String) :=
  if merged ≠ localSnapshot then do
    let restored ← Action.mapErr ProfileError.message (restoreBookmarks P session.profile merged)
    return some restored.backupPath
  else return none

/-- `sync_profile_with_server` after its extension part. -/
def syncBookmarks (extensions : ExtensionSyncOutcome) : Client C String SyncFeedback := do
  let localSnapshot ← Action.mapErr ProfileError.message (readBookmarks P session.profile)
  match ← session.remoteBookmarks P with
  | none =>
      let proof ← Action.mapErr ClientError.message
        (session.core.saveBookmarkSnapshot P localSnapshot none none)
      session.persistSyncState P localSnapshot proof
      let stats := bookmarkStats P localSnapshot
      return {
        action := "synced"
        profileDirectory := session.profile.directoryName
        profileName := ← session.profileName
        message := s!"Started encrypted sync with {stats.bookmarks} bookmarks in {stats.folders} folders. {extensions.message}"
        stats
        revision := proof.revision
        conflicts := 0
        backupPath := none
        extensionStats := some extensions.stats
        extensionBackupPath := extensions.backupPath }
  | some (remoteSnapshot, loaded) =>
      let base ← session.bookmarkBase P
      let merged ← Action.mapErr ProfileError.message
        (.ofExcept (mergeBookmarks base localSnapshot remoteSnapshot))
      let remoteChanged := merged.snapshot ≠ remoteSnapshot
      let localChanged := merged.snapshot ≠ localSnapshot
      let proof ← session.uploadMerged P remoteSnapshot loaded merged.snapshot
      let backupPath ← session.restoreMerged P localSnapshot merged.snapshot
      session.persistSyncState P merged.snapshot proof
      let message := syncMessage (decide localChanged) (decide remoteChanged) merged.conflicts
      return {
        action := "synced"
        profileDirectory := session.profile.directoryName
        profileName := ← session.profileName
        stats := bookmarkStats P merged.snapshot
        revision := proof.revision
        conflicts := merged.conflicts
        backupPath
        message := s!"{message} {extensions.message}"
        extensionStats := some extensions.stats
        extensionBackupPath := extensions.backupPath }

/-- `sync_profile_with_server` -/
def syncProfileWithServer : Client C String SyncFeedback := do
  let extensions ← Action.mapErr
    (s!"Extension sync stopped before bookmark sync: {·}") (session.syncExtensionsWithServer P)
  session.syncBookmarks P extensions

/-- `save_profile_to_server`. It reads the mapping but discovers no bookmark object. -/
def saveProfileToServer : Client C String SyncFeedback := do
  let extensions ← Action.mapErr
    (s!"Extension save failed before bookmarks were changed: {·}")
    (session.saveExtensionsToServer P)
  let mapping ← Action.mapErr ClientError.message (localMapping session.bookmarkKey)
  let snapshot ← Action.mapErr (fun error => (ClientError.profile error).message)
    (readBookmarks P session.profile)
  let proof ← Action.mapErr ClientError.message
    (session.core.saveBookmarkSnapshot P snapshot (mapping.map ObjectMapping.objectId)
      (mapping.map ObjectMapping.revision))
  session.persistSyncState P snapshot proof
  let stats := bookmarkStats P snapshot
  return {
    action := "saved"
    profileDirectory := session.profile.directoryName
    profileName := ← session.profileName
    message := s!"Saved {stats.bookmarks} bookmarks in {stats.folders} folders. {extensions.message}"
    stats
    revision := proof.revision
    conflicts := 0
    backupPath := none
    extensionStats := some extensions.stats
    extensionBackupPath := extensions.backupPath }

/-- `load_profile_from_server` -/
def loadProfileFromServer : Client C String SyncFeedback := do
  let extensions ← Action.mapErr
    (s!"Extension restore failed before bookmarks were changed: {·}")
    (session.loadExtensionsFromServer P)
  match ← Action.mapErr ClientError.message (localMapping session.bookmarkKey) with
  | none => throw "This profile has no saved server copy. Save it before loading."
  | some mapping =>
      let (snapshot, proof) ← Action.mapErr ClientError.message
        (session.core.loadBookmarks P mapping.objectId)
      let restored ← Action.mapErr ProfileError.message
        (restoreBookmarks P session.profile snapshot)
      session.persistSyncState P snapshot proof
      return {
        action := "loaded"
        profileDirectory := session.profile.directoryName
        profileName := ← session.profileName
        message := s!"Loaded {restored.stats.bookmarks} bookmarks. Previous bookmarks and extension data are backed up in Downloads."
        stats := restored.stats
        revision := proof.revision
        conflicts := 0
        backupPath := some restored.backupPath
        extensionStats := some extensions.stats
        extensionBackupPath := extensions.backupPath }

end Session
end HeliumSync
