import HeliumSync.BookmarksFile
import HeliumSync.Crypto
import HeliumSync.Interaction
import HeliumSync.Manifest
import Mathlib.Data.List.Sort

/-! `ClientCore`: what one client asks of the world, and the orchestration of `orchestration.rs`
as programs over these operations. -/
namespace HeliumSync
open Interaction (Prog Action Entry)

/-- The key of a row of `object_mappings` and of `sync_bases`. -/
structure LocalKey where
  serverId : String
  nameSpace : String
  localKey : String
  deriving DecidableEq, Repr

structure ObjectMapping where
  objectId : ObjectId
  revision : U64
  deriving DecidableEq, Repr

structure ProfilePreference where
  directoryName : String
  displayName : String
  isDefault : Bool
  autoSync : Bool
  deriving DecidableEq, Repr

/-- The clock and the random generators, read together. -/
structure Sample where
  time : Timestamp
  objectId : ObjectId
  nonce : Bytes
  nonceSize : nonce.length = 24

structure FileMetadata where
  len : Nat
  modified : Option Int
  deriving DecidableEq

/-- The file as `read_bookmarks` samples it. -/
structure FileRead where
  before : FileMetadata
  content : Plaintext
  after : FileMetadata

/-- The operations of a client, each atomic. -/
inductive Op (C : Type) where
  | sample
  | putObject (id : ObjectId) (request : PutObjectRequest C)
  | getObject (id : ObjectId)
  | deleteObject (id : ObjectId) (request : DeleteObjectRequest)
  | changes (after : U64)
  | readFile
  | replaceFile (content : Plaintext)
  | createExtensionBundle
  | restoreExtensionBundle (archive : Bytes)
  | mapping (key : LocalKey)
  | syncBase (key : LocalKey)
  | saveSyncState (key : LocalKey) (mapping : ObjectMapping) (base : EncryptedEnvelopeV1 C)
  | profilePreferences

def Reply (C : Type) : Op C → Type
  | .sample => Sample
  | .putObject .. | .getObject _ | .deleteObject .. => Except ClientError (SyncObject C)
  | .changes _ => Except ClientError ChangesResponse
  | .readFile => Except String FileRead
  | .replaceFile _ => Except ProfileError String
  | .createExtensionBundle => Except String (Bytes × ExtensionBundleStats)
  | .restoreExtensionBundle _ => Except String (String × ExtensionBundleStats)
  | .mapping _ => Except ClientError (Option ObjectMapping)
  | .syncBase _ => Except ClientError (Option (EncryptedEnvelopeV1 C))
  | .saveSyncState .. => Except ClientError Unit
  | .profilePreferences => Except ClientError (List ProfilePreference)

abbrev Client (C ε α : Type) := Action (Op C) (Reply C) ε α

section
variable {C : Type}

def sample : Client C ClientError Sample := Action.observe (.perform Op.sample)

/-- `ApiClient::put_object` -/
def putObject (id : ObjectId) (request : PutObjectRequest C) :
    Client C ClientError (SyncObject C) := Action.ask (.perform (Op.putObject id request))

/-- `ApiClient::get_object` -/
def getObject (id : ObjectId) : Client C ClientError (SyncObject C) :=
  Action.ask (.perform (Op.getObject id))

/-- `ApiClient::delete_object` -/
def deleteObject (id : ObjectId) (request : DeleteObjectRequest) :
    Client C ClientError (SyncObject C) := Action.ask (.perform (Op.deleteObject id request))

/-- `ApiClient::changes` -/
def changes (after : U64) : Client C ClientError ChangesResponse :=
  Action.ask (.perform (Op.changes after))

end

structure SyncProof where
  objectId : ObjectId
  nameSpace : String
  revision : U64
  cursor : U64
  plaintextMatches : Bool
  deriving DecidableEq, Repr

/-- `BOOKMARK_NAMESPACE` -/
def bookmarkNamespace : String := "helium.bookmarks.v1"

/-- `EXTENSION_MANIFEST_NAMESPACE` -/
def extensionManifestNamespace : String := "helium.extensions.manifest.v1"

/-- `EXTENSION_CHUNK_NAMESPACE` -/
def extensionChunkNamespace : String := "helium.extensions.chunk.v1"

/-- `EXTENSION_CHUNK_BYTES` -/
def extensionChunkBytes : Nat := 2900000

/-- `saturating_add(1)` -/
def saturatingSucc (revision : U64) : U64 :=
  if h : revision.val + 1 < 18446744073709551616 then ⟨revision.val + 1, h⟩ else revision

structure ClientCore where
  masterKey : MasterKey
  deviceId : DeviceId

/-- `is_undecryptable_candidate` -/
def isUndecryptableCandidate (error : ClientError) : Bool := error = authenticationFailed

/-- `slice::chunks` -/
def chunksOf (size : Nat) (bytes : Bytes) : List Bytes :=
  if _h : size = 0 ∨ bytes = [] then [] else bytes.take size :: chunksOf size (bytes.drop size)
termination_by bytes.length
decreasing_by
  have := List.length_pos_of_ne_nil (not_or.mp _h).2
  simp only [List.length_drop]
  omega

/-- An object of the change feed that `discover_bookmarks` may load. -/
structure Candidate where
  objectId : ObjectId
  cursor : U64
  deleted : Bool
  deriving DecidableEq

/-- `HashMap::insert` -/
def noteChange (candidates : List Candidate) (change : Change) : List Candidate :=
  ⟨change.objectId, change.cursor, change.deleted⟩ ::
    candidates.filter (·.objectId ≠ change.objectId)

/-- The live candidates, those that changed last first. -/
def liveCandidates (candidates : List Candidate) : List Candidate :=
  (candidates.filter (!·.deleted)).insertionSort fun a b => b.cursor ≤ a.cursor

namespace ClientCore
variable {C : Type} (P : Primitives C) (core : ClientCore)

/-- `protect_sync_base` and `protect_extension_sync_base`, with the nonce they draw. -/
def protectBase (nameSpace profileDirectory : String) (plaintext : Plaintext) (nonce : Bytes) :
    Except ClientError (EncryptedEnvelopeV1 C) :=
  encryptLocalState P core.masterKey s!"{nameSpace}:{profileDirectory}" plaintext nonce

/-- `open_sync_base` and `open_extension_sync_base` -/
def openBase (nameSpace profileDirectory : String) (encrypted : EncryptedEnvelopeV1 C) :
    Except ClientError Plaintext :=
  decryptLocalState P core.masterKey s!"{nameSpace}:{profileDirectory}" encrypted

/-- `upload` -/
def upload (nameSpace : String) (plaintext : Plaintext) (objectId : Option ObjectId)
    (baseRevision : Option U64) : Client C ClientError SyncProof := do
  let sample ← sample
  let id := objectId.getD sample.objectId
  let metadata : ObjectMetadata := {
    protocol := protocolMax
    objectId := id
    nameSpace
    deviceId := core.deviceId
    revision := (baseRevision.map saturatingSucc).getD 1
    modifiedAt := sample.time }
  let envelope ← .ofExcept (encrypt P core.masterKey metadata plaintext sample.nonce)
  let _ ← putObject id {
    nameSpace, baseRevision, deviceId := core.deviceId, modifiedAt := sample.time, envelope }
  let stored ← getObject id
  let decrypted ← .ofExcept (decrypt P core.masterKey stored)
  if decrypted = plaintext then
    return ⟨id, nameSpace, stored.revision, stored.cursor, true⟩
  else throw (.crypto "retrieved plaintext did not match the uploaded object")

/-- `download` -/
def download (expectedNamespace : String) (objectId : ObjectId) :
    Client C ClientError (Plaintext × SyncProof) := do
  let stored ← getObject objectId
  if stored.nameSpace = expectedNamespace then
    let plaintext ← .ofExcept (decrypt P core.masterKey stored)
    return (plaintext, ⟨objectId, stored.nameSpace, stored.revision, stored.cursor, true⟩)
  else throw (.serialization s!"server object has unexpected namespace {stored.nameSpace}")

/-- `delete_objects`, at a time drawn for each. -/
def deleteObjects : List (ObjectId × U64) → Client C ClientError Unit
  | [] => return
  | (id, revision) :: objects => do
      let sample ← sample
      let _ ← deleteObject id ⟨revision, core.deviceId, sample.time⟩
      deleteObjects objects

/-- `serde_json::from_slice` into a record. -/
def parseAs {α : Type} (read : Json → Except String α) (plaintext : Plaintext) :
    Except ClientError α :=
  ((P.parseText plaintext).bind read).mapError .serialization

/-- `load_bookmarks` -/
def loadBookmarks (objectId : ObjectId) :
    Client C ClientError (BookmarkSnapshotV1 × SyncProof) := do
  let (plaintext, proof) ← core.download P bookmarkNamespace objectId
  let snapshot ← .ofExcept (parseAs P readSnapshot plaintext)
  return (snapshot, proof)

/-- `load_extension_manifest` -/
def loadExtensionManifest (objectId : ObjectId) :
    Client C ClientError (ExtensionManifestV1 × SyncProof) := do
  let (plaintext, proof) ← core.download P extensionManifestNamespace objectId
  let manifest ← .ofExcept (parseAs P (readManifest P) plaintext)
  return (manifest, proof)

/-- `save_bookmark_snapshot` -/
def saveBookmarkSnapshot (snapshot : BookmarkSnapshotV1) (objectId : Option ObjectId)
    (baseRevision : Option U64) : Client C ClientError SyncProof :=
  if objectId.isSome ≠ baseRevision.isSome then
    throw (.state "bookmark object ID and revision must either both exist or both be absent")
  else core.upload P bookmarkNamespace (.json (writeSnapshot snapshot)) objectId baseRevision

/-- The paging loop of discovery. A cursor that does not advance ends it. -/
def discoverChanges (nameSpace : String) (candidates : List Candidate) (after : U64) :
    Client C ClientError (List Candidate) := do
  let page ← changes after
  let candidates := (page.changes.filter (·.nameSpace = nameSpace)).foldl noteChange candidates
  if page.hasMore then
    if _h : after < page.nextCursor then discoverChanges nameSpace candidates page.nextCursor
    else throw (.serialization "server change cursor did not advance")
  else return candidates
termination_by 18446744073709551616 - after.val
decreasing_by
  have := page.nextCursor.isLt
  have : after.val < page.nextCursor.val := _h
  omega

/-- The loop over candidates: one that cannot be authenticated is passed over. -/
def firstOf {α : Type} (load : ObjectId → Client C ClientError (α × SyncProof))
    (belongs : α → Bool) : List Candidate → Client C ClientError (Option (α × SyncProof))
  | [] => return none
  | candidate :: candidates => do
      match ← Action.outcome (load candidate.objectId) with
      | .ok (value, proof) =>
          if belongs value then return some (value, proof) else firstOf load belongs candidates
      | .error error =>
          if isUndecryptableCandidate error then firstOf load belongs candidates else throw error

/-- `discover_bookmarks` -/
def discoverBookmarks (profileDirectory : String) :
    Client C ClientError (Option (BookmarkSnapshotV1 × SyncProof)) := do
  let candidates ← discoverChanges bookmarkNamespace [] 0
  firstOf (core.loadBookmarks P) (·.profileDirectory = profileDirectory)
    (liveCandidates candidates)

/-- `discover_extension_bundle` -/
def discoverExtensionBundle (profileDirectory : String) :
    Client C ClientError (Option (ExtensionManifestV1 × SyncProof)) := do
  let candidates ← discoverChanges extensionManifestNamespace [] 0
  firstOf (core.loadExtensionManifest P) (·.profileDirectory = profileDirectory)
    (liveCandidates candidates)

/-- One uploaded chunk: its proof, hash and length. -/
structure UploadedChunk where
  proof : SyncProof
  sha256 : String
  bytes : U64

def uploadedIds (uploaded : List UploadedChunk) : List (ObjectId × U64) :=
  uploaded.map fun chunk => (chunk.proof.objectId, chunk.proof.revision)

/-- Deletes what was uploaded and reports both errors when that fails too. -/
def cleanUp {α : Type} (uploaded : List UploadedChunk) (error : ClientError)
    (both : String → String → String) : Client C ClientError α := do
  match ← Action.outcome (core.deleteObjects (uploadedIds uploaded)) with
  | .ok () => throw error
  | .error cleanup => throw (.state (both error.message cleanup.message))

/-- The chunk loop of `save_extension_bundle`. -/
def uploadChunks : List Bytes → List UploadedChunk → Client C ClientError (List UploadedChunk)
  | [], uploaded => return uploaded
  | chunk :: chunks, uploaded => do
      match ← Action.outcome (core.upload P extensionChunkNamespace (.binary chunk) none none) with
      | .ok proof =>
          uploadChunks chunks (uploaded ++ [⟨proof, P.sha256 chunk, Fin.ofNat _ chunk.length⟩])
      | .error error =>
          core.cleanUp uploaded error fun error cleanup =>
            s!"extension chunk upload failed ({error}); cleanup also failed ({cleanup})"

def manifestOf (descriptor : ExtensionBundleDescriptor) (uploaded : List UploadedChunk) :
    ExtensionManifestV1 where
  format := descriptor.format
  profileDirectory := descriptor.profileDirectory
  archiveSha256 := descriptor.archiveSha256
  archiveBytes := descriptor.archiveBytes
  stats := descriptor.stats
  chunks := uploaded.map fun chunk =>
    ⟨chunk.proof.objectId, chunk.proof.revision, chunk.sha256, chunk.bytes⟩

def chunkIds (manifest : ExtensionManifestV1) : List (ObjectId × U64) :=
  manifest.chunks.map fun chunk => (chunk.objectId, chunk.revision)

/-- The cleanup after publication. -/
def deleteOldChunks : Option ExtensionManifestV1 → Client C ClientError Unit
  | none => return
  | some old => do
      match ← Action.outcome (core.deleteObjects (chunkIds old)) with
      | .ok () => return
      | .error error => throw (.state
          s!"the new extension snapshot is active, but old chunk cleanup failed: {error.message}")

/-- `save_extension_bundle` -/
def saveExtensionBundle (descriptor : ExtensionBundleDescriptor) (archive : Bytes)
    (objectId : Option ObjectId) (baseRevision : Option U64) :
    Client C ClientError (SyncProof × ExtensionManifestV1) :=
  if objectId.isSome ≠ baseRevision.isSome then
    throw (.state
      "extension manifest object ID and revision must either both exist or both be absent")
  else if descriptor.archiveBytes.val ≠ archive.length ∨
      descriptor.archiveSha256 ≠ P.sha256 archive then
    throw (.serialization "extension archive does not match its descriptor")
  else do
    let oldManifest ← match objectId with
      | some id => do pure (some (← core.loadExtensionManifest P id).1)
      | none => pure none
    let uploaded ← core.uploadChunks P (chunksOf extensionChunkBytes archive) []
    let manifest := manifestOf descriptor uploaded
    match ← Action.outcome (core.upload P extensionManifestNamespace
        (.json (writeManifest P manifest)) objectId baseRevision) with
    | .ok proof =>
        core.deleteOldChunks oldManifest
        return (proof, manifest)
    | .error error =>
        core.cleanUp uploaded error fun error cleanup =>
          s!"extension manifest upload failed ({error}); new chunk cleanup also failed ({cleanup})"

/-- The chunk loop of `load_extension_bundle`. -/
def downloadChunks : List ExtensionChunkV1 → Bytes → Client C ClientError Bytes
  | [], archive => return archive
  | chunk :: chunks, archive => do
      let (plaintext, proof) ← core.download P extensionChunkNamespace chunk.objectId
      let bytes := P.plainBytes plaintext
      if proof.revision ≠ chunk.revision ∨ bytes.length ≠ chunk.bytes.val ∨
          P.sha256 bytes ≠ chunk.sha256 then
        throw (.crypto s!"extension chunk {P.formatUuid chunk.objectId.uuid} failed manifest verification")
      else downloadChunks chunks (archive ++ bytes)

/-- `load_extension_bundle` -/
def loadExtensionBundle (objectId : ObjectId) :
    Client C ClientError (ExtensionManifestV1 × Bytes × SyncProof) := do
  let (manifest, proof) ← core.loadExtensionManifest P objectId
  let archive ← core.downloadChunks P manifest.chunks []
  if archive.length ≠ manifest.archiveBytes.val ∨ P.sha256 archive ≠ manifest.archiveSha256 then
    throw (.crypto "reassembled extension archive failed manifest verification")
  else return (manifest, archive, proof)

end ClientCore
end HeliumSync
