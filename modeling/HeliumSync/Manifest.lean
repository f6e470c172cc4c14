import HeliumSync.Protocol

/-! Extension manifests and their JSON form. -/
namespace HeliumSync
open Json (asString asU64 asList ofU64 fields lookup only required)

structure ExtensionBundleStats where
  extensions : U64
  files : U64
  bytes : U64
  deriving DecidableEq, Repr

structure ExtensionBundleDescriptor where
  format : String
  profileDirectory : String
  archiveSha256 : String
  archiveBytes : U64
  stats : ExtensionBundleStats
  deriving DecidableEq, Repr

structure ExtensionChunkV1 where
  objectId : ObjectId
  revision : U64
  sha256 : String
  bytes : U64
  deriving DecidableEq, Repr

structure ExtensionManifestV1 where
  format : String
  profileDirectory : String
  archiveSha256 : String
  archiveBytes : U64
  stats : ExtensionBundleStats
  chunks : List ExtensionChunkV1
  deriving DecidableEq, Repr

section
variable {C : Type} (P : Primitives C)

/-- `Serialize for ExtensionBundleStats` -/
def writeStats (stats : ExtensionBundleStats) : Json :=
  .obj [("extensions", ofU64 stats.extensions), ("files", ofU64 stats.files),
    ("bytes", ofU64 stats.bytes)]

/-- `Serialize for ExtensionChunkV1` -/
def writeChunk (chunk : ExtensionChunkV1) : Json :=
  .obj [("object_id", .str (P.formatUuid chunk.objectId.uuid)), ("revision", ofU64 chunk.revision),
    ("sha256", .str chunk.sha256), ("bytes", ofU64 chunk.bytes)]

/-- `Serialize for ExtensionManifestV1` -/
def writeManifest (manifest : ExtensionManifestV1) : Json :=
  .obj [("format", .str manifest.format), ("profile_directory", .str manifest.profileDirectory),
    ("archive_sha256", .str manifest.archiveSha256),
    ("archive_bytes", ofU64 manifest.archiveBytes), ("stats", writeStats manifest.stats),
    ("chunks", .arr (manifest.chunks.map (writeChunk P)))]

/-- `Deserialize for ExtensionBundleStats` -/
def readStats (value : Json) : Except String ExtensionBundleStats := do
  let entries ← fields ["extensions", "files", "bytes"] 3 value
  return {
    extensions := ← required entries "extensions" asU64
    files := ← required entries "files" asU64
    bytes := ← required entries "bytes" asU64 }

/-- `Deserialize for ObjectId` -/
def readObjectId (value : Json) : Except String ObjectId := do
  return ⟨← P.parseUuid (← asString value)⟩

/-- `Deserialize for ExtensionChunkV1` -/
def readChunk (value : Json) : Except String ExtensionChunkV1 := do
  let entries ← fields ["object_id", "revision", "sha256", "bytes"] 4 value
  return {
    objectId := ← required entries "object_id" (readObjectId P)
    revision := ← required entries "revision" asU64
    sha256 := ← required entries "sha256" asString
    bytes := ← required entries "bytes" asU64 }

/-- `Deserialize for ExtensionManifestV1` -/
def readManifest (value : Json) : Except String ExtensionManifestV1 := do
  let entries ← fields
    ["format", "profile_directory", "archive_sha256", "archive_bytes", "stats", "chunks"] 6 value
  return {
    format := ← required entries "format" asString
    profileDirectory := ← required entries "profile_directory" asString
    archiveSha256 := ← required entries "archive_sha256" asString
    archiveBytes := ← required entries "archive_bytes" asU64
    stats := ← required entries "stats" readStats
    chunks := ← required entries "chunks" (asList (readChunk P)) }

end

section
variable {C : Type} {P : Primitives C}

theorem readStats_writeStats (stats : ExtensionBundleStats) :
    readStats (writeStats stats) = .ok stats := by
  simp [readStats, writeStats, fields, required, lookup, only, bind, Except.bind, pure,
    Except.pure]

theorem readObjectId_str (lawful : P.Lawful) (id : ObjectId) :
    readObjectId P (.str (P.formatUuid id.uuid)) = .ok id := by
  simp [readObjectId, lawful.parse_uuid, bind, Except.bind, pure, Except.pure]

theorem readChunk_writeChunk (lawful : P.Lawful) (chunk : ExtensionChunkV1) :
    readChunk P (writeChunk P chunk) = .ok chunk := by
  have id := readObjectId_str lawful chunk.objectId
  simp [readChunk, writeChunk, fields, required, lookup, only, id, bind, Except.bind, pure,
    Except.pure]

theorem readManifest_writeManifest (lawful : P.Lawful) (manifest : ExtensionManifestV1) :
    readManifest P (writeManifest P manifest) = .ok manifest := by
  have stats := readStats_writeStats manifest.stats
  have chunks := Json.asList_map manifest.chunks fun chunk _ => readChunk_writeChunk lawful chunk
  simp [readManifest, writeManifest, fields, required, lookup, only, stats, chunks, bind,
    Except.bind, pure, Except.pure]

end
end HeliumSync
