import HeliumSync.ExtensionBundle

/-! `restore_extension_bundle`, operation by operation: it unpacks the archive beside the live data,
backs the live data up, moves it out, and moves the unpacked data in. -/
namespace HeliumSync
open Interaction (Action)
open Files

/-- What a restore takes from the `zip` crate besides. -/
structure ZipReader extends ZipFormat where
  isDir : String → Bool

/-- `ExtensionRestoreResult` -/
structure ExtensionRestoreResult where
  backupPath : String
  stats : ExtensionBundleStats
  deriving DecidableEq, Repr

namespace LocatedProfile
variable {α : Type}

/-- A `TempDir` that lives as long as the body. -/
def withTempDir (parent : Path) (start : String)
    (body : Path → FileAction Plaintext ProfileError α) :
    FileAction Plaintext ProfileError α := do
  let dir ← (tempDirIn parent start).mapErr fun e => .write (display parent) e.message
  let result ← Action.outcome (body dir)
  dropDir dir
  .ofExcept result

/-- `validate_extension_relative_path` -/
def validateExtensionRelativePath : Path → Except ProfileError Unit
  | [] => .error (.invalidExtensionArchive "empty payload path")
  | first :: rest =>
      if first ∈ extensionDirectories then .ok ()
      else if first = "IndexedDB" ∧ isExtensionOrigin (rest.headD "") = true then .ok ()
      else .error (.invalidExtensionArchive
        s!"payload path is outside the extension allowlist: {zipPath (first :: rest)}")

/-- The path below `payload`, if there is one. -/
def stripPayload : Path → Option Path
  | first :: relative => if first = "payload" ∧ relative ≠ [] then some relative else none
  | [] => none

section
variable (Z : ZipReader) (staged : Path)

/-- The entry of a folder. -/
def extractFolder (destination : Path) : FileAction Plaintext ProfileError Unit :=
  (change (.createDirAll destination)).mapErr fun e => .write (display destination) e.message

/-- The entry of a file. -/
def extractFile (destination : Path) (content : Plaintext) :
    FileAction Plaintext ProfileError Unit := do
  (change (.createDirAll destination.dropLast)).mapErr fun e =>
    .write (display destination.dropLast) e.message
  (change (.createNew destination)).mapErr fun e => .write (display destination) e.message
  (change (.writeAll destination content)).mapErr fun e => .write (display destination) e.message

/-- One entry of `extract_extension_payload`. -/
def extractEntry (entry : ArchiveEntry) : FileAction Plaintext ProfileError Unit :=
  match Z.enclosedName entry.name with
  | none => throw (.invalidExtensionArchive s!"unsafe path {entry.name}")
  | some enclosed =>
      match stripPayload enclosed with
      | none => return ()
      | some relative => do
          .ofExcept (validateExtensionRelativePath relative)
          if Z.isDir entry.name then extractFolder (staged ++ relative)
          else extractFile (staged ++ relative) entry.content

/-- `extract_extension_payload` -/
def extractExtensionPayload : List ArchiveEntry → FileAction Plaintext ProfileError Unit
  | [] => return ()
  | entry :: entries => do
      extractEntry Z staged entry
      extractExtensionPayload entries

end

section
variable {C : Type} (P : Primitives C)

/-- An entry of the archive by its name, read from JSON. -/
def parseEntry {α : Type} (read : Json → Except String α) (entries : List ArchiveEntry)
    (name missing invalid : String) : Except ProfileError α :=
  match entries.find? (·.name = name) with
  | none => .error (.invalidExtensionArchive
      s!"{missing} is missing: specified file not found in archive")
  | some entry => ((P.parseText entry.content).bind read).mapError fun e =>
      .invalidExtensionArchive s!"{invalid} is invalid: {e}"

/-- The manifest of an archive that this profile may restore. -/
def archiveMetadata (profile : LocatedProfile) (entries : List ArchiveEntry) :
    Except ProfileError ExtensionArchiveMetadata := do
  let metadata ← parseEntry P readArchiveMetadata entries "manifest.json" "manifest" "manifest"
  if metadata.format ≠ extensionBundleFormat then
    throw (.invalidExtensionArchive s!"unsupported format {metadata.format}")
  else if metadata.profileDirectory ≠ profile.directoryName then
    throw (.profileMismatch metadata.profileDirectory profile.directoryName)
  else return metadata

/-- The `extensions` section that the archive has for a preference file. -/
def archivedSection (entries : List ArchiveEntry) (fileName : String) :
    Except ProfileError Json :=
  (parseEntry P Json.asValue entries (preferencesEntryName fileName)
    (preferencesEntryName fileName) (preferencesEntryName fileName)).map Json.toValue

/-- Preferences with their `extensions` section replaced, or removed if there is none. -/
def mergePreferences (live : Path) (extensions : Json) : Json → Except ProfileError Json
  | .obj entries =>
      let others := entries.filter (·.1 ≠ "extensions")
      .ok (.obj (if extensions = .null then others
        else Ordered.insert Prod.fst ("extensions", extensions) others))
  | _ => .error (.invalidExtensionArchive s!"{display live} is not a JSON object")

/-- The preferences that a restore starts from. -/
def livePreferences (live : Path) : FileAction Plaintext ProfileError Json := do
  if ← test false (.isFile live) then
    let content ← (readFile live).mapErr fun e => .read (display live) e.message
    .ofExcept (((P.parseJson content).map Json.toValue).mapError fun e => .parse (display live) e)
  else return .obj []

/-- One file of `stage_preference_files`. -/
def stagePreferenceFile (home staged : Path) (entries : List ArchiveEntry) (fileName : String) :
    FileAction Plaintext ProfileError Unit := do
  let extensions ← .ofExcept (archivedSection P entries fileName)
  let live := home ++ [fileName]
  if !(← test false (.exists live)) && decide (extensions = .null) then return ()
  else
    let preferences ← livePreferences P live
    let merged ← .ofExcept (mergePreferences live extensions preferences)
    (change (.write (staged ++ [fileName]) (.json merged))).mapErr fun e =>
      .write (display (staged ++ [fileName])) e.message

/-- `stage_preference_files` -/
def stagePreferenceFiles (home staged : Path) (entries : List ArchiveEntry) :
    List String → FileAction Plaintext ProfileError Unit
  | [] => return ()
  | fileName :: fileNames => do
      stagePreferenceFile P home staged entries fileName
      stagePreferenceFiles home staged entries fileNames

end

/-- The origins that the `IndexedDB` of a directory lists. -/
def listOrigins (root : Path) : FileAction Plaintext ProfileError (List String) := do
  let indexedDb := root ++ ["IndexedDB"]
  if ← test false (.isDir indexedDb) then
    let names ← (readDir indexedDb).mapErr fun e => .read (display indexedDb) e.message
    return names.filter isExtensionOrigin
  else return []

/-- The set that `extension_restore_targets` collects, in the order of its paths. -/
def targetsOf (origins : List String) : List Path :=
  Ordered.collect id (extensionDirectories.map ([·]) ++ origins.map (["IndexedDB", ·]) ++
    extensionPreferenceFiles.map ([·]))

/-- `extension_restore_targets` -/
def extensionRestoreTargets (home staged : Path) :
    FileAction Plaintext ProfileError (List Path) := do
  let live ← listOrigins home
  let packed ← listOrigins staged
  return targetsOf (live ++ packed)

/-- Undoing an installation: the loop over the installed targets. -/
def removeInstalled (home : Path) : List Path → FileAction Plaintext ProfileError (List String)
  | [] => return []
  | relative :: rest => do
      let live := home ++ relative
      let directory ← test true (.isDir live)
      let removed ← Action.outcome
        (unchange (if directory then .removeDirAll live else .removeFile live))
      let errors ← removeInstalled home rest
      return match removed with
        | .ok () => errors
        | .error e => s!"could not remove {display live}: {e.message}" :: errors

/-- Undoing a move: the loop over the moved targets. -/
def putBack (home rollback : Path) : List Path → FileAction Plaintext ProfileError (List String)
  | [] => return []
  | relative :: rest => do
      let live := home ++ relative
      let previous := rollback ++ relative
      let returned ← Action.outcome do
        (unchange (.createDirAll live.dropLast)).mapErr fun e =>
          s!"could not recreate {display live.dropLast}: {e.message}"
        (unchange (.rename previous live)).mapErr fun e =>
          s!"could not restore {display previous} to {display live}: {e.message}"
      let errors ← putBack home rollback rest
      return match returned with
        | .ok () => errors
        | .error details => details :: errors

/-- `rollback_extension_targets` -/
def rollbackExtensionTargets (home rollback : Path) (moved installed : List Path) :
    FileAction Plaintext ProfileError (List String) := do
  let removing ← removeInstalled home installed.reverse
  let returning ← putBack home rollback moved.reverse
  return removing ++ returning

/-- `rollback_summary` -/
def rollbackSummary (errors : List String) : String :=
  if errors.isEmpty then "the original extension data was restored"
  else
    let reported := "; ".intercalate errors
    s!"rollback also reported: {reported}"

/-- Rolling back, and the error that says so. -/
def rollBack (home rollback backup : Path) (moved installed : List Path) (failed : Path)
    (reason : String) : FileAction Plaintext ProfileError α := do
  let errors ← rollbackExtensionTargets home rollback moved installed
  throw (.archive (display failed)
    s!"{reason}; {rollbackSummary errors}; backup: {display backup}")

/-- The loop that moves live targets out. -/
def moveOut (home rollback backup : Path) :
    List Path → List Path → FileAction Plaintext ProfileError (List Path)
  | [], moved => return moved
  | relative :: rest, moved => do
      let live := home ++ relative
      if ← test false (.exists live) then
        let previous := rollback ++ relative
        (change (.createDirAll previous.dropLast)).mapErr fun e =>
          .write (display previous.dropLast) e.message
        match ← Action.outcome (change (.rename live previous)) with
        | .ok () => moveOut home rollback backup rest (moved ++ [relative])
        | .error e =>
            rollBack home rollback backup moved [] live
              s!"could not stage existing extension data ({e.message})"
      else moveOut home rollback backup rest moved

/-- The loop that moves staged targets in. -/
def moveIn (home rollback staged backup : Path) (moved : List Path) :
    List Path → List Path → FileAction Plaintext ProfileError Unit
  | [], _ => return ()
  | relative :: rest, installed => do
      if ← test false (.exists (staged ++ relative)) then
        let live := home ++ relative
        match ← Action.outcome (change (.createDirAll live.dropLast)) with
        | .error e =>
            rollBack home rollback backup moved installed live.dropLast
              s!"could not prepare extension destination ({e.message})"
        | .ok () =>
            match ← Action.outcome (change (.rename (staged ++ relative) live)) with
            | .error e =>
                rollBack home rollback backup moved installed live
                  s!"extension replacement failed ({e.message})"
            | .ok () => moveIn home rollback staged backup moved rest (installed ++ [relative])
      else moveIn home rollback staged backup moved rest installed

/-- The two loops of `restore_extension_bundle`. -/
def replaceTargets (home staged backup rollback : Path) :
    FileAction Plaintext ProfileError Unit := do
  let targets ← extensionRestoreTargets home staged
  let moved ← moveOut home rollback backup targets []
  moveIn home rollback staged backup moved targets []

def extensionBackupPath (profile : LocatedProfile) (downloads : Path) (unique : String) : Path :=
  downloads ++ [s!"Helium-Sync-{safeProfileName profile.directoryName}" ++
    s!"-extensions-before-load-{unique}.zip"]

section
variable {C : Type} (P : Primitives C) (Z : ZipReader)

/-- A restore after the archive was read, with its stage made. -/
def restoreStaged (profile : LocatedProfile) (entries : List ArchiveEntry) (downloads : Path)
    (unique : String) (stage : Path) : FileAction Plaintext ProfileError Unit := do
  let staged := stage ++ ["profile"]
  (change (.createDir staged)).mapErr fun e => .write (display staged) e.message
  extractExtensionPayload Z staged entries
  stagePreferenceFiles P profile.path staged entries extensionPreferenceFiles
  (change (.createDirAll downloads)).mapErr fun e => .write (display downloads) e.message
  let backup := profile.extensionBackupPath downloads unique
  let _ ← profile.createExtensionBundle P Z.toZipFormat backup
  withTempDir profile.path ".helium-sync-extension-rollback-"
    (replaceTargets profile.path staged backup)

/-- `restore_extension_bundle` -/
def restoreExtensionBundle (profile : LocatedProfile) (archivePath downloads : Path)
    (unique : String) : FileAction Plaintext ProfileError ExtensionRestoreResult := do
  let archive ← (readFile archivePath).mapErr fun e => .read (display archivePath) e.message
  let entries ← .ofExcept ((Z.unpack (P.plainBytes archive)).mapError fun e =>
    .invalidExtensionArchive s!"could not open ZIP: {e}")
  let metadata ← .ofExcept (archiveMetadata P profile entries)
  withTempDir profile.path ".helium-sync-extension-stage-"
    (restoreStaged P Z profile entries downloads unique)
  return ⟨display (profile.extensionBackupPath downloads unique), metadata.stats⟩

end
end LocatedProfile
end HeliumSync
