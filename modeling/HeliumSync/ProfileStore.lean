import HeliumSync.Devices
import HeliumSync.ExtensionBundle
import HeliumSync.RecoveryCode

/-! The profiles of a Helium installation: their directories, the archive beside them, and the
commands of the application that create, archive, restore and delete them. -/
namespace HeliumSync
open Interaction (Prog Action Entry)
open Files

/-- The files of a computer and the client's database. -/
structure ProfileStore (C : Type) where
  files : FileTree Plaintext
  state : LocalState C

/-- `str::parse::<u32>`, which takes a plus before the digits. -/
def parseU32 (text : String) : Option Nat :=
  let digits := match text.toList with
    | '+' :: rest => rest
    | chars => chars
  if digits.isEmpty ∨ ¬ digits.all Char.isDigit then none
  else
    let value := digits.foldl (fun value c => 10 * value + (c.toNat - 48)) 0
    if value < 4294967296 then some value else none

/-- A directory that is taken for a profile although `Local State` does not list it. -/
def isProfileDirectory (name : String) : Bool :=
  name = "Default" || ((stripPrefix "Profile " name).bind parseU32).isSome

/-- `profile_archive_root` -/
def profileArchiveRoot (userData : Path) : Path := userData ++ [".helium-sync-archives"]

section
variable {C : Type} (P : Primitives C) (userData : Path)

/-- `discover_installation` -/
def discoverInstallation (files : FileTree Plaintext) : Except String Unit :=
  match files.stat userData with
  | some .dir => .ok ()
  | _ => .error "Helium user-data directory was not found"

/-- The directories in `Local State` with the names that Helium shows. -/
def infoCache (files : FileTree Plaintext) : Except String (List (String × String)) :=
  match files.stat (userData ++ ["Local State"]) with
  | some (.file content) => do
      let state ← ((P.parseJson content).map Json.toValue).mapError fun e =>
        (ProfileError.parse (display (userData ++ ["Local State"])) e).message
      match (state.get "profile").bind (·.get "info_cache") with
      | some (.obj cache) => return cache.map fun (directory, metadata) =>
          (directory, match metadata.get "name" with
            | some (.str name) => name
            | _ => directory)
      | _ => return []
  | _ => return []

/-- The profile of a name, if a directory is there. -/
def locate (files : FileTree Plaintext) : String × String → Option LocatedProfile
  | (directoryName, displayName) =>
      match files.stat (userData ++ [directoryName]) with
      | some .dir => some {
          directoryName, displayName
          path := userData ++ [directoryName]
          bookmarksPath := display (userData ++ [directoryName, "Bookmarks"]) }
      | _ => none

/-- `enumerate_profiles`, by directory names. -/
def enumerateProfiles (files : FileTree Plaintext) : Except String (List LocatedProfile) := do
  let cache ← infoCache P userData files
  let entries ← (files.readDir userData).mapError fun e =>
    (ProfileError.read (display userData) e.message).message
  let directories := entries.filter fun name =>
    (files.lstat (userData ++ [name]) matches some .dir) && isProfileDirectory name
  let names := Ordered.collect Prod.fst (directories.map (fun name => (name, name)) ++ cache)
  return names.filterMap (locate userData files)

/-- `discover` -/
def discoverProfiles (files : FileTree Plaintext) : Except String (List LocatedProfile) := do
  discoverInstallation userData files
  enumerateProfiles P userData files

end

/-- What the commands ask of the computer. -/
inductive ProfileOp where
  | heliumClosed
  | installation
  | discover
  | newUuid
  | test (test : Test)
  | canonicalize (p : Path)
  | symlinkMetadata (p : Path)
  | change (change : Files.Change Plaintext) (undo : Bool)
  | profilePreferences
  | profileArchives
  | ensureProfile (directoryName displayName : String)
  | renameProfile (directoryName displayName : String)
  | setDefaultProfile (directoryName : String)
  | setAutoSync (directoryName : String) (enabled : Bool)
  | recordProfileArchive (id directoryName archiveDirectory displayName : String)
  | removeProfileArchive (id : String)

def ProfileOp.Reply : ProfileOp → Type
  | .heliumClosed | .installation => Except String Unit
  | .discover => Except String (List LocatedProfile)
  | .newUuid => BitVec 128
  | .test _ => Bool
  | .canonicalize _ => Except IoError Path
  | .symlinkMetadata _ => Except IoError (Kind Plaintext)
  | .change .. => Except IoError Unit
  | .profilePreferences => Except ClientError (List ProfilePreference)
  | .profileArchives => Except ClientError (List ProfileArchive)
  | .ensureProfile .. | .renameProfile .. | .setDefaultProfile _ | .setAutoSync ..
  | .recordProfileArchive .. | .removeProfileArchive _ => Except ClientError Unit

/-- How an operation turns out. -/
inductive ProfileChoice where
  | proceed
  | failed (details : String)
  /-- A file operation. -/
  | fate (fate : Fate Plaintext)
  | drawn (uuid : BitVec 128)
  /-- A new row gets this time. -/
  | stamped (archivedAt : String)

namespace ProfileStore
section
variable {C : Type} (P : Primitives C) (userData : Path)

def answered {α : Type} (store : ProfileStore C) (result : Except String α) :
    ProfileChoice → Option (ProfileStore C × Except String α)
  | .proceed => some (store, result)
  | .failed details => some (store, .error details)
  | _ => none

def selected {α : Type} (store : ProfileStore C) (rows : α) :
    ProfileChoice → Option (ProfileStore C × Except ClientError α)
  | .proceed => some (store, .ok rows)
  | .failed details => some (store, .error (.state details))
  | _ => none

def committed (store : ProfileStore C) (result : Except ClientError (LocalState C)) :
    ProfileChoice → Option (ProfileStore C × Except ClientError Unit)
  | .proceed =>
      match result with
      | .ok state => some ({ store with state }, .ok ())
      | .error error => some (store, .error error)
  | .failed details => some (store, .error (.state details))
  | _ => none

def exec : (op : ProfileOp) → ProfileChoice → ProfileStore C → Option (ProfileStore C × op.Reply)
  | .heliumClosed, choice, store => store.answered (.ok ()) choice
  | .installation, choice, store => store.answered (discoverInstallation userData store.files) choice
  | .discover, choice, store => store.answered (discoverProfiles P userData store.files) choice
  | .newUuid, .drawn uuid, store => some (store, uuid)
  | .newUuid, _, _ => none
  | .test test, .proceed, store => some (store, test.holds store.files)
  -- `exists` and `is_dir` take a refused inspection for no
  | .test _, .failed _, store => some (store, false)
  | .test _, _, _ => none
  | .canonicalize p, .fate fate, store =>
      (FileCall.answer store.files (match store.files.resolve p with
        | some place => .ok place
        | none => .error .notFound) fate).map fun (_, reply) => (store, reply)
  | .canonicalize _, _, _ => none
  | .symlinkMetadata p, .fate fate, store =>
      (FileCall.answer store.files (match store.files.lstat p with
        | some kind => .ok kind
        | none => .error .notFound) fate).map fun (_, reply) => (store, reply)
  | .symlinkMetadata _, _, _ => none
  | .change change _, .fate fate, store =>
      (FileCall.alter store.files change fate).map fun (files, reply) => ({ store with files }, reply)
  | .change .., _, _ => none
  | .profilePreferences, choice, store => store.selected store.state.profilePreferences choice
  | .profileArchives, choice, store => store.selected store.state.profileArchives choice
  | .ensureProfile directoryName displayName, choice, store =>
      store.committed (store.state.ensureProfile directoryName displayName) choice
  | .renameProfile directoryName displayName, choice, store =>
      store.committed (store.state.renameProfile directoryName displayName) choice
  | .setDefaultProfile directoryName, choice, store =>
      store.committed (store.state.setDefaultProfile directoryName) choice
  | .setAutoSync directoryName enabled, choice, store =>
      store.committed (store.state.setAutoSync directoryName enabled) choice
  | .recordProfileArchive id directoryName archiveDirectory displayName, .stamped archivedAt, store =>
      store.committed (store.state.recordProfileArchive
        ⟨id, directoryName, archiveDirectory, displayName, archivedAt⟩) .proceed
  | .recordProfileArchive .., .failed details, store => some (store, .error (.state details))
  | .recordProfileArchive .., _, _ => none
  | .removeProfileArchive id, choice, store =>
      store.committed (store.state.removeProfileArchive id) choice

end
end ProfileStore

/-- A program over the profiles. -/
abbrev ProfileAction (ε α : Type) := Action ProfileOp ProfileOp.Reply ε α

namespace ProfileStore

/-- `ensure_helium_closed` -/
def ensureHeliumClosed : ProfileAction String Unit := Action.ask (.perform ProfileOp.heliumClosed)

def installation : ProfileAction String Unit := Action.ask (.perform ProfileOp.installation)

def discover : ProfileAction String (List LocatedProfile) :=
  Action.ask (.perform ProfileOp.discover)

def newUuid : ProfileAction String (BitVec 128) := Action.observe (.perform ProfileOp.newUuid)

def test (question : Test) : ProfileAction String Bool :=
  Action.observe (.perform (ProfileOp.test question))

def canonicalize (p : Path) : ProfileAction IoError Path :=
  Action.ask (.perform (ProfileOp.canonicalize p))

def symlinkMetadata (p : Path) : ProfileAction IoError (Kind Plaintext) :=
  Action.ask (.perform (ProfileOp.symlinkMetadata p))

def change (change : Files.Change Plaintext) : ProfileAction IoError Unit :=
  Action.ask (.perform (ProfileOp.change change false))

/-- A change that undoes an earlier one. -/
def unchange (change : Files.Change Plaintext) : ProfileAction IoError Unit :=
  Action.ask (.perform (ProfileOp.change change true))

def profilePreferences : ProfileAction ClientError (List ProfilePreference) :=
  Action.ask (.perform ProfileOp.profilePreferences)

def profileArchives : ProfileAction ClientError (List ProfileArchive) :=
  Action.ask (.perform ProfileOp.profileArchives)

/-- A command of the database that returns nothing. -/
def ensureProfile (directoryName displayName : String) : ProfileAction ClientError Unit :=
  Action.ask (.perform (ProfileOp.ensureProfile directoryName displayName))

def renameProfile (directoryName displayName : String) : ProfileAction ClientError Unit :=
  Action.ask (.perform (ProfileOp.renameProfile directoryName displayName))

def setDefaultProfile (directoryName : String) : ProfileAction ClientError Unit :=
  Action.ask (.perform (ProfileOp.setDefaultProfile directoryName))

def setAutoSync (directoryName : String) (enabled : Bool) : ProfileAction ClientError Unit :=
  Action.ask (.perform (ProfileOp.setAutoSync directoryName enabled))

def recordProfileArchive (id directoryName archiveDirectory displayName : String) :
    ProfileAction ClientError Unit :=
  Action.ask (.perform (ProfileOp.recordProfileArchive id directoryName archiveDirectory displayName))

def removeProfileArchive (id : String) : ProfileAction ClientError Unit :=
  Action.ask (.perform (ProfileOp.removeProfileArchive id))

/-- The loop of `ensure_discovered_profiles`. -/
def ensureProfiles : List LocatedProfile → ProfileAction String Unit
  | [] => return ()
  | profile :: profiles => do
      let initialName := if profile.directoryName = "Default" then "You" else profile.displayName
      (ensureProfile profile.directoryName initialName).mapErr ClientError.message
      ensureProfiles profiles

/-- `ensure_discovered_profiles` -/
def ensureDiscoveredProfiles : ProfileAction String (List LocatedProfile) := do
  let profiles ← discover
  ensureProfiles profiles
  let preferences ← profilePreferences.mapErr ClientError.message
  let currentDefaultIsPresent := preferences.any fun preference =>
    preference.isDefault && profiles.any (·.directoryName = preference.directoryName)
  if currentDefaultIsPresent then return profiles
  else
    match (profiles.find? (·.directoryName = "Default")).or profiles.head? with
    | some profile => do
        (setDefaultProfile profile.directoryName).mapErr ClientError.message
        return profiles
    | none => return profiles

/-- A row of the report, without what it says of bookmarks and the server. -/
structure ProfileView where
  directoryName : String
  displayName : String
  browserName : String
  isDefault : Bool
  autoSync : Bool

structure ProfileReport where
  profiles : List ProfileView
  archives : List ProfileArchive

/-- `profile_report` -/
def profileReport : ProfileAction String ProfileReport := do
  let profiles ← ensureDiscoveredProfiles
  let preferences ← profilePreferences.mapErr ClientError.message
  let archives ← profileArchives.mapErr ClientError.message
  return {
    profiles := profiles.map fun profile =>
      let preference := preferences.find? (·.directoryName = profile.directoryName)
      { directoryName := profile.directoryName
        displayName := (preference.map (·.displayName)).getD profile.displayName
        browserName := profile.displayName
        isDefault := (preference.map (·.isDefault)).getD false
        autoSync := (preference.map (·.autoSync)).getD true }
    archives }

/-- `discovered_profile` -/
def discoveredProfile (profileDirectory : String) : ProfileAction String LocatedProfile := do
  match (← discover).find? (·.directoryName = profileDirectory) with
  | some profile => return profile
  | none => throw "Selected Helium profile is no longer available"

section
variable (userData : Path)

/-- The loop of `create_profile_with_reserved`, with this many numbers left. -/
def reserveFrom (reserved : List String) : Nat → Nat → ProfileAction String LocatedProfile
  | 0, _ => throw "invalid profile name: no available Profile N directory remains"
  | remaining + 1, number => do
      let directoryName := s!"Profile {number}"
      if directoryName ∈ reserved then reserveFrom reserved remaining (number + 1)
      else
        let path := userData ++ [directoryName]
        match ← Action.outcome (change (.createDir path)) with
        | .ok () => return {
            directoryName, path
            displayName := directoryName
            bookmarksPath := display (path ++ ["Bookmarks"]) }
        | .error .alreadyExists => reserveFrom reserved remaining (number + 1)
        | .error e => throw (ProfileError.write (display path) e.message).message

/-- `create_profile_with_reserved` -/
def createProfileWithReserved (reserved : List String) : ProfileAction String LocatedProfile := do
  if ← test (.isDir userData) then reserveFrom userData reserved 4294967295 1
  else throw (ProfileError.read (display userData)
    "Helium user-data directory does not exist").message

/-- `create_browser_profile` -/
def createBrowserProfile (displayName : String) : ProfileAction String ProfileReport := do
  let displayName := trim displayName
  if displayName.isEmpty ∨ 128 < displayName.length then
    throw "Profile name must contain 1 to 128 characters"
  else
    ensureHeliumClosed
    installation
    let archives ← profileArchives.mapErr ClientError.message
    let profile ← createProfileWithReserved userData (archives.map (·.directoryName))
    (ensureProfile profile.directoryName displayName).mapErr ClientError.message
    profileReport

/-- What the commands on one preference share. -/
def changePreference (setting : ProfileAction ClientError Unit) :
    ProfileAction String ProfileReport := do
  let _ ← ensureDiscoveredProfiles
  setting.mapErr ClientError.message
  profileReport

/-- `rename_profile` -/
def renameProfileCommand (profileDirectory displayName : String) :
    ProfileAction String ProfileReport := changePreference (renameProfile profileDirectory displayName)

/-- `set_default_profile` -/
def setDefaultProfileCommand (profileDirectory : String) : ProfileAction String ProfileReport :=
  changePreference (setDefaultProfile profileDirectory)

/-- `set_profile_auto_sync` -/
def setProfileAutoSync (profileDirectory : String) (enabled : Bool) :
    ProfileAction String ProfileReport := changePreference (setAutoSync profileDirectory enabled)

/-- `find_profile_archive` -/
def findProfileArchive (archiveId : String) : ProfileAction String ProfileArchive := do
  match (← profileArchives.mapErr ClientError.message).find? (·.id = archiveId) with
  | some archive => return archive
  | none => throw "Profile archive is not registered"

section
variable {C : Type} (P : Primitives C)

/-- The name of an archive's directory must be an id as it is written. -/
def checkArchiveId (archiveDirectory : String) : Except String Unit :=
  match P.parseUuid archiveDirectory with
  | .error _ => .error "Profile archive directory identifier is invalid"
  | .ok id =>
      if P.formatUuid id = archiveDirectory then .ok ()
      else .error "Profile archive directory identifier is not canonical"

/-- `checked_archive_path` -/
def checkedArchivePath (archiveRoot : Path) (archiveDirectory : String) :
    ProfileAction String Path := do
  .ofExcept (checkArchiveId P archiveDirectory)
  let root ← (canonicalize archiveRoot).mapErr fun e =>
    s!"Could not inspect profile archive root: {e.message}"
  let kind ← (symlinkMetadata (root ++ [archiveDirectory])).mapErr fun e =>
    s!"Could not inspect profile archive: {e.message}"
  if kind ≠ .dir then throw "Profile archive is not a regular directory"
  else
    let resolved ← (canonicalize (root ++ [archiveDirectory])).mapErr fun e =>
      s!"Could not resolve profile archive: {e.message}"
    if resolved.dropLast ≠ root then
      throw "Profile archive resolved outside its managed directory"
    else return resolved

/-- What `archive_profile` does with a new id. -/
def archiveUnder (profile : LocatedProfile) (profileDirectory displayName archiveId : String) :
    ProfileAction String ProfileReport := do
  let archiveRoot := profileArchiveRoot userData
  (change (.createDirAll archiveRoot)).mapErr fun e =>
    s!"Could not create profile archive directory: {e.message}"
  let archivedPath := archiveRoot ++ [archiveId]
  (change (.rename profile.path archivedPath)).mapErr fun e =>
    s!"Could not archive {display profile.path} to {display archivedPath}: {e.message}"
  match ← Action.outcome (recordProfileArchive archiveId profileDirectory archiveId displayName) with
  | .ok () => profileReport
  | .error error =>
      match ← Action.outcome (unchange (.rename archivedPath profile.path)) with
      | .ok () => throw error.message
      | .error rollback =>
          throw (s!"Could not record profile archive ({error.message}); " ++
            s!"rollback also failed: {rollback.message}")

/-- `archive_profile` -/
def archiveProfile (profileDirectory : String) : ProfileAction String ProfileReport := do
  ensureHeliumClosed
  let profile ← discoveredProfile profileDirectory
  installation
  let _ ← ensureDiscoveredProfiles
  let preferences ← profilePreferences.mapErr ClientError.message
  let displayName := ((preferences.find? (·.directoryName = profileDirectory)).map
    (·.displayName)).getD profile.displayName
  let archiveId := P.formatUuid (← newUuid)
  archiveUnder userData profile profileDirectory displayName archiveId

/-- What `restore_archived_profile` does when the place is free. -/
def restoreFrom (archiveId : String) (archive : ProfileArchive) (archivedPath : Path) :
    ProfileAction String ProfileReport := do
  let restoredPath := userData ++ [archive.directoryName]
  (change (.rename archivedPath restoredPath)).mapErr fun e =>
    s!"Could not restore {display archivedPath} to {display restoredPath}: {e.message}"
  match ← Action.outcome (removeProfileArchive archiveId) with
  | .ok () => profileReport
  | .error error =>
      match ← Action.outcome (unchange (.rename restoredPath archivedPath)) with
      | .ok () => throw error.message
      | .error rollback =>
          throw (s!"Could not finish profile restore ({error.message}); " ++
            s!"rollback also failed: {rollback.message}")

/-- `restore_archived_profile` -/
def restoreArchivedProfile (archiveId : String) : ProfileAction String ProfileReport := do
  ensureHeliumClosed
  let archive ← findProfileArchive archiveId
  installation
  let archivedPath ← checkedArchivePath P (profileArchiveRoot userData) archive.archiveDirectory
  if ← test (.exists (userData ++ [archive.directoryName])) then
    throw (s!"Cannot restore {archive.displayName} because " ++
      s!"{display (userData ++ [archive.directoryName])} already exists")
  else restoreFrom userData archiveId archive archivedPath

/-- The removal of an archive's directory, unless it is gone already. -/
def removeArchiveDirectory (archive : ProfileArchive) : ProfileAction String Unit := do
  let archiveRoot := profileArchiveRoot userData
  .ofExcept (checkArchiveId P archive.archiveDirectory)
  match ← Action.outcome (symlinkMetadata (archiveRoot ++ [archive.archiveDirectory])) with
  | .ok _ =>
      let archivedPath ← checkedArchivePath P archiveRoot archive.archiveDirectory
      (change (.removeDirAll archivedPath)).mapErr fun e =>
        s!"Could not permanently delete {display archivedPath}: {e.message}"
  | .error .notFound => return ()
  | .error e => throw s!"Could not inspect profile archive: {e.message}"

/-- `delete_archived_profile` -/
def deleteArchivedProfile (archiveId : String) : ProfileAction String ProfileReport := do
  ensureHeliumClosed
  let archive ← findProfileArchive archiveId
  installation
  removeArchiveDirectory userData P archive
  (removeProfileArchive archiveId).mapErr ClientError.message
  profileReport

end
end

end ProfileStore

/-- The commands on profiles that use no server. -/
inductive LocalCommand where
  | discover
  | create (displayName : String)
  | rename (profileDirectory displayName : String)
  | setDefault (profileDirectory : String)
  | setAutoSync (profileDirectory : String) (enabled : Bool)
  | archive (profileDirectory : String)
  | restore (archiveId : String)
  | delete (archiveId : String)

open ProfileStore in
def LocalCommand.program {C : Type} (P : Primitives C) (userData : Path) :
    LocalCommand → ProfileAction String ProfileReport
  | .discover => profileReport
  | .create displayName => createBrowserProfile userData displayName
  | .rename profileDirectory displayName => renameProfileCommand profileDirectory displayName
  | .setDefault profileDirectory => setDefaultProfileCommand profileDirectory
  | .setAutoSync profileDirectory enabled => setProfileAutoSync profileDirectory enabled
  | .archive profileDirectory => archiveProfile userData P profileDirectory
  | .restore archiveId => restoreArchivedProfile userData P archiveId
  | .delete archiveId => deleteArchivedProfile userData P archiveId

end HeliumSync
