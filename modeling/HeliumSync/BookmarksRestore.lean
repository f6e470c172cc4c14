import HeliumSync.Commands
import HeliumSync.FileRules

/-! `restore_bookmarks` and the backup it makes first, operation by operation. -/
namespace HeliumSync
open Interaction (Action)
open Files

/-- An empty file. -/
instance : Inhabited Plaintext := ⟨.binary []⟩

/-- A profile and its directory, symbolic links in whose path are resolved. -/
structure LocatedProfile extends DiscoveredProfile where
  path : Path

/-- `Path::display` -/
def display (p : Path) : String := "/" ++ "/".intercalate p

/-- `safe_profile_name` -/
def safeProfileName (profileDirectory : String) : String :=
  String.ofList (profileDirectory.toList.map fun c =>
    if c.isAlphanum || c = '-' || c = '_' then c else '_')

/-- An entry of a ZIP archive; a folder's name ends with a slash. -/
structure ArchiveEntry where
  name : String
  content : Plaintext
  deriving DecidableEq

/-- What the code takes from the `zip` crate. -/
structure ZipFormat where
  pack : List ArchiveEntry → Bytes
  unpack : Bytes → Except String (List ArchiveEntry)
  enclosedName : String → Option Path

namespace LocatedProfile

/-- `bookmarks_path` -/
def bookmarks (profile : LocatedProfile) : Path := profile.path ++ ["Bookmarks"]

section
variable (Z : ZipFormat)

def noBookmarksNote : String := "No local Bookmarks file existed before this load.\n"

/-- What `create_backup_archive` packs. -/
def backupEntry (profile : LocatedProfile) : Option Plaintext → ArchiveEntry
  | some content => ⟨profile.directoryName.replace "\\" "_" ++ "/Bookmarks", content⟩
  | none => ⟨"README.txt", .text noBookmarksNote⟩

/-- The content of a path, if a file is there. -/
def readIfFile (p : Path) : FileAction Plaintext IoError (Option Plaintext) := do
  if ← test false (.isFile p) then
    let content ← readFile p
    return some content
  else return none

/-- Giving up on a file that was begun. -/
def abandon (p : Path) (error : ProfileError) : FileAction Plaintext ProfileError Unit := do
  (change (.removeFile p)).ignore
  throw error

/-- `create_backup_archive` -/
def createBackupArchive (profile : LocatedProfile) (backup : Path) :
    FileAction Plaintext ProfileError Unit := do
  (change (.createNew backup)).mapErr fun e => .archive (display backup) e.message
  let archived ← Action.outcome do
    let content ← readIfFile profile.bookmarks
    change (.writeAll backup (.binary (Z.pack [profile.backupEntry content])))
    change (.syncAll backup)
  match archived with
  | .ok () => return ()
  | .error e => abandon backup (.archive (display backup) e.message)

def backupName (profile : LocatedProfile) (unique : String) : String :=
  s!"Helium-Sync-{safeProfileName profile.directoryName}-before-load-{unique}.zip"

def backupPath (profile : LocatedProfile) (downloads : Path) (unique : String) : Path :=
  downloads ++ [profile.backupName unique]

def stagedPath (profile : LocatedProfile) (unique : String) : Path :=
  profile.path ++ [s!".Bookmarks.helium-sync-new-{unique}"]

def previousPath (profile : LocatedProfile) (unique : String) : Path :=
  profile.path ++ [s!".Bookmarks.helium-sync-previous-{unique}"]

/-- Writing the new file beside the live one. -/
def stageBookmarks (staged : Path) (content : Plaintext) :
    FileAction Plaintext ProfileError Unit := do
  (change (.createNew staged)).mapErr fun e => .write (display staged) e.message
  let written ← Action.outcome do
    change (.writeAll staged content)
    change (.syncAll staged)
  match written with
  | .ok () => return ()
  | .error e => abandon staged (.write (display staged) e.message)

/-- A rename that removes the staged file when it fails. -/
def renameOrUnstage (profile : LocatedProfile) (staged src dst : Path) :
    FileAction Plaintext ProfileError Unit := do
  let renamed ← Action.outcome (change (.rename src dst))
  match renamed with
  | .ok () => return ()
  | .error e => abandon staged (.write (display profile.bookmarks) e.message)

/-- Moving the staged file in, and the set-aside original back when that fails. -/
def installBookmarks (profile : LocatedProfile) (backup staged previous : Path) :
    FileAction Plaintext ProfileError Unit := do
  let installed ← Action.outcome (change (.rename staged profile.bookmarks))
  match installed with
  | .ok () => return ()
  | .error e => do
      let rollback ← Action.outcome (unchange (.rename previous profile.bookmarks))
      abandon staged (.archive (display profile.bookmarks) (match rollback with
        | .ok () => s!"replacement failed and the original was restored: {e.message}"
        | .error r => s!"replacement failed ({e.message}); restoring the original also failed " ++
            s!"({r.message}); backup: {display backup}"))

end

section
variable {C : Type} (P : Primitives C) (Z : ZipFormat)

/-- `restore_bookmarks` -/
def restoreBookmarks (profile : LocatedProfile) (snapshot : BookmarkSnapshotV1) (downloads : Path)
    (unique : String) : FileAction Plaintext ProfileError RestoreResult := do
  let backup := profile.backupPath downloads unique
  let staged := profile.stagedPath unique
  let previous := profile.previousPath unique
  if snapshot.profileDirectory ≠ profile.directoryName then
    throw (.profileMismatch snapshot.profileDirectory profile.directoryName)
  else
    (change (.createDirAll downloads)).mapErr fun e => .write (display downloads) e.message
    profile.createBackupArchive Z backup
    stageBookmarks staged (.json (chromiumBookmarksJson snapshot))
    if ← test false (.exists profile.bookmarks) then
      profile.renameOrUnstage staged profile.bookmarks previous
      profile.installBookmarks backup staged previous
      (change (.removeFile previous)).mapErr fun e => .write (display previous) e.message
    else
      profile.renameOrUnstage staged staged profile.bookmarks
    return ⟨display backup, bookmarkStats P snapshot⟩

end
end LocatedProfile
end HeliumSync
