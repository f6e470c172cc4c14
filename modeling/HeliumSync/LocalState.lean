import HeliumSync.Client
import Mathlib.Data.String.Basic

/-! `LocalState`: the client's own database. -/
namespace HeliumSync

structure ProfileArchive where
  id : String
  directoryName : String
  archiveDirectory : String
  displayName : String
  archivedAt : String
  deriving DecidableEq, Repr

structure LocalState (C : Type) where
  mappings : LocalKey → Option ObjectMapping
  syncBases : LocalKey → Option (EncryptedEnvelopeV1 C)
  preferences : List ProfilePreference
  archives : List ProfileArchive

/-- `COLLATE NOCASE` folds ASCII letters only. -/
def noCase (text : String) : String := text.map Char.toLower

/-- `CHECK (length(trim(display_name)) > 0)`: SQLite's `trim` takes off spaces only, and its
`length` counts the characters before the first NUL. -/
def hasName (displayName : String) : Bool :=
  match displayName.toList.dropWhile (· = ' ') with
  | first :: _ => first ≠ '\x00'
  | [] => false

/-- What a write that breaks the check on names is refused with. -/
def nameCheckFailed : ClientError :=
  .state "CHECK constraint failed: length(trim(display_name)) > 0"

namespace LocalState
variable {C : Type}

def empty : LocalState C := ⟨fun _ => none, fun _ => none, [], []⟩

/-- `save_sync_state`: mapping and base in one transaction. -/
def saveSyncState (state : LocalState C) (key : LocalKey) (mapping : ObjectMapping)
    (base : EncryptedEnvelopeV1 C) : Except ClientError (LocalState C) :=
  if mapping.revision.val < 9223372036854775808 then
    .ok { state with
      mappings := Function.update state.mappings key (some mapping)
      syncBases := Function.update state.syncBases key (some base) }
  else .error (.state "out of range integral type conversion attempted")

/-- `ensure_profile` leaves a row of that directory name as it is. -/
def ensureProfile (state : LocalState C) (directoryName displayName : String) :
    Except ClientError (LocalState C) :=
  if hasName displayName then
    if state.preferences.any (·.directoryName = directoryName) then .ok state
    else .ok { state with
      preferences := state.preferences ++ [⟨directoryName, displayName, false, true⟩] }
  else .error nameCheckFailed

/-- `profile_preferences` -/
def profilePreferences (state : LocalState C) : List ProfilePreference :=
  state.preferences.insertionSort fun a b =>
    noCase a.displayName < noCase b.displayName ∨
      (noCase a.displayName = noCase b.displayName ∧ a.directoryName ≤ b.directoryName)

/-- An update of the row of one directory name, which must be there. -/
def updatePreference (state : LocalState C) (directoryName : String)
    (update : ProfilePreference → ProfilePreference) : Except ClientError (LocalState C) :=
  if state.preferences.any (·.directoryName = directoryName) then
    .ok { state with
      preferences := state.preferences.map fun row =>
        if row.directoryName = directoryName then update row else row }
  else .error (.state "profile is not registered")

/-- `rename_profile` -/
def renameProfile (state : LocalState C) (directoryName displayName : String) :
    Except ClientError (LocalState C) :=
  let displayName := trim displayName
  if displayName.isEmpty ∨ 128 < displayName.length then
    .error (.state "profile name must contain 1 to 128 characters")
  else if ¬ hasName displayName ∧ state.preferences.any (·.directoryName = directoryName) then
    .error nameCheckFailed
  else state.updatePreference directoryName fun row => { row with displayName }

/-- `set_auto_sync` -/
def setAutoSync (state : LocalState C) (directoryName : String) (enabled : Bool) :
    Except ClientError (LocalState C) :=
  state.updatePreference directoryName fun row => { row with autoSync := enabled }

/-- `set_default_profile`: the old default is cleared in the same transaction. -/
def setDefaultProfile (state : LocalState C) (directoryName : String) :
    Except ClientError (LocalState C) :=
  if state.preferences.any (·.directoryName = directoryName) then
    .ok { state with
      preferences := state.preferences.map fun row =>
        { row with isDefault := decide (row.directoryName = directoryName) } }
  else .error (.state "profile is not registered")

/-- `record_profile_archive`: the new row and the cleared default in one transaction. -/
def recordProfileArchive (state : LocalState C) (archive : ProfileArchive) :
    Except ClientError (LocalState C) :=
  if ¬ hasName archive.displayName then .error nameCheckFailed
  else if state.archives.any fun row => row.id = archive.id ∨
      row.directoryName = archive.directoryName ∨
      row.archiveDirectory = archive.archiveDirectory then
    .error (.state "UNIQUE constraint failed: profile_archives")
  else .ok { state with
    archives := state.archives ++ [archive]
    preferences := state.preferences.map fun row =>
      if row.directoryName = archive.directoryName then { row with isDefault := false } else row }

/-- `profile_archives` -/
def profileArchives (state : LocalState C) : List ProfileArchive :=
  state.archives.insertionSort fun a b =>
    b.archivedAt < a.archivedAt ∨
      (a.archivedAt = b.archivedAt ∧ noCase a.displayName ≤ noCase b.displayName)

/-- `remove_profile_archive` -/
def removeProfileArchive (state : LocalState C) (id : String) :
    Except ClientError (LocalState C) :=
  if state.archives.any (·.id = id) then
    .ok { state with archives := state.archives.filter (·.id ≠ id) }
  else .error (.state "profile archive is not registered")

end LocalState
end HeliumSync
