import HeliumSync.Operations
import HeliumSync.System

/-! Devices that run the commands of the application against one server. -/
namespace HeliumSync
open Interaction

inductive ProfileCommand where
  | sync
  | save
  | load
  deriving DecidableEq, Repr

/-- A command, and the signed-in profile it is given to. -/
structure DeviceCommand where
  session : Session
  kind : ProfileCommand

def Session.perform {C : Type} (P : Primitives C) (session : Session) :
    ProfileCommand → Client C String SyncFeedback
  | .sync => session.syncProfileWithServer P
  | .save => session.saveProfileToServer P
  | .load => session.loadProfileFromServer P

section
variable {ι C : Type} [DecidableEq ι]

/-- Devices that run `sync_profile_with_server`, `save_profile_to_server` and
`load_profile_from_server`. -/
def profileSystem (P : Primitives C) : System ι DeviceCommand (Except String SyncFeedback)
    (World ι C) Choice (Op C) (Reply C) where
  exec := World.exec P
  program _ command := (command.session.perform P command.kind).run
  edit := World.edit P

/-- Every device runs only the sessions it may. -/
def running (may : ι → Session → Prop) :
    Condition ι DeviceCommand (World ι C) Choice (Op C) (Reply C) where
  begins i command _ := may i command.session
  acts := fun _ _ _ _ _ _ _ => True

/-- No device has synchronized anything yet. -/
def Unsynced (w : World ι C) : Prop :=
  ∀ i, (w.device i).state.mappings = (fun _ => none) ∧
    (w.device i).state.syncBases = fun _ => none

end

/-- An operation that stores no sync state and updates no object. -/
def Op.Harmless {C : Type} : Op C → Prop
  | .saveSyncState .. => False
  | .putObject _ request => request.baseRevision = none
  | _ => True

theorem Op.Plain.harmless {C : Type} (op : Op C) (plain : op.Plain) : op.Harmless := by
  cases op with
  | putObject | saveSyncState => exact plain.elim
  | _ => exact trivial

end HeliumSync
