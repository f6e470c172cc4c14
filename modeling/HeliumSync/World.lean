import HeliumSync.Commands
import HeliumSync.LocalState
import HeliumSync.Server

/-! The world that clients share: one server and, of every client, its own state. `exec` says
what an operation may do, network faults and local failures included. -/
namespace HeliumSync

structure ClientDevice (C : Type) where
  state : LocalState C
  bookmarks : Option Plaintext
  backups : List (Option Plaintext)
  extensions : Bytes × ExtensionBundleStats

structure World (ι C : Type) where
  server : Server C
  device : ι → ClientDevice C

/-- How one operation turns out. -/
inductive Choice where
  | proceed
  | refused
  | lostRequest (error : ClientError)
  | lostReply (error : ClientError)
  | sampled (sample : Sample)
  | metadata (before after : FileMetadata)
  | failed (details : String)
  | backedUp (path : String)
  | failedBackedUp (details : String)
  | failedReplaced (details : String)
  | failedLost (details : String)
  | installed (path : String) (extensions : Bytes × ExtensionBundleStats)
  | failedInstalled (details : String) (extensions : Bytes × ExtensionBundleStats)
  | edited (bookmarks : Option Plaintext) (extensions : Bytes × ExtensionBundleStats)
  | registered (request : RegisterDeviceRequest) (now : Timestamp)
  | revoked (id : DeviceId) (now : Timestamp)

/-- `parse_response` of an error reply. -/
def apiError (error : ApiError) : ClientError := .api error.status error.code error.message

namespace World
variable {ι C : Type} [DecidableEq ι] (P : Primitives C)

def setServer (w : World ι C) (server : Server C) : World ι C := { w with server }

def setDevice (w : World ι C) (i : ι) (device : ClientDevice C) : World ι C :=
  { w with device := Function.update w.device i device }

/-- A request that reads. A lost request and a lost reply look the same. -/
def ask {α : Type} (w : World ι C) (answer : Except ApiError α) :
    Choice → Option (World ι C × Except ClientError α)
  | .proceed => some (w, answer.mapError apiError)
  | .refused => some (w, .error (apiError .database))
  | .lostRequest error | .lostReply error =>
      if error.fromTransport then some (w, .error error) else none
  | _ => none

/-- A request that writes: its transaction commits although the reply may be lost. -/
def commit {α : Type} (w : World ι C) (answer : Except ApiError (α × Server C)) :
    Choice → Option (World ι C × Except ClientError α)
  | .proceed =>
      match answer with
      | .ok (value, server) => some (w.setServer server, .ok value)
      | .error error => some (w, .error (apiError error))
  | .refused => some (w, .error (apiError .database))
  | .lostRequest error => if error.fromTransport then some (w, .error error) else none
  | .lostReply error =>
      if error.fromTransport then
        match answer with
        | .ok (_, server) => some (w.setServer server, .error error)
        | .error _ => some (w, .error error)
      else none
  | _ => none

/-- A query of the local database. -/
def query {α : Type} (w : World ι C) (value : α) :
    Choice → Option (World ι C × Except ClientError α)
  | .proceed => some (w, .ok value)
  | .failed details => some (w, .error (.state details))
  | _ => none

def readFile (w : World ι C) (i : ι) : Choice → Option (World ι C × Except String FileRead)
  | .metadata before after =>
      match (w.device i).bookmarks with
      | some content => some (w, .ok ⟨before, content, after⟩)
      | none => some (w, .error "No such file or directory")
  | .failed details => some (w, .error details)
  | _ => none

/-- `restore_bookmarks` up to the choice of its failure point. A failure after the backup leaves
the old file, the new one, or, when the put-back rename fails too, none. -/
def replaceFile (w : World ι C) (i : ι) (content : Plaintext) :
    Choice → Option (World ι C × Except ProfileError String)
  | .backedUp path => some (w.setDevice i (replaced (some content)), .ok path)
  | .failed details => some (w, .error (.archive "" details))
  | .failedBackedUp details =>
      some (w.setDevice i (replaced (w.device i).bookmarks), .error (.archive "" details))
  | .failedReplaced details =>
      some (w.setDevice i (replaced (some content)), .error (.write "" details))
  | .failedLost details => some (w.setDevice i (replaced none), .error (.archive "" details))
  | _ => none
where
  replaced (file : Option Plaintext) : ClientDevice C :=
    let device := w.device i
    { device with bookmarks := file, backups := device.bookmarks :: device.backups }

def createExtensionBundle (w : World ι C) (i : ι) :
    Choice → Option (World ι C × Except String (Bytes × ExtensionBundleStats))
  | .proceed => some (w, .ok (w.device i).extensions)
  | .failed details => some (w, .error details)
  | _ => none

/-- What a later capture gives after a restore is left open. -/
def restoreExtensionBundle (w : World ι C) (i : ι) :
    Choice → Option (World ι C × Except String (String × ExtensionBundleStats))
  | .installed path extensions =>
      some (w.setDevice i { w.device i with extensions }, .ok (path, extensions.2))
  | .failed details => some (w, .error details)
  | .failedInstalled details extensions =>
      some (w.setDevice i { w.device i with extensions }, .error details)
  | _ => none

def saveSyncState (w : World ι C) (i : ι) (key : LocalKey) (mapping : ObjectMapping)
    (base : EncryptedEnvelopeV1 C) : Choice → Option (World ι C × Except ClientError Unit)
  | .proceed =>
      match (w.device i).state.saveSyncState key mapping base with
      | .ok state => some (w.setDevice i { w.device i with state }, .ok ())
      | .error error => some (w, .error error)
  | .failed details => some (w, .error (.state details))
  | _ => none

def exec (i : ι) : (op : Op C) → Choice → World ι C → Option (World ι C × Reply C op)
  | .sample, .sampled sample, w => some (w, sample)
  | .sample, _, _ => none
  | .putObject id request, choice, w => w.commit (w.server.putObject P id request) choice
  | .getObject id, choice, w => w.ask (w.server.getObject P id) choice
  | .deleteObject id request, choice, w => w.commit (w.server.deleteObject P id request) choice
  | .changes after, choice, w => w.ask (w.server.changesAfter P after defaultChangesLimit) choice
  | .readFile, choice, w => w.readFile i choice
  | .replaceFile content, choice, w => w.replaceFile i content choice
  | .createExtensionBundle, choice, w => w.createExtensionBundle i choice
  | .restoreExtensionBundle _, choice, w => w.restoreExtensionBundle i choice
  | .mapping key, choice, w => w.query ((w.device i).state.mappings key) choice
  | .syncBase key, choice, w => w.query ((w.device i).state.syncBases key) choice
  | .saveSyncState key mapping base, choice, w => w.saveSyncState i key mapping base choice
  | .profilePreferences, choice, w => w.query (w.device i).state.profilePreferences choice

/-- What happens between commands: the browser and the user change the files, devices are
registered and revoked. -/
def edit (i : ι) : Choice → World ι C → Option (World ι C)
  | .edited bookmarks extensions, w =>
      some (w.setDevice i { w.device i with bookmarks, extensions })
  | .registered request now, w =>
      match w.server.registerDevice P request now with
      | .ok (_, server) => some (w.setServer server)
      | .error _ => none
  | .revoked id now, w =>
      match w.server.revokeDevice P id now with
      | .ok server => some (w.setServer server)
      | .error _ => none
  | _, _ => none

end World
end HeliumSync
