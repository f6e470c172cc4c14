import HeliumSync.World
import HeliumSync.ServerStep

/-! What an operation can have done, given its reply. -/
namespace HeliumSync

/-- An operation that leaves the world as it is. -/
def Op.Observes {C : Type} : Op C → Prop
  | .putObject .. | .deleteObject .. | .replaceFile _ | .restoreExtensionBundle _
  | .saveSyncState .. => False
  | _ => True

/-- The reply of a request that reads. A fault is never taken for a failed authentication. -/
def Answers {α : Type} (choice : Choice) (answer : Except ApiError α)
    (reply : Except ClientError α) : Prop :=
  (choice = .proceed ∧ reply = answer.mapError apiError) ∨
    ∃ e, reply = .error e ∧ choice ≠ .proceed ∧ e ≠ authenticationFailed

/-- The reply of a query of the local database. -/
def Queried {α : Type} (choice : Choice) (value : α) (reply : Except ClientError α) : Prop :=
  (choice = .proceed ∧ reply = .ok value) ∨
    ∃ details, choice = .failed details ∧ reply = .error (.state details)

theorem ClientError.ne_authenticationFailed {e : ClientError} (lost : e.fromTransport) :
    e ≠ authenticationFailed := by
  rintro rfl
  cases lost

theorem apiError_ne (error : ApiError) : apiError error ≠ authenticationFailed := nofun

/-- `restore_bookmarks` has archived the old file, and left `file` in its place. -/
def ClientDevice.replaced {C : Type} (device : ClientDevice C) (file : Option Plaintext) :
    ClientDevice C :=
  { device with bookmarks := file, backups := device.bookmarks :: device.backups }

namespace World
variable {ι C : Type} {P : Primitives C} {i : ι} {choice : Choice} {w w' : World ι C}

@[simp] theorem setServer_server (w : World ι C) (server : Server C) :
    (w.setServer server).server = server := rfl

@[simp] theorem setServer_device (w : World ι C) (server : Server C) :
    (w.setServer server).device = w.device := rfl

theorem ask_cases {α : Type} {answer : Except ApiError α} {reply : Except ClientError α}
    (ran : w.ask answer choice = some (w', reply)) : w' = w ∧ Answers choice answer reply := by
  have transport {e : ClientError} {c : Choice} (fault : c ≠ .proceed)
      (ran : (if e.fromTransport then some (w, Except.error e) else none) = some (w', reply)) :
      w' = w ∧ Answers c answer reply := by
    split at ran
    · next lost =>
        cases ran
        exact ⟨rfl, .inr ⟨_, rfl, fault, e.ne_authenticationFailed lost⟩⟩
    · cases ran
  cases choice with
  | proceed => cases ran; exact ⟨rfl, .inl ⟨rfl, rfl⟩⟩
  | refused => cases ran; exact ⟨rfl, .inr ⟨_, rfl, nofun, apiError_ne _⟩⟩
  | lostRequest e => exact transport nofun ran
  | lostReply e => exact transport nofun ran
  | _ => cases ran

theorem commit_cases {α : Type} {answer : Except ApiError (α × Server C)}
    {reply : Except ClientError α} (ran : w.commit answer choice = some (w', reply)) :
    (∃ value server, answer = .ok (value, server) ∧ w' = w.setServer server ∧
      (choice = .proceed ∧ reply = .ok value ∨
        ∃ e, choice = .lostReply e ∧ reply = .error e ∧ e ≠ authenticationFailed)) ∨
    (w' = w ∧ ∃ e, reply = .error e ∧ e ≠ authenticationFailed ∧
      (choice = .proceed → ∃ error, answer = .error error ∧ e = apiError error)) := by
  cases choice with
  | proceed =>
      match answer with
      | .ok (value, server) =>
          cases ran
          exact .inl ⟨value, server, rfl, rfl, .inl ⟨rfl, rfl⟩⟩
      | .error error =>
          cases ran
          exact .inr ⟨rfl, _, rfl, apiError_ne _, fun _ => ⟨error, rfl, rfl⟩⟩
  | refused => cases ran; exact .inr ⟨rfl, _, rfl, apiError_ne _, nofun⟩
  | lostRequest e =>
      simp only [commit] at ran
      split at ran
      · next lost => cases ran; exact .inr ⟨rfl, e, rfl, e.ne_authenticationFailed lost, nofun⟩
      · cases ran
  | lostReply e =>
      simp only [commit] at ran
      split at ran
      · next lost =>
          have known := e.ne_authenticationFailed lost
          match answer with
          | .ok (value, server) =>
              cases ran
              exact .inl ⟨value, server, rfl, rfl, .inr ⟨e, rfl, rfl, known⟩⟩
          | .error error => cases ran; exact .inr ⟨rfl, e, rfl, known, nofun⟩
      · cases ran
  | _ => cases ran

theorem query_cases {α : Type} {value : α} {reply : Except ClientError α}
    (ran : w.query value choice = some (w', reply)) : w' = w ∧ Queried choice value reply := by
  cases choice with
  | proceed => cases ran; exact ⟨rfl, .inl ⟨rfl, rfl⟩⟩
  | failed details => cases ran; exact ⟨rfl, .inr ⟨details, rfl, rfl⟩⟩
  | _ => cases ran

theorem readFile_cases {reply : Except String FileRead}
    (ran : w.readFile i choice = some (w', reply)) : w' = w ∧
      ((∃ before content after, choice = .metadata before after ∧
          (w.device i).bookmarks = some content ∧ reply = .ok ⟨before, content, after⟩) ∨
        ∃ e, reply = .error e ∧
          (∀ before after, choice = .metadata before after → (w.device i).bookmarks = none)) := by
  cases choice with
  | metadata before after =>
      simp only [readFile] at ran
      split at ran
      · next content found =>
          cases ran
          exact ⟨rfl, .inl ⟨before, content, after, rfl, found, rfl⟩⟩
      · next absent => cases ran; exact ⟨rfl, .inr ⟨_, rfl, fun _ _ _ => absent⟩⟩
  | failed details => cases ran; exact ⟨rfl, .inr ⟨details, rfl, nofun⟩⟩
  | _ => cases ran

theorem createExtensionBundle_cases {reply : Except String (Bytes × ExtensionBundleStats)}
    (ran : w.createExtensionBundle i choice = some (w', reply)) :
    w' = w ∧ (reply = .ok (w.device i).extensions ∨
      choice ≠ .proceed ∧ ∃ e, reply = .error e) := by
  cases choice with
  | proceed => cases ran; exact ⟨rfl, .inl rfl⟩
  | failed details => cases ran; exact ⟨rfl, .inr ⟨nofun, details, rfl⟩⟩
  | _ => cases ran

variable [DecidableEq ι]

@[simp] theorem setDevice_server (w : World ι C) (i : ι) (device : ClientDevice C) :
    (w.setDevice i device).server = w.server := rfl

@[simp] theorem setDevice_self (w : World ι C) (i : ι) (device : ClientDevice C) :
    (w.setDevice i device).device i = device := Function.update_self ..

theorem setDevice_of_ne (w : World ι C) {i j : ι} (device : ClientDevice C) (other : j ≠ i) :
    (w.setDevice i device).device j = w.device j := Function.update_of_ne other ..

theorem replaceFile_cases {content : Plaintext} {reply : Except ProfileError String}
    (ran : w.replaceFile i content choice = some (w', reply)) :
    (∃ path, choice = .backedUp path ∧ reply = .ok path ∧
      w' = w.setDevice i ((w.device i).replaced (some content))) ∨
    ∃ e, reply = .error e ∧ (∀ path, choice ≠ .backedUp path) ∧
      (w' = w ∨ ∃ file, w' = w.setDevice i ((w.device i).replaced file) ∧
        (file = (w.device i).bookmarks ∨ file = some content ∨
          file = none ∧ ∃ details, choice = .failedLost details)) := by
  cases choice with
  | backedUp path => cases ran; exact .inl ⟨path, rfl, rfl, rfl⟩
  | failed details => cases ran; exact .inr ⟨_, rfl, nofun, .inl rfl⟩
  | failedBackedUp details =>
      cases ran; exact .inr ⟨_, rfl, nofun, .inr ⟨_, rfl, .inl rfl⟩⟩
  | failedReplaced details =>
      cases ran; exact .inr ⟨_, rfl, nofun, .inr ⟨_, rfl, .inr (.inl rfl)⟩⟩
  | failedLost details =>
      cases ran; exact .inr ⟨_, rfl, nofun, .inr ⟨_, rfl, .inr (.inr ⟨rfl, details, rfl⟩)⟩⟩
  | _ => cases ran

theorem saveSyncState_cases {key : LocalKey} {mapping : ObjectMapping}
    {base : EncryptedEnvelopeV1 C} {reply : Except ClientError Unit}
    (ran : w.saveSyncState i key mapping base choice = some (w', reply)) :
    (choice = .proceed ∧ reply = .ok () ∧ mapping.revision.val < 9223372036854775808 ∧
      w' = w.setDevice i { w.device i with
        state := { (w.device i).state with
          mappings := Function.update (w.device i).state.mappings key (some mapping)
          syncBases := Function.update (w.device i).state.syncBases key (some base) } }) ∨
    w' = w ∧ ∃ e, reply = .error e ∧
      (choice = .proceed → ¬ mapping.revision.val < 9223372036854775808) := by
  cases choice with
  | proceed =>
      simp only [saveSyncState, LocalState.saveSyncState] at ran
      split_ifs at ran with fits
      · cases ran; exact .inl ⟨rfl, rfl, fits, rfl⟩
      · cases ran; exact .inr ⟨rfl, _, rfl, fun _ => fits⟩
  | failed details => cases ran; exact .inr ⟨rfl, _, rfl, nofun⟩
  | _ => cases ran

theorem restoreExtensionBundle_cases {reply : Except String (String × ExtensionBundleStats)}
    (ran : w.restoreExtensionBundle i choice = some (w', reply)) :
    w' = w ∨ ∃ extensions, w' = w.setDevice i { w.device i with extensions } := by
  cases choice with
  | installed path extensions => cases ran; exact .inr ⟨_, rfl⟩
  | failed details => cases ran; exact .inl rfl
  | failedInstalled details extensions => cases ran; exact .inr ⟨_, rfl⟩
  | _ => cases ran

theorem exec_sample {reply : Sample} (ran : exec P i .sample choice w = some (w', reply)) :
    w' = w ∧ choice = .sampled reply := by
  cases choice with
  | sampled sample => cases ran; exact ⟨rfl, rfl⟩
  | _ => cases ran

theorem exec_observes {op : Op C} {reply : Reply C op} (observes : op.Observes)
    (ran : exec P i op choice w = some (w', reply)) : w' = w := by
  cases op with
  | sample => exact (exec_sample ran).1
  | getObject id => exact (ask_cases ran).1
  | changes after => exact (ask_cases ran).1
  | readFile => exact (readFile_cases ran).1
  | createExtensionBundle => exact (createExtensionBundle_cases ran).1
  | mapping key => exact (query_cases ran).1
  | syncBase key => exact (query_cases ran).1
  | profilePreferences => exact (query_cases ran).1
  | putObject | deleteObject | replaceFile | restoreExtensionBundle | saveSyncState =>
      exact observes.elim

/-- Everything an operation can change: the server, or the device it runs on. -/
theorem exec_cases {op : Op C} {reply : Reply C op}
    (ran : exec P i op choice w = some (w', reply)) :
    (∃ server, w' = w.setServer server) ∨ ∃ device, w' = w.setDevice i device := by
  have still (same : w' = w) : (∃ server, w' = w.setServer server) ∨
      ∃ device, w' = w.setDevice i device := .inl ⟨w.server, same⟩
  cases op with
  | putObject id request =>
      rcases commit_cases ran with ⟨_, server, _, rfl, _⟩ | ⟨same, _⟩
      · exact .inl ⟨server, rfl⟩
      · exact still same
  | deleteObject id request =>
      rcases commit_cases ran with ⟨_, server, _, rfl, _⟩ | ⟨same, _⟩
      · exact .inl ⟨server, rfl⟩
      · exact still same
  | replaceFile content =>
      rcases replaceFile_cases ran with ⟨_, _, _, rfl⟩ | ⟨_, _, _, same | ⟨_, rfl, _⟩⟩
      · exact .inr ⟨_, rfl⟩
      · exact still same
      · exact .inr ⟨_, rfl⟩
  | restoreExtensionBundle archive =>
      rcases restoreExtensionBundle_cases ran with same | ⟨_, rfl⟩
      · exact still same
      · exact .inr ⟨_, rfl⟩
  | saveSyncState key mapping base =>
      rcases saveSyncState_cases ran with ⟨_, _, _, rfl⟩ | ⟨same, _⟩
      · exact .inr ⟨_, rfl⟩
      · exact still same
  | sample | getObject | changes | readFile | createExtensionBundle | mapping | syncBase
  | profilePreferences => exact still (exec_observes (by exact trivial) ran)

theorem exec_frame {op : Op C} {reply : Reply C op}
    (ran : exec P i op choice w = some (w', reply)) {j : ι} (other : j ≠ i) :
    w'.device j = w.device j := by
  rcases exec_cases ran with ⟨_, rfl⟩ | ⟨device, rfl⟩
  · rfl
  · exact setDevice_of_ne w device other

theorem setDevice_state {device : ClientDevice C}
    (same : device.state = (w.device i).state) (j : ι) :
    ((w.setDevice i device).device j).state = (w.device j).state := by
  by_cases here : j = i
  · subst here
    rw [setDevice_self, same]
  · rw [setDevice_of_ne w device here]

/-- Only one operation writes the local state. -/
theorem exec_state {op : Op C} {reply : Reply C op}
    (other : ∀ key mapping base, op ≠ .saveSyncState key mapping base)
    (ran : exec P i op choice w = some (w', reply)) (j : ι) :
    (w'.device j).state = (w.device j).state := by
  cases op with
  | putObject id request =>
      rcases commit_cases ran with ⟨_, _, _, rfl, _⟩ | ⟨rfl, _⟩ <;> rfl
  | deleteObject id request =>
      rcases commit_cases ran with ⟨_, _, _, rfl, _⟩ | ⟨rfl, _⟩ <;> rfl
  | replaceFile content =>
      rcases replaceFile_cases ran with ⟨_, _, _, rfl⟩ | ⟨_, _, _, rfl | ⟨_, rfl, _⟩⟩
      · exact setDevice_state (by rfl) j
      · rfl
      · exact setDevice_state (by rfl) j
  | restoreExtensionBundle archive =>
      rcases restoreExtensionBundle_cases ran with rfl | ⟨_, rfl⟩
      · rfl
      · exact setDevice_state (by rfl) j
  | saveSyncState key mapping base => exact absurd rfl (other key mapping base)
  | sample | getObject | changes | readFile | createExtensionBundle | mapping | syncBase
  | profilePreferences => rw [exec_observes (by exact trivial) ran]

/-- What an operation can do to the tables: nothing, or write the row of its put or a tombstone. -/
theorem exec_server {op : Op C} {reply : Reply C op}
    (ran : exec P i op choice w = some (w', reply)) :
    w'.server = w.server ∨ ∃ id row, w.server.Writable P id row ∧
      w'.server = w.server.write id row ∧
      (row.deleted = true ∨ ∃ request, op = .putObject id request ∧
        row.nameSpace = request.nameSpace) := by
  cases op with
  | putObject id request =>
      rcases commit_cases ran with ⟨_, server, accepted, rfl, _⟩ | ⟨rfl, _⟩
      · obtain ⟨row, writable, same⟩ := Server.putObject_writes accepted
        obtain ⟨_, _, _, _, _, _, _, _, written⟩ := Server.putObject_ok accepted
        cases Server.write_inj (same.symm.trans written)
        exact .inr ⟨id, _, writable, same, .inr ⟨request, rfl, rfl⟩⟩
      · exact .inl rfl
  | deleteObject id request =>
      rcases commit_cases ran with ⟨_, server, accepted, rfl, _⟩ | ⟨rfl, _⟩
      · obtain ⟨row, writable, same⟩ := Server.deleteObject_writes accepted
        obtain ⟨_, _, _, _, _, _, _, _, _, written⟩ := Server.deleteObject_ok accepted
        cases Server.write_inj (same.symm.trans written)
        exact .inr ⟨id, _, writable, same, .inl rfl⟩
      · exact .inl rfl
  | replaceFile content =>
      rcases replaceFile_cases ran with ⟨_, _, _, rfl⟩ | ⟨_, _, _, rfl | ⟨_, rfl, _⟩⟩ <;>
        exact .inl rfl
  | restoreExtensionBundle archive =>
      rcases restoreExtensionBundle_cases ran with rfl | ⟨_, rfl⟩ <;> exact .inl rfl
  | saveSyncState key mapping base =>
      rcases saveSyncState_cases ran with ⟨_, _, _, rfl⟩ | ⟨rfl, _⟩ <;> exact .inl rfl
  | sample | getObject | changes | readFile | createExtensionBundle | mapping | syncBase
  | profilePreferences => exact .inl (congrArg World.server (exec_observes (by exact trivial) ran))

theorem exec_advances {op : Op C} {reply : Reply C op}
    (ran : exec P i op choice w = some (w', reply)) : w.server.Advances w'.server := by
  rcases exec_server ran with same | ⟨id, row, writable, written, _⟩
  · rw [same]
    exact .refl _
  · rw [written]
    exact Server.advances_write fun _ found => writable.later found

/-- Between commands the tables of objects and changes stand still. -/
theorem edit_tables (edited : edit P i choice w = some w') :
    w'.server.objects = w.server.objects ∧ w'.server.changes = w.server.changes ∧
      w'.server.sequence = w.server.sequence ∧ ∀ j, j ≠ i → w'.device j = w.device j := by
  cases choice with
  | edited bookmarks extensions =>
      cases edited
      exact ⟨rfl, rfl, rfl, fun j other => setDevice_of_ne w _ other⟩
  | registered request now =>
      simp only [edit] at edited
      split at edited
      · next accepted =>
          cases edited
          obtain ⟨objects, changes, sequence⟩ := Server.registerDevice_tables accepted
          exact ⟨objects, changes, sequence, fun _ _ => rfl⟩
      · cases edited
  | revoked id now =>
      simp only [edit] at edited
      split at edited
      · next accepted =>
          cases edited
          obtain ⟨objects, changes, sequence⟩ := Server.revokeDevice_tables accepted
          exact ⟨objects, changes, sequence, fun _ _ => rfl⟩
      · cases edited
  | _ => cases edited

theorem edit_state (edited : edit P i choice w = some w') (j : ι) :
    (w'.device j).state = (w.device j).state := by
  cases choice with
  | edited bookmarks extensions =>
      cases edited
      by_cases same : j = i
      · subst same; rw [setDevice_self]
      · rw [setDevice_of_ne w _ same]
  | registered request now =>
      simp only [edit] at edited
      split at edited <;> cases edited
      rfl
  | revoked id now =>
      simp only [edit] at edited
      split at edited <;> cases edited
      rfl
  | _ => cases edited

end World

end HeliumSync
