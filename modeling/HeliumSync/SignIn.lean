import HeliumSync.Interaction
import HeliumSync.RecoveryCode
import HeliumSync.Reference
import Mathlib.Logic.Function.Basic

/-! Signing in: the recovery code that the keyring holds, the device id that the database holds, and
the session that is made of both. -/
namespace HeliumSync
open Interaction (Prog Action Entry Contract)

/-- `UiSession`, by what its client encrypts with and where. -/
structure UiSession where
  masterKey : MasterKey
  deviceId : DeviceId
  recoveryCode : String
  serverId : String

structure SignIn where
  keyring : String → Option String
  deviceId : Option DeviceId
  session : Option UiSession

/-- A step of `connect` that nothing here depends on but that may fail. -/
inductive Contact where
  | transport
  | localState
  | negotiate
  | status
  | registerDevice (id : DeviceId) (name : String)
  | saveConnection (serverId transport : String)
  | forcedDefaultSync (serverId : String)

inductive SignInOp where
  | get (key : String)
  | set (key value : String)
  | delete (key : String)
  | generate
  | storedDevice
  | newDevice
  | insertDevice (id : DeviceId)
  | contact (step : Contact)
  | session
  | setSession (session : Option UiSession)

def SignInOp.Reply : SignInOp → Type
  | .get _ => Except String (Option String)
  | .set .. | .delete _ | .insertDevice _ | .contact _ => Except String Unit
  | .generate => MasterKey
  | .storedDevice => Except String (Option DeviceId)
  | .newDevice => DeviceId
  | .session => Option UiSession
  | .setSession _ => Unit

/-- How an operation turns out. -/
inductive SignInChoice where
  | proceed
  | failed (details : String)
  | drawnKey (key : MasterKey)
  | drawnDevice (id : DeviceId)

/-- A program of the sign-in. -/
abbrev SignInAction (α : Type) := Action SignInOp SignInOp.Reply String α

namespace SignIn

/-- An operation that does this or fails and does nothing. -/
def tried {α : Type} (s s' : SignIn) (a : α) : SignInChoice → Option (SignIn × Except String α)
  | .proceed => some (s', .ok a)
  | .failed details => some (s, .error details)
  | _ => none

def exec : (op : SignInOp) → SignInChoice → SignIn → Option (SignIn × op.Reply)
  | .get key, choice, s => s.tried s (s.keyring key) choice
  | .set key value, choice, s =>
      s.tried { s with keyring := Function.update s.keyring key (some value) } () choice
  | .delete key, choice, s =>
      s.tried { s with keyring := Function.update s.keyring key none } () choice
  | .generate, .drawnKey key, s => some (s, key)
  | .generate, _, _ => none
  | .storedDevice, choice, s => s.tried s s.deviceId choice
  | .newDevice, .drawnDevice id, s => some (s, id)
  | .newDevice, _, _ => none
  | .insertDevice id, choice, s => s.tried { s with deviceId := some id } () choice
  | .contact _, choice, s => s.tried s () choice
  | .session, .proceed, s => some (s, s.session)
  | .session, _, _ => none
  | .setSession session, .proceed, s => some ({ s with session }, ())
  | .setSession _, _, _ => none

def get (key : String) : SignInAction (Option String) := Action.ask (.perform (SignInOp.get key))

def set (key value : String) : SignInAction Unit :=
  Action.ask (.perform (SignInOp.set key value))

def delete (key : String) : SignInAction Unit := Action.ask (.perform (SignInOp.delete key))

def generate : SignInAction MasterKey := Action.observe (.perform SignInOp.generate)

def storedDevice : SignInAction (Option DeviceId) :=
  Action.ask (.perform SignInOp.storedDevice)

def newDevice : SignInAction DeviceId := Action.observe (.perform SignInOp.newDevice)

def insertDevice (id : DeviceId) : SignInAction Unit :=
  Action.ask (.perform (SignInOp.insertDevice id))

def contact (step : Contact) : SignInAction Unit :=
  Action.ask (.perform (SignInOp.contact step))

def currentSession : SignInAction (Option UiSession) :=
  Action.observe (.perform SignInOp.session)

def setSession (session : Option UiSession) : SignInAction Unit :=
  Action.observe (.perform (SignInOp.setSession session))

def masterKeyEntry : String := "sync-master-key"

/-- `CONNECTION_SETTINGS_KEY` -/
def connectionSettingsKey : String := "connection-settings-v1"

/-- What is entered to connect; its settings are kept as JSON. -/
structure Connection where
  transport : String
  endpoint : String
  apiToken : String
  deviceName : String
  serialized : Except String String

section
variable (sha256 : Bytes → Digest)

/-- `load_or_create_master_key` -/
def loadOrCreateMasterKey : SignInAction (MasterKey × String) := do
  match ← get masterKeyEntry with
  | some code => do
      let key ← Action.ofExcept
        ((MasterKey.fromRecoveryCode sha256 code).mapError ClientError.message)
      return (key, code)
  | none => do
      let key ← generate
      let code := key.recoveryCode sha256
      set masterKeyEntry code
      return (key, code)

/-- `device_id` -/
def ownDevice : SignInAction DeviceId := do
  match ← storedDevice with
  | some id => return id
  | none => do
      let id ← newDevice
      insertDevice id
      return id

/-- `persist_connection_settings` -/
def persistConnectionSettings (connection : Connection) : SignInAction Unit := do
  let serialized ← Action.ofExcept (connection.serialized.mapError fun e =>
    s!"Could not serialize connection settings: {e}")
  set connectionSettingsKey serialized
  removeLegacy "api-token"
  removeLegacy "ssh-key-passphrase"
where
  removeLegacy (key : String) : SignInAction Unit :=
    (delete key).mapErr fun e =>
      s!"Connection settings were saved, but legacy keyring cleanup failed: {e}"

/-- `connect`, as `connect_https` and `connect_ssh` come to it. -/
def connect (connection : Connection) : SignInAction Unit := do
  setSession none
  contact .transport
  if (textBytes connection.apiToken).length < 32 then
    throw "API token must contain at least 32 characters"
  else do
    let (masterKey, recoveryCode) ← loadOrCreateMasterKey sha256
    contact .localState
    let deviceId ← ownDevice
    contact .negotiate
    contact .status
    contact (.registerDevice deviceId (trim connection.deviceName))
    persistConnectionSettings connection
    contact (.saveConnection connection.endpoint (connection.transport.map Char.toLower))
    contact (.forcedDefaultSync connection.endpoint)
    setSession (some { masterKey, deviceId, recoveryCode, serverId := connection.endpoint })

/-- `import_recovery_code` -/
def importRecoveryCode (recoveryCode : String) : SignInAction Unit := do
  let _ ← Action.ofExcept
    ((MasterKey.fromRecoveryCode sha256 recoveryCode).mapError ClientError.message)
  set masterKeyEntry recoveryCode
  setSession none

/-- `reveal_recovery_code` -/
def revealRecoveryCode : SignInAction String := do
  match ← currentSession with
  | some session => return session.recoveryCode
  | none => throw "Connect to a server before revealing the recovery code"

end
end SignIn

inductive SignInCommand where
  | connect (connection : SignIn.Connection)
  | importRecoveryCode (recoveryCode : String)
  | revealRecoveryCode

/-- What a command does; one of them answers a text. -/
def SignInCommand.program (sha256 : Bytes → Digest) : SignInCommand → SignInAction (Option String)
  | .connect connection => do
      SignIn.connect sha256 connection
      return none
  | .importRecoveryCode recoveryCode => do
      SignIn.importRecoveryCode sha256 recoveryCode
      return none
  | .revealRecoveryCode => return some (← SignIn.revealRecoveryCode)

namespace SignIn
variable {sha256 : Bytes → Digest} {s s₁ s' : SignIn}

abbrev SignInEntry := Entry SignInOp SignInOp.Reply

/-- Anything may fail. -/
abbrev alone : Contract SignInOp SignInOp.Reply SignIn SignInChoice := .alone exec fun _ _ _ => True

variable {α : Type} {journal : List SignInEntry} {ok : α → List SignInEntry → SignIn → Prop}
  {error : String → List SignInEntry → SignIn → Prop}

theorem tried_cases {a : α} {choice : SignInChoice} {reply : Except String α}
    (ran : s.tried s₁ a choice = some (s', reply)) :
    (s' = s₁ ∧ reply = .ok a) ∨ (s' = s ∧ ∃ e, reply = .error e) := by
  cases choice with
  | proceed =>
      cases ran
      exact .inl ⟨rfl, rfl⟩
  | failed details =>
      cases ran
      exact .inr ⟨rfl, details, rfl⟩
  | drawnKey | drawnDevice => cases ran

/-- The rule of an operation that may fail. -/
theorem attempts_try {op : SignInOp} {take : op.Reply → Except String α} {a : α}
    (tries : ∀ choice s' reply, exec op choice s = some (s', reply) →
      s.tried s₁ a choice = some (s', take reply))
    (done : ∀ journal', ok a journal' s₁) (failed : ∀ e journal', error e journal' s) :
    (Action.ask (.call op fun reply => .done (take reply))).Attempts alone ok error journal s := by
  rintro _ rfl - choice s' reply - ran
  refine ⟨trivial, trivial, ?_⟩
  beta_reduce
  rcases tried_cases (tries choice s' reply ran) with ⟨rfl, answer⟩ | ⟨rfl, e, answer⟩
  · rw [answer]
    exact done _
  · rw [answer]
    exact failed e _

theorem attempts_get {key : String} {ok : Option String → List SignInEntry → SignIn → Prop}
    (done : ∀ journal', ok (s.keyring key) journal' s) (failed : ∀ e journal', error e journal' s) :
    (get key).Attempts alone ok error journal s :=
  attempts_try (fun _ _ _ ran => ran) done failed

theorem attempts_set {key value : String} {ok : Unit → List SignInEntry → SignIn → Prop}
    (done : ∀ journal',
      ok () journal' { s with keyring := Function.update s.keyring key (some value) })
    (failed : ∀ e journal', error e journal' s) :
    (set key value).Attempts alone ok error journal s :=
  attempts_try (fun _ _ _ ran => ran) done failed

theorem attempts_delete {key : String} {ok : Unit → List SignInEntry → SignIn → Prop}
    (done : ∀ journal', ok () journal' { s with keyring := Function.update s.keyring key none })
    (failed : ∀ e journal', error e journal' s) :
    (delete key).Attempts alone ok error journal s :=
  attempts_try (fun _ _ _ ran => ran) done failed

theorem attempts_storedDevice {ok : Option DeviceId → List SignInEntry → SignIn → Prop}
    (done : ∀ journal', ok s.deviceId journal' s) (failed : ∀ e journal', error e journal' s) :
    storedDevice.Attempts alone ok error journal s :=
  attempts_try (fun _ _ _ ran => ran) done failed

theorem attempts_insertDevice {id : DeviceId} {ok : Unit → List SignInEntry → SignIn → Prop}
    (done : ∀ journal', ok () journal' { s with deviceId := some id })
    (failed : ∀ e journal', error e journal' s) :
    (insertDevice id).Attempts alone ok error journal s :=
  attempts_try (fun _ _ _ ran => ran) done failed

theorem attempts_contact {step : Contact} {ok : Unit → List SignInEntry → SignIn → Prop}
    (done : ∀ journal', ok () journal' s) (failed : ∀ e journal', error e journal' s) :
    (contact step).Attempts alone ok error journal s :=
  attempts_try (fun _ _ _ ran => ran) done failed

theorem attempts_generate {ok : MasterKey → List SignInEntry → SignIn → Prop}
    (done : ∀ key journal', ok key journal' s) : generate.Attempts alone ok error journal s := by
  rintro _ rfl - choice s' key - ran
  cases choice with
  | drawnKey =>
      cases ran
      exact ⟨trivial, trivial, done key _⟩
  | proceed | failed | drawnDevice => cases ran

theorem attempts_newDevice {ok : DeviceId → List SignInEntry → SignIn → Prop}
    (done : ∀ id journal', ok id journal' s) : newDevice.Attempts alone ok error journal s := by
  rintro _ rfl - choice s' id - ran
  cases choice with
  | drawnDevice =>
      cases ran
      exact ⟨trivial, trivial, done id _⟩
  | proceed | failed | drawnKey => cases ran

theorem attempts_currentSession {ok : Option UiSession → List SignInEntry → SignIn → Prop}
    (done : ∀ journal', ok s.session journal' s) :
    currentSession.Attempts alone ok error journal s := by
  rintro _ rfl - choice s' session - ran
  cases choice with
  | proceed =>
      cases ran
      exact ⟨trivial, trivial, done _⟩
  | failed | drawnKey | drawnDevice => cases ran

theorem attempts_setSession {session : Option UiSession}
    {ok : Unit → List SignInEntry → SignIn → Prop}
    (done : ∀ journal', ok () journal' { s with session }) :
    (setSession session).Attempts alone ok error journal s := by
  rintro _ rfl - choice s' reply - ran
  cases choice with
  | proceed =>
      cases ran
      exact ⟨trivial, trivial, done _⟩
  | failed | drawnKey | drawnDevice => cases ran

/-- A code and a device id that are stored stay. -/
structure Keeps (s s' : SignIn) : Prop where
  code : ∀ code, s.keyring masterKeyEntry = some code → s'.keyring masterKeyEntry = some code
  device : ∀ id, s.deviceId = some id → s'.deviceId = some id

theorem Keeps.refl (s : SignIn) : Keeps s s := ⟨fun _ stored => stored, fun _ stored => stored⟩

theorem Keeps.trans (first : Keeps s s₁) (next : Keeps s₁ s') : Keeps s s' :=
  ⟨fun code stored => next.code code (first.code code stored),
    fun id stored => next.device id (first.device id stored)⟩

/-- Nothing that a session is made of is touched. -/
structure Aside (s s' : SignIn) : Prop where
  code : s'.keyring masterKeyEntry = s.keyring masterKeyEntry
  device : s'.deviceId = s.deviceId
  session : s'.session = s.session

theorem Aside.trans (first : Aside s s₁) (next : Aside s₁ s') : Aside s s' :=
  ⟨next.code.trans first.code, next.device.trans first.device, next.session.trans first.session⟩

theorem Aside.keeps (aside : Aside s s') : Keeps s s' :=
  ⟨fun _ stored => aside.code.trans stored, fun _ stored => aside.device.trans stored⟩

theorem aside_update {key : String} (other : key ≠ masterKeyEntry) (value : Option String) :
    Aside s { s with keyring := Function.update s.keyring key value } :=
  ⟨Function.update_of_ne other.symm _ _, rfl, rfl⟩

variable (sha256) in
/-- A session is made of what is stored. -/
def Coherent (s : SignIn) : Prop :=
  ∀ session, s.session = some session →
    s.keyring masterKeyEntry = some session.recoveryCode ∧
    MasterKey.fromRecoveryCode sha256 session.recoveryCode = .ok session.masterKey ∧
    s.deviceId = some session.deviceId

theorem coherent_of_unsigned (unsigned : s.session = none) : Coherent sha256 s := by
  intro session signed
  rw [unsigned] at signed
  cases signed

/-- The code of a key is accepted with that key. -/
theorem fromRecoveryCode_recoveryCode (key : MasterKey) :
    MasterKey.fromRecoveryCode sha256 (key.recoveryCode sha256) = .ok key := by
  have stripped : stripPrefix recoveryPrefix (key.recoveryCode sha256) =
      some (Base64.encode (key.bytes ++ (sha256 key.bytes).val.take 4)) :=
    stripPrefix_eq_some.mpr rfl
  have found := Base64.decode_eq_some.mpr (rfl (a := Base64.encode (key.bytes ++
    (sha256 key.bytes).val.take 4)))
  have size : (key.bytes ++ (sha256 key.bytes).val.take 4).length = masterKeyLength + 4 := by
    rw [List.length_append, List.length_take, key.size, (sha256 key.bytes).property]
    rfl
  obtain ⟨front, back⟩ := (MasterKey.split_eq key size).mpr rfl
  rw [front] at back
  simp only [MasterKey.fromRecoveryCode, stripped, found, dif_pos size, front, if_pos back]

theorem loadOrCreateMasterKey_attempts
    {ok : MasterKey × String → List SignInEntry → SignIn → Prop}
    (done : ∀ key code journal' s', Keeps s s' → s'.session = s.session →
      s'.keyring masterKeyEntry = some code →
      MasterKey.fromRecoveryCode sha256 code = .ok key → ok (key, code) journal' s')
    (failed : ∀ e journal', error e journal' s) :
    (loadOrCreateMasterKey sha256).Attempts alone ok error journal s := by
  apply Action.attempts_bind.mpr
  refine attempts_get (fun journal₁ => ?_) failed
  cases stored : s.keyring masterKeyEntry with
  | some code =>
      apply Action.attempts_bind.mpr
      refine Action.attempts_ofExcept.mpr ⟨fun key read => ?_, fun e _ => failed e _⟩
      cases accepted : MasterKey.fromRecoveryCode sha256 code with
      | ok key =>
          rw [accepted] at read
          cases read
          exact done key code _ s (.refl s) rfl stored accepted
      | error e =>
          rw [accepted] at read
          cases read
  | none =>
      apply Action.attempts_bind.mpr
      refine attempts_generate fun key journal₂ => ?_
      apply Action.attempts_bind.mpr
      refine attempts_set (fun journal₃ => ?_) (failed · ·)
      refine done key _ _ _ ⟨fun code found => ?_, fun _ device => device⟩ rfl
        (Function.update_self masterKeyEntry _ s.keyring) (fromRecoveryCode_recoveryCode key)
      rw [stored] at found
      cases found

theorem ownDevice_attempts {ok : DeviceId → List SignInEntry → SignIn → Prop}
    (done : ∀ id journal' s', Keeps s s' → s'.session = s.session → s'.keyring = s.keyring →
      s'.deviceId = some id → ok id journal' s')
    (failed : ∀ e journal', error e journal' s) :
    ownDevice.Attempts alone ok error journal s := by
  apply Action.attempts_bind.mpr
  refine attempts_storedDevice (fun journal₁ => ?_) failed
  cases stored : s.deviceId with
  | some id => exact done id _ s (.refl s) rfl rfl stored
  | none =>
      apply Action.attempts_bind.mpr
      refine attempts_newDevice fun id journal₂ => ?_
      apply Action.attempts_bind.mpr
      refine attempts_insertDevice (fun journal₃ => ?_) (failed · ·)
      refine done id _ _ ⟨fun _ code => code, fun other found => ?_⟩ rfl rfl rfl
      rw [stored] at found
      cases found

theorem persistConnectionSettings_attempts {connection : Connection}
    {ok : Unit → List SignInEntry → SignIn → Prop}
    (done : ∀ journal' s', Aside s s' → ok () journal' s')
    (failed : ∀ e journal' s', Aside s s' → error e journal' s') :
    (persistConnectionSettings connection).Attempts alone ok error journal s := by
  have settings : connectionSettingsKey ≠ masterKeyEntry := by
    simp [connectionSettingsKey, masterKeyEntry]
  have token : "api-token" ≠ masterKeyEntry := by simp [masterKeyEntry]
  have passphrase : "ssh-key-passphrase" ≠ masterKeyEntry := by simp [masterKeyEntry]
  have legacy : ∀ {key : String} {s₁ : SignIn} {journal₁ : List SignInEntry}
      {ok : Unit → List SignInEntry → SignIn → Prop}, key ≠ masterKeyEntry → Aside s s₁ →
      (∀ journal' s', Aside s s' → ok () journal' s') →
      (persistConnectionSettings.removeLegacy key).Attempts alone ok error journal₁ s₁ := by
    intro key s₁ journal₁ ok other aside done
    apply Action.attempts_mapErr.mpr
    exact attempts_delete (fun journal' => done journal' _ (aside.trans (aside_update other none)))
      fun e journal' => failed _ journal' s₁ aside
  apply Action.attempts_bind.mpr
  refine Action.attempts_ofExcept.mpr
    ⟨fun serialized _ => ?_, fun e _ => failed e _ s ⟨rfl, rfl, rfl⟩⟩
  apply Action.attempts_bind.mpr
  refine attempts_set (fun journal₁ => ?_) fun e journal' => failed e journal' s ⟨rfl, rfl, rfl⟩
  apply Action.attempts_bind.mpr
  refine legacy token (aside_update settings (some serialized)) fun journal₂ s₂ aside => ?_
  exact legacy passphrase aside done

/-- Connecting keeps what is stored and ends in a session made of it, or in none. -/
theorem connect_attempts (connection : Connection) :
    (connect sha256 connection).Attempts alone (fun _ _ s' => Keeps s s' ∧ Coherent sha256 s')
      (fun _ _ s' => Keeps s s' ∧ Coherent sha256 s') journal s := by
  have left : ∀ {s' : SignIn}, Keeps s s' → s'.session = none →
      Keeps s s' ∧ Coherent sha256 s' := by
    intro s' keeps unsigned
    exact ⟨keeps, coherent_of_unsigned unsigned⟩
  apply Action.attempts_bind.mpr
  refine attempts_setSession fun journal₁ => ?_
  have out : Keeps s { s with session := none } := ⟨fun _ code => code, fun _ id => id⟩
  apply Action.attempts_bind.mpr
  refine attempts_contact (fun journal₂ => ?_) fun _ _ => left out rfl
  split
  · exact left out rfl
  apply Action.attempts_bind.mpr
  refine loadOrCreateMasterKey_attempts
    (fun key code journal₃ s₁ kept unsigned stored accepted => ?_) fun _ _ => left out rfl
  have kept₁ := out.trans kept
  apply Action.attempts_bind.mpr
  refine attempts_contact (fun journal₄ => ?_) fun _ _ => left kept₁ unsigned
  apply Action.attempts_bind.mpr
  refine ownDevice_attempts (fun id journal₅ s₂ kept' same ring own => ?_)
    fun _ _ => left kept₁ unsigned
  have kept₂ := kept₁.trans kept'
  have unsigned₂ := same.trans unsigned
  apply Action.attempts_bind.mpr
  refine attempts_contact (fun journal₆ => ?_) fun _ _ => left kept₂ unsigned₂
  apply Action.attempts_bind.mpr
  refine attempts_contact (fun journal₇ => ?_) fun _ _ => left kept₂ unsigned₂
  apply Action.attempts_bind.mpr
  refine attempts_contact (fun journal₈ => ?_) fun _ _ => left kept₂ unsigned₂
  apply Action.attempts_bind.mpr
  refine persistConnectionSettings_attempts (fun journal₉ s₃ aside => ?_)
    fun _ _ s₃ aside => left (kept₂.trans aside.keeps) (aside.session.trans unsigned₂)
  have kept₃ := kept₂.trans aside.keeps
  have unsigned₃ := aside.session.trans unsigned₂
  apply Action.attempts_bind.mpr
  refine attempts_contact (fun journal₁₀ => ?_) fun _ _ => left kept₃ unsigned₃
  apply Action.attempts_bind.mpr
  refine attempts_contact (fun journal₁₁ => ?_) fun _ _ => left kept₃ unsigned₃
  refine attempts_setSession fun journal₁₂ => ⟨⟨kept₃.code, kept₃.device⟩, ?_⟩
  rintro _ ⟨⟩
  exact ⟨aside.code.trans ((congrFun ring _).trans stored), accepted, aside.device.trans own⟩

theorem importRecoveryCode_attempts (recoveryCode : String) :
    (importRecoveryCode sha256 recoveryCode).Attempts alone
      (fun _ _ s' => s'.keyring masterKeyEntry = some recoveryCode ∧ s'.deviceId = s.deviceId ∧
        s'.session = none)
      (fun _ _ s' => s' = s) journal s := by
  apply Action.attempts_bind.mpr
  refine Action.attempts_ofExcept.mpr ⟨fun key read => ?_, fun _ _ => rfl⟩
  apply Action.attempts_bind.mpr
  refine attempts_set (fun journal₁ => ?_) fun _ _ => rfl
  exact attempts_setSession fun journal₂ =>
    ⟨Function.update_self masterKeyEntry _ s.keyring, rfl, rfl⟩

theorem revealRecoveryCode_attempts :
    revealRecoveryCode.Attempts alone
      (fun code _ s' => s' = s ∧ ∃ session, s.session = some session ∧ code = session.recoveryCode)
      (fun _ _ s' => s' = s) journal s := by
  apply Action.attempts_bind.mpr
  refine attempts_currentSession fun journal₁ => ?_
  cases signed : s.session with
  | some session => exact ⟨rfl, session, rfl, rfl⟩
  | none => exact rfl

/-- A command that ran to its end, whatever its result. -/
abbrev Ran (sha256 : Bytes → Digest) (command : SignInCommand) (s : SignIn)
    (journal : List SignInEntry) (result : Except String (Option String)) (s' : SignIn) : Prop :=
  (command.program sha256).run.Logs exec (fun _ _ _ => True) s journal result s'

/-- Commands one after another. -/
inductive Run (sha256 : Bytes → Digest) (may : SignInCommand → Prop) : SignIn → SignIn → Prop
  | start {s : SignIn} : Run sha256 may s s
  | step {s s₁ s₂ : SignIn} {command : SignInCommand} {journal : List SignInEntry}
      {result : Except String (Option String)} : Run sha256 may s s₁ → may command →
      Ran sha256 command s₁ journal result s₂ → Run sha256 may s s₂

/-- No recovery code is imported. -/
def Unimported : SignInCommand → Prop
  | .importRecoveryCode _ => False
  | .connect _ | .revealRecoveryCode => True

/-- What a command that ran did. -/
inductive Did (sha256 : Bytes → Digest) (s s' : SignIn) :
    SignInCommand → Except String (Option String) → Prop
  | kept {command : SignInCommand} {result : Except String (Option String)} :
      (∀ recoveryCode, command = .importRecoveryCode recoveryCode → ∃ e, result = .error e) →
      Keeps s s' → (Coherent sha256 s → Coherent sha256 s') → Did sha256 s s' command result
  | imported {recoveryCode : String} : s'.keyring masterKeyEntry = some recoveryCode →
      s'.deviceId = s.deviceId → s'.session = none →
      Did sha256 s s' (.importRecoveryCode recoveryCode) (.ok none)

theorem Ran.did {command : SignInCommand} {result : Except String (Option String)}
    (ran : Ran sha256 command s journal result s') : Did sha256 s s' command result := by
  have ends : ∀ {post : Except String (Option String) → List SignInEntry → SignIn → Prop},
      (command.program sha256).Attempts alone (fun answer => post (.ok answer))
        (fun e => post (.error e)) [] s → post result journal s' := fun attempts =>
    ran.post (Prog.ensures_of_attempts attempts)
  cases command with
  | connect connection =>
      refine @ends (fun result _ s' => Did sha256 s s' (.connect connection) result) ?_
      apply Action.attempts_bind.mpr
      exact (connect_attempts connection).mono
        (fun _ _ _ h => .kept (fun _ same => by cases same) h.1 fun _ => h.2)
        fun _ _ _ h => .kept (fun _ same => by cases same) h.1 fun _ => h.2
  | importRecoveryCode code =>
      refine @ends (fun result _ s' => Did sha256 s s' (.importRecoveryCode code) result) ?_
      apply Action.attempts_bind.mpr
      refine (importRecoveryCode_attempts code).mono (fun _ _ _ h => .imported h.1 h.2.1 h.2.2) ?_
      rintro e _ _ rfl
      exact .kept (fun _ _ => ⟨e, rfl⟩) (.refl _) id
  | revealRecoveryCode =>
      refine @ends (fun result _ s' => Did sha256 s s' .revealRecoveryCode result) ?_
      apply Action.attempts_bind.mpr
      refine revealRecoveryCode_attempts.mono ?_ ?_
      · rintro _ _ _ ⟨rfl, -⟩
        exact .kept (fun _ same => by cases same) (.refl _) id
      · rintro _ _ _ rfl
        exact .kept (fun _ same => by cases same) (.refl _) id

theorem Did.coherent {command : SignInCommand} {result : Except String (Option String)}
    (did : Did sha256 s s' command result) (coherent : Coherent sha256 s) : Coherent sha256 s' := by
  cases did with
  | kept _ _ later => exact later coherent
  | imported _ _ unsigned => exact coherent_of_unsigned unsigned

theorem Did.device {command : SignInCommand} {result : Except String (Option String)}
    (did : Did sha256 s s' command result) {id : DeviceId} (stored : s.deviceId = some id) :
    s'.deviceId = some id := by
  cases did with
  | kept _ keeps _ => exact keeps.device id stored
  | imported _ same _ => exact same.trans stored

theorem Did.imported_code {recoveryCode : String} {answer : Option String}
    (did : Did sha256 s s' (.importRecoveryCode recoveryCode) (.ok answer)) :
    s'.keyring masterKeyEntry = some recoveryCode := by
  cases did with
  | kept refused _ _ =>
      obtain ⟨e, same⟩ := refused recoveryCode rfl
      cases same
  | imported stored _ _ => exact stored

variable {may : SignInCommand → Prop}

theorem Run.coherent (run : Run sha256 may s s') (coherent : Coherent sha256 s) :
    Coherent sha256 s' := by
  induction run with
  | start => exact coherent
  | step _ _ ran ih => exact ran.did.coherent ih

theorem Run.device (run : Run sha256 may s s') {id : DeviceId} (stored : s.deviceId = some id) :
    s'.deviceId = some id := by
  induction run with
  | start => exact stored
  | step _ _ ran ih => exact ran.did.device ih

theorem Run.code (run : Run sha256 Unimported s s') {code : String}
    (stored : s.keyring masterKeyEntry = some code) : s'.keyring masterKeyEntry = some code := by
  induction run with
  | start => exact stored
  | step _ unimported ran ih =>
      cases ran.did with
      | kept _ keeps _ => exact keeps.code code ih
      | imported => exact unimported.elim

/-- Sessions that are made of one stored code have one key. -/
theorem Coherent.key {s' : SignIn} {session session' : UiSession}
    (coherent : Coherent sha256 s) (coherent' : Coherent sha256 s')
    (signed : s.session = some session) (signed' : s'.session = some session')
    (stored : s'.keyring masterKeyEntry = some session.recoveryCode) :
    session'.masterKey = session.masterKey := by
  obtain ⟨_, accepted, _⟩ := coherent session signed
  obtain ⟨stored', accepted', _⟩ := coherent' session' signed'
  have same : session.recoveryCode = session'.recoveryCode :=
    Option.some.inj (stored.symm.trans stored')
  rw [← same, accepted] at accepted'
  exact (Except.ok.inj accepted').symm

/-- Every session of a client is made of its stored code and device id. Signing in again gives the
same device, and the same key until a code is imported; on another client, importing the code gives
the key as well. -/
theorem recovery_code_shares_key {s₀ : SignIn} (began : s₀.session = none)
    (before : Run sha256 (fun _ => True) s₀ s) {session : UiSession}
    (signed : s.session = some session) :
    s.keyring masterKeyEntry = some session.recoveryCode ∧
    MasterKey.fromRecoveryCode sha256 session.recoveryCode = .ok session.masterKey ∧
    s.deviceId = some session.deviceId ∧
    (∀ s' session', Run sha256 (fun _ => True) s s' → s'.session = some session' →
      session'.deviceId = session.deviceId) ∧
    (∀ s' session', Run sha256 Unimported s s' → s'.session = some session' →
      session'.masterKey = session.masterKey) ∧
    ∀ t₀ t t₁ t₂ journal session', t₀.session = none → Run sha256 (fun _ => True) t₀ t →
      Ran sha256 (.importRecoveryCode session.recoveryCode) t journal (.ok none) t₁ →
      Run sha256 Unimported t₁ t₂ → t₂.session = some session' →
      session'.masterKey = session.masterKey := by
  have coherent := before.coherent (coherent_of_unsigned began)
  obtain ⟨stored, accepted, own⟩ := coherent session signed
  refine ⟨stored, accepted, own, ?_, ?_, ?_⟩
  · intro s' session' run signed'
    obtain ⟨_, _, own'⟩ := run.coherent coherent session' signed'
    exact Option.some.inj (own'.symm.trans (run.device own))
  · intro s' session' run signed'
    exact coherent.key (run.coherent coherent) signed signed' (run.code stored)
  · intro t₀ t t₁ t₂ journal session' began' before' ran run signed'
    have coherent' := ran.did.coherent (before'.coherent (coherent_of_unsigned began'))
    exact coherent.key (run.coherent coherent') signed signed' (run.code ran.did.imported_code)

def laptop : Connection where
  transport := "HTTPS"
  endpoint := "https://sync.example/"
  apiToken := "0123456789abcdef0123456789abcdef"
  deviceName := "laptop"
  serialized := .ok "\x7b\x7d"

def noDigest : Bytes → Digest := fun _ => ⟨List.replicate 32 0, rfl⟩

/-- A client that was never used. -/
def unused : SignIn := ⟨fun _ => none, none, none⟩

/-- The first time, a key and a device id are drawn. -/
def firstTime : List SignInChoice :=
  [.proceed, .proceed, .proceed, .drawnKey Reference.masterKey, .proceed, .proceed, .proceed,
    .drawnDevice ⟨1⟩] ++ List.replicate 10 .proceed

/-- After an import only a device id is. -/
def withCode : List SignInChoice :=
  List.replicate 5 .proceed ++ [.drawnDevice ⟨2⟩] ++ List.replicate 10 .proceed

def played (command : SignInCommand) (choices : List SignInChoice) (s : SignIn) :
    Option (List SignInEntry × Except String (Option String) × SignIn) :=
  (command.program noDigest).run.record exec (fun _ _ => true) choices s

/-- A second client imports the code and connects. -/
theorem recovery_code_shares_key_laptop : ∃ s session t journal t₁ t₂ session',
    Run noDigest (fun _ => True) unused s ∧ s.session = some session ∧
    s.keyring masterKeyEntry = some session.recoveryCode ∧
    Run noDigest (fun _ => True) unused t ∧
    Ran noDigest (.importRecoveryCode session.recoveryCode) t journal (.ok none) t₁ ∧
    Run noDigest Unimported t₁ t₂ ∧ t₂.session = some session' ∧
    session'.masterKey = session.masterKey := by
  have ran {command choices s journal result s'}
      (plays : played command choices s = some (journal, result, s')) :
      Ran noDigest command s journal result s' := Prog.logs_of_record (fun _ => trivial) plays
  have ends : ((played (.connect laptop) firstTime unused).bind fun first =>
      first.2.2.session.bind fun session =>
        (played (.importRecoveryCode session.recoveryCode) [.proceed, .proceed] unused).bind
          fun brought =>
            if brought.2.1.toOption = some none then
              (played (.connect laptop) withCode brought.2.2).bind fun last => last.2.2.session
            else none).isSome = true := by decide +kernel
  obtain ⟨session', ended⟩ := Option.isSome_iff_exists.mp ends
  obtain ⟨⟨_, _, s⟩, first, ended⟩ := Option.bind_eq_some_iff.mp ended
  obtain ⟨session, signed, ended⟩ := Option.bind_eq_some_iff.mp ended
  obtain ⟨⟨journal, result, t₁⟩, brought, ended⟩ := Option.bind_eq_some_iff.mp ended
  split_ifs at ended with taken
  obtain ⟨⟨_, _, t₂⟩, last, signed'⟩ := Option.bind_eq_some_iff.mp ended
  cases result with
  | error => cases taken
  | ok answer =>
      cases taken
      have run : Run noDigest (fun _ => True) unused s := .step .start trivial (ran first)
      have connects : Unimported (.connect laptop) := trivial
      have again : Run noDigest Unimported t₁ t₂ := .step .start connects (ran last)
      obtain ⟨stored, _, _, _, _, shares⟩ := recovery_code_shares_key rfl run signed
      exact ⟨s, session, unused, journal, t₁, t₂, session', run, signed, stored, .start, ran brought,
        again, signed', shares unused unused t₁ t₂ journal session' rfl .start (ran brought) again
          signed'⟩

end SignIn
end HeliumSync
