import HeliumSync.Client
import HeliumSync.WorldStep

/-! The rules of requests, and of the orchestration built from them, for a client among
others. -/
namespace HeliumSync
open Interaction (Prog Action Entry Contract)

abbrev Journal (C : Type) := List (Entry (Op C) (Reply C))

/-- The contract of a client whose world is seen through `view`. -/
structure Serves {ι C W : Type} [DecidableEq ι] (P : Primitives C) (i : ι)
    (view : W → World ι C) (K : Contract (Op C) (Reply C) W Choice) : Prop where
  exec : ∀ {op choice w w' reply}, K.exec op choice w = some (w', reply) →
    World.exec P i op choice (view w) = some (view w', reply)
  still : ∀ {op choice w w' reply}, K.exec op choice w = some (w', reply) → view w' = view w →
    w' = w
  quiet : ∀ {journal op w reply}, op.Observes → K.inv w → K.guar journal op w reply w
  trans : ∀ {a b c}, K.rely a b → K.rely b c → K.rely a c

/-- Why a request failed: a fault, which is never a failed authentication, or its own cause. -/
def Fault (choice : Choice) (e : ClientError) (cause : Prop) : Prop :=
  cause ∨ choice ≠ .proceed ∧ e ≠ authenticationFailed

theorem Fault.mono {choice : Choice} {e : ClientError} {cause cause' : Prop}
    (fault : Fault choice e cause) (imp : cause → cause') : Fault choice e cause' :=
  fault.imp_left imp

namespace Serves
variable {ι C W ε : Type} [DecidableEq ι] {P : Primitives C} {i : ι} {view : W → World ι C}
  {K : Contract (Op C) (Reply C) W Choice} {journal : Journal C} {w : W}

theorem step (serves : Serves P i view K) (op : Op C) (observes : op.Observes)
    {after : W → Reply C op → W → Prop}
    (next : ∀ w₁ choice reply, K.rely w w₁ → K.inv w₁ → K.allow journal op choice w₁ →
      World.exec P i op choice (view w₁) = some (view w₁, reply) → after w₁ reply w₁) :
    K.Step journal op w after := by
  intro w₁ moved held choice w₂ reply allowed ran
  cases serves.still ran (World.exec_observes observes (serves.exec ran))
  exact ⟨held, serves.quiet observes held, next _ choice reply moved held allowed (serves.exec ran)⟩

theorem sample (serves : Serves P i view K) {ok : Sample → Journal C → W → Prop}
    {error : ε → Journal C → W → Prop}
    (next : ∀ w₁ s, K.rely w w₁ → K.inv w₁ → K.allow journal .sample (.sampled s) w₁ →
      ok s (journal ++ [⟨.sample, s⟩]) w₁) :
    (Action.observe (.perform Op.sample) : Client C ε Sample).Attempts K ok error journal w :=
  serves.step .sample trivial fun w₁ choice reply moved held allowed ran => by
    cases (World.exec_sample ran).2
    exact next w₁ reply moved held allowed

variable {ok : SyncObject C → Journal C → W → Prop} {error : ClientError → Journal C → W → Prop}

theorem getObject (serves : Serves P i view K) {id : ObjectId}
    (good : ∀ w₁ object, K.rely w w₁ → K.inv w₁ → K.allow journal (.getObject id) .proceed w₁ →
      (view w₁).server.getObject P id = .ok object →
      ok object (journal ++ [⟨.getObject id, .ok object⟩]) w₁)
    (bad : ∀ w₁ choice e, K.rely w w₁ → K.inv w₁ → K.allow journal (.getObject id) choice w₁ →
      Fault choice e (∃ cause, (view w₁).server.getObject P id = .error cause ∧ e = apiError cause) →
      error e (journal ++ [⟨.getObject id, .error e⟩]) w₁) :
    (HeliumSync.getObject id).Attempts K ok error journal w :=
  serves.step (.getObject id) trivial fun w₁ choice reply moved held allowed ran => by
    rcases (World.ask_cases ran).2 with ⟨rfl, same⟩ | ⟨e, same, fault, known⟩
    · cases found : (view w₁).server.getObject P id with
      | ok object =>
          rw [found] at same
          cases same
          exact good w₁ object moved held allowed found
      | error cause =>
          rw [found] at same
          cases same
          exact bad w₁ .proceed _ moved held allowed (.inl ⟨cause, found, rfl⟩)
    · cases same
      exact bad w₁ choice e moved held allowed (.inr ⟨fault, known⟩)

end Serves

theorem saturatingSucc_val {revision : U64} (small : revision.val + 1 < 18446744073709551616) :
    (saturatingSucc revision).val = revision.val + 1 := by rw [saturatingSucc, dif_pos small]

/-- The plaintext of an object of the namespace. -/
def ClientCore.downloaded {C : Type} (P : Primitives C) (core : ClientCore) (server : Server C)
    (nameSpace : String) (id : ObjectId) : Except ClientError Plaintext := do
  let stored ← (server.getObject P id).mapError apiError
  if stored.nameSpace = nameSpace then decrypt P core.masterKey stored
  else throw (.serialization s!"server object has unexpected namespace {stored.nameSpace}")

/-- The row decrypts to a document that reads as `value`. -/
def RowReads {C α : Type} (P : Primitives C) (masterKey : MasterKey)
    (read : Json → Except String α) (id : ObjectId) (row : ObjectRow C) (value : α) : Prop :=
  ∃ plaintext, RowOpens P masterKey id row plaintext ∧
    ClientCore.parseAs P read plaintext = .ok value

theorem RowReads.unique {C α : Type} {P : Primitives C} {masterKey : MasterKey}
    {read : Json → Except String α} {id : ObjectId} {row : ObjectRow C} {a b : α}
    (left : RowReads P masterKey read id row a) (right : RowReads P masterKey read id row b) :
    a = b := by
  obtain ⟨plaintext, opens, parsed⟩ := left
  obtain ⟨plaintext', opens', parsed'⟩ := right
  cases opens.unique opens'
  rw [parsed] at parsed'
  exact Except.ok.inj parsed'

namespace ClientCore
variable {C : Type} {P : Primitives C} {core : ClientCore} {server : Server C}

theorem downloaded_ok {nameSpace : String} {id : ObjectId} {plaintext : Plaintext} :
    core.downloaded P server nameSpace id = .ok plaintext ↔
      ∃ row, server.objects id = some row ∧ row.nameSpace = nameSpace ∧
        RowOpens P core.masterKey id row plaintext := by
  constructor
  · intro found
    obtain ⟨object, read, found⟩ := Fallible.bind_ok_iff.mp found
    cases got : server.getObject P id with
    | error cause => rw [got] at read; cases read
    | ok stored =>
        rw [got] at read
        cases read
        obtain ⟨row, held, parsed⟩ := Server.getObject_ok got
        obtain ⟨_, _, rfl⟩ := Server.rowToObject_ok parsed
        split at found
        · next space => exact ⟨row, held, space, _, parsed, found⟩
        · cases found
  · rintro ⟨row, held, rfl, object, parsed, opened⟩
    obtain ⟨_, _, rfl⟩ := Server.rowToObject_ok parsed
    simp only [downloaded, Server.getObject, held, parsed]
    exact (if_pos rfl).trans opened

/-- What `load_bookmarks` or `load_extension_manifest` reads. -/
def loaded {α : Type} (P : Primitives C) (core : ClientCore) (read : Json → Except String α)
    (server : Server C) (nameSpace : String) (id : ObjectId) : Except ClientError α :=
  core.downloaded P server nameSpace id >>= parseAs P read

theorem loaded_ok {α : Type} {read : Json → Except String α} {nameSpace : String} {id : ObjectId}
    {value : α} : core.loaded P read server nameSpace id = .ok value ↔
      ∃ row, server.objects id = some row ∧ row.nameSpace = nameSpace ∧
        RowReads P core.masterKey read id row value := by
  simp only [loaded, Fallible.bind_ok_iff, downloaded_ok]
  exact ⟨fun ⟨plaintext, ⟨row, held, space, opens⟩, parsed⟩ =>
      ⟨row, held, space, plaintext, opens, parsed⟩,
    fun ⟨row, held, space, plaintext, opens, parsed⟩ =>
      ⟨plaintext, ⟨row, held, space, opens⟩, parsed⟩⟩

/-- The request of an upload. -/
def request (core : ClientCore) (nameSpace : String) (base : Option U64) (s : Sample)
    (envelope : EncryptedEnvelopeV1 C) : PutObjectRequest C :=
  ⟨nameSpace, base, core.deviceId, s.time, envelope⟩

/-- What an upload authenticates. -/
def metadata (core : ClientCore) (nameSpace : String) (base : Option U64) (id : ObjectId)
    (s : Sample) : ObjectMetadata :=
  ⟨protocolMax, id, nameSpace, core.deviceId, (base.map saturatingSucc).getD 1, s.time⟩

/-- An accepted upload: the row it wrote. -/
structure Uploads (P : Primitives C) (core : ClientCore) (nameSpace : String)
    (plaintext : Plaintext) (base : Option U64) (id : ObjectId) (server server' : Server C)
    (row : ObjectRow C) : Prop where
  follows : Server.Follows (server.objects id) base row.revision
  written : server' = server.write id row
  space : row.nameSpace = nameSpace
  device : row.deviceId = core.deviceId
  live : row.deleted = false
  issued : row.cursor.val = server.sequence + 1
  opens : RowOpens P core.masterKey id row plaintext

theorem Uploads.stored {nameSpace : String} {plaintext : Plaintext} {base : Option U64}
    {id : ObjectId} {server' : Server C} {row : ObjectRow C}
    (uploads : Uploads P core nameSpace plaintext base id server server' row) :
    server'.objects id = some row := by rw [uploads.written, Server.write_objects_self]

/-- A first upload is of an object that was not there. -/
theorem Uploads.absent {nameSpace : String} {plaintext : Plaintext} {id : ObjectId}
    {server' : Server C} {row : ObjectRow C}
    (uploads : Uploads P core nameSpace plaintext none id server server' row) :
    server.objects id = none := by
  rcases uploads.follows with ⟨absent, _⟩ | ⟨_, _, based, _⟩
  · exact absent
  · cases based

theorem uploads_of_put (lawful : P.Lawful) {nameSpace : String} {plaintext : Plaintext}
    {base : Option U64} {id : ObjectId} {s : Sample} {envelope : EncryptedEnvelopeV1 C}
    (sealed : encrypt P core.masterKey (core.metadata nameSpace base id s) plaintext s.nonce =
      .ok envelope) {object : SyncObject C} {server' : Server C}
    (accepted : server.putObject P id (core.request nameSpace base s envelope) =
      .ok (object, server')) :
    ∃ row, Uploads P core nameSpace plaintext base id server server' row := by
  obtain ⟨revision, cursor, modifiedAt, _, follows, _, issued, formatted, rfl⟩ :=
    Server.putObject_ok accepted
  have bound : revision.toU64 = (core.metadata nameSpace base id s).revision := by
    refine Fin.ext ?_
    rcases follows with ⟨_, absent, first⟩ | ⟨row, _, based, next⟩
    · rw [show base = none from absent]
      exact first
    · have small := revision.isLt
      have succ : (saturatingSucc row.revision.toU64).val = row.revision.val + 1 :=
        saturatingSucc_val (by rw [I64.toU64_val]; omega)
      rw [show base = some row.revision.toU64 from based]
      exact next.trans succ.symm
  exact ⟨Server.putRow (core.request nameSpace base s envelope) revision cursor modifiedAt,
    follows, rfl, rfl, rfl, rfl, issued,
    rowOpens_putRow lawful s.nonceSize rfl rfl rfl rfl sealed bound formatted⟩

end ClientCore

namespace Serves
variable {ι C W : Type} [DecidableEq ι] {P : Primitives C} {i : ι} {view : W → World ι C}
  {K : Contract (Op C) (Reply C) W Choice} {core : ClientCore} {journal : Journal C} {w : W}
  {nameSpace : String} {id : ObjectId} {error : ClientError → Journal C → W → Prop}

theorem download (serves : Serves P i view K)
    {ok : Plaintext × SyncProof → Journal C → W → Prop}
    (good : ∀ w₁ row object plaintext, K.rely w w₁ → K.inv w₁ →
      K.allow journal (.getObject id) .proceed w₁ →
      (view w₁).server.objects id = some row → Server.rowToObject P id row = .ok object →
      row.nameSpace = nameSpace → RowOpens P core.masterKey id row plaintext →
      ok (plaintext, ⟨id, nameSpace, row.revision.toU64, row.cursor.toU64, true⟩)
        (journal ++ [⟨.getObject id, .ok object⟩]) w₁)
    (bad : ∀ w₁ choice reply e, K.rely w w₁ → K.inv w₁ →
      K.allow journal (.getObject id) choice w₁ →
      Fault choice e (core.downloaded P (view w₁).server nameSpace id = .error e) →
      error e (journal ++ [⟨.getObject id, reply⟩]) w₁) :
    (core.download P nameSpace id).Attempts K ok error journal w := by
  refine Action.attempts_bind.mpr (serves.getObject (fun w₁ object moved held allowed got => ?_)
    fun w₁ choice e moved held allowed fault => ?_)
  · obtain ⟨row, found, parsed⟩ := Server.getObject_ok got
    have read : ((view w₁).server.getObject P id).mapError apiError = .ok object := by rw [got]; rfl
    by_cases space : object.nameSpace = nameSpace
    · have outcome : core.downloaded P (view w₁).server nameSpace id =
          decrypt P core.masterKey object := by
        rw [ClientCore.downloaded, read]
        exact if_pos space
      rw [if_pos space]
      refine Action.attempts_bind.mpr (Action.attempts_ofExcept.mpr
        ⟨fun plaintext opened => ?_, fun e failed => ?_⟩)
      · have next := good w₁ row object plaintext moved held allowed found parsed
        obtain ⟨_, _, rfl⟩ := Server.rowToObject_ok parsed
        subst space
        exact next rfl ⟨_, parsed, opened⟩
      · exact bad w₁ .proceed _ e moved held allowed (.inl (outcome.trans failed))
    · have outcome : core.downloaded P (view w₁).server nameSpace id = .error (.serialization
          s!"server object has unexpected namespace {object.nameSpace}") := by
        rw [ClientCore.downloaded, read]
        exact if_neg space
      rw [if_neg space]
      exact bad w₁ .proceed _ _ moved held allowed (.inl outcome)
  · refine bad w₁ choice _ e moved held allowed (fault.mono ?_)
    rintro ⟨cause, failed, rfl⟩
    rw [ClientCore.downloaded, failed]
    rfl

/-- The rule of `load_bookmarks` and `load_extension_manifest`. -/
theorem load (serves : Serves P i view K) {α : Type} {read : Json → Except String α}
    {ok : α × SyncProof → Journal C → W → Prop}
    (good : ∀ w₁ row object value, K.rely w w₁ → K.inv w₁ →
      (view w₁).server.objects id = some row → Server.rowToObject P id row = .ok object →
      row.nameSpace = nameSpace → RowReads P core.masterKey read id row value →
      ok (value, ⟨id, nameSpace, row.revision.toU64, row.cursor.toU64, true⟩)
        (journal ++ [⟨.getObject id, .ok object⟩]) w₁)
    (bad : ∀ w₁ choice reply e, K.rely w w₁ → K.inv w₁ →
      K.allow journal (.getObject id) choice w₁ →
      Fault choice e (core.loaded P read (view w₁).server nameSpace id = .error e) →
      error e (journal ++ [⟨.getObject id, reply⟩]) w₁) :
    Action.Attempts K ok error (do
      let (plaintext, proof) ← core.download P nameSpace id
      let value ← .ofExcept (ClientCore.parseAs P read plaintext)
      return (value, proof)) journal w := by
  refine Action.attempts_bind.mpr (serves.download
    (fun w₁ row object plaintext moved held allowed found parsed space opens => ?_)
    fun w₁ choice reply e moved held allowed fault => ?_)
  · refine Action.attempts_bind.mpr (Action.attempts_ofExcept.mpr
      ⟨fun value read => ?_, fun e failed => ?_⟩)
    · exact good w₁ row object value moved held found parsed space ⟨plaintext, opens, read⟩
    · refine bad w₁ .proceed _ e moved held allowed (.inl ?_)
      rw [ClientCore.loaded, ClientCore.downloaded_ok.mpr ⟨row, found, space, opens⟩]
      exact failed
  · refine bad w₁ choice reply e moved held allowed (fault.mono fun failed => ?_)
    rw [ClientCore.loaded, failed]
    rfl

end Serves

section
variable {ι C W : Type} [DecidableEq ι] (P : Primitives C) (view : W → World ι C)
  (K : Contract (Op C) (Reply C) W Choice) (core : ClientCore) (nameSpace : String)
  (plaintext : Plaintext) (base : Option U64) (id : ObjectId) (s : Sample) (journal : Journal C)
  (w : W)

/-- The accepted put of an upload. -/
structure Put (w₁ w₂ : W) (row : ObjectRow C) (envelope : EncryptedEnvelopeV1 C) (choice : Choice)
    (reply : Except ClientError (SyncObject C)) : Prop where
  moved : K.rely w w₁
  held : K.inv w₁
  allowed : K.allow journal (.putObject id (core.request nameSpace base s envelope)) choice w₁
  ran : K.exec (.putObject id (core.request nameSpace base s envelope)) choice w₁ =
    some (w₂, reply)
  sealed : encrypt P core.masterKey (core.metadata nameSpace base id s) plaintext s.nonce =
    .ok envelope
  accepted : ∃ result, (view w₁).server.putObject P id (core.request nameSpace base s envelope) =
    .ok result
  uploads : core.Uploads P nameSpace plaintext base id (view w₁).server (view w₂).server row
  frame : (view w₂).device = (view w₁).device

/-- What an upload needs of its surroundings, once its time, id and nonce are drawn. -/
structure UploadDuty (ok : SyncProof → Journal C → W → Prop)
    (error : ClientError → Journal C → W → Prop) : Prop where
  unsealed : ∀ e, encrypt P core.masterKey (core.metadata nameSpace base id s) plaintext s.nonce =
    .error e → error e journal w
  refused : ∀ w₁ envelope choice e, K.rely w w₁ → K.inv w₁ →
    K.allow journal (.putObject id (core.request nameSpace base s envelope)) choice w₁ →
    encrypt P core.masterKey (core.metadata nameSpace base id s) plaintext s.nonce =
      .ok envelope →
    (choice = .proceed → ∃ cause, (view w₁).server.putObject P id
      (core.request nameSpace base s envelope) = .error cause) →
    K.guar journal (.putObject id (core.request nameSpace base s envelope)) w₁ (.error e) w₁ ∧
      error e (journal ++
        [⟨.putObject id (core.request nameSpace base s envelope), .error e⟩]) w₁
  kept : ∀ w₁ w₂ row envelope choice reply,
    Put P view K core nameSpace plaintext base id s journal w w₁ w₂ row envelope choice reply →
    K.inv w₂ ∧
      K.guar journal (.putObject id (core.request nameSpace base s envelope)) w₁ reply w₂
  lost : ∀ w₁ w₂ row envelope e,
    Put P view K core nameSpace plaintext base id s journal w w₁ w₂ row envelope (.lostReply e)
      (.error e) → K.inv w₂ →
    error e (journal ++
      [⟨.putObject id (core.request nameSpace base s envelope), .error e⟩]) w₂
  verified : ∀ w₁ w₂ row envelope object,
    Put P view K core nameSpace plaintext base id s journal w w₁ w₂ row envelope .proceed
      (.ok object) →
    ∀ w₃ row₃ stored, K.rely w₂ w₃ → K.inv w₃ → (view w₃).server.objects id = some row₃ →
      Server.rowToObject P id row₃ = .ok stored → RowOpens P core.masterKey id row₃ plaintext →
      ok ⟨id, nameSpace, row₃.revision.toU64, row₃.cursor.toU64, true⟩ (journal ++
        [⟨.putObject id (core.request nameSpace base s envelope), .ok object⟩] ++
        [⟨.getObject id, .ok stored⟩]) w₃
  unverified : ∀ w₁ w₂ row envelope object,
    Put P view K core nameSpace plaintext base id s journal w w₁ w₂ row envelope .proceed
      (.ok object) →
    ∀ w₃ choice reply e, K.rely w₂ w₃ → K.inv w₃ →
      K.allow (journal ++
        [⟨.putObject id (core.request nameSpace base s envelope), .ok object⟩])
        (.getObject id) choice w₃ →
      (choice = .proceed → ∀ row₃, (view w₃).server.objects id = some row₃ →
        ¬ RowOpens P core.masterKey id row₃ plaintext) →
      error e (journal ++
        [⟨.putObject id (core.request nameSpace base s envelope), .ok object⟩] ++
        [⟨.getObject id, reply⟩]) w₃

end

namespace Serves
variable {ι C W : Type} [DecidableEq ι] {P : Primitives C} {i : ι} {view : W → World ι C}
  {K : Contract (Op C) (Reply C) W Choice} {core : ClientCore} {journal : Journal C} {w : W}
  {nameSpace : String} {plaintext : Plaintext} {base : Option U64} {objectId : Option ObjectId}

theorem upload (serves : Serves P i view K) (lawful : P.Lawful)
    {ok : SyncProof → Journal C → W → Prop} {error : ClientError → Journal C → W → Prop}
    (duty : ∀ w₀ s, K.rely w w₀ → K.inv w₀ → K.allow journal .sample (.sampled s) w₀ →
      UploadDuty P view K core nameSpace plaintext base (objectId.getD s.objectId) s
        (journal ++ [⟨.sample, s⟩]) w₀ ok error) :
    (core.upload P nameSpace plaintext objectId base).Attempts K ok error journal w := by
  refine Action.attempts_bind.mpr (serves.sample fun w₀ s moved₀ held₀ allowed₀ => ?_)
  have duty := duty w₀ s moved₀ held₀ allowed₀
  refine Action.attempts_bind.mpr (Action.attempts_ofExcept.mpr
    ⟨fun envelope sealed => ?_, fun e failed => duty.unsealed e failed⟩)
  refine Action.attempts_bind.mpr fun w₁ moved held choice w₂ reply allowed ran => ?_
  have ran' := serves.exec ran
  rcases World.commit_cases ran' with
    ⟨object, server, accepted, changed, outcome⟩ | ⟨same, e, rfl, _, cause⟩
  · obtain ⟨row, uploads⟩ := ClientCore.uploads_of_put lawful sealed accepted
    have put : Put P view K core nameSpace plaintext base (objectId.getD s.objectId) s
        (journal ++ [⟨.sample, s⟩]) w₀ w₁ w₂ row envelope choice reply :=
      ⟨moved, held, allowed, ran, sealed, ⟨_, accepted⟩, by rw [changed]; exact uploads,
        by rw [changed]; rfl⟩
    obtain ⟨kept, owed⟩ := duty.kept _ _ _ _ _ _ put
    refine ⟨kept, owed, ?_⟩
    rcases outcome with ⟨rfl, rfl⟩ | ⟨e, rfl, rfl, _⟩
    · refine Action.attempts_bind.mpr (serves.getObject
        (fun w₃ stored moved₃ held₃ allowed₃ got => ?_)
        fun w₃ choice₃ e moved₃ held₃ allowed₃ fault => ?_)
      · obtain ⟨row₃, found, parsed⟩ := Server.getObject_ok got
        have bad (e : ClientError)
            (differ : ∀ plain, decrypt P core.masterKey stored = .ok plain → plain ≠ plaintext) :=
          duty.unverified _ _ _ _ _ put w₃ .proceed (.ok stored) e moved₃ held₃ allowed₃
            fun _ row₄ found₄ opens => by
              rw [found] at found₄
              cases found₄
              obtain ⟨stored', parsed', opened⟩ := opens
              rw [parsed] at parsed'
              cases parsed'
              exact differ plaintext opened rfl
        refine Action.attempts_bind.mpr (Action.attempts_ofExcept.mpr
          ⟨fun plain opened => ?_, fun e failed => ?_⟩)
        · split
          · next same =>
              subst same
              have next := duty.verified _ _ _ _ _ put w₃ row₃ stored moved₃ held₃ found parsed
                ⟨stored, parsed, opened⟩
              obtain ⟨_, _, rfl⟩ := Server.rowToObject_ok parsed
              exact next
          · next differ =>
              exact bad _ fun other again => by
                rw [opened] at again
                cases again
                exact differ
        · exact bad e fun other again => by rw [failed] at again; cases again
      · refine duty.unverified _ _ _ _ _ put w₃ choice₃ _ e moved₃ held₃ allowed₃
          fun proceeds row₃ found opens => ?_
        rcases fault with ⟨_, failed, _⟩ | ⟨fault, _⟩
        · obtain ⟨stored, parsed, _⟩ := opens
          rw [Server.getObject_row found, parsed] at failed
          cases failed
        · exact fault proceeds
    · exact duty.lost _ _ _ _ _ put kept
  · cases serves.still ran same
    obtain ⟨owed, next⟩ := duty.refused w₁ envelope choice e moved held allowed sealed
      fun proceeds => (cause proceeds).imp fun _ h => h.1
    exact ⟨held, owed, next⟩

end Serves
end HeliumSync
