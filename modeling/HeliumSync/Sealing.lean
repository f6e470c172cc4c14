import HeliumSync.Framing
import HeliumSync.Operations
import HeliumSync.Readiness
import HeliumSync.Reference
import HeliumSync.Requests
import HeliumSync.Store

/-! What an upload seals: every client with the master key opens it again, and no client takes a
record whose metadata was changed. -/
namespace HeliumSync
open Interaction (Prog Action)

variable {C : Type}

/-- The cipher opens only what was sealed under the same key, nonce and associated data. -/
structure Primitives.Binds (P : Primitives C) : Prop where
  same_context : ∀ {key nonce aad plain cipher key' nonce' aad' plain'},
    P.aeadEncrypt key nonce aad plain = some cipher →
      P.aeadDecrypt key' nonce' aad' cipher = some plain' →
        key' = key ∧ nonce' = nonce ∧ aad' = aad

/-- The fields that are authenticated with an object, the time by its text. -/
structure SameMetadata (P : Primitives C) (object : SyncObject C) (metadata : ObjectMetadata) :
    Prop where
  id : object.id = metadata.objectId
  space : object.nameSpace = metadata.nameSpace
  device : object.deviceId = metadata.deviceId
  revision : object.revision = metadata.revision
  time : P.formatRfc3339 object.modifiedAt = P.formatRfc3339 metadata.modifiedAt

variable {P : Primitives C}

theorem decrypt_ok {masterKey : MasterKey} {object : SyncObject C} {plaintext : Plaintext}
    (opened : decrypt P masterKey object = .ok plaintext) :
    ∃ envelope key aad, object.envelope = some envelope ∧ envelope.version = 1 ∧
      envelope.keyVersion = 1 ∧
      deriveKey P masterKey object.id object.nameSpace 1 = .ok key ∧
      associatedData P ⟨protocolMax, object.id, object.nameSpace, object.deviceId, object.revision,
        object.modifiedAt⟩ 1 = .ok aad ∧
      P.aeadDecrypt key envelope.nonce aad envelope.ciphertext = some plaintext := by
  unfold decrypt at opened
  split at opened
  · next envelope held =>
      split_ifs at opened with unsupported
      · cases opened
      · simp only [not_or, not_not] at unsupported
        obtain ⟨version, keyVersion, _, _⟩ := unsupported
        obtain ⟨key, derived, opened⟩ := Fallible.bind_ok_iff.mp opened
        obtain ⟨aad, bound, opened⟩ := Fallible.bind_ok_iff.mp opened
        rw [keyVersion] at derived
        rw [version] at bound
        split at opened
        · next plain found =>
            cases opened
            exact ⟨envelope, key, aad, held, version, keyVersion, derived, bound, found⟩
        · cases opened
  · cases opened

/-- A record opens only under the metadata that it was sealed with. -/
theorem sameMetadata_of_decrypt (binds : P.Binds) {masterKey : MasterKey}
    {metadata : ObjectMetadata} {plaintext plaintext' : Plaintext} {nonce : Bytes}
    {envelope envelope' : EncryptedEnvelopeV1 C} (current : metadata.protocol = protocolMax)
    (sealed : encrypt P masterKey metadata plaintext nonce = .ok envelope) {object : SyncObject C}
    {masterKey' : MasterKey} (held : object.envelope = some envelope')
    (same : envelope'.ciphertext = envelope.ciphertext)
    (opened : decrypt P masterKey' object = .ok plaintext') : SameMetadata P object metadata := by
  obtain ⟨key, aad, ciphertext, _, bound, encrypted, rfl⟩ := encrypt_ok sealed
  obtain ⟨envelope'', key', aad', held', _, _, _, bound', found⟩ := decrypt_ok opened
  rw [held] at held'
  cases held'
  rw [same] at found
  obtain ⟨_, _, rfl⟩ := binds.same_context encrypted found
  obtain ⟨ids, spaces, devices, revisions, times⟩ :=
    associatedData_inj bound' bound current.symm
  exact ⟨ids, spaces, devices, revisions, times⟩

/-- An operation that, if it is a put, carries what was encrypted for it. -/
def SealsFor (P : Primitives C) (core : ClientCore) (nameSpace : String) (plaintext : Plaintext)
    (objectId : Option ObjectId) (base : Option U64) : Op C → Prop
  | .putObject id request => ∃ s envelope, id = objectId.getD s.objectId ∧
      request = core.request nameSpace base s envelope ∧
      encrypt P core.masterKey (core.metadata nameSpace base id s) plaintext s.nonce = .ok envelope
  | _ => True

theorem upload_sealsFor (core : ClientCore) (nameSpace : String) (plaintext : Plaintext)
    (objectId : Option ObjectId) (base : Option U64) :
    (core.upload P nameSpace plaintext objectId base).run.Issues
      (SealsFor P core nameSpace plaintext objectId base) := by
  refine ClientCore.upload_issues ?_ fun s envelope sealed => ⟨s, envelope, rfl, rfl, sealed⟩
  intro op plain
  cases op with
  | putObject => exact plain.elim
  | _ => exact trivial

theorem upload_asks {core : ClientCore} {nameSpace : String} {plaintext : Plaintext}
    {objectId : Option ObjectId} {base : Option U64} {s : Sample} {envelope : EncryptedEnvelopeV1 C}
    (sealed : encrypt P core.masterKey
      (core.metadata nameSpace base (objectId.getD s.objectId) s) plaintext s.nonce = .ok envelope) :
    (core.upload P nameSpace plaintext objectId base).run.Asks
      (.putObject (objectId.getD s.objectId) (core.request nameSpace base s envelope)) := by
  refine Prog.Asks.later s (Action.asks_bind_ofExcept sealed ?_)
  exact .here

/-- What the server accepts from an upload opens again: a later get of that revision rebuilds the
metadata that was authenticated, and a record with other metadata does not open. -/
theorem upload_opens_again (lawful : P.Lawful) (binds : P.Binds) {core : ClientCore}
    {nameSpace : String} {plaintext : Plaintext} {objectId : Option ObjectId} {base : Option U64}
    {id : ObjectId} {request : PutObjectRequest C}
    (asked : (core.upload P nameSpace plaintext objectId base).run.Asks (.putObject id request))
    {server server' : Server C} {object : SyncObject C}
    (accepted : server.putObject P id request = .ok (object, server')) :
    ∃ metadata nonce, encrypt P core.masterKey metadata plaintext nonce = .ok request.envelope ∧
      ∀ requests row, (server'.run P requests).objects id = some row →
        row.revision.toU64 = object.revision →
        ∃ got, (server'.run P requests).getObject P id = .ok got ∧ SameMetadata P got metadata ∧
          decrypt P core.masterKey got = .ok plaintext ∧
          ∀ changed : SyncObject C, changed.envelope = got.envelope →
            ¬ SameMetadata P changed metadata → ∃ e, decrypt P core.masterKey changed = .error e := by
  obtain ⟨s, envelope, rfl, rfl, sealed⟩ :=
    (upload_sealsFor core nameSpace plaintext objectId base).asked asked
  obtain ⟨row₀, uploads⟩ := ClientCore.uploads_of_put lawful sealed accepted
  obtain ⟨revision, cursor, modifiedAt, _, _, answered, _, _, written⟩ := Server.putObject_ok accepted
  refine ⟨_, _, sealed, ?_⟩
  intro requests row found current
  have put : row₀ = Server.putRow (core.request nameSpace base s envelope) revision cursor
      modifiedAt := by
    have stored := uploads.stored
    rw [written, Server.write_objects_self] at stored
    exact (Option.some.inj stored).symm
  have same : row = row₀ := by
    refine (Server.run_advances server' requests).same uploads.stored found ?_
    rw [put]
    exact I64.toU64_inj.mp (current.trans answered)
  obtain ⟨got, read, opened⟩ := uploads.opens
  have held : got.envelope = some envelope := by
    obtain ⟨_, _, rfl⟩ := Server.rowToObject_ok read
    rw [put]
    rfl
  refine ⟨got, ?_, sameMetadata_of_decrypt binds rfl sealed held rfl opened, opened, ?_⟩
  · rw [Server.getObject_row found, same]
    exact read
  · intro changed envelopes differ
    cases outcome : decrypt P core.masterKey changed with
    | error e => exact ⟨e, rfl⟩
    | ok other =>
        have record := sameMetadata_of_decrypt binds rfl sealed (envelopes.trans held) rfl outcome
        exact absurd record differ

section
open Reference (primitives masterKey draw server session)

theorem primitives_binds : primitives.Binds where
  same_context {key nonce aad plain cipher key' nonce' aad' plain'} encrypted found := by
    cases Reference.aeadEncrypt_some encrypted
    change (if key = key' ∧ nonce = nonce' ∧ aad = aad' then some plain else none) = _ at found
    split_ifs at found with same
    obtain ⟨rfl, rfl, rfl⟩ := same
    exact ⟨rfl, rfl, rfl⟩

theorem upload_opens_again_first : ∃ request object server' got,
    ((session 0).core.upload primitives bookmarkNamespace (.text "mine") none none).run.Asks
      (.putObject (draw 9).objectId request) ∧
    server.putObject primitives (draw 9).objectId request = .ok (object, server') ∧
    server'.getObject primitives (draw 9).objectId = .ok got ∧
    decrypt primitives (session 0).core.masterKey got = .ok (.text "mine") := by
  obtain ⟨envelope, sealed⟩ : ∃ envelope, encrypt primitives (session 0).core.masterKey
      ((session 0).core.metadata bookmarkNamespace none (draw 9).objectId (draw 9)) (.text "mine")
      (draw 9).nonce = .ok envelope :=
    (encrypt_isOk Reference.primitives_lawful).mpr
      ⟨by decide +kernel, ⟨Reference.epoch, by decide⟩, by decide +kernel⟩
  have asks : ((session 0).core.upload primitives bookmarkNamespace (.text "mine") none none).run.Asks
      (.putObject (draw 9).objectId ((session 0).core.request bookmarkNamespace none (draw 9) envelope)) :=
    @upload_asks _ primitives (session 0).core bookmarkNamespace (.text "mine") none none (draw 9)
      envelope sealed
  obtain ⟨⟨object, server'⟩, accepted⟩ : ∃ result, server.putObject primitives (draw 9).objectId
      ((session 0).core.request bookmarkNamespace none (draw 9) envelope) = .ok result := by
    have active : server.ensureActiveDevice (session 0).core.deviceId = .ok () := by decide
    have formatted : primitives.formatRfc3339 (draw 9).time = .ok Reference.epoch := by decide
    refine Server.putObject_isOk.mpr ⟨⟨?_, active, ⟨1, rfl, by decide⟩, by decide⟩, _, formatted⟩
    exact (ClientCore.validatePut_request Reference.primitives_lawful sealed).mpr
      ⟨by decide +kernel, by decide +kernel⟩
  obtain ⟨row, uploads⟩ := ClientCore.uploads_of_put Reference.primitives_lawful sealed accepted
  obtain ⟨_, _, _, again⟩ :=
    upload_opens_again Reference.primitives_lawful primitives_binds asks accepted
  obtain ⟨revision, _, _, _, _, answered, _, _, written⟩ := Server.putObject_ok accepted
  have current : row.revision.toU64 = object.revision := by
    have stored := uploads.stored
    rw [written, Server.write_objects_self] at stored
    rw [answered, ← Option.some.inj stored]
    rfl
  obtain ⟨got, read, _, opened, _⟩ := again [] row uploads.stored current
  exact ⟨_, object, server', got, asks, accepted, read, opened⟩

end

/-- A record that a holder of the master key sealed. -/
structure Sealing (P : Primitives C) (masterKey : MasterKey) where
  metadata : ObjectMetadata
  plaintext : Plaintext
  nonce : Bytes
  envelope : EncryptedEnvelopeV1 C
  current : metadata.protocol = protocolMax
  sealed : encrypt P masterKey metadata plaintext nonce = .ok envelope

section
variable {masterKey : MasterKey} (sealings : Set (Sealing P masterKey)) (answer : SyncObject C)

/-- Nobody but the key holders seals under a key that comes of the master key: if such a key opens
the answer then a key holder sealed it. What the server seals under its own keys is not meant. -/
def Authentic : Prop :=
  ∀ envelope, answer.envelope = some envelope → ∀ id nameSpace version key,
    deriveKey P masterKey id nameSpace version = .ok key → ∀ nonce aad plaintext,
      P.aeadDecrypt key nonce aad envelope.ciphertext = some plaintext →
        ∃ sealing ∈ sealings, sealing.envelope.ciphertext = envelope.ciphertext

/-- The record in the answer was sealed, with this plaintext, for exactly this object. -/
def SealedAs (nameSpace : String) (id : ObjectId) (plaintext : Plaintext) : Prop :=
  ∃ sealing ∈ sealings, answer.envelope.map (·.ciphertext) = some sealing.envelope.ciphertext ∧
    sealing.metadata.objectId = id ∧ sealing.metadata.nameSpace = nameSpace ∧
    sealing.plaintext = plaintext

variable {sealings answer}

/-- What opens was sealed under the id and namespace that the answer itself gives. -/
theorem sealedAs_of_decrypt (lawful : P.Lawful) (binds : P.Binds)
    (authentic : Authentic sealings answer) {plaintext : Plaintext}
    (opened : decrypt P masterKey answer = .ok plaintext) :
    SealedAs sealings answer answer.nameSpace answer.id plaintext := by
  obtain ⟨envelope, key, aad, held, _, _, derived, _, found⟩ := decrypt_ok opened
  obtain ⟨sealing, member, same⟩ :=
    authentic envelope held _ _ _ key derived envelope.nonce aad plaintext found
  have record : SameMetadata P answer sealing.metadata :=
    sameMetadata_of_decrypt binds sealing.current sealing.sealed held same.symm opened
  refine ⟨sealing, member, ?_, record.id.symm, record.space.symm, ?_⟩
  · rw [held, Option.map_some, same]
  · obtain ⟨key', aad', ciphertext, _, _, encrypted, envelopes⟩ := encrypt_ok sealing.sealed
    rw [← same, envelopes] at found
    obtain ⟨rfl, nonces, rfl⟩ := binds.same_context encrypted found
    rw [nonces, lawful.decrypt_encrypt encrypted] at found
    exact Option.some.inj found

theorem id_of_sealedAs (binds : P.Binds) {nameSpace : String} {id : ObjectId}
    {plaintext plaintext' : Plaintext} (opened : decrypt P masterKey answer = .ok plaintext')
    (sealed : SealedAs sealings answer nameSpace id plaintext) : answer.id = id := by
  obtain ⟨sealing, _, carries, rfl, _, _⟩ := sealed
  obtain ⟨envelope, held, same⟩ := Option.map_eq_some_iff.mp carries
  exact (sameMetadata_of_decrypt binds sealing.current sealing.sealed held same opened).id

end

theorem download_against {core : ClientCore} {nameSpace : String} {id : ObjectId}
    {answers : (op : Op C) → Reply C op} {answer : SyncObject C}
    (asked : answers (.getObject id) = Except.ok answer) {plaintext : Plaintext}
    {proof : SyncProof}
    (accepted : (core.download P nameSpace id).run.against answers = .ok (plaintext, proof)) :
    answer.nameSpace = nameSpace ∧ decrypt P core.masterKey answer = .ok plaintext := by
  rw [ClientCore.download, Action.against_bind] at accepted
  obtain ⟨stored, got, accepted⟩ := Fallible.bind_ok_iff.mp accepted
  cases asked.symm.trans got
  split_ifs at accepted with space
  · rw [Action.against_bind] at accepted
    obtain ⟨plain, opened, same⟩ := Fallible.bind_ok_iff.mp accepted
    cases same
    exact ⟨space, opened⟩
  · cases accepted

theorem download_answered {core : ClientCore} {nameSpace : String} {id : ObjectId}
    {answers : (op : Op C) → Reply C op} {answer : SyncObject C}
    (asked : answers (.getObject id) = Except.ok answer) (space : answer.nameSpace = nameSpace)
    {plaintext : Plaintext} (opened : decrypt P core.masterKey answer = .ok plaintext) :
    (core.download P nameSpace id).run.against answers =
      .ok (plaintext, ⟨id, answer.nameSpace, answer.revision, answer.cursor, true⟩) := by
  rw [ClientCore.download, Action.against_bind]
  refine Fallible.bind_ok_iff.mpr ⟨answer, asked, ?_⟩
  rw [if_pos space, Action.against_bind]
  exact Fallible.bind_ok_iff.mpr ⟨plaintext, opened, rfl⟩

/-- What `load_bookmarks` or `load_extension_manifest` returns was read from a download. -/
theorem load_against {core : ClientCore} {nameSpace : String} {id : ObjectId} {α : Type}
    {read : Json → Except String α} {answers : (op : Op C) → Reply C op} {value : α}
    {proof : SyncProof}
    (accepted : (do
      let (plaintext, proof) ← core.download P nameSpace id
      let value ← .ofExcept (ClientCore.parseAs P read plaintext)
      return (value, proof) : Client C ClientError (α × SyncProof)).run.against answers =
        .ok (value, proof)) :
    ∃ plaintext, (core.download P nameSpace id).run.against answers = .ok (plaintext, proof) ∧
      ClientCore.parseAs P read plaintext = .ok value := by
  rw [Action.against_bind] at accepted
  obtain ⟨⟨plaintext, proof'⟩, downloaded, accepted⟩ := Fallible.bind_ok_iff.mp accepted
  dsimp only at accepted
  rw [Action.against_bind] at accepted
  obtain ⟨value', parsed, same⟩ := Fallible.bind_ok_iff.mp accepted
  cases same
  exact ⟨plaintext, downloaded, parsed⟩

/-- Whatever the server answers, what a client takes from it was sealed by a key holder for the
object that was asked for if and only if the answer carries the id that was asked for. -/
theorem substituted_iff (lawful : P.Lawful) (binds : P.Binds) (core : ClientCore)
    (sealings : Set (Sealing P core.masterKey)) (answers : (op : Op C) → Reply C op)
    (id : ObjectId) {answer : SyncObject C} (asked : answers (.getObject id) = Except.ok answer)
    (authentic : Authentic sealings answer) :
    (∀ nameSpace plaintext proof,
      (core.download P nameSpace id).run.against answers = .ok (plaintext, proof) →
        (SealedAs sealings answer nameSpace id plaintext ↔ answer.id = id)) ∧
    (∀ snapshot proof, (core.loadBookmarks P id).run.against answers = .ok (snapshot, proof) →
      ∃ plaintext, ClientCore.parseAs P readSnapshot plaintext = .ok snapshot ∧
        (SealedAs sealings answer bookmarkNamespace id plaintext ↔ answer.id = id)) ∧
    ∀ manifest proof, (core.loadExtensionManifest P id).run.against answers = .ok (manifest, proof) →
      ∃ plaintext, ClientCore.parseAs P (readManifest P) plaintext = .ok manifest ∧
        (SealedAs sealings answer extensionManifestNamespace id plaintext ↔ answer.id = id) := by
  have downloads (nameSpace : String) (plaintext : Plaintext) (proof : SyncProof)
      (accepted : (core.download P nameSpace id).run.against answers = .ok (plaintext, proof)) :
      SealedAs sealings answer nameSpace id plaintext ↔ answer.id = id := by
    obtain ⟨rfl, opened⟩ := download_against asked accepted
    constructor
    · exact id_of_sealedAs binds opened
    · rintro rfl
      exact sealedAs_of_decrypt lawful binds authentic opened
  refine ⟨downloads, ?_, ?_⟩
  · intro snapshot proof accepted
    obtain ⟨plaintext, downloaded, parsed⟩ := load_against accepted
    exact ⟨plaintext, parsed, downloads _ _ _ downloaded⟩
  · intro manifest proof accepted
    obtain ⟨plaintext, downloaded, parsed⟩ := load_against accepted
    exact ⟨plaintext, parsed, downloads _ _ _ downloaded⟩

section
open Reference (primitives masterKey draw)

/-- A server that gives this answer to every get. -/
def answering (answer : SyncObject Reference.Sealed) :
    (op : Op Reference.Sealed) → Reply Reference.Sealed op
  | .getObject _ => Except.ok answer
  | .sample => draw 0
  | .putObject .. | .deleteObject .. => Except.error .timeout
  | .changes _ => Except.error .timeout
  | .readFile => Except.error ""
  | .replaceFile _ => Except.error (.write "" "")
  | .createExtensionBundle => Except.error ""
  | .restoreExtensionBundle _ => Except.error ""
  | .mapping _ | .syncBase _ | .saveSyncState .. | .profilePreferences => Except.error .timeout

/-- What one device seals as the object `⟨8⟩`. -/
def eighth : ObjectMetadata := ⟨protocolMax, ⟨8⟩, bookmarkNamespace, ⟨1⟩, 1, ⟨0⟩⟩

/-- The record of one object, with its own id and metadata. -/
def recordOf (metadata : ObjectMetadata) (envelope : EncryptedEnvelopeV1 C) : SyncObject C :=
  ⟨metadata.objectId, metadata.nameSpace, metadata.revision, 1, metadata.deviceId,
    metadata.modifiedAt, false, some envelope⟩

theorem decrypt_recordOf (lawful : P.Lawful) {masterKey : MasterKey} (sealing : Sealing P masterKey)
    (size : sealing.nonce.length = 24) :
    decrypt P masterKey (recordOf sealing.metadata sealing.envelope) = .ok sealing.plaintext :=
  decrypt_encrypt lawful size sealing.current sealing.sealed rfl rfl rfl rfl rfl rfl

theorem authentic_recordOf {masterKey : MasterKey} (sealing : Sealing P masterKey) :
    Authentic {sealing} (recordOf sealing.metadata sealing.envelope) := by
  intro envelope held _ _ _ _ _ _ _ _ _
  cases held
  exact ⟨sealing, rfl, rfl⟩

theorem exists_eighth : ∃ sealing : Sealing primitives masterKey, sealing.metadata = eighth ∧
    sealing.plaintext = .text "mine" ∧ sealing.nonce.length = 24 := by
  obtain ⟨envelope, sealed⟩ : ∃ envelope, encrypt primitives masterKey eighth (.text "mine")
      (draw 0).nonce = .ok envelope :=
    (encrypt_isOk Reference.primitives_lawful).mpr
      ⟨by decide +kernel, ⟨Reference.epoch, by decide⟩, by decide +kernel⟩
  exact ⟨⟨eighth, _, _, envelope, rfl, sealed⟩, rfl, rfl, (draw 0).nonceSize⟩

/-- A key holder sealed one object only, and its record is taken for another. -/
theorem another_object_taken : ∃ (sealings : Set (Sealing primitives masterKey))
    (answer : SyncObject Reference.Sealed) (plaintext : Plaintext) (proof : SyncProof),
    Authentic sealings answer ∧
    ((Reference.session 0).core.download primitives bookmarkNamespace ⟨9⟩).run.against
      (answering answer) = .ok (plaintext, proof) ∧
    ¬ ∃ sealing ∈ sealings, sealing.metadata.objectId = ⟨9⟩ := by
  obtain ⟨sealing, eighths, _, size⟩ := exists_eighth
  have opened : decrypt primitives (Reference.session 0).core.masterKey
      (recordOf sealing.metadata sealing.envelope) = .ok sealing.plaintext :=
    decrypt_recordOf Reference.primitives_lawful sealing size
  refine ⟨{sealing}, recordOf sealing.metadata sealing.envelope, sealing.plaintext, _,
    authentic_recordOf sealing, download_answered rfl (by rw [eighths]; rfl) opened, ?_⟩
  rintro ⟨_, rfl, nine⟩
  rw [eighths] at nine
  exact absurd nine (by decide)

/-- The same record is rightly taken for the object it was sealed for. -/
theorem substituted_iff_own_record : ∃ (sealings : Set (Sealing primitives masterKey))
    (answer : SyncObject Reference.Sealed) (plaintext : Plaintext) (proof : SyncProof),
    ((Reference.session 0).core.download primitives bookmarkNamespace ⟨8⟩).run.against
      (answering answer) = .ok (plaintext, proof) ∧
    SealedAs sealings answer bookmarkNamespace ⟨8⟩ plaintext := by
  obtain ⟨sealing, eighths, _, size⟩ := exists_eighth
  have opened : decrypt primitives (Reference.session 0).core.masterKey
      (recordOf sealing.metadata sealing.envelope) = .ok sealing.plaintext :=
    decrypt_recordOf Reference.primitives_lawful sealing size
  have taken : ((Reference.session 0).core.download primitives bookmarkNamespace ⟨8⟩).run.against
      (answering (recordOf sealing.metadata sealing.envelope)) = .ok (sealing.plaintext, _) :=
    download_answered rfl (by rw [eighths]; rfl) opened
  refine ⟨{sealing}, recordOf sealing.metadata sealing.envelope, sealing.plaintext, _, taken, ?_⟩
  refine ((substituted_iff Reference.primitives_lawful primitives_binds (Reference.session 0).core {sealing}
    (answering (recordOf sealing.metadata sealing.envelope)) ⟨8⟩ rfl
    (authentic_recordOf sealing)).1 _ _ _ taken).mpr ?_
  rw [eighths]
  rfl

end

end HeliumSync
