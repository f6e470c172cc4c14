import HeliumSync.CommandRules
import HeliumSync.Devices
import HeliumSync.MergeLaw
import HeliumSync.Reference

/-! Every merge base that a device stores was once on the server: it is what the mapped object held
at the mapped revision. -/
namespace HeliumSync
open Interaction

variable {ι C : Type} [DecidableEq ι]

abbrev Table (C : Type) := ObjectId → Option (ObjectRow C)

/-- The server has the object, in this namespace. -/
def InSpace (table : Table C) (nameSpace : String) (id : ObjectId) : Prop :=
  ∃ row, table id = some row ∧ row.nameSpace = nameSpace

/-- No object is gone or has left its namespace. -/
def KeepsSpaces (before after : Table C) : Prop :=
  ∀ nameSpace id, InSpace before nameSpace id → InSpace after nameSpace id

section
variable (P : Primitives C) (seen : Table C → Prop)

/-- In some table that was seen, the object was at this revision and had such a row. -/
def Held (nameSpace : String) (id : ObjectId) (revision : U64) (content : ObjectRow C → Prop) :
    Prop :=
  ∃ table row, seen table ∧ table id = some row ∧ row.nameSpace = nameSpace ∧
    row.revision.toU64 = revision ∧ content row

/-- The row is this snapshot, encrypted. -/
def HoldsSnapshot (masterKey : MasterKey) (id : ObjectId) (snapshot : BookmarkSnapshotV1)
    (row : ObjectRow C) : Prop :=
  RowOpens P masterKey id row (.json (writeSnapshot snapshot)) ∨
    RowReads P masterKey readSnapshot id row snapshot

/-- What a device stores for a profile: the base is what the object held at the revision. -/
inductive Ancestor (session : Session) (object : ObjectMapping) (base : EncryptedEnvelopeV1 C) :
    LocalKey → Prop
  | bookmarks {snapshot} :
      session.core.openBase P bookmarkNamespace session.profile.directoryName base =
        .ok (.json (writeSnapshot snapshot)) →
      Held seen bookmarkNamespace object.objectId object.revision
        (HoldsSnapshot P session.core.masterKey object.objectId snapshot) →
      Ancestor session object base session.bookmarkKey
  | extensions {manifest} :
      session.core.openBase P extensionManifestNamespace session.profile.directoryName base =
        .ok (.text manifest.archiveSha256) →
      Held seen extensionManifestNamespace object.objectId object.revision
        (fun row => RowReads P session.core.masterKey (readManifest P) object.objectId row manifest) →
      Ancestor session object base session.extensionKey

/-- The invariant: the stored state of every device is real, and its objects still exist. -/
structure Rooted (may : ι → Session → Prop) (w : World ι C) : Prop where
  here : seen w.server.objects
  mapped : ∀ i key object, (w.device i).state.mappings key = some object →
    InSpace w.server.objects key.nameSpace object.objectId
  stored : ∀ i key object base, (w.device i).state.mappings key = some object →
    (w.device i).state.syncBases key = some base →
    ∃ session, may i session ∧ Ancestor P seen session object base key

/-- What devices keep of the server for each other, whatever they do. -/
def ancestryDiscipline (may : ι → Session → Prop) : Discipline (profileSystem P)
    ((running may).within (profileSystem P) fun w => seen w.server.objects) where
  inv := Rooted P seen may
  rely _ w w' := KeepsSpaces w.server.objects w'.server.objects
  guar _ _ _ _ _ w _ w' := KeepsSpaces w.server.objects w'.server.objects
  post _ _ _ _ _ _ := True

end

variable {P : Primitives C} {seen : Table C → Prop} {may : ι → Session → Prop}

omit [DecidableEq ι] in
theorem KeepsSpaces.refl (table : Table C) : KeepsSpaces table table := fun _ _ => id

omit [DecidableEq ι] in
theorem KeepsSpaces.trans {a b c : Table C} (first : KeepsSpaces a b) (later : KeepsSpaces b c) :
    KeepsSpaces a c := fun nameSpace id held => later nameSpace id (first nameSpace id held)

/-- A write in the namespace of the row it replaces. -/
theorem keepsSpaces_write {server : Server C} {id : ObjectId} {row : ObjectRow C}
    (same : ∀ old, server.objects id = some old → row.nameSpace = old.nameSpace) :
    KeepsSpaces server.objects (server.write id row).objects := by
  rintro nameSpace other ⟨old, found, rfl⟩
  by_cases here : other = id
  · subst here
    exact ⟨row, Server.write_objects_self .., same old found⟩
  · exact ⟨old, (Server.write_objects_of_ne server row here).trans found, rfl⟩

omit [DecidableEq ι] in
/-- A step that leaves the local states alone and the objects in their namespaces. -/
theorem Rooted.moved {w w' : World ι C} (rooted : Rooted P seen may w)
    (here : seen w'.server.objects) (keeps : KeepsSpaces w.server.objects w'.server.objects)
    (states : ∀ i, (w'.device i).state = (w.device i).state) : Rooted P seen may w' where
  here := here
  mapped i key object found := by
    rw [states i] at found
    exact keeps _ _ (rooted.mapped i key object found)
  stored i key object base found saved := by
    rw [states i] at found saved
    exact rooted.stored i key object base found saved

/-- An operation that stores no sync state and updates no object keeps the invariant. -/
theorem harmless_step {i : ι} {op : Op C} {choice : Choice} {w w' : World ι C}
    {reply : Reply C op} (harmless : op.Harmless) (rooted : Rooted P seen may w)
    (within : ∀ w' reply, World.exec P i op choice w = some (w', reply) → seen w'.server.objects)
    (ran : World.exec P i op choice w = some (w', reply)) :
    Rooted P seen may w' ∧ KeepsSpaces w.server.objects w'.server.objects := by
  suffices keeps : KeepsSpaces w.server.objects w'.server.objects ∧
      ∀ j, (w'.device j).state = (w.device j).state from
    ⟨rooted.moved (within w' reply ran) keeps.1 keeps.2, keeps.1⟩
  have still (same : w' = w) : KeepsSpaces w.server.objects w'.server.objects ∧
      ∀ j, (w'.device j).state = (w.device j).state := by
    subst same
    exact ⟨.refl _, fun _ => rfl⟩
  have local_change {device : ClientDevice C} (same : w' = w.setDevice i device)
      (state : device.state = (w.device i).state) :
      KeepsSpaces w.server.objects w'.server.objects ∧
        ∀ j, (w'.device j).state = (w.device j).state := by
    subst same
    refine ⟨.refl _, ?_⟩
    intro j
    by_cases here : j = i
    · subst here
      rw [World.setDevice_self, state]
    · rw [World.setDevice_of_ne w device here]
  cases op with
  | putObject id request =>
      rcases World.commit_cases ran with ⟨_, server, accepted, rfl, _⟩ | ⟨same, _⟩
      · refine ⟨?_, fun _ => rfl⟩
        obtain ⟨_, _, _, _, follows, _, _, _, rfl⟩ := Server.putObject_ok accepted
        apply keepsSpaces_write
        intro old found
        rcases follows with ⟨absent, _, _⟩ | ⟨_, _, based, _⟩
        · rw [absent] at found
          cases found
        · rw [show request.baseRevision = none from harmless] at based
          cases based
      · exact still same
  | deleteObject id request =>
      rcases World.commit_cases ran with ⟨_, server, accepted, rfl, _⟩ | ⟨same, _⟩
      · refine ⟨?_, fun _ => rfl⟩
        obtain ⟨row, _, _, _, found, _, _, _, _, rfl⟩ := Server.deleteObject_ok accepted
        apply keepsSpaces_write
        intro old found'
        rw [found] at found'
        cases found'
        rfl
      · exact still same
  | replaceFile content =>
      rcases World.replaceFile_cases ran with ⟨_, _, _, same⟩ | ⟨_, _, _, same | ⟨_, same, _⟩⟩
      · exact local_change same rfl
      · exact still same
      · exact local_change same rfl
  | restoreExtensionBundle archive =>
      rcases World.restoreExtensionBundle_cases ran with same | ⟨_, same⟩
      · exact still same
      · exact local_change same rfl
  | saveSyncState => exact harmless.elim
  | sample | getObject | changes | readFile | createExtensionBundle | mapping | syncBase
  | profilePreferences => exact still (World.exec_observes (by exact trivial) ran)

section
variable {i : ι} {command : DeviceCommand} {start w : World ι C} {journal : Journal C}

theorem ancestry_serves (P : Primitives C) (seen : Table C → Prop) (may : ι → Session → Prop)
    (i : ι) (command : DeviceCommand) (start : World ι C) :
    Serves P i (fun w => w) ((ancestryDiscipline P seen may).contract i command start) where
  exec ran := ran
  still _ same := same
  quiet _ _ := .refl _
  trans first later := first.trans later

/-- A program of harmless operations keeps the invariant and the objects' namespaces. -/
theorem ancestry_harmless {ε α : Type} {x : Client C ε α} (harmless : x.run.Issues Op.Harmless)
    {ok : α → Journal C → World ι C → Prop} {error : ε → Journal C → World ι C → Prop}
    (good : ∀ a journal w', KeepsSpaces w.server.objects w'.server.objects → ok a journal w')
    (bad : ∀ e journal w', KeepsSpaces w.server.objects w'.server.objects → error e journal w') :
    x.Attempts ((ancestryDiscipline P seen may).contract i command start) ok error journal w := by
  refine (Action.attempts_of_issues
    (fun w' : World ι C => KeepsSpaces w.server.objects w'.server.objects)
    (fun before moved => before.trans moved) ?_ harmless (.refl _)).mono good bad
  intro journal op choice w w' reply safe before rooted allowed ran
  obtain ⟨kept, keeps⟩ := harmless_step safe rooted allowed.2 ran
  exact ⟨kept, keeps, before.trans keeps⟩

/-- The rule of an upload: what it returns was held by the object at that revision. -/
theorem ancestry_upload (lawful : P.Lawful) {core : ClientCore} {nameSpace : String}
    {plaintext : Plaintext} {objectId : Option ObjectId} {base : Option U64}
    {ok : SyncProof → Journal C → World ι C → Prop}
    {error : ClientError → Journal C → World ι C → Prop}
    (known : base = none ∨ ∃ id, objectId = some id ∧ InSpace w.server.objects nameSpace id)
    (good : ∀ proof journal w', KeepsSpaces w.server.objects w'.server.objects →
      Held seen nameSpace proof.objectId proof.revision
        (fun row => RowOpens P core.masterKey proof.objectId row plaintext) →
      InSpace w'.server.objects nameSpace proof.objectId → ok proof journal w')
    (bad : ∀ e journal w', KeepsSpaces w.server.objects w'.server.objects → error e journal w') :
    (core.upload P nameSpace plaintext objectId base).Attempts
      ((ancestryDiscipline P seen may).contract i command start) ok error journal w := by
  have serves := ancestry_serves P seen may i command start
  refine serves.upload lawful fun w₀ s moved₀ _ _ => ?_
  have keeps {w₁ w₂ : World ι C} {row : ObjectRow C} {envelope : EncryptedEnvelopeV1 C}
      {choice : Choice} {reply : Except ClientError (SyncObject C)} {journal : Journal C}
      (put : Put P (fun w => w) ((ancestryDiscipline P seen may).contract i command start) core
        nameSpace plaintext base (objectId.getD s.objectId) s journal w₀ w₁ w₂ row envelope choice
        reply) : KeepsSpaces w₁.server.objects w₂.server.objects := by
    rw [put.uploads.written]
    apply keepsSpaces_write
    intro old found
    rcases put.uploads.follows with ⟨absent, _, _⟩ | ⟨_, _, based, _⟩
    · rw [absent] at found
      cases found
    · rcases known with first | ⟨id, same, space⟩
      · rw [first] at based
        cases based
      · subst same
        obtain ⟨row', found', space'⟩ := put.moved nameSpace id (moved₀ nameSpace id space)
        rw [show w₁.server.objects id = some old from found] at found'
        cases found'
        exact put.uploads.space.trans space'.symm
  exact {
    unsealed := fun e _ => bad e _ _ moved₀
    refused := fun w₁ envelope choice e moved _ _ _ _ =>
      ⟨.refl _, bad e _ _ (moved₀.trans moved)⟩
    kept := fun w₁ w₂ row envelope choice reply put =>
      ⟨put.held.moved (put.allowed.2 w₂ reply put.ran) (keeps put)
        fun j => by rw [congrFun put.frame j], keeps put⟩
    lost := fun w₁ w₂ row envelope e put _ =>
      bad e _ _ ((moved₀.trans put.moved).trans (keeps put))
    verified := fun w₁ w₂ row envelope object put w₃ row₃ stored moved₃ rooted found _ opens => by
      have space : InSpace w₃.server.objects nameSpace (objectId.getD s.objectId) :=
        moved₃ _ _ ⟨row, put.uploads.stored, put.uploads.space⟩
      have space₃ : row₃.nameSpace = nameSpace := by
        obtain ⟨row', found', same⟩ := space
        rw [show w₃.server.objects _ = some row₃ from found] at found'
        cases found'
        exact same
      exact good _ _ _ (((moved₀.trans put.moved).trans (keeps put)).trans moved₃)
        ⟨w₃.server.objects, row₃, rooted.here, found, space₃, rfl, opens⟩ space
    unverified := fun w₁ w₂ row envelope object put w₃ choice reply e moved₃ _ _ _ =>
      bad e _ _ (((moved₀.trans put.moved).trans (keeps put)).trans moved₃) }

/-- The rule of storing a sync state. -/
theorem ancestry_persist (lawful : P.Lawful) {session : Session} (mine : may i session)
    {nameSpace : String} {plaintext : Plaintext} {key : LocalKey} {object : ObjectMapping}
    {label : ClientError → String} {ok : Unit → Journal C → World ι C → Prop}
    (space : InSpace w.server.objects key.nameSpace object.objectId)
    (ancestor : ∀ envelope : EncryptedEnvelopeV1 C,
      session.core.openBase P nameSpace session.profile.directoryName envelope = .ok plaintext →
        Ancestor P seen session object envelope key)
    (good : ∀ journal w', KeepsSpaces w.server.objects w'.server.objects → ok () journal w') :
    Action.Attempts ((ancestryDiscipline P seen may).contract i command start) ok
      (fun _ _ _ => True) (do
        let sample ← Action.mapErr ClientError.message HeliumSync.sample
        let encrypted ← Action.mapErr label (.ofExcept (session.core.protectBase P nameSpace
          session.profile.directoryName plaintext sample.nonce))
        Action.mapErr ClientError.message (HeliumSync.saveSyncState key object encrypted))
      journal w := by
  have serves := ancestry_serves P seen may i command start
  refine serves.persist (fun w₀ s w₁ w₂ envelope moved₀ _ moved rooted sealed written => ?_)
    (fun _ _ _ _ _ _ _ _ _ _ _ _ _ => ⟨.refl _, trivial⟩) fun _ _ _ _ _ _ _ => trivial
  subst written
  have opened : session.core.openBase P nameSpace session.profile.directoryName envelope =
      .ok plaintext := decryptLocalState_encryptLocalState lawful s.nonceSize sealed
  refine ⟨⟨rooted.here, ?_, ?_⟩, .refl _, good _ _ (moved₀.trans moved)⟩
  · intro j other object' found
    by_cases here : j = i
    · subst here
      rw [World.setDevice_self] at found
      by_cases same : other = key
      · subst same
        rw [Serves.persisted_mappings_self] at found
        cases found
        exact moved _ _ (moved₀ _ _ space)
      · rw [Serves.persisted_mappings_of_ne same] at found
        exact rooted.mapped j other object' found
    · rw [World.setDevice_of_ne _ _ here] at found
      exact rooted.mapped j other object' found
  · intro j other object' base found saved
    by_cases here : j = i
    · subst here
      rw [World.setDevice_self] at found saved
      by_cases same : other = key
      · subst same
        rw [Serves.persisted_mappings_self] at found
        rw [Serves.persisted_syncBases_self] at saved
        cases found
        cases saved
        exact ⟨session, mine, ancestor envelope opened⟩
      · rw [Serves.persisted_mappings_of_ne same] at found
        rw [Serves.persisted_syncBases_of_ne same] at saved
        exact rooted.stored j other object' base found saved
    · rw [World.setDevice_of_ne _ _ here] at found saved
      exact rooted.stored j other object' base found saved

/-- What was read of an object: the object still is in its namespace, and held it once. -/
structure Anchored (seen : Table C → Prop) (w : World ι C) (nameSpace : String) (proof : SyncProof)
    (content : ObjectRow C → Prop) : Prop where
  space : InSpace w.server.objects nameSpace proof.objectId
  held : Held seen nameSpace proof.objectId proof.revision content

omit [DecidableEq ι] in
theorem Anchored.moved {w w' : World ι C} {nameSpace : String} {proof : SyncProof}
    {content : ObjectRow C → Prop} (anchored : Anchored seen w nameSpace proof content)
    (keeps : KeepsSpaces w.server.objects w'.server.objects) :
    Anchored seen w' nameSpace proof content :=
  ⟨keeps _ _ anchored.space, anchored.held⟩

section
variable {session : Session} {error : String → Journal C → World ι C → Prop}

theorem ancestry_load {nameSpace : String} {id : ObjectId} {core : ClientCore} {α : Type}
    {read : Json → Except String α} {ok : α × SyncProof → Journal C → World ι C → Prop}
    {error : ClientError → Journal C → World ι C → Prop}
    (good : ∀ value proof journal w', KeepsSpaces w.server.objects w'.server.objects →
      Anchored seen w' nameSpace proof
        (fun row => RowReads P core.masterKey read proof.objectId row value) →
      ok (value, proof) journal w')
    (bad : ∀ e journal w', error e journal w') :
    Action.Attempts ((ancestryDiscipline P seen may).contract i command start) ok error (do
      let (plaintext, proof) ← core.download P nameSpace id
      let value ← .ofExcept (ClientCore.parseAs P read plaintext)
      return (value, proof)) journal w :=
  (ancestry_serves P seen may i command start).load
    (fun w₁ row _ value moved rooted found _ space reads =>
      good value _ _ w₁ moved ⟨⟨row, found, space⟩,
        ⟨w₁.server.objects, row, rooted.here, found, space, rfl, reads⟩⟩)
    fun w₁ _ _ e _ _ _ _ => bad e _ w₁

theorem ancestry_remoteManifest
    {ok : Option (ExtensionManifestV1 × SyncProof) → Journal C → World ι C → Prop}
    (found : ∀ manifest proof journal w', KeepsSpaces w.server.objects w'.server.objects →
      Anchored seen w' extensionManifestNamespace proof
        (fun row => RowReads P session.core.masterKey (readManifest P) proof.objectId row manifest) →
      ok (some (manifest, proof)) journal w')
    (absent : ∀ journal w', KeepsSpaces w.server.objects w'.server.objects → ok none journal w')
    (bad : ∀ e journal w', error e journal w') :
    (session.remoteExtensionManifest P).Attempts
      ((ancestryDiscipline P seen may).contract i command start) ok error journal w := by
  refine (ancestry_serves P seen may i command start).remoteExtensionManifest ?_ ?_ ?_
  · intro w₁ w₂ journal' id row manifest moved moved' _ rooted _ _ held space reads
    exact found manifest _ journal' w₂ (moved.trans moved') ⟨⟨row, held, space⟩,
      ⟨w₂.server.objects, row, rooted.here, held, space, rfl, reads⟩⟩
  · intro w₁ w₂ journal' moved moved' _ _ _ _
    exact absent journal' w₂ (moved.trans moved')
  · intro w₁ e journal' _ _ _
    exact bad _ _ _

theorem ancestry_cleanUp {core : ClientCore} {α : Type}
    {uploaded : List ClientCore.UploadedChunk}
    {cause : ClientError} {both : String → String → String} {ok : α → Journal C → World ι C → Prop}
    {error : ClientError → Journal C → World ι C → Prop} (bad : ∀ e journal w', error e journal w') :
    (core.cleanUp uploaded cause both : Client C ClientError α).Attempts
      ((ancestryDiscipline P seen may).contract i command start) ok error journal w := by
  refine Action.attempts_bind.mpr (Action.attempts_outcome.mpr
    (ancestry_harmless (ClientCore.deleteObjects_issues Op.Plain.harmless _) ?_ ?_))
  · intro _ journal₁ w₁ _
    exact bad _ _ _
  · intro e journal₁ w₁ _
    exact bad _ _ _

theorem ancestry_publish (lawful : P.Lawful) {core : ClientCore}
    {descriptor : ExtensionBundleDescriptor} {archive : Bytes} (old : Option (ObjectId × U64))
    (oldManifest : Option ExtensionManifestV1)
    (known : ∀ object, old = some object →
      InSpace w.server.objects extensionManifestNamespace object.1)
    {ok : SyncProof × ExtensionManifestV1 → Journal C → World ι C → Prop}
    {error : ClientError → Journal C → World ι C → Prop}
    (good : ∀ proof manifest journal w', KeepsSpaces w.server.objects w'.server.objects →
      Anchored seen w' extensionManifestNamespace proof
        (fun row => RowReads P core.masterKey (readManifest P) proof.objectId row manifest) →
      ok (proof, manifest) journal w')
    (bad : ∀ e journal w', error e journal w') :
    (core.publish P descriptor archive (old.map Prod.fst) (old.map Prod.snd) oldManifest).Attempts
      ((ancestryDiscipline P seen may).contract i command start) ok error journal w := by
  refine Action.attempts_bind.mpr (ancestry_harmless (ClientCore.uploadChunks_issues Op.Plain.harmless (fun _ _ _ _ => rfl) _ _) ?_
    fun e journal w' _ => bad e journal w')
  intro uploaded journal₁ w₁ keeps₁
  have known₁ : old.map Prod.snd = none ∨ ∃ id, old.map Prod.fst = some id ∧
      InSpace w₁.server.objects extensionManifestNamespace id := by
    cases old with
    | none => exact .inl rfl
    | some object => exact .inr ⟨object.1, rfl, keeps₁ _ _ (known object rfl)⟩
  refine Action.attempts_bind.mpr (Action.attempts_outcome.mpr (ancestry_upload lawful known₁ ?_ ?_))
  · intro proof journal₂ w₂ keeps₂ held space
    refine Action.attempts_bind.mpr (ancestry_harmless (ClientCore.deleteOldChunks_issues Op.Plain.harmless _) ?_
      fun e journal w' _ => bad e journal w')
    intro _ journal₃ w₃ keeps₃
    refine good proof _ journal₃ w₃ ((keeps₁.trans keeps₂).trans keeps₃) ?_
    refine Anchored.moved ⟨space, ?_⟩ keeps₃
    obtain ⟨table, row, here, found, same, revision, opens⟩ := held
    refine ⟨table, row, here, found, same, revision, _, opens, ?_⟩
    simp only [ClientCore.parseAs, Primitives.parseText_json, Except.bind,
      readManifest_writeManifest lawful, Except.mapError]
  · intro e journal₂ w₂ _
    exact ancestry_cleanUp bad

/-- The rule of `save_extension_bundle`. -/
theorem ancestry_saveBundle (lawful : P.Lawful) {core : ClientCore}
    {descriptor : ExtensionBundleDescriptor} {archive : Bytes} (old : Option (ObjectId × U64))
    (known : ∀ object, old = some object →
      InSpace w.server.objects extensionManifestNamespace object.1)
    {ok : SyncProof × ExtensionManifestV1 → Journal C → World ι C → Prop}
    {error : ClientError → Journal C → World ι C → Prop}
    (good : ∀ proof manifest journal w', KeepsSpaces w.server.objects w'.server.objects →
      Anchored seen w' extensionManifestNamespace proof
        (fun row => RowReads P core.masterKey (readManifest P) proof.objectId row manifest) →
      ok (proof, manifest) journal w')
    (bad : ∀ e journal w', error e journal w') :
    (core.saveExtensionBundle P descriptor archive (old.map Prod.fst) (old.map Prod.snd)).Attempts
      ((ancestryDiscipline P seen may).contract i command start) ok error journal w := by
  rw [ClientCore.saveExtensionBundle, if_neg (by simp)]
  split_ifs
  · exact bad _ _ _
  cases old with
  | none => exact ancestry_publish lawful none none known good bad
  | some object =>
      refine Action.attempts_bind.mpr (ancestry_load ?_ bad)
      intro manifest proof journal₁ w₁ keeps₁ _
      exact ancestry_publish lawful (some object) (some manifest)
        (fun other same => keeps₁ _ _ (known other same))
        (fun proof manifest journal₂ w₂ keeps₂ => good proof manifest journal₂ w₂ (keeps₁.trans keeps₂))
        bad

theorem ancestry_persistExtensions (lawful : P.Lawful) (mine : may i session)
    {manifest : ExtensionManifestV1} {proof : SyncProof}
    (anchored : Anchored seen w extensionManifestNamespace proof
      (fun row => RowReads P session.core.masterKey (readManifest P) proof.objectId row manifest)) :
    (session.persistExtensionSyncState P manifest proof).Attempts
      ((ancestryDiscipline P seen may).contract i command start) (fun _ _ _ => True)
      (fun _ _ _ => True) journal w :=
  ancestry_persist lawful mine anchored.space (fun _ opened => .extensions opened anchored.held)
    fun _ _ _ => trivial

/-- The rule of `save_extensions_to_server`. -/
theorem ancestry_saveExtensions (lawful : P.Lawful) (mine : may i session) :
    (session.saveExtensionsToServer P).Attempts
      ((ancestryDiscipline P seen may).contract i command start) (fun _ _ _ => True)
      (fun _ _ _ => True) journal w := by
  refine Action.attempts_bind.mpr (ancestry_harmless (Session.captureExtensions_issues Op.Plain.harmless) ?_
    fun _ _ _ _ => trivial)
  rintro ⟨descriptor, archive⟩ journal₁ w₁ _
  have save (remote : Option (ExtensionManifestV1 × SyncProof)) (journal : Journal C)
      (w : World ι C) (known : ∀ object, remote = some object →
        InSpace w.server.objects extensionManifestNamespace object.2.objectId) :
      Action.Attempts ((ancestryDiscipline P seen may).contract i command start)
        (fun _ _ _ => True) (fun _ _ _ => True) (do
          let saved ← Action.mapErr ClientError.message
            (session.core.saveExtensionBundle P descriptor archive
              (remote.map (·.2.objectId)) (remote.map (·.2.revision)))
          session.persistExtensionSyncState P saved.2 saved.1
          return (⟨saved.2.stats, none, "Uploaded installed extensions and extension data."⟩ :
            ExtensionSyncOutcome)) journal w := by
    have persists (proof : SyncProof) (manifest : ExtensionManifestV1) (journal : Journal C)
        (w' : World ι C) (anchored : Anchored seen w' extensionManifestNamespace proof
          (fun row => RowReads P session.core.masterKey (readManifest P) proof.objectId row manifest)) :
        Action.Attempts ((ancestryDiscipline P seen may).contract i command start)
          (fun _ _ _ => True) (fun _ _ _ => True) (do
            session.persistExtensionSyncState P manifest proof
            return (⟨manifest.stats, none, "Uploaded installed extensions and extension data."⟩ :
              ExtensionSyncOutcome)) journal w' :=
      Action.attempts_bind.mpr ((ancestry_persistExtensions lawful mine anchored).mono
        (fun _ _ _ _ => trivial) fun _ _ _ _ => trivial)
    cases remote with
    | none =>
        exact Action.attempts_bind.mpr (Action.attempts_mapErr.mpr (ancestry_saveBundle lawful none
          nofun (fun proof manifest journal w' _ => persists proof manifest journal w')
          fun _ _ _ => trivial))
    | some object =>
        exact Action.attempts_bind.mpr (Action.attempts_mapErr.mpr (ancestry_saveBundle lawful
          (some (object.2.objectId, object.2.revision))
          (fun other same => by cases same; exact known object rfl)
          (fun proof manifest journal w' _ => persists proof manifest journal w')
          fun _ _ _ => trivial))
  refine Action.attempts_bind.mpr (ancestry_remoteManifest ?_ ?_ fun _ _ _ => trivial)
  · intro manifest proof journal₂ w₂ _ anchored
    exact save (some (manifest, proof)) journal₂ w₂ fun object same => by
      cases same
      exact anchored.space
  · intro journal₂ w₂ _
    exact save none journal₂ w₂ nofun

/-- The rule of `load_extensions_from_server`. -/
theorem ancestry_loadExtensions (lawful : P.Lawful) (mine : may i session) :
    (session.loadExtensionsFromServer P).Attempts
      ((ancestryDiscipline P seen may).contract i command start) (fun _ _ _ => True)
      (fun _ _ _ => True) journal w := by
  refine Action.attempts_bind.mpr (ancestry_remoteManifest ?_ (fun _ _ _ => trivial)
    fun _ _ _ => trivial)
  intro _ found journal₁ w₁ _ _
  refine Action.attempts_bind.mpr (Action.attempts_mapErr.mpr (Action.attempts_bind.mpr
    (ancestry_load ?_ fun _ _ _ => trivial)))
  intro manifest proof journal₂ w₂ _ anchored
  refine Action.attempts_bind.mpr (ancestry_harmless (ClientCore.downloadChunks_issues Op.Plain.harmless _ _) ?_
    fun _ _ _ _ => trivial)
  intro archive journal₃ w₃ keeps₃
  dsimp only
  split_ifs
  · exact trivial
  refine Action.attempts_pure.mpr (Action.attempts_bind.mpr (ancestry_harmless
    (x := restoreExtensionBundle archive) ⟨trivial, fun _ => trivial⟩ ?_ fun _ _ _ _ => trivial))
  rintro ⟨backupPath, stats⟩ journal₄ w₄ keeps₄
  refine Action.attempts_bind.mpr ((ancestry_persistExtensions lawful mine
    (anchored.moved (keeps₃.trans keeps₄))).mono ?_ fun _ _ _ _ => trivial)
  exact fun _ _ _ _ => trivial

/-- The rule of `sync_extensions_with_server`. -/
theorem ancestry_syncExtensions (lawful : P.Lawful) (mine : may i session) :
    (session.syncExtensionsWithServer P).Attempts
      ((ancestryDiscipline P seen may).contract i command start) (fun _ _ _ => True)
      (fun _ _ _ => True) journal w := by
  refine Action.attempts_bind.mpr (ancestry_harmless (Session.captureExtensions_issues Op.Plain.harmless) ?_
    fun _ _ _ _ => trivial)
  rintro ⟨descriptor, archive⟩ journal₁ w₁ _
  refine Action.attempts_bind.mpr (ancestry_remoteManifest ?_ ?_ fun _ _ _ => trivial)
  · intro remote proof journal₂ w₂ _ anchored₂
    refine Action.attempts_bind.mpr (ancestry_harmless (Session.extensionBaseHash_issues Op.Plain.harmless) ?_
      fun _ _ _ _ => trivial)
    intro base journal₃ w₃ keeps₃
    have keep (journal : Journal C) (outcome : ExtensionSyncOutcome) :
        Action.Attempts ((ancestryDiscipline P seen may).contract i command start)
          (fun _ _ _ => True) (fun _ _ _ => True) (do
            session.persistExtensionSyncState P remote proof
            return outcome) journal w₃ :=
      Action.attempts_bind.mpr ((ancestry_persistExtensions lawful mine
        (anchored₂.moved keeps₃)).mono (fun _ _ _ _ => trivial) fun _ _ _ _ => trivial)
    dsimp only
    split_ifs
    · exact keep journal₃ _
    · split
      · exact keep journal₃ _
      · exact keep journal₃ _
      · exact ancestry_loadExtensions lawful mine
      · exact ancestry_loadExtensions lawful mine
      · exact ancestry_saveExtensions lawful mine
      · exact trivial
  · intro journal₂ w₂ _
    refine Action.attempts_bind.mpr (Action.attempts_mapErr.mpr (ancestry_saveBundle lawful none nofun
      ?_ fun _ _ _ => trivial))
    intro proof manifest journal₃ w₃ _ anchored
    exact Action.attempts_bind.mpr ((ancestry_persistExtensions lawful mine anchored).mono
      (fun _ _ _ _ => trivial) fun _ _ _ _ => trivial)

/-- Storing a snapshot with what was read of the object, and the end of the command after it. -/
theorem ancestry_finish {α : Type} (lawful : P.Lawful) (mine : may i session)
    {snapshot : BookmarkSnapshotV1} {proof : SyncProof} {feedback : String → α}
    (anchored : Anchored seen w bookmarkNamespace proof
      (HoldsSnapshot P session.core.masterKey proof.objectId snapshot)) :
    Action.Attempts ((ancestryDiscipline P seen may).contract i command start)
      (fun _ _ _ => True) (fun _ _ _ => True) (do
        session.persistSyncState P snapshot proof
        let name ← session.profileName
        return feedback name) journal w := by
  refine Action.attempts_bind.mpr ((ancestry_persist lawful mine anchored.space
    (fun _ opened => .bookmarks opened anchored.held)
    (fun journal' w' _ => ?_)).mono (fun _ _ _ safe => safe) fun _ _ _ _ => trivial)
  exact Action.attempts_bind.mpr (ancestry_harmless (Session.profileName_issues Op.Plain.harmless)
    (fun _ _ _ _ => trivial) fun _ _ _ _ => trivial)

/-- The rule of `save_bookmark_snapshot`. -/
theorem ancestry_saveSnapshot (lawful : P.Lawful) {core : ClientCore}
    {snapshot : BookmarkSnapshotV1} (object : Option (ObjectId × U64))
    (known : ∀ pair, object = some pair → InSpace w.server.objects bookmarkNamespace pair.1)
    {ok : SyncProof → Journal C → World ι C → Prop}
    (good : ∀ proof journal w', KeepsSpaces w.server.objects w'.server.objects →
      Anchored seen w' bookmarkNamespace proof
        (HoldsSnapshot P core.masterKey proof.objectId snapshot) → ok proof journal w') :
    (core.saveBookmarkSnapshot P snapshot (object.map Prod.fst) (object.map Prod.snd)).Attempts
      ((ancestryDiscipline P seen may).contract i command start) ok (fun _ _ _ => True)
      journal w := by
  rw [ClientCore.saveBookmarkSnapshot, if_neg (by simp)]
  have known' : object.map Prod.snd = none ∨ ∃ id, object.map Prod.fst = some id ∧
      InSpace w.server.objects bookmarkNamespace id := by
    cases object with
    | none => exact .inl rfl
    | some pair => exact .inr ⟨pair.1, rfl, known pair rfl⟩
  refine ancestry_upload lawful known' ?_ fun _ _ _ _ => trivial
  intro proof journal₁ w₁ keeps held space
  refine good proof journal₁ w₁ keeps ⟨space, ?_⟩
  obtain ⟨table, row, here, found, same, revision, opens⟩ := held
  exact ⟨table, row, here, found, same, revision, .inl opens⟩

/-- The rule of the upload of a sync. -/
theorem ancestry_uploadMerged (lawful : P.Lawful) {remote merged : BookmarkSnapshotV1}
    {loaded : SyncProof} (anchored : Anchored seen w bookmarkNamespace loaded
      (HoldsSnapshot P session.core.masterKey loaded.objectId remote))
    {ok : SyncProof → Journal C → World ι C → Prop}
    (good : ∀ proof journal w', Anchored seen w' bookmarkNamespace proof
      (HoldsSnapshot P session.core.masterKey proof.objectId merged) → ok proof journal w') :
    (session.uploadMerged P remote loaded merged).Attempts
      ((ancestryDiscipline P seen may).contract i command start) ok (fun _ _ _ => True)
      journal w := by
  unfold Session.uploadMerged
  split_ifs with changed
  · refine Action.attempts_mapErr.mpr (ancestry_saveSnapshot lawful
      (some (loaded.objectId, loaded.revision)) ?_ ?_)
    · intro pair same
      cases same
      exact anchored.space
    · intro proof journal₁ w₁ _
      exact good proof journal₁ w₁
  · rw [not_not.mp changed] at good
    exact good loaded journal w anchored

/-- The rule of the bookmark part of a sync. -/
theorem ancestry_syncBookmarks (lawful : P.Lawful) (mine : may i session)
    (extensions : ExtensionSyncOutcome) :
    (session.syncBookmarks P extensions).Attempts
      ((ancestryDiscipline P seen may).contract i command start) (fun _ _ _ => True)
      (fun _ _ _ => True) journal w := by
  have serves := ancestry_serves P seen may i command start
  refine Action.attempts_bind.mpr (Action.attempts_mapErr.mpr (ancestry_harmless
    (readBookmarks_issues Op.Plain.harmless _) ?_ fun _ _ _ _ => trivial))
  intro loc journal₁ w₁ _
  refine Action.attempts_bind.mpr (serves.remoteBookmarks ?_ ?_ fun _ _ _ _ _ _ => trivial)
  · intro w₂ w₃ journal₃ id row remote _ _ _ rooted _ _ found space reads
    refine Action.attempts_bind.mpr (ancestry_harmless (Session.bookmarkBase_issues Op.Plain.harmless) ?_
      fun _ _ _ _ => trivial)
    intro base journal₄ w₄ keeps₄
    refine Action.attempts_bind.mpr (Action.attempts_mapErr.mpr (Action.attempts_ofExcept.mpr
      ⟨?_, fun _ _ => trivial⟩))
    intro merged _
    have anchored : Anchored seen w₃ bookmarkNamespace
        ⟨id, bookmarkNamespace, row.revision.toU64, row.cursor.toU64, true⟩
        (HoldsSnapshot P session.core.masterKey id remote) :=
      ⟨⟨row, found, space⟩, ⟨w₃.server.objects, row, rooted.here, found, space, rfl, .inr reads⟩⟩
    refine Action.attempts_bind.mpr (ancestry_uploadMerged lawful (anchored.moved keeps₄) ?_)
    intro proof journal₅ w₅ anchored₅
    refine Action.attempts_bind.mpr (ancestry_harmless (Session.restoreMerged_issues (fun _ => trivial) _ _) ?_
      fun _ _ _ _ => trivial)
    intro backupPath journal₆ w₆ keeps₆
    exact ancestry_finish lawful mine (anchored₅.moved keeps₆)
  · intro w₂ w₃ journal₃ _ _ _ _ _ _
    refine Action.attempts_bind.mpr (Action.attempts_mapErr.mpr (ancestry_saveSnapshot lawful none
      nofun ?_))
    intro proof journal₄ w₄ _ anchored
    exact ancestry_finish lawful mine anchored

/-- The rule of `save_profile_to_server`. -/
theorem ancestry_saveProfile (lawful : P.Lawful) (mine : may i session) :
    (session.saveProfileToServer P).Attempts
      ((ancestryDiscipline P seen may).contract i command start) (fun _ _ _ => True)
      (fun _ _ _ => True) journal w := by
  have serves := ancestry_serves P seen may i command start
  refine Action.attempts_bind.mpr (Action.attempts_mapErr.mpr
    ((ancestry_saveExtensions lawful mine).mono ?_ fun _ _ _ _ => trivial))
  intro extensions journal₁ w₁ _
  refine Action.attempts_bind.mpr (Action.attempts_mapErr.mpr (serves.mapping ?_
    fun _ _ _ _ _ => trivial))
  intro w₂ _ rooted _
  have known (object : ObjectMapping)
      (stored : (w₂.device i).state.mappings session.bookmarkKey = some object) :
      InSpace w₂.server.objects bookmarkNamespace object.objectId := rooted.mapped i _ object stored
  refine Action.attempts_bind.mpr (Action.attempts_mapErr.mpr (ancestry_harmless
    (readBookmarks_issues Op.Plain.harmless _) ?_ fun _ _ _ _ => trivial))
  intro snapshot journal₃ w₃ keeps₃
  cases stored : (w₂.device i).state.mappings session.bookmarkKey with
  | none =>
      refine Action.attempts_bind.mpr (Action.attempts_mapErr.mpr (ancestry_saveSnapshot lawful none
        nofun ?_))
      intro proof journal₄ w₄ _ anchored
      exact ancestry_finish lawful mine anchored
  | some object =>
      refine Action.attempts_bind.mpr (Action.attempts_mapErr.mpr (ancestry_saveSnapshot lawful
        (some (object.objectId, object.revision)) ?_ ?_))
      · intro pair same
        cases same
        exact keeps₃ _ _ (known object stored)
      · intro proof journal₄ w₄ _ anchored
        exact ancestry_finish lawful mine anchored

/-- The rule of `load_profile_from_server`. -/
theorem ancestry_loadProfile (lawful : P.Lawful) (mine : may i session) :
    (session.loadProfileFromServer P).Attempts
      ((ancestryDiscipline P seen may).contract i command start) (fun _ _ _ => True)
      (fun _ _ _ => True) journal w := by
  have serves := ancestry_serves P seen may i command start
  refine Action.attempts_bind.mpr (Action.attempts_mapErr.mpr
    ((ancestry_loadExtensions lawful mine).mono ?_ fun _ _ _ _ => trivial))
  intro extensions journal₁ w₁ _
  refine Action.attempts_bind.mpr (Action.attempts_mapErr.mpr (serves.mapping ?_
    fun _ _ _ _ _ => trivial))
  intro w₂ _ _ _
  cases (w₂.device i).state.mappings session.bookmarkKey with
  | none => exact trivial
  | some object =>
      refine Action.attempts_bind.mpr (Action.attempts_mapErr.mpr (ancestry_load ?_
        fun _ _ _ => trivial))
      intro snapshot proof journal₃ w₃ _ anchored
      have held : Anchored seen w₃ bookmarkNamespace proof
          (HoldsSnapshot P session.core.masterKey proof.objectId snapshot) := by
        obtain ⟨space, table, row, here, found, same, revision, reads⟩ := anchored
        exact ⟨space, table, row, here, found, same, revision, .inr reads⟩
      refine Action.attempts_bind.mpr (Action.attempts_mapErr.mpr (ancestry_harmless
        (restoreBookmarks_issues (fun _ => trivial) _ _) ?_ fun _ _ _ _ => trivial))
      intro restored journal₄ w₄ keeps₄
      exact ancestry_finish lawful mine (held.moved keeps₄)

/-- The rule of a whole command. -/
theorem ancestry_perform (lawful : P.Lawful) (mine : may i session) (kind : ProfileCommand) :
    (session.perform P kind).Attempts
      ((ancestryDiscipline P seen may).contract i command start) (fun _ _ _ => True)
      (fun _ _ _ => True) journal w := by
  cases kind with
  | sync =>
      refine Action.attempts_bind.mpr (Action.attempts_mapErr.mpr
        ((ancestry_syncExtensions lawful mine).mono ?_ fun _ _ _ _ => trivial))
      intro extensions journal₁ w₁ _
      exact ancestry_syncBookmarks lawful mine extensions
  | save => exact ancestry_saveProfile lawful mine
  | load => exact ancestry_loadProfile lawful mine

end

end

theorem ancestry_holds (lawful : P.Lawful) : (ancestryDiscipline P seen may).Holds where
  refl _ _ := .refl _
  trans _ _ _ _ first later := first.trans later
  others _ _ _ owed _ _ := owed
  edits {i choice w w'} rooted edited := by
    obtain ⟨objects, _, _, _⟩ := World.edit_tables edited
    have keeps : KeepsSpaces w.server.objects w'.server.objects := by rw [objects]; exact .refl _
    refine ⟨rooted.moved ?_ keeps (World.edit_state edited), fun _ _ => keeps⟩
    rw [objects]
    exact rooted.here
  programs _ mine := Prog.ensures_of_attempts ((ancestry_perform lawful mine _).mono
    (fun _ _ _ _ => trivial) fun _ _ _ _ => trivial)

omit [DecidableEq ι] in
theorem rooted_unsynced {w : World ι C} (unsynced : Unsynced w) (here : seen w.server.objects) :
    Rooted P seen may w where
  here := here
  mapped i key object found := by
    rw [(unsynced i).1] at found
    cases found
  stored i key object base found _ := by
    rw [(unsynced i).1] at found
    cases found

/-- What the run of devices with one client each has stored under a key. -/
theorem ancestor_of_run (lawful : P.Lawful) {core : ι → ClientCore} {past : List (World ι C)}
    {cfg : Config ι DeviceCommand (Except String SyncFeedback) (World ι C) (Op C) (Reply C)}
    (run : (profileSystem P).Run (running fun i s => s.core = core i) Unsynced past cfg) {i : ι}
    {key : LocalKey} {object : ObjectMapping} {base : EncryptedEnvelopeV1 C}
    (mapped : (cfg.world.device i).state.mappings key = some object)
    (stored : (cfg.world.device i).state.syncBases key = some base) :
    ∃ session : Session, session.core = core i ∧
      Ancestor P (fun table => ∃ w ∈ past, w.server.objects = table) session object base key := by
  let seen (table : Table C) : Prop := ∃ w ∈ past, w.server.objects = table
  have reached : (profileSystem P).Reachable ((running fun i s => s.core = core i).within
      (profileSystem P) fun w => seen w.server.objects)
      (fun w => Unsynced w ∧ seen w.server.objects) cfg :=
    run.within fun w member => ⟨w, member, rfl⟩
  have holds : (ancestryDiscipline P seen fun i s => s.core = core i).Holds := ancestry_holds lawful
  have rooted := (holds.reachable (fun w start => rooted_unsynced start.1 start.2) reached).1
  exact rooted.stored i key object base mapped stored

/-- In every state that devices reach, whatever fails and in whatever order their requests
interleave, what a device has stored as a profile's merge base is what the mapped object held at the
mapped revision in some earlier state of the server. -/
theorem stored_bases_are_ancestors (lawful : P.Lawful) (core : ι → ClientCore)
    {past : List (World ι C)}
    {cfg : Config ι DeviceCommand (Except String SyncFeedback) (World ι C) (Op C) (Reply C)}
    (run : (profileSystem P).Run (running fun i s => s.core = core i) Unsynced past cfg) (i : ι)
    (serverId profileDirectory : String) :
    (∀ object base,
      (cfg.world.device i).state.mappings ⟨serverId, bookmarkNamespace, profileDirectory⟩ =
        some object →
      (cfg.world.device i).state.syncBases ⟨serverId, bookmarkNamespace, profileDirectory⟩ =
        some base →
      ∃ snapshot w row, (core i).openBase P bookmarkNamespace profileDirectory base =
          .ok (.json (writeSnapshot snapshot)) ∧
        w ∈ past ∧ w.server.objects object.objectId = some row ∧
        row.nameSpace = bookmarkNamespace ∧ row.revision.toU64 = object.revision ∧
        HoldsSnapshot P (core i).masterKey object.objectId snapshot row) ∧
    ∀ object base,
      (cfg.world.device i).state.mappings
        ⟨serverId, extensionManifestNamespace, profileDirectory⟩ = some object →
      (cfg.world.device i).state.syncBases
        ⟨serverId, extensionManifestNamespace, profileDirectory⟩ = some base →
      ∃ manifest w row, (core i).openBase P extensionManifestNamespace profileDirectory base =
          .ok (.text manifest.archiveSha256) ∧
        w ∈ past ∧ w.server.objects object.objectId = some row ∧
        row.nameSpace = extensionManifestNamespace ∧ row.revision.toU64 = object.revision ∧
        RowReads P (core i).masterKey (readManifest P) object.objectId row manifest := by
  have apart : bookmarkNamespace ≠ extensionManifestNamespace := by decide
  constructor
  · intro object base mapped stored
    obtain ⟨session, own, ancestor⟩ := ancestor_of_run lawful run mapped stored
    generalize same : (⟨serverId, bookmarkNamespace, profileDirectory⟩ : LocalKey) = key at ancestor
    cases ancestor with
    | @bookmarks snapshot opened held =>
        have directory : profileDirectory = session.profile.directoryName :=
          congrArg LocalKey.localKey same
        obtain ⟨_, row, ⟨w, member, rfl⟩, found, space, revision, content⟩ := held
        rw [← own, directory]
        exact ⟨snapshot, w, row, opened, member, found, space, revision, content⟩
    | extensions => exact absurd (congrArg LocalKey.nameSpace same) apart
  · intro object base mapped stored
    obtain ⟨session, own, ancestor⟩ := ancestor_of_run lawful run mapped stored
    generalize same :
      (⟨serverId, extensionManifestNamespace, profileDirectory⟩ : LocalKey) = key at ancestor
    cases ancestor with
    | bookmarks => exact absurd (congrArg LocalKey.nameSpace same).symm apart
    | @extensions manifest opened held =>
        have directory : profileDirectory = session.profile.directoryName :=
          congrArg LocalKey.localKey same
        obtain ⟨_, row, ⟨w, member, rfl⟩, found, space, revision, content⟩ := held
        rw [← own, directory]
        exact ⟨manifest, w, row, opened, member, found, space, revision, content⟩

section
open Reference (primitives primitives_lawful server session draw unchanged)

/-- Two devices that have not synchronized yet, with a `Bookmarks` file each. -/
def unsyncedWorld : World (Fin 2) Reference.Sealed where
  server
  device _ := Reference.device (chromiumBookmarksJson (barSnapshot [bookmark "2" "added"])) none

/-- The first sync of the first device, without faults. -/
def firstSyncSchedule : List (Event (Fin 2) DeviceCommand Choice) :=
  [.begin 0 ⟨session 0, .sync⟩, .act 0 .proceed, .act 0 .proceed, .act 0 .proceed,
    .act 0 (.sampled (draw 1)), .act 0 .proceed, .act 0 .proceed, .act 0 (.sampled (draw 2)),
    .act 0 .proceed, .act 0 unchanged, .act 0 .proceed, .act 0 .proceed, .act 0 (.sampled (draw 3)),
    .act 0 .proceed, .act 0 .proceed, .act 0 (.sampled (draw 4)), .act 0 .proceed]

theorem unsyncedWorld_unsynced : Unsynced unsyncedWorld := by
  intro i
  constructor
  · funext key
    exact ite_self none
  · rfl

theorem firstSyncSchedule_meets :
    ∀ event ∈ firstSyncSchedule, ∀ cfg : Config (Fin 2) DeviceCommand
      (Except String SyncFeedback) (World (Fin 2) Reference.Sealed) (Op Reference.Sealed)
      (Reply Reference.Sealed), (running fun i s => s.core = (session i).core).Meets cfg event := by
  intro event member cfg
  simp only [firstSyncSchedule, List.mem_cons, List.not_mem_nil, or_false] at member
  rcases member with rfl | rfl | rfl | rfl | rfl | rfl | rfl | rfl | rfl | rfl | rfl | rfl | rfl |
    rfl | rfl | rfl | rfl
  case inl => rfl
  all_goals exact fun _ _ _ _ _ _ => trivial

theorem firstSyncSchedule_maps :
    ∃ cfg, (profileSystem primitives).play firstSyncSchedule ⟨unsyncedWorld, fun _ => none⟩ =
        some cfg ∧
      (∃ object, (cfg.world.device 0).state.mappings (session 0).bookmarkKey = some object) ∧
      ∃ base, (cfg.world.device 0).state.syncBases (session 0).bookmarkKey = some base := by
  have played : (((profileSystem primitives).play firstSyncSchedule
      ⟨unsyncedWorld, fun _ => none⟩).any fun cfg =>
        ((cfg.world.device 0).state.mappings (session 0).bookmarkKey).isSome &&
        ((cfg.world.device 0).state.syncBases (session 0).bookmarkKey).isSome) = true := by
    decide +kernel
  obtain ⟨cfg, ran, both⟩ := (Option.any_eq_true _ _).mp played
  obtain ⟨mapped, stored⟩ := Bool.and_eq_true_iff.mp both
  exact ⟨cfg, ran, Option.isSome_iff_exists.mp mapped, Option.isSome_iff_exists.mp stored⟩

theorem stored_bases_are_ancestors_first_sync :
    ∃ (past : List (World (Fin 2) Reference.Sealed))
      (cfg : Config (Fin 2) DeviceCommand (Except String SyncFeedback)
        (World (Fin 2) Reference.Sealed) (Op Reference.Sealed) (Reply Reference.Sealed))
      (object : ObjectMapping) (base : EncryptedEnvelopeV1 Reference.Sealed)
      (snapshot : BookmarkSnapshotV1) (w : World (Fin 2) Reference.Sealed)
      (row : ObjectRow Reference.Sealed),
      (profileSystem primitives).Run (running fun i s => s.core = (session i).core) Unsynced past cfg ∧
      (cfg.world.device 0).state.mappings (session 0).bookmarkKey = some object ∧
      (session 0).core.openBase primitives bookmarkNamespace (session 0).profile.directoryName base =
        .ok (.json (writeSnapshot snapshot)) ∧
      w ∈ past ∧ w.server.objects object.objectId = some row ∧
      row.revision.toU64 = object.revision := by
  obtain ⟨cfg, ran, ⟨object, mapped⟩, base, stored⟩ := firstSyncSchedule_maps
  obtain ⟨past, run⟩ := System.Run.play (.init unsyncedWorld_unsynced) firstSyncSchedule
    firstSyncSchedule_meets ran
  obtain ⟨snapshot, w, row, opened, member, found, _, revision, _⟩ :=
    (stored_bases_are_ancestors primitives_lawful (fun i => (session i).core) run 0 _ _).1 object base
      mapped stored
  exact ⟨past, cfg, object, base, snapshot, w, row, run, mapped, opened, member, found, revision⟩

end

end HeliumSync
