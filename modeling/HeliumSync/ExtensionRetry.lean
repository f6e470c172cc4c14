import HeliumSync.ExactDiscovery
import HeliumSync.SoloSync

/-! What a sync of the extensions does after one that published its archive and then failed. -/
namespace HeliumSync
open Interaction

/-- The base hash that a stored envelope holds. -/
def Session.openedHash {C : Type} (P : Primitives C) (session : Session) :
    Option (EncryptedEnvelopeV1 C) → Except String (Option String)
  | none => .ok none
  | some encrypted => do
      let plaintext ← (session.core.openBase P extensionManifestNamespace
        session.profile.directoryName encrypted).mapError fun error =>
          s!"Stored extension sync base: {error.message}"
      return some (← plainText P plaintext)

section
variable {ι C : Type} [DecidableEq ι] {P : Primitives C} {i : ι} {session : Session}

/-- A choice without a fault. -/
def Calm : Op C → Choice → World ι C → Prop
  | .sample, .sampled _, _ | .replaceFile _, .backedUp _, _
  | .restoreExtensionBundle _, .installed .., _ => True
  | .readFile, choice, _ => choice.Steady
  | .sample, _, _ | .replaceFile _, _, _ | .restoreExtensionBundle _, _, _ => False
  | _, choice, _ => choice = .proceed

section
variable (P) (i) (session)

/-- The hash of what is installed on the device. -/
def capturedHash (w : World ι C) : String := P.sha256 (w.device i).extensions.1

/-- A sync without faults reports that nothing is to be done, and stores the hash as its base. -/
def Recovers (w : World ι C) : Prop :=
  ∀ outcome w', (session.syncExtensionsWithServer P).run.Runs (World.exec P i) Calm w outcome w' →
    ∃ remote base, outcome = .ok (Session.upToDate remote) ∧
      remote.archiveSha256 = capturedHash P i w ∧
      (w'.device i).state.syncBases session.extensionKey = some base ∧
      session.openedHash P (some base) = .ok (some (capturedHash P i w))

/-- No base is stored, or the stored one is what is installed already; and it can be stored. -/
structure Unstale (w : World ι C) : Prop where
  base : session.openedHash P ((w.device i).state.syncBases session.extensionKey) = .ok none ∨
    session.openedHash P ((w.device i).state.syncBases session.extensionKey) =
      .ok (some (capturedHash P i w))
  sealable : Sealable P s!"{extensionManifestNamespace}:{session.profile.directoryName}"
    (.text (capturedHash P i w))

end

section
variable {w : World ι C} {journal : Journal C}

omit [DecidableEq ι] in
theorem calm_faultless : FaultMeans (Calm : Op C → Choice → World ι C → Prop) False := by
  intro op choice w seeks calm fault
  cases op with
  | getObject | changes | mapping | syncBase => exact fault calm
  | _ => exact seeks.elim

/-- The rule of reading the base hash back, for a client alone. -/
theorem baseHash_alone {allow : Op C → Choice → World ι C → Prop} {F : Prop}
    (means : FaultMeans allow F) {ok : Option String → Journal C → World ι C → Prop}
    {error : String → Journal C → World ι C → Prop}
    (good : ∀ base journal', session.openedHash P
      ((w.device i).state.syncBases session.extensionKey) = .ok base → ok base journal' w)
    (bad : ∀ e journal', F ∨ session.openedHash P
      ((w.device i).state.syncBases session.extensionKey) = .error e → error e journal' w) :
    (session.extensionBaseHash P).Attempts (.alone (World.exec P i) allow) ok error journal w := by
  refine Action.attempts_bind.mpr (Action.attempts_mapErr.mpr (serves_alone.syncBase
    (fun w₁ same _ _ => ?_) fun w₁ details same _ allowed => ?_))
  · cases same
    cases stored : (w.device i).state.syncBases session.extensionKey with
    | none =>
        rw [stored] at good
        exact good none _ rfl
    | some encrypted =>
        rw [stored] at good bad
        dsimp only [Session.openedHash] at good bad
        refine Action.attempts_bind.mpr (Action.attempts_mapErr.mpr (Action.attempts_ofExcept.mpr
          ⟨fun plaintext opened => ?_, fun e failed => ?_⟩))
        · rw [opened] at good bad
          refine Action.attempts_bind.mpr (Action.attempts_ofExcept.mpr
            ⟨fun hash read => ?_, fun e failed => ?_⟩)
          · refine good (some hash) _ ?_
            change (Session.plainText P plaintext).bind _ = _
            rw [read]
            rfl
          · refine bad e _ (.inr ?_)
            change (Session.plainText P plaintext).bind _ = _
            rw [failed]
            rfl
        · refine bad _ _ (.inr ?_)
          rw [failed]
          rfl
  · cases same
    exact bad _ _ (.inl (means (.syncBase session.extensionKey) _ w trivial allowed nofun))

/-- The rule of storing the base, for a client alone without faults. -/
theorem persistHash_calm (lawful : P.Lawful) {manifest : ExtensionManifestV1} {proof : SyncProof}
    (small : proof.revision.val < 9223372036854775808)
    {ok : Unit → Journal C → World ι C → Prop} {error : String → Journal C → World ι C → Prop}
    (saved : Sealable P s!"{extensionManifestNamespace}:{session.profile.directoryName}"
      (.text manifest.archiveSha256) → ∀ base w' journal',
      (w'.device i).state.syncBases session.extensionKey = some base →
      session.openedHash P (some base) = .ok (some manifest.archiveSha256) → ok () journal' w')
    (failed : ¬ Sealable P s!"{extensionManifestNamespace}:{session.profile.directoryName}"
      (.text manifest.archiveSha256) → ∀ e journal', error e journal' w) :
    (session.persistExtensionSyncState P manifest proof).Attempts (.alone (World.exec P i) Calm)
      ok error journal w := by
  refine serves_alone.persist (fun w₀ s w₁ w₂ envelope same _ same' _ sealed written => ?_)
    (fun w₀ s w₁ envelope choice e same _ same' _ _ allowed range => ?_)
    fun w₀ s e same _ _ unsealed => ?_
  · cases same
    cases same'
    have opened : session.core.openBase P extensionManifestNamespace session.profile.directoryName
        envelope = .ok (.text manifest.archiveSha256) :=
      decryptLocalState_encryptLocalState lawful s.nonceSize sealed
    refine ⟨trivial, trivial, saved ?_ envelope w₂ _ ?_ ?_⟩
    · exact (encryptLocalState_isOk lawful).mp ⟨envelope, sealed⟩
    · rw [written, World.setDevice_self]
      exact Serves.persisted_syncBases_self _ _
    · rw [Session.openedHash, opened]
      rfl
  · exact absurd small (range allowed)
  · cases same
    refine failed ?_ _ _
    intro sealable
    obtain ⟨envelope, sealed⟩ := (encryptLocalState_isOk lawful).mpr sealable
    rw [show session.core.protectBase P _ _ _ s.nonce = _ from sealed] at unsealed
    cases unsealed

/-- A sync without faults that finds what is installed on the server: it stores the hash unless
another one is stored. -/
theorem next_sync (lawful : P.Lawful) {remote : ExtensionManifestV1} {proof : SyncProof}
    (looked : session.core.looked P w.server (readManifest P) extensionManifestNamespace
      (·.profileDirectory = session.profile.directoryName)
      ((w.device i).state.mappings session.extensionKey) = .ok (some (remote, proof)))
    (same : remote.archiveSha256 = capturedHash P i w)
    (small : proof.revision.val < 9223372036854775808) :
    (session.syncExtensionsWithServer P).Attempts (.alone (World.exec P i) Calm)
      (fun outcome _ w' => Unstale P i session w ∧ outcome = Session.upToDate remote ∧
        ∃ base, (w'.device i).state.syncBases session.extensionKey = some base ∧
          session.openedHash P (some base) = .ok (some (capturedHash P i w)))
      (fun _ _ _ => ¬ Unstale P i session w) journal w := by
  refine Action.attempts_bind.mpr (serves_alone.captureExtensions ?_ fun _ _ _ _ _ _ calm fault =>
    absurd calm fault)
  intro w₁ descriptor archive journal₁ still _ _ captured
  cases still
  refine Action.attempts_bind.mpr (object_alone calm_faultless ?_ ?_)
  · intro r journal₂ looked'
    rw [looked] at looked'
    cases looked'
    refine Action.attempts_bind.mpr (baseHash_alone calm_faultless ?_ ?_)
    · intro base journal₃ stored
      have persists (unstale : base = none ∨ base = some (capturedHash P i w))
          (journal : Journal C) : Action.Attempts (.alone (World.exec P i) Calm)
          (fun outcome _ w' => Unstale P i session w ∧ outcome = Session.upToDate remote ∧
            ∃ base, (w'.device i).state.syncBases session.extensionKey = some base ∧
              session.openedHash P (some base) = .ok (some (capturedHash P i w)))
          (fun _ _ _ => ¬ Unstale P i session w) (do
            session.persistExtensionSyncState P remote proof
            return Session.upToDate remote) journal w := by
        refine Action.attempts_bind.mpr (persistHash_calm lawful small ?_ ?_)
        · intro sealable kept w' journal' found opened
          refine ⟨⟨?_, same ▸ sealable⟩, rfl, kept, found, same ▸ opened⟩
          rcases unstale with rfl | rfl
          · exact .inl stored
          · exact .inr stored
        · intro unsealable e journal' unstale'
          exact unsealable (same ▸ unstale'.sealable)
      have agree : descriptor.archiveSha256 = remote.archiveSha256 := captured.trans same.symm
      cases base with
      | none =>
          rw [if_pos ⟨rfl, agree⟩]
          exact persists (.inl rfl) journal₃
      | some hash =>
          rw [if_neg (by simp), agree, same]
          by_cases current : hash = capturedHash P i w
          · subst current
            simp only [ne_eq, not_true_eq_false, decide_false, Option.isSome_some]
            exact persists (.inr rfl) journal₃
          · have changed : decide (some hash ≠ some (capturedHash P i w)) = true := by
              simpa using current
            dsimp only [Option.isSome_some]
            rw [changed]
            intro unstale
            rcases unstale.base with none | kept
            · rw [stored] at none
              cases none
            · rw [stored] at kept
              cases kept
              exact current rfl
    · intro e journal₃ failed unstale
      rcases failed with impossible | failed
      · exact impossible
      · rcases unstale.base with none | kept
        · rw [failed] at none
          cases none
        · rw [failed] at kept
          cases kept
  · intro e journal₂ failed
    rcases failed with impossible | failed
    · exact impossible.elim
    · rw [looked] at failed
      cases failed

end

/-- A live manifest row. -/
def ObjectRow.Manifest {C : Type} (row : ObjectRow C) : Prop :=
  row.nameSpace = extensionManifestNamespace ∧ row.deleted = false

/-- An operation that publishes no manifest. -/
def Op.Withholds {C : Type} : Op C → Prop
  | .putObject _ request => request.nameSpace ≠ extensionManifestNamespace
  | _ => True

/-- One that installs no extensions either. -/
def Op.Aside {C : Type} : Op C → Prop
  | .restoreExtensionBundle _ => False
  | op => op.Withholds

/-- One that writes nothing on the device at all. -/
def Op.Remote {C : Type} : Op C → Prop
  | .saveSyncState .. | .replaceFile _ | .restoreExtensionBundle _ => False
  | op => op.Withholds

theorem Op.Aside.withholds {C : Type} {op : Op C} (aside : op.Aside) : op.Withholds := by
  cases op with
  | restoreExtensionBundle => exact aside.elim
  | _ => exact aside

theorem Op.Remote.withholds {C : Type} {op : Op C} (remote : op.Remote) : op.Withholds := by
  cases op with
  | replaceFile | saveSyncState | restoreExtensionBundle => exact remote.elim
  | _ => exact remote

/-- The manifests of the later world, and their changes, are of the earlier one. -/
structure Still (w w' : World ι C) : Prop where
  rows : ∀ id row, w'.server.objects id = some row → row.Manifest → w.server.objects id = some row
  feed : ∀ change ∈ w'.server.changes, change.nameSpace = extensionManifestNamespace →
    change.deleted = false → change ∈ w.server.changes

section
variable {w w' : World ι C} {choice : Choice}

omit [DecidableEq ι] in
theorem Still.refl (w : World ι C) : Still w w :=
  ⟨fun _ _ found _ => found, fun _ member _ _ => member⟩

omit [DecidableEq ι] in
theorem Still.trans {w w' w'' : World ι C} (first : Still w w') (later : Still w' w'') :
    Still w w'' where
  rows id row found manifest := first.rows id row (later.rows id row found manifest) manifest
  feed change member space live :=
    first.feed change (later.feed change member space live) space live

/-- What an operation writes to the tables, unless it publishes, is no manifest. -/
theorem still_exec {op : Op C} {reply : Reply C op} (withholds : op.Withholds)
    (ran : World.exec P i op choice w = some (w', reply)) : Still w w' := by
  rcases World.exec_server ran with same | ⟨id, row, _, written, kind⟩
  · exact ⟨fun _ _ found _ => same ▸ found, fun _ member _ _ => same ▸ member⟩
  · have other : ¬ row.Manifest := by
      rintro ⟨space, live⟩
      rcases kind with deleted | ⟨request, rfl, named⟩
      · rw [live] at deleted
        cases deleted
      · exact withholds (named ▸ space)
    constructor
    · intro id' row' found manifest
      rw [written] at found
      by_cases same : id' = id
      · subst same
        rw [Server.write_objects_self] at found
        cases found
        exact absurd manifest other
      · rwa [Server.write_objects_of_ne _ row same] at found
    · intro change member space live
      rw [written] at member
      rcases List.mem_append.mp member with old | new
      · exact old
      · cases List.mem_singleton.mp new
        exact absurd ⟨space, live⟩ other

theorem extensions_exec {op : Op C} {reply : Reply C op} (aside : op.Aside)
    (ran : World.exec P i op choice w = some (w', reply)) :
    (w'.device i).extensions = (w.device i).extensions := by
  cases op with
  | putObject id request =>
      rcases World.commit_cases ran with ⟨_, _, _, rfl, _⟩ | ⟨rfl, _⟩ <;> rfl
  | deleteObject id request =>
      rcases World.commit_cases ran with ⟨_, _, _, rfl, _⟩ | ⟨rfl, _⟩ <;> rfl
  | replaceFile content =>
      rcases World.replaceFile_cases ran with ⟨_, _, _, rfl⟩ | ⟨_, _, _, rfl | ⟨_, rfl, _⟩⟩
      · rw [World.setDevice_self]
        rfl
      · rfl
      · rw [World.setDevice_self]
        rfl
  | saveSyncState key mapping base =>
      rcases World.saveSyncState_cases ran with ⟨_, _, _, rfl⟩ | ⟨rfl, _⟩
      · rw [World.setDevice_self]
      · rfl
  | restoreExtensionBundle archive => exact aside.elim
  | sample | getObject | changes | readFile | createExtensionBundle | mapping | syncBase
  | profilePreferences => rw [World.exec_observes (by exact trivial) ran]

theorem device_exec {op : Op C} {reply : Reply C op} (remote : op.Remote)
    (ran : World.exec P i op choice w = some (w', reply)) : w'.device i = w.device i := by
  cases op with
  | putObject id request =>
      rcases World.commit_cases ran with ⟨_, _, _, rfl, _⟩ | ⟨rfl, _⟩ <;> rfl
  | deleteObject id request =>
      rcases World.commit_cases ran with ⟨_, _, _, rfl, _⟩ | ⟨rfl, _⟩ <;> rfl
  | replaceFile | saveSyncState | restoreExtensionBundle => exact remote.elim
  | sample | getObject | changes | readFile | createExtensionBundle | mapping | syncBase
  | profilePreferences => rw [World.exec_observes (by exact trivial) ran]

end

section
variable (P) (i) (session)

/-- What holds of a manifest that the device published since `w₀`. -/
structure Published (w₀ w : World ι C) (id : ObjectId) (row : ObjectRow C) : Prop where
  captured : ∃ manifest, RowReads P session.core.masterKey (readManifest P) id row manifest ∧
    manifest.archiveSha256 = capturedHash P i w₀ ∧
    manifest.profileDirectory = session.profile.directoryName
  mapped : ∀ object, (w₀.device i).state.mappings session.extensionKey = some object →
    id = object.objectId
  newest : ∀ change ∈ w.server.changes, change.nameSpace = extensionManifestNamespace →
    change.deleted = false → change.cursor ≤ row.cursor

/-- What a sync that started in `w₀` keeps: the tables are sound, and every manifest that is not
from before is what is installed. -/
structure Publishes (w₀ w : World ι C) : Prop where
  tidy : w.server.Tidy P
  fresh : ∀ id row, w.server.objects id = some row → row.Manifest →
    w₀.server.objects id ≠ some row → Published P i session w₀ w id row ∧
      (w.device i).extensions = (w₀.device i).extensions

end

section
variable {w₀ w : World ι C} {journal : Journal C}

omit [DecidableEq ι] in
theorem Publishes.of_still (tidy : w.server.Tidy P) (still : Still w₀ w) :
    Publishes P i session w₀ w :=
  ⟨tidy, fun id row found manifest fresh => absurd (still.rows id row found manifest) fresh⟩

theorem serves_keeping {I : World ι C → Prop} :
    Serves P i (fun w => w) (.keeping (World.exec P i) I) where
  exec ran := ran
  still _ same := same
  quiet _ _ := trivial
  trans first later := Eq.trans first later

/-- After the publication: what is left to do keeps what was published. -/
theorem aside_keeps {α ε : Type} {x : Client C ε α} (issues : x.run.Issues Op.Aside) :
    x.Attempts (.keeping (World.exec P i) (Publishes P i session w₀)) (fun _ _ _ => True)
      (fun _ _ _ => True) journal w := by
  refine Action.attempts_of_issues (fun _ => True) (fun _ _ => trivial) ?_ issues trivial
  intro journal op choice w w' reply aside _ held _ ran
  have still : Still w w' := still_exec aside.withholds ran
  refine ⟨⟨Server.tidy_exec ran held.tidy, ?_⟩, trivial, trivial⟩
  intro id row found manifest fresh
  obtain ⟨published, same⟩ := held.fresh id row (still.rows id row found manifest) manifest fresh
  refine ⟨⟨published.captured, published.mapped, ?_⟩, (extensions_exec aside ran).trans same⟩
  intro change member space live
  exact published.newest change (still.feed change member space live) space live

/-- Without a publication nothing appears. -/
theorem withholds_keeps {α ε : Type} {x : Client C ε α} (issues : x.run.Issues Op.Withholds)
    (before : Still w₀ w) :
    x.Attempts (.keeping (World.exec P i) (Publishes P i session w₀)) (fun _ _ _ => True)
      (fun _ _ _ => True) journal w := by
  refine (Action.attempts_of_issues (Still w₀) (fun before moved => by cases moved; exact before) ?_ issues
    before).mono (fun _ _ _ _ => trivial) fun _ _ _ _ => trivial
  intro journal op choice w w' reply withholds before held _ ran
  have still : Still w₀ w' := before.trans (still_exec withholds ran)
  exact ⟨.of_still (Server.tidy_exec ran held.tidy) still, trivial, still⟩

/-- Before the publication: the device and the manifests are as they were. -/
theorem remote_keeps {α ε : Type} {x : Client C ε α} (issues : x.run.Issues Op.Remote)
    (before : Still w₀ w ∧ w.device i = w₀.device i) :
    x.Attempts (.keeping (World.exec P i) (Publishes P i session w₀))
      (fun _ _ w' => Still w₀ w' ∧ w'.device i = w₀.device i)
      (fun _ _ w' => Still w₀ w' ∧ w'.device i = w₀.device i) journal w := by
  refine Action.attempts_of_issues (fun w' => Still w₀ w' ∧ w'.device i = w₀.device i)
    (fun before moved => by cases moved; exact before) ?_ issues before
  rintro journal op choice w w' reply remote ⟨before, same⟩ held _ ran
  have still : Still w₀ w' := before.trans (still_exec remote.withholds ran)
  exact ⟨.of_still (Server.tidy_exec ran held.tidy) still, trivial, still,
    (device_exec remote ran).trans same⟩

theorem Op.Plain.remote {op : Op C} (plain : op.Plain) : op.Remote := by
  cases op with
  | putObject | replaceFile | saveSyncState | restoreExtensionBundle => exact plain.elim
  | _ => exact trivial

theorem Op.Plain.aside {op : Op C} (plain : op.Plain) : op.Aside := by
  cases op with
  | putObject | restoreExtensionBundle => exact plain.elim
  | _ => exact trivial

omit [DecidableEq ι] in
/-- A manifest of what was captured, as the row of its put. -/
theorem publishes_of_put (lawful : P.Lawful) {w' : World ι C} {id : ObjectId}
    {row : ObjectRow C} {manifest : ExtensionManifestV1} {base : Option U64}
    (before : Still w₀ w ∧ w.device i = w₀.device i) (tidy : w.server.Tidy P)
    (tidy' : w'.server.Tidy P) (frame : w'.device = w.device)
    (uploads : session.core.Uploads P extensionManifestNamespace
      (.json (writeManifest P manifest)) base id w.server w'.server row)
    (mine : manifest.profileDirectory = session.profile.directoryName)
    (captured : manifest.archiveSha256 = capturedHash P i w₀)
    (mapped : ∀ known, (w₀.device i).state.mappings session.extensionKey = some known →
      id = known.objectId) : Publishes P i session w₀ w' := by
  refine ⟨tidy', ?_⟩
  intro id' row' found manifest' fresh
  rw [uploads.written] at found
  by_cases same : id' = id
  · subst same
    rw [Server.write_objects_self] at found
    cases found
    refine ⟨⟨⟨manifest, ⟨_, uploads.opens, parseAs_manifest lawful manifest⟩, captured, mine⟩,
      mapped, ?_⟩, ?_⟩
    · intro change member _ _
      rw [uploads.written] at member
      have issued := uploads.issued
      rcases List.mem_append.mp member with old | new
      · have bound := tidy.sound.issued change old
        exact Fin.le_def.mpr (by omega)
      · cases List.mem_singleton.mp new
        exact le_refl _
    · rw [frame, before.2]
  · rw [Server.write_objects_of_ne _ row same] at found
    exact absurd (before.1.rows id' row' found manifest') fresh

theorem publish_keeps (lawful : P.Lawful) {descriptor : ExtensionBundleDescriptor}
    {archive : Bytes} {object : Option (ObjectId × U64)} (old : Option ExtensionManifestV1)
    (before : Still w₀ w ∧ w.device i = w₀.device i)
    (mine : descriptor.profileDirectory = session.profile.directoryName)
    (captured : descriptor.archiveSha256 = capturedHash P i w₀)
    (mapped : ∀ known, (w₀.device i).state.mappings session.extensionKey = some known →
      ∃ revision, object = some (known.objectId, revision)) :
    (session.core.publish P descriptor archive (object.map Prod.fst) (object.map Prod.snd)
      old).Attempts (.keeping (World.exec P i) (Publishes P i session w₀))
      (fun _ _ _ => True) (fun _ _ _ => True) journal w := by
  have chunk : extensionChunkNamespace ≠ extensionManifestNamespace := by decide
  refine Action.attempts_bind.mpr ((remote_keeps (ClientCore.uploadChunks_issues
    (fun _ => Op.Plain.remote) (fun _ _ _ _ => chunk) _ _) before).mono ?_ fun _ _ _ _ => trivial)
  intro uploaded journal₁ w₁ before
  have uploads : (session.core.upload P extensionManifestNamespace
      (.json (writeManifest P (ClientCore.manifestOf descriptor uploaded)))
      (object.map Prod.fst) (object.map Prod.snd)).Attempts
      (.keeping (World.exec P i) (Publishes P i session w₀)) (fun _ _ _ => True)
      (fun _ _ _ => True) journal₁ w₁ := by
    refine serves_keeping.upload lawful fun w₂ s moved _ _ => ?_
    cases moved
    refine { unsealed := fun _ _ => trivial,
             refused := fun _ _ _ _ _ _ _ _ _ => ⟨trivial, trivial⟩, kept := ?_,
             lost := fun _ _ _ _ _ _ _ => trivial,
             verified := fun _ _ _ _ _ _ _ _ _ _ _ _ _ _ => trivial,
             unverified := fun _ _ _ _ _ _ _ _ _ _ _ _ _ _ => trivial }
    intro w₂ w₃ row envelope choice reply put
    cases put.moved
    refine ⟨publishes_of_put lawful before put.held.tidy
      (Server.tidy_exec (serves_keeping.exec put.ran) put.held.tidy) put.frame put.uploads mine captured
      ?_, trivial⟩
    intro known here
    obtain ⟨revision, rfl⟩ := mapped known here
    rfl
  refine Action.attempts_bind.mpr (Action.attempts_outcome.mpr (uploads.mono ?_ ?_))
  · intro proof _ _ _
    exact aside_keeps (Action.issues_bind
      (ClientCore.deleteOldChunks_issues (fun _ => Op.Plain.aside) old) fun _ => trivial)
  · intro e _ _ _
    exact aside_keeps (ClientCore.cleanUp_issues (fun _ => Op.Plain.aside) _ _ _)

/-- `save_extension_bundle` publishes what was captured. -/
theorem saveExtensionBundle_keeps (lawful : P.Lawful) {descriptor : ExtensionBundleDescriptor}
    {archive : Bytes} (object : Option (ObjectId × U64))
    (before : Still w₀ w ∧ w.device i = w₀.device i)
    (mine : descriptor.profileDirectory = session.profile.directoryName)
    (captured : descriptor.archiveSha256 = capturedHash P i w₀)
    (mapped : ∀ known, (w₀.device i).state.mappings session.extensionKey = some known →
      ∃ revision, object = some (known.objectId, revision)) :
    (session.core.saveExtensionBundle P descriptor archive (object.map Prod.fst)
      (object.map Prod.snd)).Attempts (.keeping (World.exec P i) (Publishes P i session w₀))
      (fun _ _ _ => True) (fun _ _ _ => True) journal w := by
  rw [ClientCore.saveExtensionBundle, if_neg (by simp)]
  split_ifs
  · exact trivial
  cases object with
  | none => exact @publish_keeps _ _ _ P i session w₀ w _ lawful _ _ none none before mine captured mapped
  | some known =>
      refine Action.attempts_bind.mpr ((remote_keeps (ClientCore.loadExtensionManifest_issues
        (fun _ => Op.Plain.remote) _) before).mono ?_ fun _ _ _ _ => trivial)
      rintro ⟨old, proof⟩ journal₁ w₁ before
      exact publish_keeps lawful (some old) before mine captured mapped

omit [DecidableEq ι] in
theorem persist_issues {good : Op C → Prop} (plain : ∀ op : Op C, op.Plain → good op)
    (save : ∀ key object base, good (.saveSyncState key object base))
    {manifest : ExtensionManifestV1} {proof : SyncProof} {α : Type} {a : α} :
    (ExceptT.run (do
      session.persistExtensionSyncState P manifest proof
      return a : Client C String α)).Issues good := by
  refine Action.issues_bind ?_ fun _ => trivial
  refine Action.issues_bind (Action.issues_mapErr ⟨plain _ trivial, fun _ => trivial⟩) ?_
  intro s
  refine Action.issues_bind (Action.issues_mapErr Action.issues_ofExcept) ?_
  intro encrypted
  exact Action.issues_mapErr ⟨save _ _ _, fun _ => trivial⟩

theorem persist_keeps {manifest : ExtensionManifestV1} {proof : SyncProof} {α : Type} {a : α} :
    Action.Attempts (.keeping (World.exec P i) (Publishes P i session w₀)) (fun _ _ _ => True)
      (fun _ _ _ => True) (do
        session.persistExtensionSyncState P manifest proof
        return a) journal w :=
  aside_keeps (persist_issues (fun _ => Op.Plain.aside) fun _ _ _ => trivial)

/-- `save_extensions_to_server` publishes what is installed. -/
theorem saveExtensions_keeps (lawful : P.Lawful) (before : Still w₀ w ∧ w.device i = w₀.device i) :
    (session.saveExtensionsToServer P).Attempts
      (.keeping (World.exec P i) (Publishes P i session w₀)) (fun _ _ _ => True)
      (fun _ _ _ => True) journal w := by
  refine Action.attempts_bind.mpr (serves_keeping.captureExtensions ?_ fun _ _ _ _ _ _ _ _ => trivial)
  intro w₁ descriptor archive journal₁ moved _ mine captured
  cases moved
  have captured' : descriptor.archiveSha256 = capturedHash P i w₀ := by
    rw [captured, before.2]
    rfl
  refine Action.attempts_bind.mpr (serves_keeping.remoteExtensionManifest ?_ ?_
    fun _ _ _ _ _ _ => trivial)
  · intro w₁ w₂ journal₂ id row remote moved moved' _ _ _ mapped _ _ _
    cases moved
    cases moved'
    refine Action.attempts_bind.mpr (Action.attempts_mapErr.mpr ((saveExtensionBundle_keeps lawful
      (some (id, row.revision.toU64)) before mine captured' ?_).mono ?_ fun _ _ _ _ => trivial))
    · intro known here
      rw [← before.2] at here
      exact ⟨row.revision.toU64, by rw [mapped known here]⟩
    · intro _ _ _ _
      exact persist_keeps
  · intro w₁ w₂ journal₂ moved moved' _ _ _ unmapped
    cases moved
    cases moved'
    refine Action.attempts_bind.mpr (Action.attempts_mapErr.mpr ((saveExtensionBundle_keeps lawful
      none before mine captured' ?_).mono ?_ fun _ _ _ _ => trivial))
    · intro known here
      rw [← before.2] at here
      cases unmapped.symm.trans here
    · intro _ _ _ _
      exact persist_keeps

/-- `load_extensions_from_server` publishes nothing. -/
theorem loadExtensions_keeps (before : Still w₀ w) :
    (session.loadExtensionsFromServer P).Attempts
      (.keeping (World.exec P i) (Publishes P i session w₀)) (fun _ _ _ => True)
      (fun _ _ _ => True) journal w := by
  have plain : ∀ op : Op C, op.Plain → op.Withholds := fun _ plain => (Op.Plain.aside plain).withholds
  refine Action.attempts_bind.mpr (serves_keeping.remoteExtensionManifest ?_
    (fun _ _ _ _ _ _ _ _ _ => trivial) fun _ _ _ _ _ _ => trivial)
  intro w₁ w₂ journal₁ id row remote moved moved' _ _ _ _ _ _ _
  cases moved
  cases moved'
  refine withholds_keeps (Action.issues_bind (Action.issues_mapErr (Action.issues_bind
    (ClientCore.loadExtensionManifest_issues plain id) ?_)) ?_) before
  · rintro ⟨manifest, proof⟩
    refine Action.issues_bind (ClientCore.downloadChunks_issues plain _ _) ?_
    intro archive
    split_ifs <;> exact trivial
  · rintro ⟨manifest, archive, proof⟩
    refine Action.issues_bind ⟨trivial, fun _ => trivial⟩ ?_
    rintro ⟨backupPath, stats⟩
    exact persist_issues plain fun _ _ _ => trivial

/-- A sync keeps the invariant, whatever faults it meets. -/
theorem syncExtensions_keeps (lawful : P.Lawful) :
    (session.syncExtensionsWithServer P).Attempts
      (.keeping (World.exec P i) (Publishes P i session w)) (fun _ _ _ => True)
      (fun _ _ _ => True) journal w := by
  refine Action.attempts_bind.mpr (serves_keeping.captureExtensions ?_ fun _ _ _ _ _ _ _ _ => trivial)
  intro w₁ descriptor archive journal₁ moved _ mine captured
  cases moved
  refine Action.attempts_bind.mpr (serves_keeping.remoteExtensionManifest ?_ ?_
    fun _ _ _ _ _ _ => trivial)
  · intro w₁ w₂ journal₂ id row remote moved moved' _ _ _ mapped _ _ _
    cases moved
    cases moved'
    refine Action.attempts_bind.mpr ((remote_keeps (Session.extensionBaseHash_issues
      fun _ => Op.Plain.remote) ⟨Still.refl w, rfl⟩).mono ?_ fun _ _ _ _ => trivial)
    intro base journal₃ w₃ before
    dsimp only
    split_ifs
    · exact persist_keeps
    · split
      · exact persist_keeps
      · exact persist_keeps
      · exact loadExtensions_keeps before.1
      · exact loadExtensions_keeps before.1
      · exact saveExtensions_keeps lawful before
      · exact trivial
  · intro w₁ w₂ journal₂ moved moved' _ _ _ unmapped
    cases moved
    cases moved'
    refine Action.attempts_bind.mpr (Action.attempts_mapErr.mpr ((saveExtensionBundle_keeps lawful
      none ⟨Still.refl w, rfl⟩ mine captured ?_).mono ?_ fun _ _ _ _ => trivial))
    · intro known here
      cases unmapped.symm.trans here
    · intro _ _ _ _
      exact persist_keeps

omit [DecidableEq ι] in
/-- The next sync comes upon what was published. -/
theorem Publishes.looked (lawful : P.Lawful) (publishes : Publishes P i session w₀ w)
    (mapping : (w.device i).state.mappings session.extensionKey =
      (w₀.device i).state.mappings session.extensionKey) {id : ObjectId} {row : ObjectRow C}
    (found : w.server.objects id = some row) (manifest : row.Manifest)
    (fresh : w₀.server.objects id ≠ some row) :
    capturedHash P i w = capturedHash P i w₀ ∧
    ∃ remote, session.core.looked P w.server (readManifest P) extensionManifestNamespace
      (·.profileDirectory = session.profile.directoryName)
      ((w.device i).state.mappings session.extensionKey) = .ok (some (remote,
        ⟨id, extensionManifestNamespace, row.revision.toU64, row.cursor.toU64, true⟩)) ∧
      remote.archiveSha256 = capturedHash P i w := by
  obtain ⟨⟨⟨remote, reads, captured, mine⟩, mapped, newest⟩, same⟩ :=
    publishes.fresh id row found manifest fresh
  have installed : capturedHash P i w = capturedHash P i w₀ := by rw [capturedHash, same]; rfl
  have fetched := fetched_ok.mpr ⟨row, found, manifest.1, reads, rfl⟩
  refine ⟨installed, remote, ?_, captured.trans installed.symm⟩
  rw [mapping]
  cases stored : (w₀.device i).state.mappings session.extensionKey with
  | some object =>
      dsimp only [ClientCore.looked]
      rw [← mapped object stored, fetched]
      rfl
  | none =>
      dsimp only [ClientCore.looked]
      rw [discovered_newest lawful publishes.tidy found manifest.1 manifest.2 newest fetched
        (decide_eq_true mine)]
      rfl

end

/-- Every operation can go through without a fault. -/
theorem calm_total (op : Op C) (w : World ι C) :
    ∃ choice w' reply, Calm op choice w ∧ World.exec P i op choice w = some (w', reply) := by
  have commits {α : Type} (answer : Except ApiError (α × Server C)) :
      ∃ w' reply, w.commit answer .proceed = some (w', reply) := by
    cases answer <;> exact ⟨_, _, rfl⟩
  cases op with
  | sample => exact ⟨.sampled ⟨⟨0⟩, ⟨0⟩, List.replicate 24 0, rfl⟩, w, _, trivial, rfl⟩
  | readFile =>
      have reads : ∃ w' reply, w.readFile i (.metadata ⟨0, none⟩ ⟨0, none⟩) = some (w', reply) := by
        simp only [World.readFile]
        split <;> exact ⟨_, _, rfl⟩
      obtain ⟨w', reply, ran⟩ := reads
      exact ⟨.metadata ⟨0, none⟩ ⟨0, none⟩, w', reply, rfl, ran⟩
  | replaceFile content => exact ⟨.backedUp "", _, _, trivial, rfl⟩
  | restoreExtensionBundle archive =>
      exact ⟨.installed "" ([], ⟨0, 0, 0⟩), _, _, trivial, rfl⟩
  | putObject id request =>
      obtain ⟨w', reply, ran⟩ := commits (w.server.putObject P id request)
      exact ⟨.proceed, w', reply, rfl, ran⟩
  | deleteObject id request =>
      obtain ⟨w', reply, ran⟩ := commits (w.server.deleteObject P id request)
      exact ⟨.proceed, w', reply, rfl, ran⟩
  | saveSyncState key mapping base =>
      have saves : ∃ w' reply, w.saveSyncState i key mapping base .proceed = some (w', reply) := by
        simp only [World.saveSyncState]
        split <;> exact ⟨_, _, rfl⟩
      obtain ⟨w', reply, ran⟩ := saves
      exact ⟨.proceed, w', reply, rfl, ran⟩
  | getObject | changes | createExtensionBundle | mapping | syncBase | profilePreferences =>
      exact ⟨.proceed, w, _, rfl, rfl⟩

/-- Operations that all go through are calm. -/
theorem runs_calm {α : Type} {p : Prog (Op C) (Reply C) α} {choices : List Choice}
    (through : ∀ choice ∈ choices, choice = .proceed) {w w' : World ι C} {a : α}
    (ran : p.after (World.exec P i) choices w = some (.done a, w')) :
    p.Runs (World.exec P i) Calm w a w' := by
  refine Prog.runs_of_after ?_ ran
  intro op choice w w' reply member ran
  cases through choice member
  cases op with
  | sample | readFile | replaceFile | restoreExtensionBundle => cases ran
  | _ => rfl

/-- After a sync that published what is installed and stored no state, the next one reports that
nothing is to be done exactly when no other base is stored. -/
theorem extension_retry (lawful : P.Lawful) {requests : List (ServerRequest C)}
    {choices : List Choice} {rest : Prog (Op C) (Reply C) (Except String ExtensionSyncOutcome)}
    {w w' : World ι C} (reached : w.server = Server.empty.run P requests)
    (ran : (session.syncExtensionsWithServer P).run.after (World.exec P i) choices w =
      some (rest, w'))
    (published : ∃ id row, w'.server.objects id = some row ∧ row.Manifest ∧
      w.server.objects id ≠ some row)
    (mapping : (w'.device i).state.mappings session.extensionKey =
      (w.device i).state.mappings session.extensionKey)
    (base : (w'.device i).state.syncBases session.extensionKey =
      (w.device i).state.syncBases session.extensionKey) :
    Recovers P i session w' ↔ Unstale P i session w := by
  obtain ⟨id, row, found, manifest, fresh⟩ := published
  have tidy : w.server.Tidy P := reached ▸ Server.tidy_run requests
  have publishes : Publishes P i session w w' := Prog.Ensures.after_keeps
    (@syncExtensions_keeps _ _ _ P i session w [] lawful) (.of_still tidy (Still.refl w)) ran
  obtain ⟨installed, remote, looked, captured⟩ :=
    publishes.looked lawful mapping found manifest fresh
  have next := @next_sync _ _ _ P i session w' [] lawful _ _ looked captured row.revision.isLt
  have same : Unstale P i session w' ↔ Unstale P i session w := by
    constructor
    · rintro ⟨stored, sealable⟩
      rw [base, installed] at stored
      exact ⟨stored, installed ▸ sealable⟩
    · rintro ⟨stored, sealable⟩
      rw [← base, ← installed] at stored
      exact ⟨stored, installed ▸ sealable⟩
  rw [← same]
  constructor
  · intro recovers
    obtain ⟨outcome, last, run⟩ := Prog.exists_runs (calm_total (P := P) (i := i))
      (session.syncExtensionsWithServer P).run w'
    obtain ⟨_, done⟩ := run.post next
    obtain ⟨_, _, rfl, _⟩ := recovers outcome last run
    exact done.1
  · intro unstale outcome last run
    obtain ⟨_, done⟩ := run.post next
    cases outcome with
    | error e => exact absurd unstale done
    | ok outcome =>
        obtain ⟨_, rfl, base, stored, opened⟩ := done
        exact ⟨remote, base, rfl, captured, stored, opened⟩

end

section
open Reference (primitives primitives_lawful masterKey draw session)

/-- The manifest of an archive. -/
def manifestWith (archive : Bytes) : ExtensionManifestV1 :=
  ⟨extensionBundleFormat, "Default", primitives.sha256 archive, 1, ⟨0, 0, 0⟩, []⟩

/-- The first device is registered and has put this manifest. -/
def manifestPut (manifest : ExtensionManifestV1) : List (ServerRequest Reference.Sealed) :=
  match encrypt primitives masterKey
      ((session 0).core.metadata extensionManifestNamespace none ⟨9⟩ (draw 9))
      (.json (writeManifest primitives manifest)) (draw 9).nonce with
  | .ok envelope => [.register ⟨⟨1⟩, "device"⟩ ⟨0⟩,
      .put ⟨9⟩ ((session 0).core.request extensionManifestNamespace none (draw 9) envelope)]
  | .error _ => []

/-- Devices with an archive of one byte installed, and with this state of its last sync. -/
def installedWorld (requests : List (ServerRequest Reference.Sealed))
    (mapping : Option ObjectMapping) (base : Option String) :
    World (Fin 2) Reference.Sealed where
  server := Server.empty.run primitives requests
  device _ := {
    state := { (LocalState.empty : LocalState Reference.Sealed) with
      mappings := fun key => if key = (session 0).extensionKey then mapping else none
      syncBases := fun key => if key = (session 0).extensionKey then
        base.bind fun hash => ((session 0).core.protectBase primitives extensionManifestNamespace
          "Default" (.text hash) (draw 0).nonce).toOption else none }
    bookmarks := none
    backups := []
    extensions := ([1], ⟨0, 0, 0⟩) }

/-- The first device is about to sync for the first time. -/
def unsharedWorld : World (Fin 2) Reference.Sealed :=
  installedWorld [.register ⟨⟨1⟩, "device"⟩ ⟨0⟩] none none

/-- The first device's archive has changed since its last sync. -/
def staleWorld : World (Fin 2) Reference.Sealed :=
  installedWorld (manifestPut (manifestWith [2])) (some ⟨⟨9⟩, 1⟩) (some (primitives.sha256 [2]))

/-- The first device's sync of its extensions, as far as these choices go. -/
def syncedFor (choices : List Choice) (w : World (Fin 2) Reference.Sealed) :=
  ((session 0).syncExtensionsWithServer primitives).run.after (World.exec primitives 0) choices w

/-- The captured archive is uploaded and its manifest published, but the state is not stored. -/
def unstored : List Choice :=
  [.sampled (draw 10), .proceed, .proceed, .sampled (draw 11), .proceed, .proceed,
    .sampled (draw 12), .failed "disk full"]

/-- A command that ended with the error of two changed sides. -/
def Conflicting :
    Prog (Op Reference.Sealed) (Reply Reference.Sealed) (Except String ExtensionSyncOutcome) → Bool
  | .done (.error e) => decide (e = Session.extensionConflict)
  | _ => false

/-- The manifest was published, and nothing was stored. -/
abbrev PublishedOnly (id : ObjectId) (w w' : World (Fin 2) Reference.Sealed) : Prop :=
  ((w'.server.objects id).map fun row => (row.nameSpace, row.deleted)) =
      some (extensionManifestNamespace, false) ∧
    (w'.server.objects id).map ObjectRow.revision ≠ (w.server.objects id).map ObjectRow.revision ∧
    (w'.device 0).state.mappings (session 0).extensionKey =
      (w.device 0).state.mappings (session 0).extensionKey ∧
    (w'.device 0).state.syncBases (session 0).extensionKey =
      (w.device 0).state.syncBases (session 0).extensionKey

theorem PublishedOnly.row {id : ObjectId} {w w' : World (Fin 2) Reference.Sealed}
    (published : PublishedOnly id w w') : ∃ id row, w'.server.objects id = some row ∧
      row.Manifest ∧ w.server.objects id ≠ some row := by
  obtain ⟨manifest, fresh, _⟩ := published
  cases found : w'.server.objects id with
  | none =>
      rw [found] at manifest
      cases manifest
  | some row =>
      rw [found] at manifest fresh
      refine ⟨id, row, found, ?_, fun old => fresh (by rw [old])⟩
      obtain ⟨space, live⟩ := Prod.mk.inj (Option.some.inj manifest)
      exact ⟨space, live⟩

/-- A first sync that stores no state leaves no base, and the next one recovers. -/
theorem extension_retry_first_sync : ∃ (requests : List (ServerRequest Reference.Sealed))
    (choices : List Choice)
    (rest : Prog (Op Reference.Sealed) (Reply Reference.Sealed) (Except String ExtensionSyncOutcome))
    (w w' : World (Fin 2) Reference.Sealed), w.server = Server.empty.run primitives requests ∧
    ((session 0).syncExtensionsWithServer primitives).run.after (World.exec primitives 0) choices w =
      some (rest, w') ∧
    (∃ id row, w'.server.objects id = some row ∧ row.Manifest ∧ w.server.objects id ≠ some row) ∧
    Recovers primitives 0 (session 0) w' := by
  have played : ((syncedFor ([.proceed, .proceed, .proceed] ++ unstored) unsharedWorld).any
      fun after => decide (PublishedOnly ⟨11⟩ unsharedWorld after.2)) = true := by
    decide +kernel
  obtain ⟨⟨rest, w'⟩, ran, published⟩ := (Option.any_eq_true _ _).mp played
  have published : PublishedOnly ⟨11⟩ unsharedWorld w' := of_decide_eq_true published
  refine ⟨_, _, rest, unsharedWorld, w', rfl, ran, published.row, ?_⟩
  refine (extension_retry primitives_lawful rfl ran published.row published.2.2.1
    published.2.2.2).mpr ⟨.inl rfl, ?_⟩
  exact ⟨by decide +kernel, by decide +kernel⟩

/-- After a sync of an edited archive that stores no state, the next one reports a conflict. -/
theorem extension_retry_conflict : ∃ (requests : List (ServerRequest Reference.Sealed))
    (choices : List Choice)
    (rest : Prog (Op Reference.Sealed) (Reply Reference.Sealed) (Except String ExtensionSyncOutcome))
    (w w' last : World (Fin 2) Reference.Sealed), w.server = Server.empty.run primitives requests ∧
    ((session 0).syncExtensionsWithServer primitives).run.after (World.exec primitives 0) choices w =
      some (rest, w') ∧
    (∃ id row, w'.server.objects id = some row ∧ row.Manifest ∧ w.server.objects id ≠ some row) ∧
    (w'.device 0).state.mappings (session 0).extensionKey =
      (w.device 0).state.mappings (session 0).extensionKey ∧
    (w'.device 0).state.syncBases (session 0).extensionKey =
      (w.device 0).state.syncBases (session 0).extensionKey ∧
    ((session 0).syncExtensionsWithServer primitives).run.Runs (World.exec primitives 0) Calm w'
      (.error Session.extensionConflict) last ∧
    ¬ Recovers primitives 0 (session 0) w' := by
  have played : ((syncedFor (List.replicate 8 .proceed ++ unstored) staleWorld).any fun after =>
      decide (PublishedOnly ⟨9⟩ staleWorld after.2) &&
      ((syncedFor (List.replicate 4 .proceed) after.2).any fun retried => Conflicting retried.1)) =
      true := by
    decide +kernel
  obtain ⟨⟨rest, w'⟩, ran, both⟩ := (Option.any_eq_true _ _).mp played
  obtain ⟨published, retried⟩ := Bool.and_eq_true_iff.mp both
  have published : PublishedOnly ⟨9⟩ staleWorld w' := of_decide_eq_true published
  obtain ⟨⟨ended, last⟩, retry, conflicts⟩ := (Option.any_eq_true _ _).mp retried
  have conflict : ended = .done (.error Session.extensionConflict) := by
    dsimp only at conflicts
    unfold Conflicting at conflicts
    split at conflicts
    · next e => rw [of_decide_eq_true conflicts]
    · cases conflicts
  rw [conflict] at retry
  have run := runs_calm (by simp) retry
  refine ⟨_, _, rest, staleWorld, w', last, rfl, ran, published.row, published.2.2.1,
    published.2.2.2, run, ?_⟩
  intro recovers
  obtain ⟨_, _, same, _⟩ := recovers _ last run
  cases same

end
end HeliumSync
