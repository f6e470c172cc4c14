import HeliumSync.ExactDiscovery
import HeliumSync.Quiescence

/-! A bookmark sync that failed, and the one that is run after it. -/
namespace HeliumSync
open Interaction (Prog)

/-- A merge that keeps every remote node of a remote side that is not older is the remote side. -/
theorem mergeBookmarks_adopts {base : Option BookmarkSnapshotV1} {loc content : BookmarkSnapshotV1}
    (pair : Mergeable loc content) (based : ∀ b, base = some b → Mergeable b loc)
    (older : loc.chromiumVersion ≤ content.chromiumVersion)
    (distinct : (content.roots.map BookmarkRoot.key).Nodup)
    (each : ∀ key, mergedNode (rootMap (baseRoots base) key) (rootMap loc.roots key)
      (rootMap content.roots key) = rootMap content.roots key) :
    ∃ merged, mergeBookmarks base loc content = .ok merged ∧ merged.snapshot = content := by
  refine ⟨_, mergeBookmarks_ok.mpr ⟨pair, based, rfl⟩, ?_⟩
  dsimp only
  rw [mergedRoots_of_remote distinct each, max_eq_right older]

section
variable {ι C : Type} [DecidableEq ι] (P : Primitives C) (i : ι) (session : Session)

/-- A failed restore leaves the old file or the new one in place. -/
def Sparing (_ : Op C) (choice : Choice) (_ : World ι C) : Prop :=
  ∀ details, choice ≠ .failedLost details

/-- What a sync means to leave on the server, in the base and in the file. -/
inductive Intends (w : World ι C) : BookmarkSnapshotV1 → Prop
  | merged {id row base loc remote merged} (finds : Finds P i session w id row base loc remote)
      (accepted : mergeBookmarks base loc remote = .ok merged) : Intends w merged.snapshot
  | first {loc} (file : LocalIs P i session w loc) (looked : session.remoteOf P i w = .ok none) :
      Intends w loc

/-- The document of that snapshot can be read again. -/
def Rereadable (w : World ι C) : Prop :=
  ∀ content, Intends P i session w content →
    (writeSnapshot content).depth < Json.recursionLimit

/-- Only this object has changed, and this is its row now. -/
structure Touches (w w' : World ι C) (id : ObjectId) (row : ObjectRow C) : Prop where
  stored : w'.server.objects id = some row
  others : ∀ other, other ≠ id → w'.server.objects other = w.server.objects other

/-- What a sync that started in `w` has left. -/
structure Leaves (w : World ι C) (id : ObjectId) (revision : I64) (plaintext : Plaintext)
    (content : BookmarkSnapshotV1) (file : Option Plaintext) (w' : World ι C) : Prop where
  object : ∃ row, Touches w w' id row ∧ row.revision = revision ∧
    RowOpens P session.core.masterKey id row plaintext
  mapping : (w'.device i).state.mappings session.bookmarkKey = some ⟨id, revision.toU64⟩
  base : ∃ envelope, (w'.device i).state.syncBases session.bookmarkKey = some envelope ∧
    session.core.openBase P bookmarkNamespace session.profile.directoryName envelope =
      .ok (.json (writeSnapshot content))
  file : (w'.device i).bookmarks = file

/-- Both have left the same, but for the object id where it was made up. -/
def LeaveAlike (w w' w'' : World ι C) : Prop :=
  ∃ id id' revision plaintext content file,
    Leaves P i session w id revision plaintext content file w' ∧
    Leaves P i session w id' revision plaintext content file w'' ∧
    (id' = id ∨ w.server.objects id = none ∧ w.server.objects id' = none)

end

section
variable {ι C : Type} [DecidableEq ι] {P : Primitives C} {i : ι} {session : Session}
  {w v v' : World ι C}

/-- The file once the merge was restored. -/
def restoredFile (loc merged : BookmarkSnapshotV1) (file : Option Plaintext) : Option Plaintext :=
  if merged = loc then file else some (.json (chromiumBookmarksJson merged))

theorem AfterRestore.restoredFile {loc merged : BookmarkSnapshotV1}
    (restored : AfterRestore i loc merged w v) :
    (v.device i).bookmarks = HeliumSync.restoredFile loc merged (w.device i).bookmarks := by
  rcases restored with ⟨same, rfl⟩ | ⟨changed, rfl⟩
  · exact (if_pos same).symm
  · rw [World.setDevice_self]
    exact (if_neg changed).symm

theorem AfterSave.leaves {id : ObjectId} {row : ObjectRow C} {plaintext : Plaintext}
    {content : BookmarkSnapshotV1} (touches : Touches w v id row)
    (opens : RowOpens P session.core.masterKey id row plaintext)
    (saved : AfterSave P i session content ⟨id, row.revision.toU64⟩ v v') :
    Leaves P i session w id row.revision plaintext content (v.device i).bookmarks v' := by
  obtain ⟨server, file, mapping, _⟩ := saved.frame
  refine ⟨⟨row, ⟨server ▸ touches.stored, server ▸ touches.others⟩, rfl, opens⟩, mapping, ?_, file⟩
  obtain ⟨envelope, sealed, rfl⟩ := saved
  refine ⟨envelope, ?_, sealed⟩
  rw [World.setDevice_self, Serves.persisted_syncBases_self]

omit [DecidableEq ι] in
theorem Touches.of_uploads {plaintext : Plaintext} {known : Option U64} {id : ObjectId}
    {row : ObjectRow C}
    (uploads : session.core.Uploads P bookmarkNamespace plaintext known id w.server v.server row) :
    Touches w v id row := by
  refine ⟨uploads.stored, fun other differ => ?_⟩
  rw [uploads.written, Server.write_objects_of_ne _ row differ]

omit [DecidableEq ι] in
theorem AfterUpload.touches {id : ObjectId} {remote merged : BookmarkSnapshotV1}
    {row row' : ObjectRow C} (stored : w.server.objects id = some row)
    (uploaded : AfterUpload P session id remote merged row w v row') : Touches w v id row' := by
  rcases uploaded with ⟨_, rfl, rfl⟩ | ⟨_, _, uploads⟩
  · exact ⟨stored, fun _ _ => rfl⟩
  · exact .of_uploads uploads

omit [DecidableEq ι] in
/-- Two uploads of one sync write the same. -/
theorem AfterUpload.alike {id : ObjectId} {base : Option BookmarkSnapshotV1}
    {loc remote merged : BookmarkSnapshotV1} {row row₁ row₂ : ObjectRow C} {w₁ w₂ : World ι C}
    (finds : Finds P i session w id row base loc remote)
    (left : AfterUpload P session id remote merged row w w₁ row₁)
    (right : AfterUpload P session id remote merged row w w₂ row₂) :
    row₂.revision = row₁.revision ∧ ∃ plaintext,
      RowOpens P session.core.masterKey id row₁ plaintext ∧
      RowOpens P session.core.masterKey id row₂ plaintext := by
  rcases left with ⟨same, rfl, rfl⟩ | ⟨changed, _, uploads⟩
  · rcases right with ⟨_, rfl, rfl⟩ | ⟨changed, _⟩
    · obtain ⟨plaintext, opens, _⟩ := finds.reads
      exact ⟨rfl, plaintext, opens, opens⟩
    · exact absurd same changed
  · rcases right with ⟨same, _⟩ | ⟨_, _, uploads'⟩
    · exact absurd same changed
    · exact ⟨uploads'.follows.unique uploads.follows, _, uploads.opens, uploads'.opens⟩

omit [DecidableEq ι] in
/-- The newest object of the namespace is what a device looks at that is mapped to it or not at
all. -/
theorem remoteOf_newest (lawful : P.Lawful) (tidy : v.server.Tidy P) {id : ObjectId}
    {row : ObjectRow C} (stored : v.server.objects id = some row)
    (space : row.nameSpace = bookmarkNamespace) (live : row.deleted = false)
    (last : v.server.sequence = row.cursor.val)
    (known : ∀ object, (v.device i).state.mappings session.bookmarkKey = some object →
      object.objectId = id) :
    (∀ content, RowReads P session.core.masterKey readSnapshot id row content →
      content.profileDirectory = session.profile.directoryName →
      session.remoteOf P i v = .ok (some (content,
        ⟨id, bookmarkNamespace, row.revision.toU64, row.cursor.toU64, true⟩))) ∧
    ∀ e, session.core.loaded P readSnapshot v.server bookmarkNamespace id = .error e →
      e ≠ authenticationFailed → session.remoteOf P i v = .error e.message := by
  have newest : ∀ change ∈ v.server.changes, change.nameSpace = bookmarkNamespace →
      change.deleted = false → change.cursor ≤ row.cursor := by
    intro change member _ _
    exact Fin.le_def.mpr (last ▸ tidy.sound.issued change member)
  cases mapping : (v.device i).state.mappings session.bookmarkKey with
  | some object =>
      cases known object mapping
      rw [Session.remoteOf, mapping]
      dsimp only
      constructor
      · intro content reads _
        rw [fetched_ok.mpr ⟨row, stored, space, reads, rfl⟩]
        rfl
      · intro e failed _
        rw [fetched_error.mpr failed]
        rfl
  | none =>
      rw [Session.remoteOf, mapping]
      dsimp only
      constructor
      · intro content reads mine
        rw [discovered_newest lawful tidy stored space live newest
          (fetched_ok.mpr ⟨row, stored, space, reads, rfl⟩) (decide_eq_true mine)]
        rfl
      · intro e failed other
        obtain ⟨first, rest, rfl, outcome⟩ := discovered_first lawful tidy stored space live newest
        rw [outcome, ClientCore.firstFetched, fetched_error.mpr failed]
        simp [isUndecryptableCandidate, other, Except.mapError]

omit [DecidableEq ι] in
/-- After an upload the device looks at what was uploaded, and reads it if the document can be read
again. -/
theorem remoteOf_uploaded (lawful : P.Lawful) (tidy : v.server.Tidy P)
    {content : BookmarkSnapshotV1} {base : Option U64} {id : ObjectId} {row : ObjectRow C}
    (uploads : session.core.Uploads P bookmarkNamespace (.json (writeSnapshot content)) base id
      w.server v.server row)
    (mine : content.profileDirectory = session.profile.directoryName)
    (known : ∀ object, (v.device i).state.mappings session.bookmarkKey = some object →
      object.objectId = id) :
    if (writeSnapshot content).depth < Json.recursionLimit then
      RowReads P session.core.masterKey readSnapshot id row content ∧
        session.remoteOf P i v = .ok (some (content,
          ⟨id, bookmarkNamespace, row.revision.toU64, row.cursor.toU64, true⟩))
    else ∃ e, session.remoteOf P i v = .error e := by
  have last : v.server.sequence = row.cursor.val := by rw [uploads.written]; rfl
  obtain ⟨read, unread⟩ := remoteOf_newest lawful tidy uploads.stored uploads.space uploads.live last
    known
  split_ifs with shallow
  · have reads : RowReads P session.core.masterKey readSnapshot id row content :=
      ⟨_, uploads.opens, (parseAs_writeSnapshot content).trans (if_pos shallow)⟩
    exact ⟨reads, read content reads mine⟩
  · refine ⟨_, unread (.serialization "recursion limit exceeded") ?_ nofun⟩
    rw [ClientCore.loaded, ClientCore.downloaded_ok.mpr
      ⟨row, uploads.stored, uploads.space, uploads.opens⟩]
    exact (parseAs_writeSnapshot content).trans (if_neg shallow)

omit [DecidableEq ι] in
theorem Finds.unique {id id' : ObjectId} {row row' : ObjectRow C}
    {base base' : Option BookmarkSnapshotV1} {loc loc' remote remote' : BookmarkSnapshotV1}
    (left : Finds P i session w id row base loc remote)
    (right : Finds P i session w id' row' base' loc' remote') :
    id' = id ∧ row' = row ∧ base' = base ∧ loc' = loc ∧ remote' = remote := by
  obtain ⟨sameRemote, sameProof⟩ := Prod.mk.inj (Option.some.inj
    (Except.ok.inj (left.looked.symm.trans right.looked)))
  cases congrArg SyncProof.objectId sameProof
  exact ⟨rfl, Option.some.inj (right.stored.symm.trans left.stored),
    Except.ok.inj (right.opened.symm.trans left.opened), right.file.unique left.file,
    sameRemote.symm⟩

/-- A sync without a fault that merges what it found to that. -/
theorem Finds.retried (lawful : P.Lawful) {id : ObjectId} {row : ObjectRow C}
    {base : Option BookmarkSnapshotV1} {loc content : BookmarkSnapshotV1}
    {merged : BookmarkMergeResult} (finds : Finds P i session v id row base loc content)
    (accepted : mergeBookmarks base loc content = .ok merged) (same : merged.snapshot = content)
    (keepable : Keepable P session (.json (writeSnapshot content)))
    {extensions : ExtensionSyncOutcome} {outcome : Except String SyncFeedback}
    (run : (session.syncBookmarks P extensions).run.Runs (World.exec P i) (Smooth P) v outcome v') :
    outcome.isOk ∧ ∃ v₂, AfterRestore i loc content v v₂ ∧
      AfterSave P i session content ⟨id, row.revision.toU64⟩ v₂ v' := by
  obtain ⟨_, done⟩ := run.post (@syncs_alone _ _ _ P i (Smooth P) session v [] lawful extensions)
  have ready : Ready P i session v :=
    (finds.ready_iff accepted).mpr ⟨same.symm ▸ keepable, fun differ => absurd same differ⟩
  cases outcome with
  | error e => exact absurd (done.2 ready) not_faulty_smooth
  | ok feedback =>
      refine ⟨rfl, ?_⟩
      cases done.1 with
      | first _ looked => cases finds.looked.symm.trans looked
      | @merged id' row' base' loc' remote' merged' v₁ v₂ row₁ finds' accepted' uploaded restored
          saved =>
          obtain ⟨rfl, rfl, rfl, rfl, rfl⟩ := finds.unique finds'
          cases accepted.symm.trans accepted'
          rcases uploaded with ⟨_, rfl, rfl⟩ | ⟨changed, _⟩
          · rw [same] at restored saved
            exact ⟨v₂, restored, saved⟩
          · exact absurd same changed

/-- What such a sync leaves, when the object is all that changed since `w`. -/
theorem Finds.resumed (lawful : P.Lawful) {id : ObjectId} {row : ObjectRow C}
    {base : Option BookmarkSnapshotV1} {loc content : BookmarkSnapshotV1} {plaintext : Plaintext}
    {merged : BookmarkMergeResult} (touches : Touches w v id row)
    (opens : RowOpens P session.core.masterKey id row plaintext)
    (finds : Finds P i session v id row base loc content)
    (accepted : mergeBookmarks base loc content = .ok merged) (same : merged.snapshot = content)
    (keepable : Keepable P session (.json (writeSnapshot content)))
    {extensions : ExtensionSyncOutcome} {outcome : Except String SyncFeedback}
    (run : (session.syncBookmarks P extensions).run.Runs (World.exec P i) (Smooth P) v outcome v') :
    outcome.isOk ∧ Leaves P i session w id row.revision plaintext content
      (HeliumSync.restoredFile loc content (v.device i).bookmarks) v' := by
  obtain ⟨ok, v₂, restored, saved⟩ := finds.retried lawful accepted same keepable run
  refine ⟨ok, restored.restoredFile ▸ saved.leaves ?_ opens⟩
  exact ⟨restored.server ▸ touches.stored, restored.server ▸ touches.others⟩

/-- What a sync leaves that found an object. -/
theorem Finds.leaves {id : ObjectId} {row row' : ObjectRow C} {base : Option BookmarkSnapshotV1}
    {loc remote content : BookmarkSnapshotV1} {plaintext : Plaintext} {w₁ w₂ : World ι C}
    (finds : Finds P i session w id row base loc remote)
    (uploaded : AfterUpload P session id remote content row w w₁ row')
    (opens : RowOpens P session.core.masterKey id row' plaintext)
    (restored : AfterRestore i loc content w₁ w₂)
    (saved : AfterSave P i session content ⟨id, row'.revision.toU64⟩ w₂ v) :
    Leaves P i session w id row'.revision plaintext content
      (HeliumSync.restoredFile loc content (w.device i).bookmarks) v := by
  have touches := uploaded.touches finds.stored
  have file := restored.restoredFile
  rw [uploaded.device] at file
  exact file ▸ saved.leaves ⟨restored.server ▸ touches.stored, restored.server ▸ touches.others⟩ opens

/-- What a first sync leaves. -/
theorem AfterFirst.leaves {id : ObjectId} {row : ObjectRow C} {loc : BookmarkSnapshotV1}
    {w₁ : World ι C} (uploaded : AfterFirst P session id loc w w₁ row)
    (saved : AfterSave P i session loc ⟨id, row.revision.toU64⟩ w₁ v) :
    Leaves P i session w id row.revision (.json (writeSnapshot loc)) loc (w.device i).bookmarks v :=
  uploaded.1 ▸ saved.leaves (.of_uploads uploaded.2) uploaded.2.opens

omit [DecidableEq ι] in
theorem ClientCore.Uploads.changed {plaintext : Plaintext} {base : Option U64} {id : ObjectId}
    {row : ObjectRow C} {core : ClientCore}
    (uploads : core.Uploads P bookmarkNamespace plaintext base id w.server v.server row) :
    v.server ≠ w.server := by
  intro same
  have stored := uploads.stored
  rw [same] at stored
  rcases uploads.follows with ⟨absent, _⟩ | ⟨row', found, _, next⟩
  · cases absent.symm.trans stored
  · cases found.symm.trans stored
    omega

omit [DecidableEq ι] in
theorem Intends.unique {a b : BookmarkSnapshotV1} (left : Intends P i session w a)
    (right : Intends P i session w b) : a = b := by
  cases left with
  | merged finds accepted =>
      cases right with
      | merged finds' accepted' =>
          obtain ⟨rfl, rfl, rfl, rfl, rfl⟩ := finds.unique finds'
          cases accepted.symm.trans accepted'
          rfl
      | first _ looked => cases looked.symm.trans finds.looked
  | first file looked =>
      cases right with
      | merged finds => cases looked.symm.trans finds.looked
      | first file' => exact file.unique file'

omit [DecidableEq ι] in
theorem Intends.rereadable_iff {content : BookmarkSnapshotV1}
    (intends : Intends P i session w content) :
    Rereadable P i session w ↔ (writeSnapshot content).depth < Json.recursionLimit :=
  ⟨fun all => all content intends, fun shallow _ other => other.unique intends ▸ shallow⟩

omit [DecidableEq ι] in
/-- Where an upload was applied, a retry hangs on whether the document can be read again. -/
theorem AfterUpload.rereadable_iff {id : ObjectId} {base : Option BookmarkSnapshotV1}
    {loc remote : BookmarkSnapshotV1} {merged : BookmarkMergeResult} {row row' : ObjectRow C}
    {w₁ : World ι C} (finds : Finds P i session w id row base loc remote)
    (accepted : mergeBookmarks base loc remote = .ok merged)
    (uploaded : AfterUpload P session id remote merged.snapshot row w w₁ row')
    (server : v.server = w₁.server) :
    v.server = w.server ∨ Rereadable P i session w ↔
      (writeSnapshot merged.snapshot).depth < Json.recursionLimit := by
  rw [(Intends.merged finds accepted).rereadable_iff]
  rcases uploaded with ⟨same, rfl, rfl⟩ | ⟨_, _, uploads⟩
  · obtain ⟨plaintext, _, parsed⟩ := finds.reads
    exact ⟨fun _ => same ▸ shallow_of_parseAs parsed, .inr⟩
  · exact or_iff_right (server ▸ uploads.changed)

/-- A sync that cannot read what it looks at fails. -/
theorem not_isOk_of_remoteOf (lawful : P.Lawful) {e : String}
    (failed : session.remoteOf P i v = .error e) {allow : Op C → Choice → World ι C → Prop}
    {extensions : ExtensionSyncOutcome} {outcome : Except String SyncFeedback}
    (run : (session.syncBookmarks P extensions).run.Runs (World.exec P i) allow v outcome v') :
    ¬ outcome.isOk := by
  obtain ⟨_, done⟩ := run.post (@syncs_alone _ _ _ P i allow session v [] lawful extensions)
  cases outcome with
  | error e => nofun
  | ok feedback =>
      cases done.1 with
      | merged finds => cases failed.symm.trans finds.looked
      | first _ looked => cases failed.symm.trans looked

end

theorem Mergeable.symm {a b : BookmarkSnapshotV1} (pair : Mergeable a b) : Mergeable b a :=
  ⟨pair.1.symm, pair.2.1.symm, pair.2.2.symm⟩

theorem Mergeable.trans {a b c : BookmarkSnapshotV1} (left : Mergeable a b) (right : Mergeable b c) :
    Mergeable a c :=
  ⟨left.1.trans right.1, left.2.1.trans right.2.1, left.2.2.trans right.2.2⟩

theorem mergeable_merged {base : Option BookmarkSnapshotV1} {loc remote : BookmarkSnapshotV1}
    {merged : BookmarkMergeResult} (accepted : mergeBookmarks base loc remote = .ok merged) :
    Mergeable loc merged.snapshot := by
  obtain ⟨pair, _, rfl⟩ := mergeBookmarks_ok.mp accepted
  exact pair

/-- Merging once more changes nothing. -/
theorem mergeBookmarks_again {base : Option BookmarkSnapshotV1} {loc remote : BookmarkSnapshotV1}
    {merged : BookmarkMergeResult} (accepted : mergeBookmarks base loc remote = .ok merged)
    (distinct : ∀ root ∈ remote.roots, root.node.Distinct) :
    ∃ again, mergeBookmarks base loc merged.snapshot = .ok again ∧
      again.snapshot = merged.snapshot := by
  obtain ⟨pair, based, rfl⟩ := mergeBookmarks_ok.mp accepted
  refine ⟨_, mergeBookmarks_ok.mpr ⟨pair, based, rfl⟩, ?_⟩
  dsimp only
  rw [mergedRoots_absorb _ _ distinct, max_eq_right (le_max_left _ _)]

/-- A local side that has the content of the remote one adopts it, whatever the base. -/
theorem mergeBookmarks_agreed {base : Option BookmarkSnapshotV1} {loc content : BookmarkSnapshotV1}
    (same : SameContent loc content) (pair : Mergeable loc content)
    (based : ∀ b, base = some b → Mergeable b loc)
    (distinct : (content.roots.map BookmarkRoot.key).Nodup) :
    ∃ merged, mergeBookmarks base loc content = .ok merged ∧ merged.snapshot = content :=
  mergeBookmarks_adopts pair based same.version.le distinct fun key => by
    rw [same.nodes key, mergedNode_self]

section
variable {ι C : Type} [DecidableEq ι] {P : Primitives C} {i : ι} {session : Session}
  {w w' v v' w₁ : World ι C} {id : ObjectId} {row row' : ObjectRow C}
  {base : Option BookmarkSnapshotV1} {loc remote : BookmarkSnapshotV1} {merged : BookmarkMergeResult}

omit [DecidableEq ι] in
/-- What a device finds after the upload of a merge that looks where it looked before. -/
theorem Finds.uploaded (lawful : P.Lawful) (tidy : v.server.Tidy P)
    (finds : Finds P i session w id row base loc remote)
    (accepted : mergeBookmarks base loc remote = .ok merged)
    (uploaded : AfterUpload P session id remote merged.snapshot row w w₁ row')
    (server : v.server = w₁.server)
    (mapping : (v.device i).state.mappings session.bookmarkKey =
        (w.device i).state.mappings session.bookmarkKey ∨
      ∃ object, (v.device i).state.mappings session.bookmarkKey = some object ∧
        object.objectId = id) :
    if (writeSnapshot merged.snapshot).depth < Json.recursionLimit then
      ∀ loc' base', LocalIs P i session v loc' →
        session.openedBase P ((v.device i).state.syncBases session.bookmarkKey) = .ok base' →
        Finds P i session v id row' base' loc' merged.snapshot
    else ∃ e, session.remoteOf P i v = .error e := by
  have known : ∀ object, (v.device i).state.mappings session.bookmarkKey = some object →
      object.objectId = id := by
    intro object stored
    rcases mapping with same | ⟨object', stored', named⟩
    · exact (finds.mapped (same.symm.trans stored)).symm
    · cases stored.symm.trans stored'
      exact named
  rcases uploaded with ⟨same, rfl, rfl⟩ | ⟨_, _, uploads⟩
  · have reads := finds.reads
    obtain ⟨plaintext, _, parsed⟩ := reads
    rw [if_pos (same ▸ shallow_of_parseAs parsed), same]
    intro loc' base' file opened
    refine ⟨file, ?_, server ▸ finds.stored, finds.space, finds.reads, opened⟩
    rcases mapping with kept | ⟨object, stored, named⟩
    · rw [Session.remoteOf, server, kept]
      exact finds.looked
    · rw [Session.remoteOf, stored, server]
      dsimp only
      rw [named, fetched_ok.mpr ⟨row', finds.stored, finds.space, finds.reads, rfl⟩]
      rfl
  · rw [← server] at uploads
    have again := remoteOf_uploaded lawful tidy uploads (finds.directory accepted) known
    split_ifs at again ⊢ with shallow
    · exact fun loc' base' file opened =>
        ⟨file, again.2, uploads.stored, uploads.space, again.1, opened⟩
    · exact again

/-- A retry after a sync that found an object and got to the upload: it hangs on whether the document
can be read again. -/
theorem Finds.retry_iff (lawful : P.Lawful) (tidy : v.server.Tidy P) (ready : Ready P i session w)
    (finds : Finds P i session w id row base loc remote)
    (accepted : mergeBookmarks base loc remote = .ok merged)
    (uploaded : AfterUpload P session id remote merged.snapshot row w w₁ row')
    (server : v.server = w₁.server)
    (mapping : (v.device i).state.mappings session.bookmarkKey =
        (w.device i).state.mappings session.bookmarkKey ∨
      ∃ object, (v.device i).state.mappings session.bookmarkKey = some object ∧
        object.objectId = id)
    (resumes : (writeSnapshot merged.snapshot).depth < Json.recursionLimit →
      ∃ base' loc' again, LocalIs P i session v loc' ∧
        session.openedBase P ((v.device i).state.syncBases session.bookmarkKey) = .ok base' ∧
        mergeBookmarks base' loc' merged.snapshot = .ok again ∧ again.snapshot = merged.snapshot ∧
        restoredFile loc' merged.snapshot (v.device i).bookmarks =
          restoredFile loc merged.snapshot (w.device i).bookmarks)
    (whole : Syncs P i session w w') {extensions : ExtensionSyncOutcome}
    {outcome : Except String SyncFeedback}
    (retried : (session.syncBookmarks P extensions).run.Runs (World.exec P i) (Smooth P) v outcome
      v') :
    (outcome.isOk ∧ LeaveAlike P i session w w' v') ↔
      v.server = w.server ∨ Rereadable P i session w := by
  rw [uploaded.rereadable_iff finds accepted server]
  have found := finds.uploaded lawful tidy accepted uploaded server mapping
  split_ifs at found with shallow
  · refine iff_of_true ?_ shallow
    obtain ⟨base', loc', again, file, opened, accepted', same, kept⟩ := resumes shallow
    have keepable := ((finds.ready_iff accepted).mp ready).1
    cases whole with
    | first _ looked => cases finds.looked.symm.trans looked
    | merged finds₁ accepted₁ uploaded₁ restored₁ saved₁ =>
        obtain ⟨rfl, rfl, rfl, rfl, rfl⟩ := finds.unique finds₁
        cases accepted.symm.trans accepted₁
        obtain ⟨revision, plaintext, opens₁, opens⟩ := AfterUpload.alike finds uploaded₁ uploaded
        have touches := uploaded.touches finds.stored
        have resumed := Finds.resumed lawful (w := w)
          ⟨server ▸ touches.stored, server ▸ touches.others⟩ opens (found loc' base' file opened)
          accepted' same keepable retried
        rw [kept, revision] at resumed
        exact ⟨resumed.1, _, _, _, plaintext, _, _,
          finds.leaves uploaded₁ opens₁ restored₁ saved₁, resumed.2, .inl rfl⟩
  · obtain ⟨e, failed⟩ := found
    exact iff_of_false (fun both => not_isOk_of_remoteOf lawful failed retried both.1) shallow

/-- A retry after a first upload. -/
theorem AfterFirst.retry_iff (lawful : P.Lawful) (tidy : v.server.Tidy P)
    (ready : Ready P i session w) (file : LocalIs P i session w loc)
    (looked : session.remoteOf P i w = .ok none) (uploaded : AfterFirst P session id loc w w₁ row)
    (server : v.server = w₁.server)
    (bookmarks : (v.device i).bookmarks = (w.device i).bookmarks)
    (known : ∀ object, (v.device i).state.mappings session.bookmarkKey = some object →
      object.objectId = id)
    (resumes : (writeSnapshot loc).depth < Json.recursionLimit → ∃ base',
      session.openedBase P ((v.device i).state.syncBases session.bookmarkKey) = .ok base' ∧
      ∀ b, base' = some b → Mergeable b loc)
    (whole : Syncs P i session w w') {extensions : ExtensionSyncOutcome}
    {outcome : Except String SyncFeedback}
    (retried : (session.syncBookmarks P extensions).run.Runs (World.exec P i) (Smooth P) v outcome
      v') :
    (outcome.isOk ∧ LeaveAlike P i session w w' v') ↔
      v.server = w.server ∨ Rereadable P i session w := by
  have uploads := uploaded.2
  rw [← server] at uploads
  obtain ⟨_, _, directory, ascending⟩ := file.shape
  rw [or_iff_right uploads.changed, (Intends.first file looked).rereadable_iff]
  have again := remoteOf_uploaded lawful tidy uploads directory known
  split_ifs at again with shallow
  · refine iff_of_true ?_ shallow
    obtain ⟨base', opened, based⟩ := resumes shallow
    have finds : Finds P i session v id row base' loc loc :=
      ⟨file.congr bookmarks, again.2, uploads.stored, uploads.space, again.1, opened⟩
    obtain ⟨merged, accepted, same⟩ :=
      mergeBookmarks_agreed (.refl loc) ⟨rfl, rfl, rfl⟩ based ascending.nodup
    have resumed := Finds.resumed lawful (.of_uploads uploads) uploads.opens finds accepted same
      (ready.first loc file looked).2 retried
    rw [restoredFile, if_pos rfl, bookmarks] at resumed
    cases whole with
    | merged finds' => cases looked.symm.trans finds'.looked
    | first file₁ _ uploaded₁ saved₁ =>
        cases file.unique file₁
        have follows := uploads.follows
        have follows₁ := uploaded₁.2.follows
        rw [uploads.absent] at follows
        rw [uploaded₁.2.absent] at follows₁
        rw [follows.unique follows₁] at resumed
        exact ⟨resumed.1, _, _, _, _, _, _, uploaded₁.leaves saved₁, resumed.2,
          .inr ⟨uploaded₁.2.absent, uploads.absent⟩⟩
  · obtain ⟨e, failed⟩ := again
    exact iff_of_false (fun both => not_isOk_of_remoteOf lawful failed retried both.1) shallow

/-- Two syncs without a fault from the same world leave the same. -/
theorem Syncs.alike (left : Syncs P i session w w') (right : Syncs P i session w v') :
    LeaveAlike P i session w w' v' := by
  cases left with
  | merged finds accepted uploaded restored saved =>
      cases right with
      | first _ looked => cases finds.looked.symm.trans looked
      | merged finds₁ accepted₁ uploaded₁ restored₁ saved₁ =>
          obtain ⟨rfl, rfl, rfl, rfl, rfl⟩ := finds.unique finds₁
          cases accepted.symm.trans accepted₁
          obtain ⟨revision, plaintext, opens, opens₁⟩ := AfterUpload.alike finds uploaded uploaded₁
          have leaves := finds.leaves uploaded₁ opens₁ restored₁ saved₁
          rw [revision] at leaves
          exact ⟨_, _, _, plaintext, _, _, finds.leaves uploaded opens restored saved, leaves,
            .inl rfl⟩
  | first file looked uploaded saved =>
      cases right with
      | merged finds => cases looked.symm.trans finds.looked
      | first file₁ _ uploaded₁ saved₁ =>
          cases file.unique file₁
          have follows := uploaded.2.follows
          have follows₁ := uploaded₁.2.follows
          rw [uploaded.2.absent] at follows
          rw [uploaded₁.2.absent] at follows₁
          have leaves := uploaded₁.leaves saved₁
          rw [follows₁.unique follows] at leaves
          exact ⟨_, _, _, _, _, _, uploaded.leaves saved, leaves,
            .inr ⟨uploaded.2.absent, uploaded₁.2.absent⟩⟩

omit [DecidableEq ι] in
theorem unmapped_of_remoteOf (looked : session.remoteOf P i w = .ok none) :
    (w.device i).state.mappings session.bookmarkKey = none := by
  cases mapped : (w.device i).state.mappings session.bookmarkKey with
  | none => rfl
  | some object =>
      obtain ⟨_, _, same, _⟩ := Session.remoteOf_mapped mapped looked
      cases same

/-- The base that was saved can be opened, when its document can be read again. -/
theorem AfterSave.opened {content : BookmarkSnapshotV1} {object : ObjectMapping}
    (saved : AfterSave P i session content object w v)
    (shallow : (writeSnapshot content).depth < Json.recursionLimit) :
    session.openedBase P ((v.device i).state.syncBases session.bookmarkKey) = .ok (some content) := by
  obtain ⟨envelope, sealed, rfl⟩ := saved
  have parsed : (P.parseText (.json (writeSnapshot content))).bind readSnapshot = .ok content :=
    (readSnapshot_writeSnapshot content).trans (if_pos shallow)
  rw [World.setDevice_self, Serves.persisted_syncBases_self, Session.openedBase_some sealed, parsed]
  rfl

omit [DecidableEq ι] in
/-- The file is the merge's, so that the device now has the content of the object. -/
theorem Finds.resumes_written (finds : Finds P i session w id row base loc remote)
    (accepted : mergeBookmarks base loc remote = .ok merged) (changed : merged.snapshot ≠ loc)
    (written : (v.device i).bookmarks = some (.json (chromiumBookmarksJson merged.snapshot)))
    (shallow : (writeSnapshot merged.snapshot).depth < Json.recursionLimit)
    {base' : Option BookmarkSnapshotV1}
    (opened : session.openedBase P ((v.device i).state.syncBases session.bookmarkKey) = .ok base')
    (based : ∀ b, base' = some b → Mergeable b loc) :
    ∃ base' loc' again, LocalIs P i session v loc' ∧
      session.openedBase P ((v.device i).state.syncBases session.bookmarkKey) = .ok base' ∧
      mergeBookmarks base' loc' merged.snapshot = .ok again ∧ again.snapshot = merged.snapshot ∧
      restoredFile loc' merged.snapshot (v.device i).bookmarks =
        restoredFile loc merged.snapshot (w.device i).bookmarks := by
  obtain ⟨format, browser, directory, _⟩ := finds.file.shape
  have file := @parseBookmarks_written _ P session.profile merged.snapshot shallow
  have pair : Mergeable loc (readBack session.profile.directoryName merged.snapshot) :=
    ⟨format, browser, directory⟩
  obtain ⟨again, accepted', same⟩ := @mergeBookmarks_agreed base' _ _
    (sameContent_readBack session.profile.directoryName merged.snapshot)
    (pair.symm.trans (mergeable_merged accepted)) (fun b here => (based b here).trans pair)
    (mergeBookmarks_keys accepted)
  refine ⟨base', _, again, ⟨_, written, file⟩, opened, accepted', same, ?_⟩
  rw [written, restoredFile, restoredFile, if_neg changed, ite_self]

omit [DecidableEq ι] in
/-- The merge was the local side, and the device has it as its base. -/
theorem Finds.resumes_kept (finds : Finds P i session w id row base loc remote)
    (same : merged.snapshot = loc) (file : (v.device i).bookmarks = (w.device i).bookmarks)
    {base' : Option BookmarkSnapshotV1}
    (opened : session.openedBase P ((v.device i).state.syncBases session.bookmarkKey) = .ok base')
    (based : ∀ b, base' = some b → Mergeable b loc) :
    ∃ base' loc' again, LocalIs P i session v loc' ∧
      session.openedBase P ((v.device i).state.syncBases session.bookmarkKey) = .ok base' ∧
      mergeBookmarks base' loc' merged.snapshot = .ok again ∧ again.snapshot = merged.snapshot ∧
      restoredFile loc' merged.snapshot (v.device i).bookmarks =
        restoredFile loc merged.snapshot (w.device i).bookmarks := by
  obtain ⟨again, accepted, adopted⟩ := @mergeBookmarks_agreed base' loc loc (.refl loc)
    ⟨rfl, rfl, rfl⟩ based finds.file.shape.2.2.2.nodup
  rw [same, file]
  exact ⟨base', loc, again, finds.file.congr file, opened, accepted, adopted, rfl⟩

omit [DecidableEq ι] in
theorem Finds.resumes_same (finds : Finds P i session w id row base loc remote)
    (accepted : mergeBookmarks base loc remote = .ok merged)
    (distinct : ∀ root ∈ remote.roots, root.node.Distinct)
    (file : (v.device i).bookmarks = (w.device i).bookmarks)
    (state : (v.device i).state = (w.device i).state) :
    ∃ base' loc' again, LocalIs P i session v loc' ∧
      session.openedBase P ((v.device i).state.syncBases session.bookmarkKey) = .ok base' ∧
      mergeBookmarks base' loc' merged.snapshot = .ok again ∧ again.snapshot = merged.snapshot ∧
      restoredFile loc' merged.snapshot (v.device i).bookmarks =
        restoredFile loc merged.snapshot (w.device i).bookmarks := by
  obtain ⟨again, accepted', same⟩ := mergeBookmarks_again accepted distinct
  exact ⟨base, loc, again, finds.file.congr file, state ▸ finds.opened, accepted', same, by rw [file]⟩

end

end HeliumSync
