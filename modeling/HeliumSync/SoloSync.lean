import HeliumSync.Codec
import HeliumSync.CommandRules
import HeliumSync.MergeStep
import HeliumSync.Readiness

/-! One bookmark sync with nobody else about: the stages it goes through and where it can end. -/
namespace HeliumSync
open Interaction (Prog Action Entry Contract)

variable {ι C : Type} [DecidableEq ι] {P : Primitives C} {i : ι}
  {allow : Op C → Choice → World ι C → Prop}

theorem serves_alone : Serves P i (fun w => w) (.alone (World.exec P i) allow) where
  exec ran := ran
  still _ same := same
  quiet _ _ := trivial
  trans first later := Eq.trans first later

/-- A choice without a fault. A drawn object id is fresh. -/
def Smooth (P : Primitives C) : Op C → Choice → World ι C → Prop
  | .sample, .sampled s, w =>
      w.server.objects s.objectId = none ∧ ∃ text, P.formatRfc3339 s.time = .ok text
  | .sample, _, _ => False
  | .readFile, choice, _ => choice.Steady
  | .replaceFile _, .backedUp _, _ => True
  | .replaceFile _, _, _ => False
  | _, choice, _ => choice = .proceed

/-- Some choice that is allowed has a fault. -/
def Faulty (P : Primitives C) (allow : Op C → Choice → World ι C → Prop) : Prop :=
  ∃ op choice w, allow op choice w ∧ ¬ Smooth P op choice w

omit [DecidableEq ι] in
theorem not_faulty_smooth : ¬ Faulty P (Smooth P : Op C → Choice → World ι C → Prop) :=
  fun ⟨_, _, _, smooth, fault⟩ => fault smooth

/-- A read of a sync, of the server or of the local state. -/
def Op.Seeks : Op C → Prop
  | .getObject _ | .changes _ | .mapping _ | .syncBase _ => True
  | _ => False

/-- What follows if such a read may fail. -/
def FaultMeans (allow : Op C → Choice → World ι C → Prop) (F : Prop) : Prop :=
  ∀ op choice w, op.Seeks → allow op choice w → choice ≠ .proceed → F

omit [DecidableEq ι] in
theorem faultMeans_faulty : FaultMeans allow (Faulty P allow) := by
  intro op choice w seeks allowed fault
  refine ⟨op, choice, w, allowed, fun smooth => fault ?_⟩
  cases op with
  | getObject | changes | mapping | syncBase => exact smooth
  | _ => exact seeks.elim

omit [DecidableEq ι] in
theorem FaultMeans.or_cause {F : Prop} (means : FaultMeans allow F) {op : Op C} {choice : Choice}
    {e : ClientError} {cause : Prop} {w : World ι C} (allowed : allow op choice w)
    (seeks : op.Seeks) (fault : Fault choice e cause) : F ∨ cause :=
  fault.elim .inr fun h => .inl (means op choice w seeks allowed h.1)

namespace ClientCore
variable {α : Type} {core : ClientCore} {nameSpace : String} {read : Json → Except String α}
  {belongs : α → Bool} {w : World ι C} {journal : Journal C}
  {ok : Option (α × SyncProof) → Journal C → World ι C → Prop}
  {error : ClientError → Journal C → World ι C → Prop}

theorem firstOf_alone {F : Prop} (means : FaultMeans allow F) {candidates : List Candidate}
    (good : ∀ r journal', core.firstFetched P w.server read nameSpace belongs candidates = .ok r →
      ok r journal' w)
    (bad : ∀ e journal', F ∨
      core.firstFetched P w.server read nameSpace belongs candidates = .error e →
      error e journal' w) :
    Action.Attempts (.alone (World.exec P i) allow) ok error
      (ClientCore.firstOf (fun id => do
        let (plaintext, proof) ← core.download P nameSpace id
        let value ← .ofExcept (ClientCore.parseAs P read plaintext)
        return (value, proof)) belongs candidates) journal w := by
  refine serves_alone.firstOf (.refl journal)
    (fun rest w₁ => w₁ = w ∧ core.firstFetched P w.server read nameSpace belongs rest =
      core.firstFetched P w.server read nameSpace belongs candidates)
    (fun candidate rest w₁ w₂ row value journal' before same _ stored space reads _ => ?_)
    (fun candidate rest w₁ w₂ before same _ failed => ?_)
    (fun candidate rest w₁ w₂ choice e earlier journal' before same _ allowed fault known _ => ?_)
    (fun w₁ journal' before _ => ?_) ⟨rfl, rfl⟩
  · obtain ⟨rfl, before⟩ := before
    cases same
    have fetched := fetched_ok.mpr ⟨row, stored, space, reads, rfl⟩
    rw [firstFetched, fetched] at before
    dsimp only at before
    split_ifs with mine
    · rw [if_pos mine] at before
      exact good _ journal' before.symm
    · rw [if_neg mine] at before
      exact ⟨rfl, before⟩
  · obtain ⟨rfl, before⟩ := before
    cases same
    rw [firstFetched, fetched_error.mpr failed] at before
    exact ⟨rfl, before⟩
  · obtain ⟨rfl, before⟩ := before
    cases same
    refine bad e journal' ((means.or_cause allowed trivial fault).imp_right fun failed => ?_)
    rw [← before, firstFetched, fetched_error.mpr failed]
    exact if_neg (by simpa [isUndecryptableCandidate] using known)
  · obtain ⟨rfl, before⟩ := before
    exact good none journal' before.symm

/-- Discovery alone computes what the server holds, or meets a fault. -/
theorem discover_alone {F : Prop} (means : FaultMeans allow F)
    (good : ∀ r journal', core.discovered P w.server read nameSpace belongs = .ok r →
      ok r journal' w)
    (bad : ∀ e journal', F ∨
      core.discovered P w.server read nameSpace belongs = .error e → error e journal' w) :
    Action.Attempts (.alone (World.exec P i) allow) ok error (do
      let candidates ← ClientCore.discoverChanges nameSpace [] 0
      ClientCore.firstOf (fun id => do
        let (plaintext, proof) ← core.download P nameSpace id
        let value ← .ofExcept (ClientCore.parseAs P read plaintext)
        return (value, proof)) belongs (liveCandidates candidates)) journal w := by
  refine Action.attempts_bind.mpr (serves_alone.discoverChanges (.refl journal)
    (fun noted after w₀ => w₀ = w ∧ paged P w.server nameSpace noted after =
      paged P w.server nameSpace [] 0)
    (fun noted after w₀ w₁ page journal' before same _ got continues => ?_)
    (fun noted after w₀ w₁ choice e earlier journal' before same _ allowed fault continues => ?_)
    ⟨rfl, rfl⟩)
  · obtain ⟨rfl, before⟩ := before
    cases same
    rw [paged, show w₀.server.changesAfter P after defaultChangesLimit = .ok page from got] at before
    simp only [Except.mapError, bind, Except.bind] at before
    split_ifs with more advances
    · rw [if_pos more, dif_pos advances] at before
      exact ⟨rfl, before⟩
    · rw [if_pos more, dif_neg advances] at before
      refine bad _ journal' (.inr ?_)
      rw [discovered, ← before]
      rfl
    · rw [if_neg more] at before
      have outcome (noted : List Candidate) (same : paged P w₀.server nameSpace [] 0 = .ok noted) :
          core.discovered P w₀.server read nameSpace belongs =
            core.firstFetched P w₀.server read nameSpace belongs (liveCandidates noted) := by
        rw [discovered, same]
        rfl
      rw [outcome _ before.symm] at good bad
      exact firstOf_alone means good bad
  · obtain ⟨rfl, before⟩ := before
    cases same
    refine bad e journal' ((means.or_cause allowed trivial fault).imp_right ?_)
    rintro ⟨cause, failed, rfl⟩
    rw [discovered, ← before, paged, failed]
    rfl

end ClientCore

/-- What a client alone finds when it looks for the object of a profile. -/
def ClientCore.looked {α : Type} (P : Primitives C) (core : ClientCore) (server : Server C)
    (read : Json → Except String α) (nameSpace : String) (belongs : α → Bool)
    (mapping : Option ObjectMapping) : Except String (Option (α × SyncProof)) :=
  Except.mapError ClientError.message <|
    match mapping with
    | some mapping => some <$> core.fetched P server read nameSpace mapping.objectId
    | none => core.discovered P server read nameSpace belongs

/-- The rule of finding the object of a profile, for a client alone. -/
theorem object_alone {α : Type} {core : ClientCore} {key : LocalKey} {nameSpace : String}
    {read : Json → Except String α} {belongs : α → Bool} {w : World ι C} {journal : Journal C}
    {ok : Option (α × SyncProof) → Journal C → World ι C → Prop}
    {error : String → Journal C → World ι C → Prop} {F : Prop} (means : FaultMeans allow F)
    (good : ∀ r journal', core.looked P w.server read nameSpace belongs
      ((w.device i).state.mappings key) = .ok r → ok r journal' w)
    (bad : ∀ e journal', F ∨ core.looked P w.server read nameSpace belongs
      ((w.device i).state.mappings key) = .error e → error e journal' w) :
    Action.Attempts (.alone (World.exec P i) allow) ok error (do
      match ← Action.mapErr ClientError.message (localMapping key) with
      | some mapping => do
          return some (← Action.mapErr ClientError.message (do
            let (plaintext, proof) ← core.download P nameSpace mapping.objectId
            let value ← .ofExcept (ClientCore.parseAs P read plaintext)
            return (value, proof)))
      | none => Action.mapErr ClientError.message (do
          let candidates ← ClientCore.discoverChanges nameSpace [] 0
          ClientCore.firstOf (fun id => do
            let (plaintext, proof) ← core.download P nameSpace id
            let value ← .ofExcept (ClientCore.parseAs P read plaintext)
            return (value, proof)) belongs (liveCandidates candidates))) journal w := by
  refine Action.attempts_bind.mpr (Action.attempts_mapErr.mpr (serves_alone.mapping
    (fun w₁ same _ _ => ?_) fun w₁ details same _ allowed => ?_))
  · cases same
    cases stored : (w.device i).state.mappings key with
    | some mapping =>
        rw [stored] at good bad
        dsimp only [ClientCore.looked] at good bad
        refine Action.attempts_bind.mpr (Action.attempts_mapErr.mpr (serves_alone.load
          (fun w₂ row object remote same _ found _ space reads => ?_)
          fun w₂ choice reply e same _ allowed fault => ?_))
        · cases same
          refine Action.attempts_pure.mpr (good _ _ ?_)
          rw [fetched_ok.mpr ⟨row, found, space, reads, rfl⟩]
          rfl
        · cases same
          refine bad _ _ ((means.or_cause allowed trivial fault).imp_right fun failed => ?_)
          rw [fetched_error.mpr failed]
          rfl
    | none =>
        rw [stored] at good bad
        dsimp only [ClientCore.looked] at good bad
        refine Action.attempts_mapErr.mpr (ClientCore.discover_alone means
          (fun r journal' found => good r journal' ?_)
          fun e journal' failed => bad _ journal' (failed.imp_right fun failed => ?_))
        · rw [found]
          rfl
        · rw [failed]
          rfl
  · cases same
    exact bad _ _ (.inl (means (.mapping key) _ w trivial allowed nofun))

/-- What a client alone finds when it looks for the remote snapshot. -/
def Session.remoteOf (P : Primitives C) (session : Session) (i : ι) (w : World ι C) :
    Except String (Option (BookmarkSnapshotV1 × SyncProof)) :=
  Except.mapError ClientError.message <|
    match (w.device i).state.mappings session.bookmarkKey with
    | some mapping => some <$>
        session.core.fetched P w.server readSnapshot bookmarkNamespace mapping.objectId
    | none => session.core.discovered P w.server readSnapshot bookmarkNamespace
        (·.profileDirectory = session.profile.directoryName)

section Stages
variable (P) (i) (session : Session)

/-- The device's own bookmarks. -/
def LocalIs (w : World ι C) (loc : BookmarkSnapshotV1) : Prop :=
  ∃ content, (w.device i).bookmarks = some content ∧
    parseBookmarks P session.profile content = .ok loc

/-- What a sync finds on the device, under an object and as the merge base. -/
structure Finds (w : World ι C) (id : ObjectId) (row : ObjectRow C)
    (base : Option BookmarkSnapshotV1) (loc remote : BookmarkSnapshotV1) : Prop where
  file : LocalIs P i session w loc
  looked : session.remoteOf P i w = .ok (some
    (remote, ⟨id, bookmarkNamespace, row.revision.toU64, row.cursor.toU64, true⟩))
  stored : w.server.objects id = some row
  space : row.nameSpace = bookmarkNamespace
  reads : RowReads P session.core.masterKey readSnapshot id row remote
  opened : session.openedBase P ((w.device i).state.syncBases session.bookmarkKey) = .ok base

/-- The object after the upload: its row if that was the merge already, or the row of the put. -/
def AfterUpload (id : ObjectId) (remote merged : BookmarkSnapshotV1) (row : ObjectRow C)
    (w w' : World ι C) (row' : ObjectRow C) : Prop :=
  (merged = remote ∧ w' = w ∧ row' = row) ∨
  (merged ≠ remote ∧ w'.device = w.device ∧ session.core.Uploads P bookmarkNamespace
    (.json (writeSnapshot merged)) (some row.revision.toU64) id w.server w'.server row')

/-- The file after the restore. -/
def AfterRestore (loc merged : BookmarkSnapshotV1) (w w' : World ι C) : Prop :=
  (merged = loc ∧ w' = w) ∨
  (merged ≠ loc ∧ w' = w.setDevice i ((w.device i).replaced
    (some (.json (chromiumBookmarksJson merged)))))

/-- The local state after it was saved. -/
def AfterSave (merged : BookmarkSnapshotV1) (object : ObjectMapping) (w w' : World ι C) : Prop :=
  ∃ envelope, session.core.openBase P bookmarkNamespace session.profile.directoryName envelope =
      .ok (.json (writeSnapshot merged)) ∧
    w' = w.setDevice i (Serves.persisted session.bookmarkKey object envelope (w.device i))

/-- The object after a first upload. -/
def AfterFirst (id : ObjectId) (loc : BookmarkSnapshotV1) (w w' : World ι C) (row : ObjectRow C) :
    Prop :=
  w'.device = w.device ∧ session.core.Uploads P bookmarkNamespace (.json (writeSnapshot loc)) none
    id w.server w'.server row

/-- A complete sync: of an object that was there, or the first upload. -/
inductive Syncs (w w' : World ι C) : Prop where
  | merged {id row base loc remote merged w₁ w₂ row'}
      (finds : Finds P i session w id row base loc remote)
      (accepted : mergeBookmarks base loc remote = .ok merged)
      (uploaded : AfterUpload P session id remote merged.snapshot row w w₁ row')
      (restored : AfterRestore i loc merged.snapshot w₁ w₂)
      (saved : AfterSave P i session merged.snapshot ⟨id, row'.revision.toU64⟩ w₂ w')
  | first {id loc w₁ row} (file : LocalIs P i session w loc)
      (looked : session.remoteOf P i w = .ok none)
      (uploaded : AfterFirst P session id loc w w₁ row)
      (saved : AfterSave P i session loc ⟨id, row.revision.toU64⟩ w₁ w')

variable (allow) in
/-- Where a sync can stop: before anything was written, after each stage, or within a restore. -/
inductive Halts (w w' : World ι C) : Prop where
  | before (same : w' = w)
  | uploaded {id row base loc remote merged row'}
      (finds : Finds P i session w id row base loc remote)
      (accepted : mergeBookmarks base loc remote = .ok merged)
      (uploaded : AfterUpload P session id remote merged.snapshot row w w' row')
  | restoring {id row base loc remote merged w₁ row' file}
      (finds : Finds P i session w id row base loc remote)
      (accepted : mergeBookmarks base loc remote = .ok merged)
      (changed : merged.snapshot ≠ loc)
      (uploaded : AfterUpload P session id remote merged.snapshot row w w₁ row')
      (partly : w' = w₁.setDevice i ((w₁.device i).replaced file))
      (outcome : file = (w₁.device i).bookmarks ∨
        file = some (.json (chromiumBookmarksJson merged.snapshot)) ∨
        file = none ∧ ∃ content details, allow (.replaceFile content) (.failedLost details) w₁)
  | restored {id row base loc remote merged w₁ row'}
      (finds : Finds P i session w id row base loc remote)
      (accepted : mergeBookmarks base loc remote = .ok merged)
      (uploaded : AfterUpload P session id remote merged.snapshot row w w₁ row')
      (restored : AfterRestore i loc merged.snapshot w₁ w')
  | firstUploaded {id loc row} (file : LocalIs P i session w loc)
      (looked : session.remoteOf P i w = .ok none)
      (uploaded : AfterFirst P session id loc w w' row)
  | saved (syncs : Syncs P i session w w')

/-- A plaintext the device can keep as its merge base. -/
def Keepable (plaintext : Plaintext) : Prop :=
  Sealable P s!"{bookmarkNamespace}:{session.profile.directoryName}" plaintext

/-- Nothing but a fault can stop a sync. -/
structure Ready (w : World ι C) : Prop where
  file : ∃ loc, LocalIs P i session w loc
  looks : ∃ r, session.remoteOf P i w = .ok r
  merges : ∀ loc remote proof, LocalIs P i session w loc →
    session.remoteOf P i w = .ok (some (remote, proof)) → ∃ base merged,
    session.openedBase P ((w.device i).state.syncBases session.bookmarkKey) = .ok base ∧
    mergeBookmarks base loc remote = .ok merged ∧
    merged.snapshot.profileDirectory = session.profile.directoryName ∧
    Keepable P session (.json (writeSnapshot merged.snapshot)) ∧
    (merged.snapshot ≠ remote → session.core.Uploadable P bookmarkNamespace
      (.json (writeSnapshot merged.snapshot)) (some proof.revision)
      (w.server.objects proof.objectId) w.server)
  first : ∀ loc, LocalIs P i session w loc → session.remoteOf P i w = .ok none →
    session.core.Uploadable P bookmarkNamespace (.json (writeSnapshot loc)) none none w.server ∧
    Keepable P session (.json (writeSnapshot loc))

end Stages

variable {session : Session} {w : World ι C} {journal : Journal C}

omit [DecidableEq ι] in
theorem LocalIs.unique {a b : BookmarkSnapshotV1} (left : LocalIs P i session w a)
    (right : LocalIs P i session w b) : a = b := by
  obtain ⟨content, found, parsed⟩ := left
  obtain ⟨content', found', parsed'⟩ := right
  rw [found] at found'
  cases found'
  rw [parsed] at parsed'
  exact Except.ok.inj parsed'

omit [DecidableEq ι] in
/-- What a file reads as. -/
theorem LocalIs.shape {loc : BookmarkSnapshotV1} (here : LocalIs P i session w loc) :
    loc.format = "helium-bookmarks-v1" ∧ loc.sourceBrowser = "helium" ∧
      loc.profileDirectory = session.profile.directoryName ∧
      Ordered.Ascending BookmarkRoot.key loc.roots := by
  obtain ⟨content, _, parsed⟩ := here
  exact parseBookmarks_shape parsed

omit [DecidableEq ι] in
/-- A merge is of the profile that was synced. -/
theorem Finds.directory {id : ObjectId} {row : ObjectRow C} {base : Option BookmarkSnapshotV1}
    {loc remote : BookmarkSnapshotV1} {merged : BookmarkMergeResult}
    (finds : Finds P i session w id row base loc remote)
    (accepted : mergeBookmarks base loc remote = .ok merged) :
    merged.snapshot.profileDirectory = session.profile.directoryName := by
  obtain ⟨⟨_, _, directory⟩, _, rfl⟩ := mergeBookmarks_ok.mp accepted
  exact directory.symm.trans finds.file.shape.2.2.1

omit [DecidableEq ι] in
/-- When nothing but a fault can stop a sync that found an object. -/
theorem Finds.ready_iff {id : ObjectId} {row : ObjectRow C} {base : Option BookmarkSnapshotV1}
    {loc remote : BookmarkSnapshotV1} {merged : BookmarkMergeResult}
    (finds : Finds P i session w id row base loc remote)
    (accepted : mergeBookmarks base loc remote = .ok merged) :
    Ready P i session w ↔ Keepable P session (.json (writeSnapshot merged.snapshot)) ∧
      (merged.snapshot ≠ remote → session.core.Uploadable P bookmarkNamespace
        (.json (writeSnapshot merged.snapshot)) (some row.revision.toU64) (w.server.objects id)
        w.server) := by
  constructor
  · intro ready
    obtain ⟨base', merged', opened, accepted', _, keepable, uploadable⟩ :=
      ready.merges loc remote _ finds.file finds.looked
    cases finds.opened.symm.trans opened
    cases accepted.symm.trans accepted'
    exact ⟨keepable, uploadable⟩
  · rintro ⟨keepable, uploadable⟩
    refine ⟨⟨loc, finds.file⟩, ⟨_, finds.looked⟩, fun loc' remote' proof file looked => ?_,
      fun loc' file looked => ?_⟩
    · cases finds.file.unique file
      cases finds.looked.symm.trans looked
      exact ⟨base, merged, finds.opened, accepted, finds.directory accepted, keepable, uploadable⟩
    · cases finds.looked.symm.trans looked

omit [DecidableEq ι] in
theorem ready_of_first {loc : BookmarkSnapshotV1} (file : LocalIs P i session w loc)
    (looked : session.remoteOf P i w = .ok none)
    (uploadable : session.core.Uploadable P bookmarkNamespace (.json (writeSnapshot loc)) none none
      w.server) (keepable : Keepable P session (.json (writeSnapshot loc))) :
    Ready P i session w where
  file := ⟨loc, file⟩
  looks := ⟨none, looked⟩
  merges loc' remote proof _ found := by cases looked.symm.trans found
  first loc' file' _ := by
    cases file.unique file'
    exact ⟨uploadable, keepable⟩

/-- The rule of saving the state, for a client alone. -/
theorem persist_alone (lawful : P.Lawful) {merged : BookmarkSnapshotV1} {proof : SyncProof}
    {ok : Unit → Journal C → World ι C → Prop} {error : String → Journal C → World ι C → Prop}
    (saved : ∀ w' journal', Keepable P session (.json (writeSnapshot merged)) →
      AfterSave P i session merged ⟨proof.objectId, proof.revision⟩ w w' → ok () journal' w')
    (failed : ∀ e journal', (Keepable P session (.json (writeSnapshot merged)) →
      proof.revision.val < 9223372036854775808 → Faulty P allow) → error e journal' w) :
    (session.persistSyncState P merged proof).Attempts (.alone (World.exec P i) allow) ok error
      journal w := by
  refine serves_alone.persist (fun w₀ s w₁ w₂ envelope same _ same' _ sealed written => ?_)
    (fun w₀ s w₁ envelope choice e same _ same' _ _ allowed range => ?_)
    fun w₀ s e same _ _ unsealed => ?_
  · cases same
    cases same'
    refine ⟨trivial, trivial, saved w₂ _ ((encryptLocalState_isOk lawful).mp ⟨envelope, sealed⟩)
      ⟨envelope, ?_, written⟩⟩
    exact decryptLocalState_encryptLocalState lawful s.nonceSize sealed
  · cases same
    cases same'
    refine ⟨trivial, failed _ _ fun _ small => ⟨_, choice, w, allowed, fun smooth => ?_⟩⟩
    exact range smooth small
  · cases same
    refine failed _ _ fun keepable _ => ?_
    obtain ⟨envelope, sealed⟩ := (encryptLocalState_isOk lawful).mpr keepable
    rw [show session.core.protectBase P _ _ _ s.nonce = _ from sealed] at unsealed
    cases unsealed

omit [DecidableEq ι] in
/-- The object that the remote snapshot was read from. -/
theorem Session.remoteOf_some {remote : BookmarkSnapshotV1} {proof : SyncProof}
    (looked : session.remoteOf P i w = .ok (some (remote, proof))) :
    ∃ id row, proof = ⟨id, bookmarkNamespace, row.revision.toU64, row.cursor.toU64, true⟩ ∧
      w.server.objects id = some row ∧ row.nameSpace = bookmarkNamespace ∧
      RowReads P session.core.masterKey readSnapshot id row remote := by
  have row {id : ObjectId}
      (fetched : session.core.fetched P w.server readSnapshot bookmarkNamespace id =
        .ok (remote, proof)) :
      ∃ id row, proof = ⟨id, bookmarkNamespace, row.revision.toU64, row.cursor.toU64, true⟩ ∧
        w.server.objects id = some row ∧ row.nameSpace = bookmarkNamespace ∧
        RowReads P session.core.masterKey readSnapshot id row remote := by
    obtain ⟨row, found, space, reads, rfl⟩ := fetched_ok.mp fetched
    exact ⟨id, row, rfl, found, space, reads⟩
  rw [remoteOf] at looked
  split at looked
  · next mapping _ =>
      cases found : session.core.fetched P w.server readSnapshot bookmarkNamespace
          mapping.objectId with
      | ok loaded => rw [found] at looked; cases looked; exact row found
      | error e => rw [found] at looked; cases looked
  · cases found : session.core.discovered P w.server readSnapshot bookmarkNamespace
        (·.profileDirectory = session.profile.directoryName) with
    | ok loaded =>
        rw [found] at looked
        cases looked
        obtain ⟨id, fetched, _⟩ := discovered_some found
        exact row fetched
    | error e => rw [found] at looked; cases looked

/-- The rule of finding the remote snapshot, for a client alone. -/
theorem remote_alone {ok : Option (BookmarkSnapshotV1 × SyncProof) → Journal C → World ι C → Prop}
    {error : String → Journal C → World ι C → Prop}
    (good : ∀ r journal', session.remoteOf P i w = .ok r → ok r journal' w)
    (bad : ∀ e journal', Faulty P allow ∨ session.remoteOf P i w = .error e → error e journal' w) :
    (session.remoteBookmarks P).Attempts (.alone (World.exec P i) allow) ok error journal w :=
  object_alone faultMeans_faulty good bad

/-- The rule of an upload, for a client alone. -/
theorem save_alone (lawful : P.Lawful) {snapshot : BookmarkSnapshotV1}
    (object : Option (ObjectId × U64)) {ok : SyncProof → Journal C → World ι C → Prop}
    {error : ClientError → Journal C → World ι C → Prop}
    (stored : ∀ id w' row journal', (∀ known revision, object = some (known, revision) → id = known) →
      w'.device = w.device → session.core.Uploads P bookmarkNamespace
        (.json (writeSnapshot snapshot)) (object.map Prod.snd) id w.server w'.server row →
      session.core.Uploadable P bookmarkNamespace (.json (writeSnapshot snapshot))
        (object.map Prod.snd) (w.server.objects id) w.server →
      ok ⟨id, bookmarkNamespace, row.revision.toU64, row.cursor.toU64, true⟩ journal' w')
    (lost : ∀ id w' row e journal', (∀ known revision, object = some (known, revision) → id = known) →
      w'.device = w.device → session.core.Uploads P bookmarkNamespace
        (.json (writeSnapshot snapshot)) (object.map Prod.snd) id w.server w'.server row →
      Faulty P allow → error e journal' w')
    (failed : ∀ e journal', (session.core.Uploadable P bookmarkNamespace
        (.json (writeSnapshot snapshot)) (object.map Prod.snd)
        (object.bind fun known => w.server.objects known.1) w.server → Faulty P allow) →
      error e journal' w) :
    (session.core.saveBookmarkSnapshot P snapshot (object.map Prod.fst)
      (object.map Prod.snd)).Attempts (.alone (World.exec P i) allow) ok error journal w := by
  refine serves_alone.saveBookmarkSnapshot lawful object fun w₀ s same _ drawn => ?_
  cases same
  have named : ∀ known revision, object = some (known, revision) →
      (object.map Prod.fst).getD s.objectId = known := fun _ _ here => by rw [here]; rfl
  have smooth (calm : ¬ Faulty P allow) : (w.server.objects s.objectId = none ∧
      ∃ text, P.formatRfc3339 s.time = .ok text) :=
    not_not.mp fun rough => calm ⟨_, _, w, drawn, rough⟩
  have proceeds {op : Op C} {choice : Choice} {w : World ι C} (allowed : allow op choice w)
      (request : Smooth P op choice w → choice = .proceed) (fault : choice ≠ .proceed) :
      Faulty P allow := ⟨op, choice, w, allowed, fun s => fault (request s)⟩
  have ready (calm : ¬ Faulty P allow) (uploadable : session.core.Uploadable P bookmarkNamespace
      (.json (writeSnapshot snapshot)) (object.map Prod.snd)
      (object.bind fun known => w.server.objects known.1) w.server) :
      session.core.Uploadable P bookmarkNamespace (.json (writeSnapshot snapshot))
        (object.map Prod.snd) (w.server.objects ((object.map Prod.fst).getD s.objectId))
        w.server := by
    cases object with
    | none =>
        have fresh := (smooth calm).1
        simpa [fresh] using uploadable
    | some known => exact uploadable
  refine { unsealed := fun e bad => ?_, refused := fun w₁ envelope choice e same _ allowed sealed
             cause => ⟨trivial, ?_⟩, kept := fun _ _ _ _ _ _ _ => ⟨trivial, trivial⟩,
           lost := fun w₁ w₂ row envelope e put _ => ?_,
           verified := fun w₁ w₂ row envelope object put w₃ row₃ read same _ found _ _ => ?_,
           unverified := fun w₁ w₂ row envelope object put w₃ choice reply e same _ allowed
             differ => ?_ }
  · refine failed e _ fun uploadable => by_contra fun calm => ?_
    obtain ⟨envelope, sealed⟩ := (ready calm uploadable).seals lawful (smooth calm).2
    rw [sealed] at bad
    cases bad
  · cases same
    refine failed e _ fun uploadable => by_contra fun calm => ?_
    obtain ⟨result, accepted⟩ := (ready calm uploadable).puts lawful (smooth calm).2 sealed
    obtain ⟨_, refused⟩ := cause
      (not_not.mp fun fault => calm (proceeds allowed (fun s => s) fault))
    rw [accepted] at refused
    cases refused
  · cases put.moved
    exact lost _ w₂ row e _ named put.frame put.uploads (proceeds put.allowed (fun s => s) nofun)
  · cases put.moved
    cases same
    cases put.uploads.stored.symm.trans found
    exact stored _ w₂ row _ named put.frame put.uploads
      (ClientCore.uploadable_of_put lawful put.sealed put.accepted)
  · cases put.moved
    cases same
    exact lost _ w₂ row e _ named put.frame put.uploads (proceeds allowed (fun s => s)
      fun proceed => differ proceed row put.uploads.stored put.uploads.opens)

section
variable (P) (i) (session)

/-- How a sync that started in `w` may stop with an error in `w'`. -/
def Stops (allow : Op C → Choice → World ι C → Prop) (w w' : World ι C) : Prop :=
  Halts P i allow session w w' ∧ (Ready P i session w → Faulty P allow)

end

/-- The end of a sync: everything was stored, and the name is read. -/
theorem name_alone {feedback : String → SyncFeedback} {start : World ι C}
    (syncs : Syncs P i session start w) (ready : Ready P i session start) :
    Action.Attempts (.alone (World.exec P i) allow)
      (fun _ _ w' => Syncs P i session start w' ∧ Ready P i session start)
      (fun _ _ w' => Stops P i session allow start w')
      (do let name ← session.profileName; return feedback name) journal w :=
  Action.attempts_bind.mpr (serves_alone.profileName
    (fun w₁ name rows same _ => by cases same; exact ⟨syncs, ready⟩)
    fun w₁ details same _ allowed => by
      cases same
      exact ⟨.saved syncs, fun _ => ⟨_, _, w, allowed, nofun⟩⟩)

/-- The local half of a sync: the restore, the state, the name. -/
theorem settle_alone (lawful : P.Lawful) {id : ObjectId} {row row' : ObjectRow C}
    {base : Option BookmarkSnapshotV1} {loc remote : BookmarkSnapshotV1}
    {merged : BookmarkMergeResult} {start : World ι C}
    {feedback : Option String → String → SyncFeedback}
    (finds : Finds P i session start id row base loc remote)
    (accepted : mergeBookmarks base loc remote = .ok merged)
    (uploaded : AfterUpload P session id remote merged.snapshot row start w row')
    (small : row'.revision.toU64.val < 9223372036854775808)
    (ready : Ready P i session start ↔ Keepable P session (.json (writeSnapshot merged.snapshot))) :
    Action.Attempts (.alone (World.exec P i) allow)
      (fun _ _ w' => Syncs P i session start w' ∧ Ready P i session start)
      (fun _ _ w' => Stops P i session allow start w') (do
        let backupPath ← session.restoreMerged P loc merged.snapshot
        session.persistSyncState P merged.snapshot
          ⟨id, bookmarkNamespace, row'.revision.toU64, row'.cursor.toU64, true⟩
        let name ← session.profileName
        return feedback backupPath name) journal w := by
  have persists (path : Option String) (journal : Journal C) {w₂ : World ι C}
      (restored : AfterRestore i loc merged.snapshot w w₂) :
      Action.Attempts (.alone (World.exec P i) allow)
        (fun _ _ w' => Syncs P i session start w' ∧ Ready P i session start)
        (fun _ _ w' => Stops P i session allow start w') (do
          session.persistSyncState P merged.snapshot
            ⟨id, bookmarkNamespace, row'.revision.toU64, row'.cursor.toU64, true⟩
          let name ← session.profileName
          return feedback path name) journal w₂ :=
    Action.attempts_bind.mpr (persist_alone lawful
      (fun _ _ keepable saved =>
        name_alone (.merged finds accepted uploaded restored saved) (ready.mpr keepable))
      fun _ _ fault => ⟨.restored finds accepted uploaded restored, fun unfaulted =>
        fault (ready.mp unfaulted) small⟩)
  refine Action.attempts_bind.mpr (serves_alone.restoreMerged
    (fun same => persists none journal (.inl ⟨same, rfl⟩))
    (fun _ differ e => absurd (finds.directory accepted) differ)
    (fun changed w₁ w₂ path same _ _ written => ?_)
    fun changed w₁ w₂ choice e same _ allowed unlike outcome => ⟨trivial, trivial, ?_, fun _ =>
      ⟨_, choice, w₁, allowed, fun smooth => ?_⟩⟩)
  · cases same
    exact ⟨trivial, trivial, persists _ _ (.inr ⟨changed, written⟩)⟩
  · cases same
    rcases outcome with rfl | ⟨file, written, left⟩
    · exact .uploaded finds accepted uploaded
    · exact .restoring finds accepted changed uploaded written (left.imp_right fun left =>
        left.imp_right fun ⟨gone, details, here⟩ => ⟨gone, _, details, here ▸ allowed⟩)
  · cases choice with
    | backedUp path => exact unlike path rfl
    | _ => exact smooth.elim

/-- One sync alone: what it did when it succeeds, where it stops when it fails. -/
theorem syncs_alone (lawful : P.Lawful) (extensions : ExtensionSyncOutcome) :
    (session.syncBookmarks P extensions).Attempts (.alone (World.exec P i) allow)
      (fun _ _ w' => Syncs P i session w w' ∧ Ready P i session w)
      (fun _ _ w' => Stops P i session allow w w') journal w := by
  refine Action.attempts_bind.mpr (Action.attempts_mapErr.mpr (serves_alone.readBookmarks
    (fun w₁ content loc journal₁ same _ file parsed _ => ?_)
    fun w₁ e journal₁ same _ _ cause => ?_))
  · cases same
    have file : LocalIs P i session w loc := ⟨content, file, parsed⟩
    refine Action.attempts_bind.mpr (remote_alone (fun r journal₂ looked => ?_)
      fun e journal₂ cause => ?_)
    · cases r with
      | none =>
          refine Action.attempts_bind.mpr (Action.attempts_mapErr.mpr (save_alone lawful none
            (fun id w₂ row journal₃ _ frame uploads uploadable => ?_)
            (fun id w₂ row e journal₃ _ frame uploads fault => ?_) fun e journal₃ fault => ?_))
          · refine Action.attempts_bind.mpr (persist_alone lawful (fun w₃ journal₄ keepable saved =>
              name_alone (.first file looked ⟨frame, uploads⟩ saved)
                (ready_of_first file looked (uploads.absent ▸ uploadable) keepable))
              fun e journal₄ fault => ?_)
            exact ⟨.firstUploaded file looked ⟨frame, uploads⟩, fun ready =>
              fault (ready.first loc file looked).2 row.revision.isLt⟩
          · exact ⟨.firstUploaded file looked ⟨frame, uploads⟩, fun _ => fault⟩
          · exact ⟨.before rfl, fun ready => fault (ready.first loc file looked).1⟩
      | some found =>
          obtain ⟨remote, loaded⟩ := found
          obtain ⟨id, row, rfl, stored, space, reads⟩ := Session.remoteOf_some looked
          refine Action.attempts_bind.mpr (serves_alone.bookmarkBase
            (fun w₂ base reply same _ opened => ?_)
            fun w₂ choice reply e same _ allowed cause => ?_)
          · cases same
            have finds : Finds P i session w id row base loc remote :=
              ⟨file, looked, stored, space, reads, opened⟩
            refine Action.attempts_bind.mpr (Action.attempts_mapErr.mpr
              (Action.attempts_ofExcept.mpr ⟨fun merged accepted => ?_, fun e refused => ?_⟩))
            · have ready := finds.ready_iff accepted
              refine Action.attempts_bind.mpr ?_
              rw [Session.uploadMerged]
              split_ifs with changed
              · refine (Action.attempts_mapErr.mpr (save_alone lawful
                  (some (id, row.revision.toU64))
                  (fun id' w₂ row' journal₃ named frame uploads uploadable => ?_)
                  (fun id' w₂ row' e journal₃ named frame uploads fault => ?_)
                  fun e journal₃ fault => ?_))
                · cases named _ _ rfl
                  exact settle_alone lawful finds accepted (.inr ⟨changed, frame, uploads⟩)
                    row'.revision.isLt (ready.trans (and_iff_left fun _ => uploadable))
                · cases named _ _ rfl
                  exact ⟨.uploaded finds accepted (.inr ⟨changed, frame, uploads⟩), fun _ => fault⟩
                · exact ⟨.before rfl, fun unfaulted => fault ((ready.mp unfaulted).2 changed)⟩
              · exact settle_alone lawful finds accepted (.inl ⟨not_not.mp changed, rfl, rfl⟩)
                  row.revision.isLt (ready.trans (and_iff_left fun differ => absurd differ changed))
            · refine ⟨.before rfl, fun ready => ?_⟩
              obtain ⟨base', merged, opened', accepted, _⟩ :=
                ready.merges loc remote _ file looked
              cases opened.symm.trans opened'
              rw [refused] at accepted
              cases accepted
          · cases same
            refine ⟨.before rfl, fun ready => ?_⟩
            obtain ⟨base, merged, opened, _⟩ := ready.merges loc remote _ file looked
            refine ⟨_, choice, w, allowed, fun smooth => ?_⟩
            rw [cause smooth] at opened
            cases opened
    · refine ⟨.before rfl, fun ready => cause.resolve_right fun failed => ?_⟩
      obtain ⟨r, looked⟩ := ready.looks
      rw [failed] at looked
      cases looked
  · cases same
    refine ⟨.before rfl, fun ready => ?_⟩
    obtain ⟨loc, content, found, parsed⟩ := ready.file
    rcases cause with ⟨w₀, earlier, choice, allowed, rough⟩ | failed
    · exact ⟨.readFile, choice, w₀, allowed, rough⟩
    · rw [failed content found] at parsed
      cases parsed

end HeliumSync
