import HeliumSync.Absorption
import HeliumSync.LostUpdate
import HeliumSync.SoloSync

/-! Devices that sync one after another while nobody edits: after two rounds they all hold what the
server holds. -/
namespace HeliumSync
open Interaction

/-- The same version, and the same node under every root key. -/
structure SameContent (a b : BookmarkSnapshotV1) : Prop where
  version : a.chromiumVersion = b.chromiumVersion
  nodes : ∀ key, rootMap a.roots key = rootMap b.roots key

theorem SameContent.refl (a : BookmarkSnapshotV1) : SameContent a a := ⟨rfl, fun _ => rfl⟩

theorem sameContent_readBack (directory : String) (snapshot : BookmarkSnapshotV1) :
    SameContent (readBack directory snapshot) snapshot :=
  ⟨rfl, fun key => rootMap_canonicalRoots snapshot.roots key⟩

/-- A local side that is the base adopts the remote one, root list and version included. -/
theorem mergeBookmarks_unchanged {base loc remote : BookmarkSnapshotV1}
    {merged : BookmarkMergeResult} (accepted : mergeBookmarks (some base) loc remote = .ok merged)
    (same : SameContent loc base) (older : base.chromiumVersion ≤ remote.chromiumVersion)
    (distinct : (remote.roots.map BookmarkRoot.key).Nodup) : merged.snapshot = remote := by
  obtain ⟨_, _, rfl⟩ := mergeBookmarks_ok.mp accepted
  have roots : mergedRoots base.roots loc.roots remote.roots = remote.roots := by
    apply mergedRoots_of_remote distinct
    intro key
    rw [same.nodes key, mergedNode_base_left]
  have version : max loc.chromiumVersion remote.chromiumVersion = remote.chromiumVersion :=
    max_eq_right (same.version ▸ older)
  dsimp only [baseRoots, Option.map_some, Option.getD_some]
  rw [roots, version]

theorem mergeBookmarks_version {base : Option BookmarkSnapshotV1} {loc remote : BookmarkSnapshotV1}
    {merged : BookmarkMergeResult} (accepted : mergeBookmarks base loc remote = .ok merged) :
    remote.chromiumVersion ≤ merged.snapshot.chromiumVersion := by
  obtain ⟨_, _, rfl⟩ := mergeBookmarks_ok.mp accepted
  exact le_max_right _ _

theorem mergeBookmarks_keys {base : Option BookmarkSnapshotV1} {loc remote : BookmarkSnapshotV1}
    {merged : BookmarkMergeResult} (accepted : mergeBookmarks base loc remote = .ok merged) :
    (merged.snapshot.roots.map BookmarkRoot.key).Nodup := by
  obtain ⟨_, _, rfl⟩ := mergeBookmarks_ok.mp accepted
  exact mergedRoots_nodup _ _ _

section
variable {ι C : Type} [DecidableEq ι] {P : Primitives C} {i : ι} {session : Session}
  {w w' : World ι C}

/-- What can be read of the object is this snapshot. -/
def ServerHolds (P : Primitives C) (masterKey : MasterKey) (id : ObjectId) (server : Server C)
    (content : BookmarkSnapshotV1) : Prop :=
  ∃ row, server.objects id = some row ∧
    ∀ other, RowReads P masterKey readSnapshot id row other → other = content

/-- What can be read of the device is this snapshot: its merge base, and its bookmarks. -/
structure Settled (P : Primitives C) (i : ι) (session : Session) (w : World ι C)
    (content : BookmarkSnapshotV1) : Prop where
  base : ∀ base, session.openedBase P ((w.device i).state.syncBases session.bookmarkKey) =
    .ok base → base = some content
  file : ∀ loc, LocalIs P i session w loc → SameContent loc content

omit [DecidableEq ι] in
/-- A mapped device looks at the mapped object only. -/
theorem Session.remoteOf_mapped {object : ObjectMapping}
    (mapped : (w.device i).state.mappings session.bookmarkKey = some object)
    {r : Option (BookmarkSnapshotV1 × SyncProof)} (looked : session.remoteOf P i w = .ok r) :
    ∃ remote proof, r = some (remote, proof) ∧ proof.objectId = object.objectId := by
  rw [remoteOf, mapped] at looked
  dsimp only at looked
  cases fetched : session.core.fetched P w.server readSnapshot bookmarkNamespace object.objectId with
  | error e =>
      rw [fetched] at looked
      cases looked
  | ok found =>
      rw [fetched] at looked
      cases looked
      obtain ⟨_, _, _, _, proof⟩ := fetched_ok.mp fetched
      exact ⟨found.1, found.2, rfl, congrArg SyncProof.objectId proof⟩

omit [DecidableEq ι] in
theorem Finds.mapped {object : ObjectMapping}
    (mapped : (w.device i).state.mappings session.bookmarkKey = some object) {id : ObjectId}
    {row : ObjectRow C} {base : Option BookmarkSnapshotV1} {loc remote : BookmarkSnapshotV1}
    (finds : Finds P i session w id row base loc remote) : id = object.objectId := by
  obtain ⟨_, _, same, known⟩ := Session.remoteOf_mapped mapped finds.looked
  cases same
  exact known

/-- A sync of a mapped object is never a first one. -/
theorem Syncs.of_mapped {object : ObjectMapping}
    (mapped : (w.device i).state.mappings session.bookmarkKey = some object)
    (syncs : Syncs P i session w w') : ∃ row base loc remote merged w₁ w₂ row',
      Finds P i session w object.objectId row base loc remote ∧
      mergeBookmarks base loc remote = .ok merged ∧
      AfterUpload P session object.objectId remote merged.snapshot row w w₁ row' ∧
      AfterRestore i loc merged.snapshot w₁ w₂ ∧
      AfterSave P i session merged.snapshot ⟨object.objectId, row'.revision.toU64⟩ w₂ w' := by
  cases syncs with
  | @merged id row base loc remote merged w₁ w₂ row' finds accepted uploaded restored saved =>
      cases finds.mapped mapped
      exact ⟨row, base, loc, remote, merged, w₁, w₂, row', finds, accepted, uploaded, restored, saved⟩
  | first file looked =>
      obtain ⟨_, _, same, _⟩ := Session.remoteOf_mapped mapped looked
      cases same

omit [DecidableEq ι] in
theorem AfterUpload.device {id : ObjectId} {remote merged : BookmarkSnapshotV1}
    {row row' : ObjectRow C} (uploaded : AfterUpload P session id remote merged row w w' row') :
    w'.device = w.device := by
  rcases uploaded with ⟨_, rfl, _⟩ | ⟨_, frame, _⟩
  · rfl
  · exact frame

/-- After an upload the server holds what was uploaded. -/
theorem ClientCore.Uploads.holds {core : ClientCore} {snapshot : BookmarkSnapshotV1}
    {base : Option U64} {id : ObjectId} {server server' : Server C} {row : ObjectRow C}
    (uploads : core.Uploads P bookmarkNamespace (.json (writeSnapshot snapshot)) base id server
      server' row) : ServerHolds P core.masterKey id server' snapshot := by
  refine ⟨row, uploads.stored, ?_⟩
  rintro other ⟨plaintext, opens, parsed⟩
  cases opens.unique uploads.opens
  cases read : (P.parseText (.json (writeSnapshot snapshot))).bind readSnapshot with
  | error e =>
      rw [ClientCore.parseAs, read] at parsed
      cases parsed
  | ok content =>
      rw [ClientCore.parseAs, read] at parsed
      cases parsed
      exact parse_writeSnapshot read

omit [DecidableEq ι] in
/-- After the upload of a sync the server holds the merge. -/
theorem AfterUpload.holds {id : ObjectId} {base : Option BookmarkSnapshotV1}
    {loc remote merged : BookmarkSnapshotV1} {row row' : ObjectRow C}
    (finds : Finds P i session w id row base loc remote)
    (uploaded : AfterUpload P session id remote merged row w w' row') :
    ServerHolds P session.core.masterKey id w'.server merged := by
  rcases uploaded with ⟨rfl, rfl, rfl⟩ | ⟨_, _, uploads⟩
  · exact ⟨row', finds.stored, fun other reads => reads.unique finds.reads⟩
  · exact uploads.holds

theorem AfterRestore.server {loc merged : BookmarkSnapshotV1}
    (restored : AfterRestore i loc merged w w') : w'.server = w.server := by
  rcases restored with ⟨_, rfl⟩ | ⟨_, rfl⟩ <;> rfl

theorem AfterRestore.frame {loc merged : BookmarkSnapshotV1}
    (restored : AfterRestore i loc merged w w') {j : ι} (other : j ≠ i) :
    w'.device j = w.device j := by
  rcases restored with ⟨_, rfl⟩ | ⟨_, rfl⟩
  · rfl
  · exact World.setDevice_of_ne w _ other

/-- After the restore the file holds the merge. -/
theorem AfterRestore.file {loc merged : BookmarkSnapshotV1}
    (before : LocalIs P i session w loc) (restored : AfterRestore i loc merged w w') :
    (∀ loc', LocalIs P i session w' loc' → SameContent loc' merged) ∧
      ((writeSnapshot merged).depth < Json.recursionLimit →
        ∃ loc', LocalIs P i session w' loc') := by
  rcases restored with ⟨rfl, rfl⟩ | ⟨_, rfl⟩
  · refine ⟨fun loc' here => ?_, fun _ => ⟨_, before⟩⟩
    rw [here.unique before]
    exact .refl _
  · have written : ((w.setDevice i ((w.device i).replaced
        (some (.json (chromiumBookmarksJson merged))))).device i).bookmarks =
        some (.json (chromiumBookmarksJson merged)) := by rw [World.setDevice_self]; rfl
    constructor
    · rintro loc' ⟨content, found, parsed⟩
      rw [written] at found
      cases found
      rw [parseBookmarks_written_ok parsed]
      exact sameContent_readBack _ _
    · intro shallow
      exact ⟨_, _, written, parseBookmarks_written shallow⟩

/-- After the state was saved the base is the merge. -/
theorem AfterSave.base {merged : BookmarkSnapshotV1} {object : ObjectMapping}
    (saved : AfterSave P i session merged object w w') {base : Option BookmarkSnapshotV1}
    (opened : session.openedBase P ((w'.device i).state.syncBases session.bookmarkKey) = .ok base) :
    base = some merged := by
  obtain ⟨envelope, sealed, rfl⟩ := saved
  rw [World.setDevice_self, Serves.persisted_syncBases_self, Session.openedBase_some sealed] at opened
  cases read : (P.parseText (.json (writeSnapshot merged))).bind readSnapshot with
  | error e =>
      rw [read] at opened
      cases opened
  | ok content =>
      rw [read] at opened
      cases opened
      rw [parse_writeSnapshot read]

theorem AfterSave.frame {merged : BookmarkSnapshotV1} {object : ObjectMapping}
    (saved : AfterSave P i session merged object w w') :
    w'.server = w.server ∧ (w'.device i).bookmarks = (w.device i).bookmarks ∧
      (w'.device i).state.mappings session.bookmarkKey = some object ∧
      ∀ j, j ≠ i → w'.device j = w.device j := by
  obtain ⟨envelope, _, rfl⟩ := saved
  refine ⟨rfl, ?_, ?_, fun j other => World.setDevice_of_ne w _ other⟩
  · rw [World.setDevice_self]
    rfl
  · rw [World.setDevice_self, Serves.persisted_mappings_self]

omit [DecidableEq ι] in
theorem LocalIs.congr {loc : BookmarkSnapshotV1} (here : LocalIs P i session w loc)
    (same : (w'.device i).bookmarks = (w.device i).bookmarks) : LocalIs P i session w' loc := by
  obtain ⟨content, found, parsed⟩ := here
  exact ⟨content, same.trans found, parsed⟩

omit [DecidableEq ι] in
theorem Settled.congr {content : BookmarkSnapshotV1} (settled : Settled P i session w content)
    (state : (w'.device i).state = (w.device i).state)
    (file : (w'.device i).bookmarks = (w.device i).bookmarks) :
    Settled P i session w' content where
  base base opened := settled.base base (state ▸ opened)
  file loc here := settled.file loc (here.congr file.symm)

/-- One completed sync of a mapped object: what it found, and what it leaves behind. -/
theorem Syncs.settles {object : ObjectMapping}
    (mapped : (w.device i).state.mappings session.bookmarkKey = some object)
    (syncs : Syncs P i session w w') : ∃ row base loc remote merged,
      Finds P i session w object.objectId row base loc remote ∧
      mergeBookmarks base loc remote = .ok merged ∧
      Settled P i session w' merged.snapshot ∧
      ServerHolds P session.core.masterKey object.objectId w'.server merged.snapshot ∧
      (merged.snapshot = remote → w'.server = w.server ∧ ∃ loc, LocalIs P i session w' loc) ∧
      (∃ revision, (w'.device i).state.mappings session.bookmarkKey =
        some ⟨object.objectId, revision⟩) ∧
      ∀ j, j ≠ i → w'.device j = w.device j := by
  obtain ⟨row, base, loc, remote, merged, w₁, w₂, row', finds, accepted, uploaded, restored, saved⟩ :=
    syncs.of_mapped mapped
  obtain ⟨server, file, mapping, others⟩ := saved.frame
  have before : LocalIs P i session w₁ loc := finds.file.congr (by rw [uploaded.device])
  obtain ⟨content, readable⟩ := restored.file before
  refine ⟨row, base, loc, remote, merged, finds, accepted, ⟨fun _ => saved.base, ?_⟩, ?_, ?_,
    ⟨_, mapping⟩, ?_⟩
  · intro loc' here
    exact content loc' (here.congr file.symm)
  · rw [server, restored.server]
    exact uploaded.holds finds
  · rintro same
    constructor
    · rcases uploaded with ⟨_, rfl, _⟩ | ⟨changed, _⟩
      · rw [server, restored.server]
      · exact absurd same changed
    · obtain ⟨plaintext, _, parsed⟩ := finds.reads
      obtain ⟨loc', here⟩ := readable (same ▸ shallow_of_parseAs parsed)
      exact ⟨loc', here.congr file⟩
  · intro j other
    rw [others j other, restored.frame other, uploaded.device]

end

section
variable {ι C : Type} [DecidableEq ι] (P : Primitives C) (session : ι → Session)

/-- Devices that complete one bookmark sync each, one after another, with no edits in between. -/
inductive Completes : List ι → World ι C → World ι C → Prop
  | nil {w} : Completes [] w w
  | cons {i order extensions feedback w w₁ w₂}
      (run : ((session i).syncBookmarks P extensions).run.Runs (World.exec P i)
        (fun _ _ _ => True) w (.ok feedback) w₁)
      (rest : Completes order w₁ w₂) : Completes (i :: order) w w₂

variable (masterKey : MasterKey) (id : ObjectId)

/-- The devices that have synced hold, and last merged, something no newer than the server. -/
structure Gathered (synced : List ι) (w : World ι C) : Prop where
  mapped : Mapped session id w
  content : synced ≠ [] → ∃ content, ServerHolds P masterKey id w.server content ∧
    (content.roots.map BookmarkRoot.key).Nodup ∧
    ∀ j ∈ synced, ∃ own, Settled P j (session j) w own ∧
      own.chromiumVersion ≤ content.chromiumVersion

/-- These devices agree with the server, on which nothing has changed, and the others can. -/
structure Adopted (content : BookmarkSnapshotV1) (server : Server C) (synced : List ι)
    (w : World ι C) : Prop where
  mapped : Mapped session id w
  unchanged : w.server = server
  settled : ∀ j, ∃ own, Settled P j (session j) w own ∧
    own.chromiumVersion ≤ content.chromiumVersion
  agrees : ∀ j ∈ synced,
    (session j).core.loaded P readSnapshot server bookmarkNamespace id = .ok content ∧
    ∃ loc, LocalIs P j (session j) w loc ∧ SameContent loc content

variable {P session masterKey id} {i : ι} {synced order : List ι} {w w' : World ι C}

theorem syncs_of_completes (lawful : P.Lawful) {extensions : ExtensionSyncOutcome}
    {feedback : SyncFeedback}
    (run : ((session i).syncBookmarks P extensions).run.Runs (World.exec P i)
      (fun _ _ _ => True) w (.ok feedback) w') : Syncs P i (session i) w w' := by
  obtain ⟨_, syncs, _⟩ := run.post (@syncs_alone _ _ _ P i (fun _ _ _ => True) (session i) w [] lawful
    extensions)
  exact syncs

theorem Mapped.step (mapped : Mapped session id w) {revision : U64}
    (here : (w'.device i).state.mappings (session i).bookmarkKey = some ⟨id, revision⟩)
    (others : ∀ j, j ≠ i → w'.device j = w.device j) : Mapped session id w' := by
  intro j
  by_cases same : j = i
  · subst same
    exact ⟨_, here, rfl⟩
  · rw [others j same]
    exact mapped j

/-- A first sync of a device: the server holds the merge, which is its base and its file. -/
theorem Gathered.step (keys : ∀ i, (session i).core.masterKey = masterKey)
    (gathered : Gathered P session masterKey id synced w)
    (syncs : Syncs P i (session i) w w') :
    Gathered P session masterKey id (synced ++ [i]) w' := by
  obtain ⟨object, mapped, rfl⟩ := gathered.mapped i
  obtain ⟨row, base, loc, remote, merged, finds, accepted, settled, holds, _, ⟨_, mapping⟩, others⟩ :=
    syncs.settles mapped
  refine ⟨gathered.mapped.step mapping others, fun _ => ⟨merged.snapshot, keys i ▸ holds,
    mergeBookmarks_keys accepted, ?_⟩⟩
  intro j member
  by_cases same : j = i
  · subst same
    exact ⟨merged.snapshot, settled, le_refl _⟩
  · have before : j ∈ synced := by simpa [same] using member
    obtain ⟨content, ⟨row', found, only⟩, _, each⟩ :=
      gathered.content (List.ne_nil_of_mem before)
    obtain ⟨own, settled, older⟩ := each j before
    cases found.symm.trans finds.stored
    cases only remote (keys i ▸ finds.reads)
    exact ⟨own, settled.congr (by rw [others j same]) (by rw [others j same]),
      older.trans (mergeBookmarks_version accepted)⟩

theorem Gathered.round (lawful : P.Lawful) (keys : ∀ i, (session i).core.masterKey = masterKey)
    (gathered : Gathered P session masterKey id synced w)
    (round : Completes P session order w w') :
    Gathered P session masterKey id (synced ++ order) w' := by
  induction round generalizing synced with
  | nil => rwa [List.append_nil]
  | @cons i order extensions feedback w w₁ w₂ run rest ih =>
      have next := ih (gathered.step keys (syncs_of_completes lawful run))
      rwa [List.append_assoc, List.singleton_append] at next

/-- A second sync of a device: it finds its side unchanged and adopts what the server holds. -/
theorem Adopted.step {content : BookmarkSnapshotV1} {server : Server C}
    (keys : ∀ i, (session i).core.masterKey = masterKey)
    (holds : ServerHolds P masterKey id server content)
    (distinct : (content.roots.map BookmarkRoot.key).Nodup)
    (adopted : Adopted P session id content server synced w)
    (syncs : Syncs P i (session i) w w') :
    Adopted P session id content server (synced ++ [i]) w' := by
  obtain ⟨object, mapped, rfl⟩ := adopted.mapped i
  obtain ⟨row, base, loc, remote, merged, finds, accepted, settled, _, kept, ⟨_, mapping⟩, others⟩ :=
    syncs.settles mapped
  obtain ⟨row', found, only⟩ := holds
  rw [← adopted.unchanged] at found
  cases found.symm.trans finds.stored
  cases only remote (keys i ▸ finds.reads)
  obtain ⟨own, before, older⟩ := adopted.settled i
  cases before.base base finds.opened
  have same : merged.snapshot = content :=
    mergeBookmarks_unchanged accepted (before.file loc finds.file) older distinct
  obtain ⟨unchanged, loc', here⟩ := kept same
  rw [same] at settled
  refine ⟨adopted.mapped.step mapping others, unchanged.trans adopted.unchanged, ?_, ?_⟩
  · intro j
    by_cases self : j = i
    · subst self
      exact ⟨content, settled, le_refl _⟩
    · obtain ⟨own, settled, older⟩ := adopted.settled j
      exact ⟨own, settled.congr (by rw [others j self]) (by rw [others j self]), older⟩
  · intro j member
    by_cases self : j = i
    · subst self
      refine ⟨?_, loc', here, settled.file loc' here⟩
      rw [← adopted.unchanged]
      exact ClientCore.loaded_ok.mpr ⟨row, finds.stored, finds.space, finds.reads⟩
    · obtain ⟨loaded, loc, here, agrees⟩ := adopted.agrees j (by simpa [self] using member)
      exact ⟨loaded, loc, here.congr (by rw [others j self]), agrees⟩

theorem Adopted.round {content : BookmarkSnapshotV1} {server : Server C} (lawful : P.Lawful)
    (keys : ∀ i, (session i).core.masterKey = masterKey)
    (holds : ServerHolds P masterKey id server content)
    (distinct : (content.roots.map BookmarkRoot.key).Nodup)
    (adopted : Adopted P session id content server synced w)
    (round : Completes P session order w w') :
    Adopted P session id content server (synced ++ order) w' := by
  induction round generalizing synced with
  | nil => rwa [List.append_nil]
  | @cons i order extensions feedback w w₁ w₂ run rest ih =>
      have next := ih (adopted.step keys holds distinct (syncs_of_completes lawful run))
      rwa [List.append_assoc, List.singleton_append] at next

/-- After two rounds of completed syncs every device's file reads back as what the server holds, and
the second round uploads nothing. -/
theorem convergence (lawful : P.Lawful) {w'' : World ι C} {first second : List ι}
    (keys : ∀ i, (session i).core.masterKey = masterKey) (mapped : Mapped session id w)
    (all : ∀ i, i ∈ first) (again : ∀ i, i ∈ second)
    (round : Completes P session first w w') (round' : Completes P session second w' w'') :
    w''.server = w'.server ∧ ∃ content, ∀ i,
      (session i).core.loaded P readSnapshot w''.server bookmarkNamespace id = .ok content ∧
      ∃ loc, LocalIs P i (session i) w'' loc ∧ SameContent loc content := by
  have gathered : Gathered P session masterKey id ([] ++ first) w' :=
    Gathered.round lawful keys ⟨mapped, fun some => absurd rfl some⟩ round
  rw [List.nil_append] at gathered
  cases first with
  | nil =>
      cases second with
      | nil =>
          cases round'
          exact ⟨rfl, ⟨"", "", "", 0, []⟩, fun i => absurd (all i) List.not_mem_nil⟩
      | cons i => exact absurd (all i) List.not_mem_nil
  | cons head tail =>
      obtain ⟨content, holds, distinct, settled⟩ := gathered.content (List.cons_ne_nil head tail)
      have adopted : Adopted P session id content w'.server ([] ++ second) w'' :=
        Adopted.round lawful keys holds distinct
          ⟨gathered.mapped, rfl, fun j => settled j (all j), nofun⟩ round'
      refine ⟨adopted.unchanged, content, fun i => ?_⟩
      rw [adopted.unchanged]
      exact adopted.agrees i (again i)

end

section
open Reference (primitives primitives_lawful putting draw unchanged noExtensions)

/-- Two devices, each with a bookmark of its own, mapped to an object without any. -/
def splitWorld : World (Fin 2) Reference.Sealed where
  server := putting Reference.server bookmarkNamespace ⟨9⟩ none
    (.json (writeSnapshot (barSnapshot [])))
  device i := Reference.device (chromiumBookmarksJson
    (barSnapshot [bookmark (if i = 0 then "2" else "3") "added"])) (some ⟨⟨9⟩, 1⟩)

/-- The world after a sync that ends well on these choices. -/
def finished (i : Fin 2) (choices : List Choice) (w : World (Fin 2) Reference.Sealed) :
    Option (World (Fin 2) Reference.Sealed) :=
  match ((Reference.session i).syncBookmarks primitives noExtensions).run.after
      (World.exec primitives i) choices w with
  | some (.done (.ok _), w') => some w'
  | _ => none

theorem runs_of_finished {i : Fin 2} {choices : List Choice}
    {w w' : World (Fin 2) Reference.Sealed} (ends : finished i choices w = some w') :
    ∃ feedback, ((Reference.session i).syncBookmarks primitives noExtensions).run.Runs
      (World.exec primitives i) (fun _ _ _ => True) w (.ok feedback) w' := by
  unfold finished at ends
  split at ends
  · next feedback w₁ ran =>
      cases ends
      exact ⟨feedback, Prog.runs_of_after (fun _ _ => trivial) ran⟩
  · cases ends

theorem completes_of_finished {i : Fin 2} {choices : List Choice} {order : List (Fin 2)}
    {w w₁ w₂ : World (Fin 2) Reference.Sealed} (ends : finished i choices w = some w₁)
    (rest : Completes primitives Reference.session order w₁ w₂) :
    Completes primitives Reference.session (i :: order) w w₂ := by
  obtain ⟨feedback, run⟩ := runs_of_finished ends
  exact .cons run rest

/-- The choices of a sync while it reads, uploads and stores. -/
def readingChoices : List Choice := [unchanged, .proceed, .proceed, .proceed]

def uploadChoices (n : Nat) : List Choice := [.sampled (draw n), .proceed, .proceed]

def storeChoices (n : Nat) : List Choice := [.sampled (draw n), .proceed, .proceed]

theorem convergence_two_devices : ∃ w' w'',
    Completes primitives Reference.session [0, 1] splitWorld w' ∧
    Completes primitives Reference.session [0, 1] w' w'' ∧ w''.server = w'.server ∧
    ∃ content, ∀ i, (Reference.session i).core.loaded primitives readSnapshot w''.server
        bookmarkNamespace ⟨9⟩ = .ok content ∧
      ∃ loc, LocalIs primitives i (Reference.session i) w'' loc ∧ SameContent loc content := by
  have played : ((finished 0 (readingChoices ++ uploadChoices 10 ++ storeChoices 11) splitWorld).bind
      fun w₁ => (finished 1 (readingChoices ++ uploadChoices 12 ++
        .backedUp "backup" :: storeChoices 13) w₁).bind
      fun w₂ => (finished 0 (readingChoices ++ .backedUp "backup" :: storeChoices 14) w₂).bind
      fun w₃ => finished 1 (readingChoices ++ storeChoices 15) w₃).isSome := by
    decide +kernel
  obtain ⟨w₄, ran⟩ := Option.isSome_iff_exists.mp played
  obtain ⟨w₁, first, ran⟩ := Option.bind_eq_some_iff.mp ran
  obtain ⟨w₂, second, ran⟩ := Option.bind_eq_some_iff.mp ran
  obtain ⟨w₃, third, fourth⟩ := Option.bind_eq_some_iff.mp ran
  have round : Completes primitives Reference.session [0, 1] splitWorld w₂ :=
    completes_of_finished first (completes_of_finished second .nil)
  have round' : Completes primitives Reference.session [0, 1] w₂ w₄ :=
    completes_of_finished third (completes_of_finished fourth .nil)
  have mapped : Mapped Reference.session ⟨9⟩ splitWorld := fun i => ⟨⟨⟨9⟩, 1⟩, rfl, rfl⟩
  exact ⟨w₂, w₄, round, round', convergence primitives_lawful (fun _ => rfl) mapped
    (by decide) (by decide) round round'⟩

end
end HeliumSync
