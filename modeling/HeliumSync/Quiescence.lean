import HeliumSync.Convergence

/-! When a bookmark sync that follows a completed one has nothing to do. -/
namespace HeliumSync
open Interaction (Prog)
open ThreeWay (reconcile_cases)

/-- Neither side has the node, or one has deleted it and the other left it as it was. -/
def GivenUp (base loc remote : Option BookmarkNode) : Prop :=
  (loc = none ∧ (remote = none ∨ remote = base)) ∨ (remote = none ∧ loc = base)

instance (base loc remote : Option BookmarkNode) : Decidable (GivenUp base loc remote) :=
  inferInstanceAs (Decidable (_ ∨ _))

theorem mergedNode_eq_none_iff {base loc remote : Option BookmarkNode} :
    mergedNode base loc remote = none ↔ GivenUp base loc remote := by
  rw [mergedNode_eq]
  rcases reconcile_cases (some base) loc remote (clashNode base loc remote) with
    ⟨same, value⟩ | ⟨differ, left, value⟩ | ⟨differ, right, value⟩ | ⟨⟨differ, left, right⟩, value⟩
  · rw [value, same, GivenUp]
    tauto
  · cases left
    rw [value, GivenUp]
    constructor
    · exact fun gone => .inr ⟨gone, rfl⟩
    · rintro (⟨_, gone | same⟩ | ⟨gone, _⟩)
      · exact gone
      · exact absurd same.symm differ
      · exact gone
  · cases right
    rw [value, GivenUp]
    constructor
    · exact fun gone => .inl ⟨gone, .inr rfl⟩
    · rintro (⟨gone, _⟩ | ⟨_, same⟩)
      · exact gone
      · exact absurd same differ
  · rw [value, GivenUp]
    constructor
    · intro gone
      cases loc with
      | none =>
          cases remote with
          | none => exact absurd rfl differ
          | some r => cases gone
      | some l => cases remote <;> cases gone
    · rintro (⟨rfl, rfl | rfl⟩ | ⟨_, rfl⟩)
      · exact absurd rfl differ
      · exact absurd rfl right
      · exact absurd rfl left

/-- The root keys in the order of the merge, but for those given up. -/
def survivingKeys (base loc remote : List BookmarkRoot) : List String :=
  (rootKeys base loc remote).filter fun key =>
    ¬ GivenUp (rootMap base key) (rootMap loc key) (rootMap remote key)

theorem mergedRoots_survivingKeys (base loc remote : List BookmarkRoot) :
    (mergedRoots base loc remote).map BookmarkRoot.key = survivingKeys base loc remote := by
  rw [mergedRoots_keys, survivingKeys]
  apply List.filter_congr
  intro key _
  apply Bool.eq_iff_iff.mpr
  rw [decide_eq_true_iff, Option.isSome_iff_ne_none]
  exact not_congr mergedNode_eq_none_iff

section
variable {ι C : Type} [DecidableEq ι] (P : Primitives C) (i : ι) (session : Session)

/-- What is kept of the roots of both sides is in ascending order already, so that writing the file
and reading it back keeps the order. -/
def Orderly (w : World ι C) : Prop :=
  ∀ base loc remote proof, LocalIs P i session w loc →
    session.remoteOf P i w = .ok (some (remote, proof)) →
    session.openedBase P ((w.device i).state.syncBases session.bookmarkKey) = .ok base →
    (survivingKeys (baseRoots base) loc.roots remote.roots).Pairwise (· < ·)

/-- Nothing was uploaded, and the file was neither rewritten nor archived. -/
structure Undisturbed (w w' : World ι C) : Prop where
  server : w'.server = w.server
  file : (w'.device i).bookmarks = (w.device i).bookmarks
  backups : (w'.device i).backups = (w.device i).backups

end

section
variable {ι C : Type} [DecidableEq ι] {P : Primitives C} {i : ι} {session : Session}
  {w w' : World ι C}

omit [DecidableEq ι] in
/-- What a sync found decides whether its order lasts. -/
theorem Finds.orderly_iff {id : ObjectId} {row : ObjectRow C} {base : Option BookmarkSnapshotV1}
    {loc remote : BookmarkSnapshotV1} {merged : BookmarkMergeResult}
    (finds : Finds P i session w id row base loc remote)
    (accepted : mergeBookmarks base loc remote = .ok merged) :
    Orderly P i session w ↔ Ordered.Ascending BookmarkRoot.key merged.snapshot.roots := by
  obtain ⟨_, _, rfl⟩ := mergeBookmarks_ok.mp accepted
  rw [Ordered.Ascending, mergedRoots_survivingKeys]
  constructor
  · intro orderly
    exact orderly base loc remote _ finds.file finds.looked finds.opened
  · intro ascending base' loc' remote' proof file looked opened
    cases finds.file.unique file
    cases finds.looked.symm.trans looked
    cases finds.opened.symm.trans opened
    exact ascending

/-- A completed sync leaves the same content on the server, in the base and in the file; the file
reads back as exactly that when its order lasts. -/
theorem Syncs.leaves (syncs : Syncs P i session w w') : ∃ object content,
    (w'.device i).state.mappings session.bookmarkKey = some object ∧
    ServerHolds P session.core.masterKey object.objectId w'.server content ∧
    Settled P i session w' content ∧ (content.roots.map BookmarkRoot.key).Nodup ∧
    ∀ loc, LocalIs P i session w' loc → (loc = content ↔ Orderly P i session w) := by
  cases syncs with
  | @merged id row base loc remote merged w₁ w₂ row' finds accepted uploaded restored saved =>
      obtain ⟨server, file, mapping, _⟩ := saved.frame
      have before : LocalIs P i session w₁ loc := finds.file.congr (by rw [uploaded.device])
      have content := (restored.file before).1
      refine ⟨⟨id, row'.revision.toU64⟩, merged.snapshot, mapping, ?_, ⟨fun _ => saved.base, ?_⟩,
        mergeBookmarks_keys accepted, ?_⟩
      · rw [server, restored.server]
        exact uploaded.holds finds
      · intro loc' here
        exact content loc' (here.congr file.symm)
      · intro loc' here
        have here : LocalIs P i session w₂ loc' := here.congr file.symm
        rw [finds.orderly_iff accepted]
        obtain ⟨format, browser, mine, ascending⟩ := finds.file.shape
        rcases restored with ⟨same, rfl⟩ | ⟨_, rfl⟩
        · have kept : loc' = merged.snapshot := (here.unique before).trans same.symm
          exact ⟨fun _ => same ▸ ascending, fun _ => kept⟩
        · obtain ⟨plaintext, found, parsed⟩ := here
          rw [World.setDevice_self] at found
          cases found
          rw [parseBookmarks_written_ok parsed]
          obtain ⟨⟨sameFormat, sameBrowser, sameDirectory⟩, _, rfl⟩ := mergeBookmarks_ok.mp accepted
          exact readBack_eq_self_iff (sameFormat.symm.trans format) (sameBrowser.symm.trans browser)
            (sameDirectory.symm.trans mine)
  | @first id loc w₁ row here looked uploaded saved =>
      obtain ⟨server, file, mapping, _⟩ := saved.frame
      have unique {loc'} (later : LocalIs P i session w' loc') : loc' = loc :=
        later.unique (here.congr (file.trans (by rw [uploaded.1])))
      refine ⟨⟨id, row.revision.toU64⟩, loc, mapping, ?_, ⟨fun _ => saved.base, ?_⟩,
        here.shape.2.2.2.nodup, ?_⟩
      · rw [server]
        exact uploaded.2.holds
      · intro loc' later
        rw [unique later]
        exact .refl loc
      · intro loc' later
        refine ⟨fun _ base loc remote proof _ found => ?_, fun _ => unique later⟩
        cases looked.symm.trans found

omit [DecidableEq ι] in
/-- A sync of a device that holds what the server holds finds just that, and merges it to itself. -/
theorem Finds.settled {object : ObjectMapping} {content : BookmarkSnapshotV1}
    (mapped : (w.device i).state.mappings session.bookmarkKey = some object)
    (holds : ServerHolds P session.core.masterKey object.objectId w.server content)
    (settled : Settled P i session w content)
    (distinct : (content.roots.map BookmarkRoot.key).Nodup) {id : ObjectId} {row : ObjectRow C}
    {base : Option BookmarkSnapshotV1} {loc remote : BookmarkSnapshotV1}
    {merged : BookmarkMergeResult} (finds : Finds P i session w id row base loc remote)
    (accepted : mergeBookmarks base loc remote = .ok merged) :
    remote = content ∧ merged.snapshot = content := by
  cases finds.mapped mapped
  obtain ⟨row', found, only⟩ := holds
  cases found.symm.trans finds.stored
  cases only remote finds.reads
  cases settled.base base finds.opened
  exact ⟨rfl, mergeBookmarks_unchanged accepted (settled.file loc finds.file) (le_refl _) distinct⟩

omit [DecidableEq ι] in
theorem Undisturbed.refl (w : World ι C) : Undisturbed i w w := ⟨rfl, rfl, rfl⟩

/-- Storing the sync state disturbs nothing. -/
theorem AfterSave.undisturbed_iff {v : World ι C} {merged : BookmarkSnapshotV1}
    {object : ObjectMapping} (saved : AfterSave P i session merged object w w') :
    Undisturbed i v w' ↔ Undisturbed i v w := by
  obtain ⟨server, file, _⟩ := saved.frame
  have backups : (w'.device i).backups = (w.device i).backups := by
    obtain ⟨envelope, _, rfl⟩ := saved
    rw [World.setDevice_self]
    rfl
  constructor
  · rintro ⟨left, middle, right⟩
    exact ⟨server ▸ left, file ▸ middle, backups ▸ right⟩
  · rintro ⟨left, middle, right⟩
    exact ⟨server ▸ left, file ▸ middle, backups ▸ right⟩

/-- A merge that is the remote snapshot disturbs nothing just when it is the local one too. -/
theorem undisturbed_iff {id : ObjectId} {loc remote merged : BookmarkSnapshotV1}
    {row row' : ObjectRow C} {w₁ : World ι C} (same : merged = remote)
    (uploaded : AfterUpload P session id remote merged row w w₁ row')
    (restored : AfterRestore i loc merged w₁ w') : Undisturbed i w w' ↔ loc = merged := by
  rcases uploaded with ⟨_, rfl, _⟩ | ⟨changed, _⟩
  · rcases restored with ⟨kept, rfl⟩ | ⟨changed, rfl⟩
    · exact ⟨fun _ => kept.symm, fun _ => .refl w'⟩
    · constructor
      · rintro ⟨_, _, backups⟩
        rw [World.setDevice_self] at backups
        exact absurd backups (List.cons_ne_self _ _)
      · exact fun equal => absurd equal.symm changed
  · exact absurd same changed

/-- After a completed sync, with the file and the object as it left them, the next sync uploads
nothing and leaves the file alone, whatever becomes of it, when the order of the roots lasts; one
that completes does so only then. -/
theorem quiescence (lawful : P.Lawful) {extensions extensions' : ExtensionSyncOutcome}
    {feedback : SyncFeedback} {outcome : Except String SyncFeedback} {w w' v v' : World ι C}
    (run : (session.syncBookmarks P extensions).run.Runs (World.exec P i) (fun _ _ _ => True) w
      (.ok feedback) w')
    (file : (v.device i).bookmarks = (w'.device i).bookmarks)
    (state : (v.device i).state = (w'.device i).state)
    (object : ∀ mapping, (w'.device i).state.mappings session.bookmarkKey = some mapping →
      v.server.objects mapping.objectId = w'.server.objects mapping.objectId)
    (next : (session.syncBookmarks P extensions').run.Runs (World.exec P i) (fun _ _ _ => True) v
      outcome v') :
    (Orderly P i session w → Undisturbed i v v') ∧
    (outcome.isOk → Undisturbed i v v' → Orderly P i session w) := by
  obtain ⟨_, syncs, _⟩ := run.post (@syncs_alone _ _ _ P i (fun _ _ _ => True) session w [] lawful
    extensions)
  obtain ⟨known, content, mapped, holds, settled, distinct, lasts⟩ := syncs.leaves
  have mapped : (v.device i).state.mappings session.bookmarkKey = some known := state ▸ mapped
  have holds : ServerHolds P session.core.masterKey known.objectId v.server content := by
    obtain ⟨row, found, only⟩ := holds
    exact ⟨row, (object known (state ▸ mapped)).trans found, only⟩
  have settled : Settled P i session v content := settled.congr state file
  have lasts {loc} (here : LocalIs P i session v loc) : loc = content ↔ Orderly P i session w :=
    lasts loc (here.congr file.symm)
  obtain ⟨_, done⟩ := next.post (@syncs_alone _ _ _ P i (fun _ _ _ => True) session v [] lawful
    extensions')
  have kept {id row base loc remote merged v₁ v₂ row'} (orderly : Orderly P i session w)
      (finds : Finds P i session v id row base loc remote)
      (accepted : mergeBookmarks base loc remote = .ok merged)
      (uploaded : AfterUpload P session id remote merged.snapshot row v v₁ row')
      (restored : AfterRestore i loc merged.snapshot v₁ v₂) : Undisturbed i v v₂ := by
    obtain ⟨rfl, same⟩ := finds.settled mapped holds settled distinct accepted
    rw [undisturbed_iff same uploaded restored, same]
    exact (lasts finds.file).mpr orderly
  have synced (syncs : Syncs P i session v v') : Undisturbed i v v' ↔ Orderly P i session w := by
    obtain ⟨row, base, loc, remote, merged, v₁, v₂, row', finds, accepted, uploaded, restored,
      saved⟩ := Syncs.of_mapped mapped syncs
    obtain ⟨rfl, same⟩ := finds.settled mapped holds settled distinct accepted
    rw [saved.undisturbed_iff, undisturbed_iff same uploaded restored, same]
    exact lasts finds.file
  cases outcome with
  | ok feedback' => exact ⟨(synced done.1).mpr, fun _ => (synced done.1).mp⟩
  | error e =>
      refine ⟨fun orderly => ?_, nofun⟩
      cases done.1 with
      | before same => subst same; exact .refl v'
      | uploaded finds accepted uploaded =>
          obtain ⟨rfl, same⟩ := finds.settled mapped holds settled distinct accepted
          rcases uploaded with ⟨_, rfl, _⟩ | ⟨changed, _⟩
          · exact .refl v'
          · exact absurd same changed
      | restoring finds accepted changed =>
          obtain ⟨rfl, same⟩ := finds.settled mapped holds settled distinct accepted
          exact absurd (same.trans ((lasts finds.file).mpr orderly).symm) changed
      | restored finds accepted uploaded restored => exact kept orderly finds accepted uploaded restored
      | firstUploaded _ looked =>
          obtain ⟨_, _, found, _⟩ := Session.remoteOf_mapped mapped looked
          cases found
      | saved syncs => exact (synced syncs).mpr orderly

end

section
open Reference (primitives primitives_lawful putting noExtensions)

def emptyRoots (keys : List String) : BookmarkSnapshotV1 :=
  ⟨"helium-bookmarks-v1", "helium", "Default", 1,
    keys.map fun key => ⟨key, .folder "1" key none none []⟩⟩

/-- Devices with these root folders, mapped to an object with those. -/
def rootsWorld (here there : List String) : World (Fin 2) Reference.Sealed where
  server := putting Reference.server bookmarkNamespace ⟨9⟩ none (.json (writeSnapshot (emptyRoots there)))
  device _ := Reference.device (chromiumBookmarksJson (emptyRoots here)) (some ⟨⟨9⟩, 1⟩)

/-- The choices of a sync that uploads and rewrites the file, and of those that follow. -/
def firstChoices : List Choice :=
  readingChoices ++ uploadChoices 10 ++ .backedUp "backup" :: storeChoices 11

def calmChoices : List Choice := readingChoices ++ storeChoices 12

def rewritingChoices : List Choice := readingChoices ++ .backedUp "backup" :: storeChoices 12

theorem quiescence_ascending_roots :
    Orderly primitives 0 (Reference.session 0)
      (rootsWorld ["bookmark_bar", "synced"] ["bookmark_bar", "other"]) ∧
    ∃ w' v', Completes primitives Reference.session [0]
        (rootsWorld ["bookmark_bar", "synced"] ["bookmark_bar", "other"]) w' ∧
      Completes primitives Reference.session [0] w' v' ∧ Undisturbed 0 w' v' := by
  have played : ((finished 0 firstChoices
      (rootsWorld ["bookmark_bar", "synced"] ["bookmark_bar", "other"])).bind
      (finished 0 calmChoices)).isSome := by
    decide +kernel
  obtain ⟨v', ran⟩ := Option.isSome_iff_exists.mp played
  obtain ⟨w', first, second⟩ := Option.bind_eq_some_iff.mp ran
  obtain ⟨feedback, run⟩ := runs_of_finished first
  obtain ⟨feedback', next⟩ := runs_of_finished second
  have orderly : Orderly primitives 0 (Reference.session 0)
      (rootsWorld ["bookmark_bar", "synced"] ["bookmark_bar", "other"]) := by
    have here : LocalIs primitives 0 (Reference.session 0)
        (rootsWorld ["bookmark_bar", "synced"] ["bookmark_bar", "other"])
        (readBack "Default" (emptyRoots ["bookmark_bar", "synced"])) :=
      ⟨_, rfl, parseBookmarks_written (by decide +kernel)⟩
    have there : (Reference.session 0).remoteOf primitives 0
        (rootsWorld ["bookmark_bar", "synced"] ["bookmark_bar", "other"]) =
        .ok (some (emptyRoots ["bookmark_bar", "other"],
          ⟨⟨9⟩, bookmarkNamespace, 1, 1, true⟩)) := by
      decide +kernel
    intro base loc remote proof file looked opened
    cases here.unique file
    cases there.symm.trans looked
    cases opened
    decide +kernel
  exact ⟨orderly, w', v', .cons run .nil, .cons next .nil,
    (quiescence primitives_lawful run rfl rfl (fun _ _ => rfl) next).1 orderly⟩

/-- A root that only the device has, before one that only the server has: the second sync archives
and rewrites a file nobody has touched. -/
theorem quiescence_crossed_roots :
    ∃ w' v', Completes primitives Reference.session [0]
        (rootsWorld ["bookmark_bar", "other"] ["bookmark_bar", "synced"]) w' ∧
      Completes primitives Reference.session [0] w' v' ∧ ¬ Undisturbed 0 w' v' := by
  have played : ((finished 0 firstChoices
      (rootsWorld ["bookmark_bar", "other"] ["bookmark_bar", "synced"])).bind fun w' =>
      (finished 0 rewritingChoices w').filter fun v' =>
        (v'.device 0).backups ≠ (w'.device 0).backups).isSome := by
    decide +kernel
  obtain ⟨v', ran⟩ := Option.isSome_iff_exists.mp played
  obtain ⟨w', first, second⟩ := Option.bind_eq_some_iff.mp ran
  obtain ⟨second, archived⟩ := Option.filter_eq_some_iff.mp second
  refine ⟨w', v', completes_of_finished first .nil, completes_of_finished second .nil, ?_⟩
  exact fun same => of_decide_eq_true archived same.backups

end

end HeliumSync
