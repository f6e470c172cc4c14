import HeliumSync.Confinement
import HeliumSync.Restoration

/-! When a restore of extension data is all or nothing: an operation that is refused makes it fail, and
a restore that fails keeps every target, unless a folder for a target that is moved out is refused. -/
namespace HeliumSync
open Interaction (Action Prog)
open Interaction.Action (clean_pure clean_throw clean_ofExcept clean_bind clean_mapErr
  clean_outcome_bind fails_throw fails_bind)
open Files FileTree

namespace LocatedProfile
variable {C : Type} {P : Primitives C} {Z : ZipReader} {profile : LocatedProfile}
  {home staged rollback backup archivePath downloads stage : Path} {unique : String}
  {entries : List ArchiveEntry} {targets moved installed : List Path} {w t : FileTree Plaintext}
  {journal : List (FileEntry Plaintext)} {α : Type}

theorem rollBack_fails {failed : Path} {reason : String} :
    (rollBack home rollback backup moved installed failed reason :
      FileAction Plaintext ProfileError α).Fails :=
  fails_bind fun _ => fails_throw

theorem withTempDir_clean {start : String} {body : Path → FileAction Plaintext ProfileError α}
    (clean : ∀ dir, (body dir).Clean Forward) : (withTempDir home start body).Clean Forward :=
  clean_bind (clean_mapErr clean_tempDirIn) fun dir => clean_outcome_bind (clean dir)
    (fun _ => clean_bind clean_dropDir fun _ => clean_ofExcept)
    fun _ => fails_bind fun _ => fails_throw

theorem extractEntry_clean {entry : ArchiveEntry} :
    (extractEntry Z staged entry).Clean Forward := by
  rw [extractEntry]
  split
  · exact clean_throw
  · split
    · exact clean_pure
    · refine clean_bind clean_ofExcept fun _ => ?_
      split
      · exact clean_mapErr clean_change
      · exact clean_bind (clean_mapErr clean_change) fun _ =>
          clean_bind (clean_mapErr clean_change) fun _ => clean_mapErr clean_change

theorem extractExtensionPayload_clean :
    (extractExtensionPayload Z staged entries).Clean Forward := by
  induction entries with
  | nil => exact clean_pure
  | cons entry entries ih => exact clean_bind extractEntry_clean fun _ => ih

theorem stagePreferenceFile_clean {fileName : String} :
    (stagePreferenceFile P home staged entries fileName).Clean Forward := by
  refine clean_bind clean_ofExcept fun _ => clean_bind clean_test fun _ => ?_
  split
  · exact clean_pure
  · refine clean_bind (clean_bind clean_test fun _ => ?_) fun _ =>
      clean_bind clean_ofExcept fun _ => clean_mapErr clean_change
    split
    · exact clean_bind (clean_mapErr clean_readFile) fun _ => clean_ofExcept
    · exact clean_pure

theorem stagePreferenceFiles_clean {fileNames : List String} :
    (stagePreferenceFiles P home staged entries fileNames).Clean Forward := by
  induction fileNames with
  | nil => exact clean_pure
  | cons fileName fileNames ih => exact clean_bind stagePreferenceFile_clean fun _ => ih

theorem createExtensionBundle_clean {Z : ZipFormat} {destination : Path} :
    (profile.createExtensionBundle P Z destination).Clean Forward := by
  refine clean_bind (clean_mapErr clean_change) fun _ => clean_bind (clean_mapErr clean_change)
    fun _ => clean_bind (clean_mapErr clean_survey) fun _ => clean_outcome_bind ?_ (fun stats => ?_)
      fun details => ?_
  · exact clean_bind (clean_mapErr clean_survey) fun _ => clean_bind clean_ofExcept fun _ =>
      clean_bind (clean_mapErr clean_change) fun _ => clean_bind (clean_mapErr clean_change)
        fun _ => clean_pure
  · exact clean_bind (clean_mapErr clean_readFile) fun _ => clean_pure
  · exact fails_bind fun _ => fails_throw

theorem listOrigins_clean : (listOrigins home).Clean Forward := by
  refine clean_bind clean_test fun _ => ?_
  split
  · exact clean_bind (clean_mapErr clean_readDir) fun _ => clean_pure
  · exact clean_pure

theorem moveOut_clean : (moveOut home rollback backup targets moved).Clean Forward := by
  induction targets generalizing moved with
  | nil => exact clean_pure
  | cons relative rest ih =>
      refine clean_bind clean_test fun _ => ?_
      split
      · exact clean_bind (clean_mapErr clean_change) fun _ => clean_outcome_bind clean_change
          (fun _ => ih) fun _ => rollBack_fails
      · exact ih

theorem moveIn_clean :
    (moveIn home rollback staged backup moved targets installed).Clean Forward := by
  induction targets generalizing installed with
  | nil => exact clean_pure
  | cons relative rest ih =>
      refine clean_bind clean_test fun _ => ?_
      split
      · exact clean_outcome_bind clean_change (fun _ => clean_outcome_bind clean_change
          (fun _ => ih) fun _ => rollBack_fails) fun _ => rollBack_fails
      · exact ih

theorem replaceTargets_clean : (replaceTargets home staged backup rollback).Clean Forward :=
  clean_bind (clean_bind listOrigins_clean fun _ => clean_bind listOrigins_clean fun _ => clean_pure)
    fun _ => clean_bind moveOut_clean fun _ => moveIn_clean

theorem restoreStaged_clean :
    (restoreStaged P Z profile entries downloads unique stage).Clean Forward :=
  clean_bind (clean_mapErr clean_change) fun _ => clean_bind extractExtensionPayload_clean fun _ =>
    clean_bind stagePreferenceFiles_clean fun _ => clean_bind (clean_mapErr clean_change) fun _ =>
      clean_bind createExtensionBundle_clean fun _ => withTempDir_clean fun _ => replaceTargets_clean

theorem restoreExtensionBundle_clean :
    (profile.restoreExtensionBundle P Z archivePath downloads unique).Clean Forward :=
  clean_bind (clean_mapErr clean_readFile) fun _ => clean_bind clean_ofExcept fun _ =>
    clean_bind clean_ofExcept fun _ => clean_bind (withTempDir_clean fun _ => restoreStaged_clean)
      fun _ => clean_pure

/-- Every refused operation is reported, and after an error every target is as it was. -/
structure KeepsOrReplaces (home : Path) (w : FileTree Plaintext)
    (journal : List (FileEntry Plaintext)) (outcome : Except ProfileError ExtensionRestoreResult)
    (t : FileTree Plaintext) : Prop where
  reported : Faulted journal → ∃ e, outcome = .error e
  kept : ∀ e, outcome = .error e →
    ∀ r, IsTarget r → t.entry (home ++ r) = w.entry (home ++ r)

theorem faulted_of_stranded (stranded : Stranded home journal) : Faulted journal := by
  obtain ⟨name, r, q, e, -, refused⟩ := stranded
  exact ⟨_, refused, refused_changed⟩

/-- Before anything moved every target is as it was. -/
theorem kept_of_untouched {root : Path} (settled : Settled profile downloads root w)
    (untouched : Untouched profile.path (profile.extensionBackupPath downloads unique)
      (Hidden profile.path w [] journal) w t) {r : Path} (target : IsTarget r) :
    t.entry (profile.path ++ r) = w.entry (profile.path ++ r) := by
  have left : ∀ name, Hidden profile.path w [] journal name →
      Leftover profile.path w journal name := fun name covered =>
    covered.resolve_left List.not_mem_nil
  have same : t.get (Area.live.slot profile.path "" "" root r) =
      w.get (Area.live.slot profile.path "" "" root r) :=
    untouched.get_slot settled extensionBackup_not_origin
      (fun name covered => ⟨(left name covered).temporary, (left name covered).absent⟩) target
  have akin : Akin profile.path root w t :=
    untouched.akin fun name covered => (left name covered).temporary
  exact (settled.entry_eq akin target).trans (same.trans (settled.entry_eq Akin.refl target).symm)

/-- A restore keeps or replaces the targets as a whole exactly when no folder for a target that is to
move out is refused after another one was moved out, and no refusal follows a move of a staged target
over one that was not seen. -/
theorem restore_extension_bundle_all_or_nothing {root : Path}
    {outcome : Except ProfileError ExtensionRestoreResult}
    (settled : Settled profile downloads root w)
    (run : (profile.restoreExtensionBundle P Z archivePath downloads unique).run.Logs FileCall.exec
      FileCall.Steady w journal outcome t) :
    KeepsOrReplaces profile.path w journal outcome t ↔ ¬ Stranded profile.path journal ∧
      ¬ (Overwrote profile.path (fun r => w.entry (profile.path ++ r)) journal ∧
        Faulted journal) := by
  have reported (faulted : Faulted journal) : ∃ e, outcome = .error e := by
    obtain ⟨entry, member, refused⟩ := faulted
    cases outcome with
    | error e => exact ⟨e, rfl⟩
    | ok result =>
        exact absurd refused (restoreExtensionBundle_clean.logs run ⟨result, rfl⟩ entry member).2
  have exits := (logs_of_steady run).post (Interaction.Prog.ensures_of_attempts
    (q := fun outcome journal t => (∃ result, outcome = .ok result) ∨
      Spoiled profile.path (fun r => w.entry (profile.path ++ r)) journal
        fun r => t.entry (profile.path ++ r))
    ((restoreExtensionBundle_attempts settled False.elim).mono
      (fun result _ _ _ => .inl ⟨result, rfl⟩) ?_))
  swap
  · rintro e journal t (⟨untouched, still⟩ | ⟨entries, -, -, -, spoiled⟩)
    · exact .inr (.inl ⟨fun r => kept_of_untouched settled untouched, still.calm⟩)
    · exact .inr spoiled
  rcases exits with ⟨result, rfl⟩ | ⟨kept, fine, fine'⟩ | ⟨why, r, target, there, lost⟩
  · have fine : ¬ Faulted journal := fun faulted => by
      obtain ⟨e, same⟩ := reported faulted
      cases same
    exact ⟨fun _ => ⟨fun stranded => fine (faulted_of_stranded stranded), fun bad => fine bad.2⟩,
      fun _ => ⟨reported, nofun⟩⟩
  · exact ⟨fun _ => ⟨fine, fun bad => fine' bad.1⟩, fun _ => ⟨reported, fun _ _ => kept⟩⟩
  · refine ⟨fun good => ?_, fun fine => why.elim (absurd · fine.1) (absurd · fine.2)⟩
    obtain ⟨e, failed⟩ := reported (why.elim faulted_of_stranded And.right)
    exact absurd ((good.kept e failed r target).symm.trans lost) there

section
open Reference (primitives)

/-- An archive of a profile that has no extensions, with this section for its preference files. -/
def archiveOf (extensions : Json) : List ArchiveEntry :=
  [⟨"manifest.json", .json (writeArchiveMetadata ⟨extensionBundleFormat, "Default", ⟨0, 0, 0⟩⟩)⟩,
    ⟨"preferences/Preferences.extensions.json", .json extensions⟩,
    ⟨"preferences/Secure Preferences.extensions.json", .json extensions⟩]

def bareArchive : List ArchiveEntry := archiveOf .null

/-- The reader of one archive. -/
def zipOf (entries : List ArchiveEntry) : ZipReader where
  pack := storedZip.pack
  unpack _ := .ok entries
  enclosedName name := some ((name.toList.splitOn '/').map String.ofList)
  isDir _ := false

/-- A profile with two extension directories, beside an archive. -/
def twoDirectories : FileTree Plaintext :=
  [(["Default"], folder), (["Default", "Extensions"], folder),
    (["Default", "Local Extension Settings"], folder), (["a.zip"], file (.text "archive"))].foldl
    (fun t (p, x) => t.put p x) folder

/-- A profile whose preferences are a link to nothing, beside an archive. -/
def danglingPreferences : FileTree Plaintext :=
  [(["Default"], folder), (["Default", "Preferences"], symlink ⟨false, [some "gone"]⟩),
    (["a.zip"], file (.text "archive"))].foldl (fun t (p, x) => t.put p x) folder

/-- A profile with links: one to nothing, and one to a directory with the data of an extension. -/
def linkedDirectories : FileTree Plaintext :=
  [(["Default"], folder), (["Default", "Extensions"], symlink ⟨false, [some "gone"]⟩),
    (["Default", "IndexedDB"], symlink ⟨false, [none, some "outside"]⟩), (["outside"], folder),
    (["outside", "chrome-extension_a"], file (.text "data")),
    (["a.zip"], file (.text "archive"))].foldl (fun t (p, x) => t.put p x) folder

/-- The link at `IndexedDB` leads to the same directory, whatever a restore does. -/
theorem linkedDirectories_settled :
    Settled sampleProfile ["Downloads"] ["outside"] linkedDirectories where
  home := rfl
  linkless := linkless_sampleProfile rfl rfl
  direct := by
    have top : linkedDirectories.Linkless [] := fun q before target link => by
      cases List.prefix_nil.mp before
      cases link
    exact top.concat nofun
  outside := by decide
  leads t akin := by
    have same (q : Path) (found : linkedDirectories.look q ≠ none)
        (apart : ∀ name, name ≠ "IndexedDB" → ¬ ["Default", name] <+: q)
        (above : ∀ name, ¬ ["outside", name] <+: q) : t.look q = linkedDirectories.look q := by
      refine (akin q (fun name kind => apart name ?_) fun name _ => above name).resolve_right
        fun absent => found absent.1
      rintro rfl
      rcases kind with temporary | listed
      · exact temporary.free List.mem_cons_self
      · exact absurd listed (by decide)
    have home : t.look ["Default"] = some .dir :=
      same _ (by decide +kernel) (fun _ _ => by simp) fun _ => by simp
    have link : t.look ["Default", "IndexedDB"] = some (.link ⟨false, [none, some "outside"]⟩) :=
      same _ (by decide +kernel) (fun _ other => by simp [other]) fun _ => by simp
    have outside : t.look ["outside"] = some .dir :=
      same _ (by decide +kernel) (fun _ _ => by simp) fun _ => by simp
    have resolved : t.resolve ["Default", "IndexedDB"] = some ["outside"] := by
      change t.follow (t.resolveWithin 39) [] [some "Default", some "IndexedDB"] = _
      simp only [follow, List.nil_append, home, List.cons_append, link]
      change t.follow (t.resolveWithin 38) ["Default"] [none, some "outside"] = _
      simp only [follow, List.dropLast_singleton, List.nil_append, outside]
    exact ⟨fun _ => resolved, fun place found _ => Option.some.inj (found.symm.trans resolved)⟩
  names name _ := by simp [sampleProfile]
  aside := .inl rfl
  above name _ := by simp [sampleProfile]

theorem restorable_sample (root : t.look [] = some .dir) (home : t.look ["Default"] = some .dir)
    (plain : ∀ name ∈ extensionDirectories ++ extensionPreferenceFiles, ∀ target,
      t.look ["Default", name] ≠ some (.link target))
    (indexedDb : t.look ["Default", "IndexedDB"] = none)
    (downloads : ∀ target, t.look ["Downloads"] ≠ some (.link target)) :
    Restorable sampleProfile ["Downloads"] t := by
  have top : t.Linkless [] := fun q before target link => by
    cases List.prefix_nil.mp before
    cases root.symm.trans link
  have linkless := linkless_sampleProfile root home
  refine ⟨⟨home, linkless, top.concat downloads, by decide⟩, ?_⟩
  rintro r (⟨name, listed, rfl⟩ | ⟨name, -, rfl⟩)
  · exact linkless.concat (plain name listed)
  · have direct : t.Linkless (sampleProfile.path ++ ["IndexedDB"]) :=
      linkless.concat fun target link => by cases indexedDb.symm.trans link
    have nothing : t.look (sampleProfile.path ++ ["IndexedDB"] ++ [name]) = none :=
      look_of_before (List.prefix_append _ _) indexedDb
    have plain := direct.concat fun target link => by cases nothing.symm.trans link
    rwa [List.append_assoc] at plain

theorem twoDirectories_restorable : Restorable sampleProfile ["Downloads"] twoDirectories := by
  have kinds : ∀ name ∈ extensionDirectories ++ extensionPreferenceFiles,
      twoDirectories.look ["Default", name] = none ∨
        twoDirectories.look ["Default", name] = some .dir := by decide +kernel
  refine restorable_sample rfl rfl (fun name listed target link => ?_) rfl nofun
  rcases kinds name listed with kind | kind
  · cases kind.symm.trans link
  · cases kind.symm.trans link

/-- A restore with this archive. -/
def swapRun (entries : List ArchiveEntry) (fates : List (Fate Plaintext)) (w : FileTree Plaintext) :
    Option (List (FileEntry Plaintext) × Except ProfileError ExtensionRestoreResult ×
      FileTree Plaintext) :=
  (sampleProfile.restoreExtensionBundle primitives (zipOf entries) ["a.zip"] ["Downloads"]
    "1").run.record FileCall.exec steady fates w

theorem swapRun_logs {fates : List (Fate Plaintext)} {ok : Bool} {p : Path}
    {kind : Option (Kind Plaintext)}
    (evaluated : (swapRun entries fates w).map (fun run =>
      (run.2.1.isOk, (run.2.2.entry p).kind)) = some (ok, kind)) :
    ∃ journal outcome t, (sampleProfile.restoreExtensionBundle primitives (zipOf entries)
      ["a.zip"] ["Downloads"] "1").run.Logs FileCall.exec FileCall.Steady w journal
        outcome t ∧ outcome.isOk = ok ∧ (t.entry p).kind = kind := by
  obtain ⟨⟨journal, outcome, t⟩, ran, same⟩ := Option.map_eq_some_iff.mp evaluated
  cases same
  exact ⟨journal, outcome, t, Interaction.Prog.logs_of_record steady_sound ran, rfl, rfl⟩

/-- The operations up to the rollback folder that ends them, so many between the two folders. -/
def prepared (between : Nat) : List (Fate Plaintext) :=
  [.proceeds, .named ".helium-sync-extension-stage-1"] ++ List.replicate between .proceeds ++
    [.named ".helium-sync-extension-rollback-1"]

theorem restore_extension_bundle_all_or_nothing_proceeds : ∃ journal outcome t,
    (sampleProfile.restoreExtensionBundle primitives (zipOf bareArchive) ["a.zip"] ["Downloads"]
      "1").run.Logs FileCall.exec FileCall.Steady linkedDirectories journal outcome t ∧
    outcome.isOk = true ∧
    (t.entry ["Default", "IndexedDB", "chrome-extension_a"]).kind = none ∧
    (KeepsOrReplaces sampleProfile.path linkedDirectories journal outcome t ↔
      ¬ Stranded sampleProfile.path journal ∧
      ¬ (Overwrote sampleProfile.path (fun r => linkedDirectories.entry (sampleProfile.path ++ r))
        journal ∧ Faulted journal)) := by
  obtain ⟨journal, outcome, t, run, isOk, moved⟩ :=
    @swapRun_logs bareArchive linkedDirectories (prepared 11 ++ List.replicate 27 .proceeds) true
      ["Default", "IndexedDB", "chrome-extension_a"] none (by decide +kernel)
  exact ⟨journal, outcome, t, run, isOk, moved,
    restore_extension_bundle_all_or_nothing linkedDirectories_settled run⟩

/-- When the folder for a later target is refused, the target that was moved out is lost; so is a
link to nothing when a refusal follows the move of a staged target over it. -/
theorem restore_extension_bundle_loses_extensions :
    (∃ journal outcome t,
      (sampleProfile.restoreExtensionBundle primitives (zipOf bareArchive) ["a.zip"] ["Downloads"]
        "1").run.Logs FileCall.exec FileCall.Steady twoDirectories journal outcome t ∧
      outcome.isOk = false ∧ (twoDirectories.entry ["Default", "Extensions"]).kind = some .dir ∧
      (t.entry ["Default", "Extensions"]).kind = none ∧
      ¬ KeepsOrReplaces sampleProfile.path twoDirectories journal outcome t) ∧
    ∃ journal outcome t,
      (sampleProfile.restoreExtensionBundle primitives (zipOf (archiveOf (.obj []))) ["a.zip"]
        ["Downloads"] "1").run.Logs FileCall.exec FileCall.Steady danglingPreferences journal
        outcome t ∧
      outcome.isOk = false ∧ (danglingPreferences.entry ["Default", "Preferences"]).kind =
        some (.link ⟨false, [some "gone"]⟩) ∧
      (t.entry ["Default", "Preferences"]).kind = none ∧
      ¬ KeepsOrReplaces sampleProfile.path danglingPreferences journal outcome t := by
  constructor
  · obtain ⟨journal, outcome, t, run, failed, lost⟩ :=
      @swapRun_logs bareArchive twoDirectories (prepared 11 ++ List.replicate 9 .proceeds ++
        [.fails .notFound, .proceeds, .proceeds]) false ["Default", "Extensions"] none
        (by decide +kernel)
    refine ⟨journal, outcome, t, run, failed, by decide +kernel, lost, fun good => ?_⟩
    match outcome with
    | .ok _ => cases failed
    | .error e =>
        have same := congrArg kind (good.kept e rfl ["Extensions"] (.inl ⟨_, by decide, rfl⟩))
        exact absurd (lost.symm.trans same) (by decide +kernel)
  · obtain ⟨journal, outcome, t, run, failed, lost⟩ :=
      @swapRun_logs (archiveOf (.obj [])) danglingPreferences (prepared 15 ++
        List.replicate 22 .proceeds ++ [.fails .notFound] ++ List.replicate 4 .proceeds) false
        ["Default", "Preferences"] none (by decide +kernel)
    refine ⟨journal, outcome, t, run, failed, by decide +kernel, lost, fun good => ?_⟩
    match outcome with
    | .ok _ => cases failed
    | .error e =>
        have same := congrArg kind (good.kept e rfl ["Preferences"] (.inl ⟨_, by decide, rfl⟩))
        exact absurd (lost.symm.trans same) (by decide +kernel)

end
end LocatedProfile
end HeliumSync
