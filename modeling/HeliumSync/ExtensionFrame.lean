import HeliumSync.ExtensionSwap

/-! What a restore touches: the extension data becomes the archive's, other preferences keep their
values, and an archive with anything else in its payload is turned away. -/
namespace HeliumSync
open Interaction (Action Prog)
open Interaction.Action (issues_bind issues_bind_ofExcept issues_bind_fails issues_mapErr issues_pure
  issues_throw issues_ofExcept issues_outcome issues_ignore fails_bind_left fails_bind fails_throw)
open Files FileTree

theorem Keyed.get_filter {κ α : Type} [DecidableEq κ] {key : α → κ} {k : κ} {p : α → Bool}
    (keeps : ∀ x, key x = k → p x = true) (xs : List α) :
    Keyed.get key (xs.filter p) k = Keyed.get key xs k := by
  induction xs with
  | nil => rfl
  | cons x xs ih =>
      by_cases kept : p x = true
      · rw [List.filter_cons_of_pos kept, Keyed.get, Keyed.get, ih]
      · have other : key x ≠ k := fun same => kept (keeps x same)
        rw [List.filter_cons_of_neg kept, Keyed.get, ih, if_neg other, Option.or_none]

namespace LocatedProfile
variable {C : Type} {P : Primitives C} {Z : ZipReader} {profile : LocatedProfile}
  {home staged archivePath downloads stage : Path} {unique : String} {entries : List ArchiveEntry}
  {w t : FileTree Plaintext} {journal : List (FileEntry Plaintext)}

/-- Below an extension directory, or below an origin of an extension in `IndexedDB`. -/
def IsExtensionData (q : Path) : Prop :=
  (∃ name ∈ extensionDirectories, [name] <+: q) ∨
    ∃ name, isExtensionOrigin name = true ∧ ["IndexedDB", name] <+: q

/-- A preference file that keeps the value of every key but `extensions`, or is not there still. -/
def PreferencesKept (P : Primitives C) (old new : Option (Kind Plaintext)) : Prop :=
  (old = none ∧ new = none) ∨ ∃ base merged, BasePreferences P old base ∧
    new = some (.file (.json merged)) ∧
    ∀ key, key ≠ "extensions" → Json.get merged key = Json.get base key

/-- The extension data of the profile is the payload, and nothing else changed but for these folders. -/
structure OnlyExtensionsChanged (P : Primitives C) (Z : ZipReader) (home : Path)
    (left : String → Prop) (entries : List ArchiveEntry) (w t : FileTree Plaintext) : Prop where
  files : ∀ q, IsExtensionData q → ∀ content,
    t.look (home ++ q) = some (.file content) ↔ (q, some content) ∈ payloadEntries Z entries
  folders : ∀ q, IsExtensionData q → (t.isDir (home ++ q) ↔
    ∃ p content, (p, content) ∈ payloadEntries Z entries ∧ q <+: p ∧ (q = p → content = none))
  links : ∀ q target, IsExtensionData q → t.look (home ++ q) ≠ some (.link target)
  preferences : ∀ fileName ∈ extensionPreferenceFiles,
    PreferencesKept P (w.look (home ++ [fileName])) (t.look (home ++ [fileName]))
  others : ∀ q, ¬ IsExtensionData q → Clear home left (home ++ q) →
    (∀ fileName ∈ extensionPreferenceFiles, q ≠ [fileName] ∧
      (w.isDir (home ++ [fileName]) → ¬ [fileName] <+: q)) →
    t.look (home ++ q) = w.look (home ++ q) ∨
      (q = ["IndexedDB"] ∧ w.look (home ++ q) = none ∧ t.isDir (home ++ q) ∧
        ∃ p content, (p, content) ∈ payloadEntries Z entries ∧ q <+: p)

theorem get_mergePreferences {live : Path} {extensions base merged : Json}
    (joined : mergePreferences live extensions base = .ok merged) {key : String}
    (other : key ≠ "extensions") : merged.get key = base.get key := by
  cases base with
  | obj fields =>
      cases joined
      have kept : Keyed.get Prod.fst (fields.filter (·.1 ≠ "extensions")) key =
          Keyed.get Prod.fst fields key := by
        refine Keyed.get_filter (fun field same => ?_) fields
        rw [decide_eq_true_eq, same]
        exact other
      simp only [Json.get]
      split_ifs
      · rw [kept]
      · rw [Ordered.get_insert_of_ne other, kept]
  | null | bool _ | int _ | float _ | str _ | arr _ => cases joined

theorem Renewed.kept {fileName : String} {old new : Option (Kind Plaintext)}
    (renewed : Renewed P entries fileName old new) : PreferencesKept P old new := by
  obtain ⟨extensions, -, ⟨absent, -, gone⟩ | ⟨base, live, merged, -, read, joined, put⟩⟩ := renewed
  · exact .inl ⟨absent, gone⟩
  · exact .inr ⟨base, merged, read, put, fun key other => get_mergePreferences joined other⟩

theorem IsExtensionData.target {q : Path} (data : IsExtensionData q) :
    ∃ r, IsTarget r ∧ r <+: q ∧ Inside q := by
  rcases data with ⟨name, listed, rest, rfl⟩ | ⟨name, origin, rest, rfl⟩
  · exact ⟨[name], .inl ⟨name, List.mem_append_left _ listed, rfl⟩, List.prefix_append _ _,
      name, List.mem_cons_of_mem _ listed, rest, rfl⟩
  · exact ⟨["IndexedDB", name], .inr ⟨name, origin, rfl⟩, List.prefix_append _ _,
      "IndexedDB", List.mem_cons_self, name :: rest, rfl⟩

/-- Nothing stands below what is there in the tree but is no directory. -/
theorem look_below {p q : Path} (other : ¬ t.isDir p) (below : q ≠ []) : t.look (p ++ q) = none := by
  by_contra found
  exact other (isDir_of_look below found)

theorem Restored.onlyExtensions {left : String → Prop} (restored : Restored P Z home left entries w t)
    (deserved : Deserved home w t) : OnlyExtensionsChanged P Z home left entries w t := by
  refine ⟨fun q data content => ?_, fun q data => ?_, fun q target data => ?_,
    fun fileName listed => (restored.preferences fileName listed).kept, fun q data clear files => ?_⟩
  · obtain ⟨r, target, before, inside⟩ := data.target
    exact restored.files r q target before inside content
  · obtain ⟨r, target, before, inside⟩ := data.target
    exact restored.folders r q target before inside
  · obtain ⟨r, target', before, inside⟩ := data.target
    exact restored.plain r q target target' before
  · by_cases preference : ∃ fileName ∈ extensionPreferenceFiles, [fileName] <+: q
    · -- below a preference file there is nothing, before and after
      obtain ⟨fileName, listed, rest, rfl⟩ := preference
      obtain ⟨other, plain⟩ := files fileName listed
      have below : rest ≠ [] := fun nothing => other (by rw [nothing, List.append_nil])
      have old : ¬ w.isDir (home ++ [fileName]) := fun directory =>
        plain directory (List.prefix_append _ _)
      have new : ¬ t.isDir (home ++ [fileName]) := by
        rcases (restored.preferences fileName listed).kept with ⟨-, gone⟩ | ⟨_, _, -, put, -⟩
        · exact fun directory => by cases gone.symm.trans directory
        · exact fun directory => by cases put.symm.trans directory
      rw [← List.append_assoc, look_below old below, look_below new below]
      exact .inl rfl
    · have apart : ∀ r, IsTarget r → ¬ home ++ r <+: home ++ q := by
        rintro r (⟨name, listed, rfl⟩ | ⟨name, origin, rfl⟩) before
        · have before := (List.prefix_append_right_inj home).mp before
          rcases List.mem_append.mp listed with directory | file
          · exact data (.inl ⟨name, directory, before⟩)
          · exact preference ⟨name, file, before⟩
        · exact data (.inr ⟨name, origin, (List.prefix_append_right_inj home).mp before⟩)
      rcases restored.frame _ (List.prefix_append _ _) clear apart with same | ⟨absent, made, here⟩
      · exact .inl same
      obtain rfl := List.append_cancel_left here
      refine .inr ⟨rfl, absent, made, ?_⟩
      rcases deserved with same | ⟨name, origin, there⟩
      · cases (same.symm.trans made).symm.trans absent
      · have inOrigin : IsExtensionData ["IndexedDB", name] := .inr ⟨name, origin, List.prefix_rfl⟩
        obtain ⟨r, target, before, inside⟩ := inOrigin.target
        have above : ["IndexedDB"] <+: ["IndexedDB", name] := ⟨[name], rfl⟩
        rcases found : t.look (home ++ ["IndexedDB", name]) with _ | content | link | _
        · exact absurd found there
        · exact ⟨_, _, (restored.files r _ target before inside content).mp found, above⟩
        · exact absurd found (restored.plain r _ link target before)
        · obtain ⟨p, content, member, within, -⟩ :=
            (restored.folders r _ target before inside).mp found
          exact ⟨p, content, member, above.trans within⟩

/-- An archive that may not be restored is not unpacked to its end. -/
theorem extractExtensionPayload_fails (inadmissible : ¬ Admissible Z entries) :
    (extractExtensionPayload Z staged entries).Fails := by
  induction entries with
  | nil => exact absurd (fun _ member => absurd member List.not_mem_nil) inadmissible
  | cons entry entries ih =>
      by_cases later : Admissible Z entries
      · refine fails_bind_left ?_
        have refused : ¬ (Z.enclosedName entry.name ≠ none ∧
            ∀ enclosed, Z.enclosedName entry.name = some enclosed → ∀ relative,
              stripPayload enclosed = some relative →
                validateExtensionRelativePath relative = .ok ()) := by
          refine fun fine => inadmissible fun entry' member => ?_
          rcases List.mem_cons.mp member with rfl | member
          · exact fine
          · exact later entry' member
        rw [extractEntry]
        cases named : Z.enclosedName entry.name with
        | none => exact fails_throw
        | some enclosed =>
            dsimp only
            cases stripped : stripPayload enclosed with
            | none =>
                refine absurd ⟨by simp [named], fun enclosed' same relative below => ?_⟩ refused
                cases named.symm.trans same
                cases stripped.symm.trans below
            | some relative =>
                cases checked : validateExtensionRelativePath relative with
                | error e =>
                    refine fails_bind_left ?_
                    rw [checked]
                    exact fails_throw
                | ok result =>
                    refine absurd ⟨by simp [named], fun enclosed' same relative' below => ?_⟩ refused
                    cases named.symm.trans same
                    cases stripped.symm.trans below
                    exact checked
      · exact fails_bind fun _ => ih later

/-- Nothing undoes earlier steps. -/
def NoUndo (call : FileCall Plaintext) : Prop := call.undo = false

theorem extractExtensionPayload_noUndo :
    (extractExtensionPayload Z staged entries).run.Issues NoUndo := by
  induction entries with
  | nil => exact issues_pure
  | cons entry entries ih =>
      refine issues_bind ?_ fun _ => ih
      rw [extractEntry]
      split
      · exact issues_throw
      · split
        · exact issues_pure
        · refine issues_bind issues_ofExcept fun _ => ?_
          split
          · exact issues_mapErr ⟨rfl, fun _ => trivial⟩
          · exact issues_bind (issues_mapErr ⟨rfl, fun _ => trivial⟩) fun _ =>
              issues_bind (issues_mapErr ⟨rfl, fun _ => trivial⟩) fun _ =>
                issues_mapErr ⟨rfl, fun _ => trivial⟩

theorem restoreStaged_noUndo (inadmissible : ¬ Admissible Z entries) :
    (restoreStaged P Z profile entries downloads unique stage).run.Issues NoUndo :=
  issues_bind (issues_mapErr ⟨rfl, fun _ => trivial⟩) fun _ =>
    issues_bind_fails extractExtensionPayload_noUndo (extractExtensionPayload_fails inadmissible)

theorem withTempDir_noUndo {α : Type} {start : String}
    {body : Path → FileAction Plaintext ProfileError α} (issues : ∀ dir, (body dir).run.Issues NoUndo) :
    (withTempDir home start body).run.Issues NoUndo :=
  issues_bind (issues_mapErr ⟨rfl, fun _ => trivial⟩) fun dir =>
    issues_bind (issues_outcome (issues dir)) fun _ =>
      issues_bind (issues_ignore ⟨rfl, fun _ => trivial⟩) fun _ => issues_ofExcept

/-- A restore that undoes nothing is steady. -/
theorem allowed_of_noUndo {sighted : Prop} {outcome : Except ProfileError ExtensionRestoreResult}
    {allow : FileCall Plaintext → Fate Plaintext → FileTree Plaintext → Prop}
    (run : (profile.restoreExtensionBundle P Z archivePath downloads unique).run.Logs FileCall.exec
      allow w journal outcome t)
    (noUndo : ∀ entry ∈ journal, NoUndo entry.op)
    (sees : sighted → ∀ call fate t, allow call fate t → FileCall.Sighted call fate t) :
    (profile.restoreExtensionBundle P Z archivePath downloads unique).run.Logs FileCall.exec
      (FileCall.Allowed sighted) w journal outcome t :=
  run.allowed fun entry member fate t fine =>
    ⟨fun undo => (by cases (noUndo entry member).symm.trans undo),
      fun asked => sees asked entry.op fate t fine⟩

/-- An archive that may not be restored is turned away before anything is undone. -/
theorem noUndo_of_inadmissible {outcome : Except ProfileError ExtensionRestoreResult}
    (run : (profile.restoreExtensionBundle P Z archivePath downloads unique).run.Logs FileCall.exec
      (fun _ _ _ => True) w journal outcome t)
    (brings : Brings P Z archivePath w entries) (inadmissible : ¬ Admissible Z entries) :
    ∀ entry ∈ journal, NoUndo entry.op := by
  obtain ⟨archive, read, opened⟩ := brings
  obtain ⟨fate, w₁, reply, later, -, ran, rfl, rest⟩ := Prog.Logs.called run
  have issues : ∀ entry ∈ later, NoUndo entry.op := by
    obtain ⟨rfl, rfl | ⟨e, rfl⟩⟩ := answer_cases ran
    · rw [read] at rest
      refine Prog.Issues.logs ?_ rest
      refine issues_bind_ofExcept fun entries' opened' => ?_
      rw [opened] at opened'
      cases opened'
      refine issues_bind issues_ofExcept fun _ => issues_bind ?_ fun _ => issues_pure
      exact withTempDir_noUndo fun _ => restoreStaged_noUndo inadmissible
    · refine Prog.Issues.logs ?_ rest
      exact trivial
  intro entry member
  rcases List.mem_cons.mp member with rfl | member
  · rfl
  · exact issues entry member

/-- A restore that succeeds, with no question refused, changes the extension data only, and an archive
with a payload entry elsewhere is turned away with the profile as it was; what stays otherwise is a
temporary folder whose removal was refused. -/
theorem restore_extension_bundle_frame (restorable : Restorable profile downloads w) :
    (∀ journal result t,
      (profile.restoreExtensionBundle P Z archivePath downloads unique).run.Logs FileCall.exec
        FileCall.Sighted w journal (.ok result) t →
      ∃ entries, Brings P Z archivePath w entries ∧ OnlyExtensionsChanged P Z profile.path
        (Leftover profile.path w journal) entries w t) ∧
    ∀ journal outcome t,
      (profile.restoreExtensionBundle P Z archivePath downloads unique).run.Logs FileCall.exec
        (fun _ _ _ => True) w journal outcome t →
      ∀ entries, Brings P Z archivePath w entries → ¬ Admissible Z entries →
      (∃ e, outcome = .error e) ∧
        ∀ q, Clear profile.path (Leftover profile.path w journal) (profile.path ++ q) →
          t.look (profile.path ++ q) = w.look (profile.path ++ q) := by
  have none {name : String} {journal : List (FileEntry Plaintext)}
      (covered : Hidden profile.path w [] journal name) : Leftover profile.path w journal name :=
    covered.resolve_left List.not_mem_nil
  constructor
  · intro journal result t run
    have sure : (profile.restoreExtensionBundle P Z archivePath downloads unique).run.Logs
        FileCall.exec (FileCall.Allowed True) w journal (.ok result) t :=
      allowed_of_noUndo run (fun entry member =>
        (restoreExtensionBundle_clean.logs run ⟨result, rfl⟩ entry member).1) fun _ _ _ _ => id
    obtain ⟨entries, brings, -, succeeded⟩ := sure.post
      (restoreExtensionBundle_attempts restorable.settled fun _ => ⟨restorable, rfl⟩)
    obtain ⟨restored, deserved⟩ := succeeded trivial
    have only := restored.onlyExtensions deserved
    refine ⟨entries, brings, { only with others := fun q data clear => only.others q data ?_ }⟩
    exact fun name covered => clear name (none covered)
  · intro journal outcome t run entries brings inadmissible
    have steady : (profile.restoreExtensionBundle P Z archivePath downloads unique).run.Logs
        FileCall.exec (FileCall.Allowed False) w journal outcome t :=
      allowed_of_noUndo run (noUndo_of_inadmissible run brings inadmissible) False.elim
    have exits := steady.post (restoreExtensionBundle_attempts restorable.settled False.elim)
    cases outcome with
    | ok result =>
        obtain ⟨entries', brings', admissible, -⟩ := exits
        cases brings.eq brings'
        exact absurd admissible inadmissible
    | error e =>
        refine ⟨⟨e, rfl⟩, fun q clear => ?_⟩
        rcases exits with ⟨untouched, -⟩ | ⟨entries', brings', admissible, -⟩
        · exact untouched.near restorable.toSituated (fun name covered => clear name (none covered))
            (.inr (List.prefix_append _ q))
        · cases brings.eq brings'
          exact absurd admissible inadmissible

theorem look_put_ne_link {x : FileTree Plaintext}
    (plain : ∀ q target, t.look q ≠ some (.link target))
    (part : ∀ q target, x.look q ≠ some (.link target)) (p : Path) :
    ∀ q target, (t.put p x).look q ≠ some (.link target) := by
  induction p generalizing t with
  | nil => exact part
  | cons name rest ih =>
      intro q target
      have inner := @ih (t.child name) fun q => plain (name :: q)
      by_cases directory : t.kind = some .dir
      · cases q with
        | nil => exact fun link => plain [] target ((kind_setChild name _ t.slot).symm.trans link)
        | cons other q =>
            have entry : ((t.put (name :: rest) x).child other) =
                if other = name then (t.child name).put rest x else t.child other := by
              refine ext_slot ((child_setChild name _ directory other).trans ?_)
              split_ifs <;> rfl
            rw [look, FileTree.get, entry]
            split_ifs
            · exact inner q target
            · exact plain (other :: q) target
      · have same : t.put (name :: rest) x = t := ext_slot (setChild_of_not_dir directory)
        rw [same]
        exact plain q target

theorem look_folder_ne_link (q : Path) (target : Target) :
    (folder : FileTree Plaintext).look q ≠ some (.link target) := by
  cases q with
  | nil => simp [look]
  | cons name rest =>
      rw [look, FileTree.get, child_folder, get_empty]
      simp

theorem look_file_ne_link (content : Plaintext) (q : Path) (target : Target) :
    (file content).look q ≠ some (.link target) := by
  cases q with
  | nil => simp [look]
  | cons name rest =>
      rw [look, get_of_not_dir (by simp) (List.cons_ne_nil _ _)]
      simp

section
open Reference (primitives)

/-- A profile whose preferences are a directory, beside an archive. -/
def directoryPreferences : FileTree Plaintext :=
  [(["Default"], folder), (["Default", "Preferences"], folder),
    (["Default", "Preferences", "notes"], file (.text "kept")),
    (["a.zip"], file (.text "archive"))].foldl (fun t (p, x) => t.put p x) folder

theorem directoryPreferences_plain (q : Path) (target : Target) :
    directoryPreferences.look q ≠ some (.link target) := by
  have folders := look_put_ne_link (look_put_ne_link look_folder_ne_link look_folder_ne_link
    ["Default"]) look_folder_ne_link ["Default", "Preferences"]
  have notes := look_put_ne_link folders (look_file_ne_link (.text "kept"))
    ["Default", "Preferences", "notes"]
  exact look_put_ne_link notes (look_file_ne_link (.text "archive")) ["a.zip"] q target

/-- No question is refused. -/
def sees (call : FileCall Plaintext) (fate : Fate Plaintext) : Bool :=
  match call.op with
  | .test _ => (fate matches .proceeds)
  | _ => true

theorem sees_sound {call : FileCall Plaintext} {fate : Fate Plaintext} {w : FileTree Plaintext}
    (checked : sees call fate = true) : FileCall.Sighted call fate w := by
  intro question asked
  simp only [sees, asked] at checked
  split at checked
  · rfl
  · cases checked

/-- A restore that succeeds, though the removal of its stage is refused half way. -/
theorem restore_extension_bundle_frame_proceeds : ∃ journal result t,
    (sampleProfile.restoreExtensionBundle primitives (zipOf bareArchive) ["a.zip"] ["Downloads"]
      "1").run.Logs FileCall.exec FileCall.Sighted twoDirectories journal (.ok result) t ∧
    t.isDir ["Default", ".helium-sync-extension-stage-1"] ∧
    ∃ entries, Brings primitives (zipOf bareArchive) ["a.zip"] twoDirectories entries ∧
      OnlyExtensionsChanged primitives (zipOf bareArchive) ["Default"]
        (Leftover ["Default"] twoDirectories journal) entries twoDirectories t := by
  have evaluated : ((sampleProfile.restoreExtensionBundle primitives (zipOf bareArchive) ["a.zip"]
      ["Downloads"] "1").run.record FileCall.exec sees (prepared 11 ++ List.replicate 25 .proceeds ++
        [.failsPartway [["profile"]] .directoryNotEmpty]) twoDirectories).map (fun run =>
      (run.2.1.isOk, run.2.2.look ["Default", ".helium-sync-extension-stage-1"])) =
      some (true, some .dir) := by
    decide +kernel
  obtain ⟨⟨journal, outcome, t⟩, ran, same⟩ := Option.map_eq_some_iff.mp evaluated
  obtain ⟨isOk, left⟩ := Prod.mk.inj same
  match outcome with
  | .error _ => cases isOk
  | .ok result =>
      have run : (sampleProfile.restoreExtensionBundle primitives (zipOf bareArchive) ["a.zip"]
          ["Downloads"] "1").run.Logs FileCall.exec FileCall.Sighted twoDirectories journal
          (.ok result) t := Prog.logs_of_record sees_sound ran
      exact ⟨journal, result, t, run, left,
        (restore_extension_bundle_frame twoDirectories_restorable).1 journal result t run⟩

/-- A directory in the place of a preference file is replaced, with the files in it. -/
theorem restore_extension_bundle_replaces_directory : ∃ journal outcome t,
    (sampleProfile.restoreExtensionBundle primitives (zipOf bareArchive) ["a.zip"] ["Downloads"]
      "1").run.Logs FileCall.exec (fun _ _ _ => True) directoryPreferences journal outcome t ∧
    outcome.isOk = true ∧ (∀ q target, directoryPreferences.look q ≠ some (.link target)) ∧
    ¬ IsExtensionData ["Preferences", "notes"] ∧
    directoryPreferences.look ["Default", "Preferences", "notes"] = some (.file (.text "kept")) ∧
    t.look ["Default", "Preferences", "notes"] = none := by
  have evaluated : ((sampleProfile.restoreExtensionBundle primitives (zipOf bareArchive) ["a.zip"]
      ["Downloads"] "1").run.record FileCall.exec (fun _ _ => true)
        (prepared 13 ++ List.replicate 26 .proceeds) directoryPreferences).map (fun run =>
      (run.2.1.isOk, run.2.2.look ["Default", "Preferences", "notes"])) = some (true, none) := by
    decide +kernel
  obtain ⟨⟨journal, outcome, t⟩, ran, same⟩ := Option.map_eq_some_iff.mp evaluated
  obtain ⟨isOk, gone⟩ := Prod.mk.inj same
  refine ⟨journal, outcome, t, Prog.logs_of_record (fun _ => trivial) ran, isOk,
    directoryPreferences_plain, ?_, by decide +kernel, gone⟩
  rintro (⟨name, listed, before⟩ | ⟨name, -, before⟩)
  · rw [(List.cons_prefix_cons.mp before).1] at listed
    exact absurd listed (by decide +kernel)
  · exact absurd (List.cons_prefix_cons.mp before).1 (by decide +kernel)

end
end LocatedProfile
end HeliumSync
