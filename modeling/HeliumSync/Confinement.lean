import HeliumSync.BookmarksSwap
import HeliumSync.Capture

/-! Where the contents of a captured archive come from. -/
namespace HeliumSync.LocatedProfile
open Files FileTree
open Interaction (Action)
open Interaction.Action (attempts_bind attempts_pure attempts_throw attempts_mapErr attempts_outcome
  attempts_ignore attempts_ofExcept)
open Fallible (bind_ok_iff)

variable {C : Type} {P : Primitives C} {Z : ZipFormat} {profile : LocatedProfile}
  {t : FileTree Plaintext} {home destination : Path} {bundle : ExtensionBundle}

/-- All contents come from regular files that no symbolic link leads to. -/
structure Confined (P : Primitives C) (t : FileTree Plaintext) (home : Path)
    (bundle : ExtensionBundle) : Prop where
  payload : ∀ p content, (p, some content) ∈ bundle.payload →
    t.look (home ++ p) = some (.file content)
  sections : ∀ fileName extensions,
    (fileName, extensions) ∈ extensionPreferenceFiles.zip bundle.sections → extensions ≠ .null →
      ∃ content, t.look (home ++ [fileName]) = some (.file content) ∧
        extensionsSection P content = .ok extensions

/-- Where `IndexedDB` or a preference file is a symbolic link, it leads to no extension data. -/
structure LinksIdle (P : Primitives C) (t : FileTree Plaintext) (home : Path) : Prop where
  indexedDb : ∀ target root name q content,
    t.look (home ++ ["IndexedDB"]) = some (.link target) →
      t.resolve (home ++ ["IndexedDB"]) = some root → isExtensionOrigin name = true →
        t.look (root ++ name :: q) ≠ some (.file content)
  preferences : ∀ fileName ∈ extensionPreferenceFiles, ∀ target content extensions,
    t.look (home ++ [fileName]) = some (.link target) →
      t.stat (home ++ [fileName]) = some (.file content) →
        extensionsSection P content = .ok extensions → extensions = .null

theorem readExtensionPreferences_of_plain (linkless : t.Linkless home) {fileName : String}
    {extensions : Json} (plain : ∀ target, t.look (home ++ [fileName]) ≠ some (.link target))
    (found : readExtensionPreferences P t (home ++ [fileName]) = .ok extensions)
    (some' : extensions ≠ .null) : ∃ content, t.look (home ++ [fileName]) = some (.file content) ∧
      extensionsSection P content = .ok extensions := by
  rw [readExtensionPreferences, stat_of_linkless (linkless.concat plain) (by simp)] at found
  match kind : t.look (home ++ [fileName]) with
  | some (.file content) =>
      simp only [kind] at found
      exact ⟨content, rfl, found⟩
  | some .dir | none =>
      simp only [kind] at found
      cases found
      exact absurd rfl some'
  | some (.link target) => exact absurd kind (plain target)

theorem home_resolves (home' : t.isDir home) (linkless : t.Linkless home) :
    t.resolve (home ++ []) = some home := by
  rw [List.append_nil]
  exact resolve_of_linkless linkless fun nothing => by cases nothing.symm.trans home'

/-- What lies in `IndexedDB` is found through it, also when it is a symbolic link. -/
theorem mem_payload_of_origin {name : String} {q r : Path} {content : Plaintext}
    (resolved : t.resolve (home ++ ["IndexedDB"]) = some r) (origin : isExtensionOrigin name = true)
    (found : t.look (r ++ name :: q) = some (.file content)) :
    ("IndexedDB" :: name :: q, some content) ∈ payloadOf t home := by
  have some' : t.look (r ++ name :: q) ≠ none := fun nothing => by cases nothing.symm.trans found
  have directory : t.isDir r := isDir_of_look (List.cons_ne_nil name q) some'
  have listed : t.look (r ++ [name]) ≠ none := fun nothing => some'
    (look_of_before ((List.prefix_append_right_inj r).mpr (List.prefix_append [name] q)) nothing)
  refine List.mem_append_right _ (List.mem_flatMap.mpr ⟨name,
    mem_extensionOrigins.mpr ⟨r, resolved, directory, listed, origin⟩, ?_⟩)
  exact (mem_payloadAt (d := ["IndexedDB"]) resolved directory).mpr ⟨q, rfl, found⟩

/-- What a capture collects lies in the profile, or behind the symbolic link `IndexedDB`. -/
theorem look_of_mem_payload (home' : t.isDir home) (linkless : t.Linkless home) {p : Path}
    {content : Option Plaintext} (member : (p, content) ∈ payloadOf t home) :
    t.look (home ++ p) = some (payloadKind content) ∨
      ∃ target root name q, t.look (home ++ ["IndexedDB"]) = some (.link target) ∧
        t.resolve (home ++ ["IndexedDB"]) = some root ∧ isExtensionOrigin name = true ∧
        t.look (root ++ name :: q) = some (payloadKind content) := by
  rcases List.mem_append.mp member with member | member
  · obtain ⟨directory, -, member⟩ := List.mem_flatMap.mp member
    obtain ⟨q, rfl, found⟩ :=
      (mem_payloadAt (d := []) (home_resolves home' linkless) home').mp member
    exact .inl found
  · obtain ⟨name, listed, member⟩ := List.mem_flatMap.mp member
    obtain ⟨root, resolved, directory, -, origin⟩ := mem_extensionOrigins.mp listed
    obtain ⟨q, rfl, found⟩ := (mem_payloadAt (d := ["IndexedDB"]) resolved directory).mp member
    match kind : t.look (home ++ ["IndexedDB"]) with
    | some (.link target) => exact .inr ⟨target, root, name, q, rfl, resolved, origin, found⟩
    | some .dir | some (.file _) | none =>
        have plain : t.Linkless (home ++ ["IndexedDB"]) := linkless.concat (by rw [kind]; nofun)
        by_cases absent : t.look (home ++ ["IndexedDB"]) = none
        · have lost : t.resolve (home ++ ["IndexedDB"]) = none :=
            follow_absent [] _ plain (by simp) absent
          cases lost.symm.trans resolved
        · cases (resolve_of_linkless plain absent).symm.trans resolved
          rw [List.append_assoc] at found
          exact .inl found

theorem confined_iff_of_gather (home' : t.isDir home) (linkless : t.Linkless home)
    (gathered : gather P t home = .ok bundle) : Confined P t home bundle ↔ LinksIdle P t home := by
  obtain ⟨collected, -, read⟩ := gather_ok gathered
  obtain ⟨each, all⟩ := Fallible.mapM_ok_zip read
  constructor
  · intro confined
    constructor
    · intro target root name q content link resolved origin found
      have member := mem_payload_of_origin resolved origin found
      have there := confined.payload _ _ (collected ▸ member)
      have directory : t.isDir (home ++ ["IndexedDB"]) := by
        refine isDir_of_look (q := name :: q) (List.cons_ne_nil _ _) fun nothing => ?_
        rw [List.append_assoc] at nothing
        cases nothing.symm.trans there
      cases link.symm.trans directory
    · intro fileName listed target content extensions link stat found
      by_contra some'
      obtain ⟨extensions', member⟩ := all fileName listed
      have same := each fileName extensions' member
      simp only [readExtensionPreferences, stat, found] at same
      cases same
      obtain ⟨content', there, -⟩ := confined.sections fileName extensions member some'
      cases link.symm.trans there
  · intro idle
    constructor
    · intro p content member
      rcases look_of_mem_payload home' linkless (collected ▸ member) with here | behind
      · exact here
      · obtain ⟨target, root, name, q, link, resolved, origin, found⟩ := behind
        exact absurd found (idle.indexedDb target root name q content link resolved origin)
    · intro fileName extensions member some'
      have found := each fileName extensions member
      refine readExtensionPreferences_of_plain linkless (fun target link => some' ?_) found some'
      have listed := (List.of_mem_zip member).1
      rw [readExtensionPreferences] at found
      split at found
      · rename_i content stat
        exact idle.preferences fileName listed target content extensions link stat found
      · cases found
        rfl

/-- The tree that a capture walks: the archive is there, still empty. -/
def underCapture (w : FileTree Plaintext) (destination : Path) :
    Except IoError (FileTree Plaintext) := do
  let t ← w.createDirAll destination.dropLast
  t.createNew destination default

/-- A capture that succeeds: the archive holds what was gathered. -/
structure Captured (P : Primitives C) (Z : ZipFormat) (profile : LocatedProfile)
    (destination : Path) (w t' t : FileTree Plaintext) (bundle : ExtensionBundle) : Prop where
  prepared : underCapture w destination = .ok t
  gathered : gather P t profile.path = .ok bundle
  written : t'.read destination =
    .ok (.binary (Z.pack (bundle.entries profile.directoryName)))

theorem createExtensionBundle_attempts {sighted : Prop} (w : FileTree Plaintext) :
    (profile.createExtensionBundle P Z destination).Attempts (working sighted)
      (fun descriptor _ t' => ∃ t bundle, Captured P Z profile destination w t' t bundle ∧
        descriptor = profile.describe P bundle.stats
          (.binary (Z.pack (bundle.entries profile.directoryName))))
      (fun _ _ _ => True) [] w := by
  refine attempts_bind.mpr (attempts_mapErr.mpr (attempts_change (fun t₁ made => ?_)
    fun _ _ _ => trivial))
  refine attempts_bind.mpr (attempts_mapErr.mpr (attempts_change (fun t₂ created => ?_)
    fun _ _ _ => trivial))
  have prepared : underCapture w destination = .ok t₂ := bind_ok_iff.mpr ⟨t₁, made, created⟩
  have giveUp {details : String} {journal : List (FileEntry Plaintext)} {t₃ : FileTree Plaintext}
      {ok : ExtensionBundleDescriptor → List (FileEntry Plaintext) → FileTree Plaintext → Prop} :
      (do (change (.removeFile destination)).ignore
          throw (.archive (display destination) details) :
        FileAction Plaintext ProfileError ExtensionBundleDescriptor).Attempts (working sighted) ok
        (fun _ _ _ => True) journal t₃ :=
    attempts_bind.mpr (attempts_ignore.mpr (attempts_change (fun _ _ => trivial) fun _ _ _ => trivial))
  refine attempts_bind.mpr (attempts_mapErr.mpr (attempts_survey ?_ fun _ => trivial))
  refine attempts_bind.mpr (attempts_outcome.mpr (attempts_bind.mpr (attempts_mapErr.mpr
    (attempts_survey ?_ fun _ => giveUp))))
  refine attempts_bind.mpr (attempts_ofExcept.mpr ⟨fun bundle gathered => ?_, fun _ _ => giveUp⟩)
  refine attempts_bind.mpr (attempts_mapErr.mpr (attempts_change (fun t₃ written => ?_)
    fun _ _ _ => giveUp))
  refine attempts_bind.mpr (attempts_mapErr.mpr (attempts_change (fun t₄ synced => ?_)
    fun _ _ _ => giveUp))
  cases synced
  have held := read_overwrite written
  refine attempts_bind.mpr (attempts_mapErr.mpr (attempts_readFile (fun content found => ?_)
    fun _ => trivial))
  cases held.symm.trans found
  exact ⟨t₂, bundle, ⟨prepared, gathered, held⟩, rfl⟩

theorem underCapture_grown {w : FileTree Plaintext}
    (prepared : underCapture w destination = .ok t) : Grown w t := by
  obtain ⟨t₁, made, created⟩ := bind_ok_iff.mp prepared
  exact (grown_foldlM_ensureDir made).trans (grown_createNew created)

section
variable {journal : List (FileEntry Plaintext)} {descriptor : ExtensionBundleDescriptor}
  {w t' : FileTree Plaintext}

theorem captured_of_run (run : (profile.createExtensionBundle P Z destination).run.Logs FileCall.exec
    FileCall.Steady w journal (.ok descriptor) t') :
    ∃ t bundle, Captured P Z profile destination w t' t bundle ∧
      descriptor = profile.describe P bundle.stats
        (.binary (Z.pack (bundle.entries profile.directoryName))) :=
  (logs_of_steady run).post (Interaction.Prog.ensures_of_attempts
    (q := fun outcome _ t' => ∀ descriptor, outcome = .ok descriptor →
      ∃ t bundle, Captured P Z profile destination w t' t bundle ∧
        descriptor = profile.describe P bundle.stats
          (.binary (Z.pack (bundle.entries profile.directoryName))))
    ((createExtensionBundle_attempts w).mono (fun _ _ _ found _ same => by cases same; exact found)
      fun _ _ _ _ => nofun)) descriptor rfl

/-- A captured archive holds contents of regular files of the profile only, reached without symbolic
links, exactly when the links at `IndexedDB` and at the preference files lead to no extension data. -/
theorem create_extension_bundle_confined (home : w.isDir profile.path)
    (linkless : w.Linkless profile.path)
    (run : (profile.createExtensionBundle P Z destination).run.Logs FileCall.exec FileCall.Steady
      w journal (.ok descriptor) t') :
    ∃ t bundle, Captured P Z profile destination w t' t bundle ∧
      (Confined P t profile.path bundle ↔ LinksIdle P t profile.path) := by
  obtain ⟨t, bundle, captured, -⟩ := captured_of_run run
  have grown := underCapture_grown captured.prepared
  refine ⟨t, bundle, captured, confined_iff_of_gather (grown.isDir home)
    (grown.linkless linkless fun nothing => ?_) captured.gathered⟩
  cases nothing.symm.trans home

end
section
open Reference (primitives)

/-- A profile with an extension, beside a folder of somebody else. -/
def besideOutside (indexedDb : FileTree Plaintext) : FileTree Plaintext :=
  [(["Default"], folder), (["Default", "Extensions"], folder), (["Default", "IndexedDB"], indexedDb),
    (["outside"], folder), (["outside", "chrome-extension_a"], file (.text "secret"))].foldl
    (fun t (p, x) => t.put p x) folder

/-- A link to the folder of somebody else. -/
def toOutside : FileTree Plaintext := symlink ⟨false, [none, some "outside"]⟩

/-- A link to a directory of the profile that holds no origin. -/
def toExtensions : FileTree Plaintext := symlink ⟨false, [some "Extensions"]⟩

def captureRun (indexedDb : FileTree Plaintext) : Option (List (FileEntry Plaintext) ×
    Except ProfileError ExtensionBundleDescriptor × FileTree Plaintext) :=
  (sampleProfile.createExtensionBundle primitives storedZip ["Archives", "a.zip"]).run.record
    FileCall.exec steady (List.replicate 7 .proceeds) (besideOutside indexedDb)

theorem captureRun_logs {indexedDb : FileTree Plaintext}
    (evaluated : (captureRun indexedDb).map (·.2.1.isOk) = some true) :
    ∃ journal descriptor t', (sampleProfile.createExtensionBundle primitives storedZip
      ["Archives", "a.zip"]).run.Logs FileCall.exec FileCall.Steady (besideOutside indexedDb) journal
        (.ok descriptor) t' := by
  obtain ⟨⟨journal, outcome, t'⟩, ran, isOk⟩ := Option.map_eq_some_iff.mp evaluated
  match outcome with
  | .ok descriptor =>
      exact ⟨journal, descriptor, t', Interaction.Prog.logs_of_record steady_sound ran⟩
  | .error _ => cases isOk

theorem linkless_sampleProfile {t : FileTree Plaintext} (root : t.look [] = some .dir)
    (home : t.look ["Default"] = some .dir) : t.Linkless sampleProfile.path := by
  intro q before target link
  rcases List.prefix_cons_iff.mp before with rfl | ⟨rest, rfl, deeper⟩
  · cases root.symm.trans link
  · cases List.prefix_nil.mp deeper
    cases home.symm.trans link

theorem create_extension_bundle_confined_here : ∃ journal descriptor t',
    (sampleProfile.createExtensionBundle primitives storedZip ["Archives", "a.zip"]).run.Logs
      FileCall.exec FileCall.Steady (besideOutside toExtensions) journal (.ok descriptor) t' ∧
    ∃ t bundle, Captured primitives storedZip sampleProfile ["Archives", "a.zip"]
      (besideOutside toExtensions) t' t bundle ∧
      (Confined primitives t sampleProfile.path bundle ↔
        LinksIdle primitives t sampleProfile.path) := by
  obtain ⟨journal, descriptor, t', run⟩ := @captureRun_logs toExtensions (by decide +kernel)
  exact ⟨journal, descriptor, t', run,
    create_extension_bundle_confined rfl (linkless_sampleProfile rfl rfl) run⟩

/-- A link at `IndexedDB` brings the file of somebody else into the archive. -/
theorem create_extension_bundle_leaves_profile : ∃ journal descriptor t',
    (sampleProfile.createExtensionBundle primitives storedZip ["Archives", "a.zip"]).run.Logs
      FileCall.exec FileCall.Steady (besideOutside toOutside) journal (.ok descriptor) t' ∧
    ∃ t bundle, Captured primitives storedZip sampleProfile ["Archives", "a.zip"]
      (besideOutside toOutside) t' t bundle ∧
      (["IndexedDB", "chrome-extension_a"], some (.text "secret")) ∈ bundle.payload ∧
      ¬ Confined primitives t sampleProfile.path bundle := by
  obtain ⟨journal, descriptor, t', run⟩ := @captureRun_logs toOutside (by decide +kernel)
  obtain ⟨t, bundle, captured, -⟩ := captured_of_run run
  have places : ((underCapture (besideOutside toOutside) ["Archives", "a.zip"]).toOption.map
      fun t => (t.look ["Default", "IndexedDB"], t.resolve ["Default", "IndexedDB"],
        t.look ["outside", "chrome-extension_a"])) =
      some (some (.link ⟨false, [none, some "outside"]⟩), some ["outside"],
        some (.file (.text "secret"))) := by decide +kernel
  rw [captured.prepared] at places
  simp only [Except.toOption, Option.map_some, Option.some.injEq, Prod.mk.injEq] at places
  obtain ⟨link, resolved, found⟩ := places
  have member : (["IndexedDB", "chrome-extension_a"], some (.text "secret")) ∈ bundle.payload := by
    rw [(gather_ok captured.gathered).1]
    exact mem_payload_of_origin (r := ["outside"]) resolved (by decide +kernel) found
  refine ⟨journal, descriptor, t', run, t, bundle, captured, member, fun confined => ?_⟩
  have inside : t.look ["Default", "IndexedDB", "chrome-extension_a"] = _ :=
    confined.payload _ _ member
  have directory := isDir_of_look (p := ["Default", "IndexedDB"]) (q := ["chrome-extension_a"])
    (List.cons_ne_nil _ _) fun nothing => by cases nothing.symm.trans inside
  cases link.symm.trans directory

end
end HeliumSync.LocatedProfile
