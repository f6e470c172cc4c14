import HeliumSync.Rollback

/-! What a restore unpacks beside the live data: the payload of the archive, entry by entry, and the
preference files that it puts together. -/
namespace HeliumSync.LocatedProfile
open Files FileTree
open Interaction (Action)
open Interaction.Action (attempts_bind attempts_pure attempts_throw attempts_mapErr attempts_outcome
  attempts_ofExcept)

variable {C : Type} {P : Primitives C} {Z : ZipReader} {home : Path} {stage : String}
  {w t t' : FileTree Plaintext} {entries : List ArchiveEntry} {journal : List (FileEntry Plaintext)}
  {sighted : Prop}

/-- The payload that an archive brings. -/
def readPayloadEntry (Z : ZipReader) (entry : ArchiveEntry) : Option PayloadEntry :=
  (Z.enclosedName entry.name).bind fun enclosed => (stripPayload enclosed).map fun relative =>
    (relative, if Z.isDir entry.name then none else some entry.content)

def payloadEntries (Z : ZipReader) (entries : List ArchiveEntry) : List PayloadEntry :=
  entries.filterMap (readPayloadEntry Z)

/-- A path at an extension directory or in `IndexedDB`. -/
def Inside (q : Path) : Prop := ∃ first ∈ "IndexedDB" :: extensionDirectories, ∃ rest, q = first :: rest

theorem inside_of_valid {p : Path} (valid : validateExtensionRelativePath p = .ok ()) :
    Inside p ∧ ∃ r, IsTarget r ∧ r <+: p := by
  match p with
  | [] => cases valid
  | first :: rest =>
      rw [validateExtensionRelativePath] at valid
      split_ifs at valid with listed origin
      · exact ⟨⟨first, List.mem_cons_of_mem _ listed, rest, rfl⟩, [first],
          .inl ⟨first, List.mem_append_left _ listed, rfl⟩, ⟨rest, rfl⟩⟩
      · obtain ⟨rfl, named⟩ := origin
        refine ⟨⟨"IndexedDB", List.mem_cons_self, rest, rfl⟩, ?_⟩
        match rest with
        | [] => exact absurd named (by decide +kernel)
        | name :: rest => exact ⟨["IndexedDB", name], .inr ⟨name, named, rfl⟩, ⟨rest, rfl⟩⟩

/-- Only the temporary folder changed. -/
structure Aside (home : Path) (stage : String) (w t : FileTree Plaintext) : Prop where
  folder : t.isDir (home ++ [stage])
  outside : ∀ q, ¬ home ++ [stage] <+: q → t.look q = w.look q
  plain : ∀ q target, home ++ [stage] <+: q → t.look q ≠ some (.link target)

namespace Aside
variable {p : Path}

theorem linkless (aside : Aside home stage w t) (linkless : w.Linkless home)
    (inside : home ++ [stage] <+: p) : t.Linkless p := by
  intro q before target link
  by_cases within : home ++ [stage] <+: q
  · exact aside.plain q target within link
  · refine linkless q ?_ target ((aside.outside q within).symm.trans link)
    rcases List.prefix_or_prefix_of_prefix before inside with above | below
    · rcases List.prefix_concat_iff.mp above with rfl | above
      · exact absurd List.prefix_rfl within
      · exact above
    · exact absurd below within

theorem paved (aside : Aside home stage w t) (inside : home ++ [stage] <+: p)
    (paved : Paved p t t') : Aside home stage w t' := by
  have folder : t'.isDir (home ++ [stage]) := by
    rcases paved (home ++ [stage]) with same | ⟨absent, _, _⟩
    · exact same.trans aside.folder
    · cases absent.symm.trans aside.folder
  refine ⟨folder, fun q apart => ?_, fun q target within link => ?_⟩
  · rcases paved q with same | ⟨absent, _, before⟩
    · exact same.trans (aside.outside q apart)
    · rcases List.prefix_or_prefix_of_prefix before inside with above | below
      · refine absurd (look_of_before above absent) fun nothing => ?_
        cases nothing.symm.trans aside.folder
      · exact absurd below apart
  · rcases paved q with same | ⟨_, made, _⟩
    · exact aside.plain q target within (same.symm.trans link)
    · cases made.symm.trans link

theorem put {d : Path} {name : String} {content : Plaintext} (aside : Aside home stage w t)
    (inside : home ++ [stage] <+: d) (parent : t.isDir d) :
    Aside home stage w (t.put (d ++ [name]) (file content)) := by
  refine ⟨?_, fun q apart => ?_, fun q target within link => ?_⟩
  · exact (isDir_put_of_apart _ (not_prefix_concat inside)).mpr aside.folder
  · rw [look_put_of_apart _ fun before =>
      apart ((inside.trans (List.prefix_append d [name])).trans before)]
    exact aside.outside q apart
  · by_cases before : d ++ [name] <+: q
    · obtain ⟨rest, rfl⟩ := before
      rw [List.append_assoc, List.singleton_append, look_put parent] at link
      match rest with
      | [] => cases link
      | next :: rest =>
          rw [look, get_of_not_dir (by nofun) (List.cons_ne_nil _ _)] at link
          cases link
    · rw [look_put_of_apart _ before] at link
      exact aside.plain q target within link

end Aside

/-- The stage holds these entries where extension data lies, and the folders that they are in. -/
structure Unpacked (staged : Path) (payload : List PayloadEntry) (t : FileTree Plaintext) : Prop where
  folder : t.isDir staged
  files : ∀ q, Inside q → ∀ content,
    t.look (staged ++ q) = some (.file content) ↔ (q, some content) ∈ payload
  folders : ∀ q, Inside q → (t.isDir (staged ++ q) ↔
    ∃ p content, (p, content) ∈ payload ∧ q <+: p ∧ (q = p → content = none))

namespace Unpacked
variable {staged p : Path} {payload : List PayloadEntry} {content : Plaintext}

theorem addFolder (unpacked : Unpacked staged payload t) (linkless : t.Linkless (staged ++ p))
    (some' : p ≠ []) (made : t.createDirAll (staged ++ p) = .ok t') :
    Unpacked staged (payload ++ [(p, none)]) t' := by
  have paved := paved_createDirAll linkless.dropLast made
  have folders : ∀ q, q <+: p → t'.isDir (staged ++ q) := by
    intro q before
    obtain ⟨d, name, rfl⟩ := (List.eq_nil_or_concat' p).resolve_left some'
    rw [← List.append_assoc] at linkless made
    exact isDir_createDirAll linkless made (by
      rw [List.append_assoc]
      exact (List.prefix_append_right_inj staged).mpr before)
  have same : ∀ q, ¬ q <+: p → t'.look (staged ++ q) = t.look (staged ++ q) := by
    intro q apart
    rcases paved (staged ++ q) with same | ⟨_, _, before⟩
    · exact same
    · exact absurd ((List.prefix_append_right_inj staged).mp before) apart
  refine ⟨?_, fun q inside content => ?_, fun q inside => ?_⟩
  · rw [← List.append_nil staged]
    exact folders [] List.nil_prefix
  · rw [List.mem_append, List.mem_singleton, Prod.mk.injEq, ← unpacked.files q inside content]
    by_cases before : q <+: p
    · have directory := folders q before
      constructor
      · intro found
        cases directory.symm.trans found
      · rintro (found | ⟨-, nothing⟩)
        · rcases paved (staged ++ q) with same | ⟨absent, _, _⟩
          · cases (same.trans found).symm.trans directory
          · cases absent.symm.trans found
        · cases nothing
    · rw [same q before]
      simp
  · by_cases before : q <+: p
    · exact ⟨fun _ => ⟨p, none, List.mem_append_right _ List.mem_cons_self, before, fun _ => rfl⟩,
        fun _ => folders q before⟩
    · rw [isDir, same q before]
      refine (unpacked.folders q inside).trans ⟨?_, ?_⟩
      · rintro ⟨p', content, member, rest⟩
        exact ⟨p', content, List.mem_append_left _ member, rest⟩
      · rintro ⟨p', content, member, above, whole⟩
        rcases List.mem_append.mp member with member | last
        · exact ⟨p', content, member, above, whole⟩
        · cases List.mem_singleton.mp last
          exact absurd above before

theorem addFile {d : Path} {name : String} {t₁ : FileTree Plaintext}
    (unpacked : Unpacked staged payload t) (paved : Paved (staged ++ d) t t₁)
    (parent : t₁.isDir (staged ++ d)) (absent : t₁.look (staged ++ (d ++ [name])) = none) :
    Unpacked staged (payload ++ [(d ++ [name], some content)])
      (t₁.put (staged ++ (d ++ [name])) (file content)) := by
  have path : staged ++ (d ++ [name]) = staged ++ d ++ [name] := (List.append_assoc ..).symm
  rw [path] at absent ⊢
  have here : (t₁.put (staged ++ d ++ [name]) (file content)).look (staged ++ (d ++ [name])) =
      some (.file content) := by
    rw [path]
    exact look_put parent _ []
  have other : ∀ q, ¬ d ++ [name] <+: q →
      (t₁.put (staged ++ d ++ [name]) (file content)).look (staged ++ q) = t₁.look (staged ++ q) := by
    intro q apart
    refine look_put_of_apart _ fun before => apart ?_
    rw [← path] at before
    exact (List.prefix_append_right_inj staged).mp before
  have below : ∀ q, d ++ [name] <+: q → q ≠ d ++ [name] →
      (t₁.put (staged ++ d ++ [name]) (file content)).look (staged ++ q) = none ∧
        t.look (staged ++ q) = none := by
    rintro q ⟨rest, rfl⟩ some'
    have rest' : rest ≠ [] := fun nothing => some' (by rw [nothing, List.append_nil])
    constructor
    · have split : staged ++ (d ++ [name] ++ rest) = staged ++ d ++ name :: rest := by simp
      rw [split, look_put parent, look, get_of_not_dir (by nofun) rest']
      rfl
    · by_contra found
      rcases paved (staged ++ (d ++ [name])) with same | ⟨_, made, _⟩
      · refine found (look_of_before (p := staged ++ (d ++ [name])) ?_ ?_)
        · exact (List.prefix_append_right_inj staged).mpr (List.prefix_append _ rest)
        · rw [← same, path, absent]
      · rw [path] at made
        cases absent.symm.trans made
  have old : t.look (staged ++ (d ++ [name])) = none := by
    rcases paved (staged ++ (d ++ [name])) with same | ⟨_, made, _⟩
    · rw [← same, path, absent]
    · rw [path] at made
      cases absent.symm.trans made
  have kept : ∀ q, ¬ q <+: d → t₁.look (staged ++ q) = t.look (staged ++ q) := by
    intro q apart
    rcases paved (staged ++ q) with same | ⟨_, _, before⟩
    · exact same
    · exact absurd ((List.prefix_append_right_inj staged).mp before) apart
  have above : ∀ q, q <+: d → t₁.isDir (staged ++ q) := by
    intro q before
    by_cases same : q = d
    · exact same ▸ parent
    · refine isDir_of_before (q := staged ++ d) ((List.prefix_append_right_inj staged).mpr before)
        (fun h => same (List.append_cancel_left h)) fun nothing => ?_
      cases nothing.symm.trans parent
  refine ⟨?_, fun q inside c => ?_, fun q inside => ?_⟩
  · refine (isDir_put_of_apart _ ?_).mpr ?_
    · exact fun before => absurd before.length_le (by simp)
    · have top := above [] List.nil_prefix
      rwa [List.append_nil] at top
  · rw [List.mem_append, List.mem_singleton, Prod.mk.injEq, ← unpacked.files q inside c]
    by_cases same : q = d ++ [name]
    · subst same
      rw [here, old]
      simp [eq_comm]
    · by_cases before : d ++ [name] <+: q
      · obtain ⟨nothing, nothing'⟩ := below q before same
        rw [nothing, nothing']
        simp [same]
      · rw [other q before]
        by_cases way : q <+: d
        · have directory := above q way
          rw [directory]
          have was : t.look (staged ++ q) ≠ some (.file c) := by
            intro found
            rcases paved (staged ++ q) with same | ⟨absent', _, _⟩
            · cases (same.trans found).symm.trans directory
            · cases absent'.symm.trans found
          simp [was, same]
        · rw [kept q way]
          simp [same]
  · have shown : (∃ p c, (p, c) ∈ payload ++ [(d ++ [name], some content)] ∧ q <+: p ∧
        (q = p → c = none)) ↔ t.isDir (staged ++ q) ∨ (q <+: d ++ [name] ∧ q ≠ d ++ [name]) := by
      rw [unpacked.folders q inside]
      constructor
      · rintro ⟨p, c, member, before, whole⟩
        rcases List.mem_append.mp member with member | last
        · exact .inl ⟨p, c, member, before, whole⟩
        · cases List.mem_singleton.mp last
          exact .inr ⟨before, fun same => by cases whole same⟩
      · rintro (⟨p, c, member, rest⟩ | ⟨before, other⟩)
        · exact ⟨p, c, List.mem_append_left _ member, rest⟩
        · exact ⟨_, _, List.mem_append_right _ List.mem_cons_self, before, fun same =>
            absurd same other⟩
    rw [shown]
    by_cases same : q = d ++ [name]
    · subst same
      rw [isDir, here, isDir, old]
      simp
    · by_cases before : d ++ [name] <+: q
      · obtain ⟨nothing, nothing'⟩ := below q before same
        rw [isDir, isDir, nothing, nothing']
        simp only [reduceCtorEq, false_or, false_iff, not_and, not_not]
        exact fun after => before.eq_of_length (le_antisymm before.length_le after.length_le) |>.symm
      · rw [isDir, other q before, ← isDir]
        by_cases way : q <+: d
        · exact ⟨fun _ => .inr ⟨way.trans (List.prefix_append d [name]), same⟩, fun _ => above q way⟩
        · rw [isDir, kept q way, ← isDir]
          refine (or_iff_left ?_).symm
          rintro ⟨after, -⟩
          rcases List.prefix_concat_iff.mp after with whole | within
          · exact same whole
          · exact way within

end Unpacked

/-- Nothing is staged beside extension data. -/
def Bare (staged : Path) (t : FileTree Plaintext) : Prop :=
  ∀ name, ¬ Inside [name] → t.look (staged ++ [name]) = none

section
variable {staged p : Path} {done : List PayloadEntry}

theorem not_prefix_inside {name : String} (inside : Inside p) (outside : ¬ Inside [name]) :
    ¬ [name] <+: p := by
  intro before
  obtain ⟨first, listed, rest, rfl⟩ := inside
  obtain ⟨rfl, -⟩ := List.cons_prefix_cons.mp before
  exact outside ⟨name, listed, [], rfl⟩

theorem Bare.paved (bare : Bare staged t) (outside : ∀ name, ¬ Inside [name] → ¬ [name] <+: p)
    (paved : Paved (staged ++ p) t t') : Bare staged t' := by
  intro name other
  rcases paved (staged ++ [name]) with same | ⟨_, _, before⟩
  · exact same.trans (bare name other)
  · exact absurd ((List.prefix_append_right_inj staged).mp before) (outside name other)

theorem Bare.put (bare : Bare staged t) (inside : Inside p) (x : FileTree Plaintext) :
    Bare staged (t.put (staged ++ p) x) := by
  intro name other
  rw [look_put_of_apart x fun before => ?_]
  · exact bare name other
  · have before := (List.prefix_append_right_inj staged).mp before
    obtain ⟨first, listed, rest, rfl⟩ := inside
    obtain ⟨rfl, -⟩ := List.cons_prefix_cons.mp before
    exact other ⟨first, listed, [], rfl⟩

theorem extractFolder_attempts (inside' : Inside p) (linkless : w.Linkless home)
    (inside : home ++ [stage] <+: staged) (aside : Aside home stage w t) (bare : Bare staged t)
    (unpacked : Unpacked staged done t) :
    (extractFolder (staged ++ p)).Attempts (working sighted)
      (fun _ _ t' => Aside home stage w t' ∧ Bare staged t' ∧
        Unpacked staged (done ++ [(p, none)]) t')
      (fun _ _ t' => Aside home stage w t') journal t := by
  have some' : p ≠ [] := by
    obtain ⟨first, -, rest, rfl⟩ := inside'
    exact List.cons_ne_nil first rest
  have within := inside.trans (List.prefix_append staged p)
  have direct := aside.linkless linkless within
  refine attempts_mapErr.mpr (attempts_change (fun t' made => ?_) fun e t' left => ?_)
  · have paved := paved_createDirAll direct.dropLast made
    exact ⟨aside.paved within paved, bare.paved (fun _ => not_prefix_inside inside') paved,
      unpacked.addFolder direct some' made⟩
  · exact aside.paved within (Files.Change.paved_of_createDirAll direct.dropLast (.inr left))

theorem extractFile_attempts {content : Plaintext} (inside' : Inside p) (linkless : w.Linkless home)
    (inside : home ++ [stage] <+: staged) (aside : Aside home stage w t) (bare : Bare staged t)
    (unpacked : Unpacked staged done t) :
    (extractFile (staged ++ p) content).Attempts (working sighted)
      (fun _ _ t' => Aside home stage w t' ∧ Bare staged t' ∧
        Unpacked staged (done ++ [(p, some content)]) t')
      (fun _ _ t' => Aside home stage w t') journal t := by
  have some' : p ≠ [] := by
    obtain ⟨first, -, rest, rfl⟩ := inside'
    exact List.cons_ne_nil first rest
  obtain ⟨d, name, rfl⟩ := (List.eq_nil_or_concat' p).resolve_left some'
  have beside : ∀ other, ¬ Inside [other] → ¬ [other] <+: d := fun other outside before =>
    not_prefix_inside inside' outside (before.trans (List.prefix_append d [name]))
  have split : staged ++ (d ++ [name]) = staged ++ d ++ [name] := (List.append_assoc ..).symm
  have folder : (staged ++ (d ++ [name])).dropLast = staged ++ d := by
    rw [split, List.dropLast_concat]
  have within := inside.trans (List.prefix_append staged d)
  have direct := aside.linkless linkless within
  rw [extractFile, folder]
  refine attempts_bind.mpr (attempts_mapErr.mpr (attempts_change (fun t₁ made => ?_)
    fun e t₁ left => ?_))
  swap
  · exact aside.paved within (Files.Change.paved_of_createDirAll direct.dropLast (.inr left))
  have paved := paved_createDirAll direct.dropLast made
  have aside := aside.paved within paved
  have bare := bare.paved beside paved
  refine attempts_bind.mpr (attempts_mapErr.mpr (attempts_change (fun t₂ created => ?_)
    fun e t₂ left => ?_))
  swap
  · cases left.elim (·.eq trivial) id
    exact aside
  obtain ⟨parent, absent, rfl⟩ :=
    createNew_ok (aside.linkless linkless within) (split ▸ created)
  have again : ∀ part t₃, (t₁.put (staged ++ d ++ [name]) (file default)).overwrite
      (staged ++ (d ++ [name])) part = .ok t₃ →
      t₃ = (t₁.put (staged ++ d ++ [name]) (file default)).put (staged ++ d ++ [name])
        (file part) := by
    intro part t₃ written
    rw [split] at written
    exact (overwrite_ok ((aside.put within parent).linkless linkless
      (within.trans (List.prefix_append _ _))) written).2
  have parent' : (t₁.put (staged ++ d ++ [name]) (file default)).isDir (staged ++ d) :=
    (isDir_put_of_apart _ (not_prefix_concat List.prefix_rfl)).mpr parent
  refine attempts_mapErr.mpr (attempts_change (fun t₃ written => ?_) fun e t₃ left => ?_)
  · cases again content t₃ written
    refine ⟨(aside.put within parent).put within parent', ?_, ?_⟩
    · rw [put_put parent, ← split]
      exact bare.put inside' _
    · rw [put_put parent, ← split]
      exact unpacked.addFile paved parent (split ▸ absent)
  · rcases left.elim Files.Change.MayLeave.writeAll .inl with rfl | ⟨part, written⟩
    · exact aside.put within parent
    · cases again part t₃ written
      exact (aside.put within parent).put within parent'

/-- One entry: the stage gains what it brings, or the restore fails with the stage alone touched. -/
theorem extractEntry_attempts {entry : ArchiveEntry} (linkless : w.Linkless home)
    (inside : home ++ [stage] <+: staged) (aside : Aside home stage w t) (bare : Bare staged t)
    (unpacked : Unpacked staged done t) :
    (extractEntry Z staged entry).Attempts (working sighted)
      (fun _ _ t' => Aside home stage w t' ∧ Bare staged t' ∧
        Unpacked staged (done ++ (readPayloadEntry Z entry).toList) t' ∧
        (∀ enclosed, Z.enclosedName entry.name = some enclosed →
          ∀ relative, stripPayload enclosed = some relative →
            validateExtensionRelativePath relative = .ok ()) ∧ Z.enclosedName entry.name ≠ none)
      (fun _ _ t' => Aside home stage w t') journal t := by
  rw [extractEntry, readPayloadEntry]
  cases named : Z.enclosedName entry.name with
  | none => exact attempts_throw.mpr aside
  | some enclosed =>
      simp only [Option.bind_some]
      cases stripped : stripPayload enclosed with
      | none =>
          refine attempts_pure.mpr ⟨aside, bare, ?_, ?_, by simp⟩
          · simpa using unpacked
          · rintro _ same relative found
            cases same
            cases stripped.symm.trans found
      | some relative =>
          refine attempts_bind.mpr (attempts_ofExcept.mpr ⟨?_, fun _ _ => aside⟩)
          rintro ⟨⟩ valid
          have inside' := (inside_of_valid valid).1
          have checked : ∀ enclosed', some enclosed = some enclosed' → ∀ relative,
              stripPayload enclosed' = some relative →
                validateExtensionRelativePath relative = .ok () := by
            rintro _ same relative found
            cases same
            cases stripped.symm.trans found
            exact valid
          simp only [Option.map_some, Option.toList_some]
          split_ifs
          · exact (extractFolder_attempts inside' linkless inside aside bare unpacked).mono
              (fun _ _ _ ⟨aside, bare, unpacked⟩ => ⟨aside, bare, unpacked, checked, by simp⟩)
              fun _ _ _ => id
          · exact (extractFile_attempts inside' linkless inside aside bare unpacked).mono
              (fun _ _ _ ⟨aside, bare, unpacked⟩ => ⟨aside, bare, unpacked, checked, by simp⟩)
              fun _ _ _ => id

/-- Every entry of an archive that is extracted has a safe name and extension data only. -/
def Admissible (Z : ZipReader) (entries : List ArchiveEntry) : Prop :=
  ∀ entry ∈ entries, Z.enclosedName entry.name ≠ none ∧
    ∀ enclosed, Z.enclosedName entry.name = some enclosed → ∀ relative,
      stripPayload enclosed = some relative → validateExtensionRelativePath relative = .ok ()

theorem extractExtensionPayload_attempts (linkless : w.Linkless home)
    (inside : home ++ [stage] <+: staged) (aside : Aside home stage w t) (bare : Bare staged t)
    (unpacked : Unpacked staged done t) :
    (extractExtensionPayload Z staged entries).Attempts (working sighted)
      (fun _ _ t' => Aside home stage w t' ∧ Bare staged t' ∧
        Unpacked staged (done ++ payloadEntries Z entries) t' ∧ Admissible Z entries)
      (fun _ _ t' => Aside home stage w t') journal t := by
  induction entries generalizing done t journal with
  | nil => exact ⟨aside, bare, by simpa [payloadEntries] using unpacked, nofun⟩
  | cons entry entries ih =>
      refine attempts_bind.mpr ((extractEntry_attempts linkless inside aside bare unpacked).mono ?_
        fun _ _ _ => id)
      rintro _ journal t₁ ⟨aside, bare, unpacked, checked, named⟩
      refine (ih aside bare unpacked).mono ?_ fun _ _ _ => id
      rintro _ journal t₂ ⟨aside, bare, unpacked, later⟩
      refine ⟨aside, bare, ?_, fun entry' member => ?_⟩
      · have split : payloadEntries Z (entry :: entries) =
            (readPayloadEntry Z entry).toList ++ payloadEntries Z entries := by
          rw [payloadEntries, List.filterMap_cons]
          cases readPayloadEntry Z entry <;> rfl
        rw [split, ← List.append_assoc]
        exact unpacked
      · rcases List.mem_cons.mp member with rfl | member
        · exact ⟨named, checked⟩
        · exact later entry' member

/-- The preferences that a restore starts from. -/
def BasePreferences (P : Primitives C) (slot : Option (Kind Plaintext)) (base : Json) : Prop :=
  match slot with
  | some (.file content) => (P.parseJson content).map Json.toValue = .ok base
  | _ => base = .obj []

/-- What a restore puts for a preference file in place of what is there. -/
def Renewed (P : Primitives C) (entries : List ArchiveEntry) (fileName : String)
    (old new : Option (Kind Plaintext)) : Prop :=
  ∃ extensions, archivedSection P entries fileName = .ok extensions ∧
    ((old = none ∧ extensions = .null ∧ new = none) ∨ ∃ base live merged,
      ¬ (old = none ∧ extensions = .null) ∧ BasePreferences P old base ∧
      mergePreferences live extensions base = .ok merged ∧ new = some (.file (.json merged)))

theorem livePreferences_attempts {live : Path} (below : live ≠ []) :
    (livePreferences P live).Attempts (working sighted)
      (fun base _ t' => t = t' ∧ (sighted → t.Linkless live → BasePreferences P (t.look live) base))
      (fun _ _ t' => t = t') journal t := by
  refine attempts_bind.mpr (attempts_test fun answer _ sure => ?_)
  cases answer with
  | true =>
      refine attempts_bind.mpr (attempts_mapErr.mpr (attempts_readFile (fun content read => ?_)
        fun e => rfl))
      refine attempts_ofExcept.mpr ⟨fun base parsed => ⟨rfl, fun asked direct => ?_⟩, fun _ _ => rfl⟩
      have yes := sure (.inr asked)
      have stat := stat_of_linkless direct below
      rw [FileTree.read, stat] at read
      rw [Test.holds, stat] at yes
      rcases kind : t.look live with _ | content' | target | _
      · simp only [kind] at yes
        cases yes
      · simp only [kind] at read
        cases read
        cases parse : (P.parseJson content).map Json.toValue with
        | ok base' =>
            rw [parse] at parsed
            cases parsed
            exact parse
        | error e =>
            rw [parse] at parsed
            cases parsed
      · simp only [kind] at yes
        cases yes
      · simp only [kind] at yes
        cases yes
  | false =>
      refine ⟨rfl, fun asked direct => ?_⟩
      have no := sure (.inr asked)
      rw [Test.holds, stat_of_linkless direct below] at no
      rcases kind : t.look live with _ | content | target | _
      · exact rfl
      · simp only [kind] at no
        cases no
      · exact rfl
      · exact rfl

theorem stagePreferenceFile_attempts {fileName : String} (linkless : w.Linkless home)
    (inside : home ++ [stage] <+: staged) (other : fileName ≠ stage)
    (plain : sighted → ∀ target, w.look (home ++ [fileName]) ≠ some (.link target))
    (aside : Aside home stage w t) (folder : t.isDir staged)
    (bare : t.look (staged ++ [fileName]) = none) :
    (stagePreferenceFile P home staged entries fileName).Attempts (working sighted)
      (fun _ _ t' => Aside home stage w t' ∧ t'.isDir staged ∧
        (sighted → Renewed P entries fileName (w.look (home ++ [fileName]))
          (t'.look (staged ++ [fileName]))) ∧
        ∀ q, ¬ staged ++ [fileName] <+: q → t'.look q = t.look q)
      (fun _ _ t' => Aside home stage w t') journal t := by
  have beside : ∀ q, q <+: home ++ [fileName] → t.look q = w.look q := by
    refine fun q before => aside.outside q fun within => other ?_
    exact (eq_of_prefix_concat (within.trans before)).symm
  have live := beside _ List.prefix_rfl
  have direct (asked : sighted) : t.Linkless (home ++ [fileName]) := fun q before target link =>
    linkless.concat (plain asked) q before target ((beside q before).symm.trans link)
  refine attempts_bind.mpr (attempts_ofExcept.mpr ⟨fun extensions archived => ?_, fun _ _ => aside⟩)
  refine attempts_bind.mpr (attempts_test fun answer _ sure => ?_)
  have seen (asked : sighted) : answer = (w.look (home ++ [fileName])).isSome := by
    rw [sure (.inr asked), Test.holds, stat_of_linkless (direct asked) (by simp), live]
  split_ifs with skip
  · rw [Bool.and_eq_true, Bool.not_eq_true', decide_eq_true_eq] at skip
    obtain ⟨absent, rfl⟩ := skip
    refine attempts_pure.mpr ⟨aside, folder, fun asked => ⟨.null, archived, .inl ⟨?_, rfl, bare⟩⟩,
      fun _ _ => rfl⟩
    rwa [seen asked, Option.isSome_eq_false_iff, Option.isNone_iff_eq_none] at absent
  have needed (asked : sighted) : ¬ (w.look (home ++ [fileName]) = none ∧ extensions = .null) := by
    rintro ⟨absent, rfl⟩
    refine skip ?_
    rw [seen asked, absent]
    rfl
  refine attempts_bind.mpr ((livePreferences_attempts (by simp)).mono ?_ ?_)
  swap
  · rintro _ _ _ rfl
    exact aside
  rintro base journal _ ⟨rfl, read⟩
  refine attempts_bind.mpr (attempts_ofExcept.mpr ⟨fun merged joined => ?_, fun _ _ => aside⟩)
  have there := aside.linkless linkless (inside.trans (List.prefix_append staged [fileName]))
  refine attempts_mapErr.mpr (attempts_change (fun t' written => ?_) fun e t' left => ?_)
  · obtain ⟨parent, -, rfl⟩ := write_ok there written
    refine ⟨aside.put inside parent, ?_, fun asked => ⟨extensions, archived, .inr ⟨base,
      home ++ [fileName], merged, needed asked, live ▸ read asked (direct asked), joined,
      look_put parent _ []⟩⟩, fun q apart => look_put_of_apart _ apart⟩
    exact (isDir_put_of_apart _ (not_prefix_concat List.prefix_rfl)).mpr folder
  · rcases left.elim Files.Change.MayLeave.write .inl with rfl | ⟨part, written⟩
    · exact aside
    · obtain ⟨parent, -, rfl⟩ := write_ok there written
      exact aside.put inside parent

theorem stagePreferenceFiles_attempts {fileNames : List String} (linkless : w.Linkless home)
    (inside : home ++ [stage] <+: staged)
    (others : ∀ fileName ∈ fileNames, fileName ≠ stage) (distinct : fileNames.Nodup)
    (plain : sighted → ∀ fileName ∈ fileNames, ∀ target,
      w.look (home ++ [fileName]) ≠ some (.link target))
    (aside : Aside home stage w t) (folder : t.isDir staged)
    (bare : ∀ fileName ∈ fileNames, t.look (staged ++ [fileName]) = none) :
    (stagePreferenceFiles P home staged entries fileNames).Attempts (working sighted)
      (fun _ _ t' => Aside home stage w t' ∧ t'.isDir staged ∧
        (sighted → ∀ fileName ∈ fileNames, Renewed P entries fileName
          (w.look (home ++ [fileName])) (t'.look (staged ++ [fileName]))) ∧
        ∀ q, (∀ fileName ∈ fileNames, ¬ staged ++ [fileName] <+: q) → t'.look q = t.look q)
      (fun _ _ t' => Aside home stage w t') journal t := by
  induction fileNames generalizing t journal with
  | nil => exact ⟨aside, folder, by simp, fun _ _ => rfl⟩
  | cons fileName fileNames ih =>
      obtain ⟨fresh, distinct⟩ := List.nodup_cons.mp distinct
      refine attempts_bind.mpr ((stagePreferenceFile_attempts linkless inside
        (others _ List.mem_cons_self) (fun asked => plain asked _ List.mem_cons_self) aside folder
        (bare _ List.mem_cons_self)).mono ?_ fun _ _ _ => id)
      rintro _ journal t₁ ⟨aside, folder, renewed, kept⟩
      have apart : ∀ other ∈ fileNames, ¬ staged ++ [fileName] <+: staged ++ [other] :=
        fun other member before => fresh (eq_of_prefix_concat before ▸ member)
      refine (ih (fun _ later => others _ (List.mem_cons_of_mem _ later)) distinct
        (fun asked _ later => plain asked _ (List.mem_cons_of_mem _ later)) aside folder
        fun other later => ?_).mono ?_ fun _ _ _ => id
      · rw [kept _ (apart other later)]
        exact bare _ (List.mem_cons_of_mem _ later)
      · rintro _ journal t₂ ⟨aside, folder, each, kept'⟩
        refine ⟨aside, folder, fun asked other member => ?_, fun q apart' => ?_⟩
        · rcases List.mem_cons.mp member with rfl | later
          · rw [kept' _ fun name later before => ?_]
            · exact renewed asked
            · cases eq_of_prefix_concat before
              exact fresh later
          · exact each asked other later
        · rw [kept' q fun name later => apart' name (List.mem_cons_of_mem _ later),
            kept q (apart' _ List.mem_cons_self)]

end
end HeliumSync.LocatedProfile
