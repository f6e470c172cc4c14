import HeliumSync.ExtensionRestore

/-! Where extension data lies during a restore, in the profile, in the rollback folder and in the
stage, and what moving it from one to the other does. -/
namespace HeliumSync.LocatedProfile
open Files FileTree

/-- The entries of a profile that a restore replaces. -/
def IsTarget (r : Path) : Prop :=
  (∃ name ∈ extensionDirectories ++ extensionPreferenceFiles, r = [name]) ∨
    ∃ name, isExtensionOrigin name = true ∧ r = ["IndexedDB", name]

/-- The names below which targets lie. -/
def targetHeads : List String :=
  "IndexedDB" :: (extensionDirectories ++ extensionPreferenceFiles)

inductive Area where
  | live
  | previous
  | staged
  deriving DecidableEq

variable {home : Path} {stage rollback : String}

def Area.base (home : Path) (stage rollback : String) : Area → Path
  | live => home
  | previous => home ++ [rollback]
  | staged => home ++ [stage] ++ ["profile"]

/-- The names of the two temporary folders. -/
structure Fresh (stage rollback : String) : Prop where
  stageFree : stage ∉ targetHeads
  rollbackFree : rollback ∉ targetHeads
  other : rollback ≠ stage
  stageOther : isExtensionOrigin stage ≠ true
  rollbackOther : isExtensionOrigin rollback ≠ true

namespace IsTarget
variable {r s : Path}

theorem split (target : IsTarget r) : (r.dropLast = [] ∨ r.dropLast = ["IndexedDB"]) ∧
    ∃ name, r = r.dropLast ++ [name] := by
  rcases target with ⟨name, _, rfl⟩ | ⟨name, _, rfl⟩
  · exact ⟨.inl rfl, name, rfl⟩
  · exact ⟨.inr rfl, name, rfl⟩

theorem head (target : IsTarget r) : ∃ first ∈ targetHeads, ∃ rest, r = first :: rest := by
  rcases target with ⟨name, listed, rfl⟩ | ⟨name, _, rfl⟩
  · exact ⟨name, List.mem_cons_of_mem _ listed, [], rfl⟩
  · exact ⟨"IndexedDB", List.mem_cons_self, [name], rfl⟩

theorem eq_of_before (target : IsTarget r) (target' : IsTarget s) (before : r <+: s) : r = s := by
  rcases target with ⟨a, here, rfl⟩ | ⟨a, _, rfl⟩ <;> rcases target' with ⟨b, _, rfl⟩ | ⟨b, _, rfl⟩
  · rw [(List.cons_prefix_cons.mp before).1]
  · rw [(List.cons_prefix_cons.mp before).1] at here
    exact absurd here (by decide)
  · exact absurd before.length_le (by simp)
  · rw [(List.cons_prefix_cons.mp (List.cons_prefix_cons.mp before).2).1]

end IsTarget

/-- The path of an area from the profile. -/
def Area.root (stage rollback : String) : Area → Path
  | live => []
  | previous => [rollback]
  | staged => [stage, "profile"]

theorem Area.base_append (area : Area) (p : Path) :
    area.base home stage rollback ++ p = home ++ (area.root stage rollback ++ p) := by
  cases area <;> simp [base, root]

theorem head_of_root {a b : Area} {p q : Path} (fresh : Fresh stage rollback)
    (before : a.root stage rollback ++ p <+: b.root stage rollback ++ q)
    (first : ∃ x ∈ targetHeads, ∃ rest, p = x :: rest)
    (first' : ∀ y, q.head? = some y → y ∈ targetHeads) : a = b ∧ p <+: q := by
  obtain ⟨x, listed, rest, rfl⟩ := first
  have heads := fun y (h : q.head? = some y) => first' y h
  cases a <;> cases b <;> simp only [Area.root, List.nil_append, List.cons_append] at before
  case live.live => exact ⟨rfl, before⟩
  case previous.previous => exact ⟨rfl, (List.cons_prefix_cons.mp before).2⟩
  case staged.staged =>
    exact ⟨rfl, (List.cons_prefix_cons.mp (List.cons_prefix_cons.mp before).2).2⟩
  case live.previous => exact absurd ((List.cons_prefix_cons.mp before).1 ▸ listed) fresh.rollbackFree
  case live.staged => exact absurd ((List.cons_prefix_cons.mp before).1 ▸ listed) fresh.stageFree
  case previous.staged => exact absurd (List.cons_prefix_cons.mp before).1 fresh.other
  case staged.previous => exact absurd (List.cons_prefix_cons.mp before).1.symm fresh.other
  case previous.live =>
    match q with
    | [] => exact absurd before.length_le (by simp)
    | y :: q => exact absurd ((List.cons_prefix_cons.mp before).1 ▸ heads y rfl) fresh.rollbackFree
  case staged.live =>
    match q with
    | [] => exact absurd before.length_le (by simp)
    | y :: q => exact absurd ((List.cons_prefix_cons.mp before).1 ▸ heads y rfl) fresh.stageFree

variable {root : Path}

/-- The directory of an area's targets; that of the live `IndexedDB` is where it leads. -/
def Area.folder (home : Path) (stage rollback : String) (root : Path) (area : Area) (q : Path) : Path :=
  if area = .live ∧ q = ["IndexedDB"] then root else area.base home stage rollback ++ q

/-- The place of a target in an area. -/
def Area.slot (home : Path) (stage rollback : String) (root : Path) (area : Area) (r : Path) : Path :=
  area.folder home stage rollback root r.dropLast ++ r.getLast?.toList

theorem Area.slot_eq {area : Area} {r : Path} {name : String} (split : r = r.dropLast ++ [name]) :
    area.slot home stage rollback root r = area.folder home stage rollback root r.dropLast ++ [name] := by
  rw [slot, split, List.getLast?_concat, List.dropLast_concat]
  rfl

theorem Area.folder_nil {area : Area} :
    area.folder home stage rollback root [] = area.base home stage rollback := by
  rw [folder, if_neg (by simp), List.append_nil]

/-- A target lies at its own path, or in the directory that the live `IndexedDB` leads to. -/
theorem Area.slot_cases {a : Area} {r : Path} (target : IsTarget r) :
    (∃ name, isExtensionOrigin name = true ∧ a = .live ∧ r = ["IndexedDB", name] ∧
      a.slot home stage rollback root r = root ++ [name]) ∨
    (a.slot home stage rollback root r = a.base home stage rollback ++ r ∧
      (a = .live → r.dropLast = [])) := by
  rcases target with ⟨name, -, rfl⟩ | ⟨name, origin, rfl⟩
  · exact .inr ⟨congrArg (· ++ [name]) Area.folder_nil, fun _ => rfl⟩
  · by_cases live : a = .live
    · refine .inl ⟨name, origin, live, rfl, ?_⟩
      exact congrArg (· ++ [name]) (if_pos ⟨live, rfl⟩)
    · refine .inr ⟨?_, fun live' => absurd live' live⟩
      refine (congrArg (· ++ [name]) (if_neg fun both => live both.1)).trans ?_
      exact (List.append_assoc _ ["IndexedDB"] [name])

/-- Where the profile's `IndexedDB` leads, away from the replaced entries and the temporary folders. -/
structure Rooted (home : Path) (stage rollback : String) (root : Path) : Prop where
  names : ∀ name ∈ extensionDirectories ++ extensionPreferenceFiles, ¬ home ++ [name] <+: root
  stage : ¬ home ++ [stage] <+: root
  rollback : ¬ home ++ [rollback] <+: root
  above : ∀ name, isExtensionOrigin name = true → ¬ root ++ [name] <+: home

/-- An entry of the profile that is apart from the directory of the origins. -/
structure Rooted.Apart (home root : Path) (first : String) : Prop where
  other : isExtensionOrigin first ≠ true
  outside : ¬ home ++ [first] <+: root

namespace Rooted
variable {first name : String} {rest q : Path}

theorem Apart.not_prefix_folder (apart : Apart home root first) :
    ¬ home ++ first :: rest <+: root := fun inside => apart.outside
  (((List.prefix_append_right_inj home).mpr (List.prefix_append [first] rest)).trans inside)

theorem Apart.not_before (apart : Apart home root first) (origin : isExtensionOrigin name = true) :
    ¬ home ++ first :: rest <+: root ++ [name] := by
  intro before
  have before := ((List.prefix_append_right_inj home).mpr (List.prefix_append [first] rest)).trans before
  rcases List.prefix_concat_iff.mp before with same | inside
  · obtain ⟨-, same⟩ := List.append_inj' same rfl
    cases same
    exact apart.other origin
  · exact apart.outside inside

theorem not_before (rooted : Rooted home stage rollback root) (apart : Apart home root first)
    (origin : isExtensionOrigin name = true) : ¬ root ++ [name] <+: home ++ first :: rest := by
  intro before
  rcases List.prefix_or_prefix_of_prefix before (List.prefix_append home _) with above | below
  · exact rooted.above name origin above
  · obtain ⟨inner, same⟩ := below
    rw [← same, List.prefix_append_right_inj] at before
    match inner with
    | [] =>
        rw [List.append_nil] at same
        exact rooted.above name origin (same ▸ List.prefix_rfl)
    | next :: inner =>
        obtain ⟨rfl, -⟩ := List.cons_prefix_cons.mp before
        have whole : home ++ next :: inner <+: root ++ [name] := by rw [same]
        exact apart.not_before origin whole

end Rooted

/-- The tree at the beginning of the replacement. -/
structure Ground (home : Path) (stage rollback : String) (root : Path) (t₀ : FileTree Plaintext) : Prop where
  fresh : Fresh stage rollback
  rooted : Rooted home stage rollback root
  bases : ∀ area : Area, t₀.isDir (area.base home stage rollback)
  linkless : ∀ area : Area, t₀.Linkless (area.base home stage rollback)
  aside : ∀ area : Area, area ≠ .live → t₀.Linkless (area.base home stage rollback ++ ["IndexedDB"])
  leads : ∀ t : FileTree Plaintext, (∀ q, (∀ (area : Area) r, IsTarget r →
    ¬ area.slot home stage rollback root r <+: q) →
      t.look q = t₀.look q ∨ (t₀.look q = none ∧ t.look q = some .dir)) →
    t.Leads (home ++ ["IndexedDB"]) root

namespace Ground
variable {t₀ : FileTree Plaintext} {r s q : Path} {a b : Area}

theorem apart_of_listed (ground : Ground home stage rollback root t₀) {name : String}
    (listed : name ∈ extensionDirectories ++ extensionPreferenceFiles) :
    Rooted.Apart home root name where
  other := by
    have others : ∀ name ∈ extensionDirectories ++ extensionPreferenceFiles,
        isExtensionOrigin name ≠ true := by decide +kernel
    exact others name listed
  outside := ground.rooted.names name listed

/-- The first step from the profile to a place that is not in the directory of the origins. -/
theorem apart (ground : Ground home stage rollback root t₀) (target : IsTarget r)
    (plain : a = .live → r.dropLast = []) :
    ∃ first rest, a.base home stage rollback ++ r = home ++ first :: rest ∧
      Rooted.Apart home root first := by
  cases a with
  | live =>
      rcases target with ⟨name, listed, rfl⟩ | ⟨name, _, rfl⟩
      · exact ⟨name, [], rfl, ground.apart_of_listed listed⟩
      · cases plain rfl
  | previous =>
      exact ⟨rollback, r, by simp [Area.base], ground.fresh.rollbackOther, ground.rooted.rollback⟩
  | staged => exact ⟨stage, "profile" :: r, by simp [Area.base], ground.fresh.stageOther, ground.rooted.stage⟩

theorem eq_of_prefix_path (fresh : Fresh stage rollback) (target : IsTarget r) (target' : IsTarget s)
    (before : a.base home stage rollback ++ r <+: b.base home stage rollback ++ s) :
    a = b ∧ r = s := by
  rw [Area.base_append, Area.base_append, List.prefix_append_right_inj] at before
  obtain ⟨same, inside⟩ := head_of_root fresh before target.head fun y found => by
    obtain ⟨x, listed, rest, rfl⟩ := target'.head
    cases found
    exact listed
  exact ⟨same, target.eq_of_before target' inside⟩

/-- No place of a target lies in the place of another. -/
theorem eq_of_prefix_slot (ground : Ground home stage rollback root t₀) (target : IsTarget r)
    (target' : IsTarget s)
    (before : a.slot home stage rollback root r <+: b.slot home stage rollback root s) :
    a = b ∧ r = s := by
  rcases @Area.slot_cases home stage rollback root a r target with ⟨x, origin, rfl, rfl, here⟩ | ⟨here, plain⟩ <;>
    rcases @Area.slot_cases home stage rollback root b s target' with ⟨y, origin', rfl, rfl, there⟩ | ⟨there, plain'⟩ <;>
    rw [here, there] at before
  · cases eq_of_prefix_concat before
    exact ⟨rfl, rfl⟩
  · obtain ⟨first, rest, path, apart⟩ := ground.apart target' plain'
    exact absurd (path ▸ before) (ground.rooted.not_before apart origin)
  · obtain ⟨first, rest, path, apart⟩ := ground.apart target plain
    exact absurd (path ▸ before) (apart.not_before origin')
  · exact eq_of_prefix_path ground.fresh target target' before

theorem not_prefix_path (fresh : Fresh stage rollback) (target : IsTarget r)
    (folder : q = [] ∨ q = ["IndexedDB"]) :
    ¬ a.base home stage rollback ++ r <+: b.base home stage rollback ++ q := by
  intro before
  rw [Area.base_append, Area.base_append, List.prefix_append_right_inj] at before
  obtain ⟨-, inside⟩ := head_of_root fresh before target.head fun y found => by
    rcases folder with rfl | rfl
    · cases found
    · cases found
      exact List.mem_cons_self
  rcases folder with rfl | rfl
  · obtain ⟨x, _, rest, rfl⟩ := target.head
    exact absurd inside.length_le (by simp)
  · rcases target with ⟨name, listed, rfl⟩ | ⟨name, _, rfl⟩
    · rw [(List.cons_prefix_cons.mp inside).1] at listed
      exact absurd listed (by decide)
    · exact absurd inside.length_le (by simp)

/-- No target holds a folder of targets, as a path or as a place. -/
theorem not_prefix_base (ground : Ground home stage rollback root t₀) (target : IsTarget r)
    (folder : q = [] ∨ q = ["IndexedDB"]) :
    ¬ a.slot home stage rollback root r <+: b.base home stage rollback ++ q := by
  rcases @Area.slot_cases home stage rollback root a r target with ⟨x, origin, rfl, rfl, here⟩ | ⟨here, -⟩ <;> rw [here]
  · cases b with
    | live =>
        rcases folder with rfl | rfl
        · rw [List.append_nil]
          exact ground.rooted.above x origin
        · intro before
          rcases List.prefix_concat_iff.mp before with same | inside
          · obtain ⟨-, same⟩ := List.append_inj' same rfl
            cases same
            exact absurd origin (by decide +kernel)
          · exact ground.rooted.above x origin inside
    | previous =>
        rw [Area.base, List.append_assoc]
        exact ground.rooted.not_before ⟨ground.fresh.rollbackOther, ground.rooted.rollback⟩ origin
    | staged =>
        rw [Area.base, List.append_assoc, List.append_assoc]
        exact ground.rooted.not_before ⟨ground.fresh.stageOther, ground.rooted.stage⟩ origin
  · exact not_prefix_path ground.fresh target folder

theorem not_prefix_folder (ground : Ground home stage rollback root t₀) (target : IsTarget r)
    (folder : q = [] ∨ q = ["IndexedDB"]) :
    ¬ a.slot home stage rollback root r <+: b.folder home stage rollback root q := by
  rw [Area.folder]
  split_ifs
  · rcases @Area.slot_cases home stage rollback root a r target with ⟨x, _, _, _, here⟩ | ⟨here, plain⟩ <;> rw [here]
    · exact fun before => absurd before.length_le (by simp)
    · obtain ⟨first, rest, path, apart⟩ := ground.apart target plain
      rw [path]
      exact apart.not_prefix_folder
  · exact ground.not_prefix_base target folder

end Ground

/-- What lies at the targets of each area, and nothing else changed but new folders for them. -/
structure Laid (home : Path) (stage rollback : String) (root : Path) (t₀ t : FileTree Plaintext)
    (held : Area → Path → FileTree Plaintext) : Prop where
  frame : ∀ q, (∀ (area : Area) r, IsTarget r → ¬ area.slot home stage rollback root r <+: q) →
    t.look q = t₀.look q ∨ (t₀.look q = none ∧ t.look q = some .dir ∧
      ∃ area : Area, q = area.base home stage rollback ++ ["IndexedDB"])
  holds : ∀ (area : Area) r, IsTarget r → t.get (area.slot home stage rollback root r) = held area r

namespace Laid
variable {t₀ t t' : FileTree Plaintext} {held : Area → Path → FileTree Plaintext} {r : Path}

/-- What is no place of a target and was there is as it was. -/
theorem look_base (ground : Ground home stage rollback root t₀)
    (laid : Laid home stage rollback root t₀ t held) (area : Area) :
    t.look (area.base home stage rollback) = some .dir := by
  have apart := fun (a : Area) r (target : IsTarget r) =>
    ground.not_prefix_base (a := a) (b := area) target (.inl rfl)
  simp only [List.append_nil] at apart
  rcases laid.frame _ apart with same | ⟨absent, _, _⟩
  · exact same.trans (ground.bases area)
  · cases absent.symm.trans (ground.bases area)

theorem linkless_base (ground : Ground home stage rollback root t₀)
    (laid : Laid home stage rollback root t₀ t held) (area : Area) :
    t.Linkless (area.base home stage rollback) := by
  intro q before target link
  rcases laid.frame q fun a r target inside => ground.not_prefix_base (b := area) target (.inl rfl)
      (inside.trans (before.trans (List.prefix_append _ []))) with same | ⟨_, made, _⟩
  · exact ground.linkless area q before target (same.symm.trans link)
  · cases made.symm.trans link

/-- The way to the folders of an area's targets, if no link stood on it before. -/
theorem linkless (ground : Ground home stage rollback root t₀)
    (laid : Laid home stage rollback root t₀ t held) (area : Area)
    (direct : t₀.Linkless (area.base home stage rollback ++ ["IndexedDB"])) :
    t.Linkless (area.base home stage rollback ++ ["IndexedDB"]) := by
  intro q before target link
  rcases laid.frame q fun a r target inside =>
    ground.not_prefix_base (b := area) target (.inr rfl) (inside.trans before) with same | ⟨_, made, _⟩
  · exact direct q before target (same.symm.trans link)
  · cases made.symm.trans link

theorem leads (ground : Ground home stage rollback root t₀)
    (laid : Laid home stage rollback root t₀ t held) (area : Area) (target : IsTarget r) :
    t.Leads (area.base home stage rollback ++ r.dropLast)
      (area.folder home stage rollback root r.dropLast) := by
  rcases target.split.1 with nothing | inside
  · rw [nothing, List.append_nil, Area.folder_nil]
    exact (laid.linkless_base ground area).leads
  · rw [inside, Area.folder]
    split_ifs with live
    · obtain ⟨rfl, -⟩ := live
      exact ground.leads t fun q apart => (laid.frame q apart).imp_right fun ⟨absent, made, _⟩ =>
        ⟨absent, made⟩
    · have other : area ≠ .live := fun same => live ⟨same, rfl⟩
      exact (laid.linkless ground area (ground.aside area other)).leads

theorem path_eq {p : Path} {name : String} (split : r = r.dropLast ++ [name]) :
    p ++ r = p ++ r.dropLast ++ [name] := by
  rw [List.append_assoc, ← split]

theorem dropLast_path (p : Path) (target : IsTarget r) : (p ++ r).dropLast = p ++ r.dropLast := by
  obtain ⟨-, name, split⟩ := target.split
  rw [path_eq split, List.dropLast_concat]

theorem look_slot (laid : Laid home stage rollback root t₀ t held) (area : Area)
    (target : IsTarget r) :
    t.look (area.slot home stage rollback root r) = (held area r).kind :=
  congrArg kind (laid.holds area r target)

/-- What a test of a target sees where no link stands on the way to it or at its place. -/
theorem stat_path (laid : Laid home stage rollback root t₀ t held) (area : Area) (target : IsTarget r)
    (direct : t.Linkless (area.base home stage rollback ++ r.dropLast))
    (path : area.slot home stage rollback root r = area.base home stage rollback ++ r)
    (plain : ∀ target, (held area r).kind ≠ some (.link target)) :
    t.stat (area.base home stage rollback ++ r) = (held area r).kind := by
  obtain ⟨-, name, split⟩ := target.split
  have there := laid.look_slot area target
  rw [path] at there
  have linkless : t.Linkless (area.base home stage rollback ++ r) := by
    rw [path_eq split] at there ⊢
    exact direct.concat fun _ link => plain _ (there.symm.trans link)
  obtain ⟨x, _, rest, rfl⟩ := target.head
  rw [stat_of_linkless linkless (by simp), there]

theorem congr {held' : Area → Path → FileTree Plaintext}
    (laid : Laid home stage rollback root t₀ t held)
    (same : ∀ area r, IsTarget r → held area r = held' area r) :
    Laid home stage rollback root t₀ t held' where
  frame := laid.frame
  holds area r target := (laid.holds area r target).trans (same area r target)

/-- Something is put at the place of a target. -/
theorem put (ground : Ground home stage rollback root t₀)
    (laid : Laid home stage rollback root t₀ t held) {area : Area} (target : IsTarget r)
    {x : FileTree Plaintext}
    (parent : t.isDir (area.folder home stage rollback root r.dropLast)) :
    Laid home stage rollback root t₀ (t.put (area.slot home stage rollback root r) x)
      fun b s => if b = area ∧ s = r then x else held b s where
  frame q apart := by
    rw [look_put_of_apart x (apart area r target)]
    exact laid.frame q apart
  holds b s target' := by
    split_ifs with same
    · obtain ⟨rfl, rfl⟩ := same
      obtain ⟨-, name, split⟩ := target.split
      rw [Area.slot_eq split]
      exact get_put parent x []
    · rw [get_put_of_apart x (fun inside => same ?_) fun inside => same ?_, laid.holds b s target']
      · obtain ⟨rfl, rfl⟩ := ground.eq_of_prefix_slot target target' inside
        exact ⟨rfl, rfl⟩
      · exact ground.eq_of_prefix_slot target' target inside

/-- A rename moves a target from one area to another. -/
theorem rename (ground : Ground home stage rollback root t₀)
    (laid : Laid home stage rollback root t₀ t held) {a b : Area} (other : a ≠ b)
    (target : IsTarget r)
    (renamed : t.rename (a.base home stage rollback ++ r) (b.base home stage rollback ++ r) =
      .ok t') :
    held a r ≠ empty ∧ Laid home stage rollback root t₀ t' fun c s =>
      if c = b ∧ s = r then held a r else if c = a ∧ s = r then empty else held c s := by
  obtain ⟨-, name, split⟩ := target.split
  have found := laid.look_slot a target
  rw [path_eq split, path_eq split] at renamed
  obtain ⟨source, dest, there, ⟨same, _⟩ | ⟨-, rfl, -⟩⟩ :=
    rename_ok (laid.leads ground a target) (laid.leads ground b target) renamed
  · rw [← Area.slot_eq split, ← Area.slot_eq split] at same
    exact absurd (ground.eq_of_prefix_slot target target (by rw [same])).1 other
  · rw [← Area.slot_eq split] at there
    refine ⟨fun nothing => there (found.trans (by rw [nothing]; rfl)), ?_⟩
    rw [← Area.slot_eq split, ← Area.slot_eq split, move, laid.holds a r target]
    refine (laid.put ground target (x := .empty) source).put ground target ?_
    refine (isDir_put_of_apart _ ?_).mpr dest
    exact ground.not_prefix_folder target target.split.1

/-- A rename that has to work. -/
theorem rename_eq (ground : Ground home stage rollback root t₀)
    (laid : Laid home stage rollback root t₀ t held) {a b : Area} (other : a ≠ b) (target : IsTarget r)
    (there : held a r ≠ empty) (free : held b r = empty)
    (source : t.isDir (a.folder home stage rollback root r.dropLast))
    (dest : t.isDir (b.folder home stage rollback root r.dropLast)) :
    ∃ t', t.rename (a.base home stage rollback ++ r) (b.base home stage rollback ++ r) = .ok t' := by
  obtain ⟨-, name, split⟩ := target.split
  have found := laid.look_slot a target
  have vacant := laid.look_slot b target
  rw [free] at vacant
  refine ⟨t.move (a.slot home stage rollback root r) (b.slot home stage rollback root r), ?_⟩
  rw [path_eq split, path_eq split, Area.slot_eq split, Area.slot_eq split]
  rw [Area.slot_eq split] at found vacant
  refine FileTree.rename_eq (laid.leads ground a target) (laid.leads ground b target) source dest ?_
    vacant ?_
  · rw [found]
    exact fun nothing => there (kind_eq_none_iff.mp nothing)
  · rw [← Area.slot_eq split, ← Area.slot_eq split]
    exact fun inside => other (ground.eq_of_prefix_slot target target inside).1

/-- A rename of a target leaves everything that is at no place of it. -/
theorem look_rename (ground : Ground home stage rollback root t₀)
    (laid : Laid home stage rollback root t₀ t held) {a b : Area} (target : IsTarget r)
    (renamed : t.rename (a.base home stage rollback ++ r) (b.base home stage rollback ++ r) =
      .ok t') {q : Path} (apart : ∀ area : Area, ¬ area.slot home stage rollback root r <+: q) :
    t'.look q = t.look q := by
  obtain ⟨-, name, split⟩ := target.split
  have source := apart a
  have dest := apart b
  rw [path_eq split, path_eq split] at renamed
  rw [Area.slot_eq split] at source dest
  obtain ⟨-, -, -, ⟨-, rfl⟩ | ⟨-, rfl, -⟩⟩ :=
    rename_ok (laid.leads ground a target) (laid.leads ground b target) renamed
  · rfl
  · exact look_move_of_apart source dest

/-- New folders on the way to a target. -/
theorem paved (ground : Ground home stage rollback root t₀)
    (laid : Laid home stage rollback root t₀ t held) (area : Area) (target : IsTarget r)
    (paved : Paved (area.base home stage rollback ++ r.dropLast) t t') :
    Laid home stage rollback root t₀ t' held where
  frame q apart := by
    rcases paved q with same | ⟨absent, made, before⟩
    · rw [same]
      exact laid.frame q apart
    · rcases target.split.1 with nothing | inside
      · rw [nothing, List.append_nil] at before
        exact absurd (look_of_before before absent) fun nothing => by
          cases nothing.symm.trans (laid.look_base ground area)
      · rw [inside] at before
        rcases List.prefix_concat_iff.mp before with same | before
        · refine .inr ⟨?_, made, area, same⟩
          rcases laid.frame q apart with same | ⟨absent', _, _⟩
          · exact same.symm.trans absent
          · exact absent'
        · exact absurd (look_of_before before absent) fun nothing => by
            cases nothing.symm.trans (laid.look_base ground area)
  holds b s target' :=
    (paved.get_eq (ground.not_prefix_base target' target.split.1)).trans (laid.holds b s target')

end Laid
end HeliumSync.LocatedProfile
