import HeliumSync.Fallible
import HeliumSync.FileOps
import Mathlib.Data.List.Infix

/-! What the file operations do to entries of directories that are reached without symbolic links. -/
namespace HeliumSync.Files
open Fallible (bind_ok_iff)

variable {β : Type}

namespace FileTree
variable {t t' : FileTree β} {d e p q : Path} {a b name : String}

theorem isDir_of_look {p q : Path} (below : q ≠ []) (found : t.look (p ++ q) ≠ none) :
    t.isDir p :=
  isDir_of_get below fun nothing => found (congrArg kind nothing)

/-- What stands above something that stands somewhere is a directory. -/
theorem isDir_of_before (before : p <+: q) (other : p ≠ q) (found : t.look q ≠ none) : t.isDir p := by
  obtain ⟨rest, rfl⟩ := before
  exact isDir_of_look (fun nothing => other (by rw [nothing, List.append_nil])) found

theorem look_of_before (before : p <+: q) (absent : t.look p = none) : t.look q = none := by
  by_contra found
  by_cases same : p = q
  · exact found (same ▸ absent)
  · exact absurd (isDir_of_before before same found) fun directory => by
      cases absent.symm.trans directory

/-- The one directory that a path can lead to, and to which it leads when that is there. -/
structure Leads (t : FileTree β) (p root : Path) : Prop where
  reaches : t.isDir root → t.resolve p = some root
  only : ∀ place, t.resolve p = some place → t.isDir place → place = root

theorem Linkless.leads (linkless : t.Linkless d) : t.Leads d d where
  reaches directory := resolve_of_linkless linkless fun absent => by cases absent.symm.trans directory
  only place resolved _ := by
    by_cases found : t.look d = none
    · by_cases root : d = []
      · subst root
        cases resolved
        rfl
      · have lost : t.resolve d = none := follow_absent [] d linkless root found
        cases lost.symm.trans resolved
    · exact Option.some.inj (resolved.symm.trans (resolve_of_linkless linkless found))

variable {root root' : Path}

theorem place_of_leads {place : Path} (leads : t.Leads d root)
    (placed : t.place (d ++ [name]) = .ok place) : place = root ++ [name] ∧ t.isDir root := by
  rw [FileTree.place, List.getLast?_concat, List.dropLast_concat] at placed
  cases resolved : t.resolve d with
  | none =>
      simp only [resolved] at placed
      cases placed
  | some parent =>
      simp only [resolved] at placed
      rcases kind : t.look parent with _ | content | target | _ <;> rw [kind] at placed <;>
        cases placed
      obtain rfl := leads.only parent resolved kind
      exact ⟨rfl, kind⟩

theorem Leads.place (leads : t.Leads d root) (parent : t.isDir root) (name : String) :
    t.place (d ++ [name]) = .ok (root ++ [name]) :=
  place_of_resolve (leads.reaches parent) parent name

/-- What a name in a directory stands for, when the directory can only be one. -/
theorem entry_of_leads (leads : t.Leads d root) (name : String) :
    t.entry (d ++ [name]) = t.get (root ++ [name]) := by
  rw [entry]
  match placed : t.place (d ++ [name]) with
  | .ok place => rw [(place_of_leads leads placed).1]
  | .error e =>
      have lost : ¬ t.isDir root := fun parent => by cases placed.symm.trans (leads.place parent name)
      refine Eq.symm ?_
      by_contra found
      exact lost (isDir_of_get (q := [name]) (List.cons_ne_nil name []) found)

theorem place_ok {place : Path} (linkless : t.Linkless d) (placed : t.place (d ++ [name]) = .ok place) :
    place = d ++ [name] ∧ t.isDir d := place_of_leads linkless.leads placed

theorem createDir_ok (linkless : t.Linkless d) (made : t.createDir (d ++ [name]) = .ok t') :
    t.isDir d ∧ t.look (d ++ [name]) = none ∧ t' = t.put (d ++ [name]) folder := by
  obtain ⟨place, placed, made⟩ := bind_ok_iff.mp made
  obtain ⟨rfl, parent⟩ := place_ok linkless placed
  match absent : t.look (d ++ [name]) with
  | none =>
      simp only [absent] at made
      cases made
      exact ⟨parent, rfl, rfl⟩
  | some _ =>
      simp only [absent] at made
      cases made

theorem createNew_ok {content : β} (linkless : t.Linkless d)
    (made : t.createNew (d ++ [name]) content = .ok t') :
    t.isDir d ∧ t.look (d ++ [name]) = none ∧ t' = t.put (d ++ [name]) (file content) := by
  obtain ⟨place, placed, made⟩ := bind_ok_iff.mp made
  obtain ⟨rfl, parent⟩ := place_ok linkless placed
  match absent : t.look (d ++ [name]) with
  | none =>
      simp only [absent] at made
      cases made
      exact ⟨parent, rfl, rfl⟩
  | some _ =>
      simp only [absent] at made
      cases made

theorem overwrite_ok {content : β} (linkless : t.Linkless p)
    (written : t.overwrite p content = .ok t') :
    (∃ old, t.look p = some (.file old)) ∧ t' = t.put p (file content) := by
  have resolved : ∀ place, t.resolve p = some place → place = p := by
    intro place resolved
    by_cases found : t.look p = none
    · by_cases root : p = []
      · subst root
        cases resolved
        rfl
      · have lost : t.resolve p = none := follow_absent [] p linkless root found
        cases lost.symm.trans resolved
    · exact Option.some.inj (resolved.symm.trans (resolve_of_linkless linkless found))
  rw [overwrite] at written
  match place : t.resolve p with
  | none =>
      simp only [place] at written
      cases written
  | some place' =>
      cases resolved place' place
      simp only [place] at written
      match kind : t.look p with
      | some (.file old) =>
          simp only [kind] at written
          cases written
          exact ⟨⟨old, rfl⟩, rfl⟩
      | some .dir | some (.link _) | none =>
          simp only [kind] at written
          cases written

theorem write_ok {content : β} (linkless : t.Linkless (d ++ [name]))
    (written : t.write (d ++ [name]) content = .ok t') :
    t.isDir d ∧ ¬ t.isDir (d ++ [name]) ∧ t' = t.put (d ++ [name]) (file content) := by
  rw [write] at written
  match stat : t.stat (d ++ [name]) with
  | none =>
      simp only [stat] at written
      obtain ⟨parent, absent, rfl⟩ :=
        createNew_ok (linkless.of_before (List.prefix_append d [name])) written
      exact ⟨parent, fun directory => (by cases absent.symm.trans directory), rfl⟩
  | some _ =>
      simp only [stat] at written
      obtain ⟨⟨old, found⟩, rfl⟩ := overwrite_ok linkless written
      exact ⟨isDir_of_look (List.cons_ne_nil name []) (by rw [found]; nofun),
        fun directory => (by cases found.symm.trans directory), rfl⟩

theorem removeFile_ok (linkless : t.Linkless d) (removed : t.removeFile (d ++ [name]) = .ok t') :
    t.isDir d ∧ t.look (d ++ [name]) ≠ none ∧ t.look (d ++ [name]) ≠ some .dir ∧
      t' = t.put (d ++ [name]) empty := by
  obtain ⟨place, placed, removed⟩ := bind_ok_iff.mp removed
  obtain ⟨rfl, parent⟩ := place_ok linkless placed
  match kind : t.look (d ++ [name]) with
  | some (.file _) | some (.link _) =>
      simp only [kind] at removed
      cases removed
      exact ⟨parent, nofun, nofun, rfl⟩
  | some .dir | none =>
      simp only [kind] at removed
      cases removed

theorem removeFile_eq (leads : t.Leads d root) (parent : t.isDir root)
    (found : t.look (root ++ [name]) ≠ none) (leaf : t.look (root ++ [name]) ≠ some .dir) :
    t.removeFile (d ++ [name]) = .ok (t.put (root ++ [name]) empty) := by
  simp only [removeFile, leads.place parent, bind, Except.bind]
  rcases kind : t.look (root ++ [name]) with _ | content | target | _
  · exact absurd kind found
  · rfl
  · rfl
  · exact absurd kind leaf

theorem removeDirAll_eq (leads : t.Leads d root) (parent : t.isDir root)
    (folder : t.isDir (root ++ [name])) :
    t.removeDirAll (d ++ [name]) = .ok (t.put (root ++ [name]) empty) := by
  simp only [removeDirAll, leads.place parent, bind, Except.bind]
  rw [folder]
  rfl

/-- A rename moves the whole entry, or is one of a path to itself. -/
theorem rename_ok (source : t.Leads d root) (dest : t.Leads e root')
    (renamed : t.rename (d ++ [a]) (e ++ [b]) = .ok t') :
    t.isDir root ∧ t.isDir root' ∧ t.look (root ++ [a]) ≠ none ∧
      ((root ++ [a] = root' ++ [b] ∧ t' = t) ∨
        (¬ root ++ [a] <+: root' ++ [b] ∧ t' = t.move (root ++ [a]) (root' ++ [b]) ∧
          (t.isDir (root' ++ [b]) → t.isDir (root ++ [a])))) := by
  obtain ⟨from', placed, renamed⟩ := bind_ok_iff.mp renamed
  obtain ⟨rfl, sourceDir⟩ := place_of_leads source placed
  obtain ⟨to', placed, renamed⟩ := bind_ok_iff.mp renamed
  obtain ⟨rfl, destDir⟩ := place_of_leads dest placed
  refine ⟨sourceDir, destDir, ?_⟩
  match kind : t.look (root ++ [a]) with
  | none =>
      simp only [kind] at renamed
      cases renamed
  | some found =>
      simp only [kind] at renamed
      refine ⟨nofun, ?_⟩
      by_cases same : root ++ [a] = root' ++ [b]
      · rw [if_pos same] at renamed
        cases renamed
        exact .inl ⟨same, rfl⟩
      · rw [if_neg same] at renamed
        by_cases inside : root ++ [a] <+: root' ++ [b]
        · rw [if_pos inside] at renamed
          cases renamed
        rw [if_neg inside] at renamed
        refine .inr ⟨inside, ?_⟩
        match found, there : t.look (root' ++ [b]) with
        | .dir, none =>
            simp only [there] at renamed
            cases renamed
            exact ⟨rfl, fun _ => kind⟩
        | .file _, none | .link _, none =>
            simp only [there] at renamed
            cases renamed
            exact ⟨rfl, fun directory => by cases there.symm.trans directory⟩
        | .dir, some .dir =>
            simp only [there] at renamed
            split_ifs at renamed
            cases renamed
            exact ⟨rfl, fun _ => kind⟩
        | .dir, some (.file _) | .dir, some (.link _) | .file _, some .dir | .link _, some .dir =>
            simp only [there] at renamed
            cases renamed
        | .file _, some (.file _) | .file _, some (.link _) | .link _, some (.file _)
        | .link _, some (.link _) =>
            simp only [there] at renamed
            cases renamed
            exact ⟨rfl, fun directory => by cases there.symm.trans directory⟩

/-- A rename to a free place of a directory works. -/
theorem rename_eq (source : t.Leads d root) (dest : t.Leads e root') (sourceDir : t.isDir root)
    (destDir : t.isDir root') (found : t.look (root ++ [a]) ≠ none)
    (free : t.look (root' ++ [b]) = none) (outside : ¬ root ++ [a] <+: root' ++ [b]) :
    t.rename (d ++ [a]) (e ++ [b]) = .ok (t.move (root ++ [a]) (root' ++ [b])) := by
  have other : root ++ [a] ≠ root' ++ [b] := fun same => outside (same ▸ List.prefix_rfl)
  simp only [rename, source.place sourceDir, dest.place destDir, bind, Except.bind]
  cases kind : t.look (root ++ [a]) with
  | none => exact absurd kind found
  | some here =>
      simp only [if_neg other, if_neg outside, free]
      rfl

theorem isDir_put_of_apart (x : FileTree β) (apart : ¬ p <+: q) :
    (t.put p x).isDir q ↔ t.isDir q := by
  rw [isDir, isDir, look_put_of_apart x apart]

/-- What is put last stands there. -/
theorem put_put (parent : t.isDir d) (x y : FileTree β) :
    (t.put (d ++ [name]) x).put (d ++ [name]) y = t.put (d ++ [name]) y := by
  refine ext_look fun q => ?_
  by_cases before : d ++ [name] <+: q
  · obtain ⟨rest, rfl⟩ := before
    have apart : ¬ d ++ [name] <+: d := fun inside => absurd inside.length_le (by simp)
    rw [List.append_assoc, List.singleton_append, look_put parent,
      look_put ((isDir_put_of_apart x apart).mpr parent)]
  · rw [look_put_of_apart _ before, look_put_of_apart _ before,
      look_put_of_apart _ before]

theorem not_prefix_dir (outside : ¬ p <+: e ++ [b]) : ¬ p <+: e :=
  fun inside => outside (inside.trans (List.prefix_append e [b]))

/-- What was moved stands in its new place. -/
theorem get_move (destDir : t.isDir e) (outside : ¬ p <+: e ++ [b]) (r : Path) :
    (t.move p (e ++ [b])).get (e ++ b :: r) = t.get (p ++ r) := by
  rw [move, get_put ((isDir_put_of_apart _ (not_prefix_dir outside)).mpr destDir),
    ← get_append]

theorem get_move_self (destDir : t.isDir e) (outside : ¬ p <+: e ++ [b]) :
    (t.move p (e ++ [b])).get (e ++ [b]) = t.get p :=
  (get_move destDir outside []).trans (by rw [List.append_nil])

/-- Nothing changes away from the two places of a move. -/
theorem look_move_of_apart {src dst : Path} (fromApart : ¬ src <+: q) (toApart : ¬ dst <+: q) :
    (t.move src dst).look q = t.look q := by
  rw [move, look_put_of_apart _ toApart, look_put_of_apart _ fromApart]

theorem get_move_of_apart {src dst : Path} (fromApart : ¬ src <+: q) (fromBeside : ¬ q <+: src)
    (toApart : ¬ dst <+: q) (toBeside : ¬ q <+: dst) : (t.move src dst).get q = t.get q := by
  rw [move, get_put_of_apart _ toApart toBeside, get_put_of_apart _ fromApart fromBeside]

theorem look_put_empty (parent : t.isDir d) (r : Path) :
    (t.put (d ++ [name]) empty).look (d ++ name :: r) = none := by
  rw [look_put parent, look, get_empty]
  rfl

/-- Nothing is left where something was moved away. -/
theorem look_move_src {dst : Path} (sourceDir : t.isDir d) (apart : ¬ dst <+: d ++ a :: q) :
    (t.move (d ++ [a]) dst).look (d ++ a :: q) = none := by
  rw [move, look_put_of_apart _ apart, look_put_empty sourceDir]

theorem prefix_of_concat {x y : String} (before : p ++ [x] <+: q ++ [y]) : p <+: q := by
  rcases List.prefix_concat_iff.mp before with same | inside
  · exact (List.append_inj' same rfl).1 ▸ List.prefix_rfl
  · exact (List.prefix_append p [x]).trans inside

theorem eq_of_prefix_concat {x y : String} (before : p ++ [x] <+: p ++ [y]) : x = y := by
  rcases List.prefix_concat_iff.mp before with same | inside
  · exact List.head_eq_of_cons_eq (List.append_cancel_left same)
  · exact absurd inside.length_le (by simp)

theorem not_prefix_concat {x : String} (before : q <+: p) : ¬ p ++ [x] <+: q :=
  fun inside => absurd (inside.trans before).length_le (by simp)

theorem Linkless.concat (linkless : t.Linkless d) (plain : ∀ target, t.look (d ++ [name]) ≠
    some (.link target)) : t.Linkless (d ++ [name]) := by
  intro q before
  rcases List.prefix_concat_iff.mp before with rfl | inside
  · exact plain
  · exact linkless q inside

/-- What stands at a place, the content of files apart. -/
def Kind.shape : Kind β → Kind Unit
  | .file _ => .file ()
  | .link target => .link target
  | .dir => .dir

theorem follow_congr (same : ∀ q, (t.look q).map Kind.shape = (t'.look q).map Kind.shape)
    {jump : Path → List (Option String) → Option Path} (here : Path) (steps : List (Option String)) :
    t.follow jump here steps = t'.follow jump here steps := by
  induction steps generalizing here with
  | nil => rw [follow, follow]
  | cons step steps ih =>
      cases step with
      | none =>
          rw [follow, follow]
          exact ih _
      | some name =>
          rw [follow, follow]
          have kinds := same (here ++ [name])
          rcases there : t.look (here ++ [name]) with _ | content | target | _ <;>
            rcases there' : t'.look (here ++ [name]) with _ | content' | target' | _ <;>
            rw [there, there'] at kinds <;> cases kinds
          · rfl
          · exact ih _

/-- Where paths lead does not depend on the contents of files. -/
theorem resolve_congr (same : ∀ q, (t.look q).map Kind.shape = (t'.look q).map Kind.shape)
    (p : Path) : t.resolve p = t'.resolve p := by
  have within : ∀ hops, t.resolveWithin hops = t'.resolveWithin hops := by
    intro hops
    induction hops with
    | zero => exact funext fun here => funext fun steps => follow_congr same here steps
    | succ hops ih =>
        rw [resolveWithin, resolveWithin, ih]
        exact funext fun here => funext fun steps => follow_congr same here steps
  rw [resolve, resolve, within]

/-- What was written is read. -/
theorem read_overwrite {content : β} (written : t.overwrite p content = .ok t') :
    t'.read p = .ok content := by
  rw [overwrite] at written
  cases resolved : t.resolve p with
  | none =>
      simp only [resolved] at written
      cases written
  | some place =>
      simp only [resolved] at written
      rcases held : t.look place with _ | old | target | _ <;> simp only [held] at written <;>
        cases written
      · have there : (t.put place (file content)).look place = some (.file content) := by
          rcases List.eq_nil_or_concat' place with rfl | ⟨d, name, rfl⟩
          · rfl
          · exact look_put (isDir_of_look (List.cons_ne_nil name [])
              fun nothing => by cases held.symm.trans nothing) _ []
        have same : ∀ q, (t.look q).map Kind.shape =
            ((t.put place (file content)).look q).map Kind.shape := by
          intro q
          by_cases before : place <+: q
          · obtain ⟨rest, rfl⟩ := before
            cases rest with
            | nil =>
                rw [List.append_nil, there, held]
                rfl
            | cons next rest =>
                rw [look, look, get_append, get_append, get_of_not_dir _ (List.cons_ne_nil _ _),
                  get_of_not_dir _ (List.cons_ne_nil _ _)]
                · exact fun directory => by cases there.symm.trans directory
                · exact fun directory => by cases held.symm.trans directory
          · rw [look_put_of_apart _ before]
        simp only [read, stat, ← resolve_congr same, resolved, Option.bind_some, there]

/-- Making sure of a folder creates it at most. -/
theorem ensureDir_ok (linkless : t.Linkless p.dropLast) (made : t.ensureDir p = .ok t') :
    t' = t ∨ (t.look p = none ∧ t' = t.put p folder) := by
  rw [ensureDir] at made
  split at made
  · cases made
    exact .inl rfl
  · rcases List.eq_nil_or_concat' p with rfl | ⟨d, name, rfl⟩
    · cases made
    · rw [List.dropLast_concat] at linkless
      obtain ⟨_, absent, same⟩ := createDir_ok linkless made
      exact .inr ⟨absent, same⟩

theorem Linkless.dropLast (linkless : t.Linkless p) : t.Linkless p.dropLast :=
  linkless.of_before ( List.dropLast_prefix p)

/-- Nothing that was there changed. -/
def Grown (t t' : FileTree β) : Prop := ∀ q, t.look q ≠ none → t'.look q = t.look q

theorem Grown.refl (t : FileTree β) : Grown t t := fun _ _ => rfl

theorem Grown.trans {t₁ t₂ t₃ : FileTree β} (first : Grown t₁ t₂) (later : Grown t₂ t₃) :
    Grown t₁ t₃ := fun q found =>
  (later q fun nothing => found ((first q found).symm.trans nothing)).trans (first q found)

theorem Grown.isDir (grown : Grown t t') (directory : t.isDir p) : t'.isDir p :=
  (grown p fun nothing => by cases nothing.symm.trans directory).trans directory

theorem Grown.linkless (grown : Grown t t') (linkless : t.Linkless p) (found : t.look p ≠ none) :
    t'.Linkless p := fun q before target link =>
  linkless q before target
    ((grown q fun nothing => found (look_of_before before nothing)).symm.trans link)

theorem follow_grown (grown : Grown t t') {jump jump' : Path → List (Option String) → Option Path}
    (onward : ∀ here steps place, jump here steps = some place → jump' here steps = some place)
    {here : Path} {steps : List (Option String)} {place : Path}
    (followed : t.follow jump here steps = some place) : t'.follow jump' here steps = some place := by
  induction steps generalizing here with
  | nil =>
      rw [follow] at followed ⊢
      exact followed
  | cons step steps ih =>
      cases step with
      | none =>
          rw [follow] at followed ⊢
          exact ih followed
      | some name =>
          rw [follow] at followed ⊢
          cases kind : t.look (here ++ [name]) with
          | none =>
              simp only [kind] at followed
              cases followed
          | some found =>
              have there := (grown _ fun nothing => by cases nothing.symm.trans kind).trans kind
              simp only [kind] at followed
              simp only [there]
              cases found with
              | link target => exact onward _ _ _ followed
              | file => exact followed
              | dir => exact ih followed

/-- A path that leads somewhere leads there still. -/
theorem resolve_grown (grown : Grown t t') (resolved : t.resolve p = some q) : t'.resolve p = some q := by
  have within : ∀ hops here steps place, t.resolveWithin hops here steps = some place →
      t'.resolveWithin hops here steps = some place := by
    intro hops
    induction hops with
    | zero => exact fun _ _ _ => follow_grown grown (by nofun)
    | succ hops ih => exact fun _ _ _ => follow_grown grown ih
  exact within 40 [] _ q resolved

theorem stat_grown {kind : Kind β} (grown : Grown t t') (found : t.stat p = some kind) :
    t'.stat p = some kind := by
  obtain ⟨place, resolved, there⟩ := Option.bind_eq_some_iff.mp found
  refine Option.bind_eq_some_iff.mpr ⟨place, resolve_grown grown resolved, ?_⟩
  exact (grown place fun nothing => by cases nothing.symm.trans there).trans there

theorem grown_put (x : FileTree β) (absent : t.look p = none) : Grown t (t.put p x) := fun _ found =>
  look_put_of_apart x fun before => found (look_of_before before absent)

theorem grown_createDir (made : t.createDir p = .ok t') : Grown t t' := by
  obtain ⟨place, -, made⟩ := bind_ok_iff.mp made
  match absent : t.look place with
  | none =>
      simp only [absent] at made
      cases made
      exact grown_put folder absent
  | some _ =>
      simp only [absent] at made
      cases made

theorem grown_createNew {content : β} (made : t.createNew p content = .ok t') : Grown t t' := by
  obtain ⟨place, -, made⟩ := bind_ok_iff.mp made
  match absent : t.look place with
  | none =>
      simp only [absent] at made
      cases made
      exact grown_put (file content) absent
  | some _ =>
      simp only [absent] at made
      cases made

theorem grown_foldlM_ensureDir {ps : List Path} (made : ps.foldlM ensureDir t = .ok t') :
    Grown t t' := by
  induction ps generalizing t with
  | nil =>
      cases made
      exact Grown.refl _
  | cons q ps ih =>
      obtain ⟨t₁, first, later⟩ := bind_ok_iff.mp (List.foldlM_cons.symm.trans made)
      refine Grown.trans ?_ (ih later)
      rw [ensureDir] at first
      split at first
      · cases first
        exact Grown.refl _
      · exact grown_createDir first

/-- Only new folders on the way to a path. -/
def Paved (p : Path) (t t' : FileTree β) : Prop :=
  ∀ r, t'.look r = t.look r ∨ (t.look r = none ∧ t'.look r = some .dir ∧ r <+: p)

theorem Paved.refl (p : Path) (t : FileTree β) : Paved p t t := fun _ => .inl rfl

theorem Paved.trans {t₁ t₂ t₃ : FileTree β} (first : Paved p t₁ t₂) (later : Paved p t₂ t₃) :
    Paved p t₁ t₃ := by
  intro r
  rcases first r with same | ⟨absent, made, before⟩
  · rcases later r with same' | ⟨absent', made', before'⟩
    · exact .inl (same'.trans same)
    · exact .inr ⟨same ▸ absent', made', before'⟩
  · rcases later r with same' | ⟨absent', _, _⟩
    · exact .inr ⟨absent, same'.trans made, before⟩
    · cases made.symm.trans absent'

theorem Paved.linkless (paved : Paved p t t') (linkless : t.Linkless q) : t'.Linkless q := by
  intro r before target link
  rcases paved r with same | ⟨_, made, _⟩
  · exact linkless r before target (same ▸ link)
  · cases made.symm.trans link

theorem paved_put (before : q <+: p) (absent : t.look q = none) : Paved p t (t.put q folder) := by
  intro r
  by_cases inside : q <+: r
  · obtain ⟨rest, rfl⟩ := inside
    have nothing : t.look (q ++ rest) = none := look_of_before (List.prefix_append q rest) absent
    rcases List.eq_nil_or_concat' q with rfl | ⟨d, name, rfl⟩
    · match rest with
      | [] => exact .inr ⟨absent, rfl, before⟩
      | first :: rest => exact .inl ((congrArg kind (get_empty rest)).trans nothing.symm)
    · by_cases parent : t.isDir d
      · rw [List.append_assoc] at nothing ⊢
        rw [List.singleton_append, look_put parent]
        match rest with
        | [] => exact .inr ⟨nothing, rfl, before⟩
        | first :: rest => exact .inl ((congrArg kind (get_empty rest)).trans nothing.symm)
      · exact .inl (look_put_of_not_dir folder parent _)
  · exact .inl (look_put_of_apart folder inside)

theorem dropLast_before (before : q <+: p) : q.dropLast <+: p.dropLast := by
  obtain ⟨rest, rfl⟩ := before
  cases rest with
  | nil => rw [List.append_nil]
  | cons x rest =>
      rw [List.dropLast_append_of_ne_nil (List.cons_ne_nil x rest)]
      exact ( List.dropLast_prefix q).trans (List.prefix_append q _)

theorem foldlM_ensureDir {ps : List Path} (each : ∀ q ∈ ps, q <+: p)
    (linkless : t.Linkless p.dropLast) (made : ps.foldlM ensureDir t = .ok t') : Paved p t t' := by
  induction ps generalizing t with
  | nil =>
      cases made
      exact Paved.refl p _
  | cons q ps ih =>
      obtain ⟨t₁, first, later⟩ := bind_ok_iff.mp (List.foldlM_cons.symm.trans made)
      have before := each q List.mem_cons_self
      have paved : Paved p t t₁ := by
        rcases ensureDir_ok (linkless.of_before (dropLast_before before)) first with
          rfl | ⟨absent, rfl⟩
        · exact Paved.refl p t₁
        · exact paved_put before absent
      exact paved.trans (ih (fun q later => each q (List.mem_cons_of_mem _ later))
        (paved.linkless linkless) later)

/-- What was not on the way of new folders is as before. -/
theorem Paved.get_eq (paved : Paved p t t') (apart : ¬ q <+: p) : t'.get q = t.get q := by
  refine get_ext fun r => ?_
  rcases paved (q ++ r) with same | ⟨_, _, before⟩
  · exact same
  · exact absurd ((List.prefix_append q r).trans before) apart

theorem ensureDir_isDir (linkless : t.Linkless p) (below : p ≠ [])
    (made : t.ensureDir p = .ok t') : t'.isDir p := by
  rw [ensureDir] at made
  split at made
  · rename_i directory
    cases made
    rwa [stat_of_linkless linkless below] at directory
  · rcases List.eq_nil_or_concat' p with rfl | ⟨d, name, rfl⟩
    · exact absurd rfl below
    · obtain ⟨parent, _, rfl⟩ :=
        createDir_ok (linkless.of_before (List.prefix_append d [name])) made
      exact look_put parent folder []

/-- Making sure of a directory that is there does nothing. -/
theorem createDirAll_of_leads (leads : t.Leads p root) (directory : t.isDir root)
    (linkless : t.Linkless p.dropLast) (parent : t.isDir p.dropLast) :
    t.createDirAll p = .ok t := by
  have each : ∀ q ∈ p.inits.tail, t.ensureDir q = .ok t := by
    intro q member
    have before := (List.mem_inits q p).mp (List.mem_of_mem_tail member)
    have below : q ≠ [] := by
      rintro rfl
      rcases p with _ | ⟨first, rest⟩
      · cases member
      · rw [List.inits_cons, List.tail_cons] at member
        obtain ⟨_, _, absurd⟩ := List.mem_map.mp member
        cases absurd
    by_cases same : q = p
    · have stat : t.stat p = some .dir := by
        rw [FileTree.stat, leads.reaches directory]
        exact directory
      rw [same, ensureDir, stat]
    · have above : q <+: p.dropLast := by
        obtain ⟨d, name, rfl⟩ := (List.eq_nil_or_concat' p).resolve_left fun nothing =>
          same (List.prefix_nil.mp (nothing ▸ before) |>.trans nothing.symm)
        rw [List.dropLast_concat]
        exact (List.prefix_concat_iff.mp before).resolve_left same
      have there : t.isDir q := by
        by_cases last : q = p.dropLast
        · exact last ▸ parent
        · exact isDir_of_before above last fun absent => by cases absent.symm.trans parent
      rw [ensureDir, stat_of_linkless (linkless.of_before above) below, there]
  rw [createDirAll]
  generalize p.inits.tail = ps at each
  induction ps with
  | nil => rfl
  | cons q ps ih =>
      rw [List.foldlM_cons, each q List.mem_cons_self]
      exact ih fun q later => each q (List.mem_cons_of_mem _ later)

theorem createDirAll_of_isDir (linkless : t.Linkless p) (directory : t.isDir p) :
    t.createDirAll p = .ok t := by
  refine createDirAll_of_leads linkless.leads directory linkless.dropLast ?_
  rcases List.eq_nil_or_concat' p with rfl | ⟨d, name, rfl⟩
  · exact directory
  · rw [List.dropLast_concat]
    exact isDir_of_look (List.cons_ne_nil name []) fun nothing => by cases nothing.symm.trans directory

theorem paved_createDirAll (linkless : t.Linkless p.dropLast) (made : t.createDirAll p = .ok t') :
    Paved p t t' :=
  foldlM_ensureDir (fun q member => (List.mem_inits q p).mp (List.mem_of_mem_tail member)) linkless
    made

theorem isDir_of_createDirAll (linkless : t.Linkless (d ++ [name]))
    (made : t.createDirAll (d ++ [name]) = .ok t') : t'.isDir (d ++ [name]) := by
  have split : (d ++ [name]).inits.tail = d.inits.tail ++ [d ++ [name]] := by
    rw [List.inits_append, List.tail_append_of_ne_nil]
    · rfl
    · cases d <;> simp
  rw [createDirAll, split, List.foldlM_append] at made
  obtain ⟨t₁, first, last⟩ := bind_ok_iff.mp made
  rw [List.foldlM_cons] at last
  obtain ⟨t₂, last, same⟩ := bind_ok_iff.mp last
  cases same
  have paved : Paved (d ++ [name]) t t₁ := foldlM_ensureDir (fun q member =>
    ((List.mem_inits q d).mp (List.mem_of_mem_tail member)).trans (List.prefix_append d [name]))
    (linkless.of_before ( List.dropLast_prefix _)) first
  exact ensureDir_isDir (paved.linkless linkless) (by simp) last

/-- The folders on the way to a path that was made sure of. -/
theorem isDir_createDirAll (linkless : t.Linkless (d ++ [name]))
    (made : t.createDirAll (d ++ [name]) = .ok t') (before : q <+: d ++ [name]) : t'.isDir q := by
  have last := isDir_of_createDirAll linkless made
  by_cases same : q = d ++ [name]
  · exact same ▸ last
  · exact isDir_of_before before same fun absent => by cases absent.symm.trans last

/-- Only what stands at a path or below it changed. -/
def Within (p : Path) (t t' : FileTree β) : Prop := ∀ q, ¬ p <+: q → t'.look q = t.look q

theorem within_put (p : Path) (x : FileTree β) : Within p t (t.put p x) :=
  fun _ apart => look_put_of_apart x apart

theorem Within.trans {t₁ t₂ t₃ : FileTree β} (first : Within p t₁ t₂) (later : Within p t₂ t₃) :
    Within p t₁ t₃ := fun q apart => (later q apart).trans (first q apart)

theorem Within.get_of_apart (within : Within p t t') (apart : ¬ p <+: q) (beside : ¬ q <+: p) :
    t'.get q = t.get q := by
  refine get_ext fun r => within (q ++ r) fun inside => ?_
  rcases List.prefix_or_prefix_of_prefix inside (List.prefix_append q r) with before | before
  · exact apart before
  · exact beside before

theorem look_prune {removed : List Path} (apart : ∀ r ∈ removed, ¬ p ++ r <+: q) :
    (t.prune p removed).look q = t.look q := by
  induction removed generalizing t with
  | nil => rfl
  | cons r removed ih =>
      rw [prune, List.foldl_cons]
      refine (ih fun r' later => apart r' (List.mem_cons_of_mem _ later)).trans ?_
      exact look_put_of_apart _ (apart r List.mem_cons_self)

theorem within_prune (removed : List Path) : Within p t (t.prune p removed) := fun _ apart =>
  look_prune fun r _ inside => apart ((List.prefix_append p r).trans inside)

theorem removeDirAll_within (leads : t.Leads d root)
    (removed : t.removeDirAll (d ++ [name]) = .ok t') : Within (root ++ [name]) t t' := by
  obtain ⟨place, placed, removed⟩ := bind_ok_iff.mp removed
  obtain ⟨rfl, -⟩ := place_of_leads leads placed
  rcases kind : t.look (root ++ [name]) with _ | content | target | _ <;>
    simp only [kind] at removed <;> cases removed
  · exact within_put _ _
  · exact within_put _ _

end FileTree

namespace Change
variable {t t' : FileTree β} {p : Path}

/-- A change that is made whole or not at all. -/
def Atomic : Change β → Prop
  | .createDirAll _ | .writeAll .. | .write .. | .removeDirAll _ => False
  | _ => True

theorem MayLeave.eq {c : Change β} (left : c.MayLeave t t') (atomic : c.Atomic) : t' = t := by
  obtain ⟨fate, e, left⟩ := left
  cases c with
  | createDirAll | writeAll | write | removeDirAll => exact atomic.elim
  | createDir | createNew | syncAll | rename | removeFile =>
      cases fate with
      | fails => cases left; rfl
      | proceeds | named | failsAfter | failsLeaving | failsPartway => cases left

theorem MayLeave.writeAll {content : β} (left : (Change.writeAll p content).MayLeave t t') :
    t' = t ∨ ∃ part, t.overwrite p part = .ok t' := by
  obtain ⟨fate, e, left⟩ := left
  cases fate with
  | fails => cases left; exact .inl rfl
  | failsLeaving part =>
      refine .inr ⟨part, ?_⟩
      simp only [Change.remains] at left
      split at left
      · cases left
        assumption
      · cases left
  | proceeds | named | failsAfter | failsPartway => cases left

theorem MayLeave.write {content : β} (left : (Change.write p content).MayLeave t t') :
    t' = t ∨ ∃ part, t.write p part = .ok t' := by
  obtain ⟨fate, e, left⟩ := left
  cases fate with
  | fails => cases left; exact .inl rfl
  | failsLeaving part =>
      refine .inr ⟨part, ?_⟩
      simp only [Change.remains] at left
      split at left
      · cases left
        assumption
      · cases left
  | proceeds | named | failsAfter | failsPartway => cases left

theorem MayLeave.createDirAll (left : (Change.createDirAll p).MayLeave t t') :
    ∃ n, (p.inits.tail.take n).foldlM FileTree.ensureDir t = .ok t' := by
  obtain ⟨fate, e, left⟩ := left
  cases fate with
  | fails => cases left; exact ⟨0, rfl⟩
  | failsAfter n =>
      refine ⟨n, ?_⟩
      simp only [Change.remains] at left
      split at left
      · cases left
        assumption
      · cases left
  | proceeds | named | failsLeaving | failsPartway => cases left

/-- A removal of a directory that gives up leaves the directory, without some of its entries. -/
theorem MayLeave.removeDirAll (left : (Change.removeDirAll p).MayLeave t t') :
    t' = t ∨ ∃ place removed, t.place p = .ok place ∧ t.isDir place ∧ [] ∉ removed ∧
      t' = t.prune place removed := by
  obtain ⟨fate, e, left⟩ := left
  cases fate with
  | fails => cases left; exact .inl rfl
  | failsPartway removed =>
      simp only [Change.remains] at left
      split at left
      · rename_i place placed
        split at left
        · rename_i directory
          split_ifs at left with inside
          cases left
          exact .inr ⟨place, removed, placed, directory, inside, rfl⟩
        · cases left
      · cases left
  | proceeds | named | failsAfter | failsLeaving => cases left

theorem paved_of_createDirAll [Inhabited β] (linkless : t.Linkless p.dropLast)
    (made : (Change.createDirAll p).apply t = .ok t' ∨ (Change.createDirAll p).MayLeave t t' ∨
      t' = t) : FileTree.Paved p t t' := by
  have each : ∀ q ∈ p.inits.tail, q <+: p := fun q member =>
    (List.mem_inits q p).mp (List.mem_of_mem_tail member)
  rcases made with made | left | rfl
  · exact FileTree.foldlM_ensureDir each linkless made
  · obtain ⟨n, made⟩ := left.createDirAll
    exact FileTree.foldlM_ensureDir (fun q member => each q (List.mem_of_mem_take member)) linkless
      made
  · exact FileTree.Paved.refl p _

end Change

section
variable {ε : Type}

/-- Whether the reply is an error. -/
def FileOp.refuses : (op : FileOp β) → op.Reply → Bool
  | .test _, _ => false
  | .readDir _, reply => !reply.isOk
  | .read _, reply => !reply.isOk
  | .survey, reply => !reply.isOk
  | .tempDirIn .., reply => !reply.isOk
  | .dropDir _, _ => false
  | .change _, reply => !reply.isOk

/-- An operation that was refused, other than in undoing earlier ones. -/
def Refused (entry : FileEntry β) : Prop :=
  entry.op.undo = false ∧ entry.op.op.refuses entry.reply = true

def Accepted (entry : FileEntry β) : Prop := ¬ Refused entry

theorem refused_changed {c : Change β} {e : IoError} : Refused (changed c false (.error e)) :=
  ⟨rfl, rfl⟩

/-- Some operation was refused. -/
def Faulted (journal : List (FileEntry β)) : Prop := ∃ entry ∈ journal, Refused entry

theorem faulted_concat {journal : List (FileEntry β)} {c : Change β} {e : IoError} :
    Faulted (journal ++ [changed c false (.error e)]) :=
  ⟨_, List.mem_append_right _ (List.mem_singleton.mpr rfl), refused_changed⟩

theorem faulted_of_fails {ε α : Type} {exec : (call : FileCall β) → Fate β → FileTree β →
    Option (FileTree β × call.Reply)} {allow : FileCall β → Fate β → FileTree β → Prop}
    {x : FileAction β ε α} (succeeds : x.Succeeds Accepted) {t t' : FileTree β}
    {journal : List (FileEntry β)} {e : ε} (run : x.run.Logs exec allow t journal (.error e) t') :
    Faulted journal := by
  by_contra fine
  obtain ⟨a, same⟩ := Interaction.Prog.Ends.logs succeeds run fun entry member refused =>
    fine ⟨entry, member, refused⟩
  cases same

/-- An accepted operation that undoes nothing. -/
def Forward (entry : FileEntry β) : Prop := entry.op.undo = false ∧ Accepted entry

theorem succeeds_test {question : Test} :
    (test false question : FileAction β ε Bool).Succeeds Accepted := fun answer _ => ⟨answer, rfl⟩

theorem succeeds_readFile {p : Path} : (readFile p : FileAction β IoError β).Succeeds Accepted
  | .ok content, _ => ⟨content, rfl⟩
  | .error _, accepted => absurd ⟨rfl, rfl⟩ accepted

theorem succeeds_change {c : Change β} : (change c : FileAction β IoError Unit).Succeeds Accepted
  | .ok _, _ => ⟨(), rfl⟩
  | .error _, accepted => absurd refused_changed accepted

theorem clean_test {question : Test} :
    (test false question : FileAction β ε Bool).Clean Forward :=
  fun _ => .inl ⟨⟨rfl, nofun⟩, trivial⟩

theorem clean_dropDir {p : Path} : (dropDir p : FileAction β ε Unit).Clean Forward
  | .ok _ => .inl ⟨⟨rfl, nofun⟩, trivial⟩
  | .error _ => .inl ⟨⟨rfl, nofun⟩, trivial⟩

theorem clean_readDir {p : Path} : (readDir p : FileAction β IoError _).Clean Forward
  | .ok _ => .inl ⟨⟨rfl, nofun⟩, trivial⟩
  | .error _ => .inr nofun

theorem clean_readFile {p : Path} : (readFile p : FileAction β IoError β).Clean Forward
  | .ok _ => .inl ⟨⟨rfl, nofun⟩, trivial⟩
  | .error _ => .inr nofun

theorem clean_survey : (survey : FileAction β IoError _).Clean Forward
  | .ok _ => .inl ⟨⟨rfl, nofun⟩, trivial⟩
  | .error _ => .inr nofun

theorem clean_tempDirIn {parent : Path} {start : String} :
    (tempDirIn parent start : FileAction β IoError Path).Clean Forward
  | .ok _ => .inl ⟨⟨rfl, nofun⟩, trivial⟩
  | .error _ => .inr nofun

theorem clean_change {c : Change β} : (change c : FileAction β IoError Unit).Clean Forward
  | .ok _ => .inl ⟨⟨rfl, nofun⟩, trivial⟩
  | .error _ => .inr nofun

end
end HeliumSync.Files
