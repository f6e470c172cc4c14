import HeliumSync.Ordered
import Mathlib.Data.String.Basic

/-! A directory tree with symbolic links: what stands at a path, putting something else there, and
finding where a path leads. -/
namespace HeliumSync.Files

abbrev Path := List String

instance Path.decidableMem (p : Path) (paths : List Path) : Decidable (p ∈ paths) :=
  List.instDecidableMemOfLawfulBEq p paths

/-- Where a symbolic link leads, from the root or from the directory that holds it. A step up
is `none`. -/
structure Target where
  absolute : Bool
  steps : List (Option String)
  deriving DecidableEq

inductive Node (β : Type) where
  | file (content : β)
  | link (target : Target)
  | dir (entries : List (String × Node β))

/-- What stands at one place, what a directory holds apart. -/
inductive Kind (β : Type) where
  | file (content : β)
  | link (target : Target)
  | dir
  deriving DecidableEq

variable {β : Type}

namespace Node

def kind : Node β → Kind β
  | .file content => .file content
  | .link target => .link target
  | .dir _ => .dir

def entries : Node β → List (String × Node β)
  | .dir entries => entries
  | _ => []

mutual
/-- Every directory lists its entries by ascending names. -/
def Sorted : Node β → Prop
  | .dir entries => Ordered.Ascending Prod.fst entries ∧ SortedAll entries
  | _ => True

def SortedAll : List (String × Node β) → Prop
  | [] => True
  | (_, node) :: entries => node.Sorted ∧ SortedAll entries
end

theorem sortedAll_iff {entries : List (String × Node β)} :
    SortedAll entries ↔ ∀ entry ∈ entries, entry.2.Sorted := by
  induction entries with
  | nil => simp [SortedAll]
  | cons entry entries ih => simp [SortedAll, ih]

end Node

/-- What stands at a place, if anything does. -/
abbrev Slot (β : Type) := Option (Node β)

/-- The entry of a name in what stands at a place. -/
def child : Slot β → String → Slot β
  | some (.dir entries), name => (Keyed.get Prod.fst entries name).map Prod.snd
  | _, _ => none

def setEntry (name : String) : Slot β → List (String × Node β) → List (String × Node β)
  | some node, entries => Ordered.insert Prod.fst (name, node) (entries.filter (·.1 ≠ name))
  | none, entries => entries.filter (·.1 ≠ name)

def setChild (name : String) (slot : Slot β) : Slot β → Slot β
  | some (.dir entries) => some (.dir (setEntry name slot entries))
  | other => other

def SlotSorted (slot : Slot β) : Prop := ∀ node, slot = some node → node.Sorted

theorem get_filter_ne (name : String) (entries : List (String × Node β)) (other : String) :
    Keyed.get Prod.fst (entries.filter (·.1 ≠ name)) other =
      if other = name then none else Keyed.get Prod.fst entries other := by
  induction entries with
  | nil => simp
  | cons entry entries ih =>
      by_cases same : entry.1 = name
      · rw [List.filter_cons_of_neg (by simpa using same), ih]
        split_ifs with this
        · rfl
        · simp [Keyed.get, same, Ne.symm this]
      · rw [List.filter_cons_of_pos (by simpa using same), Keyed.get, Keyed.get, ih]
        by_cases this : other = name
        · rw [if_pos this, if_pos this, if_neg fun here => same (here.trans this)]
          rfl
        · rw [if_neg this, if_neg this]

theorem get_setEntry (name : String) (slot : Slot β) (entries : List (String × Node β))
    (other : String) :
    (Keyed.get Prod.fst (setEntry name slot entries) other).map Prod.snd =
      if other = name then slot else (Keyed.get Prod.fst entries other).map Prod.snd := by
  cases slot with
  | none =>
      rw [setEntry, get_filter_ne]
      split_ifs <;> rfl
  | some node =>
      rw [setEntry]
      split_ifs with same
      · subst same
        have absent : Keyed.get Prod.fst (entries.filter (·.1 ≠ other)) other = none := by
          rw [get_filter_ne, if_pos rfl]
        rw [Ordered.get_insert_self (Keyed.get_eq_none_iff.mp absent)]
        rfl
      · rw [Ordered.get_insert_of_ne (x := (name, node)) same, get_filter_ne, if_neg same]

theorem child_setChild (name : String) (slot : Slot β) {parent : Slot β}
    (directory : parent.map Node.kind = some .dir) (other : String) :
    child (setChild name slot parent) other = if other = name then slot else child parent other := by
  match parent, directory with
  | some (.dir entries), _ => exact get_setEntry name slot entries other

theorem kind_setChild (name : String) (slot parent : Slot β) :
    (setChild name slot parent).map Node.kind = parent.map Node.kind := by
  match parent with
  | some (.dir _) | some (.file _) | some (.link _) | none => rfl

theorem setChild_of_not_dir {name : String} {slot parent : Slot β}
    (other : parent.map Node.kind ≠ some .dir) : setChild name slot parent = parent := by
  match parent with
  | some (.dir _) => exact absurd rfl other
  | some (.file _) | some (.link _) | none => rfl

theorem ascending_filter {entries : List (String × Node β)} (p : String × Node β → Bool)
    (ascending : Ordered.Ascending Prod.fst entries) :
    Ordered.Ascending Prod.fst (entries.filter p) :=
  List.Pairwise.sublist (List.filter_sublist.map Prod.fst) ascending

theorem SlotSorted.child {slot : Slot β} (sorted : SlotSorted slot) (name : String) :
    SlotSorted (child slot name) := by
  intro node found
  match slot with
  | some (.dir entries) =>
      obtain ⟨entry, held, rfl⟩ := Option.map_eq_some_iff.mp found
      exact Node.sortedAll_iff.mp (sorted _ rfl).2 entry (Keyed.get_mem held).1
  | some (.file _) | some (.link _) | none => cases found

theorem SlotSorted.setChild {name : String} {slot parent : Slot β} (inner : SlotSorted slot)
    (sorted : SlotSorted parent) : SlotSorted (setChild name slot parent) := by
  match parent with
  | some (.dir entries) =>
      obtain ⟨ascending, each⟩ := sorted _ rfl
      have others := ascending_filter (·.1 ≠ name) ascending
      have kept := fun entry (member : entry ∈ entries.filter (·.1 ≠ name)) =>
        Node.sortedAll_iff.mp each entry (List.mem_filter.mp member).1
      intro node same
      cases same
      cases slot with
      | none => exact ⟨others, Node.sortedAll_iff.mpr kept⟩
      | some node =>
          refine ⟨Ordered.ascending_insert others _, Node.sortedAll_iff.mpr fun entry member => ?_⟩
          rcases Ordered.mem_of_mem_insert member with rfl | before
          · exact inner node rfl
          · exact kept entry before
  | some (.file _) | some (.link _) | none => exact sorted

/-- A tree whose directories are sorted; a subtree is one too, and so is nothing at all. -/
structure FileTree (β : Type) where
  slot : Slot β
  sorted : SlotSorted slot

namespace FileTree

def empty : FileTree β := ⟨none, nofun⟩

def file (content : β) : FileTree β := ⟨some (.file content), fun _ same => by cases same; trivial⟩

def symlink (target : Target) : FileTree β :=
  ⟨some (.link target), fun _ same => by cases same; trivial⟩

/-- A new directory. -/
def folder : FileTree β :=
  ⟨some (.dir []), fun _ same => by cases same; exact ⟨List.Pairwise.nil, trivial⟩⟩

def kind (t : FileTree β) : Option (Kind β) := t.slot.map Node.kind

/-- The names a directory lists. -/
def names (t : FileTree β) : List String :=
  match t.slot with
  | some node => node.entries.map Prod.fst
  | none => []

def child (t : FileTree β) (name : String) : FileTree β :=
  ⟨Files.child t.slot name, t.sorted.child name⟩

def setChild (t : FileTree β) (name : String) (x : FileTree β) : FileTree β :=
  ⟨Files.setChild name x.slot t.slot, x.sorted.setChild t.sorted⟩

def get (t : FileTree β) : Path → FileTree β
  | [] => t
  | name :: rest => (t.child name).get rest

def put (t : FileTree β) : Path → FileTree β → FileTree β
  | [], x => x
  | name :: rest, x => t.setChild name ((t.child name).put rest x)

/-- What stands at a path. -/
def look (t : FileTree β) (p : Path) : Option (Kind β) := (t.get p).kind

def isDir (t : FileTree β) (p : Path) : Prop := t.look p = some .dir

theorem ext_slot {s t : FileTree β} (same : s.slot = t.slot) : s = t := by
  cases s
  cases t
  cases same
  rfl

@[simp] theorem kind_empty : (empty : FileTree β).kind = none := rfl
@[simp] theorem kind_file (content : β) : (file content).kind = some (.file content) := rfl
@[simp] theorem kind_folder : (folder : FileTree β).kind = some .dir := rfl
@[simp] theorem get_nil (t : FileTree β) : t.get [] = t := rfl

theorem kind_eq_none_iff {t : FileTree β} : t.kind = none ↔ t = empty :=
  ⟨fun none => ext_slot (Option.map_eq_none_iff.mp none), fun same => same ▸ rfl⟩

theorem child_of_not_dir {t : FileTree β} (other : t.kind ≠ some .dir) (name : String) :
    t.child name = empty := by
  apply ext_slot
  match t, other with
  | ⟨some (.dir _), _⟩, other => exact absurd rfl other
  | ⟨some (.file _), _⟩, _ | ⟨some (.link _), _⟩, _ | ⟨none, _⟩, _ => rfl

theorem child_folder (name : String) : (folder : FileTree β).child name = empty := rfl

theorem get_append (t : FileTree β) (p q : Path) : t.get (p ++ q) = (t.get p).get q := by
  induction p generalizing t with
  | nil => rfl
  | cons name rest ih => exact ih (t.child name)

theorem get_empty (p : Path) : (empty : FileTree β).get p = empty := by
  induction p with
  | nil => rfl
  | cons name rest ih => exact ih

theorem get_of_not_dir {t : FileTree β} (other : t.kind ≠ some .dir) {p : Path} (below : p ≠ []) :
    t.get p = empty := by
  match p with
  | name :: rest =>
      rw [get, child_of_not_dir other]
      exact get_empty rest

/-- Above something there are directories. -/
theorem isDir_of_get {t : FileTree β} {p q : Path} (below : q ≠ [])
    (found : t.get (p ++ q) ≠ empty) : t.isDir p := by
  by_contra other
  rw [get_append] at found
  exact found (get_of_not_dir other below)

theorem child_setChild {t : FileTree β} (directory : t.kind = some .dir) (name : String)
    (x : FileTree β) (other : String) :
    (t.setChild name x).child other = if other = name then x else t.child other := by
  apply ext_slot
  refine (Files.child_setChild name x.slot directory other).trans ?_
  split_ifs <;> rfl

theorem kind_setChild (t : FileTree β) (name : String) (x : FileTree β) :
    (t.setChild name x).kind = t.kind := Files.kind_setChild name x.slot t.slot

theorem setChild_of_not_dir {t : FileTree β} (other : t.kind ≠ some .dir) (name : String)
    (x : FileTree β) : t.setChild name x = t := ext_slot (Files.setChild_of_not_dir other)

/-- Nothing can be put where there is no directory. -/
theorem look_put_of_not_dir {t : FileTree β} {d : Path} {name : String} (x : FileTree β)
    (other : ¬ t.isDir d) (r : Path) : (t.put (d ++ [name]) x).look r = t.look r := by
  induction d generalizing t r with
  | nil =>
      change (t.setChild name x).look r = _
      rw [setChild_of_not_dir (show t.kind ≠ some .dir from other)]
  | cons first rest ih =>
      match r with
      | [] => exact kind_setChild t first _
      | next :: r =>
          change (((t.setChild first _).child next).get r).kind = _
          by_cases directory : t.kind = some .dir
          · rw [child_setChild directory]
            split_ifs with same
            · subst same
              exact ih other r
            · rfl
          · rw [setChild_of_not_dir directory]
            rfl

/-- What was put somewhere stands there. -/
theorem get_put {t : FileTree β} {d : Path} {name : String} (parent : t.isDir d) (x : FileTree β)
    (q : Path) : (t.put (d ++ [name]) x).get (d ++ name :: q) = x.get q := by
  induction d generalizing t with
  | nil =>
      change ((t.setChild name x).child name).get q = _
      rw [child_setChild (show t.kind = some .dir from parent), if_pos rfl]
  | cons first rest ih =>
      have directory : t.kind = some .dir := by
        refine isDir_of_get (p := []) (List.cons_ne_nil first rest) fun nothing => ?_
        have absent : t.look (first :: rest) = none := congrArg kind nothing
        rw [parent] at absent
        cases absent
      change ((t.setChild first _).child first).get (rest ++ name :: q) = _
      rw [child_setChild directory, if_pos rfl]
      exact ih parent

/-- Nothing changes beside the place where something was put. -/
theorem get_put_of_apart {t : FileTree β} {p q : Path} (x : FileTree β) (apart : ¬ p <+: q)
    (beside : ¬ q <+: p) : (t.put p x).get q = t.get q := by
  induction p generalizing t q with
  | nil => exact absurd List.nil_prefix apart
  | cons name rest ih =>
      match q with
      | [] => exact absurd List.nil_prefix beside
      | other :: q =>
          change ((t.setChild name _).child other).get q = _
          by_cases directory : t.kind = some .dir
          · rw [child_setChild directory]
            split_ifs with same
            · subst same
              exact ih (fun before => apart (List.cons_prefix_cons.mpr ⟨rfl, before⟩))
                fun before => beside (List.cons_prefix_cons.mpr ⟨rfl, before⟩)
            · rfl
          · rw [setChild_of_not_dir directory]
            rfl

/-- Putting something changes no kind but there and below. -/
theorem look_put_of_apart {t : FileTree β} {p q : Path} (x : FileTree β) (apart : ¬ p <+: q) :
    (t.put p x).look q = t.look q := by
  induction p generalizing t q with
  | nil => exact absurd List.nil_prefix apart
  | cons name rest ih =>
      match q with
      | [] => exact kind_setChild t name _
      | other :: q =>
          change (((t.setChild name _).child other).get q).kind = _
          by_cases directory : t.kind = some .dir
          · rw [child_setChild directory]
            split_ifs with same
            · subst same
              exact ih fun before => apart (List.cons_prefix_cons.mpr ⟨rfl, before⟩)
            · rfl
          · rw [setChild_of_not_dir directory]
            rfl

def ofNode (node : Node β) (sorted : node.Sorted) : FileTree β :=
  ⟨some node, fun _ same => by cases same; exact sorted⟩

theorem child_ofNode_dir {entries : List (String × Node β)} (sorted : (Node.dir entries).Sorted)
    (name : String) :
    (Keyed.get Prod.fst entries name = none ∧ (ofNode (.dir entries) sorted).child name = empty) ∨
      ∃ entry ∈ entries, ∃ below : entry.2.Sorted, Keyed.get Prod.fst entries name = some entry ∧
        entry.1 = name ∧ (ofNode (.dir entries) sorted).child name = ofNode entry.2 below := by
  cases held : Keyed.get Prod.fst entries name with
  | none => exact .inl ⟨rfl, ext_slot (congrArg (Option.map Prod.snd) held)⟩
  | some entry =>
      obtain ⟨member, same⟩ := Keyed.get_mem held
      exact .inr ⟨entry, member, Node.sortedAll_iff.mp sorted.2 entry member, rfl, same,
        ext_slot (congrArg (Option.map Prod.snd) held)⟩

mutual
theorem node_ext : ∀ (x : Node β) (sorted : x.Sorted) (y : Node β) (sorted' : y.Sorted),
    (∀ p, (ofNode x sorted).look p = (ofNode y sorted').look p) → x = y
  | .file _, _, y, _, same | .link _, _, y, _, same => by
      have top := same []
      match y with
      | .file _ | .link _ => cases top <;> rfl
      | .dir _ => cases top
  | .dir xs, sorted, y, sorted', same => by
      have top := same []
      match y with
      | .file _ | .link _ => cases top
      | .dir ys =>
          have below (name : String) (p : Path) :
              ((ofNode (.dir xs) sorted).child name).look p =
                ((ofNode (.dir ys) sorted').child name).look p := same (name :: p)
          refine congrArg Node.dir (Ordered.ext_of_get sorted.1 sorted'.1 fun name => ?_)
          rcases child_ofNode_dir sorted name with ⟨none, child⟩ | ⟨x, mx, sx, held, named, child⟩ <;>
            rcases child_ofNode_dir sorted' name with
              ⟨none', child'⟩ | ⟨y, _, sy, held', named', child'⟩
          · rw [none, none']
          · have nothing := below name []
            rw [child, child'] at nothing
            cases nothing
          · have nothing := below name []
            rw [child, child'] at nothing
            cases nothing
          · have nodes := nodes_ext xs x mx sx y.2 sy fun p => by
              have here := below name p
              rwa [child, child'] at here
            rw [held, held', ← Prod.eta x, ← Prod.eta y, nodes, named, named']

theorem nodes_ext : ∀ (entries : List (String × Node β)), ∀ x ∈ entries, ∀ (sorted : x.2.Sorted)
    (y : Node β) (sorted' : y.Sorted),
    (∀ p, (ofNode x.2 sorted).look p = (ofNode y sorted').look p) → x.2 = y
  | (_, node) :: entries, x, member, sorted, y, sorted', same => by
      rcases List.mem_cons.mp member with rfl | later
      · exact node_ext node sorted y sorted' same
      · exact nodes_ext entries x later sorted y sorted' same
end

/-- Trees that look the same everywhere are the same. -/
theorem ext_look {s t : FileTree β} (same : ∀ p, s.look p = t.look p) : s = t := by
  have top := same []
  match s, t with
  | ⟨none, _⟩, ⟨none, _⟩ => rfl
  | ⟨none, _⟩, ⟨some _, _⟩ | ⟨some _, _⟩, ⟨none, _⟩ => cases top
  | ⟨some x, sx⟩, ⟨some y, sy⟩ =>
      exact ext_slot (congrArg some (node_ext x (sx x rfl) y (sy y rfl) same))

/-- What stands below a path is what is seen there. -/
theorem get_ext {s t : FileTree β} {p q : Path} (same : ∀ r, s.look (p ++ r) = t.look (q ++ r)) :
    s.get p = t.get q := by
  refine ext_look fun r => ?_
  rw [look, look, ← get_append, ← get_append]
  exact same r

theorem mem_names_iff {t : FileTree β} {name : String} :
    name ∈ t.names ↔ (t.child name).kind ≠ none := by
  match t with
  | ⟨some (.dir entries), _⟩ =>
      change name ∈ entries.map Prod.fst ↔ ((Keyed.get Prod.fst entries name).map Prod.snd).map
        Node.kind ≠ none
      rw [← not_iff_not, ← Keyed.get_eq_none_iff]
      simp
  | ⟨some (.file _), _⟩ | ⟨some (.link _), _⟩ | ⟨none, _⟩ =>
      simp [names, Node.entries, child, Files.child, kind]

theorem look_put {t : FileTree β} {d : Path} {name : String} (parent : t.isDir d) (x : FileTree β)
    (q : Path) : (t.put (d ++ [name]) x).look (d ++ name :: q) = x.look q :=
  congrArg kind (get_put parent x q)

end FileTree
end HeliumSync.Files
