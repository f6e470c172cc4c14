import HeliumSync.FileTree
import HeliumSync.Interaction

/-! File operations: what each does to a directory tree, how it may fail, and what it does where no
symbolic link stands on the way. -/
namespace HeliumSync.Files
open Interaction (Prog Action Entry Contract)

/-- `io::Error` -/
inductive IoError where
  | notFound
  | alreadyExists
  | notADirectory
  | isADirectory
  | directoryNotEmpty
  | invalidInput
  | other (details : String)
  deriving DecidableEq, Repr

def IoError.message : IoError → String
  | notFound => "No such file or directory (os error 2)"
  | alreadyExists => "File exists (os error 17)"
  | notADirectory => "Not a directory (os error 20)"
  | isADirectory => "Is a directory (os error 21)"
  | directoryNotEmpty => "Directory not empty (os error 39)"
  | invalidInput => "Invalid argument (os error 22)"
  | other details => details

variable {β : Type}

namespace FileTree

/-- Where the steps lead from a directory; `jump` goes on from a symbolic link. -/
def follow (t : FileTree β) (jump : Path → List (Option String) → Option Path) :
    Path → List (Option String) → Option Path
  | here, [] => some here
  | here, none :: rest => t.follow jump here.dropLast rest
  | here, some name :: rest =>
      match t.look (here ++ [name]) with
      | none => none
      | some (.link target) => jump (if target.absolute then [] else here) (target.steps ++ rest)
      | some (.file _) => if rest.isEmpty then some (here ++ [name]) else none
      | some .dir => t.follow jump (here ++ [name]) rest

def resolveWithin (t : FileTree β) : Nat → Path → List (Option String) → Option Path
  | 0 => t.follow fun _ _ => none
  | hops + 1 => t.follow (t.resolveWithin hops)

/-- The place a path leads to, after at most 40 symbolic links. -/
def resolve (t : FileTree β) (p : Path) : Option Path := t.resolveWithin 40 [] (p.map some)

/-- The place that a path names itself, where its last name may be a symbolic link or nothing. -/
def place (t : FileTree β) (p : Path) : Except IoError Path :=
  match p.getLast? with
  | none => .error .invalidInput
  | some name =>
      match t.resolve p.dropLast with
      | none => .error .notFound
      | some parent =>
          match t.look parent with
          | some .dir => .ok (parent ++ [name])
          | _ => .error .notADirectory

/-- What stands at the place that a path names itself. -/
def entry (t : FileTree β) (p : Path) : FileTree β :=
  match t.place p with
  | .ok place => t.get place
  | .error _ => empty

/-- `fs::metadata` -/
def stat (t : FileTree β) (p : Path) : Option (Kind β) := (t.resolve p).bind t.look

/-- `fs::symlink_metadata` -/
def lstat (t : FileTree β) (p : Path) : Option (Kind β) :=
  match t.place p with
  | .ok place => t.look place
  | .error _ => none

/-- `fs::create_dir` -/
def createDir (t : FileTree β) (p : Path) : Except IoError (FileTree β) := do
  let place ← t.place p
  match t.look place with
  | none => return t.put place folder
  | some _ => throw .alreadyExists

/-- One folder of `fs::create_dir_all`. -/
def ensureDir (t : FileTree β) (p : Path) : Except IoError (FileTree β) :=
  match t.stat p with
  | some .dir => .ok t
  | _ => t.createDir p

/-- `fs::create_dir_all` -/
def createDirAll (t : FileTree β) (p : Path) : Except IoError (FileTree β) :=
  p.inits.tail.foldlM ensureDir t

/-- `OpenOptions::create_new` -/
def createNew (t : FileTree β) (p : Path) (content : β) : Except IoError (FileTree β) := do
  let place ← t.place p
  match t.look place with
  | none => return t.put place (file content)
  | some _ => throw .alreadyExists

/-- Writing into a file that exists. -/
def overwrite (t : FileTree β) (p : Path) (content : β) : Except IoError (FileTree β) :=
  match t.resolve p with
  | none => .error .notFound
  | some place =>
      match t.look place with
      | some (.file _) => .ok (t.put place (file content))
      | _ => .error .isADirectory

/-- `fs::write` -/
def write (t : FileTree β) (p : Path) (content : β) : Except IoError (FileTree β) :=
  match t.stat p with
  | none => t.createNew p content
  | some _ => t.overwrite p content

def move (t : FileTree β) (src dst : Path) : FileTree β :=
  (t.put src empty).put dst (t.get src)

/-- `fs::rename` -/
def rename (t : FileTree β) (src dst : Path) : Except IoError (FileTree β) := do
  let src ← t.place src
  let dst ← t.place dst
  match t.look src with
  | none => throw .notFound
  | some kind =>
      if src = dst then return t
      else if src <+: dst then throw .invalidInput
      else
        match kind, t.look dst with
        | _, none => return t.move src dst
        | .dir, some .dir =>
            if (t.get dst).names.isEmpty then return t.move src dst else throw .directoryNotEmpty
        | .dir, some _ => throw .notADirectory
        | _, some .dir => throw .isADirectory
        | _, some _ => return t.move src dst

/-- `fs::remove_file` -/
def removeFile (t : FileTree β) (p : Path) : Except IoError (FileTree β) := do
  let place ← t.place p
  match t.look place with
  | none => throw .notFound
  | some .dir => throw .isADirectory
  | some _ => return t.put place empty

/-- `fs::remove_dir_all` -/
def removeDirAll (t : FileTree β) (p : Path) : Except IoError (FileTree β) := do
  let place ← t.place p
  match t.look place with
  | none => throw .notFound
  | some (.file _) => throw .notADirectory
  | some _ => return t.put place empty

/-- A directory without what stands at these paths in it. -/
def prune (t : FileTree β) (p : Path) (removed : List Path) : FileTree β :=
  removed.foldl (fun t q => t.put (p ++ q) empty) t

/-- `fs::read_dir` -/
def readDir (t : FileTree β) (p : Path) : Except IoError (List String) :=
  match t.resolve p with
  | none => .error .notFound
  | some place =>
      match t.look place with
      | some .dir => .ok (t.get place).names
      | _ => .error .notADirectory

/-- `fs::read` -/
def read (t : FileTree β) (p : Path) : Except IoError β :=
  match t.stat p with
  | none => .error .notFound
  | some (.file content) => .ok content
  | some _ => .error .isADirectory

/-- No symbolic link stands on the way to a path or at its end. -/
def Linkless (t : FileTree β) (p : Path) : Prop :=
  ∀ q, q <+: p → ∀ target, t.look q ≠ some (.link target)

theorem Linkless.of_before {t : FileTree β} {p q : Path} (linkless : t.Linkless p) (before : q <+: p) :
    t.Linkless q := fun r within => linkless r (within.trans before)

theorem follow_linkless {t : FileTree β} {jump : Path → List (Option String) → Option Path}
    (here rest : Path) (linkless : t.Linkless (here ++ rest))
    (found : rest ≠ [] → t.look (here ++ rest) ≠ none) :
    t.follow jump here (rest.map some) = some (here ++ rest) := by
  induction rest generalizing here with
  | nil => simp [follow]
  | cons name rest ih =>
      have onward : here ++ name :: rest = here ++ [name] ++ rest := List.append_cons here name rest
      have there := found (List.cons_ne_nil name rest)
      rw [onward] at linkless there ⊢
      rw [List.map_cons, follow]
      rcases here' : t.look (here ++ [name]) with _ | content | target | _
      · refine absurd ?_ there
        rw [look, get_append, kind_eq_none_iff.mp here', get_empty]
        rfl
      · cases rest with
        | nil => simp
        | cons next rest =>
            refine absurd ?_ there
            rw [look, get_append, get_of_not_dir _ (List.cons_ne_nil next rest)]
            · rfl
            · exact fun directory => by cases here'.symm.trans directory
      · exact absurd here' (linkless _ (List.prefix_append _ _) target)
      · exact ih _ linkless fun _ => there

/-- A path without symbolic links leads to itself. -/
theorem resolve_of_linkless {t : FileTree β} {p : Path} (linkless : t.Linkless p)
    (found : t.look p ≠ none) : t.resolve p = some p :=
  follow_linkless [] p linkless fun _ => found

theorem follow_absent {t : FileTree β} {jump : Path → List (Option String) → Option Path}
    (here rest : Path) (linkless : t.Linkless (here ++ rest)) (some' : rest ≠ [])
    (absent : t.look (here ++ rest) = none) : t.follow jump here (rest.map some) = none := by
  induction rest generalizing here with
  | nil => exact absurd rfl some'
  | cons name rest ih =>
      have onward : here ++ name :: rest = here ++ [name] ++ rest := List.append_cons here name rest
      rw [onward] at linkless absent
      rw [List.map_cons, follow]
      rcases here' : t.look (here ++ [name]) with _ | content | target | _
      · rfl
      · cases rest with
        | nil =>
            rw [List.append_nil, here'] at absent
            cases absent
        | cons next rest => rfl
      · exact absurd here' (linkless _ (List.prefix_append _ _) target)
      · cases rest with
        | nil =>
            rw [List.append_nil, here'] at absent
            cases absent
        | cons next rest => exact ih _ linkless (List.cons_ne_nil next rest) absent

theorem stat_of_linkless {t : FileTree β} {p : Path} (linkless : t.Linkless p) (below : p ≠ []) :
    t.stat p = t.look p := by
  by_cases absent : t.look p = none
  · have lost : t.resolve p = none := follow_absent [] p linkless below absent
    rw [stat, lost, absent]
    rfl
  · rw [stat, resolve_of_linkless linkless absent]
    rfl

theorem place_of_resolve {t : FileTree β} {d root : Path} (resolved : t.resolve d = some root)
    (parent : t.isDir root) (name : String) : t.place (d ++ [name]) = .ok (root ++ [name]) := by
  rw [place, List.getLast?_concat, List.dropLast_concat]
  simp only [resolved, show t.look root = some .dir from parent]

/-- One more step that follows no symbolic link. -/
theorem follow_concat {t : FileTree β} {jump : Path → List (Option String) → Option Path}
    {root : Path} {name : String}
    (onward : ∀ here steps, jump here steps = some root →
      jump here (steps ++ [some name]) = some (root ++ [name]))
    (parent : t.isDir root) (found : t.look (root ++ [name]) ≠ none)
    (plain : ∀ target, t.look (root ++ [name]) ≠ some (.link target)) {here : Path}
    {steps : List (Option String)} (followed : t.follow jump here steps = some root) :
    t.follow jump here (steps ++ [some name]) = some (root ++ [name]) := by
  induction steps generalizing here with
  | nil =>
      cases followed
      rw [List.nil_append, follow]
      match kind : t.look (root ++ [name]) with
      | none => exact absurd kind found
      | some (.link target) => exact absurd kind (plain target)
      | some (.file _) => rfl
      | some .dir => rw [follow]
  | cons step steps ih =>
      cases step with
      | none =>
          rw [follow] at followed
          rw [List.cons_append, follow]
          exact ih followed
      | some next =>
          rw [follow] at followed
          rw [List.cons_append, follow]
          match kind : t.look (here ++ [next]) with
          | none =>
              simp only [kind] at followed
              cases followed
          | some (.link target) =>
              simp only [kind] at followed
              change jump _ (target.steps ++ (steps ++ [some name])) = _
              rw [← List.append_assoc]
              exact onward _ _ followed
          | some (.file _) =>
              simp only [kind] at followed
              split at followed
              · cases followed
                cases kind.symm.trans parent
              · cases followed
          | some .dir =>
              simp only [kind] at followed
              exact ih followed

theorem resolve_concat {t : FileTree β} {d root : Path} {name : String}
    (resolved : t.resolve d = some root) (parent : t.isDir root)
    (found : t.look (root ++ [name]) ≠ none)
    (plain : ∀ target, t.look (root ++ [name]) ≠ some (.link target)) :
    t.resolve (d ++ [name]) = some (root ++ [name]) := by
  have within : ∀ hops here steps, t.resolveWithin hops here steps = some root →
      t.resolveWithin hops here (steps ++ [some name]) = some (root ++ [name]) := by
    intro hops
    induction hops with
    | zero => exact fun here steps => follow_concat (by nofun) parent found plain
    | succ hops ih => exact fun here steps => follow_concat ih parent found plain
  rw [resolve, List.map_append]
  exact within 40 [] _ resolved

theorem stat_concat {t : FileTree β} {d root : Path} {name : String}
    (resolved : t.resolve d = some root) (parent : t.isDir root)
    (plain : ∀ target, t.look (root ++ [name]) ≠ some (.link target))
    (found : t.look (root ++ [name]) ≠ none) : t.stat (d ++ [name]) = t.look (root ++ [name]) := by
  rw [stat, resolve_concat resolved parent found plain]
  rfl

end FileTree

/-- A question about a path; one that is refused is answered with no. -/
inductive Test where
  | exists (p : Path)
  | isFile (p : Path)
  | isDir (p : Path)

def Test.holds (t : FileTree β) : Test → Bool
  | .exists p => (t.stat p).isSome
  | .isFile p => (t.stat p matches some (.file _))
  | .isDir p => (t.stat p matches some .dir)

inductive Change (β : Type) where
  | createDir (p : Path)
  | createDirAll (p : Path)
  | createNew (p : Path)
  | writeAll (p : Path) (content : β)
  | syncAll (p : Path)
  | write (p : Path) (content : β)
  | rename (src dst : Path)
  | removeFile (p : Path)
  | removeDirAll (p : Path)

/-- How one operation turns out. -/
inductive Fate (β : Type) where
  | proceeds
  /-- A new directory gets this name. -/
  | named (name : String)
  | fails (error : IoError)
  /-- `create_dir_all` gives up after this many folders. -/
  | failsAfter (folders : Nat) (error : IoError)
  /-- A write gives up and leaves this. -/
  | failsLeaving (content : β) (error : IoError)
  /-- `remove_dir_all` gives up after these entries of the directory are gone. -/
  | failsPartway (removed : List Path) (error : IoError)

namespace Change

/-- A new file holds the default content. -/
def apply [Inhabited β] (t : FileTree β) : Change β → Except IoError (FileTree β)
  | .createDir p => t.createDir p
  | .createDirAll p => t.createDirAll p
  | .createNew p => t.createNew p default
  | .writeAll p content => t.overwrite p content
  | .syncAll _ => .ok t
  | .write p content => t.write p content
  | .rename src dst => t.rename src dst
  | .removeFile p => t.removeFile p
  | .removeDirAll p => t.removeDirAll p

/-- What a change that fails leaves behind. -/
def remains (t : FileTree β) : Change β → Fate β → Option (FileTree β × IoError)
  | _, .fails error => some (t, error)
  | .createDirAll p, .failsAfter folders error =>
      match (p.inits.tail.take folders).foldlM FileTree.ensureDir t with
      | .ok t' => some (t', error)
      | .error _ => none
  | .writeAll p _, .failsLeaving content error =>
      match t.overwrite p content with
      | .ok t' => some (t', error)
      | .error _ => none
  | .write p _, .failsLeaving content error =>
      match t.write p content with
      | .ok t' => some (t', error)
      | .error _ => none
  | .removeDirAll p, .failsPartway removed error =>
      match t.place p with
      | .ok place =>
          match t.look place with
          | some .dir => if [] ∈ removed then none else some (t.prune place removed, error)
          | _ => none
      | .error _ => none
  | _, _ => none

/-- A change that fails may leave this. -/
def MayLeave (change : Change β) (t t' : FileTree β) : Prop :=
  ∃ fate error, change.remains t fate = some (t', error)

end Change

/-- The file operations of a program. -/
inductive FileOp (β : Type) where
  | test (test : Test)
  | readDir (p : Path)
  | read (p : Path)
  | survey
  | tempDirIn (parent : Path) (start : String)
  | dropDir (p : Path)
  | change (change : Change β)

def FileOp.Reply : FileOp β → Type
  | .test _ => Bool
  | .readDir _ => Except IoError (List String)
  | .read _ => Except IoError β
  | .survey => Except IoError (FileTree β)
  | .tempDirIn .. => Except IoError Path
  | .dropDir _ => Except IoError Unit
  | .change _ => Except IoError Unit

/-- An operation, and whether it undoes what the program did before. -/
structure FileCall (β : Type) where
  op : FileOp β
  undo : Bool

namespace FileCall

def Reply (call : FileCall β) : Type := call.op.Reply

/-- Something that is read. -/
def answer {α : Type} (t : FileTree β) (result : Except IoError α) :
    Fate β → Option (FileTree β × Except IoError α)
  | .proceeds => some (t, result)
  | .fails error => some (t, .error error)
  | _ => none

/-- `tempfile`: a name of this start that was free. -/
def tempDirIn (t : FileTree β) (parent : Path) (start : String) :
    Fate β → Option (FileTree β × Except IoError Path)
  | .named name =>
      if name.startsWith start then
        match t.createDir (parent ++ [name]) with
        | .ok t' => some (t', .ok (parent ++ [name]))
        | .error .alreadyExists => none
        | .error error => some (t, .error error)
      else none
  | .fails error => some (t, .error error)
  | _ => none

def ask (t : FileTree β) (question : Test) : Fate β → Option (FileTree β × Bool)
  | .proceeds => some (t, question.holds t)
  | .fails _ => some (t, false)
  | _ => none

def alter [Inhabited β] (t : FileTree β) (change : Change β) :
    Fate β → Option (FileTree β × Except IoError Unit)
  | .proceeds =>
      match change.apply t with
      | .ok t' => some (t', .ok ())
      | .error error => some (t, .error error)
  | fate => (change.remains t fate).map fun (t', error) => (t', .error error)

def exec [Inhabited β] :
    (call : FileCall β) → Fate β → FileTree β → Option (FileTree β × call.Reply)
  | ⟨.test question, _⟩, fate, t => ask t question fate
  | ⟨.readDir p, _⟩, fate, t => answer t (t.readDir p) fate
  | ⟨.read p, _⟩, fate, t => answer t (t.read p) fate
  | ⟨.survey, _⟩, fate, t => answer t (.ok t) fate
  | ⟨.tempDirIn parent start, _⟩, fate, t => tempDirIn t parent start fate
  | ⟨.dropDir p, _⟩, fate, t => alter t (.removeDirAll p) fate
  | ⟨.change change, _⟩, fate, t => alter t change fate

/-- What undoes earlier steps is not refused. -/
def Steady (call : FileCall β) (fate : Fate β) (_ : FileTree β) : Prop :=
  call.undo = true → fate = .proceeds

/-- No question about a path is refused. -/
def Sighted (call : FileCall β) (fate : Fate β) (_ : FileTree β) : Prop :=
  ∀ question, call.op = .test question → fate = .proceeds

/-- Steady, and sighted where that is asked for. -/
def Allowed (sighted : Prop) (call : FileCall β) (fate : Fate β) (t : FileTree β) : Prop :=
  call.Steady fate t ∧ (sighted → call.Sighted fate t)

end FileCall

/-- A program that works on files. -/
abbrev FileAction (β ε α : Type) := Action (FileCall β) FileCall.Reply ε α

section
variable {ε : Type}

def test (undo : Bool) (test : Test) : FileAction β ε Bool :=
  Action.observe (.perform (FileCall.mk (.test test) undo))

def readDir (p : Path) : FileAction β IoError (List String) :=
  Action.ask (.perform (FileCall.mk (.readDir p) false))

def readFile (p : Path) : FileAction β IoError β :=
  Action.ask (.perform (FileCall.mk (.read p) false))

/-- Everything that a walk over the tree reads. -/
def survey : FileAction β IoError (FileTree β) :=
  Action.ask (.perform (FileCall.mk .survey false))

def tempDirIn (parent : Path) (start : String) : FileAction β IoError Path :=
  Action.ask (.perform (FileCall.mk (.tempDirIn parent start) false))

/-- The drop of a `TempDir`, which ignores that it was refused. -/
def dropDir (p : Path) : FileAction β ε Unit :=
  Action.ignore (Action.ask (ε := IoError) (.perform (FileCall.mk (.dropDir p) false)))

def change (change : Change β) : FileAction β IoError Unit :=
  Action.ask (.perform (FileCall.mk (.change change) false))

/-- A change that undoes an earlier one. -/
def unchange (change : Change β) : FileAction β IoError Unit :=
  Action.ask (.perform (FileCall.mk (.change change) true))

end

abbrev FileEntry (β : Type) := Entry (FileCall β) FileCall.Reply

/-- The record of an answered change. -/
def changed (change : Change β) (undo : Bool) (reply : Except IoError Unit) : FileEntry β :=
  ⟨⟨.change change, undo⟩, reply⟩

theorem changed_ok_ne_error {c c' : Change β} {undo undo' : Bool} {e : IoError} :
    changed c undo (.ok ()) ≠ changed c' undo' (.error e) := fun same => by
  have replies := congrArg (fun entry : FileEntry β => match entry with
    | ⟨⟨.change _, _⟩, .ok _⟩ => true
    | _ => false) same
  cases replies

theorem answer_cases {α : Type} {t t' : FileTree β} {result reply : Except IoError α}
    {fate : Fate β} (ran : FileCall.answer t result fate = some (t', reply)) :
    t' = t ∧ (reply = result ∨ ∃ error, reply = .error error) := by
  match fate with
  | .proceeds => cases ran; exact ⟨rfl, .inl rfl⟩
  | .fails error => cases ran; exact ⟨rfl, .inr ⟨error, rfl⟩⟩
  | .named _ | .failsAfter .. | .failsLeaving .. | .failsPartway .. => cases ran

section
variable [Inhabited β]

/-- Work on files with nobody else about, where undoing is not refused, nor, if the caller asks for
that, a question. -/
abbrev working (sighted : Prop) : Contract (FileCall β) FileCall.Reply (FileTree β) (Fate β) :=
  .alone FileCall.exec (FileCall.Allowed sighted)

variable {ε : Type} {sighted : Prop} {journal : List (FileEntry β)} {t : FileTree β}

theorem logs_of_steady {α : Type} {p : Prog (FileCall β) FileCall.Reply α} {t t' : FileTree β} {a : α}
    {journal : List (FileEntry β)} (run : p.Logs FileCall.exec FileCall.Steady t journal a t') :
    p.Logs FileCall.exec (FileCall.Allowed False) t journal a t' :=
  run.allowed fun _ _ _ _ steady => ⟨steady, False.elim⟩

theorem alter_cases {change : Change β} {fate : Fate β} {t t' : FileTree β}
    {reply : Except IoError Unit} (ran : FileCall.alter t change fate = some (t', reply)) :
    (change.apply t = .ok t' ∧ reply = .ok ()) ∨
      ∃ error, reply = .error error ∧ (change.MayLeave t t' ∨ t' = t) ∧
        (fate = .proceeds → change.apply t = .error error ∧ t' = t) := by
  cases fate with
  | proceeds =>
      cases result : change.apply t with
      | ok t'' =>
          simp only [FileCall.alter, result, Option.some.injEq, Prod.mk.injEq] at ran
          exact .inl ⟨congrArg Except.ok ran.1, ran.2.symm⟩
      | error e =>
          simp only [FileCall.alter, result, Option.some.injEq, Prod.mk.injEq] at ran
          exact .inr ⟨e, ran.2.symm, .inr ran.1.symm, fun _ => ⟨rfl, ran.1.symm⟩⟩
  | named | fails | failsAfter | failsLeaving | failsPartway =>
      simp only [FileCall.alter, Option.map_eq_some_iff] at ran
      obtain ⟨⟨left, e⟩, remains, same⟩ := ran
      cases same
      exact .inr ⟨e, rfl, .inl ⟨_, e, remains⟩, nofun⟩

/-- A question is answered with yes only if it holds, and with no also when it is refused. -/
theorem attempts_test {undo : Bool} {question : Test} {ok : Bool → List (FileEntry β) → FileTree β → Prop}
    {error : ε → List (FileEntry β) → FileTree β → Prop}
    (after : ∀ answer, (answer = true → question.holds t = true) →
      (undo = true ∨ sighted → answer = question.holds t) →
      ok answer (journal ++ [⟨⟨.test question, undo⟩, answer⟩]) t) :
    (test undo question).Attempts (working sighted) ok error journal t := by
  rintro _ rfl - fate t' reply ⟨steady, sure⟩ ran
  change FileCall.ask t question fate = _ at ran
  match fate with
  | .proceeds =>
      cases ran
      exact ⟨trivial, trivial, after _ id fun _ => rfl⟩
  | .fails e =>
      cases ran
      refine ⟨trivial, trivial, after false (by nofun) ?_⟩
      rintro (undoing | asked)
      · cases steady undoing
      · cases sure asked question rfl
  | .named _ | .failsAfter .. | .failsLeaving .. | .failsPartway .. => cases ran

theorem attempts_change {c : Change β} {ok : Unit → List (FileEntry β) → FileTree β → Prop}
    {error : IoError → List (FileEntry β) → FileTree β → Prop}
    (done : ∀ t', c.apply t = .ok t' → ok () (journal ++ [changed c false (.ok ())]) t')
    (failed : ∀ e t', c.MayLeave t t' ∨ t' = t →
      error e (journal ++ [changed c false (.error e)]) t') :
    (change c).Attempts (working sighted) ok error journal t := by
  rintro _ rfl - fate t' reply - ran
  rcases alter_cases ran with ⟨result, rfl⟩ | ⟨e, rfl, left, -⟩
  · exact ⟨trivial, trivial, done t' result⟩
  · exact ⟨trivial, trivial, failed e t' left⟩

theorem attempts_unchange {c : Change β} {ok : Unit → List (FileEntry β) → FileTree β → Prop}
    {error : IoError → List (FileEntry β) → FileTree β → Prop}
    (done : ∀ t', c.apply t = .ok t' → ok () (journal ++ [changed c true (.ok ())]) t')
    (failed : ∀ e, c.apply t = .error e → error e (journal ++ [changed c true (.error e)]) t) :
    (unchange c).Attempts (working sighted) ok error journal t := by
  rintro _ rfl - fate t' reply ⟨steady, -⟩ ran
  rcases alter_cases ran with ⟨result, rfl⟩ | ⟨e, rfl, -, natural⟩
  · exact ⟨trivial, trivial, done t' result⟩
  · obtain ⟨result, rfl⟩ := natural (steady rfl)
    exact ⟨trivial, trivial, failed e result⟩

theorem attempts_tempDirIn {parent : Path} {start : String}
    {ok : Path → List (FileEntry β) → FileTree β → Prop}
    {error : IoError → List (FileEntry β) → FileTree β → Prop}
    (done : ∀ name t', name.startsWith start = true → t.createDir (parent ++ [name]) = .ok t' →
      ok (parent ++ [name])
        (journal ++ [⟨⟨.tempDirIn parent start, false⟩, Except.ok (parent ++ [name])⟩]) t')
    (failed : ∀ e, error e (journal ++ [⟨⟨.tempDirIn parent start, false⟩, Except.error e⟩]) t) :
    (tempDirIn parent start).Attempts (working sighted) ok error journal t := by
  rintro _ rfl - fate t' reply - ran
  change FileCall.tempDirIn t parent start fate = _ at ran
  cases fate with
  | proceeds | failsAfter | failsLeaving | failsPartway => cases ran
  | fails e =>
      cases ran
      exact ⟨trivial, trivial, failed e⟩
  | named name =>
      rw [FileCall.tempDirIn] at ran
      split at ran
      · rename_i begins
        split at ran
        · rename_i made
          cases ran
          exact ⟨trivial, trivial, done name _ begins made⟩
        · cases ran
        · cases ran
          exact ⟨trivial, trivial, failed _⟩
      · cases ran

theorem attempts_dropDir {p : Path} {ok : Unit → List (FileEntry β) → FileTree β → Prop}
    {error : ε → List (FileEntry β) → FileTree β → Prop}
    (done : ∀ t', t.removeDirAll p = .ok t' →
      ok () (journal ++ [⟨⟨.dropDir p, false⟩, Except.ok ()⟩]) t')
    (failed : ∀ e t', (Change.removeDirAll p).MayLeave t t' ∨ t' = t →
      ok () (journal ++ [⟨⟨.dropDir p, false⟩, Except.error e⟩]) t') :
    (dropDir p).Attempts (working sighted) ok error journal t := by
  refine Action.attempts_ignore.mpr ?_
  rintro _ rfl - fate t' reply - ran
  rcases alter_cases ran with ⟨result, rfl⟩ | ⟨e, rfl, left, -⟩
  · exact ⟨trivial, trivial, done t' result⟩
  · exact ⟨trivial, trivial, failed e t' left⟩

theorem attempts_readDir {p : Path} {ok : List String → List (FileEntry β) → FileTree β → Prop}
    {error : IoError → List (FileEntry β) → FileTree β → Prop}
    (done : ∀ names, t.readDir p = .ok names →
      ok names (journal ++ [⟨⟨.readDir p, false⟩, Except.ok names⟩]) t)
    (failed : ∀ e, error e (journal ++ [⟨⟨.readDir p, false⟩, Except.error e⟩]) t) :
    (readDir p).Attempts (working sighted) ok error journal t := by
  rintro _ rfl - fate t' reply - ran
  obtain ⟨rfl, same | ⟨e, rfl⟩⟩ := answer_cases ran
  · subst same
    match result : t'.readDir p with
    | .ok names => exact ⟨trivial, trivial, done names result⟩
    | .error e => exact ⟨trivial, trivial, failed e⟩
  · exact ⟨trivial, trivial, failed e⟩

theorem attempts_survey {ok : FileTree β → List (FileEntry β) → FileTree β → Prop}
    {error : IoError → List (FileEntry β) → FileTree β → Prop}
    (done : ok t (journal ++ [⟨⟨.survey, false⟩, Except.ok t⟩]) t)
    (failed : ∀ e, error e (journal ++ [⟨⟨.survey, false⟩, Except.error e⟩]) t) :
    survey.Attempts (working sighted) ok error journal t := by
  rintro _ rfl - fate t' reply - ran
  obtain ⟨rfl, rfl | ⟨e, rfl⟩⟩ := answer_cases ran
  · exact ⟨trivial, trivial, done⟩
  · exact ⟨trivial, trivial, failed e⟩

theorem attempts_readFile {p : Path} {ok : β → List (FileEntry β) → FileTree β → Prop}
    {error : IoError → List (FileEntry β) → FileTree β → Prop}
    (done : ∀ content, t.read p = .ok content →
      ok content (journal ++ [⟨⟨.read p, false⟩, Except.ok content⟩]) t)
    (failed : ∀ e, error e (journal ++ [⟨⟨.read p, false⟩, Except.error e⟩]) t) :
    (readFile p).Attempts (working sighted) ok error journal t := by
  rintro _ rfl - fate t' reply - ran
  obtain ⟨rfl, same | ⟨e, rfl⟩⟩ := answer_cases ran
  · subst same
    match result : t'.read p with
    | .ok content => exact ⟨trivial, trivial, done content result⟩
    | .error e => exact ⟨trivial, trivial, failed e⟩
  · exact ⟨trivial, trivial, failed e⟩

end
end HeliumSync.Files
