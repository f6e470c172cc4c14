import HeliumSync.ProfileStore

/-! What each operation on the profiles can have done, and what the reading parts of a command do. -/
namespace HeliumSync
open Interaction (Prog Action Entry Contract)
open Files Files.FileTree

namespace Files.FileTree
variable {β : Type} {t : FileTree β} {d e : Path} {a b : String}

/-- Something that was moved can be moved back. -/
theorem move_back (sourceDir : t.isDir d) (destDir : t.isDir e) (free : t.look (e ++ [b]) = none)
    (outside : ¬ d ++ [a] <+: e ++ [b]) (beside : ¬ e ++ [b] <+: d ++ [a]) :
    (t.move (d ++ [a]) (e ++ [b])).move (e ++ [b]) (d ++ [a]) = t := by
  have sourceDir' : (t.move (d ++ [a]) (e ++ [b])).isDir d := by
    rw [isDir, look_move_of_apart (not_prefix_concat List.prefix_rfl) (not_prefix_dir beside)]
    exact sourceDir
  have destDir' : (t.move (d ++ [a]) (e ++ [b])).isDir e := by
    rw [isDir, look_move_of_apart (not_prefix_dir outside) (not_prefix_concat List.prefix_rfl)]
    exact destDir
  apply ext_look
  intro q
  by_cases here : d ++ [a] <+: q
  · obtain ⟨r, rfl⟩ := here
    rw [List.append_assoc, look, List.singleton_append, get_move sourceDir' beside, get_append,
      get_move_self destDir outside, ← get_append, List.append_assoc]
    rfl
  · by_cases there : e ++ [b] <+: q
    · obtain ⟨r, rfl⟩ := there
      rw [look_of_before (List.prefix_append _ r) free]
      rw [List.append_assoc] at here ⊢
      exact look_move_src destDir' here
    · rw [look_move_of_apart there here, look_move_of_apart here there]

theorem rename_back (source : t.Linkless d) (dest : t.Linkless e) (sourceDir : t.isDir d)
    (destDir : t.isDir e) (found : t.look (d ++ [a]) ≠ none) (free : t.look (e ++ [b]) = none)
    (outside : ¬ d ++ [a] <+: e ++ [b]) (beside : ¬ e ++ [b] <+: d ++ [a]) :
    (t.move (d ++ [a]) (e ++ [b])).rename (e ++ [b]) (d ++ [a]) = .ok t := by
  have atSource : ∀ q, q <+: d → (t.move (d ++ [a]) (e ++ [b])).look q = t.look q := fun q before =>
    look_move_of_apart (not_prefix_concat before) fun inside =>
      beside (inside.trans (before.trans (List.prefix_append d [a])))
  have atDest : ∀ q, q <+: e → (t.move (d ++ [a]) (e ++ [b])).look q = t.look q := fun q before =>
    look_move_of_apart (fun inside =>
      outside (inside.trans (before.trans (List.prefix_append e [b])))) (not_prefix_concat before)
  have dest' : (t.move (d ++ [a]) (e ++ [b])).Linkless e := fun q before target link =>
    dest q before target ((atDest q before).symm.trans link)
  have source' : (t.move (d ++ [a]) (e ++ [b])).Linkless d := fun q before target link =>
    source q before target ((atSource q before).symm.trans link)
  rw [rename_eq dest'.leads source'.leads, move_back sourceDir destDir free outside beside]
  · exact (atDest e List.prefix_rfl).trans destDir
  · exact (atSource d List.prefix_rfl).trans sourceDir
  · rwa [look, get_move_self destDir outside]
  · exact look_move_src sourceDir beside
  · exact beside

/-- What a path of links leads to begins with something in the first directory. -/
theorem look_of_stat {name : String} (linkless : t.Linkless d) (found : t.stat (d ++ [name]) ≠ none) :
    t.look (d ++ [name]) ≠ none := by
  intro absent
  apply found
  have plain : t.Linkless (d ++ [name]) := linkless.concat fun target link => by
    cases absent.symm.trans link
  rw [stat_of_linkless plain (by simp), absent]

/-- `fs::create_dir_all` of an entry makes at most that one. -/
theorem createDirAll_entry {t' : FileTree β} (directory : t.isDir d)
    (paved : Paved (d ++ [a]) t t') :
    t' = t ∨ (t.look (d ++ [a]) = none ∧ t' = t.put (d ++ [a]) folder) := by
  have others : ∀ q, q ≠ d ++ [a] → t'.look q = t.look q := by
    intro q other
    rcases paved q with same | ⟨absent, _, before⟩
    · exact same
    · rcases List.prefix_concat_iff.mp before with same | above
      · exact absurd same other
      · by_cases whole : q = d
        · subst whole
          cases absent.symm.trans directory
        · have inside := isDir_of_before above whole fun none => by cases none.symm.trans directory
          cases absent.symm.trans inside
  rcases paved (d ++ [a]) with same | ⟨absent, made, _⟩
  · left
    apply ext_look
    intro q
    by_cases here : q = d ++ [a]
    · rw [here, same]
    · exact others q here
  · right
    refine ⟨absent, ext_look fun q => ?_⟩
    by_cases before : d ++ [a] <+: q
    · obtain ⟨r, rfl⟩ := before
      rw [List.append_assoc, List.singleton_append, look_put directory]
      cases r with
      | nil => exact made
      | cons name r =>
          have beyond : d ++ a :: name :: r ≠ d ++ [a] := by simp
          rw [others _ beyond]
          have nothing : t.look (d ++ a :: name :: r) = none :=
            look_of_before ⟨name :: r, List.append_assoc d [a] _⟩ absent
          rw [nothing, look, get, child_folder, get_empty]
          rfl
    · rw [look_put_of_apart _ before]
      exact others q fun same => before (same ▸ List.prefix_rfl)

end Files.FileTree

namespace ProfileStore
variable {C : Type} {P : Primitives C} {userData : Path} {s s' : ProfileStore C}
  {choice : ProfileChoice}

theorem answered_cases {α : Type} {result reply : Except String α}
    (ran : s.answered result choice = some (s', reply)) :
    s' = s ∧ (reply = result ∨ ∃ e, reply = .error e) := by
  cases choice with
  | proceed =>
      cases ran
      exact ⟨rfl, .inl rfl⟩
  | failed details =>
      cases ran
      exact ⟨rfl, .inr ⟨details, rfl⟩⟩
  | fate | drawn | stamped => cases ran

theorem selected_cases {α : Type} {rows : α} {reply : Except ClientError α}
    (ran : s.selected rows choice = some (s', reply)) :
    s' = s ∧ (reply = .ok rows ∨ ∃ e, reply = .error e) := by
  cases choice with
  | proceed =>
      cases ran
      exact ⟨rfl, .inl rfl⟩
  | failed details =>
      cases ran
      exact ⟨rfl, .inr ⟨_, rfl⟩⟩
  | fate | drawn | stamped => cases ran

theorem committed_cases {result : Except ClientError (LocalState C)}
    {reply : Except ClientError Unit} (ran : s.committed result choice = some (s', reply)) :
    (∃ state, result = .ok state ∧ s' = { s with state } ∧ reply = .ok ()) ∨
      (s' = s ∧ ∃ e, reply = .error e) := by
  cases choice with
  | proceed =>
      cases result with
      | ok state =>
          cases ran
          exact .inl ⟨state, rfl, rfl, rfl⟩
      | error e =>
          cases ran
          exact .inr ⟨rfl, e, rfl⟩
  | failed details =>
      cases ran
      exact .inr ⟨rfl, _, rfl⟩
  | fate | drawn | stamped => cases ran

/-- What is shown as the name of a directory. -/
def Shown (s : ProfileStore C) (directoryName displayName : String) : Prop :=
  (∃ row ∈ s.state.preferences, row.directoryName = directoryName) ∧
    ∀ row ∈ s.state.preferences, row.directoryName = directoryName → row.displayName = displayName

/-- Something stands where the profile of this directory would be. -/
def Present (userData : Path) (s : ProfileStore C) (directoryName : String) : Prop :=
  s.files.look (userData ++ [directoryName]) ≠ none

/-- Nothing has changed but the preferences of profiles that are there. -/
structure Settled (userData : Path) (s s' : ProfileStore C) : Prop where
  files : s'.files = s.files
  archives : s'.state.archives = s.state.archives
  mappings : s'.state.mappings = s.state.mappings
  syncBases : s'.state.syncBases = s.state.syncBases
  names : ∀ row' ∈ s'.state.preferences, Present userData s row'.directoryName ∨
    ∃ row ∈ s.state.preferences, row.directoryName = row'.directoryName

/-- Nor what they are shown as. -/
structure Steady (userData : Path) (s s' : ProfileStore C) : Prop extends Settled userData s s' where
  shown : ∀ directoryName displayName, s.Shown directoryName displayName →
    s'.Shown directoryName displayName

theorem Settled.refl : Settled userData s s where
  files := rfl
  archives := rfl
  mappings := rfl
  syncBases := rfl
  names row here := .inr ⟨row, here, rfl⟩

theorem Steady.refl : Steady userData s s where
  toSettled := .refl
  shown _ _ shown := shown

theorem Settled.trans {s₁ s₂ s₃ : ProfileStore C} (first : Settled userData s₁ s₂)
    (later : Settled userData s₂ s₃) : Settled userData s₁ s₃ where
  files := later.files.trans first.files
  archives := later.archives.trans first.archives
  mappings := later.mappings.trans first.mappings
  syncBases := later.syncBases.trans first.syncBases
  names row'' here := by
    rcases later.names row'' here with present | ⟨row', here', same'⟩
    · left
      rwa [Present, first.files] at present
    · rw [← same']
      exact first.names row' here'

theorem Steady.trans {s₁ s₂ s₃ : ProfileStore C} (first : Steady userData s₁ s₂)
    (later : Steady userData s₂ s₃) : Steady userData s₁ s₃ where
  toSettled := first.toSettled.trans later.toSettled
  shown _ _ shown := later.shown _ _ (first.shown _ _ shown)

/-- The rows that an update leaves have the names they had. -/
theorem settled_map {state : LocalState C} {update : ProfilePreference → ProfilePreference}
    (named : ∀ row, (update row).directoryName = row.directoryName)
    (written : state = { s.state with preferences := s.state.preferences.map update }) :
    Settled userData s { s with state } := by
  subst written
  refine ⟨rfl, rfl, rfl, rfl, fun row' here => ?_⟩
  obtain ⟨row, member, rfl⟩ := List.mem_map.mp here
  exact .inr ⟨row, member, (named row).symm⟩

theorem steady_map {state : LocalState C} {update : ProfilePreference → ProfilePreference}
    (named : ∀ row, (update row).directoryName = row.directoryName)
    (shown : ∀ row, (update row).displayName = row.displayName)
    (written : state = { s.state with preferences := s.state.preferences.map update }) :
    Steady userData s { s with state } := by
  refine ⟨settled_map named written, ?_⟩
  subst written
  rintro directoryName displayName ⟨⟨row, member, same⟩, each⟩
  refine ⟨⟨update row, List.mem_map_of_mem member, (named row).trans same⟩, ?_⟩
  intro row' here same'
  obtain ⟨row, member, rfl⟩ := List.mem_map.mp here
  rw [named] at same'
  rw [shown]
  exact each row member same'

/-- `ensure_profile` of a profile that is there. -/
theorem steady_ensureProfile {state : LocalState C} {directoryName displayName : String}
    (present : Present userData s directoryName)
    (ensured : s.state.ensureProfile directoryName displayName = .ok state) :
    Steady userData s { s with state } := by
  rw [LocalState.ensureProfile] at ensured
  split_ifs at ensured with named known
  · cases ensured
    exact .refl
  · cases ensured
    refine ⟨⟨rfl, rfl, rfl, rfl, ?_⟩, ?_⟩
    · intro row' here
      rcases List.mem_append.mp here with old | new
      · exact .inr ⟨row', old, rfl⟩
      · cases List.mem_singleton.mp new
        exact .inl present
    · rintro d n ⟨⟨row, member, same⟩, each⟩
      refine ⟨⟨row, List.mem_append_left _ member, same⟩, ?_⟩
      intro row' here same'
      rcases List.mem_append.mp here with old | new
      · exact each row' old same'
      · cases List.mem_singleton.mp new
        refine absurd ?_ known
        exact List.any_eq_true.mpr ⟨row, member, decide_eq_true (same.trans same'.symm)⟩

theorem updatePreference_ok {state state' : LocalState C} {directoryName : String}
    {update : ProfilePreference → ProfilePreference}
    (updated : state.updatePreference directoryName update = .ok state') :
    state' = { state with
      preferences := state.preferences.map fun row =>
        if row.directoryName = directoryName then update row else row } := by
  rw [LocalState.updatePreference] at updated
  split_ifs at updated
  exact (Except.ok.inj updated).symm

theorem settled_renameProfile {state : LocalState C} {directoryName displayName : String}
    (renamed : s.state.renameProfile directoryName displayName = .ok state) :
    Settled userData s { s with state } := by
  rw [LocalState.renameProfile] at renamed
  split_ifs at renamed
  refine settled_map (fun row => ?_) (updatePreference_ok renamed)
  split_ifs <;> rfl

theorem steady_setAutoSync {state : LocalState C} {directoryName : String} {enabled : Bool}
    (updated : s.state.setAutoSync directoryName enabled = .ok state) :
    Steady userData s { s with state } := by
  refine steady_map (fun row => ?_) (fun row => ?_) (updatePreference_ok updated)
  · split_ifs <;> rfl
  · split_ifs <;> rfl

theorem steady_setDefaultProfile {state : LocalState C} {directoryName : String}
    (updated : s.state.setDefaultProfile directoryName = .ok state) :
    Steady userData s { s with state } := by
  rw [LocalState.setDefaultProfile] at updated
  split_ifs at updated
  have written := (Except.ok.inj updated).symm
  refine steady_map ?_ ?_ written
  · exact fun _ => rfl
  · exact fun _ => rfl

/-- A new id is unused; undoing is not refused; a directory is only said to exist when it does. -/
def Orderly (P : Primitives C) (userData : Path) :
    ProfileOp → ProfileChoice → ProfileStore C → Prop
  | .newUuid, choice, s => ∀ uuid, choice = .drawn uuid →
      s.files.look (profileArchiveRoot userData ++ [P.formatUuid uuid]) = none
  | .change _ true, choice, _ => choice = .fate .proceeds
  | .change (.createDir _) false, choice, _ => choice ≠ .fate (.fails .alreadyExists)
  | _, _, _ => True

variable (P) (userData) in
/-- A command on the profiles with nobody else about. -/
abbrev orderly : Contract ProfileOp ProfileOp.Reply (ProfileStore C) ProfileChoice :=
  .alone (exec P userData) (Orderly P userData)

abbrev ProfileEntry := Entry ProfileOp ProfileOp.Reply

/-- An answer that neither made a directory nor kept the registry from being written. -/
def Plain : ProfileEntry → Prop
  | ⟨.change (.createDir _) _, .ok _⟩ => False
  | ⟨.recordProfileArchive .., .error _⟩ | ⟨.removeProfileArchive _, .error _⟩ => False
  | _ => True

/-- Only plain answers have come since. -/
def Passes (journal journal' : List ProfileEntry) : Prop :=
  ∃ rest, journal' = journal ++ rest ∧ ∀ entry ∈ rest, Plain entry

variable {journal journal' : List ProfileEntry}

theorem Passes.refl (journal : List ProfileEntry) : Passes journal journal :=
  ⟨[], (List.append_nil journal).symm, nofun⟩

theorem Passes.trans {later : List ProfileEntry} (first : Passes journal journal')
    (next : Passes journal' later) : Passes journal later := by
  obtain ⟨rest, rfl, each⟩ := first
  obtain ⟨rest', rfl, each'⟩ := next
  refine ⟨rest ++ rest', List.append_assoc .., ?_⟩
  intro entry member
  rcases List.mem_append.mp member with member | member
  · exact each entry member
  · exact each' entry member

theorem Passes.snoc {entry : ProfileEntry} (plain : Plain entry) :
    Passes journal (journal ++ [entry]) := by
  refine ⟨[entry], rfl, ?_⟩
  intro other member
  cases List.mem_singleton.mp member
  exact plain

/-- Any other change is plain. -/
theorem passes_change {c : Files.Change Plaintext} {undo : Bool} {reply : Except IoError Unit}
    (other : ∀ p, c ≠ .createDir p) : Passes journal (journal ++ [⟨.change c undo, reply⟩]) := by
  apply Passes.snoc
  cases c with
  | createDir p => exact absurd rfl (other p)
  | createDirAll | createNew | writeAll | syncAll | write | rename | removeFile | removeDirAll =>
      trivial

/-- The rule of an operation that answers and leaves everything as it was. -/
theorem attempts_answer {ε α : Type} {op : ProfileOp} {take : op.Reply → Except ε α}
    {result : Except ε α} {ok : α → List ProfileEntry → ProfileStore C → Prop}
    {error : ε → List ProfileEntry → ProfileStore C → Prop} (plain : ∀ reply, Plain ⟨op, reply⟩)
    (answers : ∀ choice s' reply, exec P userData op choice s = some (s', reply) →
      s' = s ∧ (take reply = result ∨ ∃ e, take reply = .error e))
    (done : ∀ a journal', result = .ok a → Passes journal journal' → ok a journal' s)
    (failed : ∀ e journal', Passes journal journal' → error e journal' s) :
    (Action.ask (.call op fun reply => .done (take reply))).Attempts (orderly P userData) ok error
      journal s := by
  rintro _ rfl - choice s' reply - ran
  have passes : Passes journal (journal ++ [⟨op, reply⟩]) := .snoc (plain reply)
  obtain ⟨rfl, answer⟩ := answers choice s' reply ran
  refine ⟨trivial, trivial, ?_⟩
  beta_reduce
  rcases answer with answer | ⟨e, answer⟩
  · rw [answer]
    cases result with
    | ok a => exact done a _ rfl passes
    | error e => exact failed e _ passes
  · rw [answer]
    exact failed e _ passes

/-- The rule of a write to the database. -/
theorem attempts_commit {op : ProfileOp} {take : op.Reply → Except ClientError Unit}
    {result : Except ClientError (LocalState C)}
    {ok : Unit → List ProfileEntry → ProfileStore C → Prop}
    {error : ClientError → List ProfileEntry → ProfileStore C → Prop}
    (plain : ∀ reply, Plain ⟨op, reply⟩)
    (commits : ∀ choice s' reply, exec P userData op choice s = some (s', reply) →
      s.committed result choice = some (s', take reply))
    (done : ∀ state journal', result = .ok state → Passes journal journal' →
      ok () journal' { s with state })
    (failed : ∀ e journal', Passes journal journal' → error e journal' s) :
    (Action.ask (.call op fun reply => .done (take reply))).Attempts (orderly P userData) ok error
      journal s := by
  rintro _ rfl - choice s' reply - ran
  have passes : Passes journal (journal ++ [⟨op, reply⟩]) := .snoc (plain reply)
  refine ⟨trivial, trivial, ?_⟩
  beta_reduce
  rcases committed_cases (commits choice s' reply ran) with
    ⟨state, wrote, rfl, answer⟩ | ⟨rfl, e, answer⟩
  · rw [answer]
    exact done state _ wrote passes
  · rw [answer]
    exact failed e _ passes

section
variable {ε : Type}

theorem attempts_ensureHeliumClosed {ok : Unit → List ProfileEntry → ProfileStore C → Prop}
    {error : String → List ProfileEntry → ProfileStore C → Prop}
    (done : ∀ journal', Passes journal journal' → ok () journal' s)
    (failed : ∀ e journal', Passes journal journal' → error e journal' s) :
    ensureHeliumClosed.Attempts (orderly P userData) ok error journal s :=
  attempts_answer (fun _ => trivial) (fun _ _ _ ran => answered_cases ran)
    (fun _ journal' _ => done journal') failed

theorem attempts_installation {ok : Unit → List ProfileEntry → ProfileStore C → Prop}
    {error : String → List ProfileEntry → ProfileStore C → Prop}
    (done : ∀ journal', Passes journal journal' → ok () journal' s)
    (failed : ∀ e journal', Passes journal journal' → error e journal' s) :
    installation.Attempts (orderly P userData) ok error journal s :=
  attempts_answer (fun _ => trivial) (fun _ _ _ ran => answered_cases ran)
    (fun _ journal' _ => done journal') failed

theorem attempts_discover
    {ok : List LocatedProfile → List ProfileEntry → ProfileStore C → Prop}
    {error : String → List ProfileEntry → ProfileStore C → Prop}
    (done : ∀ profiles journal', discoverProfiles P userData s.files = .ok profiles →
      Passes journal journal' → ok profiles journal' s)
    (failed : ∀ e journal', Passes journal journal' → error e journal' s) :
    discover.Attempts (orderly P userData) ok error journal s :=
  attempts_answer (fun _ => trivial) (fun _ _ _ ran => answered_cases ran) done failed

theorem attempts_profilePreferences
    {ok : List ProfilePreference → List ProfileEntry → ProfileStore C → Prop}
    {error : ClientError → List ProfileEntry → ProfileStore C → Prop}
    (done : ∀ journal', Passes journal journal' → ok s.state.profilePreferences journal' s)
    (failed : ∀ e journal', Passes journal journal' → error e journal' s) :
    profilePreferences.Attempts (orderly P userData) ok error journal s := by
  refine attempts_answer (fun _ => trivial) (fun _ _ _ ran => selected_cases ran) ?_ failed
  intro rows journal' same
  cases same
  exact done journal'

theorem attempts_profileArchives
    {ok : List ProfileArchive → List ProfileEntry → ProfileStore C → Prop}
    {error : ClientError → List ProfileEntry → ProfileStore C → Prop}
    (done : ∀ journal', Passes journal journal' → ok s.state.profileArchives journal' s)
    (failed : ∀ e journal', Passes journal journal' → error e journal' s) :
    profileArchives.Attempts (orderly P userData) ok error journal s := by
  refine attempts_answer (fun _ => trivial) (fun _ _ _ ran => selected_cases ran) ?_ failed
  intro rows journal' same
  cases same
  exact done journal'

theorem attempts_newUuid {ok : BitVec 128 → List ProfileEntry → ProfileStore C → Prop}
    {error : String → List ProfileEntry → ProfileStore C → Prop}
    (done : ∀ uuid journal', s.files.look (profileArchiveRoot userData ++ [P.formatUuid uuid]) = none →
      Passes journal journal' → ok uuid journal' s) :
    newUuid.Attempts (orderly P userData) ok error journal s := by
  rintro _ rfl - choice s' uuid fresh ran
  cases choice with
  | drawn drawn =>
      cases ran
      exact ⟨trivial, trivial, done uuid _ (fresh uuid rfl) (.snoc trivial)⟩
  | proceed | failed | fate | stamped => cases ran

theorem attempts_test {question : Test} {ok : Bool → List ProfileEntry → ProfileStore C → Prop}
    {error : String → List ProfileEntry → ProfileStore C → Prop}
    (done : ∀ answer journal', (answer = true → question.holds s.files = true) →
      Passes journal journal' → ok answer journal' s) :
    (test question).Attempts (orderly P userData) ok error journal s := by
  rintro _ rfl - choice s' reply - ran
  cases choice with
  | proceed =>
      cases ran
      exact ⟨trivial, trivial, done _ _ id (.snoc trivial)⟩
  | failed =>
      cases ran
      exact ⟨trivial, trivial, done _ _ (fun yes => by cases yes) (.snoc trivial)⟩
  | drawn | fate | stamped => cases ran

theorem attempts_canonicalize {p : Path} {ok : Path → List ProfileEntry → ProfileStore C → Prop}
    {error : IoError → List ProfileEntry → ProfileStore C → Prop}
    (done : ∀ place journal', s.files.resolve p = some place → Passes journal journal' →
      ok place journal' s)
    (failed : ∀ e journal', Passes journal journal' → error e journal' s) :
    (canonicalize p).Attempts (orderly P userData) ok error journal s := by
  rintro _ rfl - choice s' reply - ran
  cases choice with
  | proceed | drawn | failed | stamped => cases ran
  | fate fate =>
      obtain ⟨⟨files, reply⟩, answer, same⟩ := Option.map_eq_some_iff.mp ran
      cases same
      obtain ⟨-, rfl | ⟨e, rfl⟩⟩ := answer_cases answer
      · cases found : s.files.resolve p with
        | some place => exact ⟨trivial, trivial, done place _ found (.snoc trivial)⟩
        | none => exact ⟨trivial, trivial, failed _ _ (.snoc trivial)⟩
      · exact ⟨trivial, trivial, failed e _ (.snoc trivial)⟩

theorem attempts_symlinkMetadata {p : Path}
    {ok : Kind Plaintext → List ProfileEntry → ProfileStore C → Prop}
    {error : IoError → List ProfileEntry → ProfileStore C → Prop}
    (done : ∀ kind journal', s.files.lstat p = some kind → Passes journal journal' →
      ok kind journal' s)
    (failed : ∀ e journal', Passes journal journal' → error e journal' s) :
    (symlinkMetadata p).Attempts (orderly P userData) ok error journal s := by
  rintro _ rfl - choice s' reply - ran
  cases choice with
  | proceed | drawn | failed | stamped => cases ran
  | fate fate =>
      obtain ⟨⟨files, reply⟩, answer, same⟩ := Option.map_eq_some_iff.mp ran
      cases same
      obtain ⟨-, rfl | ⟨e, rfl⟩⟩ := answer_cases answer
      · cases found : s.files.lstat p with
        | some kind => exact ⟨trivial, trivial, done kind _ found (.snoc trivial)⟩
        | none => exact ⟨trivial, trivial, failed _ _ (.snoc trivial)⟩
      · exact ⟨trivial, trivial, failed e _ (.snoc trivial)⟩

/-- The rule of a change; a new directory shows in the journal. -/
theorem attempts_change {c : Files.Change Plaintext}
    {ok : Unit → List ProfileEntry → ProfileStore C → Prop}
    {error : IoError → List ProfileEntry → ProfileStore C → Prop}
    (done : ∀ files, c.apply s.files = .ok files →
      ok () (journal ++ [⟨.change c false, Except.ok ()⟩]) { s with files })
    (failed : ∀ e files journal', c.MayLeave s.files files ∨ files = s.files →
      (∀ p, c = .createDir p → e = .alreadyExists → c.apply s.files = .error .alreadyExists) →
      Passes journal journal' → error e journal' { s with files }) :
    (change c).Attempts (orderly P userData) ok error journal s := by
  rintro _ rfl - choice s' reply allowed ran
  cases choice with
  | proceed | drawn | failed | stamped => cases ran
  | fate fate =>
      obtain ⟨⟨files, reply⟩, altered, same⟩ := Option.map_eq_some_iff.mp ran
      cases same
      rcases alter_cases altered with ⟨result, rfl⟩ | ⟨e, rfl, left, natural⟩
      · exact ⟨trivial, trivial, done files result⟩
      · have plain : Plain ⟨.change c false, Except.error e⟩ := by cases c <;> trivial
        refine ⟨trivial, trivial, failed e files _ left ?_ (.snoc plain)⟩
        rintro p rfl rfl
        cases fate with
        | proceeds => exact (natural rfl).1
        | fails error =>
            cases altered
            exact absurd rfl allowed
        | named | failsAfter | failsLeaving | failsPartway => cases altered

theorem attempts_unchange {c : Files.Change Plaintext}
    {ok : Unit → List ProfileEntry → ProfileStore C → Prop}
    {error : IoError → List ProfileEntry → ProfileStore C → Prop}
    (done : ∀ files, c.apply s.files = .ok files →
      ok () (journal ++ [⟨.change c true, Except.ok ()⟩]) { s with files })
    (failed : ∀ e, c.apply s.files = .error e →
      error e (journal ++ [⟨.change c true, Except.error e⟩]) s) :
    (unchange c).Attempts (orderly P userData) ok error journal s := by
  rintro _ rfl - choice s' reply allowed ran
  cases show choice = .fate .proceeds from by cases c <;> exact allowed
  obtain ⟨⟨files, reply⟩, altered, same⟩ := Option.map_eq_some_iff.mp ran
  cases same
  rcases alter_cases altered with ⟨result, rfl⟩ | ⟨e, rfl, -, natural⟩
  · exact ⟨trivial, trivial, done files result⟩
  · obtain ⟨result, rfl⟩ := natural rfl
    exact ⟨trivial, trivial, failed e result⟩

theorem attempts_ensureProfile {directoryName displayName : String}
    {ok : Unit → List ProfileEntry → ProfileStore C → Prop}
    {error : ClientError → List ProfileEntry → ProfileStore C → Prop}
    (done : ∀ state journal', s.state.ensureProfile directoryName displayName = .ok state →
      Passes journal journal' → ok () journal' { s with state })
    (failed : ∀ e journal', Passes journal journal' → error e journal' s) :
    (ensureProfile directoryName displayName).Attempts (orderly P userData) ok error journal s :=
  attempts_commit (fun _ => trivial) (fun _ _ _ ran => ran) done failed

theorem attempts_renameProfile {directoryName displayName : String}
    {ok : Unit → List ProfileEntry → ProfileStore C → Prop}
    {error : ClientError → List ProfileEntry → ProfileStore C → Prop}
    (done : ∀ state journal', s.state.renameProfile directoryName displayName = .ok state →
      Passes journal journal' → ok () journal' { s with state })
    (failed : ∀ e journal', Passes journal journal' → error e journal' s) :
    (renameProfile directoryName displayName).Attempts (orderly P userData) ok error journal s :=
  attempts_commit (fun _ => trivial) (fun _ _ _ ran => ran) done failed

theorem attempts_setDefaultProfile {directoryName : String}
    {ok : Unit → List ProfileEntry → ProfileStore C → Prop}
    {error : ClientError → List ProfileEntry → ProfileStore C → Prop}
    (done : ∀ state journal', s.state.setDefaultProfile directoryName = .ok state →
      Passes journal journal' → ok () journal' { s with state })
    (failed : ∀ e journal', Passes journal journal' → error e journal' s) :
    (setDefaultProfile directoryName).Attempts (orderly P userData) ok error journal s :=
  attempts_commit (fun _ => trivial) (fun _ _ _ ran => ran) done failed

theorem attempts_setAutoSync {directoryName : String} {enabled : Bool}
    {ok : Unit → List ProfileEntry → ProfileStore C → Prop}
    {error : ClientError → List ProfileEntry → ProfileStore C → Prop}
    (done : ∀ state journal', s.state.setAutoSync directoryName enabled = .ok state →
      Passes journal journal' → ok () journal' { s with state })
    (failed : ∀ e journal', Passes journal journal' → error e journal' s) :
    (setAutoSync directoryName enabled).Attempts (orderly P userData) ok error journal s :=
  attempts_commit (fun _ => trivial) (fun _ _ _ ran => ran) done failed

theorem attempts_recordProfileArchive {id directoryName archiveDirectory displayName : String}
    {ok : Unit → List ProfileEntry → ProfileStore C → Prop}
    {error : ClientError → List ProfileEntry → ProfileStore C → Prop}
    (done : ∀ archivedAt state journal', s.state.recordProfileArchive
        ⟨id, directoryName, archiveDirectory, displayName, archivedAt⟩ = .ok state →
      Passes journal journal' → ok () journal' { s with state })
    (failed : ∀ e journal', error e journal' s) :
    (recordProfileArchive id directoryName archiveDirectory displayName).Attempts
      (orderly P userData) ok error journal s := by
  rintro _ rfl - choice s' reply - ran
  cases choice with
  | proceed | drawn | fate => cases ran
  | failed details =>
      cases ran
      exact ⟨trivial, trivial, failed _ _⟩
  | stamped archivedAt =>
      have ran : s.committed (s.state.recordProfileArchive
        ⟨id, directoryName, archiveDirectory, displayName, archivedAt⟩) .proceed =
          some (s', reply) := ran
      rcases committed_cases ran with ⟨state, result, rfl, rfl⟩ | ⟨rfl, e, rfl⟩
      · exact ⟨trivial, trivial, done archivedAt state _ result (.snoc trivial)⟩
      · exact ⟨trivial, trivial, failed e _⟩

theorem attempts_removeProfileArchive {id : String}
    {ok : Unit → List ProfileEntry → ProfileStore C → Prop}
    {error : ClientError → List ProfileEntry → ProfileStore C → Prop}
    (done : ∀ state journal', s.state.removeProfileArchive id = .ok state →
      Passes journal journal' → ok () journal' { s with state })
    (failed : ∀ e journal', error e journal' s) :
    (removeProfileArchive id).Attempts (orderly P userData) ok error journal s := by
  rintro _ rfl - choice s' reply - ran
  rcases committed_cases ran with ⟨state, result, rfl, rfl⟩ | ⟨rfl, e, rfl⟩
  · exact ⟨trivial, trivial, done state _ result (.snoc trivial)⟩
  · exact ⟨trivial, trivial, failed e _⟩

end

theorem locate_some {files : FileTree Plaintext} {entry : String × String}
    {profile : LocatedProfile} (located : locate userData files entry = some profile) :
    profile.directoryName = entry.1 ∧ profile.path = userData ++ [entry.1] ∧
      files.stat (userData ++ [entry.1]) = some .dir := by
  rw [locate] at located
  split at located
  · rename_i directory
    cases located
    exact ⟨rfl, rfl, directory⟩
  · cases located

/-- A profile that was found has its directory in the user data. -/
theorem mem_discovered {profiles : List LocatedProfile} (linkless : s.files.Linkless userData)
    (found : discoverProfiles P userData s.files = .ok profiles) {profile : LocatedProfile}
    (member : profile ∈ profiles) :
    profile.path = userData ++ [profile.directoryName] ∧
      Present userData s profile.directoryName := by
  obtain ⟨_, _, found⟩ := Fallible.bind_ok_iff.mp found
  obtain ⟨cache, _, found⟩ := Fallible.bind_ok_iff.mp found
  obtain ⟨entries, _, found⟩ := Fallible.bind_ok_iff.mp found
  cases found
  obtain ⟨entry, _, located⟩ := List.mem_filterMap.mp member
  obtain ⟨named, path, directory⟩ := locate_some located
  rw [named]
  refine ⟨path, look_of_stat linkless ?_⟩
  rw [directory]
  nofun

/-- Only preferences have changed, and only plain answers have come. -/
def Undisturbed (userData : Path) (journal : List ProfileEntry) (s : ProfileStore C)
    (journal' : List ProfileEntry) (s' : ProfileStore C) : Prop :=
  Steady userData s s' ∧ Passes journal journal'

theorem Undisturbed.trans {j₁ j₂ j₃ : List ProfileEntry} {s₁ s₂ s₃ : ProfileStore C}
    (first : Undisturbed userData j₁ s₁ j₂ s₂) (later : Undisturbed userData j₂ s₂ j₃ s₃) :
    Undisturbed userData j₁ s₁ j₃ s₃ :=
  ⟨first.1.trans later.1, first.2.trans later.2⟩

theorem ensureProfiles_attempts {profiles : List LocatedProfile}
    (present : ∀ profile ∈ profiles, Present userData s profile.directoryName) :
    (ensureProfiles profiles).Attempts (orderly P userData)
      (fun _ => Undisturbed userData journal s) (fun _ => Undisturbed userData journal s)
      journal s := by
  induction profiles generalizing s journal with
  | nil => exact Action.attempts_pure.mpr ⟨.refl, .refl journal⟩
  | cons profile profiles ih =>
      apply Action.attempts_bind.mpr
      apply Action.attempts_mapErr.mpr
      apply attempts_ensureProfile
      · intro state journal' ensured passes
        have steady := steady_ensureProfile (present profile List.mem_cons_self) ensured
        have rest := @ih { s with state } journal' fun other member =>
          present other (List.mem_cons_of_mem profile member)
        refine Action.Attempts.mono rest ?_ ?_
        · exact fun _ _ _ later => Undisturbed.trans ⟨steady, passes⟩ later
        · exact fun _ _ _ later => Undisturbed.trans ⟨steady, passes⟩ later
      · intro e journal' passes
        exact ⟨.refl, passes⟩

theorem ensureDiscoveredProfiles_attempts (linkless : s.files.Linkless userData) :
    ensureDiscoveredProfiles.Attempts (orderly P userData)
      (fun _ => Undisturbed userData journal s) (fun _ => Undisturbed userData journal s)
      journal s := by
  apply Action.attempts_bind.mpr
  apply attempts_discover
  · intro profiles journal₁ found passes₁
    apply Action.attempts_bind.mpr
    refine (ensureProfiles_attempts fun profile member => (mem_discovered linkless found member).2).mono
      ?_ ?_
    · intro _ journal₂ s₂ ensured
      have so : Undisturbed userData journal s journal₂ s₂ := ⟨ensured.1, passes₁.trans ensured.2⟩
      apply Action.attempts_bind.mpr
      apply Action.attempts_mapErr.mpr
      apply attempts_profilePreferences
      · intro journal₃ passes₃
        have so' : Undisturbed userData journal s journal₃ s₂ := ⟨so.1, so.2.trans passes₃⟩
        dsimp only
        split
        · exact Action.attempts_pure.mpr so'
        · split
          · apply Action.attempts_bind.mpr
            apply Action.attempts_mapErr.mpr
            apply attempts_setDefaultProfile
            · intro state journal₄ updated passes₄
              exact Action.attempts_pure.mpr
                ⟨so.1.trans (steady_setDefaultProfile updated), so'.2.trans passes₄⟩
            · intro e journal₄ passes₄
              exact ⟨so.1, so'.2.trans passes₄⟩
          · exact Action.attempts_pure.mpr so'
      · intro e journal₃ passes₃
        exact ⟨so.1, so.2.trans passes₃⟩
    · intro e journal₂ s₂ ensured
      exact ⟨ensured.1, passes₁.trans ensured.2⟩
  · intro e journal₁ passes₁
    exact ⟨.refl, passes₁⟩

theorem profileReport_attempts (linkless : s.files.Linkless userData) :
    profileReport.Attempts (orderly P userData) (fun _ => Undisturbed userData journal s)
      (fun _ => Undisturbed userData journal s) journal s := by
  apply Action.attempts_bind.mpr
  refine (ensureDiscoveredProfiles_attempts linkless).mono ?_ ?_
  · intro profiles journal₁ s₁ so
    apply Action.attempts_bind.mpr
    apply Action.attempts_mapErr.mpr
    apply attempts_profilePreferences
    · intro journal₂ passes₂
      apply Action.attempts_bind.mpr
      apply Action.attempts_mapErr.mpr
      apply attempts_profileArchives
      · intro journal₃ passes₃
        exact Action.attempts_pure.mpr ⟨so.1, so.2.trans (passes₂.trans passes₃)⟩
      · intro e journal₃ passes₃
        exact ⟨so.1, so.2.trans (passes₂.trans passes₃)⟩
    · intro e journal₂ passes₂
      exact ⟨so.1, so.2.trans passes₂⟩
  · exact fun _ _ _ so => so

theorem discoveredProfile_attempts (linkless : s.files.Linkless userData) {directory : String}
    {ok : LocatedProfile → List ProfileEntry → ProfileStore C → Prop}
    {error : String → List ProfileEntry → ProfileStore C → Prop}
    (done : ∀ profile journal', profile.path = userData ++ [directory] →
      Present userData s directory → Passes journal journal' → ok profile journal' s)
    (failed : ∀ e journal', Passes journal journal' → error e journal' s) :
    (discoveredProfile directory).Attempts (orderly P userData) ok error journal s := by
  apply Action.attempts_bind.mpr
  apply attempts_discover
  · intro profiles journal' found passes
    cases chosen : profiles.find? (·.directoryName = directory) with
    | none => exact Action.attempts_throw.mpr (failed _ _ passes)
    | some profile =>
        have named : profile.directoryName = directory := by simpa using List.find?_some chosen
        obtain ⟨path, present⟩ := mem_discovered linkless found (List.mem_of_find?_eq_some chosen)
        rw [named] at path present
        exact Action.attempts_pure.mpr (done profile journal' path present passes)
  · exact failed

theorem mem_profileArchives {state : LocalState C} {row : ProfileArchive} :
    row ∈ state.profileArchives ↔ row ∈ state.archives := (List.perm_insertionSort _ _).mem_iff

theorem findProfileArchive_attempts {id : String}
    {ok : ProfileArchive → List ProfileEntry → ProfileStore C → Prop}
    {error : String → List ProfileEntry → ProfileStore C → Prop}
    (done : ∀ archive journal', archive ∈ s.state.archives → archive.id = id →
      Passes journal journal' → ok archive journal' s)
    (failed : ∀ e journal', Passes journal journal' → error e journal' s) :
    (findProfileArchive id).Attempts (orderly P userData) ok error journal s := by
  apply Action.attempts_bind.mpr
  apply Action.attempts_mapErr.mpr
  apply attempts_profileArchives
  · intro journal' passes
    cases chosen : s.state.profileArchives.find? (·.id = id) with
    | none =>
        exact Action.attempts_throw.mpr (failed _ _ passes)
    | some archive =>
        have named : archive.id = id := by simpa using List.find?_some chosen
        have member := mem_profileArchives.mp (List.mem_of_find?_eq_some chosen)
        exact Action.attempts_pure.mpr (done archive journal' member named passes)
  · intro e journal' passes
    exact failed _ journal' passes

end ProfileStore
end HeliumSync
