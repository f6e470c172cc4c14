import HeliumSync.Defaults
import HeliumSync.SessionOps
import HeliumSync.WorldStep

/-! Directory names are used again. What the tables of the database say of a directory was written while
a profile of that name was live, and a new profile finds none of it unless an archive of its name was
deleted for good. -/
namespace HeliumSync
open Interaction (Prog Action Entry)

section
variable {C : Type} {P : Primitives C} {session : Session}

/-- A session stores sync state of its own profile, and changes no other table. -/
structure OwnState (session : Session) (state state' : LocalState C) : Prop where
  preferences : state'.preferences = state.preferences
  archives : state'.archives = state.archives
  mappings : ∀ key, key.localKey ≠ session.profile.directoryName →
    state'.mappings key = state.mappings key
  syncBases : ∀ key, key.localKey ≠ session.profile.directoryName →
    state'.syncBases key = state.syncBases key

theorem OwnState.refl {state : LocalState C} : OwnState session state state :=
  ⟨rfl, rfl, fun _ _ => rfl, fun _ _ => rfl⟩

/-- An operation that stores no sync state of another profile. -/
def Session.Own (session : Session) : Op C → Prop
  | .saveSyncState key .. => key.localKey = session.profile.directoryName
  | _ => True

theorem welcome_own : Welcome P session (session.Own : Op C → Prop) where
  plain op plain := by
    cases op with
    | saveSyncState => exact plain.elim
    | _ => exact trivial
  put _ := trivial
  replace _ := trivial
  restore _ := trivial
  bookmarks _ _ := rfl
  extensions _ _ := rfl

variable {ι : Type} [DecidableEq ι]

theorem exec_own {i : ι} {op : Op C} {choice : Choice} {w w' : World ι C} {reply : Reply C op}
    (own : session.Own op) (ran : World.exec P i op choice w = some (w', reply)) :
    OwnState session (w.device i).state (w'.device i).state := by
  by_cases saves : ∃ key mapping base, op = .saveSyncState key mapping base
  · obtain ⟨key, mapping, base, rfl⟩ := saves
    rcases World.saveSyncState_cases ran with ⟨_, _, _, rfl⟩ | ⟨rfl, _⟩
    · rw [World.setDevice_self]
      have apart : ∀ other : LocalKey, other.localKey ≠ session.profile.directoryName →
          other ≠ key := by
        rintro other differ rfl
        exact differ own
      exact ⟨rfl, rfl, fun other differ => Function.update_of_ne (apart other differ) _ _,
        fun other differ => Function.update_of_ne (apart other differ) _ _⟩
    · exact .refl
  · have same := World.exec_state (fun key mapping base same => saves ⟨key, mapping, base, same⟩) ran i
    rw [same]
    exact .refl

end

namespace ProfileStore
open Files Files.FileTree

variable {C : Type} {P : Primitives C} {userData : Path} {s s' : ProfileStore C}
  {journal : List ProfileEntry} {d : String} {may : ProfileStore C → LocalCommand → Prop}

/-- Nothing has changed but what is below the path. -/
def Below (p : Path) (t t' : FileTree Plaintext) : Prop :=
  ∀ q, (p <+: q → q = p) → t'.look q = t.look q

/-- Commands on profiles, and in any order with them what sessions of profiles that are there ask of
the computer. -/
inductive History (P : Primitives C) (userData : Path) (may : ProfileStore C → LocalCommand → Prop) :
    ProfileStore C → ProfileStore C → Prop
  | start {s : ProfileStore C} : History P userData may s s
  | command {s s₁ s₂ : ProfileStore C} {command : LocalCommand} {journal : List ProfileEntry}
      {result : Except String ProfileReport} : History P userData may s s₁ → may s₁ command →
      Ran P userData command s₁ journal result s₂ → History P userData may s s₂
  | asked {s s₁ s₂ : ProfileStore C} {ι : Type} [DecidableEq ι] {i : ι} {session : Session}
      {kind : ProfileCommand} {op : Op C} {choice : Choice} {w w' : World ι C} {reply : Reply C op} :
      History P userData may s s₁ → Present userData s₁ session.profile.directoryName →
      session.profile.directoryName ≠ archivesName → (session.perform P kind).run.Asks op →
      World.exec P i op choice w = some (w', reply) → (w.device i).state = s₁.state →
      (w'.device i).state = s₂.state →
      Below (userData ++ [session.profile.directoryName]) s₁.files s₂.files →
      History P userData may s s₂

/-- A client whose database is new. -/
structure New (userData : Path) (s : ProfileStore C) : Prop extends Began userData s where
  unnamed : s.state.preferences = []
  unmapped : ∀ key, s.state.mappings key = none
  baseless : ∀ key, s.state.syncBases key = none

/-- The database says something of the directory. -/
def Tells (state : LocalState C) (d : String) : Prop :=
  (∃ row ∈ state.preferences, row.directoryName = d) ∨
    ∃ key : LocalKey, key.localKey = d ∧ (state.mappings key ≠ none ∨ state.syncBases key ≠ none)

/-- The directory is that of a profile, live or archived. -/
def Kept (userData : Path) (s : ProfileStore C) (d : String) : Prop :=
  Present userData s d ∨ ∃ row ∈ s.state.archives, row.directoryName = d

theorem Below.entry {name : String} {t t' : FileTree Plaintext}
    (below : Below (userData ++ [d]) t t') :
    t'.look (userData ++ [name]) = t.look (userData ++ [name]) :=
  below _ fun inside => (inside.eq_of_length (by simp)).symm

theorem Below.filed (below : Below (userData ++ [d]) s.files s'.files) (other : d ≠ archivesName)
    (rows : s'.state.archives = s.state.archives) (filed : Filed userData s) : Filed userData s' := by
  refine filed.fewer (filed.toHome.same fun q before => below q fun inside => ?_) ?_ ?_
  · exact absurd inside (live_outside_root other before)
  · rw [rows]
  · intro row member
    rw [Present, below.entry]
    exact filed.apart row (rows ▸ member)

theorem Settled.tells (settled : Settled userData s s') (tells : Tells s'.state d) :
    Tells s.state d ∨ Present userData s d := by
  rcases tells with ⟨row', member', rfl⟩ | ⟨key, named, kept⟩
  · rcases settled.names row' member' with present | ⟨row, member, same⟩
    · exact .inr present
    · exact .inl (.inl ⟨row, member, same⟩)
  · rw [settled.mappings, settled.syncBases] at kept
    exact .inl (.inr ⟨key, named, kept⟩)

section
variable {movement : Movement}

/-- No movement tells anything of a directory. -/
theorem Moved.tells (moved : Moved userData movement s s') (tells : Tells s'.state d) :
    Tells s.state d := by
  cases moved with
  | create | root | empty => exact tells
  | archive _ _ _ recorded =>
      rw [LocalState.recordProfileArchive] at recorded
      split_ifs at recorded
      cases recorded
      rcases tells with ⟨row', member', rfl⟩ | kept
      · obtain ⟨row, member, rfl⟩ := List.mem_map.mp member'
        refine .inl ⟨row, member, ?_⟩
        split_ifs <;> rfl
      · exact .inr kept
  | restore _ _ _ removed | forget _ removed =>
      rw [LocalState.removeProfileArchive] at removed
      split_ifs at removed
      cases removed
      exact tells

/-- A profile whose archive is not deleted stays one. -/
theorem Moved.kept (moved : Moved userData movement s s') (filed : Filed userData s)
    (spares : movement.Spares d) (kept : Kept userData s d) : Kept userData s' d := by
  have remains : ∀ {row : ProfileArchive} {state : LocalState C}, row ∈ s.state.archives →
      s.state.removeProfileArchive row.id = .ok state → row.directoryName ≠ d →
      (∃ row ∈ s.state.archives, row.directoryName = d) →
      ∃ row ∈ state.archives, row.directoryName = d := by
    rintro row state listed removed other ⟨row', member', rfl⟩
    refine ⟨row', ?_, rfl⟩
    rw [removeProfileArchive_ok removed]
    have apart := (filed.distinct listed member' (Ne.symm other)).1
    exact List.mem_filter.mpr ⟨member', decide_eq_true apart⟩
  cases moved with
  | @create _ name _ free _ =>
      rcases kept with present | archived
      · have other : d ≠ name := by
          rintro rfl
          exact present free
        exact .inl (by rwa [Present, look_put_of_apart _ (live_apart (Ne.symm other))])
      · exact .inr archived
  | root absent =>
      rcases kept with present | archived
      · have other : d ≠ archivesName := by
          rintro rfl
          exact present absent
        exact .inl (by rwa [Present, look_put_of_apart _ (root_apart other)])
      · exact .inr archived
  | @archive _ state row _ _ _ recorded =>
      obtain ⟨rows, _⟩ := recordProfileArchive_ok recorded
      by_cases same : row.directoryName = d
      · exact .inr ⟨row, rows ▸ List.mem_append_right _ List.mem_cons_self, same⟩
      · rcases kept with present | ⟨row', member', named⟩
        · exact .inl (by rwa [Present, look_move_of_apart (live_apart same) archived_outside])
        · exact .inr ⟨row', rows ▸ List.mem_append_left _ member', named⟩
  | @restore _ state row listed _ found removed =>
      by_cases same : row.directoryName = d
      · subst same
        left
        have there := congrArg kind (get_move_self (t := s.files) filed.directory
          (archived_outside (a := row.archiveDirectory) (d := row.directoryName)))
        exact fun absent => found (there.symm.trans absent)
      · rcases kept with present | archived
        · exact .inl (by rwa [Present, look_move_of_apart archived_outside (live_apart same)])
        · exact .inr (remains listed removed same archived)
  | @empty _ row removed _ =>
      rcases kept with present | archived
      · exact .inl (by rwa [Present, within_prune removed _ archived_outside])
      · exact .inr archived
  | @forget _ state row listed removed =>
      rcases kept with present | archived
      · exact .inl present
      · exact .inr (remains listed removed (spares row (.inr rfl)) archived)

/-- The user data is in accord with the archive, and the database tells of the directory only while its
profile is kept. -/
structure Accounted (userData : Path) (d : String) (s : ProfileStore C) : Prop extends
    Filed userData s where
  kept : Tells s.state d → Kept userData s d

theorem Settled.accounted (settled : Settled userData s s') (accounted : Accounted userData d s) :
    Accounted userData d s' where
  toFiled := settled.filed accounted.toFiled
  kept tells := by
    rw [Kept, Present, settled.files, settled.archives]
    rcases settled.tells tells with told | present
    · exact accounted.kept told
    · exact .inl present

theorem Moved.accounted (moved : Moved userData movement s s') (spares : movement.Spares d)
    (accounted : Accounted userData d s) : Accounted userData d s' where
  toFiled := moved.filed accounted.toFiled
  kept tells := moved.kept accounted.toFiled spares (accounted.kept (moved.tells tells))

end

theorem tells_of_own {session : Session} {state state' : LocalState C}
    (own : OwnState session state state') (tells : Tells state' d) :
    Tells state d ∨ d = session.profile.directoryName := by
  rcases tells with ⟨row, member, named⟩ | ⟨key, rfl, kept⟩
  · exact .inl (.inl ⟨row, own.preferences ▸ member, named⟩)
  · by_cases same : key.localKey = session.profile.directoryName
    · exact .inr same
    · rw [own.mappings key same, own.syncBases key same] at kept
      exact .inl (.inr ⟨key, rfl, kept⟩)

theorem History.accounted (history : History P userData (SparesArchives d) s s')
    (accounted : Accounted userData d s) : Accounted userData d s' := by
  induction history with
  | start => exact accounted
  | command _ spared ran ih =>
      exact (ran.moves ih.toFiled).keeps Settled.accounted
        (fun makes moved => moved.accounted (makes.spares spared)) ih
  | asked _ present other asks ran same same' below ih =>
      have own := exec_own ((welcome_own.perform _).asked asks) ran
      rw [same, same'] at own
      refine ⟨below.filed other own.archives ih.toFiled, ?_⟩
      intro tells
      rw [Kept, Present, below.entry, own.archives]
      rcases tells_of_own own tells with told | rfl
      · exact ih.kept told
      · exact .inl present

theorem New.accounted (new : New userData s) : Accounted userData d s where
  toFiled := new.toBegan.filed
  kept tells := by
    rcases tells with ⟨row, member, _⟩ | ⟨key, _, mapped | based⟩
    · rw [new.unnamed] at member
      cases member
    · exact absurd (new.unmapped key) mapped
    · exact absurd (new.baseless key) based

theorem NextFree.unique {n m : Nat} (first : NextFree userData s n) (other : NextFree userData s m) :
    n = m := by
  rcases Nat.lt_trichotomy n m with below | same | above
  · exact absurd first.free (other.least n first.positive below)
  · exact same
  · exact absurd other.free (first.least m other.positive above)

attribute [local irreducible] Action.Attempts

section
open Reference

end

end ProfileStore
end HeliumSync
