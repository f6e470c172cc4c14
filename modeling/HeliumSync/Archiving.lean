import HeliumSync.ProfileRules

/-! What the commands on profiles do to the user data, the archive and its registry: each makes a
few movements of a profile, and every movement keeps the three in accord. -/
namespace HeliumSync.ProfileStore
open Interaction (Prog Action Entry Contract)
open Files Files.FileTree

variable {C : Type} {P : Primitives C} {userData : Path} {s s' : ProfileStore C}
  {journal journal' : List ProfileEntry} {d a name : String}

/-- The name of the archive in the user data. -/
abbrev archivesName : String := ".helium-sync-archives"

theorem live_outside_root {q : Path} (other : d ≠ archivesName)
    (before : q <+: profileArchiveRoot userData) : ¬ userData ++ [d] <+: q := fun inside =>
  other (eq_of_prefix_concat (inside.trans before))

/-- A profile is beside the archive. -/
theorem live_outside (other : d ≠ archivesName) :
    ¬ userData ++ [d] <+: profileArchiveRoot userData ++ [a] := by
  intro before
  rcases List.prefix_concat_iff.mp before with same | inside
  · exact absurd (congrArg List.length same) (by simp [profileArchiveRoot])
  · exact live_outside_root other List.prefix_rfl inside

theorem archived_outside : ¬ profileArchiveRoot userData ++ [a] <+: userData ++ [d] := fun before =>
  not_prefix_concat List.prefix_rfl (prefix_of_concat before)

theorem live_apart (other : d ≠ name) : ¬ userData ++ [d] <+: userData ++ [name] := fun before =>
  other (eq_of_prefix_concat before)

theorem archived_apart {b : String} (other : a ≠ b) :
    ¬ profileArchiveRoot userData ++ [a] <+: profileArchiveRoot userData ++ [b] := fun before =>
  other (eq_of_prefix_concat before)

theorem root_apart (other : d ≠ archivesName) :
    ¬ profileArchiveRoot userData <+: userData ++ [d] := live_apart (Ne.symm other)

/-- The user data is a directory, and no link is on the way to the archive. -/
structure Home (userData : Path) (s : ProfileStore C) : Prop where
  directory : s.files.isDir userData
  linkless : s.files.Linkless (profileArchiveRoot userData)

theorem Home.reached (home : Home userData s) : s.files.Linkless userData :=
  home.linkless.of_before (List.prefix_append userData _)

theorem Home.same (home : Home userData s)
    (same : ∀ q, q <+: profileArchiveRoot userData → s'.files.look q = s.files.look q) :
    Home userData s' where
  directory := (same userData (List.prefix_append userData _)).trans home.directory
  linkless q before target link := home.linkless q before target ((same q before).symm.trans link)

/-- At most the archive was made. -/
def Rooting (userData : Path) (t t' : FileTree Plaintext) : Prop :=
  t' = t ∨ (t.look (profileArchiveRoot userData) = none ∧
    t' = t.put (profileArchiveRoot userData) folder)

theorem rooting_of_createDirAll {files : FileTree Plaintext} (home : Home userData s)
    (made : (Files.Change.createDirAll (profileArchiveRoot userData)).apply s.files = .ok files ∨
      (Files.Change.createDirAll (profileArchiveRoot userData)).MayLeave s.files files ∨
        files = s.files) : Rooting userData s.files files :=
  createDirAll_entry home.directory (Change.paved_of_createDirAll home.linkless.dropLast made)

/-- One change of the user data, the archive or its registry. -/
inductive Movement where
  | create (name : String)
  | root
  | archive (row : ProfileArchive)
  | restore (row : ProfileArchive)
  | empty (row : ProfileArchive)
  | forget (row : ProfileArchive)

/-- What a movement needs and does. -/
inductive Moved (userData : Path) : Movement → ProfileStore C → ProfileStore C → Prop
  | create {s : ProfileStore C} {name : String} : name ≠ archivesName →
      s.files.look (userData ++ [name]) = none →
      (∀ row ∈ s.state.archives, row.directoryName ≠ name) →
      Moved userData (.create name) s { s with files := s.files.put (userData ++ [name]) folder }
  | root {s : ProfileStore C} : s.files.look (profileArchiveRoot userData) = none →
      Moved userData .root s { s with files := s.files.put (profileArchiveRoot userData) folder }
  | archive {s : ProfileStore C} {state : LocalState C} {row : ProfileArchive} :
      s.files.isDir (profileArchiveRoot userData) →
      s.files.look (profileArchiveRoot userData ++ [row.archiveDirectory]) = none →
      row.directoryName ≠ archivesName → s.state.recordProfileArchive row = .ok state →
      Moved userData (.archive row) s
        ⟨s.files.move (userData ++ [row.directoryName])
          (profileArchiveRoot userData ++ [row.archiveDirectory]), state⟩
  | restore {s : ProfileStore C} {state : LocalState C} {row : ProfileArchive} :
      row ∈ s.state.archives → s.files.look (userData ++ [row.directoryName]) = none →
      s.files.look (profileArchiveRoot userData ++ [row.archiveDirectory]) ≠ none →
      s.state.removeProfileArchive row.id = .ok state →
      Moved userData (.restore row) s
        ⟨s.files.move (profileArchiveRoot userData ++ [row.archiveDirectory])
          (userData ++ [row.directoryName]), state⟩
  | empty {s : ProfileStore C} {row : ProfileArchive} (removed : List Path) :
      row ∈ s.state.archives → Moved userData (.empty row) s
        { s with files :=
            s.files.prune (profileArchiveRoot userData ++ [row.archiveDirectory]) removed }
  | forget {s : ProfileStore C} {state : LocalState C} {row : ProfileArchive} :
      row ∈ s.state.archives → s.state.removeProfileArchive row.id = .ok state →
      Moved userData (.forget row) s { s with state }

/-- Movements of some kinds, with changes of preferences around them. -/
inductive Moves (userData : Path) (may : Movement → Prop) : ProfileStore C → ProfileStore C → Prop
  | settled {s s' : ProfileStore C} : Settled userData s s' → Moves userData may s s'
  | moved {s s₁ s₂ s' : ProfileStore C} {movement : Movement} : Settled userData s s₁ →
      may movement → Moved userData movement s₁ s₂ → Moves userData may s₂ s' →
      Moves userData may s s'

namespace Moves
variable {may may' : Movement → Prop}

theorem after {s₁ : ProfileStore C} (settled : Settled userData s s₁)
    (moves : Moves userData may s₁ s') : Moves userData may s s' := by
  cases moves with
  | settled settled' => exact .settled (settled.trans settled')
  | moved settled' allowed moved rest => exact .moved (settled.trans settled') allowed moved rest

theorem trans {s₁ : ProfileStore C} (first : Moves userData may s s₁)
    (later : Moves userData may s₁ s') : Moves userData may s s' := by
  induction first with
  | settled settled => exact later.after settled
  | moved settled allowed moved _ ih => exact .moved settled allowed moved (ih later)

theorem single {movement : Movement} (allowed : may movement)
    (moved : Moved userData movement s s') : Moves userData may s s' :=
  .moved .refl allowed moved (.settled .refl)

theorem mono (moves : Moves userData may s s') (imp : ∀ movement, may movement → may' movement) :
    Moves userData may' s s' := by
  induction moves with
  | settled settled => exact .settled settled
  | moved settled allowed moved _ ih => exact .moved settled (imp _ allowed) moved ih

/-- What settling and every movement keep is kept. -/
theorem keeps {I : ProfileStore C → Prop} (moves : Moves userData may s s')
    (still : ∀ {s s'}, Settled userData s s' → I s → I s')
    (step : ∀ {movement s s'}, may movement → Moved userData movement s s' → I s → I s')
    (held : I s) : I s' := by
  induction moves with
  | settled settled => exact still settled held
  | moved settled allowed moved _ ih => exact ih (step allowed moved (still settled held))

end Moves

/-- The user data, the archive and the registry are in accord. -/
structure Filed (userData : Path) (s : ProfileStore C) : Prop extends Home userData s where
  apart : ∀ row ∈ s.state.archives, ¬ Present userData s row.directoryName
  named : ∀ row ∈ s.state.archives, row.directoryName ≠ archivesName
  ids : (s.state.archives.map (·.id)).Nodup
  names : (s.state.archives.map (·.directoryName)).Nodup
  places : (s.state.archives.map (·.archiveDirectory)).Nodup

theorem recordProfileArchive_ok {state state' : LocalState C} {row : ProfileArchive}
    (recorded : state.recordProfileArchive row = .ok state') :
    state'.archives = state.archives ++ [row] ∧
      ∀ other ∈ state.archives, other.id ≠ row.id ∧ other.directoryName ≠ row.directoryName ∧
        other.archiveDirectory ≠ row.archiveDirectory := by
  rw [LocalState.recordProfileArchive] at recorded
  split_ifs at recorded with named taken
  cases recorded
  refine ⟨rfl, ?_⟩
  intro other member
  refine ⟨fun same => taken ?_, fun same => taken ?_, fun same => taken ?_⟩
  · exact List.any_eq_true.mpr ⟨other, member, decide_eq_true (.inl same)⟩
  · exact List.any_eq_true.mpr ⟨other, member, decide_eq_true (.inr (.inl same))⟩
  · exact List.any_eq_true.mpr ⟨other, member, decide_eq_true (.inr (.inr same))⟩

theorem removeProfileArchive_ok {state state' : LocalState C} {id : String}
    (removed : state.removeProfileArchive id = .ok state') :
    state'.archives = state.archives.filter (·.id ≠ id) := by
  rw [LocalState.removeProfileArchive] at removed
  split_ifs at removed
  cases removed
  rfl

theorem nodup_map_concat {β : Type} {f : β → String} {rows : List β} {row : β} (nodup : (rows.map f).Nodup) (fresh : ∀ other ∈ rows, f other ≠ f row) :
    ((rows ++ [row]).map f).Nodup := by
  rw [List.map_append, List.map_singleton]
  apply List.nodup_append_comm.mp
  refine List.nodup_cons.mpr ⟨?_, nodup⟩
  intro member
  obtain ⟨other, old, same⟩ := List.mem_map.mp member
  exact fresh other old same

section
variable {movement : Movement}

/-- With no more rows the registry stays in accord. -/
theorem Filed.fewer (filed : Filed userData s) (home : Home userData s')
    (rows : s'.state.archives.Sublist s.state.archives)
    (apart : ∀ row ∈ s'.state.archives, ¬ Present userData s' row.directoryName) :
    Filed userData s' where
  toHome := home
  apart := apart
  named row member := filed.named row (rows.subset member)
  ids := filed.ids.sublist (rows.map _)
  names := filed.names.sublist (rows.map _)
  places := filed.places.sublist (rows.map _)

/-- The rows of two profiles differ in everything. -/
theorem Filed.distinct (filed : Filed userData s) {row row' : ProfileArchive}
    (member : row ∈ s.state.archives) (member' : row' ∈ s.state.archives)
    (other : row'.directoryName ≠ row.directoryName) :
    row'.id ≠ row.id ∧ row'.archiveDirectory ≠ row.archiveDirectory := by
  refine ⟨fun same => other ?_, fun same => other ?_⟩
  · exact congrArg _ (List.inj_on_of_nodup_map filed.ids member' member same)
  · exact congrArg _ (List.inj_on_of_nodup_map filed.places member' member same)

theorem Settled.filed (settled : Settled userData s s') (filed : Filed userData s) :
    Filed userData s' := by
  refine filed.fewer (filed.toHome.same fun q _ => by rw [settled.files]) ?_ ?_
  · rw [settled.archives]
  · intro row member
    rw [Present, settled.files]
    exact filed.apart row (settled.archives ▸ member)

theorem home_root (home : Home userData s) :
    Home userData { s with files := s.files.put (profileArchiveRoot userData) folder } := by
  have above : ∀ q, q <+: profileArchiveRoot userData → q ≠ profileArchiveRoot userData →
      (s.files.put (profileArchiveRoot userData) folder).look q = s.files.look q :=
    fun q before other => look_put_of_apart _ fun inside =>
      other (before.eq_of_length_le inside.length_le)
  refine ⟨(above userData (List.prefix_append _ _) (by simp [profileArchiveRoot])).trans
    home.directory, ?_⟩
  intro q before target link
  by_cases whole : q = profileArchiveRoot userData
  · subst whole
    cases (look_put home.directory folder []).symm.trans link
  · exact home.linkless q before target ((above q before whole).symm.trans link)

theorem Rooting.home {files : FileTree Plaintext} (rooting : Rooting userData s.files files)
    (home : Home userData s) : Home userData { s with files } := by
  rcases rooting with rfl | ⟨_, rfl⟩
  · exact home
  · exact home_root home

theorem Rooting.fresh {files : FileTree Plaintext} (rooting : Rooting userData s.files files)
    (home : Home userData s) (fresh : s.files.look (profileArchiveRoot userData ++ [a]) = none) :
    files.look (profileArchiveRoot userData ++ [a]) = none := by
  rcases rooting with rfl | ⟨absent, rfl⟩
  · exact fresh
  · rw [profileArchiveRoot, List.append_assoc]
    exact look_put home.directory folder [a]

/-- Every movement keeps the accord. -/
theorem Moved.filed (moved : Moved userData movement s s') (filed : Filed userData s) :
    Filed userData s' := by
  have beside : ∀ row ∈ s.state.archives, ∀ row' ∈ s.state.archives, row'.id ≠ row.id →
      row'.directoryName ≠ row.directoryName := by
    intro row member row' member' other same
    exact other (congrArg _ (List.inj_on_of_nodup_map filed.names member' member same))
  cases moved with
  | create other free unreserved =>
      refine filed.fewer (filed.toHome.same fun q before =>
        look_put_of_apart _ (live_outside_root other before)) (List.Sublist.refl _) ?_
      intro row member
      rw [Present, look_put_of_apart _ (live_apart (Ne.symm (unreserved row member)))]
      exact filed.apart row member
  | root absent =>
      refine filed.fewer (home_root filed.toHome) (List.Sublist.refl _) ?_
      intro row member
      rw [Present, look_put_of_apart _ (root_apart (filed.named row member))]
      exact filed.apart row member
  | @archive _ state row directory free other recorded =>
      obtain ⟨rows, apart⟩ := recordProfileArchive_ok recorded
      have home : Home userData ⟨s.files.move (userData ++ [row.directoryName])
          (profileArchiveRoot userData ++ [row.archiveDirectory]), state⟩ :=
        filed.toHome.same fun q before =>
          look_move_of_apart (live_outside_root other before) (not_prefix_concat before)
      refine ⟨home, ?_, ?_, ?_, ?_, ?_⟩
      · intro row' member
        rw [rows] at member
        rcases List.mem_append.mp member with old | new
        · rw [Present, look_move_of_apart (live_apart (Ne.symm (apart row' old).2.1)) archived_outside]
          exact filed.apart row' old
        · cases List.mem_singleton.mp new
          exact not_not_intro (look_move_src filed.directory archived_outside)
      · intro row' member
        rw [rows] at member
        rcases List.mem_append.mp member with old | new
        · exact filed.named row' old
        · cases List.mem_singleton.mp new
          exact other
      · exact rows ▸ nodup_map_concat filed.ids fun row' old => (apart row' old).1
      · exact rows ▸ nodup_map_concat filed.names fun row' old => (apart row' old).2.1
      · exact rows ▸ nodup_map_concat filed.places fun row' old => (apart row' old).2.2
  | @restore _ state row listed free _ removed =>
      have rows := removeProfileArchive_ok removed
      have home : Home userData ⟨s.files.move (profileArchiveRoot userData ++ [row.archiveDirectory])
          (userData ++ [row.directoryName]), state⟩ :=
        filed.toHome.same fun q before => look_move_of_apart (not_prefix_concat before)
          (live_outside_root (filed.named row listed) before)
      refine filed.fewer home (rows ▸ List.filter_sublist) ?_
      intro row' member
      rw [rows] at member
      obtain ⟨old, other⟩ := List.mem_filter.mp member
      have other := beside row listed row' old (of_decide_eq_true other)
      rw [Present, look_move_of_apart archived_outside (live_apart (Ne.symm other))]
      exact filed.apart row' old
  | @empty _ row removed listed =>
      refine filed.fewer (filed.toHome.same fun q before =>
        within_prune removed q (not_prefix_concat before)) (List.Sublist.refl _) ?_
      intro row' member
      rw [Present, within_prune removed _ archived_outside]
      exact filed.apart row' member
  | @forget _ state row listed removed =>
      have rows := removeProfileArchive_ok removed
      refine filed.fewer (filed.toHome.same fun _ _ => rfl) (rows ▸ List.filter_sublist) ?_
      intro row' member
      rw [rows] at member
      exact filed.apart row' (List.mem_of_mem_filter member)

/-- The tree of a profile is live under its name, or in the directory of exactly one archive. -/
def KeptOnce (userData : Path) (s : ProfileStore C) (d : String) (tree : FileTree Plaintext) : Prop :=
  (s.files.get (userData ++ [d]) = tree ∧ ∀ row ∈ s.state.archives, row.directoryName ≠ d) ∨
    (s.files.look (userData ++ [d]) = none ∧ ∃ row ∈ s.state.archives, row.directoryName = d ∧
      s.files.get (profileArchiveRoot userData ++ [row.archiveDirectory]) = tree ∧
      ∀ other ∈ s.state.archives, other.directoryName = d ∨
        other.archiveDirectory = row.archiveDirectory → other = row)

theorem Settled.keptOnce {tree : FileTree Plaintext} (settled : Settled userData s s')
    (kept : KeptOnce userData s d tree) : KeptOnce userData s' d tree := by
  rwa [KeptOnce, settled.files, settled.archives]

/-- A movement that does not delete the profile. -/
def Movement.Spares (d : String) (movement : Movement) : Prop :=
  ∀ row, movement = .empty row ∨ movement = .forget row → row.directoryName ≠ d

/-- Where nothing of a profile is touched, it stays as it is. -/
theorem KeptOnce.same {tree : FileTree Plaintext} (kept : KeptOnce userData s d tree)
    (live : s'.files.get (userData ++ [d]) = s.files.get (userData ++ [d]))
    (archived : ∀ row ∈ s.state.archives, row.directoryName = d →
      s'.files.get (profileArchiveRoot userData ++ [row.archiveDirectory]) =
        s.files.get (profileArchiveRoot userData ++ [row.archiveDirectory]))
    (listed : ∀ row ∈ s.state.archives, row.directoryName = d → row ∈ s'.state.archives)
    (fewer : ∀ row' ∈ s'.state.archives, row' ∈ s.state.archives ∨ (row'.directoryName ≠ d ∧
      ∀ row ∈ s.state.archives, row'.archiveDirectory ≠ row.archiveDirectory)) :
    KeptOnce userData s' d tree := by
  rcases kept with ⟨here, unlisted⟩ | ⟨absent, row, member, named, there, only⟩
  · refine .inl ⟨live.trans here, ?_⟩
    intro row' member'
    rcases fewer row' member' with old | ⟨other, _⟩
    · exact unlisted row' old
    · exact other
  · refine .inr ⟨(congrArg kind live).trans absent, row, listed row member named, named,
      (archived row member named).trans there, ?_⟩
    intro row' member' same
    rcases fewer row' member' with old | ⟨other, elsewhere⟩
    · exact only row' old same
    · rcases same with same | same
      · exact absurd same other
      · exact absurd same (elsewhere row member)

/-- Every movement but a deletion keeps a profile in exactly one place. -/
theorem Moved.keptOnce {tree : FileTree Plaintext} (moved : Moved userData movement s s')
    (filed : Filed userData s) (profile : d ≠ archivesName) (present : tree ≠ FileTree.empty)
    (spares : movement.Spares d) (kept : KeptOnce userData s d tree) :
    KeptOnce userData s' d tree := by
  have here : (∀ row ∈ s.state.archives, row.directoryName ≠ d) →
      s.files.look (userData ++ [d]) ≠ none := by
    intro unlisted absent
    rcases kept with ⟨here, _⟩ | ⟨_, row, member, named, _⟩
    · exact present (here.symm.trans (kind_eq_none_iff.mp absent))
    · exact unlisted row member named
  cases moved with
  | @create _ name other free unreserved =>
      have fresh : d ≠ name := by
        rintro rfl
        exact here unreserved free
      refine kept.same (get_put_of_apart _ (live_apart (Ne.symm fresh)) (live_apart fresh)) ?_ (fun _ member _ => member) fun _ => .inl
      exact fun row _ _ => get_put_of_apart _ (live_outside other) archived_outside
  | root absent =>
      refine kept.same (get_put_of_apart _ (root_apart profile)
        (live_outside_root profile List.prefix_rfl)) ?_ (fun _ member _ => member) fun _ => .inl
      intro row _ _
      have nothing := look_of_before (List.prefix_append _ [row.archiveDirectory]) absent
      rw [kind_eq_none_iff.mp nothing, profileArchiveRoot, List.append_assoc]
      exact get_put filed.directory folder [row.archiveDirectory]
  | @archive _ state row directory free other recorded =>
      obtain ⟨rows, apart⟩ := recordProfileArchive_ok recorded
      by_cases same : row.directoryName = d
      · subst same
        rcases kept with ⟨there, _⟩ | ⟨_, row', member', named', _⟩
        · refine .inr ⟨look_move_src filed.directory archived_outside, row, ?_, rfl,
            (get_move_self directory (live_outside other)).trans there, ?_⟩
          · exact rows ▸ List.mem_append_right _ List.mem_cons_self
          · intro row' member' same
            rw [rows] at member'
            rcases List.mem_append.mp member' with old | new
            · exact absurd same (not_or.mpr (apart row' old).2)
            · exact List.mem_singleton.mp new
        · exact absurd named' (apart row' member').2.1
      · refine kept.same (get_move_of_apart (live_apart same) (live_apart (Ne.symm same))
          archived_outside (live_outside profile)) ?_ ?_ ?_
        · intro row' member' _
          have elsewhere := (apart row' member').2.2
          exact get_move_of_apart (live_outside other) archived_outside
            (archived_apart (Ne.symm elsewhere)) (archived_apart elsewhere)
        · exact fun row' member' _ => rows ▸ List.mem_append_left _ member'
        · intro row' member'
          rw [rows] at member'
          rcases List.mem_append.mp member' with old | new
          · exact .inl old
          · cases List.mem_singleton.mp new
            exact .inr ⟨same, fun row' member' => Ne.symm (apart row' member').2.2⟩
  | @restore _ state row listed free _ removed =>
      have rows := removeProfileArchive_ok removed
      by_cases same : row.directoryName = d
      · subst same
        rcases kept with ⟨_, unlisted⟩ | ⟨_, row', _, _, there, only⟩
        · exact absurd rfl (unlisted row listed)
        · cases only row listed (.inl rfl)
          refine .inl ⟨(get_move_self filed.directory archived_outside).trans there, ?_⟩
          intro row' member' same
          rw [rows] at member'
          obtain ⟨old, other⟩ := List.mem_filter.mp member'
          cases only row' old (.inl same)
          exact absurd rfl (of_decide_eq_true other)
      · refine kept.same (get_move_of_apart archived_outside (live_outside profile)
          (live_apart same) (live_apart (Ne.symm same))) ?_ ?_ ?_
        · intro row' member' named
          have elsewhere := (filed.distinct listed member' (named ▸ Ne.symm same)).2
          exact get_move_of_apart (archived_apart (Ne.symm elsewhere)) (archived_apart elsewhere)
            (live_outside (filed.named row listed)) archived_outside
        · intro row' member' named
          have other := (filed.distinct listed member' (named ▸ Ne.symm same)).1
          exact rows ▸ List.mem_filter.mpr ⟨member', decide_eq_true other⟩
        · exact fun row' member' => .inl (List.mem_of_mem_filter (rows ▸ member'))
  | @empty _ row removed listed =>
      have other := spares row (.inl rfl)
      have within := within_prune (t := s.files)
        (p := profileArchiveRoot userData ++ [row.archiveDirectory]) removed
      refine kept.same (within.get_of_apart archived_outside (live_outside profile)) ?_
        (fun _ member _ => member) fun _ => .inl
      intro row' member' named
      have elsewhere := (filed.distinct listed member' (named ▸ Ne.symm other)).2
      exact within.get_of_apart (archived_apart (Ne.symm elsewhere)) (archived_apart elsewhere)
  | @forget _ state row listed removed =>
      have other := spares row (.inr rfl)
      have rows := removeProfileArchive_ok removed
      refine kept.same rfl (fun _ _ _ => rfl) ?_ ?_
      · intro row' member' named
        have other := (filed.distinct listed member' (named ▸ Ne.symm other)).1
        exact rows ▸ List.mem_filter.mpr ⟨member', decide_eq_true other⟩
      · exact fun row' member' => .inl (List.mem_of_mem_filter (rows ▸ member'))

end

end HeliumSync.ProfileStore
