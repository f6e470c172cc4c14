import HeliumSync.Conservation

/-! The default profile: the preferences never have two, and a report that shows a profile shows
exactly one. -/
namespace HeliumSync.ProfileStore
open Interaction (Prog Action Entry Contract)

variable {C : Type} {P : Primitives C} {userData : Files.Path} {s s' : ProfileStore C}
  {journal : List ProfileEntry}

/-- Every directory has at most one row, and at most one row is the default. -/
structure Ranked (rows : List ProfilePreference) : Prop where
  directories : (rows.map (·.directoryName)).Nodup
  single : ∀ row ∈ rows, ∀ other ∈ rows, row.isDefault = true → other.isDefault = true → other = row

theorem Ranked.row_unique {rows : List ProfilePreference} (ranked : Ranked rows)
    {row other : ProfilePreference} (member : row ∈ rows) (member' : other ∈ rows)
    (same : other.directoryName = row.directoryName) : other = row :=
  List.inj_on_of_nodup_map ranked.directories member' member same

theorem Ranked.concat {rows : List ProfilePreference} (ranked : Ranked rows) {row : ProfilePreference}
    (fresh : ∀ other ∈ rows, other.directoryName ≠ row.directoryName)
    (plain : row.isDefault = false) : Ranked (rows ++ [row]) where
  directories := nodup_map_concat ranked.directories fresh
  single := by
    have old : ∀ other ∈ rows ++ [row], other.isDefault = true → other ∈ rows := by
      intro other member set
      rcases List.mem_append.mp member with old | new
      · exact old
      · cases List.mem_singleton.mp new
        cases plain.symm.trans set
    intro first member other member' set set'
    exact ranked.single first (old first member set) other (old other member' set') set set'

theorem Ranked.map {rows : List ProfilePreference} (ranked : Ranked rows)
    {update : ProfilePreference → ProfilePreference}
    (named : ∀ row, (update row).directoryName = row.directoryName)
    (marked : ∀ row, (update row).isDefault = true → row.isDefault = true) :
    Ranked (rows.map update) where
  directories := by
    have same : (rows.map update).map (·.directoryName) = rows.map (·.directoryName) := by
      rw [List.map_map]
      exact List.map_congr_left fun row _ => named row
    rw [same]
    exact ranked.directories
  single := by
    intro row member other member' set set'
    obtain ⟨first, old, rfl⟩ := List.mem_map.mp member
    obtain ⟨second, old', rfl⟩ := List.mem_map.mp member'
    rw [ranked.single first old second old' (marked first set) (marked second set')]

/-- Marking one directory leaves no other default. -/
theorem Ranked.mark {rows : List ProfilePreference} (ranked : Ranked rows) (directoryName : String) :
    Ranked (rows.map fun row =>
      { row with isDefault := decide (row.directoryName = directoryName) }) where
  directories := by
    rw [List.map_map]
    exact ranked.directories
  single := by
    intro row member other member' set set'
    obtain ⟨first, old, rfl⟩ := List.mem_map.mp member
    obtain ⟨second, old', rfl⟩ := List.mem_map.mp member'
    have same := (of_decide_eq_true set').trans (of_decide_eq_true set).symm
    rw [ranked.row_unique old old' same]

theorem ranked_update {state state' : LocalState C} {directoryName : String}
    {update : ProfilePreference → ProfilePreference} (ranked : Ranked state.preferences)
    (updated : state.updatePreference directoryName update = .ok state')
    (named : ∀ row, (update row).directoryName = row.directoryName)
    (marked : ∀ row, (update row).isDefault = true → row.isDefault = true) :
    Ranked state'.preferences := by
  rw [updatePreference_ok updated]
  refine ranked.map (fun row => ?_) fun row => ?_
  · split_ifs
    · exact named row
    · rfl
  · split_ifs
    · exact marked row
    · exact fun set => set

/-- No operation breaks the order of the preferences. -/
theorem exec_ranked {op : ProfileOp} {choice : ProfileChoice} {reply : op.Reply}
    (ran : exec P userData op choice s = some (s', reply))
    (ranked : Ranked s.state.preferences) : Ranked s'.state.preferences := by
  have committed : ∀ {result : Except ClientError (LocalState C)}
      {reply : Except ClientError Unit} {choice : ProfileChoice},
      s.committed result choice = some (s', reply) →
      (∀ state, result = .ok state → Ranked state.preferences) → Ranked s'.state.preferences := by
    intro result reply choice ran each
    rcases committed_cases ran with ⟨state, ok, rfl, -⟩ | ⟨rfl, -⟩
    · exact each state ok
    · exact ranked
  cases op with
  | heliumClosed | installation | discover =>
      rw [(answered_cases ran).1]
      exact ranked
  | profilePreferences | profileArchives =>
      rw [(selected_cases ran).1]
      exact ranked
  | newUuid | test =>
      cases choice <;> cases ran
      all_goals exact ranked
  | canonicalize | symlinkMetadata | change =>
      cases choice with
      | proceed | failed | drawn | stamped => cases ran
      | fate =>
          obtain ⟨_, _, same⟩ := Option.map_eq_some_iff.mp ran
          cases same
          exact ranked
  | ensureProfile d n =>
      refine committed ran fun state ensured => ?_
      rw [LocalState.ensureProfile] at ensured
      split_ifs at ensured with named known
      · cases ensured
        exact ranked
      · cases ensured
        refine ranked.concat (fun other member same => known ?_) rfl
        exact List.any_eq_true.mpr ⟨other, member, decide_eq_true same⟩
  | renameProfile d n =>
      refine committed ran fun state renamed => ?_
      rw [LocalState.renameProfile] at renamed
      split_ifs at renamed
      exact ranked_update ranked renamed (fun _ => rfl) fun _ set => set
  | setAutoSync d enabled =>
      exact committed ran fun state updated =>
        ranked_update ranked updated (fun _ => rfl) fun _ set => set
  | setDefaultProfile d =>
      refine committed ran fun state updated => ?_
      rw [LocalState.setDefaultProfile] at updated
      split_ifs at updated
      cases updated
      exact ranked.mark d
  | recordProfileArchive i d a n =>
      cases choice with
      | proceed | drawn | fate => cases ran
      | failed => cases ran; exact ranked
      | stamped archivedAt =>
          have ran : s.committed (s.state.recordProfileArchive ⟨i, d, a, n, archivedAt⟩) .proceed =
            some (s', reply) := ran
          refine committed ran fun state recorded => ?_
          rw [LocalState.recordProfileArchive] at recorded
          split_ifs at recorded
          cases recorded
          refine ranked.map (fun row => ?_) fun row => ?_
          · split_ifs <;> rfl
          · split_ifs
            · exact fun set => by cases set
            · exact fun set => set
  | removeProfileArchive i =>
      refine committed ran fun state removed => ?_
      rw [LocalState.removeProfileArchive] at removed
      split_ifs at removed
      cases removed
      exact ranked

attribute [local irreducible] Action.Attempts

theorem ranked_attempts {ε α : Type} {x : ProfileAction ε α} (ranked : Ranked s.state.preferences) :
    x.Attempts (orderly P userData) (fun _ _ s' => Ranked s'.state.preferences)
      (fun _ _ s' => Ranked s'.state.preferences) journal s := by
  have each : ∀ {p : Prog ProfileOp ProfileOp.Reply (Except ε α)} {journal : List ProfileEntry}
      {s : ProfileStore C}, Ranked s.state.preferences →
      p.Ensures (orderly P userData) (fun _ _ s' => Ranked s'.state.preferences) journal s := by
    intro p
    induction p with
    | done r => exact fun ranked => ranked
    | call op next ih =>
        rintro journal s ranked _ rfl - choice s' reply - ran
        exact ⟨trivial, trivial, ih reply (exec_ranked ran ranked)⟩
  unfold Action.Attempts
  refine (@each x.run journal s ranked).mono fun r _ _ kept => ?_
  cases r <;> exact kept

theorem Ran.ranked {command : LocalCommand} {result : Except String ProfileReport}
    (ran : Ran P userData command s journal result s') (ranked : Ranked s.state.preferences) :
    Ranked s'.state.preferences := by
  refine @Prog.Logs.post _ _ _ _ _ _ _ _ _ _ _ (fun _ _ s' => Ranked s'.state.preferences) [] _ ran ?_
  exact Prog.ensures_of_attempts (ranked_attempts ranked)

theorem Run.ranked {may : ProfileStore C → LocalCommand → Prop} (run : Run P userData may s s')
    (ranked : Ranked s.state.preferences) : Ranked s'.state.preferences := by
  induction run with
  | start => exact ranked
  | step _ _ ran ih => exact ran.ranked ih

end HeliumSync.ProfileStore
