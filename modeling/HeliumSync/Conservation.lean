import HeliumSync.Archiving
import HeliumSync.Reference

/-! Which movements each command makes, and that a profile is kept over any run of commands. -/
namespace HeliumSync.ProfileStore
open Interaction (Prog Action Entry Contract)
open Files Files.FileTree

variable {C : Type} {P : Primitives C} {userData : Path} {s s' : ProfileStore C}
  {journal journal' : List ProfileEntry} {d : String}

attribute [local irreducible] Action.Attempts

/-- The directory with this number. -/
abbrev numbered (number : Nat) : String := s!"Profile {number}"

/-- Neither an archive nor anything in the user data has the name. -/
def Free (userData : Path) (s : ProfileStore C) (name : String) : Prop :=
  ¬ Present userData s name ∧ ∀ row ∈ s.state.archives, row.directoryName ≠ name

/-- The first number whose directory is free. -/
structure NextFree (userData : Path) (s : ProfileStore C) (number : Nat) : Prop where
  positive : 1 ≤ number
  free : Free userData s (numbered number)
  least : ∀ k, 1 ≤ k → k < number → ¬ Free userData s (numbered k)

theorem numbered_ne (number : Nat) : numbered number ≠ archivesName := by
  intro same
  have start := congrArg (fun text : String => text.toList.head?) same
  have first : (toString "Profile ").toList.head? = some 'P' := by decide +kernel
  simp only [numbered, String.toList_append, List.head?_append, first, Option.some_or] at start
  exact absurd start (by decide +kernel)

theorem look_of_alreadyExists {t : FileTree Plaintext} {p : Path} {name : String}
    (linkless : t.Linkless p) (exists' : t.createDir (p ++ [name]) = .error .alreadyExists) :
    t.look (p ++ [name]) ≠ none := by
  intro absent
  cases placed : t.place (p ++ [name]) with
  | error e =>
      simp only [createDir, placed, bind, Except.bind] at exists'
      cases exists'
      rw [place, List.getLast?_concat] at placed
      dsimp only at placed
      split at placed
      · cases placed
      · split at placed <;> cases placed
  | ok place =>
      obtain ⟨rfl, _⟩ := place_ok linkless placed
      simp only [createDir, placed, bind, Except.bind, absent] at exists'
      cases exists'

section
variable {reserved : List String}

/-- The allocator makes the first free directory, or changes nothing. -/
theorem reserveFrom_attempts (home : Home userData s)
    (names : ∀ name, name ∈ reserved ↔ ∃ row ∈ s.state.archives, row.directoryName = name)
    {remaining number : Nat} (positive : 1 ≤ number)
    (taken : ∀ k, 1 ≤ k → k < number → ¬ Free userData s (numbered k)) :
    (reserveFrom userData reserved remaining number).Attempts (orderly P userData)
      (fun profile _ s' => ∃ n, NextFree userData s n ∧ profile.directoryName = numbered n ∧
        s' = { s with files := s.files.put (userData ++ [numbered n]) folder })
      (fun _ _ s' => s' = s) journal s := by
  induction remaining generalizing number journal with
  | zero => exact Action.attempts_throw.mpr rfl
  | succ remaining ih =>
      have onward : ¬ Free userData s (numbered number) → ∀ k, 1 ≤ k → k < number + 1 →
          ¬ Free userData s (numbered k) := by
        intro occupied k above below
        rcases Nat.lt_succ_iff_lt_or_eq.mp below with earlier | rfl
        · exact taken k above earlier
        · exact occupied
      rw [reserveFrom]
      dsimp only
      split
      · rename_i listed
        obtain ⟨row, member, named⟩ := (names _).mp listed
        exact ih (Nat.le_add_left ..) (onward fun free => free.2 row member named)
      · rename_i unlisted
        apply Action.attempts_bind.mpr
        apply Action.attempts_outcome.mpr
        apply attempts_change
        · intro files made
          obtain ⟨_, free, rfl⟩ := createDir_ok home.reached made
          refine Action.attempts_pure.mpr ⟨number, ⟨positive, ⟨?_, ?_⟩, taken⟩, rfl, rfl⟩
          · exact not_not_intro free
          · exact fun row member named => unlisted ((names _).mpr ⟨row, member, named⟩)
        · intro e files journal' left natural passes
          have same : files = s.files := left.elim (fun left => left.eq trivial) id
          subst same
          cases e with
          | alreadyExists =>
              have occupied := look_of_alreadyExists home.reached (natural _ rfl rfl)
              exact ih (Nat.le_add_left ..) (onward fun free => free.1 occupied)
          | notFound | notADirectory | isADirectory | directoryNotEmpty | invalidInput | other =>
              exact Action.attempts_throw.mpr rfl

theorem shown_ensureProfile {state : LocalState C} {displayName : String}
    (unnamed : ∀ row ∈ s.state.preferences, row.directoryName ≠ d)
    (ensured : s.state.ensureProfile d displayName = .ok state) :
    Shown { s with state } d displayName := by
  rw [LocalState.ensureProfile] at ensured
  split_ifs at ensured with named known
  · obtain ⟨row, member, same⟩ := List.any_eq_true.mp known
    exact absurd (of_decide_eq_true same) (unnamed row member)
  · cases ensured
    refine ⟨⟨_, List.mem_append_right _ List.mem_cons_self, rfl⟩, ?_⟩
    intro row member same
    rcases List.mem_append.mp member with old | new
    · exact absurd same (unnamed row old)
    · cases List.mem_singleton.mp new
      rfl

/-- A created profile has the first free directory, and nothing else was made. -/
structure Created (userData : Path) (displayName : String) (s s' : ProfileStore C) (number : Nat) :
    Prop where
  next : NextFree userData s number
  files : s'.files = s.files.put (userData ++ [numbered number]) folder
  shown : (∀ row ∈ s.state.preferences, row.directoryName ≠ numbered number) →
    s'.Shown (numbered number) (trim displayName)

theorem createBrowserProfile_attempts {displayName : String} (home : Home userData s) :
    (createBrowserProfile userData displayName).Attempts (orderly P userData)
      (fun _ _ s' => Moves userData (fun m => ∃ name, m = .create name) s s' ∧
        ∃ number, Created userData displayName s s' number)
      (fun _ _ s' => Moves userData (fun m => ∃ name, m = .create name) s s') journal s := by
  have still : Moves userData (fun m => ∃ name, m = .create name) s s := .settled .refl
  rw [createBrowserProfile]
  by_cases refused : (trim displayName).isEmpty ∨ 128 < (trim displayName).length
  · rw [if_pos refused]
    exact Action.attempts_throw.mpr still
  · rw [if_neg refused]
    apply Action.attempts_bind.mpr
    apply attempts_ensureHeliumClosed
    · intro journal₁ passes₁
      apply Action.attempts_bind.mpr
      apply attempts_installation
      · intro journal₂ passes₂
        apply Action.attempts_bind.mpr
        apply Action.attempts_mapErr.mpr
        apply attempts_profileArchives
        · intro journal₃ passes₃
          apply Action.attempts_bind.mpr
          rw [createProfileWithReserved]
          apply Action.attempts_bind.mpr
          apply attempts_test
          intro directory journal₄ _ passes₄
          split
          · have names : ∀ name, name ∈ s.state.profileArchives.map (·.directoryName) ↔
                ∃ row ∈ s.state.archives, row.directoryName = name := by
              intro name
              simp only [List.mem_map, mem_profileArchives]
            refine (reserveFrom_attempts home names (Nat.le_refl 1) fun k above below =>
              absurd above (Nat.not_le.mpr below)).mono ?_ ?_
            · rintro profile journal₅ s₅ ⟨n, next, named, rfl⟩
              have there : Home userData ⟨s.files.put (userData ++ [numbered n]) folder, s.state⟩ :=
                home.same fun q above => look_put_of_apart _ (live_outside_root (numbered_ne n) above)
              have made : Moves userData (fun m => ∃ name, m = .create name) s
                  ⟨s.files.put (userData ++ [numbered n]) folder, s.state⟩ :=
                .single ⟨_, rfl⟩ (.create (numbered_ne n) (not_not.mp next.free.1) next.free.2)
              have present : Present userData
                  ⟨s.files.put (userData ++ [numbered n]) folder, s.state⟩ (numbered n) := by
                rw [Present, look_put home.directory folder []]
                exact Option.some_ne_none _
              apply Action.attempts_bind.mpr
              apply Action.attempts_mapErr.mpr
              rw [named]
              apply attempts_ensureProfile
              · intro state journal₆ ensured passes₆
                have steady := steady_ensureProfile present ensured
                refine (profileReport_attempts (s := ⟨_, state⟩) there.reached).mono ?_ ?_
                · rintro _ _ _ ⟨steady', _⟩
                  exact ⟨made.trans (.settled (steady.trans steady').toSettled), n, next,
                    steady'.files,
                    fun unnamed => steady'.shown _ _ (shown_ensureProfile unnamed ensured)⟩
                · rintro _ _ _ ⟨steady', _⟩
                  exact made.trans (.settled (steady.trans steady').toSettled)
              · exact fun _ _ _ => made
            · rintro _ _ _ rfl
              exact still
          · exact Action.attempts_throw.mpr still
        · exact fun _ _ _ => still
      · exact fun _ _ _ => still
    · exact fun _ _ _ => still

/-- A command that changes one preference. -/
theorem changePreference_attempts {setting : ProfileAction ClientError Unit} (home : Home userData s)
    (sets : ∀ s₁ journal₁, setting.Attempts (orderly P userData)
      (fun _ _ s' => Settled userData s₁ s') (fun _ _ s' => s' = s₁) journal₁ s₁) :
    (changePreference setting).Attempts (orderly P userData) (fun _ _ s' => Settled userData s s')
      (fun _ _ s' => Settled userData s s') journal s := by
  rw [changePreference]
  apply Action.attempts_bind.mpr
  refine (ensureDiscoveredProfiles_attempts home.reached).mono ?_ ?_
  · intro _ journal₁ s₁ found
    apply Action.attempts_bind.mpr
    apply Action.attempts_mapErr.mpr
    refine (sets s₁ journal₁).mono ?_ ?_
    · intro _ journal₂ s₂ set
      have settled := found.1.toSettled.trans set
      have reached : s₂.files.Linkless userData := settled.files ▸ home.reached
      refine (profileReport_attempts reached).mono ?_ ?_
      · exact fun _ _ _ reported => settled.trans reported.1.toSettled
      · exact fun _ _ _ reported => settled.trans reported.1.toSettled
    · rintro _ _ _ rfl
      exact found.1.toSettled
  · exact fun _ _ _ found => found.1.toSettled

/-- The rename that takes an archive back. -/
theorem rename_back_archive {a : String} {t : FileTree Plaintext}
    (linkless : t.Linkless (profileArchiveRoot userData)) (directory : t.isDir userData)
    (root : t.isDir (profileArchiveRoot userData)) (other : d ≠ archivesName)
    (found : t.look (userData ++ [d]) ≠ none)
    (free : t.look (profileArchiveRoot userData ++ [a]) = none) :
    (t.move (userData ++ [d]) (profileArchiveRoot userData ++ [a])).rename
      (profileArchiveRoot userData ++ [a]) (userData ++ [d]) = .ok t :=
  rename_back (linkless.of_before (List.prefix_append userData _)) linkless directory root found free
    (live_outside other) archived_outside

/-- The movements of an archive command; nothing but the archive is made if the record fails. -/
def Archives (userData : Path) (d : String) (journal : List ProfileEntry) (s : ProfileStore C)
    (journal' : List ProfileEntry) (s' : ProfileStore C) : Prop :=
  Moves userData (· = .root) s s' ∨
    (Moves userData (fun m => m = .root ∨ ∃ row, row.directoryName = d ∧ m = .archive row) s s' ∧
      Passes journal journal')

theorem Archives.after {s₁ : ProfileStore C} {journal₁ : List ProfileEntry}
    (ends : Archives userData d journal₁ s₁ journal' s') (settled : Settled userData s s₁)
    (passes : Passes journal journal₁) : Archives userData d journal s journal' s' := by
  rcases ends with moves | ⟨moves, passes'⟩
  · exact .inl (moves.after settled)
  · exact .inr ⟨moves.after settled, passes.trans passes'⟩

theorem archiveUnder_attempts (home : Home userData s) {profile : LocatedProfile}
    {displayName archiveId : String} (path : profile.path = userData ++ [d])
    (fresh : s.files.look (profileArchiveRoot userData ++ [archiveId]) = none) :
    (archiveUnder userData profile d displayName archiveId).Attempts (orderly P userData)
      (fun _ => Archives userData d journal s) (fun _ => Archives userData d journal s)
      journal s := by
  rw [archiveUnder]
  apply Action.attempts_bind.mpr
  apply Action.attempts_mapErr.mpr
  have rooted : ∀ {files}, Rooting userData s.files files →
      Moves userData (· = .root) s { s with files } := by
    rintro files (rfl | ⟨absent, rfl⟩)
    · exact .settled .refl
    · exact .single rfl (.root absent)
  apply attempts_change
  · intro files made
    have rooting := rooting_of_createDirAll home (.inl made)
    have home₁ : Home userData { s with files } := rooting.home home
    have fresh₁ := rooting.fresh home fresh
    apply Action.attempts_bind.mpr
    apply Action.attempts_mapErr.mpr
    rw [path]
    apply attempts_change
    · intro files' renamed
      obtain ⟨_, root, found, moved⟩ := rename_ok home₁.reached.leads home₁.linkless.leads renamed
      rcases moved with ⟨same, rfl⟩ | ⟨outside, rfl, _⟩
      · exact absurd fresh₁ (same ▸ found)
      · have other : d ≠ archivesName := by
          rintro rfl
          exact outside (List.prefix_append _ _)
        apply Action.attempts_bind.mpr
        apply Action.attempts_outcome.mpr
        apply attempts_recordProfileArchive
        · intro archivedAt state journal' recorded passes
          have moved := Moved.archive (s := { s with files }) root fresh₁ other recorded
          have moves : Moves userData (fun m => m = .root ∨ ∃ row, row.directoryName = d ∧
              m = .archive row) s _ :=
            ((rooted rooting).mono fun _ => .inl).trans (.single (.inr ⟨_, rfl, rfl⟩) moved)
          have before : Passes journal journal' :=
            (passes_change (by nofun)).trans ((passes_change (by nofun)).trans passes)
          have home₂ : Home userData ⟨files.move (userData ++ [d])
              (profileArchiveRoot userData ++ [archiveId]), state⟩ := home₁.same fun q above =>
            look_move_of_apart (live_outside_root other above) (not_prefix_concat above)
          refine (profileReport_attempts home₂.reached).mono ?_ ?_
          · exact fun _ _ _ ⟨steady, passes'⟩ =>
              .inr ⟨moves.trans (.settled steady.toSettled), before.trans passes'⟩
          · exact fun _ _ _ ⟨steady, passes'⟩ =>
              .inr ⟨moves.trans (.settled steady.toSettled), before.trans passes'⟩
        · intro e journal'
          apply Action.attempts_bind.mpr
          apply Action.attempts_outcome.mpr
          have back := rename_back_archive (a := archiveId) home₁.linkless home₁.directory root other
            found fresh₁
          apply attempts_unchange
          · intro files'' returned
            cases back.symm.trans returned
            exact Action.attempts_throw.mpr (.inl (rooted rooting))
          · intro e' refused
            cases back.symm.trans refused
    · intro e files' journal' left _ _
      have same : files' = files := left.elim (fun left => left.eq trivial) id
      subst same
      exact .inl (rooted rooting)
  · intro e files journal' left _ _
    exact .inl (rooted (rooting_of_createDirAll home (.inr left)))

theorem archiveProfile_attempts (home : Home userData s) :
    (archiveProfile userData P d).Attempts (orderly P userData)
      (fun _ => Archives userData d journal s) (fun _ => Archives userData d journal s)
      journal s := by
  have still : ∀ {later}, Archives userData d journal s later s := .inl (.settled .refl)
  rw [archiveProfile]
  apply Action.attempts_bind.mpr
  apply attempts_ensureHeliumClosed
  · intro journal₁ passes₁
    apply Action.attempts_bind.mpr
    apply discoveredProfile_attempts home.reached
    · intro profile journal₂ path present passes₂
      apply Action.attempts_bind.mpr
      apply attempts_installation
      · intro journal₃ passes₃
        apply Action.attempts_bind.mpr
        refine (ensureDiscoveredProfiles_attempts home.reached).mono ?_ ?_
        · rintro _ journal₄ s₄ ⟨steady, passes₄⟩
          have first := steady.toSettled
          have home₄ : Home userData s₄ := home.same fun q _ => by rw [steady.files]
          apply Action.attempts_bind.mpr
          apply Action.attempts_mapErr.mpr
          apply attempts_profilePreferences
          · intro journal₅ passes₅
            apply Action.attempts_bind.mpr
            apply attempts_newUuid
            intro uuid journal₆ fresh passes₆
            have before := passes₁.trans (passes₂.trans (passes₃.trans (passes₄.trans
              (passes₅.trans passes₆))))
            refine (archiveUnder_attempts home₄ path fresh).mono ?_ ?_
            · exact fun _ _ _ ends => ends.after first before
            · exact fun _ _ _ ends => ends.after first before
          · exact fun _ _ _ => .inl (.settled first)
        · exact fun _ _ _ found => .inl (.settled found.1.toSettled)
      · exact fun _ _ _ => still
    · exact fun _ _ _ => still
  · exact fun _ _ _ => still

theorem resolve_ok {t : FileTree Plaintext} {p place : Path} (linkless : t.Linkless p)
    (below : p ≠ []) (resolved : t.resolve p = some place) : place = p ∧ t.look p ≠ none := by
  by_cases absent : t.look p = none
  · have lost : t.resolve p = none := follow_absent [] p linkless below absent
    cases lost.symm.trans resolved
  · exact ⟨Option.some.inj (resolved.symm.trans (resolve_of_linkless linkless absent)), absent⟩

theorem lstat_ok {t : FileTree Plaintext} {p : Path} {name : String} {kind : Kind Plaintext}
    (linkless : t.Linkless p) (found : t.lstat (p ++ [name]) = some kind) :
    t.isDir p ∧ t.look (p ++ [name]) = some kind := by
  rw [lstat] at found
  cases placed : t.place (p ++ [name]) with
  | error e =>
      rw [placed] at found
      cases found
  | ok place =>
      obtain ⟨rfl, directory⟩ := place_ok linkless placed
      rw [placed] at found
      exact ⟨directory, found⟩

theorem checkedArchivePath_attempts (home : Home userData s) {archiveDirectory : String}
    {ok : Path → List ProfileEntry → ProfileStore C → Prop}
    {error : String → List ProfileEntry → ProfileStore C → Prop}
    (done : ∀ later, s.files.isDir (profileArchiveRoot userData) →
      s.files.isDir (profileArchiveRoot userData ++ [archiveDirectory]) → Passes journal later →
      ok (profileArchiveRoot userData ++ [archiveDirectory]) later s)
    (failed : ∀ e later, Passes journal later → error e later s) :
    (checkedArchivePath P (profileArchiveRoot userData) archiveDirectory).Attempts
      (orderly P userData) ok error journal s := by
  have below : profileArchiveRoot userData ≠ [] := by simp [profileArchiveRoot]
  rw [checkedArchivePath]
  apply Action.attempts_bind.mpr
  refine Action.attempts_ofExcept.mpr ⟨fun _ _ => ?_, fun e _ => failed e _ (.refl _)⟩
  apply Action.attempts_bind.mpr
  apply Action.attempts_mapErr.mpr
  apply attempts_canonicalize
  · intro root journal₁ resolved passes₁
    obtain ⟨rfl, _⟩ := resolve_ok home.linkless below resolved
    apply Action.attempts_bind.mpr
    apply Action.attempts_mapErr.mpr
    apply attempts_symlinkMetadata
    · intro kind journal₂ found passes₂
      obtain ⟨root, here⟩ := lstat_ok home.linkless found
      split
      · exact Action.attempts_throw.mpr (failed _ _ (passes₁.trans passes₂))
      · rename_i directory
        cases not_not.mp directory
        apply Action.attempts_bind.mpr
        apply Action.attempts_mapErr.mpr
        apply attempts_canonicalize
        · intro place journal₃ resolved passes₃
          have plain : s.files.Linkless (profileArchiveRoot userData ++ [archiveDirectory]) :=
            home.linkless.concat fun target link => by cases here.symm.trans link
          obtain ⟨rfl, _⟩ := resolve_ok plain (by simp) resolved
          split
          · exact Action.attempts_throw.mpr (failed _ _ (passes₁.trans (passes₂.trans passes₃)))
          · exact Action.attempts_pure.mpr (done _ root here
              (passes₁.trans (passes₂.trans passes₃)))
        · intro e journal₃ passes₃
          exact failed _ _ (passes₁.trans (passes₂.trans passes₃))
    · intro e journal₂ passes₂
      exact failed _ _ (passes₁.trans passes₂)
  · intro e journal₁ passes₁
    exact failed _ _ passes₁

/-- The movements of a restore command; nothing is done if the registry keeps the row. -/
def Restores (userData : Path) (id : String) (journal : List ProfileEntry) (s : ProfileStore C)
    (journal' : List ProfileEntry) (s' : ProfileStore C) : Prop :=
  Settled userData s s' ∨
    (Moves userData (fun m => ∃ row, row.id = id ∧ m = .restore row) s s' ∧ Passes journal journal')

theorem restoreFrom_attempts (filed : Filed userData s) {row : ProfileArchive} {id : String}
    (member : row ∈ s.state.archives) (named : row.id = id)
    (root : s.files.isDir (profileArchiveRoot userData)) :
    (restoreFrom userData id row (profileArchiveRoot userData ++ [row.archiveDirectory])).Attempts
      (orderly P userData) (fun _ => Restores userData id journal s)
      (fun _ => Restores userData id journal s) journal s := by
  have free := not_not.mp (filed.apart row member)
  have other := filed.named row member
  rw [restoreFrom]
  apply Action.attempts_bind.mpr
  apply Action.attempts_mapErr.mpr
  apply attempts_change
  · intro files renamed
    obtain ⟨_, _, found, moved⟩ := rename_ok filed.linkless.leads filed.reached.leads renamed
    rcases moved with ⟨same, rfl⟩ | ⟨_, rfl, _⟩
    · exact absurd free (same ▸ found)
    · apply Action.attempts_bind.mpr
      apply Action.attempts_outcome.mpr
      apply attempts_removeProfileArchive
      · intro state journal' removed passes
        have before : Passes journal journal' := (passes_change (by nofun)).trans passes
        have moves : Moves userData (fun m => ∃ row, row.id = id ∧ m = .restore row) s _ :=
          .single ⟨row, named, rfl⟩ (.restore member free found (named ▸ removed))
        have home : Home userData ⟨s.files.move (profileArchiveRoot userData ++
            [row.archiveDirectory]) (userData ++ [row.directoryName]), state⟩ :=
          filed.toHome.same fun q above =>
            look_move_of_apart (not_prefix_concat above) (live_outside_root other above)
        refine (profileReport_attempts home.reached).mono ?_ ?_
        · exact fun _ _ _ ⟨steady, passes'⟩ =>
            .inr ⟨moves.trans (.settled steady.toSettled), before.trans passes'⟩
        · exact fun _ _ _ ⟨steady, passes'⟩ =>
            .inr ⟨moves.trans (.settled steady.toSettled), before.trans passes'⟩
      · intro e journal'
        apply Action.attempts_bind.mpr
        apply Action.attempts_outcome.mpr
        have back := rename_back filed.linkless filed.reached root filed.directory found free
          archived_outside (live_outside other)
        apply attempts_unchange
        · intro files' returned
          cases back.symm.trans returned
          exact Action.attempts_throw.mpr (.inl .refl)
        · intro e' refused
          cases back.symm.trans refused
  · intro e files journal' left _ _
    have same : files = s.files := left.elim (fun left => left.eq trivial) fun same => same
    subst same
    exact .inl .refl

theorem restoreArchivedProfile_attempts (filed : Filed userData s) {id : String} :
    (restoreArchivedProfile userData P id).Attempts (orderly P userData)
      (fun _ => Restores userData id journal s) (fun _ => Restores userData id journal s)
      journal s := by
  have still : ∀ {later}, Restores userData id journal s later s := .inl .refl
  rw [restoreArchivedProfile]
  apply Action.attempts_bind.mpr
  apply attempts_ensureHeliumClosed
  · intro journal₁ passes₁
    apply Action.attempts_bind.mpr
    apply findProfileArchive_attempts
    · intro row journal₂ member named passes₂
      apply Action.attempts_bind.mpr
      apply attempts_installation
      · intro journal₃ passes₃
        apply Action.attempts_bind.mpr
        apply checkedArchivePath_attempts filed.toHome
        · intro journal₄ root _ passes₄
          apply Action.attempts_bind.mpr
          apply attempts_test
          -- a refused test answers no, which is the truth: a name that is archived is not live
          intro taken journal₅ _ passes₅
          split
          · exact Action.attempts_throw.mpr still
          · have before := passes₁.trans (passes₂.trans (passes₃.trans (passes₄.trans passes₅)))
            refine (restoreFrom_attempts filed member named root).mono ?_ ?_
            · exact fun _ _ _ ends => ends.imp_right fun ⟨moves, later⟩ => ⟨moves, before.trans later⟩
            · exact fun _ _ _ ends => ends.imp_right fun ⟨moves, later⟩ => ⟨moves, before.trans later⟩
        · exact fun _ _ _ => still
      · exact fun _ _ _ => still
    · exact fun _ _ _ => still
  · exact fun _ _ _ => still

/-- The movements of a permanent deletion. -/
def Deletes (s : ProfileStore C) (id : String) (movement : Movement) : Prop :=
  ∃ row ∈ s.state.archives, row.id = id ∧ (movement = .empty row ∨ movement = .forget row)

theorem removeArchiveDirectory_attempts (filed : Filed userData s) {row : ProfileArchive}
    (member : row ∈ s.state.archives) :
    (removeArchiveDirectory userData P row).Attempts (orderly P userData)
      (fun _ _ s' => s' = s ∨ Moved userData (.empty row) s s')
      (fun _ _ s' => s' = s ∨ Moved userData (.empty row) s s') journal s := by
  rw [removeArchiveDirectory]
  apply Action.attempts_bind.mpr
  refine Action.attempts_ofExcept.mpr ⟨fun _ _ => ?_, fun _ _ => .inl rfl⟩
  apply Action.attempts_bind.mpr
  apply Action.attempts_outcome.mpr
  apply attempts_symlinkMetadata
  · intro kind journal₁ _ passes₁
    apply Action.attempts_bind.mpr
    apply checkedArchivePath_attempts filed.toHome
    · intro journal₂ root directory passes₂
      apply Action.attempts_mapErr.mpr
      apply attempts_change
      · intro files removed
        cases (removeDirAll_eq filed.linkless.leads root directory).symm.trans removed
        have all : s.files.prune (profileArchiveRoot userData ++ [row.archiveDirectory]) [[]] =
            s.files.put (profileArchiveRoot userData ++ [row.archiveDirectory]) FileTree.empty := by
          rw [prune, List.foldl_cons, List.foldl_nil, List.append_nil]
        exact .inr (all ▸ .empty [[]] member)
      · intro e files journal' left _ _
        rcases left with left | rfl
        · rcases left.removeDirAll with rfl | ⟨place, removed, placed, _, _, rfl⟩
          · exact .inl rfl
          · cases (place_of_leads filed.linkless.leads placed).1
            exact .inr (.empty removed member)
        · exact .inl rfl
    · exact fun _ _ _ => .inl rfl
  · intro e journal₁ passes₁
    cases e with
    | notFound => exact Action.attempts_pure.mpr (.inl rfl)
    | alreadyExists | notADirectory | isADirectory | directoryNotEmpty | invalidInput | other =>
        exact Action.attempts_throw.mpr (.inl rfl)

theorem deleteArchivedProfile_attempts (filed : Filed userData s) {id : String} :
    (deleteArchivedProfile userData P id).Attempts (orderly P userData)
      (fun _ _ s' => Moves userData (Deletes s id) s s')
      (fun _ _ s' => Moves userData (Deletes s id) s s') journal s := by
  have still : Moves userData (Deletes s id) s s := .settled .refl
  rw [deleteArchivedProfile]
  apply Action.attempts_bind.mpr
  apply attempts_ensureHeliumClosed
  · intro journal₁ passes₁
    apply Action.attempts_bind.mpr
    apply findProfileArchive_attempts
    · intro row journal₂ member named passes₂
      apply Action.attempts_bind.mpr
      apply attempts_installation
      · intro journal₃ passes₃
        apply Action.attempts_bind.mpr
        refine (removeArchiveDirectory_attempts filed member).mono ?_ ?_
        · intro _ journal₄ s₄ removed
          have moves : Moves userData (Deletes s id) s s₄ := by
            rcases removed with rfl | moved
            · exact still
            · exact .single ⟨row, member, named, .inl rfl⟩ moved
          have rows : row ∈ s₄.state.archives := by
            rcases removed with rfl | moved
            · exact member
            · cases moved
              exact member
          have filed₄ : Filed userData s₄ := by
            rcases removed with rfl | moved
            · exact filed
            · exact moved.filed filed
          apply Action.attempts_bind.mpr
          apply Action.attempts_mapErr.mpr
          apply attempts_removeProfileArchive
          · intro state journal₅ forgotten passes₅
            have moved : Moved userData (.forget row) s₄ { s₄ with state } :=
              .forget rows (named ▸ forgotten)
            have moves' := moves.trans (.single ⟨row, member, named, .inr rfl⟩ moved)
            have filed₅ := moved.filed filed₄
            refine (profileReport_attempts filed₅.reached).mono ?_ ?_
            · exact fun _ _ _ ⟨steady, _⟩ => moves'.trans (.settled steady.toSettled)
            · exact fun _ _ _ ⟨steady, _⟩ => moves'.trans (.settled steady.toSettled)
          · exact fun _ _ => moves
        · rintro _ _ _ (rfl | moved)
          · exact still
          · exact .single ⟨row, member, named, .inl rfl⟩ moved
      · exact fun _ _ _ => still
    · exact fun _ _ _ => still
  · exact fun _ _ _ => still

end

/-- The movements that a command may make. -/
def Makes (s : ProfileStore C) : LocalCommand → Movement → Prop
  | .create _, movement => ∃ name, movement = .create name
  | .archive d, movement => movement = .root ∨ ∃ row, row.directoryName = d ∧ movement = .archive row
  | .restore id, movement => ∃ row, row.id = id ∧ movement = .restore row
  | .delete id, movement => Deletes s id movement
  | .discover, _ | .rename .., _ | .setDefault _, _ | .setAutoSync .., _ => False

/-- A command that ran to its end, whatever its result. -/
abbrev Ran (P : Primitives C) (userData : Path) (command : LocalCommand) (s : ProfileStore C)
    (journal : List ProfileEntry) (result : Except String ProfileReport) (s' : ProfileStore C) : Prop :=
  (command.program P userData).run.Logs (exec P userData) (Orderly P userData) s journal result s'

theorem Ran.moves {command : LocalCommand} {result : Except String ProfileReport}
    (ran : Ran P userData command s journal result s') (filed : Filed userData s) :
    Moves userData (Makes s command) s s' := by
  have ends : ∀ {post : Except String ProfileReport → List ProfileEntry → ProfileStore C → Prop},
      (command.program P userData).Attempts (orderly P userData) (fun report => post (.ok report))
        (fun e => post (.error e)) [] s → post result journal s' := fun attempts =>
    ran.post (Prog.ensures_of_attempts attempts)
  cases command with
  | discover =>
      refine @ends (fun _ _ s' => Moves userData _ s s') ?_
      refine (profileReport_attempts filed.reached).mono ?_ ?_
      · exact fun _ _ _ ⟨steady, _⟩ => .settled steady.toSettled
      · exact fun _ _ _ ⟨steady, _⟩ => .settled steady.toSettled
  | create displayName =>
      refine @ends (fun _ _ s' => Moves userData _ s s') ?_
      have attempts := @createBrowserProfile_attempts C P userData s [] displayName filed.toHome
      exact attempts.mono (fun _ _ _ made => made.1) fun _ _ _ moves => moves
  | rename d displayName =>
      refine @ends (fun _ _ s' => Moves userData _ s s') ?_
      refine (changePreference_attempts filed.toHome ?_).mono ?_ ?_
      · intro s₁ journal₁
        apply attempts_renameProfile
        · exact fun state _ renamed _ => settled_renameProfile renamed
        · exact fun _ _ _ => rfl
      · exact fun _ _ _ => .settled
      · exact fun _ _ _ => .settled
  | setDefault d =>
      refine @ends (fun _ _ s' => Moves userData _ s s') ?_
      refine (changePreference_attempts filed.toHome ?_).mono ?_ ?_
      · intro s₁ journal₁
        apply attempts_setDefaultProfile
        · exact fun state _ updated _ => (steady_setDefaultProfile updated).toSettled
        · exact fun _ _ _ => rfl
      · exact fun _ _ _ => .settled
      · exact fun _ _ _ => .settled
  | setAutoSync d enabled =>
      refine @ends (fun _ _ s' => Moves userData _ s s') ?_
      refine (changePreference_attempts filed.toHome ?_).mono ?_ ?_
      · intro s₁ journal₁
        apply attempts_setAutoSync
        · exact fun state _ updated _ => (steady_setAutoSync updated).toSettled
        · exact fun _ _ _ => rfl
      · exact fun _ _ _ => .settled
      · exact fun _ _ _ => .settled
  | archive d =>
      have archives := @ends (fun _ => Archives userData d [] s) (archiveProfile_attempts filed.toHome)
      rcases archives with moves | ⟨moves, _⟩
      · exact moves.mono fun _ => .inl
      · exact moves
  | restore id =>
      have restores := @ends (fun _ => Restores userData id [] s)
        (restoreArchivedProfile_attempts filed)
      rcases restores with settled | ⟨moves, _⟩
      · exact .settled settled
      · exact moves
  | delete id =>
      exact @ends (fun _ _ s' => Moves userData _ s s') (deleteArchivedProfile_attempts filed)

theorem Moves.filed {may : Movement → Prop} (moves : Moves userData may s s')
    (filed : Filed userData s) : Filed userData s' :=
  moves.keeps Settled.filed (fun _ moved => moved.filed) filed

/-- Commands one after another, each from a state that it may run in. -/
inductive Run (P : Primitives C) (userData : Path) (may : ProfileStore C → LocalCommand → Prop) :
    ProfileStore C → ProfileStore C → Prop
  | start {s : ProfileStore C} : Run P userData may s s
  | step {s s₁ s₂ : ProfileStore C} {command : LocalCommand} {journal : List ProfileEntry}
      {result : Except String ProfileReport} : Run P userData may s s₁ → may s₁ command →
      Ran P userData command s₁ journal result s₂ → Run P userData may s s₂

/-- The client is new, and the user data is a directory that no link leads to or to its archive. -/
structure Began (userData : Path) (s : ProfileStore C) : Prop extends Home userData s where
  unarchived : s.state.archives = []

theorem Began.filed (began : Began userData s) : Filed userData s where
  toHome := began.toHome
  apart row member := by
    rw [began.unarchived] at member
    cases member
  named row member := by
    rw [began.unarchived] at member
    cases member
  ids := by rw [began.unarchived]; exact List.nodup_nil
  names := by rw [began.unarchived]; exact List.nodup_nil
  places := by rw [began.unarchived]; exact List.nodup_nil

variable {may : ProfileStore C → LocalCommand → Prop}

theorem Run.filed (run : Run P userData may s s') (filed : Filed userData s) : Filed userData s' := by
  induction run with
  | start => exact filed
  | step _ _ ran ih => exact (ran.moves ih).filed ih

/-- The command deletes no archive of the profile. -/
def SparesArchives (d : String) (s : ProfileStore C) (command : LocalCommand) : Prop :=
  ∀ row ∈ s.state.archives, command = .delete row.id → row.directoryName ≠ d

theorem Makes.spares {command : LocalCommand} {movement : Movement}
    (makes : Makes s command movement) (spared : SparesArchives d s command) :
    movement.Spares d := by
  intro row deletes
  cases command with
  | discover | rename | setDefault | setAutoSync => exact makes.elim
  | create =>
      obtain ⟨name, rfl⟩ := makes
      rcases deletes with same | same <;> cases same
  | archive =>
      rcases makes with rfl | ⟨row', _, rfl⟩ <;> rcases deletes with same | same <;> cases same
  | restore =>
      obtain ⟨row', _, rfl⟩ := makes
      rcases deletes with same | same <;> cases same
  | delete id =>
      obtain ⟨row', member, named, rfl | rfl⟩ := makes
      · rcases deletes with same | same <;> cases same
        exact spared row member (named ▸ rfl)
      · rcases deletes with same | same <;> cases same
        exact spared row member (named ▸ rfl)

theorem Run.keptOnce {tree : FileTree Plaintext} (run : Run P userData (SparesArchives d) s s')
    (filed : Filed userData s) (profile : d ≠ archivesName) (present : tree ≠ FileTree.empty)
    (kept : KeptOnce userData s d tree) : KeptOnce userData s' d tree := by
  induction run with
  | start => exact kept
  | step before spared ran ih =>
      have filed₁ := before.filed filed
      have moves := ran.moves filed₁
      refine (moves.keeps (I := fun s => Filed userData s ∧ KeptOnce userData s d tree) ?_ ?_
        ⟨filed₁, ih⟩).2
      · exact fun settled ⟨filed, kept⟩ => ⟨settled.filed filed, settled.keptOnce kept⟩
      · exact fun makes moved ⟨filed, kept⟩ =>
          ⟨moved.filed filed, moved.keptOnce filed profile present (makes.spares spared) kept⟩

/-- From a new client's first command on, a profile that is there at some moment is kept in exactly one
place until one of its archives is deleted, and no name is both live and archived. -/
theorem archiving_conserves_profiles {s₀ : ProfileStore C} (began : Began userData s₀)
    (before : Run P userData (fun _ _ => True) s₀ s) (present : Present userData s d)
    (profile : d ≠ archivesName) (run : Run P userData (SparesArchives d) s s') :
    KeptOnce userData s' d (s.files.get (userData ++ [d])) ∧
      ∀ row ∈ s'.state.archives, ¬ Present userData s' row.directoryName := by
  have filed := before.filed began.filed
  refine ⟨run.keptOnce filed profile ?_ (.inl ⟨rfl, ?_⟩), (run.filed filed).apart⟩
  · exact fun nothing => present (kind_eq_none_iff.mpr nothing)
  · rintro row member rfl
    exact filed.apart row member present

/-- The registry refused a row, or to give one up. -/
def unregistered : ProfileEntry → Bool
  | ⟨.recordProfileArchive .., .error _⟩ | ⟨.removeProfileArchive _, .error _⟩ => true
  | _ => false

theorem Passes.registered {entry : ProfileEntry} (passes : Passes journal journal')
    (refused : unregistered entry = true) (member : entry ∈ journal') : entry ∈ journal := by
  obtain ⟨rest, rfl, plain⟩ := passes
  rcases List.mem_append.mp member with old | new
  · exact old
  · have plain := plain entry new
    obtain ⟨op, reply⟩ := entry
    cases op with
    | recordProfileArchive | removeProfileArchive =>
        cases reply with
        | ok => cases refused
        | error => exact plain.elim
    | heliumClosed | installation | discover | newUuid | test | canonicalize | symlinkMetadata
    | change | profilePreferences | profileArchives | ensureProfile | renameProfile
    | setDefaultProfile | setAutoSync => cases refused

theorem Moves.rooting (moves : Moves userData (· = .root) s s') (home : Home userData s) :
    Rooting userData s.files s'.files ∧ s'.state.archives = s.state.archives := by
  induction moves with
  | settled settled => exact ⟨.inl settled.files, settled.archives⟩
  | moved settled made moved _ ih =>
      subst made
      cases moved with
      | root absent =>
          have home₁ := home.same fun q _ => by rw [settled.files]
          obtain ⟨rooting, rows⟩ := ih (home_root home₁)
          refine ⟨.inr ⟨settled.files ▸ absent, ?_⟩, rows.trans settled.archives⟩
          rw [← settled.files]
          rcases rooting with same | ⟨absent', _⟩
          · exact same
          · cases (look_put home₁.directory folder []).symm.trans absent'

/-- An archive or restore command that the registry refuses leaves the files and the registry as they
were, but for a first archive command having made the empty archive. -/
theorem refused_command_changes_nothing {s₀ : ProfileStore C} (began : Began userData s₀)
    (before : Run P userData (fun _ _ => True) s₀ s) {command : LocalCommand}
    {result : Except String ProfileReport} (ran : Ran P userData command s journal result s')
    {entry : ProfileEntry} (member : entry ∈ journal) (refused : unregistered entry = true) :
    (∀ d, command = .archive d →
      Rooting userData s.files s'.files ∧ s'.state.archives = s.state.archives) ∧
    ∀ id, command = .restore id →
      s'.files = s.files ∧ s'.state.archives = s.state.archives := by
  have filed := before.filed began.filed
  refine ⟨?_, ?_⟩
  · rintro d rfl
    have ends : Archives userData d [] s journal s' := @Prog.Logs.post _ _ _ _ _ _ _ _ _ _ _
      (fun _ => Archives userData d [] s) [] _ ran
      (Prog.ensures_of_attempts (archiveProfile_attempts filed.toHome))
    rcases ends with moves | ⟨_, passes⟩
    · exact moves.rooting filed.toHome
    · cases passes.registered refused member
  · rintro id rfl
    have ends : Restores userData id [] s journal s' := @Prog.Logs.post _ _ _ _ _ _ _ _ _ _ _
      (fun _ => Restores userData id [] s) [] _ ran
      (Prog.ensures_of_attempts (restoreArchivedProfile_attempts filed))
    rcases ends with settled | ⟨_, passes⟩
    · exact ⟨settled.files, settled.archives⟩
    · cases passes.registered refused member

section
open Reference

/-- A computer on which Helium has no profile yet. -/
def emptyInstallation : ProfileStore Sealed where
  files := folder.put ["helium"] folder
  state := .empty

theorem emptyInstallation_began : Began ["helium"] emptyInstallation where
  directory := rfl
  linkless := by
    intro q before target
    have place := (List.mem_inits q _).mpr before
    simp [profileArchiveRoot] at place
    rcases place with rfl | rfl | rfl <;> exact fun linked => by cases linked
  unarchived := rfl

def orderlyCheck : ProfileOp → ProfileChoice → ProfileStore Sealed → Bool
  | .newUuid, .drawn uuid, s =>
      (s.files.look (profileArchiveRoot ["helium"] ++ [primitives.formatUuid uuid])).isNone
  | .newUuid, _, _ => false
  | .change _ true, .fate .proceeds, _ => true
  | .change _ true, _, _ => false
  | .change (.createDir _) false, .fate (.fails .alreadyExists), _ => false
  | _, _, _ => true

theorem orderlyCheck_sound {op : ProfileOp} {choice : ProfileChoice} {s : ProfileStore Sealed}
    (checked : orderlyCheck op choice s = true) : Orderly primitives ["helium"] op choice s := by
  cases op with
  | newUuid =>
      rintro uuid rfl
      exact Option.isNone_iff_eq_none.mp checked
  | change c undo =>
      cases undo with
      | true =>
          cases choice with
          | fate fate => cases fate <;> first | rfl | cases checked
          | proceed | failed | drawn | stamped => cases checked
      | false =>
          cases c with
          | createDir p =>
              rintro rfl
              cases checked
          | createDirAll | createNew | writeAll | syncAll | write | rename | removeFile | removeDirAll =>
              trivial
  | heliumClosed | installation | discover | test | canonicalize | symlinkMetadata
  | profilePreferences | profileArchives | ensureProfile | renameProfile | setDefaultProfile
  | setAutoSync | recordProfileArchive | removeProfileArchive => trivial

def sampleRun (command : LocalCommand) (choices : List ProfileChoice) (s : ProfileStore Sealed) :
    Option (List ProfileEntry × Except String ProfileReport × ProfileStore Sealed) :=
  (command.program primitives ["helium"]).run.record
    (Interaction.guarded (exec primitives ["helium"]) orderlyCheck) (fun _ _ => true) choices s

theorem sampleRun_ran {command : LocalCommand} {choices : List ProfileChoice}
    {s s' : ProfileStore Sealed} {result : Except String ProfileReport}
    (ran : sampleRun command choices s = some (journal, result, s')) :
    Ran primitives ["helium"] command s journal result s' :=
  Interaction.Prog.logs_of_guarded orderlyCheck_sound ran

def creation : List ProfileChoice :=
  List.replicate 4 .proceed ++ [.fate .proceeds] ++ List.replicate 7 .proceed

/-- An archive command whose row is written or refused. -/
def archival (record : ProfileChoice) (later : List ProfileChoice) : List ProfileChoice :=
  List.replicate 7 .proceed ++ [.drawn 5, .fate .proceeds, .fate .proceeds, record] ++ later

/-- A profile is created, and archived. -/
theorem archiving_conserves_profiles_archived : ∃ s s' : ProfileStore Sealed,
    Present ["helium"] s "Profile 1" ∧ s'.state.archives ≠ [] ∧
    KeptOnce ["helium"] s' "Profile 1" (s.files.get ["helium", "Profile 1"]) ∧
    ∀ row ∈ s'.state.archives, ¬ Present ["helium"] s' row.directoryName := by
  have evaluated : ((sampleRun (.create "Work") creation emptyInstallation).bind fun (_, _, s) =>
      (sampleRun (.archive "Profile 1") (archival (.stamped "now") (List.replicate 4 .proceed)) s).map
        fun (_, _, s') => ((s.files.look ["helium", "Profile 1"]).isSome, s'.state.archives.isEmpty)) =
      some (true, false) := by decide +kernel
  obtain ⟨⟨j₁, r₁, s⟩, created, evaluated⟩ := Option.bind_eq_some_iff.mp evaluated
  obtain ⟨⟨j₂, r₂, s'⟩, archived, same⟩ := Option.map_eq_some_iff.mp evaluated
  obtain ⟨there, listed⟩ := Prod.mk.inj same
  have present : Present ["helium"] s "Profile 1" := Option.isSome_iff_ne_none.mp there
  have rows : s'.state.archives ≠ [] := fun none => by
    rw [none] at listed
    cases listed
  have kept := archiving_conserves_profiles (d := "Profile 1") emptyInstallation_began
    (.step .start trivial (sampleRun_ran created)) present (by decide)
    (.step .start (fun _ _ same => by cases same) (sampleRun_ran archived))
  exact ⟨s, s', present, rows, kept.1, kept.2⟩

/-- A first archive command whose row is refused leaves the empty archive. -/
theorem refused_command_changes_nothing_archive : ∃ s s' : ProfileStore Sealed,
    s'.files.look ["helium", archivesName] = some .dir ∧
    s.files.look ["helium", archivesName] = none ∧
    Rooting ["helium"] s.files s'.files ∧ s'.state.archives = s.state.archives := by
  have evaluated : ((sampleRun (.create "Work") creation emptyInstallation).bind fun (_, _, s) =>
      (sampleRun (.archive "Profile 1") (archival (.failed "locked") [.fate .proceeds]) s).map
        fun (journal, _, s') => (s'.files.look ["helium", archivesName],
          s.files.look ["helium", archivesName], journal.any unregistered)) =
      some (some .dir, none, true) := by decide +kernel
  obtain ⟨⟨j₁, r₁, s⟩, created, evaluated⟩ := Option.bind_eq_some_iff.mp evaluated
  obtain ⟨⟨j₂, r₂, s'⟩, archived, same⟩ := Option.map_eq_some_iff.mp evaluated
  obtain ⟨made, absent, refused⟩ : s'.files.look ["helium", archivesName] = some .dir ∧
      s.files.look ["helium", archivesName] = none ∧ j₂.any unregistered = true := by
    obtain ⟨made, rest⟩ := Prod.mk.inj same
    exact ⟨made, Prod.mk.inj rest⟩
  obtain ⟨entry, member, refused⟩ := List.any_eq_true.mp refused
  have kept := (refused_command_changes_nothing emptyInstallation_began
    (.step .start trivial (sampleRun_ran created)) (sampleRun_ran archived) member
    refused).1 "Profile 1" rfl
  exact ⟨s, s', made, absent, kept⟩

end

end HeliumSync.ProfileStore
