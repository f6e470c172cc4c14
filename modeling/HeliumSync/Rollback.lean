import HeliumSync.Targets

/-! The two loops of a restore and their rollback: where the data of every target is after each. -/
namespace HeliumSync.LocatedProfile
open Files FileTree
open Interaction (Action)
open Interaction.Action (attempts_bind attempts_pure attempts_throw attempts_mapErr attempts_outcome)

variable {home backup root : Path} {stage rollback : String} {t₀ t t' : FileTree Plaintext}
  {held : Area → Path → FileTree Plaintext} {r : Path} {moved installed : List Path}
  {journal : List (FileEntry Plaintext)} {sighted : Prop}

namespace Laid

/-- A folder of targets that was there is there. -/
theorem isDir_folder (ground : Ground home stage rollback root t₀)
    (laid : Laid home stage rollback root t₀ t held) (area : Area) (target : IsTarget r)
    (before : t₀.isDir (area.folder home stage rollback root r.dropLast)) :
    t.isDir (area.folder home stage rollback root r.dropLast) := by
  rcases laid.frame _ fun a s target' => ground.not_prefix_folder target' target.split.1 with
    same | ⟨absent, _, _⟩
  · exact same.trans before
  · cases absent.symm.trans before

theorem folder_of_held (laid : Laid home stage rollback root t₀ t held) {area : Area}
    (target : IsTarget r) (there : held area r ≠ empty) :
    t.isDir (area.folder home stage rollback root r.dropLast) := by
  obtain ⟨-, name, split⟩ := target.split
  refine isDir_of_look (q := [name]) (List.cons_ne_nil _ _) fun nothing => there ?_
  rw [← Area.slot_eq split, laid.look_slot area target] at nothing
  exact kind_eq_none_iff.mp nothing

end Laid

/-- What the undoing of steps keeps of a journal. -/
def UndoClosed (J : List (FileEntry Plaintext) → Prop) : Prop :=
  ∀ journal entry, J journal → entry.op.undo = true → J (journal ++ [entry])

/-- Removing an installed target. -/
theorem removeLive_attempts (ground : Ground home stage rollback root t₀)
    (laid : Laid home stage rollback root t₀ t held) (target : IsTarget r)
    (there : held .live r ≠ empty) (plain : ∀ target, (held .live r).kind ≠ some (.link target))
    {J : List (FileEntry Plaintext) → Prop} (closed : UndoClosed J)
    (kept : J journal) {error : IoError → List (FileEntry Plaintext) → FileTree Plaintext → Prop} :
    (unchange (if (Test.isDir (home ++ r)).holds t then .removeDirAll (home ++ r)
      else .removeFile (home ++ r))).Attempts (working sighted)
      (fun _ journal t' => J journal ∧ Laid home stage rollback root t₀ t'
        fun a s => if a = .live ∧ s = r then empty else held a s) error journal t := by
  obtain ⟨-, name, split⟩ := target.split
  have parent := laid.folder_of_held target there
  have leads := laid.leads ground .live target
  have look := laid.look_slot .live target
  have cleared := laid.put ground target (x := .empty) parent
  have path : home ++ r = home ++ r.dropLast ++ [name] := Laid.path_eq split
  rw [Area.slot_eq split] at look cleared
  have stat : t.stat (home ++ r) = (held .live r).kind := by
    rw [path, ← look]
    refine stat_concat (leads.reaches parent) parent (fun target link => ?_) fun nothing => there ?_
    · exact plain target (look.symm.trans link)
    · exact kind_eq_none_iff.mp (look.symm.trans nothing)
  by_cases directory : (held .live r).kind = some .dir
  · have yes : (Test.isDir (home ++ r)).holds t = true := by simp [Test.holds, stat, directory]
    rw [if_pos yes]
    have works := removeDirAll_eq leads parent (look.trans directory)
    refine attempts_unchange (fun t' removed => ?_) fun e refused => ?_
    · rw [path] at removed
      cases works.symm.trans removed
      exact ⟨closed _ _ kept rfl, cleared⟩
    · rw [path] at refused
      cases works.symm.trans refused
  · have no : (Test.isDir (home ++ r)).holds t = false := by
      rw [Test.holds, stat]
      match kind : (held .live r).kind with
      | some .dir => exact absurd kind directory
      | some (.file _) | some (.link _) | none => rfl
    rw [if_neg (by rw [no]; nofun)]
    have works := removeFile_eq leads parent
      (fun nothing => there (kind_eq_none_iff.mp (look.symm.trans nothing)))
      fun found => directory (look.symm.trans found)
    refine attempts_unchange (fun t' removed => ?_) fun e refused => ?_
    · rw [path] at removed
      cases works.symm.trans removed
      exact ⟨closed _ _ kept rfl, cleared⟩
    · rw [path] at refused
      cases works.symm.trans refused

/-- The installed targets go. -/
theorem removeInstalled_attempts (ground : Ground home stage rollback root t₀)
    {J : List (FileEntry Plaintext) → Prop} (closed : UndoClosed J)
    {error : ProfileError → List (FileEntry Plaintext) → FileTree Plaintext → Prop}
    (list : List Path) (targets : ∀ r ∈ list, IsTarget r ∧ held .live r ≠ empty ∧
      ∀ target, (held .live r).kind ≠ some (.link target))
    (distinct : list.Nodup) (laid : Laid home stage rollback root t₀ t held) (kept : J journal) :
    (removeInstalled home list).Attempts (working sighted)
      (fun _ journal t' => J journal ∧ Laid home stage rollback root t₀ t'
        fun a s => if a = .live ∧ s ∈ list then empty else held a s) error journal t := by
  induction list generalizing t journal held with
  | nil => exact ⟨kept, laid.congr (by simp)⟩
  | cons r rest ih =>
      obtain ⟨fresh, distinct⟩ := List.nodup_cons.mp distinct
      obtain ⟨target, there, plain⟩ := targets r List.mem_cons_self
      refine attempts_bind.mpr (attempts_test fun answer _ sure => ?_)
      rw [sure (.inl rfl)]
      refine attempts_bind.mpr (attempts_outcome.mpr ((removeLive_attempts ground laid target there
        plain closed (closed _ _ kept rfl)).mono ?_ (fun _ _ _ => id)))
      rintro ⟨⟩ journal t₁ ⟨kept, laid⟩
      refine attempts_bind.mpr ((ih (fun s later => ?_) distinct laid kept).mono ?_
        fun _ _ _ => id)
      · have other : s ≠ r := fun same => fresh (same ▸ later)
        simpa [other] using targets s (List.mem_cons_of_mem _ later)
      · rintro _ journal t₂ ⟨kept, laid⟩
        refine ⟨kept, laid.congr fun a s _ => ?_⟩
        by_cases live : a = .live <;> by_cases same : s = r <;> by_cases later : s ∈ rest <;>
          simp [live, same, later]

/-- A folder of live targets that is there need not be made. -/
theorem createDirAll_folder (ground : Ground home stage rollback root t₀)
    (laid : Laid home stage rollback root t₀ t held) (target : IsTarget r)
    (here : t.isDir (Area.live.folder home stage rollback root r.dropLast)) :
    t.createDirAll (home ++ r.dropLast) = .ok t := by
  have linkless := laid.linkless_base ground .live
  have directory := laid.look_base ground .live
  rcases target.split.1 with nothing | inside
  · rw [nothing, List.append_nil]
    exact createDirAll_of_isDir linkless directory
  · have leads := laid.leads ground .live target
    rw [inside] at here leads ⊢
    refine createDirAll_of_leads leads here ?_ ?_ <;> rw [List.dropLast_concat]
    · exact linkless
    · exact directory

/-- Putting one target back. -/
theorem putBackOne_attempts (ground : Ground home stage rollback root t₀)
    (laid : Laid home stage rollback root t₀ t held) (target : IsTarget r)
    (there : held .previous r ≠ empty) (free : held .live r = empty)
    (folder : t₀.isDir (Area.live.folder home stage rollback root r.dropLast))
    {J : List (FileEntry Plaintext) → Prop}
    (closed : UndoClosed J) (kept : J journal) {f g : IoError → String}
    {error : String → List (FileEntry Plaintext) → FileTree Plaintext → Prop} :
    (do (unchange (.createDirAll (home ++ r).dropLast)).mapErr f
        (unchange (.rename (home ++ [rollback] ++ r) (home ++ r))).mapErr g :
      FileAction Plaintext String Unit).Attempts (working sighted)
      (fun _ journal t' => J journal ∧ Laid home stage rollback root t₀ t' fun a s =>
        if a = .live ∧ s = r then held .previous r
        else if a = .previous ∧ s = r then empty else held a s) error journal t := by
  have here := laid.isDir_folder ground .live target folder
  have works := createDirAll_folder ground laid target here
  have path := Laid.dropLast_path home target
  rw [path]
  refine attempts_bind.mpr (attempts_mapErr.mpr (attempts_unchange (fun t₁ made => ?_)
    fun e refused => ?_))
  swap
  · cases works.symm.trans refused
  cases works.symm.trans made
  obtain ⟨t₂, back⟩ := laid.rename_eq ground (a := .previous) (b := .live) (by nofun) target there
    free (laid.folder_of_held target there) here
  refine attempts_mapErr.mpr (attempts_unchange (fun t₃ renamed => ?_) fun e refused => ?_)
  · exact ⟨closed _ _ (closed _ _ kept rfl) rfl,
      (laid.rename ground (a := .previous) (b := .live) (by nofun) target renamed).2⟩
  · cases back.symm.trans refused

/-- The moved targets come back. -/
theorem putBack_attempts (ground : Ground home stage rollback root t₀)
    {J : List (FileEntry Plaintext) → Prop} (closed : UndoClosed J)
    {error : ProfileError → List (FileEntry Plaintext) → FileTree Plaintext → Prop}
    (list : List Path) (targets : ∀ r ∈ list, IsTarget r ∧ held .previous r ≠ empty ∧
      held .live r = empty ∧ t₀.isDir (Area.live.folder home stage rollback root r.dropLast))
    (distinct : list.Nodup) (laid : Laid home stage rollback root t₀ t held) (kept : J journal) :
    (putBack home (home ++ [rollback]) list).Attempts (working sighted)
      (fun _ journal t' => J journal ∧ Laid home stage rollback root t₀ t' fun a s =>
        if a = .live ∧ s ∈ list then held .previous s
        else if a = .previous ∧ s ∈ list then empty else held a s) error journal t := by
  induction list generalizing t journal held with
  | nil => exact ⟨kept, laid.congr (by simp)⟩
  | cons r rest ih =>
      obtain ⟨fresh, distinct⟩ := List.nodup_cons.mp distinct
      obtain ⟨target, there, free, folder⟩ := targets r List.mem_cons_self
      refine attempts_bind.mpr (attempts_outcome.mpr ((putBackOne_attempts ground laid target there
        free folder closed kept).mono ?_ (fun _ _ _ => id)))
      rintro ⟨⟩ journal t₁ ⟨kept, laid⟩
      refine attempts_bind.mpr ((ih (fun s later => ?_) distinct laid kept).mono ?_
        fun _ _ _ => id)
      · have other : s ≠ r := fun same => fresh (same ▸ later)
        simpa [other] using targets s (List.mem_cons_of_mem _ later)
      · rintro _ journal t₂ ⟨kept, laid⟩
        refine ⟨kept, laid.congr fun a s _ => ?_⟩
        cases a <;> by_cases same : s = r <;> by_cases later : s ∈ rest <;>
          simp_all

/-- What stood at a target of an area at the beginning. -/
def initial (home : Path) (stage rollback : String) (root : Path) (t₀ : FileTree Plaintext)
    (area : Area) (r : Path) : FileTree Plaintext := t₀.get (area.slot home stage rollback root r)

/-- Where everything is when these live targets are out and these staged ones in. -/
def shifted (before : Area → Path → FileTree Plaintext) (moved installed : List Path) :
    Area → Path → FileTree Plaintext
  | .live => fun r =>
      if r ∈ installed then before .staged r else if r ∈ moved then empty else before .live r
  | .previous => fun r => if r ∈ moved then before .live r else empty
  | .staged => fun r => if r ∈ installed then empty else before .staged r

/-- What the two loops have done so far. -/
structure Progress (before : Area → Path → FileTree Plaintext) (moved installed : List Path) :
    Prop where
  movedOnce : moved.Nodup
  installedOnce : installed.Nodup
  movedFrom : ∀ r ∈ moved, IsTarget r ∧ before .live r ≠ empty
  installedFrom : ∀ r ∈ installed, IsTarget r ∧ before .staged r ≠ empty

theorem Progress.start {before : Area → Path → FileTree Plaintext} : Progress before [] [] :=
  ⟨List.nodup_nil, List.nodup_nil, by simp, by simp⟩

theorem nodup_concat {list : List Path} (distinct : list.Nodup) (fresh : r ∉ list) :
    (list ++ [r]).Nodup :=
  List.nodup_append.mpr ⟨distinct, List.nodup_singleton r, fun a inside b same => by
    cases List.mem_singleton.mp same
    exact fun e => fresh (e ▸ inside)⟩

/-- One more live target is out. -/
theorem Progress.move {before : Area → Path → FileTree Plaintext} (progress : Progress before moved [])
    (fresh : r ∉ moved) (target : IsTarget r) (there : before .live r ≠ empty) :
    Progress before (moved ++ [r]) [] := by
  refine ⟨nodup_concat progress.movedOnce fresh, List.nodup_nil, fun s member => ?_, by simp⟩
  rcases List.mem_append.mp member with before | last
  · exact progress.movedFrom s before
  · cases List.mem_singleton.mp last
    exact ⟨target, there⟩

/-- One more staged target is in. -/
theorem Progress.install {before : Area → Path → FileTree Plaintext}
    (progress : Progress before moved installed) (fresh : r ∉ installed) (target : IsTarget r)
    (there : before .staged r ≠ empty) : Progress before moved (installed ++ [r]) := by
  refine ⟨progress.movedOnce, nodup_concat progress.installedOnce fresh, progress.movedFrom,
    fun s member => ?_⟩
  rcases List.mem_append.mp member with before | last
  · exact progress.installedFrom s before
  · cases List.mem_singleton.mp last
    exact ⟨target, there⟩

/-- No symbolic link is staged. -/
def StagedPlain (before : Area → Path → FileTree Plaintext) : Prop :=
  ∀ r, IsTarget r → ∀ target, (before .staged r).kind ≠ some (.link target)

/-- After a rollback every live target is what it was, but for those that were overwritten. -/
theorem rollbackExtensionTargets_attempts (ground : Ground home stage rollback root t₀)
    (plain : StagedPlain (initial home stage rollback root t₀))
    (progress : Progress (initial home stage rollback root t₀) moved installed)
    (laid : Laid home stage rollback root t₀ t
      (shifted (initial home stage rollback root t₀) moved installed))
    {J : List (FileEntry Plaintext) → Prop} (closed : UndoClosed J) (kept : J journal)
    {error : ProfileError → List (FileEntry Plaintext) → FileTree Plaintext → Prop} :
    (rollbackExtensionTargets home (home ++ [rollback]) moved installed).Attempts (working sighted)
      (fun _ journal t' => J journal ∧ ∃ held, Laid home stage rollback root t₀ t' held ∧
        ∀ r, IsTarget r → held .live r = if r ∈ installed ∧ r ∉ moved then empty
          else initial home stage rollback root t₀ .live r) error journal t := by
  have back : ∀ r ∈ moved, t₀.isDir (Area.live.folder home stage rollback root r.dropLast) := by
    intro r out
    obtain ⟨target, there⟩ := progress.movedFrom r out
    obtain ⟨-, name, split⟩ := target.split
    refine isDir_of_get (q := [name]) (List.cons_ne_nil _ _) ?_
    rwa [← Area.slot_eq split]
  refine attempts_bind.mpr ((removeInstalled_attempts ground closed installed.reverse
    (fun r member => ?_) (List.nodup_reverse.mpr progress.installedOnce) laid kept).mono ?_
    fun _ _ _ => id)
  · have member := List.mem_reverse.mp member
    obtain ⟨target, there⟩ := progress.installedFrom r member
    refine ⟨target, by simpa [shifted, member] using there, ?_⟩
    simpa [shifted, member] using plain r target
  rintro _ journal t₁ ⟨kept, laid⟩
  refine attempts_bind.mpr ((putBack_attempts ground closed moved.reverse
    (fun r member => ?_) (List.nodup_reverse.mpr progress.movedOnce) laid kept).mono ?_
    fun _ _ _ => id)
  · have member := List.mem_reverse.mp member
    obtain ⟨target, there⟩ := progress.movedFrom r member
    refine ⟨target, by simpa [shifted, member] using there, ?_, back r member⟩
    by_cases inside : r ∈ installed <;> simp [shifted, member, inside]
  · rintro _ journal t₂ ⟨kept, laid⟩
    refine ⟨kept, _, laid, fun r _ => ?_⟩
    by_cases out : r ∈ moved <;> by_cases inside : r ∈ installed <;> simp [shifted, out, inside]

/-- The record of a live target that was moved out, to the temporary folder of this name. -/
def movedOut (home : Path) (name : String) (r : Path) : FileEntry Plaintext :=
  changed (.rename (home ++ r) (home ++ [name] ++ r)) false (.ok ())

/-- The record of a staged target that was moved in, from the temporary folder of this name. -/
def movedIn (home : Path) (name : String) (r : Path) : FileEntry Plaintext :=
  changed (.rename (home ++ [name] ++ ["profile"] ++ r) (home ++ r)) false (.ok ())

/-- A folder of the rollback area was refused after a live target had been moved there. -/
def Stranded (home : Path) (journal : List (FileEntry Plaintext)) : Prop :=
  ∃ name r q e, movedOut home name r ∈ journal ∧
    changed (.createDirAll (home ++ [name] ++ q)) false (.error e) ∈ journal

/-- A staged target was moved in over what stood there and had not been moved out. -/
def Overwrote (home : Path) (was : Path → FileTree Plaintext) (journal : List (FileEntry Plaintext)) :
    Prop :=
  ∃ name r, IsTarget r ∧ was r ≠ empty ∧ movedIn home name r ∈ journal ∧
    ∀ name', movedOut home name' r ∉ journal

/-- What the journal says of the moves, while no folder of the rollback area is refused. -/
structure Tracked (home : Path) (stage rollback : String) (moved installed : List Path)
    (journal : List (FileEntry Plaintext)) : Prop where
  outs : ∀ name r, movedOut home name r ∈ journal → name = rollback ∧ r ∈ moved
  out : ∀ r ∈ moved, movedOut home rollback r ∈ journal
  ins : ∀ name r, movedIn home name r ∈ journal → r ∈ installed
  into : ∀ r ∈ installed, movedIn home stage r ∈ journal
  accepted : ∀ q e, changed (.createDirAll (home ++ [rollback] ++ q)) false (.error e) ∉ journal

/-- A move in is no move out. -/
theorem movedIn_ne_movedOut {name name' : String} {s : Path} :
    movedIn home name r ≠ movedOut home name' s := by
  intro same
  have same := congrArg FileCall.op (congrArg Interaction.Entry.op same)
  simp only [movedIn, movedOut, changed, FileOp.change.injEq, Files.Change.rename.injEq] at same
  obtain ⟨source, dest⟩ := same
  have lengths := congrArg List.length source
  have lengths' := congrArg List.length dest
  simp only [List.length_append, List.length_singleton] at lengths lengths'
  omega

namespace Tracked
variable {x : FileEntry Plaintext}

theorem not_stranded (tracked : Tracked home stage rollback moved installed journal) :
    ¬ Stranded home journal := by
  rintro ⟨name, r, q, e, out, refused⟩
  obtain ⟨rfl, -⟩ := tracked.outs name r out
  exact tracked.accepted q e refused

theorem overwrote_iff (tracked : Tracked home stage rollback moved installed journal)
    (targets : ∀ r ∈ installed, IsTarget r) {was : Path → FileTree Plaintext} :
    Overwrote home was journal ↔ ∃ r ∈ installed, r ∉ moved ∧ was r ≠ empty := by
  constructor
  · rintro ⟨name, r, target, there, into, stayed⟩
    exact ⟨r, tracked.ins name r into, fun out => stayed _ (tracked.out r out), there⟩
  · rintro ⟨r, inside, stayed, there⟩
    exact ⟨stage, r, targets r inside, there, tracked.into r inside,
      fun name out => stayed (tracked.outs name r out).2⟩

theorem append (tracked : Tracked home stage rollback moved installed journal)
    (notOut : ∀ name r, x ≠ movedOut home name r) (notIn : ∀ name r, x ≠ movedIn home name r)
    (notRefused : ∀ q e,
      x ≠ changed (.createDirAll (home ++ [rollback] ++ q)) false (.error e)) :
    Tracked home stage rollback moved installed (journal ++ [x]) where
  outs name r member := by
    rcases List.mem_append.mp member with before | last
    · exact tracked.outs name r before
    · exact absurd (List.mem_singleton.mp last).symm (notOut name r)
  out r member := List.mem_append_left _ (tracked.out r member)
  ins name r member := by
    rcases List.mem_append.mp member with before | last
    · exact tracked.ins name r before
    · exact absurd (List.mem_singleton.mp last).symm (notIn name r)
  into r member := List.mem_append_left _ (tracked.into r member)
  accepted q e member := by
    rcases List.mem_append.mp member with before | last
    · exact tracked.accepted q e before
    · exact notRefused q e (List.mem_singleton.mp last).symm

theorem undoClosed : UndoClosed (Tracked home stage rollback moved installed) := by
  rintro journal ⟨⟨op, undo⟩, reply⟩ tracked rfl
  exact tracked.append (by nofun) (by nofun) (by nofun)

/-- One more target is out. -/
theorem move (tracked : Tracked home stage rollback moved installed journal) (r : Path) :
    Tracked home stage rollback (moved ++ [r]) installed
      (journal ++ [movedOut home rollback r]) where
  outs name s member := by
    rcases List.mem_append.mp member with before | last
    · obtain ⟨same, out⟩ := tracked.outs name s before
      exact ⟨same, List.mem_append_left _ out⟩
    · have same := congrArg FileCall.op (congrArg Interaction.Entry.op (List.mem_singleton.mp last))
      simp only [movedOut, changed, FileOp.change.injEq, Files.Change.rename.injEq,
        List.append_cancel_left_eq] at same
      obtain ⟨rfl, same⟩ := same
      exact ⟨by simpa using same, by simp⟩
  out s member := by
    rcases List.mem_append.mp member with before | last
    · exact List.mem_append_left _ (tracked.out s before)
    · cases List.mem_singleton.mp last
      exact List.mem_append_right _ (List.mem_singleton.mpr rfl)
  ins name s member := by
    rcases List.mem_append.mp member with before | last
    · exact tracked.ins name s before
    · exact absurd (List.mem_singleton.mp last) movedIn_ne_movedOut
  into s member := List.mem_append_left _ (tracked.into s member)
  accepted q e member := by
    rcases List.mem_append.mp member with before | last
    · exact tracked.accepted q e before
    · cases List.mem_singleton.mp last

/-- One more target is in. -/
theorem install (tracked : Tracked home stage rollback moved installed journal) (r : Path) :
    Tracked home stage rollback moved (installed ++ [r])
      (journal ++ [movedIn home stage r]) where
  outs name s member := by
    rcases List.mem_append.mp member with before | last
    · exact tracked.outs name s before
    · exact absurd (List.mem_singleton.mp last).symm movedIn_ne_movedOut
  out s member := List.mem_append_left _ (tracked.out s member)
  ins name s member := by
    rcases List.mem_append.mp member with before | last
    · exact List.mem_append_left _ (tracked.ins name s before)
    · have same := congrArg FileCall.op (congrArg Interaction.Entry.op (List.mem_singleton.mp last))
      simp only [movedIn, changed, FileOp.change.injEq, Files.Change.rename.injEq,
        List.append_cancel_left_eq] at same
      simp [same.2]
  into s member := by
    rcases List.mem_append.mp member with before | last
    · exact List.mem_append_left _ (tracked.into s before)
    · cases List.mem_singleton.mp last
      exact List.mem_append_right _ (List.mem_singleton.mpr rfl)
  accepted q e member := by
    rcases List.mem_append.mp member with before | last
    · exact tracked.accepted q e before
    · cases List.mem_singleton.mp last

end Tracked

/-- What a failure makes of the live targets: each is what it was, or one is lost, after a refused
folder of the rollback area or after a refusal that followed an overwriting move. -/
def Spoiled (home : Path) (was : Path → FileTree Plaintext) (journal : List (FileEntry Plaintext))
    (now : Path → FileTree Plaintext) : Prop :=
  ((∀ r, IsTarget r → now r = was r) ∧ ¬ Stranded home journal ∧ ¬ Overwrote home was journal) ∨
    ((Stranded home journal ∨ (Overwrote home was journal ∧ Faulted journal)) ∧
      ∃ r, IsTarget r ∧ was r ≠ empty ∧ now r = empty)

/-- How the loops may fail. -/
def Exit (home : Path) (stage rollback : String) (root : Path) (t₀ : FileTree Plaintext)
    (journal : List (FileEntry Plaintext)) (t : FileTree Plaintext) : Prop :=
  ∃ held, Laid home stage rollback root t₀ t held ∧
    Spoiled home (initial home stage rollback root t₀ .live) journal (held .live)

theorem rollBack_attempts {α : Type} (ground : Ground home stage rollback root t₀)
    (plain : StagedPlain (initial home stage rollback root t₀))
    (progress : Progress (initial home stage rollback root t₀) moved installed)
    (laid : Laid home stage rollback root t₀ t
      (shifted (initial home stage rollback root t₀) moved installed))
    (tracked : Tracked home stage rollback moved installed journal) (faulted : Faulted journal)
    {failed : Path} {reason : String}
    {ok : α → List (FileEntry Plaintext) → FileTree Plaintext → Prop} :
    (rollBack home (home ++ [rollback]) backup moved installed failed reason).Attempts
      (working sighted) ok (fun _ => Exit home stage rollback root t₀) journal t := by
  have closed : UndoClosed fun journal =>
      Tracked home stage rollback moved installed journal ∧ Faulted journal := by
    rintro journal entry ⟨tracked, refused, member, fault⟩ undoing
    exact ⟨Tracked.undoClosed _ _ tracked undoing, refused, List.mem_append_left _ member, fault⟩
  refine attempts_bind.mpr ((rollbackExtensionTargets_attempts ground plain progress laid closed
    ⟨tracked, faulted⟩).mono ?_ fun _ _ _ => id)
  rintro _ journal t₁ ⟨⟨tracked, faulted⟩, held, laid, same⟩
  refine ⟨held, laid, ?_⟩
  rw [Spoiled, tracked.overwrote_iff fun r inside => (progress.installedFrom r inside).1]
  by_cases lost : ∃ r ∈ installed, r ∉ moved ∧ initial home stage rollback root t₀ .live r ≠ empty
  · obtain ⟨r, inside, stayed, there⟩ := lost
    have target := (progress.installedFrom r inside).1
    exact .inr ⟨.inr ⟨⟨r, inside, stayed, there⟩, faulted⟩, r, target, there,
      (same r target).trans (if_pos ⟨inside, stayed⟩)⟩
  · refine .inl ⟨fun r target => ?_, tracked.not_stranded, lost⟩
    rw [same r target]
    split_ifs with overwritten
    · by_contra there
      exact lost ⟨r, overwritten.1, overwritten.2, fun nothing => there nothing.symm⟩
    · rfl

/-- The live `IndexedDB` is as it was, or there is a staged target for it. -/
def Earned (home : Path) (before : Area → Path → FileTree Plaintext) (t₀ t : FileTree Plaintext) : Prop :=
  t.look (home ++ ["IndexedDB"]) = t₀.look (home ++ ["IndexedDB"]) ∨
    ∃ r, IsTarget r ∧ r.dropLast = ["IndexedDB"] ∧ before .staged r ≠ empty

theorem Laid.look_indexedDb (ground : Ground home stage rollback root t₀)
    (laid : Laid home stage rollback root t₀ t held) {a b : Area} (target : IsTarget r)
    (renamed : t.rename (a.base home stage rollback ++ r) (b.base home stage rollback ++ r) =
      .ok t') : t'.look (home ++ ["IndexedDB"]) = t.look (home ++ ["IndexedDB"]) :=
  laid.look_rename ground target renamed fun _ =>
    ground.not_prefix_base (b := .live) target (.inr rfl)

/-- A folder of the rollback area is not the live `IndexedDB`. -/
theorem look_of_paved_previous (fresh : Fresh stage rollback) {q : Path}
    (paved : Paved (home ++ [rollback] ++ q) t t') :
    t'.look (home ++ ["IndexedDB"]) = t.look (home ++ ["IndexedDB"]) := by
  rcases paved (home ++ ["IndexedDB"]) with same | ⟨_, _, before⟩
  · exact same
  · rw [List.append_assoc, List.prefix_append_right_inj] at before
    exact absurd ((List.cons_prefix_cons.mp before).1 ▸ List.mem_cons_self) fresh.rollbackFree

/-- Installing a target makes the live `IndexedDB` for a target below it only. -/
theorem Earned.install (ground : Ground home stage rollback root t₀)
    {before : Area → Path → FileTree Plaintext} (target : IsTarget r)
    {t₁ t₂ : FileTree Plaintext} (paved : Paved (home ++ r.dropLast) t t₁)
    (laid : Laid home stage rollback root t₀ t₁ held)
    (renamed : t₁.rename (home ++ [stage] ++ ["profile"] ++ r) (home ++ r) = .ok t₂)
    (there : before .staged r ≠ empty)
    (earned : Earned home before t₀ t) : Earned home before t₀ t₂ := by
  rcases target.split.1 with top | inside
  · have moved := laid.look_indexedDb ground (a := .staged) (b := .live) target renamed
    refine earned.imp_left fun same => moved.trans (Eq.trans ?_ same)
    rcases paved (home ++ ["IndexedDB"]) with same | ⟨_, _, before⟩
    · exact same
    · rw [top, List.append_nil] at before
      exact absurd before (not_prefix_concat List.prefix_rfl)
  · exact .inr ⟨r, target, inside, there⟩

/-- No symbolic link stands at a live target or on the way to one. -/
structure LivePlain (home root : Path) (t₀ : FileTree Plaintext) : Prop where
  here : root = home ++ ["IndexedDB"]
  direct : t₀.Linkless (home ++ ["IndexedDB"])
  plain : ∀ r, IsTarget r → ∀ target, t₀.look (home ++ r) ≠ some (.link target)

theorem LivePlain.slot_live (live : LivePlain home root t₀) (target : IsTarget r) :
    Area.live.slot home stage rollback root r = home ++ r := by
  rcases @Area.slot_cases home stage rollback root .live r target with
    ⟨name, -, -, rfl, slot⟩ | ⟨slot, -⟩
  · rw [slot, live.here, List.append_assoc]
    rfl
  · exact slot

theorem slot_staged (target : IsTarget r) :
    Area.staged.slot home stage rollback root r = home ++ [stage] ++ ["profile"] ++ r := by
  rcases @Area.slot_cases home stage rollback root .staged r target with
    ⟨_, _, live, _⟩ | ⟨slot, -⟩
  · cases live
  · exact slot

theorem slot_previous (target : IsTarget r) :
    Area.previous.slot home stage rollback root r = home ++ [rollback] ++ r := by
  rcases @Area.slot_cases home stage rollback root .previous r target with
    ⟨_, _, live, _⟩ | ⟨slot, -⟩
  · cases live
  · exact slot

theorem linkless_folder {p : Path} (linkless : t.Linkless (p ++ ["IndexedDB"])) (target : IsTarget r) :
    t.Linkless (p ++ r.dropLast) := by
  rcases target.split.1 with nothing | inside
  · rw [nothing, List.append_nil]
    exact linkless.of_before (List.prefix_append _ _)
  · rwa [inside]

/-- Whether a live target is there can be seen, where no link is about. -/
theorem stat_live (ground : Ground home stage rollback root t₀)
    (plain : StagedPlain (initial home stage rollback root t₀)) (live : LivePlain home root t₀)
    (laid : Laid home stage rollback root t₀ t
      (shifted (initial home stage rollback root t₀) moved installed)) (target : IsTarget r) :
    t.stat (home ++ r) =
      (shifted (initial home stage rollback root t₀) moved installed .live r).kind := by
  refine laid.stat_path .live target (linkless_folder (laid.linkless ground .live live.direct) target)
    (live.slot_live target) fun link same => ?_
  simp only [shifted] at same
  split_ifs at same
  · exact plain r target link same
  · cases same
  · rw [initial, live.slot_live target] at same
    exact live.plain r target link same

theorem stat_staged (ground : Ground home stage rollback root t₀)
    (plain : StagedPlain (initial home stage rollback root t₀))
    (laid : Laid home stage rollback root t₀ t
      (shifted (initial home stage rollback root t₀) moved installed)) (target : IsTarget r) :
    t.stat (home ++ [stage] ++ ["profile"] ++ r) =
      (shifted (initial home stage rollback root t₀) moved installed .staged r).kind := by
  refine laid.stat_path .staged target (linkless_folder (laid.linkless ground .staged
    (ground.aside .staged (by nofun))) target) (slot_staged target) fun link same => ?_
  simp only [shifted] at same
  split_ifs at same
  · cases same
  · exact plain r target link same

/-- The first loop moves live targets out, all that are there if no question is refused. -/
theorem moveOut_attempts (ground : Ground home stage rollback root t₀)
    (plain : StagedPlain (initial home stage rollback root t₀))
    (live : sighted → LivePlain home root t₀) {rest : List Path}
    (targets : ∀ r ∈ rest, IsTarget r) (distinct : rest.Nodup) (later : ∀ r ∈ rest, r ∉ moved)
    (progress : Progress (initial home stage rollback root t₀) moved [])
    (laid : Laid home stage rollback root t₀ t
      (shifted (initial home stage rollback root t₀) moved []))
    (tracked : Tracked home stage rollback moved [] journal)
    (still : t.look (home ++ ["IndexedDB"]) = t₀.look (home ++ ["IndexedDB"])) :
    (moveOut home (home ++ [rollback]) backup rest moved).Attempts (working sighted)
      (fun moved' journal t' => Progress (initial home stage rollback root t₀) moved' [] ∧
        Laid home stage rollback root t₀ t'
          (shifted (initial home stage rollback root t₀) moved' []) ∧
        Tracked home stage rollback moved' [] journal ∧
        t'.look (home ++ ["IndexedDB"]) = t₀.look (home ++ ["IndexedDB"]) ∧
        (∀ r ∈ moved', r ∈ moved ∨ r ∈ rest) ∧ (∀ r ∈ moved, r ∈ moved') ∧
        (sighted → ∀ r ∈ rest, r ∉ moved' → initial home stage rollback root t₀ .live r = empty))
      (fun _ => Exit home stage rollback root t₀) journal t := by
  induction rest generalizing moved journal t with
  | nil => exact ⟨progress, laid, tracked, still, fun _ => .inl, fun _ => id, nofun⟩
  | cons r rest ih =>
      obtain ⟨fresh, distinct⟩ := List.nodup_cons.mp distinct
      have target := targets r List.mem_cons_self
      have here := later r List.mem_cons_self
      have others := fun s (member : s ∈ rest) => targets s (List.mem_cons_of_mem _ member)
      refine attempts_bind.mpr (attempts_test fun answer _ sure => ?_)
      have tracked := tracked.append (x := ⟨⟨.test (.exists (home ++ r)), false⟩, answer⟩)
        (by nofun) (by nofun) (by nofun)
      match answer with
      | false =>
          have absent (asked : sighted) : initial home stage rollback root t₀ .live r = empty := by
            have no := sure (.inr asked)
            rw [Test.holds, stat_live ground plain (live asked) laid target] at no
            simpa [shifted, here, kind_eq_none_iff] using no.symm
          refine (ih others distinct (fun s member => later s (List.mem_cons_of_mem _ member)) progress
            laid tracked still).mono ?_ fun _ _ _ => id
          rintro moved' journal t' ⟨progress, laid, tracked, still, from', onward, left⟩
          refine ⟨progress, laid, tracked, still, fun s member => ?_, onward,
            fun asked s member out => ?_⟩
          · exact (from' s member).imp_right (List.mem_cons_of_mem _)
          · rcases List.mem_cons.mp member with rfl | member
            · exact absent asked
            · exact left asked s member out
      | true =>
          have path := Laid.dropLast_path (home ++ [rollback]) target
          have direct : t.Linkless (home ++ [rollback] ++ r.dropLast) :=
            linkless_folder (laid.linkless ground .previous (ground.aside .previous (by nofun))) target
          refine attempts_bind.mpr (attempts_mapErr.mpr (attempts_change (fun t₁ made => ?_)
            fun e t₁ left => ?_))
          swap
          · rw [path] at left
            have laid := laid.paved ground .previous target
              (Files.Change.paved_of_createDirAll direct.dropLast (.inr left))
            refine ⟨_, laid, ?_⟩
            rcases List.eq_nil_or_concat moved with rfl | ⟨_, first, same⟩
            · refine .inl ⟨fun s _ => by simp [shifted], ?_, ?_⟩
              · rintro ⟨name, s, q, e', out, -⟩
                rcases List.mem_append.mp out with before | last
                · exact List.not_mem_nil (tracked.outs name s before).2
                · cases List.mem_singleton.mp last
              · rintro ⟨name, s, -, -, into, -⟩
                rcases List.mem_append.mp into with before | last
                · exact List.not_mem_nil (tracked.ins name s before)
                · cases List.mem_singleton.mp last
            · have member : first ∈ moved := by simp [same]
              obtain ⟨target', there⟩ := progress.movedFrom first member
              refine .inr ⟨.inl ⟨rollback, first, r.dropLast, e,
                List.mem_append_left _ (tracked.out first member), List.mem_append_right _ ?_⟩, first,
                target', there, by simp [shifted, member]⟩
              rw [path]
              exact List.mem_singleton.mpr rfl
          rw [path] at made
          have paved := Files.Change.paved_of_createDirAll direct.dropLast (.inl made)
          have still := (look_of_paved_previous ground.fresh paved).trans still
          have laid := laid.paved ground .previous target paved
          have tracked := tracked.append (x := changed
            (.createDirAll (home ++ [rollback] ++ r).dropLast) false (.ok ())) (by nofun) (by nofun)
            fun _ _ => changed_ok_ne_error
          refine attempts_bind.mpr (attempts_outcome.mpr (attempts_change (fun t₂ renamed => ?_)
            fun e t₂ left => ?_))
          · have still := (laid.look_indexedDb ground (a := .live) (b := .previous) target
              renamed).trans still
            obtain ⟨there, laid⟩ := laid.rename ground (a := .live) (b := .previous) (by nofun) target
              renamed
            have laid : Laid home stage rollback root t₀ t₂
                (shifted (initial home stage rollback root t₀) (moved ++ [r]) []) := by
              refine laid.congr fun a s _ => ?_
              cases a <;> by_cases same : s = r <;> simp [shifted, same, here]
            have progress := progress.move here target (by simpa [shifted, here] using there)
            refine (ih others distinct (fun s member => ?_) progress laid (tracked.move r)
              still).mono ?_ fun _ _ _ => id
            · rw [List.mem_append, List.mem_singleton, not_or]
              exact ⟨later s (List.mem_cons_of_mem _ member), fun same => fresh (same ▸ member)⟩
            · rintro moved' journal t' ⟨progress, laid, tracked, still, from', onward, left⟩
              refine ⟨progress, laid, tracked, still, fun s member => ?_,
                fun s member => onward s (List.mem_append_left _ member), fun asked s member out => ?_⟩
              · rcases from' s member with before | later
                · rcases List.mem_append.mp before with before | last
                  · exact .inl before
                  · exact .inr (List.mem_singleton.mp last ▸ List.mem_cons_self)
                · exact .inr (List.mem_cons_of_mem _ later)
              · rcases List.mem_cons.mp member with rfl | member
                · exact absurd (onward s (List.mem_append_right _ List.mem_cons_self)) out
                · exact left asked s member out
          · cases left.elim (·.eq trivial) id
            exact rollBack_attempts ground plain progress laid
              (tracked.append (fun _ _ => changed_ok_ne_error.symm)
                (fun _ _ => changed_ok_ne_error.symm) (by nofun)) faulted_concat

/-- A folder of live targets is none of the rollback area. -/
theorem folder_ne_refused (fresh : Fresh stage rollback) (target : IsTarget r) {q : Path}
    {reply reply' : Except IoError Unit} :
    (changed (.createDirAll (home ++ r.dropLast)) false reply : FileEntry Plaintext) ≠
      changed (.createDirAll (home ++ [rollback] ++ q)) false reply' := by
  intro same
  have same := congrArg FileCall.op (congrArg Interaction.Entry.op same)
  simp only [changed, FileOp.change.injEq, Files.Change.createDirAll.injEq, List.append_assoc,
    List.append_cancel_left_eq, List.singleton_append] at same
  rcases target.split.1 with nothing | inside
  · cases nothing.symm.trans same
  · cases inside.symm.trans same
    exact fresh.rollbackFree List.mem_cons_self

/-- The second loop moves staged targets in, all of them if no question is refused. -/
theorem moveIn_attempts (ground : Ground home stage rollback root t₀)
    (plain : StagedPlain (initial home stage rollback root t₀)) {rest : List Path}
    (targets : ∀ r ∈ rest, IsTarget r) (distinct : rest.Nodup) (later : ∀ r ∈ rest, r ∉ installed)
    (progress : Progress (initial home stage rollback root t₀) moved installed)
    (laid : Laid home stage rollback root t₀ t
      (shifted (initial home stage rollback root t₀) moved installed))
    (tracked : Tracked home stage rollback moved installed journal)
    (earned : Earned home (initial home stage rollback root t₀) t₀ t) :
    (moveIn home (home ++ [rollback]) (home ++ [stage] ++ ["profile"]) backup moved rest
      installed).Attempts (working sighted)
      (fun _ _ t' => ∃ installed', Laid home stage rollback root t₀ t'
          (shifted (initial home stage rollback root t₀) moved installed') ∧
        Earned home (initial home stage rollback root t₀) t₀ t' ∧
        (∀ r ∈ installed', r ∈ installed ∨ r ∈ rest) ∧ (∀ r ∈ installed, r ∈ installed') ∧
        (sighted → ∀ r ∈ rest, r ∉ installed' →
          initial home stage rollback root t₀ .staged r = empty))
      (fun _ => Exit home stage rollback root t₀) journal t := by
  induction rest generalizing installed journal t with
  | nil => exact ⟨installed, laid, earned, fun _ => .inl, fun _ => id, nofun⟩
  | cons r rest ih =>
      obtain ⟨fresh, distinct⟩ := List.nodup_cons.mp distinct
      have target := targets r List.mem_cons_self
      have here := later r List.mem_cons_self
      have others := fun s (member : s ∈ rest) => targets s (List.mem_cons_of_mem _ member)
      refine attempts_bind.mpr (attempts_test fun answer _ sure => ?_)
      have tracked := tracked.append
        (x := ⟨⟨.test (.exists (home ++ [stage] ++ ["profile"] ++ r)), false⟩, answer⟩)
        (by nofun) (by nofun) (by nofun)
      match answer with
      | false =>
          have absent (asked : sighted) : initial home stage rollback root t₀ .staged r = empty := by
            have no := sure (.inr asked)
            rw [Test.holds, stat_staged ground plain laid target] at no
            simpa [shifted, here, kind_eq_none_iff] using no.symm
          refine (ih others distinct (fun s member => later s (List.mem_cons_of_mem _ member))
            progress laid tracked earned).mono ?_ fun _ _ _ => id
          rintro _ journal t' ⟨installed', laid, earned, from', onward, left⟩
          refine ⟨installed', laid, earned, fun s member => ?_, onward,
            fun asked s member outside => ?_⟩
          · exact (from' s member).imp_right (List.mem_cons_of_mem _)
          · rcases List.mem_cons.mp member with rfl | member
            · exact absent asked
            · exact left asked s member outside
      | true =>
          have path := Laid.dropLast_path home target
          have direct : t.Linkless (home ++ r.dropLast).dropLast := by
            rcases target.split.1 with nothing | inside
            · rw [nothing, List.append_nil]
              exact (laid.linkless_base ground .live).dropLast
            · rw [inside, List.dropLast_concat]
              exact laid.linkless_base ground .live
          refine attempts_bind.mpr (attempts_outcome.mpr (attempts_change (fun t₁ made => ?_)
            fun e t₁ left => ?_))
          swap
          · rw [path] at left
            have laid := laid.paved ground .live target
              (Files.Change.paved_of_createDirAll direct (.inr left))
            refine rollBack_attempts ground plain progress laid
              (tracked.append (by nofun) (by nofun) fun q e' => ?_) faulted_concat
            rw [path]
            exact folder_ne_refused ground.fresh target
          rw [path] at made
          have paved := Files.Change.paved_of_createDirAll direct (.inl made)
          have laid := laid.paved ground .live target paved
          have tracked := tracked.append (x := changed (.createDirAll (home ++ r).dropLast) false
            (.ok ())) (by nofun) (by nofun) fun _ _ => changed_ok_ne_error
          refine attempts_bind.mpr (attempts_outcome.mpr (attempts_change (fun t₂ renamed => ?_)
            fun e t₂ left => ?_))
          · obtain ⟨there, laid'⟩ := laid.rename ground (a := .staged) (b := .live) (by nofun) target
              renamed
            have there : initial home stage rollback root t₀ .staged r ≠ empty := by
              simpa [shifted, here] using there
            have earned := earned.install ground target paved laid renamed there
            have laid : Laid home stage rollback root t₀ t₂
                (shifted (initial home stage rollback root t₀) moved (installed ++ [r])) := by
              refine laid'.congr fun a s _ => ?_
              cases a <;> by_cases same : s = r <;> simp [shifted, same, here]
            refine (ih others distinct (fun s member => ?_) (progress.install here target there) laid
              (tracked.install r) earned).mono ?_ fun _ _ _ => id
            · rw [List.mem_append, List.mem_singleton, not_or]
              exact ⟨later s (List.mem_cons_of_mem _ member), fun same => fresh (same ▸ member)⟩
            · rintro _ journal t' ⟨installed', laid, earned, from', onward, left⟩
              refine ⟨installed', laid, earned, fun s member => ?_,
                fun s member => onward s (List.mem_append_left _ member),
                fun asked s member outside => ?_⟩
              · rcases from' s member with before | later
                · rcases List.mem_append.mp before with before | last
                  · exact .inl before
                  · exact .inr (List.mem_singleton.mp last ▸ List.mem_cons_self)
                · exact .inr (List.mem_cons_of_mem _ later)
              · rcases List.mem_cons.mp member with rfl | member
                · exact absurd (onward s (List.mem_append_right _ List.mem_cons_self)) outside
                · exact left asked s member outside
          · cases left.elim (·.eq trivial) id
            exact rollBack_attempts ground plain progress laid
              (tracked.append (fun _ _ => changed_ok_ne_error.symm)
                (fun _ _ => changed_ok_ne_error.symm) (by nofun)) faulted_concat

/-- What reading keeps of a journal. -/
def ReadClosed (J : List (FileEntry Plaintext) → Prop) : Prop :=
  ∀ journal entry, J journal → (∀ c, entry.op.op ≠ .change c) → J (journal ++ [entry])

theorem Tracked.readClosed : ReadClosed (Tracked home stage rollback moved installed) := by
  intro journal entry tracked other
  exact tracked.append (fun _ _ same => other _ (congrArg (·.op.op) same))
    (fun _ _ same => other _ (congrArg (·.op.op) same))
    fun _ _ same => other _ (congrArg (·.op.op) same)

/-- The origins that are listed, all of them if no question is refused and no link is about. -/
theorem listOrigins_attempts {p : Path} {J : List (FileEntry Plaintext) → Prop}
    (closed : ReadClosed J) (kept : J journal) :
    (listOrigins p).Attempts (working sighted)
      (fun names journal t' => t = t' ∧ J journal ∧
        (∀ name ∈ names, isExtensionOrigin name = true) ∧
        (sighted → t.Linkless (p ++ ["IndexedDB"]) → ∀ name, isExtensionOrigin name = true →
          t.look (p ++ ["IndexedDB", name]) ≠ none → name ∈ names))
      (fun _ journal t' => t = t' ∧ J journal) journal t := by
  refine attempts_bind.mpr (attempts_test fun answer _ sure => ?_)
  have kept := closed _ ⟨⟨.test (.isDir (p ++ ["IndexedDB"])), false⟩, answer⟩ kept (by simp)
  match answer with
  | false =>
      refine ⟨rfl, kept, fun name member => (by cases member), fun asked linkless name _ found => ?_⟩
      have directory : t.isDir (p ++ ["IndexedDB"]) := by
        refine isDir_of_look (q := [name]) (List.cons_ne_nil _ _) ?_
        rwa [List.append_assoc]
      have no := sure (.inr asked)
      rw [Test.holds, stat_of_linkless linkless (by simp), directory] at no
      cases no
  | true =>
      refine attempts_bind.mpr (attempts_mapErr.mpr (attempts_readDir (fun names listed => ?_)
        fun e => ⟨rfl, closed _ _ kept (by simp)⟩))
      refine ⟨rfl, closed _ _ kept (by simp), fun name member => (List.mem_filter.mp member).2,
        fun _ linkless name origin found => ?_⟩
      have directory : t.isDir (p ++ ["IndexedDB"]) := by
        refine isDir_of_look (q := [name]) (List.cons_ne_nil _ _) ?_
        rwa [List.append_assoc]
      have resolved := resolve_of_linkless linkless fun nothing => by
        cases nothing.symm.trans directory
      rw [FileTree.readDir, resolved] at listed
      simp only [show t.look (p ++ ["IndexedDB"]) = some .dir from directory] at listed
      cases listed
      have path : p ++ ["IndexedDB", name] = p ++ ["IndexedDB"] ++ [name] := by simp
      rw [path, look, get_append t (p ++ ["IndexedDB"])] at found
      exact List.mem_filter.mpr ⟨mem_names_iff.mpr found, origin⟩

theorem mem_targetsOf {origins : List String} : r ∈ targetsOf origins ↔
    (∃ name ∈ extensionDirectories ++ extensionPreferenceFiles, r = [name]) ∨
      ∃ name ∈ origins, r = ["IndexedDB", name] := by
  rw [targetsOf, Ordered.mem_collect_id]
  simp only [List.mem_append, List.mem_map, or_and_right, exists_or, eq_comm (b := r)]
  exact or_right_comm

theorem nodup_targetsOf (origins : List String) : (targetsOf origins).Nodup := by
  have ascending := Ordered.ascending_collect (κ := Path) id (extensionDirectories.map ([·]) ++
    origins.map (["IndexedDB", ·]) ++ extensionPreferenceFiles.map ([·]))
  have distinct := ascending.nodup
  rwa [List.map_id] at distinct

/-- The replacement as a whole: every target is the staged one, or the loops fail. -/
theorem replaceTargets_attempts (ground : Ground home stage rollback root t₀)
    (plain : StagedPlain (initial home stage rollback root t₀))
    (live : sighted → LivePlain home root t₀)
    (vacant : ∀ r, IsTarget r → initial home stage rollback root t₀ .previous r = empty)
    (tracked : Tracked home stage rollback [] [] journal) :
    (replaceTargets home (home ++ [stage] ++ ["profile"]) backup (home ++ [rollback])).Attempts
      (working sighted)
      (fun _ _ t' => Earned home (initial home stage rollback root t₀) t₀ t' ∧
        ∃ held, Laid home stage rollback root t₀ t' held ∧ (sighted → ∀ r, IsTarget r →
          held .live r = initial home stage rollback root t₀ .staged r))
      (fun _ => Exit home stage rollback root t₀) journal t₀ := by
  have laid : Laid home stage rollback root t₀ t₀
      (shifted (initial home stage rollback root t₀) [] []) := by
    refine ⟨fun _ _ => .inl rfl, fun area r target => ?_⟩
    cases area with
    | live | staged => simp [shifted, initial]
    | previous => simpa [shifted, initial] using vacant r target
  have failed {journal : List (FileEntry Plaintext)}
      (tracked : Tracked home stage rollback [] [] journal) :
      Exit home stage rollback root t₀ journal t₀ := by
    refine ⟨_, laid, .inl ⟨fun r _ => by simp [shifted], tracked.not_stranded, ?_⟩⟩
    rw [tracked.overwrote_iff (by simp)]
    simp
  refine attempts_bind.mpr (attempts_bind.mpr ((listOrigins_attempts Tracked.readClosed tracked).mono
    ?_ ?_))
  swap
  · rintro _ journal _ ⟨rfl, tracked⟩
    exact failed tracked
  rintro here journal _ ⟨rfl, tracked, listed, complete⟩
  refine attempts_bind.mpr ((listOrigins_attempts Tracked.readClosed tracked).mono ?_ ?_)
  swap
  · rintro _ journal _ ⟨rfl, tracked⟩
    exact failed tracked
  rintro packed journal _ ⟨rfl, tracked, listed', complete'⟩
  have targets : ∀ r ∈ targetsOf (here ++ packed), IsTarget r := by
    intro r member
    refine (mem_targetsOf.mp member).imp_right ?_
    rintro ⟨name, member, same⟩
    refine ⟨name, ?_, same⟩
    rcases List.mem_append.mp member with member | member
    · exact listed name member
    · exact listed' name member
  have others (asked : sighted) : ∀ r, IsTarget r → r ∉ targetsOf (here ++ packed) →
      initial home stage rollback root t₀ .live r = empty ∧
        initial home stage rollback root t₀ .staged r = empty := by
    rintro r (⟨name, member, rfl⟩ | ⟨name, origin, rfl⟩) outside
    · exact absurd (mem_targetsOf.mpr (.inl ⟨name, member, rfl⟩)) outside
    · have absent : name ∉ here ++ packed := fun member =>
        outside (mem_targetsOf.mpr (.inr ⟨name, member, rfl⟩))
      rw [List.mem_append, not_or] at absent
      have target : IsTarget ["IndexedDB", name] := .inr ⟨name, origin, rfl⟩
      rw [initial, initial, (live asked).slot_live target, slot_staged target]
      constructor
      · by_contra there
        exact absent.1 (complete asked (live asked).direct name origin fun nothing =>
          there (kind_eq_none_iff.mp nothing))
      · by_contra there
        exact absent.2 (complete' asked (ground.aside .staged (by nofun)) name origin fun nothing =>
          there (kind_eq_none_iff.mp nothing))
  refine attempts_bind.mpr ((moveOut_attempts ground plain live targets (nodup_targetsOf _) (by simp)
    Progress.start laid tracked rfl).mono ?_ fun _ _ _ => id)
  rintro moved journal t₁ ⟨progress, laid, tracked, still, from', -, left⟩
  refine (moveIn_attempts ground plain targets (nodup_targetsOf _) (by simp) progress laid
    tracked (.inl still)).mono ?_ fun _ _ _ => id
  rintro _ journal t₂ ⟨installed, laid, earned, from'', -, left'⟩
  refine ⟨earned, _, laid, fun asked r target => ?_⟩
  by_cases inside : r ∈ installed
  · simp [shifted, inside]
  · by_cases member : r ∈ targetsOf (here ++ packed)
    · rw [left' asked r member inside]
      by_cases out : r ∈ moved
      · simp [shifted, inside, out]
      · simp [shifted, inside, left asked r member out]
    · obtain ⟨nothing, nothing'⟩ := others asked r target member
      have kept : r ∉ moved := fun out => (from' r out).elim List.not_mem_nil member
      simp [shifted, inside, kept, nothing, ← nothing']

end HeliumSync.LocatedProfile
