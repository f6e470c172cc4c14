import HeliumSync.BookmarksRestore
import HeliumSync.Reference

/-! `restore_bookmarks` replaces the file whole or leaves it, whatever operation is refused. -/
namespace HeliumSync.LocatedProfile
open Files FileTree
open Files.Change (MayLeave)
open Interaction (Action)
open Interaction.Action (attempts_bind attempts_pure attempts_throw attempts_mapErr attempts_outcome
  attempts_ignore clean_pure clean_throw clean_bind clean_mapErr clean_outcome_bind fails_throw
  fails_bind succeeds_pure succeeds_bind succeeds_mapErr succeeds_outcome_bind)

variable {C : Type} {P : Primitives C} {Z : ZipFormat} {profile : LocatedProfile}
  {snapshot : BookmarkSnapshotV1} {downloads : Path} {unique : String} {sighted : Prop}

/-- A profile whose directory is there, and a folder for backups outside it. -/
structure Situated (profile : LocatedProfile) (downloads : Path) (w : FileTree Plaintext) : Prop where
  home : w.isDir profile.path
  linkless : w.Linkless profile.path
  direct : w.Linkless downloads
  outside : ¬ profile.path <+: downloads

/-- Nothing changed but that folders on the way to a backup, and it, are new. -/
def Beside (backup : Path) (w t : FileTree Plaintext) : Prop :=
  ∀ q, t.look q = w.look q ∨
    (w.look q = none ∧ q <+: backup ∧ ∀ target, t.look q ≠ some (.link target))

section
variable {backup q : Path} {name : String} {w t t' : FileTree Plaintext} {content part : Plaintext}

theorem Beside.look_eq (beside : Beside backup w t) (kept : w.look q ≠ none ∨ ¬ q <+: backup) :
    t.look q = w.look q := by
  rcases beside q with same | ⟨absent, before, -⟩
  · exact same
  · exact kept.elim (absurd absent) (absurd before)

/-- Nothing new comes in the profile's directory or above it for a backup outside. -/
theorem not_before_backup (home : w.isDir profile.path) (outside : ¬ profile.path <+: downloads)
    (near : q <+: profile.path ∨ profile.path <+: q) (absent : w.look q = none) :
    ¬ q <+: downloads ++ [name] := by
  intro before
  rcases near with above | below
  · exact absurd (look_of_before above absent) fun nothing => by cases nothing.symm.trans home
  · rcases List.prefix_concat_iff.mp (below.trans before) with same | inside
    · cases (same ▸ before.eq_of_length_le (same ▸ below).length_le : q = profile.path)
      cases absent.symm.trans home
    · exact outside inside

/-- Nothing changed in the profile's directory or above it. -/
theorem Beside.near (beside : Beside (downloads ++ [name]) w t) (home : w.isDir profile.path)
    (outside : ¬ profile.path <+: downloads) (near : q <+: profile.path ∨ profile.path <+: q) :
    t.look q = w.look q := by
  refine beside.look_eq ?_
  by_cases absent : w.look q = none
  · exact .inr (not_before_backup home outside near absent)
  · exact .inl absent

theorem Beside.home (beside : Beside (downloads ++ [name]) w t) (home : w.isDir profile.path) :
    t.isDir profile.path :=
  (beside.look_eq (.inl fun nothing => by cases nothing.symm.trans home)).trans home

theorem Beside.linkless {p : Path} (beside : Beside backup w t) (linkless : w.Linkless p) :
    t.Linkless p := by
  intro r before target link
  rcases beside r with same | ⟨-, -, plain⟩
  · exact linkless r before target (same.symm.trans link)
  · exact plain target link

theorem beside_of_paved (paved : Paved downloads w t) : Beside (downloads ++ [name]) w t := by
  intro q
  refine (paved q).imp_right fun ⟨absent, made, before⟩ => ⟨absent,
    before.trans (List.prefix_append downloads [name]), fun target link => ?_⟩
  cases made.symm.trans link

/-- The backup file is there, new, and nothing else changed. -/
structure Holding (downloads : Path) (name : String) (w t : FileTree Plaintext)
    (content : Plaintext) : Prop where
  beside : Beside (downloads ++ [name]) w t
  free : w.look (downloads ++ [name]) = none
  direct : t.Linkless downloads
  folder : t.isDir downloads
  held : t.look (downloads ++ [name]) = some (.file content)

theorem linkless_put {p : Path} (x : FileTree Plaintext) (linkless : t.Linkless p) :
    (t.put (p ++ [name]) x).Linkless p := by
  intro r before target link
  rw [look_put_of_apart x (not_prefix_concat before)] at link
  exact linkless r before target link

/-- Whatever file is put in the place of the backup, nothing else changed. -/
theorem beside_put (beside : Beside (downloads ++ [name]) w t) (free : w.look (downloads ++ [name]) = none)
    (folder : t.isDir downloads) {x : FileTree Plaintext} (leaf : ∀ next rest, x.look (next :: rest) = none)
    (plain : ∀ target, x.kind ≠ some (.link target)) :
    Beside (downloads ++ [name]) w (t.put (downloads ++ [name]) x) := by
  intro q
  by_cases inside : downloads ++ [name] <+: q
  · obtain ⟨rest, rfl⟩ := inside
    have absent := look_of_before (List.prefix_append (downloads ++ [name]) rest) free
    rw [List.append_assoc, List.singleton_append] at absent ⊢
    rw [look_put folder, absent]
    match rest with
    | [] => exact .inr ⟨rfl, List.prefix_rfl, plain⟩
    | next :: rest => exact .inl (leaf next rest)
  · rw [look_put_of_apart x inside]
    exact beside q

theorem look_file_below (next : String) (rest : Path) :
    (file content : FileTree Plaintext).look (next :: rest) = none := by
  rw [look, get_of_not_dir (by nofun) (List.cons_ne_nil _ _)]
  rfl

theorem holding_of_createNew (beside : Beside (downloads ++ [name]) w t) (direct : t.Linkless downloads)
    (made : t.createNew (downloads ++ [name]) content = .ok t') :
    Holding downloads name w t' content := by
  obtain ⟨folder, absent, rfl⟩ := createNew_ok direct made
  have free : w.look (downloads ++ [name]) = none := by
    rcases beside (downloads ++ [name]) with same | ⟨absent', -, -⟩
    · exact same.symm.trans absent
    · exact absent'
  refine ⟨beside_put beside free folder look_file_below (by nofun), free, linkless_put _ direct, ?_,
    look_put folder _ []⟩
  exact (isDir_put_of_apart _ (not_prefix_concat List.prefix_rfl)).mpr folder

theorem Holding.overwrite (holding : Holding downloads name w t content)
    (written : t.overwrite (downloads ++ [name]) part = .ok t') :
    Holding downloads name w t' part := by
  have linkless : t.Linkless (downloads ++ [name]) :=
    holding.direct.concat fun target link => by cases holding.held.symm.trans link
  obtain ⟨-, rfl⟩ := overwrite_ok linkless written
  refine ⟨beside_put holding.beside holding.free holding.folder look_file_below (by nofun),
    holding.free, linkless_put _ holding.direct, ?_, look_put holding.folder _ []⟩
  exact (isDir_put_of_apart _ (not_prefix_concat List.prefix_rfl)).mpr holding.folder

theorem Holding.removeFile (holding : Holding downloads name w t content)
    (removed : t.removeFile (downloads ++ [name]) = .ok t') : Beside (downloads ++ [name]) w t' := by
  obtain ⟨-, -, -, rfl⟩ := removeFile_ok holding.direct removed
  refine beside_put holding.beside holding.free holding.folder (fun next rest => ?_) (by nofun)
  exact congrArg kind (get_empty (next :: rest))

theorem Beside.grown {backup : Path} (beside : Beside backup w t) : Grown w t := fun _ found =>
  beside.look_eq (.inl found)

/-- What is read through the live path, where a file stands there or a link to one. -/
def liveContent (profile : LocatedProfile) (t : FileTree Plaintext) : Option Plaintext :=
  match t.stat profile.bookmarks with
  | some (.file content) => some content
  | _ => none

theorem liveContent_eq_some :
    profile.liveContent t = some content ↔ t.stat profile.bookmarks = some (.file content) := by
  unfold liveContent
  split
  · next found => simp [found]
  · next other =>
      refine ⟨nofun, fun found => ?_⟩
      exact absurd found (other content)

theorem stat_bookmarks (linkless : t.Linkless profile.path)
    (plain : ∀ target, t.look profile.bookmarks ≠ some (.link target)) :
    t.stat profile.bookmarks = t.look profile.bookmarks :=
  stat_of_linkless (linkless.concat plain) (by simp [bookmarks])

theorem liveContent_of_file (linkless : t.Linkless profile.path)
    (live : t.look profile.bookmarks = some (.file content)) : profile.liveContent t = some content :=
  liveContent_eq_some.mpr
    ((stat_bookmarks linkless fun target link => by cases live.symm.trans link).trans live)

/-- What there is to back up is what is read through the live path. Where that is a link that leads
nowhere there were no bytes, and whatever it leads to once the backup stands may be taken. -/
def Previous (profile : LocatedProfile) (w : FileTree Plaintext) (content : Option Plaintext) : Prop :=
  content = profile.liveContent w ∨
    w.stat profile.bookmarks = none ∧ ∃ target, w.look profile.bookmarks = some (.link target)

/-- Making the backup changes nothing of it. -/
theorem Holding.previous {archive : Plaintext} (situated : Situated profile downloads w)
    (holding : Holding downloads name w t archive) : Previous profile w (profile.liveContent t) := by
  cases found : w.stat profile.bookmarks with
  | some kind =>
      refine .inl ?_
      rw [liveContent, liveContent, found, stat_grown holding.beside.grown found]
  | none =>
      by_cases link : ∃ target, w.look profile.bookmarks = some (.link target)
      · exact .inr ⟨found, link⟩
      · have plain (target : Target) : w.look profile.bookmarks ≠ some (.link target) := fun linked =>
          link ⟨target, linked⟩
        have same : t.look profile.bookmarks = w.look profile.bookmarks :=
          holding.beside.near situated.home situated.outside (.inr (List.prefix_append _ _))
        have still := stat_bookmarks (holding.beside.linkless situated.linkless) (same ▸ plain)
        refine .inl ?_
        rw [liveContent, liveContent, still, same, ← stat_bookmarks situated.linkless plain]

variable {journal : List (FileEntry Plaintext)} {target : Path} {seen : Option Bool}

/-- Whether a file is there to be backed up was answered so, if asked. -/
def askedFile (profile : LocatedProfile) (answer : Bool) : FileEntry Plaintext :=
  ⟨⟨.test (.isFile profile.bookmarks), false⟩, answer⟩

/-- The set-aside file was not touched, and this is what was seen of the live one. -/
structure Noted (profile : LocatedProfile) (target : Path) (seen : Option Bool)
    (journal : List (FileEntry Plaintext)) : Prop where
  untried : ∀ reply, changed (.removeFile target) false reply ∉ journal
  asked : ∀ answer, askedFile profile answer ∈ journal ↔ seen = some answer

namespace Noted
variable {x : FileEntry Plaintext}

theorem append (noted : Noted profile target seen journal)
    (other : x.op ≠ ⟨.change (.removeFile target), false⟩)
    (other' : x.op ≠ ⟨.test (.isFile profile.bookmarks), false⟩) :
    Noted profile target seen (journal ++ [x]) where
  untried reply member := by
    rcases List.mem_append.mp member with before | last
    · exact noted.untried reply before
    · exact other (congrArg Interaction.Entry.op (List.mem_singleton.mp last)).symm
  asked answer := by
    rw [← noted.asked answer, List.mem_append, or_iff_left]
    exact fun last => other' (congrArg Interaction.Entry.op (List.mem_singleton.mp last)).symm

theorem ask (noted : Noted profile target none journal) (answer : Bool) :
    Noted profile target (some answer) (journal ++ [askedFile profile answer]) where
  untried reply member := by
    rcases List.mem_append.mp member with before | last
    · exact noted.untried reply before
    · cases List.mem_singleton.mp last
  asked other := by
    rw [List.mem_append, noted.asked other, List.mem_singleton]
    constructor
    · rintro (nothing | last)
      · cases nothing
      · cases last
        rfl
    · rintro ⟨rfl⟩
      exact .inr rfl

end Noted

/-- Giving up ends in the error, with the file removed or as it stood. -/
theorem abandon_attempts {p : Path} {e : ProfileError}
    {ok : Unit → List (FileEntry Plaintext) → FileTree Plaintext → Prop}
    {error : ProfileError → List (FileEntry Plaintext) → FileTree Plaintext → Prop}
    (after : ∀ reply t', t.removeFile p = .ok t' ∨ t' = t →
      error e (journal ++ [changed (.removeFile p) false reply]) t') :
    (abandon p e).Attempts (working sighted) ok error journal t := by
  refine attempts_bind.mpr (attempts_ignore.mpr (attempts_change (fun t' removed => ?_)
    fun e' t' left => ?_))
  · exact after _ t' (.inl removed)
  · exact after _ t' (.inr (left.elim (·.eq trivial) id))

/-- What is read is the live file, if it was seen. -/
theorem readIfFile_attempts (noted : Noted profile target none journal) :
    (readIfFile profile.bookmarks).Attempts (working sighted)
      (fun content journal t' => t' = t ∧ ∃ answer : Bool,
        content = (if answer then profile.liveContent t else none) ∧
          Noted profile target (some answer) journal)
      (fun _ journal t' => t' = t ∧ ∃ answer, Noted profile target (some answer) journal)
      journal t := by
  refine attempts_bind.mpr (attempts_test fun answer truly _ => ?_)
  have noted := noted.ask answer
  cases answer with
  | false => exact ⟨rfl, false, rfl, noted⟩
  | true =>
      refine attempts_bind.mpr (attempts_readFile (fun content read => ?_) fun e => ?_)
      · refine ⟨rfl, true, ?_, noted.append (fun same => by cases same) fun same => by cases same⟩
        refine (liveContent_eq_some.mpr ?_).symm
        rw [FileTree.read] at read
        split at read
        · cases read
        · next found =>
            cases read
            exact found
        · cases read
      · exact ⟨rfl, true, noted.append (fun same => by cases same) fun same => by cases same⟩

/-- The backup holds what was seen of the live file, or the error leaves the profile alone. -/
theorem createBackupArchive_attempts (situated : Situated profile downloads w)
    (beside : Beside (profile.backupPath downloads unique) w t)
    (direct : t.Linkless downloads) (other : profile.backupPath downloads unique ≠ target)
    (noted : Noted profile target none journal) :
    (profile.createBackupArchive Z (profile.backupPath downloads unique)).Attempts (working sighted)
      (fun _ journal t' => ∃ (answer : Bool) (content : Option Plaintext),
        Noted profile target (some answer) journal ∧ Previous profile w content ∧
        Holding downloads (profile.backupName unique) w t' (.binary (Z.pack [profile.backupEntry
          (if answer then content else none)])))
      (fun _ journal t' => (∃ seen, Noted profile target seen journal) ∧
        Beside (profile.backupPath downloads unique) w t')
      journal t := by
  refine attempts_bind.mpr (attempts_mapErr.mpr (attempts_change (fun t₁ made => ?_)
    fun e t₁ left => ?_))
  swap
  · cases left.elim (·.eq trivial) id
    exact ⟨⟨_, noted.append (by nofun) (by nofun)⟩, beside⟩
  have holding := holding_of_createNew beside direct made
  have noted := noted.append (x := changed (.createNew (profile.backupPath downloads unique)) false
    (.ok ())) (by nofun) (by nofun)
  have previous := holding.previous situated
  have giveUp {answer : Bool} {e : ProfileError} {journal : List (FileEntry Plaintext)}
      {t₂ : FileTree Plaintext} {content : Plaintext}
      (noted : Noted profile target (some answer) journal)
      (holding : Holding downloads (profile.backupName unique) w t₂ content) :
      (abandon (profile.backupPath downloads unique) e).Attempts (working sighted)
        (fun _ journal t' => ∃ (answer : Bool) (content : Option Plaintext),
          Noted profile target (some answer) journal ∧ Previous profile w content ∧
          Holding downloads (profile.backupName unique) w t' (.binary (Z.pack [profile.backupEntry
            (if answer then content else none)])))
        (fun _ journal t' => (∃ seen, Noted profile target seen journal) ∧
          Beside (profile.backupPath downloads unique) w t')
        journal t₂ := by
    refine abandon_attempts fun reply t₃ after => ⟨⟨_, noted.append (fun same => ?_) (by nofun)⟩, ?_⟩
    · cases same
      exact other rfl
    · rcases after with removed | rfl
      · exact holding.removeFile removed
      · exact holding.beside
  refine attempts_bind.mpr (attempts_outcome.mpr (attempts_bind.mpr
    ((readIfFile_attempts noted).mono ?_ ?_)))
  · rintro content journal _ ⟨rfl, answer, rfl, noted⟩
    refine attempts_bind.mpr (attempts_change (fun t₂ written => ?_) fun e t₂ left => ?_)
    · have holding := holding.overwrite written
      refine attempts_change (fun t₃ synced => ?_) fun e t₃ left => ?_
      · cases synced
        exact ⟨answer, _, (noted.append (by nofun) (by nofun)).append (by nofun) (by nofun), previous,
          holding⟩
      · cases left.elim (·.eq trivial) id
        exact giveUp ((noted.append (by nofun) (by nofun)).append (by nofun) (by nofun)) holding
    · rcases left.elim MayLeave.writeAll .inl with rfl | ⟨part, written⟩
      · exact giveUp (noted.append (by nofun) (by nofun)) holding
      · exact giveUp (noted.append (by nofun) (by nofun)) (holding.overwrite written)
  · rintro e journal _ ⟨rfl, answer, noted⟩
    exact giveUp noted holding

end

/-- The profile's directory is there and the backup is made. -/
structure Backed (profile : LocatedProfile) (backup : Path) (archive : Plaintext)
    (t : FileTree Plaintext) : Prop where
  home : t.isDir profile.path
  linkless : t.Linkless profile.path
  held : t.look backup = some (.file archive)

section
variable {name a b : String} {w t t' : FileTree Plaintext} {archive : Plaintext}

theorem Holding.backed (holding : Holding downloads name w t archive)
    (situated : Situated profile downloads w) :
    Backed profile (downloads ++ [name]) archive t :=
  ⟨holding.beside.home situated.home, holding.beside.linkless situated.linkless, holding.held⟩

theorem entry_apart (other : a ≠ b) : ¬ profile.path ++ [a] <+: profile.path ++ [b] :=
  fun inside => other (eq_of_prefix_concat inside)

theorem Backed.put (backed : Backed profile (downloads ++ [name]) archive t)
    (outside : ¬ profile.path <+: downloads) (x : FileTree Plaintext) :
    Backed profile (downloads ++ [name]) archive (t.put (profile.path ++ [a]) x) where
  home := (isDir_put_of_apart x (not_prefix_concat List.prefix_rfl)).mpr backed.home
  linkless := linkless_put x backed.linkless
  held := (look_put_of_apart x fun inside => outside (prefix_of_concat inside)).trans
    backed.held

theorem Backed.look_put (backed : Backed profile (downloads ++ [name]) archive t)
    (x : FileTree Plaintext) :
    (t.put (profile.path ++ [a]) x).look (profile.path ++ [a]) = x.kind :=
  FileTree.look_put backed.home x []

/-- A rename within the directory. -/
theorem Backed.rename (backed : Backed profile (downloads ++ [name]) archive t)
    (outside : ¬ profile.path <+: downloads) (other : a ≠ b)
    (renamed : t.rename (profile.path ++ [a]) (profile.path ++ [b]) = .ok t') :
    Backed profile (downloads ++ [name]) archive t' ∧
      t'.look (profile.path ++ [b]) = t.look (profile.path ++ [a]) ∧
      t'.look (profile.path ++ [a]) = none ∧
      ∀ q, ¬ profile.path ++ [a] <+: q → ¬ profile.path ++ [b] <+: q → t'.look q = t.look q := by
  obtain ⟨home, _, _, ⟨same, _⟩ | ⟨apart, rfl, _⟩⟩ :=
    rename_ok backed.linkless.leads backed.linkless.leads renamed
  · exact absurd (List.head_eq_of_cons_eq (List.append_cancel_left same)) other
  · refine ⟨(backed.put outside _).put outside _, ?_, ?_, fun q => look_move_of_apart⟩
    · exact congrArg kind (get_move_self home apart)
    · exact look_move_src (q := []) home (entry_apart other.symm)

theorem Backed.removeFile (backed : Backed profile (downloads ++ [name]) archive t)
    (outside : ¬ profile.path <+: downloads)
    (removed : t.removeFile (profile.path ++ [a]) = .ok t') :
    Backed profile (downloads ++ [name]) archive t' ∧ Within (profile.path ++ [a]) t t' := by
  obtain ⟨_, _, _, rfl⟩ := removeFile_ok backed.linkless removed
  exact ⟨backed.put outside _, within_put _ _⟩

variable {journal : List (FileEntry Plaintext)} {target : Path} {content : Plaintext}
  {seen : Option Bool}

theorem removeFile_ne {c : Path} {undo : Bool} {reply : Except IoError Unit} (other : c ≠ target) :
    (changed (β := Plaintext) (.removeFile c) undo reply).op ≠ ⟨.change (.removeFile target), false⟩ :=
  fun same => other (by cases same; rfl)

/-- Giving up on an entry leaves the others. -/
theorem abandon_entry {e : ProfileError} (backed : Backed profile (downloads ++ [name]) archive t)
    (outside : ¬ profile.path <+: downloads) (other : profile.path ++ [a] ≠ target)
    (noted : Noted profile target seen journal)
    {ok : Unit → List (FileEntry Plaintext) → FileTree Plaintext → Prop} :
    (abandon (profile.path ++ [a]) e).Attempts (working sighted) ok
      (fun _ journal t' => Noted profile target seen journal ∧ Within (profile.path ++ [a]) t t')
      journal t := by
  refine abandon_attempts fun reply t' after =>
    ⟨noted.append (removeFile_ne other) (by nofun), ?_⟩
  rcases after with removed | rfl
  · exact (backed.removeFile outside removed).2
  · exact fun _ _ => rfl

/-- Staging writes the new file and leaves everything else. -/
theorem stageBookmarks_attempts (backed : Backed profile (downloads ++ [name]) archive t)
    (outside : ¬ profile.path <+: downloads) (other : profile.path ++ [a] ≠ target)
    (noted : Noted profile target seen journal) :
    (stageBookmarks (profile.path ++ [a]) content).Attempts (working sighted)
      (fun _ journal t' => Noted profile target seen journal ∧
        Backed profile (downloads ++ [name]) archive t' ∧ Within (profile.path ++ [a]) t t' ∧
        t'.look (profile.path ++ [a]) = some (.file content))
      (fun _ journal t' => Noted profile target seen journal ∧ Within (profile.path ++ [a]) t t')
      journal t := by
  refine attempts_bind.mpr (attempts_mapErr.mpr (attempts_change (fun t₁ made => ?_)
    fun e t₁ left => ?_))
  swap
  · cases left.elim (·.eq trivial) id
    exact ⟨noted.append (by nofun) (by nofun), fun _ _ => rfl⟩
  obtain ⟨-, -, rfl⟩ := createNew_ok backed.linkless made
  have noted := noted.append (x := changed (.createNew (profile.path ++ [a])) false (.ok ()))
    (by nofun) (by nofun)
  have backed₁ := backed.put outside (a := a) (file default)
  have linkless : (t.put (profile.path ++ [a]) (file default)).Linkless (profile.path ++ [a]) :=
    backed₁.linkless.concat fun target link => by cases (backed.look_put _).symm.trans link
  have begun : Within (profile.path ++ [a]) t (t.put (profile.path ++ [a]) (file default)) :=
    within_put _ _
  have giveUp {e : ProfileError} {journal : List (FileEntry Plaintext)} {t₂ : FileTree Plaintext}
      (noted : Noted profile target seen journal)
      (backed₂ : Backed profile (downloads ++ [name]) archive t₂)
      (within : Within (profile.path ++ [a]) t t₂) :
      (abandon (profile.path ++ [a]) e).Attempts (working sighted)
        (fun _ journal t' => Noted profile target seen journal ∧
          Backed profile (downloads ++ [name]) archive t' ∧ Within (profile.path ++ [a]) t t' ∧
          t'.look (profile.path ++ [a]) = some (.file content))
        (fun _ journal t' => Noted profile target seen journal ∧ Within (profile.path ++ [a]) t t')
        journal t₂ :=
    (abandon_entry backed₂ outside other noted).mono (fun _ _ _ => id)
      fun _ _ _ ⟨noted, later⟩ => ⟨noted, within.trans later⟩
  refine attempts_bind.mpr (attempts_outcome.mpr (attempts_bind.mpr
    (attempts_change (fun t₂ written => ?_) fun e t₂ left => ?_)))
  · obtain ⟨-, rfl⟩ := overwrite_ok linkless written
    have noted := noted.append
      (x := changed (.writeAll (profile.path ++ [a]) content) false (.ok ())) (by nofun) (by nofun)
    have backed₂ := backed₁.put outside (a := a) (file content)
    have within := begun.trans (within_put _ (file content))
    refine attempts_change (fun t₃ synced => ?_) fun e t₃ left => ?_
    · cases synced
      exact ⟨noted.append (by nofun) (by nofun), backed₂, within, backed₁.look_put _⟩
    · cases left.elim (·.eq trivial) id
      exact giveUp (noted.append (by nofun) (by nofun)) backed₂ within
  · have noted := noted.append
      (x := changed (.writeAll (profile.path ++ [a]) content) false (.error e)) (by nofun) (by nofun)
    rcases left.elim MayLeave.writeAll .inl with rfl | ⟨part, written⟩
    · exact giveUp noted backed₁ begun
    · obtain ⟨-, rfl⟩ := overwrite_ok linkless written
      exact giveUp noted (backed₁.put outside _) (begun.trans (within_put _ _))

/-- A rename within the directory, or the error with everything but the staged file as it was. -/
theorem renameOrUnstage_attempts {c : String}
    (backed : Backed profile (downloads ++ [name]) archive t)
    (outside : ¬ profile.path <+: downloads) (other : profile.path ++ [c] ≠ target)
    (noted : Noted profile target seen journal) :
    (profile.renameOrUnstage (profile.path ++ [c]) (profile.path ++ [a]) (profile.path ++ [b])).Attempts
      (working sighted)
      (fun _ journal t' => Noted profile target seen journal ∧
        t.rename (profile.path ++ [a]) (profile.path ++ [b]) = .ok t')
      (fun _ journal t' => Noted profile target seen journal ∧ Within (profile.path ++ [c]) t t')
      journal t := by
  refine attempts_bind.mpr (attempts_outcome.mpr (attempts_change (fun t₁ renamed => ?_)
    fun e t₁ left => ?_))
  · exact ⟨noted.append (by nofun) (by nofun), renamed⟩
  · cases left.elim (·.eq trivial) id
    exact abandon_entry backed outside other (noted.append (by nofun) (by nofun))

/-- The staged file is moved in, or the set-aside entry is moved back. -/
theorem installBookmarks_attempts (backed : Backed profile (downloads ++ [name]) archive t)
    (outside : ¬ profile.path <+: downloads) (liveA : a ≠ "Bookmarks") (liveB : b ≠ "Bookmarks")
    (gone : t.look profile.bookmarks = none)
    (aside : t.look (profile.path ++ [b]) ≠ none)
    (other : profile.path ++ [a] ≠ target) (noted : Noted profile target seen journal) :
    (profile.installBookmarks (downloads ++ [name]) (profile.path ++ [a])
      (profile.path ++ [b])).Attempts (working sighted)
      (fun _ journal t' => Noted profile target seen journal ∧
        t.rename (profile.path ++ [a]) profile.bookmarks = .ok t')
      (fun _ journal t' => Noted profile target seen journal ∧
        t'.look profile.bookmarks = t.look (profile.path ++ [b]) ∧
        ∀ q, ¬ profile.bookmarks <+: q → ¬ profile.path ++ [a] <+: q →
          ¬ profile.path ++ [b] <+: q → t'.look q = t.look q) journal t := by
  refine attempts_bind.mpr (attempts_outcome.mpr (attempts_change (fun t₁ renamed => ?_)
    fun e t₁ left => ?_))
  · exact ⟨noted.append (by nofun) (by nofun), renamed⟩
  · cases left.elim (·.eq trivial) id
    have back := rename_eq backed.linkless.leads backed.linkless.leads backed.home backed.home aside
      gone fun inside => liveB (eq_of_prefix_concat inside)
    refine attempts_bind.mpr (attempts_outcome.mpr (attempts_unchange (fun t₂ renamed => ?_)
      fun e refused => ?_))
    · obtain ⟨backed₂, moved, -, others⟩ := backed.rename outside liveB renamed
      refine (abandon_entry backed₂ outside other ((noted.append (by nofun) (by nofun)).append
        (by nofun) (by nofun))).mono (fun _ _ _ => id) ?_
      rintro e' journal t₃ ⟨noted, within⟩
      exact ⟨noted, (within _ (entry_apart liveA)).trans moved, fun q live staged aside =>
        (within q staged).trans (others q aside live)⟩
    · cases back.symm.trans refused

end
section
variable {w t t' : FileTree Plaintext}

theorem staged_ne_live (unique : String) : s!".Bookmarks.helium-sync-new-{unique}" ≠ "Bookmarks" :=
  fun same => by simpa [toString] using congrArg String.toList same

theorem previous_ne_live (unique : String) :
    s!".Bookmarks.helium-sync-previous-{unique}" ≠ "Bookmarks" :=
  fun same => by simpa [toString] using congrArg String.toList same

theorem staged_ne_previous (unique : String) : s!".Bookmarks.helium-sync-new-{unique}" ≠
    s!".Bookmarks.helium-sync-previous-{unique}" :=
  fun same => by simpa [toString] using congrArg String.toList same

/-- The new file with a backup of the old one, or what stood there before: a file or a link to one with
the content it had, if the names that the restore takes for itself were free. -/
structure AllOrNothing (Z : ZipFormat) (profile : LocatedProfile) (snapshot : BookmarkSnapshotV1)
    (downloads : Path) (unique : String) (w : FileTree Plaintext)
    (outcome : Except ProfileError RestoreResult) (t : FileTree Plaintext) : Prop where
  replaced : ∀ result, outcome = .ok result →
    t.look profile.bookmarks = some (.file (.json (chromiumBookmarksJson snapshot))) ∧
    ∃ content, Previous profile w content ∧ t.look (profile.backupPath downloads unique) =
      some (.file (.binary (Z.pack [profile.backupEntry content])))
  kept : ∀ e, outcome = .error e → t.look profile.bookmarks = w.look profile.bookmarks ∧
    (w.look (profile.stagedPath unique) = none → w.look (profile.previousPath unique) = none →
      ∀ content, profile.liveContent w = some content → profile.liveContent t = some content)

/-- What was there is as it was, but for what stood under the names that the restore takes. -/
structure Spared (profile : LocatedProfile) (unique : String) (w t : FileTree Plaintext) : Prop where
  live : t.look profile.bookmarks = w.look profile.bookmarks
  rest : ∀ q, w.look q ≠ none → ¬ profile.bookmarks <+: q → ¬ profile.stagedPath unique <+: q →
    ¬ profile.previousPath unique <+: q → t.look q = w.look q

theorem Spared.of_beside {backup : Path} (beside : Beside backup w t)
    (live : t.look profile.bookmarks = w.look profile.bookmarks) : Spared profile unique w t where
  live
  rest _ found _ _ _ := beside.look_eq (.inl found)

theorem Spared.within (spared : Spared profile unique w t)
    (within : Within (profile.stagedPath unique) t t') : Spared profile unique w t' where
  live := (within _ (entry_apart (staged_ne_live unique))).trans spared.live
  rest q found live staged aside := (within q staged).trans (spared.rest q found live staged aside)

/-- What the live path leads to is read as before. -/
theorem Spared.liveContent (spared : Spared profile unique w t) (linkless : w.Linkless profile.path)
    (staged : w.look (profile.stagedPath unique) = none)
    (aside : w.look (profile.previousPath unique) = none) {content : Plaintext}
    (held : profile.liveContent w = some content) : profile.liveContent t = some content := by
  have found := liveContent_eq_some.mp held
  refine liveContent_eq_some.mpr (stat_grown (fun q there => ?_) found)
  by_cases within : profile.bookmarks <+: q
  · obtain ⟨rest, rfl⟩ := within
    cases rest with
    | nil =>
        rw [List.append_nil]
        exact spared.live
    | cons next rest =>
        have directory : w.look profile.bookmarks = some .dir :=
          isDir_of_look (List.cons_ne_nil next rest) there
        have unlinked (target : Target) : w.look profile.bookmarks ≠ some (.link target) := fun link => by
          cases link.symm.trans directory
        cases ((stat_bookmarks linkless unlinked).symm.trans found).symm.trans directory
  · exact spared.rest q there within (fun inside => there (look_of_before inside staged))
      fun inside => there (look_of_before inside aside)

/-- The new file, and a backup of what was seen of the old one. -/
structure Renewal (Z : ZipFormat) (profile : LocatedProfile) (snapshot : BookmarkSnapshotV1)
    (downloads : Path) (unique : String) (w : FileTree Plaintext)
    (journal : List (FileEntry Plaintext)) (t : FileTree Plaintext) (answer : Bool) : Prop where
  asked : askedFile profile false ∈ journal ↔ answer = false
  unrefused : ∀ e, changed (.removeFile (profile.previousPath unique)) false (.error e) ∉ journal
  live : t.look profile.bookmarks = some (.file (.json (chromiumBookmarksJson snapshot)))
  backup : ∃ content, Previous profile w content ∧ t.look (profile.backupPath downloads unique) =
    some (.file (.binary (Z.pack [profile.backupEntry (if answer then content else none)])))

/-- An error that left what was there, or the one after a refused removal of it. -/
def Setback (profile : LocatedProfile) (snapshot : BookmarkSnapshotV1) (unique : String)
    (w : FileTree Plaintext) (journal : List (FileEntry Plaintext)) (t : FileTree Plaintext) : Prop :=
  (Spared profile unique w t ∧
    ∀ e, changed (.removeFile (profile.previousPath unique)) false (.error e) ∉ journal) ∨
  ((∃ e, changed (.removeFile (profile.previousPath unique)) false (.error e) ∈ journal) ∧
    t.Linkless profile.path ∧
    t.look profile.bookmarks = some (.file (.json (chromiumBookmarksJson snapshot))))

section
variable {journal : List (FileEntry Plaintext)} {answer : Bool} {content : Option Plaintext}

theorem Noted.setback {seen : Option Bool}
    (noted : Noted profile (profile.previousPath unique) seen journal)
    (spared : Spared profile unique w t) : Setback profile snapshot unique w journal t :=
  .inl ⟨spared, fun _ => noted.untried _⟩

/-- The removal of the file that was set aside is a step of its own. -/
theorem Noted.removed (noted : Noted profile (profile.previousPath unique) (some answer) journal) :
    (askedFile profile false ∈
        journal ++ [changed (.removeFile (profile.previousPath unique)) false (.ok ())] ↔
      answer = false) ∧
    ∀ e, changed (.removeFile (profile.previousPath unique)) false (.error e) ∉
      journal ++ [changed (.removeFile (profile.previousPath unique)) false (.ok ())] := by
  constructor
  · rw [List.mem_append, noted.asked false, List.mem_singleton, Option.some.injEq, or_iff_left]
    intro same
    cases congrArg Interaction.Entry.op same
  · intro e member
    rcases List.mem_append.mp member with before | last
    · exact noted.untried _ before
    · exact changed_ok_ne_error (List.mem_singleton.mp last).symm

/-- What follows once the new file is written beside the live one. -/
theorem replaceBookmarks_attempts
    (backed : Backed profile (profile.backupPath downloads unique) (.binary (Z.pack
      [profile.backupEntry (if answer then content else none)])) t)
    (previous : Previous profile w content) (outside : ¬ profile.path <+: downloads) (spared : Spared profile unique w t)
    (staged : t.look (profile.stagedPath unique) =
      some (.file (.json (chromiumBookmarksJson snapshot))))
    (noted : Noted profile (profile.previousPath unique) (some answer) journal)
    {result : RestoreResult} :
    (do
      if ← test false (.exists profile.bookmarks) then
        profile.renameOrUnstage (profile.stagedPath unique) profile.bookmarks
          (profile.previousPath unique)
        profile.installBookmarks (profile.backupPath downloads unique) (profile.stagedPath unique)
          (profile.previousPath unique)
        (change (.removeFile (profile.previousPath unique))).mapErr fun e =>
          .write (display (profile.previousPath unique)) e.message
      else
        profile.renameOrUnstage (profile.stagedPath unique) (profile.stagedPath unique)
          profile.bookmarks
      return result : FileAction Plaintext ProfileError RestoreResult).Attempts (working sighted)
      (fun _ journal t => ∃ answer, Renewal Z profile snapshot downloads unique w journal t answer)
      (fun _ journal t => Setback profile snapshot unique w journal t) journal t := by
  have other : profile.stagedPath unique ≠ profile.previousPath unique := fun same =>
    staged_ne_previous unique (List.head_eq_of_cons_eq (List.append_cancel_left same))
  refine attempts_bind.mpr (attempts_test fun there truly _ => ?_)
  have noted := noted.append (x := ⟨⟨.test (.exists profile.bookmarks), false⟩, there⟩)
    (by nofun) (by nofun)
  match there with
  | false =>
      refine attempts_bind.mpr ((renameOrUnstage_attempts backed outside other noted).mono ?_
        fun _ _ _ ⟨noted, within⟩ => noted.setback (spared.within within))
      rintro ⟨⟩ journal t₁ ⟨noted, renamed⟩
      obtain ⟨backed, moved, -, -⟩ := backed.rename outside (staged_ne_live unique) renamed
      exact ⟨answer, by simpa using noted.asked false, fun _ => noted.untried _,
        moved.trans staged, content, previous, backed.held⟩
  | true =>
      have aside : t.look profile.bookmarks ≠ none := by
        intro absent
        have seen := truly rfl
        have unlinked (target : Target) : t.look profile.bookmarks ≠ some (.link target) := fun link => by
          cases link.symm.trans absent
        simp [Test.holds, stat_bookmarks backed.linkless unlinked, absent] at seen
      refine attempts_bind.mpr ((renameOrUnstage_attempts backed outside other noted).mono ?_
        fun _ _ _ ⟨noted, within⟩ => noted.setback (spared.within within))
      rintro ⟨⟩ journal t₁ ⟨noted, renamed⟩
      obtain ⟨backed, moved, gone, others⟩ :=
        backed.rename outside (previous_ne_live unique).symm renamed
      have staged := (others _ (entry_apart (staged_ne_live unique).symm)
        (entry_apart (staged_ne_previous unique).symm)).trans staged
      refine attempts_bind.mpr ((installBookmarks_attempts backed outside
        (staged_ne_live unique) (previous_ne_live unique) gone (moved.trans_ne aside) other
          noted).mono ?_ ?_)
      swap
      · rintro e journal t₂ ⟨noted, back, still⟩
        refine noted.setback ⟨(back.trans moved).trans spared.live, fun q found live new set => ?_⟩
        exact (still q live new set).trans ((others q live set).trans (spared.rest q found live new set))
      rintro ⟨⟩ journal t₂ ⟨noted, renamed⟩
      obtain ⟨backed, moved, -, -⟩ := backed.rename outside (staged_ne_live unique) renamed
      have new := moved.trans staged
      refine attempts_bind.mpr (attempts_mapErr.mpr (attempts_change (fun t₃ removed => ?_)
        fun e t₃ left => ?_))
      · obtain ⟨backed, within⟩ := backed.removeFile outside removed
        obtain ⟨asked, unrefused⟩ := noted.removed
        exact ⟨answer, asked, unrefused,
          (within _ (entry_apart (previous_ne_live unique))).trans new, content, previous,
          backed.held⟩
      · cases left.elim (·.eq trivial) id
        exact .inr ⟨⟨e, List.mem_append_right _ (List.mem_singleton.mpr rfl)⟩, backed.linkless, new⟩

end

/-- Every exit of a restore. -/
theorem restoreBookmarks_attempts (situated : Situated profile downloads w) :
    (profile.restoreBookmarks P Z snapshot downloads unique).Attempts (working sighted)
      (fun _ journal t => ∃ answer, Renewal Z profile snapshot downloads unique w journal t answer)
      (fun _ journal t => Setback profile snapshot unique w journal t) [] w := by
  have outside := situated.outside
  have still {t : FileTree Plaintext} {name : String} (beside : Beside (downloads ++ [name]) w t) :
      Spared profile unique w t :=
    .of_beside beside (beside.near situated.home outside (.inr (List.prefix_append _ _)))
  have backupOther : profile.backupPath downloads unique ≠ profile.previousPath unique := by
    intro same
    have dirs : downloads = profile.path := (List.append_inj' same rfl).1
    exact outside (dirs ▸ List.prefix_rfl)
  have stagedOther : profile.stagedPath unique ≠ profile.previousPath unique := fun same =>
    staged_ne_previous unique (List.head_eq_of_cons_eq (List.append_cancel_left same))
  have start : Noted profile (profile.previousPath unique) none ([] : List (FileEntry Plaintext)) :=
    ⟨fun _ => List.not_mem_nil, fun _ => ⟨nofun, nofun⟩⟩
  rw [restoreBookmarks]
  split_ifs with mismatch
  · exact start.setback ⟨rfl, fun _ _ _ _ _ => rfl⟩
  refine attempts_bind.mpr (attempts_mapErr.mpr (attempts_change (fun t₁ made => ?_)
    fun e t₁ left => ?_))
  swap
  · exact (start.append (by nofun) (by nofun)).setback (@still t₁ "" (beside_of_paved
      (Files.Change.paved_of_createDirAll situated.direct.dropLast (.inr left))))
  have paved := Files.Change.paved_of_createDirAll situated.direct.dropLast (.inl made)
  refine attempts_bind.mpr ((createBackupArchive_attempts situated (beside_of_paved paved)
    (paved.linkless situated.direct) backupOther (start.append (by nofun) (by nofun))).mono ?_
    fun _ _ _ ⟨⟨_, noted⟩, beside⟩ => noted.setback (still beside))
  rintro ⟨⟩ journal t₂ ⟨answer, content, noted, previous, holding⟩
  have spared := still holding.beside
  refine attempts_bind.mpr ((stageBookmarks_attempts (holding.backed situated) outside stagedOther
    noted).mono ?_ fun _ _ _ ⟨noted, within⟩ => noted.setback (spared.within within))
  rintro ⟨⟩ journal t₃ ⟨noted, backed, within, staged⟩
  exact replaceBookmarks_attempts backed previous outside (spared.within within) staged noted

/-- A restore that succeeds was refused nothing. -/
theorem restoreBookmarks_clean :
    (profile.restoreBookmarks P Z snapshot downloads unique).Clean Forward := by
  rw [restoreBookmarks]
  split_ifs
  · exact clean_throw
  have abandoned {p : Path} {e : ProfileError} : (abandon p e).Fails := fails_bind fun _ => fails_throw
  have unstage (src dst : Path) : (profile.renameOrUnstage (profile.stagedPath unique) src
      dst).Clean Forward :=
    clean_outcome_bind clean_change (fun _ => clean_pure) fun _ => abandoned
  refine clean_bind (clean_mapErr clean_change) fun _ => clean_bind ?_ fun _ => clean_bind ?_
    fun _ => clean_bind clean_test fun there => ?_
  · refine clean_bind (clean_mapErr clean_change) fun _ => clean_outcome_bind (clean_bind ?_ fun _ =>
      clean_bind clean_change fun _ => clean_change) (fun _ => clean_pure) fun _ => abandoned
    refine clean_bind clean_test fun answer => ?_
    split
    · exact clean_bind clean_readFile fun _ => clean_pure
    · exact clean_pure
  · exact clean_bind (clean_mapErr clean_change) fun _ => clean_outcome_bind (clean_bind clean_change
      fun _ => clean_change) (fun _ => clean_pure) fun _ => abandoned
  · split
    · exact clean_bind (unstage _ _) fun _ => clean_bind (clean_outcome_bind clean_change
        (fun _ => clean_pure) fun _ => fails_bind fun _ => abandoned) fun _ =>
          clean_bind (clean_mapErr clean_change) fun _ => clean_pure
    · exact clean_bind (unstage _ _) fun _ => clean_pure

/-- Where nothing is refused, a restore of a snapshot of this profile succeeds. -/
theorem restoreBookmarks_succeeds (matching : snapshot.profileDirectory = profile.directoryName) :
    (profile.restoreBookmarks P Z snapshot downloads unique).Succeeds Accepted := by
  rw [restoreBookmarks, if_neg (not_not.mpr matching)]
  refine succeeds_bind (succeeds_mapErr succeeds_change) fun _ => succeeds_bind ?_ fun _ =>
    succeeds_bind ?_ fun _ => succeeds_bind succeeds_test fun there => ?_
  · refine succeeds_bind (succeeds_mapErr succeeds_change) fun _ =>
      succeeds_outcome_bind (succeeds_bind ?_ fun _ => succeeds_bind succeeds_change fun _ =>
        succeeds_change) fun _ => succeeds_pure
    refine succeeds_bind succeeds_test fun answer => ?_
    split
    · exact succeeds_bind succeeds_readFile fun _ => succeeds_pure
    · exact succeeds_pure
  · exact succeeds_bind (succeeds_mapErr succeeds_change) fun _ => succeeds_outcome_bind
      (succeeds_bind succeeds_change fun _ => succeeds_change) fun _ => succeeds_pure
  · have unstage (src dst : Path) : (profile.renameOrUnstage (profile.stagedPath unique) src
        dst).Succeeds Accepted := succeeds_outcome_bind succeeds_change fun _ => succeeds_pure
    split
    · refine succeeds_bind (unstage _ _) fun _ => succeeds_bind (succeeds_outcome_bind
        succeeds_change fun _ => succeeds_pure) fun _ => succeeds_bind (succeeds_mapErr
          succeeds_change) fun _ => succeeds_pure
    · exact succeeds_bind (unstage _ _) fun _ => succeeds_pure

/-- A restore that fails was refused something, or it was a snapshot of another profile. -/
theorem unasked_or_faulted {exec : (call : FileCall Plaintext) → Fate Plaintext →
      FileTree Plaintext → Option (FileTree Plaintext × call.Reply)}
    {allow : FileCall Plaintext → Fate Plaintext → FileTree Plaintext → Prop}
    {journal : List (FileEntry Plaintext)} {e : ProfileError}
    (run : (profile.restoreBookmarks P Z snapshot downloads unique).run.Logs exec allow w journal
      (.error e) t) : journal = [] ∨ Faulted journal := by
  by_cases matching : snapshot.profileDirectory = profile.directoryName
  · exact .inr (faulted_of_fails (restoreBookmarks_succeeds matching) run)
  · rw [restoreBookmarks, if_pos matching] at run
    cases run
    exact .inl rfl

/-- A restore is all or nothing unless the question whether there is a file to back up is refused and
nothing else stops it, or what was set aside cannot be removed; then it is so only when the backup, or
the file itself, is the same all the same. -/
theorem restore_bookmarks_all_or_nothing {journal : List (FileEntry Plaintext)}
    {outcome : Except ProfileError RestoreResult} (situated : Situated profile downloads w)
    (run : (profile.restoreBookmarks P Z snapshot downloads unique).run.Logs FileCall.exec
      FileCall.Steady w journal outcome t) :
    AllOrNothing Z profile snapshot downloads unique w outcome t ↔
      (askedFile profile false ∈ journal → Faulted journal ∨
        Z.pack [profile.backupEntry (profile.liveContent w)] = Z.pack [profile.backupEntry none]) ∧
      ((∃ e, changed (.removeFile (profile.previousPath unique)) false (.error e) ∈ journal) →
        w.look profile.bookmarks = some (.file (.json (chromiumBookmarksJson snapshot)))) := by
  have exits := (logs_of_steady run).post
    (Interaction.Prog.ensures_of_attempts (q := fun outcome journal t =>
      ((∃ result, outcome = .ok result) ∧
        ∃ answer, Renewal Z profile snapshot downloads unique w journal t answer) ∨
      ((∃ e, outcome = .error e) ∧ Setback profile snapshot unique w journal t))
    ((restoreBookmarks_attempts situated).mono
      (fun result _ _ met => .inl ⟨⟨result, rfl⟩, met⟩) fun e _ _ met => .inr ⟨⟨e, rfl⟩, met⟩))
  rcases exits with ⟨⟨result, rfl⟩, answer, renewal⟩ | ⟨⟨error, rfl⟩, setback⟩
  · have fine : ¬ Faulted journal := fun ⟨entry, member, refused⟩ =>
      (restoreBookmarks_clean.logs run ⟨result, rfl⟩ entry member).2 refused
    obtain ⟨content, previous, backup⟩ := renewal.backup
    constructor
    · intro good
      refine ⟨fun asked => .inr ?_, fun ⟨e, refused⟩ => absurd refused (renewal.unrefused e)⟩
      obtain ⟨held, previous, backup'⟩ := (good.replaced result rfl).2
      rw [renewal.asked.mp asked] at backup
      rcases previous with rfl | ⟨absent, -⟩
      · exact Plaintext.binary.inj (Kind.file.inj (Option.some.inj (backup'.symm.trans backup)))
      · rw [LocatedProfile.liveContent, absent]
    · rintro ⟨noticed, -⟩
      refine ⟨fun _ _ => ⟨renewal.live, ?_⟩, nofun⟩
      cases answer with
      | true => exact ⟨content, previous, backup⟩
      | false =>
          have same := (noticed (renewal.asked.mpr rfl)).resolve_left fine
          exact ⟨profile.liveContent w, .inl rfl, same ▸ backup⟩
  · have noticed (asked : askedFile profile false ∈ journal) : Faulted journal := by
      rcases unasked_or_faulted run with rfl | faulted
      · cases asked
      · exact faulted
    rcases setback with ⟨spared, unrefused⟩ | ⟨⟨e, refused⟩, linkless, new⟩
    · exact ⟨fun _ => ⟨fun asked => .inl (noticed asked), fun ⟨e, refused⟩ =>
        absurd refused (unrefused e)⟩, fun _ => ⟨nofun, fun _ _ => ⟨spared.live,
          fun staged aside _ => spared.liveContent situated.linkless staged aside⟩⟩⟩
    · constructor
      · intro good
        exact ⟨fun asked => .inl (noticed asked), fun _ => (good.kept error rfl).1.symm.trans new⟩
      · rintro ⟨-, same⟩
        have live := same ⟨e, refused⟩
        refine ⟨nofun, fun _ _ => ⟨new.trans live.symm, fun _ _ content held => ?_⟩⟩
        rw [liveContent_of_file situated.linkless live] at held
        rw [liveContent_of_file linkless new, held]

end

section
open Reference (primitives)

/-- Entries one after the other, names first. -/
def storedZip : ZipFormat where
  pack entries := entries.flatMap fun entry => textBytes entry.name ++ primitives.plainBytes entry.content
  unpack _ := .error "could not open ZIP"
  enclosedName _ := none

def sampleProfile : LocatedProfile := { Reference.profile with path := ["Default"] }

/-- A user directory with one profile and its Bookmarks file. -/
def sampleTree (bookmarks : Plaintext) : FileTree Plaintext :=
  (folder.put ["Default"] folder).put ["Default", "Bookmarks"] (file bookmarks)

def sampleSnapshot : BookmarkSnapshotV1 := ⟨"helium-bookmarks-v1", "helium", "Default", 1, []⟩

theorem sample_situated (bookmarks : Plaintext) :
    Situated sampleProfile ["Downloads"] (sampleTree bookmarks) where
  home := rfl
  linkless q before target := by
    rcases List.prefix_cons_iff.mp before with rfl | ⟨rest, rfl, deeper⟩
    · nofun
    · cases List.prefix_nil.mp deeper
      nofun
  direct q before target := by
    rcases List.prefix_cons_iff.mp before with rfl | ⟨rest, rfl, deeper⟩
    · nofun
    · cases List.prefix_nil.mp deeper
      nofun
  outside := by decide

/-- The two backups end in different bytes. -/
theorem sample_backup_ne : storedZip.pack [sampleProfile.backupEntry (some (.text "old"))] ≠
    storedZip.pack [sampleProfile.backupEntry none] := by
  intro same
  have last := congrArg List.getLast? same
  simp only [storedZip, List.flatMap_singleton, List.getLast?_append, backupEntry] at last
  exact absurd last (by decide +kernel)

def steady (call : FileCall Plaintext) (fate : Fate Plaintext) : Bool :=
  !call.undo || fate matches .proceeds

theorem steady_sound {call : FileCall Plaintext} {fate : Fate Plaintext} {w : FileTree Plaintext}
    (checked : steady call fate = true) : FileCall.Steady call fate w := by
  intro undoing
  simp only [steady, undoing, Bool.not_true, Bool.false_or] at checked
  split at checked
  · rfl
  · cases checked

def sampleRun (fates : List (Fate Plaintext)) : Option (List (FileEntry Plaintext) ×
    Except ProfileError RestoreResult × FileTree Plaintext) :=
  (sampleProfile.restoreBookmarks primitives storedZip sampleSnapshot ["Downloads"] "1").run.record
    FileCall.exec steady fates (sampleTree (.text "old"))

theorem sampleRun_logs {fates : List (Fate Plaintext)} {ok : Bool} {p : Path}
    {kind : Option (Kind Plaintext)}
    (evaluated : (sampleRun fates).map (fun run => (run.2.1.isOk, run.2.2.look p)) =
      some (ok, kind)) :
    ∃ journal outcome t, (sampleProfile.restoreBookmarks primitives storedZip sampleSnapshot
      ["Downloads"] "1").run.Logs FileCall.exec FileCall.Steady (sampleTree (.text "old")) journal
        outcome t ∧ outcome.isOk = ok ∧ t.look p = kind := by
  obtain ⟨⟨journal, outcome, t⟩, ran, same⟩ := Option.map_eq_some_iff.mp evaluated
  cases same
  exact ⟨journal, outcome, t, Interaction.Prog.logs_of_record steady_sound ran, rfl, rfl⟩

theorem restore_bookmarks_all_or_nothing_proceeds : ∃ journal outcome t,
    (sampleProfile.restoreBookmarks primitives storedZip sampleSnapshot ["Downloads"] "1").run.Logs
      FileCall.exec FileCall.Steady (sampleTree (.text "old")) journal outcome t ∧
    t.look sampleProfile.bookmarks = some (.file (.json (chromiumBookmarksJson sampleSnapshot))) ∧
    (AllOrNothing storedZip sampleProfile sampleSnapshot ["Downloads"] "1" (sampleTree (.text "old"))
      outcome t ↔
      (askedFile sampleProfile false ∈ journal → Faulted journal ∨
        storedZip.pack [sampleProfile.backupEntry (sampleProfile.liveContent
          (sampleTree (.text "old")))] = storedZip.pack [sampleProfile.backupEntry none]) ∧
      ((∃ e, changed (.removeFile (sampleProfile.previousPath "1")) false (.error e) ∈ journal) →
        (sampleTree (.text "old")).look sampleProfile.bookmarks =
          some (.file (.json (chromiumBookmarksJson sampleSnapshot))))) := by
  obtain ⟨journal, outcome, t, run, -, new⟩ := @sampleRun_logs (List.replicate 13 .proceeds) true
    sampleProfile.bookmarks (some (.file (.json (chromiumBookmarksJson sampleSnapshot))))
    (by decide +kernel)
  exact ⟨journal, outcome, t, run, new,
    restore_bookmarks_all_or_nothing (sample_situated (.text "old")) run⟩

/-- When the file that was set aside cannot be removed, the error comes with the new file live; when
the question whether there is a file is refused, the restore succeeds and no backup holds the old
file. -/
theorem restore_bookmarks_fails_replaced :
    (∃ journal outcome t,
      (sampleProfile.restoreBookmarks primitives storedZip sampleSnapshot ["Downloads"] "1").run.Logs
        FileCall.exec FileCall.Steady (sampleTree (.text "old")) journal outcome t ∧
      outcome.isOk = false ∧
      t.look sampleProfile.bookmarks = some (.file (.json (chromiumBookmarksJson sampleSnapshot))) ∧
      ¬ AllOrNothing storedZip sampleProfile sampleSnapshot ["Downloads"] "1"
        (sampleTree (.text "old")) outcome t) ∧
    ∃ journal outcome t,
      (sampleProfile.restoreBookmarks primitives storedZip sampleSnapshot ["Downloads"] "1").run.Logs
        FileCall.exec FileCall.Steady (sampleTree (.text "old")) journal outcome t ∧
      outcome.isOk = true ∧
      t.look (sampleProfile.backupPath ["Downloads"] "1") =
        some (.file (.binary (storedZip.pack [sampleProfile.backupEntry none]))) ∧
      ¬ AllOrNothing storedZip sampleProfile sampleSnapshot ["Downloads"] "1"
        (sampleTree (.text "old")) outcome t := by
  constructor
  · obtain ⟨journal, outcome, t, run, failed, new⟩ :=
      @sampleRun_logs (List.replicate 12 .proceeds ++ [.fails .notFound]) false
        sampleProfile.bookmarks (some (.file (.json (chromiumBookmarksJson sampleSnapshot))))
        (by decide +kernel)
    refine ⟨journal, outcome, t, run, failed, new, fun good => ?_⟩
    match outcome with
    | .ok _ => cases failed
    | .error e => cases (good.kept e rfl).1.symm.trans new
  · obtain ⟨journal, outcome, t, run, done, backup⟩ :=
      @sampleRun_logs ([.proceeds, .proceeds, .fails .notFound] ++ List.replicate 9 .proceeds) true
        (sampleProfile.backupPath ["Downloads"] "1")
        (some (.file (.binary (storedZip.pack [sampleProfile.backupEntry none])))) (by decide +kernel)
    refine ⟨journal, outcome, t, run, done, backup, fun good => ?_⟩
    match outcome with
    | .error _ => cases done
    | .ok result =>
        obtain ⟨content, previous, backup'⟩ := (good.replaced result rfl).2
        have same := backup'.symm.trans backup
        rcases previous with rfl | ⟨absent, -⟩
        · exact sample_backup_ne (Plaintext.binary.inj (Kind.file.inj (Option.some.inj same)))
        · cases absent

end
end HeliumSync.LocatedProfile
