import HeliumSync.BookmarksSwap
import HeliumSync.Staging

/-! A whole restore: how it can fail, and what it leaves in the profile when it succeeds. -/
namespace HeliumSync.LocatedProfile
open Files FileTree
open Interaction (Action Prog)
open Interaction.Action (attempts_bind attempts_pure attempts_throw attempts_mapErr attempts_outcome
  attempts_ofExcept attempts_ignore)

variable {C : Type} {P : Primitives C} {Z : ZipReader} {profile : LocatedProfile} {home staged : Path}
  {stage rollback unique : String} {downloads : Path} {w t t' : FileTree Plaintext}
  {entries : List ArchiveEntry} {journal : List (FileEntry Plaintext)} {α ε : Type} {sighted : Prop}

/-- No rename, and no folder made in the profile but in the stage. -/
def QuietOp (home : Path) (stage : String) (call : FileCall Plaintext) : Prop :=
  ∀ c, call.op = .change c → (∀ src dst, c ≠ .rename src dst) ∧
    ∀ p, c = .createDirAll p → home ++ [stage] <+: p ∨ ¬ home <+: p

def Quiet (home : Path) (stage : String) (journal : List (FileEntry Plaintext)) : Prop :=
  ∀ entry ∈ journal, QuietOp home stage entry.op

theorem Quiet.append {journal' : List (FileEntry Plaintext)} (quiet : Quiet home stage journal)
    (quiet' : Quiet home stage journal') : Quiet home stage (journal ++ journal') := by
  intro entry member
  rcases List.mem_append.mp member with before | after
  · exact quiet entry before
  · exact quiet' entry after

theorem Quiet.reading {x : FileEntry Plaintext} (quiet : Quiet home stage journal)
    (other : ∀ c, x.op.op ≠ .change c) : Quiet home stage (journal ++ [x]) :=
  quiet.append fun _ member c same => by
    cases List.mem_singleton.mp member
    exact absurd same (other c)

theorem Quiet.not_moved (quiet : Quiet home stage journal) {src dst : Path} {undo : Bool}
    {reply : Except IoError Unit} : changed (.rename src dst) undo reply ∉ journal :=
  fun member => (quiet _ member _ rfl).1 _ _ rfl

theorem Quiet.tracked (quiet : Quiet home stage journal) (other : rollback ≠ stage) :
    Tracked home stage rollback [] [] journal where
  outs _ _ out := absurd out quiet.not_moved
  out _ nothing := absurd nothing List.not_mem_nil
  ins _ _ into := absurd into quiet.not_moved
  into _ nothing := absurd nothing List.not_mem_nil
  accepted q e refused := by
    rcases (quiet _ refused _ rfl).2 _ rfl with inside | outside
    · rw [List.append_assoc, List.prefix_append_right_inj] at inside
      exact other (List.cons_prefix_cons.mp inside).1.symm
    · exact outside ((List.prefix_append _ _).trans (List.prefix_append _ q))

/-- No target was moved. -/
def Still (journal : List (FileEntry Plaintext)) : Prop :=
  ∀ src dst, changed (.rename src dst) false (.ok ()) ∉ journal

theorem Quiet.still (quiet : Quiet home stage journal) : Still journal :=
  fun _ _ => quiet.not_moved

open Interaction.Action (issues_pure issues_throw issues_ofExcept issues_bind issues_mapErr
  issues_outcome issues_ignore issues_attempts)

section
variable {good : FileCall Plaintext → Prop}

theorem issues_change {c : Files.Change Plaintext} (fine : QuietOp home stage ⟨.change c, false⟩) :
    (change c).run.Issues (QuietOp home stage) := ⟨fine, fun _ => trivial⟩

theorem quiet_of_atomic {c : Files.Change Plaintext} (rename : ∀ src dst, c ≠ .rename src dst)
    (folder : ∀ p, c ≠ .createDirAll p) : QuietOp home stage ⟨.change c, false⟩ := by
  rintro c' same
  cases same
  exact ⟨rename, fun p same => absurd same (folder p)⟩

theorem quiet_createDirAll {p : Path} (aside : home ++ [stage] <+: p ∨ ¬ home <+: p) :
    QuietOp home stage ⟨.change (.createDirAll p), false⟩ := by
  rintro c' same
  cases same
  exact ⟨nofun, fun q same => by cases same; exact aside⟩

theorem issues_test {undo : Bool} {question : Test} :
    (test undo question : FileAction Plaintext ε Bool).run.Issues (QuietOp home stage) :=
  ⟨nofun, fun _ => trivial⟩

theorem issues_readFile {p : Path} :
    (readFile p : FileAction Plaintext IoError Plaintext).run.Issues (QuietOp home stage) :=
  ⟨nofun, fun _ => trivial⟩

theorem issues_survey :
    (survey : FileAction Plaintext IoError _).run.Issues (QuietOp home stage) :=
  ⟨nofun, fun _ => trivial⟩

theorem ne_nil_of_strip {enclosed relative : Path} (stripped : stripPayload enclosed = some relative) :
    relative ≠ [] := by
  match enclosed with
  | [] => cases stripped
  | first :: rest =>
      rw [stripPayload] at stripped
      split_ifs at stripped with below
      cases stripped
      exact below.2

theorem extractExtensionPayload_issues (inside : home ++ [stage] <+: staged) :
    (extractExtensionPayload Z staged entries).run.Issues (QuietOp home stage) := by
  induction entries with
  | nil => exact issues_pure
  | cons entry entries ih =>
      refine issues_bind ?_ fun _ => ih
      rw [extractEntry]
      split
      · exact issues_throw
      · split
        · exact issues_pure
        · rename_i relative stripped
          have within := inside.trans (List.prefix_append staged relative)
          refine issues_bind issues_ofExcept fun _ => ?_
          split
          · exact issues_mapErr (issues_change (quiet_createDirAll (.inl within)))
          · refine issues_bind (issues_mapErr (issues_change (quiet_createDirAll (.inl ?_))))
              fun _ => ?_
            · rcases List.eq_nil_or_concat' relative with rfl | ⟨d, name, rfl⟩
              · exact absurd rfl (ne_nil_of_strip stripped)
              · rw [← List.append_assoc, List.dropLast_concat]
                exact inside.trans (List.prefix_append staged d)
            · exact issues_bind (issues_mapErr (issues_change (quiet_of_atomic (by simp) (by simp))))
                fun _ => issues_mapErr (issues_change (quiet_of_atomic (by simp) (by simp)))

theorem stagePreferenceFiles_issues {fileNames : List String} :
    (stagePreferenceFiles P home staged entries fileNames).run.Issues (QuietOp home stage) := by
  induction fileNames with
  | nil => exact issues_pure
  | cons fileName fileNames ih =>
      refine issues_bind (issues_bind issues_ofExcept fun _ => issues_bind issues_test fun _ => ?_)
        fun _ => ih
      split
      · exact issues_pure
      · refine issues_bind (issues_bind issues_test fun _ => ?_) fun _ => ?_
        · split
          · exact issues_bind (issues_mapErr issues_readFile) fun _ => issues_ofExcept
          · exact issues_pure
        · exact issues_bind issues_ofExcept fun _ =>
            issues_mapErr (issues_change (quiet_of_atomic (by simp) (by simp)))

theorem createExtensionBundle_issues {Z : ZipFormat} {destination : Path}
    (outside : ¬ home <+: destination.dropLast) :
    (profile.createExtensionBundle P Z destination).run.Issues (QuietOp home stage) := by
  refine issues_bind (issues_mapErr (issues_change (quiet_createDirAll (.inr outside)))) fun _ => ?_
  refine issues_bind (issues_mapErr (issues_change (quiet_of_atomic (by simp) (by simp))))
    fun _ => ?_
  refine issues_bind (issues_mapErr issues_survey) fun _ => ?_
  refine issues_bind (issues_outcome (issues_bind (issues_mapErr issues_survey) fun _ =>
    issues_bind issues_ofExcept fun _ => issues_bind (issues_mapErr (issues_change
      (quiet_of_atomic (by simp) (by simp)))) fun _ => issues_bind (issues_mapErr (issues_change
        (quiet_of_atomic (by simp) (by simp)))) fun _ => issues_pure)) fun written => ?_
  cases written with
  | error details =>
      exact issues_bind (issues_ignore (issues_change (quiet_of_atomic (by simp) (by simp))))
        fun _ => issues_throw
  | ok stats => exact issues_bind (issues_mapErr issues_readFile) fun _ => issues_pure

end

theorem not_prefix_target {name : String} {r q : Path} (free : name ∉ targetHeads)
    (target : IsTarget r) : ¬ home ++ [name] <+: home ++ (r ++ q) := by
  intro before
  obtain ⟨first, listed, rest, rfl⟩ := target.head
  obtain ⟨rfl, -⟩ := List.cons_prefix_cons.mp ((List.prefix_append_right_inj home).mp before)
  exact free listed

theorem not_prefix_indexedDb {name : String} {q : Path} (free : name ∉ targetHeads) :
    ¬ home ++ [name] <+: home ++ "IndexedDB" :: q := by
  intro before
  obtain ⟨rfl, -⟩ := List.cons_prefix_cons.mp ((List.prefix_append_right_inj home).mp before)
  exact free List.mem_cons_self

/-- A step that is quiet. -/
theorem quietly {x : FileAction Plaintext ε α} (issues : x.run.Issues (QuietOp home stage))
    {p : α → List (FileEntry Plaintext) → FileTree Plaintext → Prop}
    {q : ε → List (FileEntry Plaintext) → FileTree Plaintext → Prop}
    (h : x.Attempts (working sighted) p q journal t) (quiet : Quiet home stage journal) :
    x.Attempts (working sighted) (fun a journal t => p a journal t ∧ Quiet home stage journal)
      (fun e journal t => q e journal t ∧ Quiet home stage journal) journal t := by
  refine (issues_attempts issues h).mono ?_ ?_
  · rintro a _ t ⟨met, rest, rfl, each⟩
    exact ⟨met, quiet.append each⟩
  · rintro e _ t ⟨met, rest, rfl, each⟩
    exact ⟨met, quiet.append each⟩

/-- The names of the temporary folders. -/
def Temporary (name : String) : Prop :=
  name.startsWith ".helium-sync-extension-stage-" = true ∨
    name.startsWith ".helium-sync-extension-rollback-" = true

theorem Temporary.free {name : String} (temporary : Temporary name) : name ∉ targetHeads := by
  intro listed
  have none : ∀ name ∈ targetHeads, name.startsWith ".helium-sync-extension-stage-" = false ∧
      name.startsWith ".helium-sync-extension-rollback-" = false := by decide +kernel
  obtain ⟨first, second⟩ := none name listed
  rcases temporary with begins | begins
  · cases first.symm.trans begins
  · cases second.symm.trans begins

theorem Temporary.not_origin {name : String} (temporary : Temporary name) :
    isExtensionOrigin name ≠ true := by
  intro origin
  simp only [isExtensionOrigin, Temporary, String.startsWith_string_iff] at origin temporary
  obtain ⟨rest, same⟩ := origin
  rcases temporary with ⟨rest', same'⟩ | ⟨rest', same'⟩
  · exact absurd (same.trans same'.symm) (by simp)
  · exact absurd (same.trans same'.symm) (by simp)

/-- The record of a temporary folder that was to go. -/
def dropped (p : Path) (reply : Except IoError Unit) : FileEntry Plaintext :=
  ⟨⟨.dropDir p, false⟩, reply⟩

/-- A temporary folder that could not be removed. -/
structure Leftover (home : Path) (w : FileTree Plaintext) (journal : List (FileEntry Plaintext))
    (name : String) : Prop where
  temporary : Temporary name
  absent : w.look (home ++ [name]) = none
  refused : ∃ e, dropped (home ++ [name]) (.error e) ∈ journal

/-- The temporary folders in use, and those left over. -/
def Hidden (home : Path) (w : FileTree Plaintext) (active : List String)
    (journal : List (FileEntry Plaintext)) (name : String) : Prop :=
  name ∈ active ∨ Leftover home w journal name

/-- Not one of these folders, nor in one. -/
def Clear (home : Path) (hidden : String → Prop) (q : Path) : Prop :=
  ∀ name, hidden name → ¬ home ++ [name] <+: q

/-- A temporary folder is gone, or some of what was in it. -/
structure Dropped (home : Path) (name : String) (reply : Except IoError Unit)
    (t t' : FileTree Plaintext) : Prop where
  within : Within (home ++ [name]) t t'
  gone : reply = .ok () → ∀ q, home ++ [name] <+: q → t'.look q = none

/-- This holds once the folder is dropped, however that turns out. -/
structure Dropping (home : Path) (name : String)
    (after : List (FileEntry Plaintext) → FileTree Plaintext → Prop)
    (journal : List (FileEntry Plaintext)) (t : FileTree Plaintext) : Prop where
  linkless : t.Linkless home
  folder : t.isDir (home ++ [name])
  after : ∀ reply t', Dropped home name reply t t' →
    after (journal ++ [dropped (home ++ [name]) reply]) t'

theorem Dropping.attempts {name : String}
    {after : List (FileEntry Plaintext) → FileTree Plaintext → Prop}
    {error : ε → List (FileEntry Plaintext) → FileTree Plaintext → Prop}
    (dropping : Dropping home name after journal t) :
    (dropDir (home ++ [name])).Attempts (working sighted) (fun _ => after) error journal t := by
  have leads := dropping.linkless.leads
  refine attempts_dropDir (fun t' removed => ?_) fun e t' left => ?_
  · have parent : t.isDir home := isDir_of_look (q := [name]) (List.cons_ne_nil _ _) fun nothing => by
      cases nothing.symm.trans dropping.folder
    refine dropping.after (.ok ()) t' ⟨removeDirAll_within leads removed, fun _ q inside => ?_⟩
    cases (removeDirAll_eq leads parent dropping.folder).symm.trans removed
    obtain ⟨rest, rfl⟩ := inside
    rw [List.append_assoc, List.singleton_append]
    exact look_put_empty parent rest
  · refine dropping.after (.error e) t' ⟨?_, nofun⟩
    rcases left.elim Files.Change.MayLeave.removeDirAll .inl with
      rfl | ⟨place, removed, placed, -, -, rfl⟩
    · exact fun _ _ => rfl
    · cases (place_of_leads leads placed).1
      exact within_prune removed

/-- The body of a temporary directory runs in a new folder, which is dropped at the end. -/
theorem withTempDir_attempts {start : String} {body : Path → FileAction Plaintext ProfileError α}
    {ok : α → List (FileEntry Plaintext) → FileTree Plaintext → Prop}
    {error : ProfileError → List (FileEntry Plaintext) → FileTree Plaintext → Prop}
    (made : ∀ name t', name.startsWith start = true → t.createDir (home ++ [name]) = .ok t' →
      (body (home ++ [name])).Attempts (working sighted) (fun a => Dropping home name (ok a))
        (fun e => Dropping home name (error e))
        (journal ++ [⟨⟨.tempDirIn home start, false⟩, Except.ok (home ++ [name])⟩]) t')
    (failed : ∀ e, error (.write (display home) e.message)
      (journal ++ [⟨⟨.tempDirIn home start, false⟩, Except.error e⟩]) t) :
    (withTempDir home start body).Attempts (working sighted) ok error journal t := by
  refine attempts_bind.mpr (attempts_mapErr.mpr (attempts_tempDirIn ?_ failed))
  intro name t' begins created
  refine attempts_bind.mpr (attempts_outcome.mpr ((made name t' begins created).mono ?_ ?_))
  · exact fun a journal t dropping => attempts_bind.mpr dropping.attempts
  · exact fun e journal t dropping => attempts_bind.mpr dropping.attempts

/-- A backup is made beside everything else. -/
theorem createExtensionBundle_beside {Z : ZipFormat} {name : String} (direct : t.Linkless downloads) :
    (profile.createExtensionBundle P Z (downloads ++ [name])).Attempts (working sighted)
      (fun _ _ t' => Beside (downloads ++ [name]) t t')
      (fun _ _ t' => Beside (downloads ++ [name]) t t') journal t := by
  rw [createExtensionBundle, List.dropLast_concat]
  refine attempts_bind.mpr (attempts_mapErr.mpr (attempts_change (fun t₁ made => ?_)
    fun e t₁ left => ?_))
  swap
  · exact beside_of_paved (Files.Change.paved_of_createDirAll direct.dropLast (.inr left))
  have paved := Files.Change.paved_of_createDirAll direct.dropLast (.inl made)
  have beside : Beside (downloads ++ [name]) t t₁ := beside_of_paved paved
  refine attempts_bind.mpr (attempts_mapErr.mpr (attempts_change (fun t₂ created => ?_)
    fun e t₂ left => ?_))
  swap
  · cases left.elim (·.eq trivial) id
    exact beside
  have holding := holding_of_createNew beside (paved.linkless direct) created
  have giveUp {details : String} {journal : List (FileEntry Plaintext)} {t₃ : FileTree Plaintext}
      {content : Plaintext} (holding : Holding downloads name t t₃ content) :
      (do (change (.removeFile (downloads ++ [name]))).ignore
          throw (.archive (display (downloads ++ [name])) details) :
        FileAction Plaintext ProfileError ExtensionBundleDescriptor).Attempts (working sighted)
        (fun _ _ t' => Beside (downloads ++ [name]) t t')
        (fun _ _ t' => Beside (downloads ++ [name]) t t') journal t₃ := by
    refine attempts_bind.mpr (attempts_ignore.mpr (attempts_change (fun t₄ removed => ?_)
      fun e t₄ left => ?_))
    · exact holding.removeFile removed
    · cases left.elim (·.eq trivial) id
      exact holding.beside
  refine attempts_bind.mpr (attempts_mapErr.mpr (attempts_survey ?_ fun _ => holding.beside))
  refine attempts_bind.mpr (attempts_outcome.mpr (attempts_bind.mpr (attempts_mapErr.mpr
    (attempts_survey ?_ fun _ => giveUp holding))))
  refine attempts_bind.mpr (attempts_ofExcept.mpr ⟨fun bundle _ => ?_, fun _ _ => giveUp holding⟩)
  refine attempts_bind.mpr (attempts_mapErr.mpr (attempts_change (fun t₃ written => ?_)
    fun e t₃ left => ?_))
  swap
  · rcases left.elim Files.Change.MayLeave.writeAll .inl with rfl | ⟨part, written⟩
    · exact giveUp holding
    · exact giveUp (holding.overwrite written)
  have holding := holding.overwrite written
  refine attempts_bind.mpr (attempts_mapErr.mpr (attempts_change (fun t₄ synced => ?_)
    fun e t₄ left => ?_))
  · cases synced
    exact attempts_bind.mpr (attempts_mapErr.mpr (attempts_readFile (fun _ _ => holding.beside)
      fun _ => holding.beside))
  · cases left.elim (·.eq trivial) id
    exact giveUp holding

/-- Nothing that a restore leaves alone changed, but that something new is there, and no link. -/
def Akin (home root : Path) (w t : FileTree Plaintext) : Prop :=
  ∀ q, (∀ name, Temporary name ∨ name ∈ extensionDirectories ++ extensionPreferenceFiles →
      ¬ home ++ [name] <+: q) →
    (∀ name, isExtensionOrigin name = true → ¬ root ++ [name] <+: q) →
    t.look q = w.look q ∨ (w.look q = none ∧ ∀ target, t.look q ≠ some (.link target))

/-- The profile's `IndexedDB` leads to a directory through no entry that a restore replaces, and the
directory holds neither the profile nor the folder for backups in an origin of an extension. -/
structure Settled (profile : LocatedProfile) (downloads root : Path) (w : FileTree Plaintext) : Prop
    extends Situated profile downloads w where
  leads : ∀ t, Akin profile.path root w t → t.Leads (profile.path ++ ["IndexedDB"]) root
  names : ∀ name ∈ extensionDirectories ++ extensionPreferenceFiles,
    ¬ profile.path ++ [name] <+: root
  aside : w.isDir root ∨ ∀ name, Temporary name → ¬ profile.path ++ [name] <+: root
  above : ∀ name, isExtensionOrigin name = true →
    ¬ root ++ [name] <+: profile.path ∧ ¬ root ++ [name] <+: downloads

/-- A profile whose directory is there, none of whose replaced entries is reached through a symbolic
link or is one, and a folder for backups outside it. -/
structure Restorable (profile : LocatedProfile) (downloads : Path) (w : FileTree Plaintext) : Prop
    extends Situated profile downloads w where
  plain : ∀ r, IsTarget r → w.Linkless (profile.path ++ r)

theorem Restorable.indexedDb (restorable : Restorable profile downloads w) :
    w.Linkless (profile.path ++ ["IndexedDB"]) :=
  (restorable.plain _ (.inr ⟨"chrome-extension_", by decide +kernel, rfl⟩)).of_before
    ((List.prefix_append_right_inj _).mpr ⟨["chrome-extension_"], rfl⟩)

/-- Where no link is about, `IndexedDB` leads to itself. -/
theorem Restorable.settled (restorable : Restorable profile downloads w) :
    Settled profile downloads (profile.path ++ ["IndexedDB"]) w where
  toSituated := restorable.toSituated
  leads t akin := by
    have linkless : t.Linkless (profile.path ++ ["IndexedDB"]) := by
      intro q before target link
      have others : ∀ name, Temporary name ∨
          name ∈ extensionDirectories ++ extensionPreferenceFiles →
          ¬ profile.path ++ [name] <+: q := by
        intro name kind inside
        cases eq_of_prefix_concat (inside.trans before)
        rcases kind with temporary | listed
        · exact temporary.free List.mem_cons_self
        · exact absurd listed (by decide)
      have origins : ∀ name, isExtensionOrigin name = true →
          ¬ profile.path ++ ["IndexedDB"] ++ [name] <+: q := fun name _ inside =>
        absurd (inside.trans before).length_le (by simp)
      rcases akin q others origins with same | ⟨-, plain⟩
      · exact restorable.indexedDb q before target (same.symm.trans link)
      · exact plain target link
    exact linkless.leads
  names name listed before := by
    cases eq_of_prefix_concat before
    exact absurd listed (by decide)
  aside := .inr fun name temporary before => by
    cases eq_of_prefix_concat before
    exact temporary.free List.mem_cons_self
  above name _ := by
    refine ⟨fun before => absurd before.length_le (by simp), fun before => restorable.outside ?_⟩
    rw [List.append_assoc] at before
    exact (List.prefix_append _ _).trans before

section
variable {name copy : String} {active : List String} {hidden hidden' : String → Prop}
  {root backup q r : Path} {reply : Except IoError Unit}

theorem Akin.refl : Akin home root w w := fun _ _ _ => .inl rfl

theorem Akin.within (akin : Akin home root w t) (temporary : Temporary name)
    (within : Within (home ++ [name]) t t') : Akin home root w t' := by
  intro q others origins
  rw [within q (others name (.inl temporary))]
  exact akin q others origins

namespace Settled

theorem look_of_akin (settled : Settled profile downloads root w) (akin : Akin profile.path root w t)
    (before : q <+: profile.path) : t.look q = w.look q := by
  rcases akin q (fun _ _ => not_prefix_concat before) fun name origin inside =>
    (settled.above name origin).1 (inside.trans before) with same | ⟨absent, -⟩
  · exact same
  · exact absurd (look_of_before before absent) fun nothing => by
      cases nothing.symm.trans settled.home

theorem isDir_of_akin (settled : Settled profile downloads root w) (akin : Akin profile.path root w t) :
    t.isDir profile.path := (settled.look_of_akin akin List.prefix_rfl).trans settled.home

theorem linkless_of_akin (settled : Settled profile downloads root w) (akin : Akin profile.path root w t) :
    t.Linkless profile.path := fun q before target link =>
  settled.linkless q before target ((settled.look_of_akin akin before).symm.trans link)

/-- A new folder with a temporary name is apart from the directory of the origins. -/
theorem apart (settled : Settled profile downloads root w) (temporary : Temporary name)
    (absent : w.look (profile.path ++ [name]) = none) : Rooted.Apart profile.path root name where
  other := temporary.not_origin
  outside before := by
    rcases settled.aside with there | aside
    · cases (look_of_before before absent).symm.trans there
    · exact aside name temporary before

theorem rooted (settled : Settled profile downloads root w) (temporary : Temporary stage)
    (temporary' : Temporary rollback) (absent : w.look (profile.path ++ [stage]) = none)
    (absent' : w.look (profile.path ++ [rollback]) = none) :
    Rooted profile.path stage rollback root where
  names := settled.names
  stage := (settled.apart temporary absent).outside
  rollback := (settled.apart temporary' absent').outside
  above name origin := (settled.above name origin).1

/-- The place of a live target holds nothing of a temporary folder. -/
theorem not_prefix_slot (settled : Settled profile downloads root w) (temporary : Temporary name)
    (absent : w.look (profile.path ++ [name]) = none) (target : IsTarget r) (rest : Path) :
    ¬ profile.path ++ [name] <+: Area.live.slot profile.path stage rollback root r ++ rest := by
  intro inside
  have apart := settled.apart temporary absent
  rcases @Area.slot_cases profile.path stage rollback root .live r target with
    ⟨other, origin, -, -, slot⟩ | ⟨slot, -⟩ <;> rw [slot] at inside
  · rcases List.prefix_or_prefix_of_prefix inside (List.prefix_append _ rest) with before | before
    · exact apart.not_before origin before
    · exact (settled.rooted temporary temporary absent absent).not_before apart origin before
  · rw [List.append_assoc] at inside
    exact not_prefix_target temporary.free target inside

/-- What a live target's path names stands at its place. -/
theorem entry_eq (settled : Settled profile downloads root w) (akin : Akin profile.path root w t)
    (target : IsTarget r) :
    t.entry (profile.path ++ r) = t.get (Area.live.slot profile.path stage rollback root r) := by
  obtain ⟨folder, name, split⟩ := target.split
  rw [Laid.path_eq split, Area.slot_eq split]
  refine entry_of_leads ?_ name
  rcases folder with nothing | inside
  · rw [nothing, List.append_nil, Area.folder_nil]
    exact (settled.linkless_of_akin akin).leads
  · rw [inside, Area.folder, if_pos ⟨rfl, rfl⟩]
    exact settled.leads t akin

/-- Dropping a temporary folder leaves the live targets. -/
theorem entry_dropped (settled : Settled profile downloads root w) (akin : Akin profile.path root w t)
    (temporary : Temporary name) (absent : w.look (profile.path ++ [name]) = none)
    (drop : Dropped profile.path name reply t t') (target : IsTarget r) :
    t'.entry (profile.path ++ r) = t.entry (profile.path ++ r) := by
  have same : t'.get (Area.live.slot profile.path name name root r) =
      t.get (Area.live.slot profile.path name name root r) :=
    get_ext fun rest => drop.within _ (settled.not_prefix_slot temporary absent target rest)
  exact (settled.entry_eq (akin.within temporary drop.within) target).trans
    (same.trans (settled.entry_eq akin target).symm)

end Settled

theorem Leftover.append (left : Leftover home w journal name) (entry : FileEntry Plaintext) :
    Leftover home w (journal ++ [entry]) name :=
  ⟨left.temporary, left.absent, left.refused.imp fun _ => List.mem_append_left _⟩

/-- What is in no temporary folder after one was dropped. -/
theorem Dropped.look (drop : Dropped home name reply t t') (temporary : Temporary name)
    (absent : w.look (home ++ [name]) = none)
    (clear : Clear home (Hidden home w active (journal ++ [dropped (home ++ [name]) reply])) q) :
    (Clear home (Hidden home w (name :: active) journal) q ∧ t'.look q = t.look q) ∨
      (w.look q = none ∧ t'.look q = none) := by
  by_cases inside : home ++ [name] <+: q
  · match reply with
    | .error e =>
        refine absurd inside (clear name (.inr ⟨temporary, absent, e, ?_⟩))
        exact List.mem_append_right _ (List.mem_singleton.mpr rfl)
    | .ok () => exact .inr ⟨look_of_before inside absent, drop.gone rfl q inside⟩
  · refine .inl ⟨fun other covered before => ?_, drop.within q inside⟩
    rcases covered with member | left
    · rcases List.mem_cons.mp member with rfl | member
      · exact inside before
      · exact clear other (.inl member) before
    · exact clear other (.inr (left.append _)) before

/-- Nothing changed but in these folders, and on the way to the backup. -/
def Untouched (home backup : Path) (hidden : String → Prop) (w t : FileTree Plaintext) : Prop :=
  ∀ q, Clear home hidden q → t.look q = w.look q ∨
    (w.look q = none ∧ q <+: backup ∧ ∀ target, t.look q ≠ some (.link target))

namespace Untouched

theorem mono (untouched : Untouched home backup hidden w t)
    (more : ∀ name, hidden name → hidden' name) : Untouched home backup hidden' w t :=
  fun q clear => untouched q fun name covered => clear name (more name covered)

theorem beside (untouched : Untouched home backup hidden w t) (beside : Beside backup t t') :
    Untouched home backup hidden w t' := by
  intro q clear
  rcases beside q with same | ⟨absent, before, plain⟩
  · rw [same]
    exact untouched q clear
  · rcases untouched q clear with same | ⟨absent', -, -⟩
    · exact .inr ⟨same.symm.trans absent, before, plain⟩
    · exact .inr ⟨absent', before, plain⟩

theorem near (untouched : Untouched profile.path (downloads ++ [copy]) hidden w t)
    (situated : Situated profile downloads w) (clear : Clear profile.path hidden q)
    (near : q <+: profile.path ∨ profile.path <+: q) : t.look q = w.look q := by
  rcases untouched q clear with same | ⟨absent, before, -⟩
  · exact same
  · exact absurd before (not_before_backup situated.home situated.outside near absent)

theorem akin (untouched : Untouched home backup hidden w t)
    (temporary : ∀ name, hidden name → Temporary name) : Akin home root w t := by
  intro q others _
  exact (untouched q fun name covered => others name (.inl (temporary name covered))).imp_right
    fun ⟨absent, _, plain⟩ => ⟨absent, plain⟩

theorem drop (untouched : Untouched home backup (Hidden home w (name :: active) journal) w t)
    (temporary : Temporary name) (absent : w.look (home ++ [name]) = none)
    (drop : Dropped home name reply t t') :
    Untouched home backup (Hidden home w active (journal ++ [dropped (home ++ [name]) reply])) w t' := by
  intro q clear
  rcases drop.look temporary absent clear with ⟨clear, same⟩ | ⟨nothing, gone⟩
  · rw [same]
    exact untouched q clear
  · exact .inl (gone.trans nothing.symm)

/-- The live targets are as they were, if the backup is not named like an origin. -/
theorem get_slot (untouched : Untouched profile.path (downloads ++ [copy]) hidden w t)
    (settled : Settled profile downloads root w) (other : isExtensionOrigin copy ≠ true)
    (fresh : ∀ name, hidden name → Temporary name ∧ w.look (profile.path ++ [name]) = none)
    (target : IsTarget r) :
    t.get (Area.live.slot profile.path stage rollback root r) =
      w.get (Area.live.slot profile.path stage rollback root r) := by
  refine get_ext fun rest => ?_
  rcases untouched (Area.live.slot profile.path stage rollback root r ++ rest) fun name covered =>
    settled.not_prefix_slot (fresh name covered).1 (fresh name covered).2 target rest with
    same | ⟨absent, before, -⟩
  · exact same
  rcases @Area.slot_cases profile.path stage rollback root .live r target with
    ⟨name, origin, -, -, slot⟩ | ⟨slot, -⟩ <;> rw [slot] at absent before
  · rcases List.prefix_concat_iff.mp ((List.prefix_append _ rest).trans before) with same | inside
    · obtain ⟨-, same⟩ := List.append_inj' same rfl
      cases same
      exact absurd origin other
    · exact absurd inside (settled.above name origin).2
  · refine absurd before (not_before_backup settled.home settled.outside (.inr ?_) absent)
    exact (List.prefix_append _ r).trans (List.prefix_append _ rest)

end Untouched

/-- The stage is complete and nothing else changed; what no question was refused for is right. -/
structure Staged (P : Primitives C) (Z : ZipReader) (sighted : Prop) (home backup : Path)
    (stage : String) (entries : List ArchiveEntry) (w t : FileTree Plaintext) : Prop where
  folder : t.isDir (home ++ [stage])
  outside : Untouched home backup (· = stage) w t
  plain : ∀ q target, home ++ [stage] <+: q → t.look q ≠ some (.link target)
  admissible : Admissible Z entries
  unpacked : Unpacked (home ++ [stage] ++ ["profile"]) (payloadEntries Z entries) t
  renewed : sighted → ∀ fileName ∈ extensionPreferenceFiles, Renewed P entries fileName
    (w.look (home ++ [fileName])) (t.look (home ++ [stage] ++ ["profile"] ++ [fileName]))

theorem Staged.beside (staged : Staged P Z sighted profile.path (downloads ++ [copy]) stage entries w t)
    (outside : ¬ profile.path <+: downloads) (beside : Beside (downloads ++ [copy]) t t') :
    Staged P Z sighted profile.path (downloads ++ [copy]) stage entries w t' := by
  have home : t.isDir profile.path := isDir_of_look (q := [stage]) (List.cons_ne_nil _ _)
    fun nothing => by cases nothing.symm.trans staged.folder
  have inside (p : Path) : profile.path <+: profile.path ++ [stage] ++ p :=
    (List.prefix_append _ _).trans (List.prefix_append _ p)
  have inside' (p q : Path) : profile.path <+: profile.path ++ [stage] ++ p ++ q :=
    (inside p).trans (List.prefix_append _ q)
  have same (q : Path) (below : profile.path <+: q) : t'.look q = t.look q :=
    beside.near home outside (.inr below)
  refine ⟨?_, staged.outside.beside beside, ?_, staged.admissible, ⟨?_, ?_, ?_⟩, ?_⟩
  · exact (same _ (List.prefix_append _ _)).trans staged.folder
  · intro q target within
    rw [same q ((List.prefix_append _ _).trans within)]
    exact staged.plain q target within
  · exact (same _ (inside _)).trans staged.unpacked.folder
  · intro q within content
    rw [same _ (inside' _ q)]
    exact staged.unpacked.files q within content
  · intro q within
    rw [isDir, same _ (inside' _ q)]
    exact staged.unpacked.folders q within
  · intro asked fileName listed
    rw [same _ (inside' _ _)]
    exact staged.renewed asked fileName listed

theorem not_inside_preference : ∀ fileName ∈ extensionPreferenceFiles, ¬ Inside [fileName] := by
  rintro fileName listed ⟨first, listed', rest, same⟩
  cases same
  have apart : ∀ name ∈ extensionPreferenceFiles, name ∉ "IndexedDB" :: extensionDirectories := by
    decide
  exact apart fileName listed listed'

theorem aside_of_createDir (linkless : w.Linkless home) (created : w.createDir (home ++ [stage]) = .ok t) :
    Aside home stage w t ∧ w.look (home ++ [stage]) = none ∧
      ∀ name, t.look (home ++ [stage] ++ [name]) = none := by
  obtain ⟨parent, absent, rfl⟩ := createDir_ok linkless created
  refine ⟨⟨look_put parent folder [], fun q apart => look_put_of_apart _ apart, ?_⟩, absent, ?_⟩
  · rintro q target ⟨rest, rfl⟩ link
    rw [List.append_assoc, List.singleton_append, look_put parent] at link
    match rest with
    | [] => cases link
    | next :: rest => cases (congrArg kind (get_empty rest)).symm.trans link
  · intro name
    rw [List.append_assoc, List.singleton_append, look_put parent]
    rfl

theorem stagedFolder (linkless : w.Linkless home) (aside : Aside home stage w t)
    (created : t.createDir (home ++ [stage] ++ ["profile"]) = .ok t') :
    Aside home stage w t' ∧ Bare (home ++ [stage] ++ ["profile"]) t' ∧
      Unpacked (home ++ [stage] ++ ["profile"]) [] t' := by
  obtain ⟨parent, absent, rfl⟩ := createDir_ok (aside.linkless linkless List.prefix_rfl) created
  have nothing (name : String) (rest : Path) :
      (t.put (home ++ [stage] ++ ["profile"]) folder).look
        (home ++ [stage] ++ ["profile"] ++ name :: rest) = none := by
    rw [List.append_assoc (home ++ [stage]), List.singleton_append, look_put parent]
    exact congrArg kind (get_empty rest)
  refine ⟨aside.paved (List.prefix_append _ _) (paved_put List.prefix_rfl absent),
    fun name _ => nothing name [], look_put parent folder [], ?_, ?_⟩
  · rintro _ ⟨first, -, rest, rfl⟩ content
    rw [nothing]
    simp
  · rintro _ ⟨first, -, rest, rfl⟩
    rw [isDir, nothing]
    simp

/-- The profile after a restore that succeeds, these folders apart. -/
structure Restored (P : Primitives C) (Z : ZipReader) (home : Path) (hidden : String → Prop)
    (entries : List ArchiveEntry) (w t : FileTree Plaintext) : Prop where
  frame : ∀ q, home <+: q → Clear home hidden q → (∀ r, IsTarget r → ¬ home ++ r <+: q) →
    t.look q = w.look q ∨ (w.look q = none ∧ t.look q = some .dir ∧ q = home ++ ["IndexedDB"])
  files : ∀ r q, IsTarget r → r <+: q → Inside q → ∀ content,
    t.look (home ++ q) = some (.file content) ↔ (q, some content) ∈ payloadEntries Z entries
  folders : ∀ r q, IsTarget r → r <+: q → Inside q → (t.isDir (home ++ q) ↔
    ∃ p content, (p, content) ∈ payloadEntries Z entries ∧ q <+: p ∧ (q = p → content = none))
  plain : ∀ r q target, IsTarget r → r <+: q → t.look (home ++ q) ≠ some (.link target)
  preferences : ∀ fileName ∈ extensionPreferenceFiles,
    Renewed P entries fileName (w.look (home ++ [fileName])) (t.look (home ++ [fileName]))

/-- A new `IndexedDB` holds the data of an extension. -/
def Deserved (home : Path) (w t : FileTree Plaintext) : Prop :=
  t.look (home ++ ["IndexedDB"]) = w.look (home ++ ["IndexedDB"]) ∨
    ∃ name, isExtensionOrigin name = true ∧ t.look (home ++ ["IndexedDB", name]) ≠ none

theorem Deserved.drop (deserved : Deserved home w t) (temporary : Temporary name)
    (drop : Dropped home name reply t t') : Deserved home w t' := by
  have same (q : Path) : t'.look (home ++ "IndexedDB" :: q) = t.look (home ++ "IndexedDB" :: q) :=
    drop.within _ (not_prefix_indexedDb temporary.free)
  refine deserved.imp (fun kept => (same []).trans kept) ?_
  rintro ⟨origin, extension, there⟩
  exact ⟨origin, extension, by rwa [same [origin]]⟩

theorem Restored.drop (restored : Restored P Z home (Hidden home w (name :: active) journal) entries w t)
    (temporary : Temporary name) (absent : w.look (home ++ [name]) = none)
    (drop : Dropped home name reply t t') :
    Restored P Z home (Hidden home w active (journal ++ [dropped (home ++ [name]) reply])) entries w
      t' := by
  have same (r q : Path) (target : IsTarget r) (before : r <+: q) :
      t'.look (home ++ q) = t.look (home ++ q) := by
    obtain ⟨rest, rfl⟩ := before
    exact drop.within _ (not_prefix_target temporary.free target)
  refine ⟨fun q below clear outside => ?_, fun r q target before => ?_,
    fun r q target before => ?_, fun r q link target before => ?_, fun fileName listed => ?_⟩
  · rcases drop.look temporary absent clear with ⟨clear, same⟩ | ⟨nothing, gone⟩
    · rw [same]
      exact restored.frame q below clear outside
    · exact .inl (gone.trans nothing.symm)
  · rw [same r q target before]
    exact restored.files r q target before
  · rw [isDir, same r q target before]
    exact restored.folders r q target before
  · rw [same r q target before]
    exact restored.plain r q link target before
  · rw [same [fileName] _ (.inl ⟨fileName, List.mem_append_right _ listed, rfl⟩) List.prefix_rfl]
    exact restored.preferences fileName listed

/-- What was recorded of changes is so after another operation. -/
theorem changed_mem_concat {entry : FileEntry Plaintext} (other : ∀ c, entry.op.op ≠ .change c)
    {c : Files.Change Plaintext} {undo : Bool} {reply : Except IoError Unit} :
    changed c undo reply ∈ journal ++ [entry] ↔ changed c undo reply ∈ journal := by
  refine ⟨fun member => ?_, List.mem_append_left _⟩
  rcases List.mem_append.mp member with before | last
  · exact before
  · exact absurd (congrArg (·.op.op) (List.mem_singleton.mp last).symm) (other c)

theorem faulted_concat_of_accepted {entry : FileEntry Plaintext} (accepted : Accepted entry) :
    Faulted (journal ++ [entry]) ↔ Faulted journal := by
  constructor
  · rintro ⟨x, member, refused⟩
    rcases List.mem_append.mp member with before | last
    · exact ⟨x, before, refused⟩
    · exact absurd (List.mem_singleton.mp last ▸ refused) accepted
  · rintro ⟨x, member, refused⟩
    exact ⟨x, List.mem_append_left _ member, refused⟩

theorem Still.calm (still : Still journal) {was : Path → FileTree Plaintext} :
    ¬ Stranded home journal ∧ ¬ Overwrote home was journal :=
  ⟨fun ⟨_, _, _, _, out, _⟩ => still _ _ out, fun ⟨_, _, _, _, into, _⟩ => still _ _ into⟩

theorem Still.concat {entry : FileEntry Plaintext} (still : Still journal)
    (other : ∀ c, entry.op.op ≠ .change c) : Still (journal ++ [entry]) :=
  fun src dst member => still src dst ((changed_mem_concat other).mp member)

theorem Spoiled.concat {was now now' : Path → FileTree Plaintext} {entry : FileEntry Plaintext}
    (spoiled : Spoiled home was journal now) (other : ∀ c, entry.op.op ≠ .change c)
    (accepted : Accepted entry) (same : ∀ r, IsTarget r → now' r = now r) :
    Spoiled home was (journal ++ [entry]) now' := by
  have stranded : Stranded home (journal ++ [entry]) ↔ Stranded home journal := by
    simp only [Stranded, movedOut, changed_mem_concat other]
  have overwrote : Overwrote home was (journal ++ [entry]) ↔ Overwrote home was journal := by
    simp only [Overwrote, movedIn, movedOut, changed_mem_concat other]
  rw [Spoiled, stranded, overwrote, faulted_concat_of_accepted accepted]
  rcases spoiled with ⟨kept, fine⟩ | ⟨why, r, target, there, lost⟩
  · exact .inl ⟨fun r target => (same r target).trans (kept r target), fine⟩
  · exact .inr ⟨why, r, target, there, (same r target).trans lost⟩

theorem Spoiled.congr {was was' now now' : Path → FileTree Plaintext}
    (spoiled : Spoiled home was journal now) (same : ∀ r, IsTarget r → was' r = was r)
    (same' : ∀ r, IsTarget r → now' r = now r) : Spoiled home was' journal now' := by
  have overwrote : Overwrote home was' journal ↔ Overwrote home was journal := by
    simp only [Overwrote]
    refine exists_congr fun name => exists_congr fun r => and_congr_right fun target => ?_
    rw [same r target]
  rw [Spoiled, overwrote]
  rcases spoiled with ⟨kept, fine⟩ | ⟨why, r, target, there, lost⟩
  · refine .inl ⟨fun r target => ?_, fine⟩
    rw [same r target, same' r target]
    exact kept r target
  · refine .inr ⟨why, r, target, ?_, ?_⟩
    · rwa [same r target]
    · rwa [same' r target]

end

end HeliumSync.LocatedProfile
