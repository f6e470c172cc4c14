import HeliumSync.RestoreRun

/-! The outcomes of `restore_extension_bundle`: the profile restored, or the profile as it was, or a
target lost when a folder for it was refused or it was overwritten. -/
namespace HeliumSync.LocatedProfile
open Files FileTree
open Interaction (Action Prog)
open Interaction.Action (attempts_bind attempts_pure attempts_throw attempts_mapErr attempts_outcome
  attempts_ofExcept)

variable {C : Type} {P : Primitives C} {Z : ZipReader} {profile : LocatedProfile}
  {stage rollback unique copy : String} {archivePath downloads backup root : Path}
  {w t t' t₀ : FileTree Plaintext} {entries : List ArchiveEntry}
  {journal : List (FileEntry Plaintext)} {sighted : Prop}

/-- The tree with the stage complete and the rollback folder new. -/
structure Poised (profile : LocatedProfile) (stage rollback : String) (root : Path)
    (t t₀ : FileTree Plaintext) : Prop where
  ground : Ground profile.path stage rollback root t₀
  vacant : ∀ r, IsTarget r → initial profile.path stage rollback root t₀ .previous r = empty
  plain : StagedPlain (initial profile.path stage rollback root t₀)
  outside : ∀ q, ¬ profile.path ++ [rollback] <+: q → t₀.look q = t.look q
  absent : t.look (profile.path ++ [rollback]) = none

/-- The tree that the two folders are made in. -/
theorem akin_of_staged
    (staged : Staged P Z sighted profile.path (downloads ++ [copy]) stage entries w t)
    (temporary : Temporary stage) : Akin profile.path root w t :=
  staged.outside.akin fun _ same => by
    cases same
    exact temporary

/-- The replacement leaves alone what a restore leaves alone. -/
theorem akin_of_replaced
    (staged : Staged P Z sighted profile.path (downloads ++ [copy]) stage entries w t)
    (temporary : Temporary stage) (temporary' : Temporary rollback)
    (outside : ∀ q, ¬ profile.path ++ [rollback] <+: q → t₀.look q = t.look q)
    (later : ∀ q, (∀ (area : Area) r, IsTarget r →
        ¬ area.slot profile.path stage rollback root r <+: q) →
      t'.look q = t₀.look q ∨ (t₀.look q = none ∧ t'.look q = some .dir)) :
    Akin profile.path root w t' := by
  intro q others origins
  have apart : ∀ (area : Area) r, IsTarget r →
      ¬ area.slot profile.path stage rollback root r <+: q := by
    intro area r target inside
    rcases @Area.slot_cases profile.path stage rollback root area r target with
      ⟨name, origin, -, -, slot⟩ | ⟨slot, plain⟩ <;> rw [slot] at inside
    · exact origins name origin inside
    · cases area with
      | previous => exact others rollback (.inl temporary') ((List.prefix_append _ r).trans inside)
      | staged =>
          exact others stage (.inl temporary)
            (((List.prefix_append _ _).trans (List.prefix_append _ r)).trans inside)
      | live =>
          rcases target with ⟨name, listed, rfl⟩ | ⟨name, -, rfl⟩
          · exact others name (.inr listed) inside
          · cases plain rfl
  have akin : Akin profile.path root w t := akin_of_staged staged temporary
  have was := akin q others origins
  rw [← outside q (others rollback (.inl temporary'))] at was
  rcases later q apart with same | ⟨absent, made⟩
  · rwa [same]
  · rcases was with same | ⟨absent', -⟩
    · exact .inr ⟨same.symm.trans absent, fun target link => by cases made.symm.trans link⟩
    · exact .inr ⟨absent', fun target link => by cases made.symm.trans link⟩

theorem poised_of_createDir (settled : Settled profile downloads root w)
    (staged : Staged P Z sighted profile.path (downloads ++ [copy]) stage entries w t)
    (temporary : Temporary stage) (temporary' : Temporary rollback)
    (absent : w.look (profile.path ++ [stage]) = none)
    (created : t.createDir (profile.path ++ [rollback]) = .ok t₀) :
    Poised profile stage rollback root t t₀ := by
  have akin : Akin profile.path root w t := akin_of_staged staged temporary
  have home := settled.isDir_of_akin akin
  obtain ⟨-, vacant, rfl⟩ := createDir_ok (settled.linkless_of_akin akin) created
  have other : rollback ≠ stage := by
    rintro rfl
    cases vacant.symm.trans staged.folder
  have vacant' : w.look (profile.path ++ [rollback]) = none := by
    rw [← staged.outside.near settled.toSituated (fun name same before => other ?_)
      (.inr (List.prefix_append _ _))]
    · exact vacant
    · exact (eq_of_prefix_concat before).symm.trans same
  have outside : ∀ q, ¬ profile.path ++ [rollback] <+: q →
      (t.put (profile.path ++ [rollback]) folder).look q = t.look q :=
    fun q apart => look_put_of_apart _ apart
  have below : ∀ name rest, (t.put (profile.path ++ [rollback]) folder).look
      (profile.path ++ [rollback] ++ name :: rest) = none := by
    intro name rest
    rw [List.append_assoc, List.singleton_append, look_put home]
    exact congrArg kind (get_empty rest)
  have inStage : ∀ rest, (t.put (profile.path ++ [rollback]) folder).look
      (profile.path ++ [stage] ++ rest) = t.look (profile.path ++ [stage] ++ rest) := by
    intro rest
    rw [List.append_assoc, List.singleton_append]
    exact outside _ fun before => other
      (List.cons_prefix_cons.mp ((List.prefix_append_right_inj _).mp before)).1
  have linkless : (t.put (profile.path ++ [rollback]) folder).Linkless profile.path :=
    linkless_put folder (settled.linkless_of_akin akin)
  have stagePlain : ∀ rest target, (t.put (profile.path ++ [rollback]) folder).look
      (profile.path ++ [stage] ++ rest) ≠ some (.link target) := fun rest target link =>
    staged.plain _ target (List.prefix_append _ rest) ((inStage rest).symm.trans link)
  have rollbackDir : (t.put (profile.path ++ [rollback]) folder).isDir (profile.path ++ [rollback]) :=
    look_put home folder []
  have stageWay : (t.put (profile.path ++ [rollback]) folder).Linkless
      (profile.path ++ [stage] ++ ["profile"]) := by
    refine (linkless.concat fun target link => ?_).concat fun target link => ?_
    · exact stagePlain [] target (by rwa [List.append_nil])
    · exact stagePlain ["profile"] target link
  have fresh : Fresh stage rollback :=
    ⟨temporary.free, temporary'.free, other, temporary.not_origin, temporary'.not_origin⟩
  have ground : Ground profile.path stage rollback root
      (t.put (profile.path ++ [rollback]) folder) := by
    refine ⟨fresh, settled.rooted temporary temporary' absent vacant', fun area => ?_, fun area => ?_,
      fun area other => ?_, fun t' later =>
        settled.leads t' (akin_of_replaced staged temporary temporary' outside later)⟩
    · cases area with
      | live => exact (isDir_put_of_apart _ (not_prefix_concat List.prefix_rfl)).mpr home
      | previous => exact rollbackDir
      | staged => exact (inStage ["profile"]).trans staged.unpacked.folder
    · cases area with
      | live => exact linkless
      | previous => exact linkless.concat fun target link => by cases rollbackDir.symm.trans link
      | staged => exact stageWay
    · cases area with
      | live => exact absurd rfl other
      | previous =>
          refine (linkless.concat fun target link => ?_).concat fun target link => ?_
          · cases rollbackDir.symm.trans link
          · cases (below "IndexedDB" []).symm.trans link
      | staged =>
          refine stageWay.concat fun target link => ?_
          exact stagePlain ["profile", "IndexedDB"] target (by simpa [Area.base] using link)
  refine ⟨ground, fun r target => ?_, fun r target link => ?_, outside, vacant⟩
  · rw [initial, slot_previous target]
    obtain ⟨first, -, rest, rfl⟩ := target.head
    exact kind_eq_none_iff.mp (below first rest)
  · rw [initial, slot_staged target, List.append_assoc (profile.path ++ [stage])]
    exact stagePlain _ link

section
variable {held : Area → Path → FileTree Plaintext}

/-- What was near the profile is there still when the loops begin. -/
theorem Poised.look_near (poised : Poised profile stage rollback root t t₀)
    (situated : Situated profile downloads w)
    (staged : Staged P Z sighted profile.path (downloads ++ [copy]) stage entries w t) {q : Path}
    (near : q <+: profile.path ∨ profile.path <+: q) (apart : ¬ profile.path ++ [stage] <+: q)
    (apart' : ¬ profile.path ++ [rollback] <+: q) : t₀.look q = w.look q := by
  refine (poised.outside q apart').trans (staged.outside.near situated (fun name same => ?_) near)
  rwa [show name = stage from same]

/-- No link is about when the loops begin, if none was. -/
theorem Poised.livePlain (poised : Poised profile stage rollback root t t₀)
    (restorable : Restorable profile downloads w)
    (staged : Staged P Z sighted profile.path (downloads ++ [copy]) stage entries w t)
    (here : root = profile.path ++ ["IndexedDB"]) : LivePlain profile.path root t₀ where
  here := here
  direct q before target link := by
    have fresh := poised.ground.fresh
    refine restorable.indexedDb q before target (Eq.trans (Eq.symm ?_) link)
    refine poised.look_near restorable.toSituated staged ?_ (fun inside => ?_) fun inside => ?_
    · exact List.prefix_or_prefix_of_prefix before (List.prefix_append _ _)
    · cases eq_of_prefix_concat (inside.trans before)
      exact fresh.stageFree List.mem_cons_self
    · cases eq_of_prefix_concat (inside.trans before)
      exact fresh.rollbackFree List.mem_cons_self
  plain r target := by
    intro link found
    have fresh := poised.ground.fresh
    have apart {name : String} (free : name ∉ targetHeads) :
        ¬ profile.path ++ [name] <+: profile.path ++ r := by
      have apart : ¬ profile.path ++ [name] <+: profile.path ++ (r ++ []) :=
        not_prefix_target free target
      rwa [List.append_nil] at apart
    rw [poised.look_near restorable.toSituated staged (.inr (List.prefix_append _ r))
      (apart fresh.stageFree) (apart fresh.rollbackFree)] at found
    exact restorable.plain r target _ List.prefix_rfl link found

/-- What the replacement leaves in the profile when it succeeds and no question was refused. -/
theorem restored_of_laid (situated : Situated profile downloads w) (asked : sighted)
    (staged : Staged P Z sighted profile.path (downloads ++ [copy]) stage entries w t)
    (poised : Poised profile stage rollback root t t₀) (live : LivePlain profile.path root t₀)
    (laid : Laid profile.path stage rollback root t₀ t' held)
    (replaced : ∀ r, IsTarget r →
      held .live r = initial profile.path stage rollback root t₀ .staged r) :
    Restored P Z profile.path (Hidden profile.path w [rollback, stage] journal) entries w t' := by
  have fresh := poised.ground.fresh
  have same (r q : Path) (target : IsTarget r) (before : r <+: q) :
      t'.look (profile.path ++ q) = t.look (profile.path ++ [stage] ++ ["profile"] ++ q) := by
    obtain ⟨rest, rfl⟩ := before
    have moved := (laid.holds .live r target).trans (replaced r target)
    rw [initial, live.slot_live target, slot_staged target] at moved
    have seen := congrArg (fun x => x.look rest) moved
    simp only [look, ← get_append] at seen
    rw [← List.append_assoc, ← List.append_assoc]
    refine seen.trans (poised.outside _ fun before => ?_)
    rw [List.append_assoc, List.append_assoc, List.append_assoc,
      List.prefix_append_right_inj] at before
    exact fresh.other (List.cons_prefix_cons.mp before).1
  refine ⟨fun q below clear outside => ?_, fun r q target before => ?_,
    fun r q target before => ?_, fun r q link target before => ?_, fun fileName listed => ?_⟩
  · have apartRollback := clear rollback (.inl List.mem_cons_self)
    have apartStage := clear stage (.inl (List.mem_cons_of_mem _ List.mem_cons_self))
    have was := poised.look_near situated staged (.inr below) apartStage apartRollback
    have frame := laid.frame q fun area r target inside => by
      cases area with
      | live => exact outside r target (live.slot_live target ▸ inside)
      | previous =>
          rw [slot_previous target] at inside
          exact apartRollback ((List.prefix_append _ r).trans inside)
      | staged =>
          rw [slot_staged target] at inside
          exact apartStage (((List.prefix_append _ _).trans (List.prefix_append _ r)).trans inside)
    rw [was] at frame
    refine frame.imp_right ?_
    rintro ⟨absent, made, area, here⟩
    refine ⟨absent, made, ?_⟩
    cases area with
    | live => exact here
    | previous => exact absurd (here ▸ List.prefix_append _ _) apartRollback
    | staged =>
        exact absurd (here ▸ (List.prefix_append _ _).trans (List.prefix_append _ _)) apartStage
  · rw [same r q target before]
    exact staged.unpacked.files q
  · rw [isDir, same r q target before]
    exact staged.unpacked.folders q
  · rw [same r q target before]
    refine staged.plain _ link ?_
    rw [List.append_assoc]
    exact List.prefix_append _ _
  · rw [same [fileName] _ (.inl ⟨fileName, List.mem_append_right _ listed, rfl⟩) List.prefix_rfl]
    exact staged.renewed asked fileName listed

theorem deserved_of_earned (situated : Situated profile downloads w)
    (staged : Staged P Z sighted profile.path (downloads ++ [copy]) stage entries w t)
    (poised : Poised profile stage rollback root t t₀) (live : LivePlain profile.path root t₀)
    (laid : Laid profile.path stage rollback root t₀ t' held)
    (replaced : ∀ r, IsTarget r →
      held .live r = initial profile.path stage rollback root t₀ .staged r)
    (earned : Earned profile.path (initial profile.path stage rollback root t₀) t₀ t') :
    Deserved profile.path w t' := by
  have fresh := poised.ground.fresh
  have was : t₀.look (profile.path ++ ["IndexedDB"]) = w.look (profile.path ++ ["IndexedDB"]) :=
    poised.look_near situated staged (.inr (List.prefix_append _ _))
      (not_prefix_indexedDb fresh.stageFree) (not_prefix_indexedDb fresh.rollbackFree)
  refine earned.imp (fun same => same.trans was) ?_
  rintro ⟨r, target, inside, there⟩
  rcases id target with ⟨name, listed, rfl⟩ | ⟨name, origin, rfl⟩
  · cases inside
  · refine ⟨name, origin, fun nothing => there ?_⟩
    have found := laid.look_slot .live target
    rw [live.slot_live target, replaced _ target] at found
    exact kind_eq_none_iff.mp (found.symm.trans nothing)

/-- What a restore leaves alone is so, and the stage is there. -/
structure Standing (home root : Path) (stage : String) (w t : FileTree Plaintext) : Prop where
  akin : Akin home root w t
  folder : t.isDir (home ++ [stage])

theorem standing_of_laid
    (staged : Staged P Z sighted profile.path (downloads ++ [copy]) stage entries w t)
    (temporary : Temporary stage) (temporary' : Temporary rollback)
    (poised : Poised profile stage rollback root t t₀)
    (laid : Laid profile.path stage rollback root t₀ t' held) :
    Standing profile.path root stage w t' where
  akin := akin_of_replaced staged temporary temporary' poised.outside fun q apart =>
    (laid.frame q apart).imp_right fun ⟨absent, made, _⟩ => ⟨absent, made⟩
  folder := isDir_of_look (q := ["profile"]) (List.cons_ne_nil _ _) fun nothing => by
    cases nothing.symm.trans (laid.look_base poised.ground .staged)

theorem Standing.drop {home : Path} {name : String} {reply : Except IoError Unit}
    (standing : Standing home root stage w t) (temporary : Temporary name) (other : name ≠ stage)
    (drop : Dropped home name reply t t') : Standing home root stage w t' where
  akin := standing.akin.within temporary drop.within
  folder := (drop.within _ fun inside => other (eq_of_prefix_concat inside)).trans standing.folder

/-- How a restore fails: before anything moved, or in the loops. -/
def Failed (Z : ZipReader) (home root backup : Path) (hidden : String → Prop)
    (entries : List ArchiveEntry) (w : FileTree Plaintext) (journal : List (FileEntry Plaintext))
    (t : FileTree Plaintext) : Prop :=
  (Untouched home backup hidden w t ∧ Still journal) ∨
    (Admissible Z entries ∧ Akin home root w t ∧
      Spoiled home (fun r => w.entry (home ++ r)) journal fun r => t.entry (home ++ r))

theorem Failed.drop {name : String} {active : List String} {reply : Except IoError Unit}
    (settled : Settled profile downloads root w)
    (failed : Failed Z profile.path root backup (Hidden profile.path w (name :: active) journal)
      entries w journal t)
    (temporary : Temporary name) (absent : w.look (profile.path ++ [name]) = none)
    (drop : Dropped profile.path name reply t t') :
    Failed Z profile.path root backup
      (Hidden profile.path w active (journal ++ [dropped (profile.path ++ [name]) reply])) entries w
      (journal ++ [dropped (profile.path ++ [name]) reply]) t' := by
  rcases failed with ⟨untouched, still⟩ | ⟨admissible, akin, spoiled⟩
  · exact .inl ⟨untouched.drop temporary absent drop, still.concat (by nofun)⟩
  · refine .inr ⟨admissible, akin.within temporary drop.within,
      spoiled.concat (by nofun) (by rintro ⟨-, refused⟩; cases refused) fun r target => ?_⟩
    exact settled.entry_dropped akin temporary absent drop target

theorem spoiled_of_exit (settled : Settled profile downloads root w)
    (staged : Staged P Z sighted profile.path (downloads ++ [copy]) stage entries w t)
    (temporary : Temporary stage) (temporary' : Temporary rollback)
    (absent : w.look (profile.path ++ [stage]) = none)
    (absent' : w.look (profile.path ++ [rollback]) = none)
    (other : isExtensionOrigin copy ≠ true) (poised : Poised profile stage rollback root t t₀)
    (exit : Exit profile.path stage rollback root t₀ journal t') :
    ∃ held, Laid profile.path stage rollback root t₀ t' held ∧
      Spoiled profile.path (fun r => w.entry (profile.path ++ r)) journal
        fun r => t'.entry (profile.path ++ r) := by
  obtain ⟨held, laid, spoiled⟩ := exit
  have standing := standing_of_laid staged temporary temporary' poised laid
  refine ⟨held, laid, spoiled.congr (fun r target => ?_) fun r target => ?_⟩
  · have before : t.get (Area.live.slot profile.path stage rollback root r) =
        w.get (Area.live.slot profile.path stage rollback root r) :=
      staged.outside.get_slot settled other (fun name same => same ▸ ⟨temporary, absent⟩) target
    have start : initial profile.path stage rollback root t₀ .live r =
        t.get (Area.live.slot profile.path stage rollback root r) := get_ext fun rest =>
      poised.outside _ (settled.not_prefix_slot temporary' absent' target rest)
    exact (settled.entry_eq Akin.refl target).trans (before.symm.trans start.symm)
  · exact (settled.entry_eq standing.akin target).trans (laid.holds .live r target)

/-- An error before the replacement. -/
theorem early_of_untouched (temporary : Temporary stage)
    (untouched : Untouched profile.path backup (· = stage) w t)
    (folder : t.isDir (profile.path ++ [stage])) (quiet : Quiet profile.path stage journal) :
    Standing profile.path root stage w t ∧
      Failed Z profile.path root backup (Hidden profile.path w [stage] journal) entries w journal t :=
  ⟨⟨untouched.akin fun _ same => same ▸ temporary, folder⟩,
    .inl ⟨untouched.mono fun _ same => .inl (List.mem_singleton.mpr same), quiet.still⟩⟩

theorem early_of_aside (temporary : Temporary stage) (aside : Aside profile.path stage w t)
    (quiet : Quiet profile.path stage journal) :
    Standing profile.path root stage w t ∧
      Failed Z profile.path root backup (Hidden profile.path w [stage] journal) entries w journal t :=
  early_of_untouched temporary (fun q clear => .inl (aside.outside q (clear stage rfl))) aside.folder
    quiet

/-- What a restore that succeeds leaves, with these temporary folders in use. -/
def Succeeded (P : Primitives C) (Z : ZipReader) (sighted : Prop) (home : Path) (active : List String)
    (entries : List ArchiveEntry) (w : FileTree Plaintext) (journal : List (FileEntry Plaintext))
    (t : FileTree Plaintext) : Prop :=
  Admissible Z entries ∧
    (sighted → Restored P Z home (Hidden home w active journal) entries w t ∧ Deserved home w t)

theorem Succeeded.drop {home : Path} {name : String} {active : List String}
    {reply : Except IoError Unit}
    (succeeded : Succeeded P Z sighted home (name :: active) entries w journal t)
    (temporary : Temporary name) (absent : w.look (home ++ [name]) = none)
    (drop : Dropped home name reply t t') :
    Succeeded P Z sighted home active entries w (journal ++ [dropped (home ++ [name]) reply]) t' :=
  ⟨succeeded.1, fun asked => ⟨(succeeded.2 asked).1.drop temporary absent drop,
    (succeeded.2 asked).2.drop temporary drop⟩⟩

/-- The replacement with its rollback folder. -/
theorem replacing_attempts (settled : Settled profile downloads root w)
    (plain : sighted → Restorable profile downloads w ∧ root = profile.path ++ ["IndexedDB"])
    (staged : Staged P Z sighted profile.path (downloads ++ [copy]) stage entries w t)
    (temporary : Temporary stage) (absent : w.look (profile.path ++ [stage]) = none)
    (other : isExtensionOrigin copy ≠ true) (quiet : Quiet profile.path stage journal) :
    (withTempDir profile.path ".helium-sync-extension-rollback-"
      (replaceTargets profile.path (profile.path ++ [stage] ++ ["profile"]) backup)).Attempts
      (working sighted)
      (fun _ journal t' => Standing profile.path root stage w t' ∧
        Succeeded P Z sighted profile.path [stage] entries w journal t')
      (fun _ journal t' => Standing profile.path root stage w t' ∧
        Failed Z profile.path root (downloads ++ [copy]) (Hidden profile.path w [stage] journal)
          entries w journal t') journal t := by
  refine withTempDir_attempts (fun rollback t₀ begins created => ?_) fun e =>
    early_of_untouched temporary staged.outside staged.folder (quiet.reading (by nofun))
  have temporary' : Temporary rollback := .inr begins
  have poised := poised_of_createDir settled staged temporary temporary' absent created
  have fresh := poised.ground.fresh
  have absent' : w.look (profile.path ++ [rollback]) = none := by
    rw [← staged.outside.near settled.toSituated (fun name same before => fresh.other ?_)
      (.inr (List.prefix_append _ _))]
    · exact poised.absent
    · exact (eq_of_prefix_concat before).symm.trans same
  have dropping {held : Area → Path → FileTree Plaintext}
      {after : List (FileEntry Plaintext) → FileTree Plaintext → Prop}
      {journal : List (FileEntry Plaintext)} {t' : FileTree Plaintext}
      (laid : Laid profile.path stage rollback root t₀ t' held)
      (later : ∀ reply t'', Dropped profile.path rollback reply t' t'' →
        after (journal ++ [dropped (profile.path ++ [rollback]) reply]) t'') :
      Dropping profile.path rollback (fun journal t => Standing profile.path root stage w t ∧
        after journal t) journal t' :=
    have standing := standing_of_laid staged temporary temporary' poised laid
    ⟨settled.linkless_of_akin standing.akin, laid.look_base poised.ground .previous,
      fun reply t'' drop => ⟨standing.drop temporary' fresh.other drop, later reply t'' drop⟩⟩
  refine (replaceTargets_attempts poised.ground poised.plain (fun asked => poised.livePlain
    (plain asked).1 staged (plain asked).2) poised.vacant
      ((quiet.reading (by nofun)).tracked fresh.other)).mono ?_ ?_
  · rintro _ journal t' ⟨earned, held, laid, replaced⟩
    refine dropping laid fun reply t'' drop =>
      Succeeded.drop ⟨staged.admissible, fun asked => ?_⟩ temporary' absent' drop
    have live := poised.livePlain (plain asked).1 staged (plain asked).2
    exact ⟨restored_of_laid settled.toSituated asked staged poised live laid (replaced asked),
      deserved_of_earned settled.toSituated staged poised live laid (replaced asked) earned⟩
  · rintro _ journal t' exit
    obtain ⟨held, laid, spoiled⟩ :=
      spoiled_of_exit settled staged temporary temporary' absent absent' other poised exit
    refine dropping laid fun reply t'' drop => Failed.drop settled ?_ temporary' absent' drop
    exact .inr ⟨staged.admissible,
      (standing_of_laid staged temporary temporary' poised laid).akin, spoiled⟩

end

theorem staged_of_unpacked (aside : Aside profile.path stage w t) (admissible : Admissible Z entries)
    (unpacked : Unpacked (profile.path ++ [stage] ++ ["profile"]) (payloadEntries Z entries) t')
    (folder : t.isDir (profile.path ++ [stage] ++ ["profile"]))
    (renewed : sighted → ∀ fileName ∈ extensionPreferenceFiles, Renewed P entries fileName
      (w.look (profile.path ++ [fileName]))
      (t.look (profile.path ++ [stage] ++ ["profile"] ++ [fileName])))
    (kept : ∀ q, (∀ fileName ∈ extensionPreferenceFiles,
      ¬ profile.path ++ [stage] ++ ["profile"] ++ [fileName] <+: q) → t.look q = t'.look q) :
    Staged P Z sighted profile.path backup stage entries w t := by
  have same (q : Path) (inside : Inside q) :
      t.look (profile.path ++ [stage] ++ ["profile"] ++ q) =
        t'.look (profile.path ++ [stage] ++ ["profile"] ++ q) :=
    kept _ fun fileName listed before => not_prefix_inside inside
      (not_inside_preference fileName listed) ((List.prefix_append_right_inj _).mp before)
  refine ⟨aside.folder, fun q clear => .inl (aside.outside q (clear stage rfl)), aside.plain,
    admissible, ⟨folder, fun q inside content => ?_, fun q inside => ?_⟩, renewed⟩
  · rw [same q inside]
    exact unpacked.files q inside content
  · rw [isDir, same q inside]
    exact unpacked.folders q inside

/-- A backup is not named like an origin. -/
theorem extensionBackup_not_origin {safe : String} :
    isExtensionOrigin (s!"Helium-Sync-{safe}" ++ s!"-extensions-before-load-{unique}.zip") ≠ true := by
  rw [isExtensionOrigin, ne_eq, String.startsWith_string_iff]
  rintro ⟨rest, same⟩
  simp [toString] at same

/-- A restore with its stage made. -/
theorem restoreStaged_attempts (settled : Settled profile downloads root w)
    (plain : sighted → Restorable profile downloads w ∧ root = profile.path ++ ["IndexedDB"])
    (temporary : Temporary stage) (created : w.createDir (profile.path ++ [stage]) = .ok t)
    (quiet : Quiet profile.path stage journal) :
    (restoreStaged P Z profile entries downloads unique (profile.path ++ [stage])).Attempts
      (working sighted)
      (fun _ journal t' => Standing profile.path root stage w t' ∧
        Succeeded P Z sighted profile.path [stage] entries w journal t')
      (fun _ journal t' => Standing profile.path root stage w t' ∧
        Failed Z profile.path root (profile.extensionBackupPath downloads unique)
          (Hidden profile.path w [stage] journal) entries w journal t') journal t := by
  obtain ⟨aside, absent, -⟩ := aside_of_createDir settled.linkless created
  have linkless := settled.linkless
  have inside : profile.path ++ [stage] <+: profile.path ++ [stage] ++ ["profile"] :=
    List.prefix_append _ _
  refine attempts_bind.mpr ((quietly (t := t) (p := fun _ _ t' => Aside profile.path stage w t' ∧
      Bare (profile.path ++ [stage] ++ ["profile"]) t' ∧
      Unpacked (profile.path ++ [stage] ++ ["profile"]) [] t')
    (q := fun _ _ t' => Aside profile.path stage w t')
    (Interaction.Action.issues_mapErr (issues_change (quiet_of_atomic (by simp) (by simp))))
    (attempts_mapErr.mpr (attempts_change (c := .createDir _)
      (fun t' made => stagedFolder linkless aside made) fun e t' left => ?_)) quiet).mono ?_
        fun _ _ _ ⟨aside, quiet⟩ => early_of_aside temporary aside quiet)
  · cases left.elim (·.eq trivial) id
    exact aside
  rintro _ journal t₁ ⟨⟨aside, bare, unpacked⟩, quiet⟩
  refine attempts_bind.mpr ((quietly (extractExtensionPayload_issues inside)
    (extractExtensionPayload_attempts linkless inside aside bare unpacked) quiet).mono ?_
      fun _ _ _ ⟨aside, quiet⟩ => early_of_aside temporary aside quiet)
  rintro _ journal t₂ ⟨⟨aside, bare, unpacked, admissible⟩, quiet⟩
  have others : ∀ fileName ∈ extensionPreferenceFiles, fileName ≠ stage := by
    rintro _ listed rfl
    exact temporary.free (List.mem_cons_of_mem _ (List.mem_append_right _ listed))
  refine attempts_bind.mpr ((quietly stagePreferenceFiles_issues (stagePreferenceFiles_attempts
    linkless inside others (by decide) (fun asked fileName listed target link =>
      (plain asked).1.plain [fileName] (.inl ⟨fileName, List.mem_append_right _ listed, rfl⟩) _
        List.prefix_rfl target link)
    aside unpacked.folder fun fileName listed => bare _ (not_inside_preference fileName listed))
    quiet).mono ?_ fun _ _ _ ⟨aside, quiet⟩ => early_of_aside temporary aside quiet)
  rintro _ journal t₃ ⟨⟨aside, folder, renewed, kept⟩, quiet⟩
  have staged : Staged P Z sighted profile.path (profile.extensionBackupPath downloads unique) stage
      entries w t₃ := staged_of_unpacked aside admissible unpacked folder renewed kept
  have direct : t₃.Linkless downloads := fun q before target link =>
    settled.direct q before target ((aside.outside q fun within => settled.outside
      (((List.prefix_append _ _).trans within).trans before)).symm.trans link)
  have early {journal : List (FileEntry Plaintext)} {t' : FileTree Plaintext}
      (staged : Staged P Z sighted profile.path (profile.extensionBackupPath downloads unique) stage
        entries w t') (quiet : Quiet profile.path stage journal) :
      Standing profile.path root stage w t' ∧ Failed Z profile.path root
        (profile.extensionBackupPath downloads unique) (Hidden profile.path w [stage] journal) entries
          w journal t' := early_of_untouched temporary staged.outside staged.folder quiet
  refine attempts_bind.mpr ((quietly (p := fun _ _ t' => Paved downloads t₃ t')
    (q := fun _ _ t' => Paved downloads t₃ t')
    (Interaction.Action.issues_mapErr (issues_change (quiet_createDirAll (.inr settled.outside))))
    (attempts_mapErr.mpr (attempts_change
      (fun t' made => Files.Change.paved_of_createDirAll direct.dropLast (.inl made))
      fun e t' left => Files.Change.paved_of_createDirAll direct.dropLast (.inr left))) quiet).mono ?_
    fun _ _ _ ⟨paved, quiet⟩ => early (staged.beside settled.outside (beside_of_paved paved)) quiet)
  rintro _ journal t₄ ⟨paved, quiet⟩
  have staged := staged.beside settled.outside (beside_of_paved paved)
  have below : ¬ profile.path <+: (profile.extensionBackupPath downloads unique).dropLast := by
    simp only [extensionBackupPath, List.dropLast_concat]
    exact settled.outside
  refine attempts_bind.mpr ((quietly (createExtensionBundle_issues below)
    (createExtensionBundle_beside (paved.linkless direct)) quiet).mono ?_
    fun _ _ _ ⟨beside, quiet⟩ => early (staged.beside settled.outside beside) quiet)
  rintro _ journal t₅ ⟨beside, quiet⟩
  exact replacing_attempts settled plain (staged.beside settled.outside beside) temporary absent
    extensionBackup_not_origin quiet

/-- The archive that is read holds these entries. -/
def Brings (P : Primitives C) (Z : ZipReader) (archivePath : Path) (w : FileTree Plaintext)
    (entries : List ArchiveEntry) : Prop :=
  ∃ archive, w.read archivePath = .ok archive ∧ Z.unpack (P.plainBytes archive) = .ok entries

theorem Brings.eq {entries' : List ArchiveEntry} (brings : Brings P Z archivePath w entries)
    (brings' : Brings P Z archivePath w entries') : entries = entries' := by
  obtain ⟨archive, read, opened⟩ := brings
  obtain ⟨archive', read', opened'⟩ := brings'
  cases read.symm.trans read'
  cases opened.symm.trans opened'
  rfl

/-- A restore ends with the profile restored, or fails before the replacement or in it. -/
theorem restoreExtensionBundle_attempts (settled : Settled profile downloads root w)
    (plain : sighted → Restorable profile downloads w ∧ root = profile.path ++ ["IndexedDB"]) :
    (profile.restoreExtensionBundle P Z archivePath downloads unique).Attempts (working sighted)
      (fun _ journal t => ∃ entries, Brings P Z archivePath w entries ∧
        Succeeded P Z sighted profile.path [] entries w journal t)
      (fun _ journal t =>
        (Untouched profile.path (profile.extensionBackupPath downloads unique)
            (Hidden profile.path w [] journal) w t ∧ Still journal) ∨
          ∃ entries, Brings P Z archivePath w entries ∧ Admissible Z entries ∧
            Akin profile.path root w t ∧ Spoiled profile.path (fun r => w.entry (profile.path ++ r))
              journal fun r => t.entry (profile.path ++ r)) [] w := by
  have untouched (hidden : String → Prop) : Untouched profile.path
      (profile.extensionBackupPath downloads unique) hidden w w := fun _ _ => .inl rfl
  have start : Quiet profile.path "" ([] : List (FileEntry Plaintext)) := nofun
  refine attempts_bind.mpr (attempts_mapErr.mpr (attempts_readFile (fun archive read => ?_) fun e => ?_))
  swap
  · exact .inl ⟨untouched _, (start.reading (by nofun)).still⟩
  have idle := start.reading (x := ⟨⟨.read archivePath, false⟩, Except.ok archive⟩) (by nofun)
  refine attempts_bind.mpr (attempts_ofExcept.mpr ⟨fun entries opened => ?_,
    fun _ _ => .inl ⟨untouched _, idle.still⟩⟩)
  refine attempts_bind.mpr (attempts_ofExcept.mpr ⟨fun metadata _ => ?_,
    fun _ _ => .inl ⟨untouched _, idle.still⟩⟩)
  have opened : Z.unpack (P.plainBytes archive) = .ok entries := by
    cases unpacked : Z.unpack (P.plainBytes archive) with
    | ok entries' =>
        rw [unpacked] at opened
        cases opened
        rfl
    | error e =>
        rw [unpacked] at opened
        cases opened
  have brings : Brings P Z archivePath w entries := ⟨archive, read, opened⟩
  refine attempts_bind.mpr (withTempDir_attempts (fun stage t begins created => ?_) fun e => ?_)
  · have temporary : Temporary stage := .inl begins
    obtain ⟨-, absent, -⟩ := aside_of_createDir settled.linkless created
    refine (restoreStaged_attempts settled plain temporary created ?_).mono ?_ ?_
    · exact (Quiet.reading (by nofun) (by nofun)).reading (by nofun)
    · rintro _ journal t' ⟨standing, succeeded⟩
      exact ⟨settled.linkless_of_akin standing.akin, standing.folder, fun reply t'' drop =>
        ⟨entries, brings, succeeded.drop temporary absent drop⟩⟩
    · rintro _ journal t' ⟨standing, failed⟩
      refine ⟨settled.linkless_of_akin standing.akin, standing.folder, fun reply t'' drop => ?_⟩
      exact (Failed.drop settled failed temporary absent drop).imp_right fun spoiled =>
        ⟨entries, brings, spoiled⟩
  · exact .inl ⟨untouched _, ((start.reading (by nofun)).reading (by nofun)).still⟩

end HeliumSync.LocatedProfile
