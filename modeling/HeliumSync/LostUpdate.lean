import HeliumSync.CommandRules
import HeliumSync.MergeLaw
import HeliumSync.Reference
import HeliumSync.System

/-! Bookmark syncs of many devices on one server object: no accepted revision is lost. -/
namespace HeliumSync
open Interaction

variable {ι C : Type} [DecidableEq ι] (P : Primitives C) (session : ι → Session)

/-- Devices that run the bookmark part of `sync_profile_with_server`. A command is given the
outcome of the extension part before it. -/
def bookmarkSystem : System ι ExtensionSyncOutcome (Except String SyncFeedback) (World ι C) Choice
    (Op C) (Reply C) where
  exec := World.exec P
  program i extensions := ((session i).syncBookmarks P extensions).run
  edit := World.edit P

/-- Every device is mapped to the object. -/
def Mapped (id : ObjectId) (w : World ι C) : Prop :=
  ∀ i, ∃ mapping, (w.device i).state.mappings (session i).bookmarkKey = some mapping ∧
    mapping.objectId = id

/-- The new revision holds the merge of the device's base, its bookmarks and the old revision. -/
def MergesInto (session : Session) (device : ClientDevice C) (id : ObjectId)
    (old new : ObjectRow C) : Prop :=
  ∃ content base loc remote merged, device.bookmarks = some content ∧
    parseBookmarks P session.profile content = .ok loc ∧
    session.openedBase P (device.state.syncBases session.bookmarkKey) = .ok base ∧
    RowReads P session.core.masterKey readSnapshot id old remote ∧
    mergeBookmarks base loc remote = .ok merged ∧
    RowOpens P session.core.masterKey id new (.json (writeSnapshot merged.snapshot)) ∧
    new.revision.val = old.revision.val + 1

/-- A put that was answered by an error. -/
def Refused : Entry (Op C) (Reply C) → Prop
  | ⟨.putObject _ _, .error _⟩ => True
  | _ => False

def Rejected (journal : Journal C) : Prop := ∃ entry ∈ journal, Refused entry

@[simp] theorem rejected_nil : ¬ Rejected ([] : Journal C) := nofun

@[simp] theorem rejected_append {journal entries : Journal C} :
    Rejected (journal ++ entries) ↔ Rejected journal ∨ Rejected entries := by
  simp only [Rejected, List.mem_append, or_and_right, exists_or]

@[simp] theorem rejected_cons {entry : Entry (Op C) (Reply C)} {entries : Journal C} :
    Rejected (entry :: entries) ↔ Refused entry ∨ Rejected entries := by simp [Rejected]

theorem not_rejected_of_continues {journal journal' : Journal C}
    (continues : Continues journal journal') (clean : ¬ Rejected journal) : ¬ Rejected journal' := by
  obtain ⟨entries, rfl, observe⟩ := continues
  rw [rejected_append, not_or]
  refine ⟨clean, ?_⟩
  rintro ⟨⟨op, reply⟩, member, refused⟩
  have reads : op.Observes := observe _ member
  cases op <;> first | exact reads.elim | exact refused.elim

/-- What a device may rely on, keeps and owes while it syncs. -/
def bookmarkDiscipline (id : ObjectId) : Discipline (bookmarkSystem P session) .none where
  inv := Mapped session id
  rely i w w' := w'.device i = w.device i ∧ w.server.Advances w'.server
  guar i _ start journal op w reply w' :=
    (w'.server.objects id = w.server.objects id ∨
      ∃ old new, w.server.objects id = some old ∧ w'.server.objects id = some new ∧
        MergesInto P (session i) (w.device i) id old new) ∧
    (Rejected journal → w'.device i = w.device i) ∧
    (Refused ⟨op, reply⟩ → w'.device i = start.device i)
  post _ _ _ _ _ _ := True

theorem bookmarkDiscipline_serves (id : ObjectId) (i : ι) (extensions : ExtensionSyncOutcome)
    (start : World ι C) :
    Serves P i (fun w => w) ((bookmarkDiscipline P session id).contract i extensions start) where
  exec ran := ran
  still _ same := same
  quiet {journal op w reply} observes _ := by
    refine ⟨.inl rfl, fun _ => rfl, fun refused => ?_⟩
    cases op <;> first | exact observes.elim | exact refused.elim
  trans first later := ⟨later.1.trans first.1, first.2.trans later.2⟩

variable {P session}

/-- A step that touches neither the object nor, after a rejection, the device. -/
theorem bookmarkDiscipline_guar {id : ObjectId} {i : ι} {extensions : ExtensionSyncOutcome}
    {start w w' : World ι C} {journal : Journal C} {op : Op C} {reply : Reply C op}
    (clean : ¬ Rejected journal) (same : w'.server = w.server)
    (entry : ¬ Refused (⟨op, reply⟩ : Entry (Op C) (Reply C))) :
    ((bookmarkDiscipline P session id).contract i extensions start).guar journal op w reply w' :=
  ⟨.inl (by rw [same]), fun rejected => absurd rejected clean, fun refused => absurd refused entry⟩

omit [DecidableEq ι] in
theorem mapped_of_states {id : ObjectId} {w w' : World ι C} (mapped : Mapped session id w)
    (same : ∀ i, (w'.device i).state = (w.device i).state) : Mapped session id w' :=
  fun i => by rw [same i]; exact mapped i

theorem mapped_of_persisted {id : ObjectId} {w : World ι C} (mapped : Mapped session id w) {i : ι}
    {object : ObjectMapping} (same : object.objectId = id) {base : EncryptedEnvelopeV1 C} :
    Mapped session id (w.setDevice i
      (Serves.persisted (session i).bookmarkKey object base (w.device i))) := fun j => by
  by_cases here : j = i
  · subst here
    exact ⟨object, by simp [Serves.persisted], same⟩
  · rw [World.setDevice_of_ne _ _ here]
    exact mapped j

/-- After an accepted upload, or none, a sync only writes to its own device. -/
theorem bookmarkDiscipline_settles (id : ObjectId) (i : ι) (extensions : ExtensionSyncOutcome)
    (start : World ι C) {loc merged : BookmarkSnapshotV1} {proof : SyncProof}
    (object : proof.objectId = id) {feedback : Option String → String → SyncFeedback}
    {journal : Journal C} (clean : ¬ Rejected journal) (w : World ι C) :
    Action.Attempts ((bookmarkDiscipline P session id).contract i extensions start)
      (fun _ _ _ => True) (fun _ _ _ => True) (do
        let backupPath ← (session i).restoreMerged P loc merged
        (session i).persistSyncState P merged proof
        let name ← (session i).profileName
        return feedback backupPath name) journal w := by
  have serves := bookmarkDiscipline_serves P session id i extensions start
  have persists (path : Option String) (journal : Journal C) (w : World ι C)
      (clean : ¬ Rejected journal) :
      Action.Attempts ((bookmarkDiscipline P session id).contract i extensions start)
        (fun _ _ _ => True) (fun _ _ _ => True) (do
          (session i).persistSyncState P merged proof
          let name ← (session i).profileName
          return feedback path name) journal w := by
    refine Action.attempts_bind.mpr (serves.persist
      (fun w₀ s w₁ w₂ envelope _ _ _ mapped _ written => ?_)
      (fun w₀ s w₁ envelope choice e _ _ _ _ _ _ _ => ⟨?_, trivial⟩) fun _ _ _ _ _ _ _ => trivial)
    · subst written
      refine ⟨mapped_of_persisted mapped object,
        bookmarkDiscipline_guar (by simpa [Refused] using clean) rfl nofun, ?_⟩
      exact Action.attempts_bind.mpr (serves.profileName (fun _ _ _ _ _ => trivial)
        fun _ _ _ _ _ => trivial)
    · exact bookmarkDiscipline_guar (by simpa [Refused] using clean) rfl nofun
  refine Action.attempts_bind.mpr (serves.restoreMerged (fun _ => persists none journal w clean)
    (fun _ _ _ => trivial) (fun _ w₁ w₂ path _ mapped _ written => ?_)
    fun _ w₁ w₂ choice e _ mapped _ _ outcome => ?_)
  · subst written
    exact ⟨mapped_of_states mapped (World.setDevice_state rfl), bookmarkDiscipline_guar clean rfl nofun,
      persists _ _ _ (by simpa [Refused] using clean)⟩
  · rcases outcome with rfl | ⟨file, rfl, _⟩
    · exact ⟨mapped, bookmarkDiscipline_guar clean rfl nofun, trivial⟩
    · exact ⟨mapped_of_states mapped (World.setDevice_state rfl),
        bookmarkDiscipline_guar clean rfl nofun, trivial⟩

/-- The upload of a sync replaces the revision that it merged with. -/
theorem bookmarkDiscipline_upload {id : ObjectId} {i : ι} {extensions : ExtensionSyncOutcome}
    {start w : World ι C} {content : Plaintext} {base : Option BookmarkSnapshotV1}
    {loc remote : BookmarkSnapshotV1} {merged : BookmarkMergeResult} {row : ObjectRow C}
    (here : w.device i = start.device i) (file : (start.device i).bookmarks = some content)
    (parsed : parseBookmarks P (session i).profile content = .ok loc)
    (opened : (session i).openedBase P
      ((start.device i).state.syncBases (session i).bookmarkKey) = .ok base)
    (reads : RowReads P (session i).core.masterKey readSnapshot id row remote)
    (accepted : mergeBookmarks base loc remote = .ok merged)
    (later : ∃ before : Server C, before.objects id = some row ∧ before.Advances w.server)
    {journal : Journal C} (clean : ¬ Rejected journal) {s : Sample}
    {ok : SyncProof → Journal C → World ι C → Prop}
    (next : ∀ proof journal w, proof.objectId = id → ¬ Rejected journal → ok proof journal w) :
    UploadDuty P (fun w => w) ((bookmarkDiscipline P session id).contract i extensions start)
      (session i).core bookmarkNamespace (.json (writeSnapshot merged.snapshot))
      (some row.revision.toU64) id s journal w ok fun _ _ _ => True where
  unsealed _ _ := trivial
  refused w₁ envelope choice e moved _ _ _ _ :=
    ⟨⟨.inl rfl, fun _ => rfl, fun _ => moved.1.trans here⟩, trivial⟩
  kept w₁ w₂ new envelope choice reply put := by
    obtain ⟨before, found, advances⟩ := later
    have own : w₂.device i = w₁.device i := congrFun put.frame i
    have start₁ : w₁.device i = start.device i := put.moved.1.trans here
    refine ⟨mapped_of_states put.held fun j => by rw [congrFun put.frame j], .inr ?_,
      fun _ => own, fun _ => own.trans start₁⟩
    rcases put.uploads.follows with ⟨_, absent, _⟩ | ⟨old, held, based, succ⟩
    · cases absent
    · have same : old = row := (advances.trans put.moved.2).same found held
        (I64.toU64_inj.mp (Option.some.inj based).symm)
      subst same
      exact ⟨old, new, held, put.uploads.stored, content, base, loc, remote, merged,
        start₁ ▸ file, parsed, start₁ ▸ opened, reads, accepted, put.uploads.opens, succ⟩
  lost _ _ _ _ _ _ _ := trivial
  verified _ _ _ _ _ _ _ _ _ _ _ _ _ _ :=
    next _ _ _ rfl (by simpa [Refused] using clean)
  unverified _ _ _ _ _ _ _ _ _ _ _ _ _ _ := trivial

/-- The steps of one sync, from finding the remote snapshot to the accepted put. -/
theorem bookmarkDiscipline_program (lawful : P.Lawful) (id : ObjectId) (i : ι)
    (extensions : ExtensionSyncOutcome) (start : World ι C) :
    ((session i).syncBookmarks P extensions).Attempts
      ((bookmarkDiscipline P session id).contract i extensions start) (fun _ _ _ => True)
      (fun _ _ _ => True) [] start := by
  have serves := bookmarkDiscipline_serves P session id i extensions start
  refine Action.attempts_bind.mpr (Action.attempts_mapErr.mpr (serves.readBookmarks
    (fun w₁ content loc journal₁ rely₁ mapped₁ file parsed continues₁ => ?_)
    fun _ _ _ _ _ _ _ => trivial))
  refine Action.attempts_bind.mpr (serves.remoteBookmarks
    (fun w₂ w₃ journal₃ object row remote rely₂ rely₃ mapped₂ mapped₃ continues₃ own found space
      reads => ?_)
    (fun w₂ w₃ journal₃ _ _ mapped₂ _ _ unmapped => ?_) fun _ _ _ _ _ _ => trivial)
  · obtain ⟨mapping, stored, rfl⟩ := mapped₂ i
    cases own mapping stored
    refine Action.attempts_bind.mpr (serves.bookmarkBase
      (fun w₄ base reply rely₄ mapped₄ opened => ?_) fun _ _ _ _ _ _ _ _ => trivial)
    refine Action.attempts_bind.mpr (Action.attempts_mapErr.mpr (Action.attempts_ofExcept.mpr
      ⟨fun merged accepted => ?_, fun _ _ => trivial⟩))
    have clean : ¬ Rejected journal₃ :=
      not_rejected_of_continues continues₃ (not_rejected_of_continues continues₁ rejected_nil)
    have here : w₄.device i = start.device i :=
      rely₄.1.trans (rely₃.1.trans (rely₂.1.trans rely₁.1))
    refine Action.attempts_bind.mpr (serves.uploadMerged lawful
      (fun _ => bookmarkDiscipline_settles mapping.objectId i extensions start rfl
        (by simpa [Refused] using clean) _)
      fun changed w₅ s rely₅ mapped₅ _ => ?_)
    exact bookmarkDiscipline_upload (rely₅.1.trans here) (rely₁.1 ▸ file) parsed (here ▸ opened)
      reads accepted ⟨w₃.server, found, rely₄.2.trans rely₅.2⟩
      (by simpa [Refused] using clean)
      fun proof journal w object clean =>
        bookmarkDiscipline_settles mapping.objectId i extensions start object clean w
  · obtain ⟨mapping, stored, _⟩ := mapped₂ i
    rw [show (w₂.device i).state.mappings (session i).bookmarkKey = none from unmapped] at stored
    cases stored

theorem bookmarkDiscipline_holds (lawful : P.Lawful) (id : ObjectId) :
    (bookmarkDiscipline P session id).Holds where
  refl _ w := ⟨rfl, .refl w.server⟩
  trans _ _ _ _ first later := ⟨later.1.trans first.1, first.2.trans later.2⟩
  others _ _ ran _ _ other := ⟨World.exec_frame ran other, World.exec_advances ran⟩
  edits mapped edited := by
    obtain ⟨objects, changes, _, devices⟩ := World.edit_tables edited
    exact ⟨mapped_of_states mapped (World.edit_state edited), fun j other =>
      ⟨devices j other, .of_tables objects changes⟩⟩
  programs _ _ := Prog.ensures_of_attempts
    ((bookmarkDiscipline_program lawful id _ _ _).mono (fun _ _ _ h => h) fun _ _ _ h => h)

/-- Any interleaving of bookmark syncs: an accepted revision holds the merge with the revision
before it, and a device whose put was refused keeps its file and its local state. -/
theorem no_lost_bookmark_update (lawful : P.Lawful) (session : ι → Session) (id : ObjectId)
    {cfg cfg' : Config ι ExtensionSyncOutcome (Except String SyncFeedback) (World ι C) (Op C)
      (Reply C)} {event : Event ι ExtensionSyncOutcome Choice}
    (reached : (bookmarkSystem P session).Reachable .none (Mapped session id) cfg)
    (ran : (bookmarkSystem P session).next cfg event = some cfg') :
    (cfg'.world.server.objects id ≠ cfg.world.server.objects id → ∃ i choice old new,
      event = .act i choice ∧ cfg.world.server.objects id = some old ∧
      cfg'.world.server.objects id = some new ∧
      MergesInto P (session i) (cfg.world.device i) id old new) ∧
    ∀ i task, cfg'.task i = some task → Rejected task.journal →
      cfg'.world.device i = task.start.device i := by
  have holds : (bookmarkDiscipline P session id).Holds := bookmarkDiscipline_holds lawful id
  refine ⟨fun changed => ?_, fun i task found rejected => ?_⟩
  · cases event with
    | begin i command => cases ran; exact absurd rfl changed
    | act i choice =>
        obtain ⟨command, start, journal, op, next, reply, w', waiting, exec, rfl⟩ :=
          Discipline.next_act ran
        obtain ⟨_, merges, _⟩ := holds.guarantee (fun _ h => h) reached waiting trivial exec
        rcases merges with same | ⟨old, new, found, found', merges⟩
        · exact absurd same changed
        · exact ⟨i, choice, old, new, rfl, found, found', merges⟩
    | edit i choice =>
        obtain ⟨_, w', edited, rfl⟩ := Discipline.next_edit ran
        exact absurd (World.edit_tables edited).1 (fun same => changed (by rw [same]))
  · refine holds.tracked (fun _ h => h)
      (fun i _ start journal w => Rejected journal → w.device i = start.device i)
      (fun _ _ _ rejected => absurd rejected rejected_nil)
      (fun relied kept rejected => relied.1.trans (kept rejected)) (fun owed kept rejected => ?_)
      (.next reached (Condition.none_meets cfg event) ran) i task found rejected
    obtain ⟨_, frozen, refused⟩ := owed
    rcases rejected_append.mp rejected with before | now
    · exact (frozen before).trans (kept before)
    · exact refused (by simpa using now)

section
open Reference (primitives server putting draw unchanged noExtensions)

/-- Two devices with one bookmark, mapped to an object without any. -/
def mappedWorld : World (Fin 2) Reference.Sealed where
  server := putting server bookmarkNamespace ⟨9⟩ none (.json (writeSnapshot (barSnapshot [])))
  device _ := Reference.device (chromiumBookmarksJson (barSnapshot [bookmark "2" "added"]))
    (some ⟨⟨9⟩, 1⟩)

/-- The first device's sync up to its put. -/
def uploadSchedule : List (Event (Fin 2) ExtensionSyncOutcome Choice) :=
  [.begin 0 noExtensions, .act 0 unchanged, .act 0 .proceed, .act 0 .proceed, .act 0 .proceed,
    .act 0 (.sampled (draw 7))]

theorem no_lost_bookmark_update_upload : ∃ cfg cfg',
    (bookmarkSystem primitives Reference.session).play uploadSchedule
      ⟨mappedWorld, fun _ => none⟩ = some cfg ∧
    (bookmarkSystem primitives Reference.session).next cfg (.act 0 .proceed) = some cfg' ∧
    ∃ old new, cfg.world.server.objects ⟨9⟩ = some old ∧
      cfg'.world.server.objects ⟨9⟩ = some new ∧
      MergesInto primitives (Reference.session 0) (cfg.world.device 0) ⟨9⟩ old new := by
  obtain ⟨pair, ran⟩ : ∃ pair, (do
      let cfg ← (bookmarkSystem primitives Reference.session).play uploadSchedule
        ⟨mappedWorld, fun _ => none⟩
      let cfg' ← (bookmarkSystem primitives Reference.session).next cfg (.act 0 .proceed)
      if (cfg.world.server.objects ⟨9⟩).map ObjectRow.revision ≠
          (cfg'.world.server.objects ⟨9⟩).map ObjectRow.revision then some (cfg, cfg')
      else none) = some pair := Option.isSome_iff_exists.mp (by decide +kernel)
  obtain ⟨cfg, played, ran⟩ := Option.bind_eq_some_iff.mp ran
  obtain ⟨cfg', next, ran⟩ := Option.bind_eq_some_iff.mp ran
  split at ran
  · next changed =>
      have mapped : Mapped Reference.session ⟨9⟩ mappedWorld := fun i => ⟨⟨⟨9⟩, 1⟩, rfl, rfl⟩
      obtain ⟨i, choice, old, new, same, merges⟩ := (no_lost_bookmark_update
        Reference.primitives_lawful Reference.session ⟨9⟩
        (System.Reachable.play (.init mapped) uploadSchedule played) next).1
          fun same => changed (by rw [same])
      cases same
      exact ⟨cfg, cfg', played, next, old, new, merges⟩
  · cases ran

end

end HeliumSync
