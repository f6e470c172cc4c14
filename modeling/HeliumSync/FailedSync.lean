import HeliumSync.Devices
import HeliumSync.Nesting
import HeliumSync.Retry

/-! A bookmark sync that failed anywhere and is run again leaves what a sync leaves that did not
fail, unless it uploaded a document that cannot be read again. -/
namespace HeliumSync
open Interaction

namespace World
variable {ι C : Type} [DecidableEq ι] {P : Primitives C} {i : ι} {w w' : World ι C} {choice : Choice}

/-- A profile that is mapped to no object has no merge base. -/
def Paired (w : World ι C) : Prop :=
  ∀ j key, (w.device j).state.mappings key = none → (w.device j).state.syncBases key = none

omit [DecidableEq ι] in
theorem Paired.of_states (paired : w.Paired)
    (same : ∀ j, (w'.device j).state = (w.device j).state) : w'.Paired := by
  intro j key
  rw [same j]
  exact paired j key

/-- Every operation keeps mappings and merge bases together. -/
theorem Paired.exec {op : Op C} {reply : Reply C op} (paired : w.Paired)
    (ran : exec P i op choice w = some (w', reply)) : w'.Paired := by
  cases op with
  | saveSyncState key mapping base =>
      rcases saveSyncState_cases ran with ⟨_, _, _, rfl⟩ | ⟨rfl, _⟩
      · intro j other
        by_cases same : j = i
        · subst same
          rw [setDevice_self]
          dsimp only
          by_cases here : other = key
          · subst here
            simp
          · rw [Function.update_of_ne here, Function.update_of_ne here]
            exact paired j other
        · rw [setDevice_of_ne w _ same]
          exact paired j other
      · exact paired
  | _ => exact paired.of_states (exec_state (by simp) ran)

theorem Paired.edit (paired : w.Paired) (edited : edit P i choice w = some w') : w'.Paired :=
  paired.of_states (edit_state edited)

/-- In every run of devices that begin so, mappings and merge bases stay together. -/
theorem paired_of_reachable
    {cond : Condition ι DeviceCommand (World ι C) Choice (Op C) (Reply C)} {init : World ι C → Prop}
    (start : ∀ w, init w → w.Paired)
    {cfg : Config ι DeviceCommand (Except String SyncFeedback) (World ι C) (Op C) (Reply C)}
    (reached : (profileSystem P).Reachable cond init cfg) : cfg.world.Paired := by
  induction reached with
  | init first => exact start _ first
  | @next cfg cfg' event _ _ ran paired =>
      cases event with
      | begin j command =>
          cases ran
          exact paired
      | act j choice =>
          obtain ⟨_, _, _, _, _, _, _, _, exec, rfl⟩ := Discipline.next_act ran
          exact Paired.exec paired exec
      | edit j choice =>
          obtain ⟨_, _, edited, rfl⟩ := Discipline.next_edit ran
          exact Paired.edit paired edited

end World

section
variable {ι C : Type} [DecidableEq ι] {P : Primitives C} {i : ι} {session : Session}
  {w w' v v' : World ι C}

/-- A bookmark sync that failed anywhere in a run, and is run again, leaves what a sync leaves that did
not fail: exactly when nothing was uploaded, or the uploaded document can be read again. -/
theorem failed_sync_retry (lawful : P.Lawful) {requests : List (ServerRequest C)}
    (reached : w.server = Server.empty.run P requests)
    {cond : Condition ι DeviceCommand (World ι C) Choice (Op C) (Reply C)} {init : World ι C → Prop}
    (began : ∀ w, init w → w.Paired)
    {cfg : Config ι DeviceCommand (Except String SyncFeedback) (World ι C) (Op C) (Reply C)}
    (before : (profileSystem P).Reachable cond init cfg) (here : cfg.world = w)
    (distinct : ∀ id row base loc remote, Finds P i session w id row base loc remote →
      ∀ root ∈ remote.roots, root.node.Distinct)
    {extensions extensions₁ extensions₂ : ExtensionSyncOutcome} {e : String}
    {feedback : SyncFeedback} {outcome : Except String SyncFeedback}
    (failed : (session.syncBookmarks P extensions).run.Runs (World.exec P i) Sparing w (.error e) v)
    (whole : (session.syncBookmarks P extensions₁).run.Runs (World.exec P i) (Smooth P) w
      (.ok feedback) w')
    (retried : (session.syncBookmarks P extensions₂).run.Runs (World.exec P i) (Smooth P) v outcome
      v') :
    (outcome.isOk ∧ LeaveAlike P i session w w' v') ↔
      v.server = w.server ∨ Rereadable P i session w := by
  have paired : w.Paired := here ▸ World.paired_of_reachable began before
  have tidy : v.server.Tidy P :=
    failed.keeps Server.tidy_exec (reached ▸ Server.tidy_run requests)
  obtain ⟨_, halts, -⟩ := failed.post (@syncs_alone _ _ _ P i Sparing session w [] lawful extensions)
  obtain ⟨_, syncs, ready⟩ :=
    whole.post (@syncs_alone _ _ _ P i (Smooth P) session w [] lawful extensions₁)
  cases halts with
  | before same =>
      subst same
      obtain ⟨_, done⟩ :=
        retried.post (@syncs_alone _ _ _ P i (Smooth P) session v [] lawful extensions₂)
      cases outcome with
      | error e => exact absurd (done.2 ready) not_faulty_smooth
      | ok feedback => exact iff_of_true ⟨rfl, syncs.alike done.1⟩ (.inl rfl)
  | uploaded finds accepted uploaded =>
      have device := congrFun uploaded.device i
      refine finds.retry_iff lawful tidy ready accepted uploaded rfl (.inl (by rw [device]))
        (fun _ => ?_) syncs retried
      exact finds.resumes_same accepted (distinct _ _ _ _ _ finds) (by rw [device]) (by rw [device])
  | @restoring id row base loc remote merged w₁ row' file finds accepted changed uploaded partly
      outcome =>
      have device := congrFun uploaded.device i
      have state : (v.device i).state = (w.device i).state := by
        rw [partly, World.setDevice_self, device]
        rfl
      have bookmarks : (v.device i).bookmarks = file := by
        rw [partly, World.setDevice_self]
        rfl
      refine finds.retry_iff lawful tidy ready accepted uploaded (by rw [partly]; rfl)
        (.inl (by rw [state])) (fun shallow => ?_) syncs retried
      rcases outcome with old | new | ⟨_, _, details, sparing⟩
      · refine finds.resumes_same accepted (distinct _ _ _ _ _ finds) ?_ state
        rw [bookmarks, old, device]
      · exact finds.resumes_written accepted changed (bookmarks.trans new) shallow
          (state ▸ finds.opened) (mergeBookmarks_ok.mp accepted).2.1
      · exact absurd rfl (sparing details)
  | restored finds accepted uploaded restored =>
      have device := congrFun uploaded.device i
      rcases restored with ⟨same, rfl⟩ | ⟨changed, rfl⟩
      · refine finds.retry_iff lawful tidy ready accepted uploaded rfl (.inl (by rw [device]))
          (fun _ => ?_) syncs retried
        exact finds.resumes_same accepted (distinct _ _ _ _ _ finds) (by rw [device])
          (by rw [device])
      · refine finds.retry_iff lawful tidy ready accepted uploaded rfl ?_ (fun shallow => ?_) syncs
          retried
        · rw [World.setDevice_self, device]
          exact .inl rfl
        · refine finds.resumes_written accepted changed ?_ shallow ?_
            (mergeBookmarks_ok.mp accepted).2.1
          · rw [World.setDevice_self]
            rfl
          · rw [World.setDevice_self, device]
            exact finds.opened
  | firstUploaded file looked uploaded =>
      have device := congrFun uploaded.1 i
      have unmapped := unmapped_of_remoteOf looked
      refine uploaded.retry_iff lawful tidy ready file looked rfl (by rw [device]) ?_ (fun _ => ?_)
        syncs retried
      · rw [device, unmapped]
        nofun
      · rw [device, paired i _ unmapped]
        exact ⟨none, rfl, nofun⟩
  | saved done =>
      cases done with
      | @merged id row base loc remote merged w₁ w₂ row' finds accepted uploaded restored saved =>
          obtain ⟨server, bookmarks, mapping, _⟩ := saved.frame
          refine finds.retry_iff lawful tidy ready accepted uploaded
            (server.trans restored.server) (.inr ⟨_, mapping, rfl⟩) (fun shallow => ?_) syncs retried
          have based : ∀ b, some merged.snapshot = some b → Mergeable b loc := by
            intro b same
            cases same
            exact (mergeable_merged accepted).symm
          rcases restored with ⟨same, rfl⟩ | ⟨changed, rfl⟩
          · refine finds.resumes_kept same ?_ (saved.opened shallow) based
            rw [bookmarks, uploaded.device]
          · refine finds.resumes_written accepted changed ?_ shallow (saved.opened shallow) based
            rw [bookmarks, World.setDevice_self]
            rfl
      | first file looked uploaded saved =>
          obtain ⟨server, bookmarks, mapping, _⟩ := saved.frame
          refine uploaded.retry_iff lawful tidy ready file looked server ?_ ?_ (fun shallow => ?_)
            syncs retried
          · rw [bookmarks, uploaded.1]
          · rintro object stored
            cases mapping.symm.trans stored
            rfl
          · refine ⟨_, saved.opened shallow, fun b same => ?_⟩
            cases same
            exact ⟨rfl, rfl, rfl⟩

end
section
variable {ι C : Type} [DecidableEq ι] {P : Primitives C} {i : ι} {session : Session} {w : World ι C}

omit [DecidableEq ι] in
theorem sparing_of_calm (op : Op C) (choice : Choice) (w : World ι C) (calm : Calm op choice w) :
    Sparing op choice w := by
  rintro details rfl
  cases op <;> cases calm

omit [DecidableEq ι] in
theorem sparing_of_drawing {s : Sample} (op : Op C) (choice : Choice) (w : World ι C)
    (drawing : Drawing s op choice w) : Sparing op choice w := by
  rintro details rfl
  cases op <;> cases drawing

/-- What a sync that nothing disturbs reads before its first upload. -/
theorem reading_runs {loc : BookmarkSnapshotV1} (file : LocalIs P i session w loc)
    (looked : session.remoteOf P i w = .ok none) :
    (readBookmarks P session.profile).run.Runs (World.exec P i) Calm w (.ok loc) w ∧
      (session.remoteBookmarks P).run.Runs (World.exec P i) Calm w (.ok none) w := by
  constructor
  · obtain ⟨outcome, v, run⟩ := Prog.exists_runs (calm_total (P := P) (i := i))
      (readBookmarks P session.profile).run w
    have reads : (readBookmarks P session.profile).Attempts (.alone (World.exec P i) Calm)
        (fun loc' _ v => loc' = loc ∧ v = w) (fun _ _ _ => False) [] w := by
      refine serves_alone.readBookmarks (fun w₁ content loc' journal same _ found parsed _ => ?_)
        fun w₁ e journal same _ _ cause => ?_
      · cases same
        exact ⟨LocalIs.unique ⟨content, found, parsed⟩ file, rfl⟩
      · cases same
        obtain ⟨content, found, parsed⟩ := file
        rcases cause with ⟨w₀, earlier, choice, allowed, rough⟩ | failed
        · exact rough allowed
        · cases (failed content found).symm.trans parsed
    obtain ⟨_, done⟩ := run.post reads
    cases outcome with
    | ok loc' =>
        obtain ⟨rfl, rfl⟩ := done
        exact run
    | error e => exact done.elim
  · obtain ⟨outcome, v, run⟩ := Prog.exists_runs (calm_total (P := P) (i := i))
      (session.remoteBookmarks P).run w
    have means : FaultMeans (Calm : Op C → Choice → World ι C → Prop) False := by
      intro op choice w seeks allowed fault
      cases op with
      | getObject | changes | mapping | syncBase => exact fault allowed
      | _ => exact seeks
    have looks : (session.remoteBookmarks P).Attempts (.alone (World.exec P i) Calm)
        (fun r _ v => r = none ∧ v = w) (fun _ _ _ => False) [] w := by
      refine object_alone means (fun r journal found => ?_) fun e journal cause => ?_
      · exact ⟨Except.ok.inj (found.symm.trans looked), rfl⟩
      · rcases cause with never | failed
        · exact never
        · cases looked.symm.trans failed
    obtain ⟨_, done⟩ := run.post looks
    cases outcome with
    | ok r =>
        obtain ⟨rfl, rfl⟩ := done
        exact run
    | error e => exact done.elim

/-- The local state cannot be written. -/
theorem persist_fails (snapshot : BookmarkSnapshotV1) (proof : SyncProof) (s : Sample) :
    ∃ e, (session.persistSyncState P snapshot proof).run.Runs (World.exec P i) Sparing w (.error e)
      w := by
  have draws : (sample : Client C ClientError Sample).run.Runs (World.exec P i) Sparing w (.ok s) w :=
    .call (show Sparing _ (.sampled s) _ from nofun) rfl .done
  cases sealed : session.core.protectBase P bookmarkNamespace session.profile.directoryName
      (.json (writeSnapshot snapshot)) s.nonce with
  | ok envelope =>
      have fails : (saveSyncState session.bookmarkKey ⟨proof.objectId, proof.revision⟩ envelope :
          Client C ClientError Unit).run.Runs (World.exec P i) Sparing w (.error (.state "")) w :=
        .call (show Sparing _ (.failed "") _ from nofun) rfl .done
      exact ⟨_, Action.runs_bind (Action.runs_mapErr_ok draws) (Action.runs_bind
        (Action.runs_mapErr_ok (Action.runs_ofExcept sealed)) (Action.runs_mapErr_error fails))⟩
  | error e =>
      exact ⟨_, Action.runs_bind (Action.runs_mapErr_ok draws) (Action.runs_bind_error
        (Action.runs_mapErr_error (Action.runs_ofExcept sealed)))⟩

/-- A first sync that fails after its upload. -/
theorem first_sync_fails (lawful : P.Lawful) {s : Sample} {loc : BookmarkSnapshotV1}
    (file : LocalIs P i session w loc) (looked : session.remoteOf P i w = .ok none)
    (uploadable : session.core.Uploadable P bookmarkNamespace (.json (writeSnapshot loc)) none
      (w.server.objects s.objectId) w.server)
    (formatted : ∃ text, P.formatRfc3339 s.time = .ok text) (extensions : ExtensionSyncOutcome) :
    ∃ e v id row, (session.syncBookmarks P extensions).run.Runs (World.exec P i) Sparing w (.error e)
      v ∧ AfterFirst P session id loc w v row := by
  obtain ⟨reads, looks⟩ := reading_runs file looked
  obtain ⟨proof, v, saves⟩ := @save_runs _ _ _ _ i session w loc none lawful s uploadable formatted
  have saved : (session.core.saveBookmarkSnapshot P loc none none).Attempts
      (.alone (World.exec P i) (Drawing s)) (fun _ _ v => ∃ id row, AfterFirst P session id loc w v row)
      (fun _ _ _ => True) [] w :=
    save_alone lawful none (fun id v row journal _ device uploads _ => ⟨id, row, device, uploads⟩)
      (fun _ _ _ _ _ _ _ _ _ => trivial) fun _ _ _ => trivial
  obtain ⟨_, id, row, first⟩ := saves.post saved
  obtain ⟨e, fails⟩ := @persist_fails _ _ _ P i session v loc proof s
  exact ⟨e, v, id, row, Action.runs_bind (Action.runs_mapErr_ok (reads.mono sparing_of_calm))
    (Action.runs_bind (looks.mono sparing_of_calm) (Action.runs_bind
      (Action.runs_mapErr_ok (saves.mono sparing_of_drawing)) (Action.runs_bind_error fails))), first⟩

end

section
variable {ι C : Type} [DecidableEq ι] {P : Primitives C} {i : ι} {session : Session}
  {w v v' : World ι C} {loc : BookmarkSnapshotV1} {id : ObjectId} {row : ObjectRow C}

/-- After a first upload of a document that cannot be read again no sync comes to its end. -/
theorem AfterFirst.fails (lawful : P.Lawful) (tidy : v.server.Tidy P)
    (file : LocalIs P i session w loc) (looked : session.remoteOf P i w = .ok none)
    (uploaded : AfterFirst P session id loc w v row)
    (deep : ¬ (writeSnapshot loc).depth < Json.recursionLimit)
    {allow : Op C → Choice → World ι C → Prop} {extensions : ExtensionSyncOutcome}
    {outcome : Except String SyncFeedback}
    (run : (session.syncBookmarks P extensions).run.Runs (World.exec P i) allow v outcome v') :
    ¬ outcome.isOk := by
  obtain ⟨device, uploads⟩ := uploaded
  have unmapped : ∀ object, (v.device i).state.mappings session.bookmarkKey = some object →
      object.objectId = id := by
    intro object mapped
    rw [device, unmapped_of_remoteOf looked] at mapped
    cases mapped
  have unread := remoteOf_uploaded lawful tidy uploads file.shape.2.2.1 unmapped
  rw [if_neg deep] at unread
  obtain ⟨e, failed⟩ := unread
  exact not_isOk_of_remoteOf lawful failed run

end

section
open Reference (primitives primitives_lawful draw session noExtensions)

theorem after_register {server : Server Reference.Sealed} {id : DeviceId}
    (absent : server.devices id = none) :
    server.after primitives (.register ⟨id, "device"⟩ ⟨0⟩) = { server with
      devices := Function.update server.devices id (some ⟨"device", Reference.epoch, none⟩) } := by
  have named : trim "device" = "device" := by decide +kernel
  have registered : server.registerDevice primitives ⟨id, "device"⟩ ⟨0⟩ = .ok
      (⟨id, "device", ⟨0⟩, none⟩, { server with
        devices := Function.update server.devices id (some ⟨"device", Reference.epoch, none⟩) }) := by
    rw [Server.registerDevice]
    simp only [named, absent]
    rw [if_neg (by decide +kernel)]
    rfl
  rw [Server.after, Server.transact, registered]
  rfl

theorem server_registered : Reference.server = Server.empty.run primitives
    [.register ⟨⟨1⟩, "device"⟩ ⟨0⟩, .register ⟨⟨2⟩, "device"⟩ ⟨0⟩] := by
  have first := @after_register Server.empty ⟨1⟩ rfl
  rw [Server.run, List.foldl_cons, first, List.foldl_cons, after_register (by decide)]
  refine congrArg (fun devices => Server.mk devices _ _ _) (funext fun id => ?_)
  obtain ⟨uuid⟩ := id
  change (if uuid = 1 ∨ uuid = 2 then _ else none) =
    Function.update (Function.update (fun _ => none) ⟨1⟩ _) ⟨2⟩ _ (⟨uuid⟩ : DeviceId)
  by_cases two : uuid = 2
  · subst two
    rw [Function.update_self]
    rfl
  · have other : (⟨uuid⟩ : DeviceId) ≠ ⟨2⟩ := fun same => two (congrArg DeviceId.uuid same)
    rw [Function.update_of_ne other]
    by_cases one : uuid = 1
    · subst one
      rw [Function.update_self]
      rfl
    · have other : (⟨uuid⟩ : DeviceId) ≠ ⟨1⟩ := fun same => one (congrArg DeviceId.uuid same)
      rw [Function.update_of_ne other]
      exact if_neg (not_or.mpr ⟨one, two⟩)

/-- The first device has a chain of folders, and nothing is on the server. -/
def chainWorld (n : Nat) : World (Fin 2) Reference.Sealed :=
  ⟨Reference.server, fun _ => Reference.device (chromiumBookmarksJson (chainSnapshot n)) none⟩

theorem chainWorld_paired (n : Nat) : (chainWorld n).Paired := fun _ _ _ => rfl

theorem chainWorld_file {n : Nat} (low : n ≤ 62) :
    LocalIs primitives 0 (session 0) (chainWorld n) (chainSnapshot n) :=
  ⟨_, rfl, parseBookmarks_chain low⟩

theorem chainWorld_looked (n : Nat) :
    (session 0).remoteOf primitives 0 (chainWorld n) = .ok none := by
  have pages : ClientCore.paged primitives Reference.server bookmarkNamespace [] 0 = .ok [] := by
    rw [ClientCore.paged]
    rfl
  have nothing : (session 0).core.discovered primitives Reference.server readSnapshot
      bookmarkNamespace (·.profileDirectory = (session 0).profile.directoryName) = .ok none := by
    rw [ClientCore.discovered, pages]
    rfl
  rw [Session.remoteOf]
  change Except.mapError _ ((session 0).core.discovered primitives Reference.server readSnapshot
    bookmarkNamespace (·.profileDirectory = (session 0).profile.directoryName)) = _
  rw [nothing]
  rfl

theorem chain_keepable {n : Nat} (short : jsonLength (writeSnapshot (chainSnapshot n)) ≤ 100000) :
    Keepable primitives (session 0) (.json (writeSnapshot (chainSnapshot n))) := by
  have length : (primitives.plainBytes (.json (writeSnapshot (chainSnapshot n)))).length =
      jsonLength (writeSnapshot (chainSnapshot n)) := length_render _
  refine ⟨by decide +kernel, ?_⟩
  rw [length]
  exact short.trans (by decide)

theorem distinct_chain (n : Nat) : (chain n).Distinct := by
  induction n with
  | zero => trivial
  | succ n ih => exact ⟨List.nodup_singleton _, ih, trivial⟩

/-- A decidable form of the choices without a fault. -/
def smoothly : Op Reference.Sealed → Choice → World (Fin 2) Reference.Sealed → Bool
  | .sample, .sampled s, w =>
      (w.server.objects s.objectId).isNone && (primitives.formatRfc3339 s.time).toOption.isSome
  | .sample, _, _ | .replaceFile _, _, _ => false
  | .readFile, .metadata before after, _ => decide (before = after)
  | .readFile, _, _ => false
  | _, .proceed, _ => true
  | _, _, _ => false

theorem smooth_of_smoothly {op : Op Reference.Sealed} {choice : Choice}
    {w : World (Fin 2) Reference.Sealed} (checked : smoothly op choice w = true) :
    Smooth primitives op choice w := by
  cases op with
  | sample =>
      cases choice with
      | sampled s =>
          obtain ⟨fresh, formatted⟩ := Bool.and_eq_true_iff.mp checked
          refine ⟨Option.isNone_iff_eq_none.mp fresh, ?_⟩
          cases formats : primitives.formatRfc3339 s.time with
          | ok text => exact ⟨text, rfl⟩
          | error e =>
              rw [formats] at formatted
              cases formatted
      | _ => cases checked
  | readFile =>
      cases choice with
      | metadata before after => exact of_decide_eq_true (p := before = after) checked
      | _ => cases checked
  | replaceFile => cases checked
  | _ =>
      cases choice with
      | proceed => rfl
      | _ => cases checked

/-- A fault is allowed, but for the loss of the file. -/
def sparingly (_ : Op Reference.Sealed) (choice : Choice) (_ : World (Fin 2) Reference.Sealed) :
    Bool :=
  match choice with
  | .failedLost _ => false
  | _ => true

theorem sparing_of_sparingly {op : Op Reference.Sealed} {choice : Choice}
    {w : World (Fin 2) Reference.Sealed} (checked : sparingly op choice w = true) :
    Sparing op choice w := by
  rintro details rfl
  cases checked

/-- The first device's bookmark sync, as far as these choices go. -/
def checkedSync (check : Op Reference.Sealed → Choice → World (Fin 2) Reference.Sealed → Bool)
    (choices : List Choice) (w : World (Fin 2) Reference.Sealed) :=
  ((session 0).syncBookmarks primitives noExtensions).run.after
    (Interaction.guarded (World.exec primitives 0) check) choices w

/-- The sync has ended, with such an outcome. -/
def Concluded (good : Except String SyncFeedback → World (Fin 2) Reference.Sealed → Bool) :
    Prog (Op Reference.Sealed) (Reply Reference.Sealed) (Except String SyncFeedback) ×
      World (Fin 2) Reference.Sealed → Bool
  | (.done outcome, w) => good outcome w
  | (.call .., _) => false

theorem runs_of_checkedSync
    {check : Op Reference.Sealed → Choice → World (Fin 2) Reference.Sealed → Bool}
    {allow : Op Reference.Sealed → Choice → World (Fin 2) Reference.Sealed → Prop}
    (sound : ∀ {op choice w}, check op choice w = true → allow op choice w) {choices : List Choice}
    {w : World (Fin 2) Reference.Sealed}
    {good : Except String SyncFeedback → World (Fin 2) Reference.Sealed → Bool}
    (played : (checkedSync check choices w).any (Concluded good) = true) : ∃ outcome v,
      ((session 0).syncBookmarks primitives noExtensions).run.Runs (World.exec primitives 0) allow w
        outcome v ∧ good outcome v = true := by
  obtain ⟨⟨rest, v⟩, ran, concluded⟩ := (Option.any_eq_true _ _).mp played
  cases rest with
  | call op next => cases concluded
  | done outcome => exact ⟨outcome, v, Prog.runs_of_guarded sound ran, concluded⟩

/-- A first sync that does not store its state, and the one after it. -/
theorem failed_sync_retry_first_sync :
    ∃ (w v v' w' : World (Fin 2) Reference.Sealed) (outcome : Except String SyncFeedback),
      (outcome.isOk ∧ LeaveAlike primitives 0 (session 0) w w' v') ∧ v.server ≠ w.server := by
  have failed : (checkedSync sparingly (readingChoices.take 3 ++ uploadChoices 10 ++
      [.sampled (draw 11), .failed "disk full"]) (chainWorld 0)).any (Concluded fun outcome v =>
        !outcome.isOk && (v.server.objects ⟨10⟩).isSome &&
          (checkedSync smoothly (readingChoices ++ .proceed :: storeChoices 12) v).any
            (Concluded fun _ _ => true)) = true := by
    decide +kernel
  have whole : (checkedSync smoothly (readingChoices.take 3 ++ uploadChoices 10 ++ storeChoices 11)
      (chainWorld 0)).any (Concluded fun outcome _ => outcome.isOk) = true := by
    decide +kernel
  obtain ⟨_ | feedback, w', whole, ok⟩ := runs_of_checkedSync smooth_of_smoothly whole
  · cases ok
  obtain ⟨e | _, v, failed, rest⟩ := runs_of_checkedSync sparing_of_sparingly failed
  · simp only [Bool.and_eq_true] at rest
    obtain ⟨⟨_, stored⟩, rest⟩ := rest
    obtain ⟨outcome, v', retried, _⟩ := runs_of_checkedSync smooth_of_smoothly rest
    have changed : v.server ≠ (chainWorld 0).server := by
      intro same
      rw [same] at stored
      cases stored
    have rereadable : Rereadable primitives 0 (session 0) (chainWorld 0) := by
      intro content intends
      cases intends with
      | merged finds => cases (chainWorld_looked 0).symm.trans finds.looked
      | first file =>
          cases (chainWorld_file (Nat.zero_le _)).unique file
          decide
    have alone : ∀ id row base loc remote,
        Finds primitives 0 (session 0) (chainWorld 0) id row base loc remote →
        ∀ root ∈ remote.roots, root.node.Distinct := by
      intro id row base loc remote finds
      cases (chainWorld_looked 0).symm.trans finds.looked
    have before : (profileSystem primitives).Reachable .none (· = chainWorld 0)
        ⟨chainWorld 0, fun _ => none⟩ := .init rfl
    exact ⟨chainWorld 0, v, v', w', outcome, (failed_sync_retry primitives_lawful server_registered
      (fun w first => by rw [first]; exact chainWorld_paired 0) before rfl alone failed whole
      retried).mpr (.inr rereadable), changed⟩
  · cases rest

/-- A first sync of a file with 63 levels that fails after its upload is never made up for. -/
theorem failed_sync_retry_63_levels :
    ∃ (requests : List (ServerRequest Reference.Sealed)) (w v : World (Fin 2) Reference.Sealed)
      (loc : BookmarkSnapshotV1) (e : String),
      w.server = Server.empty.run primitives requests ∧ w.Paired ∧
      LocalIs primitives 0 (session 0) w loc ∧ (∀ root ∈ loc.roots, root.node.Distinct) ∧
      ((session 0).syncBookmarks primitives noExtensions).run.Runs (World.exec primitives 0) Sparing w
        (.error e) v ∧
      (∀ outcome w', ((session 0).syncBookmarks primitives noExtensions).run.Runs
        (World.exec primitives 0) (Smooth primitives) w outcome w' → outcome.isOk) ∧
      ∀ outcome v', ((session 0).syncBookmarks primitives noExtensions).run.Runs
        (World.exec primitives 0) (Smooth primitives) v outcome v' → ¬ outcome.isOk := by
  have short : jsonLength (writeSnapshot (chainSnapshot 62)) ≤ 100000 := by decide +kernel
  have file := chainWorld_file (n := 62) (by decide)
  obtain ⟨e, v, id, row, fails, device, uploads⟩ := first_sync_fails primitives_lawful (s := draw 9)
    file (chainWorld_looked 62) (chain_uploadable short) ⟨_, rfl⟩ noExtensions
  refine ⟨_, chainWorld 62, v, chainSnapshot 62, e, server_registered, chainWorld_paired 62, file, ?_,
    fails, ?_, ?_⟩
  · intro root member
    cases List.mem_singleton.mp member
    exact distinct_chain 62
  · intro outcome w' run
    have ready := ready_of_first file (chainWorld_looked 62) (chain_uploadable short)
      (chain_keepable short)
    obtain ⟨_, done⟩ := run.post (@syncs_alone _ _ _ primitives 0 (Smooth primitives) (session 0)
      (chainWorld 62) [] primitives_lawful noExtensions)
    cases outcome with
    | ok feedback => rfl
    | error e => exact absurd (done.2 ready) not_faulty_smooth
  · intro outcome v' run
    have tidy : v.server.Tidy primitives := by
      refine fails.keeps Server.tidy_exec ?_
      change Reference.server.Tidy primitives
      rw [server_registered]
      exact Server.tidy_run _
    have deep : ¬ (writeSnapshot (chainSnapshot 62)).depth < Json.recursionLimit := by
      intro shallow
      have low := (shallow_iff_height _).mp shallow _ List.mem_cons_self
      rw [height_chain] at low
      exact absurd low (by decide)
    exact AfterFirst.fails primitives_lawful tidy file (chainWorld_looked 62) ⟨device, uploads⟩ deep run

end
end HeliumSync
