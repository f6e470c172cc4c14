import HeliumSync.Commands
import HeliumSync.Discovery

/-! The rules of what a command does on its own device. -/
namespace HeliumSync
open Interaction (Prog Action Entry Contract)

/-- The file did not change while it was sampled. -/
def Choice.Steady : Choice → Prop
  | .metadata before after => before = after
  | _ => False

/-- The merge base that a stored envelope holds. -/
def Session.openedBase {C : Type} (P : Primitives C) (session : Session) :
    Option (EncryptedEnvelopeV1 C) → Except String (Option BookmarkSnapshotV1)
  | none => .ok none
  | some encrypted => do
      let plaintext ← (session.core.openBase P bookmarkNamespace session.profile.directoryName
        encrypted).mapError fun error => s!"Stored bookmark sync base: {error.message}"
      let base ← ((P.parseText plaintext).bind readSnapshot).mapError
        (s!"Stored bookmark sync base is invalid: {·}")
      return some base

theorem Session.openedBase_some {C : Type} {P : Primitives C} {session : Session}
    {encrypted : EncryptedEnvelopeV1 C} {plaintext : Plaintext}
    (opened : session.core.openBase P bookmarkNamespace session.profile.directoryName encrypted =
      .ok plaintext) :
    session.openedBase P (some encrypted) =
      some <$> ((P.parseText plaintext).bind readSnapshot).mapError
        (s!"Stored bookmark sync base is invalid: {·}") := by
  rw [openedBase, opened]
  rfl

namespace Serves
variable {ι C W : Type} [DecidableEq ι] {P : Primitives C} {i : ι} {view : W → World ι C}
  {K : Contract (Op C) (Reply C) W Choice} {journal : Journal C} {w : W} {session : Session}

section Queries
variable {key : LocalKey} {error : ClientError → Journal C → W → Prop}

theorem mapping (serves : Serves P i view K)
    {ok : Option ObjectMapping → Journal C → W → Prop}
    (good : ∀ w₁, K.rely w w₁ → K.inv w₁ → K.allow journal (.mapping key) .proceed w₁ →
      ok (((view w₁).device i).state.mappings key)
        (journal ++ [⟨.mapping key, .ok (((view w₁).device i).state.mappings key)⟩]) w₁)
    (bad : ∀ w₁ details, K.rely w w₁ → K.inv w₁ →
      K.allow journal (.mapping key) (.failed details) w₁ →
      error (.state details) (journal ++ [⟨.mapping key, .error (.state details)⟩]) w₁) :
    (localMapping key).Attempts K ok error journal w :=
  serves.step (.mapping key) trivial fun w₁ choice reply moved held allowed ran => by
    rcases (World.query_cases ran).2 with ⟨rfl, same⟩ | ⟨details, rfl, same⟩ <;> cases same
    · exact good w₁ moved held allowed
    · exact bad w₁ details moved held allowed

theorem syncBase (serves : Serves P i view K)
    {ok : Option (EncryptedEnvelopeV1 C) → Journal C → W → Prop}
    (good : ∀ w₁, K.rely w w₁ → K.inv w₁ → K.allow journal (.syncBase key) .proceed w₁ →
      ok (((view w₁).device i).state.syncBases key)
        (journal ++ [⟨.syncBase key, .ok (((view w₁).device i).state.syncBases key)⟩]) w₁)
    (bad : ∀ w₁ details, K.rely w w₁ → K.inv w₁ →
      K.allow journal (.syncBase key) (.failed details) w₁ →
      error (.state details) (journal ++ [⟨.syncBase key, .error (.state details)⟩]) w₁) :
    (localSyncBase key).Attempts K ok error journal w :=
  serves.step (.syncBase key) trivial fun w₁ choice reply moved held allowed ran => by
    rcases (World.query_cases ran).2 with ⟨rfl, same⟩ | ⟨details, rfl, same⟩ <;> cases same
    · exact good w₁ moved held allowed
    · exact bad w₁ details moved held allowed

theorem profilePreferences (serves : Serves P i view K)
    {ok : List ProfilePreference → Journal C → W → Prop}
    (good : ∀ w₁ rows, K.rely w w₁ → K.inv w₁ →
      ok rows (journal ++ [⟨.profilePreferences, .ok rows⟩]) w₁)
    (bad : ∀ w₁ details, K.rely w w₁ → K.inv w₁ →
      K.allow journal .profilePreferences (.failed details) w₁ →
      error (.state details) (journal ++ [⟨.profilePreferences, .error (.state details)⟩]) w₁) :
    HeliumSync.profilePreferences.Attempts K ok error journal w :=
  serves.step .profilePreferences trivial fun w₁ choice reply moved held allowed ran => by
    rcases (World.query_cases ran).2 with ⟨rfl, same⟩ | ⟨details, rfl, same⟩ <;> cases same
    · exact good w₁ _ moved held
    · exact bad w₁ details moved held allowed

end Queries

section Bookmarks
variable {profile : DiscoveredProfile} {error : ProfileError → Journal C → W → Prop}

theorem readAttempt (serves : Serves P i view K) {changed : Client C ProfileError BookmarkSnapshotV1}
    {ok : BookmarkSnapshotV1 → Journal C → W → Prop}
    (good : ∀ w₁ content snapshot read, K.rely w w₁ → K.inv w₁ →
      ((view w₁).device i).bookmarks = some content →
      parseBookmarks P profile content = .ok snapshot →
      ok snapshot (journal ++ [⟨.readFile, .ok read⟩]) w₁)
    (again : ∀ w₁ choice read, K.rely w w₁ → K.inv w₁ → K.allow journal .readFile choice w₁ →
      ¬ choice.Steady → changed.Attempts K ok error (journal ++ [⟨.readFile, .ok read⟩]) w₁)
    (bad : ∀ w₁ choice e reply, K.rely w w₁ → K.inv w₁ → K.allow journal .readFile choice w₁ →
      (choice.Steady → ∀ content, ((view w₁).device i).bookmarks = some content →
        parseBookmarks P profile content = .error e) →
      error e (journal ++ [⟨.readFile, reply⟩]) w₁) :
    (HeliumSync.readAttempt P profile changed).Attempts K ok error journal w := by
  refine Action.attempts_bind.mpr (Action.attempts_mapErr.mpr
    (serves.step .readFile trivial fun w₁ choice reply moved held allowed ran => ?_))
  rcases (World.readFile_cases ran).2 with ⟨before, content, after, rfl, found, rfl⟩ | ⟨e, rfl, gone⟩
  · change Action.Attempts K ok error (if before.len ≠ after.len ∨ before.modified ≠ after.modified
      then changed else .ofExcept (parseBookmarks P profile content)) _ w₁
    split_ifs with differ
    · refine again w₁ _ _ moved held allowed fun same => ?_
      cases show before = after from same
      simp at differ
    · refine Action.attempts_ofExcept.mpr ⟨fun snapshot parsed => ?_, fun e failed => ?_⟩
      · exact good w₁ content snapshot _ moved held found parsed
      · exact bad w₁ _ e _ moved held allowed fun _ content' found' => by
          rw [found] at found'
          cases found'
          exact failed
  · exact bad w₁ choice _ _ moved held allowed fun steady content found => by
      cases choice with
      | metadata before after => rw [gone before after rfl] at found; cases found
      | _ => exact steady.elim

/-- The rule of `read_bookmarks`. It fails on a fault or on a file that does not parse. -/
theorem readBookmarks (serves : Serves P i view K)
    {ok : BookmarkSnapshotV1 → Journal C → W → Prop}
    (good : ∀ w₁ content snapshot journal', K.rely w w₁ → K.inv w₁ →
      ((view w₁).device i).bookmarks = some content →
      parseBookmarks P profile content = .ok snapshot → Continues journal journal' →
      ok snapshot journal' w₁)
    (bad : ∀ w₁ e journal', K.rely w w₁ → K.inv w₁ → Continues journal journal' →
      ((∃ w₀ earlier choice, K.allow earlier .readFile choice w₀ ∧ ¬ choice.Steady) ∨
        ∀ content, ((view w₁).device i).bookmarks = some content →
          parseBookmarks P profile content = .error e) →
      error e journal' w₁) :
    (HeliumSync.readBookmarks P profile).Attempts K ok error journal w := by
  have blame {e : ProfileError} {earlier : Journal C} {w₁ : W} {choice : Choice}
      (allowed : K.allow earlier .readFile choice w₁)
      (parse : choice.Steady → ∀ content, ((view w₁).device i).bookmarks = some content →
        parseBookmarks P profile content = .error e) :
      (∃ w₀ earlier choice, K.allow earlier .readFile choice w₀ ∧ ¬ choice.Steady) ∨
        ∀ content, ((view w₁).device i).bookmarks = some content →
          parseBookmarks P profile content = .error e := by
    by_cases steady : choice.Steady
    · exact .inr (parse steady)
    · exact .inl ⟨w₁, earlier, choice, allowed, steady⟩
  have twice {first second : Except String FileRead} :
      Continues journal (journal ++ [⟨.readFile, first⟩] ++ [⟨.readFile, second⟩]) :=
    .trans (.snoc (by exact trivial)) (.snoc (by exact trivial))
  refine serves.readAttempt
    (fun w₁ content snapshot read moved held found parsed =>
      good w₁ content snapshot _ moved held found parsed (.snoc (by exact trivial)))
    (fun w₁ choice read moved held allowed changed => ?_)
    fun w₁ choice e reply moved held allowed parse =>
      bad w₁ e _ moved held (.snoc (by exact trivial)) (blame allowed parse)
  refine serves.readAttempt
    (fun w₂ content snapshot read' moved' held' found parsed => ?_)
    (fun w₂ choice' read' moved' held' _ _ => ?_)
    fun w₂ choice' e reply moved' held' allowed' parse => ?_
  · exact good w₂ content snapshot _ (serves.trans moved moved') held' found parsed twice
  · exact bad w₂ _ _ (serves.trans moved moved') held' twice
      (.inl ⟨w₁, journal, choice, allowed, changed⟩)
  · exact bad w₂ e _ (serves.trans moved moved') held' twice (blame allowed' parse)

/-- The rule of `restore_bookmarks`, by what became of the file. -/
theorem restoreBookmarks (serves : Serves P i view K) {snapshot : BookmarkSnapshotV1}
    {ok : RestoreResult → Journal C → W → Prop}
    (mismatch : snapshot.profileDirectory ≠ profile.directoryName →
      ∀ e, error e journal w)
    (restored : ∀ w₁ w₂ path, K.rely w w₁ → K.inv w₁ →
      K.exec (.replaceFile (.json (chromiumBookmarksJson snapshot))) (.backedUp path) w₁ =
        some (w₂, .ok path) →
      view w₂ = (view w₁).setDevice i (((view w₁).device i).replaced
        (some (.json (chromiumBookmarksJson snapshot)))) →
      K.inv w₂ ∧ K.guar journal (.replaceFile (.json (chromiumBookmarksJson snapshot))) w₁
        (.ok path) w₂ ∧
      ok ⟨path, bookmarkStats P snapshot⟩ (journal ++
        [⟨.replaceFile (.json (chromiumBookmarksJson snapshot)), .ok path⟩]) w₂)
    (failed : ∀ w₁ w₂ choice e, K.rely w w₁ → K.inv w₁ →
      K.allow journal (.replaceFile (.json (chromiumBookmarksJson snapshot))) choice w₁ →
      (∀ path, choice ≠ .backedUp path) →
      (w₂ = w₁ ∨ ∃ file, view w₂ = (view w₁).setDevice i (((view w₁).device i).replaced file) ∧
        (file = ((view w₁).device i).bookmarks ∨
          file = some (.json (chromiumBookmarksJson snapshot)) ∨
          file = none ∧ ∃ details, choice = .failedLost details)) →
      K.inv w₂ ∧ K.guar journal (.replaceFile (.json (chromiumBookmarksJson snapshot))) w₁
        (.error e) w₂ ∧
      error e (journal ++
        [⟨.replaceFile (.json (chromiumBookmarksJson snapshot)), .error e⟩]) w₂) :
    (HeliumSync.restoreBookmarks P profile snapshot).Attempts K ok error journal w := by
  rw [HeliumSync.restoreBookmarks]
  split_ifs with differ
  · exact Action.attempts_throw.mpr (mismatch differ _)
  · refine Action.attempts_bind.mpr fun w₁ moved held choice w₂ reply allowed ran => ?_
    rcases World.replaceFile_cases (serves.exec ran) with
      ⟨path, rfl, rfl, changed⟩ | ⟨e, rfl, unlike, outcome⟩
    · exact restored w₁ w₂ path moved held ran changed
    · exact failed w₁ w₂ choice e moved held allowed unlike
        (outcome.imp_left (serves.still ran))

end Bookmarks

section Persist
variable {core : ClientCore} {nameSpace directory : String} {plaintext : Plaintext}
  {key : LocalKey} {object : ObjectMapping} {label : ClientError → String}

/-- The local state after `save_sync_state`. -/
def persisted (key : LocalKey) (object : ObjectMapping) (base : EncryptedEnvelopeV1 C)
    (device : ClientDevice C) : ClientDevice C :=
  { device with
    state := { device.state with
      mappings := Function.update device.state.mappings key (some object)
      syncBases := Function.update device.state.syncBases key (some base) } }

@[simp] theorem persisted_mappings_self (base : EncryptedEnvelopeV1 C) (device : ClientDevice C) :
    (persisted key object base device).state.mappings key = some object := Function.update_self ..

theorem persisted_mappings_of_ne {other : LocalKey} (differ : other ≠ key)
    (base : EncryptedEnvelopeV1 C) (device : ClientDevice C) :
    (persisted key object base device).state.mappings other = device.state.mappings other :=
  Function.update_of_ne differ ..

@[simp] theorem persisted_syncBases_self (base : EncryptedEnvelopeV1 C) (device : ClientDevice C) :
    (persisted key object base device).state.syncBases key = some base := Function.update_self ..

theorem persisted_syncBases_of_ne {other : LocalKey} (differ : other ≠ key)
    (base : EncryptedEnvelopeV1 C) (device : ClientDevice C) :
    (persisted key object base device).state.syncBases other = device.state.syncBases other :=
  Function.update_of_ne differ ..

/-- The rule of `persist_sync_state` and of `persist_extension_sync_state`. -/
theorem persist (serves : Serves P i view K) {ok : Unit → Journal C → W → Prop}
    {error : String → Journal C → W → Prop}
    (saved : ∀ w₀ s w₁ w₂ envelope, K.rely w w₀ → K.allow journal .sample (.sampled s) w₀ →
      K.rely w₀ w₁ → K.inv w₁ →
      core.protectBase P nameSpace directory plaintext s.nonce = .ok envelope →
      view w₂ = (view w₁).setDevice i (persisted key object envelope ((view w₁).device i)) →
      K.inv w₂ ∧
        K.guar (journal ++ [⟨.sample, s⟩]) (.saveSyncState key object envelope) w₁ (.ok ()) w₂ ∧
        ok () (journal ++ [⟨.sample, s⟩] ++ [⟨.saveSyncState key object envelope, .ok ()⟩]) w₂)
    (failed : ∀ w₀ s w₁ envelope choice e, K.rely w w₀ → K.allow journal .sample (.sampled s) w₀ →
      K.rely w₀ w₁ → K.inv w₁ →
      core.protectBase P nameSpace directory plaintext s.nonce = .ok envelope →
      K.allow (journal ++ [⟨.sample, s⟩]) (.saveSyncState key object envelope) choice w₁ →
      (choice = .proceed → ¬ object.revision.val < 9223372036854775808) →
      K.guar (journal ++ [⟨.sample, s⟩]) (.saveSyncState key object envelope) w₁ (.error e) w₁ ∧
        error e.message (journal ++ [⟨.sample, s⟩] ++
          [⟨.saveSyncState key object envelope, .error e⟩]) w₁)
    (unsealed : ∀ w₀ s e, K.rely w w₀ → K.inv w₀ → K.allow journal .sample (.sampled s) w₀ →
      core.protectBase (C := C) P nameSpace directory plaintext s.nonce = .error e →
      error (label e) (journal ++ [⟨.sample, s⟩]) w₀) :
    Action.Attempts K ok error (do
      let sample ← Action.mapErr ClientError.message HeliumSync.sample
      let encrypted ← Action.mapErr label
        (.ofExcept (core.protectBase P nameSpace directory plaintext sample.nonce))
      Action.mapErr ClientError.message (HeliumSync.saveSyncState key object encrypted)) journal w := by
  refine Action.attempts_bind.mpr (Action.attempts_mapErr.mpr
    (serves.sample fun w₀ s moved₀ held₀ allowed₀ => ?_))
  refine Action.attempts_bind.mpr (Action.attempts_mapErr.mpr (Action.attempts_ofExcept.mpr
    ⟨fun envelope sealed => ?_, fun e bad => unsealed w₀ s e moved₀ held₀ allowed₀ bad⟩))
  refine Action.attempts_mapErr.mpr fun w₁ moved held choice w₂ reply allowed ran => ?_
  rcases World.saveSyncState_cases (serves.exec ran) with
    ⟨rfl, rfl, _, changed⟩ | ⟨same, e, rfl, fits⟩
  · exact saved w₀ s w₁ w₂ envelope moved₀ allowed₀ moved held sealed changed
  · cases serves.still ran same
    obtain ⟨owed, next⟩ :=
      failed w₀ s w₁ envelope choice e moved₀ allowed₀ moved held sealed allowed fits
    exact ⟨held, owed, next⟩

end Persist

/-- The rule of `capture_extensions`. -/
theorem captureExtensions (serves : Serves P i view K)
    {ok : ExtensionBundleDescriptor × Bytes → Journal C → W → Prop}
    {error : String → Journal C → W → Prop}
    (good : ∀ w₁ descriptor archive journal', K.rely w w₁ → K.inv w₁ →
      descriptor.profileDirectory = session.profile.directoryName →
      descriptor.archiveSha256 = P.sha256 ((view w₁).device i).extensions.1 →
      ok (descriptor, archive) journal' w₁)
    (bad : ∀ w₁ choice e journal', K.rely w w₁ → K.inv w₁ →
      K.allow journal .createExtensionBundle choice w₁ → choice ≠ .proceed →
      error e journal' w₁) :
    (session.captureExtensions P).Attempts K ok error journal w := by
  refine Action.attempts_bind.mpr (serves.step .createExtensionBundle trivial ?_)
  intro w₁ choice reply moved held allowed ran
  rcases (World.createExtensionBundle_cases ran).2 with rfl | ⟨fault, e, rfl⟩
  · exact good w₁ _ _ _ moved held rfl rfl
  · exact bad w₁ choice e _ moved held allowed fault

/-- The rule of reading the merge base back. -/
theorem bookmarkBase (serves : Serves P i view K)
    {ok : Option BookmarkSnapshotV1 → Journal C → W → Prop}
    {error : String → Journal C → W → Prop}
    (good : ∀ w₁ base reply, K.rely w w₁ → K.inv w₁ →
      session.openedBase P (((view w₁).device i).state.syncBases session.bookmarkKey) = .ok base →
      ok base (journal ++ [⟨.syncBase session.bookmarkKey, reply⟩]) w₁)
    (bad : ∀ w₁ choice reply e, K.rely w w₁ → K.inv w₁ →
      K.allow journal (.syncBase session.bookmarkKey) choice w₁ →
      (choice = .proceed → session.openedBase P
        (((view w₁).device i).state.syncBases session.bookmarkKey) = .error e) →
      error e (journal ++ [⟨.syncBase session.bookmarkKey, reply⟩]) w₁) :
    (session.bookmarkBase P).Attempts K ok error journal w := by
  refine Action.attempts_bind.mpr (Action.attempts_mapErr.mpr (serves.syncBase
    (fun w₁ moved held allowed => ?_) fun w₁ details moved held allowed =>
      bad w₁ _ _ _ moved held allowed nofun))
  cases stored : ((view w₁).device i).state.syncBases session.bookmarkKey with
  | none => exact good w₁ none _ moved held (by rw [stored]; rfl)
  | some encrypted =>
      refine Action.attempts_bind.mpr (Action.attempts_mapErr.mpr (Action.attempts_ofExcept.mpr
        ⟨fun plaintext opened => ?_, fun e failed => ?_⟩))
      · refine Action.attempts_bind.mpr (Action.attempts_mapErr.mpr (Action.attempts_ofExcept.mpr
          ⟨fun base parsed => ?_, fun e failed => ?_⟩))
        · refine good w₁ (some base) _ moved held ?_
          rw [stored, Session.openedBase_some opened, parsed]
          rfl
        · refine bad w₁ _ _ _ moved held allowed fun _ => ?_
          rw [stored, Session.openedBase_some opened, failed]
          rfl
      · refine bad w₁ _ _ _ moved held allowed fun _ => ?_
        rw [stored, Session.openedBase, failed]
        rfl

/-- The rule of discovery, by the object it comes upon. -/
theorem discover (serves : Serves P i view K) {core : ClientCore} {nameSpace : String} {α : Type}
    {read : Json → Except String α} {belongs : α → Bool}
    {ok : Option (α × SyncProof) → Journal C → W → Prop}
    {error : ClientError → Journal C → W → Prop}
    (found : ∀ w₁ journal' id row value, K.rely w w₁ → K.inv w₁ → Continues journal journal' →
      (view w₁).server.objects id = some row → row.nameSpace = nameSpace →
      RowReads P core.masterKey read id row value → belongs value = true →
      ok (some (value, ⟨id, nameSpace, row.revision.toU64, row.cursor.toU64, true⟩)) journal' w₁)
    (absent : ∀ w₁ journal', K.rely w w₁ → K.inv w₁ → Continues journal journal' →
      ok none journal' w₁)
    (bad : ∀ w₁ e journal', K.rely w w₁ → K.inv w₁ → Continues journal journal' →
      error e journal' w₁) :
    Action.Attempts K ok error (do
      let candidates ← ClientCore.discoverChanges nameSpace [] 0
      ClientCore.firstOf (fun id => do
        let (plaintext, proof) ← core.download P nameSpace id
        let value ← .ofExcept (ClientCore.parseAs P read plaintext)
        return (value, proof)) belongs (liveCandidates candidates)) journal w := by
  have relied {w₀ w₁ : W} (before : w₀ = w ∨ K.rely w w₀) (moved : K.rely w₀ w₁) : K.rely w w₁ :=
    before.elim (fun same => same ▸ moved) fun earlier => serves.trans earlier moved
  refine Action.attempts_bind.mpr (serves.discoverChanges (.refl journal)
    (fun _ _ w₀ => w₀ = w ∨ K.rely w w₀)
    (fun noted after w₀ w₁ page journal' before moved held _ continues => ?_)
    (fun noted after w₀ w₁ choice e earlier journal' before moved held _ _ continues =>
      bad w₁ e journal' (relied before moved) held continues) (.inl rfl))
  have here := relied before moved
  split_ifs
  · exact .inr here
  · exact bad w₁ _ journal' here held continues
  · refine serves.firstOf continues (fun _ w₁ => K.rely w w₁ ∧ K.inv w₁)
      (fun candidate rest w₂ w₃ row value journal'' before moved' held' held_row space reads
        continues' => ?_)
      (fun candidate rest w₂ w₃ before moved' held' _ =>
        ⟨serves.trans before.1 moved', held'⟩)
      (fun candidate rest w₂ w₃ choice e earlier journal'' before moved' held' _ _ _ continues' =>
        bad w₃ e journal'' (serves.trans before.1 moved') held' continues')
      (fun w₂ journal'' before continues' => absent w₂ journal'' before.1 before.2 continues')
      ⟨here, held⟩
    have here' := serves.trans before.1 moved'
    split_ifs with mine
    · exact found w₃ journal'' _ row value here' held' continues' held_row space reads mine
    · exact ⟨here', held'⟩

/-- The rule of finding the object of a profile: the mapped one, or else one discovered. -/
theorem remoteObject (serves : Serves P i view K) {core : ClientCore} {key : LocalKey}
    {nameSpace : String} {α : Type} {read : Json → Except String α} {belongs : α → Bool}
    {ok : Option (α × SyncProof) → Journal C → W → Prop}
    {error : String → Journal C → W → Prop}
    (found : ∀ w₁ w₂ journal' id row remote, K.rely w w₁ → K.rely w₁ w₂ → K.inv w₁ → K.inv w₂ →
      Continues journal journal' →
      (∀ object, ((view w₁).device i).state.mappings key = some object → id = object.objectId) →
      (view w₂).server.objects id = some row → row.nameSpace = nameSpace →
      RowReads P core.masterKey read id row remote →
      ok (some (remote, ⟨id, nameSpace, row.revision.toU64, row.cursor.toU64, true⟩)) journal' w₂)
    (absent : ∀ w₁ w₂ journal', K.rely w w₁ → K.rely w₁ w₂ → K.inv w₁ → K.inv w₂ →
      Continues journal journal' → ((view w₁).device i).state.mappings key = none →
      ok none journal' w₂)
    (bad : ∀ w₁ e journal', K.rely w w₁ → K.inv w₁ → Continues journal journal' →
      error e journal' w₁) :
    Action.Attempts K ok error (do
      match ← Action.mapErr ClientError.message (localMapping key) with
      | some mapping => do
          return some (← Action.mapErr ClientError.message (do
            let (plaintext, proof) ← core.download P nameSpace mapping.objectId
            let value ← .ofExcept (ClientCore.parseAs P read plaintext)
            return (value, proof)))
      | none => Action.mapErr ClientError.message (do
          let candidates ← ClientCore.discoverChanges nameSpace [] 0
          ClientCore.firstOf (fun id => do
            let (plaintext, proof) ← core.download P nameSpace id
            let value ← .ofExcept (ClientCore.parseAs P read plaintext)
            return (value, proof)) belongs (liveCandidates candidates))) journal w := by
  refine Action.attempts_bind.mpr (Action.attempts_mapErr.mpr (serves.mapping
    (fun w₁ moved held _ => ?_) fun w₁ details moved held _ =>
      bad w₁ _ _ moved held (.snoc (by exact trivial))))
  cases stored : ((view w₁).device i).state.mappings key with
  | some object =>
      refine Action.attempts_bind.mpr (Action.attempts_mapErr.mpr (serves.load
        (fun w₂ row stored' remote moved' held' held_row parsed space reads => ?_)
        fun w₂ choice reply e moved' held' _ _ => ?_))
      · refine Action.attempts_pure.mpr (found w₁ w₂ _ _ row remote moved moved' held held'
          (.trans (.snoc (by exact trivial)) (.snoc (by exact trivial))) (fun other same => ?_)
          held_row space reads)
        rw [stored] at same
        cases same
        rfl
      · exact bad w₂ _ _ (serves.trans moved moved') held'
          (.trans (.snoc (by exact trivial)) (.snoc (by exact trivial)))
  | none =>
      refine Action.attempts_mapErr.mpr (serves.discover
        (fun w₂ journal' id row remote moved' held' continues held_row space reads _ => ?_)
        (fun w₂ journal' moved' held' continues => ?_)
        fun w₂ e journal' moved' held' continues => ?_)
      · exact found w₁ w₂ journal' id row remote moved moved' held held'
          (.trans (.snoc (by exact trivial)) continues) (fun _ same => by rw [stored] at same; cases same)
          held_row space reads
      · exact absent w₁ w₂ journal' moved moved' held held'
          (.trans (.snoc (by exact trivial)) continues) stored
      · exact bad w₂ _ journal' (serves.trans moved moved') held'
          (.trans (.snoc (by exact trivial)) continues)

/-- The rule of finding the remote snapshot. -/
theorem remoteBookmarks (serves : Serves P i view K)
    {ok : Option (BookmarkSnapshotV1 × SyncProof) → Journal C → W → Prop}
    {error : String → Journal C → W → Prop}
    (found : ∀ w₁ w₂ journal' id row remote, K.rely w w₁ → K.rely w₁ w₂ → K.inv w₁ → K.inv w₂ →
      Continues journal journal' →
      (∀ object, ((view w₁).device i).state.mappings session.bookmarkKey = some object →
        id = object.objectId) →
      (view w₂).server.objects id = some row → row.nameSpace = bookmarkNamespace →
      RowReads P session.core.masterKey readSnapshot id row remote →
      ok (some (remote, ⟨id, bookmarkNamespace, row.revision.toU64, row.cursor.toU64, true⟩))
        journal' w₂)
    (absent : ∀ w₁ w₂ journal', K.rely w w₁ → K.rely w₁ w₂ → K.inv w₁ → K.inv w₂ →
      Continues journal journal' →
      ((view w₁).device i).state.mappings session.bookmarkKey = none → ok none journal' w₂)
    (bad : ∀ w₁ e journal', K.rely w w₁ → K.inv w₁ → Continues journal journal' →
      error e journal' w₁) :
    (session.remoteBookmarks P).Attempts K ok error journal w :=
  serves.remoteObject found absent bad

/-- The rule of finding the remote manifest. -/
theorem remoteExtensionManifest (serves : Serves P i view K)
    {ok : Option (ExtensionManifestV1 × SyncProof) → Journal C → W → Prop}
    {error : String → Journal C → W → Prop}
    (found : ∀ w₁ w₂ journal' id row remote, K.rely w w₁ → K.rely w₁ w₂ → K.inv w₁ → K.inv w₂ →
      Continues journal journal' →
      (∀ object, ((view w₁).device i).state.mappings session.extensionKey = some object →
        id = object.objectId) →
      (view w₂).server.objects id = some row → row.nameSpace = extensionManifestNamespace →
      RowReads P session.core.masterKey (readManifest P) id row remote →
      ok (some (remote, ⟨id, extensionManifestNamespace, row.revision.toU64, row.cursor.toU64,
        true⟩)) journal' w₂)
    (absent : ∀ w₁ w₂ journal', K.rely w w₁ → K.rely w₁ w₂ → K.inv w₁ → K.inv w₂ →
      Continues journal journal' →
      ((view w₁).device i).state.mappings session.extensionKey = none → ok none journal' w₂)
    (bad : ∀ w₁ e journal', K.rely w w₁ → K.inv w₁ → Continues journal journal' →
      error e journal' w₁) :
    (session.remoteExtensionManifest P).Attempts K ok error journal w :=
  serves.remoteObject found absent bad

/-- The rule of `save_bookmark_snapshot`. -/
theorem saveBookmarkSnapshot (serves : Serves P i view K) (lawful : P.Lawful)
    {snapshot : BookmarkSnapshotV1} (object : Option (ObjectId × U64))
    {ok : SyncProof → Journal C → W → Prop} {error : ClientError → Journal C → W → Prop}
    (duty : ∀ w₀ s, K.rely w w₀ → K.inv w₀ → K.allow journal .sample (.sampled s) w₀ →
      UploadDuty P view K session.core bookmarkNamespace (.json (writeSnapshot snapshot))
        (object.map Prod.snd) ((object.map Prod.fst).getD s.objectId) s
        (journal ++ [⟨.sample, s⟩]) w₀ ok error) :
    (session.core.saveBookmarkSnapshot P snapshot (object.map Prod.fst)
      (object.map Prod.snd)).Attempts K ok error journal w := by
  rw [ClientCore.saveBookmarkSnapshot, if_neg (by simp)]
  exact serves.upload lawful duty

/-- The rule of the upload of a sync. -/
theorem uploadMerged (serves : Serves P i view K) (lawful : P.Lawful)
    {remote merged : BookmarkSnapshotV1} {loaded : SyncProof}
    {ok : SyncProof → Journal C → W → Prop} {error : String → Journal C → W → Prop}
    (kept : merged = remote → ok loaded journal w)
    (duty : merged ≠ remote → ∀ w₀ s, K.rely w w₀ → K.inv w₀ →
      K.allow journal .sample (.sampled s) w₀ →
      UploadDuty P view K session.core bookmarkNamespace (.json (writeSnapshot merged))
        (some loaded.revision) loaded.objectId s (journal ++ [⟨.sample, s⟩]) w₀ ok
        fun e => error e.message) :
    (session.uploadMerged P remote loaded merged).Attempts K ok error journal w := by
  rw [Session.uploadMerged]
  split_ifs with changed
  · exact Action.attempts_mapErr.mpr (serves.saveBookmarkSnapshot lawful
      (some (loaded.objectId, loaded.revision)) (duty changed))
  · exact kept (not_not.mp changed)

/-- The rule of the local write of a sync. -/
theorem restoreMerged (serves : Serves P i view K) {loc merged : BookmarkSnapshotV1}
    {ok : Option String → Journal C → W → Prop} {error : String → Journal C → W → Prop}
    (kept : merged = loc → ok none journal w)
    (mismatch : merged ≠ loc → merged.profileDirectory ≠ session.profile.directoryName →
      ∀ e, error e journal w)
    (restored : merged ≠ loc → ∀ w₁ w₂ path, K.rely w w₁ → K.inv w₁ →
      K.exec (.replaceFile (.json (chromiumBookmarksJson merged))) (.backedUp path) w₁ =
        some (w₂, .ok path) →
      view w₂ = (view w₁).setDevice i (((view w₁).device i).replaced
        (some (.json (chromiumBookmarksJson merged)))) →
      K.inv w₂ ∧ K.guar journal (.replaceFile (.json (chromiumBookmarksJson merged))) w₁
        (.ok path) w₂ ∧
      ok (some path) (journal ++
        [⟨.replaceFile (.json (chromiumBookmarksJson merged)), .ok path⟩]) w₂)
    (failed : merged ≠ loc → ∀ w₁ w₂ choice e, K.rely w w₁ → K.inv w₁ →
      K.allow journal (.replaceFile (.json (chromiumBookmarksJson merged))) choice w₁ →
      (∀ path, choice ≠ .backedUp path) →
      (w₂ = w₁ ∨ ∃ file, view w₂ = (view w₁).setDevice i (((view w₁).device i).replaced file) ∧
        (file = ((view w₁).device i).bookmarks ∨
          file = some (.json (chromiumBookmarksJson merged)) ∨
          file = none ∧ ∃ details, choice = .failedLost details)) →
      K.inv w₂ ∧ K.guar journal (.replaceFile (.json (chromiumBookmarksJson merged))) w₁
        (.error e) w₂ ∧
      error e.message (journal ++
        [⟨.replaceFile (.json (chromiumBookmarksJson merged)), .error e⟩]) w₂) :
    (session.restoreMerged P loc merged).Attempts K ok error journal w := by
  rw [Session.restoreMerged]
  split_ifs with changed
  · refine Action.attempts_bind.mpr (Action.attempts_mapErr.mpr (serves.restoreBookmarks
      (fun differ e => mismatch changed differ _) (restored changed) (failed changed)))
  · exact kept (not_not.mp changed)

/-- The rule of `profile_name`: it reads only. -/
theorem profileName (serves : Serves P i view K) {ok : String → Journal C → W → Prop}
    {error : String → Journal C → W → Prop}
    (good : ∀ w₁ name rows, K.rely w w₁ → K.inv w₁ →
      ok name (journal ++ [⟨.profilePreferences, .ok rows⟩]) w₁)
    (bad : ∀ w₁ details, K.rely w w₁ → K.inv w₁ →
      K.allow journal .profilePreferences (.failed details) w₁ →
      error (ClientError.state details).message
        (journal ++ [⟨.profilePreferences, .error (.state details)⟩]) w₁) :
    (session.profileName : Client C String String).Attempts K ok error journal w :=
  Action.attempts_bind.mpr (Action.attempts_mapErr.mpr (serves.profilePreferences
    (fun w₁ rows moved held => Action.attempts_pure.mpr (good w₁ _ rows moved held))
    fun w₁ details moved held allowed => bad w₁ details moved held allowed))

end Serves
end HeliumSync
