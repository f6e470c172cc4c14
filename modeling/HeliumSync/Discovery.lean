import HeliumSync.Requests

/-! The rules of discovery: paging through the change feed, and loading candidates in turn. -/
namespace HeliumSync
open Interaction (Prog Action Entry Contract)

/-- A journal that goes on with entries that only read. -/
def Continues {C : Type} (journal journal' : Journal C) : Prop :=
  ∃ entries, journal' = journal ++ entries ∧ ∀ entry ∈ entries, entry.op.Observes

namespace Continues
variable {C : Type} {journal journal' journal'' : Journal C}

theorem refl (journal : Journal C) : Continues journal journal := ⟨[], by simp, nofun⟩

theorem trans (first : Continues journal journal') (later : Continues journal' journal'') :
    Continues journal journal'' := by
  obtain ⟨entries, rfl, observe⟩ := first
  obtain ⟨entries', rfl, observe'⟩ := later
  exact ⟨entries ++ entries', List.append_assoc .., fun entry member =>
    (List.mem_append.mp member).elim (observe entry) (observe' entry)⟩

theorem snoc {entry : Entry (Op C) (Reply C)} (observes : entry.op.Observes) :
    Continues journal (journal ++ [entry]) :=
  ⟨[entry], rfl, fun _ member => List.mem_singleton.mp member ▸ observes⟩

end Continues

namespace Serves
variable {ι C W : Type} [DecidableEq ι] {P : Primitives C} {i : ι} {view : W → World ι C}
  {K : Contract (Op C) (Reply C) W Choice} {core : ClientCore} {journal : Journal C} {w : W}
  {nameSpace : String} {error : ClientError → Journal C → W → Prop}

theorem changes (serves : Serves P i view K) {after : U64}
    {ok : ChangesResponse → Journal C → W → Prop}
    (good : ∀ w₁ page, K.rely w w₁ → K.inv w₁ →
      (view w₁).server.changesAfter P after defaultChangesLimit = .ok page →
      ok page (journal ++ [⟨.changes after, .ok page⟩]) w₁)
    (bad : ∀ w₁ choice e, K.rely w w₁ → K.inv w₁ → K.allow journal (.changes after) choice w₁ →
      Fault choice e (∃ cause, (view w₁).server.changesAfter P after defaultChangesLimit =
        .error cause ∧ e = apiError cause) →
      error e (journal ++ [⟨.changes after, .error e⟩]) w₁) :
    (HeliumSync.changes after).Attempts K ok error journal w :=
  serves.step (.changes after) trivial fun w₁ choice reply moved held allowed ran => by
    rcases (World.ask_cases ran).2 with ⟨rfl, same⟩ | ⟨e, same, fault, known⟩
    · cases found : (view w₁).server.changesAfter P after defaultChangesLimit with
      | ok page =>
          rw [found] at same
          cases same
          exact good w₁ page moved held found
      | error cause =>
          rw [found] at same
          cases same
          exact bad w₁ .proceed _ moved held allowed (.inl ⟨cause, found, rfl⟩)
    · cases same
      exact bad w₁ choice e moved held allowed (.inr ⟨fault, known⟩)

/-- The paging loop, with an invariant over what was noted and how far it has come. -/
theorem discoverChanges (serves : Serves P i view K) {ok : List Candidate → Journal C → W → Prop}
    {journal' : Journal C} (continues : Continues journal journal')
    (I : List Candidate → U64 → W → Prop)
    (pages : ∀ noted after w₀ w₁ page journal', I noted after w₀ → K.rely w₀ w₁ → K.inv w₁ →
      (view w₁).server.changesAfter P after defaultChangesLimit = .ok page →
      Continues journal journal' →
      if page.hasMore then
        if after < page.nextCursor then
          I ((page.changes.filter (·.nameSpace = nameSpace)).foldl noteChange noted)
            page.nextCursor w₁
        else error (.serialization "server change cursor did not advance") journal' w₁
      else ok ((page.changes.filter (·.nameSpace = nameSpace)).foldl noteChange noted) journal' w₁)
    (bad : ∀ noted after w₀ w₁ choice e earlier journal', I noted after w₀ → K.rely w₀ w₁ →
      K.inv w₁ → K.allow earlier (.changes after) choice w₁ →
      Fault choice e (∃ cause, (view w₁).server.changesAfter P after defaultChangesLimit =
        .error cause ∧ e = apiError cause) →
      Continues journal journal' → error e journal' w₁)
    {noted : List Candidate} {after : U64} {w : W} (start : I noted after w) :
    (ClientCore.discoverChanges nameSpace noted after).Attempts K ok error journal' w := by
  rw [ClientCore.discoverChanges]
  refine Action.attempts_bind.mpr (serves.changes (fun w₁ page moved held read => ?_)
    fun w₁ choice e moved held allowed fault =>
      bad noted after w w₁ choice e _ _ start moved held allowed fault
        (continues.trans (.snoc (by exact trivial))))
  have next := pages noted after w w₁ page (journal' ++ [⟨.changes after, .ok page⟩]) start moved
    held read
    (continues.trans (.snoc (by exact trivial)))
  split at next
  · next more =>
      rw [if_pos more]
      split at next
      · next advances =>
          rw [dif_pos advances]
          exact discoverChanges serves (continues.trans (.snoc (by exact trivial))) I pages bad next
      · next stuck =>
          rw [dif_neg stuck]
          exact next
  · next last =>
      rw [if_neg last]
      exact next
termination_by 18446744073709551616 - after.val
decreasing_by
  have := page.nextCursor.isLt
  have : after.val < page.nextCursor.val := by assumption
  omega

/-- The candidates loop, with an invariant over those that are left. -/
theorem firstOf (serves : Serves P i view K) {α : Type} {read : Json → Except String α}
    {belongs : α → Bool} {ok : Option (α × SyncProof) → Journal C → W → Prop}
    {journal' : Journal C} (continues : Continues journal journal')
    (I : List Candidate → W → Prop)
    (each : ∀ candidate rest w₀ w₁ row value journal', I (candidate :: rest) w₀ → K.rely w₀ w₁ →
      K.inv w₁ → (view w₁).server.objects candidate.objectId = some row →
      row.nameSpace = nameSpace → RowReads P core.masterKey read candidate.objectId row value →
      Continues journal journal' →
      if belongs value then
        ok (some (value, ⟨candidate.objectId, nameSpace, row.revision.toU64, row.cursor.toU64,
          true⟩)) journal' w₁
      else I rest w₁)
    (passed : ∀ candidate rest w₀ w₁, I (candidate :: rest) w₀ → K.rely w₀ w₁ → K.inv w₁ →
      core.loaded P read (view w₁).server nameSpace candidate.objectId =
        .error authenticationFailed → I rest w₁)
    (bad : ∀ candidate rest w₀ w₁ choice e earlier journal', I (candidate :: rest) w₀ →
      K.rely w₀ w₁ → K.inv w₁ → K.allow earlier (.getObject candidate.objectId) choice w₁ →
      Fault choice e (core.loaded P read (view w₁).server nameSpace candidate.objectId = .error e) →
      e ≠ authenticationFailed → Continues journal journal' → error e journal' w₁)
    (none : ∀ w₁ journal', I [] w₁ → Continues journal journal' → ok none journal' w₁)
    {candidates : List Candidate} (start : I candidates w) :
    (ClientCore.firstOf (fun id => do
      let (plaintext, proof) ← core.download P nameSpace id
      let value ← .ofExcept (ClientCore.parseAs P read plaintext)
      return (value, proof)) belongs candidates).Attempts K ok error journal' w := by
  induction candidates generalizing w journal' with
  | nil => exact none w journal' start continues
  | cons candidate rest ih =>
      refine Action.attempts_bind.mpr (Action.attempts_outcome.mpr (serves.load
        (fun w₁ row object value moved held found parsed space reads => ?_)
        fun w₁ choice reply e moved held allowed fault => ?_))
      · have next := each candidate rest w w₁ row value
          (journal' ++ [⟨.getObject candidate.objectId, .ok object⟩]) start moved held found space reads
          (continues.trans (.snoc (by exact trivial)))
        dsimp only
        split at next
        · next mine =>
            rw [if_pos mine]
            exact next
        · next other =>
            rw [if_neg other]
            exact ih (continues.trans (.snoc (by exact trivial))) next
      · dsimp only
        by_cases known : e = authenticationFailed
        · have failed := fault.resolve_right fun h => h.2 known
          rw [if_pos (by simpa [isUndecryptableCandidate] using known)]
          exact ih (continues.trans (.snoc (by exact trivial)))
            (passed candidate rest w w₁ start moved held (known ▸ failed))
        · rw [if_neg (by simpa [isUndecryptableCandidate] using known)]
          exact bad candidate rest w w₁ choice e _ _ start moved held allowed fault known
            (continues.trans (.snoc (by exact trivial)))

end Serves
/-! What discovery comes upon when nobody else writes. -/
namespace ClientCore
variable {C α : Type} (P : Primitives C) (core : ClientCore) (server : Server C)

def paged (nameSpace : String) (noted : List Candidate) (after : U64) :
    Except ClientError (List Candidate) := do
  let page ← (server.changesAfter P after defaultChangesLimit).mapError apiError
  let noted := (page.changes.filter (·.nameSpace = nameSpace)).foldl noteChange noted
  if page.hasMore then
    if _h : after < page.nextCursor then paged nameSpace noted page.nextCursor
    else throw (.serialization "server change cursor did not advance")
  else return noted
termination_by 18446744073709551616 - after.val
decreasing_by
  have := page.nextCursor.isLt
  have : after.val < page.nextCursor.val := _h
  omega

/-- The proof of a row as it stands. -/
def proofOf (nameSpace : String) (id : ObjectId) : SyncProof :=
  match server.objects id with
  | some row => ⟨id, nameSpace, row.revision.toU64, row.cursor.toU64, true⟩
  | none => ⟨id, nameSpace, 0, 0, true⟩

def fetched (read : Json → Except String α) (nameSpace : String) (id : ObjectId) :
    Except ClientError (α × SyncProof) := do
  return (← core.loaded P read server nameSpace id, proofOf server nameSpace id)

def firstFetched (read : Json → Except String α) (nameSpace : String) (belongs : α → Bool) :
    List Candidate → Except ClientError (Option (α × SyncProof))
  | [] => .ok none
  | candidate :: candidates =>
      match core.fetched P server read nameSpace candidate.objectId with
      | .ok (value, proof) =>
          if belongs value then .ok (some (value, proof))
          else firstFetched read nameSpace belongs candidates
      | .error error =>
          if isUndecryptableCandidate error then firstFetched read nameSpace belongs candidates
          else .error error

def discovered (read : Json → Except String α) (nameSpace : String) (belongs : α → Bool) :
    Except ClientError (Option (α × SyncProof)) := do
  core.firstFetched P server read nameSpace belongs
    (liveCandidates (← paged P server nameSpace [] 0))

end ClientCore

section
variable {C α : Type} {P : Primitives C} {core : ClientCore} {server : Server C}
  {read : Json → Except String α} {nameSpace : String} {id : ObjectId}

theorem proofOf_row {row : ObjectRow C} (found : server.objects id = some row) :
    ClientCore.proofOf server nameSpace id =
      ⟨id, nameSpace, row.revision.toU64, row.cursor.toU64, true⟩ := by
  rw [ClientCore.proofOf, found]

theorem fetched_ok {value : α} {proof : SyncProof} :
    core.fetched P server read nameSpace id = .ok (value, proof) ↔
      ∃ row, server.objects id = some row ∧ row.nameSpace = nameSpace ∧
        RowReads P core.masterKey read id row value ∧
        proof = ⟨id, nameSpace, row.revision.toU64, row.cursor.toU64, true⟩ := by
  rw [ClientCore.fetched, Fallible.bind_ok_iff]
  constructor
  · rintro ⟨value', loaded, same⟩
    cases same
    obtain ⟨row, found, space, reads⟩ := ClientCore.loaded_ok.mp loaded
    exact ⟨row, found, space, reads, proofOf_row found⟩
  · rintro ⟨row, found, space, reads, rfl⟩
    refine ⟨value, ClientCore.loaded_ok.mpr ⟨row, found, space, reads⟩, ?_⟩
    rw [proofOf_row found]
    rfl

theorem fetched_error {e : ClientError} :
    core.fetched P server read nameSpace id = .error e ↔
      core.loaded P read server nameSpace id = .error e := by
  rw [ClientCore.fetched]
  cases core.loaded P read server nameSpace id with
  | ok value => exact ⟨nofun, nofun⟩
  | error e' => exact ⟨fun h => by cases h; rfl, fun h => by cases h; rfl⟩

theorem firstFetched_some {belongs : α → Bool} {candidates : List Candidate} {value : α}
    {proof : SyncProof} (found : core.firstFetched P server read nameSpace belongs candidates =
      .ok (some (value, proof))) :
    ∃ id, core.fetched P server read nameSpace id = .ok (value, proof) ∧ belongs value := by
  induction candidates with
  | nil => cases found
  | cons candidate rest ih =>
      rw [ClientCore.firstFetched] at found
      split at found
      · next value' proof' fetched =>
          split_ifs at found with mine
          · cases found
            exact ⟨_, fetched, mine⟩
          · exact ih found
      · split_ifs at found
        exact ih found

/-- What was discovered was read from an object and belongs to the profile. -/
theorem discovered_some {belongs : α → Bool} {value : α} {proof : SyncProof}
    (found : core.discovered P server read nameSpace belongs = .ok (some (value, proof))) :
    ∃ id, core.fetched P server read nameSpace id = .ok (value, proof) ∧ belongs value := by
  obtain ⟨_, _, found⟩ := Fallible.bind_ok_iff.mp found
  exact firstFetched_some found

end

end HeliumSync
