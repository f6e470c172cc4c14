import HeliumSync.MergeLaw
import HeliumSync.Writers

/-! Discovery is exact: it finds the newest object that the client reads and that belongs to the
profile. -/
namespace HeliumSync
open Interaction (Prog Action)

section
variable {C α : Type} (P : Primitives C)

/-- Different master keys derive different keys for an object. -/
structure Primitives.Separates : Prop where
  distinct : ∀ {salt info} {a b : MasterKey},
    P.hkdf salt a.bytes info = P.hkdf salt b.bytes info → a = b

/-- What this server answers to the requests of a client, while nobody writes. -/
structure Honest (server : Server C) (answers : (op : Op C) → Reply C op) : Prop where
  gets : ∀ id, answers (.getObject id) = (server.getObject P id).mapError apiError
  pages : ∀ after, answers (.changes after) =
    (server.changesAfter P after defaultChangesLimit).mapError apiError

/-- Every snapshot that an object holds parses back. -/
def Legible (server : Server C) : Prop :=
  ∀ id row masterKey snapshot, server.objects id = some row →
    SealedRow P id row masterKey (.json (writeSnapshot snapshot)) →
    ClientCore.parseAs P readSnapshot (.json (writeSnapshot snapshot)) = .ok snapshot

variable (core : ClientCore) (read : Json → Except String α) (nameSpace : String)
  (belongs : α → Bool) (server : Server C)

/-- A live object of the namespace that the client can read and that belongs to it. -/
structure Findable (id : ObjectId) (row : ObjectRow C) (value : α) : Prop where
  here : server.objects id = some row
  live : row.deleted = false
  space : row.nameSpace = nameSpace
  reads : RowReads P core.masterKey read id row value
  mine : belongs value = true

/-- What the feed last shows of an object in the namespace. -/
def latestIn (nameSpace : String) (server : Server C) (id : ObjectId) : Option ChangeRow :=
  ((server.changes.filter (·.nameSpace = nameSpace)).filter (·.objectId = id)).getLast?

/-- An object that is live in the namespace for all that its feed shows, and is in another one. -/
structure Strayed (nameSpace : String) (server : Server C) (change : ChangeRow) : Prop where
  latest : latestIn nameSpace server change.objectId = some change
  live : change.deleted = false
  elsewhere : ∀ row, server.objects change.objectId = some row → row.nameSpace ≠ nameSpace

/-- What strayed from the namespace is older in it than an object that is to be found. -/
def Unmisled : Prop :=
  ∀ change, Strayed nameSpace server change → ∃ id row value,
    Findable P core read nameSpace belongs server id row value ∧ change.cursor < row.cursor

/-- The newest of these objects as it stands, or nothing if there is none. -/
def Newest : Option (α × SyncProof) → Prop
  | some (value, proof) => ∃ row,
      Findable P core read nameSpace belongs server proof.objectId row value ∧
      proof = ⟨proof.objectId, nameSpace, row.revision.toU64, row.cursor.toU64, true⟩ ∧
      ∀ id other value', Findable P core read nameSpace belongs server id other value' →
        other.cursor ≤ row.cursor
  | none => ∀ id row value, ¬ Findable P core read nameSpace belongs server id row value

end

variable {C α : Type} {P : Primitives C} {core : ClientCore} {server : Server C}
  {answers : (op : Op C) → Reply C op} {nameSpace : String}

/-! What the feed leaves noted. -/

/-- A change as discovery notes it. -/
def candidateOf (row : ChangeRow) : Candidate := ⟨row.objectId, row.cursor.toU64, row.deleted⟩

theorem foldl_noteChange {rows : List ChangeRow} {changes : List Change}
    (read : rows.mapM (Server.rowToChange P) = .ok changes) (noted : List Candidate) :
    (changes.filter (·.nameSpace = nameSpace)).foldl noteChange noted =
      (rows.filter (·.nameSpace = nameSpace)).foldl (fun all row =>
        candidateOf row :: all.filter (·.objectId ≠ (candidateOf row).objectId)) noted := by
  induction rows generalizing changes noted with
  | nil =>
      cases read
      rfl
  | cons row rows ih =>
      rw [List.mapM_cons] at read
      obtain ⟨change, first, read⟩ := Fallible.bind_ok_iff.mp read
      obtain ⟨others, later, same⟩ := Fallible.bind_ok_iff.mp read
      cases same
      obtain ⟨cursor, id, space, deleted⟩ := Server.rowToChange_ok first
      by_cases mine : row.nameSpace = nameSpace
      · rw [List.filter_cons_of_pos (by simpa [space] using mine),
          List.filter_cons_of_pos (by simpa using mine), List.foldl_cons, List.foldl_cons, ih later,
          noteChange, cursor, id, deleted]
        rfl
      · rw [List.filter_cons_of_neg (by simpa [space] using mine),
          List.filter_cons_of_neg (by simpa using mine), ih later]

theorem latestIn_some {id : ObjectId} {change : ChangeRow}
    (last : latestIn nameSpace server id = some change) :
    change ∈ server.changes ∧ change.nameSpace = nameSpace ∧ change.objectId = id := by
  obtain ⟨member, named⟩ := List.mem_filter.mp (List.mem_of_getLast? last)
  obtain ⟨member, space⟩ := List.mem_filter.mp member
  exact ⟨member, of_decide_eq_true space, of_decide_eq_true named⟩

/-- Of an object that is in the namespace the feed last shows it as it stands. -/
theorem latestIn_row (sound : server.Sound) {id : ObjectId} {row : ObjectRow C}
    (found : server.objects id = some row) (space : row.nameSpace = nameSpace) :
    latestIn nameSpace server id = some (Server.changeOf id row) := by
  have latest := sound.latest id
  rw [found, Option.map_some] at latest
  obtain ⟨earlier, split⟩ := List.getLast?_eq_some_iff.mp latest.symm
  rw [latestIn, List.filter_comm]
  change ((server.changesOf id).filter (·.nameSpace = nameSpace)).getLast? = _
  have last : [Server.changeOf id row].filter (·.nameSpace = nameSpace) =
      [Server.changeOf id row] := by simp [Server.changeOf, space]
  rw [split, List.filter_append, last, List.getLast?_concat]

/-- Two changes of one cursor are one. -/
theorem change_inj (sound : server.Sound) {a b : ChangeRow} (first : a ∈ server.changes)
    (other : b ∈ server.changes) (same : a.cursor = b.cursor) : a = b :=
  List.inj_on_of_nodup_map sound.ascending.nodup first other same

/-- What is noted of a namespace: the last that it shows of every object. -/
theorem mem_noted {changes : List Change}
    (read : server.changes.mapM (Server.rowToChange P) = .ok changes) {noted : Candidate} :
    noted ∈ (changes.filter (·.nameSpace = nameSpace)).foldl noteChange [] ↔
      ∃ change, latestIn nameSpace server noted.objectId = some change ∧
        noted = candidateOf change := by
  rw [foldl_noteChange read, Log.mem_foldl_note]
  rfl

/-- The candidates that discovery comes to, the newest first. -/
def candidatesIn (nameSpace : String) (changes : List Change) : List Candidate :=
  liveCandidates ((changes.filter (·.nameSpace = nameSpace)).foldl noteChange [])

theorem mem_liveCandidates {candidates : List Candidate} {candidate : Candidate} :
    candidate ∈ liveCandidates candidates ↔ candidate ∈ candidates ∧ candidate.deleted = false := by
  rw [liveCandidates, List.mem_insertionSort, List.mem_filter]
  simp

/-- The candidates come with the newest first. -/
theorem liveCandidates_sorted (candidates : List Candidate) :
    (liveCandidates candidates).Pairwise fun a b => b.cursor ≤ a.cursor := by
  have total : Std.Total fun a b : Candidate => b.cursor ≤ a.cursor :=
    ⟨fun a b => le_total b.cursor a.cursor⟩
  have trans : IsTrans Candidate fun a b => b.cursor ≤ a.cursor :=
    ⟨fun _ _ _ first later => le_trans later first⟩
  exact List.pairwise_insertionSort _ _

theorem mem_candidatesIn {changes : List Change}
    (read : server.changes.mapM (Server.rowToChange P) = .ok changes) {candidate : Candidate} :
    candidate ∈ candidatesIn nameSpace changes ↔
      ∃ change, latestIn nameSpace server candidate.objectId = some change ∧
        candidate = candidateOf change ∧ change.deleted = false := by
  rw [candidatesIn, mem_liveCandidates, mem_noted read]
  constructor
  · rintro ⟨⟨change, last, rfl⟩, alive⟩
    exact ⟨change, last, rfl, alive⟩
  · rintro ⟨change, last, rfl, alive⟩
    exact ⟨⟨change, last, rfl⟩, alive⟩

/-! What the client makes of the candidates. -/

/-- A record that somebody else sealed fails to authenticate. -/
theorem decrypt_other_key (binds : P.Binds) (separates : P.Separates) {masterKey other : MasterKey}
    (differ : other ≠ masterKey) {metadata : ObjectMetadata} {plaintext : Plaintext} {nonce : Bytes}
    {envelope : EncryptedEnvelopeV1 C}
    (sealed : encrypt P masterKey metadata plaintext nonce = .ok envelope) {object : SyncObject C}
    (held : object.envelope = some envelope) {plaintext' : Plaintext}
    (opened : decrypt P masterKey object = .ok plaintext') :
    decrypt P other object = .error authenticationFailed := by
  obtain ⟨key₀, aad₀, ciphertext, _, _, encrypted, rfl⟩ := encrypt_ok sealed
  unfold decrypt at opened ⊢
  rw [held] at opened ⊢
  dsimp only at opened ⊢
  split_ifs at opened ⊢ with unsupported
  · cases opened
  · obtain ⟨key, derived, opened⟩ := Fallible.bind_ok_iff.mp opened
    obtain ⟨aad, bound, opened⟩ := Fallible.bind_ok_iff.mp opened
    obtain ⟨info, known, same⟩ := Fallible.bind_ok_iff.mp derived
    cases same
    have derived' : deriveKey P other object.id object.nameSpace 1 =
        .ok (P.hkdf (uuidBytes object.id.uuid) other.bytes info) :=
      Fallible.bind_ok_iff.mpr ⟨info, known, rfl⟩
    rw [derived', bound]
    simp only [bind, Except.bind]
    cases found : P.aeadDecrypt (P.hkdf (uuidBytes object.id.uuid) other.bytes info) nonce aad
        ciphertext with
    | none => rfl
    | some plain =>
        exfalso
        split at opened
        · next plain' found' =>
            obtain ⟨mine, _, _⟩ := binds.same_context encrypted found'
            obtain ⟨others, _, _⟩ := binds.same_context encrypted found
            exact differ (separates.distinct (others.trans mine.symm))
        · cases opened

/-- A live object that somebody sealed is read by the client or fails to authenticate. -/
theorem SealedRow.fetched (binds : P.Binds) (separates : P.Separates)
    {read : Json → Except String α} {id : ObjectId} {row : ObjectRow C} {masterKey : MasterKey}
    {plaintext : Plaintext} (sealed : SealedRow P id row masterKey plaintext)
    (found : server.objects id = some row) (space : row.nameSpace = nameSpace)
    {value : α} (parses : ClientCore.parseAs P read plaintext = .ok value) :
    (∃ proof, core.fetched P server read nameSpace id = .ok (value, proof)) ∨
      core.fetched P server read nameSpace id = .error authenticationFailed := by
  by_cases mine : core.masterKey = masterKey
  · subst mine
    exact .inl ⟨_, fetched_ok.mpr ⟨row, found, space, ⟨plaintext, sealed.opens, parses⟩, rfl⟩⟩
  · right
    obtain ⟨metadata, nonce, envelope, encrypted, held⟩ := sealed.sealed
    obtain ⟨object, got, opened⟩ := sealed.opens
    obtain ⟨_, _, rfl⟩ := Server.rowToObject_ok got
    have failed := decrypt_other_key binds separates mine encrypted held opened
    rw [fetched_error, ClientCore.loaded, ClientCore.downloaded, Server.getObject_row found, got]
    change (if row.nameSpace = nameSpace then decrypt P core.masterKey _ else _) >>= _ = _
    rw [if_pos space, failed]
    rfl

/-- A download refuses an object of another namespace, and not as one that fails to authenticate. -/
theorem fetched_elsewhere {read : Json → Except String α} {id : ObjectId}
    (elsewhere : ∀ row, server.objects id = some row → row.nameSpace ≠ nameSpace) :
    ∃ e, core.fetched P server read nameSpace id = .error e ∧ e ≠ authenticationFailed := by
  simp only [fetched_error, ClientCore.loaded, ClientCore.downloaded]
  cases got : server.getObject P id with
  | error cause => exact ⟨apiError cause, rfl, fun same => by cases same⟩
  | ok object =>
      obtain ⟨row, found, parsed⟩ := Server.getObject_ok got
      obtain ⟨_, _, rfl⟩ := Server.rowToObject_ok parsed
      refine ⟨.serialization s!"server object has unexpected namespace {row.nameSpace}", ?_,
        fun same => by cases same⟩
      change ((if row.nameSpace = nameSpace then _ else _) >>= _) = _
      rw [if_neg (elsewhere row found)]
      rfl

/-- A download, against a server that answers as it stands. -/
theorem download_honest (honest : Honest P server answers) (id : ObjectId) :
    (core.download P nameSpace id).run.against answers = do
      let plaintext ← core.downloaded P server nameSpace id
      return (plaintext, ClientCore.proofOf server nameSpace id) := by
  have asked : (HeliumSync.getObject id : Client C ClientError (SyncObject C)).run.against answers =
      (server.getObject P id).mapError apiError := honest.gets id
  rw [ClientCore.download, Action.against_bind, asked, ClientCore.downloaded]
  cases got : server.getObject P id with
  | error cause => rfl
  | ok stored =>
      obtain ⟨row, found, parsed⟩ := Server.getObject_ok got
      obtain ⟨time, _, rfl⟩ := Server.rowToObject_ok parsed
      rw [proofOf_row found]
      change Prog.against answers (ExceptT.run (if row.nameSpace = nameSpace then _ else _)) =
        (if row.nameSpace = nameSpace then _ else _) >>= _
      split_ifs with space
      · subst space
        rw [Action.against_bind]
        rfl
      · rfl

/-- One load, against such a server. -/
theorem load_honest (honest : Honest P server answers) {read : Json → Except String α}
    (id : ObjectId) : (do
      let (plaintext, proof) ← core.download P nameSpace id
      let value ← .ofExcept (ClientCore.parseAs P read plaintext)
      return (value, proof) : Client C ClientError (α × SyncProof)).run.against answers =
      core.fetched P server read nameSpace id := by
  rw [Action.against_bind, download_honest honest, ClientCore.fetched, ClientCore.loaded]
  cases core.downloaded P server nameSpace id with
  | error e => rfl
  | ok plaintext =>
      exact Action.against_bind (.ofExcept (ClientCore.parseAs P read plaintext)) _

/-- The loop over candidates, against such a server. -/
theorem firstOf_honest (honest : Honest P server answers) {read : Json → Except String α}
    {belongs : α → Bool} (candidates : List Candidate) :
    (ClientCore.firstOf (fun id => do
      let (plaintext, proof) ← core.download P nameSpace id
      let value ← .ofExcept (ClientCore.parseAs P read plaintext)
      return (value, proof)) belongs candidates).run.against answers =
      core.firstFetched P server read nameSpace belongs candidates := by
  induction candidates with
  | nil => rfl
  | cons candidate candidates ih =>
      rw [ClientCore.firstOf, Action.against_bind, Action.against_outcome, load_honest honest,
        ClientCore.firstFetched]
      cases fetched : core.fetched P server read nameSpace candidate.objectId with
      | ok found =>
          obtain ⟨value, proof⟩ := found
          change Prog.against answers (ExceptT.run (if belongs value then _ else _)) =
            if belongs value then _ else _
          split_ifs
          · rfl
          · exact ih
      | error e =>
          change Prog.against answers (ExceptT.run (if isUndecryptableCandidate e then _ else _)) =
            if isUndecryptableCandidate e then _ else _
          split_ifs
          · exact ih
          · rfl

/-- The paging loop, against such a server: it notes all its changes. -/
theorem discoverChanges_honest (lawful : P.Lawful) (kept : Kept P server)
    (honest : Honest P server answers) (nameSpace : String) :
    ∃ changes, server.changes.mapM (Server.rowToChange P) = .ok changes ∧
      (ClientCore.discoverChanges nameSpace [] 0).run.against answers =
        .ok ((changes.filter (·.nameSpace = nameSpace)).foldl noteChange []) := by
  have all : server.beyond 0 = server.changes :=
    List.filter_eq_self.mpr fun change member => decide_eq_true (kept.counted change member)
  obtain ⟨outcome, run⟩ := @discoverChanges_ends _ _ lawful nameSpace [] 0 server kept.sound
    kept.readable
  obtain ⟨_, _, changes, read, rfl⟩ := discoverChanges_runs lawful kept.sound kept.readable
    (run.mono fun _ _ _ _ => trivial)
  rw [all] at read
  refine ⟨changes, read, ?_⟩
  refine Prog.Runs.against (I := fun later => later = server) ?_ run rfl
  intro op writes w w' reply same none ran
  subst same
  rw [none] at ran
  cases op with
  | changes after =>
      cases ran
      exact ⟨(honest.pages after).symm, rfl⟩
  | _ => cases ran

/-- The newest candidate whose object belongs, or none. -/
def Picks (P : Primitives C) (core : ClientCore) (server : Server C)
    (read : Json → Except String α) (nameSpace : String) (belongs : α → Bool)
    (candidates : List Candidate) : Option (α × SyncProof) → Prop
  | some (value, proof) => ∃ candidate ∈ candidates,
      core.fetched P server read nameSpace candidate.objectId = .ok (value, proof) ∧
      belongs value = true ∧ ∀ other ∈ candidates, ∀ value' proof',
        core.fetched P server read nameSpace other.objectId = .ok (value', proof') →
        belongs value' = true → other.cursor ≤ candidate.cursor
  | none => ∀ candidate ∈ candidates, ∀ value proof,
      core.fetched P server read nameSpace candidate.objectId = .ok (value, proof) →
      belongs value ≠ true

section
variable {read : Json → Except String α} {belongs : α → Bool} {candidates : List Candidate}

/-- A candidate that does not belong makes no difference. -/
theorem Picks.cons {first : Candidate} (other : ∀ value proof,
      core.fetched P server read nameSpace first.objectId = .ok (value, proof) →
      belongs value ≠ true) {result : Option (α × SyncProof)}
    (picks : Picks P core server read nameSpace belongs candidates result) :
    Picks P core server read nameSpace belongs (first :: candidates) result := by
  match result, picks with
  | some (value, proof), ⟨candidate, member, fetched, mine, newest⟩ =>
      refine ⟨candidate, List.mem_cons_of_mem first member, fetched, mine, ?_⟩
      intro other' member' value' proof' fetched' mine'
      rcases List.mem_cons.mp member' with rfl | later
      · exact absurd mine' (other value' proof' fetched')
      · exact newest other' later value' proof' fetched' mine'
  | none, nobody =>
      intro candidate member value proof fetched
      rcases List.mem_cons.mp member with rfl | later
      · exact other value proof fetched
      · exact nobody candidate later value proof fetched

/-- The candidate's object is read and belongs. -/
def Yields (P : Primitives C) (core : ClientCore) (server : Server C)
    (read : Json → Except String α) (nameSpace : String) (belongs : α → Bool)
    (candidate : Candidate) : Prop :=
  ∃ value proof, core.fetched P server read nameSpace candidate.objectId = .ok (value, proof) ∧
    belongs value = true

/-- The loop takes the first candidate that belongs, and those after it are older. -/
theorem firstFetched_picks (sorted : candidates.Pairwise fun a b => b.cursor ≤ a.cursor)
    (each : ∀ candidate ∈ candidates,
      (∃ value proof, core.fetched P server read nameSpace candidate.objectId = .ok (value, proof)) ∨
        core.fetched P server read nameSpace candidate.objectId = .error authenticationFailed ∨
          ∃ mine ∈ candidates, Yields P core server read nameSpace belongs mine ∧
            candidate.cursor < mine.cursor) :
    ∃ result, core.firstFetched P server read nameSpace belongs candidates = .ok result ∧
      Picks P core server read nameSpace belongs candidates result := by
  induction candidates with
  | nil => exact ⟨none, rfl, nofun⟩
  | cons first rest ih =>
      obtain ⟨older, sorted⟩ := List.pairwise_cons.mp sorted
      -- a candidate that does not belong is nobody's newer one
      have onward (passed : ¬ Yields P core server read nameSpace belongs first) :
          ∃ result, core.firstFetched P server read nameSpace belongs rest = .ok result ∧
            Picks P core server read nameSpace belongs rest result := by
        refine ih sorted fun other member => ?_
        refine (each other (List.mem_cons_of_mem first member)).imp_right (Or.imp_right ?_)
        rintro ⟨mine, there, yields, newer⟩
        rcases List.mem_cons.mp there with rfl | there
        · exact absurd yields passed
        · exact ⟨mine, there, yields, newer⟩
      rw [ClientCore.firstFetched]
      rcases each first List.mem_cons_self with ⟨value, proof, fetched⟩ | failed | newer
      · rw [fetched]
        by_cases mine : belongs value = true
        · refine ⟨some (value, proof), if_pos mine, first, List.mem_cons_self, fetched, mine, ?_⟩
          intro other member _ _ _ _
          rcases List.mem_cons.mp member with rfl | later
          · exact le_refl _
          · exact older other later
        · have passed (value' : α) (proof' : SyncProof)
              (fetched' : core.fetched P server read nameSpace first.objectId = .ok (value', proof')) :
              belongs value' ≠ true := by
            rw [fetched] at fetched'
            cases fetched'
            exact mine
          have unyielding : ¬ Yields P core server read nameSpace belongs first := by
            rintro ⟨value', proof', fetched', mine'⟩
            exact passed value' proof' fetched' mine'
          obtain ⟨result, ran, picks⟩ := onward unyielding
          exact ⟨result, (if_neg mine).trans ran, picks.cons passed⟩
      · have passed (value : α) (proof : SyncProof)
            (fetched : core.fetched P server read nameSpace first.objectId = .ok (value, proof)) :
            belongs value ≠ true := by
          rw [failed] at fetched
          cases fetched
        have unyielding : ¬ Yields P core server read nameSpace belongs first := by
          rintro ⟨value, proof, fetched, mine⟩
          exact passed value proof fetched mine
        obtain ⟨result, ran, picks⟩ := onward unyielding
        rw [failed]
        exact ⟨result, (if_pos (by decide)).trans ran, picks.cons passed⟩
      · obtain ⟨mine, there, _, newer⟩ := newer
        rcases List.mem_cons.mp there with rfl | there
        · exact absurd newer (lt_irrefl _)
        · exact absurd newer (not_lt.mpr (older mine there))

/-- The loop that came to an end met what stops it, if at all, after a candidate that belongs. -/
theorem yields_of_firstFetched (sorted : candidates.Pairwise fun a b => b.cursor ≤ a.cursor)
    {result : Option (α × SyncProof)}
    (ran : core.firstFetched P server read nameSpace belongs candidates = .ok result)
    {stray : Candidate} (member : stray ∈ candidates) {e : ClientError}
    (stops : core.fetched P server read nameSpace stray.objectId = .error e)
    (other : e ≠ authenticationFailed) :
    ∃ mine ∈ candidates, Yields P core server read nameSpace belongs mine ∧
      stray.cursor ≤ mine.cursor := by
  induction candidates with
  | nil => cases member
  | cons first rest ih =>
      obtain ⟨older, sorted⟩ := List.pairwise_cons.mp sorted
      have onward (ran : core.firstFetched P server read nameSpace belongs rest = .ok result)
          (later : stray ∈ rest) : ∃ mine ∈ first :: rest,
            Yields P core server read nameSpace belongs mine ∧ stray.cursor ≤ mine.cursor := by
        obtain ⟨mine, there, yields⟩ := ih sorted ran later
        exact ⟨mine, List.mem_cons_of_mem first there, yields⟩
      rw [ClientCore.firstFetched] at ran
      rcases List.mem_cons.mp member with rfl | later
      · rw [stops] at ran
        change (if isUndecryptableCandidate e then _ else _) = _ at ran
        rw [if_neg (by simpa [isUndecryptableCandidate] using other)] at ran
        cases ran
      · cases fetched : core.fetched P server read nameSpace first.objectId with
        | ok found =>
            obtain ⟨value, proof⟩ := found
            rw [fetched] at ran
            change (if belongs value then _ else _) = _ at ran
            split_ifs at ran with mine
            · exact ⟨first, List.mem_cons_self, ⟨value, proof, fetched, mine⟩, older stray later⟩
            · exact onward ran later
        | error e' =>
            rw [fetched] at ran
            change (if isUndecryptableCandidate e' then _ else _) = _ at ran
            split_ifs at ran
            exact onward ran later

end

section
variable {read : Json → Except String α} {belongs : α → Bool} {changes : List Change}

/-- Discovery in one namespace, against such a server: the loop over the candidates of its feed. -/
theorem discover_honest (lawful : P.Lawful) (kept : Kept P server)
    (honest : Honest P server answers) :
    ∃ changes, server.changes.mapM (Server.rowToChange P) = .ok changes ∧ (do
      let candidates ← ClientCore.discoverChanges nameSpace [] 0
      ClientCore.firstOf (fun id => do
        let (plaintext, proof) ← core.download P nameSpace id
        let value ← .ofExcept (ClientCore.parseAs P read plaintext)
        return (value, proof)) belongs (liveCandidates candidates)
      : Client C ClientError (Option (α × SyncProof))).run.against answers =
      core.firstFetched P server read nameSpace belongs (candidatesIn nameSpace changes) := by
  obtain ⟨changes, read', noted⟩ := discoverChanges_honest lawful kept honest nameSpace
  refine ⟨changes, read', ?_⟩
  rw [Action.against_bind, noted]
  exact firstOf_honest honest _

/-- A candidate that is read and belongs is to be found, under the cursor of its object. -/
theorem findable_of_fetched (sound : server.Sound)
    (read' : server.changes.mapM (Server.rowToChange P) = .ok changes) {candidate : Candidate}
    (member : candidate ∈ candidatesIn nameSpace changes) {value : α} {proof : SyncProof}
    (fetched : core.fetched P server read nameSpace candidate.objectId = .ok (value, proof))
    (mine : belongs value = true) : ∃ row,
      Findable P core read nameSpace belongs server candidate.objectId row value ∧
      proof = ⟨candidate.objectId, nameSpace, row.revision.toU64, row.cursor.toU64, true⟩ ∧
      candidate.cursor = row.cursor.toU64 := by
  obtain ⟨row, here, space, reads, rfl⟩ := fetched_ok.mp fetched
  obtain ⟨change, last, same, alive⟩ := (mem_candidatesIn read').mp member
  rw [latestIn_row sound here space] at last
  cases last
  exact ⟨row, ⟨here, alive, space, reads, mine⟩, rfl, congrArg Candidate.cursor same⟩

/-- What is to be found is a candidate. -/
theorem Findable.noticed (sound : server.Sound)
    (read' : server.changes.mapM (Server.rowToChange P) = .ok changes) {id : ObjectId}
    {row : ObjectRow C} {value : α}
    (findable : Findable P core read nameSpace belongs server id row value) :
    (⟨id, row.cursor.toU64, false⟩ : Candidate) ∈ candidatesIn nameSpace changes ∧
      ∃ proof, core.fetched P server read nameSpace id = .ok (value, proof) := by
  constructor
  · refine (mem_candidatesIn read').mpr
      ⟨_, latestIn_row sound findable.here findable.space, ?_, findable.live⟩
    rw [candidateOf, Server.changeOf, findable.live]
  · exact ⟨_, fetched_ok.mpr ⟨row, findable.here, findable.space, findable.reads, rfl⟩⟩

/-- Discovery that ends without an error was not misled. -/
theorem unmisled_of_firstFetched (sound : server.Sound)
    (read' : server.changes.mapM (Server.rowToChange P) = .ok changes)
    {result : Option (α × SyncProof)}
    (ran : core.firstFetched P server read nameSpace belongs (candidatesIn nameSpace changes) =
      .ok result) : Unmisled P core read nameSpace belongs server := by
  rintro change ⟨last, alive, elsewhere⟩
  obtain ⟨e, stops, other⟩ := @fetched_elsewhere _ _ P core server nameSpace read _ elsewhere
  have stray : candidateOf change ∈ candidatesIn nameSpace changes :=
    (mem_candidatesIn read').mpr ⟨change, last, rfl, alive⟩
  obtain ⟨mine, there, ⟨value, proof, fetched, belongs'⟩, newer⟩ :=
    yields_of_firstFetched (liveCandidates_sorted _) ran stray stops other
  obtain ⟨row, findable, _, cursor⟩ := findable_of_fetched sound read' there fetched belongs'
  refine ⟨_, row, value, findable, lt_of_le_of_ne ?_ ?_⟩
  · rw [cursor] at newer
    exact newer
  · intro same
    have written := (latestIn_some (latestIn_row sound findable.here findable.space)).1
    have shown := change_inj sound (latestIn_some last).1 written same
    exact elsewhere row (shown ▸ findable.here) findable.space

/-- Discovery that is not misled finds the newest object. -/
theorem firstFetched_newest (binds : P.Binds) (separates : P.Separates) (kept : Kept P server)
    (read' : server.changes.mapM (Server.rowToChange P) = .ok changes)
    (parses : ∀ id row masterKey plaintext, server.objects id = some row →
      row.nameSpace = nameSpace → SealedRow P id row masterKey plaintext →
      ∃ value, ClientCore.parseAs P read plaintext = .ok value)
    (unmisled : Unmisled P core read nameSpace belongs server) :
    ∃ result, core.firstFetched P server read nameSpace belongs (candidatesIn nameSpace changes) =
      .ok result ∧ Newest P core read nameSpace belongs server result := by
  obtain ⟨result, ran, picks⟩ := @firstFetched_picks _ _ P core server nameSpace read belongs
      (candidatesIn nameSpace changes) (liveCandidates_sorted _) (by
    intro candidate member
    obtain ⟨change, last, rfl, alive⟩ := (mem_candidatesIn read').mp member
    by_cases here : ∃ row, server.objects change.objectId = some row ∧ row.nameSpace = nameSpace
    · obtain ⟨row, here, space⟩ := here
      rw [candidateOf, latestIn_row kept.sound here space] at last
      have live : row.deleted = false :=
        (congrArg ChangeRow.deleted (Option.some.inj last)).trans alive
      obtain ⟨masterKey, plaintext, sealed⟩ := kept.authored _ row here live
      obtain ⟨value, parsed⟩ := parses _ row masterKey plaintext here space sealed
      rcases sealed.fetched binds separates here space parsed with ⟨proof, fetched⟩ | failed
      · exact .inl ⟨value, proof, fetched⟩
      · exact .inr (.inl failed)
    · obtain ⟨id, row, value, findable, newer⟩ := unmisled change
        ⟨last, alive, fun row found space => here ⟨row, found, space⟩⟩
      obtain ⟨member', proof, fetched⟩ := findable.noticed kept.sound read'
      exact .inr (.inr ⟨_, member', ⟨value, proof, fetched, findable.mine⟩, newer⟩))
  refine ⟨result, ran, ?_⟩
  match result, picks with
  | some (value, proof), ⟨candidate, member, fetched, mine, newest⟩ =>
      obtain ⟨row, findable, rfl, cursor⟩ :=
        findable_of_fetched kept.sound read' member fetched mine
      refine ⟨row, findable, rfl, ?_⟩
      intro id other value' findable'
      obtain ⟨member', proof', fetched'⟩ := findable'.noticed kept.sound read'
      have older := newest _ member' value' proof' fetched' findable'.mine
      rw [cursor] at older
      exact older
  | none, nobody =>
      intro id row value findable
      obtain ⟨member, proof, fetched⟩ := findable.noticed kept.sound read'
      exact nobody _ member value proof fetched findable.mine

end

/-- Where every object stayed in its namespace discovery is not misled. -/
theorem unmisled_of_stayed {read : Json → Except String α} {belongs : α → Bool}
    (stayed : ∀ change ∈ server.changes, ∃ row, server.objects change.objectId = some row ∧
      row.nameSpace = change.nameSpace) : Unmisled P core read nameSpace belongs server := by
  rintro change ⟨last, _, elsewhere⟩
  obtain ⟨member, space, _⟩ := latestIn_some last
  obtain ⟨row, found, same⟩ := stayed change member
  exact absurd (same.trans space) (elsewhere row found)

section
variable (P core) (read : Json → Except String α) (nameSpace : String) (belongs : α → Bool)
  (server : Server C)

/-- What discovery returns is the newest object as it stands, and it returns unless it is misled. -/
def Discovers (outcome : Except ClientError (Option (α × SyncProof))) : Prop :=
  (∀ result, outcome = .ok result → Newest P core read nameSpace belongs server result) ∧
    ((∃ result, outcome = .ok result) ↔ Unmisled P core read nameSpace belongs server)

end

theorem discovers_firstFetched (binds : P.Binds) (separates : P.Separates) (kept : Kept P server)
    {changes : List Change}
    (read' : server.changes.mapM (Server.rowToChange P) = .ok changes)
    {read : Json → Except String α} {belongs : α → Bool}
    (parses : ∀ id row masterKey plaintext, server.objects id = some row →
      row.nameSpace = nameSpace → SealedRow P id row masterKey plaintext →
      ∃ value, ClientCore.parseAs P read plaintext = .ok value) :
    Discovers P core read nameSpace belongs server
      (core.firstFetched P server read nameSpace belongs (candidatesIn nameSpace changes)) := by
  have newest := @firstFetched_newest _ _ P core server nameSpace read belongs changes binds
    separates kept read' parses
  refine ⟨fun result ran => ?_, ?_, ?_⟩
  · obtain ⟨result', ran', found⟩ := newest (unmisled_of_firstFetched kept.sound read' ran)
    rw [ran] at ran'
    cases ran'
    exact found
  · exact fun ⟨result, ran⟩ => unmisled_of_firstFetched kept.sound read' ran
  · exact fun unmisled => (newest unmisled).imp fun _ => And.left

/-- The paging loop as a function of the server. -/
theorem paged_beyond (lawful : P.Lawful) (sound : server.Sound) (readable : server.Readable P)
    (noted : List Candidate) (after : I64) :
    ∃ changes, (server.beyond after).mapM (Server.rowToChange P) = .ok changes ∧
      ClientCore.paged P server nameSpace noted after.toU64 =
        .ok ((changes.filter (·.nameSpace = nameSpace)).foldl noteChange noted) := by
  obtain ⟨changes, read, answered⟩ := Server.changesAfter_beyond lawful readable after
    (show 0 < defaultChangesLimit by decide) (by decide)
  rw [ClientCore.paged, answered]
  by_cases more : defaultChangesLimit < (server.beyond after).length
  · have here : server.beyond after ≠ [] := by
      intro nil
      rw [nil] at more
      exact absurd more (Nat.not_lt_zero _)
    have advances : after < Log.resume ChangeRow.cursor after
        ((server.beyond after).take defaultChangesLimit) := Log.lt_resume (by decide) here
    have advances' : after.toU64 < (Log.resume ChangeRow.cursor after
        ((server.beyond after).take defaultChangesLimit)).toU64 := advances
    obtain ⟨changes', read', ran⟩ := paged_beyond lawful sound readable
      ((changes.filter (·.nameSpace = nameSpace)).foldl noteChange noted)
      (Log.resume ChangeRow.cursor after ((server.beyond after).take defaultChangesLimit))
    refine ⟨changes ++ changes', ?_, ?_⟩
    · rw [Server.beyond_page List.prefix_rfl sound after defaultChangesLimit]
      exact Fallible.mapM_append_ok read read'
    · rw [List.filter_append, List.foldl_append, ← ran]
      exact (if_pos (decide_eq_true more)).trans (dif_pos advances')
  · have all := List.take_of_length_le (not_lt.mp more)
    refine ⟨changes, all ▸ read, ?_⟩
    exact if_neg (by simpa using more)
termination_by 9223372036854775808 - after.val
decreasing_by
  have bound := (Log.resume ChangeRow.cursor after
    ((server.beyond after).take defaultChangesLimit)).isLt
  have smaller : after.val < (Log.resume ChangeRow.cursor after
    ((server.beyond after).take defaultChangesLimit)).val := advances
  omega

/-- When no live change of the namespace is newer than an object, discovery comes upon that object
first. -/
theorem discovered_first (lawful : P.Lawful) (tidy : server.Tidy P)
    {read : Json → Except String α} {belongs : α → Bool} {id : ObjectId} {row : ObjectRow C}
    (found : server.objects id = some row) (space : row.nameSpace = nameSpace)
    (live : row.deleted = false)
    (newest : ∀ change ∈ server.changes, change.nameSpace = nameSpace → change.deleted = false →
      change.cursor ≤ row.cursor) :
    ∃ first rest, first.objectId = id ∧ core.discovered P server read nameSpace belongs =
      core.firstFetched P server read nameSpace belongs (first :: rest) := by
  have all : server.beyond 0 = server.changes :=
    List.filter_eq_self.mpr fun change member => decide_eq_true (tidy.counted change member)
  obtain ⟨changes, read', ran⟩ := @paged_beyond _ _ server nameSpace lawful tidy.sound tidy.readable [] 0
  rw [all] at read'
  have last := latestIn_row tidy.sound found space
  have written : Server.changeOf id row ∈ server.changes := (latestIn_some last).1
  have noted : (⟨id, row.cursor.toU64, row.deleted⟩ : Candidate) ∈
      (changes.filter (·.nameSpace = nameSpace)).foldl noteChange [] :=
    (mem_noted read').mpr ⟨Server.changeOf id row, last, rfl⟩
  have older {candidate : Candidate} (member : candidate ∈ liveCandidates
      ((changes.filter (·.nameSpace = nameSpace)).foldl noteChange [])) :
      ∃ change ∈ server.changes, candidate = candidateOf change ∧
        change.cursor ≤ row.cursor := by
    obtain ⟨member, alive⟩ := mem_liveCandidates.mp member
    obtain ⟨change, last, rfl⟩ := (mem_noted read').mp member
    obtain ⟨here, same, _⟩ := latestIn_some last
    exact ⟨change, here, rfl, newest change here same alive⟩
  have ours := mem_liveCandidates.mpr ⟨noted, live⟩
  have sorted := liveCandidates_sorted
    ((changes.filter (·.nameSpace = nameSpace)).foldl noteChange [])
  rw [ClientCore.discovered, show (0 : U64) = (0 : I64).toU64 from rfl, ran]
  change ∃ first rest, _ ∧ core.firstFetched P server read nameSpace belongs (liveCandidates _) = _
  cases list : liveCandidates ((changes.filter (·.nameSpace = nameSpace)).foldl noteChange []) with
  | nil =>
      rw [list] at ours
      cases ours
  | cons first rest =>
      rw [list] at ours sorted
      have same : first = ⟨id, row.cursor.toU64, row.deleted⟩ := by
        rcases List.mem_cons.mp ours with here | later
        · exact here.symm
        · have above := (List.pairwise_cons.mp sorted).1 _ later
          obtain ⟨change, member, rfl, below⟩ := older (list ▸ List.mem_cons_self)
          have cursors : change.cursor = row.cursor := le_antisymm below above
          have row_same := change_inj tidy.sound member written cursors
          rw [row_same]
          rfl
      exact ⟨first, rest, congrArg Candidate.objectId same, rfl⟩

/-- Such an object is what discovery returns if it belongs. -/
theorem discovered_newest (lawful : P.Lawful) (tidy : server.Tidy P)
    {read : Json → Except String α} {belongs : α → Bool} {id : ObjectId} {row : ObjectRow C}
    (found : server.objects id = some row) (space : row.nameSpace = nameSpace)
    (live : row.deleted = false)
    (newest : ∀ change ∈ server.changes, change.nameSpace = nameSpace → change.deleted = false →
      change.cursor ≤ row.cursor) {value : α} {proof : SyncProof}
    (fetched : core.fetched P server read nameSpace id = .ok (value, proof))
    (mine : belongs value = true) :
    core.discovered P server read nameSpace belongs = .ok (some (value, proof)) := by
  obtain ⟨first, rest, rfl, outcome⟩ := discovered_first lawful tidy found space live newest
  rw [outcome, ClientCore.firstFetched, fetched]
  exact if_pos mine

theorem Document.of_bookmarks {plaintext : Plaintext}
    (document : Document P nameSpace plaintext) (same : nameSpace = bookmarkNamespace) :
    ∃ snapshot, plaintext = .json (writeSnapshot snapshot) := by
  cases document with
  | bookmarks snapshot => exact ⟨snapshot, rfl⟩
  | synthetic | manifest | chunk => exact absurd same (by decide)

theorem Document.of_manifest {plaintext : Plaintext}
    (document : Document P nameSpace plaintext) (same : nameSpace = extensionManifestNamespace) :
    ∃ manifest, plaintext = .json (writeManifest P manifest) := by
  cases document with
  | manifest manifest => exact ⟨manifest, rfl⟩
  | synthetic | bookmarks | chunk => exact absurd same (by decide)

theorem parseAs_manifest (lawful : P.Lawful) (manifest : ExtensionManifestV1) :
    ClientCore.parseAs P (readManifest P) (.json (writeManifest P manifest)) = .ok manifest := by
  rw [ClientCore.parseAs, Primitives.parseText_json]
  change Except.mapError _ (readManifest P (writeManifest P manifest)) = _
  rw [readManifest_writeManifest lawful]
  rfl

/-- In every state that clients with any master keys lead the server to, what discovery returns is
the newest live object of the profile that the caller can read, as it stands, and nothing exactly
when there is none; and it returns unless it first comes upon an object that was put in another
namespace while it was live. -/
theorem discovery_exact (lawful : P.Lawful) (binds : P.Binds) (separates : P.Separates)
    (written : Written P server) (legible : Legible P server)
    (honest : Honest P server answers) (core : ClientCore) (profileDirectory : String) :
    Discovers P core readSnapshot bookmarkNamespace (·.profileDirectory = profileDirectory) server
      ((core.discoverBookmarks P profileDirectory).run.against answers) ∧
    Discovers P core (readManifest P) extensionManifestNamespace
      (·.profileDirectory = profileDirectory) server
      ((core.discoverExtensionBundle P profileDirectory).run.against answers) := by
  have kept := kept_of_written lawful written
  constructor
  · obtain ⟨changes, read', ran⟩ := @discover_honest _ _ P core server answers bookmarkNamespace
      readSnapshot (·.profileDirectory = profileDirectory) lawful kept honest
    refine ran ▸ discovers_firstFetched binds separates kept read' ?_
    intro id row masterKey plaintext found space sealed
    obtain ⟨snapshot, rfl⟩ := sealed.document.of_bookmarks space
    exact ⟨snapshot, legible id row masterKey snapshot found sealed⟩
  · obtain ⟨changes, read', ran⟩ := @discover_honest _ _ P core server answers
      extensionManifestNamespace (readManifest P) (·.profileDirectory = profileDirectory) lawful kept
      honest
    refine ran ▸ discovers_firstFetched binds separates kept read' ?_
    intro id row masterKey plaintext found space sealed
    obtain ⟨manifest, rfl⟩ := sealed.document.of_manifest space
    exact ⟨manifest, parseAs_manifest lawful manifest⟩

section
open Reference (primitives primitives_lawful masterKey draw session)

theorem primitives_separates : primitives.Separates where
  distinct {salt info a b} same := by
    have keys : a.bytes = b.bytes := by
      change salt ++ a.bytes ++ info = salt ++ b.bytes ++ info at same
      simpa using same
    cases a
    cases b
    cases keys
    rfl

/-- A server with one registered device. -/
def registered : Server Reference.Sealed :=
  Server.empty.after primitives (.register ⟨⟨1⟩, "device"⟩ ⟨0⟩)

/-- What a server answers to reads; writes do not get through. -/
def answersOf (server : Server Reference.Sealed) :
    (op : Op Reference.Sealed) → Reply Reference.Sealed op
  | .getObject id => (server.getObject primitives id).mapError apiError
  | .changes after => (server.changesAfter primitives after defaultChangesLimit).mapError apiError
  | .sample => draw 0
  | .putObject .. | .deleteObject .. => Except.error .timeout
  | .readFile => Except.error ""
  | .replaceFile _ => Except.error (.write "" "")
  | .createExtensionBundle => Except.error ""
  | .restoreExtensionBundle _ => Except.error ""
  | .mapping _ | .syncBase _ | .saveSyncState .. | .profilePreferences => Except.error .timeout

theorem answersOf_honest (server : Server Reference.Sealed) :
    Honest primitives server (answersOf server) := ⟨fun _ => rfl, fun _ => rfl⟩

def savedSnapshot : BookmarkSnapshotV1 := barSnapshot [bookmark "2" "added"]

theorem registered_objects (id : ObjectId) : registered.objects id = none := by
  unfold registered Server.after
  split
  · next committed accepted =>
      obtain ⟨_, accepted⟩ := Server.transact_ok accepted
      rw [(Server.registerDevice_tables accepted).1]
      rfl
  · rfl

/-- A document that every server takes. -/
structure Fits (nameSpace : String) (plaintext : Plaintext) : Prop where
  short : (textBytes nameSpace).length < 4294967296
  sized : (primitives.plainBytes plaintext).length ≤ primitives.longest
  space : ¬ (nameSpace.isEmpty ∨ 128 < nameSpace.utf8ByteSize)
  light : (primitives.plainBytes plaintext).length + 16 ≤ maxPayloadBytes

theorem Fits.uploadable {server : Server Reference.Sealed} {nameSpace : String}
    {plaintext : Plaintext} (fits : Fits nameSpace plaintext)
    (devices : server.devices = registered.devices) (early : server.sequence < 9)
    {base : Option U64} {current : Option (ObjectRow Reference.Sealed)} {revision : U64}
    (next : Server.nextRevision current base = .ok revision)
    (small : revision.val < 9223372036854775808) :
    (session 0).core.Uploadable primitives nameSpace plaintext base current server where
  short := fits.short
  sized := fits.sized
  space := fits.space
  light := fits.light
  active := by
    rw [Server.ensureActiveDevice, devices]
    decide +kernel
  next := ⟨revision, next, small⟩
  room := by omega

theorem drawn_formats (n : Nat) : ∃ text, primitives.formatRfc3339 (draw n).time = .ok text :=
  ⟨Reference.epoch, rfl⟩

theorem registered_next (id : ObjectId) :
    Server.nextRevision (registered.objects id) none = .ok 1 := by
  rw [registered_objects]
  rfl

theorem registered_written : Written primitives registered := .register _ _ .empty

theorem savedSnapshot_fits : Fits bookmarkNamespace (.json (writeSnapshot savedSnapshot)) where
  short := by decide +kernel
  sized := by decide +kernel
  space := by decide +kernel
  light := by decide +kernel

/-- The ideal cipher holds its plaintext in the clear, whoever opens it. -/
theorem plain_of_opens {masterKey : MasterKey} {id : ObjectId} {row : ObjectRow Reference.Sealed}
    {plaintext : Plaintext} (opens : RowOpens primitives masterKey id row plaintext) :
    row.envelope.map (·.ciphertext.plain) = some plaintext := by
  obtain ⟨object, read, opened⟩ := opens
  obtain ⟨_, _, rfl⟩ := Server.rowToObject_ok read
  obtain ⟨envelope, key, aad, held, _, _, _, _, found⟩ := decrypt_ok opened
  rw [show row.envelope = some envelope from held, Option.map_some]
  change (if _ then some envelope.ciphertext.plain else none) = _ at found
  split_ifs at found
  exact found

theorem savedSnapshot_parses {snapshot : BookmarkSnapshotV1}
    (same : writeSnapshot snapshot = writeSnapshot savedSnapshot) :
    ClientCore.parseAs primitives readSnapshot (.json (writeSnapshot snapshot)) = .ok snapshot := by
  have read := deserializeSnapshot_writeSnapshot snapshot
  rw [same, deserializeSnapshot_writeSnapshot] at read
  rw [← Except.ok.inj read]
  decide +kernel

/-- One device has saved one snapshot, and discovery finds it. -/
theorem discovery_exact_one_object : ∃ (server : Server Reference.Sealed)
    (snapshot : BookmarkSnapshotV1) (proof : SyncProof), Written primitives server ∧
    ((session 0).core.discoverBookmarks primitives "Default").run.against (answersOf server) =
      .ok (some (snapshot, proof)) ∧
    Newest primitives (session 0).core readSnapshot bookmarkNamespace
      (·.profileDirectory = "Default") server (some (snapshot, proof)) := by
  obtain ⟨server, row, written, uploads⟩ :=
    registered_written.uploads primitives_lawful (.saveBookmarkSnapshot savedSnapshot none none)
      none none (draw 9) (savedSnapshot_fits.uploadable rfl (by decide +kernel)
        (registered_next _) (by decide)) (drawn_formats 9) fun _ asks => asks
  have here : server.objects ⟨9⟩ = some row := uploads.stored
  have elsewhere {id : ObjectId} (other : id ≠ ⟨9⟩) : server.objects id = none := by
    rw [uploads.written]
    exact (Server.write_objects_of_ne registered row other).trans (registered_objects id)
  have legible : Legible primitives server := by
    intro id row' masterKey snapshot found own
    by_cases same : id = ⟨9⟩
    · subst same
      rw [here] at found
      cases found
      have plain := (plain_of_opens own.opens).symm.trans (plain_of_opens uploads.opens)
      exact savedSnapshot_parses (Plaintext.json.inj (Option.some.inj plain))
    · rw [elsewhere same] at found
      cases found
  have stayed : ∀ change ∈ server.changes, ∃ row, server.objects change.objectId = some row ∧
      row.nameSpace = change.nameSpace := by
    have changes : server.changes = [Server.changeOf ⟨9⟩ row] := by
      rw [uploads.written]
      rfl
    intro change member
    rw [changes] at member
    cases List.mem_singleton.mp member
    exact ⟨row, here, rfl⟩
  obtain ⟨⟨newest, returns⟩, _⟩ := discovery_exact primitives_lawful primitives_binds
    primitives_separates written legible (answersOf_honest server) (session 0).core "Default"
  obtain ⟨result, ran⟩ := returns.mpr (unmisled_of_stayed stayed)
  have newest := newest result ran
  cases result with
  | some found =>
      obtain ⟨snapshot, proof⟩ := found
      exact ⟨server, snapshot, proof, written, ran, newest⟩
  | none =>
      refine absurd ?_ (newest ⟨9⟩ row savedSnapshot)
      exact ⟨here, uploads.live, uploads.space, ⟨_, uploads.opens, savedSnapshot_parses rfl⟩,
        by decide⟩

/-- What `save_extension_bundle` is given for a profile without extensions. -/
def bareDescriptor : ExtensionBundleDescriptor where
  format := extensionBundleFormat
  profileDirectory := "Default"
  archiveSha256 := primitives.sha256 []
  archiveBytes := 0
  stats := ⟨0, 0, 0⟩

def bareManifest : ExtensionManifestV1 := ClientCore.manifestOf bareDescriptor []

theorem bareManifest_fits :
    Fits extensionManifestNamespace (.json (writeManifest primitives bareManifest)) where
  short := by decide +kernel
  sized := by decide +kernel
  space := by decide +kernel
  light := by decide +kernel

theorem bareManifest_asks (op : Op Reference.Sealed)
    (asks : ((session 0).core.upload primitives extensionManifestNamespace
      (.json (writeManifest primitives bareManifest)) none none).run.Asks op) :
    (session 0).core.MayAsk primitives op (.saveExtensionBundle bareDescriptor [] none none) := by
  have chunkless : chunksOf extensionChunkBytes [] = [] := by
    rw [chunksOf]
    simp
  rw [ClientCore.MayAsk, ClientCore.saveExtensionBundle, if_neg (by decide),
    if_neg (by simp [bareDescriptor]), chunkless]
  change Prog.Asks op (ExceptT.run (Action.outcome ((session 0).core.upload primitives
    extensionManifestNamespace (.json (writeManifest primitives bareManifest)) none none) >>= _))
  exact Action.asks_bind (Action.asks_outcome asks)

/-- A client saves the manifests 8 and 9, then bookmarks over manifest 9. Manifest 8 is live and
readable, and the discovery of manifests ends in an error. -/
theorem discovery_stops_at_strayed : ∃ (server : Server Reference.Sealed)
    (row : ObjectRow Reference.Sealed), Written primitives server ∧ Legible primitives server ∧
    Honest primitives server (answersOf server) ∧
    Findable primitives (session 0).core (readManifest primitives) extensionManifestNamespace
      (·.profileDirectory = "Default") server ⟨8⟩ row bareManifest ∧
    ∀ result, ((session 0).core.discoverExtensionBundle primitives "Default").run.against
      (answersOf server) ≠ .ok result := by
  obtain ⟨server₁, row₁, written₁, first⟩ :=
    registered_written.uploads primitives_lawful (.saveExtensionBundle bareDescriptor [] none none)
      none none (draw 8) (bareManifest_fits.uploadable rfl (by decide +kernel)
        (registered_next _) (by decide)) (drawn_formats 8) bareManifest_asks
  have devices₁ : server₁.devices = registered.devices := by rw [first.written]; rfl
  have sequence₁ : server₁.sequence = 1 := by
    rw [first.written]
    exact first.issued
  have absent : server₁.objects ⟨9⟩ = none := by
    rw [first.written]
    exact (Server.write_objects_of_ne registered row₁ (by decide)).trans (registered_objects _)
  obtain ⟨server₂, row₂, written₂, second⟩ :=
    written₁.uploads primitives_lawful (.saveExtensionBundle bareDescriptor [] none none)
      none none (draw 9) (bareManifest_fits.uploadable devices₁ (by omega)
        (congrArg (Server.nextRevision · none) absent) (by decide)) (drawn_formats 9)
      bareManifest_asks
  have devices₂ : server₂.devices = registered.devices := by rw [second.written]; exact devices₁
  have sequence₂ : server₂.sequence = 2 := by
    rw [second.written]
    exact second.issued.trans (by rw [sequence₁])
  have revision₂ : row₂.revision.toU64 = 1 := by
    rcases second.follows with ⟨_, _, one⟩ | ⟨row, found, _⟩
    · exact Fin.ext one
    · cases absent.symm.trans found
  have next : Server.nextRevision (some row₂) (some 1) = .ok 2 := by
    rw [Server.nextRevision, if_pos revision₂]
    rfl
  obtain ⟨server₃, row₃, written₃, third⟩ :=
    written₂.uploads primitives_lawful (.saveBookmarkSnapshot savedSnapshot (some ⟨9⟩) (some 1))
      (some ⟨9⟩) (some 1) (draw 0) (savedSnapshot_fits.uploadable devices₂ (by omega)
        ((congrArg (Server.nextRevision · (some 1)) second.stored).trans next) (by decide))
      (drawn_formats 0) fun _ asks => asks
  have bookmarks : server₃.objects ⟨9⟩ = some row₃ := third.stored
  have manifest : server₃.objects ⟨8⟩ = some row₁ := by
    rw [third.written, second.written]
    exact (Server.write_objects_of_ne _ row₃ (by decide)).trans
      ((Server.write_objects_of_ne server₁ row₂ (by decide)).trans first.stored)
  have others {id : ObjectId} (nine : id ≠ ⟨9⟩) (eight : id ≠ ⟨8⟩) : server₃.objects id = none := by
    rw [third.written, second.written, first.written]
    exact (Server.write_objects_of_ne _ row₃ nine).trans
      ((Server.write_objects_of_ne _ row₂ nine).trans
        ((Server.write_objects_of_ne registered row₁ eight).trans (registered_objects id)))
  have changes : server₃.changes = [Server.changeOf ⟨8⟩ row₁, Server.changeOf ⟨9⟩ row₂,
      Server.changeOf ⟨9⟩ row₃] := by
    rw [third.written, second.written, first.written]
    rfl
  have strayed : Strayed extensionManifestNamespace server₃ (Server.changeOf ⟨9⟩ row₂) := by
    refine ⟨?_, second.live, ?_⟩
    · rw [latestIn, changes]
      simp [Server.changeOf, first.space, second.space, third.space, bookmarkNamespace,
        extensionManifestNamespace]
    · intro row found
      cases bookmarks.symm.trans found
      rw [third.space]
      decide
  refine ⟨server₃, row₁, written₃, ?_, answersOf_honest server₃, ?_, ?_⟩
  · intro id row masterKey snapshot found own
    by_cases nine : id = ⟨9⟩
    · subst nine
      cases bookmarks.symm.trans found
      have plain := (plain_of_opens own.opens).symm.trans (plain_of_opens third.opens)
      exact savedSnapshot_parses (Plaintext.json.inj (Option.some.inj plain))
    · by_cases eight : id = ⟨8⟩
      · subst eight
        cases manifest.symm.trans found
        have plain := (plain_of_opens own.opens).symm.trans (plain_of_opens first.opens)
        have read := deserializeSnapshot_writeSnapshot snapshot
        rw [Plaintext.json.inj (Option.some.inj plain)] at read
        cases read
      · cases (others nine eight).symm.trans found
  · exact ⟨manifest, first.live, first.space,
      ⟨_, first.opens, parseAs_manifest primitives_lawful bareManifest⟩, by decide⟩
  · intro result ran
    have kept := kept_of_written primitives_lawful written₃
    obtain ⟨_, read, loop⟩ := @discover_honest _ _ primitives (session 0).core server₃
      (answersOf server₃) extensionManifestNamespace (readManifest primitives)
      (·.profileDirectory = "Default") primitives_lawful kept (answersOf_honest server₃)
    obtain ⟨id, row, value, findable, newer⟩ :=
      unmisled_of_firstFetched kept.sound read (loop.symm.trans ran) _ strayed
    by_cases nine : id = ⟨9⟩
    · subst nine
      exact strayed.elsewhere row findable.here findable.space
    · by_cases eight : id = ⟨8⟩
      · subst eight
        cases manifest.symm.trans findable.here
        have older : row₁.cursor.val = 1 := first.issued
        have later : row₂.cursor.val = 2 := second.issued.trans (by rw [sequence₁])
        have newer : row₂.cursor.val < row₁.cursor.val := newer
        omega
      · cases (others nine eight).symm.trans findable.here

end

end HeliumSync
