import HeliumSync.ServerStep

/-! The tables over any sequence of requests: every object's changes count its revisions up from
one, and its row is the last of them. -/
namespace HeliumSync

/-- A request that may write. Registering and revoking happen at the server's time. -/
inductive ServerRequest (C : Type) where
  | register (request : RegisterDeviceRequest) (now : Timestamp)
  | revoke (id : DeviceId) (now : Timestamp)
  | put (id : ObjectId) (request : PutObjectRequest C)
  | delete (id : ObjectId) (request : DeleteObjectRequest)
  | batch (operations : List (BatchOperation C))

namespace Server
variable {C : Type} (P : Primitives C)

/-- The tables that the transaction of a request would commit. -/
def transact (server : Server C) : ServerRequest C → Except ApiError (Server C)
  | .register request now => Prod.snd <$> server.registerDevice P request now
  | .revoke id now => server.revokeDevice P id now
  | .put id request => Prod.snd <$> server.putObject P id request
  | .delete id request => Prod.snd <$> server.deleteObject P id request
  | .batch operations => Prod.snd <$> server.batch P operations

/-- The tables after a request: a transaction that fails is rolled back. -/
def after (server : Server C) (request : ServerRequest C) : Server C :=
  match server.transact P request with
  | .ok committed => committed
  | .error _ => server

/-- The tables after a sequence of requests. -/
def run (server : Server C) (requests : List (ServerRequest C)) : Server C :=
  requests.foldl (Server.after P) server

/-- The change row that was written together with an object row. -/
def changeOf (id : ObjectId) (row : ObjectRow C) : ChangeRow where
  cursor := row.cursor
  objectId := id
  nameSpace := row.nameSpace
  revision := row.revision
  deviceId := row.deviceId
  modifiedAt := row.modifiedAt
  deleted := row.deleted

/-- The changes of one object, in the order of the table. -/
def changesOf (server : Server C) (id : ObjectId) : List ChangeRow :=
  server.changes.filter (·.objectId = id)

/-- What holds of the tables in every reachable state. -/
structure Sound (server : Server C) : Prop where
  ordered : server.changes.Pairwise (·.cursor < ·.cursor)
  issued : ∀ change ∈ server.changes, change.cursor.val ≤ server.sequence
  counted : ∀ id, (server.changesOf id).map (·.revision.val) =
    List.range' 1 (server.changesOf id).length
  latest : ∀ id, (server.objects id).map (changeOf id) = (server.changesOf id).getLast?
  sealed : ∀ id row, server.objects id = some row → (row.envelope.isSome ↔ row.deleted = false)

/-- Some operation of a batch is refused by the tables that those before it left. -/
def Refuses (server : Server C) (operations : List (BatchOperation C)) : Prop :=
  ∃ earlier operation later objects between, operations = earlier ++ operation :: later ∧
    batch.apply P server earlier = .ok (objects, between) ∧
    ∃ error, batch.apply P between [operation] = .error error

variable {P}

theorem transact_ok {committed : Server C} {α : Type}
    {outcome : Except ApiError (α × Server C)} (accepted : Prod.snd <$> outcome = .ok committed) :
    ∃ value, outcome = .ok (value, committed) := by
  match outcome with
  | .ok (value, server') => cases accepted; exact ⟨value, rfl⟩
  | .error error => cases accepted

/-- What one operation of a batch does. -/
def applied (P : Primitives C) (server : Server C) :
    BatchOperation C → Except ApiError (SyncObject C × Server C)
  | .put id request => server.putObject P id request
  | .delete id request => server.deleteObject P id request

theorem apply_cons_ok {server last : Server C} {operation : BatchOperation C}
    {operations : List (BatchOperation C)} {objects : List (SyncObject C)} :
    batch.apply P server (operation :: operations) = .ok (objects, last) ↔
      ∃ object next others, applied P server operation = .ok (object, next) ∧
        batch.apply P next operations = .ok (others, last) ∧ objects = object :: others := by
  have unfolded : batch.apply P server (operation :: operations) = (do
      let first ← applied P server operation
      let rest ← batch.apply P first.2 operations
      return (first.1 :: rest.1, rest.2)) := by
    cases operation <;> rfl
  rw [unfolded]
  constructor
  · intro accepted
    obtain ⟨⟨object, next⟩, first, rest⟩ := Fallible.bind_ok_iff.mp accepted
    obtain ⟨⟨others, last'⟩, later, same⟩ := Fallible.bind_ok_iff.mp rest
    cases same
    exact ⟨object, next, others, first, later, rfl⟩
  · rintro ⟨object, next, others, first, later, rfl⟩
    refine Fallible.bind_ok_iff.mpr ⟨(object, next), first, ?_⟩
    exact Fallible.bind_ok_iff.mpr ⟨(others, last), later, rfl⟩

section
variable {I : Server C → Prop}
  (writes : ∀ server id row, I server → server.Writable P id row → I (server.write id row))
  (tables : ∀ server server' : Server C, I server → server'.objects = server.objects →
    server'.changes = server.changes → server'.sequence = server.sequence → I server')

include writes in
theorem apply_keeps {server server' : Server C} (held : I server)
    {operations : List (BatchOperation C)} {objects : List (SyncObject C)}
    (accepted : batch.apply P server operations = .ok (objects, server')) : I server' := by
  induction operations generalizing server objects with
  | nil =>
      cases accepted
      exact held
  | cons operation operations ih =>
      obtain ⟨object, next, others, first, later, rfl⟩ := apply_cons_ok.mp accepted
      cases operation with
      | put id request =>
          obtain ⟨row, writable, rfl⟩ := putObject_writes first
          exact ih (writes server id row held writable) later
      | delete id request =>
          obtain ⟨row, writable, rfl⟩ := deleteObject_writes first
          exact ih (writes server id row held writable) later

include writes tables in
/-- What every write keeps, and what speaks of the tables of objects and changes only, an
accepted or rejected request keeps. -/
theorem after_keeps {server : Server C} (held : I server) (request : ServerRequest C) :
    I (server.after P request) := by
  unfold Server.after
  split
  · next committed accepted =>
      cases request with
      | register request now =>
          obtain ⟨device, accepted⟩ := transact_ok accepted
          obtain ⟨objects, changes, sequence⟩ := registerDevice_tables accepted
          exact tables server committed held objects changes sequence
      | revoke id now =>
          obtain ⟨objects, changes, sequence⟩ := revokeDevice_tables accepted
          exact tables server committed held objects changes sequence
      | put id request =>
          obtain ⟨object, accepted⟩ := transact_ok accepted
          obtain ⟨row, writable, rfl⟩ := putObject_writes accepted
          exact writes server id row held writable
      | delete id request =>
          obtain ⟨object, accepted⟩ := transact_ok accepted
          obtain ⟨row, writable, rfl⟩ := deleteObject_writes accepted
          exact writes server id row held writable
      | batch operations =>
          obtain ⟨objects, accepted⟩ := transact_ok accepted
          unfold Server.batch at accepted
          split_ifs at accepted
          exact apply_keeps writes held accepted
  · exact held

include writes tables in
theorem run_keeps {server : Server C} (held : I server) (requests : List (ServerRequest C)) :
    I (server.run P requests) := by
  induction requests generalizing server with
  | nil => exact held
  | cons request requests ih => exact ih (after_keeps writes tables held request)

end

/-- No request takes a row back. -/
theorem run_advances (server : Server C) (requests : List (ServerRequest C)) :
    server.Advances (server.run P requests) := by
  refine run_keeps (I := fun later => server.Advances later) ?_ ?_ (.refl server) requests
  · intro later id row advances writable
    apply advances.trans
    apply advances_write
    intro old found
    exact writable.later found
  · intro later last advances objects changes _
    exact advances.trans (.of_tables objects changes)

theorem sound_empty : (Server.empty : Server C).Sound where
  ordered := .nil
  issued _ member := by cases member
  counted _ := rfl
  latest _ := rfl
  sealed _ _ found := by cases found

theorem changesOf_write (server : Server C) (id other : ObjectId) (row : ObjectRow C) :
    (server.write id row).changesOf other =
      server.changesOf other ++ if other = id then [changeOf id row] else [] := by
  unfold changesOf write
  rw [List.filter_append]
  congr 1
  by_cases same : other = id
  · subst same
    simp [changeOf]
  · simp [same, Ne.symm same]

/-- The number of an object's changes is its revision. -/
theorem Sound.length {server : Server C} (sound : server.Sound) (id : ObjectId) :
    (server.changesOf id).length = ((server.objects id).map (·.revision.val)).getD 0 := by
  have last := sound.latest id
  cases found : server.objects id with
  | none =>
      rw [found, Option.map_none] at last
      rw [List.getLast?_eq_none_iff.mp last.symm]
      rfl
  | some row =>
      rw [found, Option.map_some] at last
      obtain ⟨earlier, split⟩ := List.getLast?_eq_some_iff.mp last.symm
      have numbers := sound.counted id
      rw [split, List.map_append, List.length_append, List.length_singleton,
        List.range'_concat] at numbers
      have final := (List.append_inj' numbers rfl).2
      have revision : row.revision.val = 1 + earlier.length := by
        simpa [changeOf, List.length_map] using final
      rw [split, List.length_append, List.length_singleton, Option.map_some, Option.getD_some]
      omega

/-- A write of the next revision under the next cursor keeps the tables sound. -/
theorem Sound.write {server : Server C} (sound : server.Sound) {id : ObjectId} {row : ObjectRow C}
    (writable : server.Writable P id row) : (server.write id row).Sound where
  ordered := by
    apply List.pairwise_append.mpr
    refine ⟨sound.ordered, List.pairwise_singleton _ _, ?_⟩
    intro change member new here
    cases List.mem_singleton.mp here
    have bound := sound.issued change member
    have next := writable.issued
    change change.cursor.val < row.cursor.val
    omega
  issued := by
    intro change member
    change change.cursor.val ≤ row.cursor.val
    rcases List.mem_append.mp member with old | new
    · have bound := sound.issued change old
      have next := writable.issued
      omega
    · cases List.mem_singleton.mp new
      exact le_refl _
  counted := by
    intro other
    rw [changesOf_write]
    by_cases same : other = id
    · subst same
      have next := writable.next
      rw [← sound.length other] at next
      rw [if_pos rfl, List.map_append, List.length_append, List.length_singleton,
        List.range'_concat, sound.counted]
      simp [changeOf, next, Nat.add_comm]
    · rw [if_neg same, List.append_nil, sound.counted]
  latest := by
    intro other
    rw [changesOf_write]
    by_cases same : other = id
    · subst same
      rw [if_pos rfl, write_objects_self, List.getLast?_concat, Option.map_some]
    · rw [if_neg same, List.append_nil, write_objects_of_ne server row same, sound.latest]
  sealed := by
    intro other held found
    by_cases same : other = id
    · subst same
      rw [write_objects_self] at found
      cases found
      exact writable.sealed
    · rw [write_objects_of_ne server row same] at found
      exact sound.sealed other held found

theorem Sound.of_tables {server server' : Server C} (sound : server.Sound)
    (objects : server'.objects = server.objects) (changes : server'.changes = server.changes)
    (sequence : server'.sequence = server.sequence) : server'.Sound where
  ordered := by rw [changes]; exact sound.ordered
  issued := by rw [changes, sequence]; exact sound.issued
  counted id := by rw [changesOf, changes]; exact sound.counted id
  latest id := by rw [changesOf, changes, objects]; exact sound.latest id
  sealed id row found := sound.sealed id row (objects ▸ found)

theorem Sound.run {server : Server C} (sound : server.Sound) (requests : List (ServerRequest C)) :
    (server.run P requests).Sound :=
  run_keeps (fun _ _ _ sound writable => sound.write writable)
    (fun _ _ sound => sound.of_tables) sound requests

/-- Operations before a refused one make no difference: the batch is refused. -/
theorem apply_error {server between : Server C} {earlier : List (BatchOperation C)}
    (later : List (BatchOperation C)) {operation : BatchOperation C}
    {objects : List (SyncObject C)} {error : ApiError}
    (ran : batch.apply P server earlier = .ok (objects, between))
    (refused : batch.apply P between [operation] = .error error) :
    ∃ error, batch.apply P server (earlier ++ operation :: later) = .error error := by
  match outcome : batch.apply P server (earlier ++ operation :: later) with
  | .error error => exact ⟨error, rfl⟩
  | .ok (objects', last) =>
      exfalso
      induction earlier generalizing server objects objects' with
      | nil =>
          cases ran
          obtain ⟨object, next, _, first, _, _⟩ := apply_cons_ok.mp outcome
          have alone : batch.apply P between [operation] = .ok ([object], next) :=
            apply_cons_ok.mpr ⟨object, next, [], first, rfl, rfl⟩
          rw [refused] at alone
          cases alone
      | cons other earlier ih =>
          obtain ⟨object, next, others, first, after, rfl⟩ := apply_cons_ok.mp ran
          obtain ⟨object', next', others', first', after', rfl⟩ := apply_cons_ok.mp outcome
          cases first.symm.trans first'
          exact ih after _ after'

/-- The store invariant: in every state that requests can lead to the tables are sound, and a
rejected request, or a batch with a rejected operation, leaves them all as they were. -/
theorem store_invariant (P : Primitives C) (requests : List (ServerRequest C)) :
    (Server.empty.run P requests).Sound ∧
    (∀ request error, (Server.empty.run P requests).transact P request = .error error →
      (Server.empty.run P requests).after P request = Server.empty.run P requests) ∧
    ∀ operations, (Server.empty.run P requests).Refuses P operations →
      (Server.empty.run P requests).after P (.batch operations) = Server.empty.run P requests := by
  refine ⟨sound_empty.run requests, ?_, ?_⟩
  · intro request error rejected
    rw [Server.after, rejected]
  · rintro operations ⟨earlier, operation, later, objects, between, rfl, ran, error, refused⟩
    obtain ⟨error', failed⟩ := apply_error later ran refused
    rw [Server.after, transact, Server.batch]
    split_ifs
    · rfl
    · rw [failed]
      rfl

end Server
end HeliumSync
