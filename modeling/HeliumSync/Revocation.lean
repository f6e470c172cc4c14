import HeliumSync.Store

/-! Revocation over any interleaving of requests. Registering is a read and an insert, and other
requests may commit between the two. -/
namespace HeliumSync.Server
variable {C : Type} (P : Primitives C)

/-- What commits at once: the transaction of a request, or one half of `register_device`. -/
inductive Statement (C : Type) where
  | request (request : ServerRequest C)
  | selectDevice (request : RegisterDeviceRequest)
  | insertDevice (index : Nat) (now : Timestamp)

/-- The tables, and the registrations that found no row and have yet to insert one. -/
structure Desk (C : Type) where
  tables : Server C
  pending : List (DeviceId × String)

def Desk.empty : Desk C := ⟨Server.empty, []⟩

/-- The insert of `register_device`. The id is the primary key. -/
def insertDevice (server : Server C) (id : DeviceId) (name : String) (now : Timestamp) :
    Except ApiError (Server C) := do
  let createdAt ← timestampString P now
  match server.devices id with
  | some _ => throw .database
  | none =>
      return { server with
        devices := Function.update server.devices id (some ⟨name, createdAt, none⟩) }

/-- The tables and the pending registrations after a statement. -/
def Desk.after (desk : Desk C) : Statement C → Desk C
  | .request request => { desk with tables := desk.tables.after P request }
  | .selectDevice request =>
      let name := trim request.name
      if name.isEmpty ∨ 128 < name.utf8ByteSize then desk
      else match desk.tables.devices request.id with
        | some _ => desk
        | none => { desk with pending := desk.pending ++ [(request.id, name)] }
  | .insertDevice index now =>
      match desk.pending[index]? with
      | none => desk
      | some (id, name) =>
          ⟨match desk.tables.insertDevice P id name now with
            | .ok committed => committed
            | .error _ => desk.tables, desk.pending.eraseIdx index⟩

def Desk.run (desk : Desk C) (statements : List (Statement C)) : Desk C :=
  statements.foldl (Desk.after P) desk

/-- Registered and not revoked. -/
def Active (server : Server C) (id : DeviceId) : Prop :=
  ∃ row, server.devices id = some row ∧ row.revokedAt = none

/-- The device that an operation of a batch writes as. -/
def writer : BatchOperation C → DeviceId
  | .put _ request => request.deviceId
  | .delete _ request => request.deviceId

/-- A write, single or inside a batch, as this device. -/
def Carries (id : DeviceId) : ServerRequest C → Prop
  | .register .. | .revoke .. => False
  | .put _ request => request.deviceId = id
  | .delete _ request => request.deviceId = id
  | .batch operations => ∃ operation ∈ operations, writer operation = id

/-- Every registration is as it was, but that it may have been revoked. -/
def Retains (before after : Server C) : Prop :=
  ∀ id row, before.devices id = some row → ∃ row', after.devices id = some row' ∧
    row'.name = row.name ∧ row'.createdAt = row.createdAt ∧ (row.revokedAt.isSome → row' = row)

/-- What was written, active devices wrote. -/
def Attributed (before after : Server C) : Prop :=
  ∀ change ∈ after.changes, change ∈ before.changes ∨ before.Active change.deviceId

variable {P}

theorem Retains.refl (server : Server C) : server.Retains server :=
  fun _ row found => ⟨row, found, rfl, rfl, fun _ => rfl⟩

theorem Retains.trans {a b c : Server C} (first : a.Retains b) (later : b.Retains c) :
    a.Retains c := by
  intro id row found
  obtain ⟨row', found', name, created, same⟩ := first id row found
  obtain ⟨row'', found'', name', created', same'⟩ := later id row' found'
  refine ⟨row'', found'', name'.trans name, created'.trans created, fun revoked => ?_⟩
  cases same revoked
  exact same' revoked

theorem Retains.of_devices {before after : Server C} (same : after.devices = before.devices) :
    before.Retains after :=
  fun _ row found => ⟨row, same ▸ found, rfl, rfl, fun _ => rfl⟩

theorem Retains.not_active {before after : Server C} (retains : before.Retains after)
    {id : DeviceId} {row : DeviceRow} (found : before.devices id = some row)
    (revoked : row.revokedAt.isSome) : ¬ after.Active id := by
  obtain ⟨row', found', _, _, same⟩ := retains id row found
  cases same revoked
  rintro ⟨row'', again, live⟩
  cases found'.symm.trans again
  rw [live] at revoked
  cases revoked

theorem Attributed.of_changes {before after : Server C} (same : after.changes = before.changes) :
    before.Attributed after :=
  fun _ member => .inl (same ▸ member)

theorem ensureActiveDevice_ok {server : Server C} {id : DeviceId} :
    server.ensureActiveDevice id = .ok () ↔ server.Active id := by
  unfold ensureActiveDevice Active
  cases server.devices id with
  | none => simp
  | some row => by_cases live : row.revokedAt = none <;> simp [live]

theorem retains_insert {server : Server C} {id : DeviceId} {row : DeviceRow}
    (absent : server.devices id = none) :
    server.Retains { server with devices := Function.update server.devices id (some row) } := by
  intro other row' found
  have differ : other ≠ id := by
    rintro rfl
    rw [absent] at found
    cases found
  exact ⟨row', (Function.update_of_ne differ ..).trans found, rfl, rfl, fun _ => rfl⟩

theorem insertDevice_ok {server committed : Server C} {id : DeviceId} {name : String}
    {now : Timestamp} (accepted : server.insertDevice P id name now = .ok committed) :
    server.devices id = none ∧ ∃ createdAt, committed =
      { server with
        devices := Function.update server.devices id (some ⟨name, createdAt, none⟩) } := by
  obtain ⟨createdAt, _, accepted⟩ := Fallible.bind_ok_iff.mp accepted
  split at accepted
  · cases accepted
  · next absent =>
      cases accepted
      exact ⟨absent, createdAt, rfl⟩

theorem registerDevice_retains {server committed : Server C} {request : RegisterDeviceRequest}
    {now : Timestamp} {device : Device}
    (accepted : server.registerDevice P request now = .ok (device, committed)) :
    server.Retains committed := by
  simp only [registerDevice] at accepted
  split at accepted
  · cases accepted
  · split at accepted
    · split at accepted
      · obtain ⟨_, _, accepted⟩ := Fallible.bind_ok_iff.mp accepted
        cases accepted
        exact .refl server
      · cases accepted
    · next absent =>
        obtain ⟨_, _, accepted⟩ := Fallible.bind_ok_iff.mp accepted
        cases accepted
        exact retains_insert absent

/-- An accepted revocation: the row had not been revoked, and now it is. -/
theorem revokeDevice_ok {server committed : Server C} {id : DeviceId} {now : Timestamp}
    (accepted : server.revokeDevice P id now = .ok committed) :
    ∃ row revokedAt, server.devices id = some row ∧ row.revokedAt = none ∧ committed =
      { server with
        devices := Function.update server.devices id (some { row with revokedAt := some revokedAt }) }
    := by
  obtain ⟨revokedAt, _, accepted⟩ := Fallible.bind_ok_iff.mp accepted
  split at accepted
  · next row found =>
      split at accepted
      · next live =>
          cases accepted
          exact ⟨row, revokedAt, found, live, rfl⟩
      · cases accepted
  · cases accepted

theorem revokeDevice_retains {server committed : Server C} {id : DeviceId} {now : Timestamp}
    (accepted : server.revokeDevice P id now = .ok committed) : server.Retains committed := by
  obtain ⟨row, revokedAt, found, live, rfl⟩ := revokeDevice_ok accepted
  intro other row' found'
  by_cases same : other = id
  · subst same
    cases found.symm.trans found'
    refine ⟨_, Function.update_self .., rfl, rfl, fun revoked => ?_⟩
    rw [live] at revoked
    cases revoked
  · exact ⟨row', (Function.update_of_ne same ..).trans found', rfl, rfl, fun _ => rfl⟩

/-- One accepted write: its device is active, and the device table stays as it is. -/
theorem applied_ok {server next : Server C} {operation : BatchOperation C} {object : SyncObject C}
    (accepted : applied P server operation = .ok (object, next)) :
    server.Active (writer operation) ∧ next.devices = server.devices ∧
      ∀ change ∈ next.changes, change ∈ server.changes ∨ change.deviceId = writer operation := by
  cases operation with
  | put id request =>
      obtain ⟨revision, cursor, modifiedAt, active, _, _, _, _, rfl⟩ := putObject_ok accepted
      refine ⟨ensureActiveDevice_ok.mp active, rfl, fun change member => ?_⟩
      rcases List.mem_append.mp member with old | new
      · exact .inl old
      · cases List.mem_singleton.mp new
        exact .inr rfl
  | delete id request =>
      have active : server.ensureActiveDevice request.deviceId = .ok () := by
        obtain ⟨_, active, _⟩ := Fallible.bind_ok_iff.mp accepted
        exact active
      obtain ⟨row, revision, cursor, modifiedAt, _, _, _, _, _, rfl⟩ := deleteObject_ok accepted
      refine ⟨ensureActiveDevice_ok.mp active, rfl, fun change member => ?_⟩
      rcases List.mem_append.mp member with old | new
      · exact .inl old
      · cases List.mem_singleton.mp new
        exact .inr rfl

/-- An accepted batch: each of its devices is active, and none is another afterwards. -/
theorem apply_ok {server last : Server C} {operations : List (BatchOperation C)}
    {objects : List (SyncObject C)}
    (accepted : batch.apply P server operations = .ok (objects, last)) :
    (∀ operation ∈ operations, server.Active (writer operation)) ∧
      last.devices = server.devices ∧ server.Attributed last := by
  induction operations generalizing server objects with
  | nil =>
      cases accepted
      exact ⟨nofun, rfl, .of_changes rfl⟩
  | cons operation operations ih =>
      obtain ⟨object, next, others, first, later, rfl⟩ := apply_cons_ok.mp accepted
      obtain ⟨active, devices, written⟩ := applied_ok first
      obtain ⟨rest, devices', attributed⟩ := ih later
      have same (id : DeviceId) : next.Active id ↔ server.Active id := by rw [Active, devices, Active]
      refine ⟨?_, devices'.trans devices, ?_⟩
      · intro other member
        rcases List.mem_cons.mp member with rfl | member
        · exact active
        · exact (same _).mp (rest other member)
      · intro change member
        rcases attributed change member with earlier | active'
        · rcases written change earlier with old | mine
          · exact .inl old
          · exact .inr (mine ▸ active)
        · exact .inr ((same _).mp active')

/-- What a committed transaction keeps of the registrations, and who wrote its changes. -/
theorem transact_spec {server committed : Server C} {request : ServerRequest C}
    (accepted : server.transact P request = .ok committed) :
    server.Retains committed ∧ server.Attributed committed ∧
      ∀ id, Carries id request → server.Active id := by
  cases request with
  | register request now =>
      obtain ⟨device, accepted⟩ := transact_ok accepted
      exact ⟨registerDevice_retains accepted, .of_changes (registerDevice_tables accepted).2.1,
        nofun⟩
  | revoke id now =>
      exact ⟨revokeDevice_retains accepted, .of_changes (revokeDevice_tables accepted).2.1, nofun⟩
  | put id request =>
      obtain ⟨object, accepted⟩ := transact_ok accepted
      have once : applied P server (.put id request) = .ok (object, committed) := accepted
      obtain ⟨active, devices, written⟩ := applied_ok once
      refine ⟨.of_devices devices, fun change member => ?_, fun _ same => same ▸ active⟩
      rcases written change member with old | mine
      · exact .inl old
      · exact .inr (mine ▸ active)
  | delete id request =>
      obtain ⟨object, accepted⟩ := transact_ok accepted
      have once : applied P server (.delete id request) = .ok (object, committed) := accepted
      obtain ⟨active, devices, written⟩ := applied_ok once
      refine ⟨.of_devices devices, fun change member => ?_, fun _ same => same ▸ active⟩
      rcases written change member with old | mine
      · exact .inl old
      · exact .inr (mine ▸ active)
  | batch operations =>
      obtain ⟨objects, accepted⟩ := transact_ok accepted
      unfold Server.batch at accepted
      split_ifs at accepted
      obtain ⟨active, devices, attributed⟩ := apply_ok accepted
      refine ⟨.of_devices devices, attributed, ?_⟩
      rintro _ ⟨operation, member, rfl⟩
      exact active operation member

/-- What a statement keeps, accepted or not. -/
theorem Desk.after_spec (desk : Desk C) (statement : Statement C) :
    desk.tables.Retains (desk.after P statement).tables ∧
      desk.tables.Attributed (desk.after P statement).tables := by
  cases statement with
  | request request =>
      rw [Desk.after, Server.after]
      split
      · next committed accepted =>
          obtain ⟨retains, attributed, _⟩ := transact_spec accepted
          exact ⟨retains, attributed⟩
      · exact ⟨.refl _, .of_changes rfl⟩
  | selectDevice request =>
      rw [Desk.after]
      split_ifs
      · exact ⟨.refl _, .of_changes rfl⟩
      · split <;> exact ⟨.refl _, .of_changes rfl⟩
  | insertDevice index now =>
      rw [Desk.after]
      split
      · exact ⟨.refl _, .of_changes rfl⟩
      · dsimp only
        split
        · next accepted =>
            obtain ⟨absent, createdAt, rfl⟩ := insertDevice_ok accepted
            exact ⟨retains_insert absent, .of_changes rfl⟩
        · exact ⟨.refl _, .of_changes rfl⟩

/-- With nothing in between, the two halves are `register_device`. -/
theorem Desk.after_register (desk : Desk C) (request : RegisterDeviceRequest) (now : Timestamp) :
    ((desk.after P (.selectDevice request)).after P
      (.insertDevice desk.pending.length now)).tables =
      (desk.after P (.request (.register request now))).tables := by
  have idle : (desk.after P (.insertDevice desk.pending.length now)).tables = desk.tables := by
    simp [Desk.after]
  rw [Desk.after.eq_1, Server.after, transact, registerDevice]
  dsimp only
  by_cases invalid : (trim request.name).isEmpty ∨ 128 < (trim request.name).utf8ByteSize
  · have selected : desk.after P (.selectDevice request) = desk := if_pos invalid
    rw [selected, idle, if_pos invalid]
    rfl
  · rw [if_neg invalid]
    cases found : desk.tables.devices request.id with
    | some row =>
        have selected : desk.after P (.selectDevice request) = desk := by
          rw [Desk.after, if_neg invalid, found]
        rw [selected, idle]
        change desk.tables = match Prod.snd <$> (if row.name = trim request.name ∧
          row.revokedAt = none then _ else _ : Except ApiError (Device × Server C)) with
          | .ok committed => committed
          | .error _ => desk.tables
        split_ifs
        · cases parseTimestamp P row.createdAt <;> rfl
        · rfl
    | none =>
        have selected : desk.after P (.selectDevice request) =
            { desk with pending := desk.pending ++ [(request.id, trim request.name)] } := by
          rw [Desk.after, if_neg invalid, found]
        rw [selected, Desk.after, List.getElem?_concat_length]
        dsimp only
        rw [insertDevice, found]
        cases timestampString P now <;> rfl

theorem Desk.run_append (desk : Desk C) (earlier later : List (Statement C)) :
    desk.run P (earlier ++ later) = (desk.run P earlier).run P later := List.foldl_append ..

theorem Desk.run_retains (desk : Desk C) (statements : List (Statement C)) :
    desk.tables.Retains (desk.run P statements).tables := by
  induction statements generalizing desk with
  | nil => exact .refl _
  | cons statement statements ih => exact (desk.after_spec statement).1.trans (ih _)

/-- Every change that a run added was written by a device that was active then. -/
theorem Desk.run_attributed (desk : Desk C) (statements : List (Statement C)) {change : ChangeRow}
    (written : change ∈ (desk.run P statements).tables.changes)
    (new : change ∉ desk.tables.changes) : ∃ earlier statement later,
      statements = earlier ++ statement :: later ∧
      change ∉ (desk.run P earlier).tables.changes ∧
      change ∈ ((desk.run P earlier).after P statement).tables.changes ∧
      (desk.run P earlier).tables.Active change.deviceId := by
  induction statements generalizing desk with
  | nil => exact absurd written new
  | cons statement statements ih =>
      by_cases here : change ∈ (desk.after P statement).tables.changes
      · refine ⟨[], statement, statements, rfl, new, here, ?_⟩
        exact ((desk.after_spec statement).2 change here).resolve_left new
      · obtain ⟨earlier, statement', later, rfl, absent, present, active⟩ := ih _ written here
        exact ⟨statement :: earlier, statement', later, rfl, absent, present, active⟩

/-- Whatever requests come in whatever order: a change was written by a device that was active then;
after a revocation nothing is written as the device any more, and no write as it is accepted; a
registration keeps its name and its time, and a revoked one stays as it is; and a revocation leaves
objects and changes alone. -/
theorem revocation_permanent (P : Primitives C) (earlier later : List (Statement C)) :
    (∀ change ∈ (Desk.empty.run P earlier).tables.changes, ∃ before statement after,
      earlier = before ++ statement :: after ∧
      change ∉ (Desk.empty.run P before).tables.changes ∧
      change ∈ ((Desk.empty.run P before).after P statement).tables.changes ∧
      (Desk.empty.run P before).tables.Active change.deviceId) ∧
    (∀ id now committed, (Desk.empty.run P earlier).tables.revokeDevice P id now = .ok committed →
      committed.objects = (Desk.empty.run P earlier).tables.objects ∧
      committed.changes = (Desk.empty.run P earlier).tables.changes ∧
      (∀ change ∈ (Desk.empty.run P
          (earlier ++ .request (.revoke id now) :: later)).tables.changes,
        change.deviceId = id → change ∈ committed.changes) ∧
      ∀ request, Carries id request → ∃ error, (Desk.empty.run P
        (earlier ++ .request (.revoke id now) :: later)).tables.transact P request =
          .error error) ∧
    (Desk.empty.run P earlier).tables.Retains (Desk.empty.run P (earlier ++ later)).tables := by
  refine ⟨fun change member => Desk.run_attributed _ earlier member List.not_mem_nil, ?_, ?_⟩
  · intro id now committed accepted
    obtain ⟨objects, changes, _⟩ := revokeDevice_tables accepted
    obtain ⟨row, revokedAt, _, _, revoked⟩ := revokeDevice_ok accepted
    have found : committed.devices id = some { row with revokedAt := some revokedAt } := by
      rw [revoked]
      exact Function.update_self ..
    have next : (Desk.empty.run P earlier).after P (.request (.revoke id now)) =
        ⟨committed, (Desk.empty.run P earlier).pending⟩ := by
      rw [Desk.after, Server.after, transact, accepted]
    have split (rest : List (Statement C)) : Desk.empty.run P
        (earlier ++ .request (.revoke id now) :: rest) =
        Desk.run P ⟨committed, (Desk.empty.run P earlier).pending⟩ rest := by
      rw [Desk.run_append, ← next]
      rfl
    have inactive (rest : List (Statement C)) : ¬ (Desk.run P
        ⟨committed, (Desk.empty.run P earlier).pending⟩ rest).tables.Active id :=
      (Desk.run_retains _ rest).not_active found rfl
    rw [split]
    refine ⟨objects, changes, fun change member mine => ?_, fun request carries => ?_⟩
    · by_contra new
      obtain ⟨before, _, _, _, _, _, active⟩ := Desk.run_attributed _ later member new
      exact inactive before (mine ▸ active)
    · cases outcome : (Desk.run P ⟨committed, (Desk.empty.run P earlier).pending⟩
          later).tables.transact P request with
      | error error => exact ⟨error, rfl⟩
      | ok last => exact absurd ((transact_spec outcome).2.2 id carries) (inactive later)
  · rw [Desk.run_append]
    exact Desk.run_retains _ later

end HeliumSync.Server
