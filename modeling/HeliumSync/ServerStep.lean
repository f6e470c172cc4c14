import HeliumSync.Crypto
import HeliumSync.Server

/-! What an accepted write does to the tables, and what any number of writes keeps. -/
namespace HeliumSync

@[simp] theorem I64.toU64_val (value : I64) : value.toU64.val = value.val := rfl

theorem I64.toU64_inj {a b : I64} : a.toU64 = b.toU64 ↔ a = b :=
  ⟨fun same => Fin.ext (congrArg Fin.val same : a.toU64.val = b.toU64.val), congrArg I64.toU64⟩

namespace Server
variable {C : Type} {P : Primitives C}

/-- The row of an accepted put. -/
def putRow (request : PutObjectRequest C) (revision cursor : I64) (modifiedAt : String) :
    ObjectRow C :=
  ⟨request.nameSpace, revision, cursor, request.deviceId, modifiedAt, false,
    some request.envelope⟩

/-- The row of an accepted delete. -/
def tombstone (row : ObjectRow C) (request : DeleteObjectRequest) (revision cursor : I64)
    (modifiedAt : String) : ObjectRow C :=
  ⟨row.nameSpace, revision, cursor, request.deviceId, modifiedAt, true, none⟩

/-- A write may create the object, or follow the revision it is based on. -/
def Follows (current : Option (ObjectRow C)) (base : Option U64) (revision : I64) : Prop :=
  (current = none ∧ base = none ∧ revision.val = 1) ∨
  ∃ row, current = some row ∧ base = some row.revision.toU64 ∧
    revision.val = row.revision.val + 1

theorem Follows.unique {current : Option (ObjectRow C)} {base : Option U64} {a b : I64}
    (left : Follows current base a) (right : Follows current base b) : a = b := by
  apply Fin.ext
  rcases left with ⟨absent, _, first⟩ | ⟨row, found, _, next⟩
  · rcases right with ⟨_, _, first'⟩ | ⟨row, found, _⟩
    · exact first.trans first'.symm
    · cases absent.symm.trans found
  · rcases right with ⟨absent, _⟩ | ⟨row', found', _, next'⟩
    · cases absent.symm.trans found
    · cases found.symm.trans found'
      exact next.trans next'.symm

theorem checkedSucc_ok {base revision : U64} (h : checkedSucc base = .ok revision) :
    revision.val = base.val + 1 := by
  simp only [checkedSucc] at h
  split at h
  · cases h; rfl
  · cases h

theorem i64FromU64_ok {value : U64} {label : String} {result : I64}
    (h : i64FromU64 value label = .ok result) : result.val = value.val := by
  simp only [i64FromU64] at h
  split at h
  · cases h; rfl
  · cases h

theorem nextCursor_ok {server : Server C} {cursor : I64} (h : server.nextCursor = .ok cursor) :
    cursor.val = server.sequence + 1 := by
  simp only [nextCursor] at h
  split at h
  · cases h; rfl
  · cases h

theorem timestampString_ok {time : Timestamp} {text : String}
    (h : timestampString P time = .ok text) : P.formatRfc3339 time = .ok text := by
  simp only [timestampString] at h
  split at h
  · next found => cases h; exact found
  · cases h

theorem nextRevision_ok {current : Option (ObjectRow C)} {base : Option U64} {revision : U64}
    (h : nextRevision current base = .ok revision) :
    (current = none ∧ base = none ∧ revision = 1) ∨
    ∃ row, current = some row ∧ base = some row.revision.toU64 ∧
      revision.val = row.revision.val + 1 := by
  match current, base with
  | none, none => cases h; exact .inl ⟨rfl, rfl, rfl⟩
  | some row, some base =>
      simp only [nextRevision] at h
      split at h
      · next same => exact .inr ⟨row, rfl, by rw [same], by rw [checkedSucc_ok h, ← same]; rfl⟩
      · cases h
  | some row, none => cases h
  | none, some base => cases h

/-- Everything an accepted put says. -/
theorem putObject_ok {server server' : Server C} {id : ObjectId} {request : PutObjectRequest C}
    {object : SyncObject C} (accepted : server.putObject P id request = .ok (object, server')) :
    ∃ revision cursor modifiedAt, server.ensureActiveDevice request.deviceId = .ok () ∧
      Follows (server.objects id) request.baseRevision revision ∧
      object.revision = revision.toU64 ∧ cursor.val = server.sequence + 1 ∧
      P.formatRfc3339 request.modifiedAt = .ok modifiedAt ∧
      server' = server.write id (putRow request revision cursor modifiedAt) := by
  obtain ⟨_, _, accepted⟩ := Fallible.bind_ok_iff.mp accepted
  obtain ⟨_, active, accepted⟩ := Fallible.bind_ok_iff.mp accepted
  obtain ⟨newRevision, next, accepted⟩ := Fallible.bind_ok_iff.mp accepted
  obtain ⟨modifiedAt, formatted, accepted⟩ := Fallible.bind_ok_iff.mp accepted
  obtain ⟨revision, stored, accepted⟩ := Fallible.bind_ok_iff.mp accepted
  obtain ⟨cursor, issued, accepted⟩ := Fallible.bind_ok_iff.mp accepted
  cases accepted
  have same := i64FromU64_ok stored
  refine ⟨revision, cursor, modifiedAt, active, ?_, Fin.ext same.symm, nextCursor_ok issued,
    timestampString_ok formatted, rfl⟩
  rcases nextRevision_ok next with ⟨absent, fresh, rfl⟩ | ⟨row, found, based, follows⟩
  · exact .inl ⟨absent, fresh, same⟩
  · exact .inr ⟨row, found, based, same.trans follows⟩

/-- Everything an accepted delete says. -/
theorem deleteObject_ok {server server' : Server C} {id : ObjectId} {request : DeleteObjectRequest}
    {object : SyncObject C} (accepted : server.deleteObject P id request = .ok (object, server')) :
    ∃ row revision cursor modifiedAt, server.objects id = some row ∧
      request.baseRevision = row.revision.toU64 ∧ revision.val = row.revision.val + 1 ∧
      cursor.val = server.sequence + 1 ∧ P.formatRfc3339 request.modifiedAt = .ok modifiedAt ∧
      server' = server.write id (tombstone row request revision cursor modifiedAt) := by
  obtain ⟨_, _, accepted⟩ := Fallible.bind_ok_iff.mp accepted
  split at accepted
  · next row found =>
      split at accepted
      · cases accepted
      · next based =>
          obtain ⟨newRevision, next, accepted⟩ := Fallible.bind_ok_iff.mp accepted
          obtain ⟨modifiedAt, formatted, accepted⟩ := Fallible.bind_ok_iff.mp accepted
          obtain ⟨revision, stored, accepted⟩ := Fallible.bind_ok_iff.mp accepted
          obtain ⟨cursor, issued, accepted⟩ := Fallible.bind_ok_iff.mp accepted
          cases accepted
          exact ⟨row, revision, cursor, modifiedAt, found, (not_not.mp based).symm,
            (i64FromU64_ok stored).trans (checkedSucc_ok next), nextCursor_ok issued,
            timestampString_ok formatted, rfl⟩
  · cases accepted

/-- A row that a transaction may write: the next revision, under the next cursor. -/
structure Writable (P : Primitives C) (server : Server C) (id : ObjectId) (row : ObjectRow C) :
    Prop where
  next : row.revision.val = ((server.objects id).map (·.revision.val)).getD 0 + 1
  issued : row.cursor.val = server.sequence + 1
  sealed : row.envelope.isSome ↔ row.deleted = false
  formatted : ∃ time, P.formatRfc3339 time = .ok row.modifiedAt

theorem Writable.later {server : Server C} {id : ObjectId} {row old : ObjectRow C}
    (writable : server.Writable P id row) (found : server.objects id = some old) :
    old.revision < row.revision := by
  have next := writable.next
  rw [found] at next
  exact Fin.lt_def.mpr (by simp at next; omega)

theorem putObject_writes {server server' : Server C} {id : ObjectId} {request : PutObjectRequest C}
    {object : SyncObject C} (accepted : server.putObject P id request = .ok (object, server')) :
    ∃ row, server.Writable P id row ∧ server' = server.write id row := by
  obtain ⟨revision, cursor, modifiedAt, _, follows, _, issued, formatted, rfl⟩ :=
    putObject_ok accepted
  refine ⟨_, ⟨?_, issued, ⟨fun _ => rfl, fun _ => rfl⟩, _, formatted⟩, rfl⟩
  rcases follows with ⟨absent, _, first⟩ | ⟨row, found, _, next⟩
  · rw [absent]
    exact first
  · rw [found]
    exact next

theorem deleteObject_writes {server server' : Server C} {id : ObjectId}
    {request : DeleteObjectRequest} {object : SyncObject C}
    (accepted : server.deleteObject P id request = .ok (object, server')) :
    ∃ row, server.Writable P id row ∧ server' = server.write id row := by
  obtain ⟨row, revision, cursor, modifiedAt, found, _, next, issued, formatted, rfl⟩ :=
    deleteObject_ok accepted
  refine ⟨_, ⟨?_, issued, by simp [tombstone], _, formatted⟩, rfl⟩
  rw [found]
  exact next

theorem getObject_row {server : Server C} {id : ObjectId} {row : ObjectRow C}
    (found : server.objects id = some row) : server.getObject P id = rowToObject P id row := by
  rw [getObject, found]

theorem getObject_ok {server : Server C} {id : ObjectId} {object : SyncObject C}
    (read : server.getObject P id = .ok object) :
    ∃ row, server.objects id = some row ∧ rowToObject P id row = .ok object := by
  simp only [getObject] at read
  split at read
  · next row found => exact ⟨row, found, read⟩
  · cases read

theorem rowToObject_ok {id : ObjectId} {row : ObjectRow C} {object : SyncObject C}
    (read : rowToObject P id row = .ok object) :
    ∃ time, P.parseRfc3339 row.modifiedAt = .ok time ∧
      object = ⟨id, row.nameSpace, row.revision.toU64, row.cursor.toU64, row.deviceId, time,
        row.deleted, row.envelope⟩ := by
  obtain ⟨time, parsed, same⟩ := Fallible.bind_ok_iff.mp read
  cases same
  simp only [parseTimestamp] at parsed
  split at parsed
  · next found => cases parsed; exact ⟨_, found, rfl⟩
  · cases parsed

@[simp] theorem write_objects_self (server : Server C) (id : ObjectId) (row : ObjectRow C) :
    (server.write id row).objects id = some row := Function.update_self ..

theorem write_objects_of_ne (server : Server C) {id other : ObjectId} (row : ObjectRow C)
    (differ : other ≠ id) : (server.write id row).objects other = server.objects other :=
  Function.update_of_ne differ ..

theorem write_inj {server : Server C} {id : ObjectId} {a b : ObjectRow C}
    (same : server.write id a = server.write id b) : a = b := by
  have rows := congrArg (fun server : Server C => server.objects id) same
  simpa using rows

/-- Writes never take a row back: one of the same revision is the same row. -/
structure Advances (before after : Server C) : Prop where
  rows : ∀ id row, before.objects id = some row →
    ∃ row', after.objects id = some row' ∧ (row' = row ∨ row.revision < row'.revision)
  feed : before.changes <+: after.changes

theorem Advances.refl (server : Server C) : server.Advances server :=
  ⟨fun _ row found => ⟨row, found, .inl rfl⟩, List.prefix_rfl⟩

theorem Advances.trans {a b c : Server C} (first : a.Advances b) (later : b.Advances c) :
    a.Advances c where
  rows id row found := by
    obtain ⟨row', found', moved⟩ := first.rows id row found
    obtain ⟨row'', found'', moved'⟩ := later.rows id row' found'
    refine ⟨row'', found'', ?_⟩
    rcases moved with rfl | moved
    · exact moved'
    · rcases moved' with rfl | moved'
      · exact .inr moved
      · exact .inr (moved.trans moved')
  feed := first.feed.trans later.feed

theorem Advances.of_tables {before after : Server C} (objects : after.objects = before.objects)
    (changes : after.changes = before.changes) : before.Advances after :=
  ⟨fun _ row found => ⟨row, objects ▸ found, .inl rfl⟩, changes ▸ List.prefix_rfl⟩

/-- A row that still has its revision is the row it was. -/
theorem Advances.same {before after : Server C} (moved : before.Advances after) {id : ObjectId}
    {row row' : ObjectRow C} (found : before.objects id = some row)
    (found' : after.objects id = some row') (revision : row'.revision = row.revision) :
    row' = row := by
  obtain ⟨row'', again, rest⟩ := moved.rows id row found
  rw [found'] at again
  cases again
  exact rest.resolve_right (revision ▸ lt_irrefl _)

theorem advances_write {server : Server C} {id : ObjectId} {row : ObjectRow C}
    (later : ∀ old, server.objects id = some old → old.revision < row.revision) :
    server.Advances (server.write id row) where
  rows other old found := by
    by_cases same : other = id
    · subst same
      exact ⟨row, write_objects_self .., .inr (later old found)⟩
    · exact ⟨old, (write_objects_of_ne server row same).trans found, .inl rfl⟩
  feed := List.prefix_append _ _

/-- Registering and revoking leave objects and changes alone. -/
theorem registerDevice_tables {server server' : Server C} {request : RegisterDeviceRequest}
    {now : Timestamp} {device : Device}
    (accepted : server.registerDevice P request now = .ok (device, server')) :
    server'.objects = server.objects ∧ server'.changes = server.changes ∧
      server'.sequence = server.sequence := by
  simp only [registerDevice] at accepted
  split at accepted
  · cases accepted
  · split at accepted
    · split at accepted
      · obtain ⟨_, _, accepted⟩ := Fallible.bind_ok_iff.mp accepted
        cases accepted
        exact ⟨rfl, rfl, rfl⟩
      · cases accepted
    · obtain ⟨_, _, accepted⟩ := Fallible.bind_ok_iff.mp accepted
      cases accepted
      exact ⟨rfl, rfl, rfl⟩

theorem revokeDevice_tables {server server' : Server C} {id : DeviceId} {now : Timestamp}
    (accepted : server.revokeDevice P id now = .ok server') :
    server'.objects = server.objects ∧ server'.changes = server.changes ∧
      server'.sequence = server.sequence := by
  obtain ⟨_, _, accepted⟩ := Fallible.bind_ok_iff.mp accepted
  split at accepted
  · split at accepted
    · cases accepted
      exact ⟨rfl, rfl, rfl⟩
    · cases accepted
  · cases accepted

end Server

/-- A get of the row decrypts to this plaintext. -/
def RowOpens {C : Type} (P : Primitives C) (masterKey : MasterKey) (id : ObjectId)
    (row : ObjectRow C) (plaintext : Plaintext) : Prop :=
  ∃ object, Server.rowToObject P id row = .ok object ∧ decrypt P masterKey object = .ok plaintext

theorem RowOpens.unique {C : Type} {P : Primitives C} {masterKey : MasterKey} {id : ObjectId}
    {row : ObjectRow C} {a b : Plaintext} (left : RowOpens P masterKey id row a)
    (right : RowOpens P masterKey id row b) : a = b := by
  obtain ⟨object, read, opened⟩ := left
  obtain ⟨object', read', opened'⟩ := right
  rw [read] at read'
  cases read'
  rw [opened] at opened'
  exact Except.ok.inj opened'

/-- The row of an accepted put opens to the plaintext that was encrypted for it. -/
theorem rowOpens_putRow {C : Type} {P : Primitives C} (lawful : P.Lawful) {masterKey : MasterKey}
    {metadata : ObjectMetadata} {plaintext : Plaintext} {nonce : Bytes} (size : nonce.length = 24)
    (current : metadata.protocol = protocolMax) {request : PutObjectRequest C}
    (space : request.nameSpace = metadata.nameSpace)
    (device : request.deviceId = metadata.deviceId)
    (time : request.modifiedAt = metadata.modifiedAt)
    (sealed : encrypt P masterKey metadata plaintext nonce = .ok request.envelope)
    {revision cursor : I64} {modifiedAt : String} (bound : revision.toU64 = metadata.revision)
    (formatted : P.formatRfc3339 request.modifiedAt = .ok modifiedAt) :
    RowOpens P masterKey metadata.objectId (Server.putRow request revision cursor modifiedAt)
      plaintext := by
  obtain ⟨parsed, read, again⟩ := lawful.parse_format formatted
  refine ⟨⟨metadata.objectId, request.nameSpace, revision.toU64, cursor.toU64, request.deviceId,
    parsed, false, some request.envelope⟩, ?_, ?_⟩
  · simp [Server.rowToObject, Server.putRow, Server.parseTimestamp, read, bind, Except.bind, pure,
      Except.pure]
  · exact decrypt_encrypt lawful size current sealed rfl space device bound
      (by rw [again, ← time, formatted]) rfl

end HeliumSync
