import HeliumSync.Admission

/-! What the tables hold was read from a part of some document that arrived. -/
namespace HeliumSync
open Json (asString asList fields required)

namespace Json

mutual
/-- The texts in a document, keys apart. -/
def strings : Json → List String
  | str text => [text]
  | arr items => stringsItems items
  | obj entries => stringsEntries entries
  | _ => []

def stringsItems : List Json → List String
  | [] => []
  | item :: items => item.strings ++ stringsItems items

def stringsEntries : List (String × Json) → List String
  | [] => []
  | (_, value) :: entries => value.strings ++ stringsEntries entries
end

theorem strings_item {item : Json} {items : List Json} (member : item ∈ items) :
    item.strings ⊆ stringsItems items := by
  induction items with
  | nil => cases member
  | cons other items ih =>
      rw [stringsItems]
      rcases List.mem_cons.mp member with rfl | later
      · exact List.subset_append_left _ _
      · exact List.Subset.trans (ih later) (List.subset_append_right _ _)

theorem strings_entry {entry : String × Json} {entries : List (String × Json)}
    (member : entry ∈ entries) : entry.2.strings ⊆ stringsEntries entries := by
  induction entries with
  | nil => cases member
  | cons other entries ih =>
      obtain ⟨key, value⟩ := other
      rw [stringsEntries]
      rcases List.mem_cons.mp member with rfl | later
      · exact List.subset_append_left _ _
      · exact List.Subset.trans (ih later) (List.subset_append_right _ _)

/-- The texts of a field are texts of the record. -/
theorem strings_fields {names : List String} {count : Nat} {value : Json}
    {entries : List (String × Json)} (h : fields names count value = .ok entries)
    {entry : String × Json} (member : entry ∈ entries) : entry.2.strings ⊆ value.strings := by
  cases value with
  | obj entries' =>
      cases h
      exact strings_entry member
  | arr items =>
      rw [fields] at h
      split_ifs at h
      cases h
      exact strings_item (List.of_mem_zip member).2
  | null | bool | int | float | str => cases h

/-- The texts of a required field are texts of the record. -/
theorem strings_required {α : Type} {names : List String} {count : Nat} {value : Json}
    {entries : List (String × Json)} (visited : fields names count value = .ok entries) {name : String}
    {read : Json → Except String α} {a : α} (h : required entries name read = .ok a) :
    ∃ field, read field = .ok a ∧ field.strings ⊆ value.strings := by
  obtain ⟨entry, member, read'⟩ := required_mem h
  exact ⟨entry.2, read', strings_fields visited (List.mem_filter.mp member).1⟩

end Json

/-- `serde_json` reads no text that is longer than the body it stands in. -/
def Primitives.Spells (P : Primitives Bytes) : Prop :=
  ∀ {body document}, P.parseText body = .ok document →
    ∀ text ∈ document.strings, text.length ≤ (P.plainBytes body).length

section
variable {P : Primitives Bytes}

/-- The envelope that one operation of a batch brings. -/
def BatchOperation.Brings (good : EncryptedEnvelopeV1 Bytes → Prop) : BatchOperation Bytes → Prop
  | .put _ request => good request.envelope
  | .delete _ _ => True

/-- Every envelope that the request brings. -/
def ServerRequest.Brings (good : EncryptedEnvelopeV1 Bytes → Prop) : ServerRequest Bytes → Prop
  | .put _ request => good request.envelope
  | .batch operations => ∀ operation ∈ operations, operation.Brings good
  | .register .. | .revoke .. | .delete .. => True

/-- Every envelope that the tables hold. -/
def Server.Stores (good : EncryptedEnvelopeV1 Bytes → Prop) (server : Server Bytes) : Prop :=
  ∀ id row, server.objects id = some row → ∀ e, row.envelope = some e → good e

section
variable {good : EncryptedEnvelopeV1 Bytes → Prop} {server server' : Server Bytes}

theorem Server.Stores.write (stores : server.Stores good) {id : ObjectId} {row : ObjectRow Bytes}
    (brings : ∀ e, row.envelope = some e → good e) : (server.write id row).Stores good := by
  intro id' row' found e held
  have found : Function.update server.objects id (some row) id' = some row' := found
  by_cases same : id' = id
  · rw [same, Function.update_self] at found
    cases found
    exact brings e held
  · rw [Function.update_of_ne same] at found
    exact stores id' row' found e held

theorem Server.Stores.applied (stores : server.Stores good) (operation : BatchOperation Bytes)
    (brings : operation.Brings good) {object : SyncObject Bytes}
    (ran : Server.applied P server operation = .ok (object, server')) : server'.Stores good := by
  cases operation with
  | put id request =>
      obtain ⟨_, _, _, _, _, _, _, _, rfl⟩ := Server.putObject_ok ran
      exact stores.write fun e held => by cases held; exact brings
  | delete id request =>
      obtain ⟨_, _, _, _, _, _, _, _, _, rfl⟩ := Server.deleteObject_ok ran
      exact stores.write nofun

theorem Server.Stores.batch (stores : server.Stores good) {operations : List (BatchOperation Bytes)}
    (brings : ∀ operation ∈ operations, operation.Brings good) {objects : List (SyncObject Bytes)}
    (ran : Server.batch.apply P server operations = .ok (objects, server')) : server'.Stores good := by
  induction operations generalizing server objects with
  | nil =>
      cases ran
      exact stores
  | cons operation operations ih =>
      obtain ⟨_, _, _, first, rest, rfl⟩ := Server.apply_cons_ok.mp ran
      exact ih (stores.applied operation (brings operation List.mem_cons_self) first)
        (fun other later => brings other (List.mem_cons_of_mem operation later)) rest

theorem Server.Stores.after (stores : server.Stores good) {request : ServerRequest Bytes}
    (brings : request.Brings good) : (server.after P request).Stores good := by
  rw [Server.after]
  split
  · rename_i committed ran
    cases request with
    | put id request =>
        obtain ⟨object, ran⟩ := Server.transact_ok ran
        exact stores.applied (.put id request) brings ran
    | delete id request =>
        obtain ⟨object, ran⟩ := Server.transact_ok ran
        exact stores.applied (.delete id request) brings ran
    | batch operations =>
        obtain ⟨objects, ran⟩ := Server.transact_ok ran
        rw [Server.batch] at ran
        split_ifs at ran
        exact stores.batch brings ran
    | register request now =>
        obtain ⟨device, ran⟩ := Server.transact_ok ran
        obtain ⟨same, _⟩ := Server.registerDevice_tables ran
        exact fun id row found => stores id row (same ▸ found)
    | revoke id now =>
        obtain ⟨same, _⟩ := Server.revokeDevice_tables ran
        exact fun id row found => stores id row (same ▸ found)
  · exact stores

theorem Server.Stores.run (stores : server.Stores good) {requests : List (ServerRequest Bytes)}
    (brings : ∀ request ∈ requests, request.Brings good) : (server.run P requests).Stores good := by
  induction requests generalizing server with
  | nil => exact stores
  | cons request requests ih =>
      exact ih (stores.after (brings request List.mem_cons_self)) fun other later =>
        brings other (List.mem_cons_of_mem request later)

theorem strings_filter {p : String × Json → Bool} {entries : List (String × Json)} :
    Json.stringsEntries (entries.filter p) ⊆ Json.stringsEntries entries := by
  induction entries with
  | nil => exact List.Subset.refl _
  | cons entry entries ih =>
      obtain ⟨key, value⟩ := entry
      rw [List.filter_cons]
      split_ifs
      · exact List.append_subset.mpr ⟨List.subset_append_left _ _,
          List.Subset.trans ih (List.subset_append_right _ _)⟩
      · exact List.Subset.trans ih (List.subset_append_right _ _)

/-- The request of a put in a batch is read from a part of the document. -/
theorem readTagged_put {content : Json} {tag : String} {id : ObjectId}
    {request : PutObjectRequest Bytes} (h : readTagged P content tag = .ok (.put id request)) :
    ∃ value, readPutObject P value = .ok request ∧ value.strings ⊆ content.strings := by
  rw [readTagged.eq_def] at h
  split at h
  · obtain ⟨entries, visited, h⟩ := Fallible.bind_ok_iff.mp h
    obtain ⟨_, _, h⟩ := Fallible.bind_ok_iff.mp h
    obtain ⟨_, last, h⟩ := Fallible.bind_ok_iff.mp h
    cases h
    exact Json.strings_required visited last
  · obtain ⟨_, _, h⟩ := Fallible.bind_ok_iff.mp h
    obtain ⟨_, _, h⟩ := Fallible.bind_ok_iff.mp h
    obtain ⟨_, _, h⟩ := Fallible.bind_ok_iff.mp h
    cases h
  · cases h

theorem readBatchOperation_put {item : Json} {id : ObjectId} {request : PutObjectRequest Bytes}
    (h : readBatchOperation P item = .ok (.put id request)) :
    ∃ value, readPutObject P value = .ok request ∧ value.strings ⊆ item.strings := by
  cases item with
  | obj entries =>
      obtain ⟨tag, _, h⟩ := Fallible.bind_ok_iff.mp h
      obtain ⟨value, read, within⟩ := readTagged_put h
      exact ⟨value, read, List.Subset.trans within strings_filter⟩
  | arr items =>
      cases items with
      | nil => cases h
      | cons tag items =>
          obtain ⟨text, _, h⟩ := Fallible.bind_ok_iff.mp h
          obtain ⟨value, read, within⟩ := readTagged_put h
          exact ⟨value, read, List.Subset.trans within (List.subset_append_right _ _)⟩
  | null | bool | int | float | str => cases h

theorem readBatch_put {document : Json} {operations : List (BatchOperation Bytes)}
    (h : readBatch P document = .ok operations) {id : ObjectId} {request : PutObjectRequest Bytes}
    (member : .put id request ∈ operations) :
    ∃ value, readPutObject P value = .ok request ∧ value.strings ⊆ document.strings := by
  obtain ⟨entries, visited, h⟩ := Fallible.bind_ok_iff.mp h
  obtain ⟨field, read, within⟩ := Json.strings_required visited h
  cases field with
  | arr items =>
      obtain ⟨item, listed, read⟩ := Fallible.mapM_ok_mem read member
      obtain ⟨value, read, inside⟩ := readBatchOperation_put read
      exact ⟨value, read, List.Subset.trans inside (List.Subset.trans (Json.strings_item listed) within)⟩
  | null | bool | int | float | str | obj => cases read

section
variable {A : Axum} {app : AppState} {moment : Moment} {request : TransportRequest}

theorem readBody_ok {α : Type} {depth : Json → Nat} {read : Json → Except String α} {a : α}
    (h : readBody A P request depth read = .ok a) :
    ∃ document, P.parseText request.body = .ok document ∧
      (P.plainBytes request.body).length ≤ bodyLimit ∧ read document = .ok a := by
  rw [readBody] at h
  split_ifs at h with typed long
  · obtain ⟨document, parsed, h⟩ := Fallible.bind_ok_iff.mp h
    cases parse : P.parseText request.body with
    | error e =>
        rw [parse] at parsed
        cases parsed
    | ok document' =>
        rw [parse] at parsed
        cases parsed
        split_ifs at h
        cases read' : read document with
        | error e =>
            rw [read'] at h
            cases h
        | ok a' =>
            rw [read'] at h
            cases h
            exact ⟨document, rfl, Nat.le_of_not_lt long, read'⟩

/-- What holds of every put that is read from a part of a body holds of what a request brings. -/
theorem admitted_brings {good : EncryptedEnvelopeV1 Bytes → Prop}
    (origin : ∀ {document value body}, P.parseText request.body = .ok document →
      (P.plainBytes request.body).length ≤ bodyLimit → value.strings ⊆ document.strings →
      readPutObject P value = .ok body → good body.envelope)
    {asked : ServerRequest Bytes} (came : admitted A P app moment request = some asked) :
    asked.Brings good := by
  obtain ⟨_, _, came⟩ := Fallible.bind_ok_iff.mp (admitted_some came).1
  split at came
  · cases came
  · cases came
  · rename_i route' _ _
    obtain ⟨_, _, came⟩ := Fallible.bind_ok_iff.mp came
    cases route' with
    | version | status | changes => cases came
    | devices =>
        rw [admitNegotiated] at came
        split_ifs at came
        · obtain ⟨_, _, came⟩ := Fallible.bind_ok_iff.mp came
          cases came
          exact trivial
        · cases came
    | device segment =>
        rw [admitNegotiated] at came
        split_ifs at came
        · obtain ⟨_, _, came⟩ := Fallible.bind_ok_iff.mp came
          cases came
          exact trivial
        · cases came
    | object segment =>
        rw [admitNegotiated] at came
        split_ifs at came
        · obtain ⟨_, _, came⟩ := Fallible.bind_ok_iff.mp came
          obtain ⟨_, read, came⟩ := Fallible.bind_ok_iff.mp came
          cases came
          obtain ⟨document, parsed, short, read⟩ := readBody_ok read
          exact origin parsed short (List.Subset.refl _) read
        · obtain ⟨_, _, came⟩ := Fallible.bind_ok_iff.mp came
          obtain ⟨_, _, came⟩ := Fallible.bind_ok_iff.mp came
          cases came
          exact trivial
        · cases came
    | batch =>
        rw [admitNegotiated] at came
        split_ifs at came
        · obtain ⟨operations, read, came⟩ := Fallible.bind_ok_iff.mp came
          cases came
          obtain ⟨document, parsed, short, read⟩ := readBody_ok read
          intro operation member
          cases operation with
          | put id body =>
              obtain ⟨value, read, within⟩ := readBatch_put read member
              exact origin parsed short within read
          | delete => exact trivial
        · cases came

/-- The numbers of every envelope in the tables are in their range. -/
theorem served_sized {history : List (Moment × TransportRequest)} :
    (served A P app .empty history).Stores EncryptedEnvelopeV1.Sized := by
  rw [served_eq_run]
  refine Server.Stores.run nofun fun asked member => ?_
  obtain ⟨arrival, _, came⟩ := List.mem_filterMap.mp member
  exact admitted_brings (fun _ _ _ read => readPutObject_sized read) came

end

end

end
end HeliumSync
