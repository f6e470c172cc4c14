import HeliumSync.Discovery
import HeliumSync.Log
import HeliumSync.Reference
import HeliumSync.Store

/-! The change feed: pages read one after another, while others write between them. -/
namespace HeliumSync
open Interaction (Prog Action)

namespace Server
variable {C : Type} (P : Primitives C)

/-- The changes after a cursor. -/
def beyond (server : Server C) (after : I64) : List ChangeRow :=
  Log.beyond ChangeRow.cursor after server.changes

/-- What commits before a page is read, and the limit the page is asked with. -/
structure Turn (C : Type) where
  writes : List (ServerRequest C)
  limit : Nat

/-- What the pages of some turns gave: the server of the last one, and whether it was the end. -/
structure Reading (C : Type) where
  changes : List Change
  server : Server C
  ended : Bool

/-- `next_cursor` followed from a cursor until `has_more` is false, as far as the turns go. -/
def follow (server : Server C) (after : U64) : List (Turn C) → Except ApiError (Reading C)
  | [] => .ok ⟨[], server, false⟩
  | turn :: turns => do
      let server := server.run P turn.writes
      let page ← server.changesAfter P after turn.limit
      if page.hasMore then
        let reading ← follow server page.nextCursor turns
        return { reading with changes := page.changes ++ reading.changes }
      else return ⟨page.changes, server, true⟩

/-- Every change has a time that parses. -/
def Readable (server : Server C) : Prop :=
  ∀ change ∈ server.changes, ∃ time, P.formatRfc3339 time = .ok change.modifiedAt

variable {P}

theorem readable_run {server : Server C} (readable : server.Readable P)
    (requests : List (ServerRequest C)) : (server.run P requests).Readable P := by
  refine run_keeps (I := Readable P) ?_ ?_ readable requests
  · intro server id row readable writable change member
    rcases List.mem_append.mp member with old | new
    · exact readable change old
    · cases List.mem_singleton.mp new
      exact writable.formatted
  · intro server server' readable _ changes _ change member
    exact readable change (changes ▸ member)

theorem readable_empty : (Server.empty : Server C).Readable P := by
  intro change member
  exact absurd member List.not_mem_nil

variable (P) in
/-- The tables are sound, their times parse, and their cursors start after zero. -/
structure Tidy (server : Server C) : Prop where
  sound : server.Sound
  readable : server.Readable P
  counted : ∀ change ∈ server.changes, 0 < change.cursor.val

theorem Tidy.write {server : Server C} (tidy : server.Tidy P) {id : ObjectId} {row : ObjectRow C}
    (writable : server.Writable P id row) : (server.write id row).Tidy P where
  sound := tidy.sound.write writable
  readable := by
    intro change member
    rcases List.mem_append.mp member with old | new
    · exact tidy.readable change old
    · cases List.mem_singleton.mp new
      exact writable.formatted
  counted := by
    intro change member
    rcases List.mem_append.mp member with old | new
    · exact tidy.counted change old
    · cases List.mem_singleton.mp new
      have issued := writable.issued
      change 0 < row.cursor.val
      omega

theorem tidy_run (requests : List (ServerRequest C)) : (Server.empty.run P requests).Tidy P := by
  refine run_keeps (I := Tidy P) ?_ ?_ ⟨sound_empty, readable_empty, nofun⟩ requests
  · intro server id row tidy writable
    exact tidy.write writable
  · intro server server' tidy objects changes sequence
    exact ⟨tidy.sound.of_tables objects changes sequence,
      fun change member => tidy.readable change (changes ▸ member),
      fun change member => tidy.counted change (changes ▸ member)⟩

theorem tidy_exec {ι : Type} [DecidableEq ι] {i : ι} {op : Op C} {choice : Choice}
    {reply : Reply C op} {w w' : World ι C}
    (ran : World.exec P i op choice w = some (w', reply)) (tidy : w.server.Tidy P) :
    w'.server.Tidy P := by
  rcases World.exec_server ran with same | ⟨id, row, writable, written, _⟩
  · rwa [same]
  · rw [written]
    exact tidy.write writable

theorem rowToChange_ok {row : ChangeRow} {change : Change}
    (read : rowToChange P row = .ok change) :
    change.cursor = row.cursor.toU64 ∧ change.objectId = row.objectId ∧
      change.nameSpace = row.nameSpace ∧ change.deleted = row.deleted := by
  obtain ⟨_, _, same⟩ := Fallible.bind_ok_iff.mp read
  cases same
  exact ⟨rfl, rfl, rfl, rfl⟩

theorem Readable.reads (lawful : P.Lawful) {server : Server C} (readable : server.Readable P)
    {row : ChangeRow} (member : row ∈ server.changes) : ∃ change, rowToChange P row = .ok change := by
  obtain ⟨time, formatted⟩ := readable row member
  obtain ⟨parsed, read, _⟩ := lawful.parse_format formatted
  refine ⟨⟨row.cursor.toU64, row.objectId, row.nameSpace, row.revision.toU64, row.deviceId, parsed,
    row.deleted⟩, ?_⟩
  simp [rowToChange, parseTimestamp, read, bind, Except.bind, pure, Except.pure]

theorem Readable.reads_all (lawful : P.Lawful) {server : Server C} (readable : server.Readable P)
    {rows : List ChangeRow} (subset : ∀ row ∈ rows, row ∈ server.changes) :
    ∃ changes, rows.mapM (rowToChange P) = .ok changes := by
  apply Fallible.mapM_isOk
  intro row member
  exact readable.reads lawful (subset row member)

theorem cursors_of_rows {rows : List ChangeRow} {changes : List Change}
    (read : rows.mapM (rowToChange P) = .ok changes) :
    changes.map Change.cursor = rows.map (·.cursor.toU64) :=
  Fallible.mapM_ok_map (fun row : ChangeRow => row.cursor.toU64) Change.cursor
    (fun _ _ read => (rowToChange_ok read).1) read

theorem Sound.ascending {server : Server C} (sound : server.Sound) :
    Ordered.Ascending ChangeRow.cursor server.changes := List.pairwise_map.mpr sound.ordered

/-- What a page holds. -/
theorem changesAfter_beyond (lawful : P.Lawful) {server : Server C} (readable : server.Readable P)
    (after : I64) {limit : Nat} (some_room : 0 < limit) (allowed : limit ≤ maxChangesLimit) :
    ∃ changes, ((server.beyond after).take limit).mapM (rowToChange P) = .ok changes ∧
      server.changesAfter P after.toU64 limit = .ok ⟨changes,
        (Log.resume ChangeRow.cursor after ((server.beyond after).take limit)).toU64,
        limit < (server.beyond after).length⟩ := by
  obtain ⟨changes, read⟩ : ∃ changes,
      ((server.beyond after).take limit).mapM (rowToChange P) = .ok changes := by
    apply readable.reads_all lawful
    intro row member
    exact (Log.mem_beyond.mp (List.mem_of_mem_take member)).1
  refine ⟨changes, read, ?_⟩
  have valid : ¬ (limit = 0 ∨ maxChangesLimit < limit) := by omega
  have cursor : i64FromU64 after.toU64 "after cursor" = .ok after := by
    have fits : after.toU64.val < 9223372036854775808 := after.isLt
    rw [i64FromU64, dif_pos fits]
    rfl
  have page : ((server.beyond after).take (limit + 1)).take limit =
      (server.beyond after).take limit := by rw [List.take_take, min_eq_left (Nat.le_succ limit)]
  have last : (changes.getLast?.map Change.cursor).getD after.toU64 =
      (Log.resume ChangeRow.cursor after ((server.beyond after).take limit)).toU64 := by
    have same := congrArg List.getLast? (cursors_of_rows read)
    rw [List.getLast?_map, List.getLast?_map] at same
    rw [same, Log.resume]
    cases ((server.beyond after).take limit).getLast? <;> rfl
  have more : limit < ((server.beyond after).take (limit + 1)).length ↔
      limit < (server.beyond after).length := by
    rw [List.length_take]
    omega
  rw [changesAfter, if_neg valid, cursor]
  change (do
    let changes ← (((server.beyond after).take (limit + 1)).take limit).mapM (rowToChange P)
    pure (f := Except ApiError) (⟨changes, (changes.getLast?.map Change.cursor).getD after.toU64,
      decide (limit < ((server.beyond after).take (limit + 1)).length)⟩ : ChangesResponse)) = _
  rw [page, read]
  simp only [bind, Except.bind, pure, Except.pure, last, more]

/-- The tables only grow. -/
theorem run_grows (server : Server C) (requests : List (ServerRequest C)) :
    server.changes <+: (server.run P requests).changes := by
  refine run_keeps (I := fun server' => server.changes <+: server'.changes) ?_ ?_ List.prefix_rfl
    requests
  · intro server' id row grown _
    exact grown.trans (List.prefix_append _ _)
  · intro server' server'' grown _ changes _
    rw [changes]
    exact grown

/-- A page and what lies beyond it, in any later state of the tables. -/
theorem beyond_page {server last : Server C} (grown : server.changes <+: last.changes)
    (sound : last.Sound) (after : I64) (limit : Nat) :
    last.beyond after = (server.beyond after).take limit ++
      last.beyond (Log.resume ChangeRow.cursor after ((server.beyond after).take limit)) := by
  obtain ⟨more, grown⟩ := grown
  have ascending := sound.ascending
  unfold beyond
  rw [← grown] at ascending ⊢
  exact Log.beyond_page limit ascending

/-- The pages of any turns hold the changes after the cursor from the first on; those of a reading
that came to the end hold them all. -/
theorem follow_beyond (lawful : P.Lawful) {server : Server C} (sound : server.Sound)
    (readable : server.Readable P) (after : I64) {turns : List (Turn C)}
    (limits : ∀ turn ∈ turns, 0 < turn.limit ∧ turn.limit ≤ maxChangesLimit) :
    ∃ reading rows rest, follow P server after.toU64 turns = .ok reading ∧
      server.changes <+: reading.server.changes ∧ reading.server.Sound ∧
      reading.server.beyond after = rows ++ rest ∧
      rows.mapM (rowToChange P) = .ok reading.changes ∧ (reading.ended = true → rest = []) := by
  induction turns generalizing server after with
  | nil =>
      refine ⟨⟨[], server, false⟩, [], server.beyond after, rfl, List.prefix_rfl, sound, rfl, rfl, ?_⟩
      intro ended
      cases ended
  | cons turn turns ih =>
      have sound₁ : (server.run P turn.writes).Sound := sound.run turn.writes
      have readable₁ := readable_run readable turn.writes
      have grown₁ := run_grows (P := P) server turn.writes
      obtain ⟨some_room, allowed⟩ := limits turn List.mem_cons_self
      obtain ⟨changes, read, answered⟩ :=
        changesAfter_beyond lawful readable₁ after some_room allowed
      rw [follow, answered]
      by_cases more : turn.limit < ((server.run P turn.writes).beyond after).length
      · obtain ⟨reading, rows, rest, ran, grown, sound', split, later, ended⟩ :=
          ih sound₁ readable₁
            (Log.resume ChangeRow.cursor after
              (((server.run P turn.writes).beyond after).take turn.limit))
            fun other member => limits other (List.mem_cons_of_mem turn member)
        have page := beyond_page grown sound' after turn.limit
        rw [split, ← List.append_assoc] at page
        refine ⟨{ reading with changes := changes ++ reading.changes }, _, rest, ?_,
          grown₁.trans grown, sound', page, Fallible.mapM_append_ok read later, ended⟩
        simp [more, ran, bind, Except.bind, pure, Except.pure]
      · have all : ((server.run P turn.writes).beyond after).take turn.limit =
            (server.run P turn.writes).beyond after := List.take_of_length_le (not_lt.mp more)
        refine ⟨⟨changes, server.run P turn.writes, true⟩, _, [], ?_, grown₁, sound₁,
          (List.append_nil _).symm, all ▸ read, fun _ => rfl⟩
        simp [more, bind, Except.bind, pure, Except.pure]

/-- When nobody writes any more, the end comes within as many pages as there are changes left, and
one. -/
theorem follow_ends (lawful : P.Lawful) {server : Server C} (sound : server.Sound)
    (readable : server.Readable P) (after : I64) {turns : List (Turn C)}
    (limits : ∀ turn ∈ turns, 0 < turn.limit ∧ turn.limit ≤ maxChangesLimit)
    (quiet : ∀ turn ∈ turns, turn.writes = [])
    (enough : (server.beyond after).length < turns.length) {reading : Reading C}
    (ran : follow P server after.toU64 turns = .ok reading) : reading.ended = true := by
  induction turns generalizing after reading with
  | nil => exact absurd enough (Nat.not_lt_zero _)
  | cons turn turns ih =>
      obtain ⟨some_room, allowed⟩ := limits turn List.mem_cons_self
      obtain ⟨changes, read, answered⟩ := changesAfter_beyond lawful readable after some_room allowed
      rw [follow, quiet turn List.mem_cons_self] at ran
      change (do
        let page ← server.changesAfter P after.toU64 turn.limit
        if page.hasMore then
          let reading ← follow P server page.nextCursor turns
          return { reading with changes := page.changes ++ reading.changes }
        else return ⟨page.changes, server, true⟩) = _ at ran
      rw [answered] at ran
      by_cases more : turn.limit < (server.beyond after).length
      · simp only [more, decide_true, if_true, bind, Except.bind] at ran
        obtain ⟨reading', later, same⟩ := Fallible.bind_ok_iff.mp ran
        cases same
        have page := beyond_page List.prefix_rfl sound after turn.limit
        have lengths := congrArg List.length page
        rw [List.length_append, List.length_take, min_eq_left more.le] at lengths
        rw [List.length_cons] at enough
        change reading'.ended = true
        exact ih (Log.resume ChangeRow.cursor after ((server.beyond after).take turn.limit))
          (fun other member => limits other (List.mem_cons_of_mem turn member))
          (fun other member => quiet other (List.mem_cons_of_mem turn member)) (by omega) later
      · simp only [more, decide_false, bind, Except.bind, pure, Except.pure] at ran
        cases ran
        rfl

/-- Every page says truly whether there are more changes, and goes on from a larger cursor if
there are. -/
theorem page_exact (lawful : P.Lawful) {server : Server C} (sound : server.Sound)
    (readable : server.Readable P) (after : I64) {limit : Nat} (some_room : 0 < limit)
    (allowed : limit ≤ maxChangesLimit) :
    ∃ page, server.changesAfter P after.toU64 limit = .ok page ∧
      (page.hasMore = true ↔ ∃ row ∈ server.changes, page.nextCursor.val < row.cursor.val) ∧
      (page.hasMore = true → after.toU64 < page.nextCursor) := by
  obtain ⟨changes, _, answered⟩ := changesAfter_beyond lawful readable after some_room allowed
  refine ⟨_, answered, ?_, ?_⟩
  · have ends := @Log.beyond_resume_eq_nil_iff _ _ _ ChangeRow.cursor after _ limit sound.ascending
    have further : limit < (server.beyond after).length ↔ Log.beyond ChangeRow.cursor
        (Log.resume ChangeRow.cursor after ((server.beyond after).take limit))
        server.changes ≠ [] := not_le.symm.trans (not_congr ends.symm)
    refine decide_eq_true_iff.trans (further.trans ?_)
    constructor
    · intro some_left
      obtain ⟨row, member⟩ := List.exists_mem_of_ne_nil _ some_left
      obtain ⟨here, later⟩ := Log.mem_beyond.mp member
      exact ⟨row, here, later⟩
    · rintro ⟨row, here, later⟩
      exact List.ne_nil_of_mem (Log.mem_beyond.mpr ⟨here, later⟩)
  · intro more
    have here : server.beyond after ≠ [] := by
      intro nil
      rw [nil] at more
      simp at more
    exact Log.lt_resume some_room here

end Server

/-! The loop of the client over such a server. -/
section
variable {C : Type} (P : Primitives C)

/-- The feed as a client meets it: requests of others may commit before its own. -/
def feedExec : (op : Op C) → List (ServerRequest C) → Server C → Option (Server C × Reply C op)
  | .changes after, writes, server =>
      some (server.run P writes,
        ((server.run P writes).changesAfter P after defaultChangesLimit).mapError apiError)
  | _, _, _ => none

variable {P}

/-- A program that begins with a page. -/
theorem runs_changes {α : Type} {allow : Op C → List (ServerRequest C) → Server C → Prop}
    {after : U64} {f : ChangesResponse → Client C ClientError α} {server last : Server C}
    {outcome : Except ClientError α} :
    (changes after >>= f).run.Runs (feedExec P) allow server outcome last ↔
      ∃ writes, allow (.changes after) writes server ∧
        ((∃ page, (server.run P writes).changesAfter P after defaultChangesLimit = .ok page ∧
          (f page).run.Runs (feedExec P) allow (server.run P writes) outcome last) ∨
        ∃ error, (server.run P writes).changesAfter P after defaultChangesLimit = .error error ∧
          outcome = .error (apiError error) ∧ last = server.run P writes) := by
  let next (reply : Except ClientError ChangesResponse) :
      Prog (Op C) (Reply C) (Except ClientError α) :=
    match reply with
    | .ok page => (f page).run
    | .error e => .done (.error e)
  have shape : (changes after >>= f).run = .call (.changes after) next := by
    change Prog.call (Op.changes after) _ = _
    congr 1
    funext reply
    cases show Except ClientError ChangesResponse from reply <;> rfl
  rw [shape]
  constructor
  · intro run
    cases run with
    | @call _ _ writes _ server' reply _ _ allowed ran rest =>
        cases ran
        refine ⟨writes, allowed, ?_⟩
        cases answered : (server.run P writes).changesAfter P after defaultChangesLimit with
        | ok page =>
            rw [answered] at rest
            exact .inl ⟨page, rfl, rest⟩
        | error error =>
            rw [answered] at rest
            cases rest
            exact .inr ⟨error, rfl, rfl, rfl⟩
  · rintro ⟨writes, allowed, ⟨page, answered, rest⟩ | ⟨error, answered, rfl, rfl⟩⟩
    · refine .call allowed (by rw [feedExec, answered]; rfl) ?_
      exact rest
    · refine .call allowed (by rw [feedExec, answered]; rfl) ?_
      exact .done

/-- Whatever commits between its pages, the client's loop ends with what the feed holds beyond its
cursor, and never for a cursor that did not advance. -/
theorem discoverChanges_runs (lawful : P.Lawful) {nameSpace : String} {noted : List Candidate}
    {after : I64} {server last : Server C} (sound : server.Sound) (readable : server.Readable P)
    {outcome : Except ClientError (List Candidate)}
    (run : (ClientCore.discoverChanges nameSpace noted after.toU64).run.Runs (feedExec P)
      (fun _ _ _ => True) server outcome last) :
    server.changes <+: last.changes ∧ last.Sound ∧
      ∃ changes, (last.beyond after).mapM (Server.rowToChange P) = .ok changes ∧
        outcome = .ok ((changes.filter (·.nameSpace = nameSpace)).foldl noteChange noted) := by
  rw [ClientCore.discoverChanges] at run
  obtain ⟨writes, _, answer⟩ := runs_changes.mp run
  have sound₁ : (server.run P writes).Sound := sound.run writes
  have readable₁ := Server.readable_run readable writes
  have grown₁ := Server.run_grows (P := P) server writes
  obtain ⟨changes, read, answered⟩ := Server.changesAfter_beyond lawful readable₁ after
    (show 0 < defaultChangesLimit by decide) (by decide)
  rcases answer with ⟨page, answered', rest⟩ | ⟨error, failed, _⟩
  · rw [answered] at answered'
    cases answered'
    by_cases more : defaultChangesLimit < ((server.run P writes).beyond after).length
    · have here : (server.run P writes).beyond after ≠ [] := by
        intro nil
        rw [nil] at more
        exact absurd more (Nat.not_lt_zero _)
      have advances : after < Log.resume ChangeRow.cursor after
          (((server.run P writes).beyond after).take defaultChangesLimit) :=
        Log.lt_resume (by decide) here
      have advances' : after.toU64 < (Log.resume ChangeRow.cursor after
          (((server.run P writes).beyond after).take defaultChangesLimit)).toU64 := advances
      rw [if_pos (decide_eq_true more), dif_pos advances'] at rest
      obtain ⟨grown, sound', changes', read', rfl⟩ :=
        discoverChanges_runs lawful sound₁ readable₁ rest
      have page := Server.beyond_page grown sound' after defaultChangesLimit
      refine ⟨grown₁.trans grown, sound', changes ++ changes', ?_, ?_⟩
      · rw [page]
        exact Fallible.mapM_append_ok read read'
      · rw [List.filter_append, List.foldl_append]
    · have all := List.take_of_length_le (not_lt.mp more)
      rw [if_neg (by simpa using more)] at rest
      cases rest
      exact ⟨grown₁, sound₁, changes, all ▸ read, rfl⟩
  · rw [answered] at failed
    cases failed
termination_by 9223372036854775808 - after.val
decreasing_by
  have bound := (Log.resume ChangeRow.cursor after
    (((server.run P writes).beyond after).take defaultChangesLimit)).isLt
  have smaller : after.val < (Log.resume ChangeRow.cursor after
    (((server.run P writes).beyond after).take defaultChangesLimit)).val := advances
  omega

/-- Once nobody writes any more the loop has a run to its end. -/
theorem discoverChanges_ends (lawful : P.Lawful) (nameSpace : String) (noted : List Candidate)
    {after : I64} {server : Server C} (sound : server.Sound) (readable : server.Readable P) :
    ∃ outcome, (ClientCore.discoverChanges nameSpace noted after.toU64).run.Runs (feedExec P)
      (fun _ writes _ => writes = []) server outcome server := by
  rw [ClientCore.discoverChanges]
  obtain ⟨changes, read, answered⟩ := Server.changesAfter_beyond lawful readable after
    (show 0 < defaultChangesLimit by decide) (by decide)
  by_cases more : defaultChangesLimit < (server.beyond after).length
  · have here : server.beyond after ≠ [] := by
      intro nil
      rw [nil] at more
      exact absurd more (Nat.not_lt_zero _)
    have advances : after < Log.resume ChangeRow.cursor after
        ((server.beyond after).take defaultChangesLimit) := Log.lt_resume (by decide) here
    have advances' : after.toU64 < (Log.resume ChangeRow.cursor after
        ((server.beyond after).take defaultChangesLimit)).toU64 := advances
    obtain ⟨outcome, rest⟩ := discoverChanges_ends lawful nameSpace
      ((changes.filter (·.nameSpace = nameSpace)).foldl noteChange noted) sound readable
    refine ⟨outcome, runs_changes.mpr ⟨[], rfl, .inl ⟨_, answered, ?_⟩⟩⟩
    rw [if_pos (decide_eq_true more), dif_pos advances']
    exact rest
  · refine ⟨.ok ((changes.filter (·.nameSpace = nameSpace)).foldl noteChange noted),
      runs_changes.mpr ⟨[], rfl, .inl ⟨_, answered, ?_⟩⟩⟩
    rw [if_neg (by simpa using more)]
    exact .done
termination_by 9223372036854775808 - after.val
decreasing_by
  have bound := (Log.resume ChangeRow.cursor after
    ((server.beyond after).take defaultChangesLimit)).isLt
  have smaller : after.val < (Log.resume ChangeRow.cursor after
    ((server.beyond after).take defaultChangesLimit)).val := advances
  omega

end

namespace Server
variable {C : Type}

/-- Paging is exact: in every reachable state a page tells truly whether there is more, whatever
commits between the pages those read to the end hold every change beyond the start once and in
order, and the client's loop over them ends without an error. -/
theorem change_feed_exact (P : Primitives C) (lawful : P.Lawful)
    (requests : List (ServerRequest C)) (start : I64) :
    (∀ limit, 0 < limit → limit ≤ maxChangesLimit →
      ∃ page, (Server.empty.run P requests).changesAfter P start.toU64 limit = .ok page ∧
        (page.hasMore = true ↔ ∃ row ∈ (Server.empty.run P requests).changes,
          page.nextCursor.val < row.cursor.val) ∧
        (page.hasMore = true → start.toU64 < page.nextCursor)) ∧
    (∀ turns : List (Turn C), (∀ turn ∈ turns, 0 < turn.limit ∧ turn.limit ≤ maxChangesLimit) →
      ∃ reading, follow P (Server.empty.run P requests) start.toU64 turns = .ok reading ∧
        reading.changes.Pairwise (·.cursor < ·.cursor) ∧
        (reading.ended = true →
          (reading.server.beyond start).mapM (rowToChange P) = .ok reading.changes) ∧
        ((∀ turn ∈ turns, turn.writes = []) →
          ((Server.empty.run P requests).beyond start).length < turns.length →
          reading.ended = true)) ∧
    (∀ nameSpace noted outcome last,
      (ClientCore.discoverChanges nameSpace noted start.toU64).run.Runs (feedExec P)
        (fun _ _ _ => True) (Server.empty.run P requests) outcome last →
      ∃ changes, (last.beyond start).mapM (rowToChange P) = .ok changes ∧
        outcome = .ok ((changes.filter (·.nameSpace = nameSpace)).foldl noteChange noted)) ∧
    ∀ nameSpace noted, ∃ outcome,
      (ClientCore.discoverChanges nameSpace noted start.toU64).run.Runs (feedExec P)
        (fun _ writes _ => writes = []) (Server.empty.run P requests) outcome
        (Server.empty.run P requests) := by
  have sound : (Server.empty.run P requests).Sound := sound_empty.run requests
  have readable : (Server.empty.run P requests).Readable P := readable_run readable_empty requests
  refine ⟨fun limit => page_exact lawful sound readable start, ?_, ?_, ?_⟩
  · intro turns limits
    obtain ⟨reading, rows, rest, ran, _, sound', split, read, ended⟩ :=
      follow_beyond lawful sound readable start limits
    refine ⟨reading, ran, ?_, ?_, ?_⟩
    · have sorted : Ordered.Ascending ChangeRow.cursor (rows ++ rest) :=
        split ▸ Log.ascending_beyond sound'.ascending
      have rows_sorted : (rows.map ChangeRow.cursor).Pairwise (· < ·) :=
        List.Pairwise.sublist ((List.sublist_append_left rows rest).map _) sorted
      apply List.pairwise_map.mp
      rw [cursors_of_rows read]
      have before := List.pairwise_map.mp rows_sorted
      refine List.pairwise_map.mpr (before.imp ?_)
      intro a b earlier
      exact earlier
    · intro finished
      rw [split, ended finished, List.append_nil]
      exact read
    · intro quiet enough
      exact follow_ends lawful sound readable start limits quiet enough ran
  · intro nameSpace noted outcome last run
    obtain ⟨_, _, changes, read, same⟩ := discoverChanges_runs lawful sound readable run
    exact ⟨changes, read, same⟩
  · intro nameSpace noted
    exact discoverChanges_ends lawful nameSpace noted sound readable

section
open Reference (primitives draw)

def somePut : PutObjectRequest Reference.Sealed :=
  ⟨bookmarkNamespace, none, ⟨1⟩, ⟨0⟩, ⟨1, envelopeAlgorithm, 1, (draw 0).nonce, ⟨[], [], [], .text ""⟩⟩⟩

/-- A device is registered and puts two objects. -/
def twoPuts : List (ServerRequest Reference.Sealed) :=
  [.register ⟨⟨1⟩, "device"⟩ ⟨0⟩, .put ⟨7⟩ somePut, .put ⟨8⟩ somePut]

/-- A third object is put between the first page and the second. -/
def threePages : List (Turn Reference.Sealed) := [⟨[], 1⟩, ⟨[.put ⟨9⟩ somePut], 1⟩, ⟨[], 1⟩]

theorem change_feed_exact_three_pages :
    ∃ reading, follow primitives (Server.empty.run primitives twoPuts) 0 threePages = .ok reading ∧
      reading.changes.map Change.cursor = [1, 2, 3] ∧ reading.ended = true ∧
      (reading.server.beyond 0).mapM (rowToChange primitives) = .ok reading.changes := by
  obtain ⟨_, pages, _⟩ := change_feed_exact primitives Reference.primitives_lawful twoPuts 0
  obtain ⟨reading, ran, _, whole, _⟩ := pages threePages (by decide)
  have seen : (follow primitives (Server.empty.run primitives twoPuts) 0 threePages).map
      (fun reading => (reading.changes.map Change.cursor, reading.ended)) =
      .ok ([1, 2, 3], true) := by decide +kernel
  have same : follow primitives (Server.empty.run primitives twoPuts) 0 threePages = .ok reading := ran
  rw [same] at seen
  obtain ⟨cursors, ended⟩ := Prod.mk.inj (Except.ok.inj seen)
  exact ⟨reading, ran, cursors, ended, whole ended⟩

end

end Server
end HeliumSync
