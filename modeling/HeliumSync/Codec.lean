import HeliumSync.BookmarksFile
import HeliumSync.Commands
import HeliumSync.Reference

/-! Files and documents through a parser that gives up when it has gone too deep. -/
namespace HeliumSync
section
variable {C : Type} {P : Primitives C} {profile : DiscoveredProfile}

theorem limited_ok {α : Type} {depth : Json → Nat} {read : Json → Except String α} {value : Json}
    {a : α} (h : Json.limited depth read value = .ok a) :
    depth value < Json.recursionLimit ∧ read value = .ok a := by
  rw [Json.limited] at h
  split_ifs at h with shallow
  exact ⟨shallow, h⟩

/-- What is read of a document that was written for a snapshot. -/
theorem readSnapshot_writeSnapshot (snapshot : BookmarkSnapshotV1) :
    readSnapshot (writeSnapshot snapshot) =
      if (writeSnapshot snapshot).depth < Json.recursionLimit then .ok snapshot
      else .error "recursion limit exceeded" := by
  rw [readSnapshot, Json.limited, snapshotDepth_written, deserializeSnapshot_writeSnapshot]

/-- A snapshot document, where it parses, is the snapshot that was written. -/
theorem parse_writeSnapshot {snapshot content : BookmarkSnapshotV1}
    (parsed : (P.parseText (.json (writeSnapshot snapshot))).bind readSnapshot = .ok content) :
    content = snapshot := by
  change readSnapshot (writeSnapshot snapshot) = .ok content at parsed
  rw [readSnapshot_writeSnapshot] at parsed
  split_ifs at parsed
  exact (Except.ok.inj parsed).symm

/-- What `load_bookmarks` makes of a snapshot document. -/
theorem parseAs_writeSnapshot (content : BookmarkSnapshotV1) :
    ClientCore.parseAs P readSnapshot (.json (writeSnapshot content)) =
      if (writeSnapshot content).depth < Json.recursionLimit then .ok content
      else .error (.serialization "recursion limit exceeded") := by
  change (readSnapshot (writeSnapshot content)).mapError _ = _
  rw [readSnapshot_writeSnapshot]
  split_ifs <;> rfl

/-- A snapshot that was read can be written shallow enough to be read again. -/
theorem shallow_of_parseAs {plaintext : Plaintext} {content : BookmarkSnapshotV1}
    (parsed : ClientCore.parseAs P readSnapshot plaintext = .ok content) :
    (writeSnapshot content).depth < Json.recursionLimit := by
  cases read : (P.parseText plaintext).bind readSnapshot with
  | error e =>
      rw [ClientCore.parseAs, read] at parsed
      cases parsed
  | ok content' =>
      rw [ClientCore.parseAs, read] at parsed
      cases parsed
      obtain ⟨value, _, read⟩ := Fallible.bind_ok_iff.mp read
      obtain ⟨shallow, read⟩ := limited_ok read
      exact (deserializeSnapshot_depth read).trans_lt shallow

/-- What `read_bookmarks` makes of a file that was written. -/
theorem parseBookmarks_json (snapshot : BookmarkSnapshotV1) :
    parseBookmarks P profile (.json (chromiumBookmarksJson snapshot)) =
      if (chromiumBookmarksJson snapshot).depth < Json.recursionLimit then
        .ok (readBack profile.directoryName snapshot)
      else .error (.parse profile.bookmarksPath "recursion limit exceeded") := by
  obtain ⟨raw, read, converted⟩ := read_chromiumBookmarksJson profile.directoryName snapshot
  change ((Json.limited rawBookmarksDepth readRawBookmarks
    (chromiumBookmarksJson snapshot)).mapError _).bind _ = _
  rw [Json.limited, rawBookmarksDepth_written, read]
  split_ifs
  · exact converted
  · rfl

/-- A file that was written for the profile reads back. -/
theorem parseBookmarks_written {snapshot : BookmarkSnapshotV1}
    (shallow : (writeSnapshot snapshot).depth < Json.recursionLimit) :
    parseBookmarks P profile (.json (chromiumBookmarksJson snapshot)) =
      .ok (readBack profile.directoryName snapshot) :=
  (parseBookmarks_json snapshot).trans
    (if_pos ((depth_chromiumBookmarksJson_le snapshot).trans_lt shallow))

theorem parseBookmarks_written_ok {snapshot loc : BookmarkSnapshotV1}
    (parsed : parseBookmarks P profile (.json (chromiumBookmarksJson snapshot)) = .ok loc) :
    loc = readBack profile.directoryName snapshot := by
  rw [parseBookmarks_json] at parsed
  split_ifs at parsed
  exact (Except.ok.inj parsed).symm

/-- What a file reads as. -/
theorem parseBookmarks_shape {content : Plaintext} {loc : BookmarkSnapshotV1}
    (parsed : parseBookmarks P profile content = .ok loc) :
    loc.format = "helium-bookmarks-v1" ∧ loc.sourceBrowser = "helium" ∧
      loc.profileDirectory = profile.directoryName ∧
      Ordered.Ascending BookmarkRoot.key loc.roots := by
  obtain ⟨raw, read, converted⟩ := Fallible.bind_ok_iff.mp parsed
  cases found : (P.parseText content).bind (Json.limited rawBookmarksDepth readRawBookmarks) with
  | error e =>
      rw [found] at read
      cases read
  | ok raw' =>
      rw [found] at read
      cases read
      obtain ⟨value, _, read⟩ := Fallible.bind_ok_iff.mp found
      have ascending := ascending_of_snapshotOf (limited_ok read).2 converted
      obtain ⟨roots, _, same⟩ := Fallible.bind_ok_iff.mp converted
      cases same
      exact ⟨rfl, rfl, rfl, ascending⟩

theorem readBack_eq_self_iff {directory : String} {snapshot : BookmarkSnapshotV1}
    (format : snapshot.format = "helium-bookmarks-v1") (browser : snapshot.sourceBrowser = "helium")
    (mine : snapshot.profileDirectory = directory) :
    readBack directory snapshot = snapshot ↔ Ordered.Ascending BookmarkRoot.key snapshot.roots := by
  rw [← Ordered.collect_eq_self_iff]
  obtain ⟨_, _, _, version, roots⟩ := snapshot
  dsimp only at format browser mine
  subst format browser mine
  simp [readBack, canonicalRoots]

/-- What was read and is written again reads as the same snapshot: the values always, the file
unless it nests too deep for the parser. -/
theorem bookmarks_file_round_trip {content : Plaintext} {loc : BookmarkSnapshotV1}
    (accepted : parseBookmarks P profile content = .ok loc) :
    (∃ raw, readRawBookmarks (chromiumBookmarksJson loc) = .ok raw ∧
      snapshotOf profile.directoryName raw = .ok loc) ∧
    parseBookmarks P profile (.json (chromiumBookmarksJson loc)) =
      if (chromiumBookmarksJson loc).depth < Json.recursionLimit then .ok loc
      else .error (.parse profile.bookmarksPath "recursion limit exceeded") := by
  obtain ⟨format, browser, mine, ascending⟩ := parseBookmarks_shape accepted
  have same : readBack profile.directoryName loc = loc :=
    (readBack_eq_self_iff format browser mine).mpr ascending
  obtain ⟨raw, read, converted⟩ := read_chromiumBookmarksJson profile.directoryName loc
  rw [same] at converted
  refine ⟨⟨raw, read, converted⟩, ?_⟩
  rw [parseBookmarks_json, same]

end

/-- A value that nests this deep. -/
def nested : Nat → Json
  | 0 => .null
  | n + 1 => .arr [nested n]

/-- A file with a field nobody knows, deeper than the parser goes, an absent one and a null one. -/
def sparseFile : Json :=
  .obj [("checksum", nested 200), ("roots", .obj [("other", .obj [("type", .str "folder"),
    ("id", .str "2"), ("name", .str "Other"), ("date_added", .null), ("children", .arr [
      .obj [("type", .str "url"), ("name", .str "Page"), ("id", .str "3"),
        ("url", .str "https://example.test/")]])]),
    ("bookmark_bar", .obj [("id", .str "1"), ("name", .str "Bar"), ("type", .str "folder")])])]

def sparseSnapshot : BookmarkSnapshotV1 :=
  ⟨"helium-bookmarks-v1", "helium", "Default", 0,
    [⟨"bookmark_bar", .folder "1" "Bar" none none []⟩,
      ⟨"other", .folder "2" "Other" none none [.url "3" "Page" "https://example.test/" none]⟩]⟩

theorem bookmarks_file_round_trip_sparse :
    parseBookmarks Reference.primitives Reference.profile (.json sparseFile) = .ok sparseSnapshot ∧
    parseBookmarks Reference.primitives Reference.profile
      (.json (chromiumBookmarksJson sparseSnapshot)) = .ok sparseSnapshot := by
  have accepted : parseBookmarks Reference.primitives Reference.profile (.json sparseFile) =
      .ok sparseSnapshot := by decide +kernel
  refine ⟨accepted, (bookmarks_file_round_trip accepted).2.trans (if_pos ?_)⟩
  decide +kernel

end HeliumSync
