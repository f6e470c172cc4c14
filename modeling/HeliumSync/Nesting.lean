import HeliumSync.ExtensionRetry

/-! How deep a tree may nest so that what was uploaded can be loaded. -/
namespace HeliumSync
open Interaction (Prog)

namespace BookmarkNode

mutual
/-- The levels of the tree below and with a node. -/
def height : BookmarkNode → Nat
  | .folder _ _ _ _ children => 1 + heightList children
  | .url .. => 1

def heightList : List BookmarkNode → Nat
  | [] => 0
  | node :: nodes => max node.height (heightList nodes)
end

end BookmarkNode

open BookmarkNode (height heightList)

mutual
/-- Each level but the last takes two containers, and a folder with nothing in it both too. -/
theorem depth_writeNode : ∀ node : BookmarkNode,
    2 * node.height ≤ (writeNode node).depth + 1 ∧ (writeNode node).depth ≤ 2 * node.height
  | .folder id name dateAdded dateModified children => by
      obtain ⟨low, high⟩ := depth_writeNodes children
      have scalar (value : Option String) : (Json.ofOption value).depth = 0 := by
        cases value <;> rfl
      have depth : (writeNode (.folder id name dateAdded dateModified children)).depth =
          2 + Json.depthItems (writeNodes children) := by
        simp only [writeNode, Json.depth, Json.depthEntries, scalar]
        omega
      rw [depth, height]
      omega
  | .url id name url dateAdded => by
      have scalar : (Json.ofOption dateAdded).depth = 0 := by cases dateAdded <;> rfl
      have depth : (writeNode (.url id name url dateAdded)).depth = 1 := by
        simp only [writeNode, Json.depth, Json.depthEntries, scalar]
        omega
      rw [depth, height]
      omega

theorem depth_writeNodes : ∀ nodes : List BookmarkNode,
    2 * heightList nodes ≤ Json.depthItems (writeNodes nodes) + 1 ∧
      Json.depthItems (writeNodes nodes) ≤ 2 * heightList nodes
  | [] => by simp [writeNodes, Json.depthItems, heightList]
  | node :: nodes => by
      obtain ⟨low, high⟩ := depth_writeNode node
      obtain ⟨lows, highs⟩ := depth_writeNodes nodes
      rw [writeNodes, Json.depthItems, heightList]
      omega
end

theorem depth_writeRoot (root : BookmarkRoot) :
    (writeRoot root).depth = 1 + (writeNode root.node).depth := by
  simp [writeRoot, Json.depth, Json.depthEntries]

theorem depth_writeSnapshot (snapshot : BookmarkSnapshotV1) :
    (writeSnapshot snapshot).depth = 2 + Json.depthItems (snapshot.roots.map writeRoot) := by
  simp only [writeSnapshot, Json.depth, Json.depthEntries, Json.ofU64]
  omega

/-- The document of a snapshot can be parsed just when none of its trees has more than 62 levels. -/
theorem shallow_iff_height (snapshot : BookmarkSnapshotV1) :
    (writeSnapshot snapshot).depth < Json.recursionLimit ↔
      ∀ root ∈ snapshot.roots, root.node.height ≤ 62 := by
  rw [depth_writeSnapshot]
  constructor
  · intro shallow root member
    have listed := Json.le_depthItems (List.mem_map_of_mem (f := writeRoot) member)
    have levels := depth_writeNode root.node
    rw [depth_writeRoot] at listed
    change _ < 128 at shallow
    omega
  · intro low
    have each : Json.depthItems (snapshot.roots.map writeRoot) ≤ 125 := by
      apply Json.depthItems_map_le
      intro root member
      have levels := depth_writeNode root.node
      have := low root member
      rw [depth_writeRoot]
      omega
    change _ < 128
    omega

namespace RawNode

mutual
/-- The levels of the tree in a file. -/
def height : RawNode → Nat
  | .mk _ children => 1 + heightList children

def heightList : List RawNode → Nat
  | [] => 0
  | node :: nodes => max node.height (heightList nodes)
end

end RawNode

theorem finishRawNode_height {entries : Except String (List (String × Json))}
    {children : List (Except String (List RawNode))} {node : RawNode} {n : Nat}
    (each : ∀ nodes, Except.ok nodes ∈ children → 2 * RawNode.heightList nodes ≤ n)
    (h : finishRawNode entries children = .ok node) : 2 * node.height ≤ 2 + n := by
  obtain ⟨entries, _, h⟩ := Fallible.bind_ok_iff.mp h
  obtain ⟨fields, _, h⟩ := Fallible.bind_ok_iff.mp h
  obtain ⟨found, only, h⟩ := Fallible.bind_ok_iff.mp h
  match found with
  | some (.ok nodes) =>
      cases h
      have below := each nodes (Json.only_ok only)
      rw [RawNode.height]
      omega
  | some (.error _) => cases h
  | none =>
      cases h
      simp [RawNode.height, RawNode.heightList]

mutual
/-- For each level of a tree the parser went into a container of the file, and for each but the last
into a second one. -/
theorem readRawNode_height : ∀ (value : Json) (node : RawNode), readRawNode value = .ok node →
    2 * node.height ≤ rawNodeDepth value + 1
  | .obj entries, _, h => by
      have := finishRawNode_height (readRawChildren_height entries) h
      rw [rawNodeDepth]
      omega
  | .arr [id, name, kind, url, dateAdded, dateModified, children], _, h => by
      have levels := finishRawNode_height (n := rawNodesDepth children) (fun nodes member =>
        readRawNodes_height children nodes (List.mem_singleton.mp member).symm) h
      rw [rawNodeDepth]
      omega
  | .null, _, h | .bool _, _, h | .int _, _, h | .float _, _, h | .str _, _, h => by cases h
  | .arr [], _, h | .arr [_], _, h | .arr [_, _], _, h | .arr [_, _, _], _, h
  | .arr [_, _, _, _], _, h | .arr [_, _, _, _, _], _, h | .arr [_, _, _, _, _, _], _, h
  | .arr (_ :: _ :: _ :: _ :: _ :: _ :: _ :: _ :: _), _, h => by
      have levels := finishRawNode_height (n := 0) (fun _ member => absurd member List.not_mem_nil) h
      simp only [rawNodeDepth]
      omega

theorem readRawChildren_height : ∀ (entries : List (String × Json)) (nodes : List RawNode),
    .ok nodes ∈ readRawChildren entries →
    2 * RawNode.heightList nodes ≤ rawChildrenDepth entries
  | [], _, h => by cases h
  | (key, value) :: entries, nodes, h => by
      rw [readRawChildren] at h
      rw [rawChildrenDepth]
      split_ifs at h ⊢
      · rcases List.mem_cons.mp h with first | later
        · exact (readRawNodes_height value nodes first.symm).trans (le_max_left _ _)
        · exact (readRawChildren_height entries nodes later).trans (le_max_right _ _)
      · exact readRawChildren_height entries nodes h

theorem readRawNodes_height : ∀ (value : Json) (nodes : List RawNode),
    readRawNodes value = .ok nodes → 2 * RawNode.heightList nodes ≤ rawNodesDepth value
  | .arr items, nodes, h => by
      have := readRawItems_height items nodes h
      rw [rawNodesDepth]
      omega
  | .null, _, h | .bool _, _, h | .int _, _, h | .float _, _, h | .str _, _, h | .obj _, _, h => by
      cases h

theorem readRawItems_height : ∀ (items : List Json) (nodes : List RawNode),
    readRawItems items = .ok nodes → 2 * RawNode.heightList nodes ≤ rawItemsDepth items + 1
  | [], _, h => by
      cases h
      simp [RawNode.heightList]
  | item :: items, _, h => by
      rw [readRawItems] at h
      obtain ⟨node, first, h⟩ := Fallible.bind_ok_iff.mp h
      obtain ⟨nodes, rest, h⟩ := Fallible.bind_ok_iff.mp h
      cases h
      have here := readRawNode_height item node first
      have later := readRawItems_height items nodes rest
      rw [rawItemsDepth, RawNode.heightList]
      omega
end

mutual
/-- Converting a tree adds no level. -/
theorem convertNode_height : ∀ (raw : RawNode) (node : BookmarkNode),
    convertNode raw = .ok node → node.height ≤ raw.height
  | .mk fields children, _, h => by
      rw [convertNode] at h
      split_ifs at h
      · obtain ⟨nodes, below, h⟩ := Fallible.bind_ok_iff.mp h
        cases h
        have := convertNodes_height children nodes below
        rw [height, RawNode.height]
        omega
      · split at h
        · cases h
          exact Nat.le_add_right 1 _
        · cases h

theorem convertNodes_height : ∀ (raws : List RawNode) (nodes : List BookmarkNode),
    convertNodes raws = .ok nodes → heightList nodes ≤ RawNode.heightList raws
  | [], _, h => by
      cases h
      exact le_refl _
  | raw :: raws, _, h => by
      rw [convertNodes] at h
      obtain ⟨node, first, h⟩ := Fallible.bind_ok_iff.mp h
      obtain ⟨nodes, rest, h⟩ := Fallible.bind_ok_iff.mp h
      cases h
      exact max_le_max (convertNode_height raw node first) (convertNodes_height raws nodes rest)
end

/-- A file that the parser takes has no tree with more than 63 levels. -/
theorem height_of_readable {C : Type} {P : Primitives C} {profile : DiscoveredProfile}
    {content : Plaintext} {loc : BookmarkSnapshotV1}
    (accepted : parseBookmarks P profile content = .ok loc) :
    ∀ root ∈ loc.roots, root.node.height ≤ 63 := by
  intro root member
  obtain ⟨raw, read, converted⟩ := Fallible.bind_ok_iff.mp accepted
  cases found : (P.parseText content).bind (Json.limited rawBookmarksDepth readRawBookmarks) with
  | error e =>
      rw [found] at read
      cases read
  | ok raw' =>
      rw [found] at read
      cases read
      obtain ⟨value, _, found⟩ := Fallible.bind_ok_iff.mp found
      obtain ⟨limit, found⟩ := limited_ok found
      obtain ⟨entries, outside, found⟩ := Fallible.bind_ok_iff.mp found
      obtain ⟨version, _, found⟩ := Fallible.bind_ok_iff.mp found
      obtain ⟨rawRoots, rooted, same⟩ := Fallible.bind_ok_iff.mp found
      cases same
      obtain ⟨roots, each, same⟩ := Fallible.bind_ok_iff.mp converted
      cases same
      obtain ⟨entry, inside, turned⟩ := Fallible.mapM_ok_mem each member
      obtain ⟨node, nodeTurned, same⟩ := Fallible.bind_ok_iff.mp turned
      cases same
      have lower := convertNode_height entry.2 node nodeTurned
      obtain ⟨listed, roots, within⟩ :=
        Json.required_depth (Json.mapDepth rawNodeDepth) outside rooted
      change 1 + _ ≤ rawBookmarksDepth value at within
      change _ < 128 at limit
      match listed with
      | .obj items =>
          obtain ⟨collected, read, same⟩ := Fallible.bind_ok_iff.mp roots
          cases same
          obtain ⟨item, here, read⟩ := Fallible.mapM_ok_mem read (Ordered.mem_of_mem_collect inside)
          obtain ⟨raw, nodeRead, same⟩ := Fallible.bind_ok_iff.mp read
          cases same
          have levels := readRawNode_height item.2 raw nodeRead
          have inner : rawNodeDepth item.2 ≤
              Json.deepest (fun entry => rawNodeDepth entry.2) items :=
            @Json.le_deepest _ (fun entry => rawNodeDepth entry.2) _ _ here
          rw [Json.mapDepth] at within
          dsimp only at lower ⊢
          omega
      | .null | .bool _ | .int _ | .float _ | .str _ | .arr _ => cases roots

section
variable {ι C : Type} [DecidableEq ι] {P : Primitives C} {i : ι} {session : Session}
  {w w' : World ι C} {loc : BookmarkSnapshotV1} {object : Option (ObjectId × U64)}
  {proof : SyncProof} {reader : ClientCore}

/-- What a client with the same key makes of an object that was uploaded. -/
theorem loaded_uploaded (lawful : P.Lawful)
    (run : (session.core.saveBookmarkSnapshot P loc (object.map Prod.fst)
      (object.map Prod.snd)).run.Runs (World.exec P i) (fun _ _ _ => True) w (.ok proof) w')
    (key : reader.masterKey = session.core.masterKey) :
    reader.loaded P readSnapshot w'.server bookmarkNamespace proof.objectId =
      ClientCore.parseAs P readSnapshot (.json (writeSnapshot loc)) := by
  have saved : (session.core.saveBookmarkSnapshot P loc (object.map Prod.fst)
      (object.map Prod.snd)).Attempts (.alone (World.exec P i) fun _ _ _ => True)
      (fun proof _ w' => ∃ row, session.core.Uploads P bookmarkNamespace
        (.json (writeSnapshot loc)) (object.map Prod.snd) proof.objectId w.server w'.server row)
      (fun _ _ _ => True) [] w :=
    save_alone lawful object (fun id w' row journal _ _ uploads _ => ⟨row, uploads⟩)
      (fun _ _ _ _ _ _ _ _ _ => trivial) fun _ _ _ => trivial
  obtain ⟨_, row, uploads⟩ := run.post saved
  rw [ClientCore.loaded, ClientCore.downloaded_ok.mpr
    ⟨row, uploads.stored, uploads.space, key ▸ uploads.opens⟩]
  rfl

/-- The next sample is this one, and nothing fails. -/
def Drawing (s : Sample) : Op C → Choice → World ι C → Prop
  | .sample, choice, _ => choice = .sampled s
  | op, choice, w => Calm op choice w

theorem drawing_total (s : Sample) (op : Op C) (w : World ι C) :
    ∃ choice w' reply, Drawing s op choice w ∧ World.exec P i op choice w = some (w', reply) := by
  cases op with
  | sample => exact ⟨.sampled s, w, _, rfl, rfl⟩
  | _ => exact calm_total _ w

/-- An upload that can be made is made when nothing fails. -/
theorem save_runs (lawful : P.Lawful) {s : Sample}
    (uploadable : session.core.Uploadable P bookmarkNamespace (.json (writeSnapshot loc))
      (object.map Prod.snd) (w.server.objects ((object.map Prod.fst).getD s.objectId)) w.server)
    (formatted : ∃ text, P.formatRfc3339 s.time = .ok text) :
    ∃ proof w', (session.core.saveBookmarkSnapshot P loc (object.map Prod.fst)
      (object.map Prod.snd)).run.Runs (World.exec P i) (Drawing s) w (.ok proof) w' := by
  obtain ⟨outcome, w', run⟩ := Prog.exists_runs (drawing_total (P := P) (i := i) s)
    (session.core.saveBookmarkSnapshot P loc (object.map Prod.fst) (object.map Prod.snd)).run w
  have saved : (session.core.saveBookmarkSnapshot P loc (object.map Prod.fst)
      (object.map Prod.snd)).Attempts (.alone (World.exec P i) (Drawing s)) (fun _ _ _ => True)
      (fun _ _ _ => False) [] w := by
    refine serves_alone.saveBookmarkSnapshot lawful object fun w₀ s' same _ drawn => ?_
    cases same
    cases show Choice.sampled s' = .sampled s from drawn
    obtain ⟨envelope, sealed⟩ := uploadable.seals lawful formatted
    refine { unsealed := fun e bad => ?_, refused := fun w₁ envelope' choice e same _ allowed sealed'
               cause => ?_, kept := fun _ _ _ _ _ _ _ => ⟨trivial, trivial⟩,
             lost := fun w₁ w₂ row envelope e put _ => ?_,
             verified := fun _ _ _ _ _ _ _ _ _ _ _ _ _ _ => trivial,
             unverified := fun w₁ w₂ row envelope object put w₃ choice reply e same _ allowed
               differ => ?_ }
    · cases sealed.symm.trans bad
    · cases same
      obtain ⟨result, accepted⟩ := uploadable.puts lawful formatted sealed'
      obtain ⟨_, refused⟩ := cause allowed
      cases accepted.symm.trans refused
    · cases put.allowed
    · cases same
      exact differ allowed row put.uploads.stored put.uploads.opens
  obtain ⟨_, done⟩ := run.post saved
  cases outcome with
  | ok proof => exact ⟨proof, w', run⟩
  | error e => exact done.elim

/-- A snapshot that was read from a file has at most 63 levels, and once it is uploaded it can be
loaded, with the key it was sealed with, just when it has at most 62. -/
theorem readable_upload_loads_iff (lawful : P.Lawful) {content : Plaintext}
    (accepted : parseBookmarks P session.profile content = .ok loc)
    (run : (session.core.saveBookmarkSnapshot P loc (object.map Prod.fst)
      (object.map Prod.snd)).run.Runs (World.exec P i) (fun _ _ _ => True) w (.ok proof) w')
    (key : reader.masterKey = session.core.masterKey) :
    (∀ root ∈ loc.roots, root.node.height ≤ 63) ∧
    ((∃ snapshot, reader.loaded P readSnapshot w'.server bookmarkNamespace proof.objectId =
      .ok snapshot) ↔ ∀ root ∈ loc.roots, root.node.height ≤ 62) := by
  refine ⟨height_of_readable accepted, ?_⟩
  rw [← shallow_iff_height, loaded_uploaded lawful run key, parseAs_writeSnapshot]
  split_ifs with shallow
  · exact ⟨fun _ => shallow, fun _ => ⟨loc, rfl⟩⟩
  · exact ⟨nofun, fun low => absurd low shallow⟩

end

section
open Reference (primitives primitives_lawful profile draw)

/-- A page under this many folders, one in the other. -/
def chain : Nat → BookmarkNode
  | 0 => .url "2" "page" "https://example.test/" none
  | n + 1 => .folder "1" "folder" none none [chain n]

def chainSnapshot (n : Nat) : BookmarkSnapshotV1 :=
  ⟨"helium-bookmarks-v1", "helium", "Default", 1, [⟨"bookmark_bar", chain n⟩]⟩

theorem depth_chain (n : Nat) : (nodeValue (chain n)).depth = 2 * n + 1 := by
  induction n with
  | zero => rfl
  | succ n ih =>
      simp only [chain, nodeValue, nodeValues, Json.depth, Json.depthEntries, Json.depthItems, ih,
        Json.ofOption]
      omega

theorem height_chain (n : Nat) : (chain n).height = n + 1 := by
  induction n with
  | zero => rfl
  | succ n ih =>
      simp only [chain, height, heightList, ih]
      omega

/-- The file of such a snapshot is read as long as it has at most 63 levels. -/
theorem parseBookmarks_chain {n : Nat} (low : n ≤ 62) : parseBookmarks primitives profile
    (.json (chromiumBookmarksJson (chainSnapshot n))) = .ok (chainSnapshot n) := by
  have depth : (chromiumBookmarksJson (chainSnapshot n)).depth = 2 * n + 3 := by
    have roots : chromiumBookmarksJson (chainSnapshot n) = .obj [("roots",
        .obj [("bookmark_bar", nodeValue (chain n))]), ("version", Json.ofU64 1)] := rfl
    rw [roots]
    simp only [Json.depth, Json.depthEntries, depth_chain, Json.ofU64]
    omega
  rw [parseBookmarks_json]
  refine if_pos ?_
  change _ < 128
  omega

/-- The length of a quoted string. -/
def textLength (text : String) : Nat :=
  ((Reference.quote text).flatMap String.utf8EncodeChar).length

mutual
/-- The length of compact JSON. -/
def jsonLength : Json → Nat
  | .arr (item :: items) => 1 + jsonLength item + itemsLength items
  | .obj ((key, value) :: entries) =>
      1 + textLength key + (1 + jsonLength value) + entriesLength entries
  | value => ((Reference.render value).flatMap String.utf8EncodeChar).length

def itemsLength : List Json → Nat
  | [] => 1
  | item :: items => 1 + jsonLength item + itemsLength items

def entriesLength : List (String × Json) → Nat
  | [] => 1
  | (key, value) :: entries => 1 + textLength key + (1 + jsonLength value) + entriesLength entries
end

theorem length_cons (c : Char) (chars : List Char) (one : (String.utf8EncodeChar c).length = 1) :
    ((c :: chars).flatMap String.utf8EncodeChar).length =
      1 + (chars.flatMap String.utf8EncodeChar).length := by
  rw [List.flatMap_cons, List.length_append, one]

mutual
theorem length_render : ∀ value : Json,
    ((Reference.render value).flatMap String.utf8EncodeChar).length = jsonLength value
  | .arr (item :: items) => by
      rw [Reference.render, jsonLength, List.cons_append, length_cons _ _ rfl, List.flatMap_append,
        List.length_append, length_render item, length_renderItems items, Nat.add_assoc]
  | .obj ((key, value) :: entries) => by
      rw [Reference.render, jsonLength]
      simp only [List.cons_append, List.append_assoc, length_cons '{' _ rfl, length_cons ':' _ rfl,
        List.flatMap_append, List.length_append, length_render value,
        length_renderEntries entries, textLength]
      omega
  | .null | .bool _ | .int _ | .float _ | .str _ | .arr [] | .obj [] => by simp [jsonLength]

theorem length_renderItems : ∀ items : List Json,
    ((Reference.renderItems items).flatMap String.utf8EncodeChar).length = itemsLength items
  | [] => rfl
  | item :: items => by
      rw [Reference.renderItems, itemsLength, List.cons_append, length_cons _ _ rfl,
        List.flatMap_append, List.length_append, length_render item, length_renderItems items,
        Nat.add_assoc]

theorem length_renderEntries : ∀ entries : List (String × Json),
    ((Reference.renderEntries entries).flatMap String.utf8EncodeChar).length =
      entriesLength entries
  | [] => rfl
  | (key, value) :: entries => by
      rw [Reference.renderEntries, entriesLength]
      simp only [List.cons_append, List.append_assoc, length_cons ',' _ rfl, length_cons ':' _ rfl,
        List.flatMap_append, List.length_append, length_render value,
        length_renderEntries entries, textLength]
      omega
end

def idleWorld : World (Fin 2) Reference.Sealed :=
  ⟨Reference.server, fun _ => Reference.device (chromiumBookmarksJson (chainSnapshot 0)) none⟩

theorem chain_uploadable {n : Nat}
    (short : jsonLength (writeSnapshot (chainSnapshot n)) ≤ 100000) :
    (Reference.session 0).core.Uploadable primitives bookmarkNamespace
      (.json (writeSnapshot (chainSnapshot n))) none none Reference.server := by
  have length : (primitives.plainBytes (.json (writeSnapshot (chainSnapshot n)))).length =
      jsonLength (writeSnapshot (chainSnapshot n)) := length_render _
  refine ⟨by decide +kernel, ?_, by decide, ?_, rfl, ⟨1, rfl, by decide⟩, by decide⟩
  · rw [length]
    exact short.trans (by decide)
  · rw [length]
    exact (Nat.add_le_add_right short 16).trans (by decide)

theorem readable_upload_loads_iff_62_levels : ∃ proof w',
    ((Reference.session 0).core.saveBookmarkSnapshot primitives (chainSnapshot 61) none none).run.Runs
      (World.exec primitives 0) (fun _ _ _ => True) idleWorld (.ok proof) w' ∧
    ∃ snapshot, (Reference.session 1).core.loaded primitives readSnapshot w'.server
      bookmarkNamespace proof.objectId = .ok snapshot := by
  obtain ⟨proof, w', run⟩ := @save_runs _ _ _ _ 0 (Reference.session 0) idleWorld _ none
    primitives_lawful (draw 9) (chain_uploadable (n := 61) (by decide +kernel)) ⟨_, rfl⟩
  replace run := run.mono fun _ _ _ _ => trivial
  refine ⟨proof, w', run, ?_⟩
  have loads := (@readable_upload_loads_iff _ _ _ _ 0 (Reference.session 0) _ _ _ none _
    (Reference.session 1).core primitives_lawful _ (parseBookmarks_chain (by decide)) run rfl).2
  refine loads.mpr fun root member => ?_
  cases List.mem_singleton.mp member
  exact (height_chain 61).le

/-- A file with one level more is read and uploaded, and nobody can load the object. -/
theorem readable_upload_63_levels :
    parseBookmarks primitives profile (.json (chromiumBookmarksJson (chainSnapshot 62))) =
      .ok (chainSnapshot 62) ∧
    ∃ proof w', ((Reference.session 0).core.saveBookmarkSnapshot primitives (chainSnapshot 62) none
        none).run.Runs (World.exec primitives 0) (fun _ _ _ => True) idleWorld (.ok proof) w' ∧
      ∀ i, (Reference.session i).core.loaded primitives readSnapshot w'.server bookmarkNamespace
        proof.objectId = .error (.serialization "recursion limit exceeded") := by
  refine ⟨parseBookmarks_chain (by decide), ?_⟩
  obtain ⟨proof, w', run⟩ := @save_runs _ _ _ _ 0 (Reference.session 0) idleWorld _ none
    primitives_lawful (draw 9) (chain_uploadable (n := 62) (by decide +kernel)) ⟨_, rfl⟩
  replace run := run.mono fun _ _ _ _ => trivial
  refine ⟨proof, w', run, fun i => ?_⟩
  rw [@loaded_uploaded _ _ _ _ 0 (Reference.session 0) _ _ _ none _ (Reference.session i).core
    primitives_lawful run rfl, parseAs_writeSnapshot]
  refine if_neg fun shallow => ?_
  have low := (shallow_iff_height _).mp shallow _ List.mem_cons_self
  rw [height_chain] at low
  exact absurd low (by decide)

end
end HeliumSync
