import HeliumSync.ExtensionBundle

/-! What a walk of the capture collects: every folder and file below, each at its own path. -/
namespace HeliumSync
open Files
open Fallible (bind_ok_iff)

/-- What the payload says of a place. -/
def payloadKind : Option Plaintext → Kind Plaintext
  | none => .dir
  | some content => .file content

mutual
/-- The folders and files of a tree, symbolic links left out. -/
def payload (relative : Path) : Node Plaintext → List PayloadEntry
  | .link _ => []
  | .file content => [(relative, some content)]
  | .dir entries => (relative, none) :: payloadAll relative entries

def payloadAll (relative : Path) : List (String × Node Plaintext) → List PayloadEntry
  | [] => []
  | (name, node) :: entries => payload (relative ++ [name]) node ++ payloadAll relative entries
end

namespace Files.FileTree

theorem look_ofNode_dir {entries : List (String × Node Plaintext)} (sorted : (Node.dir entries).Sorted)
    (name : String) (q : Path) (kind : Kind Plaintext) :
    (ofNode (.dir entries) sorted).look (name :: q) = some kind ↔
      ∃ entry ∈ entries, entry.1 = name ∧
        ∃ below : entry.2.Sorted, (ofNode entry.2 below).look q = some kind := by
  constructor
  · intro found
    change (((ofNode (.dir entries) sorted).child name).get q).kind = some kind at found
    rcases child_ofNode_dir sorted name with ⟨-, nothing⟩ | ⟨entry, member, below, -, same, here⟩
    · rw [nothing, get_empty] at found
      cases found
    · rw [here] at found
      exact ⟨entry, member, same, below, found⟩
  · rintro ⟨entry, member, rfl, below, found⟩
    have here : (ofNode (.dir entries) sorted).child entry.1 = ofNode entry.2 below :=
      ext_slot (congrArg (Option.map Prod.snd) (Keyed.get_of_mem sorted.1.nodup member))
    change (((ofNode (.dir entries) sorted).child entry.1).get q).kind = some kind
    rwa [here]

end Files.FileTree

open Files.FileTree (ofNode look_ofNode_dir place_of_resolve stat_concat look look_of_before
  isDir_of_before get_append get_empty ext_slot isDir stat mem_names_iff)

mutual
theorem mem_payload : ∀ (node : Node Plaintext) (sorted : node.Sorted) (relative p : Path)
    (content : Option Plaintext), (p, content) ∈ payload relative node ↔
      ∃ q, p = relative ++ q ∧ (ofNode node sorted).look q = some (payloadKind content)
  | .link target, _, relative, p, content => by
      constructor
      · intro member
        cases member
      · rintro ⟨q, -, found⟩
        match q, content with
        | [], none | [], some _ => cases found
        | _ :: _, _ =>
            rw [FileTree.look, FileTree.get_of_not_dir (by nofun) (List.cons_ne_nil _ _)] at found
            cases found
  | .file text, _, relative, p, content => by
      constructor
      · intro member
        cases List.mem_singleton.mp member
        exact ⟨[], (List.append_nil relative).symm, rfl⟩
      · rintro ⟨q, rfl, found⟩
        match q, content with
        | [], none => cases found
        | [], some _ =>
            cases found
            rw [List.append_nil]
            exact List.mem_cons_self
        | _ :: _, _ =>
            rw [FileTree.look, FileTree.get_of_not_dir (by nofun) (List.cons_ne_nil _ _)] at found
            cases found
  | .dir entries, sorted, relative, p, content => by
      have below := mem_payloadAll entries sorted.2 relative p content
      rw [payload, List.mem_cons, below]
      constructor
      · rintro (here | ⟨entry, member, q, rfl, inner, found⟩)
        · cases here
          exact ⟨[], (List.append_nil relative).symm, rfl⟩
        · exact ⟨entry.1 :: q, rfl, (look_ofNode_dir sorted _ q _).mpr
            ⟨entry, member, rfl, inner, found⟩⟩
      · rintro ⟨q, rfl, found⟩
        match q with
        | [] =>
            match content with
            | none => exact .inl (by rw [List.append_nil])
            | some _ => cases found
        | name :: q =>
            obtain ⟨entry, member, rfl, inner, found⟩ := (look_ofNode_dir sorted name q _).mp found
            exact .inr ⟨entry, member, q, rfl, inner, found⟩

theorem mem_payloadAll : ∀ (entries : List (String × Node Plaintext))
    (_ : Node.SortedAll entries) (relative p : Path) (content : Option Plaintext),
    (p, content) ∈ payloadAll relative entries ↔
      ∃ entry ∈ entries, ∃ q, p = relative ++ entry.1 :: q ∧
        ∃ below : entry.2.Sorted, (ofNode entry.2 below).look q = some (payloadKind content)
  | [], _, _, _, _ => by simp [payloadAll]
  | (name, node) :: entries, sorted, relative, p, content => by
      have here := mem_payload node sorted.1 (relative ++ [name]) p content
      have later := mem_payloadAll entries sorted.2 relative p content
      rw [payloadAll, List.mem_append, here, later]
      constructor
      · rintro (⟨q, rfl, found⟩ | ⟨entry, member, rest⟩)
        · exact ⟨(name, node), List.mem_cons_self, q, by simp, sorted.1, found⟩
        · exact ⟨entry, List.mem_cons_of_mem _ member, rest⟩
      · rintro ⟨entry, member, q, rfl, below, found⟩
        rcases List.mem_cons.mp member with rfl | member
        · exact .inl ⟨q, by simp, found⟩
        · exact .inr ⟨entry, member, q, rfl, below, found⟩
end

namespace LocatedProfile
variable {C : Type} {P : Primitives C} {t : FileTree Plaintext} {home : Path}

mutual
/-- A walk that succeeds collects the payload. -/
theorem addNode_ok : ∀ (node : Node Plaintext) (relative : Path) (bundle bundle' : ExtensionBundle),
    addNode P t home relative node bundle = .ok bundle' →
      bundle' = (payload relative node).foldl (addEntry P) bundle
  | .link _, relative, bundle, bundle', added => by
      rw [addNode] at added
      split_ifs at added
      cases added
      rfl
  | .file _, relative, bundle, bundle', added => by
      cases added
      rfl
  | .dir entries, relative, bundle, bundle', added => by
      exact addEntries_ok entries relative _ _ added

theorem addEntries_ok : ∀ (entries : List (String × Node Plaintext)) (relative : Path)
    (bundle bundle' : ExtensionBundle), addEntries P t home relative entries bundle = .ok bundle' →
      bundle' = (payloadAll relative entries).foldl (addEntry P) bundle
  | [], _, _, _, added => by
      cases added
      rfl
  | (name, node) :: entries, relative, bundle, bundle', added => by
      obtain ⟨between, first, later⟩ := bind_ok_iff.mp added
      rw [payloadAll, List.foldl_append, ← addNode_ok node _ _ _ first]
      exact addEntries_ok entries relative _ _ later
end

mutual
/-- A tree without symbolic links is always collected. -/
theorem addNode_of_linkless : ∀ (node : Node Plaintext) (sorted : node.Sorted) (relative : Path)
    (bundle : ExtensionBundle), (∀ q target, (ofNode node sorted).look q ≠ some (.link target)) →
      addNode P t home relative node bundle =
        .ok ((payload relative node).foldl (addEntry P) bundle)
  | .link target, _, _, _, linkless => absurd rfl (linkless [] target)
  | .file _, _, _, _, _ => rfl
  | .dir entries, sorted, relative, _, linkless =>
      addEntries_of_linkless entries sorted.2 relative _ fun entry member below q target found =>
        linkless (entry.1 :: q) target
          ((look_ofNode_dir sorted _ q _).mpr ⟨entry, member, rfl, below, found⟩)

theorem addEntries_of_linkless : ∀ (entries : List (String × Node Plaintext))
    (_ : Node.SortedAll entries) (relative : Path) (bundle : ExtensionBundle),
    (∀ entry ∈ entries, ∀ (below : entry.2.Sorted) q target,
      (ofNode entry.2 below).look q ≠ some (.link target)) →
      addEntries P t home relative entries bundle =
        .ok ((payloadAll relative entries).foldl (addEntry P) bundle)
  | [], _, _, _, _ => rfl
  | (name, node) :: entries, sorted, relative, _, linkless => by
      rw [addEntries, addNode_of_linkless node sorted.1 _ _
        (linkless _ List.mem_cons_self sorted.1), payloadAll, List.foldl_append]
      exact addEntries_of_linkless entries sorted.2 relative _
        fun entry member => linkless entry (List.mem_cons_of_mem _ member)
end

/-- What `add_extension_tree` collects at a path. -/
def payloadAt (t : FileTree Plaintext) (home relative : Path) : List PayloadEntry :=
  if (t.stat (home ++ relative)).isNone then []
  else
    match t.place (home ++ relative) with
    | .error _ => []
    | .ok place =>
        match (t.get place).slot with
        | none => []
        | some node => payload relative node

theorem addExtensionTree_ok {relative : Path} {bundle bundle' : ExtensionBundle}
    (added : addExtensionTree P t home relative bundle = .ok bundle') :
    bundle' = (payloadAt t home relative).foldl (addEntry P) bundle := by
  rw [addExtensionTree] at added
  rw [payloadAt]
  split_ifs at added ⊢ with absent
  · cases added
    rfl
  · obtain ⟨place, placed, added⟩ := bind_ok_iff.mp added
    match here : t.place (home ++ relative) with
    | .error _ =>
        rw [here] at placed
        cases placed
    | .ok place' =>
        rw [here] at placed
        cases placed
        cases slot : (t.get place).slot with
        | none =>
            simp only [slot] at added ⊢
            cases added
            rfl
        | some node =>
            simp only [slot] at added ⊢
            exact addNode_ok node relative bundle bundle' added

theorem foldlM_addExtensionTree_ok {names : List String} {path : String → Path}
    {bundle bundle' : ExtensionBundle}
    (added : names.foldlM (fun bundle name => addExtensionTree P t home (path name) bundle) bundle =
      .ok bundle') :
    bundle' = (names.flatMap fun name => payloadAt t home (path name)).foldl (addEntry P) bundle := by
  induction names generalizing bundle with
  | nil =>
      cases added
      rfl
  | cons name names ih =>
      obtain ⟨between, first, later⟩ := bind_ok_iff.mp (List.foldlM_cons.symm.trans added)
      rw [List.flatMap_cons, List.foldl_append, ← addExtensionTree_ok first]
      exact ih later

/-- What the capture of a profile collects. -/
def payloadOf (t : FileTree Plaintext) (home : Path) : List PayloadEntry :=
  (extensionDirectories.flatMap fun directory => payloadAt t home [directory]) ++
    (extensionOrigins t home).flatMap fun name => payloadAt t home ["IndexedDB", name]

theorem foldl_addEntry_payload (entries : List PayloadEntry) (bundle : ExtensionBundle) :
    (entries.foldl (addEntry P) bundle).payload = bundle.payload ++ entries := by
  induction entries generalizing bundle with
  | nil => simp
  | cons entry entries ih =>
      rw [List.foldl_cons, ih]
      match entry with
      | (p, none) | (p, some content) => simp [addEntry]

/-- A capture that succeeds: its payload, its sections, and what it counted. -/
theorem gather_ok {bundle : ExtensionBundle} (gathered : gather P t home = .ok bundle) :
    bundle.payload = payloadOf t home ∧
      bundle.stats = ((payloadOf t home).foldl (addEntry P)
        ⟨[], [], ⟨countExtensions t home, 0, 0⟩⟩).stats ∧
      extensionPreferenceFiles.mapM (fun fileName =>
        readExtensionPreferences P t (home ++ [fileName])) = .ok bundle.sections := by
  obtain ⟨directories, first, gathered⟩ := bind_ok_iff.mp gathered
  obtain ⟨origins, second, gathered⟩ := bind_ok_iff.mp gathered
  obtain ⟨sections, third, gathered⟩ := bind_ok_iff.mp gathered
  cases gathered
  have collected := foldlM_addExtensionTree_ok second
  rw [foldlM_addExtensionTree_ok first, ← List.foldl_append] at collected
  rw [collected]
  exact ⟨foldl_addEntry_payload _ _, rfl, third⟩

/-- The payload of an entry of a directory is what stands there. -/
theorem mem_payloadAt {d root p : Path} {name : String} {content : Option Plaintext}
    (resolved : t.resolve (home ++ d) = some root) (parent : t.isDir root) :
    (p, content) ∈ payloadAt t home (d ++ [name]) ↔
      ∃ q, p = d ++ name :: q ∧ t.look (root ++ name :: q) = some (payloadKind content) := by
  have placed := place_of_resolve resolved parent name
  have path : home ++ (d ++ [name]) = home ++ d ++ [name] := (List.append_assoc home d [name]).symm
  rw [payloadAt, path]
  split_ifs with absent
  · constructor
    · intro member
      cases member
    rintro ⟨q, -, found⟩
    refine absurd absent ?_
    have before : root ++ [name] <+: root ++ name :: q :=
      List.prefix_append_right_inj root |>.mpr (List.prefix_append [name] q)
    have there : t.look (root ++ [name]) ≠ none := fun nothing => by
      cases (look_of_before before nothing).symm.trans found
    have plain : ∀ target, t.look (root ++ [name]) ≠ some (.link target) := by
      intro target link
      match q with
      | [] =>
          rw [link] at found
          cases content <;> cases found
      | next :: q =>
          have directory := isDir_of_before before (by simp) fun nothing => by
            cases nothing.symm.trans found
          cases link.symm.trans directory
    rw [stat_concat resolved parent plain there]
    simpa using there
  · rw [placed]
    change (p, content) ∈ (match (t.get (root ++ [name])).slot with
      | none => []
      | some node => payload (d ++ [name]) node) ↔ _
    have onward (q : Path) : t.look (root ++ name :: q) = (t.get (root ++ [name])).look q := by
      rw [List.append_cons, look, get_append]
      rfl
    simp only [onward]
    cases slot : (t.get (root ++ [name])).slot with
    | none =>
        have nothing : t.get (root ++ [name]) = .empty := ext_slot slot
        constructor
        · intro member
          cases member
        · rintro ⟨q, -, found⟩
          rw [nothing, look, get_empty] at found
          cases found
    | some node =>
        have sorted : node.Sorted := (t.get (root ++ [name])).sorted node slot
        have here : t.get (root ++ [name]) = ofNode node sorted := ext_slot slot
        rw [here]
        exact (mem_payload node sorted (d ++ [name]) p content).trans (by simp)

theorem mem_extensionOrigins {name : String} : name ∈ extensionOrigins t home ↔
    ∃ root, t.resolve (home ++ ["IndexedDB"]) = some root ∧ t.isDir root ∧
      t.look (root ++ [name]) ≠ none ∧ isExtensionOrigin name = true := by
  rw [extensionOrigins, stat, FileTree.readDir]
  cases resolved : t.resolve (home ++ ["IndexedDB"]) with
  | none => simp
  | some root =>
      have listed : name ∈ (t.get root).names ↔ t.look (root ++ [name]) ≠ none := by
        rw [mem_names_iff, look, get_append]
        rfl
      rcases kind : t.look root with _ | content | target | _
      · simp [kind, isDir]
      · simp [kind, isDir]
      · simp [kind, isDir]
      · simp [kind, isDir, listed]

end LocatedProfile
end HeliumSync
