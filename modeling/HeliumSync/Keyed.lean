import Mathlib.Algebra.GroupWithZero.Nat
import Mathlib.Data.List.Nodup
import Mathlib.Data.List.Basic
import Mathlib.Data.List.Pairwise

/-! Lists read as maps. A map collected from a list keeps the last entry of a
key; a traversal guarded by a set of seen keys keeps the first occurrence. -/
namespace HeliumSync.Keyed

variable {κ α σ : Type}

section Maps
variable [DecidableEq κ]

/-- The entry a map collected from `xs` holds under `k`. -/
def get (key : α → κ) : List α → κ → Option α
  | [], _ => none
  | x :: xs, k => (get key xs k).or (if key x = k then some x else none)

@[simp] theorem get_nil (key : α → κ) (k : κ) : get key [] k = none := rfl

theorem get_mem {key : α → κ} {xs : List α} {k : κ} {x : α} (h : get key xs k = some x) :
    x ∈ xs ∧ key x = k := by
  induction xs with
  | nil => simp at h
  | cons y ys ih =>
      simp only [get, Option.or_eq_some_iff] at h
      rcases h with later | ⟨_, here⟩
      · exact ⟨List.mem_cons_of_mem y (ih later).1, (ih later).2⟩
      · split_ifs at here with same
        cases here
        exact ⟨List.mem_cons_self, same⟩

theorem get_eq_none_iff {key : α → κ} {xs : List α} {k : κ} :
    get key xs k = none ↔ k ∉ xs.map key := by
  induction xs with
  | nil => simp
  | cons y ys ih =>
      simp only [get, Option.or_eq_none_iff, ih, ite_eq_right_iff, List.map_cons, List.mem_cons,
        not_or]
      constructor
      · rintro ⟨later, here⟩
        exact ⟨fun same => Option.some_ne_none y (here same.symm), later⟩
      · rintro ⟨here, later⟩
        exact ⟨later, fun same => absurd same.symm here⟩

/-- With distinct keys the map holds every entry of the list. -/
theorem get_of_mem {key : α → κ} {xs : List α} (distinct : (xs.map key).Nodup) {x : α}
    (member : x ∈ xs) : get key xs (key x) = some x := by
  induction xs with
  | nil => simp at member
  | cons y ys ih =>
      obtain ⟨fresh, rest⟩ := List.nodup_cons.mp distinct
      rcases List.mem_cons.mp member with rfl | later
      · simp [get, get_eq_none_iff.mpr fresh]
      · simp [get, ih rest later]

theorem get_eq_some_iff {key : α → κ} {xs : List α} (distinct : (xs.map key).Nodup) {k : κ}
    {x : α} : get key xs k = some x ↔ x ∈ xs ∧ key x = k :=
  ⟨get_mem, fun ⟨member, same⟩ => same ▸ get_of_mem distinct member⟩

/-- Two lists with the same distinct keys in the same order and the same map are equal. -/
theorem ext_of_get {key : α → κ} {xs ys : List α} (distinct : (xs.map key).Nodup)
    (order : xs.map key = ys.map key) (same : ∀ k, get key xs k = get key ys k) : xs = ys := by
  have pointwise : ∀ n (hx : n < xs.length) (hy : n < ys.length), xs[n] = ys[n] := by
    intro n hx hy
    have keys : key xs[n] = key ys[n] := by
      have := congrArg (fun ks : List κ => ks[n]?) order
      simpa [hx, hy] using this
    have left := get_of_mem distinct (List.getElem_mem hx)
    have right := get_of_mem (order ▸ distinct) (List.getElem_mem hy)
    rw [same, keys, right] at left
    exact (Option.some.inj left).symm
  have size : xs.length = ys.length := by simpa using congrArg List.length order
  exact List.ext_getElem size pointwise

/-- First occurrences of the keys, as a loop guarded by a set of seen keys visits them. -/
def unseen : List κ → List κ → List κ
  | _, [] => []
  | seen, k :: ks => if k ∈ seen then unseen seen ks else k :: unseen (k :: seen) ks

theorem mem_unseen {seen ks : List κ} {k : κ} : k ∈ unseen seen ks ↔ k ∈ ks ∧ k ∉ seen := by
  induction ks generalizing seen with
  | nil => simp [unseen]
  | cons j ks ih =>
      by_cases old : j ∈ seen
      · simp only [unseen, if_pos old, ih, List.mem_cons]
        exact ⟨fun ⟨m, n⟩ => ⟨.inr m, n⟩, fun ⟨m, n⟩ =>
          ⟨m.resolve_left fun same => n (same ▸ old), n⟩⟩
      · simp only [unseen, if_neg old, List.mem_cons, ih, not_or]
        by_cases same : k = j
        · subst same; simp [old]
        · simp [same]

theorem nodup_unseen (seen ks : List κ) : (unseen seen ks).Nodup := by
  induction ks generalizing seen with
  | nil => exact List.nodup_nil
  | cons j ks ih =>
      by_cases old : j ∈ seen
      · simpa only [unseen, if_pos old] using ih seen
      · simp only [unseen, if_neg old]
        exact List.nodup_cons.mpr ⟨fun h => (mem_unseen.mp h).2 List.mem_cons_self, ih _⟩

theorem unseen_congr {seen seen' : List κ} (same : ∀ k, k ∈ seen ↔ k ∈ seen') (ks : List κ) :
    unseen seen ks = unseen seen' ks := by
  induction ks generalizing seen seen' with
  | nil => rfl
  | cons j ks ih =>
      simp only [unseen, same j]
      split
      · exact ih same
      · exact congrArg (j :: ·) (ih (by simp [same]))

/-- A prefix of distinct new keys is visited in its own order. -/
theorem unseen_append_of_nodup {seen ks : List κ} (distinct : ks.Nodup)
    (new : ∀ k ∈ ks, k ∉ seen) (rest : List κ) :
    unseen seen (ks ++ rest) = ks ++ unseen (ks ++ seen) rest := by
  induction ks generalizing seen with
  | nil => rfl
  | cons j ks ih =>
      obtain ⟨fresh, tail⟩ := List.nodup_cons.mp distinct
      have head : j ∉ seen := new j List.mem_cons_self
      simp only [List.cons_append, unseen, if_neg head]
      rw [ih tail]
      · have same : ∀ k, k ∈ ks ++ j :: seen ↔ k ∈ j :: (ks ++ seen) := by simp [or_left_comm]
        rw [unseen_congr same rest]
      · intro k member
        simp only [List.mem_cons, not_or]
        exact ⟨fun same => fresh (same ▸ member), new k (List.mem_cons_of_mem j member)⟩

/-- The map of a list rebuilt key by key. -/
theorem get_filterMap {key : α → κ} {f : κ → Option α} (keyed : ∀ k x, f k = some x → key x = k)
    (ks : List κ) (k : κ) : get key (ks.filterMap f) k = if k ∈ ks then f k else none := by
  induction ks with
  | nil => rfl
  | cons j ks ih =>
      rw [List.filterMap_cons]
      cases value : f j with
      | none =>
          simp only [ih, List.mem_cons]
          by_cases same : k = j
          · subst same; simp [value]
          · simp [same]
      | some x =>
          simp only [get, ih, keyed j x value, List.mem_cons]
          by_cases same : k = j
          · subst same
            by_cases later : k ∈ ks <;> simp [later, value]
          · simp [same, Ne.symm same]

end Maps

theorem map_key_filterMap {key : α → κ} {f : κ → Option α}
    (keyed : ∀ k x, f k = some x → key x = k) (ks : List κ) :
    (ks.filterMap f).map key = ks.filter (fun k => (f k).isSome) := by
  induction ks with
  | nil => rfl
  | cons j ks ih =>
      cases value : f j with
      | none => simp [value, ih]
      | some x => simp [value, ih, keyed j x value]

/-- Values collected from entries of distinct keys repeat only within one entry or across keys. -/
theorem nodup_flatMap_of_apart {β : Type} {key : α → κ} {f : α → List β} {xs : List α}
    (distinct : (xs.map key).Nodup) (each : ∀ x ∈ xs, (f x).Nodup)
    (apart : ∀ x ∈ xs, ∀ y ∈ xs, key x ≠ key y → List.Disjoint (f x) (f y)) :
    (xs.flatMap f).Nodup := by
  apply List.nodup_flatMap.mpr
  refine ⟨each, ?_⟩
  have differ : xs.Pairwise fun x y => key x ≠ key y := List.pairwise_map.mp distinct
  apply differ.imp_of_mem
  intro x y here there other
  exact apart x here y there other

theorem disjoint_of_nodup_flatMap {β : Type} {f : α → List β} {xs : List α}
    (nodup : (xs.flatMap f).Nodup) {x y : α} (here : x ∈ xs) (there : y ∈ xs) (other : x ≠ y) :
    List.Disjoint (f x) (f y) := by
  obtain ⟨_, apart⟩ := List.nodup_flatMap.mp nodup
  have symmetric : Std.Symm (Function.onFun List.Disjoint f) := ⟨fun _ _ apart x here there => apart there here⟩
  exact apart.forall here there other

/-- `filter_map` over a list whose closure also threads a state. -/
def filterMapState (f : κ → σ → Option α × σ) : List κ → σ → List α × σ
  | [], s => ([], s)
  | k :: ks, s =>
      let head := f k s
      let tail := filterMapState f ks head.2
      (head.1.toList ++ tail.1, tail.2)

theorem filterMapState_counter {f : κ → Nat → Option α × Nat} {value : κ → Option α}
    {count : κ → Nat} (step : ∀ k n, f k n = (value k, n + count k)) (ks : List κ) (n : Nat) :
    filterMapState f ks n = (ks.filterMap value, n + (ks.map count).sum) := by
  induction ks generalizing n with
  | nil => rfl
  | cons k ks ih =>
      simp only [filterMapState, step, ih, List.filterMap_cons, List.map_cons, List.sum_cons]
      cases value k <;> simp [Nat.add_assoc]

end HeliumSync.Keyed
