import HeliumSync.Keyed
import Mathlib.Algebra.GroupWithZero.Nat
import Mathlib.Data.List.Induction
import Mathlib.Data.List.Sort
import Mathlib.Order.Basic

/-! An ordered map, kept as the list of its entries with ascending keys. -/
namespace HeliumSync.Ordered

variable {κ α : Type} [LinearOrder κ]

def Ascending (key : α → κ) (xs : List α) : Prop := (xs.map key).Pairwise (· < ·)

instance (key : α → κ) (xs : List α) : Decidable (Ascending key xs) :=
  inferInstanceAs (Decidable (List.Pairwise _ _))

theorem Ascending.nodup {key : α → κ} {xs : List α} (ascending : Ascending key xs) :
    (xs.map key).Nodup := List.Pairwise.imp ne_of_lt ascending

/-- Insertion replaces an entry of the same key. -/
def insert (key : α → κ) (x : α) : List α → List α
  | [] => [x]
  | y :: ys =>
      if key x < key y then x :: y :: ys
      else if key x = key y then x :: ys
      else y :: insert key x ys

/-- The map collected from a list: a later entry replaces an earlier one of its key. -/
def collect (key : α → κ) (xs : List α) : List α :=
  xs.foldl (fun entries x => insert key x entries) []

theorem mem_keys_insert {key : α → κ} {x : α} {xs : List α} {k : κ} :
    k ∈ (insert key x xs).map key ↔ k = key x ∨ k ∈ xs.map key := by
  induction xs with
  | nil => simp [insert]
  | cons y ys ih =>
      simp only [insert]
      split_ifs with before same
      · simp
      · simp [same]
      · simp only [List.map_cons, List.mem_cons, ih]
        tauto

theorem ascending_insert {key : α → κ} {xs : List α} (ascending : Ascending key xs) (x : α) :
    Ascending key (insert key x xs) := by
  induction xs with
  | nil => exact List.pairwise_singleton _ _
  | cons y ys ih =>
      obtain ⟨first, rest⟩ := List.pairwise_cons.mp ascending
      simp only [insert]
      split_ifs with before same
      · refine List.pairwise_cons.mpr ⟨fun k member => ?_, ascending⟩
        rcases List.mem_cons.mp member with rfl | later
        · exact before
        · exact before.trans (first k later)
      · exact List.pairwise_cons.mpr ⟨fun k member => same ▸ first k member, rest⟩
      · refine List.pairwise_cons.mpr ⟨fun k member => ?_, ih rest⟩
        rcases mem_keys_insert.mp member with rfl | later
        · exact lt_of_le_of_ne (not_lt.mp before) (Ne.symm same)
        · exact first k later

theorem mem_insert_self (key : α → κ) (x : α) (xs : List α) : x ∈ insert key x xs := by
  induction xs with
  | nil => exact List.mem_singleton_self x
  | cons y ys ih =>
      simp only [insert]
      split_ifs
      · exact List.mem_cons_self
      · exact List.mem_cons_self
      · exact List.mem_cons_of_mem y ih

theorem get_insert_of_ne {key : α → κ} {x : α} {k : κ} (other : k ≠ key x) (xs : List α) :
    Keyed.get key (insert key x xs) k = Keyed.get key xs k := by
  induction xs with
  | nil => simp [insert, Keyed.get, other.symm]
  | cons y ys ih =>
      simp only [insert]
      split_ifs with _ same
      · simp [Keyed.get, other.symm]
      · simp [Keyed.get, other.symm, ← same]
      · simp [Keyed.get, ih]

theorem get_insert_self {key : α → κ} {x : α} {xs : List α} (absent : key x ∉ xs.map key) :
    Keyed.get key (insert key x xs) (key x) = some x := by
  induction xs with
  | nil => simp [insert, Keyed.get]
  | cons y ys ih =>
      have later := Keyed.get_eq_none_iff.mpr fun member => absent (List.mem_cons_of_mem _ member)
      simp only [List.map_cons, List.mem_cons, not_or] at absent
      simp only [insert, if_neg absent.1]
      split_ifs
      · simp [Keyed.get, later, Ne.symm absent.1]
      · simp [Keyed.get, ih absent.2]

theorem get_insert {key : α → κ} {xs : List α} (ascending : Ascending key xs) (x : α) (k : κ) :
    Keyed.get key (insert key x xs) k = if k = key x then some x else Keyed.get key xs k := by
  split_ifs with here
  · rw [here]
    exact Keyed.get_of_mem (ascending_insert ascending x).nodup (mem_insert_self key x xs)
  · exact get_insert_of_ne here xs

theorem foldl_insert {key : α → κ} {entries : List α} (ascending : Ascending key entries)
    (xs : List α) :
    Ascending key (xs.foldl (fun entries x => insert key x entries) entries) ∧
    ∀ k, Keyed.get key (xs.foldl (fun entries x => insert key x entries) entries) k =
      (Keyed.get key xs k).or (Keyed.get key entries k) := by
  induction xs generalizing entries with
  | nil => exact ⟨ascending, fun k => rfl⟩
  | cons x xs ih =>
      obtain ⟨sorted, held⟩ := ih (ascending_insert ascending x)
      refine ⟨sorted, fun k => (held k).trans ?_⟩
      rw [Keyed.get, get_insert ascending, Option.or_assoc]
      by_cases here : k = key x
      · simp [here]
      · simp [here, Ne.symm here]

/-- Two ordered maps that hold the same are the same list. -/
theorem ext_of_get {key : α → κ} {xs ys : List α} (ascending : Ascending key xs)
    (ascending' : Ascending key ys) (same : ∀ k, Keyed.get key xs k = Keyed.get key ys k) :
    xs = ys := by
  refine Keyed.ext_of_get ascending.nodup
    (List.Pairwise.eq_of_mem_iff ascending ascending' fun k => ?_) same
  rw [← not_iff_not, ← Keyed.get_eq_none_iff, same k, Keyed.get_eq_none_iff]

theorem ascending_nil (key : α → κ) : Ascending key [] := List.Pairwise.nil

theorem ascending_collect (key : α → κ) (xs : List α) : Ascending key (collect key xs) :=
  (foldl_insert (ascending_nil key) xs).1

/-- Collecting keeps the last entry of every key. -/
theorem get_collect (key : α → κ) (xs : List α) (k : κ) :
    Keyed.get key (collect key xs) k = Keyed.get key xs k := ((foldl_insert (ascending_nil key) xs).2 k).trans (Option.or_none ..)

theorem mem_of_mem_insert {key : α → κ} {x y : α} {xs : List α} (member : y ∈ insert key x xs) :
    y = x ∨ y ∈ xs := by
  induction xs with
  | nil => exact .inl (List.mem_singleton.mp member)
  | cons z zs ih =>
      simp only [insert] at member
      split_ifs at member
      · exact List.mem_cons.mp member
      · exact (List.mem_cons.mp member).imp_right (List.mem_cons_of_mem z)
      · rcases List.mem_cons.mp member with rfl | later
        · exact .inr List.mem_cons_self
        · exact (ih later).imp_right (List.mem_cons_of_mem z)

theorem mem_of_mem_collect {key : α → κ} {y : α} {xs : List α} (member : y ∈ collect key xs) :
    y ∈ xs := by
  have fold : ∀ xs entries : List α,
      y ∈ xs.foldl (fun entries x => insert key x entries) entries → y ∈ xs ∨ y ∈ entries := by
    intro xs
    induction xs with
    | nil => exact fun _ => .inr
    | cons x xs ih =>
        intro entries member
        rcases ih _ member with later | held
        · exact .inl (List.mem_cons_of_mem x later)
        · rcases mem_of_mem_insert held with rfl | before
          · exact .inl List.mem_cons_self
          · exact .inr before
  exact (fold xs [] member).resolve_right List.not_mem_nil

theorem mem_collect_id {xs : List κ} {k : κ} : k ∈ collect id xs ↔ k ∈ xs := by
  have absent (ys : List κ) : Keyed.get id ys k = none ↔ k ∉ ys := by
    rw [Keyed.get_eq_none_iff, List.map_id]
  rw [← not_iff_not, ← absent, get_collect, absent]

theorem insert_last {key : α → κ} {x : α} {xs : List α} (last : ∀ y ∈ xs, key y < key x) :
    insert key x xs = xs ++ [x] := by
  induction xs with
  | nil => rfl
  | cons y ys ih =>
      have after := last y List.mem_cons_self
      rw [insert, if_neg after.not_gt, if_neg after.ne', ih fun z later =>
        last z (List.mem_cons_of_mem y later)]
      rfl

theorem collect_of_ascending {key : α → κ} {xs : List α} (ascending : Ascending key xs) :
    collect key xs = xs := by
  induction xs using List.reverseRecOn with
  | nil => rfl
  | append_singleton xs x ih =>
      rw [Ascending, List.map_append, List.pairwise_append] at ascending
      obtain ⟨before, _, last⟩ := ascending
      have init : collect key xs = xs := ih before
      rw [collect, List.foldl_append, ← collect, init]
      exact insert_last fun y member => last _ (List.mem_map_of_mem member) _ (by simp)

theorem collect_eq_self_iff {key : α → κ} {xs : List α} :
    collect key xs = xs ↔ Ascending key xs :=
  ⟨fun same => same ▸ ascending_collect key xs, collect_of_ascending⟩

theorem insert_map {β : Type} {key : α → κ} {key' : β → κ} {f : α → β}
    (keyed : ∀ x, key' (f x) = key x) (x : α) (xs : List α) :
    insert key' (f x) (xs.map f) = (insert key x xs).map f := by
  induction xs with
  | nil => rfl
  | cons y ys ih =>
      simp only [List.map_cons, insert, keyed]
      split_ifs <;> simp [ih]

/-- Collecting commutes with a map that keeps the keys. -/
theorem collect_map {β : Type} {key : α → κ} {key' : β → κ} {f : α → β}
    (keyed : ∀ x, key' (f x) = key x) (xs : List α) :
    collect key' (xs.map f) = (collect key xs).map f := by
  have fold : ∀ entries : List α,
      (xs.map f).foldl (fun entries x => insert key' x entries) (entries.map f) =
        (xs.foldl (fun entries x => insert key x entries) entries).map f := by
    induction xs with
    | nil => exact fun _ => rfl
    | cons x xs ih =>
        intro entries
        simp only [List.map_cons, List.foldl_cons, insert_map keyed, ih]
  exact fold []

end HeliumSync.Ordered
