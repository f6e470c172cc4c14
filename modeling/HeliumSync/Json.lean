import HeliumSync.Fallible
import Mathlib.Algebra.GroupWithZero.Nat
import Mathlib.Data.Fin.Basic
import Mathlib.Order.Fin.Basic
import Mathlib.Order.MinMax

/-! JSON documents and the readers that `serde` derives from record declarations. -/
namespace HeliumSync

/-- `u64` -/
abbrev U64 := Fin 18446744073709551616

instance U64.neZero : NeZero 18446744073709551616 := ⟨by decide⟩

/-- An object lists its entries in the order of the text, repeated keys included. -/
inductive Json where
  | null
  | bool (value : Bool)
  | int (value : Int)
  | float (literal : String)
  | str (value : String)
  | arr (items : List Json)
  | obj (entries : List (String × Json))

namespace Json

mutual
/-- How many containers nest. -/
def depth : Json → Nat
  | arr items => 1 + depthItems items
  | obj entries => 1 + depthEntries entries
  | _ => 0

def depthItems : List Json → Nat
  | [] => 0
  | item :: items => max item.depth (depthItems items)

def depthEntries : List (String × Json) → Nat
  | [] => 0
  | (_, value) :: entries => max value.depth (depthEntries entries)
end

mutual
def decEq : (a b : Json) → Decidable (a = b)
  | null, null => isTrue rfl
  | bool a, bool b => decidable_of_iff (a = b) (by simp)
  | int a, int b => decidable_of_iff (a = b) (by simp)
  | float a, float b => decidable_of_iff (a = b) (by simp)
  | str a, str b => decidable_of_iff (a = b) (by simp)
  | arr xs, arr ys =>
      match decEqItems xs ys with
      | isTrue same => isTrue (by rw [same])
      | isFalse differ => isFalse (by simp [differ])
  | obj xs, obj ys =>
      match decEqEntries xs ys with
      | isTrue same => isTrue (by rw [same])
      | isFalse differ => isFalse (by simp [differ])
  | null, bool _ | null, int _ | null, float _ | null, str _ | null, arr _ | null, obj _
  | bool _, null | bool _, int _ | bool _, float _ | bool _, str _ | bool _, arr _ | bool _, obj _
  | int _, null | int _, bool _ | int _, float _ | int _, str _ | int _, arr _ | int _, obj _
  | float _, null | float _, bool _ | float _, int _ | float _, str _ | float _, arr _
  | float _, obj _
  | str _, null | str _, bool _ | str _, int _ | str _, float _ | str _, arr _ | str _, obj _
  | arr _, null | arr _, bool _ | arr _, int _ | arr _, float _ | arr _, str _ | arr _, obj _
  | obj _, null | obj _, bool _ | obj _, int _ | obj _, float _ | obj _, str _ | obj _, arr _ =>
      isFalse nofun

def decEqItems : (xs ys : List Json) → Decidable (xs = ys)
  | [], [] => isTrue rfl
  | x :: xs, y :: ys =>
      match decEq x y, decEqItems xs ys with
      | isTrue h, isTrue t => isTrue (by rw [h, t])
      | isFalse h, _ => isFalse (by simp [h])
      | _, isFalse t => isFalse (by simp [t])
  | [], _ :: _ => isFalse nofun
  | _ :: _, [] => isFalse nofun

def decEqEntries : (xs ys : List (String × Json)) → Decidable (xs = ys)
  | [], [] => isTrue rfl
  | (k, x) :: xs, (l, y) :: ys =>
      match decEq x y, decEqEntries xs ys with
      | isTrue h, isTrue t => decidable_of_iff (k = l) (by simp [h, t])
      | isFalse h, _ => isFalse (by simp [h])
      | _, isFalse t => isFalse (by simp [t])
  | [], _ :: _ => isFalse nofun
  | _ :: _, [] => isFalse nofun
end

instance : DecidableEq Json := decEq

def asString : Json → Except String String
  | str value => .ok value
  | _ => .error "invalid type: expected a string"

def asU64 : Json → Except String U64
  | int value =>
      if h : value.toNat < 18446744073709551616 then
        if 0 ≤ value then .ok ⟨value.toNat, h⟩ else .error "invalid value: expected u64"
      else .error "invalid value: expected u64"
  | _ => .error "invalid type: expected u64"

/-- `serde_json`'s parser gives up when it has gone into this many nested containers. -/
def recursionLimit : Nat := 128

/-- A reader that the parser serves, with how deep the parser goes for it: what a reader does not ask
for is skipped, and not gone into. -/
def limited {α : Type} (depth : Json → Nat) (read : Json → Except String α) (value : Json) :
    Except String α :=
  if depth value < recursionLimit then read value else .error "recursion limit exceeded"

/-- `serde_json::Value`, for which the parser goes into everything. -/
def asValue : Json → Except String Json := limited depth .ok

/-- `Option<T>` -/
def asOption {α : Type} (read : Json → Except String α) : Json → Except String (Option α)
  | null => .ok none
  | value => some <$> read value

/-- `Vec<T>` -/
def asList {α : Type} (read : Json → Except String α) : Json → Except String (List α)
  | arr items => items.mapM read
  | _ => .error "invalid type: expected a sequence"

def ofU64 (value : U64) : Json := .int value.val

def ofOption : Option String → Json
  | none => null
  | some value => str value

/-- The entries a derived `Deserialize` visits: those of an object, or those of an array in
declaration order, of which only the first `required` must be there. -/
def fields (names : List String) (required : Nat) : Json → Except String (List (String × Json))
  | obj entries => .ok entries
  | arr items =>
      if items.length < required then .error "invalid length"
      else if names.length < items.length then .error "trailing characters"
      else .ok (names.zip items)
  | _ => .error "invalid type: expected a struct"

/-- A repeated field is refused. -/
def only {α : Type} (name : String) : List α → Except String (Option α)
  | [] => .ok none
  | [value] => .ok (some value)
  | _ => .error s!"duplicate field {name}"

def lookup (entries : List (String × Json)) (name : String) : Except String (Option Json) :=
  only name ((entries.filter (fun entry => entry.1 = name)).map (·.2))

def required {α : Type} (entries : List (String × Json)) (name : String)
    (read : Json → Except String α) : Except String α := do
  match ← lookup entries name with
  | some value => read value
  | none => .error s!"missing field {name}"

/-- `#[serde(default)]`, and an `Option` field without it in an object. -/
def defaulted {α : Type} (entries : List (String × Json)) (name : String) (value : α)
    (read : Json → Except String α) : Except String α := do
  match ← lookup entries name with
  | some found => read found
  | none => .ok value

/-- The deepest of some values. -/
def deepest {α : Type} (depth : α → Nat) (values : List α) : Nat := (values.map depth).foldr max 0

/-- How deep the parser goes for a list whose items take so much. -/
def listDepth (depth : Json → Nat) : Json → Nat
  | arr items => 1 + deepest depth items
  | _ => 0

/-- How deep the parser goes for a map whose values take so much. -/
def mapDepth (depth : Json → Nat) : Json → Nat
  | obj entries => 1 + deepest (fun entry => depth entry.2) entries
  | _ => 0

/-- How deep the parser goes for a record that has one field with containers. -/
def fieldDepth (names : List String) (required : Nat) (name : String) (depth : Json → Nat)
    (value : Json) : Nat :=
  match fields names required value with
  | .ok entries => 1 + deepest (fun entry => depth entry.2) (entries.filter (·.1 = name))
  | .error _ => 0

@[simp] theorem asString_str (value : String) : asString (str value) = .ok value := rfl

@[simp] theorem asU64_ofU64 (value : U64) : asU64 (ofU64 value) = .ok value := by
  simp [asU64, ofU64, value.isLt]

@[simp] theorem asOption_ofOption (value : Option String) :
    asOption asString (ofOption value) = .ok value := by cases value <;> rfl

@[simp] theorem asOption_str (value : String) :
    asOption asString (str value) = .ok (some value) := rfl

/-- A list written item by item is read back item by item. -/
theorem asList_map {α : Type} {write : α → Json} {read : Json → Except String α}
    (values : List α) (round : ∀ value ∈ values, read (write value) = .ok value) :
    asList read (arr (values.map write)) = .ok values :=
  (Fallible.mapM_map_ok write read id values round).trans (congrArg _ (List.map_id values))

theorem depthItems_map_le {α : Type} {f : α → Json} {values : List α} {n : Nat}
    (each : ∀ value ∈ values, (f value).depth ≤ n) : depthItems (values.map f) ≤ n := by
  induction values with
  | nil => exact Nat.zero_le n
  | cons value values ih =>
      exact max_le (each value List.mem_cons_self)
        (ih fun other later => each other (List.mem_cons_of_mem value later))

theorem le_depthItems {item : Json} {items : List Json} (member : item ∈ items) :
    item.depth ≤ depthItems items := by
  induction items with
  | nil => simp at member
  | cons other items ih =>
      rcases List.mem_cons.mp member with rfl | later
      · exact le_max_left _ _
      · exact (ih later).trans (le_max_right _ _)

theorem depthEntries_le {entries : List (String × Json)} {n : Nat}
    (each : ∀ entry ∈ entries, entry.2.depth ≤ n) : depthEntries entries ≤ n := by
  induction entries with
  | nil => exact Nat.zero_le n
  | cons entry entries ih =>
      exact max_le (each entry List.mem_cons_self)
        (ih fun other later => each other (List.mem_cons_of_mem entry later))

theorem le_deepest {α : Type} {depth : α → Nat} {a : α} {values : List α} (member : a ∈ values) :
    depth a ≤ deepest depth values := by
  induction values with
  | nil => cases member
  | cons b values ih =>
      rcases List.mem_cons.mp member with rfl | later
      · exact le_max_left _ _
      · exact (ih later).trans (le_max_right _ _)

theorem deepest_congr {α : Type} {depth depth' : α → Nat} {values : List α}
    (same : ∀ a ∈ values, depth a = depth' a) : deepest depth values = deepest depth' values := by
  rw [deepest, List.map_congr_left same]
  rfl

theorem depthItems_eq_deepest (items : List Json) : depthItems items = deepest depth items := by
  induction items with
  | nil => rfl
  | cons item items ih => exact congrArg _ ih

theorem depthEntries_eq_deepest (entries : List (String × Json)) :
    depthEntries entries = deepest (fun entry => entry.2.depth) entries := by
  induction entries with
  | nil => rfl
  | cons entry entries ih => exact congrArg _ ih

theorem only_ok {α : Type} {name : String} {values : List α} {value : α}
    (found : only name values = .ok (some value)) : value ∈ values := by
  match values with
  | [] => cases found
  | [_] => cases found; exact List.mem_singleton.mpr rfl
  | _ :: _ :: _ => cases found

/-- A required field was read from one of the entries. -/
theorem required_mem {α : Type} {entries : List (String × Json)} {name : String}
    {read : Json → Except String α} {a : α} (h : required entries name read = .ok a) :
    ∃ entry ∈ entries.filter (·.1 = name), read entry.2 = .ok a := by
  obtain ⟨found, held, h⟩ := Fallible.bind_ok_iff.mp h
  match found with
  | some value =>
      obtain ⟨entry, member, rfl⟩ := List.mem_map.mp (only_ok held)
      exact ⟨entry, member, h⟩
  | none => cases h

/-- The field of a record that has containers was read from one that the parser went into. -/
theorem required_depth {α : Type} {names : List String} {count : Nat} {value : Json}
    {entries : List (String × Json)} {name : String} {read : Json → Except String α} {a : α}
    (depth : Json → Nat) (visited : fields names count value = .ok entries)
    (h : required entries name read = .ok a) :
    ∃ field, read field = .ok a ∧ 1 + depth field ≤ fieldDepth names count name depth value := by
  obtain ⟨entry, member, read'⟩ := required_mem h
  refine ⟨entry.2, read', ?_⟩
  rw [fieldDepth, visited]
  exact Nat.add_le_add_left (@le_deepest _ (fun entry => depth entry.2) _ _ member) 1

/-- Every item of a list is read from one of the items. -/
theorem asList_depth {α : Type} {read : Json → Except String α} {write : α → Json} {value : Json}
    {values : List α} {depth : Json → Nat} (each : ∀ v a, read v = .ok a → (write a).depth ≤ depth v)
    (h : asList read value = .ok values) :
    1 + depthItems (values.map write) ≤ listDepth depth value := by
  match value with
  | arr items =>
      refine Nat.add_le_add_left ?_ 1
      change items.mapM read = .ok values at h
      induction items generalizing values with
      | nil => cases h; exact le_refl _
      | cons item items ih =>
          rw [List.mapM_cons] at h
          obtain ⟨first, found, h⟩ := Fallible.bind_ok_iff.mp h
          obtain ⟨rest, others, h⟩ := Fallible.bind_ok_iff.mp h
          cases h
          exact max_le_max (each item first found) (ih others)
  | null | bool _ | int _ | float _ | str _ | obj _ => cases h

end Json
end HeliumSync
