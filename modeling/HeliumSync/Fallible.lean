import Mathlib.Logic.Basic

/-! Computations that may fail: what a successful outcome says about its steps. -/
namespace HeliumSync.Fallible

variable {ε α β γ κ : Type}

theorem bind_ok_iff {x : Except ε α} {f : α → Except ε β} {b : β} :
    (x >>= f) = .ok b ↔ ∃ a, x = .ok a ∧ f a = .ok b := by
  cases x with
  | error e => exact ⟨nofun, fun ⟨_, h, _⟩ => by cases h⟩
  | ok a => exact ⟨fun h => ⟨a, rfl, h⟩, fun ⟨_, same, h⟩ => by cases same; exact h⟩

theorem ok_bind {a : α} {f : α → Except ε β} : (Except.ok a >>= f) = f a := rfl

theorem mapM_map_ok (write : α → β) (read : β → Except ε γ) (target : α → γ) (values : List α)
    (round : ∀ value ∈ values, read (write value) = .ok (target value)) :
    (values.map write).mapM read = .ok (values.map target) := by
  induction values with
  | nil => rfl
  | cons value values ih =>
      rw [List.map_cons, List.mapM_cons, round value List.mem_cons_self,
        ih fun other later => round other (List.mem_cons_of_mem value later)]
      rfl

theorem mapM_isOk {f : α → Except ε β} {xs : List α} (each : ∀ x ∈ xs, ∃ y, f x = .ok y) :
    ∃ ys, xs.mapM f = .ok ys := by
  induction xs with
  | nil => exact ⟨[], rfl⟩
  | cons x xs ih =>
      obtain ⟨y, first⟩ := each x List.mem_cons_self
      obtain ⟨ys, later⟩ := ih fun other member => each other (List.mem_cons_of_mem x member)
      refine ⟨y :: ys, ?_⟩
      rw [List.mapM_cons, first, later]
      rfl

theorem mapM_append_ok {f : α → Except ε β} {xs xs' : List α} {ys ys' : List β}
    (first : xs.mapM f = .ok ys) (later : xs'.mapM f = .ok ys') :
    (xs ++ xs').mapM f = .ok (ys ++ ys') := by
  rw [List.mapM_append, first, later]
  rfl

/-- What every step keeps of its input, the whole traversal keeps in order. -/
theorem mapM_ok_map {f : α → Except ε β} (before : α → κ) (after : β → κ)
    (keep : ∀ x y, f x = .ok y → after y = before x) {xs : List α} {ys : List β}
    (h : xs.mapM f = .ok ys) : ys.map after = xs.map before := by
  induction xs generalizing ys with
  | nil => cases h; rfl
  | cons x xs ih =>
      rw [List.mapM_cons, bind_ok_iff] at h
      obtain ⟨y, first, h⟩ := h
      obtain ⟨rest, later, h⟩ := bind_ok_iff.mp h
      cases h
      rw [List.map_cons, List.map_cons, keep x y first, ih later]

/-- Every input of a traversal stands beside its own result. -/
theorem mapM_ok_zip {f : α → Except ε β} {xs : List α} {ys : List β} (h : xs.mapM f = .ok ys) :
    (∀ x y, (x, y) ∈ xs.zip ys → f x = .ok y) ∧ ∀ x ∈ xs, ∃ y, (x, y) ∈ xs.zip ys := by
  induction xs generalizing ys with
  | nil => exact ⟨nofun, nofun⟩
  | cons x xs ih =>
      rw [List.mapM_cons, bind_ok_iff] at h
      obtain ⟨y, first, h⟩ := h
      obtain ⟨rest, later, h⟩ := bind_ok_iff.mp h
      cases h
      obtain ⟨each, all⟩ := ih later
      constructor
      · intro x' y' member
        rcases List.mem_cons.mp member with same | member
        · cases same
          exact first
        · exact each x' y' member
      · intro x' member
        rcases List.mem_cons.mp member with rfl | member
        · exact ⟨y, List.mem_cons_self⟩
        · obtain ⟨y', beside⟩ := all x' member
          exact ⟨y', List.mem_cons_of_mem _ beside⟩

theorem mapM_ok_mem {f : α → Except ε β} {xs : List α} {ys : List β} (h : xs.mapM f = .ok ys)
    {y : β} (member : y ∈ ys) : ∃ x ∈ xs, f x = .ok y := by
  induction xs generalizing ys with
  | nil =>
      cases h
      cases member
  | cons x xs ih =>
      rw [List.mapM_cons, bind_ok_iff] at h
      obtain ⟨first, here, h⟩ := h
      obtain ⟨rest, later, h⟩ := bind_ok_iff.mp h
      cases h
      rcases List.mem_cons.mp member with rfl | member
      · exact ⟨x, List.mem_cons_self, here⟩
      · obtain ⟨x', inside, found⟩ := ih later member
        exact ⟨x', List.mem_cons_of_mem x inside, found⟩

/-- Every error is of this kind. -/
def Fails (told : ε → Prop) (x : Except ε α) : Prop := ∀ e, x = .error e → told e

namespace Fails
variable {told : ε → Prop}

theorem ok {a : α} : Fails told (.ok a) := nofun

theorem error {e : ε} (kind : told e) : Fails told (.error e : Except ε α) := by
  rintro _ ⟨⟩
  exact kind

theorem bind {x : Except ε α} {f : α → Except ε β} (first : Fails told x)
    (later : ∀ a, x = .ok a → Fails told (f a)) : Fails told (x >>= f) := by
  cases x with
  | ok a => exact later a rfl
  | error => exact fun e same => first e (by cases same; rfl)

theorem mapM {f : α → Except ε β} (each : ∀ a, Fails told (f a)) (values : List α) :
    Fails told (values.mapM f) := by
  induction values with
  | nil => exact ok
  | cons a values ih =>
      rw [List.mapM_cons]
      exact (each a).bind fun _ _ => ih.bind fun _ _ => ok

theorem mapError {ε' : Type} {told' : ε' → Prop} {x : Except ε α} {f : ε → ε'} (fails : Fails told x)
    (kind : ∀ e, told e → told' (f e)) : Fails told' (x.mapError f) := by
  cases x with
  | ok a => exact ok
  | error e => exact error (kind e (fails e rfl))

end Fails

end HeliumSync.Fallible
