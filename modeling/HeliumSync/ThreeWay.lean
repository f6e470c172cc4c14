import Mathlib.Logic.Basic

/-! The three-way choice of one value. A side that still holds the base gives
way to the other; where both moved apart the clash value is taken. -/
namespace HeliumSync.ThreeWay

variable {α : Type}

/-- Both sides moved away from the base and from each other. -/
def Clashes (base : Option α) (loc remote : α) : Prop :=
  loc ≠ remote ∧ some loc ≠ base ∧ some remote ≠ base

theorem Clashes.symm {base : Option α} {loc remote : α} (h : Clashes base loc remote) :
    Clashes base remote loc := ⟨Ne.symm h.1, h.2.2, h.2.1⟩

theorem clashes_comm {base : Option α} {loc remote : α} :
    Clashes base loc remote ↔ Clashes base remote loc := ⟨Clashes.symm, Clashes.symm⟩

variable [DecidableEq α]

instance (base : Option α) (loc remote : α) : Decidable (Clashes base loc remote) :=
  inferInstanceAs (Decidable (_ ∧ _ ∧ _))

/-- `base = none` says that the two sides have no common past. -/
def reconcile (base : Option α) (loc remote clash : α) : α :=
  if loc = remote then loc
  else if some loc = base then remote
  else if some remote = base then loc
  else clash

@[simp] theorem reconcile_self (base : Option α) (x clash : α) :
    reconcile base x x clash = x := if_pos rfl

theorem reconcile_clash {base : Option α} {loc remote clash : α}
    (h : Clashes base loc remote) : reconcile base loc remote clash = clash := by
  simp only [reconcile, if_neg h.1, if_neg h.2.1, if_neg h.2.2]

/-- An unchanged local side adopts the remote one. -/
theorem reconcile_of_local {base : Option α} {loc : α} (kept : some loc = base)
    (remote clash : α) : reconcile base loc remote clash = remote := by
  by_cases same : loc = remote
  · subst same; exact if_pos rfl
  · simp only [reconcile, if_neg same, if_pos kept]

/-- An unchanged remote side adopts the local one. -/
theorem reconcile_of_remote {base : Option α} {remote : α} (kept : some remote = base)
    (loc clash : α) : reconcile base loc remote clash = loc := by
  by_cases same : loc = remote
  · simp only [reconcile, if_pos same]
  · have moved : some loc ≠ base := fun h => same (Option.some.inj (h.trans kept.symm))
    simp only [reconcile, if_neg same, if_neg moved, if_pos kept]

/-- Without a common past a remote value that wins clashes stands. -/
@[simp] theorem reconcile_none (loc remote : α) :
    reconcile none loc remote remote = remote := by
  by_cases same : loc = remote
  · exact (if_pos same).trans same
  · exact reconcile_clash ⟨same, Option.some_ne_none loc, Option.some_ne_none remote⟩

/-- Every way a choice can come about. -/
theorem reconcile_cases (base : Option α) (loc remote clash : α) :
    (loc = remote ∧ reconcile base loc remote clash = loc) ∨
    (loc ≠ remote ∧ some loc = base ∧ reconcile base loc remote clash = remote) ∨
    (loc ≠ remote ∧ some remote = base ∧ reconcile base loc remote clash = loc) ∨
    (Clashes base loc remote ∧ reconcile base loc remote clash = clash) := by
  by_cases same : loc = remote
  · exact .inl ⟨same, by simp [same]⟩
  by_cases left : some loc = base
  · exact .inr (.inl ⟨same, left, reconcile_of_local left _ _⟩)
  by_cases right : some remote = base
  · exact .inr (.inr (.inl ⟨same, right, reconcile_of_remote right _ _⟩))
  · exact .inr (.inr (.inr ⟨⟨same, left, right⟩, reconcile_clash ⟨same, left, right⟩⟩))

/-- Without a clash the choice does not depend on which side is called remote. -/
theorem reconcile_comm {base : Option α} {loc remote : α} (calm : ¬ Clashes base loc remote)
    (clash clash' : α) : reconcile base loc remote clash = reconcile base remote loc clash' := by
  rcases reconcile_cases base loc remote clash with
    ⟨same, _⟩ | ⟨_, left, value⟩ | ⟨_, right, value⟩ | ⟨clashes, _⟩
  · subst same
    rw [reconcile_self, reconcile_self]
  · rw [value, reconcile_of_remote left]
  · rw [value, reconcile_of_local right]
  · exact absurd clashes calm

/-- Where the remote wins a clash, the choice is the base only if nobody moved. -/
theorem base_of_reconcile {base : Option α} {loc remote : α}
    (h : some (reconcile base loc remote remote) = base) :
    some loc = base ∧ some remote = base := by
  rcases reconcile_cases base loc remote remote with
    ⟨same, value⟩ | ⟨_, left, value⟩ | ⟨_, right, value⟩ | ⟨clash, value⟩
  · rw [value] at h; exact ⟨h, same ▸ h⟩
  · rw [value] at h; exact ⟨left, h⟩
  · rw [value] at h; exact ⟨h, right⟩
  · rw [value] at h; exact absurd h clash.2.2

/-- Reconciling again with the outcome on the remote side changes nothing. -/
theorem reconcile_absorb (base : Option α) (loc remote : α) :
    reconcile base loc (reconcile base loc remote remote) (reconcile base loc remote remote) =
      reconcile base loc remote remote := by
  rcases reconcile_cases base loc (reconcile base loc remote remote)
      (reconcile base loc remote remote) with
    ⟨same, value⟩ | ⟨_, _, value⟩ | ⟨moved, right, _⟩ | ⟨_, value⟩
  · exact value.trans same
  · exact value
  · have both := base_of_reconcile right
    exact absurd (Option.some.inj (both.1.trans right.symm)) moved
  · exact value

end HeliumSync.ThreeWay
