import Mathlib.Logic.Function.Basic

/-! # Pointers to elements that know their owner

Some elements of a collection belong to an owner, each owner has a pointer to at most one
element, and each such element is marked with its owner.  `PointsTo` says that the pointers
and the marks agree on what is in the collection.  The rules are about a collection that gets or
loses one element.  Nothing here is about a particular kind of element. -/

variable {α κ : Type} {Live Live' : α → Prop} {owner : α → Option κ} {ptr : κ → Option α}

/-- The pointer of `k` leads to the live element that `k` owns. -/
def PointsTo (Live : α → Prop) (owner : α → Option κ) (ptr : κ → Option α) : Prop :=
  ∀ k a, ptr k = some a ↔ Live a ∧ owner a = some k

namespace PointsTo

theorem live (h : PointsTo Live owner ptr) {k : κ} {a : α} (ha : ptr k = some a) : Live a :=
  ((h k a).mp ha).1

theorem owned (h : PointsTo Live owner ptr) {k : κ} {a : α} (ha : ptr k = some a) :
    owner a = some k :=
  ((h k a).mp ha).2

/-- No element has two owners. -/
theorem inj (h : PointsTo Live owner ptr) {k k' : κ} {a : α} (ha : ptr k = some a)
    (ha' : ptr k' = some a) : k = k' := by
  have howner := (h.owned ha).symm.trans (h.owned ha')
  exact Option.some.inj howner

theorem congr (h : PointsTo Live owner ptr) (hlive : ∀ a, Live' a ↔ Live a) :
    PointsTo Live' owner ptr := by
  intro k a
  rw [hlive]
  exact h k a

section

variable {a : α}

/-- An element without an owner is added. -/
theorem insertOther [DecidableEq α] (h : PointsTo Live owner ptr) (hnew : ¬ Live a)
    (hlive : ∀ x, Live' x ↔ x = a ∨ Live x) :
    PointsTo Live' (Function.update owner a none) ptr := by
  intro k x
  rw [hlive, h k x]
  by_cases hx : x = a
  · subst hx
    simp [hnew]
  · simp [hx]

/-- An element without an owner is removed. -/
theorem eraseOther (h : PointsTo Live owner ptr) (hother : owner a = none)
    (hlive : ∀ x, Live' x ↔ x ≠ a ∧ Live x) : PointsTo Live' owner ptr := by
  intro k x
  rw [hlive, h k x]
  constructor
  · rintro ⟨hx, howner⟩
    refine ⟨⟨?_, hx⟩, howner⟩
    rintro rfl
    rw [hother] at howner
    cases howner
  · rintro ⟨⟨-, hx⟩, howner⟩
    exact ⟨hx, howner⟩

variable [DecidableEq κ] {k : κ}

/-- The element of an owner is removed. -/
theorem erase (h : PointsTo Live owner ptr) (hptr : ptr k = some a)
    (hlive : ∀ x, Live' x ↔ x ≠ a ∧ Live x) :
    PointsTo Live' owner (Function.update ptr k none) := by
  intro k' x
  rw [hlive]
  have hold := h k' x
  by_cases hk : k' = k
  · subst hk
    rw [Function.update_self]
    constructor
    · intro hno
      cases hno
    · rintro ⟨⟨hne, hx⟩, howner⟩
      have hsame := hptr.symm.trans (hold.mpr ⟨hx, howner⟩)
      exact absurd (Option.some.inj hsame).symm hne
  · rw [Function.update_of_ne hk, hold]
    constructor
    · rintro ⟨hx, howner⟩
      refine ⟨⟨?_, hx⟩, howner⟩
      rintro rfl
      exact hk (h.inj (hold.mpr ⟨hx, howner⟩) hptr)
    · rintro ⟨⟨-, hx⟩, howner⟩
      exact ⟨hx, howner⟩

/-- A new element is given to an owner that has none. -/
theorem insert [DecidableEq α] (h : PointsTo Live owner ptr) (hnone : ptr k = none)
    (hnew : ¬ Live a) (hlive : ∀ x, Live' x ↔ x = a ∨ Live x) :
    PointsTo Live' (Function.update owner a (some k)) (Function.update ptr k (some a)) := by
  intro k' x
  rw [hlive]
  have hold := h k' x
  by_cases hk : k' = k
  · subst hk
    rw [hnone] at hold
    by_cases hx : x = a
    · subst hx
      simp
    · simp only [Function.update_self, Function.update_of_ne hx, Option.some.injEq, Ne.symm hx, hx,
        false_or]
      simpa using hold
  · rw [Function.update_of_ne hk, hold]
    by_cases hx : x = a
    · subst hx
      simp [hnew, Ne.symm hk]
    · simp [hx]

end

end PointsTo
