import Mathlib.Data.List.Forall2
import Mathlib.Algebra.BigOperators.Group.List.Basic
import Mathlib.Algebra.GroupWithZero.Nat

/-! # Lists related element by element

Lemmas about `List.Forall₂`: counterparts of elements, composition, and sums of a number
computed from each element. -/

namespace List

variable {α β γ : Type} {R : α → β → Prop} {S : β → γ → Prop} {T : α → γ → Prop}

/-- An element of the left list has a counterpart on the right. -/
theorem Forall₂.exists_right {l : List α} {l' : List β} (h : Forall₂ R l l') {a : α}
    (ha : a ∈ l) : ∃ b ∈ l', R a b := by
  induction h with
  | nil => cases ha
  | cons hab _ ih =>
    rcases mem_cons.mp ha with rfl | ha
    · exact ⟨_, mem_cons_self, hab⟩
    · obtain ⟨b, hb, hrel⟩ := ih ha
      exact ⟨b, mem_cons_of_mem _ hb, hrel⟩

/-- An element of the right list has a counterpart on the left. -/
theorem Forall₂.exists_left {l : List α} {l' : List β} (h : Forall₂ R l l') {b : β}
    (hb : b ∈ l') : ∃ a ∈ l, R a b :=
  exists_right h.flip hb

/-- Weakening the relation, for the elements of the lists. -/
theorem Forall₂.imp_mem {R' : α → β → Prop} {l : List α} {l' : List β} (h : Forall₂ R l l')
    (himp : ∀ a b, a ∈ l → b ∈ l' → R a b → R' a b) : Forall₂ R' l l' := by
  induction h with
  | nil => exact .nil
  | cons hab _ ih =>
    refine .cons (himp _ _ mem_cons_self mem_cons_self hab) (ih fun a b ha hb => ?_)
    exact himp a b (mem_cons_of_mem _ ha) (mem_cons_of_mem _ hb)

/-- One relation after the other. -/
theorem Forall₂.comp {l₁ : List α} {l₂ : List β} {l₃ : List γ} (h : Forall₂ R l₁ l₂)
    (h' : Forall₂ S l₂ l₃) (himp : ∀ a b c, R a b → S b c → T a c) : Forall₂ T l₁ l₃ := by
  induction h generalizing l₃ with
  | nil =>
    cases h'
    exact .nil
  | cons hab _ ih =>
    cases h' with
    | cons hbc hrest => exact .cons (himp _ _ _ hab hbc) (ih hrest)

/-- A number computed from each element is bounded for the whole list. -/
theorem Forall₂.sum_map_le {f : α → Nat} {g : β → Nat} {l : List α} {l' : List β}
    (h : Forall₂ (fun a b => g b ≤ f a) l l') : (l'.map g).sum ≤ (l.map f).sum := by
  induction h with
  | nil => exact Nat.le_refl _
  | cons hab _ ih =>
    simp only [map_cons, sum_cons]
    omega

/-- It is smaller for the whole list if it is smaller for one element. -/
theorem Forall₂.sum_map_lt {f : α → Nat} {g : β → Nat} {p : α → Prop} {l : List α} {l' : List β}
    (h : Forall₂ (fun a b => g b ≤ f a ∧ (p a → g b < f a)) l l') {a : α} (ha : a ∈ l)
    (hp : p a) : (l'.map g).sum < (l.map f).sum := by
  induction h with
  | nil => cases ha
  | cons hab hrest ih =>
    have hle := Forall₂.sum_map_le (hrest.imp fun _ _ h => h.1)
    simp only [map_cons, sum_cons]
    rcases mem_cons.mp ha with rfl | ha
    · have := hab.2 hp
      omega
    · have := ih ha
      have := hab.1
      omega

/-- It grows by at most the length if it grows by at most one for each element. -/
theorem Forall₂.sum_map_le_add_length {f : α → Nat} {g : β → Nat} {l : List α} {l' : List β}
    (h : Forall₂ (fun a b => g b ≤ f a + 1) l l') :
    (l'.map g).sum ≤ (l.map f).sum + l.length := by
  induction h with
  | nil => exact Nat.le_refl _
  | cons hab _ ih =>
    simp only [map_cons, sum_cons, length_cons]
    omega

theorem sum_map_filter_le (f : α → Nat) (p : α → Bool) (l : List α) :
    ((l.filter p).map f).sum ≤ (l.map f).sum := by
  induction l with
  | nil => exact Nat.le_refl _
  | cons a l ih =>
    rw [filter_cons]
    split
    · simp only [map_cons, sum_cons]
      omega
    · simp only [map_cons, sum_cons]
      omega

end List
