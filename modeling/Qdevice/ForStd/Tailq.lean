import Mathlib.Data.List.Infix
import Mathlib.Data.List.Nodup

/-! # Walking along a list that changes

A loop over a linked list that keeps a pointer to the next element, as with `TAILQ_NEXT`, while the
list changes: elements are added at the end, and elements are removed.  `tailqNext` is what the
pointer of an element leads to.  Nothing here is about a particular kind of element. -/

namespace Tailq

variable {α : Type} {l : List α} {a b : α}

/-- The element after `a`. -/
def next [DecidableEq α] (l : List α) (a : α) : Option α := (l.dropWhile (· ≠ a)).tail.head?

/-- The element after one that is there once. -/
theorem next_append [DecidableEq α] (pre post : List α) (h : a ∉ pre) :
    next (pre ++ a :: post) a = post.head? := by
  unfold next
  induction pre with
  | nil => simp
  | cons x pre ih =>
    have hx : x ≠ a := by
      rintro rfl
      exact h List.mem_cons_self
    rw [List.cons_append, List.dropWhile_cons, if_pos (by simpa using hx)]
    exact ih fun hmem => h (List.mem_cons_of_mem x hmem)

theorem mem_of_next [DecidableEq α] (h : next l a = some b) : b ∈ l := by
  unfold next at h
  have htail := List.mem_of_mem_head? h
  exact (List.dropWhile_sublist _).subset (List.mem_of_mem_tail htail)

/-- Erasing an element with a key of its own erases the key. -/
theorem map_erase [DecidableEq α] {β : Type} [DecidableEq β] {f : α → β} (h : (l.map f).Nodup)
    (ha : a ∈ l) : (l.erase a).map f = (l.map f).erase (f a) := by
  induction l with
  | nil => cases ha
  | cons x l ih =>
    rw [List.map_cons, List.nodup_cons] at h
    by_cases hx : x = a
    · subst hx
      simp
    · have hmem : a ∈ l := (List.mem_cons.mp ha).resolve_left (Ne.symm hx)
      have hf : f x ≠ f a := by
        intro heq
        exact h.1 (heq ▸ List.mem_map_of_mem hmem)
      rw [List.erase_cons_tail (by simpa using hx), List.map_cons, List.map_cons,
        List.erase_cons_tail (by simpa using hf), ih h.2 hmem]

/-- What is held stays in the list exactly if the element that is removed is not held. -/
theorem forall_mem_erase [DecidableEq α] (hl : l.Nodup) {held : List α} (h : ∀ x ∈ held, x ∈ l) :
    (∀ x ∈ held, x ∈ l.erase a) ↔ a ∉ held := by
  constructor
  · intro hall ha
    exact (hl.mem_erase_iff.mp (hall a ha)).1 rfl
  · intro ha x hx
    refine hl.mem_erase_iff.mpr ⟨?_, h x hx⟩
    rintro rfl
    exact ha hx

/-- Where a walk is: it has passed `pre` and is about to go to `cur`. -/
structure At (l pre : List α) (cur : Option α) : Prop where
  split : ∃ post, l = pre ++ post ∧ cur = post.head?

theorem At.start (l : List α) : At l [] l.head? := ⟨l, rfl, rfl⟩

/-- At the end everything was passed. -/
theorem At.finished {pre : List α} (h : At l pre none) : pre = l := by
  obtain ⟨post, rfl, hhead⟩ := h.split
  have hpost : post = [] := List.head?_eq_none_iff.mp hhead.symm
  rw [hpost, List.append_nil]

theorem At.mem {pre : List α} (h : At l pre (some a)) : a ∈ l := by
  obtain ⟨post, rfl, hhead⟩ := h.split
  exact List.mem_append_right pre (List.mem_of_mem_head? hhead.symm)

/-- From an element to the next one. -/
theorem At.advance [DecidableEq α] {pre : List α} (h : At l pre (some a)) (hl : l.Nodup) :
    At l (pre ++ [a]) (next l a) := by
  obtain ⟨post, rfl, hhead⟩ := h.split
  obtain ⟨post, rfl⟩ := List.head?_eq_some_iff.mp hhead.symm
  have hpre : a ∉ pre := by
    intro hmem
    exact (List.disjoint_of_nodup_append hl) hmem List.mem_cons_self
  exact ⟨post, by simp, next_append pre post hpre⟩

end Tailq
