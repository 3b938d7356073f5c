import Mathlib.Order.Lattice
import Mathlib.Data.List.Perm.Basic

/-! # Binary heaps in a list

The min-heap property of a list under the usual numbering of a binary tree, and the two
properties a heap has while one element is being moved: `UpTo` while it moves towards the
root, `DownFrom` while it moves towards the leaves.  Each comes with what one swap does to
it and with what it becomes when the element has found its place.  Elements are compared by
a key.  Nothing here is about a particular kind of element. -/

namespace Heap

variable {α κ : Type} [LinearOrder κ] (key : α → κ)

/-- The parent of a position. -/
def parent (pos : Nat) : Nat := (pos - 1) / 2

theorem parent_lt {pos : Nat} (h : 0 < pos) : parent pos < pos := by
  rw [parent]
  omega

/-- Every element is at least its parent. -/
def IsHeap (l : List α) : Prop :=
  ∀ i a b, 0 < i → l[parent i]? = some a → l[i]? = some b → key a ≤ key b

/-- A heap but for the element at `pos`, which may be less than its parent. -/
structure UpTo (l : List α) (pos : Nat) : Prop where
  others : ∀ i a b, 0 < i → i ≠ pos → l[parent i]? = some a → l[i]? = some b → key a ≤ key b
  children : ∀ i a b, 0 < pos → 0 < i → parent i = pos → l[parent pos]? = some a →
    l[i]? = some b → key a ≤ key b

/-- A heap but for the element at `pos`, which may be greater than its children. -/
structure DownFrom (l : List α) (pos : Nat) : Prop where
  others : ∀ i a b, 0 < i → parent i ≠ pos → l[parent i]? = some a → l[i]? = some b →
    key a ≤ key b
  children : ∀ i a b, 0 < pos → 0 < i → parent i = pos → l[parent pos]? = some a →
    l[i]? = some b → key a ≤ key b

variable {key} {l : List α} {pos : Nat} {x y : α}

theorem isHeap_nil : IsHeap key ([] : List α) :=
  fun _ _ _ _ _ hb => by cases hb

/-- Only the keys of the elements matter. -/
theorem IsHeap.congr {key' : α → κ} (h : IsHeap key l) (heq : ∀ x ∈ l, key' x = key x) :
    IsHeap key' l := by
  intro i a b hi ha hb
  rw [heq a (List.mem_of_getElem? ha), heq b (List.mem_of_getElem? hb)]
  exact h i a b hi ha hb

/-- The root has the least key. -/
theorem IsHeap.root_le (h : IsHeap key l) (hroot : l[0]? = some x) (hy : y ∈ l) :
    key x ≤ key y := by
  obtain ⟨i, hi⟩ := List.mem_iff_getElem?.mp hy
  clear hy
  induction i using Nat.strongRecOn generalizing y with
  | ind i ih =>
    by_cases hzero : i = 0
    · subst hzero
      rw [hroot, Option.some.injEq] at hi
      rw [hi]
    · have hlt := parent_lt (Nat.pos_of_ne_zero hzero)
      have hlen := (List.getElem?_eq_some_iff.mp hi).1
      have hparent : l[parent i]? = some (l[parent i]) :=
        List.getElem?_eq_getElem (Nat.lt_trans hlt hlen)
      exact le_trans (ih _ hlt hparent) (h i _ _ (Nat.pos_of_ne_zero hzero) hparent hi)

/-- The element has reached the root, or is not less than its parent. -/
theorem UpTo.isHeap (h : UpTo key l pos)
    (hdone : ∀ a b, 0 < pos → l[parent pos]? = some a → l[pos]? = some b → key a ≤ key b) :
    IsHeap key l := by
  intro i a b hi ha hb
  by_cases hpos : i = pos
  · subst hpos
    exact hdone a b hi ha hb
  · exact h.others i a b hi hpos ha hb

/-- The element is not greater than its children. -/
theorem DownFrom.isHeap (h : DownFrom key l pos)
    (hdone : ∀ i a b, 0 < i → parent i = pos → l[pos]? = some a → l[i]? = some b →
      key a ≤ key b) :
    IsHeap key l := by
  intro i a b hi ha hb
  by_cases hpos : parent i = pos
  · exact hdone i a b hi hpos (hpos ▸ ha) hb
  · exact h.others i a b hi hpos ha hb

/-- What is where after two elements were swapped. -/
theorem getElem?_swap {i j : Nat} (hx : l[i]? = some x) (hy : l[j]? = some y) (k : Nat) :
    ((l.set j x).set i y)[k]? = if k = i then some y else if k = j then some x else l[k]? := by
  have hi := (List.getElem?_eq_some_iff.mp hx).1
  have hj := (List.getElem?_eq_some_iff.mp hy).1
  simp only [List.getElem?_set, List.length_set, hi, hj, ↓reduceIte, eq_comm]

/-- A swap with the parent. -/
theorem UpTo.swap (h : UpTo key l pos) (hpos : 0 < pos) (hx : l[pos]? = some x)
    (hy : l[parent pos]? = some y) (hlt : key x < key y) :
    UpTo key ((l.set (parent pos) x).set pos y) (parent pos) := by
  have hp := parent_lt hpos
  constructor
  · intro i a b hi hne ha hb
    have hpi := parent_lt hi
    rw [getElem?_swap hx hy] at ha hb
    by_cases hipos : i = pos
    · -- The old parent is under the element now.
      subst hipos
      rw [if_neg (by omega), if_pos rfl, Option.some.injEq] at ha
      rw [if_pos rfl, Option.some.injEq] at hb
      rw [← ha, ← hb]
      exact le_of_lt hlt
    · rw [if_neg hipos, if_neg hne] at hb
      by_cases hchild : parent i = pos
      · rw [if_pos hchild, Option.some.injEq] at ha
        exact ha ▸ h.children i y b hpos hi hchild hy hb
      · rw [if_neg hchild] at ha
        by_cases hsibling : parent i = parent pos
        · rw [if_pos hsibling, Option.some.injEq] at ha
          rw [← ha]
          exact le_trans (le_of_lt hlt) (h.others i y b hi hipos (hsibling ▸ hy) hb)
        · rw [if_neg hsibling] at ha
          exact h.others i a b hi hipos ha hb
  · intro i a b hgrand hi hparent ha hb
    have hpp := parent_lt hgrand
    rw [getElem?_swap hx hy, if_neg (by omega), if_neg (by omega)] at ha
    have hay := h.others (parent pos) a y hgrand (by omega) ha hy
    rw [getElem?_swap hx hy] at hb
    by_cases hipos : i = pos
    · rw [if_pos hipos, Option.some.injEq] at hb
      exact hb ▸ hay
    · have hpi := parent_lt hi
      rw [if_neg hipos, if_neg (by omega)] at hb
      exact le_trans hay (h.others i y b hi hipos (hparent ▸ hy) hb)

/-- A swap with the least child. -/
theorem DownFrom.swap (h : DownFrom key l pos) {child : Nat} (hchild : 0 < child)
    (hparent : parent child = pos) (hx : l[pos]? = some x) (hy : l[child]? = some y)
    (hlt : key y < key x)
    (hleast : ∀ i b, 0 < i → parent i = pos → l[i]? = some b → key y ≤ key b) :
    DownFrom key ((l.set pos y).set child x) child := by
  have hp := parent_lt hchild
  constructor
  · intro i a b hi hne ha hb
    have hpi := parent_lt hi
    rw [getElem?_swap hy hx] at ha hb
    rw [if_neg hne] at ha
    by_cases hic : i = child
    · subst hic
      rw [if_pos hparent, Option.some.injEq] at ha
      rw [if_pos rfl, Option.some.injEq] at hb
      rw [← ha, ← hb]
      exact le_of_lt hlt
    · rw [if_neg hic] at hb
      by_cases hipos : i = pos
      · -- The child has moved up, under the parent of the two.
        subst hipos
        rw [if_neg (by omega)] at ha
        rw [if_pos rfl, Option.some.injEq] at hb
        exact hb ▸ h.children child a y hi hchild hparent ha hy
      · rw [if_neg hipos] at hb
        by_cases hsibling : parent i = pos
        · rw [if_pos hsibling, Option.some.injEq] at ha
          exact ha ▸ hleast i b hi hsibling hb
        · rw [if_neg hsibling] at ha
          exact h.others i a b hi hsibling ha hb
  · intro i a b _ hi hgrand ha hb
    have hpi := parent_lt hi
    rw [getElem?_swap hy hx, hparent, if_neg (by omega), if_pos rfl, Option.some.injEq] at ha
    rw [getElem?_swap hy hx, if_neg (by omega), if_neg (by omega)] at hb
    exact ha ▸ h.others i y b hi (by omega) (hgrand ▸ hy) hb

/-- An element put at the end. -/
theorem IsHeap.concat (h : IsHeap key l) (x : α) : UpTo key (l ++ [x]) l.length := by
  constructor
  · intro i a b hi hne ha hb
    have hpi := parent_lt hi
    have hlen := (List.getElem?_eq_some_iff.mp hb).1
    rw [List.length_append, List.length_singleton] at hlen
    rw [List.getElem?_append_left (by omega)] at ha hb
    exact h i a b hi ha hb
  · intro i a b _ hi hparent _ hb
    have hpi := parent_lt hi
    have hlen := (List.getElem?_eq_some_iff.mp hb).1
    rw [List.length_append, List.length_singleton] at hlen
    omega

/-- The last element taken off. -/
theorem IsHeap.dropLast (h : IsHeap key l) : IsHeap key l.dropLast := by
  intro i a b hi ha hb
  have hpi := parent_lt hi
  have hlen := (List.getElem?_eq_some_iff.mp hb).1
  rw [List.length_dropLast] at hlen
  rw [List.getElem?_dropLast, if_pos (by omega)] at ha hb
  exact h i a b hi ha hb

/-- The children of a position are not less than its parent. -/
theorem IsHeap.grandparent_le (h : IsHeap key l) (hx : l[pos]? = some x) {i : Nat} {a b : α}
    (hpos : 0 < pos) (hi : 0 < i) (hparent : parent i = pos) (ha : l[parent pos]? = some a)
    (hb : l[i]? = some b) : key a ≤ key b :=
  le_trans (h pos a x hpos ha hx) (h i x b hi (hparent ▸ hx) hb)

/-- A new element that is not greater than the old one at its place. -/
theorem IsHeap.set_le (h : IsHeap key l) (hx : l[pos]? = some x) (hle : key y ≤ key x) :
    UpTo key (l.set pos y) pos := by
  have hlen := (List.getElem?_eq_some_iff.mp hx).1
  constructor
  · intro i a b hi hne ha hb
    rw [List.getElem?_set, if_neg (Ne.symm hne)] at hb
    rw [List.getElem?_set, if_pos hlen] at ha
    split at ha
    · next hparent =>
      cases ha
      exact le_trans hle (h i x b hi (hparent ▸ hx) hb)
    · exact h i a b hi ha hb
  · intro i a b hpos hi hparent ha hb
    have hpi := parent_lt hi
    have hpp := parent_lt hpos
    rw [List.getElem?_set, if_neg (by omega)] at ha hb
    exact h.grandparent_le hx hpos hi hparent ha hb

/-- A new element that is not less than the old one at its place. -/
theorem IsHeap.set_ge (h : IsHeap key l) (hx : l[pos]? = some x) (hle : key x ≤ key y) :
    DownFrom key (l.set pos y) pos := by
  have hlen := (List.getElem?_eq_some_iff.mp hx).1
  constructor
  · intro i a b hi hne ha hb
    rw [List.getElem?_set, if_neg (Ne.symm hne)] at ha
    rw [List.getElem?_set, if_pos hlen] at hb
    split at hb
    · next hipos =>
      cases hb
      subst hipos
      exact le_trans (h pos a x hi ha hx) hle
    · exact h i a b hi ha hb
  · intro i a b hpos hi hparent ha hb
    have hpi := parent_lt hi
    have hpp := parent_lt hpos
    rw [List.getElem?_set, if_neg (by omega)] at ha hb
    exact h.grandparent_le hx hpos hi hparent ha hb

/-- A new element with the key of the old one. -/
theorem IsHeap.set_eq (h : IsHeap key l) (hx : l[pos]? = some x) (heq : key y = key x) :
    IsHeap key (l.set pos y) := by
  refine (h.set_le hx (le_of_eq heq)).isHeap fun a b hpos ha hb => ?_
  have hpp := parent_lt hpos
  rw [List.getElem?_set, if_neg (by omega)] at ha
  rw [List.getElem?_set, if_pos rfl, if_pos (List.getElem?_eq_some_iff.mp hx).1,
    Option.some.injEq] at hb
  rw [← hb, heq]
  exact h pos a x hpos ha hx

/-- Deleting an element: the last one takes its place. -/
theorem perm_set_dropLast {pos : Nat} (hx : l[pos]? = some x)
    (hlast : l[l.length - 1]? = some y) : (x :: (l.set pos y).dropLast).Perm l := by
  obtain rfl | ⟨front, last, rfl⟩ := List.eq_nil_or_concat l
  · cases hx
  · have hpos := (List.getElem?_eq_some_iff.mp hx).1
    rw [List.concat_eq_append] at *
    rw [List.length_append, List.length_singleton] at hpos hlast
    rw [Nat.add_sub_cancel, List.getElem?_append_right (Nat.le_refl _), Nat.sub_self] at hlast
    cases hlast
    by_cases hfront : pos < front.length
    · rw [List.getElem?_append_left hfront] at hx
      have herase := List.getElem_cons_eraseIdx_perm hfront
      rw [(List.getElem?_eq_some_iff.mp hx).2] at herase
      rw [List.set_append_left _ _ hfront, List.dropLast_concat]
      calc (x :: front.set pos y).Perm (x :: y :: front.eraseIdx pos) :=
            (List.set_perm_cons_eraseIdx hfront y).cons x
        _ |>.Perm (y :: x :: front.eraseIdx pos) := .swap y x _
        _ |>.Perm (y :: front) := herase.cons y
        _ |>.Perm (front ++ [y]) := (List.perm_append_singleton y front).symm
    · have hend : pos = front.length := by omega
      subst hend
      rw [List.getElem?_append_right (Nat.le_refl _), Nat.sub_self] at hx
      cases hx
      rw [List.set_append_right _ _ (Nat.le_refl _), Nat.sub_self, List.set_cons_zero,
        List.dropLast_concat]
      exact (List.perm_append_singleton x front).symm

end Heap
