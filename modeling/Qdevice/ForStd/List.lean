import Mathlib.Data.List.Nodup

/-! # List lemmas for the standard library

Generic lemmas about `List.map` on two lists that look the same through a function, about
lists whose elements have distinct keys, and about folds whose steps commute unless their
elements have the same key. -/

namespace List

variable {α β γ : Type}

/-- Lists that look the same through `f` look the same through anything computed from `f`. -/
theorem map_comp_of_map_eq {f : α → β} (g : β → γ) {l l' : List α} (h : l'.map f = l.map f) :
    l'.map (fun a => g (f a)) = l.map (fun a => g (f a)) := by
  have := congrArg (map g) h
  rwa [map_map, map_map] at this

/-- An element of the one list has a counterpart in the other. -/
theorem exists_mem_of_map_eq {f : α → β} {l l' : List α} (h : l'.map f = l.map f) {a : α}
    (ha : a ∈ l') : ∃ b ∈ l, f b = f a := by
  have hmem : f a ∈ l'.map f := mem_map_of_mem ha
  rw [h] at hmem
  exact mem_map.mp hmem

/-- With distinct keys, searching for the key of an element finds the element. -/
theorem find?_key_of_mem [DecidableEq β] {key : α → β} {l : List α} (hn : (l.map key).Nodup) {a : α}
    (ha : a ∈ l) : l.find? (fun b => key b == key a) = some a := by
  cases hfound : l.find? (fun b => key b == key a) with
  | none => simpa using find?_eq_none.mp hfound a ha
  | some b =>
    have hkey : key b = key a := by simpa using find?_some hfound
    rw [inj_on_of_nodup_map hn (mem_of_find?_eq_some hfound) ha hkey]

/-- Removing and changing elements leaves a sublist of what is kept of them. -/
theorem map_filterMap_sublist {f : α → Option α} {g : α → β}
    (h : ∀ a b, f a = some b → g b = g a) (l : List α) :
    ((l.filterMap f).map g).Sublist (l.map g) := by
  induction l with
  | nil => exact .slnil
  | cons a l ih =>
    rw [filterMap_cons, map_cons]
    split
    · exact ih.cons _
    · next b hb =>
      rw [map_cons, h a b hb]
      exact ih.cons_cons _

/-- Removing and changing elements outside `p` is not seen through `p`. -/
theorem filter_filterMap_of_keep {f : α → Option α} {p : α → Bool} {l : List α}
    (hkeep : ∀ a ∈ l, p a = true → f a = some a)
    (hout : ∀ a ∈ l, p a = false → ∀ b, f a = some b → p b = false) :
    (l.filterMap f).filter p = l.filter p := by
  induction l with
  | nil => rfl
  | cons a l ih =>
    obtain ⟨hkeepa, hkeep⟩ := forall_mem_cons.mp hkeep
    obtain ⟨houta, hout⟩ := forall_mem_cons.mp hout
    rw [filterMap_cons]
    cases hp : p a with
    | true =>
      rw [hkeepa hp]
      simp only [filter_cons_of_pos hp, ih hkeep hout]
    | false =>
      rw [filter_cons_of_neg (by simp [hp])]
      cases hf : f a with
      | none => exact ih hkeep hout
      | some b =>
        simp only
        rw [filter_cons_of_neg (by simp [houta hp b hf])]
        exact ih hkeep hout

/-- Where a property of all elements fails first. -/
theorem exists_first_not {p : α → Prop} {l : List α} (h : ¬ ∀ a ∈ l, p a) :
    ∃ l₁ a l₂, l = l₁ ++ a :: l₂ ∧ (∀ b ∈ l₁, p b) ∧ ¬ p a := by
  induction l with
  | nil => exact absurd (fun _ hno => absurd hno not_mem_nil) h
  | cons a l ih =>
    by_cases ha : p a
    · obtain ⟨l₁, b, l₂, rfl, hl₁, hb⟩ := ih fun hl => h (forall_mem_cons.mpr ⟨ha, hl⟩)
      exact ⟨a :: l₁, b, l₂, rfl, forall_mem_cons.mpr ⟨ha, hl₁⟩, hb⟩
    · exact ⟨[], a, l, rfl, fun _ hno => absurd hno not_mem_nil, ha⟩

/-! ### Folds with commuting steps -/

section Commute

variable {κ : Type} {f : β → α → β} {key : α → κ}

/-- A step can be made before all steps with other keys. -/
theorem foldl_append_cons_of_key_ne (hcomm : ∀ x a b, key a ≠ key b → f (f x a) b = f (f x b) a)
    {l₁ l₂ : List α} {a : α} (hl₁ : ∀ b ∈ l₁, key b ≠ key a) (x : β) :
    (l₁ ++ a :: l₂).foldl f x = (l₁ ++ l₂).foldl f (f x a) := by
  induction l₁ generalizing x with
  | nil => rfl
  | cons b l₁ ih =>
    rw [cons_append, cons_append, foldl_cons, foldl_cons, ih (fun c hc => hl₁ c (mem_cons_of_mem _ hc)),
      hcomm x b a (hl₁ b mem_cons_self)]

/-- Up to the order of elements with different keys, two lists fold to the same. -/
theorem foldl_eq_of_filter_eq [DecidableEq κ]
    (hcomm : ∀ x a b, key a ≠ key b → f (f x a) b = f (f x b) a)
    {l l' : List α} (h : ∀ k, l'.filter (key · = k) = l.filter (key · = k)) (x : β) :
    l'.foldl f x = l.foldl f x := by
  induction l generalizing l' x with
  | nil =>
    have hnil : l' = [] := eq_nil_iff_forall_not_mem.mpr fun a ha => by
      have hmem : a ∈ l'.filter (key · = key a) := mem_filter.mpr ⟨ha, decide_eq_true rfl⟩
      rw [h] at hmem
      exact not_mem_nil hmem
    rw [hnil]
  | cons a l ih =>
    -- the first element of `l'` with the key of `a` is `a`
    have hfirst : ∃ l₁ l₂, l' = l₁ ++ a :: l₂ ∧ ∀ b ∈ l₁, key b ≠ key a := by
      have hhead := h (key a)
      rw [filter_cons, if_pos (decide_eq_true rfl)] at hhead
      obtain ⟨l₁, l₂, rfl, hl₁, -, -⟩ := filter_eq_cons_iff.mp hhead
      exact ⟨l₁, l₂, rfl, fun b hb => by simpa using hl₁ b hb⟩
    obtain ⟨l₁, l₂, rfl, hl₁⟩ := hfirst
    rw [foldl_append_cons_of_key_ne hcomm hl₁, foldl_cons]
    refine ih (fun k => ?_) _
    have hk := h k
    rw [filter_append, filter_cons, filter_cons] at hk
    rw [filter_append]
    by_cases hka : key a = k
    · subst hka
      have hnil : l₁.filter (key · = key a) = [] :=
        filter_eq_nil_iff.mpr fun b hb => by simpa using hl₁ b hb
      rw [hnil] at hk ⊢
      simpa using hk
    · simpa [hka] using hk

end Commute

end List
