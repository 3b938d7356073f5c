import Mathlib.Logic.Basic

/-! # Programs on a state

A `Prog` changes a state and returns a value, or it stops for good, as a C program does with
`exit`.  `wp m Q s` says that `m`, run from `s`, ends in a value and a state that meet `Q`,
unless it stops.  The rules take a program apart one statement at a time; a call is dealt with
by what is known about the function that is called (`wp.mono`).  Nothing here is about a
particular program. -/

/-- A program on a state. -/
def Prog (σ α : Type) := σ → Option (α × σ)

namespace Prog

variable {σ α β : Type}

instance : Monad (Prog σ) where
  pure a := fun s => some (a, s)
  bind m k := fun s =>
    match m s with
    | none => none
    | some (a, s') => k a s'

/-- The state. -/
def get : Prog σ σ := fun s => some (s, s)

/-- Write to the state. -/
def modify (f : σ → σ) : Prog σ Unit := fun s => some ((), f s)

/-- Stop for good. -/
def stop : Prog σ α := fun _ => none

/-- What `m` ends in meets `Q`. -/
def wp (m : Prog σ α) (Q : α → σ → Prop) (s : σ) : Prop :=
  ∀ a s', m s = some (a, s') → Q a s'

section

variable {m : Prog σ α} {Q Q' : α → σ → Prop} {s : σ}

@[simp] theorem wp_pure (a : α) : wp (pure a) Q s ↔ Q a s := by
  constructor
  · intro h
    exact h a s rfl
  · intro h a' s' heq
    cases heq
    exact h

@[simp] theorem wp_get {Q : σ → σ → Prop} : wp get Q s ↔ Q s s := by
  constructor
  · intro h
    exact h s s rfl
  · intro h a s' heq
    cases heq
    exact h

@[simp] theorem wp_modify (f : σ → σ) {Q : Unit → σ → Prop} : wp (modify f) Q s ↔ Q () (f s) := by
  constructor
  · intro h
    exact h () (f s) rfl
  · intro h a s' heq
    cases heq
    exact h

@[simp] theorem wp_stop : wp (stop : Prog σ α) Q s ↔ True := by
  refine ⟨fun _ => trivial, fun _ a s' heq => ?_⟩
  cases heq

theorem bind_eq (k : α → Prog σ β) :
    (m >>= k) s =
      match m s with
      | none => none
      | some (a, s') => k a s' := rfl

@[simp] theorem wp_bind (k : α → Prog σ β) {Q : β → σ → Prop} :
    wp (m >>= k) Q s ↔ wp m (fun a => wp (k a) Q) s := by
  constructor
  · intro h a s' hm b s'' hk
    refine h b s'' ?_
    rw [bind_eq, hm]
    exact hk
  · intro h b s'' hk
    rw [bind_eq] at hk
    split at hk
    · cases hk
    · next a s' hm => exact h a s' hm b s'' hk

@[simp] theorem wp_ite (c : Prop) [Decidable c] {m' : Prog σ α} :
    wp (if c then m else m') Q s ↔ (c → wp m Q s) ∧ (¬ c → wp m' Q s) := by
  by_cases hc : c
  · simp [hc]
  · simp [hc]

/-- The rule for a call. -/
theorem wp.mono (h : wp m Q s) (himp : ∀ a s', Q a s' → Q' a s') : wp m Q' s :=
  fun a s' hm => himp a s' (h a s' hm)

theorem wp.and (h : wp m Q s) (h' : wp m Q' s) : wp m (fun a s' => Q a s' ∧ Q' a s') s :=
  fun a s' hm => ⟨h a s' hm, h' a s' hm⟩

end

/-! ### Invariants -/

/-- What `m` does keeps `I`. -/
def Preserves (I : σ → Prop) (m : Prog σ α) : Prop := ∀ s, I s → wp m (fun _ => I) s

section

variable {m : Prog σ α} {I J : σ → Prop} {s : σ}

theorem preserves_pure (a : α) : Preserves I (pure a) := fun _ hs => (wp_pure a).mpr hs

theorem preserves_stop : Preserves I (stop : Prog σ α) := fun _ _ => wp_stop.mpr trivial

theorem preserves_stop_bind (k : α → Prog σ β) : Preserves I (stop >>= k) :=
  fun _ _ => (wp_bind k).mpr (wp_stop.mpr trivial)

theorem preserves_modify {f : σ → σ} (h : ∀ s, I s → I (f s)) : Preserves I (modify f) :=
  fun s hs => (wp_modify f).mpr (h s hs)

/-- The rest of the program is about a state that meets `I`. -/
theorem wp.bind {k : α → Prog σ β} (hm : wp m (fun _ => I) s) (hk : ∀ a, Preserves I (k a)) :
    wp (m >>= k) (fun _ => I) s :=
  (wp_bind k).mpr (hm.mono fun a s' hs' => hk a s' hs')

theorem Preserves.bind {k : α → Prog σ β} (hm : Preserves I m) (hk : ∀ a, Preserves I (k a)) :
    Preserves I (m >>= k) :=
  fun s hs => (hm s hs).bind hk

theorem preserves_get {k : σ → Prog σ β} (h : ∀ s, I s → wp (k s) (fun _ => I) s) :
    Preserves I (get >>= k) :=
  fun s hs => (wp_bind k).mpr (wp_get.mpr (h s hs))

theorem preserves_ite {c : Prop} [Decidable c] {m' : Prog σ α} (h : c → Preserves I m)
    (h' : ¬ c → Preserves I m') : Preserves I (if c then m else m') := by
  split
  · next hc => exact h hc
  · next hc => exact h' hc

theorem Preserves.and (h : Preserves I m) (h' : Preserves J m) :
    Preserves (fun s => I s ∧ J s) m :=
  fun s hs => (h s hs.1).and (h' s hs.2)

end

/-! ### Two runs -/

/-- `m` from `s` and `m'` from `t` both stop, or they return the same in states that meet `Q`. -/
def wp₂ (m m' : Prog σ α) (Q : α → σ → σ → Prop) (s t : σ) : Prop :=
  (m s = none ∧ m' t = none) ∨ ∃ a s' t', m s = some (a, s') ∧ m' t = some (a, t') ∧ Q a s' t'

section

variable {m m' : Prog σ α} {Q Q' : α → σ → σ → Prop} {s t : σ}

theorem wp₂_pure (a : α) (h : Q a s t) : wp₂ (pure a) (pure a) Q s t :=
  .inr ⟨a, s, t, rfl, rfl, h⟩

theorem wp₂_stop : wp₂ stop stop Q s t := .inl ⟨rfl, rfl⟩

theorem wp₂_modify {f f' : σ → σ} {Q : Unit → σ → σ → Prop} (h : Q () (f s) (f' t)) :
    wp₂ (modify f) (modify f') Q s t :=
  .inr ⟨(), f s, f' t, rfl, rfl, h⟩

theorem wp₂_get {k k' : σ → Prog σ α} (h : wp₂ (k s) (k' t) Q s t) :
    wp₂ (get >>= k) (get >>= k') Q s t := h

theorem wp₂_bind {k k' : α → Prog σ β} {Q : β → σ → σ → Prop}
    (h : wp₂ m m' (fun a => wp₂ (k a) (k' a) Q) s t) : wp₂ (m >>= k) (m' >>= k') Q s t := by
  obtain ⟨hs, ht⟩ | ⟨a, s', t', hs, ht, hk⟩ := h
  · left
    rw [bind_eq, bind_eq, hs, ht]
    exact ⟨rfl, rfl⟩
  · rw [wp₂, bind_eq, bind_eq, hs, ht]
    exact hk

theorem wp₂_ite (c : Prop) [Decidable c] {n n' : Prog σ α} (h : c → wp₂ m m' Q s t)
    (h' : ¬ c → wp₂ n n' Q s t) : wp₂ (if c then m else n) (if c then m' else n') Q s t := by
  split
  · next hc => exact h hc
  · next hc => exact h' hc

theorem wp₂.mono (h : wp₂ m m' Q s t) (himp : ∀ a s' t', Q a s' t' → Q' a s' t') :
    wp₂ m m' Q' s t := by
  obtain hnone | ⟨a, s', t', hs, ht, hq⟩ := h
  · exact .inl hnone
  · exact .inr ⟨a, s', t', hs, ht, himp a s' t' hq⟩

end

/-- Two runs of `m` from related states end in related states. -/
def Agrees (R : σ → σ → Prop) (m : Prog σ α) : Prop :=
  ∀ s t, R s t → wp₂ m m (fun _ => R) s t

section

variable {m m' : Prog σ α} {R : σ → σ → Prop}

theorem agrees_pure (a : α) : Agrees R (pure a) := fun _ _ h => wp₂_pure a h

theorem agrees_modify {f : σ → σ} (h : ∀ s t, R s t → R (f s) (f t)) : Agrees R (modify f) :=
  fun s t hst => wp₂_modify (h s t hst)

theorem Agrees.bind {k : α → Prog σ β} (hm : Agrees R m) (hk : ∀ a, Agrees R (k a)) :
    Agrees R (m >>= k) :=
  fun s t h => wp₂_bind ((hm s t h).mono fun a s' t' h' => hk a s' t' h')

theorem agrees_ite {c : Prop} [Decidable c] (h : c → Agrees R m) (h' : ¬ c → Agrees R m') :
    Agrees R (if c then m else m') := by
  split
  · next hc => exact h hc
  · next hc => exact h' hc

end

end Prog
