import Mathlib.Algebra.Group.Nat.Defs

/-! # Runs of a deterministic machine

A machine has one initial state and a partial step function on events; a run takes
one event after the other.  `Reach` restricts the steps of a run by a guard on the
state before the step and the event, so that "in every run whose steps meet a
condition" is `Reach` of that condition.  Nothing here is about a particular
program. -/

namespace Runs

/-- A state machine.  `step s e = none` means that the machine stops at `e`. -/
structure Machine (σ ε : Type) where
  init : σ
  step : σ → ε → Option σ

namespace Machine

variable {σ ε : Type} (m : Machine σ ε)

/-- The states reached by runs all of whose steps meet `ok`. -/
inductive Reach (ok : σ → ε → Prop) : σ → Prop where
  | init : Reach ok m.init
  | step {s s' : σ} {e : ε} : Reach ok s → ok s e → m.step s e = some s' → Reach ok s'

/-- Run a list of events. -/
def exec (s : σ) : List ε → Option σ
  | [] => some s
  | e :: es =>
    match m.step s e with
    | none => none
    | some s' => exec s' es

/-- Run a list of events as long as every step meets `ok`. -/
def execWhile (ok : σ → ε → Bool) (s : σ) : List ε → Option σ
  | [] => some s
  | e :: es =>
    if ok s e then
      match m.step s e with
      | none => none
      | some s' => execWhile ok s' es
    else none

/-- Every step of a run of events meets `ok`. -/
def AllSteps (ok : σ → ε → Bool) (s : σ) : List ε → Prop
  | [] => True
  | e :: es => ∀ s', m.step s e = some s' → ok s e = true ∧ AllSteps ok s' es

variable {m} {ok : σ → ε → Prop}

theorem execWhile_cons {okb : σ → ε → Bool} {s : σ} {e : ε} (hok : okb s e = true) (es : List ε) :
    m.execWhile okb s (e :: es) = (m.step s e).bind fun s' => m.execWhile okb s' es := by
  rw [execWhile, if_pos hok]
  cases m.step s e with
  | none => rfl
  | some s' => rfl

/-- If a step from a state that meets `I` keeps it exactly when the step meets `ok`, then every
    state of a run meets `I` exactly when every step meets `ok`. -/
theorem forall_prefix_iff {I : σ → Prop} {okb : σ → ε → Bool}
    (hstep : ∀ {s s' e}, I s → m.step s e = some s' → (I s' ↔ okb s e = true))
    {s : σ} (hs : I s) (es : List ε) :
    (∀ n s', m.exec s (es.take n) = some s' → I s') ↔ m.AllSteps okb s es := by
  induction es generalizing s with
  | nil =>
    refine ⟨fun _ => trivial, fun _ n s' h => ?_⟩
    rw [List.take_nil] at h
    cases h
    exact hs
  | cons e es ih =>
    constructor
    · intro h s₁ hs₁
      have hI : I s₁ := h 1 s₁ (by simp only [List.take_succ_cons, List.take_zero, exec, hs₁])
      refine ⟨(hstep hs hs₁).mp hI, (ih hI).mp fun n s' hs' => h (n + 1) s' ?_⟩
      simp only [List.take_succ_cons, exec, hs₁, hs']
    · intro h n s' hs'
      cases n with
      | zero =>
        cases hs'
        exact hs
      | succ n =>
        rw [List.take_succ_cons, exec] at hs'
        split at hs'
        · cases hs'
        · next s₁ hs₁ =>
          obtain ⟨hok, hrest⟩ := h s₁ hs₁
          exact (ih ((hstep hs hs₁).mpr hok)).mpr hrest n s' hs'

/-- The invariant rule: what holds at the start and is kept by every admitted step
    holds in every reached state. -/
theorem Reach.invariant (I : σ → Prop) (hinit : I m.init)
    (hstep : ∀ {s s' e}, m.Reach ok s → I s → ok s e → m.step s e = some s' → I s')
    {s : σ} (h : m.Reach ok s) : I s := by
  induction h with
  | init => exact hinit
  | step hr hok hs ih => exact hstep hr ih hok hs

/-- A weaker guard reaches at least as much. -/
theorem Reach.mono {ok' : σ → ε → Prop} (himp : ∀ s e, ok s e → ok' s e)
    {s : σ} (h : m.Reach ok s) : m.Reach ok' s := by
  induction h with
  | init => exact .init
  | step _ hok hs ih => exact .step ih (himp _ _ hok) hs

/-- Running events from a reached state reaches the result, if every step is admitted. -/
theorem Reach.execWhile {okb : σ → ε → Bool} (hok : ∀ s e, okb s e = true → ok s e)
    {s s' : σ} {es : List ε} (hr : m.Reach ok s) (h : m.execWhile okb s es = some s') :
    m.Reach ok s' := by
  induction es generalizing s with
  | nil =>
    simp only [Machine.execWhile, Option.some.injEq] at h
    exact h ▸ hr
  | cons e es ih =>
    simp only [Machine.execWhile] at h
    split at h
    · next hg =>
      split at h
      · cases h
      · next s₁ hs => exact ih (.step hr (hok s e hg) hs) h
    · cases h

/-- If every admitted step from a state that meets `I` keeps `I` and makes `work` smaller, a run
    has no more steps than there was work. -/
theorem execWhile_length_le {I : σ → Prop} {work : σ → Nat} {okb : σ → ε → Bool}
    (hstep : ∀ {s s' e}, I s → okb s e = true → m.step s e = some s' → I s' ∧ work s' < work s)
    {s s' : σ} (hs : I s) {es : List ε} (h : m.execWhile okb s es = some s') :
    I s' ∧ es.length + work s' ≤ work s := by
  induction es generalizing s with
  | nil =>
    cases h
    exact ⟨hs, by simp⟩
  | cons e es ih =>
    rw [execWhile] at h
    split at h
    · next hok =>
      split at h
      · cases h
      · next s₁ hs₁ =>
        obtain ⟨hI, hless⟩ := hstep hs hok hs₁
        obtain ⟨hI', hle⟩ := ih hI h
        refine ⟨hI', ?_⟩
        rw [List.length_cons]
        omega
    · cases h

/-- Running events reaches the result when the guard admits everything. -/
theorem Reach.exec {s s' : σ} {es : List ε} (hok : ∀ s e, ok s e)
    (hr : m.Reach ok s) (h : m.exec s es = some s') : m.Reach ok s' := by
  induction es generalizing s with
  | nil =>
    simp only [Machine.exec, Option.some.injEq] at h
    exact h ▸ hr
  | cons e es ih =>
    simp only [Machine.exec] at h
    split at h
    · cases h
    · next s₁ hs => exact ih (.step hr (hok s e) hs) h

end Machine

end Runs
