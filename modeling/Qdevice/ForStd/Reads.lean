import Mathlib.Data.List.Basic

/-! # Computations that read memory

A decoder that walks a buffer reads bytes at computed positions, and what it is asked
to do is to stay inside the buffer.  `Read` is a computation that either yields a value
or fails, together with every byte access it made on the way; an access remembers the
length of the buffer it was meant for.  `Read.InBounds` then says that all of them were
inside.  The memory itself goes on beyond the buffer, so an access outside it still
yields some byte.  Nothing here is about a particular format. -/

namespace Reads

/-- The `n` bytes of memory from an address on. -/
def slice (mem : Nat → UInt8) (address n : Nat) : List UInt8 :=
  (List.range n).map fun i => mem (address + i)

@[simp] theorem length_slice (mem : Nat → UInt8) (address n : Nat) :
    (slice mem address n).length = n := by
  simp [slice]

/-- A slice of a slice. -/
theorem slice_add (mem : Nat → UInt8) {address off n m : Nat} (h : off + n ≤ m) :
    slice mem (address + off) n = ((slice mem address m).drop off).take n := by
  apply List.ext_getElem
  · simp only [length_slice, List.length_take, List.length_drop]
    omega
  · intro i h₁ h₂
    simp [slice, Nat.add_assoc]

/-- One byte read: its index in a buffer, and the length of that buffer. -/
structure Access where
  index : Nat
  bound : Nat
deriving DecidableEq

/-- The access is inside its buffer. -/
def Access.Inside (a : Access) : Prop := a.index < a.bound

instance (a : Access) : Decidable a.Inside := inferInstanceAs (Decidable (a.index < a.bound))

/-- A computation that may fail, and the bytes it has read. -/
structure Read (ε α : Type) where
  result : Except ε α
  accesses : List Access

namespace Read

variable {ε ε' α β γ : Type}

/-- Read nothing. -/
def ofExcept (result : Except ε α) : Read ε α := ⟨result, []⟩

/-- Fail without reading. -/
def fail (e : ε) : Read ε α := ofExcept (.error e)

/-- Go on with the value, if there is one. -/
def andThen (x : Read ε α) (f : α → Read ε β) : Read ε β :=
  match x.result with
  | .error e => ⟨.error e, x.accesses⟩
  | .ok a => ⟨(f a).result, x.accesses ++ (f a).accesses⟩

instance : Monad (Read ε) where
  pure a := ofExcept (.ok a)
  bind := andThen

/-- Change the error. -/
def mapError (f : ε → ε') (x : Read ε α) : Read ε' α :=
  ⟨x.result.mapError f, x.accesses⟩

/-- Read `n` bytes from index `off` of the buffer that starts at address `base` and is
    `len` bytes long. -/
def bytes (mem : Nat → UInt8) (base len off n : Nat) : Read ε (List UInt8) :=
  ⟨.ok (slice mem (base + off) n),
    (List.range n).map fun i => ⟨off + i, len⟩⟩

/-- Every byte read was inside its buffer. -/
def InBounds (x : Read ε α) : Prop := ∀ a ∈ x.accesses, a.Inside

instance (x : Read ε α) : Decidable x.InBounds :=
  inferInstanceAs (Decidable (∀ a ∈ x.accesses, a.Inside))

/-! ### Results -/

@[simp] theorem result_pure (a : α) : (pure a : Read ε α).result = .ok a := rfl

@[simp] theorem result_ofExcept (r : Except ε α) : (ofExcept r).result = r := rfl

@[simp] theorem result_fail (e : ε) : (fail e : Read ε α).result = .error e := rfl

@[simp] theorem result_mapError (f : ε → ε') (x : Read ε α) :
    (x.mapError f).result = x.result.mapError f := rfl

theorem result_bind_ok {x : Read ε α} {a : α} (h : x.result = .ok a) (f : α → Read ε β) :
    (x >>= f).result = (f a).result := by
  show (x.andThen f).result = _
  rw [andThen, h]

theorem result_bind_error {x : Read ε α} {e : ε} (h : x.result = .error e)
    (f : α → Read ε β) : (x >>= f).result = .error e := by
  show (x.andThen f).result = _
  rw [andThen, h]

/-- The result of a sequence is the sequence of the results. -/
theorem result_bind (x : Read ε α) (f : α → Read ε β) :
    (x >>= f).result = x.result >>= fun a => (f a).result := by
  cases h : x.result with
  | error e => rw [result_bind_error h]; rfl
  | ok a => rw [result_bind_ok h]; rfl

/-- A last step that cannot fail does not matter for success. -/
theorem exists_ok_bind_pure (x : Read ε α) (f : α → β) :
    (∃ b, (x >>= fun a => pure (f a)).result = .ok b) ↔ ∃ a, x.result = .ok a := by
  cases h : x.result with
  | error e =>
    rw [result_bind_error h]
    constructor <;> rintro ⟨_, hok⟩ <;> cases hok
  | ok a =>
    rw [result_bind_ok h]
    exact ⟨fun _ => ⟨a, rfl⟩, fun _ => ⟨f a, rfl⟩⟩

/-- A change of the value of the last step is a change of the result. -/
theorem result_bind_pure_map (x : Read ε α) {f : β → γ} {g : α → β} {g' : α → γ}
    (hg : ∀ a, g' a = f (g a)) :
    (x >>= fun a => pure (g' a)).result = (x >>= fun a => pure (g a)).result.map f := by
  cases h : x.result with
  | error e => rw [result_bind_error h, result_bind_error h]; rfl
  | ok a => rw [result_bind_ok h, result_bind_ok h, hg a]; rfl

@[simp] theorem result_bytes (mem : Nat → UInt8) (base len off n : Nat) :
    (bytes mem base len off n : Read ε _).result = .ok (slice mem (base + off) n) := rfl

theorem bind_assoc (x : Read ε α) (f : α → Read ε β) (g : β → Read ε γ) :
    x >>= f >>= g = x >>= fun a => f a >>= g := by
  show (x.andThen f).andThen g = x.andThen fun a => (f a).andThen g
  cases hx : x.result with
  | error e => simp only [andThen, hx]
  | ok a => cases hf : (f a).result <;> simp only [andThen, hx, hf, List.append_assoc]

/-! ### Bounds -/

@[simp] theorem inBounds_pure (a : α) : (pure a : Read ε α).InBounds :=
  fun _ h => absurd h List.not_mem_nil

@[simp] theorem inBounds_ofExcept (r : Except ε α) : (ofExcept r).InBounds :=
  fun _ h => absurd h List.not_mem_nil

@[simp] theorem inBounds_fail (e : ε) : (fail e : Read ε α).InBounds :=
  inBounds_ofExcept _

@[simp] theorem inBounds_mapError (f : ε → ε') (x : Read ε α) :
    (x.mapError f).InBounds ↔ x.InBounds := Iff.rfl

theorem inBounds_bind_ok {x : Read ε α} {a : α} (h : x.result = .ok a) (f : α → Read ε β) :
    (x >>= f).InBounds ↔ x.InBounds ∧ (f a).InBounds := by
  show (x.andThen f).InBounds ↔ _
  simp only [InBounds, andThen, h, List.mem_append, or_imp, forall_and]

theorem inBounds_bind_error {x : Read ε α} {e : ε} (h : x.result = .error e)
    (f : α → Read ε β) : (x >>= f).InBounds ↔ x.InBounds := by
  show (x.andThen f).InBounds ↔ _
  simp only [InBounds, andThen, h]

/-- A sequence stays inside if its first part does and its second part does on whatever
    the first one yields. -/
theorem InBounds.bind {x : Read ε α} {f : α → Read ε β} (hx : x.InBounds)
    (hf : ∀ a, x.result = .ok a → (f a).InBounds) : (x >>= f).InBounds := by
  cases h : x.result with
  | error e => exact (inBounds_bind_error h f).mpr hx
  | ok a => exact (inBounds_bind_ok h f).mpr ⟨hx, hf a h⟩

/-- A last step that reads nothing does not matter. -/
@[simp] theorem inBounds_bind_pure (x : Read ε α) (f : α → β) :
    (x >>= fun a => pure (f a)).InBounds ↔ x.InBounds := by
  cases h : x.result with
  | error e => exact inBounds_bind_error h _
  | ok a => simp only [inBounds_bind_ok h, inBounds_pure, and_true]

/-- Reading `n > 0` bytes is in bounds exactly if the last one is. -/
theorem inBounds_bytes (mem : Nat → UInt8) {base len off n : Nat} :
    (bytes mem base len off n : Read ε _).InBounds ↔ n = 0 ∨ off + n ≤ len := by
  simp only [InBounds, bytes, List.mem_map, List.mem_range, Access.Inside,
    forall_exists_index, and_imp, forall_apply_eq_imp_iff₂]
  constructor
  · intro h
    rcases Nat.eq_zero_or_pos n with hn | hn
    · exact .inl hn
    · exact .inr (by have := h (n - 1) (by omega); omega)
  · rintro h i hi
    omega

end Read

end Reads
