import Mathlib.Algebra.Group.Nat.Defs

/-! # Dynamic arrays

`dynar.c`: a byte buffer with a maximum size.  The content is a list of bytes here;
`allocated` and the pointer are left out, and allocation succeeds.  A function that
appends to a buffer and may fail is a `DynarM`: it leaves a buffer behind in either
case, as the C functions do. -/

namespace Qdevice

/-- `struct dynar`. -/
structure Dynar where
  data : List UInt8 := []
  maximumSize : Nat
deriving DecidableEq

/-- Code that works on one buffer; `none` is the return value -1. -/
def DynarM (α : Type) := Dynar → Option α × Dynar

instance : Monad DynarM where
  pure a := fun array => (some a, array)
  bind m f := fun array =>
    match m array with
    | (none, array') => (none, array')
    | (some a, array') => f a array'

/-- Give up with return value -1. -/
def DynarM.fail {α : Type} : DynarM α := fun array => (none, array)

/-- `dynar_init`. -/
def dynarInit (maximumSize : Nat) : Dynar := { maximumSize := maximumSize }

/-- `dynar_size`. -/
def dynarSize (array : Dynar) : Nat := array.data.length

/-- `dynar_max_size`. -/
def dynarMaxSize (array : Dynar) : Nat := array.maximumSize

/-- `dynar_clean`. -/
def dynarClean (array : Dynar) : Dynar := { array with data := [] }

/-- `dynar_cat`, with the size test of `dynar_prealloc`. -/
def dynarCat (src : List UInt8) : DynarM Unit := fun array =>
  if dynarSize array + src.length > dynarMaxSize array then (none, array)
  else (some (), { array with data := array.data ++ src })

/-! ### Code that appends -/

/-- Whenever the code succeeds, it has appended exactly these bytes, and a buffer within its
    maximum size is still within it. -/
def DynarM.Appends (m : DynarM Unit) (bytes : List UInt8) : Prop :=
  ∀ array array', m array = (some (), array') →
    array' = { array with data := array.data ++ bytes } ∧
      (dynarSize array ≤ dynarMaxSize array → dynarSize array' ≤ dynarMaxSize array')

namespace DynarM.Appends

variable {m m' : DynarM Unit} {bytes bytes' : List UInt8}

theorem cat (src : List UInt8) : (dynarCat src).Appends src := by
  intro array array' h
  simp only [dynarCat] at h
  split at h
  · cases h
  · next hle =>
    obtain rfl : { array with data := array.data ++ src } = array' := congrArg Prod.snd h
    simp only [dynarSize, dynarMaxSize] at hle
    refine ⟨rfl, fun _ => ?_⟩
    simp only [dynarSize, dynarMaxSize, List.length_append]
    omega

/-- Code that does not touch the buffer. -/
theorem keep (h : ∀ array array', m array = (some (), array') → array' = array) : m.Appends [] := by
  intro array array' hrun
  obtain rfl := h array array' hrun
  exact ⟨by simp, id⟩

theorem skip : (pure () : DynarM Unit).Appends [] :=
  keep fun _ _ h => (congrArg Prod.snd h).symm

theorem fail : (DynarM.fail : DynarM Unit).Appends bytes :=
  fun _ _ h => by cases congrArg Prod.fst h

/-- One piece of code after the other. -/
theorem andThen (h : m.Appends bytes) (h' : m'.Appends bytes') :
    (m >>= fun _ => m').Appends (bytes ++ bytes') := by
  intro array array'' hrun
  simp only [bind] at hrun
  split at hrun
  · cases hrun
  · next u array' hm =>
    obtain ⟨rfl, hle⟩ := h array array' hm
    obtain ⟨rfl, hle'⟩ := h' _ array'' hrun
    exact ⟨by simp, fun hsize => hle' (hle hsize)⟩

/-- An optional part. -/
theorem ite {c : Prop} [Decidable c] (h : m.Appends bytes) :
    (if c then m else pure ()).Appends (if c then bytes else []) := by
  split
  · exact h
  · exact skip

end DynarM.Appends

/-! ### Code that fails only for want of room -/

/-- The code appends these bytes and returns `res` if they fit, and fails otherwise. -/
structure DynarM.Collects {α : Type} (m : DynarM α) (bytes : List UInt8) (res : α) : Prop where
  fits : ∀ array, dynarSize array + bytes.length ≤ dynarMaxSize array →
    m array = (some res, { array with data := array.data ++ bytes })
  full : ∀ array, dynarSize array ≤ dynarMaxSize array →
    dynarMaxSize array < dynarSize array + bytes.length → (m array).1 = none

namespace DynarM.Collects

variable {α β : Type} {m : DynarM α} {bytes bytes' : List UInt8} {a : α} {b : β}

protected theorem pure (a : α) : (pure a : DynarM α).Collects [] a where
  fits array _ := by
    rw [List.append_nil]
    rfl
  full array hle hlt := by
    rw [List.length_nil] at hlt
    omega

theorem cat (src : List UInt8) : (dynarCat src).Collects src () where
  fits array hle := by rw [dynarCat, if_neg (by omega)]
  full array _ hlt := by rw [dynarCat, if_pos (by omega)]

/-- One piece of code after the other. -/
theorem andThen {f : α → DynarM β} (h : m.Collects bytes a) (h' : (f a).Collects bytes' b) :
    (m >>= f).Collects (bytes ++ bytes') b where
  fits array hle := by
    rw [List.length_append] at hle
    have hsize : dynarSize { array with data := array.data ++ bytes } =
      dynarSize array + bytes.length := List.length_append
    have hmore := h'.fits { array with data := array.data ++ bytes } (by
      rw [hsize, Nat.add_assoc]
      exact hle)
    simp only [bind, h.fits array (by omega), hmore, List.append_assoc]
  full array hle hlt := by
    rw [List.length_append] at hlt
    by_cases hroom : dynarSize array + bytes.length ≤ dynarMaxSize array
    · have hsize : dynarSize { array with data := array.data ++ bytes } =
        dynarSize array + bytes.length := List.length_append
      simp only [bind, h.fits array hroom]
      apply h'.full
      · rw [hsize]
        exact hroom
      · rw [hsize, Nat.add_assoc]
        exact hlt
    · have hnone := h.full array hle (by omega)
      cases hres : m array with
      | mk res array' =>
        rw [hres] at hnone
        simp only at hnone
        subst hnone
        simp only [bind, hres]

/-- What code has done that did not fail. -/
theorem of_eq_some (h : m.Collects bytes a) {array array' : Dynar} {a' : α}
    (hle : dynarSize array ≤ dynarMaxSize array) (hrun : m array = (some a', array')) :
    array' = { array with data := array.data ++ bytes } := by
  by_cases hroom : dynarSize array + bytes.length ≤ dynarMaxSize array
  · rw [h.fits array hroom] at hrun
    exact (congrArg Prod.snd hrun).symm
  · have hnone := h.full array hle (by omega)
    rw [hrun] at hnone
    cases hnone

end DynarM.Collects

end Qdevice
