import Mathlib.Algebra.Group.Nat.Defs
import Mathlib.Data.Nat.Basic
import Mathlib.Data.List.Induction

/-! # Big-endian numbers

The bytes of a number, most significant first, at any width, and back.  One pair of
functions serves every fixed-width integer of a wire format.  Nothing here is about
a particular format. -/

namespace BigEndian

/-- The last `width` base-256 digits of `n`, most significant first. -/
def toBytes : (width : Nat) → (n : Nat) → List UInt8
  | 0, _ => []
  | width + 1, n => toBytes width (n / 256) ++ [UInt8.ofNat n]

/-- The number a big-endian byte string denotes. -/
def ofBytes (bytes : List UInt8) : Nat :=
  bytes.foldl (fun n b => 256 * n + b.toNat) 0

@[simp] theorem length_toBytes (width n : Nat) : (toBytes width n).length = width := by
  induction width generalizing n with
  | zero => rfl
  | succ width ih => simp [toBytes, ih]

theorem ofBytes_concat (bytes : List UInt8) (b : UInt8) :
    ofBytes (bytes ++ [b]) = 256 * ofBytes bytes + b.toNat := by
  simp [ofBytes]

/-- Reading back what was written gives the number modulo the width. -/
theorem ofBytes_toBytes (width n : Nat) : ofBytes (toBytes width n) = n % 256 ^ width := by
  induction width generalizing n with
  | zero => simp [toBytes, ofBytes, Nat.mod_one]
  | succ width ih =>
    rw [toBytes, ofBytes_concat, ih, Nat.pow_succ', Nat.mod_mul, UInt8.toNat_ofNat']
    omega

/-- A number that fits the width is read back unchanged. -/
theorem ofBytes_toBytes_of_lt {width n : Nat} (h : n < 256 ^ width) :
    ofBytes (toBytes width n) = n := by
  rw [ofBytes_toBytes, Nat.mod_eq_of_lt h]

/-- Writing back what was read gives the bytes. -/
theorem toBytes_ofBytes {width : Nat} {bytes : List UInt8} (h : bytes.length = width) :
    toBytes width (ofBytes bytes) = bytes := by
  subst h
  induction bytes using List.reverseRecOn with
  | nil => rfl
  | append_singleton bytes b ih =>
    have hb := b.toNat_lt
    have hdiv : (256 * ofBytes bytes + b.toNat) / 256 = ofBytes bytes := by omega
    have hmod : UInt8.ofNat (256 * ofBytes bytes + b.toNat) = b := by
      apply UInt8.toNat_inj.mp
      rw [UInt8.toNat_ofNat']
      omega
    rw [List.length_append, List.length_singleton, toBytes, ofBytes_concat, hdiv, hmod, ih]

/-- A byte string denotes a number below the bound of its width. -/
theorem ofBytes_lt {width : Nat} {bytes : List UInt8} (h : bytes.length = width) :
    ofBytes bytes < 256 ^ width := by
  subst h
  induction bytes using List.reverseRecOn with
  | nil => decide
  | append_singleton bytes b ih =>
    have hb := b.toNat_lt
    rw [ofBytes_concat, List.length_append, List.length_singleton, Nat.pow_succ']
    omega

end BigEndian
