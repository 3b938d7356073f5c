import Qdevice.Native.Tlv

/-! # The option iterator on a byte list

The decoders of `tlv.c` read memory through a pointer.  Here they are related to the
list of bytes they walk: `Tlv` is a complete option, `Tlv.split?` cuts one off the front
of a byte list, and `decodeTlvs` is the loop as a function of the remaining bytes.
`tlvIterWalk_result` says that the loop over the iterator computes it, and
`tlvIterWalk_inBounds` says when the loop stays inside the bytes. -/

open Reads (Read slice)

namespace Qdevice

/-! ### Complete options -/

/-- A complete option: any type, and a value whose length fits its field. -/
structure Tlv where
  type : UInt16
  value : List UInt8
  fits : value.length < 65536

namespace Tlv

/-- The bytes of an option. -/
def bytes (t : Tlv) : List UInt8 :=
  BigEndian.toBytes 2 t.type.toNat ++ BigEndian.toBytes 2 t.value.length ++ t.value

@[simp] theorem length_bytes (t : Tlv) : t.bytes.length = 4 + t.value.length := by
  simp only [bytes, List.length_append, BigEndian.length_toBytes]

theorem four_le_length_bytes (t : Tlv) : 4 ≤ t.bytes.length := by
  rw [length_bytes]
  omega

theorem bytes_ne_nil (t : Tlv) : t.bytes ≠ [] := by
  intro h
  have := congrArg List.length h
  simp at this

/-- The two type bytes. -/
theorem take_two_bytes (t : Tlv) : t.bytes.take 2 = BigEndian.toBytes 2 t.type.toNat := by
  rw [bytes, List.append_assoc, List.take_append_of_le_length (by simp),
    List.take_of_length_le (by simp)]

/-- The two length bytes. -/
theorem take_two_drop_two_bytes (t : Tlv) :
    (t.bytes.drop 2).take 2 = BigEndian.toBytes 2 t.value.length := by
  rw [bytes, List.append_assoc, List.drop_append_of_le_length (by simp),
    List.drop_of_length_le (by simp), List.nil_append,
    List.take_append_of_le_length (by simp), List.take_of_length_le (by simp)]

/-- What follows the header is the value. -/
theorem drop_four_bytes (t : Tlv) : t.bytes.drop 4 = t.value := by
  rw [bytes, List.drop_append_of_le_length (by simp), List.drop_of_length_le (by simp),
    List.nil_append]

/-- A part of the value. -/
theorem drop_bytes (t : Tlv) (off : Nat) : t.bytes.drop (4 + off) = t.value.drop off := by
  rw [← List.drop_drop, drop_four_bytes]

theorem ofBytes_type (t : Tlv) :
    UInt16.ofNat (BigEndian.ofBytes (t.bytes.take 2)) = t.type := by
  rw [take_two_bytes, BigEndian.ofBytes_toBytes_of_lt (by have := t.type.toNat_lt; omega),
    UInt16.ofNat_toNat]

theorem ofBytes_length (t : Tlv) :
    (UInt16.ofNat (BigEndian.ofBytes ((t.bytes.drop 2).take 2))).toNat = t.value.length := by
  have hfits := t.fits
  rw [take_two_drop_two_bytes, BigEndian.ofBytes_toBytes_of_lt (by omega),
    UInt16.toNat_ofNat_of_lt' (by omega)]

end Tlv

/-- The length field of the option at the front of a byte list. -/
def frontLength (rest : List UInt8) : Nat :=
  (UInt16.ofNat (BigEndian.ofBytes ((rest.drop 2).take 2))).toNat

theorem frontLength_lt (rest : List UInt8) : frontLength rest < 65536 :=
  UInt16.toNat_lt _

/-- Cut a complete option off the front of a byte list. -/
def Tlv.split? (rest : List UInt8) : Option (Tlv × List UInt8) :=
  if 4 + frontLength rest ≤ rest.length then
    some (⟨UInt16.ofNat (BigEndian.ofBytes (rest.take 2)), (rest.drop 4).take (frontLength rest),
      by rw [List.length_take]; have := frontLength_lt rest; omega⟩, rest.drop (4 + frontLength rest))
  else none

/-- The two bytes of a 16-bit number that was read from two bytes. -/
private theorem toBytes_ofBytes_two {l : List UInt8} (h : l.length = 2) :
    BigEndian.toBytes 2 (UInt16.ofNat (BigEndian.ofBytes l)).toNat = l := by
  rw [UInt16.toNat_ofNat_of_lt' (BigEndian.ofBytes_lt h), BigEndian.toBytes_ofBytes h]

/-- What is cut off is the front of the list. -/
theorem Tlv.bytes_append_of_split? {rest rest' : List UInt8} {t : Tlv}
    (h : Tlv.split? rest = some (t, rest')) : rest = t.bytes ++ rest' := by
  simp only [Tlv.split?] at h
  split at h
  · next hle =>
    simp only [Option.some.injEq, Prod.mk.injEq] at h
    obtain ⟨rfl, rfl⟩ := h
    have hlen : ((rest.drop 4).take (frontLength rest)).length = frontLength rest := by
      simp only [List.length_take, List.length_drop]
      omega
    have hfront : BigEndian.toBytes 2 (frontLength rest) = (rest.drop 2).take 2 :=
      toBytes_ofBytes_two (by simp only [List.length_take, List.length_drop]; omega)
    rw [Tlv.bytes]
    dsimp only
    rw [hlen, toBytes_ofBytes_two (by rw [List.length_take]; omega), hfront,
      ← List.drop_drop, List.append_assoc, List.take_append_drop, List.append_assoc]
    conv_lhs => rw [← List.take_append_drop 2 rest, ← List.take_append_drop 2 (rest.drop 2),
      List.drop_drop]
  · cases h

/-- A complete option at the front is cut off. -/
theorem Tlv.split?_bytes_append (t : Tlv) (rest : List UInt8) :
    Tlv.split? (t.bytes ++ rest) = some (t, rest) := by
  have hfront : frontLength (t.bytes ++ rest) = t.value.length := by
    have h := t.ofBytes_length
    have hlen := t.four_le_length_bytes
    rw [frontLength, List.drop_append_of_le_length (by omega),
      List.take_append_of_le_length (by rw [List.length_drop]; omega)]
    exact h
  have htype : (t.bytes ++ rest).take 2 = t.bytes.take 2 :=
    List.take_append_of_le_length (by have := t.four_le_length_bytes; omega)
  have hvalue : ((t.bytes ++ rest).drop 4).take t.value.length = t.value := by
    rw [List.drop_append_of_le_length t.four_le_length_bytes, t.drop_four_bytes, List.take_left]
  rw [Tlv.split?, if_pos (by rw [hfront, List.length_append, length_bytes]; omega)]
  simp only [Option.some.injEq, Prod.mk.injEq]
  refine ⟨?_, ?_⟩
  · cases t with
    | mk type value fits => simp only [hfront, htype, ofBytes_type, hvalue]
  · rw [hfront, ← t.length_bytes, List.drop_left]

theorem Tlv.length_lt_of_split? {rest rest' : List UInt8} {t : Tlv}
    (h : Tlv.split? rest = some (t, rest')) : rest'.length < rest.length := by
  rw [Tlv.bytes_append_of_split? h, List.length_append, t.length_bytes]
  omega

/-! ### The loop on a byte list -/

section Loop

variable {α : Type}

/-- The loop of the decoders as a function of the bytes that are left: `apply` decodes one
    option. -/
def decodeTlvs (apply : Tlv → α → Except DecodeError α) (rest : List UInt8) (acc : α) :
    Except (DecodeError × α) α :=
  match _h : Tlv.split? rest with
  | none => .error (.inconsistentMsg, acc)
  | some (t, rest') =>
    match apply t acc with
    | .error e => .error (e, acc)
    | .ok acc' =>
      if rest' = [] then .ok acc' else decodeTlvs apply rest' acc'
termination_by rest.length
decreasing_by exact Tlv.length_lt_of_split? _h

variable {apply : Tlv → α → Except DecodeError α} {rest : List UInt8} {acc : α}

theorem decodeTlvs_of_none (h : Tlv.split? rest = none) :
    decodeTlvs apply rest acc = .error (.inconsistentMsg, acc) := by
  rw [decodeTlvs]
  split
  · rfl
  · next h' => cases h.symm.trans h'

theorem decodeTlvs_of_some {t : Tlv} {rest' : List UInt8} (h : Tlv.split? rest = some (t, rest')) :
    decodeTlvs apply rest acc =
      match apply t acc with
      | .error e => .error (e, acc)
      | .ok acc' => if rest' = [] then .ok acc' else decodeTlvs apply rest' acc' := by
  rw [decodeTlvs]
  split
  · next h' => cases h'.symm.trans h
  · next h' =>
    obtain ⟨rfl, rfl⟩ : _ ∧ _ := by simpa using h'.symm.trans h
    rfl

/-- On complete options only, the loop is a fold. -/
theorem decodeTlvs_flatMap {tlvs : List Tlv} {acc' : α} (hne : tlvs ≠ [])
    (h : tlvs.foldlM (fun acc t => apply t acc) acc = .ok acc') :
    decodeTlvs apply (tlvs.flatMap Tlv.bytes) acc = .ok acc' := by
  induction tlvs generalizing acc with
  | nil => exact absurd rfl hne
  | cons t tlvs ih =>
    rw [List.flatMap_cons, decodeTlvs_of_some (Tlv.split?_bytes_append t _)]
    rw [List.foldlM_cons] at h
    cases hap : apply t acc with
    | error e => rw [hap] at h; cases h
    | ok acc₁ =>
      rw [hap] at h
      replace h : tlvs.foldlM (fun acc t => apply t acc) acc₁ = .ok acc' := h
      dsimp only
      cases tlvs with
      | nil =>
        obtain rfl : acc₁ = acc' := Except.ok.inj h
        rfl
      | cons t' tlvs =>
        rw [if_neg (by simp [Tlv.bytes_ne_nil])]
        exact ih (List.cons_ne_nil _ _) h

end Loop

/-! ### The iterator over a byte list -/

/-- The memory at an address holds these bytes. -/
def Holds (mem : Nat → UInt8) (address : Nat) (bytes : List UInt8) : Prop :=
  slice mem address bytes.length = bytes

theorem Holds.slice {mem : Nat → UInt8} {address : Nat} {bytes : List UInt8}
    (h : Holds mem address bytes) {off n : Nat} (hle : off + n ≤ bytes.length) :
    slice mem (address + off) n = (bytes.drop off).take n := by
  rw [Reads.slice_add mem hle, h]

theorem Holds.left {mem : Nat → UInt8} {address : Nat} {bytes bytes' : List UInt8}
    (h : Holds mem address (bytes ++ bytes')) : Holds mem address bytes := by
  have hle : 0 + bytes.length ≤ (bytes ++ bytes').length := by simp
  have := h.slice hle
  rwa [Nat.add_zero, List.drop_zero, List.take_left] at this

theorem Holds.right {mem : Nat → UInt8} {address : Nat} {bytes bytes' : List UInt8}
    (h : Holds mem address (bytes ++ bytes')) : Holds mem (address + bytes.length) bytes' := by
  have hle : bytes.length + bytes'.length ≤ (bytes ++ bytes').length := by simp
  have := h.slice hle
  rwa [List.drop_left, List.take_length] at this

/-- The iterator stands at a position of a buffer from which on the given bytes are left. -/
structure Stands (mem : Nat → UInt8) (tlvIter : TlvIterator) (rest : List UInt8) : Prop where
  holds : Holds mem (tlvIter.msg + tlvIter.currentPos) rest
  length : tlvIter.currentPos + rest.length = tlvIter.msgLen

/-- The iterator stands on a complete option of its buffer. -/
structure At (mem : Nat → UInt8) (tlvIter : TlvIterator) (t : Tlv) : Prop where
  holds : Holds mem (tlvIter.msg + tlvIter.currentPos) t.bytes
  fits : tlvIter.currentPos + t.bytes.length ≤ tlvIter.msgLen

section Iterator

variable {ε : Type} {mem : Nat → UInt8} {tlvIter : TlvIterator}

theorem Stands.at {t : Tlv} {rest : List UInt8} (h : Stands mem tlvIter (t.bytes ++ rest)) :
    At mem tlvIter t where
  holds := h.holds.left
  fits := by
    have := h.length
    rw [List.length_append] at this
    omega

/-- Reading from the position of the iterator. -/
theorem Stands.read {rest : List UInt8} (h : Stands mem tlvIter rest) (off n : Nat)
    (hle : off + n ≤ rest.length) :
    (tlvIter.read mem off n : Read ε _).result = .ok ((rest.drop off).take n) ∧
      (tlvIter.read mem off n : Read ε _).InBounds := by
  have hlen := h.length
  refine ⟨?_, (Read.inBounds_bytes mem).mpr (.inr (by omega))⟩
  rw [TlvIterator.read, Read.result_bytes, ← Nat.add_assoc, h.holds.slice hle]

/-- Reading inside the option the iterator stands on. -/
theorem At.read {t : Tlv} (h : At mem tlvIter t) (off n : Nat) (hle : off + n ≤ t.bytes.length) :
    (tlvIter.read mem off n : Read ε _).result = .ok ((t.bytes.drop off).take n) ∧
      (tlvIter.read mem off n : Read ε _).InBounds := by
  have hfits := h.fits
  refine ⟨?_, (Read.inBounds_bytes mem).mpr (.inr (by omega))⟩
  rw [TlvIterator.read, Read.result_bytes, ← Nat.add_assoc, h.holds.slice hle]

theorem At.getType {t : Tlv} (h : At mem tlvIter t) :
    (tlvIterGetType mem tlvIter : Read ε _).result = .ok t.type ∧
      (tlvIterGetType mem tlvIter : Read ε _).InBounds := by
  have hle := t.four_le_length_bytes
  obtain ⟨hres, hin⟩ := h.read (ε := ε) 0 2 (by omega)
  refine ⟨?_, (Read.inBounds_bind_ok hres _).mpr ⟨hin, Read.inBounds_pure _⟩⟩
  rw [tlvIterGetType, Read.result_bind_ok hres, Read.result_pure, List.drop_zero, t.ofBytes_type]

/-- The length field of the option the iterator stands on. -/
theorem At.getLen {t : Tlv} (h : At mem tlvIter t) :
    ∃ len : UInt16, (tlvIterGetLen mem tlvIter : Read ε _).result = .ok len ∧
      len.toNat = t.value.length ∧ (tlvIterGetLen mem tlvIter : Read ε _).InBounds := by
  have hle := t.four_le_length_bytes
  obtain ⟨hres, hin⟩ := h.read (ε := ε) 2 2 (by omega)
  refine ⟨_, ?_, t.ofBytes_length, (Read.inBounds_bind_ok hres _).mpr ⟨hin, Read.inBounds_pure _⟩⟩
  rw [tlvIterGetLen, Read.result_bind_ok hres, Read.result_pure]

/-- Two to four bytes short of a header, the length field is read outside the buffer. -/
theorem Stands.getLen_short {rest : List UInt8} (h : Stands mem tlvIter rest)
    (hshort : rest.length < 4) :
    ∃ len : UInt16, (tlvIterGetLen mem tlvIter : Read ε _).result = .ok len ∧
      ¬ (tlvIterGetLen mem tlvIter : Read ε _).InBounds := by
  have hlen := h.length
  refine ⟨_, rfl, ?_⟩
  intro hin
  have hread := ((Read.inBounds_bind_ok (x := tlvIter.read mem 2 2) rfl _).mp hin).1
  have := (Read.inBounds_bytes mem).mp hread
  omega

/-- The length field of whatever the iterator stands on, if its four header bytes are there. -/
theorem Stands.getLen {rest : List UInt8} (h : Stands mem tlvIter rest) (hle : 4 ≤ rest.length) :
    ∃ len : UInt16, (tlvIterGetLen mem tlvIter : Read ε _).result = .ok len ∧
      len.toNat = frontLength rest ∧ (tlvIterGetLen mem tlvIter : Read ε _).InBounds := by
  obtain ⟨hres, hin⟩ := h.read (ε := ε) 2 2 (by omega)
  refine ⟨_, ?_, rfl, (Read.inBounds_bind_ok hres _).mpr ⟨hin, Read.inBounds_pure _⟩⟩
  rw [tlvIterGetLen, Read.result_bind_ok hres, Read.result_pure]

/-! ### Finding the next option -/

/-- With fewer than four bytes left, the validity test fails, but only after it has read
    outside the buffer. -/
theorem Stands.check_short {rest : List UInt8} (h : Stands mem tlvIter rest)
    (hshort : rest.length < 4) :
    (tlvIterCheckTlvValidity mem tlvIter : Read ε _).result = .ok (.invalid, tlvIter) ∧
      ¬ (tlvIterCheckTlvValidity mem tlvIter : Read ε _).InBounds := by
  obtain ⟨len, hres, hout⟩ := h.getLen_short (ε := ε) hshort
  have hlen := h.length
  have hgt : tlvIter.currentPos + 2 + 2 + len.toNat > tlvIter.msgLen := by omega
  constructor
  · rw [tlvIterCheckTlvValidity, Read.result_bind_ok hres, if_pos hgt, Read.result_pure]
  · intro hin
    exact hout ((Read.inBounds_bind_ok hres _).mp hin).1

/-- An option that is cut off by the end of the buffer is found invalid. -/
theorem Stands.check_cut {rest : List UInt8} (h : Stands mem tlvIter rest)
    (hle : 4 ≤ rest.length) (hcut : Tlv.split? rest = none) :
    (tlvIterCheckTlvValidity mem tlvIter : Read ε _).result = .ok (.invalid, tlvIter) ∧
      (tlvIterCheckTlvValidity mem tlvIter : Read ε _).InBounds := by
  obtain ⟨len, hres, hfront, hin⟩ := h.getLen (ε := ε) hle
  have hlen := h.length
  have hlong : ¬ 4 + frontLength rest ≤ rest.length := by
    intro hle'
    rw [Tlv.split?, if_pos hle'] at hcut
    cases hcut
  have hgt : tlvIter.currentPos + 2 + 2 + len.toNat > tlvIter.msgLen := by omega
  constructor
  · rw [tlvIterCheckTlvValidity, Read.result_bind_ok hres, if_pos hgt, Read.result_pure]
  · rw [tlvIterCheckTlvValidity, Read.inBounds_bind_ok hres, if_pos hgt]
    exact ⟨hin, Read.inBounds_pure _⟩

/-- A complete option is found valid. -/
theorem At.check {t : Tlv} (h : At mem tlvIter t) :
    (tlvIterCheckTlvValidity mem tlvIter : Read ε _).result = .ok (.option, tlvIter) ∧
      (tlvIterCheckTlvValidity mem tlvIter : Read ε _).InBounds := by
  obtain ⟨len, hres, hlen, hin⟩ := h.getLen (ε := ε)
  have hfits := h.fits
  rw [t.length_bytes] at hfits
  have hle : ¬ tlvIter.currentPos + 2 + 2 + len.toNat > tlvIter.msgLen := by omega
  constructor
  · rw [tlvIterCheckTlvValidity, Read.result_bind_ok hres, if_neg hle, Read.result_pure]
  · rw [tlvIterCheckTlvValidity, Read.inBounds_bind_ok hres, if_neg hle]
    exact ⟨hin, Read.inBounds_pure _⟩

/-! ### The loop over the iterator -/

section Walk

variable {α : Type} {step : TlvIterator → α → Read DecodeError α}

variable (mem) (step) in
/-- The loop of the decoders from the validity test at the current position on. -/
def tlvIterWalk (fuel : Nat) (tlvIter : TlvIterator) (acc : α) : Read (DecodeError × α) α := do
  let (next, tlvIter') ← tlvIterCheckTlvValidity mem tlvIter
  match next with
  | .option =>
    let acc' ← (step tlvIter' acc).mapError fun e => (e, acc)
    tlvIterLoop mem step fuel tlvIter' acc'
  | .finished => pure acc
  | .invalid => Read.fail (.inconsistentMsg, acc)

/-- The first round starts behind the message header. -/
theorem tlvIterLoop_init (fuel msg msgLen msgHeaderLen : Nat) (acc : α) :
    tlvIterLoop mem step (fuel + 1) (tlvIterInitStr msg msgLen msgHeaderLen) acc =
      tlvIterWalk mem step fuel ⟨msg, msgLen, msgHeaderLen, msgHeaderLen, true⟩ acc := rfl

/-- Where the iterator goes from an option. -/
def TlvIterator.after (tlvIter : TlvIterator) (t : Tlv) : TlvIterator :=
  { tlvIter with currentPos := tlvIter.currentPos + t.bytes.length }

theorem Stands.after {t : Tlv} {rest : List UInt8} (h : Stands mem tlvIter (t.bytes ++ rest)) :
    Stands mem (tlvIter.after t) rest where
  holds := by
    have := h.holds.right
    rwa [Nat.add_assoc] at this
  length := by
    have := h.length
    rw [List.length_append] at this
    simp only [TlvIterator.after]
    omega

variable (step) in
/-- Behind an option the loop either ends or goes on at the next position. -/
theorem tlvIterLoop_after {t : Tlv} {rest : List UInt8} (fuel : Nat) (acc : α)
    (h : Stands mem tlvIter (t.bytes ++ rest)) (hcalled : tlvIter.iterNextCalled = true) :
    (tlvIterLoop mem step (fuel + 1) tlvIter acc).result =
        (if rest = [] then .ok acc
        else (tlvIterWalk mem step fuel (tlvIter.after t) acc).result) ∧
      ((tlvIterLoop mem step (fuel + 1) tlvIter acc).InBounds ↔
        (rest ≠ [] → (tlvIterWalk mem step fuel (tlvIter.after t) acc).InBounds)) := by
  obtain ⟨len, hres, hlen, hin⟩ := h.at.getLen (ε := DecodeError × α)
  have hlength := h.length
  rw [List.length_append, t.length_bytes] at hlength
  have hloop : tlvIterLoop mem step (fuel + 1) tlvIter acc =
      tlvIterGetLen mem tlvIter >>= fun len =>
        if tlvIter.currentPos + 2 + 2 + len.toNat ≥ tlvIter.msgLen then pure acc
        else tlvIterWalk mem step fuel
          { tlvIter with currentPos := tlvIter.currentPos + 2 + 2 + len.toNat } acc := by
    rw [tlvIterLoop, tlvIterNext, if_neg (by rw [hcalled]; exact Bool.noConfusion), Read.bind_assoc]
    congr 1
    funext len
    split <;> rfl
  have hafter : { tlvIter with currentPos := tlvIter.currentPos + 2 + 2 + len.toNat } =
      tlvIter.after t := by
    rw [TlvIterator.after, t.length_bytes, hlen]
    congr 1
    omega
  rw [hloop, Read.result_bind_ok hres, Read.inBounds_bind_ok hres, hafter]
  by_cases hrest : rest = []
  · have hend : tlvIter.currentPos + 2 + 2 + len.toNat ≥ tlvIter.msgLen := by
      rw [hrest, List.length_nil] at hlength
      omega
    rw [if_pos hend, if_pos hrest]
    exact ⟨rfl, fun _ hne => absurd hrest hne, fun _ => ⟨hin, Read.inBounds_pure _⟩⟩
  · have hmore : ¬ tlvIter.currentPos + 2 + 2 + len.toNat ≥ tlvIter.msgLen := by
      have := List.length_pos_iff.mpr hrest
      omega
    rw [if_neg hmore, if_neg hrest]
    exact ⟨rfl, fun hboth _ => hboth.2, fun himp => ⟨hin, himp hrest⟩⟩

/-- Fewer than four bytes left: an error, reported after a read outside the buffer. -/
theorem tlvIterWalk_short {rest : List UInt8} (fuel : Nat) (acc : α)
    (h : Stands mem tlvIter rest) (hshort : rest.length < 4) :
    (tlvIterWalk mem step fuel tlvIter acc).result = .error (.inconsistentMsg, acc) ∧
      ¬ (tlvIterWalk mem step fuel tlvIter acc).InBounds := by
  obtain ⟨hres, hout⟩ := h.check_short (ε := DecodeError × α) hshort
  refine ⟨?_, fun hin => hout ((Read.inBounds_bind_ok hres _).mp hin).1⟩
  rw [tlvIterWalk, Read.result_bind_ok hres]
  rfl

/-- An incomplete option: an error, reported in bounds. -/
theorem tlvIterWalk_cut {rest : List UInt8} (fuel : Nat) (acc : α)
    (h : Stands mem tlvIter rest) (hle : 4 ≤ rest.length) (hcut : Tlv.split? rest = none) :
    (tlvIterWalk mem step fuel tlvIter acc).result = .error (.inconsistentMsg, acc) ∧
      (tlvIterWalk mem step fuel tlvIter acc).InBounds := by
  obtain ⟨hres, hin⟩ := h.check_cut (ε := DecodeError × α) hle hcut
  refine ⟨?_, (Read.inBounds_bind_ok hres _).mpr ⟨hin, Read.inBounds_fail _⟩⟩
  rw [tlvIterWalk, Read.result_bind_ok hres]
  rfl

/-- A complete option whose content is refused ends the loop. -/
theorem tlvIterWalk_error {t : Tlv} {rest : List UInt8} {e : DecodeError} (fuel : Nat) (acc : α)
    (h : Stands mem tlvIter (t.bytes ++ rest)) (hstep : (step tlvIter acc).result = .error e) :
    (tlvIterWalk mem step fuel tlvIter acc).result = .error (e, acc) ∧
      ((tlvIterWalk mem step fuel tlvIter acc).InBounds ↔ (step tlvIter acc).InBounds) := by
  obtain ⟨hres, hin⟩ := h.at.check (ε := DecodeError × α)
  have herr : ((step tlvIter acc).mapError fun e => (e, acc)).result = .error (e, acc) := by
    rw [Read.result_mapError, hstep]
    rfl
  rw [tlvIterWalk, Read.result_bind_ok hres, Read.inBounds_bind_ok hres]
  dsimp only
  rw [Read.result_bind_error herr, Read.inBounds_bind_error herr, Read.inBounds_mapError]
  exact ⟨rfl, fun hboth => hboth.2, fun hs => ⟨hin, hs⟩⟩

/-- A complete option that is decoded leads to the bytes behind it. -/
theorem tlvIterWalk_ok {t : Tlv} {rest : List UInt8} {acc acc' : α} (fuel : Nat)
    (h : Stands mem tlvIter (t.bytes ++ rest)) (hcalled : tlvIter.iterNextCalled = true)
    (hstep : (step tlvIter acc).result = .ok acc') :
    (tlvIterWalk mem step (fuel + 1) tlvIter acc).result =
        (if rest = [] then .ok acc'
        else (tlvIterWalk mem step fuel (tlvIter.after t) acc').result) ∧
      ((tlvIterWalk mem step (fuel + 1) tlvIter acc).InBounds ↔
        (step tlvIter acc).InBounds ∧
          (rest ≠ [] → (tlvIterWalk mem step fuel (tlvIter.after t) acc').InBounds)) := by
  obtain ⟨hres, hin⟩ := h.at.check (ε := DecodeError × α)
  have hok : ((step tlvIter acc).mapError fun e => (e, acc)).result = .ok acc' := by
    rw [Read.result_mapError, hstep]
    rfl
  obtain ⟨hresult, hbounds⟩ := tlvIterLoop_after step fuel acc' h hcalled
  rw [tlvIterWalk, Read.result_bind_ok hres, Read.inBounds_bind_ok hres]
  dsimp only
  rw [Read.result_bind_ok hok, Read.inBounds_bind_ok hok, Read.inBounds_mapError, hresult, hbounds]
  exact ⟨rfl, fun hboth => hboth.2, fun hs => ⟨hin, hs⟩⟩

/-- The loop over the iterator computes the loop over the remaining bytes, if `apply` is what
    `step` computes on an option. -/
theorem tlvIterWalk_result {apply : Tlv → α → Except DecodeError α}
    (hstep : ∀ tlvIter t acc, At mem tlvIter t → (step tlvIter acc).result = apply t acc)
    {fuel : Nat} {rest : List UInt8} (h : Stands mem tlvIter rest)
    (hcalled : tlvIter.iterNextCalled = true) (hfuel : rest.length < fuel) (acc : α) :
    (tlvIterWalk mem step fuel tlvIter acc).result = decodeTlvs apply rest acc := by
  induction fuel generalizing tlvIter rest acc with
  | zero => exact absurd hfuel (Nat.not_lt_zero _)
  | succ fuel ih =>
    cases hsplit : Tlv.split? rest with
    | none =>
      rw [decodeTlvs_of_none hsplit]
      by_cases hle : 4 ≤ rest.length
      · exact (tlvIterWalk_cut (fuel + 1) acc h hle hsplit).1
      · exact (tlvIterWalk_short (fuel + 1) acc h (by omega)).1
    | some p =>
      obtain ⟨t, rest'⟩ := p
      have hshorter := Tlv.length_lt_of_split? hsplit
      rw [decodeTlvs_of_some hsplit]
      obtain rfl := Tlv.bytes_append_of_split? hsplit
      cases happly : apply t acc with
      | error e => exact (tlvIterWalk_error (fuel + 1) acc h ((hstep _ t acc h.at).trans happly)).1
      | ok acc' =>
        rw [(tlvIterWalk_ok fuel h hcalled ((hstep _ t acc h.at).trans happly)).1,
          ih h.after hcalled (by omega) acc']

/-! ### When the loop stays inside -/

/-- The headers the loop looks at are complete: whenever accepted options have been cut off
    the front and bytes are left (or none has been cut off yet), at least four bytes are left.
    `inside` is asked of every option the loop looks into. -/
def HeadersFit (accepts inside : Tlv → Prop) (rest : List UInt8) : Prop :=
  ∀ (tlvs : List Tlv) (tail : List UInt8), rest = tlvs.flatMap Tlv.bytes ++ tail →
    (∀ t ∈ tlvs, accepts t) →
    ((tlvs = [] ∨ tail ≠ []) → 4 ≤ tail.length) ∧
      ∀ t tail', tail = t.bytes ++ tail' → inside t

variable {accepts inside : Tlv → Prop} {rest : List UInt8}

theorem not_headersFit_of_short (hshort : rest.length < 4) : ¬ HeadersFit accepts inside rest := by
  intro h
  have := (h [] rest rfl (fun t ht => absurd ht List.not_mem_nil)).1 (.inl rfl)
  omega

theorem headersFit_of_cut (hle : 4 ≤ rest.length) (hcut : Tlv.split? rest = none) :
    HeadersFit accepts inside rest := by
  intro tlvs tail hrest _
  have hno : ∀ (t : Tlv) tail', rest ≠ t.bytes ++ tail' := by
    rintro t tail' rfl
    rw [Tlv.split?_bytes_append] at hcut
    cases hcut
  cases tlvs with
  | nil =>
    obtain rfl : rest = tail := hrest
    exact ⟨fun _ => hle, fun t tail' ht => absurd ht (hno t tail')⟩
  | cons t tlvs =>
    rw [List.flatMap_cons, List.append_assoc] at hrest
    exact absurd hrest (hno t _)

/-- A complete option: it has to be all right itself, and if it is accepted, so has what follows. -/
theorem headersFit_append (t : Tlv) (rest : List UInt8) :
    HeadersFit accepts inside (t.bytes ++ rest) ↔
      inside t ∧ (accepts t → rest ≠ [] → HeadersFit accepts inside rest) := by
  have huniq : ∀ (t' : Tlv) rest', t.bytes ++ rest = t'.bytes ++ rest' → t = t' ∧ rest = rest' := by
    intro t' rest' heq
    have := congrArg Tlv.split? heq
    rwa [Tlv.split?_bytes_append, Tlv.split?_bytes_append, Option.some.injEq, Prod.mk.injEq] at this
  constructor
  · intro h
    refine ⟨(h [] _ rfl (fun t ht => absurd ht List.not_mem_nil)).2 t rest rfl, ?_⟩
    intro hacc hne tlvs tail hrest hall
    have hcons := h (t :: tlvs) tail (by rw [List.flatMap_cons, List.append_assoc, ← hrest])
      (List.forall_mem_cons.mpr ⟨hacc, hall⟩)
    refine ⟨fun hor => hcons.1 (.inr ?_), hcons.2⟩
    rintro rfl
    rcases hor with rfl | htail
    · exact hne hrest
    · exact htail rfl
  · rintro ⟨hin, hnext⟩ tlvs tail hrest hall
    cases tlvs with
    | nil =>
      rw [List.flatMap_nil, List.nil_append] at hrest
      refine ⟨fun _ => ?_, fun t' tail' ht => ?_⟩
      · rw [← hrest, List.length_append, t.length_bytes]
        omega
      · obtain ⟨rfl, -⟩ := huniq t' tail' (hrest.trans ht)
        exact hin
    | cons t' tlvs =>
      rw [List.flatMap_cons, List.append_assoc] at hrest
      obtain ⟨rfl, rfl⟩ := huniq t' _ hrest
      obtain ⟨hacc, hall⟩ := List.forall_mem_cons.mp hall
      by_cases hnil : tlvs.flatMap Tlv.bytes ++ tail = []
      · obtain ⟨-, rfl⟩ := List.append_eq_nil_iff.mp hnil
        refine ⟨fun hor => ?_, fun t' tail' ht => ?_⟩
        · simp at hor
        · exact absurd (List.append_eq_nil_iff.mp ht.symm).1 t'.bytes_ne_nil
      · have hfit := hnext hacc hnil tlvs tail rfl hall
        refine ⟨fun hor => hfit.1 (.inr ?_), hfit.2⟩
        rcases hor with hcons | htail
        · cases hcons
        · exact htail

variable (accepts inside) in
/-- The loop over the iterator reads inside the buffer exactly if the headers fit. -/
theorem tlvIterWalk_inBounds
    (haccepts : ∀ tlvIter t acc, At mem tlvIter t →
      (accepts t ↔ ∃ acc', (step tlvIter acc).result = .ok acc'))
    (hinside : ∀ tlvIter t acc, At mem tlvIter t → ((step tlvIter acc).InBounds ↔ inside t))
    {fuel : Nat} (h : Stands mem tlvIter rest) (hcalled : tlvIter.iterNextCalled = true)
    (hfuel : rest.length < fuel) (acc : α) :
    (tlvIterWalk mem step fuel tlvIter acc).InBounds ↔ HeadersFit accepts inside rest := by
  induction fuel generalizing tlvIter rest acc with
  | zero => exact absurd hfuel (Nat.not_lt_zero _)
  | succ fuel ih =>
    cases hsplit : Tlv.split? rest with
    | none =>
      by_cases hle : 4 ≤ rest.length
      · exact iff_of_true (tlvIterWalk_cut (fuel + 1) acc h hle hsplit).2
          (headersFit_of_cut hle hsplit)
      · exact iff_of_false (tlvIterWalk_short (fuel + 1) acc h (by omega)).2
          (not_headersFit_of_short (by omega))
    | some p =>
      obtain ⟨t, rest'⟩ := p
      have hshorter := Tlv.length_lt_of_split? hsplit
      obtain rfl := Tlv.bytes_append_of_split? hsplit
      rw [headersFit_append]
      cases hres : (step tlvIter acc).result with
      | error e =>
        have hnot : ¬ accepts t := by
          rw [haccepts tlvIter t acc h.at, hres]
          rintro ⟨acc', hok⟩
          cases hok
        rw [(tlvIterWalk_error (fuel + 1) acc h hres).2, hinside tlvIter t acc h.at]
        exact ⟨fun hin => ⟨hin, fun hacc => absurd hacc hnot⟩, fun hboth => hboth.1⟩
      | ok acc' =>
        have hacc : accepts t := (haccepts tlvIter t acc h.at).mpr ⟨acc', hres⟩
        rw [(tlvIterWalk_ok fuel h hcalled hres).2, hinside tlvIter t acc h.at]
        have hnext := ih h.after hcalled (by omega) acc'
        exact ⟨fun hboth => ⟨hboth.1, fun _ hne => hnext.mp (hboth.2 hne)⟩,
          fun hboth => ⟨hboth.1, fun hne => hnext.mpr (hboth.2 hacc hne)⟩⟩

end Walk

end Iterator

end Qdevice
