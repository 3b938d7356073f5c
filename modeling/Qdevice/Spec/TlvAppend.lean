import Qdevice.Spec.MsgEncode

/-! # Appending one option

A `tlv_add` function either appends a complete option or leaves the message alone.  The length of
a string or of an array goes into 16 bits before `tlv_add` looks at it, so this fails for values
of 65536 bytes and more, of which only a part is appended, under a length to match. -/

open Reads (Read)

namespace Qdevice

/-- A call of one of the functions that append an option with a value of any length. -/
inductive TlvAddCall where
  /-- `tlv_add`, with a value as long as `opt_len` says. -/
  | value (optType : TlvOptType) (data : List UInt8) (fits : data.length < 65536)
  /-- `tlv_add_string`, of a string without its NUL. -/
  | string (optType : TlvOptType) (str : List UInt8) (noNul : 0 ∉ str)
  | u16Array (optType : TlvOptType) (array : List UInt16)
  | supportedOptions (supportedOptions : List UInt16)
  | supportedDecisionAlgorithms (supportedAlgorithms : List UInt16)

namespace TlvAddCall

def run : TlvAddCall → DynarM Unit
  | value optType data _ => tlvAdd optType (UInt16.ofNat data.length) data
  | string optType str _ => tlvAddString optType str
  | u16Array optType array => tlvAddU16Array optType array
  | supportedOptions options => tlvAddSupportedOptions options
  | supportedDecisionAlgorithms algorithms => tlvAddSupportedDecisionAlgorithms algorithms

def optType : TlvAddCall → TlvOptType
  | value optType _ _ | string optType _ _ | u16Array optType _ => optType
  | supportedOptions _ => .supportedOptions
  | supportedDecisionAlgorithms _ => .supportedDecisionAlgorithms

/-- The array, if the value is one. -/
def array? : TlvAddCall → Option (List UInt16)
  | value _ _ _ | string _ _ _ => none
  | u16Array _ array | supportedOptions array | supportedDecisionAlgorithms array => some array

/-- The bytes of the value. -/
def bytes : TlvAddCall → List UInt8
  | value _ data _ => data
  | string _ str _ => str
  | u16Array _ array | supportedOptions array | supportedDecisionAlgorithms array =>
    array.flatMap fun u16 => BigEndian.toBytes 2 u16.toNat

/-- The iterator finds the value of the call behind `size` bytes of a buffer. -/
def Recovered (call : TlvAddCall) (size : Nat) (data : List UInt8) : Prop :=
  ∀ mem base, Holds mem base data →
    ∃ tlvIter, (tlvIterNext mem (tlvIterInitStr base data.length size) : Read DecodeError _).result =
        .ok (.option, tlvIter) ∧
      (tlvIterGetType mem tlvIter : Read DecodeError _).result = .ok call.optType.toUInt16 ∧
      (tlvIterDecodeStr mem tlvIter).result = .ok call.bytes ∧
      ∀ array ∈ call.array?, (tlvIterDecodeU16Array mem tlvIter).result = .ok array

/-- The call has appended its option and nothing else, or it has failed and appended nothing. -/
def AllOrNothing (call : TlvAddCall) (msg : Dynar) : Prop :=
  ((call.run msg).1 = some () ∧
    ∃ appended, (call.run msg).2 = { msg with data := msg.data ++ appended } ∧
      appended.length = 4 + call.bytes.length ∧ call.Recovered msg.data.length (msg.data ++ appended)) ∨
  ((call.run msg).1 = none ∧ (call.run msg).2.data = msg.data)

/-- All of these functions end in `tlv_add`, with a length of 16 bits. -/
theorem run_eq (call : TlvAddCall) :
    call.run = tlvAdd call.optType (UInt16.ofNat call.bytes.length) call.bytes := by
  cases call with
  | value optType data fits => rfl
  | string optType str noNul => rw [run, tlvAddString, cString_eq noNul]; rfl
  | u16Array optType array =>
    rw [run, tlvAddU16Array, ← length_flatMap_toBytes]
    rfl
  | supportedOptions options =>
    rw [run, tlvAddSupportedOptions, tlvAddU16Array, ← length_flatMap_toBytes]
    rfl
  | supportedDecisionAlgorithms algorithms =>
    rw [run, tlvAddSupportedDecisionAlgorithms, tlvAddU16Array, ← length_flatMap_toBytes]
    rfl

end TlvAddCall

/-- What `tlv_add` does: the test for room is the only thing that can fail. -/
theorem tlvAdd_eq (optType : TlvOptType) (optLen : UInt16) {value : List UInt8} (msg : Dynar)
    (h : optLen.toNat ≤ value.length) :
    ∃ t : Tlv, t.type = optType.toUInt16 ∧ t.value = value.take optLen.toNat ∧
      tlvAdd optType optLen value msg =
        if dynarMaxSize msg < dynarSize msg + 4 + optLen.toNat then (none, msg)
        else (some (), { msg with data := msg.data ++ t.bytes }) := by
  have hlength : (value.take optLen.toNat).length = optLen.toNat := by
    rw [List.length_take, Nat.min_eq_left h]
  refine ⟨⟨optType.toUInt16, value.take optLen.toNat, by rw [hlength]; exact optLen.toNat_lt⟩,
    rfl, rfl, ?_⟩
  have hcat (src data : List UInt8) (hroom : data.length + src.length ≤ msg.maximumSize) :
      dynarCat src { msg with data := data } =
        (some (), { msg with data := data ++ src }) := by
    rw [dynarCat, if_neg (by simp only [dynarSize, dynarMaxSize]; omega)]
  rw [tlvAdd]
  simp only [bind, tlvCheckRoom]
  by_cases hfull : dynarSize msg + 2 + 2 + optLen.toNat > dynarMaxSize msg
  · rw [if_pos hfull, if_pos (by omega)]
  · rw [if_neg hfull, if_neg (by omega)]
    simp only [dynarSize, dynarMaxSize] at hfull
    dsimp only
    rw [hcat _ msg.data (by rw [BigEndian.length_toBytes]; omega)]
    dsimp only
    rw [hcat _ _ (by simp only [List.length_append, BigEndian.length_toBytes]; omega)]
    dsimp only
    rw [hcat _ _ (by simp only [List.length_append, BigEndian.length_toBytes, hlength]; omega)]
    simp only [Tlv.bytes, hlength, List.append_assoc]

/-- The iterator finds an option that has been appended to a buffer. -/
theorem tlvIterNext_appended {mem : Nat → UInt8} {base : Nat} {data : List UInt8} {t : Tlv}
    (h : Holds mem base (data ++ t.bytes)) :
    ∃ tlvIter, (tlvIterNext mem (tlvIterInitStr base (data ++ t.bytes).length data.length) :
        Read DecodeError _).result = .ok (.option, tlvIter) ∧ At mem tlvIter t := by
  have hat : At mem ⟨base, (data ++ t.bytes).length, data.length, data.length, true⟩ t :=
    ⟨h.right, by rw [List.length_append]⟩
  exact ⟨_, hat.check.1, hat⟩

namespace TlvAddCall

variable {call : TlvAddCall} {msg : Dynar}

/-- What is left of the length of the value in 16 bits. -/
private theorem toNat_length (call : TlvAddCall) :
    (UInt16.ofNat call.bytes.length).toNat = call.bytes.length % 65536 :=
  UInt16.toNat_ofNat'

/-- The call, as far as it depends on the room that there is. -/
theorem run_cases (call : TlvAddCall) (msg : Dynar) :
    dynarMaxSize msg < dynarSize msg + 4 + call.bytes.length % 65536 ∧ call.run msg = (none, msg) ∨
    ¬ dynarMaxSize msg < dynarSize msg + 4 + call.bytes.length % 65536 ∧
      ∃ t : Tlv, t.type = call.optType.toUInt16 ∧
        t.value = call.bytes.take (call.bytes.length % 65536) ∧
        call.run msg = (some (), { msg with data := msg.data ++ t.bytes }) := by
  obtain ⟨t, htype, hvalue, hrun⟩ := tlvAdd_eq call.optType (UInt16.ofNat call.bytes.length) msg
    (by rw [toNat_length]; exact Nat.mod_le _ _ : _ ≤ call.bytes.length)
  rw [toNat_length] at hvalue hrun
  rw [call.run_eq, hrun]
  split
  · next hfull => exact .inl ⟨hfull, rfl⟩
  · next hroom => exact .inr ⟨hroom, t, htype, hvalue, rfl⟩

/-- A value whose length fits is appended as a whole. -/
theorem allOrNothing_of_lt (h : call.bytes.length < 65536) : call.AllOrNothing msg := by
  obtain ⟨-, hrun⟩ | ⟨-, t, htype, hvalue, hrun⟩ := call.run_cases msg
  · exact .inr ⟨congrArg Prod.fst hrun, congrArg (fun res => res.2.data) hrun⟩
  · rw [Nat.mod_eq_of_lt h, List.take_length] at hvalue
    refine .inl ⟨congrArg Prod.fst hrun, t.bytes, congrArg Prod.snd hrun,
      by rw [t.length_bytes, hvalue], fun mem base hholds => ?_⟩
    obtain ⟨tlvIter, hnext, hat⟩ := tlvIterNext_appended hholds
    refine ⟨tlvIter, hnext, ?_, ?_, fun array harray => ?_⟩
    · rw [hat.getType.1, htype]
    · rw [hat.str.1, hvalue]
    · have hbytes : call.bytes = array.flatMap fun u16 => BigEndian.toBytes 2 u16.toNat := by
        cases call <;> cases harray <;> rfl
      rw [hat.u16Array.1, hvalue, hbytes, length_flatMap_toBytes, if_neg (by omega),
        ntohsArray_flatMap]

/-- A longer value is cut, if there is room for what is left of it. -/
theorem not_allOrNothing (hlong : 65536 ≤ call.bytes.length)
    (hroom : ¬ dynarMaxSize msg < dynarSize msg + 4 + call.bytes.length % 65536) :
    ¬ call.AllOrNothing msg := by
  obtain ⟨hfull, -⟩ | ⟨-, t, -, hvalue, hrun⟩ := call.run_cases msg
  · exact absurd hfull hroom
  · rw [AllOrNothing, hrun]
    rintro (⟨-, appended, hdata, hlength, -⟩ | ⟨hnone, -⟩)
    · have happended : t.bytes = appended := List.append_cancel_left (congrArg Dynar.data hdata)
      rw [← happended, t.length_bytes, hvalue, List.length_take] at hlength
      omega
    · cases hnone

end TlvAddCall

/-- **Appending is all or nothing** exactly if the value is shorter than 65536 bytes, or there is
    no room even for the part of it that would be appended. -/
theorem tlvAppend_allOrNothing_iff (call : TlvAddCall) (msg : Dynar) :
    call.AllOrNothing msg ↔ call.bytes.length < 65536 ∨
      dynarMaxSize msg < dynarSize msg + 4 + call.bytes.length % 65536 := by
  constructor
  · intro hall
    -- Otherwise there is room, but the length is too large for 16 bits.
    by_contra hnot
    rw [not_or, Nat.not_lt] at hnot
    exact TlvAddCall.not_allOrNothing hnot.1 hnot.2 hall
  · rintro (hshort | hfull)
    · exact TlvAddCall.allOrNothing_of_lt hshort
    · obtain ⟨-, hrun⟩ | ⟨hroom, -⟩ := call.run_cases msg
      · exact .inr ⟨congrArg Prod.fst hrun, congrArg (fun res => res.2.data) hrun⟩
      · exact absurd hfull hroom

/-- A cluster name of 65536 bytes is sent as an empty one. -/
theorem tlvAppend_cut : ∃ (call : TlvAddCall) (msg : Dynar),
    call.bytes = List.replicate 65536 97 ∧
    call.run msg = (some (), { msg with data := [0, 1, 0, 0] }) ∧ ¬ call.AllOrNothing msg := by
  have hnul : (0 : UInt8) ∉ List.replicate 65536 97 := by
    rw [List.mem_replicate]
    decide
  let call : TlvAddCall := .string .clusterName (List.replicate 65536 97) hnul
  have hlen : call.bytes.length = 65536 := List.length_replicate
  refine ⟨call, dynarInit 32768, rfl, ?_, TlvAddCall.not_allOrNothing (by omega)
    (by rw [hlen]; decide)⟩
  obtain ⟨hfull, -⟩ | ⟨-, t, htype, hvalue, hrun⟩ := call.run_cases (dynarInit 32768)
  · rw [hlen] at hfull
    exact absurd hfull (by decide)
  · rw [hlen, Nat.mod_self, List.take_zero] at hvalue
    have hbytes : t.bytes = [0, 1, 0, 0] := by
      rw [Tlv.bytes, htype, hvalue]
      exact (by decide : BigEndian.toBytes 2 TlvOptType.clusterName.toUInt16.toNat ++
        BigEndian.toBytes 2 0 ++ [] = [0, 1, 0, 0])
    rw [hrun, hbytes]
    rfl

end Qdevice
