import Qdevice.Spec.TlvDecode

/-! # What `msg_decode` computes and where it reads

`msgDecode_result` states the result as a function of the bytes of the message alone:
the bytes behind the message never matter.  They are read all the same:
`msgDecode_inBounds_iff` says exactly which messages are decoded without a read outside
the message, or outside a NODE_INFO value. -/

open Reads (Read)

namespace Qdevice

section Decode

variable (beyond : Nat → UInt8) {msg : Dynar}

/-- The iterator after its first move in a message with a complete header. -/
private theorem stands_options (hlen : 6 ≤ dynarSize msg) :
    Stands (msgMemory beyond msg.data) ⟨0, dynarSize msg, 6, 6, true⟩ (msg.data.drop 6) where
  holds := by
    have hholds := holds_msgMemory beyond msg.data
    rw [← List.take_append_drop 6 msg.data] at hholds
    have hright := hholds.right
    rw [List.length_take, Nat.min_eq_left (show 6 ≤ msg.data.length from hlen),
      List.take_append_drop] at hright
    exact hright
  length := by
    rw [List.length_drop]
    exact Nat.add_sub_cancel' hlen

/-- `msg_decode` is the type followed by a walk over the options. -/
private theorem msgDecode_eq (hlen : 6 ≤ dynarSize msg) :
    (msgDecode beyond msg).result =
        (tlvIterWalk (msgMemory beyond msg.data) (msgDecodeOption (msgMemory beyond msg.data))
          (dynarSize msg + 1) ⟨0, dynarSize msg, 6, 6, true⟩ { type := msgGetType msg }).result ∧
      ((msgDecode beyond msg).InBounds ↔
        (tlvIterWalk (msgMemory beyond msg.data) (msgDecodeOption (msgMemory beyond msg.data))
          (dynarSize msg + 1) ⟨0, dynarSize msg, 6, 6, true⟩ { type := msgGetType msg }).InBounds) := by
  have hres : (Read.bytes (msgMemory beyond msg.data) 0 (dynarSize msg) 0 2 :
      Read (DecodeError × MsgDecoded) _).result = .ok (msg.data.take 2) := by
    have hle : 0 + 2 ≤ msg.data.length := Nat.le_trans (by decide) hlen
    rw [Read.result_bytes, (holds_msgMemory beyond msg.data).slice hle, List.drop_zero]
  have hin : (Read.bytes (msgMemory beyond msg.data) 0 (dynarSize msg) 0 2 :
      Read (DecodeError × MsgDecoded) _).InBounds :=
    (Read.inBounds_bytes _).mpr (.inr (by omega))
  rw [msgDecode, Read.result_bind_ok hres, Read.inBounds_bind_ok hres]
  exact ⟨rfl, and_iff_right hin⟩

/-- The result depends on the bytes of the message only: the type, and the options decoded one
    after the other. -/
theorem msgDecode_result (hlen : 6 ≤ dynarSize msg) :
    (msgDecode beyond msg).result =
      decodeTlvs Tlv.applyOption (msg.data.drop 6) { type := msgGetType msg } := by
  rw [(msgDecode_eq beyond hlen).1]
  exact tlvIterWalk_result (fun _ _ d hat => (hat.decodeOption d).1) (stands_options beyond hlen)
    rfl (by rw [List.length_drop]; exact Nat.lt_succ_of_le (Nat.sub_le _ _)) _

/-- Every byte that `msg_decode` reads is inside the message, respectively inside the enclosing
    NODE_INFO value, exactly if the headers fit: an accepted prefix of the options never leaves
    one to three bytes, the payload is not shorter than four bytes, and the same holds in the
    value of every NODE_INFO option that is reached. -/
theorem msgDecode_inBounds_iff (hlen : 6 ≤ dynarSize msg) :
    (msgDecode beyond msg).InBounds ↔
      HeadersFit Tlv.Accepted Tlv.SubMessageFits (msg.data.drop 6) := by
  rw [(msgDecode_eq beyond hlen).2]
  -- An option is decoded within the message if its own decoder stays within the option.
  refine tlvIterWalk_inBounds Tlv.Accepted Tlv.SubMessageFits ?_ ?_ (stands_options beyond hlen)
    rfl (by rw [List.length_drop]; exact Nat.lt_succ_of_le (Nat.sub_le _ _)) _
  · intro tlvIter t d hat
    rw [(hat.decodeOption d).1]
    exact applyOption_isOk t _ d
  · intro tlvIter t d hat
    exact (hat.decodeOption d).2

end Decode

/-- A message the reader delivers: a known type, and the length of the header. -/
def Deliverable (msg : Dynar) : Prop :=
  6 ≤ dynarSize msg ∧ msgIsValidMsgType msg = true ∧ dynarSize msg = 6 + (msgGetLen msg).toNat ∧
    dynarSize msg ≤ dynarMaxSize msg

instance (msg : Dynar) : Decidable (Deliverable msg) :=
  inferInstanceAs (Decidable (_ ∧ _ ∧ _ ∧ _))

/-- An echo request with a sequence number. -/
def numberedEcho : Dynar := ⟨[0, 8, 0, 0, 0, 8, 0, 0, 0, 4, 0, 0, 0, 1], 64⟩

/-- An echo request without options. -/
def bareEcho : Dynar := ⟨[0, 8, 0, 0, 0, 0], 64⟩

/-- An echo request with a sequence number is decoded inside its 14 bytes. -/
theorem msgDecode_inBounds_echo : 6 ≤ dynarSize numberedEcho ∧
    HeadersFit Tlv.Accepted Tlv.SubMessageFits (numberedEcho.data.drop 6) := by
  have hlen : 6 ≤ dynarSize numberedEcho := by decide
  exact ⟨hlen, (msgDecode_inBounds_iff (fun _ => 0) hlen).mp (by decide)⟩

/-- An echo request that is only a header is decoded by looking at the bytes 8 and 9 of its
    6 bytes. -/
theorem msgDecode_reads_beyond : Deliverable bareEcho ∧
    ¬ (msgDecode (fun _ => 0) bareEcho).InBounds ∧
    (msgDecode (fun _ => 0) bareEcho).accesses =
      [⟨0, 6⟩, ⟨1, 6⟩, ⟨8, 6⟩, ⟨9, 6⟩] := by
  refine ⟨by decide, by decide, by decide⟩

end Qdevice
