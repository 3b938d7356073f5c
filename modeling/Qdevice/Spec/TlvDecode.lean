import Qdevice.Native.Msg
import Qdevice.Spec.TlvIterator

/-! # What the decode functions compute on a complete option

For an iterator that stands on a complete option, each decode function of `tlv.c` stays
inside the option and its result depends on the value bytes only, wherever in memory
the option lies.  The one exception is a NODE_INFO option, whose value is walked by an
iterator of its own: it stays inside exactly if that walk does. -/

open Reads (Read)

namespace Qdevice

/-! ### Values of one length -/

/-- Decoding a value of exactly `n` bytes. -/
def Tlv.fixed {α : Type} (n : Nat) (f : List UInt8 → Except DecodeError α) (t : Tlv) :
    Except DecodeError α :=
  if t.value.length ≠ n then .error .invalidLength else f t.value

/-- The value that one byte names among those accepted. -/
def enumValue {α : Type} (toUInt8 : α → UInt8) (accepted : List α) (value : List UInt8) :
    Except DecodeError α :=
  match accepted.find? fun a => toUInt8 a == UInt8.ofNat (BigEndian.ofBytes value) with
  | none => .error .invalidContent
  | some a => .ok a

/-- The tie-breaker in five bytes. -/
def tieBreakerValue (value : List UInt8) : Except DecodeError TlvTieBreaker :=
  match [TlvTieBreakerMode.lowest, .highest, .nodeId].find? fun m => [m.toUInt8] == value.take 1 with
  | none => .error .invalidContent
  | some mode => .ok ⟨mode, if mode = .nodeId then
      UInt32.ofNat (BigEndian.ofBytes (value.drop 1)) else 0⟩

section Values

variable {α : Type} {mem : Nat → UInt8} {tlvIter : TlvIterator} {t : Tlv}

/-- Reading a part of the value. -/
theorem At.value {ε : Type} (h : At mem tlvIter t) (off n : Nat) (hle : off + n ≤ t.value.length) :
    (tlvIter.read mem (4 + off) n : Read ε _).result = .ok ((t.value.drop off).take n) ∧
      (tlvIter.read mem (4 + off) n : Read ε _).InBounds := by
  have hread := h.read (ε := ε) (4 + off) n (by rw [t.length_bytes]; omega)
  rwa [t.drop_bytes] at hread

/-- The decode functions for a number: test the length, read the value. -/
private theorem At.number (h : At mem tlvIter t) (n : Nat) (g : List UInt8 → α) :
    let m : Read DecodeError α := tlvIterGetLen mem tlvIter >>= fun optLen =>
      if optLen.toNat ≠ n then Read.fail .invalidLength
      else tlvIter.read mem 4 n >>= fun bytes => pure (g bytes)
    m.result = t.fixed n (fun value => .ok (g value)) ∧ m.InBounds := by
  obtain ⟨len, hres, hlen, hin⟩ := h.getLen (ε := DecodeError)
  dsimp only
  rw [Read.result_bind_ok hres, Read.inBounds_bind_ok hres, Tlv.fixed, hlen]
  by_cases hn : t.value.length = n
  · obtain ⟨hread, hinside⟩ := h.value (ε := DecodeError) 0 n (by omega)
    rw [List.drop_zero, List.take_of_length_le (by omega)] at hread
    rw [if_neg (not_not.mpr hn), if_neg (not_not.mpr hn), Read.result_bind_ok hread,
      Read.inBounds_bind_ok hread]
    exact ⟨rfl, hin, hinside, Read.inBounds_pure _⟩
  · rw [if_pos hn, if_pos hn]
    exact ⟨rfl, hin, Read.inBounds_fail _⟩

theorem At.u32 (h : At mem tlvIter t) :
    (tlvIterDecodeU32 mem tlvIter).result =
        t.fixed 4 (fun value => .ok (UInt32.ofNat (BigEndian.ofBytes value))) ∧
      (tlvIterDecodeU32 mem tlvIter).InBounds :=
  h.number 4 _

theorem At.u8 (h : At mem tlvIter t) :
    (tlvIterDecodeU8 mem tlvIter).result =
        t.fixed 1 (fun value => .ok (UInt8.ofNat (BigEndian.ofBytes value))) ∧
      (tlvIterDecodeU8 mem tlvIter).InBounds :=
  h.number 1 _

theorem At.u16 (h : At mem tlvIter t) :
    (tlvIterDecodeU16 mem tlvIter).result =
        t.fixed 2 (fun value => .ok (UInt16.ofNat (BigEndian.ofBytes value))) ∧
      (tlvIterDecodeU16 mem tlvIter).InBounds :=
  h.number 2 _

theorem At.u64 (h : At mem tlvIter t) :
    (tlvIterDecodeU64 mem tlvIter).result =
        t.fixed 8 (fun value => .ok (UInt64.ofNat (BigEndian.ofBytes value))) ∧
      (tlvIterDecodeU64 mem tlvIter).InBounds :=
  h.number 8 _

theorem At.enum (h : At mem tlvIter t) (toUInt8 : α → UInt8) (accepted : List α) :
    (tlvIterDecodeEnum mem tlvIter toUInt8 accepted).result =
        t.fixed 1 (enumValue toUInt8 accepted) ∧
      (tlvIterDecodeEnum mem tlvIter toUInt8 accepted).InBounds := by
  obtain ⟨hres, hin⟩ := h.u8
  by_cases hn : t.value.length = 1
  · rw [Tlv.fixed, if_neg (not_not.mpr hn)] at hres ⊢
    rw [tlvIterDecodeEnum, Read.result_bind_ok hres, Read.inBounds_bind_ok hres, enumValue]
    split
    · next hfind => simp only [hfind, Read.result_fail, Read.inBounds_fail, hin, and_self]
    · next a hfind => simp only [hfind, Read.result_pure, Read.inBounds_pure, hin, and_self]
  · rw [Tlv.fixed, if_pos hn] at hres ⊢
    rw [tlvIterDecodeEnum, Read.result_bind_error hres, Read.inBounds_bind_error hres]
    exact ⟨rfl, hin⟩

theorem At.str (h : At mem tlvIter t) :
    (tlvIterDecodeStr mem tlvIter).result = .ok t.value ∧
      (tlvIterDecodeStr mem tlvIter).InBounds := by
  obtain ⟨len, hres, hlen, hin⟩ := h.getLen (ε := DecodeError)
  obtain ⟨hread, hinside⟩ := h.value (ε := DecodeError) 0 t.value.length (by omega)
  rw [List.drop_zero, List.take_length] at hread
  rw [tlvIterDecodeStr, Read.result_bind_ok hres, Read.inBounds_bind_ok hres, hlen]
  exact ⟨hread, hin, hinside⟩

theorem At.u16Array (h : At mem tlvIter t) :
    (tlvIterDecodeU16Array mem tlvIter).result =
        (if t.value.length % 2 ≠ 0 then .error .invalidLength else .ok (ntohsArray t.value)) ∧
      (tlvIterDecodeU16Array mem tlvIter).InBounds := by
  obtain ⟨len, hres, hlen, hin⟩ := h.getLen (ε := DecodeError)
  rw [tlvIterDecodeU16Array, Read.result_bind_ok hres, Read.inBounds_bind_ok hres, hlen]
  by_cases hodd : t.value.length % 2 ≠ 0
  · rw [if_pos hodd, if_pos hodd]
    exact ⟨rfl, hin, Read.inBounds_fail _⟩
  · obtain ⟨hread, hinside⟩ := h.value (ε := DecodeError) 0 t.value.length (by omega)
    rw [List.drop_zero, List.take_length] at hread
    rw [if_neg hodd, if_neg hodd, Read.result_bind_ok hread, Read.inBounds_bind_ok hread]
    exact ⟨rfl, hin, hinside, Read.inBounds_pure _⟩

theorem At.ringId (h : At mem tlvIter t) :
    (tlvIterDecodeRingId mem tlvIter).result =
        t.fixed 12 (fun value => .ok ⟨UInt32.ofNat (BigEndian.ofBytes (value.take 4)),
          UInt64.ofNat (BigEndian.ofBytes (value.drop 4))⟩) ∧
      (tlvIterDecodeRingId mem tlvIter).InBounds := by
  obtain ⟨len, hres, hlen, hin⟩ := h.getLen (ε := DecodeError)
  rw [tlvIterDecodeRingId, Read.result_bind_ok hres, Read.inBounds_bind_ok hres, Tlv.fixed, hlen]
  by_cases hn : t.value.length = 12
  · obtain ⟨hread₁, hinside₁⟩ := h.value (ε := DecodeError) 0 4 (by omega)
    obtain ⟨hread₂, hinside₂⟩ := h.value (ε := DecodeError) 4 8 (by omega)
    rw [List.drop_zero] at hread₁
    rw [List.take_of_length_le (by rw [List.length_drop]; omega)] at hread₂
    rw [if_neg (not_not.mpr hn), if_neg (not_not.mpr hn), Read.result_bind_ok hread₁,
      Read.result_bind_ok hread₂, Read.inBounds_bind_ok hread₁, Read.inBounds_bind_ok hread₂]
    exact ⟨rfl, hin, hinside₁, hinside₂, Read.inBounds_pure _⟩
  · rw [if_pos hn, if_pos hn]
    exact ⟨rfl, hin, Read.inBounds_fail _⟩

theorem At.tieBreaker (h : At mem tlvIter t) :
    (tlvIterDecodeTieBreaker mem tlvIter).result = t.fixed 5 tieBreakerValue ∧
      (tlvIterDecodeTieBreaker mem tlvIter).InBounds := by
  obtain ⟨len, hres, hlen, hin⟩ := h.getLen (ε := DecodeError)
  rw [tlvIterDecodeTieBreaker, Read.result_bind_ok hres, Read.inBounds_bind_ok hres, Tlv.fixed, hlen]
  by_cases hn : t.value.length = 5
  · obtain ⟨hread₁, hinside₁⟩ := h.value (ε := DecodeError) 0 1 (by omega)
    obtain ⟨hread₂, hinside₂⟩ := h.value (ε := DecodeError) 1 4 (by omega)
    rw [List.drop_zero] at hread₁
    rw [List.take_of_length_le (by rw [List.length_drop]; omega)] at hread₂
    rw [if_neg (not_not.mpr hn), if_neg (not_not.mpr hn), Read.result_bind_ok hread₁,
      Read.inBounds_bind_ok hread₁, tieBreakerValue]
    cases [TlvTieBreakerMode.lowest, .highest, .nodeId].find? fun m =>
        [m.toUInt8] == t.value.take 1 with
    | none => exact ⟨rfl, hin, hinside₁, Read.inBounds_fail _⟩
    | some mode =>
      dsimp only
      rw [Read.result_bind_ok hread₂, Read.inBounds_bind_ok hread₂]
      exact ⟨rfl, hin, hinside₁, hinside₂, Read.inBounds_pure _⟩
  · rw [if_pos hn, if_pos hn]
    exact ⟨rfl, hin, Read.inBounds_fail _⟩

end Values

/-! ### One option of a sub-message -/

/-- An option alone in memory. -/
def Tlv.memory (t : Tlv) : Nat → UInt8 := msgMemory (fun _ => 0) t.bytes

/-- The iterator on an option alone in memory. -/
def Tlv.iter (t : Tlv) : TlvIterator :=
  { msg := 0, msgLen := t.bytes.length, msgHeaderLen := 0, iterNextCalled := true }

theorem holds_msgMemory (beyond : Nat → UInt8) (bytes : List UInt8) :
    Holds (msgMemory beyond bytes) 0 bytes := by
  apply List.ext_getElem
  · rw [Reads.length_slice]
  · intro i h₁ h₂
    simp [Reads.slice, msgMemory, h₂]

theorem Tlv.at_iter (t : Tlv) : At t.memory t.iter t where
  holds := holds_msgMemory _ _
  fits := Nat.le_of_eq (Nat.zero_add _)

/-- What the code makes of an option of a sub-message. -/
def Tlv.applyNodeInfo (t : Tlv) (nodeInfo : TlvNodeInfo) : Except DecodeError TlvNodeInfo :=
  (tlvNodeInfoOption t.memory t.iter nodeInfo).result

section Options

variable {mem mem' : Nat → UInt8} {tlvIter tlvIter' : TlvIterator} {t : Tlv}

private theorem nodeInfoOption_place (h : At mem tlvIter t) (h' : At mem' tlvIter' t)
    (nodeInfo : TlvNodeInfo) :
    (tlvNodeInfoOption mem tlvIter nodeInfo).result =
      (tlvNodeInfoOption mem' tlvIter' nodeInfo).result := by
  rw [tlvNodeInfoOption, tlvNodeInfoOption, Read.result_bind_ok h.getType.1,
    Read.result_bind_ok h'.getType.1]
  split <;> simp only [Read.result_bind, h.u32.1, h'.u32.1, tlvIterDecodeNodeState,
    (h.enum _ _).1, (h'.enum _ _).1, Read.result_pure]

theorem At.nodeInfoOption (h : At mem tlvIter t) (nodeInfo : TlvNodeInfo) :
    (tlvNodeInfoOption mem tlvIter nodeInfo).result = t.applyNodeInfo nodeInfo ∧
      (tlvNodeInfoOption mem tlvIter nodeInfo).InBounds := by
  refine ⟨nodeInfoOption_place h t.at_iter nodeInfo, ?_⟩
  rw [tlvNodeInfoOption, Read.inBounds_bind_ok h.getType.1]
  refine ⟨h.getType.2, ?_⟩
  split <;> simp only [Read.inBounds_bind_pure, h.u32.2, tlvIterDecodeNodeState, (h.enum _ _).2,
    Read.inBounds_pure]

/-- The content of an option of a sub-message is accepted. -/
def Tlv.AcceptedInNodeInfo (t : Tlv) : Prop :=
  ∃ nodeInfo, t.applyNodeInfo ⟨0, 0, .notSet⟩ = .ok nodeInfo

/-- Whether the content is accepted does not depend on what was decoded before. -/
theorem applyNodeInfo_isOk (t : Tlv) (nodeInfo nodeInfo' : TlvNodeInfo) :
    (∃ n, t.applyNodeInfo nodeInfo = .ok n) ↔ ∃ n, t.applyNodeInfo nodeInfo' = .ok n := by
  have hat := t.at_iter
  rw [Tlv.applyNodeInfo, Tlv.applyNodeInfo, tlvNodeInfoOption, tlvNodeInfoOption,
    Read.result_bind_ok hat.getType.1, Read.result_bind_ok hat.getType.1]
  split
  · simp only [Read.exists_ok_bind_pure]
  · simp only [Read.exists_ok_bind_pure]
  · simp only [Read.exists_ok_bind_pure]
  · exact ⟨fun _ => ⟨_, rfl⟩, fun _ => ⟨_, rfl⟩⟩

/-! ### The NODE_INFO option -/

/-- What the code makes of a sub-message. -/
def Tlv.nodeInfo (t : Tlv) : Except DecodeError TlvNodeInfo :=
  match decodeTlvs Tlv.applyNodeInfo t.value ⟨0, 0, .notSet⟩ with
  | .error failure => .error failure.1
  | .ok nodeInfo => if nodeInfo.nodeId = 0 then .error .invalidContent else .ok nodeInfo

/-- The headers of a sub-message fit. -/
def Tlv.NodeInfoFits (t : Tlv) : Prop :=
  HeadersFit Tlv.AcceptedInNodeInfo (fun _ => True) t.value

/-- The iterator `tlv_iter_decode_node_info` starts with, once it has moved to the first option. -/
private theorem At.standsInside (h : At mem tlvIter t) :
    Stands mem ⟨tlvIter.msg + (tlvIter.currentPos + 4), t.value.length, 0, 0, true⟩ t.value where
  holds := by
    have hright := h.holds.right
    rw [List.length_append, BigEndian.length_toBytes, BigEndian.length_toBytes] at hright
    rwa [Nat.add_zero, ← Nat.add_assoc]
  length := Nat.zero_add _

theorem At.decodeNodeInfo (h : At mem tlvIter t) :
    (tlvIterDecodeNodeInfo mem tlvIter).result = t.nodeInfo ∧
      ((tlvIterDecodeNodeInfo mem tlvIter).InBounds ↔ t.NodeInfoFits) := by
  obtain ⟨len, hres, hlen, hin⟩ := h.getLen (ε := DecodeError)
  have hfuel : t.value.length < t.value.length + 1 := Nat.lt_succ_self _
  have hresult := tlvIterWalk_result (fun _ _ n hat => (hat.nodeInfoOption n).1)
    h.standsInside rfl hfuel ⟨0, 0, .notSet⟩
  have hbounds := tlvIterWalk_inBounds Tlv.AcceptedInNodeInfo (fun _ => True)
    (fun _ t n hat => by rw [(hat.nodeInfoOption n).1]; exact applyNodeInfo_isOk t _ n)
    (fun _ _ n hat => iff_true_intro (hat.nodeInfoOption n).2)
    h.standsInside rfl hfuel ⟨0, 0, .notSet⟩
  rw [tlvIterDecodeNodeInfo, Read.result_bind_ok hres, Read.inBounds_bind_ok hres, hlen]
  dsimp only
  rw [tlvIterLoop_init, Tlv.nodeInfo, Tlv.NodeInfoFits, ← hresult, ← hbounds]
  generalize tlvIterWalk mem (tlvNodeInfoOption mem) (t.value.length + 1) _ _ = walk
  cases hwalk : walk.result with
  | error failure =>
    have herr : (walk.mapError fun failure => failure.1).result = .error failure.1 := by
      rw [Read.result_mapError, hwalk]
      rfl
    rw [Read.result_bind_error herr, Read.inBounds_bind_error herr, Read.inBounds_mapError]
    exact ⟨rfl, and_iff_right hin⟩
  | ok nodeInfo =>
    have hok : (walk.mapError fun failure => failure.1).result = .ok nodeInfo := by
      rw [Read.result_mapError, hwalk]
      rfl
    rw [Read.result_bind_ok hok, Read.inBounds_bind_ok hok, Read.inBounds_mapError]
    by_cases hzero : nodeInfo.nodeId = 0
    · simp only [hzero, if_true, Read.result_fail, Read.inBounds_fail, hin, and_true, true_and]
    · simp only [hzero, if_false, Read.result_pure, Read.inBounds_pure, hin, and_true, true_and]

/-! ### One option of a message -/

variable (t) in
/-- What the code makes of an option of a message. -/
def Tlv.applyOption (decodedMsg : MsgDecoded) : Except DecodeError MsgDecoded :=
  (msgDecodeOption t.memory t.iter decodedMsg).result

private theorem msgDecodeOption_place (h : At mem tlvIter t) (h' : At mem' tlvIter' t)
    (decodedMsg : MsgDecoded) :
    (msgDecodeOption mem tlvIter decodedMsg).result =
      (msgDecodeOption mem' tlvIter' decodedMsg).result := by
  rw [msgDecodeOption, msgDecodeOption, Read.result_bind_ok h.getType.1,
    Read.result_bind_ok h'.getType.1]
  unfold msgDecodeSwitch
  split <;> simp only [Read.result_bind, Read.result_pure, h.u32.1, h'.u32.1, h.u8.1, h'.u8.1,
    h.u16.1, h'.u16.1, h.u64.1, h'.u64.1, h.str.1, h'.str.1, h.u16Array.1, h'.u16Array.1,
    h.ringId.1, h'.ringId.1, h.tieBreaker.1, h'.tieBreaker.1, h.decodeNodeInfo.1,
    h'.decodeNodeInfo.1, tlvIterDecodeTlsSupported, tlvIterDecodeNodeState,
    tlvIterDecodeNodeListType, tlvIterDecodeVote, tlvIterDecodeQuorate, tlvIterDecodeHeuristics,
    tlvIterDecodeKeepActivePartitionTieBreaker, (h.enum _ _).1, (h'.enum _ _).1]

/-- The bytes read for an option of a message are inside it, unless it is a sub-message whose
    headers do not fit. -/
def Tlv.SubMessageFits (t : Tlv) : Prop :=
  t.type = TlvOptType.nodeInfo.toUInt16 → t.NodeInfoFits

theorem At.decodeOption (h : At mem tlvIter t) (decodedMsg : MsgDecoded) :
    (msgDecodeOption mem tlvIter decodedMsg).result = t.applyOption decodedMsg ∧
      ((msgDecodeOption mem tlvIter decodedMsg).InBounds ↔ t.SubMessageFits) := by
  refine ⟨msgDecodeOption_place h t.at_iter decodedMsg, ?_⟩
  have hin := h.getType (ε := DecodeError)
  rw [msgDecodeOption, Read.inBounds_bind_ok hin.1, Tlv.SubMessageFits]
  unfold msgDecodeSwitch
  cases htype : TlvOptType.ofUInt16? t.type with
  | none =>
    have hne : t.type ≠ TlvOptType.nodeInfo.toUInt16 := by
      intro heq
      rw [heq, TlvOptType.ofUInt16?_toUInt16] at htype
      cases htype
    simp only [hin.2, hne, Read.inBounds_pure, false_implies, and_self]
  | some optType =>
    have hnum : t.type = optType.toUInt16 := by
      have := List.find?_some htype
      exact (beq_iff_eq.mp this).symm
    rw [hnum]
    cases optType <;>
      simp [hin.2, h.u32.2, h.u8.2, h.u16.2, h.u64.2, h.str.2, h.u16Array.2, h.ringId.2,
        h.tieBreaker.2, h.decodeNodeInfo.2, tlvIterDecodeTlsSupported, tlvIterDecodeNodeState,
        tlvIterDecodeNodeListType, tlvIterDecodeVote, tlvIterDecodeQuorate,
        tlvIterDecodeHeuristics, tlvIterDecodeKeepActivePartitionTieBreaker, (h.enum _ _).2,
        TlvOptType.toUInt16]

/-- The content of an option of a message is accepted. -/
def Tlv.Accepted (t : Tlv) : Prop := ∃ decodedMsg, t.applyOption {} = .ok decodedMsg

/-- Whether the content is accepted does not depend on what was decoded before. -/
theorem applyOption_isOk (t : Tlv) (decodedMsg decodedMsg' : MsgDecoded) :
    (∃ d, t.applyOption decodedMsg = .ok d) ↔ ∃ d, t.applyOption decodedMsg' = .ok d := by
  have hat := t.at_iter
  rw [Tlv.applyOption, Tlv.applyOption, msgDecodeOption, msgDecodeOption,
    Read.result_bind_ok hat.getType.1, Read.result_bind_ok hat.getType.1]
  unfold msgDecodeSwitch
  split <;> simp only [Read.exists_ok_bind_pure, Read.result_pure, Except.ok.injEq, exists_eq']

end Options

end Qdevice
