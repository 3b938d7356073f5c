import Qdevice.Spec.MsgDecode

/-! # What the options that are added decode to

`Encodes m f some` says of code that appends options: whatever it appends, if it
succeeds, is a sequence of complete options, and decoding them changes a decoded message
by `f`.  There is one such fact for each `tlv_add` function that messages are made of;
they compose along the code of a `msg_create` function. -/

open Reads (Read)

namespace Qdevice

/-! ### Options as they are added -/

/-- What `tlv_add` appends: the type, the length, and as much of the value. -/
theorem tlvAdd_appends_take (optType : TlvOptType) (optLen : UInt16) (value : List UInt8) :
    (tlvAdd optType optLen value).Appends (BigEndian.toBytes 2 optType.toUInt16.toNat ++
      (BigEndian.toBytes 2 optLen.toNat ++ value.take optLen.toNat)) := by
  have hcheck : (tlvCheckRoom optLen).Appends [] := by
    refine .keep fun array array' hrun => ?_
    simp only [tlvCheckRoom] at hrun
    split at hrun
    · cases hrun
    · exact (congrArg Prod.snd hrun).symm
  exact hcheck.andThen ((DynarM.Appends.cat _).andThen ((DynarM.Appends.cat _).andThen (.cat _)))

/-- `tlv_add` appends an option, if the length it is given is the length of the value. -/
theorem tlvAdd_appends (t : Tlv) {optType : TlvOptType} {optLen : UInt16}
    (htype : t.type = optType.toUInt16) (hlen : optLen.toNat = t.value.length) :
    (tlvAdd optType optLen t.value).Appends t.bytes := by
  have happ := tlvAdd_appends_take optType optLen t.value
  rwa [hlen, List.take_length, ← List.append_assoc, ← htype] at happ

namespace Tlv

/-- A number of `width` bytes as an option. -/
def number (optType : TlvOptType) (width n : Nat) (h : width < 65536) : Tlv :=
  ⟨optType.toUInt16, BigEndian.toBytes width n, by rwa [BigEndian.length_toBytes]⟩

theorem number_fixed {α : Type} (optType : TlvOptType) (width n : Nat) (h : width < 65536)
    (f : List UInt8 → Except DecodeError α) :
    (number optType width n h).fixed width f = f (BigEndian.toBytes width n) := by
  have hlen : (number optType width n h).value.length = width := BigEndian.length_toBytes _ _
  rw [fixed, if_neg (not_not.mpr hlen)]
  rfl

end Tlv

/-- A byte as a number of one byte. -/
private theorem toBytes_one (u8 : UInt8) : BigEndian.toBytes 1 u8.toNat = [u8] := by
  simp [BigEndian.toBytes]

/-- Reading back an array of 16-bit numbers. -/
theorem ntohsArray_flatMap (array : List UInt16) :
    ntohsArray (array.flatMap fun u16 => BigEndian.toBytes 2 u16.toNat) = array := by
  induction array with
  | nil => rfl
  | cons n array ih =>
    have htwo : BigEndian.toBytes 2 n.toNat = [UInt8.ofNat (n.toNat / 256), UInt8.ofNat n.toNat] := rfl
    rw [List.flatMap_cons, htwo, List.cons_append, List.cons_append, List.nil_append, ntohsArray, ih,
      ← htwo, BigEndian.ofBytes_toBytes_of_lt n.toNat_lt, UInt16.ofNat_toNat]

theorem length_flatMap_toBytes (array : List UInt16) :
    (array.flatMap fun u16 => BigEndian.toBytes 2 u16.toNat).length = 2 * array.length := by
  induction array with
  | nil => rfl
  | cons n array ih =>
    rw [List.flatMap_cons, List.length_append, ih, BigEndian.length_toBytes, List.length_cons]
    omega

/-! ### Code that adds options -/

section Encodes

variable {α : Type}

/-- The code appends complete options; they are decoded to the change `f`, and there is at
    least one if `some` is set. -/
def Encodes (apply : Tlv → α → Except DecodeError α) (m : DynarM Unit) (f : α → α)
    (some : Bool) : Prop :=
  ∃ tlvs : List Tlv, m.Appends (tlvs.flatMap Tlv.bytes) ∧
    (∀ acc, tlvs.foldlM (fun acc t => apply t acc) acc = .ok (f acc)) ∧ (some = true → tlvs ≠ [])

namespace Encodes

variable {apply : Tlv → α → Except DecodeError α} {m m' : DynarM Unit} {f f' : α → α}
  {some some' : Bool}

theorem single (t : Tlv) (happ : m.Appends t.bytes) (hdec : ∀ acc, apply t acc = .ok (f acc)) :
    Encodes apply m f true := by
  refine ⟨[t], ?_, fun acc => ?_, fun _ => List.cons_ne_nil _ _⟩
  · rwa [List.flatMap_singleton]
  · rw [List.foldlM_cons, hdec]
    rfl

theorem andThen (h : Encodes apply m f some) (h' : Encodes apply m' f' some') :
    Encodes apply (m >>= fun _ => m') (fun acc => f' (f acc)) (some || some') := by
  obtain ⟨tlvs, happ, hdec, hne⟩ := h
  obtain ⟨tlvs', happ', hdec', hne'⟩ := h'
  refine ⟨tlvs ++ tlvs', ?_, fun acc => ?_, fun hor => ?_⟩
  · rw [List.flatMap_append]
    exact happ.andThen happ'
  · rw [List.foldlM_append, hdec]
    exact hdec' (f acc)
  · intro hnil
    obtain ⟨hnil, hnil'⟩ := List.append_eq_nil_iff.mp hnil
    rcases Bool.or_eq_true_iff.mp hor with hs | hs
    · exact hne hs hnil
    · exact hne' hs hnil'

theorem skip : Encodes apply (pure ()) (fun acc => acc) false :=
  ⟨[], .skip, fun _ => rfl, fun h => by cases h⟩

/-- An option that is only added under a condition. -/
theorem addIf {add : Prop} [Decidable add] (h : add → Encodes apply m f some) :
    Encodes apply (tlvAddIf add m) (fun acc => if add then f acc else acc) (decide add && some) := by
  by_cases hadd : add
  · simpa only [tlvAddIf, hadd, if_true, decide_true, Bool.true_and] using h hadd
  · simpa only [tlvAddIf, hadd, if_false, decide_false, Bool.false_and] using skip

end Encodes

end Encodes

/-! ### The options of a message -/

/-- Adding options to a message. -/
abbrev EncodesMsg := Encodes Tlv.applyOption

/-- The switch decides what is made of an option. -/
theorem applyOption_eq {t : Tlv} {optType : TlvOptType} (htype : t.type = optType.toUInt16)
    (decodedMsg : MsgDecoded) :
    t.applyOption decodedMsg =
      (msgDecodeSwitch t.memory t.iter (some optType) decodedMsg).result := by
  rw [Tlv.applyOption, msgDecodeOption, Read.result_bind_ok t.at_iter.getType.1, htype,
    TlvOptType.ofUInt16?_toUInt16]

namespace EncodesMsg

variable {α : Type} {optType : TlvOptType} {g : MsgDecoded → α → MsgDecoded} {m : DynarM Unit}

/-- An option decoded by `dec` to `a`. -/
theorem ofDecoder (optType : TlvOptType) (dec : (Nat → UInt8) → TlvIterator → Read DecodeError α)
    (hswitch : ∀ mem tlvIter d, msgDecodeSwitch mem tlvIter (some optType) d =
      dec mem tlvIter >>= fun a => pure (g d a))
    (t : Tlv) (htype : t.type = optType.toUInt16) (happ : m.Appends t.bytes) (a : α)
    (hdec : (dec t.memory t.iter).result = .ok a) : EncodesMsg m (fun d => g d a) true := by
  refine .single t happ fun d => ?_
  rw [applyOption_eq htype, hswitch, Read.result_bind_ok hdec]
  rfl

private theorem u32_appends (optType : TlvOptType) (n : UInt32) :
    (tlvAddU32 optType n).Appends (Tlv.number optType 4 n.toNat (by decide)).bytes :=
  tlvAdd_appends (Tlv.number optType 4 n.toNat (by decide)) rfl rfl

/-- Reading back a 32-bit number. -/
private theorem number_u32 (optType : TlvOptType) (n : UInt32) {t : Tlv}
    (ht : t = .number optType 4 n.toNat (by decide)) :
    (tlvIterDecodeU32 t.memory t.iter).result = .ok n := by
  rw [t.at_iter.u32.1, ht, Tlv.number_fixed, BigEndian.ofBytes_toBytes_of_lt n.toNat_lt,
    UInt32.ofNat_toNat]

/-- Reading back a value of an enumeration. -/
private theorem number_enum (optType : TlvOptType) (toUInt8 : α → UInt8) (accepted : List α) (a : α)
    (hacc : accepted.find? (fun b => toUInt8 b == toUInt8 a) = some a) {t : Tlv}
    (ht : t = .number optType 1 (toUInt8 a).toNat (by decide)) :
    (tlvIterDecodeEnum t.memory t.iter toUInt8 accepted).result = .ok a := by
  rw [(t.at_iter.enum toUInt8 accepted).1, ht, Tlv.number_fixed, enumValue,
    BigEndian.ofBytes_toBytes_of_lt (toUInt8 a).toNat_lt, UInt8.ofNat_toNat, hacc]

theorem u32 (optType : TlvOptType) (g : MsgDecoded → UInt32 → MsgDecoded) (n : UInt32)
    (hswitch : ∀ mem tlvIter d, msgDecodeSwitch mem tlvIter (some optType) d =
      tlvIterDecodeU32 mem tlvIter >>= fun a => pure (g d a)) :
    EncodesMsg (tlvAddU32 optType n) (fun d => g d n) true := by
  let t : Tlv := .number optType 4 n.toNat (by decide)
  refine ofDecoder optType tlvIterDecodeU32 hswitch t rfl (u32_appends optType n) n ?_
  exact number_u32 optType n rfl

theorem u16 (optType : TlvOptType) (g : MsgDecoded → UInt16 → MsgDecoded) (n : UInt16)
    (hswitch : ∀ mem tlvIter d, msgDecodeSwitch mem tlvIter (some optType) d =
      tlvIterDecodeU16 mem tlvIter >>= fun a => pure (g d a)) :
    EncodesMsg (tlvAddU16 optType n) (fun d => g d n) true := by
  let t : Tlv := .number optType 2 n.toNat (by decide)
  refine ofDecoder optType tlvIterDecodeU16 hswitch t rfl (tlvAdd_appends t rfl rfl) n ?_
  rw [t.at_iter.u16.1, Tlv.number_fixed, BigEndian.ofBytes_toBytes_of_lt n.toNat_lt,
    UInt16.ofNat_toNat]

theorem u64 (optType : TlvOptType) (g : MsgDecoded → UInt64 → MsgDecoded) (n : UInt64)
    (hswitch : ∀ mem tlvIter d, msgDecodeSwitch mem tlvIter (some optType) d =
      tlvIterDecodeU64 mem tlvIter >>= fun a => pure (g d a)) :
    EncodesMsg (tlvAddU64 optType n) (fun d => g d n) true := by
  let t : Tlv := .number optType 8 n.toNat (by decide)
  refine ofDecoder optType tlvIterDecodeU64 hswitch t rfl (tlvAdd_appends t rfl rfl) n ?_
  rw [t.at_iter.u64.1, Tlv.number_fixed, BigEndian.ofBytes_toBytes_of_lt n.toNat_lt,
    UInt64.ofNat_toNat]

/-- One byte added as an option. -/
private theorem u8_appends (optType : TlvOptType) (n : UInt8) :
    (tlvAddU8 optType n).Appends (Tlv.number optType 1 n.toNat (by decide)).bytes := by
  have happ : (tlvAdd optType 1 (BigEndian.toBytes 1 n.toNat)).Appends
      (Tlv.number optType 1 n.toNat (by decide)).bytes :=
    tlvAdd_appends (Tlv.number optType 1 n.toNat (by decide)) rfl rfl
  rwa [toBytes_one] at happ

theorem u8 (optType : TlvOptType) (g : MsgDecoded → UInt8 → MsgDecoded) (n : UInt8)
    (hswitch : ∀ mem tlvIter d, msgDecodeSwitch mem tlvIter (some optType) d =
      tlvIterDecodeU8 mem tlvIter >>= fun a => pure (g d a)) :
    EncodesMsg (tlvAddU8 optType n) (fun d => g d n) true := by
  let t : Tlv := .number optType 1 n.toNat (by decide)
  refine ofDecoder optType tlvIterDecodeU8 hswitch t rfl (u8_appends optType n) n ?_
  rw [t.at_iter.u8.1, Tlv.number_fixed, BigEndian.ofBytes_toBytes_of_lt n.toNat_lt,
    UInt8.ofNat_toNat]

/-- A value of an enumeration that the decoder accepts. -/
theorem enum (optType : TlvOptType) (g : MsgDecoded → α → MsgDecoded) (toUInt8 : α → UInt8)
    (accepted : List α) (a : α)
    (hswitch : ∀ mem tlvIter d, msgDecodeSwitch mem tlvIter (some optType) d =
      tlvIterDecodeEnum mem tlvIter toUInt8 accepted >>= fun a => pure (g d a))
    (hacc : accepted.find? (fun b => toUInt8 b == toUInt8 a) = some a) :
    EncodesMsg (tlvAddU8 optType (toUInt8 a)) (fun d => g d a) true := by
  let t : Tlv := .number optType 1 (toUInt8 a).toNat (by decide)
  refine ofDecoder optType (fun mem tlvIter => tlvIterDecodeEnum mem tlvIter toUInt8 accepted)
    hswitch t rfl (u8_appends optType _) a ?_
  exact number_enum optType toUInt8 accepted a hacc rfl

theorem clusterName (name : List UInt8) (hlen : name.length < 65536) (hnul : 0 ∉ name) :
    EncodesMsg (tlvAddClusterName name) (fun d => { d with clusterName := some name }) true := by
  let t : Tlv := ⟨TlvOptType.clusterName.toUInt16, name, hlen⟩
  refine ofDecoder .clusterName tlvIterDecodeStr (fun _ _ _ => rfl) t rfl ?_ name t.at_iter.str.1
  rw [tlvAddClusterName, tlvAddString, cString_eq hnul]
  exact tlvAdd_appends t rfl (UInt16.toNat_ofNat_of_lt' hlen)

/-- An array option, which is left out when there is nothing to send. -/
theorem array (optType : TlvOptType) (g : MsgDecoded → List UInt16 → MsgDecoded)
    (array : List UInt16)
    (hlen : array.length ≤ 32767)
    (hswitch : ∀ mem tlvIter d, msgDecodeSwitch mem tlvIter (some optType) d =
      tlvIterDecodeU16Array mem tlvIter >>= fun a => pure (g d a)) :
    EncodesMsg (msgAddArray optType array) (fun d => if array = [] then d else g d array) false := by
  by_cases hnil : array = []
  · simp only [msgAddArray, tlvAddIf, hnil, ne_eq, not_true_eq_false, if_false, if_true]
    exact .skip
  · simp only [msgAddArray, tlvAddIf, hnil, ne_eq, not_false_eq_true, if_true, if_false]
    have hbytes := length_flatMap_toBytes array
    let t : Tlv := ⟨optType.toUInt16, array.flatMap fun u16 => BigEndian.toBytes 2 u16.toNat,
      by omega⟩
    have happ : (tlvAddU16Array optType array).Appends t.bytes := by
      refine tlvAdd_appends t rfl ?_
      rw [UInt16.toNat_ofNat_of_lt' (by simp only [UInt16.size]; omega)]
      exact hbytes.symm
    obtain ⟨tlvs, happ, hdec, -⟩ := ofDecoder optType tlvIterDecodeU16Array hswitch t rfl happ array (by
      rw [t.at_iter.u16Array.1, hbytes, if_neg (by omega), ntohsArray_flatMap])
    exact ⟨tlvs, happ, hdec, fun h => by cases h⟩

theorem ringId (ringId : TlvRingId) :
    EncodesMsg (tlvAddRingId ringId) (fun d => { d with ringId := some ringId }) true := by
  let t : Tlv := ⟨TlvOptType.ringId.toUInt16,
    BigEndian.toBytes 4 ringId.nodeId.toNat ++ BigEndian.toBytes 8 ringId.seq.toNat, by simp⟩
  have hlen : (12 : UInt16).toNat = t.value.length := by simp [t]
  refine ofDecoder .ringId tlvIterDecodeRingId (fun _ _ _ => rfl) t rfl (tlvAdd_appends t rfl hlen)
    ringId ?_
  rw [t.at_iter.ringId.1, Tlv.fixed, if_neg (not_not.mpr (show t.value.length = 12 from hlen.symm))]
  dsimp only [t]
  rw [List.take_left' (BigEndian.length_toBytes 4 _), List.drop_left' (BigEndian.length_toBytes 4 _),
    BigEndian.ofBytes_toBytes_of_lt ringId.nodeId.toNat_lt,
    BigEndian.ofBytes_toBytes_of_lt ringId.seq.toNat_lt, UInt32.ofNat_toNat, UInt64.ofNat_toNat]


/-- The tie-breaker that is read back. -/
def sentTieBreaker (tieBreaker : TlvTieBreaker) : TlvTieBreaker :=
  ⟨tieBreaker.mode, if tieBreaker.mode = .nodeId then tieBreaker.nodeId else 0⟩

/-- It is the one that was sent, as far as `tlv_tie_breaker_eq` is concerned. -/
theorem tlvTieBreakerEq_sent (tieBreaker : TlvTieBreaker) :
    tlvTieBreakerEq (sentTieBreaker tieBreaker) tieBreaker = true := by
  by_cases hmode : tieBreaker.mode = .nodeId <;> simp [tlvTieBreakerEq, sentTieBreaker, hmode]

theorem tieBreaker (tieBreaker : TlvTieBreaker) (hmode : tieBreaker.mode ≠ .unset) :
    EncodesMsg (tlvAddTieBreaker tieBreaker)
      (fun d => { d with tieBreaker := some (sentTieBreaker tieBreaker) }) true := by
  let t : Tlv := ⟨TlvOptType.tieBreaker.toUInt16, [tieBreaker.mode.toUInt8] ++
    BigEndian.toBytes 4 (if tieBreaker.mode = .nodeId then tieBreaker.nodeId.toNat else 0), by simp⟩
  have hlen : (5 : UInt16).toNat = t.value.length := by simp [t]
  refine ofDecoder .tieBreaker tlvIterDecodeTieBreaker (fun _ _ _ => rfl) t rfl
    (tlvAdd_appends t rfl hlen) (sentTieBreaker tieBreaker) ?_
  have hfind : [TlvTieBreakerMode.lowest, .highest, .nodeId].find?
      (fun m => [m.toUInt8] == t.value.take 1) = some tieBreaker.mode := by
    have htake : t.value.take 1 = [tieBreaker.mode.toUInt8] := rfl
    rw [htake]
    cases hm : tieBreaker.mode with
    | unset => exact absurd hm hmode
    | lowest => rfl
    | highest => rfl
    | nodeId => rfl
  rw [t.at_iter.tieBreaker.1, Tlv.fixed,
    if_neg (not_not.mpr (show t.value.length = 5 from hlen.symm)), tieBreakerValue, hfind]
  dsimp only [t, sentTieBreaker]
  by_cases hm : tieBreaker.mode = .nodeId
  · rw [if_pos hm, if_pos hm, if_pos hm, List.singleton_append, List.drop_one, List.tail_cons,
      BigEndian.ofBytes_toBytes_of_lt tieBreaker.nodeId.toNat_lt, UInt32.ofNat_toNat]
  · rw [if_neg hm, if_neg hm]

/-! ### Node lists -/

/-- The options of a sub-message. -/
def nodeInfoTlvs (nodeInfo : TlvNodeInfo) : List Tlv :=
  [.number .nodeId 4 nodeInfo.nodeId.toNat (by decide)] ++
    ((if nodeInfo.dataCenterId ≠ 0 then
      [.number .dataCenterId 4 nodeInfo.dataCenterId.toNat (by decide)] else []) ++
    (if nodeInfo.nodeState ≠ .notSet then
      [.number .nodeState 1 nodeInfo.nodeState.toUInt8.toNat (by decide)] else []))

private theorem applyNodeInfo_nodeId (nodeId : UInt32) (nodeInfo : TlvNodeInfo) :
    (Tlv.number .nodeId 4 nodeId.toNat (by decide)).applyNodeInfo nodeInfo =
      .ok { nodeInfo with nodeId := nodeId } := by
  rw [Tlv.applyNodeInfo, tlvNodeInfoOption, Read.result_bind_ok (Tlv.at_iter _).getType.1]
  exact Read.result_bind_ok (number_u32 .nodeId nodeId rfl) _

private theorem applyNodeInfo_dataCenterId (dataCenterId : UInt32) (nodeInfo : TlvNodeInfo) :
    (Tlv.number .dataCenterId 4 dataCenterId.toNat (by decide)).applyNodeInfo nodeInfo =
      .ok { nodeInfo with dataCenterId := dataCenterId } := by
  rw [Tlv.applyNodeInfo, tlvNodeInfoOption, Read.result_bind_ok (Tlv.at_iter _).getType.1]
  exact Read.result_bind_ok (number_u32 .dataCenterId dataCenterId rfl) _

private theorem applyNodeInfo_nodeState (nodeState : TlvNodeState) (hset : nodeState ≠ .notSet)
    (nodeInfo : TlvNodeInfo) :
    (Tlv.number .nodeState 1 nodeState.toUInt8.toNat (by decide)).applyNodeInfo nodeInfo =
      .ok { nodeInfo with nodeState := nodeState } := by
  have hacc : [TlvNodeState.member, .dead, .leaving].find?
      (fun b => b.toUInt8 == nodeState.toUInt8) = some nodeState := by
    cases nodeState with
    | notSet => exact absurd rfl hset
    | member => rfl
    | dead => rfl
    | leaving => rfl
  rw [Tlv.applyNodeInfo, tlvNodeInfoOption, Read.result_bind_ok (Tlv.at_iter _).getType.1]
  exact Read.result_bind_ok
    (number_enum .nodeState TlvNodeState.toUInt8 [.member, .dead, .leaving] nodeState hacc rfl) _

/-- The sub-message is read back. -/
private theorem foldlM_nodeInfoTlvs (nodeInfo : TlvNodeInfo) :
    (nodeInfoTlvs nodeInfo).foldlM (fun acc t => t.applyNodeInfo acc) ⟨0, 0, .notSet⟩ =
      .ok nodeInfo := by
  have hdc : ∀ acc : TlvNodeInfo, acc.dataCenterId = 0 →
      (if nodeInfo.dataCenterId ≠ 0 then [Tlv.number .dataCenterId 4 nodeInfo.dataCenterId.toNat
        (by decide)] else []).foldlM (fun acc t => Tlv.applyNodeInfo t acc) acc =
      .ok { acc with dataCenterId := nodeInfo.dataCenterId } := by
    intro acc hzero
    by_cases h : nodeInfo.dataCenterId = 0
    · rw [if_neg (not_not.mpr h), h, ← hzero]
      rfl
    · rw [if_pos h, List.foldlM_cons, applyNodeInfo_dataCenterId]
      rfl
  have hstate : ∀ acc : TlvNodeInfo, acc.nodeState = .notSet →
      (if nodeInfo.nodeState ≠ .notSet then [Tlv.number .nodeState 1 nodeInfo.nodeState.toUInt8.toNat
        (by decide)] else []).foldlM (fun acc t => Tlv.applyNodeInfo t acc) acc =
      .ok { acc with nodeState := nodeInfo.nodeState } := by
    intro acc hzero
    by_cases h : nodeInfo.nodeState = .notSet
    · rw [if_neg (not_not.mpr h), h, ← hzero]
      rfl
    · rw [if_pos h, List.foldlM_cons, applyNodeInfo_nodeState _ h]
      rfl
  rw [nodeInfoTlvs, List.singleton_append, List.foldlM_cons, applyNodeInfo_nodeId]
  show List.foldlM _ _ _ = _
  rw [List.foldlM_append, hdc _ rfl]
  exact hstate _ rfl

private theorem length_nodeInfoTlvs (nodeInfo : TlvNodeInfo) :
    ((nodeInfoTlvs nodeInfo).flatMap Tlv.bytes).length ≤ 21 := by
  rw [nodeInfoTlvs]
  split <;> split <;> simp [Tlv.number]

/-- The sub-message is built from its options. -/
private theorem tlvNodeInfoOptions_appends (nodeInfo : TlvNodeInfo) :
    (tlvNodeInfoOptions nodeInfo).Appends ((nodeInfoTlvs nodeInfo).flatMap Tlv.bytes) := by
  have hite : ∀ (c : Prop) [Decidable c] (t : Tlv),
      (if c then [t] else []).flatMap Tlv.bytes = if c then t.bytes else [] := by
    intro c _ t
    split
    · rw [List.flatMap_singleton]
    · rfl
  rw [nodeInfoTlvs, List.flatMap_append, List.flatMap_append, List.flatMap_singleton, hite, hite]
  exact (u32_appends .nodeId nodeInfo.nodeId).andThen
    ((u32_appends .dataCenterId nodeInfo.dataCenterId).ite.andThen
      (u8_appends .nodeState nodeInfo.nodeState.toUInt8).ite)

theorem nodeInfo (nodeInfo : TlvNodeInfo) (hid : nodeInfo.nodeId ≠ 0) :
    EncodesMsg (tlvAddNodeInfo nodeInfo)
      (fun d => { d with nodes := d.nodes ++ [nodeInfo] }) true := by
  have hlen := length_nodeInfoTlvs nodeInfo
  let t : Tlv := ⟨TlvOptType.nodeInfo.toUInt16, (nodeInfoTlvs nodeInfo).flatMap Tlv.bytes, by omega⟩
  have happ : (tlvAddNodeInfo nodeInfo).Appends t.bytes := by
    rw [tlvAddNodeInfo]
    split
    · exact .fail
    · next optValue hrun =>
      obtain ⟨rfl, -⟩ := tlvNodeInfoOptions_appends nodeInfo _ _ hrun
      exact tlvAdd_appends t rfl (UInt16.toNat_ofNat_of_lt' t.fits)
  refine ofDecoder .nodeInfo tlvIterDecodeNodeInfo (fun _ _ _ => rfl) t rfl happ nodeInfo ?_
  have hne : nodeInfoTlvs nodeInfo ≠ [] := List.cons_ne_nil _ _
  rw [t.at_iter.decodeNodeInfo.1, Tlv.nodeInfo, decodeTlvs_flatMap hne (foldlM_nodeInfoTlvs nodeInfo)]
  exact if_neg hid

theorem nodes (nodes : NodeList) (hid : ∀ node ∈ nodes, node.nodeId ≠ 0) :
    EncodesMsg (nodes.forM tlvAddNodeInfo) (fun d => { d with nodes := d.nodes ++ nodes }) false := by
  induction nodes with
  | nil =>
    simp only [List.append_nil]
    exact .skip
  | cons node nodes ih =>
    obtain ⟨hnode, hnodes⟩ := List.forall_mem_cons.mp hid
    obtain ⟨tlvs, happ, hdec, -⟩ := (nodeInfo node hnode).andThen (ih hnodes)
    refine ⟨tlvs, happ, fun d => ?_, fun h => by cases h⟩
    rw [hdec]
    dsimp only
    rw [List.append_assoc, List.singleton_append]

/-! ### The other options -/

theorem msgSeqNumber (n : UInt32) :
    EncodesMsg (tlvAddMsgSeqNumber n) (fun d => { d with seqNumber := some n }) true :=
  u32 .msgSeqNumber (fun d n => { d with seqNumber := some n }) n fun _ _ _ => rfl

theorem tlsClientCertRequired (n : Nat) :
    EncodesMsg (tlvAddTlsClientCertRequired n)
      (fun d => { d with tlsClientCertRequired := some (UInt8.ofNat n) }) true :=
  u8 .tlsClientCertRequired (fun d n => { d with tlsClientCertRequired := some n })
    (UInt8.ofNat n) fun _ _ _ => rfl

theorem replyErrorCode (n : UInt16) :
    EncodesMsg (tlvAddReplyErrorCode n) (fun d => { d with replyErrorCode := some n }) true :=
  u16 .replyErrorCode (fun d n => { d with replyErrorCode := some n }) n fun _ _ _ => rfl

theorem serverMaximumRequestSize (n : Nat) :
    EncodesMsg (tlvAddServerMaximumRequestSize n)
      (fun d => { d with serverMaximumRequestSize := some (UInt32.ofNat n) }) true :=
  u32 .serverMaximumRequestSize (fun d n => { d with serverMaximumRequestSize := some n })
    (UInt32.ofNat n) fun _ _ _ => rfl

theorem serverMaximumReplySize (n : Nat) :
    EncodesMsg (tlvAddServerMaximumReplySize n)
      (fun d => { d with serverMaximumReplySize := some (UInt32.ofNat n) }) true :=
  u32 .serverMaximumReplySize (fun d n => { d with serverMaximumReplySize := some n })
    (UInt32.ofNat n) fun _ _ _ => rfl

theorem nodeId (n : UInt32) :
    EncodesMsg (tlvAddNodeId n) (fun d => { d with nodeId := some n }) true :=
  u32 .nodeId (fun d n => { d with nodeId := some n }) n fun _ _ _ => rfl

theorem decisionAlgorithm (n : UInt16) :
    EncodesMsg (tlvAddDecisionAlgorithm n) (fun d => { d with decisionAlgorithm := some n }) true :=
  u16 .decisionAlgorithm (fun d n => { d with decisionAlgorithm := some n }) n fun _ _ _ => rfl

theorem heartbeatInterval (n : UInt32) :
    EncodesMsg (tlvAddHeartbeatInterval n) (fun d => { d with heartbeatInterval := some n }) true :=
  u32 .heartbeatInterval (fun d n => { d with heartbeatInterval := some n }) n fun _ _ _ => rfl

theorem configVersion (n : UInt64) :
    EncodesMsg (tlvAddConfigVersion n) (fun d => { d with configVersion := some n }) true :=
  u64 .configVersion (fun d n => { d with configVersion := some n }) n fun _ _ _ => rfl

theorem tlsSupported (a : TlvTlsSupported) :
    EncodesMsg (tlvAddTlsSupported a) (fun d => { d with tlsSupported := some a }) true :=
  enum .tlsSupported (fun d a => { d with tlsSupported := some a }) TlvTlsSupported.toUInt8
    [.unsupported, .supported, .required] a (fun _ _ _ => rfl) (by cases a <;> rfl)

theorem nodeListType (a : TlvNodeListType) :
    EncodesMsg (tlvAddNodeListType a) (fun d => { d with nodeListType := some a }) true :=
  enum .nodeListType (fun d a => { d with nodeListType := some a }) TlvNodeListType.toUInt8
    [.initialConfig, .changedConfig, .membership, .quorum] a
    (fun _ _ _ => rfl) (by cases a <;> rfl)

theorem quorate (a : TlvQuorate) :
    EncodesMsg (tlvAddQuorate a) (fun d => { d with quorate := some a }) true :=
  enum .quorate (fun d a => { d with quorate := some a }) TlvQuorate.toUInt8 [.quorate, .inquorate] a
    (fun _ _ _ => rfl) (by cases a <;> rfl)

theorem keepActivePartitionTieBreaker (a : TlvKeepActivePartitionTieBreaker) :
    EncodesMsg (tlvAddKeepActivePartitionTieBreaker a)
      (fun d => { d with keepActivePartitionTieBreaker := some a }) true :=
  enum .keepActivePartitionTieBreaker (fun d a => { d with keepActivePartitionTieBreaker := some a })
    TlvKeepActivePartitionTieBreaker.toUInt8 [.disabled, .enabled] a
    (fun _ _ _ => rfl) (by cases a <;> rfl)

theorem vote (a : TlvVote) (hset : a ≠ .undefined) :
    EncodesMsg (tlvAddVote a) (fun d => { d with vote := some a }) true := by
  refine enum .vote (fun d a => { d with vote := some a }) TlvVote.toUInt8
    [.ack, .nack, .askLater, .waitForReply, .noChange] a (fun _ _ _ => rfl) ?_
  cases a with
  | undefined => exact absurd rfl hset
  | ack | nack | askLater | waitForReply | noChange => rfl

theorem heuristics (a : TlvHeuristics) (hset : a ≠ .undefined) :
    EncodesMsg (tlvAddHeuristics a) (fun d => { d with heuristics := a }) true := by
  rw [tlvAddHeuristics, if_neg hset]
  refine enum .heuristics (fun d a => { d with heuristics := a }) TlvHeuristics.toUInt8
    [.pass, .fail] a (fun _ _ _ => rfl) ?_
  cases a with
  | undefined => exact absurd rfl hset
  | pass | fail => rfl

end EncodesMsg

end Qdevice
