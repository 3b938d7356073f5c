import Qdevice.ForStd.BigEndian
import Qdevice.ForStd.Reads
import Qdevice.Native.Dynar
import Qdevice.Native.NodeList

/-! # Type-length-value options

`tlv.c`.  An option is a 2-byte type, a 2-byte length and the value, all integers
big-endian.  The `tlv_add` functions append one option to a buffer.  The iterator and
the decode functions read the message through a pointer and do not look at its size
before they read a length field, so they are `Read` computations: the memory goes on
behind the message, and every byte they look at is recorded with the length of the
message, or of the enclosing option value, that it should lie in. -/

namespace Qdevice

open Reads (Read)

/-- `enum tlv_opt_type`. -/
inductive TlvOptType where
  | msgSeqNumber
  | clusterName
  | tlsSupported
  | tlsClientCertRequired
  | supportedMessages
  | supportedOptions
  | replyErrorCode
  | serverMaximumRequestSize
  | serverMaximumReplySize
  | nodeId
  | supportedDecisionAlgorithms
  | decisionAlgorithm
  | heartbeatInterval
  | ringId
  | configVersion
  | dataCenterId
  | nodeState
  | nodeInfo
  | nodeListType
  | vote
  | quorate
  | tieBreaker
  | heuristics
  | keepActivePartitionTieBreaker
deriving DecidableEq

/-- The number on the wire. -/
def TlvOptType.toUInt16 : TlvOptType → UInt16
  | .msgSeqNumber => 0
  | .clusterName => 1
  | .tlsSupported => 2
  | .tlsClientCertRequired => 3
  | .supportedMessages => 4
  | .supportedOptions => 5
  | .replyErrorCode => 6
  | .serverMaximumRequestSize => 7
  | .serverMaximumReplySize => 8
  | .nodeId => 9
  | .supportedDecisionAlgorithms => 10
  | .decisionAlgorithm => 11
  | .heartbeatInterval => 12
  | .ringId => 13
  | .configVersion => 14
  | .dataCenterId => 15
  | .nodeState => 16
  | .nodeInfo => 17
  | .nodeListType => 18
  | .vote => 19
  | .quorate => 20
  | .tieBreaker => 21
  | .heuristics => 22
  | .keepActivePartitionTieBreaker => 23

/-- `tlv_static_supported_options`. -/
def tlvStaticSupportedOptions : List TlvOptType :=
  [.msgSeqNumber, .clusterName, .tlsSupported, .tlsClientCertRequired, .supportedMessages,
    .supportedOptions, .replyErrorCode, .serverMaximumRequestSize, .serverMaximumReplySize,
    .nodeId, .supportedDecisionAlgorithms, .decisionAlgorithm, .heartbeatInterval, .ringId,
    .configVersion, .dataCenterId, .nodeState, .nodeInfo, .nodeListType, .vote, .quorate,
    .tieBreaker, .heuristics, .keepActivePartitionTieBreaker]

/-- The option type a number names, if any. -/
def TlvOptType.ofUInt16? (type : UInt16) : Option TlvOptType :=
  tlvStaticSupportedOptions.find? fun t => t.toUInt16 == type

@[simp] theorem TlvOptType.ofUInt16?_toUInt16 (t : TlvOptType) :
    TlvOptType.ofUInt16? t.toUInt16 = some t := by
  cases t <;> rfl

/-! ### Numbers of the enumerations -/

/-- The number on the wire. -/
def TlvTlsSupported.toUInt8 : TlvTlsSupported → UInt8
  | .unsupported => 0
  | .supported => 1
  | .required => 2

/-- The number on the wire. -/
def TlvNodeState.toUInt8 : TlvNodeState → UInt8
  | .notSet => 0
  | .member => 1
  | .dead => 2
  | .leaving => 3

/-- The number on the wire. -/
def TlvNodeListType.toUInt8 : TlvNodeListType → UInt8
  | .initialConfig => 0
  | .changedConfig => 1
  | .membership => 2
  | .quorum => 3

/-- The number on the wire. -/
def TlvVote.toUInt8 : TlvVote → UInt8
  | .undefined => 0
  | .ack => 1
  | .nack => 2
  | .askLater => 3
  | .waitForReply => 4
  | .noChange => 5

/-- The number on the wire. -/
def TlvQuorate.toUInt8 : TlvQuorate → UInt8
  | .inquorate => 0
  | .quorate => 1

/-- The number on the wire. -/
def TlvTieBreakerMode.toUInt8 : TlvTieBreakerMode → UInt8
  | .unset => 0
  | .lowest => 1
  | .highest => 2
  | .nodeId => 3

/-- The number on the wire. -/
def TlvHeuristics.toUInt8 : TlvHeuristics → UInt8
  | .undefined => 0
  | .pass => 1
  | .fail => 2

/-- The number on the wire. -/
def TlvKeepActivePartitionTieBreaker.toUInt8 : TlvKeepActivePartitionTieBreaker → UInt8
  | .disabled => 0
  | .enabled => 1

/-! ### Adding options -/

/-- The size test of `tlv_add`, which comes first so that the three appends after it cannot
    fail one by one. -/
def tlvCheckRoom (optLen : UInt16) : DynarM Unit := fun msg =>
  if dynarSize msg + 2 + 2 + optLen.toNat > dynarMaxSize msg then (none, msg) else (some (), msg)

/-- `tlv_add`. -/
def tlvAdd (optType : TlvOptType) (optLen : UInt16) (value : List UInt8) : DynarM Unit := do
  tlvCheckRoom optLen
  dynarCat (BigEndian.toBytes 2 optType.toUInt16.toNat)
  dynarCat (BigEndian.toBytes 2 optLen.toNat)
  dynarCat (value.take optLen.toNat)

/-- `tlv_add_u32`. -/
def tlvAddU32 (optType : TlvOptType) (u32 : UInt32) : DynarM Unit :=
  tlvAdd optType 4 (BigEndian.toBytes 4 u32.toNat)

/-- `tlv_add_u8`. -/
def tlvAddU8 (optType : TlvOptType) (u8 : UInt8) : DynarM Unit :=
  tlvAdd optType 1 [u8]

/-- `tlv_add_u16`. -/
def tlvAddU16 (optType : TlvOptType) (u16 : UInt16) : DynarM Unit :=
  tlvAdd optType 2 (BigEndian.toBytes 2 u16.toNat)

/-- `tlv_add_u64`. -/
def tlvAddU64 (optType : TlvOptType) (u64 : UInt64) : DynarM Unit :=
  tlvAdd optType 8 (BigEndian.toBytes 8 u64.toNat)

/-- `tlv_add_string`.  `strlen` is cut to the 16 bits of `opt_len`. -/
def tlvAddString (optType : TlvOptType) (str : List UInt8) : DynarM Unit :=
  tlvAdd optType (UInt16.ofNat (cString str).length) (cString str)

/-- `tlv_add_msg_seq_number`. -/
def tlvAddMsgSeqNumber (msgSeqNumber : UInt32) : DynarM Unit :=
  tlvAddU32 .msgSeqNumber msgSeqNumber

/-- `tlv_add_cluster_name`. -/
def tlvAddClusterName (clusterName : List UInt8) : DynarM Unit :=
  tlvAddString .clusterName clusterName

/-- `tlv_add_tls_supported`. -/
def tlvAddTlsSupported (tlsSupported : TlvTlsSupported) : DynarM Unit :=
  tlvAddU8 .tlsSupported tlsSupported.toUInt8

/-- `tlv_add_tls_client_cert_required`: an `int` that is cut to a byte. -/
def tlvAddTlsClientCertRequired (tlsClientCertRequired : Nat) : DynarM Unit :=
  tlvAddU8 .tlsClientCertRequired (UInt8.ofNat tlsClientCertRequired)

/-- `tlv_add_u16_array`.  The length in bytes is cut to the 16 bits of `opt_len`. -/
def tlvAddU16Array (optType : TlvOptType) (array : List UInt16) : DynarM Unit :=
  tlvAdd optType (UInt16.ofNat (2 * array.length))
    (array.flatMap fun u16 => BigEndian.toBytes 2 u16.toNat)

/-- `tlv_add_supported_options`. -/
def tlvAddSupportedOptions (supportedOptions : List UInt16) : DynarM Unit :=
  tlvAddU16Array .supportedOptions supportedOptions

/-- `tlv_add_supported_decision_algorithms`. -/
def tlvAddSupportedDecisionAlgorithms (supportedAlgorithms : List UInt16) : DynarM Unit :=
  tlvAddU16Array .supportedDecisionAlgorithms supportedAlgorithms

/-- `tlv_add_reply_error_code`. -/
def tlvAddReplyErrorCode (errorCode : UInt16) : DynarM Unit :=
  tlvAddU16 .replyErrorCode errorCode

/-- `tlv_add_server_maximum_request_size`: a `size_t` that is cut to 32 bits. -/
def tlvAddServerMaximumRequestSize (serverMaximumRequestSize : Nat) : DynarM Unit :=
  tlvAddU32 .serverMaximumRequestSize (UInt32.ofNat serverMaximumRequestSize)

/-- `tlv_add_server_maximum_reply_size`: a `size_t` that is cut to 32 bits. -/
def tlvAddServerMaximumReplySize (serverMaximumReplySize : Nat) : DynarM Unit :=
  tlvAddU32 .serverMaximumReplySize (UInt32.ofNat serverMaximumReplySize)

/-- `tlv_add_node_id`. -/
def tlvAddNodeId (nodeId : UInt32) : DynarM Unit :=
  tlvAddU32 .nodeId nodeId

/-- `tlv_add_decision_algorithm`. -/
def tlvAddDecisionAlgorithm (decisionAlgorithm : UInt16) : DynarM Unit :=
  tlvAddU16 .decisionAlgorithm decisionAlgorithm

/-- `tlv_add_heartbeat_interval`. -/
def tlvAddHeartbeatInterval (heartbeatInterval : UInt32) : DynarM Unit :=
  tlvAddU32 .heartbeatInterval heartbeatInterval

/-- `tlv_add_ring_id`. -/
def tlvAddRingId (ringId : TlvRingId) : DynarM Unit :=
  tlvAdd .ringId 12
    (BigEndian.toBytes 4 ringId.nodeId.toNat ++ BigEndian.toBytes 8 ringId.seq.toNat)

/-- `tlv_add_tie_breaker`. -/
def tlvAddTieBreaker (tieBreaker : TlvTieBreaker) : DynarM Unit :=
  tlvAdd .tieBreaker 5
    ([tieBreaker.mode.toUInt8] ++
      BigEndian.toBytes 4 (if tieBreaker.mode = .nodeId then tieBreaker.nodeId.toNat else 0))

/-- `tlv_add_config_version`. -/
def tlvAddConfigVersion (configVersion : UInt64) : DynarM Unit :=
  tlvAddU64 .configVersion configVersion

/-- `tlv_add_data_center_id`. -/
def tlvAddDataCenterId (dataCenterId : UInt32) : DynarM Unit :=
  tlvAddU32 .dataCenterId dataCenterId

/-- `tlv_add_node_state`. -/
def tlvAddNodeState (nodeState : TlvNodeState) : DynarM Unit :=
  tlvAddU8 .nodeState nodeState.toUInt8

/-- An option that is only added under a condition. -/
def tlvAddIf (add : Prop) [Decidable add] (option : DynarM Unit) : DynarM Unit :=
  if add then option else pure ()

/-- The sub-message `tlv_add_node_info` builds. -/
def tlvNodeInfoOptions (nodeInfo : TlvNodeInfo) : DynarM Unit := do
  tlvAddNodeId nodeInfo.nodeId
  tlvAddIf (nodeInfo.dataCenterId ≠ 0) (tlvAddDataCenterId nodeInfo.dataCenterId)
  tlvAddIf (nodeInfo.nodeState ≠ .notSet) (tlvAddNodeState nodeInfo.nodeState)

/-- `tlv_add_node_info`: the sub-message is built in a buffer of its own. -/
def tlvAddNodeInfo (nodeInfo : TlvNodeInfo) : DynarM Unit :=
  match tlvNodeInfoOptions nodeInfo (dynarInit 1024) with
  | (none, _) => DynarM.fail
  | (some (), optValue) => tlvAdd .nodeInfo (UInt16.ofNat (dynarSize optValue)) optValue.data

/-- `tlv_add_node_list_type`. -/
def tlvAddNodeListType (nodeListType : TlvNodeListType) : DynarM Unit :=
  tlvAddU8 .nodeListType nodeListType.toUInt8

/-- `tlv_add_vote`. -/
def tlvAddVote (vote : TlvVote) : DynarM Unit :=
  tlvAddU8 .vote vote.toUInt8

/-- `tlv_add_quorate`. -/
def tlvAddQuorate (quorate : TlvQuorate) : DynarM Unit :=
  tlvAddU8 .quorate quorate.toUInt8

/-- `tlv_add_heuristics`. -/
def tlvAddHeuristics (heuristics : TlvHeuristics) : DynarM Unit :=
  if heuristics = .undefined then DynarM.fail else tlvAddU8 .heuristics heuristics.toUInt8

/-- `tlv_add_keep_active_partition_tie_breaker`. -/
def tlvAddKeepActivePartitionTieBreaker (enabled : TlvKeepActivePartitionTieBreaker) :
    DynarM Unit :=
  tlvAddU8 .keepActivePartitionTieBreaker enabled.toUInt8

/-! ### The iterator -/

/-- The error codes of `msg_decode` and of the decode functions: -1, -2, -3 and -4. -/
inductive DecodeError where
  | invalidLength
  | noMemory
  | inconsistentMsg
  | invalidContent
deriving DecidableEq

/-- `struct tlv_iterator`.  `msg` is the address of the buffer the iterator walks. -/
structure TlvIterator where
  msg : Nat
  msgLen : Nat
  currentPos : Nat := 0
  msgHeaderLen : Nat
  iterNextCalled : Bool := false

/-- `tlv_iter_init_str`. -/
def tlvIterInitStr (msg msgLen msgHeaderLen : Nat) : TlvIterator :=
  { msg := msg, msgLen := msgLen, msgHeaderLen := msgHeaderLen }

section Iterator

variable {ε : Type} (mem : Nat → UInt8) (tlvIter : TlvIterator)

/-- Read bytes at an offset from the current position. -/
def TlvIterator.read (off n : Nat) : Read ε (List UInt8) :=
  Read.bytes mem tlvIter.msg tlvIter.msgLen (tlvIter.currentPos + off) n

/-- `tlv_iter_get_type`. -/
def tlvIterGetType : Read ε UInt16 := do
  let ntype ← tlvIter.read mem 0 2
  pure (UInt16.ofNat (BigEndian.ofBytes ntype))

/-- `tlv_iter_get_len`. -/
def tlvIterGetLen : Read ε UInt16 := do
  let nlen ← tlvIter.read mem 2 2
  pure (UInt16.ofNat (BigEndian.ofBytes nlen))

/-- What `tlv_iter_next` returns: 1, 0 and -1. -/
inductive TlvNext where
  | option
  | finished
  | invalid
deriving DecidableEq

/-- The test after the label `check_tlv_validity`. -/
def tlvIterCheckTlvValidity : Read ε (TlvNext × TlvIterator) := do
  let len ← tlvIterGetLen mem tlvIter
  if tlvIter.currentPos + 2 + 2 + len.toNat > tlvIter.msgLen then
    pure (.invalid, tlvIter)
  else
    pure (.option, tlvIter)

/-- `tlv_iter_next`. -/
def tlvIterNext : Read ε (TlvNext × TlvIterator) := do
  if tlvIter.iterNextCalled = false then
    tlvIterCheckTlvValidity mem
      { tlvIter with iterNextCalled := true, currentPos := tlvIter.msgHeaderLen }
  else
    let len ← tlvIterGetLen mem tlvIter
    if tlvIter.currentPos + 2 + 2 + len.toNat ≥ tlvIter.msgLen then
      pure (.finished, tlvIter)
    else
      tlvIterCheckTlvValidity mem
        { tlvIter with currentPos := tlvIter.currentPos + 2 + 2 + len.toNat }

/-! ### Decoding one option -/

/-- `tlv_iter_decode_u32`. -/
def tlvIterDecodeU32 : Read DecodeError UInt32 := do
  let optLen ← tlvIterGetLen mem tlvIter
  if optLen.toNat ≠ 4 then Read.fail .invalidLength
  else
    let nu32 ← tlvIter.read mem 4 4
    pure (UInt32.ofNat (BigEndian.ofBytes nu32))

/-- `tlv_iter_decode_u8`, also `tlv_iter_decode_client_cert_required`. -/
def tlvIterDecodeU8 : Read DecodeError UInt8 := do
  let optLen ← tlvIterGetLen mem tlvIter
  if optLen.toNat ≠ 1 then Read.fail .invalidLength
  else
    let res ← tlvIter.read mem 4 1
    pure (UInt8.ofNat (BigEndian.ofBytes res))

/-- `tlv_iter_decode_str`. -/
def tlvIterDecodeStr : Read DecodeError (List UInt8) := do
  let optLen ← tlvIterGetLen mem tlvIter
  tlvIter.read mem 4 optLen.toNat

/-- The 16-bit numbers of a byte string of even length. -/
def ntohsArray : List UInt8 → List UInt16
  | b₁ :: b₂ :: bytes => UInt16.ofNat (BigEndian.ofBytes [b₁, b₂]) :: ntohsArray bytes
  | _ => []

/-- `tlv_iter_decode_u16_array`, also `tlv_iter_decode_supported_options` and
    `tlv_iter_decode_supported_decision_algorithms`. -/
def tlvIterDecodeU16Array : Read DecodeError (List UInt16) := do
  let optLen ← tlvIterGetLen mem tlvIter
  if optLen.toNat % 2 ≠ 0 then Read.fail .invalidLength
  else
    let u16a ← tlvIter.read mem 4 optLen.toNat
    pure (ntohsArray u16a)

/-- `tlv_iter_decode_u16`, also `tlv_iter_decode_decision_algorithm` and
    `tlv_iter_decode_reply_error_code` (on a little-endian host, where the two bytes written
    through a cast pointer are the low half of the zeroed `enum`). -/
def tlvIterDecodeU16 : Read DecodeError UInt16 := do
  let optLen ← tlvIterGetLen mem tlvIter
  if optLen.toNat ≠ 2 then Read.fail .invalidLength
  else
    let nu16 ← tlvIter.read mem 4 2
    pure (UInt16.ofNat (BigEndian.ofBytes nu16))

/-- `tlv_iter_decode_u64`. -/
def tlvIterDecodeU64 : Read DecodeError UInt64 := do
  let optLen ← tlvIterGetLen mem tlvIter
  if optLen.toNat ≠ 8 then Read.fail .invalidLength
  else
    let nu64 ← tlvIter.read mem 4 8
    pure (UInt64.ofNat (BigEndian.ofBytes nu64))

/-- A one-byte option that must be among the given values. -/
def tlvIterDecodeEnum {α : Type} (toUInt8 : α → UInt8) (accepted : List α) :
    Read DecodeError α := do
  let u8 ← tlvIterDecodeU8 mem tlvIter
  match accepted.find? fun a => toUInt8 a == u8 with
  | none => Read.fail .invalidContent
  | some a => pure a

/-- `tlv_iter_decode_tls_supported`. -/
def tlvIterDecodeTlsSupported : Read DecodeError TlvTlsSupported :=
  tlvIterDecodeEnum mem tlvIter TlvTlsSupported.toUInt8 [.unsupported, .supported, .required]

/-- `tlv_iter_decode_ring_id`. -/
def tlvIterDecodeRingId : Read DecodeError TlvRingId := do
  let optLen ← tlvIterGetLen mem tlvIter
  if optLen.toNat ≠ 12 then Read.fail .invalidLength
  else
    let nu32 ← tlvIter.read mem 4 4
    let nu64 ← tlvIter.read mem 8 8
    pure ⟨UInt32.ofNat (BigEndian.ofBytes nu32), UInt64.ofNat (BigEndian.ofBytes nu64)⟩

/-- `tlv_iter_decode_tie_breaker`. -/
def tlvIterDecodeTieBreaker : Read DecodeError TlvTieBreaker := do
  let optLen ← tlvIterGetLen mem tlvIter
  if optLen.toNat ≠ 5 then Read.fail .invalidLength
  else
    let u8 ← tlvIter.read mem 4 1
    match [TlvTieBreakerMode.lowest, .highest, .nodeId].find? fun m => [m.toUInt8] == u8 with
    | none => Read.fail .invalidContent
    | some mode =>
      let nu32 ← tlvIter.read mem 5 4
      pure ⟨mode, if mode = .nodeId then UInt32.ofNat (BigEndian.ofBytes nu32) else 0⟩

/-- `tlv_iter_decode_node_state`. -/
def tlvIterDecodeNodeState : Read DecodeError TlvNodeState :=
  tlvIterDecodeEnum mem tlvIter TlvNodeState.toUInt8 [.member, .dead, .leaving]

/-- One option of a sub-message; others than these three are not processed. -/
def tlvNodeInfoOption (nodeInfo : TlvNodeInfo) : Read DecodeError TlvNodeInfo := do
  let optType ← tlvIterGetType mem tlvIter
  match TlvOptType.ofUInt16? optType with
  | some .nodeId => do
    let nodeId ← tlvIterDecodeU32 mem tlvIter
    pure { nodeInfo with nodeId := nodeId }
  | some .dataCenterId => do
    let dataCenterId ← tlvIterDecodeU32 mem tlvIter
    pure { nodeInfo with dataCenterId := dataCenterId }
  | some .nodeState => do
    let nodeState ← tlvIterDecodeNodeState mem tlvIter
    pure { nodeInfo with nodeState := nodeState }
  | _ => pure nodeInfo

/-- The loop of the decoders over an iterator: `step` decodes the option the iterator stands
    on, and the end of the message is an error if the iterator found no complete option.
    The position grows at every step, so the length of the buffer is more than enough
    `fuel`. -/
def tlvIterLoop {α : Type} (step : TlvIterator → α → Read DecodeError α) :
    (fuel : Nat) → TlvIterator → α → Read (DecodeError × α) α
  | 0, _, acc => Read.fail (.inconsistentMsg, acc)
  | fuel + 1, tlvIter, acc => do
    let (next, tlvIter') ← tlvIterNext mem tlvIter
    match next with
    | .option =>
      let acc' ← (step tlvIter' acc).mapError fun e => (e, acc)
      tlvIterLoop step fuel tlvIter' acc'
    | .finished => pure acc
    | .invalid => Read.fail (.inconsistentMsg, acc)

/-- `tlv_iter_decode_node_info`: the value is walked by an iterator of its own. -/
def tlvIterDecodeNodeInfo : Read DecodeError TlvNodeInfo := do
  let optLen ← tlvIterGetLen mem tlvIter
  let dataTlvIter := tlvIterInitStr (tlvIter.msg + (tlvIter.currentPos + 4)) optLen.toNat 0
  let nodeInfo ← (tlvIterLoop mem (tlvNodeInfoOption mem) (optLen.toNat + 2) dataTlvIter
    ⟨0, 0, .notSet⟩).mapError fun failure => failure.1
  if nodeInfo.nodeId = 0 then Read.fail .invalidContent else pure nodeInfo

/-- `tlv_iter_decode_node_list_type`. -/
def tlvIterDecodeNodeListType : Read DecodeError TlvNodeListType :=
  tlvIterDecodeEnum mem tlvIter TlvNodeListType.toUInt8
    [.initialConfig, .changedConfig, .membership, .quorum]

/-- `tlv_iter_decode_vote`. -/
def tlvIterDecodeVote : Read DecodeError TlvVote :=
  tlvIterDecodeEnum mem tlvIter TlvVote.toUInt8 [.ack, .nack, .askLater, .waitForReply, .noChange]

/-- `tlv_iter_decode_quorate`. -/
def tlvIterDecodeQuorate : Read DecodeError TlvQuorate :=
  tlvIterDecodeEnum mem tlvIter TlvQuorate.toUInt8 [.quorate, .inquorate]

/-- `tlv_iter_decode_heuristics`. -/
def tlvIterDecodeHeuristics : Read DecodeError TlvHeuristics :=
  tlvIterDecodeEnum mem tlvIter TlvHeuristics.toUInt8 [.pass, .fail]

/-- `tlv_iter_decode_keep_active_partition_tie_breaker`. -/
def tlvIterDecodeKeepActivePartitionTieBreaker :
    Read DecodeError TlvKeepActivePartitionTieBreaker :=
  tlvIterDecodeEnum mem tlvIter TlvKeepActivePartitionTieBreaker.toUInt8 [.disabled, .enabled]

end Iterator

end Qdevice
