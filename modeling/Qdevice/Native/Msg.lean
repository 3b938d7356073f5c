import Qdevice.Native.MsgDecoded
import Qdevice.Native.Tlv

/-! # Messages

`msg.c`.  A message is a 2-byte type, a 4-byte length of what follows, and options.
The `msg_create` functions differ only in the type and in the options they add, so
they are one function applied to these.  `msg_decode` walks the options with an
iterator and fills in a `MsgDecoded`. -/

namespace Qdevice

open Reads (Read)

/-- `msg_get_header_length`. -/
def msgGetHeaderLength : Nat := 6

/-- `msg_add_type`. -/
def msgAddType (type : MsgType) : DynarM Unit :=
  dynarCat (BigEndian.toBytes 2 type.toUInt16.toNat)

/-- `msg_add_len`: the real value is set afterwards by `msgSetLen`. -/
def msgAddLen : DynarM Unit :=
  dynarCat (BigEndian.toBytes 4 0)

/-- `msg_set_len`. -/
def msgSetLen (msg : Dynar) (len : Nat) : Dynar :=
  { msg with data := msg.data.take 2 ++ BigEndian.toBytes 4 len ++ msg.data.drop 6 }

/-- `msg_set_type`, only used for the echo reply. -/
def msgSetType (msg : Dynar) (type : MsgType) : Dynar :=
  { msg with data := BigEndian.toBytes 2 type.toUInt16.toNat ++ msg.data.drop 2 }

/-- `msg_get_type` of a message with a complete header. -/
def msgGetType (msg : Dynar) : UInt16 := UInt16.ofNat (BigEndian.ofBytes (msg.data.take 2))

/-- `msg_get_len` of a message with a complete header. -/
def msgGetLen (msg : Dynar) : UInt32 :=
  UInt32.ofNat (BigEndian.ofBytes ((msg.data.drop 2).take 4))

/-- `msg_is_valid_msg_type`. -/
def msgIsValidMsgType (msg : Dynar) : Bool :=
  msgStaticSupportedMessages.any fun type => type.toUInt16 == msgGetType msg

/-! ### Creating messages -/

/-- The header, still without the length, and the options. -/
def msgAddAll (type : MsgType) (options : DynarM Unit) : DynarM Unit := do
  msgAddType type
  msgAddLen
  options

/-- The common part of the `msg_create` functions: the header, the options, and the length
    once it is known.  The value returned is the size of the message, or 0. -/
def msgCreate (type : MsgType) (options : DynarM Unit) (msg : Dynar) : Nat × Dynar :=
  match msgAddAll type options (dynarClean msg) with
  | (none, msg') => (0, msg')
  | (some (), msg') =>
    let msg'' := msgSetLen msg' (dynarSize msg' - (2 + 4))
    (dynarSize msg'', msg'')

/-- An array option that is left out when there is no array or it has no items. -/
def msgAddArray (optType : TlvOptType) (array : List UInt16) : DynarM Unit :=
  tlvAddIf (array ≠ []) (tlvAddU16Array optType array)

/-- `msg_create_preinit`. -/
def msgCreatePreinit (clusterName : List UInt8) (addMsgSeqNumber : Bool)
    (msgSeqNumber : UInt32) : Dynar → Nat × Dynar :=
  msgCreate .preinit do
    tlvAddIf addMsgSeqNumber (tlvAddMsgSeqNumber msgSeqNumber)
    tlvAddClusterName clusterName

/-- `msg_create_preinit_reply`. -/
def msgCreatePreinitReply (addMsgSeqNumber : Bool) (msgSeqNumber : UInt32)
    (tlsSupported : TlvTlsSupported) (tlsClientCertRequired : Nat) : Dynar → Nat × Dynar :=
  msgCreate .preinitReply do
    tlvAddIf addMsgSeqNumber (tlvAddMsgSeqNumber msgSeqNumber)
    tlvAddTlsSupported tlsSupported
    tlvAddTlsClientCertRequired tlsClientCertRequired

/-- `msg_create_starttls`. -/
def msgCreateStarttls (addMsgSeqNumber : Bool) (msgSeqNumber : UInt32) : Dynar → Nat × Dynar :=
  msgCreate .starttls (tlvAddIf addMsgSeqNumber (tlvAddMsgSeqNumber msgSeqNumber))

/-- `msg_create_server_error`. -/
def msgCreateServerError (addMsgSeqNumber : Bool) (msgSeqNumber : UInt32)
    (replyErrorCode : UInt16) : Dynar → Nat × Dynar :=
  msgCreate .serverError do
    tlvAddIf addMsgSeqNumber (tlvAddMsgSeqNumber msgSeqNumber)
    tlvAddReplyErrorCode replyErrorCode

/-- `msg_create_init`. -/
def msgCreateInit (addMsgSeqNumber : Bool) (msgSeqNumber : UInt32) (decisionAlgorithm : UInt16)
    (supportedMsgs supportedOpts : List UInt16) (nodeId heartbeatInterval : UInt32)
    (tieBreaker : TlvTieBreaker) (ringId : TlvRingId) : Dynar → Nat × Dynar :=
  msgCreate .init do
    tlvAddIf addMsgSeqNumber (tlvAddMsgSeqNumber msgSeqNumber)
    msgAddArray .supportedMessages supportedMsgs
    msgAddArray .supportedOptions supportedOpts
    tlvAddNodeId nodeId
    tlvAddDecisionAlgorithm decisionAlgorithm
    tlvAddHeartbeatInterval heartbeatInterval
    tlvAddTieBreaker tieBreaker
    tlvAddRingId ringId

/-- `msg_create_init_reply`. -/
def msgCreateInitReply (addMsgSeqNumber : Bool) (msgSeqNumber : UInt32) (replyErrorCode : UInt16)
    (supportedMsgs supportedOpts : List UInt16)
    (serverMaximumRequestSize serverMaximumReplySize : Nat)
    (supportedDecisionAlgorithms : List UInt16) : Dynar → Nat × Dynar :=
  msgCreate .initReply do
    tlvAddReplyErrorCode replyErrorCode
    msgAddArray .supportedMessages supportedMsgs
    msgAddArray .supportedOptions supportedOpts
    tlvAddIf addMsgSeqNumber (tlvAddMsgSeqNumber msgSeqNumber)
    tlvAddServerMaximumRequestSize serverMaximumRequestSize
    tlvAddServerMaximumReplySize serverMaximumReplySize
    msgAddArray .supportedDecisionAlgorithms supportedDecisionAlgorithms

/-- The options of `msg_create_set_option` and `msg_create_set_option_reply`. -/
def msgSetOptionOptions (addMsgSeqNumber : Bool) (msgSeqNumber : UInt32)
    (addHeartbeatInterval : Bool) (heartbeatInterval : UInt32)
    (addKeepActivePartitionTieBreaker : Bool)
    (keepActivePartitionTieBreaker : TlvKeepActivePartitionTieBreaker) : DynarM Unit := do
  tlvAddIf addMsgSeqNumber (tlvAddMsgSeqNumber msgSeqNumber)
  tlvAddIf addHeartbeatInterval (tlvAddHeartbeatInterval heartbeatInterval)
  tlvAddIf addKeepActivePartitionTieBreaker
    (tlvAddKeepActivePartitionTieBreaker keepActivePartitionTieBreaker)

/-- `msg_create_set_option`. -/
def msgCreateSetOption (addMsgSeqNumber : Bool) (msgSeqNumber : UInt32)
    (addHeartbeatInterval : Bool) (heartbeatInterval : UInt32)
    (addKeepActivePartitionTieBreaker : Bool)
    (keepActivePartitionTieBreaker : TlvKeepActivePartitionTieBreaker) : Dynar → Nat × Dynar :=
  msgCreate .setOption (msgSetOptionOptions addMsgSeqNumber msgSeqNumber addHeartbeatInterval
    heartbeatInterval addKeepActivePartitionTieBreaker keepActivePartitionTieBreaker)

/-- `msg_create_set_option_reply`. -/
def msgCreateSetOptionReply (addMsgSeqNumber : Bool) (msgSeqNumber : UInt32)
    (addHeartbeatInterval : Bool) (heartbeatInterval : UInt32)
    (addKeepActivePartitionTieBreaker : Bool)
    (keepActivePartitionTieBreaker : TlvKeepActivePartitionTieBreaker) : Dynar → Nat × Dynar :=
  msgCreate .setOptionReply (msgSetOptionOptions addMsgSeqNumber msgSeqNumber addHeartbeatInterval
    heartbeatInterval addKeepActivePartitionTieBreaker keepActivePartitionTieBreaker)

/-- `msg_create_echo_request`. -/
def msgCreateEchoRequest (addMsgSeqNumber : Bool) (msgSeqNumber : UInt32) : Dynar → Nat × Dynar :=
  msgCreate .echoRequest (tlvAddIf addMsgSeqNumber (tlvAddMsgSeqNumber msgSeqNumber))

/-- `msg_create_echo_reply`: the request with the type overwritten. -/
def msgCreateEchoReply (echoRequestMsg : Dynar) (msg : Dynar) : Nat × Dynar :=
  match dynarCat echoRequestMsg.data (dynarClean msg) with
  | (none, msg') => (0, msg')
  | (some (), msg') =>
    let msg'' := msgSetType msg' .echoReply
    (dynarSize msg'', msg'')

/-- `msg_create_node_list`. -/
def msgCreateNodeList (msgSeqNumber : UInt32) (nodeListType : TlvNodeListType)
    (addRingId : Bool) (ringId : TlvRingId) (addConfigVersion : Bool) (configVersion : UInt64)
    (addQuorate : Bool) (quorate : TlvQuorate) (addHeuristics : Bool) (heuristics : TlvHeuristics)
    (nodes : NodeList) : Dynar → Nat × Dynar :=
  msgCreate .nodeList do
    tlvAddMsgSeqNumber msgSeqNumber
    tlvAddNodeListType nodeListType
    tlvAddIf addRingId (tlvAddRingId ringId)
    tlvAddIf addConfigVersion (tlvAddConfigVersion configVersion)
    tlvAddIf addQuorate (tlvAddQuorate quorate)
    nodes.forM tlvAddNodeInfo
    tlvAddIf (addHeuristics ∧ heuristics ≠ .undefined) (tlvAddHeuristics heuristics)

/-- `msg_create_node_list_reply`. -/
def msgCreateNodeListReply (msgSeqNumber : UInt32) (nodeListType : TlvNodeListType)
    (ringId : TlvRingId) (vote : TlvVote) : Dynar → Nat × Dynar :=
  msgCreate .nodeListReply do
    tlvAddMsgSeqNumber msgSeqNumber
    tlvAddNodeListType nodeListType
    tlvAddRingId ringId
    tlvAddVote vote

/-- `msg_create_ask_for_vote`. -/
def msgCreateAskForVote (msgSeqNumber : UInt32) : Dynar → Nat × Dynar :=
  msgCreate .askForVote (tlvAddMsgSeqNumber msgSeqNumber)

/-- `msg_create_ask_for_vote_reply`. -/
def msgCreateAskForVoteReply (msgSeqNumber : UInt32) (ringId : TlvRingId) (vote : TlvVote) :
    Dynar → Nat × Dynar :=
  msgCreate .askForVoteReply do
    tlvAddMsgSeqNumber msgSeqNumber
    tlvAddVote vote
    tlvAddRingId ringId

/-- `msg_create_vote_info`. -/
def msgCreateVoteInfo (msgSeqNumber : UInt32) (ringId : TlvRingId) (vote : TlvVote) :
    Dynar → Nat × Dynar :=
  msgCreate .voteInfo do
    tlvAddMsgSeqNumber msgSeqNumber
    tlvAddVote vote
    tlvAddRingId ringId

/-- `msg_create_vote_info_reply`. -/
def msgCreateVoteInfoReply (msgSeqNumber : UInt32) : Dynar → Nat × Dynar :=
  msgCreate .voteInfoReply (tlvAddMsgSeqNumber msgSeqNumber)

/-- `msg_create_heuristics_change`. -/
def msgCreateHeuristicsChange (msgSeqNumber : UInt32) (heuristics : TlvHeuristics) :
    Dynar → Nat × Dynar :=
  msgCreate .heuristicsChange do
    tlvAddMsgSeqNumber msgSeqNumber
    tlvAddHeuristics heuristics

/-- `msg_create_heuristics_change_reply`. -/
def msgCreateHeuristicsChangeReply (msgSeqNumber : UInt32) (ringId : TlvRingId)
    (heuristics : TlvHeuristics) (vote : TlvVote) : Dynar → Nat × Dynar :=
  msgCreate .heuristicsChangeReply do
    tlvAddMsgSeqNumber msgSeqNumber
    tlvAddVote vote
    tlvAddRingId ringId
    tlvAddHeuristics heuristics

/-! ### Decoding -/

section Decode

variable (mem : Nat → UInt8) (tlvIter : TlvIterator)

/-- The switch of `msg_decode` on the type of the option the iterator stands on.  An option of
    an unknown type is ignored. -/
def msgDecodeSwitch (optType : Option TlvOptType) (decodedMsg : MsgDecoded) :
    Read DecodeError MsgDecoded :=
  match optType with
  | some .msgSeqNumber => do
    let u32 ← tlvIterDecodeU32 mem tlvIter
    pure { decodedMsg with seqNumber := some u32 }
  | some .clusterName => do
    let clusterName ← tlvIterDecodeStr mem tlvIter
    pure { decodedMsg with clusterName := some clusterName }
  | some .tlsSupported => do
    let tlsSupported ← tlvIterDecodeTlsSupported mem tlvIter
    pure { decodedMsg with tlsSupported := some tlsSupported }
  | some .tlsClientCertRequired => do
    let u8 ← tlvIterDecodeU8 mem tlvIter
    pure { decodedMsg with tlsClientCertRequired := some u8 }
  | some .supportedMessages => do
    let u16a ← tlvIterDecodeU16Array mem tlvIter
    pure { decodedMsg with supportedMessages := some u16a }
  | some .supportedOptions => do
    let u16a ← tlvIterDecodeU16Array mem tlvIter
    pure { decodedMsg with supportedOptions := some u16a }
  | some .replyErrorCode => do
    let u16 ← tlvIterDecodeU16 mem tlvIter
    pure { decodedMsg with replyErrorCode := some u16 }
  | some .serverMaximumRequestSize => do
    let u32 ← tlvIterDecodeU32 mem tlvIter
    pure { decodedMsg with serverMaximumRequestSize := some u32 }
  | some .serverMaximumReplySize => do
    let u32 ← tlvIterDecodeU32 mem tlvIter
    pure { decodedMsg with serverMaximumReplySize := some u32 }
  | some .nodeId => do
    let u32 ← tlvIterDecodeU32 mem tlvIter
    pure { decodedMsg with nodeId := some u32 }
  | some .supportedDecisionAlgorithms => do
    let u16a ← tlvIterDecodeU16Array mem tlvIter
    pure { decodedMsg with supportedDecisionAlgorithms := some u16a }
  | some .decisionAlgorithm => do
    let u16 ← tlvIterDecodeU16 mem tlvIter
    pure { decodedMsg with decisionAlgorithm := some u16 }
  | some .heartbeatInterval => do
    let u32 ← tlvIterDecodeU32 mem tlvIter
    pure { decodedMsg with heartbeatInterval := some u32 }
  | some .ringId => do
    let ringId ← tlvIterDecodeRingId mem tlvIter
    pure { decodedMsg with ringId := some ringId }
  | some .configVersion => do
    let u64 ← tlvIterDecodeU64 mem tlvIter
    pure { decodedMsg with configVersion := some u64 }
  | some .dataCenterId => do
    let u32 ← tlvIterDecodeU32 mem tlvIter
    pure { decodedMsg with dataCenterId := u32 }
  | some .nodeState => do
    let nodeState ← tlvIterDecodeNodeState mem tlvIter
    pure { decodedMsg with nodeState := nodeState }
  | some .nodeInfo => do
    let nodeInfo ← tlvIterDecodeNodeInfo mem tlvIter
    pure { decodedMsg with nodes := decodedMsg.nodes ++ [nodeInfo] }
  | some .nodeListType => do
    let nodeListType ← tlvIterDecodeNodeListType mem tlvIter
    pure { decodedMsg with nodeListType := some nodeListType }
  | some .vote => do
    let vote ← tlvIterDecodeVote mem tlvIter
    pure { decodedMsg with vote := some vote }
  | some .quorate => do
    let quorate ← tlvIterDecodeQuorate mem tlvIter
    pure { decodedMsg with quorate := some quorate }
  | some .tieBreaker => do
    let tieBreaker ← tlvIterDecodeTieBreaker mem tlvIter
    pure { decodedMsg with tieBreaker := some tieBreaker }
  | some .heuristics => do
    let heuristics ← tlvIterDecodeHeuristics mem tlvIter
    pure { decodedMsg with heuristics := heuristics }
  | some .keepActivePartitionTieBreaker => do
    let keepActivePartitionTb ← tlvIterDecodeKeepActivePartitionTieBreaker mem tlvIter
    pure { decodedMsg with keepActivePartitionTieBreaker := some keepActivePartitionTb }
  | none => pure decodedMsg

/-- One round of the loop of `msg_decode`. -/
def msgDecodeOption (decodedMsg : MsgDecoded) : Read DecodeError MsgDecoded := do
  let optType ← tlvIterGetType mem tlvIter
  msgDecodeSwitch mem tlvIter (TlvOptType.ofUInt16? optType) decodedMsg

end Decode

/-- The memory a message lies in: its own bytes, and `beyond` them whatever is there. -/
def msgMemory (beyond : Nat → UInt8) (msg : List UInt8) (address : Nat) : UInt8 :=
  msg.getD address (beyond address)

/-- `msg_decode`.  The error carries the fields decoded before it, as the structure the caller
    passed does. -/
def msgDecode (beyond : Nat → UInt8) (msg : Dynar) : Read (DecodeError × MsgDecoded) MsgDecoded := do
  let mem := msgMemory beyond msg.data
  let ntype ← Read.bytes mem 0 (dynarSize msg) 0 2
  let type := UInt16.ofNat (BigEndian.ofBytes ntype)
  tlvIterLoop mem (msgDecodeOption mem) (dynarSize msg + 2)
    (tlvIterInitStr 0 (dynarSize msg) msgGetHeaderLength) { type := type }

end Qdevice
