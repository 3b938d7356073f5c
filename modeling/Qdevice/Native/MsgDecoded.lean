import Qdevice.Native.NodeList

/-! # Decoded messages

`enum msg_type` and `struct msg_decoded` of `msg.h`.  A field with a `_set` flag (or
one that is a pointer) is an `Option`; `msg_decoded_init` zeroes the structure, so a
handler that reads an unset field reads zero. -/

namespace Qdevice

/-- `enum msg_type`. -/
inductive MsgType where
  | preinit
  | preinitReply
  | starttls
  | init
  | initReply
  | serverError
  | setOption
  | setOptionReply
  | echoRequest
  | echoReply
  | nodeList
  | nodeListReply
  | askForVote
  | askForVoteReply
  | voteInfo
  | voteInfoReply
  | heuristicsChange
  | heuristicsChangeReply
deriving DecidableEq

/-- The number in the message header. -/
def MsgType.toUInt16 : MsgType → UInt16
  | .preinit => 0
  | .preinitReply => 1
  | .starttls => 2
  | .init => 3
  | .initReply => 4
  | .serverError => 5
  | .setOption => 6
  | .setOptionReply => 7
  | .echoRequest => 8
  | .echoReply => 9
  | .nodeList => 10
  | .nodeListReply => 11
  | .askForVote => 12
  | .askForVoteReply => 13
  | .voteInfo => 14
  | .voteInfoReply => 15
  | .heuristicsChange => 16
  | .heuristicsChangeReply => 17

/-- `msg_static_supported_messages`, the message types the program knows. -/
def msgStaticSupportedMessages : List MsgType :=
  [.preinit, .preinitReply, .starttls, .init, .initReply, .serverError, .setOption,
    .setOptionReply, .echoRequest, .echoReply, .nodeList, .nodeListReply, .askForVote,
    .askForVoteReply, .voteInfo, .voteInfoReply, .heuristicsChange, .heuristicsChangeReply]

/-- The message type a header number names, if any. -/
def MsgType.ofUInt16? (type : UInt16) : Option MsgType :=
  msgStaticSupportedMessages.find? fun t => t.toUInt16 == type

theorem MsgType.ofUInt16?_toUInt16 (t : MsgType) : MsgType.ofUInt16? t.toUInt16 = some t := by
  cases t <;> rfl

/-- `struct msg_decoded`. -/
structure MsgDecoded where
  type : UInt16 := 0
  seqNumber : Option UInt32 := none
  clusterName : Option (List UInt8) := none
  tlsSupported : Option TlvTlsSupported := none
  tlsClientCertRequired : Option UInt8 := none
  supportedMessages : Option (List UInt16) := none
  supportedOptions : Option (List UInt16) := none
  replyErrorCode : Option UInt16 := none
  serverMaximumRequestSize : Option UInt32 := none
  serverMaximumReplySize : Option UInt32 := none
  nodeId : Option UInt32 := none
  supportedDecisionAlgorithms : Option (List UInt16) := none
  decisionAlgorithm : Option UInt16 := none
  heartbeatInterval : Option UInt32 := none
  ringId : Option TlvRingId := none
  configVersion : Option UInt64 := none
  dataCenterId : UInt32 := 0
  nodeState : TlvNodeState := .notSet
  nodes : NodeList := []
  nodeListType : Option TlvNodeListType := none
  vote : Option TlvVote := none
  quorate : Option TlvQuorate := none
  tieBreaker : Option TlvTieBreaker := none
  heuristics : TlvHeuristics := .undefined
  keepActivePartitionTieBreaker : Option TlvKeepActivePartitionTieBreaker := none
deriving DecidableEq

end Qdevice
