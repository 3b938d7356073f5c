import Qdevice.Native.QdeviceNetTimers

/-! # Messages from qnetd

`qdevice-net-msg-received.c`.  `true` is the return value 0, and `false` is -1, upon which the
connection is given up. -/

namespace Qdevice.Net

variable (env : NetEnv)

/-- `qdevice_net_msg_received_check_tls_compatibility`: `none` is -1. -/
def qdeviceNetMsgReceivedCheckTlsCompatibility (serverTls clientTls : TlvTlsSupported) :
    Option Bool :=
  match serverTls, clientTls with
  | .unsupported, .unsupported => some false
  | .unsupported, .supported => some false
  | .unsupported, .required => none
  | .supported, .unsupported => some false
  | .supported, .supported => some true
  | .supported, .required => some true
  | .required, .unsupported => none
  | .required, .supported => some true
  | .required, .required => some true

/-- `qdevice_net_msg_received_unexpected_msg`, which is all that there is for the messages of a
    client. -/
def qdeviceNetMsgReceivedUnexpectedMsg : NetM Bool := failWith .unexpectedMsg

/-- `qdevice_net_msg_check_seq_number`. -/
def qdeviceNetMsgCheckSeqNumber (net : NetInstance) (msg : MsgDecoded) : Bool :=
  msg.seqNumber = some net.lastMsgSeqNum

/-- `qdevice_net_msg_received_preinit_reply`. -/
def qdeviceNetMsgReceivedPreinitReply (msg : MsgDecoded) : NetM Bool := do
  let inst ← Prog.get
  if inst.net.state ≠ .waitingPreinitReply then return ← failWith .unexpectedMsg
  if qdeviceNetMsgCheckSeqNumber inst.net msg = false then
    return ← failWith .requiredOptionMissing
  match msg.tlsSupported, msg.tlsClientCertRequired with
  | some tlsSupported, some _ =>
    match qdeviceNetMsgReceivedCheckTlsCompatibility tlsSupported inst.net.tlsSupported with
    | none => failWith .incompatibleTls
    | some true =>
      modifyNet fun net => { net with negotiated := true }
      let ok ← qdeviceNetSendStarttls env
      if ok = false then return ← failWith .cantAllocateMsgBuffer
      return true
    | some false =>
      let ok ← qdeviceNetSendInit env
      if ok = false then return ← failWith .cantAllocateMsgBuffer
      return true
  | _, _ => failWith .requiredOptionMissing

/-- The reason for an error code in an init reply. -/
def initReplyReason (replyErrorCode : UInt16) : DisconnectReason :=
  if replyErrorCode = TlvReplyErrorCode.duplicateNodeId.toUInt16 then
    .serverSentDuplicateNodeIdError
  else if replyErrorCode = TlvReplyErrorCode.tieBreakerDiffersFromOtherNodes.toUInt16 then
    .serverSentTieBreakerDiffersFromOtherNodesError
  else if replyErrorCode = TlvReplyErrorCode.algorithmDiffersFromOtherNodes.toUInt16 then
    .serverSentAlgorithmDiffersFromOtherNodesError
  else .serverSentError

/-- `dynar_set_max_size` of the receive buffer and `send_buffer_list_set_max_buffer_size`. -/
def NetInstance.setMaxSizes (requestSize replySize : UInt32) (net : NetInstance) : NetInstance :=
  { net with
    reader := { net.reader with
      receiveBuffer := net.reader.receiveBuffer.setMaxSize (some replySize.toNat) }
    sendBufferList := { net.sendBufferList with maxBufferSize := requestSize.toNat }
    announced := some (requestSize, replySize) }

/-- The options and sizes of an init reply without an error code. -/
structure InitReplyOptions where
  requestSize : UInt32
  replySize : UInt32
  supportedOptions : List UInt16
  supportedDecisionAlgorithms : List UInt16

/-- The options that an init reply has to have. -/
def initReplyOptions (msg : MsgDecoded) : Option InitReplyOptions := do
  let requestSize ← msg.serverMaximumRequestSize
  let replySize ← msg.serverMaximumReplySize
  let _ ← msg.supportedMessages
  let supportedOptions ← msg.supportedOptions
  let supportedDecisionAlgorithms ← msg.supportedDecisionAlgorithms
  some ⟨requestSize, replySize, supportedOptions, supportedDecisionAlgorithms⟩

/-- What the end of `qdevice_net_msg_received_init_reply` does: the connect timer goes, and the
    rest is done when there is a result of the heuristics. -/
def initReplyAccepted : NetM Bool := do
  modifyNet fun net => { net with connectTimer := false }
  let scheduled ← qdeviceNetEchoRequestTimerSchedule env
  if scheduled = false then return false
  qdeviceNetHeuristicsExecAfterConnect

/-- `qdevice_net_msg_received_init_reply`, from where the buffer sizes change. -/
def initReplySizes (options : InitReplyOptions) : NetM Bool := do
  modifyNet (NetInstance.setMaxSizes options.requestSize options.replySize)
  let inst ← Prog.get
  if inst.net.decisionAlgorithm.toUInt16 ∉ options.supportedDecisionAlgorithms then
    return ← failWith .serverDoesntSupportRequiredAlgorithm
  modifyNet fun net => { net with
    serverSupportsHeuristics := TlvOptType.heuristics.toUInt16 ∈ options.supportedOptions
    serverSupportsKeepActivePartitionTieBreaker :=
      TlvOptType.keepActivePartitionTieBreaker.toUInt16 ∈ options.supportedOptions }
  if TlvOptType.heuristics.toUInt16 ∉ options.supportedOptions ∧
      (inst.heuristicsMode = .enabled ∨ inst.heuristicsMode = .sync) then
    return ← failWith .serverDoesntSupportRequiredOpt
  initReplyAccepted env

/-- `qdevice_net_msg_received_init_reply`. -/
def qdeviceNetMsgReceivedInitReply (msg : MsgDecoded) : NetM Bool := do
  let inst ← Prog.get
  if inst.net.state ≠ .waitingInitReply then return ← failWith .unexpectedMsg
  if qdeviceNetMsgCheckSeqNumber inst.net msg = false then
    return ← failWith .requiredOptionMissing
  match msg.replyErrorCode with
  | none => failWith .requiredOptionMissing
  | some replyErrorCode =>
    if replyErrorCode ≠ TlvReplyErrorCode.noError.toUInt16 then
      return ← failWith (initReplyReason replyErrorCode)
    match initReplyOptions msg with
    | none => failWith .requiredOptionMissing
    | some options =>
      if options.requestSize.toNat < inst.net.advancedSettings.netMinMsgSendSize then
        return ← failWith .incompatibleMsgSize
      if options.replySize.toNat > inst.net.advancedSettings.netMaxMsgReceiveSize then
        return ← failWith .incompatibleMsgSize
      initReplySizes env options

/-- `qdevice_net_msg_received_server_error`. -/
def qdeviceNetMsgReceivedServerError (msg : MsgDecoded) : NetM Bool :=
  failWith (if msg.replyErrorCode = none then .requiredOptionMissing else .serverSentError)

/-- `qdevice_net_msg_received_set_option_reply`. -/
def qdeviceNetMsgReceivedSetOptionReply (msg : MsgDecoded) : NetM Bool := do
  let inst ← Prog.get
  if inst.net.state ≠ .waitingVotequorumCmapEvents then return ← failWith .unexpectedMsg
  if msg.heartbeatInterval = none then return true
  qdeviceNetEchoRequestTimerSchedule env

/-- `qdevice_net_msg_received_echo_reply`. -/
def qdeviceNetMsgReceivedEchoReply (msg : MsgDecoded) : NetM Bool := do
  let inst ← Prog.get
  match msg.seqNumber with
  | none => failWith .requiredOptionMissing
  | some seqNumber =>
    if qdeviceNetAlgorithmEchoReplyReceived (seqNumber = inst.net.echoRequestExpectedMsgSeqNum)
        inst.net.decisionAlgorithm = false then
      return ← failWith .algoEchoReplyReceivedErr
    modifyNet fun net => { net with echoReplyReceivedMsgSeqNum := seqNumber }
    return true

/-- What the handlers of messages with a vote have in common.  `required` are the options that are
    needed beside the vote, the sequence number and the ring id, and `algoErr` is the reason if the
    algorithm fails. -/
def msgReceivedVote (required : Bool) (algoErr : DisconnectReason) (msg : MsgDecoded) :
    NetM Bool := do
  let inst ← Prog.get
  if inst.net.state ≠ .waitingVotequorumCmapEvents then return ← failWith .unexpectedMsg
  match msg.vote, msg.seqNumber, msg.ringId with
  | some vote, some _, some ringId =>
    if required = false then return ← failWith .requiredOptionMissing
    match algorithmVote (tlvRingIdEq ringId inst.net.lastSentRingId) vote
        inst.net.decisionAlgorithm with
    | none => failWith algoErr
    | some resultVote =>
      let ok ← qdeviceNetCastVoteTimerUpdate env resultVote (some ringId)
      if ok = false then return ← failWith .cantScheduleVotingTimer
      return true
  | _, _, _ => failWith .requiredOptionMissing

/-- `qdevice_net_msg_received_node_list_reply`. -/
def qdeviceNetMsgReceivedNodeListReply (msg : MsgDecoded) : NetM Bool :=
  msgReceivedVote env msg.nodeListType.isSome .algoNodeListReplyErr msg

/-- `qdevice_net_msg_received_ask_for_vote_reply`. -/
def qdeviceNetMsgReceivedAskForVoteReply (msg : MsgDecoded) : NetM Bool :=
  msgReceivedVote env true .algoAskForVoteReplyErr msg

/-- `qdevice_net_msg_received_heuristics_change_reply`. -/
def qdeviceNetMsgReceivedHeuristicsChangeReply (msg : MsgDecoded) : NetM Bool :=
  msgReceivedVote env (msg.heuristics ≠ .undefined) .algoHeuristicsChangeReplyErr msg

/-- `qdevice_net_msg_received_vote_info`, the only one of these that is answered. -/
def qdeviceNetMsgReceivedVoteInfo (msg : MsgDecoded) : NetM Bool := do
  let ok ← msgReceivedVote env true .algoVoteInfoErr msg
  if ok = false then return false
  let sent ← qdeviceNetSendVoteInfoReply env (msg.seqNumber.getD 0)
  if sent = false then return ← failWith .cantAllocateMsgBuffer
  return true

/-- The `switch` of `qdevice_net_msg_received`. -/
def qdeviceNetMsgReceivedSwitch (msg : MsgDecoded) : NetM Bool :=
  match MsgType.ofUInt16? msg.type with
  | some .preinitReply => qdeviceNetMsgReceivedPreinitReply env msg
  | some .serverError => qdeviceNetMsgReceivedServerError msg
  | some .initReply => qdeviceNetMsgReceivedInitReply env msg
  | some .setOptionReply => qdeviceNetMsgReceivedSetOptionReply env msg
  | some .echoReply => qdeviceNetMsgReceivedEchoReply msg
  | some .nodeListReply => qdeviceNetMsgReceivedNodeListReply env msg
  | some .askForVoteReply => qdeviceNetMsgReceivedAskForVoteReply env msg
  | some .voteInfo => qdeviceNetMsgReceivedVoteInfo env msg
  | some .heuristicsChangeReply => qdeviceNetMsgReceivedHeuristicsChangeReply env msg
  | some .init | some .preinit | some .starttls | some .setOption | some .echoRequest
  | some .nodeList | some .askForVote | some .voteInfoReply | some .heuristicsChange | none =>
    qdeviceNetMsgReceivedUnexpectedMsg

/-- `qdevice_net_msg_received`. -/
def qdeviceNetMsgReceived (msg : Dynar) : NetM Bool :=
  match (msgDecode env.beyond msg).result with
  | .error _ => failWith .msgDecodeError
  | .ok msg => qdeviceNetMsgReceivedSwitch env msg

end Qdevice.Net
