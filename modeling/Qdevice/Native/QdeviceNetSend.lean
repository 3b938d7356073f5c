import Qdevice.Native.QdeviceNetInstance

/-! # Messages to qnetd

`qdevice-net-send.c`.  Each function takes a buffer from the send list, counts up a sequence
number, fills the buffer and puts it into the list. -/

namespace Qdevice.Net

variable (env : NetEnv)

/-- `send_buffer_list_get_new`.  A `malloc` that fails is counted all the same. -/
def sendBufferListGetNewMalloc (malloc : Bool) (sblist : SendBufferList) :
    Option SendBufferListEntry × SendBufferList :=
  let entry : SendBufferListEntry := { buffer := dynarInit sblist.maxBufferSize }
  if 0 < sblist.freeList then (some entry, { sblist with freeList := sblist.freeList - 1 })
  else if sblist.allocatedListEntries + 1 > sblist.maxListEntries then (none, sblist)
  else
    (if malloc then some entry else none,
      { sblist with allocatedListEntries := sblist.allocatedListEntries + 1 })

/-- What the functions of this file have in common.  `count` is done once there is a buffer, and
    `done` once the message is in it. -/
def qdeviceNetSend (msg : NetMsg) (count done : NetInstance → NetInstance)
    (create : NetInstance → Dynar → Nat × Dynar) : NetM Bool := do
  let inst ← Prog.get
  let alloc := env.sendAlloc msg
  match sendBufferListGetNewMalloc alloc.malloc inst.net.sendBufferList with
  | (none, sblist) =>
    modifyNet fun net => { net with sendBufferList := sblist }
    return false
  | (some entry, sblist) =>
    let net := count inst.net
    let (size, buffer) := create net entry.buffer
    if size = 0 ∨ alloc.realloc = false then
      modifyNet fun _ => { net with sendBufferList := sendBufferListDiscardNew sblist }
      return false
    else
      modifyNet fun _ => { done net with
        sendBufferList := sendBufferListPut sblist { entry with buffer := buffer } }
      return true

/-- Most messages get the next number. -/
def countMsg (net : NetInstance) : NetInstance := { net with lastMsgSeqNum := net.lastMsgSeqNum + 1 }

/-- `qdevice_net_send_echo_request`. -/
def qdeviceNetSendEchoRequest : NetM Bool :=
  qdeviceNetSend env .echoRequest
    (fun net => { net with
      echoRequestExpectedMsgSeqNum := net.echoRequestExpectedMsgSeqNum + 1 })
    id fun net => msgCreateEchoRequest true net.echoRequestExpectedMsgSeqNum

/-- `qdevice_net_send_preinit`. -/
def qdeviceNetSendPreinit : NetM Bool :=
  qdeviceNetSend env .preinit id (fun net => { net with state := .waitingPreinitReply })
    fun net => msgCreatePreinit net.clusterName true net.lastMsgSeqNum

/-- `qdevice_net_send_init`.  This message is counted before there is a buffer. -/
def qdeviceNetSendInit : NetM Bool := do
  modifyNet countMsg
  let inst ← Prog.get
  qdeviceNetSend env .init id
    (fun net => { net with lastSentRingId := inst.vqNodeListRingId, state := .waitingInitReply })
    fun net => msgCreateInit true net.lastMsgSeqNum net.decisionAlgorithm.toUInt16
      (msgStaticSupportedMessages.map MsgType.toUInt16)
      (tlvStaticSupportedOptions.map TlvOptType.toUInt16) inst.nodeId net.heartbeatInterval
      net.tieBreaker inst.vqNodeListRingId

/-- The STARTTLS message, which `qdevice_net_msg_received_preinit_reply` creates itself. -/
def qdeviceNetSendStarttls : NetM Bool :=
  qdeviceNetSend env .starttls countMsg
    (fun net => { net with state := .waitingStarttlsBeingSent })
    fun net => msgCreateStarttls true net.lastMsgSeqNum

/-- `qdevice_net_send_config_node_list`. -/
def qdeviceNetSendConfigNodeList (nlist : NodeList) (configVersion : Option UInt64)
    (initial : Bool) : NetM Bool :=
  qdeviceNetSend env .configNodeList countMsg id fun net =>
    msgCreateNodeList net.lastMsgSeqNum (if initial then .initialConfig else .changedConfig) false
      .zero configVersion.isSome (configVersion.getD 0) false .inquorate false .undefined nlist

/-- `qdevice_net_send_heuristics_change`. -/
def qdeviceNetSendHeuristicsChange (heuristics : TlvHeuristics) : NetM Bool :=
  qdeviceNetSend env .heuristicsChange countMsg id fun net =>
    msgCreateHeuristicsChange net.lastMsgSeqNum heuristics

/-- `qdevice_net_send_membership_node_list`. -/
def qdeviceNetSendMembershipNodeList (ringId : TlvRingId) (nodeList : List UInt32)
    (heuristics : TlvHeuristics) : NetM Bool := do
  if nodeList ≠ [] ∧ env.nodeListAdd = false then return false
  qdeviceNetSend env .membershipNodeList countMsg
    (fun net => { net with lastSentRingId := ringId })
    fun net => msgCreateNodeList net.lastMsgSeqNum .membership true ringId false 0 false .inquorate
      true heuristics (nodeList.map fun nodeId => ⟨nodeId, 0, .notSet⟩)

/-- `qdevice_net_votequorum_node_state_to_tlv`; an unknown state ends the process. -/
def qdeviceNetVotequorumNodeStateToTlv (state : UInt32) : Option TlvNodeState :=
  if state = 1 then some .member
  else if state = 2 then some .dead
  else if state = 3 then some .leaving
  else none

/-- The loop of `qdevice_net_send_quorum_node_list`: `none` is the end of the process, and
    `some none` a `node_list_add` that fails. -/
def quorumNodeList : List VotequorumNode → Option (Option NodeList)
  | [] => some (some [])
  | node :: nodes =>
    if node.nodeid = 0 then quorumNodeList nodes
    else
      match qdeviceNetVotequorumNodeStateToTlv node.state with
      | none => none
      | some state =>
        if env.nodeListAdd then
          (quorumNodeList nodes).map fun nlist => nlist.map (⟨node.nodeid, 0, state⟩ :: ·)
        else some none

/-- `qdevice_net_send_quorum_node_list`. -/
def qdeviceNetSendQuorumNodeList (tlvQuorate : TlvQuorate) (nodeList : List VotequorumNode) :
    NetM Bool := do
  match quorumNodeList env nodeList with
  | none => Prog.stop
  | some none => return false
  | some (some nlist) =>
    qdeviceNetSend env .quorumNodeList countMsg id fun net =>
      msgCreateNodeList net.lastMsgSeqNum .quorum false .zero false 0 true tlvQuorate false
        .undefined nlist

/-- `qdevice_net_send_set_option`, as the only caller of it calls it: it gives qnetd the tie-breaker
    setting and no heartbeat interval. -/
def qdeviceNetSendSetOption (addKeepActivePartitionTieBreaker : Bool)
    (keepActivePartitionTieBreaker : TlvKeepActivePartitionTieBreaker) : NetM Bool :=
  qdeviceNetSend env .setOption countMsg id fun net =>
    msgCreateSetOption true net.lastMsgSeqNum false 0 addKeepActivePartitionTieBreaker
      keepActivePartitionTieBreaker

/-- The reply to a vote info message, which `qdevice_net_msg_received_vote_info` creates itself. -/
def qdeviceNetSendVoteInfoReply (msgSeqNumber : UInt32) : NetM Bool :=
  qdeviceNetSend env .voteInfoReply id id fun _ => msgCreateVoteInfoReply msgSeqNumber

end Qdevice.Net
