import Qdevice.ForStd.Prog
import Qdevice.Native.Heuristics
import Qdevice.Native.Msgio

/-! # The qdevice net instance

`struct qdevice_net_instance` with the part of `struct qdevice_instance` around it that the net
model reads and writes (`qdevice-net-instance.c`, `qdevice-instance.h`,
`qdevice-net-disconnect-reason.h`).  The process ends with `Prog.stop` where the source calls
`exit`.  What the allocator, the timer list, NSS, the poll loop and corosync return comes from
outside, in a `NetEnv`. -/

namespace Qdevice.Net

/-- `enum qdevice_net_disconnect_reason`. -/
inductive DisconnectReason where
  | undefined
  | unexpectedMsg
  | unsupportedMsg
  | incompatibleTls
  | incompatibleMsgSize
  | requiredOptionMissing
  | cantAllocateMsgBuffer
  | cantScheduleHbTimer
  | cantScheduleVotingTimer
  | cantScheduleHeuristicsTimer
  | cantStartHeuristics
  | cantActivateHeuristicsResultNotifier
  | cantRegisterVotequorumCallback
  | cantRegisterCmapCallback
  | cantStartTls
  | serverSentError
  | serverSentDuplicateNodeIdError
  | serverSentTieBreakerDiffersFromOtherNodesError
  | serverSentAlgorithmDiffersFromOtherNodesError
  | serverDoesntSupportRequiredAlgorithm
  | serverDoesntSupportRequiredOpt
  | msgDecodeError
  | serverClosedConnection
  | cantReadMessage
  | cantSendMessage
  | corosyncConnectionClosed
  | localSocketClosed
  | cantConnectToTheServer
  | algoConnectedErr
  | algoConfigNodeListChangedErr
  | algoVotequorumQuorumNotifyErr
  | algoVotequorumNodeListNotifyErr
  | algoVotequorumNodeListHeuristicsNotifyErr
  | algoVotequorumExpectedVotesNotifyErr
  | algoNodeListReplyErr
  | algoAskForVoteReplyErr
  | algoVoteInfoErr
  | algoEchoReplyReceivedErr
  | algoEchoReplyNotReceivedErr
  | algoHeuristicsChangeErr
  | algoHeuristicsChangeReplyErr
  | heuristicsWorkerClosed
deriving DecidableEq

/-- `qdevice_net_disconnect_reason_try_reconnect`. -/
def DisconnectReason.tryReconnect (reason : DisconnectReason) : Bool :=
  reason = .msgDecodeError ∨ reason = .serverClosedConnection ∨ reason = .cantReadMessage ∨
    reason = .cantSendMessage ∨ reason = .cantConnectToTheServer ∨
    reason = .algoEchoReplyNotReceivedErr ∨ reason = .serverSentDuplicateNodeIdError ∨
    reason = .serverSentTieBreakerDiffersFromOtherNodesError ∨
    reason = .serverSentAlgorithmDiffersFromOtherNodesError

/-- `qdevice_net_disconnect_reason_force_disconnect`. -/
def DisconnectReason.forceDisconnect (reason : DisconnectReason) : Bool :=
  reason = .corosyncConnectionClosed ∨ reason = .localSocketClosed ∨
    reason = .cantScheduleVotingTimer ∨ reason = .cantRegisterVotequorumCallback ∨
    reason = .cantRegisterCmapCallback ∨ reason = .heuristicsWorkerClosed

/-- `enum qdevice_net_instance_state`. -/
inductive NetState where
  | waitingConnect
  | sendingPreinitReply
  | waitingPreinitReply
  | waitingStarttlsBeingSent
  | waitingInitReply
  | waitingVotequorumCmapEvents
deriving DecidableEq

/-- The file descriptor behind `instance->socket`: the one that was connected, or the one that
    `nss_sock_start_ssl_as_client` has returned for it. -/
inductive NetSocket where
  | plain
  | tls
deriving DecidableEq

/-- The messages the net instance sends; for node lists one kind for each of the functions. -/
inductive NetMsg where
  | preinit
  | starttls
  | init
  | setOption
  | echoRequest
  | configNodeList
  | membershipNodeList
  | quorumNodeList
  | heuristicsChange
  | voteInfoReply
deriving DecidableEq

/-- The timers of a net instance. -/
inductive NetTimer where
  | connect
  | echoRequest
  | castVote
  | regularHeuristics
deriving DecidableEq

/-- Whether the two allocations for a message succeed: that of a new entry of the send list, and
    that of its buffer. -/
structure SendAlloc where
  malloc : Bool := true
  realloc : Bool := true

/-- Outcomes of the calls one event makes into the allocator, the timer list, the poll loop, NSS
    and corosync. -/
structure NetEnv where
  sendAlloc : NetMsg → SendAlloc := fun _ => {}
  /-- `node_list_add` succeeds for the nodes of a list that is sent. -/
  nodeListAdd : Bool := true
  /-- `node_list_clone` succeeds in `node_list_eq`, and for the configuration node list. -/
  nodeListEqClone : Bool := true
  nodeListClone : Bool := true
  timerListAdd : NetTimer → Bool := fun _ => true
  addPrfd : Bool := true
  delPrfd : Bool := true
  addPrePollCb : Bool := true
  delPrePollCb : Bool := true
  /-- `nss_sock_non_blocking_client_init` and `nss_sock_non_blocking_client_try_next`. -/
  clientInit : Bool := true
  clientTryNext : Bool := true
  startSsl : Bool := true
  /-- Whether the n-th `qdevice_votequorum_poll` of the run returns 0. -/
  votequorumPoll : Nat → Bool := fun _ => true
  /-- What `check_vqinfo_validity` finds out from corosync. -/
  vqInfoValid : Bool := true
  /-- The memory behind the receive buffer. -/
  beyond : Nat → UInt8 := fun _ => 0

/-- The part of `struct qdevice_advanced_settings` that is used here.  `qdevice_advanced_settings_set`
    accepts no size below `QDEVICE_NET_MIN_MSG_RECEIVE_SEND_SIZE`, and not fewer send buffers than
    `QDEVICE_NET_MIN_MAX_SEND_BUFFERS`. -/
structure AdvancedSettings where
  netInitialMsgReceiveSize : Nat := 2 ^ 15
  netInitialMsgSendSize : Nat := 2 ^ 15
  netMinMsgSendSize : Nat := 2 ^ 15
  netMaxMsgReceiveSize : Nat := 2 ^ 24
  netMaxSendBuffers : Nat := 10
  heuristicsMaxExecs : Nat := 32
  initialReceive : 16 ≤ netInitialMsgReceiveSize := by decide
  initialSend : 16 ≤ netInitialMsgSendSize := by decide
  minSend : 16 ≤ netMinMsgSendSize := by decide
  maxReceive : 16 ≤ netMaxMsgReceiveSize := by decide
  sendBuffers : 2 ≤ netMaxSendBuffers := by decide
deriving DecidableEq

/-- `struct algo_lms_instance_data`, less the field that nothing reads. -/
structure LmsData where
  quorate : UInt32 := 0
  haveWfa : Bool := false
deriving DecidableEq

/-- One call of `msgio_write`: the type of the message, the socket, and what had happened on the
    connection before. -/
structure NetWrite where
  type : UInt16
  socket : Option NetSocket
  /-- A preinit reply of this connection has negotiated TLS. -/
  negotiated : Bool
  /-- `nss_sock_start_ssl_as_client` has succeeded on this connection. -/
  sslStarted : Bool
deriving DecidableEq

/-- One call of `qdevice_votequorum_poll`: its arguments, and the ring id of the server message
    whose vote was applied to the cast vote timer last, if it came from one. -/
structure NetPoll where
  castVote : Bool
  ringId : TlvRingId
  voteRingId : Option TlvRingId
deriving DecidableEq

/-- `struct qdevice_net_instance`.  A timer is whether the pointer to it is set;
    `castVoteTimerEntries` are the entries of the timer list with the cast vote callback, which can
    be more.  The last fields are history that no function reads: see `NetWrite` and `NetPoll`; and
    the two sizes that the init reply which was accepted last has announced. -/
structure NetInstance where
  advancedSettings : AdvancedSettings
  tlsSupported : TlvTlsSupported
  decisionAlgorithm : TlvDecisionAlgorithmType
  heartbeatInterval : UInt32
  clusterName : List UInt8
  tieBreaker : TlvTieBreaker
  keepActivePartitionTieBreaker : TlvKeepActivePartitionTieBreaker
  socket : Option NetSocket := none
  reader : MsgReader
  sendBufferList : SendBufferList
  state : NetState := .waitingConnect
  lastMsgSeqNum : UInt32 := 1
  echoRequestExpectedMsgSeqNum : UInt32 := 1
  echoReplyReceivedMsgSeqNum : UInt32 := 1
  usingTls : Bool := false
  castVoteTimer : Bool := false
  castVoteTimerEntries : Nat := 0
  castVoteTimerVote : TlvVote := .undefined
  castVoteTimerPaused : Bool := false
  echoRequestTimer : Bool := false
  scheduleDisconnect : Bool := false
  lastSentRingId : TlvRingId := .zero
  algorithmData : LmsData := {}
  disconnectReason : DisconnectReason := .undefined
  nonBlockingClientDestroyed : Bool := false
  connectTimer : Bool := false
  regularHeuristicsTimer : Bool := false
  serverSupportsHeuristics : Bool := false
  serverSupportsKeepActivePartitionTieBreaker : Bool := false
  latestRegularHeuristicsResult : TlvHeuristics := .undefined
  latestConnectHeuristicsResult : TlvHeuristics := .undefined
  latestVqHeuristicsResult : TlvHeuristics := .undefined
  latestHeuristicsResult : TlvHeuristics := .undefined
  negotiated : Bool := false
  sslStarted : Bool := false
  writes : List NetWrite := []
  castVoteTimerVoteRingId : Option TlvRingId := none
  polls : List NetPoll := []
  announced : Option (UInt32 × UInt32) := none

/-- The arguments of `qdevice_net_instance_init` that the model uses, and what the lms algorithm
    reads from cmap in its `init`. -/
structure NetConfig where
  advancedSettings : AdvancedSettings := {}
  tlsSupported : TlvTlsSupported := .supported
  decisionAlgorithm : TlvDecisionAlgorithmType := .ffsplit
  heartbeatInterval : UInt32 := 8000
  clusterName : List UInt8 := []
  tieBreaker : TlvTieBreaker := ⟨.lowest, 0⟩
  keepActivePartitionTieBreaker : TlvKeepActivePartitionTieBreaker := .enabled
  haveWfa : Bool := false

/-- `qdevice_net_instance_init`. -/
def qdeviceNetInstanceInit (config : NetConfig) : NetInstance where
  advancedSettings := config.advancedSettings
  tlsSupported := config.tlsSupported
  decisionAlgorithm := config.decisionAlgorithm
  heartbeatInterval := config.heartbeatInterval
  clusterName := config.clusterName
  tieBreaker := config.tieBreaker
  keepActivePartitionTieBreaker := config.keepActivePartitionTieBreaker
  reader := { receiveBuffer := { maximumSize := config.advancedSettings.netInitialMsgReceiveSize } }
  sendBufferList := {
    maxListEntries := config.advancedSettings.netMaxSendBuffers
    maxBufferSize := config.advancedSettings.netInitialMsgSendSize }
  algorithmData := { haveWfa := config.haveWfa }

/-- `send_buffer_list_free`. -/
def sendBufferListFree (sblist : SendBufferList) : SendBufferList :=
  { sblist with allocatedListEntries := 0, list := [], freeList := 0 }

/-- `qdevice_net_instance_clean`. -/
def qdeviceNetInstanceClean (net : NetInstance) : NetInstance :=
  { net with
    reader := net.reader.reset
    sendBufferList := sendBufferListFree net.sendBufferList
    echoRequestExpectedMsgSeqNum := net.echoReplyReceivedMsgSeqNum
    usingTls := false
    state := .waitingConnect
    scheduleDisconnect := false
    disconnectReason := .undefined
    negotiated := false
    sslStarted := false }

/-- The functions that can be called with a heuristics result. -/
inductive HeuristicsCallback where
  | votequorum
  | regular
  | connect
deriving DecidableEq

/-- `struct qdevice_heuristics_result_notifier_item`. -/
structure HeuristicsNotifierItem where
  callback : HeuristicsCallback
  active : Bool := false
deriving DecidableEq

/-- `qdevice_heuristics_result_notifier_list_set_active`. -/
def heuristicsResultNotifierListSetActive (callback : HeuristicsCallback) (active : Bool) :
    List HeuristicsNotifierItem → Option (List HeuristicsNotifierItem)
  | [] => none
  | item :: items =>
    if item.callback = callback then some ({ item with active } :: items)
    else (heuristicsResultNotifierListSetActive callback active items).map (item :: ·)

/-- `enum qdevice_heuristics_mode`. -/
inductive HeuristicsMode where
  | disabled
  | enabled
  | sync
deriving DecidableEq

/-- `votequorum_node_t`. -/
structure VotequorumNode where
  nodeid : UInt32
  state : UInt32
deriving DecidableEq

/-- Where `qdevice_run_main_loop` is: before it, in `pr_poll_loop_exec`, after the loop has ended
    because of a callback or a closed connection, before a restart, and after its end. -/
inductive LoopPhase where
  | starting
  | polling
  | ended
  | restarting
  | stopped
deriving DecidableEq

/-- `enum qdevice_model_post_poll_loop_exit_reason`. -/
inductive ExitReason where
  | model
  | votequorumClosed
  | cmapClosed
  | heuristicsClosed
  | ipcSocketClosed
deriving DecidableEq

/-- `struct qdevice_instance`, with the net instance behind `model_data`.  A ring id of votequorum
    has the two fields of a `struct tlv_ring_id`.  `exitReason` stands for the flags about closed
    connections. -/
structure QdeviceInstance where
  net : NetInstance
  nodeId : UInt32
  heuristicsInstance : HeuristicsInstance
  heuristicsMode : HeuristicsMode := .disabled
  notifierList : List HeuristicsNotifierItem := []
  configNodeList : NodeList := []
  configNodeListVersion : Option UInt64 := none
  vqQuorumQuorate : UInt32 := 0
  vqQuorumNodeList : List VotequorumNode := []
  vqNodeListRingId : TlvRingId := .zero
  vqNodeList : List UInt32 := []
  vqPollRingId : TlvRingId := .zero
  syncInProgress : Bool := false
  loop : LoopPhase := .starting
  exitReason : ExitReason := .model

/-- A function of the net model. -/
abbrev NetM := Prog QdeviceInstance

/-- Write to the net instance. -/
def modifyNet (f : NetInstance → NetInstance) : NetM Unit :=
  .modify fun inst => { inst with net := f inst.net }

/-- Record a reason. -/
def recordReason (reason : DisconnectReason) : NetM Unit :=
  modifyNet fun net => { net with disconnectReason := reason }

/-- Record a reason and return -1. -/
def failWith (reason : DisconnectReason) : NetM Bool := do
  recordReason reason
  return false

/-- Record a reason and set `schedule_disconnect`. -/
def disconnectWith (reason : DisconnectReason) : NetM Unit :=
  modifyNet fun net => { net with disconnectReason := reason, scheduleDisconnect := true }

/-- `qdevice_heuristics_result_notifier_list_set_active`. -/
def setNotifierActive (callback : HeuristicsCallback) (active : Bool) : NetM Bool := do
  let inst ← Prog.get
  match heuristicsResultNotifierListSetActive callback active inst.notifierList with
  | none => return false
  | some items =>
    Prog.modify fun inst => { inst with notifierList := items }
    return true

/-- `qdevice_heuristics_exec`. -/
def execHeuristics : NetM Bool := do
  let inst ← Prog.get
  let (ok, heuristics) := heuristicsExec inst.syncInProgress inst.heuristicsInstance
  Prog.modify fun inst => { inst with heuristicsInstance := heuristics }
  return ok

end Qdevice.Net
