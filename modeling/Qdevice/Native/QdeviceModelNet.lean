import Qdevice.Native.QdeviceNetMsgReceived

/-! # The net model

The heuristics result callbacks (`qdevice-net-heuristics.c`), the notifications of votequorum and
cmap with what the net model does about them (`qdevice-votequorum.c`, `qdevice-cmap.c`,
`qdevice-model-net.c`), and what happens before and after the poll loop. -/

namespace Qdevice.Net

variable (env : NetEnv)

/-- The net instance is connected to qnetd, and qnetd has its lists. -/
def NetInstance.connected (net : NetInstance) : Bool := net.state = .waitingVotequorumCmapEvents

/-- The vote with which most notifications begin: without a connection an old ACK does not stay. -/
def NetInstance.notifyVote (net : NetInstance) : TlvVote :=
  if net.connected then .noChange
  else if net.castVoteTimerVote = .ack then .nack
  else .noChange

/-- Update the cast vote timer, and disconnect if that fails: whether it succeeded. -/
def updateVoteOrDisconnect (vote : TlvVote) : NetM Bool := do
  let ok ← qdeviceNetCastVoteTimerUpdate env vote none
  if ok = false then disconnectWith .cantScheduleVotingTimer
  return ok

/-! ### Heuristics results -/

/-- The part of `qdevice_net_regular_heuristics_exec_result_callback` for a result that differs from
    the last one: whether it got to the end. -/
def regularHeuristicsChanged (heuristics : TlvHeuristics) : NetM Bool := do
  let inst ← Prog.get
  if qdeviceNetAlgorithmHeuristicsChange inst.net.decisionAlgorithm = false then
    disconnectWith .algoHeuristicsChangeErr
    return false
  if inst.net.connected then
    if heuristics = .undefined then
      disconnectWith .algoHeuristicsChangeErr
      return false
    if inst.net.serverSupportsHeuristics = false then
      disconnectWith .serverDoesntSupportRequiredOpt
      return false
    let sent ← qdeviceNetSendHeuristicsChange env heuristics
    if sent = false then
      disconnectWith .cantAllocateMsgBuffer
      return false
  updateVoteOrDisconnect env .noChange

/-- `qdevice_net_regular_heuristics_exec_result_callback`, which returns 0. -/
def qdeviceNetRegularHeuristicsExecResultCallback (execResult : HeuristicsExecResult) :
    NetM Unit := do
  let active ← setNotifierActive .regular false
  if active = false then
    disconnectWith .cantActivateHeuristicsResultNotifier
    return
  match qdeviceNetHeuristicsExecResultToTlv execResult with
  | none => Prog.stop
  | some heuristics =>
    if execResult = .disabled then return
    let inst ← Prog.get
    if inst.net.latestHeuristicsResult ≠ heuristics then
      let ok ← regularHeuristicsChanged env heuristics
      if ok = false then return
    modifyNet fun net => { net with
      latestRegularHeuristicsResult := heuristics, latestHeuristicsResult := heuristics }
    let _ ← qdeviceNetHeuristicsScheduleTimer env
    return

/-- The three lists that `qdevice_net_connect_heuristics_exec_result_callback` sends: whether all of
    them could be sent. -/
def connectSendNodeLists (inst : QdeviceInstance) (heuristics : TlvHeuristics) : NetM Bool := do
  let config ← qdeviceNetSendConfigNodeList env inst.configNodeList inst.configNodeListVersion true
  if config = false then return false
  let membership ← qdeviceNetSendMembershipNodeList env inst.vqNodeListRingId inst.vqNodeList
    heuristics
  if membership = false then return false
  qdeviceNetSendQuorumNodeList env (if inst.vqQuorumQuorate ≠ 0 then .quorate else .inquorate)
    inst.vqQuorumNodeList

/-- The messages that `qdevice_net_connect_heuristics_exec_result_callback` sends. -/
def connectSendLists (heuristics : TlvHeuristics) : NetM Bool := do
  let inst ← Prog.get
  if inst.net.serverSupportsKeepActivePartitionTieBreaker then
    let sent ← qdeviceNetSendSetOption env true inst.net.keepActivePartitionTieBreaker
    if sent = false then return false
  connectSendNodeLists env inst heuristics

/-- `qdevice_net_connect_heuristics_exec_result_callback`, which returns 0.  An error here is only
    recorded. -/
def qdeviceNetConnectHeuristicsExecResultCallback (execResult : HeuristicsExecResult) :
    NetM Unit := do
  let active ← setNotifierActive .connect false
  if active = false then
    disconnectWith .cantActivateHeuristicsResultNotifier
    return
  let inst ← Prog.get
  if inst.net.state ≠ .waitingInitReply then return
  match qdeviceNetHeuristicsExecResultToTlv execResult with
  | none => Prog.stop
  | some heuristics =>
    if qdeviceNetAlgorithmConnected inst.net.decisionAlgorithm = false then
      return ← recordReason .algoConnectedErr
    let sent ← connectSendLists env heuristics
    if sent = false then return ← recordReason .cantAllocateMsgBuffer
    let ok ← qdeviceNetCastVoteTimerUpdate env .waitForReply none
    if ok = false then recordReason .cantScheduleVotingTimer
    modifyNet fun net => { net with
      state := .waitingVotequorumCmapEvents
      latestConnectHeuristicsResult := heuristics
      latestHeuristicsResult := heuristics }

/-- `qdevice_model_net_votequorum_node_list_heuristics_notify`, which returns 0. -/
def qdeviceModelNetVotequorumNodeListHeuristicsNotify (ringId : TlvRingId) (nodeList : List UInt32)
    (execResult : HeuristicsExecResult) : NetM Unit := do
  match qdeviceNetHeuristicsExecResultToTlv execResult with
  | none => Prog.stop
  | some heuristics =>
    let inst ← Prog.get
    if qdeviceNetAlgorithmVotequorumNodeListHeuristicsNotify inst.net.decisionAlgorithm = false then
      return ← disconnectWith .algoVotequorumNodeListHeuristicsNotifyErr
    if inst.net.connected then
      let sent ← qdeviceNetSendMembershipNodeList env ringId nodeList heuristics
      if sent = false then return ← disconnectWith .cantAllocateMsgBuffer
    qdeviceNetCastVoteTimerSetPaused false
    let ok ← updateVoteOrDisconnect env
      (if inst.net.connected then .waitForReply else inst.net.notifyVote)
    if ok = false then return
    modifyNet fun net => { net with
      latestVqHeuristicsResult := heuristics, latestHeuristicsResult := heuristics }
    let _ ← qdeviceNetHeuristicsScheduleTimer env
    return

/-- `qdevice_votequorum_heuristics_exec_result_callback`, which returns 0. -/
def qdeviceVotequorumHeuristicsExecResultCallback (execResult : HeuristicsExecResult) :
    NetM Unit := do
  let active ← setNotifierActive .votequorum false
  if active = false then Prog.stop
  let inst ← Prog.get
  qdeviceModelNetVotequorumNodeListHeuristicsNotify env inst.vqNodeListRingId inst.vqNodeList
    execResult

/-- One of the callbacks. -/
def heuristicsCallback (execResult : HeuristicsExecResult) : HeuristicsCallback → NetM Unit
  | .votequorum => qdeviceVotequorumHeuristicsExecResultCallback env execResult
  | .regular => qdeviceNetRegularHeuristicsExecResultCallback env execResult
  | .connect => qdeviceNetConnectHeuristicsExecResultCallback env execResult

/-- `qdevice_heuristics_result_notifier_notify`: each item is looked at when the loop gets to it. -/
def heuristicsResultNotifierNotify (execResult : HeuristicsExecResult) :
    List HeuristicsCallback → NetM Unit
  | [] => pure ()
  | callback :: callbacks => do
    let inst ← Prog.get
    if ⟨callback, true⟩ ∈ inst.notifierList then heuristicsCallback env execResult callback
    heuristicsResultNotifierNotify execResult callbacks

/-- The results among the lines that were read. -/
def notifyResults : List HeuristicsNotification → NetM Unit
  | [] => pure ()
  | notification :: notifications => do
    let inst ← Prog.get
    heuristicsResultNotifierNotify env notification.execResult
      (inst.notifierList.map fun item => item.callback)
    notifyResults notifications

/-- `heuristics_pipe_cmd_recv_read_cb`.  No callback starts heuristics, so that they can be called
    after the lines that were read have been processed. -/
def heuristicsPipeCmdRecvRead (read : PipeRead) : NetM Bool := do
  let inst ← Prog.get
  let (ok, heuristics) := heuristicsCmdReadFromPipe (fun _ => true) read inst.heuristicsInstance
  Prog.modify fun inst => { inst with heuristicsInstance := heuristics }
  notifyResults env
    (heuristics.notifications.drop inst.heuristicsInstance.notifications.length)
  if ok = false then Prog.modify fun inst => { inst with exitReason := .heuristicsClosed }
  return ok

/-- `heuristics_pipe_cmd_send_write_cb`. -/
def heuristicsPipeCmdSendWrite (write : PipeWrite) : NetM Bool := do
  let inst ← Prog.get
  let (ok, _, heuristics) := heuristicsCmdWrite write inst.heuristicsInstance
  Prog.modify fun inst => { inst with heuristicsInstance := heuristics }
  if ok = false then Prog.modify fun inst => { inst with exitReason := .heuristicsClosed }
  return ok

/-! ### Votequorum -/

/-- `qdevice_model_net_votequorum_quorum_notify`, which returns 0. -/
def qdeviceModelNetVotequorumQuorumNotify (quorate : UInt32) (nodeList : List VotequorumNode) :
    NetM Unit := do
  let inst ← Prog.get
  let done ← qdeviceNetAlgorithmVotequorumQuorumNotify quorate
  if done = false then return ← disconnectWith .algoVotequorumQuorumNotifyErr
  let ok ← updateVoteOrDisconnect env inst.net.notifyVote
  if ok = false then return
  if inst.net.connected then
    let sent ← qdeviceNetSendQuorumNodeList env (if quorate ≠ 0 then .quorate else .inquorate)
      nodeList
    if sent = false then disconnectWith .cantAllocateMsgBuffer

/-- `qdevice_votequorum_quorum_notify_callback`. -/
def qdeviceVotequorumQuorumNotifyCallback (quorate : UInt32) (nodeList : List VotequorumNode) :
    NetM Unit := do
  Prog.modify fun inst => { inst with syncInProgress := false }
  qdeviceModelNetVotequorumQuorumNotify env quorate nodeList
  Prog.modify fun inst => { inst with
    vqQuorumQuorate := quorate, vqQuorumNodeList := nodeList }

/-- `qdevice_model_net_votequorum_node_list_notify`, which returns 0. -/
def qdeviceModelNetVotequorumNodeListNotify : NetM Unit := do
  let stopped ← qdeviceNetHeuristicsStopTimer
  if stopped = false then return
  let inst ← Prog.get
  if qdeviceNetAlgorithmVotequorumNodeListNotify inst.net.decisionAlgorithm = false then
    return ← disconnectWith .algoVotequorumNodeListNotifyErr
  let ok ← updateVoteOrDisconnect env inst.net.notifyVote
  if ok = false then return
  qdeviceNetCastVoteTimerSetPaused true

/-- `qdevice_votequorum_node_list_notify_callback`. -/
def qdeviceVotequorumNodeListNotifyCallback (ringId : TlvRingId) (nodeList : List UInt32) :
    NetM Unit := do
  Prog.modify fun inst => { inst with syncInProgress := true, vqPollRingId := ringId }
  qdeviceModelNetVotequorumNodeListNotify env
  let active ← setNotifierActive .votequorum true
  if active = false then Prog.stop
  let ok ← execHeuristics
  if ok = false then Prog.stop
  Prog.modify fun inst => { inst with vqNodeListRingId := ringId, vqNodeList := nodeList }

/-- `qdevice_votequorum_expected_votes_notify_callback`, with
    `qdevice_model_net_votequorum_expected_votes_notify`. -/
def qdeviceVotequorumExpectedVotesNotifyCallback : NetM Unit := do
  let inst ← Prog.get
  if algorithmConfigChanged env inst.net.decisionAlgorithm = false then
    return ← disconnectWith .algoVotequorumExpectedVotesNotifyErr
  let _ ← updateVoteOrDisconnect env .noChange
  return

/-! ### Cmap -/

/-- `qdevice_model_net_get_config_node_list_failed`, which returns 0. -/
def qdeviceModelNetGetConfigNodeListFailed : NetM Unit := disconnectWith .cantAllocateMsgBuffer

/-- `qdevice_model_net_config_node_list_changed`, which returns 0. -/
def qdeviceModelNetConfigNodeListChanged (nlist : NodeList) (configVersion : Option UInt64) :
    NetM Unit := do
  let inst ← Prog.get
  if algorithmConfigChanged env inst.net.decisionAlgorithm = false then
    return ← disconnectWith .algoConfigNodeListChangedErr
  let ok ← updateVoteOrDisconnect env inst.net.notifyVote
  if ok = false then return
  if inst.net.connected then
    let sent ← qdeviceNetSendConfigNodeList env nlist configVersion false
    if sent = false then disconnectWith .cantAllocateMsgBuffer

/-- `qdevice_cmap_node_list_event`.  `read` is what `qdevice_cmap_get_nodelist` and
    `qdevice_cmap_get_config_version` have read, if they could. -/
def qdeviceCmapNodeListEvent (read : Option (NodeList × Option UInt64)) : NetM Unit := do
  match read with
  | none => qdeviceModelNetGetConfigNodeListFailed
  | some (nlist, configVersion) =>
    let inst ← Prog.get
    if nodeListEq env.nodeListEqClone inst.configNodeList nlist ≠ 0 then return
    qdeviceModelNetConfigNodeListChanged env nlist configVersion
    if env.nodeListClone = false then
      Prog.modify fun inst => { inst with configNodeList := [] }
      return ← qdeviceModelNetGetConfigNodeListFailed
    Prog.modify fun inst => { inst with
      configNodeList := nlist, configNodeListVersion := configVersion }

/-- What `qdevice_instance_configure_from_cmap_heuristics` reads from cmap. -/
structure HeuristicsConfig where
  timeout : UInt32
  syncTimeout : UInt32
  mode : HeuristicsMode
  execs : HeuristicsExecList

/-- The mode that `qdevice_instance_configure_from_cmap_heuristics` ends up with, and the exec list,
    if it is to be sent. -/
def HeuristicsConfig.effective (config : HeuristicsConfig) (maxExecs : Nat)
    (execList : HeuristicsExecList) : HeuristicsMode × Option (Option HeuristicsExecList) :=
  if config.mode = .disabled ∨ config.execs.length = 0 ∨ config.execs.length > maxExecs then
    (.disabled, some none)
  else if heuristicsExecListEqLoop config.execs execList then (config.mode, none)
  else (config.mode, some (some config.execs))

/-- `qdevice_cmap_heuristics_event`, with `qdevice_instance_configure_from_cmap_heuristics`; an error
    ends the process. -/
def qdeviceCmapHeuristicsEvent (config : HeuristicsConfig) : NetM Unit := do
  let inst ← Prog.get
  let (mode, send) := config.effective inst.net.advancedSettings.heuristicsMaxExecs
    inst.heuristicsInstance.execList
  Prog.modify fun inst => { inst with
    heuristicsMode := mode
    heuristicsInstance := { inst.heuristicsInstance with
      timeout := config.timeout, syncTimeout := config.syncTimeout } }
  match send with
  | none => return
  | some execList =>
    let inst ← Prog.get
    let (ok, heuristics) :=
      heuristicsChangeExecList execList inst.syncInProgress inst.heuristicsInstance
    if ok = false then Prog.stop
    Prog.modify fun inst => { inst with heuristicsInstance := heuristics }

/-- `qdevice_model_net_cmap_changed`, when there is a change of the heuristics; it returns 0. -/
def qdeviceModelNetCmapChanged : NetM Unit := do
  let inst ← Prog.get
  if inst.net.connected ∧ inst.net.serverSupportsHeuristics = false ∧
      (inst.heuristicsMode = .enabled ∨ inst.heuristicsMode = .sync) then
    return ← disconnectWith .serverDoesntSupportRequiredOpt
  let _ ← qdeviceNetHeuristicsScheduleTimer env
  return

/-- `qdevice_cmap_reload_cb`, with the events it has found. -/
def qdeviceCmapReload (nodeList : Option (Option (NodeList × Option UInt64)))
    (heuristics : Option HeuristicsConfig) : NetM Unit := do
  match nodeList with
  | none => pure ()
  | some read => qdeviceCmapNodeListEvent env read
  match heuristics with
  | none => pure ()
  | some config =>
    qdeviceCmapHeuristicsEvent config
    qdeviceModelNetCmapChanged env

end Qdevice.Net
