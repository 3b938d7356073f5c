import Qdevice.ForStd.Runs
import Qdevice.Native.QdeviceNetSocket

/-! # The main loop of qdevice

`qdevice_run_main_loop` (`corosync-qdevice.c`) with what the net model does before and after the
poll loop (`qdevice-model-net.c`).  A step of the machine is one call from the poll loop: of a
callback of a file descriptor, of a timer or of the check before a poll.  `pr_poll_loop_exec` and
the timer list decide the order; here they come in any order. -/

namespace Qdevice.Net

variable (env : NetEnv)

/-! ### Before and after the poll loop -/

/-- `qdevice_model_net_timer_connect_timeout`. -/
def qdeviceModelNetTimerConnectTimeout : NetM Unit := do
  disconnectWith .cantConnectToTheServer
  modifyNet fun net => { net with connectTimer := false }

/-- `qdevice_model_net_pre_poll_loop`: whether the loop begins. -/
def qdeviceModelNetPrePollLoop : NetM Bool := do
  modifyNet fun net => { net with
    state := .waitingConnect
    socket := none
    connectTimer := env.timerListAdd .connect }
  if env.timerListAdd .connect = false then return false
  modifyNet fun net => { net with
    nonBlockingClientDestroyed := !(env.clientInit && env.clientTryNext) }
  let inst ← Prog.get
  if qdeviceNetSocketAddToMainPollLoop env inst.net = false then return false
  return env.addPrePollCb

/-- The disconnect reason for an exit reason. -/
def ExitReason.disconnectReason (reason : DisconnectReason) : ExitReason → DisconnectReason
  | .model => reason
  | .votequorumClosed | .cmapClosed => .corosyncConnectionClosed
  | .heuristicsClosed => .heuristicsWorkerClosed
  | .ipcSocketClosed => .localSocketClosed

/-- The first part of `qdevice_model_net_post_poll_loop`, up to the vote of the algorithm. -/
def postPollLoopReason : NetM Unit := do
  let inst ← Prog.get
  modifyNet fun net => { net with
    connectTimer := false
    echoRequestTimer := false
    disconnectReason := inst.exitReason.disconnectReason net.disconnectReason }
  qdeviceNetCastVoteTimerSetPaused false

/-- `qdevice_model_net_post_poll_loop`: whether the loop is to be restarted.  An error of the update
    of the vote is only logged; but if the vote could not be cast, there is another reason then. -/
def qdeviceModelNetPostPollLoop : NetM Bool := do
  postPollLoopReason
  let inst ← Prog.get
  let (restartLoop, vote) :=
    qdeviceNetAlgorithmDisconnected inst.net inst.net.disconnectReason.tryReconnect
  let _ ← qdeviceNetCastVoteTimerUpdate env vote none
  let inst ← Prog.get
  modifyNet fun net =>
    qdeviceNetInstanceClean { net with socket := none, nonBlockingClientDestroyed := true }
  return restartLoop && !inst.net.disconnectReason.forceDisconnect && env.delPrePollCb &&
    qdeviceNetSocketDelFromMainPollLoop env inst.net

/-! ### Events -/

/-- What the poll loop can call, with what the call gets from outside. -/
inductive NetEvent where
  | prePollLoop
  | postPollLoop
  | checkScheduleDisconnect
  | socketRead (alloc : Bool) (recv : Recv)
  | socketWrite (send : Send)
  | socketErr
  | nonBlockingClient (status : ConnectStatus)
  | connectTimeout
  | echoRequestTimer
  | castVoteTimer
  | heuristicsTimer
  | heuristicsRead (read : PipeRead)
  | heuristicsWrite (write : PipeWrite)
  | quorumNotify (quorate : UInt32) (nodeList : List VotequorumNode)
  | nodeListNotify (ringId : TlvRingId) (nodeList : List UInt32)
  | expectedVotesNotify
  | cmapReload (nodeList : Option (Option (NodeList × Option UInt64)))
      (heuristics : Option HeuristicsConfig)
  | closed (reason : ExitReason)

/-- `PR_Recv` returns at most as many bytes as it was asked for. -/
def recvPossible (reader : MsgReader) : Recv → Bool
  | .data bytes => bytes ≠ [] ∧ bytes.length ≤ msgioToRead reader
  | .closed | .wouldBlock | .error => true

/-- `PR_Send` takes no more than it is offered. -/
def sendPossible (sblist : SendBufferList) : Send → Bool
  | .sent bytes => (sendBufferListGetActive sblist).any fun entry =>
      bytes ≤ (msgioOffered entry.buffer entry.msgAlreadySentBytes).length
  | .wouldBlock | .error => true

/-- A poll loop runs: the main one, or that which waits for the first result of the heuristics,
    in which the net instance has no socket yet. -/
def QdeviceInstance.runs (inst : QdeviceInstance) : Bool :=
  inst.loop = .starting ∨ inst.loop = .polling

/-- The poll loop can make this call.  A socket is polled for writing while there is something to
    write, and corosync's configuration is not while a new membership is being formed. -/
def NetEvent.enabled (inst : QdeviceInstance) : NetEvent → Bool
  | .prePollLoop => inst.loop = .starting ∨ inst.loop = .restarting
  | .postPollLoop => inst.loop = .ended
  | .checkScheduleDisconnect => inst.loop = .polling ∧ inst.net.scheduleDisconnect
  | .socketRead _ recv =>
    inst.loop = .polling ∧ inst.net.socket.isSome ∧ recvPossible inst.net.reader recv
  | .socketWrite send =>
    inst.loop = .polling ∧ inst.net.socket.isSome ∧ inst.net.sendBufferList.list ≠ [] ∧
      sendPossible inst.net.sendBufferList send
  | .socketErr => inst.loop = .polling ∧ inst.net.socket.isSome
  | .nonBlockingClient _ =>
    inst.loop = .polling ∧ inst.net.state = .waitingConnect ∧
      inst.net.nonBlockingClientDestroyed = false
  | .connectTimeout => inst.loop = .polling ∧ inst.net.connectTimer
  | .echoRequestTimer => inst.loop = .polling ∧ inst.net.echoRequestTimer
  | .castVoteTimer => inst.runs ∧ 0 < inst.net.castVoteTimerEntries
  | .heuristicsTimer => inst.runs ∧ inst.net.regularHeuristicsTimer
  | .heuristicsRead _ | .heuristicsWrite _ | .quorumNotify _ _ | .nodeListNotify _ _
  | .expectedVotesNotify => inst.runs
  | .cmapReload _ _ => inst.runs ∧ inst.syncInProgress = false
  | .closed reason => inst.runs ∧ reason ≠ .model

/-- The call: `false` is a return value that ends the loop. -/
def NetEvent.run : NetEvent → NetM Bool
  | .prePollLoop => qdeviceModelNetPrePollLoop env
  | .postPollLoop => qdeviceModelNetPostPollLoop env
  | .checkScheduleDisconnect => return false
  | .socketRead alloc recv => socketCb (qdeviceNetSocketRead env alloc recv)
  | .socketWrite send => socketCb (qdeviceNetSocketWrite env send)
  | .socketErr => socketErrCb
  | .nonBlockingClient status => nonBlockingClientSocketWriteCb env status
  | .connectTimeout => do
    qdeviceModelNetTimerConnectTimeout
    return true
  | .echoRequestTimer => do
    let _ ← qdeviceNetEchoRequestTimerCallback env
    return true
  | .castVoteTimer => do
    let again ← qdeviceNetCastVoteTimerCallback env
    if again = false then
      modifyNet fun net => { net with castVoteTimerEntries := net.castVoteTimerEntries - 1 }
    return true
  | .heuristicsTimer => do
    let _ ← qdeviceNetHeuristicsTimerCallback
    return true
  | .heuristicsRead read => heuristicsPipeCmdRecvRead env read
  | .heuristicsWrite write => heuristicsPipeCmdSendWrite write
  | .quorumNotify quorate nodeList => do
    qdeviceVotequorumQuorumNotifyCallback env quorate nodeList
    return true
  | .nodeListNotify ringId nodeList => do
    qdeviceVotequorumNodeListNotifyCallback env ringId nodeList
    return true
  | .expectedVotesNotify => do
    qdeviceVotequorumExpectedVotesNotifyCallback env
    return true
  | .cmapReload nodeList heuristics => do
    qdeviceCmapReload env nodeList heuristics
    return true
  | .closed reason => do
    Prog.modify fun inst => { inst with exitReason := reason }
    return false

/-- Where the main loop is after a call. -/
def NetEvent.next (loop : LoopPhase) (goOn : Bool) : NetEvent → LoopPhase
  | .prePollLoop => if goOn then .polling else .stopped
  | .postPollLoop => if goOn then .restarting else .stopped
  | _ => if goOn then loop else if loop = .starting then .stopped else .ended

/-- One call. -/
def netStep (inst : QdeviceInstance) (event : NetEnv × NetEvent) : Option QdeviceInstance :=
  if event.2.enabled inst then
    match event.2.run event.1 inst with
    | none => none
    | some (goOn, inst') => some { inst' with loop := event.2.next inst.loop goOn }
  else none

/-- What qdevice is started with. -/
structure QdeviceStart where
  net : NetConfig := {}
  nodeId : UInt32 := 1
  heuristicsInstance : HeuristicsInstance := heuristicsInit 10 65536
  heuristicsMode : HeuristicsMode := .disabled
  configNodeList : NodeList := []
  configNodeListVersion : Option UInt64 := none

/-- The instance after `qdevice_model_net_init`. -/
def QdeviceStart.init (start : QdeviceStart) : QdeviceInstance where
  net := { qdeviceNetInstanceInit start.net with castVoteTimerVote := .askLater }
  nodeId := start.nodeId
  heuristicsInstance := start.heuristicsInstance
  heuristicsMode := start.heuristicsMode
  notifierList := [{ callback := .votequorum }, { callback := .regular }, { callback := .connect }]
  configNodeList := start.configNodeList
  configNodeListVersion := start.configNodeListVersion

/-- The runs of qdevice. -/
def netMachine (start : QdeviceStart) : Runs.Machine QdeviceInstance (NetEnv × NetEvent) where
  init := start.init
  step := netStep

end Qdevice.Net
