import Qdevice.Native.QdeviceNetSend

/-! # Timers and algorithms of the net model

The client side of the decision algorithms (`qdevice-net-algo-*.c`), the cast vote timer
(`qdevice-net-cast-vote-timer.c`), the echo request timer (`qdevice-net-echo-request-timer.c`)
and the start of heuristics (`qdevice-net-heuristics.c`). -/

namespace Qdevice.Net

/-! ### Algorithms -/

/-- A hook that returns 0 in each of the algorithms and leaves what it is given as it is. -/
def algorithmDefault : TlvDecisionAlgorithmType → Bool
  | .test | .ffsplit | .twoNodeLms | .lms => true

@[simp] theorem algorithmDefault_eq (algorithm : TlvDecisionAlgorithmType) :
    algorithmDefault algorithm = true := by
  cases algorithm <;> rfl

/-- `qdevice_net_algorithm_connected`. -/
abbrev qdeviceNetAlgorithmConnected := algorithmDefault

/-- `qdevice_net_algorithm_votequorum_node_list_notify`. -/
abbrev qdeviceNetAlgorithmVotequorumNodeListNotify := algorithmDefault

/-- `qdevice_net_algorithm_votequorum_node_list_heuristics_notify`. -/
abbrev qdeviceNetAlgorithmVotequorumNodeListHeuristicsNotify := algorithmDefault

/-- `qdevice_net_algorithm_heuristics_change`. -/
abbrev qdeviceNetAlgorithmHeuristicsChange := algorithmDefault

/-- The hooks for a server message with a vote; each of them returns 0 in each of the algorithms.
    A vote for another ring than that of the list sent last does not count. -/
def algorithmVote (ringIdIsValid : Bool) (vote : TlvVote) :
    TlvDecisionAlgorithmType → Option TlvVote
  | .test | .ffsplit | .twoNodeLms | .lms => some (if ringIdIsValid then vote else .noChange)

@[simp] theorem algorithmVote_eq (ringIdIsValid : Bool) (vote : TlvVote)
    (algorithm : TlvDecisionAlgorithmType) :
    algorithmVote ringIdIsValid vote algorithm =
      some (if ringIdIsValid then vote else .noChange) := by
  cases algorithm <;> rfl

/-- `qdevice_net_algorithm_votequorum_quorum_notify`. -/
def qdeviceNetAlgorithmVotequorumQuorumNotify (quorate : UInt32) : NetM Bool := do
  let inst ← Prog.get
  match inst.net.decisionAlgorithm with
  | .test | .ffsplit | .twoNodeLms => return true
  | .lms =>
    modifyNet fun net => { net with algorithmData := { net.algorithmData with quorate := quorate } }
    return true

/-- `qdevice_net_algorithm_config_node_list_changed` and
    `qdevice_net_algorithm_votequorum_expected_votes_notify`. -/
def algorithmConfigChanged (env : NetEnv) : TlvDecisionAlgorithmType → Bool
  | .ffsplit => env.vqInfoValid
  | .test | .twoNodeLms | .lms => true

/-- `qdevice_net_algorithm_echo_reply_received`. -/
def qdeviceNetAlgorithmEchoReplyReceived (isExpectedSeqNumber : Bool) :
    TlvDecisionAlgorithmType → Bool
  | .test | .ffsplit | .twoNodeLms | .lms => isExpectedSeqNumber

/-- Lms goes on without qnetd. -/
def LmsData.goesOn (data : LmsData) : Bool := data.quorate ≠ 0 ∧ data.haveWfa

/-- `qdevice_net_algorithm_echo_reply_not_received`. -/
def qdeviceNetAlgorithmEchoReplyNotReceived (net : NetInstance) : Bool :=
  match net.decisionAlgorithm with
  | .test | .ffsplit | .twoNodeLms => false
  | .lms => net.algorithmData.goesOn

/-- `qdevice_net_algorithm_disconnected`: `try_reconnect` and `vote`. -/
def qdeviceNetAlgorithmDisconnected (net : NetInstance) (tryReconnect : Bool) : Bool × TlvVote :=
  match net.decisionAlgorithm with
  | .test | .twoNodeLms => (tryReconnect, .noChange)
  | .ffsplit => (tryReconnect, .nack)
  | .lms => (true, if net.algorithmData.goesOn then .noChange else .nack)

/-! ### Cast vote timer -/

variable (env : NetEnv)

/-- `qdevice_votequorum_poll`. -/
def qdeviceVotequorumPoll (castVote : Bool) : NetM Bool := do
  let inst ← Prog.get
  modifyNet fun net => { net with
    polls := net.polls ++ [⟨castVote, inst.vqPollRingId, net.castVoteTimerVoteRingId⟩] }
  return env.votequorumPoll inst.net.polls.length

/-- `qdevice_net_cast_vote_timer_callback`: whether it is to be called again. -/
def qdeviceNetCastVoteTimerCallback : NetM Bool := do
  let inst ← Prog.get
  if inst.net.castVoteTimerPaused then return true
  match inst.net.castVoteTimerVote with
  | .ack | .nack =>
    let ok ← qdeviceVotequorumPoll env (inst.net.castVoteTimerVote = .ack)
    if ok = false then
      disconnectWith .cantScheduleVotingTimer
      modifyNet fun net => { net with castVoteTimer := false }
      return false
    return true
  | .askLater | .waitForReply | .noChange | .undefined => Prog.stop

/-- `qdevice_net_cast_vote_timer_update`.  `ringId` is that of the server message with the vote, if
    it comes from one. -/
def qdeviceNetCastVoteTimerUpdate (vote : TlvVote) (ringId : Option TlvRingId) : NetM Bool := do
  match vote with
  | .undefined => Prog.stop
  | .noChange => return true
  | .waitForReply | .askLater =>
    modifyNet fun net => { net with castVoteTimerVote := vote, castVoteTimerVoteRingId := ringId }
    let inst ← Prog.get
    if inst.net.castVoteTimer then
      modifyNet fun net => { net with
        castVoteTimer := false, castVoteTimerEntries := net.castVoteTimerEntries - 1 }
    return true
  | .ack | .nack =>
    modifyNet fun net => { net with castVoteTimerVote := vote, castVoteTimerVoteRingId := ringId }
    let inst ← Prog.get
    if inst.net.castVoteTimer = false then
      if env.timerListAdd .castVote = false then return false
      modifyNet fun net => { net with
        castVoteTimer := true, castVoteTimerEntries := net.castVoteTimerEntries + 1 }
    qdeviceNetCastVoteTimerCallback env

/-- `qdevice_net_cast_vote_timer_set_paused`. -/
def qdeviceNetCastVoteTimerSetPaused (paused : Bool) : NetM Unit :=
  modifyNet fun net => { net with castVoteTimerPaused := paused }

/-! ### Echo request timer -/

/-- `qdevice_net_echo_request_timer_callback`: whether it is to be called again. -/
def qdeviceNetEchoRequestTimerCallback : NetM Bool := do
  let inst ← Prog.get
  if inst.net.echoReplyReceivedMsgSeqNum ≠ inst.net.echoRequestExpectedMsgSeqNum then
    if qdeviceNetAlgorithmEchoReplyNotReceived inst.net = false then
      disconnectWith .algoEchoReplyNotReceivedErr
      modifyNet fun net => { net with echoRequestTimer := false }
      return false
    return true
  let ok ← qdeviceNetSendEchoRequest env
  if ok = false then
    disconnectWith .cantAllocateMsgBuffer
    modifyNet fun net => { net with echoRequestTimer := false }
    return false
  return true

/-- `qdevice_net_echo_request_timer_schedule`. -/
def qdeviceNetEchoRequestTimerSchedule : NetM Bool := do
  modifyNet fun net => { net with
    echoRequestExpectedMsgSeqNum := 0
    echoReplyReceivedMsgSeqNum := 0
    echoRequestTimer := env.timerListAdd .echoRequest }
  if env.timerListAdd .echoRequest = false then failWith .cantScheduleHbTimer
  else return true

/-! ### Heuristics -/

/-- `qdevice_net_heuristics_exec_result_to_tlv`; an unknown result ends the process. -/
def qdeviceNetHeuristicsExecResultToTlv : HeuristicsExecResult → Option TlvHeuristics
  | .disabled => some .undefined
  | .pass => some .pass
  | .fail => some .fail
  | .unknown _ => none

/-- `qdevice_net_heuristics_timer_callback`: whether it is to be called again. -/
def qdeviceNetHeuristicsTimerCallback : NetM Bool := do
  let inst ← Prog.get
  if inst.heuristicsInstance.waitingForResult then return true
  modifyNet fun net => { net with regularHeuristicsTimer := false }
  let active ← setNotifierActive .regular true
  if active = false then
    disconnectWith .cantActivateHeuristicsResultNotifier
    return false
  let ok ← execHeuristics
  if ok = false then disconnectWith .cantStartHeuristics
  return false

/-- `qdevice_net_heuristics_stop_timer`. -/
def qdeviceNetHeuristicsStopTimer : NetM Bool := do
  let inst ← Prog.get
  if inst.net.regularHeuristicsTimer = false then return true
  modifyNet fun net => { net with regularHeuristicsTimer := false }
  let active ← setNotifierActive .regular false
  if active = false then
    disconnectWith .cantActivateHeuristicsResultNotifier
    return false
  return true

/-- `qdevice_net_heuristics_schedule_timer`. -/
def qdeviceNetHeuristicsScheduleTimer : NetM Bool := do
  let inst ← Prog.get
  if inst.heuristicsMode ≠ .enabled then qdeviceNetHeuristicsStopTimer
  else if inst.net.regularHeuristicsTimer then return true
  else if env.timerListAdd .regularHeuristics then
    modifyNet fun net => { net with regularHeuristicsTimer := true }
    return true
  else
    disconnectWith .cantScheduleHeuristicsTimer
    return false

/-- `qdevice_net_heuristics_exec_after_connect`. -/
def qdeviceNetHeuristicsExecAfterConnect : NetM Bool := do
  let active ← setNotifierActive .connect true
  if active = false then
    disconnectWith .cantActivateHeuristicsResultNotifier
    return false
  let ok ← execHeuristics
  if ok = false then
    disconnectWith .cantStartHeuristics
    return false
  return true

end Qdevice.Net
