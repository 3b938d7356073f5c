import Qdevice.Native.QnetdAlgoFfsplit
import Qdevice.Native.QnetdAlgoLms

/-! # Algorithm dispatch

`qnetd-algorithm.c`: each callback of a client goes to the algorithm named by the client's
`decision_algorithm`.  The test algorithm (`qnetd-algo-test.c`) is short enough to be written
out here.  Arguments that the callbacks only log are left out. -/

namespace Qdevice.Qnetd

/-- `qnetd_static_supported_decision_algorithms`; each registers itself under its number. -/
def qnetdStaticSupportedDecisionAlgorithms : List TlvDecisionAlgorithmType :=
  [.test, .ffsplit, .twoNodeLms, .lms]

/-- `qnetd_algorithm_array[decision_algorithm]`, with the bounds check every caller makes. -/
def qnetdAlgorithmArray (decisionAlgorithm : UInt16) : Option TlvDecisionAlgorithmType :=
  qnetdStaticSupportedDecisionAlgorithms.find? fun a => a.toUInt16 == decisionAlgorithm

/-- What every dispatcher returns for an algorithm it does not know. -/
def qnetdAlgorithmUnhandled (cluster : QnetdCluster) : AlgoResult :=
  { cluster, replyErrorCode := .internalError }

/-- `qnetd_algorithm_client_init`. -/
def qnetdAlgorithmClientInit (cluster : QnetdCluster) (client : QnetdClient) : AlgoResult :=
  match qnetdAlgorithmArray client.decisionAlgorithm with
  | none => qnetdAlgorithmUnhandled cluster
  | some .test => { cluster }
  | some .ffsplit => ffsplitClientInit cluster client
  | some .twoNodeLms => twoNodeLmsClientInit cluster client
  | some .lms => lmsClientInit cluster client

/-- `qnetd_algorithm_config_node_list_received`. -/
def qnetdAlgorithmConfigNodeListReceived (env : Env) (cluster : QnetdCluster)
    (client : QnetdClient) (nodes : NodeList) (initial : Bool) : Except Abort AlgoResult :=
  match qnetdAlgorithmArray client.decisionAlgorithm with
  | none => .ok (qnetdAlgorithmUnhandled cluster)
  | some .test => .ok { cluster, resultVote := .noChange }
  | some .ffsplit => ffsplitConfigNodeListReceived env cluster client nodes initial
  | some .twoNodeLms => .ok (twoNodeLmsConfigNodeListReceived cluster client nodes)
  | some .lms => .ok (lmsConfigNodeListReceived cluster client nodes)

/-- `qnetd_algorithm_membership_node_list_received`. -/
def qnetdAlgorithmMembershipNodeListReceived (env : Env) (cluster : QnetdCluster)
    (client : QnetdClient) (ringId : TlvRingId) (nodes : NodeList) (heuristics : TlvHeuristics) :
    Except Abort AlgoResult :=
  match qnetdAlgorithmArray client.decisionAlgorithm with
  | none => .ok (qnetdAlgorithmUnhandled cluster)
  | some .test => .ok { cluster, resultVote := .ack }
  | some .ffsplit => ffsplitMembershipNodeListReceived env cluster client ringId nodes heuristics
  | some .twoNodeLms =>
    .ok (twoNodeLmsMembershipNodeListReceived cluster client ringId nodes heuristics)
  | some .lms => lmsMembershipNodeListReceived env cluster client ringId

/-- `qnetd_algorithm_quorum_node_list_received`. -/
def qnetdAlgorithmQuorumNodeListReceived (env : Env) (cluster : QnetdCluster)
    (client : QnetdClient) : Except Abort AlgoResult :=
  match qnetdAlgorithmArray client.decisionAlgorithm with
  | none => .ok (qnetdAlgorithmUnhandled cluster)
  | some .test => .ok { cluster, resultVote := .noChange }
  | some .ffsplit => .ok (ffsplitQuorumNodeListReceived cluster)
  | some .twoNodeLms => .ok { cluster, resultVote := .noChange }
  | some .lms => lmsQuorumNodeListReceived env cluster client

/-- `qnetd_algorithm_client_disconnect`; only ffsplit does more than free its data. -/
def qnetdAlgorithmClientDisconnect (env : Env) (cluster : QnetdCluster) (client : QnetdClient)
    (serverGoingDown : Bool) : Except Abort AlgoResult :=
  match qnetdAlgorithmArray client.decisionAlgorithm with
  | some .ffsplit => ffsplitClientDisconnect env cluster client serverGoingDown
  | none | some .test | some .twoNodeLms | some .lms => .ok { cluster }

/-- `qnetd_algorithm_ask_for_vote_received`. -/
def qnetdAlgorithmAskForVoteReceived (env : Env) (cluster : QnetdCluster)
    (client : QnetdClient) : Except Abort AlgoResult :=
  match qnetdAlgorithmArray client.decisionAlgorithm with
  | none => .ok (qnetdAlgorithmUnhandled cluster)
  | some .test => .ok { cluster, resultVote := .ack }
  | some .ffsplit => .ok (ffsplitAskForVoteReceived cluster)
  | some .twoNodeLms => .ok (twoNodeLmsAskForVoteReceived cluster client)
  | some .lms => lmsAskForVoteReceived env cluster client

/-- `qnetd_algorithm_vote_info_reply_received`. -/
def qnetdAlgorithmVoteInfoReplyReceived (env : Env) (cluster : QnetdCluster)
    (client : QnetdClient) (msgSeqNum : UInt32) : AlgoResult :=
  match qnetdAlgorithmArray client.decisionAlgorithm with
  | none => qnetdAlgorithmUnhandled cluster
  | some .ffsplit => ffsplitVoteInfoReplyReceived env cluster client msgSeqNum
  | some .test | some .twoNodeLms | some .lms => { cluster }

/-- `qnetd_algorithm_heuristics_change_received`. -/
def qnetdAlgorithmHeuristicsChangeReceived (env : Env) (cluster : QnetdCluster)
    (client : QnetdClient) (heuristics : TlvHeuristics) : Except Abort AlgoResult :=
  match qnetdAlgorithmArray client.decisionAlgorithm with
  | none => .ok (qnetdAlgorithmUnhandled cluster)
  | some .ffsplit => ffsplitHeuristicsChangeReceived env cluster client heuristics
  | some .test | some .twoNodeLms | some .lms => .ok { cluster, resultVote := .noChange }

/-- `qnetd_algorithm_timer_callback`. -/
def qnetdAlgorithmTimerCallback (env : Env) (cluster : QnetdCluster) (client : QnetdClient) :
    Except Abort TimerResult :=
  match qnetdAlgorithmArray client.decisionAlgorithm with
  | none => .ok { result := qnetdAlgorithmUnhandled cluster }
  | some .lms => lmsTimerCallback env cluster client
  | some .test | some .ffsplit | some .twoNodeLms =>
    .ok { result := { cluster, resultVote := .waitForReply } }

/-- `qnetd_client_algo_timer_callback`.  The timer is gone from the timer list unless the
    callback asks to be scheduled again. -/
def qnetdClientAlgoTimerCallback (env : Env) (cluster : QnetdCluster) (client : QnetdClient) :
    Except Abort AlgoResult :=
  match qnetdAlgorithmTimerCallback env cluster client with
  | .error abort => .error abort
  | .ok { result, rescheduleTimer, sendVote } =>
    if result.replyErrorCode ≠ .noError then
      -- the error reply is the only thing sent
      if env.replyQueued then .ok result
      else .ok { result with cluster := result.cluster.scheduleDisconnect client.id }
    else
      let cluster :=
        if sendVote then
          result.cluster.modifyClient client.id fun c =>
            let seqNumber := c.algoTimerVoteInfoMsqSeqNumber + 1
            qnetdClientSendVoteInfo env { c with algoTimerVoteInfoMsqSeqNumber := seqNumber }
              seqNumber c.lastRingId result.resultVote
        else result.cluster
      if sendVote && !env.voteInfoQueued client.id then
        .ok { result with cluster := cluster.scheduleDisconnect client.id }
      else if rescheduleTimer then .ok { result with cluster }
      else .ok { result with cluster := cluster.modifyClient client.id fun c =>
        { c with algoTimer := none } }

end Qdevice.Qnetd
