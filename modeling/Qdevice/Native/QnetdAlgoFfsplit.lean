import Qdevice.Native.QnetdClient

/-! # The ffsplit algorithm

`qnetd-algo-ffsplit.c`.  One decision (`ffsplitDo`) looks whether the views of all clients
agree, selects a partition, sends NACK to every client outside it, and sends ACK to
the clients inside only after all NACKs have been answered.

The decision is made before the message that caused it is stored in the client, so the
functions take the new ring id, lists and heuristics of `client` as arguments and read the
stored ones of everybody else.  `clientLeaving` marks a decision caused by the disconnect
of `client`, which is still in the client list then. -/

namespace Qdevice.Qnetd

/-- `qnetd_algo_ffsplit_client_init`. -/
def ffsplitClientInit (cluster : QnetdCluster) (client : QnetdClient) : AlgoResult :=
  let cluster :=
    if qnetdClusterSize cluster = 1 then { cluster with algorithmData := {} } else cluster
  { cluster := cluster.modifyClient client.id fun c => { c with ffsplitData := {} } }

/-- `qnetd_algo_ffsplit_is_preferred_partition`. -/
def ffsplitIsPreferredPartition (client : QnetdClient)
    (configNodeList membershipNodeList : NodeList) : Except Abort Bool :=
  match client.tieBreaker.mode with
  | .lowest =>
    match configNodeList with
    | [] => .error .assertFailed
    | first :: _ =>
      let preferredNodeId := configNodeList.foldl
        (fun preferred n => if n.nodeId < preferred then n.nodeId else preferred) first.nodeId
      .ok (nodeListFindNodeId membershipNodeList preferredNodeId).isSome
  | .highest =>
    match configNodeList with
    | [] => .error .assertFailed
    | first :: _ =>
      let preferredNodeId := configNodeList.foldl
        (fun preferred n => if n.nodeId > preferred then n.nodeId else preferred) first.nodeId
      .ok (nodeListFindNodeId membershipNodeList preferredNodeId).isSome
  | .nodeId => .ok (nodeListFindNodeId membershipNodeList client.tieBreaker.nodeId).isSome
  | .unset => .error .exitFailure

/-- `qnetd_algo_ffsplit_is_membership_stable`. -/
def ffsplitIsMembershipStable (cluster : QnetdCluster) (client : QnetdClient)
    (clientLeaving : Bool) (ringId : TlvRingId)
    (configNodeList membershipNodeList : NodeList) : Bool :=
  let isClient (iter : QnetdClient) : Bool := iter.nodeId == client.nodeId
  let configOf (iter : QnetdClient) :=
    if isClient iter then configNodeList else iter.configurationNodeList
  let membershipOf (iter : QnetdClient) :=
    if isClient iter then membershipNodeList else iter.lastMembershipNodeList
  let ringOf (iter : QnetdClient) := if isClient iter then ringId else iter.lastRingId
  let includes (list1 list2 : NodeList) : Bool :=
    list1.all fun n => (nodeListFindNodeId list2 n.nodeId).isSome
  -- all active clients share the same config list
  let configsMatch := cluster.clientList.all fun iter1 => cluster.clientList.all fun iter2 =>
    iter1.id == iter2.id || (isClient iter1 && clientLeaving) || (isClient iter2 && clientLeaving)
      || includes (configOf iter1) (configOf iter2)
  -- the members of one partition share ring id and membership list
  let membershipsMatch := cluster.clientList.all fun iter1 =>
    (isClient iter1 && clientLeaving) || (membershipOf iter1).all fun iterNode1 =>
      match qnetdClusterFindClientByNodeId cluster iterNode1.nodeId with
      | none => true
      | some iter2 =>
        (isClient iter2 && clientLeaving) || (tlvRingIdEq (ringOf iter1) (ringOf iter2)
          && includes (membershipOf iter1) (membershipOf iter2))
  configsMatch && membershipsMatch

/-- The counters of `qnetd_algo_ffsplit_get_active_clients_in_partition_stats`. -/
structure FfsplitPartitionStats where
  noClients : Nat := 0
  noHeuristicsPass : Nat := 0
  noHeuristicsFail : Nat := 0
deriving DecidableEq

/-- What `qnetd_algo_ffsplit_select_partition` compares: a client with the lists and heuristics
    that count for it in this decision. -/
structure FfsplitCandidate where
  client : QnetdClient
  configNodeList : NodeList
  membershipNodeList : NodeList
  heuristics : TlvHeuristics

/-- `qnetd_algo_ffsplit_get_active_clients_in_partition_stats`; no candidate counts nothing. -/
def ffsplitGetActiveClientsInPartitionStats (cluster : QnetdCluster) :
    Option FfsplitCandidate → FfsplitPartitionStats
  | none => {}
  | some cand =>
    cand.membershipNodeList.foldl (fun stats iterNode =>
      match qnetdClusterFindClientByNodeId cluster iterNode.nodeId with
      | none => stats
      | some iter =>
        let heuristics := if iter.id = cand.client.id then cand.heuristics else iter.lastHeuristics
        { noClients := stats.noClients + 1
          noHeuristicsPass := stats.noHeuristicsPass + if heuristics = .pass then 1 else 0
          noHeuristicsFail := stats.noHeuristicsFail + if heuristics = .fail then 1 else 0 }) {}

/-- The score of a partition, in `size_t` arithmetic. -/
def FfsplitPartitionStats.score (stats : FfsplitPartitionStats) : UInt64 :=
  UInt64.ofNat stats.noClients
    + (UInt64.ofNat stats.noHeuristicsPass - UInt64.ofNat stats.noHeuristicsFail)

/-- The body of `qnetd_algo_ffsplit_partition_cmp` up to `exit_res`; `none` is the initial
    `res = -1`. -/
def ffsplitPartitionCmpRes (cluster : QnetdCluster) (cand1 : FfsplitCandidate)
    (cand2 : Option FfsplitCandidate) (quoratePartitionNodeList : NodeList)
    (keepActivePartitionTieBreaker : Bool) : Except Abort (Option Bool) :=
  let configSize := nodeListSize cand1.configNodeList
  let membershipSize := nodeListSize cand1.membershipNodeList
  if configSize % 2 ≠ 0 then
    -- odd clusters never split into 50:50
    if membershipSize > configSize / 2 then .ok (some true) else .ok (some false)
  else if membershipSize > configSize / 2 then .ok (some true)
  else if membershipSize < configSize / 2 then .ok (some false)
  else
    -- 50:50 split
    let stats1 := ffsplitGetActiveClientsInPartitionStats cluster (some cand1)
    let stats2 := ffsplitGetActiveClientsInPartitionStats cluster cand2
    if stats1.score > stats2.score then .ok (some true)
    else if stats1.score < stats2.score then .ok (some false)
    else if stats1.noClients > stats2.noClients then .ok (some true)
    else if stats1.noClients < stats2.noClients then .ok (some false)
    else
      let tieBreaker : Except Abort (Option Bool) :=
        match ffsplitIsPreferredPartition cand1.client cand1.configNodeList
            cand1.membershipNodeList with
        | .error abort => .error abort
        | .ok preferred => .ok (some preferred)
      match keepActivePartitionTieBreaker, cand2 with
      | true, some cand2 =>
        let qpnlClient1 := nodeListFindNodeId quoratePartitionNodeList cand1.client.nodeId
        let qpnlClient2 := nodeListFindNodeId quoratePartitionNodeList cand2.client.nodeId
        if qpnlClient1.isSome && qpnlClient2.isNone then .ok (some true)
        else if qpnlClient1.isNone && qpnlClient2.isSome then .ok (some false)
        else tieBreaker
      | _, _ => tieBreaker

/-- `qnetd_algo_ffsplit_partition_cmp`: is the first partition better than the second? -/
def ffsplitPartitionCmp (cluster : QnetdCluster) (cand1 : FfsplitCandidate)
    (cand2 : Option FfsplitCandidate) (quoratePartitionNodeList : NodeList)
    (keepActivePartitionTieBreaker : Bool) : Except Abort Bool :=
  match ffsplitPartitionCmpRes cluster cand1 cand2 quoratePartitionNodeList
      keepActivePartitionTieBreaker with
  | .error abort => .error abort
  | .ok none => .error .exitFailure
  | .ok (some res) => .ok res

/-- The loop of `qnetd_algo_ffsplit_select_partition` that keeps the best candidate. -/
def ffsplitBestCandidate (cluster : QnetdCluster) (quoratePartitionNodeList : NodeList)
    (keepActivePartitionTieBreaker : Bool) (best : Option FfsplitCandidate) :
    List FfsplitCandidate → Except Abort (Option FfsplitCandidate)
  | [] => .ok best
  | cand :: cands =>
    match ffsplitPartitionCmp cluster cand best quoratePartitionNodeList
        keepActivePartitionTieBreaker with
    | .error abort => .error abort
    | .ok better =>
      ffsplitBestCandidate cluster quoratePartitionNodeList keepActivePartitionTieBreaker
        (if better then some cand else best) cands

/-- The clients `qnetd_algo_ffsplit_select_partition` looks at, with what counts for each. -/
def ffsplitCandidates (cluster : QnetdCluster) (client : QnetdClient) (clientLeaving : Bool)
    (configNodeList membershipNodeList : NodeList) (clientHeuristics : TlvHeuristics) :
    List FfsplitCandidate :=
  cluster.clientList.filterMap fun iter =>
    if iter.nodeId = client.nodeId then
      if clientLeaving then none
      else some ⟨iter, configNodeList, membershipNodeList, clientHeuristics⟩
    else
      some ⟨iter, iter.configurationNodeList, iter.lastMembershipNodeList, iter.lastHeuristics⟩

/-- `qnetd_algo_ffsplit_select_partition`. -/
def ffsplitSelectPartition (cluster : QnetdCluster) (client : QnetdClient) (clientLeaving : Bool)
    (configNodeList membershipNodeList : NodeList) (clientHeuristics : TlvHeuristics) :
    Except Abort (Option NodeList) :=
  let keepActivePartitionTieBreaker : Bool :=
    cluster.clientList.all fun iter => iter.keepActivePartitionTieBreaker == .enabled
  match ffsplitBestCandidate cluster cluster.algorithmData.quoratePartitionNodeList
      keepActivePartitionTieBreaker none
      (ffsplitCandidates cluster client clientLeaving configNodeList membershipNodeList
        clientHeuristics) with
  | .error abort => .error abort
  | .ok best => .ok (best.map FfsplitCandidate.membershipNodeList)

/-- `qnetd_algo_ffsplit_update_nodes_state`. -/
def ffsplitUpdateNodesState (cluster : QnetdCluster) (client : QnetdClient)
    (clientLeaving : Bool) (quoratePartitionNodeList : Option NodeList) : QnetdCluster :=
  let newState (iter : QnetdClient) : FfsplitClientState :=
    if iter.nodeId = client.nodeId ∧ clientLeaving = true then .waitingForChange
    else
      match quoratePartitionNodeList with
      | none => .sendingNack
      | some list =>
        if (nodeListFindNodeId list iter.nodeId).isNone then .sendingNack else .sendingAck
  { cluster with
    clientList := cluster.clientList.map fun iter =>
      { iter with ffsplitData := { iter.ffsplitData with clientState := newState iter } } }

/-- The vote `qnetd_algo_ffsplit_send_votes` has for a client, if any. -/
def ffsplitVoteToSend (client : QnetdClient) (clientLeaving sendAcks : Bool)
    (iter : QnetdClient) : Option TlvVote :=
  if iter.nodeId = client.nodeId ∧ clientLeaving = true then none
  else if sendAcks then
    if iter.ffsplitData.clientState = .sendingAck then some .ack else none
  else
    if iter.ffsplitData.clientState = .sendingNack then some .nack else none

/-- What one turn of the loop of `qnetd_algo_ffsplit_send_votes` writes to the client
    it looks at. -/
def ffsplitSendVote (env : Env) (client : QnetdClient) (clientLeaving : Bool)
    (ringId : TlvRingId) (sendAcks : Bool) (iter : QnetdClient) : QnetdClient :=
  match ffsplitVoteToSend client clientLeaving sendAcks iter with
  | none => iter
  | some vote =>
    let ringIdToSend := if iter.nodeId = client.nodeId then ringId else iter.lastRingId
    let seqNum := iter.ffsplitData.voteInfoExpectedSeqNum + 1
    let iter :=
      { iter with ffsplitData := { iter.ffsplitData with voteInfoExpectedSeqNum := seqNum } }
    qnetdClientSendVoteInfo env iter seqNum ringIdToSend vote

/-- `qnetd_algo_ffsplit_send_votes`: the cluster and the number of votes sent.  A vote that
    cannot be queued schedules the disconnect of `client`, whoever the vote was for. -/
def ffsplitSendVotes (env : Env) (cluster : QnetdCluster) (client : QnetdClient)
    (clientLeaving : Bool) (ringId : TlvRingId) (sendAcks : Bool) : QnetdCluster × Nat :=
  let voted := cluster.clientList.filter fun iter =>
    (ffsplitVoteToSend client clientLeaving sendAcks iter).isSome
  let cluster' :=
    { cluster with
      clientList := cluster.clientList.map
        (ffsplitSendVote env client clientLeaving ringId sendAcks) }
  let cluster' :=
    if voted.all fun iter => env.voteInfoQueued iter.id then cluster'
    else cluster'.scheduleDisconnect client.id
  (cluster', voted.length)

/-- `qnetd_algo_ffsplit_no_clients_in_sending_state`. -/
def ffsplitNoClientsInSendingState (cluster : QnetdCluster) (sendingAcks : Bool) : Nat :=
  cluster.clientList.countP fun iter =>
    if sendingAcks then iter.ffsplitData.clientState == .sendingAck
    else iter.ffsplitData.clientState == .sendingNack

/-- Set the cluster state. -/
def QnetdCluster.setClusterState (cluster : QnetdCluster) (clusterState : FfsplitClusterState) :
    QnetdCluster :=
  { cluster with algorithmData := { cluster.algorithmData with clusterState } }

/-- The second phase of a round, as `qnetd_algo_ffsplit_do` and
    `qnetd_algo_ffsplit_vote_info_reply_received` both enter it: send the ACKs, and finish the
    round if there are none. -/
def ffsplitSendAcks (env : Env) (cluster : QnetdCluster) (client : QnetdClient)
    (clientLeaving : Bool) (ringId : TlvRingId) : QnetdCluster × List AlgoLog :=
  let (cluster, sentVotes) :=
    ffsplitSendVotes env (cluster.setClusterState .sendingAcks) client clientLeaving ringId true
  if sentVotes = 0 then (cluster.setClusterState .waitingForChange, [.ffsplitNoClientGetsAck])
  else (cluster, [])

/-- The part of `qnetd_algo_ffsplit_do` after the partition has been selected and kept:
    everybody gets its new state, and the NACKs (or, if there are none, the ACKs) are sent. -/
def ffsplitStartRound (env : Env) (cluster : QnetdCluster) (client : QnetdClient)
    (clientLeaving : Bool) (ringId : TlvRingId) (quoratePartitionNodeList : Option NodeList) :
    QnetdCluster × List AlgoLog :=
  let cluster := ffsplitUpdateNodesState cluster client clientLeaving quoratePartitionNodeList
  let (cluster, sentVotes) :=
    ffsplitSendVotes env (cluster.setClusterState .sendingNacks) client clientLeaving ringId false
  if sentVotes = 0 then
    let (cluster, log) := ffsplitSendAcks env cluster client clientLeaving ringId
    (cluster, .ffsplitNoClientGetsNack :: log)
  else (cluster, [])

/-- `qnetd_algo_ffsplit_do`. -/
def ffsplitDo (env : Env) (cluster : QnetdCluster) (client : QnetdClient) (clientLeaving : Bool)
    (ringId : TlvRingId) (configNodeList membershipNodeList : NodeList)
    (clientHeuristics : TlvHeuristics) : Except Abort AlgoResult :=
  let cluster := cluster.setClusterState .waitingForStableMembership
  if ffsplitIsMembershipStable cluster client clientLeaving ringId configNodeList
      membershipNodeList = false then
    .ok { cluster, resultVote := .waitForReply, log := [.ffsplitMembershipNotStable] }
  else
    match ffsplitSelectPartition cluster client clientLeaving configNodeList membershipNodeList
        clientHeuristics with
    | .error abort => .error abort
    | .ok none =>
      let cluster := { cluster with
        algorithmData := { cluster.algorithmData with quoratePartitionNodeList := [] } }
      let (cluster, log) := ffsplitStartRound env cluster client clientLeaving ringId none
      .ok { cluster, log := .ffsplitMembershipStable :: .ffsplitNoQuoratePartition :: log }
    | .ok (some list) =>
      let log := [.ffsplitMembershipStable, .ffsplitQuoratePartitionSelected list]
      if env.partitionClone = false then
        let cluster := { cluster with
          algorithmData := { cluster.algorithmData with quoratePartitionNodeList := [] } }
        .ok { cluster, replyErrorCode := .internalError, log }
      else
        let cluster := { cluster with
          algorithmData := { cluster.algorithmData with quoratePartitionNodeList := list } }
        let (cluster, log') :=
          ffsplitStartRound env cluster client clientLeaving ringId (some list)
        .ok { cluster, log := log ++ log' }

/-- `qnetd_algo_ffsplit_config_node_list_received`. -/
def ffsplitConfigNodeListReceived (env : Env) (cluster : QnetdCluster) (client : QnetdClient)
    (nodes : NodeList) (initial : Bool) : Except Abort AlgoResult :=
  if nodeListSize nodes = 0 then .ok { cluster, replyErrorCode := .invalidConfigNodeList }
  else if (nodeListFindNodeId nodes client.nodeId).isNone then
    .ok { cluster, replyErrorCode := .invalidConfigNodeList }
  else if initial || nodeListSize client.lastMembershipNodeList == 0 then
    .ok { cluster, resultVote := .askLater }
  else
    ffsplitDo env cluster client false client.lastRingId nodes client.lastMembershipNodeList
      client.lastHeuristics

/-- `qnetd_algo_ffsplit_membership_node_list_received`. -/
def ffsplitMembershipNodeListReceived (env : Env) (cluster : QnetdCluster) (client : QnetdClient)
    (ringId : TlvRingId) (nodes : NodeList) (heuristics : TlvHeuristics) :
    Except Abort AlgoResult :=
  if nodeListSize nodes = 0 then .ok { cluster, replyErrorCode := .invalidMembershipNodeList }
  else if (nodeListFindNodeId nodes client.nodeId).isNone then
    .ok { cluster, replyErrorCode := .invalidMembershipNodeList }
  else if nodeListSize client.configurationNodeList = 0 then
    .ok { cluster, resultVote := .askLater }
  else ffsplitDo env cluster client false ringId client.configurationNodeList nodes heuristics

/-- `qnetd_algo_ffsplit_quorum_node_list_received`. -/
def ffsplitQuorumNodeListReceived (cluster : QnetdCluster) : AlgoResult :=
  { cluster, resultVote := .noChange }

/-- `qnetd_algo_ffsplit_client_disconnect`; the freed cluster data of the last client are
    given back as the initial ones. -/
def ffsplitClientDisconnect (env : Env) (cluster : QnetdCluster) (client : QnetdClient)
    (serverGoingDown : Bool) : Except Abort AlgoResult :=
  let decided :=
    if serverGoingDown then .ok { cluster }
    else
      ffsplitDo env cluster client true client.lastRingId client.configurationNodeList
        client.lastMembershipNodeList client.lastHeuristics
  match decided with
  | .error abort => .error abort
  | .ok res =>
    if qnetdClusterSize res.cluster = 1 then
      .ok { res with cluster := { res.cluster with algorithmData := {} } }
    else .ok res

/-- `qnetd_algo_ffsplit_ask_for_vote_received`. -/
def ffsplitAskForVoteReceived (cluster : QnetdCluster) : AlgoResult :=
  { cluster, replyErrorCode := .unsupportedDecisionAlgorithmMessage }

/-- `qnetd_algo_ffsplit_vote_info_reply_received`. -/
def ffsplitVoteInfoReplyReceived (env : Env) (cluster : QnetdCluster) (client : QnetdClient)
    (msgSeqNum : UInt32) : AlgoResult :=
  if client.ffsplitData.voteInfoExpectedSeqNum ≠ msgSeqNum then
    { cluster, log := [.ffsplitOldVoteInfoReply] }
  else
    let cluster := cluster.modifyClient client.id fun c =>
      { c with ffsplitData := { c.ffsplitData with clientState := .waitingForChange } }
    match cluster.algorithmData.clusterState with
    | .sendingNacks =>
      if ffsplitNoClientsInSendingState cluster false = 0 then
        let (cluster, log) := ffsplitSendAcks env cluster client false client.lastRingId
        { cluster, log := .ffsplitAllNackVotesSent :: log }
      else { cluster }
    | .sendingAcks =>
      if ffsplitNoClientsInSendingState cluster true = 0 then
        { cluster := cluster.setClusterState .waitingForChange
          log := [.ffsplitAllAckVotesSent] }
      else { cluster }
    | .waitingForChange | .waitingForStableMembership => { cluster }

/-- `qnetd_algo_ffsplit_heuristics_change_received`. -/
def ffsplitHeuristicsChangeReceived (env : Env) (cluster : QnetdCluster) (client : QnetdClient)
    (heuristics : TlvHeuristics) : Except Abort AlgoResult :=
  if nodeListSize client.configurationNodeList = 0 ∨
      nodeListSize client.lastMembershipNodeList = 0 then
    .ok { cluster, resultVote := .askLater }
  else
    ffsplitDo env cluster client false client.lastRingId client.configurationNodeList
      client.lastMembershipNodeList heuristics

end Qdevice.Qnetd
