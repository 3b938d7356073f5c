import Qdevice.Native.QnetdClient

/-! # The last man standing algorithms

`qnetd-algo-utils.c`, `qnetd-algo-lms.c` and `qnetd-algo-2nodelms.c`.  LMS groups the clients
into partitions by their stored ring ids and answers a client by comparing its own
partition with the others; 2nodelms only looks at the other node.  The counters of a
partition are C `int`s that count connections, so they are plain integers here. -/

namespace Qdevice.Qnetd

/-! ### Partitions (`qnetd-algo-utils.c`) -/

/-- `qnetd_algo_all_ring_ids_match`: `true` for the return value 0. -/
def algoAllRingIdsMatch (cluster : QnetdCluster) (client : QnetdClient) (ringId : TlvRingId) :
    Bool :=
  cluster.clientList.all fun otherClient =>
    otherClient.id == client.id ||
      let inOurPartition :=
        client.lastMembershipNodeList.any (fun n => n.nodeId == otherClient.nodeId) ||
          otherClient.lastMembershipNodeList.any (fun n => n.nodeId == client.nodeId)
      !(inOurPartition && !tlvRingIdEq ringId otherClient.lastRingId)

/-- `qnetd_algo_find_partition`. -/
def algoFindPartition (partitionsList : List AlgoPartition) (ringId : TlvRingId) :
    Option AlgoPartition :=
  partitionsList.find? fun partition => tlvRingIdEq partition.ringId ringId

/-- What a client adds to the score of its partition. -/
def algoClientScore (heuristics : TlvHeuristics) : Int :=
  match heuristics with
  | .undefined => 1
  | .pass => 1 + 1
  | .fail => 1 - 1

/-- Count a client in the partition `qnetd_algo_find_partition` gives for its ring id. -/
def algoCountClient (otherClient : QnetdClient) : List AlgoPartition → List AlgoPartition
  | [] => []
  | partition :: rest =>
    if tlvRingIdEq partition.ringId otherClient.lastRingId then
      { partition with
        numNodes := partition.numNodes + 1
        score := partition.score + algoClientScore otherClient.lastHeuristics } :: rest
    else partition :: algoCountClient otherClient rest

/-- The loop of `qnetd_algo_create_partitions`: the list as it is left, and the number of new
    partitions unless an allocation failed. -/
def algoCreatePartitionsLoop (env : Env) (partitionsList : List AlgoPartition)
    (numPartitions : Nat) : List QnetdClient → List AlgoPartition × Option Nat
  | [] => (partitionsList, some numPartitions)
  | otherClient :: rest =>
    if otherClient.lastRingId.seq = 0 then
      algoCreatePartitionsLoop env partitionsList numPartitions rest
    else
      match algoFindPartition partitionsList otherClient.lastRingId with
      | some _ =>
        algoCreatePartitionsLoop env (algoCountClient otherClient partitionsList)
          numPartitions rest
      | none =>
        if env.partitionAlloc numPartitions then
          let partitionsList := partitionsList ++ [⟨otherClient.lastRingId, 0, 0⟩]
          algoCreatePartitionsLoop env (algoCountClient otherClient partitionsList)
            (numPartitions + 1) rest
        else (partitionsList, none)

/-- `qnetd_algo_create_partitions`. -/
def algoCreatePartitions (env : Env) (cluster : QnetdCluster)
    (partitionsList : List AlgoPartition) : List AlgoPartition × Option Nat :=
  algoCreatePartitionsLoop env partitionsList 0 cluster.clientList

/-! ### LMS (`qnetd-algo-lms.c`) -/

/-- `INT_MAX`, where the search for the lowest node id starts. -/
def intMax : UInt32 := 2147483647

/-- The first partition with the largest value of `key`. -/
def lmsLeadingPartition (key : AlgoPartition → Int) (partitionList : List AlgoPartition) :
    Option AlgoPartition :=
  partitionList.foldl (fun best curPartition =>
    match best with
    | none => some curPartition
    | some b => if key b < key curPartition then some curPartition else best) none

/-- `joint_leader`: some partition other than the leader has the leader's value of `key`. -/
def lmsJointLeader (key : AlgoPartition → Int) (leader : AlgoPartition)
    (partitionList : List AlgoPartition) : Bool :=
  decide (1 < partitionList.countP fun curPartition => key leader == key curPartition)

/-- The tie-breaker node id and ring id that `do_lms_algorithm` ends up with.  In mode `nodeId`
    the loop compares the node id of `client`, not of `other_client`. -/
def lmsTieBreakerNode (cluster : QnetdCluster) (client : QnetdClient) : UInt32 × TlvRingId :=
  let tbNodeId : UInt32 :=
    match client.tieBreaker.mode with
    | .lowest => intMax
    | .highest => 0
    | .nodeId => client.tieBreaker.nodeId
    | .unset => 4294967295
  cluster.clientList.foldl (fun (tbNodeId, tbNodeRingId) otherClient =>
    match client.tieBreaker.mode with
    | .lowest =>
      if otherClient.nodeId < tbNodeId then (otherClient.nodeId, otherClient.lastRingId)
      else (tbNodeId, tbNodeRingId)
    | .highest =>
      if otherClient.nodeId > tbNodeId then (otherClient.nodeId, otherClient.lastRingId)
      else (tbNodeId, tbNodeRingId)
    | .nodeId =>
      if client.tieBreaker.nodeId = client.nodeId then (tbNodeId, otherClient.lastRingId)
      else (tbNodeId, tbNodeRingId)
    | .unset => (tbNodeId, .zero)) (tbNodeId, .zero)

/-- The newcomer rule applies: some client of another ring was last answered with ACK. -/
def lmsOtherActivePartition (cluster : QnetdCluster) (ringId : TlvRingId) : Bool :=
  cluster.clientList.any fun otherClient =>
    !tlvRingIdEq ringId otherClient.lastRingId && otherClient.lmsInfo.lastResult == .ack

/-- Store what `info` holds when `do_lms_algorithm` returns. -/
def lmsSetInfo (cluster : QnetdCluster) (client : QnetdClient) (lastResult : TlvVote)
    (partitionList : List AlgoPartition) : QnetdCluster :=
  cluster.modifyClient client.id fun c =>
    { c with lmsInfo := { c.lmsInfo with lastResult, partitionList } }

/-- Answer ACK or NACK, remember it and free the partitions. -/
def lmsAnswer (cluster : QnetdCluster) (client : QnetdClient) (ack : Bool)
    (log : Bool → AlgoLog) : AlgoResult :=
  let vote : TlvVote := if ack then .ack else .nack
  { cluster := lmsSetInfo cluster client vote [], resultVote := vote, log := [log ack] }

/-- `do_lms_algorithm`. -/
def doLmsAlgorithm (env : Env) (cluster : QnetdCluster) (client : QnetdClient)
    (ringId : TlvRingId) : Except Abort AlgoResult :=
  let info := client.lmsInfo
  let cluster := cluster.modifyClient client.id qnetdClientAlgoTimerAbort
  let wait (partitionList : List AlgoPartition) (log : AlgoLog) : AlgoResult :=
    let cluster := cluster.modifyClient client.id (qnetdClientAlgoTimerSchedule env)
    { cluster := lmsSetInfo cluster client .waitForReply partitionList
      resultVote := .waitForReply, log := [log] }
  if algoAllRingIdsMatch cluster client ringId = false then
    .ok (wait info.partitionList .lmsRingIdNotUnique)
  else
    match algoCreatePartitions env cluster info.partitionList with
    | (partitionList, none) =>
      .ok { cluster := lmsSetInfo cluster client info.lastResult partitionList
            replyErrorCode := .internalError, log := [.lmsErrorCreatingPartitionList] }
    | (partitionList, some 0) => .ok (wait partitionList .lmsNoPartitionsFound)
    | (_, some 1) => .ok (lmsAnswer cluster client true fun _ => .lmsOnlyOnePartition)
    | (partitionList, some (_ + 2)) =>
      if info.lastResult = .undefined ∧ lmsOtherActivePartition cluster ringId = true then
        -- the NACK is not saved, so the client stays a newcomer
        .ok { cluster := lmsSetInfo cluster client info.lastResult [], resultVote := .nack
              log := [.lmsNewPartitionNack] }
      else
        match lmsLeadingPartition AlgoPartition.score partitionList with
        | none => .error .nullDereference
        | some bestScorePartition =>
          if lmsJointLeader AlgoPartition.score bestScorePartition partitionList = false then
            .ok (lmsAnswer cluster client (tlvRingIdEq bestScorePartition.ringId ringId)
              .lmsBestScorePartition)
          else
            match lmsLeadingPartition AlgoPartition.numNodes partitionList with
            | none => .error .nullDereference
            | some largestPartition =>
              if lmsJointLeader AlgoPartition.numNodes largestPartition partitionList = false then
                .ok (lmsAnswer cluster client (tlvRingIdEq largestPartition.ringId ringId)
                  .lmsLargestPartition)
              else
                let (tbNodeId, tbNodeRingId) := lmsTieBreakerNode cluster client
                .ok (lmsAnswer cluster client
                  (client.nodeId == tbNodeId || tlvRingIdEq tbNodeRingId ringId) .lmsTieBreaker)

/-- `qnetd_algo_lms_client_init`. -/
def lmsClientInit (cluster : QnetdCluster) (client : QnetdClient) : AlgoResult :=
  { cluster := cluster.modifyClient client.id fun c => { c with lmsInfo := {} } }

/-- `qnetd_algo_lms_config_node_list_received`. -/
def lmsConfigNodeListReceived (cluster : QnetdCluster) (client : QnetdClient)
    (nodes : NodeList) : AlgoResult :=
  { cluster := cluster.modifyClient client.id fun c =>
      { c with lmsInfo := { c.lmsInfo with numConfigNodes := nodeListSize nodes } }
    resultVote := .noChange }

/-- `qnetd_algo_lms_membership_node_list_received`: the new ring id is used, the new list and
    heuristics are not. -/
def lmsMembershipNodeListReceived (env : Env) (cluster : QnetdCluster) (client : QnetdClient)
    (ringId : TlvRingId) : Except Abort AlgoResult :=
  doLmsAlgorithm env cluster client ringId

/-- `qnetd_algo_lms_quorum_node_list_received`. -/
def lmsQuorumNodeListReceived (env : Env) (cluster : QnetdCluster) (client : QnetdClient) :
    Except Abort AlgoResult :=
  doLmsAlgorithm env cluster client client.lastRingId

/-- `qnetd_algo_lms_ask_for_vote_received`. -/
def lmsAskForVoteReceived (env : Env) (cluster : QnetdCluster) (client : QnetdClient) :
    Except Abort AlgoResult :=
  doLmsAlgorithm env cluster client client.lastRingId

/-- What a timer callback returns beside its result: `reschedule_timer` and `send_vote`. -/
structure TimerResult where
  result : AlgoResult
  rescheduleTimer : Bool := false
  sendVote : Bool := false

/-- `qnetd_algo_lms_timer_callback`. -/
def lmsTimerCallback (env : Env) (cluster : QnetdCluster) (client : QnetdClient) :
    Except Abort TimerResult :=
  match doLmsAlgorithm env cluster client client.lastRingId with
  | .error abort => .error abort
  | .ok res =>
    .ok { result := res
          sendVote := decide (res.replyErrorCode = .noError ∧
            (res.resultVote = .ack ∨ res.resultVote = .nack))
          rescheduleTimer := decide (res.replyErrorCode = .noError ∧
            res.resultVote = .waitForReply) }

/-! ### 2nodelms (`qnetd-algo-2nodelms.c`) -/

/-- `qnetd_algo_2nodelms_client_init`. -/
def twoNodeLmsClientInit (cluster : QnetdCluster) (client : QnetdClient) : AlgoResult :=
  { cluster := cluster.modifyClient client.id fun c => { c with twoNodeLmsInfo := {} } }

/-- `qnetd_algo_2nodelms_config_node_list_received`. -/
def twoNodeLmsConfigNodeListReceived (cluster : QnetdCluster) (client : QnetdClient)
    (nodes : NodeList) : AlgoResult :=
  let cluster := cluster.modifyClient client.id fun c =>
    { c with twoNodeLmsInfo := { c.twoNodeLmsInfo with numConfigNodes := nodeListSize nodes } }
  if nodeListSize nodes ≠ 2 then
    { cluster, replyErrorCode := .unsupportedDecisionAlgorithm, resultVote := .nack }
  else { cluster, resultVote := .noChange }

/-- Set `last_result` and answer with it. -/
def twoNodeLmsAnswer (cluster : QnetdCluster) (client : QnetdClient) (vote : TlvVote) :
    AlgoResult :=
  { cluster := cluster.modifyClient client.id fun c =>
      { c with twoNodeLmsInfo := { c.twoNodeLmsInfo with lastResult := vote } }
    resultVote := vote }

/-- `qnetd_algo_2nodelms_membership_node_list_received`. -/
def twoNodeLmsMembershipNodeListReceived (cluster : QnetdCluster) (client : QnetdClient)
    (ringId : TlvRingId) (nodes : NodeList) (heuristics : TlvHeuristics) : AlgoResult :=
  if client.twoNodeLmsInfo.lastResult = .undefined ∧
      (cluster.clientList.any fun otherClient =>
        !tlvRingIdEq ringId otherClient.lastRingId &&
          otherClient.twoNodeLmsInfo.lastResult == .ack) = true then
    -- the NACK is not saved, so the client stays a newcomer
    { cluster, resultVote := .nack }
  else if nodeListSize nodes = 2 then twoNodeLmsAnswer cluster client .ack
  else if cluster.clientList.length = 1 then twoNodeLmsAnswer cluster client .ack
  else
    let lowNodeId := cluster.clientList.foldl
      (fun low c => if c.nodeId < low then c.nodeId else low) 4294967295
    let highNodeId := cluster.clientList.foldl
      (fun high c => if c.nodeId > high then c.nodeId else high) 0
    let otherNodeHeuristics := cluster.clientList.foldl
      (fun h c => if c.id ≠ client.id then c.lastHeuristics else h) TlvHeuristics.undefined
    match tlvHeuristicsCmp heuristics otherNodeHeuristics with
    | .gt => twoNodeLmsAnswer cluster client .ack
    | .lt => twoNodeLmsAnswer cluster client .nack
    | .eq =>
      match client.tieBreaker.mode with
      | .lowest =>
        twoNodeLmsAnswer cluster client (if client.nodeId = lowNodeId then .ack else .nack)
      | .highest =>
        twoNodeLmsAnswer cluster client (if client.nodeId = highNodeId then .ack else .nack)
      | .nodeId =>
        twoNodeLmsAnswer cluster client
          (if client.nodeId = client.tieBreaker.nodeId then .ack else .nack)
      | .unset => twoNodeLmsAnswer cluster client .nack

/-- `qnetd_algo_2nodelms_ask_for_vote_received`. -/
def twoNodeLmsAskForVoteReceived (cluster : QnetdCluster) (client : QnetdClient) : AlgoResult :=
  { cluster
    resultVote := if client.twoNodeLmsInfo.lastResult = .undefined then .askLater
      else client.twoNodeLmsInfo.lastResult }

end Qdevice.Qnetd
