import Qdevice.Native.MsgDecoded

/-! # qnetd clients and clusters

`struct qnetd_client` (`qnetd-client.h`), `struct qnetd_cluster` (`qnetd-cluster.h`), the
parts of `struct qnetd_instance` the message handlers read, and the functions of
`qnetd-client-send.c` and `qnetd-client-algo-timer.c` that work on one client.

A pointer to a client is the client's identity `ClientId`.  What the outside world decides
while one event is handled (is there memory, is there a free send buffer, what
certificate does the peer show) is an `Env`, so every function stays a function. -/

namespace Qdevice.Qnetd

/-- Identity of a `struct qnetd_client`, that is, of one connection. -/
abbrev ClientId := Nat

/-- Identity of a `struct qnetd_cluster`. -/
abbrev ClusterId := Nat

/-- Identity of a peer certificate. -/
abbrev Cert := Nat

/-- How the process ends when it does not go on as written: a failing `assert`,
    `exit(EXIT_FAILURE)` in a branch for an unhandled case, a pointer that is used while it is
    NULL, or a list element that is linked into a second list while it is still in the first. -/
inductive Abort where
  | assertFailed
  | exitFailure
  | nullDereference
  | corruptedList
deriving DecidableEq

/-- Outcomes of the calls one event makes into the allocator, the send buffer lists,
    the timer list and NSS. -/
structure Env where
  /-- `qnetd_client_send_vote_info` finds a buffer for this client. -/
  voteInfoQueued : ClientId → Bool
  /-- The answer to the handled message finds a buffer. -/
  replyQueued : Bool
  /-- `node_list_clone` succeeds when a received list is stored. -/
  nodeListClone : Bool
  /-- `node_list_clone` succeeds when ffsplit keeps the selected partition. -/
  partitionClone : Bool
  /-- `malloc` of the n-th partition of one `qnetd_algo_create_partitions` run succeeds. -/
  partitionAlloc : Nat → Bool
  /-- `timer_list_add` succeeds. -/
  timerListAdd : Bool
  /-- `malloc` of the cluster name in a preinit succeeds. -/
  clusterNameAlloc : Bool
  /-- `malloc` of a new cluster succeeds. -/
  clusterAlloc : Bool
  /-- `nss_sock_start_ssl_as_server`: fails, or gives a socket whose peer shows this
      certificate (or none). -/
  startSsl : Option (Option Cert)

/-- Everything succeeds. -/
def Env.ok : Env where
  voteInfoQueued := fun _ => true
  replyQueued := true
  nodeListClone := true
  partitionClone := true
  partitionAlloc := fun _ => true
  timerListAdd := true
  clusterNameAlloc := true
  clusterAlloc := true
  startSsl := some none

/-- The fields of `struct qnetd_instance` and its advanced settings that message handlers read. -/
structure Settings where
  tlsSupported : TlvTlsSupported
  tlsClientCertRequired : Bool
  heartbeatIntervalMin : UInt32
  heartbeatIntervalMax : UInt32
  keepActivePartitionTieBreaker : TlvKeepActivePartitionTieBreaker
  dpdEnabled : Bool
  /-- `(PRUint32)(dpd_interval_coefficient * heartbeat_interval)`; the coefficient is a `double`. -/
  dpdInterval : UInt32 → UInt32
  /-- `CERT_VerifyCertName(cert, name) == SECSuccess`; the name ends at its first NUL byte. -/
  certVerifyCertName : Cert → List UInt8 → Bool

/-- `enum qnetd_algo_ffsplit_client_state`. -/
inductive FfsplitClientState where
  | waitingForChange
  | sendingNack
  | sendingAck
deriving DecidableEq

/-- `struct qnetd_algo_ffsplit_client_data`. -/
structure FfsplitClientData where
  clientState : FfsplitClientState := .waitingForChange
  voteInfoExpectedSeqNum : UInt32 := 0
deriving DecidableEq

/-- `enum qnetd_algo_ffsplit_cluster_state`. -/
inductive FfsplitClusterState where
  | waitingForChange
  | waitingForStableMembership
  | sendingNacks
  | sendingAcks
deriving DecidableEq

/-- `struct qnetd_algo_ffsplit_cluster_data`. -/
structure FfsplitClusterData where
  clusterState : FfsplitClusterState := .waitingForChange
  quoratePartitionNodeList : NodeList := []
deriving DecidableEq

/-- `struct qnetd_algo_partition`. -/
structure AlgoPartition where
  ringId : TlvRingId
  numNodes : Int
  score : Int
deriving DecidableEq

/-- `struct qnetd_algo_lms_info`; a `lastResult` of `undefined` is the zero of a newcomer. -/
structure LmsInfo where
  numConfigNodes : Nat := 0
  lastResult : TlvVote := .undefined
  partitionList : List AlgoPartition := []
deriving DecidableEq

/-- `struct qnetd_algo_2nodelms_info`.  `client_init` leaves `num_config_nodes` unset
    and nothing reads it before it is written. -/
structure TwoNodeLmsInfo where
  numConfigNodes : Nat := 0
  lastResult : TlvVote := .undefined
deriving DecidableEq

/-- One call of `qnetd_client_send_vote_info`: the message, and whether it was put into
    the client's `send_buffer_list`. -/
structure VoteInfo where
  msgSeqNumber : UInt32
  ringId : TlvRingId
  vote : TlvVote
  queued : Bool
deriving DecidableEq

/-- `QNETD_DEFAULT_HEARTBEAT_INTERVAL_MAX`. -/
def qnetdDefaultHeartbeatIntervalMax : UInt32 := 2 * 60 * 1000

/-- `struct qnetd_client`, with the values `qnetd_client_init` gives.

    `algorithm_data` is one field for each algorithm that keeps data, of which only the
    client's own algorithm reads and writes one.  `voteInfos` are all calls of
    `qnetd_client_send_vote_info` made for this connection, oldest first: the history of its
    `send_buffer_list`, restricted to vote infos. -/
structure QnetdClient where
  id : ClientId
  peerCertificate : Option Cert := none
  tlsStarted : Bool := false
  tlsPeerCertificateVerified : Bool := false
  preinitReceived : Bool := false
  initReceived : Bool := false
  clusterName : Option (List UInt8) := none
  nodeIdSet : Bool := false
  nodeId : UInt32 := 0
  decisionAlgorithm : UInt16 := 0
  tieBreaker : TlvTieBreaker := .zero
  heartbeatInterval : UInt32 := qnetdDefaultHeartbeatIntervalMax
  ffsplitData : FfsplitClientData := {}
  lmsInfo : LmsInfo := {}
  twoNodeLmsInfo : TwoNodeLmsInfo := {}
  configurationNodeList : NodeList := []
  configVersion : Option UInt64 := none
  lastMembershipNodeList : NodeList := []
  lastQuorumNodeList : NodeList := []
  lastRingId : TlvRingId := .zero
  cluster : Option ClusterId := none
  algoTimer : Option UInt32 := none
  algoTimerVoteInfoMsqSeqNumber : UInt32 := 0
  scheduleDisconnect : Bool := false
  dpdTimer : Option UInt32 := none
  lastSentVote : TlvVote := .undefined
  lastSentAckNackVote : TlvVote := .undefined
  lastMembershipHeuristics : TlvHeuristics := .undefined
  lastRegularHeuristics : TlvHeuristics := .undefined
  lastHeuristics : TlvHeuristics := .undefined
  keepActivePartitionTieBreaker : TlvKeepActivePartitionTieBreaker := .disabled
  voteInfos : List VoteInfo := []
deriving DecidableEq

/-- `struct qnetd_cluster`, with the clients themselves in `client_list`. -/
structure QnetdCluster where
  id : ClusterId
  clusterName : List UInt8
  clientList : List QnetdClient := []
  algorithmData : FfsplitClusterData := {}
deriving DecidableEq

namespace QnetdCluster

/-- The client behind a pointer. -/
def client? (cluster : QnetdCluster) (id : ClientId) : Option QnetdClient :=
  cluster.clientList.find? fun client => client.id == id

/-- Write to the client behind a pointer. -/
def modifyClient (cluster : QnetdCluster) (id : ClientId) (f : QnetdClient → QnetdClient) :
    QnetdCluster :=
  { cluster with
    clientList := cluster.clientList.map fun client => if client.id = id then f client else client }

/-- Set `schedule_disconnect` of the client behind a pointer. -/
def scheduleDisconnect (cluster : QnetdCluster) (id : ClientId) : QnetdCluster :=
  cluster.modifyClient id fun client => { client with scheduleDisconnect := true }

@[simp] theorem modifyClient_algorithmData (cluster : QnetdCluster) (id : ClientId)
    (f : QnetdClient → QnetdClient) :
    (cluster.modifyClient id f).algorithmData = cluster.algorithmData := rfl

@[simp] theorem scheduleDisconnect_algorithmData (cluster : QnetdCluster) (id : ClientId) :
    (cluster.scheduleDisconnect id).algorithmData = cluster.algorithmData := rfl

end QnetdCluster

/-- `qnetd_cluster_size`. -/
def qnetdClusterSize (cluster : QnetdCluster) : Nat := cluster.clientList.length

/-- `qnetd_cluster_find_client_by_node_id`. -/
def qnetdClusterFindClientByNodeId (cluster : QnetdCluster) (nodeId : UInt32) :
    Option QnetdClient :=
  cluster.clientList.find? fun client => client.nodeId == nodeId

/-- What `qnetd_client_send_vote_info` writes to the client. -/
def qnetdClientSendVoteInfo (env : Env) (client : QnetdClient) (msgSeqNumber : UInt32)
    (ringId : TlvRingId) (vote : TlvVote) : QnetdClient :=
  { client with
    lastSentVote := vote
    lastSentAckNackVote :=
      if vote = .ack ∨ vote = .nack then vote else client.lastSentAckNackVote
    voteInfos := client.voteInfos ++
      [{ msgSeqNumber, ringId, vote, queued := env.voteInfoQueued client.id }] }

/-- `TIMER_LIST_MAX_INTERVAL`. -/
def timerListMaxInterval : UInt32 := 18000000

/-- The interval check of `timer_list_add` and `timer_list_entry_set_interval`. -/
def timerListIntervalValid (interval : UInt32) : Bool :=
  1 ≤ interval && interval ≤ timerListMaxInterval

/-- `qnetd_client_algo_timer_abort`. -/
def qnetdClientAlgoTimerAbort (client : QnetdClient) : QnetdClient :=
  { client with algoTimer := none }

/-- `qnetd_client_algo_timer_schedule_timeout`; a running timer is aborted first. -/
def qnetdClientAlgoTimerScheduleTimeout (env : Env) (client : QnetdClient) (timeout : UInt32) :
    QnetdClient :=
  { client with
    algoTimer := if timerListIntervalValid timeout && env.timerListAdd then some timeout else none }

/-- `qnetd_client_algo_timer_schedule`. -/
def qnetdClientAlgoTimerSchedule (env : Env) (client : QnetdClient) : QnetdClient :=
  qnetdClientAlgoTimerScheduleTimeout env client (client.heartbeatInterval / 4)

/-- The debug messages by which the algorithms tell what they decided. -/
inductive AlgoLog where
  | ffsplitMembershipNotStable
  | ffsplitMembershipStable
  | ffsplitNoQuoratePartition
  | ffsplitQuoratePartitionSelected (nodes : NodeList)
  | ffsplitNoClientGetsNack
  | ffsplitNoClientGetsAck
  | ffsplitOldVoteInfoReply
  | ffsplitAllNackVotesSent
  | ffsplitAllAckVotesSent
  | lmsRingIdNotUnique
  | lmsErrorCreatingPartitionList
  | lmsNoPartitionsFound
  | lmsOnlyOnePartition
  | lmsNewPartitionNack
  | lmsBestScorePartition (ack : Bool)
  | lmsLargestPartition (ack : Bool)
  | lmsTieBreaker (ack : Bool)
deriving DecidableEq

/-- What an algorithm callback leaves behind: the cluster (its clients included), the
    error code it returns, the vote it stores through `result_vote` and what it logged. -/
structure AlgoResult where
  cluster : QnetdCluster
  replyErrorCode : TlvReplyErrorCode := .noError
  resultVote : TlvVote := .noChange
  log : List AlgoLog := []
deriving DecidableEq

end Qdevice.Qnetd
