import Qdevice.Native.QnetdAlgorithm

/-! # Message handlers of qnetd

`qnetd-client-msg-received.c`.  A handler works on the cluster of the client the message
came from; a client that is not registered yet is alone in a cluster of its own.  INIT
is the exception, as it looks the cluster up by name: its steps are here and
`Qdevice.Native.QnetdInstance` puts them together. -/

namespace Qdevice.Qnetd

/-- The answer a handler puts into the send buffer list of the client. -/
inductive Reply where
  | serverError (seqNumber : Option UInt32) (replyErrorCode : TlvReplyErrorCode)
  | preinitReply (seqNumber : Option UInt32) (tlsSupported : TlvTlsSupported)
      (tlsClientCertRequired : Bool)
  | initReply (seqNumber : Option UInt32) (replyErrorCode : TlvReplyErrorCode)
      (supportedMsgs supportedOpts : Bool)
  | setOptionReply (seqNumber : Option UInt32) (heartbeatInterval : Option UInt32)
      (keepActivePartitionTieBreaker : Option TlvKeepActivePartitionTieBreaker)
  | echoReply
  | nodeListReply (seqNumber : UInt32) (nodeListType : TlvNodeListType) (ringId : TlvRingId)
      (vote : TlvVote)
  | askForVoteReply (seqNumber : UInt32) (ringId : TlvRingId) (vote : TlvVote)
  | heuristicsChangeReply (seqNumber : UInt32) (ringId : TlvRingId) (heuristics : TlvHeuristics)
      (vote : TlvVote)
deriving DecidableEq

/-- What a handler leaves behind.  `disconnect` is the return value -1. -/
structure Handled where
  cluster : QnetdCluster
  disconnect : Bool := false
  reply : Option Reply := none
  log : List AlgoLog := []
deriving DecidableEq

/-- Put an answer into the send buffer list; without a buffer the client is disconnected. -/
def sendReply (env : Env) (cluster : QnetdCluster) (log : List AlgoLog) (reply : Reply) :
    Handled :=
  if env.replyQueued then { cluster, reply := some reply, log }
  else { cluster, disconnect := true, log }

/-- Answer a message with a server error (`qnetd_client_send_err`). -/
def qnetdClientSendErr (env : Env) (cluster : QnetdCluster) (log : List AlgoLog)
    (msg : MsgDecoded) (replyErrorCode : TlvReplyErrorCode) : Handled :=
  sendReply env cluster log (.serverError msg.seqNumber replyErrorCode)

/-- Return value of `qnetd_client_msg_received_check_tls`: success, the TLS_REQUIRED error, or
    a certificate that disconnects the client. -/
inductive TlsCheck where
  | success (client : QnetdClient)
  | tlsRequired
  | disconnect

/-- `tls_required` of `qnetd_client_msg_received_check_tls`. -/
def checkTlsRequired (settings : Settings) : Bool :=
  match settings.tlsSupported with
  | .unsupported => false
  | .supported => false
  | .required => true

/-- `check_certificate` of `qnetd_client_msg_received_check_tls`. -/
def checkTlsCertificate (settings : Settings) (client : QnetdClient) : Bool :=
  match settings.tlsSupported with
  | .unsupported => false
  | .supported =>
    client.tlsStarted && settings.tlsClientCertRequired && !client.tlsPeerCertificateVerified
  | .required => settings.tlsClientCertRequired && !client.tlsPeerCertificateVerified

/-- `qnetd_client_msg_received_check_tls`. -/
def qnetdClientMsgReceivedCheckTls (settings : Settings) (client : QnetdClient) : TlsCheck :=
  if checkTlsRequired settings && !client.tlsStarted then .tlsRequired
  else if checkTlsCertificate settings client then
    match client.peerCertificate, client.clusterName with
    | some peerCert, some clusterName =>
      if settings.certVerifyCertName peerCert (cString clusterName) then
        .success { client with tlsPeerCertificateVerified := true }
      else .disconnect
    | _, _ => .disconnect
  else .success client

/-- The beginning of most handlers: check TLS, and go on with what the check leaves. -/
def withCheckTls (settings : Settings) (env : Env) (cluster : QnetdCluster)
    (client : QnetdClient) (msg : MsgDecoded)
    (handle : QnetdCluster → QnetdClient → Except Abort Handled) : Except Abort Handled :=
  match qnetdClientMsgReceivedCheckTls settings client with
  | .tlsRequired => .ok (qnetdClientSendErr env cluster [] msg .tlsRequired)
  | .disconnect => .ok { cluster, disconnect := true }
  | .success client' => handle (cluster.modifyClient client.id fun _ => client') client'

/-- `withCheckTls`, followed by the check that INIT has been received. -/
def withInitReceived (settings : Settings) (env : Env) (cluster : QnetdCluster)
    (client : QnetdClient) (msg : MsgDecoded)
    (handle : QnetdCluster → QnetdClient → Except Abort Handled) : Except Abort Handled :=
  withCheckTls settings env cluster client msg fun cluster client =>
    if client.initReceived = false then
      .ok (qnetdClientSendErr env cluster [] msg .initRequired)
    else handle cluster client

/-- `qnetd_client_msg_received_preinit`. -/
def qnetdClientMsgReceivedPreinit (settings : Settings) (env : Env) (cluster : QnetdCluster)
    (client : QnetdClient) (msg : MsgDecoded) : Except Abort Handled :=
  match msg.clusterName with
  | none => .ok (qnetdClientSendErr env cluster [] msg .doesntContainRequiredOption)
  | some clusterName =>
    if env.clusterNameAlloc = false then
      let cluster := cluster.modifyClient client.id fun c => { c with clusterName := none }
      .ok (qnetdClientSendErr env cluster [] msg .internalError)
    else
      let cluster := cluster.modifyClient client.id fun c =>
        { c with clusterName := some clusterName, preinitReceived := true }
      .ok (sendReply env cluster []
        (.preinitReply msg.seqNumber settings.tlsSupported settings.tlsClientCertRequired))

/-- `qnetd_client_msg_received_unexpected_msg`, the handler of every message only a server
    sends. -/
def qnetdClientMsgReceivedUnexpectedMsg (env : Env) (cluster : QnetdCluster)
    (msg : MsgDecoded) : Except Abort Handled :=
  .ok (qnetdClientSendErr env cluster [] msg .unexpectedMessage)

/-- `qnetd_client_msg_received_starttls`. -/
def qnetdClientMsgReceivedStarttls (env : Env) (cluster : QnetdCluster) (client : QnetdClient)
    (msg : MsgDecoded) : Except Abort Handled :=
  if client.preinitReceived = false then
    .ok (qnetdClientSendErr env cluster [] msg .preinitRequired)
  else
    match env.startSsl with
    | none => .ok { cluster, disconnect := true }
    | some peerCertificate =>
      .ok { cluster := cluster.modifyClient client.id fun c =>
        { c with tlsStarted := true, tlsPeerCertificateVerified := false, peerCertificate } }

/-- `qnetd_client_dpd_timer_update_interval`; `none` is the return value -1. -/
def qnetdClientDpdTimerUpdateInterval (settings : Settings) (client : QnetdClient) :
    Option QnetdClient :=
  match client.dpdTimer with
  | none => some client
  | some _ =>
    let interval := settings.dpdInterval client.heartbeatInterval
    if timerListIntervalValid interval then some { client with dpdTimer := some interval }
    else none

/-- Set the heartbeat interval a client asked for; `none` if it is not allowed.  A value whose
    dead peer timer cannot be set is kept all the same. -/
def setHeartbeatInterval (settings : Settings) (client : QnetdClient)
    (heartbeatInterval : UInt32) : QnetdClient × Bool :=
  if heartbeatInterval < settings.heartbeatIntervalMin ∨
      settings.heartbeatIntervalMax < heartbeatInterval then (client, false)
  else
    let client := { client with heartbeatInterval }
    match qnetdClientDpdTimerUpdateInterval settings client with
    | none => (client, false)
    | some client => (client, true)

/-- The heartbeat interval option of SET_OPTION, if it is there. -/
def setOptionHeartbeatInterval (settings : Settings) (client : QnetdClient) :
    Option UInt32 → QnetdClient × Bool
  | none => (client, true)
  | some heartbeatInterval => setHeartbeatInterval settings client heartbeatInterval

/-- `qnetd_client_msg_received_set_option`. -/
def qnetdClientMsgReceivedSetOption (settings : Settings) (env : Env) (cluster : QnetdCluster)
    (client : QnetdClient) (msg : MsgDecoded) : Except Abort Handled :=
  withInitReceived settings env cluster client msg fun cluster client =>
    let (client, valid) := setOptionHeartbeatInterval settings client msg.heartbeatInterval
    if valid = false then
      let cluster := cluster.modifyClient client.id fun _ => client
      .ok (qnetdClientSendErr env cluster [] msg .invalidHeartbeatInterval)
    else
      let client :=
        { client with keepActivePartitionTieBreaker :=
            msg.keepActivePartitionTieBreaker.getD client.keepActivePartitionTieBreaker }
      let cluster := cluster.modifyClient client.id fun _ => client
      .ok (sendReply env cluster []
        (.setOptionReply msg.seqNumber (msg.heartbeatInterval.map fun _ => client.heartbeatInterval)
          (msg.keepActivePartitionTieBreaker.map fun _ => client.keepActivePartitionTieBreaker)))

/-- `qnetd_client_msg_received_echo_request`. -/
def qnetdClientMsgReceivedEchoRequest (settings : Settings) (env : Env) (cluster : QnetdCluster)
    (client : QnetdClient) (msg : MsgDecoded) : Except Abort Handled :=
  withInitReceived settings env cluster client msg fun cluster _ =>
    .ok (sendReply env cluster [] .echoReply)

/-- The end of the handlers whose algorithm callback gives a vote: an error is sent
    back; otherwise `store` and the vote are written to the client and `reply` is sent. -/
def handleAlgoResult (env : Env) (client : QnetdClient) (msg : MsgDecoded)
    (store : QnetdClient → QnetdClient) (reply : TlvRingId → TlvVote → Reply) :
    Except Abort AlgoResult → Except Abort Handled
  | .error abort => .error abort
  | .ok { cluster, replyErrorCode, resultVote, log } =>
    if replyErrorCode ≠ .noError then .ok (qnetdClientSendErr env cluster log msg replyErrorCode)
    else
      let write (c : QnetdClient) : QnetdClient :=
        { store c with
          lastSentVote := resultVote
          lastSentAckNackVote :=
            if resultVote = .ack ∨ resultVote = .nack then resultVote else c.lastSentAckNackVote }
      .ok (sendReply env (cluster.modifyClient client.id write) log
        (reply (store client).lastRingId resultVote))

/-- Store a received node list in the client.  When `node_list_clone` fails the old list is
    gone already, and the handler disconnects the client. -/
def handleNodeList (env : Env) (client : QnetdClient) (msg : MsgDecoded)
    (store : NodeList → QnetdClient → QnetdClient) (reply : TlvRingId → TlvVote → Reply)
    (emptied : QnetdClient → QnetdClient) (result : Except Abort AlgoResult) :
    Except Abort Handled :=
  if env.nodeListClone then handleAlgoResult env client msg (store msg.nodes) reply result
  else
    match result with
    | .error abort => .error abort
    | .ok { cluster, replyErrorCode, log, .. } =>
      if replyErrorCode ≠ .noError then .ok (qnetdClientSendErr env cluster log msg replyErrorCode)
      else .ok { cluster := cluster.modifyClient client.id emptied, disconnect := true, log }

/-- `qnetd_client_msg_received_node_list`. -/
def qnetdClientMsgReceivedNodeList (settings : Settings) (env : Env) (cluster : QnetdCluster)
    (client : QnetdClient) (msg : MsgDecoded) : Except Abort Handled :=
  withInitReceived settings env cluster client msg fun cluster client =>
    match msg.nodeListType, msg.seqNumber with
    | none, _ | some _, none =>
      .ok (qnetdClientSendErr env cluster [] msg .doesntContainRequiredOption)
    | some .initialConfig, some seqNumber =>
      handleNodeList env client msg
        (fun nodes c => { c with configurationNodeList := nodes, configVersion := msg.configVersion })
        (.nodeListReply seqNumber .initialConfig) (fun c => { c with configurationNodeList := [] })
        (qnetdAlgorithmConfigNodeListReceived env cluster client msg.nodes true)
    | some .changedConfig, some seqNumber =>
      handleNodeList env client msg
        (fun nodes c => { c with configurationNodeList := nodes, configVersion := msg.configVersion })
        (.nodeListReply seqNumber .changedConfig) (fun c => { c with configurationNodeList := [] })
        (qnetdAlgorithmConfigNodeListReceived env cluster client msg.nodes false)
    | some .membership, some seqNumber =>
      match msg.ringId with
      | none => .ok (qnetdClientSendErr env cluster [] msg .doesntContainRequiredOption)
      | some ringId =>
        handleNodeList env client msg
          (fun nodes c => { c with
            lastMembershipNodeList := nodes
            lastRingId := ringId
            lastMembershipHeuristics := msg.heuristics
            lastHeuristics := msg.heuristics })
          (.nodeListReply seqNumber .membership) (fun c => { c with lastMembershipNodeList := [] })
          (qnetdAlgorithmMembershipNodeListReceived env cluster client ringId msg.nodes
            msg.heuristics)
    | some .quorum, some seqNumber =>
      match msg.quorate with
      | none => .ok (qnetdClientSendErr env cluster [] msg .doesntContainRequiredOption)
      | some _ =>
        handleNodeList env client msg (fun nodes c => { c with lastQuorumNodeList := nodes })
          (.nodeListReply seqNumber .quorum) (fun c => { c with lastQuorumNodeList := [] })
          (qnetdAlgorithmQuorumNodeListReceived env cluster client)

/-- `qnetd_client_msg_received_ask_for_vote`. -/
def qnetdClientMsgReceivedAskForVote (settings : Settings) (env : Env) (cluster : QnetdCluster)
    (client : QnetdClient) (msg : MsgDecoded) : Except Abort Handled :=
  withInitReceived settings env cluster client msg fun cluster client =>
    match msg.seqNumber with
    | none => .ok (qnetdClientSendErr env cluster [] msg .doesntContainRequiredOption)
    | some seqNumber =>
      handleAlgoResult env client msg (fun c => c) (.askForVoteReply seqNumber)
        (qnetdAlgorithmAskForVoteReceived env cluster client)

/-- `qnetd_client_msg_received_vote_info_reply`. -/
def qnetdClientMsgReceivedVoteInfoReply (settings : Settings) (env : Env)
    (cluster : QnetdCluster) (client : QnetdClient) (msg : MsgDecoded) : Except Abort Handled :=
  withInitReceived settings env cluster client msg fun cluster client =>
    match msg.seqNumber with
    | none => .ok (qnetdClientSendErr env cluster [] msg .doesntContainRequiredOption)
    | some seqNumber =>
      let { cluster, replyErrorCode, log, .. } :=
        qnetdAlgorithmVoteInfoReplyReceived env cluster client seqNumber
      if replyErrorCode ≠ .noError then .ok (qnetdClientSendErr env cluster log msg replyErrorCode)
      else .ok { cluster, log }

/-- `qnetd_client_msg_received_heuristics_change`. -/
def qnetdClientMsgReceivedHeuristicsChange (settings : Settings) (env : Env)
    (cluster : QnetdCluster) (client : QnetdClient) (msg : MsgDecoded) : Except Abort Handled :=
  withInitReceived settings env cluster client msg fun cluster client =>
    match msg.seqNumber, msg.heuristics with
    | none, _ | some _, .undefined =>
      .ok (qnetdClientSendErr env cluster [] msg .doesntContainRequiredOption)
    | some seqNumber, heuristics =>
      handleAlgoResult env client msg
        (fun c => { c with lastRegularHeuristics := heuristics, lastHeuristics := heuristics })
        (fun ringId vote => .heuristicsChangeReply seqNumber ringId heuristics vote)
        (qnetdAlgorithmHeuristicsChangeReceived env cluster client heuristics)

/-- The handlers that work on the client's own cluster, by message type; INIT is not one. -/
def qnetdClientMsgHandler? (settings : Settings) (env : Env) :
    MsgType → Option (QnetdCluster → QnetdClient → MsgDecoded → Except Abort Handled)
  | .init => none
  | .preinit => some (qnetdClientMsgReceivedPreinit settings env)
  | .starttls => some (qnetdClientMsgReceivedStarttls env)
  | .setOption => some (qnetdClientMsgReceivedSetOption settings env)
  | .echoRequest => some (qnetdClientMsgReceivedEchoRequest settings env)
  | .nodeList => some (qnetdClientMsgReceivedNodeList settings env)
  | .askForVote => some (qnetdClientMsgReceivedAskForVote settings env)
  | .voteInfoReply => some (qnetdClientMsgReceivedVoteInfoReply settings env)
  | .heuristicsChange => some (qnetdClientMsgReceivedHeuristicsChange settings env)
  | .preinitReply | .initReply | .serverError | .setOptionReply | .echoReply | .nodeListReply
  | .askForVoteReply | .voteInfo | .heuristicsChangeReply =>
    some fun cluster _ msg => qnetdClientMsgReceivedUnexpectedMsg env cluster msg

/-! ### INIT -/

/-- How `qnetd_client_msg_received_init` treats each option it needs.  A missing option is an
    error; but once there is an error the option is copied all the same, set or not. -/
def initOption {α : Type} (value : Option α) (zero : α)
    (copy : α → QnetdClient × TlvReplyErrorCode → QnetdClient × TlvReplyErrorCode)
    (acc : QnetdClient × TlvReplyErrorCode) : QnetdClient × TlvReplyErrorCode :=
  if acc.2 = .noError ∧ value.isNone then (acc.1, .doesntContainRequiredOption)
  else copy (value.getD zero) acc

def initNodeId (nodeId : UInt32) (acc : QnetdClient × TlvReplyErrorCode) :
    QnetdClient × TlvReplyErrorCode :=
  ({ acc.1 with nodeIdSet := true, nodeId }, acc.2)

def initRingId (ringId : TlvRingId) (acc : QnetdClient × TlvReplyErrorCode) :
    QnetdClient × TlvReplyErrorCode :=
  ({ acc.1 with lastRingId := ringId }, acc.2)

def initHeartbeatInterval (settings : Settings) (heartbeatInterval : UInt32)
    (acc : QnetdClient × TlvReplyErrorCode) : QnetdClient × TlvReplyErrorCode :=
  let (client, valid) := setHeartbeatInterval settings acc.1 heartbeatInterval
  (client, if valid then acc.2 else .invalidHeartbeatInterval)

def initTieBreaker (tieBreaker : TlvTieBreaker) (acc : QnetdClient × TlvReplyErrorCode) :
    QnetdClient × TlvReplyErrorCode :=
  ({ acc.1 with tieBreaker }, acc.2)

def initDecisionAlgorithm (decisionAlgorithm : UInt16) (acc : QnetdClient × TlvReplyErrorCode) :
    QnetdClient × TlvReplyErrorCode :=
  ({ acc.1 with decisionAlgorithm },
    if qnetdStaticSupportedDecisionAlgorithms.any fun a => a.toUInt16 == decisionAlgorithm then
      acc.2
    else .unsupportedDecisionAlgorithm)

/-- The part of `qnetd_client_msg_received_init` that copies the options of the message into
    the client, with the error code it arrives at. -/
def initCopyOptions (settings : Settings) (client : QnetdClient) (msg : MsgDecoded) :
    QnetdClient × TlvReplyErrorCode :=
  let acc : QnetdClient × TlvReplyErrorCode :=
    (client, if client.preinitReceived then .noError else .preinitRequired)
  let acc := initOption msg.nodeId 0 initNodeId acc
  let acc := initOption msg.ringId .zero initRingId acc
  let acc := initOption msg.heartbeatInterval 0 (initHeartbeatInterval settings) acc
  let acc := initOption msg.tieBreaker .zero initTieBreaker acc
  initOption msg.decisionAlgorithm 0 initDecisionAlgorithm acc

/-- The options, and then the preset of `keep_active_partition_tie_breaker`. -/
def initOptions (settings : Settings) (client : QnetdClient) (msg : MsgDecoded) :
    QnetdClient × TlvReplyErrorCode :=
  let acc := initCopyOptions settings client msg
  if acc.2 = .noError then
    ({ acc.1 with keepActivePartitionTieBreaker := settings.keepActivePartitionTieBreaker }, acc.2)
  else acc

/-- The loop of `qnetd_client_msg_received_init_check_new_client` over the clients of the cluster
    the new client wants to join. -/
def qnetdClientMsgReceivedInitCheckNewClient (newClient : QnetdClient) :
    List QnetdClient → TlvReplyErrorCode
  | [] => .noError
  | client :: rest =>
    if tlvTieBreakerEq newClient.tieBreaker client.tieBreaker = false then
      .tieBreakerDiffersFromOtherNodes
    else if newClient.decisionAlgorithm ≠ client.decisionAlgorithm then
      .algorithmDiffersFromOtherNodes
    else if newClient.nodeId = client.nodeId then .duplicateNodeId
    else qnetdClientMsgReceivedInitCheckNewClient newClient rest

/-- The insertion of `qnetd_cluster_list_add_client`, before the first client with a higher
    node id. -/
def qnetdClusterListInsertClient (client : QnetdClient) : List QnetdClient → List QnetdClient
  | [] => [client]
  | entry :: rest =>
    if client.nodeId < entry.nodeId then client :: entry :: rest
    else entry :: qnetdClusterListInsertClient client rest

/-- The part of `qnetd_client_msg_received_init` after the options: check the new client
    against the cluster with its name, add it, and let the algorithm initialise it. -/
def initJoin (cluster : QnetdCluster) (client : QnetdClient) : QnetdCluster × TlvReplyErrorCode :=
  match qnetdClientMsgReceivedInitCheckNewClient client cluster.clientList with
  | .noError =>
    let client := { client with cluster := some cluster.id }
    let cluster :=
      { cluster with clientList := qnetdClusterListInsertClient client cluster.clientList }
    let { cluster, replyErrorCode, .. } := qnetdAlgorithmClientInit cluster client
    if replyErrorCode = .noError then
      (cluster.modifyClient client.id fun c => { c with initReceived := true }, .noError)
    else (cluster, replyErrorCode)
  | code => (cluster, code)

end Qdevice.Qnetd
