import Qdevice.Native.QnetdClientMsgReceived

/-! # The qnetd instance

`struct qnetd_instance` with its client list and its cluster list (`qnetd-instance.c`,
`qnetd-client-list.c`, `qnetd-cluster-list.c`), the INIT handler, which needs both, and
the callbacks of `qnetd-client-net.c` and the timers.

The cluster list holds pointers to the clients.  What a handler or an algorithm sees through
`client->cluster` is a `QnetdCluster`; `QnetdInstance.cluster` reads it through the pointers and
`QnetdInstance.storeCluster` writes it back. -/

namespace Qdevice.Qnetd

/-- `struct qnetd_cluster`, with pointers in `client_list`. -/
structure ClusterEntry where
  id : ClusterId
  clusterName : List UInt8
  clientList : List ClientId := []
  algorithmData : FfsplitClusterData := {}
deriving DecidableEq

/-- `struct qnetd_instance`.  `nextClusterId` is a cluster pointer that `malloc` has not
    returned yet. -/
structure QnetdInstance where
  clients : List QnetdClient := []
  clusters : List ClusterEntry := []
  nextClusterId : ClusterId := 0
deriving DecidableEq

namespace QnetdInstance

/-- The client behind a pointer. -/
def client? (inst : QnetdInstance) (id : ClientId) : Option QnetdClient :=
  inst.clients.find? fun client => client.id == id

/-- Write to the client behind a pointer. -/
def modifyClient (inst : QnetdInstance) (id : ClientId) (f : QnetdClient → QnetdClient) :
    QnetdInstance :=
  { inst with
    clients := inst.clients.map fun client => if client.id = id then f client else client }

/-- Set `schedule_disconnect` of the client behind a pointer. -/
def scheduleDisconnect (inst : QnetdInstance) (id : ClientId) : QnetdInstance :=
  inst.modifyClient id fun client => { client with scheduleDisconnect := true }

/-- A cluster, with the clients its list points to. -/
def cluster (inst : QnetdInstance) (entry : ClusterEntry) : QnetdCluster where
  id := entry.id
  clusterName := entry.clusterName
  clientList := entry.clientList.filterMap inst.client?
  algorithmData := entry.algorithmData

/-- What the handlers of a client can reach: the cluster it points to, or the client alone. -/
def clusterOf (inst : QnetdInstance) (client : QnetdClient) : QnetdCluster :=
  match inst.clusters.find? fun entry => some entry.id == client.cluster with
  | some entry => inst.cluster entry
  | none => { id := inst.nextClusterId, clusterName := [], clientList := [client] }

/-- Write to the cluster behind a pointer: its clients, the list of pointers to them and its
    algorithm data. -/
def storeCluster (inst : QnetdInstance) (id : ClusterId) (cluster : QnetdCluster) :
    QnetdInstance where
  clients := inst.clients.map fun client => (cluster.client? client.id).getD client
  clusters := inst.clusters.map fun entry =>
    if entry.id = id then
      { entry with
        clientList := cluster.clientList.map (·.id)
        algorithmData := cluster.algorithmData }
    else entry
  nextClusterId := inst.nextClusterId

end QnetdInstance

/-- What an instance-level callback leaves behind. -/
structure InstanceHandled where
  inst : QnetdInstance
  reply : Option Reply := none
  log : List AlgoLog := []

/-! ### The cluster list -/

/-- `qnetd_cluster_list_find_by_name`: the same length and the same bytes. -/
def qnetdClusterListFindByName (clusters : List ClusterEntry) (clusterName : List UInt8) :
    Option ClusterEntry :=
  clusters.find? fun entry => entry.clusterName == clusterName

/-- The first half of `qnetd_cluster_list_add_client`: find the cluster, or put an empty one at
    the end of the list. -/
def qnetdClusterListAddCluster (env : Env) (inst : QnetdInstance) (clusterName : List UInt8) :
    Option (QnetdInstance × ClusterEntry) :=
  match qnetdClusterListFindByName inst.clusters clusterName with
  | some entry => some (inst, entry)
  | none =>
    if env.clusterAlloc then
      let entry : ClusterEntry := { id := inst.nextClusterId, clusterName }
      some ({ inst with
        clusters := inst.clusters ++ [entry], nextClusterId := inst.nextClusterId + 1 }, entry)
    else none

/-- `qnetd_cluster_list_del_client`: a cluster without clients goes away. -/
def qnetdClusterListDelClient (clusters : List ClusterEntry) (cluster : Option ClusterId)
    (id : ClientId) : List ClusterEntry :=
  clusters.filterMap fun entry =>
    if some entry.id = cluster then
      let clientList := entry.clientList.filter (· ≠ id)
      if clientList = [] then none else some { entry with clientList }
    else some entry

/-! ### INIT -/

/-- The end of `qnetd_client_msg_received_init` for a client whose options are accepted.

    A client without a name got its name from a PREINIT whose `malloc` failed; comparing or
    copying the name reads NULL, unless `malloc` fails once more.  A client that has
    a cluster already and passes the check asks for another one: it is then linked into a
    second list. -/
def initAddClient (env : Env) (inst : QnetdInstance) (client : QnetdClient) :
    Except Abort (QnetdInstance × TlvReplyErrorCode) :=
  match client.clusterName with
  | none => if env.clusterAlloc then .error .nullDereference else .ok (inst, .internalError)
  | some clusterName =>
    match qnetdClusterListAddCluster env inst clusterName with
    | none => .ok (inst, .internalError)
    | some (inst, entry) =>
      let cluster := inst.cluster entry
      if qnetdClientMsgReceivedInitCheckNewClient client cluster.clientList = .noError ∧
          client.cluster.isSome then .error .corruptedList
      else
        let (cluster, code) := initJoin cluster client
        .ok (inst.storeCluster entry.id cluster, code)

/-- The answer to INIT. -/
def sendInitReply (env : Env) (inst : QnetdInstance) (client : QnetdClient) (msg : MsgDecoded)
    (code : TlvReplyErrorCode) : InstanceHandled :=
  if env.replyQueued then
    { inst
      reply := some (.initReply msg.seqNumber code msg.supportedMessages.isSome
        msg.supportedOptions.isSome) }
  else { inst := inst.scheduleDisconnect client.id }

/-- `qnetd_client_msg_received_init`.  The options are in the client before anything
    is checked. -/
def qnetdClientMsgReceivedInit (settings : Settings) (env : Env) (inst : QnetdInstance)
    (client : QnetdClient) (msg : MsgDecoded) : Except Abort InstanceHandled :=
  match qnetdClientMsgReceivedCheckTls settings client with
  | .tlsRequired =>
    .ok (if env.replyQueued then
      { inst, reply := some (.serverError msg.seqNumber .tlsRequired) }
    else { inst := inst.scheduleDisconnect client.id })
  | .disconnect => .ok { inst := inst.scheduleDisconnect client.id }
  | .success client =>
    let (client, code) := initOptions settings client msg
    let inst := inst.modifyClient client.id fun _ => client
    if code = .noError then
      match initAddClient env inst client with
      | .error abort => .error abort
      | .ok (inst, code) => .ok (sendInitReply env inst client msg code)
    else .ok (sendInitReply env inst client msg code)

/-! ### Callbacks -/

/-- `qnetd_client_dpd_timer_init`; `none` is the return value -1. -/
def qnetdClientDpdTimerInit (settings : Settings) (env : Env) (client : QnetdClient) :
    Option QnetdClient :=
  if settings.dpdEnabled then
    let interval := settings.dpdInterval client.heartbeatInterval
    if timerListIntervalValid interval && env.timerListAdd then
      some { client with dpdTimer := some interval }
    else none
  else some client

/-- The part of `qnetd_client_net_accept` after the socket is set up.  The new client is a
    pointer that is not in use. -/
def qnetdClientNetAccept (settings : Settings) (env : Env) (inst : QnetdInstance)
    (id : ClientId) : QnetdInstance :=
  if (inst.client? id).isSome then inst
  else
    match qnetdClientDpdTimerInit settings env { id } with
    | none => inst
    | some client => { inst with clients := inst.clients ++ [client] }

/-- `qnetd_client_msg_received`, for a message that decodes. -/
def qnetdClientMsgReceived (settings : Settings) (env : Env) (inst : QnetdInstance)
    (client : QnetdClient) (msg : MsgDecoded) : Except Abort InstanceHandled :=
  match MsgType.ofUInt16? msg.type with
  | none =>
    .ok (if env.replyQueued then
      { inst, reply := some (.serverError msg.seqNumber .unsupportedMessage) }
    else { inst := inst.scheduleDisconnect client.id })
  | some type =>
    match qnetdClientMsgHandler? settings env type with
    | none => qnetdClientMsgReceivedInit settings env inst client msg
    | some handler =>
      let cluster := inst.clusterOf client
      match handler cluster client msg with
      | .error abort => .error abort
      | .ok res =>
        let inst := inst.storeCluster cluster.id res.cluster
        .ok {
          inst := if res.disconnect then inst.scheduleDisconnect client.id else inst
          reply := res.reply
          log := res.log }

/-- `qnetd_client_net_socket_poll_loop_read_cb` with a whole message: nothing is read
    from a client that is about to be disconnected. -/
def instanceMessage (settings : Settings) (env : Env) (inst : QnetdInstance) (id : ClientId)
    (msg : MsgDecoded) : Except Abort InstanceHandled :=
  match inst.client? id with
  | none => .ok { inst }
  | some client =>
    if client.scheduleDisconnect then .ok { inst }
    else qnetdClientMsgReceived settings env inst client msg

/-- The algorithm timer of a client expires. -/
def instanceAlgoTimer (env : Env) (inst : QnetdInstance) (id : ClientId) :
    Except Abort InstanceHandled :=
  match inst.client? id with
  | none => .ok { inst }
  | some client =>
    if client.algoTimer.isNone then .ok { inst }
    else
      let cluster := inst.clusterOf client
      match qnetdClientAlgoTimerCallback env cluster client with
      | .error abort => .error abort
      | .ok res => .ok { inst := inst.storeCluster cluster.id res.cluster, log := res.log }

/-- `qnetd_dpd_timer_cb`. -/
def qnetdDpdTimerCb (inst : QnetdInstance) (id : ClientId) : QnetdInstance :=
  inst.modifyClient id fun client =>
    if client.dpdTimer.isSome then { client with scheduleDisconnect := true, dpdTimer := none }
    else client

/-- `qnetd_instance_client_disconnect`. -/
def qnetdInstanceClientDisconnect (env : Env) (inst : QnetdInstance) (id : ClientId)
    (serverGoingDown : Bool) : Except Abort InstanceHandled :=
  match inst.client? id with
  | none => .ok { inst }
  | some client =>
    let cluster := inst.clusterOf client
    let decided :=
      if client.initReceived then
        qnetdAlgorithmClientDisconnect env cluster client serverGoingDown
      else .ok { cluster }
    match decided with
    | .error abort => .error abort
    | .ok res =>
      let inst := inst.storeCluster cluster.id res.cluster
      .ok {
        inst := { inst with
          clients := inst.clients.filter (·.id ≠ id)
          clusters := qnetdClusterListDelClient inst.clusters client.cluster id }
        log := res.log }

/-! ### Events -/

/-- What can happen to an instance.  `unreadable` is a message that is skipped or does
    not decode, `socketError` a failed read, write or poll. -/
inductive InstanceEvent where
  | connect (id : ClientId)
  | message (id : ClientId) (msg : MsgDecoded)
  | unreadable (id : ClientId)
  | socketError (id : ClientId)
  | algoTimer (id : ClientId)
  | dpdTimer (id : ClientId)
  | disconnect (id : ClientId) (serverGoingDown : Bool)
deriving DecidableEq

/-- One event.  (The main loop disconnects a client once `schedule_disconnect` is set, or every
    client when the server goes down; here `disconnect` may come at any time.) -/
def instanceStep (settings : Settings) (env : Env) (inst : QnetdInstance) :
    InstanceEvent → Except Abort InstanceHandled
  | .connect id => .ok { inst := qnetdClientNetAccept settings env inst id }
  | .message id msg => instanceMessage settings env inst id msg
  | .unreadable id => .ok { inst := if env.replyQueued then inst else inst.scheduleDisconnect id }
  | .socketError id => .ok { inst := inst.scheduleDisconnect id }
  | .algoTimer id => instanceAlgoTimer env inst id
  | .dpdTimer id => .ok { inst := qnetdDpdTimerCb inst id }
  | .disconnect id serverGoingDown => qnetdInstanceClientDisconnect env inst id serverGoingDown

end Qdevice.Qnetd
