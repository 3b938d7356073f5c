import Qdevice.Spec.HandlerCases
import Qdevice.ForStd.Runs

/-! # Runs of one cluster

The events that happen to one cluster of qnetd: a connection sends INIT, a registered client
sends another message, its algorithm timer expires, it is disconnected.  Each client
sends INIT once per connection, so the client list only grows by `init` and shrinks by
`disconnect`.

The registration of the clients (distinct identities, ascending node ids, one algorithm and
one tie-breaker) is an invariant of these runs whatever the algorithm does, because the
handlers keep the `fixed` part of every client. -/

namespace Qdevice.Qnetd

/-- A connection that has sent PREINIT, and STARTTLS if it wants TLS. -/
structure Connection where
  id : ClientId
  clusterName : List UInt8
  tlsStarted : Bool := false
  tlsPeerCertificateVerified : Bool := false
  peerCertificate : Option Cert := none
  dpdTimer : Option UInt32 := none
deriving DecidableEq

/-- The client structure of such a connection. -/
def Connection.client (conn : Connection) : QnetdClient where
  id := conn.id
  clusterName := some conn.clusterName
  preinitReceived := true
  tlsStarted := conn.tlsStarted
  tlsPeerCertificateVerified := conn.tlsPeerCertificateVerified
  peerCertificate := conn.peerCertificate
  dpdTimer := conn.dpdTimer

inductive ClusterEvent where
  | init (conn : Connection) (msg : MsgDecoded)
  | message (id : ClientId) (msg : MsgDecoded)
  | algoTimer (id : ClientId)
  | disconnect (id : ClientId) (serverGoingDown : Bool)
deriving DecidableEq

/-- INIT of a new connection; a rejected INIT leaves the cluster as it was. -/
def clusterInit (settings : Settings) (cluster : QnetdCluster) (conn : Connection)
    (msg : MsgDecoded) : QnetdCluster :=
  if (cluster.client? conn.id).isSome then cluster
  else
    match qnetdClientMsgReceivedCheckTls settings conn.client with
    | .success client =>
      let (client, code) := initOptions settings client msg
      if code = .noError then (initJoin cluster client).1 else cluster
    | .tlsRequired | .disconnect => cluster

/-- A message of a registered client, as `qnetd_client_net_socket_poll_loop_read_cb` handles it:
    nothing is read from a client that is about to be disconnected.  (INIT is not repeated in
    these runs, and a message of an unknown type never gets this far.) -/
def clusterMessage (settings : Settings) (env : Env) (cluster : QnetdCluster) (id : ClientId)
    (msg : MsgDecoded) : Except Abort (QnetdCluster × List AlgoLog) :=
  match cluster.client? id with
  | none => .ok (cluster, [])
  | some client =>
    if client.scheduleDisconnect then .ok (cluster, [])
    else
      match (MsgType.ofUInt16? msg.type).bind (qnetdClientMsgHandler? settings env) with
      | none => .ok (cluster, [])
      | some handler =>
        match handler cluster client msg with
        | .error abort => .error abort
        | .ok res =>
          .ok (if res.disconnect then res.cluster.scheduleDisconnect id else res.cluster, res.log)

/-- The algorithm timer of a client expires. -/
def clusterAlgoTimer (env : Env) (cluster : QnetdCluster) (id : ClientId) :
    Except Abort (QnetdCluster × List AlgoLog) :=
  match cluster.client? id with
  | none => .ok (cluster, [])
  | some client =>
    if client.algoTimer.isNone then .ok (cluster, [])
    else
      match qnetdClientAlgoTimerCallback env cluster client with
      | .error abort => .error abort
      | .ok res => .ok (res.cluster, res.log)

/-- `qnetd_instance_client_disconnect`. -/
def clusterDisconnect (env : Env) (cluster : QnetdCluster) (id : ClientId)
    (serverGoingDown : Bool) : Except Abort (QnetdCluster × List AlgoLog) :=
  match cluster.client? id with
  | none => .ok (cluster, [])
  | some client =>
    let decided :=
      if client.initReceived then
        qnetdAlgorithmClientDisconnect env cluster client serverGoingDown
      else .ok { cluster }
    match decided with
    | .error abort => .error abort
    | .ok res =>
      .ok ({ res.cluster with clientList := res.cluster.clientList.filter (·.id ≠ id) }, res.log)

/-- One event. -/
def clusterStep (settings : Settings) (env : Env) (cluster : QnetdCluster) :
    ClusterEvent → Except Abort (QnetdCluster × List AlgoLog)
  | .init conn msg => .ok (clusterInit settings cluster conn msg, [])
  | .message id msg => clusterMessage settings env cluster id msg
  | .algoTimer id => clusterAlgoTimer env cluster id
  | .disconnect id serverGoingDown => clusterDisconnect env cluster id serverGoingDown

/-- A cluster before its first client. -/
def emptyCluster (id : ClusterId) (clusterName : List UInt8) : QnetdCluster :=
  { id, clusterName }

/-- The runs of one cluster, from its first client on; they end when the server aborts. -/
def clusterMachine (settings : Settings) (id : ClusterId) (name : List UInt8) :
    Runs.Machine QnetdCluster (Env × ClusterEvent) where
  init := emptyCluster id name
  step cluster e :=
    match clusterStep settings e.1 cluster e.2 with
    | .error _ => none
    | .ok (cluster', _) => some cluster'

theorem clusterMachine_step {settings : Settings} {id : ClusterId} {name : List UInt8}
    {cluster cluster' : QnetdCluster} {e : Env × ClusterEvent}
    (h : (clusterMachine settings id name).step cluster e = some cluster') :
    ∃ log, clusterStep settings e.1 cluster e.2 = .ok (cluster', log) := by
  simp only [clusterMachine] at h
  split at h
  · cases h
  · next cluster₁ log hok =>
    cases h
    exact ⟨log, hok⟩

/-! ### Registration -/

/-- How the clients of one cluster are registered. -/
structure Registered (algorithm : UInt16) (cluster : QnetdCluster) : Prop where
  ids : (cluster.clientList.map (·.id)).Nodup
  nodeIds : (cluster.clientList.map (·.nodeId)).Pairwise (· < ·)
  init : ∀ c ∈ cluster.clientList, c.initReceived = true
  algorithm : ∀ c ∈ cluster.clientList, c.decisionAlgorithm = algorithm
  tieBreaker : ∀ c ∈ cluster.clientList, ∀ d ∈ cluster.clientList,
    tlvTieBreakerEq c.tieBreaker d.tieBreaker = true

/-- The only INITs in a run of an `algorithm` cluster ask for that algorithm. -/
def UsesAlgorithm (algorithm : TlvDecisionAlgorithmType) : ClusterEvent → Prop
  | .init _ msg => msg.decisionAlgorithm = some algorithm.toUInt16
  | _ => True

instance (algorithm : TlvDecisionAlgorithmType) : DecidablePred (UsesAlgorithm algorithm)
  | .init _ msg => inferInstanceAs (Decidable (msg.decisionAlgorithm = some algorithm.toUInt16))
  | .message .. | .algoTimer .. | .disconnect .. => isTrue trivial

theorem registered_empty (algorithm : UInt16) (id : ClusterId) (name : List UInt8) :
    Registered algorithm (emptyCluster id name) := by
  constructor <;> simp [emptyCluster]

/-- The part of a client that `Registered` is about. -/
def QnetdClient.registration (c : QnetdClient) :
    ClientId × UInt32 × Bool × UInt16 × TlvTieBreaker :=
  (c.id, c.nodeId, c.initReceived, c.decisionAlgorithm, c.tieBreaker)

def SameRegistration (cluster cluster' : QnetdCluster) : Prop :=
  cluster'.clientList.map QnetdClient.registration = cluster.clientList.map QnetdClient.registration

theorem SameFixed.registration {cluster cluster' : QnetdCluster} (h : SameFixed cluster cluster') :
    SameRegistration cluster cluster' :=
  List.map_comp_of_map_eq
    (fun f : Fixed => (f.id, f.nodeId, f.initReceived, f.decisionAlgorithm, f.tieBreaker)) h

theorem SameRegistration.trans {cl₁ cl₂ cl₃ : QnetdCluster} (h₁₂ : SameRegistration cl₁ cl₂)
    (h₂₃ : SameRegistration cl₂ cl₃) : SameRegistration cl₁ cl₃ :=
  Eq.trans h₂₃ h₁₂

/-- A client of the one cluster has a counterpart with the same registration in the other. -/
theorem SameRegistration.exists_mem {cluster cluster' : QnetdCluster}
    (h : SameRegistration cluster cluster') {c' : QnetdClient} (hc : c' ∈ cluster'.clientList) :
    ∃ c ∈ cluster.clientList, c.registration = c'.registration :=
  List.exists_mem_of_map_eq h hc

theorem Registered.of_same {algorithm : UInt16} {cluster cluster' : QnetdCluster}
    (h : Registered algorithm cluster) (hs : SameRegistration cluster cluster') :
    Registered algorithm cluster' := by
  have hids : cluster'.clientList.map (·.id) = cluster.clientList.map (·.id) :=
    List.map_comp_of_map_eq (·.1) hs
  have hnodes : cluster'.clientList.map (·.nodeId) = cluster.clientList.map (·.nodeId) :=
    List.map_comp_of_map_eq (·.2.1) hs
  constructor
  · rw [hids]; exact h.ids
  · rw [hnodes]; exact h.nodeIds
  · intro c' hc'
    obtain ⟨c, hc, heq⟩ := hs.exists_mem hc'
    simp only [QnetdClient.registration, Prod.mk.injEq] at heq
    rw [← heq.2.2.1]
    exact h.init c hc
  · intro c' hc'
    obtain ⟨c, hc, heq⟩ := hs.exists_mem hc'
    simp only [QnetdClient.registration, Prod.mk.injEq] at heq
    rw [← heq.2.2.2.1]
    exact h.algorithm c hc
  · intro c' hc' d' hd'
    obtain ⟨c, hc, heq⟩ := hs.exists_mem hc'
    obtain ⟨d, hd, heq'⟩ := hs.exists_mem hd'
    simp only [QnetdClient.registration, Prod.mk.injEq] at heq heq'
    rw [← heq.2.2.2.2, ← heq'.2.2.2.2]
    exact h.tieBreaker c hc d hd

/-! ### Looking up clients -/

theorem client?_mem {cluster : QnetdCluster} {id : ClientId} {client : QnetdClient}
    (h : cluster.client? id = some client) : client ∈ cluster.clientList :=
  List.mem_of_find?_eq_some h

theorem client?_id {cluster : QnetdCluster} {id : ClientId} {client : QnetdClient}
    (h : cluster.client? id = some client) : client.id = id := by
  simpa using List.find?_some h

/-- Distinct identities make the identity a pointer. -/
theorem Registered.eq_of_id {algorithm : UInt16} {cluster : QnetdCluster}
    (h : Registered algorithm cluster) {c d : QnetdClient} (hc : c ∈ cluster.clientList)
    (hd : d ∈ cluster.clientList) (hid : c.id = d.id) : c = d :=
  List.inj_on_of_nodup_map h.ids hc hd hid

theorem Registered.eq_of_nodeId {algorithm : UInt16} {cluster : QnetdCluster}
    (h : Registered algorithm cluster) {c d : QnetdClient} (hc : c ∈ cluster.clientList)
    (hd : d ∈ cluster.clientList) (hnode : c.nodeId = d.nodeId) : c = d :=
  List.inj_on_of_nodup_map (h.nodeIds.imp UInt32.ne_of_lt) hc hd hnode

/-- Looking a client up by its identity finds it. -/
theorem Registered.client?_of_mem {algorithm : UInt16} {cluster : QnetdCluster}
    (h : Registered algorithm cluster) {c : QnetdClient} (hc : c ∈ cluster.clientList) :
    cluster.client? c.id = some c :=
  List.find?_key_of_mem h.ids hc

theorem Registered.client?_eq {algorithm : UInt16} {cluster : QnetdCluster}
    (h : Registered algorithm cluster) {id : ClientId} {client : QnetdClient}
    (hclient : cluster.client? id = some client) :
    ∀ c ∈ cluster.clientList, c.id = client.id → c = client :=
  fun _ hc hid => h.eq_of_id hc (client?_mem hclient) hid

/-! ### Every event keeps the registration -/

/-- Writing a client that differs in other fields only. -/
theorem sameRegistration_write {cluster : QnetdCluster} {client client' : QnetdClient}
    (hclient : ∀ c ∈ cluster.clientList, c.id = client.id → c = client)
    (hsame : client'.registration = client.registration) :
    SameRegistration cluster (cluster.modifyClient client.id fun _ => client') :=
  map_modifyClient _ cluster client.id _ fun c hc hid => by rw [hclient c hc hid, hsame]

theorem checkTls_registration {settings : Settings} {client client' : QnetdClient}
    (h : qnetdClientMsgReceivedCheckTls settings client = .success client') :
    client'.registration = client.registration := by
  rcases checkTls_success h with rfl | ⟨_, _, _, _, _, rfl⟩ <;> rfl

theorem HandshakeWrite.registration {settings : Settings} {env : Env} {type : MsgType}
    {msg : MsgDecoded} {client client' : QnetdClient}
    (h : HandshakeWrite settings env type msg client client') :
    client'.registration = client.registration := by
  cases h with
  | same => rfl
  | preinit htype hname => rfl
  | starttls htype hpre cert => rfl
  | checked client' htls => exact checkTls_registration htls

theorem HandlerCase.sameRegistration {settings : Settings} {env : Env} {type : MsgType}
    {cluster : QnetdCluster} {client : QnetdClient} {msg : MsgDecoded} {res : Handled}
    (hclient : ∀ c ∈ cluster.clientList, c.id = client.id → c = client)
    (h : HandlerCase settings env type cluster client msg res) :
    SameRegistration cluster res.cluster := by
  obtain ⟨client', hwrite, -, hsame⟩ := h.handshake hclient
  exact (sameRegistration_write hclient hwrite.registration).trans hsame.registration

/-- What a message of a registered client leads to: nothing, or one handler. -/
theorem clusterMessage_cases {settings : Settings} {env : Env} {cluster cluster' : QnetdCluster}
    {id : ClientId} {msg : MsgDecoded} {log : List AlgoLog}
    (hids : (cluster.clientList.map (·.id)).Nodup)
    (h : clusterMessage settings env cluster id msg = .ok (cluster', log)) :
    (cluster' = cluster ∧ log = []) ∨
      ∃ client type res, cluster.client? id = some client ∧ client.scheduleDisconnect = false ∧
        MsgType.ofUInt16? msg.type = some type ∧
        HandlerCase settings env type cluster client msg res ∧ log = res.log ∧
        cluster' = (if res.disconnect then res.cluster.scheduleDisconnect id else res.cluster) := by
  simp only [clusterMessage] at h
  split at h
  · cases h
    exact .inl ⟨rfl, rfl⟩
  · next client hclient =>
    split at h
    · cases h
      exact .inl ⟨rfl, rfl⟩
    · next hsched =>
      split at h
      · cases h
        exact .inl ⟨rfl, rfl⟩
      · next handler hhandler =>
        split at h
        · cases h
        · next res hres =>
          cases h
          obtain ⟨type, htype, hhandler⟩ := Option.bind_eq_some_iff.mp hhandler
          have huniq : ∀ c ∈ cluster.clientList, c.id = client.id → c = client :=
            fun c hc hid => List.inj_on_of_nodup_map hids hc (client?_mem hclient) hid
          exact .inr ⟨client, type, res, hclient, by simpa using hsched, htype,
            handler_cases huniq hhandler hres, rfl, rfl⟩

/-! ### What a message changes -/

/-- A projection of a client that does not look at the connection: name, TLS, heartbeat, flags. -/
def IgnoresConnection {β : Type} (V : QnetdClient → β) : Prop :=
  ∀ (c : QnetdClient) (clusterName : Option (List UInt8)) (preinitReceived tlsStarted
    tlsPeerCertificateVerified : Bool) (peerCertificate : Option Cert) (heartbeatInterval : UInt32)
    (dpdTimer : Option UInt32) (keepActivePartitionTieBreaker : TlvKeepActivePartitionTieBreaker)
    (scheduleDisconnect : Bool),
    V { c with
      clusterName, preinitReceived, tlsStarted, tlsPeerCertificateVerified, peerCertificate
      heartbeatInterval, dpdTimer, keepActivePartitionTieBreaker, scheduleDisconnect } = V c

theorem IgnoresConnection.checkTls {β : Type} {V : QnetdClient → β} (hV : IgnoresConnection V)
    {settings : Settings} {client client' : QnetdClient}
    (htls : qnetdClientMsgReceivedCheckTls settings client = .success client') :
    V client' = V client := by
  rcases checkTls_success htls with rfl | ⟨_, _, _, _, _, rfl⟩
  · rfl
  · exact hV client _ _ _ true _ _ _ _ _

/-- Seen through such a projection, a message does nothing, or it is what the callback and
    the store after it do. -/
theorem clusterMessage_view {β : Type} {V : QnetdClient → β} (hV : IgnoresConnection V)
    {settings : Settings} {env : Env} {cluster cluster' : QnetdCluster} {id : ClientId}
    {msg : MsgDecoded} {log : List AlgoLog} (hids : (cluster.clientList.map (·.id)).Nodup)
    (h : clusterMessage settings env cluster id msg = .ok (cluster', log)) :
    (log = [] ∧ cluster'.clientList.map V = cluster.clientList.map V ∧
        cluster'.algorithmData = cluster.algorithmData) ∨
      ∃ client client' type call result res, cluster.client? id = some client ∧
        MsgType.ofUInt16? msg.type = some type ∧ AlgoCall.ofMsg? type msg = some call ∧
        qnetdClientMsgReceivedCheckTls settings client = .success client' ∧
        call.run env (cluster.modifyClient client.id fun _ => client') client' = .ok result ∧
        AfterCall env call client' result res ∧ log = result.log ∧
        cluster'.clientList.map V = res.cluster.clientList.map V ∧
        cluster'.algorithmData = res.cluster.algorithmData := by
  rcases clusterMessage_cases hids h with
    ⟨rfl, rfl⟩ | ⟨client, type, res, hclient, -, htype, hcase, rfl, rfl⟩
  · exact .inl ⟨rfl, rfl, rfl⟩
  have huniq : ∀ c ∈ cluster.clientList, c.id = client.id → c = client :=
    fun c hc hid => List.inj_on_of_nodup_map hids hc (client?_mem hclient) hid
  have hwrite {client' : QnetdClient} (hsame : V client' = V client) :
      (cluster.modifyClient client.id fun _ => client').clientList.map V =
        cluster.clientList.map V :=
    map_modifyClient V cluster client.id _ fun c hc hid => by rw [huniq c hc hid, hsame]
  -- the flag at the end is none of what is looked at
  have hflag : (if res.disconnect then res.cluster.scheduleDisconnect id
      else res.cluster).clientList.map V = res.cluster.clientList.map V := by
    split
    · exact map_modifyClient V _ _ _ fun c _ _ => hV c _ _ _ _ _ _ _ _ true
    · rfl
  have hdata : (if res.disconnect then res.cluster.scheduleDisconnect id
      else res.cluster).algorithmData = res.cluster.algorithmData := by
    split <;> rfl
  cases hcase with
  | same hcluster hlog => exact .inl ⟨hlog, by rw [hflag, hcluster], by rw [hdata, hcluster]⟩
  | preinit _ name pre _ _ hcluster hlog =>
    refine .inl ⟨hlog, ?_, by rw [hdata, hcluster]; rfl⟩
    rw [hflag, hcluster]
    exact hwrite (hV client name pre _ _ _ _ _ _ _)
  | starttls _ _ cert hcluster hlog =>
    refine .inl ⟨hlog, ?_, by rw [hdata, hcluster]; rfl⟩
    rw [hflag, hcluster]
    exact hwrite (hV client _ _ true false cert _ _ _ _)
  | quiet client' htls hb dpd keep hcluster hlog =>
    refine .inl ⟨hlog, ?_, by rw [hdata, hcluster]; rfl⟩
    rw [hflag, hcluster]
    exact hwrite ((hV client' _ _ _ _ _ hb dpd keep _).trans (hV.checkTls htls))
  | call client' htls _ call result hcall hrun hafter hlog =>
    exact .inr ⟨client, client', type, call, result, res, hclient, htype, hcall, htls, hrun, hafter,
      hlog, hflag, hdata⟩

theorem sameRegistration_clusterMessage {settings : Settings} {env : Env}
    {cluster cluster' : QnetdCluster} {id : ClientId} {msg : MsgDecoded} {log : List AlgoLog}
    (hids : (cluster.clientList.map (·.id)).Nodup)
    (h : clusterMessage settings env cluster id msg = .ok (cluster', log)) :
    SameRegistration cluster cluster' := by
  rcases clusterMessage_cases hids h with ⟨rfl, -⟩ | ⟨client, type, res, hclient, -, -, hcase, -, rfl⟩
  · rfl
  · have huniq : ∀ c ∈ cluster.clientList, c.id = client.id → c = client :=
      fun c hc hid => List.inj_on_of_nodup_map hids hc (client?_mem hclient) hid
    have hres := hcase.sameRegistration huniq
    split
    · exact hres.trans (sameKept_scheduleDisconnect _ id).fixed.registration
    · exact hres

theorem sameRegistration_clusterAlgoTimer {env : Env} {cluster cluster' : QnetdCluster}
    {id : ClientId} {log : List AlgoLog}
    (h : clusterAlgoTimer env cluster id = .ok (cluster', log)) :
    SameRegistration cluster cluster' := by
  simp only [clusterAlgoTimer] at h
  split at h
  · cases h
    rfl
  · split at h
    · cases h
      rfl
    · split at h
      · cases h
      · next res hres =>
        cases h
        exact (sameKept_qnetdClientAlgoTimerCallback hres).fixed.registration

/-- A disconnect runs the callback, and then the client is gone. -/
theorem clusterDisconnect_cases {env : Env} {cluster cluster' : QnetdCluster} {id : ClientId}
    {down : Bool} {log : List AlgoLog}
    (h : clusterDisconnect env cluster id down = .ok (cluster', log)) :
    (cluster' = cluster ∧ log = [] ∧ cluster.client? id = none) ∨
      ∃ client res, cluster.client? id = some client ∧
        (if client.initReceived then qnetdAlgorithmClientDisconnect env cluster client down
          else .ok { cluster }) = .ok res ∧ log = res.log ∧
        cluster' = { res.cluster with
          clientList := res.cluster.clientList.filter (·.id ≠ id) } := by
  simp only [clusterDisconnect] at h
  split at h
  · next hnone =>
    cases h
    exact .inl ⟨rfl, rfl, hnone⟩
  · next client hclient =>
    split at h
    · cases h
    · next res hres =>
      cases h
      exact .inr ⟨client, res, hclient, hres, rfl, rfl⟩

theorem Registered.filter {algorithm : UInt16} {cluster : QnetdCluster}
    (h : Registered algorithm cluster) (p : QnetdClient → Bool) :
    Registered algorithm { cluster with clientList := cluster.clientList.filter p } where
  ids := h.ids.sublist (List.filter_sublist.map _)
  nodeIds := h.nodeIds.sublist (List.filter_sublist.map _)
  init c hc := h.init c (List.mem_filter.mp hc).1
  algorithm c hc := h.algorithm c (List.mem_filter.mp hc).1
  tieBreaker c hc d hd :=
    h.tieBreaker c (List.mem_filter.mp hc).1 d (List.mem_filter.mp hd).1

theorem registered_clusterDisconnect {algorithm : UInt16} {env : Env}
    {cluster cluster' : QnetdCluster} {id : ClientId} {down : Bool} {log : List AlgoLog}
    (hreg : Registered algorithm cluster)
    (h : clusterDisconnect env cluster id down = .ok (cluster', log)) :
    Registered algorithm cluster' := by
  rcases clusterDisconnect_cases h with ⟨rfl, -⟩ | ⟨client, res, -, hres, -, rfl⟩
  · exact hreg
  · have hsame : SameFixed cluster res.cluster := by
      split at hres
      · exact (sameKept_qnetdAlgorithmClientDisconnect hres).fixed
      · cases hres; rfl
    exact (hreg.of_same hsame.registration).filter _

/-! ### INIT -/

theorem tlvTieBreakerEq_symm {tb₁ tb₂ : TlvTieBreaker} (h : tlvTieBreakerEq tb₁ tb₂ = true) :
    tlvTieBreakerEq tb₂ tb₁ = true := by
  simp only [tlvTieBreakerEq] at h ⊢
  split at h <;> grind

theorem tlvTieBreakerEq_trans {tb₁ tb₂ tb₃ : TlvTieBreaker} (h₁₂ : tlvTieBreakerEq tb₁ tb₂ = true)
    (h₂₃ : tlvTieBreakerEq tb₂ tb₃ = true) : tlvTieBreakerEq tb₁ tb₃ = true := by
  simp only [tlvTieBreakerEq] at h₁₂ h₂₃ ⊢
  grind

theorem tlvTieBreakerEq_refl (tb : TlvTieBreaker) : tlvTieBreakerEq tb tb = true := by
  simp [tlvTieBreakerEq]

theorem tlvTieBreakerEq_mode {tb₁ tb₂ : TlvTieBreaker} (h : tlvTieBreakerEq tb₁ tb₂ = true) :
    tb₁.mode = tb₂.mode := by
  simp only [tlvTieBreakerEq] at h
  grind

/-- A new client passes the check exactly if it agrees with every client of the cluster and
    its node id is not taken. -/
theorem checkNewClient_eq_noError {newClient : QnetdClient} {clients : List QnetdClient} :
    qnetdClientMsgReceivedInitCheckNewClient newClient clients = .noError ↔
      ∀ c ∈ clients, tlvTieBreakerEq newClient.tieBreaker c.tieBreaker = true ∧
        newClient.decisionAlgorithm = c.decisionAlgorithm ∧ newClient.nodeId ≠ c.nodeId := by
  induction clients with
  | nil => simp [qnetdClientMsgReceivedInitCheckNewClient]
  | cons c rest ih =>
    simp only [qnetdClientMsgReceivedInitCheckNewClient, List.mem_cons, forall_eq_or_imp]
    split
    · next htb => simp [htb]
    · next htb =>
      split
      · next halg => simp [halg]
      · next halg =>
        split
        · next hnode => simp [hnode]
        · next hnode => simp_all

theorem insertClient_perm (client : QnetdClient) (clients : List QnetdClient) :
    (qnetdClusterListInsertClient client clients).Perm (client :: clients) := by
  induction clients with
  | nil => exact .refl _
  | cons c rest ih =>
    simp only [qnetdClusterListInsertClient]
    split
    · exact .refl _
    · exact (ih.cons c).trans (.swap client c rest)

theorem mem_insertClient {client : QnetdClient} {clients : List QnetdClient} {c : QnetdClient} :
    c ∈ qnetdClusterListInsertClient client clients ↔ c = client ∨ c ∈ clients := by
  rw [(insertClient_perm client clients).mem_iff, List.mem_cons]

/-- A client with a new node id goes to its place in the ascending order. -/
theorem insertClient_sorted {client : QnetdClient} {clients : List QnetdClient}
    (hsorted : (clients.map (·.nodeId)).Pairwise (· < ·))
    (hnew : ∀ c ∈ clients, client.nodeId ≠ c.nodeId) :
    ((qnetdClusterListInsertClient client clients).map (·.nodeId)).Pairwise (· < ·) := by
  induction clients with
  | nil => simp [qnetdClusterListInsertClient]
  | cons c rest ih =>
    rw [List.map_cons, List.pairwise_cons] at hsorted
    simp only [qnetdClusterListInsertClient]
    split
    · next hlt =>
      simp only [List.map_cons, List.pairwise_cons, List.mem_cons]
      refine ⟨?_, hsorted.1, hsorted.2⟩
      rintro n (rfl | hn)
      · exact hlt
      · exact UInt32.lt_trans hlt (hsorted.1 n hn)
    · next hge =>
      have hlt : c.nodeId < client.nodeId := by
        have := hnew c (List.mem_cons_self ..)
        exact UInt32.lt_of_le_of_ne (UInt32.not_lt.mp hge) fun h => this h.symm
      rw [List.map_cons, List.pairwise_cons]
      refine ⟨fun n hn => ?_, ih hsorted.2 fun d hd => hnew d (List.mem_cons_of_mem _ hd)⟩
      obtain ⟨d, hd, rfl⟩ := List.mem_map.mp hn
      rcases mem_insertClient.mp hd with rfl | hd
      · exact hlt
      · exact hsorted.1 _ (List.mem_map_of_mem hd)

/-- An option without an error was there, and there was no error before. -/
theorem initOption_noError {α : Type} {value : Option α} {zero : α}
    {copy : α → QnetdClient × TlvReplyErrorCode → QnetdClient × TlvReplyErrorCode}
    {acc : QnetdClient × TlvReplyErrorCode}
    (h : (initOption value zero copy acc).2 = .noError)
    (hcopy : ∀ v acc, (copy v acc).2 = .noError → acc.2 = .noError) :
    acc.2 = .noError ∧ ∃ v, value = some v ∧ initOption value zero copy acc = copy v acc := by
  simp only [initOption] at h ⊢
  split at h
  · cases h
  · next hnot =>
    have hacc := hcopy _ _ h
    cases value with
    | none => simp [hacc] at hnot
    | some v => exact ⟨hacc, v, rfl, by simp⟩

theorem initDecisionAlgorithm_noError (algorithm : UInt16)
    (acc : QnetdClient × TlvReplyErrorCode)
    (h : (initDecisionAlgorithm algorithm acc).2 = .noError) : acc.2 = .noError := by
  simp only [initDecisionAlgorithm] at h
  split at h
  · exact h
  · cases h

theorem initHeartbeatInterval_noError (settings : Settings) (interval : UInt32)
    (acc : QnetdClient × TlvReplyErrorCode)
    (h : (initHeartbeatInterval settings interval acc).2 = .noError) : acc.2 = .noError := by
  simp only [initHeartbeatInterval] at h
  split at h
  · exact h
  · cases h

/-- An INIT whose options are accepted carries all of them, and this is what it leaves in the
    client. -/
theorem initOptions_noError {settings : Settings} {client : QnetdClient} {msg : MsgDecoded}
    (h : (initOptions settings client msg).2 = .noError) :
    ∃ nodeId ringId tieBreaker decisionAlgorithm hb dpd,
      msg.nodeId = some nodeId ∧ msg.ringId = some ringId ∧ msg.tieBreaker = some tieBreaker ∧
      msg.decisionAlgorithm = some decisionAlgorithm ∧
      (qnetdAlgorithmArray decisionAlgorithm).isSome = true ∧ client.preinitReceived = true ∧
      (initOptions settings client msg).1 = { client with
        nodeIdSet := true, nodeId := nodeId, lastRingId := ringId, heartbeatInterval := hb,
        dpdTimer := dpd, tieBreaker := tieBreaker, decisionAlgorithm := decisionAlgorithm,
        keepActivePartitionTieBreaker := settings.keepActivePartitionTieBreaker } := by
  have hfinal : (initCopyOptions settings client msg).2 = .noError := by
    simp only [initOptions] at h
    split at h
    · assumption
    · exact h
  simp only [initOptions, if_pos hfinal]
  simp only [initCopyOptions] at hfinal ⊢
  obtain ⟨h₄, algorithm, halg, hacc₅⟩ := initOption_noError hfinal initDecisionAlgorithm_noError
  obtain ⟨h₃, tieBreaker, htb, hacc₄⟩ := initOption_noError h₄ fun _ _ h => h
  obtain ⟨h₂, interval, -, hacc₃⟩ := initOption_noError h₃ (initHeartbeatInterval_noError settings)
  obtain ⟨h₁, ringId, hring, hacc₂⟩ := initOption_noError h₂ fun _ _ h => h
  obtain ⟨h₀, nodeId, hnode, hacc₁⟩ := initOption_noError h₁ fun _ _ h => h
  have hpre : client.preinitReceived = true := by
    simp only at h₀
    split at h₀
    · assumption
    · cases h₀
  have hsupported : (qnetdAlgorithmArray algorithm).isSome = true := by
    rw [hacc₅] at hfinal
    simp only [initDecisionAlgorithm] at hfinal
    split at hfinal
    · next hany => simpa [qnetdAlgorithmArray] using hany
    · cases hfinal
  rw [hacc₅, hacc₄, hacc₃, hacc₂, hacc₁]
  obtain ⟨hb, dpd, hset⟩ := setHeartbeatInterval_client settings
    { client with nodeIdSet := true, nodeId := nodeId, lastRingId := ringId } interval
  refine ⟨nodeId, ringId, tieBreaker, algorithm, hb, dpd, hnode, hring, htb, halg, hsupported, hpre,
    ?_⟩
  simp only [initDecisionAlgorithm, initTieBreaker, initHeartbeatInterval, initRingId, initNodeId,
    hset]

/-- The client list after the new client has been added to it. -/
def joinedCluster (cluster : QnetdCluster) (client : QnetdClient) : QnetdCluster :=
  { cluster with clientList := qnetdClusterListInsertClient client cluster.clientList }

/-- What joining a cluster does, if it succeeds. -/
theorem initJoin_cases (cluster : QnetdCluster) (client : QnetdClient)
    (halgorithm : (qnetdAlgorithmArray client.decisionAlgorithm).isSome = true) :
    (qnetdClientMsgReceivedInitCheckNewClient client cluster.clientList ≠ .noError ∧
        (initJoin cluster client).1 = cluster) ∨
      ∃ joined, joined = { client with cluster := some cluster.id } ∧
        (initJoin cluster client).2 = .noError ∧
        qnetdClientMsgReceivedInitCheckNewClient client cluster.clientList = .noError ∧
        (initJoin cluster client).1 =
          (qnetdAlgorithmClientInit (joinedCluster cluster joined) joined).cluster.modifyClient
            client.id fun c => { c with initReceived := true } := by
  simp only [initJoin]
  split
  · next hcheck =>
    have hcode (cl : QnetdCluster) (c : QnetdClient)
        (hc : c.decisionAlgorithm = client.decisionAlgorithm) :
        (qnetdAlgorithmClientInit cl c).replyErrorCode = .noError := by
      simp only [qnetdAlgorithmClientInit, hc]
      split
      · next hnone => simp [hnone] at halgorithm
      all_goals rfl
    refine .inr ⟨_, rfl, ?_⟩
    rw [if_pos (hcode _ { client with cluster := some cluster.id } rfl)]
    exact ⟨rfl, hcheck, rfl⟩
  · next hcheck => exact .inl ⟨hcheck, rfl⟩

/-- A client of a connection on which nothing but the handshake has happened. -/
structure FreshClient (id : ClientId) (c : QnetdClient) : Prop where
  id : c.id = id
  voteInfos : c.voteInfos = []
  ffsplitData : c.ffsplitData = {}
  lmsInfo : c.lmsInfo = {}
  twoNodeLmsInfo : c.twoNodeLmsInfo = {}
  configurationNodeList : c.configurationNodeList = []
  lastMembershipNodeList : c.lastMembershipNodeList = []
  lastHeuristics : c.lastHeuristics = .undefined
  scheduleDisconnect : c.scheduleDisconnect = false
  algoTimer : c.algoTimer = none

theorem Connection.freshClient (conn : Connection) : FreshClient conn.id conn.client := by
  constructor <;> rfl

theorem FreshClient.checkTls {id : ClientId} {settings : Settings} {client client' : QnetdClient}
    (h : FreshClient id client)
    (htls : qnetdClientMsgReceivedCheckTls settings client = .success client') :
    FreshClient id client' := by
  rcases checkTls_success htls with rfl | ⟨_, _, _, _, _, rfl⟩
  · exact h
  · obtain ⟨hid, hvote, hff, hlms, htwo, hconf, hmem, hheur, hsched, htimer⟩ := h
    exact ⟨hid, hvote, hff, hlms, htwo, hconf, hmem, hheur, hsched, htimer⟩

/-- A successful INIT adds the client of its connection, registered and otherwise untouched. -/
theorem clusterInit_cases (settings : Settings) (cluster : QnetdCluster) (conn : Connection)
    (msg : MsgDecoded) :
    clusterInit settings cluster conn msg = cluster ∨
      ∃ joined, cluster.client? conn.id = none ∧ FreshClient conn.id joined ∧
        msg.nodeId = some joined.nodeId ∧ msg.ringId = some joined.lastRingId ∧
        msg.tieBreaker = some joined.tieBreaker ∧
        msg.decisionAlgorithm = some joined.decisionAlgorithm ∧
        (∀ c ∈ cluster.clientList, tlvTieBreakerEq joined.tieBreaker c.tieBreaker = true ∧
          joined.decisionAlgorithm = c.decisionAlgorithm ∧ joined.nodeId ≠ c.nodeId) ∧
        clusterInit settings cluster conn msg =
          (qnetdAlgorithmClientInit (joinedCluster cluster joined) joined).cluster.modifyClient
            joined.id fun c => { c with initReceived := true } := by
  simp only [clusterInit]
  split
  · exact .inl rfl
  · next hnone =>
    split
    · next client htls =>
      split
      · next hcode =>
        obtain ⟨nodeId, ringId, tieBreaker, algorithm, hb, dpd, hnode, hring, htb, halg, hsupported,
          -, hclient⟩ := initOptions_noError hcode
        rcases initJoin_cases cluster (initOptions settings client msg).1
          (by rw [hclient]; exact hsupported) with ⟨-, hsame⟩ | ⟨joined, hjoined, -, hcheck, hjoin⟩
        · exact .inl hsame
        · have hfresh : FreshClient conn.id (initOptions settings client msg).1 := by
            obtain ⟨hid, hvote, hff, hlms, htwo, hconf, hmem, hheur, hsched, htimer⟩ :=
              conn.freshClient.checkTls htls
            rw [hclient]
            exact ⟨hid, hvote, hff, hlms, htwo, hconf, hmem, hheur, hsched, htimer⟩
          have hoptions : msg.nodeId = some (initOptions settings client msg).1.nodeId ∧
              msg.ringId = some (initOptions settings client msg).1.lastRingId ∧
              msg.tieBreaker = some (initOptions settings client msg).1.tieBreaker ∧
              msg.decisionAlgorithm =
                some (initOptions settings client msg).1.decisionAlgorithm := by
            rw [hclient]
            exact ⟨hnode, hring, htb, halg⟩
          clear hclient
          generalize (initOptions settings client msg).1 = c at *
          subst hjoined
          obtain ⟨hid, hvote, hff, hlms, htwo, hconf, hmem, hheur, hsched, htimer⟩ := hfresh
          have hagree := checkNewClient_eq_noError.mp hcheck
          exact .inr ⟨{ c with cluster := some cluster.id }, by simpa using hnone,
            ⟨hid, hvote, hff, hlms, htwo, hconf, hmem, hheur, hsched, htimer⟩, hoptions.1,
            hoptions.2.1, hoptions.2.2.1, hoptions.2.2.2, hagree, hjoin⟩
      · exact .inl rfl
    · exact .inl rfl
    · exact .inl rfl

theorem mem_modifyClient {cluster : QnetdCluster} {id : ClientId} {f : QnetdClient → QnetdClient}
    {c' : QnetdClient} (h : c' ∈ (cluster.modifyClient id f).clientList) :
    ∃ c ∈ cluster.clientList, (c.id = id ∧ c' = f c) ∨ (c.id ≠ id ∧ c' = c) := by
  obtain ⟨c, hc, rfl⟩ := List.mem_map.mp h
  by_cases hid : c.id = id
  · exact ⟨c, hc, .inl ⟨hid, by simp [hid]⟩⟩
  · exact ⟨c, hc, .inr ⟨hid, by simp [hid]⟩⟩

theorem registered_joinedCluster {algorithm : UInt16} {cluster : QnetdCluster}
    (joined : QnetdClient) (hreg : Registered algorithm cluster)
    (hnone : ∀ c ∈ cluster.clientList, c.id ≠ joined.id)
    (halgorithm : joined.decisionAlgorithm = algorithm) (hinit : joined.initReceived = true)
    (hcheck : ∀ c ∈ cluster.clientList, tlvTieBreakerEq joined.tieBreaker c.tieBreaker = true ∧
      joined.decisionAlgorithm = c.decisionAlgorithm ∧ joined.nodeId ≠ c.nodeId) :
    Registered algorithm (joinedCluster cluster joined) where
  ids := by
    have hperm := (insertClient_perm joined cluster.clientList).map (·.id)
    refine hperm.nodup_iff.mpr ?_
    rw [List.map_cons, List.nodup_cons]
    refine ⟨fun hmem => ?_, hreg.ids⟩
    obtain ⟨c, hc, hid⟩ := List.mem_map.mp hmem
    exact hnone c hc hid
  nodeIds := insertClient_sorted hreg.nodeIds fun c hc => (hcheck c hc).2.2
  init c hc := by
    rcases mem_insertClient.mp hc with rfl | hc
    · exact hinit
    · exact hreg.init c hc
  algorithm c hc := by
    rcases mem_insertClient.mp hc with rfl | hc
    · exact halgorithm
    · exact hreg.algorithm c hc
  tieBreaker c hc d hd := by
    rcases mem_insertClient.mp hc with rfl | hc' <;> rcases mem_insertClient.mp hd with rfl | hd'
    · exact tlvTieBreakerEq_refl _
    · exact (hcheck d hd').1
    · exact tlvTieBreakerEq_symm (hcheck c hc').1
    · exact hreg.tieBreaker c hc' d hd'

theorem map_insertClient {β : Type} {V V' : QnetdClient → β} {client client' : QnetdClient}
    {clients : List QnetdClient} (hnode : client'.nodeId = client.nodeId)
    (hclient : V' client' = V client) (hrest : ∀ c ∈ clients, V' c = V c) :
    (qnetdClusterListInsertClient client' clients).map V' =
      (qnetdClusterListInsertClient client clients).map V := by
  induction clients with
  | nil => simp [qnetdClusterListInsertClient, hclient]
  | cons c rest ih =>
    have hrest' : rest.map V' = rest.map V :=
      List.map_congr_left fun d hd => hrest d (List.mem_cons_of_mem _ hd)
    simp only [qnetdClusterListInsertClient, hnode]
    split
    · simp [hclient, hrest c (List.mem_cons_self ..), hrest']
    · simp [hrest c (List.mem_cons_self ..), ih fun d hd => hrest d (List.mem_cons_of_mem _ hd)]

/-- The algorithm's callback and the flag only add the flag to the new client. -/
theorem sameFixed_joined {cluster : QnetdCluster} (joined : QnetdClient)
    (hnone : ∀ c ∈ cluster.clientList, c.id ≠ joined.id) :
    SameFixed (joinedCluster cluster { joined with initReceived := true })
      ((qnetdAlgorithmClientInit (joinedCluster cluster joined) joined).cluster.modifyClient
        joined.id fun c => { c with initReceived := true }) := by
  let mark (f : Fixed) : Fixed := if f.id = joined.id then { f with initReceived := true } else f
  calc _ = (qnetdAlgorithmClientInit (joinedCluster cluster joined) joined).cluster.clientList.map
        (fun c => mark c.fixed) := by
          simp only [QnetdCluster.modifyClient, List.map_map]
          refine List.map_congr_left fun c _ => ?_
          simp only [Function.comp_apply, mark, QnetdClient.fixed]
          split <;> rfl
    _ = (joinedCluster cluster joined).clientList.map (fun c => mark c.fixed) :=
        List.map_comp_of_map_eq mark (sameKept_qnetdAlgorithmClientInit _ _).fixed
    -- the flag is set on the client with the new identity, that is, on the new client
    _ = _ := by
        refine map_insertClient rfl (by simp [mark, QnetdClient.fixed]) fun c hc => ?_
        simp [mark, QnetdClient.fixed, hnone c hc]

/-- Joining registers the new client beside the old ones. -/
theorem registered_clusterInit {algorithm : TlvDecisionAlgorithmType} {settings : Settings}
    {cluster : QnetdCluster} {conn : Connection} {msg : MsgDecoded}
    (hreg : Registered algorithm.toUInt16 cluster)
    (halgorithm : msg.decisionAlgorithm = some algorithm.toUInt16) :
    Registered algorithm.toUInt16 (clusterInit settings cluster conn msg) := by
  rcases clusterInit_cases settings cluster conn msg with
    hsame | ⟨joined, hnone, hfresh, -, -, -, halg, hcheck, hjoin⟩
  · rw [hsame]
    exact hreg
  · rw [hjoin]
    have hnone' : ∀ c ∈ cluster.clientList, c.id ≠ joined.id := fun c hc hid => by
      have := List.find?_eq_none.mp hnone c hc
      simp [hid, hfresh.id] at this
    have halg' : joined.decisionAlgorithm = algorithm.toUInt16 := by
      rw [halgorithm] at halg
      exact (Option.some.inj halg).symm
    exact (registered_joinedCluster { joined with initReceived := true } hreg hnone' halg' rfl
      hcheck).of_same (sameFixed_joined joined hnone').registration

/-- Every event keeps the registration. -/
theorem registered_clusterStep {algorithm : TlvDecisionAlgorithmType} {settings : Settings}
    {env : Env} {cluster cluster' : QnetdCluster} {event : ClusterEvent} {log : List AlgoLog}
    (hreg : Registered algorithm.toUInt16 cluster) (huses : UsesAlgorithm algorithm event)
    (h : clusterStep settings env cluster event = .ok (cluster', log)) :
    Registered algorithm.toUInt16 cluster' := by
  cases event with
  | init conn msg =>
    cases h
    exact registered_clusterInit hreg huses
  | message id msg => exact hreg.of_same (sameRegistration_clusterMessage hreg.ids h)
  | algoTimer id => exact hreg.of_same (sameRegistration_clusterAlgoTimer h)
  | disconnect id down => exact registered_clusterDisconnect hreg h

/-- So in every reachable state the clients are registered. -/
theorem registered_of_reach {algorithm : TlvDecisionAlgorithmType} {settings : Settings}
    {id : ClusterId} {name : List UInt8} {cluster : QnetdCluster}
    (h : (clusterMachine settings id name).Reach (fun _ e => UsesAlgorithm algorithm e.2) cluster) :
    Registered algorithm.toUInt16 cluster := by
  refine h.invariant (Registered algorithm.toUInt16) (registered_empty _ id name) ?_
  intro s s' e _ hreg huses hstep
  obtain ⟨log, hok⟩ := clusterMachine_step hstep
  exact registered_clusterStep hreg huses hok

/-! ### Concrete messages

What a qdevice client sends, as the server decodes it. -/

/-- A server without TLS and dead peer detection. -/
def Settings.plain : Settings where
  tlsSupported := .unsupported
  tlsClientCertRequired := false
  heartbeatIntervalMin := 1000
  heartbeatIntervalMax := 120000
  keepActivePartitionTieBreaker := .disabled
  dpdEnabled := false
  dpdInterval := id
  certVerifyCertName := fun _ _ => false

def initMsg (algorithm : TlvDecisionAlgorithmType) (tieBreaker : TlvTieBreaker) (nodeId : UInt32)
    (ringId : TlvRingId) : MsgDecoded where
  type := MsgType.init.toUInt16
  seqNumber := some 1
  nodeId := some nodeId
  ringId := some ringId
  heartbeatInterval := some 8000
  tieBreaker := some tieBreaker
  decisionAlgorithm := some algorithm.toUInt16

def configNodeListMsg (nodeIds : List UInt32) : MsgDecoded where
  type := MsgType.nodeList.toUInt16
  seqNumber := some 2
  nodeListType := some .initialConfig
  nodes := nodeIds.map fun n => ⟨n, 0, .notSet⟩

def membershipNodeListMsg (ringId : TlvRingId) (nodeIds : List UInt32)
    (heuristics : TlvHeuristics) : MsgDecoded where
  type := MsgType.nodeList.toUInt16
  seqNumber := some 3
  nodeListType := some .membership
  ringId := some ringId
  nodes := nodeIds.map fun n => ⟨n, 0, .member⟩
  heuristics := heuristics

def heuristicsChangeMsg (heuristics : TlvHeuristics) : MsgDecoded where
  type := MsgType.heuristicsChange.toUInt16
  seqNumber := some 4
  heuristics := heuristics

def askForVoteMsg : MsgDecoded where
  type := MsgType.askForVote.toUInt16
  seqNumber := some 5

end Qdevice.Qnetd
