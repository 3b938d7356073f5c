import Qdevice.Spec.ClusterFrame

/-! # What a message handler can do

One inversion lemma, `handler_cases`, for all handlers that work on the client's own cluster:
whatever the message, the handler leaves the cluster as it was, writes one of a few
fields of the sender, or runs one algorithm callback and then stores what the message
carried.  Everything proved about runs of a cluster goes through it. -/

namespace Qdevice.Qnetd

/-- The algorithm callback a message leads to, with its arguments. -/
inductive AlgoCall where
  | config (nodes : NodeList) (configVersion : Option UInt64) (initial : Bool)
  | membership (ringId : TlvRingId) (nodes : NodeList) (heuristics : TlvHeuristics)
  | quorum (nodes : NodeList)
  | askForVote
  | voteInfoReply (seqNumber : UInt32)
  | heuristicsChange (heuristics : TlvHeuristics)

namespace AlgoCall

/-- The callback for a message of a type, if the message carries what the callback needs. -/
def ofMsg? (type : MsgType) (msg : MsgDecoded) : Option AlgoCall :=
  match type, msg.seqNumber with
  | .nodeList, some _ =>
    match msg.nodeListType with
    | none => none
    | some .initialConfig => some (.config msg.nodes msg.configVersion true)
    | some .changedConfig => some (.config msg.nodes msg.configVersion false)
    | some .membership => msg.ringId.map fun ringId => .membership ringId msg.nodes msg.heuristics
    | some .quorum => msg.quorate.map fun _ => .quorum msg.nodes
  | .askForVote, some _ => some .askForVote
  | .voteInfoReply, some seqNumber => some (.voteInfoReply seqNumber)
  | .heuristicsChange, some _ =>
    if msg.heuristics = .undefined then none else some (.heuristicsChange msg.heuristics)
  | _, _ => none

/-- Run the callback. -/
def run (env : Env) (cluster : QnetdCluster) (client : QnetdClient) :
    AlgoCall → Except Abort AlgoResult
  | .config nodes _ initial =>
    qnetdAlgorithmConfigNodeListReceived env cluster client nodes initial
  | .membership ringId nodes heuristics =>
    qnetdAlgorithmMembershipNodeListReceived env cluster client ringId nodes heuristics
  | .quorum _ => qnetdAlgorithmQuorumNodeListReceived env cluster client
  | .askForVote => qnetdAlgorithmAskForVoteReceived env cluster client
  | .voteInfoReply seqNumber =>
    .ok (qnetdAlgorithmVoteInfoReplyReceived env cluster client seqNumber)
  | .heuristicsChange heuristics =>
    qnetdAlgorithmHeuristicsChangeReceived env cluster client heuristics

/-- Remember the vote that is sent back. -/
def storeVote (vote : TlvVote) (c : QnetdClient) : QnetdClient :=
  { c with
    lastSentVote := vote
    lastSentAckNackVote := if vote = .ack ∨ vote = .nack then vote else c.lastSentAckNackVote }

/-- What is written to the client after the callback. -/
def store (vote : TlvVote) : AlgoCall → QnetdClient → QnetdClient
  | .config nodes configVersion _, c =>
    storeVote vote { c with configurationNodeList := nodes, configVersion }
  | .membership ringId nodes heuristics, c =>
    storeVote vote { c with
      lastMembershipNodeList := nodes
      lastRingId := ringId
      lastMembershipHeuristics := heuristics
      lastHeuristics := heuristics }
  | .quorum nodes, c => storeVote vote { c with lastQuorumNodeList := nodes }
  | .askForVote, c => storeVote vote c
  | .voteInfoReply _, c => c
  | .heuristicsChange heuristics, c =>
    storeVote vote { c with lastRegularHeuristics := heuristics, lastHeuristics := heuristics }

/-- What is left in the client when the received list cannot be stored. -/
def emptied : AlgoCall → QnetdClient → QnetdClient
  | .config .., c => { c with configurationNodeList := [] }
  | .membership .., c => { c with lastMembershipNodeList := [] }
  | .quorum _, c => { c with lastQuorumNodeList := [] }
  | .askForVote, c | .voteInfoReply _, c | .heuristicsChange _, c => c

theorem fixed_store (vote : TlvVote) (call : AlgoCall) (c : QnetdClient) :
    (call.store vote c).fixed = c.fixed := by
  cases call <;> rfl

theorem fixed_emptied (call : AlgoCall) (c : QnetdClient) : (call.emptied c).fixed = c.fixed := by
  cases call <;> rfl

/-- Every callback keeps the `kept` parts. -/
theorem sameKept_run {env : Env} {cluster : QnetdCluster} {client : QnetdClient}
    {call : AlgoCall} {res : AlgoResult} (h : call.run env cluster client = .ok res) :
    SameKept cluster res.cluster := by
  cases call with
  | config nodes version initial => exact sameKept_qnetdAlgorithmConfigNodeListReceived h
  | membership ringId nodes heuristics =>
    exact sameKept_qnetdAlgorithmMembershipNodeListReceived h
  | quorum nodes => exact sameKept_qnetdAlgorithmQuorumNodeListReceived h
  | askForVote => exact sameKept_qnetdAlgorithmAskForVoteReceived h
  | voteInfoReply seqNumber =>
    cases h
    exact sameKept_qnetdAlgorithmVoteInfoReplyReceived env cluster client seqNumber
  | heuristicsChange heuristics => exact sameKept_qnetdAlgorithmHeuristicsChangeReceived h

end AlgoCall

/-! ### Writes to one client -/

theorem modifyClient_id (cluster : QnetdCluster) (id : ClientId) :
    cluster.modifyClient id (fun c => c) = cluster := by
  simp [QnetdCluster.modifyClient]

theorem modifyClient_modifyClient (cluster : QnetdCluster) (id : ClientId)
    (f g : QnetdClient → QnetdClient) (hf : ∀ c, c.id = id → (f c).id = id) :
    (cluster.modifyClient id f).modifyClient id g = cluster.modifyClient id fun c => g (f c) := by
  simp only [QnetdCluster.modifyClient, List.map_map]
  congr 1
  refine List.map_congr_left fun c _ => ?_
  simp only [Function.comp_apply]
  by_cases hid : c.id = id
  · simp [hid, hf c hid]
  · simp [hid]

/-- Writing the whole client is the same as changing it. -/
theorem modifyClient_eq_write {cluster : QnetdCluster} {client : QnetdClient}
    (hclient : ∀ c ∈ cluster.clientList, c.id = client.id → c = client)
    (f : QnetdClient → QnetdClient) :
    cluster.modifyClient client.id f = cluster.modifyClient client.id fun _ => f client := by
  simp only [QnetdCluster.modifyClient]
  congr 1
  refine List.map_congr_left fun c hc => ?_
  by_cases hid : c.id = client.id
  · rw [hclient c hc hid]
  · simp [hid]

/-- A successful TLS check writes at most the verified flag, and then the certificate
    has been verified against the client's cluster name. -/
theorem checkTls_success {settings : Settings} {client client' : QnetdClient}
    (h : qnetdClientMsgReceivedCheckTls settings client = .success client') :
    client' = client ∨
      ∃ cert name, client.peerCertificate = some cert ∧ client.clusterName = some name ∧
        settings.certVerifyCertName cert (cString name) = true ∧
        client' = { client with tlsPeerCertificateVerified := true } := by
  simp only [qnetdClientMsgReceivedCheckTls] at h
  split at h
  · cases h
  · split at h
    · split at h
      · next cert name hcert hname =>
        split at h
        · next hverified => cases h; exact .inr ⟨cert, name, hcert, hname, hverified, rfl⟩
        · cases h
      · cases h
    · cases h; exact .inl rfl

theorem checkTls_id {settings : Settings} {client client' : QnetdClient}
    (h : qnetdClientMsgReceivedCheckTls settings client = .success client') :
    client'.id = client.id := by
  rcases checkTls_success h with rfl | ⟨_, _, _, _, _, rfl⟩ <;> rfl

/-! ### The inversion lemma -/

/-- The result of a handler that ran an algorithm callback for `client`. -/
inductive AfterCall (env : Env) (call : AlgoCall) (client : QnetdClient) (result : AlgoResult)
    (res : Handled) : Prop where
  /-- The callback failed: its error code is sent back and nothing is stored. -/
  | failed (hcode : result.replyErrorCode ≠ .noError) (hcluster : res.cluster = result.cluster)
  /-- The message is stored. -/
  | stored (hcode : result.replyErrorCode = .noError)
      (hcluster : res.cluster =
        result.cluster.modifyClient client.id (call.store result.resultVote))
  /-- There was no memory to store the list, so the client is disconnected. -/
  | emptied (hcode : result.replyErrorCode = .noError) (hdisconnect : res.disconnect = true)
      (hcluster : res.cluster = result.cluster.modifyClient client.id call.emptied)
      (hclone : env.nodeListClone = false)

/-- What a handler of a message of type `type` from `client` can have done. -/
inductive HandlerCase (settings : Settings) (env : Env) (type : MsgType) (cluster : QnetdCluster)
    (client : QnetdClient) (msg : MsgDecoded) (res : Handled) : Prop where
  /-- An error is sent back (or cannot be sent). -/
  | same (hcluster : res.cluster = cluster) (hlog : res.log = [])
  /-- PREINIT changes the name. -/
  | preinit (htype : type = .preinit) (clusterName : Option (List UInt8)) (preinitReceived : Bool)
      (hname : msg.clusterName.isSome = true ∧
        clusterName = if env.clusterNameAlloc then msg.clusterName else none)
      (hpreinit : preinitReceived = (env.clusterNameAlloc || client.preinitReceived))
      (hcluster : res.cluster = cluster.modifyClient client.id fun _ =>
        { client with clusterName, preinitReceived }) (hlog : res.log = [])
  /-- STARTTLS gives the client a new socket. -/
  | starttls (htype : type = .starttls) (hpreinit : client.preinitReceived = true)
      (peerCertificate : Option Cert)
      (hcluster : res.cluster = cluster.modifyClient client.id fun _ =>
        { client with
          tlsStarted := true, tlsPeerCertificateVerified := false, peerCertificate })
      (hlog : res.log = [])
  /-- The TLS check passes, and no callback runs. -/
  | quiet (client' : QnetdClient)
      (htls : qnetdClientMsgReceivedCheckTls settings client = .success client')
      (heartbeatInterval : UInt32) (dpdTimer : Option UInt32)
      (keepActivePartitionTieBreaker : TlvKeepActivePartitionTieBreaker)
      (hcluster : res.cluster = cluster.modifyClient client.id fun _ =>
        { client' with heartbeatInterval, dpdTimer, keepActivePartitionTieBreaker })
      (hlog : res.log = [])
  /-- The TLS check passes, and an algorithm callback runs. -/
  | call (client' : QnetdClient)
      (htls : qnetdClientMsgReceivedCheckTls settings client = .success client')
      (hinit : client'.initReceived = true) (call : AlgoCall) (result : AlgoResult)
      (hcall : AlgoCall.ofMsg? type msg = some call)
      (hrun : call.run env (cluster.modifyClient client.id fun _ => client') client' = .ok result)
      (hafter : AfterCall env call client' result res) (hlog : res.log = result.log)

theorem sendReply_cluster (env : Env) (cluster : QnetdCluster) (log : List AlgoLog)
    (reply : Reply) : (sendReply env cluster log reply).cluster = cluster := by
  simp only [sendReply]
  split <;> rfl

theorem sendReply_log (env : Env) (cluster : QnetdCluster) (log : List AlgoLog) (reply : Reply) :
    (sendReply env cluster log reply).log = log := by
  simp only [sendReply]
  split <;> rfl

/-- `handleAlgoResult` and what surrounds it in the node list handler, as an `AfterCall`. -/
private theorem afterCall_of_handleAlgoResult {env : Env} {client : QnetdClient} {msg : MsgDecoded}
    (call : AlgoCall) {store : QnetdClient → QnetdClient} {reply : TlvRingId → TlvVote → Reply}
    {run : Except Abort AlgoResult} {res : Handled}
    (hstore : ∀ vote c, call.store vote c = AlgoCall.storeVote vote (store c))
    (hkept : ∀ c, (store c).lastSentAckNackVote = c.lastSentAckNackVote)
    (h : handleAlgoResult env client msg store reply run = .ok res) :
    ∃ result, run = .ok result ∧ AfterCall env call client result res ∧ res.log = result.log := by
  cases run with
  | error abort => cases h
  | ok result =>
    refine ⟨result, rfl, ?_⟩
    simp only [handleAlgoResult] at h
    split at h
    · next hcode =>
      cases h
      exact ⟨.failed hcode (sendReply_cluster ..), sendReply_log ..⟩
    · next hcode =>
      cases h
      refine ⟨.stored (Decidable.not_not.mp hcode) ?_, sendReply_log ..⟩
      rw [sendReply_cluster]
      congr 1
      funext c
      simp [hstore, AlgoCall.storeVote, hkept]

private theorem afterCall_of_handleNodeList {env : Env} {client : QnetdClient} {msg : MsgDecoded}
    (call : AlgoCall) {store : NodeList → QnetdClient → QnetdClient}
    {reply : TlvRingId → TlvVote → Reply} {run : Except Abort AlgoResult} {res : Handled}
    (hstore : ∀ vote c, call.store vote c = AlgoCall.storeVote vote (store msg.nodes c))
    (hkept : ∀ c, (store msg.nodes c).lastSentAckNackVote = c.lastSentAckNackVote)
    (h : handleNodeList env client msg store reply call.emptied run = .ok res) :
    ∃ result, run = .ok result ∧ AfterCall env call client result res ∧ res.log = result.log := by
  simp only [handleNodeList] at h
  split at h
  · exact afterCall_of_handleAlgoResult call hstore hkept h
  · next hclone =>
    cases run with
    | error abort => cases h
    | ok result =>
      refine ⟨result, rfl, ?_⟩
      simp only at h
      split at h
      · next hcode =>
        cases h
        exact ⟨.failed hcode (sendReply_cluster ..), sendReply_log ..⟩
      · next hcode =>
        cases h
        exact ⟨.emptied (Decidable.not_not.mp hcode) rfl rfl (by simpa using hclone), rfl⟩

section Handlers

variable {settings : Settings} {env : Env} {type : MsgType} {cluster : QnetdCluster}
  {client : QnetdClient} {msg : MsgDecoded} {res : Handled}

/-- The handlers that check TLS first: it is enough to look at what follows the check. -/
private theorem handlerCase_of_withCheckTls
    {handle : QnetdCluster → QnetdClient → Except Abort Handled}
    (h : withCheckTls settings env cluster client msg handle = .ok res)
    (hcase : ∀ client', qnetdClientMsgReceivedCheckTls settings client = .success client' →
      client'.id = client.id →
      handle (cluster.modifyClient client.id fun _ => client') client' = .ok res →
      HandlerCase settings env type cluster client msg res) :
    HandlerCase settings env type cluster client msg res := by
  simp only [withCheckTls] at h
  split at h
  · cases h
    exact .same (sendReply_cluster ..) (sendReply_log ..)
  · cases h
    exact .same rfl rfl
  · next client' htls =>
    exact hcase client' htls (checkTls_id htls) h

/-- An error after the TLS check only leaves what the check wrote. -/
private theorem handlerCase_sendErr {client' : QnetdClient} {code : TlvReplyErrorCode}
    (htls : qnetdClientMsgReceivedCheckTls settings client = .success client')
    (h : res = qnetdClientSendErr env (cluster.modifyClient client.id fun _ => client') [] msg code) :
    HandlerCase settings env type cluster client msg res := by
  subst h
  exact .quiet client' htls client'.heartbeatInterval client'.dpdTimer
    client'.keepActivePartitionTieBreaker (sendReply_cluster ..) (sendReply_log ..)

private theorem handlerCase_of_withInitReceived
    {handle : QnetdCluster → QnetdClient → Except Abort Handled}
    (h : withInitReceived settings env cluster client msg handle = .ok res)
    (hcase : ∀ client', qnetdClientMsgReceivedCheckTls settings client = .success client' →
      client'.id = client.id → client'.initReceived = true →
      handle (cluster.modifyClient client.id fun _ => client') client' = .ok res →
      HandlerCase settings env type cluster client msg res) :
    HandlerCase settings env type cluster client msg res := by
  refine handlerCase_of_withCheckTls h fun client' htls hid h => ?_
  split at h
  · cases h
    exact handlerCase_sendErr htls rfl
  · next hinit => exact hcase client' htls hid (by simpa using hinit) h

/-- PREINIT answers an error, drops the name, or takes the new one. -/
private theorem handlerCase_preinit
    (hclient : ∀ c ∈ cluster.clientList, c.id = client.id → c = client)
    (h : qnetdClientMsgReceivedPreinit settings env cluster client msg = .ok res) :
    HandlerCase settings env .preinit cluster client msg res := by
  simp only [qnetdClientMsgReceivedPreinit] at h
  split at h
  · cases h
    exact .same (sendReply_cluster ..) (sendReply_log ..)
  · next name hname =>
    split at h
    · next halloc =>
      cases h
      refine .preinit rfl none client.preinitReceived ⟨by rw [hname]; rfl, by rw [halloc]; rfl⟩
        (by simp [halloc]) ?_ (sendReply_log ..)
      rw [qnetdClientSendErr, sendReply_cluster]
      exact modifyClient_eq_write hclient _
    · next halloc =>
      have halloc : env.clusterNameAlloc = true := by simpa using halloc
      cases h
      refine .preinit rfl (some name) true ⟨by rw [hname]; rfl, by rw [halloc, hname]; rfl⟩
        (by simp [halloc]) ?_ (sendReply_log ..)
      rw [sendReply_cluster]
      exact modifyClient_eq_write hclient _

private theorem handlerCase_starttls
    (hclient : ∀ c ∈ cluster.clientList, c.id = client.id → c = client)
    (h : qnetdClientMsgReceivedStarttls env cluster client msg = .ok res) :
    HandlerCase settings env .starttls cluster client msg res := by
  simp only [qnetdClientMsgReceivedStarttls] at h
  split at h
  · cases h
    exact .same (sendReply_cluster ..) (sendReply_log ..)
  · next hpreinit =>
    split at h
    · cases h
      exact .same rfl rfl
    · next cert _ =>
      cases h
      exact .starttls rfl (by simpa using hpreinit) cert (modifyClient_eq_write hclient _) rfl

theorem setHeartbeatInterval_client (settings : Settings) (client : QnetdClient)
    (heartbeatInterval : UInt32) :
    ∃ hb dpd, (setHeartbeatInterval settings client heartbeatInterval).1 =
      { client with heartbeatInterval := hb, dpdTimer := dpd } := by
  simp only [setHeartbeatInterval, qnetdClientDpdTimerUpdateInterval]
  split
  · exact ⟨client.heartbeatInterval, client.dpdTimer, rfl⟩
  · split
    · exact ⟨heartbeatInterval, client.dpdTimer, rfl⟩
    · next c hc =>
      split at hc
      · cases hc
        exact ⟨heartbeatInterval, client.dpdTimer, rfl⟩
      · split at hc
        · cases hc
          exact ⟨heartbeatInterval, _, rfl⟩
        · cases hc

private theorem handlerCase_setOption
    (h : qnetdClientMsgReceivedSetOption settings env cluster client msg = .ok res) :
    HandlerCase settings env .setOption cluster client msg res := by
  refine handlerCase_of_withInitReceived h fun client' htls hid _ h => ?_
  have hset : ∃ hb dpd, (setOptionHeartbeatInterval settings client' msg.heartbeatInterval).1 =
      { client' with heartbeatInterval := hb, dpdTimer := dpd } := by
    cases msg.heartbeatInterval with
    | none => exact ⟨client'.heartbeatInterval, client'.dpdTimer, rfl⟩
    | some interval => exact setHeartbeatInterval_client settings client' interval
  obtain ⟨hb, dpd, hset⟩ := hset
  simp only [hset] at h
  split at h
  · cases h
    refine .quiet client' htls hb dpd client'.keepActivePartitionTieBreaker ?_ (sendReply_log ..)
    rw [qnetdClientSendErr, sendReply_cluster, hid]
    exact modifyClient_modifyClient _ _ _ _ fun _ _ => hid
  · cases h
    refine .quiet client' htls hb dpd
      (msg.keepActivePartitionTieBreaker.getD client'.keepActivePartitionTieBreaker) ?_
      (sendReply_log ..)
    rw [sendReply_cluster, hid]
    exact modifyClient_modifyClient _ _ _ _ fun _ _ => hid

private theorem handlerCase_echoRequest
    (h : qnetdClientMsgReceivedEchoRequest settings env cluster client msg = .ok res) :
    HandlerCase settings env .echoRequest cluster client msg res := by
  refine handlerCase_of_withInitReceived h fun client' htls _ _ h => ?_
  cases h
  exact .quiet client' htls client'.heartbeatInterval client'.dpdTimer
    client'.keepActivePartitionTieBreaker (sendReply_cluster ..) (sendReply_log ..)

/-- The node list handler runs the callback its list type asks for. -/
private theorem handlerCase_nodeList
    (h : qnetdClientMsgReceivedNodeList settings env cluster client msg = .ok res) :
    HandlerCase settings env .nodeList cluster client msg res := by
  refine handlerCase_of_withInitReceived h fun client' htls hid hinit h => ?_
  split at h
  · cases h
    exact handlerCase_sendErr htls rfl
  · cases h
    exact handlerCase_sendErr htls rfl
  · next seq htype hseq =>
    obtain ⟨result, hrun, hafter, hlog⟩ := afterCall_of_handleNodeList
      (.config msg.nodes msg.configVersion true) (fun _ _ => rfl) (fun _ => rfl) h
    exact .call client' htls hinit (.config msg.nodes msg.configVersion true) result
      (by simp [AlgoCall.ofMsg?, htype, hseq]) hrun hafter hlog
  · next seq htype hseq =>
    obtain ⟨result, hrun, hafter, hlog⟩ := afterCall_of_handleNodeList
      (.config msg.nodes msg.configVersion false) (fun _ _ => rfl) (fun _ => rfl) h
    exact .call client' htls hinit (.config msg.nodes msg.configVersion false) result
      (by simp [AlgoCall.ofMsg?, htype, hseq]) hrun hafter hlog
  · next seq htype hseq =>
    split at h
    · cases h
      exact handlerCase_sendErr htls rfl
    · next ringId hring =>
      obtain ⟨result, hrun, hafter, hlog⟩ := afterCall_of_handleNodeList
        (.membership ringId msg.nodes msg.heuristics) (fun _ _ => rfl) (fun _ => rfl) h
      exact .call client' htls hinit (.membership ringId msg.nodes msg.heuristics) result
        (by simp [AlgoCall.ofMsg?, htype, hseq, hring]) hrun hafter hlog
  · next seq htype hseq =>
    split at h
    · cases h
      exact handlerCase_sendErr htls rfl
    · next _ hquorate =>
      obtain ⟨result, hrun, hafter, hlog⟩ := afterCall_of_handleNodeList
        (.quorum msg.nodes) (fun _ _ => rfl) (fun _ => rfl) h
      exact .call client' htls hinit (.quorum msg.nodes) result
        (by simp [AlgoCall.ofMsg?, htype, hseq, hquorate]) hrun hafter hlog

private theorem handlerCase_askForVote
    (h : qnetdClientMsgReceivedAskForVote settings env cluster client msg = .ok res) :
    HandlerCase settings env .askForVote cluster client msg res := by
  refine handlerCase_of_withInitReceived h fun client' htls hid hinit h => ?_
  split at h
  · cases h
    exact handlerCase_sendErr htls rfl
  · next seq hseq =>
    obtain ⟨result, hrun, hafter, hlog⟩ := afterCall_of_handleAlgoResult
      AlgoCall.askForVote (fun _ _ => rfl) (fun _ => rfl) h
    exact .call client' htls hinit AlgoCall.askForVote result
      (by simp [AlgoCall.ofMsg?, hseq]) hrun hafter hlog

private theorem handlerCase_voteInfoReply
    (h : qnetdClientMsgReceivedVoteInfoReply settings env cluster client msg = .ok res) :
    HandlerCase settings env .voteInfoReply cluster client msg res := by
  refine handlerCase_of_withInitReceived h fun client' htls hid hinit h => ?_
  split at h
  · cases h
    exact handlerCase_sendErr htls rfl
  · next seq hseq =>
    refine .call client' htls hinit (.voteInfoReply seq) _ (by simp [AlgoCall.ofMsg?, hseq]) rfl ?_
      ?_
    · dsimp only at h
      split at h
      · next hcode =>
        cases h
        exact .failed hcode (sendReply_cluster ..)
      · next hcode =>
        cases h
        exact .stored (Decidable.not_not.mp hcode) (modifyClient_id _ _).symm
    · dsimp only at h
      split at h
      · cases h
        exact sendReply_log ..
      · cases h
        rfl

private theorem handlerCase_heuristicsChange
    (h : qnetdClientMsgReceivedHeuristicsChange settings env cluster client msg = .ok res) :
    HandlerCase settings env .heuristicsChange cluster client msg res := by
  refine handlerCase_of_withInitReceived h fun client' htls hid hinit h => ?_
  split at h
  · cases h
    exact handlerCase_sendErr htls rfl
  · cases h
    exact handlerCase_sendErr htls rfl
  · next seq hseq hdefined =>
    obtain ⟨result, hrun, hafter, hlog⟩ := afterCall_of_handleAlgoResult
      (.heuristicsChange msg.heuristics) (fun _ _ => rfl) (fun _ => rfl) h
    exact .call client' htls hinit (.heuristicsChange msg.heuristics) result
      (by simpa [AlgoCall.ofMsg?, hseq] using hdefined) hrun hafter hlog

/-- Whatever the message, the handler does one of the things `HandlerCase` lists. -/
theorem handler_cases {handler : QnetdCluster → QnetdClient → MsgDecoded → Except Abort Handled}
    (hclient : ∀ c ∈ cluster.clientList, c.id = client.id → c = client)
    (hhandler : qnetdClientMsgHandler? settings env type = some handler)
    (h : handler cluster client msg = .ok res) :
    HandlerCase settings env type cluster client msg res := by
  cases type <;> simp only [qnetdClientMsgHandler?, Option.some.injEq, reduceCtorEq] at hhandler <;>
    subst hhandler
  case preinit => exact handlerCase_preinit hclient h
  case starttls => exact handlerCase_starttls hclient h
  case setOption => exact handlerCase_setOption h
  case echoRequest => exact handlerCase_echoRequest h
  case nodeList => exact handlerCase_nodeList h
  case askForVote => exact handlerCase_askForVote h
  case voteInfoReply => exact handlerCase_voteInfoReply h
  case heuristicsChange => exact handlerCase_heuristicsChange h
  -- everything else is a message only a server sends
  all_goals
    cases h
    exact .same (sendReply_cluster ..) (sendReply_log ..)

/-- A handler that checks TLS first only fails in what follows the check. -/
private theorem withInitReceived_error {abort : Abort}
    {handle : QnetdCluster → QnetdClient → Except Abort Handled}
    (h : withInitReceived settings env cluster client msg handle = .error abort) :
    ∃ client', qnetdClientMsgReceivedCheckTls settings client = .success client' ∧
      handle (cluster.modifyClient client.id fun _ => client') client' = .error abort := by
  simp only [withInitReceived, withCheckTls] at h
  split at h
  · cases h
  · cases h
  · next client' htls =>
    split at h
    · cases h
    · exact ⟨client', htls, h⟩

private theorem handleAlgoResult_error {abort : Abort} {store : QnetdClient → QnetdClient}
    {reply : TlvRingId → TlvVote → Reply} {run : Except Abort AlgoResult}
    (h : handleAlgoResult env client msg store reply run = .error abort) : run = .error abort := by
  cases run with
  | error abort' => cases h; rfl
  | ok result =>
    simp only [handleAlgoResult] at h
    split at h <;> cases h

private theorem handleNodeList_error {abort : Abort} {store : NodeList → QnetdClient → QnetdClient}
    {reply : TlvRingId → TlvVote → Reply} {emptied : QnetdClient → QnetdClient}
    {run : Except Abort AlgoResult}
    (h : handleNodeList env client msg store reply emptied run = .error abort) :
    run = .error abort := by
  simp only [handleNodeList] at h
  split at h
  · exact handleAlgoResult_error h
  · cases run with
    | error abort' => cases h; rfl
    | ok result =>
      simp only at h
      split at h <;> cases h

private theorem nodeList_error {abort : Abort}
    (h : qnetdClientMsgReceivedNodeList settings env cluster client msg = .error abort) :
    ∃ client' call, qnetdClientMsgReceivedCheckTls settings client = .success client' ∧
      AlgoCall.ofMsg? .nodeList msg = some call ∧
      call.run env (cluster.modifyClient client.id fun _ => client') client' = .error abort := by
  obtain ⟨client', htls, h⟩ := withInitReceived_error h
  split at h
  · cases h
  · cases h
  · next seq htype hseq =>
    exact ⟨client', .config msg.nodes msg.configVersion true, htls,
      by simp [AlgoCall.ofMsg?, htype, hseq], handleNodeList_error h⟩
  · next seq htype hseq =>
    exact ⟨client', .config msg.nodes msg.configVersion false, htls,
      by simp [AlgoCall.ofMsg?, htype, hseq], handleNodeList_error h⟩
  · next seq htype hseq =>
    split at h
    · cases h
    · next ringId hring =>
      exact ⟨client', .membership ringId msg.nodes msg.heuristics, htls,
        by simp [AlgoCall.ofMsg?, htype, hseq, hring], handleNodeList_error h⟩
  · next seq htype hseq =>
    split at h
    · cases h
    · next _ hquorate =>
      exact ⟨client', .quorum msg.nodes, htls, by simp [AlgoCall.ofMsg?, htype, hseq, hquorate],
        handleNodeList_error h⟩

/-- A handler only aborts in an algorithm callback. -/
theorem handler_error {handler : QnetdCluster → QnetdClient → MsgDecoded → Except Abort Handled}
    {abort : Abort} (hhandler : qnetdClientMsgHandler? settings env type = some handler)
    (h : handler cluster client msg = .error abort) :
    ∃ client' call, qnetdClientMsgReceivedCheckTls settings client = .success client' ∧
      AlgoCall.ofMsg? type msg = some call ∧
      call.run env (cluster.modifyClient client.id fun _ => client') client' = .error abort := by
  cases type <;> simp only [qnetdClientMsgHandler?, Option.some.injEq, reduceCtorEq] at hhandler <;>
    subst hhandler
  case nodeList => exact nodeList_error h
  case askForVote =>
    obtain ⟨client', htls, h⟩ := withInitReceived_error h
    split at h
    · cases h
    · next seq hseq =>
      exact ⟨client', .askForVote, htls, by simp [AlgoCall.ofMsg?, hseq], handleAlgoResult_error h⟩
  case heuristicsChange =>
    obtain ⟨client', htls, h⟩ := withInitReceived_error h
    split at h
    · cases h
    · cases h
    · next seq hseq hdefined =>
      exact ⟨client', .heuristicsChange msg.heuristics, htls,
        by simpa [AlgoCall.ofMsg?, hseq] using hdefined, handleAlgoResult_error h⟩
  case voteInfoReply =>
    obtain ⟨client', -, h⟩ := withInitReceived_error h
    split at h
    · cases h
    · dsimp only at h
      split at h <;> cases h
  case preinit =>
    simp only [qnetdClientMsgReceivedPreinit] at h
    split at h
    · cases h
    · split at h <;> cases h
  case starttls =>
    simp only [qnetdClientMsgReceivedStarttls] at h
    split at h
    · cases h
    · split at h <;> cases h
  case setOption =>
    obtain ⟨client', -, h⟩ := withInitReceived_error h
    dsimp only at h
    split at h <;> cases h
  case echoRequest =>
    obtain ⟨client', -, h⟩ := withInitReceived_error h
    cases h
  -- everything else is a message only a server sends
  all_goals cases h

/-! ### The handshake

Of the fields that say who a client is, a handler only writes those of its sender, and
only these. -/

/-- How a message of type `type`, other than INIT, changes who its sender is. -/
inductive HandshakeWrite (settings : Settings) (env : Env) (type : MsgType) (msg : MsgDecoded)
    (client : QnetdClient) : QnetdClient → Prop where
  | same : HandshakeWrite settings env type msg client client
  | preinit (htype : type = .preinit) (hname : msg.clusterName.isSome = true) :
      HandshakeWrite settings env type msg client { client with
        clusterName := if env.clusterNameAlloc then msg.clusterName else none
        preinitReceived := env.clusterNameAlloc || client.preinitReceived }
  | starttls (htype : type = .starttls) (hpreinit : client.preinitReceived = true)
      (peerCertificate : Option Cert) :
      HandshakeWrite settings env type msg client { client with
        tlsStarted := true, tlsPeerCertificateVerified := false, peerCertificate }
  | checked (client' : QnetdClient)
      (htls : qnetdClientMsgReceivedCheckTls settings client = .success client') :
      HandshakeWrite settings env type msg client client'

/-- Every handler makes one such write, as far as the `fixed` parts are concerned. -/
theorem HandlerCase.handshake
    (hclient : ∀ c ∈ cluster.clientList, c.id = client.id → c = client)
    (h : HandlerCase settings env type cluster client msg res) :
    ∃ client', HandshakeWrite settings env type msg client client' ∧ client'.id = client.id ∧
      SameFixed (cluster.modifyClient client.id fun _ => client') res.cluster := by
  cases h with
  | same hcluster hlog =>
    refine ⟨client, .same, rfl, ?_⟩
    rw [hcluster]
    exact (map_modifyClient _ _ _ _ fun c hc hid => by rw [hclient c hc hid]).symm
  | preinit htype name pre hname hpre hcluster hlog =>
    refine ⟨_, .preinit htype hname.1, rfl, ?_⟩
    rw [hcluster, hname.2, hpre]
    rfl
  | starttls htype hpre cert hcluster hlog =>
    refine ⟨_, .starttls htype hpre cert, rfl, ?_⟩
    rw [hcluster]
    rfl
  | quiet client' htls hb dpd keep hcluster hlog =>
    refine ⟨client', .checked client' htls, checkTls_id htls, ?_⟩
    rw [hcluster]
    simp only [SameFixed, QnetdCluster.modifyClient, List.map_map]
    refine List.map_congr_left fun c _ => ?_
    simp only [Function.comp_apply]
    split <;> rfl
  | call client' htls hinit call result hcall hrun hafter hlog =>
    refine ⟨client', .checked client' htls, checkTls_id htls, ?_⟩
    have hrunSame := (AlgoCall.sameKept_run hrun).fixed
    cases hafter with
    | failed hcode hcluster => rw [hcluster]; exact hrunSame
    | stored hcode hcluster =>
      rw [hcluster]
      exact (sameFixed_modifyClient _ _ (AlgoCall.fixed_store result.resultVote call)).trans hrunSame
    | emptied hcode hdisconnect hcluster =>
      rw [hcluster]
      exact (sameFixed_modifyClient _ _ (AlgoCall.fixed_emptied call)).trans hrunSame

end Handlers

end Qdevice.Qnetd
