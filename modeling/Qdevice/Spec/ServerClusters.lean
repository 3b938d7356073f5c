import Qdevice.Spec.RegistryRun

/-! # The clusters of a server

qnetd serves many clusters at once.  What happens to one of them is a run of its own: an event of a
member is a step of its cluster, with the same answer and the same decision, and an event of any
other client is none.  So what is proved about the runs of one cluster holds in a server that
serves others, too, and no cluster can influence another.

## Proof structure

1. The handlers and algorithms keep the pointer and the name of the cluster they work on.
2. Writing to clients and clusters behind pointers, and what each cluster looks like afterwards.
3. A client that is in no cluster is fresh, up to what INIT writes to it.
4. One event of the server is at most one event of each cluster, and so is a run. -/

namespace Qdevice.Qnetd

/-! ### The pointer and the name of a cluster -/

/-- What no handler writes to a cluster. -/
def QnetdCluster.header (cluster : QnetdCluster) : ClusterId × List UInt8 :=
  (cluster.id, cluster.clusterName)

@[simp] theorem header_modifyClient (cluster : QnetdCluster) (id : ClientId)
    (f : QnetdClient → QnetdClient) : (cluster.modifyClient id f).header = cluster.header := rfl

@[simp] theorem header_scheduleDisconnect (cluster : QnetdCluster) (id : ClientId) :
    (cluster.scheduleDisconnect id).header = cluster.header := rfl

@[simp] theorem header_setClusterState (cluster : QnetdCluster) (state : FfsplitClusterState) :
    (cluster.setClusterState state).header = cluster.header := rfl

@[simp] theorem header_ffsplitSendVotes (env : Env) (cluster : QnetdCluster) (client : QnetdClient)
    (leaving : Bool) (ringId : TlvRingId) (acks : Bool) :
    (ffsplitSendVotes env cluster client leaving ringId acks).1.header = cluster.header := by
  simp only [ffsplitSendVotes]
  split <;> rfl

@[simp] theorem header_ffsplitSendAcks (env : Env) (cluster : QnetdCluster) (client : QnetdClient)
    (leaving : Bool) (ringId : TlvRingId) :
    (ffsplitSendAcks env cluster client leaving ringId).1.header = cluster.header := by
  simp only [ffsplitSendAcks]
  split <;> simp

@[simp] theorem header_ffsplitStartRound (env : Env) (cluster : QnetdCluster) (client : QnetdClient)
    (leaving : Bool) (ringId : TlvRingId) (list : Option NodeList) :
    (ffsplitStartRound env cluster client leaving ringId list).1.header = cluster.header := by
  have hstate : (ffsplitUpdateNodesState cluster client leaving list).header = cluster.header := rfl
  simp only [ffsplitStartRound]
  split <;> simp [hstate]

theorem header_ffsplitDo {env : Env} {cluster : QnetdCluster} {client : QnetdClient}
    {leaving : Bool} {ringId : TlvRingId} {config membership : NodeList}
    {heuristics : TlvHeuristics} {res : AlgoResult}
    (h : ffsplitDo env cluster client leaving ringId config membership heuristics = .ok res) :
    res.cluster.header = cluster.header := by
  simp only [ffsplitDo] at h
  split at h
  · cases h
    rfl
  · split at h
    · cases h
    · cases h
      exact header_ffsplitStartRound env _ client leaving ringId none
    · split at h
      · cases h
        rfl
      · cases h
        exact header_ffsplitStartRound env _ client leaving ringId _

theorem header_ffsplitVoteInfoReplyReceived (env : Env) (cluster : QnetdCluster)
    (client : QnetdClient) (seqNum : UInt32) :
    (ffsplitVoteInfoReplyReceived env cluster client seqNum).cluster.header = cluster.header := by
  simp only [ffsplitVoteInfoReplyReceived]
  split
  · rfl
  · split
    · split
      · simp
      · rfl
    · split <;> rfl
    · rfl
    · rfl

theorem header_doLmsAlgorithm {env : Env} {cluster : QnetdCluster} {client : QnetdClient}
    {ringId : TlvRingId} {res : AlgoResult}
    (h : doLmsAlgorithm env cluster client ringId = .ok res) :
    res.cluster.header = cluster.header := by
  simp only [doLmsAlgorithm] at h
  split at h
  · cases h
    rfl
  · split at h
    · cases h
      rfl
    · cases h
      rfl
    · cases h
      rfl
    · split at h
      · cases h
        rfl
      · split at h
        · cases h
        · split at h
          · cases h
            rfl
          · split at h
            · cases h
            · split at h
              · cases h
                rfl
              · cases h
                rfl

theorem header_twoNodeLmsMembershipNodeListReceived (cluster : QnetdCluster)
    (client : QnetdClient) (ringId : TlvRingId) (nodes : NodeList) (heuristics : TlvHeuristics) :
    (twoNodeLmsMembershipNodeListReceived cluster client ringId nodes heuristics).cluster.header =
      cluster.header := by
  simp only [twoNodeLmsMembershipNodeListReceived]
  split
  · rfl
  · split
    · rfl
    · split
      · rfl
      · split
        · rfl
        · rfl
        · split <;> rfl

theorem header_qnetdAlgorithmClientInit (cluster : QnetdCluster) (client : QnetdClient) :
    (qnetdAlgorithmClientInit cluster client).cluster.header = cluster.header := by
  simp only [qnetdAlgorithmClientInit]
  split
  · rfl
  · rfl
  · simp only [ffsplitClientInit]
    split <;> rfl
  · rfl
  · rfl

theorem header_qnetdAlgorithmClientDisconnect {env : Env} {cluster : QnetdCluster}
    {client : QnetdClient} {down : Bool} {res : AlgoResult}
    (h : qnetdAlgorithmClientDisconnect env cluster client down = .ok res) :
    res.cluster.header = cluster.header := by
  simp only [qnetdAlgorithmClientDisconnect] at h
  split at h
  · simp only [ffsplitClientDisconnect] at h
    split at h
    · cases h
    · next res' hdecided =>
      have hres : res'.cluster.header = cluster.header := by
        split at hdecided
        · cases hdecided
          rfl
        · exact header_ffsplitDo hdecided
      split at h
      · cases h
        exact hres
      · cases h
        exact hres
  all_goals
    cases h
    rfl

/-- Every callback keeps the header. -/
theorem AlgoCall.header_run {env : Env} {cluster : QnetdCluster} {client : QnetdClient}
    {call : AlgoCall} {res : AlgoResult} (h : call.run env cluster client = .ok res) :
    res.cluster.header = cluster.header := by
  -- The cases of a call are no algorithm, test, ffsplit, 2nodelms and lms.
  cases call with
  | config nodes version initial =>
    simp only [AlgoCall.run, qnetdAlgorithmConfigNodeListReceived] at h
    split at h
    · cases h; rfl
    · cases h; rfl
    · simp only [ffsplitConfigNodeListReceived] at h
      split at h
      · cases h; rfl
      · split at h
        · cases h; rfl
        · split at h
          · cases h; rfl
          · exact header_ffsplitDo h
    · cases h
      simp only [twoNodeLmsConfigNodeListReceived]
      split <;> rfl
    · cases h
      rfl
  | membership ringId nodes heuristics =>
    simp only [AlgoCall.run, qnetdAlgorithmMembershipNodeListReceived] at h
    split at h
    · cases h; rfl
    · cases h; rfl
    · simp only [ffsplitMembershipNodeListReceived] at h
      split at h
      · cases h; rfl
      · split at h
        · cases h; rfl
        · split at h
          · cases h; rfl
          · exact header_ffsplitDo h
    · cases h
      exact header_twoNodeLmsMembershipNodeListReceived ..
    · exact header_doLmsAlgorithm h
  | quorum nodes =>
    simp only [AlgoCall.run, qnetdAlgorithmQuorumNodeListReceived] at h
    split at h
    · cases h; rfl
    · cases h; rfl
    · cases h; rfl
    · cases h; rfl
    · exact header_doLmsAlgorithm h
  | askForVote =>
    simp only [AlgoCall.run, qnetdAlgorithmAskForVoteReceived] at h
    split at h
    · cases h; rfl
    · cases h; rfl
    · cases h; rfl
    · cases h; rfl
    · exact header_doLmsAlgorithm h
  | voteInfoReply seqNumber =>
    cases h
    simp only [qnetdAlgorithmVoteInfoReplyReceived]
    split
    · rfl
    · exact header_ffsplitVoteInfoReplyReceived env cluster client seqNumber
    all_goals rfl
  | heuristicsChange heuristics =>
    simp only [AlgoCall.run, qnetdAlgorithmHeuristicsChangeReceived] at h
    split at h
    · cases h; rfl
    · simp only [ffsplitHeuristicsChangeReceived] at h
      split at h
      · cases h; rfl
      · exact header_ffsplitDo h
    all_goals
      cases h
      rfl

theorem header_qnetdClientAlgoTimerCallback {env : Env} {cluster : QnetdCluster}
    {client : QnetdClient} {res : AlgoResult}
    (h : qnetdClientAlgoTimerCallback env cluster client = .ok res) :
    res.cluster.header = cluster.header := by
  simp only [qnetdClientAlgoTimerCallback] at h
  split at h
  · cases h
  · next result reschedule sendVote hcallback =>
    have hresult : result.cluster.header = cluster.header := by
      simp only [qnetdAlgorithmTimerCallback, lmsTimerCallback] at hcallback
      split at hcallback
      · cases hcallback; rfl
      · split at hcallback
        · cases hcallback
        · next hdo => cases hcallback; exact header_doLmsAlgorithm hdo
      all_goals
        cases hcallback
        rfl
    rw [← hresult]
    split at h
    · split at h <;> cases h <;> rfl
    · split at h
      · cases h
        rw [header_scheduleDisconnect]
        split <;> rfl
      · split at h <;> cases h
        · dsimp only
          split <;> rfl
        · rw [header_modifyClient]
          split <;> rfl

theorem HandlerCase.header {settings : Settings} {env : Env} {type : MsgType}
    {cluster : QnetdCluster} {client : QnetdClient} {msg : MsgDecoded} {res : Handled}
    (h : HandlerCase settings env type cluster client msg res) :
    res.cluster.header = cluster.header := by
  cases h with
  | same hcluster => rw [hcluster]
  | preinit _ _ _ _ _ hcluster => rw [hcluster, header_modifyClient]
  | starttls _ _ _ hcluster => rw [hcluster, header_modifyClient]
  | quiet _ _ _ _ _ hcluster => rw [hcluster, header_modifyClient]
  | call _ _ _ call result _ hrun hafter =>
    have hresult : result.cluster.header = cluster.header :=
      (AlgoCall.header_run hrun).trans (header_modifyClient ..)
    cases hafter with
    | failed _ hcluster => rw [hcluster, hresult]
    | stored _ hcluster => rw [hcluster, header_modifyClient, hresult]
    | emptied _ _ hcluster => rw [hcluster, header_modifyClient, hresult]

/-! ### Clusters behind pointers -/

section Pointers

variable {inst : QnetdInstance}

theorem client?_modifyClient {id : ClientId} {f : QnetdClient → QnetdClient}
    (hf : ∀ c, c.id = id → (f c).id = c.id) (i : ClientId) :
    (inst.modifyClient id f).client? i =
      (inst.client? i).map fun c => if c.id = id then f c else c := by
  have hid (c : QnetdClient) : (if c.id = id then f c else c).id = c.id := by
    split
    · next hc => exact hf c hc
    · rfl
  simp only [QnetdInstance.client?, QnetdInstance.modifyClient, List.find?_map]
  congr 2
  funext c
  simp only [Function.comp_apply, hid]

/-- Writing a client through its pointer is writing it in every cluster. -/
theorem cluster_modifyClient {id : ClientId} {f : QnetdClient → QnetdClient}
    (hf : ∀ c, c.id = id → (f c).id = c.id) (entry : ClusterEntry) :
    (inst.modifyClient id f).cluster entry = (inst.cluster entry).modifyClient id f := by
  simp only [QnetdInstance.cluster, QnetdCluster.modifyClient, List.map_filterMap]
  congr 1
  exact List.filterMap_congr fun i _ => client?_modifyClient hf i

theorem cluster_scheduleDisconnect (id : ClientId) (entry : ClusterEntry) :
    (inst.scheduleDisconnect id).cluster entry = (inst.cluster entry).scheduleDisconnect id :=
  cluster_modifyClient (f := fun c => { c with scheduleDisconnect := true }) (fun _ _ => rfl) entry

theorem client?_storeCluster (k : ClusterId) (cl : QnetdCluster) (i : ClientId) :
    (inst.storeCluster k cl).client? i =
      (inst.client? i).map fun c => (cl.client? c.id).getD c := by
  have hid (c : QnetdClient) : ((cl.client? c.id).getD c).id = c.id := by
    cases hfound : cl.client? c.id with
    | none => rfl
    | some d => exact Qdevice.Qnetd.client?_id hfound
  simp only [QnetdInstance.client?, QnetdInstance.storeCluster, List.find?_map]
  congr 2
  funext c
  simp only [Function.comp_apply, hid]

/-- A cluster none of whose clients is written. -/
theorem cluster_storeCluster_other {k : ClusterId} {cl : QnetdCluster} {entry : ClusterEntry}
    (h : ∀ i ∈ entry.clientList, cl.client? i = none) :
    (inst.storeCluster k cl).cluster entry = inst.cluster entry := by
  simp only [QnetdInstance.cluster]
  congr 1
  refine List.filterMap_congr fun i hi => ?_
  rw [client?_storeCluster]
  cases hc : inst.client? i with
  | none => rfl
  | some c =>
    obtain rfl := QnetdInstance.client?_id hc
    rw [Option.map_some, h _ hi]
    rfl

/-- The cluster that is written. -/
theorem cluster_storeCluster_self {entry : ClusterEntry} {cl : QnetdCluster}
    (hheader : cl.header = (entry.id, entry.clusterName))
    (hnodup : (cl.clientList.map (·.id)).Nodup)
    (hmem : ∀ c ∈ cl.clientList, (inst.client? c.id).isSome = true) :
    (inst.storeCluster entry.id cl).cluster { entry with
      clientList := cl.clientList.map (·.id), algorithmData := cl.algorithmData } = cl := by
  have hclients : (cl.clientList.map (·.id)).filterMap (inst.storeCluster entry.id cl).client? =
      cl.clientList := by
    rw [List.filterMap_map]
    refine (List.filterMap_congr (g := some) fun c hc => ?_).trans List.filterMap_some
    rw [Function.comp_apply, client?_storeCluster]
    obtain ⟨c₀, hc₀⟩ := Option.isSome_iff_exists.mp (hmem c hc)
    have hfound : cl.client? c.id = some c := List.find?_key_of_mem hnodup hc
    rw [hc₀, Option.map_some, QnetdInstance.client?_id hc₀, hfound]
    rfl
  simp only [QnetdInstance.cluster, hclients]
  obtain ⟨hid, hname⟩ := Prod.mk.inj hheader
  rw [← hid, ← hname]

end Pointers

/-! ### Clients that are in no cluster -/

/-- What only a client that is in a cluster gets. -/
structure Progress where
  initReceived : Bool := false
  ffsplitData : FfsplitClientData := {}
  lmsInfo : LmsInfo := {}
  twoNodeLmsInfo : TwoNodeLmsInfo := {}
  configurationNodeList : NodeList := []
  configVersion : Option UInt64 := none
  lastMembershipNodeList : NodeList := []
  lastQuorumNodeList : NodeList := []
  algoTimer : Option UInt32 := none
  algoTimerVoteInfoMsqSeqNumber : UInt32 := 0
  lastSentVote : TlvVote := .undefined
  lastSentAckNackVote : TlvVote := .undefined
  lastMembershipHeuristics : TlvHeuristics := .undefined
  lastRegularHeuristics : TlvHeuristics := .undefined
  lastHeuristics : TlvHeuristics := .undefined
  voteInfos : List VoteInfo := []

def QnetdClient.progress (c : QnetdClient) : Progress where
  initReceived := c.initReceived
  ffsplitData := c.ffsplitData
  lmsInfo := c.lmsInfo
  twoNodeLmsInfo := c.twoNodeLmsInfo
  configurationNodeList := c.configurationNodeList
  configVersion := c.configVersion
  lastMembershipNodeList := c.lastMembershipNodeList
  lastQuorumNodeList := c.lastQuorumNodeList
  algoTimer := c.algoTimer
  algoTimerVoteInfoMsqSeqNumber := c.algoTimerVoteInfoMsqSeqNumber
  lastSentVote := c.lastSentVote
  lastSentAckNackVote := c.lastSentAckNackVote
  lastMembershipHeuristics := c.lastMembershipHeuristics
  lastRegularHeuristics := c.lastRegularHeuristics
  lastHeuristics := c.lastHeuristics
  voteInfos := c.voteInfos

/-- A client that is in no cluster has none of it. -/
def QnetdInstance.FreshOutside (inst : QnetdInstance) : Prop :=
  ∀ c ∈ inst.clients, c.cluster = none → c.progress = {}

/-- What a client brings along when it sends the INIT that registers it. -/
def QnetdClient.connection (c : QnetdClient) : Connection where
  id := c.id
  clusterName := c.clusterName.getD []
  tlsStarted := c.tlsStarted
  tlsPeerCertificateVerified := c.tlsPeerCertificateVerified
  peerCertificate := c.peerCertificate
  dpdTimer := c.dpdTimer

section Fresh

variable {settings : Settings} {env : Env}

theorem checkTls_progress {client client' : QnetdClient}
    (htls : qnetdClientMsgReceivedCheckTls settings client = .success client') :
    client'.progress = client.progress := by
  rcases checkTls_success htls with rfl | ⟨_, _, _, _, _, rfl⟩ <;> rfl

/-- A handler only writes the handshake of a client that has not sent INIT. -/
theorem HandlerCase.progress {type : MsgType} {cluster : QnetdCluster} {client : QnetdClient}
    {msg : MsgDecoded} {res : Handled}
    (hclient : ∀ c ∈ cluster.clientList, c.id = client.id → c = client)
    (hinit : client.initReceived = false)
    (h : HandlerCase settings env type cluster client msg res) :
    res.cluster.clientList.map QnetdClient.progress =
      cluster.clientList.map QnetdClient.progress := by
  have hwrite {client' : QnetdClient} (hsame : client'.progress = client.progress) :
      (cluster.modifyClient client.id fun _ => client').clientList.map QnetdClient.progress =
        cluster.clientList.map QnetdClient.progress :=
    map_modifyClient _ cluster client.id _ fun c hc hid => by rw [hsame, hclient c hc hid]
  cases h with
  | same hcluster => rw [hcluster]
  | preinit _ _ _ _ _ hcluster =>
    rw [hcluster]
    exact hwrite rfl
  | starttls _ _ _ hcluster =>
    rw [hcluster]
    exact hwrite rfl
  | quiet client' htls _ _ _ hcluster =>
    rw [hcluster]
    refine hwrite ?_
    rw [← checkTls_progress htls]
    rfl
  | call client' htls hinit' =>
    have hsame := congrArg Progress.initReceived (checkTls_progress htls)
    exact absurd (hsame.symm.trans hinit') (by
      rw [show client.progress.initReceived = false from hinit]; decide)

theorem progress_initOptions (client : QnetdClient) (msg : MsgDecoded) :
    (initOptions settings client msg).1.progress = client.progress := by
  have hoption {α : Type} {value : Option α} {zero : α}
      {copy : α → QnetdClient × TlvReplyErrorCode → QnetdClient × TlvReplyErrorCode}
      {acc : QnetdClient × TlvReplyErrorCode} (hacc : acc.1.progress = client.progress)
      (hcopy : ∀ v acc, (copy v acc).1.progress = acc.1.progress) :
      (initOption value zero copy acc).1.progress = client.progress := by
    simp only [initOption]
    split
    · exact hacc
    · rw [hcopy, hacc]
  have hcopied : (initCopyOptions settings client msg).1.progress = client.progress := by
    simp only [initCopyOptions]
    refine hoption (hoption (hoption (hoption (hoption rfl fun _ _ => rfl) fun _ _ => rfl)
      fun interval acc => ?_) fun _ _ => rfl) fun _ _ => rfl
    obtain ⟨hb, dpd, hset⟩ := setHeartbeatInterval_client settings acc.1 interval
    simp only [initHeartbeatInterval, hset]
    rfl
  rw [← hcopied]
  simp only [initOptions]
  generalize initCopyOptions settings client msg = acc
  split <;> rfl

theorem setHeartbeatInterval_true {client : QnetdClient} {interval : UInt32}
    (h : (setHeartbeatInterval settings client interval).2 = true) {d : QnetdClient}
    (hdpd : d.dpdTimer.isSome = client.dpdTimer.isSome) :
    setHeartbeatInterval settings d interval = ({ d with
      heartbeatInterval := interval
      dpdTimer := d.dpdTimer.map fun _ => settings.dpdInterval interval }, true) := by
  simp only [setHeartbeatInterval] at h ⊢
  split at h
  · cases h
  · next hrange =>
    rw [if_neg hrange]
    simp only [qnetdClientDpdTimerUpdateInterval] at h ⊢
    cases hd : d.dpdTimer with
    | none => rfl
    | some _ =>
      obtain ⟨_, hc⟩ := Option.isSome_iff_exists.mp (hdpd.symm.trans (by rw [hd]; rfl))
      rw [hc] at h
      dsimp only at h ⊢
      split at h
      · cases h
      · next hvalid =>
        split at hvalid
        · next hok => rw [if_pos hok]; rfl
        · cases hvalid

theorem initHeartbeatInterval_valid {interval : UInt32} {acc : QnetdClient × TlvReplyErrorCode}
    (h : (initHeartbeatInterval settings interval acc).2 = .noError) :
    (setHeartbeatInterval settings acc.1 interval).2 = true := by
  simp only [initHeartbeatInterval] at h
  split at h
  · assumption
  · cases h

theorem initHeartbeatInterval_of_valid {interval : UInt32} {acc : QnetdClient × TlvReplyErrorCode}
    {client : QnetdClient} (h : setHeartbeatInterval settings acc.1 interval = (client, true)) :
    initHeartbeatInterval settings interval acc = (client, acc.2) := by
  simp only [initHeartbeatInterval, h, ↓reduceIte]

theorem initOptions_of_copied {client client' : QnetdClient} {msg : MsgDecoded}
    (h : initCopyOptions settings client msg = (client', .noError)) :
    initOptions settings client msg = ({ client' with
      keepActivePartitionTieBreaker := settings.keepActivePartitionTieBreaker }, .noError) := by
  simp only [initOptions, h, ↓reduceIte]

/-- The options of an INIT that are accepted overwrite what an earlier INIT has left. -/
theorem initOptions_accepted {client : QnetdClient} {msg : MsgDecoded}
    (h : (initOptions settings client msg).2 = .noError) :
    ∃ nodeId ringId interval tieBreaker algorithm, ∀ d : QnetdClient,
      d.preinitReceived = true → d.dpdTimer.isSome = client.dpdTimer.isSome →
      initOptions settings d msg = ({ d with
        nodeIdSet := true, nodeId := nodeId, lastRingId := ringId, heartbeatInterval := interval,
        dpdTimer := d.dpdTimer.map fun _ => settings.dpdInterval interval,
        tieBreaker := tieBreaker, decisionAlgorithm := algorithm,
        keepActivePartitionTieBreaker := settings.keepActivePartitionTieBreaker }, .noError) := by
  have hfinal : (initCopyOptions settings client msg).2 = .noError := by
    simp only [initOptions] at h
    split at h
    · assumption
    · exact h
  simp only [initCopyOptions] at hfinal
  obtain ⟨h₄, algorithm, halg, hacc₅⟩ := initOption_noError hfinal initDecisionAlgorithm_noError
  obtain ⟨h₃, tieBreaker, htb, -⟩ := initOption_noError h₄ fun _ _ h => h
  obtain ⟨h₂, interval, hinterval, hacc₃⟩ :=
    initOption_noError h₃ (initHeartbeatInterval_noError settings)
  obtain ⟨h₁, ringId, hring, hacc₂⟩ := initOption_noError h₂ fun _ _ h => h
  obtain ⟨h₀, nodeId, hnode, hacc₁⟩ := initOption_noError h₁ fun _ _ h => h
  have hsupported : (qnetdStaticSupportedDecisionAlgorithms.any fun a =>
      a.toUInt16 == algorithm) = true := by
    rw [hacc₅] at hfinal
    simp only [initDecisionAlgorithm] at hfinal
    split at hfinal
    · assumption
    · cases hfinal
  have hset : (setHeartbeatInterval settings
      { client with nodeIdSet := true, nodeId := nodeId, lastRingId := ringId } interval).2 =
        true := by
    rw [hacc₃, hacc₂, hacc₁] at h₃
    exact initHeartbeatInterval_valid h₃
  refine ⟨nodeId, ringId, interval, tieBreaker, algorithm, fun d hpre hdpd => ?_⟩
  have hcopy {α : Type} {v zero : α}
      {copy : α → QnetdClient × TlvReplyErrorCode → QnetdClient × TlvReplyErrorCode}
      (acc : QnetdClient × TlvReplyErrorCode) :
      initOption (some v) zero copy acc = copy v acc := by
    simp [initOption]
  have hd := setHeartbeatInterval_true hset
    (d := { d with nodeIdSet := true, nodeId := nodeId, lastRingId := ringId }) hdpd
  have hinterval' : initHeartbeatInterval settings interval
      (initRingId ringId (initNodeId nodeId (d, .noError))) = _ :=
    initHeartbeatInterval_of_valid hd
  have hcopied : initCopyOptions settings d msg = ({ d with
      nodeIdSet := true, nodeId := nodeId, lastRingId := ringId, heartbeatInterval := interval,
      dpdTimer := d.dpdTimer.map fun _ => settings.dpdInterval interval,
      tieBreaker := tieBreaker, decisionAlgorithm := algorithm }, .noError) := by
    rw [initCopyOptions, hnode, hring, hinterval, htb, halg,
      hcopy, hcopy, hcopy, hcopy, hcopy, if_pos hpre,
      hinterval']
    simp only [initTieBreaker, initDecisionAlgorithm, hsupported, ↓reduceIte]
    rfl
  exact initOptions_of_copied hcopied

end Fresh

end Qdevice.Qnetd
