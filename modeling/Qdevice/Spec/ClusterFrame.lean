import Qdevice.Native.QnetdClientMsgReceived
import Qdevice.ForStd.List

/-! # What the handlers leave alone

An algorithm callback writes to its own data, to the vote infos and timers of the clients
and to nothing else; a handler then stores what the message carries.  `fixed` collects the
fields that say who a client is, which no handler changes but PREINIT, STARTTLS and the
certificate check; `kept` adds what the client has reported.  This file shows that every
callback keeps the `kept` part of every client of the cluster. -/

namespace Qdevice.Qnetd

/-- The fields that say who a client is. -/
structure Fixed where
  id : ClientId
  peerCertificate : Option Cert
  tlsStarted : Bool
  tlsPeerCertificateVerified : Bool
  preinitReceived : Bool
  initReceived : Bool
  clusterName : Option (List UInt8)
  nodeId : UInt32
  decisionAlgorithm : UInt16
  tieBreaker : TlvTieBreaker
  cluster : Option ClusterId

def QnetdClient.fixed (c : QnetdClient) : Fixed where
  id := c.id
  peerCertificate := c.peerCertificate
  tlsStarted := c.tlsStarted
  tlsPeerCertificateVerified := c.tlsPeerCertificateVerified
  preinitReceived := c.preinitReceived
  initReceived := c.initReceived
  clusterName := c.clusterName
  nodeId := c.nodeId
  decisionAlgorithm := c.decisionAlgorithm
  tieBreaker := c.tieBreaker
  cluster := c.cluster

/-- The fields that no algorithm callback writes: who the client is, and what it has reported. -/
structure Kept where
  fixed : Fixed
  configurationNodeList : NodeList
  lastMembershipNodeList : NodeList
  lastRingId : TlvRingId
  lastHeuristics : TlvHeuristics

def QnetdClient.kept (c : QnetdClient) : Kept where
  fixed := c.fixed
  configurationNodeList := c.configurationNodeList
  lastMembershipNodeList := c.lastMembershipNodeList
  lastRingId := c.lastRingId
  lastHeuristics := c.lastHeuristics

/-- The clients of two states of a cluster have the same `fixed` parts, in the same order. -/
def SameFixed (cluster cluster' : QnetdCluster) : Prop :=
  cluster'.clientList.map QnetdClient.fixed = cluster.clientList.map QnetdClient.fixed

/-- They have the same `kept` parts, in the same order. -/
def SameKept (cluster cluster' : QnetdCluster) : Prop :=
  cluster'.clientList.map QnetdClient.kept = cluster.clientList.map QnetdClient.kept

theorem SameKept.refl (cluster : QnetdCluster) : SameKept cluster cluster := rfl

theorem SameKept.trans {cl₁ cl₂ cl₃ : QnetdCluster} (h₁₂ : SameKept cl₁ cl₂)
    (h₂₃ : SameKept cl₂ cl₃) : SameKept cl₁ cl₃ :=
  Eq.trans h₂₃ h₁₂

theorem SameKept.fixed {cluster cluster' : QnetdCluster} (h : SameKept cluster cluster') :
    SameFixed cluster cluster' :=
  List.map_comp_of_map_eq Kept.fixed h

theorem SameKept.exists_mem {cluster cluster' : QnetdCluster} (h : SameKept cluster cluster')
    {c' : QnetdClient} (hc' : c' ∈ cluster'.clientList) :
    ∃ c ∈ cluster.clientList, c.kept = c'.kept :=
  List.exists_mem_of_map_eq h hc'

/-- A view of the clients is kept by a write that keeps it on the written client. -/
theorem map_modifyClient {β : Type} (V : QnetdClient → β) (cluster : QnetdCluster) (id : ClientId)
    (f : QnetdClient → QnetdClient)
    (h : ∀ c ∈ cluster.clientList, c.id = id → V (f c) = V c) :
    (cluster.modifyClient id f).clientList.map V = cluster.clientList.map V := by
  simp only [QnetdCluster.modifyClient, List.map_map]
  refine List.map_congr_left fun c hc => ?_
  simp only [Function.comp_apply]
  split
  · next hid => exact h c hc hid
  · rfl

theorem sameFixed_modifyClient (cluster : QnetdCluster) (id : ClientId)
    {f : QnetdClient → QnetdClient} (h : ∀ c, (f c).fixed = c.fixed) :
    SameFixed cluster (cluster.modifyClient id f) :=
  map_modifyClient _ cluster id f fun c _ _ => h c

theorem sameKept_modifyClient (cluster : QnetdCluster) (id : ClientId)
    {f : QnetdClient → QnetdClient} (h : ∀ c, (f c).kept = c.kept) :
    SameKept cluster (cluster.modifyClient id f) :=
  map_modifyClient _ cluster id f fun c _ _ => h c

theorem sameKept_scheduleDisconnect (cluster : QnetdCluster) (id : ClientId) :
    SameKept cluster (cluster.scheduleDisconnect id) :=
  sameKept_modifyClient cluster id fun _ => rfl

theorem sameKept_map (cluster : QnetdCluster) {f : QnetdClient → QnetdClient}
    (h : ∀ c, (f c).kept = c.kept) (data : FfsplitClusterData) :
    SameKept cluster
      { cluster with clientList := cluster.clientList.map f, algorithmData := data } := by
  simp only [SameKept, List.map_map]
  exact List.map_congr_left fun c _ => h c

/-! ### ffsplit -/

theorem kept_ffsplitSendVote (env : Env) (client : QnetdClient) (leaving : Bool)
    (ringId : TlvRingId) (acks : Bool) (c : QnetdClient) :
    (ffsplitSendVote env client leaving ringId acks c).kept = c.kept := by
  simp only [ffsplitSendVote]
  split <;> rfl

theorem sameKept_ffsplitSendVotes (env : Env) (cluster : QnetdCluster) (client : QnetdClient)
    (leaving : Bool) (ringId : TlvRingId) (acks : Bool) :
    SameKept cluster (ffsplitSendVotes env cluster client leaving ringId acks).1 := by
  have hmap := sameKept_map cluster (kept_ffsplitSendVote env client leaving ringId acks)
    cluster.algorithmData
  simp only [ffsplitSendVotes]
  split
  · exact hmap
  · exact hmap.trans (sameKept_scheduleDisconnect ..)

theorem sameKept_ffsplitSendAcks (env : Env) (cluster : QnetdCluster) (client : QnetdClient)
    (leaving : Bool) (ringId : TlvRingId) :
    SameKept cluster (ffsplitSendAcks env cluster client leaving ringId).1 := by
  have h := sameKept_ffsplitSendVotes env (cluster.setClusterState .sendingAcks) client leaving
    ringId true
  simp only [ffsplitSendAcks]
  split
  · exact h
  · exact h

theorem sameKept_ffsplitStartRound (env : Env) (cluster : QnetdCluster) (client : QnetdClient)
    (leaving : Bool) (ringId : TlvRingId) (list : Option NodeList) :
    SameKept cluster (ffsplitStartRound env cluster client leaving ringId list).1 := by
  have hstate : SameKept cluster (ffsplitUpdateNodesState cluster client leaving list) := by
    simp only [SameKept, ffsplitUpdateNodesState, List.map_map]
    exact List.map_congr_left fun _ _ => rfl
  have hnacks := hstate.trans (sameKept_ffsplitSendVotes env
    ((ffsplitUpdateNodesState cluster client leaving list).setClusterState .sendingNacks)
    client leaving ringId false)
  simp only [ffsplitStartRound]
  split
  · exact hnacks.trans (sameKept_ffsplitSendAcks env _ client leaving ringId)
  · exact hnacks

theorem sameKept_ffsplitDo {env : Env} {cluster : QnetdCluster} {client : QnetdClient}
    {leaving : Bool} {ringId : TlvRingId} {config membership : NodeList}
    {heuristics : TlvHeuristics} {res : AlgoResult}
    (h : ffsplitDo env cluster client leaving ringId config membership heuristics = .ok res) :
    SameKept cluster res.cluster := by
  simp only [ffsplitDo] at h
  split at h
  · cases h
    rfl
  · split at h
    · cases h
    · cases h
      exact sameKept_ffsplitStartRound env _ client leaving ringId none
    · split at h
      · cases h
        rfl
      · cases h
        exact sameKept_ffsplitStartRound env _ client leaving ringId _

theorem sameKept_ffsplitVoteInfoReplyReceived (env : Env) (cluster : QnetdCluster)
    (client : QnetdClient) (seqNum : UInt32) :
    SameKept cluster (ffsplitVoteInfoReplyReceived env cluster client seqNum).cluster := by
  have hwait := sameKept_modifyClient cluster client.id
    (f := fun c => { c with ffsplitData := { c.ffsplitData with clientState := .waitingForChange } })
    fun _ => rfl
  simp only [ffsplitVoteInfoReplyReceived]
  split
  · exact SameKept.refl cluster
  · split
    · split
      · exact hwait.trans (sameKept_ffsplitSendAcks env _ client false client.lastRingId)
      · exact hwait
    · split
      · exact hwait
      · exact hwait
    · exact hwait
    · exact hwait

/-! ### LMS and 2nodelms -/

theorem sameKept_lmsSetInfo (cluster : QnetdCluster) (client : QnetdClient) (vote : TlvVote)
    (partitions : List AlgoPartition) :
    SameKept cluster (lmsSetInfo cluster client vote partitions) :=
  sameKept_modifyClient _ _ fun _ => rfl

theorem sameKept_doLmsAlgorithm {env : Env} {cluster : QnetdCluster} {client : QnetdClient}
    {ringId : TlvRingId} {res : AlgoResult}
    (h : doLmsAlgorithm env cluster client ringId = .ok res) : SameKept cluster res.cluster := by
  have habort : SameKept cluster (cluster.modifyClient client.id qnetdClientAlgoTimerAbort) :=
    sameKept_modifyClient _ _ fun _ => rfl
  have hwait := habort.trans (sameKept_modifyClient
    (cluster.modifyClient client.id qnetdClientAlgoTimerAbort) client.id
    (f := qnetdClientAlgoTimerSchedule env) fun _ => rfl)
  simp only [doLmsAlgorithm] at h
  split at h
  · cases h
    exact hwait.trans (sameKept_lmsSetInfo ..)
  · split at h
    · cases h
      exact habort.trans (sameKept_lmsSetInfo ..)
    · cases h
      exact hwait.trans (sameKept_lmsSetInfo ..)
    · cases h
      exact habort.trans (sameKept_lmsSetInfo ..)
    · split at h
      · cases h
        exact habort.trans (sameKept_lmsSetInfo ..)
      · split at h
        · cases h
        · split at h
          · cases h
            exact habort.trans (sameKept_lmsSetInfo ..)
          · split at h
            · cases h
            · split at h
              · cases h
                exact habort.trans (sameKept_lmsSetInfo ..)
              · cases h
                exact habort.trans (sameKept_lmsSetInfo ..)

theorem sameKept_twoNodeLmsAnswer (cluster : QnetdCluster) (client : QnetdClient)
    (vote : TlvVote) : SameKept cluster (twoNodeLmsAnswer cluster client vote).cluster :=
  sameKept_modifyClient _ _ fun _ => rfl

theorem sameKept_twoNodeLmsMembershipNodeListReceived (cluster : QnetdCluster)
    (client : QnetdClient) (ringId : TlvRingId) (nodes : NodeList) (heuristics : TlvHeuristics) :
    SameKept cluster
      (twoNodeLmsMembershipNodeListReceived cluster client ringId nodes heuristics).cluster := by
  simp only [twoNodeLmsMembershipNodeListReceived]
  split
  · exact SameKept.refl cluster
  · split
    · exact sameKept_twoNodeLmsAnswer ..
    · split
      · exact sameKept_twoNodeLmsAnswer ..
      · split
        · exact sameKept_twoNodeLmsAnswer ..
        · exact sameKept_twoNodeLmsAnswer ..
        · split <;> exact sameKept_twoNodeLmsAnswer ..

/-! ### The dispatchers -/

theorem sameKept_qnetdAlgorithmClientInit (cluster : QnetdCluster) (client : QnetdClient) :
    SameKept cluster (qnetdAlgorithmClientInit cluster client).cluster := by
  simp only [qnetdAlgorithmClientInit]
  split
  · exact SameKept.refl cluster
  · exact SameKept.refl cluster
  · simp only [ffsplitClientInit]
    split <;> exact sameKept_modifyClient _ _ fun _ => rfl
  · exact sameKept_modifyClient _ _ fun _ => rfl
  · exact sameKept_modifyClient _ _ fun _ => rfl

theorem sameKept_qnetdAlgorithmConfigNodeListReceived {env : Env} {cluster : QnetdCluster}
    {client : QnetdClient} {nodes : NodeList} {initial : Bool} {res : AlgoResult}
    (h : qnetdAlgorithmConfigNodeListReceived env cluster client nodes initial = .ok res) :
    SameKept cluster res.cluster := by
  simp only [qnetdAlgorithmConfigNodeListReceived] at h
  split at h
  · cases h; rfl
  · cases h; rfl
  · simp only [ffsplitConfigNodeListReceived] at h
    split at h
    · cases h; rfl
    · split at h
      · cases h; rfl
      · split at h
        · cases h; rfl
        · exact sameKept_ffsplitDo h
  · cases h
    simp only [twoNodeLmsConfigNodeListReceived]
    split <;> exact sameKept_modifyClient _ _ fun _ => rfl
  · cases h
    exact sameKept_modifyClient _ _ fun _ => rfl

theorem sameKept_qnetdAlgorithmMembershipNodeListReceived {env : Env} {cluster : QnetdCluster}
    {client : QnetdClient} {ringId : TlvRingId} {nodes : NodeList} {heuristics : TlvHeuristics}
    {res : AlgoResult}
    (h : qnetdAlgorithmMembershipNodeListReceived env cluster client ringId nodes heuristics
      = .ok res) : SameKept cluster res.cluster := by
  simp only [qnetdAlgorithmMembershipNodeListReceived] at h
  split at h
  · cases h; rfl
  · cases h; rfl
  · simp only [ffsplitMembershipNodeListReceived] at h
    split at h
    · cases h; rfl
    · split at h
      · cases h; rfl
      · split at h
        · cases h; rfl
        · exact sameKept_ffsplitDo h
  · cases h
    exact sameKept_twoNodeLmsMembershipNodeListReceived ..
  · exact sameKept_doLmsAlgorithm h

theorem sameKept_qnetdAlgorithmQuorumNodeListReceived {env : Env} {cluster : QnetdCluster}
    {client : QnetdClient} {res : AlgoResult}
    (h : qnetdAlgorithmQuorumNodeListReceived env cluster client = .ok res) :
    SameKept cluster res.cluster := by
  simp only [qnetdAlgorithmQuorumNodeListReceived] at h
  split at h
  · cases h; rfl
  · cases h; rfl
  · cases h; rfl
  · cases h; rfl
  · exact sameKept_doLmsAlgorithm h

theorem sameKept_qnetdAlgorithmClientDisconnect {env : Env} {cluster : QnetdCluster}
    {client : QnetdClient} {down : Bool} {res : AlgoResult}
    (h : qnetdAlgorithmClientDisconnect env cluster client down = .ok res) :
    SameKept cluster res.cluster := by
  simp only [qnetdAlgorithmClientDisconnect] at h
  split at h
  · simp only [ffsplitClientDisconnect] at h
    split at h
    · cases h
    · next res' hdecided =>
      have hres : SameKept cluster res'.cluster := by
        split at hdecided
        · cases hdecided; rfl
        · exact sameKept_ffsplitDo hdecided
      split at h
      · cases h
        exact hres
      · cases h
        exact hres
  all_goals
    cases h
    rfl

theorem sameKept_qnetdAlgorithmAskForVoteReceived {env : Env} {cluster : QnetdCluster}
    {client : QnetdClient} {res : AlgoResult}
    (h : qnetdAlgorithmAskForVoteReceived env cluster client = .ok res) :
    SameKept cluster res.cluster := by
  simp only [qnetdAlgorithmAskForVoteReceived] at h
  split at h
  · cases h; rfl
  · cases h; rfl
  · cases h; rfl
  · cases h; rfl
  · exact sameKept_doLmsAlgorithm h

theorem sameKept_qnetdAlgorithmVoteInfoReplyReceived (env : Env) (cluster : QnetdCluster)
    (client : QnetdClient) (seqNum : UInt32) :
    SameKept cluster (qnetdAlgorithmVoteInfoReplyReceived env cluster client seqNum).cluster := by
  simp only [qnetdAlgorithmVoteInfoReplyReceived]
  split
  · rfl
  · exact sameKept_ffsplitVoteInfoReplyReceived env cluster client seqNum
  all_goals rfl

theorem sameKept_qnetdAlgorithmHeuristicsChangeReceived {env : Env} {cluster : QnetdCluster}
    {client : QnetdClient} {heuristics : TlvHeuristics} {res : AlgoResult}
    (h : qnetdAlgorithmHeuristicsChangeReceived env cluster client heuristics = .ok res) :
    SameKept cluster res.cluster := by
  simp only [qnetdAlgorithmHeuristicsChangeReceived] at h
  split at h
  · cases h; rfl
  · simp only [ffsplitHeuristicsChangeReceived] at h
    split at h
    · cases h; rfl
    · exact sameKept_ffsplitDo h
  all_goals
    cases h
    rfl

theorem sameKept_qnetdClientAlgoTimerCallback {env : Env} {cluster : QnetdCluster}
    {client : QnetdClient} {res : AlgoResult}
    (h : qnetdClientAlgoTimerCallback env cluster client = .ok res) :
    SameKept cluster res.cluster := by
  simp only [qnetdClientAlgoTimerCallback] at h
  split at h
  · cases h
  · next result reschedule sendVote hcallback =>
    have hresult : SameKept cluster result.cluster := by
      simp only [qnetdAlgorithmTimerCallback, lmsTimerCallback] at hcallback
      split at hcallback
      · cases hcallback; rfl
      · split at hcallback
        · cases hcallback
        · next hdo => cases hcallback; exact sameKept_doLmsAlgorithm hdo
      all_goals
        cases hcallback
        rfl
    have hsent : SameKept cluster
        (if sendVote = true then
          result.cluster.modifyClient client.id fun c =>
            qnetdClientSendVoteInfo env
              { c with algoTimerVoteInfoMsqSeqNumber := c.algoTimerVoteInfoMsqSeqNumber + 1 }
              (c.algoTimerVoteInfoMsqSeqNumber + 1) c.lastRingId result.resultVote
        else result.cluster) := by
      split
      · exact hresult.trans (sameKept_modifyClient _ _ fun _ => rfl)
      · exact hresult
    split at h
    · split at h
      · cases h; exact hresult
      · cases h; exact hresult.trans (sameKept_scheduleDisconnect ..)
    · split at h
      · cases h; exact hsent.trans (sameKept_scheduleDisconnect ..)
      · split at h
        · cases h; exact hsent
        · cases h; exact hsent.trans (sameKept_modifyClient _ _ fun _ => rfl)

end Qdevice.Qnetd
