import Qdevice.Spec.ClusterRun

/-! # What an ffsplit decision does to the votes

`ffsplitDo` either puts the decision off or begins a round.  This file says what a round does to
each client: its new state, and the one vote info it may be sent.  Selecting the partition
plays no part in it; the partition is just some list. -/

namespace Qdevice.Qnetd

/-- The new state `qnetd_algo_ffsplit_update_nodes_state` gives to a client that stays. -/
def partitionState (partition : NodeList) (nodeId : UInt32) : FfsplitClientState :=
  if partition.HasNode nodeId then .sendingAck else .sendingNack

/-- A client that is sent no vote keeps its numbers; one that is sent a vote gets the next. -/
inductive Sent (env : Env) (ringId : TlvRingId) :
    Option TlvVote → QnetdClient → QnetdClient → Prop where
  | none {c c' : QnetdClient} (hvotes : c'.voteInfos = c.voteInfos)
      (hseq : c'.ffsplitData.voteInfoExpectedSeqNum = c.ffsplitData.voteInfoExpectedSeqNum) :
      Sent env ringId none c c'
  | some {c c' : QnetdClient} {vote : TlvVote}
      (hvotes : c'.voteInfos = c.voteInfos ++
        [⟨c.ffsplitData.voteInfoExpectedSeqNum + 1, ringId, vote, env.voteInfoQueued c.id⟩])
      (hseq : c'.ffsplitData.voteInfoExpectedSeqNum = c.ffsplitData.voteInfoExpectedSeqNum + 1) :
      Sent env ringId (some vote) c c'

/-- `c'` is `c` after the votes of a round have been sent: the same client in a new state, with
    `vote` sent to it. -/
structure Voted (env : Env) (ringId : TlvRingId) (state : FfsplitClientState)
    (vote : Option TlvVote) (c c' : QnetdClient) : Prop where
  fixed : c'.fixed = c.fixed
  lastRingId : c'.lastRingId = c.lastRingId
  state : c'.ffsplitData.clientState = state
  sent : Sent env ringId vote c c'

/-- The ring id a vote info to `c` carries in an event of `client` with ring id `ringId`. -/
def ringIdToSend (client : QnetdClient) (ringId : TlvRingId) (c : QnetdClient) : TlvRingId :=
  if c.nodeId = client.nodeId then ringId else c.lastRingId

section SendVotes

variable (env : Env) (cluster : QnetdCluster) (client : QnetdClient) (leaving : Bool)
  (ringId : TlvRingId) (acks : Bool)

theorem mem_ffsplitSendVotes (c' : QnetdClient)
    (h : c' ∈ (ffsplitSendVotes env cluster client leaving ringId acks).1.clientList) :
    ∃ c ∈ cluster.clientList, Voted env (ringIdToSend client ringId c) c.ffsplitData.clientState
      (ffsplitVoteToSend client leaving acks c) c c' := by
  have hvoted (c : QnetdClient) :
      Voted env (ringIdToSend client ringId c) c.ffsplitData.clientState
        (ffsplitVoteToSend client leaving acks c) c
        (ffsplitSendVote env client leaving ringId acks c) := by
    simp only [ffsplitSendVote]
    cases hvote : ffsplitVoteToSend client leaving acks c with
    | none => exact ⟨rfl, rfl, rfl, .none rfl rfl⟩
    | some vote => exact ⟨rfl, rfl, rfl, .some rfl rfl⟩
  simp only [ffsplitSendVotes] at h
  split at h
  · obtain ⟨c, hc, rfl⟩ := List.mem_map.mp h
    exact ⟨c, hc, hvoted c⟩
  · -- one vote could not be queued, which only shows in `schedule_disconnect`
    obtain ⟨c₁, hc₁, hcase⟩ := mem_modifyClient h
    obtain ⟨c, hc, rfl⟩ := List.mem_map.mp hc₁
    rcases hcase with ⟨-, rfl⟩ | ⟨-, rfl⟩
    · obtain ⟨hfixed, hring, hstate, hsent⟩ := hvoted c
      refine ⟨c, hc, hfixed, hring, hstate, ?_⟩
      generalize ffsplitVoteToSend client leaving acks c = vote at hsent
      cases hsent with
      | none hvotes hseq => exact .none hvotes hseq
      | some hvotes hseq => exact .some hvotes hseq
    · exact ⟨c, hc, hvoted c⟩

theorem ffsplitSendVotes_algorithmData :
    (ffsplitSendVotes env cluster client leaving ringId acks).1.algorithmData =
      cluster.algorithmData := by
  simp only [ffsplitSendVotes]
  split <;> rfl

/-- Nothing is sent exactly if there is no vote for anybody. -/
theorem ffsplitSendVotes_eq_zero :
    (ffsplitSendVotes env cluster client leaving ringId acks).2 = 0 ↔
      ∀ c ∈ cluster.clientList, ffsplitVoteToSend client leaving acks c = none := by
  simp [ffsplitSendVotes]

end SendVotes

/-! ### The second phase -/

/-- `ffsplitSendAcks` sends ACK to the clients waiting for it, or finishes the round. -/
theorem ffsplitSendAcks_cases (env : Env) (cluster : QnetdCluster) (client : QnetdClient)
    (leaving : Bool) (ringId : TlvRingId) :
    let cluster' := (ffsplitSendAcks env cluster client leaving ringId).1
    cluster'.algorithmData.quoratePartitionNodeList =
        cluster.algorithmData.quoratePartitionNodeList ∧
      (cluster'.algorithmData.clusterState = .waitingForChange ∧
          (∀ c ∈ cluster.clientList, ffsplitVoteToSend client leaving true c = none) ∨
        cluster'.algorithmData.clusterState = .sendingAcks) ∧
      ∀ c' ∈ cluster'.clientList, ∃ c ∈ cluster.clientList,
        Voted env (ringIdToSend client ringId c) c.ffsplitData.clientState
          (ffsplitVoteToSend client leaving true c) c c' := by
  have hdata := ffsplitSendVotes_algorithmData env (cluster.setClusterState .sendingAcks) client
    leaving ringId true
  have hzero := ffsplitSendVotes_eq_zero env (cluster.setClusterState .sendingAcks) client leaving
    ringId true
  have hmem := mem_ffsplitSendVotes env (cluster.setClusterState .sendingAcks) client leaving
    ringId true
  simp only [ffsplitSendAcks]
  split
  · next hnone =>
    refine ⟨?_, .inl ⟨rfl, hzero.mp hnone⟩, hmem⟩
    show (ffsplitSendVotes ..).1.algorithmData.quoratePartitionNodeList = _
    rw [hdata]; rfl
  · refine ⟨?_, .inr ?_, hmem⟩
    · rw [hdata]; rfl
    · rw [hdata]; rfl

/-! ### A round -/

/-- The client that is leaving takes no part. -/
def Leaving (client : QnetdClient) (leaving : Bool) (c : QnetdClient) : Prop :=
  c.nodeId = client.nodeId ∧ leaving = true

/-- How a round begins: NACKs go out; or nobody gets one and ACKs go out; or there is nobody. -/
inductive RoundBegins (env : Env) (client : QnetdClient) (leaving : Bool) (ringId : TlvRingId)
    (partition : NodeList) (clients : List QnetdClient) (cluster' : QnetdCluster) : Prop where
  | nacks (hstate : cluster'.algorithmData.clusterState = .sendingNacks)
      (hclients : ∀ c' ∈ cluster'.clientList, ∃ c ∈ clients, c'.fixed = c.fixed ∧
        (¬ Leaving client leaving c →
          Voted env (ringIdToSend client ringId c) (partitionState partition c.nodeId)
            (if partition.HasNode c.nodeId then none else some .nack) c c'))
  | acks (hstate : cluster'.algorithmData.clusterState = .sendingAcks)
      (hclients : ∀ c' ∈ cluster'.clientList, ∃ c ∈ clients, c'.fixed = c.fixed ∧
        (¬ Leaving client leaving c → partition.HasNode c.nodeId ∧
          Voted env (ringIdToSend client ringId c) .sendingAck (some .ack) c c'))
  | nobody (hstate : cluster'.algorithmData.clusterState = .waitingForChange)
      (hclients : ∀ c' ∈ cluster'.clientList, ∃ c ∈ clients, c'.fixed = c.fixed ∧
        Leaving client leaving c)

/-- The client in a new state. -/
def QnetdClient.withState (c : QnetdClient) (clientState : FfsplitClientState) : QnetdClient :=
  { c with ffsplitData := { c.ffsplitData with clientState } }

@[simp] theorem QnetdClient.withState_nodeId (c : QnetdClient) (clientState : FfsplitClientState) :
    (c.withState clientState).nodeId = c.nodeId := rfl

/-- Votes sent to a client that has only been given a new state before. -/
theorem Voted.of_state {env : Env} {ringId : TlvRingId} {state : FfsplitClientState}
    {vote : Option TlvVote} {c c' : QnetdClient} (s : FfsplitClientState)
    (h : Voted env ringId state vote (c.withState s) c') :
    Voted env ringId state vote c c' := by
  obtain ⟨hfixed, hring, hstate, hsent⟩ := h
  refine ⟨hfixed, hring, hstate, ?_⟩
  cases hsent with
  | none hvotes hseq => exact .none hvotes hseq
  | some hvotes hseq => exact .some hvotes hseq

/-- Two sendings in a row, of which the first had no vote for the client. -/
theorem Voted.trans {env : Env} {ringId₁ ringId₂ : TlvRingId} {state₁ state₂ : FfsplitClientState}
    {vote : Option TlvVote} {c c₁ c₂ : QnetdClient} (h₁ : Voted env ringId₁ state₁ none c c₁)
    (h₂ : Voted env ringId₂ state₂ vote c₁ c₂) : Voted env ringId₂ state₂ vote c c₂ := by
  obtain ⟨hfixed₁, hring₁, -, hsent₁⟩ := h₁
  obtain ⟨hfixed₂, hring₂, hstate, hsent₂⟩ := h₂
  refine ⟨hfixed₂.trans hfixed₁, hring₂.trans hring₁, hstate, ?_⟩
  have hid : c₁.id = c.id := congrArg Fixed.id hfixed₁
  cases hsent₁ with
  | none hvotes₁ hseq₁ =>
    cases hsent₂ with
    | none hvotes hseq => exact .none (hvotes.trans hvotes₁) (hseq.trans hseq₁)
    | some hvotes hseq =>
      rw [hvotes₁, hseq₁, hid] at hvotes
      rw [hseq₁] at hseq
      exact .some hvotes hseq

/-- `qnetd_algo_ffsplit_update_nodes_state` gives the clients their new states. -/
theorem mem_ffsplitUpdateNodesState {cluster : QnetdCluster} {client : QnetdClient}
    {leaving : Bool} {partition : Option NodeList} {c' : QnetdClient}
    (h : c' ∈ (ffsplitUpdateNodesState cluster client leaving partition).clientList) :
    ∃ c ∈ cluster.clientList, ∃ state, c' = c.withState state ∧
      (¬ Leaving client leaving c → state = partitionState (partition.getD []) c.nodeId) := by
  obtain ⟨c, hc, rfl⟩ := List.mem_map.mp h
  refine ⟨c, hc, _, rfl, fun hstays => ?_⟩
  refine (if_neg hstays).trans ?_
  cases partition with
  | none => simp [partitionState, NodeList.HasNode]
  | some list =>
    by_cases hnode : list.HasNode c.nodeId
    · have := (nodeListFindNodeId_isSome list c.nodeId).mpr hnode
      simp [partitionState, hnode, ← Option.not_isSome, this]
    · have := (nodeListFindNodeId_eq_none list c.nodeId).mpr hnode
      simp [partitionState, hnode, this]

/-- The NACKs of a round go to the clients outside the partition. -/
theorem ffsplitVoteToSend_nack {client c : QnetdClient} {leaving : Bool} {partition : NodeList}
    (hstays : ¬ Leaving client leaving c)
    (hstate : c.ffsplitData.clientState = partitionState partition c.nodeId) :
    ffsplitVoteToSend client leaving false c =
      if partition.HasNode c.nodeId then none else some .nack := by
  simp only [ffsplitVoteToSend, hstate, partitionState]
  refine (if_neg hstays).trans ?_
  by_cases hnode : partition.HasNode c.nodeId <;> simp [hnode]

theorem ffsplitVoteToSend_ack {client c : QnetdClient} {leaving : Bool}
    (hstays : ¬ Leaving client leaving c) :
    ffsplitVoteToSend client leaving true c =
      if c.ffsplitData.clientState = .sendingAck then some .ack else none := by
  simp only [ffsplitVoteToSend]
  exact (if_neg hstays).trans (if_pos trivial)

/-- The part of a decision after the selection begins a round for the selected partition. -/
theorem ffsplitStartRound_begins (env : Env) (cluster : QnetdCluster) (client : QnetdClient)
    (leaving : Bool) (ringId : TlvRingId) (partition : Option NodeList) :
    let cluster' := (ffsplitStartRound env cluster client leaving ringId partition).1
    cluster'.algorithmData.quoratePartitionNodeList =
        cluster.algorithmData.quoratePartitionNodeList ∧
      RoundBegins env client leaving ringId (partition.getD []) cluster.clientList cluster' := by
  generalize hupdated : ffsplitUpdateNodesState cluster client leaving partition = updated
  have hqp : updated.algorithmData.quoratePartitionNodeList =
      cluster.algorithmData.quoratePartitionNodeList := by rw [← hupdated]; rfl
  have hmem (c' : QnetdClient) (hc' : c' ∈ updated.clientList) :=
    mem_ffsplitUpdateNodesState (hupdated ▸ hc')
  have hdata := ffsplitSendVotes_algorithmData env (updated.setClusterState .sendingNacks) client
    leaving ringId false
  have hzero := ffsplitSendVotes_eq_zero env (updated.setClusterState .sendingNacks) client leaving
    ringId false
  have hnacks := mem_ffsplitSendVotes env (updated.setClusterState .sendingNacks) client leaving
    ringId false
  simp only [ffsplitStartRound, hupdated]
  generalize ffsplitSendVotes env (updated.setClusterState .sendingNacks) client leaving ringId
    false = votes at *
  split
  · next hnone =>
    -- no NACK was sent, so everybody who stays is in the partition and waits for its ACK
    have hinside (c₂ : QnetdClient) (hc₂ : c₂ ∈ votes.1.clientList) : ∃ c ∈ cluster.clientList,
        c₂.fixed = c.fixed ∧ (¬ Leaving client leaving c → (partition.getD []).HasNode c.nodeId ∧
          Voted env (ringIdToSend client ringId c) .sendingAck none c c₂) := by
      obtain ⟨c₁, hc₁, hvoted⟩ := hnacks c₂ hc₂
      rw [hzero.mp hnone c₁ hc₁] at hvoted
      obtain ⟨c, hc, state, rfl, hstate⟩ := hmem c₁ hc₁
      refine ⟨c, hc, hvoted.fixed, fun hstays => ?_⟩
      have hvote := ffsplitVoteToSend_nack (c := c.withState state) hstays (hstate hstays)
      rw [hzero.mp hnone _ hc₁] at hvote
      have hnode : (partition.getD []).HasNode c.nodeId := by
        by_cases hnode : (partition.getD []).HasNode c.nodeId
        · exact hnode
        · simp [hnode] at hvote
      refine ⟨hnode, ?_⟩
      have hvoted' := hvoted.of_state
      rw [hstate hstays, partitionState, if_pos hnode] at hvoted'
      exact hvoted'
    obtain ⟨hqp', hstate, hacks⟩ := ffsplitSendAcks_cases env votes.1 client leaving ringId
    refine ⟨hqp'.trans ((congrArg _ hdata).trans hqp), ?_⟩
    rcases hstate with ⟨hstate, hnobody⟩ | hstate
    · refine .nobody hstate fun c' hc' => ?_
      obtain ⟨c₂, hc₂, hvoted₂⟩ := hacks c' hc'
      obtain ⟨c, hc, hfixed, hin⟩ := hinside c₂ hc₂
      refine ⟨c, hc, hvoted₂.fixed.trans hfixed, ?_⟩
      by_cases hstays : Leaving client leaving c
      · exact hstays
      · have hvote := hnobody c₂ hc₂
        have hstays₂ : ¬ Leaving client leaving c₂ := by
          simpa [Leaving, show c₂.nodeId = c.nodeId from congrArg Fixed.nodeId hfixed] using hstays
        rw [ffsplitVoteToSend_ack hstays₂, (hin hstays).2.state] at hvote
        simp at hvote
    · refine .acks hstate fun c' hc' => ?_
      obtain ⟨c₂, hc₂, hvoted₂⟩ := hacks c' hc'
      obtain ⟨c, hc, hfixed, hin⟩ := hinside c₂ hc₂
      refine ⟨c, hc, hvoted₂.fixed.trans hfixed, fun hstays => ?_⟩
      obtain ⟨hnode, hvoted₁⟩ := hin hstays
      have hnode₂ : c₂.nodeId = c.nodeId := congrArg Fixed.nodeId hfixed
      have hstays₂ : ¬ Leaving client leaving c₂ := by simpa [Leaving, hnode₂] using hstays
      rw [ffsplitVoteToSend_ack hstays₂, hvoted₁.state] at hvoted₂
      simp only [ringIdToSend, hnode₂, hvoted₁.lastRingId] at hvoted₂ ⊢
      exact ⟨hnode, hvoted₁.trans hvoted₂⟩
  · refine ⟨(congrArg _ hdata).trans hqp, .nacks (by rw [hdata]; rfl) fun c' hc' => ?_⟩
    obtain ⟨c₁, hc₁, hvoted⟩ := hnacks c' hc'
    obtain ⟨c, hc, state, rfl, hstate⟩ := hmem c₁ hc₁
    refine ⟨c, hc, hvoted.fixed, fun hstays => ?_⟩
    have hvoted' := hvoted.of_state
    have hvote := ffsplitVoteToSend_nack (c := c.withState state) hstays (hstate hstays)
    rw [hvote, hstate hstays] at hvoted'
    exact hvoted'

/-- A decision is put off, or begins a round for the partition it keeps. -/
theorem ffsplitDo_cases {env : Env} {cluster : QnetdCluster} {client : QnetdClient}
    {leaving : Bool} {ringId : TlvRingId} {config membership : NodeList}
    {heuristics : TlvHeuristics} {res : AlgoResult}
    (h : ffsplitDo env cluster client leaving ringId config membership heuristics = .ok res) :
    (res.cluster.clientList = cluster.clientList ∧
        res.cluster.algorithmData.clusterState = .waitingForStableMembership) ∨
      (AlgoLog.ffsplitMembershipStable ∈ res.log ∧
        RoundBegins env client leaving ringId res.cluster.algorithmData.quoratePartitionNodeList
          cluster.clientList res.cluster) := by
  simp only [ffsplitDo] at h
  split at h
  · cases h
    exact .inl ⟨rfl, rfl⟩
  · split at h
    · cases h
    · cases h
      obtain ⟨hqp, hround⟩ := ffsplitStartRound_begins env { cluster.setClusterState
        .waitingForStableMembership with algorithmData := { (cluster.setClusterState
          .waitingForStableMembership).algorithmData with quoratePartitionNodeList := [] } }
        client leaving ringId none
      refine .inr ⟨by simp, ?_⟩
      rw [hqp]
      exact hround
    · next list _ =>
      split at h
      · cases h
        exact .inl ⟨rfl, rfl⟩
      · cases h
        obtain ⟨hqp, hround⟩ := ffsplitStartRound_begins env { cluster.setClusterState
          .waitingForStableMembership with algorithmData := { (cluster.setClusterState
            .waitingForStableMembership).algorithmData with quoratePartitionNodeList := list } }
          client leaving ringId (some list)
        refine .inr ⟨by simp, ?_⟩
        rw [hqp]
        exact hround

/-! ### Replies -/

/-- The cluster after a client's reply has ended the wait for it. -/
def answeredCluster (cluster : QnetdCluster) (client : QnetdClient) : QnetdCluster :=
  cluster.modifyClient client.id (·.withState .waitingForChange)

/-- What a vote info reply does. -/
inductive ReplyCase (env : Env) (cluster : QnetdCluster) (client : QnetdClient) (seq : UInt32)
    (cluster' : QnetdCluster) : Prop where
  /-- It does not answer the newest vote info. -/
  | old (hseq : client.ffsplitData.voteInfoExpectedSeqNum ≠ seq) (hcluster : cluster' = cluster)
  /-- It does, and the round goes on. -/
  | answered (hseq : client.ffsplitData.voteInfoExpectedSeqNum = seq)
      (hcluster : cluster' = answeredCluster cluster client)
  /-- It is the last answer to a NACK, so the ACKs are sent. -/
  | acks (hseq : client.ffsplitData.voteInfoExpectedSeqNum = seq)
      (hstate : cluster.algorithmData.clusterState = .sendingNacks)
      (hnone : ∀ c ∈ (answeredCluster cluster client).clientList,
        c.ffsplitData.clientState ≠ .sendingNack)
      (hstate' : cluster'.algorithmData.clusterState = .sendingAcks)
      (hpartition : cluster'.algorithmData.quoratePartitionNodeList =
        cluster.algorithmData.quoratePartitionNodeList)
      (hclients : ∀ c' ∈ cluster'.clientList, ∃ c ∈ (answeredCluster cluster client).clientList,
        Voted env c.lastRingId c.ffsplitData.clientState
          (if c.ffsplitData.clientState = .sendingAck then some .ack else none) c c')
  /-- It is the last answer at all. -/
  | done (hseq : client.ffsplitData.voteInfoExpectedSeqNum = seq)
      (hstate : (cluster.algorithmData.clusterState = .sendingNacks ∧
          ∀ c ∈ (answeredCluster cluster client).clientList,
            c.ffsplitData.clientState ≠ .sendingNack) ∨
        cluster.algorithmData.clusterState = .sendingAcks)
      (hnone : ∀ c ∈ (answeredCluster cluster client).clientList,
        c.ffsplitData.clientState ≠ .sendingAck)
      (hstate' : cluster'.algorithmData.clusterState = .waitingForChange)
      (hclients : ∀ c' ∈ cluster'.clientList, ∃ c ∈ (answeredCluster cluster client).clientList,
        Voted env c.lastRingId c.ffsplitData.clientState none c c')

theorem ffsplitNoClientsInSendingState_eq_zero (cluster : QnetdCluster) (acks : Bool) :
    ffsplitNoClientsInSendingState cluster acks = 0 ↔ ∀ c ∈ cluster.clientList,
      c.ffsplitData.clientState ≠ if acks then .sendingAck else .sendingNack := by
  cases acks <;> simp [ffsplitNoClientsInSendingState]

/-- A client that is sent nothing. -/
theorem Voted.refl (env : Env) (ringId : TlvRingId) (c : QnetdClient) :
    Voted env ringId c.ffsplitData.clientState none c c :=
  ⟨rfl, rfl, rfl, .none rfl rfl⟩

/-- `client` is a client of the cluster whose node id is its own. -/
theorem ffsplitVoteInfoReplyReceived_cases (env : Env) (cluster : QnetdCluster)
    (client : QnetdClient) (seq : UInt32)
    (hclient : ∀ c ∈ cluster.clientList, c.nodeId = client.nodeId → c.lastRingId = client.lastRingId) :
    ReplyCase env cluster client seq
        (ffsplitVoteInfoReplyReceived env cluster client seq).cluster ∧
      AlgoLog.ffsplitMembershipStable ∉ (ffsplitVoteInfoReplyReceived env cluster client seq).log := by
  -- The sender's ring id is the one that is stored with it.
  have hring : ∀ c ∈ (answeredCluster cluster client).clientList,
      ringIdToSend client client.lastRingId c = c.lastRingId := by
    intro c hc
    simp only [ringIdToSend]
    split
    · next hnode =>
      obtain ⟨c₀, hc₀, ⟨-, rfl⟩ | ⟨-, rfl⟩⟩ := mem_modifyClient hc
      · exact (hclient c₀ hc₀ hnode).symm
      · exact (hclient _ hc₀ hnode).symm
    · rfl
  have hstays (c : QnetdClient) : ¬ Leaving client false c := by simp [Leaving]
  simp only [ffsplitVoteInfoReplyReceived]
  split
  · next hseq => exact ⟨.old hseq rfl, by simp⟩
  · next hseq =>
    have hseq := Decidable.not_not.mp hseq
    have hanswered : (cluster.modifyClient client.id fun c =>
        { c with ffsplitData := { c.ffsplitData with clientState := .waitingForChange } }) =
      answeredCluster cluster client := rfl
    rw [hanswered]
    split
    · next hstate =>
      split
      · next hzero =>
        have hnone := (ffsplitNoClientsInSendingState_eq_zero _ false).mp hzero
        obtain ⟨hpartition, hafter, hclients⟩ := ffsplitSendAcks_cases env
          (answeredCluster cluster client) client false client.lastRingId
        have hvotes : ∀ c' ∈ (ffsplitSendAcks env (answeredCluster cluster client) client false
            client.lastRingId).1.clientList, ∃ c ∈ (answeredCluster cluster client).clientList,
            Voted env c.lastRingId c.ffsplitData.clientState
              (if c.ffsplitData.clientState = .sendingAck then some .ack else none) c c' := by
          intro c' hc'
          obtain ⟨c, hc, hvoted⟩ := hclients c' hc'
          rw [hring c hc, ffsplitVoteToSend_ack (hstays c)] at hvoted
          exact ⟨c, hc, hvoted⟩
        -- The last NACK was answered: the ACKs are sent, or there is nobody to send one to.
        rcases hafter with ⟨hafter, hnobody⟩ | hafter
        · have hnoAck : ∀ c ∈ (answeredCluster cluster client).clientList,
              c.ffsplitData.clientState ≠ .sendingAck := fun c hc hack => by
            have := hnobody c hc
            rw [ffsplitVoteToSend_ack (hstays c), if_pos hack] at this
            cases this
          refine ⟨.done hseq (.inl ⟨hstate, hnone⟩) hnoAck hafter fun c' hc' => ?_, ?_⟩
          · obtain ⟨c, hc, hvoted⟩ := hvotes c' hc'
            rw [if_neg (hnoAck c hc)] at hvoted
            exact ⟨c, hc, hvoted⟩
          · simp only [ffsplitSendAcks]
            split <;> simp
        · refine ⟨.acks hseq hstate hnone hafter hpartition hvotes, ?_⟩
          simp only [ffsplitSendAcks]
          split <;> simp
      · exact ⟨.answered hseq rfl, by simp⟩
    · next hstate =>
      split
      · next hzero =>
        have hnone := (ffsplitNoClientsInSendingState_eq_zero _ true).mp hzero
        exact ⟨.done hseq (.inr hstate) hnone rfl fun c' hc' => ⟨c', hc', .refl env _ c'⟩, by simp⟩
      · exact ⟨.answered hseq rfl, by simp⟩
    · exact ⟨.answered hseq rfl, by simp⟩
    · exact ⟨.answered hseq rfl, by simp⟩

end Qdevice.Qnetd
