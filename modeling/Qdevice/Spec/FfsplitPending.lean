import Qdevice.Spec.FfsplitRun
import Qdevice.Spec.FfsplitSendFailure
import Qdevice.ForStd.Forall2

/-! # What an ffsplit round waits for

While NACKs or ACKs are being sent, a cluster waits for the replies of the clients in the
corresponding state.  This file follows the code once more with two questions: is there such a
client at all whenever the cluster waits, and does it have a vote info to reply to?  The second
holds unless a vote could not be queued, and then a disconnect is scheduled. -/

namespace Qdevice.Qnetd

/-- The state of the clients whose replies a cluster in this state waits for. -/
def FfsplitClusterState.awaited : FfsplitClusterState → Option FfsplitClientState
  | .sendingNacks => some .sendingNack
  | .sendingAcks => some .sendingAck
  | .waitingForChange | .waitingForStableMembership => none

theorem FfsplitClusterState.awaited_eq {clusterState : FfsplitClusterState} {acks : Bool}
    (h : clusterState = if acks then .sendingAcks else .sendingNacks) :
    clusterState.awaited = some (ffsplitSentState acks) := by
  subst h
  cases acks <;> rfl

/-! ### What happens to one client -/

/-- The vote infos of a client, and the number of the last one. -/
def QnetdClient.votes (c : QnetdClient) : List VoteInfo × UInt32 :=
  (c.voteInfos, c.ffsplitData.voteInfoExpectedSeqNum)

/-- The client keeps its votes, and neither a scheduled disconnect nor TLS is taken back. -/
structure SameDuty (c c' : QnetdClient) : Prop where
  ballot : c'.ballot = c.ballot
  scheduled : c.scheduleDisconnect = true → c'.scheduleDisconnect = true
  tlsStarted : c.tlsStarted = true → c'.tlsStarted = true

/-- The same for a client that may be in a new state and have been sent one more vote info, with
    the number that is expected back. -/
structure Grown (c c' : QnetdClient) : Prop where
  id : c'.id = c.id
  nodeId : c'.nodeId = c.nodeId
  votes : c'.votes = c.votes ∨ ∃ v, c'.voteInfos = c.voteInfos ++ [v] ∧
    v.msgSeqNumber = c'.ffsplitData.voteInfoExpectedSeqNum
  scheduled : c.scheduleDisconnect = true → c'.scheduleDisconnect = true
  tlsStarted : c.tlsStarted = true → c'.tlsStarted = true

/-- A vote info was queued to the client. -/
def SentOne (c c' : QnetdClient) : Prop :=
  ∃ v, c'.voteInfos = c.voteInfos ++ [v] ∧ v.queued = true

theorem SameDuty.refl (c : QnetdClient) : SameDuty c c := ⟨rfl, id, id⟩

theorem SameDuty.trans {c₁ c₂ c₃ : QnetdClient} (h₁₂ : SameDuty c₁ c₂) (h₂₃ : SameDuty c₂ c₃) :
    SameDuty c₁ c₃ :=
  ⟨h₂₃.ballot.trans h₁₂.ballot, fun h => h₂₃.scheduled (h₁₂.scheduled h),
    fun h => h₂₃.tlsStarted (h₁₂.tlsStarted h)⟩

theorem SameDuty.id {c c' : QnetdClient} (h : SameDuty c c') : c'.id = c.id :=
  congrArg Ballot.id h.ballot

theorem SameDuty.nodeId {c c' : QnetdClient} (h : SameDuty c c') : c'.nodeId = c.nodeId :=
  congrArg Ballot.nodeId h.ballot

theorem SameDuty.voteInfos {c c' : QnetdClient} (h : SameDuty c c') :
    c'.voteInfos = c.voteInfos :=
  congrArg Ballot.voteInfos h.ballot

theorem SameDuty.state {c c' : QnetdClient} (h : SameDuty c c') :
    c'.ffsplitData.clientState = c.ffsplitData.clientState :=
  congrArg (fun ballot => ballot.data.clientState) h.ballot

theorem SameDuty.votes {c c' : QnetdClient} (h : SameDuty c c') : c'.votes = c.votes :=
  congrArg (fun ballot => (ballot.voteInfos, ballot.data.voteInfoExpectedSeqNum)) h.ballot

/-- A client that is sent nothing. -/
structure Unsent (c c' : QnetdClient) : Prop where
  grown : Grown c c'
  votes : c'.votes = c.votes

theorem Unsent.voteInfos {c c' : QnetdClient} (h : Unsent c c') : c'.voteInfos = c.voteInfos :=
  congrArg Prod.fst h.votes

theorem SameDuty.grown {c c' : QnetdClient} (h : SameDuty c c') : Grown c c' :=
  ⟨h.id, h.nodeId, .inl h.votes, h.scheduled, h.tlsStarted⟩

theorem SameDuty.unsent {c c' : QnetdClient} (h : SameDuty c c') : Unsent c c' :=
  ⟨h.grown, h.votes⟩

theorem Grown.of_before {c₁ c₂ c₃ : QnetdClient} (h₁₂ : Unsent c₁ c₂) (h₂₃ : Grown c₂ c₃) :
    Grown c₁ c₃ where
  id := h₂₃.id.trans h₁₂.grown.id
  nodeId := h₂₃.nodeId.trans h₁₂.grown.nodeId
  votes := h₁₂.voteInfos ▸ h₁₂.votes ▸ h₂₃.votes
  scheduled h := h₂₃.scheduled (h₁₂.grown.scheduled h)
  tlsStarted h := h₂₃.tlsStarted (h₁₂.grown.tlsStarted h)

theorem Grown.of_after {c₁ c₂ c₃ : QnetdClient} (h₁₂ : Grown c₁ c₂) (h₂₃ : SameDuty c₂ c₃) :
    Grown c₁ c₃ where
  id := h₂₃.id.trans h₁₂.id
  nodeId := h₂₃.nodeId.trans h₁₂.nodeId
  votes := by
    have hexpected : c₃.ffsplitData.voteInfoExpectedSeqNum =
        c₂.ffsplitData.voteInfoExpectedSeqNum := congrArg Prod.snd h₂₃.votes
    rw [h₂₃.votes, h₂₃.voteInfos, hexpected]
    exact h₁₂.votes
  scheduled h := h₂₃.scheduled (h₁₂.scheduled h)
  tlsStarted h := h₂₃.tlsStarted (h₁₂.tlsStarted h)

/-- Writing to one client. -/
theorem forall₂_modifyClient {R : QnetdClient → QnetdClient → Prop} (cluster : QnetdCluster)
    (id : ClientId) {f : QnetdClient → QnetdClient} (hrefl : ∀ c, R c c)
    (h : ∀ c ∈ cluster.clientList, c.id = id → R c (f c)) :
    List.Forall₂ R cluster.clientList (cluster.modifyClient id f).clientList := by
  rw [QnetdCluster.modifyClient, List.forall₂_map_right_iff, List.forall₂_same]
  intro c hc
  split
  · next hid => exact h c hc hid
  · exact hrefl c

theorem sameDuty_scheduleDisconnect (cluster : QnetdCluster) (id : ClientId) :
    List.Forall₂ SameDuty cluster.clientList (cluster.scheduleDisconnect id).clientList :=
  forall₂_modifyClient cluster id .refl fun _ _ _ => ⟨rfl, fun _ => rfl, fun h => h⟩

/-! ### Sending the votes -/

/-- What sending the votes does to a client that is sent `vote`. -/
structure VoteDealt (env : Env) (vote : Option TlvVote) (c c' : QnetdClient) : Prop where
  grown : Grown c c'
  state : c'.ffsplitData.clientState = c.ffsplitData.clientState
  none : vote = none → c'.votes = c.votes
  some : vote.isSome = true → ∃ v, c'.voteInfos = c.voteInfos ++ [v] ∧
    v.queued = env.voteInfoQueued c.id

/-- The disconnect of the client that is being dealt with is scheduled, because a vote could not
    be queued. -/
def Failed (env : Env) (client : QnetdClient) (clients clients' : List QnetdClient) : Prop :=
  (∃ c ∈ clients, env.voteInfoQueued c.id = false) ∧
    ∀ c' ∈ clients', c'.id = client.id → c'.scheduleDisconnect = true

section SendVotes

variable (env : Env) (cluster : QnetdCluster) (client : QnetdClient) (leaving : Bool)
  (ringId : TlvRingId) (acks : Bool)

theorem ffsplitSendVotes_dealt :
    let cluster' := (ffsplitSendVotes env cluster client leaving ringId acks).1
    List.Forall₂ (fun c c' => VoteDealt env (ffsplitVoteToSend client leaving acks c) c c')
        cluster.clientList cluster'.clientList ∧
      (Failed env client cluster.clientList cluster'.clientList ∨
        ∀ c ∈ cluster.clientList, (ffsplitVoteToSend client leaving acks c).isSome = true →
          env.voteInfoQueued c.id = true) := by
  intro cluster'
  obtain ⟨lost, hlost, hlist⟩ :=
    ffsplitSendVotes_clientList env client leaving acks cluster ringId
  simp only [cluster']
  rw [hlist]
  -- Each client on its own: what the loop wrote to it, and what it did not.
  have hfields (c : QnetdClient) :=
    ffsplitAfterVotes_fields env client leaving acks ringId lost c
  have hid (c : QnetdClient) :
      (ffsplitAfterVotes env client leaving acks ringId lost c).id = c.id := by
    simp only [ffsplitAfterVotes, ffsplitSendVote]
    split <;> split <;> rfl
  have hnode (c : QnetdClient) :
      (ffsplitAfterVotes env client leaving acks ringId lost c).nodeId = c.nodeId := by
    simp only [ffsplitAfterVotes, ffsplitSendVote]
    split <;> split <;> rfl
  have htls (c : QnetdClient) :
      (ffsplitAfterVotes env client leaving acks ringId lost c).tlsStarted = c.tlsStarted := by
    simp only [ffsplitAfterVotes, ffsplitSendVote]
    split <;> split <;> rfl
  have hvotes (c : QnetdClient) :
      (ffsplitVoteToSend client leaving acks c = none →
        (ffsplitAfterVotes env client leaving acks ringId lost c).votes = c.votes) ∧
      ((ffsplitVoteToSend client leaving acks c).isSome = true →
        ∃ v, (ffsplitAfterVotes env client leaving acks ringId lost c).voteInfos =
          c.voteInfos ++ [v] ∧ v.msgSeqNumber = (ffsplitAfterVotes env client leaving acks ringId
            lost c).ffsplitData.voteInfoExpectedSeqNum) := by
    simp only [ffsplitAfterVotes, ffsplitSendVote]
    cases hvote : ffsplitVoteToSend client leaving acks c with
    | none =>
      refine ⟨fun _ => ?_, fun hsome => by cases hsome⟩
      split <;> rfl
    | some vote =>
      refine ⟨fun hnone => (by cases hnone), fun _ => ?_⟩
      split <;> exact ⟨_, rfl, rfl⟩
  constructor
  · rw [List.forall₂_map_right_iff, List.forall₂_same]
    intro c _
    obtain ⟨hflag, hstate, hsent⟩ := hfields c
    refine ⟨⟨hid c, hnode c, ?_, fun h => hflag.mpr (.inl h), fun h => (htls c).trans h⟩, hstate,
      (hvotes c).1, ?_⟩
    · cases hvote : ffsplitVoteToSend client leaving acks c with
      | none => exact .inl ((hvotes c).1 hvote)
      | some vote => exact .inr ((hvotes c).2 (by rw [hvote]; rfl))
    · intro hsome
      rcases hsent with ⟨-, hnone⟩ | ⟨v, hv, hqueued, -⟩
      · rw [hnone] at hsome
        cases hsome
      · exact ⟨v, hv, hqueued⟩
  · by_cases hany : lost = true
    · -- A vote info was lost, so the client that the call is about is to be disconnected.
      obtain ⟨c, hc, hvoted, hnot⟩ := hlost.mp hany
      refine .inl ⟨⟨c, hc, hnot⟩, fun c' hc' heq => ?_⟩
      obtain ⟨c₀, -, rfl⟩ := List.mem_map.mp hc'
      exact (hfields c₀).1.mpr (.inr ⟨(hid c₀).symm.trans heq, hany⟩)
    · refine .inr fun c hc hsome => ?_
      by_contra hqueued
      exact hany (hlost.mpr ⟨c, hc, hsome, by simpa using hqueued⟩)

end SendVotes

/-! ### A round -/

/-- The replies a round waits for: some client is in the awaited state, and each client in that
    state has just been sent a vote info, if nothing failed. -/
structure RoundOut (env : Env) (client : QnetdClient) (leaving : Bool)
    (clients clients' : List QnetdClient) (state : FfsplitClientState) : Prop where
  some : ∃ c' ∈ clients', ¬ Leaving client leaving c' ∧ c'.ffsplitData.clientState = state
  sent : Failed env client clients clients' ∨
    List.Forall₂ (fun c c' => ¬ Leaving client leaving c' →
      c'.ffsplitData.clientState = state → SentOne c c') clients clients'

/-- What a decision about `client` leaves: nobody loses anything, and if the cluster waits
    afterwards, it waits for replies to votes it has sent. -/
structure Decided (env : Env) (client : QnetdClient) (leaving : Bool) (clients : List QnetdClient)
    (cluster' : QnetdCluster) : Prop where
  grown : List.Forall₂ Grown clients cluster'.clientList
  out : ∀ state, cluster'.algorithmData.clusterState.awaited = some state →
    RoundOut env client leaving clients cluster'.clientList state

theorem Failed.of_before {env : Env} {client : QnetdClient} {cs₁ cs₂ cs₃ : List QnetdClient}
    (h₁₂ : List.Forall₂ Unsent cs₁ cs₂) (h₂₃ : Failed env client cs₂ cs₃) :
    Failed env client cs₁ cs₃ := by
  obtain ⟨⟨c₂, hc₂, hqueued⟩, hscheduled⟩ := h₂₃
  obtain ⟨c₁, hc₁, hunsent⟩ := h₁₂.exists_left hc₂
  exact ⟨⟨c₁, hc₁, hunsent.grown.id ▸ hqueued⟩, hscheduled⟩

theorem Failed.of_after {env : Env} {client : QnetdClient} {cs₁ cs₂ cs₃ : List QnetdClient}
    (h₁₂ : Failed env client cs₁ cs₂) (h₂₃ : List.Forall₂ SameDuty cs₂ cs₃) :
    Failed env client cs₁ cs₃ := by
  refine ⟨h₁₂.1, fun c₃ hc₃ hid => ?_⟩
  obtain ⟨c₂, hc₂, hsame⟩ := h₂₃.exists_left hc₃
  exact hsame.scheduled (h₁₂.2 c₂ hc₂ (hsame.id.symm.trans hid))

/-- A decision after a step that sends nothing. -/
theorem Decided.of_before {env : Env} {client : QnetdClient} {leaving : Bool}
    {cs₁ cs₂ : List QnetdClient} {cluster' : QnetdCluster} (h₁₂ : List.Forall₂ Unsent cs₁ cs₂)
    (h : Decided env client leaving cs₂ cluster') : Decided env client leaving cs₁ cluster' where
  grown := h₁₂.comp h.grown fun _ _ _ => Grown.of_before
  out state hstate := by
    obtain ⟨hsome, hsent⟩ := h.out state hstate
    refine ⟨hsome, hsent.imp (.of_before h₁₂) fun hsent => ?_⟩
    refine h₁₂.comp hsent fun c₁ c₂ c₃ hunsent hone hstays hawaited => ?_
    obtain ⟨v, hv, hqueued⟩ := hone hstays hawaited
    exact ⟨v, hunsent.voteInfos ▸ hv, hqueued⟩

/-- A decision before a step that keeps the votes. -/
theorem Decided.of_after {env : Env} {client : QnetdClient} {leaving : Bool}
    {clients : List QnetdClient} {cluster₁ cluster' : QnetdCluster}
    (h : Decided env client leaving clients cluster₁)
    (hafter : List.Forall₂ SameDuty cluster₁.clientList cluster'.clientList)
    (hdata : cluster'.algorithmData = cluster₁.algorithmData) :
    Decided env client leaving clients cluster' where
  grown := h.grown.comp hafter fun _ _ _ => Grown.of_after
  out state hstate := by
    obtain ⟨⟨c₁, hc₁, hstays, hawaited⟩, hsent⟩ := h.out state (hdata ▸ hstate)
    constructor
    · obtain ⟨c', hc', hsame⟩ := hafter.exists_right hc₁
      exact ⟨c', hc', by rwa [Leaving, hsame.nodeId], hsame.state.trans hawaited⟩
    · refine hsent.imp (·.of_after hafter) fun hsent => ?_
      refine hsent.comp hafter fun c₁ c₂ c₃ hone hsame hstays hawaited => ?_
      rw [Leaving, hsame.nodeId] at hstays
      obtain ⟨v, hv, hqueued⟩ := hone hstays (hsame.state.symm.trans hawaited)
      exact ⟨v, hsame.voteInfos.trans hv, hqueued⟩

theorem ffsplitVoteToSend_isSome {client c : QnetdClient} {leaving acks : Bool}
    (hstays : ¬ Leaving client leaving c)
    (hstate : c.ffsplitData.clientState = ffsplitSentState acks) :
    (ffsplitVoteToSend client leaving acks c).isSome = true := by
  by_contra h
  exact hstays ((ffsplitVoteToSend_eq_none client leaving acks c hstate).mp
    (Option.not_isSome_iff_eq_none.mp h))

/-- A client that is sent a vote stays and is in the state the votes are for. -/
theorem ffsplitVoteToSend_isSome_imp {client c : QnetdClient} {leaving acks : Bool}
    (h : (ffsplitVoteToSend client leaving acks c).isSome = true) :
    ¬ Leaving client leaving c ∧ c.ffsplitData.clientState = ffsplitSentState acks := by
  rw [ffsplitVoteToSend] at h
  split at h
  · cases h
  · next hstays =>
    refine ⟨hstays, ?_⟩
    cases acks with
    | false =>
      simp only [Bool.false_eq_true, if_false] at h
      split at h
      · next hstate => exact hstate
      · cases h
    | true =>
      simp only [if_true] at h
      split at h
      · next hstate => exact hstate
      · cases h

section Round

variable (env : Env) (cluster : QnetdCluster) (client : QnetdClient) (leaving : Bool)
  (ringId : TlvRingId) (acks : Bool)

/-- If a vote is sent at all, a round waits for the replies. -/
theorem ffsplitSendVotes_roundOut
    (hsome : (ffsplitSendVotes env cluster client leaving ringId acks).2 ≠ 0) :
    RoundOut env client leaving cluster.clientList
      (ffsplitSendVotes env cluster client leaving ringId acks).1.clientList
      (ffsplitSentState acks) := by
  obtain ⟨hdealt, hfailed⟩ := ffsplitSendVotes_dealt env cluster client leaving ringId acks
  constructor
  · have hany := (ffsplitSendVotes_eq_zero env cluster client leaving ringId acks).not.mp hsome
    push Not at hany
    obtain ⟨c, hc, hvote⟩ := hany
    obtain ⟨hstays, hstate⟩ := ffsplitVoteToSend_isSome_imp (Option.isSome_iff_ne_none.mpr hvote)
    obtain ⟨c', hc', hd⟩ := hdealt.exists_right hc
    refine ⟨c', hc', ?_, hd.state.trans hstate⟩
    rw [Leaving, hd.grown.nodeId]
    exact hstays
  · refine hfailed.imp_right fun hqueued => ?_
    refine hdealt.imp_mem fun c c' hc _ hd hstays hstate => ?_
    rw [Leaving, hd.grown.nodeId] at hstays
    have hvote : (ffsplitVoteToSend client leaving acks c).isSome = true :=
      ffsplitVoteToSend_isSome hstays (hd.state.symm.trans hstate)
    obtain ⟨v, hv, hvq⟩ := hd.some hvote
    exact ⟨v, hv, hvq.trans (hqueued c hc hvote)⟩

/-- The second phase waits for ACKs that have been sent, or for nothing. -/
theorem ffsplitSendAcks_decided :
    Decided env client leaving cluster.clientList
      (ffsplitSendAcks env cluster client leaving ringId).1 := by
  have hdealt :=
    (ffsplitSendVotes_dealt env (cluster.setClusterState .sendingAcks) client leaving ringId true).1
  have hout := ffsplitSendVotes_roundOut env (cluster.setClusterState .sendingAcks) client leaving
    ringId true
  have hdata := ffsplitSendVotes_algorithmData env (cluster.setClusterState .sendingAcks) client
    leaving ringId true
  have hgrown := hdealt.imp fun _ _ => VoteDealt.grown
  simp only [ffsplitSendAcks]
  split
  · exact ⟨hgrown, fun state hstate => by cases hstate⟩
  · next hsome =>
    refine ⟨hgrown, fun state hstate => ?_⟩
    dsimp only at hstate
    rw [hdata] at hstate
    cases hstate
    exact hout hsome

/-- The states of a new round. -/
theorem ffsplitUpdateNodesState_unsent (partition : Option NodeList) :
    List.Forall₂ Unsent cluster.clientList
      (ffsplitUpdateNodesState cluster client leaving partition).clientList := by
  rw [ffsplitUpdateNodesState, List.forall₂_map_right_iff, List.forall₂_same]
  exact fun c _ => ⟨⟨rfl, rfl, .inl rfl, fun h => h, fun h => h⟩, rfl⟩

/-- A round waits for NACKs that have been sent, or for ACKs that have been sent, or for
    nothing. -/
theorem ffsplitStartRound_decided (partition : Option NodeList) :
    Decided env client leaving cluster.clientList
      (ffsplitStartRound env cluster client leaving ringId partition).1 := by
  have hbefore := ffsplitUpdateNodesState_unsent cluster client leaving partition
  simp only [ffsplitStartRound]
  generalize ffsplitUpdateNodesState cluster client leaving partition = cluster₁ at hbefore ⊢
  have hdealt :=
    (ffsplitSendVotes_dealt env (cluster₁.setClusterState .sendingNacks) client leaving ringId
      false).1
  have hzero := ffsplitSendVotes_eq_zero env (cluster₁.setClusterState .sendingNacks) client
    leaving ringId false
  have hout := ffsplitSendVotes_roundOut env (cluster₁.setClusterState .sendingNacks) client
    leaving ringId false
  have hdata := ffsplitSendVotes_algorithmData env (cluster₁.setClusterState .sendingNacks) client
    leaving ringId false
  generalize ffsplitSendVotes env (cluster₁.setClusterState .sendingNacks) client leaving ringId
    false = sent at hdealt hzero hout hdata ⊢
  obtain ⟨cluster₂, sentVotes⟩ := sent
  refine .of_before hbefore ?_
  dsimp only at hdealt hzero hout hdata ⊢
  split
  · next hnone =>
    -- nobody has been sent a NACK, and the ACKs follow at once
    have hunsent : List.Forall₂ Unsent cluster₁.clientList cluster₂.clientList :=
      hdealt.imp_mem fun c c' hc _ hd => ⟨hd.grown, hd.none (hzero.mp hnone c hc)⟩
    exact .of_before hunsent (ffsplitSendAcks_decided env cluster₂ client leaving ringId)
  · next hsome =>
    refine ⟨hdealt.imp fun _ _ => VoteDealt.grown, fun state hstate => ?_⟩
    dsimp only at hstate
    rw [hdata] at hstate
    cases hstate
    exact hout hsome

end Round

/-- What a decision waits for. -/
theorem ffsplitDo_decided {env : Env} {cluster : QnetdCluster} {client : QnetdClient}
    {leaving : Bool} {ringId : TlvRingId} {config membership : NodeList}
    {heuristics : TlvHeuristics} {res : AlgoResult}
    (h : ffsplitDo env cluster client leaving ringId config membership heuristics = .ok res) :
    Decided env client leaving cluster.clientList res.cluster := by
  have hsame : List.Forall₂ Grown cluster.clientList cluster.clientList :=
    List.forall₂_same.mpr fun c _ => (SameDuty.refl c).grown
  have hround (quoratePartitionNodeList : NodeList) (partition : Option NodeList) :=
    ffsplitStartRound_decided env
      { cluster.setClusterState .waitingForStableMembership with algorithmData :=
        { (cluster.setClusterState .waitingForStableMembership).algorithmData with
          quoratePartitionNodeList } } client leaving ringId partition
  simp only [ffsplitDo] at h
  split at h
  · cases h
    exact ⟨hsame, fun state hstate => by cases hstate⟩
  · split at h
    · cases h
    · cases h
      exact hround [] none
    · next list _ =>
      split at h
      · cases h
        exact ⟨hsame, fun state hstate => by cases hstate⟩
      · cases h
        exact hround list (some list)

/-! ### Replies -/

/-- What a reply to a vote info leaves to wait for. -/
inductive ReplyPending (env : Env) (cluster : QnetdCluster) (client : QnetdClient) (seq : UInt32)
    (cluster' : QnetdCluster) : Prop where
  /-- It does not answer the newest vote info. -/
  | old (hseq : client.ffsplitData.voteInfoExpectedSeqNum ≠ seq) (hcluster : cluster' = cluster)
  /-- It does, and if the cluster waits at all, then for somebody else. -/
  | answered (hseq : client.ffsplitData.voteInfoExpectedSeqNum = seq)
      (hcluster : cluster' = answeredCluster cluster client)
      (hsome : ∀ state, cluster.algorithmData.clusterState.awaited = some state →
        ∃ c ∈ cluster'.clientList, c.ffsplitData.clientState = state)
  /-- It is the last answer to a NACK. -/
  | acks (hseq : client.ffsplitData.voteInfoExpectedSeqNum = seq)
      (hstate : cluster.algorithmData.clusterState = .sendingNacks)
      (hstate' : cluster'.algorithmData.clusterState ≠ .sendingNacks)
      (hdecided : Decided env client false (answeredCluster cluster client).clientList cluster')
  /-- It is the last answer at all. -/
  | done (hseq : client.ffsplitData.voteInfoExpectedSeqNum = seq)
      (hstate' : cluster'.algorithmData.clusterState = .waitingForChange)
      (hclients : cluster'.clientList = (answeredCluster cluster client).clientList)

theorem ffsplitVoteInfoReplyReceived_pending (env : Env) (cluster : QnetdCluster)
    (client : QnetdClient) (seq : UInt32) :
    ReplyPending env cluster client seq
      (ffsplitVoteInfoReplyReceived env cluster client seq).cluster := by
  have hnone (acks : Bool) :=
    ffsplitNoClientsInSendingState_eq_zero (answeredCluster cluster client) acks
  have hsome (acks : Bool) (hstate : cluster.algorithmData.clusterState =
      if acks then .sendingAcks else .sendingNacks)
      (h : ffsplitNoClientsInSendingState (answeredCluster cluster client) acks ≠ 0)
      (state : FfsplitClientState)
      (hawaited : cluster.algorithmData.clusterState.awaited = some state) :
      ∃ c ∈ (answeredCluster cluster client).clientList, c.ffsplitData.clientState = state := by
    have hany := (hnone acks).not.mp h
    push Not at hany
    rw [FfsplitClusterState.awaited_eq hstate] at hawaited
    cases hawaited
    exact hany
  simp only [ffsplitVoteInfoReplyReceived]
  split
  · next hseq => exact .old hseq rfl
  · next hseq =>
    have hseq := not_not.mp hseq
    rw [QnetdCluster.modifyClient_algorithmData]
    split
    · next hstate =>
      split
      · next hzero =>
        refine .acks hseq hstate ?_ (ffsplitSendAcks_decided env (answeredCluster cluster client)
          client false client.lastRingId)
        rcases (ffsplitSendAcks_cases env (answeredCluster cluster client) client false
          client.lastRingId).2.1 with ⟨hdone, -⟩ | hacks
        · exact fun h => by cases hdone.symm.trans h
        · exact fun h => by cases hacks.symm.trans h
      · next hnot =>
        exact .answered hseq rfl (hsome false hstate hnot)
    · next hstate =>
      split
      · exact .done hseq rfl rfl
      · next hnot => exact .answered hseq rfl (hsome true hstate hnot)
    · next hstate =>
      exact .answered hseq rfl fun state hawaited => by rw [hstate] at hawaited; cases hawaited
    · next hstate =>
      exact .answered hseq rfl fun state hawaited => by rw [hstate] at hawaited; cases hawaited

/-! ### What an event leaves to wait for -/

theorem checkTls_sameDuty {settings : Settings} {client client' : QnetdClient}
    (h : qnetdClientMsgReceivedCheckTls settings client = .success client') :
    SameDuty client client' := by
  rcases checkTls_success h with rfl | ⟨_, _, _, _, _, rfl⟩
  · exact .refl _
  · exact ⟨rfl, fun h => h, fun h => h⟩

theorem AlgoCall.sameDuty_store (vote : TlvVote) (call : AlgoCall) (c : QnetdClient) :
    SameDuty c (call.store vote c) := by
  cases call <;> exact ⟨rfl, fun h => h, fun h => h⟩

theorem AlgoCall.sameDuty_emptied (call : AlgoCall) (c : QnetdClient) :
    SameDuty c (call.emptied c) := by
  cases call <;> exact ⟨rfl, fun h => h, fun h => h⟩

theorem sameDuty_refl (clients : List QnetdClient) : List.Forall₂ SameDuty clients clients :=
  List.forall₂_same.mpr fun c _ => .refl c

/-- Writing a client that has the same duties. -/
theorem sameDuty_write {cluster : QnetdCluster} {client client' : QnetdClient}
    (huniq : ∀ c ∈ cluster.clientList, c.id = client.id → c = client)
    (h : SameDuty client client') :
    List.Forall₂ SameDuty cluster.clientList
      (cluster.modifyClient client.id fun _ => client').clientList :=
  forall₂_modifyClient cluster client.id .refl fun c hc hid => huniq c hc hid ▸ h

/-- What the result of a callback is stored as changes no duty. -/
theorem AfterCall.sameDuty {env : Env} {call : AlgoCall} {client : QnetdClient}
    {result : AlgoResult} {res : Handled} (h : AfterCall env call client result res) :
    res.cluster.algorithmData = result.cluster.algorithmData ∧
      List.Forall₂ SameDuty result.cluster.clientList res.cluster.clientList := by
  cases h with
  | failed hcode hcluster =>
    rw [hcluster]
    exact ⟨rfl, sameDuty_refl _⟩
  | stored hcode hcluster =>
    rw [hcluster]
    exact ⟨rfl, forall₂_modifyClient _ _ .refl fun c _ _ => call.sameDuty_store _ c⟩
  | emptied hcode hdisconnect hcluster =>
    rw [hcluster]
    exact ⟨rfl, forall₂_modifyClient _ _ .refl fun c _ _ => call.sameDuty_emptied c⟩

/-- A message that is not a reply to a vote info changes no duty, or leads to a decision about
    its sender. -/
theorem clusterMessage_pending {settings : Settings} {env : Env} {cluster cluster' : QnetdCluster}
    {id : ClientId} {msg : MsgDecoded} {log : List AlgoLog}
    (hreg : Registered TlvDecisionAlgorithmType.ffsplit.toUInt16 cluster)
    (hreply : MsgType.ofUInt16? msg.type ≠ some .voteInfoReply)
    (h : clusterMessage settings env cluster id msg = .ok (cluster', log)) :
    (cluster'.algorithmData = cluster.algorithmData ∧
        List.Forall₂ SameDuty cluster.clientList cluster'.clientList) ∨
      ∃ client ∈ cluster.clientList, ∃ client' : QnetdClient, client'.id = client.id ∧
        Decided env client' false cluster.clientList cluster' := by
  rcases clusterMessage_cases hreg.ids h with
    ⟨rfl, -⟩ | ⟨client, type, res, hclient, -, htype, hcase, -, rfl⟩
  · exact .inl ⟨rfl, sameDuty_refl _⟩
  · have huniq := hreg.client?_eq hclient
    have hmem := client?_mem hclient
    suffices hres : (res.cluster.algorithmData = cluster.algorithmData ∧
        List.Forall₂ SameDuty cluster.clientList res.cluster.clientList) ∨
        ∃ client' : QnetdClient, client'.id = client.id ∧
          Decided env client' false cluster.clientList res.cluster by
      -- Scheduling the disconnect changes no duty.
      have hafter : List.Forall₂ SameDuty res.cluster.clientList
          (if res.disconnect then res.cluster.scheduleDisconnect id else res.cluster).clientList ∧
          (if res.disconnect then res.cluster.scheduleDisconnect id
            else res.cluster).algorithmData = res.cluster.algorithmData := by
        split
        · exact ⟨sameDuty_scheduleDisconnect _ _, rfl⟩
        · exact ⟨sameDuty_refl _, rfl⟩
      rcases hres with ⟨hdata, hsame⟩ | ⟨client', hid, hdecided⟩
      · exact .inl ⟨hafter.2.trans hdata, hsame.comp hafter.1 fun _ _ _ => SameDuty.trans⟩
      · exact .inr ⟨client, hmem, client', hid, hdecided.of_after hafter.1 hafter.2⟩
    cases hcase with
    | same hcluster hlog =>
      rw [hcluster]
      exact .inl ⟨rfl, sameDuty_refl _⟩
    | preinit htype name pre hname hpre hcluster hlog =>
      rw [hcluster]
      exact .inl ⟨rfl, sameDuty_write huniq ⟨rfl, fun h => h, fun h => h⟩⟩
    | starttls htype hpre cert hcluster hlog =>
      rw [hcluster]
      exact .inl ⟨rfl, sameDuty_write huniq ⟨rfl, fun h => h, fun _ => rfl⟩⟩
    | quiet client' htls hb dpd keep hcluster hlog =>
      rw [hcluster]
      exact .inl ⟨rfl, sameDuty_write huniq
        ((checkTls_sameDuty htls).trans ⟨rfl, fun h => h, fun h => h⟩)⟩
    | call client' htls hinit call result hcall hrun hafter hlog =>
      have hduty := checkTls_sameDuty htls
      have hbefore := sameDuty_write huniq hduty
      obtain ⟨hdata, hstored⟩ := hafter.sameDuty
      have hnot : ∀ seq, call ≠ .voteInfoReply seq := by
        rintro seq rfl
        exact hreply (htype.trans (congrArg some (AlgoCall.ofMsg?_voteInfoReply hcall)))
      have halg : client'.decisionAlgorithm = TlvDecisionAlgorithmType.ffsplit.toUInt16 :=
        (checkTls_ballot htls).2.2.trans (hreg.algorithm client hmem)
      -- The call changes nothing, or it decides about the sender.
      rcases AlgoCall.run_ffsplit halg hnot hrun with
        ⟨hcluster, -⟩ | ⟨config, membership, heuristics, hdo⟩
      · rw [hcluster] at hdata hstored
        exact .inl ⟨hdata, hbefore.comp hstored fun _ _ _ => SameDuty.trans⟩
      · refine .inr ⟨client', hduty.id, ?_⟩
        exact .of_before (hbefore.imp fun _ _ => SameDuty.unsent)
          ((ffsplitDo_decided hdo).of_after hstored hdata)

/-- How a reply to a vote info reaches the cluster. -/
inductive ReplyMessage (settings : Settings) (env : Env) (cluster : QnetdCluster)
    (client : QnetdClient) (seq : UInt32) (cluster' : QnetdCluster) : Prop where
  /-- The client has to use TLS and does not. -/
  | refused (hrequired : checkTlsRequired settings = true) (htls : client.tlsStarted = false)
      (hread : replyRead settings client = false)
  /-- It is not authorised. -/
  | dropped (hread : replyRead settings client = false)
      (hcluster : cluster' = cluster.scheduleDisconnect client.id)
  /-- It is read. -/
  | read (hread : replyRead settings client = true) (client' : QnetdClient)
      (cluster₁ : QnetdCluster) (hmem : client' ∈ cluster₁.clientList)
      (hduty : SameDuty client client') (hreg : SameRegistration cluster cluster₁)
      (hdata : cluster₁.algorithmData = cluster.algorithmData)
      (hsame : List.Forall₂ SameDuty cluster.clientList cluster₁.clientList)
      (hpending : ReplyPending env cluster₁ client' seq cluster')

theorem clusterMessage_reply {settings : Settings} {env : Env} {cluster cluster' : QnetdCluster}
    {client : QnetdClient} {seq : UInt32} {log : List AlgoLog}
    (hreg : Registered TlvDecisionAlgorithmType.ffsplit.toUInt16 cluster)
    (hclient : cluster.client? client.id = some client)
    (hsched : client.scheduleDisconnect = false)
    (h : clusterMessage settings env cluster client.id (voteInfoReplyMsg seq) = .ok (cluster', log)) :
    ReplyMessage settings env cluster client seq cluster' := by
  have hmem := client?_mem hclient
  simp only [clusterMessage, hclient, voteInfoReplyMsg, MsgType.ofUInt16?_toUInt16,
    Option.bind_some, qnetdClientMsgHandler?, hsched, Bool.false_eq_true, if_false,
    qnetdClientMsgReceivedVoteInfoReply, withInitReceived, withCheckTls] at h
  cases htls : qnetdClientMsgReceivedCheckTls settings client with
  | tlsRequired =>
    refine .refused ?_ ?_ (by simp [replyRead, hsched, htls])
    all_goals
      simp only [qnetdClientMsgReceivedCheckTls] at htls
      split at htls
      · next hrequired => simp_all
      · split at htls
        · split at htls
          · split at htls <;> cases htls
          · cases htls
        · cases htls
  | disconnect =>
    simp only [htls, if_true] at h
    cases h
    exact .dropped (by simp [replyRead, hsched, htls]) rfl
  | success client' =>
    have hduty := checkTls_sameDuty htls
    have hinit : client'.initReceived = true := by
      have := checkTls_registration htls
      simp only [QnetdClient.registration, Prod.mk.injEq] at this
      rw [this.2.2.1]
      exact hreg.init client hmem
    simp only [htls, hinit, qnetdAlgorithmVoteInfoReplyReceived,
      (checkTls_ballot htls).2.2.trans (hreg.algorithm client hmem), qnetdAlgorithmArray_ffsplit,
      ffsplitVoteInfoReplyReceived_noError] at h
    cases h
    exact .read (by simp [replyRead, hsched, htls]) client'
      (cluster.modifyClient client.id fun _ => client')
      (List.mem_map.mpr ⟨client, hmem, by simp⟩) hduty
      (sameRegistration_write (hreg.client?_eq hclient) (checkTls_registration htls)) rfl
      (sameDuty_write (hreg.client?_eq hclient) hduty) (ffsplitVoteInfoReplyReceived_pending ..)

/-- ffsplit has no timer that changes a duty. -/
theorem clusterAlgoTimer_pending {env : Env} {cluster cluster' : QnetdCluster} {id : ClientId}
    {log : List AlgoLog}
    (hreg : Registered TlvDecisionAlgorithmType.ffsplit.toUInt16 cluster)
    (h : clusterAlgoTimer env cluster id = .ok (cluster', log)) :
    cluster'.algorithmData = cluster.algorithmData ∧
      List.Forall₂ SameDuty cluster.clientList cluster'.clientList := by
  simp only [clusterAlgoTimer] at h
  split at h
  · cases h
    exact ⟨rfl, sameDuty_refl _⟩
  · next client hclient =>
    split at h
    · cases h
      exact ⟨rfl, sameDuty_refl _⟩
    · have halg := hreg.algorithm client (client?_mem hclient)
      simp only [qnetdClientAlgoTimerCallback, qnetdAlgorithmTimerCallback, halg,
        qnetdAlgorithmArray_ffsplit] at h
      cases h
      exact ⟨rfl, forall₂_modifyClient _ _ .refl fun _ _ _ => ⟨rfl, fun h => h, fun h => h⟩⟩

/-- A disconnect while the server stays up leads to a decision without the client. -/
theorem clusterDisconnect_pending {env : Env} {cluster cluster' : QnetdCluster} {id : ClientId}
    {log : List AlgoLog}
    (hreg : Registered TlvDecisionAlgorithmType.ffsplit.toUInt16 cluster)
    (h : clusterDisconnect env cluster id false = .ok (cluster', log)) :
    (cluster' = cluster ∧ cluster.client? id = none) ∨
      ∃ client result, cluster.client? id = some client ∧
        Decided env client true cluster.clientList result ∧
        cluster'.clientList = result.clientList.filter (·.id ≠ id) ∧
        (cluster'.algorithmData = result.algorithmData ∨ cluster'.algorithmData = {}) := by
  rcases clusterDisconnect_cases h with ⟨rfl, -, hnone⟩ | ⟨client, res, hclient, hres, -, rfl⟩
  · exact .inl ⟨rfl, hnone⟩
  · have hmem := client?_mem hclient
    simp only [hreg.init client hmem, if_true, qnetdAlgorithmClientDisconnect,
      hreg.algorithm client hmem, qnetdAlgorithmArray_ffsplit, ffsplitClientDisconnect,
      Bool.false_eq_true, if_false] at hres
    split at hres
    · cases hres
    · next result hdo =>
      refine .inr ⟨client, result.cluster, hclient, ffsplitDo_decided hdo, ?_⟩
      split at hres
      · cases hres
        exact ⟨rfl, .inr rfl⟩
      · cases hres
        exact ⟨rfl, .inl rfl⟩

end Qdevice.Qnetd
