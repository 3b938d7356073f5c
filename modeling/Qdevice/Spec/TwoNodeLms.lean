import Qdevice.Spec.ClusterRun

/-! # 2nodelms: one of two split nodes

Two nodes that each report only themselves should not both hold the vote.  2nodelms decides for
the sender of a membership list, from the heuristics and the last result that the other client has
stored at that time, and never goes back on a vote.  A newcomer is denied while the
other node holds the vote; a node that has been voting before is not, and takes the
vote with better heuristics, or as the tie-breaker node, although the other node still holds it.
Without such a step the two never hold it together. -/

namespace Qdevice.Qnetd

/-- The node list is the node itself and nobody else. -/
def OnlyNode (nodes : NodeList) (nodeId : UInt32) : Prop :=
  nodes.map (·.nodeId) = [nodeId]

instance (nodes : NodeList) (nodeId : UInt32) : Decidable (OnlyNode nodes nodeId) :=
  inferInstanceAs (Decidable (_ = _))

/-- The last list a client sent is the client itself, and it was last answered with ACK. -/
def HoldsSplitVote (c : QnetdClient) : Prop :=
  OnlyNode c.lastMembershipNodeList c.nodeId ∧ c.twoNodeLmsInfo.lastResult = .ack

instance (c : QnetdClient) : Decidable (HoldsSplitVote c) :=
  inferInstanceAs (Decidable (_ ∧ _))

/-- The tie-breaker prefers `c` to `d`. -/
def TieBreakerPrefers (c d : QnetdClient) : Prop :=
  match c.tieBreaker.mode with
  | .lowest => c.nodeId < d.nodeId
  | .highest => d.nodeId < c.nodeId
  | .nodeId => c.nodeId = c.tieBreaker.nodeId
  | .unset => False

instance (c d : QnetdClient) : Decidable (TieBreakerPrefers c d) := by
  unfold TieBreakerPrefers
  cases c.tieBreaker.mode <;> infer_instance

/-- With heuristics `heuristics`, `c` wins against `d`. -/
def WinsAgainst (c d : QnetdClient) (heuristics : TlvHeuristics) : Prop :=
  tlvHeuristicsCmp heuristics d.lastHeuristics = .gt ∨
    tlvHeuristicsCmp heuristics d.lastHeuristics = .eq ∧ TieBreakerPrefers c d

instance (c d : QnetdClient) (heuristics : TlvHeuristics) :
    Decidable (WinsAgainst c d heuristics) :=
  inferInstanceAs (Decidable (_ ∨ _))

/-! ### The decision -/

private theorem foldl_low_le (l : List QnetdClient) (init : UInt32) :
    l.foldl (fun low c => if c.nodeId < low then c.nodeId else low) init ≤ init ∧
      ∀ c ∈ l, l.foldl (fun low c => if c.nodeId < low then c.nodeId else low) init ≤ c.nodeId := by
  induction l generalizing init with
  | nil => exact ⟨UInt32.le_refl init, fun c hc => by cases hc⟩
  | cons c rest ih =>
    obtain ⟨hinit, hrest⟩ := ih (if c.nodeId < init then c.nodeId else init)
    have hmin : (if c.nodeId < init then c.nodeId else init) ≤ init ∧
        (if c.nodeId < init then c.nodeId else init) ≤ c.nodeId := by
      split
      · next hlt => exact ⟨UInt32.le_of_lt hlt, UInt32.le_refl _⟩
      · next hge => exact ⟨UInt32.le_refl _, UInt32.not_lt.mp hge⟩
    refine ⟨UInt32.le_trans hinit hmin.1, fun d hd => ?_⟩
    rcases List.mem_cons.mp hd with rfl | hd
    · exact UInt32.le_trans hinit hmin.2
    · exact hrest d hd

private theorem le_foldl_high (l : List QnetdClient) (init : UInt32) :
    init ≤ l.foldl (fun high c => if c.nodeId > high then c.nodeId else high) init ∧
      ∀ c ∈ l, c.nodeId ≤
        l.foldl (fun high c => if c.nodeId > high then c.nodeId else high) init := by
  induction l generalizing init with
  | nil => exact ⟨UInt32.le_refl init, fun c hc => by cases hc⟩
  | cons c rest ih =>
    obtain ⟨hinit, hrest⟩ := ih (if c.nodeId > init then c.nodeId else init)
    have hmax : init ≤ (if c.nodeId > init then c.nodeId else init) ∧
        c.nodeId ≤ (if c.nodeId > init then c.nodeId else init) := by
      split
      · next hlt => exact ⟨UInt32.le_of_lt hlt, UInt32.le_refl _⟩
      · next hge => exact ⟨UInt32.le_refl _, UInt32.not_lt.mp hge⟩
    refine ⟨UInt32.le_trans hmax.1 hinit, fun d hd => ?_⟩
    rcases List.mem_cons.mp hd with rfl | hd
    · exact UInt32.le_trans hmax.2 hinit
    · exact hrest d hd

/-- When there is one other client, its heuristics are the ones that are compared. -/
private theorem foldl_otherHeuristics {id : ClientId} {d : QnetdClient} {l : List QnetdClient}
    (honly : ∀ e ∈ l, e.id ≠ id → e = d) (init : TlvHeuristics)
    (h : init = d.lastHeuristics ∨ ∃ e ∈ l, e.id ≠ id) :
    l.foldl (fun h c => if c.id ≠ id then c.lastHeuristics else h) init = d.lastHeuristics := by
  induction l generalizing init with
  | nil =>
    rcases h with h | ⟨e, he, -⟩
    · exact h
    · cases he
  | cons c rest ih =>
    rw [List.foldl_cons]
    refine ih (fun e he => honly e (List.mem_cons_of_mem _ he)) _ ?_
    by_cases hc : c.id ≠ id
    · rw [if_pos hc, honly c (List.mem_cons_self ..) hc]
      exact .inl rfl
    · rw [if_neg hc]
      rcases h with h | ⟨e, he, hne⟩
      · exact .inl h
      · rcases List.mem_cons.mp he with rfl | he
        · exact absurd hne hc
        · exact .inr ⟨e, he, hne⟩

/-- The newcomer rule denies the sender. -/
def TwoNodeLmsNewcomer (cluster : QnetdCluster) (client : QnetdClient) (ringId : TlvRingId) : Prop :=
  client.twoNodeLmsInfo.lastResult = .undefined ∧
    (cluster.clientList.any fun otherClient =>
      !tlvRingIdEq ringId otherClient.lastRingId &&
        otherClient.twoNodeLmsInfo.lastResult == .ack) = true

/-- 2nodelms saves the vote it answers with, except for newcomers. -/
theorem twoNodeLmsMembership_saved (cluster : QnetdCluster) (client : QnetdClient)
    (ringId : TlvRingId) (nodes : NodeList) (heuristics : TlvHeuristics) :
    TwoNodeLmsNewcomer cluster client ringId ∧
        twoNodeLmsMembershipNodeListReceived cluster client ringId nodes heuristics =
          { cluster, resultVote := .nack } ∨
      ¬ TwoNodeLmsNewcomer cluster client ringId ∧ ∃ vote,
        twoNodeLmsMembershipNodeListReceived cluster client ringId nodes heuristics =
          twoNodeLmsAnswer cluster client vote := by
  simp only [twoNodeLmsMembershipNodeListReceived, TwoNodeLmsNewcomer]
  split
  · next hnew => exact .inl ⟨hnew, rfl⟩
  · next hnew =>
    refine .inr ⟨hnew, ?_⟩
    split
    · exact ⟨_, rfl⟩
    · split
      · exact ⟨_, rfl⟩
      · split
        · exact ⟨_, rfl⟩
        · exact ⟨_, rfl⟩
        · split <;> exact ⟨_, rfl⟩

/-- A client that sees only itself while `d` is connected gets the vote by winning against `d`. -/
theorem twoNodeLmsMembership_wins {cluster : QnetdCluster} {client d : QnetdClient}
    {ringId : TlvRingId} {nodes : NodeList} {heuristics : TlvHeuristics} {vote : TlvVote}
    (hsize : nodeListSize nodes = 1) (hclient : client ∈ cluster.clientList)
    (hd : d ∈ cluster.clientList) (hne : d.id ≠ client.id) (hnode : d.nodeId ≠ client.nodeId)
    (honly : ∀ e ∈ cluster.clientList, e.id ≠ client.id → e = d)
    (hnew : ¬ TwoNodeLmsNewcomer cluster client ringId)
    (h : twoNodeLmsMembershipNodeListReceived cluster client ringId nodes heuristics =
      twoNodeLmsAnswer cluster client vote) (hack : vote = .ack) :
    WinsAgainst client d heuristics := by
  have hlength : cluster.clientList.length ≠ 1 := by
    intro hone
    obtain ⟨c, hc⟩ := List.length_eq_one_iff.mp hone
    rw [hc, List.mem_singleton] at hclient hd
    exact hne (by rw [hd, hclient])
  have hvote := congrArg AlgoResult.resultVote h
  simp only [TwoNodeLmsNewcomer] at hnew
  simp only [twoNodeLmsMembershipNodeListReceived] at hvote
  rw [if_neg hnew, if_neg (by rw [hsize]; decide), if_neg hlength,
    foldl_otherHeuristics honly .undefined (.inr ⟨d, hd, hne⟩)] at hvote
  simp only [twoNodeLmsAnswer, hack] at hvote
  split at hvote
  · next hcmp => exact .inl hcmp
  · cases hvote
  · next hcmp =>
    refine .inr ⟨hcmp, ?_⟩
    rw [TieBreakerPrefers]
    cases hmode : client.tieBreaker.mode with
    | lowest =>
      simp only [hmode] at hvote
      have hle := (foldl_low_le cluster.clientList 4294967295).2 d hd
      split at hvote
      · next hlow => exact UInt32.lt_of_le_of_ne (hlow ▸ hle) hnode.symm
      · cases hvote
    | highest =>
      simp only [hmode] at hvote
      have hle := (le_foldl_high cluster.clientList 0).2 d hd
      split at hvote
      · next hhigh => exact UInt32.lt_of_le_of_ne (hhigh ▸ hle) hnode
      · cases hvote
    | nodeId =>
      simp only [hmode] at hvote
      split at hvote
      · assumption
      · cases hvote
    | unset =>
      simp only [hmode] at hvote
      cases hvote

/-! ### Messages -/

/-- The part of a client that the exclusion is about. -/
structure TwoNodeView where
  id : ClientId
  nodeId : UInt32
  lastMembershipNodeList : NodeList
  lastRingId : TlvRingId
  lastResult : TlvVote

def QnetdClient.twoNodeView (c : QnetdClient) : TwoNodeView where
  id := c.id
  nodeId := c.nodeId
  lastMembershipNodeList := c.lastMembershipNodeList
  lastRingId := c.lastRingId
  lastResult := c.twoNodeLmsInfo.lastResult

def SameTwoNodeView (cluster cluster' : QnetdCluster) : Prop :=
  cluster'.clientList.map QnetdClient.twoNodeView = cluster.clientList.map QnetdClient.twoNodeView

theorem SameTwoNodeView.trans {cl₁ cl₂ cl₃ : QnetdCluster} (h₁₂ : SameTwoNodeView cl₁ cl₂)
    (h₂₃ : SameTwoNodeView cl₂ cl₃) : SameTwoNodeView cl₁ cl₃ :=
  Eq.trans h₂₃ h₁₂

theorem sameTwoNodeView_modifyClient (cluster : QnetdCluster) (id : ClientId)
    {f : QnetdClient → QnetdClient} (h : ∀ c, (f c).twoNodeView = c.twoNodeView) :
    SameTwoNodeView cluster (cluster.modifyClient id f) :=
  map_modifyClient _ cluster id f fun c _ _ => h c

theorem sameTwoNodeView_write {cluster : QnetdCluster} {client client' : QnetdClient}
    (huniq : ∀ c ∈ cluster.clientList, c.id = client.id → c = client)
    (h : client'.twoNodeView = client.twoNodeView) :
    SameTwoNodeView cluster (cluster.modifyClient client.id fun _ => client') :=
  map_modifyClient _ cluster client.id _ fun c hc hid => by rw [huniq c hc hid, h]

theorem ignoresConnection_twoNodeView : IgnoresConnection QnetdClient.twoNodeView :=
  fun _ _ _ _ _ _ _ _ _ _ => rfl

theorem checkTls_twoNodeView {settings : Settings} {client client' : QnetdClient}
    (htls : qnetdClientMsgReceivedCheckTls settings client = .success client') :
    client'.twoNodeView = client.twoNodeView :=
  ignoresConnection_twoNodeView.checkTls htls

/-- The membership list of a message and the ring it belongs to. -/
def membershipOf? (msg : MsgDecoded) : Option (TlvRingId × NodeList × TlvHeuristics) :=
  match MsgType.ofUInt16? msg.type with
  | none => none
  | some type =>
    match AlgoCall.ofMsg? type msg with
    | some (.membership ringId nodes heuristics) => some (ringId, nodes, heuristics)
    | _ => none

/-- What a membership list leaves in the client that sent it. -/
structure MembershipWrite (cluster : QnetdCluster) (client : QnetdClient) (ringId : TlvRingId)
    (nodes : NodeList) (heuristics : TlvHeuristics) (c : QnetdClient) : Prop where
  id : c.id = client.id
  nodeId : c.nodeId = client.nodeId
  stored : c.lastMembershipNodeList = nodes ∧ c.lastRingId = ringId ∨ c.lastMembershipNodeList = []
  decided : TwoNodeLmsNewcomer cluster client ringId ∧
      c.twoNodeLmsInfo.lastResult = client.twoNodeLmsInfo.lastResult ∨
    ¬ TwoNodeLmsNewcomer cluster client ringId ∧ ∃ vote, c.twoNodeLmsInfo.lastResult = vote ∧
      twoNodeLmsMembershipNodeListReceived cluster client ringId nodes heuristics =
        twoNodeLmsAnswer cluster client vote

section Messages

variable {settings : Settings} {env : Env} {cluster : QnetdCluster} {client : QnetdClient}

theorem qnetdAlgorithmArray_twoNodeLms :
    qnetdAlgorithmArray TlvDecisionAlgorithmType.twoNodeLms.toUInt16 = some .twoNodeLms := rfl

/-- The callbacks of the other messages leave the decision alone. -/
private theorem sameTwoNodeView_run {call : AlgoCall} {result : AlgoResult}
    (halgorithm : client.decisionAlgorithm = TlvDecisionAlgorithmType.twoNodeLms.toUInt16)
    (hother : ∀ ringId nodes heuristics, call ≠ .membership ringId nodes heuristics)
    (h : call.run env cluster client = .ok result) : SameTwoNodeView cluster result.cluster := by
  cases call with
  | config nodes version initial =>
    simp only [AlgoCall.run, qnetdAlgorithmConfigNodeListReceived, halgorithm,
      qnetdAlgorithmArray_twoNodeLms, twoNodeLmsConfigNodeListReceived] at h
    cases h
    split <;> exact sameTwoNodeView_modifyClient _ _ fun _ => rfl
  | membership ringId nodes heuristics => exact absurd rfl (hother ringId nodes heuristics)
  | quorum nodes =>
    simp only [AlgoCall.run, qnetdAlgorithmQuorumNodeListReceived, halgorithm,
      qnetdAlgorithmArray_twoNodeLms] at h
    cases h
    rfl
  | askForVote =>
    simp only [AlgoCall.run, qnetdAlgorithmAskForVoteReceived, halgorithm,
      qnetdAlgorithmArray_twoNodeLms, twoNodeLmsAskForVoteReceived] at h
    cases h
    rfl
  | voteInfoReply seqNumber =>
    simp only [AlgoCall.run, qnetdAlgorithmVoteInfoReplyReceived, halgorithm,
      qnetdAlgorithmArray_twoNodeLms] at h
    cases h
    rfl
  | heuristicsChange heuristics =>
    simp only [AlgoCall.run, qnetdAlgorithmHeuristicsChangeReceived, halgorithm,
      qnetdAlgorithmArray_twoNodeLms] at h
    cases h
    rfl

/-- What is stored with them is not the membership list. -/
private theorem twoNodeView_store {call : AlgoCall} (vote : TlvVote)
    (hother : ∀ ringId nodes heuristics, call ≠ .membership ringId nodes heuristics)
    (c : QnetdClient) : (call.store vote c).twoNodeView = c.twoNodeView ∧
      (call.emptied c).twoNodeView = c.twoNodeView := by
  cases call with
  | membership ringId nodes heuristics => exact absurd rfl (hother ringId nodes heuristics)
  | config | quorum | askForVote | voteInfoReply | heuristicsChange => exact ⟨rfl, rfl⟩

/-- The callback of a membership list, and what is stored after it. -/
private theorem membershipWrite_call {ringId : TlvRingId} {nodes : NodeList}
    {heuristics : TlvHeuristics} {result : AlgoResult} {res : Handled}
    (halgorithm : client.decisionAlgorithm = TlvDecisionAlgorithmType.twoNodeLms.toUInt16)
    (huniq : ∀ c ∈ cluster.clientList, c.id = client.id → c = client)
    (h : (AlgoCall.membership ringId nodes heuristics).run env cluster client = .ok result)
    (hafter : AfterCall env (.membership ringId nodes heuristics) client result res) :
    ∃ c, MembershipWrite cluster client ringId nodes heuristics c ∧
      SameTwoNodeView (cluster.modifyClient client.id fun _ => c) res.cluster := by
  simp only [AlgoCall.run, qnetdAlgorithmMembershipNodeListReceived, halgorithm,
    qnetdAlgorithmArray_twoNodeLms] at h
  obtain rfl := Except.ok.inj h
  -- the client after the callback
  obtain ⟨client₂, hid, hnode, hdecided, hcluster, hcode⟩ : ∃ client₂, client₂.id = client.id ∧
      client₂.nodeId = client.nodeId ∧
      (TwoNodeLmsNewcomer cluster client ringId ∧
          client₂.twoNodeLmsInfo.lastResult = client.twoNodeLmsInfo.lastResult ∨
        ¬ TwoNodeLmsNewcomer cluster client ringId ∧ ∃ vote,
          client₂.twoNodeLmsInfo.lastResult = vote ∧
          twoNodeLmsMembershipNodeListReceived cluster client ringId nodes heuristics =
            twoNodeLmsAnswer cluster client vote) ∧
      (twoNodeLmsMembershipNodeListReceived cluster client ringId nodes heuristics).cluster =
        cluster.modifyClient client.id (fun _ => client₂) ∧
      (twoNodeLmsMembershipNodeListReceived cluster client ringId nodes heuristics).replyErrorCode =
        .noError := by
    rcases twoNodeLmsMembership_saved cluster client ringId nodes heuristics with
      ⟨hnew, hvote⟩ | ⟨hnew, vote, hvote⟩
    · refine ⟨client, rfl, rfl, .inl ⟨hnew, rfl⟩, ?_, by rw [hvote]⟩
      rw [hvote, ← modifyClient_eq_write huniq fun c => c, modifyClient_id]
    · refine ⟨{ client with
        twoNodeLmsInfo := { client.twoNodeLmsInfo with lastResult := vote } }, rfl, rfl,
        .inr ⟨hnew, vote, rfl, hvote⟩, ?_, by rw [hvote]; rfl⟩
      rw [hvote]
      exact modifyClient_eq_write huniq _
  cases hafter with
  | failed hfailed _ => exact absurd hcode hfailed
  | stored _ hres =>
    rw [hcluster, modifyClient_modifyClient _ _ _ _ fun _ _ => hid] at hres
    refine ⟨AlgoCall.store
      (twoNodeLmsMembershipNodeListReceived cluster client ringId nodes heuristics).resultVote
      (.membership ringId nodes heuristics) client₂, ⟨hid, hnode, .inl ⟨rfl, rfl⟩, hdecided⟩, ?_⟩
    rw [hres]
    rfl
  | emptied _ _ hres =>
    rw [hcluster, modifyClient_modifyClient _ _ _ _ fun _ _ => hid] at hres
    refine ⟨{ client₂ with lastMembershipNodeList := [] }, ⟨hid, hnode, .inr rfl, hdecided⟩, ?_⟩
    rw [hres]
    rfl

/-- A message leaves what the exclusion is about alone, or it is a membership list. -/
theorem twoNodeMessage_cases {cluster' : QnetdCluster} {id : ClientId} {msg : MsgDecoded}
    {log : List AlgoLog}
    (hreg : Registered TlvDecisionAlgorithmType.twoNodeLms.toUInt16 cluster)
    (h : clusterMessage settings env cluster id msg = .ok (cluster', log)) :
    SameTwoNodeView cluster cluster' ∨
      ∃ client client' ringId nodes heuristics c, cluster.client? id = some client ∧
        membershipOf? msg = some (ringId, nodes, heuristics) ∧
        qnetdClientMsgReceivedCheckTls settings client = .success client' ∧
        MembershipWrite (cluster.modifyClient client.id fun _ => client') client' ringId nodes
          heuristics c ∧
        SameTwoNodeView (cluster.modifyClient client.id fun _ => c) cluster' := by
  rcases clusterMessage_view ignoresConnection_twoNodeView hreg.ids h with
    ⟨-, hsame, -⟩ | ⟨client, client', type, call, result, res, hclient, htype, hcall, htls, hrun,
      hafter, -, hsame, -⟩
  · exact .inl hsame
  have huniq := hreg.client?_eq hclient
  have hid := checkTls_id htls
  have hreg₁ := hreg.of_same (sameRegistration_write huniq (checkTls_registration htls))
  have hmem' : client' ∈ (cluster.modifyClient client.id fun _ => client').clientList :=
    List.mem_map.mpr ⟨client, client?_mem hclient, by simp⟩
  have halgorithm := hreg₁.algorithm client' hmem'
  by_cases hmembership : ∃ ringId nodes heuristics, call = .membership ringId nodes heuristics
  · obtain ⟨ringId, nodes, heuristics, rfl⟩ := hmembership
    obtain ⟨c, hwrite, hcall'⟩ := membershipWrite_call halgorithm
      (fun d hd hdid => hreg₁.eq_of_id hd hmem' hdid) hrun hafter
    refine .inr ⟨client, client', ringId, nodes, heuristics, c, hclient, ?_, htls, hwrite, ?_⟩
    · simp [membershipOf?, htype, hcall]
    · rw [hid, modifyClient_modifyClient _ _ _ _ fun _ _ => hid] at hcall'
      exact hcall'.trans hsame
  · have hother : ∀ ringId nodes heuristics, call ≠ .membership ringId nodes heuristics :=
      fun ringId nodes heuristics heq => hmembership ⟨ringId, nodes, heuristics, heq⟩
    have hrunSame := (sameTwoNodeView_write huniq (checkTls_twoNodeView htls)).trans
      (sameTwoNodeView_run halgorithm hother hrun)
    refine .inl (.trans ?_ hsame)
    cases hafter with
    | failed _ hres => rw [hres]; exact hrunSame
    | stored _ hres =>
      rw [hres]
      exact hrunSame.trans (sameTwoNodeView_modifyClient _ _ fun c =>
        (twoNodeView_store result.resultVote hother c).1)
    | emptied _ _ hres =>
      rw [hres]
      exact hrunSame.trans (sameTwoNodeView_modifyClient _ _ fun c =>
        (twoNodeView_store result.resultVote hother c).2)

end Messages

/-! ### Runs -/

/-- What the two nodes do: they INIT with one of the two node ids, and report either themselves
    or both nodes.  The ring ids of the lists with one node are in `S`. -/
def TwoNodeRun (S : UInt32 → TlvRingId → Prop) (n₁ n₂ : UInt32) (cluster : QnetdCluster) :
    Env × ClusterEvent → Prop
  | (_, .init _ msg) =>
    msg.decisionAlgorithm = some TlvDecisionAlgorithmType.twoNodeLms.toUInt16 ∧
      (msg.nodeId = some n₁ ∨ msg.nodeId = some n₂)
  | (_, .message id msg) => ∀ c ∈ cluster.client? id, ∀ m ∈ membershipOf? msg,
      OnlyNode m.2.1 c.nodeId ∧ S c.nodeId m.1 ∨
        m.2.1.map (·.nodeId) = [n₁, n₂] ∨ m.2.1.map (·.nodeId) = [n₂, n₁]
  | _ => True

/-- No node that has been voting wins against a node that holds the vote. -/
def KeepsSplitVote (cluster : QnetdCluster) : Env × ClusterEvent → Prop
  | (_, .message id msg) => ∀ c ∈ cluster.client? id, ∀ m ∈ membershipOf? msg,
      OnlyNode m.2.1 c.nodeId → c.twoNodeLmsInfo.lastResult ≠ .undefined →
        ∀ d ∈ cluster.clientList, d.id ≠ c.id → HoldsSplitVote d → ¬ WinsAgainst c d m.2.2
  | _ => True

def TwoNodeOk (S : UInt32 → TlvRingId → Prop) (n₁ n₂ : UInt32) (cluster : QnetdCluster)
    (e : Env × ClusterEvent) : Prop :=
  TwoNodeRun S n₁ n₂ cluster e ∧ KeepsSplitVote cluster e

/-- What holds of the clients in every run without such a step. -/
structure SplitInv (S : UInt32 → TlvRingId → Prop) (n₁ n₂ : UInt32) (cluster : QnetdCluster) :
    Prop where
  nodes : ∀ c ∈ cluster.clientList, c.nodeId = n₁ ∨ c.nodeId = n₂
  rings : ∀ c ∈ cluster.clientList, OnlyNode c.lastMembershipNodeList c.nodeId →
    S c.nodeId c.lastRingId
  exclusive : ∀ c ∈ cluster.clientList, ∀ d ∈ cluster.clientList, c.id ≠ d.id →
    HoldsSplitVote c → ¬ HoldsSplitVote d

section Invariant

variable {S : UInt32 → TlvRingId → Prop} {n₁ n₂ : UInt32} {cluster cluster' : QnetdCluster}

theorem HoldsSplitVote.of_view {c c' : QnetdClient} (h : HoldsSplitVote c')
    (hview : c.twoNodeView = c'.twoNodeView) : HoldsSplitVote c := by
  have hnode : c.nodeId = c'.nodeId := congrArg TwoNodeView.nodeId hview
  have hlist : c.lastMembershipNodeList = c'.lastMembershipNodeList :=
    congrArg TwoNodeView.lastMembershipNodeList hview
  refine ⟨?_, (congrArg TwoNodeView.lastResult hview).trans h.2⟩
  rw [hlist, hnode]
  exact h.1

/-- Clients that were there before, and clients that have not sent a list yet. -/
theorem SplitInv.of_views (h : SplitInv S n₁ n₂ cluster)
    (hviews : ∀ c' ∈ cluster'.clientList, (c'.nodeId = n₁ ∨ c'.nodeId = n₂) ∧
      c'.lastMembershipNodeList = [] ∨ ∃ c ∈ cluster.clientList, c.twoNodeView = c'.twoNodeView) :
    SplitInv S n₁ n₂ cluster' := by
  have hempty {c' : QnetdClient} (hnil : c'.lastMembershipNodeList = []) :
      ¬ OnlyNode c'.lastMembershipNodeList c'.nodeId := by
    rw [hnil]
    exact fun heq => by cases heq
  constructor
  · intro c' hc'
    rcases hviews c' hc' with ⟨hnode, -⟩ | ⟨c, hc, hview⟩
    · exact hnode
    · have hnode : c.nodeId = c'.nodeId := congrArg TwoNodeView.nodeId hview
      exact hnode ▸ h.nodes c hc
  · intro c' hc' honly
    rcases hviews c' hc' with ⟨-, hnil⟩ | ⟨c, hc, hview⟩
    · exact absurd honly (hempty hnil)
    · have hnode : c.nodeId = c'.nodeId := congrArg TwoNodeView.nodeId hview
      have hlist : c.lastMembershipNodeList = c'.lastMembershipNodeList :=
        congrArg TwoNodeView.lastMembershipNodeList hview
      have hring : c.lastRingId = c'.lastRingId := congrArg TwoNodeView.lastRingId hview
      rw [← hnode, ← hring]
      exact h.rings c hc (by rw [hlist, hnode]; exact honly)
  · intro c' hc' d' hd' hne hholds hholds'
    rcases hviews c' hc' with ⟨-, hnil⟩ | ⟨c, hc, hview⟩
    · exact hempty hnil hholds.1
    · rcases hviews d' hd' with ⟨-, hnil⟩ | ⟨d, hd, hview'⟩
      · exact hempty hnil hholds'.1
      · refine h.exclusive c hc d hd (fun heq => hne ?_) (hholds.of_view hview)
          (hholds'.of_view hview')
        exact (congrArg TwoNodeView.id hview).symm.trans (heq.trans (congrArg TwoNodeView.id hview'))

theorem SplitInv.of_same (h : SplitInv S n₁ n₂ cluster) (hsame : SameTwoNodeView cluster cluster') :
    SplitInv S n₁ n₂ cluster' :=
  h.of_views fun _ hc' => .inr (List.exists_mem_of_map_eq hsame hc')

/-- Of three clients of two nodes, two are the same. -/
theorem eq_of_other (hreg : Registered TlvDecisionAlgorithmType.twoNodeLms.toUInt16 cluster)
    (h : SplitInv S n₁ n₂ cluster) {client d e : QnetdClient} (hclient : client ∈ cluster.clientList)
    (hd : d ∈ cluster.clientList) (he : e ∈ cluster.clientList) (hdne : d.id ≠ client.id)
    (hene : e.id ≠ client.id) : e = d := by
  have hdnode : d.nodeId ≠ client.nodeId :=
    fun heq => hdne (congrArg QnetdClient.id (hreg.eq_of_nodeId hd hclient heq))
  have henode : e.nodeId ≠ client.nodeId :=
    fun heq => hene (congrArg QnetdClient.id (hreg.eq_of_nodeId he hclient heq))
  refine hreg.eq_of_nodeId he hd ?_
  have hc := h.nodes client hclient
  have hd := h.nodes d hd
  have he := h.nodes e he
  grind

section Membership

variable {settings : Settings} {env : Env} {id : ClientId} {msg : MsgDecoded}
  {client client' c : QnetdClient} {ringId : TlvRingId} {nodes : NodeList}
  {heuristics : TlvHeuristics}
  (hreg : Registered TlvDecisionAlgorithmType.twoNodeLms.toUInt16 cluster)
  (h : SplitInv S n₁ n₂ cluster) (hok : TwoNodeOk S n₁ n₂ cluster (env, .message id msg))
  (hclient : cluster.client? id = some client)
  (hmsg : membershipOf? msg = some (ringId, nodes, heuristics))
  (htls : qnetdClientMsgReceivedCheckTls settings client = .success client')
  (hwrite : MembershipWrite (cluster.modifyClient client.id fun _ => client') client' ringId nodes
    heuristics c)

include hok hclient hmsg htls hwrite

/-- If the list that is now stored is the client itself, it was in the message with its ring. -/
private theorem membership_onlyNode (honly : OnlyNode c.lastMembershipNodeList c.nodeId) :
    OnlyNode nodes client.nodeId ∧ c.lastRingId = ringId ∧ S client.nodeId ringId := by
  have hnode : c.nodeId = client.nodeId :=
    hwrite.nodeId.trans (congrArg TwoNodeView.nodeId (checkTls_twoNodeView htls))
  rcases hwrite.stored with ⟨hlist, hring⟩ | hnil
  · rw [hlist, hnode] at honly
    refine ⟨honly, hring, ?_⟩
    rcases hok.1 client hclient _ hmsg with ⟨-, hS⟩ | hboth | hboth
    · exact hS
    · cases honly.symm.trans hboth
    · cases honly.symm.trans hboth
  · rw [hnil] at honly
    cases honly

include hreg h

/-- A client is not given the vote while another one holds it. -/
private theorem membership_exclusive (hS : ∀ r, ¬ (S n₁ r ∧ S n₂ r)) {d : QnetdClient}
    (hd : d ∈ cluster.clientList) (hne : d.id ≠ client.id) (hholds : HoldsSplitVote c)
    (hother : HoldsSplitVote d) : False := by
  obtain ⟨honly, -, hring⟩ := membership_onlyNode hok hclient hmsg htls hwrite hholds.1
  have hmem := client?_mem hclient
  have hid := checkTls_id htls
  have hd₁ : d ∈ (cluster.modifyClient client.id fun _ => client').clientList :=
    List.mem_map.mpr ⟨d, hd, by simp [hne]⟩
  have hnode : d.nodeId ≠ client.nodeId :=
    fun heq => hne (congrArg QnetdClient.id (hreg.eq_of_nodeId hd hmem heq))
  -- the ring of the other list is another one
  have hrings : ringId ≠ d.lastRingId := by
    intro heq
    have hringd := h.rings d hd hother.1
    rw [← heq] at hringd
    rcases h.nodes client hmem with hc | hc <;> rcases h.nodes d hd with hdn | hdn <;>
      rw [hc] at hring hnode <;> rw [hdn] at hringd hnode
    · exact hnode rfl
    · exact hS ringId ⟨hring, hringd⟩
    · exact hS ringId ⟨hringd, hring⟩
    · exact hnode rfl
  rcases hwrite.decided with ⟨hnew, hresult⟩ | ⟨hnew, vote, hresult, hvote⟩
  · -- a newcomer keeps its last result, which is none
    rw [hnew.1, hholds.2] at hresult
    cases hresult
  · have hvoted : client.twoNodeLmsInfo.lastResult ≠ .undefined := by
      intro hundefined
      refine hnew ⟨(congrArg TwoNodeView.lastResult (checkTls_twoNodeView htls)).trans hundefined, ?_⟩
      refine List.any_eq_true.mpr ⟨d, hd₁, ?_⟩
      have hneq : tlvRingIdEq ringId d.lastRingId = false :=
        Bool.eq_false_iff.mpr fun heq => hrings ((tlvRingIdEq_iff _ _).mp heq)
      rw [hneq, hother.2]
      rfl
    refine hok.2 client hclient _ hmsg honly hvoted d hd hne hother ?_
    have hmem₁ : client' ∈ (cluster.modifyClient client.id fun _ => client').clientList :=
      List.mem_map.mpr ⟨client, hmem, by simp⟩
    have hsize : nodeListSize nodes = 1 := by
      have := congrArg List.length honly
      simpa [nodeListSize] using this
    have hnode' : client'.nodeId = client.nodeId :=
      congrArg TwoNodeView.nodeId (checkTls_twoNodeView htls)
    have hwins := twoNodeLmsMembership_wins hsize hmem₁ hd₁ (hid ▸ hne) (hnode' ▸ hnode)
      (fun e he hene => ?_) hnew hvote (hresult.symm.trans hholds.2)
    · rcases checkTls_success htls with rfl | ⟨_, _, _, _, _, rfl⟩ <;> exact hwins
    · obtain ⟨e₀, he₀, ⟨-, rfl⟩ | ⟨hene₀, rfl⟩⟩ := mem_modifyClient he
      · exact absurd rfl hene
      · exact eq_of_other hreg h hmem hd he₀ hne hene₀

/-- A membership list keeps the exclusion. -/
theorem SplitInv.membership (hS : ∀ r, ¬ (S n₁ r ∧ S n₂ r)) :
    SplitInv S n₁ n₂ (cluster.modifyClient client.id fun _ => c) := by
  have hmem := client?_mem hclient
  have hnode : c.nodeId = client.nodeId :=
    hwrite.nodeId.trans (congrArg TwoNodeView.nodeId (checkTls_twoNodeView htls))
  have hcid : c.id = client.id := hwrite.id.trans (checkTls_id htls)
  constructor
  · intro e he
    obtain ⟨e₀, he₀, ⟨-, rfl⟩ | ⟨-, rfl⟩⟩ := mem_modifyClient he
    · exact hnode ▸ h.nodes client hmem
    · exact h.nodes _ he₀
  · intro e he honly
    obtain ⟨e₀, he₀, ⟨-, rfl⟩ | ⟨-, rfl⟩⟩ := mem_modifyClient he
    · obtain ⟨-, hring, hS⟩ := membership_onlyNode hok hclient hmsg htls hwrite honly
      rw [hnode, hring]
      exact hS
    · exact h.rings _ he₀ honly
  · intro e he d hd hne hholds hholds'
    have hexclusive := @membership_exclusive S n₁ n₂ cluster settings env id msg client client' c
      ringId nodes heuristics hreg h hok hclient hmsg htls hwrite hS
    obtain ⟨e₀, he₀, ⟨heid, rfl⟩ | ⟨heid, rfl⟩⟩ := mem_modifyClient he <;>
      obtain ⟨d₀, hd₀, ⟨hdid, rfl⟩ | ⟨hdid, rfl⟩⟩ := mem_modifyClient hd
    · exact hne rfl
    · exact hexclusive hd₀ hdid hholds hholds'
    · exact hexclusive he₀ heid hholds' hholds
    · exact h.exclusive _ he₀ _ hd₀ hne hholds hholds'

end Membership

/-- A client that joins has not sent a list. -/
theorem SplitInv.init {settings : Settings} {conn : Connection} {msg : MsgDecoded}
    (h : SplitInv S n₁ n₂ cluster)
    (halgorithm : msg.decisionAlgorithm = some TlvDecisionAlgorithmType.twoNodeLms.toUInt16)
    (hnode : msg.nodeId = some n₁ ∨ msg.nodeId = some n₂) :
    SplitInv S n₁ n₂ (clusterInit settings cluster conn msg) := by
  rcases clusterInit_cases settings cluster conn msg with
    hsame | ⟨joined, hnone, hfresh, hjnode, -, -, halg, -, hjoin⟩
  · rw [hsame]
    exact h
  · have halg' : joined.decisionAlgorithm = TlvDecisionAlgorithmType.twoNodeLms.toUInt16 :=
      Option.some.inj (halg.symm.trans halgorithm)
    have hnew : joined.nodeId = n₁ ∨ joined.nodeId = n₂ := by
      rw [hjnode] at hnode
      exact hnode.imp Option.some.inj Option.some.inj
    simp only [qnetdAlgorithmClientInit, halg', qnetdAlgorithmArray_twoNodeLms,
      twoNodeLmsClientInit] at hjoin
    rw [hjoin]
    -- what is written to the new client is none of its list
    refine h.of_views fun c' hc' => ?_
    obtain ⟨c₁, hc₁, hc'⟩ := mem_modifyClient hc'
    obtain ⟨c₀, hc₀, hc₁⟩ := mem_modifyClient hc₁
    rcases mem_insertClient.mp hc₀ with rfl | hc₀
    · left
      rcases hc' with ⟨-, rfl⟩ | ⟨-, rfl⟩ <;> rcases hc₁ with ⟨-, rfl⟩ | ⟨-, rfl⟩ <;>
        exact ⟨hnew, hfresh.lastMembershipNodeList⟩
    · have hne : c₀.id ≠ joined.id := fun heq => by
        have := List.find?_eq_none.mp hnone c₀ hc₀
        simp [heq, hfresh.id] at this
      obtain ⟨heq, -⟩ | ⟨-, rfl⟩ := hc₁
      · exact absurd heq hne
      · obtain ⟨heq, -⟩ | ⟨-, rfl⟩ := hc'
        · exact absurd heq hne
        · exact .inr ⟨_, hc₀, rfl⟩

theorem sameTwoNodeView_clusterAlgoTimer {env : Env} {id : ClientId} {log : List AlgoLog}
    (hreg : Registered TlvDecisionAlgorithmType.twoNodeLms.toUInt16 cluster)
    (h : clusterAlgoTimer env cluster id = .ok (cluster', log)) :
    SameTwoNodeView cluster cluster' := by
  simp only [clusterAlgoTimer] at h
  split at h
  · cases h
    rfl
  · next client hclient =>
    have halgorithm := hreg.algorithm client (client?_mem hclient)
    split at h
    · cases h
      rfl
    · simp only [qnetdClientAlgoTimerCallback, qnetdAlgorithmTimerCallback, halgorithm,
        qnetdAlgorithmArray_twoNodeLms] at h
      cases h
      exact sameTwoNodeView_modifyClient _ _ fun _ => rfl

/-- Every guarded event keeps the exclusion. -/
theorem SplitInv.step (hS : ∀ r, ¬ (S n₁ r ∧ S n₂ r)) {settings : Settings} {env : Env}
    {event : ClusterEvent} {log : List AlgoLog}
    (hreg : Registered TlvDecisionAlgorithmType.twoNodeLms.toUInt16 cluster)
    (h : SplitInv S n₁ n₂ cluster) (hok : TwoNodeOk S n₁ n₂ cluster (env, event))
    (hstep : clusterStep settings env cluster event = .ok (cluster', log)) :
    SplitInv S n₁ n₂ cluster' := by
  cases event with
  | init conn msg =>
    cases hstep
    exact h.init hok.1.1 hok.1.2
  | message id msg =>
    rcases twoNodeMessage_cases hreg hstep with
      hsame | ⟨client, client', ringId, nodes, heuristics, c, hclient, hmsg, htls, hwrite, hsame⟩
    · exact h.of_same hsame
    · exact (SplitInv.membership hreg h hok hclient hmsg htls hwrite hS).of_same hsame
  | algoTimer id => exact h.of_same (sameTwoNodeView_clusterAlgoTimer hreg hstep)
  | disconnect id down =>
    rcases clusterDisconnect_cases hstep with ⟨rfl, -⟩ | ⟨client, res, hclient, hres, -, rfl⟩
    · exact h
    · have hcluster : res.cluster = cluster := by
        have halgorithm := hreg.algorithm client (client?_mem hclient)
        simp only [qnetdAlgorithmClientDisconnect, halgorithm, qnetdAlgorithmArray_twoNodeLms,
          ite_self] at hres
        cases hres
        rfl
      rw [hcluster]
      exact h.of_views fun c hc => .inr ⟨c, (List.mem_filter.mp hc).1, rfl⟩

end Invariant

theorem TwoNodeRun.usesAlgorithm {S : UInt32 → TlvRingId → Prop} {n₁ n₂ : UInt32}
    {cluster : QnetdCluster} {e : Env × ClusterEvent} (h : TwoNodeRun S n₁ n₂ cluster e) :
    UsesAlgorithm .twoNodeLms e.2 := by
  obtain ⟨env, event⟩ := e
  cases event with
  | init conn msg => exact h.1
  | message | algoTimer | disconnect => trivial

/-- In every run of two nodes in which no node that has been voting wins against a node that holds
    the vote, the two do not both hold it. -/
theorem twoNodeLms_exclusion (S : UInt32 → TlvRingId → Prop) (n₁ n₂ : UInt32)
    (hS : ∀ r, ¬ (S n₁ r ∧ S n₂ r)) (settings : Settings) (id : ClusterId) (name : List UInt8)
    {cluster : QnetdCluster}
    (h : (clusterMachine settings id name).Reach (TwoNodeOk S n₁ n₂) cluster) :
    ¬ ∃ c ∈ cluster.clientList, ∃ d ∈ cluster.clientList, c.id ≠ d.id ∧
      (OnlyNode c.lastMembershipNodeList c.nodeId ∧ c.twoNodeLmsInfo.lastResult = .ack) ∧
      OnlyNode d.lastMembershipNodeList d.nodeId ∧ d.twoNodeLmsInfo.lastResult = .ack := by
  have hinv := Runs.Machine.Reach.invariant (fun cluster =>
    Registered TlvDecisionAlgorithmType.twoNodeLms.toUInt16 cluster ∧ SplitInv S n₁ n₂ cluster)
    ⟨registered_empty _ _ _, by constructor <;> simp [clusterMachine, emptyCluster]⟩
    (fun _ hinv hok hstep => ?_) h
  · rintro ⟨c, hc, d, hd, hne, hholds, hholds'⟩
    exact hinv.2.exclusive c hc d hd hne hholds hholds'
  · -- One step, for both halves of the invariant.
    obtain ⟨hreg, hsplit⟩ := hinv
    obtain ⟨log, hstep⟩ := clusterMachine_step hstep
    exact ⟨registered_clusterStep hreg hok.1.usesAlgorithm hstep, hsplit.step hS hreg hok hstep⟩

/-! ### Two concrete runs -/

instance {S : UInt32 → TlvRingId → Prop} [∀ n r, Decidable (S n r)] (n₁ n₂ : UInt32)
    (cluster : QnetdCluster) : DecidablePred (TwoNodeRun S n₁ n₂ cluster)
  | (_, .init _ _) => inferInstanceAs (Decidable (_ ∧ _))
  | (_, .message _ _) => inferInstanceAs (Decidable (∀ c ∈ _, _))
  | (_, .algoTimer _) | (_, .disconnect _ _) => isTrue trivial

instance (cluster : QnetdCluster) : DecidablePred (KeepsSplitVote cluster)
  | (_, .message _ _) => inferInstanceAs (Decidable (∀ c ∈ _, _))
  | (_, .init _ _) | (_, .algoTimer _) | (_, .disconnect _ _) => isTrue trivial

instance {S : UInt32 → TlvRingId → Prop} [∀ n r, Decidable (S n r)] (n₁ n₂ : UInt32)
    (cluster : QnetdCluster) : DecidablePred (TwoNodeOk S n₁ n₂ cluster) :=
  fun _ => inferInstanceAs (Decidable (_ ∧ _))

/-- A node that is alone forms a ring of its own. -/
def OwnRing (nodeId : UInt32) (ringId : TlvRingId) : Prop := ringId.nodeId = nodeId

instance (nodeId : UInt32) (ringId : TlvRingId) : Decidable (OwnRing nodeId ringId) :=
  inferInstanceAs (Decidable (_ = _))

/-- Nodes 1 and 2 run together, and then node 1 sees only itself; it has the lower node id. -/
def twoNodeSplit : List (Env × ClusterEvent) :=
  [(.ok, .init ⟨1, [97], false, false, none, none⟩ (initMsg .twoNodeLms ⟨.lowest, 0⟩ 1 ⟨1, 4⟩)),
    (.ok, .init ⟨2, [97], false, false, none, none⟩ (initMsg .twoNodeLms ⟨.lowest, 0⟩ 2 ⟨1, 4⟩)),
    (.ok, .message 1 (membershipNodeListMsg ⟨1, 4⟩ [1, 2] .undefined)),
    (.ok, .message 2 (membershipNodeListMsg ⟨1, 4⟩ [1, 2] .undefined)),
    (.ok, .message 1 (membershipNodeListMsg ⟨1, 8⟩ [1] .undefined))]

/-- Node 2 sees only itself too, without better heuristics: node 1 alone holds the vote. -/
theorem twoNodeLms_exclusion_split : ∃ cluster,
    (clusterMachine .plain 0 [97]).Reach (TwoNodeOk OwnRing 1 2) cluster ∧
    (∃ c ∈ cluster.clientList, HoldsSplitVote c) ∧
    ¬ ∃ c ∈ cluster.clientList, ∃ d ∈ cluster.clientList, c.id ≠ d.id ∧
      (OnlyNode c.lastMembershipNodeList c.nodeId ∧ c.twoNodeLmsInfo.lastResult = .ack) ∧
      OnlyNode d.lastMembershipNodeList d.nodeId ∧ d.twoNodeLmsInfo.lastResult = .ack := by
  have hrun : ((clusterMachine .plain 0 [97]).execWhile (fun s e => decide (TwoNodeOk OwnRing 1 2 s e))
      (clusterMachine .plain 0 [97]).init (twoNodeSplit ++
        [(.ok, .message 2 (membershipNodeListMsg ⟨2, 8⟩ [2] .undefined))])).any (fun cluster =>
        cluster.clientList.any fun c => decide (HoldsSplitVote c)) := by
    decide +kernel
  simp only [Option.any_eq_true, List.any_eq_true, decide_eq_true_eq] at hrun
  obtain ⟨cluster, hcluster, hholds⟩ := hrun
  have hreach : (clusterMachine .plain 0 [97]).Reach (TwoNodeOk OwnRing 1 2) cluster :=
    Runs.Machine.Reach.execWhile (fun _ _ h => of_decide_eq_true h) .init hcluster
  refine ⟨cluster, hreach, hholds, twoNodeLms_exclusion OwnRing 1 2 ?_ .plain 0 [97] hreach⟩
  rintro r ⟨h₁, h₂⟩
  exact absurd (h₁.symm.trans h₂) (by decide)

/-- Node 2 sees only itself, and its heuristics pass: it gets the vote that node 1 still holds. -/
theorem twoNodeLms_both_ack : ∃ cluster,
    (clusterMachine .plain 0 [97]).Reach (TwoNodeRun OwnRing 1 2) cluster ∧
    ∃ c ∈ cluster.clientList, ∃ d ∈ cluster.clientList, c.id ≠ d.id ∧
      (OnlyNode c.lastMembershipNodeList c.nodeId ∧ c.twoNodeLmsInfo.lastResult = .ack) ∧
      OnlyNode d.lastMembershipNodeList d.nodeId ∧ d.twoNodeLmsInfo.lastResult = .ack := by
  have hrun : ((clusterMachine .plain 0 [97]).execWhile (fun s e => decide (TwoNodeRun OwnRing 1 2 s e))
      (clusterMachine .plain 0 [97]).init (twoNodeSplit ++
        [(.ok, .message 2 (membershipNodeListMsg ⟨2, 8⟩ [2] .pass))])).any (fun cluster =>
        cluster.clientList.any fun c => cluster.clientList.any fun d =>
          decide (c.id ≠ d.id) && (decide (HoldsSplitVote c) && decide (HoldsSplitVote d))) := by
    decide +kernel
  simp only [Option.any_eq_true, List.any_eq_true, Bool.and_eq_true, decide_eq_true_eq] at hrun
  obtain ⟨cluster, hcluster, c, hc, d, hd, hne, hholds, hholds'⟩ := hrun
  exact ⟨cluster, Runs.Machine.Reach.execWhile (fun _ _ h => of_decide_eq_true h) .init hcluster,
    c, hc, d, hd, hne, hholds, hholds'⟩

end Qdevice.Qnetd
