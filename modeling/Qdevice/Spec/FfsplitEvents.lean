import Qdevice.Spec.FfsplitVotes

/-! # What one event does to the votes of an ffsplit cluster

Only `ffsplitDo` and `ffsplitVoteInfoReplyReceived` touch the votes.  Everything else an event
does (the TLS check, storing what the message carried, scheduling a disconnect) keeps the
`ballot` of every client, so an event is one of these two calls between two steps that keep the
ballots. -/

namespace Qdevice.Qnetd

/-- The fields of a client that ffsplit's votes are about. -/
structure Ballot where
  id : ClientId
  nodeId : UInt32
  data : FfsplitClientData
  voteInfos : List VoteInfo

def QnetdClient.ballot (c : QnetdClient) : Ballot :=
  ⟨c.id, c.nodeId, c.ffsplitData, c.voteInfos⟩

/-- Every client of `clients'` is one of `clients` with the same ballot. -/
def KeepsBallots (clients clients' : List QnetdClient) : Prop :=
  ∀ c' ∈ clients', ∃ c ∈ clients, c'.ballot = c.ballot

theorem KeepsBallots.refl (clients : List QnetdClient) : KeepsBallots clients clients :=
  fun c hc => ⟨c, hc, rfl⟩

theorem KeepsBallots.trans {cs₁ cs₂ cs₃ : List QnetdClient} (h₁₂ : KeepsBallots cs₁ cs₂)
    (h₂₃ : KeepsBallots cs₂ cs₃) : KeepsBallots cs₁ cs₃ := by
  intro c₃ hc₃
  obtain ⟨c₂, hc₂, h₃⟩ := h₂₃ c₃ hc₃
  obtain ⟨c₁, hc₁, h₂⟩ := h₁₂ c₂ hc₂
  exact ⟨c₁, hc₁, h₃.trans h₂⟩

/-- The same, and the ring ids are kept as well. -/
def KeepsRings (clients clients' : List QnetdClient) : Prop :=
  ∀ c' ∈ clients', ∃ c ∈ clients, c'.ballot = c.ballot ∧ c'.lastRingId = c.lastRingId

theorem KeepsRings.refl (clients : List QnetdClient) : KeepsRings clients clients :=
  fun c hc => ⟨c, hc, rfl, rfl⟩

theorem KeepsRings.ballots {clients clients' : List QnetdClient} (h : KeepsRings clients clients') :
    KeepsBallots clients clients' := by
  intro c' hc'
  obtain ⟨c, hc, hballot, -⟩ := h c' hc'
  exact ⟨c, hc, hballot⟩

theorem KeepsRings.trans {cs₁ cs₂ cs₃ : List QnetdClient} (h₁₂ : KeepsRings cs₁ cs₂)
    (h₂₃ : KeepsRings cs₂ cs₃) : KeepsRings cs₁ cs₃ := by
  intro c₃ hc₃
  obtain ⟨c₂, hc₂, h₃, hr₃⟩ := h₂₃ c₃ hc₃
  obtain ⟨c₁, hc₁, h₂, hr₂⟩ := h₁₂ c₂ hc₂
  exact ⟨c₁, hc₁, h₃.trans h₂, hr₃.trans hr₂⟩

theorem keepsRings_modifyClient (cluster : QnetdCluster) (id : ClientId)
    {f : QnetdClient → QnetdClient} (h : ∀ c ∈ cluster.clientList, c.id = id →
      (f c).ballot = c.ballot ∧ (f c).lastRingId = c.lastRingId) :
    KeepsRings cluster.clientList (cluster.modifyClient id f).clientList := by
  intro c' hc'
  obtain ⟨c, hc, ⟨hid, rfl⟩ | ⟨-, rfl⟩⟩ := mem_modifyClient hc'
  · exact ⟨c, hc, h c hc hid⟩
  · exact ⟨_, hc, rfl, rfl⟩

theorem keepsBallots_modifyClient (cluster : QnetdCluster) (id : ClientId)
    {f : QnetdClient → QnetdClient}
    (h : ∀ c ∈ cluster.clientList, c.id = id → (f c).ballot = c.ballot) :
    KeepsBallots cluster.clientList (cluster.modifyClient id f).clientList := by
  intro c' hc'
  obtain ⟨c, hc, ⟨hid, rfl⟩ | ⟨-, rfl⟩⟩ := mem_modifyClient hc'
  · exact ⟨c, hc, h c hc hid⟩
  · exact ⟨_, hc, rfl⟩

/-- The TLS check keeps everything ffsplit reads. -/
theorem checkTls_ballot {settings : Settings} {client client' : QnetdClient}
    (h : qnetdClientMsgReceivedCheckTls settings client = .success client') :
    client'.ballot = client.ballot ∧ client'.lastRingId = client.lastRingId ∧
      client'.decisionAlgorithm = client.decisionAlgorithm := by
  rcases checkTls_success h with rfl | ⟨_, _, _, _, _, rfl⟩
  · exact ⟨rfl, rfl, rfl⟩
  · exact ⟨rfl, rfl, rfl⟩

theorem AlgoCall.ballot_store (vote : TlvVote) (call : AlgoCall) (c : QnetdClient) :
    (call.store vote c).ballot = c.ballot := by
  cases call <;> rfl

theorem AlgoCall.ballot_emptied (call : AlgoCall) (c : QnetdClient) :
    (call.emptied c).ballot = c.ballot := by
  cases call <;> rfl

theorem qnetdAlgorithmArray_ffsplit :
    qnetdAlgorithmArray TlvDecisionAlgorithmType.ffsplit.toUInt16 = some .ffsplit := by
  decide

/-- The ring id a callback works with. -/
def AlgoCall.ringId (client : QnetdClient) : AlgoCall → TlvRingId
  | .membership ringId .. => ringId
  | .config .. | .quorum _ | .askForVote | .voteInfoReply _ | .heuristicsChange _ =>
    client.lastRingId

/-- A callback of ffsplit that is not a reply does nothing or decides. -/
theorem AlgoCall.run_ffsplit {env : Env} {cluster : QnetdCluster} {client : QnetdClient}
    {call : AlgoCall} {result : AlgoResult}
    (halgorithm : client.decisionAlgorithm = TlvDecisionAlgorithmType.ffsplit.toUInt16)
    (hreply : ∀ seq, call ≠ .voteInfoReply seq) (h : call.run env cluster client = .ok result) :
    (result.cluster = cluster ∧ result.log = []) ∨
      ∃ config membership heuristics, ffsplitDo env cluster client false (call.ringId client) config
        membership heuristics = .ok result := by
  cases call with
  | config nodes version initial =>
    simp only [run, qnetdAlgorithmConfigNodeListReceived, halgorithm,
      qnetdAlgorithmArray_ffsplit, ffsplitConfigNodeListReceived] at h
    split at h
    · cases h; exact .inl ⟨rfl, rfl⟩
    · split at h
      · cases h; exact .inl ⟨rfl, rfl⟩
      · split at h
        · cases h; exact .inl ⟨rfl, rfl⟩
        · exact .inr ⟨_, _, _, h⟩
  | membership ringId nodes heuristics =>
    simp only [run, qnetdAlgorithmMembershipNodeListReceived, halgorithm,
      qnetdAlgorithmArray_ffsplit, ffsplitMembershipNodeListReceived] at h
    split at h
    · cases h; exact .inl ⟨rfl, rfl⟩
    · split at h
      · cases h; exact .inl ⟨rfl, rfl⟩
      · split at h
        · cases h; exact .inl ⟨rfl, rfl⟩
        · exact .inr ⟨_, _, _, h⟩
  | quorum nodes =>
    simp only [run, qnetdAlgorithmQuorumNodeListReceived, halgorithm,
      qnetdAlgorithmArray_ffsplit] at h
    cases h; exact .inl ⟨rfl, rfl⟩
  | askForVote =>
    simp only [run, qnetdAlgorithmAskForVoteReceived, halgorithm, qnetdAlgorithmArray_ffsplit] at h
    cases h; exact .inl ⟨rfl, rfl⟩
  | voteInfoReply seq => exact absurd rfl (hreply seq)
  | heuristicsChange heuristics =>
    simp only [run, qnetdAlgorithmHeuristicsChangeReceived, halgorithm,
      qnetdAlgorithmArray_ffsplit, ffsplitHeuristicsChangeReceived] at h
    split at h
    · cases h; exact .inl ⟨rfl, rfl⟩
    · exact .inr ⟨_, _, _, h⟩

/-! ### Messages -/

/-- What is left of a client after a callback worked with the ring id `ringId` of `client`: its
    ballot, and its ring id unless the client reported `reported`. -/
structure AfterRing (client : QnetdClient) (ringId : TlvRingId) (reported : Option TlvRingId)
    (c c' : QnetdClient) : Prop where
  ballot : c'.ballot = c.ballot
  other : c.id ≠ client.id → c'.lastRingId = c.lastRingId
  own : c.id = client.id → c.lastRingId = client.lastRingId →
    c'.lastRingId = ringId ∨ reported = some ringId

/-- A message of a client of an ffsplit cluster, if it is not a reply to a vote info. -/
inductive MessageCase (env : Env) (cluster : QnetdCluster) (id : ClientId) (msg : MsgDecoded)
    (cluster' : QnetdCluster) (log : List AlgoLog) : Prop where
  /-- Nothing is decided. -/
  | quiet (hdata : cluster'.algorithmData = cluster.algorithmData)
      (hkeeps : KeepsBallots cluster.clientList cluster'.clientList) (hlog : log = [])
  /-- The message leads to a decision. -/
  | decided (client : QnetdClient) (cluster₁ : QnetdCluster) (ringId : TlvRingId)
      (config membership : NodeList) (heuristics : TlvHeuristics) (result : AlgoResult)
      (hid : client.id = id) (hclient : client ∈ cluster₁.clientList)
      (hsame : SameRegistration cluster cluster₁)
      (hbefore : KeepsRings cluster.clientList cluster₁.clientList)
      (hdo : ffsplitDo env cluster₁ client false ringId config membership heuristics = .ok result)
      (hdata : cluster'.algorithmData = result.cluster.algorithmData)
      (hafter : ∀ c' ∈ cluster'.clientList, ∃ c ∈ result.cluster.clientList,
        AfterRing client ringId msg.ringId c c') (hlog : log = result.log)

theorem keepsRings_scheduleDisconnect (cluster : QnetdCluster) (id : ClientId) :
    KeepsRings cluster.clientList (cluster.scheduleDisconnect id).clientList :=
  keepsRings_modifyClient cluster id fun _ _ _ => ⟨rfl, rfl⟩

/-- Scheduling a disconnect after the message changes nothing about the case. -/
theorem MessageCase.scheduleDisconnect {env : Env} {cluster cluster' : QnetdCluster}
    {id : ClientId} {msg : MsgDecoded} {log : List AlgoLog}
    (h : MessageCase env cluster id msg cluster' log) :
    MessageCase env cluster id msg (cluster'.scheduleDisconnect id) log := by
  have hkeeps := keepsRings_scheduleDisconnect cluster' id
  cases h with
  | quiet hdata hkept hlog => exact .quiet hdata (hkept.trans hkeeps.ballots) hlog
  | decided client cluster₁ ringId config membership heuristics result hid hclient hsame hbefore hdo
      hdata hafter hlog =>
    refine .decided client cluster₁ ringId config membership heuristics result hid hclient hsame
      hbefore hdo hdata (fun c' hc' => ?_) hlog
    obtain ⟨c₁, hc₁, hballot, hring⟩ := hkeeps c' hc'
    obtain ⟨c, hc, hringafter⟩ := hafter c₁ hc₁
    exact ⟨c, hc, hballot.trans hringafter.ballot, fun hid => hring.trans (hringafter.other hid),
      fun hid hlast => hring ▸ hringafter.own hid hlast⟩

/-- A reply comes in a message of its own type. -/
theorem AlgoCall.ofMsg?_voteInfoReply {type : MsgType} {msg : MsgDecoded} {seq : UInt32}
    (h : AlgoCall.ofMsg? type msg = some (.voteInfoReply seq)) :
    type = .voteInfoReply := by
  simp only [ofMsg?] at h
  split at h
  · split at h <;> simp_all
  all_goals simp_all

/-- The ring id a callback leaves in the sender: the one it worked with, or the message carried
    that one. -/
theorem AlgoCall.afterRing {type : MsgType} {msg : MsgDecoded} {call : AlgoCall}
    {c c' : QnetdClient} (client : QnetdClient) (vote : TlvVote)
    (hcall : AlgoCall.ofMsg? type msg = some call)
    (hc' : c' = call.store vote c ∨ c' = call.emptied c ∨ c' = c) :
    c'.ballot = c.ballot ∧ (c.lastRingId = client.lastRingId →
      c'.lastRingId = call.ringId client ∨ msg.ringId = some (call.ringId client)) := by
  refine ⟨?_, fun hlast => ?_⟩
  · rcases hc' with rfl | rfl | rfl
    · exact ballot_store ..
    · exact ballot_emptied ..
    · rfl
  · cases call with
    | membership ringId nodes heuristics =>
      -- the only callback with a ring id of its own takes it from the message
      refine .inr ?_
      simp only [ofMsg?] at hcall
      split at hcall
      · split at hcall <;> simp_all [AlgoCall.ringId]
      all_goals simp_all
    | config | quorum | askForVote | voteInfoReply | heuristicsChange =>
      rcases hc' with rfl | rfl | rfl
      · exact .inl hlast
      · exact .inl hlast
      · exact .inl hlast

/-- Every message that is not a reply to a vote info falls under `MessageCase`. -/
theorem ffsplit_message_cases {settings : Settings} {env : Env} {cluster cluster' : QnetdCluster}
    {id : ClientId} {msg : MsgDecoded} {log : List AlgoLog}
    (hreg : Registered TlvDecisionAlgorithmType.ffsplit.toUInt16 cluster)
    (hreply : MsgType.ofUInt16? msg.type ≠ some .voteInfoReply)
    (h : clusterMessage settings env cluster id msg = .ok (cluster', log)) :
    MessageCase env cluster id msg cluster' log := by
  rcases clusterMessage_cases hreg.ids h with
    ⟨rfl, rfl⟩ | ⟨client, type, res, hclient, -, htype, hcase, rfl, rfl⟩
  · exact .quiet rfl (.refl _) rfl
  · have huniq := hreg.client?_eq hclient
    have hmem := client?_mem hclient
    suffices hres : MessageCase env cluster id msg res.cluster res.log by
      split
      · exact hres.scheduleDisconnect
      · exact hres
    cases hcase with
    | same hcluster hlog => exact .quiet (by rw [hcluster]) (by rw [hcluster]; exact .refl _) hlog
    | preinit htype name pre hname hpre hcluster hlog =>
      rw [hcluster]
      exact .quiet rfl (keepsBallots_modifyClient _ _ fun c hc hid => by rw [huniq c hc hid]; rfl)
        hlog
    | starttls htype hpre cert hcluster hlog =>
      rw [hcluster]
      exact .quiet rfl (keepsBallots_modifyClient _ _ fun c hc hid => by rw [huniq c hc hid]; rfl)
        hlog
    | quiet client' htls hb dpd keep hcluster hlog =>
      rw [hcluster]
      refine .quiet rfl (keepsBallots_modifyClient _ _ fun c hc hid => ?_) hlog
      rw [huniq c hc hid]
      exact (checkTls_ballot htls).1
    | call client' htls hinit call result hcall hrun hafter hlog =>
      obtain ⟨hballot, hring, halg⟩ := checkTls_ballot htls
      have hid : client'.id = client.id := congrArg Ballot.id hballot
      have hwrite : ∀ c ∈ cluster.clientList, c.id = client.id →
          client'.ballot = c.ballot ∧ client'.lastRingId = c.lastRingId := by
        intro c hc hcid
        rw [huniq c hc hcid]
        exact ⟨hballot, hring⟩
      have hsame : SameRegistration cluster (cluster.modifyClient client.id fun _ => client') :=
        sameRegistration_write huniq (checkTls_registration htls)
      have hmem' : client' ∈ (cluster.modifyClient client.id fun _ => client').clientList :=
        List.mem_map.mpr ⟨client, hmem, by simp⟩
      have hbefore := keepsRings_modifyClient cluster client.id hwrite
      generalize hcluster₁ : (cluster.modifyClient client.id fun _ => client') = cluster₁ at *
      have hdata₁ : cluster₁.algorithmData = cluster.algorithmData := by rw [← hcluster₁]; rfl
      clear hcluster₁
      -- storing what the message carried only touches the sender
      obtain ⟨hdata, hstored⟩ : res.cluster.algorithmData = result.cluster.algorithmData ∧
          ∀ c' ∈ res.cluster.clientList, ∃ c ∈ result.cluster.clientList,
            AfterRing client' (call.ringId client') msg.ringId c c' := by
        have hown {c c' : QnetdClient} (hc' : c' = call.store result.resultVote c ∨
            c' = call.emptied c ∨ c' = c) (hid : c.id = client'.id) :
            AfterRing client' (call.ringId client') msg.ringId c c' :=
          have hring := AlgoCall.afterRing client' _ hcall hc'
          ⟨hring.1, fun hne => absurd hid hne, fun _ => hring.2⟩
        have hother {c : QnetdClient} (hid : c.id ≠ client'.id) :
            AfterRing client' (call.ringId client') msg.ringId c c :=
          ⟨rfl, fun _ => rfl, fun heq => absurd heq hid⟩
        cases hafter with
        | failed hcode hcluster =>
          rw [hcluster]
          refine ⟨rfl, fun c hc => ⟨c, hc, ?_⟩⟩
          by_cases hid : c.id = client'.id
          · exact hown (.inr (.inr rfl)) hid
          · exact hother hid
        | stored hcode hcluster =>
          rw [hcluster]
          refine ⟨rfl, fun c' hc' => ?_⟩
          obtain ⟨c, hc, ⟨hid, hc'⟩ | ⟨hid, rfl⟩⟩ := mem_modifyClient hc'
          · exact ⟨c, hc, hown (.inl hc') hid⟩
          · exact ⟨_, hc, hother hid⟩
        | emptied hcode hdisconnect hcluster =>
          rw [hcluster]
          refine ⟨rfl, fun c' hc' => ?_⟩
          obtain ⟨c, hc, ⟨hid, hc'⟩ | ⟨hid, rfl⟩⟩ := mem_modifyClient hc'
          · exact ⟨c, hc, hown (.inr (.inl hc')) hid⟩
          · exact ⟨_, hc, hother hid⟩
      have halg' : client'.decisionAlgorithm = TlvDecisionAlgorithmType.ffsplit.toUInt16 :=
        halg.trans (hreg.algorithm client hmem)
      have hnot : ∀ seq, call ≠ .voteInfoReply seq := by
        rintro seq rfl
        exact hreply (htype.trans (congrArg some (AlgoCall.ofMsg?_voteInfoReply hcall)))
      rcases AlgoCall.run_ffsplit halg' hnot hrun with
        ⟨hcluster, hlog'⟩ | ⟨config, membership, heuristics, hdo⟩
      · refine .quiet (by rw [hdata, hcluster, hdata₁]) (hbefore.ballots.trans fun c' hc' => ?_)
          (hlog.trans hlog')
        obtain ⟨c, hc, hafter⟩ := hstored c' hc'
        exact ⟨c, hcluster ▸ hc, hafter.ballot⟩
      · exact .decided client' cluster₁ _ config membership heuristics result
          (hid.trans (client?_id hclient)) hmem' hsame hbefore hdo hdata hstored hlog

/-! ### The other events -/

/-- ffsplit has no timer. -/
theorem ffsplit_algoTimer {env : Env} {cluster cluster' : QnetdCluster} {id : ClientId}
    {log : List AlgoLog}
    (hreg : Registered TlvDecisionAlgorithmType.ffsplit.toUInt16 cluster)
    (h : clusterAlgoTimer env cluster id = .ok (cluster', log)) :
    cluster'.algorithmData = cluster.algorithmData ∧
      KeepsRings cluster.clientList cluster'.clientList ∧ log = [] := by
  simp only [clusterAlgoTimer] at h
  split at h
  · cases h
    exact ⟨rfl, .refl _, rfl⟩
  · next client hclient =>
    split at h
    · cases h
      exact ⟨rfl, .refl _, rfl⟩
    · have halg := hreg.algorithm client (client?_mem hclient)
      simp only [qnetdClientAlgoTimerCallback, qnetdAlgorithmTimerCallback, halg,
        qnetdAlgorithmArray_ffsplit] at h
      cases h
      exact ⟨rfl, keepsRings_modifyClient _ _ fun _ _ _ => ⟨rfl, rfl⟩, rfl⟩

/-- What a disconnect from an ffsplit cluster does. -/
inductive DisconnectCase (env : Env) (cluster cluster' : QnetdCluster) (log : List AlgoLog) :
    Prop where
  /-- Nothing is decided: there was no such client, or the whole server goes down. -/
  | quiet (hdata : cluster'.algorithmData = cluster.algorithmData)
      (hclients : ∀ c ∈ cluster'.clientList, c ∈ cluster.clientList) (hlog : log = [])
  /-- The last client leaves. -/
  | last (hdata : cluster'.algorithmData = {}) (hclients : cluster'.clientList = [])
  /-- The other clients get a decision. -/
  | decided (client : QnetdClient) (ringId : TlvRingId) (config membership : NodeList)
      (heuristics : TlvHeuristics) (result : AlgoResult) (hclient : client ∈ cluster.clientList)
      (hdo : ffsplitDo env cluster client true ringId config membership heuristics = .ok result)
      (hdata : cluster'.algorithmData = result.cluster.algorithmData)
      (hclients : ∀ c ∈ cluster'.clientList, c ∈ result.cluster.clientList ∧ c.id ≠ client.id)
      (hlog : log = result.log)

theorem ffsplit_disconnect_cases {env : Env} {cluster cluster' : QnetdCluster} {id : ClientId}
    {down : Bool} {log : List AlgoLog}
    (hreg : Registered TlvDecisionAlgorithmType.ffsplit.toUInt16 cluster)
    (h : clusterDisconnect env cluster id down = .ok (cluster', log)) :
    DisconnectCase env cluster cluster' log := by
  rcases clusterDisconnect_cases h with ⟨rfl, rfl, -⟩ | ⟨client, res, hclient, hres, rfl, rfl⟩
  · exact .quiet rfl (fun _ hc => hc) rfl
  · have hmem := client?_mem hclient
    have hid := client?_id hclient
    simp only [hreg.init client hmem, if_true, qnetdAlgorithmClientDisconnect,
      hreg.algorithm client hmem, qnetdAlgorithmArray_ffsplit, ffsplitClientDisconnect] at hres
    split at hres
    · cases hres
    · next result hdecided =>
      have hsame : SameFixed cluster result.cluster := by
        split at hdecided
        · cases hdecided; rfl
        · exact (sameKept_ffsplitDo hdecided).fixed
      split at hres
      · next hsize =>
        -- the only client is the one that leaves
        cases hres
        refine .last rfl ?_
        obtain ⟨c, hc⟩ := List.length_eq_one_iff.mp hsize
        have hcid : c.id = id := by
          have hlen : cluster.clientList.map (·.id) = [c.id] := by
            have := List.map_comp_of_map_eq Fixed.id hsame
            rw [hc] at this
            exact this.symm
          have hin := List.mem_map_of_mem (f := fun c : QnetdClient => c.id) hmem
          rw [hlen, List.mem_singleton] at hin
          exact hin.symm.trans hid
        simp [hc, hcid]
      · cases hres
        split at hdecided
        · cases hdecided
          exact .quiet rfl (fun c hc => (List.mem_filter.mp hc).1) rfl
        · refine .decided client client.lastRingId client.configurationNodeList
            client.lastMembershipNodeList client.lastHeuristics _ hmem hdecided rfl
            (fun c hc => ?_) rfl
          obtain ⟨hc, hne⟩ := List.mem_filter.mp hc
          exact ⟨hc, by rw [hid]; simpa using hne⟩

/-- What an INIT does to an ffsplit cluster: it adds at most one client without votes. -/
theorem ffsplit_init_cases (settings : Settings) (cluster : QnetdCluster) (conn : Connection)
    {msg : MsgDecoded}
    (halgorithm : msg.decisionAlgorithm = some TlvDecisionAlgorithmType.ffsplit.toUInt16) :
    let cluster' := clusterInit settings cluster conn msg
    (cluster'.algorithmData = cluster.algorithmData ∨
        cluster'.algorithmData = {} ∧ cluster.clientList = []) ∧
      ∀ c' ∈ cluster'.clientList, c' ∈ cluster.clientList ∨
        (cluster.client? conn.id = none ∧ c'.id = conn.id ∧ c'.voteInfos = [] ∧
          c'.ffsplitData = {}) := by
  rcases clusterInit_cases settings cluster conn msg with
    hsame | ⟨joined, hnone, hfresh, -, -, -, halg, -, hjoin⟩
  · rw [hsame]
    exact ⟨.inl rfl, fun c' hc' => .inl hc'⟩
  · rw [hjoin]
    have halg' : joined.decisionAlgorithm = TlvDecisionAlgorithmType.ffsplit.toUInt16 := by
      rw [halgorithm] at halg
      exact (Option.some.inj halg).symm
    simp only [qnetdAlgorithmClientInit, halg', qnetdAlgorithmArray_ffsplit]
    refine ⟨?_, fun c' hc' => ?_⟩
    · simp only [ffsplitClientInit, QnetdCluster.modifyClient_algorithmData]
      split
      · next hsize =>
        refine .inr ⟨rfl, ?_⟩
        have := (insertClient_perm joined cluster.clientList).length_eq
        simp only [qnetdClusterSize, joinedCluster] at hsize
        rw [hsize, List.length_cons] at this
        exact List.length_eq_zero_iff.mp (by omega)
      · exact .inl rfl
    · -- both writes are to the new client
      obtain ⟨c₁, hc₁, hcase₁⟩ := mem_modifyClient hc'
      have hc₁' : c₁ ∈ ((joinedCluster cluster joined).modifyClient joined.id fun c =>
          { c with ffsplitData := {} }).clientList := by
        simp only [ffsplitClientInit] at hc₁
        split at hc₁ <;> exact hc₁
      obtain ⟨c, hc, hcase⟩ := mem_modifyClient hc₁'
      rcases mem_insertClient.mp hc with rfl | hc
      · rcases hcase with ⟨-, rfl⟩ | ⟨hne, -⟩
        · rcases hcase₁ with ⟨-, rfl⟩ | ⟨hne, -⟩
          · exact .inr ⟨hnone, hfresh.id, hfresh.voteInfos, rfl⟩
          · exact absurd rfl hne
        · exact absurd rfl hne
      · have hne : c.id ≠ joined.id := fun hid => by
          have := List.find?_eq_none.mp hnone c hc
          simp [hid, hfresh.id] at this
        rcases hcase with ⟨hid, -⟩ | ⟨-, rfl⟩
        · exact absurd hid hne
        · rcases hcase₁ with ⟨hid, -⟩ | ⟨-, rfl⟩
          · exact absurd hid hne
          · exact .inl hc

/-! ### The change of the ballots -/

/-- The vote infos of a client before and after an event in which it is sent `vote`.  The new one
    carries the next number, and the ring id that the client has now or has just reported. -/
inductive SentVote (reported : Option TlvRingId) (c c' : QnetdClient) : Option TlvVote → Prop where
  | none (hvotes : c'.voteInfos = c.voteInfos)
      (hseq : c'.ffsplitData.voteInfoExpectedSeqNum = c.ffsplitData.voteInfoExpectedSeqNum) :
      SentVote reported c c' none
  | some (v : VoteInfo) (hvotes : c'.voteInfos = c.voteInfos ++ [v])
      (hseq : c'.ffsplitData.voteInfoExpectedSeqNum = c.ffsplitData.voteInfoExpectedSeqNum + 1)
      (hnumber : v.msgSeqNumber = c.ffsplitData.voteInfoExpectedSeqNum + 1)
      (hring : v.ringId = c'.lastRingId ∨ reported = some v.ringId) {vote : TlvVote}
      (hvote : v.vote = vote) : SentVote reported c c' (some vote)

/-- A client before and after an event that gives it a state and sends it at most one vote. -/
structure CastVote (reported : Option TlvRingId) (state : FfsplitClientState)
    (vote : Option TlvVote) (c c' : QnetdClient) : Prop where
  id : c'.id = c.id
  nodeId : c'.nodeId = c.nodeId
  state : c'.ffsplitData.clientState = state
  sent : SentVote reported c c' vote

/-- An event that keeps the ballot. -/
theorem CastVote.of_ballot {reported : Option TlvRingId} {c c' : QnetdClient}
    (h : c'.ballot = c.ballot) : CastVote reported c.ffsplitData.clientState none c c' := by
  have hdata : c'.ffsplitData = c.ffsplitData := congrArg Ballot.data h
  exact ⟨congrArg Ballot.id h, congrArg Ballot.nodeId h, by rw [hdata],
    .none (congrArg Ballot.voteInfos h) (by rw [hdata])⟩

/-- A vote between two steps that keep the ballot. -/
theorem Voted.castVote {env : Env} {ringId : TlvRingId} {state : FfsplitClientState}
    {vote : Option TlvVote} {reported : Option TlvRingId} {c c₁ c₂ c' : QnetdClient}
    (h : Voted env ringId state vote c₁ c₂) (hbefore : c₁.ballot = c.ballot)
    (hafter : c'.ballot = c₂.ballot) (hring : ringId = c'.lastRingId ∨ reported = some ringId) :
    CastVote reported state vote c c' := by
  have hdata₁ : c₁.ffsplitData = c.ffsplitData := congrArg Ballot.data hbefore
  have hdata : c'.ffsplitData = c₂.ffsplitData := congrArg Ballot.data hafter
  have hvotes₁ : c₁.voteInfos = c.voteInfos := congrArg Ballot.voteInfos hbefore
  have hvotes : c'.voteInfos = c₂.voteInfos := congrArg Ballot.voteInfos hafter
  have hid₁ : c₁.id = c.id := congrArg Ballot.id hbefore
  have hid : c'.id = c₂.id := congrArg Ballot.id hafter
  have hnode₁ : c₁.nodeId = c.nodeId := congrArg Ballot.nodeId hbefore
  have hnode : c'.nodeId = c₂.nodeId := congrArg Ballot.nodeId hafter
  obtain ⟨hfixed, -, hstate, hsent⟩ := h
  refine ⟨(hid.trans (congrArg Fixed.id hfixed)).trans hid₁,
    (hnode.trans (congrArg Fixed.nodeId hfixed)).trans hnode₁, hdata ▸ hstate, ?_⟩
  cases hsent with
  | none hvotes' hseq =>
    exact .none (by rw [hvotes, hvotes', hvotes₁]) (by rw [hdata, hseq, hdata₁])
  | some hvotes' hseq =>
    exact .some _ (by rw [hvotes, hvotes', hvotes₁]) (by rw [hdata, hseq, hdata₁])
      (by rw [hdata₁]) hring rfl

/-- A vote after a step that keeps the ballot. -/
theorem CastVote.of_before {reported : Option TlvRingId} {state : FfsplitClientState}
    {vote : Option TlvVote} {c c₁ c' : QnetdClient} (h : CastVote reported state vote c₁ c')
    (hbefore : c₁.ballot = c.ballot) : CastVote reported state vote c c' := by
  have hdata : c₁.ffsplitData = c.ffsplitData := congrArg Ballot.data hbefore
  have hvotes₁ : c₁.voteInfos = c.voteInfos := congrArg Ballot.voteInfos hbefore
  refine ⟨h.id.trans (congrArg Ballot.id hbefore), h.nodeId.trans (congrArg Ballot.nodeId hbefore),
    h.state, ?_⟩
  cases h.sent with
  | none hvotes hseq => exact .none (hvotes.trans hvotes₁) (by rw [hseq, hdata])
  | some v hvotes hseq hnumber hring hvote =>
    exact .some v (by rw [hvotes, hvotes₁]) (by rw [hseq, hdata]) (by rw [hnumber, hdata]) hring
      hvote

/-- A vote that carries the ring id of its client. -/
theorem Voted.castVote_own {env : Env} {state : FfsplitClientState} {vote : Option TlvVote}
    {c c' : QnetdClient} (h : Voted env c.lastRingId state vote c c') :
    CastVote none state vote c c' :=
  h.castVote rfl rfl (.inl h.lastRingId.symm)

/-- What an event other than an INIT or a reply does to the ballots.  `reported` is the ring id a
    client reports in the event. -/
inductive VotesCase (reported : ClientId → Option TlvRingId) (cluster cluster' : QnetdCluster)
    (log : List AlgoLog) : Prop where
  /-- Nothing is decided. -/
  | quiet (hdata : cluster'.algorithmData = cluster.algorithmData)
      (hclients : KeepsBallots cluster.clientList cluster'.clientList) (hlog : log = [])
  /-- Nobody is left. -/
  | nobody (hstate : cluster'.algorithmData.clusterState = .waitingForChange)
      (hclients : cluster'.clientList = [])
  /-- The decision is put off. -/
  | suspended (hstate : cluster'.algorithmData.clusterState = .waitingForStableMembership)
      (hclients : KeepsBallots cluster.clientList cluster'.clientList)
  /-- A round begins and NACKs are sent. -/
  | nacks (hlog : AlgoLog.ffsplitMembershipStable ∈ log)
      (hstate : cluster'.algorithmData.clusterState = .sendingNacks)
      (hclients : ∀ c' ∈ cluster'.clientList, ∃ c ∈ cluster.clientList,
        CastVote (reported c'.id)
          (partitionState cluster'.algorithmData.quoratePartitionNodeList c.nodeId)
          (if cluster'.algorithmData.quoratePartitionNodeList.HasNode c.nodeId then none
            else some .nack) c c')
  /-- A round begins, and ACKs are sent because nobody has to get a NACK. -/
  | acks (hlog : AlgoLog.ffsplitMembershipStable ∈ log)
      (hstate : cluster'.algorithmData.clusterState = .sendingAcks)
      (hclients : ∀ c' ∈ cluster'.clientList, ∃ c ∈ cluster.clientList,
        cluster'.algorithmData.quoratePartitionNodeList.HasNode c.nodeId ∧
          CastVote (reported c'.id) .sendingAck (some .ack) c c')

/-- A decision between two steps that keep the ballots.  What is left of the cluster are clients
    that do not leave, and their ring ids are the ones votes are sent with. -/
theorem votesCase_of_ffsplitDo {env : Env} {client : QnetdClient} {leaving : Bool}
    {ringId : TlvRingId} {config membership : NodeList} {heuristics : TlvHeuristics}
    {result : AlgoResult} {reported : ClientId → Option TlvRingId}
    {cluster cluster₁ cluster' : QnetdCluster}
    (hdo : ffsplitDo env cluster₁ client leaving ringId config membership heuristics = .ok result)
    (hbefore : KeepsBallots cluster.clientList cluster₁.clientList)
    (hdata : cluster'.algorithmData = result.cluster.algorithmData)
    (hafter : KeepsBallots result.cluster.clientList cluster'.clientList)
    (hstays : ∀ c ∈ cluster'.clientList, ¬ Leaving client leaving c)
    (hring : ∀ c' ∈ cluster'.clientList, ∀ c₂ ∈ result.cluster.clientList, ∀ c₁ ∈ cluster₁.clientList,
      c'.ballot = c₂.ballot → c₂.fixed = c₁.fixed → c₂.lastRingId = c₁.lastRingId →
        ringIdToSend client ringId c₁ = c'.lastRingId ∨
          reported c'.id = some (ringIdToSend client ringId c₁)) :
    VotesCase reported cluster cluster' result.log := by
  have hleaving {c' c₁ c₂ : QnetdClient} (hc' : c' ∈ cluster'.clientList)
      (hballot : c'.ballot = c₂.ballot) (hfixed : c₂.fixed = c₁.fixed) :
      ¬ Leaving client leaving c₁ := by
    have hnode : c'.nodeId = c₁.nodeId :=
      (congrArg Ballot.nodeId hballot).trans (congrArg Fixed.nodeId hfixed)
    have := hstays c' hc'
    rwa [Leaving, hnode] at this
  rcases ffsplitDo_cases hdo with ⟨hclients, hstate⟩ | ⟨hstable, hround⟩
  · exact .suspended (hdata ▸ hstate) (hbefore.trans (hclients ▸ hafter))
  · rw [← hdata] at hround
    cases hround with
    | nacks hstate hclients =>
      refine .nacks hstable (hdata ▸ hstate) fun c' hc' => ?_
      obtain ⟨c₂, hc₂, hballot⟩ := hafter c' hc'
      obtain ⟨c₁, hc₁, hfixed, hvoted⟩ := hclients c₂ hc₂
      obtain ⟨c, hc, hballot₁⟩ := hbefore c₁ hc₁
      have hvoted := hvoted (hleaving hc' hballot hfixed)
      have hnode₁ : c₁.nodeId = c.nodeId := congrArg Ballot.nodeId hballot₁
      rw [hnode₁] at hvoted
      exact ⟨c, hc, hvoted.castVote hballot₁ hballot
        (hring c' hc' c₂ hc₂ c₁ hc₁ hballot hfixed hvoted.lastRingId)⟩
    | acks hstate hclients =>
      refine .acks hstable (hdata ▸ hstate) fun c' hc' => ?_
      obtain ⟨c₂, hc₂, hballot⟩ := hafter c' hc'
      obtain ⟨c₁, hc₁, hfixed, hvoted⟩ := hclients c₂ hc₂
      obtain ⟨c, hc, hballot₁⟩ := hbefore c₁ hc₁
      obtain ⟨hnode, hvoted⟩ := hvoted (hleaving hc' hballot hfixed)
      have hnode₁ : c₁.nodeId = c.nodeId := congrArg Ballot.nodeId hballot₁
      rw [hnode₁] at hnode
      exact ⟨c, hc, hnode, hvoted.castVote hballot₁ hballot
        (hring c' hc' c₂ hc₂ c₁ hc₁ hballot hfixed hvoted.lastRingId)⟩
    | nobody hstate hclients =>
      refine .nobody (hdata ▸ hstate) (List.eq_nil_iff_forall_not_mem.mpr fun c' hc' => ?_)
      obtain ⟨c₂, hc₂, hballot⟩ := hafter c' hc'
      obtain ⟨c₁, hc₁, hfixed, hleaves⟩ := hclients c₂ hc₂
      exact hleaving hc' hballot hfixed hleaves

/-- The ring id a client reports in an event. -/
def reportedRing : ClusterEvent → ClientId → Option TlvRingId
  | .message id msg, j => if j = id then msg.ringId else none
  | .init .., _ | .algoTimer _, _ | .disconnect .., _ => none

/-- The event is not a reply to a vote info. -/
def NoReply : ClusterEvent → Prop
  | .message _ msg => MsgType.ofUInt16? msg.type ≠ some .voteInfoReply
  | .init .. | .algoTimer _ | .disconnect .. => True

instance : DecidablePred NoReply
  | .message _ msg =>
    inferInstanceAs (Decidable (MsgType.ofUInt16? msg.type ≠ some .voteInfoReply))
  | .init .. | .algoTimer _ | .disconnect .. => isTrue trivial

private theorem votesCase_message {settings : Settings} {env : Env}
    {cluster cluster' : QnetdCluster} {id : ClientId} {msg : MsgDecoded} {log : List AlgoLog}
    (hreg : Registered TlvDecisionAlgorithmType.ffsplit.toUInt16 cluster)
    (hreply : MsgType.ofUInt16? msg.type ≠ some .voteInfoReply)
    (h : clusterMessage settings env cluster id msg = .ok (cluster', log)) :
    VotesCase (reportedRing (.message id msg)) cluster cluster' log := by
  cases ffsplit_message_cases hreg hreply h with
  | quiet hdata hkeeps hlog => exact .quiet hdata hkeeps hlog
  | decided client cluster₁ ringId config membership heuristics result hid hclient hsame hbefore hdo
      hdata hafter hlog =>
    subst hlog
    have hreg₁ := hreg.of_same hsame
    have hreg₂ := hreg₁.of_same (sameKept_ffsplitDo hdo).fixed.registration
    refine votesCase_of_ffsplitDo hdo hbefore.ballots hdata (fun c' hc' => ?_) (fun c _ => ?_)
      fun c' hc' c₂ hc₂ c₁ hc₁ hballot hfixed hring => ?_
    · obtain ⟨c₂, hc₂, hring⟩ := hafter c' hc'
      exact ⟨c₂, hc₂, hring.ballot⟩
    · simp [Leaving]
    · obtain ⟨c, hc, hballot', hother, hown⟩ := hafter c' hc'
      have heq : c = c₂ := hreg₂.eq_of_id hc hc₂
        ((congrArg Ballot.id hballot').symm.trans (congrArg Ballot.id hballot))
      subst heq
      have hid₂ : c.id = c₁.id := congrArg Fixed.id hfixed
      by_cases hsender : c₁.id = client.id
      · -- the sender is sent the ring id of the callback
        have heq : c₁ = client := hreg₁.eq_of_id hc₁ hclient hsender
        subst heq
        have hc'id : c'.id = id := ((congrArg Ballot.id hballot).trans hid₂).trans hid
        simp only [ringIdToSend, if_true, reportedRing, hc'id]
        rcases hown hid₂ hring with hlast | hreported
        · exact .inl hlast.symm
        · exact .inr hreported
      · have hnode : c₁.nodeId ≠ client.nodeId := fun hnode =>
          hsender (congrArg QnetdClient.id (hreg₁.eq_of_nodeId hc₁ hclient hnode))
        simp only [ringIdToSend, if_neg hnode]
        exact .inl (hring.symm.trans (hother (hid₂ ▸ hsender)).symm)

private theorem votesCase_disconnect {env : Env} {cluster cluster' : QnetdCluster} {id : ClientId}
    {down : Bool} {log : List AlgoLog}
    (hreg : Registered TlvDecisionAlgorithmType.ffsplit.toUInt16 cluster)
    (h : clusterDisconnect env cluster id down = .ok (cluster', log)) :
    VotesCase (reportedRing (.disconnect id down)) cluster cluster' log := by
  cases ffsplit_disconnect_cases hreg h with
  | quiet hdata hclients hlog =>
    exact .quiet hdata (fun c hc => ⟨c, hclients c hc, rfl⟩) hlog
  | last hdata hclients => exact .nobody (by rw [hdata]) hclients
  | decided client ringId config membership heuristics result hclient hdo hdata hclients hlog =>
    subst hlog
    have hreg₂ := hreg.of_same (sameKept_ffsplitDo hdo).fixed.registration
    have hstays {c c₁ : QnetdClient} (hc : c ∈ cluster'.clientList) (hc₁ : c₁ ∈ cluster.clientList)
        (hfixed : c.fixed = c₁.fixed) : c₁.nodeId ≠ client.nodeId := by
      intro hnode
      have heq : c₁ = client := hreg.eq_of_nodeId hc₁ hclient hnode
      exact (hclients c hc).2 ((congrArg Fixed.id hfixed).trans (congrArg QnetdClient.id heq))
    refine votesCase_of_ffsplitDo hdo (.refl _) hdata (fun c hc => ⟨c, (hclients c hc).1, rfl⟩)
      (fun c hc hleaves => ?_) fun c' hc' c₂ hc₂ c₁ hc₁ hballot hfixed hring => ?_
    · obtain ⟨c₁, hc₁, hfixed⟩ := List.exists_mem_of_map_eq (sameKept_ffsplitDo hdo).fixed
        (hclients c hc).1
      exact hstays hc hc₁ hfixed.symm ((congrArg Fixed.nodeId hfixed).trans hleaves.1)
    · have heq : c' = c₂ := hreg₂.eq_of_id (hclients c' hc').1 hc₂ (congrArg Ballot.id hballot)
      subst heq
      simp only [ringIdToSend, if_neg (hstays hc' hc₁ hfixed)]
      exact .inl hring.symm

/-- Every event but INIT and a reply changes the ballots as `VotesCase` says. -/
theorem ffsplit_votes_cases {settings : Settings} {env : Env} {cluster cluster' : QnetdCluster}
    {event : ClusterEvent} {log : List AlgoLog}
    (hreg : Registered TlvDecisionAlgorithmType.ffsplit.toUInt16 cluster)
    (hinit : ∀ conn msg, event ≠ .init conn msg) (hreply : NoReply event)
    (h : clusterStep settings env cluster event = .ok (cluster', log)) :
    VotesCase (reportedRing event) cluster cluster' log := by
  cases event with
  | init conn msg => exact absurd rfl (hinit conn msg)
  | message id msg => exact votesCase_message hreg hreply h
  | algoTimer id =>
    obtain ⟨hdata, hkeeps, hlog⟩ := ffsplit_algoTimer hreg h
    exact .quiet hdata hkeeps.ballots hlog
  | disconnect id down => exact votesCase_disconnect hreg h

/-- Whatever happens to the ballots, each client is sent at most one vote, an ACK only in the
    state that sends ACKs. -/
theorem VotesCase.castVote {reported : ClientId → Option TlvRingId}
    {cluster cluster' : QnetdCluster} {log : List AlgoLog}
    (h : VotesCase reported cluster cluster' log) :
    ∀ c' ∈ cluster'.clientList, ∃ c ∈ cluster.clientList, ∃ state vote,
      CastVote (reported c'.id) state vote c c' ∧ (vote = none ∨ vote = some .nack ∨
        vote = some .ack ∧ cluster'.algorithmData.clusterState = .sendingAcks) := by
  intro c' hc'
  cases h with
  | quiet hdata hclients hlog =>
    obtain ⟨c, hc, hballot⟩ := hclients c' hc'
    exact ⟨c, hc, _, _, .of_ballot hballot, .inl rfl⟩
  | nobody hstate hclients => simp [hclients] at hc'
  | suspended hstate hclients =>
    obtain ⟨c, hc, hballot⟩ := hclients c' hc'
    exact ⟨c, hc, _, _, .of_ballot hballot, .inl rfl⟩
  | nacks hlog hstate hclients =>
    obtain ⟨c, hc, hcast⟩ := hclients c' hc'
    refine ⟨c, hc, _, _, hcast, ?_⟩
    split
    · exact .inl rfl
    · exact .inr (.inl rfl)
  | acks hlog hstate hclients =>
    obtain ⟨c, hc, -, hcast⟩ := hclients c' hc'
    exact ⟨c, hc, _, _, hcast, .inr (.inr ⟨rfl, hstate⟩)⟩

/-- The same for a reply. -/
theorem ReplyCase.castVote {env : Env} {cluster cluster' : QnetdCluster} {client : QnetdClient}
    {seq : UInt32} (h : ReplyCase env cluster client seq cluster') :
    ∀ c' ∈ cluster'.clientList, ∃ c ∈ cluster.clientList, ∃ state vote,
      CastVote none state vote c c' ∧ (vote = none ∨
        vote = some .ack ∧ cluster'.algorithmData.clusterState = .sendingAcks) := by
  -- the new state of the client that replied is no vote
  have hanswered (c₁ : QnetdClient) (hc₁ : c₁ ∈ (answeredCluster cluster client).clientList) :
      ∃ c ∈ cluster.clientList, ∃ state, c₁ = c ∨ c₁ = c.withState state := by
    obtain ⟨c, hc, ⟨-, rfl⟩ | ⟨-, rfl⟩⟩ := mem_modifyClient hc₁
    · exact ⟨c, hc, _, .inr rfl⟩
    · exact ⟨_, hc, .waitingForChange, .inl rfl⟩
  have hvoted (c₁ : QnetdClient) (hc₁ : c₁ ∈ (answeredCluster cluster client).clientList)
      {vote : Option TlvVote} {c' : QnetdClient}
      (hvote : Voted env c₁.lastRingId c₁.ffsplitData.clientState vote c₁ c') :
      ∃ c ∈ cluster.clientList, ∃ state, CastVote none state vote c c' := by
    obtain ⟨c, hc, state, rfl | rfl⟩ := hanswered c₁ hc₁
    · exact ⟨_, hc, _, hvote.castVote_own⟩
    · have hvote' : Voted env c.lastRingId state vote (c.withState state) c' := hvote
      exact ⟨c, hc, _, hvote'.of_state.castVote_own⟩
  intro c' hc'
  cases h with
  | old hseq hcluster =>
    subst hcluster
    exact ⟨c', hc', _, _, .of_ballot rfl, .inl rfl⟩
  | answered hseq hcluster =>
    subst hcluster
    obtain ⟨c, hc, state, hcast⟩ := hvoted c' hc' (.refl env _ c')
    exact ⟨c, hc, _, _, hcast, .inl rfl⟩
  | acks hseq hstate hnone hstate' hpartition hclients =>
    obtain ⟨c₁, hc₁, hvote⟩ := hclients c' hc'
    obtain ⟨c, hc, state, hcast⟩ := hvoted c₁ hc₁ hvote
    refine ⟨c, hc, _, _, hcast, ?_⟩
    split
    · exact .inr ⟨rfl, hstate'⟩
    · exact .inl rfl
  | done hseq hstate hnone hstate' hclients =>
    obtain ⟨c₁, hc₁, hvote⟩ := hclients c' hc'
    obtain ⟨c, hc, state, hcast⟩ := hvoted c₁ hc₁ hvote
    exact ⟨c, hc, _, _, hcast, .inl rfl⟩

end Qdevice.Qnetd
