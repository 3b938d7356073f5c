import Qdevice.Spec.FfsplitPending

/-! # Somebody is always waited for

The invariant of the runs in which no vote is lost at a disconnect: a cluster that waits does so
for some client, and the clients it waits for have a vote info to reply to unless a disconnect
is scheduled. -/

namespace Qdevice.Qnetd

/-! ### INIT -/

theorem checkTls_required {settings : Settings} {client client' : QnetdClient}
    (hrequired : checkTlsRequired settings = true)
    (h : qnetdClientMsgReceivedCheckTls settings client = .success client') :
    client.tlsStarted = true := by
  unfold qnetdClientMsgReceivedCheckTls at h
  split at h
  · cases h
  · next hnot => simpa [hrequired] using hnot

theorem initOptions_connection {settings : Settings} {client : QnetdClient} {msg : MsgDecoded}
    (h : (initOptions settings client msg).2 = .noError) :
    (initOptions settings client msg).1.id = client.id ∧
      (initOptions settings client msg).1.tlsStarted = client.tlsStarted ∧
      (qnetdAlgorithmArray (initOptions settings client msg).1.decisionAlgorithm).isSome = true := by
  obtain ⟨_, _, _, _, _, _, -, -, -, -, hsupported, -, hclient⟩ := initOptions_noError h
  rw [hclient]
  exact ⟨rfl, rfl, hsupported⟩

/-- Where TLS is required, the client that joins uses it. -/
theorem initJoin_tlsStarted {cluster : QnetdCluster} {client : QnetdClient}
    (hsupported : (qnetdAlgorithmArray client.decisionAlgorithm).isSome = true)
    (hne : ∀ c ∈ cluster.clientList, c.id ≠ client.id) (hclient : client.tlsStarted = true)
    (h : ∀ c ∈ cluster.clientList, c.tlsStarted = true) :
    ∀ c' ∈ (initJoin cluster client).1.clientList, c'.tlsStarted = true := by
  rcases initJoin_cases cluster client hsupported with ⟨-, hsame⟩ | ⟨joined, rfl, -, -, hjoin⟩
  · rw [hsame]
    exact h
  · intro c' hc'
    -- the callback and the flag change neither an old client's TLS nor the new one's
    have hfixed := sameFixed_joined { client with cluster := some cluster.id } hne
    rw [hjoin] at hc'
    obtain ⟨c, hc, hcf⟩ := List.exists_mem_of_map_eq hfixed hc'
    have htls : c.tlsStarted = c'.tlsStarted := congrArg Fixed.tlsStarted hcf
    rw [← htls]
    rcases mem_insertClient.mp hc with rfl | hc
    · exact hclient
    · exact h c hc

theorem clusterInit_tlsStarted {settings : Settings} {cluster : QnetdCluster} {conn : Connection}
    {msg : MsgDecoded} (hrequired : checkTlsRequired settings = true)
    (h : ∀ c ∈ cluster.clientList, c.tlsStarted = true) :
    ∀ c' ∈ (clusterInit settings cluster conn msg).clientList, c'.tlsStarted = true := by
  unfold clusterInit
  split
  · exact h
  · next hnone =>
    split
    · next client htls =>
      have hduty := checkTls_sameDuty htls
      dsimp only
      split
      · next hcode =>
        obtain ⟨hid, hstarted, hsupported⟩ := initOptions_connection hcode
        apply initJoin_tlsStarted hsupported _ _ h
        · intro c hc hcid
          have hfound := List.find?_eq_none.mp (Option.not_isSome_iff_eq_none.mp hnone) c hc
          exact hfound (beq_iff_eq.mpr (hcid.trans (hid.trans hduty.id)))
        · rw [hstarted]
          exact hduty.tlsStarted (checkTls_required hrequired htls)
      · exact h
    · exact h
    · exact h

theorem mem_modifyClient_of_ne {cluster : QnetdCluster} {id : ClientId}
    {f : QnetdClient → QnetdClient} {c : QnetdClient} (hc : c ∈ cluster.clientList)
    (hne : c.id ≠ id) : c ∈ (cluster.modifyClient id f).clientList :=
  List.mem_map.mpr ⟨c, hc, if_neg hne⟩

/-- The clients that are there already stay as they are. -/
theorem mem_clusterInit {settings : Settings} {cluster : QnetdCluster} {conn : Connection}
    {msg : MsgDecoded}
    (halgorithm : msg.decisionAlgorithm = some TlvDecisionAlgorithmType.ffsplit.toUInt16)
    {c : QnetdClient} (hc : c ∈ cluster.clientList) :
    c ∈ (clusterInit settings cluster conn msg).clientList := by
  rcases clusterInit_cases settings cluster conn msg with
    hsame | ⟨joined, hnone, hfresh, -, -, -, halg, -, hjoin⟩
  · rw [hsame]
    exact hc
  · have hne : c.id ≠ joined.id := fun hid => by
      have := List.find?_eq_none.mp hnone c hc
      simp [hid, hfresh.id] at this
    have halg' : joined.decisionAlgorithm = TlvDecisionAlgorithmType.ffsplit.toUInt16 := by
      rw [halgorithm] at halg
      exact (Option.some.inj halg).symm
    rw [hjoin]
    simp only [qnetdAlgorithmClientInit, halg', qnetdAlgorithmArray_ffsplit]
    apply mem_modifyClient_of_ne _ hne
    unfold ffsplitClientInit
    apply mem_modifyClient_of_ne _ hne
    have hjoined : c ∈ (joinedCluster cluster joined).clientList := mem_insertClient.mpr (.inr hc)
    split <;> exact hjoined

/-! ### The invariant -/

/-- The newest vote info of the client is queued and not answered. -/
def OwesReply (history : FfsplitHistory) (c : QnetdClient) : Prop :=
  ∃ v, c.voteInfos.getLast? = some v ∧ v.queued = true ∧
    history.answered c.id < c.voteInfos.length

/-- What every client of a run is like. -/
structure ClientsOk (settings : Settings) (s : FfsplitState) : Prop where
  registered : Registered TlvDecisionAlgorithmType.ffsplit.toUInt16 s.cluster
  answered_le : ∀ c ∈ s.cluster.clientList, s.history.answered c.id ≤ c.voteInfos.length
  /-- The number that is expected is that of the newest vote info. -/
  newest : ∀ c ∈ s.cluster.clientList, ∀ v, c.voteInfos.getLast? = some v →
    v.msgSeqNumber = c.ffsplitData.voteInfoExpectedSeqNum
  tls : checkTlsRequired settings = true → ∀ c ∈ s.cluster.clientList, c.tlsStarted = true

/-- What holds in every state of a run: whenever the cluster waits, there is somebody it waits for,
    and unless a disconnect is scheduled, everybody it waits for has a vote info to answer. -/
structure RoundPending (settings : Settings) (s : FfsplitState) : Prop extends
    ClientsOk settings s where
  awaited : ∀ state, s.cluster.algorithmData.clusterState.awaited = some state →
    ∃ c ∈ s.cluster.clientList, c.ffsplitData.clientState = state
  owed : ∀ state, s.cluster.algorithmData.clusterState.awaited = some state →
    (∃ c ∈ s.cluster.clientList, c.scheduleDisconnect = true) ∨
      ∀ c ∈ s.cluster.clientList, c.ffsplitData.clientState = state → OwesReply s.history c

theorem SentOne.owes {history : FfsplitHistory} {c c' : QnetdClient} (h : SentOne c c')
    (hid : c'.id = c.id) (hle : history.answered c.id ≤ c.voteInfos.length) :
    OwesReply history c' := by
  obtain ⟨v, hv, hqueued⟩ := h
  refine ⟨v, ?_, hqueued, ?_⟩
  · rw [hv]
    simp
  · rw [hv, hid, List.length_append, List.length_singleton]
    omega

theorem length_of_votes {c c' : QnetdClient} (h : c'.votes = c.votes) :
    c'.voteInfos.length = c.voteInfos.length :=
  congrArg (fun votes => votes.1.length) h

/-- At most one vote info is added. -/
theorem Grown.length_le {c c' : QnetdClient} (h : Grown c c') :
    c.voteInfos.length ≤ c'.voteInfos.length ∧ c'.voteInfos.length ≤ c.voteInfos.length + 1 := by
  rcases h.votes with hsame | ⟨v, hv, -⟩
  · have := length_of_votes hsame
    omega
  · rw [hv, List.length_append, List.length_singleton]
    omega

/-- The newest vote info has the expected number again. -/
theorem Grown.newest {c c' : QnetdClient} (h : Grown c c')
    (hc : ∀ v, c.voteInfos.getLast? = some v →
      v.msgSeqNumber = c.ffsplitData.voteInfoExpectedSeqNum) :
    ∀ v, c'.voteInfos.getLast? = some v →
      v.msgSeqNumber = c'.ffsplitData.voteInfoExpectedSeqNum := by
  intro v hv
  rcases h.votes with hsame | ⟨w, hw, hnumber⟩
  · have hvotes : c'.voteInfos = c.voteInfos := congrArg Prod.fst hsame
    have hexpected : c'.ffsplitData.voteInfoExpectedSeqNum =
        c.ffsplitData.voteInfoExpectedSeqNum := congrArg Prod.snd hsame
    rw [hexpected]
    exact hc v (hvotes ▸ hv)
  · rw [hw, List.getLast?_concat] at hv
    cases hv
    exact hnumber

theorem awaited_ne_waitingForChange {clusterState : FfsplitClusterState} :
    clusterState.awaited ≠ some .waitingForChange := by
  cases clusterState <;> simp [FfsplitClusterState.awaited]

section Invariant

variable {settings : Settings} {s : FfsplitState} {cluster' : QnetdCluster}
  {history' : FfsplitHistory}

/-- Clients only grow, and some leave. -/
theorem ClientsOk.grown (h : ClientsOk settings s)
    (hreg : Registered TlvDecisionAlgorithmType.ffsplit.toUInt16 cluster')
    (hgrown : ∀ c' ∈ cluster'.clientList, ∃ c ∈ s.cluster.clientList, Grown c c')
    (hanswered : history'.answered = s.history.answered) :
    ClientsOk settings ⟨cluster', history'⟩ where
  registered := hreg
  answered_le c' hc' := by
    obtain ⟨c, hc, hg⟩ := hgrown c' hc'
    have hle := h.answered_le c hc
    have hlength := hg.length_le
    dsimp only
    rw [hanswered, hg.id]
    omega
  newest c' hc' := by
    obtain ⟨c, hc, hg⟩ := hgrown c' hc'
    exact hg.newest (h.newest c hc)
  tls hrequired c' hc' := by
    obtain ⟨c, hc, hg⟩ := hgrown c' hc'
    exact hg.tlsStarted (h.tls hrequired c hc)

/-- Nothing changes but what clients remember. -/
theorem RoundPending.quiet (h : RoundPending settings s)
    (hreg : Registered TlvDecisionAlgorithmType.ffsplit.toUInt16 cluster')
    (hdata : cluster'.algorithmData = s.cluster.algorithmData)
    (hsame : List.Forall₂ SameDuty s.cluster.clientList cluster'.clientList)
    (hanswered : history'.answered = s.history.answered) :
    RoundPending settings ⟨cluster', history'⟩ := by
  refine ⟨h.grown hreg (fun c' hc' => ?_) hanswered, fun state hstate => ?_, fun state hstate => ?_⟩
  · obtain ⟨c, hc, hduty⟩ := hsame.exists_left hc'
    exact ⟨c, hc, hduty.grown⟩
  · dsimp only at hstate
    rw [hdata] at hstate
    obtain ⟨c, hc, hawaited⟩ := h.awaited state hstate
    obtain ⟨c', hc', hduty⟩ := hsame.exists_right hc
    exact ⟨c', hc', hduty.state.trans hawaited⟩
  · dsimp only at hstate
    rw [hdata] at hstate
    rcases h.owed state hstate with ⟨c, hc, hscheduled⟩ | howes
    · obtain ⟨c', hc', hduty⟩ := hsame.exists_right hc
      exact .inl ⟨c', hc', hduty.scheduled hscheduled⟩
    · refine .inr fun c' hc' hawaited => ?_
      obtain ⟨c, hc, hduty⟩ := hsame.exists_left hc'
      obtain ⟨v, hv, hqueued, hopen⟩ := howes c hc (hduty.state.symm.trans hawaited)
      refine ⟨v, ?_, hqueued, ?_⟩
      · rw [hduty.voteInfos]
        exact hv
      · rw [hanswered, hduty.id, hduty.voteInfos]
        exact hopen

/-- A decision about a client that stays. -/
theorem ClientsOk.decided {env : Env} {client : QnetdClient} (h : ClientsOk settings s)
    (hreg : Registered TlvDecisionAlgorithmType.ffsplit.toUInt16 cluster')
    (hclient : ∃ c ∈ s.cluster.clientList, client.id = c.id)
    (hdecided : Decided env client false s.cluster.clientList cluster')
    (hanswered : history'.answered = s.history.answered) :
    RoundPending settings ⟨cluster', history'⟩ := by
  refine ⟨h.grown hreg (fun c' hc' => hdecided.grown.exists_left hc') hanswered,
    fun state hstate => ?_, fun state hstate => ?_⟩
  · obtain ⟨c', hc', -, hawaited⟩ := (hdecided.out state hstate).some
    exact ⟨c', hc', hawaited⟩
  · rcases (hdecided.out state hstate).sent with ⟨-, hscheduled⟩ | hsent
    · -- a vote could not be queued, and the client of the decision has to go
      obtain ⟨c, hc, hid⟩ := hclient
      obtain ⟨c', hc', hgrown⟩ := hdecided.grown.exists_right hc
      exact .inl ⟨c', hc', hscheduled c' hc' (hgrown.id.trans hid.symm)⟩
    · refine .inr fun c' hc' hawaited => ?_
      have hboth := List.Forall₂.mp (S := fun c c' => Grown c c' ∧
        (c'.ffsplitData.clientState = state → SentOne c c'))
        (fun c c' hgrown hone => ⟨hgrown, hone fun hleaves => by cases hleaves.2⟩)
        hdecided.grown hsent
      obtain ⟨c, hc, hgrown, hone⟩ := hboth.exists_left hc'
      exact (hone hawaited).owes hgrown.id (hanswered ▸ h.answered_le c hc)

/-- A decision about a client that leaves, if every vote can be queued. -/
theorem ClientsOk.left {env : Env} {client : QnetdClient} {result : QnetdCluster}
    (h : ClientsOk settings s)
    (hreg : Registered TlvDecisionAlgorithmType.ffsplit.toUInt16 cluster')
    (hclient : client ∈ s.cluster.clientList)
    (hqueued : ∀ c ∈ s.cluster.clientList, env.voteInfoQueued c.id = true)
    (hdecided : Decided env client true s.cluster.clientList result)
    (hclients : cluster'.clientList = result.clientList.filter (·.id ≠ client.id))
    (hdata : cluster'.algorithmData = result.algorithmData ∨ cluster'.algorithmData = {})
    (hanswered : history'.answered = s.history.answered) :
    RoundPending settings ⟨cluster', history'⟩ := by
  have hmem {c' : QnetdClient} (hc' : c' ∈ cluster'.clientList) :
      c' ∈ result.clientList ∧ c'.id ≠ client.id := by
    rw [hclients, List.mem_filter] at hc'
    exact ⟨hc'.1, by simpa using hc'.2⟩
  -- the client that leaves is the one with its node id
  have hleaving {c c' : QnetdClient} (hc : c ∈ s.cluster.clientList) (hgrown : Grown c c') :
      Leaving client true c' ↔ c'.id = client.id := by
    rw [Leaving, hgrown.nodeId, hgrown.id]
    constructor
    · rintro ⟨hnode, -⟩
      rw [h.registered.eq_of_nodeId hc hclient hnode]
    · intro hid
      rw [h.registered.eq_of_id hc hclient hid]
      exact ⟨rfl, rfl⟩
  have hstate {state : FfsplitClientState}
      (hawaited : cluster'.algorithmData.clusterState.awaited = some state) :
      result.algorithmData.clusterState.awaited = some state := by
    rcases hdata with hdata | hdata
    · rwa [hdata] at hawaited
    · rw [hdata] at hawaited
      cases hawaited
  refine ⟨h.grown hreg (fun c' hc' => hdecided.grown.exists_left (hmem hc').1) hanswered,
    fun state hawaited => ?_, fun state hawaited => .inr fun c' hc' hcstate => ?_⟩
  · obtain ⟨c', hc', hstays, hcstate⟩ := (hdecided.out state (hstate hawaited)).some
    obtain ⟨c, hc, hgrown⟩ := hdecided.grown.exists_left hc'
    refine ⟨c', ?_, hcstate⟩
    rw [hclients, List.mem_filter]
    exact ⟨hc', by simpa using (hleaving hc hgrown).not.mp hstays⟩
  · rcases (hdecided.out state (hstate hawaited)).sent with ⟨⟨c, hc, hnot⟩, -⟩ | hsent
    · rw [hqueued c hc] at hnot
      cases hnot
    · have hboth := List.Forall₂.mp (S := fun c c' => Grown c c' ∧
        (¬ Leaving client true c' → c'.ffsplitData.clientState = state → SentOne c c'))
        (fun c c' hgrown hone => ⟨hgrown, hone⟩) hdecided.grown hsent
      obtain ⟨c, hc, hgrown, hone⟩ := hboth.exists_left (hmem hc').1
      have hstays := (hleaving hc hgrown).not.mpr (hmem hc').2
      exact (hone hstays hcstate).owes hgrown.id (hanswered ▸ h.answered_le c hc)

/-- A client joins, or does not. -/
theorem RoundPending.init {conn : Connection} {msg : MsgDecoded} (h : RoundPending settings s)
    (halgorithm : msg.decisionAlgorithm = some TlvDecisionAlgorithmType.ffsplit.toUInt16)
    (hanswered : history'.answered = (historyBefore s (.init conn msg)).answered) :
    RoundPending settings ⟨clusterInit settings s.cluster conn msg, history'⟩ := by
  obtain ⟨hdata, hclients⟩ := ffsplit_init_cases settings s.cluster conn halgorithm
  have hold {c : QnetdClient} (hc : c ∈ s.cluster.clientList) :
      history'.answered c.id = s.history.answered c.id := by
    rw [hanswered, historyBefore]
    split
    · next hnone =>
      have hne : c.id ≠ conn.id := fun hid => by
        have hfound := List.find?_eq_none.mp (Option.isNone_iff_eq_none.mp hnone) c hc
        simp [hid] at hfound
      simp [FfsplitHistory.connect, hne]
    · rfl
  have hnew {c : QnetdClient} (hnone : s.cluster.client? conn.id = none) (hid : c.id = conn.id) :
      history'.answered c.id = 0 := by
    rw [hanswered, historyBefore, hnone]
    simp [FfsplitHistory.connect, hid]
  have hstate {state : FfsplitClientState}
      (hawaited : (clusterInit settings s.cluster conn msg).algorithmData.clusterState.awaited =
        some state) : s.cluster.algorithmData.clusterState.awaited = some state := by
    rcases hdata with hdata | ⟨hdata, -⟩
    · rwa [hdata] at hawaited
    · rw [hdata] at hawaited
      cases hawaited
  refine ⟨⟨registered_clusterInit h.registered halgorithm, fun c' hc' => ?_, fun c' hc' => ?_,
    fun hrequired => clusterInit_tlsStarted hrequired (h.tls hrequired)⟩,
    fun state hawaited => ?_, fun state hawaited => ?_⟩
  · dsimp only
    rcases hclients c' hc' with hc | ⟨hnone, hid, -, -⟩
    · rw [hold hc]
      exact h.answered_le c' hc
    · rw [hnew hnone hid]
      exact Nat.zero_le _
  · rcases hclients c' hc' with hc | ⟨-, -, hvotes, -⟩
    · exact h.newest c' hc
    · intro v hv
      rw [hvotes] at hv
      cases hv
  · obtain ⟨c, hc, hcstate⟩ := h.awaited state (hstate hawaited)
    exact ⟨c, mem_clusterInit halgorithm hc, hcstate⟩
  · rcases h.owed state (hstate hawaited) with ⟨c, hc, hscheduled⟩ | howes
    · exact .inl ⟨c, mem_clusterInit halgorithm hc, hscheduled⟩
    · refine .inr fun c' hc' hcstate => ?_
      rcases hclients c' hc' with hc | ⟨-, -, -, hfresh⟩
      · obtain ⟨v, hv, hqueued, hopen⟩ := howes c' hc hcstate
        exact ⟨v, hv, hqueued, by rwa [hold hc]⟩
      · -- the newcomer is not waited for
        rw [hfresh] at hcstate
        exact absurd (hcstate ▸ hawaited) awaited_ne_waitingForChange

/-! ### Replies -/

/-- A client has answered the vote infos up to index `i`. -/
theorem ClientsOk.answer {client : QnetdClient} {i : Nat} (h : ClientsOk settings s)
    (hclient : client ∈ s.cluster.clientList) (hi : i < client.voteInfos.length) :
    ClientsOk settings ⟨s.cluster, s.history.answer client.id (i + 1)⟩ where
  registered := h.registered
  answered_le c hc := by
    simp only [FfsplitHistory.answer]
    split
    · next hid =>
      rw [h.registered.eq_of_id hc hclient hid]
      exact hi
    · exact h.answered_le c hc
  newest := h.newest
  tls := h.tls

/-- The clients after the wait for one of them has ended. -/
theorem answeredCluster_clients (cluster : QnetdCluster) (client : QnetdClient) :
    List.Forall₂ (fun c c' => Unsent c c' ∧ c'.ffsplitData.clientState =
        if c.id = client.id then .waitingForChange else c.ffsplitData.clientState)
      cluster.clientList (answeredCluster cluster client).clientList := by
  rw [answeredCluster, QnetdCluster.modifyClient, List.forall₂_map_right_iff, List.forall₂_same]
  intro c _
  split
  · exact ⟨⟨⟨rfl, rfl, .inl rfl, fun h => h, fun h => h⟩, rfl⟩, rfl⟩
  · exact ⟨(SameDuty.refl c).unsent, rfl⟩

theorem registered_answeredCluster {cluster : QnetdCluster} {client : QnetdClient}
    {algorithm : UInt16} (h : Registered algorithm cluster) :
    Registered algorithm (answeredCluster cluster client) := by
  apply h.of_same
  show List.map _ (List.map _ _) = _
  rw [List.map_map]
  apply List.map_congr_left
  intro c _
  show (if c.id = client.id then c.withState .waitingForChange else c).registration = _
  split <;> rfl

theorem ClientsOk.afterAnswer {client : QnetdClient} {i : Nat} (h : ClientsOk settings s)
    (hclient : client ∈ s.cluster.clientList) (hi : i < client.voteInfos.length) :
    ClientsOk settings ⟨answeredCluster s.cluster client, s.history.answer client.id (i + 1)⟩ := by
  have hclients := answeredCluster_clients s.cluster client
  apply (h.answer hclient hi).grown (registered_answeredCluster h.registered) _ rfl
  intro c' hc'
  obtain ⟨c, hc, hunsent, -⟩ := hclients.exists_left hc'
  exact ⟨c, hc, hunsent.grown⟩

/-- The wait for a client ends; everybody else still owes what it owed. -/
theorem RoundPending.afterAnswer {client : QnetdClient} {i : Nat} (h : RoundPending settings s)
    (hclient : client ∈ s.cluster.clientList) (hi : i < client.voteInfos.length)
    (hsome : ∀ state, s.cluster.algorithmData.clusterState.awaited = some state →
      ∃ c ∈ (answeredCluster s.cluster client).clientList, c.ffsplitData.clientState = state) :
    RoundPending settings
      ⟨answeredCluster s.cluster client, s.history.answer client.id (i + 1)⟩ := by
  have hclients := answeredCluster_clients s.cluster client
  refine ⟨h.toClientsOk.afterAnswer hclient hi, hsome, fun state hstate => ?_⟩
  rcases h.owed state hstate with ⟨c, hc, hscheduled⟩ | howes
  · obtain ⟨c', hc', hunsent, -⟩ := hclients.exists_right hc
    exact .inl ⟨c', hc', hunsent.grown.scheduled hscheduled⟩
  · refine .inr fun c' hc' hawaited => ?_
    obtain ⟨c, hc, hunsent, hcstate⟩ := hclients.exists_left hc'
    rw [hcstate] at hawaited
    split at hawaited
    · exact absurd (hawaited ▸ hstate) awaited_ne_waitingForChange
    · next hne =>
      obtain ⟨v, hv, hqueued, hopen⟩ := howes c hc hawaited
      refine ⟨v, by rwa [hunsent.voteInfos], hqueued, ?_⟩
      rw [hunsent.grown.id, hunsent.voteInfos, FfsplitHistory.answer]
      dsimp only
      rwa [if_neg hne]

/-- An answer that is not the newest one ends no wait. -/
theorem RoundPending.afterOld {client : QnetdClient} {i : Nat} {v : VoteInfo}
    (h : RoundPending settings s) (hclient : client ∈ s.cluster.clientList)
    (hv : client.voteInfos[i]? = some v)
    (hseq : client.ffsplitData.voteInfoExpectedSeqNum ≠ v.msgSeqNumber) :
    RoundPending settings ⟨s.cluster, s.history.answer client.id (i + 1)⟩ := by
  have hi : i < client.voteInfos.length := (List.getElem?_eq_some_iff.mp hv).1
  refine ⟨h.toClientsOk.answer hclient hi, h.awaited, fun state hstate => ?_⟩
  rcases h.owed state hstate with hscheduled | howes
  · exact .inl hscheduled
  · refine .inr fun c hc hawaited => ?_
    obtain ⟨w, hw, hqueued, hopen⟩ := howes c hc hawaited
    refine ⟨w, hw, hqueued, ?_⟩
    simp only [FfsplitHistory.answer]
    split
    · next hid =>
      -- the newest vote info has the expected number, so it is a later one
      obtain rfl := h.registered.eq_of_id hc hclient hid
      by_contra hnot
      have hlast : i = c.voteInfos.length - 1 := by omega
      have hvlast : c.voteInfos.getLast? = some v := by
        rw [List.getLast?_eq_getElem?, ← hlast]
        exact hv
      exact hseq (h.newest c hc v hvlast).symm
    · exact hopen

/-- A reply that is read. -/
theorem RoundPending.reply {env : Env} {client : QnetdClient} {i : Nat} {v : VoteInfo}
    (h : RoundPending settings s)
    (hreg' : Registered TlvDecisionAlgorithmType.ffsplit.toUInt16 cluster')
    (hclient : client ∈ s.cluster.clientList) (hv : client.voteInfos[i]? = some v)
    (hpending : ReplyPending env s.cluster client v.msgSeqNumber cluster')
    (hanswered : history'.answered = (s.history.answer client.id (i + 1)).answered) :
    RoundPending settings ⟨cluster', history'⟩ := by
  have hi : i < client.voteInfos.length := (List.getElem?_eq_some_iff.mp hv).1
  have hsame (cluster : QnetdCluster) :
      List.Forall₂ SameDuty cluster.clientList cluster.clientList := sameDuty_refl _
  cases hpending with
  | old hseq hcluster =>
    subst hcluster
    exact (h.afterOld hclient hv hseq).quiet hreg' rfl (hsame _) hanswered
  | answered hseq hcluster hsome =>
    subst hcluster
    exact (h.afterAnswer hclient hi hsome).quiet hreg' rfl (hsame _) hanswered
  | acks hseq hstate hstate' hdecided =>
    have hclients := answeredCluster_clients s.cluster client
    have hok := h.toClientsOk.afterAnswer hclient hi
    obtain ⟨c', hc', hunsent, -⟩ := hclients.exists_right hclient
    exact hok.decided hreg' ⟨c', hc', hunsent.grown.id.symm⟩ hdecided hanswered
  | done hseq hstate' hclients' =>
    have hclients := answeredCluster_clients s.cluster client
    refine ⟨(h.toClientsOk.answer hclient hi).grown hreg' (fun c' hc' => ?_) hanswered,
      fun state hstate => ?_, fun state hstate => ?_⟩
    · obtain ⟨c, hc, hunsent, -⟩ := hclients.exists_left (hclients' ▸ hc')
      exact ⟨c, hc, hunsent.grown⟩
    · dsimp only at hstate
      rw [hstate'] at hstate
      cases hstate
    · dsimp only at hstate
      rw [hstate'] at hstate
      cases hstate

end Invariant

/-! ### Runs -/

/-- The server stays up, and if a client is disconnected, then every vote can be queued. -/
def StaysUp (s : FfsplitState) : FfsplitEvent → Prop
  | .cluster env (.disconnect _ serverGoingDown) =>
    serverGoingDown = false ∧ ∀ c ∈ s.cluster.clientList, env.voteInfoQueued c.id = true
  | .cluster _ (.init ..) | .cluster _ (.message ..) | .cluster _ (.algoTimer _)
  | .voteInfoReply .. => True

instance (s : FfsplitState) : DecidablePred (StaysUp s)
  | .cluster env (.disconnect _ serverGoingDown) => inferInstanceAs (Decidable
      (serverGoingDown = false ∧ ∀ c ∈ s.cluster.clientList, env.voteInfoQueued c.id = true))
  | .cluster _ (.init ..) | .cluster _ (.message ..) | .cluster _ (.algoTimer _)
  | .voteInfoReply .. => isTrue trivial

/-- The events of an ffsplit cluster whose clients only reply to what they were sent. -/
def FfsplitUp (s : FfsplitState) (e : FfsplitEvent) : Prop :=
  StaysUp s e ∧
    match e with
    | .cluster _ event => UsesAlgorithm .ffsplit event ∧ NoReply event
    | .voteInfoReply .. => True

instance (s : FfsplitState) : DecidablePred (FfsplitUp s)
  | .cluster env event => inferInstanceAs (Decidable
      (StaysUp s (.cluster env event) ∧ UsesAlgorithm .ffsplit event ∧ NoReply event))
  | .voteInfoReply .. => inferInstanceAs (Decidable (True ∧ True))

/-- One side of a reply that has something to answer. -/
theorem ffsplitReply_answer {settings : Settings} {env : Env} {s s' : FfsplitState} {id : ClientId}
    (h : ffsplitReply settings env s id = some s') :
    s' = s ∨ ∃ client i v cluster' log, s.cluster.client? id = some client ∧
      nextVoteInfo client (s.history.answered id) = some i ∧ client.voteInfos[i]? = some v ∧
      clusterMessage settings env s.cluster id (voteInfoReplyMsg v.msgSeqNumber) =
        .ok (cluster', log) ∧
      s'.cluster = cluster' ∧ s'.history.answered =
        (if replyRead settings client then s.history.answer id (i + 1)
          else s.history).answered := by
  unfold ffsplitReply at h
  split at h
  · cases h
    exact .inl rfl
  · next client hclient =>
    split at h
    · cases h
      exact .inl rfl
    · next i hnext =>
      split at h
      · cases h
        exact .inl rfl
      · next v hv =>
        split at h
        · cases h
        · next cluster' log hmessage =>
          cases h
          exact .inr ⟨client, i, v, cluster', log, hclient, hnext, hv, hmessage, rfl,
            FfsplitHistory.advance_answered⟩

/-- A reply, read or not. -/
theorem RoundPending.replyStep {settings : Settings} {env : Env} {s s' : FfsplitState}
    {id : ClientId} (h : RoundPending settings s)
    (hstep : ffsplitReply settings env s id = some s') : RoundPending settings s' := by
  rcases ffsplitReply_answer hstep with
    rfl | ⟨client, i, v, cluster', log, hclient, hnext, hv, hmessage, hcluster, hanswered⟩
  · exact h
  · obtain ⟨cluster, history⟩ := s'
    subst hcluster
    have hmem := client?_mem hclient
    obtain rfl := client?_id hclient
    have hreg' := h.registered.of_same
      (sameRegistration_clusterMessage h.registered.ids hmessage)
    by_cases hsched : client.scheduleDisconnect = true
    · -- nothing is read any more
      rw [clusterMessage, hclient] at hmessage
      dsimp only at hmessage
      rw [if_pos hsched] at hmessage
      cases hmessage
      apply h.quiet hreg' rfl (sameDuty_refl _)
      rw [hanswered, replyRead, hsched]
      rfl
    · have hsched : client.scheduleDisconnect = false := by simpa using hsched
      cases clusterMessage_reply h.registered hclient hsched hmessage with
      | refused hrequired htls hread =>
        rw [h.tls hrequired client hmem] at htls
        cases htls
      | dropped hread hcluster =>
        subst hcluster
        apply h.quiet hreg' rfl (sameDuty_scheduleDisconnect _ _)
        rw [hanswered, hread]
        rfl
      | read hread client' cluster₁ hmem' hduty hsame hdata hclients hpending =>
        have h₁ : RoundPending settings ⟨cluster₁, s.history⟩ :=
          h.quiet (h.registered.of_same hsame) hdata hclients rfl
        apply h₁.reply hreg' hmem' (hduty.voteInfos ▸ hv) hpending
        rw [hanswered, if_pos hread, hduty.id]

theorem RoundPending.step {settings : Settings} {s s' : FfsplitState} {e : FfsplitEvent}
    (h : RoundPending settings s) (hup : FfsplitUp s e) (hstep : ffsplitStep settings s e = some s') :
    RoundPending settings s' := by
  cases e with
  | voteInfoReply env id => exact h.replyStep hstep
  | cluster env event =>
    obtain ⟨hstays, halgorithm, hreply⟩ := hup
    unfold ffsplitStep at hstep
    dsimp only at hstep
    split at hstep
    · cases hstep
    · next cluster' log hcluster =>
      cases hstep
      have hreg' := registered_clusterStep h.registered halgorithm hcluster
      cases event with
      | init conn msg =>
        cases hcluster
        exact h.init halgorithm FfsplitHistory.advance_answered
      | message id msg =>
        rcases clusterMessage_pending h.registered hreply hcluster with
          ⟨hdata, hsame⟩ | ⟨client, hclient, client', hid, hdecided⟩
        · exact h.quiet hreg' hdata hsame FfsplitHistory.advance_answered
        · exact h.decided hreg' ⟨client, hclient, hid⟩ hdecided FfsplitHistory.advance_answered
      | algoTimer id =>
        obtain ⟨hdata, hsame⟩ := clusterAlgoTimer_pending h.registered hcluster
        exact h.quiet hreg' hdata hsame FfsplitHistory.advance_answered
      | disconnect id serverGoingDown =>
        obtain ⟨rfl, hqueued⟩ := hstays
        rcases clusterDisconnect_pending h.registered hcluster with
          ⟨rfl, -⟩ | ⟨client, result, hclient, hdecided, hclients, hdata⟩
        · exact h.quiet hreg' rfl (sameDuty_refl _) FfsplitHistory.advance_answered
        · obtain rfl := client?_id hclient
          exact h.left hreg' (client?_mem hclient) hqueued hdecided hclients hdata
            FfsplitHistory.advance_answered

theorem roundPending_init (settings : Settings) (id : ClusterId) (name : List UInt8) :
    RoundPending settings { cluster := emptyCluster id name } where
  registered := registered_empty _ id name
  answered_le c hc := by cases hc
  newest c hc := by cases hc
  tls _ c hc := by cases hc
  awaited state hstate := by cases hstate
  owed state hstate := by cases hstate

theorem roundPending_of_reach {settings : Settings} {id : ClusterId} {name : List UInt8}
    {s : FfsplitState} (h : (ffsplitMachine settings id name).Reach FfsplitUp s) :
    RoundPending settings s :=
  h.invariant (RoundPending settings) (roundPending_init settings id name)
    fun _ hs hup hstep => hs.step hup hstep

end Qdevice.Qnetd
