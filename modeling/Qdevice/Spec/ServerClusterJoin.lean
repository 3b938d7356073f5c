import Qdevice.Spec.ServerClusterStep

/-! # Joining a cluster of a server

The INIT by which a client becomes a member is the first event of its cluster that the
client takes part in.  What the client has been through before (a refused INIT, another PREINIT)
leaves no trace in the cluster. -/

namespace Qdevice.Qnetd

section Join

variable {settings : Settings} {env : Env} {inst : QnetdInstance} {event : InstanceEvent}
  {res : InstanceHandled} {entry entry' : ClusterEntry} {client : QnetdClient}

/-! ### The client that joins -/

/-- A client that may join a cluster. -/
structure Newcomer (client : QnetdClient) (name : List UInt8) : Prop where
  progress : client.progress = {}
  cluster : client.cluster = none
  scheduleDisconnect : client.scheduleDisconnect = false
  preinit : client.preinitReceived = true
  name : client.clusterName = some name

/-- It differs from the client of a new connection in what INIT overwrites. -/
theorem Newcomer.eq_connection {name : List UInt8} (h : Newcomer client name) :
    ∃ nodeIdSet nodeId lastRingId heartbeatInterval tieBreaker decisionAlgorithm keep,
      client = { client.connection.client with
        nodeIdSet, nodeId, lastRingId, heartbeatInterval, tieBreaker, decisionAlgorithm,
        keepActivePartitionTieBreaker := keep } := by
  obtain ⟨hprogress, hcluster, hsched, hpre, hname⟩ := h
  refine ⟨client.nodeIdSet, client.nodeId, client.lastRingId, client.heartbeatInterval,
    client.tieBreaker, client.decisionAlgorithm, client.keepActivePartitionTieBreaker, ?_⟩
  simp only [QnetdClient.progress, Progress.mk.injEq] at hprogress
  cases client
  simp only at hprogress hcluster hsched hpre hname
  simp [Connection.client, QnetdClient.connection, hprogress, hcluster, hsched, hpre, hname]

theorem Newcomer.checkTls {name : List UInt8} {client' : QnetdClient} (h : Newcomer client name)
    (htls : qnetdClientMsgReceivedCheckTls settings client = .success client') :
    Newcomer client' name ∧
      qnetdClientMsgReceivedCheckTls settings client.connection.client =
        .success client'.connection.client := by
  have hname : client.connection.client.clusterName = client.clusterName := by
    rw [h.name]
    simp [QnetdClient.connection, Connection.client, h.name]
  simp only [qnetdClientMsgReceivedCheckTls] at htls ⊢
  split at htls
  · cases htls
  · next hrequired =>
    rw [if_neg (show ¬ (checkTlsRequired settings && !client.connection.client.tlsStarted) = true
      from hrequired)]
    split at htls
    · next hcert =>
      rw [if_pos (show checkTlsCertificate settings client.connection.client = true from hcert)]
      split at htls
      · next cert name' hpeer hname' =>
        split at htls
        · next hverified =>
          cases htls
          refine ⟨⟨h.progress, h.cluster, h.scheduleDisconnect, h.preinit, h.name⟩, ?_⟩
          split
          · next cert₂ name₂ hpeer₂ hname₂ =>
            obtain rfl := Option.some.inj (hpeer.symm.trans hpeer₂)
            obtain rfl := Option.some.inj ((hname.trans hname').symm.trans hname₂)
            rw [if_pos hverified]
            rfl
          · next hno => exact (hno cert name' hpeer (hname.trans hname')).elim
        · cases htls
      · cases htls
    · next hcert =>
      cases htls
      rw [if_neg (show ¬ checkTlsCertificate settings client.connection.client = true from hcert)]
      exact ⟨h, rfl⟩

/-- INIT gives the client of a new connection and one with a past the same options. -/
theorem Newcomer.initOptions {name : List UInt8} {msg : MsgDecoded} (h : Newcomer client name)
    (hcode : (initOptions settings client msg).2 = .noError) :
    initOptions settings client.connection.client msg = initOptions settings client msg := by
  obtain ⟨nodeId, ringId, interval, tieBreaker, algorithm, haccepted⟩ := initOptions_accepted hcode
  rw [haccepted client h.preinit rfl, haccepted client.connection.client rfl rfl]
  obtain ⟨nodeIdSet, nodeId', lastRingId, hb, tb, alg, keep, hclient⟩ := h.eq_connection
  generalize client.connection = conn at hclient
  rw [hclient]

theorem clusterInit_of_newcomer {name : List UInt8} {msg : MsgDecoded} {client' : QnetdClient}
    {cluster : QnetdCluster} (h : Newcomer client name)
    (hnew : ∀ c ∈ cluster.clientList, c.id ≠ client.id)
    (htls : qnetdClientMsgReceivedCheckTls settings client = .success client')
    (hcode : (initOptions settings client' msg).2 = .noError) :
    clusterInit settings cluster client.connection msg =
      (initJoin cluster (initOptions settings client' msg).1).1 := by
  obtain ⟨hnewcomer, htls'⟩ := h.checkTls htls
  have hfound : cluster.client? client.connection.id = none :=
    List.find?_eq_none.mpr fun c hc hid => hnew c hc (beq_iff_eq.mp hid)
  rw [clusterInit, hfound, if_neg (by decide), htls']
  dsimp only
  rw [hnewcomer.initOptions hcode, if_pos hcode]

/-! ### The cluster that is joined -/

/-- Finding a cluster, or putting a new one at the end. -/
theorem addCluster_views {inst₀ : QnetdInstance} {name : List UInt8}
    (h : qnetdClusterListAddCluster env inst name = some (inst₀, entry)) :
    inst₀ = inst ∧ entry ∈ inst.clusters ∧ entry.clusterName = name ∨
      entry = { id := inst.nextClusterId, clusterName := name } ∧
        inst₀ = { inst with
          clusters := inst.clusters ++ [entry], nextClusterId := inst.nextClusterId + 1 } := by
  simp only [qnetdClusterListAddCluster] at h
  split at h
  · next entry' hfound =>
    cases h
    exact .inl ⟨rfl, List.mem_of_find?_eq_some hfound,
      beq_iff_eq.mp (List.find?_some (p := fun e : ClusterEntry => e.clusterName == name) hfound)⟩
  · split at h
    · cases h
      exact .inr ⟨rfl, rfl⟩
    · cases h

theorem clusterAt_of_addCluster {inst₀ : QnetdInstance} {name : List UInt8}
    (hlinked : inst.registry.Linked)
    (h : qnetdClusterListAddCluster env inst name = some (inst₀, entry)) :
    inst.clusterAt entry.id entry.clusterName = inst₀.cluster entry := by
  rcases addCluster_views h with ⟨rfl, hentry, -⟩ | ⟨rfl, rfl⟩
  · exact clusterAt_of_mem hlinked hentry _
  · have hnone : inst.clusters.find? (fun e => e.id == inst.nextClusterId) = none := by
      refine List.find?_eq_none.mpr fun e he hid => ?_
      exact Nat.ne_of_lt (hlinked.fresh _ (List.mem_map_of_mem he)) (beq_iff_eq.mp hid)
    rw [QnetdInstance.clusterAt, hnone]
    rfl

/-- What is left of an INIT whose options are accepted. -/
theorem initAddClient_views {inst' : QnetdInstance} {code : TlvReplyErrorCode}
    (hlinked : inst.registry.Linked)
    (hsupported : (qnetdAlgorithmArray client.decisionAlgorithm).isSome = true)
    (h : initAddClient env inst client = .ok (inst', code)) :
    inst' = inst ∨ ∃ name inst₀ entry, client.clusterName = some name ∧ code = .noError ∧
      qnetdClusterListAddCluster env inst name = some (inst₀, entry) ∧
      qnetdClientMsgReceivedInitCheckNewClient client (inst₀.cluster entry).clientList = .noError ∧
      inst' = inst₀.storeCluster entry.id (initJoin (inst₀.cluster entry) client).1 := by
  simp only [initAddClient] at h
  split at h
  · split at h
    · cases h
    · cases h
      exact .inl rfl
  · next name hname =>
    split at h
    · cases h
      exact .inl rfl
    · next inst₀ entry hadd =>
      obtain ⟨-, hentry, hjoined⟩ := addCluster_cases hadd
      have hlinked₀ := hjoined.linked hlinked
      split at h
      · cases h
      · cases h
        rcases initJoin_cases (inst₀.cluster entry) client hsupported with
          ⟨hcheck, hsame⟩ | ⟨joined, -, hcode, hcheck, -⟩
        · refine .inl ?_
          rw [hsame, storeCluster_cluster hlinked₀ hentry]
          rcases addCluster_views hadd with ⟨rfl, -, -⟩ | ⟨rfl, rfl⟩
          · rfl
          · -- a new cluster has no clients to disagree with
            exact absurd (by simp [QnetdInstance.cluster, qnetdClientMsgReceivedInitCheckNewClient])
              hcheck
        · exact .inr ⟨name, inst₀, entry, hname, hcode, hadd, hcheck, rfl⟩

/-- The cluster after a client has joined it: its header, and who is in it. -/
theorem initJoin_ids {cluster : QnetdCluster} (hnew : ∀ c ∈ cluster.clientList, c.id ≠ client.id)
    (hsupported : (qnetdAlgorithmArray client.decisionAlgorithm).isSome = true)
    (hcheck : qnetdClientMsgReceivedInitCheckNewClient client cluster.clientList = .noError) :
    (initJoin cluster client).1.header = cluster.header ∧
      ((initJoin cluster client).1.clientList.map (·.id)).Perm
        (client.id :: cluster.clientList.map (·.id)) := by
  rcases initJoin_cases cluster client hsupported with
    ⟨hnot, -⟩ | ⟨joined, hjoined, -, -, hresult⟩
  · exact absurd hcheck hnot
  · have hid : joined.id = client.id := by rw [hjoined]
    rw [hresult]
    refine ⟨?_, ?_⟩
    · rw [header_modifyClient, header_qnetdAlgorithmClientInit]
      rfl
    · have hsame := List.map_comp_of_map_eq Fixed.id
        (sameFixed_joined joined (hid ▸ hnew))
      rw [hid] at hsame
      have hperm := (insertClient_perm { joined with initReceived := true }
        cluster.clientList).map (·.id)
      rw [List.map_cons] at hperm
      rw [show joined.id = client.id from hid] at hperm
      exact (List.Perm.of_eq hsame).trans hperm

/-! ### INIT -/

/-- Writing a client that is in no list. -/
theorem cluster_write_of_not_listed {i : ClientId} {written : QnetdClient} (hid : written.id = i)
    (hnot : i ∉ entry.clientList) :
    (inst.modifyClient i fun _ => written).cluster entry = inst.cluster entry := by
  rw [cluster_modifyClient fun c hc => hid.trans hc.symm]
  refine modifyClient_of_not_mem fun c hc h => hnot ?_
  rw [← h]
  exact mem_clientList_of_mem_cluster hc

/-- Writing a client without a cluster changes no cluster. -/
theorem clusterAt_write {written : QnetdClient} (hlinked : inst.registry.Linked)
    (hmem : client ∈ inst.clients) (hnone : client.cluster = none) (hid : written.id = client.id)
    (k : ClusterId) (name : List UInt8) :
    (inst.modifyClient written.id fun _ => written).clusterAt k name = inst.clusterAt k name := by
  have hclusters : (inst.modifyClient written.id fun _ => written).clusters = inst.clusters := rfl
  simp only [QnetdInstance.clusterAt, hclusters]
  cases hfound : inst.clusters.find? fun entry => entry.id == k with
  | none => rfl
  | some entry =>
    have hnot := not_listed hlinked (List.mem_of_find?_eq_some hfound) hmem
      (by rw [hnone]; exact fun h => by cases h)
    rw [hid]
    exact cluster_write_of_not_listed hid hnot

/-- An INIT that registers nobody, whatever it writes to its sender. -/
theorem steps_of_refusedInit {msg : MsgDecoded} {written : QnetdClient} {code : TlvReplyErrorCode}
    (hlinked : inst.registry.Linked) (hmem : client ∈ inst.clients) (hnone : client.cluster = none)
    (hevent : event = .message client.id msg) (hid : written.id = client.id)
    (hres : res =
      sendInitReply env (inst.modifyClient written.id fun _ => written) written msg code)
    (hlinked' : res.inst.registry.Linked) (hentry' : entry' ∈ res.inst.clusters) :
    StepsCluster settings env inst event res entry' := by
  subst hevent
  refine steps_of_outside hlinked hlinked' (fun c hc => ?_) ?_ (fun entry hentry => ?_) hentry'
  · obtain rfl := Option.some.inj ((client?_of_mem hlinked hmem).symm.trans hc)
    exact hnone
  · rw [hres, sendInitReply]
    split <;> rfl
  · have hnot := not_listed hlinked hentry hmem (by rw [hnone]; exact fun h => by cases h)
    rw [hres, sendInitReply, hid]
    split
    · exact cluster_write_of_not_listed hid hnot
    · exact (scheduleDisconnect_of_not_listed hnot).trans (cluster_write_of_not_listed hid hnot)

/-- The INIT that registers its sender, seen from the cluster it joins and from the others. -/
theorem steps_of_joinedInit {msg : MsgDecoded} {inst₀ : QnetdInstance}
    {client' written : QnetdClient} {name : List UInt8}
    (hlinked : inst.registry.Linked) (hmem : client ∈ inst.clients)
    (hevent : event = .message client.id msg) (hnewcomer : Newcomer client name)
    (htls : qnetdClientMsgReceivedCheckTls settings client = .success client')
    (hoptions : initOptions settings client' msg = (written, .noError))
    (hadd : qnetdClusterListAddCluster env (inst.modifyClient written.id fun _ => written) name =
      some (inst₀, entry))
    (hcheck : qnetdClientMsgReceivedInitCheckNewClient written
      (inst₀.cluster entry).clientList = .noError)
    (hres : res = sendInitReply env
      (inst₀.storeCluster entry.id (initJoin (inst₀.cluster entry) written).1) written msg .noError)
    (hlinked' : res.inst.registry.Linked) (hentry' : entry' ∈ res.inst.clusters) :
    StepsCluster settings env inst event res entry' := by
  subst hevent
  have hfirst := linked_initOptions hlinked msg hmem htls
  have hnewcomer' := (hnewcomer.checkTls htls).1
  rw [hoptions] at hfirst
  obtain ⟨hid, -, hlinked₁, hmem₁⟩ := hfirst
  dsimp only at hid hlinked₁ hmem₁
  have hnoError := @initOptions_noError settings client' msg
  rw [hoptions] at hnoError
  obtain ⟨_, _, _, _, _, _, -, -, -, -, hsupported, -, hwritten⟩ := hnoError rfl
  dsimp only at hwritten
  have hsupported : (qnetdAlgorithmArray written.decisionAlgorithm).isSome = true := by
    rw [hwritten]
    exact hsupported
  have hnone : written.cluster = none := by
    rw [hwritten]
    exact hnewcomer'.cluster
  clear hwritten
  -- the cluster list, with the cluster that is joined in it
  obtain ⟨hclients, hentry, hjoined⟩ := addCluster_cases hadd
  have hlinked₀ := hjoined.linked hlinked₁
  have hmem₀ : written ∈ inst₀.clients := hclients ▸ hmem₁
  have hnew := not_mem_cluster hlinked₀ hmem₀ hentry hnone
  obtain ⟨hheader, hperm⟩ := initJoin_ids hnew hsupported hcheck
  have hat : inst.clusterAt entry.id entry.clusterName = inst₀.cluster entry :=
    (clusterAt_write hlinked hmem hnewcomer.cluster hid _ _).symm.trans
      (clusterAt_of_addCluster hlinked₁ hadd)
  have hinit : clusterInit settings (inst₀.cluster entry) client.connection msg =
      (initJoin (inst₀.cluster entry) written).1 := by
    rw [clusterInit_of_newcomer hnewcomer (hid ▸ hnew) htls (by rw [hoptions]), hoptions]
  generalize (initJoin (inst₀.cluster entry) written).1 = cl at hheader hperm hinit hres
  have hnodup : (cl.clientList.map (·.id)).Nodup := by
    refine hperm.nodup_iff.mpr (List.nodup_cons.mpr ⟨fun hin => ?_, ?_⟩)
    · obtain ⟨c, hc, hcid⟩ := List.mem_map.mp hin
      exact hnew c hc hcid
    · rw [cluster_ids hlinked₀ hentry]
      exact hlinked₀.nodup _ (List.mem_map_of_mem hentry)
  have hin (c : QnetdClient) (hc : c ∈ cl.clientList) : ∃ c₀ ∈ inst₀.clients, c₀.id = c.id ∧
      ∀ k, c₀.cluster = some k → k = entry.id := by
    rcases List.mem_cons.mp (hperm.mem_iff.mp (List.mem_map_of_mem hc)) with hcid | hin
    · refine ⟨written, hmem₀, hcid.symm, fun k hk => ?_⟩
      rw [hnone] at hk
      cases hk
    · obtain ⟨c₀, hc₀, hcid⟩ := List.mem_map.mp hin
      obtain ⟨hc₀mem, hlisted⟩ := (mem_cluster hlinked₀).mp hc₀
      refine ⟨c₀, hc₀mem, hcid, fun k hk => ?_⟩
      have hcluster := (hlinked₀.mem_clientList (List.mem_map_of_mem hentry)
        (mem_registry hc₀mem)).mp hlisted
      exact Option.some.inj (hk.symm.trans hcluster)
  have hclusters : res.inst.clusters = (inst₀.storeCluster entry.id cl).clusters := by
    rw [hres, sendInitReply]
    split <;> rfl
  rcases storeCluster_entries hlinked₀ hentry hheader hnodup hin (hclusters ▸ hentry') with
    ⟨hid', hview⟩ | ⟨hold, hne, hview⟩
  · -- the cluster that is joined
    have hanswer : memberAnswer env cl client.id (.initReply msg.seqNumber .noError
        msg.supportedMessages.isSome msg.supportedOptions.isSome) =
        ⟨res.inst.cluster entry', res.reply, res.log⟩ := by
      rw [hres, sendInitReply, memberAnswer, hid]
      split
      · rw [hview]
      · rw [cluster_scheduleDisconnect, hview]
    have hseen := congrArg MemberHandled.cluster hanswer
    have hname : entry'.clusterName = entry.clusterName := by
      have hsame := memberAnswer_header env cl client.id (.initReply msg.seqNumber .noError
        msg.supportedMessages.isSome msg.supportedOptions.isSome)
      rw [hseen] at hsame
      exact congrArg Prod.snd (hsame.trans hheader)
    -- the client points to it now
    have hcluster : (res.inst.client? client.id).bind (·.cluster) = some entry'.id := by
      have hsame := memberAnswer_ids env cl client.id (.initReply msg.seqNumber .noError
        msg.supportedMessages.isSome msg.supportedOptions.isSome)
      rw [hseen] at hsame
      have hlisted : client.id ∈ (res.inst.cluster entry').clientList.map (·.id) := by
        rw [hsame, ← hid]
        exact hperm.mem_iff.mpr (List.mem_cons_self ..)
      obtain ⟨c, hc, hcid⟩ := List.mem_map.mp hlisted
      obtain ⟨hcmem, hlisted⟩ := (mem_cluster hlinked').mp hc
      rw [← hcid, client?_of_mem hlinked' hcmem]
      exact (hlinked'.mem_clientList (List.mem_map_of_mem hentry') (mem_registry hcmem)).mp hlisted
    have hevent : memberEvent? entry'.id inst res.inst (.message client.id msg) =
        some (.join client.connection msg) := by
      rw [memberEvent?, show (InstanceEvent.message client.id msg).client = client.id from rfl,
        client?_of_mem hlinked hmem]
      dsimp only
      rw [if_neg (by rw [hnewcomer.cluster]; exact fun h => by cases h), if_pos hcluster]
      rfl
    rw [StepsCluster, hevent, hid', hname, hat]
    simp only [memberStep, hinit]
    exact congrArg Except.ok hanswer
  · -- the others
    have hold' : entry' ∈ inst.clusters := by
      rcases addCluster_views hadd with ⟨rfl, -, -⟩ | ⟨-, rfl⟩
      · exact hold
      · rcases List.mem_append.mp hold with hold | hold
        · exact hold
        · exact absurd (congrArg ClusterEntry.id (List.mem_singleton.mp hold)) hne
    have hnot := not_listed hlinked hold' hmem
      (by rw [hnewcomer.cluster]; exact fun h => by cases h)
    have hview₀ : inst₀.cluster entry' = inst.cluster entry' := by
      have hsame : inst₀.cluster entry' =
          (inst.modifyClient written.id fun _ => written).cluster entry' := by
        rw [QnetdInstance.cluster, QnetdInstance.cluster]
        refine congrArg (fun l =>
          (⟨entry'.id, entry'.clusterName, l, entry'.algorithmData⟩ : QnetdCluster)) ?_
        exact List.filterMap_congr fun i _ => congrArg (List.find? _) hclients
      rw [hsame, hid]
      exact cluster_write_of_not_listed hid hnot
    refine stepsCluster_untouched hlinked hlinked' hentry' hold' rfl rfl ?_ fun c hc => ?_
    · rw [hres, sendInitReply, hid]
      split
      · exact hview.trans hview₀
      · exact (scheduleDisconnect_of_not_listed hnot).trans (hview.trans hview₀)
    · obtain rfl := Option.some.inj ((client?_of_mem hlinked hmem).symm.trans hc)
      rw [hnewcomer.cluster]
      exact fun h => by cases h

end Join

end Qdevice.Qnetd
