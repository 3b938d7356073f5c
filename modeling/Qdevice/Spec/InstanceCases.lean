import Qdevice.Native.QnetdInstance
import Qdevice.Spec.Registry

/-! # What an event does to the registry

`InstanceCase` says everything one event of the qnetd instance can do to its registry, and
`instanceStep_cases` that there is nothing else.  A handler sees the cluster of its
sender through pointers and its result is written back through them; as long as the registry is
`Linked`, writing back changes the `fixed` part of the sender only. -/

namespace Qdevice.Qnetd

def ClusterEntry.links (entry : ClusterEntry) : RegistryCluster :=
  ⟨entry.id, entry.clusterName, entry.clientList⟩

/-- The registry of an instance. -/
def QnetdInstance.registry (inst : QnetdInstance) : Registry where
  clients := inst.clients.map QnetdClient.fixed
  clusters := inst.clusters.map ClusterEntry.links
  nextClusterId := inst.nextClusterId

section Registry

variable {inst : QnetdInstance}

theorem registry_client? (i : ClientId) :
    inst.registry.client? i = (inst.client? i).map QnetdClient.fixed := by
  simp only [Registry.client?, QnetdInstance.registry, QnetdInstance.client?, List.find?_map]
  rfl

theorem registry_members (entry : ClusterEntry) :
    inst.registry.members entry.links = (inst.cluster entry).clientList.map QnetdClient.fixed := by
  simp only [Registry.members, QnetdInstance.cluster, List.map_filterMap, ← registry_client?]
  rfl

theorem registry_ids : inst.registry.clients.map (·.id) = inst.clients.map (·.id) := by
  simp only [QnetdInstance.registry, List.map_map]
  rfl

theorem registry_modifyClient {client : QnetdClient} {id : ClientId} (hid : client.id = id) :
    (inst.modifyClient id fun _ => client).registry = inst.registry.write client.fixed := by
  subst hid
  simp only [QnetdInstance.registry, QnetdInstance.modifyClient, Registry.write, List.map_map]
  congr 1
  refine List.map_congr_left fun c _ => ?_
  simp only [Function.comp_apply]
  by_cases hid : c.id = client.id
  · rw [if_pos hid, if_pos (show c.fixed.id = client.fixed.id from hid)]
  · rw [if_neg hid, if_neg (show c.fixed.id ≠ client.fixed.id from hid)]

theorem registry_modifyClient_same {f : QnetdClient → QnetdClient} (hf : ∀ c, (f c).fixed = c.fixed)
    (id : ClientId) : (inst.modifyClient id f).registry = inst.registry := by
  simp only [QnetdInstance.registry, QnetdInstance.modifyClient, List.map_map]
  congr 1
  refine List.map_congr_left fun c _ => ?_
  simp only [Function.comp_apply]
  split
  · exact hf c
  · rfl

theorem registry_scheduleDisconnect (id : ClientId) :
    (inst.scheduleDisconnect id).registry = inst.registry :=
  registry_modifyClient_same (f := fun c => { c with scheduleDisconnect := true }) (fun _ => rfl) id

theorem QnetdInstance.client?_mem {id : ClientId} {client : QnetdClient}
    (h : inst.client? id = some client) : client ∈ inst.clients :=
  List.mem_of_find?_eq_some h

theorem QnetdInstance.client?_id {id : ClientId} {client : QnetdClient}
    (h : inst.client? id = some client) : client.id = id := by
  simpa using List.find?_some h

theorem mem_registry {client : QnetdClient} (h : client ∈ inst.clients) :
    client.fixed ∈ inst.registry.clients :=
  List.mem_map_of_mem h

/-- Writing back a cluster in which all clients but one look as they did. -/
theorem registry_storeCluster {id : ClusterId} {cluster : QnetdCluster} {f : Fixed}
    (hids : (inst.clients.map (·.id)).Nodup)
    (hclients : ∀ d ∈ cluster.clientList, d.fixed = f ∨
      ∃ c ∈ inst.clients, c.fixed = d.fixed ∧ c.id ≠ f.id)
    (hmem : ∃ d ∈ cluster.clientList, d.id = f.id) :
    (inst.storeCluster id cluster).registry =
      (inst.registry.write f).link id (cluster.clientList.map (·.id)) := by
  simp only [QnetdInstance.registry, QnetdInstance.storeCluster, Registry.write, Registry.link,
    List.map_map]
  congr 1
  · refine List.map_congr_left fun c hc => ?_
    simp only [Function.comp_apply]
    cases hfound : cluster.client? c.id with
    | none =>
      obtain ⟨d, hd, hdid⟩ := hmem
      have hne : c.fixed.id ≠ f.id := fun heq => by
        have := List.find?_eq_none.mp hfound d hd
        simp only [beq_iff_eq] at this
        exact this (hdid.trans heq.symm)
      rw [if_neg hne]
      rfl
    | some d =>
      have hdid : d.id = c.id := Qdevice.Qnetd.client?_id hfound
      rw [Option.getD_some]
      rcases hclients d (Qdevice.Qnetd.client?_mem hfound) with hd | ⟨c₀, hc₀, hsame, hne⟩
      · have hcid : c.fixed.id = f.id := hdid.symm.trans (congrArg Fixed.id hd)
        rw [if_pos hcid, hd]
      · have hc₀id : c₀.id = c.id := (congrArg Fixed.id hsame).trans hdid
        rw [List.inj_on_of_nodup_map hids hc₀ hc hc₀id] at hsame hne
        rw [if_neg (show c.fixed.id ≠ f.id from hne), ← hsame]
  · refine List.map_congr_left fun entry _ => ?_
    simp only [Function.comp_apply]
    by_cases hid : entry.id = id
    · rw [if_pos hid, if_pos (show entry.links.id = id from hid)]
      rfl
    · rw [if_neg hid, if_neg (show entry.links.id ≠ id from hid)]

/-- A list that is written back unchanged. -/
theorem link_same {id : ClusterId} {l : List ClientId} {r : Registry}
    (hclusters : r.clusters = inst.registry.clusters)
    (hentry : ∀ entry ∈ inst.clusters, entry.id = id → entry.clientList = l) :
    r.link id l = r := by
  have hsame : (r.clusters.map fun k => if k.id = id then { k with clientList := l } else k) =
      r.clusters := by
    refine (List.map_congr_left fun k hk => ?_).trans (List.map_id _)
    rw [hclusters] at hk
    obtain ⟨entry, hmem, rfl⟩ := List.mem_map.mp hk
    split
    · next hid => rw [← hentry entry hmem hid]; rfl
    · rfl
  simp only [Registry.link, hsame]

end Registry

/-! ### The cluster a handler sees -/

/-- What `clusterOf` shows: clients of the instance, the client itself among them, and the whole
    list of a cluster with that identity. -/
structure Window (inst : QnetdInstance) (client : QnetdClient) (cluster : QnetdCluster) : Prop where
  mem : client ∈ cluster.clientList
  sub : ∀ c ∈ cluster.clientList, c ∈ inst.clients
  entry : ∀ entry ∈ inst.clusters, entry.id = cluster.id →
    entry.clientList = cluster.clientList.map (·.id)

section Linked

variable {inst : QnetdInstance} (hlinked : inst.registry.Linked)

include hlinked

theorem ids_nodup : (inst.clients.map (·.id)).Nodup :=
  registry_ids ▸ hlinked.ids

theorem eq_of_id {c d : QnetdClient} (hc : c ∈ inst.clients) (hd : d ∈ inst.clients)
    (hid : c.id = d.id) : c = d :=
  List.inj_on_of_nodup_map (ids_nodup hlinked) hc hd hid

theorem client?_of_mem {c : QnetdClient} (hc : c ∈ inst.clients) : inst.client? c.id = some c :=
  List.find?_key_of_mem (ids_nodup hlinked) hc

theorem mem_cluster {entry : ClusterEntry} {c : QnetdClient} :
    c ∈ (inst.cluster entry).clientList ↔ c ∈ inst.clients ∧ c.id ∈ entry.clientList := by
  simp only [QnetdInstance.cluster, List.mem_filterMap]
  constructor
  · rintro ⟨i, hi, hfound⟩
    exact ⟨QnetdInstance.client?_mem hfound, QnetdInstance.client?_id hfound ▸ hi⟩
  · rintro ⟨hc, hi⟩
    exact ⟨c.id, hi, client?_of_mem hlinked hc⟩

/-- The list of a cluster is the list of the identities of its clients. -/
theorem cluster_ids {entry : ClusterEntry} (hentry : entry ∈ inst.clusters) :
    (inst.cluster entry).clientList.map (·.id) = entry.clientList := by
  have := hlinked.members_ids (List.mem_map_of_mem hentry)
  rw [registry_members, List.map_map] at this
  exact this

theorem eq_of_entryId {entry entry' : ClusterEntry} (h : entry ∈ inst.clusters)
    (h' : entry' ∈ inst.clusters) (hid : entry.id = entry'.id) : entry = entry' := by
  have hnodup := hlinked.clusterIds
  simp only [QnetdInstance.registry, List.map_map] at hnodup
  exact List.inj_on_of_nodup_map hnodup h h' hid

theorem window_clusterOf {client : QnetdClient} (hmem : client ∈ inst.clients) :
    Window inst client (inst.clusterOf client) := by
  simp only [QnetdInstance.clusterOf]
  split
  · next entry hfound =>
    have hentry := List.mem_of_find?_eq_some hfound
    have hcluster : client.fixed.cluster = some entry.links.id := by
      have hid := List.find?_some hfound
      exact (beq_iff_eq.mp hid).symm
    refine ⟨?_, fun c hc => ((mem_cluster hlinked).mp hc).1, fun entry' hentry' hid => ?_⟩
    · rw [mem_cluster hlinked]
      exact ⟨hmem, (hlinked.mem_clientList (List.mem_map_of_mem hentry) (mem_registry hmem)).mpr
        hcluster⟩
    · rw [eq_of_entryId hlinked hentry' hentry hid, cluster_ids hlinked hentry]
  · refine ⟨List.mem_singleton_self client, fun c hc => ?_, fun entry hentry hid => ?_⟩
    · rw [List.mem_singleton.mp hc]
      exact hmem
    · exact absurd hid (Nat.ne_of_lt (hlinked.fresh _ (List.mem_map_of_mem hentry)))

/-- Writing back what a handler left of the cluster of its sender writes the sender. -/
theorem registry_storeCluster_window {client client' : QnetdClient}
    {cluster cluster' : QnetdCluster} (hwindow : Window inst client cluster)
    (hid : client'.id = client.id)
    (hsame : SameFixed (cluster.modifyClient client.id fun _ => client') cluster') :
    (inst.storeCluster cluster.id cluster').registry = inst.registry.write client'.fixed := by
  have hids : cluster'.clientList.map (·.id) = cluster.clientList.map (·.id) := by
    refine (List.map_comp_of_map_eq Fixed.id hsame).trans ?_
    exact map_modifyClient _ _ _ _ fun c _ hc => hid.trans hc.symm
  have hmem : ∃ d ∈ cluster'.clientList, d.id = client'.fixed.id := by
    have hin : client.id ∈ cluster'.clientList.map (·.id) :=
      hids ▸ List.mem_map_of_mem (f := (·.id)) hwindow.mem
    obtain ⟨d, hd, hdid⟩ := List.mem_map.mp hin
    exact ⟨d, hd, hdid.trans hid.symm⟩
  rw [registry_storeCluster (f := client'.fixed) (ids_nodup hlinked) (fun d hd => ?_) hmem,
    link_same (r := inst.registry.write client'.fixed) rfl fun entry hentry heq =>
      (hwindow.entry entry hentry heq).trans hids.symm]
  obtain ⟨d₀, hd₀, heq⟩ := List.exists_mem_of_map_eq hsame hd
  obtain ⟨c, hc, ⟨-, rfl⟩ | ⟨hne, rfl⟩⟩ := mem_modifyClient hd₀
  · exact .inl heq.symm
  · exact .inr ⟨_, hwindow.sub _ hc, heq, fun h => hne (h.trans hid)⟩

/-- Writing back a cluster whose clients look as they did. -/
theorem registry_storeCluster_same {client : QnetdClient} {cluster cluster' : QnetdCluster}
    (hwindow : Window inst client cluster) (hsame : SameFixed cluster cluster') :
    (inst.storeCluster cluster.id cluster').registry = inst.registry := by
  have huniq : ∀ c ∈ cluster.clientList, c.id = client.id → c = client := fun c hc hid =>
    eq_of_id hlinked (hwindow.sub c hc) (hwindow.sub client hwindow.mem) hid
  rw [registry_storeCluster_window hlinked hwindow rfl
    (hsame.trans (map_modifyClient _ _ _ _ fun c hc hid => by rw [huniq c hc hid]).symm),
    ← registry_modifyClient rfl]
  have hsame : (inst.modifyClient client.id fun _ => client) = inst := by
    simp only [QnetdInstance.modifyClient]
    congr 1
    refine (List.map_congr_left fun c hc => ?_).trans (List.map_id _)
    split
    · next hid => exact (eq_of_id hlinked hc (hwindow.sub client hwindow.mem) hid).symm
    · rfl
  rw [hsame]

end Linked

/-! ### INIT -/

/-- Whatever the options are, INIT only writes these three `fixed` fields. -/
theorem fixed_initOptions (settings : Settings) (client : QnetdClient) (msg : MsgDecoded) :
    ∃ nodeId tieBreaker decisionAlgorithm, (initOptions settings client msg).1.fixed =
      { client.fixed with nodeId, tieBreaker, decisionAlgorithm } := by
  let Options (c : QnetdClient) : Prop := ∃ nodeId tieBreaker decisionAlgorithm,
    c.fixed = { client.fixed with nodeId, tieBreaker, decisionAlgorithm }
  have hoption {α : Type} {value : Option α} {zero : α}
      {copy : α → QnetdClient × TlvReplyErrorCode → QnetdClient × TlvReplyErrorCode}
      {acc : QnetdClient × TlvReplyErrorCode} (hacc : Options acc.1)
      (hcopy : ∀ v acc, Options acc.1 → Options (copy v acc).1) :
      Options (initOption value zero copy acc).1 := by
    simp only [initOption]
    split
    · exact hacc
    · exact hcopy _ _ hacc
  have hstart : Options client := ⟨client.nodeId, client.tieBreaker, client.decisionAlgorithm, rfl⟩
  have hcopied : Options (initCopyOptions settings client msg).1 := by
    simp only [initCopyOptions]
    refine hoption (hoption (hoption (hoption (hoption hstart ?_) ?_) ?_) ?_) ?_
    · rintro nodeId acc ⟨_, tb, alg, h⟩
      exact ⟨nodeId, tb, alg, congrArg (fun f : Fixed => { f with nodeId }) h⟩
    · rintro _ acc ⟨node, tb, alg, h⟩
      exact ⟨node, tb, alg, h⟩
    · rintro interval acc ⟨node, tb, alg, h⟩
      obtain ⟨hb, dpd, hset⟩ := setHeartbeatInterval_client settings acc.1 interval
      refine ⟨node, tb, alg, ?_⟩
      simp only [initHeartbeatInterval, hset]
      exact h
    · rintro tieBreaker acc ⟨node, _, alg, h⟩
      exact ⟨node, tieBreaker, alg, congrArg (fun f : Fixed => { f with tieBreaker }) h⟩
    · rintro decisionAlgorithm acc ⟨node, tb, _, h⟩
      exact ⟨node, tb, decisionAlgorithm, congrArg (fun f : Fixed => { f with decisionAlgorithm }) h⟩
  have hpreset : (initOptions settings client msg).1.fixed =
      (initCopyOptions settings client msg).1.fixed := by
    simp only [initOptions]
    generalize initCopyOptions settings client msg = acc
    split <;> rfl
  rw [hpreset]
  exact hcopied

/-- What a message writes to its sender without registering it. -/
inductive ClientWrite (settings : Settings) (env : Env) (type : MsgType) (msg : MsgDecoded)
    (client : QnetdClient) : QnetdClient → Prop where
  | handshake {client' : QnetdClient} (h : HandshakeWrite settings env type msg client client') :
      ClientWrite settings env type msg client client'
  /-- The options of an INIT that is refused in the end. -/
  | options (client' : QnetdClient) (htype : type = .init)
      (htls : qnetdClientMsgReceivedCheckTls settings client = .success client') :
      ClientWrite settings env type msg client (initOptions settings client' msg).1

/-- Finding or adding the cluster leaves the clients alone. -/
theorem addCluster_cases {env : Env} {inst inst' : QnetdInstance} {name : List UInt8}
    {entry : ClusterEntry} (h : qnetdClusterListAddCluster env inst name = some (inst', entry)) :
    inst'.clients = inst.clients ∧ entry ∈ inst'.clusters ∧
      JoinedCluster inst.registry name inst'.registry entry.links := by
  simp only [qnetdClusterListAddCluster] at h
  split at h
  · next entry' hfound =>
    cases h
    have hmem := List.mem_of_find?_eq_some hfound
    have hname := List.find?_some hfound
    exact ⟨rfl, hmem, .found rfl (List.mem_map_of_mem hmem) (beq_iff_eq.mp hname)⟩
  · next hnone =>
    split at h
    · cases h
      refine ⟨rfl, List.mem_append_right _ (List.mem_singleton_self _), .added ?_ ?_ rfl⟩
      · intro k hk hname
        obtain ⟨entry, hentry, rfl⟩ := List.mem_map.mp hk
        have := List.find?_eq_none.mp hnone entry hentry
        exact this (beq_iff_eq.mpr hname)
      · simp only [QnetdInstance.registry, Registry.addCluster, List.map_append]
        rfl
    · cases h

/-- Writing back what was read changes nothing. -/
theorem storeCluster_cluster {inst : QnetdInstance} (hlinked : inst.registry.Linked)
    {entry : ClusterEntry} (hentry : entry ∈ inst.clusters) :
    inst.storeCluster entry.id (inst.cluster entry) = inst := by
  have hclients : (inst.clients.map fun c => ((inst.cluster entry).client? c.id).getD c) =
      inst.clients := by
    refine (List.map_congr_left fun c hc => ?_).trans (List.map_id _)
    cases hfound : (inst.cluster entry).client? c.id with
    | none => rfl
    | some d =>
      exact eq_of_id hlinked ((mem_cluster hlinked).mp (Qdevice.Qnetd.client?_mem hfound)).1 hc
        (Qdevice.Qnetd.client?_id hfound)
  have hclusters : (inst.clusters.map fun entry' => if entry'.id = entry.id then
      { entry' with
        clientList := (inst.cluster entry).clientList.map (·.id)
        algorithmData := (inst.cluster entry).algorithmData } else entry') = inst.clusters := by
    refine (List.map_congr_left fun entry' hentry' => ?_).trans (List.map_id _)
    split
    · next hid =>
      rw [cluster_ids hlinked hentry, eq_of_entryId hlinked hentry' hentry hid]
      rfl
    · rfl
  simp only [QnetdInstance.storeCluster, hclients, hclusters]

/-- A client without a cluster is in no list. -/
theorem not_mem_cluster {inst : QnetdInstance} {client : QnetdClient} {entry : ClusterEntry}
    (hlinked : inst.registry.Linked) (hmem : client ∈ inst.clients)
    (hentry : entry ∈ inst.clusters) (hnone : client.cluster = none) :
    ∀ c ∈ (inst.cluster entry).clientList, c.id ≠ client.id := by
  intro c hc hid
  obtain ⟨hc, hcid⟩ := (mem_cluster hlinked).mp hc
  have hcluster := (hlinked.mem_clientList (List.mem_map_of_mem hentry) (mem_registry hc)).mp hcid
  have hc_eq := eq_of_id hlinked hc hmem hid
  rw [hc_eq] at hcluster
  cases hnone.symm.trans hcluster

/-- The registry after the cluster that `initJoin` gives is written back. -/
theorem joins_initJoin {inst : QnetdInstance} {r : Registry} {name : List UInt8}
    {client joined : QnetdClient} {entry : ClusterEntry} {cluster : QnetdCluster}
    (hlinked : inst.registry.Linked) (hmem : client ∈ inst.clients)
    (hentry : entry ∈ inst.clusters) (hnone : client.cluster = none)
    (hjoined : JoinedCluster r name inst.registry entry.links)
    (hfixed : joined.fixed =
      { client.fixed with cluster := some entry.id, initReceived := true })
    (hagree : ∀ c ∈ (inst.cluster entry).clientList,
      tlvTieBreakerEq joined.tieBreaker c.tieBreaker = true ∧
      joined.decisionAlgorithm = c.decisionAlgorithm ∧ joined.nodeId ≠ c.nodeId)
    (hsame : SameFixed (joinedCluster (inst.cluster entry) joined) cluster) :
    Joins r client.fixed name inst.registry entry.links joined.fixed
      ((joinedCluster (inst.cluster entry) joined).clientList.map QnetdClient.fixed)
      (inst.storeCluster entry.id cluster).registry := by
  have hid : joined.id = client.id := congrArg Fixed.id hfixed
  have hids : cluster.clientList.map (·.id) =
      (joinedCluster (inst.cluster entry) joined).clientList.map (·.id) :=
    List.map_comp_of_map_eq Fixed.id hsame
  refine ⟨hjoined, hfixed, ?_, ?_, fun hsorted => ?_, ?_⟩
  · rw [registry_members]
    intro g hg
    obtain ⟨c, hc, rfl⟩ := List.mem_map.mp hg
    exact ⟨(hagree c hc).1, (hagree c hc).2.1⟩
  · rw [registry_members]
    exact (insertClient_perm _ _).map _
  · rw [registry_members, List.map_map] at hsorted
    rw [List.map_map]
    exact insertClient_sorted hsorted fun c hc => (hagree c hc).2.2
  · rw [registry_storeCluster (f := joined.fixed) (ids_nodup hlinked) ?_ ?_, hids, List.map_map]
    · rfl
    · intro d hd
      obtain ⟨d₀, hd₀, heq⟩ := List.exists_mem_of_map_eq hsame hd
      rcases mem_insertClient.mp hd₀ with rfl | hd₀
      · exact .inl heq.symm
      · refine .inr ⟨d₀, ((mem_cluster hlinked).mp hd₀).1, heq, fun hd₀id => ?_⟩
        exact not_mem_cluster hlinked hmem hentry hnone d₀ hd₀ (hd₀id.trans hid)
    · have hin : joined.id ∈ cluster.clientList.map (·.id) :=
        hids ▸ List.mem_map_of_mem (f := (·.id)) (mem_insertClient.mpr (.inl rfl))
      exact List.mem_map.mp hin

/-- What is left of an INIT whose options are accepted: nothing, or its sender is registered. -/
theorem initAddClient_cases {env : Env} {inst inst' : QnetdInstance} {client : QnetdClient}
    {code : TlvReplyErrorCode} (hlinked : inst.registry.Linked) (hmem : client ∈ inst.clients)
    (hsupported : (qnetdAlgorithmArray client.decisionAlgorithm).isSome = true)
    (h : initAddClient env inst client = .ok (inst', code)) :
    inst'.registry = inst.registry ∨
      client.cluster = none ∧ ∃ name r₀ k f' l, client.clusterName = some name ∧
        Joins inst.registry client.fixed name r₀ k f' l inst'.registry := by
  simp only [initAddClient] at h
  split at h
  · split at h
    · cases h
    · cases h
      exact .inl rfl
  · next name hname =>
    split at h
    · cases h
      exact .inl rfl
    · next inst₀ entry hadd =>
      obtain ⟨hclients, hentry, hjoined⟩ := addCluster_cases hadd
      have hlinked₀ := hjoined.linked hlinked
      split at h
      · cases h
      · next hnot =>
        cases h
        rcases initJoin_cases (inst₀.cluster entry) client hsupported with
          ⟨hcheck, hsame⟩ | ⟨joined, hjoin, -, hcheck, hresult⟩
        · refine .inl ?_
          rw [hsame, storeCluster_cluster hlinked₀ hentry]
          cases hjoined with
          | found hr _ _ => exact hr
          | added _ _ hk =>
            -- a new cluster has no clients to disagree with
            refine absurd ?_ hcheck
            have hnil : entry.clientList = [] := congrArg RegistryCluster.clientList hk
            simp [QnetdInstance.cluster, hnil, qnetdClientMsgReceivedInitCheckNewClient]
        · have hnone : client.cluster = none := by
            cases hcluster : client.cluster with
            | none => rfl
            | some i => exact absurd ⟨hcheck, by rw [hcluster]; rfl⟩ hnot
          have hmem₀ : client ∈ inst₀.clients := hclients ▸ hmem
          have hid : joined.id = client.id := by rw [hjoin]
          have hagree := checkNewClient_eq_noError.mp hcheck
          have hsame := sameFixed_joined joined
            (hid ▸ not_mem_cluster hlinked₀ hmem₀ hentry hnone)
          rw [hid, ← hresult] at hsame
          refine .inr ⟨hnone, name, inst₀.registry, entry.links, _, _, hname,
            joins_initJoin hlinked₀ hmem₀ hentry hnone hjoined ?_ ?_ hsame⟩
          · rw [hjoin]
            rfl
          · rw [hjoin]
            exact hagree

/-- What one event does to the registry. -/
inductive InstanceCase (settings : Settings) (env : Env) (inst : QnetdInstance)
    (event : InstanceEvent) (r' : Registry) : Prop where
  | stay (h : r' = inst.registry)
  | connect (id : ClientId) (hnew : ∀ c ∈ inst.clients, c.id ≠ id)
      (h : r' = inst.registry.connect (QnetdClient.fixed { id }))
  | write (msg : MsgDecoded) (type : MsgType) (client client' : QnetdClient)
      (hevent : event = .message client.id msg) (htype : MsgType.ofUInt16? msg.type = some type)
      (hmem : client ∈ inst.clients) (hsched : client.scheduleDisconnect = false)
      (hwrite : ClientWrite settings env type msg client client')
      (h : r' = inst.registry.write client'.fixed)
  /-- INIT writes its options and registers its sender. -/
  | join (msg : MsgDecoded) (client client' : QnetdClient) (clusterName : List UInt8)
      (r₀ : Registry) (k : RegistryCluster) (f' : Fixed) (l : List Fixed)
      (hevent : event = .message client.id msg) (hmem : client ∈ inst.clients)
      (hnone : client.cluster = none) (hpre : client.preinitReceived = true)
      (htls : qnetdClientMsgReceivedCheckTls settings client = .success client')
      (hname : client.clusterName = some clusterName)
      (hjoins : Joins (inst.registry.write (initOptions settings client' msg).1.fixed)
        (initOptions settings client' msg).1.fixed clusterName r₀ k f' l r')
  | leave (client : QnetdClient) (hmem : client ∈ inst.clients)
      (h : r' = inst.registry.remove client.fixed)

section Cases

variable {settings : Settings} {env : Env} {inst : QnetdInstance}

/-- A message that is only answered with an error. -/
private theorem registry_errorReply (id : ClientId) (reply : Reply) :
    (if env.replyQueued then ({ inst, reply := some reply } : InstanceHandled)
      else { inst := inst.scheduleDisconnect id }).inst.registry = inst.registry := by
  split
  · rfl
  · exact registry_scheduleDisconnect id

private theorem registry_delClient (client : QnetdClient) :
    ({ inst with
      clients := inst.clients.filter (·.id ≠ client.id)
      clusters := qnetdClusterListDelClient inst.clusters client.cluster client.id } :
        QnetdInstance).registry = inst.registry.remove client.fixed := by
  simp only [QnetdInstance.registry, Registry.remove, qnetdClusterListDelClient, List.filter_map,
    List.filterMap_map, List.map_filterMap]
  congr 1
  refine List.filterMap_congr fun entry _ => ?_
  simp only [Function.comp_apply]
  by_cases hid : some entry.id = client.cluster
  · have hid' : some entry.links.id = client.fixed.cluster := hid
    rw [if_pos hid, if_pos hid']
    by_cases hnil : entry.clientList.filter (· ≠ client.id) = []
    · have hnil' : entry.links.clientList.filter (· ≠ client.fixed.id) = [] := hnil
      rw [if_pos hnil, if_pos hnil']
      rfl
    · have hnil' : entry.links.clientList.filter (· ≠ client.fixed.id) ≠ [] := hnil
      rw [if_neg hnil, if_neg hnil']
      rfl
  · have hid' : some entry.links.id ≠ client.fixed.cluster := hid
    rw [if_neg hid, if_neg hid']
    rfl

private theorem registry_sendInitReply (client : QnetdClient) (msg : MsgDecoded)
    (code : TlvReplyErrorCode) :
    (sendInitReply env inst client msg code).inst.registry = inst.registry := by
  simp only [sendInitReply]
  split
  · rfl
  · exact registry_scheduleDisconnect _

variable (hlinked : inst.registry.Linked)

include hlinked

/-- The instance with the options of an INIT in its sender. -/
theorem linked_initOptions {client client' : QnetdClient} (msg : MsgDecoded)
    (hmem : client ∈ inst.clients)
    (htls : qnetdClientMsgReceivedCheckTls settings client = .success client') :
    let c₁ := (initOptions settings client' msg).1
    let inst₁ := inst.modifyClient c₁.id fun _ => c₁
    c₁.id = client.id ∧ inst₁.registry = inst.registry.write c₁.fixed ∧ inst₁.registry.Linked ∧
      c₁ ∈ inst₁.clients := by
  intro c₁ inst₁
  obtain ⟨nodeId, tb, alg, hfixed⟩ := fixed_initOptions settings client' msg
  have hsame : client'.fixed.id = client.fixed.id ∧ client'.fixed.cluster = client.fixed.cluster ∧
      client'.fixed.initReceived = client.fixed.initReceived ∧
      client'.fixed.preinitReceived = client.fixed.preinitReceived := by
    rcases checkTls_success htls with rfl | ⟨_, _, _, _, _, rfl⟩ <;> exact ⟨rfl, rfl, rfl, rfl⟩
  have hid : c₁.id = client.id := (congrArg Fixed.id hfixed).trans hsame.1
  have hregistry : inst₁.registry = inst.registry.write c₁.fixed := registry_modifyClient rfl
  refine ⟨hid, hregistry, ?_, List.mem_map.mpr ⟨client, hmem, by simp [hid]⟩⟩
  rw [hregistry]
  refine hlinked.write (mem_registry hmem) hid ?_ ?_ fun hpre => ?_
  · exact (congrArg Fixed.cluster hfixed).trans hsame.2.1
  · exact (congrArg Fixed.initReceived hfixed).trans hsame.2.2.1
  · exact ((congrArg Fixed.preinitReceived hfixed).trans hsame.2.2.2).trans hpre

/-- INIT. -/
theorem init_cases {client : QnetdClient} {msg : MsgDecoded} {res : InstanceHandled}
    (hmem : client ∈ inst.clients) (hsched : client.scheduleDisconnect = false)
    (htype : MsgType.ofUInt16? msg.type = some .init)
    (h : qnetdClientMsgReceivedInit settings env inst client msg = .ok res) :
    InstanceCase settings env inst (.message client.id msg) res.inst.registry := by
  simp only [qnetdClientMsgReceivedInit] at h
  split at h
  · cases h
    exact .stay (registry_errorReply client.id _)
  · cases h
    exact .stay (registry_scheduleDisconnect client.id)
  · next client' htls =>
    obtain ⟨nodeId, tb, alg, hfixed⟩ := fixed_initOptions settings client' msg
    have hsame : client'.fixed.id = client.fixed.id ∧ client'.fixed.cluster = client.fixed.cluster ∧
        client'.fixed.initReceived = client.fixed.initReceived ∧
        client'.fixed.preinitReceived = client.fixed.preinitReceived ∧
        client'.fixed.clusterName = client.fixed.clusterName := by
      rcases checkTls_success htls with rfl | ⟨_, _, _, _, _, rfl⟩ <;>
        exact ⟨rfl, rfl, rfl, rfl, rfl⟩
    have hwrite : ClientWrite settings env .init msg client (initOptions settings client' msg).1 :=
      .options client' rfl htls
    have hcode := @initOptions_noError settings client' msg
    have hoptions := linked_initOptions hlinked msg hmem htls
    generalize hopts : initOptions settings client' msg = opts at *
    obtain ⟨c₁, code⟩ := opts
    simp only at h hfixed hwrite hcode hoptions
    obtain ⟨-, hregistry, hlinked₁, hmem₁⟩ := hoptions
    split at h
    · next hnoError =>
      split at h
      · cases h
      · next inst₂ code₂ hadd =>
        cases h
        rw [registry_sendInitReply]
        obtain ⟨_, _, _, _, _, _, -, -, -, -, hsupported, hpre, hc₁⟩ := hcode hnoError
        have hsupported : (qnetdAlgorithmArray c₁.decisionAlgorithm).isSome = true := by
          rw [hc₁]
          exact hsupported
        rcases initAddClient_cases hlinked₁ hmem₁ hsupported hadd with
          hstay | ⟨hnone, name, r₀, k, f', l, hname, hjoins⟩
        · exact .write msg .init client c₁ rfl htype hmem hsched hwrite (hstay.trans hregistry)
        · refine .join msg client client' name r₀ k f' l rfl hmem ?_ (hsame.2.2.2.1.symm.trans hpre)
            htls ?_ ?_
          · exact hsame.2.1.symm.trans ((congrArg Fixed.cluster hfixed).symm.trans hnone)
          · exact hsame.2.2.2.2.symm.trans ((congrArg Fixed.clusterName hfixed).symm.trans hname)
          · rw [hopts]
            exact hregistry ▸ hjoins
    · cases h
      rw [registry_sendInitReply]
      exact .write msg .init client c₁ rfl htype hmem hsched hwrite hregistry

/-- Messages other than INIT. -/
theorem handler_write {client : QnetdClient} {msg : MsgDecoded} {type : MsgType} {res : Handled}
    {handler : QnetdCluster → QnetdClient → MsgDecoded → Except Abort Handled}
    (hmem : client ∈ inst.clients) (hsched : client.scheduleDisconnect = false)
    (htype : MsgType.ofUInt16? msg.type = some type)
    (hhandler : qnetdClientMsgHandler? settings env type = some handler)
    (h : handler (inst.clusterOf client) client msg = .ok res) :
    InstanceCase settings env inst (.message client.id msg)
      (inst.storeCluster (inst.clusterOf client).id res.cluster).registry := by
  have hwindow := window_clusterOf hlinked hmem
  have huniq : ∀ c ∈ (inst.clusterOf client).clientList, c.id = client.id → c = client :=
    fun c hc hid => eq_of_id hlinked (hwindow.sub c hc) hmem hid
  obtain ⟨client', hwrite, hid, hsame⟩ := (handler_cases huniq hhandler h).handshake huniq
  exact .write msg type client client' rfl htype hmem hsched (.handshake hwrite)
    (registry_storeCluster_window hlinked hwindow hid hsame)

theorem message_cases {id : ClientId} {msg : MsgDecoded} {res : InstanceHandled}
    (h : instanceMessage settings env inst id msg = .ok res) :
    InstanceCase settings env inst (.message id msg) res.inst.registry := by
  simp only [instanceMessage] at h
  split at h
  · cases h
    exact .stay rfl
  · next client hclient =>
    have hmem := QnetdInstance.client?_mem hclient
    obtain rfl := QnetdInstance.client?_id hclient
    split at h
    · cases h
      exact .stay rfl
    · next hsched =>
      have hsched : client.scheduleDisconnect = false := by simpa using hsched
      simp only [qnetdClientMsgReceived] at h
      split at h
      · cases h
        exact .stay (registry_errorReply client.id _)
      · next type htype =>
        split at h
        · next hnone =>
          have hinit : type = .init := by
            cases type <;> first | rfl | cases hnone
          subst hinit
          exact init_cases hlinked hmem hsched htype h
        · next handler hhandler =>
          split at h
          · cases h
          · next result hresult =>
            cases h
            have hcase := handler_write hlinked hmem hsched htype hhandler hresult
            split
            · rw [registry_scheduleDisconnect]
              exact hcase
            · exact hcase

theorem disconnect_cases {id : ClientId} {down : Bool} {res : InstanceHandled}
    (h : qnetdInstanceClientDisconnect env inst id down = .ok res) :
    InstanceCase settings env inst (.disconnect id down) res.inst.registry := by
  simp only [qnetdInstanceClientDisconnect] at h
  split at h
  · cases h
    exact .stay rfl
  · next client hclient =>
    have hmem := QnetdInstance.client?_mem hclient
    obtain rfl := QnetdInstance.client?_id hclient
    split at h
    · cases h
    · next result hresult =>
      cases h
      have hsame : SameFixed (inst.clusterOf client) result.cluster := by
        split at hresult
        · exact (sameKept_qnetdAlgorithmClientDisconnect hresult).fixed
        · cases hresult
          rfl
      have hstore := registry_storeCluster_same hlinked (window_clusterOf hlinked hmem) hsame
      refine .leave client hmem ?_
      rw [← hstore]
      exact registry_delClient client

/-- There is nothing else an event can do to the registry. -/
theorem instanceStep_cases {event : InstanceEvent} {res : InstanceHandled}
    (h : instanceStep settings env inst event = .ok res) :
    InstanceCase settings env inst event res.inst.registry := by
  cases event with
  | connect id =>
    cases h
    dsimp only [qnetdClientNetAccept]
    split
    · exact .stay rfl
    · next hnone =>
      split
      · exact .stay rfl
      · next client hclient =>
        have hfixed : client.fixed = QnetdClient.fixed { id } := by
          simp only [qnetdClientDpdTimerInit] at hclient
          split at hclient
          · split at hclient
            · cases hclient
              rfl
            · cases hclient
          · cases hclient
            rfl
        refine .connect id (fun c hc hid => ?_) ?_
        · have := client?_of_mem hlinked hc
          rw [hid] at this
          simp [this] at hnone
        · simp only [QnetdInstance.registry, Registry.connect, List.map_append, List.map_cons,
            List.map_nil, hfixed]
  | message id msg => exact message_cases hlinked h
  | unreadable id =>
    cases h
    refine .stay ?_
    dsimp only
    split
    · rfl
    · exact registry_scheduleDisconnect id
  | socketError id =>
    cases h
    exact .stay (registry_scheduleDisconnect id)
  | algoTimer id =>
    simp only [instanceStep, instanceAlgoTimer] at h
    split at h
    · cases h
      exact .stay rfl
    · next client hclient =>
      split at h
      · cases h
        exact .stay rfl
      · split at h
        · cases h
        · next result hresult =>
          cases h
          exact .stay (registry_storeCluster_same hlinked
            (window_clusterOf hlinked (QnetdInstance.client?_mem hclient))
            (sameKept_qnetdClientAlgoTimerCallback hresult).fixed)
  | dpdTimer id =>
    cases h
    refine .stay (registry_modifyClient_same (fun c => ?_) id)
    split <;> rfl
  | disconnect id down => exact disconnect_cases hlinked h

end Cases

end Qdevice.Qnetd
