import Qdevice.Spec.ServerClusters

/-! # Each cluster of a server goes through a run of its own

One event of the server is at most one event of each of its clusters: that of the cluster its client
is a member of, or becomes a member of.  The cluster takes this step alone, with the same answer to
the client and the same decision. -/

namespace Qdevice.Qnetd

/-! ### Runs of the members -/

/-- What happens to the clients of one cluster.  `join` is the INIT by which its sender becomes a
    member. -/
inductive MemberEvent where
  | join (conn : Connection) (msg : MsgDecoded)
  | message (id : ClientId) (msg : MsgDecoded)
  | unreadable (id : ClientId)
  | socketError (id : ClientId)
  | algoTimer (id : ClientId)
  | dpdTimer (id : ClientId)
  | disconnect (id : ClientId) (serverGoingDown : Bool)

/-- What an event of a member leaves behind. -/
structure MemberHandled where
  cluster : QnetdCluster
  reply : Option Reply := none
  log : List AlgoLog := []

/-- An answer; without a buffer for it the client is disconnected. -/
def memberAnswer (env : Env) (cluster : QnetdCluster) (id : ClientId) (reply : Reply) :
    MemberHandled :=
  if env.replyQueued then { cluster, reply := some reply }
  else { cluster := cluster.scheduleDisconnect id }

theorem memberAnswer_ids (env : Env) (cluster : QnetdCluster) (id : ClientId) (reply : Reply) :
    (memberAnswer env cluster id reply).cluster.clientList.map (·.id) =
      cluster.clientList.map (·.id) := by
  rw [memberAnswer]
  split
  · rfl
  · exact map_modifyClient _ _ _ _ fun _ _ _ => rfl

theorem memberAnswer_header (env : Env) (cluster : QnetdCluster) (id : ClientId) (reply : Reply) :
    (memberAnswer env cluster id reply).cluster.header = cluster.header := by
  rw [memberAnswer]
  split <;> rfl

/-- A message of a member.  INIT is none of them. -/
def memberMessage (settings : Settings) (env : Env) (cluster : QnetdCluster) (id : ClientId)
    (msg : MsgDecoded) : Except Abort MemberHandled :=
  match cluster.client? id with
  | none => .ok { cluster }
  | some client =>
    if client.scheduleDisconnect then .ok { cluster }
    else
      match MsgType.ofUInt16? msg.type with
      | none => .ok (memberAnswer env cluster id (.serverError msg.seqNumber .unsupportedMessage))
      | some type =>
        match qnetdClientMsgHandler? settings env type with
        | none => .ok { cluster }
        | some handler =>
          match handler cluster client msg with
          | .error abort => .error abort
          | .ok res =>
            .ok {
              cluster :=
                if res.disconnect then res.cluster.scheduleDisconnect id else res.cluster
              reply := res.reply
              log := res.log }

/-- One event of one cluster. -/
def memberStep (settings : Settings) (env : Env) (cluster : QnetdCluster) :
    MemberEvent → Except Abort MemberHandled
  | .join conn msg =>
    .ok (memberAnswer env (clusterInit settings cluster conn msg) conn.id
      (.initReply msg.seqNumber .noError msg.supportedMessages.isSome msg.supportedOptions.isSome))
  | .message id msg => memberMessage settings env cluster id msg
  | .unreadable id =>
    .ok { cluster := if env.replyQueued then cluster else cluster.scheduleDisconnect id }
  | .socketError id => .ok { cluster := cluster.scheduleDisconnect id }
  | .algoTimer id =>
    match clusterAlgoTimer env cluster id with
    | .error abort => .error abort
    | .ok (cluster, log) => .ok { cluster, log }
  | .dpdTimer id =>
    .ok { cluster := cluster.modifyClient id fun client =>
      if client.dpdTimer.isSome then { client with scheduleDisconnect := true, dpdTimer := none }
      else client }
  | .disconnect id serverGoingDown =>
    match clusterDisconnect env cluster id serverGoingDown with
    | .error abort => .error abort
    | .ok (cluster, log) => .ok { cluster, log }

/-- An event of one cluster as it is seen from outside: the outcomes of the calls it makes, what
    happens, the answer and the decision. -/
structure MemberObservation where
  env : Env
  event : MemberEvent
  reply : Option Reply
  log : List AlgoLog

/-- The runs of one cluster, from before its first client on, that answer as observed. -/
def memberMachine (settings : Settings) (id : ClusterId) (name : List UInt8) :
    Runs.Machine QnetdCluster MemberObservation where
  init := emptyCluster id name
  step cluster seen :=
    match memberStep settings seen.env cluster seen.event with
    | .error _ => none
    | .ok res => if res.reply = seen.reply ∧ res.log = seen.log then some res.cluster else none

/-! ### What an event of the server is for a cluster -/

/-- The client of an event. -/
def InstanceEvent.client : InstanceEvent → ClientId
  | .connect id | .message id _ | .unreadable id | .socketError id | .algoTimer id | .dpdTimer id
  | .disconnect id _ => id

/-- An event of a client that is a member of a cluster. -/
def InstanceEvent.member : InstanceEvent → Option MemberEvent
  | .connect _ => none
  | .message id msg => some (.message id msg)
  | .unreadable id => some (.unreadable id)
  | .socketError id => some (.socketError id)
  | .algoTimer id => some (.algoTimer id)
  | .dpdTimer id => some (.dpdTimer id)
  | .disconnect id serverGoingDown => some (.disconnect id serverGoingDown)

/-- The event by which a client becomes a member. -/
def InstanceEvent.join (client : QnetdClient) : InstanceEvent → Option MemberEvent
  | .message _ msg => some (.join client.connection msg)
  | .connect _ | .unreadable _ | .socketError _ | .algoTimer _ | .dpdTimer _
  | .disconnect _ _ => none

/-- What an event that took `inst` to `inst'` is for the cluster `k`, if its client is a member
    of it, or is one afterwards. -/
def memberEvent? (k : ClusterId) (inst inst' : QnetdInstance) (event : InstanceEvent) :
    Option MemberEvent :=
  match inst.client? event.client with
  | none => none
  | some client =>
    if client.cluster = some k then event.member
    else if (inst'.client? event.client).bind (·.cluster) = some k then event.join client
    else none

/-- How the cluster behind a pointer looks; before it exists, it is empty. -/
def QnetdInstance.clusterAt (inst : QnetdInstance) (id : ClusterId) (name : List UInt8) :
    QnetdCluster :=
  match inst.clusters.find? fun entry => entry.id == id with
  | some entry => inst.cluster entry
  | none => emptyCluster id name

/-- A cluster takes the step that the event is for it. -/
def StepsCluster (settings : Settings) (env : Env) (inst : QnetdInstance) (event : InstanceEvent)
    (res : InstanceHandled) (entry : ClusterEntry) : Prop :=
  match memberEvent? entry.id inst res.inst event with
  | none => res.inst.cluster entry = inst.clusterAt entry.id entry.clusterName
  | some e => memberStep settings env (inst.clusterAt entry.id entry.clusterName) e =
      .ok ⟨res.inst.cluster entry, res.reply, res.log⟩

/-- A client sends INIT only until it is a member of a cluster. -/
def InitsOnce (inst : QnetdInstance) : Env × InstanceEvent → Prop
  | (_, .message id msg) => MsgType.ofUInt16? msg.type = some .init →
      ∀ client ∈ inst.client? id, client.scheduleDisconnect = false → client.cluster = none
  | _ => True

section Step

variable {settings : Settings} {env : Env} {inst : QnetdInstance} {event : InstanceEvent}
  {res : InstanceHandled} {entry entry' : ClusterEntry} {client : QnetdClient}

theorem find?_entry (hlinked : inst.registry.Linked) (hentry : entry ∈ inst.clusters) :
    inst.clusters.find? (fun e => e.id == entry.id) = some entry := by
  have hnodup : (inst.clusters.map (·.id)).Nodup := by
    have hids := hlinked.clusterIds
    simp only [QnetdInstance.registry, List.map_map] at hids
    exact hids
  exact List.find?_key_of_mem hnodup hentry

theorem clusterAt_of_mem (hlinked : inst.registry.Linked) (hentry : entry ∈ inst.clusters)
    (name : List UInt8) : inst.clusterAt entry.id name = inst.cluster entry := by
  rw [QnetdInstance.clusterAt, find?_entry hlinked hentry]

theorem clusterOf_of_mem (hlinked : inst.registry.Linked) (hentry : entry ∈ inst.clusters)
    (hcluster : client.cluster = some entry.id) : inst.clusterOf client = inst.cluster entry := by
  have hfound : inst.clusters.find? (fun e => some e.id == client.cluster) = some entry := by
    rw [hcluster]
    exact find?_entry hlinked hentry
  rw [QnetdInstance.clusterOf, hfound]

/-- A member is found in its cluster. -/
theorem cluster_client? (hlinked : inst.registry.Linked) (hentry : entry ∈ inst.clusters)
    (hmem : client ∈ inst.clients) (hcluster : client.cluster = some entry.id) :
    (inst.cluster entry).client? client.id = some client := by
  have hlisted : client.id ∈ entry.clientList :=
    (hlinked.mem_clientList (List.mem_map_of_mem hentry) (mem_registry hmem)).mpr hcluster
  have hnodup : ((inst.cluster entry).clientList.map (·.id)).Nodup := by
    rw [cluster_ids hlinked hentry]
    exact hlinked.nodup _ (List.mem_map_of_mem hentry)
  exact List.find?_key_of_mem hnodup ((mem_cluster hlinked).mpr ⟨hmem, hlisted⟩)

/-- A client that points elsewhere is not in a list. -/
theorem not_listed (hlinked : inst.registry.Linked) (hentry : entry ∈ inst.clusters)
    (hmem : client ∈ inst.clients) (hcluster : client.cluster ≠ some entry.id) :
    client.id ∉ entry.clientList :=
  fun hlisted => hcluster
    ((hlinked.mem_clientList (List.mem_map_of_mem hentry) (mem_registry hmem)).mp hlisted)

/-- An entry of the cluster list that looks as it did, and whose cluster the client of the event
    is not in. -/
theorem stepsCluster_untouched (hlinked : inst.registry.Linked)
    (hlinked' : res.inst.registry.Linked) (hentry' : entry' ∈ res.inst.clusters)
    (hentry : entry ∈ inst.clusters) (hid : entry.id = entry'.id)
    (hlist : entry.clientList = entry'.clientList)
    (hview : res.inst.cluster entry' = inst.cluster entry)
    (hclient : ∀ client ∈ inst.client? event.client, client.cluster ≠ some entry'.id) :
    StepsCluster settings env inst event res entry' := by
  have hnone : memberEvent? entry'.id inst res.inst event = none := by
    simp only [memberEvent?]
    split
    · rfl
    · next client hfound =>
      have hmem := QnetdInstance.client?_mem hfound
      have hne := hclient client hfound
      rw [if_neg hne, if_neg]
      intro hcluster
      obtain ⟨client', hfound', hcluster'⟩ := Option.bind_eq_some_iff.mp hcluster
      have hlisted := (hlinked'.mem_clientList (List.mem_map_of_mem hentry')
        (mem_registry (QnetdInstance.client?_mem hfound'))).mpr hcluster'
      refine not_listed hlinked hentry hmem (hid ▸ hne) ?_
      rw [hlist, QnetdInstance.client?_id hfound, ← QnetdInstance.client?_id hfound']
      exact hlisted
  rw [StepsCluster, hnone, hview, ← hid, clusterAt_of_mem hlinked hentry]

/-- The cluster that the client of the event is a member of. -/
theorem stepsCluster_member {e : MemberEvent} (hlinked : inst.registry.Linked)
    (hentry : entry ∈ inst.clusters) (hid : entry.id = entry'.id)
    (hclient : inst.client? event.client = some client)
    (hcluster : client.cluster = some entry.id) (hevent : event.member = some e)
    (hstep : memberStep settings env (inst.cluster entry) e =
      .ok ⟨res.inst.cluster entry', res.reply, res.log⟩) :
    StepsCluster settings env inst event res entry' := by
  have hsome : memberEvent? entry'.id inst res.inst event = some e := by
    rw [memberEvent?, hclient]
    dsimp only
    rw [if_pos (hcluster.trans (congrArg some hid)), hevent]
  rw [StepsCluster, hsome, ← hid, clusterAt_of_mem hlinked hentry]
  exact hstep

/-! ### Writing a cluster back -/

/-- The entries after the cluster of `entry` is written back: its own, and the others as they
    were. -/
theorem storeCluster_entries {cl : QnetdCluster} (hlinked : inst.registry.Linked)
    (hentry : entry ∈ inst.clusters) (hheader : cl.header = (inst.cluster entry).header)
    (hnodup : (cl.clientList.map (·.id)).Nodup)
    (hin : ∀ c ∈ cl.clientList, ∃ c₀ ∈ inst.clients, c₀.id = c.id ∧
      ∀ k, c₀.cluster = some k → k = entry.id)
    (hentry' : entry' ∈ (inst.storeCluster entry.id cl).clusters) :
    entry'.id = entry.id ∧ (inst.storeCluster entry.id cl).cluster entry' = cl ∨
      entry' ∈ inst.clusters ∧ entry'.id ≠ entry.id ∧
        (inst.storeCluster entry.id cl).cluster entry' = inst.cluster entry' := by
  obtain ⟨entry₀, hentry₀, rfl⟩ := List.mem_map.mp hentry'
  by_cases hid : entry₀.id = entry.id
  · obtain rfl := eq_of_entryId hlinked hentry₀ hentry hid
    refine .inl ⟨by rw [if_pos rfl], ?_⟩
    rw [if_pos rfl]
    refine cluster_storeCluster_self hheader hnodup fun c hc => ?_
    obtain ⟨c₀, hc₀, hcid, -⟩ := hin c hc
    rw [← hcid, client?_of_mem hlinked hc₀]
    rfl
  · rw [if_neg hid]
    refine .inr ⟨hentry₀, hid, cluster_storeCluster_other fun i hi => ?_⟩
    -- no client is in two clusters
    refine List.find?_eq_none.mpr fun c hc hci => ?_
    obtain ⟨c₀, hc₀, hcid, honly⟩ := hin c hc
    have hlisted₀ : c₀.id ∈ entry₀.clientList := by
      rw [hcid, beq_iff_eq.mp hci]
      exact hi
    have hcluster₀ := (hlinked.mem_clientList (List.mem_map_of_mem hentry₀)
      (mem_registry hc₀)).mp hlisted₀
    exact hid (honly _ hcluster₀)

/-- A handler leaves the same clients in the cluster. -/
theorem storeCluster_entries_of_ids {cl : QnetdCluster} (hlinked : inst.registry.Linked)
    (hentry : entry ∈ inst.clusters) (hheader : cl.header = (inst.cluster entry).header)
    (hids : cl.clientList.map (·.id) = (inst.cluster entry).clientList.map (·.id))
    (hentry' : entry' ∈ (inst.storeCluster entry.id cl).clusters) :
    entry'.id = entry.id ∧ (inst.storeCluster entry.id cl).cluster entry' = cl ∨
      entry' ∈ inst.clusters ∧ entry'.id ≠ entry.id ∧
        (inst.storeCluster entry.id cl).cluster entry' = inst.cluster entry' := by
  refine storeCluster_entries hlinked hentry hheader ?_ (fun c hc => ?_) hentry'
  · rw [hids, cluster_ids hlinked hentry]
    exact hlinked.nodup _ (List.mem_map_of_mem hentry)
  · obtain ⟨c₀, hc₀, hcid⟩ := List.exists_mem_of_map_eq hids hc
    obtain ⟨hmem, hlisted⟩ := (mem_cluster hlinked).mp hc₀
    refine ⟨c₀, hmem, hcid, fun k hk => ?_⟩
    have hcluster := (hlinked.mem_clientList (List.mem_map_of_mem hentry) (mem_registry hmem)).mp
      hlisted
    exact Option.some.inj (hk.symm.trans hcluster)

/-- Writing to a client that is not in the cluster. -/
theorem modifyClient_of_not_mem {cluster : QnetdCluster} {id : ClientId}
    {f : QnetdClient → QnetdClient} (h : ∀ c ∈ cluster.clientList, c.id ≠ id) :
    cluster.modifyClient id f = cluster := by
  refine congrArg (fun l => { cluster with clientList := l }) ?_
  refine (List.map_congr_left fun c hc => ?_).trans (List.map_id _)
  exact if_neg (h c hc)

theorem mem_clientList_of_mem_cluster {c : QnetdClient}
    (hc : c ∈ (inst.cluster entry).clientList) : c.id ∈ entry.clientList := by
  obtain ⟨i, hi, hfound⟩ := List.mem_filterMap.mp hc
  rw [QnetdInstance.client?_id hfound]
  exact hi

/-- Scheduling the disconnect of a client that is in no list. -/
theorem scheduleDisconnect_of_not_listed {i : ClientId} (h : i ∉ entry.clientList) :
    (inst.scheduleDisconnect i).cluster entry = inst.cluster entry := by
  rw [cluster_scheduleDisconnect]
  refine modifyClient_of_not_mem fun c hc hid => h ?_
  rw [← hid]
  exact mem_clientList_of_mem_cluster hc

/-! ### Events of members -/

/-- An event of a member that writes to its cluster, and then perhaps to its own flag. -/
theorem steps_of_storeCluster (cl : QnetdCluster) (disconnect : Bool) {e : MemberEvent}
    {reply : Option Reply} {log : List AlgoLog} (hlinked : inst.registry.Linked)
    (hclient : inst.client? event.client = some client) (hentry : entry ∈ inst.clusters)
    (hcluster : client.cluster = some entry.id) (hevent : event.member = some e)
    (hheader : cl.header = (inst.cluster entry).header)
    (hids : cl.clientList.map (·.id) = (inst.cluster entry).clientList.map (·.id))
    (hres : res = {
      inst := if disconnect then (inst.storeCluster entry.id cl).scheduleDisconnect event.client
        else inst.storeCluster entry.id cl
      reply, log })
    (hlinked' : res.inst.registry.Linked)
    (hstep : memberStep settings env (inst.cluster entry) e =
      .ok ⟨if disconnect then cl.scheduleDisconnect event.client else cl, reply, log⟩)
    (hentry' : entry' ∈ res.inst.clusters) : StepsCluster settings env inst event res entry' := by
  have hmem := QnetdInstance.client?_mem hclient
  have hclientId := QnetdInstance.client?_id hclient
  have hclusters : res.inst.clusters = (inst.storeCluster entry.id cl).clusters := by
    rw [hres]
    cases disconnect <;> rfl
  rcases storeCluster_entries_of_ids hlinked hentry hheader hids (hclusters ▸ hentry') with
    ⟨hid, hview⟩ | ⟨hold, hne, hview⟩
  · refine stepsCluster_member hlinked hentry hid.symm hclient hcluster hevent (hstep.trans ?_)
    rw [hres]
    cases disconnect
    · exact congrArg (fun c => Except.ok (MemberHandled.mk c reply log)) hview.symm
    · refine congrArg (fun c => Except.ok (MemberHandled.mk c reply log)) ?_
      exact ((cluster_scheduleDisconnect _ _).trans
        (congrArg (QnetdCluster.scheduleDisconnect · event.client) hview)).symm
  · have hnot : event.client ∉ entry'.clientList := by
      rw [← hclientId]
      refine not_listed hlinked hold hmem ?_
      rw [hcluster]
      exact fun h => hne (Option.some.inj h).symm
    refine stepsCluster_untouched hlinked hlinked' hentry' hold rfl rfl ?_ fun c hc => ?_
    · rw [hres]
      cases disconnect
      · exact hview
      · exact (scheduleDisconnect_of_not_listed hnot).trans hview
    · obtain rfl := Option.some.inj (hclient.symm.trans hc)
      rw [hcluster]
      exact fun h => hne (Option.some.inj h).symm

/-- An event that changes what a cluster looks like only if its client is a member. -/
theorem steps_of_view {g : QnetdCluster → QnetdCluster} (hlinked : inst.registry.Linked)
    (hlinked' : res.inst.registry.Linked) (hclusters : res.inst.clusters = inst.clusters)
    (hview : ∀ entry ∈ inst.clusters, res.inst.cluster entry = g (inst.cluster entry))
    (hother : ∀ cluster : QnetdCluster,
      (∀ c ∈ cluster.clientList, c.id ≠ event.client) → g cluster = cluster)
    (hmember : ∀ entry ∈ inst.clusters, ∀ client, inst.client? event.client = some client →
      client.cluster = some entry.id → ∃ e, event.member = some e ∧
        memberStep settings env (inst.cluster entry) e =
          .ok ⟨g (inst.cluster entry), res.reply, res.log⟩)
    (hentry' : entry' ∈ res.inst.clusters) : StepsCluster settings env inst event res entry' := by
  have hentry : entry' ∈ inst.clusters := hclusters ▸ hentry'
  by_cases hin : ∃ client, inst.client? event.client = some client ∧
      client.cluster = some entry'.id
  · obtain ⟨client, hclient, hcluster⟩ := hin
    obtain ⟨e, hevent, hstep⟩ := hmember entry' hentry client hclient hcluster
    refine stepsCluster_member hlinked hentry rfl hclient hcluster hevent ?_
    rw [hview entry' hentry]
    exact hstep
  · have hclient (client : QnetdClient) (hc : client ∈ inst.client? event.client) :
        client.cluster ≠ some entry'.id := fun hcluster => hin ⟨client, hc, hcluster⟩
    refine stepsCluster_untouched hlinked hlinked' hentry' hentry rfl rfl ?_ hclient
    rw [hview entry' hentry]
    refine hother _ fun c hc hid => ?_
    obtain ⟨hmem, hlisted⟩ := (mem_cluster hlinked).mp hc
    have hcluster := (hlinked.mem_clientList (List.mem_map_of_mem hentry) (mem_registry hmem)).mp
      hlisted
    exact hclient c (hid ▸ client?_of_mem hlinked hmem) hcluster

/-- An event that writes to its client behind its pointer. -/
theorem steps_of_modifyClient {f : QnetdClient → QnetdClient} (hf : ∀ c, (f c).id = c.id)
    (hlinked : inst.registry.Linked) (hlinked' : res.inst.registry.Linked)
    (hres : res.inst = inst.modifyClient event.client f)
    (hmember : ∀ entry ∈ inst.clusters, ∀ client, inst.client? event.client = some client →
      client.cluster = some entry.id → ∃ e, event.member = some e ∧
        memberStep settings env (inst.cluster entry) e =
          .ok ⟨(inst.cluster entry).modifyClient event.client f, res.reply, res.log⟩)
    (hentry' : entry' ∈ res.inst.clusters) : StepsCluster settings env inst event res entry' := by
  refine steps_of_view (g := (QnetdCluster.modifyClient · event.client f)) hlinked hlinked'
    (by rw [hres]; rfl) (fun entry _ => ?_) (fun _ => modifyClient_of_not_mem) hmember hentry'
  rw [hres]
  exact cluster_modifyClient (fun c _ => hf c) entry

/-- An event that changes nothing. -/
theorem steps_of_same (hlinked : inst.registry.Linked) (hres : res.inst = inst)
    (hmember : ∀ entry ∈ inst.clusters, ∀ client, inst.client? event.client = some client →
      client.cluster = some entry.id → ∃ e, event.member = some e ∧
        memberStep settings env (inst.cluster entry) e =
          .ok ⟨inst.cluster entry, res.reply, res.log⟩)
    (hentry' : entry' ∈ res.inst.clusters) : StepsCluster settings env inst event res entry' :=
  steps_of_view (g := fun cluster => cluster) hlinked (hres.symm ▸ hlinked) (by rw [hres])
    (fun _ _ => by rw [hres]) (fun _ _ => rfl) hmember hentry'

/-! ### Messages -/

theorem clusterOf_of_none (hnone : client.cluster = none) :
    inst.clusterOf client =
      { id := inst.nextClusterId, clusterName := [], clientList := [client] } := by
  have hfound : inst.clusters.find? (fun entry => some entry.id == client.cluster) = none := by
    rw [hnone]
    exact List.find?_eq_none.mpr fun entry _ h => by cases h
  rw [QnetdInstance.clusterOf, hfound]

/-- The entry of the cluster that a client points to. -/
theorem exists_entry (hlinked : inst.registry.Linked) (hmem : client ∈ inst.clients) {k : ClusterId}
    (hcluster : client.cluster = some k) : ∃ entry ∈ inst.clusters, entry.id = k := by
  obtain ⟨_, hk, hid, -⟩ := hlinked.listed client.fixed (mem_registry hmem) k hcluster
  obtain ⟨entry, hentry, rfl⟩ := List.mem_map.mp hk
  exact ⟨entry, hentry, hid⟩

/-- Writing back what a handler has done for a client without a cluster. -/
theorem storeCluster_outside (cl : QnetdCluster) (hlinked : inst.registry.Linked)
    (hmem : client ∈ inst.clients) (hnone : client.cluster = none)
    (hids : cl.clientList.map (·.id) = [client.id]) :
    (inst.storeCluster inst.nextClusterId cl).clusters = inst.clusters ∧
      ∀ entry ∈ inst.clusters,
        (inst.storeCluster inst.nextClusterId cl).cluster entry = inst.cluster entry := by
  refine ⟨?_, fun entry hentry => cluster_storeCluster_other fun i hi => ?_⟩
  · refine (List.map_congr_left fun entry hentry => ?_).trans (List.map_id _)
    exact if_neg (Nat.ne_of_lt (hlinked.fresh _ (List.mem_map_of_mem hentry)))
  · refine List.find?_eq_none.mpr fun c hc hci => ?_
    have hcid : c.id = client.id := by
      have hin : c.id ∈ cl.clientList.map (·.id) := List.mem_map_of_mem hc
      rw [hids] at hin
      exact List.mem_singleton.mp hin
    refine not_listed hlinked hentry hmem (by rw [hnone]; exact fun h => by cases h) ?_
    rw [← hcid, beq_iff_eq.mp hci]
    exact hi

/-- An event of a client without a cluster, after which every cluster looks as before. -/
theorem steps_of_outside (hlinked : inst.registry.Linked) (hlinked' : res.inst.registry.Linked)
    (hclient : ∀ client ∈ inst.client? event.client, client.cluster = none)
    (hclusters : res.inst.clusters = inst.clusters)
    (hview : ∀ entry ∈ inst.clusters, res.inst.cluster entry = inst.cluster entry)
    (hentry' : entry' ∈ res.inst.clusters) : StepsCluster settings env inst event res entry' := by
  refine steps_of_view (g := fun cluster => cluster) hlinked hlinked' hclusters hview
    (fun _ _ => rfl) (fun entry _ client hfound hcluster => ?_) hentry'
  rw [hclient client hfound] at hcluster
  cases hcluster

/-- An event that is only answered. -/
theorem steps_of_answer {reply : Reply} (hlinked : inst.registry.Linked)
    (hlinked' : res.inst.registry.Linked)
    (hres : res = if env.replyQueued then { inst, reply := some reply }
      else { inst := inst.scheduleDisconnect event.client })
    (hmember : ∀ entry ∈ inst.clusters, ∀ client, inst.client? event.client = some client →
      client.cluster = some entry.id → ∃ e, event.member = some e ∧
        memberStep settings env (inst.cluster entry) e =
          .ok (memberAnswer env (inst.cluster entry) event.client reply))
    (hentry' : entry' ∈ res.inst.clusters) : StepsCluster settings env inst event res entry' := by
  by_cases hqueued : env.replyQueued = true
  · rw [if_pos hqueued] at hres
    subst hres
    refine steps_of_same hlinked rfl (fun entry hentry client hfound hcluster => ?_) hentry'
    obtain ⟨e, hevent, hstep⟩ := hmember entry hentry client hfound hcluster
    rw [memberAnswer, if_pos hqueued] at hstep
    exact ⟨e, hevent, hstep⟩
  · rw [if_neg hqueued] at hres
    subst hres
    refine steps_of_modifyClient (f := fun c => { c with scheduleDisconnect := true })
      (fun _ => rfl) hlinked hlinked' rfl (fun entry hentry client hfound hcluster => ?_) hentry'
    obtain ⟨e, hevent, hstep⟩ := hmember entry hentry client hfound hcluster
    rw [memberAnswer, if_neg hqueued] at hstep
    exact ⟨e, hevent, hstep⟩

theorem memberMessage_of_handler {handler : QnetdCluster → QnetdClient → MsgDecoded →
    Except Abort Handled} {cluster : QnetdCluster} {i : ClientId} {msg : MsgDecoded}
    {type : MsgType} {handled : Handled} (hclient : cluster.client? i = some client)
    (hsched : client.scheduleDisconnect = false) (htype : MsgType.ofUInt16? msg.type = some type)
    (hhandler : qnetdClientMsgHandler? settings env type = some handler)
    (hok : handler cluster client msg = .ok handled) :
    memberMessage settings env cluster i msg = .ok {
      cluster := if handled.disconnect then handled.cluster.scheduleDisconnect i
        else handled.cluster
      reply := handled.reply
      log := handled.log } := by
  rw [memberMessage, hclient]
  dsimp only
  rw [if_neg (by rw [hsched]; decide), htype]
  dsimp only
  rw [hhandler]
  dsimp only
  rw [hok]

/-- The message handlers other than that of INIT. -/
theorem steps_of_handler {handler : QnetdCluster → QnetdClient → MsgDecoded →
    Except Abort Handled} {msg : MsgDecoded} {type : MsgType} {handled : Handled}
    (hlinked : inst.registry.Linked) (hevent : event = .message client.id msg)
    (hmem : client ∈ inst.clients) (hsched : client.scheduleDisconnect = false)
    (htype : MsgType.ofUInt16? msg.type = some type)
    (hhandler : qnetdClientMsgHandler? settings env type = some handler)
    (hok : handler (inst.clusterOf client) client msg = .ok handled)
    (hres : res = {
      inst := if handled.disconnect then
          (inst.storeCluster (inst.clusterOf client).id handled.cluster).scheduleDisconnect
            client.id
        else inst.storeCluster (inst.clusterOf client).id handled.cluster
      reply := handled.reply
      log := handled.log })
    (hlinked' : res.inst.registry.Linked) (hentry' : entry' ∈ res.inst.clusters) :
    StepsCluster settings env inst event res entry' := by
  subst hevent
  have hwindow := window_clusterOf hlinked hmem
  have hcase : HandlerCase settings env type (inst.clusterOf client) client msg handled :=
    handler_cases (fun c hc hid => eq_of_id hlinked (hwindow.sub c hc) hmem hid) hhandler hok
  obtain ⟨client', -, hid', hsame⟩ := hcase.handshake
    (fun c hc hid => eq_of_id hlinked (hwindow.sub c hc) hmem hid)
  have hids : handled.cluster.clientList.map (·.id) =
      (inst.clusterOf client).clientList.map (·.id) :=
    (List.map_comp_of_map_eq Fixed.id hsame).trans
      (map_modifyClient _ _ _ _ fun c _ hc => hid'.trans hc.symm)
  have hfound := client?_of_mem hlinked hmem
  cases hcluster : client.cluster with
  | some k =>
    obtain ⟨entry, hentry, rfl⟩ := exists_entry hlinked hmem hcluster
    have hof := clusterOf_of_mem hlinked hentry hcluster
    rw [hof] at hok hres hids hcase
    exact steps_of_storeCluster _ _ hlinked hfound hentry hcluster rfl hcase.header hids hres
      hlinked'
      (memberMessage_of_handler (cluster_client? hlinked hentry hmem hcluster) hsched htype hhandler
        hok) hentry'
  | none =>
    rw [clusterOf_of_none hcluster] at hres hids
    obtain ⟨hclusters, hview⟩ := storeCluster_outside _ hlinked hmem hcluster hids
    refine steps_of_outside hlinked hlinked' (fun c hc => ?_) ?_ (fun entry hentry => ?_) hentry'
    · obtain rfl := Option.some.inj (hfound.symm.trans hc)
      exact hcluster
    · rw [hres]
      split
      · exact hclusters
      · exact hclusters
    · have hnot := not_listed hlinked hentry hmem (by rw [hcluster]; exact fun h => by cases h)
      rw [hres]
      dsimp only
      split
      · exact (scheduleDisconnect_of_not_listed hnot).trans (hview entry hentry)
      · exact hview entry hentry

end Step

end Qdevice.Qnetd
