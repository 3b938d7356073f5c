import Mathlib.Data.List.Find
import Qdevice.Spec.ServerClusterJoin

/-! # Each cluster of a server goes through a run of its own

One event of the server is at most one event of each of its clusters, with the same answer
and the same decision; so a run of the server is, for each cluster, a run of this cluster alone.
In particular no client of one cluster can influence what the server tells those of
another. -/

namespace Qdevice.Qnetd

section Step

variable {settings : Settings} {env : Env} {inst : QnetdInstance} {event : InstanceEvent}
  {res : InstanceHandled} {entry entry' : ClusterEntry} {client : QnetdClient}

/-! ### INIT -/

theorem steps_of_init {msg : MsgDecoded} (hlinked : inst.registry.Linked)
    (hfresh : inst.FreshOutside) (hmem : client ∈ inst.clients) (hnone : client.cluster = none)
    (hsched : client.scheduleDisconnect = false) (hevent : event = .message client.id msg)
    (h : qnetdClientMsgReceivedInit settings env inst client msg = .ok res)
    (hlinked' : res.inst.registry.Linked) (hentry' : entry' ∈ res.inst.clusters) :
    StepsCluster settings env inst event res entry' := by
  have hnone' (c : QnetdClient) (hc : c ∈ inst.client? event.client) : c.cluster = none := by
    subst hevent
    obtain rfl := Option.some.inj ((client?_of_mem hlinked hmem).symm.trans hc)
    exact hnone
  -- The sender is in no cluster before, so an INIT that fails is a step of none.
  have houtside {entry : ClusterEntry} {c : QnetdClient} (hc : inst.client? event.client = some c)
      (hcluster : c.cluster = some entry.id) {P : Prop} : P := by
    rw [hnone' c hc] at hcluster
    cases hcluster
  simp only [qnetdClientMsgReceivedInit] at h
  split at h
  · cases h
    subst hevent
    exact steps_of_answer hlinked hlinked' rfl (fun _ _ _ hc hcluster => houtside hc hcluster)
      hentry'
  · cases h
    subst hevent
    exact steps_of_modifyClient (f := fun c => { c with scheduleDisconnect := true })
      (fun _ => rfl) hlinked hlinked' rfl (fun _ _ _ hc hcluster => houtside hc hcluster) hentry'
  · next client' htls =>
    have hfirst := linked_initOptions hlinked msg hmem htls
    have hnoError := @initOptions_noError settings client' msg
    generalize hoptions : initOptions settings client' msg = opts at *
    obtain ⟨written, code⟩ := opts
    simp only at h hfirst hnoError
    obtain ⟨hid, -, hlinked₁, hmem₁⟩ := hfirst
    split at h
    · next hcode =>
      subst hcode
      split at h
      · cases h
      · next inst₂ code₂ hadd =>
        have hres := (Except.ok.inj h).symm
        obtain ⟨_, _, _, _, _, _, -, -, -, -, hsupported, hpre, hwritten⟩ := hnoError rfl
        have hsupported : (qnetdAlgorithmArray written.decisionAlgorithm).isSome = true := by
          rw [hwritten]
          exact hsupported
        have hname : written.clusterName = client'.clusterName := by rw [hwritten]
        rcases initAddClient_views hlinked₁ hsupported hadd with
          rfl | ⟨name, inst₀, entry, hwname, rfl, hadded, hcheck, rfl⟩
        · exact steps_of_refusedInit hlinked hmem hnone hevent hid hres hlinked' hentry'
        · -- The cluster that it joins sees a newcomer.
          have hnewcomer : Newcomer client name := by
            have hsame : client'.preinitReceived = client.preinitReceived ∧
                client'.clusterName = client.clusterName := by
              rcases checkTls_success htls with rfl | ⟨_, _, _, _, _, rfl⟩ <;> exact ⟨rfl, rfl⟩
            exact ⟨hfresh client hmem hnone, hnone, hsched, hsame.1.symm.trans hpre,
              (hname.trans hsame.2).symm.trans hwname⟩
          exact steps_of_joinedInit hlinked hmem hevent hnewcomer htls hoptions hadded hcheck hres
            hlinked' hentry'
    · exact steps_of_refusedInit hlinked hmem hnone hevent hid (Except.ok.inj h).symm hlinked'
        hentry'

/-! ### Messages -/

theorem steps_of_message {i : ClientId} {msg : MsgDecoded} (hlinked : inst.registry.Linked)
    (hfresh : inst.FreshOutside) (honce : InitsOnce inst (env, .message i msg))
    (h : instanceMessage settings env inst i msg = .ok res)
    (hlinked' : res.inst.registry.Linked) (hentry' : entry' ∈ res.inst.clusters) :
    StepsCluster settings env inst (.message i msg) res entry' := by
  simp only [instanceMessage] at h
  split at h
  · next hfound =>
    cases h
    refine steps_of_same hlinked rfl (fun _ _ _ hc _ => ?_) hentry'
    cases hfound.symm.trans hc
  · next client hfound =>
    have hmem := QnetdInstance.client?_mem hfound
    obtain rfl := QnetdInstance.client?_id hfound
    -- what a message of a member is for its cluster
    have hmember (out : QnetdCluster → MemberHandled)
        (hstep : ∀ cluster : QnetdCluster, cluster.client? client.id = some client →
          memberMessage settings env cluster client.id msg = .ok (out cluster))
        (entry : ClusterEntry) (hentry : entry ∈ inst.clusters) (c : QnetdClient)
        (hc : inst.client? client.id = some c) (hcluster : c.cluster = some entry.id) :
        ∃ e, (InstanceEvent.message client.id msg).member = some e ∧
          memberStep settings env (inst.cluster entry) e = .ok (out (inst.cluster entry)) := by
      obtain rfl := Option.some.inj (hfound.symm.trans hc)
      exact ⟨_, rfl, hstep _ (cluster_client? hlinked hentry hmem hcluster)⟩
    split at h
    · next hsched =>
      cases h
      refine steps_of_same hlinked rfl (hmember (fun cluster => { cluster }) fun cluster hc => ?_)
        hentry'
      rw [memberMessage, hc]
      exact if_pos hsched
    · next hsched =>
      have hsched : client.scheduleDisconnect = false := by simpa using hsched
      simp only [qnetdClientMsgReceived] at h
      split at h
      · next htype =>
        refine steps_of_answer hlinked hlinked' (Except.ok.inj h).symm
          (hmember (memberAnswer env · client.id _) fun cluster hc => ?_) hentry'
        rw [memberMessage, hc]
        dsimp only
        rw [if_neg (by rw [hsched]; decide), htype]
      · next type htype =>
        split at h
        · next hnone =>
          have hinit : type = .init := by
            cases type <;> first | rfl | cases hnone
          exact steps_of_init hlinked hfresh hmem (honce (hinit ▸ htype) client hfound hsched)
            hsched rfl h hlinked' hentry'
        · next handler hhandler =>
          split at h
          · cases h
          · next handled hok =>
            exact steps_of_handler hlinked rfl hmem hsched htype hhandler hok
              (Except.ok.inj h).symm hlinked' hentry'

/-! ### The algorithm timer -/

theorem steps_of_algoTimer {i : ClientId} (hlinked : inst.registry.Linked)
    (hfresh : inst.FreshOutside) (h : instanceAlgoTimer env inst i = .ok res)
    (hlinked' : res.inst.registry.Linked) (hentry' : entry' ∈ res.inst.clusters) :
    StepsCluster settings env inst (.algoTimer i) res entry' := by
  simp only [instanceAlgoTimer] at h
  split at h
  · next hfound =>
    cases h
    refine steps_of_same hlinked rfl (fun _ _ _ hc _ => ?_) hentry'
    cases hfound.symm.trans hc
  · next client hfound =>
    have hmem := QnetdInstance.client?_mem hfound
    obtain rfl := QnetdInstance.client?_id hfound
    split at h
    · next htimer =>
      cases h
      refine steps_of_same hlinked rfl (fun entry hentry c hc hcluster => ?_) hentry'
      obtain rfl := Option.some.inj (hfound.symm.trans hc)
      refine ⟨_, rfl, ?_⟩
      simp only [memberStep, clusterAlgoTimer, cluster_client? hlinked hentry hmem hcluster, htimer,
        if_true]
    · next htimer =>
      split at h
      · cases h
      · next result hresult =>
        cases hcluster : client.cluster with
        | none =>
          have htimer' := congrArg Progress.algoTimer (hfresh client hmem hcluster)
          exact absurd (by rw [show client.algoTimer = none from htimer']; rfl) htimer
        | some k =>
          obtain ⟨entry, hentry, rfl⟩ := exists_entry hlinked hmem hcluster
          rw [clusterOf_of_mem hlinked hentry hcluster] at hresult h
          have hsame := (sameKept_qnetdClientAlgoTimerCallback hresult).fixed
          refine steps_of_storeCluster result.cluster false hlinked hfound hentry hcluster rfl
            (header_qnetdClientAlgoTimerCallback hresult)
            (List.map_comp_of_map_eq Fixed.id hsame) (Except.ok.inj h).symm hlinked' ?_ hentry'
          simp only [memberStep, clusterAlgoTimer, cluster_client? hlinked hentry hmem hcluster]
          rw [if_neg htimer, hresult]
          rfl

/-! ### Disconnecting -/

/-- A cluster after its client is gone. -/
theorem cluster_remove (inst : QnetdInstance) (entry : ClusterEntry) (i : ClientId)
    (clusters : List ClusterEntry) :
    ({ inst with clients := inst.clients.filter (·.id ≠ i), clusters } : QnetdInstance).cluster
        { entry with clientList := entry.clientList.filter (· ≠ i) } =
      { inst.cluster entry with
        clientList := (inst.cluster entry).clientList.filter (·.id ≠ i) } := by
  have hfind (j : ClientId) : (inst.clients.filter (·.id ≠ i)).find? (·.id == j) =
      if j = i then none else inst.client? j := by
    rw [List.find?_filter]
    split
    · next hj =>
      refine List.find?_eq_none.mpr fun c _ hc => ?_
      have hboth := of_decide_eq_true hc
      simp only [hj, ne_eq, decide_not, Bool.not_eq_true', decide_eq_false_iff_not, beq_iff_eq]
        at hboth
      exact hboth.1 hboth.2
    · next hj =>
      refine List.find?_congr fun c _ => ?_
      by_cases hc : c.id = j
      · simp [hc, hj]
      · simp [hc]
  simp only [QnetdInstance.cluster]
  refine congrArg (fun l =>
    (⟨entry.id, entry.clusterName, l, entry.algorithmData⟩ : QnetdCluster)) ?_
  rw [List.filterMap_filter, List.filter_filterMap]
  refine List.filterMap_congr fun j _ => ?_
  rw [show ({ inst with clients := inst.clients.filter (·.id ≠ i), clusters } :
    QnetdInstance).client? j = _ from hfind j]
  by_cases hj : j = i
  · subst hj
    cases hc : inst.client? j with
    | none => simp
    | some c => simp [Option.filter, QnetdInstance.client?_id hc]
  · cases hc : inst.client? j with
    | none => simp [hj]
    | some c => simp [hj, Option.filter, QnetdInstance.client?_id hc]

/-- A cluster that the client was not in. -/
theorem cluster_remove_of_not_listed {i : ClientId} {clusters : List ClusterEntry}
    (hnot : i ∉ entry.clientList) :
    ({ inst with clients := inst.clients.filter (·.id ≠ i), clusters } : QnetdInstance).cluster
      entry = inst.cluster entry := by
  have hlist : entry.clientList.filter (· ≠ i) = entry.clientList :=
    List.filter_eq_self.mpr fun j hj => decide_eq_true fun h => hnot (h ▸ hj)
  have hremove := cluster_remove inst entry i clusters
  rw [hlist] at hremove
  refine hremove.trans ?_
  refine congrArg (fun l => { inst.cluster entry with clientList := l }) ?_
  exact List.filter_eq_self.mpr fun c hc => decide_eq_true fun h =>
    hnot (h ▸ mem_clientList_of_mem_cluster hc)

theorem steps_of_disconnect {i : ClientId} {down : Bool} (hlinked : inst.registry.Linked)
    (h : qnetdInstanceClientDisconnect env inst i down = .ok res)
    (hlinked' : res.inst.registry.Linked) (hentry' : entry' ∈ res.inst.clusters) :
    StepsCluster settings env inst (.disconnect i down) res entry' := by
  simp only [qnetdInstanceClientDisconnect] at h
  split at h
  · next hfound =>
    cases h
    refine steps_of_same hlinked rfl (fun _ _ _ hc _ => ?_) hentry'
    cases hfound.symm.trans hc
  · next client hfound =>
    have hmem := QnetdInstance.client?_mem hfound
    obtain rfl := QnetdInstance.client?_id hfound
    split at h
    · cases h
    · next result hresult =>
      cases hcluster : client.cluster with
      | some k =>
        -- The cluster of the client takes a step; the others are not touched.
        obtain ⟨entry, hentry, rfl⟩ := exists_entry hlinked hmem hcluster
        rw [clusterOf_of_mem hlinked hentry hcluster] at hresult h
        have hsame : SameFixed (inst.cluster entry) result.cluster := by
          split at hresult
          · exact (sameKept_qnetdAlgorithmClientDisconnect hresult).fixed
          · cases hresult
            rfl
        have hheader : result.cluster.header = (inst.cluster entry).header := by
          split at hresult
          · exact header_qnetdAlgorithmClientDisconnect hresult
          · cases hresult
            rfl
        have hids := List.map_comp_of_map_eq Fixed.id hsame
        cases h
        obtain ⟨entry₁, hentry₁, hdel⟩ := List.mem_filterMap.mp hentry'
        have hviews := storeCluster_entries_of_ids hlinked hentry hheader hids hentry₁
        rw [hcluster] at hdel
        split at hdel
        · next hid =>
          have hid := Option.some.inj hid
          have hview := (hviews.resolve_right fun hold => hold.2.1 hid).2
          dsimp only at hdel
          split at hdel
          · cases hdel
          · cases hdel
            refine stepsCluster_member hlinked hentry hid.symm hfound hcluster rfl ?_
            rw [cluster_remove,
              show (inst.storeCluster (inst.cluster entry).id result.cluster).cluster entry₁ = _
                from hview]
            simp only [memberStep, clusterDisconnect, cluster_client? hlinked hentry hmem hcluster,
              hresult]
        · next hid =>
          cases hdel
          have hne : entry'.id ≠ entry.id := fun h => hid (congrArg some h)
          obtain ⟨hold, -, hview⟩ := hviews.resolve_left fun hself => hne hself.1
          have hother : client.cluster ≠ some entry'.id := by
            rw [hcluster]
            exact fun h => hne (Option.some.inj h).symm
          refine stepsCluster_untouched hlinked hlinked' hentry' hold rfl rfl ?_ fun c hc => ?_
          · exact (cluster_remove_of_not_listed (not_listed hlinked hold hmem hother)).trans hview
          · obtain rfl := Option.some.inj (hfound.symm.trans hc)
            exact hother
      | none =>
        -- Outside of all clusters no algorithm is called.
        have hinit : client.initReceived = false := Bool.eq_false_iff.mpr fun hinit => by
          have := hlinked.init client.fixed (mem_registry hmem) hinit
          rw [show client.fixed.cluster = none from hcluster] at this
          cases this
        rw [hinit] at hresult
        cases hresult
        rw [clusterOf_of_none hcluster] at h
        obtain ⟨hclusters, hview⟩ := storeCluster_outside
          { id := inst.nextClusterId, clusterName := [], clientList := [client] }
          hlinked hmem hcluster rfl
        cases h
        have hdel (l : List ClusterEntry) : qnetdClusterListDelClient l client.cluster client.id =
            l := by
          rw [hcluster]
          refine (List.filterMap_congr fun entry _ => ?_).trans List.filterMap_some
          exact if_neg fun h => by cases h
        refine steps_of_outside hlinked hlinked' (fun c hc => ?_) ((hdel _).trans hclusters)
          (fun entry hentry => ?_) hentry'
        · obtain rfl := Option.some.inj (hfound.symm.trans hc)
          exact hcluster
        · have hnot := not_listed hlinked hentry hmem (by rw [hcluster]; exact fun h => by cases h)
          exact (cluster_remove_of_not_listed hnot).trans (hview entry hentry)

/-! ### All events -/

/-- A new client is in no cluster. -/
theorem connect_views (hlinked : inst.registry.Linked) (settings : Settings) (env : Env)
    (i : ClientId) : (qnetdClientNetAccept settings env inst i).clusters = inst.clusters ∧
      ∀ entry ∈ inst.clusters,
        (qnetdClientNetAccept settings env inst i).cluster entry = inst.cluster entry := by
  simp only [qnetdClientNetAccept]
  split
  · exact ⟨rfl, fun _ _ => rfl⟩
  · split
    · exact ⟨rfl, fun _ _ => rfl⟩
    · next client _ =>
      refine ⟨rfl, fun entry hentry => ?_⟩
      simp only [QnetdInstance.cluster]
      congr 1
      refine List.filterMap_congr fun j hj => ?_
      obtain ⟨f, hf, rfl, -⟩ := hlinked.member _ (List.mem_map_of_mem hentry) j hj
      obtain ⟨c, hc, rfl⟩ := List.mem_map.mp hf
      have hfound : inst.clients.find? (·.id == c.fixed.id) = some c := client?_of_mem hlinked hc
      simp only [QnetdInstance.client?, List.find?_append, hfound, Option.some_or]

/-- An event of the server is, for each of its clusters, the step of this cluster that
    `memberEvent?` names, or none. -/
theorem instanceStep_steps (hlinked : inst.registry.Linked) (hfresh : inst.FreshOutside)
    (honce : InitsOnce inst (env, event)) (h : instanceStep settings env inst event = .ok res)
    (hentry' : entry' ∈ res.inst.clusters) : StepsCluster settings env inst event res entry' := by
  have hlinked' := (instanceStep_cases hlinked h).linked hlinked
  cases event with
  | connect i =>
    have hnone : memberEvent? entry'.id inst res.inst (.connect i) = none := by
      rw [memberEvent?]
      split
      · rfl
      · split
        · rfl
        · split <;> rfl
    obtain ⟨hclusters, hview⟩ := connect_views hlinked settings env i
    cases h
    rw [StepsCluster, hnone, clusterAt_of_mem hlinked (hclusters ▸ hentry')]
    exact hview entry' (hclusters ▸ hentry')
  | message i msg => exact steps_of_message hlinked hfresh honce h hlinked' hentry'
  | unreadable i =>
    by_cases hqueued : env.replyQueued = true
    · simp only [instanceStep, if_pos hqueued, Except.ok.injEq] at h
      subst h
      refine steps_of_same hlinked rfl (fun _ _ _ _ _ => ⟨_, rfl, ?_⟩) hentry'
      simp only [memberStep, if_pos hqueued]
    · simp only [instanceStep, if_neg hqueued, Except.ok.injEq] at h
      subst h
      refine steps_of_modifyClient (f := fun c => { c with scheduleDisconnect := true })
        (fun _ => rfl) hlinked hlinked' rfl (fun _ _ _ _ _ => ⟨_, rfl, ?_⟩) hentry'
      simp only [memberStep, if_neg hqueued]
      rfl
  | socketError i =>
    cases h
    exact steps_of_modifyClient (f := fun c => { c with scheduleDisconnect := true })
      (fun _ => rfl) hlinked hlinked' rfl (fun _ _ _ _ _ => ⟨_, rfl, rfl⟩) hentry'
  | algoTimer i => exact steps_of_algoTimer hlinked hfresh h hlinked' hentry'
  | dpdTimer i =>
    cases h
    refine steps_of_modifyClient (fun c => ?_) hlinked hlinked' rfl
      (fun _ _ _ _ _ => ⟨_, rfl, rfl⟩) hentry'
    split <;> rfl
  | disconnect i down => exact steps_of_disconnect hlinked h hlinked' hentry'

/-! ### Clients that are in no cluster stay fresh -/

theorem freshOutside_modifyClient {f : QnetdClient → QnetdClient} {i : ClientId}
    (hfresh : inst.FreshOutside) (hf : ∀ c ∈ inst.clients, c.id = i →
      (f c).progress = c.progress ∧ ((f c).cluster = none → c.cluster = none)) :
    (inst.modifyClient i f).FreshOutside := by
  intro c' hc' hnone
  obtain ⟨c, hc, rfl⟩ := List.mem_map.mp hc'
  by_cases hid : c.id = i
  · rw [if_pos hid] at hnone ⊢
    obtain ⟨hprogress, hcluster⟩ := hf c hc hid
    rw [hprogress]
    exact hfresh c hc (hcluster hnone)
  · rw [if_neg hid] at hnone ⊢
    exact hfresh c hc hnone

theorem freshOutside_scheduleDisconnect (hfresh : inst.FreshOutside) (i : ClientId) :
    (inst.scheduleDisconnect i).FreshOutside :=
  freshOutside_modifyClient (f := fun c => { c with scheduleDisconnect := true }) hfresh
    fun _ _ _ => ⟨rfl, fun h => h⟩

/-- A client that is written to together with its cluster is in it. -/
theorem freshOutside_storeCluster {cl : QnetdCluster} (hfresh : inst.FreshOutside)
    (hentry : entry ∈ inst.clusters)
    (hlinked' : (inst.storeCluster entry.id cl).registry.Linked) :
    (inst.storeCluster entry.id cl).FreshOutside := by
  intro c' hc' hnone
  have hmem' := hc'
  obtain ⟨c, hc, rfl⟩ := List.mem_map.mp hc'
  cases hfound : cl.client? c.id with
  | none =>
    rw [hfound] at hnone
    exact hfresh c hc hnone
  | some d =>
    rw [hfound] at hnone hmem'
    rw [Option.getD_some] at hnone hmem'
    let stored : ClusterEntry := { entry with
      clientList := cl.clientList.map (·.id), algorithmData := cl.algorithmData }
    have hstored : stored ∈ (inst.storeCluster entry.id cl).clusters :=
      List.mem_map.mpr ⟨entry, hentry, if_pos rfl⟩
    have hlisted : d.id ∈ stored.clientList :=
      List.mem_map_of_mem (List.mem_of_find?_eq_some hfound)
    have hcluster := (hlinked'.mem_clientList (List.mem_map_of_mem hstored)
      (mem_registry hmem')).mp hlisted
    cases hnone.symm.trans hcluster

/-- Writing back what a handler has done for a client without a cluster. -/
theorem freshOutside_storeCluster_outside {cl : QnetdCluster} {k : ClusterId}
    (hfresh : inst.FreshOutside) (hprogress : client.progress = {})
    (hcl : cl.clientList.map QnetdClient.progress = [client.progress]) :
    (inst.storeCluster k cl).FreshOutside := by
  intro c' hc' hnone
  obtain ⟨c, hc, rfl⟩ := List.mem_map.mp hc'
  cases hfound : cl.client? c.id with
  | none =>
    rw [hfound] at hnone
    exact hfresh c hc hnone
  | some d =>
    have hin : d.progress ∈ cl.clientList.map QnetdClient.progress :=
      List.mem_map_of_mem (List.mem_of_find?_eq_some hfound)
    rw [hcl] at hin
    exact (List.mem_singleton.mp hin).trans hprogress

theorem freshOutside_sendInitReply {msg : MsgDecoded} {code : TlvReplyErrorCode}
    (hfresh : inst.FreshOutside) : (sendInitReply env inst client msg code).inst.FreshOutside := by
  simp only [sendInitReply]
  split
  · exact hfresh
  · exact freshOutside_scheduleDisconnect hfresh _

theorem freshOutside_init {msg : MsgDecoded} (hlinked : inst.registry.Linked)
    (hfresh : inst.FreshOutside) (hmem : client ∈ inst.clients)
    (h : qnetdClientMsgReceivedInit settings env inst client msg = .ok res)
    (hlinked' : res.inst.registry.Linked) : res.inst.FreshOutside := by
  simp only [qnetdClientMsgReceivedInit] at h
  split at h
  · cases h
    split
    · exact hfresh
    · exact freshOutside_scheduleDisconnect hfresh _
  · cases h
    exact freshOutside_scheduleDisconnect hfresh _
  · next client' htls =>
    have hfirst := linked_initOptions hlinked msg hmem htls
    have hnoError := @initOptions_noError settings client' msg
    have hprogress : (initOptions settings client' msg).1.progress = client.progress :=
      (progress_initOptions client' msg).trans (checkTls_progress htls)
    have hcluster : (initOptions settings client' msg).1.cluster = client.cluster := by
      obtain ⟨_, _, _, _, hfixed⟩ := options_fixed msg htls
      exact congrArg Fixed.cluster hfixed
    generalize initOptions settings client' msg = opts at *
    obtain ⟨written, code⟩ := opts
    simp only at h hfirst hnoError hprogress hcluster
    obtain ⟨hid, -, hlinked₁, hmem₁⟩ := hfirst
    have hfresh₁ : (inst.modifyClient written.id fun _ => written).FreshOutside := by
      refine freshOutside_modifyClient hfresh fun c hc hcid => ?_
      obtain rfl := eq_of_id hlinked hc hmem (hcid.trans hid)
      exact ⟨hprogress, fun h => hcluster ▸ h⟩
    split at h
    · next hcode =>
      subst hcode
      split at h
      · cases h
      · next inst₂ code₂ hadd =>
        cases h
        obtain ⟨_, _, _, _, _, _, -, -, -, -, hsupported, -, hwritten⟩ := hnoError rfl
        have hsupported : (qnetdAlgorithmArray written.decisionAlgorithm).isSome = true := by
          rw [hwritten]
          exact hsupported
        refine freshOutside_sendInitReply ?_
        have hreply : (sendInitReply env inst₂ written msg code₂).inst.registry =
            inst₂.registry := by
          simp only [sendInitReply]
          split
          · rfl
          · exact registry_scheduleDisconnect _
        rcases initAddClient_views hlinked₁ hsupported hadd with
          rfl | ⟨name, inst₀, entry, -, -, hadded, -, rfl⟩
        · exact hfresh₁
        · obtain ⟨hclients, hentry, -⟩ := addCluster_cases hadded
          refine freshOutside_storeCluster (fun c hc => ?_) hentry (hreply ▸ hlinked')
          exact hfresh₁ c (hclients ▸ hc)
    · cases h
      exact freshOutside_sendInitReply hfresh₁

theorem freshOutside_handler {handler : QnetdCluster → QnetdClient → MsgDecoded →
    Except Abort Handled} {msg : MsgDecoded} {type : MsgType} {handled : Handled}
    (hlinked : inst.registry.Linked) (hfresh : inst.FreshOutside) (hmem : client ∈ inst.clients)
    (hhandler : qnetdClientMsgHandler? settings env type = some handler)
    (hok : handler (inst.clusterOf client) client msg = .ok handled)
    (hlinked' : (inst.storeCluster (inst.clusterOf client).id handled.cluster).registry.Linked) :
    (inst.storeCluster (inst.clusterOf client).id handled.cluster).FreshOutside := by
  cases hcluster : client.cluster with
  | some k =>
    obtain ⟨entry, hentry, rfl⟩ := exists_entry hlinked hmem hcluster
    rw [clusterOf_of_mem hlinked hentry hcluster] at hlinked' ⊢
    exact freshOutside_storeCluster hfresh hentry hlinked'
  | none =>
    have hwindow := window_clusterOf hlinked hmem
    have huniq (c : QnetdClient) (hc : c ∈ (inst.clusterOf client).clientList)
        (hid : c.id = client.id) : c = client := eq_of_id hlinked (hwindow.sub c hc) hmem hid
    have hprogress := hfresh client hmem hcluster
    have hsame := HandlerCase.progress huniq (congrArg Progress.initReceived hprogress)
      (handler_cases huniq hhandler hok)
    rw [clusterOf_of_none hcluster] at hsame ⊢
    exact freshOutside_storeCluster_outside hfresh hprogress hsame

theorem freshOutside_message {i : ClientId} {msg : MsgDecoded} (hlinked : inst.registry.Linked)
    (hfresh : inst.FreshOutside) (h : instanceMessage settings env inst i msg = .ok res)
    (hlinked' : res.inst.registry.Linked) : res.inst.FreshOutside := by
  simp only [instanceMessage] at h
  split at h
  · cases h
    exact hfresh
  · next client hfound =>
    have hmem := QnetdInstance.client?_mem hfound
    split at h
    · cases h
      exact hfresh
    · simp only [qnetdClientMsgReceived] at h
      split at h
      · cases h
        split
        · exact hfresh
        · exact freshOutside_scheduleDisconnect hfresh _
      · split at h
        · exact freshOutside_init hlinked hfresh hmem h hlinked'
        · next handler hhandler =>
          split at h
          · cases h
          · next handled hok =>
            cases h
            dsimp only at hlinked' ⊢
            split at hlinked'
            · next hdisconnect =>
              rw [registry_scheduleDisconnect] at hlinked'
              rw [if_pos hdisconnect]
              exact freshOutside_scheduleDisconnect
                (freshOutside_handler hlinked hfresh hmem hhandler hok hlinked') _
            · next hdisconnect =>
              rw [if_neg hdisconnect]
              exact freshOutside_handler hlinked hfresh hmem hhandler hok hlinked'

theorem freshOutside_disconnect {i : ClientId} {down : Bool} (hlinked : inst.registry.Linked)
    (hfresh : inst.FreshOutside) (h : qnetdInstanceClientDisconnect env inst i down = .ok res) :
    res.inst.FreshOutside := by
  simp only [qnetdInstanceClientDisconnect] at h
  split at h
  · cases h
    exact hfresh
  · next client hfound =>
    have hmem := QnetdInstance.client?_mem hfound
    split at h
    · cases h
    · next result hresult =>
      cases h
      have hstored :
          (inst.storeCluster (inst.clusterOf client).id result.cluster).FreshOutside := by
        cases hcluster : client.cluster with
        | some k =>
          have hsame : SameFixed (inst.clusterOf client) result.cluster := by
            split at hresult
            · exact (sameKept_qnetdAlgorithmClientDisconnect hresult).fixed
            · cases hresult
              rfl
          have hlinked' : (inst.storeCluster (inst.clusterOf client).id
              result.cluster).registry.Linked := by
            rw [registry_storeCluster_same hlinked (window_clusterOf hlinked hmem) hsame]
            exact hlinked
          obtain ⟨entry, hentry, rfl⟩ := exists_entry hlinked hmem hcluster
          rw [clusterOf_of_mem hlinked hentry hcluster] at hlinked' ⊢
          exact freshOutside_storeCluster hfresh hentry hlinked'
        | none =>
          have hprogress := hfresh client hmem hcluster
          rw [show client.initReceived = false from congrArg Progress.initReceived hprogress]
            at hresult
          cases hresult
          rw [clusterOf_of_none hcluster]
          exact freshOutside_storeCluster_outside hfresh hprogress rfl
      exact fun c hc => hstored c (List.mem_filter.mp hc).1

/-- Every event leaves the clients that are in no cluster fresh. -/
theorem instanceStep_fresh (hlinked : inst.registry.Linked) (hfresh : inst.FreshOutside)
    (h : instanceStep settings env inst event = .ok res) : res.inst.FreshOutside := by
  have hlinked' := (instanceStep_cases hlinked h).linked hlinked
  cases event with
  | connect i =>
    cases h
    dsimp only [qnetdClientNetAccept]
    split
    · exact hfresh
    · split
      · exact hfresh
      · next client hclient =>
        have hprogress : client.progress = {} := by
          simp only [qnetdClientDpdTimerInit] at hclient
          split at hclient
          · split at hclient
            · cases hclient
              rfl
            · cases hclient
          · cases hclient
            rfl
        intro c hc hnone
        rcases List.mem_append.mp hc with hc | hc
        · exact hfresh c hc hnone
        · rw [List.mem_singleton.mp hc]
          exact hprogress
  | message i msg => exact freshOutside_message hlinked hfresh h hlinked'
  | unreadable i =>
    cases h
    dsimp only
    split
    · exact hfresh
    · exact freshOutside_scheduleDisconnect hfresh i
  | socketError i =>
    cases h
    exact freshOutside_scheduleDisconnect hfresh i
  | algoTimer i =>
    simp only [instanceStep, instanceAlgoTimer] at h
    split at h
    · cases h
      exact hfresh
    · next client hfound =>
      have hmem := QnetdInstance.client?_mem hfound
      split at h
      · cases h
        exact hfresh
      · next htimer =>
        split at h
        · cases h
        · cases h
          cases hcluster : client.cluster with
          | some k =>
            obtain ⟨entry, hentry, rfl⟩ := exists_entry hlinked hmem hcluster
            rw [clusterOf_of_mem hlinked hentry hcluster] at hlinked' ⊢
            exact freshOutside_storeCluster hfresh hentry hlinked'
          | none =>
            -- A client without a cluster has no timer.
            have htimer' := congrArg Progress.algoTimer (hfresh client hmem hcluster)
            exact absurd (by rw [show client.algoTimer = none from htimer']; rfl) htimer
  | dpdTimer i =>
    cases h
    refine freshOutside_modifyClient hfresh fun c _ _ => ?_
    split
    · exact ⟨rfl, fun h => h⟩
    · exact ⟨rfl, fun h => h⟩
  | disconnect i down => exact freshOutside_disconnect hlinked hfresh h

end Step

/-! ### Runs -/

/-- The clients that are in no cluster are fresh in every reachable state. -/
theorem freshOutside_of_reach {settings : Settings}
    {ok : QnetdInstance → Env × InstanceEvent → Prop} {inst : QnetdInstance}
    (h : (instanceMachine settings).Reach ok inst) : inst.FreshOutside := by
  refine Runs.Machine.Reach.invariant (fun inst => inst.FreshOutside) (fun c hc => ?_)
    (fun hreach hfresh _ hstep => ?_) h
  · cases hc
  · obtain ⟨res, hres, rfl⟩ := instanceMachine_step hstep
    exact instanceStep_fresh (linked_of_reach hreach) hfresh hres

instance (inst : QnetdInstance) (e : Env × InstanceEvent) : Decidable (InitsOnce inst e) :=
  match e with
  | (_, .message i msg) =>
    have : Decidable (∀ client ∈ inst.client? i, client.scheduleDisconnect = false →
        client.cluster = none) := Option.decidableForallMem _
    inferInstanceAs (Decidable (MsgType.ofUInt16? msg.type = some .init →
      ∀ client ∈ inst.client? i, client.scheduleDisconnect = false → client.cluster = none))
  | (_, .connect _) | (_, .unreadable _) | (_, .socketError _) | (_, .algoTimer _)
  | (_, .dpdTimer _) | (_, .disconnect _ _) => isTrue trivial

/-- What a run of the server is for the cluster `k`. -/
def clusterObservations (settings : Settings) (k : ClusterId) (inst : QnetdInstance) :
    List (Env × InstanceEvent) → List MemberObservation
  | [] => []
  | (env, event) :: rest =>
    match instanceStep settings env inst event with
    | .error _ => []
    | .ok res =>
      let later := clusterObservations settings k res.inst rest
      match memberEvent? k inst res.inst event with
      | none => later
      | some e => ⟨env, e, res.reply, res.log⟩ :: later

section Runs

variable {settings : Settings} {inst inst' : QnetdInstance} {entry entry' : ClusterEntry}

/-- Where the entries of the cluster list come from. -/
theorem InstanceCase.entries {env : Env} {event : InstanceEvent} {r' : Registry}
    (h : InstanceCase settings env inst event r') :
    inst.nextClusterId ≤ r'.nextClusterId ∧ ∀ k' ∈ r'.clusters,
      (∃ k ∈ inst.registry.clusters, k.id = k'.id ∧ k.clusterName = k'.clusterName) ∨
        inst.nextClusterId ≤ k'.id := by
  cases h with
  | stay h =>
    rw [h]
    exact ⟨Nat.le_refl _, fun k' hk' => .inl ⟨k', hk', rfl, rfl⟩⟩
  | connect _ _ h =>
    rw [h]
    exact ⟨Nat.le_refl _, fun k' hk' => .inl ⟨k', hk', rfl, rfl⟩⟩
  | write _ _ _ _ _ _ _ _ _ h =>
    rw [h]
    exact ⟨Nat.le_refl _, fun k' hk' => .inl ⟨k', hk', rfl, rfl⟩⟩
  | join _ _ _ _ r₀ k _ _ _ _ _ _ _ _ hjoins =>
    rw [hjoins.result]
    have hold {r₀ : Registry} {k' : RegistryCluster} {i : ClusterId} {l : List ClientId}
        (hk' : k' ∈ (r₀.link i l).clusters) :
        ∃ k ∈ r₀.clusters, k.id = k'.id ∧ k.clusterName = k'.clusterName := by
      obtain ⟨k, hk, rfl⟩ := List.mem_map.mp hk'
      refine ⟨k, hk, ?_⟩
      split <;> exact ⟨rfl, rfl⟩
    cases hjoins.cluster with
    | found hr =>
      rw [hr]
      exact ⟨Nat.le_refl _, fun k' hk' => .inl (hold hk')⟩
    | added _ hr =>
      rw [hr]
      refine ⟨Nat.le_succ _, fun k' hk' => ?_⟩
      obtain ⟨k, hk, hid, hname⟩ := hold hk'
      rcases List.mem_append.mp hk with hk | hk
      · exact .inl ⟨k, hk, hid, hname⟩
      · rw [← hid, List.mem_singleton.mp hk]
        exact .inr (Nat.le_refl _)
  | leave client _ h =>
    rw [h]
    refine ⟨Nat.le_refl _, fun k' hk' => .inl ?_⟩
    obtain ⟨k, hk, hsome⟩ := List.mem_filterMap.mp hk'
    refine ⟨k, hk, ?_⟩
    split at hsome
    · dsimp only at hsome
      split at hsome
      · cases hsome
      · cases hsome
        exact ⟨rfl, rfl⟩
    · cases hsome
      exact ⟨rfl, rfl⟩

theorem instanceStep_entries {env : Env} {event : InstanceEvent} {res : InstanceHandled}
    (hlinked : inst.registry.Linked) (h : instanceStep settings env inst event = .ok res) :
    inst.nextClusterId ≤ res.inst.nextClusterId ∧ ∀ entry' ∈ res.inst.clusters,
      (∃ entry ∈ inst.clusters, entry.id = entry'.id ∧ entry.clusterName = entry'.clusterName) ∨
        inst.nextClusterId ≤ entry'.id := by
  obtain ⟨hnext, hentries⟩ := (instanceStep_cases hlinked h).entries
  refine ⟨hnext, fun entry' hentry' => ?_⟩
  rcases hentries entry'.links (List.mem_map_of_mem hentry') with ⟨k, hk, hid, hname⟩ | hnew
  · obtain ⟨entry, hentry, rfl⟩ := List.mem_map.mp hk
    exact .inl ⟨entry, hentry, hid, hname⟩
  · exact .inr hnew

/-- Where the entries at the end of a run come from. -/
theorem exec_entries {events : List (Env × InstanceEvent)}
    {ok : QnetdInstance → Env × InstanceEvent → Bool} (hlinked : inst.registry.Linked)
    (h : (instanceMachine settings).execWhile ok inst events = some inst') :
    ∀ entry' ∈ inst'.clusters, (∃ entry ∈ inst.clusters,
      entry.id = entry'.id ∧ entry.clusterName = entry'.clusterName) ∨
        inst.nextClusterId ≤ entry'.id := by
  induction events generalizing inst with
  | nil =>
    cases h
    exact fun entry' hentry' => .inl ⟨entry', hentry', rfl, rfl⟩
  | cons e rest ih =>
    rw [Runs.Machine.execWhile] at h
    split at h
    · split at h
      · cases h
      · next inst₁ hstep =>
        obtain ⟨res, hres, rfl⟩ := instanceMachine_step hstep
        obtain ⟨hnext, hentries⟩ := instanceStep_entries hlinked hres
        have hlinked₁ := (instanceStep_cases hlinked hres).linked hlinked
        intro entry' hentry'
        rcases ih hlinked₁ h entry' hentry' with ⟨entry₁, hentry₁, hid, hname⟩ | hnew
        · rcases hentries entry₁ hentry₁ with ⟨entry, hentry, hid', hname'⟩ | hnew
          · exact .inl ⟨entry, hentry, hid'.trans hid, hname'.trans hname⟩
          · exact .inr (hid ▸ hnew)
        · exact .inr (Nat.le_trans hnext hnew)
    · cases h

theorem clusterAt_of_new {k : ClusterId} (hlinked : inst.registry.Linked)
    (hnew : inst.nextClusterId ≤ k) (name : List UInt8) :
    inst.clusterAt k name = emptyCluster k name := by
  have hnone : inst.clusters.find? (fun entry => entry.id == k) = none := by
    refine List.find?_eq_none.mpr fun entry hentry hid => ?_
    have hlt := hlinked.fresh _ (List.mem_map_of_mem hentry)
    exact Nat.not_lt.mpr hnew (beq_iff_eq.mp hid ▸ hlt)
  rw [QnetdInstance.clusterAt, hnone]

/-- Nothing happens to a cluster that does not exist yet. -/
theorem memberEvent?_of_new {k : ClusterId} {event : InstanceEvent} (hlinked : inst.registry.Linked)
    (hlinked' : inst'.registry.Linked) (hnew : inst.nextClusterId ≤ k)
    (hnew' : inst'.nextClusterId ≤ k) : memberEvent? k inst inst' event = none := by
  have hnot {inst : QnetdInstance} {client : QnetdClient} (hlinked : inst.registry.Linked)
      (hmem : client ∈ inst.clients) (hnew : inst.nextClusterId ≤ k) : client.cluster ≠ some k := by
    intro hcluster
    obtain ⟨entry, hentry, rfl⟩ := exists_entry hlinked hmem hcluster
    exact Nat.not_lt.mpr hnew (hlinked.fresh _ (List.mem_map_of_mem hentry))
  rw [memberEvent?]
  split
  · rfl
  · next client hfound =>
    rw [if_neg (hnot hlinked (QnetdInstance.client?_mem hfound) hnew), if_neg]
    intro hcluster
    obtain ⟨client', hfound', hcluster'⟩ := Option.bind_eq_some_iff.mp hcluster
    exact hnot hlinked' (QnetdInstance.client?_mem hfound') hnew' hcluster'

/-- The run of a server is, for each cluster there is at its end, a run of that cluster. -/
theorem exec_clusterObservations {events : List (Env × InstanceEvent)}
    (hlinked : inst.registry.Linked) (hfresh : inst.FreshOutside)
    (h : (instanceMachine settings).execWhile (fun inst e => decide (InitsOnce inst e)) inst
      events = some inst')
    (hentry' : entry' ∈ inst'.clusters) :
    (memberMachine settings entry'.id entry'.clusterName).exec
        (inst.clusterAt entry'.id entry'.clusterName)
        (clusterObservations settings entry'.id inst events) = some (inst'.cluster entry') := by
  induction events generalizing inst with
  | nil =>
    cases h
    rw [clusterAt_of_mem hlinked hentry']
    rfl
  | cons e rest ih =>
    rw [Runs.Machine.execWhile] at h
    split at h
    · next honce =>
      split at h
      · cases h
      · next inst₁ hstep =>
        obtain ⟨res, hres, rfl⟩ := instanceMachine_step hstep
        obtain ⟨env, event⟩ := e
        have hlinked₁ := (instanceStep_cases hlinked hres).linked hlinked
        have hrun := ih hlinked₁ (instanceStep_fresh hlinked hfresh hres) h
        simp only [clusterObservations]
        rw [show instanceStep settings env inst event = .ok res from hres]
        dsimp only
        rcases exec_entries hlinked₁ h entry' hentry' with ⟨entry₁, hentry₁, hid, hname⟩ | hnew
        · -- the cluster exists after the step, and takes it
          have hsteps := instanceStep_steps hlinked hfresh (of_decide_eq_true honce) hres hentry₁
          rw [← hid, ← hname, clusterAt_of_mem hlinked₁ hentry₁] at hrun
          rw [StepsCluster] at hsteps
          rw [← hid, ← hname]
          cases hevent : memberEvent? entry₁.id inst res.inst event with
          | none =>
            simp only [hevent] at hsteps
            rw [← hsteps]
            exact hrun
          | some member =>
            simp only [hevent] at hsteps
            have hmember : (memberMachine settings entry₁.id entry₁.clusterName).step
                (inst.clusterAt entry₁.id entry₁.clusterName) ⟨env, member, res.reply, res.log⟩ =
                some (res.inst.cluster entry₁) := by
              simp only [memberMachine, hsteps, and_self, if_true]
            rw [Runs.Machine.exec, hmember]
            exact hrun
        · -- it is added later
          have hnew₀ := Nat.le_trans (instanceStep_entries hlinked hres).1 hnew
          rw [memberEvent?_of_new hlinked hlinked₁ hnew₀ hnew]
          rw [clusterAt_of_new hlinked₁ hnew] at hrun
          rw [clusterAt_of_new hlinked hnew₀]
          exact hrun
    · cases h

/-- Node 1 of the cluster `a` asks for a vote while node 1 of the cluster `b` comes and goes. -/
def twoClusters : List (Env × InstanceEvent) :=
  [(.ok, .connect 1), (.ok, .message 1 (preinitMsg [97])),
    (.ok, .message 1 (initMsg .lms ⟨.lowest, 0⟩ 1 ⟨1, 4⟩)),
    (.ok, .connect 2), (.ok, .message 2 (preinitMsg [98])),
    (.ok, .message 2 (initMsg .ffsplit ⟨.lowest, 0⟩ 1 ⟨1, 4⟩)),
    (.ok, .message 1 { type := MsgType.askForVote.toUInt16, seqNumber := some 7 }),
    (.ok, .disconnect 2 false)]

/-- Whatever the clients of a server do, each of its clusters has gone through a run of
    its own from its first client on, which consists of the events of its own clients and gives
    them the same answers and the same decisions.  No client that is registered sends INIT
    again. -/
theorem clusters_run_alone {events : List (Env × InstanceEvent)}
    (h : (instanceMachine settings).execWhile (fun inst e => decide (InitsOnce inst e)) {} events =
      some inst')
    (hentry' : entry' ∈ inst'.clusters) :
    (memberMachine settings entry'.id entry'.clusterName).exec
        (emptyCluster entry'.id entry'.clusterName)
        (clusterObservations settings entry'.id {} events) = some (inst'.cluster entry') := by
  have hlinked : ({} : QnetdInstance).registry.Linked := Registry.linked_empty
  exact exec_clusterObservations hlinked (fun c hc => by cases hc) h hentry'

/-- The cluster `a` at the end of this run. -/
theorem clusters_run_alone_two : ∃ (inst : QnetdInstance) (entry : ClusterEntry),
    entry ∈ inst.clusters ∧ entry.clientList = [1] ∧
    (memberMachine .plain entry.id entry.clusterName).exec (emptyCluster entry.id entry.clusterName)
      (clusterObservations .plain entry.id {} twoClusters) = some (inst.cluster entry) := by
  have hrun : ((instanceMachine .plain).execWhile (fun inst e => decide (InitsOnce inst e))
      {} twoClusters).any (fun inst => inst.clusters.any fun entry =>
        decide (entry.clientList = [1])) := by
    decide +kernel
  simp only [Option.any_eq_true, List.any_eq_true, decide_eq_true_eq] at hrun
  obtain ⟨inst, hinst, entry, hentry, hlist⟩ := hrun
  exact ⟨inst, entry, hentry, hlist, clusters_run_alone hinst hentry⟩

end Runs

end Qdevice.Qnetd
