import Qdevice.Spec.ClusterRun

/-! # The registry

Who is connected, which clusters there are and which clients are in them, without anything an
algorithm knows.  A registry changes by five moves: a client connects, the handshake
fields of a client are written, an empty cluster is added, a client joins a cluster, a client is
removed.  `Linked` says that the pointers between clients and clusters are in order, `Agreed` that
the clients of one cluster belong together.  The first is kept by every move, the second by
writes that leave registered clients alone. -/

namespace Qdevice.Qnetd

/-- A cluster in the registry. -/
structure RegistryCluster where
  id : ClusterId
  clusterName : List UInt8
  clientList : List ClientId

structure Registry where
  clients : List Fixed
  clusters : List RegistryCluster
  nextClusterId : ClusterId

namespace Registry

def client? (r : Registry) (id : ClientId) : Option Fixed :=
  r.clients.find? fun f => f.id == id

/-- The clients of a cluster, in the order of its list. -/
def members (r : Registry) (k : RegistryCluster) : List Fixed :=
  k.clientList.filterMap r.client?

/-- A new client. -/
def connect (r : Registry) (f : Fixed) : Registry :=
  { r with clients := r.clients ++ [f] }

/-- Write the client with the identity of `f`. -/
def write (r : Registry) (f : Fixed) : Registry :=
  { r with clients := r.clients.map fun g => if g.id = f.id then f else g }

/-- A new cluster without clients. -/
def addCluster (r : Registry) (clusterName : List UInt8) : Registry :=
  { r with
    clusters := r.clusters ++ [⟨r.nextClusterId, clusterName, []⟩]
    nextClusterId := r.nextClusterId + 1 }

/-- Set the client list of a cluster. -/
def link (r : Registry) (id : ClusterId) (clientList : List ClientId) : Registry :=
  { r with
    clusters := r.clusters.map fun k => if k.id = id then { k with clientList } else k }

/-- Remove a client, and its cluster if it was the last one in it. -/
def remove (r : Registry) (f : Fixed) : Registry :=
  { r with
    clients := r.clients.filter (·.id ≠ f.id)
    clusters := r.clusters.filterMap fun k =>
      if some k.id = f.cluster then
        let clientList := k.clientList.filter (· ≠ f.id)
        if clientList = [] then none else some { k with clientList }
      else some k }

/-- The pointers between clients and clusters are in order. -/
structure Linked (r : Registry) : Prop where
  ids : (r.clients.map (·.id)).Nodup
  clusterIds : (r.clusters.map (·.id)).Nodup
  fresh : ∀ k ∈ r.clusters, k.id < r.nextClusterId
  names : (r.clusters.map (·.clusterName)).Nodup
  nodup : ∀ k ∈ r.clusters, k.clientList.Nodup
  member : ∀ k ∈ r.clusters, ∀ i ∈ k.clientList, ∃ f ∈ r.clients, f.id = i ∧ f.cluster = some k.id
  listed : ∀ f ∈ r.clients, ∀ i, f.cluster = some i →
    ∃ k ∈ r.clusters, k.id = i ∧ f.id ∈ k.clientList
  init : ∀ f ∈ r.clients, f.initReceived = true → f.cluster.isSome = true
  preinit : ∀ f ∈ r.clients, f.cluster.isSome = true → f.preinitReceived = true

/-- The clients of one cluster belong together. -/
structure Agreed (r : Registry) : Prop where
  name : ∀ k ∈ r.clusters, ∀ f ∈ r.members k, f.clusterName = some k.clusterName
  nodeIds : ∀ k ∈ r.clusters, ((r.members k).map (·.nodeId)).Pairwise (· < ·)
  algorithm : ∀ k ∈ r.clusters, ∀ f ∈ r.members k, ∀ g ∈ r.members k,
    f.decisionAlgorithm = g.decisionAlgorithm
  tieBreaker : ∀ k ∈ r.clusters, ∀ f ∈ r.members k, ∀ g ∈ r.members k,
    tlvTieBreakerEq f.tieBreaker g.tieBreaker = true

/-! ### Looking up clients -/

variable {r : Registry}

theorem client?_mem {id : ClientId} {f : Fixed} (h : r.client? id = some f) : f ∈ r.clients :=
  List.mem_of_find?_eq_some h

theorem client?_id {id : ClientId} {f : Fixed} (h : r.client? id = some f) : f.id = id := by
  simpa using List.find?_some h

theorem Linked.eq_of_id (h : r.Linked) {f g : Fixed} (hf : f ∈ r.clients) (hg : g ∈ r.clients)
    (hid : f.id = g.id) : f = g :=
  List.inj_on_of_nodup_map h.ids hf hg hid

theorem Linked.eq_of_clusterId (h : r.Linked) {k k' : RegistryCluster} (hk : k ∈ r.clusters)
    (hk' : k' ∈ r.clusters) (hid : k.id = k'.id) : k = k' :=
  List.inj_on_of_nodup_map h.clusterIds hk hk' hid

/-- With distinct identities, looking a client up by its identity finds it. -/
theorem client?_of_mem (hids : (r.clients.map (·.id)).Nodup) {f : Fixed} (hf : f ∈ r.clients) :
    r.client? f.id = some f :=
  List.find?_key_of_mem hids hf

theorem mem_members (hids : (r.clients.map (·.id)).Nodup) {k : RegistryCluster} {f : Fixed} :
    f ∈ r.members k ↔ f ∈ r.clients ∧ f.id ∈ k.clientList := by
  simp only [members, List.mem_filterMap]
  constructor
  · rintro ⟨i, hi, hfound⟩
    exact ⟨client?_mem hfound, client?_id hfound ▸ hi⟩
  · rintro ⟨hf, hi⟩
    exact ⟨f.id, hi, client?_of_mem hids hf⟩

/-- A client is in the list of a cluster exactly if it points to it. -/
theorem Linked.mem_clientList (h : r.Linked) {k : RegistryCluster} (hk : k ∈ r.clusters) {f : Fixed}
    (hf : f ∈ r.clients) : f.id ∈ k.clientList ↔ f.cluster = some k.id := by
  constructor
  · intro hi
    obtain ⟨g, hg, hid, hcluster⟩ := h.member k hk f.id hi
    rwa [h.eq_of_id hf hg hid.symm]
  · intro hcluster
    obtain ⟨k', hk', hid, hi⟩ := h.listed f hf k.id hcluster
    rwa [← h.eq_of_clusterId hk' hk hid]

/-- Clusters with the same list have the same members when its clients look the same. -/
theorem members_congr {r r' : Registry} {k k' : RegistryCluster}
    (hlist : k'.clientList = k.clientList)
    (h : ∀ i ∈ k.clientList, r'.client? i = r.client? i) : r'.members k' = r.members k := by
  simp only [members, hlist]
  exact List.filterMap_congr h

/-- A list of clients is what its identities point to. -/
theorem filterMap_client? {l : List Fixed} (h : ∀ f ∈ l, r.client? f.id = some f) :
    (l.map (·.id)).filterMap r.client? = l := by
  induction l with
  | nil => rfl
  | cons f rest ih =>
    rw [List.map_cons, List.filterMap_cons_some (h f (List.mem_cons_self ..)),
      ih fun g hg => h g (List.mem_cons_of_mem _ hg)]

/-! ### Every move keeps the pointers in order -/

theorem linked_empty : Linked ⟨[], [], 0⟩ := by
  constructor <;> simp

theorem Linked.connect (h : r.Linked) {f : Fixed} (hnew : ∀ g ∈ r.clients, g.id ≠ f.id)
    (hcluster : f.cluster = none) (hinit : f.initReceived = false) : (r.connect f).Linked where
  ids := by
    simp only [Registry.connect, List.map_append, List.map_cons, List.map_nil]
    refine (List.perm_append_singleton _ _).nodup_iff.mpr (List.nodup_cons.mpr ⟨fun hi => ?_, h.ids⟩)
    obtain ⟨g, hg, hid⟩ := List.mem_map.mp hi
    exact hnew g hg hid
  clusterIds := h.clusterIds
  fresh := h.fresh
  names := h.names
  nodup := h.nodup
  member k hk i hi := by
    obtain ⟨g, hg, hid⟩ := h.member k hk i hi
    exact ⟨g, List.mem_append_left _ hg, hid⟩
  listed g hg i hi := by
    rcases List.mem_append.mp hg with hg | hg
    · exact h.listed g hg i hi
    · rw [List.mem_singleton.mp hg, hcluster] at hi
      cases hi
  init g hg hi := by
    rcases List.mem_append.mp hg with hg | hg
    · exact h.init g hg hi
    · rw [List.mem_singleton.mp hg, hinit] at hi
      cases hi
  preinit g hg hi := by
    rcases List.mem_append.mp hg with hg | hg
    · exact h.preinit g hg hi
    · rw [List.mem_singleton.mp hg, hcluster] at hi
      cases hi

/-- The clients after a write: the written one, and the others. -/
theorem mem_write {f g : Fixed} (h : g ∈ (r.write f).clients) :
    g = f ∧ (∃ g₀ ∈ r.clients, g₀.id = f.id) ∨ g ∈ r.clients ∧ g.id ≠ f.id := by
  obtain ⟨g₀, hg₀, rfl⟩ := List.mem_map.mp h
  split
  · next hid => exact .inl ⟨rfl, g₀, hg₀, hid⟩
  · next hid => exact .inr ⟨hg₀, hid⟩

theorem write_mem_other {f g : Fixed} (hg : g ∈ r.clients) (hid : g.id ≠ f.id) :
    g ∈ (r.write f).clients :=
  List.mem_map.mpr ⟨g, hg, by simp [hid]⟩

theorem write_mem_self {f g : Fixed} (hg : g ∈ r.clients) (hid : g.id = f.id) :
    f ∈ (r.write f).clients :=
  List.mem_map.mpr ⟨g, hg, by simp [hid]⟩

theorem write_ids (f : Fixed) : (r.write f).clients.map (·.id) = r.clients.map (·.id) := by
  simp only [Registry.write, List.map_map]
  refine List.map_congr_left fun g _ => ?_
  simp only [Function.comp_apply]
  split
  · next hid => exact hid.symm
  · rfl

/-- A write that keeps the pointer and the flags of the client. -/
theorem Linked.write (h : r.Linked) {f f' : Fixed} (hf : f ∈ r.clients) (hid : f'.id = f.id)
    (hcluster : f'.cluster = f.cluster) (hinit : f'.initReceived = f.initReceived)
    (hpre : f.preinitReceived = true → f'.preinitReceived = true) : (r.write f').Linked where
  ids := by rw [write_ids]; exact h.ids
  clusterIds := h.clusterIds
  fresh := h.fresh
  names := h.names
  nodup := h.nodup
  member k hk i hi := by
    obtain ⟨g, hg, rfl, hgk⟩ := h.member k hk i hi
    by_cases hgf : g.id = f'.id
    · rw [h.eq_of_id hg hf (hgf.trans hid)] at hgk ⊢
      exact ⟨f', write_mem_self hf hid.symm, hid, hcluster.trans hgk⟩
    · exact ⟨g, write_mem_other hg hgf, rfl, hgk⟩
  listed g hg i hi := by
    rcases mem_write hg with ⟨rfl, -⟩ | ⟨hg, -⟩
    · rw [hid]
      exact h.listed f hf i (hcluster.symm.trans hi)
    · exact h.listed g hg i hi
  init g hg hi := by
    rcases mem_write hg with ⟨rfl, -⟩ | ⟨hg, -⟩
    · rw [hcluster]
      exact h.init f hf (hinit.symm.trans hi)
    · exact h.init g hg hi
  preinit g hg hi := by
    rcases mem_write hg with ⟨rfl, -⟩ | ⟨hg, -⟩
    · exact hpre (h.preinit f hf (hcluster ▸ hi))
    · exact h.preinit g hg hi

theorem Linked.addCluster (h : r.Linked) {name : List UInt8}
    (hnew : ∀ k ∈ r.clusters, k.clusterName ≠ name) : (r.addCluster name).Linked where
  ids := h.ids
  clusterIds := by
    simp only [Registry.addCluster, List.map_append, List.map_cons, List.map_nil]
    refine (List.perm_append_singleton _ _).nodup_iff.mpr
      (List.nodup_cons.mpr ⟨fun hi => ?_, h.clusterIds⟩)
    obtain ⟨k, hk, hid⟩ := List.mem_map.mp hi
    exact Nat.ne_of_lt (h.fresh k hk) hid
  fresh k hk := by
    rcases List.mem_append.mp hk with hk | hk
    · exact Nat.lt_succ_of_lt (h.fresh k hk)
    · rw [List.mem_singleton.mp hk]
      exact Nat.lt_succ_self _
  names := by
    simp only [Registry.addCluster, List.map_append, List.map_cons, List.map_nil]
    refine (List.perm_append_singleton _ _).nodup_iff.mpr (List.nodup_cons.mpr ⟨fun hn => ?_, h.names⟩)
    obtain ⟨k, hk, hname⟩ := List.mem_map.mp hn
    exact hnew k hk hname
  nodup k hk := by
    rcases List.mem_append.mp hk with hk | hk
    · exact h.nodup k hk
    · rw [List.mem_singleton.mp hk]
      exact List.nodup_nil
  member k hk i hi := by
    rcases List.mem_append.mp hk with hk | hk
    · exact h.member k hk i hi
    · rw [List.mem_singleton.mp hk] at hi
      cases hi
  listed f hf i hi := by
    obtain ⟨k, hk, hid⟩ := h.listed f hf i hi
    exact ⟨k, List.mem_append_left _ hk, hid⟩
  init := h.init
  preinit := h.preinit

/-- The clusters after a list has been set. -/
theorem mem_link {id : ClusterId} {l : List ClientId} {k : RegistryCluster}
    (h : k ∈ (r.link id l).clusters) :
    ∃ k₀ ∈ r.clusters, (k₀.id = id ∧ k = { k₀ with clientList := l }) ∨ (k₀.id ≠ id ∧ k = k₀) := by
  obtain ⟨k₀, hk₀, rfl⟩ := List.mem_map.mp h
  by_cases hid : k₀.id = id
  · exact ⟨k₀, hk₀, .inl ⟨hid, by simp [hid]⟩⟩
  · exact ⟨k₀, hk₀, .inr ⟨hid, by simp [hid]⟩⟩

theorem link_map {β : Type} {V : RegistryCluster → β}
    (hV : ∀ k l, V { k with clientList := l } = V k) (id : ClusterId) (l : List ClientId) :
    (r.link id l).clusters.map V = r.clusters.map V := by
  simp only [Registry.link, List.map_map]
  refine List.map_congr_left fun k _ => ?_
  simp only [Function.comp_apply]
  split
  · exact hV k l
  · rfl

/-- A client without a cluster joins one. -/
theorem Linked.join (h : r.Linked) {f f' : Fixed} (hf : f ∈ r.clients) (hnone : f.cluster = none)
    {k : RegistryCluster} (hk : k ∈ r.clusters) (hid : f'.id = f.id)
    (hcluster : f'.cluster = some k.id) (hpre : f'.preinitReceived = true) {l : List ClientId}
    (hperm : l.Perm (f'.id :: k.clientList)) : ((r.write f').link k.id l).Linked := by
  have hnot (k' : RegistryCluster) (hk' : k' ∈ r.clusters) : f'.id ∉ k'.clientList := by
    rw [hid, h.mem_clientList hk' hf, hnone]
    exact fun heq => by cases heq
  constructor
  · exact (write_ids f').symm ▸ h.ids
  · rw [link_map fun _ _ => rfl]
    exact h.clusterIds
  · intro k' hk'
    obtain ⟨k₀, hk₀, ⟨-, rfl⟩ | ⟨-, rfl⟩⟩ := mem_link hk'
    · exact h.fresh k₀ hk₀
    · exact h.fresh _ hk₀
  · rw [link_map fun _ _ => rfl]
    exact h.names
  · intro k' hk'
    obtain ⟨k₀, hk₀, ⟨-, rfl⟩ | ⟨-, rfl⟩⟩ := mem_link hk'
    · exact hperm.nodup_iff.mpr (List.nodup_cons.mpr ⟨hnot k hk, h.nodup k hk⟩)
    · exact h.nodup _ hk₀
  · intro k' hk' i hi
    have hold (k₀ : RegistryCluster) (hk₀ : k₀ ∈ r.clusters) (hi : i ∈ k₀.clientList) :
        ∃ g ∈ (r.write f').clients, g.id = i ∧ g.cluster = some k₀.id := by
      obtain ⟨g, hg, rfl, hgk⟩ := h.member k₀ hk₀ i hi
      exact ⟨g, write_mem_other hg fun heq => hnot k₀ hk₀ (heq ▸ hi), rfl, hgk⟩
    obtain ⟨k₀, hk₀, ⟨hk₀id, rfl⟩ | ⟨-, rfl⟩⟩ := mem_link hk'
    · rcases List.mem_cons.mp (hperm.mem_iff.mp hi) with rfl | hi
      · exact ⟨f', write_mem_self hf hid.symm, rfl, hcluster.trans (congrArg some hk₀id.symm)⟩
      · exact h.eq_of_clusterId hk₀ hk hk₀id ▸ hold k hk hi
    · exact hold _ hk₀ hi
  · intro g hg i hi
    -- the list of every cluster has at least the old clients
    have hlink (k₀ : RegistryCluster) (hk₀ : k₀ ∈ r.clusters) (j : ClientId)
        (hj : j ∈ k₀.clientList ∨ k₀.id = k.id ∧ j = f'.id) :
        ∃ k' ∈ ((r.write f').link k.id l).clusters, k'.id = k₀.id ∧ j ∈ k'.clientList := by
      by_cases hkid : k₀.id = k.id
      · refine ⟨{ k₀ with clientList := l }, List.mem_map.mpr ⟨k₀, hk₀, by simp [hkid]⟩, rfl, ?_⟩
        rw [hperm.mem_iff, ← h.eq_of_clusterId hk₀ hk hkid]
        rcases hj with hj | ⟨-, rfl⟩
        · exact List.mem_cons_of_mem _ hj
        · exact List.mem_cons_self ..
      · exact ⟨k₀, List.mem_map.mpr ⟨k₀, hk₀, by simp [hkid]⟩, rfl, hj.resolve_right fun hj =>
          hkid hj.1⟩
    rcases mem_write hg with ⟨rfl, -⟩ | ⟨hg, -⟩
    · obtain ⟨k', hk', hid', hmem⟩ := hlink k hk g.id (.inr ⟨rfl, rfl⟩)
      exact ⟨k', hk', hid'.trans (Option.some.inj (hcluster.symm.trans hi)), hmem⟩
    · obtain ⟨k₀, hk₀, rfl, hmem₀⟩ := h.listed g hg i hi
      exact hlink k₀ hk₀ g.id (.inl hmem₀)
  · intro g hg hi
    rcases mem_write hg with ⟨rfl, -⟩ | ⟨hg, -⟩
    · rw [hcluster]
      rfl
    · exact h.init g hg hi
  · intro g hg hi
    rcases mem_write hg with ⟨rfl, -⟩ | ⟨hg, -⟩
    · exact hpre
    · exact h.preinit g hg hi

/-- The clusters after a client is gone. -/
theorem mem_remove {f : Fixed} {k : RegistryCluster} (h : k ∈ (r.remove f).clusters) :
    ∃ k₀ ∈ r.clusters, (f.cluster = some k₀.id ∧
      k = { k₀ with clientList := k₀.clientList.filter (· ≠ f.id) }) ∨
      (f.cluster ≠ some k₀.id ∧ k = k₀) := by
  obtain ⟨k₀, hk₀, hk⟩ := List.mem_filterMap.mp h
  refine ⟨k₀, hk₀, ?_⟩
  split at hk
  · next hid =>
    dsimp only at hk
    split at hk
    · cases hk
    · exact .inl ⟨hid.symm, (Option.some.inj hk).symm⟩
  · next hid => exact .inr ⟨fun heq => hid heq.symm, (Option.some.inj hk).symm⟩

theorem remove_map_sublist {β : Type} {V : RegistryCluster → β}
    (hV : ∀ k l, V { k with clientList := l } = V k) (f : Fixed) :
    ((r.remove f).clusters.map V).Sublist (r.clusters.map V) := by
  refine List.map_filterMap_sublist (fun k k' hk' => ?_) r.clusters
  split at hk'
  · dsimp only at hk'
    split at hk'
    · cases hk'
    · rw [← Option.some.inj hk']
      exact hV k _
  · rw [← Option.some.inj hk']

theorem Linked.remove (h : r.Linked) {f : Fixed} (hf : f ∈ r.clients) : (r.remove f).Linked where
  ids := h.ids.sublist (List.filter_sublist.map _)
  clusterIds := h.clusterIds.sublist (remove_map_sublist (fun _ _ => rfl) f)
  fresh k hk := by
    obtain ⟨k₀, hk₀, ⟨-, rfl⟩ | ⟨-, rfl⟩⟩ := mem_remove hk
    · exact h.fresh k₀ hk₀
    · exact h.fresh _ hk₀
  names := h.names.sublist (remove_map_sublist (fun _ _ => rfl) f)
  nodup k hk := by
    obtain ⟨k₀, hk₀, ⟨-, rfl⟩ | ⟨-, rfl⟩⟩ := mem_remove hk
    · exact (h.nodup k₀ hk₀).sublist List.filter_sublist
    · exact h.nodup _ hk₀
  member k hk i hi := by
    have hold (k₀ : RegistryCluster) (hk₀ : k₀ ∈ r.clusters) (hi : i ∈ k₀.clientList)
        (hne : i ≠ f.id) : ∃ g ∈ (r.remove f).clients, g.id = i ∧ g.cluster = some k₀.id := by
      obtain ⟨g, hg, rfl, hgk⟩ := h.member k₀ hk₀ i hi
      exact ⟨g, List.mem_filter.mpr ⟨hg, by simpa using hne⟩, rfl, hgk⟩
    obtain ⟨k₀, hk₀, ⟨-, rfl⟩ | ⟨hne, rfl⟩⟩ := mem_remove hk
    · obtain ⟨hi, hne⟩ := List.mem_filter.mp hi
      exact hold k₀ hk₀ hi (by simpa using hne)
    · refine hold _ hk₀ hi fun heq => hne ?_
      rwa [heq, h.mem_clientList hk₀ hf] at hi
  listed g hg i hi := by
    obtain ⟨hg, hne⟩ := List.mem_filter.mp hg
    have hne : g.id ≠ f.id := by simpa using hne
    obtain ⟨k, hk, rfl, hmem⟩ := h.listed g hg i hi
    by_cases hcluster : some k.id = f.cluster
    · have hmem' : g.id ∈ k.clientList.filter (· ≠ f.id) :=
        List.mem_filter.mpr ⟨hmem, by simpa using hne⟩
      refine ⟨{ k with clientList := k.clientList.filter (· ≠ f.id) },
        List.mem_filterMap.mpr ⟨k, hk, ?_⟩, rfl, hmem'⟩
      rw [if_pos hcluster]
      dsimp only
      rw [if_neg (List.ne_nil_of_mem hmem')]
    · exact ⟨k, List.mem_filterMap.mpr ⟨k, hk, by rw [if_neg hcluster]⟩, rfl, hmem⟩
  init g hg hi := h.init g (List.mem_filter.mp hg).1 hi
  preinit g hg hi := h.preinit g (List.mem_filter.mp hg).1 hi

/-! ### Moves and the clients that belong together -/

theorem agreed_empty : Agreed ⟨[], [], 0⟩ := by
  constructor <;> simp

/-- The list of a cluster is the list of the identities of its members. -/
theorem Linked.members_ids (h : r.Linked) {k : RegistryCluster} (hk : k ∈ r.clusters) :
    (r.members k).map (·.id) = k.clientList := by
  have hfound : ∀ i ∈ k.clientList, (r.client? i).map (·.id) = some i := by
    intro i hi
    obtain ⟨f, hf, rfl, -⟩ := h.member k hk i hi
    rw [client?_of_mem h.ids hf]
    rfl
  simp only [members, List.map_filterMap]
  exact (List.filterMap_congr hfound).trans List.filterMap_some

/-- Clusters that lose members, and clusters without members. -/
theorem Agreed.of_sublist {r r' : Registry} (h : r.Agreed)
    (hsub : ∀ k' ∈ r'.clusters, r'.members k' = [] ∨
      ∃ k ∈ r.clusters, k.clusterName = k'.clusterName ∧ (r'.members k').Sublist (r.members k)) :
    r'.Agreed where
  name k' hk' f hf := by
    rcases hsub k' hk' with hnil | ⟨k, hk, hname, hsub⟩
    · exact absurd hf (hnil ▸ List.not_mem_nil)
    · exact hname ▸ h.name k hk f (hsub.subset hf)
  nodeIds k' hk' := by
    rcases hsub k' hk' with hnil | ⟨k, hk, -, hsub⟩
    · rw [hnil]
      exact .nil
    · exact (h.nodeIds k hk).sublist (hsub.map _)
  algorithm k' hk' f hf g hg := by
    rcases hsub k' hk' with hnil | ⟨k, hk, -, hsub⟩
    · exact absurd hf (hnil ▸ List.not_mem_nil)
    · exact h.algorithm k hk f (hsub.subset hf) g (hsub.subset hg)
  tieBreaker k' hk' f hf g hg := by
    rcases hsub k' hk' with hnil | ⟨k, hk, -, hsub⟩
    · exact absurd hf (hnil ▸ List.not_mem_nil)
    · exact h.tieBreaker k hk f (hsub.subset hf) g (hsub.subset hg)

theorem Agreed.connect (h : r.Agreed) (hlinked : r.Linked) (f : Fixed) : (r.connect f).Agreed := by
  refine h.of_sublist fun k hk => .inr ⟨k, hk, rfl, ?_⟩
  rw [members_congr rfl fun i hi => ?_]
  obtain ⟨g, hg, rfl, -⟩ := hlinked.member k hk i hi
  have hfound := client?_of_mem hlinked.ids hg
  simp only [client?] at hfound ⊢
  simp [Registry.connect, List.find?_append, hfound]

theorem write_client? (f : Fixed) (i : ClientId) :
    (r.write f).client? i = (r.client? i).map fun g => if g.id = f.id then f else g := by
  simp only [client?, Registry.write, List.find?_map]
  congr 2
  funext g
  simp only [Function.comp_apply]
  split
  · next hid => rw [hid]
  · rfl

theorem members_write (f : Fixed) (k : RegistryCluster) :
    (r.write f).members k = (r.members k).map fun g => if g.id = f.id then f else g := by
  simp only [members, List.map_filterMap]
  exact List.filterMap_congr fun i _ => write_client? f i

/-- A write to a client whose identity is in no list. -/
theorem members_write_of_not_mem {f : Fixed} {k : RegistryCluster} (h : f.id ∉ k.clientList) :
    (r.write f).members k = r.members k := by
  refine members_congr rfl fun i hi => ?_
  rw [write_client?]
  cases hfound : r.client? i with
  | none => rfl
  | some g =>
    have hne : g.id ≠ f.id := fun heq => h (heq ▸ client?_id hfound ▸ hi)
    simp [hne]

/-- A write to a client that is in no cluster. -/
theorem Agreed.write_unregistered (h : r.Agreed) (hlinked : r.Linked) {f f' : Fixed}
    (hf : f ∈ r.clients) (hid : f'.id = f.id) (hnone : f.cluster = none) : (r.write f').Agreed := by
  refine h.of_sublist fun k hk => .inr ⟨k, hk, rfl, ?_⟩
  rw [members_write_of_not_mem]
  rw [hid, hlinked.mem_clientList hk hf, hnone]
  exact fun heq => by cases heq

/-- A write that keeps all that has to agree. -/
theorem Agreed.write_same (h : r.Agreed) (hlinked : r.Linked) {f f' : Fixed} (hf : f ∈ r.clients)
    (hid : f'.id = f.id) (hname : f'.clusterName = f.clusterName) (hnode : f'.nodeId = f.nodeId)
    (halgorithm : f'.decisionAlgorithm = f.decisionAlgorithm)
    (htb : tlvTieBreakerEq f'.tieBreaker f.tieBreaker = true) : (r.write f').Agreed := by
  -- what a member was before
  have hbefore (k : RegistryCluster) (g : Fixed) (hg : g ∈ (r.write f').members k) :
      ∃ g₀ ∈ r.members k, g.clusterName = g₀.clusterName ∧
        g.decisionAlgorithm = g₀.decisionAlgorithm ∧
        tlvTieBreakerEq g.tieBreaker g₀.tieBreaker = true := by
    rw [members_write] at hg
    obtain ⟨g₀, hg₀, rfl⟩ := List.mem_map.mp hg
    refine ⟨g₀, hg₀, ?_⟩
    split
    · next hg₀id =>
      rw [hlinked.eq_of_id ((mem_members hlinked.ids).mp hg₀).1 hf (hg₀id.trans hid)]
      exact ⟨hname, halgorithm, htb⟩
    · exact ⟨rfl, rfl, tlvTieBreakerEq_refl _⟩
  constructor
  · intro k hk g hg
    obtain ⟨g₀, hg₀, hgname, -⟩ := hbefore k g hg
    exact hgname.trans (h.name k hk g₀ hg₀)
  · intro k hk
    have hsame : ((r.write f').members k).map (·.nodeId) = (r.members k).map (·.nodeId) := by
      rw [members_write, List.map_map]
      refine List.map_congr_left fun g₀ hg₀ => ?_
      simp only [Function.comp_apply]
      split
      · next hg₀id =>
        rw [hlinked.eq_of_id ((mem_members hlinked.ids).mp hg₀).1 hf (hg₀id.trans hid)]
        exact hnode
      · rfl
    rw [hsame]
    exact h.nodeIds k hk
  · intro k hk g hg g' hg'
    obtain ⟨g₀, hg₀, -, halg, -⟩ := hbefore k g hg
    obtain ⟨g₀', hg₀', -, halg', -⟩ := hbefore k g' hg'
    rw [halg, halg']
    exact h.algorithm k hk g₀ hg₀ g₀' hg₀'
  · intro k hk g hg g' hg'
    obtain ⟨g₀, hg₀, -, -, hgtb⟩ := hbefore k g hg
    obtain ⟨g₀', hg₀', -, -, hgtb'⟩ := hbefore k g' hg'
    exact tlvTieBreakerEq_trans (tlvTieBreakerEq_trans hgtb (h.tieBreaker k hk g₀ hg₀ g₀' hg₀'))
      (tlvTieBreakerEq_symm hgtb')

theorem Agreed.addCluster (h : r.Agreed) (name : List UInt8) : (r.addCluster name).Agreed := by
  refine h.of_sublist fun k hk => ?_
  rcases List.mem_append.mp hk with hk | hk
  · exact .inr ⟨k, hk, rfl, .refl _⟩
  · rw [List.mem_singleton.mp hk]
    exact .inl rfl

/-- A client that agrees with the members of a cluster takes its place among them. -/
theorem Agreed.join (h : r.Agreed) (hlinked : r.Linked) {f f' : Fixed} (hf : f ∈ r.clients)
    (hnone : f.cluster = none) {k : RegistryCluster} (hk : k ∈ r.clusters) (hid : f'.id = f.id)
    (hname : f'.clusterName = some k.clusterName)
    (hcheck : ∀ g ∈ r.members k, tlvTieBreakerEq f'.tieBreaker g.tieBreaker = true ∧
      f'.decisionAlgorithm = g.decisionAlgorithm)
    {l : List Fixed} (hperm : l.Perm (f' :: r.members k))
    (hsorted : (l.map (·.nodeId)).Pairwise (· < ·)) :
    ((r.write f').link k.id (l.map (·.id))).Agreed := by
  have hnot (k' : RegistryCluster) (hk' : k' ∈ r.clusters) : f'.id ∉ k'.clientList := by
    rw [hid, hlinked.mem_clientList hk' hf, hnone]
    exact fun heq => by cases heq
  have hmem (g : Fixed) (hg : g ∈ l) : g = f' ∨ g ∈ r.members k :=
    List.mem_cons.mp (hperm.mem_iff.mp hg)
  have hl : (l.map (·.id)).filterMap ((r.write f').link k.id (l.map (·.id))).client? = l := by
    refine filterMap_client? fun g hg => client?_of_mem ((write_ids f').symm ▸ hlinked.ids) ?_
    rcases hmem g hg with rfl | hg
    · exact write_mem_self hf hid.symm
    · obtain ⟨hg, hgk⟩ := (mem_members hlinked.ids).mp hg
      exact write_mem_other hg fun heq => hnot k hk (heq ▸ hgk)
  -- the members of the clusters now: `l`, or what they were
  have hmembers (k' : RegistryCluster)
      (hk' : k' ∈ ((r.write f').link k.id (l.map (·.id))).clusters) :
      k'.clusterName = k.clusterName ∧
          ((r.write f').link k.id (l.map (·.id))).members k' = l ∨
        k' ∈ r.clusters ∧ ((r.write f').link k.id (l.map (·.id))).members k' = r.members k' := by
    obtain ⟨k₀, hk₀, ⟨hk₀id, rfl⟩ | ⟨-, rfl⟩⟩ := mem_link hk'
    · have hsame : k₀ = k := hlinked.eq_of_clusterId hk₀ hk hk₀id
      exact .inl ⟨hsame ▸ rfl, hl⟩
    · exact .inr ⟨hk₀, members_write_of_not_mem (hnot _ hk₀)⟩
  constructor
  · intro k' hk' g hg
    rcases hmembers k' hk' with ⟨hkname, heq⟩ | ⟨hk', heq⟩
    · rw [hkname]
      rcases hmem g (heq ▸ hg) with rfl | hg
      · exact hname
      · exact h.name k hk g hg
    · exact h.name k' hk' g (heq ▸ hg)
  · intro k' hk'
    rcases hmembers k' hk' with ⟨-, heq⟩ | ⟨hk', heq⟩
    · exact heq.symm ▸ hsorted
    · exact heq.symm ▸ h.nodeIds k' hk'
  · intro k' hk' g hg g' hg'
    rcases hmembers k' hk' with ⟨-, heq⟩ | ⟨hk', heq⟩
    · rw [heq] at hg hg'
      rcases hmem g hg with rfl | hg <;> rcases hmem g' hg' with rfl | hg'
      · rfl
      · exact (hcheck g' hg').2
      · exact (hcheck g hg).2.symm
      · exact h.algorithm k hk g hg g' hg'
    · exact h.algorithm k' hk' g (heq ▸ hg) g' (heq ▸ hg')
  · intro k' hk' g hg g' hg'
    rcases hmembers k' hk' with ⟨-, heq⟩ | ⟨hk', heq⟩
    · rw [heq] at hg hg'
      rcases hmem g hg with rfl | hg <;> rcases hmem g' hg' with rfl | hg'
      · exact tlvTieBreakerEq_refl _
      · exact (hcheck g' hg').1
      · exact tlvTieBreakerEq_symm (hcheck g hg).1
      · exact h.tieBreaker k hk g hg g' hg'
    · exact h.tieBreaker k' hk' g (heq ▸ hg) g' (heq ▸ hg')

theorem Agreed.remove (h : r.Agreed) (f : Fixed) : (r.remove f).Agreed := by
  -- a client that is still there was there before
  have hclient (i : ClientId) : i ≠ f.id → (r.remove f).client? i = r.client? i := by
    intro hne
    simp only [client?, Registry.remove, List.find?_filter]
    congr 1
    funext g
    by_cases hg : g.id = i
    · simp [hg, hne]
    · simp [hg]
  have hsub (i : ClientId) : ∀ g ∈ (r.remove f).client? i, g.id ≠ f.id := by
    intro g hg
    simpa using (List.mem_filter.mp (client?_mem hg)).2
  refine h.of_sublist fun k' hk' => .inr ?_
  have hmembers (k₀ : RegistryCluster) (l : List ClientId) (hl : l.Sublist k₀.clientList) :
      (l.filterMap (r.remove f).client?).Sublist (r.members k₀) := by
    refine .trans ?_ (hl.filterMap _)
    clear hl
    induction l with
    | nil => exact .slnil
    | cons i rest ih =>
      by_cases hi : i = f.id
      · have hnone : (r.remove f).client? i = none := by
          refine Option.eq_none_iff_forall_not_mem.mpr fun g hg => hsub i g hg ?_
          exact (client?_id hg).trans hi
        rw [List.filterMap_cons_none hnone]
        exact ih.trans ((List.sublist_cons_self i rest).filterMap _)
      · simp only [List.filterMap_cons, hclient i hi]
        split
        · exact ih
        · exact ih.cons_cons _
  obtain ⟨k₀, hk₀, ⟨-, rfl⟩ | ⟨-, rfl⟩⟩ := mem_remove hk'
  · exact ⟨k₀, hk₀, rfl, hmembers k₀ _ List.filter_sublist⟩
  · exact ⟨_, hk₀, rfl, hmembers _ _ (.refl _)⟩

end Registry

/-! ### Joining a cluster by name -/

/-- The cluster a client joins: one of that name, or a new one. -/
inductive JoinedCluster (r : Registry) (clusterName : List UInt8) (r' : Registry)
    (k : RegistryCluster) : Prop where
  | found (hr : r' = r) (hk : k ∈ r.clusters) (hname : k.clusterName = clusterName)
  | added (hnew : ∀ k ∈ r.clusters, k.clusterName ≠ clusterName)
      (hr : r' = r.addCluster clusterName) (hk : k = ⟨r.nextClusterId, clusterName, []⟩)

/-- `f` joins the cluster `k` as `f'`: it agrees with the members of the cluster and takes its
    place among them, which gives the list `l`. -/
structure Joins (r : Registry) (f : Fixed) (clusterName : List UInt8) (r₀ : Registry)
    (k : RegistryCluster) (f' : Fixed) (l : List Fixed) (r' : Registry) : Prop where
  cluster : JoinedCluster r clusterName r₀ k
  client : f' = { f with cluster := some k.id, initReceived := true }
  check : ∀ g ∈ r₀.members k, tlvTieBreakerEq f'.tieBreaker g.tieBreaker = true ∧
    f'.decisionAlgorithm = g.decisionAlgorithm
  perm : l.Perm (f' :: r₀.members k)
  sorted : ((r₀.members k).map (·.nodeId)).Pairwise (· < ·) → (l.map (·.nodeId)).Pairwise (· < ·)
  result : r' = (r₀.write f').link k.id (l.map (·.id))

section Joins

variable {r r₀ r' : Registry} {name : List UInt8} {k : RegistryCluster} {f f' : Fixed}
  {l : List Fixed}

theorem JoinedCluster.linked (h : JoinedCluster r name r₀ k) (hlinked : r.Linked) : r₀.Linked := by
  cases h with
  | found hr hk hname => exact hr ▸ hlinked
  | added hnew hr hk => exact hr ▸ hlinked.addCluster hnew

theorem JoinedCluster.agreed (h : JoinedCluster r name r₀ k) (hagreed : r.Agreed) :
    r₀.Agreed := by
  cases h with
  | found hr hk hname => exact hr ▸ hagreed
  | added hnew hr hk => exact hr ▸ hagreed.addCluster name

theorem JoinedCluster.clients (h : JoinedCluster r name r₀ k) : r₀.clients = r.clients := by
  cases h with
  | found hr hk hname => rw [hr]
  | added hnew hr hk => rw [hr]; rfl

theorem JoinedCluster.mem (h : JoinedCluster r name r₀ k) :
    k ∈ r₀.clusters ∧ k.clusterName = name := by
  cases h with
  | found hr hk hname => exact ⟨hr ▸ hk, hname⟩
  | added hnew hr hk =>
    rw [hr, hk]
    exact ⟨List.mem_append_right _ (List.mem_singleton_self _), rfl⟩

theorem Joins.linked (h : Joins r f name r₀ k f' l r') (hlinked : r.Linked) (hf : f ∈ r.clients)
    (hnone : f.cluster = none) (hpre : f.preinitReceived = true) : r'.Linked := by
  have hlinked₀ := h.cluster.linked hlinked
  have hids := h.perm.map (·.id)
  rw [List.map_cons, hlinked₀.members_ids h.cluster.mem.1] at hids
  rw [h.result]
  exact hlinked₀.join (h.cluster.clients ▸ hf) hnone h.cluster.mem.1 (by rw [h.client])
    (by rw [h.client]) (by rw [h.client]; exact hpre) hids

theorem Joins.agreed (h : Joins r f name r₀ k f' l r') (hlinked : r.Linked) (hagreed : r.Agreed)
    (hf : f ∈ r.clients) (hnone : f.cluster = none) (hname : f.clusterName = some name) :
    r'.Agreed := by
  have hagreed₀ := h.cluster.agreed hagreed
  rw [h.result]
  refine hagreed₀.join (h.cluster.linked hlinked) (h.cluster.clients ▸ hf) hnone h.cluster.mem.1
    (by rw [h.client]) ?_ h.check h.perm (h.sorted (hagreed₀.nodeIds k h.cluster.mem.1))
  rw [h.client, h.cluster.mem.2]
  exact hname

end Joins

end Qdevice.Qnetd
