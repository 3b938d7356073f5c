import Qdevice.ForStd.Runs
import Qdevice.Native.QnetdClusterList
import Qdevice.Spec.ClusterRun

/-! # The cluster list is the partition of its clients by name

Clusters come and go with their clients.  In every run the clusters have distinct names, none is
empty, and each holds the clients with its name in the order of their node ids. -/

namespace Qdevice.Qnetd

variable {clients : ClientId → ClusterListClient}

/-! ### Insertion by node id -/

theorem perm_qnetdClusterListInsert (id : ClientId) (list : List ClientId) :
    (qnetdClusterListInsert clients id list).Perm (id :: list) := by
  induction list with
  | nil => exact .refl _
  | cons entry rest ih =>
    rw [qnetdClusterListInsert]
    split
    · exact .refl _
    · exact (ih.cons entry).trans (.swap id entry rest)

theorem mem_qnetdClusterListInsert {id i : ClientId} {list : List ClientId} :
    i ∈ qnetdClusterListInsert clients id list ↔ i = id ∨ i ∈ list := by
  rw [(perm_qnetdClusterListInsert id list).mem_iff, List.mem_cons]

/-- In ascending order of the node ids; clients with one node id may stand in any order. -/
def ByNodeId (clients : ClientId → ClusterListClient) (list : List ClientId) : Prop :=
  list.Pairwise fun i j => (clients i).nodeId ≤ (clients j).nodeId

theorem ByNodeId.insert {list : List ClientId} (h : ByNodeId clients list) (id : ClientId) :
    ByNodeId clients (qnetdClusterListInsert clients id list) := by
  induction list with
  | nil => exact List.pairwise_singleton _ _
  | cons entry rest ih =>
    obtain ⟨hentry, hrest⟩ := List.pairwise_cons.mp h
    rw [qnetdClusterListInsert]
    split
    · next hlt =>
      refine List.pairwise_cons.mpr ⟨fun j hj => ?_, h⟩
      obtain rfl | hj := List.mem_cons.mp hj
      · exact UInt32.le_of_lt hlt
      · exact UInt32.le_trans (UInt32.le_of_lt hlt) (hentry j hj)
    · next hge =>
      refine List.pairwise_cons.mpr ⟨fun j hj => ?_, ih hrest⟩
      obtain rfl | hj := mem_qnetdClusterListInsert.mp hj
      · exact UInt32.not_lt.mp hge
      · exact hentry j hj

/-! ### The invariant -/

/-- One cluster: it is not empty, its clients are those that point to it, once each, and they
    have its name. -/
structure ClusterOk (clients : ClientId → ClusterListClient) (cluster : ClientId → Option ClusterId)
    (entry : ClusterEntry) : Prop where
  nonempty : entry.clientList ≠ []
  nodup : entry.clientList.Nodup
  sorted : ByNodeId clients entry.clientList
  member : ∀ id, id ∈ entry.clientList ↔ cluster id = some entry.id
  name : ∀ id ∈ entry.clientList, (clients id).clusterName = entry.clusterName

/-- The cluster list and the pointers of the clients. -/
structure ClusterListOk (clients : ClientId → ClusterListClient) (list : QnetdClusterList) :
    Prop where
  names : (list.clusters.map (·.clusterName)).Nodup
  ids : (list.clusters.map (·.id)).Nodup
  fresh : ∀ entry ∈ list.clusters, entry.id < list.nextClusterId
  clusters : ∀ entry ∈ list.clusters, ClusterOk clients list.cluster entry
  listed : ∀ id i, list.cluster id = some i → ∃ entry ∈ list.clusters, entry.id = i

namespace ClusterListOk

variable {list list' : QnetdClusterList}

theorem init : ClusterListOk clients {} where
  names := List.nodup_nil
  ids := List.nodup_nil
  fresh _ hno := absurd hno List.not_mem_nil
  clusters _ hno := absurd hno List.not_mem_nil
  listed id i h := by cases h

/-- A cluster that `find_by_name` finds is the only one with its name. -/
theorem eq_of_name (h : ClusterListOk clients list) {entry entry' : ClusterEntry}
    (hmem : entry ∈ list.clusters) (hmem' : entry' ∈ list.clusters)
    (hname : entry.clusterName = entry'.clusterName) : entry = entry' :=
  List.inj_on_of_nodup_map h.names hmem hmem' hname

theorem eq_of_id (h : ClusterListOk clients list) {entry entry' : ClusterEntry}
    (hmem : entry ∈ list.clusters) (hmem' : entry' ∈ list.clusters)
    (hid : entry.id = entry'.id) : entry = entry' :=
  List.inj_on_of_nodup_map h.ids hmem hmem' hid

end ClusterListOk

/-- A client that joins no list and leaves none does not matter for a cluster. -/
theorem ClusterOk.update {cluster : ClientId → Option ClusterId} {entry : ClusterEntry}
    (h : ClusterOk clients cluster entry) {id : ClientId} {pointer : Option ClusterId}
    (hold : cluster id ≠ some entry.id) (hnew : pointer ≠ some entry.id) :
    ClusterOk clients (Function.update cluster id pointer) entry where
  nonempty := h.nonempty
  nodup := h.nodup
  sorted := h.sorted
  member i := by
    by_cases heq : i = id
    · subst heq
      rw [Function.update_self, h.member]
      exact ⟨fun hno => absurd hno hold, fun hno => absurd hno hnew⟩
    · rw [Function.update_of_ne heq]
      exact h.member i
  name := h.name

/-- A client joins a cluster with its name. -/
theorem ClusterOk.insert {cluster : ClientId → Option ClusterId} {entry : ClusterEntry}
    (h : ClusterOk clients cluster entry) {id : ClientId} (hnew : cluster id = none)
    (hname : (clients id).clusterName = entry.clusterName) :
    ClusterOk clients (Function.update cluster id (some entry.id))
      { entry with clientList := qnetdClusterListInsert clients id entry.clientList } where
  nonempty := by
    intro hnil
    have hmem : id ∈ qnetdClusterListInsert clients id entry.clientList :=
      mem_qnetdClusterListInsert.mpr (.inl rfl)
    simp only at hnil
    rw [hnil] at hmem
    cases hmem
  nodup := by
    refine (perm_qnetdClusterListInsert id _).nodup_iff.mpr (List.nodup_cons.mpr ⟨?_, h.nodup⟩)
    rw [h.member, hnew]
    exact fun hno => by cases hno
  sorted := h.sorted.insert id
  member i := by
    rw [mem_qnetdClusterListInsert]
    by_cases heq : i = id
    · simp [heq]
    · rw [Function.update_of_ne heq, or_iff_right heq]
      exact h.member i
  name i hi := by
    obtain rfl | hi := mem_qnetdClusterListInsert.mp hi
    · exact hname
    · exact h.name i hi

/-- A client leaves a cluster that has other clients. -/
theorem ClusterOk.remove {cluster : ClientId → Option ClusterId} {entry : ClusterEntry}
    (h : ClusterOk clients cluster entry) (id : ClientId)
    (hrest : entry.clientList.filter (· ≠ id) ≠ []) :
    ClusterOk clients (Function.update cluster id none)
      { entry with clientList := entry.clientList.filter (· ≠ id) } where
  nonempty := hrest
  nodup := h.nodup.filter _
  sorted := List.Pairwise.filter _ h.sorted
  member i := by
    rw [List.mem_filter, h.member]
    by_cases heq : i = id
    · simp [heq]
    · simp [heq]
  name i hi := h.name i (List.mem_filter.mp hi).1

/-! ### Steps -/

/-- A pointer after one of them was set. -/
private theorem of_update {cluster : ClientId → Option ClusterId} {id i : ClientId}
    {pointer : Option ClusterId} {k : ClusterId}
    (h : Function.update cluster id pointer i = some k) :
    (i = id ∧ pointer = some k) ∨ (i ≠ id ∧ cluster i = some k) := by
  by_cases heq : i = id
  · subst heq
    rw [Function.update_self] at h
    exact .inl ⟨rfl, h⟩
  · rw [Function.update_of_ne heq] at h
    exact .inr ⟨heq, h⟩

theorem qnetdClusterListFindByName_some {entries : List ClusterEntry} {name : List UInt8}
    {entry : ClusterEntry} (h : qnetdClusterListFindByName entries name = some entry) :
    entry ∈ entries ∧ entry.clusterName = name :=
  ⟨List.mem_of_find?_eq_some h, by simpa using List.find?_some h⟩

theorem qnetdClusterListFindByName_none {entries : List ClusterEntry} {name : List UInt8}
    (h : qnetdClusterListFindByName entries name = none) :
    ∀ entry ∈ entries, entry.clusterName ≠ name := by
  intro entry hmem
  simpa using List.find?_eq_none.mp h entry hmem

namespace ClusterListOk

variable {list list' : QnetdClusterList}

/-- A client joins a cluster that is there. -/
theorem addFound (h : ClusterListOk clients list) {id : ClientId} {cluster : ClusterEntry}
    (hnew : list.cluster id = none) (hmem : cluster ∈ list.clusters)
    (hname : (clients id).clusterName = cluster.clusterName) :
    ClusterListOk clients { list with
      clusters := list.clusters.map fun entry =>
        if entry.id = cluster.id then
          { entry with clientList := qnetdClusterListInsert clients id entry.clientList }
        else entry
      cluster := Function.update list.cluster id (some cluster.id) } := by
  refine ⟨?_, ?_, fun entry he => ?_, fun entry he => ?_, fun i k hk => ?_⟩
  · convert h.names using 1
    rw [List.map_map]
    refine List.map_congr_left fun entry _ => ?_
    rw [Function.comp_apply]
    split <;> rfl
  · convert h.ids using 1
    rw [List.map_map]
    refine List.map_congr_left fun entry _ => ?_
    rw [Function.comp_apply]
    split <;> rfl
  · obtain ⟨entry₀, he₀, rfl⟩ := List.mem_map.mp he
    have hfresh := h.fresh entry₀ he₀
    split <;> exact hfresh
  · obtain ⟨entry₀, he₀, rfl⟩ := List.mem_map.mp he
    by_cases hid : entry₀.id = cluster.id
    · obtain rfl := h.eq_of_id he₀ hmem hid
      rw [if_pos rfl]
      exact (h.clusters entry₀ he₀).insert hnew hname
    · rw [if_neg hid]
      refine (h.clusters entry₀ he₀).update ?_ ?_
      · rw [hnew]
        exact fun hno => by cases hno
      · exact fun heq => hid (Option.some.inj heq).symm
  · have hlisted : ∃ entry ∈ list.clusters, entry.id = k := by
      obtain ⟨-, hpointer⟩ | ⟨-, hpointer⟩ := of_update hk
      · exact ⟨cluster, hmem, Option.some.inj hpointer⟩
      · exact h.listed i k hpointer
    obtain ⟨entry, hentry, hid⟩ := hlisted
    refine ⟨_, List.mem_map_of_mem hentry, ?_⟩
    split <;> exact hid

/-- A client starts a cluster. -/
theorem addNew (h : ClusterListOk clients list) {id : ClientId} (hnew : list.cluster id = none)
    (hname : ∀ entry ∈ list.clusters, entry.clusterName ≠ (clients id).clusterName) :
    ClusterListOk clients
      { clusters := list.clusters ++ [{ id := list.nextClusterId
                                        clusterName := (clients id).clusterName
                                        clientList := qnetdClusterListInsert clients id [] }]
        nextClusterId := list.nextClusterId + 1
        cluster := Function.update list.cluster id (some list.nextClusterId) } := by
  have hunused (i : ClientId) : list.cluster i ≠ some list.nextClusterId := by
    intro hi
    obtain ⟨entry, hentry, hid⟩ := h.listed i _ hi
    exact Nat.ne_of_lt (h.fresh entry hentry) hid
  refine ⟨?_, ?_, fun entry he => ?_, fun entry he => ?_, fun i k hk => ?_⟩
  · rw [List.map_append, List.nodup_append_comm, List.map_singleton, List.singleton_append,
      List.nodup_cons]
    refine ⟨fun hmem => ?_, h.names⟩
    obtain ⟨entry, hentry, heq⟩ := List.mem_map.mp hmem
    exact hname entry hentry heq
  · rw [List.map_append, List.nodup_append_comm, List.map_singleton, List.singleton_append,
      List.nodup_cons]
    refine ⟨fun hmem => ?_, h.ids⟩
    obtain ⟨entry, hentry, hid⟩ := List.mem_map.mp hmem
    exact Nat.ne_of_lt (h.fresh entry hentry) hid
  · obtain he | he := List.mem_append.mp he
    · exact Nat.lt_succ_of_lt (h.fresh entry he)
    · obtain rfl := List.mem_singleton.mp he
      exact Nat.lt_succ_self _
  · obtain he | he := List.mem_append.mp he
    · refine (h.clusters entry he).update ?_ ?_
      · rw [hnew]
        exact fun hno => by cases hno
      · exact fun heq => Nat.ne_of_lt (h.fresh entry he) (Option.some.inj heq).symm
    · obtain rfl := List.mem_singleton.mp he
      refine ⟨List.cons_ne_nil _ _, List.nodup_singleton _, List.pairwise_singleton _ _,
        fun i => ?_, fun i hi => ?_⟩
      · rw [qnetdClusterListInsert, List.mem_singleton]
        by_cases heq : i = id
        · simp [heq]
        · simp [heq, hunused i]
      · rw [List.mem_singleton.mp hi]
  · obtain ⟨-, hpointer⟩ | ⟨-, hpointer⟩ := of_update hk
    · exact ⟨_, List.mem_append_right _ (.head _), Option.some.inj hpointer⟩
    · obtain ⟨entry, hentry, hid⟩ := h.listed i k hpointer
      exact ⟨entry, List.mem_append_left _ hentry, hid⟩

/-- The clusters after a client is gone. -/
private theorem mem_delClient {entries : List ClusterEntry} {cluster : ClusterId} {id : ClientId}
    {entry : ClusterEntry} (h : entry ∈ qnetdClusterListDelClient entries (some cluster) id) :
    ∃ entry₀ ∈ entries, (entry₀.id = cluster ∧ entry₀.clientList.filter (· ≠ id) ≠ [] ∧
      entry = { entry₀ with clientList := entry₀.clientList.filter (· ≠ id) }) ∨
      (entry₀.id ≠ cluster ∧ entry = entry₀) := by
  obtain ⟨entry₀, hentry₀, hkept⟩ := List.mem_filterMap.mp h
  refine ⟨entry₀, hentry₀, ?_⟩
  split at hkept
  · next hid =>
    dsimp only at hkept
    split at hkept
    · cases hkept
    · next hrest => exact .inl ⟨Option.some.inj hid, hrest, (Option.some.inj hkept).symm⟩
  · next hid => exact .inr ⟨fun heq => hid (congrArg some heq), (Option.some.inj hkept).symm⟩

private theorem delClient_map_sublist {β : Type} {V : ClusterEntry → β}
    (hV : ∀ k l, V { k with clientList := l } = V k) (entries : List ClusterEntry)
    (cluster : Option ClusterId) (id : ClientId) :
    ((qnetdClusterListDelClient entries cluster id).map V).Sublist (entries.map V) := by
  refine List.map_filterMap_sublist (fun k k' hk' => ?_) entries
  split at hk'
  · dsimp only at hk'
    split at hk'
    · cases hk'
    · rw [← Option.some.inj hk']
      exact hV k _
  · rw [← Option.some.inj hk']

/-- A client leaves its cluster. -/
theorem del (h : ClusterListOk clients list) {id : ClientId} {cluster : ClusterId}
    (hcluster : list.cluster id = some cluster) :
    ClusterListOk clients { list with
      clusters := qnetdClusterListDelClient list.clusters (some cluster) id
      cluster := Function.update list.cluster id none } := by
  refine ⟨?_, ?_, fun entry he => ?_, fun entry he => ?_, fun i k hk => ?_⟩
  · exact h.names.sublist (delClient_map_sublist (fun _ _ => rfl) _ _ _)
  · exact h.ids.sublist (delClient_map_sublist (fun _ _ => rfl) _ _ _)
  · obtain ⟨entry₀, hentry₀, ⟨-, -, rfl⟩ | ⟨-, rfl⟩⟩ := mem_delClient he
    · exact h.fresh entry₀ hentry₀
    · exact h.fresh entry hentry₀
  · obtain ⟨entry₀, hentry₀, ⟨-, hrest, rfl⟩ | ⟨hid, rfl⟩⟩ := mem_delClient he
    · exact (h.clusters entry₀ hentry₀).remove id hrest
    · refine (h.clusters entry hentry₀).update ?_ (fun hno => by cases hno)
      rw [hcluster]
      exact fun heq => hid (Option.some.inj heq).symm
  · obtain ⟨-, hno⟩ | ⟨hne, hpointer⟩ := of_update hk
    · cases hno
    · obtain ⟨entry, hentry, rfl⟩ := h.listed i k hpointer
      have hmem : i ∈ entry.clientList.filter (· ≠ id) :=
        List.mem_filter.mpr ⟨((h.clusters entry hentry).member i).mpr hpointer, by simpa using hne⟩
      by_cases hid : some entry.id = some cluster
      · refine ⟨{ entry with clientList := entry.clientList.filter (· ≠ id) },
          List.mem_filterMap.mpr ⟨entry, hentry, ?_⟩, rfl⟩
        rw [if_pos hid]
        dsimp only
        rw [if_neg (List.ne_nil_of_mem hmem)]
      · exact ⟨entry, List.mem_filterMap.mpr ⟨entry, hentry, by rw [if_neg hid]⟩, rfl⟩

theorem step (h : ClusterListOk clients list) {op : ClusterListOp}
    (hstep : clusterListStep clients list op = some list') : ClusterListOk clients list' := by
  cases op with
  | add id alloc =>
    rw [clusterListStep] at hstep
    cases hpointer : list.cluster id with
    | some k =>
      rw [hpointer] at hstep
      cases hstep
    | none =>
      rw [hpointer, qnetdClusterListAddClient] at hstep
      cases hfound : qnetdClusterListFindByName list.clusters (clients id).clusterName with
      | some entry =>
        rw [hfound] at hstep
        cases hstep
        obtain ⟨hmem, hname⟩ := qnetdClusterListFindByName_some hfound
        exact h.addFound hpointer hmem hname.symm
      | none =>
        rw [hfound] at hstep
        cases alloc with
        | false =>
          cases hstep
          exact h
        | true =>
          cases hstep
          exact h.addNew hpointer (qnetdClusterListFindByName_none hfound)
  | del id =>
    rw [clusterListStep] at hstep
    cases hpointer : list.cluster id with
    | none =>
      rw [hpointer] at hstep
      cases hstep
    | some k =>
      rw [hpointer] at hstep
      cases hstep
      exact h.del hpointer

end ClusterListOk

/-- A call leaves the clusters with other names alone. -/
theorem clusterListStep_others {list list' : QnetdClusterList} {op : ClusterListOp}
    (h : ClusterListOk clients list) (hstep : clusterListStep clients list op = some list') :
    list'.clusters.filter (·.clusterName ≠ (clients op.client).clusterName) =
      list.clusters.filter (·.clusterName ≠ (clients op.client).clusterName) := by
  cases op with
  | add id alloc =>
    simp only [ClusterListOp.client]
    rw [clusterListStep] at hstep
    cases hpointer : list.cluster id with
    | some k =>
      rw [hpointer] at hstep
      cases hstep
    | none =>
      rw [hpointer, qnetdClusterListAddClient] at hstep
      cases hfound : qnetdClusterListFindByName list.clusters (clients id).clusterName with
      | some cluster =>
        rw [hfound] at hstep
        cases hstep
        -- Only the cluster with the name of the client is written to.
        obtain ⟨hmem, hname⟩ := qnetdClusterListFindByName_some hfound
        simp only
        rw [← List.filterMap_eq_map]
        refine List.filter_filterMap_of_keep (fun entry hentry hp => ?_)
          fun entry hentry hp entry' hentry' => ?_
        · have hne : entry.id ≠ cluster.id := by
            intro heq
            rw [h.eq_of_id hentry hmem heq] at hp
            exact of_decide_eq_true hp hname
          rw [Function.comp_apply, if_neg hne]
        · rw [← hp]
          simp only [Function.comp_apply] at hentry'
          split at hentry'
          · rw [← Option.some.inj hentry']
          · rw [← Option.some.inj hentry']
      | none =>
        rw [hfound] at hstep
        cases alloc with
        | false =>
          cases hstep
          rfl
        | true =>
          cases hstep
          simp
  | del id =>
    simp only [ClusterListOp.client]
    rw [clusterListStep] at hstep
    cases hpointer : list.cluster id with
    | none =>
      rw [hpointer] at hstep
      cases hstep
    | some k =>
      rw [hpointer] at hstep
      cases hstep
      refine List.filter_filterMap_of_keep (fun entry hentry hp => ?_)
        fun entry hentry hp entry' hentry' => ?_
      · -- A cluster with another name cannot be that of the client.
        have hne : ¬ some entry.id = some k := by
          intro heq
          have hmem := ((h.clusters entry hentry).member id).mpr (hpointer.trans heq.symm)
          exact of_decide_eq_true hp ((h.clusters entry hentry).name id hmem).symm
        rw [if_neg hne]
      · rw [← hp]
        split at hentry'
        · dsimp only at hentry'
          split at hentry'
          · cases hentry'
          · rw [← Option.some.inj hentry']
        · rw [← Option.some.inj hentry']

/-! ### Runs -/

/-- The calls one after the other, from `qnetd_cluster_list_init` on. -/
def clusterListMachine (clients : ClientId → ClusterListClient) :
    Runs.Machine QnetdClusterList ClusterListOp where
  init := {}
  step := clusterListStep clients

theorem clusterListOk_of_reach {list : QnetdClusterList}
    (h : (clusterListMachine clients).Reach (fun _ _ => True) list) : ClusterListOk clients list :=
  h.invariant (ClusterListOk clients) ClusterListOk.init fun _ hok _ hstep => hok.step hstep

/-- The client was added and has not been removed. -/
def QnetdClusterList.Present (list : QnetdClusterList) (id : ClientId) : Prop :=
  (list.cluster id).isSome

theorem ClusterListOk.mem_iff {list : QnetdClusterList} (h : ClusterListOk clients list)
    {entry : ClusterEntry} (hentry : entry ∈ list.clusters) (id : ClientId) :
    id ∈ entry.clientList ↔ list.Present id ∧ (clients id).clusterName = entry.clusterName := by
  have hcluster := h.clusters entry hentry
  constructor
  · intro hid
    refine ⟨?_, hcluster.name id hid⟩
    rw [QnetdClusterList.Present, (hcluster.member id).mp hid]
    rfl
  · rintro ⟨hpresent, hname⟩
    obtain ⟨k, hk⟩ := Option.isSome_iff_exists.mp hpresent
    obtain ⟨entry', hentry', rfl⟩ := h.listed id k hk
    have hmem := ((h.clusters entry' hentry').member id).mpr hk
    have hname' := (h.clusters entry' hentry').name id hmem
    rwa [← h.eq_of_name hentry' hentry (hname'.symm.trans hname)]

/-- In every run the cluster list is the partition of the present clients by name: one cluster
    for each name in use, none empty, each with exactly its clients, once each, in ascending order
    of their node ids; and a call leaves the clusters with other names alone. -/
theorem clusterList_partition (clients : ClientId → ClusterListClient) (list : QnetdClusterList)
    (h : (clusterListMachine clients).Reach (fun _ _ => True) list) :
    (list.clusters.map (·.clusterName)).Nodup ∧
    (∀ entry ∈ list.clusters, entry.clientList ≠ [] ∧ entry.clientList.Nodup ∧
      ByNodeId clients entry.clientList ∧ ∀ id, id ∈ entry.clientList ↔
        list.Present id ∧ (clients id).clusterName = entry.clusterName) ∧
    (∀ id, list.Present id →
      ∃ entry ∈ list.clusters, entry.clusterName = (clients id).clusterName) ∧
    (∀ op list', clusterListStep clients list op = some list' →
      list'.clusters.filter (·.clusterName ≠ (clients op.client).clusterName) =
        list.clusters.filter (·.clusterName ≠ (clients op.client).clusterName)) := by
  -- The invariant says all but the last part, which is about one more call.
  have hok := clusterListOk_of_reach h
  refine ⟨hok.names, fun entry hentry => ?_, fun id hpresent => ?_, fun op list' hstep => ?_⟩
  · have hcluster := hok.clusters entry hentry
    exact ⟨hcluster.nonempty, hcluster.nodup, hcluster.sorted, hok.mem_iff hentry⟩
  · obtain ⟨k, hk⟩ := Option.isSome_iff_exists.mp hpresent
    obtain ⟨entry, hentry, rfl⟩ := hok.listed id k hk
    have hmem := ((hok.clusters entry hentry).member id).mpr hk
    exact ⟨entry, hentry, ((hok.clusters entry hentry).name id hmem).symm⟩
  · exact clusterListStep_others hok hstep

/-- Two clusters, one with two clients of the same node id; the name of the other is a prefix. -/
def threeClients (id : ClientId) : ClusterListClient :=
  if id = 1 then ⟨[97], 7⟩ else ⟨[97, 0], 5⟩

theorem clusterList_partition_three :
    ∃ list ∈ (clusterListMachine threeClients).exec {}
        [.add 0 true, .add 1 true, .add 2 true, .add 3 true, .del 2],
      list.clusters.map (fun entry => (entry.clusterName, entry.clientList)) =
        [([97, 0], [0, 3]), ([97], [1])] ∧
      (list.clusters.map (·.clusterName)).Nodup := by
  have hrun : ∃ list ∈ (clusterListMachine threeClients).exec {}
      [.add 0 true, .add 1 true, .add 2 true, .add 3 true, .del 2],
      list.clusters.map (fun entry => (entry.clusterName, entry.clientList)) =
        [([97, 0], [0, 3]), ([97], [1])] := by
    decide +kernel
  obtain ⟨list, hlist, hclusters⟩ := hrun
  have hreach := Runs.Machine.Reach.exec (fun _ _ => trivial)
    (.init : (clusterListMachine threeClients).Reach (fun _ _ => True) _) hlist
  exact ⟨list, hlist, hclusters, (clusterList_partition threeClients list hreach).1⟩

/-! ### The cluster list of an instance -/

/-- The insertion that INIT makes is the one on pointers. -/
theorem map_qnetdClusterListInsertClient {client : QnetdClient} {list : List QnetdClient}
    (hclient : (clients client.id).nodeId = client.nodeId)
    (hlist : ∀ c ∈ list, (clients c.id).nodeId = c.nodeId) :
    (qnetdClusterListInsertClient client list).map (·.id) =
      qnetdClusterListInsert clients client.id (list.map (·.id)) := by
  induction list with
  | nil => rfl
  | cons c rest ih =>
    obtain ⟨hc, hrest⟩ := List.forall_mem_cons.mp hlist
    simp only [qnetdClusterListInsertClient, qnetdClusterListInsert, List.map_cons, hc, hclient,
      gt_iff_lt]
    split
    · rfl
    · rw [List.map_cons, ih hrest]

/-- The clients of a cluster, when all pointers of its list can be read. -/
private theorem clusterEntry_ids {inst : QnetdInstance} {entry : ClusterEntry}
    (hread : ∀ i ∈ entry.clientList, ∃ c, inst.client? i = some c ∧ (clients i).nodeId = c.nodeId) :
    (inst.cluster entry).clientList.map (·.id) = entry.clientList ∧
      ∀ c ∈ (inst.cluster entry).clientList, (clients c.id).nodeId = c.nodeId := by
  have hid {i : ClientId} {c : QnetdClient} (h : inst.client? i = some c) : c.id = i := by
    simpa using List.find?_some h
  constructor
  · simp only [QnetdInstance.cluster, List.map_filterMap]
    refine (List.filterMap_congr fun i hi => ?_).trans List.filterMap_some
    obtain ⟨c, hc, -⟩ := hread i hi
    rw [hc, Option.map_some, hid hc]
  · intro c hc
    obtain ⟨i, hi, hfound⟩ := List.mem_filterMap.mp hc
    obtain ⟨c', hc', hnode⟩ := hread i hi
    obtain rfl : c = c' := Option.some.inj (hfound.symm.trans hc')
    rw [hid hfound, hnode]

/-- When INIT adds a client to the cluster list of an instance, it does what
    `qnetd_cluster_list_add_client` does to the pointers. -/
theorem qnetdClusterListAddClient_storeCluster {env : Env} {inst inst' : QnetdInstance}
    {client : QnetdClient} {name : List UInt8} {entry : ClusterEntry}
    (hids : (inst.clusters.map (·.id)).Nodup) (hfresh : ∀ e ∈ inst.clusters, e.id < inst.nextClusterId)
    (hclient : clients client.id = ⟨name, client.nodeId⟩)
    (hread : ∀ e ∈ inst.clusters, ∀ i ∈ e.clientList,
      ∃ c, inst.client? i = some c ∧ (clients i).nodeId = c.nodeId)
    (hadd : qnetdClusterListAddCluster env inst name = some (inst', entry))
    (cluster : ClientId → Option ClusterId) :
    qnetdClusterListAddClient clients env.clusterAlloc
        ⟨inst.clusters, inst.nextClusterId, cluster⟩ client.id =
      some ((inst'.storeCluster entry.id { inst'.cluster entry with
          clientList := qnetdClusterListInsertClient client (inst'.cluster entry).clientList }).clusters,
        inst'.nextClusterId, entry.id) := by
  have hnode : (clients client.id).nodeId = client.nodeId := by rw [hclient]
  have hname : (clients client.id).clusterName = name := by rw [hclient]
  rw [qnetdClusterListAddCluster] at hadd
  rw [qnetdClusterListAddClient, hname]
  simp only
  cases hfound : qnetdClusterListFindByName inst.clusters name with
  | some found =>
    rw [hfound] at hadd
    cases hadd
    obtain ⟨hmem, -⟩ := qnetdClusterListFindByName_some hfound
    obtain ⟨hlist, hnodes⟩ := clusterEntry_ids (hread entry hmem)
    simp only [QnetdInstance.storeCluster, Option.some.injEq, Prod.mk.injEq, and_true]
    refine List.map_congr_left fun e he => ?_
    by_cases hid : e.id = entry.id
    · obtain rfl := List.inj_on_of_nodup_map hids he hmem hid
      rw [if_pos rfl, if_pos rfl, map_qnetdClusterListInsertClient hnode hnodes, hlist]
      rfl
    · rw [if_neg hid, if_neg hid]
  | none =>
    rw [hfound] at hadd
    cases halloc : env.clusterAlloc with
    | false => simp [halloc] at hadd
    | true =>
      simp only [halloc, if_true] at hadd
      cases hadd
      simp only [QnetdInstance.storeCluster, if_true, List.map_append, List.map_cons,
        List.map_nil, Option.some.injEq, Prod.mk.injEq, and_true]
      congr 1
      refine List.ext_getElem (by rw [List.length_map]) fun n hn _ => ?_
      rw [List.getElem_map, if_neg (Nat.ne_of_lt (hfresh _ (List.getElem_mem hn)))]

end Qdevice.Qnetd
