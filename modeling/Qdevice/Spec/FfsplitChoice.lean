import Mathlib.Data.Finset.Card
import Mathlib.Data.Prod.Lex
import Qdevice.ForStd.List
import Qdevice.Native.QnetdAlgoFfsplit

/-! # The partition that ffsplit selects

`qnetd_algo_ffsplit_select_partition` goes through the clients and keeps the best one so far,
where a client stands for its partition.  Two clients of one partition are not treated alike:
the keep-active-partition tie-breaker looks at the node of the client itself, and the last
tie-breaker does not look at the best client at all.  `candRank` is what the loop maximises, and
`partitionRank` says what this comes to for partitions as sets of nodes. -/

namespace Qdevice

/-- The nodes of a list, as a set. -/
def NodeList.ids (list : NodeList) : Finset UInt32 := (list.map (·.nodeId)).toFinset

theorem NodeList.mem_ids {list : NodeList} {nodeId : UInt32} :
    nodeId ∈ list.ids ↔ list.HasNode nodeId := by
  simp only [ids, List.mem_toFinset, List.mem_map, HasNode]

/-- Of a list without duplicates, counting entries is counting nodes. -/
theorem NodeList.countP_eq_card {list : NodeList} (h : (list.map (·.nodeId)).Nodup)
    (p : UInt32 → Bool) :
    list.countP (fun n => p n.nodeId) = (list.ids.filter fun id => p id = true).card := by
  have hmap : list.countP (fun n => p n.nodeId) = (list.map (·.nodeId)).countP p := by
    rw [List.countP_map]
    rfl
  rw [hmap, ids, ← List.toFinset_filter, List.toFinset_card_of_nodup (h.filter _),
    List.countP_eq_length_filter]

/-- There are 2^32 node ids. -/
theorem card_nodeIds_le (s : Finset UInt32) : s.card ≤ 2 ^ 32 := by
  have hle : s.card ≤ (Finset.range (2 ^ 32)).card :=
    Finset.card_le_card_of_injOn UInt32.toNat
      (fun id _ => Finset.mem_coe.mpr (Finset.mem_range.mpr id.toNat_lt))
      fun _ _ _ _ h => UInt32.toNat_inj.mp h
  rwa [Finset.card_range] at hle

namespace Qnetd

/-! ### The counters -/

/-- The heuristics result that counts for a node in the partition of a candidate. -/
def heuristicsOf (cluster : QnetdCluster) (cand : FfsplitCandidate) (nodeId : UInt32) :
    Option TlvHeuristics :=
  (qnetdClusterFindClientByNodeId cluster nodeId).map fun iter =>
    if iter.id = cand.client.id then cand.heuristics else iter.lastHeuristics

private theorem foldl_stats (cluster : QnetdCluster) (cand : FfsplitCandidate) (nodes : NodeList)
    (stats : FfsplitPartitionStats) :
    nodes.foldl (fun stats iterNode =>
      match qnetdClusterFindClientByNodeId cluster iterNode.nodeId with
      | none => stats
      | some iter =>
        let heuristics := if iter.id = cand.client.id then cand.heuristics else iter.lastHeuristics
        { noClients := stats.noClients + 1
          noHeuristicsPass := stats.noHeuristicsPass + if heuristics = .pass then 1 else 0
          noHeuristicsFail := stats.noHeuristicsFail + if heuristics = .fail then 1 else 0 })
      stats =
    { noClients := stats.noClients + nodes.countP fun n => (heuristicsOf cluster cand n.nodeId).isSome
      noHeuristicsPass := stats.noHeuristicsPass +
        nodes.countP fun n => heuristicsOf cluster cand n.nodeId == some .pass
      noHeuristicsFail := stats.noHeuristicsFail +
        nodes.countP fun n => heuristicsOf cluster cand n.nodeId == some .fail } := by
  induction nodes generalizing stats with
  | nil => rfl
  | cons n rest ih =>
    rw [List.foldl_cons, ih]
    simp only [List.countP_cons, heuristicsOf]
    cases qnetdClusterFindClientByNodeId cluster n.nodeId with
    | none => simp
    | some iter =>
      simp only [Option.map_some, Option.isSome_some, ↓reduceIte, FfsplitPartitionStats.mk.injEq,
        beq_iff_eq, Option.some.injEq]
      omega

/-- The counters, by what counts for each node. -/
theorem ffsplitStats_eq (cluster : QnetdCluster) (cand : FfsplitCandidate) :
    ffsplitGetActiveClientsInPartitionStats cluster (some cand) =
      { noClients := cand.membershipNodeList.countP fun n =>
          (heuristicsOf cluster cand n.nodeId).isSome
        noHeuristicsPass := cand.membershipNodeList.countP fun n =>
          heuristicsOf cluster cand n.nodeId == some .pass
        noHeuristicsFail := cand.membershipNodeList.countP fun n =>
          heuristicsOf cluster cand n.nodeId == some .fail } := by
  refine (foldl_stats cluster cand cand.membershipNodeList {}).trans ?_
  simp only [Nat.zero_add]

/-! ### Partitions as sets of nodes -/

section

variable (cluster : QnetdCluster)

/-- The nodes that have a client. -/
def connectedIds : Finset UInt32 := (cluster.clientList.map (·.nodeId)).toFinset

/-- The nodes that have a client whose last heuristics result is this one. -/
def heuristicsIds (heuristics : TlvHeuristics) : Finset UInt32 :=
  ((cluster.clientList.filter (·.lastHeuristics = heuristics)).map (·.nodeId)).toFinset

/-- The number of connected members. -/
def activeMembers (partition : Finset UInt32) : Nat := (partition ∩ connectedIds cluster).card

/-- Connected members, plus those with PASS, minus those with FAIL. -/
def partitionScore (partition : Finset UInt32) : Int :=
  activeMembers cluster partition + (partition ∩ heuristicsIds cluster .pass).card
    - (partition ∩ heuristicsIds cluster .fail).card

/-- Every client wants the active partition to be kept. -/
def keepsActivePartition : Bool :=
  cluster.clientList.all fun iter => iter.keepActivePartitionTieBreaker == .enabled

/-- A connected member was in the last quorate partition, and this counts. -/
def wasQuorate (partition : Finset UInt32) : Bool :=
  keepsActivePartition cluster && decide
    (∃ id ∈ partition ∩ connectedIds cluster,
      id ∈ NodeList.ids cluster.algorithmData.quoratePartitionNodeList)

/-- What halves of the configuration are compared by: the score, then the number of connected
    members, then whether a connected member was in the last quorate partition, if all clients
    want this to count, then whether the node of the tie-breaker is a member. -/
def partitionRank (tieBreaker : UInt32) (partition : Finset UInt32) : Int ×ₗ Nat ×ₗ Bool ×ₗ Bool :=
  toLex (partitionScore cluster partition, toLex (activeMembers cluster partition,
    toLex (wasQuorate cluster partition, decide (tieBreaker ∈ partition))))

/-- The partition of a client. -/
def QnetdClient.partition (c : QnetdClient) : Finset UInt32 := NodeList.ids c.lastMembershipNodeList

/-- What a decision of ffsplit can rely on when all clients have reported: they share the
    configuration, each list is without duplicates, partitions do not overlap, and the tie-breaker
    is a node of the configuration. -/
structure Settled (config : Finset UInt32) (tieBreaker : UInt32) : Prop where
  ids : (cluster.clientList.map (·.id)).Nodup
  nodeIds : (cluster.clientList.map (·.nodeId)).Nodup
  nonempty : config.Nonempty
  configs : ∀ c ∈ cluster.clientList, (c.configurationNodeList.map (·.nodeId)).Nodup ∧
    NodeList.ids c.configurationNodeList = config
  memberships : ∀ c ∈ cluster.clientList, (c.lastMembershipNodeList.map (·.nodeId)).Nodup ∧
    c.partition ⊆ config ∧ c.nodeId ∈ c.partition
  partitions : ∀ c ∈ cluster.clientList, ∀ d ∈ cluster.clientList,
    c.partition = d.partition ∨ Disjoint c.partition d.partition
  tieBreakers : ∀ c ∈ cluster.clientList, c.tieBreaker.mode = .nodeId ∧
    c.tieBreaker.nodeId = tieBreaker
  configured : tieBreaker ∈ config

end

/-- The candidate that a client is, with what is stored for it. -/
def storedCandidate (c : QnetdClient) : FfsplitCandidate :=
  ⟨c, c.configurationNodeList, c.lastMembershipNodeList, c.lastHeuristics⟩

section

variable {cluster : QnetdCluster} {config : Finset UInt32} {tieBreaker : UInt32}

/-- With the stored fields of a client of the cluster, the candidates are the clients. -/
theorem ffsplitCandidates_stored (hs : Settled cluster config tieBreaker) {client : QnetdClient}
    (hclient : client ∈ cluster.clientList) :
    ffsplitCandidates cluster client false client.configurationNodeList
      client.lastMembershipNodeList client.lastHeuristics = cluster.clientList.map storedCandidate := by
  rw [ffsplitCandidates, ← List.filterMap_eq_map]
  refine List.filterMap_congr fun c hc => ?_
  split
  · next hid =>
    rw [List.inj_on_of_nodup_map hs.nodeIds hc hclient hid]
    rfl
  · rfl

/-- What counts for a node is what is stored for its client. -/
theorem heuristicsOf_stored (hs : Settled cluster config tieBreaker) {c : QnetdClient}
    (hc : c ∈ cluster.clientList) (nodeId : UInt32) :
    heuristicsOf cluster (storedCandidate c) nodeId =
      (qnetdClusterFindClientByNodeId cluster nodeId).map (·.lastHeuristics) := by
  rw [heuristicsOf]
  cases hfind : qnetdClusterFindClientByNodeId cluster nodeId with
  | none => rfl
  | some iter =>
    rw [Option.map_some, Option.map_some]
    split
    · next hid =>
      rw [List.inj_on_of_nodup_map hs.ids (List.mem_of_find?_eq_some hfind) hc hid]
      rfl
    · rfl

/-- A node is connected if and only if the search finds a client. -/
theorem mem_connectedIds {nodeId : UInt32} :
    nodeId ∈ connectedIds cluster ↔
      (qnetdClusterFindClientByNodeId cluster nodeId).isSome = true := by
  simp only [connectedIds, List.mem_toFinset, List.mem_map, qnetdClusterFindClientByNodeId,
    List.find?_isSome, beq_iff_eq]

theorem mem_heuristicsIds (hs : Settled cluster config tieBreaker) {heuristics : TlvHeuristics}
    {nodeId : UInt32} : nodeId ∈ heuristicsIds cluster heuristics ↔
      (qnetdClusterFindClientByNodeId cluster nodeId).map (·.lastHeuristics) = some heuristics := by
  simp only [heuristicsIds, List.mem_toFinset, List.mem_map, List.mem_filter, decide_eq_true_eq,
    Option.map_eq_some_iff]
  constructor
  · rintro ⟨c, ⟨hc, hheuristics⟩, rfl⟩
    exact ⟨c, List.find?_key_of_mem hs.nodeIds hc, hheuristics⟩
  · rintro ⟨c, hfind, hheuristics⟩
    have hid : c.nodeId = nodeId := by simpa using List.find?_some hfind
    exact ⟨c, ⟨List.mem_of_find?_eq_some hfind, hheuristics⟩, hid⟩

/-- The counters of a client's partition, as cardinalities. -/
theorem ffsplitStats_stored (hs : Settled cluster config tieBreaker) {c : QnetdClient}
    (hc : c ∈ cluster.clientList) :
    ffsplitGetActiveClientsInPartitionStats cluster (some (storedCandidate c)) =
      { noClients := activeMembers cluster c.partition
        noHeuristicsPass := (c.partition ∩ heuristicsIds cluster .pass).card
        noHeuristicsFail := (c.partition ∩ heuristicsIds cluster .fail).card } := by
  have hnodup := (hs.memberships c hc).1
  have hcount : ∀ (p : UInt32 → Bool) (s : Finset UInt32), (∀ id, p id = true ↔ id ∈ s) →
      (storedCandidate c).membershipNodeList.countP (fun n => p n.nodeId) =
        (c.partition ∩ s).card := by
    intro p s hp
    rw [storedCandidate, NodeList.countP_eq_card hnodup p, ← Finset.filter_mem_eq_inter]
    simp only [hp, QnetdClient.partition]
  rw [ffsplitStats_eq, FfsplitPartitionStats.mk.injEq]
  simp only [heuristicsOf_stored hs hc]
  refine ⟨hcount (fun id => ((qnetdClusterFindClientByNodeId cluster id).map
      (·.lastHeuristics)).isSome) _ fun id => ?_,
    hcount (fun id => (qnetdClusterFindClientByNodeId cluster id).map (·.lastHeuristics) ==
      some .pass) _ fun id => ?_,
    hcount (fun id => (qnetdClusterFindClientByNodeId cluster id).map (·.lastHeuristics) ==
      some .fail) _ fun id => ?_⟩
  · rw [mem_connectedIds, Option.isSome_map]
  · rw [mem_heuristicsIds hs, beq_iff_eq]
  · rw [mem_heuristicsIds hs, beq_iff_eq]

/-- Nodes with a heuristics result are connected. -/
theorem heuristicsIds_subset (heuristics : TlvHeuristics) :
    heuristicsIds cluster heuristics ⊆ connectedIds cluster := by
  intro id hid
  simp only [heuristicsIds, connectedIds, List.mem_toFinset, List.mem_map, List.mem_filter] at hid ⊢
  obtain ⟨c, ⟨hc, _⟩, heq⟩ := hid
  exact ⟨c, hc, heq⟩

/-- The score in `size_t` is the score, however the difference in it wraps. -/
theorem score_stored (hs : Settled cluster config tieBreaker) {c : QnetdClient}
    (hc : c ∈ cluster.clientList) :
    ((ffsplitGetActiveClientsInPartitionStats cluster (some (storedCandidate c))).score.toNat : Int) =
      partitionScore cluster c.partition := by
  have hfail : (c.partition ∩ heuristicsIds cluster .fail).card ≤
      activeMembers cluster c.partition :=
    Finset.card_le_card (Finset.inter_subset_inter_left (heuristicsIds_subset _))
  have hpass : (c.partition ∩ heuristicsIds cluster .pass).card ≤
      activeMembers cluster c.partition :=
    Finset.card_le_card (Finset.inter_subset_inter_left (heuristicsIds_subset _))
  have hactive : activeMembers cluster c.partition ≤ 2 ^ 32 := card_nodeIds_le _
  rw [ffsplitStats_stored hs hc, FfsplitPartitionStats.score, partitionScore, UInt64.toNat_add,
    UInt64.toNat_sub, UInt64.toNat_ofNat', UInt64.toNat_ofNat', UInt64.toNat_ofNat']
  dsimp only
  omega

/-! ### One comparison -/

/-- The sizes that a comparison looks at. -/
theorem nodeListSize_stored (hs : Settled cluster config tieBreaker) {c : QnetdClient}
    (hc : c ∈ cluster.clientList) :
    nodeListSize (storedCandidate c).configNodeList = config.card ∧
      nodeListSize (storedCandidate c).membershipNodeList = c.partition.card := by
  have hsize : ∀ list : NodeList, (list.map (·.nodeId)).Nodup →
      nodeListSize list = (NodeList.ids list).card := by
    intro list hnodup
    rw [nodeListSize, NodeList.ids, List.toFinset_card_of_nodup hnodup, List.length_map]
  obtain ⟨hnodup, hconfig⟩ := hs.configs c hc
  exact ⟨hconfig ▸ hsize _ hnodup, hsize _ (hs.memberships c hc).1⟩

/-- More or less than half of the nodes: nothing else is looked at. -/
theorem ffsplitPartitionCmp_uneven (hs : Settled cluster config tieBreaker) {c : QnetdClient}
    (hc : c ∈ cluster.clientList) (best : Option FfsplitCandidate) (quorate : NodeList)
    (keep : Bool) (huneven : 2 * c.partition.card ≠ config.card) :
    ffsplitPartitionCmp cluster (storedCandidate c) best quorate keep =
      .ok (decide (config.card < 2 * c.partition.card)) := by
  obtain ⟨hconfig, hmembership⟩ := nodeListSize_stored hs hc
  have hres : ffsplitPartitionCmpRes cluster (storedCandidate c) best quorate keep =
      .ok (some (decide (config.card < 2 * c.partition.card))) := by
    rw [ffsplitPartitionCmpRes]
    simp only [hconfig, hmembership]
    split
    · next hodd =>
      split
      · next hgt => rw [decide_eq_true (by omega)]
      · next hle => rw [decide_eq_false (by omega)]
    · next heven =>
      split
      · next hgt => rw [decide_eq_true (by omega)]
      · next hle =>
        rw [if_pos (by omega), decide_eq_false (by omega)]
  rw [ffsplitPartitionCmp, hres]

/-- The last tie-breaker: whether the node it names is a member. -/
theorem ffsplitIsPreferredPartition_stored (hs : Settled cluster config tieBreaker)
    {c : QnetdClient} (hc : c ∈ cluster.clientList) :
    ffsplitIsPreferredPartition (storedCandidate c).client (storedCandidate c).configNodeList
      (storedCandidate c).membershipNodeList = .ok (decide (tieBreaker ∈ c.partition)) := by
  obtain ⟨hmode, hnode⟩ := hs.tieBreakers c hc
  simp only [storedCandidate, ffsplitIsPreferredPartition, hmode, hnode]
  congr 1
  rw [Bool.eq_iff_iff, nodeListFindNodeId_isSome, decide_eq_true_eq, QnetdClient.partition,
    NodeList.mem_ids]

/-- What the comparison of two halves comes to, by clients: as `partitionRank`, but the
    keep-active-partition tie-breaker looks at the client's own node. -/
def clientRank (cluster : QnetdCluster) (tieBreaker : UInt32) (c : QnetdClient) :
    Int ×ₗ Nat ×ₗ Bool ×ₗ Bool :=
  toLex (partitionScore cluster c.partition, toLex (activeMembers cluster c.partition,
    toLex (keepsActivePartition cluster && decide (c.nodeId ∈
      NodeList.ids cluster.algorithmData.quoratePartitionNodeList),
      decide (tieBreaker ∈ c.partition))))

/-- A client's partition has a connected member. -/
theorem activeMembers_pos (hs : Settled cluster config tieBreaker) {c : QnetdClient}
    (hc : c ∈ cluster.clientList) : 0 < activeMembers cluster c.partition := by
  refine Finset.card_pos.mpr ⟨c.nodeId, Finset.mem_inter.mpr ⟨(hs.memberships c hc).2.2, ?_⟩⟩
  simp only [connectedIds, List.mem_toFinset, List.mem_map]
  exact ⟨c, hc, rfl⟩

/-- The first half is taken. -/
theorem ffsplitPartitionCmp_first_half (hs : Settled cluster config tieBreaker) {c : QnetdClient}
    (hc : c ∈ cluster.clientList) (quorate : NodeList) (keep : Bool)
    (hhalf : 2 * c.partition.card = config.card) :
    ffsplitPartitionCmp cluster (storedCandidate c) none quorate keep = .ok true := by
  obtain ⟨hconfig, hmembership⟩ := nodeListSize_stored hs hc
  have hstats := ffsplitStats_stored hs hc
  have hactive := activeMembers_pos hs hc
  have hres : ffsplitPartitionCmpRes cluster (storedCandidate c) none quorate keep =
      .ok (some true) := by
    rw [ffsplitPartitionCmpRes]
    simp only [hconfig, hmembership]
    rw [if_neg (by omega), if_neg (by omega), if_neg (by omega)]
    split
    · rfl
    · have hzero : (ffsplitGetActiveClientsInPartitionStats cluster none).score = 0 :=
        show FfsplitPartitionStats.score {} = 0 by decide
      rw [if_neg (by rw [hzero]; exact UInt64.not_lt_zero), if_pos (by rw [hstats]; exact hactive)]
  rw [ffsplitPartitionCmp, hres]

/-- The order of ranks, one component after the other. -/
theorem clientRank_le_of {c d : QnetdClient}
    (h : partitionScore cluster c.partition < partitionScore cluster d.partition ∨
      partitionScore cluster c.partition = partitionScore cluster d.partition ∧
        (activeMembers cluster c.partition < activeMembers cluster d.partition ∨
          activeMembers cluster c.partition = activeMembers cluster d.partition ∧
            toLex (keepsActivePartition cluster && decide (c.nodeId ∈
                NodeList.ids cluster.algorithmData.quoratePartitionNodeList),
              decide (tieBreaker ∈ c.partition)) ≤
            toLex (keepsActivePartition cluster && decide (d.nodeId ∈
                NodeList.ids cluster.algorithmData.quoratePartitionNodeList),
              decide (tieBreaker ∈ d.partition)))) :
    clientRank cluster tieBreaker c ≤ clientRank cluster tieBreaker d := by
  rw [clientRank, clientRank, Prod.Lex.toLex_le_toLex, Prod.Lex.toLex_le_toLex]
  exact h

/-- The two tie-breakers: what was quorate first, then what is preferred. -/
private theorem tieBreakers_le (quorate₁ quorate₂ preferred₁ preferred₂ : Bool) :
    ∃ better, (if quorate₁ && !quorate₂ then true else if !quorate₁ && quorate₂ then false
        else preferred₁) = better ∧
      (better = true → toLex (quorate₂, preferred₂) ≤ toLex (quorate₁, preferred₁)) ∧
      (better = false → toLex (quorate₁, preferred₁) ≤ toLex (quorate₂, preferred₂)) := by
  simp only [Prod.Lex.toLex_le_toLex]
  revert quorate₁ quorate₂ preferred₁ preferred₂
  decide

/-- Two halves are compared by `clientRank`. -/
theorem ffsplitPartitionCmp_halves (hs : Settled cluster config tieBreaker) {c d : QnetdClient}
    (hc : c ∈ cluster.clientList) (hd : d ∈ cluster.clientList)
    (hhalf : 2 * c.partition.card = config.card) :
    ∃ better, ffsplitPartitionCmp cluster (storedCandidate c) (some (storedCandidate d))
        cluster.algorithmData.quoratePartitionNodeList (keepsActivePartition cluster) =
          .ok better ∧
      (better = true → clientRank cluster tieBreaker d ≤ clientRank cluster tieBreaker c) ∧
      (better = false → clientRank cluster tieBreaker c ≤ clientRank cluster tieBreaker d) := by
  obtain ⟨hconfig, hmembership⟩ := nodeListSize_stored hs hc
  have hscore₁ := score_stored hs hc
  have hscore₂ := score_stored hs hd
  have hstats₁ := ffsplitStats_stored hs hc
  have hstats₂ := ffsplitStats_stored hs hd
  suffices hres : ∃ better, ffsplitPartitionCmpRes cluster (storedCandidate c)
      (some (storedCandidate d)) cluster.algorithmData.quoratePartitionNodeList
      (keepsActivePartition cluster) = .ok (some better) ∧
      (better = true → clientRank cluster tieBreaker d ≤ clientRank cluster tieBreaker c) ∧
      (better = false → clientRank cluster tieBreaker c ≤ clientRank cluster tieBreaker d) by
    obtain ⟨better, hres, hbetter⟩ := hres
    exact ⟨better, by rw [ffsplitPartitionCmp, hres], hbetter⟩
  rw [ffsplitPartitionCmpRes]
  simp only [hconfig, hmembership, gt_iff_lt, UInt64.lt_iff_toNat_lt,
    ffsplitIsPreferredPartition_stored hs hc]
  -- Of two halves the score decides, then the active clients, then the tie-breakers.
  rw [if_neg (by omega), if_neg (by omega), if_neg (by omega)]
  obtain hlt | heq | hgt := Int.lt_trichotomy (partitionScore cluster c.partition)
    (partitionScore cluster d.partition)
  · rw [if_neg (by omega), if_pos (by omega)]
    exact ⟨false, rfl, (fun h => by cases h), fun _ => clientRank_le_of (.inl hlt)⟩
  · rw [if_neg (by omega), if_neg (by omega), hstats₁, hstats₂]
    dsimp only
    obtain hlt | hactive | hgt := Nat.lt_trichotomy (activeMembers cluster c.partition)
      (activeMembers cluster d.partition)
    · rw [if_neg (by omega), if_pos hlt]
      exact ⟨false, rfl, (fun h => by cases h), fun _ => clientRank_le_of (.inr ⟨heq, .inl hlt⟩)⟩
    · rw [if_neg (by omega), if_neg (by omega)]
      have hfind : ∀ e : QnetdClient, (nodeListFindNodeId
          cluster.algorithmData.quoratePartitionNodeList (storedCandidate e).client.nodeId).isSome =
          decide (e.nodeId ∈ NodeList.ids cluster.algorithmData.quoratePartitionNodeList) := by
        intro e
        rw [Bool.eq_iff_iff, nodeListFindNodeId_isSome, decide_eq_true_eq, NodeList.mem_ids]
        rfl
      obtain ⟨better, hbetter, htrue, hfalse⟩ := tieBreakers_le
        (keepsActivePartition cluster && decide (c.nodeId ∈
          NodeList.ids cluster.algorithmData.quoratePartitionNodeList))
        (keepsActivePartition cluster && decide (d.nodeId ∈
          NodeList.ids cluster.algorithmData.quoratePartitionNodeList))
        (decide (tieBreaker ∈ c.partition)) (decide (tieBreaker ∈ d.partition))
      refine ⟨better, ?_, fun hb => clientRank_le_of (.inr ⟨heq.symm, .inr ⟨hactive.symm, htrue hb⟩⟩),
        fun hb => clientRank_le_of (.inr ⟨heq, .inr ⟨hactive, hfalse hb⟩⟩)⟩
      rw [← hbetter]
      cases keepsActivePartition cluster with
      | false => rfl
      | true =>
        simp only [hfind, ← Option.not_isSome, Bool.true_and]
        split
        · rfl
        · split
          · rfl
          · rfl
    · rw [if_pos hgt]
      exact ⟨true, rfl, fun _ => clientRank_le_of (.inr ⟨heq.symm, .inl hgt⟩), (fun h => by cases h)⟩
  · rw [if_pos (by omega)]
    exact ⟨true, rfl, fun _ => clientRank_le_of (.inl hgt), (fun h => by cases h)⟩

/-! ### The loop -/

/-- A loop whose comparisons never go against a rank ends with the greatest rank. -/
theorem ffsplitBestCandidate_max {κ : Type} [Preorder κ] (rank : Option FfsplitCandidate → κ)
    (P : Option FfsplitCandidate → Prop) {quorate : NodeList} {keep : Bool}
    (cands : List FfsplitCandidate) (best : Option FfsplitCandidate) (hbest : P best)
    (hcmp : ∀ cand ∈ cands, ∀ b, P b →
      (ffsplitPartitionCmp cluster cand b quorate keep = .ok true ∧ P (some cand) ∧
        rank b ≤ rank (some cand)) ∨
      (ffsplitPartitionCmp cluster cand b quorate keep = .ok false ∧ rank (some cand) ≤ rank b)) :
    ∃ best', ffsplitBestCandidate cluster quorate keep best cands = .ok best' ∧ P best' ∧
      rank best ≤ rank best' ∧ ∀ cand ∈ cands, rank (some cand) ≤ rank best' := by
  induction cands generalizing best with
  | nil => exact ⟨best, rfl, hbest, le_refl _, fun _ hno => absurd hno List.not_mem_nil⟩
  | cons cand cands ih =>
    have hrest := fun c hc => hcmp c (List.mem_cons_of_mem cand hc)
    rw [ffsplitBestCandidate]
    obtain ⟨hok, hnext, hle⟩ | ⟨hok, hle⟩ := hcmp cand List.mem_cons_self best hbest
    · obtain ⟨best', hloop, hP, hmax, hall⟩ := ih _ hnext hrest
      refine ⟨best', by rw [hok]; exact hloop, hP, le_trans hle hmax, fun c hc => ?_⟩
      obtain rfl | hc := List.mem_cons.mp hc
      · exact hmax
      · exact hall c hc
    · obtain ⟨best', hloop, hP, hmax, hall⟩ := ih _ hbest hrest
      refine ⟨best', by rw [hok]; exact hloop, hP, hmax, fun c hc => ?_⟩
      obtain rfl | hc := List.mem_cons.mp hc
      · exact le_trans hle hmax
      · exact hall c hc

/-- The rank of what is out of the question, and of what needs no comparison. -/
private def lowestRank : Int ×ₗ Nat ×ₗ Bool ×ₗ Bool := toLex (0, toLex (0, toLex (false, false)))

private theorem toLex_le_of_lt {m n : Nat} (h : m < n) (x y : Int ×ₗ Nat ×ₗ Bool ×ₗ Bool) :
    toLex (m, x) ≤ toLex (n, y) :=
  Prod.Lex.toLex_le_toLex.mpr (.inl h)

/-- What the loop maximises: less than half of the nodes, half of them, or more. -/
def candRank (cluster : QnetdCluster) (config : Finset UInt32) (tieBreaker : UInt32) :
    Option FfsplitCandidate → Nat ×ₗ Int ×ₗ Nat ×ₗ Bool ×ₗ Bool
  | none => toLex (0, lowestRank)
  | some cand =>
    if 2 * cand.client.partition.card < config.card then toLex (0, lowestRank)
    else if config.card < 2 * cand.client.partition.card then toLex (2, lowestRank)
    else toLex (1, clientRank cluster tieBreaker cand.client)

/-- A best client so far: nobody, or a client with at least half of the nodes. -/
def Eligible (cluster : QnetdCluster) (config : Finset UInt32) (best : Option FfsplitCandidate) :
    Prop :=
  best = none ∨ ∃ d ∈ cluster.clientList, best = some (storedCandidate d) ∧
    config.card ≤ 2 * d.partition.card

/-- Two partitions that are not the same share out the configuration. -/
theorem card_add_card_le (hs : Settled cluster config tieBreaker) {c d : QnetdClient}
    (hc : c ∈ cluster.clientList) (hd : d ∈ cluster.clientList) (hne : c.partition ≠ d.partition) :
    c.partition.card + d.partition.card ≤ config.card := by
  have hdisjoint := (hs.partitions c hc d hd).resolve_left hne
  rw [← Finset.card_union_of_disjoint hdisjoint]
  exact Finset.card_le_card
    (Finset.union_subset (hs.memberships c hc).2.1 (hs.memberships d hd).2.1)

/-- The rank of an eligible best client. -/
theorem candRank_stored (d : QnetdClient) (hd : config.card ≤ 2 * d.partition.card) :
    candRank cluster config tieBreaker (some (storedCandidate d)) =
      if config.card < 2 * d.partition.card then toLex (2, lowestRank)
      else toLex (1, clientRank cluster tieBreaker d) :=
  if_neg (Nat.not_lt.mpr hd)

/-- Only a client with more than half of the nodes has the highest rank. -/
private theorem eligible_of_two_le {best : Option FfsplitCandidate}
    (hbest : Eligible cluster config best) {x : Int ×ₗ Nat ×ₗ Bool ×ₗ Bool}
    (h : toLex (2, x) ≤ candRank cluster config tieBreaker best) :
    ∃ d ∈ cluster.clientList, best = some (storedCandidate d) ∧
      config.card < 2 * d.partition.card := by
  obtain rfl | ⟨d, hd, rfl, hhalf⟩ := hbest
  · rw [candRank, Prod.Lex.toLex_le_toLex] at h
    omega
  · refine ⟨d, hd, rfl, ?_⟩
    by_contra hless
    rw [candRank_stored d hhalf, if_neg hless, Prod.Lex.toLex_le_toLex] at h
    omega

/-- Nobody has the lowest rank. -/
private theorem eligible_of_one_le {best : Option FfsplitCandidate}
    (hbest : Eligible cluster config best) {x : Int ×ₗ Nat ×ₗ Bool ×ₗ Bool}
    (h : toLex (1, x) ≤ candRank cluster config tieBreaker best) :
    ∃ d ∈ cluster.clientList, best = some (storedCandidate d) ∧
      config.card ≤ 2 * d.partition.card := by
  obtain rfl | hd := hbest
  · rw [candRank, Prod.Lex.toLex_le_toLex] at h
    omega
  · exact hd

/-- Every comparison of the loop goes by `candRank`. -/
theorem ffsplitPartitionCmp_rank (hs : Settled cluster config tieBreaker) {c : QnetdClient}
    (hc : c ∈ cluster.clientList) {best : Option FfsplitCandidate}
    (hbest : Eligible cluster config best) :
    (ffsplitPartitionCmp cluster (storedCandidate c) best
        cluster.algorithmData.quoratePartitionNodeList (keepsActivePartition cluster) = .ok true ∧
      Eligible cluster config (some (storedCandidate c)) ∧
      candRank cluster config tieBreaker best ≤
        candRank cluster config tieBreaker (some (storedCandidate c))) ∨
    (ffsplitPartitionCmp cluster (storedCandidate c) best
        cluster.algorithmData.quoratePartitionNodeList (keepsActivePartition cluster) = .ok false ∧
      candRank cluster config tieBreaker (some (storedCandidate c)) ≤
        candRank cluster config tieBreaker best) := by
  obtain hlt | hhalf | hgt := Nat.lt_trichotomy (2 * c.partition.card) config.card
  · -- Less than half loses.
    refine .inr ⟨?_, ?_⟩
    · rw [ffsplitPartitionCmp_uneven hs hc _ _ _ (by omega), decide_eq_false (by omega)]
    · have hrank : candRank cluster config tieBreaker (some (storedCandidate c)) =
          toLex (0, lowestRank) := if_pos hlt
      rw [hrank]
      obtain rfl | ⟨d, _, rfl, hd⟩ := hbest
      · exact le_refl _
      · rw [candRank_stored d hd]
        split
        · exact toLex_le_of_lt (by decide) _ _
        · exact toLex_le_of_lt (by decide) _ _
  · have hrank : candRank cluster config tieBreaker (some (storedCandidate c)) =
        toLex (1, clientRank cluster tieBreaker c) := by
      rw [candRank_stored c (by omega), if_neg (by omega)]
    have heligible : Eligible cluster config (some (storedCandidate c)) :=
      .inr ⟨c, hc, rfl, by omega⟩
    rw [hrank]
    obtain rfl | ⟨d, hd, rfl, hhalf'⟩ := hbest
    · refine .inl ⟨ffsplitPartitionCmp_first_half hs hc _ _ hhalf, heligible, ?_⟩
      exact toLex_le_of_lt (by decide) _ _
    · have hd' : ¬ config.card < 2 * d.partition.card := by
        intro hmore
        have hne : c.partition ≠ d.partition := fun heq => by
          rw [heq] at hhalf
          omega
        have hsum := card_add_card_le hs hc hd hne
        omega
      rw [candRank_stored d hhalf', if_neg hd']
      obtain ⟨better, hcmp, htrue, hfalse⟩ := ffsplitPartitionCmp_halves hs hc hd hhalf
      cases better with
      | true => exact .inl ⟨hcmp, heligible, Prod.Lex.toLex_le_toLex.mpr (.inr ⟨rfl, htrue rfl⟩)⟩
      | false => exact .inr ⟨hcmp, Prod.Lex.toLex_le_toLex.mpr (.inr ⟨rfl, hfalse rfl⟩)⟩
  · -- More than half wins.
    refine .inl ⟨?_, .inr ⟨c, hc, rfl, by omega⟩, ?_⟩
    · rw [ffsplitPartitionCmp_uneven hs hc _ _ _ (by omega), decide_eq_true hgt]
    · rw [candRank_stored c (by omega), if_pos hgt]
      obtain rfl | ⟨d, _, rfl, hd⟩ := hbest
      · exact toLex_le_of_lt (by decide) _ _
      · rw [candRank_stored d hd]
        split
        · exact le_refl _
        · exact toLex_le_of_lt (by decide) _ _

/-! ### From clients to partitions -/

/-- A client's own rank is at most that of its partition. -/
theorem clientRank_le_partitionRank (hs : Settled cluster config tieBreaker) {c : QnetdClient}
    (hc : c ∈ cluster.clientList) :
    clientRank cluster tieBreaker c ≤ partitionRank cluster tieBreaker c.partition := by
  have hown : (keepsActivePartition cluster && decide (c.nodeId ∈
      NodeList.ids cluster.algorithmData.quoratePartitionNodeList)) ≤
      wasQuorate cluster c.partition := by
    rw [wasQuorate, Bool.le_iff_imp]
    simp only [Bool.and_eq_true, decide_eq_true_eq]
    rintro ⟨hkeep, hquorate⟩
    refine ⟨hkeep, c.nodeId, Finset.mem_inter.mpr ⟨(hs.memberships c hc).2.2, ?_⟩, hquorate⟩
    simp only [connectedIds, List.mem_toFinset, List.mem_map]
    exact ⟨c, hc, rfl⟩
  rw [clientRank, partitionRank, Prod.Lex.toLex_le_toLex, Prod.Lex.toLex_le_toLex,
    Prod.Lex.toLex_le_toLex]
  refine .inr ⟨rfl, .inr ⟨rfl, ?_⟩⟩
  obtain hlt | heq := lt_or_eq_of_le hown
  · exact .inl hlt
  · exact .inr ⟨heq, le_refl _⟩

/-- The rank of a partition is that of one of its clients. -/
theorem exists_clientRank_eq (hs : Settled cluster config tieBreaker) {c : QnetdClient}
    (hc : c ∈ cluster.clientList) :
    ∃ x ∈ cluster.clientList, x.partition = c.partition ∧
      clientRank cluster tieBreaker x = partitionRank cluster tieBreaker c.partition := by
  cases hquorate : wasQuorate cluster c.partition with
  | false =>
    refine ⟨c, hc, rfl, le_antisymm (clientRank_le_partitionRank hs hc) ?_⟩
    rw [clientRank, partitionRank, hquorate, Prod.Lex.toLex_le_toLex, Prod.Lex.toLex_le_toLex,
      Prod.Lex.toLex_le_toLex]
    refine .inr ⟨rfl, .inr ⟨rfl, ?_⟩⟩
    obtain hlt | heq := lt_or_eq_of_le (Bool.false_le _)
    · exact .inl hlt
    · exact .inr ⟨heq, le_refl _⟩
  | true =>
    -- The member that was in the last quorate partition is a client of this partition.
    have hmember := hquorate
    rw [wasQuorate, Bool.and_eq_true, decide_eq_true_eq] at hmember
    obtain ⟨hkeep, id, hid, hlast⟩ := hmember
    obtain ⟨hpartition, hconnected⟩ := Finset.mem_inter.mp hid
    simp only [connectedIds, List.mem_toFinset, List.mem_map] at hconnected
    obtain ⟨x, hx, rfl⟩ := hconnected
    have hsame : x.partition = c.partition := by
      refine (hs.partitions x hx c hc).resolve_right fun hdisjoint => ?_
      exact Finset.disjoint_left.mp hdisjoint (hs.memberships x hx).2.2 hpartition
    refine ⟨x, hx, hsame, ?_⟩
    rw [clientRank, partitionRank, hsame, hquorate, hkeep, decide_eq_true hlast]
    rfl

/-- Halves that are not the same have different ranks: the tie-breaker is in one of them. -/
theorem partitionRank_ne (hs : Settled cluster config tieBreaker) {c d : QnetdClient}
    (hc : c ∈ cluster.clientList) (hd : d ∈ cluster.clientList)
    (hhalf : 2 * c.partition.card = config.card) (hhalf' : 2 * d.partition.card = config.card)
    (hne : c.partition ≠ d.partition) :
    partitionRank cluster tieBreaker c.partition ≠ partitionRank cluster tieBreaker d.partition := by
  have hdisjoint := (hs.partitions c hc d hd).resolve_left hne
  have hunion : c.partition ∪ d.partition = config := by
    refine Finset.eq_of_subset_of_card_le
      (Finset.union_subset (hs.memberships c hc).2.1 (hs.memberships d hd).2.1) ?_
    rw [Finset.card_union_of_disjoint hdisjoint]
    omega
  have hconfigured := hs.configured
  rw [← hunion, Finset.mem_union] at hconfigured
  intro heq
  simp only [partitionRank, toLex_inj, Prod.mk.injEq, decide_eq_decide] at heq
  obtain hin | hin := hconfigured
  · exact Finset.disjoint_left.mp hdisjoint hin (heq.2.2.2.mp hin)
  · exact Finset.disjoint_left.mp hdisjoint (heq.2.2.2.mpr hin) hin

end

/-- Node `n` of a cluster of four. -/
private def fourNode (n : UInt32) : TlvNodeInfo := ⟨n, 0, .notSet⟩

/-- The client of node `n`, which only sees the nodes of `membership`. -/
private def fourClient (n : UInt32) (membership : List UInt32) : QnetdClient :=
  { id := n.toNat, nodeId := n, tieBreaker := ⟨.nodeId, 4⟩
    configurationNodeList := [1, 2, 3, 4].map fourNode
    lastMembershipNodeList := membership.map fourNode
    keepActivePartitionTieBreaker := .enabled }

/-- Two halves, of which the first has a node of the last quorate partition. -/
private def fourCluster : QnetdCluster :=
  { id := 0, clusterName := []
    clientList := [fourClient 1 [1, 2], fourClient 3 [3, 4], fourClient 2 [2, 1],
      fourClient 4 [4, 3]]
    algorithmData := { quoratePartitionNodeList := [fourNode 2] } }

private theorem fourCluster_settled : Settled fourCluster {1, 2, 3, 4} 4 where
  ids := by decide
  nodeIds := by decide
  nonempty := ⟨1, by decide⟩
  configs := by decide
  memberships := by decide
  partitions := by decide
  tieBreakers := by decide
  configured := by decide

end Qnetd

end Qdevice
