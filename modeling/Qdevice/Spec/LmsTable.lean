import Qdevice.Spec.LmsNewcomer

/-! # The partition table of LMS

`do_lms_algorithm` builds the partitions in a list that stays in the client, and frees it before
it returns.  It does not when `qnetd_algo_create_partitions` fails: the partitions it has made up
to then are found again by the next run, which counts their nodes once more and does not count
them as partitions. -/

namespace Qdevice.Qnetd

/-! ### A correct table -/

/-- One partition for each ring id that is set, with its nodes and their score. -/
structure PartitionTable (clients : List QnetdClient) (partitions : List AlgoPartition) :
    Prop where
  nodup : (partitions.map (·.ringId)).Nodup
  rings : ∀ ring, ring ∈ partitions.map (·.ringId) ↔
    ring.seq ≠ 0 ∧ ∃ c ∈ clients, c.lastRingId = ring
  numNodes : ∀ p ∈ partitions, p.numNodes = clients.countP fun c => c.lastRingId = p.ringId
  score : ∀ p ∈ partitions, p.score = p.numNodes +
    (clients.countP fun c => c.lastRingId = p.ringId ∧ c.lastHeuristics = .pass) -
    (clients.countP fun c => c.lastRingId = p.ringId ∧ c.lastHeuristics = .fail)

theorem ringSize_eq_countP (clients : List QnetdClient) (ring : TlvRingId) :
    ringSize clients ring = clients.countP fun c => c.lastRingId = ring := by
  rw [ringSize, ringClients, List.countP_eq_length_filter]

/-- The score is the number of nodes, one more for each PASS and one less for each FAIL. -/
theorem ringScore_eq_countP (clients : List QnetdClient) (ring : TlvRingId) :
    ringScore clients ring = ringSize clients ring +
      (clients.countP fun c => c.lastRingId = ring ∧ c.lastHeuristics = .pass) -
      (clients.countP fun c => c.lastRingId = ring ∧ c.lastHeuristics = .fail) := by
  rw [ringSize_eq_countP]
  induction clients with
  | nil => rfl
  | cons c clients ih =>
    rw [ringScore, ringClients] at ih ⊢
    rw [List.filter_cons, List.countP_cons, List.countP_cons, List.countP_cons]
    by_cases hring : c.lastRingId = ring
    · simp only [hring, decide_true, if_true, List.map_cons, List.sum_cons, ih, true_and]
      cases c.lastHeuristics <;> simp [algoClientScore] <;> omega
    · simp only [hring, decide_false, Bool.false_eq_true, if_false, ih, false_and, Nat.add_zero]

theorem PartitionsOf.table {clients : List QnetdClient} {partitions : List AlgoPartition}
    (h : PartitionsOf clients partitions) : PartitionTable clients partitions where
  nodup := h.nodup
  rings := h.rings
  numNodes p hp := by rw [h.numNodes p hp, ringSize_eq_countP]
  score p hp := by rw [h.score p hp, ringScore_eq_countP, h.numNodes p hp]

/-! ### Every run -/

/-- A run of the algorithm for any client of the cluster starts with an empty list, and has a
    correct table and its size as soon as the partitions have been created.  What the message
    handlers write before the run is not read here. -/
def StartsEmpty (cluster : QnetdCluster) : Prop :=
  ∀ c ∈ cluster.clientList, c.lmsInfo.partitionList = [] ∧
    ∀ env partitions numPartitions,
      algoCreatePartitions env cluster c.lmsInfo.partitionList =
        (partitions, some numPartitions) →
      PartitionTable cluster.clientList partitions ∧ numPartitions = partitions.length

/-- **The partition table**: in every run in which no memory is missing for a second partition,
    `do_lms_algorithm` starts with an empty list and builds a correct table. -/
theorem lms_partition_table (settings : Settings) (id : ClusterId) (name : List UInt8)
    {cluster : QnetdCluster}
    (h : (clusterMachine settings id name).Reach
      (fun cluster e => UsesAlgorithm .lms e.2 ∧ AllocsLater e.1 cluster) cluster) :
    StartsEmpty cluster := by
  intro c hc
  have hempty := partitionsFreed_of_reach h c hc
  refine ⟨hempty, fun env partitions numPartitions hcreate => ?_⟩
  rw [hempty] at hcreate
  -- Without old partitions the count is that of the new ones.
  rcases algoCreatePartitions_cases env cluster with
    ⟨left, -, -, hleft⟩ | ⟨-, partitions', hpartitions, hparts⟩
  · rw [hleft] at hcreate
    cases hcreate
  · rw [hparts] at hcreate
    cases hcreate
    exact ⟨hpartitions.table, rfl⟩

/-- Two nodes of an LMS cluster, on rings of their own. -/
def lmsTwoRings : List (Env × ClusterEvent) :=
  [(.ok, .init ⟨1, [97], false, false, none, none⟩ (initMsg .lms ⟨.lowest, 0⟩ 1 ⟨1, 4⟩)),
    (.ok, .init ⟨2, [97], false, false, none, none⟩ (initMsg .lms ⟨.lowest, 0⟩ 2 ⟨2, 4⟩))]

/-- Node 1 asks for its vote, and there is no memory for any partition. -/
theorem lms_partition_table_first : ∃ cluster,
    (clusterMachine .plain 0 [97]).Reach
      (fun cluster e => UsesAlgorithm .lms e.2 ∧ AllocsLater e.1 cluster) cluster ∧
    cluster.clientList.length = 2 ∧ StartsEmpty cluster := by
  have hrun : ∃ cluster ∈ (clusterMachine .plain 0 [97]).execWhile
      (fun cluster e => decide (UsesAlgorithm .lms e.2 ∧ AllocsLater e.1 cluster))
      (clusterMachine .plain 0 [97]).init
      (lmsTwoRings ++ [({ Env.ok with partitionAlloc := fun n => n != 0 },
        .message 1 askForVoteMsg)]), cluster.clientList.length = 2 := by
    decide +kernel
  obtain ⟨cluster, hcluster, hlength⟩ := hrun
  have hreach : (clusterMachine .plain 0 [97]).Reach
      (fun cluster e => UsesAlgorithm .lms e.2 ∧ AllocsLater e.1 cluster) cluster :=
    Runs.Machine.Reach.execWhile (fun _ _ => of_decide_eq_true) .init hcluster
  exact ⟨cluster, hreach, hlength, lms_partition_table .plain 0 [97] hreach⟩

/-- Node 1 asks for its vote, and there is memory for one partition only.  It stays in the list,
    and the next run finds one partition where there are two. -/
theorem lms_partition_table_left : ∃ cluster,
    (clusterMachine .plain 0 [97]).Reach (fun _ e => UsesAlgorithm .lms e.2) cluster ∧
    (∃ c ∈ cluster.clientList, c.lmsInfo.partitionList ≠ [] ∧
      (algoCreatePartitions .ok cluster c.lmsInfo.partitionList).1.length = 2 ∧
      (algoCreatePartitions .ok cluster c.lmsInfo.partitionList).2 = some 1) ∧
    ¬ StartsEmpty cluster := by
  have hrun : ∃ cluster ∈ (clusterMachine .plain 0 [97]).execWhile
      (fun _ e => decide (UsesAlgorithm .lms e.2)) (clusterMachine .plain 0 [97]).init
      (lmsTwoRings ++ [({ Env.ok with partitionAlloc := fun n => n == 0 },
        .message 1 askForVoteMsg)]),
      ∃ c ∈ cluster.clientList, c.lmsInfo.partitionList ≠ [] ∧
        (algoCreatePartitions .ok cluster c.lmsInfo.partitionList).1.length = 2 ∧
        (algoCreatePartitions .ok cluster c.lmsInfo.partitionList).2 = some 1 := by
    decide +kernel
  obtain ⟨cluster, hcluster, c, hc, hleft, hcount⟩ := hrun
  have hreach : (clusterMachine .plain 0 [97]).Reach (fun _ e => UsesAlgorithm .lms e.2) cluster :=
    Runs.Machine.Reach.execWhile (fun _ _ => of_decide_eq_true) .init hcluster
  exact ⟨cluster, hreach, ⟨c, hc, hleft, hcount⟩, fun hall => hleft (hall c hc).1⟩

end Qdevice.Qnetd
