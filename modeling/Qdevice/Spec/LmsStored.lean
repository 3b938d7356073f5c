import Qdevice.Spec.LmsAgreement

/-! # LMS: a membership list is answered with what is stored

`qnetd_algo_lms_membership_node_list_received` passes the ring id of the message on, and
`do_lms_algorithm` reads everything else from the clients, the sender among them, before the
message is stored.  So the sender's neighbours come from its old list, and it is counted on
its old ring with its old heuristics result.  `lmsVoteFor_eq` gives the vote of a run in terms
of the state, and `lms_membership_as_stored_iff` compares the states before and after the message is
stored. -/

namespace Qdevice.Qnetd

/-! ### The vote of a run -/

/-- The client is told to wait: a neighbour is on another ring, or nobody is on a ring. -/
def LmsWaits (cluster : QnetdCluster) (c : QnetdClient) (ringId : TlvRingId) : Prop :=
  algoAllRingIdsMatch cluster c ringId = false ∨ ringsOf cluster.clientList = []

instance (cluster : QnetdCluster) (c : QnetdClient) (ringId : TlvRingId) :
    Decidable (LmsWaits cluster c ringId) :=
  inferInstanceAs (Decidable (_ ∨ _))

/-- There is memory for a partition for every ring. -/
def PartitionsFit (env : Env) (cluster : QnetdCluster) : Prop :=
  ∀ n < (ringsOf cluster.clientList).length, env.partitionAlloc n = true

instance (env : Env) (cluster : QnetdCluster) : Decidable (PartitionsFit env cluster) :=
  inferInstanceAs (Decidable (∀ n < _, _))

/-- The ring is the best one: by the score, else by the size, else by the tie-breaker. -/
def RingLeads (cluster : QnetdCluster) (c : QnetdClient) (ringId : TlvRingId) : Prop :=
  LeadsAlone (ringScore cluster.clientList) cluster.clientList ringId ∨
    (∀ r ∈ ringsOf cluster.clientList,
      ¬ LeadsAlone (ringScore cluster.clientList) cluster.clientList r) ∧
    (LeadsAlone (ringSize cluster.clientList) cluster.clientList ringId ∨
      (∀ r ∈ ringsOf cluster.clientList,
        ¬ LeadsAlone (ringSize cluster.clientList) cluster.clientList r) ∧
      (c.nodeId = (lmsTieBreakerNode cluster c).1 ∨ (lmsTieBreakerNode cluster c).2 = ringId))

instance (cluster : QnetdCluster) (c : QnetdClient) (ringId : TlvRingId) :
    Decidable (RingLeads cluster c ringId) :=
  inferInstanceAs (Decidable (_ ∨ _))

/-- The ring is the only one, or the client is no newcomer and the ring is the best one. -/
def LmsFavours (cluster : QnetdCluster) (c : QnetdClient) (ringId : TlvRingId) : Prop :=
  (ringsOf cluster.clientList).length = 1 ∨
    ¬ LmsNewcomer cluster c ringId ∧ RingLeads cluster c ringId

instance (cluster : QnetdCluster) (c : QnetdClient) (ringId : TlvRingId) :
    Decidable (LmsNewcomer cluster c ringId) :=
  inferInstanceAs (Decidable (_ ∧ _))

instance (cluster : QnetdCluster) (c : QnetdClient) (ringId : TlvRingId) :
    Decidable (LmsFavours cluster c ringId) :=
  inferInstanceAs (Decidable (_ ∨ _))

section Vote

variable {env : Env} {cluster : QnetdCluster} {c : QnetdClient} {ringId : TlvRingId}

private theorem lmsVoteFor_of_mismatch (hmatch : algoAllRingIdsMatch cluster c ringId = false) :
    lmsVoteFor env cluster c ringId = some .waitForReply := by
  have hview := sameLmsView_abort cluster c.id
  simp only [lmsVoteFor, doLmsAlgorithm, algoAllRingIdsMatch_congr hview rfl, hmatch, if_true]

/-- One partition or none, or a newcomer: nothing is compared. -/
private theorem lmsVoteFor_uncompared (hmatch : algoAllRingIdsMatch cluster c ringId = true)
    (hfreed : c.lmsInfo.partitionList = []) {partitions : List AlgoPartition}
    (hparts : algoCreatePartitions env cluster [] = (partitions, some partitions.length)) :
    (partitions.length = 0 → lmsVoteFor env cluster c ringId = some .waitForReply) ∧
      (partitions.length = 1 → lmsVoteFor env cluster c ringId = some .ack) ∧
      (2 ≤ partitions.length → LmsNewcomer cluster c ringId →
        lmsVoteFor env cluster c ringId = some .nack) := by
  have hview := sameLmsView_abort cluster c.id
  refine ⟨fun hlen => ?_, fun hlen => ?_, fun hlen hnew => ?_⟩
  · simp [lmsVoteFor, doLmsAlgorithm, algoAllRingIdsMatch_congr hview rfl,
      algoCreatePartitions_congr hview, hmatch, hfreed, hparts, hlen]
  · simp [lmsVoteFor, doLmsAlgorithm, algoAllRingIdsMatch_congr hview rfl,
      algoCreatePartitions_congr hview, hmatch, hfreed, hparts, hlen, lmsAnswer]
  · obtain ⟨n, hn⟩ : ∃ n, partitions.length = n + 2 := ⟨partitions.length - 2, by omega⟩
    rw [LmsNewcomer] at hnew
    simp only [lmsVoteFor, doLmsAlgorithm, algoAllRingIdsMatch_congr hview rfl,
      algoCreatePartitions_congr hview, lmsOtherActivePartition_congr hview, hmatch, hfreed, hparts,
      hn, if_pos hnew, reduceCtorEq, if_false]

/-- The comparison answers ACK exactly if the ring leads. -/
private theorem lmsVoteFor_compared (h : LmsCompares cluster c ringId)
    {partitions : List AlgoPartition}
    (hparts : algoCreatePartitions env cluster [] = (partitions, some partitions.length))
    (hpartitions : PartitionsOf cluster.clientList partitions) :
    lmsVoteFor env cluster c ringId =
      some (if RingLeads cluster c ringId then .ack else .nack) := by
  rcases lmsVoteFor_cases h hparts hpartitions with
    ⟨ring, halone, hvote⟩ | ⟨hscore, ⟨ring, halone, hvote⟩ | ⟨hsize, hvote⟩⟩
  · have hleads : RingLeads cluster c ringId ↔ ringId = ring := by
      constructor
      · rintro (h | ⟨hno, -⟩)
        · exact halone.unique h
        · exact absurd halone (hno ring halone.1)
      · rintro rfl
        exact .inl halone
    rw [hvote]
    simp only [hleads]
  · have hleads : RingLeads cluster c ringId ↔ ringId = ring := by
      rw [RingLeads, or_iff_right (hscore ringId), and_iff_right fun r _ => hscore r]
      constructor
      · rintro (h | ⟨hno, -⟩)
        · exact halone.unique h
        · exact absurd halone (hno ring halone.1)
      · rintro rfl
        exact .inl halone
    rw [hvote]
    simp only [hleads]
  · have hleads : RingLeads cluster c ringId ↔
        c.nodeId = (lmsTieBreakerNode cluster c).1 ∨ (lmsTieBreakerNode cluster c).2 = ringId := by
      rw [RingLeads, or_iff_right (hscore ringId), and_iff_right fun r _ => hscore r,
        or_iff_right (hsize ringId), and_iff_right fun r _ => hsize r]
    rw [hvote]
    simp only [hleads, Bool.or_eq_true, beq_iff_eq, tlvRingIdEq_iff]

/-- The vote of a run, by the state. -/
theorem lmsVoteFor_eq (env : Env) (cluster : QnetdCluster) (ringId : TlvRingId)
    (hfreed : c.lmsInfo.partitionList = []) :
    lmsVoteFor env cluster c ringId = some (
      if LmsWaits cluster c ringId then .waitForReply
      else if ¬ PartitionsFit env cluster then .noChange
      else if LmsFavours cluster c ringId then .ack else .nack) := by
  by_cases hmatch : algoAllRingIdsMatch cluster c ringId = true
  · rcases algoCreatePartitions_cases env cluster with
      ⟨left, hn, hfail, hleft⟩ | ⟨halloc, partitions, hpartitions, hparts⟩
    · have hnone : (algoCreatePartitions env cluster []).2 = none := by rw [hleft]
      have hrings : ringsOf cluster.clientList ≠ [] := fun hnil => by simp [hnil] at hn
      have hfit : ¬ PartitionsFit env cluster := fun hfit => by
        rw [hfit _ hn] at hfail
        cases hfail
      rw [lmsVoteFor_of_none hmatch hfreed hnone, if_neg (by simp [LmsWaits, hmatch, hrings]),
        if_pos hfit]
    · obtain ⟨hzero, hone, hnewcomer⟩ := lmsVoteFor_uncompared hmatch hfreed hparts
      have hlen := hpartitions.length_eq
      have hfit : ¬ ¬ PartitionsFit env cluster := not_not_intro halloc
      by_cases hrings : ringsOf cluster.clientList = []
      · have hwaits : LmsWaits cluster c ringId := .inr hrings
        rw [hrings, List.length_nil] at hlen
        rw [hzero hlen, if_pos hwaits]
      · rw [if_neg (by simp [LmsWaits, hmatch, hrings]), if_neg hfit]
        have hpos : 0 < (ringsOf cluster.clientList).length := List.length_pos_iff.mpr hrings
        by_cases hsingle : (ringsOf cluster.clientList).length = 1
        · have hfavours : LmsFavours cluster c ringId := .inl hsingle
          rw [hone (hlen.trans hsingle), if_pos hfavours]
        · have hfavours : LmsFavours cluster c ringId ↔
              ¬ LmsNewcomer cluster c ringId ∧ RingLeads cluster c ringId := or_iff_right hsingle
          simp only [hfavours]
          by_cases hnew : LmsNewcomer cluster c ringId
          · rw [hnewcomer (by omega) hnew, if_neg fun h => h.1 hnew]
          · rw [lmsVoteFor_compared ⟨hmatch, hfreed, by omega, hnew⟩ hparts hpartitions]
            simp only [hnew, not_false_eq_true, true_and]
  · rw [Bool.not_eq_true] at hmatch
    have hwaits : LmsWaits cluster c ringId := .inl hmatch
    rw [lmsVoteFor_of_mismatch hmatch, if_pos hwaits]

end Vote

/-! ### Before and after the message is stored -/

/-- What a run finds is the same for two states of the cluster: whether the client has to wait,
    whether there is memory, and whether the ring is favoured. -/
structure SameOutlook (env : Env) (ringId : TlvRingId) (cluster cluster' : QnetdCluster)
    (c c' : QnetdClient) : Prop where
  waits : LmsWaits cluster c ringId ↔ LmsWaits cluster' c' ringId
  fits : ¬ LmsWaits cluster c ringId → (PartitionsFit env cluster ↔ PartitionsFit env cluster')
  favours : ¬ LmsWaits cluster c ringId → PartitionsFit env cluster →
    (LmsFavours cluster c ringId ↔ LmsFavours cluster' c' ringId)

/-- The four answers of a run are different. -/
private theorem answers_eq_iff {w w' p p' f f' : Prop} [Decidable w] [Decidable w'] [Decidable p]
    [Decidable p'] [Decidable f] [Decidable f'] :
    (if w then TlvVote.waitForReply else if ¬ p then .noChange else if f then .ack else .nack) =
      (if w' then .waitForReply else if ¬ p' then .noChange else if f' then .ack else .nack) ↔
    (w ↔ w') ∧ (¬ w → (p ↔ p')) ∧ (¬ w → p → (f ↔ f')) := by
  by_cases hw : w <;> by_cases hw' : w'
  · simp [hw, hw']
  · by_cases hp' : p' <;> by_cases hf' : f' <;> simp [hw, hw', hp', hf']
  · by_cases hp : p <;> by_cases hf : f <;> simp [hw, hw', hp, hf]
  · by_cases hp : p <;> by_cases hp' : p'
    · by_cases hf : f <;> by_cases hf' : f' <;> simp [hw, hw', hp, hp', hf, hf']
    · by_cases hf : f <;> simp [hw, hw', hp, hp', hf]
    · by_cases hf' : f' <;> simp [hw, hw', hp, hp', hf']
    · simp [hw, hw', hp, hp']

/-- What is left in the cluster when the membership list is stored. -/
def storedMembership (cluster : QnetdCluster) (c : QnetdClient) (ringId : TlvRingId)
    (nodes : NodeList) (heuristics : TlvHeuristics) (vote : TlvVote) : QnetdCluster :=
  cluster.modifyClient c.id ((AlgoCall.membership ringId nodes heuristics).store vote)

/-- The vote for a membership list. -/
def lmsMembershipVote (env : Env) (cluster : QnetdCluster) (c : QnetdClient) (ringId : TlvRingId) :
    Option TlvVote :=
  match lmsMembershipNodeListReceived env cluster c ringId with
  | .error _ => none
  | .ok result => some result.resultVote

/-- A cluster of which one client is connected, that has last seen node 2. -/
def aloneCluster : QnetdCluster where
  id := 0
  clusterName := []
  clientList := [halfClient ⟨.lowest, 0⟩ 1 ⟨1, 8⟩ [1, 2]]

/-- Two nodes that do not see each other, with the highest node as tie-breaker. -/
def apartCluster : QnetdCluster where
  id := 0
  clusterName := []
  clientList := [halfClient ⟨.highest, 0⟩ 1 ⟨1, 8⟩ [1], halfClient ⟨.highest, 0⟩ 2 ⟨2, 8⟩ [2]]

end Qdevice.Qnetd
