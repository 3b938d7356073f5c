import Qdevice.Spec.ClusterRun
import Qdevice.Spec.LmsCases
import Qdevice.Spec.LmsPartitions

/-! # LMS: one ring gets the vote

When the cluster is split and nobody is a newcomer, every client asks for itself whether its own
ring has the best score, else whether it is the largest, else whether it has the
tie-breaker node.  Score and size are the same for every client, so a ring that leads alone gets
the vote as a whole.  The tie-breaker is where the clients can disagree: the search for the lowest
node id starts at `INT_MAX`, and the search for the nominated node compares the client's own node
id instead of the other client's.  `lms_agreement_iff` says exactly when that does no harm. -/

namespace Qdevice.Qnetd

/-- The vote a client gets when the algorithm is run for its own stored ring id. -/
def lmsVote (env : Env) (cluster : QnetdCluster) (client : QnetdClient) : Option TlvVote :=
  match doLmsAlgorithm env cluster client client.lastRingId with
  | .error _ => none
  | .ok result => some result.resultVote

/-- The vote a client gets when the algorithm is run for any ring id. -/
def lmsVoteFor (env : Env) (cluster : QnetdCluster) (client : QnetdClient) (ringId : TlvRingId) :
    Option TlvVote :=
  match doLmsAlgorithm env cluster client ringId with
  | .error _ => none
  | .ok result => some result.resultVote

theorem lmsVote_eq (env : Env) (cluster : QnetdCluster) (client : QnetdClient) :
    lmsVote env cluster client = lmsVoteFor env cluster client client.lastRingId := rfl

/-- The clients of one ring get ACK, all others NACK. -/
def LmsAgreement (env : Env) (cluster : QnetdCluster) : Prop :=
  ∃ ring, (∃ c ∈ cluster.clientList, c.lastRingId = ring) ∧
    ∀ c ∈ cluster.clientList,
      lmsVote env cluster c = some (if c.lastRingId = ring then .ack else .nack)

/-- A split LMS cluster in which every client takes part in the comparison.  Partitions are freed
    after every comparison, so the lists the clients keep are empty. -/
structure LmsSplit (tieBreaker : TlvTieBreaker) (cluster : QnetdCluster) : Prop where
  nodeIds : (cluster.clientList.map (·.nodeId)).Nodup
  nodeId_ne_zero : ∀ c ∈ cluster.clientList, c.nodeId ≠ 0
  seq_ne_zero : ∀ c ∈ cluster.clientList, c.lastRingId.seq ≠ 0
  split : ∃ c ∈ cluster.clientList, ∃ d ∈ cluster.clientList, c.lastRingId ≠ d.lastRingId
  sameTieBreaker : ∀ c ∈ cluster.clientList, tlvTieBreakerEq c.tieBreaker tieBreaker = true
  mode : tieBreaker.mode ≠ .unset
  tieBreakerNode : tieBreaker.mode = .nodeId →
    ∃ c ∈ cluster.clientList, c.nodeId = tieBreaker.nodeId
  noNewcomer : ∀ c ∈ cluster.clientList, c.lmsInfo.lastResult ≠ .undefined
  partitionsFreed : ∀ c ∈ cluster.clientList, c.lmsInfo.partitionList = []
  proceed : ∀ c ∈ cluster.clientList, algoAllRingIdsMatch cluster c c.lastRingId = true

/-- The node is connected and has its ring for itself. -/
def AloneOnRing (clients : List QnetdClient) (nodeId : UInt32) : Prop :=
  ∃ c ∈ clients, c.nodeId = nodeId ∧ ∀ d ∈ clients, d.lastRingId = c.lastRingId → d = c

/-- The tie-breaker gives the vote to a whole ring. -/
def TieBroken (tieBreaker : TlvTieBreaker) (clients : List QnetdClient) : Prop :=
  match tieBreaker.mode with
  | .lowest => (∃ c ∈ clients, c.nodeId < intMax) ∨ AloneOnRing clients intMax
  | .highest => True
  | .nodeId => AloneOnRing clients tieBreaker.nodeId
  | .unset => False

/-! ### The tie-breaker node -/

/-- A search for an extreme node id keeps its start, or ends at a client that beats the start and
    is beaten by nobody. -/
theorem foldl_extreme {r : UInt32 → UInt32 → Prop} [DecidableRel r]
    (hirrefl : ∀ a, ¬ r a a) (htrans : ∀ {a b c}, r a b → r b c → r a c)
    (clients : List QnetdClient) (start : UInt32 × TlvRingId) :
    (clients.foldl (fun (acc : UInt32 × TlvRingId) other =>
        if r other.nodeId acc.1 then (other.nodeId, other.lastRingId) else acc) start = start ∧
        ∀ c ∈ clients, ¬ r c.nodeId start.1) ∨
      ∃ d ∈ clients, r d.nodeId start.1 ∧ (∀ c ∈ clients, ¬ r c.nodeId d.nodeId) ∧
        clients.foldl (fun (acc : UInt32 × TlvRingId) other =>
          if r other.nodeId acc.1 then (other.nodeId, other.lastRingId) else acc) start =
            (d.nodeId, d.lastRingId) := by
  induction clients generalizing start with
  | nil => exact .inl ⟨rfl, fun c hc => by cases hc⟩
  | cons c rest ih =>
    rw [List.foldl_cons]
    by_cases hc : r c.nodeId start.1
    · rw [if_pos hc]
      rcases ih (c.nodeId, c.lastRingId) with ⟨heq, hnone⟩ | ⟨d, hd, hlt, hbest, heq⟩
      · exact .inr ⟨c, List.mem_cons_self, hc, List.forall_mem_cons.mpr ⟨hirrefl _, hnone⟩, heq⟩
      · have hcd : ¬ r c.nodeId d.nodeId := fun hcd => hirrefl _ (htrans hcd hlt)
        exact .inr ⟨d, List.mem_cons_of_mem _ hd, htrans hlt hc,
          List.forall_mem_cons.mpr ⟨hcd, hbest⟩, heq⟩
    · rw [if_neg hc]
      rcases ih start with ⟨heq, hnone⟩ | ⟨d, hd, hlt, hbest, heq⟩
      · exact .inl ⟨heq, List.forall_mem_cons.mpr ⟨hc, hnone⟩⟩
      · have hcd : ¬ r c.nodeId d.nodeId := fun hcd => hc (htrans hcd hlt)
        exact .inr ⟨d, List.mem_cons_of_mem _ hd, hlt, List.forall_mem_cons.mpr ⟨hcd, hbest⟩, heq⟩

/-- In mode `nodeId` the node id stays the nominated one, and only the client with this node id
    finds a ring. -/
private theorem foldl_nominated (own : Prop) [Decidable own] (clients : List QnetdClient)
    (start : UInt32 × TlvRingId) :
    (clients.foldl (fun (acc : UInt32 × TlvRingId) other =>
        if own then (acc.1, other.lastRingId) else acc) start).1 = start.1 ∧
      (¬ own → clients.foldl (fun (acc : UInt32 × TlvRingId) other =>
        if own then (acc.1, other.lastRingId) else acc) start = start) := by
  induction clients generalizing start with
  | nil => exact ⟨rfl, fun _ => rfl⟩
  | cons c rest ih =>
    rw [List.foldl_cons]
    by_cases hown : own
    · rw [if_pos hown]
      exact ⟨(ih _).1, fun hnot => absurd hown hnot⟩
    · rw [if_neg hown]
      exact ih start

section TieBreaker

variable {tieBreaker : TlvTieBreaker} {cluster : QnetdCluster} (h : LmsSplit tieBreaker cluster)

include h

theorem LmsSplit.eq_of_nodeId {c d : QnetdClient} (hc : c ∈ cluster.clientList)
    (hd : d ∈ cluster.clientList) (hnode : c.nodeId = d.nodeId) : c = d :=
  List.inj_on_of_nodup_map h.nodeIds hc hd hnode

private theorem LmsSplit.sameRing_vote {c d : QnetdClient} (hc : c ∈ cluster.clientList)
    (hd : d ∈ cluster.clientList) :
    (c.nodeId == d.nodeId || tlvRingIdEq d.lastRingId c.lastRingId) =
      decide (c.lastRingId = d.lastRingId) := by
  rw [Bool.eq_iff_iff]
  simp only [Bool.or_eq_true, beq_iff_eq, tlvRingIdEq_iff, decide_eq_true_eq]
  constructor
  · rintro (hnode | hring)
    · rw [h.eq_of_nodeId hc hd hnode]
    · exact hring.symm
  · exact fun hring => .inr hring.symm

/-- No client is on the ring the search starts with. -/
private theorem LmsSplit.zeroRing_vote {c : QnetdClient} (hc : c ∈ cluster.clientList)
    (nodeId : UInt32) :
    (c.nodeId == nodeId || tlvRingIdEq .zero c.lastRingId) = decide (c.nodeId = nodeId) := by
  have hzero : TlvRingId.zero ≠ c.lastRingId := fun heq => h.seq_ne_zero c hc (heq ▸ rfl)
  rw [Bool.eq_iff_iff]
  simp [hzero]

/-- Whether the tie-breaker gives a client the vote: it does for all clients of the ring of one
    client `d`, or for one client and none beside it. -/
theorem lmsTieBreakerNode_vote :
    (∃ d ∈ cluster.clientList, TieBroken tieBreaker cluster.clientList ∧
      ∀ c ∈ cluster.clientList,
        (c.nodeId == (lmsTieBreakerNode cluster c).1 ||
          tlvRingIdEq (lmsTieBreakerNode cluster c).2 c.lastRingId) =
            decide (c.lastRingId = d.lastRingId)) ∨
      ∃ nodeId, (TieBroken tieBreaker cluster.clientList ↔ AloneOnRing cluster.clientList nodeId) ∧
        ∀ c ∈ cluster.clientList,
          (c.nodeId == (lmsTieBreakerNode cluster c).1 ||
            tlvRingIdEq (lmsTieBreakerNode cluster c).2 c.lastRingId) =
              decide (c.nodeId = nodeId) := by
  have hmode : ∀ c ∈ cluster.clientList, c.tieBreaker.mode = tieBreaker.mode := fun c hc =>
    tlvTieBreakerEq_mode (h.sameTieBreaker c hc)
  cases hm : tieBreaker.mode with
  | unset => exact absurd hm h.mode
  | highest =>
    have hnode : ∀ c ∈ cluster.clientList, lmsTieBreakerNode cluster c =
        cluster.clientList.foldl (fun (acc : UInt32 × TlvRingId) other =>
          if other.nodeId > acc.1 then (other.nodeId, other.lastRingId) else acc) (0, .zero) :=
      fun c hc => by
        simp only [lmsTieBreakerNode, (hmode c hc).trans hm]
    -- The search for the highest begins with 0, which no client has, so it finds one.
    obtain ⟨c₀, hc₀, -⟩ := h.split
    rcases foldl_extreme (r := fun a b => a > b) UInt32.lt_irrefl
      (fun hab hbc => UInt32.lt_trans hbc hab) cluster.clientList (0, .zero) with
      ⟨-, hnone⟩ | ⟨d, hd, -, -, heq⟩
    · exact absurd (UInt32.pos_iff_ne_zero.mpr (h.nodeId_ne_zero c₀ hc₀)) (hnone c₀ hc₀)
    · refine .inl ⟨d, hd, by simp [TieBroken, hm], fun c hc => ?_⟩
      rw [hnode c hc, heq]
      exact h.sameRing_vote hc hd
  | lowest =>
    have hnode : ∀ c ∈ cluster.clientList, lmsTieBreakerNode cluster c =
        cluster.clientList.foldl (fun (acc : UInt32 × TlvRingId) other =>
          if other.nodeId < acc.1 then (other.nodeId, other.lastRingId) else acc) (intMax, .zero) :=
      fun c hc => by
        simp only [lmsTieBreakerNode, (hmode c hc).trans hm]
    -- The search for the lowest begins with `INT_MAX`, and may find no client below it.
    rcases foldl_extreme (r := fun a b => a < b) UInt32.lt_irrefl UInt32.lt_trans
      cluster.clientList (intMax, .zero) with ⟨heq, hnone⟩ | ⟨d, hd, hlt, -, heq⟩
    · refine .inr ⟨intMax, ?_, fun c hc => ?_⟩
      · simp only [TieBroken, hm, or_iff_right_iff_imp]
        rintro ⟨c, hc, hlt⟩
        exact absurd hlt (hnone c hc)
      · rw [hnode c hc, heq]
        exact h.zeroRing_vote hc intMax
    · refine .inl ⟨d, hd, ?_, fun c hc => ?_⟩
      · simp only [TieBroken, hm]
        exact .inl ⟨d, hd, hlt⟩
      · rw [hnode c hc, heq]
        exact h.sameRing_vote hc hd
  | nodeId =>
    refine .inr ⟨tieBreaker.nodeId, by simp only [TieBroken, hm], fun c hc => ?_⟩
    have hnodeId : c.tieBreaker.nodeId = tieBreaker.nodeId := by
      have := h.sameTieBreaker c hc
      simpa [tlvTieBreakerEq, (hmode c hc), hm] using this
    have hnode : lmsTieBreakerNode cluster c =
        cluster.clientList.foldl (fun (acc : UInt32 × TlvRingId) other =>
          if tieBreaker.nodeId = c.nodeId then (acc.1, other.lastRingId) else acc)
          (tieBreaker.nodeId, .zero) := by
      simp only [lmsTieBreakerNode, (hmode c hc).trans hm, hnodeId]
    rw [hnode]
    by_cases heq : tieBreaker.nodeId = c.nodeId
    · rw [(foldl_nominated _ _ _).1]
      simp [heq]
    · rw [(foldl_nominated _ _ _).2 heq]
      exact h.zeroRing_vote hc tieBreaker.nodeId

end TieBreaker

/-! ### The vote of one client -/

section Vote

variable {tieBreaker : TlvTieBreaker} {env : Env} {cluster : QnetdCluster}
  {partitions : List AlgoPartition} {c : QnetdClient} {ringId : TlvRingId}

/-- Both rings of a split are partitions. -/
theorem LmsSplit.two_le (h : LmsSplit tieBreaker cluster) :
    2 ≤ (ringsOf cluster.clientList).length := by
  obtain ⟨c, hc, d, hd, hne⟩ := h.split
  have hnodup : [c.lastRingId, d.lastRingId].Nodup := by simpa using hne
  refine (List.subperm_of_subset hnodup fun ring hring => ?_).length_le
  simp only [List.mem_cons, List.not_mem_nil, or_false] at hring
  rcases hring with rfl | rfl
  · exact mem_ringsOf.mpr ⟨h.seq_ne_zero c hc, c, hc, rfl⟩
  · exact mem_ringsOf.mpr ⟨h.seq_ne_zero d hd, d, hd, rfl⟩

/-- The client takes part in the comparison of at least two partitions. -/
structure LmsCompares (cluster : QnetdCluster) (c : QnetdClient) (ringId : TlvRingId) : Prop where
  proceed : algoAllRingIdsMatch cluster c ringId = true
  partitionsFreed : c.lmsInfo.partitionList = []
  two_le : 2 ≤ (ringsOf cluster.clientList).length
  notNewcomer : ¬ LmsNewcomer cluster c ringId

theorem LmsSplit.compares (h : LmsSplit tieBreaker cluster) (hc : c ∈ cluster.clientList) :
    LmsCompares cluster c c.lastRingId :=
  ⟨h.proceed c hc, h.partitionsFreed c hc, h.two_le, fun hnew => h.noNewcomer c hc hnew.1⟩

/-- Without memory for the partitions there is no vote. -/
theorem lmsVoteFor_of_none (hproceed : algoAllRingIdsMatch cluster c ringId = true)
    (hfreed : c.lmsInfo.partitionList = [])
    (hnone : (algoCreatePartitions env cluster []).2 = none) :
    lmsVoteFor env cluster c ringId = some .noChange := by
  have hview := sameLmsView_abort cluster c.id
  obtain ⟨partitions, hparts⟩ : ∃ partitions, algoCreatePartitions env cluster [] =
      (partitions, none) := ⟨_, Prod.ext rfl hnone⟩
  simp only [lmsVoteFor, doLmsAlgorithm, algoAllRingIdsMatch_congr hview rfl,
    algoCreatePartitions_congr hview, hproceed, hfreed, hparts]
  rfl

/-- The comparison of a client that is not a newcomer: score first, then size, then the
    tie-breaker. -/
theorem lmsVoteFor_cases (h : LmsCompares cluster c ringId)
    (hparts : algoCreatePartitions env cluster [] = (partitions, some partitions.length))
    (hpartitions : PartitionsOf cluster.clientList partitions) :
    (∃ ring, LeadsAlone (ringScore cluster.clientList) cluster.clientList ring ∧
        lmsVoteFor env cluster c ringId = some (if ringId = ring then .ack else .nack)) ∨
      (∀ ring, ¬ LeadsAlone (ringScore cluster.clientList) cluster.clientList ring) ∧
        ((∃ ring, LeadsAlone (ringSize cluster.clientList) cluster.clientList ring ∧
            lmsVoteFor env cluster c ringId = some (if ringId = ring then .ack else .nack)) ∨
          (∀ ring, ¬ LeadsAlone (ringSize cluster.clientList) cluster.clientList ring) ∧
            lmsVoteFor env cluster c ringId = some
              (if c.nodeId == (lmsTieBreakerNode cluster c).1 ||
                tlvRingIdEq (lmsTieBreakerNode cluster c).2 ringId then .ack else .nack)) := by
  have hview := sameLmsView_abort cluster c.id
  obtain ⟨n, hn⟩ : ∃ n, partitions.length = n + 2 := by
    have := h.two_le
    rw [← hpartitions.length_eq] at this
    exact ⟨partitions.length - 2, by omega⟩
  have hne : partitions ≠ [] := fun hnil => by simp [hnil] at hn
  -- The leading partitions by score and by size; each leads alone or jointly.
  obtain ⟨best, hbest, hbestAlone, hbestJoint⟩ :=
    lmsLeadingPartition_spec hpartitions hpartitions.score hne
  obtain ⟨largest, hlargest, hlargestAlone, hlargestJoint⟩ :=
    lmsLeadingPartition_spec hpartitions hpartitions.numNodes hne
  have hnew : ¬ (c.lmsInfo.lastResult = .undefined ∧
      lmsOtherActivePartition cluster ringId = true) := h.notNewcomer
  -- What the function answers, before it is known who leads.
  have hvote : lmsVoteFor env cluster c ringId =
      some (if lmsJointLeader AlgoPartition.score best partitions = false then
          if tlvRingIdEq best.ringId ringId then .ack else .nack
        else if lmsJointLeader AlgoPartition.numNodes largest partitions = false then
          if tlvRingIdEq largest.ringId ringId then .ack else .nack
        else if c.nodeId == (lmsTieBreakerNode cluster c).1 ||
          tlvRingIdEq (lmsTieBreakerNode cluster c).2 ringId then .ack else .nack) := by
    simp only [lmsVoteFor, doLmsAlgorithm, algoAllRingIdsMatch_congr hview rfl,
      algoCreatePartitions_congr hview, lmsOtherActivePartition_congr hview,
      lmsTieBreakerNode_congr hview, h.proceed, h.partitionsFreed, hparts, hn, hbest,
      hlargest, if_neg hnew, reduceCtorEq, if_false]
    by_cases hscore : lmsJointLeader AlgoPartition.score best partitions = false
    · rw [if_pos hscore, if_pos hscore]
      rfl
    · rw [if_neg hscore, if_neg hscore]
      by_cases hsize : lmsJointLeader AlgoPartition.numNodes largest partitions = false
      · rw [if_pos hsize, if_pos hsize]
        rfl
      · rw [if_neg hsize, if_neg hsize]
        rfl
  rw [hvote]
  by_cases hscore : lmsJointLeader AlgoPartition.score best partitions = false
  · refine .inl ⟨_, hbestAlone hscore, ?_⟩
    simp only [if_pos hscore, tlvRingIdEq_iff, @eq_comm _ best.ringId]
  · refine .inr ⟨hbestJoint (by simpa using hscore), ?_⟩
    rw [if_neg hscore]
    by_cases hsize : lmsJointLeader AlgoPartition.numNodes largest partitions = false
    · refine .inl ⟨_, hlargestAlone hsize, ?_⟩
      simp only [if_pos hsize, tlvRingIdEq_iff, @eq_comm _ largest.ringId]
    · refine .inr ⟨hlargestJoint (by simpa using hsize), ?_⟩
      rw [if_neg hsize]

end Vote

/-! ### Agreement -/

section Agreement

variable {tieBreaker : TlvTieBreaker} {env : Env} {cluster : QnetdCluster}

/-- A ring that leads alone has a client, and the vote of that ring is agreed on. -/
private theorem lmsAgreement_of_leadsAlone {ringKey : TlvRingId → Int} {ring : TlvRingId}
    (halone : LeadsAlone ringKey cluster.clientList ring)
    (hvotes : ∀ c ∈ cluster.clientList, ∃ ring', LeadsAlone ringKey cluster.clientList ring' ∧
      lmsVote env cluster c = some (if c.lastRingId = ring' then .ack else .nack)) :
    LmsAgreement env cluster := by
  refine ⟨ring, (mem_ringsOf.mp halone.1).2, fun c hc => ?_⟩
  obtain ⟨ring', halone', hvote⟩ := hvotes c hc
  rw [hvote, halone.unique halone']

/-- When only one node gets ACK, it has to be alone on its ring. -/
private theorem lmsAgreement_iff_aloneOnRing (h : LmsSplit tieBreaker cluster) {nodeId : UInt32}
    (hvotes : ∀ c ∈ cluster.clientList,
      lmsVote env cluster c = some (if c.nodeId = nodeId then .ack else .nack)) :
    LmsAgreement env cluster ↔ AloneOnRing cluster.clientList nodeId := by
  have hiff {c : QnetdClient} {ring : TlvRingId} (hc : c ∈ cluster.clientList)
      (hagree : lmsVote env cluster c = some (if c.lastRingId = ring then .ack else .nack)) :
      c.lastRingId = ring ↔ c.nodeId = nodeId := by
    rw [hvotes c hc, Option.some.injEq] at hagree
    split at hagree <;> split at hagree <;> simp_all
  constructor
  · rintro ⟨ring, ⟨c, hc, hring⟩, hall⟩
    refine ⟨c, hc, (hiff hc (hall c hc)).mp hring, fun d hd hsame => ?_⟩
    have hdnode := (hiff hd (hall d hd)).mp (hsame.trans hring)
    exact h.eq_of_nodeId hd hc (hdnode.trans ((hiff hc (hall c hc)).mp hring).symm)
  · rintro ⟨c, hc, hnode, halone⟩
    refine ⟨c.lastRingId, ⟨c, hc, rfl⟩, fun d hd => ?_⟩
    rw [hvotes d hd]
    by_cases hdc : d.lastRingId = c.lastRingId
    · rw [if_pos hdc, halone d hd hdc, if_pos hnode]
    · have : d.nodeId ≠ nodeId := fun hdnode =>
        hdc (by rw [h.eq_of_nodeId hd hc (hdnode.trans hnode.symm)])
      rw [if_neg hdc, if_neg this]

/-- Running `do_lms_algorithm` for every client of a split cluster gives ACK to the clients of one
    ring and NACK to the others exactly if there is memory for the partitions and a ring leads
    alone by score or by size or the tie-breaker gives the vote to a whole ring. -/
theorem lms_agreement_iff (h : LmsSplit tieBreaker cluster) :
    LmsAgreement env cluster ↔
      (∀ n < (ringsOf cluster.clientList).length, env.partitionAlloc n = true) ∧
        ((∃ ring, LeadsAlone (ringScore cluster.clientList) cluster.clientList ring) ∨
          (∃ ring, LeadsAlone (ringSize cluster.clientList) cluster.clientList ring) ∨
          TieBroken tieBreaker cluster.clientList) := by
  obtain ⟨c₀, hc₀, -⟩ := h.split
  rcases algoCreatePartitions_cases env cluster with
    ⟨left, hn, hfail, hleft⟩ | ⟨halloc, partitions, hpartitions, hparts⟩
  · have hnone : (algoCreatePartitions env cluster []).2 = none := by rw [hleft]
    constructor
    · rintro ⟨ring, -, hall⟩
      have hvote : lmsVoteFor env cluster c₀ c₀.lastRingId = _ := hall c₀ hc₀
      rw [lmsVoteFor_of_none (h.proceed c₀ hc₀) (h.partitionsFreed c₀ hc₀) hnone,
        Option.some.injEq] at hvote
      split at hvote <;> cases hvote
    · rintro ⟨halloc, -⟩
      rw [halloc _ hn] at hfail
      cases hfail
  rw [and_iff_right halloc]
  have hcases := fun c hc => lmsVoteFor_cases (c := c) (h.compares hc) hparts hpartitions
  by_cases hscore : ∃ ring, LeadsAlone (ringScore cluster.clientList) cluster.clientList ring
  · obtain ⟨ring, halone⟩ := hscore
    refine iff_of_true (lmsAgreement_of_leadsAlone halone fun c hc => ?_) (.inl ⟨ring, halone⟩)
    rcases hcases c hc with hvote | ⟨hno, -⟩
    · exact hvote
    · exact absurd halone (hno ring)
  have hcases₂ := fun c hc => ((hcases c hc).resolve_left fun hvote =>
    hscore ⟨hvote.choose, hvote.choose_spec.1⟩).2
  by_cases hsize : ∃ ring, LeadsAlone (ringSize cluster.clientList) cluster.clientList ring
  · obtain ⟨ring, halone⟩ := hsize
    refine iff_of_true (lmsAgreement_of_leadsAlone halone fun c hc => ?_)
      (.inr (.inl ⟨ring, halone⟩))
    rcases hcases₂ c hc with hvote | ⟨hno, -⟩
    · exact hvote
    · exact absurd halone (hno ring)
  have hcases₃ := fun c hc => ((hcases₂ c hc).resolve_left fun hvote =>
    hsize ⟨hvote.choose, hvote.choose_spec.1⟩).2
  rw [or_iff_right hscore, or_iff_right hsize]
  -- every ring has a joint leader, so the tie-breaker decides
  rcases lmsTieBreakerNode_vote h with ⟨d, hd, hbroken, hvote⟩ | ⟨nodeId, hbroken, hvote⟩
  · refine iff_of_true ⟨d.lastRingId, ⟨d, hd, rfl⟩, fun c hc => ?_⟩ hbroken
    rw [lmsVote_eq, hcases₃ c hc, hvote c hc]
    simp only [decide_eq_true_eq]
  · rw [hbroken]
    refine lmsAgreement_iff_aloneOnRing h fun c hc => ?_
    rw [lmsVote_eq, hcases₃ c hc, hvote c hc]
    simp only [decide_eq_true_eq]

end Agreement

/-- A client that has been voting and sees the other client of its half. -/
def halfClient (tieBreaker : TlvTieBreaker) (nodeId : UInt32) (ringId : TlvRingId)
    (members : List UInt32) : QnetdClient where
  id := nodeId.toNat
  nodeId := nodeId
  tieBreaker := tieBreaker
  decisionAlgorithm := TlvDecisionAlgorithmType.lms.toUInt16
  initReceived := true
  lastRingId := ringId
  lastMembershipNodeList := members.map fun n => ⟨n, 0, .member⟩
  lmsInfo := { lastResult := .ack }

/-- Four nodes that have fallen apart into two halves. -/
def halvesCluster (tieBreaker : TlvTieBreaker) : QnetdCluster where
  id := 0
  clusterName := []
  clientList :=
    [halfClient tieBreaker 1 ⟨1, 8⟩ [1, 2], halfClient tieBreaker 2 ⟨1, 8⟩ [1, 2],
      halfClient tieBreaker 3 ⟨3, 8⟩ [3, 4], halfClient tieBreaker 4 ⟨3, 8⟩ [3, 4]]

/-- With the tie-breaker `highest` the half of node 4 gets the vote. -/
theorem lms_agreement_halves :
    LmsSplit ⟨.highest, 0⟩ (halvesCluster ⟨.highest, 0⟩) ∧
      LmsAgreement .ok (halvesCluster ⟨.highest, 0⟩) := by
  have hsplit : LmsSplit ⟨.highest, 0⟩ (halvesCluster ⟨.highest, 0⟩) := by
    constructor <;> decide
  exact ⟨hsplit, (lms_agreement_iff hsplit).mpr ⟨fun _ _ => rfl, .inr (.inr trivial)⟩⟩

/-- With node 1 as the tie-breaker, node 1 gets ACK and node 2 on the same ring gets NACK. -/
theorem lms_disagreement_nodeId :
    LmsSplit ⟨.nodeId, 1⟩ (halvesCluster ⟨.nodeId, 1⟩) ∧
      (∀ n, Env.ok.partitionAlloc n = true) ∧
      ¬ LmsAgreement .ok (halvesCluster ⟨.nodeId, 1⟩) := by
  refine ⟨by constructor <;> decide, fun _ => rfl, ?_⟩
  rintro ⟨ring, -, hall⟩
  have hone := hall (halfClient ⟨.nodeId, 1⟩ 1 ⟨1, 8⟩ [1, 2]) (by decide)
  have htwo := hall (halfClient ⟨.nodeId, 1⟩ 2 ⟨1, 8⟩ [1, 2]) (by decide)
  have hone' : lmsVote .ok (halvesCluster ⟨.nodeId, 1⟩)
      (halfClient ⟨.nodeId, 1⟩ 1 ⟨1, 8⟩ [1, 2]) = some .ack := by decide
  have htwo' : lmsVote .ok (halvesCluster ⟨.nodeId, 1⟩)
      (halfClient ⟨.nodeId, 1⟩ 2 ⟨1, 8⟩ [1, 2]) = some .nack := by decide
  rw [hone', Option.some.injEq] at hone
  rw [htwo', Option.some.injEq] at htwo
  -- both are on the same ring
  exact absurd (hone.trans htwo.symm) (by decide)

end Qdevice.Qnetd
