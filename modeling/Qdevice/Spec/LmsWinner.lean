import Qdevice.Spec.LmsAgreement

/-! # LMS: the partition that the manual promises the vote to

The manual lists three criteria, each for the case that the ones before it leave more than one
partition: the score, the number of connected clients, the tie-breaker.  `LmsWinner` is this.
`do_lms_algorithm` starts each stage with all partitions again, so with three or more of
them a later stage can find one that an earlier stage has ruled out.  `lms_winner_iff` says
for which clients that makes a difference. -/

namespace Qdevice.Qnetd

/-! ### The winner -/

/-- The rings with the largest value of `key`. -/
def leadingRings (key : TlvRingId → Int) (rings : List TlvRingId) : List TlvRingId :=
  rings.filter fun ring => ∀ r ∈ rings, key r ≤ key ring

/-- The tie-breaker prefers the first node id, or they are equal. -/
def NodePreferred (mode : TlvTieBreakerMode) (a b : UInt32) : Prop :=
  match mode with
  | .lowest => a ≤ b
  | .highest => b ≤ a
  | .nodeId | .unset => False

instance (mode : TlvTieBreakerMode) (a b : UInt32) : Decidable (NodePreferred mode a b) := by
  unfold NodePreferred
  cases mode <;> infer_instance

/-- The node that the tie-breaker prefers among the clients is on the ring. -/
def HasTieBreakerNode (mode : TlvTieBreakerMode) (clients : List QnetdClient) (ring : TlvRingId) :
    Prop :=
  ∃ c ∈ clients, c.lastRingId = ring ∧ ∀ d ∈ clients, NodePreferred mode c.nodeId d.nodeId

instance (mode : TlvTieBreakerMode) (clients : List QnetdClient) (ring : TlvRingId) :
    Decidable (HasTieBreakerNode mode clients ring) :=
  inferInstanceAs (Decidable (∃ c ∈ clients, _))

/-- The largest of the rings with the best score. -/
def largestBestRings (clients : List QnetdClient) : List TlvRingId :=
  leadingRings (ringSize clients) (leadingRings (ringScore clients) (ringsOf clients))

/-- The ring that is to get the vote: of those with the best score the largest, and of
    these the one with the tie-breaker node. -/
def LmsWinner (mode : TlvTieBreakerMode) (clients : List QnetdClient) (ring : TlvRingId) : Prop :=
  ring ∈ largestBestRings clients ∧
    HasTieBreakerNode mode (clients.filter (·.lastRingId ∈ largestBestRings clients)) ring

instance (mode : TlvTieBreakerMode) (clients : List QnetdClient) (ring : TlvRingId) :
    Decidable (LmsWinner mode clients ring) :=
  inferInstanceAs (Decidable (_ ∧ _))

/-- What the later stages pick, from all rings: the largest, or else the one with the tie-breaker
    node. -/
def LmsPicked (mode : TlvTieBreakerMode) (clients : List QnetdClient) (ring : TlvRingId) : Prop :=
  LeadsAlone (ringSize clients) clients ring ∨
    (∀ r ∈ ringsOf clients, ¬ LeadsAlone (ringSize clients) clients r) ∧
      HasTieBreakerNode mode clients ring

instance (mode : TlvTieBreakerMode) (clients : List QnetdClient) (ring : TlvRingId) :
    Decidable (LmsPicked mode clients ring) :=
  inferInstanceAs (Decidable (_ ∨ _))

/-! ### Facts about the stages -/

theorem mem_leadingRings {key : TlvRingId → Int} {rings : List TlvRingId} {ring : TlvRingId} :
    ring ∈ leadingRings key rings ↔ ring ∈ rings ∧ ∀ r ∈ rings, key r ≤ key ring := by
  simp [leadingRings]

/-- A ring that leads alone is the only leading one. -/
theorem mem_leadingRings_of_leadsAlone {key : TlvRingId → Int} {clients : List QnetdClient}
    {ring : TlvRingId} (h : LeadsAlone key clients ring) (r : TlvRingId) :
    r ∈ leadingRings key (ringsOf clients) ↔ r = ring := by
  rw [mem_leadingRings]
  constructor
  · rintro ⟨hr, hbest⟩
    by_contra hne
    exact absurd (hbest ring h.1) (not_le_of_gt (h.2 r hr hne))
  · rintro rfl
    refine ⟨h.1, fun r' hr' => ?_⟩
    by_cases hne : r' = r
    · rw [hne]
    · exact le_of_lt (h.2 r' hr' hne)

theorem leadingRings_subset {key : TlvRingId → Int} {rings : List TlvRingId} :
    leadingRings key rings ⊆ rings := fun _ h => (mem_leadingRings.mp h).1

theorem largestBestRings_subset {clients : List QnetdClient} :
    largestBestRings clients ⊆ ringsOf clients := fun _ h =>
  leadingRings_subset (leadingRings_subset h)

section TieBreaker

variable {mode : TlvTieBreakerMode} {clients : List QnetdClient}

/-- Among some clients there is one that the tie-breaker prefers. -/
theorem exists_preferred (hmode : mode = .lowest ∨ mode = .highest) (hne : clients ≠ []) :
    ∃ c ∈ clients, ∀ d ∈ clients, NodePreferred mode c.nodeId d.nodeId := by
  rcases hmode with rfl | rfl
  · obtain ⟨c, hc⟩ : ∃ c, clients.argmin (·.nodeId.toNat) = some c :=
      Option.ne_none_iff_exists'.mp fun hnone => hne (List.argmin_eq_none.mp hnone)
    refine ⟨c, List.argmin_mem hc, fun d hd => ?_⟩
    have hle : c.nodeId.toNat ≤ d.nodeId.toNat :=
      List.le_of_mem_argmin (f := fun c : QnetdClient => c.nodeId.toNat) hd hc
    exact UInt32.le_iff_toNat_le.mpr hle
  · obtain ⟨c, hc⟩ : ∃ c, clients.argmax (·.nodeId.toNat) = some c :=
      Option.ne_none_iff_exists'.mp fun hnone => hne (List.argmax_eq_none.mp hnone)
    refine ⟨c, List.argmax_mem hc, fun d hd => ?_⟩
    have hle : d.nodeId.toNat ≤ c.nodeId.toNat :=
      List.le_of_mem_argmax (f := fun c : QnetdClient => c.nodeId.toNat) hd hc
    exact UInt32.le_iff_toNat_le.mpr hle

theorem NodePreferred.antisymm {a b : UInt32} (hab : NodePreferred mode a b)
    (hba : NodePreferred mode b a) : a = b := by
  cases mode with
  | lowest => exact UInt32.le_antisymm hab hba
  | highest => exact UInt32.le_antisymm hba hab
  | nodeId | unset => exact hab.elim

/-- Node ids are distinct, so the tie-breaker node is on one ring. -/
theorem hasTieBreakerNode_iff (hnodes : (clients.map (·.nodeId)).Nodup) {t : QnetdClient}
    (ht : t ∈ clients) (hpref : ∀ d ∈ clients, NodePreferred mode t.nodeId d.nodeId)
    (ring : TlvRingId) : HasTieBreakerNode mode clients ring ↔ ring = t.lastRingId := by
  constructor
  · rintro ⟨c, hc, rfl, hbest⟩
    have hnode := (hbest t ht).antisymm (hpref c hc)
    rw [List.inj_on_of_nodup_map hnodes hc ht hnode]
  · rintro rfl
    exact ⟨t, ht, rfl, hpref⟩

/-- If one ring is left before the tie-breaker, it wins. -/
theorem lmsWinner_iff_of_unique (hmode : mode = .lowest ∨ mode = .highest) {ring : TlvRingId}
    (hunique : ∀ r, r ∈ largestBestRings clients ↔ r = ring) (r : TlvRingId) :
    LmsWinner mode clients r ↔ r = ring := by
  constructor
  · exact fun h => (hunique r).mp h.1
  · rintro rfl
    have hmem := (hunique r).mpr rfl
    obtain ⟨-, c, hc, hring⟩ := mem_ringsOf.mp (largestBestRings_subset hmem)
    have hne : clients.filter (·.lastRingId ∈ largestBestRings clients) ≠ [] :=
      List.ne_nil_of_mem (List.mem_filter.mpr ⟨hc, decide_eq_true (hring ▸ hmem)⟩)
    obtain ⟨t, ht, hpref⟩ := exists_preferred hmode hne
    refine ⟨hmem, t, ht, ?_, hpref⟩
    exact (hunique _).mp (of_decide_eq_true (List.mem_filter.mp ht).2)

/-- If the preferred node of all clients is on a ring that is left, this ring wins. -/
theorem lmsWinner_iff_of_preferred (hnodes : (clients.map (·.nodeId)).Nodup) {t : QnetdClient}
    (ht : t ∈ clients) (hpref : ∀ d ∈ clients, NodePreferred mode t.nodeId d.nodeId)
    (hmem : t.lastRingId ∈ largestBestRings clients) (r : TlvRingId) :
    LmsWinner mode clients r ↔ r = t.lastRingId := by
  have hleft : t ∈ clients.filter (·.lastRingId ∈ largestBestRings clients) :=
    List.mem_filter.mpr ⟨ht, decide_eq_true hmem⟩
  rw [LmsWinner, hasTieBreakerNode_iff (hnodes.sublist (List.filter_sublist.map _)) hleft
    fun d hd => hpref d (List.mem_filter.mp hd).1]
  exact and_iff_right_of_imp fun hr => hr ▸ hmem

end TieBreaker

/-- A ring that leads alone by size and has the best score is the only one left. -/
theorem largestBestRings_of_size {clients : List QnetdClient} {ring : TlvRingId}
    (h : LeadsAlone (ringSize clients) clients ring) (hmem : ring ∈ largestBestRings clients)
    (r : TlvRingId) : r ∈ largestBestRings clients ↔ r = ring := by
  constructor
  · intro hr
    by_contra hne
    obtain ⟨-, hlargest⟩ := mem_leadingRings.mp hr
    have hle := hlargest ring (leadingRings_subset hmem)
    exact absurd hle (not_le_of_gt (h.2 r (largestBestRings_subset hr) hne))
  · rintro rfl
    exact hmem

/-- A ring that leads alone by score is the only one left. -/
theorem largestBestRings_of_score {clients : List QnetdClient} {ring : TlvRingId}
    (h : LeadsAlone (ringScore clients) clients ring) (r : TlvRingId) :
    r ∈ largestBestRings clients ↔ r = ring := by
  have hbest := mem_leadingRings_of_leadsAlone h
  constructor
  · exact fun hr => (hbest r).mp (leadingRings_subset hr)
  · rintro rfl
    refine mem_leadingRings.mpr ⟨(hbest r).mpr rfl, fun r' hr' => ?_⟩
    rw [(hbest r').mp hr']

/-! ### The vote -/

/-- The client takes part in the comparison of at least two partitions, and the tie-breaker is by
    node id, from below `INT_MAX`. -/
structure LmsDivided (cluster : QnetdCluster) (c : QnetdClient) : Prop
    extends LmsCompares cluster c c.lastRingId where
  mem : c ∈ cluster.clientList
  nodeIds : (cluster.clientList.map (·.nodeId)).Nodup
  nodeId_lt : ∀ d ∈ cluster.clientList, d.nodeId < intMax
  seq_ne_zero : ∀ d ∈ cluster.clientList, d.lastRingId.seq ≠ 0
  mode : c.tieBreaker.mode = .lowest ∨ c.tieBreaker.mode = .highest

section Vote

variable {cluster : QnetdCluster} {c : QnetdClient}

/-- Two partitions have clients on different rings. -/
theorem exists_two_rings {clients : List QnetdClient} (h : 2 ≤ (ringsOf clients).length) :
    ∃ x ∈ clients, ∃ y ∈ clients, x.lastRingId ≠ y.lastRingId := by
  have hnodup : (ringsOf clients).Nodup := List.nodup_dedup _
  cases hrings : ringsOf clients with
  | nil => rw [hrings] at h; exact absurd h (by decide)
  | cons a tail =>
    cases tail with
    | nil => rw [hrings] at h; exact absurd h (by simp)
    | cons b rest =>
      obtain ⟨-, x, hx, rfl⟩ := mem_ringsOf.mp (hrings ▸ List.mem_cons_self : a ∈ ringsOf clients)
      obtain ⟨-, y, hy, rfl⟩ := mem_ringsOf.mp
        (hrings ▸ List.mem_cons_of_mem _ List.mem_cons_self : b ∈ ringsOf clients)
      rw [hrings] at hnodup
      exact ⟨x, hx, y, hy, fun heq => (List.nodup_cons.mp hnodup).1 (heq ▸ List.mem_cons_self)⟩

/-- The tie-breaker stage gives the vote to the ring of the node that is preferred among all. -/
theorem LmsDivided.tieBreaker_vote (h : LmsDivided cluster c) :
    ∃ t ∈ cluster.clientList,
      (∀ d ∈ cluster.clientList, NodePreferred c.tieBreaker.mode t.nodeId d.nodeId) ∧
      (c.nodeId == (lmsTieBreakerNode cluster c).1 ||
        tlvRingIdEq (lmsTieBreakerNode cluster c).2 c.lastRingId) =
          decide (c.lastRingId = t.lastRingId) := by
  have hvote {t : QnetdClient} (ht : t ∈ cluster.clientList)
      (heq : lmsTieBreakerNode cluster c = (t.nodeId, t.lastRingId)) :
      (c.nodeId == (lmsTieBreakerNode cluster c).1 ||
        tlvRingIdEq (lmsTieBreakerNode cluster c).2 c.lastRingId) =
          decide (c.lastRingId = t.lastRingId) := by
    rw [heq, Bool.eq_iff_iff]
    simp only [Bool.or_eq_true, beq_iff_eq, tlvRingIdEq_iff, decide_eq_true_eq]
    constructor
    · rintro (hnode | hring)
      · rw [List.inj_on_of_nodup_map h.nodeIds h.mem ht hnode]
      · exact hring.symm
    · exact fun hring => .inr hring.symm
  rcases h.mode with hmode | hmode
  · rcases foldl_extreme (r := fun a b => a < b) UInt32.lt_irrefl UInt32.lt_trans
      cluster.clientList (intMax, .zero) with ⟨-, hnone⟩ | ⟨t, ht, -, hbest, heq⟩
    · exact absurd (h.nodeId_lt c h.mem) (hnone c h.mem)
    · refine ⟨t, ht, fun d hd => ?_, hvote ht ?_⟩
      · rw [hmode]
        exact UInt32.not_lt.mp (hbest d hd)
      · simp only [lmsTieBreakerNode, hmode]
        exact heq
  · rcases foldl_extreme (r := fun a b => a > b) UInt32.lt_irrefl
      (fun hab hbc => UInt32.lt_trans hbc hab) cluster.clientList (0, .zero) with
      ⟨-, hnone⟩ | ⟨t, ht, -, hbest, heq⟩
    · -- all node ids would be 0, but there are two clients
      obtain ⟨x, hx, y, hy, hne⟩ := exists_two_rings h.two_le
      have hzero : ∀ d ∈ cluster.clientList, d.nodeId = 0 := fun d hd =>
        UInt32.le_antisymm (UInt32.not_lt.mp (hnone d hd)) UInt32.zero_le
      have hnode : x.nodeId = y.nodeId := (hzero x hx).trans (hzero y hy).symm
      exact absurd (by rw [List.inj_on_of_nodup_map h.nodeIds hx hy hnode]) hne
    · refine ⟨t, ht, fun d hd => ?_, hvote ht ?_⟩
      · rw [hmode]
        exact UInt32.not_lt.mp (hbest d hd)
      · simp only [lmsTieBreakerNode, hmode]
        exact heq

/-- The stages give the client the vote that the manual promises: the score decides alone, or what
    the later stages pick from all rings is left by the earlier ones, or the client is neither
    on that ring nor on the one that is to win. -/
def LmsStagesAgree (mode : TlvTieBreakerMode) (clients : List QnetdClient) (ring : TlvRingId) :
    Prop :=
  (∃ r ∈ ringsOf clients, LeadsAlone (ringScore clients) clients r) ∨
    ∀ r ∈ ringsOf clients, LmsPicked mode clients r →
      r ∈ largestBestRings clients ∨ (ring ≠ r ∧ ¬ LmsWinner mode clients ring)

instance (mode : TlvTieBreakerMode) (clients : List QnetdClient) (ring : TlvRingId) :
    Decidable (LmsStagesAgree mode clients ring) :=
  inferInstanceAs (Decidable (_ ∨ _))

/-- What it comes to when the later stages pick `picked`. -/
private theorem vote_iff_of_picked {mode : TlvTieBreakerMode} {clients : List QnetdClient}
    {ring picked : TlvRingId} {vote : Option TlvVote}
    (hvote : vote = some (if ring = picked then .ack else .nack))
    (hring : picked ∈ ringsOf clients)
    (hscore : ∀ r, ¬ LeadsAlone (ringScore clients) clients r)
    (hpicked : ∀ r, LmsPicked mode clients r ↔ r = picked)
    (hwinner : picked ∈ largestBestRings clients → ∀ r, LmsWinner mode clients r ↔ r = picked) :
    vote = some (if LmsWinner mode clients ring then .ack else .nack) ↔
      LmsStagesAgree mode clients ring := by
  have hagree : LmsStagesAgree mode clients ring ↔ picked ∈ largestBestRings clients ∨
      (ring ≠ picked ∧ ¬ LmsWinner mode clients ring) := by
    rw [LmsStagesAgree, or_iff_right fun ⟨r, _, halone⟩ => hscore r halone]
    constructor
    · exact fun h => h picked hring ((hpicked picked).mpr rfl)
    · intro h r _ hr
      obtain rfl := (hpicked r).mp hr
      exact h
  rw [hvote, hagree]
  by_cases hmem : picked ∈ largestBestRings clients
  · exact iff_of_true (by simp only [hwinner hmem ring]) (.inl hmem)
  · rw [or_iff_right hmem]
    have hnotWinner : ¬ LmsWinner mode clients picked := fun h => hmem h.1
    by_cases heq : ring = picked
    · subst heq
      simp [hnotWinner]
    · by_cases hwin : LmsWinner mode clients ring <;> simp [heq, hwin]

/-- `do_lms_algorithm` answers a client with ACK if its ring is the winner and with NACK otherwise,
    exactly if there is memory for the partitions and the stages agree for the client. -/
theorem lms_winner_iff (env : Env) (h : LmsDivided cluster c) :
    lmsVote env cluster c = some (if LmsWinner c.tieBreaker.mode cluster.clientList c.lastRingId
        then .ack else .nack) ↔
      (∀ n < (ringsOf cluster.clientList).length, env.partitionAlloc n = true) ∧
        LmsStagesAgree c.tieBreaker.mode cluster.clientList c.lastRingId := by
  rw [lmsVote_eq]
  rcases algoCreatePartitions_cases env cluster with
    ⟨left, hn, hfail, hleft⟩ | ⟨halloc, partitions, hpartitions, hparts⟩
  · have hnone : (algoCreatePartitions env cluster []).2 = none := by rw [hleft]
    rw [lmsVoteFor_of_none h.proceed h.partitionsFreed hnone, Option.some.injEq]
    refine iff_of_false (fun hvote => ?_) fun ⟨halloc, _⟩ => ?_
    · split at hvote <;> cases hvote
    · rw [halloc _ hn] at hfail
      cases hfail
  rw [and_iff_right halloc]
  rcases lmsVoteFor_cases h.toLmsCompares hparts hpartitions with
    ⟨ring, halone, hvote⟩ | ⟨hscore, ⟨ring, halone, hvote⟩ | ⟨hsize, hvote⟩⟩
  · -- the score decides
    have hwinner := lmsWinner_iff_of_unique h.mode (largestBestRings_of_score halone)
    refine iff_of_true ?_ (.inl ⟨ring, halone.1, halone⟩)
    rw [hvote]
    simp only [hwinner]
  · -- the size decides
    refine vote_iff_of_picked hvote halone.1 hscore (fun r => ?_) fun hmem =>
      lmsWinner_iff_of_unique h.mode (largestBestRings_of_size halone hmem)
    constructor
    · rintro (halone' | ⟨hno, -⟩)
      · exact halone.unique halone'
      · exact absurd halone (hno ring halone.1)
    · rintro rfl
      exact .inl halone
  · -- the tie-breaker decides
    obtain ⟨t, ht, hpref, htvote⟩ := h.tieBreaker_vote
    rw [htvote] at hvote
    simp only [decide_eq_true_eq] at hvote
    refine vote_iff_of_picked hvote (mem_ringsOf.mpr ⟨h.seq_ne_zero t ht, t, ht, rfl⟩) hscore
      (fun r => ?_) fun hmem => lmsWinner_iff_of_preferred h.nodeIds ht hpref hmem
    rw [LmsPicked, or_iff_right (hsize r), and_iff_right fun r _ => hsize r]
    exact hasTieBreakerNode_iff h.nodeIds ht hpref r

end Vote

/-- With the tie-breaker `lowest` node 1 of two halves is on the ring of the winner. -/
theorem lms_winner_halves :
    LmsDivided (halvesCluster ⟨.lowest, 0⟩) (halfClient ⟨.lowest, 0⟩ 1 ⟨1, 8⟩ [1, 2]) ∧
      LmsWinner .lowest (halvesCluster ⟨.lowest, 0⟩).clientList ⟨1, 8⟩ ∧
      lmsVote .ok (halvesCluster ⟨.lowest, 0⟩) (halfClient ⟨.lowest, 0⟩ 1 ⟨1, 8⟩ [1, 2]) =
        some (if LmsWinner .lowest (halvesCluster ⟨.lowest, 0⟩).clientList ⟨1, 8⟩ then .ack
          else .nack) := by
  have hdivided : LmsDivided (halvesCluster ⟨.lowest, 0⟩)
      (halfClient ⟨.lowest, 0⟩ 1 ⟨1, 8⟩ [1, 2]) :=
    { proceed := by decide
      partitionsFreed := rfl
      two_le := by decide
      notNewcomer := fun hnew => by cases hnew.1
      mem := by decide
      nodeIds := by decide
      nodeId_lt := by decide
      seq_ne_zero := by decide
      mode := .inl rfl }
  exact ⟨hdivided, by decide, (lms_winner_iff .ok hdivided).mpr ⟨fun _ _ => rfl, by decide⟩⟩

/-- Two nodes that see nobody and pass the heuristics, and two that see each other and fail. -/
def threeWaysCluster : QnetdCluster where
  id := 0
  clusterName := []
  clientList :=
    [{ halfClient ⟨.lowest, 0⟩ 1 ⟨1, 8⟩ [1] with lastHeuristics := .pass },
      { halfClient ⟨.lowest, 0⟩ 2 ⟨2, 8⟩ [2] with lastHeuristics := .pass },
      { halfClient ⟨.lowest, 0⟩ 3 ⟨3, 8⟩ [3, 4] with lastHeuristics := .fail },
      { halfClient ⟨.lowest, 0⟩ 4 ⟨3, 8⟩ [3, 4] with lastHeuristics := .fail }]

/-- The rings of nodes 1 and 2 have the best score.  As there are two of them, the largest ring of
    all gets the vote, which has the worst score. -/
theorem lms_largest_beats_score :
    LmsDivided threeWaysCluster
      { halfClient ⟨.lowest, 0⟩ 3 ⟨3, 8⟩ [3, 4] with lastHeuristics := .fail } ∧
    LmsWinner .lowest threeWaysCluster.clientList ⟨1, 8⟩ ∧
    ¬ LmsWinner .lowest threeWaysCluster.clientList ⟨3, 8⟩ ∧
    lmsVote .ok threeWaysCluster
      { halfClient ⟨.lowest, 0⟩ 3 ⟨3, 8⟩ [3, 4] with lastHeuristics := .fail } = some .ack := by
  refine ⟨?_, by decide, by decide, by decide⟩
  exact
    { proceed := by decide
      partitionsFreed := rfl
      two_le := by decide
      notNewcomer := fun hnew => by cases hnew.1
      mem := by decide
      nodeIds := by decide
      nodeId_lt := by decide
      seq_ne_zero := by decide
      mode := .inl rfl }

end Qdevice.Qnetd
