import Mathlib
import Qdevice.Native.QnetdAlgoLms

/-! # What `qnetd_algo_create_partitions` builds

The partitions are the ring ids the clients have stored, each once, and a partition counts the
clients that are on its ring.  Size and score of a ring are defined here from the
clients alone, so that the comparisons of `do_lms_algorithm` can be stated without the
partition list. -/

namespace Qdevice.Qnetd

/-! ### Rings -/

/-- The clients on a ring. -/
def ringClients (clients : List QnetdClient) (ring : TlvRingId) : List QnetdClient :=
  clients.filter fun c => c.lastRingId = ring

/-- The number of clients on a ring. -/
def ringSize (clients : List QnetdClient) (ring : TlvRingId) : Int :=
  (ringClients clients ring).length

/-- The sum of what the clients on a ring add to its score. -/
def ringScore (clients : List QnetdClient) (ring : TlvRingId) : Int :=
  ((ringClients clients ring).map fun c => algoClientScore c.lastHeuristics).sum

/-- The rings that count as partitions; a ring id with `seq` 0 has not been set yet. -/
def ringsOf (clients : List QnetdClient) : List TlvRingId :=
  ((clients.map (·.lastRingId)).filter fun ring => ring.seq ≠ 0).dedup

theorem mem_ringsOf {clients : List QnetdClient} {ring : TlvRingId} :
    ring ∈ ringsOf clients ↔ ring.seq ≠ 0 ∧ ∃ c ∈ clients, c.lastRingId = ring := by
  simp [ringsOf, and_comm]

theorem ringClients_append (clients : List QnetdClient) (c : QnetdClient) (ring : TlvRingId) :
    ringClients (clients ++ [c]) ring =
      ringClients clients ring ++ if c.lastRingId = ring then [c] else [] := by
  simp only [ringClients, List.filter_append, List.filter_cons, List.filter_nil, decide_eq_true_eq]

/-- A partition list that says of every ring how many clients are on it and what they score. -/
structure PartitionsOf (clients : List QnetdClient) (partitions : List AlgoPartition) : Prop where
  nodup : (partitions.map (·.ringId)).Nodup
  rings : ∀ ring, ring ∈ partitions.map (·.ringId) ↔
    ring.seq ≠ 0 ∧ ∃ c ∈ clients, c.lastRingId = ring
  numNodes : ∀ p ∈ partitions, p.numNodes = ringSize clients p.ringId
  score : ∀ p ∈ partitions, p.score = ringScore clients p.ringId

theorem partitionsOf_nil : PartitionsOf [] [] := by
  constructor <;> simp

theorem PartitionsOf.length_eq {clients : List QnetdClient} {partitions : List AlgoPartition}
    (h : PartitionsOf clients partitions) : partitions.length = (ringsOf clients).length := by
  have hperm : (partitions.map (·.ringId)).Perm (ringsOf clients) := by
    refine (List.perm_ext_iff_of_nodup h.nodup (List.nodup_dedup _)).mpr fun ring => ?_
    rw [h.rings]
    exact mem_ringsOf.symm
  rw [← hperm.length_eq, List.length_map]

theorem ringsOf_length_mono {clients clients' : List QnetdClient} (h : clients ⊆ clients') :
    (ringsOf clients).length ≤ (ringsOf clients').length := by
  refine (List.subperm_of_subset (List.nodup_dedup _) fun ring hring => ?_).length_le
  obtain ⟨hseq, c, hc, hr⟩ := mem_ringsOf.mp hring
  exact mem_ringsOf.mpr ⟨hseq, c, h hc, hr⟩

/-! ### One client -/

/-- What counting a client does to the partition of its ring. -/
def countIn (c : QnetdClient) (p : AlgoPartition) : AlgoPartition :=
  if p.ringId = c.lastRingId then
    { p with numNodes := p.numNodes + 1, score := p.score + algoClientScore c.lastHeuristics }
  else p

@[simp] theorem countIn_ringId (c : QnetdClient) (p : AlgoPartition) :
    (countIn c p).ringId = p.ringId := by
  simp only [countIn]
  split <;> rfl

private theorem map_countIn_of_not_mem {c : QnetdClient} {partitions : List AlgoPartition}
    (h : c.lastRingId ∉ partitions.map (·.ringId)) : partitions.map (countIn c) = partitions := by
  conv_rhs => rw [← List.map_id partitions]
  refine List.map_congr_left fun p hp => ?_
  have hne : p.ringId ≠ c.lastRingId := fun heq => h (heq ▸ List.mem_map_of_mem hp)
  simp [countIn, hne]

/-- Only one partition has the ring of the client, so stopping at the first one is no loss. -/
theorem algoCountClient_eq_map {c : QnetdClient} {partitions : List AlgoPartition}
    (hnodup : (partitions.map (·.ringId)).Nodup) :
    algoCountClient c partitions = partitions.map (countIn c) := by
  induction partitions with
  | nil => rfl
  | cons p rest ih =>
    rw [List.map_cons, List.nodup_cons] at hnodup
    simp only [algoCountClient, List.map_cons, tlvRingIdEq_iff]
    split
    · next hring =>
      rw [hring] at hnodup
      simp [countIn, hring, map_countIn_of_not_mem hnodup.1]
    · next hring => simp [countIn, hring, ih hnodup.2]

theorem length_algoCountClient (c : QnetdClient) (partitions : List AlgoPartition) :
    (algoCountClient c partitions).length = partitions.length := by
  induction partitions with
  | nil => rfl
  | cons p rest ih =>
    simp only [algoCountClient]
    split
    · rfl
    · rw [List.length_cons, ih, List.length_cons]

theorem algoFindPartition_eq_none {partitions : List AlgoPartition} {ring : TlvRingId} :
    algoFindPartition partitions ring = none ↔ ring ∉ partitions.map (·.ringId) := by
  simp only [algoFindPartition, List.find?_eq_none, tlvRingIdEq_iff, List.mem_map, not_exists,
    not_and]

private theorem ringSize_append (clients : List QnetdClient) (c : QnetdClient) (ring : TlvRingId) :
    ringSize (clients ++ [c]) ring = ringSize clients ring + if c.lastRingId = ring then 1 else 0 := by
  simp only [ringSize, ringClients_append]
  split <;> simp

private theorem ringScore_append (clients : List QnetdClient) (c : QnetdClient) (ring : TlvRingId) :
    ringScore (clients ++ [c]) ring = ringScore clients ring +
      if c.lastRingId = ring then algoClientScore c.lastHeuristics else 0 := by
  simp only [ringScore, ringClients_append]
  split <;> simp

/-- A client whose ring id has not been set changes no partition. -/
theorem PartitionsOf.skip {clients : List QnetdClient} {partitions : List AlgoPartition}
    {c : QnetdClient} (h : PartitionsOf clients partitions) (hseq : c.lastRingId.seq = 0) :
    PartitionsOf (clients ++ [c]) partitions := by
  have hother : ∀ p ∈ partitions, c.lastRingId ≠ p.ringId := fun p hp heq => by
    have := (h.rings p.ringId).mp (List.mem_map_of_mem hp)
    exact this.1 (heq ▸ hseq)
  refine ⟨h.nodup, fun ring => ?_, fun p hp => ?_, fun p hp => ?_⟩
  · rw [h.rings]
    refine and_congr_right fun hne => ?_
    have : c.lastRingId ≠ ring := fun heq => hne (heq ▸ hseq)
    simp [this]
  · rw [ringSize_append, if_neg (hother p hp), h.numNodes p hp, Int.add_zero]
  · rw [ringScore_append, if_neg (hother p hp), h.score p hp, Int.add_zero]

/-- A client of a known ring is counted there. -/
theorem PartitionsOf.count {clients : List QnetdClient} {partitions : List AlgoPartition}
    {c : QnetdClient} (h : PartitionsOf clients partitions)
    (hmem : c.lastRingId ∈ partitions.map (·.ringId)) :
    PartitionsOf (clients ++ [c]) (algoCountClient c partitions) := by
  rw [algoCountClient_eq_map h.nodup]
  have hrings : (partitions.map (countIn c)).map (·.ringId) = partitions.map (·.ringId) := by
    simp [Function.comp_def]
  refine ⟨by rw [hrings]; exact h.nodup, fun ring => ?_, fun p hp => ?_, fun p hp => ?_⟩
  · rw [hrings, h.rings]
    refine and_congr_right fun hne => ⟨fun ⟨d, hd, heq⟩ => ⟨d, List.mem_append_left _ hd, heq⟩, ?_⟩
    rintro ⟨d, hd, rfl⟩
    rcases List.mem_append.mp hd with hd | hd
    · exact ⟨d, hd, rfl⟩
    · obtain rfl := List.mem_singleton.mp hd
      exact ((h.rings d.lastRingId).mp hmem).2
  · obtain ⟨q, hq, rfl⟩ := List.mem_map.mp hp
    rw [countIn_ringId, ringSize_append, ← h.numNodes q hq]
    simp only [countIn, eq_comm]
    split <;> simp
  · obtain ⟨q, hq, rfl⟩ := List.mem_map.mp hp
    rw [countIn_ringId, ringScore_append, ← h.score q hq]
    simp only [countIn, eq_comm]
    split <;> simp

/-- A client of a new ring gets a new partition before it is counted. -/
theorem PartitionsOf.count_new {clients : List QnetdClient} {partitions : List AlgoPartition}
    {c : QnetdClient} (h : PartitionsOf clients partitions) (hseq : c.lastRingId.seq ≠ 0)
    (hmem : c.lastRingId ∉ partitions.map (·.ringId)) :
    PartitionsOf (clients ++ [c]) (algoCountClient c (partitions ++ [⟨c.lastRingId, 0, 0⟩])) := by
  have hnone : ringClients clients c.lastRingId = [] :=
    List.filter_eq_nil_iff.mpr fun d hd hring =>
      hmem ((h.rings _).mpr ⟨hseq, d, hd, of_decide_eq_true hring⟩)
  have hnodup : ((partitions ++ [(⟨c.lastRingId, 0, 0⟩ : AlgoPartition)]).map (·.ringId)).Nodup := by
    rw [List.map_append, List.nodup_append]
    refine ⟨h.nodup, by simp, ?_⟩
    rintro r hr _ hc rfl
    simp only [List.map_cons, List.map_nil, List.mem_singleton] at hc
    exact hmem (hc ▸ hr)
  rw [algoCountClient_eq_map hnodup, List.map_append, map_countIn_of_not_mem hmem]
  have hcounted : [(⟨c.lastRingId, 0, 0⟩ : AlgoPartition)].map (countIn c) =
      [⟨c.lastRingId, 1, algoClientScore c.lastHeuristics⟩] := by
    simp [countIn]
  rw [hcounted]
  have hother : ∀ p ∈ partitions, c.lastRingId ≠ p.ringId := fun p hp heq =>
    hmem (heq ▸ List.mem_map_of_mem hp)
  refine ⟨by simpa using hnodup, fun ring => ?_, fun p hp => ?_, fun p hp => ?_⟩
  · rw [List.map_append, List.mem_append, h.rings]
    simp only [List.map_cons, List.map_nil, List.mem_singleton, List.mem_append]
    constructor
    · rintro (⟨hne, d, hd, rfl⟩ | rfl)
      · exact ⟨hne, d, .inl hd, rfl⟩
      · exact ⟨hseq, c, .inr rfl, rfl⟩
    · rintro ⟨hne, d, hd | rfl, rfl⟩
      · exact .inl ⟨hne, d, hd, rfl⟩
      · exact .inr rfl
  · rcases List.mem_append.mp hp with hp | hp
    · rw [ringSize_append, if_neg (hother p hp), h.numNodes p hp, Int.add_zero]
    · obtain rfl := List.mem_singleton.mp hp
      rw [ringSize_append, if_pos rfl]
      simp [ringSize, hnone]
  · rcases List.mem_append.mp hp with hp | hp
    · rw [ringScore_append, if_neg (hother p hp), h.score p hp, Int.add_zero]
    · obtain rfl := List.mem_singleton.mp hp
      rw [ringScore_append, if_pos rfl]
      simp [ringScore, hnone]

/-! ### The loop -/

/-- The loop either runs out of memory at some partition, or ends with the partitions of all
    clients; `seen` are the clients before the loop. -/
private theorem algoCreatePartitionsLoop_cases (env : Env) (rest : List QnetdClient)
    {seen : List QnetdClient} {partitions : List AlgoPartition}
    (h : PartitionsOf seen partitions) :
    (∃ left : List AlgoPartition, left.length < (ringsOf (seen ++ rest)).length ∧
        env.partitionAlloc left.length = false ∧
        algoCreatePartitionsLoop env partitions partitions.length rest = (left, none)) ∨
      (∀ n, partitions.length ≤ n → n < (ringsOf (seen ++ rest)).length →
          env.partitionAlloc n = true) ∧
        ∃ partitions', PartitionsOf (seen ++ rest) partitions' ∧
          algoCreatePartitionsLoop env partitions partitions.length rest =
            (partitions', some partitions'.length) := by
  induction rest generalizing seen partitions with
  | nil =>
    rw [List.append_nil]
    refine .inr ⟨fun n hle hlt => ?_, partitions, h, rfl⟩
    rw [← h.length_eq] at hlt
    omega
  | cons c rest ih =>
    have happend : seen ++ c :: rest = seen ++ [c] ++ rest := by simp
    rw [happend]
    simp only [algoCreatePartitionsLoop]
    split
    · next hseq => exact ih (h.skip hseq)
    · next hseq =>
      split
      · next p hfind =>
        have hmem : c.lastRingId ∈ partitions.map (·.ringId) := by
          by_contra hno
          rw [algoFindPartition_eq_none.mpr hno] at hfind
          cases hfind
        have hcount := h.count hmem
        have hlength : (algoCountClient c partitions).length = partitions.length :=
          length_algoCountClient c partitions
        simpa only [hlength] using ih hcount
      · next hfind =>
        have hmem := algoFindPartition_eq_none.mp hfind
        have hcount := h.count_new hseq hmem
        have hlength : (algoCountClient c (partitions ++ [⟨c.lastRingId, 0, 0⟩])).length =
            partitions.length + 1 := by
          rw [length_algoCountClient, List.length_append, List.length_singleton]
        -- the new partition is one of the partitions of all clients
        have hless : partitions.length < (ringsOf (seen ++ [c] ++ rest)).length := by
          have := ringsOf_length_mono (List.subset_append_left (seen ++ [c]) rest)
          rw [← hcount.length_eq] at this
          omega
        split
        · next halloc =>
          have hloop := ih hcount
          rw [hlength] at hloop
          rcases hloop with hfail | ⟨hrest, hdone⟩
          · exact .inl hfail
          · refine .inr ⟨fun n hle hlt => ?_, hdone⟩
            rcases Nat.eq_or_lt_of_le hle with rfl | hlt'
            · exact halloc
            · exact hrest n hlt' hlt
        · next halloc => exact .inl ⟨partitions, hless, by simpa using halloc, rfl⟩

/-- With an empty list to start from, `qnetd_algo_create_partitions` fails exactly if the memory
    for one of the rings is missing, and leaves the partitions it has made; else it builds the
    partitions of all clients. -/
theorem algoCreatePartitions_cases (env : Env) (cluster : QnetdCluster) :
    (∃ left : List AlgoPartition, left.length < (ringsOf cluster.clientList).length ∧
        env.partitionAlloc left.length = false ∧
        algoCreatePartitions env cluster [] = (left, none)) ∨
      (∀ n < (ringsOf cluster.clientList).length, env.partitionAlloc n = true) ∧
        ∃ partitions, PartitionsOf cluster.clientList partitions ∧
          algoCreatePartitions env cluster [] = (partitions, some partitions.length) := by
  have h := algoCreatePartitionsLoop_cases env cluster.clientList partitionsOf_nil
  simpa [algoCreatePartitions] using h

/-- There is memory for every partition but perhaps the first. -/
def AllocsLater (env : Env) (cluster : QnetdCluster) : Prop :=
  ∀ n < (ringsOf cluster.clientList).length, 0 < n → env.partitionAlloc n = true

instance (env : Env) (cluster : QnetdCluster) : Decidable (AllocsLater env cluster) :=
  inferInstanceAs (Decidable (∀ n < _, _))

/-- Then no partitions are left behind. -/
theorem eq_nil_of_allocsLater {env : Env} {cluster : QnetdCluster} {partitions : List AlgoPartition}
    (halloc : AllocsLater env cluster)
    (h : algoCreatePartitions env cluster [] = (partitions, none)) : partitions = [] := by
  rcases algoCreatePartitions_cases env cluster with ⟨left, hlen, hfail, hleft⟩ | ⟨-, _, -, hparts⟩
  · obtain rfl : left = partitions := congrArg Prod.fst (hleft.symm.trans h)
    by_contra hne
    rw [halloc _ hlen (List.length_pos_iff.mpr hne)] at hfail
    cases hfail
  · rw [hparts] at h
    cases h

/-! ### The leading partition -/

theorem lmsLeadingPartition_eq_argmax (key : AlgoPartition → Int)
    (partitions : List AlgoPartition) :
    lmsLeadingPartition key partitions = partitions.argmax key := by
  simp only [lmsLeadingPartition, List.argmax]
  congr 1
  funext best p
  cases best with
  | none => rfl
  | some b => rfl

/-- `ring` is ahead of all other rings. -/
def LeadsAlone (ringKey : TlvRingId → Int) (clients : List QnetdClient) (ring : TlvRingId) : Prop :=
  ring ∈ ringsOf clients ∧ ∀ r ∈ ringsOf clients, r ≠ ring → ringKey r < ringKey ring

instance (ringKey : TlvRingId → Int) (clients : List QnetdClient) (ring : TlvRingId) :
    Decidable (LeadsAlone ringKey clients ring) :=
  inferInstanceAs (Decidable (_ ∧ _))

theorem LeadsAlone.unique {ringKey : TlvRingId → Int} {clients : List QnetdClient}
    {ring ring' : TlvRingId} (h : LeadsAlone ringKey clients ring)
    (h' : LeadsAlone ringKey clients ring') : ring' = ring := by
  by_contra hne
  have := h.2 ring' h'.1 hne
  have := h'.2 ring h.1 (Ne.symm hne)
  omega

/-- There is a joint leader exactly if another partition has the leader's value. -/
theorem lmsJointLeader_iff {key : AlgoPartition → Int} {leader : AlgoPartition}
    {partitions : List AlgoPartition} (hnodup : partitions.Nodup) (hmem : leader ∈ partitions) :
    lmsJointLeader key leader partitions = true ↔
      ∃ p ∈ partitions, p ≠ leader ∧ key p = key leader := by
  simp only [lmsJointLeader, decide_eq_true_eq, List.countP_eq_length_filter]
  constructor
  · intro hcount
    by_contra hnone
    have hsub : (partitions.filter fun p => key leader == key p) ⊆ [leader] := fun p hp => by
      obtain ⟨hp, heq⟩ := List.mem_filter.mp hp
      rw [List.mem_singleton]
      by_contra hne
      exact hnone ⟨p, hp, hne, (beq_iff_eq.mp heq).symm⟩
    have := (List.subperm_of_subset (hnodup.filter _) hsub).length_le
    rw [List.length_singleton] at this
    omega
  · rintro ⟨p, hp, hne, hkey⟩
    have hsub : [leader, p] ⊆ partitions.filter fun q => key leader == key q := fun q hq => by
      simp only [List.mem_cons, List.not_mem_nil, or_false] at hq
      rcases hq with rfl | rfl
      · simpa using hmem
      · simpa [hkey] using hp
    have hpair : [leader, p].Nodup := by simpa using Ne.symm hne
    exact (List.subperm_of_subset hpair hsub).length_le

/-- The leading partition has no joint leader exactly if its ring is ahead of all others. -/
theorem lmsLeadingPartition_spec {key : AlgoPartition → Int} {ringKey : TlvRingId → Int}
    {clients : List QnetdClient} {partitions : List AlgoPartition}
    (h : PartitionsOf clients partitions) (hkey : ∀ p ∈ partitions, key p = ringKey p.ringId)
    (hne : partitions ≠ []) :
    ∃ leader, lmsLeadingPartition key partitions = some leader ∧
      (lmsJointLeader key leader partitions = false →
        LeadsAlone ringKey clients leader.ringId) ∧
      (lmsJointLeader key leader partitions = true →
        ∀ ring, ¬ LeadsAlone ringKey clients ring) := by
  obtain ⟨leader, hleader⟩ : ∃ leader, partitions.argmax key = some leader :=
    Option.ne_none_iff_exists'.mp fun hnone => hne (List.argmax_eq_none.mp hnone)
  have hmem : leader ∈ partitions := List.argmax_mem hleader
  have hrings : ∀ ring, ring ∈ ringsOf clients ↔ ∃ p ∈ partitions, p.ringId = ring := fun ring => by
    rw [mem_ringsOf, ← h.rings, List.mem_map]
  have hinj : ∀ p ∈ partitions, ∀ q ∈ partitions, p.ringId = q.ringId → p = q :=
    fun p hp q hq hring => List.inj_on_of_nodup_map h.nodup hp hq hring
  have hjoint : lmsJointLeader key leader partitions = true ↔ _ :=
    lmsJointLeader_iff (List.Nodup.of_map _ h.nodup) hmem
  refine ⟨leader, by rw [lmsLeadingPartition_eq_argmax, hleader], fun hfalse => ?_,
    fun htrue ring halone => ?_⟩
  · refine ⟨(hrings _).mpr ⟨leader, hmem, rfl⟩, fun ring hring hneq => ?_⟩
    obtain ⟨p, hp, rfl⟩ := (hrings ring).mp hring
    rw [← hkey p hp, ← hkey leader hmem]
    refine lt_of_le_of_ne (List.le_of_mem_argmax hp hleader) fun heq => ?_
    rw [hjoint.mpr ⟨p, hp, fun hpl => hneq (by rw [hpl]), heq⟩] at hfalse
    cases hfalse
  · -- the ring ahead of all others would be the leader's, but somebody shares its value
    obtain ⟨q, hq, rfl⟩ := (hrings ring).mp halone.1
    have hahead : ∀ p ∈ partitions, p ≠ q → key p < key q := fun p hp hpq => by
      rw [hkey p hp, hkey q hq]
      exact halone.2 p.ringId ((hrings _).mpr ⟨p, hp, rfl⟩) fun hring => hpq (hinj p hp q hq hring)
    obtain ⟨p, hp, hpl, heq⟩ := hjoint.mp htrue
    have hle := List.le_of_mem_argmax hq hleader
    by_cases hql : leader = q
    · subst hql
      exact absurd heq (ne_of_lt (hahead p hp hpl))
    · exact absurd (hahead leader hmem hql) (not_lt_of_ge hle)

end Qdevice.Qnetd
