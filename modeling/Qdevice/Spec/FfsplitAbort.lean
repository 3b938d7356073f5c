import Qdevice.Spec.FfsplitEvents

/-! # When an ffsplit cluster aborts the server

A decision of ffsplit aborts only where a partition with neither a configuration nor a membership
list has to be compared by the tie-breaker.  Three of the four callbacks that decide reject or put
off such lists; the fourth, the disconnect of another client, does not.  `ffsplit_abort_iff` says
exactly which disconnects hit the assertion. -/

namespace Qdevice.Qnetd

/-! ### One comparison -/

/-- The tie-breaker answers unless the configuration is empty and it has to look there. -/
theorem ffsplitIsPreferredPartition_ok {client : QnetdClient} {config : NodeList}
    (membership : NodeList)
    (hmode : client.tieBreaker.mode ≠ .unset)
    (h : config ≠ [] ∨ client.tieBreaker.mode = .nodeId) :
    ∃ preferred, ffsplitIsPreferredPartition client config membership = .ok preferred := by
  simp only [ffsplitIsPreferredPartition]
  cases hm : client.tieBreaker.mode with
  | unset => exact absurd hm hmode
  | nodeId => exact ⟨_, rfl⟩
  | lowest | highest =>
    cases config with
    | nil => simp [hm] at h
    | cons first rest => exact ⟨_, rfl⟩

/-- Some client of the cluster is counted for the candidate. -/
def Counted (cluster : QnetdCluster) (cand : FfsplitCandidate) : Prop :=
  0 < (ffsplitGetActiveClientsInPartitionStats cluster (some cand)).noClients

/-- Counting goes on from what was counted. -/
private theorem foldl_noClients (cluster : QnetdCluster)
    (f : FfsplitPartitionStats → TlvNodeInfo → FfsplitPartitionStats)
    (hf : ∀ stats n, (f stats n).noClients =
      stats.noClients + if (qnetdClusterFindClientByNodeId cluster n.nodeId).isSome then 1 else 0)
    (nodes : NodeList) (stats : FfsplitPartitionStats) :
    (nodes.foldl f stats).noClients = stats.noClients + nodes.countP fun n =>
      (qnetdClusterFindClientByNodeId cluster n.nodeId).isSome := by
  induction nodes generalizing stats with
  | nil => simp
  | cons n rest ih =>
    rw [List.foldl_cons, ih, hf, List.countP_cons]
    omega

/-- The counted clients are the nodes of the list that are connected. -/
theorem noClients_eq (cluster : QnetdCluster) (cand : FfsplitCandidate) :
    (ffsplitGetActiveClientsInPartitionStats cluster (some cand)).noClients =
      cand.membershipNodeList.countP fun n =>
        (qnetdClusterFindClientByNodeId cluster n.nodeId).isSome := by
  simp only [ffsplitGetActiveClientsInPartitionStats]
  rw [foldl_noClients cluster _ (fun stats n => ?_)]
  · simp
  · split <;> simp_all

/-- A client that reports itself is counted for its own partition. -/
theorem counted_of_hasNode {cluster : QnetdCluster} {cand : FfsplitCandidate}
    (hmem : cand.client ∈ cluster.clientList)
    (hnode : cand.membershipNodeList.HasNode cand.client.nodeId) : Counted cluster cand := by
  obtain ⟨n, hn, hid⟩ := hnode
  rw [Counted, noClients_eq, List.countP_pos_iff]
  refine ⟨n, hn, ?_⟩
  simp only [qnetdClusterFindClientByNodeId, List.find?_isSome]
  exact ⟨cand.client, hmem, by simp [hid]⟩

section Compare

variable (cluster : QnetdCluster) {cand : FfsplitCandidate} (best : Option FfsplitCandidate)
  (quorate : NodeList) (keep : Bool)

/-- With a configuration list a comparison gives an answer. -/
theorem ffsplitPartitionCmp_ok (hmode : cand.client.tieBreaker.mode ≠ .unset)
    (h : cand.configNodeList ≠ [] ∨ cand.client.tieBreaker.mode = .nodeId) :
    ∃ better, ffsplitPartitionCmp cluster cand best quorate keep = .ok better := by
  obtain ⟨preferred, hpreferred⟩ := ffsplitIsPreferredPartition_ok
    cand.membershipNodeList hmode h
  have hres : ∃ better, ffsplitPartitionCmpRes cluster cand best quorate keep =
      .ok (some better) := by
    simp only [ffsplitPartitionCmpRes, hpreferred]
    repeat' split
    all_goals exact ⟨_, rfl⟩
  obtain ⟨better, hres⟩ := hres
  exact ⟨better, by simp only [ffsplitPartitionCmp, hres]⟩

/-- Without one, a partition with members is taken. -/
theorem ffsplitPartitionCmp_members (hconfig : cand.configNodeList = [])
    (hmembers : cand.membershipNodeList ≠ []) :
    ffsplitPartitionCmp cluster cand best quorate keep = .ok true := by
  have hlen : 0 < cand.membershipNodeList.length := List.length_pos_iff.mpr hmembers
  simp [ffsplitPartitionCmp, ffsplitPartitionCmpRes, nodeListSize, hconfig, hlen]

/-- Without a list at all, a candidate loses against one that some client is counted for. -/
theorem ffsplitPartitionCmp_counted {b : FfsplitCandidate} (hconfig : cand.configNodeList = [])
    (hmembers : cand.membershipNodeList = []) (hbest : Counted cluster b) :
    ffsplitPartitionCmp cluster cand (some b) quorate keep = .ok false := by
  have hstats : ffsplitGetActiveClientsInPartitionStats cluster (some cand) = {} := by
    simp [ffsplitGetActiveClientsInPartitionStats, hmembers]
  have hzero : FfsplitPartitionStats.score {} = 0 := by decide
  simp only [Counted] at hbest
  simp only [ffsplitPartitionCmp, ffsplitPartitionCmpRes, nodeListSize, hconfig, hmembers, hstats]
  generalize ffsplitGetActiveClientsInPartitionStats cluster (some b) = stats at *
  have hnot : ¬ (FfsplitPartitionStats.score {} > stats.score) := by
    rw [hzero]
    exact UInt64.not_lt_zero
  simp only [List.length_nil, Nat.zero_mod, ne_eq, not_true_eq_false, if_false, Nat.zero_div,
    Nat.lt_irrefl, if_neg hnot]
  by_cases hlt : FfsplitPartitionStats.score {} < stats.score
  · simp [hlt]
  · have hle : ¬ stats.noClients < 0 := Nat.not_lt_zero _
    simp [hlt, hbest]

/-- Against nobody, the tie-breaker is asked, and asserts that there is a configuration. -/
theorem ffsplitPartitionCmp_bare (hconfig : cand.configNodeList = [])
    (hmembers : cand.membershipNodeList = []) (hmode : cand.client.tieBreaker.mode ≠ .unset) :
    ffsplitPartitionCmp cluster cand none quorate keep =
      if cand.client.tieBreaker.mode = .nodeId then .ok false else .error .assertFailed := by
  have hstats : ffsplitGetActiveClientsInPartitionStats cluster (some cand) =
      ffsplitGetActiveClientsInPartitionStats cluster none := by
    simp [ffsplitGetActiveClientsInPartitionStats, hmembers]
  cases hm : cand.client.tieBreaker.mode <;>
    simp_all [ffsplitPartitionCmp, ffsplitPartitionCmpRes, nodeListSize,
      ffsplitIsPreferredPartition, nodeListFindNodeId]

end Compare

/-! ### The selection -/

section Select

variable (cluster : QnetdCluster) (quorate : NodeList) (keep : Bool)

/-- Candidates with a configuration list are all compared without an abort. -/
theorem ffsplitBestCandidate_ok {cands : List FfsplitCandidate} (best : Option FfsplitCandidate)
    (hcands : ∀ cand ∈ cands, cand.client.tieBreaker.mode ≠ .unset ∧
      (cand.configNodeList ≠ [] ∨ cand.client.tieBreaker.mode = .nodeId)) :
    ∃ best', ffsplitBestCandidate cluster quorate keep best cands = .ok best' := by
  induction cands generalizing best with
  | nil => exact ⟨best, rfl⟩
  | cons cand rest ih =>
    obtain ⟨hmode, hconfig⟩ := hcands cand (List.mem_cons_self ..)
    obtain ⟨better, hcmp⟩ := ffsplitPartitionCmp_ok cluster best quorate keep hmode hconfig
    simp only [ffsplitBestCandidate, hcmp]
    exact ih _ fun c hc => hcands c (List.mem_cons_of_mem _ hc)

/-- So are candidates without one, once the best is a partition that a client is counted for. -/
theorem ffsplitBestCandidate_counted {cands : List FfsplitCandidate} {b : FfsplitCandidate}
    (hbest : Counted cluster b)
    (hcands : ∀ cand ∈ cands, cand.configNodeList = [] ∧
      (cand.membershipNodeList ≠ [] → Counted cluster cand)) :
    ∃ best', ffsplitBestCandidate cluster quorate keep (some b) cands = .ok best' := by
  induction cands generalizing b with
  | nil => exact ⟨some b, rfl⟩
  | cons cand rest ih =>
    obtain ⟨hconfig, hcounted⟩ := hcands cand (List.mem_cons_self ..)
    have hrest : ∀ c ∈ rest, c.configNodeList = [] ∧ (c.membershipNodeList ≠ [] →
        Counted cluster c) := fun c hc => hcands c (List.mem_cons_of_mem _ hc)
    simp only [ffsplitBestCandidate]
    by_cases hmembers : cand.membershipNodeList = []
    · rw [ffsplitPartitionCmp_counted cluster quorate keep hconfig hmembers hbest]
      exact ih hbest hrest
    · rw [ffsplitPartitionCmp_members cluster _ quorate keep hconfig hmembers]
      exact ih (hcounted hmembers) hrest

/-- Among candidates without a configuration list everything depends on the first. -/
theorem ffsplitBestCandidate_error_iff {cands : List FfsplitCandidate} {abort : Abort}
    (hcands : ∀ cand ∈ cands, cand.configNodeList = [] ∧
      (cand.membershipNodeList ≠ [] → Counted cluster cand))
    (hmode : ∀ cand ∈ cands, cand.client.tieBreaker.mode ≠ .unset)
    (hsame : ∀ c ∈ cands, ∀ d ∈ cands, c.client.tieBreaker.mode = d.client.tieBreaker.mode) :
    ffsplitBestCandidate cluster quorate keep none cands = .error abort ↔
      abort = .assertFailed ∧ ∃ cand ∈ cands.head?, cand.membershipNodeList = [] ∧
        cand.client.tieBreaker.mode ≠ .nodeId := by
  cases cands with
  | nil => simp [ffsplitBestCandidate]
  | cons cand rest =>
    have hmem : cand ∈ cand :: rest := List.mem_cons_self ..
    obtain ⟨hconfig, hcounted⟩ := hcands cand hmem
    have hrest : ∀ c ∈ rest, c ∈ cand :: rest := fun c hc => List.mem_cons_of_mem _ hc
    simp only [ffsplitBestCandidate, List.head?_cons, Option.mem_some_iff, exists_eq_left']
    by_cases hmembers : cand.membershipNodeList = []
    · rw [ffsplitPartitionCmp_bare cluster quorate keep hconfig hmembers (hmode cand hmem)]
      by_cases hnode : cand.client.tieBreaker.mode = .nodeId
      · -- all clients have the same tie-breaker, so nobody asks for a configuration
        obtain ⟨best', hok⟩ := ffsplitBestCandidate_ok cluster quorate keep none fun c hc =>
            ⟨hmode c (hrest c hc), .inr ((hsame c (hrest c hc) cand hmem).trans hnode)⟩
        simp [hnode, hok]
      · simp [hnode, hmembers, eq_comm]
    · rw [ffsplitPartitionCmp_members cluster _ quorate keep hconfig hmembers]
      obtain ⟨best', hok⟩ := ffsplitBestCandidate_counted cluster quorate keep
        (hcounted hmembers) fun c hc => hcands c (hrest c hc)
      simp [hok, hmembers]

end Select

/-! ### The decision -/

section Decide

variable {env : Env} {cluster : QnetdCluster} {client : QnetdClient} {leaving : Bool}
  {ringId : TlvRingId} {config membership : NodeList} {heuristics : TlvHeuristics} {abort : Abort}

/-- A decision aborts only while the best candidate is searched for. -/
theorem ffsplitDo_error_iff :
    ffsplitDo env cluster client leaving ringId config membership heuristics = .error abort ↔
      ffsplitIsMembershipStable cluster client leaving ringId config membership = true ∧
        ffsplitSelectPartition (cluster.setClusterState .waitingForStableMembership) client leaving
          config membership heuristics = .error abort := by
  have hstable : ffsplitIsMembershipStable (cluster.setClusterState .waitingForStableMembership)
      client leaving ringId config membership =
      ffsplitIsMembershipStable cluster client leaving ringId config membership := rfl
  simp only [ffsplitDo, hstable]
  cases ffsplitIsMembershipStable cluster client leaving ringId config membership with
  | false => simp
  | true =>
    simp only [true_and, Bool.true_eq_false, if_false]
    cases ffsplitSelectPartition (cluster.setClusterState .waitingForStableMembership) client
      leaving config membership heuristics with
    | error abort' => simp
    | ok selected =>
      cases selected with
      | none => simp
      | some list =>
        simp only
        split <;> simp

/-- The configuration list that counts for a client in a decision. -/
def configOf (client : QnetdClient) (config : NodeList) (c : QnetdClient) : NodeList :=
  if c.nodeId = client.nodeId then config else c.configurationNodeList

/-- In a stable membership the nodes of one configuration are in all others. -/
theorem config_of_stable
    (h : ffsplitIsMembershipStable cluster client leaving ringId config membership = true)
    {c d : QnetdClient} (hc : c ∈ cluster.clientList) (hd : d ∈ cluster.clientList)
    (hne : c.id ≠ d.id) (hcstays : ¬ Leaving client leaving c)
    (hdstays : ¬ Leaving client leaving d) :
    configOf client config c ≠ [] → configOf client config d ≠ [] := by
  simp only [ffsplitIsMembershipStable, Bool.and_eq_true] at h
  have hpair := List.all_eq_true.mp (List.all_eq_true.mp h.1 c hc) d hd
  simp only [Leaving] at hcstays hdstays
  simp only [Bool.or_eq_true, Bool.and_eq_true, beq_iff_eq, hne, hcstays, hdstays, false_or,
    List.all_eq_true, nodeListFindNodeId_isSome] at hpair
  intro hnonempty hempty
  obtain ⟨n, hn⟩ := List.exists_mem_of_ne_nil _ hnonempty
  obtain ⟨m, hm, -⟩ := hpair n hn
  simp only [configOf] at hempty
  rw [hempty] at hm
  cases hm

end Decide

/-! ### What the clients have reported -/

/-- A client has reported no members, or itself among them, and INIT has set its tie-breaker. -/
structure Reported (c : QnetdClient) : Prop where
  membership : c.lastMembershipNodeList ≠ [] → c.lastMembershipNodeList.HasNode c.nodeId
  tieBreaker : c.tieBreaker.mode ≠ .unset

theorem Reported.congr {c c' : QnetdClient} (h : Reported c)
    (hmembers : c'.lastMembershipNodeList = c.lastMembershipNodeList)
    (hnode : c'.nodeId = c.nodeId) (htb : c'.tieBreaker = c.tieBreaker) : Reported c' :=
  ⟨by rw [hmembers, hnode]; exact h.membership, by rw [htb]; exact h.tieBreaker⟩

theorem Reported.of_kept {c c' : QnetdClient} (h : Reported c) (hkept : c.kept = c'.kept) :
    Reported c' :=
  h.congr (congrArg Kept.lastMembershipNodeList hkept).symm
    (congrArg (·.fixed.nodeId) hkept).symm (congrArg (·.fixed.tieBreaker) hkept).symm

section Aborts

variable {algorithm : UInt16} {env : Env} {cluster : QnetdCluster} {client : QnetdClient}
  {ringId : TlvRingId} {config membership : NodeList} {heuristics : TlvHeuristics} {abort : Abort}

theorem ffsplitSelectPartition_error_iff {leaving : Bool} :
    ffsplitSelectPartition cluster client leaving config membership heuristics = .error abort ↔
      ffsplitBestCandidate cluster cluster.algorithmData.quoratePartitionNodeList
        (cluster.clientList.all fun iter => iter.keepActivePartitionTieBreaker == .enabled) none
        (ffsplitCandidates cluster client leaving config membership heuristics) = .error abort := by
  simp only [ffsplitSelectPartition]
  split <;> simp_all

theorem ffsplitSelectPartition_ok {leaving : Bool}
    (hcands : ∀ cand ∈ ffsplitCandidates cluster client leaving config membership heuristics,
      cand.client.tieBreaker.mode ≠ .unset ∧
        (cand.configNodeList ≠ [] ∨ cand.client.tieBreaker.mode = .nodeId)) :
    ffsplitSelectPartition cluster client leaving config membership heuristics ≠ .error abort := by
  rw [ne_eq, ffsplitSelectPartition_error_iff]
  obtain ⟨best, hbest⟩ := ffsplitBestCandidate_ok cluster
    cluster.algorithmData.quoratePartitionNodeList
    (cluster.clientList.all fun iter => iter.keepActivePartitionTieBreaker == .enabled) none hcands
  simp [hbest]

/-- A decision in which the sender has a configuration list does not abort. -/
theorem ffsplitDo_ne_error (hreg : Registered algorithm cluster)
    (hreported : ∀ c ∈ cluster.clientList, Reported c) (hclient : client ∈ cluster.clientList)
    (hconfig : config ≠ []) :
    ffsplitDo env cluster client false ringId config membership heuristics ≠ .error abort := by
  intro h
  obtain ⟨hstable, hselect⟩ := ffsplitDo_error_iff.mp h
  refine ffsplitSelectPartition_ok (fun cand hcand => ?_) hselect
  obtain ⟨iter, hiter, hsome⟩ := List.mem_filterMap.mp hcand
  have hiter : iter ∈ cluster.clientList := hiter
  have hclientConfig : configOf client config client ≠ [] := by simpa [configOf] using hconfig
  have hiterConfig : configOf client config iter ≠ [] := by
    by_cases hid : iter.id = client.id
    · rw [hreg.eq_of_id hiter hclient hid]
      exact hclientConfig
    · exact config_of_stable hstable hclient hiter (Ne.symm hid) (by simp [Leaving])
        (by simp [Leaving]) hclientConfig
  have hmode := (hreported iter hiter).tieBreaker
  split at hsome
  · next hnode =>
    simp only [Bool.false_eq_true, if_false, Option.some.injEq] at hsome
    subst hsome
    exact ⟨hmode, .inl hconfig⟩
  · next hnode =>
    cases hsome
    simp only [configOf, if_neg hnode] at hiterConfig
    exact ⟨hmode, .inl hiterConfig⟩

/-- The other clients of a cluster. -/
def otherClients (cluster : QnetdCluster) (id : ClientId) : List QnetdClient :=
  cluster.clientList.filter (·.id ≠ id)

/-- The candidates when a client leaves are the other clients with what they have reported. -/
theorem ffsplitCandidates_leaving (hreg : Registered algorithm cluster)
    (hclient : client ∈ cluster.clientList) :
    ffsplitCandidates cluster client true config membership heuristics =
      (otherClients cluster client.id).map fun c =>
        ⟨c, c.configurationNodeList, c.lastMembershipNodeList, c.lastHeuristics⟩ := by
  simp only [ffsplitCandidates, otherClients, ← List.filterMap_eq_map, List.filterMap_filter]
  refine List.filterMap_congr fun c hc => ?_
  by_cases hid : c.id = client.id
  · simp [hreg.eq_of_id hc hclient hid]
  · have hnode : c.nodeId ≠ client.nodeId := fun hnode =>
      hid (congrArg QnetdClient.id (hreg.eq_of_nodeId hc hclient hnode))
    simp [hid, hnode]

/-- The decision after a disconnect hits the assertion exactly if the membership of the other
    clients is stable and the first of them has reported no list yet; unless the tie-breaker
    names its node. -/
theorem ffsplitDo_leaving_error_iff (env : Env) (ringId : TlvRingId) (config membership : NodeList)
    (heuristics : TlvHeuristics) (abort : Abort) (hreg : Registered algorithm cluster)
    (hreported : ∀ c ∈ cluster.clientList, Reported c) (hclient : client ∈ cluster.clientList) :
    ffsplitDo env cluster client true ringId config membership heuristics = .error abort ↔
      abort = .assertFailed ∧
        ffsplitIsMembershipStable cluster client true ringId config membership = true ∧
        ∃ c ∈ (otherClients cluster client.id).head?, c.configurationNodeList = [] ∧
          c.lastMembershipNodeList = [] ∧ c.tieBreaker.mode ≠ .nodeId := by
  have hmem : ∀ c ∈ otherClients cluster client.id, c ∈ cluster.clientList ∧ c.id ≠ client.id :=
    fun c hc => by simpa [otherClients] using hc
  have hnode : ∀ c ∈ otherClients cluster client.id, c.nodeId ≠ client.nodeId := fun c hc hnode =>
    (hmem c hc).2 (congrArg QnetdClient.id (hreg.eq_of_nodeId (hmem c hc).1 hclient hnode))
  have hcands : ffsplitCandidates (cluster.setClusterState .waitingForStableMembership) client true
      config membership heuristics = (otherClients cluster client.id).map fun c =>
        ⟨c, c.configurationNodeList, c.lastMembershipNodeList, c.lastHeuristics⟩ :=
    (ffsplitCandidates_leaving hreg hclient :
      ffsplitCandidates cluster client true config membership heuristics = _)
  rw [ffsplitDo_error_iff]
  -- the configurations of the others are all empty or all not
  have hsame (hstable : ffsplitIsMembershipStable cluster client true ringId config membership = true)
      {c d : QnetdClient} (hc : c ∈ otherClients cluster client.id)
      (hd : d ∈ otherClients cluster client.id) (hempty : d.configurationNodeList = []) :
      c.configurationNodeList = [] := by
    by_cases hid : c.id = d.id
    · rw [hreg.eq_of_id (hmem c hc).1 (hmem d hd).1 hid]
      exact hempty
    · have := config_of_stable hstable (hmem c hc).1 (hmem d hd).1 hid
        (fun h => hnode c hc h.1) (fun h => hnode d hd h.1)
      simp only [configOf, if_neg (hnode c hc), if_neg (hnode d hd), hempty, ne_eq,
        not_true_eq_false, imp_false, Decidable.not_not] at this
      exact this
  by_cases hstable : ffsplitIsMembershipStable cluster client true ringId config membership = true
  · cases hothers : otherClients cluster client.id with
    | nil => simp [ffsplitSelectPartition_error_iff, hcands, hothers, ffsplitBestCandidate]
    | cons first rest =>
      have hfirst : first ∈ otherClients cluster client.id := by simp [hothers]
      by_cases hempty : first.configurationNodeList = []
      · rw [ffsplitSelectPartition_error_iff, hcands, ffsplitBestCandidate_error_iff]
        · simp [hstable, hothers, hempty]
        · intro cand hcand
          obtain ⟨c, hc, rfl⟩ := List.mem_map.mp hcand
          exact ⟨hsame hstable hc hfirst hempty, fun hmembers => counted_of_hasNode (hmem c hc).1
            ((hreported c (hmem c hc).1).membership hmembers)⟩
        · intro cand hcand
          obtain ⟨c, hc, rfl⟩ := List.mem_map.mp hcand
          exact (hreported c (hmem c hc).1).tieBreaker
        · intro cand hcand cand' hcand'
          obtain ⟨c, hc, rfl⟩ := List.mem_map.mp hcand
          obtain ⟨d, hd, rfl⟩ := List.mem_map.mp hcand'
          exact tlvTieBreakerEq_mode (hreg.tieBreaker c (hmem c hc).1 d (hmem d hd).1)
      · have hok : ffsplitSelectPartition (cluster.setClusterState .waitingForStableMembership)
            client true config membership heuristics ≠ .error abort := by
          refine ffsplitSelectPartition_ok fun cand hcand => ?_
          rw [hcands] at hcand
          obtain ⟨c, hc, rfl⟩ := List.mem_map.mp hcand
          exact ⟨(hreported c (hmem c hc).1).tieBreaker,
            .inl fun hc' => hempty (hsame hstable hfirst hc hc')⟩
        simp [hok, hempty]
  · simp [hstable]

end Aborts

/-! ### Runs -/

/-- The tie-breaker of an INIT is one the decoder accepts. -/
def TieBreakerDecoded : ClusterEvent → Prop
  | .init _ msg => ∀ tieBreaker ∈ msg.tieBreaker, tieBreaker.mode ≠ .unset
  | .message .. | .algoTimer _ | .disconnect .. => True

instance : DecidablePred TieBreakerDecoded
  | .init _ msg =>
    inferInstanceAs (Decidable (∀ tieBreaker ∈ msg.tieBreaker, tieBreaker.mode ≠ .unset))
  | .message .. | .algoTimer _ | .disconnect .. => isTrue trivial

/-- A write that keeps the lists, or empties them, or stores a list with the client in it. -/
private theorem reported_modifyClient {cluster : QnetdCluster} {id : ClientId}
    {f : QnetdClient → QnetdClient} (hreported : ∀ c ∈ cluster.clientList, Reported c)
    (hf : ∀ c ∈ cluster.clientList, c.id = id → Reported c → Reported (f c)) :
    ∀ c ∈ (cluster.modifyClient id f).clientList, Reported c := by
  intro c' hc'
  obtain ⟨c, hc, ⟨hid, rfl⟩ | ⟨-, rfl⟩⟩ := mem_modifyClient hc'
  · exact hf c hc hid (hreported c hc)
  · exact hreported _ hc

/-- ffsplit only accepts a membership list with its sender in it. -/
private theorem hasNode_of_membership {env : Env} {cluster : QnetdCluster} {client : QnetdClient}
    {ringId : TlvRingId} {nodes : NodeList} {heuristics : TlvHeuristics} {result : AlgoResult}
    (halgorithm : client.decisionAlgorithm = TlvDecisionAlgorithmType.ffsplit.toUInt16)
    (h : AlgoCall.run env cluster client (.membership ringId nodes heuristics) = .ok result)
    (hcode : result.replyErrorCode = .noError) : nodes.HasNode client.nodeId := by
  simp only [AlgoCall.run, qnetdAlgorithmMembershipNodeListReceived, halgorithm,
    qnetdAlgorithmArray_ffsplit, ffsplitMembershipNodeListReceived] at h
  split at h
  · cases h
    cases hcode
  · split at h
    · cases h
      cases hcode
    · next hfound =>
      refine (nodeListFindNodeId_isSome _ _).mp ?_
      simpa [Option.isSome_iff_ne_none] using hfound

theorem reported_clusterMessage {settings : Settings} {env : Env} {cluster cluster' : QnetdCluster}
    {id : ClientId} {msg : MsgDecoded} {log : List AlgoLog}
    (hreg : Registered TlvDecisionAlgorithmType.ffsplit.toUInt16 cluster)
    (hreported : ∀ c ∈ cluster.clientList, Reported c)
    (h : clusterMessage settings env cluster id msg = .ok (cluster', log)) :
    ∀ c ∈ cluster'.clientList, Reported c := by
  rcases clusterMessage_cases hreg.ids h with
    ⟨rfl, -⟩ | ⟨client, type, res, hclient, -, htype, hcase, -, rfl⟩
  · exact hreported
  · have huniq := hreg.client?_eq hclient
    have hmem := client?_mem hclient
    suffices hres : ∀ c ∈ res.cluster.clientList, Reported c by
      split
      · exact reported_modifyClient hres fun c _ _ hc => hc.congr rfl rfl rfl
      · exact hres
    cases hcase with
    | same hcluster hlog => rw [hcluster]; exact hreported
    | preinit htype name pre hname hpre hcluster hlog =>
      rw [hcluster]
      exact reported_modifyClient hreported fun c hc hid _ => (hreported client hmem).congr rfl rfl rfl
    | starttls htype hpre cert hcluster hlog =>
      rw [hcluster]
      exact reported_modifyClient hreported fun c hc hid _ => (hreported client hmem).congr rfl rfl rfl
    | quiet client' htls hb dpd keep hcluster hlog =>
      rw [hcluster]
      refine reported_modifyClient hreported fun c hc hid _ => ?_
      rcases checkTls_success htls with rfl | ⟨_, _, _, _, _, rfl⟩
      · exact (hreported _ hmem).congr rfl rfl rfl
      · exact (hreported client hmem).congr rfl rfl rfl
    | call client' htls hinit call result hcall hrun hafter hlog =>
      -- The sender passes the TLS check, the algorithm runs, and then the list is stored.
      have htlsReported : ∀ c ∈ (cluster.modifyClient client.id fun _ => client').clientList,
          Reported c := by
        refine reported_modifyClient hreported fun c hc hid _ => ?_
        rcases checkTls_success htls with rfl | ⟨_, _, _, _, _, rfl⟩
        · exact hreported _ hmem
        · exact (hreported client hmem).congr rfl rfl rfl
      have hrunReported : ∀ c ∈ result.cluster.clientList, Reported c := by
        intro c' hc'
        obtain ⟨c, hc, hkept⟩ := (AlgoCall.sameKept_run hrun).exists_mem hc'
        exact (htlsReported c hc).of_kept hkept
      have hnodeId : ∀ c ∈ result.cluster.clientList, c.id = client'.id →
          c.nodeId = client'.nodeId := by
        intro c' hc' hid
        obtain ⟨c, hc, hkept⟩ := (AlgoCall.sameKept_run hrun).exists_mem hc'
        have hreg₁ := hreg.of_same (sameRegistration_write huniq (checkTls_registration htls))
        have hmem' : client' ∈ (cluster.modifyClient client.id fun _ => client').clientList :=
          List.mem_map.mpr ⟨client, hmem, by simp⟩
        have heq := hreg₁.eq_of_id hc hmem' ((congrArg (·.fixed.id) hkept).trans hid)
        exact (congrArg (·.fixed.nodeId) hkept).symm.trans (congrArg QnetdClient.nodeId heq)
      cases hafter with
      | failed hcode hcluster => rw [hcluster]; exact hrunReported
      | stored hcode hcluster =>
        rw [hcluster]
        refine reported_modifyClient hrunReported fun c hc hid hrep => ?_
        cases call with
        | membership ringId nodes heuristics =>
          refine ⟨fun _ => ?_, hrep.tieBreaker⟩
          have halg : client'.decisionAlgorithm = TlvDecisionAlgorithmType.ffsplit.toUInt16 :=
            (checkTls_ballot htls).2.2.trans (hreg.algorithm client hmem)
          -- ffsplit accepts a membership only if the sender is in it.
          have hnode := hasNode_of_membership halg hrun hcode
          rw [← hnodeId c hc hid] at hnode
          exact hnode
        | config | quorum | askForVote | voteInfoReply | heuristicsChange =>
          exact hrep.congr rfl rfl rfl
      | emptied hcode hdisconnect hcluster =>
        rw [hcluster]
        refine reported_modifyClient hrunReported fun c hc hid hrep => ?_
        cases call with
        | membership => exact ⟨fun h => absurd rfl h, hrep.tieBreaker⟩
        | config | quorum | askForVote | voteInfoReply | heuristicsChange =>
          exact hrep.congr rfl rfl rfl

theorem reported_clusterStep {settings : Settings} {env : Env} {cluster cluster' : QnetdCluster}
    {event : ClusterEvent} {log : List AlgoLog}
    (hreg : Registered TlvDecisionAlgorithmType.ffsplit.toUInt16 cluster)
    (hreported : ∀ c ∈ cluster.clientList, Reported c) (hdecoded : TieBreakerDecoded event)
    (h : clusterStep settings env cluster event = .ok (cluster', log)) :
    ∀ c ∈ cluster'.clientList, Reported c := by
  cases event with
  | init conn msg =>
    cases h
    rcases clusterInit_cases settings cluster conn msg with
      hsame | ⟨joined, -, hfresh, -, -, htb, -, -, hjoin⟩
    · rw [hsame]
      exact hreported
    · rw [hjoin]
      refine reported_modifyClient (fun c' hc' => ?_) fun c _ _ hc => hc.congr rfl rfl rfl
      obtain ⟨c, hc, hkept⟩ := (sameKept_qnetdAlgorithmClientInit _ _).exists_mem hc'
      refine Reported.of_kept ?_ hkept
      rcases mem_insertClient.mp hc with rfl | hc
      · exact ⟨fun h => absurd hfresh.lastMembershipNodeList h, hdecoded _ htb⟩
      · exact hreported c hc
  | message id msg => exact reported_clusterMessage hreg hreported h
  | algoTimer id =>
    simp only [clusterStep, clusterAlgoTimer] at h
    split at h
    · cases h
      exact hreported
    · split at h
      · cases h
        exact hreported
      · split at h
        · cases h
        · next res hres =>
          cases h
          intro c' hc'
          obtain ⟨c, hc, hkept⟩ := (sameKept_qnetdClientAlgoTimerCallback hres).exists_mem hc'
          exact (hreported c hc).of_kept hkept
  | disconnect id down =>
    rcases clusterDisconnect_cases h with ⟨rfl, -⟩ | ⟨client, res, -, hres, -, rfl⟩
    · exact hreported
    · intro c' hc'
      have hsame : SameKept cluster res.cluster := by
        split at hres
        · exact sameKept_qnetdAlgorithmClientDisconnect hres
        · cases hres; rfl
      obtain ⟨c, hc, hkept⟩ := hsame.exists_mem (List.mem_filter.mp hc').1
      exact (hreported c hc).of_kept hkept

/-- INITs ask for ffsplit and carry a decoded tie-breaker. -/
def FfsplitClusterOk (_ : QnetdCluster) (e : Env × ClusterEvent) : Prop :=
  UsesAlgorithm .ffsplit e.2 ∧ TieBreakerDecoded e.2

instance (cluster : QnetdCluster) (e : Env × ClusterEvent) :
    Decidable (FfsplitClusterOk cluster e) :=
  inferInstanceAs (Decidable (UsesAlgorithm .ffsplit e.2 ∧ TieBreakerDecoded e.2))

theorem reported_of_reach {settings : Settings} {id : ClusterId} {name : List UInt8}
    {cluster : QnetdCluster} (h : (clusterMachine settings id name).Reach FfsplitClusterOk cluster) :
    Registered TlvDecisionAlgorithmType.ffsplit.toUInt16 cluster ∧
      ∀ c ∈ cluster.clientList, Reported c := by
  refine h.invariant (fun cluster => Registered TlvDecisionAlgorithmType.ffsplit.toUInt16 cluster ∧
    ∀ c ∈ cluster.clientList, Reported c) ⟨registered_empty _ id name,
      by simp [clusterMachine, emptyCluster]⟩ ?_
  intro s s' e _ hinv hok hstep
  simp only [clusterMachine] at hstep
  split at hstep
  · cases hstep
  · next hstep' =>
    cases hstep
    exact ⟨registered_clusterStep hinv.1 hok.1 hstep', reported_clusterStep hinv.1 hinv.2 hok.2 hstep'⟩

/-- A client disconnects from a stable cluster, and the first of the others has reported neither a
    configuration nor a membership list; unless the tie-breaker names its node. -/
def LeavesUnreported (cluster : QnetdCluster) : ClusterEvent → Prop
  | .disconnect id serverGoingDown => serverGoingDown = false ∧
      ∃ client ∈ cluster.client? id,
        ffsplitIsMembershipStable cluster client true client.lastRingId client.configurationNodeList
          client.lastMembershipNodeList = true ∧
        ∃ c ∈ (otherClients cluster id).head?, c.configurationNodeList = [] ∧
          c.lastMembershipNodeList = [] ∧ c.tieBreaker.mode ≠ .nodeId
  | .init .. | .message .. | .algoTimer _ => False

instance (cluster : QnetdCluster) : DecidablePred (LeavesUnreported cluster)
  | .disconnect id serverGoingDown => inferInstanceAs (Decidable (serverGoingDown = false ∧
      ∃ client ∈ cluster.client? id,
        ffsplitIsMembershipStable cluster client true client.lastRingId client.configurationNodeList
          client.lastMembershipNodeList = true ∧
        ∃ c ∈ (otherClients cluster id).head?, c.configurationNodeList = [] ∧
          c.lastMembershipNodeList = [] ∧ c.tieBreaker.mode ≠ .nodeId))
  | .init .. | .message .. | .algoTimer _ => isFalse id

/-- A callback that is not a disconnect does not abort: its guards keep empty lists away. -/
theorem AlgoCall.run_ne_error {env : Env} {cluster : QnetdCluster} {client : QnetdClient}
    {call : AlgoCall} {abort : Abort}
    (hreg : Registered TlvDecisionAlgorithmType.ffsplit.toUInt16 cluster)
    (hreported : ∀ c ∈ cluster.clientList, Reported c) (hclient : client ∈ cluster.clientList) :
    call.run env cluster client ≠ .error abort := by
  have halgorithm := hreg.algorithm client hclient
  intro h
  cases call with
  | config nodes version initial =>
    simp only [run, qnetdAlgorithmConfigNodeListReceived, halgorithm, qnetdAlgorithmArray_ffsplit,
      ffsplitConfigNodeListReceived] at h
    split at h
    · cases h
    · next hsize =>
      split at h
      · cases h
      · split at h
        · cases h
        · exact ffsplitDo_ne_error hreg hreported hclient
            (fun hempty => hsize (by simp [hempty, nodeListSize])) h
  | membership ringId nodes heuristics =>
    simp only [run, qnetdAlgorithmMembershipNodeListReceived, halgorithm,
      qnetdAlgorithmArray_ffsplit, ffsplitMembershipNodeListReceived] at h
    split at h
    · cases h
    · split at h
      · cases h
      · split at h
        · cases h
        · next hsize =>
          exact ffsplitDo_ne_error hreg hreported hclient
            (fun hempty => hsize (by simp [hempty, nodeListSize])) h
  | quorum nodes =>
    simp only [run, qnetdAlgorithmQuorumNodeListReceived, halgorithm,
      qnetdAlgorithmArray_ffsplit] at h
    cases h
  | askForVote =>
    simp only [run, qnetdAlgorithmAskForVoteReceived, halgorithm, qnetdAlgorithmArray_ffsplit] at h
    cases h
  | voteInfoReply seq => cases h
  | heuristicsChange heuristics =>
    simp only [run, qnetdAlgorithmHeuristicsChangeReceived, halgorithm,
      qnetdAlgorithmArray_ffsplit, ffsplitHeuristicsChangeReceived] at h
    split at h
    · cases h
    · next hsize =>
      exact ffsplitDo_ne_error hreg hreported hclient
        (fun hempty => hsize (.inl (by simp [hempty, nodeListSize]))) h

/-- A disconnect aborts if its decision does; there is none when the server goes down. -/
theorem ffsplitClientDisconnect_error_iff {env : Env} {cluster : QnetdCluster}
    {client : QnetdClient} {down : Bool} {abort : Abort} :
    ffsplitClientDisconnect env cluster client down = .error abort ↔ down = false ∧
      ffsplitDo env cluster client true client.lastRingId client.configurationNodeList
        client.lastMembershipNodeList client.lastHeuristics = .error abort := by
  simp only [ffsplitClientDisconnect]
  cases down with
  | true =>
    simp only [if_true, Bool.true_eq_false, false_and, iff_false]
    split <;> simp
  | false =>
    simp only [Bool.false_eq_true, if_false, true_and]
    cases ffsplitDo env cluster client true client.lastRingId client.configurationNodeList
      client.lastMembershipNodeList client.lastHeuristics with
    | error abort' => simp
    | ok res =>
      simp only
      split <;> simp

theorem clusterMessage_ne_error {settings : Settings} {env : Env} {cluster : QnetdCluster}
    {id : ClientId} {msg : MsgDecoded} {abort : Abort}
    (hreg : Registered TlvDecisionAlgorithmType.ffsplit.toUInt16 cluster)
    (hreported : ∀ c ∈ cluster.clientList, Reported c) :
    clusterMessage settings env cluster id msg ≠ .error abort := by
  intro h
  simp only [clusterMessage] at h
  split at h
  · cases h
  · next client hclient =>
    split at h
    · cases h
    · split at h
      · cases h
      · next handler hhandler =>
        split at h
        · next abort' herror =>
          obtain ⟨type, -, hhandler⟩ := Option.bind_eq_some_iff.mp hhandler
          obtain ⟨client', call, htls, -, hrun⟩ := handler_error hhandler herror
          have hmem := client?_mem hclient
          have huniq := hreg.client?_eq hclient
          refine AlgoCall.run_ne_error
            (hreg.of_same (sameRegistration_write huniq (checkTls_registration htls)))
            (reported_modifyClient hreported fun c hc hid _ => ?_)
            (List.mem_map.mpr ⟨client, hmem, by simp⟩) hrun
          rcases checkTls_success htls with rfl | ⟨_, _, _, _, _, rfl⟩
          · exact hreported _ hmem
          · exact (hreported client hmem).congr rfl rfl rfl
        · cases h

/-- Exactly one kind of event aborts the server, and always by the assertion. -/
theorem clusterStep_error_iff {cluster : QnetdCluster} (settings : Settings) (env : Env)
    (event : ClusterEvent) (abort : Abort)
    (hreg : Registered TlvDecisionAlgorithmType.ffsplit.toUInt16 cluster)
    (hreported : ∀ c ∈ cluster.clientList, Reported c) :
    clusterStep settings env cluster event = .error abort ↔
      abort = .assertFailed ∧ LeavesUnreported cluster event := by
  cases event with
  | init conn msg => simp [clusterStep, LeavesUnreported]
  | message id msg =>
    simp only [clusterStep, LeavesUnreported, and_false, iff_false]
    exact clusterMessage_ne_error hreg hreported
  | algoTimer id =>
    simp only [clusterStep, clusterAlgoTimer, LeavesUnreported, and_false, iff_false]
    split
    · simp
    · next client hclient =>
      split
      · simp
      · simp [qnetdClientAlgoTimerCallback, qnetdAlgorithmTimerCallback,
          hreg.algorithm client (client?_mem hclient), qnetdAlgorithmArray_ffsplit]
  | disconnect id down =>
    simp only [clusterStep, clusterDisconnect, LeavesUnreported]
    cases hclient : cluster.client? id with
    | none => simp
    | some client =>
      have hmem := client?_mem hclient
      have hid := client?_id hclient
      have hdo := ffsplitDo_leaving_error_iff env client.lastRingId client.configurationNodeList
        client.lastMembershipNodeList client.lastHeuristics abort hreg hreported hmem
      simp only [hreg.init client hmem, if_true, qnetdAlgorithmClientDisconnect,
        hreg.algorithm client hmem, qnetdAlgorithmArray_ffsplit, Option.mem_some_iff,
        exists_eq_left']
      rw [hid] at hdo
      rw [and_left_comm, ← hdo, ← ffsplitClientDisconnect_error_iff]
      cases ffsplitClientDisconnect env cluster client down with
      | error abort' => simp
      | ok res => simp

/-- In every reachable state of an ffsplit cluster an event aborts the server exactly if it is such
    a disconnect; the exits for unhandled cases are never reached. -/
theorem ffsplit_abort_iff (settings : Settings) (id : ClusterId) (name : List UInt8)
    {cluster : QnetdCluster}
    (hs : (clusterMachine settings id name).Reach FfsplitClusterOk cluster) (env : Env)
    (event : ClusterEvent) :
    ((∀ abort, clusterStep settings env cluster event ≠ .error abort) ↔
        ¬ LeavesUnreported cluster event) ∧
      clusterStep settings env cluster event ≠ .error .exitFailure := by
  obtain ⟨hreg, hreported⟩ := reported_of_reach hs
  have hiff (abort : Abort) := clusterStep_error_iff settings env event abort hreg hreported
  refine ⟨⟨fun h hleaves => h .assertFailed ((hiff _).mpr ⟨rfl, hleaves⟩), fun h abort herror =>
    h ((hiff abort).mp herror).2⟩, fun herror => ?_⟩
  cases ((hiff _).mp herror).1

/-- Two nodes have sent INIT and nothing else. -/
def twoNodesJoin : List (Env × ClusterEvent) :=
  [(.ok, .init { id := 1, clusterName := [97] } (initMsg .ffsplit ⟨.lowest, 0⟩ 1 ⟨1, 1⟩)),
    (.ok, .init { id := 2, clusterName := [97] } (initMsg .ffsplit ⟨.lowest, 0⟩ 2 ⟨2, 1⟩))]

/-- Once node 2 has sent its configuration, node 1 can leave. -/
theorem ffsplit_abort_iff_configured : ∃ cluster,
    (clusterMachine .plain 0 [97]).execWhile (fun s e => decide (FfsplitClusterOk s e))
      (clusterMachine .plain 0 [97]).init
      (twoNodesJoin ++ [(.ok, .message 2 (configNodeListMsg [1, 2]))]) = some cluster ∧
    ∀ abort, clusterStep .plain .ok cluster (.disconnect 1 false) ≠ .error abort := by
  have hrun : ((clusterMachine .plain 0 [97]).execWhile (fun s e => decide (FfsplitClusterOk s e))
      (clusterMachine .plain 0 [97]).init
      (twoNodesJoin ++ [(.ok, .message 2 (configNodeListMsg [1, 2]))])).any fun cluster =>
        decide (¬ LeavesUnreported cluster (.disconnect 1 false)) := by
    decide +kernel
  simp only [Option.any_eq_true, decide_eq_true_eq] at hrun
  obtain ⟨cluster, hcluster, hleaves⟩ := hrun
  have hreach : (clusterMachine .plain 0 [97]).Reach FfsplitClusterOk cluster :=
    Runs.Machine.Reach.execWhile (fun s e h => of_decide_eq_true h) .init hcluster
  exact ⟨cluster, hcluster,
    (ffsplit_abort_iff .plain 0 [97] hreach .ok (.disconnect 1 false)).1.mpr hleaves⟩

/-- When node 1 leaves before that, the assertion fails. -/
theorem ffsplit_disconnect_aborts : ∃ cluster,
    (clusterMachine .plain 0 [97]).execWhile (fun s e => decide (FfsplitClusterOk s e))
      (clusterMachine .plain 0 [97]).init twoNodesJoin = some cluster ∧
    clusterStep .plain .ok cluster (.disconnect 1 false) = .error .assertFailed := by
  have hrun : ((clusterMachine .plain 0 [97]).execWhile (fun s e => decide (FfsplitClusterOk s e))
      (clusterMachine .plain 0 [97]).init twoNodesJoin).any fun cluster =>
        decide (clusterStep .plain .ok cluster (.disconnect 1 false) = .error .assertFailed) := by
    decide +kernel
  simpa only [Option.any_eq_true, decide_eq_true_eq] using hrun

end Qdevice.Qnetd
