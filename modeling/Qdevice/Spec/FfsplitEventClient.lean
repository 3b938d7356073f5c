import Mathlib.Data.List.Find
import Qdevice.Spec.FfsplitAbort
import Qdevice.Spec.FfsplitChoice

/-! # What an ffsplit decision makes of the client that caused it

A decision is made while the client list still holds what was true before the event: the old
values of the client that sent a message, or the client that is about to leave.  The stability
test masks both.  The counters of `qnetd_algo_ffsplit_get_active_clients_in_partition_stats` and the
scan for the keep-active-partition tie-breaker do not, and this is visible as soon as a partition of
exactly half of the nodes is compared.  `ffsplit_leaving_masked` and `ffsplit_message_as_stored` say
when a decision is nevertheless the one of the cluster after the event. -/

namespace Qdevice.Qnetd

/-! ### Comparisons that look the same -/

/-- A partition of exactly half of the nodes, for which the counters are compared. -/
def FfsplitCandidate.IsHalf (cand : FfsplitCandidate) : Prop :=
  2 * nodeListSize cand.membershipNodeList = nodeListSize cand.configNodeList

/-- A partition that can be the best one. -/
def FfsplitCandidate.CanWin (cand : FfsplitCandidate) : Prop :=
  nodeListSize cand.configNodeList ≤ 2 * nodeListSize cand.membershipNodeList

/-- A comparison cannot tell the candidates apart, their counters aside. -/
structure SameLook (cand cand' : FfsplitCandidate) : Prop where
  config : cand'.configNodeList = cand.configNodeList
  membership : cand'.membershipNodeList = cand.membershipNodeList
  nodeId : cand'.client.nodeId = cand.client.nodeId
  tieBreaker : cand'.client.tieBreaker = cand.client.tieBreaker

theorem SameLook.refl (cand : FfsplitCandidate) : SameLook cand cand := ⟨rfl, rfl, rfl, rfl⟩

/-- More or less than half of the nodes: no client is looked at. -/
theorem ffsplitPartitionCmp_notHalf {cand : FfsplitCandidate} (h : ¬ cand.IsHalf)
    (cluster : QnetdCluster) (best : Option FfsplitCandidate) (quorate : NodeList) (keep : Bool) :
    ffsplitPartitionCmp cluster cand best quorate keep = .ok
      (decide (nodeListSize cand.configNodeList < 2 * nodeListSize cand.membershipNodeList)) := by
  have hres : ffsplitPartitionCmpRes cluster cand best quorate keep = .ok (some
      (decide (nodeListSize cand.configNodeList < 2 * nodeListSize cand.membershipNodeList))) := by
    rw [FfsplitCandidate.IsHalf] at h
    rw [ffsplitPartitionCmpRes]
    dsimp only
    split
    · next hodd =>
      split
      · next hgt => rw [decide_eq_true (by omega)]
      · next hle => rw [decide_eq_false (by omega)]
    · next heven =>
      split
      · next hgt => rw [decide_eq_true (by omega)]
      · next hle => rw [if_pos (by omega), decide_eq_false (by omega)]
  rw [ffsplitPartitionCmp, hres]

/-- What is better than the best one so far can be the best one. -/
theorem canWin_of_better {cand : FfsplitCandidate} {cluster : QnetdCluster}
    {best : Option FfsplitCandidate} {quorate : NodeList} {keep : Bool}
    (h : ffsplitPartitionCmp cluster cand best quorate keep = .ok true) : cand.CanWin := by
  by_cases hhalf : cand.IsHalf
  · exact Nat.le_of_eq hhalf.symm
  · rw [ffsplitPartitionCmp_notHalf hhalf, Except.ok.injEq, decide_eq_true_eq] at h
    exact Nat.le_of_lt h

section Compare

variable {cluster cluster' : QnetdCluster} {keep keep' : Bool}

/-- The counters of both candidates are the same in both clusters. -/
def SameStats (cluster cluster' : QnetdCluster) (cand cand' : FfsplitCandidate) : Prop :=
  ffsplitGetActiveClientsInPartitionStats cluster' (some cand') =
    ffsplitGetActiveClientsInPartitionStats cluster (some cand)

/-- The best candidates of both clusters, as far as a comparison looks at them. -/
def SameBest (cluster cluster' : QnetdCluster) :
    Option FfsplitCandidate → Option FfsplitCandidate → Prop
  | none, none => True
  | some best, some best' => SameLook best best' ∧ SameStats cluster cluster' best best'
  | _, _ => False

/-- Of the client, the last tie-breaker looks at the settings only. -/
theorem SameLook.isPreferred {cand cand' : FfsplitCandidate} (h : SameLook cand cand')
    (config membership : NodeList) :
    ffsplitIsPreferredPartition cand'.client config membership =
      ffsplitIsPreferredPartition cand.client config membership := by
  simp only [ffsplitIsPreferredPartition, h.tieBreaker]

/-- With the same counters, a comparison has the same result; the keep-active-partition
    tie-breaker counts only against another partition. -/
theorem SameLook.partitionCmp {cand cand' : FfsplitCandidate} (h : SameLook cand cand')
    (hstats : SameStats cluster cluster' cand cand') {best best' : Option FfsplitCandidate}
    (hbest : SameBest cluster cluster' best best') (hkeep : best.isSome → keep' = keep)
    (quorate : NodeList) :
    ffsplitPartitionCmp cluster' cand' best' quorate keep' =
      ffsplitPartitionCmp cluster cand best quorate keep := by
  have hres : ffsplitPartitionCmpRes cluster' cand' best' quorate keep' =
      ffsplitPartitionCmpRes cluster cand best quorate keep := by
    rw [SameStats] at hstats
    cases best with
    | none =>
      cases best' with
      | some best' => exact hbest.elim
      | none =>
        have hnone : ffsplitGetActiveClientsInPartitionStats cluster' none =
            ffsplitGetActiveClientsInPartitionStats cluster none := rfl
        simp only [ffsplitPartitionCmpRes, hnone, h.config, h.membership, hstats, h.isPreferred]
    | some best =>
      cases best' with
      | none => exact hbest.elim
      | some best' =>
        obtain ⟨hlook, hbstats⟩ := hbest
        obtain rfl := hkeep rfl
        rw [SameStats] at hbstats
        cases keep' <;>
          simp only [ffsplitPartitionCmpRes, h.config, h.membership, hstats, hbstats,
            h.isPreferred, h.nodeId, hlook.nodeId]
  rw [ffsplitPartitionCmp, ffsplitPartitionCmp, hres]

/-- Two runs of the selection over candidates that look the same: the counters have to agree
    where they are read, which is for a half, and for what can be the best one when a
    half is compared. -/
theorem ffsplitBestCandidate_congr (quorate : NodeList) {α : Type}
    {f g : α → FfsplitCandidate} {clients : List α} (hlook : ∀ e ∈ clients, SameLook (f e) (g e))
    (hself : ∀ e ∈ clients, (f e).IsHalf → SameStats cluster cluster' (f e) (g e))
    (hpairs : clients.Pairwise fun e d => (f e).CanWin → (f d).IsHalf →
      SameStats cluster cluster' (f e) (g e) ∧ keep' = keep)
    {best best' : Option FfsplitCandidate}
    (hbest : best.map (·.membershipNodeList) = best'.map (·.membershipNodeList))
    (hbestHalf : ∀ d ∈ clients, (f d).IsHalf →
      SameBest cluster cluster' best best' ∧ (best.isSome → keep' = keep)) :
    (ffsplitBestCandidate cluster' quorate keep' best' (clients.map g)).map
        (·.map (·.membershipNodeList)) =
      (ffsplitBestCandidate cluster quorate keep best (clients.map f)).map
        (·.map (·.membershipNodeList)) := by
  induction clients generalizing best best' with
  | nil => simp only [List.map_nil, ffsplitBestCandidate, Except.map, hbest]
  | cons e rest ih =>
    have he : e ∈ e :: rest := List.mem_cons_self
    have hrest : ∀ d ∈ rest, d ∈ e :: rest := fun d hd => List.mem_cons_of_mem _ hd
    have hcmp : ffsplitPartitionCmp cluster' (g e) best' quorate keep' =
        ffsplitPartitionCmp cluster (f e) best quorate keep := by
      by_cases hhalf : (f e).IsHalf
      · obtain ⟨hsame, hkeep⟩ := hbestHalf e he hhalf
        exact (hlook e he).partitionCmp (hself e he hhalf) hsame hkeep quorate
      · have hhalf' : ¬ (g e).IsHalf := by
          rwa [FfsplitCandidate.IsHalf, (hlook e he).config, (hlook e he).membership]
        rw [ffsplitPartitionCmp_notHalf hhalf, ffsplitPartitionCmp_notHalf hhalf',
          (hlook e he).config, (hlook e he).membership]
    simp only [List.map_cons, ffsplitBestCandidate, hcmp]
    cases hbetter : ffsplitPartitionCmp cluster (f e) best quorate keep with
    | error abort => rfl
    | ok better =>
      refine ih (fun d hd => hlook d (hrest d hd)) (fun d hd => hself d (hrest d hd))
        (List.pairwise_cons.mp hpairs).2 ?_ fun d hd hhalf => ?_
      · cases better with
        | false => exact hbest
        | true => exact congrArg some (hlook e he).membership.symm
      · cases better with
        | false => exact hbestHalf d (hrest d hd) hhalf
        | true =>
          obtain ⟨hstats, hkeep⟩ := (List.pairwise_cons.mp hpairs).1 d hd
            (canWin_of_better hbetter) hhalf
          exact ⟨⟨hlook e he, hstats⟩, fun _ => hkeep⟩

end Compare

/-! ### The stability test and the selection -/

/-- What a decision finds out before it changes anything: the stability verdict and the partition
    selected. -/
def ffsplitVerdict (cluster : QnetdCluster) (client : QnetdClient) (clientLeaving : Bool)
    (ringId : TlvRingId) (configNodeList membershipNodeList : NodeList)
    (clientHeuristics : TlvHeuristics) : Bool × Except Abort (Option NodeList) :=
  (ffsplitIsMembershipStable cluster client clientLeaving ringId configNodeList membershipNodeList,
    ffsplitSelectPartition cluster client clientLeaving configNodeList membershipNodeList
      clientHeuristics)

/-- The verdict with what is stored for the client. -/
def ffsplitStoredVerdict (cluster : QnetdCluster) (client : QnetdClient) (clientLeaving : Bool) :
    Bool × Except Abort (Option NodeList) :=
  ffsplitVerdict cluster client clientLeaving client.lastRingId client.configurationNodeList
    client.lastMembershipNodeList client.lastHeuristics

theorem ffsplitSelectPartition_eq (cluster : QnetdCluster) (client : QnetdClient) (leaving : Bool)
    (config membership : NodeList) (heuristics : TlvHeuristics) :
    ffsplitSelectPartition cluster client leaving config membership heuristics =
      (ffsplitBestCandidate cluster cluster.algorithmData.quoratePartitionNodeList
        (keepsActivePartition cluster) none
        (ffsplitCandidates cluster client leaving config membership heuristics)).map
        (·.map (·.membershipNodeList)) := by
  simp only [ffsplitSelectPartition, keepsActivePartition]
  split
  · next abort h => rw [h]; rfl
  · next best h => rw [h]; rfl

section Stable

variable {cluster : QnetdCluster} {client : QnetdClient} {leaving : Bool} {ringId : TlvRingId}
  {config membership : NodeList}

/-- The membership list that counts for a client in a decision. -/
def membershipOf (client : QnetdClient) (membership : NodeList) (c : QnetdClient) : NodeList :=
  if c.nodeId = client.nodeId then membership else c.lastMembershipNodeList

/-- What the stability test has found out when it succeeds. -/
structure Stable (cluster : QnetdCluster) (client : QnetdClient) (leaving : Bool)
    (ringId : TlvRingId) (config membership : NodeList) : Prop where
  configs : ∀ c ∈ cluster.clientList, ∀ d ∈ cluster.clientList, c.id ≠ d.id →
    ¬ Leaving client leaving c → ¬ Leaving client leaving d →
    ∀ n ∈ configOf client config c, (configOf client config d).HasNode n.nodeId
  memberships : ∀ c ∈ cluster.clientList, ¬ Leaving client leaving c →
    ∀ n ∈ membershipOf client membership c,
    ∀ d ∈ qnetdClusterFindClientByNodeId cluster n.nodeId, ¬ Leaving client leaving d →
    ringIdToSend client ringId c = ringIdToSend client ringId d ∧
      ∀ m ∈ membershipOf client membership c, (membershipOf client membership d).HasNode m.nodeId

theorem ffsplitIsMembershipStable_iff :
    ffsplitIsMembershipStable cluster client leaving ringId config membership = true ↔
      Stable cluster client leaving ringId config membership := by
  simp only [ffsplitIsMembershipStable, Bool.and_eq_true, List.all_eq_true, Bool.or_eq_true,
    beq_iff_eq, nodeListFindNodeId_isSome]
  constructor
  · rintro ⟨hconfigs, hmemberships⟩
    refine ⟨fun c hc d hd hid hcs hds => ?_, fun c hc hcs n hn d hd hds => ?_⟩
    · rcases hconfigs c hc d hd with ((h | h) | h) | h
      · exact absurd h hid
      · exact absurd h hcs
      · exact absurd h hds
      · exact h
    · have hmatch := (hmemberships c hc).resolve_left hcs n hn
      rw [Option.mem_def.mp hd] at hmatch
      simp only [Bool.or_eq_true, Bool.and_eq_true, beq_iff_eq, tlvRingIdEq_iff,
        List.all_eq_true, nodeListFindNodeId_isSome] at hmatch
      exact hmatch.resolve_left hds
  · intro h
    refine ⟨fun c hc d hd => ?_, fun c hc => ?_⟩
    · rw [or_assoc, or_assoc, or_iff_not_imp_left, or_iff_not_imp_left, or_iff_not_imp_left]
      exact h.configs c hc d hd
    · rw [or_iff_not_imp_left]
      intro hcs n hn
      split
      · rfl
      · next d hd =>
        simp only [Bool.or_eq_true, Bool.and_eq_true, beq_iff_eq, tlvRingIdEq_iff,
          List.all_eq_true, nodeListFindNodeId_isSome, or_iff_not_imp_left]
        exact h.memberships c hc hcs n hn d hd

end Stable

/-- When a client of partition `d` is compared, the best one so far can be `e` or `d` itself. -/
def Compared (e d : QnetdClient) : Prop :=
  e.nodeId ≤ d.nodeId ∧ (storedCandidate e).CanWin ∧ (storedCandidate d).IsHalf

instance (e d : QnetdClient) : Decidable (Compared e d) :=
  inferInstanceAs (Decidable (e.nodeId ≤ d.nodeId ∧
    nodeListSize e.configurationNodeList ≤ 2 * nodeListSize e.lastMembershipNodeList ∧
    2 * nodeListSize d.lastMembershipNodeList = nodeListSize d.configurationNodeList))

/-! ### The cluster after the event -/

/-- The cluster once the client has left, or has new values. -/
def QnetdCluster.afterEvent (cluster : QnetdCluster) (client : QnetdClient)
    (new : Option QnetdClient) : QnetdCluster :=
  { cluster with
    clientList := cluster.clientList.filterMap fun e =>
      if e.nodeId = client.nodeId then new else some e }

/-- The verdict of a decision that is caused by a client, before the event is applied: the new
    values are arguments. -/
def ffsplitEventVerdict (cluster : QnetdCluster) (client : QnetdClient)
    (new : Option QnetdClient) : Bool × Except Abort (Option NodeList) :=
  let values := new.getD client
  ffsplitVerdict cluster client new.isNone values.lastRingId values.configurationNodeList
    values.lastMembershipNodeList values.lastHeuristics

section AfterEvent

variable {algorithm : UInt16} {cluster : QnetdCluster} {client d : QnetdClient}
  {new : Option QnetdClient}

/-- New values are those of the same client. -/
def SameClient (client new : QnetdClient) : Prop :=
  new.id = client.id ∧ new.nodeId = client.nodeId ∧ new.tieBreaker = client.tieBreaker

theorem mem_afterEvent {e' : QnetdClient} :
    e' ∈ (cluster.afterEvent client new).clientList ↔ ∃ e ∈ cluster.clientList,
      (e.nodeId = client.nodeId ∧ new = some e') ∨ (e.nodeId ≠ client.nodeId ∧ e = e') := by
  simp only [QnetdCluster.afterEvent, List.mem_filterMap]
  refine exists_congr fun e => and_congr_right fun _ => ?_
  split
  · next hnode => simp [hnode]
  · next hnode => simp [hnode]

/-- A node is found after the event as it was before, but for the client that has caused it. -/
theorem findClient_afterEvent (hreg : Registered algorithm cluster)
    (hclient : client ∈ cluster.clientList) (hnew : ∀ c ∈ new, SameClient client c)
    (nodeId : UInt32) :
    qnetdClusterFindClientByNodeId (cluster.afterEvent client new) nodeId =
      if nodeId = client.nodeId then new else qnetdClusterFindClientByNodeId cluster nodeId := by
  simp only [qnetdClusterFindClientByNodeId, QnetdCluster.afterEvent, List.find?_filterMap]
  split
  · next hnode =>
    subst hnode
    cases new with
    | none =>
      have hnone : cluster.clientList.find? (fun e => Option.any (fun b =>
          b.nodeId == client.nodeId) (if e.nodeId = client.nodeId then none else some e)) = none := by
        refine List.find?_eq_none.mpr fun e _ => ?_
        split
        · simp
        · next hne => simpa using hne
      rw [hnone]
      rfl
    | some c =>
      have hfind : cluster.clientList.find? (fun e => Option.any (fun b =>
          b.nodeId == client.nodeId) (if e.nodeId = client.nodeId then some c else some e)) =
          some client := by
        rw [← List.find?_key_of_mem (hreg.nodeIds.imp UInt32.ne_of_lt) hclient]
        refine List.find?_congr fun e _ => ?_
        split
        · next hnode => simp [hnode, (hnew c rfl).2.1]
        · simp
      rw [hfind]
      simp
  · next hne =>
    have hsame : cluster.clientList.find? (fun e => Option.any (fun b => b.nodeId == nodeId)
        (if e.nodeId = client.nodeId then new else some e)) =
        cluster.clientList.find? (fun e => e.nodeId == nodeId) := by
      refine List.find?_congr fun e _ => ?_
      split
      · next hnode =>
        have hfalse : (e.nodeId == nodeId) = false := by simpa [hnode] using Ne.symm hne
        rw [hfalse]
        cases new with
        | none => rfl
        | some c => simpa [(hnew c rfl).2.1] using Ne.symm hne
      · simp
    rw [hsame]
    cases hfind : cluster.clientList.find? (fun e => e.nodeId == nodeId) with
    | none => rfl
    | some e =>
      have hnode : e.nodeId = nodeId := by simpa using List.find?_some hfind
      simp [hnode, hne]

/-- What a decision takes for a client before the event, and what is stored for it afterwards. -/
structure After (client values e e' : QnetdClient) : Prop where
  id : e'.id = e.id
  nodeId : e'.nodeId = e.nodeId
  tieBreaker : e'.tieBreaker = e.tieBreaker
  config : e'.configurationNodeList = configOf client values.configurationNodeList e
  membership : e'.lastMembershipNodeList = membershipOf client values.lastMembershipNodeList e
  ringId : e'.lastRingId = ringIdToSend client values.lastRingId e
  heuristics : e'.lastHeuristics =
    if e.nodeId = client.nodeId then values.lastHeuristics else e.lastHeuristics

/-- Every client that stays has its counterpart, and the others have none. -/
theorem after_of_stays (hreg : Registered algorithm cluster) (hclient : client ∈ cluster.clientList)
    (hnew : ∀ c ∈ new, SameClient client c) {e : QnetdClient} (he : e ∈ cluster.clientList)
    (hstays : ¬ Leaving client new.isNone e) :
    ∃ e', (if e.nodeId = client.nodeId then new else some e) = some e' ∧
      After client (new.getD client) e e' := by
  by_cases hnode : e.nodeId = client.nodeId
  · obtain rfl := hreg.eq_of_nodeId he hclient hnode
    cases new with
    | none => exact absurd ⟨rfl, rfl⟩ hstays
    | some c =>
      obtain ⟨hid, hnodeId, htb⟩ := hnew c rfl
      exact ⟨c, by simp, hid, hnodeId, htb, by simp [configOf], by simp [membershipOf],
        by simp [ringIdToSend], by simp⟩
  · exact ⟨e, by simp [hnode], rfl, rfl, rfl, by simp [configOf, hnode],
      by simp [membershipOf, hnode], by simp [ringIdToSend, hnode], by simp [hnode]⟩

theorem stays_of_after {e e' : QnetdClient}
    (h : (if e.nodeId = client.nodeId then new else some e) = some e') :
    ¬ Leaving client new.isNone e := by
  rintro ⟨hnode, hnone⟩
  rw [if_pos hnode, Option.isNone_iff_eq_none.mp hnone] at h
  cases h

/-- The clients after the event, each with what it was before. -/
theorem exists_after (hreg : Registered algorithm cluster) (hclient : client ∈ cluster.clientList)
    (hnew : ∀ c ∈ new, SameClient client c) {e' : QnetdClient}
    (he' : e' ∈ (cluster.afterEvent client new).clientList) :
    ∃ e ∈ cluster.clientList, ¬ Leaving client new.isNone e ∧
      After client (new.getD client) e e' := by
  obtain ⟨e, he, hsome⟩ := List.mem_filterMap.mp he'
  have hstays := stays_of_after hsome
  obtain ⟨e₁, hsome₁, hafter⟩ := after_of_stays hreg hclient hnew he hstays
  obtain rfl : e₁ = e' := Option.some.inj (hsome₁.symm.trans hsome)
  exact ⟨e, he, hstays, hafter⟩

/-- The views of all clients agree, by what is stored for them. -/
structure StoredStable (cluster : QnetdCluster) : Prop where
  configs : ∀ e ∈ cluster.clientList, ∀ d ∈ cluster.clientList, e.id ≠ d.id →
    ∀ n ∈ e.configurationNodeList, d.configurationNodeList.HasNode n.nodeId
  memberships : ∀ e ∈ cluster.clientList, ∀ n ∈ e.lastMembershipNodeList,
    ∀ d ∈ qnetdClusterFindClientByNodeId cluster n.nodeId, e.lastRingId = d.lastRingId ∧
      ∀ m ∈ e.lastMembershipNodeList, d.lastMembershipNodeList.HasNode m.nodeId

/-- The stability test, with the new values as arguments, is the one of the cluster after the
    event. -/
theorem stable_iff_afterEvent (hreg : Registered algorithm cluster)
    (hclient : client ∈ cluster.clientList) (hnew : ∀ c ∈ new, SameClient client c) :
    Stable cluster client new.isNone (new.getD client).lastRingId
      (new.getD client).configurationNodeList (new.getD client).lastMembershipNodeList ↔
      StoredStable (cluster.afterEvent client new) := by
  constructor
  · intro h
    refine ⟨fun e' he' d' hd' hid => ?_, fun e' he' n hn d' hd' => ?_⟩
    · obtain ⟨e, he, hes, hafter⟩ := exists_after hreg hclient hnew he'
      obtain ⟨d, hd, hds, hafter'⟩ := exists_after hreg hclient hnew hd'
      rw [hafter.config, hafter'.config]
      rw [hafter.id, hafter'.id] at hid
      exact h.configs e he d hd hid hes hds
    · obtain ⟨e, he, hes, hafter⟩ := exists_after hreg hclient hnew he'
      have hd'mem : d' ∈ (cluster.afterEvent client new).clientList := List.mem_of_find?_eq_some hd'
      obtain ⟨d, hd, hds, hafter'⟩ := exists_after hreg hclient hnew hd'mem
      have hnode : d'.nodeId = n.nodeId := by simpa using List.find?_some hd'
      have hfind : qnetdClusterFindClientByNodeId cluster n.nodeId = some d := by
        rw [← hnode, hafter'.nodeId]
        exact List.find?_key_of_mem (hreg.nodeIds.imp UInt32.ne_of_lt) hd
      rw [hafter.membership] at hn ⊢
      rw [hafter'.membership, hafter.ringId, hafter'.ringId]
      exact h.memberships e he hes n hn d hfind hds
  · intro h
    have hmem {e e' : QnetdClient} (he : e ∈ cluster.clientList)
        (hsome : (if e.nodeId = client.nodeId then new else some e) = some e') :
        e' ∈ (cluster.afterEvent client new).clientList :=
      List.mem_filterMap.mpr ⟨e, he, hsome⟩
    refine ⟨fun e he d hd hid hes hds => ?_, fun e he hes n hn d hd hds => ?_⟩
    · obtain ⟨e', hsome, hafter⟩ := after_of_stays hreg hclient hnew he hes
      obtain ⟨d', hsome', hafter'⟩ := after_of_stays hreg hclient hnew hd hds
      rw [← hafter.config, ← hafter'.config]
      rw [← hafter.id, ← hafter'.id] at hid
      exact h.configs e' (hmem he hsome) d' (hmem hd hsome') hid
    · have hdmem : d ∈ cluster.clientList := List.mem_of_find?_eq_some hd
      obtain ⟨e', hsome, hafter⟩ := after_of_stays hreg hclient hnew he hes
      obtain ⟨d', hsome', hafter'⟩ := after_of_stays hreg hclient hnew hdmem hds
      have hnode : d.nodeId = n.nodeId := by simpa using List.find?_some hd
      have hfind : qnetdClusterFindClientByNodeId (cluster.afterEvent client new) n.nodeId =
          some d' := by
        rw [findClient_afterEvent hreg hclient hnew, Option.mem_def.mp hd, ← hnode]
        exact hsome'
      rw [← hafter.membership] at hn ⊢
      rw [← hafter'.membership, ← hafter.ringId, ← hafter'.ringId]
      exact h.memberships e' (hmem he hsome) n hn d' hfind

/-- What a decision reads of the client that has caused it makes no difference: where counters are
    compared, the client is in no other partition that can be the best one, or what is stored
    for it stays the same; and where two partitions are compared, the keep-active-partition
    tie-breaker does not depend on it. -/
structure Unaffected (cluster : QnetdCluster) (client : QnetdClient) (new : Option QnetdClient) :
    Prop where
  counted : ∀ e ∈ (cluster.afterEvent client new).clientList,
    ∀ d ∈ (cluster.afterEvent client new).clientList, Compared e d →
    e.lastMembershipNodeList.HasNode client.nodeId →
    ∃ c ∈ new, e.id = client.id ∨ c.lastHeuristics = client.lastHeuristics
  keep : ∀ e ∈ (cluster.afterEvent client new).clientList,
    ∀ d ∈ (cluster.afterEvent client new).clientList, Compared e d → e.id ≠ d.id →
    keepsActivePartition (cluster.afterEvent client new) = keepsActivePartition cluster

/-- What a client is for the comparisons before the event. -/
def eventCandidate (p : QnetdClient × QnetdClient) : FfsplitCandidate :=
  ⟨p.1, p.2.configurationNodeList, p.2.lastMembershipNodeList, p.2.lastHeuristics⟩

/-- The clients that stay, before and after the event. -/
def eventPairs (cluster : QnetdCluster) (client : QnetdClient) (new : Option QnetdClient) :
    List (QnetdClient × QnetdClient) :=
  cluster.clientList.filterMap fun e =>
    (if e.nodeId = client.nodeId then new else some e).map (Prod.mk e)

theorem mem_eventPairs (hreg : Registered algorithm cluster) (hclient : client ∈ cluster.clientList)
    (hnew : ∀ c ∈ new, SameClient client c) {p : QnetdClient × QnetdClient}
    (hp : p ∈ eventPairs cluster client new) :
    p.1 ∈ cluster.clientList ∧ p.2 ∈ (cluster.afterEvent client new).clientList ∧
      After client (new.getD client) p.1 p.2 := by
  obtain ⟨e, he, hsome⟩ := List.mem_filterMap.mp hp
  obtain ⟨e', hsome', rfl⟩ := Option.map_eq_some_iff.mp hsome
  obtain ⟨e₁, hsome₁, hafter⟩ := after_of_stays hreg hclient hnew he (stays_of_after hsome')
  obtain rfl : e₁ = e' := Option.some.inj (hsome₁.symm.trans hsome')
  exact ⟨he, List.mem_filterMap.mpr ⟨e, he, hsome'⟩, hafter⟩

/-- Before the event the candidates get the new values. -/
theorem ffsplitCandidates_event (hreg : Registered algorithm cluster)
    (hclient : client ∈ cluster.clientList) (hnew : ∀ c ∈ new, SameClient client c) :
    ffsplitCandidates cluster client new.isNone (new.getD client).configurationNodeList
      (new.getD client).lastMembershipNodeList (new.getD client).lastHeuristics =
      (eventPairs cluster client new).map eventCandidate := by
  rw [ffsplitCandidates, eventPairs, List.map_filterMap]
  refine List.filterMap_congr fun e he => ?_
  by_cases hnode : e.nodeId = client.nodeId
  · obtain rfl := hreg.eq_of_nodeId he hclient hnode
    cases new with
    | none => simp
    | some c => simp [eventCandidate]
  · simp [hnode, eventCandidate]

/-- After the event nothing has to be overridden. -/
theorem ffsplitCandidates_registered (hreg : Registered algorithm cluster)
    (hd : d ∈ cluster.clientList) :
    ffsplitCandidates cluster d false d.configurationNodeList d.lastMembershipNodeList
      d.lastHeuristics = cluster.clientList.map storedCandidate := by
  rw [ffsplitCandidates, ← List.filterMap_eq_map]
  refine List.filterMap_congr fun e he => ?_
  split
  · next hnode =>
    obtain rfl := hreg.eq_of_nodeId he hd hnode
    rfl
  · rfl

theorem clientList_afterEvent :
    (cluster.afterEvent client new).clientList = (eventPairs cluster client new).map Prod.snd := by
  rw [eventPairs, List.map_filterMap]
  refine List.filterMap_congr fun e _ => ?_
  simp [Function.comp_def]

/-- The counters that agree before and after the event. -/
theorem sameStats_event (hreg : Registered algorithm cluster)
    (hclient : client ∈ cluster.clientList) (hnew : ∀ c ∈ new, SameClient client c)
    {p : QnetdClient × QnetdClient} (hafter : After client (new.getD client) p.1 p.2)
    (hcounted : p.2.lastMembershipNodeList.HasNode client.nodeId →
      ∃ c ∈ new, p.2.id = client.id ∨ c.lastHeuristics = client.lastHeuristics) :
    SameStats cluster (cluster.afterEvent client new) (eventCandidate p) (storedCandidate p.2) := by
  have hof : ∀ n ∈ p.2.lastMembershipNodeList,
      heuristicsOf (cluster.afterEvent client new) (storedCandidate p.2) n.nodeId =
        heuristicsOf cluster (eventCandidate p) n.nodeId := by
    intro n hn
    have hstored : heuristicsOf (cluster.afterEvent client new) (storedCandidate p.2) n.nodeId =
        (qnetdClusterFindClientByNodeId (cluster.afterEvent client new) n.nodeId).map fun iter =>
          if iter.id = p.2.id then p.2.lastHeuristics else iter.lastHeuristics := rfl
    have hevent : heuristicsOf cluster (eventCandidate p) n.nodeId =
        (qnetdClusterFindClientByNodeId cluster n.nodeId).map fun iter =>
          if iter.id = p.1.id then p.2.lastHeuristics else iter.lastHeuristics := rfl
    rw [hstored, hevent, findClient_afterEvent hreg hclient hnew, hafter.id]
    split
    · next hnode =>
      obtain ⟨c, hc, hsame⟩ := hcounted ⟨n, hn, hnode⟩
      have hfind : qnetdClusterFindClientByNodeId cluster n.nodeId = some client := by
        rw [hnode]
        exact List.find?_key_of_mem (hreg.nodeIds.imp UInt32.ne_of_lt) hclient
      rw [hfind, Option.mem_def.mp hc, Option.map_some, Option.map_some, (hnew c hc).1]
      rw [hafter.id] at hsame
      by_cases hid : p.1.id = client.id
      · rw [if_pos hid.symm, if_pos hid.symm]
      · rw [if_neg (Ne.symm hid), if_neg (Ne.symm hid), hsame.resolve_left hid]
    · rfl
  have hcount (q : Option TlvHeuristics → Bool) :
      p.2.lastMembershipNodeList.countP (fun n =>
        q (heuristicsOf (cluster.afterEvent client new) (storedCandidate p.2) n.nodeId)) =
      p.2.lastMembershipNodeList.countP (fun n =>
        q (heuristicsOf cluster (eventCandidate p) n.nodeId)) :=
    List.countP_congr fun n hn => by rw [hof n hn]
  rw [SameStats, ffsplitStats_eq, ffsplitStats_eq, FfsplitPartitionStats.mk.injEq]
  exact ⟨hcount Option.isSome, hcount (· == some .pass), hcount (· == some .fail)⟩

theorem stable_stored_iff (hreg : Registered algorithm cluster) (hd : d ∈ cluster.clientList) :
    Stable cluster d false d.lastRingId d.configurationNodeList d.lastMembershipNodeList ↔
      StoredStable cluster := by
  have hsame : cluster.afterEvent d (some d) = cluster := by
    have hlist : (cluster.clientList.filterMap fun e =>
        if e.nodeId = d.nodeId then some d else some e) = cluster.clientList := by
      conv_rhs => rw [← List.filterMap_some (l := cluster.clientList)]
      refine List.filterMap_congr fun e he => ?_
      split
      · next hnode => rw [hreg.eq_of_nodeId he hd hnode]
      · rfl
    rw [QnetdCluster.afterEvent, hlist]
  have hself : ∀ c ∈ some d, SameClient d c := by
    rintro c ⟨rfl⟩
    exact ⟨rfl, rfl, rfl⟩
  have hiff := stable_iff_afterEvent hreg hd hself
  rwa [hsame] at hiff

/-- A decision before the event is the decision after it, whoever causes that one. -/
theorem ffsplitEventVerdict_eq (hreg : Registered algorithm cluster)
    (hclient : client ∈ cluster.clientList) (hnew : ∀ c ∈ new, SameClient client c)
    (hreg' : Registered algorithm (cluster.afterEvent client new))
    (hd : d ∈ (cluster.afterEvent client new).clientList)
    (hunaffected : Unaffected cluster client new) :
    ffsplitEventVerdict cluster client new =
      ffsplitStoredVerdict (cluster.afterEvent client new) d false := by
  refine Prod.ext ?_ ?_
  · change ffsplitIsMembershipStable .. = ffsplitIsMembershipStable ..
    rw [Bool.eq_iff_iff, ffsplitIsMembershipStable_iff, ffsplitIsMembershipStable_iff,
      stable_iff_afterEvent hreg hclient hnew, stable_stored_iff hreg' hd]
  · change ffsplitSelectPartition .. = ffsplitSelectPartition ..
    have hmem {p : QnetdClient × QnetdClient} (hp : p ∈ eventPairs cluster client new) :=
      mem_eventPairs hreg hclient hnew hp
    rw [ffsplitSelectPartition_eq, ffsplitSelectPartition_eq,
      ffsplitCandidates_event hreg hclient hnew, ffsplitCandidates_registered hreg' hd,
      clientList_afterEvent, List.map_map]
    refine Eq.symm (ffsplitBestCandidate_congr _ (fun p hp => ?_) (fun p hp hhalf => ?_) ?_ rfl
      fun _ _ _ => ⟨trivial, (fun h => by cases h)⟩)
    · exact ⟨rfl, rfl, (hmem hp).2.2.nodeId, (hmem hp).2.2.tieBreaker⟩
    · obtain ⟨-, hp', hafter⟩ := hmem hp
      exact sameStats_event hreg hclient hnew hafter
        (hunaffected.counted p.2 hp' p.2 hp' ⟨UInt32.le_refl _, Nat.le_of_eq hhalf.symm, hhalf⟩)
    · -- the clients are in the order of their node ids
      have horder : (eventPairs cluster client new).Pairwise fun p q => p.2.nodeId < q.2.nodeId := by
        have hsorted := hreg'.nodeIds
        rw [clientList_afterEvent, List.map_map] at hsorted
        exact List.pairwise_map.mp hsorted
      refine horder.imp_of_mem fun {p q} hp hq hlt hwin hhalf => ?_
      obtain ⟨-, hp', hafter⟩ := hmem hp
      obtain ⟨-, hq', -⟩ := hmem hq
      have hcompared : Compared p.2 q.2 := ⟨UInt32.le_of_lt hlt, hwin, hhalf⟩
      refine ⟨sameStats_event hreg hclient hnew hafter
        (hunaffected.counted p.2 hp' q.2 hq' hcompared), ?_⟩
      refine hunaffected.keep p.2 hp' q.2 hq' hcompared fun hid => ?_
      rw [hreg'.eq_of_id hp' hq' hid] at hlt
      exact UInt32.lt_irrefl _ hlt

end AfterEvent

/-! ### A client that leaves -/

/-- The cluster without one of its clients. -/
def QnetdCluster.withoutClient (cluster : QnetdCluster) (id : ClientId) : QnetdCluster :=
  { cluster with clientList := otherClients cluster id }

/-- The client that leaves is in no partition whose counters are compared, and where two
    partitions are compared, it is not the only one without the keep-active-partition
    tie-breaker. -/
structure LeavesNoTrace (cluster : QnetdCluster) (c : QnetdClient) : Prop where
  counted : ∀ e ∈ otherClients cluster c.id, ∀ d ∈ otherClients cluster c.id, Compared e d →
    ¬ e.lastMembershipNodeList.HasNode c.nodeId
  keep : ∀ e ∈ otherClients cluster c.id, ∀ d ∈ otherClients cluster c.id, Compared e d →
    e.id ≠ d.id → c.keepActivePartitionTieBreaker = .enabled ∨
      ∃ r ∈ otherClients cluster c.id, r.keepActivePartitionTieBreaker ≠ .enabled

section Leaving

variable {algorithm : UInt16} {cluster : QnetdCluster} {c : QnetdClient}

theorem afterEvent_none (hreg : Registered algorithm cluster) (hc : c ∈ cluster.clientList) :
    cluster.afterEvent c none = cluster.withoutClient c.id := by
  rw [QnetdCluster.afterEvent, QnetdCluster.withoutClient, otherClients, ← List.filterMap_eq_filter]
  congr 1
  refine List.filterMap_congr fun e he => ?_
  by_cases hnode : e.nodeId = c.nodeId
  · simp [hreg.eq_of_nodeId he hc hnode, Option.guard]
  · have hid : e.id ≠ c.id := fun hid => hnode (by rw [hreg.eq_of_id he hc hid])
    simp [hnode, hid, Option.guard]

/-- The keep-active-partition tie-breaker is the same without the client. -/
theorem keepsActivePartition_withoutClient (hreg : Registered algorithm cluster)
    (hc : c ∈ cluster.clientList)
    (h : c.keepActivePartitionTieBreaker = .enabled ∨
      ∃ r ∈ otherClients cluster c.id, r.keepActivePartitionTieBreaker ≠ .enabled) :
    keepsActivePartition (cluster.withoutClient c.id) = keepsActivePartition cluster := by
  rw [Bool.eq_iff_iff]
  simp only [keepsActivePartition, QnetdCluster.withoutClient, List.all_eq_true, beq_iff_eq]
  constructor
  · intro hothers e he
    by_cases hid : e.id = c.id
    · rcases h with h | ⟨r, hr, hne⟩
      · rwa [hreg.eq_of_id he hc hid]
      · exact absurd (hothers r hr) hne
    · exact hothers e (List.mem_filter.mpr ⟨he, by simpa using hid⟩)
  · exact fun hall e he => hall e (List.mem_filter.mp he).1

theorem LeavesNoTrace.unaffected (h : LeavesNoTrace cluster c)
    (hreg : Registered algorithm cluster) (hc : c ∈ cluster.clientList) :
    Unaffected cluster c none := by
  have hlist : (cluster.afterEvent c none).clientList = otherClients cluster c.id := by
    rw [afterEvent_none hreg hc]
    rfl
  constructor
  · intro e he d hd hcompared hnode
    rw [hlist] at he hd
    exact absurd hnode (h.counted e he d hd hcompared)
  · intro e he d hd hcompared hid
    rw [afterEvent_none hreg hc]
    rw [hlist] at he hd
    exact keepsActivePartition_withoutClient hreg hc (h.keep e he d hd hcompared hid)

end Leaving

/-- Four nodes register and report the configuration, with the lowest node as tie-breaker; then
    some of them report a membership. -/
def fourNodesReport (views : List (ClientId × TlvRingId × List UInt32)) :
    List (Env × ClusterEvent) :=
  ([1, 2, 3, 4].map fun n => (.ok, .init { id := n, clusterName := [97] }
      (initMsg .ffsplit ⟨.lowest, 0⟩ (UInt32.ofNat n) ⟨UInt32.ofNat n, 1⟩))) ++
    ([1, 2, 3, 4].map fun n => (.ok, .message n (configNodeListMsg [1, 2, 3, 4]))) ++
    views.map fun (n, ringId, members) =>
      (.ok, .message n (membershipNodeListMsg ringId members .undefined))

/-- Two halves of two nodes. -/
def twoHalves : List (ClientId × TlvRingId × List UInt32) :=
  [(1, ⟨1, 2⟩, [1, 2]), (2, ⟨1, 2⟩, [1, 2]), (3, ⟨3, 2⟩, [3, 4]), (4, ⟨3, 2⟩, [3, 4])]

/-- A membership list of these nodes. -/
def members (nodeIds : List UInt32) : NodeList := nodeIds.map fun n => ⟨n, 0, .member⟩

/-- The state after a run of an ffsplit cluster. -/
def ffsplitRun (events : List (Env × ClusterEvent)) : Option QnetdCluster :=
  (clusterMachine .plain 0 [97]).execWhile (fun _ e => decide (UsesAlgorithm .ffsplit e.2))
    (clusterMachine .plain 0 [97]).init events

theorem reach_ffsplitRun {events : List (Env × ClusterEvent)} {cluster : QnetdCluster}
    (h : ffsplitRun events = some cluster) :
    (clusterMachine .plain 0 [97]).Reach (fun _ e => UsesAlgorithm .ffsplit e.2) cluster :=
  Runs.Machine.Reach.execWhile (fun _ _ => of_decide_eq_true) .init h

namespace AlgoCall

/-- The configuration list that a callback of ffsplit decides with. -/
def configNodeList (client : QnetdClient) : AlgoCall → NodeList
  | .config nodes .. => nodes
  | .membership .. | .quorum _ | .askForVote | .voteInfoReply _ | .heuristicsChange _ =>
    client.configurationNodeList

/-- The membership list that a callback of ffsplit decides with. -/
def membershipNodeList (client : QnetdClient) : AlgoCall → NodeList
  | .membership _ nodes _ => nodes
  | .config .. | .quorum _ | .askForVote | .voteInfoReply _ | .heuristicsChange _ =>
    client.lastMembershipNodeList

/-- The heuristics result that a callback of ffsplit decides with. -/
def heuristics (client : QnetdClient) : AlgoCall → TlvHeuristics
  | .membership _ _ heuristics | .heuristicsChange heuristics => heuristics
  | .config .. | .quorum _ | .askForVote | .voteInfoReply _ => client.lastHeuristics

/-- A membership, changed configuration or heuristics message that ffsplit decides on. -/
def Decides (client : QnetdClient) : AlgoCall → Prop
  | .config nodes _ initial => initial = false ∧ nodes.HasNode client.nodeId ∧
      client.lastMembershipNodeList ≠ []
  | .membership _ nodes _ => nodes.HasNode client.nodeId ∧ client.configurationNodeList ≠ []
  | .heuristicsChange _ => client.configurationNodeList ≠ [] ∧ client.lastMembershipNodeList ≠ []
  | .quorum _ | .askForVote | .voteInfoReply _ => False

theorem run_of_decides {call : AlgoCall} {client : QnetdClient} (h : call.Decides client)
    (halgorithm : client.decisionAlgorithm = TlvDecisionAlgorithmType.ffsplit.toUInt16)
    (env : Env) (cluster : QnetdCluster) :
    call.run env cluster client = ffsplitDo env cluster client false (call.ringId client)
      (call.configNodeList client) (call.membershipNodeList client) (call.heuristics client) := by
  have hsize {list : NodeList} (hne : list ≠ []) : nodeListSize list ≠ 0 := fun h0 =>
    hne (List.length_eq_zero_iff.mp h0)
  have hsome {list : NodeList} {nodeId : UInt32} (hnode : list.HasNode nodeId) :
      nodeListSize list ≠ 0 ∧ (nodeListFindNodeId list nodeId).isNone = false := by
    obtain ⟨n, hn, -⟩ := id hnode
    rw [← Option.not_isSome, (nodeListFindNodeId_isSome _ _).mpr hnode]
    exact ⟨hsize (List.ne_nil_of_mem hn), rfl⟩
  cases call with
  | config nodes version initial =>
    obtain ⟨rfl, hnode, hmembers⟩ := h
    simp [run, qnetdAlgorithmConfigNodeListReceived, halgorithm, qnetdAlgorithmArray_ffsplit,
      ffsplitConfigNodeListReceived, hsome hnode, hsize hmembers, AlgoCall.ringId, configNodeList,
      membershipNodeList, AlgoCall.heuristics]
  | membership ringId nodes heuristics =>
    obtain ⟨hnode, hconfig⟩ := h
    simp [run, qnetdAlgorithmMembershipNodeListReceived, halgorithm, qnetdAlgorithmArray_ffsplit,
      ffsplitMembershipNodeListReceived, hsome hnode, hsize hconfig, AlgoCall.ringId,
      configNodeList, membershipNodeList, AlgoCall.heuristics]
  | heuristicsChange heuristics =>
    obtain ⟨hconfig, hmembers⟩ := h
    simp [run, qnetdAlgorithmHeuristicsChangeReceived, halgorithm, qnetdAlgorithmArray_ffsplit,
      ffsplitHeuristicsChangeReceived, hsize hconfig, hsize hmembers, AlgoCall.ringId,
      configNodeList, membershipNodeList, AlgoCall.heuristics]
  | quorum | askForVote | voteInfoReply => exact h.elim

/-- What a callback decides with is what is stored afterwards. -/
theorem values_store (call : AlgoCall) (vote : TlvVote) (c : QnetdClient) :
    (call.store vote c).lastRingId = call.ringId c ∧
      (call.store vote c).configurationNodeList = call.configNodeList c ∧
      (call.store vote c).lastMembershipNodeList = call.membershipNodeList c ∧
      (call.store vote c).lastHeuristics = call.heuristics c := by
  cases call <;> exact ⟨rfl, rfl, rfl, rfl⟩

end AlgoCall

/-- The message does not change the heuristics result of the client, or the client is in no other
    partition whose counters are compared. -/
def SeenAsStored (cluster : QnetdCluster) (c : QnetdClient) (call : AlgoCall) (vote : TlvVote) :
    Prop :=
  call.heuristics c = c.lastHeuristics ∨
    ∀ e ∈ (cluster.modifyClient c.id (call.store vote)).clientList,
      ∀ d ∈ (cluster.modifyClient c.id (call.store vote)).clientList, Compared e d →
        e.id ≠ c.id → ¬ e.lastMembershipNodeList.HasNode c.nodeId

section Message

variable {algorithm : UInt16} {cluster : QnetdCluster} {c : QnetdClient}

theorem afterEvent_some (hreg : Registered algorithm cluster) (hc : c ∈ cluster.clientList)
    (f : QnetdClient → QnetdClient) :
    cluster.afterEvent c (some (f c)) = cluster.modifyClient c.id f := by
  rw [QnetdCluster.afterEvent, QnetdCluster.modifyClient, ← List.filterMap_eq_map]
  congr 1
  refine List.filterMap_congr fun e he => ?_
  by_cases hnode : e.nodeId = c.nodeId
  · simp [hreg.eq_of_nodeId he hc hnode]
  · have hid : e.id ≠ c.id := fun hid => hnode (by rw [hreg.eq_of_id he hc hid])
    simp [hnode, hid]

theorem SeenAsStored.unaffected {call : AlgoCall} {vote : TlvVote}
    (h : SeenAsStored cluster c call vote) (hreg : Registered algorithm cluster)
    (hc : c ∈ cluster.clientList) : Unaffected cluster c (some (call.store vote c)) := by
  have hafter := afterEvent_some hreg hc (call.store vote)
  constructor
  · intro e he d hd hcompared hnode
    refine ⟨_, rfl, ?_⟩
    rcases h with h | h
    · exact .inr ((call.values_store vote c).2.2.2.trans h)
    · rw [hafter] at he hd
      exact .inl (by_contra fun hid => h e he d hd hcompared hid hnode)
  · intro e _ d _ _ _
    rw [hafter, Bool.eq_iff_iff]
    simp only [keepsActivePartition, QnetdCluster.modifyClient, List.all_eq_true, beq_iff_eq,
      List.forall_mem_map]
    refine forall₂_congr fun e _ => ?_
    split
    · cases call <;> rfl
    · rfl

end Message

end Qdevice.Qnetd
