import Qdevice.Spec.FfsplitEventClient
import Qdevice.Spec.FfsplitRun

/-! # What ffsplit's stability test guarantees

`qnetd_algo_ffsplit_is_membership_stable` checks inclusions between the lists of the clients, in one
direction only.  Every stored membership list that is not empty has its owner in it, and with this
the inclusions are equalities: the clients of one partition have one membership and one ring id
(`AgreedViews`).  So the ACKs of a round all carry this ring id, also those that are sent after the
last NACK was answered: a new ring id is only stored by a message that leads to a decision, and that
decision ends the round. -/

namespace Qdevice.Qnetd

open FfsplitHistory (BeginsRound sentTo)

/-! ### Views that agree -/

/-- Two lists with the same nodes. -/
def SameNodes (list list' : NodeList) : Prop :=
  ∀ nodeId, list.HasNode nodeId ↔ list'.HasNode nodeId

theorem SameNodes.symm {list list' : NodeList} (h : SameNodes list list') :
    SameNodes list' list :=
  fun nodeId => (h nodeId).symm

theorem sameNodes_of_subset {list list' : NodeList}
    (h : ∀ n ∈ list, list'.HasNode n.nodeId) (h' : ∀ n ∈ list', list.HasNode n.nodeId) :
    SameNodes list list' := by
  intro nodeId
  constructor
  · rintro ⟨n, hn, rfl⟩
    exact h n hn
  · rintro ⟨n, hn, rfl⟩
    exact h' n hn

section Agree

variable {algorithm : UInt16} {cluster : QnetdCluster} {client : QnetdClient} {leaving : Bool}
  {ringId : TlvRingId} {config membership : NodeList} {heuristics : TlvHeuristics}

/-- The views of the clients that stay, with the values of the event for the client that causes
    it. -/
structure AgreedViews (cluster : QnetdCluster) (client : QnetdClient) (leaving : Bool)
    (ringId : TlvRingId) (config membership : NodeList) : Prop where
  configs : ∀ x ∈ cluster.clientList, ∀ y ∈ cluster.clientList, ¬ Leaving client leaving x →
    ¬ Leaving client leaving y → SameNodes (configOf client config x) (configOf client config y)
  memberships : ∀ x ∈ cluster.clientList, ∀ y ∈ cluster.clientList, ¬ Leaving client leaving x →
    ¬ Leaving client leaving y → (membershipOf client membership x).HasNode y.nodeId →
    ringIdToSend client ringId x = ringIdToSend client ringId y ∧
      SameNodes (membershipOf client membership x) (membershipOf client membership y)

/-- Every client that stays has no membership list, or is in it. -/
def ListsOwner (cluster : QnetdCluster) (client : QnetdClient) (leaving : Bool)
    (membership : NodeList) : Prop :=
  ∀ c ∈ cluster.clientList, ¬ Leaving client leaving c → membershipOf client membership c ≠ [] →
    (membershipOf client membership c).HasNode c.nodeId

theorem findClient_of_mem (hreg : Registered algorithm cluster) {c : QnetdClient}
    (hc : c ∈ cluster.clientList) : qnetdClusterFindClientByNodeId cluster c.nodeId = some c :=
  List.find?_key_of_mem (hreg.nodeIds.imp UInt32.ne_of_lt) hc

/-- The test for stability is sound. -/
theorem Stable.agreedViews (h : Stable cluster client leaving ringId config membership)
    (hreg : Registered algorithm cluster) (howner : ListsOwner cluster client leaving membership) :
    AgreedViews cluster client leaving ringId config membership := by
  -- what the test finds out about `x` and a client `y` in its membership list
  have hpair {x y : QnetdClient} (hx : x ∈ cluster.clientList) (hy : y ∈ cluster.clientList)
      (hxs : ¬ Leaving client leaving x) (hys : ¬ Leaving client leaving y)
      (hnode : (membershipOf client membership x).HasNode y.nodeId) :
      ringIdToSend client ringId x = ringIdToSend client ringId y ∧
        ∀ m ∈ membershipOf client membership x,
          (membershipOf client membership y).HasNode m.nodeId := by
    obtain ⟨n, hn, hnodeId⟩ := hnode
    refine h.memberships x hx hxs n hn y ?_ hys
    rw [hnodeId]
    exact findClient_of_mem hreg hy
  refine ⟨fun x hx y hy hxs hys => ?_, fun x hx y hy hxs hys hnode => ?_⟩
  · by_cases hid : x.id = y.id
    · rw [hreg.eq_of_id hx hy hid]
      exact fun _ => Iff.rfl
    · exact sameNodes_of_subset (h.configs x hx y hy hid hxs hys)
        (h.configs y hy x hx (Ne.symm hid) hys hxs)
  · obtain ⟨hring, hsub⟩ := hpair hx hy hxs hys hnode
    obtain ⟨n, hn, -⟩ := id hnode
    -- `x` is in its own list, so it is in the list of `y`
    obtain ⟨m, hm, hmx⟩ := howner x hx hxs (List.ne_nil_of_mem hn)
    have hback : (membershipOf client membership y).HasNode x.nodeId := hmx ▸ hsub m hm
    exact ⟨hring, sameNodes_of_subset hsub (hpair hy hx hys hxs hback).2⟩

/-- The loop ends with one of the candidates. -/
theorem ffsplitBestCandidate_mem {quorate : NodeList} {keep : Bool} {best : Option FfsplitCandidate}
    {cands : List FfsplitCandidate} {cand : FfsplitCandidate}
    (h : ffsplitBestCandidate cluster quorate keep best cands = .ok (some cand)) :
    cand ∈ cands ∨ best = some cand := by
  induction cands generalizing best with
  | nil =>
    cases h
    exact .inr rfl
  | cons first rest ih =>
    simp only [ffsplitBestCandidate] at h
    split at h
    · cases h
    · next better _ =>
      rcases ih h with hmem | hbest
      · exact .inl (List.mem_cons_of_mem _ hmem)
      · cases better with
        | false => exact .inr hbest
        | true => exact .inl (by rw [← Option.some.inj hbest]; exact List.mem_cons_self)

/-- The partition selected is the membership list of a client that stays. -/
theorem ffsplitSelectPartition_eq_some {partition : NodeList}
    (h : ffsplitSelectPartition cluster client leaving config membership heuristics =
      .ok (some partition)) :
    ∃ c ∈ cluster.clientList, ¬ Leaving client leaving c ∧
      partition = membershipOf client membership c := by
  rw [ffsplitSelectPartition_eq] at h
  cases hbest : ffsplitBestCandidate cluster cluster.algorithmData.quoratePartitionNodeList
      (keepsActivePartition cluster) none
      (ffsplitCandidates cluster client leaving config membership heuristics) with
  | error abort =>
    rw [hbest] at h
    cases h
  | ok best =>
    rw [hbest, Except.map, Except.ok.injEq, Option.map_eq_some_iff] at h
    obtain ⟨cand, rfl, rfl⟩ := h
    have hmem := (ffsplitBestCandidate_mem hbest).resolve_right (fun h => by cases h)
    obtain ⟨c, hc, hcand⟩ := List.mem_filterMap.mp hmem
    refine ⟨c, hc, ?_⟩
    split at hcand
    · next hnode =>
      split at hcand
      · cases hcand
      · next hstays =>
        cases hcand
        exact ⟨fun hleaving => hstays hleaving.2, (if_pos hnode).symm⟩
    · next hnode =>
      cases hcand
      exact ⟨fun hleaving => hnode hleaving.1, (if_neg hnode).symm⟩

/-- The clients of the selected partition have it as their membership, and one ring id. -/
theorem AgreedViews.selected (h : AgreedViews cluster client leaving ringId config membership)
    {partition : NodeList}
    (hselect : ffsplitSelectPartition cluster client leaving config membership heuristics =
      .ok (some partition)) :
    ∃ ring, ∀ c ∈ cluster.clientList, ¬ Leaving client leaving c → partition.HasNode c.nodeId →
      SameNodes (membershipOf client membership c) partition ∧
        ringIdToSend client ringId c = ring := by
  obtain ⟨x, hx, hxs, rfl⟩ := ffsplitSelectPartition_eq_some hselect
  refine ⟨ringIdToSend client ringId x, fun c hc hcs hnode => ?_⟩
  obtain ⟨hring, hsame⟩ := h.memberships x hx c hc hxs hcs hnode
  exact ⟨hsame.symm, hring.symm⟩

/-- What a decision may rely on once the test has found the membership stable: the views agree, and
    the clients that are to get an ACK have the selected partition as their membership. -/
structure SoundDecision (cluster : QnetdCluster) (client : QnetdClient) (leaving : Bool)
    (ringId : TlvRingId) (config membership : NodeList) (heuristics : TlvHeuristics) : Prop where
  agreed : AgreedViews cluster client leaving ringId config membership
  selected : ∀ selected, ffsplitSelectPartition cluster client leaving config membership heuristics =
      .ok selected → ∀ c ∈ (ffsplitUpdateNodesState cluster client leaving selected).clientList,
    c.ffsplitData.clientState = .sendingAck →
      ∃ partition, selected = some partition ∧ SameNodes (membershipOf client membership c) partition

theorem AgreedViews.soundDecision
    (h : AgreedViews cluster client leaving ringId config membership) :
    SoundDecision cluster client leaving ringId config membership heuristics := by
  refine ⟨h, fun selected hselect c' hc' hack => ?_⟩
  obtain ⟨c, hc, rfl⟩ := List.mem_map.mp hc'
  dsimp only at hack
  split at hack
  · cases hack
  · next hstays =>
    split at hack
    · cases hack
    · next partition =>
      split at hack
      · cases hack
      · next hfound =>
        have hnode : partition.HasNode c.nodeId := by
          rw [← nodeListFindNodeId_isSome]
          simpa [Option.isSome_iff_ne_none] using hfound
        obtain ⟨ring, hsame⟩ := h.selected hselect
        exact ⟨partition, rfl, (hsame c hc hstays hnode).1⟩

end Agree

/-! ### The ring ids of one round -/

/-- The ring ids of the ACKs that an event sends. -/
def newAcks (cluster cluster' : QnetdCluster) : List TlvRingId :=
  cluster'.clientList.flatMap fun c =>
    ((c.voteInfos.drop (sentTo cluster c.id)).filter (·.vote == .ack)).map (·.ringId)

/-- A cluster with the ring ids of all ACKs sent since the last decision that began a round. -/
structure FfsplitRound where
  cluster : QnetdCluster
  ackRings : List TlvRingId := []

/-- The runs of `clusterMachine`, with these ring ids. -/
def roundMachine (settings : Settings) (id : ClusterId) (name : List UInt8) :
    Runs.Machine FfsplitRound (Env × ClusterEvent) where
  init := { cluster := emptyCluster id name }
  step s e :=
    match clusterStep settings e.1 s.cluster e.2 with
    | .error _ => none
    | .ok (cluster', log) =>
      some ⟨cluster', (if BeginsRound cluster' log then [] else s.ackRings) ++
        newAcks s.cluster cluster'⟩

theorem roundMachine_step {settings : Settings} {id : ClusterId} {name : List UInt8}
    {s s' : FfsplitRound} {e : Env × ClusterEvent}
    (h : (roundMachine settings id name).step s e = some s') :
    ∃ log, clusterStep settings e.1 s.cluster e.2 = .ok (s'.cluster, log) ∧
      s'.ackRings = (if BeginsRound s'.cluster log then [] else s.ackRings) ++
        newAcks s.cluster s'.cluster := by
  simp only [roundMachine] at h
  split at h
  · cases h
  · next cluster₁ log hok =>
    cases h
    exact ⟨log, hok, rfl⟩

/-- A client reports its members only when the server has its configuration. -/
def ConfiguresFirst (cluster : QnetdCluster) : ClusterEvent → Prop
  | .message id msg => msg.nodeListType = some .membership →
      ∀ client ∈ cluster.client? id, client.configurationNodeList ≠ []
  | .init .. | .algoTimer _ | .disconnect .. => True

instance (cluster : QnetdCluster) : DecidablePred (ConfiguresFirst cluster)
  | .message id msg => inferInstanceAs (Decidable (msg.nodeListType = some .membership →
      ∀ client ∈ cluster.client? id, client.configurationNodeList ≠ []))
  | .init .. | .algoTimer _ | .disconnect .. => isTrue trivial

/-- The events of an ffsplit cluster whose clients report in the order in which qdevice does, as long
    as the lists can be stored. -/
def FfsplitReports (s : FfsplitRound) (e : Env × ClusterEvent) : Prop :=
  FfsplitClusterOk s.cluster e ∧ ConfiguresFirst s.cluster e.2 ∧ e.1.nodeListClone = true

instance (s : FfsplitRound) (e : Env × ClusterEvent) : Decidable (FfsplitReports s e) :=
  inferInstanceAs (Decidable (_ ∧ _ ∧ _))

/-- What one event does to the ACKs of the round. -/
inductive RoundStep (cluster cluster' : QnetdCluster) (log : List AlgoLog) : Prop where
  /-- A round begins.  `ring` is the ring id of the partition. -/
  | begins (ring : TlvRingId) (hround : BeginsRound cluster' log)
      (hacks : ∀ r ∈ newAcks cluster cluster', r = ring)
      (hpending : cluster'.algorithmData.clusterState = .sendingNacks →
        newAcks cluster cluster' = [] ∧ ∀ c' ∈ cluster'.clientList,
          c'.ffsplitData.clientState = .sendingAck → c'.lastRingId = ring)
  /-- No ACK is sent, and who waits for one keeps its ring id. -/
  | waits (hround : ¬ BeginsRound cluster' log) (hacks : newAcks cluster cluster' = [])
      (hpending : cluster'.algorithmData.clusterState = .sendingNacks →
        cluster.algorithmData.clusterState = .sendingNacks ∧ ∀ c' ∈ cluster'.clientList,
          c'.ffsplitData.clientState = .sendingAck → ∃ c ∈ cluster.clientList,
            c.ffsplitData.clientState = .sendingAck ∧ c'.lastRingId = c.lastRingId)
  /-- The last NACK is answered, and the ACKs are sent. -/
  | follows (hround : ¬ BeginsRound cluster' log)
      (hstate : cluster.algorithmData.clusterState = .sendingNacks)
      (hstate' : cluster'.algorithmData.clusterState ≠ .sendingNacks)
      (hacks : ∀ r ∈ newAcks cluster cluster', ∃ c ∈ cluster.clientList,
        c.ffsplitData.clientState = .sendingAck ∧ r = c.lastRingId)

/-- The ACKs of a round, and those that are still to come. -/
structure OneRing (s : FfsplitRound) : Prop where
  acks : ∀ r ∈ s.ackRings, ∀ r' ∈ s.ackRings, r = r'
  pending : s.cluster.algorithmData.clusterState = .sendingNacks → s.ackRings = [] ∧
    ∃ ring, ∀ c ∈ s.cluster.clientList, c.ffsplitData.clientState = .sendingAck →
      c.lastRingId = ring

theorem OneRing.step {s : FfsplitRound} {cluster' : QnetdCluster} {log : List AlgoLog}
    (h : OneRing s) (hstep : RoundStep s.cluster cluster' log) :
    OneRing ⟨cluster', (if BeginsRound cluster' log then [] else s.ackRings) ++
      newAcks s.cluster cluster'⟩ := by
  cases hstep with
  | begins ring hround hacks hpending =>
    rw [if_pos hround]
    refine ⟨fun r hr r' hr' => ?_, fun hstate => ?_⟩
    · rw [List.nil_append] at hr hr'
      exact (hacks r hr).trans (hacks r' hr').symm
    · obtain ⟨hnone, hring⟩ := hpending hstate
      exact ⟨by simp [hnone], ring, hring⟩
  | waits hround hacks hpending =>
    rw [if_neg hround, hacks, List.append_nil]
    refine ⟨h.acks, fun hstate => ?_⟩
    obtain ⟨hbefore, hclients⟩ := hpending hstate
    obtain ⟨hnone, ring, hring⟩ := h.pending hbefore
    refine ⟨hnone, ring, fun c' hc' hack => ?_⟩
    obtain ⟨c, hc, hack, hsame⟩ := hclients c' hc' hack
    exact hsame.trans (hring c hc hack)
  | follows hround hstate hstate' hacks =>
    obtain ⟨hnone, ring, hring⟩ := h.pending hstate
    rw [if_neg hround, hnone, List.nil_append]
    have hone : ∀ r ∈ newAcks s.cluster cluster', r = ring := by
      intro r hr
      obtain ⟨c, hc, hack, rfl⟩ := hacks r hr
      exact hring c hc hack
    exact ⟨fun r hr r' hr' => (hone r hr).trans (hone r' hr').symm, fun hne => absurd hne hstate'⟩

/-! ### New vote infos -/

theorem mem_newAcks {cluster cluster' : QnetdCluster} {r : TlvRingId} :
    r ∈ newAcks cluster cluster' ↔ ∃ c' ∈ cluster'.clientList,
      ∃ v ∈ c'.voteInfos.drop (sentTo cluster c'.id), v.vote = .ack ∧ v.ringId = r := by
  simp [newAcks, and_assoc]

/-- What is new in the vote infos of a client. -/
theorem drop_sentTo {algorithm : UInt16} {cluster : QnetdCluster} {c c' : QnetdClient}
    {new : List VoteInfo} (hreg : Registered algorithm cluster) (hc : c ∈ cluster.clientList)
    (hid : c'.id = c.id) (hvotes : c'.voteInfos = c.voteInfos ++ new) :
    c'.voteInfos.drop (sentTo cluster c'.id) = new := by
  rw [hid, sentTo, hreg.client?_of_mem hc, hvotes]
  exact List.drop_left

/-- Clients that keep their vote infos are sent nothing. -/
theorem newAcks_eq_nil {algorithm : UInt16} {cluster cluster' : QnetdCluster}
    (hreg : Registered algorithm cluster)
    (h : ∀ c' ∈ cluster'.clientList, c'.voteInfos = [] ∨
      ∃ c ∈ cluster.clientList, c'.id = c.id ∧ c'.voteInfos = c.voteInfos) :
    newAcks cluster cluster' = [] := by
  refine List.eq_nil_iff_forall_not_mem.mpr fun r hr => ?_
  obtain ⟨c', hc', v, hv, -⟩ := mem_newAcks.mp hr
  rcases h c' hc' with hnone | ⟨c, hc, hid, hvotes⟩
  · simp [hnone] at hv
  · rw [drop_sentTo hreg hc hid (hvotes.trans (List.append_nil _).symm)] at hv
    cases hv

/-- At most one vote info is new, the one sent. -/
theorem Sent.exists_new {env : Env} {ringId : TlvRingId} {vote : Option TlvVote}
    {c c' : QnetdClient} (h : Sent env ringId vote c c') :
    ∃ new, c'.voteInfos = c.voteInfos ++ new ∧
      ∀ v ∈ new, vote = Option.some v.vote ∧ v.ringId = ringId := by
  cases h with
  | none hvotes hseq => exact ⟨[], hvotes.trans (List.append_nil _).symm, by simp⟩
  | some hvotes hseq => exact ⟨_, hvotes, by simp⟩

/-! ### Decisions -/

section Decision

variable {algorithm : UInt16} {env : Env} {cluster cluster₁ cluster' : QnetdCluster}
  {client : QnetdClient} {leaving : Bool} {ringId : TlvRingId} {config membership : NodeList}
  {heuristics : TlvHeuristics} {result : AlgoResult}

/-- A decision that is not put off has found the membership stable, and keeps the partition it
    selected. -/
theorem ffsplitDo_selected
    (h : ffsplitDo env cluster client leaving ringId config membership heuristics = .ok result) :
    result.cluster.algorithmData.clusterState = .waitingForStableMembership ∨
      (Stable cluster client leaving ringId config membership ∧ result.replyErrorCode = .noError ∧
        ∃ selected, ffsplitSelectPartition (cluster.setClusterState .waitingForStableMembership)
            client leaving config membership heuristics = .ok selected ∧
          result.cluster.algorithmData.quoratePartitionNodeList = selected.getD []) := by
  simp only [ffsplitDo] at h
  split at h
  · cases h
    exact .inl rfl
  · next htest =>
    have hstable : Stable cluster client leaving ringId config membership :=
      ffsplitIsMembershipStable_iff.mp (Bool.not_eq_false _ ▸ htest)
    split at h
    · cases h
    · next hselect =>
      cases h
      exact .inr ⟨hstable, rfl, none, hselect, (ffsplitStartRound_begins ..).1⟩
    · next list hselect =>
      split at h
      · cases h
        exact .inl rfl
      · cases h
        exact .inr ⟨hstable, rfl, some list, hselect, (ffsplitStartRound_begins ..).1⟩

/-- The clients of the partition that a round is for have one ring id. -/
theorem exists_partitionRing (hreg : Registered algorithm cluster)
    (howner : ListsOwner cluster client leaving membership)
    (h : ffsplitDo env cluster client leaving ringId config membership heuristics = .ok result)
    (hstate : result.cluster.algorithmData.clusterState ≠ .waitingForStableMembership) :
    ∃ ring, ∀ c ∈ cluster.clientList, ¬ Leaving client leaving c →
      result.cluster.algorithmData.quoratePartitionNodeList.HasNode c.nodeId →
        ringIdToSend client ringId c = ring := by
  obtain ⟨hstable, -, selected, hselect, hpartition⟩ := (ffsplitDo_selected h).resolve_left hstate
  rw [hpartition]
  cases selected with
  | none => exact ⟨ringId, fun c _ _ hnode => by simp [NodeList.HasNode] at hnode⟩
  | some partition =>
    have hagreed := hstable.agreedViews hreg howner
    have hagreed' : AgreedViews (cluster.setClusterState .waitingForStableMembership) client leaving
        ringId config membership := ⟨hagreed.configs, hagreed.memberships⟩
    obtain ⟨ring, hring⟩ := hagreed'.selected hselect
    exact ⟨ring, fun c hc hstays hnode => (hring c hc hstays hnode).2⟩

/-- A decision between two steps that keep the ballots, of which the second stores the ring id the
    decision was made with. -/
theorem roundStep_of_ffsplitDo (hreg : Registered algorithm cluster)
    (hreg₁ : Registered algorithm cluster₁)
    (howner : ListsOwner cluster₁ client leaving membership)
    (hdo : ffsplitDo env cluster₁ client leaving ringId config membership heuristics = .ok result)
    (hbefore : KeepsBallots cluster.clientList cluster₁.clientList)
    (hdata : cluster'.algorithmData = result.cluster.algorithmData)
    (hafter : KeepsBallots result.cluster.clientList cluster'.clientList)
    (hstays : ∀ c' ∈ cluster'.clientList, ¬ Leaving client leaving c')
    (hring : result.replyErrorCode = .noError → ∀ c' ∈ cluster'.clientList,
      ∀ c₁ ∈ cluster₁.clientList, c'.id = c₁.id →
        c'.lastRingId = ringIdToSend client ringId c₁) :
    RoundStep cluster cluster' result.log := by
  rcases ffsplitDo_cases hdo with ⟨hclients, hstate⟩ | ⟨hstable, hround⟩
  · have hkept := hbefore.trans (hclients ▸ hafter)
    rw [← hdata] at hstate
    refine .waits (fun hbegins => hbegins.2 hstate)
      (newAcks_eq_nil hreg fun c' hc' => .inr ?_) fun hnacks => by rw [hstate] at hnacks; cases hnacks
    obtain ⟨c, hc, hballot⟩ := hkept c' hc'
    exact ⟨c, hc, congrArg Ballot.id hballot, congrArg Ballot.voteInfos hballot⟩
  · have hne : cluster'.algorithmData.clusterState ≠ .waitingForStableMembership := by
      rw [hdata]
      cases hround with
      | nacks hstate | acks hstate | nobody hstate => simp [hstate]
    obtain ⟨ring, hpartition⟩ := exists_partitionRing hreg₁ howner hdo (hdata ▸ hne)
    have hcode := ((ffsplitDo_selected hdo).resolve_left (hdata ▸ hne)).2.1
    -- each client that is left, with its vote
    have hvotes {c' c₁ c₂ : QnetdClient} {state : FfsplitClientState} {vote : Option TlvVote}
        (hballot : c'.ballot = c₂.ballot) (hc₁ : c₁ ∈ cluster₁.clientList)
        (hvoted : Voted env (ringIdToSend client ringId c₁) state vote c₁ c₂) :
        ∀ v ∈ c'.voteInfos.drop (sentTo cluster c'.id),
          vote = some v.vote ∧ v.ringId = ringIdToSend client ringId c₁ := by
      obtain ⟨c, hc, hballot₁⟩ := hbefore c₁ hc₁
      obtain ⟨new, hnew, hsent⟩ := hvoted.sent.exists_new
      have hid : c'.id = c.id := ((congrArg Ballot.id hballot).trans
        (congrArg Fixed.id hvoted.fixed)).trans (congrArg Ballot.id hballot₁)
      have hvotes₁ : c₁.voteInfos = c.voteInfos := congrArg Ballot.voteInfos hballot₁
      rw [drop_sentTo hreg hc hid ((congrArg Ballot.voteInfos hballot).trans
        (hnew.trans (by rw [hvotes₁])))]
      exact hsent
    have hleaving {c' c₁ c₂ : QnetdClient} (hc' : c' ∈ cluster'.clientList)
        (hballot : c'.ballot = c₂.ballot) (hfixed : c₂.fixed = c₁.fixed) :
        ¬ Leaving client leaving c₁ := by
      have hnode : c'.nodeId = c₁.nodeId :=
        (congrArg Ballot.nodeId hballot).trans (congrArg Fixed.nodeId hfixed)
      have := hstays c' hc'
      rwa [Leaving, hnode] at this
    rw [← hdata] at hround hpartition
    cases hround with
    | nacks hstate hclients =>
      have hnone : newAcks cluster cluster' = [] := by
        refine List.eq_nil_iff_forall_not_mem.mpr fun r hr => ?_
        obtain ⟨c', hc', v, hv, hack, -⟩ := mem_newAcks.mp hr
        obtain ⟨c₂, hc₂, hballot⟩ := hafter c' hc'
        obtain ⟨c₁, hc₁, hfixed, hvoted⟩ := hclients c₂ hc₂
        have hvote := (hvotes hballot hc₁ (hvoted (hleaving hc' hballot hfixed)) v hv).1
        rw [hack] at hvote
        split at hvote <;> simp at hvote
      refine .begins ring ⟨hstable, hne⟩ (by simp [hnone]) fun _ => ⟨hnone, fun c' hc' hack => ?_⟩
      obtain ⟨c₂, hc₂, hballot⟩ := hafter c' hc'
      obtain ⟨c₁, hc₁, hfixed, hvoted⟩ := hclients c₂ hc₂
      have hstays₁ := hleaving hc' hballot hfixed
      have hdata₂ : c'.ffsplitData = c₂.ffsplitData := congrArg Ballot.data hballot
      rw [hdata₂, (hvoted hstays₁).state, partitionState] at hack
      split at hack
      · next hnode =>
        rw [hring hcode c' hc' c₁ hc₁ ((congrArg Ballot.id hballot).trans
          (congrArg Fixed.id hfixed))]
        exact hpartition c₁ hc₁ hstays₁ hnode
      · cases hack
    | acks hstate hclients =>
      refine .begins ring ⟨hstable, hne⟩ (fun r hr => ?_) fun hnacks => by
        rw [hdata, hstate] at hnacks; cases hnacks
      obtain ⟨c', hc', v, hv, -, rfl⟩ := mem_newAcks.mp hr
      obtain ⟨c₂, hc₂, hballot⟩ := hafter c' hc'
      obtain ⟨c₁, hc₁, hfixed, hvoted⟩ := hclients c₂ hc₂
      have hstays₁ := hleaving hc' hballot hfixed
      obtain ⟨hnode, hvoted⟩ := hvoted hstays₁
      rw [(hvotes hballot hc₁ hvoted v hv).2]
      exact hpartition c₁ hc₁ hstays₁ hnode
    | nobody hstate hclients =>
      have hnobody : cluster'.clientList = [] := by
        refine List.eq_nil_iff_forall_not_mem.mpr fun c' hc' => ?_
        obtain ⟨c₂, hc₂, hballot⟩ := hafter c' hc'
        obtain ⟨c₁, hc₁, hfixed, hleaves⟩ := hclients c₂ hc₂
        exact hleaving hc' hballot hfixed hleaves
      have hnone : newAcks cluster cluster' = [] := by simp [newAcks, hnobody]
      exact .begins ring ⟨hstable, hne⟩ (by simp [hnone]) fun _ => ⟨hnone, by simp [hnobody]⟩

end Decision

/-! ### Replies -/

/-- A client that was sent nothing and keeps its ring id; it does not begin to wait for an ACK. -/
structure SentNothing (c c' : QnetdClient) : Prop where
  id : c'.id = c.id
  voteInfos : c'.voteInfos = c.voteInfos
  lastRingId : c'.lastRingId = c.lastRingId
  waits : c'.ffsplitData.clientState = .sendingAck → c.ffsplitData.clientState = .sendingAck

theorem SentNothing.trans {c₁ c₂ c₃ : QnetdClient} (h₁₂ : SentNothing c₁ c₂)
    (h₂₃ : SentNothing c₂ c₃) : SentNothing c₁ c₃ where
  id := h₂₃.id.trans h₁₂.id
  voteInfos := h₂₃.voteInfos.trans h₁₂.voteInfos
  lastRingId := h₂₃.lastRingId.trans h₁₂.lastRingId
  waits h := h₁₂.waits (h₂₃.waits h)

theorem sentNothing_of_ballot {c c' : QnetdClient} (hballot : c'.ballot = c.ballot)
    (hring : c'.lastRingId = c.lastRingId) : SentNothing c c' := by
  have hdata : c'.ffsplitData = c.ffsplitData := congrArg Ballot.data hballot
  exact ⟨congrArg Ballot.id hballot, congrArg Ballot.voteInfos hballot, hring, by rw [hdata]; exact id⟩

section Reply

variable {algorithm : UInt16} {env : Env} {cluster cluster₁ cluster₂ cluster' : QnetdCluster}
  {client : QnetdClient} {seq : UInt32} {log : List AlgoLog}

/-- An event in which nobody is sent a vote, and no round begins. -/
theorem roundStep_of_sentNothing (hreg : Registered algorithm cluster)
    (hlog : AlgoLog.ffsplitMembershipStable ∉ log)
    (hstate : cluster'.algorithmData.clusterState = .sendingNacks →
      cluster.algorithmData.clusterState = .sendingNacks)
    (h : ∀ c' ∈ cluster'.clientList,
      (c'.voteInfos = [] ∧ c'.ffsplitData.clientState ≠ .sendingAck) ∨
        ∃ c ∈ cluster.clientList, SentNothing c c') :
    RoundStep cluster cluster' log := by
  refine .waits (fun hbegins => hlog hbegins.1) (newAcks_eq_nil hreg fun c' hc' => ?_)
    fun hnacks => ⟨hstate hnacks, fun c' hc' hack => ?_⟩
  · rcases h c' hc' with ⟨hnone, -⟩ | ⟨c, hc, hsent⟩
    · exact .inl hnone
    · exact .inr ⟨c, hc, hsent.id, hsent.voteInfos⟩
  · rcases h c' hc' with ⟨-, hnot⟩ | ⟨c, hc, hsent⟩
    · exact absurd hack hnot
    · exact ⟨c, hc, hsent.waits hack, hsent.lastRingId⟩

theorem roundStep_of_keepsRings (hreg : Registered algorithm cluster)
    (hdata : cluster'.algorithmData = cluster.algorithmData)
    (hkeeps : KeepsRings cluster.clientList cluster'.clientList) :
    RoundStep cluster cluster' [] := by
  refine roundStep_of_sentNothing hreg List.not_mem_nil (by rw [hdata]; exact id)
    fun c' hc' => .inr ?_
  obtain ⟨c, hc, hballot, hring⟩ := hkeeps c' hc'
  exact ⟨c, hc, sentNothing_of_ballot hballot hring⟩

theorem sentNothing_answeredCluster {c : QnetdClient}
    (hc : c ∈ (answeredCluster cluster client).clientList) :
    ∃ c₁ ∈ cluster.clientList, SentNothing c₁ c := by
  obtain ⟨c₁, hc₁, ⟨-, rfl⟩ | ⟨-, rfl⟩⟩ := mem_modifyClient hc
  · exact ⟨c₁, hc₁, rfl, rfl, rfl, (fun h => by cases h)⟩
  · exact ⟨_, hc₁, rfl, rfl, rfl, id⟩

/-- The reply to a vote info, between two steps that keep the ballots and the ring ids. -/
theorem roundStep_of_reply (hreg : Registered algorithm cluster)
    (hbefore : KeepsRings cluster.clientList cluster₁.clientList)
    (hdata₁ : cluster₁.algorithmData = cluster.algorithmData)
    (hcase : ReplyCase env cluster₁ client seq cluster₂)
    (hafter : KeepsRings cluster₂.clientList cluster'.clientList)
    (hdata : cluster'.algorithmData = cluster₂.algorithmData)
    (hlog : AlgoLog.ffsplitMembershipStable ∉ log) : RoundStep cluster cluster' log := by
  -- The steps before and after the reply send nothing.
  have hfirst {c c₁ : QnetdClient} (hc₁ : c₁ ∈ cluster₁.clientList) (h : SentNothing c₁ c) :
      ∃ c₀ ∈ cluster.clientList, SentNothing c₀ c := by
    obtain ⟨c₀, hc₀, hballot, hring⟩ := hbefore c₁ hc₁
    exact ⟨c₀, hc₀, (sentNothing_of_ballot hballot hring).trans h⟩
  have hlast {c' : QnetdClient} (hc' : c' ∈ cluster'.clientList) :
      ∃ c₂ ∈ cluster₂.clientList, SentNothing c₂ c' := by
    obtain ⟨c₂, hc₂, hballot, hring⟩ := hafter c' hc'
    exact ⟨c₂, hc₂, sentNothing_of_ballot hballot hring⟩
  cases hcase with
  | old hseq hcluster =>
    subst hcluster
    refine roundStep_of_sentNothing hreg hlog (by rw [hdata, hdata₁]; exact id)
      fun c' hc' => .inr ?_
    obtain ⟨c₂, hc₂, hsent⟩ := hlast hc'
    exact hfirst hc₂ hsent
  | answered hseq hcluster =>
    subst hcluster
    refine roundStep_of_sentNothing hreg hlog (by rw [hdata, ← hdata₁]; exact id)
      fun c' hc' => .inr ?_
    obtain ⟨c₂, hc₂, hsent⟩ := hlast hc'
    obtain ⟨c₁, hc₁, hsent₁⟩ := sentNothing_answeredCluster hc₂
    exact hfirst hc₁ (hsent₁.trans hsent)
  | acks hseq hstate hnone hstate' hpartition hclients =>
    refine .follows (fun hbegins => hlog hbegins.1) (hdata₁ ▸ hstate) (by rw [hdata, hstate']; simp)
      fun r hr => ?_
    obtain ⟨c', hc', v, hv, -, rfl⟩ := mem_newAcks.mp hr
    obtain ⟨c₂, hc₂, hsent₂⟩ := hlast hc'
    obtain ⟨c₁, hc₁, hvoted⟩ := hclients c₂ hc₂
    obtain ⟨ca, hca, hsenta⟩ := sentNothing_answeredCluster hc₁
    obtain ⟨c, hc, hsent⟩ := hfirst hca hsenta
    -- An ACK that is new was sent in the middle step, to a client that waited for it.
    obtain ⟨new, hnew, hvote⟩ := hvoted.sent.exists_new
    have hid : c'.id = c.id :=
      (hsent₂.id.trans (congrArg Fixed.id hvoted.fixed)).trans hsent.id
    rw [drop_sentTo hreg hc hid (hsent₂.voteInfos.trans (hnew.trans (by rw [hsent.voteInfos])))] at hv
    obtain ⟨hack, hring⟩ := hvote v hv
    refine ⟨c, hc, hsent.waits ?_, hring.trans hsent.lastRingId⟩
    split at hack
    · assumption
    · cases hack
  | done hseq hstate hnone hstate' hclients =>
    refine roundStep_of_sentNothing hreg hlog (by rw [hdata, hstate']; exact (fun h => by cases h))
      fun c' hc' => .inr ?_
    obtain ⟨c₂, hc₂, hsent₂⟩ := hlast hc'
    obtain ⟨c₁, hc₁, hvoted⟩ := hclients c₂ hc₂
    obtain ⟨ca, hca, hsenta⟩ := sentNothing_answeredCluster hc₁
    have hvoted₁ : SentNothing c₁ c₂ := by
      obtain ⟨new, hnew, hvote⟩ := hvoted.sent.exists_new
      have hnil : new = [] := List.eq_nil_iff_forall_not_mem.mpr fun v hv => by cases (hvote v hv).1
      rw [hnil, List.append_nil] at hnew
      exact ⟨congrArg Fixed.id hvoted.fixed, hnew, hvoted.lastRingId, fun h => hvoted.state ▸ h⟩
    exact hfirst hca ((hsenta.trans hvoted₁).trans hsent₂)

end Reply

/-! ### Events -/

/-- A callback that is no reply and does not decide does nothing.  It accepts a membership list only
    from a client without configuration. -/
theorem AlgoCall.run_of_not_decides {env : Env} {cluster : QnetdCluster} {client : QnetdClient}
    {call : AlgoCall} {result : AlgoResult}
    (halgorithm : client.decisionAlgorithm = TlvDecisionAlgorithmType.ffsplit.toUInt16)
    (hreply : ∀ seq, call ≠ .voteInfoReply seq) (h : call.run env cluster client = .ok result)
    (hdecides : ¬ call.Decides client) :
    result.cluster = cluster ∧ result.log = [] ∧ (result.replyErrorCode = .noError →
      ∀ ringId nodes heuristics, call = .membership ringId nodes heuristics →
        client.configurationNodeList = []) := by
  have hfound {list : NodeList} {nodeId : UInt32}
      (hnone : ¬ (nodeListFindNodeId list nodeId).isNone = true) : list.HasNode nodeId := by
    rw [← nodeListFindNodeId_isSome]
    simpa [Option.isSome_iff_ne_none] using hnone
  cases call with
  | config nodes version initial =>
    simp only [run, qnetdAlgorithmConfigNodeListReceived, halgorithm,
      qnetdAlgorithmArray_ffsplit, ffsplitConfigNodeListReceived] at h
    split at h
    · cases h; exact ⟨rfl, rfl, fun _ _ _ _ hcall => by cases hcall⟩
    · split at h
      · cases h; exact ⟨rfl, rfl, fun _ _ _ _ hcall => by cases hcall⟩
      · next hnone =>
        split at h
        · cases h; exact ⟨rfl, rfl, fun _ _ _ _ hcall => by cases hcall⟩
        · next hlater =>
          simp only [Bool.or_eq_true, beq_iff_eq, not_or, Bool.not_eq_true] at hlater
          exact absurd ⟨hlater.1, hfound hnone, fun hempty => hlater.2 (by rw [hempty]; rfl)⟩ hdecides
  | membership ringId nodes heuristics =>
    simp only [run, qnetdAlgorithmMembershipNodeListReceived, halgorithm,
      qnetdAlgorithmArray_ffsplit, ffsplitMembershipNodeListReceived] at h
    split at h
    · cases h; exact ⟨rfl, rfl, (fun h => by cases h)⟩
    · split at h
      · cases h; exact ⟨rfl, rfl, (fun h => by cases h)⟩
      · next hnone =>
        split at h
        · next hempty =>
          cases h
          exact ⟨rfl, rfl, fun _ _ _ _ _ => List.length_eq_zero_iff.mp hempty⟩
        · next hconfig =>
          exact absurd ⟨hfound hnone, fun hempty => hconfig (by rw [hempty]; rfl)⟩ hdecides
  | quorum nodes =>
    simp only [run, qnetdAlgorithmQuorumNodeListReceived, halgorithm,
      qnetdAlgorithmArray_ffsplit] at h
    cases h; exact ⟨rfl, rfl, fun _ _ _ _ hcall => by cases hcall⟩
  | askForVote =>
    simp only [run, qnetdAlgorithmAskForVoteReceived, halgorithm, qnetdAlgorithmArray_ffsplit] at h
    cases h; exact ⟨rfl, rfl, fun _ _ _ _ hcall => by cases hcall⟩
  | voteInfoReply seq => exact absurd rfl (hreply seq)
  | heuristicsChange heuristics =>
    simp only [run, qnetdAlgorithmHeuristicsChangeReceived, halgorithm,
      qnetdAlgorithmArray_ffsplit, ffsplitHeuristicsChangeReceived] at h
    split at h
    · cases h; exact ⟨rfl, rfl, fun _ _ _ _ hcall => by cases hcall⟩
    · next hlists =>
      rw [not_or] at hlists
      exact absurd ⟨fun hempty => hlists.1 (by rw [hempty]; rfl),
        fun hempty => hlists.2 (by rw [hempty]; rfl)⟩ hdecides

theorem AlgoCall.nodeListType_of_membership {type : MsgType} {msg : MsgDecoded} {ringId : TlvRingId}
    {nodes : NodeList} {heuristics : TlvHeuristics}
    (h : AlgoCall.ofMsg? type msg = some (.membership ringId nodes heuristics)) :
    msg.nodeListType = some .membership := by
  simp only [ofMsg?] at h
  split at h
  · split at h <;> simp_all
  all_goals simp_all

/-- What a handler that can store the lists leaves of a callback: the ballots, and the ring ids but
    for the one that the client has reported. -/
theorem AfterCall.stores {env : Env} {call : AlgoCall} {client : QnetdClient} {result : AlgoResult}
    {res : Handled} (h : AfterCall env call client result res) (hclone : env.nodeListClone = true) :
    res.cluster.algorithmData = result.cluster.algorithmData ∧
      ∀ c' ∈ res.cluster.clientList, ∃ c ∈ result.cluster.clientList, c'.ballot = c.ballot ∧
        c'.lastRingId = if result.replyErrorCode = .noError ∧ c.id = client.id then call.ringId c
          else c.lastRingId := by
  cases h with
  | failed hcode hcluster =>
    rw [hcluster]
    exact ⟨rfl, fun c hc => ⟨c, hc, rfl, by rw [if_neg fun h => hcode h.1]⟩⟩
  | stored hcode hcluster =>
    rw [hcluster]
    refine ⟨rfl, fun c' hc' => ?_⟩
    obtain ⟨c, hc, ⟨hid, rfl⟩ | ⟨hid, rfl⟩⟩ := mem_modifyClient hc'
    · refine ⟨c, hc, AlgoCall.ballot_store .., ?_⟩
      rw [if_pos ⟨hcode, hid⟩]
      exact (call.values_store _ c).1
    · exact ⟨_, hc, rfl, by rw [if_neg fun h => hid h.2]⟩
  | emptied _ _ _ hfull => exact absurd hclone (by simp [hfull])

/-- The ballot of a client with its ring id. -/
def QnetdClient.ringBallot (c : QnetdClient) : Ballot × TlvRingId := (c.ballot, c.lastRingId)

theorem keepsRings_of_map {cluster cluster' : QnetdCluster}
    (h : cluster'.clientList.map QnetdClient.ringBallot =
      cluster.clientList.map QnetdClient.ringBallot) :
    KeepsRings cluster.clientList cluster'.clientList := by
  intro c' hc'
  obtain ⟨c, hc, hsame⟩ := List.exists_mem_of_map_eq h hc'
  exact ⟨c, hc, (congrArg Prod.fst hsame).symm, (congrArg Prod.snd hsame).symm⟩

/-- A client that decides has no membership list, or is in the one it decides with. -/
theorem AlgoCall.Decides.listsOwner {algorithm : UInt16} {cluster : QnetdCluster}
    {client : QnetdClient} {call : AlgoCall} (h : call.Decides client)
    (hreg : Registered algorithm cluster) (hreported : ∀ c ∈ cluster.clientList, Reported c)
    (hclient : client ∈ cluster.clientList) :
    ListsOwner cluster client false (call.membershipNodeList client) := by
  intro c hc _ hne
  simp only [membershipOf] at hne ⊢
  split
  · next hnode =>
    obtain rfl := hreg.eq_of_nodeId hc hclient hnode
    cases call with
    | membership ringId nodes heuristics => exact h.1
    | config nodes version initial => exact (hreported c hc).membership h.2.2
    | heuristicsChange heuristics => exact (hreported c hc).membership h.2
    | quorum | askForVote | voteInfoReply => exact h.elim
  · next hnode =>
    rw [if_neg hnode] at hne
    exact (hreported c hc).membership hne

section Events

variable {settings : Settings} {env : Env} {cluster cluster' : QnetdCluster} {id : ClientId}
  {log : List AlgoLog}

theorem roundStep_message {msg : MsgDecoded}
    (hreg : Registered TlvDecisionAlgorithmType.ffsplit.toUInt16 cluster)
    (hreported : ∀ c ∈ cluster.clientList, Reported c)
    (hfirst : ConfiguresFirst cluster (.message id msg)) (hclone : env.nodeListClone = true)
    (h : clusterMessage settings env cluster id msg = .ok (cluster', log)) :
    RoundStep cluster cluster' log := by
  have hview : IgnoresConnection QnetdClient.ringBallot := fun _ _ _ _ _ _ _ _ _ _ => rfl
  rcases clusterMessage_view hview hreg.ids h with
    ⟨rfl, hsame, hdata⟩ | ⟨client, client', type, call, result, res, hclient, htype, hcall, htls,
      hrun, hafter, rfl, hsame, hdata⟩
  · -- no callback has run
    exact roundStep_of_keepsRings hreg hdata (keepsRings_of_map hsame)
  have huniq := hreg.client?_eq hclient
  have hmem := client?_mem hclient
  have hreg₁ := hreg.of_same (sameRegistration_write huniq (checkTls_registration htls))
  have hmem' : client' ∈ (cluster.modifyClient client.id fun _ => client').clientList :=
    List.mem_map.mpr ⟨client, hmem, by simp⟩
  have hbefore : KeepsRings cluster.clientList
      (cluster.modifyClient client.id fun _ => client').clientList :=
    keepsRings_of_map (map_modifyClient _ cluster client.id _ fun c hc hid => by
      rw [huniq c hc hid]
      exact hview.checkTls htls)
  have hreported₁ : ∀ c ∈ (cluster.modifyClient client.id fun _ => client').clientList,
      Reported c := by
    intro c' hc'
    obtain ⟨c, hc, ⟨-, rfl⟩ | ⟨-, rfl⟩⟩ := mem_modifyClient hc'
    · rcases checkTls_success htls with rfl | ⟨_, _, _, _, _, rfl⟩
      · exact hreported _ hmem
      · exact (hreported client hmem).congr rfl rfl rfl
    · exact hreported _ hc
  have hconfig : client'.configurationNodeList = client.configurationNodeList := by
    rcases checkTls_success htls with rfl | ⟨_, _, _, _, _, rfl⟩ <;> rfl
  have hdata₁ : (cluster.modifyClient client.id fun _ => client').algorithmData =
      cluster.algorithmData := rfl
  generalize (cluster.modifyClient client.id fun _ => client') = cluster₁ at *
  have halgorithm := hreg₁.algorithm client' hmem'
  obtain ⟨hdata₂, hstores⟩ := hafter.stores hclone
  -- the clients that are left, with their ring ids
  have hleft : ∀ c' ∈ cluster'.clientList, ∃ c₂ ∈ result.cluster.clientList,
      c'.ballot = c₂.ballot ∧ c'.lastRingId =
        if result.replyErrorCode = .noError ∧ c₂.id = client'.id then call.ringId c₂
        else c₂.lastRingId := by
    intro c' hc'
    obtain ⟨c₃, hc₃, hballot₃, hring₃⟩ := keepsRings_of_map hsame c' hc'
    obtain ⟨c₂, hc₂, hballot, hring⟩ := hstores c₃ hc₃
    exact ⟨c₂, hc₂, hballot₃.trans hballot, hring₃.trans hring⟩
  have hkept₂ := AlgoCall.sameKept_run hrun
  by_cases hreply : ∃ seq, call = .voteInfoReply seq
  · obtain ⟨seq, rfl⟩ := hreply
    simp only [AlgoCall.run, qnetdAlgorithmVoteInfoReplyReceived, halgorithm,
      qnetdAlgorithmArray_ffsplit, Except.ok.injEq] at hrun
    subst hrun
    obtain ⟨hcase, hlog⟩ := ffsplitVoteInfoReplyReceived_cases env cluster₁ client' seq
      fun c hc hnode => by rw [hreg₁.eq_of_nodeId hc hmem' hnode]
    refine roundStep_of_reply hreg hbefore hdata₁ hcase (fun c' hc' => ?_) (hdata.trans hdata₂) hlog
    obtain ⟨c₂, hc₂, hballot, hring⟩ := hleft c' hc'
    exact ⟨c₂, hc₂, hballot, hring.trans (ite_self _)⟩
  by_cases hdecides : call.Decides client'
  · rw [AlgoCall.run_of_decides hdecides halgorithm] at hrun
    refine roundStep_of_ffsplitDo hreg hreg₁ (hdecides.listsOwner hreg₁ hreported₁ hmem') hrun
      hbefore.ballots (hdata.trans hdata₂) (fun c' hc' => ?_) (fun c' _ hleaving => by cases hleaving.2)
      fun hcode c' hc' c₁ hc₁ hid => ?_
    · obtain ⟨c₂, hc₂, hballot, -⟩ := hleft c' hc'
      exact ⟨c₂, hc₂, hballot⟩
    · -- the ring id that is stored is the one the decision was made with
      obtain ⟨c₂, hc₂, hballot, hring⟩ := hleft c' hc'
      obtain ⟨c, hc, hkept⟩ := hkept₂.exists_mem hc₂
      have hid₂ : c₂.id = c₁.id := (congrArg Ballot.id hballot).symm.trans hid
      obtain rfl : c = c₁ := hreg₁.eq_of_id hc hc₁ ((congrArg (·.fixed.id) hkept).trans hid₂)
      have hlast : c.lastRingId = c₂.lastRingId := congrArg Kept.lastRingId hkept
      rw [hring, ringIdToSend]
      by_cases hsender : c.id = client'.id
      · obtain rfl := hreg₁.eq_of_id hc hmem' hsender
        rw [if_pos ⟨hcode, hid₂⟩, if_pos rfl]
        cases call with
        | membership => rfl
        | config | quorum | askForVote | voteInfoReply | heuristicsChange => exact hlast.symm
      · rw [if_neg fun h => hsender (hid₂ ▸ h.2), if_neg fun hnode => hsender
          (congrArg QnetdClient.id (hreg₁.eq_of_nodeId hc hmem' hnode))]
        exact hlast.symm
  · obtain ⟨hcluster, hlog, hmembership⟩ := AlgoCall.run_of_not_decides halgorithm
      (fun seq heq => hreply ⟨seq, heq⟩) hrun hdecides
    refine roundStep_of_sentNothing hreg (by simp [hlog])
      (by rw [hdata, hdata₂, hcluster, hdata₁]; exact fun h => h) fun c' hc' => .inr ?_
    obtain ⟨c₂, hc₂, hballot, hring⟩ := hleft c' hc'
    obtain ⟨c, hc, hballot₁, hring₁⟩ := hbefore c₂ (hcluster ▸ hc₂)
    refine ⟨c, hc, sentNothing_of_ballot (hballot.trans hballot₁) (hring.trans ?_)⟩
    -- a membership list that was accepted has been decided on
    split
    · next hstored =>
      cases call with
      | membership ringId nodes heuristics =>
        have hne := hfirst (AlgoCall.nodeListType_of_membership hcall) client hclient
        exact absurd (hconfig ▸ hmembership hstored.1 _ _ _ rfl) hne
      | config | quorum | askForVote | voteInfoReply | heuristicsChange => exact hring₁
    · exact hring₁

theorem roundStep_disconnect {down : Bool}
    (hreg : Registered TlvDecisionAlgorithmType.ffsplit.toUInt16 cluster)
    (hreported : ∀ c ∈ cluster.clientList, Reported c)
    (h : clusterDisconnect env cluster id down = .ok (cluster', log)) :
    RoundStep cluster cluster' log := by
  cases ffsplit_disconnect_cases hreg h with
  | quiet hdata hclients hlog =>
    subst hlog
    exact roundStep_of_keepsRings hreg hdata fun c hc => ⟨c, hclients c hc, rfl, rfl⟩
  | last hdata hclients =>
    have hnone : newAcks cluster cluster' = [] := by simp [newAcks, hclients]
    by_cases hbegins : BeginsRound cluster' log
    · exact .begins ⟨0, 0⟩ hbegins (by simp [hnone]) fun _ => ⟨hnone, by simp [hclients]⟩
    · exact .waits hbegins hnone fun hnacks => by rw [hdata] at hnacks; cases hnacks
  | decided client ringId config membership heuristics result hclient hdo hdata hclients hlog =>
    subst hlog
    have hsame := (sameKept_ffsplitDo hdo)
    have hstays {c c₁ : QnetdClient} (hc : c ∈ cluster'.clientList) (hc₁ : c₁ ∈ cluster.clientList)
        (hid : c.id = c₁.id) : c₁.nodeId ≠ client.nodeId := by
      intro hnode
      rw [hreg.eq_of_nodeId hc₁ hclient hnode] at hid
      exact (hclients c hc).2 hid
    refine roundStep_of_ffsplitDo hreg hreg (fun c hc hcs hne => ?_) hdo (.refl _) hdata
      (fun c hc => ⟨c, (hclients c hc).1, rfl⟩) (fun c' hc' hleaving => ?_)
      fun _ c' hc' c₁ hc₁ hid => ?_
    · have hnode : c.nodeId ≠ client.nodeId := fun hnode => hcs ⟨hnode, rfl⟩
      rw [membershipOf, if_neg hnode] at hne ⊢
      exact (hreported c hc).membership hne
    · obtain ⟨c, hc, hkept⟩ := hsame.exists_mem (hclients c' hc').1
      exact hstays hc' hc (congrArg (·.fixed.id) hkept).symm
        ((congrArg (·.fixed.nodeId) hkept).trans hleaving.1)
    · obtain ⟨c, hc, hkept⟩ := hsame.exists_mem (hclients c' hc').1
      obtain rfl : c = c₁ := hreg.eq_of_id hc hc₁ ((congrArg (·.fixed.id) hkept).trans hid)
      rw [ringIdToSend, if_neg (hstays hc' hc hid)]
      exact (congrArg Kept.lastRingId hkept).symm

theorem roundStep_clusterStep {event : ClusterEvent}
    (hreg : Registered TlvDecisionAlgorithmType.ffsplit.toUInt16 cluster)
    (hreported : ∀ c ∈ cluster.clientList, Reported c) (halgorithm : UsesAlgorithm .ffsplit event)
    (hfirst : ConfiguresFirst cluster event) (hclone : env.nodeListClone = true)
    (h : clusterStep settings env cluster event = .ok (cluster', log)) :
    RoundStep cluster cluster' log := by
  cases event with
  | init conn msg =>
    cases h
    obtain ⟨hdata, hclients⟩ := ffsplit_init_cases settings cluster conn halgorithm
    refine roundStep_of_sentNothing hreg List.not_mem_nil (fun hstate => ?_) fun c' hc' => ?_
    · rcases hdata with hdata | ⟨hdata, -⟩
      · exact hdata ▸ hstate
      · rw [hdata] at hstate
        cases hstate
    · rcases hclients c' hc' with hc | ⟨-, -, hvotes, hnew⟩
      · exact .inr ⟨c', hc, sentNothing_of_ballot rfl rfl⟩
      · exact .inl ⟨hvotes, by simp [hnew]⟩
  | message id msg => exact roundStep_message hreg hreported hfirst hclone h
  | algoTimer id =>
    obtain ⟨hdata, hkeeps, rfl⟩ := ffsplit_algoTimer hreg h
    exact roundStep_of_keepsRings hreg hdata hkeeps
  | disconnect id down => exact roundStep_disconnect hreg hreported h

end Events

/-! ### Runs -/

/-- In every reachable state, whatever causes the decision: if the test finds the membership stable,
    the views agree and the ACKs are for clients that have the selected partition as their
    membership.  All ACKs of a round carry one ring id. -/
theorem ffsplit_stability_sound (settings : Settings) (id : ClusterId) (name : List UInt8)
    {s : FfsplitRound} (hs : (roundMachine settings id name).Reach FfsplitReports s) :
    (∀ c ∈ s.cluster.clientList,
      let cluster := s.cluster.setClusterState .waitingForStableMembership
      (∀ call : AlgoCall, call.Decides c →
        (∀ env, call.run env s.cluster c = ffsplitDo env s.cluster c false (call.ringId c)
          (call.configNodeList c) (call.membershipNodeList c) (call.heuristics c)) ∧
        (ffsplitIsMembershipStable cluster c false (call.ringId c) (call.configNodeList c)
            (call.membershipNodeList c) = true →
          SoundDecision cluster c false (call.ringId c) (call.configNodeList c)
            (call.membershipNodeList c) (call.heuristics c))) ∧
      (ffsplitIsMembershipStable cluster c true c.lastRingId c.configurationNodeList
          c.lastMembershipNodeList = true →
        SoundDecision cluster c true c.lastRingId c.configurationNodeList c.lastMembershipNodeList
          c.lastHeuristics)) ∧
    ∀ r ∈ s.ackRings, ∀ r' ∈ s.ackRings, r = r' := by
  have hinv : (Registered TlvDecisionAlgorithmType.ffsplit.toUInt16 s.cluster ∧
      ∀ c ∈ s.cluster.clientList, Reported c) ∧ OneRing s := by
    refine hs.invariant (fun s => (Registered TlvDecisionAlgorithmType.ffsplit.toUInt16 s.cluster ∧
      ∀ c ∈ s.cluster.clientList, Reported c) ∧ OneRing s) ?_ ?_
    · refine ⟨⟨registered_empty _ id name, by simp [roundMachine, emptyCluster]⟩, ?_, ?_⟩
      · simp [roundMachine]
      · simp [roundMachine, emptyCluster]
    · rintro s s' e - ⟨⟨hreg, hreported⟩, hone⟩ ⟨hok, hfirst, hclone⟩ hstep
      obtain ⟨log, hcluster, hrings⟩ := roundMachine_step hstep
      refine ⟨⟨registered_clusterStep hreg hok.1 hcluster,
        reported_clusterStep hreg hreported hok.2 hcluster⟩, ?_⟩
      have hnext := hone.step (roundStep_clusterStep hreg hreported hok.1 hfirst hclone hcluster)
      rwa [← hrings] at hnext
  -- The stability is asked for in the state `waitingForStableMembership`; this changes no client.
  obtain ⟨⟨hreg, hreported⟩, hone⟩ := hinv
  refine ⟨fun c hc => ⟨fun call hdecides => ⟨fun env =>
    AlgoCall.run_of_decides hdecides (hreg.algorithm c hc) env s.cluster, fun hstable => ?_⟩,
      fun hstable => ?_⟩, hone.acks⟩
  · have hreg' : Registered TlvDecisionAlgorithmType.ffsplit.toUInt16
      (s.cluster.setClusterState .waitingForStableMembership) := { hreg with }
    exact ((ffsplitIsMembershipStable_iff.mp hstable).agreedViews hreg'
      (hdecides.listsOwner hreg' hreported hc)).soundDecision
  · have hreg' : Registered TlvDecisionAlgorithmType.ffsplit.toUInt16
      (s.cluster.setClusterState .waitingForStableMembership) := { hreg with }
    refine ((ffsplitIsMembershipStable_iff.mp hstable).agreedViews hreg' ?_).soundDecision
    intro d hd hds hne
    have hnode : d.nodeId ≠ c.nodeId := fun hnode => hds ⟨hnode, rfl⟩
    rw [membershipOf, if_neg hnode] at hne ⊢
    exact (hreported d hd).membership hne

/-- Two halves of two nodes: nodes 3 and 4 answer the NACKs of the round, and then nodes 1 and 2 get
    their ACKs. -/
def twoHalvesRound : List (Env × ClusterEvent) :=
  fourNodesReport twoHalves ++ [3, 4].map fun n => (.ok, .message n (voteInfoReplyMsg 2))

/-- Both ACKs are for the ring of nodes 1 and 2, and the membership is still stable. -/
theorem ffsplit_stability_sound_halves : ∃ s c,
    (roundMachine .plain 0 [97]).execWhile (fun s e => decide (FfsplitReports s e))
      (roundMachine .plain 0 [97]).init twoHalvesRound = some s ∧
    s.ackRings.length = 2 ∧ (∀ r ∈ s.ackRings, r = ⟨1, 2⟩) ∧ s.cluster.client? 1 = some c ∧
    SoundDecision (s.cluster.setClusterState .waitingForStableMembership) c false c.lastRingId
      c.configurationNodeList c.lastMembershipNodeList .pass := by
  have hrun : ∃ s ∈ (roundMachine .plain 0 [97]).execWhile
      (fun s e => decide (FfsplitReports s e)) (roundMachine .plain 0 [97]).init twoHalvesRound,
      s.ackRings.length = 2 ∧ ⟨1, 2⟩ ∈ s.ackRings ∧ ∃ c ∈ s.cluster.client? 1,
        (c.configurationNodeList ≠ [] ∧ c.lastMembershipNodeList ≠ []) ∧
        ffsplitIsMembershipStable (s.cluster.setClusterState .waitingForStableMembership) c false
          c.lastRingId c.configurationNodeList c.lastMembershipNodeList = true := by
    decide +kernel
  obtain ⟨s, hs, htwo, hring, c, hc, hlists, hstable⟩ := hrun
  have hreach : (roundMachine .plain 0 [97]).Reach FfsplitReports s :=
    Runs.Machine.Reach.execWhile (fun _ _ => of_decide_eq_true) .init hs
  obtain ⟨hsound, hone⟩ := ffsplit_stability_sound .plain 0 [97] hreach
  exact ⟨s, c, hs, htwo, fun r hr => hone r hr _ hring, hc,
    ((hsound c (client?_mem hc)).1 (.heuristicsChange .pass) hlists).2 hstable⟩

end Qdevice.Qnetd
