import Qdevice.Spec.FfsplitRun

/-! # Exclusion and completeness of ffsplit rounds

Two properties of the runs of an ffsplit cluster.  Whenever an ACK is queued, all clients that may
hold one are in the selected partition.  And a round that is over has queued, and got
answered, every vote it owed; this one fails when a reply of an earlier round meets a client that
is still waiting for its ACK, because such a client has no new number to wait for yet. -/

namespace Qdevice.Qnetd

section Step

variable {settings : Settings} {s s' : FfsplitState}

/-- Nothing happened. -/
private theorem advance_self (hinv : FfsplitInv s) :
    s.history.advance s.cluster s.cluster [] = s.history := by
  have hround : ¬ FfsplitHistory.BeginsRound s.cluster [] :=
    FfsplitHistory.not_beginsRound_of_not_mem (by simp)
  simp only [FfsplitHistory.advance, if_neg hround]
  split
  · next hacks => rw [← hinv.ackPartition hacks]
  · rfl

/-- A reply is not read, and then nothing about the votes changes, or it is an answer. -/
theorem ffsplitReply_cases {env : Env} {id : ClientId} (hinv : FfsplitInv s)
    (hok : FfsplitOk s (.voteInfoReply env id)) (h : ffsplitReply settings env s id = some s') :
    (∃ cluster', VotesCase (fun _ => none) s.cluster cluster' [] ∧
      Registered TlvDecisionAlgorithmType.ffsplit.toUInt16 cluster' ∧
      cluster'.algorithmData = s.cluster.algorithmData ∧
      s' = ⟨cluster', s.history.advance s.cluster cluster' []⟩) ∨
    ∃ client client' cluster₁ i v result, client.id = id ∧
      ReadReply s client client' cluster₁ i v ∧
      result = ffsplitVoteInfoReplyReceived env cluster₁ client' v.msgSeqNumber ∧
      s' = ⟨result.cluster,
        (s.history.answer client.id (i + 1)).advance s.cluster result.cluster result.log⟩ := by
  have hsame : (∃ cluster', VotesCase (fun _ => none) s.cluster cluster' [] ∧
      Registered TlvDecisionAlgorithmType.ffsplit.toUInt16 cluster' ∧
      cluster'.algorithmData = s.cluster.algorithmData ∧
      s = ⟨cluster', s.history.advance s.cluster cluster' []⟩) :=
    ⟨s.cluster, .quiet rfl (.refl _) rfl, hinv.registered, rfl, by rw [advance_self hinv]⟩
  simp only [ffsplitReply] at h
  split at h
  · cases h
    exact .inl hsame
  · next client hclient =>
    obtain rfl := client?_id hclient
    split at h
    · cases h
      exact .inl hsame
    · next i hnext =>
      split at h
      · cases h
        exact .inl hsame
      · next v hv =>
        split at h
        · cases h
        · next cluster' log hmessage =>
          cases h
          have hreg' := hinv.registered.of_same
            (sameRegistration_clusterMessage hinv.registered.ids hmessage)
          rcases clusterMessage_voteInfoReply hinv.registered hclient hmessage with
            ⟨hread, client', cluster₁, result, hmem', hreg, hdata, hkeeps, hballot, hresult, rfl,
              rfl⟩ | ⟨hread, hdata, hkeeps, rfl⟩
          · rw [if_pos hread]
            exact .inr ⟨client, client', cluster₁, i, v, result, rfl,
              ⟨client?_mem hclient, hnext, hv, hok client hclient, hmem', hreg, hdata, hkeeps,
                hballot⟩, hresult, rfl⟩
          · rw [if_neg (by simp [hread])]
            exact .inl ⟨cluster', .quiet hdata hkeeps.ballots rfl, hreg', hdata, rfl⟩

/-- Each client is sent at most one vote in an event, an ACK only in the state that sends ACKs. -/
theorem ffsplitStep_castVote {e : FfsplitEvent} (hinv : FfsplitInv s) (hok : FfsplitOk s e)
    (h : ffsplitStep settings s e = some s') :
    ∀ c' ∈ s'.cluster.clientList,
      (c'.voteInfos = [] ∧ c'.ffsplitData = {}) ∨
      ∃ c ∈ s.cluster.clientList, ∃ state vote,
        CastVote (e.reportedRing c'.id) state vote c c' ∧ (vote = none ∨ vote = some .nack ∨
          vote = some .ack ∧ s'.cluster.algorithmData.clusterState = .sendingAcks) := by
  intro c' hc'
  cases e with
  | cluster env event =>
    simp only [ffsplitStep] at h
    split at h
    · cases h
    · next cluster' log hstep =>
      cases h
      by_cases hinit : ∃ conn msg, event = .init conn msg
      · obtain ⟨conn, msg, rfl⟩ := hinit
        cases hstep
        rcases (ffsplit_init_cases settings s.cluster conn hok.1).2 c' hc' with
          hc | ⟨-, -, hvotes, hdata⟩
        · exact .inr ⟨c', hc, _, _, .of_ballot rfl, .inl rfl⟩
        · exact .inl ⟨hvotes, hdata⟩
      · have hcase := ffsplit_votes_cases hinv.registered
          (fun conn msg hevent => hinit ⟨conn, msg, hevent⟩) hok.2 hstep
        exact .inr (hcase.castVote c' hc')
  | voteInfoReply env id =>
    rcases ffsplitReply_cases hinv hok h with ⟨cluster', hcase, -, -, rfl⟩ |
      ⟨client, client', cluster₁, i, v, result, -, hread, rfl, rfl⟩
    · exact .inr (hcase.castVote c' hc')
    · have hreg₁ := hinv.registered.of_same hread.same
      have hcase := (ffsplitVoteInfoReplyReceived_cases env cluster₁ client' v.msgSeqNumber
        fun c hc hnode => by rw [hreg₁.eq_of_nodeId hc hread.mem' hnode]).1
      obtain ⟨c₁, hc₁, state, vote, hcast, hvote⟩ := hcase.castVote c' hc'
      obtain ⟨c, hc, hballot, -⟩ := hread.keeps c₁ hc₁
      refine .inr ⟨c, hc, state, vote, hcast.of_before hballot, ?_⟩
      rcases hvote with hnone | hack
      · exact .inl hnone
      · exact .inr (.inr hack)

/-- The handover behind an event. -/
theorem ffsplit_refines {e : FfsplitEvent} (hinv : FfsplitInv s) (hok : FfsplitOk s e)
    (h : ffsplitStep settings s e = some s') :
    Handover.Steps (fun _ _ _ => True) s.handover s'.handover := by
  cases e with
  | cluster env event =>
    simp only [ffsplitStep] at h
    split at h
    · cases h
    · next cluster' log hstep =>
      cases h
      have hreg' := registered_clusterStep hinv.registered hok.1 hstep
      cases event with
      | init conn msg =>
        cases hstep
        exact .single (init_refines hinv hok.1)
      | message | algoTimer | disconnect =>
        exact .single ((ffsplit_votes_cases hinv.registered (by simp) hok.2 hstep).refines hinv hreg')
  | voteInfoReply env id =>
    rcases ffsplitReply_cases hinv hok h with ⟨cluster', hcase, hreg', -, rfl⟩ |
      ⟨client, client', cluster₁, i, v, result, -, hread, hresult, rfl⟩
    · exact .single (hcase.refines hinv hreg')
    · cases reply_refines hinv hread hresult with
      | answered hstep hphase => exact .single (hstep.mono fun _ _ _ => trivial)
      | acks s₁ hstep hgrants hphase =>
        exact .tail (.single (hstep.mono fun _ _ _ => trivial)) (hgrants.mono fun _ _ h => h.elim)
      | done s₁ hstep hdone hnone hphase hgranted hparties =>
        exact .tail (.single (hstep.mono fun _ _ _ => trivial))
          (.finish hdone hnone hphase hgranted hparties)

/-- Every event ends with `advance`. -/
private theorem ffsplitStep_history {e : FfsplitEvent} (hinv : FfsplitInv s) (hok : FfsplitOk s e)
    (h : ffsplitStep settings s e = some s') :
    ∃ history log, s'.history = FfsplitHistory.advance history s.cluster s'.cluster log := by
  cases e with
  | cluster env event =>
    simp only [ffsplitStep] at h
    split at h
    · cases h
    · cases h
      exact ⟨_, _, rfl⟩
  | voteInfoReply env id =>
    rcases ffsplitReply_cases hinv hok h with ⟨cluster', -, -, -, rfl⟩ |
      ⟨client, client', cluster₁, i, v, result, -, -, -, rfl⟩
    · exact ⟨_, _, rfl⟩
    · exact ⟨_, _, rfl⟩

theorem FfsplitInv.step {e : FfsplitEvent} (hinv : FfsplitInv s) (hok : FfsplitOk s e)
    (h : ffsplitStep settings s e = some s') : FfsplitInv s' := by
  refine ⟨?_, fun c' hc' => ?_, ?_, hinv.safe.steps (ffsplit_refines hinv hok h)⟩
  · cases e with
    | cluster env event =>
      simp only [ffsplitStep] at h
      split at h
      · cases h
      · next hstep =>
        cases h
        exact registered_clusterStep hinv.registered hok.1 hstep
    | voteInfoReply env id =>
      rcases ffsplitReply_cases hinv hok h with ⟨cluster', -, hreg', -, rfl⟩ |
        ⟨client, client', cluster₁, i, v, result, -, hread, rfl, rfl⟩
      · exact hreg'
      · exact (hinv.registered.of_same hread.same).of_same
          (sameKept_ffsplitVoteInfoReplyReceived env cluster₁ client' _).fixed.registration
  · rcases ffsplitStep_castVote hinv hok h c' hc' with ⟨hvotes, hdata⟩ |
      ⟨c, hc, state, vote, hcast, hvote⟩
    · exact ⟨by simp [hvotes, hdata], by simp [hvotes]⟩
    · refine hcast.numbered (fun v hv => ?_) (hinv.numbered c hc)
      rcases hvote with rfl | rfl | ⟨rfl, -⟩
      · cases hv
      · exact .inr (Option.some.inj hv).symm
      · exact .inl (Option.some.inj hv).symm
  · intro hacks
    obtain ⟨history, log, hhistory⟩ := ffsplitStep_history hinv hok h
    rw [hhistory, FfsplitHistory.advance_ackPartition, if_pos hacks]

end Step

theorem ffsplitInv_init (id : ClusterId) (name : List UInt8) :
    FfsplitInv { cluster := emptyCluster id name } :=
  ⟨registered_empty _ id name, by simp [emptyCluster], by simp [emptyCluster],
    Handover.safe_of_fresh (by simp [FfsplitState.handover, emptyCluster])⟩

theorem ffsplit_invariant {settings : Settings} {id : ClusterId} {name : List UInt8}
    {s : FfsplitState} (h : (ffsplitMachine settings id name).Reach FfsplitOk s) : FfsplitInv s :=
  h.invariant FfsplitInv (ffsplitInv_init id name) fun _ hinv hok hstep => hinv.step hok hstep

/-! ### Exclusion -/

/-- An ACK was queued to the client on this connection, and it has not replied to a NACK that was
    queued after it. -/
def PossibleAckHolder (s : FfsplitState) (c : QnetdClient) : Prop :=
  ∃ i v, c.voteInfos[i]? = some v ∧ v.vote = .ack ∧ v.queued = true ∧
    ∀ j w, i < j → j < s.history.answered c.id → c.voteInfos[j]? = some w →
      ¬ (w.vote = .nack ∧ w.queued = true)

/-- An ACK is queued on the way from `s` to `s'`. -/
def QueuesAck (s s' : FfsplitState) : Prop :=
  ∃ c ∈ s.cluster.clientList, ∃ c' ∈ s'.cluster.clientList, c'.id = c.id ∧
    ∃ i v, c.voteInfos.length ≤ i ∧ c'.voteInfos[i]? = some v ∧ v.vote = .ack ∧ v.queued = true

/-- A possible holder of an ACK is a holder in the handover. -/
theorem PossibleAckHolder.holder {s : FfsplitState} {c : QnetdClient} (hnumbered : Numbered c)
    (h : PossibleAckHolder s c) : (s.history.party c).Holder := by
  obtain ⟨i, v, hv, hack, hqueued, hno⟩ := h
  refine ⟨i, by simp [FfsplitHistory.party, hv, VoteInfo.message, hack, hqueued],
    fun j hij hj hrevoked => ?_⟩
  simp only [FfsplitHistory.party, List.getElem?_map, Option.map_eq_some_iff] at hrevoked
  obtain ⟨w, hw, hmessage⟩ := hrevoked
  simp only [VoteInfo.message, Handover.Msg.mk.injEq, beq_eq_false_iff_ne] at hmessage
  refine hno j w hij hj hw ⟨?_, hmessage.2⟩
  exact (hnumbered.numbers j w hw).2.resolve_left hmessage.1

/-- A vote info beyond the old ones is the one that was sent. -/
theorem sentVote_beyond {reported : Option TlvRingId} {vote : Option TlvVote} {c c' : QnetdClient}
    {i : Nat} {v : VoteInfo} (h : SentVote reported c c' vote) (hi : c.voteInfos.length ≤ i)
    (hv : c'.voteInfos[i]? = some v) :
    vote = some v.vote ∧ (v.ringId = c'.lastRingId ∨ reported = some v.ringId) := by
  cases h with
  | none hvotes hseq =>
    rw [hvotes] at hv
    have := (List.getElem?_eq_some_iff.mp hv).1
    omega
  | some w hvotes hseq hnumber hring hw =>
    rw [hvotes, List.getElem?_append_right hi, List.getElem?_singleton] at hv
    split at hv
    · cases hv
      exact ⟨congrArg some hw.symm, hring⟩
    · cases hv

/-- ACKs are only queued in the state that sends them. -/
theorem sendingAcks_of_queuesAck {settings : Settings} {s s' : FfsplitState} {e : FfsplitEvent}
    (hinv : FfsplitInv s) (hok : FfsplitOk s e) (h : ffsplitStep settings s e = some s')
    (hack : QueuesAck s s') : s'.cluster.algorithmData.clusterState = .sendingAcks := by
  obtain ⟨c, hc, c', hc', hid, i, v, hi, hv, hvote, -⟩ := hack
  rcases ffsplitStep_castVote hinv hok h c' hc' with ⟨hvotes, -⟩ |
    ⟨d, hd, state, vote, hcast, hcase⟩
  · simp [hvotes] at hv
  · obtain rfl := hinv.registered.eq_of_id hd hc (hcast.id.symm.trans hid)
    obtain ⟨hsent, -⟩ := sentVote_beyond hcast.sent hi hv
    rw [hvote] at hsent
    rcases hcase with rfl | rfl | ⟨-, hstate⟩
    · cases hsent
    · simp at hsent
    · exact hstate

/-- In every run, whenever an ACK is queued every possible holder of an ACK is in the partition
    selected last; and at any time all possible holders are in the one partition ACKs were last
    sent for. -/
theorem ffsplit_ack_exclusion (settings : Settings) (id : ClusterId) (name : List UInt8)
    {s s' : FfsplitState} {e : FfsplitEvent}
    (hs : (ffsplitMachine settings id name).Reach FfsplitOk s) (hok : FfsplitOk s e)
    (hstep : (ffsplitMachine settings id name).step s e = some s') :
    (QueuesAck s s' → ∀ c ∈ s'.cluster.clientList, PossibleAckHolder s' c →
        s'.cluster.algorithmData.quoratePartitionNodeList.HasNode c.nodeId) ∧
      ∀ c ∈ s'.cluster.clientList, PossibleAckHolder s' c →
        s'.history.ackPartition.HasNode c.nodeId := by
  have hinv := ffsplit_invariant hs
  have hinv' := hinv.step hok hstep
  -- A client that may hold an ACK is a holder of the handover, which says where these are.
  have hholder : ∀ c ∈ s'.cluster.clientList, PossibleAckHolder s' c →
      (s'.history.party c).Holder :=
    fun c hc => PossibleAckHolder.holder (hinv'.numbered c hc)
  refine ⟨fun hack c hc hc' => ?_, fun c hc hc' => ?_⟩
  · have hphase : s'.handover.phase = .granting := by
      simp [FfsplitState.handover, sendingAcks_of_queuesAck hinv hok hstep hack,
        FfsplitClusterState.phase]
    exact hinv'.safe.granting hphase _ (List.mem_map_of_mem hc) (hholder c hc hc')
  · exact hinv'.safe.holder_granted _ (List.mem_map_of_mem hc) (hholder c hc hc')

/-- Node 2 answers its NACK, and the ACK for node 1 is queued. -/
theorem ffsplit_ack_exclusion_split : ∃ s s',
    (ffsplitMachine .plain 0 [97]).execWhile (fun s e => decide (FfsplitOk s e))
      (ffsplitMachine .plain 0 [97]).init ffsplitSplit = some s ∧
    (ffsplitMachine .plain 0 [97]).step s (.voteInfoReply .ok 2) = some s' ∧ QueuesAck s s' ∧
    ∀ c ∈ s'.cluster.clientList, PossibleAckHolder s' c →
      s'.cluster.algorithmData.quoratePartitionNodeList.HasNode c.nodeId := by
  have hrun : ((ffsplitMachine .plain 0 [97]).execWhile (fun s e => decide (FfsplitOk s e))
      (ffsplitMachine .plain 0 [97]).init ffsplitSplit).any (fun s =>
        decide (FfsplitOk s (.voteInfoReply .ok 2)) &&
        (ffsplitStep .plain s (.voteInfoReply .ok 2)).any fun s' =>
          (s.cluster.client? 1).any fun c => (s'.cluster.client? 1).any fun c' =>
            c.voteInfos.isEmpty && c'.voteInfos[0]?.any fun v => v.vote == .ack && v.queued) := by
    decide +kernel
  simp only [Option.any_eq_true, Bool.and_eq_true, decide_eq_true_eq, beq_iff_eq,
    List.isEmpty_iff] at hrun
  obtain ⟨s, hs, hok, s', hs', c, hc, c', hc', hempty, v, hv, hack, hqueued⟩ := hrun
  have hreach : (ffsplitMachine .plain 0 [97]).Reach FfsplitOk s :=
    Runs.Machine.Reach.execWhile (fun s e h => of_decide_eq_true h) .init hs
  have hqueues : QueuesAck s s' :=
    ⟨c, client?_mem hc, c', client?_mem hc', (client?_id hc').trans (client?_id hc).symm, 0, v,
      by simp [hempty], hv, hack, hqueued⟩
  exact ⟨s, s', hs, hs', hqueues, (ffsplit_ack_exclusion .plain 0 [97] hreach hok hs').1 hqueues⟩

/-! ### Completeness -/

/-- While NACKs are sent, a client waiting for its ACK replies to its newest vote info.  No vote
    info of this round was sent to it, so the reply belongs to an earlier one. -/
def StaleReply (s : FfsplitState) : FfsplitEvent → Prop
  | .cluster .. => False
  | .voteInfoReply _ id => s.cluster.algorithmData.clusterState = .sendingNacks ∧
      ∃ client ∈ s.cluster.client? id, client.ffsplitData.clientState = .sendingAck ∧
        ∃ i ∈ nextVoteInfo client (s.history.answered id), ∃ v ∈ client.voteInfos[i]?,
          client.ffsplitData.voteInfoExpectedSeqNum = v.msgSeqNumber

/-- The events of a run without stale replies. -/
def FfsplitRoundOk (s : FfsplitState) (e : FfsplitEvent) : Prop := FfsplitOk s e ∧ ¬ StaleReply s e

instance (s : FfsplitState) : DecidablePred (StaleReply s)
  | .cluster .. => isFalse id
  | .voteInfoReply _ id => inferInstanceAs (Decidable
      (s.cluster.algorithmData.clusterState = .sendingNacks ∧
        ∃ client ∈ s.cluster.client? id, client.ffsplitData.clientState = .sendingAck ∧
          ∃ i ∈ nextVoteInfo client (s.history.answered id), ∃ v ∈ client.voteInfos[i]?,
            client.ffsplitData.voteInfoExpectedSeqNum = v.msgSeqNumber))

instance (s : FfsplitState) (e : FfsplitEvent) : Decidable (FfsplitRoundOk s e) :=
  inferInstanceAs (Decidable (FfsplitOk s e ∧ ¬ StaleReply s e))

/-- In the current round a vote info with this vote was queued to the client, and the client
    has replied to it. -/
def AnsweredInRound (s : FfsplitState) (c : QnetdClient) (vote : TlvVote) : Prop :=
  ∃ i v, s.history.start c.id ≤ i ∧ i < s.history.answered c.id ∧ c.voteInfos[i]? = some v ∧
    v.vote = vote ∧ v.queued = true

/-- A reply that is not stale is not stale in the handover. -/
theorem not_stale {s : FfsplitState} {env : Env} {client client' : QnetdClient}
    {cluster₁ : QnetdCluster} {i : Nat} {v : VoteInfo} (hinv : FfsplitInv s)
    (hread : ReadReply s client client' cluster₁ i v)
    (h : ¬ StaleReply s (.voteInfoReply env client.id)) :
    ¬ Handover.Stale s.handover (s.history.party client) i := by
  rintro ⟨hphase, hrole, hlen⟩
  have hnewest : client.ffsplitData.voteInfoExpectedSeqNum = v.msgSeqNumber := by
    have hdata : client'.ffsplitData = client.ffsplitData := congrArg Ballot.data hread.ballot
    rw [← hdata]
    exact (hread.newest_iff hinv).mpr (by simpa [FfsplitHistory.party] using hlen)
  refine h ⟨?_, client, hinv.registered.client?_of_mem hread.mem, ?_, i, hread.next, v,
    hread.voteInfo, hnewest⟩
  · simp only [FfsplitState.handover] at hphase
    cases hstate : s.cluster.algorithmData.clusterState <;>
      simp [hstate, FfsplitClusterState.phase] at hphase ⊢
  · simp only [FfsplitHistory.party] at hrole
    cases hstate : client.ffsplitData.clientState <;>
      simp [hstate, FfsplitClientState.role] at hrole ⊢

/-- What a round owes stays owed. -/
theorem complete_step {settings : Settings} {s s' : FfsplitState} {e : FfsplitEvent}
    (hinv : FfsplitInv s) (hcomplete : Handover.Complete s.handover) (hok : FfsplitRoundOk s e)
    (h : ffsplitStep settings s e = some s') : Handover.Complete s'.handover := by
  obtain ⟨hok, hstale⟩ := hok
  cases e with
  | cluster env event =>
    simp only [ffsplitStep] at h
    split at h
    · cases h
    · next cluster' log hstep =>
      cases h
      have hreg' := registered_clusterStep hinv.registered hok.1 hstep
      cases event with
      | init conn msg =>
        cases hstep
        exact hcomplete.step (init_refines hinv hok.1)
      | message | algoTimer | disconnect =>
        exact hcomplete.step
          ((ffsplit_votes_cases hinv.registered (by simp) hok.2 hstep).refines hinv hreg')
  | voteInfoReply env id =>
    rcases ffsplitReply_cases hinv hok h with ⟨cluster', hcase, hreg', -, rfl⟩ |
      ⟨client, client', cluster₁, i, v, result, rfl, hread, hresult, rfl⟩
    · exact hcomplete.step (hcase.refines hinv hreg')
    · have hnot := not_stale hinv hread hstale
      have haccept {s₁ : Handover.State ClientId UInt32} (hstep : Handover.Step
          (fun _ q j => q = s.history.party client ∧ j = i) s.handover s₁) :
          Handover.Complete s₁ :=
        hcomplete.step (hstep.mono fun q j hq => by rw [hq.1, hq.2]; exact hnot)
      cases reply_refines hinv hread hresult with
      | answered hstep hphase => exact haccept hstep
      | acks s₁ hstep hgrants hphase =>
        exact (haccept hstep).step (hgrants.mono fun _ _ h => h.elim)
      | done s₁ hstep hdone hnone hphase hgranted hparties =>
        exact Handover.complete_of_rest (.inl hphase)

theorem ffsplit_complete {settings : Settings} {id : ClusterId} {name : List UInt8}
    {s : FfsplitState} (h : (ffsplitMachine settings id name).Reach FfsplitRoundOk s) :
    FfsplitInv s ∧ Handover.Complete s.handover := by
  refine h.invariant (fun s => FfsplitInv s ∧ Handover.Complete s.handover)
    ⟨ffsplitInv_init id name, Handover.complete_of_rest (.inl rfl)⟩ fun _ hinv hok hstep => ?_
  exact ⟨hinv.1.step hok.1 hstep, complete_step hinv.1 hinv.2 hok hstep⟩

/-- An answer in the handover is one of the client. -/
theorem answeredInRound_of_hasAnswered {s : FfsplitState} {c : QnetdClient} {grant : Bool}
    (hnumbered : Numbered c) (h : (s.history.party c).HasAnswered grant) :
    AnsweredInRound s c (if grant then .ack else .nack) := by
  obtain ⟨i, hstart, hanswered, hi⟩ := h
  simp only [FfsplitHistory.party, List.getElem?_map, Option.map_eq_some_iff] at hi
  obtain ⟨v, hv, hmessage⟩ := hi
  simp only [VoteInfo.message, Handover.Msg.mk.injEq] at hmessage
  refine ⟨i, v, hstart, hanswered, hv, ?_, hmessage.2⟩
  rcases (hnumbered.numbers i v hv).2 with hack | hnack
  · simp [← hmessage.1, hack]
  · simp [← hmessage.1, hnack]

/-- A reply that ends a round finds everything done. -/
theorem roundDone_of_reply {settings : Settings} {s s' : FfsplitState} {env : Env} {id : ClientId}
    (hinv : FfsplitInv s) (hcomplete : Handover.Complete s.handover)
    (hok : FfsplitRoundOk s (.voteInfoReply env id))
    (h : ffsplitStep settings s (.voteInfoReply env id) = some s')
    (hbefore : s.cluster.algorithmData.clusterState ≠ .waitingForChange)
    (hafter : s'.cluster.algorithmData.clusterState = .waitingForChange) :
    Handover.RoundDone s'.handover := by
  obtain ⟨hok, hstale⟩ := hok
  rcases ffsplitReply_cases hinv hok h with ⟨cluster', -, -, hdata, rfl⟩ |
    ⟨client, client', cluster₁, i, v, result, rfl, hread, hresult, rfl⟩
  · exact absurd (hdata ▸ hafter) hbefore
  · have hphase' : (FfsplitState.handover ⟨result.cluster, (s.history.answer client.id
        (i + 1)).advance s.cluster result.cluster result.log⟩).phase = .idle :=
      congrArg FfsplitClusterState.phase hafter
    cases reply_refines hinv hread hresult with
    | answered hstep hphase =>
      rw [hphase] at hphase'
      simp only [FfsplitState.handover] at hphase'
      cases hstate : s.cluster.algorithmData.clusterState <;>
        simp [hstate, FfsplitClusterState.phase] at hphase' hbefore
    | acks s₁ hstep hgrants hphase => cases hphase'.symm.trans hphase
    | done s₁ hstep hdone hnone hphase hgranted hparties =>
      have hnot := not_stale hinv hread hstale
      have hcomplete₁ : Handover.Complete s₁ :=
        hcomplete.step (hstep.mono fun q j hq => by rw [hq.1, hq.2]; exact hnot)
      exact fun p hp => hcomplete₁.roundDone hdone hnone p (hparties p hp)

/-- In every run without stale replies: whenever a reply ends a round, every client has been
    queued the vote the round owed it and has replied to it; and every vote info carries the ring
    id that its client has at that time, or reports in the very message being handled. -/
theorem ffsplit_round_complete (settings : Settings) (id : ClusterId) (name : List UInt8)
    {s s' : FfsplitState} {e : FfsplitEvent}
    (hs : (ffsplitMachine settings id name).Reach FfsplitRoundOk s) (hok : FfsplitRoundOk s e)
    (hstep : (ffsplitMachine settings id name).step s e = some s') :
    (∀ env j, e = .voteInfoReply env j →
      s.cluster.algorithmData.clusterState ≠ .waitingForChange →
      s'.cluster.algorithmData.clusterState = .waitingForChange →
      ∀ c ∈ s'.cluster.clientList,
        (s'.history.assigned c.id = .sendingAck → AnsweredInRound s' c .ack) ∧
        (s'.history.assigned c.id = .sendingNack → AnsweredInRound s' c .nack)) ∧
    ∀ c ∈ s.cluster.clientList, ∀ c' ∈ s'.cluster.clientList, c'.id = c.id →
      ∀ i v, c.voteInfos.length ≤ i → c'.voteInfos[i]? = some v →
        v.ringId = c'.lastRingId ∨ e.reportedRing c'.id = some v.ringId := by
  obtain ⟨hinv, hcomplete⟩ := ffsplit_complete hs
  have hinv' := hinv.step hok.1 hstep
  refine ⟨?_, ?_⟩
  · rintro env j rfl hbefore hafter c hc
    -- The reply has ended the round, so all parties have done their part of it.
    have hdone := roundDone_of_reply hinv hcomplete hok hstep hbefore hafter _
      (List.mem_map_of_mem hc)
    refine ⟨fun hassigned => ?_, fun hassigned => ?_⟩
    · exact answeredInRound_of_hasAnswered (hinv'.numbered c hc)
        (hdone.2 (by simp [FfsplitHistory.party, hassigned, FfsplitClientState.role]))
    · exact answeredInRound_of_hasAnswered (hinv'.numbered c hc)
        (hdone.1 (by simp [FfsplitHistory.party, hassigned, FfsplitClientState.role]))
  · intro c hc c' hc' hid i v hi hv
    -- A vote info beyond the earlier ones was sent in this step.
    rcases ffsplitStep_castVote hinv hok.1 hstep c' hc' with ⟨hvotes, -⟩ |
      ⟨d, hd, state, vote, hcast, -⟩
    · simp [hvotes] at hv
    · obtain rfl := hinv.registered.eq_of_id hd hc (hcast.id.symm.trans hid)
      exact (sentVote_beyond hcast.sent hi hv).2

/-- Node 2 and then node 1 answer, and the round is over. -/
theorem ffsplit_round_complete_split : ∃ s s',
    (ffsplitMachine .plain 0 [97]).execWhile (fun s e => decide (FfsplitRoundOk s e))
      (ffsplitMachine .plain 0 [97]).init (ffsplitSplit ++ [.voteInfoReply .ok 2]) = some s ∧
    (ffsplitMachine .plain 0 [97]).step s (.voteInfoReply .ok 1) = some s' ∧
    s.cluster.algorithmData.clusterState = .sendingAcks ∧
    s'.cluster.algorithmData.clusterState = .waitingForChange ∧
    ∀ c ∈ s'.cluster.clientList,
      (s'.history.assigned c.id = .sendingAck → AnsweredInRound s' c .ack) ∧
      (s'.history.assigned c.id = .sendingNack → AnsweredInRound s' c .nack) := by
  have hrun : ((ffsplitMachine .plain 0 [97]).execWhile (fun s e => decide (FfsplitRoundOk s e))
      (ffsplitMachine .plain 0 [97]).init (ffsplitSplit ++ [.voteInfoReply .ok 2])).any (fun s =>
        decide (FfsplitRoundOk s (.voteInfoReply .ok 1)) &&
        decide (s.cluster.algorithmData.clusterState = .sendingAcks) &&
        (ffsplitStep .plain s (.voteInfoReply .ok 1)).any fun s' =>
          decide (s'.cluster.algorithmData.clusterState = .waitingForChange)) := by
    decide +kernel
  simp only [Option.any_eq_true, Bool.and_eq_true, decide_eq_true_eq] at hrun
  obtain ⟨s, hs, ⟨hok, hacks⟩, s', hs', hdone⟩ := hrun
  have hreach : (ffsplitMachine .plain 0 [97]).Reach FfsplitRoundOk s :=
    Runs.Machine.Reach.execWhile (fun s e h => of_decide_eq_true h) .init hs
  exact ⟨s, s', hs, hs', hacks, hdone, (ffsplit_round_complete .plain 0 [97] hreach hok hs').1 .ok 1
    rfl (by simp [hacks]) hdone⟩

/-- With stale replies a vote is lost.  The heuristics of node 1 fail before node 2 has answered its
    NACKs, so node 2 is selected; its replies to the old NACKs then end the wait for it, and when
    node 1 answers its own NACK there is nobody left to send an ACK to. -/
theorem ffsplit_round_incomplete : ∃ s s',
    (ffsplitMachine .plain 0 [97]).execWhile (fun s e => decide (FfsplitOk s e))
      (ffsplitMachine .plain 0 [97]).init (ffsplitSplit ++
        [ffsplitMessage 2 (membershipNodeListMsg ⟨2, 5⟩ [2] .pass),
          ffsplitMessage 1 (heuristicsChangeMsg .fail), .voteInfoReply .ok 2,
          .voteInfoReply .ok 2]) = some s ∧
    FfsplitOk s (.voteInfoReply .ok 1) ∧
    (ffsplitMachine .plain 0 [97]).step s (.voteInfoReply .ok 1) = some s' ∧
    s.cluster.algorithmData.clusterState = .sendingNacks ∧
    s'.cluster.algorithmData.clusterState = .waitingForChange ∧
    ∃ c ∈ s'.cluster.clientList, s'.history.assigned c.id = .sendingAck ∧
      ¬ AnsweredInRound s' c .ack := by
  have hrun : ((ffsplitMachine .plain 0 [97]).execWhile (fun s e => decide (FfsplitOk s e))
      (ffsplitMachine .plain 0 [97]).init (ffsplitSplit ++
        [ffsplitMessage 2 (membershipNodeListMsg ⟨2, 5⟩ [2] .pass),
          ffsplitMessage 1 (heuristicsChangeMsg .fail), .voteInfoReply .ok 2,
          .voteInfoReply .ok 2])).any (fun s =>
        decide (FfsplitOk s (.voteInfoReply .ok 1)) &&
        decide (s.cluster.algorithmData.clusterState = .sendingNacks) &&
        (ffsplitStep .plain s (.voteInfoReply .ok 1)).any fun s' =>
          decide (s'.cluster.algorithmData.clusterState = .waitingForChange) &&
          s'.cluster.clientList.any fun c => decide (s'.history.assigned c.id = .sendingAck) &&
            c.voteInfos.all fun v => decide (v.vote ≠ .ack)) := by
    decide +kernel
  simp only [Option.any_eq_true, List.any_eq_true, List.all_eq_true, Bool.and_eq_true,
    decide_eq_true_eq] at hrun
  obtain ⟨s, hs, ⟨hok, hnacks⟩, s', hs', hdone, c, hc, hassigned, hno⟩ := hrun
  refine ⟨s, s', hs, hok, hs', hnacks, hdone, c, hc, hassigned, ?_⟩
  rintro ⟨i, v, -, -, hv, hack, -⟩
  exact hno v (List.mem_of_getElem? hv) hack

end Qdevice.Qnetd
