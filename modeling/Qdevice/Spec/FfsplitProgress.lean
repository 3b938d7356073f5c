import Qdevice.Spec.FfsplitPendingRun

/-! # Every ffsplit round comes to an end

While a cluster sends NACKs or ACKs it is always some client's turn: one whose disconnect is
scheduled, or one that has a queued vote info to reply to.  And each such reply or disconnect
brings the end of the waiting nearer, so there can only be so many of them in a row.  The one thing
that could leave a cluster waiting for ever is a vote that cannot be queued while another client is
being disconnected, because then nobody's disconnect is scheduled for it. -/

namespace Qdevice.Qnetd

/-! ### The end of a round -/

/-- What can still happen to a client: its open vote infos, and that it is disconnected. -/
def clientWork (history : FfsplitHistory) (c : QnetdClient) : Nat :=
  (c.voteInfos.length - history.answered c.id) + if c.scheduleDisconnect then 0 else 1

/-- How many more replies and disconnects there can be.  The ACKs of the round are still to come
    while NACKs are sent, and every disconnect begins a round with one client less. -/
def ffsplitWork (s : FfsplitState) : Nat :=
  (s.cluster.clientList.map (clientWork s.history)).sum +
    (if s.cluster.algorithmData.clusterState = .sendingNacks then s.cluster.clientList.length
      else 0) +
    s.cluster.clientList.length * (s.cluster.clientList.length + 1)

/-- It is the turn of a client: it replies to an open vote info, or it is disconnected because that
    has been scheduled. -/
def ClientsTurn (s : FfsplitState) : FfsplitEvent → Prop
  | .voteInfoReply _ id => ∃ c ∈ s.cluster.client? id, c.scheduleDisconnect = false ∧
      (nextVoteInfo c (s.history.answered id)).isSome = true
  | .cluster env (.disconnect id serverGoingDown) =>
    (∃ c ∈ s.cluster.client? id, c.scheduleDisconnect = true) ∧ serverGoingDown = false ∧
      ∀ c ∈ s.cluster.clientList, env.voteInfoQueued c.id = true
  | .cluster _ (.init ..) | .cluster _ (.message ..) | .cluster _ (.algoTimer _) => False

instance (s : FfsplitState) : DecidablePred (ClientsTurn s)
  | .voteInfoReply _ id => inferInstanceAs (Decidable
      (∃ c ∈ s.cluster.client? id, c.scheduleDisconnect = false ∧
        (nextVoteInfo c (s.history.answered id)).isSome = true))
  | .cluster env (.disconnect id serverGoingDown) => inferInstanceAs (Decidable
      ((∃ c ∈ s.cluster.client? id, c.scheduleDisconnect = true) ∧ serverGoingDown = false ∧
        ∀ c ∈ s.cluster.clientList, env.voteInfoQueued c.id = true))
  | .cluster _ (.init ..) | .cluster _ (.message ..) | .cluster _ (.algoTimer _) => isFalse id

theorem ClientsTurn.up {s : FfsplitState} {e : FfsplitEvent} (h : ClientsTurn s e) :
    FfsplitUp s e := by
  cases e with
  | voteInfoReply env id => exact ⟨trivial, trivial⟩
  | cluster env event =>
    cases event with
    | init | message | algoTimer => exact h.elim
    | disconnect id serverGoingDown => exact ⟨h.2, trivial, trivial⟩

theorem Unsent.work_le {c c' : QnetdClient} (history : FfsplitHistory) (h : Unsent c c') :
    clientWork history c' ≤ clientWork history c := by
  unfold clientWork
  rw [h.grown.id, length_of_votes h.votes]
  by_cases hsched : c.scheduleDisconnect = true
  · simp [hsched, h.grown.scheduled hsched]
  · simp only [hsched]
    split <;> simp

theorem Grown.work_le {c c' : QnetdClient} (history : FfsplitHistory) (h : Grown c c') :
    clientWork history c' ≤ clientWork history c + 1 := by
  have hlength := h.length_le
  unfold clientWork
  rw [h.id]
  by_cases hsched : c.scheduleDisconnect = true
  · simp only [hsched, h.scheduled hsched, if_true]
    omega
  · simp only [hsched]
    split <;> simp <;> omega

theorem clientWork_congr {history history' : FfsplitHistory}
    (h : history'.answered = history.answered) : clientWork history' = clientWork history := by
  funext c
  rw [clientWork, clientWork, h]

/-- The work that is left does not grow if nothing is sent. -/
theorem ffsplitWork_le {cluster cluster' : QnetdCluster} {history history' : FfsplitHistory}
    (hclients : List.Forall₂ Unsent cluster.clientList cluster'.clientList)
    (hstate : cluster'.algorithmData.clusterState = .sendingNacks →
      cluster.algorithmData.clusterState = .sendingNacks)
    (hanswered : history'.answered = history.answered) :
    ffsplitWork ⟨cluster', history'⟩ ≤ ffsplitWork ⟨cluster, history⟩ := by
  have hsum := List.Forall₂.sum_map_le (hclients.imp fun c c' h => h.work_le history)
  have hlength := hclients.length_eq
  unfold ffsplitWork
  dsimp only
  rw [clientWork_congr hanswered, ← hlength]
  by_cases hnacks : cluster'.algorithmData.clusterState = .sendingNacks
  · rw [if_pos hnacks, if_pos (hstate hnacks)]
    omega
  · rw [if_neg hnacks]
    split <;> omega

/-- An answer is work that is done. -/
theorem ffsplitWork_answer {cluster : QnetdCluster} {history : FfsplitHistory}
    {client : QnetdClient} {i : Nat} {algorithm : UInt16} (hreg : Registered algorithm cluster)
    (hclient : client ∈ cluster.clientList)
    (hnext : nextVoteInfo client (history.answered client.id) = some i) :
    ffsplitWork ⟨cluster, history.answer client.id (i + 1)⟩ < ffsplitWork ⟨cluster, history⟩ := by
  obtain ⟨hle, v, hv, -⟩ := nextVoteInfo_eq_some hnext
  have hi : i < client.voteInfos.length := (List.getElem?_eq_some_iff.mp hv).1
  have hsum : (cluster.clientList.map (clientWork (history.answer client.id (i + 1)))).sum <
      (cluster.clientList.map (clientWork history)).sum := by
    apply List.Forall₂.sum_map_lt (p := fun c => c.id = client.id) _ hclient rfl
    rw [List.forall₂_same]
    intro c hc
    by_cases hid : c.id = client.id
    · obtain rfl := hreg.eq_of_id hc hclient hid
      have hless : clientWork (history.answer c.id (i + 1)) c < clientWork history c := by
        simp only [clientWork, FfsplitHistory.answer, if_true]
        omega
      exact ⟨Nat.le_of_lt hless, fun _ => hless⟩
    · refine ⟨?_, fun heq => absurd heq hid⟩
      simp only [clientWork, FfsplitHistory.answer, if_neg hid]
      exact Nat.le_refl _
  unfold ffsplitWork
  dsimp only
  omega

/-- A reply that is read brings the end of the round nearer, even if it is what the ACKs have been
    waiting for. -/
theorem ReplyPending.work_lt {env : Env} {cluster cluster' : QnetdCluster} {client : QnetdClient}
    {history history' : FfsplitHistory} {i : Nat} {seq : UInt32} {algorithm : UInt16}
    (h : ReplyPending env cluster client seq cluster') (hreg : Registered algorithm cluster)
    (hclient : client ∈ cluster.clientList)
    (hnext : nextVoteInfo client (history.answered client.id) = some i)
    (hanswered : history'.answered = (history.answer client.id (i + 1)).answered) :
    ffsplitWork ⟨cluster', history'⟩ < ffsplitWork ⟨cluster, history⟩ := by
  have hless := ffsplitWork_answer hreg hclient hnext
  have hunsent := (answeredCluster_clients cluster client).imp fun _ _ h => h.1
  cases h with
  | old hseq hcluster =>
    subst hcluster
    have hle := ffsplitWork_le ((sameDuty_refl cluster'.clientList).imp fun _ _ => SameDuty.unsent)
      id hanswered
    omega
  | answered hseq hcluster hsome =>
    subst hcluster
    have hle := ffsplitWork_le hunsent (fun h => h) hanswered
    omega
  | acks hseq hstate hstate' hdecided =>
    have hle : ffsplitWork ⟨answeredCluster cluster client, history'⟩ ≤
        ffsplitWork ⟨cluster, history.answer client.id (i + 1)⟩ :=
      ffsplitWork_le hunsent (fun h => h) hanswered
    have hsum := List.Forall₂.sum_map_le_add_length
      (hdecided.grown.imp fun c c' h => h.work_le history')
    have hlength := hdecided.grown.length_eq
    -- the ACKs were accounted for while the NACKs were sent
    have hacks : ffsplitWork ⟨cluster', history'⟩ ≤
        ffsplitWork ⟨answeredCluster cluster client, history'⟩ := by
      have hnacks : (answeredCluster cluster client).algorithmData.clusterState = .sendingNacks :=
        hstate
      unfold ffsplitWork
      dsimp only
      rw [if_pos hnacks, if_neg hstate', ← hlength]
      omega
    omega
  | done hseq hstate' hclients' =>
    have hle : ffsplitWork ⟨cluster', history'⟩ ≤
        ffsplitWork ⟨cluster, history.answer client.id (i + 1)⟩ := by
      apply ffsplitWork_le (hclients' ▸ hunsent) _ hanswered
      intro h
      rw [hstate'] at h
      cases h
    omega

/-- A client whose reply is not read has to be disconnected, which is work that is done. -/
theorem ffsplitWork_dropped {cluster : QnetdCluster} {history history' : FfsplitHistory}
    {client : QnetdClient} {algorithm : UInt16} (hreg : Registered algorithm cluster)
    (hclient : client ∈ cluster.clientList) (hsched : client.scheduleDisconnect = false)
    (hanswered : history'.answered = history.answered) :
    ffsplitWork ⟨cluster.scheduleDisconnect client.id, history'⟩ <
      ffsplitWork ⟨cluster, history⟩ := by
  have hduty := sameDuty_scheduleDisconnect cluster client.id
  have hsum : ((cluster.scheduleDisconnect client.id).clientList.map (clientWork history)).sum <
      (cluster.clientList.map (clientWork history)).sum := by
    apply List.Forall₂.sum_map_lt (p := fun c => c.id = client.id) _ hclient rfl
    rw [QnetdCluster.scheduleDisconnect, QnetdCluster.modifyClient, List.forall₂_map_right_iff,
      List.forall₂_same]
    intro c hc
    split
    · next hid =>
      obtain rfl := hreg.eq_of_id hc hclient hid
      have hless : clientWork history { c with scheduleDisconnect := true } <
          clientWork history c := by
        simp [clientWork, hsched]
      exact ⟨Nat.le_of_lt hless, fun _ => hless⟩
    · next hid => exact ⟨Nat.le_refl _, fun heq => absurd heq hid⟩
  have hlength := hduty.length_eq
  unfold ffsplitWork
  dsimp only
  rw [clientWork_congr hanswered, ← hlength, QnetdCluster.scheduleDisconnect_algorithmData]
  omega

/-- A disconnect begins a round with a client less. -/
theorem ffsplitWork_left {env : Env} {cluster cluster' result : QnetdCluster}
    {client client' : QnetdClient} {history history' : FfsplitHistory}
    (hclient : client ∈ cluster.clientList)
    (hdecided : Decided env client' true cluster.clientList result)
    (hclients : cluster'.clientList = result.clientList.filter (·.id ≠ client.id))
    (hanswered : history'.answered = history.answered) :
    ffsplitWork ⟨cluster', history'⟩ < ffsplitWork ⟨cluster, history⟩ := by
  have hsum := List.Forall₂.sum_map_le_add_length
    (hdecided.grown.imp fun c c' h => h.work_le history)
  have hfilter := List.sum_map_filter_le (clientWork history) (·.id ≠ client.id) result.clientList
  have hfewer : cluster'.clientList.length < cluster.clientList.length := by
    obtain ⟨c', hc', hgrown⟩ := hdecided.grown.exists_right hclient
    rw [hclients, hdecided.grown.length_eq, List.length_filter_lt_length_iff_exists]
    exact ⟨c', hc', by simp [hgrown.id]⟩
  unfold ffsplitWork
  dsimp only
  rw [clientWork_congr hanswered]
  rw [← hclients] at hfilter
  generalize (cluster'.clientList.map (clientWork history)).sum = work' at *
  generalize (result.clientList.map (clientWork history)).sum = work₁ at *
  generalize (cluster.clientList.map (clientWork history)).sum = work at *
  generalize cluster'.clientList.length = n' at *
  generalize cluster.clientList.length = n at *
  have hsquare : n' * (n' + 1) + n' + n + 1 ≤ n * (n + 1) := by
    have h := Nat.mul_le_mul hfewer hfewer
    simp only [Nat.succ_eq_add_one, Nat.add_mul, Nat.mul_add] at h ⊢
    omega
  split <;> split <;> omega

/-- Every turn of a client brings the end nearer. -/
theorem ClientsTurn.work_lt {settings : Settings} {s s' : FfsplitState} {e : FfsplitEvent}
    (h : ClientsTurn s e) (hpending : RoundPending settings s)
    (hstep : ffsplitStep settings s e = some s') : ffsplitWork s' < ffsplitWork s := by
  cases e with
  | voteInfoReply env id =>
    obtain ⟨client, hclient, hsched, hopen⟩ := h
    have hmem := client?_mem hclient
    obtain rfl := client?_id hclient
    obtain ⟨i, hnext⟩ := Option.isSome_iff_exists.mp hopen
    obtain ⟨-, v, hv, -⟩ := nextVoteInfo_eq_some hnext
    obtain ⟨cluster, history⟩ := s'
    unfold ffsplitStep ffsplitReply at hstep
    dsimp only at hstep
    rw [hclient] at hstep
    dsimp only at hstep
    rw [hnext] at hstep
    dsimp only at hstep
    rw [hv] at hstep
    dsimp only at hstep
    split at hstep
    · cases hstep
    · next cluster' log hmessage =>
      cases hstep
      -- A reply is read, and one open vote info is gone, or its sender is to be disconnected.
      cases clusterMessage_reply hpending.registered hclient hsched hmessage with
      | refused hrequired htls hread =>
        rw [hpending.tls hrequired client hmem] at htls
        cases htls
      | dropped hread hcluster =>
        subst hcluster
        apply ffsplitWork_dropped hpending.registered hmem hsched
        rw [hread]
        exact FfsplitHistory.advance_answered
      | read hread client' cluster₁ hmem' hduty hsame hdata hclients hpending' =>
        have hle : ffsplitWork ⟨cluster₁, s.history⟩ ≤ ffsplitWork s :=
          ffsplitWork_le (hclients.imp fun _ _ => SameDuty.unsent) (fun h => hdata ▸ h) rfl
        have hnext' : nextVoteInfo client' (s.history.answered client'.id) = some i := by
          rw [nextVoteInfo, hduty.voteInfos, hduty.id]
          exact hnext
        refine Nat.lt_of_lt_of_le (hpending'.work_lt (hpending.registered.of_same hsame) hmem'
          hnext' ?_) hle
        rw [FfsplitHistory.advance_answered, if_pos hread, hduty.id]
  | cluster env event =>
    cases event with
    | init | message | algoTimer => exact h.elim
    | disconnect id serverGoingDown =>
      obtain ⟨⟨client, hclient, -⟩, rfl, -⟩ := h
      unfold ffsplitStep at hstep
      dsimp only at hstep
      split at hstep
      · cases hstep
      · next cluster' log hcluster =>
        cases hstep
        -- There is one client less, whatever is decided about the others.
        rcases clusterDisconnect_pending hpending.registered hcluster with
          ⟨-, hnone⟩ | ⟨client', result, hclient', hdecided, hclients, -⟩
        · rw [hclient] at hnone
          cases hnone
        · obtain rfl := client?_id hclient
          exact ffsplitWork_left (client?_mem hclient) hdecided hclients
            FfsplitHistory.advance_answered

/-- Whoever owes a reply has something to answer. -/
theorem OwesReply.next {history : FfsplitHistory} {c : QnetdClient} (h : OwesReply history c) :
    (nextVoteInfo c (history.answered c.id)).isSome = true := by
  obtain ⟨v, hv, hqueued, hopen⟩ := h
  rw [nextVoteInfo, Option.isSome_map, List.findIdx?_isSome, List.any_eq_true]
  refine ⟨v, ?_, hqueued⟩
  have hlast : (c.voteInfos.drop (history.answered c.id)).getLast? = some v := by
    rw [List.getLast?_drop, if_neg (by omega), hv]
  exact List.mem_of_getLast? hlast

/-- While the cluster waits, it is some client's turn. -/
theorem RoundPending.clientsTurn {settings : Settings} {s : FfsplitState}
    (h : RoundPending settings s) (state : FfsplitClientState)
    (hstate : s.cluster.algorithmData.clusterState.awaited = some state) :
    ∃ e, ClientsTurn s e := by
  -- a disconnect that is scheduled, or the reply of a client that is waited for
  have hdisconnect (c : QnetdClient) (hc : c ∈ s.cluster.clientList)
      (hsched : c.scheduleDisconnect = true) : ∃ e, ClientsTurn s e :=
    ⟨.cluster .ok (.disconnect c.id false), ⟨c, h.registered.client?_of_mem hc, hsched⟩, rfl,
      fun _ _ => rfl⟩
  rcases h.owed state hstate with ⟨c, hc, hsched⟩ | howes
  · exact hdisconnect c hc hsched
  · obtain ⟨c, hc, hcstate⟩ := h.awaited state hstate
    by_cases hsched : c.scheduleDisconnect = true
    · exact hdisconnect c hc hsched
    · exact ⟨.voteInfoReply .ok c.id, c, h.registered.client?_of_mem hc, by simpa using hsched,
        (howes c hc hcstate).next⟩

/-- In every run in which no vote is lost at a disconnect: while NACKs or ACKs are being sent, it is
    always some client's turn to reply or to be disconnected, and there can be no more such turns
    in a row than `ffsplitWork` says.  So if the clients do their part, every round ends, unless a
    disconnect makes the server abort. -/
theorem ffsplit_rounds_end (settings : Settings) (id : ClusterId) (name : List UInt8)
    {s : FfsplitState} (hs : (ffsplitMachine settings id name).Reach FfsplitUp s) :
    ((s.cluster.algorithmData.clusterState = .sendingNacks ∨
        s.cluster.algorithmData.clusterState = .sendingAcks) → ∃ e, ClientsTurn s e) ∧
      ∀ es s', (ffsplitMachine settings id name).execWhile (fun s e => decide (ClientsTurn s e))
        s es = some s' → es.length + ffsplitWork s' ≤ ffsplitWork s := by
  have hpending := roundPending_of_reach hs
  constructor
  · rintro (hstate | hstate)
    · exact hpending.clientsTurn .sendingNack (by rw [hstate]; rfl)
    · exact hpending.clientsTurn .sendingAck (by rw [hstate]; rfl)
  · intro es s' h
    -- Every turn lowers the work that is left, so there are no more turns than work.
    refine (Runs.Machine.execWhile_length_le (I := RoundPending settings)
      (fun hpending hturn hstep => ?_) hpending h).2
    have hturn := of_decide_eq_true hturn
    exact ⟨hpending.step hturn.up hstep, hturn.work_lt hpending hstep⟩

/-- After a split of two nodes there can be at most eleven turns, and two of them end the round. -/
theorem ffsplit_rounds_end_split : ∃ s s',
    (ffsplitMachine .plain 0 [97]).execWhile (fun s e => decide (FfsplitUp s e))
      (ffsplitMachine .plain 0 [97]).init ffsplitSplit = some s ∧
    s.cluster.algorithmData.clusterState = .sendingNacks ∧ (∃ e, ClientsTurn s e) ∧
    (ffsplitMachine .plain 0 [97]).execWhile (fun s e => decide (ClientsTurn s e))
      s [.voteInfoReply .ok 2, .voteInfoReply .ok 1] = some s' ∧
    s'.cluster.algorithmData.clusterState = .waitingForChange ∧ 2 + ffsplitWork s' ≤ 11 := by
  have hrun : ((ffsplitMachine .plain 0 [97]).execWhile (fun s e => decide (FfsplitUp s e))
      (ffsplitMachine .plain 0 [97]).init ffsplitSplit).any (fun s =>
        s.cluster.algorithmData.clusterState == .sendingNacks && ffsplitWork s == 11 &&
        ((ffsplitMachine .plain 0 [97]).execWhile (fun s e => decide (ClientsTurn s e))
          s [.voteInfoReply .ok 2, .voteInfoReply .ok 1]).any fun s' =>
            s'.cluster.algorithmData.clusterState == .waitingForChange) := by
    decide +kernel
  simp only [Option.any_eq_true, Bool.and_eq_true, beq_iff_eq] at hrun
  obtain ⟨s, hs, ⟨hnacks, hwork⟩, s', hs', hdone⟩ := hrun
  have hreach : (ffsplitMachine .plain 0 [97]).Reach FfsplitUp s :=
    Runs.Machine.Reach.execWhile (fun s e h => of_decide_eq_true h) .init hs
  obtain ⟨hturn, hbound⟩ := ffsplit_rounds_end .plain 0 [97] hreach
  exact ⟨s, s', hs, hnacks, hturn (.inl hnacks), hs', hdone, hwork ▸ hbound _ _ hs'⟩

end Qdevice.Qnetd
