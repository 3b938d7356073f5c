import Qdevice.Spec.NetConnection

/-! # The ring that is voted for

A vote is cast for the ring of the last node list from votequorum, while the vote itself comes from
a message of qnetd about the node list that was sent last.  In between the vote is paused, until
the result of the heuristics has arrived.  If the connection ends there, the vote is not paused any
more, and an algorithm that keeps its ACK casts it for the new ring; otherwise an ACK is only cast
for the ring that qnetd has given it for. -/

open Prog

namespace Qdevice.Net

variable {env : NetEnv}

/-! ### The statement -/

/-- Each vote that was cast is for the ring of the message that brought it. -/
def VotesForRing (s : QdeviceInstance) : Prop :=
  ∀ poll ∈ s.net.polls, poll.castVote = true → poll.voteRingId = some poll.ringId

/-- The algorithm leaves the vote as it is when a connection has ended. -/
def NetInstance.keepsVote (net : NetInstance) : Bool :=
  match net.decisionAlgorithm with
  | .test | .twoNodeLms => true
  | .ffsplit => false
  | .lms => net.algorithmData.goesOn

def NetEvent.isPostPollLoop : NetEvent → Bool
  | .postPollLoop => true
  | _ => false

/-- No connection ends between a node list from votequorum and its being sent to qnetd, if there is
    an ACK for the ring before, and the algorithm keeps it. -/
def EndsWithOwnVote (s : QdeviceInstance) (event : NetEnv × NetEvent) : Prop :=
  event.2.isPostPollLoop → s.net.connected → s.net.castVoteTimerVote = .ack → s.net.keepsVote →
    s.net.lastSentRingId = s.vqPollRingId

instance (s : QdeviceInstance) (event : NetEnv × NetEvent) : Decidable (EndsWithOwnVote s event) :=
  inferInstanceAs (Decidable (_ → _ → _ → _ → _))

theorem disconnected_vote (net : NetInstance) (tryReconnect : Bool) :
    (qdeviceNetAlgorithmDisconnected net tryReconnect).2 =
      if net.keepsVote then .noChange else .nack := by
  unfold qdeviceNetAlgorithmDisconnected NetInstance.keepsVote
  cases net.decisionAlgorithm with
  | test | twoNodeLms | ffsplit | lms => rfl

/-! ### The cast vote timer -/

/-- What a poll writes is left out. -/
def QdeviceInstance.pollless (inst : QdeviceInstance) : QdeviceInstance :=
  { inst with net := { inst.net with
      polls := []
      castVoteTimer := false
      castVoteTimerEntries := 0
      disconnectReason := .undefined
      scheduleDisconnect := false } }

/-- There was at most one poll, with the vote of the timer; and none if that is paused. -/
structure Polled (s s' : QdeviceInstance) : Prop where
  rest : s'.pollless = s.pollless
  polls : s'.net.polls = s.net.polls ∨ s.net.castVoteTimerPaused = false ∧
    s'.net.polls = s.net.polls ++
      [⟨s.net.castVoteTimerVote = .ack, s.vqPollRingId, s.net.castVoteTimerVoteRingId⟩]

theorem castVoteTimerCallback_polled (s : QdeviceInstance) :
    wp (qdeviceNetCastVoteTimerCallback env) (fun _ => Polled s) s := by
  have hpoll (castVote : Bool) (hpaused : s.net.castVoteTimerPaused = false)
      (hvote : castVote = decide (s.net.castVoteTimerVote = .ack)) : wp (do
        let ok ← qdeviceVotequorumPoll env castVote
        if ok = false then
          disconnectWith .cantScheduleVotingTimer
          modifyNet fun net => { net with castVoteTimer := false }
          return false
        return true) (fun _ => Polled s) s := by
    subst hvote
    refine (wp_bind _).mpr ((wp_bind _).mpr (wp_get.mpr ((wp_bind _).mpr ((wp_modify _).mpr
      ((wp_pure _).mpr ((wp_ite _).mpr ⟨fun _ => ?_, fun _ => ?_⟩))))))
    · refine (wp_bind _).mpr ((wp_modify _).mpr ((wp_bind _).mpr ((wp_modify _).mpr
        ((wp_pure _).mpr ?_))))
      exact ⟨rfl, .inr ⟨hpaused, rfl⟩⟩
    · exact (wp_pure _).mpr ⟨rfl, .inr ⟨hpaused, rfl⟩⟩
  refine (wp_bind _).mpr (wp_get.mpr ((wp_ite _).mpr ⟨fun _ => (wp_pure _).mpr ⟨rfl, .inl rfl⟩,
    fun hpaused => ?_⟩))
  have hpaused := Bool.eq_false_of_not_eq_true hpaused
  split
  · exact hpoll _ hpaused rfl
  · exact hpoll _ hpaused rfl
  all_goals exact wp_stop.mpr trivial

/-- A vote is written to the timer before it polls. -/
theorem castVoteTimerUpdate_polled {vote : TlvVote} (hvote : vote ≠ .noChange)
    (ringId : Option TlvRingId) (s : QdeviceInstance) :
    wp (qdeviceNetCastVoteTimerUpdate env vote ringId) (fun _ => Polled { s with net := { s.net with
      castVoteTimerVote := vote, castVoteTimerVoteRingId := ringId } }) s := by
  cases vote with
  | undefined => exact wp_stop.mpr trivial
  | noChange => exact absurd rfl hvote
  | waitForReply | askLater =>
    refine (wp_bind _).mpr ((wp_modify _).mpr ((wp_bind _).mpr (wp_get.mpr ((wp_ite _).mpr
      ⟨fun _ => ?_, fun _ => (wp_pure _).mpr ⟨rfl, .inl rfl⟩⟩))))
    exact (wp_bind _).mpr ((wp_modify _).mpr ((wp_pure _).mpr ⟨rfl, .inl rfl⟩))
  | ack | nack =>
    refine (wp_bind _).mpr ((wp_modify _).mpr ((wp_bind _).mpr (wp_get.mpr ((wp_ite _).mpr
      ⟨fun _ => ?_, fun _ => castVoteTimerCallback_polled _⟩))))
    refine (wp_ite _).mpr ⟨fun _ => (wp_pure _).mpr ⟨rfl, .inl rfl⟩, fun _ => ?_⟩
    refine (wp_bind _).mpr ((wp_modify _).mpr ?_)
    exact (castVoteTimerCallback_polled _).mono fun _ _ h => ⟨h.rest, h.polls⟩

theorem updateVoteOrDisconnect_polled {vote : TlvVote} (hvote : vote ≠ .noChange)
    (s : QdeviceInstance) :
    wp (updateVoteOrDisconnect env vote) (fun _ => Polled { s with net := { s.net with
      castVoteTimerVote := vote, castVoteTimerVoteRingId := none } }) s := by
  refine (wp_bind _).mpr ((castVoteTimerUpdate_polled hvote none s).mono fun ok s₁ h₁ => ?_)
  refine (wp_ite _).mpr ⟨fun _ => ?_, fun _ => (wp_pure _).mpr h₁⟩
  exact (wp_bind _).mpr ((wp_modify _).mpr ((wp_pure _).mpr ⟨h₁.rest, h₁.polls⟩))

/-! ### The notifiers -/

/-- A notifier that is in the list is found. -/
theorem setActive_isSome {callback : HeuristicsCallback} (active : Bool)
    {items : List HeuristicsNotifierItem}
    (h : callback ∈ items.map HeuristicsNotifierItem.callback) :
    ∃ items', heuristicsResultNotifierListSetActive callback active items = some items' := by
  induction items with
  | nil => cases h
  | cons item items ih =>
    rw [heuristicsResultNotifierListSetActive]
    split
    · exact ⟨_, rfl⟩
    · next hne =>
      obtain heq | hmem := List.mem_cons.mp h
      · exact absurd heq.symm hne
      · obtain ⟨rest, hrest⟩ := ih hmem
        exact ⟨item :: rest, by rw [hrest, Option.map_some]⟩

/-! ### The invariant -/

/-- The callbacks that are called with a result. -/
abbrev QdeviceInstance.callbacks (inst : QdeviceInstance) : List HeuristicsCallback :=
  inst.notifierList.map HeuristicsNotifierItem.callback

/-- While the instance is connected, an ACK is for the ring that was sent last, which is also the
    ring that is polled for unless the vote is paused.  Otherwise it is for the ring that is polled
    for. -/
structure VoteInv (s : QdeviceInstance) : Prop where
  polls : VotesForRing s
  notifier : .regular ∈ s.callbacks
  rings : s.vqNodeListRingId = s.vqPollRingId
  sent : s.net.connected = true → s.net.castVoteTimerVote = .ack →
    s.net.castVoteTimerVoteRingId = some s.net.lastSentRingId
  paused : s.net.connected = true → s.net.castVoteTimerPaused = false →
    s.net.lastSentRingId = s.vqPollRingId
  idle : s.net.connected = false → s.net.castVoteTimerVote = .ack →
    s.net.castVoteTimerVoteRingId = some s.vqPollRingId

/-- The part of the instance that matters without a connection. -/
def QdeviceInstance.votePart (inst : QdeviceInstance) :=
  (inst.net.polls, inst.net.castVoteTimerVote, inst.net.castVoteTimerVoteRingId, inst.vqPollRingId,
    inst.vqNodeListRingId, inst.callbacks)

/-- The part that matters with one. -/
def QdeviceInstance.sentPart (inst : QdeviceInstance) :=
  (inst.net.state, inst.net.castVoteTimerPaused, inst.net.lastSentRingId)

/-- All that matters without a connection, and that there is none. -/
def QdeviceInstance.idlePart (inst : QdeviceInstance) := (inst.votePart, inst.net.connected)

/-- All that the invariant is about. -/
def QdeviceInstance.ringPart (inst : QdeviceInstance) := (inst.votePart, inst.sentPart)

namespace VoteInv

variable {s s' : QdeviceInstance}

theorem of_part (hpart : s'.votePart = s.votePart) (hsent : s'.sentPart = s.sentPart)
    (h : VoteInv s) : VoteInv s' := by
  simp only [QdeviceInstance.votePart, QdeviceInstance.sentPart, Prod.mk.injEq] at hpart hsent
  obtain ⟨hpolls, hvote, hvoteRing, hpollRing, hring, hcallbacks⟩ := hpart
  obtain ⟨hstate, hpaused, hlast⟩ := hsent
  have hconnected : s'.net.connected = s.net.connected := by
    rw [NetInstance.connected, NetInstance.connected, hstate]
  refine ⟨?_, ?_, ?_, ?_, ?_, ?_⟩
  · rw [VotesForRing, hpolls]
    exact h.polls
  · rw [hcallbacks]
    exact h.notifier
  · rw [hring, hpollRing]
    exact h.rings
  · rw [hconnected, hvote, hvoteRing, hlast]
    exact h.sent
  · rw [hconnected, hpaused, hlast, hpollRing]
    exact h.paused
  · rw [hconnected, hvote, hvoteRing, hpollRing]
    exact h.idle

/-- What does not belong to the invariant may change. -/
theorem of_erased {erase : QdeviceInstance → QdeviceInstance} (h : VoteInv s)
    (heq : erase s' = erase s) (hpart : ∀ s, (erase s).votePart = s.votePart)
    (hsent : ∀ s, (erase s).sentPart = s.sentPart) : VoteInv s' :=
  h.of_part ((hpart s').symm.trans ((congrArg _ heq).trans (hpart s)))
    ((hsent s').symm.trans ((congrArg _ heq).trans (hsent s)))

/-- Without a connection it does not matter what is sent. -/
theorem of_idle (hpart : s'.votePart = s.votePart) (hidle : s.net.connected = false)
    (hidle' : s'.net.connected = false) (h : VoteInv s) : VoteInv s' := by
  simp only [QdeviceInstance.votePart, Prod.mk.injEq] at hpart
  obtain ⟨hpolls, hvote, hvoteRing, hpollRing, hring, hcallbacks⟩ := hpart
  have hno : s'.net.connected ≠ true := Bool.eq_false_iff.mp hidle'
  refine ⟨?_, ?_, ?_, fun hc => absurd hc hno, fun hc => absurd hc hno, fun _ => ?_⟩
  · rw [VotesForRing, hpolls]
    exact h.polls
  · rw [hcallbacks]
    exact h.notifier
  · rw [hring, hpollRing]
    exact h.rings
  · rw [hvote, hvoteRing, hpollRing]
    exact h.idle hidle

/-- An ACK that is not paused is for the ring that is polled for. -/
theorem acked (h : VoteInv s) (hpaused : s.net.castVoteTimerPaused = false)
    (hack : s.net.castVoteTimerVote = .ack) :
    s.net.castVoteTimerVoteRingId = some s.vqPollRingId := by
  cases hc : s.net.connected with
  | true => rw [h.sent hc hack, h.paused hc hpaused]
  | false => exact h.idle hc hack

theorem of_polled (hpolled : Polled s s') (h : VoteInv s) : VoteInv s' := by
  obtain ⟨hrest, hpolls⟩ := hpolled
  have hsame : VoteInv { s' with net := { s'.net with polls := s.net.polls } } := by
    refine h.of_part ?_ ?_
    · have heq : s'.pollless.votePart = s.pollless.votePart := by rw [hrest]
      simp only [QdeviceInstance.votePart, Prod.mk.injEq] at heq ⊢
      exact ⟨trivial, heq.2⟩
    · have heq : s'.pollless.sentPart = s.pollless.sentPart := by rw [hrest]
      exact heq
  refine ⟨fun poll hpoll hcast => ?_, hsame.notifier, hsame.rings, hsame.sent, hsame.paused,
    hsame.idle⟩
  obtain heq | ⟨hpaused, heq⟩ := hpolls
  · rw [heq] at hpoll
    exact h.polls poll hpoll hcast
  · rw [heq] at hpoll
    obtain hold | hnew := List.mem_append.mp hpoll
    · exact h.polls poll hold hcast
    · rw [List.mem_singleton.mp hnew] at hcast ⊢
      exact h.acked hpaused (of_decide_eq_true hcast)

/-- No ACK comes without a ring. -/
theorem setVote {vote : TlvVote} (hvote : vote ≠ .ack) (h : VoteInv s) (ringId : Option TlvRingId) :
    VoteInv { s with net := { s.net with
      castVoteTimerVote := vote, castVoteTimerVoteRingId := ringId } } :=
  ⟨h.polls, h.notifier, h.rings, fun _ hack => absurd hack hvote, h.paused,
    fun _ hack => absurd hack hvote⟩

/-- The ring that is polled for has been sent, and no vote for it has come yet. -/
theorem awaiting (hpolls : s'.net.polls = s.net.polls)
    (hrings : (s'.vqPollRingId, s'.vqNodeListRingId, s'.callbacks) =
      (s.vqPollRingId, s.vqNodeListRingId, s.callbacks))
    (hlast : s'.net.lastSentRingId = s.vqNodeListRingId) (hvote : s'.net.castVoteTimerVote ≠ .ack)
    (h : VoteInv s) : VoteInv s' := by
  simp only [Prod.mk.injEq] at hrings
  obtain ⟨hpollRing, hring, hcallbacks⟩ := hrings
  refine ⟨?_, ?_, ?_, fun _ hack => absurd hack hvote, fun _ _ => ?_,
    fun _ hack => absurd hack hvote⟩
  · rw [VotesForRing, hpolls]
    exact h.polls
  · rw [hcallbacks]
    exact h.notifier
  · rw [hring, hpollRing]
    exact h.rings
  · rw [hlast, hpollRing]
    exact h.rings

theorem disconnect (reason : DisconnectReason) : Preserves VoteInv (disconnectWith reason) :=
  preserves_modifyNet fun s h => h.of_part (s := s) rfl rfl

theorem setNotifier (callback : HeuristicsCallback) (active : Bool) :
    Preserves VoteInv (setNotifierActive callback active) := by
  refine preserves_setNotifierActive fun {s items} hitems hs => hs.of_part (s := s) ?_ rfl
  simp only [QdeviceInstance.votePart, QdeviceInstance.callbacks, setActive_callbacks hitems]

/-- A message is sent that is not about a ring. -/
theorem send {msg : NetMsg} {count done : NetInstance → NetInstance}
    {create : NetInstance → Dynar → Nat × Dynar}
    (hcount : ({ s with net := count s.net } : QdeviceInstance).ringPart = s.ringPart)
    (hdone : ({ s with net := done (count s.net) } : QdeviceInstance).ringPart = s.ringPart)
    (h : VoteInv s) :
    wp (qdeviceNetSend env msg count done create) (fun _ => VoteInv) s := by
  have hinv {net : NetInstance}
      (hnet : ({ s with net := net } : QdeviceInstance).ringPart = s.ringPart)
      (sblist : SendBufferList) : VoteInv { s with net := { net with sendBufferList := sblist } } := by
    obtain ⟨hpart, hsent⟩ := Prod.mk.inj hnet
    exact h.of_part (s := s) hpart hsent
  exact wp_qdeviceNetSend (fun sblist _ => hinv rfl sblist) (fun sblist _ => hinv hcount sblist)
    fun sblist _ _ _ _ _ => hinv hdone sblist

end VoteInv

/-! ### Notifications -/

/-- No notification brings an ACK for another ring. -/
theorem voteInv_stable : NotificationStable env VoteInv where
  frame := by
    intro s s' hcore hs
    exact hs.of_erased hcore (fun _ => rfl) (fun _ => rfl)
  disconnect := VoteInv.disconnect
  vote vote hvote := by
    intro s hs
    by_cases hnoChange : vote = .noChange
    · subst hnoChange
      exact (wp_pure _).mpr hs
    · exact (castVoteTimerUpdate_polled hnoChange none s).mono fun _ _ hpolled =>
        (hs.setVote hvote none).of_polled hpolled
  castVoteTimer := fun s hs =>
    (castVoteTimerCallback_polled s).mono fun _ _ hpolled => hs.of_polled hpolled
  send msg create s _ hs := hs.send rfl rfl
  notifier active _ := VoteInv.setNotifier _ active
  heuristics := by
    intro s heuristics _ hs
    exact hs.of_part (s := s) rfl rfl
  outerless := by
    intro s s' houter hs
    exact hs.of_erased houter (fun _ => rfl) (fun _ => rfl)

/-- The timer of the heuristics is stopped, which cannot fail. -/
theorem heuristicsStopTimer_eq {s : QdeviceInstance} (h : .regular ∈ s.callbacks) :
    wp qdeviceNetHeuristicsStopTimer (fun stopped s' => stopped = true ∧ ∃ timer items,
      s' = { s with net := { s.net with regularHeuristicsTimer := timer }, notifierList := items } ∧
      items.map HeuristicsNotifierItem.callback = s.callbacks) s := by
  refine (wp_bind _).mpr (wp_get.mpr ((wp_ite _).mpr ⟨fun _ => ?_, fun _ => ?_⟩))
  · exact (wp_pure _).mpr ⟨rfl, s.net.regularHeuristicsTimer, s.notifierList, rfl, rfl⟩
  · obtain ⟨items, hitems⟩ := setActive_isSome false h
    refine (wp_bind _).mpr ((wp_modify _).mpr ((wp_bind _).mpr ?_))
    unfold setNotifierActive
    refine (wp_bind _).mpr (wp_get.mpr ?_)
    rw [hitems]
    refine (wp_bind _).mpr ((wp_modify _).mpr ((wp_pure _).mpr ?_))
    rw [if_neg (by decide)]
    exact (wp_pure _).mpr ⟨rfl, false, items, rfl, setActive_callbacks hitems⟩

/-- The vote is paused until qnetd has the new node list; without a connection no ACK is left. -/
theorem VoteInv.nodeListNotify (ringId : TlvRingId) (nodeList : List UInt32) :
    Preserves VoteInv (qdeviceVotequorumNodeListNotifyCallback env ringId nodeList) := by
  intro s hs
  -- What holds once the ring id has been stored.
  let stored (s : QdeviceInstance) : QdeviceInstance :=
    { s with vqNodeListRingId := ringId, vqNodeList := nodeList }
  have hpolled {s s' : QdeviceInstance} (h : Polled s s') : Polled (stored s) (stored s') :=
    ⟨congrArg stored h.rest, h.polls⟩
  have hnet : wp (qdeviceModelNetVotequorumNodeListNotify env) (fun _ s' => VoteInv (stored s'))
      { s with syncInProgress := true, vqPollRingId := ringId } := by
    refine (wp_bind _).mpr ((heuristicsStopTimer_eq ?_).mono ?_)
    · exact hs.notifier
    rintro stopped s₁ ⟨rfl, timer, items, rfl, hcallbacks⟩
    have hnotifier : .regular ∈ items.map HeuristicsNotifierItem.callback :=
      (congrArg (HeuristicsCallback.regular ∈ ·) hcallbacks).mpr hs.notifier
    rw [if_neg (by decide)]
    refine (wp_bind _).mpr (wp_get.mpr ?_)
    rw [if_neg (by simp)]
    refine (wp_bind _).mpr ?_
    cases hc : s.net.connected with
    | true =>
      have hvote : NetInstance.notifyVote { s.net with regularHeuristicsTimer := timer } =
          .noChange := if_pos hc
      rw [hvote]
      refine (wp_bind _).mpr ((wp_pure _).mpr ?_)
      rw [if_neg (by decide)]
      refine (wp_pure _).mpr ?_
      rw [if_neg (by decide)]
      refine (wp_modify _).mpr ⟨hs.polls, hnotifier, rfl, hs.sent, fun _ hno => ?_, fun hno => ?_⟩
      · cases hno
      · exact absurd (hc.symm.trans hno) (by decide)
    | false =>
      -- An ACK is replaced here, by a vote against the new ring.
      have hnot : ¬ NetInstance.connected { s.net with regularHeuristicsTimer := timer } :=
        Bool.eq_false_iff.mp hc
      have hupdate : wp (updateVoteOrDisconnect env (if s.net.castVoteTimerVote = .ack then .nack
          else .noChange)) (fun _ s' => VoteInv (stored s')) { s with
            net := { s.net with regularHeuristicsTimer := timer }
            syncInProgress := true
            vqPollRingId := ringId
            notifierList := items } := by
        split
        · refine (updateVoteOrDisconnect_polled (fun h => by cases h) _).mono fun _ s₂ h₂ => ?_
          refine VoteInv.of_polled (hpolled h₂) ⟨hs.polls, hnotifier, rfl, ?_, ?_, ?_⟩
          · exact fun hyes => absurd hyes hnot
          · exact fun hyes => absurd hyes hnot
          · exact fun _ hack => by cases hack
        · next hack =>
          refine (wp_bind _).mpr ((wp_pure _).mpr ?_)
          rw [if_neg (by decide)]
          exact (wp_pure _).mpr ⟨hs.polls, hnotifier, rfl, fun hyes => absurd hyes hnot,
            fun hyes => absurd hyes hnot, fun _ h => absurd h hack⟩
      unfold NetInstance.notifyVote
      rw [if_neg hnot]
      refine hupdate.mono fun ok s₂ hs₂ => (wp_ite _).mpr ⟨fun _ => (wp_pure _).mpr hs₂, fun _ => ?_⟩
      refine (wp_modify _).mpr ⟨hs₂.polls, hs₂.notifier, hs₂.rings, hs₂.sent, fun _ hno => ?_,
        hs₂.idle⟩
      cases hno
  have hrest : Preserves (fun s' => VoteInv (stored s')) (setNotifierActive .votequorum true) := by
    refine preserves_setNotifierActive fun {s items} hitems hs => hs.of_part (s := stored s) ?_ rfl
    simp only [QdeviceInstance.votePart, QdeviceInstance.callbacks, setActive_callbacks hitems,
      stored]
  refine (wp_bind _).mpr ((wp_modify _).mpr ((wp_bind _).mpr (hnet.mono fun _ s₁ hs₁ => ?_)))
  refine (wp_bind _).mpr ((hrest s₁ hs₁).mono fun active s₂ hs₂ => ?_)
  refine (wp_ite _).mpr ⟨fun _ => (wp_bind _).mpr (wp_stop.mpr trivial), fun _ => ?_⟩
  refine (wp_bind _).mpr ((wp_bind _).mpr (wp_get.mpr ((wp_bind _).mpr ((wp_modify _).mpr
    ((wp_pure _).mpr ((wp_ite _).mpr ⟨fun _ => ?_, fun _ => ?_⟩))))))
  · exact (wp_bind _).mpr (wp_stop.mpr trivial)
  · exact (wp_modify _).mpr (hs₂.of_part (s := stored s₂) rfl rfl)

/-- The result for a new membership has arrived, and it is sent to qnetd: from then on its vote is
    awaited. -/
theorem VoteInv.votequorumCallback (execResult : HeuristicsExecResult) :
    Preserves VoteInv (qdeviceVotequorumHeuristicsExecResultCallback env execResult) := by
  have h : NotificationStable env VoteInv := voteInv_stable
  have hstop : Preserves VoteInv (do
      disconnectWith .cantAllocateMsgBuffer
      return) :=
    (VoteInv.disconnect _).bind fun _ => preserves_pure _
  have hrest (heuristics : TlvHeuristics) : Preserves VoteInv (do
      modifyNet fun net => { net with
        latestVqHeuristicsResult := heuristics, latestHeuristicsResult := heuristics }
      let _ ← qdeviceNetHeuristicsScheduleTimer env
      return) := by
    refine (h.modifyNet fun _ => rfl).bind fun _ => ?_
    exact h.heuristicsScheduleTimer.bind fun _ => preserves_pure _
  refine (VoteInv.setNotifier .votequorum false).bind fun active => ?_
  refine preserves_ite (fun _ => preserves_stop_bind _) fun _ => preserves_get fun s hs => ?_
  unfold qdeviceModelNetVotequorumNodeListHeuristicsNotify
  split
  · exact preserves_stop s hs
  · next heuristics _ =>
    refine (wp_bind _).mpr (wp_get.mpr ?_)
    rw [if_neg (by simp)]
    refine (wp_ite _).mpr ⟨fun hc => ?_, fun hc => ?_⟩
    · refine (wp_bind _).mpr ((sendMembership_sendless _ _ _ s).mono fun sent s₁ h₁ => ?_)
      obtain ⟨hsame, hlast⟩ := h₁
      have hpart : s₁.sendless.votePart = s.sendless.votePart := by rw [hsame]
      refine (wp_ite _).mpr ⟨fun hfail => ?_, fun hsent => ?_⟩
      · have hstate : s₁.sendless.net.state = s.sendless.net.state := by rw [hsame]
        have hpaused : s₁.sendless.net.castVoteTimerPaused = s.sendless.net.castVoteTimerPaused := by
          rw [hsame]
        rw [hfail, if_neg (by decide)] at hlast
        refine hstop s₁ (hs.of_part (s := s) hpart ?_)
        exact Prod.ext hstate (Prod.ext hpaused hlast)
      · rw [if_pos (Bool.eq_true_of_not_eq_false hsent)] at hlast
        have hrings : (s₁.sendless.vqPollRingId, s₁.sendless.vqNodeListRingId,
            s₁.sendless.callbacks) = (s.sendless.vqPollRingId, s.sendless.vqNodeListRingId,
            s.sendless.callbacks) := by rw [hsame]
        refine (wp_bind _).mpr ((wp_modify _).mpr ((wp_bind _).mpr ?_))
        rw [if_pos hc]
        refine (updateVoteOrDisconnect_polled (fun h => by cases h) _).mono fun ok s₂ h₂ => ?_
        have hs₂ : VoteInv s₂ := by
          refine VoteInv.of_polled h₂ (hs.awaiting (s := s) (congrArg Prod.fst hpart) hrings hlast ?_)
          exact fun h => by cases h
        exact (wp_ite _).mpr ⟨fun _ => (wp_pure _).mpr hs₂, fun _ => hrest heuristics s₂ hs₂⟩
    · have hidle : s.net.connected = false := Bool.eq_false_of_not_eq_true hc
      have hs₁ : VoteInv { s with net := { s.net with castVoteTimerPaused := false } } :=
        hs.of_idle (s := s) rfl hidle hidle
      refine (wp_bind _).mpr ((wp_modify _).mpr ((wp_bind _).mpr ?_))
      rw [if_neg hc]
      refine (h.updateVoteOrDisconnect s.net.notifyVote_ne _ hs₁).mono fun ok s₂ hs₂ => ?_
      exact (wp_ite _).mpr ⟨fun _ => (wp_pure _).mpr hs₂, fun _ => hrest heuristics s₂ hs₂⟩

/-! ### The connection -/

section

variable {s : QdeviceInstance}

theorem VoteInv.ends {goOn : Bool} (h : VoteInv s) : Ends VoteInv VoteInv goOn s :=
  ⟨h, fun _ => h⟩

theorem not_connected {net : NetInstance} {state : NetState} (hstate : net.state = state)
    (hne : state ≠ .waitingVotequorumCmapEvents) : net.connected = false :=
  decide_eq_false fun h => hne (hstate.symm.trans h)

/-- The first messages of a connection are sent before there are votes. -/
theorem VoteInv.sendIdle {msg : NetMsg} {count done : NetInstance → NetInstance}
    {create : NetInstance → Dynar → Nat × Dynar} (h : VoteInv s) (hidle : s.net.connected = false)
    (hcount : ({ s with net := count s.net } : QdeviceInstance).idlePart = s.idlePart)
    (hdone : ({ s with net := done (count s.net) } : QdeviceInstance).idlePart = s.idlePart) :
    wp (qdeviceNetSend env msg count done create)
      (fun _ s' => VoteInv s' ∧ s'.net.connected = false) s := by
  have hinv {net : NetInstance}
      (hnet : ({ s with net := net } : QdeviceInstance).idlePart = s.idlePart)
      (sblist : SendBufferList) :
      VoteInv { s with net := { net with sendBufferList := sblist } } ∧
        NetInstance.connected { net with sendBufferList := sblist } = false := by
    obtain ⟨hpart, hconnected⟩ := Prod.mk.inj hnet
    exact ⟨h.of_idle (s := s) hpart hidle (hconnected.trans hidle), hconnected.trans hidle⟩
  exact wp_qdeviceNetSend (fun sblist _ => hinv rfl sblist) (fun sblist _ => hinv hcount sblist)
    fun sblist _ _ _ _ _ => hinv hdone sblist

theorem VoteInv.sendInit (h : VoteInv s) (hidle : s.net.connected = false) :
    wp (qdeviceNetSendInit env) (fun _ s' => VoteInv s' ∧ s'.net.connected = false) s := by
  refine (wp_bind _).mpr ((wp_modify _).mpr ((wp_bind _).mpr (wp_get.mpr ?_)))
  have hcounted : VoteInv { s with net := countMsg s.net } := h.of_part (s := s) rfl rfl
  refine hcounted.sendIdle hidle ?_ ?_
  · rfl
  · exact Prod.ext rfl hidle.symm

/-- The lists are sent, or they are not, and then the instance is not connected. -/
theorem VoteInv.connectSendLists (hidle : s.net.connected = false) (h : VoteInv s)
    (heuristics : TlvHeuristics) :
    wp (do
      let sent ← Net.connectSendLists env heuristics
      if sent = false then return ← recordReason .cantAllocateMsgBuffer
      let ok ← qdeviceNetCastVoteTimerUpdate env .waitForReply none
      if ok = false then recordReason .cantScheduleVotingTimer
      modifyNet fun net => { net with
        state := .waitingVotequorumCmapEvents
        latestConnectHeuristicsResult := heuristics
        latestHeuristicsResult := heuristics }) (fun _ => VoteInv) s := by
  refine wp_connectSendLists (fun s' hsame => ?_) fun s₁ s' hsame hvoteless hpolls hlast hvote => ?_
  · have hpart : s'.sendless.votePart = s.sendless.votePart := by rw [hsame]
    have hstate : s'.sendless.net.connected = s.sendless.net.connected := by rw [hsame]
    exact h.of_idle (s := s) hpart hidle (hstate.trans hidle)
  · have hrings₁ : (s₁.sendless.vqPollRingId, s₁.sendless.vqNodeListRingId,
        s₁.sendless.callbacks) = (s.sendless.vqPollRingId, s.sendless.vqNodeListRingId,
        s.sendless.callbacks) := by rw [hsame]
    have hrings' : (s'.voteless.vqPollRingId, s'.voteless.vqNodeListRingId,
        s'.voteless.callbacks) = (s₁.voteless.vqPollRingId, s₁.voteless.vqNodeListRingId,
        s₁.voteless.callbacks) := by rw [hvoteless]
    have hlast' : s'.voteless.net.lastSentRingId = s₁.voteless.net.lastSentRingId := by
      rw [hvoteless]
    refine h.awaiting (s := s) hpolls (hrings'.trans hrings₁) (hlast'.trans hlast) fun hack => ?_
    rw [show s'.net.castVoteTimerVote = .ack from hack] at hvote
    cases hvote

/-- TLS is started, and INIT is sent. -/
theorem VoteInv.writeFinished (hstate : s.net.state = .waitingStarttlsBeingSent) (h : VoteInv s) :
    wp (qdeviceNetSocketWriteFinished env) (Ends VoteInv VoteInv) s := by
  have hstarted : VoteInv { s with net := { s.net with sslStarted := true } } :=
    h.of_part (s := s) rfl rfl
  refine wp_writeFinished (fun {s} _ hs => hs.of_part (s := s) rfl rfl) hstate h ?_
  refine (hstarted.sendInit (not_connected hstate fun h => by cases h)).mono fun ok s₁ hs₁ => ?_
  exact ⟨hs₁.1, fun _ => VoteInv.ends (hs₁.1.of_part (s := s₁) rfl rfl)⟩

/-- A vote of qnetd is for the ring that was sent last. -/
theorem VoteInv.messageVote (hc : s.net.connected = true) (h : VoteInv s) (vote : TlvVote) :
    wp (qdeviceNetCastVoteTimerUpdate env vote (some s.net.lastSentRingId)) (fun _ => VoteInv) s := by
  by_cases hnoChange : vote = .noChange
  · subst hnoChange
    exact (wp_pure _).mpr h
  · refine (castVoteTimerUpdate_polled hnoChange _ s).mono fun _ _ hpolled => ?_
    refine VoteInv.of_polled hpolled ⟨h.polls, h.notifier, h.rings, fun _ _ => rfl, h.paused, ?_⟩
    exact fun hidle => absurd (hc.symm.trans hidle) (by decide)

end

/-- Every call of the main loop keeps the invariant. -/
theorem voteInv_connectionStable : ConnectionStable env VoteInv VoteInv where
  toNotificationStable := voteInv_stable
  base h := h
  linkless := by
    intro s s' hlink hs
    exact hs.of_erased hlink (fun _ => rfl) (fun _ => rfl)
  linklessBase := by
    intro s s' hlink hs
    exact hs.of_erased hlink (fun _ => rfl) (fun _ => rfl)
  connectNotifier := VoteInv.setNotifier .connect
  votequorumCallback := VoteInv.votequorumCallback
  nodeListNotify := VoteInv.nodeListNotify
  connectSendLists heuristics _ hstate hs :=
    hs.connectSendLists (not_connected hstate fun h => by cases h) heuristics
  client := by
    intro s hstate hs
    have hidle : s.net.connected = false := not_connected hstate fun h => by cases h
    have hs₁ : VoteInv { s with net := { s.net with
        socket := some .plain, state := .sendingPreinitReply } } :=
      hs.of_idle (s := s) rfl hidle rfl
    exact ⟨hs₁, (hs₁.sendIdle rfl rfl rfl).mono fun _ _ hs' => hs'.1.ends⟩
  starttls := by
    intro s hstate hs
    have hidle : s.net.connected = false := not_connected hstate fun h => by cases h
    have hs₁ : VoteInv { s with net := { s.net with negotiated := true } } :=
      hs.of_part (s := s) rfl rfl
    refine (hs₁.sendIdle hidle ?_ ?_).mono fun _ _ hs' => hs'.1.ends
    · rfl
    · exact Prod.ext rfl hidle.symm
  init hstate _ hs :=
    (hs.sendInit (not_connected hstate fun h => by cases h)).mono fun _ _ hs' => hs'.1.ends
  writeFinished hstate hs := hs.writeFinished hstate
  setMaxSizes requestSize replySize s _ hs := hs.of_part (s := s) rfl rfl
  echoTimer isSet s _ hs := hs.of_part (s := s) rfl rfl
  echoRequest _ hs := hs.send rfl rfl
  messageVote vote _ hc hs := hs.messageVote hc vote
  voteInfoReply msgSeqNumber _ _ hs := hs.send rfl rfl
  record := by
    intro s entry _ hs
    exact hs.of_part (s := s) rfl rfl
  written := by
    intro s entry bytes _ hs
    exact ⟨hs.of_part (s := s) rfl rfl, hs.of_part (s := s) rfl rfl⟩
  noSocket := by
    intro s _ hs
    exact hs.of_part (s := s) rfl rfl

/-- After the loop the vote is not paused any more, and it is an ACK only if the algorithm has
    kept it. -/
theorem VoteInv.postPollLoop {s : QdeviceInstance} (h : VoteInv s)
    (hown : s.net.connected → s.net.castVoteTimerVote = .ack → s.net.keepsVote →
      s.net.lastSentRingId = s.vqPollRingId) :
    wp (qdeviceModelNetPostPollLoop env)
      (fun _ s' => VoteInv s' ∧ s'.net.state = .waitingConnect) s := by
  let closed (s : QdeviceInstance) : QdeviceInstance :=
    { s with net := { s.net with state := .waitingConnect } }
  have hno : ¬ decide (NetState.waitingConnect = .waitingVotequorumCmapEvents) = true := by decide
  refine wp_postPollLoop (P := fun s₁ => VoteInv (closed s₁)) (fun tryReconnect => ?_)
    fun goOn s₁ hs₁ => ⟨hs₁.of_part (s := closed s₁) rfl rfl, rfl⟩
  rw [disconnected_vote]
  split
  · next hkeeps =>
    -- The ACK is kept, and it was for the ring that is polled for.
    refine (wp_pure _).mpr ⟨h.polls, h.notifier, h.rings, fun hc => absurd hc hno,
      fun hc => absurd hc hno, fun _ hack => ?_⟩
    change s.net.castVoteTimerVoteRingId = some s.vqPollRingId
    cases hc : s.net.connected with
    | true => rw [h.sent hc hack, hown hc hack hkeeps]
    | false => exact h.idle hc hack
  · refine (castVoteTimerUpdate_polled (fun h => by cases h) none _).mono fun _ s₁ h₁ => ?_
    have hpolled : Polled (closed _) (closed s₁) := ⟨congrArg closed h₁.rest, h₁.polls⟩
    refine VoteInv.of_polled hpolled ⟨h.polls, h.notifier, h.rings, fun hc => absurd hc hno,
      fun hc => absurd hc hno, fun _ hack => ?_⟩
    cases hack

/-! ### Runs -/

/-- In every run of which no connection ends while an older ACK is paused and the algorithm keeps
    it, a vote is only cast for the ring for which qnetd has given it. -/
theorem votes_for_ring (start : QdeviceStart) :
    ∀ s, (netMachine start).Reach EndsWithOwnVote s → VotesForRing s := by
  intro s hs
  -- No vote has been cast at the start.
  have hinit : VoteInv start.init := by
    refine ⟨fun poll hpoll => ?_, ?_, rfl, fun hc => ?_, fun hc => ?_, fun _ hack => ?_⟩
    · cases hpoll
    · exact List.mem_cons_of_mem _ List.mem_cons_self
    · cases hc
    · cases hc
    · cases hack
  exact (ConnectionStable.reach (fun _ => voteInv_connectionStable) hinit
    (fun hbase _ hown => hbase.postPollLoop (hown rfl)) hs).base.polls

/-- An instance that is connected gets an ACK for its ring. -/
def exampleAck : List NetEvent :=
  exampleConnect ++ initReplyArrives 2 32768 32768 ++ [resultArrives 2 .disabled] ++
    messageArrives (msgCreateVoteInfo 1 ⟨1, 8⟩ .ack (dynarInit 32768))

/-- With 2nodelms the instance has an ACK for its ring. -/
def exampleTwoNodeLms : QdeviceStart :=
  { exampleStart with net := { exampleStart.net with decisionAlgorithm := .twoNodeLms } }

/-- The vote is cast, and once more when the connection has been lost. -/
theorem votes_for_ring_example :
    ∃ s, (netMachine exampleTwoNodeLms).Reach EndsWithOwnVote s ∧
      s.net.polls = [⟨true, ⟨1, 8⟩, some ⟨1, 8⟩⟩, ⟨true, ⟨1, 8⟩, some ⟨1, 8⟩⟩] ∧ VotesForRing s := by
  have hrun : ((netMachine exampleTwoNodeLms).execWhile
      (fun s event => decide (EndsWithOwnVote s event)) exampleTwoNodeLms.init
      (unfailing (exampleAck ++ [.socketRead true .closed, .postPollLoop, .prePollLoop,
        .castVoteTimer]))).any
      (fun s => s.net.polls = [⟨true, ⟨1, 8⟩, some ⟨1, 8⟩⟩, ⟨true, ⟨1, 8⟩, some ⟨1, 8⟩⟩]) = true := by
    decide +kernel
  obtain ⟨s, hs, hpolls⟩ := (Option.any_eq_true _ _).mp hrun
  have hreach : (netMachine exampleTwoNodeLms).Reach EndsWithOwnVote s :=
    .execWhile (fun _ _ => of_decide_eq_true) .init hs
  exact ⟨s, hreach, of_decide_eq_true hpolls, votes_for_ring exampleTwoNodeLms s hreach⟩

/-- A new ring is formed, and before there is a result of the heuristics, qnetd closes the
    connection: the ACK is cast for the new ring. -/
theorem votes_for_another_ring :
    ∃ s, (netMachine exampleTwoNodeLms).Reach (fun _ _ => True) s ∧
      ⟨true, ⟨1, 12⟩, some ⟨1, 8⟩⟩ ∈ s.net.polls ∧ ¬ VotesForRing s := by
  have hrun : ((netMachine exampleTwoNodeLms).exec exampleTwoNodeLms.init (unfailing (exampleAck ++
      [.nodeListNotify ⟨1, 12⟩ [1], .socketRead true .closed, .postPollLoop, .prePollLoop,
        .castVoteTimer]))).any (fun s => ⟨true, ⟨1, 12⟩, some ⟨1, 8⟩⟩ ∈ s.net.polls) = true := by
    decide +kernel
  obtain ⟨s, hs, hpoll⟩ := (Option.any_eq_true _ _).mp hrun
  have hpoll := of_decide_eq_true hpoll
  refine ⟨s, .exec (fun _ _ => trivial) .init hs, hpoll, fun h => ?_⟩
  have heq := h _ hpoll rfl
  cases heq

end Qdevice.Net
