import Qdevice.Native.QdeviceMainLoop
import Qdevice.Spec.HeuristicsText

/-! # What the notifications of corosync and the heuristics can change

Between two messages of qnetd the net instance is notified by corosync, by its timers and by the
heuristics worker.  All that these do is to update the vote, to put messages into the send list
while the instance is connected, to start heuristics and to schedule a disconnect.  An invariant
that is `Stable` under these is kept by every notification. -/

open Prog

namespace Qdevice.Net

variable {env : NetEnv} {I J : QdeviceInstance → Prop}

/-! ### The calls that everything is made of -/

theorem preserves_modifyNet {f : NetInstance → NetInstance}
    (h : ∀ s : QdeviceInstance, I s → I { s with net := f s.net }) : Preserves I (modifyNet f) :=
  preserves_modify h

/-- A reason is recorded, and -1 is returned. -/
theorem wp_failWith {reason : DisconnectReason} {Q : Bool → QdeviceInstance → Prop}
    {s : QdeviceInstance}
    (h : Q false { s with net := { s.net with disconnectReason := reason } }) :
    wp (failWith reason) Q s :=
  (wp_bind _).mpr ((wp_modify _).mpr ((wp_pure _).mpr h))

theorem wp_failWith_return {reason : DisconnectReason} {Q : Bool → QdeviceInstance → Prop}
    {s : QdeviceInstance}
    (h : Q false { s with net := { s.net with disconnectReason := reason } }) :
    wp (failWith reason >>= fun ok => pure ok) Q s :=
  (wp_bind _).mpr (wp_failWith ((wp_pure _).mpr h))

/-- The callbacks of the notifiers never change. -/
theorem setActive_callbacks {callback : HeuristicsCallback} {active : Bool}
    {items items' : List HeuristicsNotifierItem}
    (h : heuristicsResultNotifierListSetActive callback active items = some items') :
    items'.map HeuristicsNotifierItem.callback = items.map HeuristicsNotifierItem.callback := by
  induction items generalizing items' with
  | nil => cases h
  | cons item items ih =>
    rw [heuristicsResultNotifierListSetActive] at h
    split at h
    · cases h
      rfl
    · obtain ⟨rest, hrest, rfl⟩ := Option.map_eq_some_iff.mp h
      rw [List.map_cons, List.map_cons, ih hrest]

/-- The list of notifiers is written, or the callback is not in it. -/
theorem preserves_setNotifierActive {callback : HeuristicsCallback} {active : Bool}
    (h : ∀ {s : QdeviceInstance} {items : List HeuristicsNotifierItem},
      heuristicsResultNotifierListSetActive callback active s.notifierList = some items → I s →
        I { s with notifierList := items }) :
    Preserves I (setNotifierActive callback active) := by
  refine preserves_get fun s hs => ?_
  split
  · exact preserves_pure _ s hs
  · next items hitems =>
    exact wp.bind ((wp_modify _).mpr (h hitems hs)) fun _ => preserves_pure _

/-- What is put into the send list comes after what is in it, and the limits stay. -/
structure SendBufferList.Grown (sblist : SendBufferList) (entries : List SendBufferListEntry)
    (sblist' : SendBufferList) : Prop where
  maxListEntries : sblist'.maxListEntries = sblist.maxListEntries
  maxBufferSize : sblist'.maxBufferSize = sblist.maxBufferSize
  list : sblist'.list = sblist.list ++ entries

/-- A new buffer is empty, and is in neither of the lists. -/
theorem sendBufferListGetNewMalloc_grown (malloc : Bool) (sblist : SendBufferList) :
    SendBufferList.Grown sblist [] (sendBufferListGetNewMalloc malloc sblist).2 ∧
      ∀ entry ∈ (sendBufferListGetNewMalloc malloc sblist).1,
        entry = { buffer := dynarInit sblist.maxBufferSize } := by
  unfold sendBufferListGetNewMalloc
  simp only
  split
  · refine ⟨⟨rfl, rfl, (List.append_nil _).symm⟩, fun entry hentry => ?_⟩
    cases hentry
    rfl
  · split
    · exact ⟨⟨rfl, rfl, (List.append_nil _).symm⟩, fun entry hentry => by cases hentry⟩
    · refine ⟨⟨rfl, rfl, (List.append_nil _).symm⟩, fun entry hentry => ?_⟩
      split at hentry
      · cases hentry
        rfl
      · cases hentry

/-- A message is sent: there may be no buffer for it, or it may not fit into it. -/
theorem wp_qdeviceNetSend {msg : NetMsg} {count done : NetInstance → NetInstance}
    {create : NetInstance → Dynar → Nat × Dynar} {Q : Bool → QdeviceInstance → Prop}
    {s : QdeviceInstance}
    (hnone : ∀ sblist, SendBufferList.Grown s.net.sendBufferList [] sblist →
      Q false { s with net := { s.net with sendBufferList := sblist } })
    (hfail : ∀ sblist, SendBufferList.Grown s.net.sendBufferList [] sblist →
      Q false { s with net := { count s.net with sendBufferList := sblist } })
    (hdone : ∀ sblist size buffer,
      create (count s.net) (dynarInit s.net.sendBufferList.maxBufferSize) = (size, buffer) →
      size ≠ 0 → SendBufferList.Grown s.net.sendBufferList [{ buffer := buffer }] sblist →
      Q true { s with net := { done (count s.net) with sendBufferList := sblist } }) :
    wp (qdeviceNetSend env msg count done create) Q s := by
  unfold qdeviceNetSend
  rw [wp_bind, wp_get]
  dsimp only
  obtain ⟨hgrown, hentry⟩ :=
    sendBufferListGetNewMalloc_grown (env.sendAlloc msg).malloc s.net.sendBufferList
  generalize sendBufferListGetNewMalloc (env.sendAlloc msg).malloc s.net.sendBufferList = new at *
  obtain ⟨_ | entry, sblist⟩ := new
  · rw [wp_bind, modifyNet, wp_modify, wp_pure]
    exact hnone sblist hgrown
  · have hbuffer := hentry entry rfl
    subst hbuffer
    have hlist : sblist.list = s.net.sendBufferList.list ++ [] := hgrown.list
    dsimp only
    refine (wp_ite _).mpr ⟨fun _ => ?_, fun hsize => ?_⟩
    · rw [wp_bind, modifyNet, wp_modify, wp_pure]
      exact hfail _ ⟨hgrown.maxListEntries, hgrown.maxBufferSize, hlist⟩
    · rw [wp_bind, modifyNet, wp_modify, wp_pure]
      refine hdone _ _ _ rfl (fun hzero => hsize (.inl hzero))
        ⟨hgrown.maxListEntries, hgrown.maxBufferSize, ?_⟩
      rw [sendBufferListPut, hlist, List.append_nil]

/-- The fields of the cast vote timer are left out. -/
def QdeviceInstance.voteless (inst : QdeviceInstance) : QdeviceInstance :=
  { inst with net := { inst.net with
      castVoteTimer := false
      castVoteTimerEntries := 0
      castVoteTimerVote := .undefined
      castVoteTimerVoteRingId := none
      polls := [] } }

section

variable (hframe : ∀ {s s' : QdeviceInstance}, s'.voteless = s.voteless → I s → I s')
include hframe

theorem preserves_voteless {f : NetInstance → NetInstance}
    (hf : ∀ s : QdeviceInstance, { s with net := f s.net }.voteless = s.voteless) :
    Preserves I (modifyNet f) :=
  preserves_modifyNet fun s hs => hframe (hf s) hs

variable (hdisconnect : Preserves I (disconnectWith .cantScheduleVotingTimer))
include hdisconnect

/-- What the cast vote timer does, if the invariant is not about the vote. -/
theorem preserves_castVoteTimerCallback : Preserves I (qdeviceNetCastVoteTimerCallback env) := by
  have hpoll (castVote : Bool) : Preserves I (qdeviceVotequorumPoll env castVote) := by
    refine preserves_get fun s hs => ?_
    exact (preserves_voteless hframe fun _ => rfl).bind (fun _ => preserves_pure _) s hs
  refine preserves_get fun s hs => ?_
  refine preserves_ite (fun _ => preserves_pure _) (fun _ => ?_) s hs
  cases s.net.castVoteTimerVote with
  | ack | nack =>
    refine (hpoll _).bind fun ok => preserves_ite (fun _ => ?_) fun _ => preserves_pure _
    refine hdisconnect.bind fun _ => ?_
    exact (preserves_voteless hframe fun _ => rfl).bind fun _ => preserves_pure _
  | askLater | waitForReply | noChange | undefined => exact preserves_stop

theorem preserves_castVoteTimerUpdate (vote : TlvVote) (ringId : Option TlvRingId) :
    Preserves I (qdeviceNetCastVoteTimerUpdate env vote ringId) := by
  cases vote with
  | undefined => exact preserves_stop
  | noChange => exact preserves_pure _
  | waitForReply | askLater =>
    refine (preserves_voteless hframe fun _ => rfl).bind fun _ => preserves_get fun s hs => ?_
    refine preserves_ite (fun _ => ?_) (fun _ => preserves_pure _) s hs
    exact (preserves_voteless hframe fun _ => rfl).bind fun _ => preserves_pure _
  | ack | nack =>
    have hcallback : Preserves I (qdeviceNetCastVoteTimerCallback env) :=
      preserves_castVoteTimerCallback hframe hdisconnect
    refine (preserves_voteless hframe fun _ => rfl).bind fun _ => preserves_get fun s hs => ?_
    refine preserves_ite (fun _ => ?_) (fun _ => hcallback) s hs
    refine preserves_ite (fun _ => preserves_pure _) fun _ => ?_
    exact (preserves_voteless hframe fun _ => rfl).bind fun _ => hcallback

end

/-- The fields of the net instance that no invariant is about are left out. -/
def QdeviceInstance.core (inst : QdeviceInstance) : QdeviceInstance :=
  { inst with
    net := { inst.net with
      castVoteTimerEntries := 0
      regularHeuristicsTimer := false
      latestRegularHeuristicsResult := .undefined
      latestConnectHeuristicsResult := .undefined
      latestVqHeuristicsResult := .undefined
      latestHeuristicsResult := .undefined
      algorithmData := {} } }

/-- What the timers and the results of the heuristics do keeps `I`. -/
structure Stable (env : NetEnv) (I : QdeviceInstance → Prop) : Prop where
  frame {s s' : QdeviceInstance} : s'.core = s.core → I s → I s'
  disconnect (reason : DisconnectReason) : Preserves I (disconnectWith reason)
  /-- No notification brings an ACK. -/
  vote (vote : TlvVote) : vote ≠ .ack → Preserves I (qdeviceNetCastVoteTimerUpdate env vote none)
  castVoteTimer : Preserves I (qdeviceNetCastVoteTimerCallback env)
  send (msg : NetMsg) (create : NetInstance → Dynar → Nat × Dynar) {s : QdeviceInstance} :
    s.net.connected → I s → wp (qdeviceNetSend env msg countMsg id create) (fun _ => I) s
  notifier {callback : HeuristicsCallback} (active : Bool) :
    callback ≠ .connect → Preserves I (setNotifierActive callback active)
  heuristics {s : QdeviceInstance} {heuristics : HeuristicsInstance} :
    (s.heuristicsInstance.waitingForResult → heuristics.waitingForResult) → I s →
      I { s with heuristicsInstance := heuristics }

/-- A vote with which a notification begins is no ACK. -/
theorem NetInstance.notifyVote_ne (net : NetInstance) : net.notifyVote ≠ .ack := by
  unfold notifyVote
  split
  · exact fun h => by cases h
  · split
    · exact fun h => by cases h
    · exact fun h => by cases h

namespace Stable

theorem and (h : Stable env I) (h' : Stable env J) : Stable env (fun s => I s ∧ J s) where
  frame hcore hs := ⟨h.frame hcore hs.1, h'.frame hcore hs.2⟩
  disconnect reason := (h.disconnect reason).and (h'.disconnect reason)
  vote vote hvote := (h.vote vote hvote).and (h'.vote vote hvote)
  castVoteTimer := h.castVoteTimer.and h'.castVoteTimer
  send msg create _ hc hs := (h.send msg create hc hs.1).and (h'.send msg create hc hs.2)
  notifier active hne := (h.notifier active hne).and (h'.notifier active hne)
  heuristics hwaiting hs := ⟨h.heuristics hwaiting hs.1, h'.heuristics hwaiting hs.2⟩

/-- A step that writes fields outside the core. -/
theorem modifyNet (h : Stable env I) {f : NetInstance → NetInstance}
    (hcore : ∀ s : QdeviceInstance, { s with net := f s.net }.core = s.core) :
    Preserves I (modifyNet f) :=
  preserves_modifyNet fun s hs => h.frame (hcore s) hs

theorem disconnect_false (h : Stable env I) (reason : DisconnectReason) :
    Preserves I (do disconnectWith reason; return false) :=
  (h.disconnect reason).bind fun _ => preserves_pure _

/-! ### Heuristics -/

/-- `heuristicsExec` always leaves the instance waiting. -/
theorem heuristicsExec_waitingForResult (syncInProgress : Bool) (inst : HeuristicsInstance) :
    (heuristicsExec syncInProgress inst).2.waitingForResult = true := rfl

theorem execHeuristics (h : Stable env I) : Preserves I execHeuristics := by
  refine preserves_get fun s hs => ?_
  refine wp.bind ((wp_modify _).mpr (h.heuristics (fun _ => ?_) hs)) fun _ => preserves_pure _
  exact heuristicsExec_waitingForResult _ _

theorem heuristicsTimerCallback (h : Stable env I) :
    Preserves I qdeviceNetHeuristicsTimerCallback := by
  refine preserves_get fun s hs => ?_
  refine preserves_ite (fun _ => preserves_pure _) (fun _ => ?_) s hs
  refine (h.modifyNet fun _ => rfl).bind fun _ => ?_
  refine (h.notifier true fun hc => by cases hc).bind fun active => ?_
  refine preserves_ite (fun _ => h.disconnect_false _) (fun _ => ?_)
  refine h.execHeuristics.bind fun ok => ?_
  exact preserves_ite (fun _ => h.disconnect_false _) (fun _ => preserves_pure _)

theorem heuristicsStopTimer (h : Stable env I) : Preserves I qdeviceNetHeuristicsStopTimer := by
  refine preserves_get fun s hs => ?_
  refine preserves_ite (fun _ => preserves_pure _) (fun _ => ?_) s hs
  refine (h.modifyNet fun _ => rfl).bind fun _ => ?_
  refine (h.notifier false fun hc => by cases hc).bind fun active => ?_
  exact preserves_ite (fun _ => h.disconnect_false _) (fun _ => preserves_pure _)

theorem heuristicsScheduleTimer (h : Stable env I) :
    Preserves I (qdeviceNetHeuristicsScheduleTimer env) := by
  refine preserves_get fun s hs => ?_
  refine preserves_ite (fun _ => h.heuristicsStopTimer) (fun _ => ?_) s hs
  refine preserves_ite (fun _ => preserves_pure _) (fun _ => ?_)
  refine preserves_ite (fun _ => ?_) (fun _ => h.disconnect_false _)
  exact (h.modifyNet fun _ => rfl).bind fun _ => preserves_pure _

theorem updateVoteOrDisconnect (h : Stable env I) {vote : TlvVote} (hvote : vote ≠ .ack) :
    Preserves I (updateVoteOrDisconnect env vote) := by
  refine (h.vote vote hvote).bind fun ok => ?_
  refine preserves_ite (fun _ => ?_) fun _ => preserves_pure _
  exact (h.disconnect _).bind fun _ => preserves_pure _

theorem regularHeuristicsChanged (h : Stable env I) (heuristics : TlvHeuristics) :
    Preserves I (regularHeuristicsChanged env heuristics) := by
  refine preserves_get fun s hs => ?_
  refine (wp_ite _).mpr ⟨fun _ => h.disconnect_false _ s hs, fun _ => ?_⟩
  have hupdate : Preserves I (Net.updateVoteOrDisconnect env .noChange) :=
    h.updateVoteOrDisconnect fun hc => by cases hc
  refine (wp_ite _).mpr ⟨fun hc => ?_, fun _ => hupdate s hs⟩
  refine (wp_ite _).mpr ⟨fun _ => h.disconnect_false _ s hs, fun _ => ?_⟩
  refine (wp_ite _).mpr ⟨fun _ => h.disconnect_false _ s hs, fun _ => ?_⟩
  refine wp.bind (h.send _ _ hc hs) fun sent => ?_
  exact preserves_ite (fun _ => h.disconnect_false _) fun _ => hupdate

theorem regularCallback (h : Stable env I) (execResult : HeuristicsExecResult) :
    Preserves I (qdeviceNetRegularHeuristicsExecResultCallback env execResult) := by
  refine (h.notifier false fun hc => by cases hc).bind fun active => ?_
  refine preserves_ite (fun _ => (h.disconnect _).bind fun _ => preserves_pure _) fun _ => ?_
  split
  · exact preserves_stop
  · refine preserves_ite (fun _ => preserves_pure _) fun _ => ?_
    have hrest : Preserves I do
        Net.modifyNet fun net => { net with
          latestRegularHeuristicsResult := ‹TlvHeuristics›
          latestHeuristicsResult := ‹TlvHeuristics› }
        let _ ← qdeviceNetHeuristicsScheduleTimer env
        return := by
      refine (h.modifyNet fun _ => rfl).bind fun _ => ?_
      exact h.heuristicsScheduleTimer.bind fun _ => preserves_pure _
    refine preserves_get fun s hs => ?_
    refine preserves_ite (fun _ => ?_) (fun _ => hrest) s hs
    refine (h.regularHeuristicsChanged _).bind fun ok => ?_
    exact preserves_ite (fun _ => preserves_pure _) fun _ => hrest

/-- The result for a new membership.  While the instance is connected, the membership is sent. -/
theorem votequorumCallback (h : Stable env I)
    (hpaused : Preserves I (qdeviceNetCastVoteTimerSetPaused false))
    (hsend : ∀ ringId nodeList heuristics {s : QdeviceInstance}, s.net.connected → I s →
      wp (qdeviceNetSendMembershipNodeList env ringId nodeList heuristics) (fun _ => I) s)
    (execResult : HeuristicsExecResult) :
    Preserves I (qdeviceVotequorumHeuristicsExecResultCallback env execResult) := by
  refine (h.notifier false fun hc => by cases hc).bind fun active => ?_
  refine preserves_ite (fun _ => preserves_stop_bind _) fun _ => preserves_get fun s hs => ?_
  unfold qdeviceModelNetVotequorumNodeListHeuristicsNotify
  split
  · exact preserves_stop s hs
  · refine preserves_get (fun s hs => ?_) s hs
    have hvote : (if s.net.connected then .waitForReply else s.net.notifyVote) ≠ TlvVote.ack := by
      split
      · exact fun hc => by cases hc
      · exact s.net.notifyVote_ne
    refine (wp_ite _).mpr ⟨fun _ => (h.disconnect _).bind (fun _ => preserves_pure _) s hs,
      fun _ => ?_⟩
    refine (wp_ite _).mpr ⟨fun hc => wp.bind (hsend _ _ _ hc hs) fun sent =>
      preserves_ite (fun _ => (h.disconnect _).bind fun _ => preserves_pure _) fun _ => ?_,
      fun _ => (?_ : Preserves I _) s hs⟩
    -- The same follows whether the list is sent or not.
    all_goals
      refine hpaused.bind fun _ => (h.updateVoteOrDisconnect hvote).bind fun ok => ?_
      refine preserves_ite (fun _ => preserves_pure _) fun _ => ?_
      refine (h.modifyNet fun _ => rfl).bind fun _ => ?_
      exact h.heuristicsScheduleTimer.bind fun _ => preserves_pure _

theorem sendQuorumNodeList (h : Stable env I) (tlvQuorate : TlvQuorate)
    (nodeList : List VotequorumNode) {s : QdeviceInstance} (hc : s.net.connected) (hs : I s) :
    wp (qdeviceNetSendQuorumNodeList env tlvQuorate nodeList) (fun _ => I) s := by
  unfold qdeviceNetSendQuorumNodeList
  split
  · exact preserves_stop s hs
  · exact preserves_pure _ s hs
  · exact h.send _ _ hc hs

theorem algorithmQuorumNotify (h : Stable env I) (quorate : UInt32) :
    Preserves I (qdeviceNetAlgorithmVotequorumQuorumNotify quorate) := by
  refine preserves_get fun s hs => ?_
  cases s.net.decisionAlgorithm with
  | test | ffsplit | twoNodeLms => exact preserves_pure _ s hs
  | lms => exact (h.modifyNet fun _ => rfl).bind (fun _ => preserves_pure _) s hs

end Stable

/-- The send list, the vote, the reason and the heuristics are left out, too. -/
def QdeviceInstance.quiet (inst : QdeviceInstance) : QdeviceInstance :=
  { inst.core.voteless with
    net := { inst.core.voteless.net with
      sendBufferList := { inst.net.sendBufferList with
        allocatedListEntries := 0, list := [], freeList := 0 }
      lastMsgSeqNum := 0
      disconnectReason := .undefined
      scheduleDisconnect := false }
    notifierList := []
    heuristicsInstance := heuristicsInit 0 0 }

/-- An invariant about the other fields is kept. -/
theorem stable_of_quiet (hquiet : ∀ {s s' : QdeviceInstance}, s'.quiet = s.quiet → I s → I s') :
    Stable env I where
  frame := by
    intro s s' hcore hs
    have heq : s'.core.quiet = s.core.quiet := by rw [hcore]
    exact @hquiet s s' heq hs
  disconnect reason := preserves_modifyNet fun s hs => hquiet (s := s) rfl hs
  vote vote _ := by
    refine preserves_castVoteTimerUpdate ?_ ?_ vote none
    · intro s s' hvoteless hs
      have heq : s'.voteless.quiet = s.voteless.quiet := by rw [hvoteless]
      exact @hquiet s s' heq hs
    · exact preserves_modifyNet fun s hs => hquiet (s := s) rfl hs
  castVoteTimer := by
    refine preserves_castVoteTimerCallback ?_ ?_
    · intro s s' hvoteless hs
      have heq : s'.voteless.quiet = s.voteless.quiet := by rw [hvoteless]
      exact @hquiet s s' heq hs
    · exact preserves_modifyNet fun s hs => hquiet (s := s) rfl hs
  send msg create s hc hs := by
    refine wp_qdeviceNetSend (fun sblist hgrown => ?_) (fun sblist hgrown => ?_)
      fun sblist size buffer _ _ hgrown => ?_
    all_goals
      refine hquiet (s := s) ?_ hs
      simp only [QdeviceInstance.quiet, QdeviceInstance.core, QdeviceInstance.voteless, countMsg, id,
        hgrown.maxListEntries, hgrown.maxBufferSize]
  notifier active _ := preserves_setNotifierActive fun {s items} _ hs => hquiet (s := s) rfl hs
  heuristics := by
    intro s heuristics _ hs
    exact hquiet (s := s) rfl hs

/-! ### Corosync -/

/-- What corosync and cmap have told qdevice is left out, and whether a connection was closed. -/
def QdeviceInstance.outerless (inst : QdeviceInstance) : QdeviceInstance :=
  { inst with
    heuristicsMode := .disabled
    configNodeList := []
    configNodeListVersion := none
    vqQuorumQuorate := 0
    vqQuorumNodeList := []
    syncInProgress := false
    exitReason := .model }

/-- What the notifications do keeps `I`, too. -/
structure NotificationStable (env : NetEnv) (I : QdeviceInstance → Prop) : Prop extends
    Stable env I where
  outerless {s s' : QdeviceInstance} : s'.outerless = s.outerless → I s → I s'

/-- An invariant about other fields is kept. -/
theorem notificationStable_of_quiet (hquiet : ∀ {s s' : QdeviceInstance},
      s'.outerless.quiet = s.outerless.quiet → I s → I s') : NotificationStable env I where
  toStable := stable_of_quiet <| by
    intro s s' heq hs
    have heq' : s'.quiet.outerless = s.quiet.outerless := by rw [heq]
    exact @hquiet s s' heq' hs
  outerless := by
    intro s s' heq hs
    have heq' : s'.outerless.quiet = s.outerless.quiet := by rw [heq]
    exact @hquiet s s' heq' hs

namespace NotificationStable

theorem and (h : NotificationStable env I) (h' : NotificationStable env J) :
    NotificationStable env (fun s => I s ∧ J s) where
  toStable := h.toStable.and h'.toStable
  outerless heq hs := ⟨h.outerless heq hs.1, h'.outerless heq hs.2⟩

theorem modifyOuter (h : NotificationStable env I) {f : QdeviceInstance → QdeviceInstance}
    (houter : ∀ s, (f s).outerless = s.outerless) : Preserves I (Prog.modify f) :=
  preserves_modify fun s hs => h.outerless (houter s) hs

/-- Whether the instance is connected is the same all along. -/
theorem atState (h : NotificationStable env I) (state : NetState) :
    NotificationStable env (fun s => I s ∧ s.net.state = state) := by
  refine h.and (notificationStable_of_quiet ?_)
  intro s s' hquiet hs
  have heq : s'.outerless.quiet.net.state = s.outerless.quiet.net.state := by rw [hquiet]
  exact heq.trans hs

theorem quorumNotify (h : NotificationStable env I) (quorate : UInt32)
    (nodeList : List VotequorumNode) :
    Preserves I (qdeviceVotequorumQuorumNotifyCallback env quorate nodeList) := by
  refine Preserves.bind ?_ fun _ =>
    Preserves.bind (preserves_get fun s hs => ?_) fun _ => h.modifyOuter fun _ => rfl
  · exact h.modifyOuter fun _ => rfl
  have hat := h.atState s.net.state
  refine wp.mono (Q := fun _ s' => I s' ∧ s'.net.state = s.net.state) ?_ fun _ _ hs' => hs'.1
  refine wp.bind (hat.algorithmQuorumNotify quorate s ⟨hs, rfl⟩) fun done => ?_
  refine preserves_ite (fun _ => (hat.disconnect _).bind fun _ => preserves_pure _) fun _ => ?_
  refine (hat.updateVoteOrDisconnect (NetInstance.notifyVote_ne _)).bind fun ok => ?_
  refine preserves_ite (fun _ => preserves_pure _) fun _ => ?_
  refine preserves_ite (fun hc s' hs' => ?_) fun _ => preserves_pure _
  have hc' : s'.net.connected := by rwa [NetInstance.connected, hs'.2]
  refine wp.bind (hat.sendQuorumNodeList _ _ hc' hs') fun sent => ?_
  exact preserves_ite (fun _ => hat.disconnect _) fun _ => preserves_pure _

theorem expectedVotesNotify (h : NotificationStable env I) :
    Preserves I (qdeviceVotequorumExpectedVotesNotifyCallback env) := by
  refine preserves_get fun s hs => ?_
  refine preserves_ite (fun _ => (h.disconnect _).bind fun _ => preserves_pure _) (fun _ => ?_) s hs
  have hupdate : Preserves I (Net.updateVoteOrDisconnect env .noChange) :=
    h.updateVoteOrDisconnect fun hc => by cases hc
  exact hupdate.bind fun _ => preserves_pure _

theorem configNodeListChanged (h : NotificationStable env I) (nlist : NodeList)
    (configVersion : Option UInt64) :
    Preserves I (qdeviceModelNetConfigNodeListChanged env nlist configVersion) := by
  refine preserves_get fun s hs => ?_
  have hat := h.atState s.net.state
  refine wp.mono (Q := fun _ s' => I s' ∧ s'.net.state = s.net.state) ?_ fun _ _ hs' => hs'.1
  refine preserves_ite (fun _ => (hat.disconnect _).bind fun _ => preserves_pure _) (fun _ => ?_) s
    ⟨hs, rfl⟩
  refine (hat.updateVoteOrDisconnect (NetInstance.notifyVote_ne _)).bind fun ok => ?_
  refine preserves_ite (fun _ => preserves_pure _) fun _ => ?_
  refine preserves_ite (fun hc s' hs' => ?_) fun _ => preserves_pure _
  have hc' : s'.net.connected := by rwa [NetInstance.connected, hs'.2]
  refine wp.bind (hat.send _ _ hc' hs') fun sent => ?_
  exact preserves_ite (fun _ => hat.disconnect _) fun _ => preserves_pure _

theorem cmapNodeListEvent (h : NotificationStable env I) (read : Option (NodeList × Option UInt64)) :
    Preserves I (qdeviceCmapNodeListEvent env read) := by
  unfold qdeviceCmapNodeListEvent
  split
  · exact h.disconnect _
  · refine preserves_get fun s hs => ?_
    refine preserves_ite (fun _ => preserves_pure _) (fun _ => ?_) s hs
    refine (h.configNodeListChanged _ _).bind fun _ => ?_
    refine preserves_ite (fun _ => ?_) fun _ => h.modifyOuter fun _ => rfl
    refine Preserves.bind ?_ fun _ => (h.disconnect _).bind fun _ => preserves_pure _
    exact h.modifyOuter fun _ => rfl

/-- When the exec list has been sent again, a result that was outstanding still is. -/
theorem heuristicsChangeExecList_waiting {execList : Option HeuristicsExecList}
    {syncInProgress : Bool} {inst inst' : HeuristicsInstance}
    (h : heuristicsChangeExecList execList syncInProgress inst = (true, inst'))
    (hwaiting : inst.waitingForResult) : inst'.waitingForResult := by
  rw [heuristicsChangeExecList] at h
  split at h
  · cases h
  · next inst₁ hwrite =>
    have hwaiting₁ := (heuristicsCmdWriteExecList_true hwrite).waiting.trans hwaiting
    simp only [hwaiting₁, if_true] at h
    obtain rfl := congrArg Prod.snd h
    exact Stable.heuristicsExec_waitingForResult _ _

theorem cmapHeuristicsEvent (h : NotificationStable env I) (config : HeuristicsConfig) :
    Preserves I (qdeviceCmapHeuristicsEvent config) := by
  refine preserves_get fun s hs => ?_
  dsimp only
  refine wp.bind ((wp_modify _).mpr ?_) fun _ => ?_
  · refine h.outerless (s := { s with heuristicsInstance := { s.heuristicsInstance with
      timeout := config.timeout, syncTimeout := config.syncTimeout } }) rfl ?_
    exact h.heuristics (fun hwaiting => hwaiting) hs
  split
  · exact preserves_pure _
  · refine preserves_get fun s hs => ?_
    generalize hchange : heuristicsChangeExecList _ s.syncInProgress s.heuristicsInstance = change
    obtain ⟨_ | _, heuristics⟩ := change
    · exact preserves_stop s hs
    · exact (wp_modify _).mpr (h.heuristics (heuristicsChangeExecList_waiting hchange) hs)

theorem cmapChanged (h : NotificationStable env I) : Preserves I (qdeviceModelNetCmapChanged env) := by
  refine preserves_get fun s hs => ?_
  refine preserves_ite (fun _ => (h.disconnect _).bind fun _ => preserves_pure _) (fun _ => ?_) s hs
  exact h.heuristicsScheduleTimer.bind fun _ => preserves_pure _

theorem cmapReload (h : NotificationStable env I)
    (nodeList : Option (Option (NodeList × Option UInt64))) (heuristics : Option HeuristicsConfig) :
    Preserves I (qdeviceCmapReload env nodeList heuristics) := by
  cases heuristics with
  | none =>
    cases nodeList with
    | none => exact preserves_pure _
    | some read => exact (h.cmapNodeListEvent read).bind fun _ => preserves_pure _
  | some config =>
    have hconfig := (h.cmapHeuristicsEvent config).bind fun _ => h.cmapChanged
    cases nodeList with
    | none => exact hconfig
    | some read => exact (h.cmapNodeListEvent read).bind fun _ => hconfig

theorem heuristicsWrite (h : NotificationStable env I) (write : PipeWrite) :
    Preserves I (heuristicsPipeCmdSendWrite write) := by
  have hwaiting (inst : HeuristicsInstance) : (heuristicsCmdWrite write inst).2.2.waitingForResult =
      inst.waitingForResult := by
    unfold heuristicsCmdWrite
    split
    · rfl
    · cases write with
      | again | error => rfl
      | wrote n =>
        dsimp only
        split
        · rfl
        · split
          · rfl
          · rfl
  refine preserves_get fun s hs => ?_
  refine wp.bind ((wp_modify _).mpr (h.heuristics (fun hs' => ?_) hs)) fun _ => ?_
  · exact (hwaiting _).trans hs'
  · refine preserves_ite (fun _ => Preserves.bind ?_ fun _ => preserves_pure _)
      fun _ => preserves_pure _
    exact h.modifyOuter fun _ => rfl

end NotificationStable

/-! ### A new membership -/

/-- What a new membership writes, too, is left out: the ring ids, and whether the vote is paused. -/
def QdeviceInstance.ringless (inst : QdeviceInstance) : QdeviceInstance :=
  { inst with
    net := { inst.net with castVoteTimerPaused := false, lastSentRingId := .zero }
    vqPollRingId := .zero
    vqNodeListRingId := .zero
    vqNodeList := [] }

/-- What a new membership does keeps `I`, too. -/
structure MembershipStable (env : NetEnv) (I : QdeviceInstance → Prop) : Prop extends
    NotificationStable env I where
  ringless {s s' : QdeviceInstance} : s'.ringless = s.ringless → I s → I s'
  sendMembership (ringId : TlvRingId) (nodeList : List UInt32) (heuristics : TlvHeuristics)
    {s : QdeviceInstance} : s.net.connected → I s →
      wp (qdeviceNetSendMembershipNodeList env ringId nodeList heuristics) (fun _ => I) s

/-- An invariant about fields that no notification writes is kept. -/
theorem membershipStable_of_quiet (hquiet : ∀ {s s' : QdeviceInstance},
      s'.ringless.outerless.quiet = s.ringless.outerless.quiet → I s → I s') :
    MembershipStable env I where
  toNotificationStable := notificationStable_of_quiet <| by
    intro s s' heq hs
    have heq' : s'.outerless.quiet.ringless = s.outerless.quiet.ringless := by rw [heq]
    exact @hquiet s s' heq' hs
  ringless := by
    intro s s' heq hs
    have heq' : s'.ringless.outerless.quiet = s.ringless.outerless.quiet := by rw [heq]
    exact @hquiet s s' heq' hs
  sendMembership ringId nodeList heuristics s hc hs := by
    refine preserves_ite (fun _ => preserves_pure _) (fun _ s hs => ?_) s hs
    refine wp_qdeviceNetSend (fun sblist hgrown => ?_) (fun sblist hgrown => ?_)
      fun sblist size buffer _ _ hgrown => ?_
    all_goals
      refine hquiet (s := s) ?_ hs
      simp only [QdeviceInstance.quiet, QdeviceInstance.core, QdeviceInstance.voteless,
        QdeviceInstance.outerless, QdeviceInstance.ringless, countMsg, hgrown.maxListEntries,
        hgrown.maxBufferSize]

namespace MembershipStable

theorem and (h : MembershipStable env I) (h' : MembershipStable env J) :
    MembershipStable env (fun s => I s ∧ J s) where
  toNotificationStable := h.toNotificationStable.and h'.toNotificationStable
  ringless heq hs := ⟨h.ringless heq hs.1, h'.ringless heq hs.2⟩
  sendMembership ringId nodeList heuristics _ hc hs :=
    (h.sendMembership ringId nodeList heuristics hc hs.1).and
      (h'.sendMembership ringId nodeList heuristics hc hs.2)

theorem setPaused (h : MembershipStable env I) (paused : Bool) :
    Preserves I (qdeviceNetCastVoteTimerSetPaused paused) :=
  preserves_modifyNet fun s hs => h.ringless (s := s) rfl hs

theorem nodeListNotify (h : MembershipStable env I) (ringId : TlvRingId) (nodeList : List UInt32) :
    Preserves I (qdeviceVotequorumNodeListNotifyCallback env ringId nodeList) := by
  have hnet : Preserves I (qdeviceModelNetVotequorumNodeListNotify env) := by
    refine h.heuristicsStopTimer.bind fun stopped => ?_
    refine preserves_ite (fun _ => preserves_pure _) fun _ => preserves_get fun s hs => ?_
    refine preserves_ite (fun _ => (h.disconnect _).bind fun _ => preserves_pure _) (fun _ => ?_) s
      hs
    refine (h.updateVoteOrDisconnect (NetInstance.notifyVote_ne _)).bind fun ok => ?_
    exact preserves_ite (fun _ => preserves_pure _) fun _ => h.setPaused true
  refine Preserves.bind (preserves_modify fun s hs => ?_) fun _ => hnet.bind fun _ => ?_
  · exact h.outerless (s := { s with vqPollRingId := ringId }) rfl (h.ringless (s := s) rfl hs)
  refine (h.notifier true fun hc => by cases hc).bind fun active => ?_
  refine preserves_ite (fun _ => preserves_stop_bind _) fun _ => ?_
  refine h.execHeuristics.bind fun ok => ?_
  refine preserves_ite (fun _ => preserves_stop_bind _) fun _ => ?_
  exact preserves_modify fun s hs => h.ringless (s := s) rfl hs

theorem votequorumCallback (h : MembershipStable env I) (execResult : HeuristicsExecResult) :
    Preserves I (qdeviceVotequorumHeuristicsExecResultCallback env execResult) :=
  h.toStable.votequorumCallback (h.setPaused false) h.sendMembership execResult

end MembershipStable

/-! ### Results of the heuristics -/

/-- What a read from the heuristics worker can do: a result that was outstanding still is, or the
    notifiers were called with it; and only one that was outstanding is notified. -/
def Notifies (inst inst' : HeuristicsInstance) : Prop :=
  ∃ new, inst'.notifications = inst.notifications ++ new ∧
    ((new = [] ∧ inst'.waitingForResult = inst.waitingForResult) ∨
      ∃ result, new = [result] ∧ inst.waitingForResult = true ∧ inst'.waitingForResult = false)

theorem Notifies.refl (inst : HeuristicsInstance) : Notifies inst inst :=
  ⟨[], (List.append_nil _).symm, .inl ⟨rfl, rfl⟩⟩

theorem Notifies.trans {inst inst₁ inst₂ : HeuristicsInstance} (h : Notifies inst inst₁)
    (h' : Notifies inst₁ inst₂) : Notifies inst inst₂ := by
  obtain ⟨new, hnew, hcase⟩ := h
  obtain ⟨new', hnew', hcase'⟩ := h'
  refine ⟨new ++ new', by rw [hnew', hnew, List.append_assoc], ?_⟩
  rcases hcase with ⟨rfl, hwaiting⟩ | ⟨result, rfl, hwaiting, hdone⟩
  · rcases hcase' with ⟨rfl, hwaiting'⟩ | ⟨result, rfl, hwaiting', hdone⟩
    · exact .inl ⟨rfl, hwaiting'.trans hwaiting⟩
    · exact .inr ⟨result, rfl, hwaiting.symm.trans hwaiting', hdone⟩
  · rcases hcase' with ⟨rfl, hwaiting'⟩ | ⟨_, _, hwaiting', _⟩
    · exact .inr ⟨result, rfl, hwaiting, hwaiting'.trans hdone⟩
    · rw [hdone] at hwaiting'
      cases hwaiting'

/-- One line is handled. -/
theorem heuristicsCmdProcessLine_notifies (line : List UInt8) (inst : HeuristicsInstance) :
    Notifies inst (heuristicsCmdProcessLine (fun _ => true) line inst).2 := by
  have hsame := Notifies.refl inst
  unfold heuristicsCmdProcessLine heuristicsCmdProcessExecResult
  dsimp only
  split
  · split
    · exact hsame
    · split
      · exact hsame
      · next hwaiting =>
        split
        · exact hsame
        · refine ⟨[_], rfl, .inr ⟨_, rfl, ?_, rfl⟩⟩
          simpa using hwaiting
  · exact hsame

theorem heuristicsCmdReadFromPipe_notifies (read : PipeRead) (inst : HeuristicsInstance) :
    Notifies inst (heuristicsCmdReadFromPipe (fun _ => true) read inst).2 := by
  unfold heuristicsCmdReadFromPipe heuristicsReadLines
  dsimp only
  split
  · next buffer _ =>
    exact Text.handleLines_keeps Notifies.refl Notifies.trans heuristicsCmdProcessLine_notifies
      buffer.data inst
  · exact .refl inst
  · exact .refl inst

/-- What the callbacks keep, the notifiers keep. -/
theorem preserves_notifierNotify {execResult : HeuristicsExecResult}
    (hcallback : ∀ callback, Preserves I (heuristicsCallback env execResult callback))
    (callbacks : List HeuristicsCallback) :
    Preserves I (heuristicsResultNotifierNotify env execResult callbacks) := by
  induction callbacks with
  | nil => exact preserves_pure _
  | cons callback callbacks ih =>
    refine preserves_get fun s hs => ?_
    exact preserves_ite (fun _ => (hcallback callback).bind fun _ => ih) (fun _ => ih) s hs

theorem preserves_notifyResults
    (hcallback : ∀ execResult callback, Preserves I (heuristicsCallback env execResult callback))
    (notifications : List HeuristicsNotification) :
    Preserves I (notifyResults env notifications) := by
  induction notifications with
  | nil => exact preserves_pure _
  | cons notification notifications ih =>
    refine preserves_get fun s hs => ?_
    exact (preserves_notifierNotify (hcallback _) _).bind (fun _ => ih) s hs

/-- A result is read, if the invariant is not about the heuristics. -/
theorem preserves_heuristicsRead
    (hcallback : ∀ execResult callback, Preserves I (heuristicsCallback env execResult callback))
    (hexit : ∀ s : QdeviceInstance, I s → I { s with exitReason := .heuristicsClosed })
    {read : PipeRead} {s : QdeviceInstance}
    (hs : I { s with heuristicsInstance :=
      (heuristicsCmdReadFromPipe (fun _ => true) read s.heuristicsInstance).2 }) :
    wp (heuristicsPipeCmdRecvRead env read) (fun _ => I) s := by
  unfold heuristicsPipeCmdRecvRead
  rw [wp_bind, wp_get]
  refine wp.bind ((wp_modify _).mpr hs) fun _ => ?_
  refine (preserves_notifyResults hcallback _).bind fun _ => ?_
  refine preserves_ite (fun _ => ?_) fun _ => preserves_pure _
  exact (preserves_modify hexit).bind fun _ => preserves_pure _

/-! ### Events -/

/-- The notifications, and the timers that only concern corosync. -/
def NetEvent.isNotification : NetEvent → Bool
  | .castVoteTimer | .heuristicsTimer | .heuristicsWrite _ | .quorumNotify _ _
  | .expectedVotesNotify | .cmapReload _ _ | .closed _ => true
  | .prePollLoop | .postPollLoop | .checkScheduleDisconnect | .socketRead _ _ | .socketWrite _
  | .socketErr | .nonBlockingClient _ | .connectTimeout | .echoRequestTimer | .heuristicsRead _
  | .nodeListNotify _ _ => false

/-- An invariant that is stable is kept by a notification. -/
theorem NotificationStable.run (h : NotificationStable env I) {event : NetEvent}
    (hevent : event.isNotification) : Preserves I (event.run env) := by
  cases event with
  | castVoteTimer =>
    refine h.castVoteTimer.bind fun again => ?_
    refine preserves_ite (fun _ => ?_) fun _ => preserves_pure _
    exact (h.modifyNet fun _ => rfl).bind fun _ => preserves_pure _
  | heuristicsTimer => exact h.heuristicsTimerCallback.bind fun _ => preserves_pure _
  | heuristicsWrite write => exact h.heuristicsWrite write
  | quorumNotify isQuorate nodeList =>
    exact (h.quorumNotify isQuorate nodeList).bind fun _ => preserves_pure _
  | expectedVotesNotify => exact h.expectedVotesNotify.bind fun _ => preserves_pure _
  | cmapReload nodeList heuristics =>
    exact (h.cmapReload nodeList heuristics).bind fun _ => preserves_pure _
  | closed reason =>
    refine Preserves.bind ?_ fun _ => preserves_pure _
    exact h.modifyOuter fun _ => rfl
  | prePollLoop => cases hevent
  | postPollLoop => cases hevent
  | checkScheduleDisconnect => cases hevent
  | socketRead alloc recv => cases hevent
  | socketWrite send => cases hevent
  | socketErr => cases hevent
  | nonBlockingClient status => cases hevent
  | connectTimeout => cases hevent
  | echoRequestTimer => cases hevent
  | heuristicsRead read => cases hevent
  | nodeListNotify ringId nodeList => cases hevent

/-- Where the main loop is before and after a step. -/
inductive StepPhase (event : NetEvent) (goOn : Bool) : LoopPhase → LoopPhase → Prop where
  | starting (hpre : event ≠ .prePollLoop) (hpost : event ≠ .postPollLoop) :
    StepPhase event goOn .starting (if goOn then .starting else .stopped)
  | polling (hpre : event ≠ .prePollLoop) (hpost : event ≠ .postPollLoop) :
    StepPhase event goOn .polling (if goOn then .polling else .ended)
  | first (hpre : event = .prePollLoop) :
    StepPhase event goOn .starting (if goOn then .polling else .stopped)
  | again (hpre : event = .prePollLoop) :
    StepPhase event goOn .restarting (if goOn then .polling else .stopped)
  | post (hpost : event = .postPollLoop) :
    StepPhase event goOn .ended (if goOn then .restarting else .stopped)

theorem StepPhase.of_runs {event : NetEvent} {goOn : Bool} {s : QdeviceInstance} (h : s.runs)
    (hpre : event ≠ .prePollLoop) (hpost : event ≠ .postPollLoop) : StepPhase event goOn s.loop
      (if goOn then s.loop else if s.loop = .starting then .stopped else .ended) := by
  simp only [QdeviceInstance.runs, decide_eq_true_eq] at h
  rcases h with hloop | hloop
  · rw [hloop]
    exact .starting hpre hpost
  · rw [hloop]
    exact .polling hpre hpost

theorem NetEvent.stepPhase {event : NetEvent} {s : QdeviceInstance} (h : event.enabled s)
    (goOn : Bool) : StepPhase event goOn s.loop (event.next s.loop goOn) := by
  cases event with
  | prePollLoop =>
    simp only [NetEvent.enabled, decide_eq_true_eq] at h
    rcases h with hloop | hloop
    · rw [hloop]
      exact .first rfl
    · rw [hloop]
      exact .again rfl
  | postPollLoop =>
    simp only [NetEvent.enabled, decide_eq_true_eq] at h
    rw [h]
    exact .post rfl
  | checkScheduleDisconnect | socketRead _ _ | socketWrite _ | socketErr | nonBlockingClient _
  | connectTimeout | echoRequestTimer =>
    simp only [NetEvent.enabled, decide_eq_true_eq] at h
    rw [h.1]
    exact .polling (fun h => by cases h) fun h => by cases h
  | heuristicsRead _ | heuristicsWrite _ | quorumNotify _ _ | nodeListNotify _ _
  | expectedVotesNotify => exact .of_runs h (fun h => by cases h) fun h => by cases h
  | castVoteTimer | heuristicsTimer | cmapReload _ _ | closed _ =>
    simp only [NetEvent.enabled, decide_eq_true_eq] at h
    exact .of_runs h.1 (fun h => by cases h) fun h => by cases h

/-- A step is a call, after which the main loop is elsewhere. -/
theorem netStep_some {s s' : QdeviceInstance} {event : NetEnv × NetEvent}
    (h : netStep s event = some s') :
    ∃ goOn s₁ loop, event.2.enabled s ∧ event.2.run event.1 s = some (goOn, s₁) ∧
      StepPhase event.2 goOn s.loop loop ∧ s' = { s₁ with loop := loop } := by
  rw [netStep] at h
  split at h
  · next henabled =>
    split at h
    · cases h
    · next goOn s₁ hrun =>
      cases h
      exact ⟨goOn, s₁, _, henabled, hrun, NetEvent.stepPhase henabled goOn, rfl⟩
  · cases h

/-! ### Events of a connection -/

/-- A message arrives: its header, and then the rest. -/
def messageArrives (created : Nat × Dynar) : List NetEvent :=
  [.socketRead true (.data (created.2.data.take 6)), .socketRead true (.data (created.2.data.drop 6))]

/-- The heuristics worker sends a result. -/
def resultArrives (seqNumber : UInt32) (execResult : HeuristicsExecResult) : NetEvent :=
  .heuristicsRead (.data (addSpace heuristicsCmdStrExecResult ++ Text.decimal seqNumber.toNat ++
    [32] ++ Text.decimal execResult.number.toNat ++ [10]))

/-- qnetd accepts what the instance asks for. -/
def preinitReplyArrives (n : UInt32) (tlsSupported : TlvTlsSupported) : List NetEvent :=
  messageArrives (msgCreatePreinitReply true n tlsSupported 0 (dynarInit 32768))

def initReplyArrives (n : UInt32) (requestSize replySize : Nat) : List NetEvent :=
  messageArrives (msgCreateInitReply true n TlvReplyErrorCode.noError.toUInt16
    (msgStaticSupportedMessages.map MsgType.toUInt16)
    (tlvStaticSupportedOptions.map TlvOptType.toUInt16) requestSize replySize [0, 1, 2, 3]
    (dynarInit 32768))

/-- The cluster of the examples. -/
def exampleStart : QdeviceStart where
  net := { clusterName := Text.ofChars ['h', 'a'] }

/-- The instance learns about a membership, connects to qnetd and sends PREINIT and INIT. -/
def exampleConnect : List NetEvent :=
  [.nodeListNotify ⟨1, 8⟩ [1, 2], resultArrives 1 .disabled, .prePollLoop,
    .nonBlockingClient .connected, .socketWrite (.sent 20)] ++ preinitReplyArrives 1 .unsupported ++
  [.socketWrite (.sent 153)]

/-- Events with an environment in which nothing fails. -/
def unfailing (events : List NetEvent) : List (NetEnv × NetEvent) := events.map fun event => ({}, event)

end Qdevice.Net
