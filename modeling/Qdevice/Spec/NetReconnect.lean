import Qdevice.Spec.NetAlike

/-! # Reconnecting

What `qdevice_net_instance_clean` leaves behind, and what the next connection makes of it.  An
instance that begins again is like a fresh one, except for the largest sizes of messages, which
stay what the last init reply has made them, and the number of the echo reply that is expected. -/

open Prog

namespace Qdevice.Net

variable {env : NetEnv}

/-! ### Runs of the next connection -/

/-- The calls of the poll loop that are about the connection.  Memory can be had for what is read. -/
def NetEvent.connects : NetEvent → Bool
  | .prePollLoop | .checkScheduleDisconnect | .socketWrite _ | .socketErr | .nonBlockingClient _
  | .connectTimeout => true
  | .socketRead alloc _ => alloc
  | .postPollLoop | .echoRequestTimer | .castVoteTimer | .heuristicsTimer | .heuristicsRead _
  | .heuristicsWrite _ | .quorumNotify _ _ | .nodeListNotify _ _ | .expectedVotesNotify
  | .cmapReload _ _ | .closed _ => false

/-- A call that is about the connection, while there is no init reply: the timer is set when one is
    accepted. -/
def BeforeInitReply (s : QdeviceInstance) (event : NetEnv × NetEvent) : Bool :=
  event.2.connects && !s.net.echoRequestTimer

/-- If the call completes an echo reply, then it is expected as by a fresh instance. -/
def EchoReplyAlike (s : QdeviceInstance) (event : NetEnv × NetEvent) : Prop :=
  match event.2 with
  | .socketRead _ recv => ∀ msg ∈ receivedMsg event.1 s.net.reader recv,
      EchoesAlike s.net.echoRequestExpectedMsgSeqNum msg
  | _ => True

/-- The same for each call of a run, until there is an init reply. -/
def EchoRepliesAlike (s : QdeviceInstance) : List (NetEnv × NetEvent) → Prop
  | [] => True
  | event :: events => BeforeInitReply s event → event.2.enabled s →
      EchoReplyAlike s event ∧ ∀ s' ∈ netStep s event, EchoRepliesAlike s' events

instance (expected : UInt32) (msg : MsgDecoded) : Decidable (EchoesAlike expected msg) :=
  have : Decidable (∀ seqNumber ∈ msg.seqNumber, (seqNumber = expected ↔ seqNumber = 1)) :=
    Option.decidableForallMem _
  inferInstanceAs (Decidable (_ → _))

instance (s : QdeviceInstance) : (event : NetEnv × NetEvent) → Decidable (EchoReplyAlike s event)
  | (env, .socketRead _ recv) =>
    have : Decidable (∀ msg ∈ receivedMsg env s.net.reader recv,
        EchoesAlike s.net.echoRequestExpectedMsgSeqNum msg) := Option.decidableForallMem _
    this
  | (_, .prePollLoop) | (_, .postPollLoop) | (_, .checkScheduleDisconnect) | (_, .socketWrite _)
  | (_, .socketErr) | (_, .nonBlockingClient _) | (_, .connectTimeout) | (_, .echoRequestTimer)
  | (_, .castVoteTimer) | (_, .heuristicsTimer) | (_, .heuristicsRead _) | (_, .heuristicsWrite _)
  | (_, .quorumNotify _ _) | (_, .nodeListNotify _ _) | (_, .expectedVotesNotify)
  | (_, .cmapReload _ _) | (_, .closed _) => instDecidableTrue

instance EchoRepliesAlike.decidable : (s : QdeviceInstance) → (events : List (NetEnv × NetEvent)) →
    Decidable (EchoRepliesAlike s events)
  | _, [] => instDecidableTrue
  | s, event :: events =>
    have (s' : QdeviceInstance) : Decidable (EchoRepliesAlike s' events) :=
      EchoRepliesAlike.decidable s' events
    have : Decidable (∀ s' ∈ netStep s event, EchoRepliesAlike s' events) :=
      Option.decidableForallMem _
    inferInstanceAs (Decidable (_ → _ → EchoReplyAlike s event ∧ _))

/-- Whether messages were accepted and with what they were rejected, and how large they may be. -/
def QdeviceInstance.look (inst : QdeviceInstance) :=
  (inst.loop, inst.net.state, inst.net.disconnectReason, inst.net.scheduleDisconnect,
    inst.net.echoRequestTimer, inst.net.reader.receiveBuffer.maximumSize, inst.net.sendBufferList)

section

variable {s t : QdeviceInstance}

theorem Alike.look (h : Alike Reading.Same s t) : s.look = t.look := by
  have hlink : (s.link.loop, s.link.net.state, s.link.net.disconnectReason,
      s.link.net.scheduleDisconnect, s.link.net.sendBufferList) = (t.link.loop, t.link.net.state,
      t.link.net.disconnectReason, t.link.net.scheduleDisconnect, t.link.net.sendBufferList) := by
    rw [h.link]
  have hmax : s.net.reader.receiveBuffer.maximumSize = t.net.reader.receiveBuffer.maximumSize :=
    h.reading.maximumSize
  have htimer : s.net.echoRequestTimer = t.net.echoRequestTimer := h.reading.timer
  simp only [Prod.mk.injEq] at hlink
  obtain ⟨hloop, hstate, hreason, hschedule, hlist⟩ := hlink
  simp only [QdeviceInstance.look, Prod.mk.injEq]
  exact ⟨hloop, hstate, hreason, hschedule, htimer, hmax, hlist⟩

theorem look_loop (h : s.look = t.look) (loop : LoopPhase) :
    QdeviceInstance.look { s with loop := loop } = QdeviceInstance.look { t with loop := loop } := by
  simp only [QdeviceInstance.look, Prod.mk.injEq] at h ⊢
  exact ⟨trivial, h.2⟩

/-- The poll loop can make the same calls. -/
theorem enabled_eq (h : Alike Reading.Follows s t) {event : NetEvent}
    (hconnects : event.connects) : event.enabled s = event.enabled t := by
  have hsame {event : NetEvent} (hlink : ∀ s, event.enabled s.link = event.enabled s) :
      event.enabled s = event.enabled t := by
    rw [← hlink s, ← hlink t, h.link]
  cases event with
  | socketRead alloc recv =>
    have hrecv : recvPossible s.net.reader recv = recvPossible t.net.reader recv := by
      obtain ⟨tail, hs, ht⟩ := h.reading.stream
      cases recv with
      | data bytes =>
        have htoRead : msgioToRead s.net.reader = msgioToRead t.net.reader := msgioToRead_eq hs ht
        simp only [recvPossible, htoRead]
      | closed | wouldBlock | error => rfl
    have hlink : (s.link.loop, s.link.net.socket) = (t.link.loop, t.link.net.socket) := by
      rw [h.link]
    obtain ⟨hloop, hsocket⟩ := Prod.mk.inj hlink
    simp only [NetEvent.enabled, hrecv, show s.loop = t.loop from hloop,
      show s.net.socket = t.net.socket from hsocket]
  | prePollLoop | checkScheduleDisconnect | socketWrite _ | socketErr | nonBlockingClient _
  | connectTimeout => exact hsame fun _ => rfl
  | postPollLoop | echoRequestTimer | castVoteTimer | heuristicsTimer | heuristicsRead _
  | heuristicsWrite _ | quorumNotify _ _ | nodeListNotify _ _ | expectedVotesNotify
  | cmapReload _ _ | closed _ => cases hconnects

/-- One call in the poll loop. -/
theorem wp₂_run (h : Alike Reading.Follows s t) (hloop : s.loop = .polling)
    {event : NetEvent} (hconnects : event.connects) (henabled : event.enabled s)
    (hecho : EchoReplyAlike s (env, event)) :
    wp₂ (event.run env) (event.run env) Continues s t := by
  have hkeeps {m : NetM Bool} (hm : Agrees (Alike Reading.Follows) m) :
      wp₂ m m Continues s t :=
    (hm s t h).mono fun _ _ _ => Continues.of_follows
  have hcb {m : NetM Bool} (hm : wp₂ m m Continues s t) :
      wp₂ (socketCb m) (socketCb m) Continues s t := by
    refine wp₂_bind (hm.mono fun ok s₁ t₁ h₁ => wp₂_ite _ (fun hfail => ?_) fun _ => wp₂_pure _ h₁)
    refine wp₂_bind (wp₂_modify (wp₂_pure _ ⟨?_, fun hok => absurd (hfail.symm.trans hok) (by decide)⟩))
    exact h₁.1.write (f := fun net => { net with scheduleDisconnect := true }) (fun _ => rfl)
      (fun _ => rfl) fun _ h => h
  cases event with
  | prePollLoop => simp [NetEvent.enabled, hloop] at henabled
  | checkScheduleDisconnect => exact hkeeps (agrees_pure _)
  | socketRead alloc recv =>
    obtain rfl : alloc = true := hconnects
    simp only [NetEvent.enabled, decide_eq_true_eq] at henabled
    exact hcb (wp₂_socketRead h henabled.2.2 hecho)
  | socketWrite send => exact hcb (hkeeps (agrees_socketWrite send))
  | socketErr => exact hkeeps ((agrees_disconnectWith _).bind fun _ => agrees_pure _)
  | nonBlockingClient status => exact hkeeps (agrees_nonBlockingClient status)
  | connectTimeout =>
    refine hkeeps (Agrees.bind ((agrees_disconnectWith _).bind fun _ => ?_) fun _ => agrees_pure _)
    exact agrees_modifyNet (fun _ => rfl) (fun _ => rfl) fun _ h => h
  | postPollLoop | echoRequestTimer | castVoteTimer | heuristicsTimer | heuristicsRead _
  | heuristicsWrite _ | quorumNotify _ _ | nodeListNotify _ _ | expectedVotesNotify
  | cmapReload _ _ | closed _ => cases hconnects

/-- The socket is not there yet. -/
def QdeviceInstance.destroyed (inst : QdeviceInstance) : QdeviceInstance :=
  { inst with net := { inst.net with nonBlockingClientDestroyed := true } }

/-- The loop begins. -/
theorem wp₂_prePollLoop (h : Alike Reading.Follows s.destroyed t.destroyed) :
    wp₂ (qdeviceModelNetPrePollLoop env) (qdeviceModelNetPrePollLoop env)
      (fun ok s' t' => s'.look = t'.look ∧ (ok = true → Alike Reading.Follows s' t')) s t := by
  have hbegin := h.write (f := fun net => { net with
    state := .waitingConnect
    socket := none
    connectTimer := env.timerListAdd .connect }) (fun _ => rfl) (fun _ => rfl) fun _ _ h => by cases h
  have hlook := (hbegin.mono fun _ _ hreading => hreading.toSame).look
  have hnext := hbegin.write (f := fun net => { net with
    nonBlockingClientDestroyed := !(env.clientInit && env.clientTryNext) }) (fun _ => rfl)
    (fun _ => rfl) fun _ h => h
  have hnextLook := (hnext.mono fun _ _ hreading => hreading.toSame).look
  refine wp₂_bind (wp₂_modify (wp₂_ite _ (fun _ => wp₂_pure _ ⟨hlook, fun hno => by cases hno⟩)
    fun _ => ?_))
  refine wp₂_bind (wp₂_modify (wp₂_alike_get (fun _ => rfl) hnext ?_))
  exact wp₂_ite _ (fun _ => wp₂_pure _ ⟨hnextLook, fun hno => by cases hno⟩)
    fun _ => wp₂_pure _ ⟨hnextLook, fun _ => hnext⟩

/-- Two instances that look the same, and do so from here on until there is an init reply. -/
structure Sim (s t : QdeviceInstance) : Prop where
  look : s.look = t.look
  restarting : s.loop = .starting ∨ s.loop = .restarting →
    Alike Reading.Follows s.destroyed t.destroyed
  polling : s.loop = .polling → s.net.echoRequestTimer = false → Alike Reading.Follows s t

theorem Sim.loop_eq (h : Sim s t) : s.loop = t.loop := congrArg Prod.fst h.look

theorem Sim.beforeInitReply_eq (h : Sim s t) (event : NetEnv × NetEvent) :
    BeforeInitReply s event = BeforeInitReply t event := by
  have hlook := h.look
  simp only [QdeviceInstance.look, Prod.mk.injEq] at hlook
  simp only [BeforeInitReply, hlook.2.2.2.2.1]

/-- Only a loop that begins or runs makes a call that is about the connection. -/
theorem enabled_connects {event : NetEvent} (hconnects : event.connects) (henabled : event.enabled s) :
    event = .prePollLoop ∧ (s.loop = .starting ∨ s.loop = .restarting) ∨
      event ≠ .prePollLoop ∧ s.loop = .polling := by
  cases event with
  | prePollLoop =>
    simp only [NetEvent.enabled, decide_eq_true_eq] at henabled
    exact .inl ⟨rfl, henabled⟩
  | checkScheduleDisconnect | socketRead _ _ | socketWrite _ | socketErr | nonBlockingClient _
  | connectTimeout =>
    simp only [NetEvent.enabled, decide_eq_true_eq] at henabled
    exact .inr ⟨(fun h => by cases h), henabled.1⟩
  | postPollLoop | echoRequestTimer | castVoteTimer | heuristicsTimer | heuristicsRead _
  | heuristicsWrite _ | quorumNotify _ _ | nodeListNotify _ _ | expectedVotesNotify
  | cmapReload _ _ | closed _ => cases hconnects

theorem netStep_eq {event : NetEnv × NetEvent} {goOn : Bool} {s s' : QdeviceInstance}
    (henabled : event.2.enabled s) (hrun : event.2.run event.1 s = some (goOn, s')) :
    netStep s event = some { s' with loop := event.2.next s.loop goOn } := by
  rw [netStep, if_pos henabled, hrun]

/-- A call that is enabled in both. -/
theorem netStep_of_wp₂ {event : NetEnv × NetEvent} {Q : Bool → QdeviceInstance → QdeviceInstance → Prop}
    {Q' : QdeviceInstance → QdeviceInstance → Prop} (hs : event.2.enabled s)
    (ht : event.2.enabled t) (h : wp₂ (event.2.run event.1) (event.2.run event.1) Q s t)
    (hnext : ∀ ok s' t', Q ok s' t' → Q' { s' with loop := event.2.next s.loop ok }
      { t' with loop := event.2.next t.loop ok }) :
    (netStep s event = none ∧ netStep t event = none) ∨
      ∃ s' t', netStep s event = some s' ∧ netStep t event = some t' ∧ Q' s' t' := by
  obtain ⟨hnone, hnone'⟩ | ⟨ok, s', t', hsome, hsome', hq⟩ := h
  · left
    simp only [netStep, hs, ht, hnone, hnone', if_true, and_self]
  · right
    exact ⟨_, _, netStep_eq hs hsome, netStep_eq ht hsome', hnext ok s' t' hq⟩

/-- A step that is about the connection. -/
theorem Sim.step (h : Sim s t) {event : NetEnv × NetEvent} (hbefore : BeforeInitReply s event)
    (hecho : event.2.enabled s → EchoReplyAlike s event) :
    (netStep s event = none ∧ netStep t event = none) ∨
      ∃ s' t', netStep s event = some s' ∧ netStep t event = some t' ∧ Sim s' t' := by
  obtain ⟨hconnects, htimer⟩ := (Bool.and_eq_true _ _).mp hbefore
  have hnoReply : s.net.echoRequestTimer = false := by simpa using htimer
  have hloop := h.loop_eq
  obtain ⟨env, event⟩ := event
  have hdisabled (hs : ¬ event.enabled s) (ht : ¬ event.enabled t) :
      netStep s (env, event) = none ∧ netStep t (env, event) = none := by
    constructor
    · rw [netStep, if_neg hs]
    · rw [netStep, if_neg ht]
  by_cases hany : event.enabled s ∨ event.enabled t
  · have hcases : event = .prePollLoop ∧ (s.loop = .starting ∨ s.loop = .restarting) ∨
        event ≠ .prePollLoop ∧ s.loop = .polling := by
      rcases hany with hs | ht
      · exact enabled_connects hconnects hs
      · rw [hloop]
        exact enabled_connects hconnects ht
    obtain ⟨rfl, hidle⟩ | ⟨hpre, hpolling⟩ := hcases
    · have hs : NetEvent.prePollLoop.enabled s := decide_eq_true hidle
      have ht : NetEvent.prePollLoop.enabled t := decide_eq_true (hloop ▸ hidle)
      refine netStep_of_wp₂ hs ht (wp₂_prePollLoop (h.restarting hidle)) fun ok s' t' h' => ?_
      have hmoved (hok : ok = true) := (h'.2 hok).outer (f := fun inst => { inst with
        loop := NetEvent.prePollLoop.next s.loop ok }) (fun _ => rfl) fun _ => rfl
      rw [← hloop]
      refine ⟨look_loop h'.1 _, fun hno => ?_, fun hgo _ => ?_⟩
      · cases ok <;> rcases hno with hno | hno <;> cases hno
      · cases ok with
        | true => exact hmoved rfl
        | false => cases hgo
    · have halike := h.polling hpolling hnoReply
      have henabled := enabled_eq halike hconnects
      have hs : event.enabled s := hany.elim id fun ht => henabled.trans ht
      refine netStep_of_wp₂ hs (henabled.symm.trans hs)
        (wp₂_run halike hpolling hconnects hs (hecho hs)) fun ok s' t' h' => ?_
      have hphase := NetEvent.stepPhase hs ok
      rw [← hloop]
      rw [hpolling] at hphase ⊢
      generalize event.next .polling ok = loop at hphase ⊢
      refine ⟨look_loop h'.1.look _, fun hno => ?_, fun hgo hno => ?_⟩
      · cases hphase with
        | polling _ _ => cases ok <;> rcases hno with hno | hno <;> cases hno
      · cases hphase with
        | polling _ _ =>
          cases ok with
          | true =>
            obtain hreplied | hmore := h'.2 rfl
            · exact absurd (hreplied.symm.trans hno) (by decide)
            · exact hmore.outer (f := fun inst => { inst with loop := .polling }) (fun _ => rfl)
                fun _ => rfl
          | false => cases hgo
  · rw [not_or] at hany
    exact .inl (hdisabled hany.1 hany.2)

theorem receivedMsg_eq (h : Alike Reading.Follows s t) {recv : Recv}
    (hrecv : recvPossible s.net.reader recv) :
    receivedMsg env s.net.reader recv = receivedMsg env t.net.reader recv := by
  have hsame : ReadsSame (msgioRead true recv s.net.reader) (msgioRead true recv t.net.reader) :=
    h.reading.readsSame hrecv
  unfold receivedMsg
  generalize msgioRead true recv s.net.reader = read at *
  generalize msgioRead true recv t.net.reader = read' at *
  obtain ⟨reader, res⟩ := read
  obtain ⟨reader', res'⟩ := read'
  obtain ⟨hres, -, hskipping, hmessage⟩ := hsame
  dsimp only at hres hskipping hmessage ⊢
  subst hres
  by_cases hfull : res = .fullMessage
  · rw [← hskipping hfull]
    split
    · next hmsg => rw [hmessage hfull hmsg.2]
    · rfl
  · rw [if_neg fun hmsg => hfull hmsg.1, if_neg fun hmsg => hfull hmsg.1]

/-- The loop goes on exactly if the echo reply is expected. -/
theorem netStep_echoReply (hloop : s.loop = .polling) {recv : Recv}
    (henabled : (NetEvent.socketRead true recv).enabled s) {msg : MsgDecoded}
    (hmsg : receivedMsg env s.net.reader recv = some msg)
    (htype : MsgType.ofUInt16? msg.type = some .echoReply) {seqNumber : UInt32}
    (hseq : msg.seqNumber = some seqNumber) :
    ∃ s', netStep s (env, .socketRead true recv) = some s' ∧
      s'.loop = if seqNumber = s.net.echoRequestExpectedMsgSeqNum then .polling else .ended := by
  -- The handler fails only on a number that is not expected, with any algorithm.
  have hhandled (s₁ : QdeviceInstance) : ∃ s₂, qdeviceNetMsgReceivedEchoReply msg s₁ =
      some (decide (seqNumber = s₁.net.echoRequestExpectedMsgSeqNum), s₂) := by
    have halgorithm (isExpected : Bool) (algorithm : TlvDecisionAlgorithmType) :
        qdeviceNetAlgorithmEchoReplyReceived isExpected algorithm = isExpected := by
      cases algorithm <;> rfl
    unfold qdeviceNetMsgReceivedEchoReply
    rw [hseq, bind_eq]
    dsimp only [Prog.get]
    rw [halgorithm]
    split
    · next hno =>
      rw [hno]
      exact ⟨_, rfl⟩
    · next hyes =>
      rw [Bool.eq_true_of_not_eq_false hyes]
      exact ⟨_, rfl⟩
  -- The read completes the message, so that the handler is called in this step.
  have hrun : ∃ s₁, (NetEvent.socketRead true recv).run env s =
      some (decide (seqNumber = s.net.echoRequestExpectedMsgSeqNum), s₁) := by
    unfold receivedMsg at hmsg
    generalize hread : msgioRead true recv s.net.reader = read at hmsg
    obtain ⟨reader, res⟩ := read
    dsimp only at hmsg
    split at hmsg
    · next hfull =>
      obtain ⟨rfl, hskip⟩ := hfull
      have hdecode : (msgDecode env.beyond reader.receiveBuffer.toDynar).result = .ok msg := by
        cases hres : (msgDecode env.beyond reader.receiveBuffer.toDynar).result with
        | error err =>
          rw [hres] at hmsg
          cases hmsg
        | ok decoded =>
          rw [hres] at hmsg
          exact congrArg Except.ok (Option.some.inj hmsg)
      obtain ⟨s₂, hs₂⟩ := hhandled { s with net := { s.net with reader := reader } }
      have hreceived : qdeviceNetMsgReceived env reader.receiveBuffer.toDynar
          { s with net := { s.net with reader := reader } } =
            some (decide (seqNumber = s.net.echoRequestExpectedMsgSeqNum), s₂) := by
        unfold qdeviceNetMsgReceived qdeviceNetMsgReceivedSwitch
        rw [hdecode]
        dsimp only
        rw [htype]
        exact hs₂
      have hsocket : qdeviceNetSocketRead env true recv s =
          some (decide (seqNumber = s.net.echoRequestExpectedMsgSeqNum),
            { s₂ with net := { s₂.net with reader := s₂.net.reader.reset } }) := by
        unfold qdeviceNetSocketRead
        rw [bind_eq]
        dsimp only [Prog.get]
        rw [hread, bind_eq]
        dsimp only [modifyNet, Prog.modify]
        rw [hskip, if_neg (by decide), bind_eq, hreceived]
        rfl
      change ∃ s₁, socketCb (qdeviceNetSocketRead env true recv) s = some (_, s₁)
      unfold socketCb
      rw [bind_eq, hsocket]
      dsimp only
      split
      · next hno =>
        rw [hno]
        exact ⟨_, rfl⟩
      · exact ⟨_, rfl⟩
    · cases hmsg
  obtain ⟨s₁, hrun⟩ := hrun
  refine ⟨_, netStep_eq henabled hrun, ?_⟩
  dsimp only [NetEvent.next]
  rw [hloop]
  by_cases heq : seqNumber = s.net.echoRequestExpectedMsgSeqNum
  · rw [if_pos heq, if_pos (decide_eq_true heq)]
  · rw [if_neg heq, if_neg (by simpa using heq)]
    rfl

/-- If two instances look the same after an echo reply, then both have expected it or none has. -/
theorem Sim.echoReplyAlike (h : Sim s t) {event : NetEnv × NetEvent}
    (hbefore : BeforeInitReply s event) (henabled : event.2.enabled s)
    (hlook : (netStep s event).map QdeviceInstance.look =
      (netStep t event).map QdeviceInstance.look) : EchoReplyAlike s event := by
  obtain ⟨hconnects, htimer⟩ := (Bool.and_eq_true _ _).mp hbefore
  have hnoReply : s.net.echoRequestTimer = false := by simpa using htimer
  obtain ⟨env, event⟩ := event
  cases event with
  | socketRead alloc recv =>
    intro msg hmsg htype seqNumber hseq
    obtain rfl : alloc = true := hconnects
    obtain ⟨hpolling, _, hrecv⟩ : s.loop = .polling ∧ s.net.socket.isSome ∧
        recvPossible s.net.reader recv := by
      simpa only [NetEvent.enabled, decide_eq_true_eq] using henabled
    have halike := h.polling hpolling hnoReply
    have henabled' : (NetEvent.socketRead true recv).enabled t :=
      (enabled_eq halike (by rfl)).symm.trans henabled
    obtain ⟨s', hs', hloop⟩ := netStep_echoReply hpolling henabled hmsg htype hseq
    obtain ⟨t', ht', hloop'⟩ := netStep_echoReply (h.loop_eq.symm.trans hpolling) henabled'
      ((receivedMsg_eq halike hrecv).symm.trans hmsg) htype hseq
    rw [show t.net.echoRequestExpectedMsgSeqNum = 1 from halike.reading.expected] at hloop'
    rw [hs', ht'] at hlook
    have hloops : s'.loop = t'.loop := congrArg Prod.fst (Option.some.inj hlook)
    rw [hloop, hloop'] at hloops
    by_cases hexpected : seqNumber = s.net.echoRequestExpectedMsgSeqNum
    · refine iff_of_true hexpected (not_not.mp fun hno => ?_)
      rw [if_pos hexpected, if_neg hno] at hloops
      cases hloops
    · refine iff_of_false hexpected fun hone => ?_
      rw [if_neg hexpected, if_pos hone] at hloops
      cases hloops
  | prePollLoop | checkScheduleDisconnect | socketWrite _ | socketErr | nonBlockingClient _
  | connectTimeout => trivial
  | postPollLoop | echoRequestTimer | castVoteTimer | heuristicsTimer | heuristicsRead _
  | heuristicsWrite _ | quorumNotify _ _ | nodeListNotify _ _ | expectedVotesNotify
  | cmapReload _ _ | closed _ => cases hconnects

/-- Whole runs look the same exactly if no echo reply tells the instances apart. -/
theorem Sim.exec_iff {start : QdeviceStart} {events : List (NetEnv × NetEvent)} (h : Sim s t) :
    (∀ n, ((netMachine start).execWhile BeforeInitReply s (events.take n)).map QdeviceInstance.look =
      ((netMachine start).execWhile BeforeInitReply t (events.take n)).map QdeviceInstance.look) ↔
        EchoRepliesAlike s events := by
  induction events generalizing s t with
  | nil =>
    refine ⟨fun _ => trivial, fun _ n => ?_⟩
    rw [List.take_nil]
    exact congrArg some h.look
  | cons event events ih =>
    have hexec {s : QdeviceInstance} (hbefore : BeforeInitReply s event) (n : Nat) :
        (netMachine start).execWhile BeforeInitReply s ((event :: events).take (n + 1)) =
          (netStep s event).bind fun s' =>
            (netMachine start).execWhile BeforeInitReply s' (events.take n) :=
      Runs.Machine.execWhile_cons hbefore _
    constructor
    · intro hlike hbefore henabled
      have hbefore' : BeforeInitReply t event := (h.beforeInitReply_eq event).symm.trans hbefore
      have hlook (n : Nat) := hlike (n + 1)
      simp only [hexec hbefore, hexec hbefore'] at hlook
      have hecho : EchoReplyAlike s event := by
        refine h.echoReplyAlike hbefore henabled ?_
        simpa only [List.take_zero, Runs.Machine.execWhile, Option.bind_fun_some] using hlook 0
      refine ⟨hecho, fun s' hs => ?_⟩
      obtain ⟨hnone, _⟩ | ⟨s₁, t', hs₁, ht, h'⟩ := h.step hbefore fun _ => hecho
      · rw [hnone] at hs
        cases hs
      · obtain rfl : s₁ = s' := Option.some.inj (hs₁.symm.trans hs)
        rw [hs₁, ht] at hlook
        exact (ih h').mp hlook
    · intro hecho n
      cases n with
      | zero => exact congrArg some h.look
      | succ n =>
        by_cases hbefore : BeforeInitReply s event
        · have hbefore' : BeforeInitReply t event := (h.beforeInitReply_eq event).symm.trans hbefore
          rw [hexec hbefore, hexec hbefore']
          obtain ⟨hs, ht⟩ | ⟨s', t', hs, ht, h'⟩ :=
            h.step hbefore fun henabled => (hecho hbefore henabled).1
          · rw [hs, ht]
          · rw [hs, ht]
            have henabled : event.2.enabled s := by
              by_contra hno
              rw [netStep, if_neg hno] at hs
              cases hs
            exact (ih h').mpr ((hecho hbefore henabled).2 s' hs) n
        · -- The call is not about the connection, or there has been an init reply.
          have hno' : ¬ BeforeInitReply t event := fun ht => hbefore
            ((h.beforeInitReply_eq event).trans ht)
          rw [List.take_succ_cons, Runs.Machine.execWhile, Runs.Machine.execWhile, if_neg hbefore,
            if_neg hno']

end

/-! ### Sizes -/

/-- The part of the instance that the sizes of messages depend on. -/
def NetInstance.sizesPart (net : NetInstance) :=
  (net.advancedSettings, net.tlsSupported, net.decisionAlgorithm, net.heartbeatInterval,
    net.clusterName, net.tieBreaker, net.keepActivePartitionTieBreaker,
    net.sendBufferList.maxListEntries, net.sendBufferList.maxBufferSize,
    net.reader.receiveBuffer.maximumSize, net.announced)

/-- The largest sizes are those that were announced last, and without that the configured ones. -/
def SizesInv (config : NetConfig) (s : QdeviceInstance) : Prop :=
  s.net.sizesPart = (config.advancedSettings, config.tlsSupported, config.decisionAlgorithm,
    config.heartbeatInterval, config.clusterName, config.tieBreaker,
    config.keepActivePartitionTieBreaker, config.advancedSettings.netMaxSendBuffers,
    s.net.announced.elim config.advancedSettings.netInitialMsgSendSize fun sizes => sizes.1.toNat,
    s.net.announced.elim config.advancedSettings.netInitialMsgReceiveSize fun sizes => sizes.2.toNat,
    s.net.announced)

theorem SizesInv.of_part {config : NetConfig} {s s' : QdeviceInstance}
    (hpart : s'.net.sizesPart = s.net.sizesPart) (h : SizesInv config s) : SizesInv config s' := by
  have hannounced : s'.net.announced = s.net.announced := by
    simp only [NetInstance.sizesPart, Prod.mk.injEq] at hpart
    exact hpart.2.2.2.2.2.2.2.2.2.2
  rw [SizesInv, hpart, hannounced]
  exact h

theorem SizesInv.of_erased {config : NetConfig} {s s' : QdeviceInstance}
    {erase : QdeviceInstance → QdeviceInstance} (h : SizesInv config s)
    (heq : erase s' = erase s) (hpart : ∀ s, (erase s).net.sizesPart = s.net.sizesPart) :
    SizesInv config s' :=
  h.of_part ((hpart s').symm.trans
    ((congrArg (fun s : QdeviceInstance => s.net.sizesPart) heq).trans (hpart s)))

/-- Sending a message does not change the sizes. -/
theorem SizesInv.send {config : NetConfig} {s : QdeviceInstance} {msg : NetMsg}
    {count done : NetInstance → NetInstance} {create : NetInstance → Dynar → Nat × Dynar}
    (hcount : (count s.net).sizesPart = s.net.sizesPart)
    (hdone : (done (count s.net)).sizesPart = s.net.sizesPart) (h : SizesInv config s) :
    wp (qdeviceNetSend env msg count done create) (fun _ => SizesInv config) s := by
  have hset {net : NetInstance} {entries : List SendBufferListEntry} {sblist : SendBufferList}
      (hnet : net.sizesPart = s.net.sizesPart)
      (hgrown : SendBufferList.Grown s.net.sendBufferList entries sblist) :
      SizesInv config { s with net := { net with sendBufferList := sblist } } := by
    refine h.of_part (s := s) ?_
    simp only [NetInstance.sizesPart, Prod.mk.injEq] at hnet ⊢
    obtain ⟨h₁, h₂, h₃, h₄, h₅, h₆, h₇, _, _, h₈⟩ := hnet
    exact ⟨h₁, h₂, h₃, h₄, h₅, h₆, h₇, hgrown.maxListEntries, hgrown.maxBufferSize, h₈⟩
  exact wp_qdeviceNetSend (fun _ hgrown => hset rfl hgrown) (fun _ hgrown => hset hcount hgrown)
    fun _ _ _ _ _ hgrown => hset hdone hgrown

theorem sizesInv_stable (config : NetConfig) : MembershipStable env (SizesInv config) := by
  have hpart (s : QdeviceInstance) :
      s.ringless.outerless.quiet.net.sizesPart = s.net.sizesPart := by
    simp only [NetInstance.sizesPart, QdeviceInstance.quiet, QdeviceInstance.outerless,
      QdeviceInstance.ringless, QdeviceInstance.core, QdeviceInstance.voteless]
  refine membershipStable_of_quiet fun {s s'} hquiet hs => ?_
  exact hs.of_erased hquiet hpart

section

variable {config : NetConfig} {s : QdeviceInstance}

theorem SizesInv.ends {goOn : Bool} (h : SizesInv config s) :
    Ends (SizesInv config) (SizesInv config) goOn s :=
  ⟨h, fun _ => h⟩

theorem SizesInv.sendInit (h : SizesInv config s) :
    wp (qdeviceNetSendInit env) (fun _ => SizesInv config) s := by
  refine (wp_bind _).mpr ((wp_modify _).mpr ((wp_bind _).mpr (wp_get.mpr ?_)))
  exact SizesInv.send rfl rfl (h.of_part (s := s) rfl)

theorem SizesInv.writeFinished (hstate : s.net.state = .waitingStarttlsBeingSent)
    (h : SizesInv config s) :
    wp (qdeviceNetSocketWriteFinished env) (Ends (SizesInv config) (SizesInv config)) s := by
  have hstarted : SizesInv config { s with net := { s.net with sslStarted := true } } :=
    h.of_part (s := s) rfl
  refine wp_writeFinished (fun {s} _ hs => hs.of_part (s := s) rfl) hstate h ?_
  exact hstarted.sendInit.mono fun ok s₁ hs₁ =>
    ⟨hs₁, fun _ => SizesInv.ends (hs₁.of_part (s := s₁) rfl)⟩

end

/-- Only an init reply changes the sizes. -/
theorem sizesInv_connectionStable (config : NetConfig) :
    ConnectionStable env (SizesInv config) (SizesInv config) where
  toNotificationStable := (sizesInv_stable config).toNotificationStable
  base h := h
  linkless := by
    intro s s' hlink hs
    exact hs.of_erased hlink fun _ => rfl
  linklessBase := by
    intro s s' hlink hs
    exact hs.of_erased hlink fun _ => rfl
  connectNotifier active :=
    preserves_setNotifierActive fun {s items} _ hs => hs.of_part (s := s) rfl
  votequorumCallback := (sizesInv_stable config).votequorumCallback
  nodeListNotify := (sizesInv_stable config).nodeListNotify
  connectSendLists heuristics := by
    intro s _ hs
    refine wp_connectSendLists (fun s' hsame => ?_) fun s₁ s' hsame hvoteless _ _ _ => ?_
    · have hs' : SizesInv config s' := hs.of_erased hsame fun _ => rfl
      exact hs'.of_part (s := s') rfl
    · have hs₁ : SizesInv config s₁ := hs.of_erased hsame fun _ => rfl
      have hs' : SizesInv config s' := hs₁.of_erased hvoteless fun _ => rfl
      exact hs'.of_part (s := s') rfl
  client := by
    intro s _ hs
    have hs₁ : SizesInv config { s with net := { s.net with
        socket := some .plain, state := .sendingPreinitReply } } := hs.of_part (s := s) rfl
    exact ⟨hs₁, (hs₁.send rfl rfl).mono fun _ _ hs' => hs'.ends⟩
  starttls := by
    intro s _ hs
    have hs₁ : SizesInv config { s with net := { s.net with negotiated := true } } :=
      hs.of_part (s := s) rfl
    exact (hs₁.send rfl rfl).mono fun _ _ hs' => hs'.ends
  init _ _ hs := hs.sendInit.mono fun _ _ hs' => hs'.ends
  writeFinished hstate hs := hs.writeFinished hstate
  setMaxSizes requestSize replySize s _ hs := by
    simp only [SizesInv, NetInstance.sizesPart, Prod.mk.injEq] at hs ⊢
    obtain ⟨h₁, h₂, h₃, h₄, h₅, h₆, h₇, h₈, _⟩ := hs
    exact ⟨h₁, h₂, h₃, h₄, h₅, h₆, h₇, h₈, rfl, rfl, trivial⟩
  echoTimer isSet s _ hs := hs.of_part (s := s) rfl
  echoRequest _ hs := hs.send rfl rfl
  messageVote vote s _ hs := by
    refine preserves_castVoteTimerUpdate ?_ ?_ vote _ s hs
    · intro s s' hvoteless hs
      exact hs.of_erased hvoteless fun _ => rfl
    · exact preserves_modifyNet fun s hs => hs.of_part (s := s) rfl
  voteInfoReply msgSeqNumber _ _ hs := hs.send rfl rfl
  record := by
    intro s entry _ hs
    exact hs.of_part (s := s) rfl
  written := by
    intro s entry bytes _ hs
    exact ⟨hs.of_part (s := s) rfl, hs.of_part (s := s) rfl⟩
  noSocket := by
    intro s _ hs
    exact hs.of_part (s := s) rfl

/-- The net instance has been cleaned, and no timer of the last connection is left. -/
def Restarted (s : QdeviceInstance) : Prop :=
  ∃ net, s.net = qdeviceNetInstanceClean net ∧ net.socket = none ∧ net.connectTimer = false ∧
    net.echoRequestTimer = false

/-- After the loop. -/
theorem SizesInv.postPollLoop {config : NetConfig} {s : QdeviceInstance} (h : SizesInv config s) :
    wp (qdeviceModelNetPostPollLoop env) (fun _ s' => SizesInv config s' ∧ Restarted s') s := by
  have hupdate (vote : TlvVote) : Preserves (fun s => SizesInv config s ∧
      s.net.connectTimer = false ∧ s.net.echoRequestTimer = false)
      (qdeviceNetCastVoteTimerUpdate env vote none) := by
    refine preserves_castVoteTimerUpdate ?_ ?_ vote none
    · intro s s' hvoteless hs
      have htimers : (s'.voteless.net.connectTimer, s'.voteless.net.echoRequestTimer) =
          (s.voteless.net.connectTimer, s.voteless.net.echoRequestTimer) := by rw [hvoteless]
      obtain ⟨hconnect, hecho⟩ := Prod.mk.inj htimers
      exact ⟨hs.1.of_erased hvoteless fun _ => rfl, hconnect.trans hs.2.1, hecho.trans hs.2.2⟩
    · exact preserves_modifyNet fun s hs => ⟨hs.1.of_part (s := s) rfl, hs.2⟩
  exact wp_postPollLoop (fun _ => hupdate _ _ ⟨h.of_part (s := s) rfl, rfl, rfl⟩)
    fun goOn s₁ hs₁ => ⟨hs₁.1.of_part (s := s₁) rfl, _, rfl, rfl, hs₁.2⟩

/-- What holds before a loop is begun again. -/
theorem restarting_restarted {start : QdeviceStart} {s : QdeviceInstance}
    (hs : (netMachine start).Reach (fun _ _ => True) s) (hloop : s.loop = .restarting) :
    SizesInv start.net s ∧ Restarted s := by
  have hinv {s : QdeviceInstance} (hs : (netMachine start).Reach (fun _ _ => True) s) :
      SizesInv start.net s := by
    refine (ConnectionStable.reach (fun _ => sizesInv_connectionStable start.net) rfl
      (fun hbase _ _ => hbase.postPollLoop.mono fun _ s' hs' => ⟨hs'.1, ?_⟩) hs).base
    obtain ⟨net, hnet, _⟩ := hs'.2
    rw [hnet]
    rfl
  cases hs with
  | init => cases hloop
  | @step s₀ s event hs₀ _ hstep =>
    obtain ⟨env, event⟩ := event
    obtain ⟨goOn, s₁, loop, _, hrun, hphase, rfl⟩ := netStep_some hstep
    -- Only `qdevice_model_net_post_poll_loop` asks for a restart.
    generalize s₀.loop = old at hphase
    cases hphase with
    | starting _ _ | polling _ _ | first _ | again _ => cases goOn <;> cases hloop
    | post hpost =>
      subst hpost
      obtain ⟨hsizes, net, hnet, hrest⟩ := (hinv hs₀).postPollLoop goOn s₁ hrun
      exact ⟨hsizes.of_part (s := s₁) rfl, net, hnet, hrest⟩

/-! ### Like a fresh instance -/

/-- The instance with a net instance after `qdevice_net_instance_init`, but for the number of the
    last message. -/
def QdeviceInstance.fresh (config : NetConfig) (inst : QdeviceInstance) : QdeviceInstance :=
  { inst with net := { qdeviceNetInstanceInit config with lastMsgSeqNum := inst.net.lastMsgSeqNum } }

/-- Until there is an init reply, the next connection is like that of a fresh instance, after each
    of the calls. -/
def LikeFresh (start : QdeviceStart) (s : QdeviceInstance) (events : List (NetEnv × NetEvent)) :
    Prop :=
  ∀ n, ((netMachine start).execWhile BeforeInitReply s (events.take n)).map QdeviceInstance.look =
    ((netMachine start).execWhile BeforeInitReply (s.fresh start.net) (events.take n)).map
      QdeviceInstance.look

/-- The init reply that was accepted last has announced the sizes that are configured as initial
    ones. -/
def InitialSizes (settings : AdvancedSettings) (s : QdeviceInstance) : Prop :=
  ∀ sizes ∈ s.net.announced, sizes.1.toNat = settings.netInitialMsgSendSize ∧
    sizes.2.toNat = settings.netInitialMsgReceiveSize

section

variable {config : NetConfig} {s : QdeviceInstance}

theorem SizesInv.maxBufferSize (h : SizesInv config s) : s.net.sendBufferList.maxBufferSize =
    s.net.announced.elim config.advancedSettings.netInitialMsgSendSize fun sizes => sizes.1.toNat := by
  simp only [SizesInv, NetInstance.sizesPart, Prod.mk.injEq] at h
  exact h.2.2.2.2.2.2.2.2.1

theorem SizesInv.maximumSize (h : SizesInv config s) :
    s.net.reader.receiveBuffer.maximumSize =
      s.net.announced.elim config.advancedSettings.netInitialMsgReceiveSize
        fun sizes => sizes.2.toNat := by
  simp only [SizesInv, NetInstance.sizesPart, Prod.mk.injEq] at h
  exact h.2.2.2.2.2.2.2.2.2.1

/-- The limits are the initial ones exactly if those were announced. -/
theorem SizesInv.initialSizes_iff (h : SizesInv config s) : InitialSizes config.advancedSettings s ↔
    s.net.sendBufferList.maxBufferSize = config.advancedSettings.netInitialMsgSendSize ∧
      s.net.reader.receiveBuffer.maximumSize =
        config.advancedSettings.netInitialMsgReceiveSize := by
  rw [h.maxBufferSize, h.maximumSize, InitialSizes]
  cases s.net.announced with
  | none => exact ⟨fun _ => ⟨rfl, rfl⟩, fun _ sizes hsizes => by cases hsizes⟩
  | some sizes =>
    refine ⟨fun hsizes => hsizes sizes rfl, fun hsizes sizes' hsizes' => ?_⟩
    cases hsizes'
    exact hsizes

/-- Apart from the sizes, and from the echo reply that is expected, an instance that begins again is
    like a fresh one. -/
theorem Restarted.sim (h : Restarted s) (hsizes : SizesInv config s)
    (hinitial : InitialSizes config.advancedSettings s) (hloop : s.loop = .restarting) :
    Sim s (s.fresh config) := by
  obtain ⟨hsend, hreceive⟩ := hsizes.initialSizes_iff.mp hinitial
  obtain ⟨net, hnet, hsocket, hconnect, htimer⟩ := h
  simp only [SizesInv, NetInstance.sizesPart, Prod.mk.injEq] at hsizes
  obtain ⟨hsettings, htls, halgorithm, hinterval, hname, htieBreaker, hkeep, hentries, _⟩ := hsizes
  have hlist : s.net.sendBufferList = {
      maxListEntries := config.advancedSettings.netMaxSendBuffers
      maxBufferSize := config.advancedSettings.netInitialMsgSendSize } := by
    rw [← hentries, ← hsend, hnet]
    rfl
  have hclean : s.net.socket = none ∧ s.net.state = .waitingConnect ∧ s.net.usingTls = false ∧
      s.net.scheduleDisconnect = false ∧ s.net.disconnectReason = .undefined ∧
      s.net.connectTimer = false ∧ s.net.negotiated = false ∧ s.net.sslStarted = false ∧
      s.net.echoRequestTimer = false := by
    rw [hnet]
    exact ⟨hsocket, rfl, rfl, rfl, rfl, hconnect, rfl, rfl, htimer⟩
  obtain ⟨hsocket', hstate, htls', hschedule, hreason, hconnect', hnegotiated, hssl, hnoReply⟩ := hclean
  have hlink : s.destroyed.link = (s.fresh config).destroyed.link := by
    simp only [QdeviceInstance.link, QdeviceInstance.destroyed, QdeviceInstance.fresh,
      qdeviceNetInstanceInit, hsettings, htls, halgorithm, hinterval, hname, htieBreaker, hkeep, hlist,
      hsocket', hstate, htls', hschedule, hreason, hconnect', hnegotiated, hssl]
  have hfollows : s.net.reader.Follows [] := by
    rw [hnet]
    exact .reset net.reader
  have halike : Alike Reading.Follows s.destroyed (s.fresh config).destroyed := by
    refine ⟨hlink, ⟨⟨⟨hreceive, hnoReply⟩, ?_, hnoReply, rfl⟩, [], hfollows,
      .reset (qdeviceNetInstanceInit config).reader⟩, fun hno => ?_⟩
    · exact Nat.le_trans (by decide) (config.advancedSettings.initialReceive.trans_eq hreceive.symm)
    · cases hstate.symm.trans hno
  have hlook : s.destroyed.look = (s.fresh config).destroyed.look :=
    (halike.mono fun _ _ hreading => hreading.toSame).look
  refine ⟨hlook, fun _ => halike, fun hpolling => ?_⟩
  cases hloop.symm.trans hpolling

end

instance (settings : AdvancedSettings) (s : QdeviceInstance) :
    Decidable (InitialSizes settings s) :=
  Option.decidableForallMem _

/-- A connection on which qnetd announces the given sizes, up to its end. -/
def exampleConnection (requestSize replySize : Nat) : List NetEvent :=
  exampleConnect ++ initReplyArrives 2 requestSize replySize ++
    [.socketRead true .closed, .postPollLoop]

/-- The next connection, up to the reading of a header. -/
def exampleReconnect : List NetEvent :=
  [.prePollLoop, .nonBlockingClient .connected, .socketWrite (.sent 20)] ++
    (preinitReplyArrives 2 .unsupported).take 1

end Qdevice.Net
