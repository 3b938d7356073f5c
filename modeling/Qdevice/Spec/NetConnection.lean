import Qdevice.Spec.NetStable

/-! # What a connection can change

The calls of the main loop that concern the connection to qnetd: connecting, messages that arrive or
are written, and the timers.  `ConnectionStable` lists what they are made of; an invariant that each
of these keeps is kept by every call, and `ConnectionStable.reach` by every run.  While a call may
end the loop, only a part of the invariant has to be kept. -/

open Prog

namespace Qdevice.Net

variable {env : NetEnv} {I J : QdeviceInstance → Prop}

/-- What a call ends with: `J`, and `I` if the loop goes on. -/
def Ends (I J : QdeviceInstance → Prop) (goOn : Bool) (s : QdeviceInstance) : Prop :=
  J s ∧ (goOn = true → I s)

/-- What the calls write that no invariant is about is left out. -/
def QdeviceInstance.linkless (inst : QdeviceInstance) : QdeviceInstance :=
  { inst with
    net := { inst.net with
      reader := { receiveBuffer := { maximumSize := inst.net.reader.receiveBuffer.maximumSize } }
      lastMsgSeqNum := 0
      echoRequestExpectedMsgSeqNum := 0
      echoReplyReceivedMsgSeqNum := 0
      usingTls := false
      scheduleDisconnect := false
      disconnectReason := .undefined
      nonBlockingClientDestroyed := false
      connectTimer := false
      serverSupportsHeuristics := false
      serverSupportsKeepActivePartitionTieBreaker := false }
    heuristicsInstance := heuristicsInit 0 0
    loop := .starting }

/-- The init reply has been asked for, and so INIT has been sent. -/
def NetInstance.initSent (net : NetInstance) : Prop :=
  net.state = .waitingInitReply ∨ net.state = .waitingVotequorumCmapEvents

/-- A state in which INIT has not been sent. -/
theorem not_initSent {state : NetState} {net : NetInstance} (hstate : net.state = state)
    (hinit : state ≠ .waitingInitReply) (hconnected : state ≠ .waitingVotequorumCmapEvents) :
    ¬ net.initSent := by
  rintro (h | h)
  · exact hinit (hstate.symm.trans h)
  · exact hconnected (hstate.symm.trans h)

/-- What the calls of the main loop do keeps `I`, or it keeps `J` and ends the loop. -/
structure ConnectionStable (env : NetEnv) (I J : QdeviceInstance → Prop) : Prop extends
    NotificationStable env I where
  base {s : QdeviceInstance} : I s → J s
  linkless {s s' : QdeviceInstance} : s'.linkless = s.linkless → I s → I s'
  linklessBase {s s' : QdeviceInstance} : s'.linkless = s.linkless → J s → J s'
  connectNotifier (active : Bool) : Preserves I (setNotifierActive .connect active)
  votequorumCallback (execResult : HeuristicsExecResult) :
    Preserves I (qdeviceVotequorumHeuristicsExecResultCallback env execResult)
  nodeListNotify (ringId : TlvRingId) (nodeList : List UInt32) :
    Preserves I (qdeviceVotequorumNodeListNotifyCallback env ringId nodeList)
  connectSendLists (heuristics : TlvHeuristics) {s : QdeviceInstance} :
    s.net.state = .waitingInitReply → I s →
      wp (do
        let sent ← connectSendLists env heuristics
        if sent = false then return ← recordReason .cantAllocateMsgBuffer
        let ok ← qdeviceNetCastVoteTimerUpdate env .waitForReply none
        if ok = false then recordReason .cantScheduleVotingTimer
        modifyNet fun net => { net with
          state := .waitingVotequorumCmapEvents
          latestConnectHeuristicsResult := heuristics
          latestHeuristicsResult := heuristics }) (fun _ => I) s
  /-- The socket is there, and PREINIT is sent. -/
  client {s : QdeviceInstance} : s.net.state = .waitingConnect → I s →
    J { s with net := { s.net with socket := some .plain, state := .sendingPreinitReply } } ∧
    wp (qdeviceNetSendPreinit env) (Ends I J)
      { s with net := { s.net with socket := some .plain, state := .sendingPreinitReply } }
  starttls {s : QdeviceInstance} : s.net.state = .waitingPreinitReply → I s →
    wp (qdeviceNetSendStarttls env) (Ends I J) { s with net := { s.net with negotiated := true } }
  init {s : QdeviceInstance} : s.net.state = .waitingPreinitReply → s.net.tlsSupported ≠ .required →
    I s → wp (qdeviceNetSendInit env) (Ends I J) s
  /-- The message has been written whose end is awaited before TLS starts. -/
  writeFinished {s : QdeviceInstance} : s.net.state = .waitingStarttlsBeingSent → I s →
    wp (qdeviceNetSocketWriteFinished env) (Ends I J) s
  setMaxSizes (requestSize replySize : UInt32) {s : QdeviceInstance} :
    s.net.state = .waitingInitReply → I s →
      I { s with net := s.net.setMaxSizes requestSize replySize }
  echoTimer (isSet : Bool) {s : QdeviceInstance} : (isSet = true → s.net.initSent) → I s →
    I { s with net := { s.net with echoRequestTimer := isSet } }
  echoRequest {s : QdeviceInstance} : s.net.echoRequestTimer = true → I s →
    wp (qdeviceNetSendEchoRequest env) (fun _ => I) s
  /-- A message of the server has a vote, for the ring that was sent to it. -/
  messageVote (vote : TlvVote) {s : QdeviceInstance} : s.net.connected → I s →
    wp (qdeviceNetCastVoteTimerUpdate env vote (some s.net.lastSentRingId)) (fun _ => I) s
  voteInfoReply (msgSeqNumber : UInt32) {s : QdeviceInstance} : s.net.connected → I s →
    wp (qdeviceNetSendVoteInfoReply env msgSeqNumber) (fun _ => I) s
  record {s : QdeviceInstance} {entry : SendBufferListEntry} :
    sendBufferListGetActive s.net.sendBufferList = some entry → I s →
      I { s with net := s.net.recordWrite entry.buffer }
  /-- A part of the active entry has been written, or all of it. -/
  written {s : QdeviceInstance} {entry : SendBufferListEntry} (bytes : Nat) :
    sendBufferListGetActive s.net.sendBufferList = some entry → I s →
      I { s with net := { s.net with sendBufferList := { s.net.sendBufferList with
        list := { entry with msgAlreadySentBytes := bytes } ::
          s.net.sendBufferList.list.tail } } } ∧
      I { s with net := { s.net with
        sendBufferList := sendBufferListDeleteActive s.net.sendBufferList } }
  noSocket {s : QdeviceInstance} : s.net.state = .waitingConnect → I s →
    I { s with net := { s.net with socket := none } }

/-- What reading and connecting write is left out.  A disconnect is not. -/
def QdeviceInstance.wireless (inst : QdeviceInstance) : QdeviceInstance :=
  { inst with
    net := { inst.net with
      reader := { receiveBuffer := { maximumSize := inst.net.reader.receiveBuffer.maximumSize } }
      echoRequestExpectedMsgSeqNum := 0
      echoReplyReceivedMsgSeqNum := 0
      nonBlockingClientDestroyed := false
      serverSupportsHeuristics := false
      serverSupportsKeepActivePartitionTieBreaker := false }
    loop := .starting }

/-- What the calls in the main loop do keeps `I`, or it keeps `J` and ends the loop; except for the
    results of the heuristics. -/
structure LinkStable (env : NetEnv) (I J : QdeviceInstance → Prop) : Prop extends
    NotificationStable env I where
  base {s : QdeviceInstance} : I s → J s
  wireless {s s' : QdeviceInstance} : s'.wireless = s.wireless → I s → I s'
  linklessBase {s s' : QdeviceInstance} : s'.linkless = s.linkless → J s → J s'
  nodeListNotify (ringId : TlvRingId) (nodeList : List UInt32) :
    Preserves I (qdeviceVotequorumNodeListNotifyCallback env ringId nodeList)
  client {s : QdeviceInstance} : s.net.state = .waitingConnect → I s →
    J { s with net := { s.net with socket := some .plain, state := .sendingPreinitReply } } ∧
    wp (qdeviceNetSendPreinit env) (Ends I J)
      { s with net := { s.net with socket := some .plain, state := .sendingPreinitReply } }
  starttls {s : QdeviceInstance} : s.net.state = .waitingPreinitReply → I s →
    wp (qdeviceNetSendStarttls env) (Ends I J) { s with net := { s.net with negotiated := true } }
  init {s : QdeviceInstance} : s.net.state = .waitingPreinitReply → s.net.tlsSupported ≠ .required →
    I s → wp (qdeviceNetSendInit env) (Ends I J) s
  writeFinished {s : QdeviceInstance} : s.net.state = .waitingStarttlsBeingSent → I s →
    wp (qdeviceNetSocketWriteFinished env) (Ends I J) s
  setMaxSizes (requestSize replySize : UInt32) {s : QdeviceInstance} :
    s.net.state = .waitingInitReply → I s →
      I { s with net := s.net.setMaxSizes requestSize replySize }
  initReplyAccepted {s : QdeviceInstance} : s.net.state = .waitingInitReply → I s →
    wp (initReplyAccepted env) (Ends I J) s
  echoTimer (isSet : Bool) {s : QdeviceInstance} : (isSet = true → s.net.initSent) → I s →
    I { s with net := { s.net with echoRequestTimer := isSet } }
  echoRequest {s : QdeviceInstance} : s.net.echoRequestTimer = true → I s →
    wp (qdeviceNetSendEchoRequest env) (fun _ => I) s
  messageVote (vote : TlvVote) {s : QdeviceInstance} : s.net.connected → I s →
    wp (qdeviceNetCastVoteTimerUpdate env vote (some s.net.lastSentRingId)) (fun _ => I) s
  voteInfoReply (msgSeqNumber : UInt32) {s : QdeviceInstance} : s.net.connected → I s →
    wp (qdeviceNetSendVoteInfoReply env msgSeqNumber) (fun _ => I) s
  record {s : QdeviceInstance} {entry : SendBufferListEntry} :
    sendBufferListGetActive s.net.sendBufferList = some entry → I s →
      I { s with net := s.net.recordWrite entry.buffer }
  written {s : QdeviceInstance} {entry : SendBufferListEntry} (bytes : Nat) :
    sendBufferListGetActive s.net.sendBufferList = some entry → I s →
      I { s with net := { s.net with sendBufferList := { s.net.sendBufferList with
        list := { entry with msgAlreadySentBytes := bytes } ::
          s.net.sendBufferList.list.tail } } } ∧
      I { s with net := { s.net with
        sendBufferList := sendBufferListDeleteActive s.net.sendBufferList } }
  connectTimeout : Preserves I qdeviceModelNetTimerConnectTimeout

/-- Reading does not change how large a message may be. -/
theorem msgioRead_maximumSize (alloc : Bool) (recv : Recv) (reader : MsgReader) :
    (msgioRead alloc recv reader).1.receiveBuffer.maximumSize =
      reader.receiveBuffer.maximumSize := by
  have hstore (bytes : List UInt8) :
      (msgioStore alloc bytes reader).1.receiveBuffer.maximumSize =
        reader.receiveBuffer.maximumSize := by
    unfold msgioStore
    dsimp only
    split
    · rfl
    · split
      · rfl
      · next msg hcat =>
        unfold ReceiveBuffer.cat at hcat
        split at hcat
        · cases hcat
        · cases hcat
          rfl
  have hcheck (reader : MsgReader) (ret : MsgioResult) :
      (msgioCheckHeader reader ret).1.receiveBuffer.maximumSize =
        reader.receiveBuffer.maximumSize := by
    unfold msgioCheckHeader
    split
    · split
      · rfl
      · split
        · rfl
        · rfl
    · rfl
  cases recv with
  | closed | wouldBlock | error => rfl
  | data bytes =>
    unfold msgioRead
    dsimp only
    split
    · exact hstore bytes
    · split
      · exact (hcheck _ _).trans (hstore bytes)
      · exact (hcheck _ _).trans (hstore bytes)

theorem ends_false {s : QdeviceInstance} (hs : J s) : Ends I J false s :=
  ⟨hs, fun hgo => by cases hgo⟩

/-- A timer that cannot be had is an error. -/
theorem wp_echoRequestTimerSchedule {Q : Bool → QdeviceInstance → Prop} {s : QdeviceInstance}
    (hdone : Q true { s with net := { s.net with
      echoRequestExpectedMsgSeqNum := 0
      echoReplyReceivedMsgSeqNum := 0
      echoRequestTimer := env.timerListAdd .echoRequest } })
    (hfail : Q false { s with net := { s.net with
      echoRequestExpectedMsgSeqNum := 0
      echoReplyReceivedMsgSeqNum := 0
      echoRequestTimer := env.timerListAdd .echoRequest
      disconnectReason := .cantScheduleHbTimer } }) :
    wp (qdeviceNetEchoRequestTimerSchedule env) Q s := by
  refine (wp_bind _).mpr ((wp_modify _).mpr ((wp_ite _).mpr ⟨fun _ => ?_, fun _ => ?_⟩))
  · exact wp_failWith hfail
  · exact (wp_pure _).mpr hdone

/-- STARTTLS has been written: TLS is started, and INIT is sent. -/
theorem wp_writeFinished (hreason : ∀ {s : QdeviceInstance} (reason : DisconnectReason), J s →
      J { s with net := { s.net with disconnectReason := reason } }) {s : QdeviceInstance}
    (hstate : s.net.state = .waitingStarttlsBeingSent) (hs : J s)
    (hinit : wp (qdeviceNetSendInit env) (fun ok s' => J s' ∧ (ok = true →
        Ends I J true { s' with net := { s'.net with socket := some .tls, usingTls := true } }))
      { s with net := { s.net with sslStarted := true } }) :
    wp (qdeviceNetSocketWriteFinished env) (Ends I J) s := by
  refine (wp_bind _).mpr (wp_get.mpr ((wp_ite _).mpr ⟨fun hno => absurd hstate hno, fun _ => ?_⟩))
  refine (wp_ite _).mpr ⟨fun _ => wp_failWith_return (ends_false (hreason _ hs)), fun _ => ?_⟩
  refine (wp_bind _).mpr ((wp_modify _).mpr ((wp_bind _).mpr ?_))
  refine hinit.mono fun ok s₁ hs₁ => (wp_ite _).mpr ⟨fun _ => ?_, fun hok => ?_⟩
  · exact wp_failWith_return (ends_false (hreason _ hs₁.1))
  · exact (wp_bind _).mpr ((wp_modify _).mpr ((wp_pure _).mpr
      (hs₁.2 (Bool.eq_true_of_not_eq_false hok))))

/-- After the loop: the algorithm may change the vote, and then the net instance is cleaned. -/
theorem wp_postPollLoop {P : QdeviceInstance → Prop} {Q : Bool → QdeviceInstance → Prop}
    {s : QdeviceInstance}
    (hupdate : ∀ tryReconnect, wp (qdeviceNetCastVoteTimerUpdate env
        (qdeviceNetAlgorithmDisconnected s.net tryReconnect).2 none) (fun _ => P)
      { s with net := { s.net with
        connectTimer := false
        echoRequestTimer := false
        disconnectReason := s.exitReason.disconnectReason s.net.disconnectReason
        castVoteTimerPaused := false } })
    (hdone : ∀ goOn s₁, P s₁ → Q goOn { s₁ with
      net := qdeviceNetInstanceClean { s₁.net with
        socket := none, nonBlockingClientDestroyed := true } }) :
    wp (qdeviceModelNetPostPollLoop env) Q s := by
  unfold qdeviceModelNetPostPollLoop postPollLoopReason qdeviceNetCastVoteTimerSetPaused
  refine (wp_bind _).mpr ((wp_bind _).mpr (wp_get.mpr ((wp_bind _).mpr ((wp_modify _).mpr
    ((wp_modify _).mpr ((wp_bind _).mpr (wp_get.mpr ?_)))))))
  refine (wp_bind _).mpr ((hupdate _).mono fun _ s₁ hs₁ => ?_)
  exact (wp_bind _).mpr (wp_get.mpr ((wp_bind _).mpr ((wp_modify _).mpr ((wp_pure _).mpr
    (hdone _ s₁ hs₁)))))

namespace LinkStable

section

variable (h : LinkStable env I J)
include h

theorem ends {s : QdeviceInstance} {goOn : Bool} (hs : I s) : Ends I J goOn s :=
  ⟨h.base hs, fun _ => hs⟩

/-- A reason is recorded by a function that ends the loop. -/
theorem failWith {s : QdeviceInstance} (hs : J s) (reason : DisconnectReason) :
    wp (failWith reason) (Ends I J) s :=
  wp_failWith (ends_false (h.linklessBase (s := s) rfl hs))

theorem failWith_return {s : QdeviceInstance} (hs : J s) (reason : DisconnectReason) :
    wp (Net.failWith reason >>= fun ok => pure ok) (Ends I J) s :=
  wp_failWith_return (ends_false (h.linklessBase (s := s) rfl hs))

/-- A function is called whose failure ends the loop. -/
theorem orFail {m : NetM Bool} {s : QdeviceInstance} {reason : DisconnectReason}
    (hm : wp m (Ends I J) s) :
    wp (m >>= fun ok => if ok = false then Net.failWith reason >>= fun ok => pure ok else pure true)
      (Ends I J) s := by
  refine (wp_bind _).mpr (hm.mono fun ok s' hs' => (wp_ite _).mpr ⟨fun _ => ?_, fun hok => ?_⟩)
  · exact h.failWith_return hs'.1 _
  · exact (wp_pure _).mpr (h.ends (hs'.2 (Bool.eq_true_of_not_eq_false hok)))

theorem orFail_of_preserved {m : NetM Bool} {s : QdeviceInstance} {reason : DisconnectReason}
    (hm : wp m (fun _ => I) s) :
    wp (m >>= fun ok => if ok = false then Net.failWith reason >>= fun ok => pure ok else pure true)
      (Ends I J) s :=
  h.orFail (hm.mono fun _ _ hs' => h.ends hs')

/-! ### Messages from qnetd -/

theorem preinitReply {s : QdeviceInstance} (hs : I s) (msg : MsgDecoded) :
    wp (qdeviceNetMsgReceivedPreinitReply env msg) (Ends I J) s := by
  have hbase := h.base hs
  refine (wp_bind _).mpr (wp_get.mpr ((wp_ite _).mpr ⟨fun _ => h.failWith_return hbase _,
    fun hstate => ?_⟩))
  have hstate : s.net.state = .waitingPreinitReply := not_not.mp hstate
  refine (wp_ite _).mpr ⟨fun _ => h.failWith_return hbase _, fun _ => ?_⟩
  split
  · split
    · exact h.failWith hbase _
    · exact (wp_bind _).mpr ((wp_modify _).mpr (h.orFail (h.starttls hstate hs)))
    · next hcheck =>
      -- TLS is not required here, or there would have been an error.
      refine h.orFail (h.init hstate (fun hrequired => ?_) hs)
      rw [hrequired] at hcheck
      unfold qdeviceNetMsgReceivedCheckTlsCompatibility at hcheck
      split at hcheck <;> simp_all
  · exact h.failWith hbase _

theorem echoRequestTimerSchedule {s : QdeviceInstance} (hsent : s.net.initSent) (hs : I s) :
    wp (qdeviceNetEchoRequestTimerSchedule env) (Ends I J) s := by
  have hset := h.echoTimer (env.timerListAdd .echoRequest) (fun _ => hsent) hs
  refine wp_echoRequestTimerSchedule (h.ends (h.wireless ?_ hset)) (ends_false ?_)
  · rfl
  · exact h.linklessBase (by rfl) (h.base hset)

theorem initReply {s : QdeviceInstance} (hs : I s) (msg : MsgDecoded) :
    wp (qdeviceNetMsgReceivedInitReply env msg) (Ends I J) s := by
  have hbase := h.base hs
  refine (wp_bind _).mpr (wp_get.mpr ((wp_ite _).mpr ⟨fun _ => h.failWith_return hbase _,
    fun hstate => ?_⟩))
  have hstate : s.net.state = .waitingInitReply := not_not.mp hstate
  refine (wp_ite _).mpr ⟨fun _ => h.failWith_return hbase _, fun _ => ?_⟩
  split
  · exact h.failWith hbase _
  refine (wp_ite _).mpr ⟨fun _ => h.failWith_return hbase _, fun _ => ?_⟩
  split
  · exact h.failWith hbase _
  next options _ =>
  refine (wp_ite _).mpr ⟨fun _ => h.failWith_return hbase _, fun _ => ?_⟩
  refine (wp_ite _).mpr ⟨fun _ => h.failWith_return hbase _, fun _ => ?_⟩
  -- From here on the sizes are those that qnetd has announced.
  unfold initReplySizes
  refine (wp_bind _).mpr ((wp_modify _).mpr ((wp_bind _).mpr (wp_get.mpr ?_)))
  have hsizes (requestSize replySize : UInt32) := h.setMaxSizes requestSize replySize hstate hs
  refine (wp_ite _).mpr ⟨fun _ => h.failWith_return (h.base (hsizes _ _)) _, fun _ => ?_⟩
  refine (wp_bind _).mpr ((wp_modify _).mpr ((wp_ite _).mpr ⟨fun _ => ?_, fun _ => ?_⟩))
  · exact h.failWith (h.base (h.wireless (by rfl) (hsizes options.requestSize options.replySize))) _
  · refine h.initReplyAccepted ?_ (h.wireless (by rfl) (hsizes options.requestSize options.replySize))
    exact hstate

theorem setOptionReply {s : QdeviceInstance} (hs : I s) (msg : MsgDecoded) :
    wp (qdeviceNetMsgReceivedSetOptionReply env msg) (Ends I J) s := by
  refine (wp_bind _).mpr (wp_get.mpr ((wp_ite _).mpr ⟨fun _ => h.failWith_return (h.base hs) _,
    fun hstate => ?_⟩))
  refine (wp_ite _).mpr ⟨fun _ => (wp_pure _).mpr (h.ends hs), fun _ => ?_⟩
  exact h.echoRequestTimerSchedule (.inr (not_not.mp hstate)) hs

theorem echoReply {s : QdeviceInstance} (hs : I s) (msg : MsgDecoded) :
    wp (qdeviceNetMsgReceivedEchoReply msg) (Ends I J) s := by
  refine (wp_bind _).mpr (wp_get.mpr ?_)
  split
  · exact h.failWith (h.base hs) _
  · refine (wp_ite _).mpr ⟨fun _ => h.failWith_return (h.base hs) _, fun _ => ?_⟩
    exact (wp_bind _).mpr ((wp_modify _).mpr ((wp_pure _).mpr (h.ends (h.wireless (s := s) rfl hs))))

/-- The vote of a message is applied, if it is for the ring that was sent last. -/
theorem msgReceivedVote {s : QdeviceInstance} (hs : I s) (required : Bool)
    (algoErr : DisconnectReason) (msg : MsgDecoded) :
    wp (msgReceivedVote env required algoErr msg)
      (fun ok s' => Ends I J ok s' ∧ (ok = true → s'.net.connected)) s := by
  have hfail (reason : DisconnectReason) : wp (Net.failWith reason)
      (fun ok s' => Ends I J ok s' ∧ (ok = true → s'.net.connected)) s :=
    wp_failWith ⟨ends_false (h.linklessBase (s := s) rfl (h.base hs)), fun hgo => by cases hgo⟩
  have hfail' (reason : DisconnectReason) : wp (Net.failWith reason >>= fun ok => pure ok)
      (fun ok s' => Ends I J ok s' ∧ (ok = true → s'.net.connected)) s :=
    (wp_bind _).mpr ((hfail reason).mono fun _ _ hpost => (wp_pure _).mpr hpost)
  refine (wp_bind _).mpr (wp_get.mpr ((wp_ite _).mpr ⟨fun _ => hfail' _, fun hstate => ?_⟩))
  have hconnected : s.net.connected := decide_eq_true (not_not.mp hstate)
  split
  · next vote _ ringId _ _ _ =>
    refine (wp_ite _).mpr ⟨fun _ => hfail' _, fun _ => ?_⟩
    rw [algorithmVote_eq]
    -- The update of the vote changes nothing about the connection.
    have hstays (vote : TlvVote) (ringId : Option TlvRingId) :
        Preserves (fun s' : QdeviceInstance => s'.net.connected = true)
          (qdeviceNetCastVoteTimerUpdate env vote ringId) := by
      refine preserves_castVoteTimerUpdate ?_ (preserves_modifyNet fun _ hs' => hs') vote ringId
      intro s s' hvoteless hs
      have hsame : s'.voteless.net.connected = s.voteless.net.connected := by rw [hvoteless]
      exact hsame.trans hs
    have hupdate : wp (qdeviceNetCastVoteTimerUpdate env
        (if tlvRingIdEq ringId s.net.lastSentRingId = true then vote else .noChange) (some ringId))
        (fun _ => I) s := by
      split
      · next heq =>
        rw [(tlvRingIdEq_iff _ _).mp heq]
        exact h.messageVote vote hconnected hs
      · exact (wp_pure _).mpr hs
    refine (wp_bind _).mpr ((hupdate.and (hstays _ _ s hconnected)).mono fun ok s' hs' => ?_)
    refine (wp_ite _).mpr ⟨fun _ => ?_, fun _ => ?_⟩
    · refine wp_failWith_return ⟨ends_false ?_, fun hgo => by cases hgo⟩
      exact h.linklessBase (s := s') rfl (h.base hs'.1)
    · exact (wp_pure _).mpr ⟨h.ends hs'.1, fun _ => hs'.2⟩
  · exact hfail _

theorem voteInfo {s : QdeviceInstance} (hs : I s) (msg : MsgDecoded) :
    wp (qdeviceNetMsgReceivedVoteInfo env msg) (Ends I J) s := by
  refine (wp_bind _).mpr ((h.msgReceivedVote hs _ _ _).mono fun ok s₁ hs₁ => ?_)
  refine (wp_ite _).mpr ⟨fun _ => (wp_pure _).mpr (ends_false hs₁.1.1), fun hok => ?_⟩
  have htrue := Bool.eq_true_of_not_eq_false hok
  exact h.orFail_of_preserved (h.voteInfoReply _ (hs₁.2 htrue) (hs₁.1.2 htrue))

/-- Every message handler that fails ends the loop. -/
theorem msgReceived {s : QdeviceInstance} (hs : I s) (msg : Dynar) :
    wp (qdeviceNetMsgReceived env msg) (Ends I J) s := by
  have hbase := h.base hs
  have hvote (required : Bool) (algoErr : DisconnectReason) (msg : MsgDecoded) :
      wp (Net.msgReceivedVote env required algoErr msg) (Ends I J) s :=
    (h.msgReceivedVote hs required algoErr msg).mono fun _ _ hs' => hs'.1
  unfold qdeviceNetMsgReceived
  split
  · exact h.failWith hbase _
  · next msg _ =>
    unfold qdeviceNetMsgReceivedSwitch
    split
    · exact h.preinitReply hs msg
    · exact h.failWith hbase _
    · exact h.initReply hs msg
    · exact h.setOptionReply hs msg
    · exact h.echoReply hs msg
    · exact hvote _ _ msg
    · exact hvote _ _ msg
    · exact h.voteInfo hs msg
    · exact hvote _ _ msg
    all_goals exact h.failWith hbase _

/-! ### The socket -/

theorem socketRead {s : QdeviceInstance} (hs : I s) (alloc : Bool) (recv : Recv) :
    wp (qdeviceNetSocketRead env alloc recv) (Ends I J) s := by
  refine (wp_bind _).mpr (wp_get.mpr ((wp_bind _).mpr ((wp_modify _).mpr ?_)))
  have hread : I { s with net := { s.net with
      reader := (msgioRead alloc recv s.net.reader).1 } } := by
    refine h.wireless (s := s) ?_ hs
    unfold QdeviceInstance.wireless
    dsimp only
    rw [msgioRead_maximumSize]
  split
  · exact (wp_pure _).mpr (h.ends hread)
  · exact h.failWith (h.base hread) _
  · exact h.failWith (h.base hread) _
  · exact h.failWith (h.base hread) _
  · exact h.failWith (h.base hread) _
  · exact h.failWith (h.base hread) _
  · exact h.failWith (h.base hread) _
  · refine (wp_ite _).mpr ⟨fun _ => wp_stop.mpr trivial, fun _ => ?_⟩
    refine (wp_bind _).mpr ((h.msgReceived hread _).mono fun ok s₁ hs₁ => ?_)
    refine (wp_bind _).mpr ((wp_modify _).mpr ((wp_pure _).mpr ⟨?_, fun hgo => ?_⟩))
    · exact h.linklessBase (s := s₁) rfl hs₁.1
    · exact h.wireless (s := s₁) rfl (hs₁.2 hgo)

theorem socketWrite {s : QdeviceInstance} (hs : I s) (send : Send) :
    wp (qdeviceNetSocketWrite env send) (Ends I J) s := by
  refine (wp_bind _).mpr (wp_get.mpr ?_)
  split
  · exact h.failWith (h.base hs) _
  · next entry hactive =>
    have hrecord := h.record hactive hs
    have hactive' : sendBufferListGetActive
        ({ s with net := s.net.recordWrite entry.buffer } :
          QdeviceInstance).net.sendBufferList = some entry := hactive
    refine (wp_bind _).mpr ((wp_modify _).mpr ?_)
    split
    · have hdeleted := (h.written 0 hactive' hrecord).2
      refine (wp_bind _).mpr ((wp_modify _).mpr ((wp_ite _).mpr
        ⟨fun _ => (wp_pure _).mpr (h.ends hdeleted), fun _ => ?_⟩))
      by_cases hstate : s.net.state = .waitingStarttlsBeingSent
      · refine h.writeFinished ?_ hdeleted
        exact hstate
      · refine (wp_bind _).mpr (wp_get.mpr ((wp_ite _).mpr ⟨fun _ => ?_, fun hno => ?_⟩))
        · exact (wp_pure _).mpr (h.ends hdeleted)
        · exact absurd (not_not.mp hno) hstate
    · next bytes _ =>
      have hpart := (h.written bytes hactive' hrecord).1
      exact (wp_bind _).mpr ((wp_modify _).mpr ((wp_pure _).mpr (h.ends hpart)))
    · exact h.failWith (h.base hrecord) _
    · exact h.failWith (h.base hrecord) _

theorem nonBlockingClient {s : QdeviceInstance} (hstate : s.net.state = .waitingConnect) (hs : I s)
    (status : ConnectStatus) : wp (nonBlockingClientSocketWriteCb env status) (Ends I J) s := by
  refine (wp_bind _).mpr (wp_get.mpr ?_)
  cases status with
  | failed =>
    refine (wp_ite _).mpr ⟨fun _ => (wp_pure _).mpr (h.ends hs), fun _ => ?_⟩
    refine (wp_bind _).mpr ((wp_modify _).mpr ((wp_bind _).mpr (wp_get.mpr ((wp_pure _).mpr ?_))))
    exact h.ends (h.wireless (s := s) rfl hs)
  | inProgress => exact (wp_pure _).mpr (h.ends hs)
  | connected =>
    have hnext : I { s with net := { s.net with nonBlockingClientDestroyed := true } } :=
      h.wireless (s := s) rfl hs
    obtain ⟨hbase, hsend⟩ := h.client (s := { s with net := { s.net with
      nonBlockingClientDestroyed := true } }) hstate hnext
    refine (wp_ite _).mpr ⟨fun _ => (wp_pure _).mpr (h.ends hs), fun _ => ?_⟩
    refine (wp_bind _).mpr ((wp_modify _).mpr ((wp_bind _).mpr (wp_get.mpr ((wp_ite _).mpr
      ⟨fun _ => (wp_pure _).mpr (ends_false hbase), fun _ => h.orFail hsend⟩))))

theorem echoRequestTimer {s : QdeviceInstance} (htimer : s.net.echoRequestTimer = true) (hs : I s) :
    wp (qdeviceNetEchoRequestTimerCallback env) (fun _ => I) s := by
  have hfail (reason : DisconnectReason) : Preserves I (do
      disconnectWith reason
      modifyNet fun net => { net with echoRequestTimer := false }
      return false) := by
    refine (h.disconnect reason).bind fun _ => Preserves.bind ?_ fun _ => preserves_pure _
    exact preserves_modifyNet fun s hs => h.echoTimer false (fun hno => by cases hno) hs
  refine (wp_bind _).mpr (wp_get.mpr ((wp_ite _).mpr ⟨fun _ => ?_, fun _ => ?_⟩))
  · exact (wp_ite _).mpr ⟨fun _ => hfail _ s hs, fun _ => (wp_pure _).mpr hs⟩
  · refine wp.bind (h.echoRequest htimer hs) fun ok => ?_
    exact preserves_ite (fun _ => hfail _) fun _ => preserves_pure _

/-! ### The main loop -/

/-- Every call in the main loop keeps the invariant or ends the loop, if the results of the
    heuristics do. -/
theorem runPolling {s : QdeviceInstance} (hs : I s) {event : NetEvent} (hloop : s.loop = .polling)
    (henabled : event.enabled s) (hread : ∀ read, event = .heuristicsRead read →
      wp (heuristicsPipeCmdRecvRead env read) (fun _ => I) s) :
    wp (event.run env) (Ends I J) s := by
  by_cases hnotification : event.isNotification = true
  · exact (h.run hnotification s hs).mono fun _ _ => h.ends
  have hcb {m : NetM Bool} (hm : wp m (Ends I J) s) : wp (socketCb m) (Ends I J) s := by
    refine (wp_bind _).mpr (hm.mono fun ok s₁ hs₁ => (wp_ite _).mpr ⟨fun hfail => ?_, fun _ => ?_⟩)
    · refine (wp_bind _).mpr ((wp_modify _).mpr ((wp_pure _).mpr ?_))
      rw [hfail]
      exact ends_false (h.linklessBase (s := s₁) rfl hs₁.1)
    · exact (wp_pure _).mpr hs₁
  have hkeeps {m : NetM Unit} (hm : wp m (fun _ => I) s) :
      wp (m >>= fun _ => pure true) (Ends I J) s :=
    (wp_bind _).mpr (hm.mono fun _ _ hs₁ => (wp_pure _).mpr (h.ends hs₁))
  cases event with
  | prePollLoop | postPollLoop => simp [NetEvent.enabled, hloop] at henabled
  | checkScheduleDisconnect => exact (wp_pure _).mpr (h.ends hs)
  | socketRead alloc recv => exact hcb (h.socketRead hs alloc recv)
  | socketWrite send => exact hcb (h.socketWrite hs send)
  | socketErr =>
    exact (wp_bind _).mpr ((h.disconnect _ s hs).mono fun _ _ hs₁ => (wp_pure _).mpr (h.ends hs₁))
  | nonBlockingClient status =>
    simp only [NetEvent.enabled, decide_eq_true_eq] at henabled
    exact h.nonBlockingClient henabled.2.1 hs status
  | connectTimeout => exact hkeeps (h.connectTimeout s hs)
  | echoRequestTimer =>
    simp only [NetEvent.enabled, decide_eq_true_eq] at henabled
    refine (wp_bind _).mpr ((h.echoRequestTimer henabled.2 hs).mono fun _ _ hs₁ => ?_)
    exact (wp_pure _).mpr (h.ends hs₁)
  | nodeListNotify ringId nodeList => exact hkeeps (h.nodeListNotify ringId nodeList s hs)
  | heuristicsRead read => exact (hread read rfl).mono fun _ _ => h.ends
  | castVoteTimer | heuristicsTimer | heuristicsWrite _ | quorumNotify _ _ | expectedVotesNotify
  | cmapReload _ _ | closed _ => exact absurd rfl hnotification

end

end LinkStable

namespace ConnectionStable

section

variable (h : ConnectionStable env I J)
include h

theorem ends {s : QdeviceInstance} {goOn : Bool} (hs : I s) : Ends I J goOn s :=
  ⟨h.base hs, fun _ => hs⟩

/-! ### Results of the heuristics -/

theorem connectCallback (execResult : HeuristicsExecResult) :
    Preserves I (qdeviceNetConnectHeuristicsExecResultCallback env execResult) := by
  refine (h.connectNotifier false).bind fun active => ?_
  refine preserves_ite (fun _ => (h.disconnect _).bind fun _ => preserves_pure _) fun _ => ?_
  refine preserves_get fun s hs => ?_
  refine (wp_ite _).mpr ⟨fun _ => (wp_pure _).mpr hs, fun hstate => ?_⟩
  split
  · exact preserves_stop s hs
  · rw [if_neg (by simp)]
    exact h.connectSendLists _ (not_not.mp hstate) hs

theorem heuristicsRead (read : PipeRead) : Preserves I (heuristicsPipeCmdRecvRead env read) := by
  have hcallback (execResult : HeuristicsExecResult) (callback : HeuristicsCallback) :
      Preserves I (heuristicsCallback env execResult callback) := by
    cases callback with
    | votequorum => exact h.votequorumCallback execResult
    | regular => exact h.regularCallback execResult
    | connect => exact h.connectCallback execResult
  intro s hs
  refine preserves_heuristicsRead hcallback (fun s hs => h.outerless (s := s) rfl hs) ?_
  exact h.linkless (s := s) rfl hs

theorem initReplyAccepted {s : QdeviceInstance} (hstate : s.net.state = .waitingInitReply)
    (hs : I s) : wp (initReplyAccepted env) (Ends I J) s := by
  have hexec : Preserves I qdeviceNetHeuristicsExecAfterConnect := by
    refine (h.connectNotifier true).bind fun active => ?_
    refine preserves_ite (fun _ => h.disconnect_false _) fun _ => ?_
    refine h.execHeuristics.bind fun ok => ?_
    exact preserves_ite (fun _ => h.disconnect_false _) fun _ => preserves_pure _
  have hset := h.echoTimer (env.timerListAdd .echoRequest) (fun _ => .inl hstate) hs
  refine (wp_bind _).mpr ((wp_modify _).mpr ((wp_bind _).mpr ?_))
  refine wp_echoRequestTimerSchedule ?_ ?_
  · rw [if_neg (by decide)]
    exact (hexec _ (h.linkless (by rfl) hset)).mono fun _ _ hs₂ => h.ends hs₂
  · refine (wp_pure _).mpr (ends_false ?_)
    exact h.linklessBase (by rfl) (h.base hset)

/-- What is kept whether there are errors or not is kept by the calls in the main loop. -/
theorem linkStable : LinkStable env I J where
  toNotificationStable := h.toNotificationStable
  base := h.base
  wireless := by
    intro s s' heq hs
    have hlink : s'.wireless.linkless = s.wireless.linkless := by rw [heq]
    exact h.linkless (s := s) hlink hs
  linklessBase := h.linklessBase
  nodeListNotify := h.nodeListNotify
  client := h.client
  starttls := h.starttls
  init := h.init
  writeFinished := h.writeFinished
  setMaxSizes := h.setMaxSizes
  initReplyAccepted := h.initReplyAccepted
  echoTimer := h.echoTimer
  echoRequest := h.echoRequest
  messageVote := h.messageVote
  voteInfoReply := h.voteInfoReply
  record := h.record
  written := h.written
  connectTimeout :=
    (h.disconnect _).bind fun _ => preserves_modifyNet fun s hs => h.linkless (s := s) rfl hs

/-! ### Before the main loop -/

/-- The main loop begins. -/
theorem prePollLoop {s : QdeviceInstance} (hstate : s.net.state = .waitingConnect) (hs : I s) :
    wp (qdeviceModelNetPrePollLoop env) (Ends I J) s := by
  have hbegin {timer destroyed : Bool} : I { s with net := { s.net with
      state := .waitingConnect
      socket := none
      connectTimer := timer
      nonBlockingClientDestroyed := destroyed } } := by
    refine h.linkless (s := { s with net := { s.net with socket := none } }) ?_
      (h.noSocket hstate hs)
    simp only [QdeviceInstance.linkless, hstate]
  refine (wp_bind _).mpr ((wp_modify _).mpr ((wp_ite _).mpr ⟨fun _ => (wp_pure _).mpr
    (h.ends hbegin), fun _ => ?_⟩))
  refine (wp_bind _).mpr ((wp_modify _).mpr ((wp_bind _).mpr (wp_get.mpr ((wp_ite _).mpr
    ⟨fun _ => (wp_pure _).mpr (h.ends hbegin), fun _ => (wp_pure _).mpr (h.ends hbegin)⟩))))

end

/-- The state of the connection stays what it is when a notification comes. -/
theorem state_stable (state : NetState) :
    MembershipStable env fun s => s.net.state = state := by
  refine membershipStable_of_quiet fun {s s'} hquiet hs => ?_
  have hsame : s'.ringless.outerless.quiet.net.state = s.ringless.outerless.quiet.net.state := by
    rw [hquiet]
  exact hsame.trans hs

/-- Before the main loop, and before it begins again, there is no connection. -/
theorem runStarting (h : ConnectionStable env I J) {s : QdeviceInstance}
    (hstate : s.net.state = .waitingConnect) (hs : I s) {event : NetEvent}
    (hloop : s.loop = .starting) (henabled : event.enabled s) (hpre : event ≠ .prePollLoop) :
    wp (event.run env) (fun _ s' => I s' ∧ s'.net.state = .waitingConnect) s := by
  have hat : MembershipStable env fun s => s.net.state = .waitingConnect :=
    state_stable .waitingConnect
  by_cases hnotification : event.isNotification = true
  · exact (h.run hnotification s hs).and (hat.run hnotification s hstate)
  cases event with
  | prePollLoop => exact absurd rfl hpre
  | nodeListNotify ringId nodeList =>
    exact ((h.nodeListNotify ringId nodeList).and (hat.nodeListNotify ringId nodeList)).bind
      (fun _ => preserves_pure _) s ⟨hs, hstate⟩
  | heuristicsRead read =>
    refine (h.heuristicsRead read s hs).and ?_
    refine preserves_heuristicsRead (fun execResult callback => ?_) (fun _ hs => hs) hstate
    cases callback with
    | votequorum => exact hat.votequorumCallback execResult
    | regular => exact hat.regularCallback execResult
    | connect =>
      -- The lists are sent only when the init reply has arrived.
      intro s hs
      have hset : Preserves (fun s : QdeviceInstance => s.net.state = .waitingConnect)
          (setNotifierActive .connect false) :=
        preserves_setNotifierActive fun _ hs => hs
      refine (hset.bind fun active => ?_) s hs
      refine preserves_ite (fun _ => (hat.disconnect _).bind fun _ => preserves_pure _) fun _ => ?_
      refine preserves_get fun s hs => ?_
      refine (wp_ite _).mpr ⟨fun _ => (wp_pure _).mpr hs, fun hno => ?_⟩
      rw [not_not.mp hno] at hs
      cases hs
  | castVoteTimer | heuristicsTimer | heuristicsWrite _ | quorumNotify _ _ | expectedVotesNotify
  | cmapReload _ _ | closed _ => exact absurd rfl hnotification
  | postPollLoop | checkScheduleDisconnect | socketRead _ _ | socketWrite _ | socketErr
  | nonBlockingClient _ | connectTimeout | echoRequestTimer =>
    simp [NetEvent.enabled, hloop] at henabled

end ConnectionStable

/-! ### The connect callback -/

/-- What sending a node list writes is left out. -/
def QdeviceInstance.sendless (inst : QdeviceInstance) : QdeviceInstance :=
  { inst with
    net := { inst.net with
      sendBufferList := { inst.net.sendBufferList with
        allocatedListEntries := 0, list := [], freeList := 0 }
      lastMsgSeqNum := 0
      lastSentRingId := .zero } }

/-- A message is sent that is not about a ring. -/
theorem send_sendless (msg : NetMsg) (create : NetInstance → Dynar → Nat × Dynar)
    (s : QdeviceInstance) :
    wp (qdeviceNetSend env msg countMsg id create) (fun _ s' => s'.sendless = s.sendless ∧
      s'.net.lastSentRingId = s.net.lastSentRingId) s := by
  refine wp_qdeviceNetSend (fun sblist hgrown => ⟨?_, rfl⟩) (fun sblist hgrown => ⟨?_, rfl⟩)
    fun sblist size buffer _ _ hgrown => ⟨?_, rfl⟩
  all_goals
    simp only [QdeviceInstance.sendless, countMsg, id, hgrown.maxListEntries, hgrown.maxBufferSize]

theorem sendMembership_sendless (ringId : TlvRingId) (nodeList : List UInt32)
    (heuristics : TlvHeuristics) (s : QdeviceInstance) :
    wp (qdeviceNetSendMembershipNodeList env ringId nodeList heuristics)
      (fun sent s' => s'.sendless = s.sendless ∧ s'.net.lastSentRingId =
        if sent then ringId else s.net.lastSentRingId) s := by
  refine (wp_ite _).mpr ⟨fun _ => (wp_pure _).mpr ⟨rfl, rfl⟩, fun _ => ?_⟩
  refine wp_qdeviceNetSend (fun sblist hgrown => ⟨?_, rfl⟩) (fun sblist hgrown => ⟨?_, rfl⟩)
    fun sblist size buffer _ _ hgrown => ⟨?_, rfl⟩
  all_goals
    simp only [QdeviceInstance.sendless, countMsg, hgrown.maxListEntries, hgrown.maxBufferSize]

/-- The connect callback sends the current ring, if it can send its lists. -/
theorem connectSendLists_sendless (heuristics : TlvHeuristics) (s : QdeviceInstance) :
    wp (connectSendLists env heuristics) (fun sent s' => s'.sendless = s.sendless ∧
      (sent = true → s'.net.lastSentRingId = s.vqNodeListRingId)) s := by
  have hlists : ∀ s₁ : QdeviceInstance, s₁.sendless = s.sendless →
      wp (connectSendNodeLists env s heuristics) (fun sent s' => s'.sendless = s.sendless ∧
        (sent = true → s'.net.lastSentRingId = s.vqNodeListRingId)) s₁ := by
    intro s₁ h₁
    refine (wp_bind _).mpr ((send_sendless _ _ s₁).mono fun config s₂ h₂ => ?_)
    have h₂ := h₂.1.trans h₁
    refine (wp_ite _).mpr ⟨fun _ => (wp_pure _).mpr ⟨h₂, fun hno => by cases hno⟩, fun _ => ?_⟩
    refine (wp_bind _).mpr ((sendMembership_sendless _ _ _ s₂).mono fun membership s₃ h₃ => ?_)
    obtain ⟨h₃, hring⟩ := h₃
    have h₃ := h₃.trans h₂
    refine (wp_ite _).mpr ⟨fun _ => (wp_pure _).mpr ⟨h₃, fun hno => by cases hno⟩, fun hsent => ?_⟩
    rw [if_pos (Bool.eq_true_of_not_eq_false hsent)] at hring
    unfold qdeviceNetSendQuorumNodeList
    split
    · exact wp_stop.mpr trivial
    · exact (wp_pure _).mpr ⟨h₃, fun hno => by cases hno⟩
    · exact (send_sendless _ _ s₃).mono fun _ s₄ h₄ =>
        ⟨h₄.1.trans h₃, fun _ => h₄.2.trans hring⟩
  refine (wp_bind _).mpr (wp_get.mpr ((wp_ite _).mpr ⟨fun _ => ?_, fun _ => hlists s rfl⟩))
  refine (wp_bind _).mpr ((send_sendless _ _ s).mono fun sent s₁ h₁ => ?_)
  exact (wp_ite _).mpr ⟨fun _ => (wp_pure _).mpr ⟨h₁.1, fun hno => by cases hno⟩,
    fun _ => hlists s₁ h₁.1⟩

/-- No vote is cast until there is a reply. -/
theorem update_waitForReply_voteless (s : QdeviceInstance) :
    wp (qdeviceNetCastVoteTimerUpdate env .waitForReply none)
      (fun ok s' => ok = true ∧ s'.voteless = s.voteless ∧
        s'.net.castVoteTimerVote = .waitForReply ∧ s'.net.polls = s.net.polls) s := by
  refine (wp_bind _).mpr ((wp_modify _).mpr ((wp_bind _).mpr (wp_get.mpr ((wp_ite _).mpr ⟨fun _ => ?_,
    fun _ => (wp_pure _).mpr ⟨rfl, rfl, rfl, rfl⟩⟩))))
  exact (wp_bind _).mpr ((wp_modify _).mpr ((wp_pure _).mpr ⟨rfl, rfl, rfl, rfl⟩))

/-- What the connect callback does once there is an init reply and a result: the lists are not sent,
    and only a reason is recorded; or they are, and the instance is connected. -/
theorem wp_connectSendLists {heuristics : TlvHeuristics} {s : QdeviceInstance}
    {Q : Unit → QdeviceInstance → Prop}
    (hfail : ∀ s' : QdeviceInstance, s'.sendless = s.sendless →
      Q () { s' with net := { s'.net with disconnectReason := .cantAllocateMsgBuffer } })
    (hdone : ∀ s₁ s' : QdeviceInstance, s₁.sendless = s.sendless → s'.voteless = s₁.voteless →
      s'.net.polls = s.net.polls → s₁.net.lastSentRingId = s.vqNodeListRingId →
      s'.net.castVoteTimerVote = .waitForReply →
      Q () { s' with net := { s'.net with
        state := .waitingVotequorumCmapEvents
        latestConnectHeuristicsResult := heuristics
        latestHeuristicsResult := heuristics } }) :
    wp (do
      let sent ← connectSendLists env heuristics
      if sent = false then return ← recordReason .cantAllocateMsgBuffer
      let ok ← qdeviceNetCastVoteTimerUpdate env .waitForReply none
      if ok = false then recordReason .cantScheduleVotingTimer
      modifyNet fun net => { net with
        state := .waitingVotequorumCmapEvents
        latestConnectHeuristicsResult := heuristics
        latestHeuristicsResult := heuristics }) Q s := by
  refine (wp_bind _).mpr ((connectSendLists_sendless heuristics s).mono fun sent s₁ h₁ => ?_)
  obtain ⟨hsame, hring⟩ := h₁
  refine (wp_ite _).mpr ⟨fun _ => ?_, fun hsent => ?_⟩
  · exact (wp_bind _).mpr ((wp_modify _).mpr ((wp_pure _).mpr (hfail s₁ hsame)))
  · refine (wp_bind _).mpr ((update_waitForReply_voteless s₁).mono ?_)
    rintro ok s₂ ⟨rfl, hvoteless, hvote, hpolls⟩
    rw [if_neg (by decide)]
    have hpolls₁ : s₁.net.polls = s.net.polls := by
      have heq : s₁.sendless.net.polls = s.sendless.net.polls := by rw [hsame]
      exact heq
    exact (wp_modify _).mpr (hdone s₁ s₂ hsame hvoteless (hpolls.trans hpolls₁)
      (hring (Bool.eq_true_of_not_eq_false hsent)) hvote)

/-! ### Runs -/

/-- A step keeps `K` where there is no connection, `I` in the main loop, and `J` always. -/
theorem netStep_keeps {K : QdeviceInstance → Prop} (hidleBase : ∀ {s : QdeviceInstance}, K s → J s)
    (hmoved : ∀ {s : QdeviceInstance} (loop : LoopPhase), (K s → K { s with loop := loop }) ∧
      (I s → I { s with loop := loop }) ∧ (J s → J { s with loop := loop }))
    {s s' : QdeviceInstance} {event : NetEnv × NetEvent} (hs : J s)
    (hidle : s.loop = .starting ∨ s.loop = .restarting → K s) (hpolling : s.loop = .polling → I s)
    (hstarting : s.loop = .starting → event.2 ≠ .prePollLoop → event.2.enabled s → K s →
      wp (event.2.run event.1) (fun _ => K) s)
    (hrunning : s.loop = .polling → event.2.enabled s → I s →
      wp (event.2.run event.1) (Ends I J) s)
    (hpre : K s → wp (qdeviceModelNetPrePollLoop event.1) (Ends I J) s)
    (hpost : event.2 = .postPollLoop → s.loop = .ended → J s →
      wp (qdeviceModelNetPostPollLoop event.1) (fun _ => K) s)
    (hstep : netStep s event = some s') :
    J s' ∧ (s'.loop = .starting ∨ s'.loop = .restarting → K s') ∧ (s'.loop = .polling → I s') := by
  obtain ⟨env, event⟩ := event
  obtain ⟨goOn, s₁, loop, henabled, hrun, hphase, rfl⟩ := netStep_some hstep
  -- A call that does not lead into a loop has only `J` to keep.
  have hended (hs₁ : J s₁) {loop : LoopPhase} (hloop : loop = .ended ∨ loop = .stopped) :
      J { s₁ with loop := loop } ∧ (loop = .starting ∨ loop = .restarting →
        K { s₁ with loop := loop }) ∧ (loop = .polling → I { s₁ with loop := loop }) := by
    rcases hloop with rfl | rfl
    · exact ⟨(hmoved _).2.2 hs₁, (fun h => by rcases h with h | h <;> cases h), fun h => by cases h⟩
    · exact ⟨(hmoved _).2.2 hs₁, (fun h => by rcases h with h | h <;> cases h), fun h => by cases h⟩
  have hin (hends : Ends I J true s₁) : J { s₁ with loop := .polling } ∧
      (LoopPhase.polling = .starting ∨ LoopPhase.polling = .restarting →
        K { s₁ with loop := .polling }) ∧
      (LoopPhase.polling = .polling → I { s₁ with loop := .polling }) :=
    ⟨(hmoved _).2.2 hends.1, (fun h => by rcases h with h | h <;> cases h),
      fun _ => (hmoved _).2.1 (hends.2 rfl)⟩
  have hout {loop : LoopPhase} (hne : loop ≠ .polling) (hs₁ : K s₁) :
      J { s₁ with loop := loop } ∧ (loop = .starting ∨ loop = .restarting →
        K { s₁ with loop := loop }) ∧ (loop = .polling → I { s₁ with loop := loop }) :=
    ⟨(hmoved _).2.2 (hidleBase hs₁), fun _ => (hmoved _).1 hs₁, fun h => absurd h hne⟩
  generalize hloop : s.loop = old at hphase
  cases hphase with
  | starting hne _ =>
    have hs₁ := hstarting hloop hne henabled (hidle (.inl hloop)) goOn s₁ hrun
    cases goOn with
    | true => exact hout (fun h => by cases h) hs₁
    | false => exact hended (hidleBase hs₁) (.inr rfl)
  | polling _ _ =>
    have hends := hrunning hloop henabled (hpolling hloop) goOn s₁ hrun
    cases goOn with
    | true => exact hin hends
    | false => exact hended hends.1 (.inl rfl)
  | first hevent =>
    subst hevent
    have hends := hpre (hidle (.inl hloop)) goOn s₁ hrun
    cases goOn with
    | true => exact hin hends
    | false => exact hended hends.1 (.inr rfl)
  | again hevent =>
    subst hevent
    have hends := hpre (hidle (.inr hloop)) goOn s₁ hrun
    cases goOn with
    | true => exact hin hends
    | false => exact hended hends.1 (.inr rfl)
  | post hevent =>
    subst hevent
    have hs₁ := hpost rfl hloop hs goOn s₁ hrun
    cases goOn with
    | true => exact hout (fun h => by cases h) hs₁
    | false => exact hended (hidleBase hs₁) (.inr rfl)

/-- The invariant, by where the main loop is. -/
structure ConnectionRun (I J : QdeviceInstance → Prop) (s : QdeviceInstance) : Prop where
  base : J s
  idle : s.loop = .starting ∨ s.loop = .restarting → I s ∧ s.net.state = .waitingConnect
  polling : s.loop = .polling → I s

theorem ConnectionRun.step (hstable : ∀ env, ConnectionStable env I J)
    {s s' : QdeviceInstance} {event : NetEnv × NetEvent} (h : ConnectionRun I J s)
    (hpost : event.2 = .postPollLoop → s.loop = .ended →
      wp (qdeviceModelNetPostPollLoop event.1)
        (fun _ s' => I s' ∧ s'.net.state = .waitingConnect) s)
    (hstep : netStep s event = some s') : ConnectionRun I J s' := by
  have hst := hstable event.1
  have hmoved {s : QdeviceInstance} (loop : LoopPhase) (hs : I s) : I { s with loop := loop } :=
    hst.linkless (s := s) rfl hs
  obtain ⟨hbase, hidle, hpolling⟩ := netStep_keeps
    (K := fun s => I s ∧ s.net.state = .waitingConnect) (fun hs => hst.base hs.1)
    (fun {s} loop => ⟨fun hs => ⟨hmoved loop hs.1, hs.2⟩, hmoved loop,
      fun hs => hst.linklessBase (s := s) rfl hs⟩) h.base h.idle h.polling
    (fun hloop hne henabled hs => hst.runStarting hs.2 hs.1 hloop henabled hne)
    (fun hloop henabled hs => hst.linkStable.runPolling hs hloop henabled
      fun read _ => hst.heuristicsRead read s hs)
    (fun hs => hst.prePollLoop hs.2 hs.1) (fun hevent hloop _ => hpost hevent hloop) hstep
  exact ⟨hbase, hidle, hpolling⟩

/-- What every call keeps, and what holds again after each loop, holds in every run. -/
theorem ConnectionStable.reach {start : QdeviceStart} {ok : QdeviceInstance → NetEnv × NetEvent → Prop}
    (hstable : ∀ env, ConnectionStable env I J) (hinit : I start.init)
    (hpost : ∀ {s : QdeviceInstance} {env : NetEnv}, J s → s.loop = .ended →
      ok s (env, .postPollLoop) → wp (qdeviceModelNetPostPollLoop env)
        (fun _ s' => I s' ∧ s'.net.state = .waitingConnect) s)
    {s : QdeviceInstance} (hs : (netMachine start).Reach ok s) : ConnectionRun I J s := by
  refine hs.invariant (ConnectionRun I J) ?_ fun {s s' event} _ h hok hstep => ?_
  · exact ⟨(hstable {}).base hinit, fun _ => ⟨hinit, rfl⟩, fun h => by cases h⟩
  · refine h.step hstable (fun hevent hloop => ?_) hstep
    obtain ⟨env, event⟩ := event
    subst hevent
    exact hpost h.base hloop hok

end Qdevice.Net
