import Qdevice.Spec.MsgRoundTrip
import Qdevice.Spec.NetConnection

/-! # What is written before TLS

An instance that requires TLS, or has negotiated it, writes nothing but PREINIT and STARTTLS before
`nss_sock_start_ssl_as_client` has succeeded.  TLS is started when a message has been written
completely while the instance waits for STARTTLS to be sent; INIT is put into the send list after
that, and everything else waits for the reply to INIT. -/

open Prog

namespace Qdevice.Net

variable {env : NetEnv}

/-! ### The statement -/

/-- The messages that do not need TLS. -/
def BeforeTls (type : UInt16) : Prop :=
  type = MsgType.preinit.toUInt16 ∨ type = MsgType.starttls.toUInt16

/-- If TLS is required or was negotiated, the message does not need it, or it was written to the
    socket that `nss_sock_start_ssl_as_client` has returned for this connection. -/
def NetWrite.Protected (tlsSupported : TlvTlsSupported) (write : NetWrite) : Prop :=
  tlsSupported = .required ∨ write.negotiated = true →
    BeforeTls write.type ∨ (write.socket = some .tls ∧ write.sslStarted = true)

/-! ### The messages -/

theorem msgGetType_preinit (clusterName : List UInt8) (n : UInt32) (msg : Dynar)
    (h : (msgCreatePreinit clusterName true n msg).1 ≠ 0) :
    msgGetType (msgCreatePreinit clusterName true n msg).2 = MsgType.preinit.toUInt16 :=
  msgCreate_type ((tlvAdd_appends_take _ _ _).andThen (tlvAdd_appends_take _ _ _)) h

theorem msgGetType_starttls (n : UInt32) (msg : Dynar) (h : (msgCreateStarttls true n msg).1 ≠ 0) :
    msgGetType (msgCreateStarttls true n msg).2 = MsgType.starttls.toUInt16 :=
  msgCreate_type (tlvAdd_appends_take _ _ _) h

/-! ### The invariant -/

/-- What was written, and the setting of the instance. -/
structure TlsWrites (tls : TlvTlsSupported) (s : QdeviceInstance) : Prop where
  setting : s.net.tlsSupported = tls
  writes : ∀ write ∈ s.net.writes, write.Protected tls

/-- Until INIT has been sent there are only messages in the send list that do not need TLS, and no
    timer adds others; after that there is TLS if there has to be. -/
structure TlsInv (tls : TlvTlsSupported) (s : QdeviceInstance) : Prop extends TlsWrites tls s where
  queued : ¬ s.net.initSent →
    ∀ entry ∈ s.net.sendBufferList.list, BeforeTls (msgGetType entry.buffer)
  noTimer : ¬ s.net.initSent → s.net.echoRequestTimer = false
  negotiated : ¬ s.net.initSent → s.net.state ≠ .waitingStarttlsBeingSent →
    s.net.negotiated = false
  started : s.net.initSent → tls = .required ∨ s.net.negotiated = true →
    s.net.socket = some .tls ∧ s.net.sslStarted = true

/-- The part of the instance that matters once INIT has been sent. -/
def QdeviceInstance.tlsPart (inst : QdeviceInstance) :=
  (inst.net.tlsSupported, inst.net.writes, inst.net.negotiated, inst.net.socket,
    inst.net.sslStarted)

/-- The part of the instance that the invariant is about. -/
def QdeviceInstance.queuePart (inst : QdeviceInstance) :=
  (inst.net.state, inst.net.sendBufferList.list, inst.net.echoRequestTimer)

/-- The part of the instance that a message leaves as it is. -/
def QdeviceInstance.linkPart (inst : QdeviceInstance) := (inst.net.state, inst.tlsPart)

section

variable {tls : TlvTlsSupported} {s s' : QdeviceInstance}

theorem TlsWrites.of_part (hpart : s'.tlsPart = s.tlsPart) (h : TlsWrites tls s) :
    TlsWrites tls s' := by
  simp only [QdeviceInstance.tlsPart, Prod.mk.injEq] at hpart
  obtain ⟨hsetting, hwrites, _⟩ := hpart
  exact ⟨hsetting.trans h.setting, by rw [hwrites]; exact h.writes⟩

theorem TlsInv.of_part (hpart : s'.tlsPart = s.tlsPart) (hqueue : s'.queuePart = s.queuePart)
    (h : TlsInv tls s) : TlsInv tls s' := by
  have hwrites := h.toTlsWrites.of_part hpart
  simp only [QdeviceInstance.tlsPart, QdeviceInstance.queuePart, Prod.mk.injEq] at hpart hqueue
  obtain ⟨_, _, hnegotiated, hsocket, hssl⟩ := hpart
  obtain ⟨hstate, hlist, htimer⟩ := hqueue
  have hsent : s'.net.initSent ↔ s.net.initSent := by
    rw [NetInstance.initSent, NetInstance.initSent, hstate]
  refine ⟨hwrites, ?_, ?_, ?_, ?_⟩
  · rw [hsent, hlist]
    exact h.queued
  · rw [hsent, htimer]
    exact h.noTimer
  · rw [hsent, hstate, hnegotiated]
    exact h.negotiated
  · rw [hsent, hnegotiated, hsocket, hssl]
    exact h.started

theorem TlsWrites.of_erased {erase : QdeviceInstance → QdeviceInstance} (h : TlsWrites tls s)
    (heq : erase s' = erase s) (hpart : ∀ s, (erase s).tlsPart = s.tlsPart) : TlsWrites tls s' :=
  h.of_part ((hpart s').symm.trans ((congrArg _ heq).trans (hpart s)))

/-- What does not belong to the invariant may change. -/
theorem TlsInv.of_erased {erase : QdeviceInstance → QdeviceInstance} (h : TlsInv tls s)
    (heq : erase s' = erase s) (hpart : ∀ s, (erase s).tlsPart = s.tlsPart)
    (hqueue : ∀ s, (erase s).queuePart = s.queuePart) : TlsInv tls s' :=
  h.of_part ((hpart s').symm.trans ((congrArg _ heq).trans (hpart s)))
    ((hqueue s').symm.trans ((congrArg _ heq).trans (hqueue s)))

/-- Once INIT has been sent, any message can be put into the send list. -/
theorem TlsInv.of_sent (hpart : s'.tlsPart = s.tlsPart) (hsent : s.net.initSent)
    (hsent' : s'.net.initSent) (h : TlsInv tls s) : TlsInv tls s' := by
  have hwrites := h.toTlsWrites.of_part hpart
  simp only [QdeviceInstance.tlsPart, Prod.mk.injEq] at hpart
  obtain ⟨_, _, hnegotiated, hsocket, hssl⟩ := hpart
  refine ⟨hwrites, absurd hsent', absurd hsent', absurd hsent', fun _ => ?_⟩
  rw [hnegotiated, hsocket, hssl]
  exact h.started hsent

theorem TlsInv.disconnect (reason : DisconnectReason) :
    Preserves (TlsInv tls) (disconnectWith reason) :=
  preserves_modifyNet fun s h => h.of_part (s := s) rfl rfl

theorem NetInstance.initSent_of_connected {net : NetInstance} (h : net.connected) : net.initSent :=
  .inr (of_decide_eq_true h)

/-- A message is sent by an instance that has sent INIT. -/
theorem TlsInv.send {msg : NetMsg} {count done : NetInstance → NetInstance}
    {create : NetInstance → Dynar → Nat × Dynar} (hsent : s.net.initSent)
    (hcount : ({ s with net := count s.net } : QdeviceInstance).linkPart = s.linkPart)
    (hdone : ({ s with net := done (count s.net) } : QdeviceInstance).linkPart = s.linkPart)
    (h : TlsInv tls s) :
    wp (qdeviceNetSend env msg count done create) (fun _ => TlsInv tls) s := by
  have hinv {net : NetInstance}
      (hnet : ({ s with net := net } : QdeviceInstance).linkPart = s.linkPart)
      (sblist : SendBufferList) :
      TlsInv tls { s with net := { net with sendBufferList := sblist } } := by
    obtain ⟨hstate, hpart⟩ := Prod.mk.inj hnet
    refine h.of_sent (s := s) hpart hsent ?_
    rw [NetInstance.initSent, show NetInstance.state _ = s.net.state from hstate]
    exact hsent
  exact wp_qdeviceNetSend (fun sblist _ => hinv rfl sblist) (fun sblist _ => hinv hcount sblist)
    fun sblist _ _ _ _ _ => hinv hdone sblist

end

/-! ### Notifications -/

/-- The invariant is kept by every notification. -/
theorem tlsInv_stable (tls : TlvTlsSupported) : MembershipStable env (TlsInv tls) where
  frame := by
    intro s s' hcore hs
    exact hs.of_erased hcore (fun _ => rfl) (fun _ => rfl)
  disconnect := TlsInv.disconnect
  vote vote _ := by
    refine preserves_castVoteTimerUpdate ?_ (TlsInv.disconnect _) vote none
    intro s s' hvoteless hs
    exact hs.of_erased hvoteless (fun _ => rfl) (fun _ => rfl)
  castVoteTimer := by
    refine preserves_castVoteTimerCallback ?_ (TlsInv.disconnect _)
    intro s s' hvoteless hs
    exact hs.of_erased hvoteless (fun _ => rfl) (fun _ => rfl)
  send msg create s hc hs := hs.send (NetInstance.initSent_of_connected hc) rfl rfl
  notifier active _ := preserves_setNotifierActive fun {s items} _ hs => hs.of_part (s := s) rfl rfl
  heuristics := by
    intro s heuristics _ hs
    exact hs.of_part (s := s) rfl rfl
  outerless := by
    intro s s' houter hs
    exact hs.of_erased houter (fun _ => rfl) (fun _ => rfl)
  ringless := by
    intro s s' hring hs
    exact hs.of_erased hring (fun _ => rfl) (fun _ => rfl)
  sendMembership ringId nodeList heuristics s hc hs := by
    refine (wp_ite _).mpr ⟨fun _ => (wp_pure _).mpr hs, fun _ => ?_⟩
    exact hs.send (NetInstance.initSent_of_connected hc) rfl rfl

/-! ### The connection -/

section

variable {tls : TlvTlsSupported} {s : QdeviceInstance}

/-- The connect callback, whether it can send the lists or not. -/
theorem TlsInv.connectSendLists (hsent : s.net.initSent) (h : TlsInv tls s)
    (heuristics : TlvHeuristics) :
    wp (do
      let sent ← Net.connectSendLists env heuristics
      if sent = false then return ← recordReason .cantAllocateMsgBuffer
      let ok ← qdeviceNetCastVoteTimerUpdate env .waitForReply none
      if ok = false then recordReason .cantScheduleVotingTimer
      modifyNet fun net => { net with
        state := .waitingVotequorumCmapEvents
        latestConnectHeuristicsResult := heuristics
        latestHeuristicsResult := heuristics }) (fun _ => TlsInv tls) s := by
  refine wp_connectSendLists (fun s' hsame => ?_) fun s₁ s' hsame hvoteless _ _ _ => ?_
  · have hpart : s'.sendless.tlsPart = s.sendless.tlsPart := by rw [hsame]
    have hstate : s'.sendless.net.state = s.sendless.net.state := by rw [hsame]
    refine h.of_sent (s := s) hpart hsent ?_
    have hsame : s'.net.initSent ↔ s.net.initSent := by
      rw [NetInstance.initSent, NetInstance.initSent, show s'.net.state = s.net.state from hstate]
    exact hsame.mpr hsent
  · have hpart : s₁.sendless.tlsPart = s.sendless.tlsPart := by rw [hsame]
    have hpart' : s'.voteless.tlsPart = s₁.voteless.tlsPart := by rw [hvoteless]
    have hpart : s'.tlsPart = s.tlsPart := hpart'.trans hpart
    exact h.of_sent (s := s) hpart hsent (.inr rfl)

/-- PREINIT is the only message in the send list of a new connection. -/
theorem TlsInv.client (hstate : s.net.state = .waitingConnect) (h : TlsInv tls s) :
    wp (qdeviceNetSendPreinit env) (Ends (TlsInv tls) (TlsWrites tls)) { s with net := { s.net with
      socket := some .plain, state := .sendingPreinitReply } } := by
  have hnotSent : ¬ s.net.initSent :=
    not_initSent hstate (fun h => by cases h) fun h => by cases h
  have hwrites : TlsWrites tls s := h.toTlsWrites
  refine wp_qdeviceNetSend (fun _ _ => ⟨⟨hwrites.setting, hwrites.writes⟩, fun hgo => by cases hgo⟩)
    (fun _ _ => ⟨⟨hwrites.setting, hwrites.writes⟩, fun hgo => by cases hgo⟩)
    fun sblist size buffer hcreate hsize hgrown => ?_
  have hwrites' : TlsWrites tls { s with net := { s.net with
      socket := some .plain, state := .waitingPreinitReply, sendBufferList := sblist } } :=
    ⟨hwrites.setting, hwrites.writes⟩
  refine ⟨hwrites', fun _ => ⟨hwrites', fun _ => ?_, fun _ => h.noTimer hnotSent, fun _ _ => ?_, ?_⟩⟩
  · change ∀ entry ∈ sblist.list, BeforeTls (msgGetType entry.buffer)
    rw [hgrown.list]
    intro entry hentry
    obtain hentry | hentry := List.mem_append.mp hentry
    · exact h.queued hnotSent entry hentry
    · rw [List.mem_singleton.mp hentry]
      left
      refine (congrArg (fun created => msgGetType created.2) hcreate.symm).trans
        (msgGetType_preinit _ _ _ fun hzero => ?_)
      exact hsize ((congrArg Prod.fst hcreate).symm.trans hzero)
  · refine h.negotiated hnotSent fun heq => ?_
    rw [hstate] at heq
    cases heq
  · rintro (heq | heq)
    · cases heq
    · cases heq

/-- STARTTLS is sent. -/
theorem TlsInv.starttls (hstate : s.net.state = .waitingPreinitReply) (h : TlsInv tls s) :
    wp (qdeviceNetSendStarttls env) (Ends (TlsInv tls) (TlsWrites tls))
      { s with net := { s.net with negotiated := true } } := by
  have hnotSent : ¬ s.net.initSent :=
    not_initSent hstate (fun h => by cases h) fun h => by cases h
  have hwrites : TlsWrites tls s := h.toTlsWrites
  refine wp_qdeviceNetSend (fun _ _ => ⟨⟨hwrites.setting, hwrites.writes⟩, fun hgo => by cases hgo⟩)
    (fun _ _ => ⟨⟨hwrites.setting, hwrites.writes⟩, fun hgo => by cases hgo⟩)
    fun sblist size buffer hcreate hsize hgrown => ?_
  refine ⟨⟨hwrites.setting, hwrites.writes⟩, fun _ => ⟨⟨hwrites.setting, hwrites.writes⟩,
    fun _ => ?_, fun _ => h.noTimer hnotSent, fun _ hne => absurd rfl hne, ?_⟩⟩
  · change ∀ entry ∈ sblist.list, BeforeTls (msgGetType entry.buffer)
    rw [hgrown.list]
    intro entry hentry
    obtain hentry | hentry := List.mem_append.mp hentry
    · exact h.queued hnotSent entry hentry
    · rw [List.mem_singleton.mp hentry]
      right
      refine (congrArg (fun created => msgGetType created.2) hcreate.symm).trans
        (msgGetType_starttls _ _ fun hzero => ?_)
      exact hsize ((congrArg Prod.fst hcreate).symm.trans hzero)
  · rintro (heq | heq)
    · cases heq
    · cases heq

/-- INIT is sent, whether it needs TLS or not. -/
theorem TlsWrites.sendInit (h : TlsWrites tls s) {Q : Bool → QdeviceInstance → Prop}
    (hfail : ∀ s', TlsWrites tls s' → Q false s')
    (hdone : ∀ s' : QdeviceInstance, s'.tlsPart = s.tlsPart → s'.net.state = .waitingInitReply →
      Q true s') :
    wp (qdeviceNetSendInit env) Q s := by
  refine (wp_bind _).mpr ((wp_modify _).mpr ((wp_bind _).mpr (wp_get.mpr ?_)))
  exact wp_qdeviceNetSend (fun _ _ => hfail _ ⟨h.setting, h.writes⟩)
    (fun _ _ => hfail _ ⟨h.setting, h.writes⟩) fun _ _ _ _ _ _ => hdone _ rfl rfl

/-- Without TLS INIT is sent after the preinit reply. -/
theorem TlsInv.init (hstate : s.net.state = .waitingPreinitReply)
    (hnotRequired : s.net.tlsSupported ≠ .required) (h : TlsInv tls s) :
    wp (qdeviceNetSendInit env) (Ends (TlsInv tls) (TlsWrites tls)) s := by
  have hnotSent : ¬ s.net.initSent :=
    not_initSent hstate (fun h => by cases h) fun h => by cases h
  have hnegotiated : s.net.negotiated = false := by
    refine h.negotiated hnotSent fun heq => ?_
    rw [hstate] at heq
    cases heq
  refine h.toTlsWrites.sendInit (fun s' hs' => ⟨hs', fun hgo => by cases hgo⟩) fun s' hpart hs' => ?_
  have hwrites := h.toTlsWrites.of_part hpart
  have hsent : s'.net.initSent := .inl hs'
  refine ⟨hwrites, fun _ => ⟨hwrites, absurd hsent, absurd hsent, absurd hsent, fun _ htls => ?_⟩⟩
  simp only [QdeviceInstance.tlsPart, Prod.mk.injEq] at hpart
  rw [hpart.2.2.1, hnegotiated, ← h.setting] at htls
  rcases htls with hrequired | hno
  · exact absurd hrequired hnotRequired
  · cases hno

/-- TLS is started, and then INIT is sent. -/
theorem TlsInv.writeFinished (hstate : s.net.state = .waitingStarttlsBeingSent)
    (h : TlsInv tls s) :
    wp (qdeviceNetSocketWriteFinished env) (Ends (TlsInv tls) (TlsWrites tls)) s := by
  have hstarted : TlsWrites tls { s with net := { s.net with sslStarted := true } } :=
    ⟨h.setting, h.writes⟩
  refine wp_writeFinished (fun {s} _ hs => hs.of_part (s := s) rfl) hstate h.toTlsWrites ?_
  refine hstarted.sendInit (fun s' hs' => ⟨hs', fun hno => by cases hno⟩) fun s' hpart hs' => ?_
  have hwrites := hstarted.of_part hpart
  have hsent : NetInstance.initSent { s'.net with socket := some .tls, usingTls := true } :=
    .inl hs'
  have hwrites' : TlsWrites tls { s' with net := { s'.net with
      socket := some .tls, usingTls := true } } := ⟨hwrites.setting, hwrites.writes⟩
  simp only [QdeviceInstance.tlsPart, Prod.mk.injEq] at hpart
  exact ⟨hwrites, fun _ => ⟨hwrites', fun _ => ⟨hwrites', absurd hsent, absurd hsent, absurd hsent,
    fun _ _ => ⟨rfl, hpart.2.2.2.2⟩⟩⟩⟩

/-- The message that is written next may be written. -/
theorem TlsInv.record {entry : SendBufferListEntry}
    (hactive : sendBufferListGetActive s.net.sendBufferList = some entry) (h : TlsInv tls s) :
    TlsInv tls { s with net := s.net.recordWrite entry.buffer } := by
  have hwrites : TlsWrites tls { s with net := s.net.recordWrite entry.buffer } := by
    refine ⟨h.setting, fun write hwrite => ?_⟩
    obtain hwrite | hwrite := List.mem_append.mp hwrite
    · exact h.writes write hwrite
    · rw [List.mem_singleton.mp hwrite]
      intro htls
      by_cases hsent : s.net.initSent
      · exact .inr (h.started hsent htls)
      · exact .inl (h.queued hsent entry (List.mem_of_mem_head? hactive))
  exact ⟨hwrites, h.queued, h.noTimer, h.negotiated, h.started⟩

end

/-- Every call of the main loop keeps the invariant or ends the loop. -/
theorem tlsInv_connectionStable (tls : TlvTlsSupported) :
    ConnectionStable env (TlsInv tls) (TlsWrites tls) where
  toNotificationStable := (tlsInv_stable tls).toNotificationStable
  base h := h.toTlsWrites
  linkless := by
    intro s s' hlink hs
    exact hs.of_erased hlink (fun _ => rfl) (fun _ => rfl)
  linklessBase := by
    intro s s' hlink hs
    exact hs.of_erased hlink fun _ => rfl
  connectNotifier active :=
    preserves_setNotifierActive fun {s items} _ hs => hs.of_part (s := s) rfl rfl
  votequorumCallback := (tlsInv_stable tls).votequorumCallback
  nodeListNotify := (tlsInv_stable tls).nodeListNotify
  connectSendLists heuristics _ hstate hs := hs.connectSendLists (.inl hstate) heuristics
  client hstate hs := ⟨⟨hs.setting, hs.writes⟩, hs.client hstate⟩
  starttls hstate hs := hs.starttls hstate
  init hstate hnotRequired hs := hs.init hstate hnotRequired
  writeFinished hstate hs := hs.writeFinished hstate
  setMaxSizes requestSize replySize s _ hs := hs.of_part (s := s) rfl rfl
  echoTimer isSet _ hset hs := by
    refine ⟨⟨hs.setting, hs.writes⟩, hs.queued, fun hnotSent => ?_, hs.negotiated, hs.started⟩
    exact Bool.eq_false_iff.mpr fun htrue => hnotSent (hset htrue)
  echoRequest htimer hs := by
    have hsent := not_not.mp fun hno => Bool.false_ne_true ((hs.noTimer hno).symm.trans htimer)
    exact hs.send hsent rfl rfl
  messageVote vote s _ hs := by
    refine preserves_castVoteTimerUpdate ?_ (TlsInv.disconnect _) vote _ s hs
    intro s s' hvoteless hs
    exact hs.of_erased hvoteless (fun _ => rfl) (fun _ => rfl)
  voteInfoReply msgSeqNumber s hc hs := hs.send (NetInstance.initSent_of_connected hc) rfl rfl
  record hactive hs := hs.record hactive
  written := by
    intro s entry bytes hactive hs
    have hhead := List.mem_of_mem_head? hactive
    have hqueued (list : List SendBufferListEntry)
        (hlist : ∀ entry' ∈ list, ∃ entry'' ∈ s.net.sendBufferList.list,
          entry'.buffer = entry''.buffer) :
        ¬ s.net.initSent → ∀ entry' ∈ list, BeforeTls (msgGetType entry'.buffer) := by
      intro hnotSent entry' hentry'
      obtain ⟨entry'', hmem, hbuffer⟩ := hlist entry' hentry'
      rw [hbuffer]
      exact hs.queued hnotSent entry'' hmem
    refine ⟨⟨⟨hs.setting, hs.writes⟩, hqueued _ fun entry' hentry' => ?_, hs.noTimer, hs.negotiated,
      hs.started⟩, ⟨hs.setting, hs.writes⟩, hqueued _ fun entry' hentry' => ?_, hs.noTimer,
      hs.negotiated, hs.started⟩
    · obtain rfl | hrest := List.mem_cons.mp hentry'
      · exact ⟨entry, hhead, rfl⟩
      · exact ⟨entry', List.mem_of_mem_tail hrest, rfl⟩
    · exact ⟨entry', List.mem_of_mem_tail hentry', rfl⟩
  noSocket := by
    intro s hstate hs
    have hnotSent : ¬ s.net.initSent :=
      not_initSent hstate (fun h => by cases h) fun h => by cases h
    exact ⟨⟨hs.setting, hs.writes⟩, hs.queued, hs.noTimer, hs.negotiated,
      fun hsent => absurd hsent hnotSent⟩

/-- After the loop everything is as before the first connection. -/
theorem TlsWrites.postPollLoop {tls : TlvTlsSupported} {s : QdeviceInstance} (h : TlsWrites tls s) :
    wp (qdeviceModelNetPostPollLoop env)
      (fun _ s' => TlsInv tls s' ∧ s'.net.state = .waitingConnect) s := by
  have hupdate (vote : TlvVote) : Preserves
      (fun s => TlsWrites tls s ∧ s.net.echoRequestTimer = false)
      (qdeviceNetCastVoteTimerUpdate env vote none) := by
    refine preserves_castVoteTimerUpdate ?_ ?_ vote none
    · intro s s' hvoteless hs
      have htimer : s'.voteless.net.echoRequestTimer = s.voteless.net.echoRequestTimer := by
        rw [hvoteless]
      exact ⟨hs.1.of_erased hvoteless fun _ => rfl, htimer.trans hs.2⟩
    · exact preserves_modifyNet fun s hs => ⟨hs.1.of_part (s := s) rfl, hs.2⟩
  refine wp_postPollLoop (fun _ => hupdate _ _ ⟨⟨h.setting, h.writes⟩, rfl⟩) fun goOn s₁ hs₁ => ?_
  refine ⟨⟨⟨hs₁.1.setting, hs₁.1.writes⟩, fun _ entry hentry => ?_, fun _ => hs₁.2, fun _ _ => rfl,
    ?_⟩, rfl⟩
  · cases hentry
  · rintro (heq | heq)
    · cases heq
    · cases heq

/-! ### Runs -/

/-- In every run, whatever the server sends and in whatever order the socket becomes ready: if TLS is
    required, or was negotiated on the connection, then only PREINIT and STARTTLS are written
    before TLS has been started, and everything else is written to the TLS socket. -/
theorem tls_protects_writes (start : QdeviceStart) :
    ∀ s, (netMachine start).Reach (fun _ _ => True) s →
      ∀ write ∈ s.net.writes, write.Protected start.net.tlsSupported := by
  intro s hs
  -- Nothing has been written or queued at the start.
  have hinit : TlsInv start.net.tlsSupported start.init := by
    refine ⟨⟨rfl, fun write hwrite => ?_⟩, fun _ entry hentry => ?_, fun _ => rfl, fun _ _ => rfl, ?_⟩
    · cases hwrite
    · cases hentry
    · rintro (heq | heq)
      · cases heq
      · cases heq
  exact (ConnectionStable.reach (fun _ => tlsInv_connectionStable _) hinit
    (fun hbase _ _ => hbase.postPollLoop) hs).base.writes

/-- The events of a connection with TLS, up to the writing of INIT. -/
def exampleTls : List NetEvent :=
  [.prePollLoop, .nonBlockingClient .connected, .socketWrite (.sent 20)] ++
    preinitReplyArrives 1 .supported ++ [.socketWrite (.sent 14), .socketWrite (.sent 153)]

theorem tls_protects_writes_example :
    ∃ s, (netMachine exampleStart).Reach (fun _ _ => True) s ∧
      s.net.writes.map NetWrite.type =
        [MsgType.preinit.toUInt16, MsgType.starttls.toUInt16, MsgType.init.toUInt16] ∧
      s.net.writes.map NetWrite.socket = [some .plain, some .plain, some .tls] ∧
      ∀ write ∈ s.net.writes, write.Protected .supported := by
  have hrun : ((netMachine exampleStart).exec exampleStart.init (unfailing exampleTls)).any (fun s =>
      s.net.writes.map NetWrite.type =
        [MsgType.preinit.toUInt16, MsgType.starttls.toUInt16, MsgType.init.toUInt16] ∧
      s.net.writes.map NetWrite.socket = [some .plain, some .plain, some .tls]) = true := by
    decide +kernel
  obtain ⟨s, hs, hlook⟩ := (Option.any_eq_true _ _).mp hrun
  obtain ⟨htypes, hsockets⟩ := of_decide_eq_true hlook
  have hreach : (netMachine exampleStart).Reach (fun _ _ => True) s :=
    .exec (fun _ _ => trivial) .init hs
  exact ⟨s, hreach, htypes, hsockets, tls_protects_writes exampleStart s hreach⟩

end Qdevice.Net
