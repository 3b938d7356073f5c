import Qdevice.Spec.MsgFraming
import Qdevice.Spec.NetConnection

/-! # Connections that cannot be told apart

Two instances that differ only in what a connection does not read are `Alike`.  Each call of the
main loop that is about the connection does the same with both, until there is an init reply: what
was in the receive buffer before does not matter, only how large it may become, and which echo
reply is expected. -/

open Prog

namespace Qdevice.Net

variable {env : NetEnv}

/-! ### What a connection reads -/

/-- What no function reads before there is an init reply is left out, and what belongs to reading
    messages. -/
def QdeviceInstance.link (inst : QdeviceInstance) : QdeviceInstance :=
  { inst with
    net := { inst.net with
      reader := { receiveBuffer := { maximumSize := 0 } }
      echoRequestTimer := false
      echoRequestExpectedMsgSeqNum := 0
      echoReplyReceivedMsgSeqNum := 0
      castVoteTimer := false
      castVoteTimerEntries := 0
      castVoteTimerVote := .undefined
      castVoteTimerPaused := false
      castVoteTimerVoteRingId := none
      polls := []
      lastSentRingId := .zero
      algorithmData := {}
      regularHeuristicsTimer := false
      serverSupportsHeuristics := false
      serverSupportsKeepActivePartitionTieBreaker := false
      latestRegularHeuristicsResult := .undefined
      latestConnectHeuristicsResult := .undefined
      latestVqHeuristicsResult := .undefined
      latestHeuristicsResult := .undefined
      writes := []
      announced := none } }

/-- What belongs to reading messages. -/
structure Reading where
  reader : MsgReader
  echoRequestTimer : Bool
  echoRequestExpectedMsgSeqNum : UInt32

def NetInstance.reading (net : NetInstance) : Reading :=
  ⟨net.reader, net.echoRequestTimer, net.echoRequestExpectedMsgSeqNum⟩

/-- Neither instance is connected yet, and a connection cannot tell them apart, except for what
    `R` leaves open about reading. -/
structure Alike (R : Reading → Reading → Prop) (s t : QdeviceInstance) : Prop where
  link : s.link = t.link
  reading : R s.net.reading t.net.reading
  waiting : s.net.state ≠ .waitingVotequorumCmapEvents

section

variable {R : Reading → Reading → Prop} {s t : QdeviceInstance}

theorem Alike.mono {R' : Reading → Reading → Prop} (hR : ∀ k l, R k l → R' k l)
    (h : Alike R s t) : Alike R' s t :=
  ⟨h.link, hR _ _ h.reading, h.waiting⟩

/-- Both instances are written to alike. -/
theorem Alike.writeReading {R' : Reading → Reading → Prop} {f : NetInstance → NetInstance}
    (hlink : ∀ s : QdeviceInstance, QdeviceInstance.link { s.link with net := f s.link.net } =
      QdeviceInstance.link { s with net := f s.net })
    (hwaiting : ∀ net : NetInstance, net.state ≠ .waitingVotequorumCmapEvents →
      (f net).state ≠ .waitingVotequorumCmapEvents) (h : Alike R s t)
    (hreading : R' (f s.net).reading (f t.net).reading) :
    Alike R' { s with net := f s.net } { t with net := f t.net } := by
  refine ⟨?_, hreading, hwaiting _ h.waiting⟩
  rw [← hlink s, ← hlink t, h.link]

theorem Alike.write {f : NetInstance → NetInstance}
    (hlink : ∀ s : QdeviceInstance, QdeviceInstance.link { s.link with net := f s.link.net } =
      QdeviceInstance.link { s with net := f s.net })
    (hreading : ∀ net, (f net).reading = net.reading)
    (hwaiting : ∀ net : NetInstance, net.state ≠ .waitingVotequorumCmapEvents →
      (f net).state ≠ .waitingVotequorumCmapEvents) (h : Alike R s t) :
    Alike R { s with net := f s.net } { t with net := f t.net } := by
  refine h.writeReading hlink hwaiting ?_
  rw [hreading, hreading]
  exact h.reading

/-- What is around the net instance is the same in both. -/
theorem Alike.outer {f : QdeviceInstance → QdeviceInstance} (hlink : ∀ s, (f s.link).link = (f s).link)
    (hnet : ∀ s, (f s).net = s.net) (h : Alike R s t) : Alike R (f s) (f t) := by
  refine ⟨?_, ?_, ?_⟩
  · rw [← hlink s, ← hlink t, h.link]
  · rw [hnet, hnet]
    exact h.reading
  · rw [hnet]
    exact h.waiting

theorem agrees_modifyNet {f : NetInstance → NetInstance}
    (hlink : ∀ s : QdeviceInstance, QdeviceInstance.link { s.link with net := f s.link.net } =
      QdeviceInstance.link { s with net := f s.net })
    (hreading : ∀ net, (f net).reading = net.reading)
    (hwaiting : ∀ net : NetInstance, net.state ≠ .waitingVotequorumCmapEvents →
      (f net).state ≠ .waitingVotequorumCmapEvents) : Agrees (Alike R) (modifyNet f) :=
  agrees_modify fun _ _ h => h.write hlink hreading hwaiting

/-- What is done next depends only on what a connection reads. -/
theorem wp₂_alike_get {α : Type} {k : QdeviceInstance → NetM α}
    {Q : α → QdeviceInstance → QdeviceInstance → Prop} (hk : ∀ s, k s.link = k s) (h : Alike R s t)
    (hm : wp₂ (k s) (k s) Q s t) : wp₂ (Prog.get >>= k) (Prog.get >>= k) Q s t := by
  refine wp₂_get ?_
  rw [show k t = k s by rw [← hk s, ← hk t, h.link]]
  exact hm

theorem alike_get {α : Type} {k : QdeviceInstance → NetM α} (hk : ∀ s, k s.link = k s)
    (h : ∀ s t, Alike R s t → wp₂ (k s) (k s) (fun _ => Alike R) s t) :
    Agrees (Alike R) (Prog.get >>= k) :=
  fun s t hst => wp₂_alike_get hk hst (h s t hst)

theorem agrees_recordReason (reason : DisconnectReason) :
    Agrees (Alike R) (recordReason reason) :=
  agrees_modifyNet (fun _ => rfl) (fun _ => rfl) fun _ h => h

/-- A function that fails in both runs. -/
def Fails (R : Reading → Reading → Prop) (ok : Bool) (s t : QdeviceInstance) : Prop :=
  ok = false ∧ Alike R s t

theorem wp₂_failWith (h : Alike R s t) (reason : DisconnectReason) :
    wp₂ (failWith reason) (failWith reason) (Fails R) s t :=
  wp₂_bind ((agrees_recordReason reason s t h).mono fun _ _ _ h' => wp₂_pure _ ⟨rfl, h'⟩)

theorem wp₂_failWith_return (h : Alike R s t) (reason : DisconnectReason) :
    wp₂ (failWith reason >>= fun ok => pure ok) (failWith reason >>= fun ok => pure ok)
      (Fails R) s t :=
  wp₂_bind ((wp₂_failWith h reason).mono fun _ _ _ h' => wp₂_pure _ h')

theorem agrees_failWith (reason : DisconnectReason) : Agrees (Alike R) (failWith reason) :=
  fun _ _ h => (wp₂_failWith h reason).mono fun _ _ _ h' => h'.2

theorem agrees_failWith_return (reason : DisconnectReason) :
    Agrees (Alike R) (failWith reason >>= fun ok => pure ok) :=
  fun _ _ h => (wp₂_failWith_return h reason).mono fun _ _ _ h' => h'.2

theorem agrees_disconnectWith (reason : DisconnectReason) :
    Agrees (Alike R) (disconnectWith reason) :=
  agrees_modifyNet (fun _ => rfl) (fun _ => rfl) fun _ h => h

/-! ### Sending -/

/-- The same message is created, and both send lists take it or do not. -/
theorem agrees_qdeviceNetSend {msg : NetMsg} {count done : NetInstance → NetInstance}
    {create : NetInstance → Dynar → Nat × Dynar}
    (hcreate : ∀ s : QdeviceInstance, create (count s.link.net) = create (count s.net))
    (hcount : ∀ s t, Alike R s t →
      Alike R { s with net := count s.net } { t with net := count t.net })
    (hdone : ∀ s t, Alike R s t → Alike R { s with net := done s.net } { t with net := done t.net }) :
    Agrees (Alike R) (qdeviceNetSend env msg count done create) := by
  intro s t h
  have hlist : s.net.sendBufferList = t.net.sendBufferList := by
    have heq : s.link.net.sendBufferList = t.link.net.sendBufferList := by rw [h.link]
    exact heq
  have hsame : create (count s.net) = create (count t.net) := by
    rw [← hcreate s, ← hcreate t, h.link]
  have hset {s t : QdeviceInstance} (sblist : SendBufferList) (h : Alike R s t) :
      Alike R { s with net := { s.net with sendBufferList := sblist } }
        { t with net := { t.net with sendBufferList := sblist } } :=
    h.write (f := fun net => { net with sendBufferList := sblist }) (fun _ => rfl) (fun _ => rfl)
      fun _ h => h
  refine wp₂_get ?_
  dsimp only
  rw [hlist]
  rcases sendBufferListGetNewMalloc (env.sendAlloc msg).malloc t.net.sendBufferList with
    ⟨_ | entry, sblist⟩
  · exact wp₂_bind (wp₂_modify (wp₂_pure _ (hset sblist h)))
  · dsimp only
    rw [hsame]
    refine wp₂_ite _ (fun _ => ?_) fun _ => ?_
    · exact wp₂_bind (wp₂_modify (wp₂_pure _ (hset _ (hcount s t h))))
    · exact wp₂_bind (wp₂_modify (wp₂_pure _ (hset _ (hdone _ _ (hcount s t h)))))

theorem agrees_sendPreinit : Agrees (Alike R) (qdeviceNetSendPreinit env) := by
  refine agrees_qdeviceNetSend (fun _ => rfl) (fun _ _ h => h) fun s t h => ?_
  exact h.write (f := fun net => { net with state := .waitingPreinitReply }) (fun _ => rfl)
    (fun _ => rfl) fun _ _ h => by cases h

theorem agrees_sendStarttls : Agrees (Alike R) (qdeviceNetSendStarttls env) := by
  refine agrees_qdeviceNetSend (fun _ => rfl) (fun s t h => ?_) fun s t h => ?_
  · exact h.write (f := countMsg) (fun _ => rfl) (fun _ => rfl) fun _ h => h
  · exact h.write (f := fun net => { net with state := .waitingStarttlsBeingSent }) (fun _ => rfl)
      (fun _ => rfl) fun _ _ h => by cases h

theorem agrees_sendInit : Agrees (Alike R) (qdeviceNetSendInit env) := by
  refine Agrees.bind (agrees_modifyNet (fun _ => rfl) (fun _ => rfl) fun _ h => h) fun _ => ?_
  refine alike_get (fun _ => rfl) fun s t h => ?_
  refine agrees_qdeviceNetSend (fun _ => rfl) (fun _ _ h => h) (fun s' t' h => ?_) s t h
  exact h.write (f := fun net => { net with
    lastSentRingId := s.vqNodeListRingId, state := .waitingInitReply }) (fun _ => rfl)
    (fun _ => rfl) fun _ _ h => by cases h

/-! ### The heuristics -/

theorem agrees_setNotifierActive (callback : HeuristicsCallback) (active : Bool) :
    Agrees (Alike R) (setNotifierActive callback active) := by
  refine alike_get (fun _ => rfl) fun s t h => ?_
  split
  · exact wp₂_pure _ h
  · next items _ =>
    exact wp₂_bind (wp₂_modify (wp₂_pure _ (h.outer
      (f := fun inst => { inst with notifierList := items }) (fun _ => rfl) fun _ => rfl)))

theorem agrees_execHeuristics : Agrees (Alike R) execHeuristics := by
  refine alike_get (fun _ => rfl) fun s t h => ?_
  exact wp₂_bind (wp₂_modify (wp₂_pure _ (h.outer (f := fun inst => { inst with
    heuristicsInstance := (heuristicsExec s.syncInProgress s.heuristicsInstance).2 })
    (fun _ => rfl) fun _ => rfl)))

theorem agrees_execAfterConnect : Agrees (Alike R) qdeviceNetHeuristicsExecAfterConnect := by
  have hfail (reason : DisconnectReason) : Agrees (Alike R) (do
      disconnectWith reason
      return false) :=
    (agrees_disconnectWith reason).bind fun _ => agrees_pure _
  refine (agrees_setNotifierActive _ _).bind fun active => ?_
  refine agrees_ite (fun _ => hfail _) fun _ => ?_
  refine agrees_execHeuristics.bind fun ok => ?_
  exact agrees_ite (fun _ => hfail _) fun _ => agrees_pure _

end

/-! ### Messages from qnetd -/

/-- As large messages are read, and the init reply has been accepted by both or by none. -/
structure Reading.Same (k l : Reading) : Prop where
  maximumSize : k.reader.receiveBuffer.maximumSize = l.reader.receiveBuffer.maximumSize
  timer : k.echoRequestTimer = l.echoRequestTimer

/-- A header can be read, and there has been no init reply; the second instance still expects the
    echo reply that a fresh one does. -/
structure Reading.Waits (k l : Reading) : Prop extends Reading.Same k l where
  header : 6 ≤ k.reader.receiveBuffer.maximumSize
  noReply : k.echoRequestTimer = false
  expected : l.echoRequestExpectedMsgSeqNum = 1

/-- What the handler of a message ends with: if it succeeds, then it is the init reply, or one is
    waited for as before. -/
def Replied (ok : Bool) (s t : QdeviceInstance) : Prop :=
  Alike Reading.Same s t ∧
    (ok = true → s.net.echoRequestTimer = true ∨ Alike Reading.Waits s t)

section

variable {s t : QdeviceInstance}

theorem Alike.same (h : Alike Reading.Waits s t) : Alike Reading.Same s t :=
  h.mono fun _ _ hreading => hreading.toSame

theorem Replied.of_fails {ok : Bool} (h : Fails Reading.Same ok s t) :
    Replied ok s t :=
  ⟨h.2, fun hok => absurd (h.1.symm.trans hok) (by decide)⟩

theorem Replied.of_waits {ok : Bool} (h : Alike Reading.Waits s t) : Replied ok s t :=
  ⟨h.same, fun _ => .inr h⟩

theorem wp₂_replied_fails (h : Alike Reading.Same s t) (reason : DisconnectReason) :
    wp₂ (failWith reason) (failWith reason) Replied s t :=
  (wp₂_failWith h reason).mono fun _ _ _ => Replied.of_fails

theorem wp₂_replied_fails_return (h : Alike Reading.Same s t) (reason : DisconnectReason) :
    wp₂ (failWith reason >>= fun ok => pure ok) (failWith reason >>= fun ok => pure ok)
      Replied s t :=
  (wp₂_failWith_return h reason).mono fun _ _ _ => Replied.of_fails

/-- The timer is set for both or for none. -/
theorem wp₂_echoRequestTimerSchedule (h : Alike Reading.Same s t) :
    wp₂ (qdeviceNetEchoRequestTimerSchedule env) (qdeviceNetEchoRequestTimerSchedule env)
      (fun ok s' t' => Alike Reading.Same s' t' ∧
        (ok = true → s'.net.echoRequestTimer = true)) s t := by
  have hset : Alike Reading.Same _ _ :=
    h.writeReading (f := fun net => { net with
      echoRequestExpectedMsgSeqNum := 0
      echoReplyReceivedMsgSeqNum := 0
      echoRequestTimer := env.timerListAdd .echoRequest }) (fun _ => rfl) (fun _ h => h)
      ⟨h.reading.maximumSize, rfl⟩
  refine wp₂_bind (wp₂_modify (wp₂_ite _ (fun _ => ?_) fun hok => ?_))
  · exact (wp₂_failWith hset _).mono fun ok s' t' h' =>
      ⟨h'.2, fun hok => absurd (h'.1.symm.trans hok) (by decide)⟩
  · exact wp₂_pure _ ⟨hset, fun _ => Bool.eq_true_of_not_eq_false hok⟩

/-- The init reply is accepted by both. -/
theorem wp₂_initReplyAccepted (h : Alike Reading.Same s t) :
    wp₂ (initReplyAccepted env) (initReplyAccepted env) Replied s t := by
  have htimer := h.write (f := fun net => { net with connectTimer := false }) (fun _ => rfl)
    (fun _ => rfl) fun _ h => h
  refine wp₂_bind (wp₂_modify (wp₂_bind ?_))
  refine (wp₂_echoRequestTimerSchedule htimer).mono fun ok s₁ t₁ h₁ => ?_
  refine wp₂_ite _ (fun _ => wp₂_pure _ (.of_fails ⟨rfl, h₁.1⟩)) fun hok => ?_
  have hscheduled : Alike (fun k l => Reading.Same k l ∧ k.echoRequestTimer = true) s₁ t₁ :=
    ⟨h₁.1.link, ⟨h₁.1.reading, h₁.2 (Bool.eq_true_of_not_eq_false hok)⟩, h₁.1.waiting⟩
  refine (agrees_execAfterConnect s₁ t₁ hscheduled).mono fun ok s₂ t₂ h₂ => ?_
  exact ⟨h₂.mono fun _ _ hreading => hreading.1, fun _ => .inl h₂.reading.2⟩

theorem wp₂_initReplySizes (h : Alike Reading.Same s t) (options : InitReplyOptions) :
    wp₂ (initReplySizes env options) (initReplySizes env options) Replied s t := by
  have hsizes : Alike Reading.Same _ _ :=
    h.writeReading (f := NetInstance.setMaxSizes options.requestSize options.replySize)
      (fun _ => rfl) (fun _ h => h) ⟨rfl, h.reading.timer⟩
  refine wp₂_bind (wp₂_modify (wp₂_alike_get (fun _ => rfl) hsizes ?_))
  refine wp₂_ite _ (fun _ => wp₂_replied_fails_return hsizes _) fun _ => ?_
  have hsupports := hsizes.write (f := fun net => { net with
    serverSupportsHeuristics := TlvOptType.heuristics.toUInt16 ∈ options.supportedOptions
    serverSupportsKeepActivePartitionTieBreaker :=
      TlvOptType.keepActivePartitionTieBreaker.toUInt16 ∈ options.supportedOptions })
    (fun _ => rfl) (fun _ => rfl) fun _ h => h
  refine wp₂_bind (wp₂_modify ?_)
  exact wp₂_ite _ (fun _ => wp₂_replied_fails_return hsupports _)
    fun _ => wp₂_initReplyAccepted hsupports

theorem wp₂_initReply (h : Alike Reading.Same s t) (msg : MsgDecoded) :
    wp₂ (qdeviceNetMsgReceivedInitReply env msg) (qdeviceNetMsgReceivedInitReply env msg)
      Replied s t := by
  refine wp₂_alike_get (fun _ => rfl) h ?_
  refine wp₂_ite _ (fun _ => wp₂_replied_fails_return h _) fun _ => ?_
  refine wp₂_ite _ (fun _ => wp₂_replied_fails_return h _) fun _ => ?_
  split
  · exact wp₂_replied_fails h _
  refine wp₂_ite _ (fun _ => wp₂_replied_fails_return h _) fun _ => ?_
  split
  · exact wp₂_replied_fails h _
  refine wp₂_ite _ (fun _ => wp₂_replied_fails_return h _) fun _ => ?_
  refine wp₂_ite _ (fun _ => wp₂_replied_fails_return h _) fun _ => ?_
  exact wp₂_initReplySizes h _

end

section

variable {R : Reading → Reading → Prop} {s t : QdeviceInstance}

/-- A function is called in both runs, and its failure is recorded. -/
theorem agrees_orFail {m : NetM Bool} {reason : DisconnectReason} (hm : Agrees (Alike R) m) :
    Agrees (Alike R) (m >>= fun ok =>
      if ok = false then Net.failWith reason >>= fun ok => pure ok else pure true) :=
  hm.bind fun _ => agrees_ite (fun _ => agrees_failWith_return _) fun _ => agrees_pure _

theorem agrees_preinitReply (msg : MsgDecoded) :
    Agrees (Alike R) (qdeviceNetMsgReceivedPreinitReply env msg) := by
  refine alike_get (fun _ => rfl) fun s t h => ?_
  refine wp₂_ite _ (fun _ => agrees_failWith_return _ s t h) fun _ => ?_
  refine wp₂_ite _ (fun _ => agrees_failWith_return _ s t h) fun _ => ?_
  split
  · split
    · exact agrees_failWith _ s t h
    · refine Agrees.bind ?_ (fun _ => agrees_orFail agrees_sendStarttls) s t h
      exact agrees_modifyNet (fun _ => rfl) (fun _ => rfl) fun _ h => h
    · exact agrees_orFail agrees_sendInit s t h
  · exact agrees_failWith _ s t h

/-- An echo reply that both expect or neither does. -/
theorem wp₂_echoReply (h : Alike R s t) {msg : MsgDecoded}
    (hecho : ∀ seqNumber ∈ msg.seqNumber, (seqNumber = s.net.echoRequestExpectedMsgSeqNum ↔
      seqNumber = t.net.echoRequestExpectedMsgSeqNum)) :
    wp₂ (qdeviceNetMsgReceivedEchoReply msg) (qdeviceNetMsgReceivedEchoReply msg)
      (fun _ => Alike R) s t := by
  have halgorithm : s.link.net.decisionAlgorithm = t.link.net.decisionAlgorithm := by rw [h.link]
  refine wp₂_get ?_
  split
  · exact agrees_failWith _ s t h
  · next seqNumber heq =>
    rw [← show s.net.decisionAlgorithm = t.net.decisionAlgorithm from halgorithm,
      ← decide_eq_decide.mpr (hecho seqNumber heq)]
    refine wp₂_ite _ (fun _ => agrees_failWith_return _ s t h) fun _ => ?_
    refine Agrees.bind ?_ (fun _ => agrees_pure _) s t h
    exact agrees_modifyNet (fun _ => rfl) (fun _ => rfl) fun _ h => h

/-- Votes are not expected yet. -/
theorem wp₂_msgReceivedVote (h : Alike R s t) (required : Bool) (algoErr : DisconnectReason)
    (msg : MsgDecoded) :
    wp₂ (msgReceivedVote env required algoErr msg) (msgReceivedVote env required algoErr msg)
      (Fails R) s t := by
  have ht : t.net.state ≠ .waitingVotequorumCmapEvents := by
    have hstate : s.link.net.state = t.link.net.state := by rw [h.link]
    exact fun heq => h.waiting (hstate.trans heq)
  refine wp₂_get ?_
  rw [if_pos h.waiting, if_pos ht]
  exact wp₂_failWith_return h _

theorem agrees_voteInfo (msg : MsgDecoded) :
    Agrees (Alike R) (qdeviceNetMsgReceivedVoteInfo env msg) := by
  intro s t h
  refine wp₂_bind ((wp₂_msgReceivedVote h _ _ msg).mono fun ok s' t' h' => ?_)
  rw [if_pos h'.1]
  exact wp₂_pure _ h'.2

theorem agrees_setOptionReply (msg : MsgDecoded) :
    Agrees (Alike R) (qdeviceNetMsgReceivedSetOptionReply env msg) := by
  refine alike_get (fun _ => rfl) fun s t h => ?_
  rw [if_pos h.waiting]
  exact agrees_failWith_return _ s t h

end

/-- An echo reply that is expected by both, a fresh instance and one that expects `expected`, or by
    neither; or another message. -/
def EchoesAlike (expected : UInt32) (msg : MsgDecoded) : Prop :=
  MsgType.ofUInt16? msg.type = some .echoReply →
    ∀ seqNumber ∈ msg.seqNumber, (seqNumber = expected ↔ seqNumber = 1)

/-- Both instances do the same about such a message. -/
theorem wp₂_msgReceived {s t : QdeviceInstance} (h : Alike Reading.Waits s t)
    {msg : Dynar} (hecho : ∀ decoded, (msgDecode env.beyond msg).result = .ok decoded →
      EchoesAlike s.net.echoRequestExpectedMsgSeqNum decoded) :
    wp₂ (qdeviceNetMsgReceived env msg) (qdeviceNetMsgReceived env msg) Replied s t := by
  have hkeeps {m : NetM Bool} (hm : Agrees (Alike Reading.Waits) m) :
      wp₂ m m Replied s t :=
    (hm s t h).mono fun _ _ _ => Replied.of_waits
  have hvote (required : Bool) (algoErr : DisconnectReason) (msg : MsgDecoded) :
      Agrees (Alike Reading.Waits) (msgReceivedVote env required algoErr msg) :=
    fun _ _ h => (wp₂_msgReceivedVote h required algoErr msg).mono fun _ _ _ h' => h'.2
  unfold qdeviceNetMsgReceived
  split
  · exact hkeeps (agrees_failWith _)
  · next msg hdecoded =>
    unfold qdeviceNetMsgReceivedSwitch
    split
    · exact hkeeps (agrees_preinitReply msg)
    · exact hkeeps (agrees_failWith _)
    · exact wp₂_initReply h.same msg
    · exact hkeeps (agrees_setOptionReply msg)
    · next htype =>
      refine (wp₂_echoReply h fun seqNumber hseq => ?_).mono fun _ _ _ => Replied.of_waits
      rw [show t.net.echoRequestExpectedMsgSeqNum = 1 from h.reading.expected]
      exact hecho msg hdecoded htype seqNumber hseq
    · exact hkeeps (hvote _ _ msg)
    · exact hkeeps (hvote _ _ msg)
    · exact hkeeps (agrees_voteInfo msg)
    · exact hkeeps (hvote _ _ msg)
    all_goals exact hkeeps (agrees_failWith _)

/-! ### The socket -/

/-- Both have read the same part of a message. -/
structure Reading.Follows (k l : Reading) : Prop extends Reading.Waits k l where
  stream : ∃ tail, k.reader.Follows tail ∧ l.reader.Follows tail

/-- What a call ends with: if it succeeds, then the init reply has been accepted, or the next
    message is read. -/
def Continues (ok : Bool) (s t : QdeviceInstance) : Prop :=
  Alike Reading.Same s t ∧
    (ok = true → s.net.echoRequestTimer = true ∨ Alike Reading.Follows s t)

/-- How much is asked for depends on what was read. -/
theorem msgioToRead_eq {reader reader' : MsgReader} {tail : List UInt8} (h : reader.Follows tail)
    (h' : reader'.Follows tail) : msgioToRead reader = msgioToRead reader' := by
  rw [msgioToRead, msgioToRead, h.received, h'.received]
  split
  · rfl
  · next hheader =>
    have hle : 6 ≤ tail.length := Nat.le_of_not_lt hheader
    rw [h.headerLen_memory hle, h'.headerLen_memory hle]

theorem headerResult_ne_fullMessage (maximumSize : Nat) (tail stream : List UInt8) :
    headerResult maximumSize tail stream ≠ .fullMessage := by
  unfold headerResult
  split
  · split
    · exact fun h => by cases h
    · exact fun h => by cases h
  · exact fun h => by cases h

/-- Both have read the same, and what is in their buffers from before does not matter. -/
structure ReadsSame (read read' : MsgReader × MsgioResult) : Prop where
  result : read.2 = read'.2
  more : read.2 = .partialRead → ∃ tail, read.1.Follows tail ∧ read'.1.Follows tail
  skipping : read.2 = .fullMessage → read.1.skippingMsg = read'.1.skippingMsg
  message : read.2 = .fullMessage → read.1.skippingMsg = false →
    read.1.receiveBuffer.toDynar = read'.1.receiveBuffer.toDynar

theorem readsSame_of_readStep {maximumSize : Nat} {tail stream : List UInt8}
    {read read' : MsgReader × MsgioResult} (h : ReadStep maximumSize tail stream read)
    (h' : ReadStep maximumSize tail stream read') : ReadsSame read read' := by
  have hfull := headerResult_ne_fullMessage maximumSize tail stream
  cases h with
  | more _ follows =>
    cases h' with
    | more _ follows' =>
      exact ⟨rfl, fun _ => ⟨stream, follows, follows'⟩, fun h => absurd h hfull,
        fun h => absurd h hfull⟩
    | taken _ complete _ _ _ => exact absurd follows.incomplete (Nat.not_lt_of_ge complete.ge)
    | skipped _ complete _ _ => exact absurd follows.incomplete (Nat.not_lt_of_ge complete.ge)
  | taken max complete takes skipping holds =>
    cases h' with
    | more _ follows => exact absurd follows.incomplete (Nat.not_lt_of_ge complete.ge)
    | taken max' _ _ skipping' holds' =>
      refine ⟨rfl, fun h => (by cases h), fun _ => skipping.trans skipping'.symm, fun _ _ => ?_⟩
      rw [holds.toDynar, holds'.toDynar, max, max']
    | skipped _ _ refused _ => exact absurd takes refused
  | skipped _ complete refused skipping =>
    cases h' with
    | more _ follows => exact absurd follows.incomplete (Nat.not_lt_of_ge complete.ge)
    | taken _ _ takes _ _ => exact absurd takes refused
    | skipped _ _ _ skipping' =>
      exact ⟨rfl, fun h => (by cases h), fun _ => skipping.trans skipping'.symm,
        fun _ hno => absurd (skipping.symm.trans hno) (by decide)⟩

section

variable {s t : QdeviceInstance}

theorem Reading.Follows.readsSame {k l : Reading} (h : Reading.Follows k l) {recv : Recv}
    (hrecv : recvPossible k.reader recv) :
    ReadsSame (msgioRead true recv k.reader) (msgioRead true recv l.reader) := by
  obtain ⟨tail, hk, hl⟩ := h.stream
  cases recv with
  | closed | error => exact ⟨rfl, fun h => (by cases h), fun h => (by cases h), fun h => by cases h⟩
  | wouldBlock => exact ⟨rfl, fun _ => ⟨tail, hk, hl⟩, fun h => (by cases h), fun h => by cases h⟩
  | data bytes =>
    simp only [recvPossible, decide_eq_true_eq] at hrecv
    obtain ⟨hne, hlen⟩ := hrecv
    have hpos : 1 ≤ bytes.length := List.length_pos_iff.mpr hne
    have hread := msgioRead_data h.header hk hpos hlen
    have hread' := msgioRead_data (h.maximumSize ▸ h.header) hl hpos (msgioToRead_eq hk hl ▸ hlen)
    rw [← h.maximumSize] at hread'
    exact readsSame_of_readStep hread hread'

/-- The message that this call of `qdevice_net_socket_read` handles. -/
def receivedMsg (env : NetEnv) (reader : MsgReader) (recv : Recv) : Option MsgDecoded :=
  let (reader, res) := msgioRead true recv reader
  if res = .fullMessage ∧ reader.skippingMsg = false then
    (msgDecode env.beyond reader.receiveBuffer.toDynar).result.toOption
  else none

theorem Continues.of_fails {ok : Bool} (h : Fails Reading.Waits ok s t) :
    Continues ok s t :=
  ⟨h.2.same, fun hok => absurd (h.1.symm.trans hok) (by decide)⟩

theorem Continues.of_follows {ok : Bool} (h : Alike Reading.Follows s t) :
    Continues ok s t :=
  ⟨h.mono fun _ _ hreading => hreading.toSame, fun _ => .inr h⟩

/-- After a message the next one is read. -/
theorem Replied.reset {ok : Bool} (h : Replied ok s t) :
    Continues ok { s with net := { s.net with reader := s.net.reader.reset } }
      { t with net := { t.net with reader := t.net.reader.reset } } := by
  have hreset {R : Reading → Reading → Prop} (hR : Alike R s t) (R' : Reading → Reading → Prop)
      (hread : R' { s.net.reading with reader := s.net.reader.reset }
        { t.net.reading with reader := t.net.reader.reset }) :
      Alike R' { s with net := { s.net with reader := s.net.reader.reset } }
        { t with net := { t.net with reader := t.net.reader.reset } } :=
    hR.writeReading (f := fun net => { net with reader := net.reader.reset }) (fun _ => rfl)
      (fun _ h => h) hread
  refine ⟨hreset h.1 _ ⟨h.1.reading.maximumSize, h.1.reading.timer⟩, fun hok =>
    (h.2 hok).imp_right fun hwaits => hreset hwaits _ ?_⟩
  obtain ⟨hsame, hheader, hnoReply, hexpected⟩ := hwaits.reading
  exact ⟨⟨⟨hsame.maximumSize, hsame.timer⟩, hheader, hnoReply, hexpected⟩, [], .reset _, .reset _⟩

theorem wp₂_socketRead (h : Alike Reading.Follows s t) {recv : Recv}
    (hrecv : recvPossible s.net.reader recv)
    (hecho : ∀ msg ∈ receivedMsg env s.net.reader recv,
      EchoesAlike s.net.echoRequestExpectedMsgSeqNum msg) :
    wp₂ (qdeviceNetSocketRead env true recv) (qdeviceNetSocketRead env true recv)
      Continues s t := by
  have hsame := h.reading.readsSame hrecv
  have hmax := msgioRead_maximumSize true recv s.net.reader
  have hmax' := msgioRead_maximumSize true recv t.net.reader
  refine wp₂_get ?_
  change ReadsSame (msgioRead true recv s.net.reader) (msgioRead true recv t.net.reader) at hsame
  rw [receivedMsg] at hecho
  generalize msgioRead true recv s.net.reader = read at *
  generalize msgioRead true recv t.net.reader = read' at *
  obtain ⟨reader, res⟩ := read
  obtain ⟨reader', res'⟩ := read'
  obtain ⟨hres, hmore, hskipping, hmessage⟩ := hsame
  dsimp only at hres hmore hskipping hmessage hecho hmax hmax' ⊢
  subst hres
  have hwaits : Alike Reading.Waits { s with net := { s.net with reader := reader } }
      { t with net := { t.net with reader := reader' } } := by
    refine ⟨h.link, ⟨⟨?_, h.reading.timer⟩, ?_, h.reading.noReply, h.reading.expected⟩, h.waiting⟩
    · exact hmax.trans (h.reading.maximumSize.trans hmax'.symm)
    · exact h.reading.header.trans_eq hmax.symm
  have hfails (reason : DisconnectReason) : wp₂ (failWith reason) (failWith reason) Continues
      { s with net := { s.net with reader := reader } }
      { t with net := { t.net with reader := reader' } } :=
    (wp₂_failWith hwaits reason).mono fun _ _ _ => Continues.of_fails
  refine wp₂_bind (wp₂_modify ?_)
  cases res with
  | partialRead =>
    refine wp₂_pure _ (.of_follows ⟨hwaits.link, ⟨hwaits.reading, ?_⟩, hwaits.waiting⟩)
    exact hmore rfl
  | endOfConnection | unhandledError | cantStoreHeader | cantStoreMessage | msgTooLong
  | invalidMsgType => exact hfails _
  | fullMessage =>
    have hskip := hskipping rfl
    dsimp only
    cases hno : reader.skippingMsg with
    | true =>
      rw [← hskip, hno]
      exact wp₂_stop
    | false =>
      rw [← hskip, hno, ← hmessage rfl hno]
      refine wp₂_bind ((wp₂_msgReceived hwaits ?_).mono fun ok s' t' h' => ?_)
      · refine fun decoded hdecoded => hecho decoded ?_
        rw [if_pos ⟨rfl, hno⟩, hdecoded]
        rfl
      · exact wp₂_bind (wp₂_modify (wp₂_pure _ h'.reset))

end

section

variable {R : Reading → Reading → Prop}

theorem agrees_writeFinished : Agrees (Alike R) (qdeviceNetSocketWriteFinished env) := by
  refine alike_get (fun _ => rfl) fun s t h => ?_
  refine wp₂_ite _ (fun _ => wp₂_pure _ h) fun _ => ?_
  refine wp₂_ite _ (fun _ => agrees_failWith_return _ s t h) fun _ => ?_
  refine Agrees.bind ?_ (fun _ => agrees_sendInit.bind fun ok => ?_) s t h
  · exact agrees_modifyNet (fun _ => rfl) (fun _ => rfl) fun _ h => h
  · refine agrees_ite (fun _ => agrees_failWith_return _) fun _ => Agrees.bind ?_ fun _ => agrees_pure _
    exact agrees_modifyNet (fun _ => rfl) (fun _ => rfl) fun _ h => h

theorem agrees_socketWrite (send : Send) : Agrees (Alike R) (qdeviceNetSocketWrite env send) := by
  refine alike_get (fun _ => rfl) fun s t h => ?_
  split
  · exact agrees_failWith _ s t h
  · next entry _ =>
    refine Agrees.bind ?_ (fun _ => ?_) s t h
    · exact agrees_modifyNet (f := NetInstance.recordWrite entry.buffer) (fun _ => rfl)
        (fun _ => rfl) fun _ h => h
    · split
      · refine Agrees.bind ?_ fun _ => agrees_ite (fun _ => agrees_pure _) fun _ => agrees_writeFinished
        exact agrees_modifyNet (fun _ => rfl) (fun _ => rfl) fun _ h => h
      · refine Agrees.bind ?_ fun _ => agrees_pure _
        exact agrees_modifyNet (fun _ => rfl) (fun _ => rfl) fun _ h => h
      · exact agrees_failWith _
      · exact agrees_failWith _

theorem agrees_nonBlockingClient (status : ConnectStatus) :
    Agrees (Alike R) (nonBlockingClientSocketWriteCb env status) := by
  refine alike_get (fun _ => rfl) fun s t h => ?_
  cases status with
  | failed =>
    refine wp₂_ite _ (fun _ => wp₂_pure _ h) fun _ => ?_
    refine Agrees.bind ?_ (fun _ => alike_get (fun _ => rfl) fun _ _ h => wp₂_pure _ h) s t h
    exact agrees_modifyNet (fun _ => rfl) (fun _ => rfl) fun _ h => h
  | inProgress => exact wp₂_pure _ h
  | connected =>
    refine wp₂_ite _ (fun _ => wp₂_pure _ h) fun _ => ?_
    refine Agrees.bind ?_ (fun _ => alike_get (fun _ => rfl) fun s t h => ?_) s t h
    · exact agrees_modifyNet (fun _ => rfl) (fun _ => rfl) fun _ _ h => by cases h
    · exact wp₂_ite _ (fun _ => wp₂_pure _ h) fun _ => agrees_orFail agrees_sendPreinit s t h

end

end Qdevice.Net
