import Qdevice.Spec.NetConnection

/-! # Errors lead to a disconnect

A function of the net model that records a disconnect reason also sets `schedule_disconnect`, or
it returns what ends the poll loop.  `qdevice_net_connect_heuristics_exec_result_callback` is the
exception: when it cannot send the lists of the node it only records a reason, and since the
connect timer is gone by then, the node stays connected and says nothing any more.  When the lists
can be sent each time, all errors lead to a disconnect. -/

open Prog

namespace Qdevice.Net

variable {env : NetEnv}

/-! ### The statement -/

/-- The connect notifier is called with the next result of the heuristics. -/
def QdeviceInstance.connectActive (inst : QdeviceInstance) : Prop :=
  ⟨.connect, true⟩ ∈ inst.notifierList

/-- The result of the heuristics that were started after the init reply is outstanding. -/
def QdeviceInstance.connectOutstanding (inst : QdeviceInstance) : Prop :=
  inst.connectActive ∧ inst.heuristicsInstance.waitingForResult

/-- While a poll loop runs, a recorded error is followed by a disconnect, and an instance whose init
    reply has arrived is still to send its lists, or it is to be disconnected. -/
structure ErrorsDisconnect (inst : QdeviceInstance) : Prop where
  recorded : inst.runs → inst.net.disconnectReason ≠ .undefined → inst.net.scheduleDisconnect
  notMute : inst.loop = .polling → inst.net.state = .waitingInitReply →
    inst.net.connectTimer = false → inst.net.scheduleDisconnect ∨ inst.connectOutstanding

instance (inst : QdeviceInstance) : Decidable inst.connectActive :=
  inferInstanceAs (Decidable (_ ∈ _))

/-- The messages with the three lists, from their sequence numbers. -/
def nodeListMessages (env : NetEnv) (inst : QdeviceInstance) (heuristics : TlvHeuristics) :
    List (NetMsg × (UInt32 → Dynar → Nat × Dynar)) :=
  (.configNodeList, fun n => msgCreateNodeList n .initialConfig false .zero
    inst.configNodeListVersion.isSome (inst.configNodeListVersion.getD 0) false .inquorate false
    .undefined inst.configNodeList) ::
  (.membershipNodeList, fun n => msgCreateNodeList n .membership true inst.vqNodeListRingId false 0
    false .inquorate true heuristics (inst.vqNodeList.map fun nodeId => ⟨nodeId, 0, .notSet⟩)) ::
  match quorumNodeList env inst.vqQuorumNodeList with
  | some (some nlist) => [(.quorumNodeList, fun n => msgCreateNodeList n .quorum false .zero false 0
      true (if inst.vqQuorumQuorate ≠ 0 then .quorate else .inquorate) false .undefined nlist)]
  | some none | none => []

/-- The messages that the connect callback sends. -/
def connectMessages (env : NetEnv) (inst : QdeviceInstance) (heuristics : TlvHeuristics) :
    List (NetMsg × (UInt32 → Dynar → Nat × Dynar)) :=
  if inst.net.serverSupportsKeepActivePartitionTieBreaker then
    (.setOption, fun n => msgCreateSetOption true n false 0 true
      inst.net.keepActivePartitionTieBreaker) :: nodeListMessages env inst heuristics
  else nodeListMessages env inst heuristics

/-- Each of some messages fits into a buffer. -/
def MessagesFit (maxBufferSize : Nat) :
    UInt32 → List (NetMsg × (UInt32 → Dynar → Nat × Dynar)) → Prop
  | _, [] => True
  | n, (_, create) :: messages =>
    (create (n + 1) (dynarInit maxBufferSize)).1 ≠ 0 ∧ MessagesFit maxBufferSize (n + 1) messages

/-- There is a buffer for each of some messages, and they fit into their buffers.  Entries that are
    free already need no memory of their own. -/
structure Sendable (env : NetEnv) (sblist : SendBufferList) (n : UInt32)
    (messages : List (NetMsg × (UInt32 → Dynar → Nat × Dynar))) : Prop where
  room : messages.length ≤ sblist.freeList + (sblist.maxListEntries - sblist.allocatedListEntries)
  malloc : ∀ message ∈ messages.drop sblist.freeList, (env.sendAlloc message.1).malloc
  realloc : ∀ message ∈ messages, (env.sendAlloc message.1).realloc
  fit : MessagesFit sblist.maxBufferSize n messages

/-- The connect callback can send all of its messages. -/
structure ListsSendable (env : NetEnv) (inst : QdeviceInstance) (heuristics : TlvHeuristics) :
    Prop where
  membership : inst.vqNodeList ≠ [] → env.nodeListAdd
  quorum : quorumNodeList env inst.vqQuorumNodeList ≠ some none
  sendable : Sendable env inst.net.sendBufferList inst.net.lastMsgSeqNum
    (connectMessages env inst heuristics)

/-- The results that a read from the pipe of the heuristics worker brings. -/
def heuristicsResults (read : PipeRead) (inst : HeuristicsInstance) : List HeuristicsNotification :=
  (heuristicsCmdReadFromPipe (fun _ => true) read inst).2.notifications.drop
    inst.notifications.length

/-- When a result arrives for an instance that waits to send its lists, it can send them. -/
def ConnectSends (inst : QdeviceInstance) (event : NetEnv × NetEvent) : Prop :=
  match event.2 with
  | .heuristicsRead read => inst.net.state = .waitingInitReply → inst.connectActive →
      ∀ result ∈ heuristicsResults read inst.heuristicsInstance,
        ∀ heuristics ∈ qdeviceNetHeuristicsExecResultToTlv result.execResult,
          ListsSendable event.1 inst heuristics
  | _ => True

instance MessagesFit.decidable (maxBufferSize : Nat) :
    (n : UInt32) → (messages : List (NetMsg × (UInt32 → Dynar → Nat × Dynar))) →
      Decidable (MessagesFit maxBufferSize n messages)
  | _, [] => instDecidableTrue
  | n, (_, create) :: messages =>
    have := MessagesFit.decidable maxBufferSize (n + 1) messages
    inferInstanceAs (Decidable ((create (n + 1) (dynarInit maxBufferSize)).1 ≠ 0 ∧ _))

instance (sblist : SendBufferList) (n : UInt32)
    (messages : List (NetMsg × (UInt32 → Dynar → Nat × Dynar))) :
    Decidable (Sendable env sblist n messages) :=
  decidable_of_iff
    (messages.length ≤ sblist.freeList + (sblist.maxListEntries - sblist.allocatedListEntries) ∧
      (∀ message ∈ messages.drop sblist.freeList, (env.sendAlloc message.1).malloc) ∧
      (∀ message ∈ messages, (env.sendAlloc message.1).realloc) ∧
      MessagesFit sblist.maxBufferSize n messages)
    ⟨fun h => ⟨h.1, h.2.1, h.2.2.1, h.2.2.2⟩, fun h => ⟨h.room, h.malloc, h.realloc, h.fit⟩⟩

instance (inst : QdeviceInstance) (heuristics : TlvHeuristics) :
    Decidable (ListsSendable env inst heuristics) :=
  decidable_of_iff
    ((inst.vqNodeList ≠ [] → env.nodeListAdd) ∧
      quorumNodeList env inst.vqQuorumNodeList ≠ some none ∧
      Sendable env inst.net.sendBufferList inst.net.lastMsgSeqNum
        (connectMessages env inst heuristics))
    ⟨fun h => ⟨h.1, h.2.1, h.2.2⟩, fun h => ⟨h.membership, h.quorum, h.sendable⟩⟩

instance (inst : QdeviceInstance) :
    (event : NetEnv × NetEvent) → Decidable (ConnectSends inst event)
  | (env, .heuristicsRead read) =>
    have (execResult : HeuristicsExecResult) : Decidable (∀ heuristics ∈
        qdeviceNetHeuristicsExecResultToTlv execResult, ListsSendable env inst heuristics) :=
      Option.decidableForallMem _
    inferInstanceAs (Decidable (_ → _ → ∀ result ∈ heuristicsResults read inst.heuristicsInstance, _))
  | (_, .prePollLoop) | (_, .postPollLoop) | (_, .checkScheduleDisconnect) | (_, .socketRead _ _)
  | (_, .socketWrite _) | (_, .socketErr) | (_, .nonBlockingClient _) | (_, .connectTimeout)
  | (_, .echoRequestTimer) | (_, .castVoteTimer) | (_, .heuristicsTimer) | (_, .heuristicsWrite _)
  | (_, .quorumNotify _ _) | (_, .nodeListNotify _ _) | (_, .expectedVotesNotify)
  | (_, .cmapReload _ _) | (_, .closed _) => instDecidableTrue

/-! ### The invariant -/

/-- The part of the instance that the invariant is about. -/
def QdeviceInstance.errorPart (inst : QdeviceInstance) :
    DisconnectReason × Bool × NetState × Bool × List HeuristicsNotifierItem × Bool :=
  (inst.net.disconnectReason, inst.net.scheduleDisconnect, inst.net.state, inst.net.connectTimer,
    inst.notifierList, inst.heuristicsInstance.waitingForResult)

/-- What a message that is sent leaves as it is. -/
def NetInstance.errorPart (net : NetInstance) : DisconnectReason × Bool × Bool :=
  (net.disconnectReason, net.scheduleDisconnect, net.connectTimer)

/-- The three notifiers are there. -/
def QdeviceInstance.hasNotifiers (inst : QdeviceInstance) : Prop :=
  inst.notifierList.map HeuristicsNotifierItem.callback = [.votequorum, .regular, .connect]

/-- A way to tell that the connect callback will be called: it stays so while the notifier is active
    and a result outstanding. -/
def KeepsOutstanding (out : QdeviceInstance → Prop) : Prop :=
  ∀ {s s' : QdeviceInstance}, (s.connectActive → s'.connectActive) →
    (s.heuristicsInstance.waitingForResult → s'.heuristicsInstance.waitingForResult) → out s → out s'

theorem keepsOutstanding_outstanding : KeepsOutstanding QdeviceInstance.connectOutstanding :=
  fun hactive hwaiting hout => ⟨hactive hout.1, hwaiting hout.2⟩

theorem keepsOutstanding_active : KeepsOutstanding QdeviceInstance.connectActive :=
  fun hactive _ hout => hactive hout

/-- Errors are followed by a disconnect.  Without a connect timer the instance is to be disconnected,
    or in one of the states `ok`, or it waits to send its lists. -/
structure ErrorInv (ok : NetState → Prop) (out : QdeviceInstance → Prop) (s : QdeviceInstance) :
    Prop where
  notifiers : s.notifierList.map HeuristicsNotifierItem.callback = [.votequorum, .regular, .connect]
  scheduled : s.net.disconnectReason ≠ .undefined → s.net.scheduleDisconnect
  alive : s.net.connectTimer = false →
    s.net.scheduleDisconnect ∨ ok s.net.state ∨ (s.net.state = .waitingInitReply ∧ out s)

section

variable {ok : NetState → Prop} {out out' : QdeviceInstance → Prop} {s s' : QdeviceInstance}

theorem ErrorInv.mono (h : ErrorInv ok out s) (hout : out s → out' s) : ErrorInv ok out' s :=
  ⟨h.notifiers, h.scheduled, fun htimer =>
    (h.alive htimer).imp_right fun h => h.imp_right fun hwait => hwait.imp_right hout⟩

/-- What no field changes but the heuristics, which may start to wait for a result. -/
theorem ErrorInv.of_part (hkeeps : KeepsOutstanding out)
    (hpart : s'.errorPart = s.errorPart) (h : ErrorInv ok out s) : ErrorInv ok out s' := by
  simp only [QdeviceInstance.errorPart, Prod.mk.injEq] at hpart
  obtain ⟨hreason, hschedule, hstate, htimer, hlist, hwaiting⟩ := hpart
  refine ⟨by rw [hlist]; exact h.notifiers, fun hne => ?_, fun hnone => ?_⟩
  · rw [hschedule]
    exact h.scheduled (hreason ▸ hne)
  · rw [hschedule, hstate]
    have hactive : s.connectActive → s'.connectActive := by
      rw [QdeviceInstance.connectActive, QdeviceInstance.connectActive, hlist]
      exact id
    exact (h.alive (htimer ▸ hnone)).imp_right fun halive => halive.imp_right fun hwait =>
      hwait.imp_right (hkeeps hactive fun hw => hwaiting.trans hw)

theorem ErrorInv.disconnect (reason : DisconnectReason) :
    Preserves (ErrorInv ok out) (disconnectWith reason) :=
  preserves_modifyNet fun _ h => ⟨h.notifiers, fun _ => rfl, fun _ => .inl rfl⟩

end

/-- Another notifier than the connect notifier is set, which stays as it is. -/
theorem mem_setActive_of_ne {callback : HeuristicsCallback} {active : Bool}
    (hne : callback ≠ .connect) {items items' : List HeuristicsNotifierItem}
    (h : heuristicsResultNotifierListSetActive callback active items = some items') :
    ⟨.connect, true⟩ ∈ items' ↔ ⟨.connect, true⟩ ∈ items := by
  induction items generalizing items' with
  | nil => cases h
  | cons item items ih =>
    rw [heuristicsResultNotifierListSetActive] at h
    split at h
    · next hitem =>
      cases h
      have hother {item' : HeuristicsNotifierItem} (h' : item'.callback = callback) :
          ⟨.connect, true⟩ ≠ item' := fun heq => hne (h'.symm.trans (heq ▸ rfl))
      rw [List.mem_cons, List.mem_cons, or_iff_right (hother hitem), or_iff_right]
      exact hother hitem
    · obtain ⟨rest, hrest, rfl⟩ := Option.map_eq_some_iff.mp h
      rw [List.mem_cons, List.mem_cons, ih hrest]

/-- The invariant is kept by every notification. -/
theorem errorInv_stable {ok : NetState → Prop} {out : QdeviceInstance → Prop}
    (hkeeps : KeepsOutstanding out) : MembershipStable env (ErrorInv ok out) where
  frame := by
    intro s s' hcore
    have hpart : s'.core.errorPart = s.core.errorPart := by rw [hcore]
    exact ErrorInv.of_part hkeeps hpart
  disconnect := ErrorInv.disconnect
  vote vote _ := by
    refine preserves_castVoteTimerUpdate ?_ (ErrorInv.disconnect _) vote none
    intro s s' hvoteless
    have hpart : s'.voteless.errorPart = s.voteless.errorPart := by rw [hvoteless]
    exact ErrorInv.of_part hkeeps hpart
  castVoteTimer := by
    refine preserves_castVoteTimerCallback ?_ (ErrorInv.disconnect _)
    intro s s' hvoteless
    have hpart : s'.voteless.errorPart = s.voteless.errorPart := by rw [hvoteless]
    exact ErrorInv.of_part hkeeps hpart
  send msg create s _ hs :=
    wp_qdeviceNetSend (fun _ _ => ErrorInv.of_part (s := s) hkeeps rfl hs)
      (fun _ _ => ErrorInv.of_part (s := s) hkeeps rfl hs)
      fun _ _ _ _ _ _ => ErrorInv.of_part (s := s) hkeeps rfl hs
  notifier active hne := by
    refine preserves_setNotifierActive fun {s items} hitems hs => ?_
    refine ⟨(setActive_callbacks hitems).trans hs.notifiers, hs.scheduled, fun htimer => ?_⟩
    exact (hs.alive htimer).imp_right fun halive => halive.imp_right fun hwait =>
      hwait.imp_right (hkeeps (mem_setActive_of_ne hne hitems).mpr id)
  heuristics := by
    intro s heuristics hwaiting hs
    refine ⟨hs.notifiers, hs.scheduled, fun htimer => ?_⟩
    exact (hs.alive htimer).imp_right fun halive => halive.imp_right fun hwait =>
      hwait.imp_right (@hkeeps s _ id hwaiting)
  outerless := by
    intro s s' houter
    have hpart : s'.outerless.errorPart = s.outerless.errorPart := by rw [houter]
    exact ErrorInv.of_part hkeeps hpart
  ringless := by
    intro s s' hring
    have hpart : s'.ringless.errorPart = s.ringless.errorPart := by rw [hring]
    exact ErrorInv.of_part hkeeps hpart
  sendMembership ringId nodeList heuristics s _ hs := by
    refine preserves_ite (fun _ => preserves_pure _) (fun _ s hs => ?_) s hs
    exact wp_qdeviceNetSend (fun _ _ => ErrorInv.of_part (s := s) hkeeps rfl hs)
      (fun _ _ => ErrorInv.of_part (s := s) hkeeps rfl hs)
      fun _ _ _ _ _ _ => ErrorInv.of_part (s := s) hkeeps rfl hs

/-! ### The connect callback -/

/-- There is a buffer for the first of some messages, and the others can be sent after it. -/
theorem Sendable.getNew {sblist : SendBufferList} {n : UInt32} {msg : NetMsg}
    {create : UInt32 → Dynar → Nat × Dynar}
    {messages : List (NetMsg × (UInt32 → Dynar → Nat × Dynar))}
    (h : Sendable env sblist n ((msg, create) :: messages)) :
    ∃ sblist', sendBufferListGetNewMalloc (env.sendAlloc msg).malloc sblist =
        (some { buffer := dynarInit sblist.maxBufferSize }, sblist') ∧
      Sendable env sblist' (n + 1) messages := by
  have hroom := h.room
  rw [List.length_cons] at hroom
  rw [sendBufferListGetNewMalloc]
  have hrealloc : ∀ message ∈ messages, (env.sendAlloc message.1).realloc :=
    fun message hmem => h.realloc message (List.mem_cons_of_mem _ hmem)
  by_cases hfree : 0 < sblist.freeList
  · refine ⟨_, if_pos hfree, ⟨?_, ?_, hrealloc, h.fit.2⟩⟩
    · change messages.length ≤
        sblist.freeList - 1 + (sblist.maxListEntries - sblist.allocatedListEntries)
      omega
    · intro message hmem
      refine h.malloc message ?_
      obtain ⟨k, hk⟩ : ∃ k, sblist.freeList = k + 1 := ⟨sblist.freeList - 1, by omega⟩
      rw [hk, List.drop_succ_cons]
      rwa [show ({ sblist with freeList := sblist.freeList - 1 } : SendBufferList).freeList = k by
        change sblist.freeList - 1 = k
        omega] at hmem
  · have hzero : sblist.freeList = 0 := by omega
    have hall : ∀ message ∈ (msg, create) :: messages, (env.sendAlloc message.1).malloc := by
      have hmalloc := h.malloc
      rwa [hzero, List.drop_zero] at hmalloc
    refine ⟨{ sblist with allocatedListEntries := sblist.allocatedListEntries + 1 }, ?_,
      ⟨?_, ?_, hrealloc, h.fit.2⟩⟩
    · rw [if_neg hfree, if_neg (by omega), hall _ List.mem_cons_self]
      rfl
    · change messages.length ≤ sblist.freeList + (sblist.maxListEntries -
        (sblist.allocatedListEntries + 1))
      omega
    · intro message hmem
      exact hall message (List.mem_cons_of_mem _ (List.mem_of_mem_drop hmem))

/-- The first of the messages is sent. -/
theorem Sendable.send {msg : NetMsg} {create : UInt32 → Dynar → Nat × Dynar}
    {messages : List (NetMsg × (UInt32 → Dynar → Nat × Dynar))}
    {done : NetInstance → NetInstance} {s : QdeviceInstance}
    (hdone : ∀ net, (done net).lastMsgSeqNum = net.lastMsgSeqNum)
    (hpart : ∀ net, { s with net := done net }.errorPart = { s with net := net }.errorPart)
    (h : Sendable env s.net.sendBufferList s.net.lastMsgSeqNum ((msg, create) :: messages)) :
    wp (qdeviceNetSend env msg countMsg done fun net => create net.lastMsgSeqNum)
      (fun sent s' => sent = true ∧ s'.errorPart = s.errorPart ∧
        Sendable env s'.net.sendBufferList s'.net.lastMsgSeqNum messages) s := by
  obtain ⟨sblist, hnew, hrest⟩ := h.getNew
  unfold qdeviceNetSend
  rw [wp_bind, wp_get]
  dsimp only
  rw [hnew]
  dsimp only
  rw [if_neg]
  · rw [wp_bind, modifyNet, wp_modify, wp_pure]
    refine ⟨rfl, ?_, hrest.room, hrest.malloc, hrest.realloc, ?_⟩
    · exact hpart (countMsg s.net)
    · change MessagesFit sblist.maxBufferSize (done (countMsg s.net)).lastMsgSeqNum messages
      rw [hdone]
      exact hrest.fit
  · rintro (hsize | halloc)
    · exact h.fit.1 hsize
    · have hrealloc := h.realloc _ List.mem_cons_self
      rw [halloc] at hrealloc
      cases hrealloc

/-- The lists are sent one after the other. -/
private theorem nodeLists_send {heuristics : TlvHeuristics} {inst s : QdeviceInstance}
    (hmembership : inst.vqNodeList ≠ [] → env.nodeListAdd)
    (hquorum : quorumNodeList env inst.vqQuorumNodeList ≠ some none)
    (h : Sendable env s.net.sendBufferList s.net.lastMsgSeqNum
      (nodeListMessages env inst heuristics)) :
    wp (connectSendNodeLists env inst heuristics)
      (fun sent s' => sent = true ∧ s'.errorPart = s.errorPart) s := by
  refine (wp_bind _).mpr ((h.send (fun _ => rfl) fun _ => rfl).mono ?_)
  rintro config s₁ ⟨rfl, hpart₁, h₁⟩
  rw [if_neg (by decide), wp_bind, qdeviceNetSendMembershipNodeList, if_neg]
  · refine (h₁.send ?_ ?_).mono ?_
    · exact fun _ => rfl
    · exact fun _ => rfl
    rintro membership s₂ ⟨rfl, hpart₂, h₂⟩
    rw [if_neg (by decide), qdeviceNetSendQuorumNodeList]
    split
    · exact wp_stop.mpr trivial
    · next hnone => exact absurd hnone hquorum
    · next nlist hnlist =>
      rw [hnlist] at h₂
      refine (h₂.send (fun _ => rfl) fun _ => rfl).mono ?_
      rintro quorum s₃ ⟨rfl, hpart₃, _⟩
      exact ⟨rfl, hpart₃.trans (hpart₂.trans hpart₁)⟩
  · rintro ⟨hne, hadd⟩
    rw [hmembership hne] at hadd
    cases hadd

/-- All of the messages are sent. -/
theorem ListsSendable.send {heuristics : TlvHeuristics} {s : QdeviceInstance}
    (h : ListsSendable env s heuristics) :
    wp (connectSendLists env heuristics)
      (fun sent s' => sent = true ∧ s'.errorPart = s.errorPart) s := by
  have hsendable := h.sendable
  rw [connectMessages] at hsendable
  rw [connectSendLists, wp_bind, wp_get]
  refine (wp_ite _).mpr ⟨fun hc => ?_, fun hc => ?_⟩
  · rw [if_pos hc] at hsendable
    refine (wp_bind _).mpr ((hsendable.send (fun _ => rfl) fun _ => rfl).mono ?_)
    rintro sent s₁ ⟨rfl, hpart, hs₁⟩
    rw [if_neg (by decide)]
    refine (nodeLists_send h.membership h.quorum hs₁).mono ?_
    rintro sent s₂ ⟨rfl, hpart₂⟩
    exact ⟨rfl, hpart₂.trans hpart⟩
  · rw [if_neg hc] at hsendable
    exact nodeLists_send h.membership h.quorum hsendable

/-- The three notifiers. -/
theorem notifiers_eq {items : List HeuristicsNotifierItem}
    (h : items.map HeuristicsNotifierItem.callback = [.votequorum, .regular, .connect]) :
    ∃ a b c, items = [⟨.votequorum, a⟩, ⟨.regular, b⟩, ⟨.connect, c⟩] := by
  rcases items with _ | ⟨⟨c₁, a⟩, _ | ⟨⟨c₂, b⟩, _ | ⟨⟨c₃, c⟩, _ | ⟨item, items⟩⟩⟩⟩
  · cases h
  · cases h
  · cases h
  · simp only [List.map_cons, List.map_nil, List.cons.injEq, and_true] at h
    obtain ⟨rfl, rfl, rfl⟩ := h
    exact ⟨a, b, c, rfl⟩
  · simp only [List.map_cons, List.cons.injEq, reduceCtorEq, and_false] at h

/-- A vote that is awaited cannot fail. -/
theorem update_waitForReply (s : QdeviceInstance) :
    wp (qdeviceNetCastVoteTimerUpdate env .waitForReply none)
      (fun ok s' => ok = true ∧ s'.errorPart = s.errorPart) s := by
  refine (wp_bind _).mpr ((wp_modify _).mpr ((wp_bind _).mpr (wp_get.mpr ((wp_ite _).mpr ⟨fun _ => ?_,
    fun _ => (wp_pure _).mpr ⟨rfl, rfl⟩⟩))))
  exact (wp_bind _).mpr ((wp_modify _).mpr ((wp_pure _).mpr ⟨rfl, rfl⟩))

/-- The connect notifier can be set. -/
theorem setNotifierActive_connect {s : QdeviceInstance} (active : Bool)
    (h : s.notifierList.map HeuristicsNotifierItem.callback = [.votequorum, .regular, .connect]) :
    wp (setNotifierActive .connect active)
      (fun ok s' => ok = true ∧ ∃ items, s' = { s with notifierList := items } ∧
        items.map HeuristicsNotifierItem.callback = [.votequorum, .regular, .connect] ∧
        ⟨.connect, active⟩ ∈ items) s := by
  obtain ⟨a, b, c, hlist⟩ := notifiers_eq h
  unfold setNotifierActive
  rw [wp_bind, wp_get, hlist]
  refine (wp_bind _).mpr ((wp_modify _).mpr ((wp_pure _).mpr ⟨rfl, _, rfl, rfl, ?_⟩))
  exact List.mem_cons_of_mem _ (List.mem_cons_of_mem _ List.mem_cons_self)

/-- After the connect callback nothing is outstanding any more, if it could send its lists. -/
theorem ErrorInv.connectCallback {ok : NetState → Prop} {out : QdeviceInstance → Prop}
    (hok : ok .waitingVotequorumCmapEvents) {s : QdeviceInstance} (h : ErrorInv ok out s)
    {execResult : HeuristicsExecResult}
    (hsend : s.net.state = .waitingInitReply →
      ∀ heuristics ∈ qdeviceNetHeuristicsExecResultToTlv execResult,
        ListsSendable env s heuristics) :
    wp (qdeviceNetConnectHeuristicsExecResultCallback env execResult)
      (fun _ => ErrorInv ok fun _ => False) s := by
  refine (wp_bind _).mpr ((setNotifierActive_connect false h.notifiers).mono ?_)
  rintro active s₀ ⟨rfl, items, rfl, hmap, _⟩
  rw [if_neg (by decide)]
  refine (wp_bind _).mpr (wp_get.mpr ((wp_ite _).mpr ⟨fun hstate => ?_, fun hstate => ?_⟩))
  · refine (wp_pure _).mpr ⟨hmap, h.scheduled, fun htimer => ?_⟩
    exact (h.alive htimer).imp_right fun halive => .inl (halive.resolve_right fun hwait =>
      hstate hwait.1)
  · have hwait : s.net.state = .waitingInitReply := not_not.mp hstate
    split
    · exact wp_stop.mpr trivial
    · next heuristics hresult =>
      have hlists := hsend hwait heuristics hresult
      have hlists₀ : ListsSendable env { s with notifierList := items } heuristics :=
        ⟨hlists.membership, hlists.quorum, hlists.sendable⟩
      rw [if_neg (by simp)]
      refine (wp_bind _).mpr (hlists₀.send.mono ?_)
      rintro sent s₁ ⟨rfl, hpart₁⟩
      rw [if_neg (by decide)]
      refine (wp_bind _).mpr ((update_waitForReply s₁).mono ?_)
      rintro updated s₂ ⟨rfl, hpart₂⟩
      rw [if_neg (by decide)]
      simp only [QdeviceInstance.errorPart, Prod.mk.injEq] at hpart₁ hpart₂
      refine (wp_modify _).mpr ⟨?_, fun hne => ?_, fun _ => .inr (.inl hok)⟩
      · change s₂.notifierList.map _ = _
        rw [hpart₂.2.2.2.2.1, hpart₁.2.2.2.2.1]
        exact hmap
      · change s₂.net.scheduleDisconnect = true
        rw [hpart₂.2.1, hpart₁.2.1]
        refine h.scheduled fun heq => hne ?_
        change s₂.net.disconnectReason = .undefined
        rw [hpart₂.1, hpart₁.1]
        exact heq

/-! ### Results of the heuristics -/

/-- What the connect callback sends. -/
def QdeviceInstance.sendPart (inst : QdeviceInstance) :=
  (inst.net.sendBufferList, inst.net.lastMsgSeqNum,
    inst.net.serverSupportsKeepActivePartitionTieBreaker, inst.net.keepActivePartitionTieBreaker,
    inst.configNodeList, inst.configNodeListVersion, inst.vqNodeListRingId, inst.vqNodeList,
    inst.vqQuorumQuorate, inst.vqQuorumNodeList)

theorem ListsSendable.of_part {s s' : QdeviceInstance} {heuristics : TlvHeuristics}
    (hpart : s'.sendPart = s.sendPart) (h : ListsSendable env s heuristics) :
    ListsSendable env s' heuristics := by
  simp only [QdeviceInstance.sendPart, Prod.mk.injEq] at hpart
  obtain ⟨hlist, hnum, hsupports, hkeep, hconfig, hversion, hring, hnodes, hquorate, hquorum⟩ := hpart
  refine ⟨by rw [hnodes]; exact h.membership, by rw [hquorum]; exact h.quorum, ?_⟩
  have hmessages : connectMessages env s' heuristics = connectMessages env s heuristics := by
    simp only [connectMessages, nodeListMessages, hsupports, hkeep, hconfig, hversion, hring, hnodes,
      hquorate, hquorum]
  rw [hlist, hnum, hmessages]
  exact h.sendable

/-- As before the other callbacks, as far as the connect callback is concerned. -/
structure ConnectAlike (s₀ s : QdeviceInstance) : Prop where
  state : s.net.state = s₀.net.state
  part : s₀.net.state = .waitingInitReply → s.sendPart = s₀.sendPart
  active : s.connectActive → s₀.connectActive

theorem ConnectAlike.of_part {s₀ s s' : QdeviceInstance}
    (hpart : (s'.net.state, s'.sendPart, s'.notifierList) =
      (s.net.state, s.sendPart, s.notifierList)) (h : ConnectAlike s₀ s) : ConnectAlike s₀ s' := by
  simp only [Prod.mk.injEq] at hpart
  obtain ⟨hstate, hsend, hlist⟩ := hpart
  refine ⟨hstate.trans h.state, fun hwait => hsend.trans (h.part hwait), fun hactive => h.active ?_⟩
  rwa [QdeviceInstance.connectActive, ← hlist]

/-- While the init reply is awaited nothing else is sent. -/
theorem ConnectAlike.not_waiting {s₀ s : QdeviceInstance} (h : ConnectAlike s₀ s)
    (hc : s.net.connected) : s₀.net.state ≠ .waitingInitReply := fun hwait => by
  rw [NetInstance.connected, h.state, hwait] at hc
  cases hc

theorem ConnectAlike.send {s₀ : QdeviceInstance} {msg : NetMsg} {done : NetInstance → NetInstance}
    (hdone : ∀ net, (done net).state = net.state) {create : NetInstance → Dynar → Nat × Dynar}
    {s : QdeviceInstance} (hc : s.net.connected) (hs : ConnectAlike s₀ s) :
    wp (qdeviceNetSend env msg countMsg done create) (fun _ => ConnectAlike s₀) s := by
  refine wp_qdeviceNetSend (fun _ _ => ⟨hs.state, fun h => absurd h (hs.not_waiting hc), hs.active⟩)
    (fun _ _ => ⟨hs.state, fun h => absurd h (hs.not_waiting hc), hs.active⟩) fun _ _ _ _ _ _ => ?_
  exact ⟨(hdone _).trans hs.state, fun h => absurd h (hs.not_waiting hc), hs.active⟩

/-- The other callbacks leave what the connect callback sends as it is. -/
theorem connectAlike_stable (s₀ : QdeviceInstance) : Stable env (ConnectAlike s₀) where
  frame := by
    intro s s' hcore
    refine ConnectAlike.of_part ?_
    change (s'.core.net.state, s'.core.sendPart, s'.core.notifierList) = _
    rw [hcore]
    rfl
  disconnect reason := preserves_modifyNet fun s hs => ⟨hs.state, hs.part, hs.active⟩
  vote vote _ := by
    refine preserves_castVoteTimerUpdate ?_ ?_ vote none
    · intro s s' hvoteless
      refine ConnectAlike.of_part ?_
      change (s'.voteless.net.state, s'.voteless.sendPart, s'.voteless.notifierList) = _
      rw [hvoteless]
      rfl
    · exact preserves_modifyNet fun s hs => ⟨hs.state, hs.part, hs.active⟩
  castVoteTimer := by
    refine preserves_castVoteTimerCallback ?_ ?_
    · intro s s' hvoteless
      refine ConnectAlike.of_part ?_
      change (s'.voteless.net.state, s'.voteless.sendPart, s'.voteless.notifierList) = _
      rw [hvoteless]
      rfl
    · exact preserves_modifyNet fun s hs => ⟨hs.state, hs.part, hs.active⟩
  send msg create s hc hs := hs.send (fun _ => rfl) hc
  notifier active hne := by
    refine preserves_setNotifierActive fun {s items} hitems hs => ⟨hs.state, hs.part, fun h => ?_⟩
    exact hs.active ((mem_setActive_of_ne hne hitems).mp h)
  heuristics := fun _ hs => ⟨hs.state, hs.part, hs.active⟩

theorem connectAlike_votequorumCallback (s₀ : QdeviceInstance)
    (execResult : HeuristicsExecResult) :
    Preserves (ConnectAlike s₀) (qdeviceVotequorumHeuristicsExecResultCallback env execResult) := by
  refine (connectAlike_stable s₀).votequorumCallback ?_ ?_ execResult
  · exact preserves_modifyNet fun s hs => ⟨hs.state, hs.part, hs.active⟩
  · intro ringId nodeList heuristics s hc hs
    refine (wp_ite _).mpr ⟨fun _ => (wp_pure _).mpr hs, fun _ => ?_⟩
    refine ConnectAlike.send ?_ hc hs
    exact fun _ => rfl

/-- One notifier after the other. -/
theorem wp_notify_cons {P Q : QdeviceInstance → Prop} {execResult : HeuristicsExecResult}
    {callback : HeuristicsCallback} {callbacks : List HeuristicsCallback}
    (hcallback : Preserves P (heuristicsCallback env execResult callback))
    (hrest : ∀ s, P s → wp (heuristicsResultNotifierNotify env execResult callbacks) (fun _ => Q) s)
    {s : QdeviceInstance} (hs : P s) :
    wp (heuristicsResultNotifierNotify env execResult (callback :: callbacks)) (fun _ => Q) s := by
  refine (wp_bind _).mpr (wp_get.mpr ((wp_ite _).mpr ⟨fun _ => ?_, fun _ => hrest s hs⟩))
  exact (wp_bind _).mpr ((hcallback s hs).mono fun _ s' hs' => hrest s' hs')

/-- The result of the heuristics that were started after the init reply is handled: all messages can
    be sent, and they are. -/
theorem ErrorInv.notify {ok : NetState → Prop} (hok : ok .waitingVotequorumCmapEvents)
    {s : QdeviceInstance} (h : ErrorInv ok QdeviceInstance.connectActive s)
    {execResult : HeuristicsExecResult}
    (hsend : s.net.state = .waitingInitReply → s.connectActive →
      ∀ heuristics ∈ qdeviceNetHeuristicsExecResultToTlv execResult,
        ListsSendable env s heuristics) :
    wp (heuristicsResultNotifierNotify env execResult [.votequorum, .regular, .connect])
      (fun _ => ErrorInv ok fun _ => False) s := by
  have hinv : MembershipStable env (ErrorInv ok QdeviceInstance.connectActive) :=
    errorInv_stable keepsOutstanding_active
  -- The first two of the callbacks do not get in the way of the third.
  have hvotequorum := (hinv.votequorumCallback execResult).and
    (connectAlike_votequorumCallback s execResult)
  have hregular := (hinv.toStable.and (connectAlike_stable s)).regularCallback execResult
  refine wp_notify_cons hvotequorum (fun s₁ h₁ => ?_) ⟨h, rfl, fun _ => rfl, id⟩
  refine wp_notify_cons hregular (fun s₂ h₂ => ?_) h₁
  obtain ⟨hinv₂, halike⟩ := h₂
  refine (wp_bind _).mpr (wp_get.mpr ((wp_ite _).mpr ⟨fun hactive => ?_, fun hactive => ?_⟩))
  · refine (wp_bind _).mpr ((hinv₂.connectCallback hok fun hwait heuristics hresult => ?_).mono
      fun _ s₃ h₃ => (wp_pure _).mpr h₃)
    have hwait₀ : s.net.state = .waitingInitReply := halike.state.symm.trans hwait
    exact (hsend hwait₀ (halike.active hactive) heuristics hresult).of_part (halike.part hwait₀)
  · exact (wp_pure _).mpr (hinv₂.mono fun h => absurd h hactive)

/-- A read from the heuristics worker. -/
theorem ErrorInv.heuristicsRead {ok : NetState → Prop} (hok : ok .waitingVotequorumCmapEvents)
    {s : QdeviceInstance} (h : ErrorInv ok QdeviceInstance.connectOutstanding s) {read : PipeRead}
    (hsend : ConnectSends s (env, .heuristicsRead read)) :
    wp (heuristicsPipeCmdRecvRead env read)
      (fun _ => ErrorInv ok QdeviceInstance.connectOutstanding) s := by
  obtain ⟨new, hnew, hcase⟩ := heuristicsCmdReadFromPipe_notifies read s.heuristicsInstance
  have hresults : heuristicsResults read s.heuristicsInstance = new := by
    rw [heuristicsResults, hnew, List.drop_left]
  have hexit (goOn : Bool) : Preserves (ErrorInv ok QdeviceInstance.connectOutstanding) (do
      if goOn = false then Prog.modify fun inst => { inst with exitReason := .heuristicsClosed }
      return goOn) := by
    refine preserves_ite (fun _ => Preserves.bind ?_ fun _ => preserves_pure _)
      fun _ => preserves_pure _
    exact preserves_modify fun _ hs => ⟨hs.notifiers, hs.scheduled, hs.alive⟩
  unfold heuristicsPipeCmdRecvRead
  rw [wp_bind, wp_get]
  refine (wp_bind _).mpr ((wp_modify _).mpr ?_)
  refine wp.bind ?_ fun _ => hexit _
  change wp (notifyResults env (heuristicsResults read s.heuristicsInstance)) _ _
  rw [hresults]
  rcases hcase with ⟨rfl, hwaiting⟩ | ⟨result, rfl, hwaiting, hdone⟩
  · have hstable : MembershipStable env (ErrorInv ok QdeviceInstance.connectOutstanding) :=
      errorInv_stable keepsOutstanding_outstanding
    exact (wp_pure _).mpr (hstable.heuristics (fun hw => hwaiting.trans hw) h)
  · have hactive : ErrorInv ok QdeviceInstance.connectActive s := h.mono And.left
    have hread : ErrorInv ok QdeviceInstance.connectActive { s with heuristicsInstance :=
        (heuristicsCmdReadFromPipe (fun _ => true) read s.heuristicsInstance).2 } :=
      ⟨hactive.notifiers, hactive.scheduled, hactive.alive⟩
    refine (wp_bind _).mpr (wp_get.mpr ((wp_bind _).mpr ?_))
    rw [show List.map _ _ = _ from h.notifiers]
    refine (hread.notify hok fun hwait hconnect heuristics hresult => ?_).mono fun _ s' hs' => ?_
    · have hlists : ListsSendable env s heuristics := hsend hwait hconnect result
        (by rw [hresults]; exact List.mem_cons_self) heuristics hresult
      exact ListsSendable.of_part (s := s) rfl hlists
    · exact (wp_pure _).mpr (hs'.mono False.elim)

/-! ### Messages from qnetd -/

/-- The only state in which nothing is awaited from the connect timer. -/
def NetState.isConnected (state : NetState) : Prop := state = .waitingVotequorumCmapEvents

/-- What a callback of the poll loop ends with: if it does not end the loop, the invariant holds. -/
structure ErrorPost (goOn : Bool) (s : QdeviceInstance) : Prop where
  notifiers : s.notifierList.map HeuristicsNotifierItem.callback = [.votequorum, .regular, .connect]
  inv : goOn = true → ErrorInv NetState.isConnected QdeviceInstance.connectOutstanding s

theorem ErrorInv.ends {s : QdeviceInstance} {goOn : Bool}
    (h : ErrorInv NetState.isConnected QdeviceInstance.connectOutstanding s) :
    Ends (ErrorInv NetState.isConnected QdeviceInstance.connectOutstanding)
      QdeviceInstance.hasNotifiers goOn s :=
  ⟨h.notifiers, fun _ => h⟩

section

variable {s : QdeviceInstance} (h : ErrorInv NetState.isConnected QdeviceInstance.connectOutstanding s)
include h

/-- A message is sent before the init reply arrives: until then the connect timer is there. -/
theorem ErrorInv.sendBefore {msg : NetMsg} {count done : NetInstance → NetInstance}
    {create : NetInstance → Dynar → Nat × Dynar} (hnotSent : ¬ s.net.initSent)
    (hcount : (count s.net).errorPart = s.net.errorPart)
    (hdone : (done (count s.net)).errorPart = s.net.errorPart) :
    wp (qdeviceNetSend env msg count done create)
      (fun _ => ErrorInv NetState.isConnected QdeviceInstance.connectOutstanding) s := by
  have hinv {net : NetInstance} (hnet : net.errorPart = s.net.errorPart) (sblist : SendBufferList) :
      ErrorInv NetState.isConnected QdeviceInstance.connectOutstanding
        { s with net := { net with sendBufferList := sblist } } := by
    simp only [NetInstance.errorPart, Prod.mk.injEq] at hnet
    obtain ⟨hreason, hschedule, hconnect⟩ := hnet
    refine ⟨h.notifiers, fun hne => ?_, fun hnone => .inl ?_⟩
    · exact hschedule.trans (h.scheduled (hreason ▸ hne))
    · refine hschedule.trans ((h.alive (hconnect.symm.trans hnone)).resolve_right fun halive => ?_)
      exact hnotSent (halive.symm.imp And.left id)
  exact wp_qdeviceNetSend (fun sblist _ => hinv rfl sblist) (fun sblist _ => hinv hcount sblist)
    fun sblist _ _ _ _ _ => hinv hdone sblist

theorem ErrorInv.sendInit (hnotSent : ¬ s.net.initSent) : wp (qdeviceNetSendInit env)
    (fun _ => ErrorInv NetState.isConnected QdeviceInstance.connectOutstanding) s := by
  refine (wp_bind _).mpr ((wp_modify _).mpr ((wp_bind _).mpr (wp_get.mpr ?_)))
  have hcounted : ErrorInv NetState.isConnected QdeviceInstance.connectOutstanding
      { s with net := countMsg s.net } := .of_part (s := s) keepsOutstanding_outstanding rfl h
  exact hcounted.sendBefore hnotSent rfl rfl

end

/-- The heuristics are started whose result the connect callback waits for. -/
theorem heuristicsExecAfterConnect_spec {s : QdeviceInstance} (hnotifiers : s.hasNotifiers)
    (hscheduled : s.net.disconnectReason ≠ .undefined → s.net.scheduleDisconnect)
    (hstate : s.net.state = .waitingInitReply) :
    wp qdeviceNetHeuristicsExecAfterConnect
      (Ends (ErrorInv NetState.isConnected QdeviceInstance.connectOutstanding)
        QdeviceInstance.hasNotifiers) s := by
  refine (wp_bind _).mpr ((setNotifierActive_connect true hnotifiers).mono ?_)
  rintro active s₁ ⟨rfl, items, rfl, hmap, hmem⟩
  rw [if_neg (by decide)]
  refine (wp_bind _).mpr ((wp_bind _).mpr (wp_get.mpr ((wp_bind _).mpr ((wp_modify _).mpr ?_))))
  refine (wp_pure _).mpr ((wp_ite _).mpr ⟨fun _ => ?_, fun _ => ?_⟩)
  · exact (wp_bind _).mpr ((wp_modify _).mpr ((wp_pure _).mpr (ends_false hmap)))
  · refine (wp_pure _).mpr (ErrorInv.ends ⟨hmap, hscheduled, fun _ => .inr (.inr ⟨hstate, hmem, ?_⟩)⟩)
    exact Stable.heuristicsExec_waitingForResult _ _

/-- The calls in the main loop: the connect timer goes when the init reply has been accepted, and
    the heuristics have been started by then. -/
theorem errorInv_linkStable :
    LinkStable env (ErrorInv NetState.isConnected QdeviceInstance.connectOutstanding)
      QdeviceInstance.hasNotifiers where
  toNotificationStable := (errorInv_stable keepsOutstanding_outstanding).toNotificationStable
  base h := h.notifiers
  wireless := by
    intro s s' hwireless hs
    have hpart : s'.wireless.errorPart = s.wireless.errorPart := by rw [hwireless]
    exact .of_part (s := s) keepsOutstanding_outstanding hpart hs
  linklessBase := by
    intro s s' hlinkless hs
    have hlist : s'.linkless.notifierList = s.linkless.notifierList := by rw [hlinkless]
    exact (congrArg _ hlist).trans hs
  nodeListNotify := (errorInv_stable keepsOutstanding_outstanding).nodeListNotify
  client := by
    intro s hstate hs
    have hnotSent : ¬ s.net.initSent := not_initSent hstate (fun h => by cases h) fun h => by cases h
    have hsending : ErrorInv NetState.isConnected QdeviceInstance.connectOutstanding
        { s with net := { s.net with socket := some .plain, state := .sendingPreinitReply } } := by
      refine ⟨hs.notifiers, hs.scheduled, fun hnone => .inl ?_⟩
      exact (hs.alive hnone).resolve_right fun halive => hnotSent (halive.symm.imp And.left id)
    refine ⟨hs.notifiers, (hsending.sendBefore ?_ rfl rfl).mono fun _ _ => ErrorInv.ends⟩
    exact not_initSent rfl (fun h => by cases h) fun h => by cases h
  starttls := by
    intro s hstate hs
    have hnegotiated : ErrorInv NetState.isConnected QdeviceInstance.connectOutstanding
        { s with net := { s.net with negotiated := true } } :=
      .of_part (s := s) keepsOutstanding_outstanding rfl hs
    refine (hnegotiated.sendBefore ?_ rfl rfl).mono fun _ _ => ErrorInv.ends
    exact not_initSent hstate (fun h => by cases h) fun h => by cases h
  init hstate _ hs :=
    (hs.sendInit (not_initSent hstate (fun h => by cases h) fun h => by cases h)).mono
      fun _ _ => ErrorInv.ends
  writeFinished := by
    intro s hstate hs
    have hstarted : ErrorInv NetState.isConnected QdeviceInstance.connectOutstanding
        { s with net := { s.net with sslStarted := true } } :=
      .of_part (s := s) keepsOutstanding_outstanding rfl hs
    refine wp_writeFinished (fun _ hs => hs) hstate hs.notifiers
      ((hstarted.sendInit ?_).mono fun _ s₁ hs₁ => ⟨hs₁.notifiers, fun _ => ErrorInv.ends ?_⟩)
    · exact not_initSent hstate (fun h => by cases h) fun h => by cases h
    · exact .of_part (s := s₁) keepsOutstanding_outstanding rfl hs₁
  setMaxSizes requestSize replySize s _ hs :=
    .of_part (s := s) keepsOutstanding_outstanding rfl hs
  initReplyAccepted := by
    intro s hstate hs
    refine (wp_bind _).mpr ((wp_modify _).mpr ((wp_bind _).mpr ?_))
    refine wp_echoRequestTimerSchedule ?_ ((wp_pure _).mpr (ends_false hs.notifiers))
    rw [if_neg (by decide)]
    -- The heuristics are started before the connect timer goes.
    exact heuristicsExecAfterConnect_spec hs.notifiers hs.scheduled hstate
  echoTimer isSet s _ hs := .of_part (s := s) keepsOutstanding_outstanding rfl hs
  echoRequest := by
    intro s _ hs
    exact wp_qdeviceNetSend (fun _ _ => .of_part (s := s) keepsOutstanding_outstanding rfl hs)
      (fun _ _ => .of_part (s := s) keepsOutstanding_outstanding rfl hs)
      fun _ _ _ _ _ _ => .of_part (s := s) keepsOutstanding_outstanding rfl hs
  messageVote vote s _ hs := by
    refine preserves_castVoteTimerUpdate ?_ (ErrorInv.disconnect _) vote _ s hs
    intro s s' hvoteless
    have hpart : s'.voteless.errorPart = s.voteless.errorPart := by rw [hvoteless]
    exact ErrorInv.of_part keepsOutstanding_outstanding hpart
  voteInfoReply msgSeqNumber s _ hs :=
    wp_qdeviceNetSend (fun _ _ => .of_part (s := s) keepsOutstanding_outstanding rfl hs)
      (fun _ _ => .of_part (s := s) keepsOutstanding_outstanding rfl hs)
      fun _ _ _ _ _ _ => .of_part (s := s) keepsOutstanding_outstanding rfl hs
  record := by
    intro s entry _ hs
    exact .of_part (s := s) keepsOutstanding_outstanding rfl hs
  written := by
    intro s entry bytes _ hs
    exact ⟨.of_part (s := s) keepsOutstanding_outstanding rfl hs,
      .of_part (s := s) keepsOutstanding_outstanding rfl hs⟩
  connectTimeout s hs := (wp_bind _).mpr ((wp_modify _).mpr ((wp_modify _).mpr
    ⟨hs.notifiers, fun _ => rfl, fun _ => .inl rfl⟩))

/-! ### Runs -/

/-- The states in which no connection is in use, or the instance is connected. -/
def NetState.isIdle (state : NetState) : Prop :=
  state = .waitingConnect ∨ state = .waitingVotequorumCmapEvents

/-- The invariant, by where the main loop is. -/
structure ErrorRun (s : QdeviceInstance) : Prop where
  notifiers : s.notifierList.map HeuristicsNotifierItem.callback = [.votequorum, .regular, .connect]
  idle : s.loop = .starting ∨ s.loop = .restarting →
    ErrorInv NetState.isIdle QdeviceInstance.connectOutstanding s
  polling : s.loop = .polling →
    ErrorInv NetState.isConnected QdeviceInstance.connectOutstanding s

/-- Before the main loop there is no connection, and only the notifications come. -/
theorem ErrorInv.runStarting {s : QdeviceInstance}
    (h : ErrorInv NetState.isIdle QdeviceInstance.connectOutstanding s) {event : NetEvent}
    (hloop : s.loop = .starting) (henabled : event.enabled s)
    (hsends : ConnectSends s (env, event)) (hpre : event ≠ .prePollLoop) :
    wp (event.run env) (fun _ => ErrorInv NetState.isIdle QdeviceInstance.connectOutstanding) s := by
  have hstable : MembershipStable env
      (ErrorInv NetState.isIdle QdeviceInstance.connectOutstanding) :=
    errorInv_stable keepsOutstanding_outstanding
  by_cases hnotification : event.isNotification = true
  · exact hstable.run hnotification s h
  cases event with
  | prePollLoop => exact absurd rfl hpre
  | nodeListNotify ringId nodeList =>
    exact (hstable.nodeListNotify ringId nodeList).bind (fun _ => preserves_pure _) s h
  | heuristicsRead read => exact h.heuristicsRead (.inr rfl) hsends
  | castVoteTimer | heuristicsTimer | heuristicsWrite _ | quorumNotify _ _ | expectedVotesNotify
  | cmapReload _ _ | closed _ => exact absurd rfl hnotification
  | postPollLoop | checkScheduleDisconnect | socketRead _ _ | socketWrite _ | socketErr
  | nonBlockingClient _ | connectTimeout | echoRequestTimer =>
    simp [NetEvent.enabled, hloop] at henabled

/-- Every call in the main loop keeps the invariant or ends the loop. -/
theorem ErrorInv.runPolling {s : QdeviceInstance}
    (h : ErrorInv NetState.isConnected QdeviceInstance.connectOutstanding s) {event : NetEvent}
    (hloop : s.loop = .polling) (henabled : event.enabled s)
    (hsends : ConnectSends s (env, event)) : wp (event.run env) ErrorPost s := by
  have hlink : LinkStable env (ErrorInv NetState.isConnected QdeviceInstance.connectOutstanding)
      QdeviceInstance.hasNotifiers := errorInv_linkStable
  refine (hlink.runPolling h hloop henabled fun read hread => ?_).mono fun _ _ hs' => ⟨hs'.1, hs'.2⟩
  subst hread
  have hok : NetState.isConnected .waitingVotequorumCmapEvents := rfl
  exact h.heuristicsRead hok hsends

/-- The connect timer is set before the loop begins. -/
theorem ErrorInv.prePollLoop {s : QdeviceInstance}
    (h : ErrorInv NetState.isIdle QdeviceInstance.connectOutstanding s) :
    wp (qdeviceModelNetPrePollLoop env) ErrorPost s := by
  refine (wp_bind _).mpr ((wp_modify _).mpr ((wp_ite _).mpr ⟨fun _ => ?_, fun htimer => ?_⟩))
  · exact (wp_pure _).mpr ⟨h.notifiers, fun hgo => by cases hgo⟩
  · have hset : env.timerListAdd .connect = true := Bool.eq_true_of_not_eq_false htimer
    have hpost {goOn : Bool} {destroyed : Bool} : ErrorPost goOn { s with net := { s.net with
        state := .waitingConnect
        socket := none
        connectTimer := env.timerListAdd .connect
        nonBlockingClientDestroyed := destroyed } } :=
      ⟨h.notifiers, fun _ => ⟨h.notifiers, h.scheduled, fun hnone => by
        rw [show env.timerListAdd .connect = false from hnone] at hset
        cases hset⟩⟩
    refine (wp_bind _).mpr ((wp_modify _).mpr ((wp_bind _).mpr (wp_get.mpr ((wp_ite _).mpr
      ⟨fun _ => (wp_pure _).mpr hpost, fun _ => (wp_pure _).mpr hpost⟩))))

/-- The instance is clean after the loop. -/
theorem postPollLoop_errorInv {s : QdeviceInstance}
    (h : s.notifierList.map HeuristicsNotifierItem.callback = [.votequorum, .regular, .connect]) :
    wp (qdeviceModelNetPostPollLoop env)
      (fun _ => ErrorInv NetState.isIdle QdeviceInstance.connectOutstanding) s := by
  have hupdate (vote : TlvVote) : Preserves (fun s : QdeviceInstance =>
      s.notifierList.map HeuristicsNotifierItem.callback = [.votequorum, .regular, .connect])
      (qdeviceNetCastVoteTimerUpdate env vote none) := by
    refine preserves_castVoteTimerUpdate ?_ (preserves_modifyNet fun _ hs => hs) vote none
    intro s s' hvoteless hs
    have hlist : s'.voteless.notifierList = s.voteless.notifierList := by rw [hvoteless]
    exact (congrArg _ hlist).trans hs
  exact wp_postPollLoop (fun _ => hupdate _ _ h) fun goOn s₁ hs₁ =>
    ⟨hs₁, fun hne => absurd rfl hne, fun _ => .inr (.inl (.inl rfl))⟩

theorem ErrorInv.moved {ok : NetState → Prop} {s : QdeviceInstance} (loop : LoopPhase)
    (h : ErrorInv ok QdeviceInstance.connectOutstanding s) :
    ErrorInv ok QdeviceInstance.connectOutstanding { s with loop := loop } :=
  .of_part (s := s) keepsOutstanding_outstanding rfl h

theorem ErrorRun.step {s s' : QdeviceInstance} {event : NetEnv × NetEvent} (h : ErrorRun s)
    (hsends : ConnectSends s event) (hstep : netStep s event = some s') : ErrorRun s' := by
  obtain ⟨hnotifiers, hidle, hpolling⟩ := netStep_keeps (J := QdeviceInstance.hasNotifiers)
    ErrorInv.notifiers (fun loop => ⟨ErrorInv.moved loop, ErrorInv.moved loop, id⟩) h.notifiers
    h.idle h.polling (fun hloop hne henabled hs => hs.runStarting hloop henabled hsends hne)
    (fun hloop henabled hs => (hs.runPolling hloop henabled hsends).mono fun _ _ hs' =>
      ⟨hs'.notifiers, hs'.inv⟩)
    (fun hs => hs.prePollLoop.mono fun _ _ hs' => ⟨hs'.notifiers, hs'.inv⟩)
    (fun _ _ hs => postPollLoop_errorInv hs) hstep
  exact ⟨hnotifiers, hidle, hpolling⟩

/-- In every run in which the connect callback can send its messages, each error that is recorded
    is followed by a disconnect, and no instance waits for something that does not come. -/
theorem errors_lead_to_disconnect (start : QdeviceStart) :
    ∀ s, (netMachine start).Reach ConnectSends s → ErrorsDisconnect s := by
  intro s hs
  -- At the start there is no error, and nothing to end.
  have hinv : ErrorRun s := by
    refine hs.invariant ErrorRun ?_ fun _ h hsends hstep => h.step hsends hstep
    exact ⟨rfl, fun _ => ⟨rfl, fun hne => absurd rfl hne, fun _ => .inr (.inl (.inl rfl))⟩,
      fun h => by cases h⟩
  refine ⟨fun hruns => ?_, fun hloop hstate htimer => ?_⟩
  · simp only [QdeviceInstance.runs, decide_eq_true_eq] at hruns
    rcases hruns with hloop | hloop
    · exact (hinv.idle (.inl hloop)).scheduled
    · exact (hinv.polling hloop).scheduled
  · refine ((hinv.polling hloop).alive htimer).imp_right fun halive => ?_
    refine (halive.resolve_left fun hconnected => ?_).2
    rw [show s.net.state = _ from hconnected] at hstate
    cases hstate

/-- The init reply is accepted, and the lists are sent. -/
theorem errors_lead_to_disconnect_run :
    ∃ s, (netMachine exampleStart).Reach ConnectSends s ∧
      s.net.state = .waitingVotequorumCmapEvents ∧ ErrorsDisconnect s := by
  have hrun : ((netMachine exampleStart).execWhile (fun s event => decide (ConnectSends s event))
      exampleStart.init (unfailing (exampleConnect ++ initReplyArrives 2 32768 32768 ++
        [resultArrives 2 .disabled]))).any
      (fun s => s.net.state = .waitingVotequorumCmapEvents) = true := by decide +kernel
  obtain ⟨s, hs, hstate⟩ := (Option.any_eq_true _ _).mp hrun
  have hreach : (netMachine exampleStart).Reach ConnectSends s :=
    .execWhile (fun _ _ => of_decide_eq_true) .init hs
  exact ⟨s, hreach, of_decide_eq_true hstate, errors_lead_to_disconnect exampleStart s hreach⟩

/-- With two send buffers, which is as few as there can be, the third list cannot be sent.  The
    instance stays connected, and nothing is scheduled that could change that. -/
theorem connect_error_not_scheduled :
    ∃ start : QdeviceStart, start.net.advancedSettings.netMaxSendBuffers = 2 ∧
      ∃ s, (netMachine start).Reach (fun _ _ => True) s ∧
        s.loop = .polling ∧ s.net.disconnectReason = .cantAllocateMsgBuffer ∧
        s.net.state = .waitingInitReply ∧ s.net.connectTimer = false ∧
        s.net.scheduleDisconnect = false ∧ s.heuristicsInstance.waitingForResult = false ∧
        ¬ ErrorsDisconnect s := by
  let start : QdeviceStart := { exampleStart with net := { exampleStart.net with
    advancedSettings := { netMaxSendBuffers := 2 } } }
  have hrun : ((netMachine start).exec start.init (unfailing (exampleConnect ++
      initReplyArrives 2 32768 32768 ++ [resultArrives 2 .disabled]))).any (fun s =>
        s.loop = .polling ∧ s.net.disconnectReason = .cantAllocateMsgBuffer ∧
        s.net.state = .waitingInitReply ∧ s.net.connectTimer = false ∧
        s.net.scheduleDisconnect = false ∧ s.heuristicsInstance.waitingForResult = false) = true := by
    decide +kernel
  obtain ⟨s, hs, hlook⟩ := (Option.any_eq_true _ _).mp hrun
  obtain ⟨hloop, hreason, hstate, htimer, hschedule, hwaiting⟩ := of_decide_eq_true hlook
  refine ⟨start, rfl, s, .exec (fun _ _ => trivial) .init hs, hloop, hreason, hstate, htimer,
    hschedule, hwaiting, fun h => ?_⟩
  have hdisconnect := h.recorded (by simp [QdeviceInstance.runs, hloop]) (by simp [hreason])
  rw [hschedule] at hdisconnect
  cases hdisconnect

end Qdevice.Net
