import Qdevice.Spec.IpcInv

/-! # Runs of the command server

Every event keeps the invariant, and so every run of the daemon does: whatever clients connect, in
whatever pieces they send and take bytes, and whatever the daemon does meanwhile. -/

namespace Qdevice

variable {W : Type} {texts : IpcTexts W} {daemon : IpcDaemon}
  {maxClients maxReceiveSize maxSendSize : Nat} {state : IpcState W}

/-! ### One event -/

/-- A client that is read from has not been answered. -/
theorem IpcWire.Reading.not_shutDown {wire : IpcWire W} {client : UnixSocketClient}
    (h : wire.Reading maxReceiveSize maxSendSize client) : ¬ wire.ShutDown daemon := by
  rintro ⟨-, -, -, hasked⟩
  exact hasked h.asked

/-- A client that is written to has not got all of its answer. -/
theorem IpcWire.Writing.not_shutDown {wire : IpcWire W} {client : UnixSocketClient}
    (h : wire.Writing texts daemon maxSendSize client) : ¬ wire.ShutDown daemon := by
  rintro ⟨-, hcommand, hsent, -⟩
  obtain ⟨inst, -, hreply⟩ := h.asked
  unfold IpcWire.reply at hreply
  rw [hcommand] at hreply
  have hdata : client.sendBuffer.data = ipcOk := ipcOkReply_nil hreply
  have hlength := congrArg List.length hsent
  have hleft := h.left
  rw [h.sent, List.length_take, ← hdata] at hlength
  omega

namespace IpcState.Inv

variable (h : state.Inv texts daemon maxClients maxReceiveSize maxSendSize)
include h

/-- The client whose callback runs. -/
theorem eq_of_address {client other : UnixSocketClient} (hclient : client ∈ state.ipc.clients)
    (hother : other ∈ state.ipc.clients) (haddress : other.address = client.address) :
    other = client :=
  List.inj_on_of_nodup_map h.addresses hother hclient haddress

/-- `set_events`. -/
theorem setEventsCb {entry : IpcPollEntry} {client : UnixSocketClient}
    (hentry : entry ∈ state.entries) (hclient : client ∈ state.ipc.clients)
    (haddress : client.address = entry.client) (hsocket : client.socket = entry.fd) :
    (state.setEventsCb entry client).Inv texts daemon maxClients maxReceiveSize maxSendSize := by
  unfold IpcState.setEventsCb
  split
  · exact h.disconnect hclient hsocket
  · refine h.setEntry hentry ?_ ?_
    · rfl
    · intro other hother hpointer
      rw [h.eq_of_address hclient hother (hpointer.trans haddress.symm)]
      intro _
      exact ⟨id, id⟩

/-- A descriptor is not reported again before the next round. -/
theorem clearEntry {entry entry' : IpcPollEntry} (hentry : entry ∈ state.entries)
    (hkey : entry'.key = entry.key) (hpollin : entry'.pollin = true → entry.pollin = true)
    (hpollout : entry'.pollout = true → entry.pollout = true) :
    (state.setEntry entry').Inv texts daemon maxClients maxReceiveSize maxSendSize := by
  refine h.setEntry hentry hkey ?_
  intro client hclient hpointer hstays
  obtain ⟨hread, hwrite⟩ := h.flagged entry hentry client hclient hpointer hstays
  exact ⟨fun hin => hread (hpollin hin), fun hout => hwrite (hpollout hout)⟩

/-- The entry of the client is now the one that was written. -/
theorem eq_of_setEntry {entry entry' other : IpcPollEntry} (hentry : entry ∈ state.entries)
    (hother : other ∈ (state.setEntry entry').entries) (hkey : entry'.key = entry.key)
    (hpointer : other.client = entry.client) : other = entry' := by
  obtain ⟨hfd, hclient⟩ := Prod.mk.inj hkey
  obtain ⟨other', hother', rfl⟩ := List.mem_map.mp hother
  by_cases hsame : other'.fd = entry'.fd
  · exact if_pos hsame
  · rw [if_neg hsame] at hpointer
    rw [h.eq_of_client hother' hentry hpointer] at hsame
    exact absurd hfd.symm hsame

/-- The callback for reading. -/
theorem readCb {entry : IpcPollEntry} {client : UnixSocketClient} {readed : RecvResult}
    (hentry : entry ∈ state.entries) (hclient : client ∈ state.ipc.clients)
    (haddress : client.address = entry.client) (hpollin : entry.pollin = true) :
    (state.readCb texts daemon entry client readed).Inv texts daemon maxClients maxReceiveSize
      maxSendSize := by
  have hflagged := h.flagged entry hentry client hclient haddress
  have h₁ : (state.setEntry { entry with pollin := false }).Inv texts daemon maxClients
      maxReceiveSize maxSendSize := by
    refine h.clearEntry hentry ?_ ?_ id
    · rfl
    · intro hno
      cases hno
  unfold IpcState.readCb
  by_cases hdisconnect : client.scheduleDisconnect = true
  · simp only [if_pos hdisconnect]
    exact h₁
  rw [Bool.not_eq_true] at hdisconnect
  -- `POLLIN` is asked for only while there is no line.
  have hreading : (state.wire client.address).Reading maxReceiveSize maxSendSize client :=
    (h.phases client hclient).reading_of ((hflagged hdisconnect).1 hpollin) hdisconnect
  simp only [hdisconnect, Bool.false_eq_true, if_false]
  refine h₁.setClient hclient _ (ipcIoRead_key _ _ _) (hreading.ioRead state.inst readed) ?_ ?_
  · intro other hother hpointer _
    rw [h.eq_of_setEntry hentry hother rfl (hpointer.trans haddress)]
    refine ⟨fun hno => absurd hno Bool.false_ne_true, fun hpollout => ?_⟩
    -- It was not asked for writing, because nothing was to be written.
    have hwrite := (hflagged hdisconnect).2 hpollout
    rw [hreading.writingBuffer] at hwrite
    cases hwrite
  · intro hdone
    exact absurd hdone hreading.not_shutDown

/-- The callback for writing. -/
theorem writeCb {entry : IpcPollEntry} {client : UnixSocketClient} {sent : SendResult}
    (hentry : entry ∈ state.entries) (hclient : client ∈ state.ipc.clients)
    (haddress : client.address = entry.client) (hpollout : entry.pollout = true)
    (hsent : sent.sent ≤ (unixSocketClientToSend client).length) :
    (state.writeCb entry client sent).Inv texts daemon maxClients maxReceiveSize maxSendSize := by
  have hflagged := h.flagged entry hentry client hclient haddress
  have h₁ : (state.setEntry { entry with pollout := false }).Inv texts daemon maxClients
      maxReceiveSize maxSendSize := by
    refine h.clearEntry hentry ?_ id ?_
    · rfl
    · intro hno
      cases hno
  unfold IpcState.writeCb
  by_cases hdisconnect : client.scheduleDisconnect = true
  · simp only [if_pos hdisconnect]
    exact h₁
  rw [Bool.not_eq_true] at hdisconnect
  -- `POLLOUT` is asked for only while some of the answer is left.
  have hwriting : (state.wire client.address).Writing texts daemon maxSendSize client :=
    (h.phases client hclient).writing_of ((hflagged hdisconnect).2 hpollout) hdisconnect
  simp only [hdisconnect, Bool.false_eq_true, if_false]
  obtain ⟨hphase, hclose⟩ := hwriting.ioWrite maxReceiveSize sent hsent
  have h₂ := h₁.setClient hclient _ (ipcIoWrite_key _ _) hphase (by
    intro other hother hpointer _
    rw [h.eq_of_setEntry hentry hother rfl (hpointer.trans haddress)]
    refine ⟨fun hpollin => ?_, fun hno => absurd hno Bool.false_ne_true⟩
    -- Nor was it asked for reading, because the line has been read.
    have hread := (hflagged hdisconnect).1 hpollin
    rw [hwriting.readingLine] at hread
    cases hread) fun hdone => absurd hdone hwriting.not_shutDown
  by_cases hshutdown : (ipcIoWrite client sent).2 = true
  · simp only [hshutdown, if_true]
    -- The client that asked for the shutdown has all of its answer, so the socket may be closed.
    obtain ⟨hcommand, hall⟩ := hclose hshutdown
    refine h₂.close (Or.inr ⟨client.address, ?_⟩)
    dsimp only
    rw [Function.update_self]
    obtain ⟨inst, hasked, -⟩ := hwriting.asked
    refine ⟨hwriting.line, hcommand, hall, ?_⟩
    dsimp only
    intro hnone
    change (state.wire client.address).asked = none at hnone
    rw [hasked] at hnone
    cases hnone
  · rw [Bool.not_eq_true] at hshutdown
    simp only [hshutdown, Bool.false_eq_true, if_false]
    exact h₂

/-- The callback for errors. -/
theorem errCb {client : UnixSocketClient} (hclient : client ∈ state.ipc.clients) :
    (state.errCb client).Inv texts daemon maxClients maxReceiveSize maxSendSize := by
  have hset := h.setClient hclient { client with scheduleDisconnect := true } rfl
    (h.phases client hclient).disconnect
    (fun other _ _ hstays => by cases hstays) id
  rw [Function.update_eq_self] at hset
  exact hset

/-- One event. -/
theorem step {state' : IpcState W} {event : IpcEvent W} (hok : IpcOk state event)
    (hstep : state.step texts daemon event = some state') :
    state'.Inv texts daemon maxClients maxReceiveSize maxSendSize := by
  cases event with
  | accept sock =>
    cases hstep
    exact h.accept hok
  | setEvents fd =>
    obtain ⟨p, hpolled, rfl⟩ := Option.map_eq_some_iff.mp hstep
    obtain ⟨hentry, hclient, -, haddress, hsocket⟩ := h.of_polled hpolled
    exact h.setEventsCb hentry hclient haddress hsocket
  | read fd readed =>
    obtain ⟨p, hpolled, rfl⟩ := Option.map_eq_some_iff.mp hstep
    obtain ⟨hentry, hclient, -, haddress, -⟩ := h.of_polled hpolled
    exact h.readCb hentry hclient haddress (hok p hpolled).1
  | write fd sent =>
    obtain ⟨p, hpolled, rfl⟩ := Option.map_eq_some_iff.mp hstep
    obtain ⟨hentry, hclient, -, haddress, -⟩ := h.of_polled hpolled
    exact h.writeCb hentry hclient haddress (hok p hpolled).1 (hok p hpolled).2
  | err fd =>
    obtain ⟨p, hpolled, rfl⟩ := Option.map_eq_some_iff.mp hstep
    obtain ⟨-, hclient, -⟩ := h.of_polled hpolled
    exact h.errCb hclient
  | signal =>
    cases hstep
    exact h.close (Or.inl rfl)
  | other inst =>
    cases hstep
    exact { h with closed := h.closed }

end IpcState.Inv

/-! ### Runs -/

/-- The server at the start. -/
theorem ipcMachine_inv_init (listening : Nat) (inst : W) :
    (ipcMachine texts daemon listening maxClients maxReceiveSize maxSendSize inst).init.Inv
      texts daemon maxClients maxReceiveSize maxSendSize where
  clientLimit := rfl
  receiveSize := rfl
  sendSize := rfl
  keys := rfl
  sockets := List.nodup_nil
  addresses := List.nodup_nil
  old := fun client hclient => by cases hclient
  few := fun _ => Nat.zero_le _
  phases := fun client hclient => by cases hclient
  flagged := fun entry hentry => by cases hentry
  served := fun address => ⟨fun _ => rfl, fun inst' hinst' => by cases hinst'⟩
  fresh := fun _ _ => rfl
  closed := fun hnone => by cases hnone

variable {listening : Nat} {inst : W}

theorem ipcMachine_inv
    (h : (ipcMachine texts daemon listening maxClients maxReceiveSize maxSendSize inst).Reach
      IpcOk state) : state.Inv texts daemon maxClients maxReceiveSize maxSendSize :=
  Runs.Machine.Reach.invariant (fun state =>
    state.Inv texts daemon maxClients maxReceiveSize maxSendSize)
    (ipcMachine_inv_init listening inst) (fun _ hinv hok hstep => hinv.step hok hstep) h

/-- **A client gets one answer, to its first line**: in every run nothing is sent to a client before
    it has sent a whole line, and what is sent is the beginning of the answer to the first line that
    it sent, from the daemon as it was when the line was complete.  As long as it is not about to be
    disconnected, the daemon is reading its line or has some of the answer left to write. -/
theorem ipc_one_reply
    (h : (ipcMachine texts daemon listening maxClients maxReceiveSize maxSendSize inst).Reach
      IpcOk state) (address : Nat) :
    (10 ∉ (state.wire address).received → (state.wire address).sent = []) ∧
    ((state.wire address).sent = [] ∨ ∃ inst' reply, (state.wire address).asked = some inst' ∧
      (IpcCommand.ofLine daemon (ipcLine (state.wire address).received)).reply texts daemon
        maxSendSize inst' = some reply ∧ (state.wire address).sent <+: reply) ∧
    ∀ client ∈ state.ipc.clients, client.address = address → client.scheduleDisconnect = false →
      (client.readingLine = true ∧ client.writingBuffer = false ∧
        10 ∉ (state.wire address).received ∧
        (state.wire address).received.length ≤ maxReceiveSize) ∨
      (client.readingLine = false ∧ client.writingBuffer = true ∧ ∃ inst' rest,
        (state.wire address).asked = some inst' ∧ rest ≠ [] ∧
        (IpcCommand.ofLine daemon (ipcLine (state.wire address).received)).reply texts daemon
          maxSendSize inst' = some ((state.wire address).sent ++ rest)) := by
  have hinv := ipcMachine_inv h
  have hserved := hinv.served address
  refine ⟨?_, ?_, ?_⟩
  · intro hline
    cases hasked : (state.wire address).asked with
    | none => exact hserved.unasked hasked
    | some inst' => exact absurd (hserved.asked inst' hasked).1 hline
  · -- Without an answer nothing is sent: no line has come, or not even an error has room.
    cases hasked : (state.wire address).asked with
    | none => exact Or.inl (hserved.unasked hasked)
    | some inst' =>
      have hprefix := (hserved.asked inst' hasked).2
      unfold IpcWire.reply IpcWire.command at hprefix
      cases hreply : (IpcCommand.ofLine daemon (ipcLine (state.wire address).received)).reply texts
          daemon maxSendSize inst' with
      | none =>
        rw [hreply] at hprefix
        exact Or.inl (List.prefix_nil.mp hprefix)
      | some reply =>
        rw [hreply] at hprefix
        exact Or.inr ⟨inst', reply, rfl, hreply, hprefix⟩
  · intro client hclient haddress hstays
    -- The two phases in which a client is not about to be disconnected.
    have hphase := hinv.phases client hclient
    rw [haddress] at hphase
    cases hphase with
    | reading hreading =>
      exact Or.inl ⟨hreading.readingLine, hreading.writingBuffer, hreading.noLine, hreading.room⟩
    | writing hwriting =>
      obtain ⟨inst', hasked, hreply⟩ := hwriting.asked
      refine Or.inr ⟨hwriting.readingLine, hwriting.writingBuffer, inst',
        client.sendBuffer.data.drop client.msgAlreadySentBytes, hasked, ?_, ?_⟩
      · have hleft := hwriting.left
        intro hnil
        rw [List.drop_eq_nil_iff] at hnil
        omega
      · rw [hwriting.sent, List.take_append_drop]
        exact hreply
    | ended hdisconnect =>
      rw [hdisconnect] at hstays
      cases hstays

/-- **Only an answered client shuts the daemon down**: in every run, if the listening socket is
    closed, a signal handler has closed it, or some client sent a first line that asks for a shutdown
    and was sent all of the answer, which is `OK`. -/
theorem ipc_shutdown_answered
    (h : (ipcMachine texts daemon listening maxClients maxReceiveSize maxSendSize inst).Reach
      IpcOk state) (hclosed : unixSocketIpcIsClosed state.ipc = true) :
    state.signalled = true ∨ ∃ address, 10 ∈ (state.wire address).received ∧
      IpcCommand.ofLine daemon (ipcLine (state.wire address).received) = .shutdown ∧
      (state.wire address).sent = ipcOk := by
  have hinv := ipcMachine_inv h
  refine (hinv.closed (Option.isNone_iff_eq_none.mp hclosed)).imp_right ?_
  rintro ⟨address, hline, hcommand, hsent, -⟩
  exact ⟨address, hline, hcommand, hsent⟩

/-- **Clients and entries of the poll loop go together**: in every run each entry leads to a client
    that is there, with the descriptor of the entry, and each client has an entry, and only one.
    A client that is not about to be disconnected waits for its line or for its answer to be taken.
    There are no more clients than allowed. -/
theorem ipc_clients_polled
    (h : (ipcMachine texts daemon listening maxClients maxReceiveSize maxSendSize inst).Reach
      IpcOk state) :
    (∀ entry ∈ state.entries, ∃ client ∈ state.ipc.clients,
      state.polled entry.fd = some (entry, client) ∧ client.socket = entry.fd) ∧
    (∀ client ∈ state.ipc.clients, ∃! entry, entry ∈ state.entries ∧
      entry.client = client.address) ∧
    (∀ client ∈ state.ipc.clients, client.scheduleDisconnect = false →
      client.readingLine = !client.writingBuffer) ∧
    (maxClients ≠ 0 → state.ipc.clients.length ≤ maxClients) := by
  have hinv := ipcMachine_inv h
  refine ⟨?_, ?_, ?_, ?_⟩
  · intro entry hentry
    obtain ⟨client, hpolled⟩ := hinv.polled_ne_none hentry
    obtain ⟨-, hclient, -, -, hsocket⟩ := hinv.of_polled hpolled
    exact ⟨client, hclient, hpolled, hsocket⟩
  · intro client hclient
    have hkey : client.key ∈ state.entries.map IpcPollEntry.key := by
      rw [hinv.keys]
      exact List.mem_map_of_mem hclient
    obtain ⟨entry, hentry, heq⟩ := List.mem_map.mp hkey
    have hpointer : entry.client = client.address := (Prod.mk.inj heq).2
    refine ⟨entry, ⟨hentry, hpointer⟩, ?_⟩
    rintro other ⟨hother, hother'⟩
    exact hinv.eq_of_client hother hentry (hother'.trans hpointer.symm)
  · intro client hclient hstays
    cases hinv.phases client hclient with
    | reading hreading => rw [hreading.readingLine, hreading.writingBuffer, Bool.not_false]
    | writing hwriting => rw [hwriting.readingLine, hwriting.writingBuffer, Bool.not_true]
    | ended hdisconnect =>
      rw [hdisconnect] at hstays
      cases hstays
  · intro hlimit
    have hfew := hinv.few
    rw [hinv.clientLimit] at hfew
    exact hfew hlimit

instance (state : IpcState W) (event : IpcEvent W) : Decidable (IpcOk state event) :=
  match event with
  | .accept _ => Option.decidableForallMem _
  | .read _ _ | .write _ _ => Option.decidableForallMem _
  | .setEvents _ | .err _ | .signal | .other _ => inferInstanceAs (Decidable True)

/-- A daemon that prints `up`. -/
def ipcUp : IpcTexts Unit where
  status _ _ := [[117, 112], [10]]
  list _ _ _ := []

/-- The first client asks for the status, in two pieces and with something behind the line, and the
    second one for a shutdown, in capitals. -/
def ipcTwoClients : List (IpcEvent Unit) :=
  [.accept (some 5), .accept (some 6), .setEvents 5, .setEvents 6,
    .read 5 (.bytes (ipcStatus.take 4)), .read 6 (.bytes (ipcShutdown.map (· - 32) ++ [10])),
    .setEvents 5, .setEvents 6, .read 5 (.bytes (ipcStatus.drop 4 ++ [32, 13, 10, 99])),
    .write 6 (.bytes 3), .setEvents 5, .setEvents 6, .write 5 (.bytes 4)]

/-- The second client has shut the daemon down and is gone, the first one has some of its answer. -/
theorem ipcTwoClients_reach :
    ∃ state, (ipcMachine ipcUp .qnetd 3 2 64 64 ()).Reach IpcOk state ∧
      (state.wire 0).sent = [79, 75, 10, 117] ∧ unixSocketIpcIsClosed state.ipc = true ∧
      state.signalled = false ∧ state.ipc.clients.length = 1 := by
  have hrun : ((ipcMachine ipcUp .qnetd 3 2 64 64 ()).execWhile (fun s e => decide (IpcOk s e))
      (ipcMachine ipcUp .qnetd 3 2 64 64 ()).init ipcTwoClients).any fun state =>
        decide ((state.wire 0).sent = [79, 75, 10, 117]) && (unixSocketIpcIsClosed state.ipc &&
          (state.signalled == false && state.ipc.clients.length == 1)) := by
    decide +kernel
  simp only [Option.any_eq_true, Bool.and_eq_true, decide_eq_true_eq, beq_iff_eq] at hrun
  obtain ⟨state, hs, hdone⟩ := hrun
  exact ⟨state, Runs.Machine.Reach.execWhile (fun s e h => of_decide_eq_true h) .init hs, hdone⟩

theorem ipc_one_reply_two :
    ∃ state, (ipcMachine ipcUp .qnetd 3 2 64 64 ()).Reach IpcOk state ∧
      (state.wire 0).sent = [79, 75, 10, 117] ∧ ∃ reply,
        (IpcCommand.ofLine .qnetd (ipcLine (state.wire 0).received)).reply ipcUp .qnetd 64 () =
          some reply ∧ (state.wire 0).sent <+: reply := by
  obtain ⟨state, hreach, hsent, -⟩ := ipcTwoClients_reach
  refine ⟨state, hreach, hsent, ?_⟩
  rcases (ipc_one_reply hreach 0).2.1 with hnone | ⟨inst, reply, -, hreply, hprefix⟩
  · rw [hsent] at hnone
    cases hnone
  · exact ⟨reply, hreply, hprefix⟩

theorem ipc_shutdown_answered_two :
    ∃ state, (ipcMachine ipcUp .qnetd 3 2 64 64 ()).Reach IpcOk state ∧
      unixSocketIpcIsClosed state.ipc = true ∧ ∃ address, (state.wire address).sent = ipcOk := by
  obtain ⟨state, hreach, -, hclosed, hsignal, -⟩ := ipcTwoClients_reach
  refine ⟨state, hreach, hclosed, ?_⟩
  rcases ipc_shutdown_answered hreach hclosed with hsignalled | ⟨address, -, -, hsent⟩
  · rw [hsignal] at hsignalled
    cases hsignalled
  · exact ⟨address, hsent⟩

theorem ipc_clients_polled_two :
    ∃ state, (ipcMachine ipcUp .qnetd 3 2 64 64 ()).Reach IpcOk state ∧
      ∃ client ∈ state.ipc.clients, ∃! entry, entry ∈ state.entries ∧
        entry.client = client.address := by
  obtain ⟨state, hreach, -, -, -, hlength⟩ := ipcTwoClients_reach
  obtain ⟨client, hclients⟩ := List.length_eq_one_iff.mp hlength
  have hclient : client ∈ state.ipc.clients := by
    rw [hclients]
    exact List.mem_singleton_self client
  exact ⟨state, hreach, client, hclient, (ipc_clients_polled hreach).2.1 client hclient⟩

end Qdevice
