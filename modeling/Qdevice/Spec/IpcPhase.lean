import Qdevice.Spec.IpcReply

/-! # What one client goes through

A client is read from until there is a line, then the answer is written to it, and then it is
disconnected.  `IpcPhase` ties the fields of a client to what went over its socket; a read and a
write keep it. -/

namespace Qdevice

variable {W : Type} (texts : IpcTexts W) (daemon : IpcDaemon) (maxReceiveSize maxSendSize : Nat)

/-! ### Which client -/

/-- What makes a client out. -/
def UnixSocketClient.key (client : UnixSocketClient) : Nat × Nat := (client.socket, client.address)

@[simp] theorem ipcSendError_key (client : UnixSocketClient) (text : List UInt8) :
    (orDisconnect (ipcSendError client text)).key = client.key := by
  unfold orDisconnect ipcSendError
  split <;> rfl

@[simp] theorem ipcSendBuffer_key (client : UnixSocketClient) :
    (orDisconnect (ipcSendBuffer client)).key = client.key := by
  unfold ipcSendBuffer
  split
  · exact ipcSendError_key _ _
  · rfl

@[simp] theorem ipcSendTexts_key (client : UnixSocketClient) (pieces : List (List UInt8))
    (failure : List UInt8) : (ipcSendTexts client pieces failure).key = client.key := by
  unfold ipcSendTexts
  split
  · exact ipcSendError_key _ _
  · exact ipcSendBuffer_key _

variable {texts daemon} in
@[simp] theorem IpcDaemon.parseLine_key (inst : W) (client : UnixSocketClient) :
    (daemon.parseLine texts inst client).key = client.key := by
  -- Each branch ends with one of the three functions, but `shutdown` is noted first.
  have hshutdown : (orDisconnect (ipcSendBuffer { client with shutdownRequested := true })).key =
      client.key := ipcSendBuffer_key _
  cases daemon with
  | qnetd =>
    change (qnetdIpcParseLine texts inst client).key = client.key
    unfold qnetdIpcParseLine
    dsimp only
    repeat' split
    all_goals simp [hshutdown]
  | qdevice =>
    change (qdeviceIpcParseLine texts inst client).key = client.key
    unfold qdeviceIpcParseLine
    dsimp only
    repeat' split
    all_goals simp [hshutdown]

variable {texts daemon} in
theorem ipcIoRead_key (inst : W) (client : UnixSocketClient) (readed : RecvResult) :
    (ipcIoRead texts daemon inst client readed).key = client.key := by
  have hread : (unixSocketClientIoRead client readed).2.key = client.key := by
    unfold unixSocketClientIoRead
    dsimp only
    repeat' split
    all_goals rfl
  unfold ipcIoRead
  generalize unixSocketClientIoRead client readed = res at hread
  obtain ⟨res, after⟩ := res
  cases res with
  | done => exact (IpcDaemon.parseLine_key inst _).trans hread
  | more | endOfConnection | tooLong | unhandled => exact hread

theorem ipcIoWrite_key (client : UnixSocketClient) (sent : SendResult) :
    (ipcIoWrite client sent).1.key = client.key := by
  have hwrite : (unixSocketClientIoWrite client sent).2.key = client.key := by
    unfold unixSocketClientIoWrite
    dsimp only
    repeat' split
    all_goals rfl
  unfold ipcIoWrite
  generalize unixSocketClientIoWrite client sent = res at hwrite
  obtain ⟨res, after⟩ := res
  cases res with
  | done | more | endOfConnection | tooLong | unhandled => exact hwrite

/-! ### Phases -/

/-- What a client asks for with the first line it sent. -/
def IpcWire.command (wire : IpcWire W) : IpcCommand :=
  IpcCommand.ofLine daemon (ipcLine wire.received)

/-- The answer to it, from a daemon in a certain state. -/
def IpcWire.reply (wire : IpcWire W) (inst : W) : Option (List UInt8) :=
  (wire.command daemon).reply texts daemon maxSendSize inst

/-- Nothing was sent before there was a line, and nothing but the answer to it afterwards. -/
structure IpcWire.Served (wire : IpcWire W) : Prop where
  unasked : wire.asked = none → wire.sent = []
  asked : ∀ inst ∈ wire.asked, 10 ∈ wire.received ∧
    wire.sent <+: (wire.reply texts daemon maxSendSize inst).getD []

/-- A client that has not sent a whole line. -/
structure IpcWire.Reading (wire : IpcWire W) (client : UnixSocketClient) : Prop where
  readingLine : client.readingLine = true
  writingBuffer : client.writingBuffer = false
  scheduleDisconnect : client.scheduleDisconnect = false
  shutdownRequested : client.shutdownRequested = false
  receiveBuffer : client.receiveBuffer = { data := wire.received, maximumSize := maxReceiveSize }
  room : wire.received.length ≤ maxReceiveSize
  noLine : 10 ∉ wire.received
  sendBuffer : client.sendBuffer = dynarInit maxSendSize
  msgAlreadySentBytes : client.msgAlreadySentBytes = 0
  sent : wire.sent = []
  asked : wire.asked = none

/-- A client that is sent its answer, and has not got all of it. -/
structure IpcWire.Writing (wire : IpcWire W) (client : UnixSocketClient) : Prop where
  readingLine : client.readingLine = false
  writingBuffer : client.writingBuffer = true
  scheduleDisconnect : client.scheduleDisconnect = false
  line : 10 ∈ wire.received
  asked : ∃ inst, wire.asked = some inst ∧
    wire.reply texts daemon maxSendSize inst = some client.sendBuffer.data
  sent : wire.sent = client.sendBuffer.data.take client.msgAlreadySentBytes
  left : client.msgAlreadySentBytes < client.sendBuffer.data.length
  shutdown : client.shutdownRequested = true → wire.command daemon = .shutdown

/-- Where a client is. -/
inductive IpcPhase (wire : IpcWire W) (client : UnixSocketClient) : Prop where
  | reading (h : wire.Reading maxReceiveSize maxSendSize client)
  | writing (h : wire.Writing texts daemon maxSendSize client)
  | ended (hdisconnect : client.scheduleDisconnect = true)
      (h : wire.Served texts daemon maxSendSize)

variable {texts daemon maxReceiveSize maxSendSize} {wire : IpcWire W} {client : UnixSocketClient}

/-- However much of the answer was sent. -/
theorem IpcWire.Writing.served_take (h : wire.Writing texts daemon maxSendSize client) (n : Nat) :
    ({ wire with sent := client.sendBuffer.data.take n } : IpcWire W).Served texts daemon
      maxSendSize := by
  obtain ⟨inst, hasked, hreply⟩ := h.asked
  refine ⟨fun hnone => ?_, fun inst' hinst' => ⟨h.line, ?_⟩⟩
  · change wire.asked = none at hnone
    rw [hasked] at hnone
    cases hnone
  · change inst' ∈ wire.asked at hinst'
    rw [hasked] at hinst'
    cases hinst'
    change _ <+: (wire.reply texts daemon maxSendSize inst).getD []
    rw [hreply]
    exact List.take_prefix _ _

/-- In every phase. -/
theorem IpcPhase.served (h : IpcPhase texts daemon maxReceiveSize maxSendSize wire client) :
    wire.Served texts daemon maxSendSize := by
  cases h with
  | reading h =>
    refine ⟨fun _ => h.sent, fun inst hinst => ?_⟩
    rw [h.asked] at hinst
    cases hinst
  | writing h =>
    have hserved := h.served_take client.msgAlreadySentBytes
    rw [← h.sent] at hserved
    exact hserved
  | ended hdisconnect h => exact h

theorem IpcPhase.reading_of (h : IpcPhase texts daemon maxReceiveSize maxSendSize wire client)
    (hread : client.readingLine = true) (hstays : client.scheduleDisconnect = false) :
    wire.Reading maxReceiveSize maxSendSize client := by
  cases h with
  | reading h => exact h
  | writing h =>
    rw [h.readingLine] at hread
    cases hread
  | ended hdisconnect =>
    rw [hdisconnect] at hstays
    cases hstays

theorem IpcPhase.writing_of (h : IpcPhase texts daemon maxReceiveSize maxSendSize wire client)
    (hwrite : client.writingBuffer = true) (hstays : client.scheduleDisconnect = false) :
    wire.Writing texts daemon maxSendSize client := by
  cases h with
  | reading h =>
    rw [h.writingBuffer] at hwrite
    cases hwrite
  | writing h => exact h
  | ended hdisconnect =>
    rw [hdisconnect] at hstays
    cases hstays

/-- Being disconnected is always in order. -/
theorem IpcPhase.disconnect (h : IpcPhase texts daemon maxReceiveSize maxSendSize wire client) :
    IpcPhase texts daemon maxReceiveSize maxSendSize wire
      { client with scheduleDisconnect := true } :=
  .ended rfl h.served

/-- The last field of a client that gets its answer. -/
theorem IpcCommand.noted_shutdownRequested {command : IpcCommand}
    (hclient : client.shutdownRequested = false)
    (h : (command.noted client).shutdownRequested = true) : command = .shutdown := by
  unfold IpcCommand.noted at h
  dsimp only at h
  rw [hclient, Bool.false_or] at h
  exact of_decide_eq_true h

/-! ### A read -/

/-- A read that ends the connection before there is a line. -/
theorem IpcWire.Reading.fails (h : wire.Reading maxReceiveSize maxSendSize client)
    (buf : List UInt8) :
    ({ wire with received := wire.received ++ buf } : IpcWire W).Served texts daemon
      maxSendSize := by
  refine ⟨fun _ => h.sent, fun inst hinst => ?_⟩
  change inst ∈ wire.asked at hinst
  rw [h.asked] at hinst
  cases hinst

/-- A line is there: the answer is in the buffer, or the client is disconnected. -/
theorem IpcWire.Reading.parseLine (h : wire.Reading maxReceiveSize maxSendSize client) (inst : W)
    {buf : List UInt8} (hroom : (wire.received ++ buf).length ≤ maxReceiveSize) (hline : 10 ∈ buf)
    {client' : UnixSocketClient}
    (hclient' : client' = { client with
      msgAlreadyReceivedBytes := client.msgAlreadyReceivedBytes + buf.length
      receiveBuffer := { data := wire.received ++ buf, maximumSize := maxReceiveSize } }) :
    IpcPhase texts daemon maxReceiveSize maxSendSize
      { wire with received := wire.received ++ buf, asked := some inst }
      (daemon.parseLine texts inst (unixSocketClientReadLine client' false)) := by
  have hreceived : 10 ∈ wire.received ++ buf := List.mem_append_right _ hline
  have hanswered := daemon.parseLine_answered texts inst
    (unixSocketClientReadLine client' false) (by subst hclient'; exact hroom)
    (by subst hclient'; exact hreceived)
    (by subst hclient'; exact congrArg Dynar.data h.sendBuffer)
  have hbuffer : (unixSocketClientReadLine client' false).receiveBuffer.data =
      wire.received ++ buf := by
    subst hclient'
    rfl
  have hmax : dynarMaxSize (unixSocketClientReadLine client' false).sendBuffer = maxSendSize := by
    subst hclient'
    exact congrArg dynarMaxSize h.sendBuffer
  rw [hbuffer, hmax] at hanswered
  generalize hcommand : IpcCommand.ofLine daemon (ipcLine (wire.received ++ buf)) = command
    at hanswered
  have hnoted : (command.noted (unixSocketClientReadLine client' false)).shutdownRequested = true →
      command = .shutdown := by
    apply IpcCommand.noted_shutdownRequested
    subst hclient'
    exact h.shutdownRequested
  -- Nothing has been sent so far, so all of the answer is left; an answer is not empty.
  obtain ⟨sendBuffer, hafter⟩ := hanswered
  cases hreply : command.reply texts daemon maxSendSize inst with
  | some reply =>
    rw [hreply] at hafter
    obtain ⟨hdata, hafter⟩ := hafter
    rw [hafter]
    refine .writing ⟨rfl, rfl, ?_, hreceived, ⟨inst, rfl, ?_⟩, ?_, ?_, ?_⟩
    · subst hclient'
      exact h.scheduleDisconnect
    · unfold IpcWire.reply IpcWire.command
      rw [hcommand, hreply, hdata]
    · have hsent : client'.msgAlreadySentBytes = 0 := by
        subst hclient'
        exact h.msgAlreadySentBytes
      change wire.sent = sendBuffer.data.take client'.msgAlreadySentBytes
      rw [hsent, List.take_zero, h.sent]
    · have hsent : client'.msgAlreadySentBytes = 0 := by
        subst hclient'
        exact h.msgAlreadySentBytes
      change client'.msgAlreadySentBytes < sendBuffer.data.length
      rw [hsent, hdata]
      exact List.length_pos_iff.mpr (IpcCommand.reply_ne_nil texts hreply)
    · intro hshutdown
      unfold IpcWire.command
      rw [hcommand]
      exact hnoted hshutdown
  | none =>
    -- There is no room even for an error.
    rw [hreply] at hafter
    rw [hafter]
    refine .ended rfl ⟨fun _ => h.sent, fun inst' hinst' => ⟨hreceived, ?_⟩⟩
    change wire.sent <+: _
    rw [h.sent]
    exact List.nil_prefix

/-- `qnetd_ipc_io_read`. -/
theorem IpcWire.Reading.ioRead (h : wire.Reading maxReceiveSize maxSendSize client) (inst : W)
    (readed : RecvResult) :
    IpcPhase texts daemon maxReceiveSize maxSendSize
      { wire with
        received := wire.received ++ readed.buf
        asked := if (unixSocketClientIoRead client readed).1 = .done then some inst
          else wire.asked }
      (ipcIoRead texts daemon inst client readed) := by
  unfold ipcIoRead
  cases readed with
  | again =>
    have hnil : wire.received ++ RecvResult.again.buf = wire.received := List.append_nil _
    rw [hnil]
    exact .reading h
  | error => exact .ended rfl (h.fails [])
  | bytes buf =>
    by_cases hempty : buf = []
    · subst hempty
      exact .ended rfl (h.fails [])
    by_cases hroom : (wire.received ++ buf).length ≤ maxReceiveSize
    · have hcat : dynarCat buf client.receiveBuffer =
          (some (), { data := wire.received ++ buf, maximumSize := maxReceiveSize }) := by
        rw [List.length_append] at hroom
        unfold dynarCat
        rw [h.receiveBuffer, if_neg (by
          unfold dynarSize dynarMaxSize
          dsimp only
          omega)]
      -- Only the new bytes are looked at, and that is enough: there was no line before.
      by_cases hline : 10 ∈ buf
      · have hread : unixSocketClientIoRead client (.bytes buf) = (.done, { client with
            msgAlreadyReceivedBytes := client.msgAlreadyReceivedBytes + buf.length
            receiveBuffer := { data := wire.received ++ buf, maximumSize := maxReceiveSize } }) := by
          simp only [unixSocketClientIoRead, if_neg hempty, hcat, if_pos hline]
        simp only [hread, if_true]
        exact h.parseLine inst hroom hline rfl
      · have hread : unixSocketClientIoRead client (.bytes buf) = (.more, { client with
            msgAlreadyReceivedBytes := client.msgAlreadyReceivedBytes + buf.length
            receiveBuffer := { data := wire.received ++ buf, maximumSize := maxReceiveSize } }) := by
          simp only [unixSocketClientIoRead, if_neg hempty, hcat, if_neg hline]
        simp only [hread]
        exact .reading ⟨h.readingLine, h.writingBuffer, h.scheduleDisconnect, h.shutdownRequested,
          rfl, hroom, fun hmem => (List.mem_append.mp hmem).elim h.noLine hline, h.sendBuffer,
          h.msgAlreadySentBytes, h.sent, h.asked⟩
    · -- The line is too long: what was received is not even stored.
      have hcat : dynarCat buf client.receiveBuffer = (none, client.receiveBuffer) := by
        rw [List.length_append] at hroom
        unfold dynarCat
        rw [h.receiveBuffer, if_pos (by
          unfold dynarSize dynarMaxSize
          dsimp only
          omega)]
      have hread : (unixSocketClientIoRead client (.bytes buf)) = (.tooLong, { client with
          msgAlreadyReceivedBytes := client.msgAlreadyReceivedBytes + buf.length }) := by
        simp only [unixSocketClientIoRead, if_neg hempty, hcat]
      simp only [hread]
      exact .ended rfl (h.fails buf)

/-! ### A write -/

/-- The bytes that `send` takes come right behind those it took before. -/
theorem take_unixSocketClientToSend (client : UnixSocketClient) {n : Nat}
    (hn : n ≤ (unixSocketClientToSend client).length) :
    client.sendBuffer.data.take client.msgAlreadySentBytes ++
        (unixSocketClientToSend client).take n =
      client.sendBuffer.data.take (client.msgAlreadySentBytes + n) := by
  unfold unixSocketClientToSend at hn ⊢
  have hbuffer : n ≤ unixSocketClientBuffer := Nat.le_trans hn (List.length_take_le _ _)
  rw [List.take_take, Nat.min_eq_left hbuffer, List.take_add]

/-- The answer to `shutdown`. -/
theorem ipcOkReply_nil {maxSize : Nat} {reply : List UInt8}
    (h : ipcOkReply maxSize [] = some reply) : reply = ipcOk := by
  have hok : (ipcOk ++ []).length = 3 := rfl
  have herror : (ipcError ++ ipcBufferTooSmall ++ [10]).length = 36 := rfl
  unfold ipcOkReply ipcErrorReply at h
  by_cases hroom : (ipcOk ++ []).length ≤ maxSize
  · rw [if_pos hroom] at h
    cases h
    rfl
  · -- An error is longer still.
    rw [if_neg hroom, if_neg (by omega)] at h
    cases h

variable (maxReceiveSize) in
/-- `qnetd_ipc_io_write`.  It closes the listening socket only behind the answer to `shutdown`. -/
theorem IpcWire.Writing.ioWrite (h : wire.Writing texts daemon maxSendSize client)
    (sent : SendResult) (hsent : sent.sent ≤ (unixSocketClientToSend client).length) :
    IpcPhase texts daemon maxReceiveSize maxSendSize
      { wire with sent := wire.sent ++ (unixSocketClientToSend client).take sent.sent }
      (ipcIoWrite client sent).1 ∧
    ((ipcIoWrite client sent).2 = true → wire.command daemon = .shutdown ∧
      wire.sent ++ (unixSocketClientToSend client).take sent.sent = ipcOk) := by
  have hphase : IpcPhase texts daemon maxReceiveSize maxSendSize wire client := .writing h
  obtain ⟨inst, hasked, hreply⟩ := h.asked
  have hnone : wire.sent ++ (unixSocketClientToSend client).take 0 = wire.sent := by
    rw [List.take_zero, List.append_nil]
  unfold ipcIoWrite
  cases sent with
  | again =>
    unfold unixSocketClientIoWrite
    refine ⟨?_, fun hclose => by cases hclose⟩
    have hwire : wire.sent ++ (unixSocketClientToSend client).take SendResult.again.sent =
      wire.sent := hnone
    rw [hwire]
    exact .writing h
  | error =>
    unfold unixSocketClientIoWrite
    refine ⟨?_, fun hclose => by cases hclose⟩
    have hwire : wire.sent ++ (unixSocketClientToSend client).take SendResult.error.sent =
      wire.sent := hnone
    rw [hwire]
    exact .ended rfl hphase.served
  | bytes n =>
    change n ≤ _ at hsent
    have htake : wire.sent ++ (unixSocketClientToSend client).take n =
        client.sendBuffer.data.take (client.msgAlreadySentBytes + n) := by
      rw [h.sent]
      exact take_unixSocketClientToSend client hsent
    have hwire : wire.sent ++ (unixSocketClientToSend client).take (SendResult.bytes n).sent =
      client.sendBuffer.data.take (client.msgAlreadySentBytes + n) := htake
    rw [hwire]
    have hserved := h.served_take (client.msgAlreadySentBytes + n)
    by_cases hzero : n = 0
    · subst hzero
      have hwrite : unixSocketClientIoWrite client (.bytes 0) = (.endOfConnection, client) := rfl
      simp only [hwrite]
      exact ⟨.ended rfl hserved, fun hclose => by cases hclose⟩
    by_cases hdone : client.msgAlreadySentBytes + n = dynarSize client.sendBuffer
    · have hwrite : unixSocketClientIoWrite client (.bytes n) =
          (.done, { client with msgAlreadySentBytes := client.msgAlreadySentBytes + n }) := by
        simp only [unixSocketClientIoWrite, if_neg hzero, if_pos hdone]
      simp only [hwrite]
      refine ⟨.ended rfl hserved, fun hclose => ?_⟩
      have hcommand : wire.command daemon = .shutdown := h.shutdown hclose
      refine ⟨hcommand, ?_⟩
      -- All of the answer has been sent.
      rw [hdone]
      unfold dynarSize
      rw [List.take_length]
      unfold IpcWire.reply at hreply
      rw [hcommand] at hreply
      exact ipcOkReply_nil hreply
    · have hwrite : unixSocketClientIoWrite client (.bytes n) =
          (.more, { client with msgAlreadySentBytes := client.msgAlreadySentBytes + n }) := by
        simp only [unixSocketClientIoWrite, if_neg hzero, if_neg hdone]
      simp only [hwrite]
      refine ⟨.writing ⟨h.readingLine, h.writingBuffer, h.scheduleDisconnect, h.line,
        ⟨inst, hasked, hreply⟩, rfl, ?_, h.shutdown⟩, fun hclose => by cases hclose⟩
      -- `send` took some of the answer, but not all that is left.
      have hlength : (unixSocketClientToSend client).length ≤
          client.sendBuffer.data.length - client.msgAlreadySentBytes := by
        unfold unixSocketClientToSend
        rw [List.length_take, List.length_drop]
        omega
      have hleft := h.left
      unfold dynarSize at hdone
      change client.msgAlreadySentBytes + n < client.sendBuffer.data.length
      omega

end Qdevice
