import Qdevice.Spec.MsgFraming
import Qdevice.Spec.MsgRoundTrip
import Qdevice.Spec.SendQueue

/-! # The message channel

A side that sends takes a send buffer, fills it with one of the `msg_create` functions and puts it
into its send queue; the socket takes the queue in pieces of its own choice and gives
it to the other side in pieces of its own choice, which cuts it into messages and decodes them.
Each of these steps is right by itself (`sendQueueOk_of_reach`, `reads_framed`,
`Created.roundTrips`).  Here they are put together: what the receiving side decodes are the
calls of the sending side, in order, none lost and none made up.

## Proof structure

1. A call leaves a frame in the buffer, of a known type, that decodes to what it supplied.
2. The channel, for any receiver: what has arrived is a part of what was put.
3. The server as the receiver (`channel_to_server`); the client is in `MsgChannelClient`. -/

namespace Qdevice

/-! ### The frames of calls -/

/-- A message is read back as the call that made it. -/
def CarriesCall (call : CreateCall) (data : List UInt8) : Prop :=
  ∀ beyond maximumSize, ∃ d,
    (msgDecode beyond ⟨data, maximumSize⟩).result = .ok d ∧ SameFields d call.supplied

/-- The decoder gives the arguments back, and an echo reply answers a request that came as a
    whole. -/
def CreateCall.Sendable (call : CreateCall) : Prop := call.InDomain ∧ call.LengthFieldRight

/-- The frame that a call leaves in a buffer. -/
structure Carries (call : CreateCall) (f : Frame) : Prop where
  known : knownType f.bytes = true
  delivered : CarriesCall call f.bytes

theorem knownType_of_headerType {header : List UInt8} {type : MsgType}
    (h : headerType header = type.toUInt16) : knownType header = true := by
  rw [knownType, h]
  cases type <;> decide

/-- A call that succeeds leaves a header in the buffer, with a type of the protocol. -/
theorem created_header {call : CreateCall} (hdom : call.InDomain) {msg : Dynar}
    (hret : (call.run msg).1 ≠ 0) :
    6 ≤ (call.run msg).2.data.length ∧
      ∃ type : MsgType, headerType (call.run msg).2.data = type.toUInt16 := by
  by_cases hecho : ∃ request, call = .echoReply request
  · obtain ⟨request, rfl⟩ := hecho
    obtain ⟨hlen, -⟩ := hdom
    simp only [CreateCall.run, msgCreateEchoReply] at hret ⊢
    cases hrun : dynarCat request.data (dynarClean msg) with
    | mk result msg₁ =>
    rw [hrun] at hret
    cases result with
    | none => exact absurd rfl hret
    | some _ =>
      obtain ⟨rfl, -⟩ := DynarM.Appends.cat request.data _ _ hrun
      refine ⟨?_, .echoReply, ?_⟩
      · simp only [dynarSize, msgSetType, dynarClean, List.nil_append, List.length_append,
          BigEndian.length_toBytes, List.length_drop] at hlen ⊢
        omega
      · dsimp only [msgSetType]
        rw [headerType, List.take_left' (BigEndian.length_toBytes 2 _)]
        rfl
  · obtain ⟨type, options, f, hrun, henc, -⟩ :=
      created_of_inDomain call hdom fun request heq => hecho ⟨request, heq⟩
    obtain ⟨tlvs, happ, -, -⟩ := henc
    rw [hrun] at hret ⊢
    obtain ⟨msg', heq, hdata, -⟩ := msgCreate_data happ hret
    rw [heq]
    refine ⟨?_, type, ?_⟩
    · rw [hdata, List.length_append, List.length_append, BigEndian.length_toBytes,
        BigEndian.length_toBytes]
      omega
    · rw [hdata, headerType, List.take_left' (BigEndian.length_toBytes 2 _),
        BigEndian.ofBytes_toBytes_of_lt type.toUInt16.toNat_lt, UInt16.ofNat_toNat]

/-- What a call leaves in a buffer is one frame that is read back as the call. -/
theorem carries_of_run {call : CreateCall} (hsend : call.Sendable) {msg : Dynar}
    (hmax : msg.maximumSize < 2 ^ 32) (hret : (call.run msg).1 ≠ 0) :
    ∃ f : Frame, f.bytes = (call.run msg).2.data ∧ Carries call f := by
  obtain ⟨hdom, hright⟩ := hsend
  have htrips (beyond : Nat → UInt8) :
      RoundTrips beyond call (call.run msg).1 (call.run msg).2 := by
    by_cases hecho : ∃ request, call = .echoReply request
    · obtain ⟨request, rfl⟩ := hecho
      exact roundTrips_echoReply hdom hret beyond
    · exact (created_of_inDomain call hdom fun request heq => hecho ⟨request, heq⟩).roundTrips
        hmax hret beyond
  obtain ⟨hheader, type, htype⟩ := created_header hdom hret
  have hfield : headerLen (call.run msg).2.data = (call.run msg).2.data.length - 6 :=
    (htrips fun _ => 0).lengthField hright
  obtain ⟨f, hf⟩ : ∃ f : Frame, f.bytes = (call.run msg).2.data := exists_frame (by omega)
  refine ⟨f, hf, by rw [hf]; exact knownType_of_headerType htype, fun beyond maximumSize => ?_⟩
  rw [hf]
  exact (htrips beyond).decodes

/-! ### The channel -/

/-- A send queue, the socket behind it and a receiver: what was put into the queue, and what has
    arrived of it. -/
structure Channel (ρ : Type) where
  queue : SendQueue
  calls : List CreateCall := []
  arrived : List UInt8 := []
  receiver : ρ

/-- A side that receives: how many bytes it asks for, and what it does with the outcome of
    `PR_Recv`, given what its handlers do. -/
structure Receiver (ρ κ : Type) where
  toRead : ρ → Nat
  receive : κ → Recv → ρ → ρ

inductive ChannelOp (κ : Type) where
  | send (alloc : Bool) (call : CreateCall)
  | write (send : Send)
  | read (handler : κ) (bytes : Nat)

/-- Take a buffer, fill it, and put it into the queue, as the functions of `qnetd-client-send.c`
    and `qdevice-net-send.c` do. -/
def channelSend (queue : SendQueue) (alloc : Bool) (call : CreateCall) : Bool × SendQueue :=
  match queue.sblist.getNew alloc with
  | (none, sblist) => (false, { queue with sblist })
  | (some ptr, sblist) =>
    match call.run (sblist.entries ptr).buffer with
    | (size, buffer) =>
      let sblist := sblist.store ptr { sblist.entries ptr with buffer }
      if size = 0 then (false, { queue with sblist := sblist.discardNew ptr })
      else (true, { queue with
        sblist := sblist.put ptr
        messages := queue.messages ++ [buffer.data] })

/-- One step of a channel.  `PR_Recv` returns at least one byte, or it would block. -/
def channelStep {ρ κ : Type} (side : Receiver ρ κ) (ch : Channel ρ) :
    ChannelOp κ → Option (Channel ρ)
  | .send alloc call =>
    match channelSend ch.queue alloc call with
    | (true, queue) => some { ch with queue, calls := ch.calls ++ [call] }
    | (false, queue) => some { ch with queue }
  | .write send =>
    if SendPossible ch.queue.sblist send then
      match qnetdClientNetWrite send ch.queue.sblist with
      | (_, taken, sblist) =>
        some { ch with queue := { ch.queue with sblist, taken := ch.queue.taken ++ taken } }
    else none
  | .read handler 0 => some { ch with receiver := side.receive handler .wouldBlock ch.receiver }
  | .read handler (bytes + 1) =>
    let unread := ch.queue.taken.drop ch.arrived.length
    if bytes + 1 ≤ side.toRead ch.receiver ∧ bytes + 1 ≤ unread.length then
      some { ch with
        arrived := ch.arrived ++ unread.take (bytes + 1)
        receiver := side.receive handler (.data (unread.take (bytes + 1))) ch.receiver }
    else none

/-- The runs of a channel, from when the connection is made. -/
def channelMachine {ρ κ : Type} (side : Receiver ρ κ) (maxListEntries maxBufferSize : Nat)
    (receiver : ρ) : Runs.Machine (Channel ρ) (ChannelOp κ) where
  init := { queue := { sblist := { maxListEntries, maxBufferSize } }, receiver }
  step := channelStep side

/-- Only messages that can be read back are sent. -/
def SendsSendable {ρ κ : Type} (_ : Channel ρ) : ChannelOp κ → Prop
  | .send _ call => call.Sendable
  | .write _ | .read _ _ => True

/-- What holds in every state of a channel, apart from its receiver. -/
structure ChannelOk {ρ : Type} (maxBufferSize : Nat) (ch : Channel ρ) (frames : List Frame) :
    Prop where
  queue : SendQueueOk ch.queue
  held : ch.queue.held = []
  maxBufferSize : ch.queue.sblist.maxBufferSize = maxBufferSize
  messages : ch.queue.messages = frames.map Frame.bytes
  carries : List.Forall₂ Carries ch.calls frames
  arrived : ch.arrived <+: ch.queue.taken

section Channel

variable {ρ κ : Type} {side : Receiver ρ κ} {maxBufferSize : Nat} {ch ch' : Channel ρ}
  {frames : List Frame}

theorem maxBufferSize_getNew {sblist sblist' : SendBufferMemory} {alloc : Bool}
    {ptr : Option SendBufferPtr} (h : sblist.getNew alloc = (ptr, sblist')) :
    sblist'.maxBufferSize = sblist.maxBufferSize := by
  rw [SendBufferMemory.getNew] at h
  split at h
  · cases h
    rfl
  · split at h
    · cases h
      rfl
    · split at h
      · cases h
        rfl
      · cases h
        rfl

theorem maxBufferSize_write (send : Send) (sblist : SendBufferMemory) :
    (qnetdClientNetWrite send sblist).2.2.maxBufferSize = sblist.maxBufferSize := by
  rw [qnetdClientNetWrite]
  split
  · rfl
  · dsimp only
    split <;> rfl

/-- Sending leaves the queue in order, and a message that is put is a frame of its call. -/
theorem channelSend_ok {queue queue' : SendQueue} {alloc put : Bool} {call : CreateCall}
    (hqueue : SendQueueOk queue) (hheld : queue.held = [])
    (hmax : queue.sblist.maxBufferSize < 2 ^ 32) (hsend : call.Sendable)
    (h : channelSend queue alloc call = (put, queue')) :
    SendQueueOk queue' ∧ queue'.held = [] ∧
      queue'.sblist.maxBufferSize = queue.sblist.maxBufferSize ∧ queue'.taken = queue.taken ∧
      if put then ∃ f, Carries call f ∧ queue'.messages = queue.messages ++ [f.bytes]
      else queue'.messages = queue.messages := by
  rw [channelSend] at h
  split at h
  · next sblist hnew =>
    cases h
    exact ⟨hqueue.getNew_none hnew, hheld, maxBufferSize_getNew hnew, rfl, rfl⟩
  · next ptr sblist hnew =>
    obtain ⟨htaken, hentry⟩ := hqueue.getNew hnew
    have hmax' := maxBufferSize_getNew hnew
    generalize hrun : call.run (sblist.entries ptr).buffer = res at h
    obtain ⟨size, buffer⟩ := res
    have hfilled : SendQueueOk { queue with
        sblist := sblist.store ptr { sblist.entries ptr with buffer := buffer }
        held := ptr :: queue.held } := htaken.fill (List.mem_cons_self ..) rfl
    dsimp only at h
    split at h
    · cases h
      have hdiscarded := hfilled.discardNew (List.mem_cons_self ..)
      dsimp only at hdiscarded
      rw [List.erase_cons_head] at hdiscarded
      exact ⟨hdiscarded, hheld, hmax', rfl, rfl⟩
    · next hsize =>
      cases h
      have hput := hfilled.put (List.mem_cons_self ..)
      dsimp only at hput
      rw [List.erase_cons_head] at hput
      have hbuffer : ((sblist.store ptr { sblist.entries ptr with buffer := buffer }).entries
          ptr).buffer = buffer := by
        simp only [SendBufferMemory.store, Function.update_self]
      rw [hbuffer] at hput
      refine ⟨hput, hheld, hmax', rfl, ?_⟩
      have hroom : (sblist.entries ptr).buffer.maximumSize < 2 ^ 32 := by
        rw [hentry]
        exact hmax
      obtain ⟨f, hf, hcarries⟩ := carries_of_run hsend hroom (by rw [hrun]; exact hsize)
      rw [hrun] at hf
      exact ⟨f, hcarries, by rw [hf]⟩

/-- Every step keeps the channel in order, and frames are only added. -/
theorem ChannelOk.step {op : ChannelOp κ} (h : ChannelOk maxBufferSize ch frames)
    (hmax : maxBufferSize < 2 ^ 32) (hok : SendsSendable ch op)
    (hstep : channelStep side ch op = some ch') :
    ∃ new, ChannelOk maxBufferSize ch' (frames ++ new) := by
  cases op with
  | send alloc call =>
    simp only [channelStep] at hstep
    split at hstep
    · next queue hsend =>
      cases hstep
      obtain ⟨hqueue, hheld, hbuffer, htaken, hput⟩ :=
        channelSend_ok h.queue h.held (h.maxBufferSize ▸ hmax) hok hsend
      obtain ⟨f, hcarries, hmessages⟩ := hput
      -- One frame more, behind all others.
      refine ⟨[f], hqueue, hheld, hbuffer.trans h.maxBufferSize, ?_, ?_, ?_⟩
      · rw [hmessages, h.messages, List.map_append]
        rfl
      · exact List.rel_append h.carries (.cons hcarries .nil)
      · rw [htaken]
        exact h.arrived
    · next queue hsend =>
      cases hstep
      obtain ⟨hqueue, hheld, hbuffer, htaken, hput⟩ :=
        channelSend_ok h.queue h.held (h.maxBufferSize ▸ hmax) hok hsend
      refine ⟨[], hqueue, hheld, hbuffer.trans h.maxBufferSize, ?_, ?_, ?_⟩
      · rw [List.append_nil]
        exact hput.trans h.messages
      · rw [List.append_nil]
        exact h.carries
      · rw [htaken]
        exact h.arrived
  | write send =>
    simp only [channelStep] at hstep
    split at hstep
    · next hpossible =>
      cases hstep
      have hwritten := h.queue.write hpossible rfl
      refine ⟨[], hwritten, h.held, ?_, ?_, ?_, ?_⟩
      · rw [← h.maxBufferSize]
        exact maxBufferSize_write send _
      · rw [List.append_nil]
        exact h.messages
      · rw [List.append_nil]
        exact h.carries
      · exact h.arrived.trans (List.prefix_append _ _)
    · cases hstep
  | read handler bytes =>
    cases bytes with
    | zero =>
      cases hstep
      refine ⟨[], ?_⟩
      rw [List.append_nil]
      exact ⟨h.queue, h.held, h.maxBufferSize, h.messages, h.carries, h.arrived⟩
    | succ n =>
      simp only [channelStep] at hstep
      split at hstep
      · cases hstep
        refine ⟨[], ?_⟩
        rw [List.append_nil]
        refine ⟨h.queue, h.held, h.maxBufferSize, h.messages, h.carries, ?_⟩
        -- What arrives is the next part of what was taken.
        obtain ⟨rest, hrest⟩ := h.arrived
        dsimp only
        rw [← hrest, List.drop_left]
        exact (List.prefix_append_right_inj ch.arrived).mpr (List.take_prefix _ _)
      · cases hstep

theorem channelOk_init (side : Receiver ρ κ) (maxListEntries : Nat) (receiver : ρ) :
    ChannelOk maxBufferSize
      (channelMachine side maxListEntries maxBufferSize receiver).init [] := by
  refine ⟨⟨List.nodup_nil, ?_, ?_, rfl⟩, rfl, rfl, rfl, .nil, List.nil_prefix⟩
  · intro ptr hptr
    cases hptr
  · intro ptr hptr
    cases hptr

/-- What has arrived is a part of the messages that were put, and once everything is written and
    read it is all of them. -/
theorem ChannelOk.arrived_part (h : ChannelOk maxBufferSize ch frames) :
    ch.arrived <+: frames.flatMap Frame.bytes ∧
      (ch.queue.sblist.pending = [] → ch.arrived = ch.queue.taken →
        ch.arrived = frames.flatMap Frame.bytes) := by
  have hall : ch.queue.taken ++ ch.queue.sblist.pending = frames.flatMap Frame.bytes := by
    rw [h.queue.conserved, h.messages, List.flatMap_def]
  refine ⟨h.arrived.trans ⟨_, hall⟩, fun hpending hread => ?_⟩
  rw [hpending, List.append_nil] at hall
  exact hread.trans hall

end Channel

/-! ### How many messages are complete -/

theorem known_of_carries {calls : List CreateCall} {frames : List Frame}
    (h : List.Forall₂ Carries calls frames) : ∀ f ∈ frames, knownType f.bytes = true := by
  induction h with
  | nil => exact fun f hf => by cases hf
  | cons hcarries _ ih =>
    intro f hf
    rcases List.mem_cons.mp hf with rfl | hf
    · exact hcarries.known
    · exact ih f hf

/-- Of the frames, exactly the first `count` have arrived as a whole. -/
def CompleteFrames (frames : List Frame) (arrived count : Nat) : Prop :=
  count ≤ frames.length ∧ ∀ n ≤ frames.length,
    ((frames.take n).flatMap Frame.bytes).length ≤ arrived ↔ n ≤ count

theorem framesWithin_take (frames : List Frame) (arrived : Nat) :
    framesWithin frames arrived = frames.take (framesWithin frames arrived).length ∧
      CompleteFrames frames arrived (framesWithin frames arrived).length := by
  induction frames generalizing arrived with
  | nil => exact ⟨rfl, Nat.le_refl _, fun n hn => by simp_all [framesWithin]⟩
  | cons f frames ih =>
    rw [framesWithin]
    split
    · next hle =>
      obtain ⟨htake, hcount, hcomplete⟩ := ih (arrived - f.bytes.length)
      refine ⟨?_, Nat.succ_le_succ hcount, fun n hn => ?_⟩
      · rw [List.length_cons, List.take_succ_cons, ← htake]
      · cases n with
        | zero => simp
        | succ n =>
          have hn' := hcomplete n (Nat.le_of_succ_le_succ hn)
          rw [List.take_succ_cons, List.flatMap_cons, List.length_append, List.length_cons,
            Nat.succ_le_succ_iff, ← hn']
          omega
    · next hlt =>
      refine ⟨rfl, Nat.zero_le _, fun n hn => ?_⟩
      cases n with
      | zero => simp
      | succ n =>
        rw [List.take_succ_cons, List.flatMap_cons, List.length_append, List.length_nil]
        omega

/-- If all bytes have arrived, all frames have. -/
theorem CompleteFrames.all {frames : List Frame} {count : Nat}
    (h : CompleteFrames frames (frames.flatMap Frame.bytes).length count) :
    count = frames.length := by
  have hall := (h.2 frames.length (Nat.le_refl _)).mp (by rw [List.take_length])
  exact Nat.le_antisymm h.1 hall

/-! ### The server as the receiver -/

/-- A client of the server, and what was done with the messages it has sent. -/
structure ServerReceiver where
  client : ClientReader
  events : List ReadEvent := []

/-- `qnetd_client_net_read`; `handled` is whether the handler of a complete message succeeds. -/
def serverSide : Receiver ServerReceiver Bool where
  toRead r := msgioToRead r.client.reader
  receive handled recv r :=
    match qnetdClientNetRead true handled recv r.client with
    | (client, event, _) => { client, events := r.events ++ event.toList }

/-- What the server does with a message of a known type. -/
def serverEvent (maxReceiveSize : Nat) (message : List UInt8) : ReadEvent :=
  if message.length ≤ maxReceiveSize then .received ⟨message, maxReceiveSize⟩
  else .sentErr .messageTooLong

theorem frameEvent_of_known {maxReceiveSize : Nat} {f : Frame} (hknown : knownType f.bytes = true) :
    frameEvent maxReceiveSize f = serverEvent maxReceiveSize f.bytes := by
  have htakes : Takes maxReceiveSize f.bytes ↔ f.bytes.length ≤ maxReceiveSize := by
    rw [Takes, hknown, f.headerLen_bytes, f.length_bytes]
    exact and_iff_right rfl
  rw [frameEvent, serverEvent]
  by_cases hle : f.bytes.length ≤ maxReceiveSize
  · rw [if_pos hle, if_pos (htakes.mpr hle)]
  · rw [if_neg hle, if_neg fun h => hle (htakes.mp h), refusal, hknown]
    rfl

section Server

variable {maxListEntries maxBufferSize maxReceiveSize : Nat} {ch : Channel ServerReceiver}

/-- The reads of the server along a run. -/
theorem serverReads_of_reach (hbuffer : maxBufferSize < 2 ^ 32)
    (h : (channelMachine serverSide maxListEntries maxBufferSize
      { client := qnetdClientInit maxReceiveSize }).Reach SendsSendable ch) :
    ∃ frames, ChannelOk maxBufferSize ch frames ∧
      Reads maxReceiveSize ch.receiver.client ch.arrived ch.receiver.events := by
  induction h with
  | init => exact ⟨[], channelOk_init serverSide maxListEntries _, .init⟩
  | @step ch ch' op _ hok hstep ih =>
    obtain ⟨frames, hch, hreads⟩ := ih
    obtain ⟨new, hch'⟩ := hch.step hbuffer hok hstep
    refine ⟨_, hch', ?_⟩
    cases op with
    | send alloc call =>
      simp only [channelMachine, channelStep] at hstep
      split at hstep <;> cases hstep <;> exact hreads
    | write send =>
      simp only [channelMachine, channelStep] at hstep
      split at hstep
      · cases hstep
        exact hreads
      · cases hstep
    | read handled bytes =>
      cases bytes with
      | zero =>
        cases hstep
        exact hreads.wouldBlock handled
      | succ n =>
        simp only [channelMachine, channelStep] at hstep
        split at hstep
        · next hlen =>
          cases hstep
          have hlength : ((ch.queue.taken.drop ch.arrived.length).take (n + 1)).length = n + 1 := by
            rw [List.length_take]
            omega
          exact hreads.data handled _ (by omega) (by rw [hlength]; exact hlen.1)
        · cases hstep

end Server

/-- A reply to a vote info and a question for a vote, written and read in pieces. -/
def twoMessages : List (ChannelOp Bool) :=
  [.send true (.voteInfoReply 7), .write (.sent 5), .read true 4,
    .send true (.askForVote 8), .write (.sent 9), .write (.sent 14), .read true 2, .read true 8,
    .read true 6, .read true 7]

end Qdevice
