import Qdevice.Spec.MsgChannel

/-! # The message channel to a client

The other direction of `MsgChannel`.  A qdevice that receives something it cannot handle does not
skip it but ends the connection, and what it hands on until then are the messages that were
put, in order.  Since the server only sends types of the protocol, the `exit` for a message of an
unknown type is never reached. -/

namespace Qdevice

/-- A qdevice net instance as far as reading is concerned: the messages that were handed to
    `qdevice_net_msg_received`, whether that failed the last time, and the result of
    `qdevice_net_socket_read` that ended the reading. -/
structure SocketReceiver where
  reader : MsgReader
  handed : List Dynar := []
  failed : Bool := false
  ended : Option SocketRead := none

/-- The message that a call of `qdevice_net_socket_read` hands on. -/
def socketHanded (recv : Recv) (reader : MsgReader) : Option Dynar :=
  match msgioRead true recv reader with
  | (reader, .fullMessage) =>
    if reader.skippingMsg then none else some reader.receiveBuffer.toDynar
  | _ => none

/-- `qdevice_net_socket_read`, until it ends the connection.  `result` is what
    `qdevice_net_msg_received` does with the message, if one is complete. -/
def clientSide : Receiver SocketReceiver MsgReceived where
  toRead r := if r.ended.isSome then 0 else msgioToRead r.reader
  receive result recv r :=
    if r.ended.isSome then r
    else
      match qdeviceNetSocketRead true (fun _ => result) recv r.reader with
      | (reader, out) => {
          reader
          handed := r.handed ++ (socketHanded recv r.reader).toList
          failed := (socketHanded recv r.reader).isSome && result.failed
          ended := if out = .goOn then none else some out }

/-- The handlers never give the receive buffer a maximum size that a header does not fit in. -/
def KeepsHeader {ρ : Type} (ch : Channel ρ) (op : ChannelOp MsgReceived) : Prop :=
  SendsSendable ch op ∧
    match op with
    | .read result _ => ∀ maximumSize ∈ result.maximumSize, 6 ≤ maximumSize
    | .send _ _ | .write _ => True

/-- The reader in the middle of a message that it takes. -/
structure MsgReader.Taking (reader : MsgReader) (tail : List UInt8) : Prop where
  follows : reader.Follows tail
  skipping : reader.skippingMsg = false
  header : 6 ≤ reader.receiveBuffer.maximumSize

/-- What one call of `qdevice_net_socket_read` has done with the bytes that make `tail` into
    `stream`, a part of frames of known types. -/
inductive SocketStep (result : MsgReceived) (maximumSize : Nat) (stream : List UInt8) :
    MsgReader × SocketRead → Option Dynar → Prop where
  | more {reader : MsgReader} (taking : reader.Taking stream)
      (max : reader.receiveBuffer.maximumSize = maximumSize) :
      SocketStep result maximumSize stream (reader, .goOn) none
  | tooLong {reader : MsgReader} (incomplete : Incomplete stream)
      (header : 6 ≤ stream.length) (long : maximumSize < 6 + headerLen stream)
      (max : reader.receiveBuffer.maximumSize = maximumSize) :
      SocketStep result maximumSize stream (reader, .disconnect) none
  | handed {reader : MsgReader} (taking : reader.Taking [])
      (complete : stream.length = 6 + headerLen stream) :
      SocketStep result maximumSize stream
        (reader, if result.failed then .disconnect else .goOn) (some ⟨stream, maximumSize⟩)

section Step

variable {reader : MsgReader} {tail bytes : List UInt8} {result : MsgReceived}

/-- A reader that takes a message of a known type sees at its header whether it fits. -/
theorem MsgReader.Taking.takes (h : reader.Taking tail) (hheader : 6 ≤ tail.length) :
    Takes reader.receiveBuffer.maximumSize tail := by
  by_contra hrefused
  have := h.follows.skipping.mpr ⟨hheader, hrefused⟩
  rw [h.skipping] at this
  cases this

theorem taking_reset (reader : MsgReader) (result : MsgReceived)
    (hmax : 6 ≤ reader.receiveBuffer.maximumSize)
    (hresult : ∀ maximumSize ∈ result.maximumSize, 6 ≤ maximumSize) :
    ({ reader with receiveBuffer :=
      reader.receiveBuffer.setMaxSize result.maximumSize } : MsgReader).reset.Taking [] := by
  refine ⟨MsgReader.Follows.reset _, rfl, ?_⟩
  dsimp only [MsgReader.reset, ReceiveBuffer.clean, ReceiveBuffer.setMaxSize]
  cases hsome : result.maximumSize with
  | none => exact hmax
  | some maximumSize => exact hresult maximumSize hsome

/-- One call on a part of a frame of a known type. -/
theorem qdeviceNetSocketRead_data (h : reader.Taking tail) (hpos : 1 ≤ bytes.length)
    (hlen : bytes.length ≤ msgioToRead reader)
    (hknown : 6 ≤ (tail ++ bytes).length → knownType (tail ++ bytes) = true)
    (hresult : ∀ maximumSize ∈ result.maximumSize, 6 ≤ maximumSize) :
    SocketStep result reader.receiveBuffer.maximumSize (tail ++ bytes)
      (qdeviceNetSocketRead true (fun _ => result) (.data bytes) reader)
      (socketHanded (.data bytes) reader) := by
  have hstep := msgioRead_data h.header h.follows hpos hlen
  -- a header that was completed before the call is that of a message that is taken
  have hold (hheader : 6 ≤ tail.length) :
      Takes reader.receiveBuffer.maximumSize (tail ++ bytes) :=
    (takes_append hheader bytes).mpr (h.takes hheader)
  have hshort (htail : tail.length < 6) : (tail ++ bytes).length ≤ 6 :=
    h.follows.length_le_six htail hlen
  rw [qdeviceNetSocketRead, socketHanded]
  generalize hread : msgioRead true (.data bytes) reader = res at hstep
  cases hstep with
  | @more reader' hmax hfollows =>
    rw [headerResult]
    by_cases hbad : tail.length < 6 ∧ 6 ≤ (tail ++ bytes).length ∧
        ¬ Takes reader.receiveBuffer.maximumSize (tail ++ bytes)
    · rw [if_pos hbad, if_neg (by rw [hknown hbad.2.1]; decide)]
      have hlong : ¬ 6 + headerLen (tail ++ bytes) ≤ reader.receiveBuffer.maximumSize :=
        fun hle => hbad.2.2 ⟨hknown hbad.2.1, hle⟩
      exact .tooLong hfollows.incomplete hbad.2.1 (Nat.lt_of_not_le hlong) hmax
    · rw [if_neg hbad]
      refine .more ⟨hfollows, ?_, hmax ▸ h.header⟩ hmax
      refine Bool.eq_false_iff.mpr fun hskip => ?_
      obtain ⟨hheader, hrefused⟩ := hfollows.skipping.mp hskip
      rw [hmax] at hrefused
      by_cases htail : tail.length < 6
      · exact hbad ⟨htail, hheader, hrefused⟩
      · exact hrefused (hold (Nat.le_of_not_lt htail))
  | @taken reader' hmax hcomplete _ hskip hholds =>
    dsimp only
    have hno : ¬ reader'.skippingMsg = true := by
      rw [hskip]
      decide
    rw [if_neg hno, if_neg hno, hholds.toDynar, hmax]
    exact .handed (taking_reset reader' result (hmax ▸ h.header) hresult) hcomplete
  | @skipped reader' hmax hcomplete hrefused hskip =>
    -- a message without a body fits, so that it is refused for its type only
    have hheader : 6 ≤ (tail ++ bytes).length := by omega
    by_cases htail : tail.length < 6
    · have hempty := hshort htail
      exact absurd ⟨hknown hheader, by have := h.header; omega⟩ hrefused
    · exact absurd (hold (Nat.le_of_not_lt htail)) hrefused

end Step

/-! ### Runs -/

/-- What holds of the receiver in every state: what it has handed on are the first frames, and
    either it is in the middle of the next one, or it has ended the connection, because of
    a handler or because the next frame does not fit. -/
structure SocketReads (r : SocketReceiver) (stream : List UInt8) (done : List Frame)
    (tail : List UInt8) : Prop where
  stream : stream = done.flatMap Frame.bytes ++ tail
  incomplete : Incomplete tail
  handed : r.handed.map (·.data) = done.map Frame.bytes
  reading : r.ended = none → r.reader.Taking tail
  ended : ∀ out ∈ r.ended, out = .disconnect ∧
    (r.failed = true ∨ 6 ≤ tail.length ∧
      r.reader.receiveBuffer.maximumSize < 6 + headerLen tail)

section Runs

variable {r : SocketReceiver} {stream tail bytes : List UInt8} {frames done : List Frame}

/-- The frames that are done are the first ones. -/
theorem SocketReads.done_eq (h : SocketReads r stream done tail)
    (hstream : stream <+: frames.flatMap Frame.bytes) :
    done = framesWithin frames stream.length := by
  rw [← parseFrames_of_part hstream, h.stream, parseFrames_flatMap_append done h.incomplete]

/-- What comes next starts with the header of the next frame. -/
theorem SocketReads.next (h : SocketReads r stream done tail)
    (hstream : stream ++ bytes <+: frames.flatMap Frame.bytes)
    (htail : 6 ≤ (tail ++ bytes).length) :
    ∃ f, frames[done.length]? = some f ∧ knownType (tail ++ bytes) = knownType f.bytes ∧
      headerLen (tail ++ bytes) = f.body.length := by
  have hdone := h.done_eq ((List.prefix_append stream bytes).trans hstream)
  have htake := (framesWithin_take frames stream.length).1
  rw [← hdone] at htake
  obtain ⟨rest, hrest⟩ : done <+: frames := htake ▸ List.take_prefix _ _
  rw [h.stream, List.append_assoc, ← hrest, List.flatMap_append] at hstream
  have hpart := (List.prefix_append_right_inj _).mp hstream
  cases rest with
  | nil =>
    rw [List.flatMap_nil, List.prefix_nil] at hpart
    rw [hpart] at htail
    cases htail
  | cons f rest =>
    rw [List.flatMap_cons] at hpart
    obtain ⟨after, hafter⟩ := hpart
    refine ⟨f, by rw [← hrest]; simp, ?_, ?_⟩
    · rw [← knownType_append htail after, hafter,
        knownType_append (by rw [f.length_bytes]; exact Nat.le_add_right _ _)]
    · rw [← headerLen_append htail after, hafter, f.headerLen_bytes_append]

/-- Reading a part of the next frame. -/
theorem SocketReads.data {result : MsgReceived} (h : SocketReads r stream done tail)
    (hreading : r.ended = none)
    (hknown : 6 ≤ (tail ++ bytes).length → knownType (tail ++ bytes) = true)
    (hpos : 1 ≤ bytes.length) (hlen : bytes.length ≤ msgioToRead r.reader)
    (hresult : ∀ maximumSize ∈ result.maximumSize, 6 ≤ maximumSize) :
    ∃ done' tail', SocketReads (clientSide.receive result (.data bytes) r) (stream ++ bytes) done'
      tail' := by
  have hstep := qdeviceNetSocketRead_data (h.reading hreading) hpos hlen hknown hresult
  dsimp only [clientSide]
  rw [hreading, if_neg (by decide)]
  generalize qdeviceNetSocketRead true (fun _ => result) (.data bytes) r.reader = res at hstep ⊢
  generalize socketHanded (.data bytes) r.reader = handed at hstep ⊢
  have hstream : stream ++ bytes = done.flatMap Frame.bytes ++ (tail ++ bytes) := by
    rw [h.stream, List.append_assoc]
  cases hstep with
  | more htaking _ =>
    refine ⟨done, _, hstream, htaking.follows.incomplete, ?_, fun _ => htaking, fun out hout => ?_⟩
    · rw [Option.toList_none, List.append_nil]
      exact h.handed
    · cases hout
  | tooLong hincomplete hheader hlong hmax =>
    refine ⟨done, _, hstream, hincomplete, ?_, fun hnone => ?_, fun out hout => ?_⟩
    · rw [Option.toList_none, List.append_nil]
      exact h.handed
    · cases hnone
    · cases hout
      exact ⟨rfl, .inr ⟨hheader, hmax.symm ▸ hlong⟩⟩
  | handed htaking hcomplete =>
    obtain ⟨f, hf⟩ := exists_frame hcomplete
    refine ⟨done ++ [f], [], ?_, incomplete_nil, ?_, fun _ => htaking, fun out hout => ?_⟩
    · rw [hstream, List.append_nil, List.flatMap_append, List.flatMap_singleton, hf]
    · rw [List.map_append, h.handed, List.map_append]
      simp [hf]
    · by_cases hfailed : result.failed = true
      · simp only [hfailed, if_true] at hout
        cases hout
        exact ⟨rfl, .inl (by rw [hfailed]; rfl)⟩
      · simp only [hfailed] at hout
        cases hout

end Runs

section Client

variable {maxListEntries maxBufferSize maxReceiveSize : Nat} {ch : Channel SocketReceiver}

/-- The reads of the client along a run. -/
theorem socketReads_of_reach (hbuffer : maxBufferSize < 2 ^ 32) (hreceive : 6 ≤ maxReceiveSize)
    (h : (channelMachine clientSide maxListEntries maxBufferSize
      { reader := { receiveBuffer := { maximumSize := maxReceiveSize } } }).Reach KeepsHeader ch) :
    ∃ frames, ChannelOk maxBufferSize ch frames ∧
      ∃ done tail, SocketReads ch.receiver ch.arrived done tail := by
  induction h with
  | init =>
    refine ⟨[], channelOk_init clientSide maxListEntries _, [], [], rfl, incomplete_nil, rfl,
      fun _ => ⟨⟨rfl, incomplete_nil, by simp [channelMachine], ⟨rfl, rfl⟩⟩, rfl, hreceive⟩,
      fun out hout => by cases hout⟩
  | @step ch ch' op _ hok hstep ih =>
    obtain ⟨frames, hch, done, tail, hreads⟩ := ih
    obtain ⟨new, hch'⟩ := hch.step hbuffer hok.1 hstep
    refine ⟨_, hch', ?_⟩
    cases op with
    | send alloc call =>
      simp only [channelMachine, channelStep] at hstep
      split at hstep <;> cases hstep <;> exact ⟨done, tail, hreads⟩
    | write send =>
      simp only [channelMachine, channelStep] at hstep
      split at hstep
      · cases hstep
        exact ⟨done, tail, hreads⟩
      · cases hstep
    | read result bytes =>
      by_cases hreading : ch.receiver.ended = none
      · cases bytes with
        | zero =>
          cases hstep
          refine ⟨done, tail, hreads.stream, hreads.incomplete, ?_, fun _ => ?_, ?_⟩
          all_goals
            dsimp only [clientSide]
            rw [hreading, if_neg (by decide)]
          · exact (congrArg _ (List.append_nil _)).trans hreads.handed
          · exact hreads.reading hreading
          · intro out hout
            cases hout
        | succ n =>
          simp only [channelMachine, channelStep] at hstep
          split at hstep
          · next hlen =>
            cases hstep
            have hlength : ((ch.queue.taken.drop ch.arrived.length).take (n + 1)).length =
                n + 1 := by
              rw [List.length_take]
              omega
            have htoRead : clientSide.toRead ch.receiver = msgioToRead ch.receiver.reader := by
              dsimp only [clientSide]
              rw [hreading]
              rfl
            have hpart := hch'.arrived_part.1
            exact hreads.data hreading
              (fun hheader => by
                obtain ⟨f, hf, hsame, -⟩ := hreads.next hpart hheader
                rw [hsame]
                exact known_of_carries hch'.carries f (List.mem_of_getElem? hf)) (by omega)
              (by rw [hlength, ← htoRead]; exact hlen.1) hok.2
          · cases hstep
      · -- nothing is read any more
        have hsome : ch.receiver.ended.isSome = true := by
          cases hended : ch.receiver.ended with
          | none => exact absurd hended hreading
          | some _ => rfl
        cases bytes with
        | zero =>
          cases hstep
          have hsame (recv : Recv) : clientSide.receive result recv ch.receiver = ch.receiver := by
            dsimp only [clientSide]
            rw [hsome]
            rfl
          refine ⟨done, tail, ?_⟩
          rw [hsame]
          exact hreads
        | succ n =>
          simp only [channelMachine, channelStep] at hstep
          split at hstep
          · next hlen =>
            have htoRead : clientSide.toRead ch.receiver = 0 := by
              dsimp only [clientSide]
              rw [hsome]
              rfl
            rw [htoRead] at hlen
            omega
          · cases hstep

end Client

/-- A vote info and a server error, to a client that cannot receive the longer one. -/
def voteThenError : List (ChannelOp MsgReceived) :=
  [.send true (.serverError false 0 3), .send true (.voteInfo 9 ⟨1, 4⟩ .nack), .write (.sent 12),
    .read ⟨false, none⟩ 6, .read ⟨false, none⟩ 6, .write (.sent 35), .read ⟨false, none⟩ 6]

end Qdevice
