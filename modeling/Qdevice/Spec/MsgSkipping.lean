import Qdevice.Spec.MsgFraming
import Qdevice.ForStd.Runs

/-! # Messages that are skipped

What the two sides do with a message they cannot take.  `msgio_read` has one return value
for everything it finds out in a call, and "message complete" wins over what was found out
about the header.  So a message of an unknown type that has no body is not reported as one:
the server answers it with NO_ERROR, and the client, which does not expect a complete
message while it skips one, exits. -/

namespace Qdevice

/-! ### The server -/

/-- The event a complete message should give. -/
def properEvent (maximumSize : Nat) (f : Frame) : ReadEvent :=
  if Takes maximumSize f.bytes then .received ⟨f.bytes, maximumSize⟩
  else .sentErr (refusal f.bytes)

/-- A message of a type that is not supported, with an empty body. -/
def Frame.UnknownAndEmpty (f : Frame) : Prop := knownType f.bytes = false ∧ f.body = []

instance (f : Frame) : Decidable f.UnknownAndEmpty := inferInstanceAs (Decidable (_ ∧ _))

theorem frameEvent_eq_properEvent (maximumSize : Nat) (f : Frame) :
    frameEvent maximumSize f = properEvent maximumSize f ↔ ¬ f.UnknownAndEmpty := by
  rw [frameEvent, properEvent, Frame.UnknownAndEmpty]
  split
  · next htakes =>
    refine ⟨fun _ hbad => ?_, fun _ => rfl⟩
    rw [htakes.1] at hbad
    cases hbad.1
  · split
    · next hbad =>
      rw [refusal, if_pos hbad.1]
      exact ⟨(fun h => by cases h), fun h => absurd hbad h⟩
    · next hgood => exact ⟨fun _ => hgood, fun _ => rfl⟩

/-- Every message of a stream is dealt with properly exactly if none of them has an unknown
    type and an empty body. -/
theorem events_proper_iff {maxReceiveSize : Nat} (hmax : 6 ≤ maxReceiveSize)
    {client : ClientReader} {stream : List UInt8} {events : List ReadEvent}
    (h : Reads maxReceiveSize client stream events) :
    events = (parseFrames stream).map (properEvent maxReceiveSize) ↔
      ∀ f ∈ parseFrames stream, ¬ f.UnknownAndEmpty := by
  rw [reads_events hmax h, List.map_inj_left]
  exact forall₂_congr fun f _ => frameEvent_eq_properEvent maxReceiveSize f

/-! ### The client -/

/-- The call that gets the last byte of a header finds out that the message is to be skipped,
    and finds its length to be 0.  If the header does not fit into the receive buffer, the length
    is read from what older messages left in the memory. -/
def SkipsEmpty (reader : MsgReader) (bytes : List UInt8) : Prop :=
  reader.msgAlreadyReceivedBytes + bytes.length = 6 ∧
    if reader.receiveBuffer.size + bytes.length ≤ reader.receiveBuffer.maximumSize then
      knownType (reader.receiveBuffer.memory.take reader.receiveBuffer.size ++ bytes) = false ∧
        headerLen (reader.receiveBuffer.memory.take reader.receiveBuffer.size ++ bytes) = 0
    else headerLen reader.receiveBuffer.memory = 0

instance (reader : MsgReader) (bytes : List UInt8) : Decidable (SkipsEmpty reader bytes) :=
  inferInstanceAs (Decidable (_ ∧ ite _ _ _))

section

variable {reader : MsgReader} {tail bytes : List UInt8}

/-- Of a message that is not skipped the buffer has everything. -/
private theorem holds_tail (h : reader.Follows tail) (hskip : reader.skippingMsg = false) :
    reader.receiveBuffer.Holds tail := by
  have hholds := h.holds
  rw [if_neg (by rw [hskip]; exact Bool.false_ne_true)] at hholds
  exact hholds

private theorem takes_tail (h : reader.Follows tail) (hskip : reader.skippingMsg = false)
    (hheader : 6 ≤ tail.length) : Takes reader.receiveBuffer.maximumSize tail := by
  by_contra hrefused
  rw [h.skipping.mpr ⟨hheader, hrefused⟩] at hskip
  cases hskip

/-- With room for a header, `SkipsEmpty` is about the header that has arrived. -/
private theorem skipsEmpty_iff (h : reader.Follows tail) (hskip : reader.skippingMsg = false)
    (hmax : 6 ≤ reader.receiveBuffer.maximumSize) :
    SkipsEmpty reader bytes ↔ (tail ++ bytes).length = 6 ∧ knownType (tail ++ bytes) = false ∧
      headerLen (tail ++ bytes) = 0 := by
  have hholds := holds_tail h hskip
  rw [SkipsEmpty, h.received, hholds.memory, hholds.size, ← List.length_append]
  refine and_congr_right fun hsix => ?_
  rw [if_pos (hsix ▸ hmax)]

/-- With room for a header: when a call finds a complete message while it skips one, and what
    the reader looks like after a call that returns 0. -/
private theorem msgioRead_exit_room (h : reader.Follows tail) (hskip : reader.skippingMsg = false)
    (hmax : 6 ≤ reader.receiveBuffer.maximumSize) (hpos : 1 ≤ bytes.length)
    (hlen : bytes.length ≤ msgioToRead reader) {reader' : MsgReader} {res : MsgioResult}
    (hread : msgioRead true (.data bytes) reader = (reader', res)) :
    (res = .fullMessage ∧ reader'.skippingMsg = true ↔ SkipsEmpty reader bytes) ∧
      (res = .partialRead → reader'.Follows (tail ++ bytes) ∧ reader'.skippingMsg = false) := by
  have hstep := msgioRead_data hmax h hpos hlen
  rw [skipsEmpty_iff h hskip hmax]
  rw [hread] at hstep
  cases hstep with
  | more hsame hfollows =>
    have hincomplete := hfollows.incomplete
    rw [Incomplete] at hincomplete
    refine ⟨⟨?_, fun hempty => by omega⟩, fun hpartial => ⟨hfollows, ?_⟩⟩
    · rintro ⟨hfull, _⟩
      rw [headerResult] at hfull
      split at hfull
      · split at hfull <;> cases hfull
      · cases hfull
    · rw [Bool.eq_false_iff, Ne, hfollows.skipping, hsame]
      rintro ⟨hheader, hrefused⟩
      by_cases htail : tail.length < 6
      · rw [headerResult, if_pos ⟨htail, hheader, hrefused⟩] at hpartial
        split at hpartial <;> cases hpartial
      · have htail := Nat.le_of_not_lt htail
        rw [takes_append htail] at hrefused
        exact hrefused (takes_tail h hskip htail)
  | taken _ _ htakes hno _ =>
    refine ⟨⟨?_, ?_⟩, fun hpartial => by cases hpartial⟩
    · rintro ⟨_, hyes⟩
      rw [hno] at hyes
      cases hyes
    · rintro ⟨_, hunknown, _⟩
      rw [htakes.1] at hunknown
      cases hunknown
  | skipped _ hcomplete hrefused hyes =>
    refine ⟨⟨fun _ => ?_, fun _ => ⟨rfl, hyes⟩⟩, fun hpartial => by cases hpartial⟩
    have htail : tail.length < 6 := by
      by_contra hlong
      have hlong := Nat.le_of_not_lt hlong
      rw [takes_append hlong] at hrefused
      exact hrefused (takes_tail h hskip hlong)
    have hsix := h.length_le_six htail hlen
    have hzero : headerLen (tail ++ bytes) = 0 := by omega
    refine ⟨by omega, ?_, hzero⟩
    rw [Bool.eq_false_iff]
    intro hknown
    exact hrefused ⟨hknown, by rw [hzero]; exact hmax⟩

/-- The same with no room for a header, which an INIT_REPLY may bring about. -/
private theorem msgioRead_exit_tight (h : reader.Follows tail) (hskip : reader.skippingMsg = false)
    (hmax : reader.receiveBuffer.maximumSize < 6) (hlen : bytes.length ≤ msgioToRead reader)
    {reader' : MsgReader} {res : MsgioResult}
    (hread : msgioRead true (.data bytes) reader = (reader', res)) :
    (res = .fullMessage ∧ reader'.skippingMsg = true ↔ SkipsEmpty reader bytes) ∧
      (res = .partialRead → reader'.Follows (tail ++ bytes) ∧ reader'.skippingMsg = false) := by
  have htail : tail.length < 6 := by
    by_contra hlong
    have htakes := (takes_tail h hskip (Nat.le_of_not_lt hlong)).2
    omega
  have hsix := h.length_le_six htail hlen
  have hholds := holds_tail h hskip
  by_cases hfits : (tail ++ bytes).length ≤ reader.receiveBuffer.maximumSize
  · -- A part of the header that fits.
    obtain ⟨msg, hstore, hmsg, _⟩ := msgioStore_filling h hskip hfits
    have hcheck : msgioCheckHeader ⟨msg, (tail ++ bytes).length, false⟩ .partialRead =
        (⟨msg, (tail ++ bytes).length, false⟩, .partialRead) :=
      if_neg (by simp only [msgGetHeaderLength]; omega)
    rw [msgioRead_eq hstore (fun hno => by cases hno.1) hcheck,
      if_neg (by simp only [msgGetHeaderLength]; omega), Prod.mk.injEq] at hread
    obtain ⟨rfl, rfl⟩ := hread
    refine ⟨⟨(fun h => by cases h.1), fun hempty => ?_⟩, fun _ => ⟨⟨rfl, ?_, ?_, hmsg⟩, rfl⟩⟩
    · have hcount := hempty.1
      rw [h.received, ← List.length_append] at hcount
      omega
    · rw [Incomplete]
      omega
    · exact ⟨(fun h => by cases h), fun hheader => by omega⟩
  · -- The bytes are dropped, and the message is skipped.
    have hstore : msgioStore true bytes reader =
        ({ reader with msgAlreadyReceivedBytes := (tail ++ bytes).length, skippingMsg := true },
          .cantStoreMessage) := by
      have hcat : reader.receiveBuffer.cat true bytes = none := by
        refine if_pos (Or.inl ?_)
        rw [hholds.size, ← List.length_append]
        exact Nat.lt_of_not_le hfits
      simp only [msgioStore, hskip, Bool.false_eq_true, ↓reduceIte, hcat, h.received,
        List.length_append]
    rw [SkipsEmpty, h.received, hholds.size, ← List.length_append, if_neg hfits]
    by_cases hfull : (tail ++ bytes).length = 6
    · rw [msgioRead_eq hstore (by simp only [msgGetHeaderLength]; omega) (if_neg (by simp)),
        Prod.mk.injEq] at hread
      obtain ⟨rfl, rfl⟩ := hread
      simp only [hfull, msgGetHeaderLength, ge_iff_le, Nat.le_refl, true_and]
      split
      · next hzero => exact ⟨⟨fun _ => by omega, fun _ => ⟨rfl, trivial⟩⟩, (fun h => by cases h)⟩
      · next hsome =>
        exact ⟨⟨(fun h => by cases h.1), fun hzero => absurd (by omega) hsome⟩,
          (fun h => by cases h)⟩
    · rw [msgioRead, hstore] at hread
      have hshort : (tail ++ bytes).length < msgGetHeaderLength := by
        rw [msgGetHeaderLength]
        omega
      simp only [hshort, and_self, ↓reduceIte, Prod.mk.injEq] at hread
      obtain ⟨rfl, rfl⟩ := hread
      exact ⟨⟨(fun h => by cases h.1), fun hempty => absurd hempty.1 hfull⟩, (fun h => by cases h)⟩

/-- When a call finds a complete message while it skips one, and what the reader looks like
    after a call that returns 0. -/
theorem msgioRead_exit (h : reader.Follows tail) (hskip : reader.skippingMsg = false)
    (hpos : 1 ≤ bytes.length) (hlen : bytes.length ≤ msgioToRead reader) {reader' : MsgReader}
    {res : MsgioResult} (hread : msgioRead true (.data bytes) reader = (reader', res)) :
    (res = .fullMessage ∧ reader'.skippingMsg = true ↔ SkipsEmpty reader bytes) ∧
      (res = .partialRead → reader'.Follows (tail ++ bytes) ∧ reader'.skippingMsg = false) := by
  by_cases hmax : 6 ≤ reader.receiveBuffer.maximumSize
  · exact msgioRead_exit_room h hskip hmax hpos hlen hread
  · exact msgioRead_exit_tight h hskip (Nat.lt_of_not_le hmax) hlen hread

end

/-! ### Runs of the client's reader -/

/-- The reader of a qdevice net instance, and what the last call ended with. -/
structure SocketState where
  reader : MsgReader
  outcome : SocketRead := .goOn

/-- A call of `qdevice_net_socket_read`, with what `PR_Recv` returns, whether memory can be had and
    what is done with a message; or `qdevice_net_instance_clean` and a new connection. -/
inductive SocketEvent where
  | read (alloc : Bool) (recv : Recv) (msgReceived : Dynar → MsgReceived)
  | clean

/-- `PR_Recv` returns at most as many bytes as it was asked for. -/
def Recv.Within (reader : MsgReader) : Recv → Prop
  | .data bytes => 1 ≤ bytes.length ∧ bytes.length ≤ msgioToRead reader
  | .closed | .wouldBlock | .error => True

instance (reader : MsgReader) (recv : Recv) : Decidable (recv.Within reader) :=
  match recv with
  | .data _ => inferInstanceAs (Decidable (_ ∧ _))
  | .closed | .wouldBlock | .error => inferInstanceAs (Decidable True)

/-- One event.  After -1 the instance is cleaned before the next read. -/
def socketStep (s : SocketState) : SocketEvent → Option SocketState
  | .read alloc recv msgReceived =>
    if s.outcome = .goOn ∧ recv.Within s.reader then
      let (reader, outcome) := qdeviceNetSocketRead alloc msgReceived recv s.reader
      some ⟨reader, outcome⟩
    else none
  | .clean => if s.outcome = .exit then none else some ⟨s.reader.reset, .goOn⟩

/-- The reader of an instance whose receive buffer has some initial maximum size. -/
def socketMachine (maximumSize : Nat) : Runs.Machine SocketState SocketEvent where
  init := ⟨⟨{ maximumSize := maximumSize }, 0, false⟩, .goOn⟩
  step := socketStep

/-- The call does not complete the header of an empty message that is to be skipped. -/
def Recv.Reportable (reader : MsgReader) : Recv → Prop
  | .data bytes => ¬ SkipsEmpty reader bytes
  | .closed | .wouldBlock | .error => True

/-- The steps of a run in which every message to be skipped has a body. -/
def SocketEvent.Reportable (s : SocketState) : SocketEvent → Prop
  | .read alloc recv _ => alloc = true ∧ recv.Reportable s.reader
  | .clean => True

/-- What a call exits for, and what is kept by one that goes on. -/
theorem qdeviceNetSocketRead_spec {reader : MsgReader} {tail : List UInt8} {recv : Recv}
    (msgReceived : Dynar → MsgReceived) (h : reader.Follows tail)
    (hskip : reader.skippingMsg = false) (hwithin : recv.Within reader) {reader' : MsgReader}
    {outcome : SocketRead}
    (hread : qdeviceNetSocketRead true msgReceived recv reader = (reader', outcome)) :
    (outcome = .exit ↔ ¬ recv.Reportable reader) ∧
      (outcome = .goOn → reader'.skippingMsg = false ∧ ∃ tail', reader'.Follows tail') := by
  cases recv with
  | closed | error =>
    simp only [qdeviceNetSocketRead, msgioRead, Prod.mk.injEq] at hread
    obtain ⟨rfl, rfl⟩ := hread
    exact ⟨⟨(fun h => by cases h), fun hno => absurd trivial hno⟩, (fun h => by cases h)⟩
  | wouldBlock =>
    simp only [qdeviceNetSocketRead, msgioRead, Prod.mk.injEq] at hread
    obtain ⟨rfl, rfl⟩ := hread
    exact ⟨⟨(fun h => by cases h), fun hno => absurd trivial hno⟩, fun _ => ⟨hskip, tail, h⟩⟩
  | data bytes =>
    rw [qdeviceNetSocketRead] at hread
    cases hres : msgioRead true (.data bytes) reader with
    | mk reader₁ res =>
    rw [hres] at hread
    obtain ⟨hexit, hpartial⟩ := msgioRead_exit h hskip hwithin.1 hwithin.2 hres
    rw [Recv.Reportable, not_not, ← hexit]
    cases res with
    | partialRead =>
      cases hread
      obtain ⟨hfollows, hno⟩ := hpartial rfl
      exact ⟨⟨(fun h => by cases h), (fun h => by cases h.1)⟩, fun _ => ⟨hno, _, hfollows⟩⟩
    | fullMessage =>
      cases hfull : reader₁.skippingMsg with
      | true =>
        simp only [hfull, ↓reduceIte, Prod.mk.injEq] at hread
        obtain ⟨rfl, rfl⟩ := hread
        exact ⟨⟨fun _ => ⟨rfl, rfl⟩, fun _ => rfl⟩, (fun h => by cases h)⟩
      | false =>
        simp only [hfull, Bool.false_eq_true, ↓reduceIte, Prod.mk.injEq] at hread
        obtain ⟨rfl, rfl⟩ := hread
        refine ⟨⟨fun hno => ?_, (fun h => by cases h.2)⟩, fun _ => ⟨rfl, [], .reset _⟩⟩
        split at hno <;> cases hno
    | endOfConnection | unhandledError | cantStoreHeader | cantStoreMessage | invalidMsgType
    | msgTooLong =>
      cases hread
      exact ⟨⟨(fun h => by cases h), (fun h => by cases h.1)⟩, (fun h => by cases h)⟩

/-- A reader that may be called again is inside a message that is not skipped. -/
def SocketState.Inv (s : SocketState) : Prop :=
  s.outcome ≠ .exit ∧
    (s.outcome = .goOn → s.reader.skippingMsg = false ∧ ∃ tail, s.reader.Follows tail)

theorem socketMachine_inv {maximumSize : Nat} {s : SocketState}
    (h : (socketMachine maximumSize).Reach (fun s e => e.Reportable s) s) : s.Inv := by
  refine h.invariant SocketState.Inv ?_ ?_
  · refine ⟨(fun h => by cases h), fun _ => ⟨rfl, [], rfl, incomplete_nil, ?_, ⟨rfl, rfl⟩⟩⟩
    exact ⟨(fun h => by cases h), fun hno => absurd hno.1 (by decide)⟩
  · intro s s' e _ hinv hok hs
    cases e with
    | clean =>
      simp only [socketMachine, socketStep, hinv.1, ↓reduceIte, Option.some.injEq] at hs
      subst hs
      exact ⟨(fun h => by cases h), fun _ => ⟨rfl, [], .reset _⟩⟩
    | read alloc recv msgReceived =>
      obtain ⟨rfl, hreport⟩ := hok
      simp only [socketMachine, socketStep] at hs
      split at hs
      · next hready =>
        obtain ⟨hskip, tail, hfollows⟩ := hinv.2 hready.1
        obtain rfl := Option.some.inj hs
        obtain ⟨hexit, hgo⟩ :=
          qdeviceNetSocketRead_spec msgReceived hfollows hskip hready.2 rfl
        exact ⟨fun hno => hexit.mp hno hreport, hgo⟩
      · cases hs

/-- **Skipped messages**.  On the server every message is dealt with properly, a skipped one by
    exactly one answer that says why, exactly if no message of the stream has an unknown type
    and no body.  On the client the `exit` is not reached in runs without such a message, and
    where one arrives it is reached. -/
theorem skipped_reported_iff (maxReceiveSize maximumSize : Nat) :
    (6 ≤ maxReceiveSize → ∀ (client : ClientReader) (stream : List UInt8)
      (events : List ReadEvent), Reads maxReceiveSize client stream events →
      (events = (parseFrames stream).map (properEvent maxReceiveSize) ↔
        ∀ f ∈ parseFrames stream, ¬ f.UnknownAndEmpty)) ∧
    (∀ s : SocketState, (socketMachine maximumSize).Reach (fun s e => e.Reportable s) s →
      s.outcome ≠ .exit ∧
        ∀ (recv : Recv) (msgReceived : Dynar → MsgReceived) (s' : SocketState),
          (socketMachine maximumSize).step s (.read true recv msgReceived) = some s' →
          (s'.outcome = .exit ↔ ¬ recv.Reportable s.reader)) := by
  refine ⟨fun hmax _ _ _ h => events_proper_iff hmax h, fun s h => ?_⟩
  have hinv := socketMachine_inv h
  refine ⟨hinv.1, fun recv msgReceived s' hs => ?_⟩
  simp only [socketMachine, socketStep] at hs
  split at hs
  · next hready =>
    obtain ⟨hskip, tail, hfollows⟩ := hinv.2 hready.1
    obtain rfl := Option.some.inj hs
    exact (qdeviceNetSocketRead_spec msgReceived hfollows hskip hready.2 rfl).1
  · cases hs

/-- A message of type 65535 with a body of one byte: the server says that it does not support
    it, and the client disconnects. -/
theorem skipped_reported_with_body :
    (∃ client events, Reads 32768 client [255, 255, 0, 0, 0, 1, 7] events ∧
      events = [.sentErr .unsupportedMessage]) ∧
    ∃ s, (socketMachine 32768).Reach (fun s e => e.Reportable s) s ∧
      s.outcome = .disconnect ∧ s.outcome ≠ .exit := by
  constructor
  · have hrun : ∃ client events, Reads 32768 client [255, 255, 0, 0, 0, 1, 7] events :=
      ⟨_, _, .data (.data .init true [255, 255, 0, 0, 0, 1] (by decide) (by decide))
        true [7] (by decide) (by decide)⟩
    obtain ⟨client, events, hrun⟩ := hrun
    have hparse : parseFrames [255, 255, 0, 0, 0, 1, 7] = [⟨65535, [7], by decide⟩] :=
      parseFrames_single (by decide)
    have hproper := ((skipped_reported_iff 32768 32768).1 (by decide) client _ events hrun).mpr
      (by rw [hparse]; decide)
    rw [hparse] at hproper
    exact ⟨client, events, hrun, hproper⟩
  · have hreach : ∃ s, (socketMachine 32768).Reach (fun s e => e.Reportable s) s ∧
        s.outcome = .disconnect :=
      ⟨_, .step .init (e := .read true (.data [255, 255, 0, 0, 0, 1]) fun _ => ⟨false, none⟩)
        ⟨rfl, show ¬ SkipsEmpty _ _ by decide⟩ rfl, rfl⟩
    obtain ⟨s, hreach, hout⟩ := hreach
    exact ⟨s, hreach, hout, ((skipped_reported_iff 32768 32768).2 s hreach).1⟩

/-- Without a body the server answers NO_ERROR and the client exits. -/
theorem skipped_unreported :
    (∃ client, Reads 32768 client [255, 255, 0, 0, 0, 0] [.sentErr .noError]) ∧
    ¬ (∀ client stream events, Reads 32768 client stream events →
      events = (parseFrames stream).map (properEvent 32768)) ∧
    ∃ s, (socketMachine 32768).Reach (fun _ _ => True) s ∧ s.outcome = .exit := by
  have hrun : ∃ client, Reads 32768 client [255, 255, 0, 0, 0, 0] [.sentErr .noError] :=
    ⟨_, .data .init true [255, 255, 0, 0, 0, 0] (by decide) (by decide)⟩
  refine ⟨hrun, fun hall => ?_, _, .step .init
    (e := .read true (.data [255, 255, 0, 0, 0, 0]) fun _ => ⟨false, none⟩) trivial rfl, rfl⟩
  obtain ⟨client, hrun⟩ := hrun
  have hparse : parseFrames [255, 255, 0, 0, 0, 0] = [⟨65535, [], by decide⟩] :=
    parseFrames_single (by decide)
  have hproper := hall client _ _ hrun
  rw [hparse] at hproper
  exact absurd hproper (by decide)

end Qdevice
