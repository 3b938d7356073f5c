import Qdevice.Native.Msgio

/-! # Framing of received messages

The stream a client sends is a sequence of frames: a 2-byte type, a 4-byte length and a
body of that length.  `parseFrames` cuts a stream into frames at once.  `Follows` says what
the reader looks like after a part of a frame, `msgioRead_data` and `qnetdClientNetRead_data`
follow it through one call, and `reads_framed` through any number of them: whatever the
pieces `PR_Recv` returns, one thing is done for each complete frame. -/

namespace Qdevice

/-! ### Headers -/

theorem headerLen_take (l : List UInt8) {n : Nat} (h : 6 ≤ n) :
    headerLen (l.take n) = headerLen l := by
  rw [headerLen, headerLen, List.drop_take, List.take_take, Nat.min_eq_left (by omega)]

theorem knownType_take (l : List UInt8) {n : Nat} (h : 2 ≤ n) :
    knownType (l.take n) = knownType l := by
  have htype : headerType (l.take n) = headerType l := by
    rw [headerType, headerType, List.take_take, Nat.min_eq_left h]
  simp only [knownType, htype]

theorem headerLen_append {l : List UInt8} (h : 6 ≤ l.length) (r : List UInt8) :
    headerLen (l ++ r) = headerLen l := by
  rw [← headerLen_take (l ++ r) (Nat.le_refl 6), List.take_append_of_le_length h,
    headerLen_take l (Nat.le_refl 6)]

theorem knownType_append {l : List UInt8} (h : 6 ≤ l.length) (r : List UInt8) :
    knownType (l ++ r) = knownType l := by
  rw [← knownType_take (l ++ r) (n := 2) (Nat.le_refl 2),
    List.take_append_of_le_length (by omega), knownType_take l (Nat.le_refl 2)]

/-- The server takes the message: a known type, and not longer than the receive buffer. -/
def Takes (maximumSize : Nat) (header : List UInt8) : Prop :=
  knownType header = true ∧ 6 + headerLen header ≤ maximumSize

instance (maximumSize : Nat) (header : List UInt8) : Decidable (Takes maximumSize header) :=
  inferInstanceAs (Decidable (_ ∧ _))

theorem takes_append {maximumSize : Nat} {l : List UInt8} (h : 6 ≤ l.length) (r : List UInt8) :
    Takes maximumSize (l ++ r) ↔ Takes maximumSize l := by
  rw [Takes, Takes, headerLen_append h, knownType_append h]

/-- Why a message is skipped. -/
def refusal (header : List UInt8) : TlvReplyErrorCode :=
  if knownType header = false then .unsupportedMessage else .messageTooLong

/-! ### Frames -/

/-- A framed message: any type, and a body whose length fits its field. -/
structure Frame where
  type : UInt16
  body : List UInt8
  fits : body.length < 2 ^ 32
deriving DecidableEq

namespace Frame

/-- The bytes of a frame. -/
def bytes (f : Frame) : List UInt8 :=
  BigEndian.toBytes 2 f.type.toNat ++ (BigEndian.toBytes 4 f.body.length ++ f.body)

theorem length_bytes (f : Frame) : f.bytes.length = 6 + f.body.length := by
  simp only [bytes, List.length_append, BigEndian.length_toBytes]
  omega

theorem headerType_bytes_append (f : Frame) (rest : List UInt8) :
    headerType (f.bytes ++ rest) = f.type := by
  have htype := f.type.toNat_lt
  rw [headerType, bytes, List.append_assoc, List.take_left' (BigEndian.length_toBytes 2 _),
    BigEndian.ofBytes_toBytes_of_lt (by omega), UInt16.ofNat_toNat]

theorem headerLen_bytes_append (f : Frame) (rest : List UInt8) :
    headerLen (f.bytes ++ rest) = f.body.length := by
  have hfits := f.fits
  rw [headerLen, bytes, List.append_assoc, List.drop_left' (BigEndian.length_toBytes 2 _),
    List.append_assoc, List.take_left' (BigEndian.length_toBytes 4 _),
    BigEndian.ofBytes_toBytes_of_lt (by omega), UInt32.toNat_ofNat_of_lt' hfits]

theorem headerLen_bytes (f : Frame) : headerLen f.bytes = f.body.length := by
  rw [← List.append_nil f.bytes, headerLen_bytes_append]

theorem drop_header_bytes (f : Frame) : f.bytes.drop 6 = f.body := by
  rw [bytes, ← List.append_assoc, List.drop_left']
  simp only [List.length_append, BigEndian.length_toBytes]

/-- The frame at the front of a byte list, which may hold less than all of it. -/
def front (stream : List UInt8) : Frame where
  type := headerType stream
  body := (stream.drop 6).take (headerLen stream)
  fits := Nat.lt_of_le_of_lt (List.length_take_le _ _) (UInt32.toNat_lt _)

theorem front_bytes_append (f : Frame) (rest : List UInt8) : front (f.bytes ++ rest) = f := by
  have hlen := f.length_bytes
  have hdrop : (f.bytes ++ rest).drop 6 = f.body ++ rest := by
    rw [List.drop_append_of_le_length (by omega), drop_header_bytes]
  have hbody : ((f.bytes ++ rest).drop 6).take (headerLen (f.bytes ++ rest)) = f.body := by
    rw [headerLen_bytes_append, hdrop, List.take_left]
  have htype := headerType_bytes_append f rest
  cases f
  simp only [front, mk.injEq]
  exact ⟨htype, hbody⟩

/-- A byte list that holds a complete frame starts with the bytes of that frame. -/
theorem bytes_front {stream : List UInt8} (h : 6 + headerLen stream ≤ stream.length) :
    (front stream).bytes = stream.take (6 + headerLen stream) := by
  have hbody : ((stream.drop 6).take (headerLen stream)).length = headerLen stream := by
    simp only [List.length_take, List.length_drop]
    omega
  have htwo : (stream.take 2).length = 2 := by rw [List.length_take]; omega
  have hfour : ((stream.drop 2).take 4).length = 4 := by
    simp only [List.length_take, List.length_drop]
    omega
  have htype : BigEndian.toBytes 2 (headerType stream).toNat = stream.take 2 := by
    rw [headerType, UInt16.toNat_ofNat_of_lt' (BigEndian.ofBytes_lt htwo),
      BigEndian.toBytes_ofBytes htwo]
  have hlength : BigEndian.toBytes 4 (headerLen stream) = (stream.drop 2).take 4 := by
    rw [headerLen, UInt32.toNat_ofNat_of_lt' (BigEndian.ofBytes_lt hfour),
      BigEndian.toBytes_ofBytes hfour]
  rw [bytes, front]
  dsimp only
  rw [hbody, htype, hlength, Nat.add_comm 6, show headerLen stream + 6 = 2 + (4 + headerLen stream)
    by omega, List.take_add, List.take_add, List.drop_drop]

end Frame

/-- Less than a frame: the header is not there yet, or not all that it announces.  Too short
    a list has no length field, and then whatever is read from it does not matter. -/
def Incomplete (tail : List UInt8) : Prop := tail.length < 6 + headerLen tail

/-- Cut a stream into its complete frames, all at once. -/
def parseFrames (stream : List UInt8) : List Frame :=
  if _h : 6 + headerLen stream ≤ stream.length then
    Frame.front stream :: parseFrames (stream.drop (6 + headerLen stream))
  else []
termination_by stream.length
decreasing_by
  rw [List.length_drop]
  omega

theorem parseFrames_bytes_append (f : Frame) (rest : List UInt8) :
    parseFrames (f.bytes ++ rest) = f :: parseFrames rest := by
  have hlen := f.length_bytes
  have hhead := f.headerLen_bytes_append rest
  rw [parseFrames, dif_pos (by rw [hhead, List.length_append]; omega), f.front_bytes_append, hhead,
    ← hlen, List.drop_left]

theorem parseFrames_incomplete {tail : List UInt8} (h : Incomplete tail) : parseFrames tail = [] := by
  rw [parseFrames, dif_neg (by rw [Incomplete] at h; omega)]

/-- Parsing finds the frames a stream was made of. -/
theorem parseFrames_flatMap_append (done : List Frame) {tail : List UInt8} (h : Incomplete tail) :
    parseFrames (done.flatMap Frame.bytes ++ tail) = done := by
  induction done with
  | nil => exact parseFrames_incomplete h
  | cons f done ih => rw [List.flatMap_cons, List.append_assoc, parseFrames_bytes_append, ih]

theorem incomplete_nil : Incomplete [] := by
  simp only [Incomplete, List.length_nil]
  omega

theorem parseFrames_single {f : Frame} {stream : List UInt8} (h : f.bytes = stream) :
    parseFrames stream = [f] := by
  rw [← h, ← List.append_nil f.bytes, parseFrames_bytes_append,
    parseFrames_incomplete incomplete_nil]

/-! ### The reader -/

/-- The content of the receive buffer. -/
structure ReceiveBuffer.Holds (msg : ReceiveBuffer) (content : List UInt8) : Prop where
  memory : msg.memory.take msg.size = content
  size : msg.size = content.length

namespace ReceiveBuffer.Holds

variable {msg : ReceiveBuffer} {content : List UInt8}

theorem clean (msg : ReceiveBuffer) : msg.clean.Holds [] :=
  ⟨List.take_zero, rfl⟩

theorem toDynar (h : msg.Holds content) : msg.toDynar = ⟨content, msg.maximumSize⟩ := by
  rw [ReceiveBuffer.toDynar, h.memory]

theorem cat (h : msg.Holds content) {bytes : List UInt8}
    (hfits : content.length + bytes.length ≤ msg.maximumSize) :
    ∃ msg', msg.cat true bytes = some msg' ∧ msg'.Holds (content ++ bytes) ∧
      msg'.maximumSize = msg.maximumSize := by
  have hsize := h.size
  have hlength : (content ++ bytes).length = msg.size + bytes.length := by
    rw [List.length_append, hsize]
  have hno : ¬ (msg.size + bytes.length > msg.maximumSize ∨ true = false) := by
    rintro (hlong | hnever)
    · omega
    · cases hnever
  refine ⟨_, if_neg hno, ⟨?_, hlength.symm⟩, rfl⟩
  dsimp only
  rw [h.memory, ← hlength, List.take_left]

/-- Once the header is stored, its fields are read from the memory. -/
theorem headerLen_memory (h : msg.Holds content) (hheader : 6 ≤ content.length) :
    headerLen msg.memory = headerLen content := by
  rw [← h.memory, headerLen_take _ (by rw [h.size]; exact hheader)]

theorem knownType_memory (h : msg.Holds content) (hheader : 6 ≤ content.length) :
    knownType msg.memory = knownType content := by
  rw [← h.memory, knownType_take _ (by rw [h.size]; omega)]

end ReceiveBuffer.Holds

/-- What the reader looks like after `tail`, a part of a frame.  Of a message that is skipped
    the buffer has the header only. -/
structure MsgReader.Follows (reader : MsgReader) (tail : List UInt8) : Prop where
  received : reader.msgAlreadyReceivedBytes = tail.length
  incomplete : Incomplete tail
  skipping : reader.skippingMsg = true ↔
    6 ≤ tail.length ∧ ¬ Takes reader.receiveBuffer.maximumSize tail
  holds : reader.receiveBuffer.Holds (if reader.skippingMsg then tail.take 6 else tail)

/-- The length of a message whose header is complete is read from the memory. -/
theorem MsgReader.Follows.headerLen_memory {reader : MsgReader} {tail : List UInt8}
    (h : reader.Follows tail) (hheader : 6 ≤ tail.length) :
    headerLen reader.receiveBuffer.memory = headerLen tail := by
  have hholds := h.holds
  split at hholds
  · rw [hholds.headerLen_memory (by rw [List.length_take]; omega), headerLen_take _ (Nat.le_refl 6)]
  · exact hholds.headerLen_memory hheader

theorem MsgReader.Follows.reset (reader : MsgReader) : reader.reset.Follows [] where
  received := rfl
  incomplete := incomplete_nil
  skipping := by
    constructor
    · intro h
      cases h
    · rintro ⟨h, _⟩
      exact absurd h (by decide)
  holds := .clean reader.receiveBuffer

/-- What `msgio_read` returns when the message is not complete: the verdict on its header, in
    the call that completes the header. -/
def headerResult (maximumSize : Nat) (tail stream : List UInt8) : MsgioResult :=
  if tail.length < 6 ∧ 6 ≤ stream.length ∧ ¬ Takes maximumSize stream then
    if knownType stream = false then .invalidMsgType else .msgTooLong
  else .partialRead

/-- What one call of `msgio_read` has done with the bytes that make `tail` into `stream`. -/
inductive ReadStep (maximumSize : Nat) (tail stream : List UInt8) : MsgReader × MsgioResult → Prop where
  | more {reader : MsgReader} (max : reader.receiveBuffer.maximumSize = maximumSize)
      (follows : reader.Follows stream) :
      ReadStep maximumSize tail stream (reader, headerResult maximumSize tail stream)
  | taken {reader : MsgReader} (max : reader.receiveBuffer.maximumSize = maximumSize)
      (complete : stream.length = 6 + headerLen stream) (takes : Takes maximumSize stream)
      (skipping : reader.skippingMsg = false) (holds : reader.receiveBuffer.Holds stream) :
      ReadStep maximumSize tail stream (reader, .fullMessage)
  | skipped {reader : MsgReader} (max : reader.receiveBuffer.maximumSize = maximumSize)
      (complete : stream.length = 6 + headerLen stream) (refused : ¬ Takes maximumSize stream)
      (skipping : reader.skippingMsg = true) :
      ReadStep maximumSize tail stream (reader, .fullMessage)

/-- The three parts of `msgio_read`: storing, looking at the header, and the test for a
    complete message. -/
theorem msgioRead_eq {alloc : Bool} {bytes : List UInt8} {reader reader₁ reader₂ : MsgReader}
    {ret₁ ret₂ : MsgioResult} (hstore : msgioStore alloc bytes reader = (reader₁, ret₁))
    (hkept : ¬ (reader₁.skippingMsg = true ∧ reader₁.msgAlreadyReceivedBytes < msgGetHeaderLength))
    (hcheck : msgioCheckHeader reader₁ ret₁ = (reader₂, ret₂)) :
    msgioRead alloc (.data bytes) reader =
      (reader₂, if reader₂.msgAlreadyReceivedBytes ≥ msgGetHeaderLength ∧
          reader₂.msgAlreadyReceivedBytes =
            msgGetHeaderLength + headerLen reader₂.receiveBuffer.memory then
        .fullMessage
      else ret₂) := by
  simp only [msgioRead, hstore, if_neg hkept, hcheck]
  split <;> rfl

/-- The test for a complete message, once the header is there and was looked at. -/
private theorem readStep_finish (reader : MsgReader) {tail stream : List UInt8}
    (hheader : 6 ≤ stream.length) (hle : stream.length ≤ 6 + headerLen stream)
    (hreceived : reader.msgAlreadyReceivedBytes = stream.length)
    (hskip : reader.skippingMsg = true ↔ ¬ Takes reader.receiveBuffer.maximumSize stream)
    (hholds : reader.receiveBuffer.Holds (if reader.skippingMsg then stream.take 6 else stream)) :
    ReadStep reader.receiveBuffer.maximumSize tail stream
      (reader, if reader.msgAlreadyReceivedBytes ≥ msgGetHeaderLength ∧
          reader.msgAlreadyReceivedBytes =
            msgGetHeaderLength + headerLen reader.receiveBuffer.memory then
        .fullMessage
      else headerResult reader.receiveBuffer.maximumSize tail stream) := by
  have hmemory : headerLen reader.receiveBuffer.memory = headerLen stream := by
    split at hholds
    · rw [hholds.headerLen_memory (by rw [List.length_take]; omega), headerLen_take _ (Nat.le_refl 6)]
    · exact hholds.headerLen_memory hheader
  rw [hmemory, hreceived]
  split
  · next hcomplete =>
    by_cases htakes : Takes reader.receiveBuffer.maximumSize stream
    · have hno : reader.skippingMsg = false := by
        rw [Bool.eq_false_iff, Ne, hskip]
        exact fun hrefused => hrefused htakes
      rw [hno] at hholds
      exact .taken rfl hcomplete.2 htakes hno hholds
    · exact .skipped rfl hcomplete.2 htakes (hskip.mpr htakes)
  · next hpart =>
    have hincomplete : Incomplete stream := by
      simp only [msgGetHeaderLength] at hpart
      rw [Incomplete]
      omega
    exact .more rfl ⟨hreceived, hincomplete, by rw [hskip]; tauto, hholds⟩

/-- Storing bytes of a message that is not skipped, and that fit. -/
theorem msgioStore_filling {reader : MsgReader} {tail bytes : List UInt8}
    (h : reader.Follows tail) (hskip : reader.skippingMsg = false)
    (hfits : (tail ++ bytes).length ≤ reader.receiveBuffer.maximumSize) :
    ∃ msg, msgioStore true bytes reader = (⟨msg, (tail ++ bytes).length, false⟩, .partialRead) ∧
      msg.Holds (tail ++ bytes) ∧ msg.maximumSize = reader.receiveBuffer.maximumSize := by
  have hholds := h.holds
  simp only [hskip, Bool.false_eq_true, ↓reduceIte] at hholds
  obtain ⟨msg, hcat, hmsg, hmsgmax⟩ := hholds.cat (by rwa [List.length_append] at hfits)
  refine ⟨msg, ?_, hmsg, hmsgmax⟩
  simp only [msgioStore, hskip, Bool.false_eq_true, ↓reduceIte, hcat, h.received,
    List.length_append]

/-- The look at a header that was just completed. -/
private theorem msgioCheckHeader_complete {msg : ReceiveBuffer} {tail stream : List UInt8}
    (hmsg : msg.Holds stream) (htail : tail.length < 6) (hfull : stream.length = 6) :
    msgioCheckHeader ⟨msg, stream.length, false⟩ .partialRead =
      (⟨msg, stream.length, decide (¬ Takes msg.maximumSize stream)⟩,
        headerResult msg.maximumSize tail stream) := by
  have hsix : 6 ≤ stream.length := Nat.le_of_eq hfull.symm
  simp only [msgioCheckHeader, hfull, msgGetHeaderLength, true_and, ↓reduceIte, headerResult, htail,
    Nat.le_refl, hmsg.headerLen_memory hsix, hmsg.knownType_memory hsix]
  cases hknown : knownType stream with
  | false =>
    have hrefused : ¬ Takes msg.maximumSize stream := fun htakes =>
      absurd (hknown.symm.trans htakes.1) Bool.false_ne_true
    simp only [hrefused, ↓reduceIte, not_false_eq_true, decide_true]
  | true =>
    by_cases hlong : 6 + headerLen stream > msg.maximumSize
    · have hrefused : ¬ Takes msg.maximumSize stream := fun htakes =>
        absurd htakes.2 (Nat.not_le_of_gt hlong)
      simp only [hlong, hrefused, ↓reduceIte, not_false_eq_true, decide_true, Bool.true_eq_false]
    · have htakes : Takes msg.maximumSize stream := ⟨hknown, Nat.le_of_not_lt hlong⟩
      simp only [hlong, htakes, ↓reduceIte, not_true, decide_false, Bool.true_eq_false]

/-- `msgio_read` asks for the header first, and for no byte more. -/
theorem MsgReader.Follows.length_le_six {reader : MsgReader} {tail bytes : List UInt8}
    (h : reader.Follows tail) (htail : tail.length < 6) (hlen : bytes.length ≤ msgioToRead reader) :
    (tail ++ bytes).length ≤ 6 := by
  rw [msgioToRead, if_pos (by rw [h.received]; exact htail), msgGetHeaderLength, h.received] at hlen
  rw [List.length_append]
  omega

/-- The header is not complete before the call. -/
private theorem msgioRead_header {reader : MsgReader} {tail bytes : List UInt8}
    (hmax : 6 ≤ reader.receiveBuffer.maximumSize) (h : reader.Follows tail)
    (htail : tail.length < 6) (hlen : bytes.length ≤ msgioToRead reader) :
    ReadStep reader.receiveBuffer.maximumSize tail (tail ++ bytes)
      (msgioRead true (.data bytes) reader) := by
  have hsix := h.length_le_six htail hlen
  have hskip : reader.skippingMsg = false := by
    rw [Bool.eq_false_iff, Ne, h.skipping]
    omega
  obtain ⟨msg, hstore, hmsg, hmsgmax⟩ := msgioStore_filling h hskip (Nat.le_trans hsix hmax)
  have hkept : ¬ ((⟨msg, (tail ++ bytes).length, false⟩ : MsgReader).skippingMsg = true ∧
      (tail ++ bytes).length < msgGetHeaderLength) := fun hno => by cases hno.1
  rw [← hmsgmax]
  by_cases hfull : (tail ++ bytes).length = 6
  · rw [msgioRead_eq hstore hkept (msgioCheckHeader_complete hmsg htail hfull)]
    refine readStep_finish ⟨msg, _, decide (¬ Takes msg.maximumSize (tail ++ bytes))⟩
      (Nat.le_of_eq hfull.symm) (by omega) rfl decide_eq_true_iff ?_
    dsimp only
    split
    · rw [List.take_of_length_le hsix]
      exact hmsg
    · exact hmsg
  · have hcheck : msgioCheckHeader ⟨msg, (tail ++ bytes).length, false⟩ .partialRead =
        (⟨msg, (tail ++ bytes).length, false⟩, .partialRead) :=
      if_neg fun hno => hfull hno.2
    have hresult : headerResult msg.maximumSize tail (tail ++ bytes) = .partialRead :=
      if_neg (by omega)
    rw [msgioRead_eq hstore hkept hcheck, if_neg (by simp only [msgGetHeaderLength]; omega), ← hresult]
    refine .more rfl ⟨rfl, by rw [Incomplete]; omega, ?_, hmsg⟩
    constructor
    · intro hno
      cases hno
    · intro hno
      omega

/-- The header is complete before the call, and the message is skipped. -/
private theorem msgioRead_skipping {reader : MsgReader} {tail bytes : List UInt8}
    (h : reader.Follows tail) (hheader : 6 ≤ tail.length)
    (hskip : reader.skippingMsg = true)
    (hle : (tail ++ bytes).length ≤ 6 + headerLen tail) :
    ReadStep reader.receiveBuffer.maximumSize tail (tail ++ bytes)
      (msgioRead true (.data bytes) reader) := by
  have hstore : msgioStore true bytes reader =
      ({ reader with msgAlreadyReceivedBytes := (tail ++ bytes).length }, .partialRead) := by
    simp only [msgioStore, hskip, ↓reduceIte, h.received, List.length_append]
  have hlong : 6 ≤ (tail ++ bytes).length := by
    rw [List.length_append]
    omega
  have hresult : headerResult reader.receiveBuffer.maximumSize tail (tail ++ bytes) =
      .partialRead := if_neg (by omega)
  rw [msgioRead_eq hstore (by simp only [msgGetHeaderLength]; omega)
    (if_neg (by rw [hskip]; exact fun hno => by cases hno.1)), ← hresult]
  refine readStep_finish { reader with msgAlreadyReceivedBytes := _ } hlong
    (by rw [headerLen_append hheader]; exact hle) rfl ?_ ?_
  · dsimp only
    rw [takes_append hheader, h.skipping]
    exact ⟨And.right, And.intro hheader⟩
  · have hholds := h.holds
    simp only [hskip, ↓reduceIte] at hholds ⊢
    rw [List.take_append_of_le_length hheader]
    exact hholds

/-- The header is complete before the call, and the message is taken. -/
private theorem msgioRead_filling {reader : MsgReader} {tail bytes : List UInt8}
    (h : reader.Follows tail) (hheader : 6 ≤ tail.length) (hpos : 1 ≤ bytes.length)
    (hskip : reader.skippingMsg = false)
    (hle : (tail ++ bytes).length ≤ 6 + headerLen tail) :
    ReadStep reader.receiveBuffer.maximumSize tail (tail ++ bytes)
      (msgioRead true (.data bytes) reader) := by
  have htakes : Takes reader.receiveBuffer.maximumSize tail := by
    by_contra hrefused
    rw [h.skipping.mpr ⟨hheader, hrefused⟩] at hskip
    cases hskip
  obtain ⟨msg, hstore, hmsg, hmsgmax⟩ :=
    msgioStore_filling h hskip (Nat.le_trans hle htakes.2)
  have hlong : 6 < (tail ++ bytes).length := by
    rw [List.length_append]
    omega
  have hresult : headerResult msg.maximumSize tail (tail ++ bytes) = .partialRead :=
    if_neg (by omega)
  rw [← hmsgmax, msgioRead_eq hstore (fun hno => by cases hno.1)
    (if_neg (by simp only [msgGetHeaderLength]; omega)), ← hresult]
  refine readStep_finish ⟨msg, _, false⟩ (Nat.le_of_lt hlong)
    (by rw [headerLen_append hheader]; exact hle) rfl ?_ hmsg
  rw [takes_append hheader, hmsgmax]
  exact ⟨(fun h => by cases h), fun hrefused => absurd htakes hrefused⟩

/-- One call of `msgio_read` on a part of a frame. -/
theorem msgioRead_data {reader : MsgReader} {tail bytes : List UInt8}
    (hmax : 6 ≤ reader.receiveBuffer.maximumSize) (h : reader.Follows tail)
    (hpos : 1 ≤ bytes.length) (hlen : bytes.length ≤ msgioToRead reader) :
    ReadStep reader.receiveBuffer.maximumSize tail (tail ++ bytes)
      (msgioRead true (.data bytes) reader) := by
  by_cases htail : tail.length < 6
  · exact msgioRead_header hmax h htail hlen
  · have hheader : 6 ≤ tail.length := Nat.le_of_not_lt htail
    have hincomplete := h.incomplete
    have hle : (tail ++ bytes).length ≤ 6 + headerLen tail := by
      rw [msgioToRead, h.received, msgGetHeaderLength, if_neg htail, h.headerLen_memory hheader] at hlen
      simp only [Incomplete, List.length_append] at *
      omega
    cases hskip : reader.skippingMsg with
    | true => exact msgioRead_skipping h hheader hskip hle
    | false => exact msgioRead_filling h hheader hpos hskip hle

/-- There is always something left to ask for. -/
theorem MsgReader.Follows.one_le_toRead {reader : MsgReader} {tail : List UInt8}
    (h : reader.Follows tail) : 1 ≤ msgioToRead reader := by
  have hincomplete := h.incomplete
  rw [Incomplete] at hincomplete
  rw [msgioToRead, h.received, msgGetHeaderLength]
  split
  · omega
  · next htail =>
    rw [h.headerLen_memory (Nat.le_of_not_lt htail)]
    omega

/-! ### The server -/

/-- A client whose reader is at `tail`, with the reason that is sent if the message is skipped. -/
structure ClientReader.Follows (client : ClientReader) (tail : List UInt8) : Prop where
  reader : client.reader.Follows tail
  reason : client.skippingMsgReason =
    if client.reader.skippingMsg then refusal tail else .noError

/-- What is done with a complete message.  For a message of an unknown type with no body
    `msgio_read` returns 1 in the call that finds out about the type, so that the reason is
    not set. -/
def frameEvent (maximumSize : Nat) (f : Frame) : ReadEvent :=
  if Takes maximumSize f.bytes then .received ⟨f.bytes, maximumSize⟩
  else .sentErr (if knownType f.bytes = false ∧ f.body = [] then .noError else refusal f.bytes)

/-- A complete list of bytes is a frame. -/
theorem exists_frame {stream : List UInt8} (h : stream.length = 6 + headerLen stream) :
    ∃ f : Frame, f.bytes = stream :=
  ⟨Frame.front stream, by rw [Frame.bytes_front (Nat.le_of_eq h.symm), ← h, List.take_length]⟩

/-- What one call of `qnetd_client_net_read` has done with the bytes that make `tail` into
    `stream`: nothing that can be seen, or one thing because of one complete frame. -/
inductive ClientStep (maximumSize : Nat) (handled : Bool) (stream : List UInt8) :
    ClientReader × Option ReadEvent × Bool → Prop where
  | more {client : ClientReader} (max : client.reader.receiveBuffer.maximumSize = maximumSize)
      (follows : client.Follows stream) :
      ClientStep maximumSize handled stream (client, none, false)
  | complete {client : ClientReader} (max : client.reader.receiveBuffer.maximumSize = maximumSize)
      (follows : client.Follows []) (f : Frame) (bytes : f.bytes = stream) :
      ClientStep maximumSize handled stream (client, some (frameEvent maximumSize f), !handled)

private theorem follows_next (reader : MsgReader) :
    ClientReader.Follows { reader := reader.reset } [] :=
  ⟨.reset reader, rfl⟩

/-- The reason a client has after a call that did not complete its message. -/
private theorem follows_more {client : ClientReader} {reader : MsgReader}
    {tail bytes : List UInt8} (h : client.Follows tail)
    (hmax : reader.receiveBuffer.maximumSize = client.reader.receiveBuffer.maximumSize)
    (hfollows : reader.Follows (tail ++ bytes))
    (hnew : ¬ (tail.length < 6 ∧ 6 ≤ (tail ++ bytes).length ∧
      ¬ Takes client.reader.receiveBuffer.maximumSize (tail ++ bytes))) :
    ClientReader.Follows { client with reader := reader } (tail ++ bytes) := by
  refine ⟨hfollows, ?_⟩
  have hbefore := h.reader.skipping
  have hafter := hfollows.skipping
  rw [hmax] at hafter
  dsimp only
  rw [h.reason]
  by_cases htail : 6 ≤ tail.length
  · -- The header was complete, and nothing about it changes.
    have hsame : reader.skippingMsg = client.reader.skippingMsg := by
      rw [Bool.eq_iff_iff, hafter, hbefore, takes_append htail, List.length_append]
      exact ⟨fun ⟨_, hrefused⟩ => ⟨htail, hrefused⟩, fun ⟨_, hrefused⟩ => ⟨by omega, hrefused⟩⟩
    rw [hsame, refusal, refusal, knownType_append htail]
  · have hno : client.reader.skippingMsg = false := by
      rw [Bool.eq_false_iff, Ne, hbefore]
      exact fun hskip => htail hskip.1
    have hno' : reader.skippingMsg = false := by
      rw [Bool.eq_false_iff, Ne, hafter]
      exact fun hskip => hnew ⟨Nat.lt_of_not_le htail, hskip⟩
    rw [hno, hno']
    rfl

/-- The code that is sent for a message that was skipped. -/
private theorem reason_skipped {client : ClientReader} {tail bytes : List UInt8} {f : Frame}
    (hmax : 6 ≤ client.reader.receiveBuffer.maximumSize) (h : client.Follows tail)
    (hlen : bytes.length ≤ msgioToRead client.reader) (hbytes : f.bytes = tail ++ bytes)
    (hrefused : ¬ Takes client.reader.receiveBuffer.maximumSize f.bytes) :
    ReadEvent.sentErr client.skippingMsgReason =
      frameEvent client.reader.receiveBuffer.maximumSize f := by
  have hlength := f.length_bytes
  have hskip := h.reader.skipping
  rw [frameEvent, if_neg hrefused, h.reason]
  by_cases htail : 6 ≤ tail.length
  · -- The reason was set in an earlier call, and there is a body.
    have hbody : f.body ≠ [] := by
      intro hnil
      have hincomplete := h.reader.incomplete
      rw [Incomplete, ← headerLen_append htail bytes, ← hbytes, f.headerLen_bytes, hnil,
        List.length_nil] at hincomplete
      omega
    rw [hbytes, takes_append htail] at hrefused
    rw [if_pos (hskip.mpr ⟨htail, hrefused⟩), if_neg fun hno => hbody hno.2, hbytes, refusal,
      refusal, knownType_append htail]
  · -- The header and the message are complete at once.
    have hsix := h.reader.length_le_six (Nat.lt_of_not_le htail) hlen
    rw [← hbytes, hlength] at hsix
    have hbody : f.body = [] := List.eq_nil_of_length_eq_zero (by omega)
    have hunknown : knownType f.bytes = false := by
      rw [Bool.eq_false_iff]
      intro hknown
      rw [Takes, f.headerLen_bytes, hbody] at hrefused
      exact hrefused ⟨hknown, hmax⟩
    rw [if_neg fun hno => htail (hskip.mp hno).1, if_pos ⟨hunknown, hbody⟩]

/-- One call of `qnetd_client_net_read` on a part of a frame. -/
theorem qnetdClientNetRead_data {client : ClientReader} {tail bytes : List UInt8} (handled : Bool)
    (hmax : 6 ≤ client.reader.receiveBuffer.maximumSize) (h : client.Follows tail)
    (hpos : 1 ≤ bytes.length) (hlen : bytes.length ≤ msgioToRead client.reader) :
    ClientStep client.reader.receiveBuffer.maximumSize handled (tail ++ bytes)
      (qnetdClientNetRead true handled (.data bytes) client) := by
  have hread := msgioRead_data hmax h.reader hpos hlen
  rw [qnetdClientNetRead]
  cases hres : msgioRead true (.data bytes) client.reader with
  | mk reader res =>
  rw [hres] at hread
  cases hread with
  | more hsame hfollows =>
    by_cases hnew : tail.length < 6 ∧ 6 ≤ (tail ++ bytes).length ∧
        ¬ Takes client.reader.receiveBuffer.maximumSize (tail ++ bytes)
    · have hskip : reader.skippingMsg = true := by
        rw [hfollows.skipping, hsame]
        exact hnew.2
      cases hknown : knownType (tail ++ bytes) with
      | false =>
        have hclient : ClientReader.Follows ⟨reader, .unsupportedMessage⟩ (tail ++ bytes) :=
          ⟨hfollows, by rw [if_pos hskip, refusal, if_pos hknown]⟩
        rw [headerResult, if_pos hnew, if_pos hknown]
        exact .more hsame hclient
      | true =>
        have hnot : ¬ knownType (tail ++ bytes) = false := by
          rw [hknown]
          exact fun hno => by cases hno
        have hclient : ClientReader.Follows ⟨reader, .messageTooLong⟩ (tail ++ bytes) :=
          ⟨hfollows, by rw [if_pos hskip, refusal, if_neg hnot]⟩
        rw [headerResult, if_pos hnew, if_neg hnot]
        exact .more hsame hclient
    · rw [headerResult, if_neg hnew]
      exact .more hsame (follows_more h hsame hfollows hnew)
  | taken hsame hcomplete htakes hskip hholds =>
    obtain ⟨f, hf⟩ := exists_frame hcomplete
    have hevent : (if reader.skippingMsg then ReadEvent.sentErr client.skippingMsgReason
        else .received reader.receiveBuffer.toDynar) =
        frameEvent client.reader.receiveBuffer.maximumSize f := by
      rw [if_neg (by rw [hskip]; exact Bool.false_ne_true), frameEvent, hf, if_pos htakes,
        hholds.toDynar, hsame]
    dsimp only
    rw [hevent]
    exact .complete hsame (follows_next reader) f hf
  | skipped hsame hcomplete hrefused hskip =>
    obtain ⟨f, hf⟩ := exists_frame hcomplete
    rw [← hf] at hrefused
    have hevent : (if reader.skippingMsg then ReadEvent.sentErr client.skippingMsgReason
        else .received reader.receiveBuffer.toDynar) =
        frameEvent client.reader.receiveBuffer.maximumSize f := by
      rw [if_pos hskip, ← reason_skipped hmax h hlen hf hrefused]
    dsimp only
    rw [hevent]
    exact .complete hsame (follows_next reader) f hf

/-- The calls of `qnetd_client_net_read` for one client: its state, the bytes that `PR_Recv` has
    returned so far, and what was done with complete messages.  A read returns any number of
    bytes up to what was asked for, or would block.  What a failing `qnetd_client_msg_received`
    or `qnetd_client_send_err` ends is not ended here, so that this is about more runs than
    there are. -/
inductive Reads (maxReceiveSize : Nat) : ClientReader → List UInt8 → List ReadEvent → Prop where
  | init : Reads maxReceiveSize (qnetdClientInit maxReceiveSize) [] []
  | data {client : ClientReader} {stream : List UInt8} {events : List ReadEvent}
      (reads : Reads maxReceiveSize client stream events) (handled : Bool) (bytes : List UInt8)
      (pos : 1 ≤ bytes.length) (len : bytes.length ≤ msgioToRead client.reader) :
      Reads maxReceiveSize (qnetdClientNetRead true handled (.data bytes) client).1
        (stream ++ bytes)
        (events ++ (qnetdClientNetRead true handled (.data bytes) client).2.1.toList)
  | wouldBlock {client : ClientReader} {stream : List UInt8} {events : List ReadEvent}
      (reads : Reads maxReceiveSize client stream events) (handled : Bool) :
      Reads maxReceiveSize (qnetdClientNetRead true handled .wouldBlock client).1 stream
        (events ++ (qnetdClientNetRead true handled .wouldBlock client).2.1.toList)

/-- What holds after any number of calls: every complete frame of the stream was dealt with,
    and the reader is at the rest. -/
structure Framed (maxReceiveSize : Nat) (client : ClientReader) (stream : List UInt8)
    (events : List ReadEvent) (done : List Frame) (tail : List UInt8) : Prop where
  max : client.reader.receiveBuffer.maximumSize = maxReceiveSize
  stream : stream = done.flatMap Frame.bytes ++ tail
  events : events = done.map (frameEvent maxReceiveSize)
  follows : client.Follows tail

theorem reads_framed {maxReceiveSize : Nat} (hmax : 6 ≤ maxReceiveSize) {client : ClientReader}
    {stream : List UInt8} {events : List ReadEvent} (h : Reads maxReceiveSize client stream events) :
    ∃ done tail, Framed maxReceiveSize client stream events done tail := by
  induction h with
  | init =>
    exact ⟨[], [], rfl, rfl, rfl,
      ⟨⟨rfl, incomplete_nil, by simp [qnetdClientInit], ⟨rfl, rfl⟩⟩, rfl⟩⟩
  | @data client stream events _ handled bytes hpos hlen ih =>
    obtain ⟨done, tail, ih⟩ := ih
    have hstep := qnetdClientNetRead_data handled (ih.max.symm ▸ hmax) ih.follows hpos hlen
    rw [ih.max] at hstep
    generalize qnetdClientNetRead true handled (.data bytes) client = res at hstep ⊢
    cases hstep with
    | more hsame hfollows =>
      refine ⟨done, tail ++ bytes, hsame, ?_, ?_, hfollows⟩
      · rw [ih.stream, List.append_assoc]
      · rw [ih.events, Option.toList_none, List.append_nil]
    | complete hsame hfollows f hf =>
      refine ⟨done ++ [f], [], hsame, ?_, ?_, hfollows⟩
      · rw [ih.stream, List.append_assoc, ← hf, List.append_nil, List.flatMap_append,
          List.flatMap_singleton]
      · rw [ih.events, List.map_append]
        rfl
  | wouldBlock _ handled ih =>
    obtain ⟨done, tail, ih⟩ := ih
    exact ⟨done, tail, ih.max, ih.stream, by rw [ih.events]; exact List.append_nil _, ih.follows⟩

/-- The calls together have done what parsing the stream at once says. -/
theorem reads_events {maxReceiveSize : Nat} (hmax : 6 ≤ maxReceiveSize) {client : ClientReader}
    {stream : List UInt8} {events : List ReadEvent} (h : Reads maxReceiveSize client stream events) :
    events = (parseFrames stream).map (frameEvent maxReceiveSize) := by
  obtain ⟨done, tail, hframed⟩ := reads_framed hmax h
  rw [hframed.stream, parseFrames_flatMap_append done hframed.follows.reader.incomplete,
    hframed.events]

/-- The frames that end within the first `n` bytes. -/
def framesWithin : List Frame → Nat → List Frame
  | [], _ => []
  | f :: frames, n =>
    if f.bytes.length ≤ n then f :: framesWithin frames (n - f.bytes.length) else []

theorem framesWithin_all (frames : List Frame) :
    framesWithin frames (frames.flatMap Frame.bytes).length = frames := by
  induction frames with
  | nil => rfl
  | cons f frames ih =>
    rw [List.flatMap_cons, List.length_append, framesWithin, if_pos (Nat.le_add_right _ _),
      Nat.add_sub_cancel_left, ih]

/-- A part of a frame that is not the whole frame is incomplete. -/
theorem incomplete_of_part {f : Frame} {stream : List UInt8} (h : stream <+: f.bytes)
    (hlt : stream.length < f.bytes.length) : Incomplete stream := by
  by_cases hheader : 6 ≤ stream.length
  · obtain ⟨rest, hrest⟩ := h
    rw [Incomplete, ← headerLen_append hheader rest, hrest, f.headerLen_bytes, ← f.length_bytes]
    exact hlt
  · rw [Incomplete]
    omega

theorem parseFrames_of_part {frames : List Frame} {stream : List UInt8}
    (h : stream <+: frames.flatMap Frame.bytes) :
    parseFrames stream = framesWithin frames stream.length := by
  induction frames generalizing stream with
  | nil =>
    rw [List.prefix_nil.mp h]
    exact parseFrames_incomplete incomplete_nil
  | cons f frames ih =>
    rw [List.flatMap_cons] at h
    rw [framesWithin]
    split
    · next hle =>
      -- The stream has all of `f`, and goes on with a part of the other frames.
      obtain ⟨rest, rfl⟩ := List.prefix_of_prefix_length_le (List.prefix_append _ _) h hle
      rw [parseFrames_bytes_append, ih ((List.prefix_append_right_inj f.bytes).mp h),
        List.length_append, Nat.add_sub_cancel_left]
    · next hlt =>
      have hpart := List.prefix_of_prefix_length_le h (List.prefix_append _ _)
        (Nat.le_of_lt (Nat.lt_of_not_le hlt))
      exact parseFrames_incomplete (incomplete_of_part hpart (Nat.lt_of_not_le hlt))

/-- The message a call handed to `qnetd_client_msg_received`. -/
def ReadEvent.handed : ReadEvent → Option Dynar
  | .received msg => some msg
  | .sentErr _ => none

theorem handed_frameEvent (maximumSize : Nat) (f : Frame) :
    (frameEvent maximumSize f).handed =
      if Takes maximumSize f.bytes then some ⟨f.bytes, maximumSize⟩ else none := by
  rw [frameEvent]
  split <;> rfl

/-- **Framing**: however the bytes of a sequence of frames arrive, one thing is done for each
    frame, in order and as soon as its last byte is there: it is handed on, byte for byte, if
    it is taken, and otherwise skipped.  The reader always asks for more, and only a handler
    that failed ends the connection. -/
theorem reads_frames {maxReceiveSize : Nat} (hmax : 6 ≤ maxReceiveSize) (frames : List Frame)
    {client : ClientReader} {stream : List UInt8} {events : List ReadEvent}
    (h : Reads maxReceiveSize client stream events)
    (hstream : stream <+: frames.flatMap Frame.bytes) :
    events.map ReadEvent.handed =
        (framesWithin frames stream.length).map (fun f =>
          if Takes maxReceiveSize f.bytes then some ⟨f.bytes, maxReceiveSize⟩ else none) ∧
      (stream = frames.flatMap Frame.bytes → framesWithin frames stream.length = frames) ∧
      1 ≤ msgioToRead client.reader ∧
      ∀ (handled : Bool) (bytes : List UInt8), 1 ≤ bytes.length →
        bytes.length ≤ msgioToRead client.reader →
        (qnetdClientNetRead true handled (.data bytes) client).2.2 = true → handled = false := by
  obtain ⟨done, tail, hframed⟩ := reads_framed hmax h
  refine ⟨?_, ?_, hframed.follows.reader.one_le_toRead, ?_⟩
  · rw [reads_events hmax h, parseFrames_of_part hstream, List.map_map]
    exact List.map_congr_left fun f _ => handed_frameEvent maxReceiveSize f
  · rintro rfl
    exact framesWithin_all frames
  · intro handled bytes hpos hlen hclosed
    -- A read of data closes the connection only because of the answer of the handler.
    have hstep := qnetdClientNetRead_data handled (hframed.max.symm ▸ hmax) hframed.follows hpos hlen
    generalize qnetdClientNetRead true handled (.data bytes) client = res at hstep hclosed
    cases hstep with
    | more => cases hclosed
    | complete => simpa using hclosed

/-- A message of an unknown type in two pieces, and then a PREINIT_REPLY. -/
theorem reads_frames_skips_unknown :
    ∃ client events, Reads 16 client [255, 255, 0, 0, 0, 1, 7, 0, 1, 0, 0, 0, 0] events ∧
      events.map ReadEvent.handed = [none, some ⟨[0, 1, 0, 0, 0, 0], 16⟩] := by
  have hrun : ∃ client events,
      Reads 16 client [255, 255, 0, 0, 0, 1, 7, 0, 1, 0, 0, 0, 0] events :=
    ⟨_, _, .data (.data (.data .init true [255, 255, 0, 0, 0, 1] (by decide) (by decide))
      true [7] (by decide) (by decide)) true [0, 1, 0, 0, 0, 0] (by decide) (by decide)⟩
  obtain ⟨client, events, hrun⟩ := hrun
  have hall := reads_frames (by decide) [⟨65535, [7], by decide⟩, ⟨1, [], by decide⟩] hrun
    (by decide)
  exact ⟨client, events, hrun, hall.1.trans (by decide)⟩

end Qdevice
