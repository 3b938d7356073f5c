import Qdevice.Spec.IpcCommandLine

/-! # What a command is answered

`IpcCommand.reply` says what a daemon answers to a command, as a function of the command, of the
state that the daemon is in and of the room for the answer.  `qnetd_ipc_parse_line` and
`qdevice_ipc_parse_line` put exactly this into the buffer, and disconnect the client if there is no
room even for an error. -/

namespace Qdevice

variable {W : Type} (texts : IpcTexts W)

/-! ### Answers -/

/-- An error, if there is room for it. -/
def ipcErrorReply (maxSize : Nat) (text : List UInt8) : Option (List UInt8) :=
  if (ipcError ++ text ++ [10]).length ≤ maxSize then some (ipcError ++ text ++ [10]) else none

/-- A text, or an error if there is no room for `OK` before it. -/
def ipcOkReply (maxSize : Nat) (text : List UInt8) : Option (List UInt8) :=
  if (ipcOk ++ text).length ≤ maxSize then some (ipcOk ++ text)
  else ipcErrorReply maxSize ipcBufferTooSmall

/-- What a command prints, or an error if there is no room for it with a NUL. -/
def ipcTextReply (maxSize : Nat) (text failure : List UInt8) : Option (List UInt8) :=
  if text = [] ∨ text.length < maxSize then ipcOkReply maxSize text
  else ipcErrorReply maxSize failure

/-- The error of a daemon that cannot print its status. -/
def IpcDaemon.noStatus : IpcDaemon → List UInt8
  | .qnetd => qnetdIpcNoStatus
  | .qdevice => qdeviceIpcNoStatus

/-- What a command prints. -/
def IpcCommand.text (inst : W) : IpcCommand → List UInt8
  | .none | .shutdown | .unknown _ => []
  | .status verbose => (texts.status inst verbose).flatten
  | .list verbose clusterName => (texts.list inst verbose clusterName).flatten

/-- The answer to a command. -/
def IpcCommand.reply (daemon : IpcDaemon) (maxSize : Nat) (inst : W) (command : IpcCommand) :
    Option (List UInt8) :=
  match command with
  | .none => ipcErrorReply maxSize ipcNoCommand
  | .shutdown => ipcOkReply maxSize []
  | .status verbose =>
    ipcTextReply maxSize (IpcCommand.text texts inst (.status verbose)) daemon.noStatus
  | .list verbose clusterName =>
    ipcTextReply maxSize (IpcCommand.text texts inst (.list verbose clusterName)) qnetdIpcNoList
  | .unknown str => ipcErrorReply maxSize (ipcUnknownCommand str)

section

variable {maxSize : Nat} {text failure reply : List UInt8}

theorem ipcErrorReply_eq_some (h : ipcErrorReply maxSize text = some reply) :
    reply = ipcError ++ (text ++ [10]) := by
  unfold ipcErrorReply at h
  split at h
  · cases h
    rw [List.append_assoc]
  · cases h

theorem ipcOkReply_cases (h : ipcOkReply maxSize text = some reply) :
    reply = ipcOk ++ text ∨ maxSize < (ipcOk ++ text).length ∧
      reply = ipcError ++ (ipcBufferTooSmall ++ [10]) := by
  unfold ipcOkReply at h
  split at h
  · cases h
    exact Or.inl rfl
  · next hroom => exact Or.inr ⟨Nat.lt_of_not_le hroom, ipcErrorReply_eq_some h⟩

theorem ipcTextReply_cases (h : ipcTextReply maxSize text failure = some reply) :
    reply = ipcOk ++ text ∨ maxSize < (ipcOk ++ text).length ∧
      ∃ failure' ∈ [failure, ipcBufferTooSmall], reply = ipcError ++ (failure' ++ [10]) := by
  unfold ipcTextReply at h
  split at h
  · refine (ipcOkReply_cases h).imp_right ?_
    rintro ⟨hroom, hreply⟩
    exact ⟨hroom, ipcBufferTooSmall, by simp, hreply⟩
  · next hroom =>
    -- `dynar_str_vcatf` fails already when only the NUL has no room, so `OK` has none either.
    refine Or.inr ⟨?_, failure, by simp, ipcErrorReply_eq_some h⟩
    rw [List.length_append]
    have hlength : ¬ text.length < maxSize := fun hlt => hroom (Or.inr hlt)
    have hpos : ipcOk.length = 3 := rfl
    omega

end

/-- No answer is empty. -/
theorem IpcCommand.reply_ne_nil {daemon : IpcDaemon} {maxSize : Nat} {inst : W}
    {command : IpcCommand} {reply : List UInt8}
    (h : command.reply texts daemon maxSize inst = some reply) : reply ≠ [] := by
  have herror (text : List UInt8) : ipcError ++ text ≠ [] := by simp [ipcError, Text.ofChars]
  have hok (text : List UInt8) : ipcOk ++ text ≠ [] := by simp [ipcOk, Text.ofChars]
  cases command with
  | none | unknown =>
    rw [ipcErrorReply_eq_some h]
    exact herror _
  | shutdown =>
    rcases ipcOkReply_cases h with rfl | ⟨-, rfl⟩
    · exact hok _
    · exact herror _
  | status | list =>
    rcases ipcTextReply_cases h with rfl | ⟨-, failure, -, rfl⟩
    · exact hok _
    · exact herror _

/-! ### Writing an answer -/

/-- `after` is `client` with an answer in its buffer that is to be sent, or without one and about to
    be disconnected. -/
def UnixSocketClient.Answered (client after : UnixSocketClient) (reply : Option (List UInt8)) :
    Prop :=
  ∃ sendBuffer : Dynar,
    match reply with
    | some reply => sendBuffer.data = reply ∧
        after = { client with sendBuffer := sendBuffer, writingBuffer := true }
    | none => after = { client with sendBuffer := sendBuffer, scheduleDisconnect := true }

/-- The error is written if it fits, whatever was in the buffer. -/
theorem ipcErrorText_eq {text : List UInt8} (htext : text ≠ []) (dest : Dynar) :
    ((ipcError ++ text ++ [10]).length ≤ dynarMaxSize dest → ipcErrorText text dest =
      (some (), { dest with data := ipcError ++ text ++ [10] })) ∧
    (¬ (ipcError ++ text ++ [10]).length ≤ dynarMaxSize dest →
      ∃ dest', ipcErrorText text dest = (none, dest')) := by
  have hpos : 0 < text.length := List.length_pos_iff.mpr htext
  have hlength : (ipcError ++ text ++ [10]).length = ipcError.length + text.length + 1 := by
    rw [List.length_append, List.length_append, List.length_singleton]
  rw [hlength]
  unfold ipcErrorText
  -- `dynar_str_cpy` looks for room before it clears the buffer.
  by_cases hcpy : ipcError.length > dynarMaxSize dest
  · have hrun : dynarStrCpy ipcError dest = (none, dest) := if_pos hcpy
    refine ⟨fun hle => absurd hcpy (by omega), fun _ => ⟨dest, ?_⟩⟩
    simp only [bind, hrun]
  have hrun : dynarStrCpy ipcError dest = (some (), { dest with data := ipcError }) := by
    unfold dynarStrCpy dynarStrCat dynarCat
    rw [if_neg hcpy, if_neg (by
      simp only [dynarSize, dynarClean, dynarMaxSize, List.length_nil] at hcpy ⊢
      omega)]
    rfl
  have hpiece : dynarStrVcatfPos text = dynarStrCatf text := if_neg htext
  simp only [bind, hrun, hpiece]
  by_cases hroom : ipcError.length + text.length + 1 ≤ dynarMaxSize dest
  · have hcatf : dynarStrCatf text { dest with data := ipcError } =
        (some (), { dest with data := ipcError ++ text }) := by
      unfold dynarStrCatf
      rw [if_neg (by omega), if_neg (by
        simp only [dynarSize, dynarMaxSize] at hroom ⊢
        omega)]
    have hcat : dynarStrCat [10] { dest with data := ipcError ++ text } =
        (some (), { dest with data := ipcError ++ text ++ [10] }) := by
      unfold dynarStrCat dynarCat
      rw [if_neg (by
        simp only [dynarSize, dynarMaxSize, List.length_append, List.length_singleton] at hroom ⊢
        omega)]
    refine ⟨fun _ => ?_, fun hno => absurd hroom hno⟩
    simp only [hcatf, hcat]
  · -- `dynar_str_vcatf` counts the NUL, for which the newline has no use later.
    have hcatf : dynarStrCatf text { dest with data := ipcError } =
        (none, { dest with data := ipcError }) := by
      unfold dynarStrCatf
      rw [if_neg (by omega), if_pos (by
        simp only [dynarSize, dynarMaxSize] at hroom ⊢
        omega)]
    refine ⟨fun hle => absurd hle hroom, fun _ => ⟨{ dest with data := ipcError }, ?_⟩⟩
    simp only [hcatf]

/-- `qnetd_ipc_send_error`. -/
theorem ipcSendError_answered (client : UnixSocketClient) {text : List UInt8} (htext : text ≠ []) :
    client.Answered (orDisconnect (ipcSendError client text))
      (ipcErrorReply (dynarMaxSize client.sendBuffer) text) := by
  obtain ⟨hfits, hfull⟩ := ipcErrorText_eq htext client.sendBuffer
  unfold ipcErrorReply ipcSendError
  by_cases hroom : (ipcError ++ text ++ [10]).length ≤ dynarMaxSize client.sendBuffer
  · rw [if_pos hroom, hfits hroom]
    exact ⟨_, rfl, rfl⟩
  · obtain ⟨sendBuffer, hrun⟩ := hfull hroom
    rw [if_neg hroom, hrun]
    exact ⟨sendBuffer, rfl⟩

/-- `qnetd_ipc_send_buffer`, of a buffer that holds a text. -/
theorem ipcSendBuffer_answered (client : UnixSocketClient) :
    client.Answered (orDisconnect (ipcSendBuffer client))
      (ipcOkReply (dynarMaxSize client.sendBuffer) client.sendBuffer.data) := by
  by_cases hroom : (ipcOk ++ client.sendBuffer.data).length ≤ dynarMaxSize client.sendBuffer
  · have hreply : ipcOkReply (dynarMaxSize client.sendBuffer) client.sendBuffer.data =
        some (ipcOk ++ client.sendBuffer.data) := if_pos hroom
    rw [List.length_append] at hroom
    have hprepend : dynarStrPrepend ipcOk client.sendBuffer =
        (some (), { client.sendBuffer with data := ipcOk ++ client.sendBuffer.data }) := by
      unfold dynarStrPrepend dynarPrepend
      rw [if_neg (by
        simp only [dynarSize] at hroom ⊢
        omega)]
    rw [hreply]
    refine ⟨{ client.sendBuffer with data := ipcOk ++ client.sendBuffer.data }, rfl, ?_⟩
    simp only [ipcSendBuffer, hprepend]
    rfl
  · have hreply : ipcOkReply (dynarMaxSize client.sendBuffer) client.sendBuffer.data =
        ipcErrorReply (dynarMaxSize client.sendBuffer) ipcBufferTooSmall := if_neg hroom
    rw [List.length_append] at hroom
    have hprepend : dynarStrPrepend ipcOk client.sendBuffer = (none, client.sendBuffer) := by
      unfold dynarStrPrepend dynarPrepend
      rw [if_pos (by
        simp only [dynarSize] at hroom ⊢
        omega)]
    rw [hreply]
    simp only [ipcSendBuffer, hprepend]
    -- The text is still in the buffer, and the error takes its place.
    exact ipcSendError_answered client (by decide)

/-- The pieces of a text fit exactly if the text does, with a NUL behind it. -/
theorem dynarStrCatfs_eq (pieces : List (List UInt8)) (dest : Dynar) :
    (pieces.flatten = [] ∨ dynarSize dest + pieces.flatten.length < dynarMaxSize dest →
      dynarStrCatfs pieces dest =
        (some (), { dest with data := dest.data ++ pieces.flatten })) ∧
    (¬ (pieces.flatten = [] ∨ dynarSize dest + pieces.flatten.length < dynarMaxSize dest) →
      ∃ dest', dynarMaxSize dest' = dynarMaxSize dest ∧
        dynarStrCatfs pieces dest = (none, dest')) := by
  induction pieces generalizing dest with
  | nil => simp [dynarStrCatfs, pure]
  | cons piece pieces ih =>
    have hlength : (piece :: pieces).flatten.length = piece.length + pieces.flatten.length := by
      rw [List.flatten_cons, List.length_append]
    by_cases hpiece : piece = []
    · -- Nothing is printed, and `dynar_str_catf` does not fail.
      subst hpiece
      have hskip : dynarStrCatfs ([] :: pieces) dest = dynarStrCatfs pieces dest := rfl
      rw [hskip, List.flatten_cons, List.nil_append]
      exact ih dest
    have hpos : 0 < piece.length := List.length_pos_iff.mpr hpiece
    have hflatten : (piece :: pieces).flatten ≠ [] := by
      rw [List.flatten_cons]
      simp [hpiece]
    -- The first piece does not fit, or the others have so much less room.
    by_cases hroom : dynarSize dest + (piece.length + 1) > dynarMaxSize dest
    · have hcatf : dynarStrCatf piece dest = (none, dest) := by
        unfold dynarStrCatf
        rw [if_neg (by omega), if_pos hroom]
      constructor
      · rintro (hempty | hfits)
        · exact absurd hempty hflatten
        · omega
      · intro _
        refine ⟨dest, rfl, ?_⟩
        simp only [dynarStrCatfs, bind, hcatf]
    · have hcatf : dynarStrCatf piece dest =
          (some (), { dest with data := dest.data ++ piece }) := by
        unfold dynarStrCatf
        rw [if_neg (by omega), if_neg hroom]
      have hrun : dynarStrCatfs (piece :: pieces) dest =
          dynarStrCatfs pieces { dest with data := dest.data ++ piece } := by
        simp only [dynarStrCatfs, bind, hcatf]
      obtain ⟨hfits, hfull⟩ := ih { dest with data := dest.data ++ piece }
      have hsize : dynarSize { dest with data := dest.data ++ piece } =
          dynarSize dest + piece.length := List.length_append
      have hmax : dynarMaxSize { dest with data := dest.data ++ piece } = dynarMaxSize dest := rfl
      rw [hsize, hmax] at hfits hfull
      rw [hrun]
      constructor
      · rintro (hempty | hlt)
        · exact absurd hempty hflatten
        · rw [hfits (Or.inr (by omega)), List.flatten_cons, List.append_assoc]
      · intro hno
        apply hfull
        rintro (hempty | hlt)
        · apply hno
          right
          rw [hlength, hempty, List.length_nil]
          omega
        · apply hno
          right
          omega

/-- The answer to a command that prints something. -/
theorem ipcSendTexts_answered (client : UnixSocketClient) (hempty : client.sendBuffer.data = [])
    (pieces : List (List UInt8)) {failure : List UInt8} (hfailure : failure ≠ []) :
    client.Answered (ipcSendTexts client pieces failure)
      (ipcTextReply (dynarMaxSize client.sendBuffer) pieces.flatten failure) := by
  obtain ⟨hfits, hfull⟩ := dynarStrCatfs_eq pieces client.sendBuffer
  have hsize : dynarSize client.sendBuffer = 0 := by rw [dynarSize, hempty, List.length_nil]
  rw [hsize, Nat.zero_add] at hfits hfull
  by_cases hroom : pieces.flatten = [] ∨ pieces.flatten.length < dynarMaxSize client.sendBuffer
  · have hrun := hfits hroom
    rw [hempty, List.nil_append] at hrun
    rw [ipcTextReply, if_pos hroom]
    simp only [ipcSendTexts, hrun]
    exact ipcSendBuffer_answered
      { client with sendBuffer := { client.sendBuffer with data := pieces.flatten } }
  · -- Some pieces may be in the buffer already, but the error is written over them.
    obtain ⟨sendBuffer, hmax, hrun⟩ := hfull hroom
    rw [ipcTextReply, if_neg hroom, ← hmax]
    simp only [ipcSendTexts, hrun]
    exact ipcSendError_answered { client with sendBuffer := sendBuffer } hfailure

/-! ### Parsing a line -/

/-- The lexer on a buffer that holds a whole line. -/
theorem DynarSimpleLex.onLine_init {input : Dynar} (lexType : DynarSimpleLexType)
    (hsize : dynarSize input ≤ dynarMaxSize input) (hline : 10 ∈ input.data) :
    (DynarSimpleLex.init input lexType).OnLine (ipcLine input.data) := by
  have hsplit : ipcLine input.data ++ input.data.dropWhile (!Text.isLineEnd ·) = input.data :=
    List.takeWhile_append_dropWhile
  have hne : input.data.dropWhile (!Text.isLineEnd ·) ≠ [] := by
    intro hnil
    have hall := List.dropWhile_eq_nil_iff.mp hnil 10 hline
    cases hall
  obtain ⟨ch, rest, hrest⟩ := List.exists_cons_of_ne_nil hne
  have hend := isLineEnd_of_dropWhile hrest
  have hlength : (ipcLine input.data).length + (ch :: rest).length = input.data.length := by
    rw [← hrest, ← List.length_append, hsplit]
  refine ⟨⟨ch :: rest, ⟨ch, rfl, hend⟩, ?_⟩, ?_⟩
  · rw [← hrest, hsplit]
    rfl
  · rw [List.length_cons] at hlength
    have hmax : dynarMaxSize (DynarSimpleLex.init input lexType).token = dynarMaxSize input := rfl
    rw [hmax]
    unfold dynarSize at hsize
    omega

/-- The options of `list` on a line. -/
theorem qnetdIpcListOptions_eq (line : List UInt8) (verbose : Bool)
    (clusterName : Option (List UInt8)) {lex : DynarSimpleLex} (h : lex.OnLine line)
    (htype : lex.lexType = IpcDaemon.qnetd.lexType) :
    qnetdIpcListOptions lex verbose clusterName =
      some (ipcListOptions line verbose clusterName) := by
  -- A round of the loop reads no word, `verbose`, `cluster` with a name, or something else.
  fun_induction ipcListOptions line verbose clusterName generalizing lex with
  | case1 line verbose clusterName hempty =>
    obtain ⟨token, lex', hnext, hstr, -, -⟩ := h.tokenNext htype
    rw [qnetdIpcListOptions, hnext]
    simp only
    rw [hstr, dif_pos hempty]
  | case2 line verbose clusterName hempty hverbose ih =>
    obtain ⟨token, lex', hnext, hstr, htype', h'⟩ := h.tokenNext htype
    rw [qnetdIpcListOptions, hnext]
    simp only
    rw [hstr, dif_neg hempty, if_pos hverbose]
    exact ih h' htype'
  | case3 line verbose clusterName hempty hverbose hcluster ih =>
    obtain ⟨token, lex', hnext, hstr, htype', h'⟩ := h.tokenNext htype
    obtain ⟨token', lex'', hnext', hstr', htype'', h''⟩ := h'.tokenNext htype'
    rw [qnetdIpcListOptions, hnext]
    simp only
    rw [hstr, dif_neg hempty, if_neg hverbose, if_pos hcluster, hnext']
    simp only
    rw [hstr']
    exact ih h'' htype''
  | case4 line verbose clusterName hempty hverbose hcluster =>
    obtain ⟨token, lex', hnext, hstr, -, -⟩ := h.tokenNext htype
    rw [qnetdIpcListOptions, hnext]
    simp only
    rw [hstr, dif_neg hempty, if_neg hverbose, if_neg hcluster]

/-- The client once it is known what it asks for. -/
def IpcCommand.noted (command : IpcCommand) (client : UnixSocketClient) : UnixSocketClient :=
  { client with shutdownRequested := client.shutdownRequested || decide (command = .shutdown) }

theorem IpcCommand.noted_of_ne {command : IpcCommand} (h : command ≠ .shutdown)
    (client : UnixSocketClient) : command.noted client = client := by
  unfold IpcCommand.noted
  rw [decide_eq_false h, Bool.or_false]

theorem IpcCommand.noted_shutdown (client : UnixSocketClient) :
    IpcCommand.shutdown.noted client = { client with shutdownRequested := true } := by
  unfold IpcCommand.noted
  rw [decide_eq_true rfl, Bool.or_true]

/-- Only `shutdown` is noted. -/
theorem UnixSocketClient.Answered.noted {client after : UnixSocketClient}
    {reply : Option (List UInt8)} (h : client.Answered after reply) {command : IpcCommand}
    (hcommand : command ≠ .shutdown) : (command.noted client).Answered after reply := by
  rw [IpcCommand.noted_of_ne hcommand]
  exact h

/-- The answer to `shutdown`, from both daemons. -/
theorem ipcShutdown_answered (client : UnixSocketClient) (hempty : client.sendBuffer.data = []) :
    (IpcCommand.shutdown.noted client).Answered
      (orDisconnect (ipcSendBuffer { client with shutdownRequested := true }))
      (ipcOkReply (dynarMaxSize client.sendBuffer) []) := by
  have hbuffer := ipcSendBuffer_answered { client with shutdownRequested := true }
  simp only [hempty] at hbuffer
  rw [IpcCommand.noted_shutdown]
  exact hbuffer

private theorem verbose_iff (str : List UInt8) :
    decide (str ≠ [] ∧ strcasecmpEq str ipcVerbose = true) = strcasecmpEq str ipcVerbose := by
  by_cases hverbose : strcasecmpEq str ipcVerbose = true
  · have hne : str ≠ [] := by
      rintro rfl
      cases hverbose
    simp [hverbose, hne]
  · simp [hverbose]

/-- **A line is answered as its command says**: what `parse_line` leaves in the buffer depends on
    the first line only, whatever else has been received with it. -/
theorem IpcDaemon.parseLine_answered (daemon : IpcDaemon) (inst : W) (client : UnixSocketClient)
    (hsize : dynarSize client.receiveBuffer ≤ dynarMaxSize client.receiveBuffer)
    (hline : 10 ∈ client.receiveBuffer.data) (hempty : client.sendBuffer.data = []) :
    ((IpcCommand.ofLine daemon (ipcLine client.receiveBuffer.data)).noted client).Answered
      (daemon.parseLine texts inst client)
      ((IpcCommand.ofLine daemon (ipcLine client.receiveBuffer.data)).reply texts daemon
        (dynarMaxSize client.sendBuffer) inst) := by
  -- No token is `NULL`, because the lexer stands on a line that fits in the buffer.
  have hlex := DynarSimpleLex.onLine_init daemon.lexType hsize hline
  obtain ⟨token, lex, hnext, hstr, htype, hlex'⟩ := hlex.tokenNext rfl
  obtain ⟨token', lex', hnext', hstr', -, -⟩ := hlex'.tokenNext htype
  have hunknown (str : List UInt8) : ipcUnknownCommand str ≠ [] := by
    simp [ipcUnknownCommand, Text.ofChars]
  unfold IpcCommand.ofLine
  generalize hword : daemon.word (ipcLine client.receiveBuffer.data) = word at *
  cases daemon with
  | qnetd =>
    have hoptions := qnetdIpcListOptions_eq word.2 false none hlex' htype
    change ((_ : IpcCommand).noted client).Answered (qnetdIpcParseLine texts inst client) _
    unfold qnetdIpcParseLine
    have hfirst : (DynarSimpleLex.init client.receiveBuffer .quote).tokenNext =
      (some token, lex) := hnext
    simp only [hfirst, hstr, hnext', hstr', hoptions, verbose_iff, true_and]
    by_cases hnone : strcasecmpEq word.1 [] = true
    · simp only [if_pos hnone]
      exact (ipcSendError_answered client (by decide)).noted (by simp)
    by_cases hshutdown : strcasecmpEq word.1 ipcShutdown = true
    · simp only [if_neg hnone, if_pos hshutdown]
      exact ipcShutdown_answered client hempty
    by_cases hstatus : strcasecmpEq word.1 ipcStatus = true
    · simp only [if_neg hnone, if_neg hshutdown, if_pos hstatus]
      exact (ipcSendTexts_answered client hempty _ (by decide)).noted (by simp)
    by_cases hlist : strcasecmpEq word.1 ipcList = true
    · simp only [if_neg hnone, if_neg hshutdown, if_neg hstatus, if_pos hlist]
      exact (ipcSendTexts_answered client hempty _ (by decide)).noted (by simp)
    · simp only [if_neg hnone, if_neg hshutdown, if_neg hstatus, if_neg hlist]
      exact (ipcSendError_answered client (hunknown _)).noted (by simp)
  | qdevice =>
    change ((_ : IpcCommand).noted client).Answered (qdeviceIpcParseLine texts inst client) _
    unfold qdeviceIpcParseLine
    have hfirst : (DynarSimpleLex.init client.receiveBuffer .plain).tokenNext =
      (some token, lex) := hnext
    -- To qdevice `list` is a word like any other.
    have hnolist : ¬ (IpcDaemon.qdevice = .qnetd ∧ strcasecmpEq word.1 ipcList = true) := by
      rintro ⟨h, -⟩
      cases h
    simp only [hfirst, hstr, hnext', hstr', verbose_iff, if_neg hnolist]
    by_cases hnone : strcasecmpEq word.1 [] = true
    · simp only [if_pos hnone]
      exact (ipcSendError_answered client (by decide)).noted (by simp)
    by_cases hshutdown : strcasecmpEq word.1 ipcShutdown = true
    · simp only [if_neg hnone, if_pos hshutdown]
      exact ipcShutdown_answered client hempty
    by_cases hstatus : strcasecmpEq word.1 ipcStatus = true
    · simp only [if_neg hnone, if_neg hshutdown, if_pos hstatus]
      exact (ipcSendTexts_answered client hempty _ (by decide)).noted (by simp)
    · simp only [if_neg hnone, if_neg hshutdown, if_neg hstatus]
      exact (ipcSendError_answered client (hunknown _)).noted (by simp)

end Qdevice
