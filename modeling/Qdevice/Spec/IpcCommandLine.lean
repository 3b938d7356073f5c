import Qdevice.Native.QnetdIpc

/-! # What a command line asks for

`IpcCommand.ofLine` reads a command off one line.  The lexer stops at the end of the line, so what
stands in the receive buffer behind it does not matter, and a token is never longer than the line:
`NULL` for want of room does not occur. -/

namespace Qdevice

/-! ### Tokens of a line -/

section

variable {lexType : DynarSimpleLexType} {line rest : List UInt8}

/-- What stands behind a line: its end, and anything. -/
def LineEnd (rest : List UInt8) : Prop := ∃ ch ∈ rest.head?, Text.isLineEnd ch = true

/-- A part of one line. -/
def OneLine (line : List UInt8) : Prop := ∀ ch ∈ line, Text.isLineEnd ch = false

theorem dynarSimpleLexWord_lineEnd (state : DynarSimpleLexState) (h : LineEnd rest) :
    dynarSimpleLexWord lexType state rest = ([], rest) := by
  obtain ⟨ch, hch, hend⟩ := h
  obtain ⟨rest, rfl⟩ : ∃ rest', rest = ch :: rest' := by
    cases rest with
    | nil => cases hch
    | cons c rest => exact ⟨rest, by rw [Option.some.inj hch]⟩
  have hbackslash : ch ≠ 92 := by
    rintro rfl
    cases hend
  have hquote : ch ≠ 34 := by
    rintro rfl
    cases hend
  -- A line end ends the token in every state, in quotes and behind a backslash too.
  cases state with
  | word => exact dynarSimpleLexWord_space rest (dynarSimpleLexIsSpace_of_isLineEnd hend)
  | backslash => simp [dynarSimpleLexWord, hend]
  | quote => simp [dynarSimpleLexWord, hend, hbackslash, hquote]
  | quoteBackslash => simp [dynarSimpleLexWord, hend]

/-- A token does not depend on what is behind the line. -/
theorem dynarSimpleLexWord_line (state : DynarSimpleLexState) (line : List UInt8)
    (h : LineEnd rest) :
    dynarSimpleLexWord lexType state (line ++ rest) =
      ((dynarSimpleLexWord lexType state line).1,
        (dynarSimpleLexWord lexType state line).2 ++ rest) := by
  induction line generalizing state with
  | nil =>
    rw [List.nil_append, dynarSimpleLexWord_lineEnd state h]
    cases state <;> rfl
  | cons ch line ih =>
    rw [List.cons_append]
    -- In each state a character ends the token or is followed by another state.
    cases state <;> unfold dynarSimpleLexWord <;> repeat' split
    all_goals simp only [ih, addChar, List.cons_append]

theorem dynarSimpleLexTokenNext_line (line : List UInt8) (h : LineEnd rest) :
    dynarSimpleLexTokenNext lexType (line ++ rest) =
      ((dynarSimpleLexTokenNext lexType line).1,
        (dynarSimpleLexTokenNext lexType line).2 ++ rest) := by
  have hrest : (line ++ rest).dropWhile (fun ch => dynarSimpleLexIsSpace ch && !Text.isLineEnd ch) =
      line.dropWhile (fun ch => dynarSimpleLexIsSpace ch && !Text.isLineEnd ch) ++ rest := by
    induction line with
    | nil =>
      obtain ⟨ch, hch, hend⟩ := h
      cases rest with
      | nil => cases hch
      | cons c rest =>
        obtain rfl : c = ch := Option.some.inj hch
        simp [hend]
    | cons ch line ih =>
      rw [List.cons_append, List.dropWhile_cons, List.dropWhile_cons]
      split
      · exact ih
      · rfl
  unfold dynarSimpleLexTokenNext
  rw [hrest]
  exact dynarSimpleLexWord_line .word _ h

/-- A token with what is left is not longer than the input.  Behind a backslash in quotes there may
    be one byte more, the backslash itself. -/
theorem length_dynarSimpleLexWord_le (lexType : DynarSimpleLexType) (state : DynarSimpleLexState)
    (line : List UInt8) :
    (dynarSimpleLexWord lexType state line).1.length +
        (dynarSimpleLexWord lexType state line).2.length ≤
      line.length + (match state with | .quoteBackslash => 1 | _ => 0) := by
  induction line generalizing state with
  | nil => cases state <;> simp [dynarSimpleLexWord]
  | cons ch line ih =>
    have hword := ih .word
    have hbackslash := ih .backslash
    have hquote := ih .quote
    have hquoteBackslash := ih .quoteBackslash
    dsimp only at hword hbackslash hquote hquoteBackslash
    cases state <;> unfold dynarSimpleLexWord <;> repeat' split
    all_goals
      simp only [addChar, List.length_cons, List.length_nil]
      omega

theorem length_dynarSimpleLexTokenNext_le (lexType : DynarSimpleLexType) (line : List UInt8) :
    (dynarSimpleLexTokenNext lexType line).1.length +
      (dynarSimpleLexTokenNext lexType line).2.length ≤ line.length := by
  have hskip := (List.dropWhile_suffix (l := line)
    fun ch => dynarSimpleLexIsSpace ch && !Text.isLineEnd ch).length_le
  have hword := length_dynarSimpleLexWord_le lexType .word
    (line.dropWhile fun ch => dynarSimpleLexIsSpace ch && !Text.isLineEnd ch)
  dsimp only at hword
  unfold dynarSimpleLexTokenNext
  omega

end

/-! ### Commands -/

/-- What a line asks for. -/
inductive IpcCommand where
  | none
  | shutdown
  | status (verbose : Bool)
  | list (verbose : Bool) (clusterName : Option (List UInt8))
  | unknown (str : List UInt8)
deriving DecidableEq

/-- The lexer of a daemon. -/
def IpcDaemon.lexType : IpcDaemon → DynarSimpleLexType
  | .qnetd => .quote
  | .qdevice => .plain

/-- The next word of a line as a C string, and the line behind it. -/
def IpcDaemon.word (daemon : IpcDaemon) (line : List UInt8) : List UInt8 × List UInt8 :=
  (cString (dynarSimpleLexTokenNext daemon.lexType line).1,
    (dynarSimpleLexTokenNext daemon.lexType line).2)

theorem IpcDaemon.length_word_le (daemon : IpcDaemon) (line : List UInt8) :
    (daemon.word line).2.length ≤ line.length := by
  have hle := length_dynarSimpleLexTokenNext_le daemon.lexType line
  unfold IpcDaemon.word
  dsimp only
  omega

theorem IpcDaemon.length_word_lt {daemon : IpcDaemon} {line : List UInt8}
    (h : (daemon.word line).1 ≠ []) : (daemon.word line).2.length < line.length := by
  apply length_dynarSimpleLexTokenNext
  intro hempty
  apply h
  unfold IpcDaemon.word
  rw [hempty]
  rfl

/-- The options of `list`: the last `cluster` counts, and anything unknown ends them. -/
def ipcListOptions (line : List UInt8) (verbose : Bool) (clusterName : Option (List UInt8)) :
    Bool × Option (List UInt8) :=
  if _hempty : (IpcDaemon.qnetd.word line).1 = [] then (verbose, clusterName)
  else if strcasecmpEq (IpcDaemon.qnetd.word line).1 ipcVerbose then
    ipcListOptions (IpcDaemon.qnetd.word line).2 true clusterName
  else if strcasecmpEq (IpcDaemon.qnetd.word line).1 ipcCluster then
    ipcListOptions (IpcDaemon.qnetd.word (IpcDaemon.qnetd.word line).2).2 verbose
      (some (IpcDaemon.qnetd.word (IpcDaemon.qnetd.word line).2).1)
  else (verbose, clusterName)
termination_by line.length
decreasing_by
  · exact IpcDaemon.length_word_lt _hempty
  · exact Nat.lt_of_le_of_lt (IpcDaemon.length_word_le _ _) (IpcDaemon.length_word_lt _hempty)

/-- What a line asks a daemon for. -/
def IpcCommand.ofLine (daemon : IpcDaemon) (line : List UInt8) : IpcCommand :=
  let word := daemon.word line
  if strcasecmpEq word.1 [] then .none
  else if strcasecmpEq word.1 ipcShutdown then .shutdown
  else if strcasecmpEq word.1 ipcStatus then
    .status (strcasecmpEq (daemon.word word.2).1 ipcVerbose)
  else if daemon = .qnetd ∧ strcasecmpEq word.1 ipcList then
    .list (ipcListOptions word.2 false Option.none).1 (ipcListOptions word.2 false Option.none).2
  else .unknown word.1

/-- The first line of some text. -/
def ipcLine (text : List UInt8) : List UInt8 := text.takeWhile (!Text.isLineEnd ·)

/-- What stands behind the first line begins with a line end. -/
theorem isLineEnd_of_dropWhile {text rest : List UInt8} {ch : UInt8}
    (h : text.dropWhile (!Text.isLineEnd ·) = ch :: rest) : Text.isLineEnd ch = true := by
  have hne : text.dropWhile (!Text.isLineEnd ·) ≠ [] := by
    rw [h]
    exact List.cons_ne_nil _ _
  have hhead := List.head_dropWhile_not (!Text.isLineEnd ·) hne
  simp only [h, List.head_cons] at hhead
  simpa using hhead

/-! ### The parser reads the line -/

/-- The lexer stands somewhere on a line, with room for all of it. -/
structure DynarSimpleLex.OnLine (lex : DynarSimpleLex) (line : List UInt8) : Prop where
  left : ∃ rest, LineEnd rest ∧ lex.left = line ++ rest
  room : line.length < dynarMaxSize lex.token

theorem cString_nul (str : List UInt8) : cString (str ++ [0]) = cString str := by
  unfold cString
  induction str with
  | nil => rfl
  | cons ch str ih =>
    rw [List.cons_append, List.takeWhile_cons, List.takeWhile_cons, ih]

/-- The next token of a line. -/
theorem DynarSimpleLex.OnLine.tokenNext {daemon : IpcDaemon} {lex : DynarSimpleLex}
    {line : List UInt8} (h : lex.OnLine line) (htype : lex.lexType = daemon.lexType) :
    ∃ token lex', lex.tokenNext = (some token, lex') ∧
      cString token.data = (daemon.word line).1 ∧ lex'.lexType = daemon.lexType ∧
      lex'.OnLine (daemon.word line).2 := by
  obtain ⟨rest, hend, hleft⟩ := h.left
  have hroom := h.room
  have hlength := length_dynarSimpleLexTokenNext_le lex.lexType line
  have hnext : dynarSimpleLexTokenNext lex.lexType lex.left =
      ((dynarSimpleLexTokenNext lex.lexType line).1,
        (dynarSimpleLexTokenNext lex.lexType line).2 ++ rest) := by
    rw [hleft]
    exact dynarSimpleLexTokenNext_line line hend
  -- The buffer of the token has room for the whole line, and a token is no longer than that.
  obtain ⟨pos, hpos, heq⟩ := lex.tokenNext_eq (by
    rw [hnext]
    dsimp only
    omega)
  refine ⟨lex.tokenOf, { lex with token := lex.tokenOf, pos := pos }, heq, ?_, htype, ?_, ?_⟩
  · rw [DynarSimpleLex.tokenOf, hnext, IpcDaemon.word, htype]
    exact cString_nul _
  · refine ⟨rest, hend, ?_⟩
    rw [hnext, htype] at hpos
    exact hpos
  · have hmax : dynarMaxSize lex.tokenOf = dynarMaxSize lex.token := rfl
    rw [IpcDaemon.word, ← htype]
    dsimp only
    rw [hmax]
    omega

end Qdevice
