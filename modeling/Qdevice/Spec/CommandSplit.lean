import Qdevice.Native.ProcessList
import Qdevice.Spec.QuoteRoundTrip

/-! # Commands are split into their arguments

`process_list_parse_command` runs the lexer twice over a command, to count the arguments and to
copy them, and takes an empty token for the end of the command.  So arguments that were quoted
come back up to the first empty one. -/

namespace Qdevice

/-- Both passes see the same tokens. -/
theorem processListCountParams_eq (lex : DynarSimpleLex) :
    processListCountParams lex = (processListCopyParams lex).map List.length := by
  fun_induction processListCopyParams lex with
  | case1 lex lex' hnext =>
    rw [processListCountParams, hnext]
    rfl
  | case2 lex token lex' hnext hempty =>
    rw [processListCountParams, hnext]
    simp only [hempty, if_true]
    rfl
  | case3 lex token lex' hnext hstring ih =>
    rw [processListCountParams, hnext]
    simp only [hstring, if_false, ih, Option.map_map]
    rfl

/-- The string in a token. -/
private theorem cString_append_nul {str : List UInt8} (h : 0 ∉ str) : cString (str ++ [0]) = str := by
  have hpos : ∀ ch ∈ str, decide (ch ≠ 0) = true := fun ch hch =>
    decide_eq_true fun heq => h (heq ▸ hch)
  rw [cString, List.takeWhile_append_of_pos hpos]
  exact List.append_nil str

/-- The arguments that the copying pass finds. -/
theorem processListCopyParams_words {words : List (List UInt8 × List UInt8)} (h : Words words)
    {lex : DynarSimpleLex} (htype : lex.lexType = .quote) (hleft : lex.left = quotedWords words)
    (hroom : (quotedWords words).length < dynarMaxSize lex.token) :
    processListCopyParams lex = some ((words.map Prod.snd).takeWhile (· ≠ [])) := by
  induction words generalizing lex with
  | nil =>
    have hnext : dynarSimpleLexTokenNext lex.lexType lex.left = ([], []) := by
      rw [hleft]
      rfl
    obtain ⟨pos, -, heq⟩ := lex.tokenNext_eq (by rw [hnext]; exact hroom)
    rw [processListCopyParams, heq]
    simp only [DynarSimpleLex.tokenOf, hnext]
    rfl
  | cons word words ih =>
    have hnext : dynarSimpleLexTokenNext lex.lexType lex.left = (word.2, quotedWords words) := by
      rw [htype, hleft]
      exact h.tokenNext
    have hlength : (quotedWords (word :: words)).length =
        word.1.length + (quoted word.2).length + (quotedWords words).length := by
      rw [quotedWords, List.flatMap_cons, List.length_append, List.length_append]
      rfl
    have hshort := length_lt_quoted word.2
    obtain ⟨pos, hrest, heq⟩ := lex.tokenNext_eq (by rw [hnext]; simp only; omega)
    have hstring : cString lex.tokenOf.data = word.2 := by
      rw [DynarSimpleLex.tokenOf, hnext]
      exact cString_append_nul fun hnul => (h.strings word (.head _) 0 hnul).1 rfl
    rw [processListCopyParams, heq]
    simp only [hstring]
    by_cases hempty : word.2 = []
    · simp [hempty]
    · have hmore := @ih h.tail { lex with token := lex.tokenOf, pos := pos } htype
        (by rw [hnext] at hrest; exact hrest) (by
          have hmax : dynarMaxSize lex.tokenOf = dynarMaxSize lex.token := rfl
          simp only [hmax]
          omega)
      rw [dif_neg hempty, hmore]
      simp [hempty]

/-- Quoted arguments come back up to the first empty one; if that is the first, there is no
    command. -/
theorem processListParseCommand_words {words : List (List UInt8 × List UInt8)} (h : Words words) :
    processListParseCommand (quotedWords words) =
      if (words.map Prod.snd).takeWhile (· ≠ []) = [] then none
      else some ((words.map Prod.snd).takeWhile (· ≠ [])) := by
  have hcopied : dynarStrCpy (quotedWords words) (dynarInit ((quotedWords words).length + 1)) =
      (some (), { data := quotedWords words, maximumSize := (quotedWords words).length + 1 }) := by
    rw [dynarStrCpy, if_neg (by simp [dynarMaxSize, dynarInit])]
    exact (DynarM.Collects.cat (quotedWords words)).fits _ (by
      simp [dynarSize, dynarMaxSize, dynarInit, dynarClean])
  have hparams : processListCopyParams
      (.init ⟨quotedWords words, (quotedWords words).length + 1⟩ .quote) =
      some ((words.map Prod.snd).takeWhile (· ≠ [])) :=
    processListCopyParams_words h rfl rfl (Nat.lt_succ_self _)
  rw [processListParseCommand, hcopied]
  simp only [processListCountParams_eq, hparams, Option.map_some, if_true]
  by_cases hempty : (words.map Prod.snd).takeWhile (· ≠ []) = []
  · rw [hempty]
    rfl
  · have hlength := List.length_pos_of_ne_nil hempty
    rw [if_neg (by omega), if_neg hempty]

/-- Arguments that are quoted and joined by blanks come back, if the first is not empty, exactly
    if none is: an empty argument is taken for the end of the command. -/
theorem processListParseCommand_quoted_iff (words : List (List UInt8 × List UInt8)) (h : Words words)
    (hfirst : ∃ word ∈ words.head?, word.2 ≠ []) (maximumSize : Nat) (command : Dynar)
    (hbuilt : quoteWords words (dynarInit maximumSize) = (some (), command)) :
    processListParseCommand command.data = some (words.map Prod.snd) ↔
      ∀ word ∈ words, word.2 ≠ [] := by
  obtain rfl := (quoteWords_collects words).of_eq_some (Nat.zero_le _) hbuilt
  simp only [dynarInit, List.nil_append]
  obtain ⟨word, hword, hstring⟩ := hfirst
  obtain ⟨words, rfl⟩ : ∃ words', words = word :: words' := List.head?_eq_some_iff.mp hword
  have hargv : ((word :: words).map Prod.snd).takeWhile (· ≠ []) ≠ [] := by simp [hstring]
  rw [processListParseCommand_words h, if_neg hargv, Option.some.injEq,
    List.takeWhile_eq_self_iff, List.forall_mem_map]
  simp only [decide_eq_true_eq]

theorem processListParseCommand_quoted_iff_two :
    ∃ command, quoteWords twoWords (dynarInit 10) = (some (), command) ∧
      (processListParseCommand command.data = some [[97, 34], [92]] ↔
        ∀ word ∈ twoWords, word.2 ≠ []) := by
  have hbuilt := (quoteWords_collects twoWords).fits (dynarInit 10) (by decide)
  refine ⟨_, hbuilt, processListParseCommand_quoted_iff twoWords ⟨?_, ?_, ?_⟩ ?_ 10 _ hbuilt⟩
  · simp [twoWords, Quotable]
  · simp [twoWords, Blanks]
  · simp [twoWords]
  · exact ⟨_, rfl, by decide⟩

/-- `a`, the empty string and `b`, with a space between them. -/
def emptyArgument : List (List UInt8 × List UInt8) := [([], [97]), ([32], []), ([32], [98])]

private theorem words_emptyArgument : Words emptyArgument := by
  refine ⟨?_, ?_, ?_⟩
  · simp [emptyArgument, Quotable]
  · simp [emptyArgument, Blanks]
  · simp [emptyArgument]

/-- The command is split into the one argument `a`. -/
theorem processListParseCommand_emptyArgument :
    ∃ command, quoteWords emptyArgument (dynarInit 11) = (some (), command) ∧
      processListParseCommand command.data = some [[97]] ∧
      processListParseCommand command.data ≠ some [[97], [], [98]] := by
  have hparsed : processListParseCommand (quotedWords emptyArgument) = some [[97]] :=
    processListParseCommand_words words_emptyArgument
  refine ⟨{ data := quotedWords emptyArgument, maximumSize := 11 }, ?_, hparsed, ?_⟩
  · exact (quoteWords_collects emptyArgument).fits (dynarInit 11) (by decide)
  · rw [hparsed]
    decide

end Qdevice
