import Qdevice.Native.DynarSimpleLex

/-! # Quoted strings are read back

Strings are quoted by `dynar_str_quote_cat`, with blanks between them, and read by the lexer in
quote mode.  Inside quotes the writer and the lexer use the same two escapes, so the lexer comes
back to its word state with exactly the string, whatever stands in it. -/

namespace Qdevice

/-! ### The writer -/

/-- What is written for one character. -/
def quoteChar (ch : UInt8) : List UInt8 := if ch = 34 ∨ ch = 92 then [92, ch] else [ch]

/-- What `dynar_str_quote_cat` writes. -/
def quoted (str : List UInt8) : List UInt8 := 34 :: (str.flatMap quoteChar ++ [34])

theorem length_lt_quoted (str : List UInt8) : str.length + 1 < (quoted str).length := by
  have hle : str.length ≤ (str.flatMap quoteChar).length := by
    induction str with
    | nil => exact Nat.le_refl 0
    | cons ch str ih =>
      have hchar : 1 ≤ (quoteChar ch).length := by
        rw [quoteChar]
        split <;> simp
      rw [List.flatMap_cons, List.length_append, List.length_cons]
      omega
  rw [quoted, List.length_cons, List.length_append, List.length_singleton]
  omega

private theorem dynarStrQuoteLoop_collects (str : List UInt8) :
    (dynarStrQuoteLoop str).Collects (str.flatMap quoteChar) () := by
  induction str with
  | nil => exact .pure ()
  | cons ch str ih =>
    have hrest := (DynarM.Collects.cat [ch]).andThen (f := fun _ => dynarStrQuoteLoop str) ih
    rw [List.flatMap_cons, dynarStrQuoteLoop, quoteChar]
    by_cases hescape : ch = 34 ∨ ch = 92
    · simp only [if_pos hescape]
      exact (DynarM.Collects.cat [92]).andThen hrest
    · simp only [if_neg hescape]
      exact (DynarM.Collects.pure ()).andThen (f := fun _ => dynarCat [ch] >>= fun _ => _) hrest

theorem dynarStrQuoteCat_collects (str : List UInt8) :
    (dynarStrQuoteCat str).Collects (quoted str) () :=
  (DynarM.Collects.cat [34]).andThen
    ((dynarStrQuoteLoop_collects str).andThen (DynarM.Collects.cat [34]))

/-- Quote one string after the other, each with the blanks that stand before it. -/
def quoteWords : List (List UInt8 × List UInt8) → DynarM Unit
  | [] => pure ()
  | (blanks, str) :: words => do
    dynarCat blanks
    dynarStrQuoteCat str
    quoteWords words

/-- What `quoteWords` writes. -/
def quotedWords (words : List (List UInt8 × List UInt8)) : List UInt8 :=
  words.flatMap fun word => word.1 ++ quoted word.2

theorem quoteWords_collects (words : List (List UInt8 × List UInt8)) :
    (quoteWords words).Collects (quotedWords words) () := by
  induction words with
  | nil => exact .pure ()
  | cons word words ih =>
    rw [quotedWords, List.flatMap_cons, List.append_assoc]
    exact (DynarM.Collects.cat word.1).andThen ((dynarStrQuoteCat_collects word.2).andThen ih)

/-! ### The lexer -/

/-- A string that can be quoted on one line of text. -/
def Quotable (str : List UInt8) : Prop := ∀ ch ∈ str, ch ≠ 0 ∧ ch ≠ 10 ∧ ch ≠ 13

/-- Spaces and tabs. -/
def Blanks (blanks : List UInt8) : Prop := ∀ ch ∈ blanks, ch = 32 ∨ ch = 9

/-- The rest of the input behind a string: nothing, or a space. -/
def WordEnd (rest : List UInt8) : Prop := ∀ ch ∈ rest.head?, dynarSimpleLexIsSpace ch = true

theorem dynarSimpleLexWord_end {rest : List UInt8} (h : WordEnd rest) :
    dynarSimpleLexWord .quote .word rest = ([], rest) := by
  cases rest with
  | nil => rfl
  | cons ch rest => exact dynarSimpleLexWord_space rest (h ch rfl)

/-- Inside quotes the lexer undoes `dynar_str_quote_cat`. -/
theorem dynarSimpleLexWord_quote {str rest : List UInt8} (h : Quotable str) (hrest : WordEnd rest) :
    dynarSimpleLexWord .quote .quote (str.flatMap quoteChar ++ 34 :: rest) = (str, rest) := by
  induction str with
  | nil => exact dynarSimpleLexWord_end hrest
  | cons ch str ih =>
    obtain ⟨hch, hstr⟩ := List.forall_mem_cons.mp h
    have hend : Text.isLineEnd ch = false := by simp [Text.isLineEnd, hch]
    rw [List.flatMap_cons, List.append_assoc, quoteChar]
    by_cases hescape : ch = 34 ∨ ch = 92
    · rw [if_pos hescape]
      simp [dynarSimpleLexWord, hend, hescape.symm, ih hstr, addChar]
    · rw [if_neg hescape]
      obtain ⟨hquote, hbackslash⟩ := not_or.mp hescape
      simp [dynarSimpleLexWord, hend, hquote, hbackslash, ih hstr, addChar]

/-- One token: the blanks before it are skipped. -/
theorem dynarSimpleLexTokenNext_quoted {blanks str rest : List UInt8} (hblanks : Blanks blanks)
    (hstr : Quotable str) (hrest : WordEnd rest) :
    dynarSimpleLexTokenNext .quote (blanks ++ (quoted str ++ rest)) = (str, rest) := by
  have hskip : ∀ ch ∈ blanks, (dynarSimpleLexIsSpace ch && !Text.isLineEnd ch) = true := by
    intro ch hch
    rcases hblanks ch hch with rfl | rfl <;> rfl
  have hdrop : (blanks ++ (quoted str ++ rest)).dropWhile
      (fun ch => dynarSimpleLexIsSpace ch && !Text.isLineEnd ch) = quoted str ++ rest := by
    rw [List.dropWhile_append_of_pos hskip]
    exact List.dropWhile_cons_of_neg (by decide)
  rw [dynarSimpleLexTokenNext, hdrop, quoted, List.cons_append, List.append_assoc,
    dynarSimpleLexWord]
  exact dynarSimpleLexWord_quote hstr hrest

/-- The input that `quoteWords` writes: strings without NUL, newline and carriage return, and
    blanks between them.  The first string may have blanks before it or not. -/
structure Words (words : List (List UInt8 × List UInt8)) : Prop where
  strings : ∀ word ∈ words, Quotable word.2
  blanks : ∀ word ∈ words, Blanks word.1
  gaps : ∀ word ∈ words.tail, word.1 ≠ []

namespace Words

variable {word : List UInt8 × List UInt8} {words : List (List UInt8 × List UInt8)}

theorem tail (h : Words (word :: words)) : Words words where
  strings word' hword := h.strings word' (.tail _ hword)
  blanks word' hword := h.blanks word' (.tail _ hword)
  gaps word' hword := h.gaps word' (List.mem_of_mem_tail hword)

/-- Every string but the last one ends before a space. -/
theorem wordEnd (h : Words (word :: words)) : WordEnd (quotedWords words) := by
  cases words with
  | nil => exact fun ch hch => by cases hch
  | cons next words =>
    have hgap : next.1 ≠ [] := h.gaps next (.head _)
    obtain ⟨blank, blanks, hblanks⟩ := List.exists_cons_of_ne_nil hgap
    have hblank := h.blanks next (.tail _ (.head _)) blank (by rw [hblanks]; exact .head _)
    intro ch hch
    rw [quotedWords, List.flatMap_cons, hblanks] at hch
    obtain rfl : blank = ch := Option.some.inj hch
    rcases hblank with rfl | rfl <;> rfl

/-- The first token. -/
theorem tokenNext (h : Words (word :: words)) :
    dynarSimpleLexTokenNext .quote (quotedWords (word :: words)) = (word.2, quotedWords words) := by
  rw [quotedWords, List.flatMap_cons, List.append_assoc]
  exact dynarSimpleLexTokenNext_quoted (h.blanks word (.head _)) (h.strings word (.head _)) h.wordEnd

end Words

/-! ### Calls one after the other -/

namespace DynarSimpleLex

/-- What so many calls of `dynar_simple_lex_token_next` return. -/
def calls : Nat → DynarSimpleLex → List (Option (List UInt8))
  | 0, _ => []
  | n + 1, lex =>
    match lex.tokenNext with
    | (token, lex') => token.map Dynar.data :: calls n lex'

/-- A call for which there is room. -/
theorem calls_succ {lex : DynarSimpleLex} {str rest : List UInt8} (n : Nat)
    (hnext : dynarSimpleLexTokenNext lex.lexType lex.left = (str, rest))
    (hroom : str.length + 1 ≤ dynarMaxSize lex.token) :
    ∃ lex', lex'.lexType = lex.lexType ∧ lex'.left = rest ∧
      dynarMaxSize lex'.token = dynarMaxSize lex.token ∧
      calls (n + 1) lex = some (str ++ [0]) :: calls n lex' := by
  obtain ⟨pos, hleft, heq⟩ := lex.tokenNext_eq (by rw [hnext]; exact hroom)
  refine ⟨{ lex with token := lex.tokenOf, pos := pos }, rfl, ?_, rfl, ?_⟩
  · rw [hnext] at hleft
    exact hleft
  · simp only [calls, heq, Option.map_some, tokenOf, hnext]

/-- At the end of the input there are only empty tokens. -/
theorem calls_end {lex : DynarSimpleLex} (hleft : lex.left = []) (hroom : 0 < dynarMaxSize lex.token)
    (n : Nat) : calls n lex = List.replicate n (some [0]) := by
  induction n generalizing lex with
  | zero => rfl
  | succ n ih =>
    have hnext : dynarSimpleLexTokenNext lex.lexType lex.left = ([], []) := by
      rw [hleft]
      rfl
    obtain ⟨lex', -, hleft', hmax, heq⟩ := lex.calls_succ n hnext hroom
    rw [heq, ih hleft' (by omega)]
    rfl

/-- The tokens of quoted strings. -/
theorem calls_words {words : List (List UInt8 × List UInt8)} (h : Words words)
    {lex : DynarSimpleLex} (htype : lex.lexType = .quote) (hleft : lex.left = quotedWords words)
    (hroom : (quotedWords words).length ≤ dynarMaxSize lex.token)
    (hmax : 0 < dynarMaxSize lex.token) (n : Nat) :
    calls (words.length + n) lex =
      words.map (fun word => some (word.2 ++ [0])) ++ List.replicate n (some [0]) := by
  induction words generalizing lex with
  | nil =>
    rw [List.length_nil, Nat.zero_add]
    exact calls_end hleft hmax n
  | cons word words ih =>
    have hlength : (quotedWords (word :: words)).length =
        word.1.length + (quoted word.2).length + (quotedWords words).length := by
      rw [quotedWords, List.flatMap_cons, List.length_append, List.length_append]
      rfl
    have hshort := length_lt_quoted word.2
    have hnext : dynarSimpleLexTokenNext lex.lexType lex.left = (word.2, quotedWords words) := by
      rw [htype, hleft]
      exact h.tokenNext
    obtain ⟨lex', htype', hleft', hmax', heq⟩ := lex.calls_succ (words.length + n) hnext (by omega)
    rw [List.length_cons, Nat.add_right_comm, heq,
      ih h.tail (htype'.trans htype) hleft' (by omega) (by omega)]
    rfl

end DynarSimpleLex

/-- Strings that are quoted and joined by blanks, in a buffer of any size that holds them, are
    the tokens of the input, each with a NUL behind it, and after them there are only empty
    tokens.  No call gives `NULL`, unless there is no string at all and the buffer has no room for
    a NUL.  Strings may be empty: their tokens cannot be told from the end of the input. -/
theorem quoteWords_tokens (words : List (List UInt8 × List UInt8)) (h : Words words)
    (maximumSize : Nat) (hfits : (quotedWords words).length ≤ maximumSize)
    (hmax : words = [] → 0 < maximumSize) :
    ∃ input, quoteWords words (dynarInit maximumSize) = (some (), input) ∧
      ∀ n, (DynarSimpleLex.init input .quote).calls (words.length + n) =
        words.map (fun word => some (word.2 ++ [0])) ++ List.replicate n (some [0]) := by
  have hbuilt := (quoteWords_collects words).fits (dynarInit maximumSize) (by
    simpa [dynarSize, dynarMaxSize, dynarInit] using hfits)
  refine ⟨_, hbuilt, fun n => ?_⟩
  apply DynarSimpleLex.calls_words h
  · rfl
  · rfl
  · exact hfits
  · -- The buffer of a token is as long as the input, where each word stands in quotes.
    cases words with
    | nil => exact hmax rfl
    | cons word words =>
      have hshort := length_lt_quoted word.2
      rw [quotedWords, List.flatMap_cons, List.length_append, List.length_append] at hfits
      simp only [DynarSimpleLex.init, dynarInit, dynarMaxSize]
      omega

/-- `a"` and `\`, with a tab between them. -/
def twoWords : List (List UInt8 × List UInt8) := [([], [97, 34]), ([9], [92])]

theorem quoteWords_tokens_two :
    ∃ input, quoteWords twoWords (dynarInit 10) = (some (), input) ∧
      ∀ n, (DynarSimpleLex.init input .quote).calls (2 + n) =
        [some [97, 34, 0], some [92, 0]] ++ List.replicate n (some [0]) := by
  refine quoteWords_tokens twoWords ⟨?_, ?_, ?_⟩ 10 (by decide) (by decide)
  · simp [twoWords, Quotable]
  · simp [twoWords, Blanks]
  · simp [twoWords]

end Qdevice
