import Qdevice.ForStd.Text
import Qdevice.Native.Dynar

/-! # Strings in dynamic arrays

`dynar-str.c` and `dynar-simple-lex.c`.  A C string is the list of its bytes without the NUL
behind them. -/

namespace Qdevice

/-- `dynar_str_cat`. -/
def dynarStrCat (str : List UInt8) : DynarM Unit := dynarCat str

/-- `dynar_str_cpy`. -/
def dynarStrCpy (str : List UInt8) : DynarM Unit := fun dest =>
  if str.length > dynarMaxSize dest then (none, dest) else dynarStrCat str (dynarClean dest)

/-- The loop of `dynar_str_quote_cat`. -/
def dynarStrQuoteLoop : List UInt8 → DynarM Unit
  | [] => pure ()
  | ch :: str => do
    if ch = 34 ∨ ch = 92 then dynarStrCat [92] else pure ()
    dynarCat [ch]
    dynarStrQuoteLoop str

/-- `dynar_str_quote_cat`. -/
def dynarStrQuoteCat (str : List UInt8) : DynarM Unit := do
  dynarStrCat [34]
  dynarStrQuoteLoop str
  dynarStrCat [34]

/-- `dynar_str_catf`, of the text that the format and its arguments give.  There has to be room
    for the NUL of `vsnprintf` too. -/
def dynarStrCatf (text : List UInt8) : DynarM Unit := fun dest =>
  if text.length < 1 then (some (), dest)
  else if dynarSize dest + (text.length + 1) > dynarMaxSize dest then (none, dest)
  else (some (), { dest with data := dest.data ++ text })

theorem DynarM.Appends.catf (text : List UInt8) : (dynarStrCatf text).Appends text := by
  intro dest dest' h
  simp only [dynarStrCatf] at h
  split at h
  · next hempty =>
    obtain rfl : text = [] := List.length_eq_zero_iff.mp (by omega)
    exact DynarM.Appends.skip dest dest' h
  · split at h
    · cases h
    · next hle =>
      obtain rfl : { dest with data := dest.data ++ text } = dest' := congrArg Prod.snd h
      simp only [dynarSize, dynarMaxSize] at hle
      refine ⟨rfl, fun _ => ?_⟩
      simp only [dynarSize, dynarMaxSize, List.length_append]
      omega

/-! ### The lexer -/

/-- `enum dynar_simple_lex_type`. -/
inductive DynarSimpleLexType where
  | plain
  | backslash
  | quote
deriving DecidableEq

/-- `dynar_simple_lex_is_space`. -/
def dynarSimpleLexIsSpace (ch : UInt8) : Bool :=
  ch == 32 || ch == 12 || ch == 10 || ch == 13 || ch == 9 || ch == 11

/-- States 2 to 5 of `dynar_simple_lex_token_next`. -/
inductive DynarSimpleLexState where
  | word
  | backslash
  | quote
  | quoteBackslash

/-- One more character of the token. -/
def addChar (ch : UInt8) (res : List UInt8 × List UInt8) : List UInt8 × List UInt8 :=
  (ch :: res.1, res.2)

/-- The rest of a token, and the input behind it. -/
def dynarSimpleLexWord (lexType : DynarSimpleLexType) :
    DynarSimpleLexState → List UInt8 → List UInt8 × List UInt8
  | _, [] => ([], [])
  | .word, ch :: rest =>
    if (lexType = .backslash ∨ lexType = .quote) ∧ ch = 92 then
      dynarSimpleLexWord lexType .backslash rest
    else if lexType = .quote ∧ ch = 34 then dynarSimpleLexWord lexType .quote rest
    else if dynarSimpleLexIsSpace ch then ([], ch :: rest)
    else addChar ch (dynarSimpleLexWord lexType .word rest)
  | .backslash, ch :: rest =>
    -- At the end of a line the backslash is just ignored.
    if Text.isLineEnd ch then ([], ch :: rest)
    else addChar ch (dynarSimpleLexWord lexType .word rest)
  | .quote, ch :: rest =>
    if ch = 92 then dynarSimpleLexWord lexType .quoteBackslash rest
    else if ch = 34 then dynarSimpleLexWord lexType .word rest
    else if Text.isLineEnd ch then ([], ch :: rest)
    else addChar ch (dynarSimpleLexWord lexType .quote rest)
  | .quoteBackslash, ch :: rest =>
    if Text.isLineEnd ch then ([], ch :: rest)
    else if ch = 92 ∨ ch = 34 then addChar ch (dynarSimpleLexWord lexType .quote rest)
    else addChar 92 (addChar ch (dynarSimpleLexWord lexType .quote rest))

/-- `dynar_simple_lex_token_next`: the next token, which is empty at the end of the input or of a
    line, and the input behind it. -/
def dynarSimpleLexTokenNext (lexType : DynarSimpleLexType) (input : List UInt8) :
    List UInt8 × List UInt8 :=
  dynarSimpleLexWord lexType .word
    (input.dropWhile fun ch => dynarSimpleLexIsSpace ch && !Text.isLineEnd ch)

theorem length_dynarSimpleLexWord (lexType : DynarSimpleLexType) (state : DynarSimpleLexState)
    (input : List UInt8) :
    (dynarSimpleLexWord lexType state input).2.length ≤ input.length ∧
      ((dynarSimpleLexWord lexType state input).1 ≠ [] →
        (dynarSimpleLexWord lexType state input).2.length < input.length) := by
  fun_induction dynarSimpleLexWord lexType state input <;>
    simp_all [addChar] <;> omega

theorem dynarSimpleLexWord_suffix (lexType : DynarSimpleLexType) (state : DynarSimpleLexState)
    (input : List UInt8) : (dynarSimpleLexWord lexType state input).2 <:+ input := by
  induction input generalizing state with
  | nil => cases state <;> exact List.suffix_rfl
  | cons ch rest ih =>
    have hmore (state') : (dynarSimpleLexWord lexType state' rest).2 <:+ ch :: rest :=
      (ih state').trans (List.suffix_cons ch rest)
    cases state <;> simp only [dynarSimpleLexWord] <;> repeat' split
    all_goals first | exact List.suffix_rfl | exact hmore _

theorem dynarSimpleLexTokenNext_suffix (lexType : DynarSimpleLexType) (input : List UInt8) :
    (dynarSimpleLexTokenNext lexType input).2 <:+ input :=
  (dynarSimpleLexWord_suffix _ _ _).trans (List.dropWhile_suffix _)

theorem dynarSimpleLexIsSpace_of_isLineEnd {ch : UInt8} (h : Text.isLineEnd ch = true) :
    dynarSimpleLexIsSpace ch = true := by
  simp only [Text.isLineEnd, Bool.or_eq_true, beq_iff_eq] at h
  rcases h with rfl | rfl <;> rfl

/-- A word ends before a space. -/
theorem dynarSimpleLexWord_space {lexType : DynarSimpleLexType} {ch : UInt8} (rest : List UInt8)
    (h : dynarSimpleLexIsSpace ch = true) :
    dynarSimpleLexWord lexType .word (ch :: rest) = ([], ch :: rest) := by
  have hbackslash : ch ≠ 92 := by
    rintro rfl
    cases h
  have hquote : ch ≠ 34 := by
    rintro rfl
    cases h
  rw [dynarSimpleLexWord, if_neg fun h => hbackslash h.2, if_neg fun h => hquote h.2, if_pos h]

/-- A token that is not empty takes something from the input. -/
theorem length_dynarSimpleLexTokenNext {lexType : DynarSimpleLexType} {input : List UInt8}
    (h : (dynarSimpleLexTokenNext lexType input).1 ≠ []) :
    (dynarSimpleLexTokenNext lexType input).2.length < input.length :=
  Nat.lt_of_lt_of_le ((length_dynarSimpleLexWord _ _ _).2 h) (List.dropWhile_suffix _).length_le

end Qdevice
