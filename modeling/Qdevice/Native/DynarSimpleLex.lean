import Qdevice.Native.DynarStr

/-! # The lexer with its token buffer

`dynar-simple-lex.c` as it works on buffers: a token is collected byte by byte in a buffer that is
as large as the input may be, and a byte that does not fit ends the call with `NULL`.
`dynarSimpleLexTokenNext` of `DynarStr` says what the tokens are; a token comes out of a call
exactly if it fits, `tokenNext_eq`. -/

namespace Qdevice

/-- `struct dynar_simple_lex`. -/
structure DynarSimpleLex where
  token : Dynar
  input : Dynar
  pos : Nat := 0
  lexType : DynarSimpleLexType
deriving DecidableEq

/-- States 2 to 5 of the loop of `dynar_simple_lex_token_next`, on the input from `pos` on.  The
    result is the position where it stops. -/
def dynarSimpleLexRead (lexType : DynarSimpleLexType) :
    DynarSimpleLexState → List UInt8 → Nat → DynarM Nat
  | _, [], pos => pure pos
  | .word, ch :: rest, pos =>
    if (lexType = .backslash ∨ lexType = .quote) ∧ ch = 92 then
      dynarSimpleLexRead lexType .backslash rest (pos + 1)
    else if lexType = .quote ∧ ch = 34 then dynarSimpleLexRead lexType .quote rest (pos + 1)
    else if dynarSimpleLexIsSpace ch then pure pos
    else do
      dynarCat [ch]
      dynarSimpleLexRead lexType .word rest (pos + 1)
  | .backslash, ch :: rest, pos =>
    if Text.isLineEnd ch then pure pos
    else do
      dynarCat [ch]
      dynarSimpleLexRead lexType .word rest (pos + 1)
  | .quote, ch :: rest, pos =>
    if ch = 92 then dynarSimpleLexRead lexType .quoteBackslash rest (pos + 1)
    else if ch = 34 then dynarSimpleLexRead lexType .word rest (pos + 1)
    else if Text.isLineEnd ch then pure pos
    else do
      dynarCat [ch]
      dynarSimpleLexRead lexType .quote rest (pos + 1)
  | .quoteBackslash, ch :: rest, pos =>
    if Text.isLineEnd ch then pure pos
    else if ch = 92 ∨ ch = 34 then do
      dynarCat [ch]
      dynarSimpleLexRead lexType .quote rest (pos + 1)
    else do
      dynarCat [92]
      dynarCat [ch]
      dynarSimpleLexRead lexType .quote rest (pos + 1)

/-- The loop from state 1 on. -/
def dynarSimpleLexSkip (lexType : DynarSimpleLexType) : List UInt8 → Nat → DynarM Nat
  | [], pos => pure pos
  | ch :: rest, pos =>
    -- A newline is special and means the end of processing.
    if Text.isLineEnd ch then pure pos
    else if dynarSimpleLexIsSpace ch then dynarSimpleLexSkip lexType rest (pos + 1)
    else dynarSimpleLexRead lexType .word (ch :: rest) pos

namespace DynarSimpleLex

/-- `dynar_simple_lex_init`. -/
def init (input : Dynar) (lexType : DynarSimpleLexType) : DynarSimpleLex :=
  { token := dynarInit (dynarMaxSize input), input := input, lexType := lexType }

/-- The input that has not been read. -/
def left (lex : DynarSimpleLex) : List UInt8 := lex.input.data.drop lex.pos

/-- The part of `dynar_simple_lex_token_next` that fills the token buffer. -/
def read (lex : DynarSimpleLex) : DynarM Nat := do
  let pos ← dynarSimpleLexSkip lex.lexType lex.left lex.pos
  dynarCat [0]
  pure pos

/-- `dynar_simple_lex_token_next`.  `none` is `NULL`. -/
def tokenNext (lex : DynarSimpleLex) : Option Dynar × DynarSimpleLex :=
  match lex.read (dynarClean lex.token) with
  | (none, token) => (none, { lex with token := token })
  | (some pos, token) => (some token, { lex with token := token, pos := pos })

end DynarSimpleLex

/-! ### Tokens that fit -/

/-- A loop collects the token that the pure lexer finds in `input`, from position `pos` on, and
    stops before what the lexer leaves. -/
def DynarM.Lexes (m : DynarM Nat) (res : List UInt8 × List UInt8) (input : List UInt8)
    (pos : Nat) : Prop :=
  ∃ stop, stop + res.2.length = pos + input.length ∧ m.Collects res.1 stop

namespace DynarM.Lexes

variable {m : DynarM Nat} {res : List UInt8 × List UInt8} {rest : List UInt8} {pos : Nat}

theorem stop (input : List UInt8) (pos : Nat) : (pure pos : DynarM Nat).Lexes ([], input) input pos :=
  ⟨pos, rfl, .pure pos⟩

/-- A character that is read and not collected. -/
theorem skip (ch : UInt8) (h : m.Lexes res rest (pos + 1)) : m.Lexes res (ch :: rest) pos := by
  obtain ⟨stop, hstop, hcollects⟩ := h
  refine ⟨stop, ?_, hcollects⟩
  rw [List.length_cons]
  omega

/-- A character that is collected. -/
theorem cat (ch : UInt8) (h : m.Lexes res rest pos) :
    (dynarCat [ch] >>= fun _ => m).Lexes (addChar ch res) rest pos := by
  obtain ⟨stop, hstop, hcollects⟩ := h
  exact ⟨stop, hstop, (DynarM.Collects.cat [ch]).andThen hcollects⟩

end DynarM.Lexes

/-- States 2 to 5. -/
theorem dynarSimpleLexRead_lexes (lexType : DynarSimpleLexType) (state : DynarSimpleLexState)
    (input : List UInt8) (pos : Nat) :
    (dynarSimpleLexRead lexType state input pos).Lexes (dynarSimpleLexWord lexType state input)
      input pos := by
  induction input generalizing state pos with
  | nil => cases state <;> exact DynarM.Lexes.stop [] pos
  | cons ch rest ih =>
    have hskip (state') : (dynarSimpleLexRead lexType state' rest (pos + 1)).Lexes
        (dynarSimpleLexWord lexType state' rest) (ch :: rest) pos := (ih state' (pos + 1)).skip ch
    have hstop := DynarM.Lexes.stop (ch :: rest) pos
    cases state with
    | word =>
      simp only [dynarSimpleLexRead, dynarSimpleLexWord]
      by_cases hbackslash : (lexType = .backslash ∨ lexType = .quote) ∧ ch = 92
      · simpa only [if_pos hbackslash] using hskip .backslash
      by_cases hquote : lexType = .quote ∧ ch = 34
      · simpa only [if_neg hbackslash, if_pos hquote] using hskip .quote
      by_cases hspace : dynarSimpleLexIsSpace ch = true
      · simpa only [if_neg hbackslash, if_neg hquote, if_pos hspace] using hstop
      · simpa only [if_neg hbackslash, if_neg hquote, if_neg hspace] using (hskip .word).cat ch
    | backslash =>
      simp only [dynarSimpleLexRead, dynarSimpleLexWord]
      by_cases hend : Text.isLineEnd ch = true
      · simpa only [if_pos hend] using hstop
      · simpa only [if_neg hend] using (hskip .word).cat ch
    | quote =>
      simp only [dynarSimpleLexRead, dynarSimpleLexWord]
      by_cases hbackslash : ch = 92
      · simpa only [if_pos hbackslash] using hskip .quoteBackslash
      by_cases hquote : ch = 34
      · simpa only [if_neg hbackslash, if_pos hquote] using hskip .word
      by_cases hend : Text.isLineEnd ch = true
      · simpa only [if_neg hbackslash, if_neg hquote, if_pos hend] using hstop
      · simpa only [if_neg hbackslash, if_neg hquote, if_neg hend] using (hskip .quote).cat ch
    | quoteBackslash =>
      simp only [dynarSimpleLexRead, dynarSimpleLexWord]
      by_cases hend : Text.isLineEnd ch = true
      · simpa only [if_pos hend] using hstop
      by_cases hescaped : ch = 92 ∨ ch = 34
      · simpa only [if_neg hend, if_pos hescaped] using (hskip .quote).cat ch
      · simpa only [if_neg hend, if_neg hescaped] using ((hskip .quote).cat ch).cat 92

/-- The whole loop. -/
theorem dynarSimpleLexSkip_lexes (lexType : DynarSimpleLexType) (input : List UInt8) (pos : Nat) :
    (dynarSimpleLexSkip lexType input pos).Lexes (dynarSimpleLexTokenNext lexType input)
      input pos := by
  induction input generalizing pos with
  | nil => exact DynarM.Lexes.stop [] pos
  | cons ch rest ih =>
    simp only [dynarSimpleLexSkip, dynarSimpleLexTokenNext, List.dropWhile_cons]
    by_cases hend : Text.isLineEnd ch = true
    · have hspace : dynarSimpleLexIsSpace ch = true := dynarSimpleLexIsSpace_of_isLineEnd hend
      have hword : dynarSimpleLexWord lexType .word (ch :: rest) = ([], ch :: rest) :=
        dynarSimpleLexWord_space rest hspace
      simpa [hend, hword] using DynarM.Lexes.stop (ch :: rest) pos
    by_cases hspace : dynarSimpleLexIsSpace ch = true
    · simpa [hend, hspace, dynarSimpleLexTokenNext] using (ih (pos + 1)).skip ch
    · simpa [hend, hspace] using dynarSimpleLexRead_lexes lexType .word (ch :: rest) pos

namespace DynarSimpleLex

/-- The buffer of a call that does not fail. -/
def tokenOf (lex : DynarSimpleLex) : Dynar :=
  { lex.token with data := (dynarSimpleLexTokenNext lex.lexType lex.left).1 ++ [0] }

private theorem drop_stop {lex : DynarSimpleLex} {stop : Nat}
    (h : stop + (dynarSimpleLexTokenNext lex.lexType lex.left).2.length =
      lex.pos + lex.left.length) :
    lex.input.data.drop stop = (dynarSimpleLexTokenNext lex.lexType lex.left).2 := by
  have hsuffix := dynarSimpleLexTokenNext_suffix lex.lexType lex.left
  rw [left, List.length_drop, ← left] at h
  by_cases hpos : lex.pos ≤ lex.input.data.length
  · rw [List.suffix_iff_eq_drop.mp (hsuffix.trans (List.drop_suffix _ _))]
    congr 1
    omega
  · have hnil : lex.left = [] := List.drop_eq_nil_of_le (by omega)
    rw [hnil, List.suffix_nil] at hsuffix
    rw [hnil, hsuffix] at h ⊢
    exact List.drop_eq_nil_of_le (by rw [List.length_nil] at h; omega)

/-- The loop and the NUL behind the token. -/
private theorem read_collects (lex : DynarSimpleLex) :
    ∃ stop, lex.input.data.drop stop = (dynarSimpleLexTokenNext lex.lexType lex.left).2 ∧
      lex.read.Collects ((dynarSimpleLexTokenNext lex.lexType lex.left).1 ++ [0]) stop := by
  obtain ⟨stop, hstop, hcollects⟩ := dynarSimpleLexSkip_lexes lex.lexType lex.left lex.pos
  refine ⟨stop, drop_stop hstop, hcollects.andThen ?_⟩
  simpa using (DynarM.Collects.cat [0]).andThen (DynarM.Collects.pure stop)

/-- A call gives the next token with a NUL behind it, if there is room for both, and goes on
    behind the token. -/
theorem tokenNext_eq (lex : DynarSimpleLex)
    (h : (dynarSimpleLexTokenNext lex.lexType lex.left).1.length + 1 ≤ dynarMaxSize lex.token) :
    ∃ pos, lex.input.data.drop pos = (dynarSimpleLexTokenNext lex.lexType lex.left).2 ∧
      lex.tokenNext = (some lex.tokenOf, { lex with token := lex.tokenOf, pos := pos }) := by
  obtain ⟨stop, hleft, hcollects⟩ := read_collects lex
  have hread := hcollects.fits (dynarClean lex.token) (by
    simpa [dynarSize, dynarMaxSize, dynarClean] using h)
  refine ⟨stop, hleft, ?_⟩
  simp only [tokenNext, hread]
  rfl

/-- Otherwise it gives `NULL`. -/
theorem tokenNext_full (lex : DynarSimpleLex)
    (h : dynarMaxSize lex.token < (dynarSimpleLexTokenNext lex.lexType lex.left).1.length + 1) :
    lex.tokenNext.1 = none := by
  obtain ⟨stop, hleft, hcollects⟩ := read_collects lex
  have hread := hcollects.full (dynarClean lex.token) (Nat.zero_le _) (by
    simpa [dynarSize, dynarMaxSize, dynarClean] using h)
  cases hres : lex.read (dynarClean lex.token) with
  | mk res token =>
    rw [hres] at hread
    simp only at hread
    subst hread
    simp only [tokenNext, hres]

/-- Whatever a call does, it keeps the input, the mode and the room for tokens. -/
theorem tokenNext_keeps (lex : DynarSimpleLex) {token : Dynar} {lex' : DynarSimpleLex}
    (h : lex.tokenNext = (some token, lex')) :
    token = lex.tokenOf ∧ lex'.left = (dynarSimpleLexTokenNext lex.lexType lex.left).2 ∧
      lex' = { lex with token := lex.tokenOf, pos := lex'.pos } := by
  by_cases hroom : (dynarSimpleLexTokenNext lex.lexType lex.left).1.length + 1 ≤
      dynarMaxSize lex.token
  · obtain ⟨pos, hleft, heq⟩ := lex.tokenNext_eq hroom
    rw [heq, Prod.mk.injEq, Option.some.injEq] at h
    obtain ⟨rfl, rfl⟩ := h
    exact ⟨rfl, hleft, rfl⟩
  · have hnone := lex.tokenNext_full (by omega)
    rw [h] at hnone
    cases hnone

end DynarSimpleLex

end Qdevice
