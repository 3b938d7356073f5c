import Mathlib.Data.Nat.Digits.Lemmas
import Mathlib.Data.List.TakeWhile

/-! # Text in byte buffers

Decimal numbers as `printf` writes and `scanf` reads them, and streams of lines that are cut
into pieces anywhere.  A reader of such a stream collects the pieces and handles a line as soon
as its end is there; `handleLines_stream` says that it handles the lines of the stream one after
the other, whatever the pieces are.  Nothing here is about a particular format. -/

namespace Text

/-- The bytes of some ASCII characters. -/
def ofChars (chars : List Char) : List UInt8 := chars.map fun c => UInt8.ofNat c.toNat

/-- `isspace` in the C locale. -/
def isSpace (c : UInt8) : Bool := c == 32 || (9 ≤ c && c ≤ 13)

/-- `isdigit`. -/
def isDigit (c : UInt8) : Bool := 48 ≤ c && c ≤ 57

/-- Conversion `%u` of `printf`. -/
def decimal (n : Nat) : List UInt8 :=
  if n = 0 then [48] else (Nat.digits 10 n).reverse.map fun d => UInt8.ofNat (48 + d)

/-- The number that some digits stand for. -/
def digitsValue (digits : List UInt8) : Nat :=
  digits.foldl (fun value c => value * 10 + (c.toNat - 48)) 0

/-- Conversion `%lu` of `scanf`, which is `strtoul`: a number too large becomes `ULONG_MAX`. -/
def scanUnsigned (str : List UInt8) : Option (UInt64 × List UInt8) :=
  let str := str.dropWhile isSpace
  let negative := str.head? = some 45
  let str := if negative ∨ str.head? = some 43 then str.tail else str
  let digits := str.takeWhile isDigit
  let value := digitsValue digits
  if digits = [] then none
  else some (if 2 ^ 64 ≤ value then UInt64.ofNat (2 ^ 64 - 1)
    else if negative then -UInt64.ofNat value else UInt64.ofNat value, str.dropWhile isDigit)

/-- Conversion `%u` of `scanf`. -/
def scanUInt32 (str : List UInt8) : Option (UInt32 × List UInt8) :=
  (scanUnsigned str).map fun (value, rest) => (value.toUInt32, rest)

/-! ### What is written is read back -/

theorem takeWhile_append_of_all {α : Type} (p : α → Bool) (xs ys : List α)
    (h : ∀ x ∈ xs, p x = true) (hstop : ∀ y ∈ ys.head?, p y = false) :
    (xs ++ ys).takeWhile p = xs ∧ (xs ++ ys).dropWhile p = ys := by
  rw [List.takeWhile_append_of_pos h, List.dropWhile_append_of_pos h]
  cases ys with
  | nil => exact ⟨by rw [List.takeWhile_nil, List.append_nil], rfl⟩
  | cons y ys =>
    have hy : p y = false := hstop y rfl
    simp [hy]

private theorem digit_toNat {d : Nat} (h : d < 10) : (UInt8.ofNat (48 + d)).toNat = 48 + d := by
  rw [UInt8.toNat_ofNat']
  omega

private theorem isDigit_ofNat {d : Nat} (h : d < 10) : isDigit (UInt8.ofNat (48 + d)) = true := by
  have hval := digit_toNat h
  simp only [isDigit, Bool.and_eq_true, decide_eq_true_eq, UInt8.le_iff_toNat_le, hval]
  exact ⟨by simp, by simp; omega⟩

theorem decimal_ne_nil (n : Nat) : decimal n ≠ [] := by
  rw [decimal]
  split
  · exact List.cons_ne_nil _ _
  · next hn => simpa [Nat.digits_eq_nil_iff_eq_zero] using hn

theorem isDigit_of_mem_decimal {n : Nat} {c : UInt8} (hc : c ∈ decimal n) : isDigit c = true := by
  rw [decimal] at hc
  split at hc
  · rw [List.mem_singleton.mp hc]
    decide
  · obtain ⟨d, hd, rfl⟩ := List.mem_map.mp hc
    exact isDigit_ofNat (Nat.digits_lt_base (by decide) (List.mem_reverse.mp hd))

theorem length_decimal_le {n k : Nat} (hk : 0 < k) (h : n < 10 ^ k) :
    (decimal n).length ≤ k := by
  rw [decimal]
  split
  · exact hk
  · rw [List.length_map, List.length_reverse]
    exact (Nat.digits_length_le_iff (by decide) n).mpr h

/-- The digits of a number have its value. -/
theorem digitsValue_decimal (n : Nat) : digitsValue (decimal n) = n := by
  have hvalue : ∀ ds : List Nat, (∀ d ∈ ds, d < 10) →
      digitsValue (ds.reverse.map fun d => UInt8.ofNat (48 + d)) = Nat.ofDigits 10 ds := by
    intro ds hds
    induction ds with
    | nil => rfl
    | cons d ds ih =>
      have hd := digit_toNat (hds d List.mem_cons_self)
      have hrest := ih fun d hd => hds d (List.mem_cons_of_mem _ hd)
      rw [digitsValue] at hrest
      rw [digitsValue, List.reverse_cons, List.map_append, List.foldl_append, hrest,
        Nat.ofDigits_cons]
      simp only [List.map_cons, List.map_nil, List.foldl_cons, List.foldl_nil, hd]
      omega
  rw [decimal]
  split
  · next hn => rw [hn]; rfl
  · rw [hvalue _ fun d hd => Nat.digits_lt_base (by decide) hd, Nat.ofDigits_digits]

private theorem not_space_of_isDigit (c : UInt8) (h : isDigit c = true) :
    isSpace c = false ∧ c ≠ 45 ∧ c ≠ 43 := by
  simp only [isDigit, Bool.and_eq_true, decide_eq_true_eq] at h
  have hother : ∀ d : UInt8, d < 48 → c ≠ d := by
    rintro d hd rfl
    exact absurd h.1 (UInt8.not_le.mpr hd)
  have hctrl : ¬ c ≤ 13 := fun hle => absurd (UInt8.le_trans h.1 hle) (by decide)
  refine ⟨?_, hother 45 (by decide), hother 43 (by decide)⟩
  simp [isSpace, hother 32 (by decide), hctrl]

/-- A number of 32 bits is read back, whatever follows that is no digit. -/
theorem scanUInt32_decimal (n : UInt32) {rest : List UInt8}
    (hrest : ∀ c ∈ rest.head?, isDigit c = false) :
    scanUInt32 (decimal n.toNat ++ rest) = some (n, rest) := by
  obtain ⟨c, cs, hcs⟩ := List.exists_cons_of_ne_nil (decimal_ne_nil n.toNat)
  have hdigit : isDigit c = true := isDigit_of_mem_decimal (hcs ▸ List.mem_cons_self)
  -- A digit is neither white space nor a sign.
  have hother : isSpace c = false ∧ c ≠ 45 ∧ c ≠ 43 := not_space_of_isDigit c hdigit
  have hskip : (decimal n.toNat ++ rest).dropWhile isSpace = decimal n.toNat ++ rest := by
    rw [hcs, List.cons_append, List.dropWhile_cons_of_neg (by simp [hother.1])]
  have hhead : (decimal n.toNat ++ rest).head? = some c := by rw [hcs]; rfl
  obtain ⟨htake, hdrop⟩ := takeWhile_append_of_all isDigit (decimal n.toNat) rest
    (fun c hc => isDigit_of_mem_decimal hc) hrest
  have hlt : ¬ 2 ^ 64 ≤ n.toNat := by
    have := n.toNat_lt
    omega
  have hscan : scanUnsigned (decimal n.toNat ++ rest) = some (UInt64.ofNat n.toNat, rest) := by
    simp only [scanUnsigned, hskip, hhead, Option.some.injEq, hother.2.1, hother.2.2, or_self,
      ↓reduceIte, htake, hdrop, decimal_ne_nil, digitsValue_decimal, hlt]
  have hback : (UInt64.ofNat n.toNat).toUInt32 = n := by
    apply UInt32.toNat_inj.mp
    have := n.toNat_lt
    rw [UInt64.toNat_toUInt32, UInt64.toNat_ofNat']
    omega
  rw [scanUInt32, hscan, Option.map_some]
  dsimp only
  rw [hback]

/-! ### Lines -/

/-- A line feed or a carriage return. -/
def isLineEnd (c : UInt8) : Bool := c == 10 || c == 13

/-- Cut the first line off, with the line ends and NULs behind it. -/
def cutLine (data : List UInt8) : Option (List UInt8 × List UInt8) :=
  match data.dropWhile (!isLineEnd ·) with
  | [] => none
  | _ :: rest => some (data.takeWhile (!isLineEnd ·), rest.dropWhile fun c => c == 0 || isLineEnd c)

theorem cutLine_length_lt {data line rest : List UInt8} (h : cutLine data = some (line, rest)) :
    rest.length < data.length := by
  rw [cutLine] at h
  split at h
  · cases h
  · next c tail hdrop =>
    simp only [Option.some.injEq, Prod.mk.injEq] at h
    obtain ⟨_, rfl⟩ := h
    have hle := (List.dropWhile_suffix (!isLineEnd ·) : _ <:+ data).length_le
    rw [hdrop, List.length_cons] at hle
    exact Nat.lt_of_le_of_lt (List.dropWhile_suffix _).length_le hle

section

variable {σ : Type} (handle : List UInt8 → σ → Bool × σ)

/-- Handle every line of a buffer, until one is refused.  What is left is a line without its
    end. -/
def handleLines (data : List UInt8) (s : σ) : Bool × List UInt8 × σ :=
  match _hcut : cutLine data with
  | none => (true, data, s)
  | some (line, rest) =>
    match handle line s with
    | (false, s') => (false, data, s')
    | (true, s') => handleLines rest s'
termination_by data.length
decreasing_by exact cutLine_length_lt _hcut

/-- Handle some lines, until one is refused. -/
def handleAll : List (List UInt8) → σ → Bool × σ
  | [], s => (true, s)
  | line :: lines, s =>
    match handle line s with
    | (false, s') => (false, s')
    | (true, s') => handleAll lines s'

/-- Text that can stand on a line of its own. -/
structure IsLine (line : List UInt8) : Prop where
  noEnd : ∀ c ∈ line, isLineEnd c = false
  start : ∃ c ∈ line.head?, c ≠ 0

/-- A stream of lines. -/
def joinLines (lines : List (List UInt8)) : List UInt8 := lines.flatMap (· ++ [10])

@[simp] theorem joinLines_nil : joinLines [] = [] := rfl

@[simp] theorem joinLines_cons (line : List UInt8) (lines : List (List UInt8)) :
    joinLines (line :: lines) = line ++ 10 :: joinLines lines := by
  simp [joinLines]

@[simp] theorem joinLines_append (lines lines' : List (List UInt8)) :
    joinLines (lines ++ lines') = joinLines lines ++ joinLines lines' :=
  List.flatMap_append

variable {handle}

theorem cutLine_eq_none {data : List UInt8} (h : ∀ c ∈ data, isLineEnd c = false) :
    cutLine data = none := by
  have hdrop : data.dropWhile (!isLineEnd ·) = [] := by
    rw [List.dropWhile_eq_nil_iff]
    intro c hc
    simp [h c hc]
  rw [cutLine, hdrop]

theorem cutLine_line {line rest : List UInt8} (h : ∀ c ∈ line, isLineEnd c = false)
    (hrest : ∀ c ∈ rest.head?, (c == 0 || isLineEnd c) = false) :
    cutLine (line ++ 10 :: rest) = some (line, rest) := by
  obtain ⟨htake, hdrop⟩ := takeWhile_append_of_all (!isLineEnd ·) line (10 :: rest)
    (fun c hc => by simp [h c hc]) (fun c hc => by
      obtain rfl : 10 = c := Option.some.inj hc
      rfl)
  have hskip := (takeWhile_append_of_all (fun c => c == 0 || isLineEnd c) [] rest
    (fun _ hno => absurd hno List.not_mem_nil) hrest).2
  rw [List.nil_append] at hskip
  rw [cutLine, hdrop, htake]
  exact congrArg (fun r => some (line, r)) hskip

/-- The next line of a stream does not start with what is skipped. -/
theorem IsLine.head_joinLines {lines : List (List UInt8)} (h : ∀ line ∈ lines, IsLine line)
    {c : UInt8} (hc : c ∈ (joinLines lines).head?) : (c == 0 || isLineEnd c) = false := by
  cases lines with
  | nil => cases hc
  | cons line lines =>
    obtain ⟨hnoEnd, d, hd, hne⟩ := h line List.mem_cons_self
    cases line with
    | nil => cases hd
    | cons d' line =>
      obtain rfl : d' = d := Option.some.inj hd
      obtain rfl : d' = c := by simpa using hc
      simp [hne, hnoEnd d' List.mem_cons_self]

/-- What every line keeps, all of them keep. -/
theorem handleLines_keeps {R : σ → σ → Prop} (hrefl : ∀ s, R s s)
    (htrans : ∀ {s s₁ s₂}, R s s₁ → R s₁ s₂ → R s s₂) (hhandle : ∀ line s, R s (handle line s).2)
    (data : List UInt8) (s : σ) : R s (handleLines handle data s).2.2 := by
  fun_induction handleLines handle data s with
  | case1 data s hcut => exact hrefl s
  | case2 data s line rest hcut s' hline =>
    have hstep := hhandle line s
    rw [hline] at hstep
    exact hstep
  | case3 data s line rest hcut s' hline ih =>
    have hstep := hhandle line s
    rw [hline] at hstep
    exact htrans hstep ih


/-- A buffer without a line end is kept. -/
theorem handleLines_of_noEnd {data : List UInt8} (h : ∀ c ∈ data, isLineEnd c = false) (s : σ) :
    handleLines handle data s = (true, data, s) := by
  rw [handleLines, cutLine_eq_none h]

variable (handle) in
/-- A reader that has a piece of a stream of lines handles those that are complete, and keeps
    the start of the next one. -/
theorem handleLines_stream {lines : List (List UInt8)} (hlines : ∀ line ∈ lines, IsLine line)
    {data future : List UInt8} (h : data ++ future = joinLines lines) (s : σ) :
    ∃ done todo part, lines = done ++ todo ∧ data = joinLines done ++ part ∧
      part ++ future = joinLines todo ∧ (∀ c ∈ part, isLineEnd c = false) ∧
      (handleLines handle data s).1 = (handleAll handle done s).1 ∧
      (handleLines handle data s).2.2 = (handleAll handle done s).2 ∧
      ((handleAll handle done s).1 = true → (handleLines handle data s).2.1 = part) := by
  induction lines generalizing data s with
  | nil =>
    obtain ⟨rfl, rfl⟩ : data = [] ∧ future = [] := by simpa using h
    have hnoEnd : ∀ c ∈ ([] : List UInt8), isLineEnd c = false := by simp
    refine ⟨[], [], [], rfl, rfl, rfl, hnoEnd, ?_⟩
    rw [handleLines_of_noEnd hnoEnd]
    exact ⟨rfl, rfl, fun _ => rfl⟩
  | cons line lines ih =>
    have hline := hlines line List.mem_cons_self
    have hrest := fun l hl => hlines l (List.mem_cons_of_mem _ hl)
    have hincomplete : ∀ part, data = part → (∀ c ∈ part, isLineEnd c = false) →
        ∃ done todo part, line :: lines = done ++ todo ∧ data = joinLines done ++ part ∧
          part ++ future = joinLines todo ∧ (∀ c ∈ part, isLineEnd c = false) ∧
          (handleLines handle data s).1 = (handleAll handle done s).1 ∧
          (handleLines handle data s).2.2 = (handleAll handle done s).2 ∧
          ((handleAll handle done s).1 = true → (handleLines handle data s).2.1 = part) := by
      rintro part rfl hpart
      refine ⟨[], line :: lines, data, rfl, rfl, h, hpart, ?_⟩
      rw [handleLines_of_noEnd hpart]
      exact ⟨rfl, rfl, fun _ => rfl⟩
    rw [joinLines_cons] at h
    obtain ⟨a, hline', _⟩ | ⟨a, hdata, ha⟩ := List.append_eq_append_iff.mp h
    · -- The end of the line is still to come.
      refine hincomplete data rfl fun c hc => hline.noEnd c ?_
      rw [hline']
      exact List.mem_append_left _ hc
    · cases a with
      | nil =>
        rw [List.append_nil] at hdata
        exact hincomplete data rfl (hdata ▸ hline.noEnd)
      | cons c data' =>
        obtain ⟨rfl, hstream⟩ : 10 = c ∧ joinLines lines = data' ++ future := by simpa using ha
        have hcut : cutLine data = some (line, data') := by
          rw [hdata]
          refine cutLine_line hline.noEnd fun c hc => ?_
          refine IsLine.head_joinLines hrest (c := c) ?_
          rw [hstream, List.head?_append, hc]
          rfl
        cases hhandle : handle line s with
        | mk ok s' =>
          obtain ⟨done, todo, part, hsplit, hdone, hpart, hnoEnd, hres⟩ := ih hrest hstream.symm s'
          refine ⟨line :: done, todo, part, by rw [hsplit]; rfl, ?_, hpart, hnoEnd, ?_⟩
          · rw [hdata, hdone]
            simp
          · rw [handleLines, hcut]
            simp only [handleAll, hhandle]
            cases ok with
            | false => exact ⟨rfl, rfl, (fun h => by cases h)⟩
            | true => exact hres

end

end Text
