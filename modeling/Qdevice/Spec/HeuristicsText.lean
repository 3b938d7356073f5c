import Qdevice.Native.HeuristicsWorker

/-! # The text of heuristics commands

What the main process puts into its send list for a command, and what the worker makes of a line
with it.  `HeuristicsCmd.text` is the line without its end. -/

namespace Qdevice

/-! ### Filling buffers -/

/-- A buffer is copied into as a whole. -/
theorem dynarStrCpy_some {str : List UInt8} {dest dest' : Dynar}
    (h : dynarStrCpy str dest = (some (), dest')) :
    dest' = { dest with data := str } ∧ dynarSize dest' ≤ dynarMaxSize dest' := by
  simp only [dynarStrCpy] at h
  split at h
  · cases h
  · obtain ⟨rfl, hle⟩ := DynarM.Appends.cat str _ _ h
    exact ⟨rfl, hle (Nat.zero_le _)⟩

/-- The first step of a sequence that succeeds. -/
theorem DynarM.bind_some {α β : Type} {m : DynarM α} {f : α → DynarM β} {array array' : Dynar}
    {b : β} (h : (m >>= f) array = (some b, array')) :
    ∃ a array₁, m array = (some a, array₁) ∧ f a array₁ = (some b, array') := by
  simp only [bind] at h
  split at h
  · cases h
  · next a array₁ hm => exact ⟨a, array₁, hm, h⟩

/-- Line ends become spaces. -/
def heuristicsFlatten (bytes : List UInt8) : List UInt8 :=
  bytes.map fun c => if Text.isLineEnd c then 32 else c

theorem heuristicsFlatten_noEnd (bytes : List UInt8) :
    ∀ c ∈ heuristicsFlatten bytes, Text.isLineEnd c = false := by
  intro c hc
  obtain ⟨d, _, rfl⟩ := List.mem_map.mp hc
  split
  · rfl
  · next hd => simpa using hd

theorem heuristicsFlatten_of_noEnd {bytes : List UInt8}
    (h : ∀ c ∈ bytes, Text.isLineEnd c = false) : heuristicsFlatten bytes = bytes := by
  refine (List.map_congr_left fun c hc => ?_).trans (List.map_id bytes)
  rw [h c hc]
  rfl

@[simp] theorem heuristicsFlatten_append (bytes bytes' : List UInt8) :
    heuristicsFlatten (bytes ++ bytes') = heuristicsFlatten bytes ++ heuristicsFlatten bytes' :=
  List.map_append

/-- The line of a command. -/
def HeuristicsCmd.text : HeuristicsCmd → List UInt8
  | .execListClear => heuristicsCmdStrExecListClear
  | .execListAdd entry =>
    addSpace heuristicsCmdStrExecListAdd ++ (heuristicsFlatten entry.name ++ [32] ++
      heuristicsFlatten entry.command)
  | .exec _ timeout seqNumber =>
    addSpace heuristicsCmdStrExec ++ (Text.decimal timeout.toNat ++ [32] ++
      Text.decimal seqNumber.toNat)

/-- Filling a buffer leaves the line of this command in it. -/
def HeuristicsCmd.FilledBy (cmd : HeuristicsCmd) (fill : DynarM Unit) : Prop :=
  ∀ dest dest', fill dest = (some (), dest') →
    dest' = { dest with data := cmd.text ++ [10] } ∧ cmd.text.length + 1 ≤ dest.maximumSize

private theorem line_length_le {text : List UInt8} {maximumSize : Nat}
    (h : dynarSize ⟨text ++ [10], maximumSize⟩ ≤ dynarMaxSize ⟨text ++ [10], maximumSize⟩) :
    text.length + 1 ≤ maximumSize := by
  simpa [dynarSize, dynarMaxSize] using h

theorem heuristicsCmdExecListClear_filled :
    HeuristicsCmd.execListClear.FilledBy heuristicsCmdExecListClear := by
  intro dest dest' h
  obtain ⟨_, dest₁, hcpy, hcat⟩ := DynarM.bind_some h
  obtain ⟨rfl, hle⟩ := dynarStrCpy_some hcpy
  obtain ⟨rfl, hle'⟩ := DynarM.Appends.cat _ _ _ hcat
  exact ⟨rfl, line_length_le (hle' hle)⟩

theorem heuristicsCmdExecListAdd_filled (entry : HeuristicsExecListEntry) :
    (HeuristicsCmd.execListAdd entry).FilledBy (heuristicsCmdExecListAdd entry) := by
  intro dest dest' h
  obtain ⟨_, dest₁, hcpy, h⟩ := DynarM.bind_some h
  obtain ⟨rfl, hle₁⟩ := dynarStrCpy_some hcpy
  obtain ⟨_, dest₂, hname, h⟩ := DynarM.bind_some h
  obtain ⟨rfl, hle₂⟩ := DynarM.Appends.cat _ _ _ hname
  obtain ⟨_, dest₃, hspace, h⟩ := DynarM.bind_some h
  obtain ⟨rfl, hle₃⟩ := DynarM.Appends.cat _ _ _ hspace
  obtain ⟨_, dest₄, hcommand, h⟩ := DynarM.bind_some h
  obtain ⟨rfl, hle₄⟩ := DynarM.Appends.cat _ _ _ hcommand
  obtain ⟨_, dest₅, hflat, h⟩ := DynarM.bind_some h
  obtain rfl := congrArg Prod.snd hflat
  obtain ⟨rfl, hle₅⟩ := DynarM.Appends.cat _ _ _ h
  have hword : heuristicsFlatten (addSpace heuristicsCmdStrExecListAdd) =
      addSpace heuristicsCmdStrExecListAdd := by decide
  have htext : heuristicsFlatten (addSpace heuristicsCmdStrExecListAdd ++ entry.name ++ [32] ++
      entry.command) = (HeuristicsCmd.execListAdd entry).text := by
    simp only [heuristicsFlatten_append, hword, HeuristicsCmd.text, List.append_assoc]
    rfl
  have hle := hle₅ (by
    have hle := hle₄ (hle₃ (hle₂ hle₁))
    simpa [dynarSize, dynarMaxSize, heuristicsCmdRemoveNewlines] using hle)
  refine ⟨?_, line_length_le ?_⟩
  · rw [← htext]
    rfl
  · rw [← htext]
    exact hle

theorem heuristicsCmdExec_filled (issue : Nat) (timeout seqNumber : UInt32) :
    (HeuristicsCmd.exec issue timeout seqNumber).FilledBy (heuristicsCmdExec timeout seqNumber) := by
  intro dest dest' h
  obtain ⟨_, dest₁, hcpy, hcat⟩ := DynarM.bind_some h
  obtain ⟨rfl, hle⟩ := dynarStrCpy_some hcpy
  obtain ⟨rfl, hle'⟩ := DynarM.Appends.catf _ _ _ hcat
  have htext : addSpace heuristicsCmdStrExec ++ (Text.decimal timeout.toNat ++ [32] ++
      Text.decimal seqNumber.toNat ++ [10]) =
      (HeuristicsCmd.exec issue timeout seqNumber).text ++ [10] := by
    simp [HeuristicsCmd.text]
  have hle := hle' hle
  rw [htext] at hle ⊢
  exact ⟨rfl, line_length_le hle⟩

/-- A result line, without its end. -/
def heuristicsResultText (seqNumber : UInt32) (execResult : HeuristicsExecResult) : List UInt8 :=
  addSpace heuristicsCmdStrExecResult ++ (Text.decimal seqNumber.toNat ++ [32] ++
    Text.decimal execResult.number.toNat)

theorem heuristicsWorkerCmdExecResult_some {seqNumber : UInt32}
    {execResult : HeuristicsExecResult} {dest dest' : Dynar}
    (h : heuristicsWorkerCmdExecResult seqNumber execResult dest = (some (), dest')) :
    dest' = { dest with data := heuristicsResultText seqNumber execResult ++ [10] } := by
  obtain ⟨_, dest₁, hcpy, hcat⟩ := DynarM.bind_some h
  obtain ⟨rfl, _⟩ := dynarStrCpy_some hcpy
  obtain ⟨rfl, _⟩ := DynarM.Appends.catf _ _ _ hcat
  simp [heuristicsResultText]

/-! ### The send list -/

/-- The main process after some commands were put into its send list. -/
structure Queued (cmds : List HeuristicsCmd) (main main' : HeuristicsInstance) : Prop where
  list : main'.cmdOutBufferList.list = main.cmdOutBufferList.list ++ cmds.map fun cmd =>
    { buffer := ⟨cmd.text ++ [10], main.cmdOutBufferList.maxBufferSize⟩ }
  maxSize : main'.cmdOutBufferList.maxBufferSize = main.cmdOutBufferList.maxBufferSize
  fits : ∀ cmd ∈ cmds, cmd.text.length + 1 ≤ main.cmdOutBufferList.maxBufferSize
  sent : main'.sent = main.sent ++ cmds
  inBuffer : main'.cmdInBuffer = main.cmdInBuffer
  lines : main'.lines = main.lines
  execList : main'.execList = main.execList
  issued : main'.issued = main.issued
  waiting : main'.waitingForResult = main.waitingForResult
  expected : main'.expectedReplySeqNumber = main.expectedReplySeqNumber
  notifications : main'.notifications = main.notifications

/-- Some commands, and then some more. -/
theorem Queued.append {cmds cmds' : List HeuristicsCmd} {main main₁ main' : HeuristicsInstance}
    (h : Queued cmds main main₁) (h' : Queued cmds' main₁ main') :
    Queued (cmds ++ cmds') main main' where
  list := by rw [h'.list, h.list, h.maxSize, List.map_append, List.append_assoc]
  maxSize := h'.maxSize.trans h.maxSize
  fits cmd hcmd := by
    obtain hcmd | hcmd := List.mem_append.mp hcmd
    · exact h.fits cmd hcmd
    · rw [← h.maxSize]
      exact h'.fits cmd hcmd
  sent := by rw [h'.sent, h.sent, List.append_assoc]
  inBuffer := h'.inBuffer.trans h.inBuffer
  lines := h'.lines.trans h.lines
  execList := h'.execList.trans h.execList
  issued := h'.issued.trans h.issued
  waiting := h'.waiting.trans h.waiting
  expected := h'.expected.trans h.expected
  notifications := h'.notifications.trans h.notifications

/-- What still has to be written is longer by the lines of the commands. -/
theorem Queued.pending {cmds : List HeuristicsCmd} {main main' : HeuristicsInstance}
    (h : Queued cmds main main') : main'.cmdOutBufferList.pending =
      main.cmdOutBufferList.pending ++ Text.joinLines (cmds.map HeuristicsCmd.text) := by
  simp only [SendBufferList.pending, h.list, List.flatMap_append, Text.joinLines, List.flatMap_map,
    List.drop_zero]

theorem heuristicsCmdQueue_true {cmd : HeuristicsCmd} {fill : DynarM Unit}
    {main main' : HeuristicsInstance} (hfill : cmd.FilledBy fill)
    (h : heuristicsCmdQueue cmd fill main = (true, main')) : Queued [cmd] main main' := by
  rw [heuristicsCmdQueue] at h
  cases happend : sendBufferListAppend fill main.cmdOutBufferList with
  | mk ok sblist =>
    rw [happend] at h
    simp only [Prod.mk.injEq] at h
    obtain ⟨rfl, rfl⟩ := h
    obtain ⟨buffer, hbuffer, hlist, hmax⟩ := sendBufferListAppend_true happend
    obtain ⟨rfl, hle⟩ := hfill _ _ hbuffer
    refine ⟨hlist, hmax, fun c hc => ?_, rfl, rfl, rfl, rfl, rfl, rfl, rfl, rfl⟩
    rw [List.mem_singleton.mp hc]
    exact hle

theorem heuristicsCmdQueue_false {cmd : HeuristicsCmd} {fill : DynarM Unit}
    {main main' : HeuristicsInstance}
    (h : heuristicsCmdQueue cmd fill main = (false, main')) : Queued [] main main' := by
  rw [heuristicsCmdQueue] at h
  cases happend : sendBufferListAppend fill main.cmdOutBufferList with
  | mk ok sblist =>
    rw [happend] at h
    simp only [Prod.mk.injEq] at h
    obtain ⟨rfl, rfl⟩ := h
    obtain ⟨hlist, hmax⟩ := sendBufferListAppend_false happend
    refine ⟨?_, hmax, fun _ hno => absurd hno List.not_mem_nil, ?_, rfl, rfl, rfl, rfl, rfl, rfl, rfl⟩
    · rw [List.map_nil, List.append_nil]
      exact hlist
    · exact (List.append_nil _).symm

/-- The whole exec list is sent, behind the command that clears the old one. -/
theorem heuristicsCmdWriteExecList_true {newExecList : Option HeuristicsExecList}
    {main main' : HeuristicsInstance}
    (h : heuristicsCmdWriteExecList newExecList main = (true, main')) :
    Queued (.execListClear :: (newExecList.getD []).map .execListAdd) main main' := by
  have hentries : ∀ (entries : HeuristicsExecList) (main main' : HeuristicsInstance),
      heuristicsCmdWriteEntries entries main = (true, main') →
      Queued (entries.map .execListAdd) main main' := by
    intro entries
    induction entries with
    | nil =>
      intro main main' h
      obtain rfl : main = main' := congrArg Prod.snd h
      exact ⟨by simp, rfl, by simp, by simp, rfl, rfl, rfl, rfl, rfl, rfl, rfl⟩
    | cons entry entries ih =>
      intro main main' h
      rw [heuristicsCmdWriteEntries] at h
      split at h
      · cases h
      · next main₁ hqueue =>
        exact (heuristicsCmdQueue_true (heuristicsCmdExecListAdd_filled entry) hqueue).append
          (ih main₁ main' h)
  rw [heuristicsCmdWriteExecList] at h
  split at h
  · cases h
  · next main₁ hqueue =>
    have hclear := heuristicsCmdQueue_true heuristicsCmdExecListClear_filled hqueue
    cases newExecList with
    | none =>
      obtain rfl := congrArg Prod.snd h
      exact hclear
    | some entries => exact hclear.append (hentries entries main₁ main' h)

/-! ### Lines -/

/-- A name and a command as C strings, of which the name can stand between spaces on a line. -/
structure HeuristicsExecListEntry.Valid (entry : HeuristicsExecListEntry) : Prop where
  name_ne_nil : entry.name ≠ []
  name : ∀ c ∈ entry.name, c ≠ 0 ∧ c ≠ 32 ∧ Text.isLineEnd c = false
  command : ∀ c ∈ entry.command, c ≠ 0

/-- The entry of an `exec-list-add` command is valid. -/
def HeuristicsCmd.Valid : HeuristicsCmd → Prop
  | .execListAdd entry => entry.Valid
  | _ => True

private theorem isDigit_plain {c : UInt8} (h : Text.isDigit c = true) :
    c ≠ 0 ∧ Text.isLineEnd c = false := by
  simp only [Text.isDigit, Bool.and_eq_true, decide_eq_true_eq] at h
  have hother : ∀ d : UInt8, d < 48 → c ≠ d := by
    rintro d hd rfl
    exact absurd h.1 (UInt8.not_le.mpr hd)
  simp [Text.isLineEnd, hother 0 (by decide), hother 10 (by decide), hother 13 (by decide)]

private theorem mem_two_numbers {m n : Nat} {c : UInt8}
    (hc : c ∈ Text.decimal m ++ [32] ++ Text.decimal n) : c ≠ 0 ∧ Text.isLineEnd c = false := by
  simp only [List.append_assoc, List.mem_append, List.mem_singleton] at hc
  obtain hc | rfl | hc := hc
  · exact isDigit_plain (Text.isDigit_of_mem_decimal hc)
  · decide
  · exact isDigit_plain (Text.isDigit_of_mem_decimal hc)

/-- The bytes of a command's line: no NUL, and no line end. -/
theorem HeuristicsCmd.Valid.mem_text {cmd : HeuristicsCmd} (h : cmd.Valid) {c : UInt8}
    (hc : c ∈ cmd.text) : c ≠ 0 ∧ Text.isLineEnd c = false := by
  have hplain : ∀ word : List UInt8, (∀ c ∈ word, c ≠ 0 ∧ Text.isLineEnd c = false) →
      ∀ rest : List UInt8, (∀ c ∈ rest, c ≠ 0 ∧ Text.isLineEnd c = false) →
      c ∈ word ++ rest → c ≠ 0 ∧ Text.isLineEnd c = false := by
    intro word hword rest hrest hc
    obtain hc | hc := List.mem_append.mp hc
    · exact hword c hc
    · exact hrest c hc
  cases cmd with
  | execListClear => exact (List.forall_iff_forall_mem.mp (by decide) :
      ∀ c ∈ heuristicsCmdStrExecListClear, c ≠ 0 ∧ Text.isLineEnd c = false) c hc
  | execListAdd entry =>
    have hflat : ∀ bytes : List UInt8, (∀ c ∈ bytes, c ≠ 0) → ∀ c ∈ heuristicsFlatten bytes,
        c ≠ 0 ∧ Text.isLineEnd c = false := by
      intro bytes hbytes c hc
      refine ⟨?_, heuristicsFlatten_noEnd bytes c hc⟩
      obtain ⟨d, hd, rfl⟩ := List.mem_map.mp hc
      split
      · decide
      · exact hbytes d hd
    refine hplain _ (List.forall_iff_forall_mem.mp (by decide)) _ (fun c hc => ?_) hc
    simp only [List.append_assoc, List.mem_append, List.mem_singleton] at hc
    obtain hc | rfl | hc := hc
    · exact hflat _ (fun c hc => (h.name c hc).1) c hc
    · decide
    · exact hflat _ h.command c hc
  | exec issue timeout seqNumber =>
    exact hplain _ (List.forall_iff_forall_mem.mp (by decide)) _ (fun _ => mem_two_numbers) hc

theorem HeuristicsCmd.Valid.isLine {cmd : HeuristicsCmd} (h : cmd.Valid) :
    Text.IsLine cmd.text where
  noEnd _ hc := (h.mem_text hc).2
  start := by
    cases cmd with
    | execListClear => exact ⟨101, rfl, by decide⟩
    | execListAdd entry => exact ⟨101, rfl, by decide⟩
    | exec issue timeout seqNumber => exact ⟨101, rfl, by decide⟩

/-- A result line has no NUL. -/
theorem heuristicsResultText_noNul (seqNumber : UInt32) (execResult : HeuristicsExecResult) :
    0 ∉ heuristicsResultText seqNumber execResult := by
  intro hc
  obtain hc | hc := List.mem_append.mp hc
  · exact absurd hc (by decide)
  · exact (mem_two_numbers hc).1 rfl

theorem heuristicsResultText_isLine (seqNumber : UInt32) (execResult : HeuristicsExecResult) :
    Text.IsLine (heuristicsResultText seqNumber execResult) where
  noEnd c hc := by
    obtain hc | hc := List.mem_append.mp hc
    · exact (List.forall_iff_forall_mem.mp (by decide) :
        ∀ c ∈ addSpace heuristicsCmdStrExecResult, Text.isLineEnd c = false) c hc
    · exact (mem_two_numbers hc).2
  start := ⟨101, rfl, by decide⟩

/-! ### Two numbers -/

/-- Two numbers behind a word are read back. -/
theorem scanTwoNumbers_text (word : List UInt8) (first second : UInt32) :
    scanTwoNumbers word
      (word ++ (Text.decimal first.toNat ++ [32] ++ Text.decimal second.toNat)) =
      some (first, second) := by
  have hword : word.isPrefixOf
      (word ++ (Text.decimal first.toNat ++ [32] ++ Text.decimal second.toNat)) = true :=
    List.isPrefixOf_iff_prefix.mpr (List.prefix_append _ _)
  have hsecond : Text.scanUInt32 (32 :: Text.decimal second.toNat) = some (second, []) := by
    have hskip : Text.scanUInt32 (32 :: Text.decimal second.toNat) =
        Text.scanUInt32 (Text.decimal second.toNat ++ []) := by
      rw [List.append_nil]
      rfl
    rw [hskip, Text.scanUInt32_decimal second (by simp)]
  have hfirst : Text.scanUInt32 (Text.decimal first.toNat ++ [32] ++ Text.decimal second.toNat) =
      some (first, 32 :: Text.decimal second.toNat) := by
    rw [List.append_assoc]
    refine Text.scanUInt32_decimal first fun c hc => ?_
    obtain rfl : 32 = c := Option.some.inj hc
    rfl
  rw [scanTwoNumbers, hword, if_pos rfl, List.drop_left, hfirst]
  dsimp only
  rw [hsecond]
  rfl

/-! ### What the worker makes of a line -/

/-- The command as it arrives: line ends are spaces, and leading spaces are dropped. -/
def heuristicsReceived (command : List UInt8) : List UInt8 :=
  (heuristicsFlatten command).dropWhile (· == 32)

/-- Something is left of the command. -/
theorem heuristicsReceived_ne_nil {command : List UInt8} :
    heuristicsReceived command ≠ [] ↔ ∃ c ∈ command, c ≠ 32 ∧ Text.isLineEnd c = false := by
  simp only [heuristicsReceived, heuristicsFlatten, ne_eq, List.dropWhile_eq_nil_iff, List.mem_map,
    forall_exists_index, and_imp, forall_apply_eq_imp_iff₂, beq_iff_eq, not_forall, exists_prop]
  refine exists_congr fun c => and_congr_right fun _ => ?_
  cases hend : Text.isLineEnd c with
  | false => simp
  | true => simp

/-- The worker's exec list entry for one of the main process. -/
def HeuristicsExecListEntry.received (entry : HeuristicsExecListEntry) : HeuristicsExecListEntry :=
  ⟨entry.name, heuristicsReceived entry.command⟩

/-- `exec-list-add` finds name and command. -/
theorem heuristicsWorkerCmdProcessExecListAdd_text {entry : HeuristicsExecListEntry}
    (h : entry.Valid) (inst : HeuristicsWorker) :
    heuristicsWorkerCmdProcessExecListAdd (HeuristicsCmd.execListAdd entry).text inst =
      if heuristicsReceived entry.command = [] then (false, inst)
      else (true, { inst with execList := inst.execList ++ [entry.received] }) := by
  obtain ⟨c, name, hname⟩ := List.exists_cons_of_ne_nil h.name_ne_nil
  have hflat : heuristicsFlatten entry.name = entry.name :=
    heuristicsFlatten_of_noEnd fun c hc => (h.name c hc).2.2
  have htext : (HeuristicsCmd.execListAdd entry).text = heuristicsCmdStrExecListAdd ++
      32 :: (entry.name ++ 32 :: heuristicsFlatten entry.command) := by
    simp [HeuristicsCmd.text, addSpace, hflat]
  have hword := (Text.takeWhile_append_of_all (· != 32) heuristicsCmdStrExecListAdd
    (32 :: (entry.name ++ 32 :: heuristicsFlatten entry.command))
    (List.forall_iff_forall_mem.mp (by decide))
    (fun c hc => by obtain rfl : 32 = c := Option.some.inj hc; rfl)).2
  have hspaces := (Text.takeWhile_append_of_all (· == 32) [32]
    (entry.name ++ 32 :: heuristicsFlatten entry.command)
    (List.forall_iff_forall_mem.mp (by decide)) (fun d hd => by
      rw [hname] at hd
      obtain rfl : c = d := Option.some.inj hd
      simpa using (h.name c (hname ▸ List.mem_cons_self)).2.1)).2
  obtain ⟨htake, hdrop⟩ := Text.takeWhile_append_of_all (· != 32) entry.name
    (32 :: heuristicsFlatten entry.command) (fun c hc => by simpa using (h.name c hc).2.1)
    (fun c hc => by obtain rfl : 32 = c := Option.some.inj hc; rfl)
  have hname' : entry.name ++ 32 :: heuristicsFlatten entry.command ≠ [] := by simp
  rw [List.singleton_append] at hspaces
  rw [heuristicsWorkerCmdProcessExecListAdd, htext]
  simp only [hword, hspaces, hdrop, htake, hname', false_or]
  rfl

/-- What the worker does with the line of a command. -/
theorem heuristicsWorkerCmdProcess_text (env : HeuristicsWorkerEnv) {cmd : HeuristicsCmd}
    (h : cmd.Valid) (inst : HeuristicsWorker) :
    heuristicsWorkerCmdProcess env (cString cmd.text) inst =
      match cmd with
      | .execListClear => (true, { inst with execList := [] })
      | .execListAdd _ => heuristicsWorkerCmdProcessExecListAdd cmd.text inst
      | .exec _ _ _ => heuristicsWorkerCmdProcessExec env cmd.text inst := by
  rw [cString_eq fun hc => (h.mem_text hc).1 rfl, heuristicsWorkerCmdProcess]
  cases cmd with
  | execListClear => rfl
  | execListAdd entry =>
    have hne : (HeuristicsCmd.execListAdd entry).text ≠ heuristicsCmdStrExecListClear := by
      intro heq
      have hchar : some (97 : UInt8) = some 99 := congrArg (fun l : List UInt8 => l[10]?) heq
      exact absurd hchar (by decide)
    have hword : heuristicsCmdStrExecListAdd.isPrefixOf (HeuristicsCmd.execListAdd entry).text =
        true := by
      rw [HeuristicsCmd.text, addSpace, List.append_assoc]
      exact List.isPrefixOf_iff_prefix.mpr (List.prefix_append _ _)
    rw [if_neg hne, if_pos hword]
  | exec issue timeout seqNumber =>
    have hne : (HeuristicsCmd.exec issue timeout seqNumber).text ≠
        heuristicsCmdStrExecListClear := by
      intro heq
      have hchar : some (32 : UInt8) = some 45 := congrArg (fun l : List UInt8 => l[4]?) heq
      exact absurd hchar (by decide)
    have hadd : heuristicsCmdStrExecListAdd.isPrefixOf
        (HeuristicsCmd.exec issue timeout seqNumber).text = false := rfl
    have hword : (addSpace heuristicsCmdStrExec).isPrefixOf
        (HeuristicsCmd.exec issue timeout seqNumber).text = true :=
      List.isPrefixOf_iff_prefix.mpr (List.prefix_append _ _)
    rw [if_neg hne, hadd, if_neg Bool.false_ne_true, if_pos hword]

/-! ### Reading a stream of lines -/

/-- A stream of lines has no line ends but its line feeds. -/
theorem eq_lineFeed_of_mem_joinLines {lines : List (List UInt8)}
    (hlines : ∀ line ∈ lines, Text.IsLine line) {c : UInt8} (hc : c ∈ Text.joinLines lines)
    (hend : Text.isLineEnd c = true) : c = 10 := by
  obtain ⟨line, hline, hc⟩ := List.mem_flatMap.mp hc
  obtain hc | hc := List.mem_append.mp hc
  · rw [(hlines line hline).noEnd c hc] at hend
    cases hend
  · exact List.mem_singleton.mp hc

/-- A piece that is read from a stream of lines completes some of them. -/
theorem heuristicsReadLines_stream {σ : Type} (processLine : List UInt8 → σ → Bool × σ)
    {lines : List (List UInt8)} (hlines : ∀ line ∈ lines, Text.IsLine line) {buffer : Dynar}
    {bytes future : List UInt8} (h : buffer.data ++ bytes ++ future = Text.joinLines lines)
    (hnoEnd : ∀ c ∈ buffer.data, Text.isLineEnd c = false)
    (hfit : buffer.data.length + bytes.length ≤ buffer.maximumSize) (s : σ) :
    ∃ done todo part, lines = done ++ todo ∧ part ++ future = Text.joinLines todo ∧
      (∀ c ∈ part, Text.isLineEnd c = false) ∧
      (heuristicsReadLines processLine (.data bytes) buffer s).1 =
        (Text.handleAll processLine done s).1 ∧
      (heuristicsReadLines processLine (.data bytes) buffer s).2.2 =
        (Text.handleAll processLine done s).2 ∧
      ((Text.handleAll processLine done s).1 = true →
        (heuristicsReadLines processLine (.data bytes) buffer s).2.1 =
          { buffer with data := part }) := by
  have hcat : dynarCat bytes buffer = (some (), { buffer with data := buffer.data ++ bytes }) :=
    if_neg (Nat.not_lt.mpr hfit)
  by_cases hline : bytes.contains 10 = true
  · obtain ⟨done, todo, part, hsplit, _, hpart, hend, hok, hs, hdata⟩ :=
      Text.handleLines_stream processLine hlines h s
    refine ⟨done, todo, part, hsplit, hpart, hend, ?_⟩
    simp only [heuristicsReadLines, heuristicsIoRead, hcat, hline, ↓reduceIte]
    exact ⟨hok, hs, fun htrue => by rw [hdata htrue]⟩
  · refine ⟨[], lines, buffer.data ++ bytes, rfl, h, fun c hc => ?_, ?_⟩
    · -- No line feed was read, and other line ends are not in the stream.
      obtain hc | hc := List.mem_append.mp hc
      · exact hnoEnd c hc
      · cases hend : Text.isLineEnd c with
        | false => rfl
        | true =>
          have hmem : c ∈ Text.joinLines lines := by
            rw [← h]
            exact List.mem_append_left _ (List.mem_append_right _ hc)
          obtain rfl := eq_lineFeed_of_mem_joinLines hlines hmem hend
          exact absurd (List.contains_iff_mem.mpr hc) hline
    · simp only [heuristicsReadLines, heuristicsIoRead, hcat, hline, Bool.false_eq_true, ↓reduceIte]
      exact ⟨rfl, rfl, fun _ => trivial⟩

/-- A piece that does not fit is an error. -/
theorem heuristicsReadLines_too_long {σ : Type} {processLine : List UInt8 → σ → Bool × σ}
    {buffer : Dynar} {bytes : List UInt8}
    (h : buffer.maximumSize < buffer.data.length + bytes.length) (s : σ) :
    heuristicsReadLines processLine (.data bytes) buffer s = (false, buffer, s) := by
  have hcat : dynarCat bytes buffer = (none, buffer) := if_pos h
  simp only [heuristicsReadLines, heuristicsIoRead, hcat]

end Qdevice
