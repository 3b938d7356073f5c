import Qdevice.ForStd.List
import Qdevice.ForStd.Runs
import Qdevice.Spec.HeuristicsText

/-! # The heuristics command pipe

An exec list and exec commands go through the pipe to the worker, which reads up to 256 bytes at
a time into a buffer that is as large as the send buffers are.  The bytes of a line that is still
incomplete stay in the buffer, so that a line near the limit leaves no room for what is read
together with its end. -/

namespace Qdevice

/-! ### What commands come to -/

/-- The worker's exec list after a command. -/
def HeuristicsCmd.applyTo (execList : HeuristicsExecList) : HeuristicsCmd → HeuristicsExecList
  | .execListClear => []
  | .execListAdd entry => execList ++ [entry.received]
  | .exec _ _ _ => execList

/-- The timeout and the sequence number of an exec command. -/
def HeuristicsCmd.exec? : HeuristicsCmd → Option (UInt32 × UInt32)
  | .exec _ timeout seqNumber => some (timeout, seqNumber)
  | _ => none

/-- The worker takes the command: there is something left of what is to be executed. -/
def HeuristicsCmd.Good : HeuristicsCmd → Prop
  | .execListAdd entry => heuristicsReceived entry.command ≠ []
  | _ => True

/-- A worker after some commands. -/
structure Delivered (cmds : List HeuristicsCmd) (w w' : HeuristicsWorker) : Prop where
  execList : w'.execList = cmds.foldl HeuristicsCmd.applyTo w.execList
  execs : w'.execs = w.execs ++ cmds.filterMap HeuristicsCmd.exec?
  inBuffer : w'.cmdInBuffer = w.cmdInBuffer
  outSize : w'.cmdOutBuffer.maximumSize = w.cmdOutBuffer.maximumSize

/-- Another way to leave the lists and buffers alone. -/
structure KeepsLists (w w' : HeuristicsWorker) : Prop where
  execList : w'.execList = w.execList
  execs : w'.execs = w.execs
  inBuffer : w'.cmdInBuffer = w.cmdInBuffer
  outSize : w'.cmdOutBuffer.maximumSize = w.cmdOutBuffer.maximumSize

private theorem decimal_uint32_length (n : UInt32) : (Text.decimal n.toNat).length ≤ 10 :=
  Text.length_decimal_le (by decide) (Nat.lt_trans n.toNat_lt (by decide))

/-- A result always fits. -/
theorem heuristicsWorkerCmdWriteExecResult_ok (seqNumber : UInt32)
    (execResult : HeuristicsExecResult) {w : HeuristicsWorker}
    (hsize : 1024 ≤ w.cmdOutBuffer.maximumSize) :
    ∃ w', heuristicsWorkerCmdWriteExecResult seqNumber execResult w = (true, w') ∧
      KeepsLists w w' := by
  have hseq := decimal_uint32_length seqNumber
  have hnumber := decimal_uint32_length execResult.number
  have hcpy : dynarStrCpy (addSpace heuristicsCmdStrExecResult) w.cmdOutBuffer =
      (some (), { w.cmdOutBuffer with data := addSpace heuristicsCmdStrExecResult }) := by
    have hword : (addSpace heuristicsCmdStrExecResult).length = 12 := rfl
    simp only [dynarStrCpy, dynarMaxSize, hword, dynarStrCat, dynarCat, dynarClean, dynarSize]
    rw [if_neg (by omega), if_neg (by simp only [List.length_nil]; omega)]
    rfl
  have hfill : heuristicsWorkerCmdExecResult seqNumber execResult w.cmdOutBuffer =
      (some (), { w.cmdOutBuffer with
        data := heuristicsResultText seqNumber execResult ++ [10] }) := by
    have hword : (addSpace heuristicsCmdStrExecResult).length = 12 := rfl
    simp only [heuristicsWorkerCmdExecResult, bind, hcpy, dynarStrCatf, dynarSize, dynarMaxSize,
      List.length_append, List.length_singleton, hword]
    rw [if_neg (by omega), if_neg (by omega)]
    simp [heuristicsResultText]
  refine ⟨_, by rw [heuristicsWorkerCmdWriteExecResult, hfill], ?_⟩
  exact ⟨rfl, rfl, rfl, rfl⟩

/-- Commands are started, or this is reported as a failure. -/
theorem heuristicsWorkerStartRun_ok (env : HeuristicsWorkerEnv) {w : HeuristicsWorker}
    (hsize : 1024 ≤ w.cmdOutBuffer.maximumSize) :
    ∃ w', heuristicsWorkerStartRun env w = (true, w') ∧ KeepsLists w w' := by
  have hfail : ∀ plist : ProcessList, ∃ w', heuristicsWorkerCmdWriteExecResult
      w.lastExecSeqNumber .fail
        (heuristicsWorkerMoveToKillList { w with mainProcessList := plist }) = (true, w') ∧
      KeepsLists w w' := by
    intro plist
    obtain ⟨w', hwrite, hkeep⟩ := heuristicsWorkerCmdWriteExecResult_ok w.lastExecSeqNumber .fail
      (w := heuristicsWorkerMoveToKillList { w with mainProcessList := plist }) hsize
    exact ⟨w', hwrite, hkeep.execList, hkeep.execs, hkeep.inBuffer, hkeep.outSize⟩
  rw [heuristicsWorkerStartRun]
  split
  · exact hfail _
  · split
    · exact hfail _
    · split
      · exact ⟨_, rfl, rfl, rfl, rfl, rfl⟩
      · exact hfail _

/-- An exec command is always answered or leads to a run. -/
theorem heuristicsWorkerCmdProcessExec_ok (env : HeuristicsWorkerEnv) (issue : Nat)
    (timeout seqNumber : UInt32) {w : HeuristicsWorker}
    (hsize : 1024 ≤ w.cmdOutBuffer.maximumSize) :
    ∃ w', heuristicsWorkerCmdProcessExec env (HeuristicsCmd.exec issue timeout seqNumber).text w =
        (true, w') ∧
      w'.execList = w.execList ∧ w'.execs = w.execs ++ [(timeout, seqNumber)] ∧
      w'.cmdInBuffer = w.cmdInBuffer ∧
      w'.cmdOutBuffer.maximumSize = w.cmdOutBuffer.maximumSize := by
  have hscan := scanTwoNumbers_text (addSpace heuristicsCmdStrExec) timeout seqNumber
  -- The run before is killed, but this leaves the lists alone.
  obtain ⟨w₁, hw₁, hkeep₁⟩ : ∃ w₁ : HeuristicsWorker, (if w.execTimeoutTimer then
      { heuristicsWorkerMoveToKillList w with execTimeoutTimer := false } else w) = w₁ ∧
      KeepsLists w w₁ := by
    refine ⟨_, rfl, ?_⟩
    split
    · exact ⟨rfl, rfl, rfl, rfl⟩
    · exact ⟨rfl, rfl, rfl, rfl⟩
  have hsize₁ : 1024 ≤ w₁.cmdOutBuffer.maximumSize := by rw [hkeep₁.outSize]; exact hsize
  suffices hrun : ∃ w', heuristicsWorkerCmdProcessExec env
      (HeuristicsCmd.exec issue timeout seqNumber).text w = (true, w') ∧ KeepsLists { w₁ with
        lastExecSeqNumber := seqNumber, run := w₁.lines
        execs := w₁.execs ++ [(timeout, seqNumber)] } w' by
    obtain ⟨w', hprocess, hkeep⟩ := hrun
    refine ⟨w', hprocess, hkeep.execList.trans hkeep₁.execList, ?_,
      hkeep.inBuffer.trans hkeep₁.inBuffer, hkeep.outSize.trans hkeep₁.outSize⟩
    rw [hkeep.execs, hkeep₁.execs]
  have htext : (HeuristicsCmd.exec issue timeout seqNumber).text = addSpace heuristicsCmdStrExec ++
    (Text.decimal timeout.toNat ++ [32] ++ Text.decimal seqNumber.toNat) := rfl
  simp only [heuristicsWorkerCmdProcessExec, htext, hscan, hw₁]
  split
  · exact heuristicsWorkerCmdWriteExecResult_ok _ _ hsize₁
  · exact heuristicsWorkerStartRun_ok env hsize₁

/-- One good command. -/
theorem heuristicsWorkerCmdProcessLine_good (env : HeuristicsWorkerEnv) {cmd : HeuristicsCmd}
    (hvalid : cmd.Valid) (hgood : cmd.Good) {w : HeuristicsWorker}
    (hsize : 1024 ≤ w.cmdOutBuffer.maximumSize) :
    ∃ w', heuristicsWorkerCmdProcessLine env cmd.text w = (true, w') ∧ Delivered [cmd] w w' := by
  rw [heuristicsWorkerCmdProcessLine, heuristicsWorkerCmdProcess_text env hvalid]
  cases cmd with
  | execListClear => exact ⟨_, rfl, rfl, (List.append_nil _).symm, rfl, rfl⟩
  | execListAdd entry =>
    dsimp only
    rw [heuristicsWorkerCmdProcessExecListAdd_text hvalid, if_neg hgood]
    exact ⟨_, rfl, rfl, (List.append_nil _).symm, rfl, rfl⟩
  | exec issue timeout seqNumber =>
    obtain ⟨w', hprocess, hlist, hexecs, hin, hout⟩ :=
      heuristicsWorkerCmdProcessExec_ok env issue timeout seqNumber hsize
    dsimp only
    rw [hprocess]
    exact ⟨_, rfl, hlist, hexecs, hin, hout⟩

/-- A command that is not good is refused. -/
theorem heuristicsWorkerCmdProcessLine_bad (env : HeuristicsWorkerEnv) {cmd : HeuristicsCmd}
    (hvalid : cmd.Valid) (hbad : ¬ cmd.Good) (w : HeuristicsWorker) :
    (heuristicsWorkerCmdProcessLine env cmd.text w).1 = false := by
  rw [heuristicsWorkerCmdProcessLine, heuristicsWorkerCmdProcess_text env hvalid]
  cases cmd with
  | execListClear => exact absurd trivial hbad
  | execListAdd entry =>
    dsimp only
    rw [heuristicsWorkerCmdProcessExecListAdd_text hvalid, if_pos (not_not.mp hbad)]
  | exec issue timeout seqNumber => exact absurd trivial hbad

theorem Delivered.cons {cmd : HeuristicsCmd} {cmds : List HeuristicsCmd}
    {w w₁ w' : HeuristicsWorker} (h : Delivered [cmd] w w₁) (h' : Delivered cmds w₁ w') :
    Delivered (cmd :: cmds) w w' where
  execList := by rw [h'.execList, h.execList]; rfl
  execs := by
    rw [h'.execs, h.execs, List.append_assoc, ← List.filterMap_append]
    rfl
  inBuffer := h'.inBuffer.trans h.inBuffer
  outSize := h'.outSize.trans h.outSize

/-- Good commands, one after the other. -/
theorem handleAll_good (env : HeuristicsWorkerEnv) {cmds : List HeuristicsCmd}
    (hcmds : ∀ cmd ∈ cmds, cmd.Valid ∧ cmd.Good) {w : HeuristicsWorker}
    (hsize : 1024 ≤ w.cmdOutBuffer.maximumSize) :
    ∃ w', Text.handleAll (heuristicsWorkerCmdProcessLine env) (cmds.map HeuristicsCmd.text) w =
      (true, w') ∧ Delivered cmds w w' := by
  induction cmds generalizing w with
  | nil => exact ⟨w, rfl, rfl, (List.append_nil _).symm, rfl, rfl⟩
  | cons cmd cmds ih =>
    obtain ⟨hvalid, hgood⟩ := hcmds cmd List.mem_cons_self
    obtain ⟨w₁, hline, hw₁⟩ := heuristicsWorkerCmdProcessLine_good env hvalid hgood hsize
    obtain ⟨w', hall, hw'⟩ := ih (fun c hc => hcmds c (List.mem_cons_of_mem _ hc))
      (by rw [hw₁.outSize]; exact hsize)
    refine ⟨w', ?_, hw₁.cons hw'⟩
    rw [List.map_cons, Text.handleAll, hline]
    exact hall

/-! ### The machine -/

/-- The main process, the exec commands it is still going to write, the bytes in the pipe, and
    the worker, which may have failed. -/
structure PipeState where
  main : HeuristicsInstance
  todo : List (UInt32 × UInt32)
  pipe : List UInt8
  worker : HeuristicsWorker
  failed : Bool

/-- The next exec command is queued, some bytes are written, or some bytes are read. -/
inductive PipeEvent where
  | exec
  | write (n : Nat)
  | read (n : Nat) (env : HeuristicsWorkerEnv)

/-- One step.  Reads and writes are of 1 to 256 bytes. -/
def pipeStep (s : PipeState) : PipeEvent → Option PipeState
  | .exec =>
    match s.todo with
    | [] => none
    | (timeout, seqNumber) :: todo =>
      match heuristicsCmdWriteExec timeout seqNumber s.main with
      | (false, _) => none
      | (true, main) => some { s with main := main, todo := todo }
  | .write n =>
    if n = 0 ∨ heuristicsIoBufferSize < n then none
    else
      match heuristicsCmdWrite (.wrote n) s.main with
      | (false, _, _) => none
      | (true, bytes, main) => some { s with main := main, pipe := s.pipe ++ bytes }
  | .read n env =>
    if s.failed ∨ s.pipe = [] ∨ n = 0 ∨ heuristicsIoBufferSize < n then none
    else
      match heuristicsWorkerCmdReadFromPipe env (.data (s.pipe.take n)) s.worker with
      | (ok, worker) =>
        some { s with pipe := s.pipe.drop n, worker := worker, failed := !ok }

/-- The machine that starts when an exec list was written. -/
def pipeMachine (main : HeuristicsInstance) (worker : HeuristicsWorker)
    (execs : List (UInt32 × UInt32)) : Runs.Machine PipeState PipeEvent where
  init := ⟨main, execs, [], worker, false⟩
  step := pipeStep

/-- The exec command for a timeout and a sequence number. -/
def execCmd (exec : UInt32 × UInt32) : HeuristicsCmd := .exec 0 exec.1 exec.2

/-- Everything that is sent. -/
def pipeCmds (list : HeuristicsExecList) (execs : List (UInt32 × UInt32)) : List HeuristicsCmd :=
  .execListClear :: list.map .execListAdd ++ execs.map execCmd

/-- Every line leaves room for what may be read together with its end: a whole read, or all that
    follows. -/
def CmdsFit (max : Nat) : List HeuristicsCmd → Prop
  | [] => True
  | cmd :: cmds =>
    (cmd.text.length + 1 + 255 ≤ max ∨
      (Text.joinLines ((cmd :: cmds).map HeuristicsCmd.text)).length ≤ max) ∧ CmdsFit max cmds

instance CmdsFit.decidable (max : Nat) : (cmds : List HeuristicsCmd) → Decidable (CmdsFit max cmds)
  | [] => isTrue trivial
  | _ :: cmds =>
    have := CmdsFit.decidable max cmds
    inferInstanceAs (Decidable (_ ∧ _))

theorem CmdsFit.of_append {max : Nat} {cmds cmds' : List HeuristicsCmd}
    (h : CmdsFit max (cmds ++ cmds')) : CmdsFit max cmds' := by
  induction cmds with
  | nil => exact h
  | cons cmd cmds ih => exact ih h.2

/-- Writing moves bytes from the send list to the pipe. -/
theorem heuristicsCmdWrite_true {n : Nat} {main main' : HeuristicsInstance} {bytes : List UInt8}
    (h : heuristicsCmdWrite (.wrote n) main = (true, bytes, main')) :
    main.cmdOutBufferList.pending = bytes ++ main'.cmdOutBufferList.pending := by
  simp only [heuristicsCmdWrite, sendBufferListGetActive] at h
  cases hlist : main.cmdOutBufferList.list with
  | nil =>
    rw [hlist] at h
    cases h
  | cons entry entries =>
    rw [hlist] at h
    simp only [List.head?_cons] at h
    split at h
    · cases h
    · split at h
      · next hall =>
        simp only [Prod.mk.injEq, true_and] at h
        obtain ⟨rfl, rfl⟩ := h
        simp only [SendBufferList.pending, sendBufferListDeleteActive, hlist, List.flatMap_cons,
          List.tail_cons]
        rw [hall]
      · simp only [Prod.mk.injEq, true_and] at h
        obtain ⟨rfl, rfl⟩ := h
        simp only [SendBufferList.pending, hlist, List.flatMap_cons, List.tail_cons,
          ← List.append_assoc, ← List.drop_drop]
        congr 1
        exact (List.prefix_iff_eq_append.mp (List.take_prefix _ _)).symm

/-! ### When everything is delivered -/

/-- An incomplete line is no longer than the line. -/
theorem length_le_of_noEnd {data future line rest : List UInt8}
    (h : data ++ future = line ++ 10 :: rest) (hnoEnd : ∀ c ∈ data, Text.isLineEnd c = false) :
    data.length ≤ line.length := by
  obtain ⟨a, rfl, _⟩ | ⟨a, rfl, ha⟩ := List.append_eq_append_iff.mp h
  · rw [List.length_append]
    omega
  · cases a with
    | nil => rw [List.append_nil]
    | cons c a =>
      obtain ⟨rfl, _⟩ : 10 = c ∧ rest = a ++ future := by simpa using ha
      cases hnoEnd 10 (List.mem_append_right _ List.mem_cons_self)

/-- Without a line end there is no line. -/
theorem eq_nil_of_noEnd {part : List UInt8} {cmds : List HeuristicsCmd}
    (h : part = Text.joinLines (cmds.map HeuristicsCmd.text))
    (hnoEnd : ∀ c ∈ part, Text.isLineEnd c = false) : cmds = [] := by
  cases cmds with
  | nil => rfl
  | cons cmd cmds =>
    have hmem : (10 : UInt8) ∈ part := by simp [h]
    cases hnoEnd 10 hmem

/-- A read from a stream of commands that fit does not overflow the buffer. -/
theorem CmdsFit.read_fits {max : Nat} {cmds later : List HeuristicsCmd}
    (hfit : CmdsFit max (cmds ++ later)) {data bytes future : List UInt8}
    (h : data ++ bytes ++ future = Text.joinLines (cmds.map HeuristicsCmd.text))
    (hnoEnd : ∀ c ∈ data, Text.isLineEnd c = false) (hbytes : bytes ≠ [])
    (hlen : bytes.length ≤ 256) : data.length + bytes.length ≤ max := by
  cases cmds with
  | nil =>
    rw [List.map_nil, Text.joinLines_nil] at h
    simp only [List.append_eq_nil_iff] at h
    exact absurd h.1.2 hbytes
  | cons cmd cmds =>
    obtain hroom | hall := hfit.1
    · rw [List.map_cons, Text.joinLines_cons, List.append_assoc] at h
      have hle := length_le_of_noEnd h hnoEnd
      omega
    · have hall : (Text.joinLines ((cmd :: cmds ++ later).map HeuristicsCmd.text)).length ≤ max := hall
      have hlength := congrArg List.length h
      rw [List.map_append, Text.joinLines_append, List.length_append, ← hlength,
        List.length_append, List.length_append] at hall
      omega

/-- The main process and the worker with nothing between them, as they are set up. -/
structure PipeIdle (max : Nat) (main : HeuristicsInstance) (worker : HeuristicsWorker) : Prop where
  sendList : main.cmdOutBufferList.list = []
  sendSize : main.cmdOutBufferList.maxBufferSize = max
  inBuffer : worker.cmdInBuffer = dynarInit max
  outSize : worker.cmdOutBuffer.maximumSize = max
  minSize : 1024 ≤ max

/-- Where the commands are: some were processed, some are in the worker's buffer, in the pipe and
    in the send list, and the rest still has to be queued. -/
structure PipeInv (max : Nat) (worker : HeuristicsWorker) (cmds done todo : List HeuristicsCmd)
    (s : PipeState) : Prop where
  split : cmds = done ++ todo ++ s.todo.map execCmd
  stream : s.worker.cmdInBuffer.data ++ s.pipe ++ s.main.cmdOutBufferList.pending =
    Text.joinLines (todo.map HeuristicsCmd.text)
  noEnd : ∀ c ∈ s.worker.cmdInBuffer.data, Text.isLineEnd c = false
  inSize : s.worker.cmdInBuffer.maximumSize = max
  outSize : s.worker.cmdOutBuffer.maximumSize = max
  execList : s.worker.execList = done.foldl HeuristicsCmd.applyTo worker.execList
  execs : s.worker.execs = worker.execs ++ done.filterMap HeuristicsCmd.exec?
  failed : s.failed = false

/-- The text of an exec command does not depend on the call it belongs to. -/
theorem execCmd_queued {timeout seqNumber : UInt32} {main main' : HeuristicsInstance}
    (h : heuristicsCmdWriteExec timeout seqNumber main = (true, main')) :
    main'.cmdOutBufferList.pending = main.cmdOutBufferList.pending ++
      Text.joinLines ([execCmd (timeout, seqNumber)].map HeuristicsCmd.text) :=
  (heuristicsCmdQueue_true (heuristicsCmdExec_filled main.issued timeout seqNumber) h).pending

/-- With commands that are good and fit, every step keeps the commands in order. -/
theorem PipeInv.step {max : Nat} {worker : HeuristicsWorker} {cmds done todo : List HeuristicsCmd}
    (hmin : 1024 ≤ max) (hcmds : ∀ cmd ∈ cmds, cmd.Valid ∧ cmd.Good) (hfit : CmdsFit max cmds)
    {s s' : PipeState} {e : PipeEvent} (hinv : PipeInv max worker cmds done todo s)
    (hstep : pipeStep s e = some s') :
    ∃ done' todo', PipeInv max worker cmds done' todo' s' := by
  cases e with
  | exec =>
    simp only [pipeStep] at hstep
    split at hstep
    · cases hstep
    · next timeout seqNumber rest htodo =>
      split at hstep
      · cases hstep
      · next main hwrite =>
        obtain rfl := Option.some.inj hstep
        -- The command is the last that waits, and its line the last of the stream.
        refine ⟨done, todo ++ [execCmd (timeout, seqNumber)], { hinv with split := ?_, stream := ?_ }⟩
        · rw [hinv.split, htodo]
          simp
        · rw [execCmd_queued hwrite, ← List.append_assoc, hinv.stream, List.map_append,
            Text.joinLines_append]
  | write n =>
    simp only [pipeStep] at hstep
    split at hstep
    · cases hstep
    · split at hstep
      · cases hstep
      · next bytes main hwrite =>
        obtain rfl := Option.some.inj hstep
        -- The bytes have moved from the send list to the pipe, so the stream is the same.
        refine ⟨done, todo, { hinv with stream := ?_ }⟩
        rw [← hinv.stream, heuristicsCmdWrite_true hwrite]
        simp
  | read n env =>
    simp only [pipeStep] at hstep
    split at hstep
    · cases hstep
    · next hguard =>
      simp only [not_or] at hguard
      obtain ⟨_, hpipe, hn, hmax⟩ := hguard
      have hvalid : ∀ cmd ∈ todo, cmd.Valid ∧ cmd.Good := fun cmd hcmd => hcmds cmd (by
        rw [hinv.split]
        exact List.mem_append_left _ (List.mem_append_right _ hcmd))
      have hlines : ∀ line ∈ todo.map HeuristicsCmd.text, Text.IsLine line := by
        intro line hline
        obtain ⟨cmd, hcmd, rfl⟩ := List.mem_map.mp hline
        exact (hvalid cmd hcmd).1.isLine
      have hstream : s.worker.cmdInBuffer.data ++ s.pipe.take n ++ (s.pipe.drop n ++
          s.main.cmdOutBufferList.pending) = Text.joinLines (todo.map HeuristicsCmd.text) := by
        rw [← hinv.stream, ← List.append_assoc, List.append_assoc _ (s.pipe.take n),
          List.take_append_drop]
      have hfits : s.worker.cmdInBuffer.data.length + (s.pipe.take n).length ≤
          s.worker.cmdInBuffer.maximumSize := by
        rw [hinv.inSize]
        have hfit' : CmdsFit max (todo ++ s.todo.map execCmd) := by
          rw [hinv.split, List.append_assoc] at hfit
          exact hfit.of_append
        refine hfit'.read_fits hstream hinv.noEnd ?_ ?_
        · simp [hn, hpipe]
        · rw [List.length_take]
          simp only [heuristicsIoBufferSize] at hmax
          omega
      -- The whole lines that have come are the first commands that wait; the rest begins the next.
      obtain ⟨doneLines, todoLines, part, hsplit, hpart, hend, hok, hw, hdata⟩ :=
        heuristicsReadLines_stream (heuristicsWorkerCmdProcessLine env) hlines hstream hinv.noEnd
          hfits s.worker
      obtain ⟨now, rest, rfl, rfl, rfl⟩ := List.map_eq_append_iff.mp hsplit
      obtain ⟨w', hall, hdelivered⟩ := handleAll_good env
        (fun cmd hcmd => hvalid cmd (List.mem_append_left _ hcmd)) (w := s.worker)
        (by rw [hinv.outSize]; exact hmin)
      rw [hall] at hok hw hdata
      simp only [heuristicsWorkerCmdReadFromPipe] at hstep
      cases hread : heuristicsReadLines (heuristicsWorkerCmdProcessLine env)
          (.data (s.pipe.take n)) s.worker.cmdInBuffer s.worker with
      | mk ok r =>
        obtain ⟨buffer, inst⟩ := r
        rw [hread] at hok hw hdata hstep
        obtain rfl : ok = true := hok
        obtain rfl : inst = w' := hw
        obtain rfl := hdata rfl
        obtain rfl := Option.some.inj hstep
        refine ⟨done ++ now, rest, ?_, ?_, hend, hinv.inSize, ?_, ?_, ?_, rfl⟩
        · rw [hinv.split]
          simp
        · rw [← hpart]
          simp
        · exact hdelivered.outSize.trans hinv.outSize
        · rw [List.foldl_append, ← hinv.execList]
          exact hdelivered.execList
        · rw [List.filterMap_append, ← List.append_assoc, ← hinv.execs]
          exact hdelivered.execs

/-! ### Runs of the pipe -/

section

variable {main₀ : HeuristicsInstance} {worker₀ : HeuristicsWorker}
  {execs₀ : List (UInt32 × UInt32)}

/-- The states of all runs. -/
def PipeReach (main : HeuristicsInstance) (worker : HeuristicsWorker)
    (execs : List (UInt32 × UInt32)) (s : PipeState) : Prop :=
  (pipeMachine main worker execs).Reach (fun _ _ => True) s

theorem PipeReach.step {s s' : PipeState} (h : PipeReach main₀ worker₀ execs₀ s) (e : PipeEvent)
    (hstep : pipeStep s e = some s') : PipeReach main₀ worker₀ execs₀ s' :=
  Runs.Machine.Reach.step h trivial hstep

/-- A send list that can be written: no entry was written completely, and when all of them are
    there is a free one. -/
structure Writable (sblist : SendBufferList) : Prop where
  entries : ∀ entry ∈ sblist.list, entry.msgAlreadySentBytes < entry.buffer.data.length
  free : sblist.list ≠ [] ∨ 0 < sblist.freeList

/-- A write of 256 bytes gets something done. -/
theorem heuristicsCmdWrite_writable {main : HeuristicsInstance}
    (h : Writable main.cmdOutBufferList) (hlist : main.cmdOutBufferList.list ≠ []) :
    ∃ bytes main', heuristicsCmdWrite (.wrote 256) main = (true, bytes, main') ∧ bytes ≠ [] ∧
      Writable main'.cmdOutBufferList ∧
      main'.cmdOutBufferList.maxBufferSize = main.cmdOutBufferList.maxBufferSize := by
  obtain ⟨entry, entries, hentries⟩ := List.exists_cons_of_ne_nil hlist
  have hentry := h.entries entry (hentries ▸ List.mem_cons_self)
  have hrest : ∀ e ∈ entries, e.msgAlreadySentBytes < e.buffer.data.length :=
    fun e he => h.entries e (hentries ▸ List.mem_cons_of_mem _ he)
  have hbytes : (entry.buffer.data.drop entry.msgAlreadySentBytes).take 256 ≠ [] := by
    simp
    omega
  simp only [heuristicsCmdWrite, sendBufferListGetActive, hentries, List.head?_cons,
    heuristicsIoBufferSize, Nat.min_self]
  rw [if_neg hbytes]
  split
  · refine ⟨_, _, rfl, hbytes, ⟨?_, ?_⟩, rfl⟩
    · simpa [sendBufferListDeleteActive, hentries] using hrest
    · exact .inr (Nat.succ_pos _)
  · next hpart =>
    refine ⟨_, _, rfl, hbytes, ⟨?_, ?_⟩, rfl⟩
    · intro e he
      obtain rfl | he := List.mem_cons.mp he
      · rw [List.take_eq_self_iff, List.length_drop] at hpart
        simp only [List.length_take, List.length_drop]
        omega
      · exact hrest e (by simpa [hentries] using he)
    · exact .inl (List.cons_ne_nil _ _)

/-- Everything that is queued can be written. -/
theorem PipeReach.drain {s : PipeState} (h : PipeReach main₀ worker₀ execs₀ s)
    (hwritable : Writable s.main.cmdOutBufferList) :
    ∃ s', PipeReach main₀ worker₀ execs₀ s' ∧ s'.main.cmdOutBufferList.list = [] ∧
      0 < s'.main.cmdOutBufferList.freeList ∧
      s'.main.cmdOutBufferList.maxBufferSize = s.main.cmdOutBufferList.maxBufferSize ∧
      s'.pipe = s.pipe ++ s.main.cmdOutBufferList.pending ∧ s'.todo = s.todo ∧
      s'.worker = s.worker ∧ s'.failed = s.failed := by
  induction hlen : s.main.cmdOutBufferList.pending.length using Nat.strongRecOn generalizing s with
  | ind len ih =>
    by_cases hlist : s.main.cmdOutBufferList.list = []
    · refine ⟨s, h, hlist, hwritable.free.resolve_left (not_not.mpr hlist), rfl, ?_, rfl, rfl, rfl⟩
      rw [SendBufferList.pending, hlist, List.flatMap_nil, List.append_nil]
    · obtain ⟨bytes, main', hwrite, hbytes, hwritable', hmax⟩ :=
        heuristicsCmdWrite_writable hwritable hlist
      have hpending := heuristicsCmdWrite_true hwrite
      have hstep : pipeStep s (.write 256) =
          some { s with main := main', pipe := s.pipe ++ bytes } := by
        simp only [pipeStep, hwrite]
        rw [if_neg (by decide)]
      have hshorter : main'.cmdOutBufferList.pending.length < len := by
        rw [← hlen, hpending, List.length_append]
        have := List.length_pos_iff.mpr hbytes
        omega
      obtain ⟨s', hreach, hnil, hfree, hmax', hpipe, htodo, hworker, hfailed⟩ :=
        ih _ hshorter (h.step _ hstep) hwritable' rfl
      refine ⟨s', hreach, hnil, hfree, hmax'.trans hmax, ?_, htodo, hworker, hfailed⟩
      rw [hpipe, hpending, List.append_assoc]

/-- An exec command fits. -/
theorem heuristicsCmdExec_ok (timeout seqNumber : UInt32) {max : Nat} (hmin : 1024 ≤ max) :
    heuristicsCmdExec timeout seqNumber (dynarInit max) =
      (some (), ⟨(execCmd (timeout, seqNumber)).text ++ [10], max⟩) := by
  have htimeout := decimal_uint32_length timeout
  have hseq := decimal_uint32_length seqNumber
  have hword : (addSpace heuristicsCmdStrExec).length = 5 := rfl
  have hcpy : dynarStrCpy (addSpace heuristicsCmdStrExec) (dynarInit max) =
      (some (), ⟨addSpace heuristicsCmdStrExec, max⟩) := by
    simp only [dynarStrCpy, dynarMaxSize, dynarInit, hword, dynarStrCat, dynarCat, dynarClean,
      dynarSize]
    rw [if_neg (by omega), if_neg (by simp only [List.length_nil]; omega)]
    rfl
  simp only [heuristicsCmdExec, bind, hcpy, dynarStrCatf, dynarSize, dynarMaxSize,
    List.length_append, List.length_singleton, hword]
  rw [if_neg (by omega), if_neg (by omega)]
  simp [execCmd, HeuristicsCmd.text]

/-- All exec commands can be queued and written. -/
theorem PipeReach.issueAll {max : Nat} (hmin : 1024 ≤ max) {s : PipeState}
    (h : PipeReach main₀ worker₀ execs₀ s) (hwritable : Writable s.main.cmdOutBufferList)
    (hmax : s.main.cmdOutBufferList.maxBufferSize = max) :
    ∃ s', PipeReach main₀ worker₀ execs₀ s' ∧
      s'.pipe = s.pipe ++ s.main.cmdOutBufferList.pending ++
        Text.joinLines ((s.todo.map execCmd).map HeuristicsCmd.text) ∧
      s'.worker = s.worker ∧ s'.failed = s.failed := by
  induction hnext : s.todo generalizing s with
  | nil =>
    obtain ⟨s₁, hreach, _, _, _, hpipe, _, hworker, hfailed⟩ := h.drain hwritable
    refine ⟨s₁, hreach, ?_, hworker, hfailed⟩
    rw [hpipe, List.map_nil, List.map_nil, Text.joinLines_nil, List.append_nil]
  | cons exec todo ih =>
    obtain ⟨s₁, hreach, hlist, hfree, hmax₁, hpipe, htodo, hworker, hfailed⟩ := h.drain hwritable
    obtain ⟨timeout, seqNumber⟩ := exec
    rw [hmax] at hmax₁
    have happend := sendBufferListAppend_free (heuristicsCmdExec timeout seqNumber) hfree
      (by rw [hmax₁]; exact heuristicsCmdExec_ok timeout seqNumber hmin)
    have hstep : ∃ main', pipeStep s₁ .exec = some { s₁ with main := main', todo := todo } ∧
        main'.cmdOutBufferList = { s₁.main.cmdOutBufferList with
          list := [{ buffer := ⟨(execCmd (timeout, seqNumber)).text ++ [10], max⟩ }]
          freeList := s₁.main.cmdOutBufferList.freeList - 1 } := by
      rw [hlist, List.nil_append] at happend
      simp only [pipeStep, htodo, hnext, heuristicsCmdWriteExec, heuristicsCmdQueue, happend]
      exact ⟨_, rfl, rfl⟩
    obtain ⟨main', hstep, hmain'⟩ := hstep
    have hwritable' : Writable main'.cmdOutBufferList := by
      rw [hmain']
      refine ⟨fun entry hentry => ?_, .inl (List.cons_ne_nil _ _)⟩
      obtain rfl := List.mem_singleton.mp hentry
      simp
    obtain ⟨s', hreach', hpipe', hworker', hfailed'⟩ := ih (hreach.step _ hstep) hwritable'
      (by rw [hmain']; exact hmax₁) rfl
    refine ⟨s', hreach', ?_, hworker'.trans hworker, hfailed'.trans hfailed⟩
    rw [hpipe', hpipe]
    simp [SendBufferList.pending, hmain']

/-- Bytes that complete no line can be read one after the other. -/
theorem PipeReach.readBytes {s : PipeState} (h : PipeReach main₀ worker₀ execs₀ s)
    (hfailed : s.failed = false) {bytes rest : List UInt8} (hpipe : s.pipe = bytes ++ rest)
    (hnoEnd : ∀ c ∈ bytes, Text.isLineEnd c = false)
    (hfit : s.worker.cmdInBuffer.data.length + bytes.length ≤
      s.worker.cmdInBuffer.maximumSize) :
    PipeReach main₀ worker₀ execs₀ { s with
      pipe := rest
      worker := { s.worker with cmdInBuffer :=
        ⟨s.worker.cmdInBuffer.data ++ bytes, s.worker.cmdInBuffer.maximumSize⟩ } } := by
  induction bytes generalizing s with
  | nil =>
    rw [List.nil_append] at hpipe
    rw [List.append_nil, ← hpipe]
    exact h
  | cons c bytes ih =>
    have hc : c ≠ 10 := by
      rintro rfl
      cases hnoEnd 10 List.mem_cons_self
    rw [List.length_cons] at hfit
    have hcat : dynarCat [c] s.worker.cmdInBuffer = (some (),
        ⟨s.worker.cmdInBuffer.data ++ [c], s.worker.cmdInBuffer.maximumSize⟩) :=
      if_neg (by simp only [dynarSize, dynarMaxSize, List.length_singleton]; omega)
    have hstep : pipeStep s (.read 1 ⟨fun _ => true, fun _ => true⟩) = some { s with
        pipe := bytes ++ rest
        worker := { s.worker with cmdInBuffer :=
          ⟨s.worker.cmdInBuffer.data ++ [c], s.worker.cmdInBuffer.maximumSize⟩ } } := by
      have hcontains : [c].contains 10 = false := by simpa using Ne.symm hc
      simp only [pipeStep, hpipe, hfailed, heuristicsWorkerCmdReadFromPipe, heuristicsReadLines,
        heuristicsIoRead, List.cons_append, List.take_succ_cons, List.take_zero, hcat, hcontains,
        List.drop_succ_cons, List.drop_zero]
      rw [if_neg (by simp [heuristicsIoBufferSize])]
      simp
    have hreach := ih (h.step _ hstep) hfailed rfl
      (fun d hd => hnoEnd d (List.mem_cons_of_mem _ hd)) (by
        simp only [List.length_append, List.length_singleton]
        omega)
    simpa using hreach

/-- A line can be read byte by byte, and is then processed. -/
theorem PipeReach.readLine {max : Nat} {s : PipeState} (h : PipeReach main₀ worker₀ execs₀ s)
    (hfailed : s.failed = false) {cmd : HeuristicsCmd} (hvalid : cmd.Valid) {rest : List UInt8}
    (hpipe : s.pipe = cmd.text ++ 10 :: rest) (hbuffer : s.worker.cmdInBuffer = dynarInit max)
    (hfit : cmd.text.length + 1 ≤ max) (env : HeuristicsWorkerEnv) :
    ∃ w s', PipeReach main₀ worker₀ execs₀ s' ∧ w.cmdOutBuffer = s.worker.cmdOutBuffer ∧
      s'.pipe = rest ∧ s'.failed = !(heuristicsWorkerCmdProcessLine env cmd.text w).1 ∧
      ((heuristicsWorkerCmdProcessLine env cmd.text w).1 = true →
        s'.worker = { (heuristicsWorkerCmdProcessLine env cmd.text w).2 with
          cmdInBuffer := dynarInit max }) := by
  have hreach := h.readBytes hfailed hpipe hvalid.isLine.noEnd (by
    rw [hbuffer]
    simp only [dynarInit, List.length_nil]
    omega)
  rw [hbuffer] at hreach
  simp only [dynarInit, List.nil_append] at hreach
  obtain ⟨w, hw⟩ : ∃ w, { s.worker with cmdInBuffer := ⟨cmd.text, max⟩ } = w := ⟨_, rfl⟩
  rw [hw] at hreach
  have hwbuffer : w.cmdInBuffer = ⟨cmd.text, max⟩ := by rw [← hw]
  have hstream : w.cmdInBuffer.data ++ [10] ++ [] =
      Text.joinLines ([cmd].map HeuristicsCmd.text) := by
    rw [hwbuffer]
    simp
  obtain ⟨doneLines, todoLines, part, hsplit, hpart, hend, hok, hw', hdata⟩ :=
    heuristicsReadLines_stream (heuristicsWorkerCmdProcessLine env) (by simpa using hvalid.isLine)
      hstream (by rw [hwbuffer]; exact hvalid.isLine.noEnd) (by rw [hwbuffer]; simpa using hfit) w
  -- The line is complete, so that nothing is left of it.
  obtain ⟨now, later, hnow, rfl, rfl⟩ := List.map_eq_append_iff.mp hsplit
  rw [List.append_nil] at hpart
  obtain rfl := eq_nil_of_noEnd hpart hend
  obtain rfl : [cmd] = now := by simpa using hnow
  obtain rfl : part = [] := hpart
  have hall : Text.handleAll (heuristicsWorkerCmdProcessLine env) ([cmd].map HeuristicsCmd.text) w =
      heuristicsWorkerCmdProcessLine env cmd.text w := by
    simp only [List.map_cons, List.map_nil, Text.handleAll]
    split
    · next s' hline => rw [hline]
    · next s' hline => rw [hline]
  rw [hall] at hok hw' hdata
  cases hread : heuristicsReadLines (heuristicsWorkerCmdProcessLine env) (.data [10])
      w.cmdInBuffer w with
  | mk ok r =>
    obtain ⟨buffer, inst⟩ := r
    rw [hread] at hok hw' hdata
    refine ⟨w, { s with pipe := rest, worker := { inst with cmdInBuffer := buffer }, failed := !ok },
      hreach.step (.read 1 env) ?_, by rw [← hw], rfl, ?_, ?_⟩
    · simp only [pipeStep, hfailed, heuristicsWorkerCmdReadFromPipe, List.take_succ_cons,
        List.take_zero, hread, List.drop_succ_cons, List.drop_zero]
      rw [if_neg (by simp [heuristicsIoBufferSize])]
    · exact congrArg Bool.not hok
    · intro htrue
      obtain rfl : inst = _ := hw'
      obtain rfl : buffer = _ := hdata htrue
      rw [hwbuffer]
      rfl

/-- A read that overflows the buffer ends the worker. -/
theorem PipeReach.overflow {s : PipeState} (h : PipeReach main₀ worker₀ execs₀ s)
    (hfailed : s.failed = false) (hpipe : s.pipe ≠ [])
    (hlong : s.worker.cmdInBuffer.maximumSize <
      s.worker.cmdInBuffer.data.length + (s.pipe.take 256).length) :
    ∃ s', PipeReach main₀ worker₀ execs₀ s' ∧ s'.failed = true := by
  refine ⟨{ s with pipe := s.pipe.drop 256, failed := true },
    h.step (.read 256 ⟨fun _ => true, fun _ => true⟩) ?_, rfl⟩
  simp only [pipeStep, hfailed, heuristicsWorkerCmdReadFromPipe, heuristicsReadLines_too_long hlong]
  rw [if_neg (by simp [heuristicsIoBufferSize, hpipe])]
  rfl

/-- Lines with good commands can be read byte by byte. -/
theorem PipeReach.readLines {max : Nat} (hmin : 1024 ≤ max) {cmds : List HeuristicsCmd}
    (hcmds : ∀ cmd ∈ cmds, (cmd.Valid ∧ cmd.Good) ∧ cmd.text.length + 1 ≤ max) {s : PipeState}
    (h : PipeReach main₀ worker₀ execs₀ s) (hfailed : s.failed = false) {rest : List UInt8}
    (hpipe : s.pipe = Text.joinLines (cmds.map HeuristicsCmd.text) ++ rest)
    (hbuffer : s.worker.cmdInBuffer = dynarInit max)
    (hout : s.worker.cmdOutBuffer.maximumSize = max) :
    ∃ s', PipeReach main₀ worker₀ execs₀ s' ∧ s'.failed = false ∧ s'.pipe = rest ∧
      s'.worker.cmdInBuffer = dynarInit max := by
  induction cmds generalizing s with
  | nil => exact ⟨s, h, hfailed, hpipe, hbuffer⟩
  | cons cmd cmds ih =>
    obtain ⟨⟨hvalid, hgood⟩, hfit⟩ := hcmds cmd List.mem_cons_self
    rw [List.map_cons, Text.joinLines_cons, List.append_assoc, List.cons_append] at hpipe
    obtain ⟨w, s₁, hreach, hwout, hpipe₁, hfailed₁, hworker₁⟩ :=
      h.readLine hfailed hvalid hpipe hbuffer hfit ⟨fun _ => true, fun _ => true⟩
    obtain ⟨w', hline, hdelivered⟩ := heuristicsWorkerCmdProcessLine_good
      ⟨fun _ => true, fun _ => true⟩ hvalid hgood (w := w) (by rw [hwout, hout]; exact hmin)
    rw [hline] at hfailed₁ hworker₁
    have hworker₁ := hworker₁ rfl
    refine ih (fun c hc => hcmds c (List.mem_cons_of_mem _ hc)) hreach hfailed₁ hpipe₁ ?_ ?_
    · rw [hworker₁]
    · rw [hworker₁]
      exact hdelivered.outSize.trans (by rw [hwout, hout])

end

/-! ### The result -/

/-- A line that does not leave room. -/
theorem exists_of_not_cmdsFit {max : Nat} {cmds : List HeuristicsCmd} (h : ¬ CmdsFit max cmds) :
    ∃ before cmd after, cmds = before ++ cmd :: after ∧ max < cmd.text.length + 1 + 255 ∧
      max < (Text.joinLines ((cmd :: after).map HeuristicsCmd.text)).length := by
  induction cmds with
  | nil => exact absurd trivial h
  | cons cmd cmds ih =>
    rw [CmdsFit, not_and_or, not_or] at h
    obtain ⟨hroom, hall⟩ | h := h
    · exact ⟨[], cmd, cmds, rfl, Nat.not_le.mp hroom, Nat.not_le.mp hall⟩
    · obtain ⟨before, c, after, rfl, hroom, hall⟩ := ih h
      exact ⟨cmd :: before, c, after, rfl, hroom, hall⟩

section

variable {max : Nat} {main main' : HeuristicsInstance} {worker : HeuristicsWorker}
  {list : HeuristicsExecList}

/-- The commands are valid if the entries are. -/
theorem pipeCmds_valid (hlist : ∀ entry ∈ list, entry.Valid) (execs : List (UInt32 × UInt32)) :
    ∀ cmd ∈ pipeCmds list execs, cmd.Valid := by
  intro cmd hcmd
  simp only [pipeCmds, List.cons_append, List.mem_cons, List.mem_append, List.mem_map] at hcmd
  obtain rfl | ⟨entry, hentry, rfl⟩ | ⟨exec, _, rfl⟩ := hcmd
  · trivial
  · exact hlist entry hentry
  · trivial

/-- The commands are good if something is left of every command of the list. -/
theorem pipeCmds_good (execs : List (UInt32 × UInt32)) :
    (∀ cmd ∈ pipeCmds list execs, cmd.Good) ↔
      ∀ entry ∈ list, ∃ c ∈ entry.command, c ≠ 32 ∧ Text.isLineEnd c = false := by
  simp only [← heuristicsReceived_ne_nil]
  constructor
  · intro h entry hentry
    exact h (.execListAdd entry) (by simp [pipeCmds, hentry])
  · intro h cmd hcmd
    simp only [pipeCmds, List.cons_append, List.mem_cons, List.mem_append, List.mem_map] at hcmd
    obtain rfl | ⟨entry, hentry, rfl⟩ | ⟨exec, _, rfl⟩ := hcmd
    · trivial
    · exact h entry hentry
    · trivial

theorem foldl_applyTo_adds (list execList : HeuristicsExecList) :
    (list.map HeuristicsCmd.execListAdd).foldl HeuristicsCmd.applyTo execList =
      execList ++ list.map HeuristicsExecListEntry.received := by
  induction list generalizing execList with
  | nil => exact (List.append_nil _).symm
  | cons entry list ih =>
    rw [List.map_cons, List.foldl_cons, ih, HeuristicsCmd.applyTo, List.append_assoc]
    rfl

/-- The exec list that the commands come to. -/
theorem foldl_applyTo_pipeCmds (execs : List (UInt32 × UInt32)) (execList : HeuristicsExecList) :
    (pipeCmds list execs).foldl HeuristicsCmd.applyTo execList =
      list.map HeuristicsExecListEntry.received := by
  have hexecs : ∀ l : HeuristicsExecList,
      (execs.map execCmd).foldl HeuristicsCmd.applyTo l = l := by
    induction execs with
    | nil => exact fun _ => rfl
    | cons exec execs ih => exact fun l => ih l
  rw [pipeCmds, List.foldl_append, hexecs, List.foldl_cons, foldl_applyTo_adds]
  rfl

/-- The exec commands among the commands. -/
theorem filterMap_exec_pipeCmds (execs : List (UInt32 × UInt32)) :
    (pipeCmds list execs).filterMap HeuristicsCmd.exec? = execs := by
  have hadds : (list.map HeuristicsCmd.execListAdd).filterMap HeuristicsCmd.exec? = [] := by
    simp [List.filterMap_map, HeuristicsCmd.exec?, Function.comp_def]
  have hexecs : (execs.map execCmd).filterMap HeuristicsCmd.exec? = execs := by
    rw [List.filterMap_map]
    exact List.filterMap_some
  have hclear : HeuristicsCmd.exec? .execListClear = none := rfl
  rw [pipeCmds, List.filterMap_append, hexecs, List.filterMap_cons_none hclear, hadds,
    List.nil_append]

/-- Every line that was accepted fits a buffer. -/
theorem pipeCmds_length_le (hidle : PipeIdle max main worker)
    (haccept : heuristicsCmdWriteExecList (some list) main = (true, main'))
    (execs : List (UInt32 × UInt32)) :
    ∀ cmd ∈ pipeCmds list execs, cmd.text.length + 1 ≤ max := by
  intro cmd hcmd
  obtain hcmd | hcmd := List.mem_append.mp hcmd
  · rw [← hidle.sendSize]
    exact (heuristicsCmdWriteExecList_true haccept).fits cmd hcmd
  · obtain ⟨⟨timeout, seqNumber⟩, _, rfl⟩ := List.mem_map.mp hcmd
    have hfill := heuristicsCmdExec_filled 0 timeout seqNumber _ _
      (heuristicsCmdExec_ok timeout seqNumber hidle.minSize)
    exact hfill.2

/-- What is in the send list at the start. -/
theorem PipeIdle.pending (hidle : PipeIdle max main worker)
    (haccept : heuristicsCmdWriteExecList (some list) main = (true, main')) :
    main'.cmdOutBufferList.pending = Text.joinLines
      ((HeuristicsCmd.execListClear :: list.map .execListAdd).map HeuristicsCmd.text) := by
  rw [(heuristicsCmdWriteExecList_true haccept).pending, SendBufferList.pending, hidle.sendList]
  rfl

/-- Good commands that fit are delivered. -/
theorem pipe_delivers (hidle : PipeIdle max main worker) (hlist : ∀ entry ∈ list, entry.Valid)
    (haccept : heuristicsCmdWriteExecList (some list) main = (true, main'))
    {execs : List (UInt32 × UInt32)} (hgood : ∀ cmd ∈ pipeCmds list execs, cmd.Good)
    (hfit : CmdsFit max (pipeCmds list execs)) {s : PipeState}
    (h : PipeReach main' worker execs s) :
    s.failed = false ∧ (s.todo = [] → s.main.cmdOutBufferList.list = [] → s.pipe = [] →
      s.worker.execList = list.map HeuristicsExecListEntry.received ∧
        s.worker.execs = worker.execs ++ execs) := by
  obtain ⟨done, todo, hinv⟩ : ∃ done todo,
      PipeInv max worker (pipeCmds list execs) done todo s := by
    refine Runs.Machine.Reach.invariant
      (fun s => ∃ done todo, PipeInv max worker (pipeCmds list execs) done todo s) ?_ ?_ h
    · refine ⟨[], .execListClear :: list.map .execListAdd, rfl, ?_, ?_, ?_, hidle.outSize, rfl, ?_,
        rfl⟩
      · show worker.cmdInBuffer.data ++ [] ++ main'.cmdOutBufferList.pending = _
        rw [hidle.inBuffer, hidle.pending haccept]
        rfl
      · show ∀ c ∈ worker.cmdInBuffer.data, _
        rw [hidle.inBuffer]
        exact fun _ hno => absurd hno List.not_mem_nil
      · show worker.cmdInBuffer.maximumSize = max
        rw [hidle.inBuffer]
        rfl
      · exact (List.append_nil _).symm
    · rintro s s' e _ ⟨done, todo, hinv⟩ _ hstep
      exact hinv.step hidle.minSize
        (fun cmd hcmd => ⟨pipeCmds_valid hlist execs cmd hcmd, hgood cmd hcmd⟩) hfit hstep
  refine ⟨hinv.failed, fun htodo hqueue hpipe => ?_⟩
  -- Nothing is on the way, so that all commands were processed.
  have hstream := hinv.stream
  rw [hpipe, SendBufferList.pending, hqueue, List.flatMap_nil, List.append_nil,
    List.append_nil] at hstream
  obtain rfl := eq_nil_of_noEnd hstream hinv.noEnd
  have hdone := hinv.split
  rw [htodo, List.map_nil, List.append_nil, List.append_nil] at hdone
  rw [hinv.execList, hinv.execs, ← hdone]
  exact ⟨foldl_applyTo_pipeCmds execs _, by rw [filterMap_exec_pipeCmds]⟩

/-- All lines can be in the pipe before the first of them is read. -/
theorem pipe_full (hidle : PipeIdle max main worker)
    (haccept : heuristicsCmdWriteExecList (some list) main = (true, main'))
    (execs : List (UInt32 × UInt32)) :
    ∃ s, PipeReach main' worker execs s ∧ s.failed = false ∧ s.worker = worker ∧
      s.pipe = Text.joinLines ((pipeCmds list execs).map HeuristicsCmd.text) := by
  have hqueued := heuristicsCmdWriteExecList_true haccept
  have hwritable : Writable main'.cmdOutBufferList := by
    refine ⟨fun entry hentry => ?_, .inl ?_⟩
    · rw [hqueued.list, hidle.sendList, List.nil_append] at hentry
      obtain ⟨cmd, _, rfl⟩ := List.mem_map.mp hentry
      simp
    · rw [hqueued.list]
      simp
  obtain ⟨s, hreach, hpipe, hworker, hfailed⟩ := PipeReach.issueAll hidle.minSize
    (s := ⟨main', execs, [], worker, false⟩) (Runs.Machine.Reach.init : PipeReach main' worker execs _)
    hwritable (hqueued.maxSize.trans hidle.sendSize)
  refine ⟨s, hreach, hfailed, hworker, ?_⟩
  rw [hpipe, List.nil_append, hidle.pending haccept, pipeCmds, List.map_append,
    Text.joinLines_append]

/-- Otherwise a run fails. -/
theorem pipe_fails (hidle : PipeIdle max main worker) (hlist : ∀ entry ∈ list, entry.Valid)
    (haccept : heuristicsCmdWriteExecList (some list) main = (true, main'))
    {execs : List (UInt32 × UInt32)}
    (h : ¬ ((∀ cmd ∈ pipeCmds list execs, cmd.Good) ∧ CmdsFit max (pipeCmds list execs))) :
    ∃ s, PipeReach main' worker execs s ∧ s.failed = true := by
  have hvalid := pipeCmds_valid hlist execs
  have hlength := pipeCmds_length_le hidle haccept execs
  obtain ⟨s, hreach, hfailed, hworker, hpipe⟩ := pipe_full hidle haccept execs
  have hbuffer : s.worker.cmdInBuffer = dynarInit max := by rw [hworker]; exact hidle.inBuffer
  have hout : s.worker.cmdOutBuffer.maximumSize = max := by rw [hworker]; exact hidle.outSize
  by_cases hgood : ∀ cmd ∈ pipeCmds list execs, cmd.Good
  · -- The line that does not leave room is read up to its end, and what follows does not fit.
    obtain ⟨before, cmd, after, hsplit, hroom, hall⟩ :=
      exists_of_not_cmdsFit fun hfit => h ⟨hgood, hfit⟩
    rw [hsplit] at hvalid hlength hgood hpipe
    have hmem : cmd ∈ before ++ cmd :: after := List.mem_append_right _ List.mem_cons_self
    rw [List.map_append, Text.joinLines_append] at hpipe
    obtain ⟨s₁, hreach₁, hfailed₁, hpipe₁, hbuffer₁⟩ := PipeReach.readLines hidle.minSize
      (fun c hc => ⟨⟨hvalid c (List.mem_append_left _ hc), hgood c (List.mem_append_left _ hc)⟩,
        hlength c (List.mem_append_left _ hc)⟩) hreach hfailed hpipe hbuffer hout
    rw [List.map_cons, Text.joinLines_cons] at hpipe₁ hall
    have hlen := hlength cmd hmem
    have hreach₂ := hreach₁.readBytes hfailed₁ hpipe₁ (hvalid cmd hmem).isLine.noEnd (by
      rw [hbuffer₁]
      simp only [dynarInit, List.length_nil]
      omega)
    rw [hbuffer₁] at hreach₂
    simp only [dynarInit, List.nil_append] at hreach₂
    rw [List.length_append, List.length_cons] at hall
    refine hreach₂.overflow hfailed₁ (List.cons_ne_nil _ _) ?_
    simp only [List.length_take, List.length_cons]
    omega
  · -- The first command of which nothing is left is refused.
    obtain ⟨before, cmd, after, hsplit, hgood', hbad⟩ := List.exists_first_not hgood
    rw [hsplit] at hvalid hlength hpipe
    have hmem : cmd ∈ before ++ cmd :: after := List.mem_append_right _ List.mem_cons_self
    rw [List.map_append, Text.joinLines_append] at hpipe
    obtain ⟨s₁, hreach₁, hfailed₁, hpipe₁, hbuffer₁⟩ := PipeReach.readLines hidle.minSize
      (fun c hc => ⟨⟨hvalid c (List.mem_append_left _ hc), hgood' c hc⟩,
        hlength c (List.mem_append_left _ hc)⟩) hreach hfailed hpipe hbuffer hout
    rw [List.map_cons, Text.joinLines_cons] at hpipe₁
    obtain ⟨w, s₂, hreach₂, _, _, hfailed₂, _⟩ := hreach₁.readLine hfailed₁ (hvalid cmd hmem) hpipe₁
      hbuffer₁ (hlength cmd hmem) ⟨fun _ => true, fun _ => true⟩
    refine ⟨s₂, hreach₂, ?_⟩
    rw [hfailed₂, heuristicsWorkerCmdProcessLine_bad _ (hvalid cmd hmem) hbad]
    rfl

/-- **The command pipe**: the worker never fails and gets the same exec list and exec commands,
    however the bytes are split and coalesced, if and only if every command has a character that is
    neither a space nor a line end, and every line leaves room in the buffer for what may be read
    together with its end. -/
theorem heuristics_pipe_iff (hidle : PipeIdle max main worker)
    (hlist : ∀ entry ∈ list, entry.Valid ∧ ∃ c ∈ entry.command, c ≠ 32)
    (haccept : heuristicsCmdWriteExecList (some list) main = (true, main'))
    (execs : List (UInt32 × UInt32)) :
    (∀ s, PipeReach main' worker execs s →
      s.failed = false ∧ (s.todo = [] → s.main.cmdOutBufferList.list = [] → s.pipe = [] →
        s.worker.execList = list.map HeuristicsExecListEntry.received ∧
          s.worker.execs = worker.execs ++ execs)) ↔
    (∀ entry ∈ list, ∃ c ∈ entry.command, c ≠ 32 ∧ Text.isLineEnd c = false) ∧
      CmdsFit max (pipeCmds list execs) := by
  have hvalid : ∀ entry ∈ list, entry.Valid := fun entry hentry => (hlist entry hentry).1
  rw [← pipeCmds_good execs]
  constructor
  · intro h
    by_contra hnot
    -- If one command is not good or does not fit, some run ends the worker.
    obtain ⟨s, hreach, hfailed⟩ := pipe_fails hidle hvalid haccept hnot
    rw [(h s hreach).1] at hfailed
    cases hfailed
  · rintro ⟨hgood, hfit⟩ s hreach
    exact pipe_delivers hidle hvalid haccept hgood hfit hreach

end

private theorem exists_of_accepted {α : Type} {p : Bool × α} (h : p.1 = true) :
    ∃ a, p = (true, a) :=
  ⟨p.2, by rw [← h]⟩

/-- One short command and one run. -/
private def shortList : HeuristicsExecList := [⟨[97], [116, 114, 117, 101]⟩]

/-- The processes as they are set up by default. -/
private theorem default_idle :
    PipeIdle 4096 (heuristicsInit 128 4096) (heuristicsWorkerStart 4096 160) :=
  ⟨rfl, rfl, rfl, rfl, by decide⟩

/-- A short command and an exec command arrive in every run. -/
theorem heuristics_pipe_iff_short : ∃ main',
    heuristicsCmdWriteExecList (some shortList) (heuristicsInit 128 4096) = (true, main') ∧
    ∀ s, PipeReach main' (heuristicsWorkerStart 4096 160) [(1000, 1)] s →
      s.failed = false ∧ (s.todo = [] → s.main.cmdOutBufferList.list = [] → s.pipe = [] →
        s.worker.execList = shortList ∧ s.worker.execs = [(1000, 1)]) := by
  obtain ⟨main', haccept⟩ := exists_of_accepted (by decide +kernel :
    (heuristicsCmdWriteExecList (some shortList) (heuristicsInit 128 4096)).1 = true)
  refine ⟨main', haccept, ?_⟩
  have hvalid : ∀ entry ∈ shortList, entry.Valid ∧ ∃ c ∈ entry.command, c ≠ 32 := by
    intro entry hentry
    obtain rfl := List.mem_singleton.mp hentry
    exact ⟨⟨by decide, List.forall_iff_forall_mem.mp (by decide),
      List.forall_iff_forall_mem.mp (by decide)⟩, 116, List.mem_cons_self, by decide⟩
  exact (heuristics_pipe_iff default_idle hvalid haccept [(1000, 1)]).mpr
    ⟨by decide, by decide +kernel⟩

/-- A command near the limit, and another one. -/
private def longList : HeuristicsExecList :=
  [⟨[97], List.replicate 4070 120⟩, ⟨[98], [116, 114, 117, 101]⟩]

/-- Both lines of this list are accepted, but the worker fails when the second one is read
    together with the end of the first. -/
theorem heuristics_pipe_overflow : ∃ main',
    heuristicsCmdWriteExecList (some longList) (heuristicsInit 128 4096) = (true, main') ∧
    (∀ entry ∈ longList, entry.Valid ∧
      ∃ c ∈ entry.command, c ≠ 32 ∧ Text.isLineEnd c = false) ∧
    ∃ s, PipeReach main' (heuristicsWorkerStart 4096 160) [] s ∧ s.failed = true := by
  obtain ⟨main', haccept⟩ := exists_of_accepted (by decide +kernel :
    (heuristicsCmdWriteExecList (some longList) (heuristicsInit 128 4096)).1 = true)
  have hvalid : ∀ entry ∈ longList, entry.Valid ∧
      ∃ c ∈ entry.command, c ≠ 32 ∧ Text.isLineEnd c = false := by
    intro entry hentry
    rw [longList, List.mem_cons, List.mem_singleton] at hentry
    obtain rfl | rfl := hentry
    · refine ⟨⟨by decide, List.forall_iff_forall_mem.mp (by decide), fun c hc => ?_⟩, 120,
        List.mem_replicate.mpr ⟨by decide, rfl⟩, by decide⟩
      rw [List.eq_of_mem_replicate hc]
      decide
    · exact ⟨⟨by decide, List.forall_iff_forall_mem.mp (by decide),
        List.forall_iff_forall_mem.mp (by decide)⟩, 116, List.mem_cons_self, by decide⟩
  have hnotFit : ¬ CmdsFit 4096 (pipeCmds longList []) := by decide +kernel
  exact ⟨main', haccept, hvalid, pipe_fails default_idle
    (fun entry hentry => (hvalid entry hentry).1) haccept fun h => hnotFit h.2⟩

end Qdevice
