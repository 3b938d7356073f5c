import Qdevice.Spec.HeuristicsPipe
import Qdevice.Spec.HeuristicsProcesses

/-! # What the results of the heuristics worker say

The commands that the main process has sent are the reference: the worker's exec list is what the
commands processed so far come to, a run belongs to one exec command, and a result is for a run.
`WorkerInv` is kept by everything the worker does, also by what ends it. -/

namespace Qdevice

/-- The exec list after the first commands. -/
def listAt (sent : List HeuristicsCmd) (lines : Nat) : HeuristicsExecList :=
  (sent.take lines).foldl HeuristicsCmd.applyTo []

theorem listAt_append {sent more : List HeuristicsCmd} {lines : Nat} (h : lines ≤ sent.length) :
    listAt (sent ++ more) lines = listAt sent lines := by
  rw [listAt, listAt, List.take_append_of_le_length h]

/-- One command more. -/
theorem listAt_succ {sent : List HeuristicsCmd} {lines : Nat} {cmd : HeuristicsCmd}
    (h : sent[lines]? = some cmd) : listAt sent (lines + 1) = cmd.applyTo (listAt sent lines) := by
  rw [listAt, listAt, List.take_add_one, h, Option.toList_some, List.foldl_append]
  rfl

/-- The run on a line is for an exec command with this sequence number. -/
def IsRun (sent : List HeuristicsCmd) (run : Nat) (seqNumber : UInt32) : Prop :=
  ∃ issue timeout, sent[run]? = some (.exec issue timeout seqNumber)

theorem IsRun.append {sent : List HeuristicsCmd} {run : Nat} {seqNumber : UInt32}
    (h : IsRun sent run seqNumber) (more : List HeuristicsCmd) :
    IsRun (sent ++ more) run seqNumber := by
  obtain ⟨issue, timeout, hget⟩ := h
  refine ⟨issue, timeout, ?_⟩
  rw [List.getElem?_append_left (List.getElem?_eq_some_iff.mp hget).1]
  exact hget

/-- A result: the run it is for, its sequence number, and what it says. -/
abbrev HeuristicsReply := Nat × UInt32 × HeuristicsExecResult

/-- The line of a result. -/
def HeuristicsReply.text (reply : HeuristicsReply) : List UInt8 :=
  heuristicsResultText reply.2.1 reply.2.2

/-- What a result says is so: in particular with PASS, no timeout was reported for the run, and
    all commands of the exec list at that time have passed. -/
structure ReplyInv (sent : List HeuristicsCmd) (lines : Nat) (timedOut : List Nat)
    (reports : ProcessListReports) (reply : HeuristicsReply) : Prop where
  lt : reply.1 < lines
  isRun : IsRun sent reply.1 reply.2.1
  known : ∀ number, reply.2.2 ≠ .unknown number
  pass : reply.2.2 = .pass → reply.1 ∉ timedOut ∧
    ∀ entry ∈ listAt sent reply.1, Passed reports reply.1 entry

/-- The run that the timer is for. -/
structure RunningInv (sent : List HeuristicsCmd) (w : HeuristicsWorker) : Prop where
  lt : w.run < w.lines
  isRun : IsRun sent w.run w.lastExecSeqNumber
  active : ActiveRun w.run (listAt sent w.run) w.mainProcessList
  notTimedOut : w.run ∉ w.timedOut
  replies : ∀ reply ∈ w.replies, reply.1 < w.run

/-- The worker, as far as the commands it has processed go. -/
structure WorkerInv (sent : List HeuristicsCmd) (w : HeuristicsWorker) : Prop where
  lines_le : w.lines ≤ sent.length
  execList : w.execList = listAt sent w.lines
  idle : w.execTimeoutTimer = false → w.mainProcessList.activeList = []
  running : w.execTimeoutTimer = true → RunningInv sent w
  timedOut : ∀ run ∈ w.timedOut, run < w.lines
  replies : ∀ reply ∈ w.replies,
    ReplyInv sent w.lines w.timedOut w.mainProcessList.notifications reply
  cmdOut : w.cmdOut = Text.joinLines (w.replies.map HeuristicsReply.text)

theorem ReplyInv.mono {sent : List HeuristicsCmd} {lines lines' : Nat} {timedOut : List Nat}
    {reports reports' : ProcessListReports} {reply : HeuristicsReply} (hlines : lines ≤ lines')
    (hreports : reports ⊆ reports') (h : ReplyInv sent lines timedOut reports reply) :
    ReplyInv sent lines' timedOut reports' reply where
  lt := Nat.lt_of_lt_of_le h.lt hlines
  isRun := h.isRun
  known := h.known
  pass hpass := ⟨(h.pass hpass).1, fun entry hentry => ((h.pass hpass).2 entry hentry).mono hreports⟩

namespace WorkerInv

variable {sent : List HeuristicsCmd} {w : HeuristicsWorker}

/-- More commands are sent. -/
theorem append (h : WorkerInv sent w) (more : List HeuristicsCmd) :
    WorkerInv (sent ++ more) w where
  lines_le := by
    have := h.lines_le
    rw [List.length_append]
    omega
  execList := by rw [listAt_append h.lines_le, h.execList]
  idle := h.idle
  running htimer := by
    have hrun := h.running htimer
    have hle : w.run ≤ sent.length := Nat.le_trans (Nat.le_of_lt hrun.lt) h.lines_le
    have hlist : listAt (sent ++ more) w.run = listAt sent w.run := listAt_append hle
    exact { hrun with isRun := hrun.isRun.append more, active := hlist ▸ hrun.active }
  timedOut := h.timedOut
  replies reply hreply := by
    have hinv := h.replies reply hreply
    have hle : reply.1 ≤ sent.length := Nat.le_trans (Nat.le_of_lt hinv.lt) h.lines_le
    have hlist : listAt (sent ++ more) reply.1 = listAt sent reply.1 := listAt_append hle
    exact { hinv with isRun := hinv.isRun.append more, pass := hlist ▸ hinv.pass }
  cmdOut := h.cmdOut

/-- The process list changes, but the run stays what it is. -/
theorem withProcesses (h : WorkerInv sent w) {plist : ProcessList}
    (hreports : w.mainProcessList.notifications ⊆ plist.notifications)
    (hempty : w.mainProcessList.activeList = [] → plist.activeList = [])
    (hactive : ∀ run list, ActiveRun run list w.mainProcessList → ActiveRun run list plist) :
    WorkerInv sent { w with mainProcessList := plist } where
  lines_le := h.lines_le
  execList := h.execList
  idle htimer := hempty (h.idle htimer)
  running htimer := { h.running htimer with active := hactive _ _ (h.running htimer).active }
  timedOut := h.timedOut
  replies reply hreply := (h.replies reply hreply).mono (Nat.le_refl _) hreports
  cmdOut := h.cmdOut

/-- Without a run, any process list without active entries will do. -/
theorem withIdleProcesses (h : WorkerInv sent w) (htimer : w.execTimeoutTimer = false)
    {plist : ProcessList} (hreports : w.mainProcessList.notifications ⊆ plist.notifications)
    (hempty : plist.activeList = []) : WorkerInv sent { w with mainProcessList := plist } where
  lines_le := h.lines_le
  execList := h.execList
  idle _ := hempty
  running htrue := by cases htimer.symm.trans htrue
  timedOut := h.timedOut
  replies reply hreply := (h.replies reply hreply).mono (Nat.le_refl _) hreports
  cmdOut := h.cmdOut

/-- The output buffer does not matter. -/
theorem withBuffer (h : WorkerInv sent w) (buffer : Dynar) :
    WorkerInv sent { w with cmdOutBuffer := buffer } where
  lines_le := h.lines_le
  execList := h.execList
  idle := h.idle
  running htimer := { h.running htimer with }
  timedOut := h.timedOut
  replies := h.replies
  cmdOut := h.cmdOut

/-- The command buffer does not matter. -/
theorem withInput (h : WorkerInv sent w) (buffer : Dynar) :
    WorkerInv sent { w with cmdInBuffer := buffer } where
  lines_le := h.lines_le
  execList := h.execList
  idle := h.idle
  running htimer := { h.running htimer with }
  timedOut := h.timedOut
  replies := h.replies
  cmdOut := h.cmdOut

/-- Whether the worker is going to exit does not matter. -/
theorem withExit (h : WorkerInv sent w) (exit : Bool) :
    WorkerInv sent { w with scheduleExit := exit } where
  lines_le := h.lines_le
  execList := h.execList
  idle := h.idle
  running htimer := { h.running htimer with }
  timedOut := h.timedOut
  replies := h.replies
  cmdOut := h.cmdOut

/-- A new exec command is taken up while no run is going on. -/
theorem begin (h : WorkerInv sent w) (htimer : w.execTimeoutTimer = false) (run : Nat)
    (seqNumber : UInt32) (execs : List (UInt32 × UInt32)) :
    WorkerInv sent { w with lastExecSeqNumber := seqNumber, run := run, execs := execs } where
  lines_le := h.lines_le
  execList := h.execList
  idle := h.idle
  running htrue := by cases htimer.symm.trans htrue
  timedOut := h.timedOut
  replies := h.replies
  cmdOut := h.cmdOut

/-- The run is given up. -/
theorem stop (h : WorkerInv sent w) :
    WorkerInv sent { heuristicsWorkerMoveToKillList w with execTimeoutTimer := false } where
  lines_le := h.lines_le
  execList := h.execList
  idle _ := rfl
  running htimer := by cases htimer
  timedOut := h.timedOut
  replies := h.replies
  cmdOut := h.cmdOut

/-- A result is written while no run is going on. -/
theorem reply (h : WorkerInv sent w) (htimer : w.execTimeoutTimer = false) (buffer : Dynar)
    {run : Nat} {seqNumber : UInt32} {execResult : HeuristicsExecResult}
    (hreply : ReplyInv sent w.lines w.timedOut w.mainProcessList.notifications
      (run, seqNumber, execResult)) :
    WorkerInv sent { w with
      cmdOutBuffer := buffer
      cmdOut := w.cmdOut ++ (heuristicsResultText seqNumber execResult ++ [10])
      replies := w.replies ++ [(run, seqNumber, execResult)] } where
  lines_le := h.lines_le
  execList := h.execList
  idle := h.idle
  running htrue := by cases htimer.symm.trans htrue
  timedOut := h.timedOut
  replies r hr := by
    obtain hr | hr := List.mem_append.mp hr
    · exact h.replies r hr
    · rw [List.mem_singleton.mp hr]
      exact hreply
  cmdOut := by
    rw [h.cmdOut, List.map_append, Text.joinLines_append]
    simp [HeuristicsReply.text]

/-- The timeout callback was called. -/
theorem timeOut (h : WorkerInv sent w) (hrun : RunningInv sent w) :
    WorkerInv sent { heuristicsWorkerMoveToKillList w with
      execTimeoutTimer := false, timedOut := w.timedOut ++ [w.run] } where
  lines_le := h.lines_le
  execList := h.execList
  idle _ := rfl
  running htimer := by cases htimer
  timedOut run hmem := by
    obtain hmem | hmem := List.mem_append.mp hmem
    · exact h.timedOut run hmem
    · rw [List.mem_singleton.mp hmem]
      exact hrun.lt
  replies reply hreply := by
    have hinv := h.replies reply hreply
    refine { hinv with pass := fun hpass => ⟨fun hmem => ?_, (hinv.pass hpass).2⟩ }
    obtain hmem | hmem := List.mem_append.mp hmem
    · exact (hinv.pass hpass).1 hmem
    · have hlt := hrun.replies reply hreply
      rw [List.mem_singleton.mp hmem] at hlt
      exact Nat.lt_irrefl _ hlt
  cmdOut := h.cmdOut

end WorkerInv

/-- A result is written, or there is no room for it. -/
theorem heuristicsWorkerCmdWriteExecResult_cases (seqNumber : UInt32)
    (execResult : HeuristicsExecResult) (w : HeuristicsWorker) :
    ∃ buffer, heuristicsWorkerCmdWriteExecResult seqNumber execResult w =
        (false, { w with cmdOutBuffer := buffer }) ∨
      heuristicsWorkerCmdWriteExecResult seqNumber execResult w = (true, { w with
        cmdOutBuffer := buffer
        cmdOut := w.cmdOut ++ (heuristicsResultText seqNumber execResult ++ [10])
        replies := w.replies ++ [(w.run, seqNumber, execResult)] }) := by
  rw [heuristicsWorkerCmdWriteExecResult]
  split
  · next buffer hfill => exact ⟨buffer, .inl rfl⟩
  · next buffer hfill =>
    obtain rfl := heuristicsWorkerCmdExecResult_some hfill
    exact ⟨_, .inr rfl⟩

/-! ### Processing commands -/

/-- What a piece of the worker's code keeps: the invariant, the command buffer, and the results
    written before.  If it succeeds, this many lines were processed. -/
structure WorkerKeeps (sent : List HeuristicsCmd) (lines : Nat) (w : HeuristicsWorker)
    (res : Bool × HeuristicsWorker) : Prop where
  inv : WorkerInv sent res.2
  inBuffer : res.2.cmdInBuffer = w.cmdInBuffer
  replies : w.replies <+: res.2.replies
  lines : res.1 = true → res.2.lines = w.lines + lines

/-- The next command is processed when it has had its effect on the exec list. -/
theorem WorkerInv.advance {sent : List HeuristicsCmd} {w : HeuristicsWorker} {cmd : HeuristicsCmd}
    (h : WorkerInv sent w) (hcmd : sent[w.lines]? = some cmd) :
    WorkerInv sent { w with execList := cmd.applyTo w.execList, lines := w.lines + 1 } where
  lines_le := (List.getElem?_eq_some_iff.mp hcmd).1
  execList := by rw [listAt_succ hcmd, h.execList]
  idle := h.idle
  running htimer :=
    have hrun := h.running htimer
    ⟨Nat.lt_succ_of_lt hrun.lt, hrun.isRun, hrun.active, hrun.notTimedOut, hrun.replies⟩
  timedOut run hmem := Nat.lt_succ_of_lt (h.timedOut run hmem)
  replies reply hreply := (h.replies reply hreply).mono (Nat.le_succ _) (List.Subset.refl _)
  cmdOut := h.cmdOut

/-- The commands of the exec list are started, or something goes wrong and the failure is
    reported. -/
theorem heuristicsWorkerStartRun_cases (env : HeuristicsWorkerEnv) {w : HeuristicsWorker}
    (hempty : w.mainProcessList.activeList = []) :
    ∃ plist, w.mainProcessList.notifications ⊆ plist.notifications ∧
      ((plist.activeList = [] ∧ ∃ buffer,
        heuristicsWorkerStartRun env w =
          (false, { w with mainProcessList := plist, cmdOutBuffer := buffer }) ∨
        heuristicsWorkerStartRun env w = (true, { w with
          mainProcessList := plist
          cmdOutBuffer := buffer
          cmdOut := w.cmdOut ++ (heuristicsResultText w.lastExecSeqNumber .fail ++ [10])
          replies := w.replies ++ [(w.run, w.lastExecSeqNumber, .fail)] })) ∨
      (ActiveRun w.run w.execList plist ∧ heuristicsWorkerStartRun env w =
        (true, { w with mainProcessList := plist, execTimeoutTimer := true }))) := by
  rw [heuristicsWorkerStartRun]
  cases hadd : heuristicsWorkerAddProcesses w.run w.execList w.mainProcessList with
  | mk ok plist₁ =>
    have hreports := (heuristicsWorkerAddProcesses_spec w.run hadd).1
    -- Wherever it goes wrong, what was started is killed.
    have hfail : ∀ plist : ProcessList, w.mainProcessList.notifications ⊆ plist.notifications →
        ∃ plist', w.mainProcessList.notifications ⊆ plist'.notifications ∧
          plist'.activeList = [] ∧ ∃ buffer,
            heuristicsWorkerCmdWriteExecResult w.lastExecSeqNumber .fail
              (heuristicsWorkerMoveToKillList { w with mainProcessList := plist }) =
              (false, { w with mainProcessList := plist', cmdOutBuffer := buffer }) ∨
            heuristicsWorkerCmdWriteExecResult w.lastExecSeqNumber .fail
              (heuristicsWorkerMoveToKillList { w with mainProcessList := plist }) = (true, { w with
              mainProcessList := plist'
              cmdOutBuffer := buffer
              cmdOut := w.cmdOut ++ (heuristicsResultText w.lastExecSeqNumber .fail ++ [10])
              replies := w.replies ++ [(w.run, w.lastExecSeqNumber, .fail)] }) := by
      intro plist hsub
      exact ⟨processListMoveActiveEntriesToKillList plist, hsub, rfl,
        heuristicsWorkerCmdWriteExecResult_cases _ _ _⟩
    cases ok with
    | false =>
      obtain ⟨plist', hsub, hrest⟩ := hfail plist₁ (by rw [hreports]; exact List.Subset.refl _)
      exact ⟨plist', hsub, .inl hrest⟩
    | true =>
      cases hexec : processListExecInitialized env.fork plist₁ with
      | mk ok plist₂ =>
        have hsub : w.mainProcessList.notifications ⊆ plist₂.notifications := by
          rw [← hreports]
          exact processListExecInitialized_reports env.fork hexec
        simp only [hexec]
        cases ok with
        | false =>
          obtain ⟨plist', hsub, hrest⟩ := hfail plist₂ hsub
          exact ⟨plist', hsub, .inl hrest⟩
        | true =>
          dsimp only
          split
          · exact ⟨plist₂, hsub, .inr
              ⟨processListExecInitialized_active env.fork hempty hadd hexec, rfl⟩⟩
          · obtain ⟨plist', hsub, hrest⟩ := hfail plist₂ hsub
            exact ⟨plist', hsub, .inl hrest⟩

/-- An exec command, when the run before it was given up. -/
theorem heuristicsWorkerExec_inv (env : HeuristicsWorkerEnv) {sent : List HeuristicsCmd}
    {w : HeuristicsWorker} (h : WorkerInv sent w) (htimer : w.execTimeoutTimer = false)
    {issue : Nat} {timeout : UInt32}
    (hcmd : sent[w.lines]? = some (.exec issue timeout w.lastExecSeqNumber)) (hrun : w.run = w.lines)
    {ok : Bool} {w' : HeuristicsWorker}
    (hres : (if w.execList = [] then
        heuristicsWorkerCmdWriteExecResult w.lastExecSeqNumber .disabled w
      else heuristicsWorkerStartRun env w) = (ok, w')) :
    w'.cmdInBuffer = w.cmdInBuffer ∧ w.replies <+: w'.replies ∧ w'.lines = w.lines ∧
      (ok = false → WorkerInv sent w') ∧
      (ok = true → WorkerInv sent { w' with lines := w'.lines + 1 }) := by
  have hisRun : IsRun sent w.run w.lastExecSeqNumber := ⟨issue, timeout, hrun ▸ hcmd⟩
  have hnext := h.advance hcmd
  have hreply : ∀ (reports : ProcessListReports) (execResult : HeuristicsExecResult),
      (∀ number, execResult ≠ .unknown number) → execResult ≠ .pass →
      ReplyInv sent (w.lines + 1) w.timedOut reports (w.run, w.lastExecSeqNumber, execResult) :=
    fun _ _ hknown hpass => ⟨by rw [hrun]; exact Nat.lt_succ_self _, hisRun, hknown,
      fun hno => absurd hno hpass⟩
  split at hres
  · -- Without heuristics the answer is `disabled`, at once.
    obtain ⟨buffer, hwrite | hwrite⟩ :=
      heuristicsWorkerCmdWriteExecResult_cases w.lastExecSeqNumber .disabled w
    · rw [hwrite] at hres
      cases hres
      exact ⟨rfl, List.prefix_rfl, rfl, fun _ => h.withBuffer buffer, (fun h => by cases h)⟩
    · rw [hwrite] at hres
      cases hres
      exact ⟨rfl, List.prefix_append _ _, rfl, (fun h => by cases h), fun _ => hnext.reply htimer buffer
        (hreply _ _ (fun _ => (fun h => by cases h)) (fun h => by cases h))⟩
  · -- No process could be started, which is answered at once, or the run goes on.
    obtain ⟨plist, hreports, ⟨hempty, buffer, hstart | hstart⟩ | ⟨hactive, hstart⟩⟩ :=
      heuristicsWorkerStartRun_cases env (h.idle htimer)
    · rw [hstart] at hres
      cases hres
      exact ⟨rfl, List.prefix_rfl, rfl,
        fun _ => (h.withIdleProcesses htimer hreports hempty).withBuffer buffer, (fun h => by cases h)⟩
    · rw [hstart] at hres
      cases hres
      exact ⟨rfl, List.prefix_append _ _, rfl, (fun h => by cases h),
        fun _ => (hnext.withIdleProcesses htimer hreports hempty).reply htimer buffer
          (hreply _ _ (fun _ => (fun h => by cases h)) (fun h => by cases h))⟩
    · rw [hstart] at hres
      cases hres
      refine ⟨rfl, List.prefix_rfl, rfl, (fun h => by cases h), fun _ => ?_⟩
      exact {
        lines_le := hnext.lines_le
        execList := hnext.execList
        idle := (fun h => by cases h)
        running := fun _ => {
          lt := by rw [hrun]; exact Nat.lt_succ_self _
          isRun := hisRun
          active := by
            show ActiveRun w.run (listAt sent w.run) plist
            rw [hrun, ← h.execList, ← hrun]
            exact hactive
          notTimedOut := fun hmem => by
            have hlt := h.timedOut _ hmem
            rw [hrun] at hlt
            exact Nat.lt_irrefl _ hlt
          replies := fun reply hreply => by
            rw [hrun]
            exact (h.replies reply hreply).lt }
        timedOut := hnext.timedOut
        replies := fun reply hreply => (hnext.replies reply hreply).mono (Nat.le_refl _) hreports
        cmdOut := hnext.cmdOut }

/-- The line of the next command. -/
theorem heuristicsWorkerCmdProcessLine_inv (env : HeuristicsWorkerEnv)
    {sent : List HeuristicsCmd} {w : HeuristicsWorker} {cmd : HeuristicsCmd}
    (h : WorkerInv sent w) (hcmd : sent[w.lines]? = some cmd) (hvalid : cmd.Valid) :
    WorkerKeeps sent 1 w (heuristicsWorkerCmdProcessLine env cmd.text w) := by
  have hnext := h.advance hcmd
  rw [heuristicsWorkerCmdProcessLine, heuristicsWorkerCmdProcess_text env hvalid]
  cases cmd with
  | execListClear => exact ⟨hnext, rfl, List.prefix_rfl, fun _ => rfl⟩
  | execListAdd entry =>
    dsimp only
    rw [heuristicsWorkerCmdProcessExecListAdd_text hvalid]
    by_cases hbad : heuristicsReceived entry.command = []
    · rw [if_pos hbad]
      exact ⟨h, rfl, List.prefix_rfl, (fun h => by cases h)⟩
    · rw [if_neg hbad]
      exact ⟨hnext, rfl, List.prefix_rfl, fun _ => rfl⟩
  | exec issue timeout seqNumber =>
    have hscan := scanTwoNumbers_text (addSpace heuristicsCmdStrExec) timeout seqNumber
    have htext : (HeuristicsCmd.exec issue timeout seqNumber).text = addSpace heuristicsCmdStrExec ++
      (Text.decimal timeout.toNat ++ [32] ++ Text.decimal seqNumber.toNat) := rfl
    -- The run before is given up.
    obtain ⟨w₁, hw₁, hinv₁, htimer₁, hlines₁, hin₁, hreplies₁⟩ : ∃ w₁ : HeuristicsWorker,
        (if w.execTimeoutTimer then
          { heuristicsWorkerMoveToKillList w with execTimeoutTimer := false } else w) = w₁ ∧
        WorkerInv sent w₁ ∧ w₁.execTimeoutTimer = false ∧ w₁.lines = w.lines ∧
        w₁.cmdInBuffer = w.cmdInBuffer ∧ w₁.replies = w.replies := by
      refine ⟨_, rfl, ?_⟩
      split
      · exact ⟨h.stop, rfl, rfl, rfl, rfl⟩
      · next hidle => exact ⟨h, by simpa using hidle, rfl, rfl, rfl⟩
    simp only [heuristicsWorkerCmdProcessExec, htext, hscan, hw₁]
    generalize hexecs : w₁.execs ++ [(timeout, seqNumber)] = execs
    cases hres : (if w₁.execList = [] then heuristicsWorkerCmdWriteExecResult seqNumber .disabled
        { w₁ with lastExecSeqNumber := seqNumber, run := w₁.lines, execs := execs }
      else heuristicsWorkerStartRun env
        { w₁ with lastExecSeqNumber := seqNumber, run := w₁.lines, execs := execs }) with
    | mk ok w' =>
      rw [← hlines₁] at hcmd
      obtain ⟨hin, hreplies, hlines, hfalse, htrue⟩ := heuristicsWorkerExec_inv env
        (hinv₁.begin htimer₁ w₁.lines seqNumber execs) htimer₁ hcmd rfl hres
      have hreplies : w.replies <+: w'.replies := hreplies₁ ▸ hreplies
      cases ok with
      | false => exact ⟨hfalse rfl, hin.trans hin₁, hreplies, (fun h => by cases h)⟩
      | true =>
        exact ⟨htrue rfl, hin.trans hin₁, hreplies,
          fun _ => congrArg (· + 1) (hlines.trans hlines₁)⟩

/-- The lines of the next commands. -/
theorem handleAll_inv (env : HeuristicsWorkerEnv) {sent : List HeuristicsCmd}
    {cmds later : List HeuristicsCmd} {w : HeuristicsWorker} (h : WorkerInv sent w)
    (hcmds : sent.drop w.lines = cmds ++ later) (hvalid : ∀ cmd ∈ sent, cmd.Valid) :
    WorkerKeeps sent cmds.length w
      (Text.handleAll (heuristicsWorkerCmdProcessLine env) (cmds.map HeuristicsCmd.text) w) := by
  induction cmds generalizing w with
  | nil => exact ⟨h, rfl, List.prefix_rfl, fun _ => rfl⟩
  | cons cmd cmds ih =>
    have hcmd : sent[w.lines]? = some cmd := by
      rw [← List.head?_drop, hcmds]
      rfl
    obtain ⟨hinv, hin, hreplies, hlines⟩ := heuristicsWorkerCmdProcessLine_inv env h hcmd
      (hvalid cmd (List.mem_of_getElem? hcmd))
    rw [List.map_cons, Text.handleAll]
    cases hline : heuristicsWorkerCmdProcessLine env cmd.text w with
    | mk ok w₁ =>
      rw [hline] at hinv hin hreplies hlines
      cases ok with
      | false => exact ⟨hinv, hin, hreplies, (fun h => by cases h)⟩
      | true =>
        have hlines : w₁.lines = w.lines + 1 := hlines rfl
        have hrest : sent.drop w₁.lines = cmds ++ later := by
          rw [hlines, ← List.drop_drop, hcmds]
          rfl
        obtain ⟨hinv', hin', hreplies', hlines'⟩ := ih hinv hrest
        refine ⟨hinv', hin'.trans hin, hreplies.trans hreplies', fun hok => ?_⟩
        rw [hlines' hok, hlines, List.length_cons]
        omega

/-! ### The loop -/

/-- What the worker does with the result of a finished run. -/
private def reportRun (execResult : HeuristicsExecResult) (w : HeuristicsWorker) :
    Bool × HeuristicsWorker :=
  match heuristicsWorkerCmdWriteExecResult w.lastExecSeqNumber execResult w with
  | (false, inst) => (false, inst)
  | (true, inst) =>
    (true, { heuristicsWorkerMoveToKillList inst with execTimeoutTimer := false })

/-- Looking at the running commands. -/
theorem heuristicsWorkerCheckRun_inv {sent : List HeuristicsCmd} {w : HeuristicsWorker}
    (h : WorkerInv sent w) : WorkerKeeps sent 0 w (heuristicsWorkerCheckRun w) := by
  rw [heuristicsWorkerCheckRun]
  by_cases htimer : w.execTimeoutTimer = true
  · have hrun := h.running htimer
    rw [if_pos htimer]
    have hreport : ∀ execResult : HeuristicsExecResult, (∀ number, execResult ≠ .unknown number) →
        (execResult = .pass → ∀ entry ∈ listAt sent w.run,
          Passed w.mainProcessList.notifications w.run entry) →
        WorkerKeeps sent 0 w (reportRun execResult w) := by
      intro execResult hknown hpass
      rw [reportRun]
      obtain ⟨buffer, hwrite | hwrite⟩ :=
        heuristicsWorkerCmdWriteExecResult_cases w.lastExecSeqNumber execResult w
      · rw [hwrite]
        exact ⟨h.withBuffer buffer, rfl, List.prefix_rfl, (fun h => by cases h)⟩
      · rw [hwrite]
        exact ⟨h.stop.reply rfl buffer ⟨hrun.lt, hrun.isRun, hknown,
          fun heq => ⟨hrun.notTimedOut, hpass heq⟩⟩, rfl, List.prefix_append _ _, fun _ => rfl⟩
    split
    · exact ⟨h, rfl, List.prefix_rfl, fun _ => rfl⟩
    · next hall => exact hreport .pass (fun _ => (fun h => by cases h)) fun _ => hrun.active.passed hall
    · exact hreport .fail (fun _ => (fun h => by cases h)) (fun h => by cases h)
  · rw [if_neg htimer]
    exact ⟨h, rfl, List.prefix_rfl, fun _ => rfl⟩

/-- The timers. -/
theorem heuristicsWorkerExpire_inv {sent : List HeuristicsCmd}
    {timers : List HeuristicsWorkerTimer} {w w' : HeuristicsWorker} (h : WorkerInv sent w)
    (hexpire : heuristicsWorkerExpire timers w = some w') :
    WorkerKeeps sent 0 w (true, w') := by
  induction timers generalizing w with
  | nil =>
    obtain rfl := Option.some.inj hexpire
    exact ⟨h, rfl, List.prefix_rfl, fun _ => rfl⟩
  | cons timer timers ih =>
    cases timer with
    | killList waitpid kill =>
      rw [heuristicsWorkerExpire] at hexpire
      split at hexpire
      · cases hexpire
      · next w₁ hcallback =>
        rw [heuristicsWorkerKillListTimerCallback] at hcallback
        cases hkill : processListProcessKillList waitpid kill w.mainProcessList with
        | mk res plist =>
          -- Killing has no influence on the processes of the run.
          obtain ⟨hsub, hempty, hactive⟩ := processListProcessKillList_active waitpid kill hkill
          have hinv := h.withProcesses hsub hempty hactive
          rw [hkill] at hcallback
          cases res with
          | error e =>
            cases e with
            | assertion => cases hcallback
            | failed =>
              obtain rfl : { w with mainProcessList := plist, scheduleExit := true } = w₁ :=
                Option.some.inj hcallback
              obtain ⟨hinv', hin', hreplies', hlines'⟩ := ih (hinv.withExit true) hexpire
              exact ⟨hinv', hin', hreplies', hlines'⟩
          | ok _ =>
            obtain rfl : { w with mainProcessList := plist } = w₁ := Option.some.inj hcallback
            obtain ⟨hinv', hin', hreplies', hlines'⟩ := ih hinv hexpire
            exact ⟨hinv', hin', hreplies', hlines'⟩
    | execTimeout =>
      rw [heuristicsWorkerExpire] at hexpire
      by_cases htimer : w.execTimeoutTimer = true
      · rw [if_pos htimer] at hexpire
        have hrun := h.running htimer
        have hkeeps : WorkerKeeps sent 0 w (true, heuristicsWorkerExecTimeoutTimerCallback w) := by
          -- The run is given up, and its answer is `fail`.
          have htimedOut := h.timeOut hrun
          rw [heuristicsWorkerExecTimeoutTimerCallback]
          generalize hw : { heuristicsWorkerMoveToKillList w with
            execTimeoutTimer := false, timedOut := w.timedOut ++ [w.run] } = w₁ at htimedOut ⊢
          have hsame : w₁.cmdInBuffer = w.cmdInBuffer ∧ w₁.replies = w.replies ∧
              w₁.lines = w.lines := by
            rw [← hw]
            exact ⟨rfl, rfl, rfl⟩
          obtain ⟨buffer, hwrite | hwrite⟩ :=
            heuristicsWorkerCmdWriteExecResult_cases w₁.lastExecSeqNumber .fail w₁
          · simp only [hwrite]
            exact ⟨(htimedOut.withBuffer buffer).withExit true, hsame.1,
              by rw [← hsame.2.1], fun _ => hsame.2.2⟩
          · simp only [hwrite]
            refine ⟨htimedOut.reply (by rw [← hw]) buffer ⟨?_, ?_, fun _ => (fun h => by cases h),
              (fun h => by cases h)⟩, hsame.1, ?_, fun _ => hsame.2.2⟩
            · rw [← hw]
              exact hrun.lt
            · rw [← hw]
              exact hrun.isRun
            · rw [← hsame.2.1]
              exact List.prefix_append _ _
        obtain ⟨hinv', hin', hreplies', hlines'⟩ := ih hkeeps.inv hexpire
        exact ⟨hinv', hin'.trans hkeeps.inBuffer, hkeeps.replies.trans hreplies',
          fun hok => (hlines' hok).trans (hkeeps.lines rfl)⟩
      · rw [if_neg htimer] at hexpire
        exact ih h hexpire

/-- What the worker does when it has read its commands. -/
theorem heuristicsWorkerPollProcesses_inv (waitpid : Nat → Waitpid)
    (timers : List HeuristicsWorkerTimer) {sent : List HeuristicsCmd} {w : HeuristicsWorker}
    (h : WorkerInv sent w) :
    WorkerKeeps sent 0 w (heuristicsWorkerPollProcesses waitpid timers w) := by
  rw [heuristicsWorkerPollProcesses]
  cases hwait : processListWaitpid waitpid w.mainProcessList with
  | mk ok plist =>
    obtain ⟨hsub, hempty, hactive⟩ := processListWaitpid_active waitpid hwait
    have hinv := h.withProcesses hsub hempty hactive
    cases ok with
    | false => exact ⟨hinv, rfl, List.prefix_rfl, (fun h => by cases h)⟩
    | true =>
      have hcheck := heuristicsWorkerCheckRun_inv hinv
      dsimp only
      cases hrun : heuristicsWorkerCheckRun { w with mainProcessList := plist } with
      | mk ok w₁ =>
        rw [hrun] at hcheck
        obtain ⟨hinv₁, hin₁, hreplies₁, hlines₁⟩ := hcheck
        cases ok with
        | false => exact ⟨hinv₁, hin₁, hreplies₁, (fun h => by cases h)⟩
        | true =>
          have hlines₁ : w₁.lines = w.lines := hlines₁ rfl
          dsimp only
          cases hexpire : heuristicsWorkerExpire timers w₁ with
          | none => exact ⟨hinv₁, hin₁, hreplies₁, (fun h => by cases h)⟩
          | some w' =>
            obtain ⟨hinv', hin', hreplies', hlines'⟩ := heuristicsWorkerExpire_inv hinv₁ hexpire
            exact ⟨hinv', hin'.trans hin₁, hreplies₁.trans hreplies',
              fun _ => (hlines' rfl).trans hlines₁⟩

end Qdevice
