import Qdevice.ForStd.Runs
import Qdevice.Spec.HeuristicsWorkerRun

/-! # Heuristics results

The main process and the worker together, with the two pipes between them.  Commands are on
their way from the send list through the command pipe and the worker's buffer, and results from
the result pipe through the main process's buffer; both are streams of lines, and every line of
one is accounted for.  What the notifiers are told then follows from `WorkerInv` and from what
the main process knows about the commands it has sent. -/

namespace Qdevice

/-! ### The machine -/

/-- The main process, the worker, and what is in the pipe for commands.  `resultsRead` bytes of
    the worker's results were read.  A process that has ended does nothing any more. -/
structure HeuristicsSystem where
  main : HeuristicsInstance
  mainRunning : Bool := true
  cmdPipe : List UInt8 := []
  worker : HeuristicsWorker
  workerRunning : Bool := true
  resultsRead : Nat := 0

/-- What is in the pipe for results. -/
def HeuristicsSystem.resultPipe (s : HeuristicsSystem) : List UInt8 :=
  s.worker.cmdOut.drop s.resultsRead

/-- What `read` does with a pipe. -/
inductive PipeInput where
  | bytes (n : Nat)
  | closed
  | again
  | error

/-- What `read` returns: some of the bytes in the pipe, as far as there are any. -/
def PipeInput.read (pipe : List UInt8) : PipeInput → Option PipeRead
  | .bytes n =>
    if n = 0 ∨ heuristicsIoBufferSize < n ∨ pipe = [] then none else some (.data (pipe.take n))
  | .closed => some .closed
  | .again => some .again
  | .error => some .error

/-- How much is taken from the pipe. -/
def PipeInput.taken : PipeInput → Nat
  | .bytes n => n
  | _ => 0

/-- What `poll` tells the worker about the pipe for commands. -/
inductive PipePoll where
  | nothing
  | readable (input : PipeInput)
  | hangup

/-- What happens to the main process, and one turn of the worker's loop. -/
inductive HeuristicsEvent where
  | configure (timeout syncTimeout : UInt32)
  | exec (syncInProgress : Bool)
  | changeExecList (newExecList : Option HeuristicsExecList) (syncInProgress : Bool)
  | write (write : PipeWrite)
  | read (input : PipeInput) (notify : Nat → Bool)
  | workerPoll (env : HeuristicsWorkerEnv) (poll : PipePoll) (waitpid : Nat → Waitpid)
    (timers : List HeuristicsWorkerTimer)

/-- The main process reads from the pipe for results; it ends if this fails. -/
def HeuristicsSystem.readResults (input : PipeInput) (notify : Nat → Bool)
    (s : HeuristicsSystem) : Option HeuristicsSystem :=
  match input.read s.resultPipe with
  | none => none
  | some read =>
    match heuristicsCmdReadFromPipe notify read s.main with
    | (ok, main) => some { s with
        main := main
        mainRunning := ok
        resultsRead := min (s.resultsRead + input.taken) s.worker.cmdOut.length }

/-- One turn of the worker's loop; it ends if this fails. -/
def HeuristicsSystem.pollWorker (env : HeuristicsWorkerEnv) (poll : PipePoll)
    (waitpid : Nat → Waitpid) (timers : List HeuristicsWorkerTimer) (s : HeuristicsSystem) :
    Option HeuristicsSystem :=
  let turn (poll : HeuristicsWorkerPoll) (taken : Nat) :=
    match heuristicsWorkerPoll env poll waitpid timers s.worker with
    | (ok, worker) => some { s with
        worker := worker, workerRunning := ok, cmdPipe := s.cmdPipe.drop taken }
  match poll with
  | .nothing => turn .nothing 0
  | .hangup => turn .hangup 0
  | .readable input =>
    match input.read s.cmdPipe with
    | none => none
    | some read => turn (.readable read) input.taken

/-- One step.  The callers of `qdevice_heuristics_change_exec_list` exit when it fails, those of
    `qdevice_heuristics_exec` go on.  The send list is only written when there is something in
    it. -/
def heuristicsStep (s : HeuristicsSystem) : HeuristicsEvent → Option HeuristicsSystem
  | .configure timeout syncTimeout =>
    if s.mainRunning then
      some { s with main := { s.main with timeout := timeout, syncTimeout := syncTimeout } }
    else none
  | .exec syncInProgress =>
    if s.mainRunning then some { s with main := (heuristicsExec syncInProgress s.main).2 }
    else none
  | .changeExecList newExecList syncInProgress =>
    if s.mainRunning then
      match heuristicsChangeExecList newExecList syncInProgress s.main with
      | (false, _) => some { s with mainRunning := false }
      | (true, main) => some { s with main := main }
    else none
  | .write write =>
    if s.mainRunning ∧ s.main.cmdOutBufferList.list ≠ [] then
      match heuristicsCmdWrite write s.main with
      | (ok, bytes, main) => some { s with
          main := main, mainRunning := ok, cmdPipe := s.cmdPipe ++ bytes }
    else none
  | .read input notify => if s.mainRunning then s.readResults input notify else none
  | .workerPoll env poll waitpid timers =>
    if s.workerRunning then s.pollWorker env poll waitpid timers else none

/-- The machine that starts with both processes set up. -/
def heuristicsMachine (maxSendBuffers maxSendReceiveSize maxProcesses : Nat) :
    Runs.Machine HeuristicsSystem HeuristicsEvent where
  init :=
    { main := heuristicsInit maxSendBuffers maxSendReceiveSize
      worker := heuristicsWorkerStart maxSendReceiveSize maxProcesses }
  step := heuristicsStep

/-! ### Which runs are considered -/

/-- The call of `qdevice_heuristics_exec` that a command is for. -/
def HeuristicsCmd.issue? : HeuristicsCmd → Option Nat
  | .exec issue _ _ => some issue
  | _ => none

/-- The calls of `qdevice_heuristics_exec` that something is still on the way for: an unread
    result, a run, or a command. -/
def HeuristicsSystem.outstanding (s : HeuristicsSystem) : List Nat :=
  let issueOf (run : Nat) := s.main.sent[run]?.bind HeuristicsCmd.issue?
  (s.worker.replies.drop s.main.lines).filterMap (fun reply => issueOf reply.1) ++
    (if s.worker.execTimeoutTimer then (issueOf s.worker.run).toList else []) ++
    (s.main.sent.drop s.worker.lines).filterMap HeuristicsCmd.issue?

/-- The names in a new exec list come from cmap keys, and its commands are C strings. -/
def HeuristicsEvent.Valid : HeuristicsEvent → Prop
  | .changeExecList (some list) _ => ∀ entry ∈ list, entry.Valid
  | _ => True

/-- Since any outstanding call of `qdevice_heuristics_exec`, fewer than 2^32 others were made. -/
def HeuristicsOk (s : HeuristicsSystem) (e : HeuristicsEvent) : Prop :=
  e.Valid ∧ ∀ issue ∈ s.outstanding, s.main.issued < issue + 2 ^ 32

instance (entry : HeuristicsExecListEntry) : Decidable entry.Valid :=
  decidable_of_iff (entry.name ≠ [] ∧
      entry.name.Forall (fun c => c ≠ 0 ∧ c ≠ 32 ∧ Text.isLineEnd c = false) ∧
      entry.command.Forall (· ≠ 0))
    ⟨fun h => ⟨h.1, List.forall_iff_forall_mem.mp h.2.1, List.forall_iff_forall_mem.mp h.2.2⟩,
      fun h => ⟨h.name_ne_nil, List.forall_iff_forall_mem.mpr h.name,
        List.forall_iff_forall_mem.mpr h.command⟩⟩

instance : (e : HeuristicsEvent) → Decidable e.Valid
  | .changeExecList (some list) _ => inferInstanceAs (Decidable (∀ entry ∈ list, entry.Valid))
  | .changeExecList none _ => isTrue trivial
  | .configure _ _ => isTrue trivial
  | .exec _ => isTrue trivial
  | .write _ => isTrue trivial
  | .read _ _ => isTrue trivial
  | .workerPoll _ _ _ _ => isTrue trivial

instance (s : HeuristicsSystem) (e : HeuristicsEvent) : Decidable (HeuristicsOk s e) :=
  inferInstanceAs (Decidable (_ ∧ _))

/-- The states that are reached this way. -/
abbrev HeuristicsReach (maxSendBuffers maxSendReceiveSize maxProcesses : Nat) :=
  (heuristicsMachine maxSendBuffers maxSendReceiveSize maxProcesses).Reach HeuristicsOk

/-! ### What the main process knows -/

/-- The commands that the main process has sent. -/
structure SentInv (main : HeuristicsInstance) : Prop where
  valid : ∀ cmd ∈ main.sent, cmd.Valid
  issues : ∀ issue timeout seqNumber, .exec issue timeout seqNumber ∈ main.sent →
    issue ≤ main.issued ∧ seqNumber = UInt32.ofNat issue
  execList : main.execList.map HeuristicsExecListEntry.received =
    listAt main.sent main.sent.length
  expected : main.expectedReplySeqNumber = UInt32.ofNat main.issued

/-- What the main process waits for.  While it waits, the last exec command is the last command
    at all, unless it could not be sent. -/
structure MainInv (main : HeuristicsInstance) : Prop extends SentInv main where
  waiting : main.waitingForResult = true → ∀ line timeout seqNumber,
    main.sent[line]? = some (.exec main.issued timeout seqNumber) → line + 1 = main.sent.length

/-- What the notifiers were told is so: in particular with PASS, the worker has written this
    result for the run of the last exec command, with the exec list of the main process. -/
structure NotificationInv (replies : List HeuristicsReply) (main : HeuristicsInstance)
    (n : HeuristicsNotification) : Prop where
  seqNumber : n.seqNumber = UInt32.ofNat n.issued
  issued : n.issued ≤ main.issued
  waiting : main.waitingForResult = true → n.issued < main.issued
  pass : n.execResult = .pass → ∃ run timeout, (run, n.seqNumber, .pass) ∈ replies ∧
    main.sent[run]? = some (.exec n.issued timeout n.seqNumber) ∧
    n.execList.map HeuristicsExecListEntry.received = listAt main.sent run

/-- All calls of the notifiers. -/
structure NotifiedInv (replies : List HeuristicsReply) (main : HeuristicsInstance) : Prop where
  each : ∀ n ∈ main.notifications, NotificationInv replies main n
  increasing : (main.notifications.map HeuristicsNotification.issued).Pairwise (· < ·)

/-- An exec command leaves the exec list as it is. -/
theorem listAt_exec {sent : List HeuristicsCmd} {line issue : Nat} {timeout seqNumber : UInt32}
    (h : sent[line]? = some (.exec issue timeout seqNumber)) :
    listAt sent (line + 1) = listAt sent line := by
  rw [listAt_succ h]
  rfl

/-- A sequence number tells apart the calls that can be outstanding together. -/
theorem eq_of_ofNat_eq {issue issued : Nat} (hle : issue ≤ issued) (hlt : issued < issue + 2 ^ 32)
    (h : UInt32.ofNat issue = UInt32.ofNat issued) : issue = issued := by
  have hmod := congrArg UInt32.toNat h
  rw [UInt32.toNat_ofNat', UInt32.toNat_ofNat'] at hmod
  omega

theorem ofNumber_number {execResult : HeuristicsExecResult}
    (h : ∀ number, execResult ≠ .unknown number) :
    HeuristicsExecResult.ofNumber execResult.number = execResult := by
  cases execResult with
  | disabled => rfl
  | pass => rfl
  | fail => rfl
  | unknown number => exact absurd rfl (h number)

/-- The line of a result is understood. -/
theorem heuristicsCmdProcessLine_text (notify : Nat → Bool) (seqNumber : UInt32)
    (execResult : HeuristicsExecResult) (main : HeuristicsInstance) :
    heuristicsCmdProcessLine notify (heuristicsResultText seqNumber execResult) main =
      if main.waitingForResult = true ∧ seqNumber = main.expectedReplySeqNumber then
        (notify main.notifications.length, { main with
          waitingForResult := false
          notifications := main.notifications ++
            [⟨seqNumber, .ofNumber execResult.number, main.execList, main.issued⟩]
          lines := main.lines + 1 })
      else (true, { main with lines := main.lines + 1 }) := by
  have hword : (addSpace heuristicsCmdStrExecResult).isPrefixOf
      (heuristicsResultText seqNumber execResult) = true :=
    List.isPrefixOf_iff_prefix.mpr (List.prefix_append _ _)
  have hscan : scanTwoNumbers (addSpace heuristicsCmdStrExecResult)
      (heuristicsResultText seqNumber execResult) = some (seqNumber, execResult.number) :=
    scanTwoNumbers_text _ _ _
  rw [heuristicsCmdProcessLine, cString_eq fun hc => (heuristicsResultText_noNul _ _ hc)]
  simp only [hword, ↓reduceIte, heuristicsCmdProcessExecResult, hscan]
  cases hwaiting : main.waitingForResult with
  | false => simp [hwaiting]
  | true =>
    by_cases hseq : seqNumber = main.expectedReplySeqNumber
    · simp [hseq]
    · simp [hseq, hwaiting]

/-- What the lines of some results do to the main process. -/
structure ResultsKeep (replies : List HeuristicsReply) (lines : Nat)
    (main main' : HeuristicsInstance) : Prop where
  inv : MainInv main'
  notified : NotifiedInv replies main'
  sent : main'.sent = main.sent
  issued : main'.issued = main.issued
  outList : main'.cmdOutBufferList = main.cmdOutBufferList
  lines : main'.lines = main.lines + lines

/-- A result for the run of an outstanding exec command is ignored, or it is for the last exec
    command and the notifiers are called for the first time since then. -/
theorem heuristicsCmdProcessLine_inv (notify : Nat → Bool) {replies : List HeuristicsReply}
    {main : HeuristicsInstance} {reply : HeuristicsReply} (hinv : MainInv main)
    (hnotified : NotifiedInv replies main) (hmem : reply ∈ replies)
    (hknown : ∀ number, reply.2.2 ≠ .unknown number) {issue : Nat} {timeout : UInt32}
    (hrun : main.sent[reply.1]? = some (.exec issue timeout reply.2.1))
    (hrecent : main.issued < issue + 2 ^ 32) :
    ResultsKeep replies 1 main (heuristicsCmdProcessLine notify reply.text main).2 := by
  obtain ⟨run, seqNumber, execResult⟩ := reply
  rw [HeuristicsReply.text, heuristicsCmdProcessLine_text]
  split
  · next hcalled =>
    obtain ⟨hwaiting, hseq⟩ := hcalled
    obtain ⟨hle, hnumber⟩ := hinv.issues _ _ _ (List.mem_of_getElem? hrun)
    have hlast : issue = main.issued := eq_of_ofNat_eq hle hrecent (by
      rw [← hnumber, ← hinv.expected]
      exact hseq)
    subst hlast
    have hlength := hinv.waiting hwaiting _ _ _ hrun
    refine ⟨{ hinv with waiting := (fun h => by cases h) }, ⟨?_, ?_⟩, rfl, rfl, rfl, rfl⟩
    · intro n hn
      obtain hn | hn := List.mem_append.mp hn
      · exact { hnotified.each n hn with waiting := (fun h => by cases h) }
      · rw [List.mem_singleton.mp hn]
        refine ⟨hnumber, Nat.le_refl _, (fun h => by cases h),
          fun hpass => ⟨run, timeout, ?_, hrun, ?_⟩⟩
        · rw [ofNumber_number hknown] at hpass
          exact hpass ▸ hmem
        · rw [← listAt_exec hrun, hlength]
          exact hinv.execList
    · rw [List.map_append, List.pairwise_append]
      refine ⟨hnotified.increasing, List.pairwise_singleton _ _, fun m hm m' hm' => ?_⟩
      obtain ⟨n, hn, rfl⟩ := List.mem_map.mp hm
      rw [List.mem_singleton.mp hm']
      exact (hnotified.each n hn).waiting hwaiting
  · exact ⟨{ hinv with }, ⟨fun n hn => { hnotified.each n hn with }, hnotified.increasing⟩,
      rfl, rfl, rfl, rfl⟩

/-- The lines of some results. -/
theorem handleAll_results (notify : Nat → Bool) {replies : List HeuristicsReply}
    {main : HeuristicsInstance} (hinv : MainInv main) (hnotified : NotifiedInv replies main)
    (done : List HeuristicsReply)
    (hdone : ∀ reply ∈ done, reply ∈ replies ∧ (∀ number, reply.2.2 ≠ .unknown number) ∧
      ∃ issue timeout, main.sent[reply.1]? = some (.exec issue timeout reply.2.1) ∧
        main.issued < issue + 2 ^ 32) :
    ∃ lines, ResultsKeep replies lines main
        (Text.handleAll (heuristicsCmdProcessLine notify) (done.map HeuristicsReply.text) main).2 ∧
      ((Text.handleAll (heuristicsCmdProcessLine notify) (done.map HeuristicsReply.text) main).1 =
        true → lines = done.length) := by
  induction done generalizing main with
  | nil => exact ⟨0, ⟨hinv, hnotified, rfl, rfl, rfl, rfl⟩, fun _ => rfl⟩
  | cons reply done ih =>
    obtain ⟨hmem, hknown, issue, timeout, hrun, hrecent⟩ := hdone reply List.mem_cons_self
    have hkeep := heuristicsCmdProcessLine_inv notify hinv hnotified hmem hknown hrun hrecent
    rw [List.map_cons, Text.handleAll]
    cases hline : heuristicsCmdProcessLine notify reply.text main with
    | mk ok main₁ =>
      rw [hline] at hkeep
      cases ok with
      | false => exact ⟨1, hkeep, (fun h => by cases h)⟩
      | true =>
        obtain ⟨lines, hkeep', hlines⟩ := ih hkeep.inv hkeep.notified fun r hr => by
          rw [hkeep.sent, hkeep.issued]
          exact hdone r (List.mem_cons_of_mem _ hr)
        refine ⟨lines + 1, ⟨hkeep'.inv, hkeep'.notified, hkeep'.sent.trans hkeep.sent,
          hkeep'.issued.trans hkeep.issued, hkeep'.outList.trans hkeep.outList, ?_⟩, fun hok => ?_⟩
        · rw [hkeep'.lines, hkeep.lines]
          omega
        · rw [hlines hok, List.length_cons]

/-! ### Sending commands -/

theorem listAt_length (sent : List HeuristicsCmd) :
    listAt sent sent.length = sent.foldl HeuristicsCmd.applyTo [] := by
  rw [listAt, List.take_length]

/-- What the notifiers were told stays so when more commands are sent, and a new wait is for a
    new exec command. -/
theorem NotifiedInv.send {replies : List HeuristicsReply} {main main' : HeuristicsInstance}
    (h : NotifiedInv replies main) {more : List HeuristicsCmd}
    (hsent : main'.sent = main.sent ++ more) (hnotes : main'.notifications = main.notifications)
    (hissued : main.issued ≤ main'.issued)
    (hwaiting : main'.waitingForResult = true →
      main.waitingForResult = true ∨ main.issued < main'.issued) : NotifiedInv replies main' where
  each n hn := by
    rw [hnotes] at hn
    have hinv := h.each n hn
    refine ⟨hinv.seqNumber, Nat.le_trans hinv.issued hissued, fun hwait => ?_, fun hpass => ?_⟩
    · obtain hold | hnew := hwaiting hwait
      · exact Nat.lt_of_lt_of_le (hinv.waiting hold) hissued
      · exact Nat.lt_of_le_of_lt hinv.issued hnew
    · obtain ⟨run, timeout, hmem, hrun, hlist⟩ := hinv.pass hpass
      have hlt : run < main.sent.length := (List.getElem?_eq_some_iff.mp hrun).1
      refine ⟨run, timeout, hmem, ?_, ?_⟩
      · rw [hsent, List.getElem?_append_left hlt]
        exact hrun
      · rw [hsent, listAt_append (Nat.le_of_lt hlt)]
        exact hlist
  increasing := by
    rw [hnotes]
    exact h.increasing

/-- The exec command is queued, or there is no buffer for it. -/
theorem heuristicsExec_cases (syncInProgress : Bool) (main : HeuristicsInstance) :
    ∃ cmds, Queued cmds { main with
        expectedReplySeqNumber := main.expectedReplySeqNumber + 1
        waitingForResult := true
        issued := main.issued + 1 } (heuristicsExec syncInProgress main).2 ∧
      (cmds = [] ∨ ∃ timeout,
        cmds = [.exec (main.issued + 1) timeout (main.expectedReplySeqNumber + 1)]) := by
  simp only [heuristicsExec, heuristicsCmdWriteExec]
  generalize (if syncInProgress = true then main.syncTimeout else main.timeout) = timeout
  generalize hmain : { main with
    expectedReplySeqNumber := main.expectedReplySeqNumber + 1
    waitingForResult := true
    issued := main.issued + 1 } = main₁
  cases hqueue : heuristicsCmdQueue
      (.exec (main.issued + 1) timeout (main.expectedReplySeqNumber + 1))
      (heuristicsCmdExec timeout (main.expectedReplySeqNumber + 1)) main₁ with
  | mk ok main' =>
    cases ok with
    | false => exact ⟨[], heuristicsCmdQueue_false hqueue, .inl rfl⟩
    | true =>
      exact ⟨_, heuristicsCmdQueue_true (heuristicsCmdExec_filled _ _ _) hqueue, .inr ⟨timeout, rfl⟩⟩

/-- `qdevice_heuristics_exec`, also when it fails. -/
theorem SentInv.exec {main : HeuristicsInstance} (h : SentInv main) (syncInProgress : Bool) :
    MainInv (heuristicsExec syncInProgress main).2 := by
  obtain ⟨cmds, hqueued, hcmds⟩ := heuristicsExec_cases syncInProgress main
  have hnumber : main.expectedReplySeqNumber + 1 = UInt32.ofNat (main.issued + 1) := by
    rw [h.expected, UInt32.ofNat_add]
    rfl
  have hold : ∀ issue timeout seqNumber, .exec issue timeout seqNumber ∈ main.sent →
      issue ≠ main.issued + 1 := by
    intro issue timeout seqNumber hmem heq
    have hle := (h.issues issue timeout seqNumber hmem).1
    omega
  generalize (heuristicsExec syncInProgress main).2 = main' at hqueued ⊢
  have hsent : main'.sent = main.sent ++ cmds := hqueued.sent
  have hissued : main'.issued = main.issued + 1 := hqueued.issued
  refine ⟨⟨fun cmd hcmd => ?_, fun issue timeout seqNumber hmem => ?_, ?_, ?_⟩,
    fun _ line timeout seqNumber hline => ?_⟩
  · rw [hsent] at hcmd
    obtain hcmd | hcmd := List.mem_append.mp hcmd
    · exact h.valid cmd hcmd
    · obtain rfl | ⟨timeout, rfl⟩ := hcmds
      · exact absurd hcmd List.not_mem_nil
      · rw [List.mem_singleton.mp hcmd]
        trivial
  · rw [hsent] at hmem
    rw [hissued]
    obtain hmem | hmem := List.mem_append.mp hmem
    · obtain ⟨hle, hseq⟩ := h.issues issue timeout seqNumber hmem
      exact ⟨Nat.le_succ_of_le hle, hseq⟩
    · obtain rfl | ⟨timeout, rfl⟩ := hcmds
      · exact absurd hmem List.not_mem_nil
      · cases List.mem_singleton.mp hmem
        exact ⟨Nat.le_refl _, hnumber⟩
  · rw [hqueued.execList, hsent, listAt_length, List.foldl_append, ← listAt_length]
    obtain rfl | ⟨timeout, rfl⟩ := hcmds
    · exact h.execList
    · exact h.execList
  · rw [hissued, ← hnumber]
    exact hqueued.expected
  · -- The new command, if it was sent, is the only one with this number.
    rw [hsent, hissued] at hline
    rw [hsent, List.length_append]
    by_cases hlt : line < main.sent.length
    · rw [List.getElem?_append_left hlt] at hline
      exact absurd rfl (hold _ _ _ (List.mem_of_getElem? hline))
    · rw [List.getElem?_append_right (Nat.not_lt.mp hlt)] at hline
      obtain rfl | ⟨timeout, rfl⟩ := hcmds
      · cases hline
      · have hbound := (List.getElem?_eq_some_iff.mp hline).1
        rw [List.length_singleton] at hbound ⊢
        omega

/-- What sending commands does to the main process, as far as the worker and the results are
    concerned. -/
structure Sends (more : List HeuristicsCmd) (main main' : HeuristicsInstance) : Prop where
  sent : main'.sent = main.sent ++ more
  pending : main'.cmdOutBufferList.pending =
    main.cmdOutBufferList.pending ++ Text.joinLines (more.map HeuristicsCmd.text)
  inBuffer : main'.cmdInBuffer = main.cmdInBuffer
  lines : main'.lines = main.lines
  notifications : main'.notifications = main.notifications
  issued : main.issued ≤ main'.issued
  waiting : main'.waitingForResult = true →
    main.waitingForResult = true ∨ main.issued < main'.issued

theorem Sends.trans {more more' : List HeuristicsCmd} {main main₁ main' : HeuristicsInstance}
    (h : Sends more main main₁) (h' : Sends more' main₁ main') :
    Sends (more ++ more') main main' where
  sent := by rw [h'.sent, h.sent, List.append_assoc]
  pending := by
    rw [h'.pending, h.pending, List.map_append, Text.joinLines_append, List.append_assoc]
  inBuffer := h'.inBuffer.trans h.inBuffer
  lines := h'.lines.trans h.lines
  notifications := h'.notifications.trans h.notifications
  issued := Nat.le_trans h.issued h'.issued
  waiting hwait := by
    obtain hold | hnew := h'.waiting hwait
    · obtain hold | hnew := h.waiting hold
      · exact .inl hold
      · exact .inr (Nat.lt_of_lt_of_le hnew h'.issued)
    · exact .inr (Nat.lt_of_le_of_lt h.issued hnew)

theorem heuristicsExec_sends (syncInProgress : Bool) (main : HeuristicsInstance) :
    ∃ more, Sends more main (heuristicsExec syncInProgress main).2 := by
  obtain ⟨cmds, hqueued, _⟩ := heuristicsExec_cases syncInProgress main
  have hissued : (heuristicsExec syncInProgress main).2.issued = main.issued + 1 := hqueued.issued
  have hlt : main.issued < (heuristicsExec syncInProgress main).2.issued := by
    rw [hissued]
    exact Nat.lt_succ_self _
  exact ⟨cmds, hqueued.sent, hqueued.pending, hqueued.inBuffer, hqueued.lines,
    hqueued.notifications, Nat.le_of_lt hlt, fun _ => .inr hlt⟩

/-- A new exec list is sent as a whole, and replaces the one of the main process. -/
theorem SentInv.newList {main main' : HeuristicsInstance} (h : SentInv main)
    {list : HeuristicsExecList} (hlist : ∀ entry ∈ list, entry.Valid)
    (hqueued : Queued (.execListClear :: list.map .execListAdd) main main') :
    SentInv { main' with execList := list } where
  valid cmd hcmd := by
    rw [hqueued.sent] at hcmd
    obtain hcmd | hcmd := List.mem_append.mp hcmd
    · exact h.valid cmd hcmd
    · obtain rfl | hcmd := List.mem_cons.mp hcmd
      · trivial
      · obtain ⟨entry, hentry, rfl⟩ := List.mem_map.mp hcmd
        exact hlist entry hentry
  issues issue timeout seqNumber hmem := by
    have hmem : HeuristicsCmd.exec issue timeout seqNumber ∈ main.sent := by
      have hmem : HeuristicsCmd.exec issue timeout seqNumber ∈ main'.sent := hmem
      rw [hqueued.sent] at hmem
      obtain hmem | hmem := List.mem_append.mp hmem
      · exact hmem
      · simp at hmem
    show issue ≤ main'.issued ∧ _
    rw [hqueued.issued]
    exact h.issues issue timeout seqNumber hmem
  execList := by
    show _ = listAt main'.sent main'.sent.length
    rw [hqueued.sent, listAt_length, List.foldl_append, List.foldl_cons, foldl_applyTo_adds]
    rfl
  expected := by
    show main'.expectedReplySeqNumber = UInt32.ofNat main'.issued
    rw [hqueued.expected, hqueued.issued, h.expected]

/-- `qdevice_heuristics_change_exec_list`, when it succeeds. -/
theorem heuristicsChangeExecList_true {newExecList : Option HeuristicsExecList}
    {syncInProgress : Bool} {main main' : HeuristicsInstance} (hinv : SentInv main)
    (hlist : ∀ entry ∈ newExecList.getD [], entry.Valid)
    (h : heuristicsChangeExecList newExecList syncInProgress main = (true, main')) :
    MainInv main' ∧ ∃ more, Sends more main main' := by
  rw [heuristicsChangeExecList] at h
  split at h
  · cases h
  · next main₁ hwrite =>
    have hqueued := heuristicsCmdWriteExecList_true hwrite
    have hnew := hinv.newList hlist hqueued
    have hsends : Sends (.execListClear :: (newExecList.getD []).map .execListAdd) main
        { main₁ with execList := newExecList.getD [] } :=
      ⟨hqueued.sent, hqueued.pending, hqueued.inBuffer, hqueued.lines, hqueued.notifications,
        Nat.le_of_eq hqueued.issued.symm, fun hwait => .inl (hqueued.waiting ▸ hwait)⟩
    dsimp only at h
    split at h
    · -- A run that is waited for is started again with the new list.
      obtain ⟨more, hexec⟩ := heuristicsExec_sends syncInProgress
        { main₁ with execList := newExecList.getD [] }
      have hmain := hnew.exec syncInProgress
      rw [h] at hexec hmain
      exact ⟨hmain, _, hsends.trans hexec⟩
    · next hidle =>
      obtain rfl := congrArg Prod.snd h
      exact ⟨{ hnew with waiting := fun hwait => absurd hwait hidle }, _, hsends⟩

/-! ### The streams -/

/-- Writing moves bytes from the send list to the pipe, and does nothing else. -/
theorem heuristicsCmdWrite_cases {write : PipeWrite} {main main' : HeuristicsInstance} {ok : Bool}
    {bytes : List UInt8} (h : heuristicsCmdWrite write main = (ok, bytes, main')) :
    main.cmdOutBufferList.pending = bytes ++ main'.cmdOutBufferList.pending ∧
      main' = { main with cmdOutBufferList := main'.cmdOutBufferList } := by
  have hnothing : (ok, bytes, main') = (ok, [], main) →
      main.cmdOutBufferList.pending = bytes ++ main'.cmdOutBufferList.pending ∧
        main' = { main with cmdOutBufferList := main'.cmdOutBufferList } := by
    intro heq
    cases heq
    exact ⟨rfl, rfl⟩
  cases ok with
  | false =>
    refine hnothing ?_
    simp only [heuristicsCmdWrite] at h
    split at h
    · exact h.symm
    · split at h
      · cases h
      · exact h.symm
      · split at h
        · exact h.symm
        · split at h
          · cases h
          · cases h
  | true =>
    cases write with
    | wrote n =>
      refine ⟨heuristicsCmdWrite_true h, ?_⟩
      simp only [heuristicsCmdWrite] at h
      split at h
      · cases h
      · split at h
        · cases h
        · split at h
          · cases h
            rfl
          · cases h
            rfl
    | again =>
      simp only [heuristicsCmdWrite] at h
      split at h
      · cases h
      · exact hnothing h.symm
    | error =>
      simp only [heuristicsCmdWrite] at h
      split at h
      · cases h
      · cases h

/-- The bytes from a reader's buffer on are the lines it has not processed yet. -/
structure Stream (buffer : Dynar) (ahead : List UInt8) (lines : List (List UInt8)) : Prop where
  eq : buffer.data ++ ahead = Text.joinLines lines
  noEnd : ∀ c ∈ buffer.data, Text.isLineEnd c = false

/-- A read from a pipe that holds part of a stream: some lines are handled, and if nothing fails
    the rest of the stream is still ahead. -/
theorem heuristicsReadLines_input {σ : Type} (processLine : List UInt8 → σ → Bool × σ)
    {lines : List (List UInt8)} (hlines : ∀ line ∈ lines, Text.IsLine line) {buffer : Dynar}
    {pipe future : List UInt8} (h : Stream buffer (pipe ++ future) lines) {input : PipeInput}
    {read : PipeRead} (hread : input.read pipe = some read) (s : σ) :
    ∃ done todo, lines = done ++ todo ∧
      (heuristicsReadLines processLine read buffer s).2.2 = (Text.handleAll processLine done s).2 ∧
      ((heuristicsReadLines processLine read buffer s).1 = true →
        (Text.handleAll processLine done s).1 = true ∧
        Stream (heuristicsReadLines processLine read buffer s).2.1
          (pipe.drop input.taken ++ future) todo) := by
  obtain ⟨heq, hnoEnd⟩ := h
  cases input with
  | bytes n =>
    simp only [PipeInput.read] at hread
    split at hread
    · cases hread
    · obtain rfl := Option.some.inj hread
      by_cases hfit : buffer.data.length + (pipe.take n).length ≤ buffer.maximumSize
      · have hstream : buffer.data ++ pipe.take n ++ (pipe.drop n ++ future) =
            Text.joinLines lines := by
          rw [← heq, List.append_assoc, ← List.append_assoc (pipe.take n), List.take_append_drop]
        obtain ⟨done, todo, part, hsplit, hpart, hend, hok, hs, hbuffer⟩ :=
          heuristicsReadLines_stream processLine hlines hstream hnoEnd hfit s
        refine ⟨done, todo, hsplit, hs, fun htrue => ?_⟩
        rw [hok] at htrue
        rw [hbuffer htrue]
        exact ⟨htrue, hpart, hend⟩
      · rw [heuristicsReadLines_too_long (Nat.not_le.mp hfit)]
        exact ⟨[], lines, rfl, rfl, (fun h => by cases h)⟩
  | again =>
    obtain rfl := Option.some.inj hread
    exact ⟨[], lines, rfl, rfl, fun _ => ⟨rfl, heq, hnoEnd⟩⟩
  | closed =>
    obtain rfl := Option.some.inj hread
    exact ⟨[], lines, rfl, rfl, (fun h => by cases h)⟩
  | error =>
    obtain rfl := Option.some.inj hread
    exact ⟨[], lines, rfl, rfl, (fun h => by cases h)⟩

/-- The main process and the worker, with all lines accounted for. -/
structure SystemInv (s : HeuristicsSystem) : Prop where
  worker : WorkerInv s.main.sent s.worker
  main : MainInv s.main
  notified : NotifiedInv s.worker.replies s.main
  commands : s.workerRunning = true → Stream s.worker.cmdInBuffer
    (s.cmdPipe ++ s.main.cmdOutBufferList.pending)
    ((s.main.sent.drop s.worker.lines).map HeuristicsCmd.text)
  results : s.mainRunning = true → Stream s.main.cmdInBuffer s.resultPipe
    ((s.worker.replies.drop s.main.lines).map HeuristicsReply.text)
  resultsRead : s.resultsRead ≤ s.worker.cmdOut.length
  lines : s.mainRunning = true → s.main.lines ≤ s.worker.replies.length

namespace SystemInv

variable {s : HeuristicsSystem}

/-- The main process sends commands. -/
theorem send (h : SystemInv s) {more : List HeuristicsCmd} {main' : HeuristicsInstance}
    (hinv : MainInv main') (hsends : Sends more s.main main') :
    SystemInv { s with main := main' } where
  worker := by
    show WorkerInv main'.sent s.worker
    rw [hsends.sent]
    exact h.worker.append more
  main := hinv
  notified := h.notified.send hsends.sent hsends.notifications hsends.issued hsends.waiting
  commands hrunning := by
    obtain ⟨heq, hnoEnd⟩ := h.commands hrunning
    refine ⟨?_, hnoEnd⟩
    show s.worker.cmdInBuffer.data ++ (s.cmdPipe ++ main'.cmdOutBufferList.pending) = _
    rw [hsends.pending, hsends.sent, List.drop_append_of_le_length h.worker.lines_le,
      List.map_append, Text.joinLines_append, ← heq]
    simp only [List.append_assoc]
  results hrunning := by
    show Stream main'.cmdInBuffer s.resultPipe ((s.worker.replies.drop main'.lines).map _)
    rw [hsends.inBuffer, hsends.lines]
    exact h.results hrunning
  resultsRead := h.resultsRead
  lines hrunning := by
    show main'.lines ≤ s.worker.replies.length
    rw [hsends.lines]
    exact h.lines hrunning

/-- The main process ends. -/
theorem mainEnds (h : SystemInv s) : SystemInv { s with mainRunning := false } :=
  { h with results := (fun h => by cases h), lines := (fun h => by cases h) }

/-- Commands move from the send list to the pipe. -/
theorem write (h : SystemInv s) {write : PipeWrite} {ok : Bool} {bytes : List UInt8}
    {main' : HeuristicsInstance} (hwrite : heuristicsCmdWrite write s.main = (ok, bytes, main'))
    (hrunning : s.mainRunning = true) :
    SystemInv { s with main := main', mainRunning := ok, cmdPipe := s.cmdPipe ++ bytes } := by
  obtain ⟨hpending, hmain⟩ := heuristicsCmdWrite_cases hwrite
  generalize main'.cmdOutBufferList = sblist at hpending hmain
  subst hmain
  refine {
    worker := h.worker
    main := { h.main with }
    notified := ⟨fun n hn => { h.notified.each n hn with }, h.notified.increasing⟩
    commands := fun hworker => ⟨?_, (h.commands hworker).noEnd⟩
    results := fun _ => h.results hrunning
    resultsRead := h.resultsRead
    lines := fun _ => h.lines hrunning }
  rw [← (h.commands hworker).eq, hpending]
  simp only [List.append_assoc]

/-- An unread result is for the run of an exec command that is outstanding. -/
theorem outstanding (h : SystemInv s) {reply : HeuristicsReply}
    (hreply : reply ∈ s.worker.replies.drop s.main.lines)
    (hok : ∀ issue ∈ s.outstanding, s.main.issued < issue + 2 ^ 32) :
    reply ∈ s.worker.replies ∧ (∀ number, reply.2.2 ≠ .unknown number) ∧
      ∃ issue timeout, s.main.sent[reply.1]? = some (.exec issue timeout reply.2.1) ∧
        s.main.issued < issue + 2 ^ 32 := by
  have hmem := List.mem_of_mem_drop hreply
  have hinv := h.worker.replies reply hmem
  obtain ⟨issue, timeout, hrun⟩ := hinv.isRun
  refine ⟨hmem, hinv.known, issue, timeout, hrun, hok issue ?_⟩
  have hissue : issue ∈ (s.worker.replies.drop s.main.lines).filterMap
      fun reply => s.main.sent[reply.1]?.bind HeuristicsCmd.issue? :=
    List.mem_filterMap.mpr ⟨reply, hreply, by rw [hrun]; rfl⟩
  exact List.mem_append_left _ (List.mem_append_left _ hissue)

/-- The main process reads results. -/
theorem readResults (h : SystemInv s) {input : PipeInput} {notify : Nat → Bool}
    {s' : HeuristicsSystem} (hrunning : s.mainRunning = true)
    (hok : ∀ issue ∈ s.outstanding, s.main.issued < issue + 2 ^ 32)
    (hstep : s.readResults input notify = some s') : SystemInv s' := by
  rw [HeuristicsSystem.readResults] at hstep
  split at hstep
  · cases hstep
  · next read hread =>
    have hlines : ∀ line ∈ (s.worker.replies.drop s.main.lines).map HeuristicsReply.text,
        Text.IsLine line := by
      intro line hline
      obtain ⟨reply, _, rfl⟩ := List.mem_map.mp hline
      exact heuristicsResultText_isLine _ _
    have hstream : Stream s.main.cmdInBuffer (s.resultPipe ++ [])
        ((s.worker.replies.drop s.main.lines).map HeuristicsReply.text) := by
      rw [List.append_nil]
      exact h.results hrunning
    -- The lines that have come are the next replies of the worker.
    obtain ⟨done, todo, hsplit, hmain, htrue⟩ := heuristicsReadLines_input
      (heuristicsCmdProcessLine notify) hlines hstream hread s.main
    obtain ⟨done, todo, hdrop, rfl, rfl⟩ := List.map_eq_append_iff.mp hsplit
    -- A reply is to an issue that is still outstanding, so its number is not used again yet.
    obtain ⟨lines, hkeep, hcount⟩ := handleAll_results notify h.main h.notified done
      fun reply hreply => h.outstanding (by rw [hdrop]; exact List.mem_append_left _ hreply) hok
    rw [← hmain] at hkeep
    rw [heuristicsCmdReadFromPipe] at hstep
    generalize heuristicsReadLines (heuristicsCmdProcessLine notify) read s.main.cmdInBuffer s.main =
      res at hkeep htrue hstep
    obtain ⟨ok, buffer, main'⟩ := res
    obtain rfl := Option.some.inj hstep
    have hlength : done.length + todo.length = s.worker.replies.length - s.main.lines := by
      rw [← List.length_drop, hdrop, List.length_append]
    refine {
      worker := ?_
      main := { hkeep.inv with }
      notified := ⟨fun n hn => { hkeep.notified.each n hn with }, hkeep.notified.increasing⟩
      commands := ?_
      results := fun hmainOk => ?_
      resultsRead := Nat.min_le_right _ _
      lines := fun hmainOk => ?_ }
    · show WorkerInv main'.sent s.worker
      rw [hkeep.sent]
      exact h.worker
    · show s.workerRunning = true → Stream s.worker.cmdInBuffer
        (s.cmdPipe ++ main'.cmdOutBufferList.pending) ((main'.sent.drop s.worker.lines).map _)
      rw [hkeep.sent, hkeep.outList]
      exact h.commands
    · obtain ⟨hall, hrest⟩ := htrue hmainOk
      have hpipe : s.worker.cmdOut.drop
          (min (s.resultsRead + input.taken) s.worker.cmdOut.length) =
          s.resultPipe.drop input.taken ++ [] := by
        rw [List.append_nil, HeuristicsSystem.resultPipe, List.drop_drop]
        obtain hle | hle := Nat.le_total (s.resultsRead + input.taken) s.worker.cmdOut.length
        · rw [Nat.min_eq_left hle]
        · rw [Nat.min_eq_right hle, List.drop_length, List.drop_of_length_le hle]
      show Stream buffer (s.worker.cmdOut.drop _) ((s.worker.replies.drop main'.lines).map _)
      rw [hpipe, hkeep.lines, hcount hall, ← List.drop_drop, hdrop, List.drop_left]
      exact hrest
    · have hle := h.lines hrunning
      show main'.lines ≤ s.worker.replies.length
      rw [hkeep.lines, hcount (htrue hmainOk).1]
      omega

end SystemInv

/-- What a turn of the worker's loop does: afterwards the rest of the commands is still ahead. -/
structure WorkerTurn (sent : List HeuristicsCmd) (ahead : List UInt8) (w : HeuristicsWorker)
    (res : Bool × HeuristicsWorker) : Prop where
  inv : WorkerInv sent res.2
  replies : w.replies <+: res.2.replies
  commands : res.1 = true → Stream res.2.cmdInBuffer ahead
    ((sent.drop res.2.lines).map HeuristicsCmd.text)

/-- Reading commands. -/
theorem heuristicsWorkerCmdReadFromPipe_turn (env : HeuristicsWorkerEnv)
    {sent : List HeuristicsCmd} (hvalid : ∀ cmd ∈ sent, cmd.Valid) {w : HeuristicsWorker}
    (h : WorkerInv sent w) {pipe future : List UInt8}
    (hstream : Stream w.cmdInBuffer (pipe ++ future)
      ((sent.drop w.lines).map HeuristicsCmd.text)) {input : PipeInput} {read : PipeRead}
    (hread : input.read pipe = some read) :
    WorkerTurn sent (pipe.drop input.taken ++ future) w
      (heuristicsWorkerCmdReadFromPipe env read w) := by
  have hlines : ∀ line ∈ (sent.drop w.lines).map HeuristicsCmd.text, Text.IsLine line := by
    intro line hline
    obtain ⟨cmd, hcmd, rfl⟩ := List.mem_map.mp hline
    exact (hvalid cmd (List.mem_of_mem_drop hcmd)).isLine
  obtain ⟨done, todo, hsplit, hworker, htrue⟩ := heuristicsReadLines_input
    (heuristicsWorkerCmdProcessLine env) hlines hstream hread w
  obtain ⟨done, todo, hdrop, rfl, rfl⟩ := List.map_eq_append_iff.mp hsplit
  obtain ⟨hinv, _, hreplies, hcount⟩ := handleAll_inv env h hdrop hvalid
  rw [← hworker] at hinv hreplies hcount
  rw [heuristicsWorkerCmdReadFromPipe]
  generalize heuristicsReadLines (heuristicsWorkerCmdProcessLine env) read w.cmdInBuffer w = res
    at hinv hreplies hcount htrue
  obtain ⟨ok, buffer, w'⟩ := res
  refine ⟨hinv.withInput buffer, hreplies, fun hok => ?_⟩
  obtain ⟨hall, hrest⟩ := htrue hok
  show Stream buffer _ ((sent.drop w'.lines).map _)
  rw [hcount hall, ← List.drop_drop, hdrop, List.drop_left]
  exact hrest

/-- One turn of the worker's loop after its commands were read. -/
theorem WorkerTurn.poll {sent : List HeuristicsCmd} {ahead : List UInt8} {w w₁ : HeuristicsWorker}
    (h : WorkerTurn sent ahead w (true, w₁)) (waitpid : Nat → Waitpid)
    (timers : List HeuristicsWorkerTimer) :
    WorkerTurn sent ahead w (heuristicsWorkerPollProcesses waitpid timers w₁) := by
  obtain ⟨hinv, hbuffer, hreplies, hlines⟩ := heuristicsWorkerPollProcesses_inv waitpid timers h.inv
  refine ⟨hinv, h.replies.trans hreplies, fun hok => ?_⟩
  rw [hbuffer, hlines hok]
  exact h.commands rfl

namespace SystemInv

variable {s : HeuristicsSystem}

/-- A turn of the worker's loop, as the system sees it. -/
theorem turn (h : SystemInv s) {cmdPipe : List UInt8} {ok : Bool} {worker : HeuristicsWorker}
    (hturn : WorkerTurn s.main.sent (cmdPipe ++ s.main.cmdOutBufferList.pending) s.worker
      (ok, worker)) :
    SystemInv { s with worker := worker, workerRunning := ok, cmdPipe := cmdPipe } := by
  obtain ⟨more, hmore⟩ : s.worker.replies <+: worker.replies := hturn.replies
  have hout : worker.cmdOut = s.worker.cmdOut ++ Text.joinLines (more.map HeuristicsReply.text) := by
    rw [hturn.inv.cmdOut, h.worker.cmdOut, ← hmore, List.map_append, Text.joinLines_append]
  exact {
    worker := hturn.inv
    main := h.main
    notified := by
      refine ⟨fun n hn => { h.notified.each n hn with pass := fun hpass => ?_ },
        h.notified.increasing⟩
      obtain ⟨run, timeout, hmem, hrest⟩ := (h.notified.each n hn).pass hpass
      exact ⟨run, timeout, hturn.replies.subset hmem, hrest⟩
    commands := hturn.commands
    results := fun hrunning => by
      obtain ⟨heq, hnoEnd⟩ := h.results hrunning
      refine ⟨?_, hnoEnd⟩
      show s.main.cmdInBuffer.data ++ worker.cmdOut.drop s.resultsRead = _
      rw [hout, List.drop_append_of_le_length h.resultsRead, ← List.append_assoc]
      show _ = Text.joinLines ((worker.replies.drop s.main.lines).map HeuristicsReply.text)
      rw [← hmore, List.drop_append_of_le_length (h.lines hrunning), List.map_append,
        Text.joinLines_append]
      exact congrArg (· ++ _) heq
    resultsRead := by
      have hle := h.resultsRead
      show s.resultsRead ≤ worker.cmdOut.length
      rw [hout, List.length_append]
      omega
    lines := fun hrunning => Nat.le_trans (h.lines hrunning) hturn.replies.length_le }

/-- One turn of the worker's loop. -/
theorem pollWorker (h : SystemInv s) {env : HeuristicsWorkerEnv} {poll : PipePoll}
    {waitpid : Nat → Waitpid} {timers : List HeuristicsWorkerTimer} {s' : HeuristicsSystem}
    (hrunning : s.workerRunning = true)
    (hstep : s.pollWorker env poll waitpid timers = some s') : SystemInv s' := by
  have hstart : WorkerTurn s.main.sent (s.cmdPipe.drop 0 ++ s.main.cmdOutBufferList.pending)
      s.worker (true, s.worker) := ⟨h.worker, List.prefix_rfl, fun _ => h.commands hrunning⟩
  cases poll with
  | nothing =>
    obtain rfl := Option.some.inj hstep
    exact h.turn (hstart.poll waitpid timers)
  | hangup =>
    obtain rfl := Option.some.inj hstep
    exact h.turn ⟨h.worker, List.prefix_rfl, (fun h => by cases h)⟩
  | readable input =>
    simp only [HeuristicsSystem.pollWorker] at hstep
    split at hstep
    · cases hstep
    · next read hread =>
      obtain rfl := Option.some.inj hstep
      refine h.turn ?_
      have hturn := heuristicsWorkerCmdReadFromPipe_turn env h.main.valid h.worker
        (h.commands hrunning) hread
      rw [heuristicsWorkerPoll]
      cases hcmds : heuristicsWorkerCmdReadFromPipe env read s.worker with
      | mk ok w₁ =>
        rw [hcmds] at hturn
        cases ok with
        | false => exact hturn
        | true => exact hturn.poll waitpid timers

/-- Every step keeps the lines accounted for. -/
theorem step (h : SystemInv s) {e : HeuristicsEvent} {s' : HeuristicsSystem} (hok : HeuristicsOk s e)
    (hstep : heuristicsStep s e = some s') : SystemInv s' := by
  obtain ⟨hvalid, hrecent⟩ := hok
  cases e with
  | configure timeout syncTimeout =>
    simp only [heuristicsStep] at hstep
    split at hstep
    · obtain rfl := Option.some.inj hstep
      exact { h with
        main := { h.main with }
        notified := ⟨fun n hn => { h.notified.each n hn with }, h.notified.increasing⟩ }
    · cases hstep
  | exec syncInProgress =>
    simp only [heuristicsStep] at hstep
    split at hstep
    · obtain rfl := Option.some.inj hstep
      obtain ⟨more, hsends⟩ := heuristicsExec_sends syncInProgress s.main
      exact h.send (h.main.toSentInv.exec syncInProgress) hsends
    · cases hstep
  | changeExecList newExecList syncInProgress =>
    simp only [heuristicsStep] at hstep
    split at hstep
    · split at hstep
      · obtain rfl := Option.some.inj hstep
        exact h.mainEnds
      · next main hchange =>
        obtain rfl := Option.some.inj hstep
        have hlist : ∀ entry ∈ newExecList.getD [], entry.Valid := by
          cases newExecList with
          | none => exact fun _ hno => absurd hno List.not_mem_nil
          | some list => exact hvalid
        obtain ⟨hmain, more, hsends⟩ :=
          heuristicsChangeExecList_true h.main.toSentInv hlist hchange
        exact h.send hmain hsends
    · cases hstep
  | write write =>
    simp only [heuristicsStep] at hstep
    split at hstep
    · next hguard =>
      obtain rfl := Option.some.inj hstep
      exact h.write rfl hguard.1
    · cases hstep
  | read input notify =>
    simp only [heuristicsStep] at hstep
    split at hstep
    · next hrunning => exact h.readResults hrunning hrecent hstep
    · cases hstep
  | workerPoll env poll waitpid timers =>
    simp only [heuristicsStep] at hstep
    split at hstep
    · next hrunning => exact h.pollWorker hrunning hstep
    · cases hstep

end SystemInv

/-! ### The result -/

theorem systemInv_of_reach {maxSendBuffers maxSendReceiveSize maxProcesses : Nat}
    {s : HeuristicsSystem} (h : HeuristicsReach maxSendBuffers maxSendReceiveSize maxProcesses s) :
    SystemInv s := by
  refine Runs.Machine.Reach.invariant SystemInv ?_ (fun _ hinv hok hstep => hinv.step hok hstep) h
  have hnil : ∀ {α : Type} {a : α} {p : Prop}, a ∈ ([] : List α) → p :=
    fun hno => absurd hno List.not_mem_nil
  exact {
    worker := ⟨Nat.le_refl _, rfl, fun _ => rfl, (fun h => by cases h),
      fun _ => hnil, fun _ => hnil, rfl⟩
    main := ⟨⟨fun _ => hnil, fun _ _ _ => hnil, rfl, rfl⟩, (fun h => by cases h)⟩
    notified := ⟨fun _ => hnil, List.Pairwise.nil⟩
    commands := fun _ => ⟨rfl, fun _ => hnil⟩
    results := fun _ => ⟨rfl, fun _ => hnil⟩
    resultsRead := Nat.le_refl _
    lines := fun _ => Nat.le_refl _ }

/-- **Heuristics results**: however the two processes interleave, the notifiers are called at most
    once for a call of `qdevice_heuristics_exec`, and only with the sequence number of the last
    one.  If they are told PASS, then for the run of that call every command of the exec list that
    the main process holds was started and exited with status 0, and the timeout callback was not
    called. -/
theorem heuristics_results {maxSendBuffers maxSendReceiveSize maxProcesses : Nat}
    {s : HeuristicsSystem} (h : HeuristicsReach maxSendBuffers maxSendReceiveSize maxProcesses s) :
    (s.main.notifications.map HeuristicsNotification.issued).Pairwise (· < ·) ∧
    (∀ issue timeout seqNumber, .exec issue timeout seqNumber ∈ s.main.sent →
      seqNumber = UInt32.ofNat issue) ∧
    ∀ n ∈ s.main.notifications, n.seqNumber = UInt32.ofNat n.issued ∧
      (n.execResult = .pass → ∃ run timeout,
        s.main.sent[run]? = some (.exec n.issued timeout n.seqNumber) ∧
        run ∉ s.worker.timedOut ∧
        ∀ entry ∈ n.execList, Passed s.worker.mainProcessList.notifications run entry.received) := by
  have hinv := systemInv_of_reach h
  refine ⟨hinv.notified.increasing, fun issue timeout seqNumber hmem =>
    (hinv.main.issues issue timeout seqNumber hmem).2, fun n hn => ?_⟩
  have hnotified := hinv.notified.each n hn
  refine ⟨hnotified.seqNumber, fun hpass => ?_⟩
  -- `pass` is a reply of the worker, which knows how each process of the run has ended.
  obtain ⟨run, timeout, hmem, hrun, hlist⟩ := hnotified.pass hpass
  obtain ⟨htimedOut, hpassed⟩ := (hinv.worker.replies _ hmem).pass rfl
  refine ⟨run, timeout, hrun, htimedOut, fun entry hentry => hpassed entry.received ?_⟩
  rw [← hlist]
  exact List.mem_map_of_mem hentry

/-- One command, and a run in which it exits with status 0. -/
private def passList : HeuristicsExecList := [⟨[97], [116, 114, 117, 101]⟩]

private def passEvents : List HeuristicsEvent :=
  [.changeExecList (some passList) false, .exec false, .write (.wrote 256), .write (.wrote 256),
    .write (.wrote 256), .workerPoll ⟨fun _ => true, fun _ => true⟩ (.readable (.bytes 256))
      (fun _ => .ended (.exited 0)) [], .read (.bytes 256) (fun _ => true)]

/-- In this run the notifiers are told PASS. -/
theorem heuristics_results_pass : ∃ s, HeuristicsReach 128 4096 160 s ∧
    s.main.notifications = [⟨1, .pass, passList, 1⟩] ∧
    ∃ run timeout, s.main.sent[run]? = some (.exec 1 timeout 1) ∧ run ∉ s.worker.timedOut ∧
      ∀ entry ∈ passList, Passed s.worker.mainProcessList.notifications run entry.received := by
  have hrun : ((heuristicsMachine 128 4096 160).execWhile (fun s e => decide (HeuristicsOk s e))
      (heuristicsMachine 128 4096 160).init passEvents).map (·.main.notifications) =
      some [⟨1, .pass, passList, 1⟩] := by decide +kernel
  obtain ⟨s, hs, hnotifications⟩ := Option.map_eq_some_iff.mp hrun
  have hreach : HeuristicsReach 128 4096 160 s :=
    Runs.Machine.Reach.execWhile (fun _ _ => of_decide_eq_true) .init hs
  refine ⟨s, hreach, hnotifications, ?_⟩
  obtain ⟨_, _, hall⟩ := heuristics_results hreach
  exact (hall ⟨1, .pass, passList, 1⟩ (by rw [hnotifications]; exact List.mem_singleton_self _)).2 rfl

end Qdevice
