import Qdevice.Native.Heuristics
import Qdevice.Native.ProcessList

/-! # The heuristics worker

`qdevice-heuristics-worker.c` and `qdevice-heuristics-worker-cmd.c`.  The worker reads commands
from one pipe, runs the commands of its exec list, and writes results to another pipe.  A command
line is known by how many lines were processed before it; the run of an `exec` command is known
by that line.  A `Bool` result is `true` for the return value 0. -/

namespace Qdevice

/-- What the system decides while commands are processed: whether `fork` succeeds, by the number
    of the new process, and whether the exec timer can be added, by command line. -/
structure HeuristicsWorkerEnv where
  fork : Nat → Bool
  timerAdd : Nat → Bool

/-- `struct qdevice_heuristics_worker_instance`.  `cmdOut` is all that was written to the result
    pipe.  The last fields are history: how many command lines were processed without an error,
    the line of the last `exec` command, the timeouts and sequence numbers of these commands, the
    results with the runs they are for, and the runs whose timeout callback was called. -/
structure HeuristicsWorker where
  cmdInBuffer : Dynar
  cmdOutBuffer : Dynar
  cmdOut : List UInt8 := []
  execList : HeuristicsExecList := []
  mainProcessList : ProcessList
  execTimeoutTimer : Bool := false
  lastExecSeqNumber : UInt32 := 0
  scheduleExit : Bool := false
  lines : Nat := 0
  run : Nat := 0
  execs : List (UInt32 × UInt32) := []
  replies : List (Nat × UInt32 × HeuristicsExecResult) := []
  timedOut : List Nat := []

/-- `qdevice_heuristics_worker_start`, up to its loop. -/
def heuristicsWorkerStart (ipcMaxSendReceiveSize maxProcesses : Nat) : HeuristicsWorker where
  cmdInBuffer := dynarInit ipcMaxSendReceiveSize
  cmdOutBuffer := dynarInit ipcMaxSendReceiveSize
  mainProcessList := { maxListEntries := maxProcesses }

/-- The message with a result. -/
def heuristicsWorkerCmdExecResult (seqNumber : UInt32) (execResult : HeuristicsExecResult) :
    DynarM Unit := do
  dynarStrCpy (addSpace heuristicsCmdStrExecResult)
  dynarStrCatf (Text.decimal seqNumber.toNat ++ [32] ++
    Text.decimal execResult.number.toNat ++ [10])

/-- `qdevice_heuristics_worker_cmd_write_exec_result`. -/
def heuristicsWorkerCmdWriteExecResult (seqNumber : UInt32) (execResult : HeuristicsExecResult)
    (inst : HeuristicsWorker) : Bool × HeuristicsWorker :=
  match heuristicsWorkerCmdExecResult seqNumber execResult inst.cmdOutBuffer with
  | (none, buffer) => (false, { inst with cmdOutBuffer := buffer })
  | (some (), buffer) => (true, { inst with
      cmdOutBuffer := buffer
      cmdOut := inst.cmdOut ++ buffer.data
      replies := inst.replies ++ [(inst.run, seqNumber, execResult)] })

/-- `process_list_move_active_entries_to_kill_list` of the worker's list. -/
def heuristicsWorkerMoveToKillList (inst : HeuristicsWorker) : HeuristicsWorker :=
  { inst with mainProcessList := processListMoveActiveEntriesToKillList inst.mainProcessList }

/-- `qdevice_heuristics_worker_cmd_process_exec_list_add`. -/
def heuristicsWorkerCmdProcessExecListAdd (str : List UInt8) (inst : HeuristicsWorker) :
    Bool × HeuristicsWorker :=
  -- Skip to the first space, and to the end of the spaces.
  let name := (str.dropWhile (· != 32)).dropWhile (· == 32)
  -- Skip to the next spaces, and to the end of these.
  let command := (name.dropWhile (· != 32)).dropWhile (· == 32)
  if name = [] ∨ command = [] then (false, inst)
  else (true, { inst with
    execList := inst.execList ++ [⟨name.takeWhile (· != 32), command⟩] })

/-- The loop that fills the process list from the exec list. -/
def heuristicsWorkerAddProcesses (run : Nat) :
    HeuristicsExecList → ProcessList → Bool × ProcessList
  | [], plist => (true, plist)
  | entry :: entries, plist =>
    match processListAdd plist entry.name entry.command run with
    | none => (false, plist)
    | some plist => heuristicsWorkerAddProcesses run entries plist

/-- The part of `qdevice_heuristics_worker_cmd_process_exec` that starts the commands. -/
def heuristicsWorkerStartRun (env : HeuristicsWorkerEnv) (inst : HeuristicsWorker) :
    Bool × HeuristicsWorker :=
  let fail (inst : HeuristicsWorker) :=
    heuristicsWorkerCmdWriteExecResult inst.lastExecSeqNumber .fail
      (heuristicsWorkerMoveToKillList inst)
  match heuristicsWorkerAddProcesses inst.run inst.execList inst.mainProcessList with
  | (false, plist) => fail { inst with mainProcessList := plist }
  | (true, plist) =>
    match processListExecInitialized env.fork plist with
    | (false, plist) => fail { inst with mainProcessList := plist }
    | (true, plist) =>
      if env.timerAdd inst.run then
        (true, { inst with mainProcessList := plist, execTimeoutTimer := true })
      else fail { inst with mainProcessList := plist }

/-- `qdevice_heuristics_worker_cmd_process_exec`. -/
def heuristicsWorkerCmdProcessExec (env : HeuristicsWorkerEnv) (str : List UInt8)
    (inst : HeuristicsWorker) : Bool × HeuristicsWorker :=
  match scanTwoNumbers (addSpace heuristicsCmdStrExec) str with
  | none => (false, inst)
  | some (timeout, seqNumber) =>
    let inst :=
      if inst.execTimeoutTimer then
        { heuristicsWorkerMoveToKillList inst with execTimeoutTimer := false }
      else inst
    let inst := { inst with
      lastExecSeqNumber := seqNumber
      run := inst.lines
      execs := inst.execs ++ [(timeout, seqNumber)] }
    if inst.execList = [] then
      heuristicsWorkerCmdWriteExecResult inst.lastExecSeqNumber .disabled inst
    else heuristicsWorkerStartRun env inst

/-- What `qdevice_heuristics_worker_cmd_process_one_line` does with the command on a line.  The
    command `exec-list-add` is compared without the space behind it. -/
def heuristicsWorkerCmdProcess (env : HeuristicsWorkerEnv) (str : List UInt8)
    (inst : HeuristicsWorker) : Bool × HeuristicsWorker :=
  if str = heuristicsCmdStrExecListClear then (true, { inst with execList := [] })
  else if heuristicsCmdStrExecListAdd.isPrefixOf str then
    heuristicsWorkerCmdProcessExecListAdd str inst
  else if (addSpace heuristicsCmdStrExec).isPrefixOf str then
    heuristicsWorkerCmdProcessExec env str inst
  else (false, inst)

/-- `qdevice_heuristics_worker_cmd_process_one_line`, of the line it has found. -/
def heuristicsWorkerCmdProcessLine (env : HeuristicsWorkerEnv) (line : List UInt8)
    (inst : HeuristicsWorker) : Bool × HeuristicsWorker :=
  match heuristicsWorkerCmdProcess env (cString line) inst with
  | (false, inst) => (false, inst)
  | (true, inst) => (true, { inst with lines := inst.lines + 1 })

/-- `qdevice_heuristics_worker_cmd_read_from_pipe`, with
    `qdevice_heuristics_worker_cmd_process`. -/
def heuristicsWorkerCmdReadFromPipe (env : HeuristicsWorkerEnv) (read : PipeRead)
    (inst : HeuristicsWorker) : Bool × HeuristicsWorker :=
  match heuristicsReadLines (heuristicsWorkerCmdProcessLine env) read inst.cmdInBuffer inst with
  | (ok, buffer, inst) => (ok, { inst with cmdInBuffer := buffer })

/-! ### The loop -/

/-- The timers of the worker, as `timer_list_expire` finds them expired, with what the system
    calls of their callbacks return. -/
inductive HeuristicsWorkerTimer where
  | killList (waitpid : Nat → Waitpid) (kill : Nat → Bool)
  | execTimeout

/-- `qdevice_heuristics_worker_kill_list_timer_callback`; `none` is a failed assertion. -/
def heuristicsWorkerKillListTimerCallback (waitpid : Nat → Waitpid) (kill : Nat → Bool)
    (inst : HeuristicsWorker) : Option HeuristicsWorker :=
  match processListProcessKillList waitpid kill inst.mainProcessList with
  | (.error .assertion, _) => none
  | (.error .failed, plist) => some { inst with mainProcessList := plist, scheduleExit := true }
  | (.ok (), plist) => some { inst with mainProcessList := plist }

/-- `qdevice_heuristics_worker_exec_timeout_timer_callback`. -/
def heuristicsWorkerExecTimeoutTimerCallback (inst : HeuristicsWorker) : HeuristicsWorker :=
  let inst := { heuristicsWorkerMoveToKillList inst with
    execTimeoutTimer := false, timedOut := inst.timedOut ++ [inst.run] }
  match heuristicsWorkerCmdWriteExecResult inst.lastExecSeqNumber .fail inst with
  | (true, inst) => inst
  | (false, inst) => { inst with scheduleExit := true }

/-- `timer_list_expire`, of the worker's timers. -/
def heuristicsWorkerExpire : List HeuristicsWorkerTimer → HeuristicsWorker → Option HeuristicsWorker
  | [], inst => some inst
  | .killList waitpid kill :: timers, inst =>
    match heuristicsWorkerKillListTimerCallback waitpid kill inst with
    | none => none
    | some inst => heuristicsWorkerExpire timers inst
  | .execTimeout :: timers, inst =>
    heuristicsWorkerExpire timers
      (if inst.execTimeoutTimer then heuristicsWorkerExecTimeoutTimerCallback inst else inst)

/-- What `poll` reports about the command pipe: nothing, `POLLIN` with what `read` returns, or an
    error without it. -/
inductive HeuristicsWorkerPoll where
  | nothing
  | readable (read : PipeRead)
  | hangup

/-- The part of `qdevice_heuristics_worker_poll` that looks at the running commands. -/
def heuristicsWorkerCheckRun (inst : HeuristicsWorker) : Bool × HeuristicsWorker :=
  let report (execResult : HeuristicsExecResult) :=
    match heuristicsWorkerCmdWriteExecResult inst.lastExecSeqNumber execResult inst with
    | (false, inst) => (false, inst)
    | (true, inst) => (true, { heuristicsWorkerMoveToKillList inst with execTimeoutTimer := false })
  if inst.execTimeoutTimer then
    match processListGetSummaryResultShort inst.mainProcessList with
    | .notFinished => (true, inst)
    | .allPassed => report .pass
    | .someFailed => report .fail
  else (true, inst)

/-- The part of `qdevice_heuristics_worker_poll` behind the reading of commands. -/
def heuristicsWorkerPollProcesses (waitpid : Nat → Waitpid) (timers : List HeuristicsWorkerTimer)
    (inst : HeuristicsWorker) : Bool × HeuristicsWorker :=
  match processListWaitpid waitpid inst.mainProcessList with
  | (false, plist) => (false, { inst with mainProcessList := plist })
  | (true, plist) =>
    match heuristicsWorkerCheckRun { inst with mainProcessList := plist } with
    | (false, inst) => (false, inst)
    | (true, inst) =>
      match heuristicsWorkerExpire timers inst with
      | none => (false, inst)
      | some inst => (!inst.scheduleExit, inst)

/-- `qdevice_heuristics_worker_poll`. -/
def heuristicsWorkerPoll (env : HeuristicsWorkerEnv) (poll : HeuristicsWorkerPoll)
    (waitpid : Nat → Waitpid) (timers : List HeuristicsWorkerTimer) (inst : HeuristicsWorker) :
    Bool × HeuristicsWorker :=
  match poll with
  | .nothing => heuristicsWorkerPollProcesses waitpid timers inst
  | .hangup => (false, inst)
  | .readable read =>
    match heuristicsWorkerCmdReadFromPipe env read inst with
    | (false, inst) => (false, inst)
    | (true, inst) => heuristicsWorkerPollProcesses waitpid timers inst

end Qdevice
