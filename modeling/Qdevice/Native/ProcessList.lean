import Qdevice.Native.DynarSimpleLex
import Qdevice.Native.TlvTypes

/-! # Process lists

`process-list.c`: the commands that are running for the heuristics worker, and those that are
being killed.  What `fork`, `waitpid` and `kill` return comes from outside.  A process is known
by a number that is never used again.  `notifications` are the calls of `notify_fn` so far, and
`calls` are the calls of `kill` and the calls of `waitpid` that reaped a process. -/

namespace Qdevice

/-- `enum process_list_entry_state`. -/
inductive ProcessListEntryState where
  | initialized
  | running
  | finished
  | sigtermSent
  | sigkillSent
deriving DecidableEq

/-- What `waitpid` says about a process that has ended. -/
inductive ExitStatus where
  | exited (status : UInt8)
  | signaled (signal : UInt8)
deriving DecidableEq

/-- The status is 0. -/
def ExitStatus.success (status : ExitStatus) : Bool := status == .exited 0

/-- `struct process_list_entry`.  `command` is what `exec_argv` was made from, and `run` is a
    ghost field: which exec command the entry was added for. -/
structure ProcessListEntry where
  name : List UInt8
  command : List UInt8
  run : Nat
  state : ProcessListEntryState := .initialized
  execArgv : List (List UInt8)
  pid : Nat := 0
  exitStatus : ExitStatus := .exited 0
deriving DecidableEq

/-- `enum process_list_notify_reason`. -/
inductive ProcessListNotifyReason where
  | executed
  | finished
deriving DecidableEq

/-- The signals that are sent. -/
inductive Signal where
  | sigterm
  | sigkill
deriving DecidableEq

/-- What was done to a process. -/
inductive ProcessCall where
  | kill (sig : Signal)
  | reaped
deriving DecidableEq

/-- `struct process_list`, with the number of the next process. -/
structure ProcessList where
  maxListEntries : Nat
  allocatedListEntries : Nat := 0
  activeList : List ProcessListEntry := []
  toKillList : List ProcessListEntry := []
  nextPid : Nat := 0
  notifications : List (ProcessListNotifyReason × ProcessListEntry) := []
  calls : List (Nat × ProcessCall) := []

/-- A token with a string in it leaves less of the input. -/
theorem length_left_tokenNext {lex lex' : DynarSimpleLex} {token : Dynar}
    (h : lex.tokenNext = (some token, lex')) (hstring : cString token.data ≠ []) :
    lex'.left.length < lex.left.length := by
  obtain ⟨rfl, hleft, -⟩ := lex.tokenNext_keeps h
  rw [hleft]
  apply length_dynarSimpleLexTokenNext
  intro hempty
  apply hstring
  rw [DynarSimpleLex.tokenOf, hempty]
  rfl

/-- The first loop of `process_list_parse_command` counts the parameters. -/
def processListCountParams (lex : DynarSimpleLex) : Option Nat :=
  match _hnext : lex.tokenNext with
  | (none, _) => none
  | (some token, lex') =>
    if _hempty : cString token.data = [] then some 0
    else (processListCountParams lex').map (· + 1)
termination_by lex.left.length
decreasing_by exact length_left_tokenNext _hnext _hempty

/-- The second loop of `process_list_parse_command` copies them. -/
def processListCopyParams (lex : DynarSimpleLex) : Option (List (List UInt8)) :=
  match _hnext : lex.tokenNext with
  | (none, _) => none
  | (some token, lex') =>
    if _hempty : cString token.data = [] then some []
    else (processListCopyParams lex').map (cString token.data :: ·)
termination_by lex.left.length
decreasing_by exact length_left_tokenNext _hnext _hempty

/-- `process_list_parse_command`. -/
def processListParseCommand (command : List UInt8) : Option (List (List UInt8)) :=
  match dynarStrCpy command (dynarInit (command.length + 1)) with
  | (none, _) => none
  | (some (), commandDstr) =>
    match processListCountParams (.init commandDstr .quote) with
    | none => none
    | some noParams =>
      if noParams < 1 then none
      else
        match processListCopyParams (.init commandDstr .quote) with
        | none => none
        | some argv => if argv.length = noParams then some argv else none

/-- `process_list_add`. -/
def processListAdd (plist : ProcessList) (name command : List UInt8) (run : Nat) :
    Option ProcessList :=
  if plist.allocatedListEntries + 1 > plist.maxListEntries then none
  else
    match processListParseCommand command with
    | none => none
    | some argv => some { plist with
        allocatedListEntries := plist.allocatedListEntries + 1
        activeList := plist.activeList ++
          [{ name := name, command := command, run := run, execArgv := argv }] }

/-- The loop of `process_list_exec_initialized`, with `process_list_entry_exec`: the entries
    afterwards, those that were executed, the number of the next process, and whether no `fork`
    failed. -/
def processListExecEntries (fork : Nat → Bool) :
    Nat → List ProcessListEntry → Bool × List ProcessListEntry × List ProcessListEntry × Nat
  | nextPid, [] => (true, [], [], nextPid)
  | nextPid, entry :: entries =>
    if entry.state = .initialized then
      if fork nextPid then
        let entry' := { entry with pid := nextPid, state := .running }
        match processListExecEntries fork (nextPid + 1) entries with
        | (ok, entries', executed, nextPid') => (ok, entry' :: entries', entry' :: executed, nextPid')
      else (false, entry :: entries, [], nextPid + 1)
    else
      match processListExecEntries fork nextPid entries with
      | (ok, entries', executed, nextPid') => (ok, entry :: entries', executed, nextPid')

/-- `process_list_exec_initialized`. -/
def processListExecInitialized (fork : Nat → Bool) (plist : ProcessList) : Bool × ProcessList :=
  match processListExecEntries fork plist.nextPid plist.activeList with
  | (ok, active, executed, nextPid) => (ok, { plist with
      activeList := active
      nextPid := nextPid
      notifications := plist.notifications ++ executed.map (.executed, ·) })

/-- What `waitpid` returns with `WNOHANG`: -1, 0, or the process with its status. -/
inductive Waitpid where
  | error
  | noChange
  | ended (status : ExitStatus)

/-- `process_list_entry_waitpid`: the entry afterwards, and whether it was reported as
    finished. -/
def processListEntryWaitpid (waitpid : Nat → Waitpid) (entry : ProcessListEntry) :
    Option (ProcessListEntry × Bool) :=
  if entry.state = .initialized ∨ entry.state = .finished then some (entry, false)
  else
    match waitpid entry.pid with
    | .error => none
    | .noChange => some (entry, false)
    | .ended status =>
      some ({ entry with exitStatus := status, state := .finished }, entry.state = .running)

/-- The call of `waitpid` for an entry, if it reaped the process. -/
def processListReaped (entry entry' : ProcessListEntry) : List (Nat × ProcessCall) :=
  if entry.state ≠ .finished ∧ entry'.state = .finished then [(entry.pid, .reaped)] else []

/-- The first loop of `process_list_waitpid`: the entries afterwards, those that were reported,
    the processes that were reaped, and whether no `waitpid` failed. -/
def processListWaitEntries (waitpid : Nat → Waitpid) : List ProcessListEntry →
    Bool × List ProcessListEntry × List ProcessListEntry × List (Nat × ProcessCall)
  | [] => (true, [], [], [])
  | entry :: entries =>
    match processListEntryWaitpid waitpid entry with
    | none => (false, entry :: entries, [], [])
    | some (entry', reported) =>
      match processListWaitEntries waitpid entries with
      | (ok, entries', finished, calls) =>
        (ok, entry' :: entries', if reported then entry' :: finished else finished,
          processListReaped entry entry' ++ calls)

/-- The second loop of `process_list_waitpid`: a process that has finished is removed from the
    kill list. -/
def processListWaitKillEntries (waitpid : Nat → Waitpid) : List ProcessListEntry →
    Bool × List ProcessListEntry × List ProcessListEntry × List (Nat × ProcessCall)
  | [] => (true, [], [], [])
  | entry :: entries =>
    match processListEntryWaitpid waitpid entry with
    | none => (false, entry :: entries, [], [])
    | some (entry', reported) =>
      match processListWaitKillEntries waitpid entries with
      | (ok, entries', finished, calls) =>
        (ok, if entry'.state = .finished then entries' else entry' :: entries',
          if reported then entry' :: finished else finished,
          processListReaped entry entry' ++ calls)

/-- `process_list_waitpid`. -/
def processListWaitpid (waitpid : Nat → Waitpid) (plist : ProcessList) : Bool × ProcessList :=
  match processListWaitEntries waitpid plist.activeList with
  | (false, active, finished, calls) => (false, { plist with
      activeList := active
      notifications := plist.notifications ++ finished.map (.finished, ·)
      calls := plist.calls ++ calls })
  | (true, active, finished, calls) =>
    match processListWaitKillEntries waitpid plist.toKillList with
    | (ok, remaining, killed, killCalls) => (ok, { plist with
        activeList := active
        toKillList := remaining
        allocatedListEntries :=
          plist.allocatedListEntries - (plist.toKillList.length - remaining.length)
        notifications := plist.notifications ++ (finished ++ killed).map (.finished, ·)
        calls := plist.calls ++ (calls ++ killCalls) })

/-- The return values of `process_list_get_summary_result_short`: 0, 1 and -1. -/
inductive ProcessListSummary where
  | allPassed
  | someFailed
  | notFinished
deriving DecidableEq

/-- `process_list_get_summary_result_short`. -/
def processListGetSummaryResultShort (plist : ProcessList) : ProcessListSummary :=
  let failed (entry : ProcessListEntry) := entry.state = .finished ∧ ¬ entry.exitStatus.success
  if plist.activeList.any (failed ·) then .someFailed
  else if plist.activeList.all (·.state = .finished) then .allPassed
  else .notFinished

/-- `process_list_move_active_entries_to_kill_list`. -/
def processListMoveActiveEntriesToKillList (plist : ProcessList) : ProcessList :=
  let kept := plist.activeList.filter fun entry =>
    !(entry.state = .initialized || entry.state = .finished)
  { plist with
    activeList := []
    toKillList := plist.toKillList ++ kept
    allocatedListEntries := plist.allocatedListEntries - (plist.activeList.length - kept.length) }

/-- How the handling of the kill list can end the worker: -1, or a failed assertion. -/
inductive ProcessListError where
  | failed
  | assertion
deriving DecidableEq

/-- The switch of `process_list_process_kill_list_entry`: the signal and the new state, or a
    failed assertion. -/
def processListSigToSend : ProcessListEntryState → Option (Signal × ProcessListEntryState)
  | .initialized => none
  | .finished => none
  | .running => some (.sigterm, .sigtermSent)
  | .sigtermSent => some (.sigkill, .sigkillSent)
  | .sigkillSent => some (.sigkill, .sigkillSent)

/-- `process_list_process_kill_list_entry`: the entry afterwards and the call of `kill`.  `kill` is
    whether the signal could be sent, or the process is gone. -/
def processListProcessKillListEntry (kill : Nat → Bool) (entry : ProcessListEntry) :
    Except ProcessListError Unit × ProcessListEntry × List (Nat × ProcessCall) :=
  match processListSigToSend entry.state with
  | none => (.error .assertion, entry, [])
  | some (sigToSend, newState) =>
    (if kill entry.pid then .ok () else .error .failed, { entry with state := newState },
      [(entry.pid, .kill sigToSend)])

/-- The loop of `process_list_process_kill_list`. -/
def processListKillEntries (kill : Nat → Bool) : List ProcessListEntry →
    Except ProcessListError Unit × List ProcessListEntry × List (Nat × ProcessCall)
  | [] => (.ok (), [], [])
  | entry :: entries =>
    match processListProcessKillListEntry kill entry with
    | (.error e, entry', call) => (.error e, entry' :: entries, call)
    | (.ok (), entry', call) =>
      match processListKillEntries kill entries with
      | (res, entries', calls) => (res, entry' :: entries', call ++ calls)

/-- `process_list_process_kill_list`. -/
def processListProcessKillList (waitpid : Nat → Waitpid) (kill : Nat → Bool)
    (plist : ProcessList) : Except ProcessListError Unit × ProcessList :=
  match processListWaitpid waitpid plist with
  | (false, plist) => (.error .failed, plist)
  | (true, plist) =>
    match processListKillEntries kill plist.toKillList with
    | (res, entries, calls) => (res, { plist with
        toKillList := entries, calls := plist.calls ++ calls })

end Qdevice
