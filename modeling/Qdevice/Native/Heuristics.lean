import Qdevice.Native.DynarStr
import Qdevice.Native.SendBufferList
import Qdevice.Native.TlvTypes

/-! # Heuristics in the main process

`qdevice-heuristics.c`, `qdevice-heuristics-cmd.c`, `qdevice-heuristics-io.c` and
`qdevice-heuristics-exec-list.c`.  The main process writes lines of text to the heuristics
worker through one pipe, and reads lines with results from another one.  What the system calls
return comes from outside.  A `Bool` result is `true` for the return value 0. -/

namespace Qdevice

/-- `struct qdevice_heuristics_exec_list_entry`. -/
structure HeuristicsExecListEntry where
  name : List UInt8
  command : List UInt8
deriving DecidableEq

/-- `struct qdevice_heuristics_exec_list`. -/
abbrev HeuristicsExecList := List HeuristicsExecListEntry

/-- The loop of `qdevice_heuristics_exec_list_eq`, and what it does after it. -/
def heuristicsExecListEqLoop : (list1 tmpList : HeuristicsExecList) → Bool
  | [], tmpList => tmpList.isEmpty
  | entry1 :: list1, tmpList =>
    match tmpList.find? fun entry => entry.name = entry1.name with
    | none => false
    | some entry2 =>
      if entry1.command ≠ entry2.command then false
      else heuristicsExecListEqLoop list1 (tmpList.eraseP fun entry => entry.name = entry1.name)

/-- `enum qdevice_heuristics_exec_result`, with the numbers that `sscanf` may store in one. -/
inductive HeuristicsExecResult where
  | disabled
  | pass
  | fail
  | unknown (number : UInt32)
deriving DecidableEq

/-- The number of a result. -/
def HeuristicsExecResult.number : HeuristicsExecResult → UInt32
  | disabled => 0
  | pass => 1
  | fail => 2
  | unknown number => number

/-- The result with this number. -/
def HeuristicsExecResult.ofNumber (number : UInt32) : HeuristicsExecResult :=
  if number = 0 then disabled else if number = 1 then pass else if number = 2 then fail
  else unknown number

/-! ### The commands -/

/-- `QDEVICE_HEURISTICS_CMD_STR_EXEC_LIST_CLEAR`. -/
def heuristicsCmdStrExecListClear : List UInt8 :=
  Text.ofChars ['e', 'x', 'e', 'c', '-', 'l', 'i', 's', 't', '-', 'c', 'l', 'e', 'a', 'r']

/-- `QDEVICE_HEURISTICS_CMD_STR_EXEC_LIST_ADD`. -/
def heuristicsCmdStrExecListAdd : List UInt8 :=
  Text.ofChars ['e', 'x', 'e', 'c', '-', 'l', 'i', 's', 't', '-', 'a', 'd', 'd']

/-- `QDEVICE_HEURISTICS_CMD_STR_EXEC`. -/
def heuristicsCmdStrExec : List UInt8 := Text.ofChars ['e', 'x', 'e', 'c']

/-- `QDEVICE_HEURISTICS_CMD_STR_EXEC_RESULT`. -/
def heuristicsCmdStrExecResult : List UInt8 :=
  Text.ofChars ['e', 'x', 'e', 'c', '-', 'r', 'e', 's', 'u', 'l', 't']

/-- The `_ADD_SPACE` variants of these. -/
def addSpace (str : List UInt8) : List UInt8 := str ++ [32]

/-- `sscanf` with a word, a space and the format `%u %u`, if it stores both numbers. -/
def scanTwoNumbers (word str : List UInt8) : Option (UInt32 × UInt32) :=
  if word.isPrefixOf str then
    match Text.scanUInt32 (str.drop word.length) with
    | none => none
    | some (first, rest) => (Text.scanUInt32 rest).map fun (second, _) => (first, second)
  else none

/-- A command for the worker.  `issue` says which call of `qdevice_heuristics_exec` it belongs
    to; it is not part of the text. -/
inductive HeuristicsCmd where
  | execListClear
  | execListAdd (entry : HeuristicsExecListEntry)
  | exec (issue : Nat) (timeout seqNumber : UInt32)
deriving DecidableEq

/-! ### Pipes -/

/-- `QDEVICE_HEURISTICS_IO_BUFFER_SIZE`. -/
def heuristicsIoBufferSize : Nat := 256

/-- What `read` returned: some bytes, 0, or -1 with an error that is retried or another one. -/
inductive PipeRead where
  | data (bytes : List UInt8)
  | closed
  | again
  | error

/-- The return values of `qdevice_heuristics_io_read`: 1, 0, -1, -2 and -3. -/
inductive HeuristicsIoRead where
  | fullLine
  | partialRead
  | endOfConnection
  | bufferTooLong
  | unhandledError
deriving DecidableEq

/-- `qdevice_heuristics_io_read`. -/
def heuristicsIoRead (read : PipeRead) (dest : Dynar) : HeuristicsIoRead × Dynar :=
  match read with
  | .data bytes =>
    match dynarCat bytes dest with
    | (none, dest) => (.bufferTooLong, dest)
    | (some (), dest) => (if bytes.contains 10 then .fullLine else .partialRead, dest)
  | .closed => (.endOfConnection, dest)
  | .again => (.partialRead, dest)
  | .error => (.unhandledError, dest)

/-- What `qdevice_heuristics_cmd_read_from_pipe` and its counterpart in the worker have in common:
    a buffer is filled, and every complete line in it is processed. -/
def heuristicsReadLines {σ : Type} (processLine : List UInt8 → σ → Bool × σ) (read : PipeRead)
    (buffer : Dynar) (inst : σ) : Bool × Dynar × σ :=
  match heuristicsIoRead read buffer with
  | (.fullLine, buffer) =>
    match Text.handleLines processLine buffer.data inst with
    | (ok, data, inst) => (ok, { buffer with data := data }, inst)
  | (.partialRead, buffer) => (true, buffer, inst)
  | (_, buffer) => (false, buffer, inst)

/-- What `write` returned: some number of bytes, or -1 with an error that is retried or another
    one. -/
inductive PipeWrite where
  | wrote (n : Nat)
  | again
  | error

/-! ### The main process -/

/-- One call of the result notifiers, with what the main process held then: its exec list, and
    how many execs it had issued. -/
structure HeuristicsNotification where
  seqNumber : UInt32
  execResult : HeuristicsExecResult
  execList : HeuristicsExecList
  issued : Nat
deriving DecidableEq

/-- `struct qdevice_heuristics_instance`.  The last four fields are history: how often
    `qdevice_heuristics_exec` was called, the commands put into the send list, the result lines
    processed so far, and the calls of the notifiers. -/
structure HeuristicsInstance where
  cmdOutBufferList : SendBufferList
  cmdInBuffer : Dynar
  timeout : UInt32 := 0
  syncTimeout : UInt32 := 0
  waitingForResult : Bool := false
  expectedReplySeqNumber : UInt32 := 0
  execList : HeuristicsExecList := []
  issued : Nat := 0
  sent : List HeuristicsCmd := []
  lines : Nat := 0
  notifications : List HeuristicsNotification := []

/-- The part of `qdevice_heuristics_init` that is about the main process. -/
def heuristicsInit (maxSendBuffers maxSendReceiveSize : Nat) : HeuristicsInstance where
  cmdOutBufferList := { maxListEntries := maxSendBuffers, maxBufferSize := maxSendReceiveSize }
  cmdInBuffer := dynarInit maxSendReceiveSize

/-- Put a command into the send list. -/
def heuristicsCmdQueue (cmd : HeuristicsCmd) (fill : DynarM Unit) (inst : HeuristicsInstance) :
    Bool × HeuristicsInstance :=
  match sendBufferListAppend fill inst.cmdOutBufferList with
  | (ok, sblist) => (ok, { inst with
      cmdOutBufferList := sblist, sent := if ok then inst.sent ++ [cmd] else inst.sent })

/-- `qdevice_heuristics_cmd_remove_newlines`. -/
def heuristicsCmdRemoveNewlines : DynarM Unit := fun str =>
  (some (), { str with data := str.data.map fun c => if Text.isLineEnd c then 32 else c })

/-- The message for one entry of the exec list. -/
def heuristicsCmdExecListAdd (entry : HeuristicsExecListEntry) : DynarM Unit := do
  dynarStrCpy (addSpace heuristicsCmdStrExecListAdd)
  dynarStrCat entry.name
  dynarStrCat [32]
  dynarStrCat entry.command
  heuristicsCmdRemoveNewlines
  dynarStrCat [10]

/-- The message that clears the exec list. -/
def heuristicsCmdExecListClear : DynarM Unit := do
  dynarStrCpy heuristicsCmdStrExecListClear
  dynarStrCat [10]

/-- The message for `qdevice_heuristics_exec`. -/
def heuristicsCmdExec (timeout seqNumber : UInt32) : DynarM Unit := do
  dynarStrCpy (addSpace heuristicsCmdStrExec)
  dynarStrCatf (Text.decimal timeout.toNat ++ [32] ++ Text.decimal seqNumber.toNat ++ [10])

/-- The loop of `qdevice_heuristics_cmd_write_exec_list`. -/
def heuristicsCmdWriteEntries : HeuristicsExecList → HeuristicsInstance → Bool × HeuristicsInstance
  | [], inst => (true, inst)
  | entry :: entries, inst =>
    match heuristicsCmdQueue (.execListAdd entry) (heuristicsCmdExecListAdd entry) inst with
    | (false, inst) => (false, inst)
    | (true, inst) => heuristicsCmdWriteEntries entries inst

/-- `qdevice_heuristics_cmd_write_exec_list`. -/
def heuristicsCmdWriteExecList (newExecList : Option HeuristicsExecList)
    (inst : HeuristicsInstance) : Bool × HeuristicsInstance :=
  match heuristicsCmdQueue .execListClear heuristicsCmdExecListClear inst with
  | (false, inst) => (false, inst)
  | (true, inst) =>
    match newExecList with
    | none => (true, inst)
    | some entries => heuristicsCmdWriteEntries entries inst

/-- `qdevice_heuristics_cmd_write_exec`. -/
def heuristicsCmdWriteExec (timeout seqNumber : UInt32) (inst : HeuristicsInstance) :
    Bool × HeuristicsInstance :=
  heuristicsCmdQueue (.exec inst.issued timeout seqNumber) (heuristicsCmdExec timeout seqNumber) inst

/-- `qdevice_heuristics_exec`. -/
def heuristicsExec (syncInProgress : Bool) (inst : HeuristicsInstance) :
    Bool × HeuristicsInstance :=
  let inst := { inst with
    expectedReplySeqNumber := inst.expectedReplySeqNumber + 1
    waitingForResult := true
    issued := inst.issued + 1 }
  heuristicsCmdWriteExec (if syncInProgress then inst.syncTimeout else inst.timeout)
    inst.expectedReplySeqNumber inst

/-- `qdevice_heuristics_change_exec_list`. -/
def heuristicsChangeExecList (newExecList : Option HeuristicsExecList) (syncInProgress : Bool)
    (inst : HeuristicsInstance) : Bool × HeuristicsInstance :=
  match heuristicsCmdWriteExecList newExecList inst with
  | (false, inst) => (false, inst)
  | (true, inst) =>
    let inst := { inst with execList := newExecList.getD [] }
    if inst.waitingForResult then heuristicsExec syncInProgress inst else (true, inst)

/-- `qdevice_heuristics_cmd_process_exec_result`.  `notify` is whether the notifiers return 0. -/
def heuristicsCmdProcessExecResult (notify : Nat → Bool) (str : List UInt8)
    (inst : HeuristicsInstance) : Bool × HeuristicsInstance :=
  match scanTwoNumbers (addSpace heuristicsCmdStrExecResult) str with
  | none => (false, inst)
  | some (seqNumber, number) =>
    if !inst.waitingForResult then (true, inst)
    else if seqNumber != inst.expectedReplySeqNumber then (true, inst)
    else (notify inst.notifications.length, { inst with
      waitingForResult := false
      notifications := inst.notifications ++
        [⟨seqNumber, .ofNumber number, inst.execList, inst.issued⟩] })

/-- `qdevice_heuristics_cmd_process_one_line`, of the line it has found. -/
def heuristicsCmdProcessLine (notify : Nat → Bool) (line : List UInt8)
    (inst : HeuristicsInstance) : Bool × HeuristicsInstance :=
  let str := cString line
  if (addSpace heuristicsCmdStrExecResult).isPrefixOf str then
    match heuristicsCmdProcessExecResult notify str inst with
    | (ok, inst) => (ok, { inst with lines := inst.lines + 1 })
  else (false, inst)

/-- `qdevice_heuristics_cmd_read_from_pipe`, with `qdevice_heuristics_cmd_process`. -/
def heuristicsCmdReadFromPipe (notify : Nat → Bool) (read : PipeRead)
    (inst : HeuristicsInstance) : Bool × HeuristicsInstance :=
  match heuristicsReadLines (heuristicsCmdProcessLine notify) read inst.cmdInBuffer inst with
  | (ok, buffer, inst) => (ok, { inst with cmdInBuffer := buffer })

/-- `qdevice_heuristics_cmd_write`, with `qdevice_heuristics_io_write`: the bytes it wrote, too.
    `write` never writes more than it was given. -/
def heuristicsCmdWrite (write : PipeWrite) (inst : HeuristicsInstance) :
    Bool × List UInt8 × HeuristicsInstance :=
  match sendBufferListGetActive inst.cmdOutBufferList with
  | none => (false, [], inst)
  | some entry =>
    match write with
    | .again => (true, [], inst)
    | .error => (false, [], inst)
    | .wrote n =>
      let rest := entry.buffer.data.drop entry.msgAlreadySentBytes
      let bytes := rest.take (min n heuristicsIoBufferSize)
      if bytes = [] then (false, [], inst)
      else if bytes = rest then (true, bytes, { inst with
        cmdOutBufferList := sendBufferListDeleteActive inst.cmdOutBufferList })
      else (true, bytes, { inst with
        cmdOutBufferList := { inst.cmdOutBufferList with
          list := { entry with msgAlreadySentBytes := entry.msgAlreadySentBytes + bytes.length } ::
            inst.cmdOutBufferList.list.tail } })

end Qdevice
