import Qdevice.Native.QnetdAlgorithm
import Qdevice.Native.TimerList

/-! # The algorithm timer of a client, in the timer list

`qnetd-client-algo-timer.c` once more, this time on the main timer list.  `Native.QnetdClient`
only knows whether a client has a timer, and for which interval; here `client->algo_timer` is a
pointer to an entry of the list, and `timer_list_expire` calls the callback.

What the algorithm decides does not depend on the list.  So the functions here take over the
decisions of `doLmsAlgorithm` and `qnetdAlgorithmTimerCallback`, and do the calls that the source
makes for the timer on the way. -/

namespace Qdevice.Qnetd

/-- `func` and `user_data1` of an entry. -/
inductive TimerFunc where
  /-- `qnetd_client_algo_timer_callback` with this client. -/
  | algoTimer (id : ClientId)
  /-- Another callback, or a client that is not looked at. -/
  | other
deriving DecidableEq

/-- The main timer list, what its entries are for, and `algo_timer` of the clients. -/
structure MainTimers where
  tlist : TimerList := {}
  func : Nat → TimerFunc := fun _ => .other
  algoTimer : ClientId → Option Nat := fun _ => none

/-- What `timer_list_add` reads and gets from outside. -/
structure TimerEnv where
  alloc : TimerAlloc := {}
  now : Nat

namespace MainTimers

/-- `qnetd_client_algo_timer_is_scheduled`. -/
def clientAlgoTimerIsScheduled (timers : MainTimers) (id : ClientId) : Bool :=
  (timers.algoTimer id).isSome

/-- `qnetd_client_algo_timer_abort`. -/
def clientAlgoTimerAbort (timers : MainTimers) (id : ClientId) : Option MainTimers :=
  match timers.algoTimer id with
  | none => some timers
  | some e => do
    let tlist ← timerListEntryDelete timers.tlist e
    some { timers with tlist, algoTimer := Function.update timers.algoTimer id none }

section

variable (toInterval : UInt32 → UInt32)

/-- `timer_list_add` with a callback. -/
def add (env : TimerEnv) (timers : MainTimers) (interval : UInt32) (func : TimerFunc) :
    Option (MainTimers × Option Nat) := do
  let (tlist, added) ← timerListAdd toInterval env.alloc env.now interval true timers.tlist
  match added with
  | none => some ({ timers with tlist }, none)
  | some e => some ({ timers with tlist, func := Function.update timers.func e func }, some e)

/-- `qnetd_client_algo_timer_schedule_timeout`. -/
def clientAlgoTimerScheduleTimeout (env : TimerEnv) (timers : MainTimers) (id : ClientId)
    (timeout : UInt32) : Option MainTimers := do
  let timers ←
    (if timers.clientAlgoTimerIsScheduled id then timers.clientAlgoTimerAbort id else some timers)
  let (timers, added) ← timers.add toInterval env timeout (.algoTimer id)
  some { timers with algoTimer := Function.update timers.algoTimer id added }

/-- `qnetd_client_algo_timer_schedule`. -/
def clientAlgoTimerSchedule (env : TimerEnv) (timers : MainTimers) (client : QnetdClient) :
    Option MainTimers :=
  timers.clientAlgoTimerScheduleTimeout toInterval env client.id (client.heartbeatInterval / 4)

end

end MainTimers

/-- `do_lms_algorithm` logs this when it tells the client to wait. -/
def AlgoLog.lmsWaits : AlgoLog → Bool
  | .lmsRingIdNotUnique | .lmsNoPartitionsFound => true
  | _ => false

section

variable (toInterval : UInt32 → UInt32)

/-- The calls that `do_lms_algorithm` makes for the timer: it aborts the timer at its start, and
    schedules it right after it has logged that the client has to wait.  A callback that did not
    get there has logged nothing. -/
def doLmsTimers (env : TimerEnv) (timers : MainTimers) (client : QnetdClient)
    (log : List AlgoLog) : Option MainTimers :=
  if log = [] then some timers
  else do
    let timers ← timers.clientAlgoTimerAbort client.id
    if log.any AlgoLog.lmsWaits then timers.clientAlgoTimerSchedule toInterval env client
    else some timers

/-- The timer's part of `qnetd_client_algo_timer_callback`, for a client of LMS, with the return
    value: whether `timer_list_expire` should schedule the entry again. -/
def lmsTimerCallbackTimers (env : Env) (tenv : TimerEnv) (timers : MainTimers)
    (client : QnetdClient) (res : TimerResult) : Option (MainTimers × Bool) := do
  let timers ← doLmsTimers toInterval tenv timers client res.result.log
  if res.result.replyErrorCode ≠ .noError then some (timers, false)
  else if res.sendVote && !env.voteInfoQueued client.id then some (timers, false)
  else if res.rescheduleTimer then some (timers, true)
  else
    some ({ timers with algoTimer := Function.update timers.algoTimer client.id none }, false)

end

end Qdevice.Qnetd
