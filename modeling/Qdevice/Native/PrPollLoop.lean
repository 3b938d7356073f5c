import Qdevice.ForStd.Tailq

/-! # The poll loop

`pr-poll-loop.c`.  The callbacks are not modelled: `PollPhase` is where `pr_poll_loop_exec` is, and
while a callback runs, it can call the functions that add and delete entries, and then it returns
whatever it likes.  An entry has an address that is not used again, so that a pointer to an entry
that was freed is seen.

Of the array for `PR_Poll` this has what is in it; for the memory of it see `Native.PrPollArray`. -/

namespace Qdevice

/-! ### Events -/

def pollIn : UInt16 := 0x1
def pollPri : UInt16 := 0x2
def pollOut : UInt16 := 0x4
def pollErr : UInt16 := 0x8
def pollHup : UInt16 := 0x10
def pollNval : UInt16 := 0x20

def prPollRead : UInt16 := 0x1
def prPollWrite : UInt16 := 0x2
def prPollExcept : UInt16 := 0x4
def prPollErr : UInt16 := 0x8
def prPollNval : UInt16 := 0x10
def prPollHup : UInt16 := 0x20

/-- `poll_events_to_pr_events`. -/
def pollEventsToPrEvents (events : UInt16) : UInt16 :=
  (if events &&& pollIn ≠ 0 then prPollRead else 0) |||
  (if events &&& pollOut ≠ 0 then prPollWrite else 0) |||
  (if events &&& pollPri ≠ 0 then prPollExcept else 0)

/-- `pr_events_to_poll_events`. -/
def prEventsToPollEvents (events : UInt16) : UInt16 :=
  (if events &&& prPollRead ≠ 0 then pollIn else 0) |||
  (if events &&& prPollWrite ≠ 0 then pollOut else 0) |||
  (if events &&& prPollErr ≠ 0 then pollErr else 0) |||
  (if events &&& prPollNval ≠ 0 then pollNval else 0) |||
  (if events &&& prPollHup ≠ 0 then pollHup else 0) |||
  (if events &&& prPollExcept ≠ 0 then pollPri else 0)

/-- `(events & ~(POLLIN|POLLOUT|POLLPRI)) == 0`. -/
def pollEventsValid (events : UInt16) : Bool :=
  events &&& ~~~(pollIn ||| pollOut ||| pollPri) = 0

/-! ### The lists -/

/-- A file descriptor, or an NSPR descriptor by its address. -/
inductive PollFd where
  | fd (fd : Nat)
  | prfd (prfd : Nat)
deriving DecidableEq

/-- `struct pr_poll_loop_fd_entry`.  Of the callbacks it has which are there. -/
structure PollFdEntry where
  addr : Nat
  pollFd : PollFd
  events : UInt16
  setEventsCb : Bool
  readCb : Bool
  writeCb : Bool
  errCb : Bool
deriving DecidableEq

/-- `struct pr_poll_loop_pre_poll_cb_entry`.  A callback is a number. -/
structure PrePollCbEntry where
  addr : Nat
  prePollCb : Option Nat
deriving DecidableEq

/-- An item of the array for `PR_Poll`: the descriptor, and the pointer that is its user data. -/
structure PollItem where
  fd : PollFd
  inFlags : UInt16
  outFlags : UInt16 := 0
  userData : Nat
deriving DecidableEq

/-- `struct pr_poll_loop`, less the timer list. -/
structure PollLoop where
  fdList : List PollFdEntry := []
  prePollCbList : List PrePollCbEntry := []
  pollArray : List PollItem := []
  /-- How many entries were allocated; this is the next address. -/
  entryCount : Nat := 0

namespace PollLoop

/-- What is behind a pointer to an entry, unless it was freed. -/
def fdEntry (loop : PollLoop) (addr : Nat) : Option PollFdEntry :=
  loop.fdList.find? fun entry => entry.addr = addr

def prePollEntry (loop : PollLoop) (addr : Nat) : Option PrePollCbEntry :=
  loop.prePollCbList.find? fun entry => entry.addr = addr

/-- `pr_poll_loop_find_by_fd`. -/
def findByFd (loop : PollLoop) (fd : PollFd) : Option PollFdEntry :=
  loop.fdList.find? fun entry => entry.pollFd = fd

/-- `pr_poll_loop_find_pre_poll_cb`. -/
def findPrePollCb (loop : PollLoop) (prePollCb : Option Nat) : Option PrePollCbEntry :=
  loop.prePollCbList.find? fun entry => entry.prePollCb = prePollCb

/-- `pr_poll_loop_add_fd_int`, and whether it returns 0.  `alloc` is whether both allocations
    succeed, that of the entry and that of `PR_CreateSocketPollFd`. -/
def addFdInt (loop : PollLoop) (alloc : Bool) (fd : PollFd) (events : UInt16)
    (setEventsCb readCb writeCb errCb : Bool) : PollLoop × Bool :=
  if pollEventsValid events = false then (loop, false)
  else if (loop.findByFd fd).isSome then (loop, false)
  else if alloc = false then (loop, false)
  else
    let newEntry : PollFdEntry :=
      { addr := loop.entryCount, pollFd := fd, events, setEventsCb, readCb, writeCb, errCb }
    ({ loop with fdList := loop.fdList ++ [newEntry], entryCount := loop.entryCount + 1 }, true)

/-- `pr_poll_loop_del_fd_int`. -/
def delFdInt (loop : PollLoop) (fd : PollFd) : PollLoop × Bool :=
  match loop.findByFd fd with
  | none => (loop, false)
  | some fdEntry => ({ loop with fdList := loop.fdList.erase fdEntry }, true)

/-- `pr_poll_loop_add_pre_poll_cb`. -/
def addPrePollCb (loop : PollLoop) (alloc : Bool) (prePollCb : Option Nat) : PollLoop × Bool :=
  if (loop.findPrePollCb prePollCb).isSome then (loop, false)
  else if alloc = false then (loop, false)
  else
    ({ loop with
        prePollCbList := loop.prePollCbList ++ [{ addr := loop.entryCount, prePollCb }]
        entryCount := loop.entryCount + 1 }, true)

/-- `pr_poll_loop_del_pre_poll_cb`. -/
def delPrePollCb (loop : PollLoop) (prePollCb : Option Nat) : PollLoop × Bool :=
  match loop.findPrePollCb prePollCb with
  | none => (loop, false)
  | some entry => ({ loop with prePollCbList := loop.prePollCbList.erase entry }, true)

/-- The addresses of the entries, in the order of the list. -/
def fdAddrs (loop : PollLoop) : List Nat := loop.fdList.map PollFdEntry.addr

def prePollAddrs (loop : PollLoop) : List Nat := loop.prePollCbList.map PrePollCbEntry.addr

end PollLoop

/-- A call of one of the functions that a callback may call. -/
inductive PollOp where
  | addFd (alloc : Bool) (fd : PollFd) (events : UInt16) (setEventsCb readCb writeCb errCb : Bool)
  | delFd (fd : PollFd)
  | addPrePollCb (alloc : Bool) (prePollCb : Option Nat)
  | delPrePollCb (prePollCb : Option Nat)

/-- Do a call; what it returns is the business of the callback. -/
def PollOp.apply (loop : PollLoop) : PollOp → PollLoop
  | .addFd alloc fd events setEventsCb readCb writeCb errCb =>
    (loop.addFdInt alloc fd events setEventsCb readCb writeCb errCb).1
  | .delFd fd => (loop.delFdInt fd).1
  | .addPrePollCb alloc prePollCb => (loop.addPrePollCb alloc prePollCb).1
  | .delPrePollCb prePollCb => (loop.delPrePollCb prePollCb).1

/-! ### `pr_poll_loop_exec` -/

/-- The three looks at an item after `PR_Poll`. -/
inductive PollStage where
  | read
  | write
  | err
deriving DecidableEq

/-- The callback of a look. -/
def PollFdEntry.stageCb (entry : PollFdEntry) : PollStage → Bool
  | .read => entry.readCb
  | .write => entry.writeCb
  | .err => entry.errCb

/-- The part of the condition of a look that is about the flags.  Only if it holds, the user data is
    followed. -/
def PollItem.flagged (item : PollItem) : PollStage → Bool
  | .read => item.outFlags &&& prPollRead ≠ 0
  | .write => item.outFlags &&& prPollWrite ≠ 0
  | .err =>
    item.outFlags &&& (prPollErr ||| prPollNval ||| prPollHup ||| prPollExcept) ≠ 0 &&
      !decide (item.outFlags &&& (prPollRead ||| prPollWrite) ≠ 0)

/-- Where `pr_poll_loop_exec` is.  `next` is the pointer to the next entry that was saved before the
    callback was called. -/
inductive PollPhase where
  /-- Not called, or returned `res`. -/
  | idle (res : Int)
  | prePoll (entry : Option Nat)
  | prePollCb (entry : Nat) (next : Option Nat)
  | fill (fdEntry : Option Nat)
  | setEvents (fdEntry : Nat) (next : Option Nat)
  | polling
  | dispatch (i : Nat) (stage : PollStage)
  | callback (i : Nat) (stage : PollStage)
  | expiring
  /-- An entry was read that has been freed. -/
  | freed
deriving DecidableEq

/-- What the callback for the events of an entry has returned, or what the entry is added with when
    there is none. -/
structure PollAnswer where
  addr : Nat
  res : Int
  events : UInt16
deriving DecidableEq

/-- A call of a callback after `PR_Poll`, with the events that `fd_err_cb` is given. -/
inductive PollCall where
  | read (addr : Nat)
  | write (addr : Nat)
  | err (addr : Nat) (revents : UInt16)
deriving DecidableEq

/-- The call of a look at an item. -/
def PollItem.call (item : PollItem) : PollStage → PollCall
  | .read => .read item.userData
  | .write => .write item.userData
  | .err => .err item.userData (prEventsToPollEvents item.outFlags)

/-- The loop, and the answers and calls since `pr_poll_loop_exec` was entered; no function of the
    program reads these. -/
structure PollRun where
  loop : PollLoop := {}
  phase : PollPhase := .idle 0
  answers : List PollAnswer := []
  calls : List PollCall := []

/-- What happens next: `pr_poll_loop_exec` is called, goes on to its next callback or wait, a
    callback calls a function or returns `res` (with the events it has set), `PR_Poll` returns, the
    timers have expired.  `added` is whether `pr_poll_array_add` succeeds. -/
inductive PollEvent where
  | exec
  | advance (added : Bool)
  | call (op : PollOp)
  | returned (res : Int) (events : UInt16) (added : Bool)
  | polled (res : Int) (outFlags : Nat → UInt16)
  | expired

namespace PollRun

/-- Note what a callback for events has returned. -/
def answered (s : PollRun) (answer : PollAnswer) : PollRun :=
  { s with answers := s.answers ++ [answer] }

/-- The end of a round of the loop of `prepare_poll_array`, when the callback has returned `res`. -/
def filled (s : PollRun) (fdEntry : Nat) (next : Option Nat) (res : Int) (events : UInt16)
    (added : Bool) : PollRun :=
  let s := s.answered ⟨fdEntry, res, events⟩
  if pollEventsValid events = false then { s with phase := .idle (-2) }
  else
    -- no events: the entry is not added
    let res := if res = 0 ∧ events = 0 then -1 else res
    if res = 0 then
      if added = false then { s with phase := .idle (-1) }
      else
        match s.loop.fdEntry fdEntry with
        | none => { s with phase := .freed }
        | some entry =>
          let item : PollItem :=
            { fd := entry.pollFd, inFlags := pollEventsToPrEvents events, userData := fdEntry }
          { s with
            loop := { s.loop with pollArray := s.loop.pollArray ++ [item] }
            phase := .fill next }
    else if res = -1 then { s with phase := .fill next }
    else if res = -2 then { s with phase := .idle (-1) }
    else { s with phase := .idle (-2) }

/-- After a look at an item comes the next look, or the next item. -/
def afterStage (s : PollRun) (i : Nat) : PollStage → PollRun
  | .read => { s with phase := .dispatch i .write }
  | .write => { s with phase := .dispatch i .err }
  | .err => { s with phase := .dispatch (i + 1) .read }

/-- `pr_poll_loop_exec` up to its next callback or wait, or one round of one of its loops. -/
def advance (s : PollRun) (added : Bool) : Option PollRun :=
  match s.phase with
  | .prePoll none => some { s with phase := .fill s.loop.fdAddrs.head? }
  | .prePoll (some addr) =>
    match s.loop.prePollEntry addr with
    | none => some { s with phase := .freed }
    | some entry =>
      let next := Tailq.next s.loop.prePollAddrs addr
      if entry.prePollCb.isSome then some { s with phase := .prePollCb addr next }
      else some { s with phase := .prePoll next }
  | .fill none => some { s with phase := .polling }
  | .fill (some addr) =>
    match s.loop.fdEntry addr with
    | none => some { s with phase := .freed }
    | some entry =>
      let next := Tailq.next s.loop.fdAddrs addr
      if entry.setEventsCb then some { s with phase := .setEvents addr next }
      else some (s.filled addr next 0 entry.events added)
  | .dispatch i stage =>
    match s.loop.pollArray[i]? with
    | none => some { s with phase := .expiring }
    | some item =>
      if item.flagged stage then
        match s.loop.fdEntry item.userData with
        | none => some { s with phase := .freed }
        | some entry =>
          if entry.stageCb stage then
            some { s with phase := .callback i stage, calls := s.calls ++ [item.call stage] }
          else some (s.afterStage i stage)
      else some (s.afterStage i stage)
  | _ => none

/-- A callback, or `PR_Poll`, returns, or the timers have expired. -/
def returned (s : PollRun) (res : Int) (events : UInt16) (added : Bool) : Option PollRun :=
  match s.phase with
  | .prePollCb _ next =>
    if res = 0 then some { s with phase := .prePoll next }
    else if res = -1 then some { s with phase := .idle (-1) }
    else some { s with phase := .idle (-2) }
  | .setEvents addr next => some (s.filled addr next res events added)
  | .callback i stage =>
    if res ≠ 0 then some { s with phase := .idle (-1) } else some (s.afterStage i stage)
  | _ => none

/-- Something else than the poll loop itself runs. -/
def calling (s : PollRun) : Bool :=
  match s.phase with
  | .idle _ | .prePollCb _ _ | .setEvents _ _ | .callback _ _ | .expiring => true
  | .prePoll _ | .fill _ | .polling | .dispatch _ _ | .freed => false

/-- One event. -/
def step (s : PollRun) : PollEvent → Option PollRun
  | .exec =>
    match s.phase with
    | .idle _ =>
      some { loop := { s.loop with pollArray := [] }
             phase := .prePoll s.loop.prePollAddrs.head? }
    | _ => none
  | .advance added => s.advance added
  | .call op => if s.calling then some { s with loop := op.apply s.loop } else none
  | .returned res events added => s.returned res events added
  | .polled res outFlags =>
    if s.phase = .polling then
      if res > 0 then
        let pollArray := s.loop.pollArray.mapIdx fun i item => { item with outFlags := outFlags i }
        some { s with loop := { s.loop with pollArray }, phase := .dispatch 0 .read }
      else if res = -1 then some { s with phase := .idle (-3) }
      else some { s with phase := .expiring }
    else none
  | .expired => if s.phase = .expiring then some { s with phase := .idle 0 } else none

end PollRun

end Qdevice
