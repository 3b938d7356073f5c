import Mathlib.Algebra.Group.Nat.Defs
import Mathlib.Logic.Function.Basic
import Qdevice.ForStd.Heap

/-! # The timer list

`timer-list.c`: a binary heap of pointers to entries, and a list of free entries.  An entry
is a number that stands for its address, and `entry` gives what is stored there.  The array
is the list of its first `size` slots, since no other slot is read.  A function in which an
`assert` fails, or a loop of which does not end, returns `none`.

`PR_IntervalNow` is the argument `now`, a clock that does not wrap, of which an entry gets
the last 32 bits.  `PR_MillisecondsToInterval` is `toInterval`. -/

namespace Qdevice

/-- `TIMER_LIST_MAX_INTERVAL`. -/
def timerListMaxInterval : UInt32 := 18000000

/-- `struct timer_list_entry`, less the callback and its arguments. -/
structure TimerListEntry where
  epoch : UInt32 := 0
  interval : UInt32 := 0
  expireTime : UInt32 := 0
  isActive : Bool := false
  heapPos : Nat := 0
  /-- The clock when `epoch` was set; no function of the program reads it. -/
  since : Nat := 0
deriving DecidableEq

/-- `struct timer_list`, with the entries that were allocated for it. -/
structure TimerList where
  allocated : Nat := 0
  entries : List Nat := []
  freeList : List Nat := []
  /-- How many entries `malloc` has returned; these are the numbers below. -/
  entryCount : Nat := 0
  entry : Nat → TimerListEntry := fun _ => {}

namespace TimerList

/-- `tlist->size`. -/
def size (tlist : TimerList) : Nat := tlist.entries.length

/-- Write to an entry. -/
def modifyEntry (tlist : TimerList) (e : Nat) (f : TimerListEntry → TimerListEntry) : TimerList :=
  { tlist with entry := Function.update tlist.entry e (f (tlist.entry e)) }

end TimerList

/-- `~(size_t)0`. -/
def noHeapPos : Nat := 2 ^ 64 - 1

/-- `timer_list_entry_time_to_expire`. -/
def timerListEntryTimeToExpire (entry : TimerListEntry) (currentTime : UInt32) : UInt32 :=
  let diff := entry.expireTime - currentTime
  let halfInterval : UInt32 := (~~~0) / 2
  if diff > halfInterval then 0 else diff

/-- `timer_list_entry_cmp`. -/
def timerListEntryCmp (entry₁ entry₂ : TimerListEntry) (currentTime : UInt32) : Int :=
  let diff₁ := timerListEntryTimeToExpire entry₁ currentTime
  let diff₂ := timerListEntryTimeToExpire entry₂ currentTime
  if diff₁ > diff₂ then 1 else if diff₁ < diff₂ then -1 else 0

/-- `timer_list_heap_index_left`. -/
def timerListHeapIndexLeft (index : Nat) : Nat := 2 * index + 1

/-- `timer_list_heap_index_right`. -/
def timerListHeapIndexRight (index : Nat) : Nat := 2 * index + 2

/-- `timer_list_heap_index_parent`; of 0 it is not used. -/
def timerListHeapIndexParent (index : Nat) : Nat := (index - 1) / 2

/-- `timer_list_heap_entry_set`. -/
def timerListHeapEntrySet (tlist : TimerList) (itemPos : Nat) (e : Nat) : Option TimerList :=
  if itemPos < tlist.size then
    some ({ tlist with entries := tlist.entries.set itemPos e }.modifyEntry e
      fun entry => { entry with heapPos := itemPos })
  else none

/-- `timer_list_heap_entry_get`. -/
def timerListHeapEntryGet (tlist : TimerList) (itemPos : Nat) : Option Nat :=
  if itemPos < tlist.size then tlist.entries[itemPos]? else none

/-- Swap two slots; the entries in them are given. -/
def timerListHeapSwap (tlist : TimerList) (pos₁ e₁ pos₂ e₂ : Nat) : Option TimerList := do
  let tlist ← timerListHeapEntrySet tlist pos₁ e₁
  timerListHeapEntrySet tlist pos₂ e₂

/-- The loop of `timer_list_heap_sift_up`, at most `fuel` rounds of it. -/
def timerListHeapSiftUpLoop : (fuel : Nat) → TimerList → (itemEntry itemPos : Nat) →
    Option TimerList
  | 0, _, _, _ => none
  | fuel + 1, tlist, itemEntry, itemPos =>
    if itemPos > 0 then do
      let parentPos := timerListHeapIndexParent itemPos
      let parentEntry ← timerListHeapEntryGet tlist parentPos
      if timerListEntryCmp (tlist.entry parentEntry) (tlist.entry itemEntry)
          (tlist.entry itemEntry).epoch > 0 then
        let tlist ← timerListHeapSwap tlist parentPos itemEntry itemPos parentEntry
        timerListHeapSiftUpLoop fuel tlist itemEntry parentPos
      else some tlist
    else some tlist

/-- `timer_list_heap_sift_up`. -/
def timerListHeapSiftUp (tlist : TimerList) (itemPos : Nat) : Option TimerList := do
  let itemEntry ← timerListHeapEntryGet tlist itemPos
  timerListHeapSiftUpLoop (itemPos + 1) tlist itemEntry itemPos

/-- One of the two looks at a child in `timer_list_heap_sift_down`: the smallest entry so far and
    its position, and the same after the look. -/
def timerListHeapSmaller (tlist : TimerList) (childPos : Nat) (smallest : Nat × Nat) :
    Option (Nat × Nat) :=
  if childPos < tlist.size then do
    let childEntry ← timerListHeapEntryGet tlist childPos
    if timerListEntryCmp (tlist.entry childEntry) (tlist.entry smallest.1)
        (tlist.entry smallest.1).epoch < 0 then
      some (childEntry, childPos)
    else some smallest
  else some smallest

/-- The loop of `timer_list_heap_sift_down`, at most `fuel` rounds of it. -/
def timerListHeapSiftDownLoop : (fuel : Nat) → TimerList → (itemPos : Nat) → Option TimerList
  | 0, _, _ => none
  | fuel + 1, tlist, itemPos => do
    let itemEntry ← timerListHeapEntryGet tlist itemPos
    let smallest ← timerListHeapSmaller tlist (timerListHeapIndexLeft itemPos) (itemEntry, itemPos)
    let smallest ← timerListHeapSmaller tlist (timerListHeapIndexRight itemPos) smallest
    if smallest.2 = itemPos then some tlist
    else
      let tmpEntry ← timerListHeapEntryGet tlist itemPos
      let tlist ← timerListHeapSwap tlist itemPos smallest.1 smallest.2 tmpEntry
      timerListHeapSiftDownLoop fuel tlist smallest.2

/-- `timer_list_heap_sift_down`. -/
def timerListHeapSiftDown (tlist : TimerList) (itemPos : Nat) : Option TimerList :=
  timerListHeapSiftDownLoop (tlist.size + 1) tlist itemPos

/-- `timer_list_heap_delete`. -/
def timerListHeapDelete (tlist : TimerList) (e : Nat) : Option TimerList := do
  let entryPos := (tlist.entry e).heapPos
  let tlist := tlist.modifyEntry e fun entry => { entry with heapPos := noHeapPos }
  let replacementEntry ← timerListHeapEntryGet tlist (tlist.size - 1)
  let tlist ← timerListHeapEntrySet tlist entryPos replacementEntry
  let tlist := { tlist with entries := tlist.entries.dropLast }
  let cmpEntries := timerListEntryCmp (tlist.entry replacementEntry) (tlist.entry e)
    (tlist.entry e).epoch
  if cmpEntries < 0 then timerListHeapSiftUp tlist entryPos
  else if cmpEntries > 0 then timerListHeapSiftDown tlist entryPos
  else some tlist

/-- `timer_list_debug_is_valid_heap`, for one child of one position. -/
def timerListDebugChild (tlist : TimerList) (pos childPos : Nat) : Bool :=
  match tlist.entries[pos]?, tlist.entries[childPos]? with
  | some curEntry, some childEntry =>
    !decide (timerListEntryCmp (tlist.entry childEntry) (tlist.entry curEntry)
      (tlist.entry curEntry).epoch < 0)
  | _, _ => true

/-- `timer_list_debug_is_valid_heap`. -/
def timerListDebugIsValidHeap (tlist : TimerList) : Bool :=
  (List.range tlist.size).all fun i =>
    timerListDebugChild tlist i (timerListHeapIndexLeft i) &&
      timerListDebugChild tlist i (timerListHeapIndexRight i)

section

variable (toInterval : UInt32 → UInt32)

/-- `timer_list_insert_into_list`: whether it succeeded.  `realloc` is whether the array can grow. -/
def timerListInsertIntoList (realloc : Bool) (tlist : TimerList) (e : Nat) :
    Option (TimerList × Bool) := do
  let tlist := tlist.modifyEntry e fun entry =>
    { entry with expireTime := entry.epoch + toInterval entry.interval }
  if tlist.size + 1 > tlist.allocated ∧ realloc = false then some (tlist, false)
  else
    let allocated :=
      if tlist.size + 1 > tlist.allocated then (tlist.allocated + 1) * 2 else tlist.allocated
    let tlist := { tlist with allocated := allocated, entries := tlist.entries ++ [e] }
    let tlist ← timerListHeapEntrySet tlist (tlist.size - 1) e
    let tlist ← timerListHeapSiftUp tlist (tlist.size - 1)
    some (tlist, true)

/-- What the two allocations of `timer_list_add` return. -/
structure TimerAlloc where
  malloc : Bool := true
  realloc : Bool := true

/-- An entry for a new timer: the first free one, or a new one. -/
def timerListTake (malloc : Bool) (tlist : TimerList) : Option (TimerList × Nat) :=
  match tlist.freeList with
  | e :: freeList => some ({ tlist with freeList := freeList }, e)
  | [] =>
    if malloc then some ({ tlist with entryCount := tlist.entryCount + 1 }, tlist.entryCount)
    else none

/-- `timer_list_add`, with the entry it returns.  `func` is whether there is a callback. -/
def timerListAdd (alloc : TimerAlloc) (now : Nat) (interval : UInt32) (func : Bool)
    (tlist : TimerList) : Option (TimerList × Option Nat) :=
  if interval < 1 ∨ interval > timerListMaxInterval ∨ func = false then some (tlist, none)
  else
    match timerListTake alloc.malloc tlist with
    | none => some (tlist, none)
    | some (tlist, e) => do
      let tlist := tlist.modifyEntry e fun _ =>
        { epoch := UInt32.ofNat now, interval := interval, isActive := true, heapPos := noHeapPos,
          since := now }
      let (tlist, inserted) ← timerListInsertIntoList toInterval alloc.realloc tlist e
      if inserted then some (tlist, some e)
      else some ({ tlist with freeList := e :: tlist.freeList }, none)

/-- Take an entry out of the heap, write to it and put it in again; the result of the
    insertion is ignored. -/
def timerListReinsert (realloc : Bool) (f : TimerListEntry → TimerListEntry) (tlist : TimerList)
    (e : Nat) : Option TimerList := do
  let tlist ← timerListHeapDelete tlist e
  let (tlist, _) ← timerListInsertIntoList toInterval realloc (tlist.modifyEntry e f) e
  some tlist

/-- `timer_list_entry_reschedule`. -/
def timerListEntryReschedule (realloc : Bool) (now : Nat) (tlist : TimerList) (e : Nat) :
    Option TimerList :=
  if (tlist.entry e).isActive then
    timerListReinsert toInterval realloc
      (fun entry => { entry with epoch := UInt32.ofNat now, since := now }) tlist e
  else some tlist

/-- `timer_list_entry_delete`. -/
def timerListEntryDelete (tlist : TimerList) (e : Nat) : Option TimerList :=
  if (tlist.entry e).isActive then do
    let tlist ← timerListHeapDelete tlist e
    some ({ tlist with freeList := e :: tlist.freeList }.modifyEntry e
      fun entry => { entry with isActive := false })
  else some tlist

/-- `timer_list_entry_set_interval`, and whether it returned 0. -/
def timerListEntrySetInterval (realloc : Bool) (now : Nat) (interval : UInt32) (tlist : TimerList)
    (e : Nat) : Option (TimerList × Bool) :=
  if interval < 1 ∨ interval > timerListMaxInterval then some (tlist, false)
  else if (tlist.entry e).isActive = false then some (tlist, false)
  else do
    let tlist ← timerListReinsert toInterval realloc
      (fun entry => { entry with interval := interval, epoch := UInt32.ofNat now, since := now })
      tlist e
    some (tlist, true)

/-- `timer_list_time_to_expire`. -/
def timerListTimeToExpire (now : Nat) (tlist : TimerList) : UInt32 :=
  match tlist.entries with
  | [] => ~~~0
  | e :: _ => timerListEntryTimeToExpire (tlist.entry e) (UInt32.ofNat now)

/-- The test of the loop of `timer_list_expire`: the entry whose callback is called next. -/
def timerListExpired (now : Nat) (tlist : TimerList) : Option Nat :=
  match tlist.entries with
  | [] => none
  | e :: _ =>
    if timerListEntryTimeToExpire (tlist.entry e) (UInt32.ofNat now) = 0 then some e else none

/-- What `timer_list_expire` does when the callback of an entry has returned; `again` is whether
    it returned something other than 0. -/
def timerListExpireReturned (realloc : Bool) (now : Nat) (again : Bool) (tlist : TimerList)
    (e : Nat) : Option TimerList :=
  if again = false then timerListEntryDelete tlist e
  else timerListEntryReschedule toInterval realloc now tlist e

end

end Qdevice
