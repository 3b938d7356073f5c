import Mathlib.Data.Nat.Notation

/-! # The array for `PR_Poll`

`pr-poll-array.c`: two arrays that grow and shrink together, one of descriptors and one of user
data, which callers fill in.  Only the memory is modelled, and not what is in it. -/

namespace Qdevice

/-- `struct pr_poll_array`.  Of `array` and `user_data_array` this has for how many descriptors,
    and for how many bytes, there is memory behind the pointer.  (`user_data_size` is the size of a
    pointer; so `realloc` has failed long before a product of sizes exceeds a `size_t`.) -/
structure PrPollArray where
  array : Nat := 0
  userDataArray : Nat := 0
  userDataSize : Nat
  allocated : Nat := 0
  items : Nat := 0
deriving DecidableEq

/-- Whether the two calls of `realloc` in `pr_poll_array_realloc` succeed. -/
structure PrPollArrayAlloc where
  array : Bool := true
  userDataArray : Bool := true
deriving DecidableEq

/-- What `pr_poll_array_add` hands out: where the descriptor is in `array`, at which byte of
    `user_data_array` its user data starts, and the index that is returned. -/
structure PrPollSlot where
  pfds : Nat
  userData : Nat
  pos : Nat
deriving DecidableEq

/-- `pr_poll_array_init`. -/
def prPollArrayInit (userDataSize : Nat) : PrPollArray where
  userDataSize := userDataSize

variable (pollArray : PrPollArray)

/-- `pr_poll_array_clean`. -/
def prPollArrayClean : PrPollArray := { pollArray with items := 0 }

/-- `pr_poll_array_realloc`: whether it returns 0. -/
def prPollArrayRealloc (alloc : PrPollArrayAlloc) (newArraySize : Nat) : Bool × PrPollArray :=
  if alloc.array = false then (false, pollArray)
  else
    let pollArray := { pollArray with allocated := newArraySize, array := newArraySize }
    if pollArray.userDataSize > 0 then
      if alloc.userDataArray = false then (false, pollArray)
      else (true, { pollArray with userDataArray := pollArray.userDataSize * newArraySize })
    else (true, pollArray)

/-- `pr_poll_array_size`. -/
def prPollArraySize : Nat := pollArray.items

/-- The end of `pr_poll_array_add`. -/
def prPollArrayNextSlot : PrPollSlot × PrPollArray :=
  ({ pfds := prPollArraySize pollArray
     userData := pollArray.items * pollArray.userDataSize
     pos := pollArray.items },
    { pollArray with items := pollArray.items + 1 })

/-- `pr_poll_array_add`: `none` is -1. -/
def prPollArrayAdd (alloc : PrPollArrayAlloc) : Option PrPollSlot × PrPollArray :=
  if prPollArraySize pollArray ≥ pollArray.allocated then
    match prPollArrayRealloc pollArray alloc (pollArray.allocated * 2 + 1) with
    | (false, pollArray) => (none, pollArray)
    | (true, pollArray) =>
      let (slot, pollArray) := prPollArrayNextSlot pollArray
      (some slot, pollArray)
  else
    let (slot, pollArray) := prPollArrayNextSlot pollArray
    (some slot, pollArray)

/-- `pr_poll_array_gc`, which does not look at the result of `pr_poll_array_realloc`. -/
def prPollArrayGc (alloc : PrPollArrayAlloc) : PrPollArray :=
  if pollArray.allocated > prPollArraySize pollArray * 3 + 1 then
    (prPollArrayRealloc pollArray alloc (prPollArraySize pollArray * 2 + 1)).2
  else pollArray

/-- `pr_poll_array_get`: the index in `array`, or `none` for `NULL`.  A `ssize_t` can be negative. -/
def prPollArrayGet (pos : Int) : Option Int :=
  if pos ≥ pollArray.items then none else some pos

/-- `pr_poll_array_get_user_data`: the first byte in `user_data_array`, or `none` for `NULL`. -/
def prPollArrayGetUserData (pos : Int) : Option Int :=
  if pos ≥ pollArray.items then none else some (pos * pollArray.userDataSize)

end Qdevice
