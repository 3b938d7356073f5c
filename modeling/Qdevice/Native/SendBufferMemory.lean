import Mathlib.Logic.Function.Basic
import Qdevice.Native.SendBufferList

/-! # Send buffers in memory

`send-buffer-list.c` with the entries behind pointers, and what writes them to a socket
(`msgio_write` and `qnetd_client_net_write`).  An entry that was written or discarded keeps its
content on the free list until it is used again. -/

namespace Qdevice

/-- A pointer to a `struct send_buffer_list_entry`. -/
abbrev SendBufferPtr := Nat

/-- `struct send_buffer_list`.  `nextPtr` is a pointer that `malloc` has not returned yet. -/
structure SendBufferMemory where
  maxListEntries : Nat
  allocatedListEntries : Nat := 0
  maxBufferSize : Nat
  list : List SendBufferPtr := []
  freeList : List SendBufferPtr := []
  entries : SendBufferPtr → SendBufferListEntry := fun _ => { buffer := { maximumSize := 0 } }
  nextPtr : SendBufferPtr := 0

namespace SendBufferMemory

variable (sblist : SendBufferMemory)

/-- Write to the entry behind a pointer. -/
def store (ptr : SendBufferPtr) (entry : SendBufferListEntry) : SendBufferMemory :=
  { sblist with entries := Function.update sblist.entries ptr entry }

/-- `send_buffer_list_get_new`.  `alloc` is whether `malloc` succeeds; the entry has been counted
    by then. -/
def getNew (alloc : Bool) : Option SendBufferPtr × SendBufferMemory :=
  match sblist.freeList with
  | ptr :: freeList =>
    -- The content of the old buffer is still there.
    let buffer := { dynarClean (sblist.entries ptr).buffer with
      maximumSize := sblist.maxBufferSize }
    (some ptr, { sblist with freeList := freeList }.store ptr
      { sblist.entries ptr with buffer := buffer, msgAlreadySentBytes := 0 })
  | [] =>
    if sblist.allocatedListEntries + 1 > sblist.maxListEntries then (none, sblist)
    else
      let sblist := { sblist with allocatedListEntries := sblist.allocatedListEntries + 1 }
      if alloc then
        (some sblist.nextPtr, { sblist with nextPtr := sblist.nextPtr + 1 }.store sblist.nextPtr
          { buffer := dynarInit sblist.maxBufferSize, msgAlreadySentBytes := 0 })
      else (none, sblist)

section

variable {sblist} (alloc : Bool)

/-- An entry that was used before. -/
theorem getNew_cons {ptr : SendBufferPtr} {freeList : List SendBufferPtr}
    (hfree : sblist.freeList = ptr :: freeList) :
    sblist.getNew alloc = (some ptr, { sblist with freeList := freeList }.store ptr
      { buffer := { dynarClean (sblist.entries ptr).buffer with
          maximumSize := sblist.maxBufferSize } }) := by
  simp only [getNew, hfree]

/-- There are as many entries as there may be. -/
theorem getNew_full (hfree : sblist.freeList = [])
    (hfull : sblist.maxListEntries ≤ sblist.allocatedListEntries) :
    sblist.getNew alloc = (none, sblist) := by
  simp only [getNew, hfree, if_pos (Nat.lt_succ_of_le hfull)]

theorem getNew_malloc (hfree : sblist.freeList = [])
    (hroom : sblist.allocatedListEntries < sblist.maxListEntries) :
    sblist.getNew true = (some sblist.nextPtr, { sblist with
      allocatedListEntries := sblist.allocatedListEntries + 1
      nextPtr := sblist.nextPtr + 1 }.store sblist.nextPtr
        { buffer := dynarInit sblist.maxBufferSize }) := by
  simp only [getNew, hfree, if_neg (Nat.not_lt.mpr (Nat.succ_le_of_lt hroom)), ↓reduceIte]

/-- `malloc` fails, when the entry has been counted. -/
theorem getNew_mallocFails (hfree : sblist.freeList = [])
    (hroom : sblist.allocatedListEntries < sblist.maxListEntries) :
    sblist.getNew false = (none, { sblist with
      allocatedListEntries := sblist.allocatedListEntries + 1 }) := by
  simp only [getNew, hfree, if_neg (Nat.not_lt.mpr (Nat.succ_le_of_lt hroom)), Bool.false_eq_true,
    ↓reduceIte]

end

/-- `send_buffer_list_put`. -/
def put (ptr : SendBufferPtr) : SendBufferMemory := { sblist with list := sblist.list ++ [ptr] }

/-- `send_buffer_list_discard_new`. -/
def discardNew (ptr : SendBufferPtr) : SendBufferMemory :=
  { sblist with freeList := ptr :: sblist.freeList }

/-- `send_buffer_list_get_active`. -/
def getActive : Option SendBufferPtr := sblist.list.head?

/-- `send_buffer_list_delete`. -/
def delete (ptr : SendBufferPtr) : SendBufferMemory :=
  { sblist with list := sblist.list.erase ptr, freeList := ptr :: sblist.freeList }

end SendBufferMemory

/-! ### Writing -/

/-- What `PR_Send` returned: the number of bytes that the socket took, or -1 with
    `PR_WOULD_BLOCK_ERROR` or another error. -/
inductive Send where
  | sent (bytes : Nat)
  | wouldBlock
  | error
deriving DecidableEq

/-- The return values of `msgio_write`: 1, 0, -1 and -2. -/
inductive MsgioWriteResult where
  | allSent
  | notAllSent
  | sentNothing
  | unhandledError
deriving DecidableEq

/-- The bytes that `msgio_write` offers to `PR_Send`. -/
def msgioOffered (msg : Dynar) (alreadySentBytes : Nat) : List UInt8 :=
  (msg.data.drop alreadySentBytes).take (min 1024 (dynarSize msg - alreadySentBytes))

/-- `msgio_write`: its result and `already_sent_bytes` afterwards. -/
def msgioWrite (send : Send) (msg : Dynar) (alreadySentBytes : Nat) : MsgioWriteResult × Nat :=
  match send with
  | .sent 0 => (.sentNothing, alreadySentBytes)
  | .sent bytes =>
    let alreadySentBytes := alreadySentBytes + bytes
    (if alreadySentBytes = dynarSize msg then .allSent else .notAllSent, alreadySentBytes)
  | .wouldBlock => (.notAllSent, alreadySentBytes)
  | .error => (.unhandledError, alreadySentBytes)

/-- `qnetd_client_net_write`: whether it returned 0, and the bytes that the socket took. -/
def qnetdClientNetWrite (send : Send) (sblist : SendBufferMemory) :
    Bool × List UInt8 × SendBufferMemory :=
  match sblist.getActive with
  | none => (false, [], sblist)
  | some ptr =>
    let entry := sblist.entries ptr
    let offered := msgioOffered entry.buffer entry.msgAlreadySentBytes
    let taken :=
      match send with
      | .sent bytes => offered.take bytes
      | _ => []
    match msgioWrite send entry.buffer entry.msgAlreadySentBytes with
    | (res, alreadySentBytes) =>
      let sblist := sblist.store ptr { entry with msgAlreadySentBytes := alreadySentBytes }
      match res with
      | .allSent => (true, taken, sblist.delete ptr)
      | .notAllSent => (true, taken, sblist)
      | .sentNothing => (false, taken, sblist)
      | .unhandledError => (false, taken, sblist)

end Qdevice
