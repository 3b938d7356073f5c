import Qdevice.Native.Dynar

/-! # Lists of send buffers

`send-buffer-list.c`: messages wait in a list until they are written, and a written buffer goes
to a free list.  Of the free entries only the number matters. -/

namespace Qdevice

/-- `struct send_buffer_list_entry`. -/
structure SendBufferListEntry where
  buffer : Dynar
  msgAlreadySentBytes : Nat := 0
deriving DecidableEq

/-- `struct send_buffer_list`. -/
structure SendBufferList where
  maxListEntries : Nat
  allocatedListEntries : Nat := 0
  maxBufferSize : Nat
  list : List SendBufferListEntry := []
  freeList : Nat := 0
deriving DecidableEq

/-- `send_buffer_list_get_new`: an empty buffer that is in neither of the lists. -/
def sendBufferListGetNew (sblist : SendBufferList) :
    Option (SendBufferListEntry × SendBufferList) :=
  let entry : SendBufferListEntry := { buffer := dynarInit sblist.maxBufferSize }
  if 0 < sblist.freeList then some (entry, { sblist with freeList := sblist.freeList - 1 })
  else if sblist.allocatedListEntries + 1 > sblist.maxListEntries then none
  else some (entry, { sblist with allocatedListEntries := sblist.allocatedListEntries + 1 })

/-- `send_buffer_list_put`. -/
def sendBufferListPut (sblist : SendBufferList) (entry : SendBufferListEntry) : SendBufferList :=
  { sblist with list := sblist.list ++ [entry] }

/-- `send_buffer_list_discard_new`. -/
def sendBufferListDiscardNew (sblist : SendBufferList) : SendBufferList :=
  { sblist with freeList := sblist.freeList + 1 }

/-- `send_buffer_list_get_active`. -/
def sendBufferListGetActive (sblist : SendBufferList) : Option SendBufferListEntry :=
  sblist.list.head?

/-- `send_buffer_list_delete`, of the active entry. -/
def sendBufferListDeleteActive (sblist : SendBufferList) : SendBufferList :=
  { sblist with list := sblist.list.tail, freeList := sblist.freeList + 1 }

/-- Take a new buffer, fill it and put it into the list; if it cannot be filled it is discarded.
    `false` is an error. -/
def sendBufferListAppend (fill : DynarM Unit) (sblist : SendBufferList) : Bool × SendBufferList :=
  match sendBufferListGetNew sblist with
  | none => (false, sblist)
  | some (entry, sblist) =>
    match fill entry.buffer with
    | (none, _) => (false, sendBufferListDiscardNew sblist)
    | (some (), buffer) => (true, sendBufferListPut sblist { entry with buffer := buffer })

/-- What still has to be written. -/
def SendBufferList.pending (sblist : SendBufferList) : List UInt8 :=
  sblist.list.flatMap fun entry => entry.buffer.data.drop entry.msgAlreadySentBytes

/-- What is left behind when a buffer was filled and put into the list. -/
theorem sendBufferListAppend_true {fill : DynarM Unit} {sblist sblist' : SendBufferList}
    (h : sendBufferListAppend fill sblist = (true, sblist')) :
    ∃ buffer, fill (dynarInit sblist.maxBufferSize) = (some (), buffer) ∧
      sblist'.list = sblist.list ++ [{ buffer := buffer }] ∧
      sblist'.maxBufferSize = sblist.maxBufferSize := by
  simp only [sendBufferListAppend, sendBufferListGetNew] at h
  split at h
  · cases h
  · next entry sblist₁ hnew =>
    have hentry : entry = { buffer := dynarInit sblist.maxBufferSize } ∧
        sblist₁.list = sblist.list ∧ sblist₁.maxBufferSize = sblist.maxBufferSize := by
      split at hnew
      · cases hnew
        exact ⟨rfl, rfl, rfl⟩
      · split at hnew
        · cases hnew
        · cases hnew
          exact ⟨rfl, rfl, rfl⟩
    obtain ⟨rfl, hlist, hmax⟩ := hentry
    split at h
    · cases h
    · next buffer hbuffer =>
      obtain rfl := congrArg Prod.snd h
      exact ⟨buffer, hbuffer, by rw [← hlist]; rfl, hmax⟩

/-- What waits to be written is the same when this fails. -/
theorem sendBufferListAppend_false {fill : DynarM Unit} {sblist sblist' : SendBufferList}
    (h : sendBufferListAppend fill sblist = (false, sblist')) :
    sblist'.list = sblist.list ∧ sblist'.maxBufferSize = sblist.maxBufferSize := by
  simp only [sendBufferListAppend, sendBufferListGetNew] at h
  split at h
  · obtain rfl := congrArg Prod.snd h
    exact ⟨rfl, rfl⟩
  · next entry sblist₁ hnew =>
    have hsame : sblist₁.list = sblist.list ∧ sblist₁.maxBufferSize = sblist.maxBufferSize := by
      split at hnew
      · cases hnew
        exact ⟨rfl, rfl⟩
      · split at hnew
        · cases hnew
        · cases hnew
          exact ⟨rfl, rfl⟩
    split at h
    · obtain rfl := congrArg Prod.snd h
      exact hsame
    · cases h

/-- A buffer can be had when one is free. -/
theorem sendBufferListAppend_free (fill : DynarM Unit) {sblist : SendBufferList} {buffer : Dynar}
    (hfree : 0 < sblist.freeList)
    (hfill : fill (dynarInit sblist.maxBufferSize) = (some (), buffer)) :
    sendBufferListAppend fill sblist = (true, { sblist with
      list := sblist.list ++ [{ buffer := buffer }], freeList := sblist.freeList - 1 }) := by
  simp only [sendBufferListAppend, sendBufferListGetNew, hfree, ↓reduceIte, hfill]
  rfl

end Qdevice
