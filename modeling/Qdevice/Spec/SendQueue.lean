import Mathlib.Data.List.Nodup
import Qdevice.ForStd.Runs
import Qdevice.Native.SendBufferMemory

/-! # The send queue is a byte-exact FIFO

Callers take new entries, fill them, and put them into the list or discard them, in any order, and
`qnetd_client_net_write` writes the head of the list piece by piece.  What the socket has taken and
what still has to be written is always the concatenation of the messages that were put. -/

namespace Qdevice

/-! ### Runs -/

/-- A send buffer list with its callers: the entries they hold, and the record of what was put
    into the list and of what the socket has taken. -/
structure SendQueue where
  sblist : SendBufferMemory
  held : List SendBufferPtr := []
  messages : List (List UInt8) := []
  taken : List UInt8 := []

/-- A call of a caller, or of the poll loop. -/
inductive SendQueueOp where
  | getNew (alloc : Bool)
  | fill (ptr : SendBufferPtr) (code : DynarM Unit)
  | put (ptr : SendBufferPtr)
  | discardNew (ptr : SendBufferPtr)
  | setMaxBufferSize (size : Nat)
  | setMaxListEntries (entries : Nat)
  | write (send : Send)

/-- The outcome of `PR_Send` is possible: it takes no more than it is offered. -/
def SendPossible (sblist : SendBufferMemory) : Send → Prop
  | .sent bytes => ∀ ptr ∈ sblist.getActive, bytes ≤
      (msgioOffered (sblist.entries ptr).buffer (sblist.entries ptr).msgAlreadySentBytes).length
  | .wouldBlock => True
  | .error => True

instance (sblist : SendBufferMemory) : (send : Send) → Decidable (SendPossible sblist send)
  | .sent _ => Option.decidableForallMem _
  | .wouldBlock => instDecidableTrue
  | .error => instDecidableTrue

/-- One call.  A caller fills, puts and discards only entries that it holds. -/
def sendQueueStep (queue : SendQueue) : SendQueueOp → Option SendQueue
  | .getNew alloc =>
    match queue.sblist.getNew alloc with
    | (none, sblist) => some { queue with sblist }
    | (some ptr, sblist) => some { queue with sblist, held := ptr :: queue.held }
  | .fill ptr code =>
    if ptr ∈ queue.held then
      let entry := queue.sblist.entries ptr
      some { queue with
        sblist := queue.sblist.store ptr { entry with buffer := (code entry.buffer).2 } }
    else none
  | .put ptr =>
    if ptr ∈ queue.held then some { queue with
      sblist := queue.sblist.put ptr
      held := queue.held.erase ptr
      messages := queue.messages ++ [(queue.sblist.entries ptr).buffer.data] }
    else none
  | .discardNew ptr =>
    if ptr ∈ queue.held then some { queue with
      sblist := queue.sblist.discardNew ptr
      held := queue.held.erase ptr }
    else none
  | .setMaxBufferSize size => some { queue with
      sblist := { queue.sblist with maxBufferSize := size } }
  | .setMaxListEntries entries => some { queue with
      sblist := { queue.sblist with maxListEntries := entries } }
  | .write send =>
    if SendPossible queue.sblist send then
      match qnetdClientNetWrite send queue.sblist with
      | (_, taken, sblist) => some { queue with sblist, taken := queue.taken ++ taken }
    else none

/-- The calls one after the other, from `send_buffer_list_init` on. -/
def sendQueueMachine (maxListEntries maxBufferSize : Nat) : Runs.Machine SendQueue SendQueueOp where
  init := { sblist := { maxListEntries, maxBufferSize } }
  step := sendQueueStep

/-! ### The invariant -/

/-- What still has to be written of an entry. -/
def SendBufferMemory.left (sblist : SendBufferMemory) (ptr : SendBufferPtr) : List UInt8 :=
  (sblist.entries ptr).buffer.data.drop (sblist.entries ptr).msgAlreadySentBytes

/-- What still has to be written. -/
def SendBufferMemory.pending (sblist : SendBufferMemory) : List UInt8 :=
  sblist.list.flatMap sblist.left

/-- All entries there are. -/
def SendQueue.ptrs (queue : SendQueue) : List SendBufferPtr :=
  queue.sblist.list ++ queue.sblist.freeList ++ queue.held

/-- What holds between two calls: each entry is in one place, the entries that callers hold have
    not been sent, and no byte is lost. -/
structure SendQueueOk (queue : SendQueue) : Prop where
  nodup : queue.ptrs.Nodup
  fresh : ∀ ptr ∈ queue.ptrs, ptr < queue.sblist.nextPtr
  unsent : ∀ ptr ∈ queue.held, (queue.sblist.entries ptr).msgAlreadySentBytes = 0
  conserved : queue.taken ++ queue.sblist.pending = queue.messages.flatten

/-- Writing to an entry that is not in the list. -/
theorem pending_store {sblist : SendBufferMemory} {ptr : SendBufferPtr} (h : ptr ∉ sblist.list)
    (entry : SendBufferListEntry) : (sblist.store ptr entry).pending = sblist.pending := by
  refine List.flatMap_congr fun ptr' hptr' => ?_
  have hne : ptr' ≠ ptr := fun heq => h (heq ▸ hptr')
  simp only [SendBufferMemory.left, SendBufferMemory.store, Function.update_of_ne hne]

namespace SendQueueOk

variable {queue queue' : SendQueue} {ptr : SendBufferPtr}

theorem notMem_list_of_held (h : SendQueueOk queue) (hheld : ptr ∈ queue.held) :
    ptr ∉ queue.sblist.list := by
  intro hlist
  have hdisjoint := List.disjoint_of_nodup_append h.nodup
  exact hdisjoint (List.mem_append_left _ hlist) hheld

/-- An entry goes from the free list, or from `malloc`, to a caller.  It is empty, nothing of it
    has been sent, and its limit is the current one. -/
theorem getNew (h : SendQueueOk queue) {alloc : Bool} {sblist : SendBufferMemory}
    (hnew : queue.sblist.getNew alloc = (some ptr, sblist)) :
    SendQueueOk { queue with sblist := sblist, held := ptr :: queue.held } ∧
      sblist.entries ptr = { buffer := dynarInit queue.sblist.maxBufferSize } := by
  -- In both cases the entry was in no list and no caller had it.
  have hunsent {ptrs : List SendBufferPtr} {entry : SendBufferListEntry}
      (hentry : entry.msgAlreadySentBytes = 0)
      (hold : ∀ ptr ∈ ptrs, (queue.sblist.entries ptr).msgAlreadySentBytes = 0) :
      ∀ ptr' ∈ ptr :: ptrs,
        (Function.update queue.sblist.entries ptr entry ptr').msgAlreadySentBytes = 0 := by
    intro ptr' hptr'
    by_cases heq : ptr' = ptr
    · rw [heq, Function.update_self, hentry]
    · rw [Function.update_of_ne heq]
      exact hold ptr' (List.mem_of_ne_of_mem heq hptr')
  rw [SendBufferMemory.getNew] at hnew
  cases hfree : queue.sblist.freeList with
  | cons ptr' freeList =>
    rw [hfree] at hnew
    cases hnew
    have hperm : (queue.sblist.list ++ freeList ++ ptr :: queue.held).Perm queue.ptrs := by
      rw [SendQueue.ptrs, hfree, List.append_assoc, List.append_assoc]
      exact List.perm_middle.append_left _
    have hlist : ptr ∉ queue.sblist.list := by
      have hnodup := h.nodup
      rw [SendQueue.ptrs, hfree, List.append_assoc] at hnodup
      exact fun hmem => List.disjoint_of_nodup_append hnodup hmem (.head _)
    refine ⟨⟨hperm.nodup_iff.mpr h.nodup, fun ptr hptr => h.fresh ptr (hperm.mem_iff.mp hptr),
      hunsent rfl h.unsent, ?_⟩, ?_⟩
    · rw [← h.conserved]
      congr 1
      exact pending_store hlist _
    · exact Function.update_self ..
  | nil =>
    rw [hfree] at hnew
    simp only at hnew
    split at hnew
    · cases hnew
    · split at hnew
      · cases hnew
        have hptr : queue.sblist.nextPtr ∉ queue.ptrs := fun hmem =>
          Nat.lt_irrefl _ (h.fresh _ hmem)
        have hperm : (queue.sblist.list ++ [] ++ queue.sblist.nextPtr :: queue.held).Perm
            (queue.sblist.nextPtr :: queue.ptrs) := by
          rw [SendQueue.ptrs, hfree]
          exact List.perm_middle
        refine ⟨⟨?_, ?_, hunsent rfl h.unsent, ?_⟩, ?_⟩
        · simp only [SendQueue.ptrs, SendBufferMemory.store]
          exact hperm.nodup_iff.mpr (List.nodup_cons.mpr ⟨hptr, h.nodup⟩)
        · intro ptr hmem
          simp only [SendQueue.ptrs, SendBufferMemory.store] at hmem
          obtain rfl | hmem := List.mem_cons.mp (hperm.mem_iff.mp hmem)
          · exact Nat.lt_succ_self _
          · exact Nat.lt_succ_of_lt (h.fresh ptr hmem)
        · rw [← h.conserved]
          congr 1
          refine pending_store (fun hmem => hptr ?_) _
          exact List.mem_append_left _ (List.mem_append_left _ hmem)
        · exact Function.update_self ..
      · cases hnew

/-- There was no entry to be had. -/
theorem getNew_none (h : SendQueueOk queue) {alloc : Bool} {sblist : SendBufferMemory}
    (hnew : queue.sblist.getNew alloc = (none, sblist)) :
    SendQueueOk { queue with sblist := sblist } := by
  rw [SendBufferMemory.getNew] at hnew
  split at hnew
  · cases hnew
  · split at hnew
    · cases hnew
      exact h
    · simp only at hnew
      split at hnew
      · cases hnew
      · cases hnew
        exact ⟨h.nodup, h.fresh, h.unsent, h.conserved⟩

/-- A caller gives an entry away. -/
private theorem perm_erase {held : List SendBufferPtr} (hheld : ptr ∈ held)
    (l : List SendBufferPtr) : (ptr :: (l ++ held.erase ptr)).Perm (l ++ held) :=
  List.perm_middle.symm.trans ((List.perm_cons_erase hheld).symm.append_left l)

theorem fill (h : SendQueueOk queue) (hheld : ptr ∈ queue.held) {entry : SendBufferListEntry}
    (hentry : entry.msgAlreadySentBytes = (queue.sblist.entries ptr).msgAlreadySentBytes) :
    SendQueueOk { queue with sblist := queue.sblist.store ptr entry } := by
  refine ⟨h.nodup, h.fresh, fun ptr' hptr' => ?_, ?_⟩
  · simp only [SendBufferMemory.store]
    by_cases heq : ptr' = ptr
    · rw [heq, Function.update_self, hentry]
      exact h.unsent ptr hheld
    · rw [Function.update_of_ne heq]
      exact h.unsent ptr' hptr'
  · rw [← h.conserved]
    simp only [pending_store (h.notMem_list_of_held hheld)]

theorem put (h : SendQueueOk queue) (hheld : ptr ∈ queue.held) :
    SendQueueOk { queue with
      sblist := queue.sblist.put ptr
      held := queue.held.erase ptr
      messages := queue.messages ++ [(queue.sblist.entries ptr).buffer.data] } := by
  have hperm : (queue.sblist.list ++ [ptr] ++ queue.sblist.freeList ++ queue.held.erase ptr).Perm
      queue.ptrs := by
    rw [SendQueue.ptrs, List.append_assoc, List.append_assoc, List.append_assoc]
    exact (perm_erase hheld _).append_left _
  refine ⟨hperm.nodup_iff.mpr h.nodup, fun ptr' hptr' => h.fresh ptr' (hperm.mem_iff.mp hptr'),
    fun ptr' hptr' => h.unsent ptr' (List.mem_of_mem_erase hptr'), ?_⟩
  have hleft : queue.sblist.left ptr = (queue.sblist.entries ptr).buffer.data := by
    rw [SendBufferMemory.left, h.unsent ptr hheld, List.drop_zero]
  have hpending : (queue.sblist.put ptr).pending = queue.sblist.pending ++ queue.sblist.left ptr := by
    simp only [SendBufferMemory.pending, SendBufferMemory.put, List.flatMap_append,
      List.flatMap_singleton]
    rfl
  simp only [hpending, hleft, List.flatten_append, List.flatten_singleton, ← h.conserved,
    List.append_assoc]

theorem discardNew (h : SendQueueOk queue) (hheld : ptr ∈ queue.held) :
    SendQueueOk { queue with
      sblist := queue.sblist.discardNew ptr, held := queue.held.erase ptr } := by
  have hperm : (queue.sblist.list ++ ptr :: queue.sblist.freeList ++ queue.held.erase ptr).Perm
      queue.ptrs := by
    rw [SendQueue.ptrs, List.append_assoc, List.append_assoc]
    exact (perm_erase hheld _).append_left _
  exact ⟨hperm.nodup_iff.mpr h.nodup, fun ptr' hptr' => h.fresh ptr' (hperm.mem_iff.mp hptr'),
    fun ptr' hptr' => h.unsent ptr' (List.mem_of_mem_erase hptr'), h.conserved⟩

end SendQueueOk

/-! ### Writing -/

/-- What `PR_Send` takes of the bytes that it is offered comes from the front of what is left. -/
theorem take_msgioOffered {msg : Dynar} {sent bytes : Nat}
    (h : bytes ≤ (msgioOffered msg sent).length) :
    (msgioOffered msg sent).take bytes = (msg.data.drop sent).take bytes := by
  rw [msgioOffered, List.length_take] at h
  rw [msgioOffered, List.take_take, Nat.min_eq_left (by omega)]

/-- What one call takes from the front of what is left of the active entry. -/
theorem qnetdClientNetWrite_cases {send : Send} {sblist sblist' : SendBufferMemory} {ok : Bool}
    {taken : List UInt8} (hpossible : SendPossible sblist send)
    (h : qnetdClientNetWrite send sblist = (ok, taken, sblist')) :
    (sblist.list = [] ∧ taken = [] ∧ sblist' = sblist) ∨
    ∃ ptr rest entry, sblist.list = ptr :: rest ∧
      entry.buffer = (sblist.entries ptr).buffer ∧
      sblist.left ptr = taken ++ entry.buffer.data.drop entry.msgAlreadySentBytes ∧
      (sblist' = sblist.store ptr entry ∨
        entry.buffer.data.drop entry.msgAlreadySentBytes = [] ∧
          sblist' = (sblist.store ptr entry).delete ptr) := by
  rw [qnetdClientNetWrite, SendBufferMemory.getActive] at h
  cases hlist : sblist.list with
  | nil =>
    rw [hlist] at h
    cases h
    exact .inl ⟨rfl, rfl, rfl⟩
  | cons ptr rest =>
    rw [hlist] at h
    -- Nothing is taken when the socket takes nothing or fails.
    have hnothing (hsame : sblist' = sblist.store ptr { sblist.entries ptr with
        msgAlreadySentBytes := (sblist.entries ptr).msgAlreadySentBytes }) (htaken : taken = []) :
        ∃ ptr' rest' entry, ptr :: rest = ptr' :: rest' ∧
          entry.buffer = (sblist.entries ptr').buffer ∧
          sblist.left ptr' = taken ++ entry.buffer.data.drop entry.msgAlreadySentBytes ∧
          (sblist' = sblist.store ptr' entry ∨
            entry.buffer.data.drop entry.msgAlreadySentBytes = [] ∧
              sblist' = (sblist.store ptr' entry).delete ptr') :=
      ⟨ptr, rest, sblist.entries ptr, rfl, rfl, by rw [htaken]; rfl, .inl hsame⟩
    right
    cases send with
    | wouldBlock =>
      cases h
      exact hnothing rfl rfl
    | error =>
      cases h
      exact hnothing rfl rfl
    | sent bytes =>
      cases bytes with
      | zero =>
        cases h
        exact hnothing rfl rfl
      | succ n =>
        have hle : n + 1 ≤ (msgioOffered (sblist.entries ptr).buffer
            (sblist.entries ptr).msgAlreadySentBytes).length :=
          hpossible ptr (by rw [SendBufferMemory.getActive, hlist]; rfl)
        -- Some of the entry is taken, and perhaps all that was left of it.
        have hleft : sblist.left ptr = (msgioOffered (sblist.entries ptr).buffer
            (sblist.entries ptr).msgAlreadySentBytes).take (n + 1) ++
            (sblist.entries ptr).buffer.data.drop
              ((sblist.entries ptr).msgAlreadySentBytes + (n + 1)) := by
          rw [take_msgioOffered hle, ← List.drop_drop, List.take_append_drop]
          rfl
        let entry : SendBufferListEntry := { sblist.entries ptr with
          msgAlreadySentBytes := (sblist.entries ptr).msgAlreadySentBytes + (n + 1) }
        by_cases hall : (sblist.entries ptr).msgAlreadySentBytes + (n + 1) =
            dynarSize (sblist.entries ptr).buffer
        · simp only [List.head?_cons, msgioWrite, if_pos hall] at h
          cases h
          exact ⟨ptr, rest, entry, rfl, rfl, hleft,
            .inr ⟨List.drop_eq_nil_of_le (Nat.le_of_eq hall.symm), rfl⟩⟩
        · simp only [List.head?_cons, msgioWrite, if_neg hall] at h
          cases h
          exact ⟨ptr, rest, entry, rfl, rfl, hleft, .inl rfl⟩

namespace SendQueueOk

variable {queue queue' : SendQueue}

/-- Writing a part of the active entry, or the rest of it. -/
theorem write (h : SendQueueOk queue) {send : Send} {sblist : SendBufferMemory} {ok : Bool}
    {taken : List UInt8} (hpossible : SendPossible queue.sblist send)
    (hwrite : qnetdClientNetWrite send queue.sblist = (ok, taken, sblist)) :
    SendQueueOk { queue with sblist := sblist, taken := queue.taken ++ taken } := by
  obtain ⟨hlist, rfl, rfl⟩ | ⟨ptr, rest, entry, hlist, hbuffer, hleft, hafter⟩ :=
    qnetdClientNetWrite_cases hpossible hwrite
  · rw [List.append_nil]
    exact h
  have hnodup := h.nodup
  rw [SendQueue.ptrs, hlist, List.append_assoc, List.cons_append, List.nodup_cons,
    ← List.append_assoc] at hnodup
  have hheld : ptr ∉ queue.held := fun hmem => hnodup.1 (List.mem_append_right _ hmem)
  have hrest : ptr ∉ rest := fun hmem =>
    hnodup.1 (List.mem_append_left _ (List.mem_append_left _ hmem))
  have hunsent : ∀ ptr' ∈ queue.held,
      ((queue.sblist.store ptr entry).entries ptr').msgAlreadySentBytes = 0 := by
    intro ptr' hptr'
    have hne : ptr' ≠ ptr := fun heq => hheld (heq ▸ hptr')
    simp only [SendBufferMemory.store, Function.update_of_ne hne]
    exact h.unsent ptr' hptr'
  -- Only the active entry has changed.
  have hothers : rest.flatMap (queue.sblist.store ptr entry).left =
      rest.flatMap queue.sblist.left := by
    refine List.flatMap_congr fun ptr' hptr' => ?_
    have hne : ptr' ≠ ptr := fun heq => hrest (heq ▸ hptr')
    simp only [SendBufferMemory.left, SendBufferMemory.store, Function.update_of_ne hne]
  have hself : (queue.sblist.store ptr entry).left ptr =
      entry.buffer.data.drop entry.msgAlreadySentBytes := by
    simp only [SendBufferMemory.left, SendBufferMemory.store, Function.update_self]
  have hconserved := h.conserved
  rw [SendBufferMemory.pending, hlist, List.flatMap_cons, hleft] at hconserved
  obtain rfl | ⟨hnil, rfl⟩ := hafter
  · refine ⟨h.nodup, h.fresh, hunsent, ?_⟩
    change queue.taken ++ taken ++
      queue.sblist.list.flatMap (queue.sblist.store ptr entry).left = queue.messages.flatten
    rw [← hconserved, hlist, List.flatMap_cons, hself, hothers, List.append_assoc,
      List.append_assoc]
  · have herase : queue.sblist.list.erase ptr = rest := by rw [hlist, List.erase_cons_head]
    have hperm : (queue.sblist.list.erase ptr ++ ptr :: queue.sblist.freeList ++ queue.held).Perm
        queue.ptrs := by
      rw [SendQueue.ptrs, herase, hlist]
      exact List.perm_middle.append_right _
    refine ⟨hperm.nodup_iff.mpr h.nodup, fun ptr' hptr' => h.fresh ptr' (hperm.mem_iff.mp hptr'),
      hunsent, ?_⟩
    change queue.taken ++ taken ++ (queue.sblist.list.erase ptr).flatMap
      (queue.sblist.store ptr entry).left = queue.messages.flatten
    rw [← hconserved, herase, hothers, hnil, List.append_nil, List.append_assoc]

theorem step (h : SendQueueOk queue) {op : SendQueueOp}
    (hstep : sendQueueStep queue op = some queue') : SendQueueOk queue' := by
  cases op with
  | getNew alloc =>
    cases hnew : queue.sblist.getNew alloc with
    | mk ptr sblist =>
      simp only [sendQueueStep, hnew] at hstep
      cases ptr with
      | none =>
        cases hstep
        exact h.getNew_none hnew
      | some ptr =>
        cases hstep
        exact (h.getNew hnew).1
  | fill ptr code =>
    simp only [sendQueueStep] at hstep
    split at hstep
    · next hheld =>
      cases hstep
      exact h.fill hheld rfl
    · cases hstep
  | put ptr =>
    simp only [sendQueueStep] at hstep
    split at hstep
    · next hheld =>
      cases hstep
      exact h.put hheld
    · cases hstep
  | discardNew ptr =>
    simp only [sendQueueStep] at hstep
    split at hstep
    · next hheld =>
      cases hstep
      exact h.discardNew hheld
    · cases hstep
  | setMaxBufferSize size =>
    cases hstep
    exact ⟨h.nodup, h.fresh, h.unsent, h.conserved⟩
  | setMaxListEntries entries =>
    cases hstep
    exact ⟨h.nodup, h.fresh, h.unsent, h.conserved⟩
  | write send =>
    simp only [sendQueueStep] at hstep
    split at hstep
    · next hpossible =>
      cases hwrite : qnetdClientNetWrite send queue.sblist with
      | mk ok r =>
        obtain ⟨taken, sblist⟩ := r
        rw [hwrite] at hstep
        cases hstep
        exact h.write hpossible hwrite
    · cases hstep

end SendQueueOk

theorem sendQueueOk_of_reach {maxListEntries maxBufferSize : Nat} {queue : SendQueue}
    (h : (sendQueueMachine maxListEntries maxBufferSize).Reach (fun _ _ => True) queue) :
    SendQueueOk queue := by
  refine h.invariant SendQueueOk ?_ fun _ hok _ hstep => hok.step hstep
  exact ⟨List.nodup_nil, fun _ hno => absurd hno List.not_mem_nil,
    fun _ hno => absurd hno List.not_mem_nil, rfl⟩

/-- In every run the bytes that the socket has taken are a prefix of the messages that were put,
    one after the other, and the rest of these is what still has to be written.  A new entry,
    also one that was used before, is empty, nothing of it has been sent, and its limit is the
    current one. -/
theorem sendQueue_fifo (maxListEntries maxBufferSize : Nat) (queue : SendQueue)
    (h : (sendQueueMachine maxListEntries maxBufferSize).Reach (fun _ _ => True) queue) :
    queue.taken <+: queue.messages.flatten ∧
    queue.taken ++ queue.sblist.pending = queue.messages.flatten ∧
    ∀ alloc ptr sblist, queue.sblist.getNew alloc = (some ptr, sblist) →
      sblist.entries ptr =
        { buffer := { data := [], maximumSize := queue.sblist.maxBufferSize }
          msgAlreadySentBytes := 0 } := by
  have hok := sendQueueOk_of_reach h
  exact ⟨⟨_, hok.conserved⟩, hok.conserved, fun alloc ptr sblist hnew => (hok.getNew hnew).2⟩

/-- The first message is written in two pieces, the second is discarded, and the third takes the
    entry of the second. -/
def threeMessages : List SendQueueOp :=
  [.getNew true, .fill 0 (dynarCat [1, 2, 3]), .put 0, .write (.sent 2), .getNew true,
    .fill 1 (dynarCat [9]), .discardNew 1, .setMaxBufferSize 2, .getNew true,
    .fill 1 (dynarCat [4, 5]), .put 1, .write .wouldBlock, .write (.sent 1), .write (.sent 1)]

theorem sendQueue_fifo_three :
    ∃ queue ∈ (sendQueueMachine 2 8).exec { sblist := { maxListEntries := 2, maxBufferSize := 8 } }
        threeMessages,
      queue.taken = [1, 2, 3, 4] ∧ queue.taken <+: queue.messages.flatten := by
  have hrun : ∃ queue ∈ (sendQueueMachine 2 8).exec
      { sblist := { maxListEntries := 2, maxBufferSize := 8 } } threeMessages,
      queue.taken = [1, 2, 3, 4] := by
    decide +kernel
  obtain ⟨queue, hqueue, htaken⟩ := hrun
  have hreach := Runs.Machine.Reach.exec (fun _ _ => trivial)
    (.init : (sendQueueMachine 2 8).Reach (fun _ _ => True) _) hqueue
  exact ⟨queue, hqueue, htaken, (sendQueue_fifo 2 8 queue hreach).1⟩

/-! ### The list without pointers -/

namespace SendBufferMemory

variable {sblist sblist' : SendBufferMemory} {ptr : SendBufferPtr}

/-- The list as `SendBufferList` has it. -/
def toList (sblist : SendBufferMemory) : SendBufferList where
  maxListEntries := sblist.maxListEntries
  allocatedListEntries := sblist.allocatedListEntries
  maxBufferSize := sblist.maxBufferSize
  list := sblist.list.map sblist.entries
  freeList := sblist.freeList.length

/-- An entry that is not in the list. -/
theorem toList_store (h : ptr ∉ sblist.list) (entry : SendBufferListEntry) :
    (sblist.store ptr entry).toList = sblist.toList := by
  have hmap : sblist.list.map (Function.update sblist.entries ptr entry) =
      sblist.list.map sblist.entries := by
    refine List.map_congr_left fun ptr' hptr' => ?_
    have hne : ptr' ≠ ptr := fun heq => h (heq ▸ hptr')
    rw [Function.update_of_ne hne]
  simp only [toList, store, hmap]

theorem toList_put :
    (sblist.put ptr).toList = sendBufferListPut sblist.toList (sblist.entries ptr) := by
  simp only [toList, put, sendBufferListPut, List.map_append, List.map_singleton]

theorem toList_discardNew : (sblist.discardNew ptr).toList = sendBufferListDiscardNew sblist.toList :=
  rfl

theorem toList_delete (h : sblist.getActive = some ptr) :
    (sblist.delete ptr).toList = sendBufferListDeleteActive sblist.toList := by
  obtain ⟨rest, hlist⟩ := List.head?_eq_some_iff.mp h
  simp only [toList, delete, sendBufferListDeleteActive, hlist, List.erase_cons_head,
    List.map_cons, List.tail_cons, List.length_cons]

end SendBufferMemory

/-- A new entry, as `sendBufferListGetNew` gives it. -/
theorem SendQueueOk.toList_getNew {queue : SendQueue} (h : SendQueueOk queue)
    {sblist : SendBufferMemory} {ptr : Option SendBufferPtr}
    (hnew : queue.sblist.getNew true = (ptr, sblist)) :
    sendBufferListGetNew queue.sblist.toList =
      ptr.map fun ptr => (sblist.entries ptr, sblist.toList) := by
  have hentries {ptr' : SendBufferPtr} (hptr : ptr = some ptr') :
      sblist.entries ptr' = { buffer := dynarInit queue.sblist.maxBufferSize } := by
    subst hptr
    exact (h.getNew hnew).2
  rw [SendBufferMemory.getNew] at hnew
  cases hfree : queue.sblist.freeList with
  | cons ptr' freeList =>
    rw [hfree] at hnew
    have hlist : ptr' ∉ queue.sblist.list := by
      have hnodup := h.nodup
      rw [SendQueue.ptrs, hfree, List.append_assoc] at hnodup
      exact fun hmem => List.disjoint_of_nodup_append hnodup hmem (.head _)
    simp only [Prod.mk.injEq] at hnew
    obtain ⟨rfl, rfl⟩ := hnew
    rw [Option.map_some, hentries rfl, SendBufferMemory.toList_store (by exact hlist)]
    simp [sendBufferListGetNew, SendBufferMemory.toList, hfree]
  | nil =>
    rw [hfree] at hnew
    simp only [if_true] at hnew
    split at hnew
    · next hfull =>
      cases hnew
      simp [sendBufferListGetNew, SendBufferMemory.toList, hfree, hfull]
    · next hroom =>
      simp only [Prod.mk.injEq] at hnew
      obtain ⟨rfl, rfl⟩ := hnew
      have hlist : queue.sblist.nextPtr ∉ queue.sblist.list := fun hmem =>
        Nat.lt_irrefl _ (h.fresh _ (List.mem_append_left _ (List.mem_append_left _ hmem)))
      rw [Option.map_some, hentries rfl, SendBufferMemory.toList_store (by exact hlist)]
      simp [sendBufferListGetNew, SendBufferMemory.toList, hfree, hroom]

end Qdevice
