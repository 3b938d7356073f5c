import Mathlib.Data.List.Basic
import Qdevice.ForStd.Runs
import Qdevice.Native.SendBufferMemory

/-! # How many send buffers there are

`allocated_list_entries` is to be the number of entries in the list, on the free list and in the
hands of callers.  `send_buffer_list_get_new` counts an entry before `malloc`, and does not take it
back when `malloc` fails.  So the number is right in a run exactly as long as no `malloc` has
failed, and each failure takes away one of the entries that there may be. -/

namespace Qdevice

/-! ### Runs -/

/-- A send buffer list, and the entries that were handed out and neither put nor discarded. -/
structure SendBufferUse where
  sblist : SendBufferMemory
  handedOut : List SendBufferPtr := []

/-- A call.  `alloc` is whether `malloc` succeeds, if it is called. -/
inductive SendBufferOp where
  | getNew (alloc : Bool)
  | put (ptr : SendBufferPtr)
  | discardNew (ptr : SendBufferPtr)
  | delete (ptr : SendBufferPtr)

/-- One call.  What is put or discarded was handed out, and what is deleted is in the list. -/
def sendBufferStep (buffers : SendBufferUse) : SendBufferOp → Option SendBufferUse
  | .getNew alloc =>
    match buffers.sblist.getNew alloc with
    | (none, sblist) => some { buffers with sblist }
    | (some ptr, sblist) => some { sblist, handedOut := ptr :: buffers.handedOut }
  | .put ptr =>
    if ptr ∈ buffers.handedOut then some {
      sblist := buffers.sblist.put ptr
      handedOut := buffers.handedOut.erase ptr }
    else none
  | .discardNew ptr =>
    if ptr ∈ buffers.handedOut then some {
      sblist := buffers.sblist.discardNew ptr
      handedOut := buffers.handedOut.erase ptr }
    else none
  | .delete ptr =>
    if ptr ∈ buffers.sblist.list then some { buffers with sblist := buffers.sblist.delete ptr }
    else none

/-- The calls one after the other, from `send_buffer_list_init` on. -/
def sendBufferMachine (maxListEntries maxBufferSize : Nat) :
    Runs.Machine SendBufferUse SendBufferOp where
  init := { sblist := { maxListEntries, maxBufferSize } }
  step := sendBufferStep

namespace SendBufferUse

/-- The number of entries that there are. -/
def entries (buffers : SendBufferUse) : Nat :=
  buffers.sblist.list.length + buffers.sblist.freeList.length + buffers.handedOut.length

/-- The entries are counted rightly, there are not too many, and while there are fewer than there
    may be, another one can be had if there is memory. -/
structure Accounted (buffers : SendBufferUse) : Prop where
  count : buffers.sblist.allocatedListEntries = buffers.entries
  bound : buffers.sblist.allocatedListEntries ≤ buffers.sblist.maxListEntries
  available : buffers.entries < buffers.sblist.maxListEntries →
    (buffers.sblist.getNew true).1.isSome = true

/-- The call asks `malloc` for an entry, and there is no memory. -/
def mallocFails (buffers : SendBufferUse) : SendBufferOp → Bool
  | .getNew alloc =>
    buffers.sblist.freeList = [] ∧
      buffers.sblist.allocatedListEntries < buffers.sblist.maxListEntries ∧ alloc = false
  | .put _ | .discardNew _ | .delete _ => false

/-! ### One call -/

variable {buffers buffers' : SendBufferUse}

/-- That another entry can be had follows from the count. -/
theorem accounted_iff : buffers.Accounted ↔
    buffers.sblist.allocatedListEntries = buffers.entries ∧
      buffers.entries ≤ buffers.sblist.maxListEntries := by
  constructor
  · intro h
    exact ⟨h.count, h.count ▸ h.bound⟩
  · rintro ⟨hcount, hbound⟩
    refine ⟨hcount, hcount ▸ hbound, fun hroom => ?_⟩
    cases hfree : buffers.sblist.freeList with
    | cons ptr freeList =>
      rw [SendBufferMemory.getNew_cons true hfree]
      rfl
    | nil =>
      rw [SendBufferMemory.getNew_malloc hfree (hcount ▸ hroom)]
      rfl

/-- A call keeps the maximum, and counts each entry that it adds, and one more if `malloc` fails. -/
theorem sendBufferStep_count {op : SendBufferOp} (hstep : sendBufferStep buffers op = some buffers') :
    buffers'.sblist.maxListEntries = buffers.sblist.maxListEntries ∧
    buffers'.sblist.allocatedListEntries + buffers.entries =
      buffers.sblist.allocatedListEntries + buffers'.entries +
        (if buffers.mallocFails op then 1 else 0) ∧
    (buffers.sblist.allocatedListEntries ≤ buffers.sblist.maxListEntries →
      buffers'.sblist.allocatedListEntries ≤ buffers.sblist.maxListEntries) := by
  cases op with
  | getNew alloc =>
    cases hfree : buffers.sblist.freeList with
    | cons ptr freeList =>
      -- An entry goes from the free list to the caller.
      rw [sendBufferStep, SendBufferMemory.getNew_cons alloc hfree] at hstep
      cases hstep
      refine ⟨rfl, ?_, id⟩
      simp only [entries, mallocFails, SendBufferMemory.store, hfree, List.length_cons,
        List.cons_ne_nil, false_and, decide_false, Bool.false_eq_true, ↓reduceIte]
      omega
    | nil =>
      by_cases hroom : buffers.sblist.allocatedListEntries < buffers.sblist.maxListEntries
      · cases alloc with
        | true =>
          rw [sendBufferStep, SendBufferMemory.getNew_malloc hfree hroom] at hstep
          cases hstep
          refine ⟨rfl, ?_, fun _ => hroom⟩
          simp only [entries, mallocFails, SendBufferMemory.store, List.length_cons,
            Bool.true_eq_false, and_false, decide_false, Bool.false_eq_true, ↓reduceIte]
          omega
        | false =>
          rw [sendBufferStep, SendBufferMemory.getNew_mallocFails hfree hroom] at hstep
          cases hstep
          refine ⟨rfl, ?_, fun _ => hroom⟩
          simp only [entries, mallocFails, hfree, hroom, and_self, decide_true, ↓reduceIte]
          omega
      · rw [sendBufferStep, SendBufferMemory.getNew_full alloc hfree (Nat.le_of_not_lt hroom)]
          at hstep
        cases hstep
        refine ⟨rfl, ?_, id⟩
        simp only [mallocFails, hroom, false_and, and_false, decide_false, Bool.false_eq_true,
          ↓reduceIte, Nat.add_zero]
  | put ptr =>
    simp only [sendBufferStep] at hstep
    split at hstep
    · next hheld =>
      cases hstep
      have hlength := List.length_erase_add_one hheld
      refine ⟨rfl, ?_, id⟩
      simp only [entries, mallocFails, SendBufferMemory.put, List.length_append,
        List.length_singleton, Bool.false_eq_true, ↓reduceIte]
      omega
    · cases hstep
  | discardNew ptr =>
    simp only [sendBufferStep] at hstep
    split at hstep
    · next hheld =>
      cases hstep
      have hlength := List.length_erase_add_one hheld
      refine ⟨rfl, ?_, id⟩
      simp only [entries, mallocFails, SendBufferMemory.discardNew, List.length_cons,
        Bool.false_eq_true, ↓reduceIte]
      omega
    · cases hstep
  | delete ptr =>
    simp only [sendBufferStep] at hstep
    split at hstep
    · next hlist =>
      cases hstep
      have hlength := List.length_erase_add_one hlist
      refine ⟨rfl, ?_, id⟩
      simp only [entries, mallocFails, SendBufferMemory.delete, List.length_cons,
        Bool.false_eq_true, ↓reduceIte]
      omega
    · cases hstep

/-- A call keeps the account exactly when no `malloc` fails in it. -/
theorem Accounted.step (h : buffers.Accounted) {op : SendBufferOp}
    (hstep : sendBufferStep buffers op = some buffers') :
    buffers'.Accounted ↔ !buffers.mallocFails op := by
  obtain ⟨hmax, hcount, hbound⟩ := sendBufferStep_count hstep
  have hcount₀ := h.count
  have hbound' := hbound h.bound
  rw [accounted_iff, hmax]
  cases hfails : buffers.mallocFails op with
  | true =>
    rw [hfails, if_pos rfl] at hcount
    simp only [Bool.not_true, Bool.false_eq_true, iff_false]
    omega
  | false =>
    rw [hfails, if_neg Bool.false_ne_true] at hcount
    simp only [Bool.not_false, iff_true]
    omega

end SendBufferUse

/-! ### Whole runs -/

/-- In every run the entries are accounted for in all states exactly if no `malloc` fails. -/
theorem sendBuffers_accounted_iff (maxListEntries maxBufferSize : Nat) (ops : List SendBufferOp) :
    (∀ n buffers, (sendBufferMachine maxListEntries maxBufferSize).exec
        (sendBufferMachine maxListEntries maxBufferSize).init (ops.take n) = some buffers →
      buffers.Accounted) ↔
    (sendBufferMachine maxListEntries maxBufferSize).AllSteps
      (fun buffers op => !buffers.mallocFails op)
      (sendBufferMachine maxListEntries maxBufferSize).init ops := by
  have hinit : (sendBufferMachine maxListEntries maxBufferSize).init.Accounted :=
    SendBufferUse.accounted_iff.mpr ⟨rfl, Nat.zero_le _⟩
  exact Runs.Machine.forall_prefix_iff (fun h hstep => h.step hstep) hinit ops

/-- Two `malloc`s fail, and the list is full without an entry. -/
theorem sendBuffers_lost :
    ∃ buffers, (sendBufferMachine 2 16).exec (sendBufferMachine 2 16).init
        [.getNew false, .getNew false] = some buffers ∧
      buffers.sblist.allocatedListEntries = 2 ∧ buffers.entries = 0 ∧
      (buffers.sblist.getNew true).1 = none ∧ ¬ buffers.Accounted := by
  refine ⟨_, rfl, rfl, rfl, rfl, fun h => ?_⟩
  have hcount : (2 : Nat) = 0 := h.count
  cases hcount

end Qdevice
