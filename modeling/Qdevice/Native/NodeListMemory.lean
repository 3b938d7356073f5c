import Mathlib.Logic.Function.Basic
import Qdevice.Native.NodeList

/-! # Node lists in memory

`node-list.c` with the entries behind pointers: `node_list_eq` compares two lists by deleting
entries from a clone of the second.  And the loop of `qdevice_cmap_get_nodelist`
(`qdevice-cmap.c`), which builds the node list of the configuration. -/

namespace Qdevice

/-- A pointer to a `struct node_list_entry`. -/
abbrev NodePtr := Nat

/-- The entries in memory: `none` is where there is none.  `nextPtr` is a pointer that `malloc` has
    not returned yet. -/
structure NodeMemory where
  entries : NodePtr → Option TlvNodeInfo
  nextPtr : NodePtr
  fresh : ∀ ptr, nextPtr ≤ ptr → entries ptr = none

namespace NodeMemory

/-- No entries. -/
def empty : NodeMemory := ⟨fun _ => none, 0, fun _ _ => rfl⟩

/-- Read an entry. -/
def node (memory : NodeMemory) (ptr : NodePtr) : TlvNodeInfo :=
  (memory.entries ptr).getD ⟨0, 0, .notSet⟩

/-- `malloc` of an entry, and what is written to it. -/
def alloc (memory : NodeMemory) (node : TlvNodeInfo) : NodeMemory where
  entries := Function.update memory.entries memory.nextPtr (some node)
  nextPtr := memory.nextPtr + 1
  fresh ptr hptr := by
    rw [Function.update_of_ne (Nat.ne_of_gt hptr)]
    exact memory.fresh ptr (Nat.le_of_succ_le hptr)

/-- `free` of an entry. -/
def free (memory : NodeMemory) (ptr : NodePtr) : NodeMemory where
  entries := Function.update memory.entries ptr none
  nextPtr := memory.nextPtr
  fresh ptr' hptr' := by
    by_cases heq : ptr' = ptr
    · rw [heq, Function.update_self]
    · rw [Function.update_of_ne heq]
      exact memory.fresh ptr' hptr'

/-! ### Functions on lists

A `struct node_list` is the list of its pointers.  `malloc` says of each pointer whether `malloc`
succeeds when it would return this one. -/

/-- What is in a list. -/
def contents (memory : NodeMemory) (list : List NodePtr) : NodeList := list.map memory.node

/-- `node_list_free`. -/
def nodeListFree (memory : NodeMemory) : List NodePtr → NodeMemory
  | [] => memory
  | ptr :: list => nodeListFree (memory.free ptr) list

/-- `node_list_add`: `none` is `NULL`. -/
def nodeListAdd (malloc : NodePtr → Bool) (memory : NodeMemory) (list : List NodePtr)
    (node : TlvNodeInfo) : Option (List NodePtr) × NodeMemory :=
  if malloc memory.nextPtr then (some (list ++ [memory.nextPtr]), memory.alloc node)
  else (none, memory)

/-- The loop of `node_list_clone`. -/
def nodeListCloneLoop (malloc : NodePtr → Bool) (memory : NodeMemory) (dstList : List NodePtr) :
    List NodePtr → Option (List NodePtr) × NodeMemory
  | [] => (some dstList, memory)
  | ptr :: srcList =>
    match nodeListAdd malloc memory dstList (memory.node ptr) with
    | (none, memory) => (none, memory.nodeListFree dstList)
    | (some dstList, memory) => nodeListCloneLoop malloc memory dstList srcList

/-- `node_list_clone`: `none` is -1. -/
def nodeListClone (malloc : NodePtr → Bool) (memory : NodeMemory) (srcList : List NodePtr) :
    Option (List NodePtr) × NodeMemory :=
  nodeListCloneLoop malloc memory [] srcList

/-- `node_list_find_node_id`. -/
def nodeListFindNodeId (memory : NodeMemory) (list : List NodePtr) (nodeId : UInt32) :
    Option NodePtr :=
  list.find? fun ptr => (memory.node ptr).nodeId == nodeId

/-- `node_list_del`. -/
def nodeListDel (memory : NodeMemory) (list : List NodePtr) (ptr : NodePtr) :
    List NodePtr × NodeMemory :=
  (list.erase ptr, memory.free ptr)

/-- The loop of `node_list_eq`, and the test after it: the result, and what is left of the clone. -/
def nodeListEqLoop (memory : NodeMemory) :
    (list1 tmpList : List NodePtr) → Bool × List NodePtr × NodeMemory
  | [], tmpList => (tmpList.isEmpty, tmpList, memory)
  | ptr1 :: list1, tmpList =>
    match memory.nodeListFindNodeId tmpList (memory.node ptr1).nodeId with
    | none => (false, tmpList, memory)
    | some ptr2 =>
      if (memory.node ptr1).nodeId ≠ (memory.node ptr2).nodeId ∨
          (memory.node ptr1).dataCenterId ≠ (memory.node ptr2).dataCenterId ∨
          (memory.node ptr1).nodeState ≠ (memory.node ptr2).nodeState then
        (false, tmpList, memory)
      else
        let (tmpList, memory) := memory.nodeListDel tmpList ptr2
        memory.nodeListEqLoop list1 tmpList

/-- `node_list_eq`. -/
def nodeListEq (malloc : NodePtr → Bool) (memory : NodeMemory) (list1 list2 : List NodePtr) :
    Int × NodeMemory :=
  match nodeListClone malloc memory list2 with
  | (none, memory) => (-1, memory)
  | (some tmpList, memory) =>
    let (res, tmpList, memory) := memory.nodeListEqLoop list1 tmpList
    (if res then 1 else 0, memory.nodeListFree tmpList)

end NodeMemory

/-! ### The node list of the configuration -/

/-- What `cmap_get_uint32` returned. -/
inductive CmapUint32 where
  | value (value : UInt32)
  | notExist
  | error
deriving DecidableEq

/-- What there is for a key of the iteration that is the `ring0_addr` or the `name` of a node.
    `autogenerated` is the node id for its `ring0_addr`, if there is one. -/
structure CmapNodeKey where
  nodeid : CmapUint32
  autogenerated : Option UInt32 := none
  datacenterid : Option UInt32 := none
  malloc : Bool := true

/-- The node id in the configuration, or the one that is made for the address. -/
def CmapNodeKey.nodeId (key : CmapNodeKey) : Option UInt32 :=
  match key.nodeid with
  | .value nodeId => some nodeId
  | .notExist => key.autogenerated
  | .error => none

/-- The loop of `qdevice_cmap_get_nodelist`; `none` is a key of another form, and an error. -/
def qdeviceCmapGetNodelistLoop (list : NodeList) : List (Option CmapNodeKey) → Option NodeList
  | [] => some list
  | none :: keys => qdeviceCmapGetNodelistLoop list keys
  | some key :: keys =>
    match key.nodeId with
    | none => none
    | some nodeId =>
      -- Both `ring0_addr` and `name` exist.
      if (nodeListFindNodeId list nodeId).isSome then qdeviceCmapGetNodelistLoop list keys
      else if key.malloc = false then none
      else qdeviceCmapGetNodelistLoop (list ++ [⟨nodeId, key.datacenterid.getD 0, .notSet⟩]) keys

/-- `qdevice_cmap_get_nodelist`: `none` is -1.  `iterInit` is whether `cmap_iter_init` succeeds. -/
def qdeviceCmapGetNodelist (iterInit : Bool) (keys : List (Option CmapNodeKey)) :
    Option NodeList :=
  if iterInit = false then none
  else
    match qdeviceCmapGetNodelistLoop [] keys with
    | none => none
    | some list => if list.isEmpty then none else some list

end Qdevice
