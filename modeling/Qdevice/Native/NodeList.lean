import Qdevice.Native.TlvTypes

/-! # Node lists

`node-list.c`: a tail queue of (node id, data center id, state) entries.  The queue
is a list here, in queue order. -/

namespace Qdevice

/-- `struct node_list`. -/
abbrev NodeList := List TlvNodeInfo

/-- `node_list_size`. -/
def nodeListSize (nlist : NodeList) : Nat := nlist.length

/-- `node_list_find_node_id`: the first entry with the given node id. -/
def nodeListFindNodeId (list : NodeList) (nodeId : UInt32) : Option TlvNodeInfo :=
  list.find? fun nodeEntry => nodeEntry.nodeId == nodeId

/-- The loop of `node_list_eq`, and what it does after it.  `tmpList` is what is left of the clone of
    the second list. -/
def nodeListEqLoop : (list1 tmpList : NodeList) → Bool
  | [], tmpList => tmpList.isEmpty
  | node1 :: list1, tmpList =>
    match nodeListFindNodeId tmpList node1.nodeId with
    | none => false
    | some node2 =>
      if node1.nodeId ≠ node2.nodeId ∨ node1.dataCenterId ≠ node2.dataCenterId ∨
          node1.nodeState ≠ node2.nodeState then false
      else nodeListEqLoop list1 (tmpList.eraseP fun node => node.nodeId == node1.nodeId)

/-- `node_list_eq`.  `clone` is whether the second list can be cloned. -/
def nodeListEq (clone : Bool) (list1 list2 : NodeList) : Int :=
  if clone = false then -1 else if nodeListEqLoop list1 list2 then 1 else 0

/-- Some entry of the list carries the node id. -/
def NodeList.HasNode (list : NodeList) (nodeId : UInt32) : Prop :=
  ∃ nodeEntry ∈ list, nodeEntry.nodeId = nodeId

instance (list : NodeList) (nodeId : UInt32) : Decidable (list.HasNode nodeId) :=
  inferInstanceAs (Decidable (∃ nodeEntry ∈ list, nodeEntry.nodeId = nodeId))

theorem nodeListFindNodeId_isSome (list : NodeList) (nodeId : UInt32) :
    (nodeListFindNodeId list nodeId).isSome = true ↔ list.HasNode nodeId := by
  simp [nodeListFindNodeId, NodeList.HasNode]

theorem nodeListFindNodeId_eq_none (list : NodeList) (nodeId : UInt32) :
    nodeListFindNodeId list nodeId = none ↔ ¬ list.HasNode nodeId := by
  simp [nodeListFindNodeId, NodeList.HasNode]

end Qdevice
