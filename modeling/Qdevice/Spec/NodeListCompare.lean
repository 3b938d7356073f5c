import Mathlib.Data.List.Nodup
import Qdevice.Native.NodeListMemory

/-! # Comparing node lists

`node_list_eq` says whether two lists with different node ids in each have the same entries.  First
for lists without pointers; then the function on memory is shown to return the same, and to leave
nothing behind. -/

namespace Qdevice

/-! ### Lists -/

/-- No node id is in the list twice. -/
def NodeList.DistinctIds (list : NodeList) : Prop := (list.map TlvNodeInfo.nodeId).Nodup

/-- Two lists have the same entries. -/
def NodeList.SameNodes (list1 list2 : NodeList) : Prop := ∀ node, node ∈ list1 ↔ node ∈ list2

/-- What is found first is what is erased first. -/
theorem eraseP_of_find? {α : Type} [DecidableEq α] {p : α → Bool} {a : α} {l : List α}
    (h : l.find? p = some a) : l.eraseP p = l.erase a := by
  induction l with
  | nil => cases h
  | cons b l ih =>
    rw [List.find?_cons] at h
    split at h
    · next hb =>
      cases h
      rw [List.eraseP_cons_of_pos hb, List.erase_cons_head]
    · next hb =>
      have hne : ¬ (b == a) = true := by
        intro heq
        rw [beq_iff_eq.mp heq, List.find?_some h] at hb
        cases hb
      rw [List.eraseP_cons_of_neg (by rw [hb]; exact Bool.false_ne_true), List.erase_cons_tail hne,
        ih h]

namespace NodeList.DistinctIds

variable {list : NodeList} {node node' : TlvNodeInfo}

/-- The node id says which entry of the list it is. -/
theorem eq_of_nodeId (h : list.DistinctIds) (hnode : node ∈ list) (hnode' : node' ∈ list)
    (hid : node.nodeId = node'.nodeId) : node = node' :=
  List.inj_on_of_nodup_map h hnode hnode' hid

theorem nodup (h : list.DistinctIds) : list.Nodup := List.Nodup.of_map _ h

theorem erase (h : list.DistinctIds) : DistinctIds (list.erase node) :=
  h.sublist (List.Sublist.map _ List.erase_sublist)

end NodeList.DistinctIds

/-- The loop of `node_list_eq` finds out whether the entries are the same. -/
theorem nodeListEqLoop_iff {list1 tmpList : NodeList} (h1 : list1.DistinctIds)
    (htmp : tmpList.DistinctIds) :
    nodeListEqLoop list1 tmpList = true ↔ list1.SameNodes tmpList := by
  -- The entries of the clone that are left are those that the rest of the list has to have.
  induction list1 generalizing tmpList with
  | nil =>
    rw [nodeListEqLoop, List.isEmpty_iff]
    constructor
    · rintro rfl node
      exact Iff.rfl
    · intro hsame
      exact List.eq_nil_iff_forall_not_mem.mpr fun node hnode =>
        List.not_mem_nil ((hsame node).mpr hnode)
  | cons node1 list1 ih =>
    obtain ⟨hnode1, hlist1⟩ := List.nodup_cons.mp h1
    have hnode1 : node1 ∉ list1 := fun hmem => hnode1 (List.mem_map_of_mem hmem)
    rw [nodeListEqLoop]
    split
    · next hnone =>
      -- There is no entry with this node id in the other list.
      refine iff_of_false Bool.false_ne_true fun hsame => ?_
      have hmem : node1 ∈ tmpList := (hsame node1).mp List.mem_cons_self
      exact (nodeListFindNodeId_eq_none _ _).mp hnone ⟨node1, hmem, rfl⟩
    · next node2 hfind =>
      have hnode2 : node2 ∈ tmpList := List.mem_of_find?_eq_some hfind
      have hid : node2.nodeId = node1.nodeId := beq_iff_eq.mp
        (List.find?_some (p := fun node : TlvNodeInfo => node.nodeId == node1.nodeId) hfind)
      split
      · next hdiffers =>
        -- There is one, but it is a different entry.
        refine iff_of_false Bool.false_ne_true fun hsame => ?_
        have hmem : node1 ∈ tmpList := (hsame node1).mp List.mem_cons_self
        have heq := htmp.eq_of_nodeId hnode2 hmem hid
        rw [heq] at hdiffers
        simp at hdiffers
      · next hequal =>
        simp only [not_or, Ne, not_not] at hequal
        have heq : node2 = node1 := by
          cases node1
          cases node2
          simp_all
        subst heq
        have herase : tmpList.eraseP (fun node => node.nodeId == node2.nodeId) =
            tmpList.erase node2 := eraseP_of_find? hfind
        rw [herase, ih hlist1 htmp.erase]
        constructor
        · intro hsame node
          rw [List.mem_cons, hsame node, htmp.nodup.mem_erase_iff]
          by_cases hnode : node = node2
          · simp only [hnode, hnode2, true_or]
          · simp only [hnode, false_or, ne_eq, not_false_eq_true, true_and]
        · intro hsame node
          rw [htmp.nodup.mem_erase_iff, ← hsame node, List.mem_cons]
          constructor
          · intro hnode
            exact ⟨fun heq => hnode1 (heq ▸ hnode), .inr hnode⟩
          · rintro ⟨hne, heq | hnode⟩
            · exact absurd heq hne
            · exact hnode

/-- What `qdevice_cmap_get_nodelist` returns has no node id twice. -/
theorem qdeviceCmapGetNodelist_distinctIds {iterInit : Bool} {keys : List (Option CmapNodeKey)}
    {list : NodeList} (h : qdeviceCmapGetNodelist iterInit keys = some list) :
    list.DistinctIds := by
  have hloop : ∀ {list list' : NodeList}, list.DistinctIds →
      qdeviceCmapGetNodelistLoop list keys = some list' → list'.DistinctIds := by
    clear h
    induction keys with
    | nil =>
      intro list list' hlist h
      cases h
      exact hlist
    | cons key keys ih =>
      intro list list' hlist h
      cases key with
      | none => exact ih hlist h
      | some key =>
        rw [qdeviceCmapGetNodelistLoop] at h
        split at h
        · cases h
        · next nodeId _ =>
          split at h
          · exact ih hlist h
          · next hnew =>
            split at h
            · cases h
            · refine ih ?_ h
              -- The new node id was not found in the list.
              rw [nodeListFindNodeId_isSome] at hnew
              rw [NodeList.DistinctIds, List.map_append, List.map_singleton, List.nodup_append]
              refine ⟨hlist, List.nodup_singleton _, ?_⟩
              intro id hid id' hid' heq
              obtain ⟨node, hnode, rfl⟩ := List.mem_map.mp hid
              rw [List.mem_singleton] at hid'
              exact hnew ⟨node, hnode, heq.trans hid'⟩
  unfold qdeviceCmapGetNodelist at h
  split at h
  · cases h
  · split at h
    · cases h
    · next list' hlist' =>
      split at h
      · cases h
      · cases h
        have hnil : NodeList.DistinctIds [] := List.nodup_nil
        exact hloop hnil hlist'

/-! ### Memory -/

namespace NodeMemory

variable {memory memory' : NodeMemory} {list : List NodePtr} {ptr : NodePtr}

/-- There is an entry behind each pointer of a list. -/
def Has (memory : NodeMemory) (list : List NodePtr) : Prop :=
  ∀ ptr ∈ list, (memory.entries ptr).isSome = true

/-- `memory'` has new entries, those of `list`, and otherwise what `memory` has. -/
structure With (memory : NodeMemory) (list : List NodePtr) (memory' : NodeMemory) : Prop where
  nodup : list.Nodup
  next : memory.nextPtr ≤ memory'.nextPtr
  new : ∀ ptr ∈ list, memory.nextPtr ≤ ptr
  has : memory'.Has list
  others : ∀ ptr ∉ list, memory'.entries ptr = memory.entries ptr

namespace With

/-- No new entries. -/
theorem nil (memory : NodeMemory) : memory.With [] memory where
  nodup := List.nodup_nil
  next := Nat.le_refl _
  new ptr hptr := absurd hptr List.not_mem_nil
  has ptr hptr := absurd hptr List.not_mem_nil
  others _ _ := rfl

/-- `malloc` returns an entry that is in no list. -/
theorem nextPtr_notMem (h : memory.With list memory') : memory'.nextPtr ∉ list := by
  intro hmem
  have hhas := h.has _ hmem
  rw [memory'.fresh _ (Nat.le_refl _)] at hhas
  cases hhas

theorem alloc (h : memory.With list memory') (node : TlvNodeInfo) :
    memory.With (list ++ [memory'.nextPtr]) (memory'.alloc node) where
  nodup := by
    rw [List.nodup_append]
    refine ⟨h.nodup, List.nodup_singleton _, fun ptr hptr ptr' hptr' heq => ?_⟩
    rw [List.mem_singleton.mp hptr'] at heq
    exact h.nextPtr_notMem (heq ▸ hptr)
  next := Nat.le_succ_of_le h.next
  new ptr hptr := by
    obtain hptr | hptr := List.mem_append.mp hptr
    · exact h.new ptr hptr
    · rw [List.mem_singleton.mp hptr]
      exact h.next
  has ptr hptr := by
    by_cases heq : ptr = memory'.nextPtr
    · simp only [NodeMemory.alloc, heq, Function.update_self, Option.isSome_some]
    · simp only [NodeMemory.alloc, Function.update_of_ne heq]
      obtain hptr | hptr := List.mem_append.mp hptr
      · exact h.has ptr hptr
      · exact absurd (List.mem_singleton.mp hptr) heq
  others ptr hptr := by
    rw [List.mem_append, List.mem_singleton, not_or] at hptr
    simp only [NodeMemory.alloc, Function.update_of_ne hptr.2]
    exact h.others ptr hptr.1

theorem del (h : memory.With list memory') (hptr : ptr ∈ list) :
    memory.With (list.erase ptr) (memory'.free ptr) where
  nodup := h.nodup.erase _
  next := h.next
  new ptr' hptr' := h.new ptr' (List.mem_of_mem_erase hptr')
  has ptr' hptr' := by
    have hmem := h.nodup.mem_erase_iff.mp hptr'
    simp only [NodeMemory.free, Function.update_of_ne hmem.1]
    exact h.has ptr' hmem.2
  others ptr' hptr' := by
    by_cases heq : ptr' = ptr
    · -- The entry was not there before.
      simp only [NodeMemory.free, heq, Function.update_self]
      exact (memory.fresh ptr (h.new ptr hptr)).symm
    · simp only [NodeMemory.free, Function.update_of_ne heq]
      exact h.others ptr' fun hmem => hptr' (h.nodup.mem_erase_iff.mpr ⟨heq, hmem⟩)

/-- When the new entries are freed, the memory is as before. -/
theorem nodeListFree (h : memory.With list memory') :
    (memory'.nodeListFree list).entries = memory.entries := by
  induction list generalizing memory' with
  | nil =>
    funext ptr
    exact h.others ptr List.not_mem_nil
  | cons ptr list ih =>
    have hdel := h.del List.mem_cons_self
    rw [List.erase_cons_head] at hdel
    exact ih hdel

/-- An entry that was there before is read as before. -/
theorem node_eq (h : memory.With list memory') (hptr : (memory.entries ptr).isSome = true) :
    memory'.node ptr = memory.node ptr := by
  have hnotMem : ptr ∉ list := by
    intro hmem
    rw [memory.fresh ptr (h.new ptr hmem)] at hptr
    cases hptr
  rw [node, node, h.others ptr hnotMem]

/-- The loop of `node_list_clone`: either there is a clone of the rest of the list at the end of what
    there was, or nothing is left. -/
theorem cloneLoop (malloc : NodePtr → Bool) {srcList : List NodePtr}
    (h : memory.With list memory') (hsrc : memory.Has srcList) :
    (∃ tmpList memory'', nodeListCloneLoop malloc memory' list srcList = (some tmpList, memory'') ∧
      memory.With tmpList memory'' ∧
      memory''.contents tmpList = memory'.contents list ++ memory.contents srcList) ∨
    ((¬ ∀ ptr, malloc ptr = true) ∧
      ∃ memory'', nodeListCloneLoop malloc memory' list srcList = (none, memory'') ∧
        memory''.entries = memory.entries) := by
  induction srcList generalizing list memory' with
  | nil =>
    refine .inl ⟨list, memory', rfl, h, ?_⟩
    rw [contents, contents, List.map_nil, List.append_nil]
  | cons ptr srcList ih =>
    have hhead : memory'.node ptr = memory.node ptr := h.node_eq (hsrc ptr List.mem_cons_self)
    rw [nodeListCloneLoop, nodeListAdd]
    cases hmalloc : malloc memory'.nextPtr with
    | false =>
      refine .inr ⟨fun hall => ?_, _, rfl, h.nodeListFree⟩
      rw [hall] at hmalloc
      cases hmalloc
    | true =>
      have hadded := h.alloc (memory'.node ptr)
      obtain ⟨tmpList, memory'', hloop, hwith, hcontents⟩ | hfails :=
        ih hadded fun ptr' hptr' => hsrc ptr' (List.mem_cons_of_mem _ hptr')
      · refine .inl ⟨tmpList, memory'', hloop, hwith, ?_⟩
        -- The clone so far is read as before, and the new entry is the one that was copied.
        have hold : (memory'.alloc (memory'.node ptr)).contents list = memory'.contents list := by
          refine List.map_congr_left fun ptr' hptr' => ?_
          have hne : ptr' ≠ memory'.nextPtr := fun heq => h.nextPtr_notMem (heq ▸ hptr')
          simp only [node, NodeMemory.alloc, Function.update_of_ne hne]
        have hnew : (memory'.alloc (memory'.node ptr)).node memory'.nextPtr = memory.node ptr := by
          simp only [node, NodeMemory.alloc, Function.update_self, Option.getD_some]
          exact hhead
        rw [hcontents, contents, List.map_append, List.map_singleton, hnew, List.append_assoc]
        exact congrArg (· ++ _) hold
      · exact .inr hfails

/-- The loop of `node_list_eq` finds out what it finds out for the contents, and only deletes
    entries of the clone. -/
theorem eqLoop (h : memory.With list memory') {list1 : List NodePtr} (hlist1 : memory.Has list1) :
    (memory'.nodeListEqLoop list1 list).1 =
      Qdevice.nodeListEqLoop (memory.contents list1) (memory'.contents list) ∧
    memory.With (memory'.nodeListEqLoop list1 list).2.1 (memory'.nodeListEqLoop list1 list).2.2 := by
  induction list1 generalizing list memory' with
  | nil =>
    refine ⟨?_, h⟩
    change list.isEmpty = (memory'.contents list).isEmpty
    rw [contents, List.isEmpty_map]
  | cons ptr1 list1 ih =>
    have hnode1 : memory'.node ptr1 = memory.node ptr1 := h.node_eq (hlist1 ptr1 List.mem_cons_self)
    have hfind : Qdevice.nodeListFindNodeId (memory'.contents list) (memory.node ptr1).nodeId =
        (memory'.nodeListFindNodeId list (memory'.node ptr1).nodeId).map memory'.node := by
      rw [hnode1]
      exact List.find?_map
    rw [contents, List.map_cons, nodeListEqLoop, Qdevice.nodeListEqLoop, hfind]
    cases hptr2 : memory'.nodeListFindNodeId list (memory'.node ptr1).nodeId with
    | none => exact ⟨rfl, h⟩
    | some ptr2 =>
      simp only [Option.map_some, hnode1]
      split
      · exact ⟨rfl, h⟩
      · -- The entry is deleted, in memory and in the list of contents.
        have hmem : ptr2 ∈ list := List.mem_of_find?_eq_some hptr2
        have hdel := h.del hmem
        have hrest : ((memory'.contents list).eraseP fun node =>
            node.nodeId == (memory.node ptr1).nodeId) =
              (memory'.free ptr2).contents (list.erase ptr2) := by
          rw [← hnode1, contents, List.eraseP_map]
          have herase := eraseP_of_find? hptr2
          refine (congrArg (List.map memory'.node) herase).trans ?_
          refine List.map_congr_left fun ptr' hptr' => ?_
          have hne := (h.nodup.mem_erase_iff.mp hptr').1
          simp only [node, NodeMemory.free, Function.update_of_ne hne]
        rw [hrest]
        exact ih hdel fun ptr' hptr' => hlist1 ptr' (List.mem_cons_of_mem _ hptr')

end With

/-- `node_list_eq` on memory returns what it returns for the contents of the lists, and the memory is
    as before: also if it cannot clone the second list. -/
theorem nodeListEq_spec (malloc : NodePtr → Bool) {list1 list2 : List NodePtr}
    (h1 : memory.Has list1) (h2 : memory.Has list2) :
    (nodeListEq malloc memory list1 list2).2.entries = memory.entries ∧
    ∃ clone, ((∀ ptr, malloc ptr = true) → clone = true) ∧
      (nodeListEq malloc memory list1 list2).1 =
        Qdevice.nodeListEq clone (memory.contents list1) (memory.contents list2) := by
  unfold nodeListEq nodeListClone
  obtain ⟨tmpList, memory₁, hclone, hwith, hcontents⟩ | ⟨hno, memory₁, hclone, hentries⟩ :=
    (With.nil memory).cloneLoop malloc h2
  · obtain ⟨hres, hwith'⟩ := hwith.eqLoop h1
    rw [hclone]
    refine ⟨hwith'.nodeListFree, true, fun _ => rfl, ?_⟩
    have hclone : memory₁.contents tmpList = memory.contents list2 := hcontents
    rw [hclone] at hres
    simp only [hres, Qdevice.nodeListEq, Bool.true_eq_false, ↓reduceIte]
  · rw [hclone]
    exact ⟨hentries, false, fun hall => absurd hall hno, rfl⟩

end NodeMemory

/-- `node_list_eq` without pointers: 1 exactly for the same entries, and otherwise 0. -/
theorem nodeListEq_iff {list1 list2 : NodeList} (h1 : list1.DistinctIds) (h2 : list2.DistinctIds) :
    (nodeListEq true list1 list2 = 1 ↔ list1.SameNodes list2) ∧
      (nodeListEq true list1 list2 = 1 ∨ nodeListEq true list1 list2 = 0) := by
  rw [← nodeListEqLoop_iff h1 h2, nodeListEq, if_neg (by decide)]
  cases nodeListEqLoop list1 list2 with
  | true => exact ⟨iff_of_true rfl rfl, .inl rfl⟩
  | false => exact ⟨iff_of_false (by decide) (by decide), .inr rfl⟩

namespace NodeMemory

/-- A list in memory in which no node id is twice. -/
structure NodeListIn (memory : NodeMemory) where
  ptrs : List NodePtr
  has : memory.Has ptrs
  distinct : (memory.contents ptrs).DistinctIds

/-- For lists without two entries of one node id, of any length and in any order, and as long as memory
    can be allocated, `node_list_eq` returns 1 exactly when they have the same entries, and
    otherwise 0; it is symmetric and transitive, and it leaves the memory as it was. -/
theorem nodeListEq_sameNodes (memory : NodeMemory) (list1 list2 list3 : NodeListIn memory) :
    ((nodeListEq (fun _ => true) memory list1.ptrs list2.ptrs).1 = 1 ↔
      (memory.contents list1.ptrs).SameNodes (memory.contents list2.ptrs)) ∧
    ((nodeListEq (fun _ => true) memory list1.ptrs list2.ptrs).1 = 1 ∨
      (nodeListEq (fun _ => true) memory list1.ptrs list2.ptrs).1 = 0) ∧
    (nodeListEq (fun _ => true) memory list1.ptrs list2.ptrs).2.entries = memory.entries ∧
    (nodeListEq (fun _ => true) memory list2.ptrs list1.ptrs).1 =
      (nodeListEq (fun _ => true) memory list1.ptrs list2.ptrs).1 ∧
    ((nodeListEq (fun _ => true) memory list1.ptrs list2.ptrs).1 = 1 →
      (nodeListEq (fun _ => true) memory list2.ptrs list3.ptrs).1 = 1 →
      (nodeListEq (fun _ => true) memory list1.ptrs list3.ptrs).1 = 1) := by
  have hspec (list list' : NodeListIn memory) :
      (nodeListEq (fun _ => true) memory list.ptrs list'.ptrs).1 =
        Qdevice.nodeListEq true (memory.contents list.ptrs) (memory.contents list'.ptrs) := by
    obtain ⟨-, clone, hclone, hres⟩ := nodeListEq_spec (fun _ => true) list.has list'.has
    rw [hres, hclone fun _ => rfl]
  have hiff (list list' : NodeListIn memory) := nodeListEq_iff list.distinct list'.distinct
  simp only [hspec]
  refine ⟨(hiff list1 list2).1, (hiff list1 list2).2, (nodeListEq_spec _ list1.has list2.has).1,
    ?_, ?_⟩
  · -- Both ways round the result says whether the entries are the same.
    have hsymm : Qdevice.nodeListEq true (memory.contents list2.ptrs)
        (memory.contents list1.ptrs) = 1 ↔
        Qdevice.nodeListEq true (memory.contents list1.ptrs) (memory.contents list2.ptrs) = 1 := by
      rw [(hiff list2 list1).1, (hiff list1 list2).1]
      exact ⟨fun h node => (h node).symm, fun h node => (h node).symm⟩
    have h12 := (hiff list1 list2).2
    have h21 := (hiff list2 list1).2
    omega
  · rw [(hiff list1 list2).1, (hiff list2 list3).1, (hiff list1 list3).1]
    intro h12 h23 node
    exact (h12 node).trans (h23 node)

/-- Two nodes, in a list and in another one the other way round. -/
def twoNodes : NodeMemory :=
  (((empty.alloc ⟨1, 0, .notSet⟩).alloc ⟨2, 7, .notSet⟩).alloc ⟨2, 7, .notSet⟩).alloc ⟨1, 0, .notSet⟩

theorem nodeListEq_reordered :
    (nodeListEq (fun _ => true) twoNodes [0, 1] [2, 3]).1 = 1 := by
  have hlist : twoNodes.Has [0, 1] := by unfold Has; decide
  have hlist' : twoNodes.Has [2, 3] := by unfold Has; decide
  have hdistinct : (twoNodes.contents [0, 1]).DistinctIds := by
    unfold NodeList.DistinctIds
    decide
  have hdistinct' : (twoNodes.contents [2, 3]).DistinctIds := by
    unfold NodeList.DistinctIds
    decide
  refine (nodeListEq_sameNodes twoNodes ⟨_, hlist, hdistinct⟩ ⟨_, hlist', hdistinct'⟩
    ⟨_, hlist, hdistinct⟩).1.mpr fun node => ?_
  show node ∈ [⟨1, 0, .notSet⟩, ⟨2, 7, .notSet⟩] ↔ node ∈ [⟨2, 7, .notSet⟩, ⟨1, 0, .notSet⟩]
  simp only [List.mem_cons, List.not_mem_nil, or_false]
  exact or_comm

end NodeMemory

end Qdevice
