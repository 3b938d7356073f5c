import Mathlib.Data.List.Range
import Qdevice.Spec.TimerListHeap

/-! # The operations of the timer list

`Valid` is the representation invariant: the heap and the free list share out the entries
that were ever allocated.  Each operation is described by one of four structures, `Added`,
`AddFailed`, `Removed` and `Moved`, which say all that it has changed; `Valid` and
everything else about the list is then a matter of these four. -/

namespace Qdevice

open TimerList

/-- The representation invariant of the timer list. -/
structure TimerList.Valid (tlist : TimerList) : Prop where
  placed : tlist.Placed
  active : ∀ e ∈ tlist.entries, (tlist.entry e).isActive = true
  room : tlist.entries.length ≤ tlist.allocated
  owned : (tlist.entries ++ tlist.freeList).Perm (List.range tlist.entryCount)

theorem TimerListEntry.isActive_of_timer {entry entry' : TimerListEntry}
    (h : entry'.timer = entry.timer) : entry'.isActive = entry.isActive := by
  have hactive := congrArg TimerListEntry.isActive h
  exact hactive

namespace TimerList

variable {tlist tlist' : TimerList} {e : Nat}

theorem valid_empty : ({} : TimerList).Valid where
  placed _ _ h := by cases h
  active _ h := absurd h List.not_mem_nil
  room := Nat.le_refl 0
  owned := .refl _

theorem Valid.nodup (h : tlist.Valid) : (tlist.entries ++ tlist.freeList).Nodup :=
  h.owned.nodup_iff.mpr List.nodup_range

theorem Valid.disjoint (h : tlist.Valid) : tlist.entries.Disjoint tlist.freeList :=
  List.disjoint_of_nodup_append h.nodup

/-- Where `timer_list_add` gets its entry from: `rest` is what is left of the free list. -/
def Taken (tlist : TimerList) (e : Nat) (rest : List Nat) (entryCount : Nat) : Prop :=
  (tlist.freeList = e :: rest ∧ entryCount = tlist.entryCount) ∨
    (tlist.freeList = [] ∧ rest = [] ∧ e = tlist.entryCount ∧ entryCount = tlist.entryCount + 1)

theorem Taken.owned {rest : List Nat} {entryCount : Nat} (ht : tlist.Taken e rest entryCount)
    (h : tlist.Valid) : (e :: (tlist.entries ++ rest)).Perm (List.range entryCount) := by
  have howned := h.owned
  obtain ⟨hfree, rfl⟩ | ⟨hfree, rfl, rfl, rfl⟩ := ht
  · rw [hfree] at howned
    exact List.perm_middle.symm.trans howned
  · rw [hfree] at howned
    rw [List.range_succ]
    exact (howned.cons _).trans (List.perm_append_singleton _ _).symm

theorem Taken.notMem {rest : List Nat} {entryCount : Nat} (ht : tlist.Taken e rest entryCount)
    (h : tlist.Valid) : e ∉ tlist.entries := by
  have hnodup := (ht.owned h).nodup_iff.mpr List.nodup_range
  intro he
  exact (List.nodup_cons.mp hnodup).1 (List.mem_append_left _ he)

/-- A timer was added: entry `e`, with the content `new`. -/
structure Added (toInterval : UInt32 → UInt32) (new : TimerListEntry) (tlist tlist' : TimerList)
    (e : Nat) : Prop where
  taken : tlist.Taken e tlist'.freeList tlist'.entryCount
  inserted : tlist'.Placed ∧ tlist'.entries.Perm (e :: tlist.entries)
  room : tlist'.entries.length ≤ tlist'.allocated
  allocated : tlist.entries.length + 1 ≤ tlist.allocated → tlist'.allocated = tlist.allocated
  timer_self : (tlist'.entry e).timer = (new.stamp toInterval).timer
  timer_of_ne : ∀ x, x ≠ e → (tlist'.entry x).timer = (tlist.entry x).timer
  heap : ∀ key, tlist'.Compares tlist'.entries key → Heap.IsHeap key tlist.entries →
    Heap.IsHeap key tlist'.entries

/-- The array was full and could not grow; the entry is free again. -/
structure AddFailed (tlist tlist' : TimerList) : Prop where
  taken : ∃ e rest, tlist.Taken e rest tlist'.entryCount ∧ tlist'.freeList = e :: rest ∧
    ∀ x, x ≠ e → tlist'.entry x = tlist.entry x
  full : tlist.entries.length = tlist.allocated
  entries : tlist'.entries = tlist.entries
  allocated : tlist'.allocated = tlist.allocated

/-- The timer `e` was removed. -/
structure Removed (tlist tlist' : TimerList) (e : Nat) : Prop where
  placed : tlist'.Placed
  perm : (e :: tlist'.entries).Perm tlist.entries
  freeList : tlist'.freeList = e :: tlist.freeList
  allocated : tlist'.allocated = tlist.allocated
  entryCount : tlist'.entryCount = tlist.entryCount
  inactive : (tlist'.entry e).isActive = false
  timer_of_ne : ∀ x, x ≠ e → (tlist'.entry x).timer = (tlist.entry x).timer
  heap : ∀ key, tlist.Compares tlist.entries key → Heap.IsHeap key tlist.entries →
    Heap.IsHeap key tlist'.entries

/-- The timer `e` was taken out and put in again, with the content `new`. -/
structure Moved (toInterval : UInt32 → UInt32) (new : TimerListEntry) (tlist tlist' : TimerList)
    (e : Nat) : Prop where
  placed : tlist'.Placed
  perm : tlist'.entries.Perm tlist.entries
  freeList : tlist'.freeList = tlist.freeList
  allocated : tlist'.allocated = tlist.allocated
  entryCount : tlist'.entryCount = tlist.entryCount
  timer_self : (tlist'.entry e).timer = (new.stamp toInterval).timer
  timer_of_ne : ∀ x, x ≠ e → (tlist'.entry x).timer = (tlist.entry x).timer
  heap : ∀ key key', (∀ x ∈ tlist.entries, x ≠ e → key' x = key x) →
    tlist.Compares tlist.entries key → tlist'.Compares tlist'.entries key' →
    Heap.IsHeap key tlist.entries → Heap.IsHeap key' tlist'.entries

/-! ### The invariant -/

theorem Added.valid {toInterval : UInt32 → UInt32} {new : TimerListEntry} (hnew : new.isActive = true)
    (ha : Added toInterval new tlist tlist' e) (h : tlist.Valid) : tlist'.Valid where
  placed := ha.inserted.1
  active x hx := by
    by_cases hxe : x = e
    · subst hxe
      exact (TimerListEntry.isActive_of_timer ha.timer_self).trans hnew
    · rw [TimerListEntry.isActive_of_timer (ha.timer_of_ne x hxe)]
      exact h.active x (List.mem_of_ne_of_mem hxe (ha.inserted.2.mem_iff.mp hx))
  room := ha.room
  owned := (ha.inserted.2.append_right tlist'.freeList).trans (ha.taken.owned h)

theorem AddFailed.valid (ha : AddFailed tlist tlist') (h : tlist.Valid) : tlist'.Valid := by
  obtain ⟨e, rest, htaken, hfree, hentry⟩ := ha.taken
  have hne : ∀ x ∈ tlist.entries, x ≠ e := by
    rintro x hx rfl
    exact htaken.notMem h hx
  refine ⟨fun i x hx => ?_, fun x hx => ?_, ?_, ?_⟩
  · rw [ha.entries] at hx
    rw [hentry x (hne x (List.mem_of_getElem? hx))]
    exact h.placed i x hx
  · rw [ha.entries] at hx
    rw [hentry x (hne x hx)]
    exact h.active x hx
  · rw [ha.entries, ha.allocated]
    exact h.room
  · rw [ha.entries, hfree]
    exact List.perm_middle.trans (htaken.owned h)

theorem Removed.valid (hr : Removed tlist tlist' e) (h : tlist.Valid) : tlist'.Valid where
  placed := hr.placed
  active x hx := by
    have hnodup := hr.perm.nodup_iff.mpr h.placed.nodup
    have hxe : x ≠ e := by
      rintro rfl
      exact (List.nodup_cons.mp hnodup).1 hx
    rw [TimerListEntry.isActive_of_timer (hr.timer_of_ne x hxe)]
    exact h.active x (hr.perm.mem_iff.mp (List.mem_cons_of_mem e hx))
  room := by
    have hlength := hr.perm.length_eq
    have hroom := h.room
    rw [List.length_cons] at hlength
    rw [hr.allocated]
    omega
  owned := by
    rw [hr.freeList, hr.entryCount]
    exact (List.perm_middle.trans (hr.perm.append_right tlist.freeList)).trans h.owned

theorem Moved.valid {toInterval : UInt32 → UInt32} {new : TimerListEntry} (hnew : new.isActive = true)
    (hm : Moved toInterval new tlist tlist' e) (h : tlist.Valid) : tlist'.Valid where
  placed := hm.placed
  active x hx := by
    by_cases hxe : x = e
    · subst hxe
      exact (TimerListEntry.isActive_of_timer hm.timer_self).trans hnew
    · rw [TimerListEntry.isActive_of_timer (hm.timer_of_ne x hxe)]
      exact h.active x (hm.perm.mem_iff.mp hx)
  room := by
    rw [hm.allocated, hm.perm.length_eq]
    exact h.room
  owned := by
    rw [hm.freeList, hm.entryCount]
    exact (hm.perm.append_right tlist.freeList).trans h.owned

end TimerList

/-! ### Delete and re-insert -/

theorem timerListEntryDelete_spec {tlist : TimerList} (h : tlist.Valid) {e : Nat}
    (he : e ∈ tlist.entries) :
    ∃ tlist', timerListEntryDelete tlist e = some tlist' ∧ Removed tlist tlist' e := by
  obtain ⟨tlist₁, hdelete, hplaced, hkept, hperm, hheap⟩ := timerListHeapDelete_spec h.placed he
  have hnodup := hperm.nodup_iff.mpr h.placed.nodup
  have hnotMem := (List.nodup_cons.mp hnodup).1
  refine ⟨_, by
    rw [timerListEntryDelete, if_pos (h.active e he), hdelete, Option.bind_eq_bind,
      Option.bind_some], ?_⟩
  exact {
    placed := fun i x hx => by
      have hxe : x ≠ e := by
        rintro rfl
        exact hnotMem (List.mem_of_getElem? hx)
      simp only [modifyEntry, Function.update_of_ne hxe]
      exact hplaced i x hx
    perm := hperm
    freeList := by
      simp only [modifyEntry, hkept.freeList]
    allocated := hkept.allocated
    entryCount := hkept.entryCount
    inactive := by simp only [modifyEntry, Function.update_self]
    timer_of_ne := fun x hxe => by
      simp only [modifyEntry, Function.update_of_ne hxe]
      exact hkept.timer x
    heap := hheap }

theorem TimerListEntry.stamp_timer {toInterval : UInt32 → UInt32} {entry entry' : TimerListEntry}
    (h : entry'.timer = entry.timer) :
    (entry'.stamp toInterval).timer = (entry.stamp toInterval).timer := by
  cases entry
  cases entry'
  simp only [TimerListEntry.timer, TimerListEntry.stamp, TimerListEntry.mk.injEq] at h ⊢
  obtain ⟨rfl, rfl, _, rfl, _, rfl⟩ := h
  exact ⟨rfl, rfl, rfl, rfl, trivial, rfl⟩

/-- A timer in the heap is put in again: there is room for it, whatever `realloc` would say. -/
theorem timerListReinsert_spec (toInterval : UInt32 → UInt32) (realloc : Bool)
    {f : TimerListEntry → TimerListEntry}
    (hf : ∀ entry entry', entry'.timer = entry.timer → (f entry').timer = (f entry).timer)
    {tlist : TimerList} (h : tlist.Valid) {e : Nat} (he : e ∈ tlist.entries) :
    ∃ tlist', timerListReinsert toInterval realloc f tlist e = some tlist' ∧
      Moved toInterval (f (tlist.entry e)) tlist tlist' e := by
  obtain ⟨tlist₁, hdelete, hplaced, hkept, hperm, hheap⟩ := timerListHeapDelete_spec h.placed he
  have hnodup := hperm.nodup_iff.mpr h.placed.nodup
  have hnotMem := (List.nodup_cons.mp hnodup).1
  have hlength := hperm.length_eq
  have hroom := h.room
  rw [List.length_cons] at hlength
  have hmodified : (tlist₁.modifyEntry e f).Placed := by
    intro i x hx
    have hxe : x ≠ e := by
      rintro rfl
      exact hnotMem (List.mem_of_getElem? hx)
    simp only [modifyEntry, Function.update_of_ne hxe]
    exact hplaced i x hx
  have hfits : tlist₁.entries.length + 1 ≤ tlist₁.allocated := by
    rw [hkept.allocated]
    omega
  obtain ⟨hfull, _, _⟩ | ⟨_, tlist', hinsert, hinserted⟩ :=
    timerListInsertIntoList_spec toInterval realloc hmodified (Nat.le_of_succ_le hfits) hnotMem
  · exact absurd hfull (Nat.not_lt.mpr hfits)
  · have hself : ((tlist₁.modifyEntry e f).entry e).timer = (f (tlist.entry e)).timer := by
      simp only [modifyEntry, Function.update_self]
      exact hf _ _ (hkept.timer e)
    refine ⟨tlist', ?_, ?_⟩
    · simp only [timerListReinsert, hdelete, hinsert, Option.bind_eq_bind, Option.bind_some]
    · exact {
        placed := hinserted.placed
        perm := hinserted.perm.trans hperm
        freeList := hinserted.freeList.trans hkept.freeList
        allocated := (hinserted.allocated hfits).trans hkept.allocated
        entryCount := hinserted.entryCount.trans hkept.entryCount
        timer_self := hinserted.timer_self.trans (TimerListEntry.stamp_timer hself)
        timer_of_ne := fun x hxe => by
          rw [hinserted.timer_of_ne x hxe]
          simp only [modifyEntry, Function.update_of_ne hxe]
          exact hkept.timer x
        heap := fun key key' hsame hcmp hcmp' hheap₀ => by
          refine hinserted.heap key' hcmp' ((hheap key hcmp hheap₀).congr fun x hx => ?_)
          refine hsame x (hperm.mem_iff.mp (List.mem_cons_of_mem e hx)) ?_
          rintro rfl
          exact hnotMem hx }

/-- What a call that reschedules a timer leaves alone. -/
private theorem reschedule_congr (now : Nat) (entry entry' : TimerListEntry)
    (h : entry'.timer = entry.timer) :
    ({ entry' with epoch := UInt32.ofNat now, since := now } : TimerListEntry).timer =
      ({ entry with epoch := UInt32.ofNat now, since := now } : TimerListEntry).timer := by
  simp only [TimerListEntry.timer, TimerListEntry.mk.injEq] at h ⊢
  exact ⟨trivial, h.2.1, h.2.2.1, h.2.2.2.1, trivial, trivial⟩

theorem timerListEntryReschedule_spec (toInterval : UInt32 → UInt32) (realloc : Bool) (now : Nat)
    {tlist : TimerList} (h : tlist.Valid) {e : Nat} (he : e ∈ tlist.entries) :
    ∃ tlist', timerListEntryReschedule toInterval realloc now tlist e = some tlist' ∧
      Moved toInterval { tlist.entry e with epoch := UInt32.ofNat now, since := now }
        tlist tlist' e := by
  rw [timerListEntryReschedule, if_pos (h.active e he)]
  exact timerListReinsert_spec toInterval realloc (reschedule_congr now) h he

theorem timerListEntrySetInterval_spec (toInterval : UInt32 → UInt32) (realloc : Bool) (now : Nat)
    (interval : UInt32) {tlist : TimerList} (h : tlist.Valid) {e : Nat} (he : e ∈ tlist.entries) :
    timerListEntrySetInterval toInterval realloc now interval tlist e = some (tlist, false) ∨
    ∃ tlist', timerListEntrySetInterval toInterval realloc now interval tlist e =
        some (tlist', true) ∧
      Moved toInterval
        { tlist.entry e with interval := interval, epoch := UInt32.ofNat now, since := now }
        tlist tlist' e := by
  rw [timerListEntrySetInterval]
  split
  · exact .inl rfl
  · rw [if_neg (by rw [h.active e he]; exact fun hno => by cases hno)]
    have hcongr : ∀ entry entry' : TimerListEntry, entry'.timer = entry.timer →
        ({ entry' with interval := interval, epoch := UInt32.ofNat now, since := now } :
          TimerListEntry).timer =
        ({ entry with interval := interval, epoch := UInt32.ofNat now, since := now } :
          TimerListEntry).timer := by
      intro entry entry' htimer
      simp only [TimerListEntry.timer, TimerListEntry.mk.injEq] at htimer ⊢
      exact ⟨trivial, trivial, htimer.2.2.1, htimer.2.2.2.1, trivial, trivial⟩
    obtain ⟨tlist', hreinsert, hmoved⟩ := timerListReinsert_spec toInterval realloc hcongr h he
    exact .inr ⟨tlist', by rw [hreinsert]; rfl, hmoved⟩

/-! ### Add -/

/-- A new timer, before it is inserted. -/
def newTimer (now : Nat) (interval : UInt32) : TimerListEntry where
  epoch := UInt32.ofNat now
  interval := interval
  isActive := true
  heapPos := noHeapPos
  since := now

theorem timerListTake_spec {malloc : Bool} {tlist tlist₁ : TimerList} {e : Nat}
    (h : timerListTake malloc tlist = some (tlist₁, e)) :
    tlist.Taken e tlist₁.freeList tlist₁.entryCount ∧
      tlist₁ = { tlist with freeList := tlist₁.freeList, entryCount := tlist₁.entryCount } := by
  rw [timerListTake] at h
  split at h
  · next e' rest hfree =>
    cases h
    exact ⟨.inl ⟨hfree, rfl⟩, rfl⟩
  · next hfree =>
    split at h
    · cases h
      exact ⟨.inr ⟨hfree, hfree, rfl, rfl⟩, rfl⟩
    · cases h

theorem timerListAdd_spec (toInterval : UInt32 → UInt32) (alloc : TimerAlloc) (now : Nat)
    (interval : UInt32) (func : Bool) {tlist : TimerList} (h : tlist.Valid) :
    ∃ tlist' added, timerListAdd toInterval alloc now interval func tlist = some (tlist', added) ∧
      ((added = none ∧ (tlist' = tlist ∨ AddFailed tlist tlist')) ∨
        ∃ e, added = some e ∧ Added toInterval (newTimer now interval) tlist tlist' e) := by
  rw [timerListAdd]
  split
  · exact ⟨tlist, none, rfl, .inl ⟨rfl, .inl rfl⟩⟩
  · cases htake : timerListTake alloc.malloc tlist with
    | none => exact ⟨tlist, none, rfl, .inl ⟨rfl, .inl rfl⟩⟩
    | some result =>
    obtain ⟨tlist₁, e⟩ := result
    obtain ⟨htaken, htlist₁⟩ := timerListTake_spec htake
    have hentries : tlist₁.entries = tlist.entries := by rw [htlist₁]
    have hallocated : tlist₁.allocated = tlist.allocated := by rw [htlist₁]
    have hentry : tlist₁.entry = tlist.entry := by rw [htlist₁]
    have hnotMem := htaken.notMem h
    have hnew : (tlist₁.modifyEntry e fun _ => newTimer now interval).Placed := by
      intro i x hx
      rw [modifyEntry] at hx
      dsimp only at hx
      rw [hentries] at hx
      have hxe : x ≠ e := by
        rintro rfl
        exact hnotMem (List.mem_of_getElem? hx)
      simp only [modifyEntry, Function.update_of_ne hxe, hentry]
      exact h.placed i x hx
    have hsize : (tlist₁.modifyEntry e fun _ => newTimer now interval).entries.length ≤
        tlist₁.allocated := by
      rw [hallocated]
      exact hentries ▸ h.room
    have hself : ((tlist₁.modifyEntry e fun _ => newTimer now interval).entry e) =
        newTimer now interval := by
      simp only [modifyEntry, Function.update_self]
    change ∃ tlist' added, (timerListInsertIntoList toInterval alloc.realloc
      (tlist₁.modifyEntry e fun _ => newTimer now interval) e).bind (fun result =>
        if result.2 then some (result.1, some e)
        else some ({ result.1 with freeList := e :: result.1.freeList }, none)) =
      some (tlist', added) ∧ _
    -- The entry is written first; if the heap cannot grow it ends up in the free list.
    obtain ⟨hfull, _, hinsert⟩ | ⟨_, tlist', hinsert, hinserted⟩ :=
      timerListInsertIntoList_spec toInterval alloc.realloc hnew hsize (by rwa [← hentries] at hnotMem)
    · rw [hinsert]
      refine ⟨_, none, rfl, .inl ⟨rfl, .inr ⟨⟨e, tlist₁.freeList, htaken, rfl, ?_⟩, ?_, hentries,
        hallocated⟩⟩⟩
      · intro x hxe
        simp only [modifyEntry, Function.update_of_ne hxe, hentry]
      · have hroom := h.room
        rw [show (tlist₁.modifyEntry e fun _ => newTimer now interval).entries = tlist₁.entries
          from rfl, hentries, show (tlist₁.modifyEntry e fun _ =>
            newTimer now interval).allocated = tlist₁.allocated from rfl, hallocated] at hfull
        omega
    · rw [hinsert]
      refine ⟨tlist', some e, rfl, .inr ⟨e, rfl, ?_⟩⟩
      exact {
          taken := by
            rw [hinserted.freeList, hinserted.entryCount]
            exact htaken
          inserted := ⟨hinserted.placed, by rw [← hentries]; exact hinserted.perm⟩
          room := hinserted.room
          allocated := fun hle => by
            rw [← hallocated, ← hentries] at *
            exact hinserted.allocated hle
          timer_self := hself ▸ hinserted.timer_self
          timer_of_ne := fun x hxe => by
            rw [hinserted.timer_of_ne x hxe]
            simp only [modifyEntry, Function.update_of_ne hxe, hentry]
          heap := fun key hcmp hheap => hinserted.heap key hcmp (by rwa [← hentries] at hheap) }

end Qdevice
