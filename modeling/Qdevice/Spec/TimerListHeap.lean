import Mathlib.Algebra.Group.Int.Defs
import Mathlib.Data.Int.Order.Basic
import Mathlib.Data.List.Nodup
import Mathlib.Data.List.Perm.Basic
import Qdevice.Native.TimerList

/-! # The heap of the timer list

What the functions on the heap do, whatever the clock says: each entry knows its slot, no
entry is lost, no `assert` fails and both sift loops end.  Beside that each of them keeps
the heap ordered by a key, if the comparisons that `timer_list_entry_cmp` makes are right
about that key.  The first half does not depend on the second. -/

namespace Qdevice

/-- An entry less its position in the heap. -/
def TimerListEntry.timer (entry : TimerListEntry) : TimerListEntry := { entry with heapPos := 0 }

theorem timerListEntryTimeToExpire_timer {entry entry' : TimerListEntry}
    (h : entry'.timer = entry.timer) (currentTime : UInt32) :
    timerListEntryTimeToExpire entry' currentTime =
      timerListEntryTimeToExpire entry currentTime := by
  have hexpire := congrArg TimerListEntry.expireTime h
  dsimp only [TimerListEntry.timer] at hexpire
  rw [timerListEntryTimeToExpire, timerListEntryTimeToExpire, hexpire]

theorem timerListEntryCmp_timer {entry₁ entry₁' entry₂ entry₂' : TimerListEntry}
    (h₁ : entry₁'.timer = entry₁.timer) (h₂ : entry₂'.timer = entry₂.timer) :
    timerListEntryCmp entry₁' entry₂' entry₂'.epoch =
      timerListEntryCmp entry₁ entry₂ entry₂.epoch := by
  have hepoch := congrArg TimerListEntry.epoch h₂
  dsimp only [TimerListEntry.timer] at hepoch
  rw [timerListEntryCmp, timerListEntryCmp, hepoch, timerListEntryTimeToExpire_timer h₁,
    timerListEntryTimeToExpire_timer h₂]

namespace TimerList

/-- Every entry in the heap knows its slot. -/
def Placed (tlist : TimerList) : Prop :=
  ∀ i e, tlist.entries[i]? = some e → (tlist.entry e).heapPos = i

/-- No entry is in the heap twice. -/
theorem Placed.nodup {tlist : TimerList} (h : tlist.Placed) : tlist.entries.Nodup := by
  rw [List.nodup_iff_getElem?_ne_getElem?]
  intro i j hij hj heq
  rw [List.getElem?_eq_getElem hj] at heq
  have hi := h i _ heq
  rw [h j _ (List.getElem?_eq_getElem hj)] at hi
  omega

/-- The heap of `tlist'` has the entries of the heap of `tlist`, and nothing else has changed
    but their positions. -/
structure Shuffled (tlist tlist' : TimerList) : Prop where
  perm : tlist'.entries.Perm tlist.entries
  allocated : tlist'.allocated = tlist.allocated
  freeList : tlist'.freeList = tlist.freeList
  entryCount : tlist'.entryCount = tlist.entryCount
  timer : ∀ e, (tlist'.entry e).timer = (tlist.entry e).timer

theorem Shuffled.refl (tlist : TimerList) : Shuffled tlist tlist :=
  ⟨.refl _, rfl, rfl, rfl, fun _ => rfl⟩

theorem Shuffled.trans {tlist₁ tlist₂ tlist₃ : TimerList} (h₁ : Shuffled tlist₁ tlist₂)
    (h₂ : Shuffled tlist₂ tlist₃) : Shuffled tlist₁ tlist₃ where
  perm := h₂.perm.trans h₁.perm
  allocated := h₂.allocated.trans h₁.allocated
  freeList := h₂.freeList.trans h₁.freeList
  entryCount := h₂.entryCount.trans h₁.entryCount
  timer e := (h₂.timer e).trans (h₁.timer e)

/-- `timer_list_entry_cmp` orders the given entries by `key`. -/
structure Compares (tlist : TimerList) (entries : List Nat) (key : Nat → Int) : Prop where
  gt : ∀ a ∈ entries, ∀ b ∈ entries,
    (timerListEntryCmp (tlist.entry a) (tlist.entry b) (tlist.entry b).epoch > 0 ↔ key b < key a)
  lt : ∀ a ∈ entries, ∀ b ∈ entries,
    (timerListEntryCmp (tlist.entry a) (tlist.entry b) (tlist.entry b).epoch < 0 ↔ key a < key b)

theorem Compares.congr {tlist tlist' : TimerList} {entries entries' : List Nat} {key : Nat → Int}
    (h : tlist.Compares entries key) (hsub : ∀ e ∈ entries', e ∈ entries)
    (htimer : ∀ e ∈ entries', (tlist'.entry e).timer = (tlist.entry e).timer) :
    tlist'.Compares entries' key where
  gt a ha b hb := by
    rw [timerListEntryCmp_timer (htimer a ha) (htimer b hb)]
    exact h.gt a (hsub a ha) b (hsub b hb)
  lt a ha b hb := by
    rw [timerListEntryCmp_timer (htimer a ha) (htimer b hb)]
    exact h.lt a (hsub a ha) b (hsub b hb)

theorem Compares.shuffled {tlist tlist' : TimerList} {key : Nat → Int}
    (h : tlist.Compares tlist.entries key) (hs : Shuffled tlist tlist') :
    tlist'.Compares tlist'.entries key :=
  h.congr (fun _ he => hs.perm.mem_iff.mp he) fun e _ => hs.timer e

end TimerList

open TimerList

/-! ### Slots -/

theorem timerListHeapEntryGet_eq (tlist : TimerList) (pos : Nat) :
    timerListHeapEntryGet tlist pos = tlist.entries[pos]? := by
  rw [timerListHeapEntryGet, TimerList.size]
  split
  · rfl
  · next hge => rw [List.getElem?_eq_none (Nat.le_of_not_lt hge)]

/-- Put an entry into a slot that exists. -/
def TimerList.place (tlist : TimerList) (pos e : Nat) : TimerList :=
  { tlist with entries := tlist.entries.set pos e }.modifyEntry e
    fun entry => { entry with heapPos := pos }

theorem timerListHeapEntrySet_eq {tlist : TimerList} {pos : Nat} (h : pos < tlist.entries.length)
    (e : Nat) : timerListHeapEntrySet tlist pos e = some (tlist.place pos e) := by
  rw [timerListHeapEntrySet, if_pos (by exact h), TimerList.place]

theorem TimerList.place_timer (tlist : TimerList) (pos e x : Nat) :
    ((tlist.place pos e).entry x).timer = (tlist.entry x).timer := by
  by_cases hx : x = e
  · subst hx
    simp only [place, modifyEntry, Function.update_self, TimerListEntry.timer]
  · simp only [place, modifyEntry, Function.update_of_ne hx]

theorem TimerList.place_heapPos_self (tlist : TimerList) (pos e : Nat) :
    ((tlist.place pos e).entry e).heapPos = pos := by
  simp only [place, modifyEntry, Function.update_self]

theorem TimerList.place_entry_of_ne (tlist : TimerList) (pos : Nat) {e x : Nat} (h : x ≠ e) :
    (tlist.place pos e).entry x = tlist.entry x := by
  simp only [place, modifyEntry, Function.update_of_ne h]

/-- Swapping the entries of two slots. -/
theorem timerListHeapSwap_spec {tlist : TimerList} (h : tlist.Placed) {i j a b : Nat}
    (ha : tlist.entries[i]? = some a) (hb : tlist.entries[j]? = some b) (hne : i ≠ j) :
    ∃ tlist', timerListHeapSwap tlist j a i b = some tlist' ∧ tlist'.Placed ∧
      Shuffled tlist tlist' ∧ tlist'.entries = (tlist.entries.set j a).set i b := by
  have hi := (List.getElem?_eq_some_iff.mp ha).1
  have hj := (List.getElem?_eq_some_iff.mp hb).1
  have hab : a ≠ b := by
    rintro rfl
    exact hne ((h i a ha).symm.trans (h j a hb))
  have hswap : timerListHeapSwap tlist j a i b = some ((tlist.place j a).place i b) := by
    rw [timerListHeapSwap, timerListHeapEntrySet_eq hj]
    exact timerListHeapEntrySet_eq (by simp only [place, modifyEntry, List.length_set]; exact hi) b
  refine ⟨_, hswap, ?_, ⟨?_, rfl, rfl, rfl, fun e => ?_⟩, rfl⟩
  · intro k e he
    rw [show ((tlist.place j a).place i b).entries = (tlist.entries.set j a).set i b from rfl,
      Heap.getElem?_swap ha hb] at he
    split at he
    · next hk =>
      cases he
      rw [place_heapPos_self, hk]
    · next hki =>
      split at he
      · next hk =>
        cases he
        rw [place_entry_of_ne _ _ hab, place_heapPos_self, hk]
      · next hkj =>
        have heb : e ≠ b := fun heq => hkj ((h k e he).symm.trans (heq ▸ h j b hb))
        have hea : e ≠ a := fun heq => hki ((h k e he).symm.trans (heq ▸ h i a ha))
        rw [place_entry_of_ne _ _ heb, place_entry_of_ne _ _ hea]
        exact h k e he
  · have hperm := List.set_set_perm hj hi
    rw [(List.getElem?_eq_some_iff.mp ha).2, (List.getElem?_eq_some_iff.mp hb).2] at hperm
    exact hperm
  · rw [place_timer, place_timer]

/-! ### The sift loops -/

/-- What a function that puts one entry of the heap into its place has done. -/
structure Sifted (tlist tlist' : TimerList) : Prop where
  placed : tlist'.Placed
  shuffled : Shuffled tlist tlist'

/-- The loop of sift up ends within as many rounds as the position says. -/
theorem timerListHeapSiftUpLoop_spec {fuel : Nat} {tlist : TimerList} {item pos : Nat}
    (h : tlist.Placed) (hitem : tlist.entries[pos]? = some item) (hfuel : pos < fuel) :
    ∃ tlist', timerListHeapSiftUpLoop fuel tlist item pos = some tlist' ∧ Sifted tlist tlist' ∧
      ∀ key, tlist.Compares tlist.entries key → Heap.UpTo key tlist.entries pos →
        Heap.IsHeap key tlist'.entries := by
  induction fuel generalizing tlist pos with
  | zero => exact absurd hfuel (Nat.not_lt_zero pos)
  | succ fuel ih =>
    rw [timerListHeapSiftUpLoop]
    by_cases hpos : pos > 0
    · have hlt : Heap.parent pos < pos := Heap.parent_lt hpos
      have hlen := (List.getElem?_eq_some_iff.mp hitem).1
      obtain ⟨parent, hparent⟩ : ∃ parent, tlist.entries[Heap.parent pos]? = some parent :=
        ⟨_, List.getElem?_eq_getElem (Nat.lt_trans hlt hlen)⟩
      have hget : timerListHeapEntryGet tlist (timerListHeapIndexParent pos) = some parent := by
        rw [timerListHeapEntryGet_eq]
        exact hparent
      simp only [if_pos hpos, hget, Option.bind_eq_bind, Option.bind_some]
      have hitemMem := List.mem_of_getElem? hitem
      have hparentMem := List.mem_of_getElem? hparent
      split
      · next hgt =>
        obtain ⟨tlist₁, hswap, hplaced, hshuffled, hentries⟩ :=
          timerListHeapSwap_spec h hitem hparent (Nat.ne_of_gt hlt)
        have hitem₁ : tlist₁.entries[Heap.parent pos]? = some item := by
          rw [hentries, Heap.getElem?_swap hitem hparent, if_neg (Nat.ne_of_lt hlt), if_pos rfl]
        obtain ⟨tlist', hloop, hsifted, hheap⟩ := ih hplaced hitem₁ (by omega)
        refine ⟨tlist', ?_, ⟨hsifted.placed, hshuffled.trans hsifted.shuffled⟩, ?_⟩
        · rw [show timerListHeapIndexParent pos = Heap.parent pos from rfl, hswap]
          exact hloop
        · intro key hcmp hup
          refine hheap key (hcmp.shuffled hshuffled) ?_
          rw [hentries]
          exact hup.swap hpos hitem hparent ((hcmp.gt parent hparentMem item hitemMem).mp hgt)
      · next hle =>
        refine ⟨tlist, rfl, ⟨h, .refl tlist⟩, fun key hcmp hup => hup.isHeap ?_⟩
        intro a b _ ha hb
        rw [hparent, Option.some.injEq] at ha
        rw [hitem, Option.some.injEq] at hb
        subst ha hb
        exact Int.not_lt.mp fun hgt => hle ((hcmp.gt _ hparentMem _ hitemMem).mpr hgt)
    · rw [if_neg hpos]
      exact ⟨tlist, rfl, ⟨h, .refl tlist⟩, fun key _ hup => hup.isHeap fun _ _ hno => absurd hno hpos⟩

theorem timerListHeapSiftUp_spec {tlist : TimerList} {item pos : Nat} (h : tlist.Placed)
    (hitem : tlist.entries[pos]? = some item) :
    ∃ tlist', timerListHeapSiftUp tlist pos = some tlist' ∧ Sifted tlist tlist' ∧
      ∀ key, tlist.Compares tlist.entries key → Heap.UpTo key tlist.entries pos →
        Heap.IsHeap key tlist'.entries := by
  have hget : timerListHeapEntryGet tlist pos = some item := by
    rw [timerListHeapEntryGet_eq]
    exact hitem
  simp only [timerListHeapSiftUp, hget, Option.bind_eq_bind, Option.bind_some]
  exact timerListHeapSiftUpLoop_spec h hitem (Nat.lt_succ_self pos)

/-- One look at a child.  The smallest entry so far is `small`, at a position that is in the
    heap; afterwards it is that one or the child, and not greater than either. -/
theorem timerListHeapSmaller_spec {tlist : TimerList} (childPos : Nat) {small smallPos : Nat}
    (hsmall : tlist.entries[smallPos]? = some small) :
    ∃ small' smallPos', timerListHeapSmaller tlist childPos (small, smallPos) =
        some (small', smallPos') ∧ tlist.entries[smallPos']? = some small' ∧
      (smallPos' = smallPos ∨ smallPos' = childPos) ∧
      ∀ key, tlist.Compares tlist.entries key →
        key small' ≤ key small ∧ (smallPos' ≠ smallPos → key small' < key small) ∧
        ∀ child, tlist.entries[childPos]? = some child → key small' ≤ key child := by
  have hsmallMem := List.mem_of_getElem? hsmall
  rw [timerListHeapSmaller]
  by_cases hchild : childPos < tlist.size
  · obtain ⟨child, hget⟩ : ∃ child, tlist.entries[childPos]? = some child :=
      ⟨_, List.getElem?_eq_getElem hchild⟩
    have hchildMem := List.mem_of_getElem? hget
    simp only [if_pos hchild, timerListHeapEntryGet_eq, hget, Option.bind_eq_bind, Option.bind_some]
    split
    · next hlt =>
      refine ⟨child, childPos, rfl, hget, Or.inr rfl, fun key hcmp => ?_⟩
      have hkey := (hcmp.lt child hchildMem small hsmallMem).mp hlt
      refine ⟨Int.le_of_lt hkey, fun _ => hkey, fun c hc => ?_⟩
      rw [Option.some.injEq] at hc
      exact hc ▸ Int.le_refl _
    · next hge =>
      refine ⟨small, smallPos, rfl, hsmall, Or.inl rfl, fun key hcmp => ?_⟩
      refine ⟨Int.le_refl _, fun hno => absurd rfl hno, fun c hc => ?_⟩
      rw [Option.some.injEq] at hc
      subst hc
      exact Int.not_lt.mp fun hlt => hge ((hcmp.lt _ hchildMem _ hsmallMem).mpr hlt)
  · rw [if_neg hchild]
    refine ⟨small, smallPos, rfl, hsmall, Or.inl rfl, fun key hcmp => ?_⟩
    refine ⟨Int.le_refl _, fun hno => absurd rfl hno, fun c hc => ?_⟩
    exact absurd (List.getElem?_eq_some_iff.mp hc).1 hchild

/-- The position of a child. -/
theorem timerListHeapIndex_parent {i pos : Nat} (hi : 0 < i) :
    Heap.parent i = pos ↔ i = timerListHeapIndexLeft pos ∨ i = timerListHeapIndexRight pos := by
  rw [Heap.parent, timerListHeapIndexLeft, timerListHeapIndexRight]
  omega

/-- The loop of sift down ends within as many rounds as there are slots from the position on. -/
theorem timerListHeapSiftDownLoop_spec {fuel : Nat} {tlist : TimerList} {item pos : Nat}
    (h : tlist.Placed) (hitem : tlist.entries[pos]? = some item)
    (hfuel : tlist.entries.length ≤ fuel + pos) :
    ∃ tlist', timerListHeapSiftDownLoop fuel tlist pos = some tlist' ∧ Sifted tlist tlist' ∧
      ∀ key, tlist.Compares tlist.entries key → Heap.DownFrom key tlist.entries pos →
        Heap.IsHeap key tlist'.entries := by
  induction fuel generalizing tlist item pos with
  | zero =>
    have hlen := (List.getElem?_eq_some_iff.mp hitem).1
    omega
  | succ fuel ih =>
    obtain ⟨small₁, pos₁, hleft, hsmall₁, hpos₁, hkey₁⟩ :=
      timerListHeapSmaller_spec (timerListHeapIndexLeft pos) hitem
    obtain ⟨small₂, pos₂, hright, hsmall₂, hpos₂, hkey₂⟩ :=
      timerListHeapSmaller_spec (timerListHeapIndexRight pos) hsmall₁
    simp only [timerListHeapSiftDownLoop, timerListHeapEntryGet_eq, hitem, hleft, hright,
      Option.bind_eq_bind, Option.bind_some]
    -- The entry that was found is not greater than either child.
    have hleast : ∀ key, tlist.Compares tlist.entries key → ∀ i b, 0 < i → Heap.parent i = pos →
        tlist.entries[i]? = some b → key small₂ ≤ key b := by
      intro key hcmp i b hi hparent hb
      obtain ⟨hle₂, _, hchild₂⟩ := hkey₂ key hcmp
      obtain rfl | rfl := (timerListHeapIndex_parent hi).mp hparent
      · exact Int.le_trans hle₂ ((hkey₁ key hcmp).2.2 b hb)
      · exact hchild₂ b hb
    by_cases hstay : pos₂ = pos
    · rw [if_pos hstay]
      refine ⟨tlist, rfl, ⟨h, .refl tlist⟩, fun key hcmp hdown => hdown.isHeap ?_⟩
      intro i a b hi hparent ha hb
      rw [hstay, ha, Option.some.injEq] at hsmall₂
      exact hsmall₂ ▸ hleast key hcmp i b hi hparent hb
    · rw [if_neg hstay]
      have hchild : 0 < pos₂ ∧ Heap.parent pos₂ = pos := by
        have hcases : pos₂ = timerListHeapIndexLeft pos ∨ pos₂ = timerListHeapIndexRight pos := by
          omega
        have hpositive : 0 < pos₂ := by
          rw [timerListHeapIndexLeft, timerListHeapIndexRight] at hcases
          omega
        exact ⟨hpositive, (timerListHeapIndex_parent hpositive).mpr hcases⟩
      have hlt : pos < pos₂ := hchild.2 ▸ Heap.parent_lt hchild.1
      obtain ⟨tlist₁, hswap, hplaced, hshuffled, hentries⟩ :=
        timerListHeapSwap_spec h hsmall₂ hitem (Nat.ne_of_gt hlt)
      have hitem₁ : tlist₁.entries[pos₂]? = some item := by
        rw [hentries, Heap.getElem?_swap hsmall₂ hitem, if_pos rfl]
      have hlength : tlist₁.entries.length ≤ fuel + pos₂ := by
        rw [hentries, List.length_set, List.length_set]
        omega
      obtain ⟨tlist', hloop, hsifted, hheap⟩ := ih hplaced hitem₁ hlength
      refine ⟨tlist', ?_, ⟨hsifted.placed, hshuffled.trans hsifted.shuffled⟩, ?_⟩
      · rw [hswap]
        exact hloop
      · intro key hcmp hdown
        refine hheap key (hcmp.shuffled hshuffled) ?_
        rw [hentries]
        refine hdown.swap hchild.1 hchild.2 hitem hsmall₂ ?_ (hleast key hcmp)
        obtain ⟨hle₁, hlt₁, _⟩ := hkey₁ key hcmp
        obtain ⟨hle₂, hlt₂, _⟩ := hkey₂ key hcmp
        by_cases hsame : pos₂ = pos₁
        · exact Int.lt_of_le_of_lt hle₂ (hlt₁ (hsame ▸ hstay))
        · exact Int.lt_of_lt_of_le (hlt₂ hsame) hle₁

theorem timerListHeapSiftDown_spec {tlist : TimerList} {item pos : Nat} (h : tlist.Placed)
    (hitem : tlist.entries[pos]? = some item) :
    ∃ tlist', timerListHeapSiftDown tlist pos = some tlist' ∧ Sifted tlist tlist' ∧
      ∀ key, tlist.Compares tlist.entries key → Heap.DownFrom key tlist.entries pos →
        Heap.IsHeap key tlist'.entries :=
  timerListHeapSiftDownLoop_spec h hitem (by rw [TimerList.size]; omega)

/-! ### Delete and insert -/

/-- Nothing but the heap and positions has changed. -/
structure Kept (tlist tlist' : TimerList) : Prop where
  allocated : tlist'.allocated = tlist.allocated
  freeList : tlist'.freeList = tlist.freeList
  entryCount : tlist'.entryCount = tlist.entryCount
  timer : ∀ e, (tlist'.entry e).timer = (tlist.entry e).timer

theorem timerListEntryCmp_self (entry : TimerListEntry) (now : UInt32) :
    timerListEntryCmp entry entry now = 0 := by
  have hirrefl := UInt32.lt_irrefl (timerListEntryTimeToExpire entry now)
  simp only [timerListEntryCmp, gt_iff_lt, hirrefl, ↓reduceIte]

/-- The heap just before it is put in order again by `timer_list_heap_delete`: the last entry
    `last` is where the deleted one was. -/
def TimerList.replaceLast (tlist : TimerList) (e last : Nat) : TimerList :=
  let cleared := tlist.modifyEntry e fun entry => { entry with heapPos := noHeapPos }
  let placed := cleared.place (tlist.entry e).heapPos last
  { placed with entries := placed.entries.dropLast }

theorem TimerList.replaceLast_timer (tlist : TimerList) (e last x : Nat) :
    ((tlist.replaceLast e last).entry x).timer = (tlist.entry x).timer := by
  rw [replaceLast]
  dsimp only
  rw [place_timer]
  by_cases hx : x = e
  · subst hx
    simp only [modifyEntry, Function.update_self, TimerListEntry.timer]
  · simp only [modifyEntry, Function.update_of_ne hx]

/-- `timer_list_heap_delete` as far as its comparison. -/
theorem timerListHeapDelete_eq {tlist : TimerList} (h : tlist.Placed) {pos e last : Nat}
    (he : tlist.entries[pos]? = some e)
    (hlast : tlist.entries[tlist.entries.length - 1]? = some last) :
    timerListHeapDelete tlist e =
      if timerListEntryCmp (tlist.entry last) (tlist.entry e) (tlist.entry e).epoch < 0 then
        timerListHeapSiftUp (tlist.replaceLast e last) pos
      else if timerListEntryCmp (tlist.entry last) (tlist.entry e) (tlist.entry e).epoch > 0 then
        timerListHeapSiftDown (tlist.replaceLast e last) pos
      else some (tlist.replaceLast e last) := by
  have hpos := (List.getElem?_eq_some_iff.mp he).1
  have hcmp := timerListEntryCmp_timer (tlist.replaceLast_timer e last last)
    (tlist.replaceLast_timer e last e)
  rw [← hcmp]
  simp only [timerListHeapDelete, h pos e he, timerListHeapEntryGet_eq, TimerList.size,
    show (tlist.modifyEntry e fun entry => { entry with heapPos := noHeapPos }).entries =
      tlist.entries from rfl, hlast, Option.bind_eq_bind, Option.bind_some]
  rw [timerListHeapEntrySet_eq (by exact hpos)]
  simp only [replaceLast, h pos e he, Option.bind_some]

/-- The heap before it is put in order again. -/
theorem TimerList.Placed.replaceLast {tlist : TimerList} (h : tlist.Placed) {pos e last : Nat}
    (he : tlist.entries[pos]? = some e)
    (hlast : tlist.entries[tlist.entries.length - 1]? = some last) :
    (tlist.replaceLast e last).Placed := by
  intro k x hx
  rw [TimerList.replaceLast, h pos e he] at hx ⊢
  dsimp only at hx ⊢
  have hk := (List.getElem?_eq_some_iff.mp hx).1
  rw [List.length_dropLast, place, modifyEntry, modifyEntry] at hk
  dsimp only at hk
  rw [List.length_set] at hk
  rw [List.getElem?_dropLast, place, modifyEntry, modifyEntry] at hx
  dsimp only at hx
  rw [List.length_set, if_pos hk, List.getElem?_set] at hx
  split at hx
  · next hpos =>
    rw [if_pos (by omega), Option.some.injEq] at hx
    rw [← hx, place_heapPos_self, hpos]
  · next hpos =>
    have hxl : x ≠ last := by
      rintro rfl
      have := (h k x hx).symm.trans (h _ x hlast)
      omega
    have hxe : x ≠ e := by
      rintro rfl
      exact hpos ((h pos x he).symm.trans (h k x hx))
    rw [place_entry_of_ne _ _ hxl]
    simp only [modifyEntry, Function.update_of_ne hxe]
    exact h k x hx

/-- `timer_list_heap_delete`, of an entry in the heap. -/
theorem timerListHeapDelete_spec {tlist : TimerList} (h : tlist.Placed) {e : Nat}
    (he : e ∈ tlist.entries) :
    ∃ tlist', timerListHeapDelete tlist e = some tlist' ∧ tlist'.Placed ∧ Kept tlist tlist' ∧
      (e :: tlist'.entries).Perm tlist.entries ∧
      ∀ key, tlist.Compares tlist.entries key → Heap.IsHeap key tlist.entries →
        Heap.IsHeap key tlist'.entries := by
  obtain ⟨pos, hpos⟩ := List.mem_iff_getElem?.mp he
  have hlen := (List.getElem?_eq_some_iff.mp hpos).1
  obtain ⟨last, hlast⟩ : ∃ last, tlist.entries[tlist.entries.length - 1]? = some last :=
    ⟨_, List.getElem?_eq_getElem (by omega)⟩
  have hentries : (tlist.replaceLast e last).entries = (tlist.entries.set pos last).dropLast := by
    rw [replaceLast, h pos e hpos]
    rfl
  have hperm : (e :: (tlist.replaceLast e last).entries).Perm tlist.entries := by
    rw [hentries]
    exact Heap.perm_set_dropLast hpos hlast
  have hplaced := h.replaceLast hpos hlast
  have htimer := tlist.replaceLast_timer e last
  have hcompares : ∀ key, tlist.Compares tlist.entries key →
      (tlist.replaceLast e last).Compares (tlist.replaceLast e last).entries key := fun _ hcmp =>
    hcmp.congr (fun x hx => hperm.mem_iff.mp (List.mem_cons_of_mem e hx)) fun x _ => htimer x
  rw [timerListHeapDelete_eq h hpos hlast]
  by_cases hend : pos = tlist.entries.length - 1
  · -- The last entry itself is deleted, and the comparison is of that entry with itself.
    rw [← hend, hpos, Option.some.injEq] at hlast
    subst hlast
    simp only [timerListEntryCmp_self, gt_iff_lt, Int.lt_irrefl, ↓reduceIte]
    refine ⟨_, rfl, hplaced, ⟨rfl, rfl, rfl, htimer⟩, hperm, fun key _ hheap => ?_⟩
    have hset : tlist.entries.set pos e = tlist.entries := by
      rw [← (List.getElem?_eq_some_iff.mp hpos).2, List.set_getElem_self]
    rw [hentries, hset]
    exact hheap.dropLast
  · have hinner : pos < tlist.entries.dropLast.length := by
      rw [List.length_dropLast]
      omega
    have hold : tlist.entries.dropLast[pos]? = some e := by
      rw [List.getElem?_dropLast, if_pos (by omega), hpos]
    have hset : (tlist.replaceLast e last).entries = tlist.entries.dropLast.set pos last := by
      rw [hentries, List.dropLast_eq_take, List.dropLast_eq_take, List.length_set, List.take_set]
    have hnew : (tlist.replaceLast e last).entries[pos]? = some last := by
      rw [hset, List.getElem?_set, if_pos rfl, if_pos hinner]
    have hlastMem := List.mem_of_getElem? hlast
    have hfinish : ∀ tlist', Sifted (tlist.replaceLast e last) tlist' →
        tlist'.Placed ∧ Kept tlist tlist' ∧ (e :: tlist'.entries).Perm tlist.entries :=
      fun tlist' hs => ⟨hs.placed,
        ⟨hs.shuffled.allocated, hs.shuffled.freeList, hs.shuffled.entryCount,
          fun x => (hs.shuffled.timer x).trans (htimer x)⟩,
        (hs.shuffled.perm.cons e).trans hperm⟩
    split
    · next hlt =>
      obtain ⟨tlist', hsift, hsifted, hheap'⟩ := timerListHeapSiftUp_spec hplaced hnew
      obtain ⟨hplaced', hkept, hperm'⟩ := hfinish tlist' hsifted
      refine ⟨tlist', hsift, hplaced', hkept, hperm', fun key hcmp hheap => ?_⟩
      refine hheap' key (hcompares key hcmp) ?_
      rw [hset]
      exact hheap.dropLast.set_le hold (Int.le_of_lt ((hcmp.lt last hlastMem e he).mp hlt))
    · next hnlt =>
      split
      · next hgt =>
        obtain ⟨tlist', hsift, hsifted, hheap'⟩ := timerListHeapSiftDown_spec hplaced hnew
        obtain ⟨hplaced', hkept, hperm'⟩ := hfinish tlist' hsifted
        refine ⟨tlist', hsift, hplaced', hkept, hperm', fun key hcmp hheap => ?_⟩
        refine hheap' key (hcompares key hcmp) ?_
        rw [hset]
        exact hheap.dropLast.set_ge hold (Int.le_of_lt ((hcmp.gt last hlastMem e he).mp hgt))
      · next hngt =>
        refine ⟨_, rfl, hplaced, ⟨rfl, rfl, rfl, htimer⟩, hperm, fun key hcmp hheap => ?_⟩
        rw [hset]
        refine hheap.dropLast.set_eq hold (Int.le_antisymm ?_ ?_)
        · exact Int.not_lt.mp fun hgt => hngt ((hcmp.gt last hlastMem e he).mpr hgt)
        · exact Int.not_lt.mp fun hlt => hnlt ((hcmp.lt last hlastMem e he).mpr hlt)

/-- An entry as `timer_list_insert_into_list` stamps it. -/
def TimerListEntry.stamp (toInterval : UInt32 → UInt32) (entry : TimerListEntry) :
    TimerListEntry :=
  { entry with expireTime := entry.epoch + toInterval entry.interval }

/-- What an insertion that succeeded has done. -/
structure Inserted (toInterval : UInt32 → UInt32) (tlist tlist' : TimerList) (e : Nat) : Prop where
  placed : tlist'.Placed
  perm : tlist'.entries.Perm (e :: tlist.entries)
  room : tlist'.entries.length ≤ tlist'.allocated
  allocated : tlist.entries.length + 1 ≤ tlist.allocated → tlist'.allocated = tlist.allocated
  freeList : tlist'.freeList = tlist.freeList
  entryCount : tlist'.entryCount = tlist.entryCount
  timer_self : (tlist'.entry e).timer = ((tlist.entry e).stamp toInterval).timer
  timer_of_ne : ∀ x, x ≠ e → (tlist'.entry x).timer = (tlist.entry x).timer
  heap : ∀ key, tlist'.Compares tlist'.entries key → Heap.IsHeap key tlist.entries →
    Heap.IsHeap key tlist'.entries

/-- The heap with a stamped entry in a new last slot, before it is put in order. -/
def TimerList.append (toInterval : UInt32 → UInt32) (tlist : TimerList) (allocated e : Nat) :
    TimerList :=
  let stamped := tlist.modifyEntry e (TimerListEntry.stamp toInterval)
  { stamped with allocated := allocated, entries := tlist.entries ++ [e] }.place
    tlist.entries.length e

theorem TimerList.append_entries (toInterval : UInt32 → UInt32) (tlist : TimerList)
    (allocated e : Nat) : (tlist.append toInterval allocated e).entries = tlist.entries ++ [e] := by
  rw [append, place, modifyEntry]
  dsimp only
  rw [List.set_append_right _ _ (Nat.le_refl _), Nat.sub_self, List.set_cons_zero]

theorem TimerList.append_timer_self (toInterval : UInt32 → UInt32) (tlist : TimerList)
    (allocated e : Nat) : ((tlist.append toInterval allocated e).entry e).timer =
      ((tlist.entry e).stamp toInterval).timer := by
  rw [append, place_timer]
  simp only [modifyEntry, Function.update_self]

theorem TimerList.append_entry_of_ne (toInterval : UInt32 → UInt32) (tlist : TimerList)
    (allocated : Nat) {e x : Nat} (h : x ≠ e) :
    (tlist.append toInterval allocated e).entry x = tlist.entry x := by
  rw [append, place_entry_of_ne _ _ h]
  simp only [modifyEntry, Function.update_of_ne h]

theorem TimerList.Placed.append (toInterval : UInt32 → UInt32) {tlist : TimerList}
    (h : tlist.Placed) {e : Nat} (he : e ∉ tlist.entries) (allocated : Nat) :
    (tlist.append toInterval allocated e).Placed := by
  intro k x hx
  rw [append_entries, List.getElem?_append] at hx
  split at hx
  · have hxe : x ≠ e := by
      rintro rfl
      exact he (List.mem_of_getElem? hx)
    rw [append_entry_of_ne _ _ _ hxe]
    exact h k x hx
  · next hk =>
    rw [List.getElem?_singleton] at hx
    split at hx
    · next hend =>
      cases hx
      rw [TimerList.append, place_heapPos_self]
      omega
    · cases hx

/-- `timer_list_insert_into_list`, of an entry that is not in the heap.  It fails only if the array
    is full and cannot grow; then only the expiry of the entry has changed. -/
theorem timerListInsertIntoList_spec (toInterval : UInt32 → UInt32) (realloc : Bool)
    {tlist : TimerList} (h : tlist.Placed) (hsize : tlist.entries.length ≤ tlist.allocated)
    {e : Nat} (he : e ∉ tlist.entries) :
    (tlist.entries.length + 1 > tlist.allocated ∧ realloc = false ∧
      timerListInsertIntoList toInterval realloc tlist e =
        some (tlist.modifyEntry e (TimerListEntry.stamp toInterval), false)) ∨
    (¬ (tlist.entries.length + 1 > tlist.allocated ∧ realloc = false) ∧
      ∃ tlist', timerListInsertIntoList toInterval realloc tlist e = some (tlist', true) ∧
        Inserted toInterval tlist tlist' e) := by
  by_cases hfull : tlist.entries.length + 1 > tlist.allocated ∧ realloc = false
  · exact .inl ⟨hfull.1, hfull.2, if_pos hfull⟩
  · refine .inr ⟨hfull, ?_⟩
    obtain ⟨allocated, hallocated⟩ : ∃ allocated, allocated =
        if tlist.entries.length + 1 > tlist.allocated then (tlist.allocated + 1) * 2
        else tlist.allocated := ⟨_, rfl⟩
    have hroom : tlist.entries.length + 1 ≤ tlist.allocated → allocated = tlist.allocated :=
      fun hle => by rw [hallocated, if_neg (Nat.not_lt.mpr hle)]
    have hlast : (tlist.append toInterval allocated e).entries[tlist.entries.length]? = some e := by
      rw [append_entries, List.getElem?_append_right (Nat.le_refl _), Nat.sub_self]
      rfl
    -- The entry goes to the last slot and is sifted up from there.
    obtain ⟨tlist', hsift, hsifted, hheap⟩ :=
      timerListHeapSiftUp_spec (h.append toInterval he allocated) hlast
    have hshuffled := hsifted.shuffled
    have hperm : tlist'.entries.Perm (e :: tlist.entries) := by
      have happend := hshuffled.perm
      rw [append_entries] at happend
      exact happend.trans (List.perm_append_singleton e tlist.entries)
    refine ⟨tlist', ?_, ?_⟩
    · have hset : timerListHeapEntrySet
          { tlist.modifyEntry e (TimerListEntry.stamp toInterval) with
            allocated := allocated, entries := tlist.entries ++ [e] } tlist.entries.length e =
          some (tlist.append toInterval allocated e) :=
        timerListHeapEntrySet_eq
          (by rw [List.length_append, List.length_singleton]; exact Nat.lt_succ_self _) e
      have hlength : (tlist.entries ++ [e]).length - 1 = tlist.entries.length := by
        rw [List.length_append, List.length_singleton, Nat.add_sub_cancel]
      have hlength' : (tlist.append toInterval allocated e).entries.length - 1 =
          tlist.entries.length := by
        rw [append_entries, hlength]
      have heq : timerListInsertIntoList toInterval realloc tlist e =
          (timerListHeapEntrySet
            { tlist.modifyEntry e (TimerListEntry.stamp toInterval) with
              allocated := allocated, entries := tlist.entries ++ [e] }
            ((tlist.entries ++ [e]).length - 1) e).bind fun tlist₁ =>
          (timerListHeapSiftUp tlist₁ (tlist₁.entries.length - 1)).bind fun tlist₂ =>
            some (tlist₂, true) := by
        rw [hallocated]
        exact if_neg hfull
      rw [heq, hlength, hset, Option.bind_some, hlength', hsift, Option.bind_some]
    · exact {
        placed := hsifted.placed
        perm := hperm
        room := by
          rw [hperm.length_eq, List.length_cons, hshuffled.allocated,
            show (tlist.append toInterval allocated e).allocated = allocated from rfl, hallocated]
          split <;> omega
        allocated := fun hle => hshuffled.allocated.trans (hroom hle)
        freeList := hshuffled.freeList
        entryCount := hshuffled.entryCount
        timer_self := (hshuffled.timer e).trans (append_timer_self toInterval tlist allocated e)
        timer_of_ne := fun x hx => by
          rw [hshuffled.timer x, append_entry_of_ne _ _ _ hx]
        heap := fun key hcmp hheap' => by
          refine hheap key ?_ ?_
          · exact hcmp.congr (fun x hx => hshuffled.perm.mem_iff.mpr hx)
              fun x _ => (hshuffled.timer x).symm
          · rw [append_entries]
            exact hheap'.concat e }

end Qdevice
