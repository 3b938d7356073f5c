import Qdevice.Spec.TimerListRun

/-! # The order of the timer list

The list compares expiry times modulo 2^32, as seen from the epoch of one of the two timers.
Here they are compared with the true times.  A comparison is right as long as no difference
that it forms leaves the range of a signed 32-bit number; then the array is a min-heap by the
true expiry after every operation.  `TIMER_LIST_MAX_INTERVAL` alone does not ensure this: of
two timers the second may have been started late in the interval of the first. -/

namespace Qdevice

open TimerList

section

variable (toInterval : UInt32 → UInt32)

/-- The true expiry of a timer, on a clock that does not wrap. -/
def TimerListEntry.expiry (entry : TimerListEntry) : Nat :=
  entry.since + (toInterval entry.interval).toNat

/-- A timer as it is in the heap: `epoch` and `expire_time` are the last 32 bits of the true
    times, and its interval is at least one tick. -/
structure TimerListEntry.Scheduled (entry : TimerListEntry) : Prop where
  epoch : entry.epoch = UInt32.ofNat entry.since
  expireTime : entry.expireTime = entry.epoch + toInterval entry.interval
  tick : 1 ≤ (toInterval entry.interval).toNat

/-- The differences that comparisons of these timers form fit into 32 bits with a sign. -/
def TimerList.InRange (tlist : TimerList) : Prop :=
  ∀ e ∈ tlist.entries, ∀ f ∈ tlist.entries,
    -2 ^ 31 ≤ ((tlist.entry f).expiry toInterval : Int) - (tlist.entry e).since ∧
      ((tlist.entry f).expiry toInterval : Int) - (tlist.entry e).since ≤ 2 ^ 31 - 1

end

variable {toInterval : UInt32 → UInt32}

/-! ### One comparison -/

theorem TimerListEntry.Scheduled.expireTime_eq {entry : TimerListEntry}
    (h : entry.Scheduled toInterval) :
    entry.expireTime = UInt32.ofNat (entry.expiry toInterval) := by
  rw [h.expireTime, h.epoch, expiry, UInt32.ofNat_add, UInt32.ofNat_toNat]

/-- The time to expiry, by the difference modulo 2^32. -/
theorem timerListEntryTimeToExpire_toNat {entry : TimerListEntry} (h : entry.Scheduled toInterval)
    (now : Nat) :
    (timerListEntryTimeToExpire entry (UInt32.ofNat now)).toNat =
      if (2 ^ 32 - now % 2 ^ 32 + entry.expiry toInterval % 2 ^ 32) % 2 ^ 32 > 2 ^ 31 - 1 then 0
      else (2 ^ 32 - now % 2 ^ 32 + entry.expiry toInterval % 2 ^ 32) % 2 ^ 32 := by
  have hdiff : (entry.expireTime - UInt32.ofNat now).toNat =
      (2 ^ 32 - now % 2 ^ 32 + entry.expiry toInterval % 2 ^ 32) % 2 ^ 32 := by
    rw [h.expireTime_eq, UInt32.toNat_sub, UInt32.toNat_ofNat', UInt32.toNat_ofNat']
  have hhalf : ((~~~0 : UInt32) / 2).toNat = 2 ^ 31 - 1 := by decide
  rw [← hdiff, ← hhalf, timerListEntryTimeToExpire]
  simp only [gt_iff_lt, UInt32.lt_iff_toNat_lt]
  split <;> rfl

/-- A time to expiry that fits is the true one, and 0 for a timer that is overdue. -/
theorem timerListEntryTimeToExpire_eq {entry : TimerListEntry} (h : entry.Scheduled toInterval)
    (now : Nat) (hlow : now ≤ entry.expiry toInterval + 2 ^ 31)
    (hhigh : entry.expiry toInterval < now + 2 ^ 31) :
    (timerListEntryTimeToExpire entry (UInt32.ofNat now)).toNat =
      entry.expiry toInterval - now := by
  rw [timerListEntryTimeToExpire_toNat h]
  split <;> omega

/-- If it does not fit, because the expiry is too far ahead, it is 0. -/
theorem timerListEntryTimeToExpire_eq_zero {entry : TimerListEntry}
    (h : entry.Scheduled toInterval) (now : Nat) (hlow : now + 2 ^ 31 ≤ entry.expiry toInterval)
    (hhigh : entry.expiry toInterval < now + 2 ^ 32) :
    (timerListEntryTimeToExpire entry (UInt32.ofNat now)).toNat = 0 := by
  rw [timerListEntryTimeToExpire_toNat h, if_pos (by omega)]

/-- The result of a comparison, by the two times to expiry. -/
theorem timerListEntryCmp_eq (entry₁ entry₂ : TimerListEntry) (now : UInt32) :
    (timerListEntryCmp entry₁ entry₂ now > 0 ↔
      (timerListEntryTimeToExpire entry₂ now).toNat <
        (timerListEntryTimeToExpire entry₁ now).toNat) ∧
    (timerListEntryCmp entry₁ entry₂ now < 0 ↔
      (timerListEntryTimeToExpire entry₁ now).toNat <
        (timerListEntryTimeToExpire entry₂ now).toNat) := by
  simp only [timerListEntryCmp, gt_iff_lt, UInt32.lt_iff_toNat_lt]
  split
  · omega
  · split
    · omega
    · omega

/-- A comparison is right if the first timer, as seen from the epoch of the second one, and the
    second one itself fit. -/
theorem timerListEntryCmp_spec {entry₁ entry₂ : TimerListEntry}
    (h₁ : entry₁.Scheduled toInterval) (h₂ : entry₂.Scheduled toInterval)
    (hlow : entry₂.since ≤ entry₁.expiry toInterval + 2 ^ 31)
    (hhigh : entry₁.expiry toInterval < entry₂.since + 2 ^ 31)
    (hself : entry₂.expiry toInterval < entry₂.since + 2 ^ 31) :
    (timerListEntryCmp entry₁ entry₂ entry₂.epoch > 0 ↔
      entry₂.expiry toInterval < entry₁.expiry toInterval) ∧
    (timerListEntryCmp entry₁ entry₂ entry₂.epoch < 0 ↔
      entry₁.expiry toInterval < entry₂.expiry toInterval) := by
  have htick : entry₂.since < entry₂.expiry toInterval := by
    have := h₂.tick
    rw [TimerListEntry.expiry]
    omega
  have hcmp := timerListEntryCmp_eq entry₁ entry₂ entry₂.epoch
  rw [h₂.epoch, timerListEntryTimeToExpire_eq h₁ _ hlow hhigh,
    timerListEntryTimeToExpire_eq h₂ _ (by omega) hself] at hcmp
  rw [h₂.epoch, hcmp.1, hcmp.2]
  omega

/-! ### The heap -/

/-- The key of the heap. -/
def TimerList.key (toInterval : UInt32 → UInt32) (tlist : TimerList) (e : Nat) : Int :=
  (tlist.entry e).expiry toInterval

/-- In range, the comparisons that the list makes are by the true expiry. -/
theorem TimerList.InRange.compares {tlist : TimerList} (h : tlist.InRange toInterval)
    (hscheduled : ∀ e ∈ tlist.entries, (tlist.entry e).Scheduled toInterval) :
    tlist.Compares tlist.entries (tlist.key toInterval) := by
  have hspec : ∀ a ∈ tlist.entries, ∀ b ∈ tlist.entries, _ := fun a ha b hb =>
    timerListEntryCmp_spec (hscheduled a ha) (hscheduled b hb)
      (by have := h b hb a ha; omega) (by have := h b hb a ha; omega)
      (by have := h b hb b hb; omega)
  refine ⟨fun a ha b hb => ?_, fun a ha b hb => ?_⟩
  · rw [(hspec a ha b hb).1, key, key]
    omega
  · rw [(hspec a ha b hb).2, key, key]
    omega

theorem TimerListEntry.expiry_of_timer {entry entry' : TimerListEntry}
    (h : entry'.timer = entry.timer) : entry'.expiry toInterval = entry.expiry toInterval := by
  have hsince := congrArg TimerListEntry.since h
  have hinterval := congrArg TimerListEntry.interval h
  dsimp only [TimerListEntry.timer] at hsince hinterval
  rw [expiry, expiry, hsince, hinterval]

theorem TimerListEntry.Scheduled.of_timer {entry entry' : TimerListEntry}
    (hs : entry.Scheduled toInterval) (h : entry'.timer = entry.timer) :
    entry'.Scheduled toInterval := by
  cases entry
  cases entry'
  simp only [TimerListEntry.timer, TimerListEntry.mk.injEq] at h
  obtain ⟨rfl, rfl, rfl, _, _, rfl⟩ := h
  exact ⟨hs.epoch, hs.expireTime, hs.tick⟩

/-- An entry that was put into the heap. -/
theorem TimerListEntry.Fresh.scheduled {entry new : TimerListEntry} (hfresh : new.Fresh)
    (htick : 1 ≤ (toInterval new.interval).toNat)
    (h : entry.timer = (new.stamp toInterval).timer) : entry.Scheduled toInterval := by
  have hstamp : (new.stamp toInterval).Scheduled toInterval := ⟨hfresh.epoch, rfl, htick⟩
  exact hstamp.of_timer h

/-- What holds of the timers of a run in which every interval is at least one tick. -/
structure TimerList.Ordered (toInterval : UInt32 → UInt32) (tlist : TimerList) : Prop where
  scheduled : ∀ e ∈ tlist.entries, (tlist.entry e).Scheduled toInterval
  heap : tlist.InRange toInterval → Heap.IsHeap (tlist.key toInterval) tlist.entries

theorem TimerList.key_of_timer {tlist tlist' : TimerList} {e : Nat}
    (h : (tlist'.entry e).timer = (tlist.entry e).timer) :
    tlist'.key toInterval e = tlist.key toInterval e := by
  rw [key, key, TimerListEntry.expiry_of_timer h]

/-- Every change keeps the timers as they have to be in the heap. -/
theorem TimerChange.scheduled {tlist tlist' : TimerList} {handles handles' : List Nat}
    (hc : TimerChange toInterval (fun i => 1 ≤ (toInterval i).toNat) tlist tlist' handles handles')
    (hv : tlist.Valid) (hs : ∀ e ∈ tlist.entries, (tlist.entry e).Scheduled toInterval) :
    ∀ e ∈ tlist'.entries, (tlist'.entry e).Scheduled toInterval := by
  cases hc with
  | same hsame => exact hsame ▸ hs
  | failed hfailed =>
    obtain ⟨e, rest, htaken, _, hentry⟩ := hfailed.taken
    intro x hx
    rw [hfailed.entries] at hx
    rw [hentry x fun heq => htaken.notMem hv (heq ▸ hx)]
    exact hs x hx
  | @added e new hadded hfresh htick =>
    intro x hx
    by_cases hxe : x = e
    · subst hxe
      exact hfresh.scheduled htick hadded.timer_self
    · have hold := List.mem_of_ne_of_mem hxe (hadded.inserted.2.mem_iff.mp hx)
      exact (hs x hold).of_timer (hadded.timer_of_ne x hxe)
  | @removed e hremoved =>
    intro x hx
    have hxe : x ≠ e := fun heq => hremoved.notMem hv (heq ▸ hx)
    have hold := hremoved.perm.mem_iff.mp (List.mem_cons_of_mem e hx)
    exact (hs x hold).of_timer (hremoved.timer_of_ne x hxe)
  | @moved e new hmoved he hfresh hinterval =>
    have htick : 1 ≤ (toInterval new.interval).toNat := by
      obtain hok | hsame := hinterval
      · exact hok
      · rw [hsame]
        exact (hs e he).tick
    intro x hx
    by_cases hxe : x = e
    · subst hxe
      exact hfresh.scheduled htick hmoved.timer_self
    · exact (hs x (hmoved.perm.mem_iff.mp hx)).of_timer (hmoved.timer_of_ne x hxe)

/-- Every change keeps the order, if the timers were in range before it. -/
theorem TimerChange.ordered {tlist tlist' : TimerList} {handles handles' : List Nat}
    (hc : TimerChange toInterval (fun i => 1 ≤ (toInterval i).toNat) tlist tlist' handles handles')
    (hv : tlist.Valid) (ho : tlist.Ordered toInterval) (hr : tlist.InRange toInterval) :
    tlist'.Ordered toInterval := by
  have hscheduled := hc.scheduled hv ho.scheduled
  refine ⟨hscheduled, fun hr' => ?_⟩
  cases hc with
  | same hsame => exact hsame ▸ ho.heap hr
  | failed hfailed =>
    obtain ⟨e, rest, htaken, _, hentry⟩ := hfailed.taken
    rw [hfailed.entries]
    refine (ho.heap hr).congr fun x hx => ?_
    rw [key, key, hentry x fun heq => htaken.notMem hv (heq ▸ hx)]
  | @added e new hadded _ _ =>
    refine hadded.heap _ (hr'.compares hscheduled) ((ho.heap hr).congr fun x hx => ?_)
    exact key_of_timer (hadded.timer_of_ne x fun heq => hadded.taken.notMem hv (heq ▸ hx))
  | @removed e hremoved =>
    refine (hremoved.heap _ (hr.compares ho.scheduled) (ho.heap hr)).congr fun x hx => ?_
    exact key_of_timer (hremoved.timer_of_ne x fun heq => hremoved.notMem hv (heq ▸ hx))
  | @moved e new hmoved _ _ _ =>
    exact hmoved.heap _ _ (fun x _ hxe => key_of_timer (hmoved.timer_of_ne x hxe))
      (hr.compares ho.scheduled) (hr'.compares hscheduled) (ho.heap hr)

/-! ### Every run -/

/-- The steps of a run whose timers are in range and have intervals of at least one tick. -/
def TimerEvent.Ranged (toInterval : UInt32 → UInt32) (s : TimerRun) (event : TimerEvent) : Prop :=
  event.UsesHandles s ∧ (∀ i ∈ event.interval?, 1 ≤ (toInterval i).toNat) ∧
    s.tlist.InRange toInterval

theorem timerMachine_ordered {s : TimerRun}
    (h : (timerMachine toInterval).Reach (fun s event => event.Ranged toInterval s) s) :
    s.Inv ∧ s.tlist.Ordered toInterval := by
  refine h.invariant (fun s => s.Inv ∧ s.tlist.Ordered toInterval) ?_ ?_
  · exact ⟨⟨rfl, valid_empty, .refl _, fun _ _ hno => by cases hno⟩,
      fun _ hno => absurd hno List.not_mem_nil, fun _ => Heap.isHeap_nil⟩
  · intro s s' event _ hinv hok hstep
    have hstepped := timerStep_cases (fun i => 1 ≤ (toInterval i).toNat) hinv.1 hok.1
      (fun i hi _ => hok.2.1 i hi) hstep
    refine ⟨hstepped.inv hinv.1, ?_⟩
    cases hstepped with
    | expire now hs' =>
      subst hs'
      exact hinv.2
    | change _ hchange _ => exact hchange.ordered hinv.1.valid hinv.2 hok.2.2

/-- In every run, in range or not, the timers are as they have to be in the heap, if one
    millisecond is at least one tick. -/
theorem timerMachine_scheduled (htick : ∀ i, 1 ≤ i → 1 ≤ (toInterval i).toNat) {s : TimerRun}
    (h : (timerMachine toInterval).Reach (fun s event => event.UsesHandles s) s) :
    s.Inv ∧ ∀ e ∈ s.tlist.entries, (s.tlist.entry e).Scheduled toInterval := by
  refine h.invariant
    (fun s => s.Inv ∧ ∀ e ∈ s.tlist.entries, (s.tlist.entry e).Scheduled toInterval) ?_ ?_
  · exact ⟨⟨rfl, valid_empty, .refl _, fun _ _ hno => by cases hno⟩,
      fun _ hno => absurd hno List.not_mem_nil⟩
  · intro s s' event _ hinv huses hstep
    have hstepped := timerStep_cases (fun i => 1 ≤ (toInterval i).toNat) hinv.1 huses
      (fun i _ => htick i) hstep
    refine ⟨hstepped.inv hinv.1, ?_⟩
    cases hstepped with
    | expire now hs' =>
      subst hs'
      exact hinv.2
    | change _ hchange _ => exact hchange.scheduled hinv.1.valid hinv.2

/-- The check that the program has for its heap succeeds. -/
theorem timerListDebugIsValidHeap_of_isHeap {tlist : TimerList} {key : Nat → Int}
    (hcmp : tlist.Compares tlist.entries key) (h : Heap.IsHeap key tlist.entries) :
    timerListDebugIsValidHeap tlist = true := by
  have hchild : ∀ pos child, 0 < child → Heap.parent child = pos →
      timerListDebugChild tlist pos child = true := by
    intro pos child hpos hparent
    rw [timerListDebugChild]
    split
    · next cur sub hcur hsub =>
      rw [Bool.not_eq_true', decide_eq_false_iff_not,
        hcmp.lt sub (List.mem_of_getElem? hsub) cur (List.mem_of_getElem? hcur)]
      exact Int.not_lt.mpr (h child cur sub hpos (hparent ▸ hcur) hsub)
    · rfl
  rw [timerListDebugIsValidHeap, List.all_eq_true]
  intro i _
  rw [Bool.and_eq_true]
  constructor
  · exact hchild i _ (Nat.succ_pos _) ((timerListHeapIndex_parent (Nat.succ_pos _)).mpr (.inl rfl))
  · exact hchild i _ (Nat.succ_pos _) ((timerListHeapIndex_parent (Nat.succ_pos _)).mpr (.inr rfl))

/-- The check fails if the array is not a heap. -/
theorem isHeap_of_timerListDebugIsValidHeap {tlist : TimerList} {key : Nat → Int}
    (hcmp : tlist.Compares tlist.entries key) (h : timerListDebugIsValidHeap tlist = true) :
    Heap.IsHeap key tlist.entries := by
  rw [timerListDebugIsValidHeap, List.all_eq_true] at h
  intro i a b hi ha hb
  have hparent := h (Heap.parent i)
    (List.mem_range.mpr (List.getElem?_eq_some_iff.mp ha).1)
  rw [Bool.and_eq_true] at hparent
  have hchild : timerListDebugChild tlist (Heap.parent i) i = true := by
    obtain hleft | hright := (timerListHeapIndex_parent hi).mp rfl
    · rw [← hleft] at hparent
      exact hparent.1
    · rw [← hright] at hparent
      exact hparent.2
  simp only [timerListDebugChild, ha, hb, Bool.not_eq_true', decide_eq_false_iff_not] at hchild
  rw [hcmp.lt b (List.mem_of_getElem? hb) a (List.mem_of_getElem? ha)] at hchild
  exact Int.not_lt.mp hchild

/-- **Order**: in every run whose timers have intervals of at least one tick and stay in range,
    the array is a min-heap by the true expiry, so that the first entry expires first, and the
    time to the next expiry is the true one. -/
theorem timerList_order {s : TimerRun}
    (h : (timerMachine toInterval).Reach (fun s event => event.Ranged toInterval s) s)
    (hr : s.tlist.InRange toInterval) :
    Heap.IsHeap (s.tlist.key toInterval) s.tlist.entries ∧
    timerListDebugIsValidHeap s.tlist = true ∧
    ∀ e, s.tlist.entries[0]? = some e →
      (∀ f ∈ s.tlist.entries, s.tlist.key toInterval e ≤ s.tlist.key toInterval f) ∧
      ∀ now : Nat, -2 ^ 31 ≤ s.tlist.key toInterval e - now →
        s.tlist.key toInterval e - now ≤ 2 ^ 31 - 1 →
        ((timerListTimeToExpire now s.tlist).toNat : Int) =
          max 0 (s.tlist.key toInterval e - now) := by
  obtain ⟨_, hordered⟩ := timerMachine_ordered h
  have hheap := hordered.heap hr
  refine ⟨hheap, timerListDebugIsValidHeap_of_isHeap (hr.compares hordered.scheduled) hheap, ?_⟩
  intro e he
  refine ⟨fun f hf => hheap.root_le he hf, fun now hlow hhigh => ?_⟩
  have hscheduled := hordered.scheduled e (List.mem_of_getElem? he)
  -- The time to expire is that of the root.
  have htime : timerListTimeToExpire now s.tlist =
      timerListEntryTimeToExpire (s.tlist.entry e) (UInt32.ofNat now) := by
    rw [timerListTimeToExpire]
    split
    · next hnil =>
      rw [hnil] at he
      cases he
    · next e' rest hcons =>
      rw [hcons] at he
      cases he
      rfl
  rw [key] at hlow hhigh ⊢
  rw [htime, timerListEntryTimeToExpire_eq hscheduled now (by omega) (by omega)]
  omega

instance (tlist : TimerList) : Decidable (tlist.InRange toInterval) :=
  inferInstanceAs (Decidable (∀ e ∈ tlist.entries, ∀ f ∈ tlist.entries, _ ∧ _))

instance (s : TimerRun) (event : TimerEvent) : Decidable (event.Ranged toInterval s) :=
  have : Decidable (∀ i ∈ event.interval?, 1 ≤ (toInterval i).toNat) := Option.decidableForallMem _
  inferInstanceAs (Decidable (_ ∧ (∀ i ∈ event.interval?, _) ∧ _))

/-- Timers across the wrap of the clock, one of them deleted: the first entry is the one that
    expires 3 ticks after the wrap. -/
theorem timerList_order_wrap :
    ∃ s, (timerMachine id).Reach (fun s event => event.Ranged id s) s ∧
      s.tlist.entries[0]? = some 2 ∧ timerListDebugIsValidHeap s.tlist = true ∧
      ((timerListTimeToExpire (2 ^ 32 - 1) s.tlist).toNat : Int) = 4 := by
  obtain ⟨s, hs, hroot, hr, hkey⟩ : ∃ s, (timerMachine id).execWhile
      (fun s event => decide (event.Ranged id s)) {}
      [.call (2 ^ 32 - 5) (.add {} 10 true), .call (2 ^ 32 - 4) (.add {} 2 true),
        .call (2 ^ 32 - 3) (.add {} 6 true), .call (2 ^ 32 - 2) (.delete 1)] = some s ∧
      s.tlist.entries[0]? = some 2 ∧ s.tlist.InRange id ∧ s.tlist.key id 2 = 2 ^ 32 + 3 :=
    ⟨_, rfl, by decide +kernel, by decide +kernel, by decide +kernel⟩
  have hreach := Runs.Machine.Reach.execWhile (fun _ _ => of_decide_eq_true) .init hs
  obtain ⟨_, hvalid, hfirst⟩ := timerList_order hreach hr
  have htime := (hfirst 2 hroot).2 (2 ^ 32 - 1) (by rw [hkey]; decide) (by rw [hkey]; decide)
  rw [hkey] at htime
  exact ⟨s, hreach, hroot, hvalid, htime⟩

/-! ### The maximum interval -/

/-- `PR_MillisecondsToInterval` at a tick rate per second. -/
def ticksAt (rate : Nat) (milliseconds : UInt32) : UInt32 :=
  UInt32.ofNat (milliseconds.toNat * rate / 1000)

/-- A timer with an interval that `timer_list_add` accepts, at a tick rate. -/
structure TimerListEntry.ScheduledAt (rate : Nat) (entry : TimerListEntry) : Prop where
  epoch : entry.epoch = UInt32.ofNat entry.since
  expireTime : entry.expireTime = entry.epoch + ticksAt rate entry.interval
  interval : 1 ≤ entry.interval ∧ entry.interval ≤ timerListMaxInterval

/-- At the rates there are, an interval is at least one tick and at most 1.8 * 10^9. -/
theorem ticksAt_bounds {rate : Nat} (hlow : 1000 ≤ rate) (hhigh : rate ≤ 100000)
    {interval : UInt32} (h : 1 ≤ interval ∧ interval ≤ timerListMaxInterval) :
    1 ≤ (ticksAt rate interval).toNat ∧ (ticksAt rate interval).toNat ≤ 1800000000 := by
  obtain ⟨h₁, h₂⟩ := h
  rw [UInt32.le_iff_toNat_le] at h₁ h₂
  have hmax : timerListMaxInterval.toNat = 18000000 := rfl
  have hone : (1 : UInt32).toNat = 1 := rfl
  rw [hone] at h₁
  rw [hmax] at h₂
  have hproduct : interval.toNat * rate ≤ 18000000 * 100000 := Nat.mul_le_mul h₂ hhigh
  have hproduct' : 1 * 1000 ≤ interval.toNat * rate := Nat.mul_le_mul h₁ hlow
  rw [ticksAt, UInt32.toNat_ofNat_of_lt' (by simp only [UInt32.size]; omega)]
  omega

theorem TimerListEntry.ScheduledAt.scheduled {rate : Nat} {entry : TimerListEntry}
    (h : entry.ScheduledAt rate) (hlow : 1000 ≤ rate) (hhigh : rate ≤ 100000) :
    entry.Scheduled (ticksAt rate) :=
  ⟨h.epoch, h.expireTime, (ticksAt_bounds hlow hhigh h.interval).1⟩

private theorem sign_congr {a b : Int} (hpos : a > 0 ↔ b > 0) (hneg : a < 0 ↔ b < 0) :
    Int.sign a = Int.sign b := by
  obtain ha | ha | ha := Int.lt_trichotomy a 0
  · rw [Int.sign_eq_neg_one_of_neg ha, Int.sign_eq_neg_one_of_neg (hneg.mp ha)]
  · have hb : b = 0 := by omega
    rw [ha, hb]
  · rw [Int.sign_eq_one_of_pos ha, Int.sign_eq_one_of_pos (hpos.mp ha)]

/-- **The maximum interval**: of two timers that were both not overdue when the later one was
    started, the comparison from the epoch of the second has the right sign exactly if the first
    one expires less than 2^31 ticks after that epoch. -/
theorem timerListEntryCmp_sign_iff (rate : Nat) (hlow : 1000 ≤ rate) (hhigh : rate ≤ 100000)
    (entry₁ entry₂ : TimerListEntry) (h₁ : entry₁.ScheduledAt rate) (h₂ : entry₂.ScheduledAt rate)
    (hdue₁ : max entry₁.since entry₂.since ≤ entry₁.expiry (ticksAt rate))
    (hdue₂ : max entry₁.since entry₂.since ≤ entry₂.expiry (ticksAt rate)) :
    Int.sign (timerListEntryCmp entry₁ entry₂ entry₂.epoch) =
        Int.sign (entry₁.expiry (ticksAt rate) - entry₂.expiry (ticksAt rate)) ↔
      (entry₁.since : Int) - entry₂.since + (ticksAt rate entry₁.interval).toNat < 2 ^ 31 := by
  have hb₁ := ticksAt_bounds hlow hhigh h₁.interval
  have hb₂ := ticksAt_bounds hlow hhigh h₂.interval
  have hs₁ := h₁.scheduled hlow hhigh
  have hs₂ := h₂.scheduled hlow hhigh
  have he₁ : entry₁.expiry (ticksAt rate) =
      entry₁.since + (ticksAt rate entry₁.interval).toNat := rfl
  have he₂ : entry₂.expiry (ticksAt rate) =
      entry₂.since + (ticksAt rate entry₂.interval).toNat := rfl
  constructor
  · intro hsign
    by_contra hfar
    -- The first timer is taken for an overdue one.
    have hzero := timerListEntryTimeToExpire_eq_zero hs₁ entry₂.since (by omega) (by omega)
    have hticks := timerListEntryTimeToExpire_eq hs₂ entry₂.since (by omega) (by omega)
    have hcmp : timerListEntryCmp entry₁ entry₂ entry₂.epoch < 0 := by
      rw [(timerListEntryCmp_eq entry₁ entry₂ entry₂.epoch).2, hs₂.epoch, hzero, hticks]
      omega
    rw [Int.sign_eq_neg_one_of_neg hcmp, Int.sign_eq_one_of_pos (by omega)] at hsign
    exact absurd hsign (by decide)
  · intro hfit
    have hspec := timerListEntryCmp_spec hs₁ hs₂ (by omega) (by omega) (by omega)
    refine sign_congr ?_ ?_
    · rw [hspec.1]
      omega
    · rw [hspec.2]
      omega

/-- Two timers at 1000 ticks a second. -/
theorem timerListEntryCmp_sign_short :
    Int.sign (timerListEntryCmp
        { epoch := 500, interval := 2000, expireTime := 2500, since := 500 }
        { epoch := 0, interval := 1000, expireTime := 1000 } 0) =
      Int.sign (2500 - 1000) :=
  (timerListEntryCmp_sign_iff 1000 (by decide) (by decide)
    { epoch := 500, interval := 2000, expireTime := 2500, since := 500 }
    { epoch := 0, interval := 1000, expireTime := 1000 } ⟨rfl, rfl, by decide⟩
    ⟨rfl, rfl, by decide⟩ (by decide) (by decide)).mpr (by decide)

/-- Two timers of five hours at 100000 ticks a second, of which the first one is started
    10000 seconds after the second: it is taken for the one that expires first. -/
theorem timerListEntryCmp_sign_wrong :
    ¬ ∀ (rate : Nat), 1000 ≤ rate → rate ≤ 100000 → ∀ entry₁ entry₂ : TimerListEntry,
      entry₁.ScheduledAt rate → entry₂.ScheduledAt rate →
      max entry₁.since entry₂.since ≤ entry₁.expiry (ticksAt rate) →
      max entry₁.since entry₂.since ≤ entry₂.expiry (ticksAt rate) →
      Int.sign (timerListEntryCmp entry₁ entry₂ entry₂.epoch) =
        Int.sign (entry₁.expiry (ticksAt rate) - entry₂.expiry (ticksAt rate)) := by
  intro hall
  have hwrong := hall 100000 (by decide) (by decide)
    { epoch := 1000000000, interval := 18000000, expireTime := 2800000000, since := 1000000000 }
    { epoch := 0, interval := 18000000, expireTime := 1800000000 }
    ⟨rfl, rfl, by decide⟩ ⟨rfl, rfl, by decide⟩ (by decide) (by decide)
  exact absurd hwrong (by decide)

/-- The limit is enough up to 59652 ticks a second: whatever was started in the interval of
    another timer expires less than 2^31 ticks after the start of that one. -/
theorem timerListMaxInterval_fits {rate : Nat} (hhigh : rate ≤ 59652)
    {entry₁ entry₂ : TimerListEntry} (h₁ : entry₁.ScheduledAt rate) (h₂ : entry₂.ScheduledAt rate)
    (hdue₂ : entry₁.since ≤ entry₂.expiry (ticksAt rate)) :
    (entry₁.since : Int) - entry₂.since + (ticksAt rate entry₁.interval).toNat < 2 ^ 31 := by
  have hticks : ∀ entry : TimerListEntry, entry.ScheduledAt rate →
      (ticksAt rate entry.interval).toNat ≤ 1073736000 := by
    intro entry h
    have hmax := UInt32.le_iff_toNat_le.mp h.interval.2
    rw [show timerListMaxInterval.toNat = 18000000 from rfl] at hmax
    have hproduct : entry.interval.toNat * rate ≤ 18000000 * 59652 := Nat.mul_le_mul hmax hhigh
    rw [ticksAt, UInt32.toNat_ofNat_of_lt' (by simp only [UInt32.size]; omega)]
    omega
  have ht₁ := hticks entry₁ h₁
  have ht₂ := hticks entry₂ h₂
  rw [TimerListEntry.expiry] at hdue₂
  omega

end Qdevice
