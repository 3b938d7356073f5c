import Qdevice.Spec.TimerListOps
import Qdevice.ForStd.Runs

/-! # Runs of the timer list

The calls of a program that uses the timer list, with `timer_list_expire` taken apart at the
callbacks it calls, since these call the list too.  In every run, whatever the clock reads
and whichever allocations fail, the list keeps its representation, and `timer_list_expire`
still finds the entry whose callback has returned: in the heap, or in the free list with
`is_active` cleared. -/

namespace Qdevice

open TimerList

/-- A call of one of the four functions that a callback may call. -/
inductive TimerOp where
  | add (alloc : TimerAlloc) (interval : UInt32) (func : Bool)
  | delete (e : Nat)
  | reschedule (realloc : Bool) (e : Nat)
  | setInterval (realloc : Bool) (interval : UInt32) (e : Nat)

/-- The entry a call is applied to. -/
def TimerOp.entry? : TimerOp → Option Nat
  | .add .. => none
  | .delete e | .reschedule _ e | .setInterval _ _ e => some e

/-- A call, a call of `timer_list_expire`, and the return of the callback it has called last. -/
inductive TimerEvent where
  | call (now : Nat) (op : TimerOp)
  | expire (now : Nat)
  | returned (realloc again : Bool)

/-- The list, the entries that `timer_list_add` has returned and that were not deleted or expired
    since, the callback that is running with the clock of its `timer_list_expire`, and whether an
    `assert` has failed or a loop did not end. -/
structure TimerRun where
  tlist : TimerList := {}
  handles : List Nat := []
  callback : Option (Nat × Nat) := none
  aborted : Bool := false

section

variable (toInterval : UInt32 → UInt32)

/-- Do a call. -/
def TimerOp.apply (now : Nat) (tlist : TimerList) (handles : List Nat) :
    TimerOp → Option (TimerList × List Nat)
  | .add alloc interval func => do
    let (tlist, added) ← timerListAdd toInterval alloc now interval func tlist
    some (tlist, added.toList ++ handles)
  | .delete e => do
    let tlist ← timerListEntryDelete tlist e
    some (tlist, handles.erase e)
  | .reschedule realloc e => do
    let tlist ← timerListEntryReschedule toInterval realloc now tlist e
    some (tlist, handles)
  | .setInterval realloc interval e => do
    let (tlist, _) ← timerListEntrySetInterval toInterval realloc now interval tlist e
    some (tlist, handles)

/-- What is left to do for `timer_list_expire`: the next callback. -/
def timerCallback (now : Nat) (tlist : TimerList) : Option (Nat × Nat) :=
  (timerListExpired now tlist).map fun e => (e, now)

/-- One event.  A callback does not call `timer_list_expire`. -/
def timerStep (s : TimerRun) (event : TimerEvent) : Option TimerRun :=
  if s.aborted then none
  else
    match event, s.callback with
    | .call now op, callback =>
      match op.apply toInterval now s.tlist s.handles with
      | none => some { s with aborted := true }
      | some (tlist, handles) => some ⟨tlist, handles, callback, false⟩
    | .expire now, none => some { s with callback := timerCallback now s.tlist }
    | .expire _, some _ => none
    | .returned _ _, none => none
    | .returned realloc again, some (e, now) =>
      match timerListExpireReturned toInterval realloc now again s.tlist e with
      | none => some { s with aborted := true }
      | some tlist =>
        some ⟨tlist, if again then s.handles else s.handles.erase e, timerCallback now tlist, false⟩

/-- The timer list, empty at first. -/
def timerMachine : Runs.Machine TimerRun TimerEvent where
  init := {}
  step := timerStep toInterval

end

/-- A call is applied to an entry that was returned by `timer_list_add` and not deleted or expired
    since. -/
def TimerEvent.UsesHandles (s : TimerRun) : TimerEvent → Prop
  | .call _ op => ∀ e ∈ op.entry?, e ∈ s.handles
  | .expire _ | .returned _ _ => True

/-- An entry in the free list, inactive, and with room in the array for it and all that are in
    front of it.  An entry that `timer_list_add` takes and cannot insert stays active in the free
    list; that one is never of this kind. -/
def TimerList.Spare (tlist : TimerList) (e : Nat) : Prop :=
  (tlist.entry e).isActive = false ∧
    ∃ k, tlist.freeList[k]? = some e ∧ k + tlist.entries.length < tlist.allocated

/-- The content of an entry that is put into the heap. -/
structure TimerListEntry.Fresh (new : TimerListEntry) : Prop where
  active : new.isActive = true
  epoch : new.epoch = UInt32.ofNat new.since

/-- What a call has done to the list and to the handles.  The intervals it was given are `ok`. -/
inductive TimerChange (toInterval : UInt32 → UInt32) (ok : UInt32 → Prop)
    (tlist tlist' : TimerList) : List Nat → List Nat → Prop where
  | same {handles : List Nat} (h : tlist' = tlist) :
      TimerChange toInterval ok tlist tlist' handles handles
  | failed {handles : List Nat} (h : AddFailed tlist tlist') :
      TimerChange toInterval ok tlist tlist' handles handles
  | added {handles : List Nat} {e : Nat} {new : TimerListEntry}
      (h : Added toInterval new tlist tlist' e) (fresh : new.Fresh) (interval : ok new.interval) :
      TimerChange toInterval ok tlist tlist' handles (e :: handles)
  | removed {handles : List Nat} {e : Nat} (h : Removed tlist tlist' e) :
      TimerChange toInterval ok tlist tlist' handles (handles.erase e)
  | moved {handles : List Nat} {e : Nat} {new : TimerListEntry}
      (h : Moved toInterval new tlist tlist' e) (mem : e ∈ tlist.entries) (fresh : new.Fresh)
      (interval : ok new.interval ∨ new.interval = (tlist.entry e).interval) :
      TimerChange toInterval ok tlist tlist' handles handles

/-- Every timer that is there afterwards was there before, or was started at this time. -/
def TimerList.Started (tlist : TimerList) (now : Nat) (tlist' : TimerList) : Prop :=
  ∀ x ∈ tlist'.entries,
    (x ∈ tlist.entries ∧ (tlist'.entry x).timer = (tlist.entry x).timer) ∨
      (tlist'.entry x).since = now

namespace TimerList

variable {toInterval : UInt32 → UInt32} {tlist tlist' : TimerList} {now e : Nat}
  {new : TimerListEntry}

theorem Started.same (h : tlist' = tlist) : tlist.Started now tlist' := by
  subst h
  exact fun x hx => .inl ⟨hx, rfl⟩

private theorem since_of_stamp {entry : TimerListEntry} (hnew : new.since = now)
    (h : entry.timer = (new.stamp toInterval).timer) : entry.since = now := by
  have hsince := congrArg TimerListEntry.since h
  exact hsince.trans hnew

theorem Added.started (h : Added toInterval new tlist tlist' e) (hnew : new.since = now) :
    tlist.Started now tlist' := by
  intro x hx
  by_cases hxe : x = e
  · subst hxe
    exact .inr (since_of_stamp hnew h.timer_self)
  · exact .inl ⟨List.mem_of_ne_of_mem hxe (h.inserted.2.mem_iff.mp hx), h.timer_of_ne x hxe⟩

theorem Moved.started (h : Moved toInterval new tlist tlist' e) (hnew : new.since = now) :
    tlist.Started now tlist' := by
  intro x hx
  by_cases hxe : x = e
  · subst hxe
    exact .inr (since_of_stamp hnew h.timer_self)
  · exact .inl ⟨h.perm.mem_iff.mp hx, h.timer_of_ne x hxe⟩

theorem Removed.notMem (h : Removed tlist tlist' e) (hv : tlist.Valid) : e ∉ tlist'.entries :=
  (List.nodup_cons.mp (h.perm.nodup_iff.mpr hv.placed.nodup)).1

theorem Removed.started (h : Removed tlist tlist' e) (hv : tlist.Valid) :
    tlist.Started now tlist' := by
  intro x hx
  have hxe : x ≠ e := fun heq => h.notMem hv (heq ▸ hx)
  exact .inl ⟨h.perm.mem_iff.mp (List.mem_cons_of_mem e hx), h.timer_of_ne x hxe⟩

theorem AddFailed.started (h : AddFailed tlist tlist') (hv : tlist.Valid) :
    tlist.Started now tlist' := by
  obtain ⟨e, rest, htaken, _, hentry⟩ := h.taken
  intro x hx
  rw [h.entries] at hx
  have hxe : x ≠ e := fun heq => htaken.notMem hv (heq ▸ hx)
  exact .inl ⟨hx, by rw [hentry x hxe]⟩

end TimerList

/-- The interval a call gives a timer. -/
def TimerOp.interval? : TimerOp → Option UInt32
  | .add _ interval _ | .setInterval _ interval _ => some interval
  | .delete _ | .reschedule _ _ => none

section

variable {toInterval : UInt32 → UInt32} {ok : UInt32 → Prop} {tlist tlist' : TimerList}
  {handles handles' : List Nat}

variable (toInterval handles) in
/-- Every call is one of the changes, and the timers that it starts are started now. -/
theorem TimerOp.apply_spec (op : TimerOp) (now : Nat) (h : tlist.Valid)
    (hentry : ∀ e ∈ op.entry?, e ∈ tlist.entries) (hok : ∀ i ∈ op.interval?, 1 ≤ i → ok i) :
    ∃ tlist' handles', op.apply toInterval now tlist handles = some (tlist', handles') ∧
      TimerChange toInterval ok tlist tlist' handles handles' ∧ tlist.Started now tlist' := by
  cases op with
  | add alloc interval func =>
    by_cases hlow : interval < 1
    · have hrefused : timerListAdd toInterval alloc now interval func tlist = some (tlist, none) := by
        rw [timerListAdd, if_pos (.inl hlow)]
      exact ⟨tlist, handles, by simp only [TimerOp.apply, hrefused]; rfl, .same rfl,
        Started.same rfl⟩
    obtain ⟨tlist', added, hadd, hspec⟩ :=
      timerListAdd_spec toInterval alloc now interval func h
    refine ⟨tlist', added.toList ++ handles, by simp only [TimerOp.apply, hadd]; rfl, ?_⟩
    obtain ⟨rfl, hsame | hfailed⟩ | ⟨e, rfl, hadded⟩ := hspec
    · exact ⟨.same hsame, Started.same hsame⟩
    · exact ⟨.failed hfailed, hfailed.started h⟩
    · exact ⟨.added hadded ⟨rfl, rfl⟩ (hok interval rfl (UInt32.not_lt.mp hlow)),
        hadded.started rfl⟩
  | delete e =>
    obtain ⟨tlist', hdelete, hremoved⟩ := timerListEntryDelete_spec h (hentry e rfl)
    exact ⟨tlist', handles.erase e, by simp only [TimerOp.apply, hdelete]; rfl, .removed hremoved,
      hremoved.started h⟩
  | reschedule realloc e =>
    have he := hentry e rfl
    obtain ⟨tlist', hmove, hmoved⟩ := timerListEntryReschedule_spec toInterval realloc now h he
    exact ⟨tlist', handles, by simp only [TimerOp.apply, hmove]; rfl,
      .moved hmoved he ⟨h.active e he, rfl⟩ (.inr rfl), hmoved.started rfl⟩
  | setInterval realloc interval e =>
    have he := hentry e rfl
    by_cases hlow : interval < 1
    · have hrefused : timerListEntrySetInterval toInterval realloc now interval tlist e =
          some (tlist, false) := by
        rw [timerListEntrySetInterval, if_pos (.inl hlow)]
      exact ⟨tlist, handles, by simp only [TimerOp.apply, hrefused]; rfl, .same rfl,
        Started.same rfl⟩
    obtain hrefused | ⟨tlist', hmove, hmoved⟩ :=
      timerListEntrySetInterval_spec toInterval realloc now interval h he
    · exact ⟨tlist, handles, by simp only [TimerOp.apply, hrefused]; rfl, .same rfl,
        Started.same rfl⟩
    · exact ⟨tlist', handles, by simp only [TimerOp.apply, hmove]; rfl,
        .moved hmoved he ⟨h.active e he, rfl⟩ (.inl (hok interval rfl (UInt32.not_lt.mp hlow))),
        hmoved.started rfl⟩

variable (toInterval ok) in
/-- What `timer_list_expire` does after a callback is one of the changes, also if the callback has
    deleted its own timer. -/
theorem timerListExpireReturned_spec (realloc again : Bool) (now : Nat) (h : tlist.Valid)
    (hperm : handles.Perm tlist.entries) {e : Nat} (he : e ∈ tlist.entries ∨ tlist.Spare e) :
    ∃ tlist', timerListExpireReturned toInterval realloc now again tlist e = some tlist' ∧
      TimerChange toInterval ok tlist tlist' handles
        (if again then handles else handles.erase e) ∧ tlist.Started now tlist' ∧
      (e ∈ tlist'.entries → again = true ∧ (tlist'.entry e).since = now) := by
  obtain he | ⟨hinactive, k, hfree, _⟩ := he
  · cases again with
    | false =>
      obtain ⟨tlist', hdelete, hremoved⟩ := timerListEntryDelete_spec h he
      exact ⟨tlist', hdelete, .removed hremoved, hremoved.started h,
        fun hmem => absurd hmem (hremoved.notMem h)⟩
    | true =>
      obtain ⟨tlist', hmove, hmoved⟩ := timerListEntryReschedule_spec toInterval realloc now h he
      exact ⟨tlist', hmove, .moved hmoved he ⟨h.active e he, rfl⟩ (.inr rfl), hmoved.started rfl,
        fun _ => ⟨rfl, congrArg TimerListEntry.since hmoved.timer_self⟩⟩
  · have hnotMem : e ∉ handles := fun hmem =>
      h.disjoint (hperm.mem_iff.mp hmem) (List.mem_of_getElem? hfree)
    have hno : ¬ (tlist.entry e).isActive = true := by
      rw [hinactive]
      exact Bool.false_ne_true
    have hgone : e ∉ tlist.entries := fun hmem => h.disjoint hmem (List.mem_of_getElem? hfree)
    cases again with
    | false =>
      refine ⟨tlist, if_neg hno, ?_, Started.same rfl, fun hmem => absurd hmem hgone⟩
      rw [if_neg Bool.false_ne_true, List.erase_of_not_mem hnotMem]
      exact .same rfl
    | true =>
      exact ⟨tlist, if_neg hno, .same rfl, Started.same rfl, fun hmem => absurd hmem hgone⟩

/-! ### What a change keeps -/

theorem TimerChange.valid (hc : TimerChange toInterval ok tlist tlist' handles handles')
    (h : tlist.Valid) : tlist'.Valid := by
  cases hc with
  | same hsame => exact hsame ▸ h
  | failed hfailed => exact hfailed.valid h
  | added hadded fresh _ => exact hadded.valid fresh.active h
  | removed hremoved => exact hremoved.valid h
  | moved hmoved _ fresh _ => exact hmoved.valid fresh.active h

theorem TimerChange.handles_perm (hc : TimerChange toInterval ok tlist tlist' handles handles')
    (h : handles.Perm tlist.entries) : handles'.Perm tlist'.entries := by
  cases hc with
  | same hsame => exact hsame ▸ h
  | failed hfailed => exact hfailed.entries ▸ h
  | added hadded _ _ => exact (h.cons _).trans hadded.inserted.2.symm
  | @removed e hremoved =>
    have herase := (h.trans hremoved.perm.symm).erase e
    rwa [List.erase_cons_head] at herase
  | moved hmoved _ _ _ => exact h.trans hmoved.perm.symm

/-- The entry of a callback stays where `timer_list_expire` can deal with it. -/
theorem TimerChange.spare (hc : TimerChange toInterval ok tlist tlist' handles handles')
    (h : tlist.Valid) {x : Nat} (hx : x ∈ tlist.entries ∨ tlist.Spare x) :
    x ∈ tlist'.entries ∨ tlist'.Spare x := by
  cases hc with
  | same hsame => exact hsame ▸ hx
  | failed hfailed =>
    obtain hx | ⟨_, k, _, hk⟩ := hx
    · exact .inl (hfailed.entries ▸ hx)
    · have hfull := hfailed.full
      omega
  | @moved e _ hmoved he _ _ =>
    obtain hx | ⟨hinactive, k, hfree, hk⟩ := hx
    · exact .inl (hmoved.perm.mem_iff.mpr hx)
    · have hxe : x ≠ e := by
        rintro rfl
        exact h.disjoint he (List.mem_of_getElem? hfree)
      refine .inr ⟨?_, k, by rw [hmoved.freeList]; exact hfree, ?_⟩
      · rw [TimerListEntry.isActive_of_timer (hmoved.timer_of_ne x hxe)]
        exact hinactive
      · rw [hmoved.allocated, hmoved.perm.length_eq]
        exact hk
  | @added e _ hadded _ _ =>
    obtain hx | ⟨hinactive, k, hfree, hk⟩ := hx
    · exact .inl (hadded.inserted.2.mem_iff.mpr (List.mem_cons_of_mem e hx))
    · by_cases hxe : x = e
      · exact .inl (hadded.inserted.2.mem_iff.mpr (hxe ▸ List.mem_cons_self))
      · obtain ⟨hold, _⟩ | ⟨hnil, _⟩ := hadded.taken
        · -- One less is in front of `x`, and one slot more is used.
          rw [hold] at hfree
          cases k with
          | zero => exact absurd (Option.some.inj hfree).symm hxe
          | succ k =>
            refine .inr ⟨?_, k, hfree, ?_⟩
            · rw [TimerListEntry.isActive_of_timer (hadded.timer_of_ne x hxe)]
              exact hinactive
            · rw [hadded.allocated (by omega), hadded.inserted.2.length_eq, List.length_cons]
              omega
        · rw [hnil] at hfree
          cases hfree
  | @removed e hremoved =>
    have hlength := hremoved.perm.length_eq
    have hroom := h.room
    rw [List.length_cons] at hlength
    by_cases hxe : x = e
    · subst hxe
      refine .inr ⟨hremoved.inactive, 0, by rw [hremoved.freeList]; rfl, ?_⟩
      rw [hremoved.allocated]
      omega
    · obtain hx | ⟨hinactive, k, hfree, hk⟩ := hx
      · exact .inl (List.mem_of_ne_of_mem hxe (hremoved.perm.mem_iff.mpr hx))
      · refine .inr ⟨?_, k + 1, by rw [hremoved.freeList]; exact hfree, ?_⟩
        · rw [TimerListEntry.isActive_of_timer (hremoved.timer_of_ne x hxe)]
          exact hinactive
        · rw [hremoved.allocated]
          omega

end

/-! ### Every run -/

/-- What holds in every state of a run. -/
structure TimerRun.Inv (s : TimerRun) : Prop where
  running : s.aborted = false
  valid : s.tlist.Valid
  handles : s.handles.Perm s.tlist.entries
  callback : ∀ e now, s.callback = some (e, now) → e ∈ s.tlist.entries ∨ s.tlist.Spare e

/-- The entry whose callback is called next is in the heap. -/
theorem mem_of_timerListExpired {now e : Nat} {tlist : TimerList}
    (h : timerListExpired now tlist = some e) : e ∈ tlist.entries := by
  rw [timerListExpired] at h
  split at h
  · cases h
  · next e' rest hentries =>
    split at h
    · cases h
      rw [hentries]
      exact List.mem_cons_self
    · cases h

theorem mem_of_timerCallback {now now' e : Nat} {tlist : TimerList}
    (h : timerCallback now tlist = some (e, now')) : e ∈ tlist.entries := by
  obtain ⟨e', hexpired, heq⟩ := Option.map_eq_some_iff.mp h
  cases heq
  exact mem_of_timerListExpired hexpired

/-- What one event does in a state that meets the invariant: a call of `timer_list_expire` does
    not touch the list, and everything else is one of the changes. -/
inductive TimerStepped (toInterval : UInt32 → UInt32) (ok : UInt32 → Prop) (s s' : TimerRun) :
    Prop where
  | expire (now : Nat) (h : s' = { s with callback := timerCallback now s.tlist })
  | change (running : s'.aborted = false)
      (h : TimerChange toInterval ok s.tlist s'.tlist s.handles s'.handles)
      (callback : s'.callback = s.callback ∨ ∃ now, s'.callback = timerCallback now s'.tlist)

/-- The intervals that an event gives to timers. -/
def TimerEvent.interval? : TimerEvent → Option UInt32
  | .call _ op => op.interval?
  | .expire _ | .returned _ _ => none

theorem timerStep_cases {toInterval : UInt32 → UInt32} (ok : UInt32 → Prop) {s s' : TimerRun}
    {event : TimerEvent} (h : s.Inv) (huses : event.UsesHandles s)
    (hok : ∀ i ∈ event.interval?, 1 ≤ i → ok i)
    (hstep : timerStep toInterval s event = some s') :
    TimerStepped toInterval ok s s' := by
  unfold timerStep at hstep
  rw [if_neg (by rw [h.running]; exact Bool.false_ne_true)] at hstep
  cases event with
  | call now op =>
    obtain ⟨tlist', handles', happly, hchange, -⟩ := op.apply_spec toInterval s.handles now
      h.valid (fun e he => h.handles.mem_iff.mp (huses e he)) hok
    simp only [happly, Option.some.injEq] at hstep
    subst hstep
    exact .change rfl hchange (.inl rfl)
  | expire now =>
    cases hcallback : s.callback with
    | some callback =>
      rw [hcallback] at hstep
      cases hstep
    | none =>
      rw [hcallback] at hstep
      exact .expire now (Option.some.inj hstep).symm
  | returned realloc again =>
    cases hcallback : s.callback with
    | none =>
      rw [hcallback] at hstep
      cases hstep
    | some callback =>
      obtain ⟨e, now⟩ := callback
      obtain ⟨tlist', hreturned, hchange, -⟩ := timerListExpireReturned_spec toInterval ok
        realloc again now h.valid h.handles (h.callback e now hcallback)
      simp only [hcallback, hreturned, Option.some.injEq] at hstep
      subst hstep
      exact .change rfl hchange (.inr ⟨now, rfl⟩)

theorem TimerStepped.inv {toInterval : UInt32 → UInt32} {ok : UInt32 → Prop} {s s' : TimerRun}
    (hs : TimerStepped toInterval ok s s') (h : s.Inv) : s'.Inv := by
  cases hs with
  | expire now hs' =>
    subst hs'
    exact ⟨h.running, h.valid, h.handles, fun e _ he => .inl (mem_of_timerCallback he)⟩
  | change hrunning hchange hcallback =>
    refine ⟨hrunning, hchange.valid h.valid, hchange.handles_perm h.handles, fun e now he => ?_⟩
    obtain hsame | ⟨now', hnext⟩ := hcallback
    · exact hchange.spare h.valid (h.callback e now (hsame ▸ he))
    · exact .inl (mem_of_timerCallback (hnext ▸ he))

theorem timerMachine_inv {toInterval : UInt32 → UInt32} {s : TimerRun}
    (h : (timerMachine toInterval).Reach (fun s event => event.UsesHandles s) s) : s.Inv := by
  refine h.invariant TimerRun.Inv ?_ fun _ hinv huses hstep =>
    (timerStep_cases (fun _ => True) hinv huses (fun _ _ _ => trivial) hstep).inv hinv
  exact ⟨rfl, valid_empty, .refl _, fun _ _ hno => by cases hno⟩

/-- **Representation**: in every run the heap holds pairwise distinct entries, each active and
    with the number of its slot, the heap and the free list share out all entries ever allocated,
    no `assert` fails and no sift loop runs on.  The timers of the program are exactly those in
    the heap, and to reschedule one or change its interval never needs more room. -/
theorem timerList_representation {toInterval : UInt32 → UInt32} {s : TimerRun}
    (h : (timerMachine toInterval).Reach (fun s event => event.UsesHandles s) s) :
    s.aborted = false ∧
    s.tlist.entries.Nodup ∧
    (∀ i e, s.tlist.entries[i]? = some e →
      (s.tlist.entry e).isActive = true ∧ (s.tlist.entry e).heapPos = i) ∧
    s.tlist.size ≤ s.tlist.allocated ∧
    s.tlist.entries.Disjoint s.tlist.freeList ∧
    (s.tlist.entries ++ s.tlist.freeList).Perm (List.range s.tlist.entryCount) ∧
    s.handles.Perm s.tlist.entries ∧
    (∀ e ∈ s.tlist.entries, ∀ (realloc : Bool) (now : Nat),
      ∃ tlist', timerListEntryReschedule toInterval realloc now s.tlist e = some tlist' ∧
        tlist'.allocated = s.tlist.allocated ∧ tlist'.entries.Perm s.tlist.entries) ∧
    (∀ e ∈ s.tlist.entries, ∀ (realloc : Bool) (now : Nat) (interval : UInt32),
      ∃ tlist' done, timerListEntrySetInterval toInterval realloc now interval s.tlist e =
          some (tlist', done) ∧
        tlist'.allocated = s.tlist.allocated ∧ tlist'.entries.Perm s.tlist.entries) := by
  have hinv := timerMachine_inv h
  have hvalid := hinv.valid
  refine ⟨hinv.running, hvalid.placed.nodup, fun i e he =>
      ⟨hvalid.active e (List.mem_of_getElem? he), hvalid.placed i e he⟩, hvalid.room,
    hvalid.disjoint, hvalid.owned, hinv.handles, fun e he realloc now => ?_,
    fun e he realloc now interval => ?_⟩
  · obtain ⟨tlist', hmove, hmoved⟩ :=
      timerListEntryReschedule_spec toInterval realloc now hvalid he
    exact ⟨tlist', hmove, hmoved.allocated, hmoved.perm⟩
  · obtain hrefused | ⟨tlist', hmove, hmoved⟩ :=
      timerListEntrySetInterval_spec toInterval realloc now interval hvalid he
    · exact ⟨s.tlist, false, hrefused, rfl, .refl _⟩
    · exact ⟨tlist', true, hmove, hmoved.allocated, hmoved.perm⟩

instance (s : TimerRun) (event : TimerEvent) : Decidable (event.UsesHandles s) :=
  match event with
  | .call _ op =>
    match h : op.entry? with
    | none => isTrue (by rw [TimerEvent.UsesHandles, h]; exact fun _ hno => by cases hno)
    | some e => decidable_of_iff (e ∈ s.handles) (by rw [TimerEvent.UsesHandles, h]; simp)
  | .expire _ | .returned _ _ => isTrue trivial

/-- Three timers with a failed allocation in between; the callback of the first one deletes its
    own timer and adds another one, in the same entry. -/
theorem timerList_representation_callback :
    ∃ s, (timerMachine id).Reach (fun s event => event.UsesHandles s) s ∧
      s.tlist.entries = [2, 1] ∧ s.tlist.freeList = [0] ∧ s.aborted = false ∧
      s.handles.Perm s.tlist.entries := by
  obtain ⟨s, hs, hentries, hfree⟩ : ∃ s, (timerMachine id).execWhile
      (fun s event => decide (event.UsesHandles s)) {}
      [.call 0 (.add {} 10 true), .call 1 (.add {} 20 true),
        .call 2 (.add { realloc := false } 5 true), .call 3 (.add {} 30 true), .expire 12,
        .call 12 (.delete 0), .call 13 (.add {} 7 true), .returned true false,
        .call 14 (.setInterval false 2 2)] = some s ∧
      s.tlist.entries = [2, 1] ∧ s.tlist.freeList = [0] :=
    ⟨_, rfl, by decide +kernel, by decide +kernel⟩
  have hreach := Runs.Machine.Reach.execWhile (fun _ _ => of_decide_eq_true) .init hs
  have hall := timerList_representation hreach
  exact ⟨s, hreach, hentries, hfree, hall.1, hall.2.2.2.2.2.2.1⟩

end Qdevice
