import Qdevice.Spec.TimerListOrder

/-! # Expiry of timers

One call of `timer_list_expire`, whose callbacks may do with the list what they want.  The timers
that are due are those that expire not later than the time that was read at the start.  A timer
that is started during the call is not due, since the clock does not go back and an interval is at
least one tick; so every callback that is called takes one timer away from those that were due,
and there are only so many calls. -/

namespace Qdevice

open TimerList

section

variable (toInterval : UInt32 → UInt32)

/-- The timers that expire not later than `now`. -/
def TimerList.due (now : Nat) (tlist : TimerList) : List Nat :=
  tlist.entries.filter fun e => (tlist.entry e).expiry toInterval ≤ now

/-- The range for one call of `timer_list_expire`: each expiry is near every epoch and near the
    time that was read at the start. -/
structure TimerList.InRangeAt (now : Nat) (tlist : TimerList) : Prop where
  epochs : tlist.InRange toInterval
  now : ∀ e ∈ tlist.entries,
    -2 ^ 31 ≤ ((tlist.entry e).expiry toInterval : Int) - now ∧
      ((tlist.entry e).expiry toInterval : Int) - now ≤ 2 ^ 31 - 1

/-- A call of `timer_list_expire` that has read the time `now`: the list with the callback that is
    running, the clock when it was read last, and the callbacks that have returned, with whether
    they returned something other than 0. -/
structure ExpireRun where
  now : Nat
  run : TimerRun
  clock : Nat
  results : List (Nat × Bool) := []

/-- The callbacks that have been called, in their order. -/
def ExpireRun.called (s : ExpireRun) : List Nat :=
  s.results.map Prod.fst ++ (s.run.callback.map Prod.fst).toList

/-- The beginning of `timer_list_expire`. -/
def expireStart (run : TimerRun) (now : Nat) : ExpireRun :=
  { now, run := { run with callback := timerCallback now run.tlist }, clock := now }

/-- What a callback does, and its return.  The clock does not go back. -/
def expireStep (s : ExpireRun) (event : TimerEvent) : Option ExpireRun :=
  match s.run.callback with
  | none => none
  | some (e, _) =>
    match event with
    | .expire _ => none
    | .call now op =>
      if s.clock ≤ now then
        (timerStep toInterval s.run (.call now op)).map fun run => { s with run, clock := now }
      else none
    | .returned realloc again =>
      (timerStep toInterval s.run (.returned realloc again)).map fun run =>
        { s with run, results := s.results ++ [(e, again)] }

/-- The steps of one call of `timer_list_expire`. -/
def expireMachine (run : TimerRun) (now : Nat) : Runs.Machine ExpireRun TimerEvent where
  init := expireStart run now
  step := expireStep toInterval

/-- A callback uses timers that are live, and the list stays in range. -/
def ExpireRun.Ok (s : ExpireRun) (event : TimerEvent) : Prop :=
  event.UsesHandles s.run ∧
    ∀ s' ∈ expireStep toInterval s event, s'.run.tlist.InRangeAt toInterval s.now

end

variable {toInterval : UInt32 → UInt32} {now : Nat} {tlist tlist' : TimerList}

/-! ### Due timers -/

theorem mem_due {e : Nat} :
    e ∈ tlist.due toInterval now ↔
      e ∈ tlist.entries ∧ (tlist.entry e).expiry toInterval ≤ now := by
  rw [due, List.mem_filter, decide_eq_true_iff]

/-- A timer that was started later is not due. -/
theorem notMem_due_of_since {e t : Nat} (hs : (tlist.entry e).Scheduled toInterval)
    (hsince : (tlist.entry e).since = t) (hle : now ≤ t) : e ∉ tlist.due toInterval now := by
  intro hdue
  have hexpiry := (mem_due.mp hdue).2
  have htick := hs.tick
  rw [TimerListEntry.expiry, hsince] at hexpiry
  omega

/-- What is due after a call was due before it. -/
theorem TimerList.Started.due {t e : Nat} (h : tlist.Started t tlist') (hle : now ≤ t)
    (hs : ∀ e ∈ tlist'.entries, (tlist'.entry e).Scheduled toInterval)
    (hdue : e ∈ tlist'.due toInterval now) :
    e ∈ tlist.due toInterval now ∧ (tlist'.entry e).timer = (tlist.entry e).timer := by
  obtain ⟨hmem, hexpiry⟩ := mem_due.mp hdue
  obtain ⟨hold, htimer⟩ | hsince := h e hmem
  · rw [TimerListEntry.expiry_of_timer htimer] at hexpiry
    exact ⟨mem_due.mpr ⟨hold, hexpiry⟩, htimer⟩
  · exact absurd hdue (notMem_due_of_since (hs e hmem) hsince hle)

/-- In range, the entry whose callback is called next is due, and it expires first. -/
theorem timerListExpired_due {e : Nat} (ho : tlist.Ordered toInterval)
    (hr : tlist.InRangeAt toInterval now) (h : timerListExpired now tlist = some e) :
    e ∈ tlist.due toInterval now ∧
      ∀ f ∈ tlist.entries,
        (tlist.entry e).expiry toInterval ≤ (tlist.entry f).expiry toInterval := by
  have hmem := mem_of_timerListExpired h
  have hrange := hr.now e hmem
  rw [timerListExpired] at h
  split at h
  · cases h
  · next e' rest hentries =>
    split at h
    · next hzero =>
      cases h
      have htime := timerListEntryTimeToExpire_eq (ho.scheduled e hmem) now (by omega) (by omega)
      rw [hzero] at htime
      refine ⟨mem_due.mpr ⟨hmem, ?_⟩, fun f hf => ?_⟩
      · have hnone : (0 : UInt32).toNat = 0 := rfl
        omega
      · have hroot : tlist.entries[0]? = some e := by rw [hentries]; rfl
        have hle := (ho.heap hr.epochs).root_le hroot hf
        exact Int.ofNat_le.mp hle
    · cases h

/-- When no callback is called any more, nothing is due. -/
theorem due_of_timerListExpired_none (ho : tlist.Ordered toInterval)
    (hr : tlist.InRangeAt toInterval now) (h : timerListExpired now tlist = none) :
    tlist.due toInterval now = [] := by
  rw [timerListExpired] at h
  split at h
  · next hnil => rw [due, hnil, List.filter_nil]
  · next e rest hentries =>
    split at h
    · cases h
    · next hlater =>
      have hroot : tlist.entries[0]? = some e := by rw [hentries]; rfl
      have hmem := List.mem_of_getElem? hroot
      have hrange := hr.now e hmem
      have htime := timerListEntryTimeToExpire_eq (ho.scheduled e hmem) now (by omega) (by omega)
      have hpos : (timerListEntryTimeToExpire (tlist.entry e) (UInt32.ofNat now)).toNat ≠ 0 :=
        fun hzero => hlater (UInt32.toNat_inj.mp hzero)
      refine List.eq_nil_iff_forall_not_mem.mpr fun f hf => ?_
      obtain ⟨hf, hexpiry⟩ := mem_due.mp hf
      have hle := Int.ofNat_le.mp ((ho.heap hr.epochs).root_le hroot hf)
      omega

/-! ### The invariant of one call -/

variable {tlist₀ : TimerList}

/-- What holds during a call that found the list `tlist₀`: only timers of `tlist₀` are due, as
    they were, and none whose callback has been called is due any more. -/
structure ExpireOk (toInterval : UInt32 → UInt32) (tlist₀ : TimerList) (s : ExpireRun) : Prop where
  inv : s.run.Inv
  ordered : s.run.tlist.Ordered toInterval
  range : s.run.tlist.InRangeAt toInterval s.now
  clock : s.now ≤ s.clock
  callback : ∀ e t, s.run.callback = some (e, t) → t = s.now
  due : ∀ e ∈ s.run.tlist.due toInterval s.now, e ∈ tlist₀.due toInterval s.now ∧
    (s.run.tlist.entry e).timer = (tlist₀.entry e).timer
  called : ∀ e ∈ s.called, e ∈ tlist₀.due toInterval s.now
  nodup : s.called.Nodup
  gone : ∀ e ∈ s.results.map Prod.fst, e ∉ s.run.tlist.due toInterval s.now

/-- The next callback is one that has not been called. -/
private theorem called_next (tlist₀ : TimerList) {s : ExpireRun}
    (hordered : s.run.tlist.Ordered toInterval) (hrange : s.run.tlist.InRangeAt toInterval s.now)
    (hcallback : s.run.callback = timerCallback s.now s.run.tlist)
    (hdue : ∀ e ∈ s.run.tlist.due toInterval s.now, e ∈ tlist₀.due toInterval s.now)
    (hcalled : ∀ e ∈ s.results.map Prod.fst, e ∈ tlist₀.due toInterval s.now)
    (hnodup : (s.results.map Prod.fst).Nodup)
    (hgone : ∀ e ∈ s.results.map Prod.fst, e ∉ s.run.tlist.due toInterval s.now) :
    (∀ e t, s.run.callback = some (e, t) → t = s.now) ∧
      (∀ e ∈ s.called, e ∈ tlist₀.due toInterval s.now) ∧ s.called.Nodup := by
  rw [ExpireRun.called, hcallback, timerCallback]
  cases hexpired : timerListExpired s.now s.run.tlist with
  | none =>
    refine ⟨fun e t h => (by cases h), ?_, ?_⟩
    · simpa using hcalled
    · simpa using hnodup
  | some e =>
    obtain ⟨he, -⟩ := timerListExpired_due hordered hrange hexpired
    refine ⟨fun e' t h => (by cases h; rfl), fun e' he' => ?_, ?_⟩
    · obtain he' | he' := List.mem_append.mp he'
      · exact hcalled e' he'
      · obtain rfl : e' = e := by simpa using he'
        exact hdue e' he
    · refine List.nodup_append_comm.mp (List.nodup_cons.mpr ⟨?_, hnodup⟩)
      exact fun hmem => hgone e hmem he

theorem expireStart_ok {run : TimerRun} (hinv : run.Inv) (hordered : run.tlist.Ordered toInterval)
    (hrange : run.tlist.InRangeAt toInterval now) :
    ExpireOk toInterval run.tlist (expireStart run now) := by
  obtain ⟨hcallback, hcalled, hnodup⟩ := called_next run.tlist (s := expireStart run now)
    hordered hrange rfl (fun e he => he) (fun e he => by cases he) List.nodup_nil
    (fun e he => by cases he)
  have hstepped : TimerStepped toInterval (fun _ => True) run (expireStart run now).run :=
    .expire now rfl
  exact {
    inv := hstepped.inv hinv
    ordered := hordered
    range := hrange
    clock := Nat.le_refl _
    callback := hcallback
    due := fun e he => ⟨he, rfl⟩
    called := hcalled
    nodup := hnodup
    gone := fun e he => by cases he }

/-- The list after an event of a call, whatever the event is. -/
private theorem ExpireOk.change {s : ExpireRun} (h : ExpireOk toInterval tlist₀ s) {t : Nat}
    {handles : List Nat} (hle : s.now ≤ t)
    (hchange : TimerChange toInterval (fun i => 1 ≤ (toInterval i).toNat) s.run.tlist tlist'
      s.run.handles handles) (hstarted : s.run.tlist.Started t tlist') :
    tlist'.Ordered toInterval ∧
      (∀ e ∈ tlist'.due toInterval s.now, e ∈ s.run.tlist.due toInterval s.now ∧
        (tlist'.entry e).timer = (s.run.tlist.entry e).timer) := by
  have hordered := hchange.ordered h.inv.valid h.ordered h.range.epochs
  exact ⟨hordered, fun e he => hstarted.due hle hordered.scheduled he⟩

/-- A callback calls a function of the list. -/
private theorem ExpireOk.call {s : ExpireRun} {op : TimerOp} {t : Nat} {run : TimerRun}
    (htick : ∀ i, 1 ≤ i → 1 ≤ (toInterval i).toNat) (h : ExpireOk toInterval tlist₀ s)
    (huses : (TimerEvent.call t op).UsesHandles s.run) (hle : s.clock ≤ t)
    (hrun : timerStep toInterval s.run (.call t op) = some run)
    (hrange : run.tlist.InRangeAt toInterval s.now) :
    ExpireOk toInterval tlist₀ { s with run, clock := t } := by
  have hinv := (timerStep_cases (fun i => 1 ≤ (toInterval i).toNat) h.inv huses
    (fun i _ => htick i) hrun).inv h.inv
  obtain ⟨tlist', handles', happly, hchange, hstarted⟩ := op.apply_spec toInterval
    s.run.handles t h.inv.valid (fun e he => h.inv.handles.mem_iff.mp (huses e he))
    (fun i _ => htick i)
  have hle' := Nat.le_trans h.clock hle
  obtain ⟨hordered, hdue⟩ := h.change hle' hchange hstarted
  rw [timerStep, if_neg (by rw [h.inv.running]; exact Bool.false_ne_true)] at hrun
  simp only [happly, Option.some.injEq] at hrun
  subst hrun
  exact {
    inv := hinv
    ordered := hordered
    range := hrange
    clock := hle'
    callback := h.callback
    due := fun e he => ⟨(h.due e (hdue e he).1).1, (hdue e he).2.trans (h.due e (hdue e he).1).2⟩
    called := h.called
    nodup := h.nodup
    gone := fun e he hmem => h.gone e he (hdue e hmem).1 }

/-- A callback returns. -/
private theorem ExpireOk.returned {s : ExpireRun} {e : Nat} {realloc again : Bool} {run : TimerRun}
    (htick : ∀ i, 1 ≤ i → 1 ≤ (toInterval i).toNat) (h : ExpireOk toInterval tlist₀ s)
    (hcallback : s.run.callback = some (e, s.now))
    (hrun : timerStep toInterval s.run (.returned realloc again) = some run)
    (hrange : run.tlist.InRangeAt toInterval s.now) :
    ExpireOk toInterval tlist₀ { s with run, results := s.results ++ [(e, again)] } := by
  have huses : (TimerEvent.returned realloc again).UsesHandles s.run := trivial
  have hinv := (timerStep_cases (fun i => 1 ≤ (toInterval i).toNat) h.inv huses
    (fun i _ => htick i) hrun).inv h.inv
  obtain ⟨tlist', hreturned, hchange, hstarted, hagain⟩ := timerListExpireReturned_spec
    toInterval (fun i => 1 ≤ (toInterval i).toNat) realloc again s.now h.inv.valid
    h.inv.handles (h.inv.callback e s.now hcallback)
  obtain ⟨hordered, hdue⟩ := h.change (Nat.le_refl _) hchange hstarted
  unfold timerStep at hrun
  rw [if_neg (by rw [h.inv.running]; exact Bool.false_ne_true)] at hrun
  simp only [hcallback, hreturned, Option.some.injEq] at hrun
  subst hrun
  have hcalled : s.called = (s.results ++ [(e, again)]).map Prod.fst := by
    rw [ExpireRun.called, hcallback, List.map_append]
    rfl
  have hdue₀ : ∀ x ∈ tlist'.due toInterval s.now, x ∈ tlist₀.due toInterval s.now ∧
      (tlist'.entry x).timer = (tlist₀.entry x).timer :=
    fun x hx => ⟨(h.due x (hdue x hx).1).1, (hdue x hx).2.trans (h.due x (hdue x hx).1).2⟩
  -- The timer whose callback has returned is gone, or it was started now.
  have hself : e ∉ tlist'.due toInterval s.now := by
    intro hmem
    have hentry := (mem_due.mp hmem).1
    exact notMem_due_of_since (hordered.scheduled e hentry) (hagain hentry).2 (Nat.le_refl _) hmem
  have hgone : ∀ x ∈ (s.results ++ [(e, again)]).map Prod.fst,
      x ∉ tlist'.due toInterval s.now := by
    intro x hx hmem
    rw [List.map_append, List.mem_append] at hx
    obtain hx | hx := hx
    · exact h.gone x hx (hdue x hmem).1
    · obtain rfl : x = e := by simpa using hx
      exact hself hmem
  have hcalls := h.called
  have hnodups := h.nodup
  rw [hcalled] at hcalls hnodups
  obtain ⟨hnow, hnext, hnodup⟩ := called_next tlist₀ (s := { s with
      run := ⟨tlist', _, timerCallback s.now tlist', false⟩, results := s.results ++ [(e, again)] })
    hordered hrange rfl (fun x hx => (hdue₀ x hx).1) hcalls hnodups hgone
  exact {
    inv := hinv
    ordered := hordered
    range := hrange
    clock := h.clock
    callback := hnow
    due := hdue₀
    called := hnext
    nodup := hnodup
    gone := hgone }

theorem ExpireOk.step {s s' : ExpireRun} {event : TimerEvent}
    (htick : ∀ i, 1 ≤ i → 1 ≤ (toInterval i).toNat) (h : ExpireOk toInterval tlist₀ s)
    (hok : s.Ok toInterval event) (hstep : expireStep toInterval s event = some s') :
    ExpireOk toInterval tlist₀ s' ∧ s'.now = s.now := by
  obtain ⟨huses, hrange⟩ := hok
  have hrange := hrange s' hstep
  rw [expireStep] at hstep
  cases hcallback : s.run.callback with
  | none =>
    rw [hcallback] at hstep
    cases hstep
  | some callback =>
    obtain ⟨e, t⟩ := callback
    obtain rfl := h.callback e t hcallback
    simp only [hcallback] at hstep
    cases event with
    | expire now => cases hstep
    | call now op =>
      dsimp only at hstep
      split at hstep
      · next hle =>
        obtain ⟨run, hrun, rfl⟩ := Option.map_eq_some_iff.mp hstep
        exact ⟨h.call htick huses hle hrun hrange, rfl⟩
      · cases hstep
    | returned realloc again =>
      obtain ⟨run, hrun, rfl⟩ := Option.map_eq_some_iff.mp hstep
      exact ⟨h.returned htick hcallback hrun hrange, rfl⟩

/-! ### Callbacks that leave the list alone -/

/-- The return of a callback, in a state in which no `assert` has failed. -/
theorem expireStep_returned {s : ExpireRun} {e t : Nat} {realloc again : Bool}
    (hrunning : s.run.aborted = false) (hcallback : s.run.callback = some (e, t))
    (hreturned : timerListExpireReturned toInterval realloc t again s.run.tlist e = some tlist') :
    expireStep toInterval s (.returned realloc again) = some { s with
      run := ⟨tlist', if again then s.run.handles else s.run.handles.erase e,
        timerCallback t tlist', false⟩
      results := s.results ++ [(e, again)] } := by
  simp only [expireStep, hcallback, timerStep, hrunning, hreturned]
  rfl

variable (toInterval now) in
/-- What `timer_list_expire` does after a callback that has not touched the list: only the timer
    of the callback changes. -/
theorem timerListExpireReturned_live (realloc again : Bool) {e : Nat} (hv : tlist.Valid)
    (he : e ∈ tlist.entries) :
    ∃ tlist', timerListExpireReturned toInterval realloc now again tlist e = some tlist' ∧
      (∀ x ≠ e, (x ∈ tlist'.entries ↔ x ∈ tlist.entries) ∧
        (tlist'.entry x).timer = (tlist.entry x).timer) ∧
      (again = false → e ∉ tlist'.entries) ∧
      (again = true → e ∈ tlist'.entries ∧ (tlist'.entry e).since = now) := by
  cases again with
  | false =>
    obtain ⟨tlist', hdelete, hremoved⟩ := timerListEntryDelete_spec hv he
    refine ⟨tlist', hdelete, fun x hx => ⟨?_, hremoved.timer_of_ne x hx⟩,
      fun _ => hremoved.notMem hv, fun hno => by cases hno⟩
    rw [← hremoved.perm.mem_iff, List.mem_cons]
    exact ⟨.inr, fun h => h.resolve_left hx⟩
  | true =>
    obtain ⟨tlist', hmove, hmoved⟩ := timerListEntryReschedule_spec toInterval realloc now hv he
    refine ⟨tlist', hmove, fun x hx => ⟨hmoved.perm.mem_iff, hmoved.timer_of_ne x hx⟩,
      (fun hno => by cases hno), fun _ => ⟨hmoved.perm.mem_iff.mpr he, ?_⟩⟩
    exact congrArg TimerListEntry.since hmoved.timer_self

/-- The callback does not call the list. -/
def TimerEvent.Quiet : TimerEvent → Prop
  | .returned _ _ => True
  | .call _ _ | .expire _ => False

/-- What holds beside `ExpireOk` when no callback calls the list. -/
structure QuietOk (toInterval : UInt32 → UInt32) (tlist₀ : TimerList) (s : ExpireRun) : Prop where
  callback : s.run.callback = timerCallback s.now s.run.tlist
  kept : ∀ x ∈ tlist₀.entries, x ∉ s.results.map Prod.fst →
    x ∈ s.run.tlist.entries ∧ (s.run.tlist.entry x).timer = (tlist₀.entry x).timer
  removed : ∀ x, (x, false) ∈ s.results → x ∉ s.run.tlist.entries
  again : ∀ x, (x, true) ∈ s.results →
    x ∈ s.run.tlist.entries ∧ (s.run.tlist.entry x).since = s.now
  order : (s.results.map Prod.fst).Pairwise fun x y =>
    (tlist₀.entry x).expiry toInterval ≤ (tlist₀.entry y).expiry toInterval
  least : ∀ x ∈ s.results.map Prod.fst, ∀ y ∈ s.run.tlist.due toInterval s.now,
    (tlist₀.entry x).expiry toInterval ≤ (tlist₀.entry y).expiry toInterval

theorem expireStart_quiet (run : TimerRun) (now : Nat) :
    QuietOk toInterval run.tlist (expireStart run now) where
  callback := rfl
  kept := fun _ hx _ => ⟨hx, rfl⟩
  removed := fun _ hno => by cases hno
  again := fun _ hno => by cases hno
  order := List.Pairwise.nil
  least := fun _ hno => by cases hno

/-- The callback that is running is that of the timer that expires first. -/
theorem QuietOk.first {s : ExpireRun} {e t : Nat} (h : ExpireOk toInterval tlist₀ s)
    (hq : QuietOk toInterval tlist₀ s) (hcallback : s.run.callback = some (e, t)) :
    e ∈ s.run.tlist.due toInterval s.now ∧ ∀ y ∈ s.run.tlist.due toInterval s.now,
      (tlist₀.entry e).expiry toInterval ≤ (tlist₀.entry y).expiry toInterval := by
  have hnext := hq.callback.symm.trans hcallback
  obtain ⟨e', hexpired, heq⟩ := Option.map_eq_some_iff.mp hnext
  cases heq
  obtain ⟨hdue, hleast⟩ := timerListExpired_due h.ordered h.range hexpired
  refine ⟨hdue, fun y hy => ?_⟩
  rw [← TimerListEntry.expiry_of_timer (h.due e hdue).2,
    ← TimerListEntry.expiry_of_timer (h.due y hy).2]
  exact hleast y (mem_due.mp hy).1

theorem QuietOk.step {s s' : ExpireRun} {event : TimerEvent} (h : ExpireOk toInterval tlist₀ s)
    (h' : ExpireOk toInterval tlist₀ s') (hq : QuietOk toInterval tlist₀ s)
    (hquiet : event.Quiet) (hstep : expireStep toInterval s event = some s') :
    QuietOk toInterval tlist₀ s' := by
  cases event with
  | call _ _ => exact hquiet.elim
  | expire _ => exact hquiet.elim
  | returned realloc again =>
    cases hcallback : s.run.callback with
    | none =>
      rw [expireStep, hcallback] at hstep
      cases hstep
    | some callback =>
      obtain ⟨e, t⟩ := callback
      obtain rfl := h.callback e t hcallback
      obtain ⟨hdue, hleast⟩ := hq.first h hcallback
      have hnew : e ∉ s.results.map Prod.fst := fun hno => h.gone e hno hdue
      have hne : ∀ x again', (x, again') ∈ s.results → x ≠ e := fun x again' hx heq =>
        hnew (heq ▸ List.mem_map_of_mem hx)
      obtain ⟨tlist', hreturned, hothers, hremoved, hagain⟩ := timerListExpireReturned_live
        toInterval s.now realloc again h.inv.valid (mem_due.mp hdue).1
      rw [expireStep_returned h.inv.running hcallback hreturned, Option.some.injEq] at hstep
      subst hstep
      -- The timers that are due now are not that of the callback.
      have hdues : ∀ y ∈ tlist'.due toInterval s.now, y ∈ s.run.tlist.due toInterval s.now := by
        intro y hy
        have hye : y ≠ e := fun heq => h'.gone y (by simp [heq]) hy
        obtain ⟨hmem, hexpiry⟩ := mem_due.mp hy
        rw [TimerListEntry.expiry_of_timer (hothers y hye).2] at hexpiry
        exact mem_due.mpr ⟨(hothers y hye).1.mp hmem, hexpiry⟩
      constructor
      · rfl
      · intro x hx hcalled
        rw [List.map_append, List.mem_append, not_or] at hcalled
        have hxe : x ≠ e := by simpa using hcalled.2
        obtain ⟨hmem, htimer⟩ := hq.kept x hx hcalled.1
        exact ⟨(hothers x hxe).1.mpr hmem, (hothers x hxe).2.trans htimer⟩
      · intro x hx
        obtain hx | hx := List.mem_append.mp hx
        · exact fun hmem => hq.removed x hx ((hothers x (hne x _ hx)).1.mp hmem)
        · obtain ⟨rfl, rfl⟩ : x = e ∧ false = again := by simpa using hx
          exact hremoved rfl
      · intro x hx
        obtain hx | hx := List.mem_append.mp hx
        · obtain ⟨hmem, hsince⟩ := hq.again x hx
          have htimer := congrArg TimerListEntry.since (hothers x (hne x _ hx)).2
          exact ⟨(hothers x (hne x _ hx)).1.mpr hmem, htimer.trans hsince⟩
        · obtain ⟨rfl, rfl⟩ : x = e ∧ true = again := by simpa using hx
          exact hagain rfl
      · rw [List.map_append, List.pairwise_append]
        refine ⟨hq.order, List.pairwise_singleton _ _, fun x hx y hy => ?_⟩
        obtain rfl : y = e := by simpa using hy
        exact hq.least x hx y hdue
      · intro x hx y hy
        rw [List.map_append, List.mem_append] at hx
        obtain hx | hx := hx
        · exact hq.least x hx y (hdues y hy)
        · obtain rfl : x = e := by simpa using hx
          exact hleast y (hdues y hy)

/-! ### Every call -/

section

variable {run : TimerRun}

/-- The list that `timer_list_expire` finds. -/
private theorem ordered_of_debug (htick : ∀ i, 1 ≤ i → 1 ≤ (toInterval i).toNat)
    (h : (timerMachine toInterval).Reach (fun s event => event.UsesHandles s) run)
    (hheap : timerListDebugIsValidHeap run.tlist = true) :
    run.Inv ∧ run.tlist.Ordered toInterval := by
  obtain ⟨hinv, hscheduled⟩ := timerMachine_scheduled htick h
  exact ⟨hinv, hscheduled, fun hrange =>
    isHeap_of_timerListDebugIsValidHeap (hrange.compares hscheduled) hheap⟩

/-- The invariant holds throughout a call. -/
theorem expireMachine_ok (htick : ∀ i, 1 ≤ i → 1 ≤ (toInterval i).toNat)
    (h : (timerMachine toInterval).Reach (fun s event => event.UsesHandles s) run)
    (hheap : timerListDebugIsValidHeap run.tlist = true)
    (hrange : run.tlist.InRangeAt toInterval now) {s : ExpireRun}
    (hs : (expireMachine toInterval run now).Reach (fun s event => s.Ok toInterval event) s) :
    ExpireOk toInterval run.tlist s ∧ s.now = now := by
  obtain ⟨hinv, hordered⟩ := ordered_of_debug htick h hheap
  refine hs.invariant (fun s => ExpireOk toInterval run.tlist s ∧ s.now = now) ?_ ?_
  · exact ⟨expireStart_ok hinv hordered hrange, rfl⟩
  · intro s s' event _ hok hevent hstep
    obtain ⟨hok', hnow⟩ := hok.1.step htick hevent hstep
    exact ⟨hok', hnow.trans hok.2⟩

theorem expireMachine_quiet (htick : ∀ i, 1 ≤ i → 1 ≤ (toInterval i).toNat)
    (h : (timerMachine toInterval).Reach (fun s event => event.UsesHandles s) run)
    (hheap : timerListDebugIsValidHeap run.tlist = true)
    (hrange : run.tlist.InRangeAt toInterval now) {s : ExpireRun}
    (hs : (expireMachine toInterval run now).Reach
      (fun s event => s.Ok toInterval event ∧ event.Quiet) s) :
    QuietOk toInterval run.tlist s := by
  refine hs.invariant (QuietOk toInterval run.tlist) (expireStart_quiet run now) ?_
  intro s s' event hreach hquiet hevent hstep
  obtain ⟨hok, -⟩ := expireMachine_ok htick h hheap hrange (hreach.mono fun _ _ hevent => hevent.1)
  exact hquiet.step hok (hok.step htick hevent.1 hstep).1 hevent.2 hstep

/-- What follows the return of a callback does not fail. -/
private theorem ExpireOk.progress {s : ExpireRun} (h : ExpireOk toInterval tlist₀ s)
    (realloc again : Bool) (hcallback : s.run.callback.isSome = true) :
    ∃ s', expireStep toInterval s (.returned realloc again) = some s' ∧ s'.run.aborted = false ∧
      s'.run.callback = timerCallback s.now s'.run.tlist := by
  obtain ⟨⟨e, t⟩, hcallback⟩ := Option.isSome_iff_exists.mp hcallback
  obtain rfl := h.callback e t hcallback
  obtain ⟨tlist', hreturned, -⟩ := timerListExpireReturned_spec toInterval (fun _ => True) realloc
    again s.now h.inv.valid h.inv.handles (h.inv.callback e s.now hcallback)
  exact ⟨_, expireStep_returned h.inv.running hcallback hreturned, rfl, rfl⟩

/-- If no callback calls the list, the timers that were due have been called when the call
    ends. -/
private theorem QuietOk.called_perm {s : ExpireRun} (h : ExpireOk toInterval tlist₀ s)
    (hq : QuietOk toInterval tlist₀ s) (hnodup : tlist₀.entries.Nodup)
    (hend : s.run.callback = none) :
    (s.results.map Prod.fst).Perm (tlist₀.due toInterval s.now) := by
  have hcalled : s.called = s.results.map Prod.fst := by
    rw [ExpireRun.called, hend]
    exact List.append_nil _
  have hexpired : timerListExpired s.now s.run.tlist = none :=
    Option.map_eq_none_iff.mp (hq.callback.symm.trans hend)
  have hnone := due_of_timerListExpired_none h.ordered h.range hexpired
  refine (List.perm_ext_iff_of_nodup (hcalled ▸ h.nodup) (hnodup.filter _)).mpr ?_
  refine fun e => ⟨fun he => h.called e (hcalled ▸ he), fun he => ?_⟩
  by_contra hno
  obtain ⟨hmem, hexpiry⟩ := mem_due.mp he
  obtain ⟨hlive, htimer⟩ := hq.kept e hmem hno
  rw [← TimerListEntry.expiry_of_timer htimer] at hexpiry
  exact List.not_mem_nil (hnone ▸ mem_due.mpr ⟨hlive, hexpiry⟩)

/-- **Expiry**: whatever the callbacks of one call of `timer_list_expire` do with the list, there
    are at most as many of them as timers that were due at the start, no timer is called twice, a
    callback is called only while its timer is due, and what follows its return does not fail.
    If no callback calls the list then exactly the timers that were due are called, those that
    expire earlier first; they are gone or started again, and nothing else has changed. -/
theorem timerListExpire_spec (htick : ∀ i, 1 ≤ i → 1 ≤ (toInterval i).toNat)
    (h : (timerMachine toInterval).Reach (fun s event => event.UsesHandles s) run)
    (hheap : timerListDebugIsValidHeap run.tlist = true)
    (hrange : run.tlist.InRangeAt toInterval now) :
    (∀ s, (expireMachine toInterval run now).Reach (fun s event => s.Ok toInterval event) s →
      s.called.length ≤ (run.tlist.due toInterval now).length ∧
      s.called.Nodup ∧
      (∀ e ∈ s.called, e ∈ run.tlist.due toInterval now) ∧
      ∀ realloc again, s.run.callback.isSome = true →
        ∃ s', expireStep toInterval s (.returned realloc again) = some s' ∧
          s'.run.aborted = false ∧
          (s'.run.tlist.InRangeAt toInterval now → ∀ e t, s'.run.callback = some (e, t) →
            e ∈ s'.run.tlist.due toInterval now)) ∧
    ∀ s, (expireMachine toInterval run now).Reach
        (fun s event => s.Ok toInterval event ∧ event.Quiet) s → s.run.callback = none →
      (s.results.map Prod.fst).Perm (run.tlist.due toInterval now) ∧
      ((s.results.map Prod.fst).Pairwise fun x y =>
        (run.tlist.entry x).expiry toInterval ≤ (run.tlist.entry y).expiry toInterval) ∧
      (∀ e, (e, false) ∈ s.results → e ∉ s.run.tlist.entries) ∧
      (∀ e, (e, true) ∈ s.results → e ∈ s.run.tlist.entries ∧
        (s.run.tlist.entry e).since = now ∧ (s.run.tlist.entry e).epoch = UInt32.ofNat now) ∧
      ∀ e ∈ run.tlist.entries, e ∉ run.tlist.due toInterval now →
        e ∈ s.run.tlist.entries ∧ (s.run.tlist.entry e).timer = (run.tlist.entry e).timer := by
  constructor
  · intro s hs
    obtain ⟨hok, rfl⟩ := expireMachine_ok htick h hheap hrange hs
    refine ⟨(List.subperm_of_subset hok.nodup hok.called).length_le, hok.nodup, hok.called, ?_⟩
    intro realloc again hcallback
    obtain ⟨s', hstep, hrunning, hnext⟩ := hok.progress realloc again hcallback
    refine ⟨s', hstep, hrunning, fun hrange' e t he => ?_⟩
    -- Whatever the callback answers, the next one is of the root, which is due.
    have hevent : s.Ok toInterval (.returned realloc again) := by
      refine ⟨trivial, fun s'' hs'' => ?_⟩
      rw [hstep] at hs''
      cases hs''
      exact hrange'
    obtain ⟨hok', -⟩ := hok.step htick hevent hstep
    obtain ⟨e', hexpired, heq⟩ := Option.map_eq_some_iff.mp (hnext.symm.trans he)
    cases heq
    exact (timerListExpired_due hok'.ordered hrange' hexpired).1
  · intro s hs hend
    have hreach := hs.mono (fun _ _ hevent => hevent.1)
    obtain ⟨hok, rfl⟩ := expireMachine_ok htick h hheap hrange hreach
    -- Callbacks that leave the list alone: each timer that is due is called once, in order.
    have hquiet := expireMachine_quiet htick h hheap hrange hs
    have hperm := hquiet.called_perm hok (timerMachine_inv h).valid.placed.nodup hend
    refine ⟨hperm, hquiet.order, hquiet.removed, fun e he => ?_, fun e he hnot => ?_⟩
    · obtain ⟨hmem, hsince⟩ := hquiet.again e he
      exact ⟨hmem, hsince, hsince ▸ (hok.ordered.scheduled e hmem).epoch⟩
    · exact hquiet.kept e he fun hcalled => hnot (hperm.mem_iff.mp hcalled)

instance (tlist : TimerList) : Decidable (tlist.InRangeAt toInterval now) :=
  decidable_of_iff (tlist.InRange toInterval ∧ ∀ e ∈ tlist.entries, _ ∧ _)
    ⟨fun h => ⟨h.1, h.2⟩, fun h => ⟨h.epochs, h.now⟩⟩

instance (event : TimerEvent) : Decidable event.Quiet :=
  match event with
  | .returned _ _ => isTrue trivial
  | .call _ _ | .expire _ => isFalse id

instance (s : ExpireRun) (event : TimerEvent) : Decidable (s.Ok toInterval event) :=
  have : Decidable (∀ s' ∈ expireStep toInterval s event,
    s'.run.tlist.InRangeAt toInterval s.now) := Option.decidableForallMem _
  inferInstanceAs (Decidable (_ ∧ _))

/-- Four timers, of which three are due; the callback of one of them starts it again. -/
theorem timerListExpire_spec_three :
    ∃ run s, (timerMachine id).Reach (fun s event => event.UsesHandles s) run ∧
      run.tlist.due id 21 = [2, 1, 0] ∧
      (expireMachine id run 21).Reach (fun s event => s.Ok id event ∧ event.Quiet) s ∧
      s.results = [(2, false), (0, true), (1, false)] ∧
      (s.results.map Prod.fst).Perm (run.tlist.due id 21) ∧ 1 ∉ s.run.tlist.entries := by
  obtain ⟨run, hrun, hheap, hrange, hdue, s, hs, hend, hresults⟩ :
      ∃ run, (timerMachine id).execWhile (fun s event => decide (event.UsesHandles s)) {}
        [.call 0 (.add {} 10 true), .call 1 (.add {} 20 true), .call 2 (.add {} 5 true),
          .call 3 (.add {} 100 true)] = some run ∧
      timerListDebugIsValidHeap run.tlist = true ∧ run.tlist.InRangeAt id 21 ∧
      run.tlist.due id 21 = [2, 1, 0] ∧
      ∃ s, (expireMachine id run 21).execWhile
          (fun s event => decide (s.Ok id event ∧ event.Quiet)) (expireStart run 21)
          [.returned true false, .returned true true, .returned true false] = some s ∧
        s.run.callback = none ∧ s.results = [(2, false), (0, true), (1, false)] :=
    ⟨_, rfl, by decide +kernel, by decide +kernel, by decide +kernel, _, rfl, by decide +kernel,
      by decide +kernel⟩
  have hreach := Runs.Machine.Reach.execWhile (fun _ _ => of_decide_eq_true) .init hrun
  have hquiet := Runs.Machine.Reach.execWhile (m := expireMachine id run 21)
    (fun _ _ => of_decide_eq_true) .init hs
  obtain ⟨hperm, -, hremoved, -⟩ :=
    (timerListExpire_spec (fun i hi => UInt32.le_iff_toNat_le.mp hi) hreach hheap hrange).2 s
      hquiet hend
  exact ⟨run, s, hreach, hdue, hquiet, hresults, hperm, hremoved 1 (by rw [hresults]; simp)⟩

end

end Qdevice
