import Qdevice.ForStd.Runs
import Qdevice.Native.PrPollLoop

/-! # The pointers of the poll loop

`pr_poll_loop_exec` keeps pointers to entries while it calls callbacks, which can delete entries.
`fdHeld` and `prePollHeld` are the pointers that it is still going to follow.  They all lead to live
entries, in every state of a run, exactly as long as every deletion is of an entry that is not held
and no entry is put into the array after it was deleted by its own callback. -/

namespace Qdevice

/-- The loop, empty at first. -/
def pollMachine : Runs.Machine PollRun PollEvent where
  init := {}
  step := PollRun.step

/-- The looks at an item from this one on. -/
def PollStage.onward : PollStage → List PollStage
  | .read => [.read, .write, .err]
  | .write => [.write, .err]
  | .err => [.err]

/-- The looks after this one. -/
def PollStage.later : PollStage → List PollStage
  | .read => [.write, .err]
  | .write => [.err]
  | .err => []

/-- One of the looks follows the user data of the item. -/
def PollItem.looked (item : PollItem) (stages : List PollStage) : Bool := stages.any item.flagged

/-- The user data that is followed in the given looks at the first item, or in any look at a later
    one. -/
def PollItem.lookedFrom (stages : List PollStage) : List PollItem → List Nat
  | [] => []
  | item :: rest =>
    (if item.looked stages then [item.userData] else []) ++
      (rest.filter fun item => item.looked PollStage.read.onward).map PollItem.userData

namespace PollRun

/-- The user data that is followed in the given looks at item `i`, or in any look at a later item. -/
def looks (s : PollRun) (i : Nat) (stages : List PollStage) : List Nat :=
  PollItem.lookedFrom stages (s.loop.pollArray.drop i)

/-- The user data in the array. -/
def userData (s : PollRun) : List Nat := s.loop.pollArray.map PollItem.userData

/-- The pointers to entries of the list that may still be followed.  While a callback for the events
    of an entry runs, that entry is only followed again if the callback asks for it. -/
def fdHeld (s : PollRun) : List Nat :=
  match s.phase with
  | .fill fdEntry => fdEntry.toList ++ s.userData
  | .setEvents _ next => next.toList ++ s.userData
  | .prePoll _ | .prePollCb _ _ | .polling => s.userData
  | .dispatch i stage => s.looks i stage.onward
  | .callback i stage => s.looks i stage.later
  | .idle _ | .expiring | .freed => []

/-- The pointers to pre poll callbacks that are going to be followed. -/
def prePollHeld (s : PollRun) : List Nat :=
  match s.phase with
  | .prePoll entry => entry.toList
  | .prePollCb _ next => next.toList
  | _ => []

end PollRun

/-- No two entries have one address, and the next address is not taken. -/
structure PollLoop.Distinct (loop : PollLoop) : Prop where
  fdAddrs : loop.fdAddrs.Nodup
  prePollAddrs : loop.prePollAddrs.Nodup
  fdFresh : ∀ a ∈ loop.fdAddrs, a < loop.entryCount
  prePollFresh : ∀ a ∈ loop.prePollAddrs, a < loop.entryCount

/-- Nothing freed was read, and nothing freed is going to be. -/
structure PollRun.Sound (s : PollRun) : Prop where
  distinct : s.loop.Distinct
  fd : ∀ a ∈ s.fdHeld, a ∈ s.loop.fdAddrs
  prePoll : ∀ a ∈ s.prePollHeld, a ∈ s.loop.prePollAddrs
  running : s.phase ≠ .freed

/-- The entry is to be put into the array. -/
def PollAnswer.wanted (answer : PollAnswer) : Bool :=
  decide (answer.res = 0) && decide (answer.events ≠ 0)

/-- The entry is put into the array. -/
def pollAdds (res : Int) (events : UInt16) (added : Bool) : Bool :=
  pollEventsValid events && decide (res = 0) && decide (events ≠ 0) && added

/-- A deletion is of an entry that is not held, and a callback that asks for events of its entry has
    not deleted it. -/
def PollRun.careful (s : PollRun) : PollEvent → Bool
  | .call (.delFd fd) => (s.loop.findByFd fd).all fun entry => decide (entry.addr ∉ s.fdHeld)
  | .call (.delPrePollCb prePollCb) =>
    (s.loop.findPrePollCb prePollCb).all fun entry => decide (entry.addr ∉ s.prePollHeld)
  | .returned res events added =>
    match s.phase with
    | .setEvents addr _ => !pollAdds res events added || decide (addr ∈ s.loop.fdAddrs)
    | _ => true
  | _ => true

theorem PollRun.careful_delFd (s : PollRun) (fd : PollFd) : s.careful (.call (.delFd fd)) =
    (s.loop.findByFd fd).all fun entry => decide (entry.addr ∉ s.fdHeld) := rfl

theorem PollRun.careful_delPrePollCb (s : PollRun) (prePollCb : Option Nat) :
    s.careful (.call (.delPrePollCb prePollCb)) =
      (s.loop.findPrePollCb prePollCb).all fun entry => decide (entry.addr ∉ s.prePollHeld) := rfl

/-! ### Calls -/

namespace PollLoop

variable {loop loop' : PollLoop}

theorem fdEntry_isSome (addr : Nat) : (loop.fdEntry addr).isSome = true ↔ addr ∈ loop.fdAddrs := by
  simp [fdEntry, fdAddrs, List.find?_isSome]

theorem prePollEntry_isSome (addr : Nat) :
    (loop.prePollEntry addr).isSome = true ↔ addr ∈ loop.prePollAddrs := by
  simp [prePollEntry, prePollAddrs, List.find?_isSome]

/-- What an entry that was found is called. -/
theorem addr_of_fdEntry {addr : Nat} {entry : PollFdEntry} (h : loop.fdEntry addr = some entry) :
    entry.addr = addr := by
  have hfound := List.find?_some h
  simpa using hfound

/-- What a call has done to the lists. -/
inductive Changed (loop loop' : PollLoop) : PollOp → Prop where
  | same {op : PollOp} (h : loop' = loop)
      (found : ∀ fd, op = .delFd fd → loop.findByFd fd = none)
      (foundPre : ∀ cb, op = .delPrePollCb cb → loop.findPrePollCb cb = none) :
      Changed loop loop' op
  | addFd {alloc : Bool} {fd : PollFd} {events : UInt16} {cb₁ cb₂ cb₃ cb₄ : Bool}
      (fdAddrs : loop'.fdAddrs = loop.fdAddrs ++ [loop.entryCount])
      (prePollAddrs : loop'.prePollAddrs = loop.prePollAddrs)
      (entryCount : loop'.entryCount = loop.entryCount + 1) :
      Changed loop loop' (.addFd alloc fd events cb₁ cb₂ cb₃ cb₄)
  | delFd {fd : PollFd} {entry : PollFdEntry} (found : loop.findByFd fd = some entry)
      (fdAddrs : loop'.fdAddrs = loop.fdAddrs.erase entry.addr)
      (prePollAddrs : loop'.prePollAddrs = loop.prePollAddrs)
      (entryCount : loop'.entryCount = loop.entryCount) : Changed loop loop' (.delFd fd)
  | addPrePollCb {alloc : Bool} {cb : Option Nat} (fdAddrs : loop'.fdAddrs = loop.fdAddrs)
      (prePollAddrs : loop'.prePollAddrs = loop.prePollAddrs ++ [loop.entryCount])
      (entryCount : loop'.entryCount = loop.entryCount + 1) :
      Changed loop loop' (.addPrePollCb alloc cb)
  | delPrePollCb {cb : Option Nat} {entry : PrePollCbEntry}
      (found : loop.findPrePollCb cb = some entry) (fdAddrs : loop'.fdAddrs = loop.fdAddrs)
      (prePollAddrs : loop'.prePollAddrs = loop.prePollAddrs.erase entry.addr)
      (entryCount : loop'.entryCount = loop.entryCount) : Changed loop loop' (.delPrePollCb cb)

theorem apply_changed (h : loop.Distinct) (op : PollOp) : Changed loop (op.apply loop) op := by
  cases op with
  | addFd alloc fd events cb₁ cb₂ cb₃ cb₄ =>
    show Changed loop (loop.addFdInt alloc fd events cb₁ cb₂ cb₃ cb₄).1 _
    unfold addFdInt
    split
    · exact .same rfl (by simp) (by simp)
    · split
      · exact .same rfl (by simp) (by simp)
      · split
        · exact .same rfl (by simp) (by simp)
        · exact .addFd (by simp [fdAddrs]) rfl rfl
  | delFd fd =>
    show Changed loop (loop.delFdInt fd).1 _
    unfold delFdInt
    cases hfound : loop.findByFd fd with
    | none => exact .same rfl (by simp [hfound]) (by simp)
    | some entry =>
      have hmem : entry ∈ loop.fdList := List.mem_of_find?_eq_some hfound
      exact .delFd hfound (Tailq.map_erase h.fdAddrs hmem) rfl rfl
  | addPrePollCb alloc cb =>
    show Changed loop (loop.addPrePollCb alloc cb).1 _
    unfold addPrePollCb
    split
    · exact .same rfl (by simp) (by simp)
    · split
      · exact .same rfl (by simp) (by simp)
      · exact .addPrePollCb rfl (by simp [prePollAddrs]) rfl
  | delPrePollCb cb =>
    show Changed loop (loop.delPrePollCb cb).1 _
    unfold delPrePollCb
    cases hfound : loop.findPrePollCb cb with
    | none => exact .same rfl (by simp) (by simp [hfound])
    | some entry =>
      have hmem : entry ∈ loop.prePollCbList := List.mem_of_find?_eq_some hfound
      exact .delPrePollCb hfound rfl (Tailq.map_erase h.prePollAddrs hmem) rfl

theorem apply_pollArray (op : PollOp) : (op.apply loop).pollArray = loop.pollArray := by
  cases op with
  | addFd alloc fd events cb₁ cb₂ cb₃ cb₄ =>
    show (loop.addFdInt alloc fd events cb₁ cb₂ cb₃ cb₄).1.pollArray = _
    unfold addFdInt
    split
    · rfl
    · split
      · rfl
      · split
        · rfl
        · rfl
  | delFd fd =>
    show (loop.delFdInt fd).1.pollArray = _
    unfold delFdInt
    cases loop.findByFd fd with
    | none => rfl
    | some entry => rfl
  | addPrePollCb alloc cb =>
    show (loop.addPrePollCb alloc cb).1.pollArray = _
    unfold addPrePollCb
    split
    · rfl
    · split
      · rfl
      · rfl
  | delPrePollCb cb =>
    show (loop.delPrePollCb cb).1.pollArray = _
    unfold delPrePollCb
    cases loop.findPrePollCb cb with
    | none => rfl
    | some entry => rfl

/-- The array for `PR_Poll` has nothing to do with the addresses. -/
theorem Distinct.withArray (h : loop.Distinct) (pollArray : List PollItem) :
    ({ loop with pollArray } : PollLoop).Distinct :=
  ⟨h.fdAddrs, h.prePollAddrs, h.fdFresh, h.prePollFresh⟩

/-- Addresses stay distinct. -/
theorem Changed.distinct {op : PollOp} (hc : Changed loop loop' op) (h : loop.Distinct) :
    loop'.Distinct := by
  have hnew {l : List Nat} (hl : ∀ a ∈ l, a < loop.entryCount) (hnodup : l.Nodup) :
      (l ++ [loop.entryCount]).Nodup ∧
        ∀ a ∈ l ++ [loop.entryCount], a < loop.entryCount + 1 := by
    constructor
    · rw [← List.concat_eq_append, List.nodup_concat]
      exact ⟨fun hmem => Nat.lt_irrefl _ (hl _ hmem), hnodup⟩
    · intro a ha
      rcases List.mem_append.mp ha with ha | ha
      · have hlt := hl a ha
        omega
      · rw [List.mem_singleton.mp ha]
        omega
  cases hc with
  | same hsame _ _ => exact hsame ▸ h
  | addFd hfd hpre hcount =>
    obtain ⟨hnodup, hfresh⟩ := hnew h.fdFresh h.fdAddrs
    refine ⟨hfd ▸ hnodup, hpre ▸ h.prePollAddrs, ?_, ?_⟩
    · rw [hfd, hcount]
      exact hfresh
    · intro a ha
      have hlt := h.prePollFresh a (hpre ▸ ha)
      omega
  | delFd hfound hfd hpre hcount =>
    refine ⟨hfd ▸ h.fdAddrs.erase _, hpre ▸ h.prePollAddrs, ?_, ?_⟩
    · intro a ha
      rw [hfd] at ha
      exact hcount ▸ h.fdFresh a (List.mem_of_mem_erase ha)
    · intro a ha
      exact hcount ▸ h.prePollFresh a (hpre ▸ ha)
  | addPrePollCb hfd hpre hcount =>
    obtain ⟨hnodup, hfresh⟩ := hnew h.prePollFresh h.prePollAddrs
    refine ⟨hfd ▸ h.fdAddrs, hpre ▸ hnodup, ?_, ?_⟩
    · intro a ha
      have hlt := h.fdFresh a (hfd ▸ ha)
      omega
    · rw [hpre, hcount]
      exact hfresh
  | delPrePollCb hfound hfd hpre hcount =>
    refine ⟨hfd ▸ h.fdAddrs, hpre ▸ h.prePollAddrs.erase _, ?_, ?_⟩
    · intro a ha
      exact hcount ▸ h.fdFresh a (hfd ▸ ha)
    · intro a ha
      rw [hpre] at ha
      exact hcount ▸ h.prePollFresh a (List.mem_of_mem_erase ha)

end PollLoop

/-! ### One event -/

namespace PollRun

variable {s s' : PollRun}

/-- What is held does not change by a call. -/
theorem call_held (s : PollRun) (op : PollOp) :
    fdHeld { s with loop := op.apply s.loop } = s.fdHeld ∧
      prePollHeld { s with loop := op.apply s.loop } = s.prePollHeld := by
  unfold fdHeld prePollHeld looks userData
  constructor
  · cases s.phase <;> simp only [PollLoop.apply_pollArray]
  · rfl

/-- A call leaves the pointers sound exactly if it does not delete an entry that is held. -/
theorem Sound.call_iff (h : s.Sound) (op : PollOp) :
    Sound { s with loop := op.apply s.loop } ↔ s.careful (.call op) = true := by
  have hchanged := PollLoop.apply_changed h.distinct op
  have hdistinct := hchanged.distinct h.distinct
  obtain ⟨hfdHeld, hpreHeld⟩ := call_held s op
  have hsound : Sound { s with loop := op.apply s.loop } ↔
      (∀ a ∈ s.fdHeld, a ∈ (op.apply s.loop).fdAddrs) ∧
        ∀ a ∈ s.prePollHeld, a ∈ (op.apply s.loop).prePollAddrs := by
    constructor
    · rintro ⟨-, hfd, hpre, -⟩
      rw [hfdHeld] at hfd
      rw [hpreHeld] at hpre
      exact ⟨hfd, hpre⟩
    · rintro ⟨hfd, hpre⟩
      refine ⟨hdistinct, ?_, ?_, h.running⟩
      · rw [hfdHeld]
        exact hfd
      · rw [hpreHeld]
        exact hpre
  rw [hsound]
  cases hchanged with
  | same hsame found foundPre =>
    rw [hsame]
    refine iff_of_true ⟨h.fd, h.prePoll⟩ ?_
    unfold careful
    cases op with
    | delFd fd => simp [found fd rfl]
    | delPrePollCb cb => simp [foundPre cb rfl]
    | addFd _ _ _ _ _ _ _ => rfl
    | addPrePollCb _ _ => rfl
  | addFd hfd hpre _ =>
    refine iff_of_true ⟨?_, hpre ▸ h.prePoll⟩ rfl
    intro a ha
    rw [hfd]
    exact List.mem_append_left _ (h.fd a ha)
  | delFd hfound hfd hpre _ =>
    rw [hfd, hpre, Tailq.forall_mem_erase h.distinct.fdAddrs h.fd]
    rw [careful_delFd, hfound, Option.all_some, decide_eq_true_iff]
    exact and_iff_left h.prePoll
  | addPrePollCb hfd hpre _ =>
    refine iff_of_true ⟨hfd ▸ h.fd, ?_⟩ rfl
    intro a ha
    rw [hpre]
    exact List.mem_append_left _ (h.prePoll a ha)
  | delPrePollCb hfound hfd hpre _ =>
    rw [hfd, hpre, Tailq.forall_mem_erase h.distinct.prePollAddrs h.prePoll]
    rw [careful_delPrePollCb, hfound, Option.all_some, decide_eq_true_iff]
    exact and_iff_right h.fd

/-- Where nothing is held, only the lists matter. -/
theorem Sound.of_nothing_held (hdistinct : s.loop.Distinct) (hfd : s.fdHeld = [])
    (hpre : s.prePollHeld = []) (hrunning : s.phase ≠ .freed) : s.Sound := by
  refine ⟨hdistinct, ?_, ?_, hrunning⟩
  · rw [hfd]
    exact fun _ hno => absurd hno List.not_mem_nil
  · rw [hpre]
    exact fun _ hno => absurd hno List.not_mem_nil

theorem Sound.idle (hdistinct : s.loop.Distinct) (res : Int) :
    Sound { s with phase := .idle res } :=
  .of_nothing_held hdistinct rfl rfl (by simp)

/-- Where no pre poll callback is held. -/
theorem Sound.of_fdHeld (hdistinct : s.loop.Distinct) (hfd : ∀ a ∈ s.fdHeld, a ∈ s.loop.fdAddrs)
    (hpre : s.prePollHeld = []) (hrunning : s.phase ≠ .freed) : s.Sound := by
  refine ⟨hdistinct, hfd, ?_, hrunning⟩
  rw [hpre]
  exact fun _ hno => absurd hno List.not_mem_nil

/-- An entry that has answered is put into the array. -/
def adding (s : PollRun) (entry : PollFdEntry) (next : Option Nat) (events : UInt16) : PollRun :=
  let item : PollItem :=
    { fd := entry.pollFd, inFlags := pollEventsToPrEvents events, userData := entry.addr }
  { s with
    loop := { s.loop with pollArray := s.loop.pollArray ++ [item] }
    phase := .fill next }

/-- The end of a round of `prepare_poll_array`. -/
inductive Filled (s : PollRun) (fdEntry : Nat) (next : Option Nat) (answer : PollAnswer) :
    Bool → PollRun → Prop where
  | error (res : Int) (hres : res = -1 ∨ res = -2) :
      Filled s fdEntry next answer false { s.answered answer with phase := .idle res }
  | skipped (h : answer.wanted = false) :
      Filled s fdEntry next answer false { s.answered answer with phase := .fill next }
  | freed (h : s.loop.fdEntry fdEntry = none) :
      Filled s fdEntry next answer true { s.answered answer with phase := .freed }
  | added {entry : PollFdEntry} (h : answer.wanted = true)
      (live : s.loop.fdEntry fdEntry = some entry) :
      Filled s fdEntry next answer true ((s.answered answer).adding entry next answer.events)

theorem filled_cases (s : PollRun) (fdEntry : Nat) (next : Option Nat) (res : Int)
    (events : UInt16) (added : Bool) :
    Filled s fdEntry next ⟨fdEntry, res, events⟩ (pollAdds res events added)
      (s.filled fdEntry next res events added) := by
  unfold filled pollAdds
  cases hvalid : pollEventsValid events with
  | false => exact .error (-2) (.inr rfl)
  | true =>
    simp only [Bool.true_eq_false, if_false, Bool.true_and]
    by_cases hempty : res = 0 ∧ events = 0
    · obtain ⟨rfl, rfl⟩ := hempty
      exact .skipped (by simp [PollAnswer.wanted])
    by_cases hres : res = 0
    · have hevents : events ≠ 0 := fun h => hempty ⟨hres, h⟩
      subst hres
      simp only [hevents, and_false, if_false, if_true, ne_eq, not_false_eq_true, decide_true,
        Bool.true_and]
      cases added with
      | false => exact .error (-1) (.inl rfl)
      | true =>
        simp only [Bool.true_eq_false, if_false]
        have hloop : (s.answered ⟨fdEntry, 0, events⟩).loop = s.loop := rfl
        rw [hloop]
        cases hentry : s.loop.fdEntry fdEntry with
        | none => exact .freed hentry
        | some entry =>
          have haddr := PollLoop.addr_of_fdEntry hentry
          subst haddr
          exact .added (by simp [PollAnswer.wanted, hevents]) hentry
    · simp only [hres, false_and, if_false, decide_false, Bool.false_and]
      by_cases hminus : res = -1
      · rw [if_pos hminus]
        exact .skipped (by simp [PollAnswer.wanted, hres])
      · rw [if_neg hminus]
        split
        · exact .error (-1) (.inl rfl)
        · exact .error (-2) (.inr rfl)

/-- The end of a round of `prepare_poll_array`: only an entry that is added is followed. -/
theorem Sound.filled_iff (hdistinct : s.loop.Distinct) (fdEntry : Nat) {next : Option Nat}
    (res : Int) (events : UInt16) (added : Bool)
    (hheld : ∀ a ∈ next.toList ++ s.userData, a ∈ s.loop.fdAddrs) :
    Sound (s.filled fdEntry next res events added) ↔
      (pollAdds res events added = true → fdEntry ∈ s.loop.fdAddrs) := by
  have hcases := s.filled_cases fdEntry next res events added
  generalize s.filled fdEntry next res events added = s₁ at *
  generalize pollAdds res events added = adds at *
  cases hcases with
  | error r hr =>
    refine iff_of_true ?_ (by simp)
    exact .of_nothing_held hdistinct rfl rfl (by simp)
  | skipped hno =>
    refine iff_of_true ?_ (by simp)
    exact .of_fdHeld hdistinct hheld rfl (by simp)
  | freed hfreed =>
    refine iff_of_false (fun h => h.running rfl) ?_
    rw [← PollLoop.fdEntry_isSome, hfreed]
    simp
  | @added entry hwanted hentry =>
    have hlive : fdEntry ∈ s.loop.fdAddrs := by
      rw [← PollLoop.fdEntry_isSome, hentry]
      rfl
    refine iff_of_true (.of_fdHeld (hdistinct.withArray _) ?_ rfl (by simp [adding]))
      fun _ => hlive
    intro a ha
    show a ∈ s.loop.fdAddrs
    have ha : a ∈ next.toList ++ (s.loop.pollArray ++ [_]).map PollItem.userData := ha
    rw [List.map_append, ← List.append_assoc, List.mem_append] at ha
    rcases ha with ha | ha
    · exact hheld a ha
    · rw [List.mem_singleton.mp ha, PollLoop.addr_of_fdEntry hentry]
      exact hlive

/-! ### Looks -/

end PollRun

theorem PollItem.lookedFrom_all (items : List PollItem) :
    lookedFrom PollStage.read.onward items =
      (items.filter fun item => item.looked PollStage.read.onward).map userData := by
  cases items with
  | nil => rfl
  | cons item rest =>
    rw [lookedFrom, List.filter_cons]
    cases item.looked PollStage.read.onward with
    | false => rfl
    | true => rfl

theorem PollItem.lookedFrom_subset_userData (stages : List PollStage) (items : List PollItem) :
    lookedFrom stages items ⊆ items.map userData := by
  cases items with
  | nil => exact List.Subset.refl _
  | cons item rest =>
    intro a ha
    rw [List.map_cons]
    rcases List.mem_append.mp ha with ha | ha
    · split at ha
      · rw [List.mem_singleton.mp ha]
        exact List.mem_cons_self
      · cases ha
    · exact List.mem_cons_of_mem _ (List.map_subset _ (List.filter_subset_self _) ha)

theorem PollItem.lookedFrom_subset {stages stages' : List PollStage} (h : stages ⊆ stages')
    (items : List PollItem) : lookedFrom stages items ⊆ lookedFrom stages' items := by
  cases items with
  | nil => exact List.Subset.refl _
  | cons item rest =>
    intro a ha
    unfold lookedFrom looked at *
    rcases List.mem_append.mp ha with ha | ha
    · refine List.mem_append_left _ ?_
      split at ha
      · next hlooked =>
        obtain ⟨stage, hstage, hflag⟩ := List.any_eq_true.mp hlooked
        rw [if_pos (List.any_eq_true.mpr ⟨stage, h hstage, hflag⟩)]
        exact ha
      · cases ha
    · exact List.mem_append_right _ ha

namespace PollRun

variable {s s' : PollRun}

/-- After the last look at an item comes the next item. -/
theorem looks_succ (s : PollRun) (i : Nat) :
    s.looks (i + 1) PollStage.read.onward ⊆ s.looks i PollStage.err.later := by
  unfold looks
  cases hitems : s.loop.pollArray.drop i with
  | nil =>
    have hlen := List.drop_eq_nil_iff.mp hitems
    rw [List.drop_eq_nil_iff.mpr (by omega)]
    exact List.Subset.refl _
  | cons item rest =>
    rw [← List.tail_drop, hitems, List.tail_cons, PollItem.lookedFrom_all]
    exact List.subset_append_right _ _

theorem looks_subset (s : PollRun) (i : Nat) (stages : List PollStage) :
    s.looks i stages ⊆ s.userData := by
  unfold looks userData
  apply List.Subset.trans (PollItem.lookedFrom_subset_userData stages _)
  exact ((List.drop_sublist i _).map _).subset

/-- What a look follows is held. -/
theorem mem_looks {i : Nat} {item : PollItem} (h : s.loop.pollArray[i]? = some item)
    {stage : PollStage} (hflag : item.flagged stage = true) :
    item.userData ∈ s.looks i stage.onward := by
  unfold looks
  obtain ⟨hlt, hitem⟩ := List.getElem?_eq_some_iff.mp h
  rw [List.drop_eq_getElem_cons hlt, hitem, PollItem.lookedFrom]
  have hlooked : item.looked stage.onward = true := by
    apply List.any_eq_true.mpr
    exact ⟨stage, by cases stage <;> simp [PollStage.onward], hflag⟩
  rw [if_pos hlooked]
  exact List.mem_append_left _ List.mem_cons_self

/-- Going on to the next look. -/
theorem afterStage_held (i : Nat) (stage : PollStage) :
    (s.afterStage i stage).fdHeld ⊆ s.looks i stage.later := by
  cases stage with
  | read => exact List.Subset.refl _
  | write => exact List.Subset.refl _
  | err => exact s.looks_succ i

theorem Sound.afterStage (hdistinct : s.loop.Distinct) {i : Nat} {stage : PollStage}
    (hheld : ∀ a ∈ s.looks i stage.later, a ∈ s.loop.fdAddrs) :
    (s.afterStage i stage).Sound := by
  have hsub := s.afterStage_held i stage
  refine .of_fdHeld ?_ ?_ ?_ ?_
  · cases stage <;> exact hdistinct
  · intro a ha
    have hmem := hheld a (hsub ha)
    cases stage <;> exact hmem
  · cases stage <;> rfl
  · cases stage <;> simp [PollRun.afterStage]

theorem onward_subset_later (stage : PollStage) : stage.later ⊆ stage.onward := by
  cases stage <;> simp [PollStage.later, PollStage.onward]

/-! ### The machine -/

/-- `pr_poll_loop_exec` follows live pointers only, and the pointers it takes from the lists are
    live. -/
theorem Sound.advance (h : s.Sound) {added : Bool} (hstep : s.advance added = some s') :
    s'.Sound := by
  unfold PollRun.advance at hstep
  have hfd := h.fd
  have hpre := h.prePoll
  unfold fdHeld at hfd
  unfold prePollHeld at hpre
  cases hphase : s.phase with
  | prePoll entry =>
    simp only [hphase] at hstep hfd hpre
    cases entry with
    | none =>
      cases hstep
      refine .of_fdHeld h.distinct ?_ rfl (by simp)
      intro a ha
      rcases List.mem_append.mp ha with ha | ha
      · exact List.mem_of_mem_head? (Option.mem_toList.mp ha)
      · exact hfd a ha
    | some addr =>
      simp only at hstep
      cases hentry : s.loop.prePollEntry addr with
      | none =>
        -- the pointer is live
        have hlive := (PollLoop.prePollEntry_isSome addr).mpr (hpre addr (by simp))
        rw [hentry] at hlive
        cases hlive
      | some entry =>
        have hnext : ∀ a ∈ (Tailq.next s.loop.prePollAddrs addr).toList,
            a ∈ s.loop.prePollAddrs := fun a ha => Tailq.mem_of_next (Option.mem_toList.mp ha)
        simp only [hentry] at hstep
        split at hstep
        · cases hstep
          exact ⟨h.distinct, hfd, hnext, by simp⟩
        · cases hstep
          exact ⟨h.distinct, hfd, hnext, by simp⟩
  | fill fdEntry =>
    simp only [hphase] at hstep hfd
    cases fdEntry with
    | none =>
      cases hstep
      exact .of_fdHeld h.distinct hfd rfl (by simp)
    | some addr =>
      have hlive : addr ∈ s.loop.fdAddrs := hfd addr (by simp)
      simp only at hstep
      cases hentry : s.loop.fdEntry addr with
      | none =>
        have hsome := (PollLoop.fdEntry_isSome addr).mpr hlive
        rw [hentry] at hsome
        cases hsome
      | some entry =>
        have hheld : ∀ a ∈ (Tailq.next s.loop.fdAddrs addr).toList ++ s.userData,
            a ∈ s.loop.fdAddrs := by
          intro a ha
          rcases List.mem_append.mp ha with ha | ha
          · exact Tailq.mem_of_next (Option.mem_toList.mp ha)
          · exact hfd a (List.mem_append_right _ ha)
        simp only [hentry] at hstep
        split at hstep
        · cases hstep
          exact .of_fdHeld h.distinct hheld rfl (by simp)
        · cases hstep
          exact (Sound.filled_iff h.distinct addr 0 entry.events added hheld).mpr fun _ => hlive
  | dispatch i stage =>
    simp only [hphase] at hstep hfd
    have hlater : ∀ a ∈ s.looks i stage.later, a ∈ s.loop.fdAddrs := by
      intro a ha
      exact hfd a (PollItem.lookedFrom_subset (onward_subset_later stage) _ ha)
    cases hitem : s.loop.pollArray[i]? with
    | none =>
      simp only [hitem] at hstep
      cases hstep
      exact .of_nothing_held h.distinct rfl rfl (by simp)
    | some item =>
      simp only [hitem] at hstep
      split at hstep
      · next hflag =>
        have hlive := hfd item.userData (mem_looks hitem hflag)
        cases hentry : s.loop.fdEntry item.userData with
        | none =>
          have hsome := (PollLoop.fdEntry_isSome item.userData).mpr hlive
          rw [hentry] at hsome
          cases hsome
        | some entry =>
          simp only [hentry] at hstep
          split at hstep
          · cases hstep
            exact .of_fdHeld h.distinct hlater rfl (by simp)
          · cases hstep
            exact .afterStage h.distinct hlater
      · cases hstep
        exact .afterStage h.distinct hlater
  | idle _ | prePollCb _ _ | setEvents _ _ | polling | callback _ _ | expiring | freed =>
    simp only [hphase] at hstep
    cases hstep

/-- The return of a callback is sound exactly if it does not add an entry that was deleted. -/
theorem Sound.returned_iff (h : s.Sound) {res : Int} {events : UInt16} {added : Bool}
    (hstep : s.returned res events added = some s') :
    s'.Sound ↔ s.careful (.returned res events added) = true := by
  unfold PollRun.returned at hstep
  have hfd := h.fd
  have hpre := h.prePoll
  unfold fdHeld at hfd
  unfold prePollHeld at hpre
  cases hphase : s.phase with
  | prePollCb entry next =>
    simp only [hphase] at hstep hfd hpre
    refine iff_of_true ?_ (by simp [careful, hphase])
    split at hstep
    · cases hstep
      exact ⟨h.distinct, hfd, hpre, by simp⟩
    · split at hstep
      · cases hstep
        exact .idle h.distinct _
      · cases hstep
        exact .idle h.distinct _
  | setEvents addr next =>
    simp only [hphase] at hstep hfd
    cases hstep
    rw [Sound.filled_iff h.distinct addr res events added hfd]
    simp only [careful, hphase, Bool.or_eq_true, Bool.not_eq_true', decide_eq_true_eq]
    cases pollAdds res events added <;> simp
  | callback i stage =>
    simp only [hphase] at hstep hfd
    refine iff_of_true ?_ (by simp [careful, hphase])
    split at hstep
    · cases hstep
      exact .idle h.distinct _
    · cases hstep
      exact .afterStage h.distinct hfd
  | idle _ | prePoll _ | fill _ | polling | dispatch _ _ | expiring | freed =>
    simp only [hphase] at hstep
    cases hstep

/-- `PR_Poll` only writes to `out_flags`. -/
theorem polled_userData (outFlags : Nat → UInt16) (items : List PollItem) :
    (items.mapIdx fun i item => { item with outFlags := outFlags i }).map PollItem.userData =
      items.map PollItem.userData := by
  apply List.ext_getElem?
  intro i
  rw [List.getElem?_map, List.getElem?_map, List.getElem?_mapIdx]
  cases items[i]? <;> rfl

/-- One event keeps the pointers sound exactly if it is careful. -/
theorem Sound.step_iff (h : s.Sound) {event : PollEvent} (hstep : s.step event = some s') :
    s'.Sound ↔ s.careful event = true := by
  cases event with
  | exec =>
    refine iff_of_true ?_ rfl
    cases hphase : s.phase with
    | idle res =>
      simp only [PollRun.step, hphase, Option.some.injEq] at hstep
      subst hstep
      refine ⟨h.distinct.withArray [], ?_, ?_, by simp⟩
      · intro a ha
        exact absurd ha List.not_mem_nil
      · intro a ha
        exact List.mem_of_mem_head? (Option.mem_toList.mp ha)
    | prePoll _ | prePollCb _ _ | fill _ | setEvents _ _ | polling | dispatch _ _ | callback _ _
    | expiring | freed =>
      simp only [PollRun.step, hphase] at hstep
      cases hstep
  | advance added => exact iff_of_true (h.advance hstep) rfl
  | call op =>
    change (if s.calling = true then some { s with loop := op.apply s.loop } else none) =
      some s' at hstep
    split at hstep
    · cases hstep
      exact h.call_iff op
    · cases hstep
  | returned res events added => exact h.returned_iff hstep
  | polled res outFlags =>
    refine iff_of_true ?_ rfl
    simp only [PollRun.step] at hstep
    split at hstep
    · next hpolling =>
      -- `PR_Poll` only writes flags; the pointers of the array are those that were put there.
      have hfd := h.fd
      rw [fdHeld, hpolling] at hfd
      split at hstep
      · cases hstep
        refine .of_fdHeld (h.distinct.withArray _) ?_ rfl (by simp)
        intro a ha
        have hmem := looks_subset _ 0 _ ha
        refine hfd a ?_
        unfold userData at hmem ⊢
        rw [← polled_userData outFlags]
        exact hmem
      · split at hstep
        · cases hstep
          exact .idle h.distinct _
        · cases hstep
          exact .of_nothing_held h.distinct rfl rfl (by simp)
    · cases hstep
  | expired =>
    refine iff_of_true ?_ rfl
    simp only [PollRun.step] at hstep
    split at hstep
    · cases hstep
      exact .idle h.distinct _
    · cases hstep

end PollRun

/-! ### Whole runs -/

theorem sound_init : ({} : PollRun).Sound :=
  .of_nothing_held ⟨.nil, .nil, fun _ hno => absurd hno List.not_mem_nil,
    fun _ hno => absurd hno List.not_mem_nil⟩ rfl rfl (by simp)

/-- **No dangling pointer**: whatever callbacks there are and whatever they do, in every state of a
    run the poll loop has read no entry that was freed and holds no pointer to one, if and only if
    no callback deletes an entry that is held, and none that deletes its own entry asks for events
    of it. -/
theorem pollLoop_sound_iff (events : List PollEvent) :
    (∀ n s, pollMachine.exec pollMachine.init (events.take n) = some s → s.Sound) ↔
      pollMachine.AllSteps PollRun.careful pollMachine.init events :=
  Runs.Machine.forall_prefix_iff (fun h hstep => h.step_iff hstep) sound_init events

end Qdevice
