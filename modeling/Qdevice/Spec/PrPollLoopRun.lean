import Qdevice.Spec.PrPollLoopHeld

/-! # What the poll loop polls and calls

The callbacks of `corosync-qnetd` and `corosync-qdevice` delete entries in a few ways only: a callback
that sets the events of an entry deletes that entry or nothing, and returns something else than 0 if
it does; a callback for a ready descriptor deletes its own entry, if it is not the one for reading,
or an entry that it has added; and the pre poll callbacks are not deleted by one of them.  `Disciplined`
says so.  Then nothing freed is read, the array for `PR_Poll` is what the entries have asked for, and
after `PR_Poll` each callback is called that has to be, in order and once. -/

namespace Qdevice

/-- The entries of `pre`, and only they and entries that are gone, have answered, in their order, and
    the array is what they have asked for. -/
structure PollLoop.Asked (loop : PollLoop) (answers : List PollAnswer) (pre : List Nat) : Prop where
  inOrder : pre.Sublist (answers.map PollAnswer.addr)
  once : (answers.map PollAnswer.addr).Nodup
  only : ∀ answer ∈ answers, answer.addr ∈ pre ∨ answer.addr ∉ loop.fdAddrs
  array : loop.pollArray.map (fun item => (item.userData, item.inFlags)) =
    (answers.filter PollAnswer.wanted).map fun answer =>
      (answer.addr, pollEventsToPrEvents answer.events)
  /-- An entry without a callback for its events asks for the events that it was added with. -/
  plain : ∀ answer ∈ answers, ∀ entry ∈ loop.fdEntry answer.addr, entry.setEventsCb = false →
    answer.res = 0 ∧ answer.events = entry.events
  descriptor : ∀ item ∈ loop.pollArray, ∀ entry ∈ loop.fdEntry item.userData,
    item.fd = entry.pollFd

namespace PollRun

/-- An entry that a callback may delete. -/
def mayDelete (s : PollRun) (addr : Nat) : Bool :=
  match s.phase with
  | .setEvents own _ => addr == own
  | .callback i stage =>
    !s.userData.contains addr ||
      (decide (stage ≠ .read) && (s.loop.pollArray[i]?).any fun item => item.userData == addr)
  | _ => true

/-- The entry whose callback for its events runs. -/
def settingEvents (s : PollRun) : Option Nat :=
  match s.phase with
  | .setEvents own _ => some own
  | _ => none

/-- A pre poll callback runs. -/
def inPrePollCb (s : PollRun) : Bool :=
  match s.phase with
  | .prePollCb _ _ => true
  | _ => false

/-- What the callbacks do. -/
def Disciplined (s : PollRun) : PollEvent → Prop
  | .call (.addFd ..) => s.settingEvents = none
  | .call (.delFd fd) => ∀ entry ∈ s.loop.findByFd fd, s.mayDelete entry.addr = true
  | .call (.delPrePollCb _) => s.inPrePollCb = false
  | .returned res _ _ => ∀ own ∈ s.settingEvents, own ∉ s.loop.fdAddrs → res ≠ 0
  | _ => True

/-- Where `pr_poll_loop_exec` is, as far as the lists go. -/
def Position (s : PollRun) : Prop :=
  match s.phase with
  | .prePoll _ | .prePollCb _ _ => s.loop.pollArray = [] ∧ s.answers = [] ∧ s.calls = []
  | .fill cur => (∃ pre, Tailq.At s.loop.fdAddrs pre cur ∧ s.loop.Asked s.answers pre) ∧ s.calls = []
  | .setEvents own next =>
    (∃ pre post, next = post.head? ∧ s.loop.Asked s.answers pre ∧
      own ∉ s.answers.map PollAnswer.addr ∧ own ∉ pre ++ post ∧ (∀ entry ∈ s.loop.fdEntry own, entry.setEventsCb = true) ∧
      (s.loop.fdAddrs = pre ++ own :: post ∨ s.loop.fdAddrs = pre ++ post)) ∧ s.calls = []
  | .polling => s.loop.Asked s.answers s.loop.fdAddrs ∧ s.calls = []
  | .dispatch _ _ => s.userData.Nodup
  | .callback i stage =>
    s.userData.Nodup ∧ (s.loop.pollArray[i]?).any (fun item => item.flagged stage) = true
  | .idle _ | .expiring | .freed => True

end PollRun

/-! ### Entries do not change -/

namespace PollLoop

variable {loop : PollLoop}

theorem fdEntry_eq_some (h : loop.Distinct) {a : Nat} {entry : PollFdEntry} :
    loop.fdEntry a = some entry ↔ entry ∈ loop.fdList ∧ entry.addr = a := by
  constructor
  · intro hentry
    exact ⟨List.mem_of_find?_eq_some hentry, addr_of_fdEntry hentry⟩
  · rintro ⟨hmem, rfl⟩
    have hlive : entry.addr ∈ loop.fdAddrs := List.mem_map_of_mem hmem
    obtain ⟨entry', hentry'⟩ := Option.isSome_iff_exists.mp ((fdEntry_isSome _).mpr hlive)
    have hmem' := List.mem_of_find?_eq_some hentry'
    have heq := List.inj_on_of_nodup_map h.fdAddrs hmem' hmem (addr_of_fdEntry hentry')
    rw [hentry', heq]

/-- An entry that is there after a call was there before, or it is new. -/
theorem mem_of_mem_apply {op : PollOp} {entry : PollFdEntry}
    (h : entry ∈ (op.apply loop).fdList) : entry ∈ loop.fdList ∨ entry.addr = loop.entryCount := by
  cases op with
  | addFd alloc fd events cb₁ cb₂ cb₃ cb₄ =>
    change entry ∈ (loop.addFdInt alloc fd events cb₁ cb₂ cb₃ cb₄).1.fdList at h
    unfold addFdInt at h
    split at h
    · exact .inl h
    · split at h
      · exact .inl h
      · split at h
        · exact .inl h
        · rcases List.mem_append.mp h with h | h
          · exact .inl h
          · rw [List.mem_singleton.mp h]
            exact .inr rfl
  | delFd fd =>
    change entry ∈ (loop.delFdInt fd).1.fdList at h
    unfold delFdInt at h
    cases hfound : loop.findByFd fd with
    | none =>
      rw [hfound] at h
      exact .inl h
    | some found =>
      rw [hfound] at h
      exact .inl (List.mem_of_mem_erase h)
  | addPrePollCb alloc cb =>
    change entry ∈ (loop.addPrePollCb alloc cb).1.fdList at h
    unfold addPrePollCb at h
    split at h
    · exact .inl h
    · split at h
      · exact .inl h
      · exact .inl h
  | delPrePollCb cb =>
    change entry ∈ (loop.delPrePollCb cb).1.fdList at h
    unfold delPrePollCb at h
    cases hfound : loop.findPrePollCb cb with
    | none =>
      rw [hfound] at h
      exact .inl h
    | some found =>
      rw [hfound] at h
      exact .inl h

/-- An address that is not new leads to what it led to before a call, if to anything. -/
theorem fdEntry_of_apply (h : loop.Distinct) (op : PollOp) {a : Nat} (ha : a < loop.entryCount)
    {entry : PollFdEntry} (hentry : (op.apply loop).fdEntry a = some entry) :
    loop.fdEntry a = some entry := by
  have hdistinct := (apply_changed h op).distinct h
  obtain ⟨hmem, haddr⟩ := (fdEntry_eq_some hdistinct).mp hentry
  rcases mem_of_mem_apply hmem with hmem | hnew
  · exact (fdEntry_eq_some h).mpr ⟨hmem, haddr⟩
  · omega

/-- Addresses are not used again. -/
theorem le_entryCount_apply (h : loop.Distinct) (op : PollOp) :
    loop.entryCount ≤ (op.apply loop).entryCount := by
  cases apply_changed h op with
  | same hsame _ _ => rw [hsame]
  | addFd _ _ hcount => omega
  | delFd _ _ _ hcount => omega
  | addPrePollCb _ _ hcount => omega
  | delPrePollCb _ _ _ hcount => omega

/-- If a call adds nothing, every address leads to what it led to before, if to anything. -/
theorem fdEntry_of_subset (h : loop.Distinct) {op : PollOp}
    (hsub : ∀ a ∈ (op.apply loop).fdAddrs, a ∈ loop.fdAddrs) {a : Nat} {entry : PollFdEntry}
    (hentry : (op.apply loop).fdEntry a = some entry) : loop.fdEntry a = some entry := by
  have hlive : a ∈ (op.apply loop).fdAddrs := by
    rw [← fdEntry_isSome, hentry]
    rfl
  exact fdEntry_of_apply h op (h.fdFresh a (hsub a hlive)) hentry

end PollLoop

/-! ### Asking for events -/

namespace PollLoop

variable {loop loop' : PollLoop} {answers answers' : List PollAnswer} {pre : List Nat}

theorem asked_nil (harray : loop.pollArray = []) (hanswers : answers = []) :
    loop.Asked answers [] where
  inOrder := List.nil_sublist _
  once := by
    rw [hanswers]
    exact .nil
  only answer hanswer := by
    rw [hanswers] at hanswer
    cases hanswer
  array := by
    rw [harray, hanswers]
    rfl
  plain answer hanswer := by
    rw [hanswers] at hanswer
    cases hanswer
  descriptor item hitem := by
    rw [harray] at hitem
    cases hitem

/-- Entries that are deleted do not matter to those that have answered. -/
theorem Asked.call (h : loop.Asked answers pre) (hdistinct : loop.Distinct) {op : PollOp}
    (hsub : ∀ a ∈ (op.apply loop).fdAddrs, a ∈ loop.fdAddrs) : (op.apply loop).Asked answers pre := by
  refine ⟨h.inOrder, h.once, ?_, ?_, ?_, ?_⟩
  · intro answer hanswer
    exact (h.only answer hanswer).imp_right fun hgone hlive => hgone (hsub _ hlive)
  · rw [PollLoop.apply_pollArray]
    exact h.array
  · intro answer hanswer entry hentry
    exact h.plain answer hanswer entry (fdEntry_of_subset hdistinct hsub hentry)
  · intro item hitem entry hentry
    rw [PollLoop.apply_pollArray] at hitem
    exact h.descriptor item hitem entry (fdEntry_of_subset hdistinct hsub hentry)

/-- An entry has answered.  Its own callback may have deleted it. -/
theorem Asked.answered (h : loop.Asked answers pre) {answer : PollAnswer}
    (hown : answer.addr ∉ answers.map PollAnswer.addr)
    (hplain : ∀ entry ∈ loop.fdEntry answer.addr, entry.setEventsCb = false →
      answer.res = 0 ∧ answer.events = entry.events)
    {pre' : List Nat}
    (hpre' : pre' = pre ++ [answer.addr] ∨ pre' = pre ∧ answer.addr ∉ loop.fdAddrs)
    (hanswers : answers' = answers ++ [answer]) (hlist : loop'.fdList = loop.fdList)
    {items : List PollItem} (harray : loop'.pollArray = loop.pollArray ++ items)
    (hitems : items.map (fun item => (item.userData, item.inFlags)) =
      ([answer].filter PollAnswer.wanted).map fun answer =>
        (answer.addr, pollEventsToPrEvents answer.events))
    (hdescriptor : ∀ item ∈ items, ∀ entry ∈ loop.fdEntry item.userData,
      item.fd = entry.pollFd) : loop'.Asked answers' pre' := by
  have hentry (a : Nat) : loop'.fdEntry a = loop.fdEntry a := by
    unfold PollLoop.fdEntry
    rw [hlist]
  have haddrs : loop'.fdAddrs = loop.fdAddrs := by
    unfold PollLoop.fdAddrs
    rw [hlist]
  refine ⟨?_, ?_, ?_, ?_, ?_, ?_⟩
  · rw [hanswers, List.map_append]
    rcases hpre' with rfl | ⟨rfl, -⟩
    · exact h.inOrder.append (List.Sublist.refl _)
    · exact h.inOrder.trans (List.sublist_append_left _ _)
  · rw [hanswers, List.map_append, List.map_singleton, ← List.concat_eq_append,
      List.nodup_concat]
    exact ⟨hown, h.once⟩
  · rw [hanswers, haddrs]
    intro answer' hanswer'
    rcases List.mem_append.mp hanswer' with hanswer' | hanswer'
    · refine (h.only answer' hanswer').imp_left fun hpre => ?_
      rcases hpre' with rfl | ⟨rfl, -⟩
      · exact List.mem_append_left _ hpre
      · exact hpre
    · rw [List.mem_singleton.mp hanswer']
      rcases hpre' with rfl | ⟨rfl, hgone⟩
      · exact .inl (by simp)
      · exact .inr hgone
  · rw [harray, hanswers, List.map_append, List.filter_append, List.map_append, h.array, hitems]
  · rw [hanswers]
    intro answer' hanswer' entry hentry'
    rw [hentry] at hentry'
    rcases List.mem_append.mp hanswer' with hanswer' | hanswer'
    · exact h.plain answer' hanswer' entry hentry'
    · rw [List.mem_singleton.mp hanswer'] at hentry' ⊢
      exact hplain entry hentry'
  · rw [harray]
    intro item hitem entry hentry'
    rw [hentry] at hentry'
    rcases List.mem_append.mp hitem with hitem | hitem
    · exact h.descriptor item hitem entry hentry'
    · exact hdescriptor item hitem entry hentry'

/-- What is in the array has answered. -/
theorem Asked.userData_eq (h : loop.Asked answers pre) :
    loop.pollArray.map PollItem.userData =
      (answers.filter PollAnswer.wanted).map PollAnswer.addr := by
  have hmap := congrArg (List.map Prod.fst) h.array
  rw [List.map_map, List.map_map] at hmap
  exact hmap

theorem Asked.userData_subset (h : loop.Asked answers pre) :
    loop.pollArray.map PollItem.userData ⊆ answers.map PollAnswer.addr := by
  rw [h.userData_eq]
  exact List.map_subset _ (List.filter_subset_self _)

theorem Asked.userData_nodup (h : loop.Asked answers pre) :
    (loop.pollArray.map PollItem.userData).Nodup := by
  rw [h.userData_eq]
  exact h.once.sublist (List.filter_sublist.map _)

end PollLoop

namespace PollRun

variable {s s' : PollRun} {pre post : List Nat} {own : Nat} {next : Option Nat}

/-- After an entry has answered, the walk goes on. -/
theorem position_filled (h : s.loop.Asked s.answers pre) (hcalls : s.calls = [])
    (hown : own ∉ s.answers.map PollAnswer.addr) {res : Int} {events : UInt16}
    (hlist : s.loop.fdAddrs = pre ++ own :: post ∨
      s.loop.fdAddrs = pre ++ post ∧ own ∉ pre ++ post ∧ res ≠ 0)
    (hplain : ∀ entry ∈ s.loop.fdEntry own, entry.setEventsCb = false →
      res = 0 ∧ events = entry.events) (added : Bool) :
    (s.filled own post.head? res events added).Position := by
  have hcases := s.filled_cases own post.head? res events added
  let answer : PollAnswer := ⟨own, res, events⟩
  have hnew : answer.addr ∉ s.answers.map PollAnswer.addr := hown
  generalize s.filled own post.head? res events added = s₁ at *
  generalize pollAdds res events added = adds at *
  cases hcases with
  | error r hr => trivial
  | skipped hno =>
    refine ⟨?_, hcalls⟩
    have hanswered {pre' : List Nat}
        (hpre' : pre' = pre ++ [own] ∨ pre' = pre ∧ own ∉ s.loop.fdAddrs) :
        s.loop.Asked (s.answers ++ [answer]) pre' :=
      h.answered hnew hplain hpre' rfl rfl (List.append_nil _).symm (by simp [answer, hno])
        fun _ hno => absurd hno List.not_mem_nil
    rcases hlist with hlist | ⟨hlist, hgone, -⟩
    · exact ⟨pre ++ [own], ⟨post, hlist.trans (by simp), rfl⟩, hanswered (.inl rfl)⟩
    · exact ⟨pre, ⟨post, hlist, rfl⟩, hanswered (.inr ⟨rfl, hlist ▸ hgone⟩)⟩
  | freed hfreed => trivial
  | @added entry hwanted hentry =>
    refine ⟨?_, hcalls⟩
    have haddr := PollLoop.addr_of_fdEntry hentry
    subst haddr
    rcases hlist with hlist | ⟨-, -, hres⟩
    · refine ⟨pre ++ [entry.addr], ⟨post, hlist.trans (by simp), rfl⟩, ?_⟩
      refine h.answered hnew hplain (.inl rfl) rfl rfl rfl ?_ ?_
      · simp [answer, hwanted]
      · intro item hitem entry' hentry'
        rw [List.mem_singleton.mp hitem] at hentry' ⊢
        rw [hentry] at hentry'
        cases hentry'
        rfl
    · simp [PollAnswer.wanted, hres] at hwanted

/-! ### The machine -/

/-- A call of a disciplined callback. -/
theorem position_call (h : s.Sound) (hp : s.Position) {op : PollOp}
    (hok : s.Disciplined (.call op)) (hcalling : s.calling = true) :
    Position { s with loop := op.apply s.loop } := by
  have hchanged := PollLoop.apply_changed h.distinct op
  unfold Position at hp ⊢
  unfold PollRun.calling at hcalling
  cases hphase : s.phase with
  | idle res => trivial
  | prePollCb entry next =>
    simp only [hphase] at hp ⊢
    rw [PollLoop.apply_pollArray]
    exact hp
  | setEvents own next =>
    simp only [hphase] at hp ⊢
    obtain ⟨⟨pre, post, hnext, hasked, hnew, hown, hcb, hlist⟩, hcalls⟩ := hp
    have herased : (op.apply s.loop).fdAddrs = s.loop.fdAddrs ∨
        (op.apply s.loop).fdAddrs = s.loop.fdAddrs.erase own := by
      cases hchanged with
      | same hsame _ _ => exact .inl (congrArg PollLoop.fdAddrs hsame)
      | addFd _ _ _ =>
        have hnone : s.settingEvents = none := hok
        simp only [settingEvents, hphase, reduceCtorEq] at hnone
      | delFd hfound hfd _ _ =>
        have hmay := hok _ hfound
        simp only [mayDelete, hphase, beq_iff_eq] at hmay
        exact .inr (by rw [hfd, hmay])
      | addPrePollCb hfd _ _ => exact .inl hfd
      | delPrePollCb _ hfd _ _ => exact .inl hfd
    have hsub : ∀ a ∈ (op.apply s.loop).fdAddrs, a ∈ s.loop.fdAddrs := by
      intro a ha
      rcases herased with hsame | herased
      · exact hsame ▸ ha
      · rw [herased] at ha
        exact List.mem_of_mem_erase ha
    refine ⟨⟨pre, post, hnext, hasked.call h.distinct hsub, hnew, hown, ?_, ?_⟩, hcalls⟩
    · intro entry hentry
      exact hcb entry (PollLoop.fdEntry_of_subset h.distinct hsub hentry)
    · rcases herased with hsame | herased
      · rw [hsame]
        exact hlist
      · rw [herased]
        refine .inr ?_
        rcases hlist with hlist | hlist
        · rw [hlist, List.erase_append_right _ fun hmem => hown (List.mem_append_left _ hmem),
            List.erase_cons_head]
        · rw [hlist, List.erase_of_not_mem hown]
  | callback i stage =>
    simp only [hphase] at hp ⊢
    unfold userData at hp ⊢
    rw [PollLoop.apply_pollArray]
    exact hp
  | expiring => trivial
  | prePoll _ | fill _ | polling | dispatch _ _ | freed =>
    simp only [hphase] at hcalling
    cases hcalling

/-- `pr_poll_loop_exec` goes on. -/
theorem position_advance (h : s.Sound) (hp : s.Position) {added : Bool}
    (hstep : s.advance added = some s') : s'.Position := by
  unfold PollRun.advance at hstep
  unfold Position at hp
  cases hphase : s.phase with
  | prePoll entry =>
    simp only [hphase] at hstep hp
    obtain ⟨harray, hanswers, hcalls⟩ := hp
    cases entry with
    | none =>
      cases hstep
      exact ⟨⟨[], Tailq.At.start _, PollLoop.asked_nil harray hanswers⟩, hcalls⟩
    | some addr =>
      simp only at hstep
      cases hentry : s.loop.prePollEntry addr with
      | none =>
        simp only [hentry] at hstep
        cases hstep
        trivial
      | some entry =>
        simp only [hentry] at hstep
        split at hstep
        · cases hstep
          exact ⟨harray, hanswers, hcalls⟩
        · cases hstep
          exact ⟨harray, hanswers, hcalls⟩
  | fill fdEntry =>
    simp only [hphase] at hstep hp
    obtain ⟨⟨pre, hat, hasked⟩, hcalls⟩ := hp
    cases fdEntry with
    | none =>
      cases hstep
      obtain rfl := hat.finished
      exact ⟨hasked, hcalls⟩
    | some addr =>
      simp only at hstep
      cases hentry : s.loop.fdEntry addr with
      | none =>
        simp only [hentry] at hstep
        cases hstep
        trivial
      | some entry =>
        simp only [hentry] at hstep
        -- The entry stands behind those that were asked, and before those that were not.
        obtain ⟨post, hlist, hhead⟩ := hat.split
        obtain ⟨post, rfl⟩ := List.head?_eq_some_iff.mp hhead.symm
        have hnodup := h.distinct.fdAddrs
        rw [hlist] at hnodup
        have hpre : addr ∉ pre := by
          intro hmem
          exact List.disjoint_of_nodup_append hnodup hmem List.mem_cons_self
        have hpost : addr ∉ post :=
          (List.nodup_cons.mp (List.nodup_append.mp hnodup).2.1).1
        have hnext : Tailq.next s.loop.fdAddrs addr = post.head? := by
          rw [hlist]
          exact Tailq.next_append pre post hpre
        have hown : addr ∉ s.answers.map PollAnswer.addr := by
          intro hmem
          obtain ⟨answer, hanswer, rfl⟩ := List.mem_map.mp hmem
          rcases hasked.only answer hanswer with hmem | hgone
          · exact hpre hmem
          · exact hgone (by rw [hlist]; simp)
        rw [hnext] at hstep
        split at hstep
        · next hcb =>
          cases hstep
          refine ⟨⟨pre, post, rfl, hasked, hown, by simp [hpre, hpost], ?_, .inl hlist⟩, hcalls⟩
          intro entry' hentry'
          cases hentry.symm.trans hentry'
          exact hcb
        · cases hstep
          refine position_filled hasked hcalls hown (.inl hlist) ?_ added
          intro entry' hentry' _
          cases hentry.symm.trans hentry'
          exact ⟨rfl, rfl⟩
  | dispatch i stage =>
    simp only [hphase] at hstep hp
    -- A look that calls nothing leaves the calls as they are.
    have hafter : (s.afterStage i stage).Position := by
      cases stage <;> exact hp
    cases hitem : s.loop.pollArray[i]? with
    | none =>
      simp only [hitem] at hstep
      cases hstep
      trivial
    | some item =>
      simp only [hitem] at hstep
      split at hstep
      · next hflag =>
        cases hentry : s.loop.fdEntry item.userData with
        | none =>
          simp only [hentry] at hstep
          cases hstep
          trivial
        | some entry =>
          simp only [hentry] at hstep
          split at hstep
          · cases hstep
            refine ⟨hp, ?_⟩
            show (s.loop.pollArray[i]?).any _ = true
            rw [hitem]
            exact hflag
          · cases hstep
            exact hafter
      · cases hstep
        exact hafter
  | idle _ | prePollCb _ _ | setEvents _ _ | polling | callback _ _ | expiring | freed =>
    simp only [hphase] at hstep
    cases hstep

/-- A disciplined callback returns. -/
theorem position_returned (hp : s.Position) {res : Int} {events : UInt16} {added : Bool}
    (hok : s.Disciplined (.returned res events added))
    (hstep : s.returned res events added = some s') : s'.Position := by
  unfold PollRun.returned at hstep
  unfold Position at hp
  cases hphase : s.phase with
  | prePollCb entry next =>
    simp only [hphase] at hstep hp
    split at hstep
    · cases hstep
      exact hp
    · split at hstep
      · cases hstep
        trivial
      · cases hstep
        trivial
  | setEvents own next =>
    simp only [hphase] at hstep hp
    obtain ⟨⟨pre, post, rfl, hasked, hnew, hown, hcb, hlist⟩, hcalls⟩ := hp
    cases hstep
    refine position_filled hasked hcalls hnew ?_ ?_ added
    · refine hlist.imp_right fun hlist => ⟨hlist, hown, ?_⟩
      exact hok own (by rw [settingEvents, hphase]; rfl) (hlist ▸ hown)
    · intro entry hentry hnoCb
      rw [hcb entry hentry] at hnoCb
      cases hnoCb
  | callback i stage =>
    simp only [hphase] at hstep hp
    split at hstep
    · cases hstep
      trivial
    · cases hstep
      cases stage <;> exact hp.1
  | idle _ | prePoll _ | fill _ | polling | dispatch _ _ | expiring | freed =>
    simp only [hphase] at hstep
    cases hstep

theorem position_step (h : s.Sound) (hp : s.Position) {event : PollEvent}
    (hok : s.Disciplined event) (hstep : s.step event = some s') : s'.Position := by
  cases event with
  | exec =>
    cases hphase : s.phase with
    | idle res =>
      simp only [PollRun.step, hphase, Option.some.injEq] at hstep
      subst hstep
      exact ⟨rfl, rfl, rfl⟩
    | prePoll _ | prePollCb _ _ | fill _ | setEvents _ _ | polling | dispatch _ _ | callback _ _
    | expiring | freed =>
      simp only [PollRun.step, hphase] at hstep
      cases hstep
  | advance added => exact position_advance h hp hstep
  | call op =>
    change (if s.calling = true then some { s with loop := op.apply s.loop } else none) =
      some s' at hstep
    split at hstep
    · next hcalling =>
      cases hstep
      exact position_call h hp hok hcalling
    · cases hstep
  | returned res events added => exact position_returned hp hok hstep
  | polled res outFlags =>
    simp only [PollRun.step] at hstep
    split at hstep
    · next hpolling =>
      unfold Position at hp
      simp only [hpolling] at hp
      split at hstep
      · cases hstep
        show (List.map _ (List.mapIdx _ _)).Nodup
        rw [polled_userData]
        exact hp.1.userData_nodup
      · split at hstep
        · cases hstep
          trivial
        · cases hstep
          trivial
    · cases hstep
  | expired =>
    simp only [PollRun.step] at hstep
    split at hstep
    · cases hstep
      trivial
    · cases hstep

/-! ### Discipline -/

end PollRun

/-- An item that is ready for writing is not looked at for errors. -/
theorem PollItem.not_flagged_err {item : PollItem} (h : item.flagged .write = true) :
    item.flagged .err = false := by
  simp only [PollItem.flagged, decide_eq_true_eq] at h
  have hboth : item.outFlags &&& (prPollRead ||| prPollWrite) ≠ 0 := by
    intro hzero
    apply h
    have hmask : prPollWrite = (prPollRead ||| prPollWrite) &&& prPollWrite := by decide
    rw [hmask, ← UInt16.and_assoc, hzero, UInt16.zero_and]
  simp [PollItem.flagged, hboth]

namespace PollRun

variable {s s' : PollRun}

/-- After the call for writing or for errors, the entry is not followed again. -/
theorem notMem_looks_later (hnodup : s.userData.Nodup) {i : Nat} {item : PollItem}
    (hitem : s.loop.pollArray[i]? = some item) {stage : PollStage}
    (hflag : item.flagged stage = true) (hstage : stage ≠ .read) :
    item.userData ∉ s.looks i stage.later := by
  unfold looks
  unfold userData at hnodup
  obtain ⟨hlt, hget⟩ := List.getElem?_eq_some_iff.mp hitem
  have hdrop := List.drop_eq_getElem_cons hlt
  rw [hget] at hdrop
  have hrest : item.userData ∉ (s.loop.pollArray.drop (i + 1)).map PollItem.userData := by
    have hsub : ((s.loop.pollArray.drop i).map PollItem.userData).Nodup :=
      hnodup.sublist ((List.drop_sublist i _).map _)
    rw [hdrop, List.map_cons] at hsub
    exact (List.nodup_cons.mp hsub).1
  have hnot : item.looked stage.later = false := by
    cases stage with
    | read => exact absurd rfl hstage
    | write => simp [PollItem.looked, PollStage.later, PollItem.not_flagged_err hflag]
    | err => rfl
  rw [hdrop, PollItem.lookedFrom, hnot]
  intro hmem
  simp only [Bool.false_eq_true, if_false, List.nil_append] at hmem
  obtain ⟨item', hitem', heq⟩ := List.mem_map.mp hmem
  exact hrest (List.mem_map.mpr ⟨item', List.mem_of_mem_filter hitem', heq⟩)

/-- Disciplined callbacks are careful. -/
theorem careful_of_disciplined (hp : s.Position) {event : PollEvent}
    (hok : s.Disciplined event) (hstep : s.step event = some s') : s.careful event = true := by
  cases event with
  | exec => rfl
  | advance added => rfl
  | polled res outFlags => rfl
  | expired => rfl
  | returned res events added =>
    unfold careful
    cases hphase : s.phase with
    | setEvents own next =>
      simp only [Bool.or_eq_true, Bool.not_eq_true', decide_eq_true_eq]
      by_cases hlive : own ∈ s.loop.fdAddrs
      · exact .inr hlive
      · have hres := hok own (by rw [settingEvents, hphase]; rfl) hlive
        exact .inl (by simp [pollAdds, hres])
    | idle _ | prePoll _ | prePollCb _ _ | fill _ | polling | dispatch _ _ | callback _ _
    | expiring | freed => rfl
  | call op =>
    have hcalling : s.calling = true := by
      by_contra hno
      simp [PollRun.step, hno] at hstep
    cases op with
    | addFd _ _ _ _ _ _ _ => rfl
    | addPrePollCb _ _ => rfl
    | delFd fd =>
      rw [careful_delFd, Option.all_eq_true]
      intro entry hfound
      rw [decide_eq_true_iff]
      have hmay := hok entry hfound
      unfold mayDelete at hmay
      unfold Position at hp
      unfold fdHeld
      unfold calling at hcalling
      cases hphase : s.phase with
      | idle _ => exact List.not_mem_nil
      | expiring => exact List.not_mem_nil
      | prePollCb _ _ =>
        simp only [hphase] at hp
        simp [userData, hp.1]
      | setEvents own next =>
        simp only [hphase] at hp hmay
        obtain ⟨⟨pre, post, rfl, hasked, hnew, hown, -, -⟩, -⟩ := hp
        -- Its own entry is neither the saved next one nor in the array yet.
        rw [beq_iff_eq.mp hmay]
        simp only [List.mem_append, Option.mem_toList]
        rintro (hnext | hdata)
        · exact hown (List.mem_append_right _ (List.mem_of_mem_head? hnext))
        · exact hnew (hasked.userData_subset hdata)
      | callback i stage =>
        simp only [hphase] at hp hmay
        obtain ⟨hnodup, hflag⟩ := hp
        obtain ⟨item, hitem, hflag⟩ := (Option.any_eq_true _ _).mp hflag
        simp only [Bool.or_eq_true, Bool.not_eq_true', List.contains_eq_mem, decide_eq_false_iff_not,
          Bool.and_eq_true, decide_eq_true_eq] at hmay
        -- No later look is at an entry that is not in the array, nor at the own one behind its read
        -- callback.
        rcases hmay with hmay | ⟨hstage, hmay⟩
        · exact fun hmem => hmay (s.looks_subset i _ hmem)
        · rw [hitem, Option.any_some, beq_iff_eq] at hmay
          rw [← hmay]
          exact notMem_looks_later hnodup hitem hflag hstage
      | prePoll _ | fill _ | polling | dispatch _ _ | freed =>
        simp only [hphase] at hcalling
        cases hcalling
    | delPrePollCb cb =>
      rw [careful_delPrePollCb, Option.all_eq_true]
      intro entry hfound
      rw [decide_eq_true_iff]
      unfold prePollHeld
      unfold calling at hcalling
      cases hphase : s.phase with
      | prePollCb entry' next =>
        have hno : s.inPrePollCb = false := hok
        simp only [inPrePollCb, hphase, Bool.true_eq_false] at hno
      | idle _ | setEvents _ _ | callback _ _ | expiring => exact List.not_mem_nil
      | prePoll _ | fill _ | polling | dispatch _ _ | freed =>
        simp only [hphase] at hcalling
        cases hcalling

end PollRun

/-! ### Whole runs -/

theorem pollMachine_position {s : PollRun}
    (h : pollMachine.Reach (fun s event => s.Disciplined event) s) : s.Sound ∧ s.Position := by
  apply h.invariant fun s => s.Sound ∧ s.Position
  · exact ⟨sound_init, trivial⟩
  · rintro s s' event - ⟨hsound, hposition⟩ hok hstep
    have hcareful := PollRun.careful_of_disciplined hposition hok hstep
    exact ⟨(hsound.step_iff hstep).mpr hcareful, PollRun.position_step hsound hposition hok hstep⟩

instance (s : PollRun) (event : PollEvent) : Decidable (s.Disciplined event) :=
  match event with
  | .call (.addFd ..) => inferInstanceAs (Decidable (_ = none))
  | .call (.delFd _) => Option.decidableForallMem _
  | .call (.delPrePollCb _) => inferInstanceAs (Decidable (_ = false))
  | .returned _ _ _ => Option.decidableForallMem _
  | .call (.addPrePollCb _ _) | .exec | .advance _ | .polled _ _ | .expired => isTrue trivial

/-- A pre poll callback and three descriptors, of which the last one is deleted by its callback while
    the events are collected. -/
def pollThree : List PollEvent :=
  [.call (.addPrePollCb true (some 0)), .call (.addFd true (.fd 5) pollIn false true false true),
    .call (.addFd true (.prfd 1) pollIn true true true true),
    .call (.addFd true (.fd 7) 0 true true true true),
    .exec, .advance true, .returned 0 0 true, .advance true,
    .advance true, .advance true, .returned 0 (pollIn ||| pollOut) true,
    .advance true, .call (.delFd (.fd 7)), .returned (-1) 0 true, .advance true]

/-- The calls for an item in the given looks: those for which it is ready and has a callback. -/
def PollItem.wantedCalls (loop : PollLoop) (stages : List PollStage) (item : PollItem) :
    List PollCall :=
  (stages.filter fun stage =>
    item.flagged stage && (loop.fdEntry item.userData).any fun entry => entry.stageCb stage).map
      item.call

/-- The calls from the given looks at the first item on. -/
def PollItem.callsFrom (loop : PollLoop) (stages : List PollStage) : List PollItem → List PollCall
  | [] => []
  | item :: rest =>
    item.wantedCalls loop stages ++ rest.flatMap (wantedCalls loop PollStage.read.onward)

/-- The loop from a state on. -/
def pollMachineFrom (s : PollRun) : Runs.Machine PollRun PollEvent where
  init := s
  step := PollRun.step

/-- `pr_poll_loop_exec` is called. -/
def PollEvent.isExec : PollEvent → Bool
  | .exec => true
  | _ => false

/-- All the calls there are for the items. -/
def PollItem.allCalls (loop : PollLoop) (items : List PollItem) : List PollCall :=
  items.flatMap (wantedCalls loop PollStage.read.onward)

/-- What was called and what is to be called are together all there is to call. -/
def PollRun.Progress (loop : PollLoop) (items : List PollItem) (s : PollRun) : Prop :=
  match s.phase with
  | .dispatch i stage =>
    s.calls ++ PollItem.callsFrom loop stage.onward (items.drop i) = PollItem.allCalls loop items
  | .callback i stage =>
    s.calls ++ PollItem.callsFrom loop stage.later (items.drop i) = PollItem.allCalls loop items
  | .expiring => s.calls = PollItem.allCalls loop items
  | .idle res =>
    (res = 0 ∧ s.calls = PollItem.allCalls loop items) ∨
      (res = -1 ∧ s.calls <+: PollItem.allCalls loop items)
  | _ => False

/-- What is the case after `PR_Poll`, which has left `items` in the array, until
    `pr_poll_loop_exec` is called again. -/
structure PollRun.Dispatching (loop : PollLoop) (items : List PollItem) (s : PollRun) : Prop where
  sound : s.Sound
  position : s.Position
  array : s.loop.pollArray = items
  known : ∀ a ∈ items.map PollItem.userData, a < s.loop.entryCount
  entries : ∀ a ∈ items.map PollItem.userData, ∀ entry ∈ s.loop.fdEntry a,
    loop.fdEntry a = some entry
  progress : s.Progress loop items

section

variable {loop : PollLoop} {items : List PollItem} {s s' : PollRun}

theorem PollItem.callsFrom_all (items : List PollItem) :
    callsFrom loop PollStage.read.onward items = allCalls loop items := by
  cases items with
  | nil => rfl
  | cons item rest => rfl

/-- After the last look at an item comes the next one. -/
theorem PollItem.callsFrom_succ (items : List PollItem) (i : Nat) :
    callsFrom loop PollStage.err.later (items.drop i) =
      callsFrom loop PollStage.read.onward (items.drop (i + 1)) := by
  rw [callsFrom_all, ← List.tail_drop]
  cases items.drop i with
  | nil => rfl
  | cons item rest => rfl

/-- One look at an item. -/
theorem PollItem.callsFrom_look {i : Nat} {item : PollItem} (h : items[i]? = some item)
    (stage : PollStage) :
    callsFrom loop stage.onward (items.drop i) =
      item.wantedCalls loop [stage] ++ callsFrom loop stage.later (items.drop i) := by
  obtain ⟨hlt, hitem⟩ := List.getElem?_eq_some_iff.mp h
  rw [List.drop_eq_getElem_cons hlt, hitem]
  have honward : stage.onward = [stage] ++ stage.later := by cases stage <;> rfl
  rw [callsFrom, callsFrom, honward, wantedCalls, wantedCalls, wantedCalls, List.filter_append,
    List.map_append, List.append_assoc]

namespace PollRun

/-- Going on to the next look. -/
theorem progress_afterStage {i : Nat} {stage : PollStage}
    (h : s.calls ++ PollItem.callsFrom loop stage.later (items.drop i) =
      PollItem.allCalls loop items) : (s.afterStage i stage).Progress loop items := by
  cases stage with
  | read => exact h
  | write => exact h
  | err =>
    rw [PollItem.callsFrom_succ] at h
    exact h

/-- A look at an item: the callback is called exactly if it has to be. -/
theorem Dispatching.advance (h : s.Dispatching loop items) {added : Bool}
    (hstep : s.advance added = some s') :
    s'.Progress loop items ∧ s'.loop = s.loop := by
  have harray := h.array
  have hprogress := h.progress
  have hheld := h.sound.fd
  unfold PollRun.advance at hstep
  unfold Progress at hprogress
  unfold fdHeld at hheld
  cases hphase : s.phase with
  | dispatch i stage =>
    simp only [hphase] at hstep hprogress hheld
    rw [harray] at hstep
    cases hitem : items[i]? with
    | none =>
      simp only [hitem] at hstep
      cases hstep
      have hdrop : items.drop i = [] := List.drop_eq_nil_iff.mpr (List.getElem?_eq_none_iff.mp hitem)
      rw [hdrop, PollItem.callsFrom, List.append_nil] at hprogress
      exact ⟨hprogress, rfl⟩
    | some item =>
      simp only [hitem] at hstep
      rw [PollItem.callsFrom_look hitem] at hprogress
      -- nothing is called in this look
      have hskip (hno : item.wantedCalls loop [stage] = []) :
          (s.afterStage i stage).Progress loop items := by
        rw [hno, List.nil_append] at hprogress
        exact progress_afterStage hprogress
      have hloop : (s.afterStage i stage).loop = s.loop := by cases stage <;> rfl
      split at hstep
      · next hflag =>
        have hlive : item.userData ∈ s.loop.fdAddrs :=
          hheld _ (mem_looks (harray ▸ hitem) hflag)
        obtain ⟨entry, hentry⟩ :=
          Option.isSome_iff_exists.mp ((PollLoop.fdEntry_isSome item.userData).mpr hlive)
        have hmem : item.userData ∈ items.map PollItem.userData :=
          List.mem_map_of_mem (List.mem_of_getElem? hitem)
        have hknown := h.entries item.userData hmem entry hentry
        simp only [hentry] at hstep
        split at hstep
        · next hcb =>
          cases hstep
          refine ⟨?_, rfl⟩
          have hcalls : item.wantedCalls loop [stage] = [item.call stage] := by
            simp [PollItem.wantedCalls, hflag, hknown, hcb]
          rw [hcalls, ← List.append_assoc] at hprogress
          exact hprogress
        · next hcb =>
          cases hstep
          exact ⟨hskip (by simp [PollItem.wantedCalls, hknown, hcb]), hloop⟩
      · next hflag =>
        cases hstep
        exact ⟨hskip (by simp [PollItem.wantedCalls, hflag]), hloop⟩
  | idle _ | prePollCb _ _ | setEvents _ _ | polling | callback _ _ | expiring | freed =>
    simp only [hphase] at hstep
    cases hstep
  | prePoll _ | fill _ => simp only [hphase] at hprogress

/-- The return of a callback. -/
theorem Dispatching.returned (h : s.Dispatching loop items) {res : Int} {events : UInt16}
    {added : Bool} (hstep : s.returned res events added = some s') :
    s'.Progress loop items ∧ s'.loop = s.loop := by
  have hprogress := h.progress
  unfold PollRun.returned at hstep
  unfold Progress at hprogress
  cases hphase : s.phase with
  | callback i stage =>
    simp only [hphase] at hstep hprogress
    split at hstep
    · cases hstep
      refine ⟨.inr ⟨rfl, ?_⟩, rfl⟩
      exact ⟨_, hprogress⟩
    · cases hstep
      refine ⟨progress_afterStage hprogress, ?_⟩
      cases stage <;> rfl
  | idle _ | prePoll _ | fill _ | polling | dispatch _ _ | expiring | freed =>
    simp only [hphase] at hstep
    cases hstep
  | prePollCb _ _ | setEvents _ _ => simp only [hphase] at hprogress

/-- One event after `PR_Poll`. -/
theorem Dispatching.step (h : s.Dispatching loop items) {event : PollEvent}
    (hok : s.Disciplined event) (hexec : event.isExec = false) (hstep : s.step event = some s') :
    s'.Dispatching loop items := by
  have hcareful := careful_of_disciplined h.position hok hstep
  have hsound := (h.sound.step_iff hstep).mpr hcareful
  have hposition := position_step h.sound h.position hok hstep
  -- the list of entries only changes in a call
  have hsame (hs : s'.Progress loop items ∧ s'.loop = s.loop) : s'.Dispatching loop items := by
    obtain ⟨hprogress, hloop⟩ := hs
    exact ⟨hsound, hposition, hloop ▸ h.array, hloop ▸ h.known, hloop ▸ h.entries, hprogress⟩
  have hprogress := h.progress
  unfold Progress at hprogress
  cases event with
  | exec => cases hexec
  | advance added => exact hsame (h.advance hstep)
  | returned res events added => exact hsame (h.returned hstep)
  | call op =>
    change (if s.calling = true then some { s with loop := op.apply s.loop } else none) =
      some s' at hstep
    split at hstep
    · cases hstep
      refine ⟨hsound, hposition, ?_, ?_, ?_, h.progress⟩
      · exact (PollLoop.apply_pollArray op).trans h.array
      · intro a ha
        exact Nat.lt_of_lt_of_le (h.known a ha) (PollLoop.le_entryCount_apply h.sound.distinct op)
      · intro a ha entry hentry
        exact h.entries a ha entry
          (PollLoop.fdEntry_of_apply h.sound.distinct op (h.known a ha) hentry)
    · cases hstep
  | polled res outFlags =>
    simp only [PollRun.step] at hstep
    split at hstep
    · next hpolling => simp only [hpolling] at hprogress
    · cases hstep
  | expired =>
    simp only [PollRun.step] at hstep
    split at hstep
    · next hexpiring =>
      cases hstep
      simp only [hexpiring] at hprogress
      exact hsame ⟨.inl ⟨rfl, hprogress⟩, rfl⟩
    · cases hstep

/-- `PR_Poll` has returned. -/
theorem dispatching_polled (hsound : s.Sound) (hposition : s.Position)
    (hpolling : s.phase = .polling) {res : Int} (hres : 0 < res) {outFlags : Nat → UInt16}
    (hstep : s.step (.polled res outFlags) = some s') :
    s'.Dispatching s.loop s'.loop.pollArray := by
  have hcareful : s.careful (.polled res outFlags) = true := rfl
  have hok : s.Disciplined (.polled res outFlags) := trivial
  have hsound' := (hsound.step_iff hstep).mpr hcareful
  have hposition' := position_step hsound hposition hok hstep
  have hlive := hsound.fd
  unfold fdHeld userData at hlive
  rw [hpolling] at hlive
  unfold Position at hposition
  rw [hpolling] at hposition
  simp only [PollRun.step, hpolling, if_true, gt_iff_lt, hres, Option.some.injEq] at hstep
  subst hstep
  refine ⟨hsound', hposition', rfl, ?_, fun a _ entry hentry => hentry, ?_⟩
  · intro a ha
    rw [polled_userData] at ha
    exact hsound.distinct.fdFresh a (hlive a ha)
  · show s.calls ++ PollItem.callsFrom s.loop PollStage.read.onward (List.drop 0 _) = _
    rw [hposition.2, List.nil_append, List.drop_zero, PollItem.callsFrom_all]

end PollRun

end

/-- The first descriptor is ready for reading and the second one for both.  A new descriptor is added,
    and the second one is deleted when it is written to. -/
def pollTwoReady : List PollEvent :=
  [.advance true, .call (.addFd true (.prfd 9) pollIn true true true true), .returned 0 0 true,
    .advance true, .advance true,
    .advance true, .returned 0 0 true, .advance true, .call (.delFd (.prfd 1)),
    .returned 0 0 true, .advance true, .advance true]

def pollTwoFlags : Nat → UInt16
  | 0 => prPollRead
  | _ => prPollRead ||| prPollWrite

end Qdevice
