import Qdevice.Native.HeuristicsWorker

/-! # The processes of a heuristics run

What the active list says about the run that it belongs to: its entries are the commands of the
exec list, each was reported as executed, and each that has finished was reported with its status.
The calls of `notify_fn` are the record of what happened. -/

namespace Qdevice

/-- What was reported about processes, oldest first. -/
abbrev ProcessListReports := List (ProcessListNotifyReason × ProcessListEntry)

/-- The process runs this command of the exec list, for this run. -/
structure ProcessListEntry.IsFor (p : ProcessListEntry) (run : Nat)
    (entry : HeuristicsExecListEntry) : Prop where
  run : p.run = run
  name : p.name = entry.name
  command : p.command = entry.command

/-- For this run the command was started and exited with status 0. -/
def Passed (reports : ProcessListReports) (run : Nat) (entry : HeuristicsExecListEntry) : Prop :=
  (∃ p, (.executed, p) ∈ reports ∧ p.IsFor run entry) ∧
    ∃ p, (.finished, p) ∈ reports ∧ p.IsFor run entry ∧ p.exitStatus = .exited 0

theorem Passed.mono {reports reports' : ProcessListReports} {run : Nat}
    {entry : HeuristicsExecListEntry} (hsub : reports ⊆ reports') (h : Passed reports run entry) :
    Passed reports' run entry := by
  obtain ⟨⟨p, hp, hfor⟩, q, hq, hfor', hstatus⟩ := h
  exact ⟨⟨p, hsub hp, hfor⟩, q, hsub hq, hfor', hstatus⟩

/-- The command of the exec list that a process runs. -/
def ProcessListEntry.execEntry (p : ProcessListEntry) : HeuristicsExecListEntry :=
  ⟨p.name, p.command⟩

/-- An active process of a run: it is running or finished, and reported. -/
structure ActiveEntry (reports : ProcessListReports) (run : Nat) (p : ProcessListEntry) :
    Prop where
  sameRun : p.run = run
  state : p.state = .running ∨ p.state = .finished
  executed : ∃ q, (.executed, q) ∈ reports ∧ q.IsFor run p.execEntry
  finished : p.state = .finished → (.finished, p) ∈ reports

/-- The active list belongs to a run of this exec list. -/
structure ActiveRun (run : Nat) (list : HeuristicsExecList) (plist : ProcessList) : Prop where
  active : plist.activeList.map ProcessListEntry.execEntry = list
  entries : ∀ p ∈ plist.activeList, ActiveEntry plist.notifications run p

theorem ActiveEntry.mono {reports reports' : ProcessListReports} {run : Nat}
    {p : ProcessListEntry} (hsub : reports ⊆ reports') (h : ActiveEntry reports run p) :
    ActiveEntry reports' run p where
  sameRun := h.sameRun
  state := h.state
  executed := by
    obtain ⟨q, hq, hfor⟩ := h.executed
    exact ⟨q, hsub hq, hfor⟩
  finished hstate := hsub (h.finished hstate)

/-! ### Waiting -/

/-- Waiting for an active process keeps what it runs.  When it finishes it is reported. -/
theorem processListEntryWaitpid_active {waitpid : Nat → Waitpid} {reports : ProcessListReports}
    {run : Nat} {entry entry' : ProcessListEntry} {reported : Bool}
    (h : ActiveEntry reports run entry)
    (hwait : processListEntryWaitpid waitpid entry = some (entry', reported)) :
    entry'.execEntry = entry.execEntry ∧ ∀ reports', reports ⊆ reports' →
      (reported = true → (.finished, entry') ∈ reports') → ActiveEntry reports' run entry' := by
  rw [processListEntryWaitpid] at hwait
  split at hwait
  · cases hwait
    exact ⟨rfl, fun _ hsub _ => h.mono hsub⟩
  · next hstate =>
    split at hwait
    · cases hwait
    · cases hwait
      exact ⟨rfl, fun _ hsub _ => h.mono hsub⟩
    · cases hwait
      have hrunning : entry.state = .running := h.state.resolve_right fun hfin => hstate (.inr hfin)
      refine ⟨rfl, fun reports' hsub hmem => ⟨h.sameRun, .inr rfl, (h.mono hsub).executed, fun _ => ?_⟩⟩
      exact hmem (decide_eq_true hrunning)

/-- Waiting for the entries of a list keeps what they run, and reports those that finish. -/
theorem processListWaitEntries_active (waitpid : Nat → Waitpid) {reports : ProcessListReports}
    {run : Nat} {entries : List ProcessListEntry}
    (h : ∀ p ∈ entries, ActiveEntry reports run p) {ok : Bool}
    {entries' finished : List ProcessListEntry} {calls : List (Nat × ProcessCall)}
    (hwait : processListWaitEntries waitpid entries = (ok, entries', finished, calls)) :
    entries'.map ProcessListEntry.execEntry = entries.map ProcessListEntry.execEntry ∧
      ∀ p ∈ entries', ActiveEntry (reports ++ finished.map (.finished, ·)) run p := by
  induction entries generalizing ok entries' finished calls with
  | nil =>
    cases hwait
    exact ⟨rfl, fun _ hno => absurd hno List.not_mem_nil⟩
  | cons entry entries ih =>
    have hentry := h entry List.mem_cons_self
    have hrest := fun p hp => h p (List.mem_cons_of_mem _ hp)
    rw [processListWaitEntries] at hwait
    cases hone : processListEntryWaitpid waitpid entry with
    | none =>
      rw [hone] at hwait
      cases hwait
      refine ⟨rfl, fun p hp => (h p hp).mono ?_⟩
      exact List.subset_append_left _ _
    | some res =>
      obtain ⟨entry', reported⟩ := res
      cases hmore : processListWaitEntries waitpid entries with
      | mk ok₁ r =>
        obtain ⟨entries₁, finished₁, calls₁⟩ := r
        simp only [hone, hmore, Prod.mk.injEq] at hwait
        obtain ⟨rfl, rfl, rfl, rfl⟩ := hwait
        obtain ⟨hmap, hactive⟩ := ih hrest hmore
        have hsub : reports ++ finished₁.map (ProcessListNotifyReason.finished, ·) ⊆ reports ++
            (if reported then entry' :: finished₁ else finished₁).map
              (ProcessListNotifyReason.finished, ·) := by
          refine List.append_subset_of_subset_of_subset ?_ ?_
          · exact List.subset_append_left _ _
          · refine List.Subset.trans ?_ (List.subset_append_right _ _)
            refine List.map_subset _ ?_
            split
            · exact List.subset_cons_self _ _
            · exact List.Subset.refl _
        obtain ⟨hexec, hentry'⟩ := processListEntryWaitpid_active hentry hone
        refine ⟨by rw [List.map_cons, List.map_cons, hmap, hexec], fun p hp => ?_⟩
        obtain rfl | hp := List.mem_cons.mp hp
        · refine hentry' _ (List.subset_append_left _ _) fun hreported => ?_
          rw [hreported]
          exact List.mem_append_right _ List.mem_cons_self
        · exact (hactive p hp).mono hsub

/-- `process_list_waitpid` keeps the active run, and only adds reports. -/
theorem processListWaitpid_active (waitpid : Nat → Waitpid) {plist plist' : ProcessList} {ok : Bool}
    (hwait : processListWaitpid waitpid plist = (ok, plist')) :
    plist.notifications ⊆ plist'.notifications ∧
      (plist.activeList = [] → plist'.activeList = []) ∧
      ∀ run list, ActiveRun run list plist → ActiveRun run list plist' := by
  rw [processListWaitpid] at hwait
  cases hactive : processListWaitEntries waitpid plist.activeList with
  | mk ok₁ r =>
    obtain ⟨active, finished, calls⟩ := r
    have hempty : plist.activeList = [] → active = [] := by
      intro hnil
      rw [hnil] at hactive
      cases hactive
      rfl
    -- Whatever is reported about the kill list does not matter for the run.
    have hrun : ∀ run list, ActiveRun run list plist → ∀ reports : ProcessListReports,
        plist.notifications ++ finished.map (.finished, ·) ⊆ reports → ∀ toKill allocated calls,
        ActiveRun run list { plist with
          activeList := active, toKillList := toKill, allocatedListEntries := allocated
          notifications := reports, calls := calls } := by
      intro run list h reports hsub toKill allocated calls
      obtain ⟨hmap, hentries⟩ := processListWaitEntries_active waitpid h.entries hactive
      exact ⟨hmap.trans h.active, fun p hp => (hentries p hp).mono hsub⟩
    rw [hactive] at hwait
    cases ok₁ with
    | false =>
      cases hwait
      exact ⟨List.subset_append_left _ _, hempty,
        fun run list h => hrun run list h _ (List.Subset.refl _) _ _ _⟩
    | true =>
      cases hkill : processListWaitKillEntries waitpid plist.toKillList with
      | mk ok₂ r =>
        obtain ⟨toKill, killed, killCalls⟩ := r
        rw [hkill] at hwait
        cases hwait
        refine ⟨List.subset_append_left _ _, hempty, fun run list h => hrun run list h _ ?_ _ _ _⟩
        rw [List.map_append, ← List.append_assoc]
        exact List.subset_append_left _ _

/-- So does the handling of the kill list. -/
theorem processListProcessKillList_active (waitpid : Nat → Waitpid) (kill : Nat → Bool)
    {plist plist' : ProcessList} {res : Except ProcessListError Unit}
    (hkill : processListProcessKillList waitpid kill plist = (res, plist')) :
    plist.notifications ⊆ plist'.notifications ∧
      (plist.activeList = [] → plist'.activeList = []) ∧
      ∀ run list, ActiveRun run list plist → ActiveRun run list plist' := by
  rw [processListProcessKillList] at hkill
  cases hwait : processListWaitpid waitpid plist with
  | mk ok plist₁ =>
    obtain ⟨hsub, hempty, hrun⟩ := processListWaitpid_active waitpid hwait
    rw [hwait] at hkill
    cases ok with
    | false =>
      cases hkill
      exact ⟨hsub, hempty, hrun⟩
    | true =>
      cases hentries : processListKillEntries kill plist₁.toKillList with
      | mk res' r =>
        obtain ⟨entries, calls⟩ := r
        simp only [hentries] at hkill
        cases hkill
        exact ⟨hsub, hempty, fun run list h => ⟨(hrun run list h).active, (hrun run list h).entries⟩⟩

/-- When all processes of the run have passed, all commands of the exec list have. -/
theorem ActiveRun.passed {run : Nat} {list : HeuristicsExecList} {plist : ProcessList}
    (h : ActiveRun run list plist) (hall : processListGetSummaryResultShort plist = .allPassed) :
    ∀ entry ∈ list, Passed plist.notifications run entry := by
  intro entry hentry
  rw [← h.active] at hentry
  obtain ⟨p, hp, rfl⟩ := List.mem_map.mp hentry
  have hactive := h.entries p hp
  simp only [processListGetSummaryResultShort] at hall
  split at hall
  · cases hall
  · next hnone =>
    split at hall
    · next hfinished =>
      have hstate : p.state = .finished := by simpa using List.all_eq_true.mp hfinished p hp
      have hsuccess : p.exitStatus = .exited 0 := by
        by_contra hfail
        refine hnone (List.any_eq_true.mpr ⟨p, hp, ?_⟩)
        simp [hstate, ExitStatus.success, hfail]
      exact ⟨hactive.executed, p, hactive.finished hstate, ⟨hactive.sameRun, rfl, rfl⟩, hsuccess⟩
    · cases hall

/-! ### Starting -/

/-- The process list after the commands of an exec list were added to an empty one. -/
theorem heuristicsWorkerAddProcesses_spec (run : Nat) {list : HeuristicsExecList}
    {plist plist' : ProcessList} {ok : Bool}
    (h : heuristicsWorkerAddProcesses run list plist = (ok, plist')) :
    plist'.notifications = plist.notifications ∧ plist'.nextPid = plist.nextPid ∧
      ∃ added, plist'.activeList = plist.activeList ++ added ∧
        (∀ p ∈ added, p.run = run ∧ p.state = .initialized) ∧
        (ok = true → added.map ProcessListEntry.execEntry = list) := by
  induction list generalizing plist ok plist' with
  | nil =>
    cases h
    exact ⟨rfl, rfl, [], (List.append_nil _).symm, fun _ hno => absurd hno List.not_mem_nil,
      fun _ => rfl⟩
  | cons entry list ih =>
    rw [heuristicsWorkerAddProcesses] at h
    cases hadd : processListAdd plist entry.name entry.command run with
    | none =>
      rw [hadd] at h
      cases h
      exact ⟨rfl, rfl, [], (List.append_nil _).symm, fun _ hno => absurd hno List.not_mem_nil,
        (fun h => by cases h)⟩
    | some plist₁ =>
      rw [hadd] at h
      obtain ⟨hreports, hpid, added, hactive, hadded, hlist⟩ := ih h
      rw [processListAdd] at hadd
      split at hadd
      · cases hadd
      · split at hadd
        · cases hadd
        · next argv hargv =>
          obtain rfl := Option.some.inj hadd
          refine ⟨hreports, hpid, ⟨entry.name, entry.command, run, .initialized, argv, 0, .exited 0⟩ ::
            added, ?_, fun p hp => ?_, fun hok => ?_⟩
          · rw [hactive, List.append_assoc]
            rfl
          · obtain rfl | hp := List.mem_cons.mp hp
            · exact ⟨rfl, rfl⟩
            · exact hadded p hp
          · rw [List.map_cons, hlist hok]
            rfl

/-- Executing a list of entries that were just added. -/
theorem processListExecEntries_spec (fork : Nat → Bool) {run nextPid nextPid' : Nat}
    {entries entries' executed : List ProcessListEntry}
    (hentries : ∀ p ∈ entries, p.run = run ∧ p.state = .initialized)
    (h : processListExecEntries fork nextPid entries = (true, entries', executed, nextPid')) :
    entries'.map ProcessListEntry.execEntry = entries.map ProcessListEntry.execEntry ∧
      executed = entries' ∧ ∀ p ∈ entries', p.run = run ∧ p.state = .running := by
  induction entries generalizing nextPid nextPid' entries' executed with
  | nil =>
    cases h
    exact ⟨rfl, rfl, fun _ hno => absurd hno List.not_mem_nil⟩
  | cons entry entries ih =>
    obtain ⟨hrun, hstate⟩ := hentries entry List.mem_cons_self
    rw [processListExecEntries, if_pos hstate] at h
    split at h
    · cases hmore : processListExecEntries fork (nextPid + 1) entries with
      | mk ok r =>
        obtain ⟨entries₁, executed₁, nextPid₁⟩ := r
        simp only [hmore, Prod.mk.injEq] at h
        obtain ⟨rfl, rfl, rfl, rfl⟩ := h
        obtain ⟨hmap, rfl, hrunning⟩ := ih (fun p hp => hentries p (List.mem_cons_of_mem _ hp)) hmore
        refine ⟨by rw [List.map_cons, List.map_cons, hmap]; rfl, rfl, fun p hp => ?_⟩
        obtain rfl | hp := List.mem_cons.mp hp
        · exact ⟨hrun, rfl⟩
        · exact hrunning p hp
    · cases h

/-- When all commands were started there is an active run. -/
theorem processListExecInitialized_active (fork : Nat → Bool) {run : Nat}
    {list : HeuristicsExecList} {plist plist₁ plist' : ProcessList}
    (hempty : plist.activeList = [])
    (hadd : heuristicsWorkerAddProcesses run list plist = (true, plist₁))
    (hexec : processListExecInitialized fork plist₁ = (true, plist')) :
    ActiveRun run list plist' := by
  obtain ⟨_, _, added, hactive, hadded, hlist⟩ := heuristicsWorkerAddProcesses_spec run hadd
  rw [hempty, List.nil_append] at hactive
  rw [processListExecInitialized] at hexec
  cases hentries : processListExecEntries fork plist₁.nextPid plist₁.activeList with
  | mk ok r =>
    obtain ⟨entries, executed, nextPid⟩ := r
    rw [hentries] at hexec
    simp only [Prod.mk.injEq] at hexec
    obtain ⟨rfl, rfl⟩ := hexec
    rw [hactive] at hentries
    obtain ⟨hmap, rfl, hrunning⟩ := processListExecEntries_spec fork hadded hentries
    refine ⟨hmap.trans (hlist rfl), fun p hp => ?_⟩
    obtain ⟨hrun, hstate⟩ := hrunning p hp
    refine ⟨hrun, .inl hstate, ⟨p, ?_, hrun, rfl, rfl⟩, fun hfin => ?_⟩
    · exact List.mem_append_right _ (List.mem_map_of_mem hp)
    · rw [hstate] at hfin
      cases hfin

/-- Starting only adds reports. -/
theorem processListExecInitialized_reports (fork : Nat → Bool) {plist plist' : ProcessList}
    {ok : Bool} (h : processListExecInitialized fork plist = (ok, plist')) :
    plist.notifications ⊆ plist'.notifications := by
  rw [processListExecInitialized] at h
  split at h
  cases h
  exact List.subset_append_left _ _

end Qdevice
