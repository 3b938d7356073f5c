import Qdevice.ForStd.Runs
import Qdevice.Native.ProcessList

/-! # The life cycle of process list entries

Entries are added, executed, waited for, moved to the kill list and killed, and each pass over a
list may stop halfway.  `calls` records what was done to each process; the state of an entry says
what the record of its process is, so that no pass has to be seen as a whole. -/

namespace Qdevice

/-! ### The record of a process -/

/-- The process of this entry was started and has not been reaped. -/
def ProcessListEntry.live (entry : ProcessListEntry) : Bool :=
  entry.state != .initialized && entry.state != .finished

/-- What was done to one process. -/
def processHistory (calls : List (Nat × ProcessCall)) (pid : Nat) : List ProcessCall :=
  (calls.filter (·.1 == pid)).map Prod.snd

/-- Nothing, or SIGTERM first and only SIGKILL afterwards. -/
def Signals (history : List ProcessCall) : Prop :=
  history = [] ∨ ∃ n, history = .kill .sigterm :: List.replicate n (.kill .sigkill)

/-- Signals in their order, and no signal after the process was reaped. -/
def HistoryOk (history : List ProcessCall) : Prop :=
  ∃ signals, Signals signals ∧ (history = signals ∨ history = signals ++ [.reaped])

/-- What the state of an entry says about its process. -/
def HistoryOf : ProcessListEntryState → List ProcessCall → Prop
  | .running, history => history = []
  | .sigtermSent, history => history = [.kill .sigterm]
  | .sigkillSent, history =>
    ∃ n, history = .kill .sigterm :: List.replicate (n + 1) (.kill .sigkill)
  | .initialized, _ => False
  | .finished, _ => False

theorem HistoryOf.signals {state : ProcessListEntryState} {history : List ProcessCall}
    (h : HistoryOf state history) : Signals history := by
  cases state with
  | initialized => cases h
  | running => exact .inl h
  | finished => cases h
  | sigtermSent => exact .inr ⟨0, h⟩
  | sigkillSent =>
    obtain ⟨n, rfl⟩ := h
    exact .inr ⟨n + 1, rfl⟩

/-- A signal is the next one in the order. -/
theorem HistoryOf.signal {state newState : ProcessListEntryState} {history : List ProcessCall}
    {sig : Signal} (h : HistoryOf state history)
    (hsend : processListSigToSend state = some (sig, newState)) :
    HistoryOf newState (history ++ [.kill sig]) := by
  cases state with
  | initialized => cases hsend
  | finished => cases hsend
  | running =>
    cases hsend
    obtain rfl : history = [] := h
    rfl
  | sigtermSent =>
    cases hsend
    obtain rfl : history = [.kill .sigterm] := h
    exact ⟨0, rfl⟩
  | sigkillSent =>
    cases hsend
    obtain ⟨n, rfl⟩ := h
    refine ⟨n + 1, ?_⟩
    rw [List.cons_append, ← List.replicate_succ']

theorem processHistory_append (calls calls' : List (Nat × ProcessCall)) (pid : Nat) :
    processHistory (calls ++ calls') pid = processHistory calls pid ++ processHistory calls' pid := by
  simp [processHistory]

theorem processHistory_self (pid : Nat) (call : ProcessCall) :
    processHistory [(pid, call)] pid = [call] := by
  simp [processHistory]

theorem processHistory_other {pid pid' : Nat} (call : ProcessCall) (h : pid ≠ pid') :
    processHistory [(pid, call)] pid' = [] := by
  simp [processHistory, h]

/-! ### Entries and the record -/

/-- The record fits these entries: each live process has one entry, and its history is the one
    that the state of the entry says. -/
structure Recorded (nextPid : Nat) (calls : List (Nat × ProcessCall))
    (entries : List ProcessListEntry) : Prop where
  distinct : ((entries.filter ProcessListEntry.live).map ProcessListEntry.pid).Nodup
  started : ∀ e ∈ entries, e.live → e.pid < nextPid
  histories : ∀ e ∈ entries, e.live → HistoryOf e.state (processHistory calls e.pid)
  ordered : ∀ pid, HistoryOk (processHistory calls pid)
  unused : ∀ pid, nextPid ≤ pid → processHistory calls pid = []

namespace Recorded

variable {nextPid : Nat} {calls : List (Nat × ProcessCall)} {entries entries' before after :
  List ProcessListEntry} {entry : ProcessListEntry}

theorem init : Recorded 0 [] [] where
  distinct := List.nodup_nil
  started _ hno := absurd hno List.not_mem_nil
  histories _ hno := absurd hno List.not_mem_nil
  ordered _ := ⟨[], .inl rfl, .inl rfl⟩
  unused _ _ := rfl

/-- Entries may be removed and change their places. -/
theorem subperm (h : Recorded nextPid calls entries) (hsub : List.Subperm entries' entries) :
    Recorded nextPid calls entries' where
  distinct := by
    obtain ⟨l, hperm, hsublist⟩ := hsub
    have hl := ((hsublist.filter ProcessListEntry.live).map ProcessListEntry.pid).nodup h.distinct
    exact ((hperm.filter _).map _).nodup_iff.mp hl
  started e he := h.started e (hsub.subset he)
  histories e he := h.histories e (hsub.subset he)
  ordered := h.ordered
  unused := h.unused

/-- Other live entries are of other processes. -/
theorem pid_ne (h : Recorded nextPid calls (before ++ entry :: after)) (hlive : entry.live)
    {e : ProcessListEntry} (he : e ∈ before ++ after) (helive : e.live) : e.pid ≠ entry.pid := by
  have hfront := (h.subperm List.perm_middle.symm.subperm).distinct
  rw [List.filter_cons_of_pos hlive, List.map_cons, List.nodup_cons] at hfront
  intro heq
  apply hfront.1
  rw [← heq]
  exact List.mem_map_of_mem (List.mem_filter.mpr ⟨he, helive⟩)

/-- One more call for a live process. -/
theorem call (h : Recorded nextPid calls (before ++ entry :: after)) (hlive : entry.live)
    (entry' : ProcessListEntry) (hpid : entry'.pid = entry.pid) (c : ProcessCall)
    (hordered : HistoryOk (processHistory calls entry.pid ++ [c]))
    (hstate : entry'.live → HistoryOf entry'.state (processHistory calls entry.pid ++ [c])) :
    Recorded nextPid (calls ++ [(entry.pid, c)]) (before ++ entry' :: after) := by
  have hentry : entry ∈ before ++ entry :: after := List.mem_append_right _ (.head _)
  have hself : processHistory (calls ++ [(entry.pid, c)]) entry.pid =
      processHistory calls entry.pid ++ [c] := by
    rw [processHistory_append, processHistory_self]
  have hother {pid : Nat} (hne : entry.pid ≠ pid) :
      processHistory (calls ++ [(entry.pid, c)]) pid = processHistory calls pid := by
    rw [processHistory_append, processHistory_other c hne, List.append_nil]
  have hmem {e : ProcessListEntry} (he : e ∈ before ++ entry' :: after) :
      e = entry' ∨ e ∈ before ++ after := by
    simpa [or_left_comm] using he
  have hold {e : ProcessListEntry} (he : e ∈ before ++ after) : e ∈ before ++ entry :: after := by
    rw [List.mem_append, List.mem_cons]
    exact (List.mem_append.mp he).imp_right .inr
  refine ⟨?_, fun e he helive => ?_, fun e he helive => ?_, fun pid => ?_, fun pid hle => ?_⟩
  · have hdistinct := h.distinct
    rw [List.filter_append, List.filter_cons_of_pos hlive, List.map_append, List.map_cons]
      at hdistinct
    rw [List.filter_append, List.map_append]
    by_cases hlive' : entry'.live = true
    · rwa [List.filter_cons_of_pos hlive', List.map_cons, hpid]
    · rw [List.filter_cons_of_neg hlive']
      exact hdistinct.sublist (List.Sublist.append_left (List.sublist_cons_self _ _) _)
  · obtain rfl | he := hmem he
    · rw [hpid]
      exact h.started entry hentry hlive
    · exact h.started e (hold he) helive
  · obtain rfl | he := hmem he
    · rw [hpid, hself]
      exact hstate helive
    · rw [hother (h.pid_ne hlive he helive).symm]
      exact h.histories e (hold he) helive
  · by_cases heq : entry.pid = pid
    · rw [← heq, hself]
      exact hordered
    · rw [hother heq]
      exact h.ordered pid
  · have hlt := h.started entry hentry hlive
    rw [hother (by omega)]
    exact h.unused pid hle

/-- A process is reaped. -/
theorem reap (h : Recorded nextPid calls (before ++ entry :: after)) (hlive : entry.live)
    (status : ExitStatus) :
    Recorded nextPid (calls ++ [(entry.pid, .reaped)])
      (before ++ { entry with exitStatus := status, state := .finished } :: after) := by
  have hhistory := h.histories entry (List.mem_append_right _ (.head _)) hlive
  refine h.call hlive { entry with exitStatus := status, state := .finished } rfl .reaped
    ⟨_, hhistory.signals, .inr rfl⟩ fun hno => ?_
  cases hno

/-- A process gets the next signal. -/
theorem signal (h : Recorded nextPid calls (before ++ entry :: after)) (hlive : entry.live)
    {sig : Signal} {newState : ProcessListEntryState}
    (hsend : processListSigToSend entry.state = some (sig, newState)) :
    Recorded nextPid (calls ++ [(entry.pid, .kill sig)])
      (before ++ { entry with state := newState } :: after) := by
  have hhistory := (h.histories entry (List.mem_append_right _ (.head _)) hlive).signal hsend
  exact h.call hlive { entry with state := newState } rfl (.kill sig)
    ⟨_, hhistory.signals, .inl rfl⟩ fun _ => hhistory

/-- A `fork` that failed. -/
theorem mono (h : Recorded nextPid calls entries) : Recorded (nextPid + 1) calls entries where
  distinct := h.distinct
  started e he hlive := Nat.lt_succ_of_lt (h.started e he hlive)
  histories := h.histories
  ordered := h.ordered
  unused pid hle := h.unused pid (by omega)

/-- A process is started. -/
theorem start (h : Recorded nextPid calls (before ++ entry :: after)) :
    Recorded (nextPid + 1) calls
      (before ++ { entry with pid := nextPid, state := .running } :: after) := by
  have hrest : Recorded nextPid calls (before ++ after) :=
    h.subperm (List.Sublist.append_left (List.sublist_cons_self _ _) _).subperm
  suffices hfront : Recorded (nextPid + 1) calls
      ({ entry with pid := nextPid, state := .running } :: (before ++ after)) from
    hfront.subperm List.perm_middle.subperm
  refine ⟨?_, ?_, ?_, h.ordered, h.mono.unused⟩
  · rw [List.filter_cons_of_pos rfl, List.map_cons, List.nodup_cons]
    refine ⟨fun hmem => ?_, hrest.distinct⟩
    obtain ⟨e, he, hpid⟩ := List.mem_map.mp hmem
    obtain ⟨he, hlive⟩ := List.mem_filter.mp he
    have hlt := hrest.started e he hlive
    simp only at hpid
    omega
  · exact List.forall_mem_cons.mpr ⟨fun _ => Nat.lt_succ_self _, hrest.mono.started⟩
  · exact List.forall_mem_cons.mpr ⟨fun _ => h.unused nextPid (Nat.le_refl _), hrest.histories⟩

end Recorded

/-! ### The passes -/

/-- The two outcomes of waiting for an entry that do not end the pass. -/
theorem processListEntryWaitpid_cases {waitpid : Nat → Waitpid} {entry entry' : ProcessListEntry}
    {reported : Bool} (h : processListEntryWaitpid waitpid entry = some (entry', reported)) :
    entry' = entry ∨ (entry.live ∧
      ∃ status, entry' = { entry with exitStatus := status, state := .finished }) := by
  rw [processListEntryWaitpid] at h
  split at h
  · cases h
    exact .inl rfl
  · next hstate =>
    split at h
    · cases h
    · cases h
      exact .inl rfl
    · next status hended =>
      cases h
      refine .inr ⟨?_, status, rfl⟩
      simpa [ProcessListEntry.live, not_or] using hstate

/-- Waiting for one entry keeps the record right. -/
theorem Recorded.wait {nextPid : Nat} {calls : List (Nat × ProcessCall)}
    {before after : List ProcessListEntry} {waitpid : Nat → Waitpid}
    {entry entry' : ProcessListEntry} {reported : Bool}
    (h : Recorded nextPid calls (before ++ entry :: after))
    (hwait : processListEntryWaitpid waitpid entry = some (entry', reported)) :
    Recorded nextPid (calls ++ processListReaped entry entry') (before ++ entry' :: after) := by
  obtain rfl | ⟨hlive, status, rfl⟩ := processListEntryWaitpid_cases hwait
  · have hnone : processListReaped entry' entry' = [] := if_neg fun hreaped => hreaped.1 hreaped.2
    rwa [hnone, List.append_nil]
  · have hreaped : entry.state ≠ .finished := by
      rintro hfinished
      simp [ProcessListEntry.live, hfinished] at hlive
    rw [processListReaped, if_pos ⟨hreaped, rfl⟩]
    exact h.reap hlive status

/-- The states that entries of the active list can have. -/
def ActiveState (entry : ProcessListEntry) : Prop :=
  entry.state = .initialized ∨ entry.state = .running ∨ entry.state = .finished

/-- The states that entries of the kill list can have. -/
def KillState (entry : ProcessListEntry) : Prop :=
  entry.state = .running ∨ entry.state = .sigtermSent ∨ entry.state = .sigkillSent

theorem processListWaitEntries_recorded (waitpid : Nat → Waitpid) {nextPid : Nat}
    {calls calls' : List (Nat × ProcessCall)} {before after entries entries' finished :
      List ProcessListEntry} {ok : Bool}
    (h : Recorded nextPid calls (before ++ (entries ++ after)))
    (hactive : ∀ e ∈ entries, ActiveState e)
    (hwait : processListWaitEntries waitpid entries = (ok, entries', finished, calls')) :
    Recorded nextPid (calls ++ calls') (before ++ (entries' ++ after)) ∧
      (∀ e ∈ entries', ActiveState e) ∧ entries'.length = entries.length := by
  induction entries generalizing before calls ok entries' finished calls' with
  | nil =>
    cases hwait
    exact ⟨by rwa [List.append_nil], hactive, rfl⟩
  | cons entry entries ih =>
    obtain ⟨hentry, hrest⟩ := List.forall_mem_cons.mp hactive
    rw [processListWaitEntries] at hwait
    cases hone : processListEntryWaitpid waitpid entry with
    | none =>
      rw [hone] at hwait
      cases hwait
      exact ⟨by rwa [List.append_nil], hactive, rfl⟩
    | some res =>
      obtain ⟨entry', reported⟩ := res
      cases hmore : processListWaitEntries waitpid entries with
      | mk ok₁ r =>
        obtain ⟨entries₁, finished₁, calls₁⟩ := r
        simp only [hone, hmore, Prod.mk.injEq] at hwait
        obtain ⟨rfl, rfl, rfl, rfl⟩ := hwait
        have hnext := h.wait hone
        rw [List.append_cons before] at hnext
        obtain ⟨hrecorded, hstates, hlength⟩ := ih hnext hrest hmore
        refine ⟨?_, List.forall_mem_cons.mpr ⟨?_, hstates⟩, ?_⟩
        · rw [List.append_assoc, List.append_assoc] at hrecorded
          exact hrecorded
        · obtain rfl | ⟨-, status, rfl⟩ := processListEntryWaitpid_cases hone
          · exact hentry
          · exact .inr (.inr rfl)
        · rw [List.length_cons, List.length_cons, hlength]

theorem KillState.live {entry : ProcessListEntry} (h : KillState entry) : entry.live := by
  rcases h with h | h | h <;> simp [ProcessListEntry.live, h]

theorem KillState.not_finished {entry : ProcessListEntry} (h : KillState entry) :
    entry.state ≠ .finished := by
  rcases h with h | h | h <;> simp [h]

/-- The same for the kill list.  It gets shorter. -/
theorem processListWaitKillEntries_recorded (waitpid : Nat → Waitpid) {nextPid : Nat}
    {calls calls' : List (Nat × ProcessCall)} {before entries entries' finished :
      List ProcessListEntry} {ok : Bool}
    (h : Recorded nextPid calls (before ++ entries)) (hkill : ∀ e ∈ entries, KillState e)
    (hwait : processListWaitKillEntries waitpid entries = (ok, entries', finished, calls')) :
    Recorded nextPid (calls ++ calls') (before ++ entries') ∧
      (∀ e ∈ entries', KillState e) ∧ entries'.length ≤ entries.length := by
  induction entries generalizing before calls ok entries' finished calls' with
  | nil =>
    cases hwait
    exact ⟨by rwa [List.append_nil], hkill, Nat.le_refl _⟩
  | cons entry entries ih =>
    obtain ⟨hentry, hrest⟩ := List.forall_mem_cons.mp hkill
    rw [processListWaitKillEntries] at hwait
    cases hone : processListEntryWaitpid waitpid entry with
    | none =>
      rw [hone] at hwait
      cases hwait
      exact ⟨by rwa [List.append_nil], hkill, Nat.le_refl _⟩
    | some res =>
      obtain ⟨entry', reported⟩ := res
      cases hmore : processListWaitKillEntries waitpid entries with
      | mk ok₁ r =>
        obtain ⟨entries₁, finished₁, calls₁⟩ := r
        simp only [hone, hmore, Prod.mk.injEq] at hwait
        obtain ⟨rfl, rfl, rfl, rfl⟩ := hwait
        have hnext := h.wait hone
        rw [← List.append_assoc calls]
        obtain rfl | ⟨-, status, rfl⟩ := processListEntryWaitpid_cases hone
        · rw [if_neg hentry.not_finished]
          rw [List.append_cons before] at hnext
          obtain ⟨hrecorded, hstates, hlength⟩ := ih hnext hrest hmore
          rw [List.append_assoc before] at hrecorded
          exact ⟨hrecorded, List.forall_mem_cons.mpr ⟨hentry, hstates⟩, Nat.succ_le_succ hlength⟩
        · -- The entry is removed.
          have hfewer := hnext.subperm
            (List.Sublist.append_left (List.sublist_cons_self _ entries) before).subperm
          obtain ⟨hrecorded, hstates, hlength⟩ := ih hfewer hrest hmore
          rw [if_pos rfl]
          exact ⟨hrecorded, hstates, Nat.le_succ_of_le hlength⟩

/-- An entry of the kill list gets a signal, and stays one. -/
theorem KillState.sigToSend {entry : ProcessListEntry} (h : KillState entry) :
    ∃ sig newState, processListSigToSend entry.state = some (sig, newState) ∧
      KillState { entry with state := newState } := by
  rcases h with h | h | h
  · exact ⟨.sigterm, .sigtermSent, by rw [h]; rfl, .inr (.inl rfl)⟩
  · exact ⟨.sigkill, .sigkillSent, by rw [h]; rfl, .inr (.inr rfl)⟩
  · exact ⟨.sigkill, .sigkillSent, by rw [h]; rfl, .inr (.inr rfl)⟩

theorem processListKillEntries_recorded (kill : Nat → Bool) {nextPid : Nat}
    {calls calls' : List (Nat × ProcessCall)} {before entries entries' : List ProcessListEntry}
    {res : Except ProcessListError Unit}
    (h : Recorded nextPid calls (before ++ entries)) (hkill : ∀ e ∈ entries, KillState e)
    (hrun : processListKillEntries kill entries = (res, entries', calls')) :
    Recorded nextPid (calls ++ calls') (before ++ entries') ∧
      (∀ e ∈ entries', KillState e) ∧ entries'.length = entries.length ∧
      res ≠ .error .assertion := by
  induction entries generalizing before calls res entries' calls' with
  | nil =>
    cases hrun
    exact ⟨by rwa [List.append_nil], hkill, rfl, by simp⟩
  | cons entry entries ih =>
    obtain ⟨hentry, hrest⟩ := List.forall_mem_cons.mp hkill
    obtain ⟨sig, newState, hsend, hstate⟩ := hentry.sigToSend
    have hnext := h.signal hentry.live hsend
    rw [processListKillEntries, processListProcessKillListEntry, hsend] at hrun
    by_cases hsent : kill entry.pid = true
    · cases hmore : processListKillEntries kill entries with
      | mk res₁ r =>
        obtain ⟨entries₁, calls₁⟩ := r
        simp only [hsent, if_true, hmore, Prod.mk.injEq] at hrun
        obtain ⟨rfl, rfl, rfl⟩ := hrun
        rw [List.append_cons before] at hnext
        obtain ⟨hrecorded, hstates, hlength, hassert⟩ := ih hnext hrest hmore
        rw [List.append_assoc, List.append_assoc] at hrecorded
        refine ⟨hrecorded, List.forall_mem_cons.mpr ⟨hstate, hstates⟩, ?_, hassert⟩
        rw [List.length_cons, List.length_cons, hlength]
    · simp only [hsent] at hrun
      cases hrun
      exact ⟨hnext, List.forall_mem_cons.mpr ⟨hstate, hrest⟩, rfl, by simp⟩

theorem processListExecEntries_recorded (fork : Nat → Bool) {nextPid nextPid' : Nat}
    {calls : List (Nat × ProcessCall)} {before after entries entries' executed :
      List ProcessListEntry} {ok : Bool}
    (h : Recorded nextPid calls (before ++ (entries ++ after)))
    (hactive : ∀ e ∈ entries, ActiveState e)
    (hexec : processListExecEntries fork nextPid entries = (ok, entries', executed, nextPid')) :
    Recorded nextPid' calls (before ++ (entries' ++ after)) ∧
      (∀ e ∈ entries', ActiveState e) ∧ entries'.length = entries.length := by
  induction entries generalizing before nextPid nextPid' ok entries' executed with
  | nil =>
    cases hexec
    exact ⟨h, hactive, rfl⟩
  | cons entry entries ih =>
    obtain ⟨hentry, hrest⟩ := List.forall_mem_cons.mp hactive
    rw [processListExecEntries] at hexec
    by_cases hnew : entry.state = .initialized
    · by_cases hforked : fork nextPid = true
      · cases hmore : processListExecEntries fork (nextPid + 1) entries with
        | mk ok₁ r =>
          obtain ⟨entries₁, executed₁, nextPid₁⟩ := r
          simp only [hnew, hforked, if_true, hmore, Prod.mk.injEq] at hexec
          obtain ⟨rfl, rfl, rfl, rfl⟩ := hexec
          have hnext := h.start
          rw [List.append_cons before] at hnext
          obtain ⟨hrecorded, hstates, hlength⟩ := ih hnext hrest hmore
          rw [List.append_assoc] at hrecorded
          refine ⟨hrecorded, List.forall_mem_cons.mpr ⟨.inr (.inl rfl), hstates⟩, ?_⟩
          rw [List.length_cons, List.length_cons, hlength]
      · simp only [hnew, hforked, if_true] at hexec
        cases hexec
        exact ⟨h.mono, hactive, rfl⟩
    · cases hmore : processListExecEntries fork nextPid entries with
      | mk ok₁ r =>
        obtain ⟨entries₁, executed₁, nextPid₁⟩ := r
        simp only [hnew, if_false, hmore, Prod.mk.injEq] at hexec
        obtain ⟨rfl, rfl, rfl, rfl⟩ := hexec
        rw [List.cons_append, List.append_cons before] at h
        obtain ⟨hrecorded, hstates, hlength⟩ := ih h hrest hmore
        rw [List.append_assoc] at hrecorded
        refine ⟨hrecorded, List.forall_mem_cons.mpr ⟨hentry, hstates⟩, ?_⟩
        rw [List.length_cons, List.length_cons, hlength]

/-! ### The operations -/

/-- What holds of a process list between two operations. -/
structure ProcessListOk (maxListEntries : Nat) (plist : ProcessList) : Prop where
  maximum : plist.maxListEntries = maxListEntries
  allocated : plist.allocatedListEntries = plist.activeList.length + plist.toKillList.length
  bounded : plist.allocatedListEntries ≤ maxListEntries
  active : ∀ e ∈ plist.activeList, ActiveState e
  toKill : ∀ e ∈ plist.toKillList, KillState e
  recorded : Recorded plist.nextPid plist.calls (plist.activeList ++ plist.toKillList)

namespace ProcessListOk

variable {maxListEntries : Nat} {plist plist' : ProcessList}

theorem init (maxListEntries : Nat) :
    ProcessListOk maxListEntries { maxListEntries := maxListEntries } where
  maximum := rfl
  allocated := rfl
  bounded := Nat.zero_le _
  active _ hno := absurd hno List.not_mem_nil
  toKill _ hno := absurd hno List.not_mem_nil
  recorded := Recorded.init

/-- An entry that was just added is of no process. -/
private theorem recorded_add {nextPid : Nat} {calls : List (Nat × ProcessCall)}
    {active toKill : List ProcessListEntry} {entry : ProcessListEntry}
    (h : Recorded nextPid calls (active ++ toKill)) (hnew : ¬ entry.live = true) :
    Recorded nextPid calls (active ++ [entry] ++ toKill) := by
  have hfront : Recorded nextPid calls (entry :: (active ++ toKill)) := by
    refine ⟨?_, ?_, ?_, h.ordered, h.unused⟩
    · rw [List.filter_cons_of_neg hnew]
      exact h.distinct
    · exact List.forall_mem_cons.mpr ⟨fun hlive => absurd hlive hnew, h.started⟩
    · exact List.forall_mem_cons.mpr ⟨fun hlive => absurd hlive hnew, h.histories⟩
  rw [← List.append_cons]
  exact hfront.subperm List.perm_middle.subperm

theorem add (h : ProcessListOk maxListEntries plist) {name command : List UInt8} {run : Nat}
    (hadd : processListAdd plist name command run = some plist') :
    ProcessListOk maxListEntries plist' := by
  rw [processListAdd] at hadd
  split at hadd
  · cases hadd
  · next hroom =>
    split at hadd
    · cases hadd
    · next argv hargv =>
      cases hadd
      refine ⟨h.maximum, ?_, ?_, ?_, h.toKill,
        recorded_add h.recorded (by simp [ProcessListEntry.live])⟩
      · simp only [List.length_append, List.length_singleton, h.allocated]
        omega
      · rw [h.maximum] at hroom
        simp only
        omega
      · intro e he
        obtain he | he := List.mem_append.mp he
        · exact h.active e he
        · obtain rfl := List.mem_singleton.mp he
          exact .inl rfl

theorem execInitialized (h : ProcessListOk maxListEntries plist) (fork : Nat → Bool) :
    ProcessListOk maxListEntries (processListExecInitialized fork plist).2 := by
  rw [processListExecInitialized]
  cases hexec : processListExecEntries fork plist.nextPid plist.activeList with
  | mk ok r =>
    obtain ⟨active, executed, nextPid⟩ := r
    have hrecorded := h.recorded
    rw [← List.nil_append (plist.activeList ++ _)] at hrecorded
    obtain ⟨hrecorded, hstates, hlength⟩ := processListExecEntries_recorded fork hrecorded h.active hexec
    exact ⟨h.maximum, by rw [h.allocated, hlength], h.bounded, hstates, h.toKill, hrecorded⟩

theorem waitpid (h : ProcessListOk maxListEntries plist) (waitpid : Nat → Waitpid) :
    ProcessListOk maxListEntries (processListWaitpid waitpid plist).2 := by
  rw [processListWaitpid]
  cases hwait : processListWaitEntries waitpid plist.activeList with
  | mk ok r =>
    obtain ⟨active, finished, calls⟩ := r
    have hrecorded := h.recorded
    rw [← List.nil_append (plist.activeList ++ _)] at hrecorded
    obtain ⟨hrecorded, hstates, hlength⟩ :=
      processListWaitEntries_recorded waitpid hrecorded h.active hwait
    cases ok with
    | false => exact ⟨h.maximum, by rw [h.allocated, hlength], h.bounded, hstates, h.toKill, hrecorded⟩
    | true =>
      cases hkill : processListWaitKillEntries waitpid plist.toKillList with
      | mk ok₁ r =>
        obtain ⟨remaining, killed, killCalls⟩ := r
        rw [List.nil_append] at hrecorded
        obtain ⟨hrecorded, hkills, hshorter⟩ :=
          processListWaitKillEntries_recorded waitpid hrecorded h.toKill hkill
        have hallocated := h.allocated
        have hbounded := h.bounded
        refine ⟨h.maximum, ?_, ?_, hstates, hkills, ?_⟩
        · simp only
          omega
        · simp only
          omega
        · simp only [← List.append_assoc]
          exact hrecorded

theorem moveActiveEntriesToKillList (h : ProcessListOk maxListEntries plist) :
    ProcessListOk maxListEntries (processListMoveActiveEntriesToKillList plist) := by
  have hshorter := List.length_filter_le
    (fun e : ProcessListEntry => !(e.state = .initialized || e.state = .finished)) plist.activeList
  have hallocated := h.allocated
  have hbounded := h.bounded
  refine ⟨h.maximum, ?_, ?_, fun _ hno => absurd hno List.not_mem_nil, fun e he => ?_, ?_⟩
  · simp only [processListMoveActiveEntriesToKillList, List.length_append, List.length_nil]
    omega
  · simp only [processListMoveActiveEntriesToKillList]
    omega
  · obtain he | he := List.mem_append.mp he
    · exact h.toKill e he
    · obtain ⟨he, hkept⟩ := List.mem_filter.mp he
      rcases h.active e he with hstate | hstate | hstate
      · simp [hstate] at hkept
      · exact .inl hstate
      · simp [hstate] at hkept
  · refine h.recorded.subperm ?_
    have hsublist := List.Sublist.append_right (List.filter_sublist
      (p := fun e : ProcessListEntry => !(e.state = .initialized || e.state = .finished))
      (l := plist.activeList)) plist.toKillList
    simp only [processListMoveActiveEntriesToKillList, List.nil_append]
    exact (List.perm_append_comm.subperm).trans hsublist.subperm

/-- A pass over the kill list never comes to an entry that was not started or has finished. -/
theorem processKillList (h : ProcessListOk maxListEntries plist) (waitpid : Nat → Waitpid)
    (kill : Nat → Bool) :
    ProcessListOk maxListEntries (processListProcessKillList waitpid kill plist).2 ∧
      (processListProcessKillList waitpid kill plist).1 ≠ .error .assertion := by
  have hafter := h.waitpid waitpid
  rw [processListProcessKillList]
  cases hwait : processListWaitpid waitpid plist with
  | mk ok plist₁ =>
    simp only [hwait] at hafter
    cases ok with
    | false => exact ⟨hafter, by simp⟩
    | true =>
      cases hkill : processListKillEntries kill plist₁.toKillList with
      | mk res r =>
        obtain ⟨entries, calls⟩ := r
        obtain ⟨hrecorded, hstates, hlength, hassert⟩ :=
          processListKillEntries_recorded kill hafter.recorded hafter.toKill hkill
        simp only [hkill]
        refine ⟨⟨hafter.maximum, ?_, hafter.bounded, hafter.active, hstates, hrecorded⟩, hassert⟩
        simp only [hafter.allocated, hlength]

end ProcessListOk

/-! ### Runs -/

/-- An operation on a process list, with what `fork`, `waitpid` and `kill` return. -/
inductive ProcessListOp where
  | add (name command : List UInt8) (run : Nat)
  | execInitialized (fork : Nat → Bool)
  | waitpid (waitpid : Nat → Waitpid)
  | moveActiveEntriesToKillList
  | processKillList (waitpid : Nat → Waitpid) (kill : Nat → Bool)

/-- One operation.  A failed assertion ends the run. -/
def processListStep (plist : ProcessList) : ProcessListOp → Option ProcessList
  | .add name command run => some ((processListAdd plist name command run).getD plist)
  | .execInitialized fork => some (processListExecInitialized fork plist).2
  | .waitpid waitpid => some (processListWaitpid waitpid plist).2
  | .moveActiveEntriesToKillList => some (processListMoveActiveEntriesToKillList plist)
  | .processKillList waitpid kill =>
    match processListProcessKillList waitpid kill plist with
    | (.error .assertion, _) => none
    | (_, plist) => some plist

/-- The operations one after the other, from `process_list_init` on. -/
def processListMachine (maxListEntries : Nat) : Runs.Machine ProcessList ProcessListOp where
  init := { maxListEntries := maxListEntries }
  step := processListStep

theorem ProcessListOk.step {maxListEntries : Nat} {plist plist' : ProcessList} {op : ProcessListOp}
    (h : ProcessListOk maxListEntries plist) (hstep : processListStep plist op = some plist') :
    ProcessListOk maxListEntries plist' := by
  cases op with
  | add name command run =>
    cases hstep
    cases hadd : processListAdd plist name command run with
    | none => exact h
    | some plist₁ => exact h.add hadd
  | execInitialized fork =>
    cases hstep
    exact h.execInitialized fork
  | waitpid waitpid =>
    cases hstep
    exact h.waitpid waitpid
  | moveActiveEntriesToKillList =>
    cases hstep
    exact h.moveActiveEntriesToKillList
  | processKillList waitpid kill =>
    have hafter := (h.processKillList waitpid kill).1
    simp only [processListStep] at hstep
    split at hstep
    · cases hstep
    · next hkill =>
      cases hstep
      rw [hkill] at hafter
      exact hafter

theorem processListOk_of_reach {maxListEntries : Nat} {plist : ProcessList}
    (h : (processListMachine maxListEntries).Reach (fun _ _ => True) plist) :
    ProcessListOk maxListEntries plist :=
  h.invariant (ProcessListOk maxListEntries) (ProcessListOk.init maxListEntries)
    fun _ hok _ hstep => hok.step hstep

/-! ### What the record says -/

theorem Signals.not_reaped {history : List ProcessCall} (h : Signals history) :
    .reaped ∉ history := by
  obtain rfl | ⟨n, rfl⟩ := h
  · exact List.not_mem_nil
  · intro hmem
    obtain hmem | hmem := List.mem_cons.mp hmem
    · cases hmem
    · cases List.eq_of_mem_replicate hmem

/-- After a process was reaped there is no call for it. -/
theorem HistoryOk.later_eq_nil {earlier later : List ProcessCall}
    (h : HistoryOk (earlier ++ .reaped :: later)) : later = [] := by
  obtain ⟨signals, hsignals, heq | heq⟩ := h
  · exact absurd (heq ▸ List.mem_append_right _ (.head _)) hsignals.not_reaped
  · -- The last call is the only one that reaps.
    rcases List.eq_nil_or_concat later with rfl | ⟨later, call, rfl⟩
    · rfl
    · rw [List.concat_eq_append, List.append_cons, ← List.append_assoc] at heq
      have hsame : earlier ++ [.reaped] ++ later = signals := (List.append_inj' heq rfl).1
      refine absurd ?_ hsignals.not_reaped
      simp [← hsame]

theorem HistoryOk.signals {history : List ProcessCall} (h : HistoryOk history) :
    Signals (history.filter (· ≠ .reaped)) := by
  obtain ⟨signals, hsignals, hhistory⟩ := h
  have hself : signals.filter (· ≠ .reaped) = signals :=
    List.filter_eq_self.mpr fun call hcall => decide_eq_true fun heq =>
      hsignals.not_reaped (heq ▸ hcall)
  obtain rfl | rfl := hhistory
  · rwa [hself]
  · rw [List.filter_append, hself]
    simpa using hsignals

/-- The life cycle of the entries, in every run: the counter is right and bounded, each list
    holds only entries in its own states, so that no assertion fails, each process gets SIGTERM
    first and only SIGKILL afterwards, and none gets a signal after it was reaped. -/
theorem processList_lifeCycle (maxListEntries : Nat) (plist : ProcessList)
    (h : (processListMachine maxListEntries).Reach (fun _ _ => True) plist) :
    plist.allocatedListEntries = plist.activeList.length + plist.toKillList.length ∧
    plist.maxListEntries = maxListEntries ∧ plist.allocatedListEntries ≤ maxListEntries ∧
    (∀ e ∈ plist.activeList, ActiveState e) ∧ (∀ e ∈ plist.toKillList, KillState e) ∧
    (∀ waitpid kill,
      (processListProcessKillList waitpid kill plist).1 ≠ .error .assertion) ∧
    (∀ pid, Signals ((processHistory plist.calls pid).filter (· ≠ .reaped))) ∧
    (∀ pid earlier later, plist.calls = earlier ++ (pid, .reaped) :: later →
      ∀ sig, (pid, .kill sig) ∉ later) := by
  have hok := processListOk_of_reach h
  refine ⟨hok.allocated, hok.maximum, hok.bounded, hok.active, hok.toKill,
    fun waitpid kill => (hok.processKillList waitpid kill).2,
    fun pid => (hok.recorded.ordered pid).signals, fun pid earlier later heq sig hmem => ?_⟩
  have hordered := hok.recorded.ordered pid
  -- In the history of a pid nothing stands behind `reaped`.
  rw [heq, List.append_cons, processHistory_append, processHistory_append, processHistory_self,
    ← List.append_cons] at hordered
  have hnone := hordered.later_eq_nil
  have hlater : ProcessCall.kill sig ∈ processHistory later pid :=
    List.mem_map.mpr ⟨(pid, .kill sig), List.mem_filter.mpr ⟨hmem, beq_self_eq_true pid⟩, rfl⟩
  rw [hnone] at hlater
  cases hlater

/-- One command is started and killed, and ends after the second signal. -/
def killedCommand : List ProcessListOp :=
  [.add [97] [47, 97] 0, .execInitialized fun _ => true, .moveActiveEntriesToKillList,
    .processKillList (fun _ => .noChange) fun _ => true,
    .processKillList (fun _ => .noChange) fun _ => false,
    .waitpid fun _ => .ended (.signaled 9)]

theorem processList_lifeCycle_killed :
    ∃ plist ∈ (processListMachine 1).exec { maxListEntries := 1 } killedCommand,
      plist.calls = [(0, .kill .sigterm), (0, .kill .sigkill), (0, .reaped)] ∧
      plist.allocatedListEntries = plist.activeList.length + plist.toKillList.length := by
  have hrun : ∃ plist ∈ (processListMachine 1).exec { maxListEntries := 1 } killedCommand,
      plist.calls = [(0, .kill .sigterm), (0, .kill .sigkill), (0, .reaped)] := by
    decide +kernel
  obtain ⟨plist, hplist, hcalls⟩ := hrun
  have hreach := Runs.Machine.Reach.exec (fun _ _ => trivial)
    (.init : (processListMachine 1).Reach (fun _ _ => True) _) hplist
  exact ⟨plist, hplist, hcalls, (processList_lifeCycle 1 plist hreach).1⟩

end Qdevice
