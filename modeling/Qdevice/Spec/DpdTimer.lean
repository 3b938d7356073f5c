import Qdevice.ForStd.Pointers
import Qdevice.Native.QnetdClientDpdTimer
import Qdevice.Spec.TimerListExpire

/-! # Dead peer detection

The main timer list of `corosync-qnetd` holds the dpd timers of the clients beside the timers of
everybody else.  In every interleaving of accepted connections, messages, disconnects, expiries and
calls for other timers, a client that is not about to be disconnected has its own live timer, that
timer was started when its last message was dealt with, and the callback of the timer finds the
client it belongs to.  So `timer_list_expire` disconnects the clients that have been silent for
their interval, and nobody else. -/

namespace Qdevice.Qnetd

/-- What can happen to the dpd timers.  The interval of `heartbeat` is that of an INIT or SET_OPTION
    message; `other` is a call for a timer of somebody else. -/
inductive DpdEvent where
  | accept (env : TimerEnv) (id : ClientId)
  | message (env : TimerEnv) (id : ClientId)
  | heartbeat (env : TimerEnv) (id : ClientId) (heartbeatInterval : UInt32)
  | scheduleDisconnect (id : ClientId)
  | disconnect (id : ClientId)
  | expire (env : TimerEnv)
  | other (now : Nat) (op : TimerOp)

section

variable (settings : Settings) (toInterval : UInt32 → UInt32)

/-- A round of `timer_list_expire`.  What it does for an entry of somebody else is an `other`
    event. -/
def DpdInstance.expireOne (inst : DpdInstance) (env : TimerEnv) : Option DpdInstance :=
  match timerListExpired env.now inst.tlist with
  | none => some inst
  | some e =>
    match inst.dpdClient e with
    | none => some inst
    | some id => inst.timerListExpireDpd toInterval env e id

/-- A call for another timer.  A new entry has another callback. -/
def DpdInstance.otherCall (inst : DpdInstance) (now : Nat) (op : TimerOp) : Option DpdInstance := do
  let (tlist, added) ← op.apply toInterval now inst.tlist []
  some { inst with
    tlist, dpdClient := fun e => if e ∈ added then none else inst.dpdClient e }

/-- One event. -/
def DpdInstance.step (inst : DpdInstance) : DpdEvent → Option DpdInstance
  | .accept env id => inst.clientNetAccept settings toInterval env id
  | .message env id => inst.clientMsgReceived toInterval env id
  | .heartbeat env id heartbeatInterval =>
    inst.clientMsgReceivedHeartbeat settings toInterval env id heartbeatInterval
  | .scheduleDisconnect id => some (inst.clientScheduleDisconnect id)
  | .disconnect id => inst.clientDisconnect id
  | .expire env => inst.expireOne toInterval env
  | .other now op => inst.otherCall toInterval now op

/-- The clients and their timers, with no client at first.  The state is `none` after a failed
    assertion or the use of a client that has been freed. -/
def dpdMachine : Runs.Machine (Option DpdInstance) DpdEvent where
  init := some {}
  step state event := state.map fun inst => inst.step settings toInterval event

/-- The differences the list computes fit, and a call for a timer of somebody else is for a live
    one. -/
def DpdInstance.Ok (inst : DpdInstance) (event : DpdEvent) : Prop :=
  inst.tlist.InRange toInterval ∧
    match event with
    | .other _ op => ∀ e ∈ op.entry?, e ∈ inst.tlist.entries ∧ inst.dpdClient e = none
    | _ => True

/-- The guard of a run. -/
def DpdOk (state : Option DpdInstance) (event : DpdEvent) : Prop :=
  ∀ inst ∈ state, inst.Ok toInterval event

end

/-! ### The invariant -/

namespace DpdInstance

/-- `client->dpd_timer` of the client behind a pointer. -/
def dpdTimer (inst : DpdInstance) (id : ClientId) : Option Nat :=
  (inst.client id).bind DpdClient.dpdTimer

@[simp] theorem setClient_tlist (inst : DpdInstance) (id : ClientId) (client : Option DpdClient) :
    (inst.setClient id client).tlist = inst.tlist := rfl

@[simp] theorem setClient_dpdClient (inst : DpdInstance) (id : ClientId)
    (client : Option DpdClient) : (inst.setClient id client).dpdClient = inst.dpdClient := rfl

@[simp] theorem setClient_self (inst : DpdInstance) (id : ClientId) (client : Option DpdClient) :
    (inst.setClient id client).client id = client :=
  Function.update_self ..

theorem setClient_of_ne (inst : DpdInstance) {id id' : ClientId} (h : id' ≠ id)
    (client : Option DpdClient) : (inst.setClient id client).client id' = inst.client id' :=
  Function.update_of_ne h ..

theorem dpdTimer_setClient (inst : DpdInstance) (id : ClientId) (client : Option DpdClient) :
    (inst.setClient id client).dpdTimer =
      Function.update inst.dpdTimer id (client.bind DpdClient.dpdTimer) := by
  funext id'
  unfold dpdTimer
  by_cases hid : id' = id
  · subst hid
    simp
  · rw [setClient_of_ne inst hid, Function.update_of_ne hid]

end DpdInstance

/-- What the timer of a client is, given the list.  The interval of a request is not taken if it is
    not one for a timer. -/
structure DpdClient.Watched (settings : Settings) (tlist : TimerList) (client : DpdClient) :
    Prop where
  enabled : client.dpdTimer.isSome = true → settings.dpdEnabled = true
  watched : client.scheduleDisconnect = false → settings.dpdEnabled = true →
    client.dpdTimer.isSome = true
  since : ∀ e ∈ client.dpdTimer, (tlist.entry e).since = client.lastMsg
  interval : ∀ e ∈ client.dpdTimer,
    timerListIntervalValid (settings.dpdInterval client.heartbeatInterval) = true →
      (tlist.entry e).interval = settings.dpdInterval client.heartbeatInterval

/-- What holds of the clients and the list in every run. -/
structure DpdInstance.Inv (settings : Settings) (toInterval : UInt32 → UInt32)
    (inst : DpdInstance) : Prop where
  valid : inst.tlist.Valid
  ordered : inst.tlist.Ordered toInterval
  points : PointsTo (· ∈ inst.tlist.entries) inst.dpdClient inst.dpdTimer
  clients : ∀ id, ∀ client ∈ inst.client id, client.Watched settings inst.tlist

section

variable {settings : Settings} {toInterval : UInt32 → UInt32} {inst : DpdInstance}

/-! ### Calls of the list -/

/-- An entry is only returned for an interval that a timer can have. -/
theorem one_le_of_timerListAdd {alloc : TimerAlloc} {now e : Nat} {interval : UInt32} {func : Bool}
    {tlist tlist' : TimerList}
    (h : timerListAdd toInterval alloc now interval func tlist = some (tlist', some e)) :
    1 ≤ interval := by
  unfold timerListAdd at h
  split at h
  · cases h
  · next htaken =>
    simp only [not_or, UInt32.not_lt] at htaken
    exact htaken.1

theorem one_le_of_timerListEntrySetInterval {realloc : Bool} {now e : Nat} {interval : UInt32}
    {tlist tlist' : TimerList}
    (h : timerListEntrySetInterval toInterval realloc now interval tlist e = some (tlist', true)) :
    1 ≤ interval := by
  unfold timerListEntrySetInterval at h
  split at h
  · cases h
  · next htaken =>
    simp only [not_or, UInt32.not_lt] at htaken
    exact htaken.1

/-- `timer_list_entry_set_interval` takes an interval that a timer can have. -/
theorem done_of_timerListEntrySetInterval {realloc done : Bool} {now e : Nat} {interval : UInt32}
    {tlist tlist' : TimerList} (hactive : (tlist.entry e).isActive = true)
    (hvalid : timerListIntervalValid interval = true)
    (h : timerListEntrySetInterval toInterval realloc now interval tlist e = some (tlist', done)) :
    done = true := by
  unfold timerListIntervalValid at hvalid
  simp only [Bool.and_eq_true, decide_eq_true_eq] at hvalid
  have hlow : ¬ interval < 1 := UInt32.not_lt.mpr hvalid.1
  have hhigh : ¬ interval > Qdevice.timerListMaxInterval := UInt32.not_lt.mpr hvalid.2
  rw [timerListEntrySetInterval, if_neg (not_or.mpr ⟨hlow, hhigh⟩), if_neg (by simp [hactive]),
    Option.bind_eq_bind, Option.bind_eq_some_iff] at h
  obtain ⟨tlist₁, -, hres⟩ := h
  cases hres
  rfl

/-- The array could not grow: all timers are as they were. -/
theorem addFailed_timer {tlist tlist' : TimerList}
    (h : TimerList.AddFailed tlist tlist') (hv : tlist.Valid) {e : Nat} (he : e ∈ tlist.entries) :
    (tlist'.entry e).timer = (tlist.entry e).timer := by
  obtain ⟨e', rest, htaken, -, hsame⟩ := h.taken
  rw [hsame e]
  rintro rfl
  exact htaken.notMem hv he

/-- What is left after a timer was deleted. -/
theorem removed_mem_iff {tlist tlist' : TimerList} {e : Nat}
    (h : TimerList.Removed tlist tlist' e) (hv : tlist.Valid) (x : Nat) :
    x ∈ tlist'.entries ↔ x ≠ e ∧ x ∈ tlist.entries := by
  rw [← h.perm.mem_iff, List.mem_cons]
  have hgone := h.notMem hv
  constructor
  · intro hx
    refine ⟨?_, .inr hx⟩
    rintro rfl
    exact hgone hx
  · rintro ⟨hne, hx⟩
    exact hx.resolve_left hne

/-! ### Changes -/

/-- Only the content of its own timer matters to a client. -/
theorem DpdClient.Watched.congr {tlist tlist' : TimerList} {client : DpdClient}
    (h : client.Watched settings tlist)
    (htimer : ∀ e ∈ client.dpdTimer, (tlist'.entry e).timer = (tlist.entry e).timer) :
    client.Watched settings tlist' where
  enabled := h.enabled
  watched := h.watched
  since e he := (congrArg TimerListEntry.since (htimer e he)).trans (h.since e he)
  interval e he hvalid :=
    (congrArg TimerListEntry.interval (htimer e he)).trans (h.interval e he hvalid)

namespace DpdInstance

theorem inv_init : ({} : DpdInstance).Inv settings toInterval where
  valid := TimerList.valid_empty
  ordered := ⟨fun _ hno => absurd hno List.not_mem_nil, fun _ => Heap.isHeap_nil⟩
  points := by
    intro id e
    simp [dpdTimer]
  clients id client h := by cases h

theorem Inv.live (h : inst.Inv settings toInterval) {id : ClientId} {client : DpdClient}
    (hclient : inst.client id = some client) {e : Nat} (he : client.dpdTimer = some e) :
    inst.dpdTimer id = some e ∧ e ∈ inst.tlist.entries := by
  have hptr : inst.dpdTimer id = some e := by
    unfold dpdTimer
    rw [hclient]
    exact he
  exact ⟨hptr, h.points.live hptr⟩

/-- The invariant after a change to one client and to the list: the timers of the others are not
    touched. -/
theorem Inv.update (h : inst.Inv settings toInterval) (id : ClientId) (client : Option DpdClient)
    {tlist : TimerList} {dpdClient : Nat → Option ClientId} (hvalid : tlist.Valid)
    (hordered : tlist.Ordered toInterval)
    (hpoints : PointsTo (· ∈ tlist.entries) dpdClient
      (Function.update inst.dpdTimer id (client.bind DpdClient.dpdTimer)))
    (hothers : ∀ id' e, id' ≠ id → inst.dpdTimer id' = some e →
      (tlist.entry e).timer = (inst.tlist.entry e).timer)
    (hclient : ∀ c ∈ client, c.Watched settings tlist) :
    ({ inst with tlist, dpdClient }.setClient id client).Inv settings toInterval where
  valid := hvalid
  ordered := hordered
  points := by
    rw [dpdTimer_setClient]
    exact hpoints
  clients id' c hc := by
    by_cases hid : id' = id
    · subst hid
      rw [setClient_self] at hc
      exact hclient c hc
    · rw [setClient_of_ne _ hid] at hc
      refine (h.clients id' c hc).congr fun e he => hothers id' e hid ?_
      exact (h.live hc he).1

/-- Only the client has changed, and it has the timer that it had. -/
theorem Inv.setClient (h : inst.Inv settings toInterval) (id : ClientId)
    (client : Option DpdClient) (htimer : client.bind DpdClient.dpdTimer = inst.dpdTimer id)
    (hclient : ∀ c ∈ client, c.Watched settings inst.tlist) :
    (inst.setClient id client).Inv settings toInterval := by
  apply h.update id client h.valid h.ordered ?_ (fun _ _ _ _ => rfl) hclient
  rw [htimer, Function.update_eq_self]
  exact h.points

/-- The entry of a client was put in again. -/
theorem Inv.moved (h : inst.Inv settings toInterval) (hr : inst.tlist.InRange toInterval)
    {id : ClientId} {client client' : DpdClient} (hclient : inst.client id = some client) {e : Nat}
    (he : client.dpdTimer = some e) (he' : client'.dpdTimer = some e) {new : TimerListEntry}
    {tlist : TimerList} (hmoved : TimerList.Moved toInterval new inst.tlist tlist e)
    (hfresh : new.Fresh)
    (hinterval : 1 ≤ (toInterval new.interval).toNat ∨
      new.interval = (inst.tlist.entry e).interval)
    (hwatched : client'.Watched settings tlist) :
    ({ inst with tlist }.setClient id (some client')).Inv settings toInterval := by
  obtain ⟨hptr, hmem⟩ := h.live hclient he
  have hchange : TimerChange toInterval (fun i => 1 ≤ (toInterval i).toNat) inst.tlist tlist [] [] :=
    .moved hmoved hmem hfresh hinterval
  apply h.update id (some client') (hchange.valid h.valid) (hchange.ordered h.valid h.ordered hr)
  · -- the pointers are as they were
    rw [Option.bind_some, he', ← hptr, Function.update_eq_self]
    exact h.points.congr fun x => hmoved.perm.mem_iff
  · intro id' x hid hx
    refine hmoved.timer_of_ne x ?_
    rintro rfl
    exact hid (h.points.inj hx hptr)
  · intro c hc
    cases hc
    exact hwatched

/-- The entry of a client was deleted, and the client no longer has it. -/
theorem Inv.removed (h : inst.Inv settings toInterval) (hr : inst.tlist.InRange toInterval)
    {id : ClientId} {e : Nat} (hptr : inst.dpdTimer id = some e) {tlist : TimerList}
    (hremoved : TimerList.Removed inst.tlist tlist e) {client : Option DpdClient}
    (hnone : client.bind DpdClient.dpdTimer = none)
    (hwatched : ∀ c ∈ client, c.Watched settings tlist) :
    ({ inst with tlist }.setClient id client).Inv settings toInterval := by
  have hchange : TimerChange toInterval (fun i => 1 ≤ (toInterval i).toNat) inst.tlist tlist []
      ([].erase e) := .removed hremoved
  apply h.update id client (hchange.valid h.valid) (hchange.ordered h.valid h.ordered hr)
  · rw [hnone]
    exact h.points.erase hptr (removed_mem_iff hremoved h.valid)
  · intro id' x hid hx
    refine hremoved.timer_of_ne x ?_
    rintro rfl
    exact hid (h.points.inj hx hptr)
  · exact hwatched

end DpdInstance

/-! ### The events -/

/-- A client without a timer that does not need one. -/
theorem DpdClient.Watched.of_none {client : DpdClient} {tlist : TimerList}
    (hnone : client.dpdTimer = none)
    (hoff : client.scheduleDisconnect = true ∨ settings.dpdEnabled = false) :
    client.Watched settings tlist where
  enabled h := by
    rw [hnone] at h
    cases h
  watched hstays henabled := by
    rcases hoff with hoff | hoff
    · rw [hoff] at hstays
      cases hstays
    · rw [hoff] at henabled
      cases henabled
  since e he := by
    rw [hnone] at he
    cases he
  interval e he := by
    rw [hnone] at he
    cases he

namespace DpdInstance

/-- The list and the client are written one after the other. -/
theorem setClient_setClient (inst : DpdInstance) (id : ClientId) (client client' : Option DpdClient)
    (tlist : TimerList) (dpdClient : Nat → Option ClientId) :
    ({ inst.setClient id client with tlist, dpdClient } : DpdInstance).setClient id client' =
      ({ inst with tlist, dpdClient } : DpdInstance).setClient id client' := by
  simp [setClient]

/-- A new client has a timer, or the connection is closed. -/
theorem clientNetAccept_spec (htick : ∀ i, 1 ≤ i → 1 ≤ (toInterval i).toNat) (env : TimerEnv)
    (id : ClientId) (h : inst.Inv settings toInterval) (hr : inst.tlist.InRange toInterval) :
    ∃ inst', inst.clientNetAccept settings toInterval env id = some inst' ∧
      inst'.Inv settings toInterval := by
  unfold clientNetAccept
  cases hclient : inst.client id with
  | some client => exact ⟨inst, rfl, h⟩
  | none =>
    have hnone : inst.dpdTimer id = none := by
      unfold dpdTimer
      rw [hclient]
      rfl
    unfold clientDpdTimerInit
    by_cases hdisabled : settings.dpdEnabled = false
    · refine ⟨_, by simp only [if_pos hdisabled]; rfl, ?_⟩
      apply h.setClient id (some { lastMsg := env.now }) hnone.symm
      intro c hc
      cases hc
      exact .of_none rfl (.inr hdisabled)
    · obtain ⟨tlist, added, hadd, hspec⟩ := timerListAdd_spec toInterval env.alloc env.now
        (settings.dpdInterval qnetdDefaultHeartbeatIntervalMax) true h.valid
      simp only [if_neg hdisabled, setClient_tlist, hadd, Option.bind_eq_bind, Option.bind_some]
      rcases hspec with ⟨rfl, hfailed⟩ | ⟨e, rfl, hadded⟩
      · -- no timer: the client is freed again
        refine ⟨_, rfl, ?_⟩
        have hchange : TimerChange toInterval (fun i => 1 ≤ (toInterval i).toNat) inst.tlist tlist
            [] [] := by
          rcases hfailed with hsame | hfailed
          · exact .same hsame
          · exact .failed hfailed
        show (({ inst.setClient id _ with tlist } : DpdInstance).setClient id none).Inv _ _
        rw [setClient_setClient]
        have hentries : tlist.entries = inst.tlist.entries := by
          rcases hfailed with rfl | hfailed
          · rfl
          · exact hfailed.entries
        apply h.update id none (hchange.valid h.valid) (hchange.ordered h.valid h.ordered hr)
        · rw [Option.bind_none, ← hnone, Function.update_eq_self, hentries]
          exact h.points
        · intro id' x _ hx
          rcases hfailed with rfl | hfailed
          · rfl
          · exact addFailed_timer hfailed h.valid (h.points.live hx)
        · intro c hc
          cases hc
      · refine ⟨_, rfl, ?_⟩
        show (({ inst.setClient id _ with tlist, dpdClient := _ } : DpdInstance).setClient id _).Inv
          _ _
        rw [setClient_setClient]
        have hchange : TimerChange toInterval (fun i => 1 ≤ (toInterval i).toNat) inst.tlist tlist
            [] [e] := .added hadded ⟨rfl, rfl⟩ (htick _ (one_le_of_timerListAdd hadd))
        apply h.update id _ (hchange.valid h.valid) (hchange.ordered h.valid h.ordered hr)
        · apply h.points.insert hnone (hadded.taken.notMem h.valid)
          intro x
          rw [hadded.inserted.2.mem_iff, List.mem_cons]
        · intro id' x _ hx
          apply hadded.timer_of_ne x
          rintro rfl
          exact hadded.taken.notMem h.valid (h.points.live hx)
        · intro c hc
          cases hc
          have hself := hadded.timer_self
          refine ⟨fun _ => by simpa using hdisabled, fun _ _ => rfl, ?_, ?_⟩
          · rintro x ⟨⟩
            exact congrArg TimerListEntry.since hself
          · rintro x ⟨⟩ -
            exact congrArg TimerListEntry.interval hself

/-- Without a timer nothing is done. -/
theorem clientDpdTimerReschedule_none (env : TimerEnv) {client : DpdClient}
    (hnone : client.dpdTimer = none) :
    inst.clientDpdTimerReschedule toInterval env client = some inst := by
  unfold clientDpdTimerReschedule
  rw [hnone]

theorem clientDpdTimerReschedule_some (env : TimerEnv) {client : DpdClient} {e : Nat}
    (he : client.dpdTimer = some e) :
    inst.clientDpdTimerReschedule toInterval env client =
      (timerListEntryReschedule toInterval env.alloc.realloc env.now inst.tlist e).map
        fun tlist => { inst with tlist } := by
  unfold clientDpdTimerReschedule
  rw [he, Option.map_eq_bind]
  rfl

theorem clientDpdTimerDestroy_none (id : ClientId) {client : DpdClient}
    (hnone : client.dpdTimer = none) : inst.clientDpdTimerDestroy id client = some inst := by
  unfold clientDpdTimerDestroy
  rw [hnone]

theorem clientDpdTimerDestroy_some (id : ClientId) {client : DpdClient} {e : Nat}
    (he : client.dpdTimer = some e) :
    inst.clientDpdTimerDestroy id client = (timerListEntryDelete inst.tlist e).map fun tlist =>
      { inst with tlist }.setClient id (some { client with dpdTimer := none }) := by
  unfold clientDpdTimerDestroy
  rw [he, Option.map_eq_bind]
  rfl

theorem clientDpdTimerUpdateInterval_none (env : TimerEnv) (id : ClientId) {client : DpdClient}
    (hnone : client.dpdTimer = none) :
    inst.clientDpdTimerUpdateInterval settings toInterval env id client = some inst := by
  unfold clientDpdTimerUpdateInterval
  rw [hnone]

theorem clientDpdTimerUpdateInterval_some (env : TimerEnv) (id : ClientId) {client : DpdClient}
    {e : Nat} (he : client.dpdTimer = some e) :
    inst.clientDpdTimerUpdateInterval settings toInterval env id client =
      (timerListEntrySetInterval toInterval env.alloc.realloc env.now
        (settings.dpdInterval client.heartbeatInterval) inst.tlist e).map fun res =>
          if res.2 then
            { inst with tlist := res.1 }.setClient id (some { client with lastMsg := env.now })
          else { inst with tlist := res.1 } := by
  unfold clientDpdTimerUpdateInterval
  rw [he, Option.map_eq_bind]
  rfl

/-- A client that stays and has no timer has none because none has. -/
theorem disabled_of_none {client : DpdClient} {tlist : TimerList}
    (h : client.Watched settings tlist) (hstays : ¬ client.scheduleDisconnect = true)
    (hnone : client.dpdTimer = none) : settings.dpdEnabled = false := by
  by_contra hon
  have hsome := h.watched (by simpa using hstays) (by simpa using hon)
  rw [hnone] at hsome
  cases hsome

theorem dpdTimer_eq {id : ClientId} {client : DpdClient} (h : inst.client id = some client) :
    inst.dpdTimer id = client.dpdTimer := by
  unfold dpdTimer
  rw [h]
  rfl

/-- A message starts the timer of its client again. -/
theorem clientMsgReceived_spec (env : TimerEnv) (id : ClientId)
    (h : inst.Inv settings toInterval) (hr : inst.tlist.InRange toInterval) :
    ∃ inst', inst.clientMsgReceived toInterval env id = some inst' ∧
      inst'.Inv settings toInterval := by
  unfold clientMsgReceived
  cases hclient : inst.client id with
  | none => exact ⟨inst, rfl, h⟩
  | some client =>
    have hwatched := h.clients id client hclient
    by_cases hschedule : client.scheduleDisconnect = true
    · exact ⟨inst, by simp only [if_pos hschedule], h⟩
    simp only [if_neg hschedule]
    let client' : DpdClient := { client with lastMsg := env.now }
    rcases Option.eq_none_or_eq_some client.dpdTimer with htimer | ⟨e, htimer⟩
    · rw [clientDpdTimerReschedule_none env htimer]
      refine ⟨_, rfl, ?_⟩
      apply h.setClient id (some client') (dpdTimer_eq hclient).symm
      intro c hc
      cases hc
      exact .of_none htimer (.inr (disabled_of_none hwatched hschedule htimer))
    · obtain ⟨-, hmem⟩ := h.live hclient htimer
      obtain ⟨tlist, hmove, hmoved⟩ := timerListEntryReschedule_spec toInterval env.alloc.realloc
        env.now h.valid hmem
      rw [clientDpdTimerReschedule_some env htimer, hmove]
      refine ⟨_, rfl, ?_⟩
      have htimer' : client'.dpdTimer = some e := htimer
      apply h.moved hr hclient htimer htimer' hmoved ⟨h.valid.active e hmem, rfl⟩ (.inr rfl)
      have hself := hmoved.timer_self
      refine ⟨hwatched.enabled, hwatched.watched, ?_, ?_⟩
      · intro x hx
        cases htimer.symm.trans hx
        exact congrArg TimerListEntry.since hself
      · intro x hx hvalid
        have hinterval := hwatched.interval x hx hvalid
        cases htimer.symm.trans hx
        exact (congrArg TimerListEntry.interval hself).trans hinterval

/-- A heartbeat interval that the list refuses does not become that of the timer. -/
theorem clientMsgReceivedHeartbeat_spec (htick : ∀ i, 1 ≤ i → 1 ≤ (toInterval i).toNat)
    (env : TimerEnv) (id : ClientId) (heartbeatInterval : UInt32)
    (h : inst.Inv settings toInterval) (hr : inst.tlist.InRange toInterval) :
    ∃ inst', inst.clientMsgReceivedHeartbeat settings toInterval env id heartbeatInterval =
        some inst' ∧ inst'.Inv settings toInterval := by
  unfold clientMsgReceivedHeartbeat
  cases hclient : inst.client id with
  | none => exact ⟨inst, rfl, h⟩
  | some client =>
    have hwatched := h.clients id client hclient
    by_cases hschedule : client.scheduleDisconnect = true
    · exact ⟨inst, by simp only [if_pos hschedule], h⟩
    by_cases hrange : heartbeatInterval < settings.heartbeatIntervalMin ∨
        settings.heartbeatIntervalMax < heartbeatInterval
    · exact ⟨inst, by simp only [if_neg hschedule, if_pos hrange], h⟩
    simp only [if_neg hschedule, if_neg hrange]
    let client' : DpdClient := { client with heartbeatInterval }
    have hptr : client'.dpdTimer = inst.dpdTimer id := (dpdTimer_eq hclient).symm
    rcases Option.eq_none_or_eq_some client.dpdTimer with htimer | ⟨e, htimer⟩
    · refine ⟨_, clientDpdTimerUpdateInterval_none env id htimer, ?_⟩
      apply h.setClient id (some client') hptr
      intro c hc
      cases hc
      exact .of_none htimer (.inr (disabled_of_none hwatched hschedule htimer))
    · obtain ⟨-, hmem⟩ := h.live hclient htimer
      have hactive := h.valid.active e hmem
      have htimer' : client'.dpdTimer = some e := htimer
      rw [clientDpdTimerUpdateInterval_some env id htimer']
      obtain hrefused | ⟨tlist, hmove, hmoved⟩ := timerListEntrySetInterval_spec toInterval
        env.alloc.realloc env.now (settings.dpdInterval heartbeatInterval) h.valid hmem
      · refine ⟨inst.setClient id (some client'), by rw [setClient_tlist, hrefused]; rfl, ?_⟩
        apply h.setClient id (some client') hptr
        intro c hc
        cases hc
        refine ⟨hwatched.enabled, hwatched.watched, hwatched.since, ?_⟩
        intro x _ hvalid
        cases done_of_timerListEntrySetInterval hactive hvalid hrefused
      · refine ⟨({ inst with tlist }.setClient id
          (some { client' with lastMsg := env.now })), ?_, ?_⟩
        · rw [setClient_tlist, hmove]
          exact congrArg some (setClient_setClient inst id ..)
        · have hone := htick _ (one_le_of_timerListEntrySetInterval hmove)
          have hself := hmoved.timer_self
          let client'' : DpdClient := { client' with lastMsg := env.now }
          have htimer'' : client''.dpdTimer = some e := htimer
          apply h.moved hr hclient htimer htimer'' hmoved ⟨hactive, rfl⟩ (.inl hone)
          refine ⟨hwatched.enabled, hwatched.watched, ?_, ?_⟩
          · intro x hx
            cases htimer.symm.trans hx
            exact congrArg TimerListEntry.since hself
          · intro x hx _
            cases htimer.symm.trans hx
            exact congrArg TimerListEntry.interval hself

/-- A disconnected client leaves no timer behind. -/
theorem clientDisconnect_spec (id : ClientId) (h : inst.Inv settings toInterval)
    (hr : inst.tlist.InRange toInterval) :
    ∃ inst', inst.clientDisconnect id = some inst' ∧ inst'.Inv settings toInterval := by
  unfold clientDisconnect
  cases hclient : inst.client id with
  | none => exact ⟨inst, rfl, h⟩
  | some client =>
    have hptr := dpdTimer_eq hclient
    simp only
    rcases Option.eq_none_or_eq_some client.dpdTimer with htimer | ⟨e, htimer⟩
    · rw [clientDpdTimerDestroy_none id htimer]
      refine ⟨_, rfl, ?_⟩
      apply h.setClient id none
      · rw [hptr, htimer]
        rfl
      · intro c hc
        cases hc
    · rw [htimer] at hptr
      obtain ⟨tlist, hdelete, hremoved⟩ := timerListEntryDelete_spec h.valid (h.points.live hptr)
      rw [clientDpdTimerDestroy_some id htimer, hdelete]
      refine ⟨({ inst with tlist } : DpdInstance).setClient id none, ?_, ?_⟩
      · exact congrArg some (setClient_setClient { inst with tlist } id ..)
      · apply h.removed hr hptr hremoved rfl
        intro c hc
        cases hc

/-- Being about to be disconnected takes nothing away from a client. -/
theorem clientScheduleDisconnect_spec (id : ClientId) (h : inst.Inv settings toInterval) :
    (inst.clientScheduleDisconnect id).Inv settings toInterval := by
  unfold clientScheduleDisconnect
  cases hclient : inst.client id with
  | none =>
    apply h.setClient id
    · unfold dpdTimer
      rw [hclient]
      rfl
    · intro c hc
      cases hc
  | some client =>
    have hwatched := h.clients id client hclient
    apply h.setClient id
    · exact (dpdTimer_eq hclient).symm
    · intro c hc
      cases hc
      refine ⟨hwatched.enabled, ?_, hwatched.since, hwatched.interval⟩
      intro hno
      cases hno

/-- The callback of an entry finds the client that the entry belongs to, and then the entry is
    deleted. -/
theorem expireOne_of_owned (env : TimerEnv) (h : inst.Inv settings toInterval) {e : Nat}
    (hexpired : timerListExpired env.now inst.tlist = some e) {id : ClientId}
    (howner : inst.dpdClient e = some id) :
    ∃ client tlist, inst.client id = some client ∧ client.dpdTimer = some e ∧
      TimerList.Removed inst.tlist tlist e ∧
      inst.expireOne toInterval env = some (({ inst with tlist } : DpdInstance).setClient id
        (some { client with scheduleDisconnect := true, dpdTimer := none })) := by
  have hmem := mem_of_timerListExpired hexpired
  have hptr : inst.dpdTimer id = some e := (h.points id e).mpr ⟨hmem, howner⟩
  obtain ⟨client, hclient, htimer⟩ := Option.bind_eq_some_iff.mp hptr
  obtain ⟨tlist, hdelete, hremoved⟩ := timerListEntryDelete_spec h.valid hmem
  refine ⟨client, tlist, hclient, htimer, hremoved, ?_⟩
  unfold expireOne timerListExpireDpd dpdTimerCb
  simp only [hexpired, howner, hclient, htimer, Option.bind_eq_bind, Option.bind_some,
    setClient_tlist]
  rw [timerListExpireReturned, if_pos rfl, hdelete]
  rfl

theorem expireOne_spec (env : TimerEnv) (h : inst.Inv settings toInterval)
    (hr : inst.tlist.InRange toInterval) :
    ∃ inst', inst.expireOne toInterval env = some inst' ∧ inst'.Inv settings toInterval := by
  cases hexpired : timerListExpired env.now inst.tlist with
  | none => exact ⟨inst, by simp only [expireOne, hexpired], h⟩
  | some e =>
    cases howner : inst.dpdClient e with
    | none => exact ⟨inst, by simp only [expireOne, hexpired, howner], h⟩
    | some id =>
      obtain ⟨client, tlist, hclient, htimer, hremoved, hone⟩ :=
        expireOne_of_owned env h hexpired howner
      refine ⟨_, hone, ?_⟩
      have hptr : inst.dpdTimer id = some e := (dpdTimer_eq hclient).trans htimer
      apply h.removed hr hptr hremoved rfl
      intro c hc
      cases hc
      exact .of_none rfl (.inl rfl)

/-- The clients after a change of the list alone. -/
theorem Inv.list (h : inst.Inv settings toInterval) {tlist : TimerList}
    {dpdClient : Nat → Option ClientId} (hvalid : tlist.Valid)
    (hordered : tlist.Ordered toInterval)
    (hpoints : PointsTo (· ∈ tlist.entries) dpdClient inst.dpdTimer)
    (htimer : ∀ id e, inst.dpdTimer id = some e →
      (tlist.entry e).timer = (inst.tlist.entry e).timer) :
    ({ inst with tlist, dpdClient } : DpdInstance).Inv settings toInterval where
  valid := hvalid
  ordered := hordered
  points := hpoints
  clients id c hc := (h.clients id c hc).congr fun e he => htimer id e (h.live hc he).1

/-- A call for another timer does not touch those of the clients. -/
theorem otherCall_spec (htick : ∀ i, 1 ≤ i → 1 ≤ (toInterval i).toNat) (now : Nat) (op : TimerOp)
    (h : inst.Inv settings toInterval) (hr : inst.tlist.InRange toInterval)
    (hop : ∀ e ∈ op.entry?, e ∈ inst.tlist.entries ∧ inst.dpdClient e = none) :
    ∃ inst', inst.otherCall toInterval now op = some inst' ∧ inst'.Inv settings toInterval := by
  obtain ⟨tlist, added, happly, hchange, -⟩ := op.apply_spec toInterval [] now h.valid
    (fun e he => (hop e he).1) (fun i _ hi => htick i hi)
  have hvalid := hchange.valid h.valid
  have hordered := hchange.ordered h.valid h.ordered hr
  have hne {id : ClientId} {x e : Nat} (hx : inst.dpdTimer id = some x)
      (hother : inst.dpdClient e = none) : x ≠ e := by
    rintro rfl
    rw [h.points.owned hx] at hother
    cases hother
  refine ⟨_, by rw [otherCall, happly]; rfl, ?_⟩
  suffices hlist : PointsTo (· ∈ tlist.entries)
      (fun e => if e ∈ added then none else inst.dpdClient e) inst.dpdTimer ∧
      ∀ id e, inst.dpdTimer id = some e →
        (tlist.entry e).timer = (inst.tlist.entry e).timer from
    h.list hvalid hordered hlist.1 hlist.2
  -- a timer that is put in again, or not put in, keeps its place
  have hkept (hadded : added = []) (hentries : ∀ x, x ∈ tlist.entries ↔ x ∈ inst.tlist.entries) :
      PointsTo (· ∈ tlist.entries) (fun e => if e ∈ added then none else inst.dpdClient e)
        inst.dpdTimer := by
    subst hadded
    simp only [List.not_mem_nil, if_false]
    exact h.points.congr hentries
  unfold TimerOp.apply at happly
  cases op with
  | add alloc interval func =>
    obtain ⟨tlist', res, hadd, hspec⟩ :=
      timerListAdd_spec toInterval alloc now interval func h.valid
    simp only [hadd, Option.bind_eq_bind, Option.bind_some, Option.some.injEq,
      Prod.mk.injEq] at happly
    obtain ⟨rfl, rfl⟩ := happly
    rcases hspec with ⟨rfl, rfl | hfailed⟩ | ⟨e, rfl, hadded⟩
    · exact ⟨hkept rfl fun _ => Iff.rfl, fun _ _ _ => rfl⟩
    · exact ⟨hkept rfl fun x => by rw [hfailed.entries],
        fun _ _ he => addFailed_timer hfailed h.valid (h.points.live he)⟩
    · have hnew := hadded.taken.notMem h.valid
      constructor
      · have hpoints : PointsTo (· ∈ tlist'.entries) (Function.update inst.dpdClient e none)
            inst.dpdTimer := h.points.insertOther hnew fun x => by
          rw [hadded.inserted.2.mem_iff, List.mem_cons]
        convert hpoints using 1
        funext x
        by_cases hx : x = e
        · subst hx
          simp
        · simp [hx]
      · intro id x hx
        apply hadded.timer_of_ne x
        rintro rfl
        exact hnew (h.points.live hx)
  | delete e =>
    obtain ⟨hmem, hother⟩ := hop e rfl
    obtain ⟨tlist', hdelete, hremoved⟩ := timerListEntryDelete_spec h.valid hmem
    simp only [hdelete, Option.bind_eq_bind, Option.bind_some, Option.some.injEq,
      Prod.mk.injEq] at happly
    obtain ⟨rfl, rfl⟩ := happly
    refine ⟨?_, fun _ x hx => hremoved.timer_of_ne x (hne hx hother)⟩
    simp only [List.erase_nil, List.not_mem_nil, if_false]
    exact h.points.eraseOther hother (removed_mem_iff hremoved h.valid)
  | reschedule realloc e =>
    obtain ⟨hmem, hother⟩ := hop e rfl
    obtain ⟨tlist', hmove, hmoved⟩ :=
      timerListEntryReschedule_spec toInterval realloc now h.valid hmem
    simp only [hmove, Option.bind_eq_bind, Option.bind_some, Option.some.injEq,
      Prod.mk.injEq] at happly
    obtain ⟨rfl, rfl⟩ := happly
    exact ⟨hkept rfl fun _ => hmoved.perm.mem_iff,
      fun _ x hx => hmoved.timer_of_ne x (hne hx hother)⟩
  | setInterval realloc interval e =>
    obtain ⟨hmem, hother⟩ := hop e rfl
    obtain hrefused | ⟨tlist', hmove, hmoved⟩ :=
      timerListEntrySetInterval_spec toInterval realloc now interval h.valid hmem
    · simp only [hrefused, Option.bind_eq_bind, Option.bind_some, Option.some.injEq,
        Prod.mk.injEq] at happly
      obtain ⟨rfl, rfl⟩ := happly
      exact ⟨hkept rfl fun _ => Iff.rfl, fun _ _ _ => rfl⟩
    · simp only [hmove, Option.bind_eq_bind, Option.bind_some, Option.some.injEq,
        Prod.mk.injEq] at happly
      obtain ⟨rfl, rfl⟩ := happly
      exact ⟨hkept rfl fun _ => hmoved.perm.mem_iff,
        fun _ x hx => hmoved.timer_of_ne x (hne hx hother)⟩

/-- The invariant is kept by every event, and no assertion fails. -/
theorem Inv.step (htick : ∀ i, 1 ≤ i → 1 ≤ (toInterval i).toNat)
    (h : inst.Inv settings toInterval) {event : DpdEvent} (hok : inst.Ok toInterval event) :
    ∃ inst', inst.step settings toInterval event = some inst' ∧
      inst'.Inv settings toInterval := by
  obtain ⟨hr, hop⟩ := hok
  cases event with
  | accept env id => exact clientNetAccept_spec htick env id h hr
  | message env id => exact clientMsgReceived_spec env id h hr
  | heartbeat env id heartbeatInterval =>
    exact clientMsgReceivedHeartbeat_spec htick env id heartbeatInterval h hr
  | scheduleDisconnect id => exact ⟨_, rfl, clientScheduleDisconnect_spec id h⟩
  | disconnect id => exact clientDisconnect_spec id h hr
  | expire env => exact expireOne_spec env h hr
  | other now op => exact otherCall_spec htick now op h hr hop

end DpdInstance

/-- The invariant holds in every run. -/
theorem dpdMachine_inv (htick : ∀ i, 1 ≤ i → 1 ≤ (toInterval i).toNat)
    {state : Option DpdInstance}
    (h : (dpdMachine settings toInterval).Reach (DpdOk toInterval) state) :
    ∃ inst, state = some inst ∧ inst.Inv settings toInterval := by
  apply h.invariant fun state => ∃ inst, state = some inst ∧ inst.Inv settings toInterval
  · exact ⟨{}, rfl, DpdInstance.inv_init⟩
  · rintro s s' event - ⟨inst, rfl, hinv⟩ hok hstep
    obtain ⟨inst', hinst, hinv'⟩ := hinv.step htick (hok inst rfl)
    refine ⟨inst', ?_, hinv'⟩
    simp only [dpdMachine, Option.map_some, hinst] at hstep
    exact (Option.some.inj hstep).symm

/-! ### Silence -/

/-- The client has been silent for the interval of its timer. -/
def DpdInstance.Silent (toInterval : UInt32 → UInt32) (inst : DpdInstance) (now : Nat)
    (client : DpdClient) : Prop :=
  ∃ e ∈ client.dpdTimer, client.lastMsg + (toInterval (inst.tlist.entry e).interval).toNat ≤ now

/-- A client has been silent when its timer is due. -/
theorem DpdInstance.Inv.silent_iff (h : inst.Inv settings toInterval) {id : ClientId}
    {client : DpdClient} (hclient : inst.client id = some client) {now : Nat} :
    inst.Silent toInterval now client ↔
      ∃ e ∈ client.dpdTimer, e ∈ inst.tlist.due toInterval now := by
  have hwatched := h.clients id client hclient
  unfold Silent
  refine exists_congr fun e => and_congr_right fun he => ?_
  rw [mem_due, TimerListEntry.expiry, hwatched.since e he]
  exact (and_iff_right (h.live hclient he).2).symm

variable (settings) in
/-- **Dead peer detection**: in every run a client that stays connected has a live timer of its own,
    which counts from its last message.  When `timer_list_expire` finds a dpd timer expired, that is
    the timer of a client that has been silent, and that client is disconnected; when it finds none,
    no client that stays has been silent. -/
theorem dpd_disconnects_the_silent (htick : ∀ i, 1 ≤ i → 1 ≤ (toInterval i).toNat)
    {state : Option DpdInstance}
    (h : (dpdMachine settings toInterval).Reach (DpdOk toInterval) state) :
    ∃ inst, state = some inst ∧
      (∀ id, ∀ client ∈ inst.client id, settings.dpdEnabled = true →
        client.scheduleDisconnect = false →
        ∃ e ∈ client.dpdTimer, e ∈ inst.tlist.entries ∧ inst.dpdClient e = some id ∧
          (inst.tlist.entry e).since = client.lastMsg ∧
          (timerListIntervalValid (settings.dpdInterval client.heartbeatInterval) = true →
            (inst.tlist.entry e).interval = settings.dpdInterval client.heartbeatInterval)) ∧
      ∀ env : TimerEnv, inst.tlist.InRangeAt toInterval env.now →
        (∀ e ∈ timerListExpired env.now inst.tlist, ∀ id ∈ inst.dpdClient e,
          ∃ client ∈ inst.client id, client.dpdTimer = some e ∧
            inst.Silent toInterval env.now client ∧
            ∃ inst', inst.expireOne toInterval env = some inst' ∧
              inst'.client = Function.update inst.client id
                (some { client with scheduleDisconnect := true, dpdTimer := none })) ∧
        (timerListExpired env.now inst.tlist = none → ∀ id, ∀ client ∈ inst.client id,
          ¬ inst.Silent toInterval env.now client) := by
  obtain ⟨inst, rfl, hinv⟩ := dpdMachine_inv htick h
  refine ⟨inst, rfl, ?_, fun env hrange => ⟨?_, ?_⟩⟩
  · intro id client hclient henabled hstays
    have hwatched := hinv.clients id client hclient
    obtain ⟨e, he⟩ := Option.isSome_iff_exists.mp (hwatched.watched hstays henabled)
    obtain ⟨hptr, hmem⟩ := hinv.live hclient he
    exact ⟨e, he, hmem, hinv.points.owned hptr, hwatched.since e he, hwatched.interval e he⟩
  · -- A client is silent exactly if its entry is due, and if any is, the root is.
    intro e hexpired id howner
    have hdue := (timerListExpired_due hinv.ordered hrange hexpired).1
    obtain ⟨client, tlist, hclient, htimer, -, hone⟩ :=
      DpdInstance.expireOne_of_owned env hinv hexpired howner
    exact ⟨client, hclient, htimer, (hinv.silent_iff hclient).mpr ⟨e, htimer, hdue⟩, _, hone, rfl⟩
  · intro hnone id client hclient hsilent
    obtain ⟨e, -, hdue⟩ := (hinv.silent_iff hclient).mp hsilent
    rw [due_of_timerListExpired_none hinv.ordered hrange hnone] at hdue
    cases hdue

end

instance (toInterval : UInt32 → UInt32) (inst : DpdInstance) (event : DpdEvent) :
    Decidable (inst.Ok toInterval event) :=
  match event with
  | .other _ op =>
    have : Decidable (∀ e ∈ op.entry?, e ∈ inst.tlist.entries ∧ inst.dpdClient e = none) :=
      Option.decidableForallMem _
    inferInstanceAs (Decidable (_ ∧ ∀ e ∈ op.entry?, _))
  | .accept .. | .message .. | .heartbeat .. | .scheduleDisconnect _ | .disconnect _ | .expire _ =>
    inferInstanceAs (Decidable (_ ∧ True))

instance (toInterval : UInt32 → UInt32) (state : Option DpdInstance) (event : DpdEvent) :
    Decidable (DpdOk toInterval state event) :=
  Option.decidableForallMem _

/-- A server that watches its clients, for two heartbeat intervals of at most two minutes. -/
def Settings.watching : Settings where
  tlsSupported := .unsupported
  tlsClientCertRequired := false
  heartbeatIntervalMin := 1000
  heartbeatIntervalMax := 120000
  keepActivePartitionTieBreaker := .disabled
  dpdEnabled := true
  dpdInterval hb := 2 * hb
  certVerifyCertName := fun _ _ => false

/-- Two clients beside another timer.  Both ask for a heartbeat interval of 1000, then only the
    second one sends a message. -/
def dpdTwoClients : List DpdEvent :=
  [.accept { now := 0 } 1, .other 0 (.add {} 5000 true), .accept { now := 10 } 2,
    .heartbeat { now := 20 } 1 1000, .heartbeat { now := 30 } 2 1000, .message { now := 1500 } 2]

/-- The timer of the first client expires, and that client is disconnected. -/
theorem dpd_disconnects_the_silent_first :
    ∃ inst, (dpdMachine .watching id).Reach (DpdOk id) (some inst) ∧
      timerListExpired 2025 inst.tlist = some 0 ∧
      ∃ inst', inst.expireOne id { now := 2025 } = some inst' ∧
        ∃ client, client.scheduleDisconnect = true ∧ inst'.client 1 = some client ∧
          inst'.client 2 = inst.client 2 := by
  have hrun : ((dpdMachine .watching id).execWhile (fun s e => decide (DpdOk id s e))
      (dpdMachine .watching id).init dpdTwoClients).any (fun state =>
        state.any fun inst => timerListExpired 2025 inst.tlist == some 0 &&
          inst.dpdClient 0 == some 1 && decide (inst.tlist.InRangeAt id 2025)) := by
    decide +kernel
  simp only [Option.any_eq_true, Bool.and_eq_true, beq_iff_eq, decide_eq_true_eq] at hrun
  obtain ⟨_, hs, inst, rfl, ⟨hexpired, howner⟩, hrange⟩ := hrun
  have hreach : (dpdMachine .watching id).Reach (DpdOk id) (some inst) :=
    Runs.Machine.Reach.execWhile (fun s e h => of_decide_eq_true h) .init hs
  have htick (i : UInt32) (hi : 1 ≤ i) : 1 ≤ (id i).toNat := UInt32.le_iff_toNat_le.mp hi
  obtain ⟨inst₁, hinst, -, hexpire⟩ := dpd_disconnects_the_silent .watching htick hreach
  cases hinst
  obtain ⟨client, -, -, -, inst', hone, hclients⟩ :=
    (hexpire { now := 2025 } hrange).1 0 hexpired 1 howner
  refine ⟨inst, hreach, hexpired, inst', hone,
    { client with scheduleDisconnect := true, dpdTimer := none }, rfl, ?_, ?_⟩
  · rw [hclients, Function.update_self]
  · rw [hclients]
    exact Function.update_of_ne (by decide) ..

end Qdevice.Qnetd
