import Qdevice.Native.QnetdClientAlgoTimer
import Qdevice.Spec.LmsNewcomer
import Qdevice.Spec.TimerListRun

/-! # The wait timer of LMS

A client that `do_lms_algorithm` tells to wait gets its vote from the algorithm timer, so this timer
must not get lost.  The runs here put the timer list beside the cluster: `client->algo_timer` points
to an entry of the list, and the callback is called by `timer_list_expire`, which afterwards deletes
the entry or schedules it again.  Inside the callback the entry is deleted and put in again, taken
from the free list, and this is the entry that `timer_list_expire` then goes on with.

Everybody else who uses the list (the DPD timers, the clients of other clusters) may do so at any
time, with entries of his own. -/

namespace Qdevice.Qnetd

/-! ### Runs with the timer list -/

structure LmsTimerState where
  cluster : QnetdCluster
  /-- There are none once an assertion of the timer list has failed, or the callback was called for
      a client that is gone. -/
  timers : Option MainTimers := some {}
  /-- The last run of `do_lms_algorithm` on the connection has answered WAIT_FOR_REPLY, and the
      heartbeat interval gave a timeout that `timer_list_add` takes. -/
  waiting : ClientId → Bool := fun _ => false

inductive LmsTimerEvent where
  /-- A client sends INIT or another message, or is disconnected. -/
  | cluster (env : Env) (tenv : TimerEnv) (event : ClusterEvent)
  /-- One round of the loop of `timer_list_expire`, for the timer of a client of the cluster. -/
  | expire (env : Env) (tenv : TimerEnv) (now : Nat)
  /-- A call for a timer of somebody else.  The rounds of `timer_list_expire` for these timers are
      such calls too. -/
  | other (now : Nat) (op : TimerOp)

/-- `timer_list_add` takes a fourth of the heartbeat interval. -/
def TimeoutValid (client : QnetdClient) : Prop :=
  4 ≤ client.heartbeatInterval ∧ client.heartbeatInterval / 4 ≤ Qdevice.timerListMaxInterval

instance (client : QnetdClient) : Decidable (TimeoutValid client) :=
  inferInstanceAs (Decidable (_ ∧ _))

/-- Whether the client waits after a callback that has logged `log`. -/
def recordWaiting (client : QnetdClient) (log : List AlgoLog) (waiting : ClientId → Bool) :
    ClientId → Bool :=
  if log = [] then waiting
  else Function.update waiting client.id (log.any AlgoLog.lmsWaits && decide (TimeoutValid client))

section

variable (settings : Settings) (toInterval : UInt32 → UInt32)

/-- A message of a client, or its end; a new connection has no timer. -/
def clusterEventTimers (tenv : TimerEnv) (s : LmsTimerState) (timers : MainTimers)
    (cluster' : QnetdCluster) (log : List AlgoLog) : ClusterEvent → Option LmsTimerState
  | .init conn _ =>
    if (s.cluster.client? conn.id).isSome then some { s with cluster := cluster' }
    else
      some {
        cluster := cluster'
        timers := some
          { timers with algoTimer := Function.update timers.algoTimer conn.id none }
        waiting := Function.update s.waiting conn.id false }
  | .message id _ =>
    match s.cluster.client? id with
    | none => some { s with cluster := cluster' }
    | some client =>
      some {
        cluster := cluster'
        timers := doLmsTimers toInterval tenv timers client log
        waiting := recordWaiting client log s.waiting }
  | .disconnect id _ =>
    match s.cluster.client? id with
    | none => some { s with cluster := cluster' }
    | some client =>
      some {
        cluster := cluster'
        timers := timers.clientAlgoTimerAbort client.id
        waiting := Function.update s.waiting client.id false }
  | .algoTimer _ => none

/-- A round of `timer_list_expire` for entry `e`: the callback of a client, and what
    `timer_list_expire` does with the entry. -/
def expireTimers (env : Env) (tenv : TimerEnv) (now : Nat) (s : LmsTimerState)
    (timers : MainTimers) (e : Nat) (id : ClientId) : Option LmsTimerState :=
  match s.cluster.client? id with
  | none => some { s with timers := none }
  | some client =>
    match qnetdAlgorithmTimerCallback env s.cluster client,
        qnetdClientAlgoTimerCallback env s.cluster client with
    | .ok res, .ok { cluster, .. } =>
      some {
        cluster
        timers := do
          let (timers, again) ← lmsTimerCallbackTimers toInterval env tenv timers client res
          let tlist ← timerListExpireReturned toInterval tenv.alloc.realloc now again timers.tlist e
          some { timers with tlist }
        waiting := recordWaiting client res.result.log s.waiting }
    | _, _ => none

/-- One event.  The run ends when the server aborts, and when there are no timers any more. -/
def lmsTimerStep (s : LmsTimerState) (event : LmsTimerEvent) : Option LmsTimerState :=
  match s.timers, event with
  | none, _ => none
  | some timers, .cluster env tenv event =>
    match clusterStep settings env s.cluster event with
    | .error _ => none
    | .ok (cluster', log) => clusterEventTimers toInterval tenv s timers cluster' log event
  | some timers, .expire env tenv now =>
    match timerListExpired now timers.tlist with
    | none => none
    | some e =>
      match timers.func e with
      | .other => none
      | .algoTimer id => expireTimers toInterval env tenv now s timers e id
  | some timers, .other now op =>
    some { s with
      timers := do
        let (tlist, added) ← op.apply toInterval now timers.tlist []
        some { timers with
          tlist, func := fun e => if e ∈ added then .other else timers.func e } }

/-- The runs begin with an empty cluster and no timers. -/
def lmsTimerMachine (id : ClusterId) (name : List UInt8) :
    Runs.Machine LmsTimerState LmsTimerEvent where
  init := { cluster := emptyCluster id name }
  step := lmsTimerStep settings toInterval

end

/-- There is memory for a timer. -/
def TimerEnv.Allocates (tenv : TimerEnv) : Prop :=
  tenv.alloc.malloc = true ∧ tenv.alloc.realloc = true

instance (tenv : TimerEnv) : Decidable tenv.Allocates := inferInstanceAs (Decidable (_ ∧ _))

/-- The events of an LMS cluster, as long as there is memory for its timers (of which the cluster
    is told by `timerListAdd`); the others only touch timers of their own. -/
def LmsTimerOk (s : LmsTimerState) : LmsTimerEvent → Prop
  | .cluster env tenv event =>
      UsesAlgorithm .lms event ∧ tenv.Allocates ∧ env.timerListAdd = true
  | .expire env tenv _ => tenv.Allocates ∧ env.timerListAdd = true
  | .other _ op => ∀ timers ∈ s.timers, ∀ e ∈ op.entry?,
      e ∈ timers.tlist.entries ∧ timers.func e = .other

instance (s : LmsTimerState) : DecidablePred (LmsTimerOk s)
  | .cluster env tenv event => inferInstanceAs
      (Decidable (UsesAlgorithm .lms event ∧ tenv.Allocates ∧ env.timerListAdd = true))
  | .expire env tenv _ =>
    inferInstanceAs (Decidable (tenv.Allocates ∧ env.timerListAdd = true))
  | .other _ op => inferInstanceAs (Decidable (∀ timers ∈ s.timers, ∀ e ∈ op.entry?,
      e ∈ timers.tlist.entries ∧ timers.func e = .other))

/-! ### Adding a timer -/

/-- The array can grow, so the entry is inserted. -/
theorem timerListInsertIntoList_true {toInterval : UInt32 → UInt32} {tlist tlist' : TimerList}
    {e : Nat} {inserted : Bool}
    (h : timerListInsertIntoList toInterval true tlist e = some (tlist', inserted)) :
    inserted = true := by
  simp only [timerListInsertIntoList, Bool.true_eq_false, and_false, if_false,
    Option.bind_eq_bind, Option.bind_eq_some_iff, Option.some.injEq, Prod.mk.injEq] at h
  obtain ⟨_, -, _, -, -, rfl⟩ := h
  rfl

/-- `timer_list_add` only fails for its interval or for lack of memory. -/
theorem timerListAdd_isSome {toInterval : UInt32 → UInt32} {tenv : TimerEnv} {interval : UInt32}
    {tlist tlist' : TimerList} {added : Option Nat} (halloc : tenv.Allocates)
    (h : timerListAdd toInterval tenv.alloc tenv.now interval true tlist = some (tlist', added)) :
    added.isSome = decide (1 ≤ interval ∧ interval ≤ Qdevice.timerListMaxInterval) := by
  rw [timerListAdd] at h
  split at h
  · next hrefused =>
    cases h
    rw [Option.isSome_none]
    refine (decide_eq_false ?_).symm
    rintro ⟨hlow, hhigh⟩
    rcases hrefused with hsmall | hlarge | hfunc
    · exact absurd hlow (UInt32.not_le.mpr hsmall)
    · exact absurd hhigh (UInt32.not_le.mpr hlarge)
    · cases hfunc
  · next htaken =>
    simp only [not_or, UInt32.not_lt] at htaken
    rw [decide_eq_true ⟨htaken.1, htaken.2.1⟩]
    split at h
    · next hnone =>
      rw [timerListTake, halloc.1] at hnone
      split at hnone
      · cases hnone
      · cases hnone
    · simp only [halloc.2, Option.bind_eq_bind, Option.bind_eq_some_iff] at h
      obtain ⟨⟨tlist₁, inserted⟩, hinsert, hres⟩ := h
      obtain rfl := timerListInsertIntoList_true hinsert
      cases hres
      rfl

theorem timeoutValid_iff (client : QnetdClient) :
    (1 ≤ client.heartbeatInterval / 4 ∧
      client.heartbeatInterval / 4 ≤ Qdevice.timerListMaxInterval) ↔ TimeoutValid client := by
  refine and_congr_left fun _ => ?_
  simp only [UInt32.le_iff_toNat_le, UInt32.toNat_div]
  have hone : (1 : UInt32).toNat = 1 := rfl
  have hfour : (4 : UInt32).toNat = 4 := rfl
  rw [hone, hfour]
  omega

/-! ### The pointers -/

namespace MainTimers

/-- The pointers are exactly the entries in the list with the callback of their client. -/
structure Inv (timers : MainTimers) : Prop where
  valid : timers.tlist.Valid
  points : ∀ id e, timers.algoTimer id = some e ↔
    e ∈ timers.tlist.entries ∧ timers.func e = .algoTimer id

/-- What the calls for the timer of `id` leave alone: the other pointers, and the entry of a running
    callback. -/
structure Keeps (id : ClientId) (timers timers' : MainTimers) : Prop where
  inv : timers'.Inv
  others : ∀ id', id' ≠ id → timers'.algoTimer id' = timers.algoTimer id'
  running : ∀ e, e ∈ timers.tlist.entries ∨ timers.tlist.Spare e →
    e ∈ timers'.tlist.entries ∨ timers'.tlist.Spare e

theorem Keeps.refl {timers : MainTimers} (h : timers.Inv) (id : ClientId) :
    Keeps id timers timers :=
  ⟨h, fun _ _ => rfl, fun _ he => he⟩

theorem Keeps.trans {id : ClientId} {timers₁ timers₂ timers₃ : MainTimers}
    (h₁₂ : Keeps id timers₁ timers₂) (h₂₃ : Keeps id timers₂ timers₃) :
    Keeps id timers₁ timers₃ :=
  ⟨h₂₃.inv, fun id' hne => (h₂₃.others id' hne).trans (h₁₂.others id' hne),
    fun e he => h₂₃.running e (h₁₂.running e he)⟩

theorem abort_spec {timers : MainTimers} (h : timers.Inv) (id : ClientId) :
    ∃ timers', timers.clientAlgoTimerAbort id = some timers' ∧ Keeps id timers timers' ∧
      timers'.algoTimer id = none ∧ timers'.func = timers.func := by
  rw [clientAlgoTimerAbort]
  split
  · next hnone => exact ⟨timers, rfl, .refl h id, hnone, rfl⟩
  · next e he =>
    obtain ⟨hmem, hfunc⟩ := (h.points id e).mp he
    obtain ⟨tlist, hdelete, hremoved⟩ := timerListEntryDelete_spec h.valid hmem
    have hnodup := hremoved.perm.nodup_iff.mpr h.valid.placed.nodup
    have hentries (x : Nat) : x ∈ tlist.entries ↔ x ≠ e ∧ x ∈ timers.tlist.entries := by
      rw [← hremoved.perm.mem_iff, List.mem_cons]
      constructor
      · intro hx
        exact ⟨fun hxe => (List.nodup_cons.mp hnodup).1 (hxe ▸ hx), .inr hx⟩
      · rintro ⟨hne, hx⟩
        exact hx.resolve_left hne
    refine ⟨{ timers with tlist, algoTimer := Function.update timers.algoTimer id none },
      by rw [hdelete]; rfl, ⟨⟨hremoved.valid h.valid, fun id' x => ?_⟩, fun id' hne => ?_,
        fun x hx => ?_⟩, Function.update_self .., rfl⟩
    · -- the pointers to other entries are as they were
      by_cases hid : id' = id
      · subst hid
        simp only [Function.update_self, hentries, reduceCtorEq, false_iff]
        rintro ⟨⟨hne, hx⟩, hxfunc⟩
        have hpoints := (h.points id' x).mpr ⟨hx, hxfunc⟩
        exact hne (Option.some.inj (hpoints.symm.trans he))
      · simp only [Function.update_of_ne hid, h.points id' x, hentries]
        constructor
        · rintro ⟨hx, hxfunc⟩
          refine ⟨⟨fun hxe => hid ?_, hx⟩, hxfunc⟩
          rw [hxe, hfunc] at hxfunc
          exact (TimerFunc.algoTimer.inj hxfunc).symm
        · rintro ⟨⟨-, hx⟩, hxfunc⟩
          exact ⟨hx, hxfunc⟩
    · exact Function.update_of_ne hne ..
    · have hchange : TimerChange (fun i => i) (fun _ => True) timers.tlist tlist [] ([].erase e) :=
        .removed hremoved
      exact hchange.spare h.valid hx

theorem schedule_spec (toInterval : UInt32 → UInt32) (tenv : TimerEnv) {timers : MainTimers}
    (h : timers.Inv) (client : QnetdClient) :
    ∃ timers', timers.clientAlgoTimerSchedule toInterval tenv client = some timers' ∧
      Keeps client.id timers timers' ∧
      (tenv.Allocates → (timers'.algoTimer client.id).isSome = decide (TimeoutValid client)) := by
  -- a timer that is running is aborted first
  obtain ⟨timers₁, habort, hkeeps, hnone⟩ : ∃ timers₁,
      (if timers.clientAlgoTimerIsScheduled client.id then timers.clientAlgoTimerAbort client.id
        else some timers) = some timers₁ ∧ Keeps client.id timers timers₁ ∧
      timers₁.algoTimer client.id = none := by
    split
    · obtain ⟨timers₁, habort, hkeeps, hnone, -⟩ := abort_spec h client.id
      exact ⟨timers₁, habort, hkeeps, hnone⟩
    · next hunscheduled =>
      exact ⟨timers, rfl, .refl h _, by simpa [clientAlgoTimerIsScheduled] using hunscheduled⟩
  obtain ⟨tlist, added, hadd, hspec⟩ := timerListAdd_spec toInterval tenv.alloc tenv.now
    (client.heartbeatInterval / 4) true hkeeps.inv.valid
  have hvalid (halloc : tenv.Allocates) : added.isSome = decide (TimeoutValid client) := by
    rw [timerListAdd_isSome halloc hadd]
    exact decide_eq_decide.mpr (timeoutValid_iff client)
  simp only [clientAlgoTimerSchedule, clientAlgoTimerScheduleTimeout, habort, add, hadd,
    Option.bind_eq_bind, Option.bind_some]
  rcases hspec with ⟨rfl, hfailed⟩ | ⟨e, rfl, hadded⟩
  · have hentries : tlist.entries = timers₁.tlist.entries := by
      rcases hfailed with rfl | hfailed
      · rfl
      · exact hfailed.entries
    have hchange : TimerChange toInterval (fun _ => True) timers₁.tlist tlist [] [] := by
      rcases hfailed with rfl | hfailed
      · exact .same rfl
      · exact .failed hfailed
    refine ⟨{ timers₁ with
        tlist, algoTimer := Function.update timers₁.algoTimer client.id none }, rfl,
      hkeeps.trans ⟨⟨hchange.valid hkeeps.inv.valid, fun id' x => ?_⟩,
        fun id' hne => Function.update_of_ne hne .., fun x hx => hchange.spare hkeeps.inv.valid hx⟩,
      fun halloc => ?_⟩
    · rw [← hnone, Function.update_eq_self]
      rw [hentries]
      exact hkeeps.inv.points id' x
    · simp only [Function.update_self]
      exact hvalid halloc
  · have hnotMem := hadded.taken.notMem hkeeps.inv.valid
    have hchange : TimerChange toInterval (fun _ => True) timers₁.tlist tlist [] [e] :=
      .added hadded ⟨rfl, rfl⟩ trivial
    refine ⟨{ tlist, func := Function.update timers₁.func e (.algoTimer client.id)
              algoTimer := Function.update timers₁.algoTimer client.id (some e) }, rfl,
      hkeeps.trans ⟨⟨hchange.valid hkeeps.inv.valid, fun id' x => ?_⟩,
        fun id' hne => Function.update_of_ne hne .., fun x hx => hchange.spare hkeeps.inv.valid hx⟩,
      fun halloc => ?_⟩
    · simp only [hadded.inserted.2.mem_iff, List.mem_cons]
      by_cases hxe : x = e
      · subst hxe
        rw [Function.update_self]
        by_cases hid : id' = client.id
        · subst hid
          simp
        · have hother : timers₁.algoTimer id' ≠ some x := fun hpoints =>
            hnotMem ((hkeeps.inv.points id' x).mp hpoints).1
          simp [Function.update_of_ne hid, hother, Ne.symm hid]
      · rw [Function.update_of_ne hxe]
        by_cases hid : id' = client.id
        · subst hid
          have hno := hkeeps.inv.points client.id x
          simp only [hnone, reduceCtorEq, false_iff] at hno
          simp only [Function.update_self, Option.some.injEq, Ne.symm hxe, hxe, false_or, hno]
        · simp only [Function.update_of_ne hid, hkeeps.inv.points id' x, hxe, false_or]
    · simp only [Function.update_self]
      exact hvalid halloc

end MainTimers

/-- The timer calls of a run of the algorithm. -/
theorem doLmsTimers_spec (toInterval : UInt32 → UInt32) (tenv : TimerEnv) {timers : MainTimers}
    (h : timers.Inv) (client : QnetdClient) {log : List AlgoLog} (hlog : log ≠ []) :
    ∃ timers', doLmsTimers toInterval tenv timers client log = some timers' ∧
      MainTimers.Keeps client.id timers timers' ∧
      (log.any AlgoLog.lmsWaits = false →
        timers'.algoTimer client.id = none ∧ timers'.func = timers.func) ∧
      (tenv.Allocates → (timers'.algoTimer client.id).isSome =
        (log.any AlgoLog.lmsWaits && decide (TimeoutValid client))) := by
  obtain ⟨timers₁, habort, hkeeps₁, hnone, hfunc⟩ := MainTimers.abort_spec h client.id
  rw [doLmsTimers, if_neg hlog, habort, Option.bind_eq_bind, Option.bind_some]
  cases hwaits : log.any AlgoLog.lmsWaits with
  | false =>
    rw [if_neg Bool.false_ne_true]
    exact ⟨timers₁, rfl, hkeeps₁, fun _ => ⟨hnone, hfunc⟩, fun _ => by simp [hnone]⟩
  | true =>
    obtain ⟨timers₂, hschedule, hkeeps₂, hvalid⟩ :=
      MainTimers.schedule_spec toInterval tenv hkeeps₁.inv client
    rw [if_pos rfl]
    exact ⟨timers₂, hschedule, hkeeps₁.trans hkeeps₂, (fun h => by cases h), by simpa using hvalid⟩

/-! ### The callback -/

/-- `do_lms_algorithm` logs one message, which tells whether the answer is WAIT_FOR_REPLY. -/
theorem LmsCase.log_waits {env : Env} {cluster : QnetdCluster} {client : QnetdClient}
    {ringId : TlvRingId} {result : AlgoResult} (h : LmsCase env cluster client ringId result) :
    result.log ≠ [] ∧ (result.log.any AlgoLog.lmsWaits = true ↔
      result.replyErrorCode = .noError ∧ result.resultVote = .waitForReply) := by
  cases h with
  | wait log hlog timer partitions hpartitions hcluster hresult =>
    rw [hresult]
    rcases hlog with rfl | rfl
    · simp [AlgoLog.lmsWaits]
    · simp [AlgoLog.lmsWaits]
  | failed partitions hnone hcluster hresult =>
    rw [hresult]
    simp [AlgoLog.lmsWaits]
  | onePartition hcluster hresult =>
    rw [hresult]
    simp [AlgoLog.lmsWaits]
  | newcomer hfinds hnew hcluster hresult =>
    rw [hresult]
    simp [AlgoLog.lmsWaits]
  | compared hfinds hnew ack log hlog hcluster hresult =>
    rw [hresult]
    rcases hlog with rfl | rfl | rfl
    all_goals cases ack <;> simp [AlgoLog.lmsWaits]

/-- The result of the timer callback of LMS. -/
structure LmsTimerResult (res : TimerResult) : Prop where
  log : res.result.log ≠ []
  waits : res.result.log.any AlgoLog.lmsWaits = true ↔
    res.result.replyErrorCode = .noError ∧ res.result.resultVote = .waitForReply
  reschedule : res.rescheduleTimer = true ↔
    res.result.replyErrorCode = .noError ∧ res.result.resultVote = .waitForReply
  sendVote : res.sendVote = true → res.result.resultVote ≠ .waitForReply

theorem lmsTimerResult_of_callback {env : Env} {cluster : QnetdCluster} {client : QnetdClient}
    {res : TimerResult}
    (halgorithm : client.decisionAlgorithm = TlvDecisionAlgorithmType.lms.toUInt16)
    (h : qnetdAlgorithmTimerCallback env cluster client = .ok res) : LmsTimerResult res := by
  simp only [qnetdAlgorithmTimerCallback, halgorithm, qnetdAlgorithmArray_lms,
    lmsTimerCallback] at h
  split at h
  · cases h
  · next result hdo =>
    cases h
    obtain ⟨hlog, hwaits⟩ := (doLmsAlgorithm_cases hdo).log_waits
    refine ⟨hlog, hwaits, decide_eq_true_iff, fun hsend => ?_⟩
    rcases (of_decide_eq_true hsend).2 with hvote | hvote
    · rw [hvote]
      exact (fun h => by cases h)
    · rw [hvote]
      exact (fun h => by cases h)

/-- Nothing is done with an entry that the callback has deleted. -/
theorem timerListExpireReturned_inactive {toInterval : UInt32 → UInt32} {realloc again : Bool}
    {now : Nat} {tlist : TimerList} {e : Nat} (h : (tlist.entry e).isActive = false) :
    timerListExpireReturned toInterval realloc now again tlist e = some tlist := by
  cases again <;>
    simp [timerListExpireReturned, timerListEntryDelete, timerListEntryReschedule, h]

/-- The callback, and what `timer_list_expire` does with its entry: also when the entry has been
    deleted and taken again for the new timer. -/
theorem expireTimers_spec (toInterval : UInt32 → UInt32) (env : Env) (tenv : TimerEnv) (now : Nat)
    {timers : MainTimers} (h : timers.Inv) {client : QnetdClient} {e : Nat}
    (he : e ∈ timers.tlist.entries) (hfunc : timers.func e = .algoTimer client.id)
    {res : TimerResult} (hres : LmsTimerResult res) :
    ∃ timers₁ again tlist,
      lmsTimerCallbackTimers toInterval env tenv timers client res = some (timers₁, again) ∧
      timerListExpireReturned toInterval tenv.alloc.realloc now again timers₁.tlist e =
        some tlist ∧
      MainTimers.Inv { timers₁ with tlist } ∧
      (∀ id, id ≠ client.id → timers₁.algoTimer id = timers.algoTimer id) ∧
      (tenv.Allocates → (timers₁.algoTimer client.id).isSome =
        (res.result.log.any AlgoLog.lmsWaits && decide (TimeoutValid client))) := by
  obtain ⟨timers₁, hdo, hkeeps, hstopped, hvalid⟩ :=
    doLmsTimers_spec toInterval tenv h client hres.log
  have hrunning := hkeeps.running e (.inl he)
  rw [lmsTimerCallbackTimers, hdo, Option.bind_eq_bind, Option.bind_some]
  cases hwaits : res.result.log.any AlgoLog.lmsWaits with
  | true =>
    -- the callback returns -1, and the entry in use now is scheduled again
    obtain ⟨hcode, hvote⟩ := hres.waits.mp hwaits
    have hsend : res.sendVote = false := by
      cases hsend : res.sendVote with
      | false => rfl
      | true => exact absurd hvote (hres.sendVote hsend)
    rw [if_neg (fun hne => hne hcode), hsend, Bool.false_and, if_neg Bool.false_ne_true,
      if_pos (hres.reschedule.mpr ⟨hcode, hvote⟩)]
    rw [hwaits] at hvalid
    by_cases hmem : e ∈ timers₁.tlist.entries
    · obtain ⟨tlist, hmove, hmoved⟩ := timerListEntryReschedule_spec toInterval
        tenv.alloc.realloc now hkeeps.inv.valid hmem
      refine ⟨timers₁, true, tlist, rfl, hmove, ⟨hmoved.valid
        (by exact hkeeps.inv.valid.active e hmem) hkeeps.inv.valid, fun id x => ?_⟩,
        hkeeps.others, hvalid⟩
      rw [hmoved.perm.mem_iff]
      exact hkeeps.inv.points id x
    · have hinactive := (hrunning.resolve_left hmem).1
      exact ⟨timers₁, true, timers₁.tlist, rfl,
        timerListExpireReturned_inactive hinactive, hkeeps.inv,
        hkeeps.others, hvalid⟩
  | false =>
    -- the timer is gone, so there is nothing left to delete
    obtain ⟨hnone, hsame⟩ := hstopped hwaits
    have hmem : e ∉ timers₁.tlist.entries := fun hmem => by
      have hpoints := (hkeeps.inv.points client.id e).mpr ⟨hmem, hsame ▸ hfunc⟩
      rw [hnone] at hpoints
      cases hpoints
    have hinactive := (hrunning.resolve_left hmem).1
    have hreturned : timerListExpireReturned toInterval tenv.alloc.realloc now false timers₁.tlist e =
        some timers₁.tlist := timerListExpireReturned_inactive hinactive
    have hstop : ¬ (res.result.replyErrorCode = .noError ∧ res.result.resultVote = .waitForReply) :=
      fun hwait => by
        rw [hres.waits.mpr hwait] at hwaits
        cases hwaits
    rw [hwaits] at hvalid
    by_cases hcode : res.result.replyErrorCode = .noError
    · rw [if_neg (fun hne => hne hcode), if_neg (fun hwait => hstop (hres.reschedule.mp hwait)),
        ← hnone, Function.update_eq_self]
      split
      · exact ⟨timers₁, false, _, rfl, hreturned, hkeeps.inv, hkeeps.others, hvalid⟩
      · exact ⟨timers₁, false, _, rfl, hreturned, hkeeps.inv, hkeeps.others, hvalid⟩
    · rw [if_pos hcode]
      exact ⟨timers₁, false, _, rfl, hreturned, hkeeps.inv, hkeeps.others, hvalid⟩

/-! ### The others -/

/-- A call for a timer of somebody else. -/
theorem otherTimers_spec (toInterval : UInt32 → UInt32) (now : Nat) {timers : MainTimers}
    (h : timers.Inv) (op : TimerOp)
    (hop : ∀ e ∈ op.entry?, e ∈ timers.tlist.entries ∧ timers.func e = .other) :
    ∃ tlist added, op.apply toInterval now timers.tlist [] = some (tlist, added) ∧
      MainTimers.Inv { timers with
        tlist, func := fun e => if e ∈ added then .other else timers.func e } := by
  -- a timer that is put in again stays where it is
  have hkept {tlist : TimerList} (hvalid : tlist.Valid)
      (hentries : ∀ x, x ∈ tlist.entries ↔ x ∈ timers.tlist.entries) :
      MainTimers.Inv { timers with
        tlist, func := fun e => if e ∈ ([] : List Nat) then .other else timers.func e } := by
    refine ⟨hvalid, fun id x => ?_⟩
    simp only [List.not_mem_nil, if_false, hentries]
    exact h.points id x
  cases op with
  | add alloc interval func =>
    obtain ⟨tlist, added, hadd, hspec⟩ := timerListAdd_spec toInterval alloc now interval func h.valid
    refine ⟨tlist, added.toList ++ [], by simp only [TimerOp.apply, hadd]; rfl, ?_⟩
    rcases hspec with ⟨rfl, rfl | hfailed⟩ | ⟨e, rfl, hadded⟩
    · exact hkept h.valid fun _ => Iff.rfl
    · exact hkept (hfailed.valid h.valid) fun x => by rw [hfailed.entries]
    · have hnotMem := hadded.taken.notMem h.valid
      refine ⟨hadded.valid rfl h.valid, fun id x => ?_⟩
      simp only [hadded.inserted.2.mem_iff, List.mem_cons, Option.toList_some, List.append_nil,
        List.not_mem_nil, or_false, h.points id x]
      by_cases hxe : x = e
      · subst hxe
        simp [hnotMem]
      · simp [hxe]
  | delete e =>
    obtain ⟨hmem, hfunc⟩ := hop e rfl
    obtain ⟨tlist, hdelete, hremoved⟩ := timerListEntryDelete_spec h.valid hmem
    refine ⟨tlist, [].erase e, by simp only [TimerOp.apply, hdelete]; rfl,
      hremoved.valid h.valid, fun id x => ?_⟩
    simp only [List.erase_nil, List.not_mem_nil, if_false, h.points id x, ← hremoved.perm.mem_iff,
      List.mem_cons]
    constructor
    · rintro ⟨rfl | hx, hxfunc⟩
      · rw [hfunc] at hxfunc
        cases hxfunc
      · exact ⟨hx, hxfunc⟩
    · rintro ⟨hx, hxfunc⟩
      exact ⟨.inr hx, hxfunc⟩
  | reschedule realloc e =>
    obtain ⟨hmem, -⟩ := hop e rfl
    obtain ⟨tlist, hmove, hmoved⟩ := timerListEntryReschedule_spec toInterval realloc now h.valid hmem
    exact ⟨tlist, [], by simp only [TimerOp.apply, hmove]; rfl,
      hkept (hmoved.valid (by exact h.valid.active e hmem) h.valid) fun x => hmoved.perm.mem_iff⟩
  | setInterval realloc interval e =>
    obtain ⟨hmem, -⟩ := hop e rfl
    obtain hrefused | ⟨tlist, hmove, hmoved⟩ :=
      timerListEntrySetInterval_spec toInterval realloc now interval h.valid hmem
    · exact ⟨timers.tlist, [], by simp only [TimerOp.apply, hrefused]; rfl,
        hkept h.valid fun _ => Iff.rfl⟩
    · exact ⟨tlist, [], by simp only [TimerOp.apply, hmove]; rfl,
        hkept (hmoved.valid (by exact h.valid.active e hmem) h.valid) fun x => hmoved.perm.mem_iff⟩

/-! ### The cluster's own view of the timers -/

/-- The cluster has a timer for the client. -/
def QnetdCluster.hasAlgoTimer (cluster : QnetdCluster) (id : ClientId) : Bool :=
  cluster.clientList.any fun c => c.id == id && c.algoTimer.isSome

def QnetdClient.timerView (c : QnetdClient) : ClientId × Bool := (c.id, c.algoTimer.isSome)

def SameTimers (cluster cluster' : QnetdCluster) : Prop :=
  cluster'.clientList.map QnetdClient.timerView = cluster.clientList.map QnetdClient.timerView

theorem SameTimers.hasAlgoTimer {cluster cluster' : QnetdCluster} (h : SameTimers cluster cluster')
    (id : ClientId) : cluster'.hasAlgoTimer id = cluster.hasAlgoTimer id := by
  have hview (cl : QnetdCluster) : cl.hasAlgoTimer id =
      (cl.clientList.map QnetdClient.timerView).any fun v => v.1 == id && v.2 := by
    rw [List.any_map]
    rfl
  rw [hview, hview, h]

theorem sameTimers_modifyClient (cluster : QnetdCluster) (id : ClientId)
    {f : QnetdClient → QnetdClient} (h : ∀ c, (f c).timerView = c.timerView) :
    SameTimers cluster (cluster.modifyClient id f) :=
  map_modifyClient _ cluster id f fun c _ _ => h c

/-- Writing to the timer of one client. -/
theorem hasAlgoTimer_modifyClient {cluster : QnetdCluster} {client : QnetdClient}
    (huniq : ∀ c ∈ cluster.clientList, c.id = client.id → c = client)
    (hmem : client ∈ cluster.clientList) (f : QnetdClient → QnetdClient)
    (hid : ∀ c, (f c).id = c.id) (id : ClientId) :
    (cluster.modifyClient client.id f).hasAlgoTimer id =
      if id = client.id then (f client).algoTimer.isSome else cluster.hasAlgoTimer id := by
  simp only [QnetdCluster.hasAlgoTimer, QnetdCluster.modifyClient, List.any_map]
  rw [Bool.eq_iff_iff]
  split
  · next hclient =>
    subst hclient
    simp only [List.any_eq_true, Function.comp_apply, Bool.and_eq_true, beq_iff_eq]
    constructor
    · rintro ⟨c, hc, hcid, htimer⟩
      split at hcid
      · next heq =>
        rw [if_pos heq, huniq c hc heq] at htimer
        exact htimer
      · next hne => exact absurd hcid hne
    · intro htimer
      exact ⟨client, hmem, by simp [hid, htimer]⟩
  · next hclient =>
    simp only [List.any_eq_true, Function.comp_apply, Bool.and_eq_true, beq_iff_eq]
    refine exists_congr fun c => and_congr_right fun _ => ?_
    split
    · next heq => simp [hid, heq, Ne.symm hclient]
    · rfl

theorem hasAlgoTimer_cleared (cluster : QnetdCluster) (id j : ClientId) :
    (cluster.modifyClient id fun c => { c with algoTimer := none }).hasAlgoTimer j =
      if j = id then false else cluster.hasAlgoTimer j := by
  simp only [QnetdCluster.hasAlgoTimer, QnetdCluster.modifyClient, List.any_map]
  rw [Bool.eq_iff_iff]
  split
  · next hj =>
    simp only [List.any_eq_true, Function.comp_apply, Bool.and_eq_true, beq_iff_eq,
      Bool.false_eq_true, iff_false, not_exists, not_and]
    intro c _ hcid
    split at hcid
    · next heq => simp [heq]
    · next hne => exact absurd (hcid.trans hj) hne
  · next hj =>
    simp only [List.any_eq_true, Function.comp_apply, Bool.and_eq_true, beq_iff_eq]
    refine exists_congr fun c => and_congr_right fun _ => ?_
    split
    · next heq => simp [heq, Ne.symm hj]
    · rfl

/-- The timer that a run of the algorithm leaves to the client. -/
theorem LmsCase.hasAlgoTimer {env : Env} {cluster : QnetdCluster} {client : QnetdClient}
    {ringId : TlvRingId} {result : AlgoResult} (h : LmsCase env cluster client ringId result)
    (huniq : ∀ c ∈ cluster.clientList, c.id = client.id → c = client)
    (hmem : client ∈ cluster.clientList) (hadd : env.timerListAdd = true) (id : ClientId) :
    result.cluster.hasAlgoTimer id =
      if id = client.id then result.log.any AlgoLog.lmsWaits && decide (TimeoutValid client)
      else cluster.hasAlgoTimer id := by
  have hwrite {timer : QnetdClient → Option UInt32} {vote : TlvVote}
      {partitions : List AlgoPartition}
      (hcluster : result.cluster =
        cluster.modifyClient client.id (lmsWrite timer vote partitions))
      (hwaits : (timer client).isSome =
        (result.log.any AlgoLog.lmsWaits && decide (TimeoutValid client))) :
      result.cluster.hasAlgoTimer id =
        if id = client.id then result.log.any AlgoLog.lmsWaits && decide (TimeoutValid client)
        else cluster.hasAlgoTimer id := by
    rw [hcluster, ← hwaits]
    exact hasAlgoTimer_modifyClient huniq hmem (lmsWrite timer vote partitions) (fun _ => rfl) id
  cases h with
  | wait log hlog timer partitions hpartitions hcluster hresult htimer =>
    refine hwrite hcluster ?_
    have hwaits : result.log.any AlgoLog.lmsWaits = true := by
      rw [hresult]
      rcases hlog with rfl | rfl <;> rfl
    rw [hwaits, htimer, Bool.true_and, ← decide_eq_decide.mpr (timeoutValid_iff client)]
    simp only [qnetdClientAlgoTimerSchedule, qnetdClientAlgoTimerScheduleTimeout,
      timerListIntervalValid, hadd, Bool.and_true]
    split
    · next hvalid =>
      simp only [Bool.and_eq_true, decide_eq_true_eq] at hvalid
      exact (decide_eq_true hvalid).symm
    · next hinvalid =>
      simp only [Bool.and_eq_true, decide_eq_true_eq] at hinvalid
      exact (decide_eq_false hinvalid).symm
  | failed partitions hnone hcluster hresult =>
    exact hwrite hcluster (by rw [hresult]; rfl)
  | onePartition hcluster hresult => exact hwrite hcluster (by rw [hresult]; rfl)
  | newcomer hfinds hnew hcluster hresult => exact hwrite hcluster (by rw [hresult]; rfl)
  | compared hfinds hnew ack log hlog hcluster hresult =>
    refine hwrite hcluster ?_
    rw [hresult]
    rcases hlog with rfl | rfl | rfl <;> rfl

section Events

variable {settings : Settings} {env : Env} {cluster cluster' : QnetdCluster} {id : ClientId}
  {client : QnetdClient} {log : List AlgoLog}

/-- A message changes the timer of its sender, if it runs the algorithm. -/
theorem hasAlgoTimer_message {msg : MsgDecoded}
    (hreg : Registered TlvDecisionAlgorithmType.lms.toUInt16 cluster)
    (hadd : env.timerListAdd = true) (hclient : cluster.client? id = some client)
    (h : clusterMessage settings env cluster id msg = .ok (cluster', log)) (j : ClientId) :
    cluster'.hasAlgoTimer j =
      if log ≠ [] ∧ j = client.id then log.any AlgoLog.lmsWaits && decide (TimeoutValid client)
      else cluster.hasAlgoTimer j := by
  have hview : IgnoresConnection QnetdClient.timerView := fun _ _ _ _ _ _ _ _ _ _ => rfl
  rcases clusterMessage_view hview hreg.ids h with
    ⟨rfl, hsame, -⟩ | ⟨client₀, client', type, call, result, res, hclient₀, htype, hcall, htls, hrun,
      hafter, rfl, hsame, -⟩
  · rw [if_neg fun hran => hran.1 rfl]
    exact SameTimers.hasAlgoTimer hsame j
  obtain rfl : client₀ = client := Option.some.inj (hclient₀.symm.trans hclient)
  have huniq := hreg.client?_eq hclient
  have hmem := client?_mem hclient
  have hreg₁ := hreg.of_same (sameRegistration_write huniq (checkTls_registration htls))
  have hmem' : client' ∈ (cluster.modifyClient client₀.id fun _ => client').clientList :=
    List.mem_map.mpr ⟨client₀, hmem, by simp⟩
  have hid := checkTls_id htls
  have hheartbeat : client'.heartbeatInterval = client₀.heartbeatInterval := by
    rcases checkTls_success htls with rfl | ⟨_, _, _, _, _, rfl⟩ <;> rfl
  have hsame₁ : SameTimers cluster (cluster.modifyClient client₀.id fun _ => client') :=
    map_modifyClient _ cluster client₀.id _ fun c hc hcid => by
      rw [huniq c hc hcid]
      exact hview.checkTls htls
  generalize (cluster.modifyClient client₀.id fun _ => client') = cluster₁ at *
  -- what is stored after the callback is no timer
  have hafter₂ : SameTimers result.cluster res.cluster := by
    cases hafter with
    | failed _ hres => rw [hres]; rfl
    | stored _ hres =>
      rw [hres]
      exact sameTimers_modifyClient _ _ fun c => by cases call <;> rfl
    | emptied _ _ hres _ =>
      rw [hres]
      exact sameTimers_modifyClient _ _ fun c => by cases call <;> rfl
  rw [SameTimers.hasAlgoTimer hsame j, hafter₂.hasAlgoTimer j]
  rcases lmsRun_cases (hreg₁.algorithm client' hmem') hrun with
    ⟨hlog, write, -, hcluster⟩ | ⟨ringId, hdo, -⟩
  · rw [if_neg fun hran => hran.1 hlog, hcluster, ← hsame₁.hasAlgoTimer j]
    refine SameTimers.hasAlgoTimer ?_ j
    exact sameTimers_modifyClient _ _ fun _ => rfl
  · have hcase := doLmsAlgorithm_cases hdo
    have hvalid : decide (TimeoutValid client') = decide (TimeoutValid client₀) :=
      decide_eq_decide.mpr (by simp only [TimeoutValid, hheartbeat])
    rw [hcase.hasAlgoTimer (fun c hc hcid => hreg₁.eq_of_id hc hmem' hcid) hmem' hadd, hid,
      hsame₁.hasAlgoTimer j, hvalid]
    simp only [hcase.log_waits.1, ne_eq, not_false_eq_true, true_and]

/-- So does the callback of the timer. -/
theorem hasAlgoTimer_timerCallback {res : AlgoResult}
    (hreg : Registered TlvDecisionAlgorithmType.lms.toUInt16 cluster)
    (hadd : env.timerListAdd = true) (hmem : client ∈ cluster.clientList) {tres : TimerResult}
    (htres : qnetdAlgorithmTimerCallback env cluster client = .ok tres)
    (h : qnetdClientAlgoTimerCallback env cluster client = .ok res) (j : ClientId) :
    res.cluster.hasAlgoTimer j =
      if j = client.id then tres.result.log.any AlgoLog.lmsWaits && decide (TimeoutValid client)
      else cluster.hasAlgoTimer j := by
  have halgorithm := hreg.algorithm client hmem
  have huniq : ∀ c ∈ cluster.clientList, c.id = client.id → c = client :=
    fun c hc hid => hreg.eq_of_id hc hmem hid
  have htimer := lmsTimerResult_of_callback halgorithm htres
  have hrun : tres.result.cluster.hasAlgoTimer j =
      if j = client.id then tres.result.log.any AlgoLog.lmsWaits && decide (TimeoutValid client)
      else cluster.hasAlgoTimer j := by
    simp only [qnetdAlgorithmTimerCallback, halgorithm, qnetdAlgorithmArray_lms,
      lmsTimerCallback] at htres
    split at htres
    · cases htres
    · next result hdo =>
      cases htres
      exact (doLmsAlgorithm_cases hdo).hasAlgoTimer huniq hmem hadd j
  simp only [qnetdClientAlgoTimerCallback, htres] at h
  rw [← hrun]
  have hflag (cl : QnetdCluster) : SameTimers cl (cl.scheduleDisconnect client.id) :=
    sameTimers_modifyClient _ _ fun _ => rfl
  have hsent : SameTimers tres.result.cluster
      (if tres.sendVote then tres.result.cluster.modifyClient client.id fun c =>
        let seqNumber := c.algoTimerVoteInfoMsqSeqNumber + 1
        qnetdClientSendVoteInfo env { c with algoTimerVoteInfoMsqSeqNumber := seqNumber }
          seqNumber c.lastRingId tres.result.resultVote
      else tres.result.cluster) := by
    split
    · exact sameTimers_modifyClient _ _ fun _ => rfl
    · rfl
  split at h
  · split at h <;> cases h
    · rfl
    · exact (hflag _).hasAlgoTimer j
  · next hcode =>
    split at h
    · cases h
      exact ((hflag _).hasAlgoTimer j).trans (hsent.hasAlgoTimer j)
    · split at h
      · cases h
        exact hsent.hasAlgoTimer j
      · -- the timer is already gone when the pointer is cleared
        next hstop =>
        cases h
        rw [hasAlgoTimer_cleared, hsent.hasAlgoTimer j]
        split
        · next hj =>
          have hwaits : tres.result.log.any AlgoLog.lmsWaits = false := by
            rw [Bool.eq_false_iff, ne_eq, htimer.waits, ← htimer.reschedule]
            exact hstop
          rw [hrun, if_pos hj, hwaits, Bool.false_and]
        · rfl

/-- A new client has no timer, and the others keep theirs. -/
theorem hasAlgoTimer_init {conn : Connection} {msg : MsgDecoded}
    (halgorithm : msg.decisionAlgorithm = some TlvDecisionAlgorithmType.lms.toUInt16)
    (j : ClientId) :
    (clusterInit settings cluster conn msg).hasAlgoTimer j = cluster.hasAlgoTimer j := by
  rcases clusterInit_cases settings cluster conn msg with
    hsame | ⟨joined, -, hfresh, -, -, -, halg, -, hjoin⟩
  · rw [hsame]
  · have hinit : SameTimers (joinedCluster cluster joined)
        (qnetdAlgorithmClientInit (joinedCluster cluster joined) joined).cluster := by
      have halg' : joined.decisionAlgorithm = TlvDecisionAlgorithmType.lms.toUInt16 :=
        Option.some.inj (halg.symm.trans halgorithm)
      simp only [qnetdAlgorithmClientInit, halg', qnetdAlgorithmArray_lms, lmsClientInit]
      exact sameTimers_modifyClient _ _ fun _ => rfl
    have hflag : SameTimers (qnetdAlgorithmClientInit (joinedCluster cluster joined) joined).cluster
        ((qnetdAlgorithmClientInit (joinedCluster cluster joined) joined).cluster.modifyClient
          joined.id fun c => { c with initReceived := true }) :=
      sameTimers_modifyClient _ _ fun _ => rfl
    rw [hjoin, hflag.hasAlgoTimer j, hinit.hasAlgoTimer j]
    have hperm := insertClient_perm joined cluster.clientList
    simp only [QnetdCluster.hasAlgoTimer, joinedCluster]
    rw [hperm.any_eq, List.any_cons, hfresh.algoTimer]
    simp

/-- A client that is disconnected takes its timer with it. -/
theorem hasAlgoTimer_disconnect {down : Bool}
    (hreg : Registered TlvDecisionAlgorithmType.lms.toUInt16 cluster)
    (hclient : cluster.client? id = some client)
    (h : clusterDisconnect env cluster id down = .ok (cluster', log)) (j : ClientId) :
    cluster'.hasAlgoTimer j = if j = client.id then false else cluster.hasAlgoTimer j := by
  rcases clusterDisconnect_cases h with ⟨-, -, hnone⟩ | ⟨client₀, res, hclient₀, hres, -, rfl⟩
  · rw [hclient] at hnone
    cases hnone
  · obtain rfl : client₀ = client := Option.some.inj (hclient₀.symm.trans hclient)
    have hcluster : res.cluster = cluster := by
      simp only [qnetdAlgorithmClientDisconnect, hreg.algorithm client₀ (client?_mem hclient),
        qnetdAlgorithmArray_lms, ite_self] at hres
      cases hres
      rfl
    rw [hcluster]
    have hid := client?_id hclient
    simp only [QnetdCluster.hasAlgoTimer, List.any_filter, hid]
    rw [Bool.eq_iff_iff]
    split
    · next hj =>
      simp only [List.any_eq_true, Bool.and_eq_true, decide_eq_true_eq, beq_iff_eq,
        Bool.false_eq_true, iff_false, not_exists, not_and]
      exact fun c _ hne hcid => absurd (hcid.trans hj) hne
    · next hj =>
      simp only [List.any_eq_true, Bool.and_eq_true, decide_eq_true_eq, beq_iff_eq]
      refine exists_congr fun c => and_congr_right fun _ => ?_
      constructor
      · exact fun h => h.2
      · exact fun h => ⟨fun hcid => hj (h.1.symm.trans hcid), h⟩

end Events

/-! ### Every run -/

/-- The pointers are right, they are the timers the cluster knows of, and a client that waits has
    one. -/
structure LmsTimerInv (s : LmsTimerState) (timers : MainTimers) : Prop where
  registered : Registered TlvDecisionAlgorithmType.lms.toUInt16 s.cluster
  inv : timers.Inv
  agree : ∀ id, (timers.algoTimer id).isSome = s.cluster.hasAlgoTimer id
  waiting : ∀ id, s.waiting id = true → (timers.algoTimer id).isSome = true

section Steps

variable {settings : Settings} {toInterval : UInt32 → UInt32} {env : Env} {tenv : TimerEnv}
  {s s' : LmsTimerState} {timers : MainTimers}

/-- Only clients of the cluster have timers. -/
theorem LmsTimerInv.client? (h : LmsTimerInv s timers) {id : ClientId} {e : Nat}
    (he : timers.algoTimer id = some e) : ∃ client, s.cluster.client? id = some client ∧
      client.algoTimer.isSome = true := by
  have htimer := (h.agree id).symm
  rw [he, Option.isSome_some, QnetdCluster.hasAlgoTimer, List.any_eq_true] at htimer
  obtain ⟨c, hc, htimer⟩ := htimer
  simp only [Bool.and_eq_true, beq_iff_eq] at htimer
  exact ⟨c, htimer.1 ▸ h.registered.client?_of_mem hc, htimer.2⟩

/-- The next state, when the timer of one client may have changed. -/
theorem LmsTimerInv.of_changed (h : LmsTimerInv s timers) {client : QnetdClient}
    {cluster' : QnetdCluster} {timers' : MainTimers} {waiting' : ClientId → Bool}
    (hreg : Registered TlvDecisionAlgorithmType.lms.toUInt16 cluster') (hinv : timers'.Inv)
    (hothers : ∀ id, id ≠ client.id → timers'.algoTimer id = timers.algoTimer id)
    (hcluster : ∀ id, cluster'.hasAlgoTimer id =
      if id = client.id then (timers'.algoTimer client.id).isSome else s.cluster.hasAlgoTimer id)
    (hwaiting : ∀ id, waiting' id = true → if id = client.id then
      (timers'.algoTimer client.id).isSome = true else s.waiting id = true) :
    LmsTimerInv ⟨cluster', some timers', waiting'⟩ timers' := by
  refine ⟨hreg, hinv, fun id => ?_, fun id hid => ?_⟩
  · rw [hcluster id]
    split
    · next heq => rw [heq]
    · next hne => rw [hothers id hne, h.agree id]
  · have hid := hwaiting id hid
    split at hid
    · next heq => exact heq ▸ hid
    · next hne => exact hothers id hne ▸ h.waiting id hid

theorem recordWaiting_of_ne {client : QnetdClient} {log : List AlgoLog} {waiting : ClientId → Bool}
    (hlog : log ≠ []) {id : ClientId} (h : recordWaiting client log waiting id = true) :
    if id = client.id then (log.any AlgoLog.lmsWaits && decide (TimeoutValid client)) = true
    else waiting id = true := by
  rw [recordWaiting, if_neg hlog] at h
  split
  · next heq =>
    rw [heq, Function.update_self] at h
    exact h
  · next hne =>
    rw [Function.update_of_ne hne] at h
    exact h

theorem clusterEventTimers_cluster {event : ClusterEvent} {cluster' : QnetdCluster}
    {log : List AlgoLog}
    (h : clusterEventTimers toInterval tenv s timers cluster' log event = some s') :
    s'.cluster = cluster' := by
  cases event with
  | init conn msg =>
    simp only [clusterEventTimers] at h
    split at h <;> cases h <;> rfl
  | message id msg =>
    simp only [clusterEventTimers] at h
    split at h <;> cases h <;> rfl
  | disconnect id down =>
    simp only [clusterEventTimers] at h
    split at h <;> cases h <;> rfl
  | algoTimer id => cases h

theorem LmsTimerInv.cluster {event : ClusterEvent} (h : LmsTimerInv s timers)
    (hs : s.timers = some timers) (halgorithm : UsesAlgorithm .lms event)
    (halloc : tenv.Allocates) (hadd : env.timerListAdd = true) {cluster' : QnetdCluster}
    {log : List AlgoLog} (hstep : clusterStep settings env s.cluster event = .ok (cluster', log))
    (hs' : clusterEventTimers toInterval tenv s timers cluster' log event = some s') :
    ∃ timers', s'.timers = some timers' ∧ LmsTimerInv s' timers' := by
  have hreg := registered_clusterStep h.registered halgorithm hstep
  obtain ⟨cluster, _, waiting⟩ := s
  obtain rfl : _ = some timers := hs
  cases event with
  | init conn msg =>
    cases hstep
    simp only [clusterEventTimers] at hs'
    split at hs'
    · cases hs'
      exact ⟨timers, rfl, hreg, h.inv, fun id => by rw [h.agree id, hasAlgoTimer_init halgorithm],
        h.waiting⟩
    · next hnone =>
      cases hs'
      -- the connection is new, so there was no timer for it
      have hnew : timers.algoTimer conn.id = none := by
        cases hnew : timers.algoTimer conn.id with
        | none => rfl
        | some e =>
          obtain ⟨client, hclient, -⟩ := h.client? hnew
          exact absurd (by rw [hclient]; rfl) hnone
      refine ⟨_, rfl, ?_⟩
      rw [← hnew, Function.update_eq_self]
      refine ⟨hreg, h.inv, fun id => by rw [h.agree id, hasAlgoTimer_init halgorithm],
        fun id hid => h.waiting id ?_⟩
      simp only at hid ⊢
      by_cases heq : id = conn.id
      · rw [heq, Function.update_self] at hid
        cases hid
      · rwa [Function.update_of_ne heq] at hid
  | message id msg =>
    simp only [clusterEventTimers] at hs'
    split at hs'
    · next hnone =>
      cases hs'
      have hsame : cluster' = cluster := by
        simp only [clusterStep, clusterMessage, hnone] at hstep
        cases hstep
        rfl
      exact ⟨timers, rfl, hreg, h.inv, fun id => hsame ▸ h.agree id, h.waiting⟩
    · next client hclient =>
      cases hs'
      have hcluster := hasAlgoTimer_message h.registered hadd hclient hstep
      by_cases hlog : log = []
      · subst hlog
        simp only [ne_eq, not_true_eq_false, false_and, if_false] at hcluster
        exact ⟨timers, rfl, hreg, h.inv, fun id => by rw [hcluster id, h.agree id], h.waiting⟩
      · obtain ⟨timers', hdo, hkeeps, -, hvalid⟩ :=
          doLmsTimers_spec toInterval tenv h.inv client hlog
        refine ⟨timers', hdo, ?_⟩
        simp only [hdo]
        refine h.of_changed hreg hkeeps.inv hkeeps.others (fun j => ?_) fun j hj => ?_
        · rw [hcluster j, hvalid halloc]
          simp only [ne_eq, hlog, not_false_eq_true, true_and]
        · rw [hvalid halloc]
          exact recordWaiting_of_ne hlog hj
  | disconnect id down =>
    simp only [clusterEventTimers] at hs'
    split at hs'
    · next hnone =>
      cases hs'
      have hsame : cluster' = cluster := by
        simp only [clusterStep, clusterDisconnect, hnone] at hstep
        cases hstep
        rfl
      exact ⟨timers, rfl, hreg, h.inv, fun id => hsame ▸ h.agree id, h.waiting⟩
    · next client hclient =>
      cases hs'
      obtain ⟨timers', habort, hkeeps, hnone, -⟩ := MainTimers.abort_spec h.inv client.id
      refine ⟨timers', habort, ?_⟩
      simp only [habort]
      refine h.of_changed hreg hkeeps.inv hkeeps.others (fun j => ?_) fun j hj => ?_
      · rw [hasAlgoTimer_disconnect h.registered hclient hstep, hnone, Option.isSome_none]
      · split
        · next heq =>
          rw [heq, Function.update_self] at hj
          cases hj
        · next hne => rwa [Function.update_of_ne hne] at hj
  | algoTimer id => cases hs'

theorem LmsTimerInv.expire {now : Nat} {e : Nat} {id : ClientId} (h : LmsTimerInv s timers)
    (halloc : tenv.Allocates) (hadd : env.timerListAdd = true)
    (he : e ∈ timers.tlist.entries) (hfunc : timers.func e = .algoTimer id)
    (hs' : expireTimers toInterval env tenv now s timers e id = some s') :
    ∃ timers', s'.timers = some timers' ∧ LmsTimerInv s' timers' := by
  -- the entry is in the list, so the client is still there
  obtain ⟨client, hclient, -⟩ := h.client? ((h.inv.points id e).mpr ⟨he, hfunc⟩)
  have hmem := client?_mem hclient
  rw [← client?_id hclient] at hfunc
  rw [expireTimers, hclient] at hs'
  dsimp only at hs'
  split at hs'
  · next tres cluster' _ _ htres hres =>
    cases hs'
    have hresult := lmsTimerResult_of_callback (h.registered.algorithm client hmem) htres
    obtain ⟨timers₁, again, tlist, hcallback, hreturned, hinv, hothers, hvalid⟩ :=
      expireTimers_spec toInterval env tenv now h.inv he hfunc hresult
    refine ⟨{ timers₁ with tlist }, ?_, ?_⟩
    · simp only [hcallback, hreturned, Option.bind_eq_bind, Option.bind_some]
    · simp only [hcallback, hreturned, Option.bind_eq_bind, Option.bind_some]
      refine h.of_changed
        (h.registered.of_same (sameKept_qnetdClientAlgoTimerCallback hres).fixed.registration)
        hinv hothers (fun j => ?_) fun j hj => ?_
      · rw [hasAlgoTimer_timerCallback h.registered hadd hmem htres hres, hvalid halloc]
      · rw [hvalid halloc]
        exact recordWaiting_of_ne hresult.log hj
  · cases hs'

/-- One event keeps the timers as they should be. -/
theorem LmsTimerInv.step {event : LmsTimerEvent} (h : LmsTimerInv s timers)
    (hs : s.timers = some timers) (hok : LmsTimerOk s event)
    (hstep : lmsTimerStep settings toInterval s event = some s') :
    ∃ timers', s'.timers = some timers' ∧ LmsTimerInv s' timers' := by
  simp only [lmsTimerStep, hs] at hstep
  cases event with
  | cluster env tenv event =>
    obtain ⟨halgorithm, halloc, hadd⟩ := hok
    dsimp only at hstep
    split at hstep
    · cases hstep
    · next cluster' log hcluster =>
      exact h.cluster hs halgorithm halloc hadd hcluster hstep
  | expire env tenv now =>
    dsimp only at hstep
    split at hstep
    · cases hstep
    · next e hexpired =>
      split at hstep
      · cases hstep
      · next id hfunc => exact h.expire hok.1 hok.2 (mem_of_timerListExpired hexpired) hfunc hstep
  | other now op =>
    obtain ⟨tlist, added, happly, hinv⟩ :=
      otherTimers_spec toInterval now h.inv op (hok timers hs)
    simp only [happly, Option.bind_eq_bind, Option.bind_some] at hstep
    cases hstep
    exact ⟨_, rfl, h.registered, hinv, h.agree, h.waiting⟩

/-- And so does every run. -/
theorem lmsTimerInv_of_reach {id : ClusterId} {name : List UInt8}
    (h : (lmsTimerMachine settings toInterval id name).Reach LmsTimerOk s) :
    ∃ timers, s.timers = some timers ∧ LmsTimerInv s timers := by
  refine Runs.Machine.Reach.invariant (fun s => ∃ timers, s.timers = some timers ∧
    LmsTimerInv s timers) ?_ ?_ h
  · refine ⟨{}, rfl, registered_empty _ id name, ⟨TimerList.valid_empty, fun _ e => ?_⟩,
      fun _ => rfl, fun _ hwaiting => by cases hwaiting⟩
    have hempty : e ∉ ({} : MainTimers).tlist.entries := List.not_mem_nil
    simp [hempty]
  · rintro s s' event - ⟨timers, hs, hinv⟩ hok hstep
    exact hinv.step hs hok hstep

end Steps

/-- The runs with the timer list are runs of the cluster. -/
theorem lmsTimer_cluster_reach {settings : Settings} {toInterval : UInt32 → UInt32}
    {id : ClusterId} {name : List UInt8} {s : LmsTimerState}
    (h : (lmsTimerMachine settings toInterval id name).Reach LmsTimerOk s) :
    (clusterMachine settings id name).Reach
      (fun _ e => UsesAlgorithm .lms e.2 ∧ e.1.timerListAdd = true) s.cluster := by
  refine Runs.Machine.Reach.invariant (fun s => (clusterMachine settings id name).Reach
    (fun _ e => UsesAlgorithm .lms e.2 ∧ e.1.timerListAdd = true) s.cluster) .init ?_ h
  intro s s' event hreach hcluster hok hstep
  obtain ⟨timers, hs, hinv⟩ := lmsTimerInv_of_reach hreach
  simp only [lmsTimerMachine, lmsTimerStep, hs] at hstep
  cases event with
  | cluster env tenv event =>
    dsimp only at hstep
    split at hstep
    · cases hstep
    · next cluster' log hstep₁ =>
      have hs' : s'.cluster = cluster' := clusterEventTimers_cluster hstep
      refine .step hcluster (e := (env, event)) ⟨hok.1, hok.2.2⟩ ?_
      simp only [clusterMachine, hstep₁, hs']
  | expire env tenv now =>
    dsimp only at hstep
    split at hstep
    · cases hstep
    · next e hexpired =>
      split at hstep
      · cases hstep
      · next id' hfunc =>
        obtain ⟨client, hclient, htimer⟩ :=
          hinv.client? ((hinv.inv.points id' e).mpr ⟨mem_of_timerListExpired hexpired, hfunc⟩)
        refine .step hcluster (e := (env, .algoTimer id')) ⟨trivial, hok.2⟩ ?_
        rw [expireTimers, hclient] at hstep
        dsimp only at hstep
        split at hstep
        · next tres cluster' _ _ htres hres =>
          cases hstep
          have hsome : client.algoTimer.isNone = false := by
            rw [← Option.not_isSome, htimer, Bool.not_true]
          simp only [clusterMachine, clusterStep, clusterAlgoTimer, hclient, hsome, hres,
            Bool.false_eq_true, if_false]
        · cases hstep
  | other now op =>
    cases hstep
    exact hcluster

/-- In every run of an LMS cluster, `algo_timer` of a client points to the one active entry with
    the client's callback, and is NULL when there is none.  The last answer to the client was
    WAIT_FOR_REPLY only if there is one. -/
theorem lms_wait_timer {settings : Settings} {toInterval : UInt32 → UInt32} {id : ClusterId}
    {name : List UInt8} {s : LmsTimerState}
    (h : (lmsTimerMachine settings toInterval id name).Reach LmsTimerOk s) :
    (∃ timers, s.timers = some timers ∧
      (∀ client e, timers.algoTimer client = some e ↔
        e ∈ timers.tlist.entries ∧ timers.func e = .algoTimer client) ∧
      timers.tlist.entries.Nodup ∧
      (∀ e ∈ timers.tlist.entries, (timers.tlist.entry e).isActive = true) ∧
      (∀ client, (timers.algoTimer client).isSome = s.cluster.hasAlgoTimer client) ∧
      ∀ client, s.waiting client = true → (timers.algoTimer client).isSome = true) ∧
    ∀ env cluster client ringId result,
      doLmsAlgorithm env cluster client ringId = .ok result →
      (result.log.any AlgoLog.lmsWaits = true ↔
        result.replyErrorCode = .noError ∧ result.resultVote = .waitForReply) := by
  obtain ⟨timers, hs, hinv⟩ := lmsTimerInv_of_reach h
  have hvalid := hinv.inv.valid
  refine ⟨⟨timers, hs, hinv.inv.points, hvalid.placed.nodup, hvalid.active, hinv.agree,
    hinv.waiting⟩, fun env cluster client ringId result hdo => ?_⟩
  exact (doLmsAlgorithm_cases hdo).log_waits.2

/-- Two nodes do not agree on the ring, so node 1 has to wait; it still has to after its timer has
    expired, and the entry of the old timer is the one of the new timer. -/
theorem lms_wait_timer_expired : ∃ s timers,
    (lmsTimerMachine .plain (fun ms => ms) 0 [97]).Reach LmsTimerOk s ∧
    s.timers = some timers ∧ s.waiting 1 = true ∧ timers.tlist.entryCount = 1 ∧
    timers.algoTimer 1 = some 0 ∧ timers.tlist.entries = [0] ∧
    timers.func 0 = .algoTimer 1 ∧ (timers.tlist.entry 0).isActive = true := by
  have hrun : ∃ s ∈ (lmsTimerMachine .plain (fun ms => ms) 0 [97]).execWhile
      (fun s event => decide (LmsTimerOk s event))
      (lmsTimerMachine .plain (fun ms => ms) 0 [97]).init
      [.cluster .ok ⟨{}, 0⟩ (.init ⟨1, [97], false, false, none, none⟩
          (initMsg .lms ⟨.lowest, 0⟩ 1 ⟨1, 4⟩)),
        .cluster .ok ⟨{}, 1⟩ (.init ⟨2, [97], false, false, none, none⟩
          (initMsg .lms ⟨.lowest, 0⟩ 2 ⟨2, 4⟩)),
        .cluster .ok ⟨{}, 2⟩ (.message 1 (membershipNodeListMsg ⟨1, 4⟩ [1, 2] .undefined)),
        .cluster .ok ⟨{}, 3⟩ (.message 1 askForVoteMsg),
        .expire .ok ⟨{}, 10000⟩ 10000],
      ∃ timers ∈ s.timers, s.waiting 1 = true ∧ timers.tlist.entryCount = 1 ∧
        timers.algoTimer 1 = some 0 ∧ timers.tlist.entries = [0] := by
    decide +kernel
  obtain ⟨s, hs, timers, htimers, hwaiting, hcount, hpointer, hentries⟩ := hrun
  have hreach : (lmsTimerMachine .plain (fun ms => ms) 0 [97]).Reach LmsTimerOk s :=
    Runs.Machine.Reach.execWhile (fun _ _ => of_decide_eq_true) .init hs
  obtain ⟨⟨timers', htimers', hpoints, -, hactive, -⟩, -⟩ := lms_wait_timer hreach
  obtain rfl : timers' = timers := Option.some.inj (htimers'.symm.trans htimers)
  obtain ⟨hmem, hfunc⟩ := (hpoints 1 0).mp hpointer
  exact ⟨s, timers', hreach, htimers, hwaiting, hcount, hpointer, hentries, hfunc, hactive 0 hmem⟩

end Qdevice.Qnetd
