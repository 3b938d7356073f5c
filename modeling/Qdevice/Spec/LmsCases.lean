import Qdevice.Spec.HandlerCases

/-! # The outcomes of `do_lms_algorithm`

What `do_lms_algorithm` reads of the clients is their `lmsView`; timers and TLS flags are not part
of it.  `LmsCase` lists the ways a run can end, each with the guards that lead there, so that
later proofs need not unfold the function. -/

namespace Qdevice.Qnetd

/-! ### What the algorithm reads -/

/-- The part of a client that LMS looks at. -/
structure LmsView where
  id : ClientId
  nodeId : UInt32
  tieBreaker : TlvTieBreaker
  lastMembershipNodeList : NodeList
  lastRingId : TlvRingId
  lastHeuristics : TlvHeuristics
  lmsInfo : LmsInfo

def QnetdClient.lmsView (c : QnetdClient) : LmsView where
  id := c.id
  nodeId := c.nodeId
  tieBreaker := c.tieBreaker
  lastMembershipNodeList := c.lastMembershipNodeList
  lastRingId := c.lastRingId
  lastHeuristics := c.lastHeuristics
  lmsInfo := c.lmsInfo

def SameLmsView (cluster cluster' : QnetdCluster) : Prop :=
  cluster'.clientList.map QnetdClient.lmsView = cluster.clientList.map QnetdClient.lmsView

theorem sameLmsView_modifyClient (cluster : QnetdCluster) (id : ClientId)
    {f : QnetdClient → QnetdClient} (h : ∀ c, (f c).lmsView = c.lmsView) :
    SameLmsView cluster (cluster.modifyClient id f) :=
  map_modifyClient _ cluster id f fun c _ _ => h c

theorem sameLmsView_write {cluster : QnetdCluster} {client client' : QnetdClient}
    (huniq : ∀ c ∈ cluster.clientList, c.id = client.id → c = client)
    (h : client'.lmsView = client.lmsView) :
    SameLmsView cluster (cluster.modifyClient client.id fun _ => client') :=
  map_modifyClient _ cluster client.id _ fun c hc hid => by rw [huniq c hc hid, h]

private theorem algoCountClient_congr {c c' : QnetdClient} (hring : c'.lastRingId = c.lastRingId)
    (hheuristics : c'.lastHeuristics = c.lastHeuristics) (partitions : List AlgoPartition) :
    algoCountClient c' partitions = algoCountClient c partitions := by
  induction partitions with
  | nil => rfl
  | cons p rest ih => simp only [algoCountClient, hring, hheuristics, ih]

private theorem algoCreatePartitionsLoop_congr (env : Env) {clients clients' : List QnetdClient}
    (h : clients'.map QnetdClient.lmsView = clients.map QnetdClient.lmsView)
    (partitions : List AlgoPartition) (n : Nat) :
    algoCreatePartitionsLoop env partitions n clients' =
      algoCreatePartitionsLoop env partitions n clients := by
  induction clients generalizing clients' partitions n with
  | nil => rw [List.map_eq_nil_iff.mp h]
  | cons c rest ih =>
    obtain ⟨c', rest', rfl, hview, hrest⟩ := List.map_eq_cons_iff.mp h
    have hring : c'.lastRingId = c.lastRingId := congrArg LmsView.lastRingId hview
    have hheuristics : c'.lastHeuristics = c.lastHeuristics :=
      congrArg LmsView.lastHeuristics hview
    simp only [algoCreatePartitionsLoop, hring, algoCountClient_congr hring hheuristics, ih hrest]

/-- One round of the loop of `lmsTieBreakerNode`, on the view of the other client. -/
private def tieBreakerRound (client : QnetdClient) (acc : UInt32 × TlvRingId) (other : LmsView) :
    UInt32 × TlvRingId :=
  match client.tieBreaker.mode with
  | .lowest => if other.nodeId < acc.1 then (other.nodeId, other.lastRingId) else acc
  | .highest => if other.nodeId > acc.1 then (other.nodeId, other.lastRingId) else acc
  | .nodeId => if client.tieBreaker.nodeId = client.nodeId then (acc.1, other.lastRingId) else acc
  | .unset => (acc.1, .zero)

section Congruence

variable {cluster cluster' : QnetdCluster} (h : SameLmsView cluster cluster')

include h

theorem algoAllRingIdsMatch_congr {client client' : QnetdClient}
    (hclient : client'.lmsView = client.lmsView) (ringId : TlvRingId) :
    algoAllRingIdsMatch cluster' client' ringId = algoAllRingIdsMatch cluster client ringId := by
  -- the test of one client, on its view
  let test (me other : LmsView) : Bool :=
    other.id == me.id ||
      !((me.lastMembershipNodeList.any (fun n => n.nodeId == other.nodeId) ||
        other.lastMembershipNodeList.any (fun n => n.nodeId == me.nodeId)) &&
        !tlvRingIdEq ringId other.lastRingId)
  have hall (cl : QnetdCluster) (c : QnetdClient) : algoAllRingIdsMatch cl c ringId =
      (cl.clientList.map QnetdClient.lmsView).all (test c.lmsView) := by
    rw [List.all_map]
    rfl
  rw [hall, hall, h, hclient]

theorem algoCreatePartitions_congr (env : Env) (partitions : List AlgoPartition) :
    algoCreatePartitions env cluster' partitions = algoCreatePartitions env cluster partitions :=
  algoCreatePartitionsLoop_congr env h partitions 0

theorem lmsOtherActivePartition_congr (ringId : TlvRingId) :
    lmsOtherActivePartition cluster' ringId = lmsOtherActivePartition cluster ringId := by
  have hany (cl : QnetdCluster) : lmsOtherActivePartition cl ringId =
      (cl.clientList.map QnetdClient.lmsView).any (fun other =>
        !tlvRingIdEq ringId other.lastRingId && other.lmsInfo.lastResult == .ack) := by
    rw [List.any_map]
    rfl
  rw [hany, hany, h]

theorem lmsTieBreakerNode_congr (client : QnetdClient) :
    lmsTieBreakerNode cluster' client = lmsTieBreakerNode cluster client := by
  have hfold (cl : QnetdCluster) (init : UInt32 × TlvRingId) :
      cl.clientList.foldl (fun acc other => tieBreakerRound client acc other.lmsView) init =
        (cl.clientList.map QnetdClient.lmsView).foldl (tieBreakerRound client) init := by
    rw [List.foldl_map]
  exact (hfold cluster' _).trans
    ((congrArg (List.foldl (tieBreakerRound client) _) h).trans (hfold cluster _).symm)

end Congruence

/-! ### The outcomes -/

/-- What a run leaves in the client. -/
def lmsWrite (algoTimer : QnetdClient → Option UInt32) (lastResult : TlvVote)
    (partitionList : List AlgoPartition) (c : QnetdClient) : QnetdClient :=
  { c with algoTimer := algoTimer c, lmsInfo := { c.lmsInfo with lastResult, partitionList } }

/-- The newcomer rule denies the client. -/
def LmsNewcomer (cluster : QnetdCluster) (client : QnetdClient) (ringId : TlvRingId) : Prop :=
  client.lmsInfo.lastResult = .undefined ∧ lmsOtherActivePartition cluster ringId = true

/-- The run gets past the ring ids and finds at least two partitions. -/
def FindsPartitions (env : Env) (cluster : QnetdCluster) (client : QnetdClient)
    (ringId : TlvRingId) : Prop :=
  algoAllRingIdsMatch cluster client ringId = true ∧
    match (algoCreatePartitions env cluster client.lmsInfo.partitionList).2 with
    | none => False
    | some numPartitions => 2 ≤ numPartitions

instance (env : Env) (cluster : QnetdCluster) (client : QnetdClient) (ringId : TlvRingId) :
    Decidable (FindsPartitions env cluster client ringId) := by
  unfold FindsPartitions
  cases (algoCreatePartitions env cluster client.lmsInfo.partitionList).2 <;> infer_instance

theorem LmsNewcomer.congr {cluster cluster' : QnetdCluster} {client client' : QnetdClient}
    {ringId : TlvRingId} (h : SameLmsView cluster cluster')
    (hclient : client'.lmsView = client.lmsView) (hnew : LmsNewcomer cluster client ringId) :
    LmsNewcomer cluster' client' ringId := by
  have hinfo : client'.lmsInfo = client.lmsInfo := congrArg LmsView.lmsInfo hclient
  simpa only [LmsNewcomer, hinfo, lmsOtherActivePartition_congr h] using hnew

theorem FindsPartitions.congr {env : Env} {cluster cluster' : QnetdCluster}
    {client client' : QnetdClient} {ringId : TlvRingId} (h : SameLmsView cluster cluster')
    (hclient : client'.lmsView = client.lmsView)
    (hfinds : FindsPartitions env cluster' client' ringId) :
    FindsPartitions env cluster client ringId := by
  have hinfo : client'.lmsInfo = client.lmsInfo := congrArg LmsView.lmsInfo hclient
  simpa only [FindsPartitions, algoAllRingIdsMatch_congr h hclient, algoCreatePartitions_congr h,
    hinfo] using hfinds

/-- Logged when the client is told to wait. -/
def AlgoLog.isLmsWait (log : AlgoLog) : Prop :=
  log = .lmsRingIdNotUnique ∨ log = .lmsNoPartitionsFound

/-- Logged when partitions have been compared, with the vote. -/
def AlgoLog.isLmsCompared (log : AlgoLog) (ack : Bool) : Prop :=
  log = .lmsBestScorePartition ack ∨ log = .lmsLargestPartition ack ∨ log = .lmsTieBreaker ack

/-- The ways `do_lms_algorithm` ends. -/
inductive LmsCase (env : Env) (cluster : QnetdCluster) (client : QnetdClient) (ringId : TlvRingId)
    (result : AlgoResult) : Prop where
  | wait (log : AlgoLog) (hlog : log.isLmsWait) (timer : QnetdClient → Option UInt32)
      (partitions : List AlgoPartition)
      (hpartitions : partitions = client.lmsInfo.partitionList ∨
        algoCreatePartitions env cluster client.lmsInfo.partitionList = (partitions, some 0))
      (hcluster : result.cluster =
        cluster.modifyClient client.id (lmsWrite timer .waitForReply partitions))
      (hresult : result = { cluster := result.cluster, resultVote := .waitForReply, log := [log] })
      (htimer : timer = fun c => (qnetdClientAlgoTimerSchedule env c).algoTimer)
  | failed (partitions : List AlgoPartition)
      (hpartitions :
        algoCreatePartitions env cluster client.lmsInfo.partitionList = (partitions, none))
      (hcluster : result.cluster = cluster.modifyClient client.id
        (lmsWrite (fun _ => none) client.lmsInfo.lastResult partitions))
      (hresult : result = { cluster := result.cluster, replyErrorCode := .internalError
                            log := [.lmsErrorCreatingPartitionList] })
  | onePartition
      (hcluster : result.cluster =
        cluster.modifyClient client.id (lmsWrite (fun _ => none) .ack []))
      (hresult : result =
        { cluster := result.cluster, resultVote := .ack, log := [.lmsOnlyOnePartition] })
  | newcomer (hfinds : FindsPartitions env cluster client ringId)
      (hnew : LmsNewcomer cluster client ringId)
      (hcluster : result.cluster =
        cluster.modifyClient client.id (lmsWrite (fun _ => none) client.lmsInfo.lastResult []))
      (hresult : result =
        { cluster := result.cluster, resultVote := .nack, log := [.lmsNewPartitionNack] })
  | compared (hfinds : FindsPartitions env cluster client ringId)
      (hnew : ¬ LmsNewcomer cluster client ringId) (ack : Bool) (log : AlgoLog)
      (hlog : log.isLmsCompared ack)
      (hcluster : result.cluster = cluster.modifyClient client.id
        (lmsWrite (fun _ => none) (if ack then .ack else .nack) []))
      (hresult : result =
        { cluster := result.cluster, resultVote := if ack then .ack else .nack, log := [log] })

section Outcomes

variable {env : Env} {cluster : QnetdCluster} {client : QnetdClient} {ringId : TlvRingId}

/-- Stopping the timer and storing the result is one write. -/
private theorem lmsSetInfo_abort (vote : TlvVote) (partitions : List AlgoPartition) :
    lmsSetInfo (cluster.modifyClient client.id qnetdClientAlgoTimerAbort) client vote partitions =
      cluster.modifyClient client.id (lmsWrite (fun _ => none) vote partitions) :=
  modifyClient_modifyClient _ _ _ _ fun _ h => h

private theorem lmsSetInfo_schedule (env : Env) (cluster : QnetdCluster) (client : QnetdClient)
    (vote : TlvVote) (partitions : List AlgoPartition) :
    lmsSetInfo ((cluster.modifyClient client.id qnetdClientAlgoTimerAbort).modifyClient
        client.id (qnetdClientAlgoTimerSchedule env)) client vote partitions =
      cluster.modifyClient client.id (lmsWrite
        (fun c => (qnetdClientAlgoTimerSchedule env c).algoTimer) vote partitions) := by
  rw [modifyClient_modifyClient cluster client.id qnetdClientAlgoTimerAbort
    (qnetdClientAlgoTimerSchedule env) fun _ h => h]
  exact modifyClient_modifyClient _ _ _ _ fun _ h => h

theorem sameLmsView_abort (cluster : QnetdCluster) (id : ClientId) :
    SameLmsView cluster (cluster.modifyClient id qnetdClientAlgoTimerAbort) :=
  sameLmsView_modifyClient cluster id fun _ => rfl

private theorem lmsAnswer_compared {result : AlgoResult} {ack : Bool} {mkLog : Bool → AlgoLog}
    (hfinds : FindsPartitions env cluster client ringId)
    (hnew : ¬ LmsNewcomer cluster client ringId) (hlog : (mkLog ack).isLmsCompared ack)
    (h : lmsAnswer (cluster.modifyClient client.id qnetdClientAlgoTimerAbort) client ack mkLog =
      result) : LmsCase env cluster client ringId result := by
  subst h
  exact .compared hfinds hnew ack (mkLog ack) hlog (lmsSetInfo_abort _ _) rfl

/-- Every run of `do_lms_algorithm` ends in one of these ways. -/
theorem doLmsAlgorithm_cases {result : AlgoResult}
    (h : doLmsAlgorithm env cluster client ringId = .ok result) :
    LmsCase env cluster client ringId result := by
  have hview := sameLmsView_abort cluster client.id
  simp only [doLmsAlgorithm, algoAllRingIdsMatch_congr hview rfl, algoCreatePartitions_congr hview,
    lmsOtherActivePartition_congr hview, lmsTieBreakerNode_congr hview] at h
  split at h
  · obtain rfl := Except.ok.inj h
    exact .wait _ (.inl rfl) _ _ (.inl rfl) (lmsSetInfo_schedule ..) rfl rfl
  · next hmatch =>
    split at h
    · next partitions hparts =>
      obtain rfl := Except.ok.inj h
      exact .failed partitions hparts (lmsSetInfo_abort _ _) rfl
    · next partitions hparts =>
      obtain rfl := Except.ok.inj h
      exact .wait _ (.inr rfl) _ _ (.inr hparts) (lmsSetInfo_schedule ..) rfl rfl
    · obtain rfl := Except.ok.inj h
      exact .onePartition (lmsSetInfo_abort _ _) rfl
    · next partitions n hparts =>
      have hfinds : FindsPartitions env cluster client ringId := by
        refine ⟨by simpa using hmatch, ?_⟩
        rw [hparts]
        exact Nat.le_add_left 2 n
      split at h
      · next hnew =>
        obtain rfl := Except.ok.inj h
        exact .newcomer hfinds hnew (lmsSetInfo_abort _ _) rfl
      · next hnew =>
        split at h
        · cases h
        · split at h
          · exact lmsAnswer_compared hfinds hnew (.inl rfl) (Except.ok.inj h)
          · split at h
            · cases h
            · split at h
              · exact lmsAnswer_compared hfinds hnew (.inr (.inl rfl)) (Except.ok.inj h)
              · exact lmsAnswer_compared hfinds hnew (.inr (.inr rfl)) (Except.ok.inj h)

end Outcomes

end Qdevice.Qnetd
