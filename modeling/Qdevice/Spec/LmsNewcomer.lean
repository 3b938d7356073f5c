import Qdevice.Spec.ClusterRun
import Qdevice.Spec.LmsCases
import Qdevice.Spec.LmsPartitions

/-! # LMS: newcomers and active partitions

A client that has not been given a vote on its connection should not take the vote from a partition
that has it.  `do_lms_algorithm` knows newcomers by `last_result` 0, and does not save the NACK it
gives them; but the branches that tell a client to wait do save WAIT_FOR_REPLY, and after that the
client is compared like any other.  The runs here keep the answers of `do_lms_algorithm`
beside the cluster, as long as the connection lasts. -/

namespace Qdevice.Qnetd

/-! ### Runs with the answers that were given -/

/-- A cluster, and what `do_lms_algorithm` answered on the connections that are still there. -/
structure LmsRunState where
  cluster : QnetdCluster
  answers : List (ClientId × AlgoLog) := []

/-- Answers are added when an event runs the algorithm, and forgotten with the connection. -/
def recordAnswers (event : ClusterEvent) (log : List AlgoLog)
    (answers : List (ClientId × AlgoLog)) : List (ClientId × AlgoLog) :=
  match event with
  | .init .. => answers
  | .message id _ | .algoTimer id => answers ++ log.map fun l => (id, l)
  | .disconnect id _ => answers.filter fun a => a.1 ≠ id

/-- The runs of one cluster with their answers. -/
def lmsMachine (settings : Settings) (id : ClusterId) (name : List UInt8) :
    Runs.Machine LmsRunState (Env × ClusterEvent) where
  init := { cluster := emptyCluster id name }
  step s e :=
    match clusterStep settings e.1 s.cluster e.2 with
    | .error _ => none
    | .ok (cluster', log) =>
      some { cluster := cluster', answers := recordAnswers e.2 log s.answers }

/-- An answer that is saved: everything but waiting, the NACK for newcomers and failing. -/
def AlgoLog.lmsSaved : AlgoLog → Bool
  | .lmsOnlyOnePartition | .lmsBestScorePartition _ | .lmsLargestPartition _
  | .lmsTieBreaker _ => true
  | _ => false

/-- ACK from a comparison of two or more partitions. -/
def AlgoLog.lmsComparedAck : AlgoLog → Bool
  | .lmsBestScorePartition ack | .lmsLargestPartition ack | .lmsTieBreaker ack => ack
  | _ => false

/-- On its current connection the client has only been told to wait or denied as a newcomer. -/
def StillNewcomer (s : LmsRunState) (id : ClientId) : Prop :=
  ∀ a ∈ s.answers, a.1 = id → a.2.lmsSaved = false

instance (s : LmsRunState) (id : ClientId) : Decidable (StillNewcomer s id) :=
  inferInstanceAs (Decidable (∀ a ∈ _, _))

/-- The client whose message or timer an event is. -/
def ClusterEvent.sender? : ClusterEvent → Option ClientId
  | .message id _ | .algoTimer id => some id
  | .init .. | .disconnect .. => none

/-- The ring id for which an event of a client runs `do_lms_algorithm`. -/
def lmsRunRing? (event : ClusterEvent) (client : QnetdClient) : Option TlvRingId :=
  match event with
  | .message _ msg =>
    match (MsgType.ofUInt16? msg.type).bind fun type => AlgoCall.ofMsg? type msg with
    | some (.membership ringId _ _) => some ringId
    | some (.quorum _) | some .askForVote => some client.lastRingId
    | _ => none
  | .algoTimer _ => some client.lastRingId
  | .init .. | .disconnect .. => none

/-- No newcomer that was told to wait is compared while another ring is active. -/
def ComparesNoWaiting (s : LmsRunState) (e : Env × ClusterEvent) : Prop :=
  ∀ id ∈ e.2.sender?, ∀ c ∈ s.cluster.client? id, ∀ ringId ∈ lmsRunRing? e.2 c,
    StillNewcomer s id → c.lmsInfo.lastResult = .waitForReply →
      FindsPartitions e.1 s.cluster c ringId → lmsOtherActivePartition s.cluster ringId = false

instance (s : LmsRunState) (e : Env × ClusterEvent) : Decidable (ComparesNoWaiting s e) :=
  inferInstanceAs (Decidable (∀ id ∈ _, _))

/-- The steps of an LMS cluster. -/
def LmsRun (_ : LmsRunState) (e : Env × ClusterEvent) : Prop := UsesAlgorithm .lms e.2

instance (s : LmsRunState) (e : Env × ClusterEvent) : Decidable (LmsRun s e) :=
  inferInstanceAs (Decidable (UsesAlgorithm .lms e.2))

def LmsOk (s : LmsRunState) (e : Env × ClusterEvent) : Prop :=
  LmsRun s e ∧ ComparesNoWaiting s e

instance (s : LmsRunState) (e : Env × ClusterEvent) : Decidable (LmsOk s e) :=
  inferInstanceAs (Decidable (_ ∧ _))

/-- A newcomer is not given ACK over a ring that has the vote: the answers of the event hold no
    ACK from a comparison while a client with another ring id was last answered with ACK. -/
def NewcomerRule (s : LmsRunState) (event : ClusterEvent) (log : List AlgoLog) : Prop :=
  ∀ id client ringId, event.sender? = some id → s.cluster.client? id = some client →
    lmsRunRing? event client = some ringId → StillNewcomer s id →
    (∃ other ∈ s.cluster.clientList,
      other.lastRingId ≠ ringId ∧ other.lmsInfo.lastResult = .ack) →
    ∀ l ∈ log, l.lmsComparedAck = false

/-! ### What an event does to the results -/

/-- What `do_lms_algorithm` remembers of a client. -/
def QnetdClient.lmsState (c : QnetdClient) : ClientId × TlvVote × List AlgoPartition :=
  (c.id, c.lmsInfo.lastResult, c.lmsInfo.partitionList)

def SameLmsState (cluster cluster' : QnetdCluster) : Prop :=
  cluster'.clientList.map QnetdClient.lmsState = cluster.clientList.map QnetdClient.lmsState

theorem SameLmsState.trans {cl₁ cl₂ cl₃ : QnetdCluster} (h₁₂ : SameLmsState cl₁ cl₂)
    (h₂₃ : SameLmsState cl₂ cl₃) : SameLmsState cl₁ cl₃ :=
  Eq.trans h₂₃ h₁₂

theorem sameLmsState_modifyClient (cluster : QnetdCluster) (id : ClientId)
    {f : QnetdClient → QnetdClient} (h : ∀ c, (f c).lmsState = c.lmsState) :
    SameLmsState cluster (cluster.modifyClient id f) :=
  map_modifyClient _ cluster id f fun c _ _ => h c

theorem SameLmsView.state {cluster cluster' : QnetdCluster} (h : SameLmsView cluster cluster') :
    SameLmsState cluster cluster' :=
  List.map_comp_of_map_eq
    (fun v : LmsView => (v.id, v.lmsInfo.lastResult, v.lmsInfo.partitionList)) h

theorem ignoresConnection_lmsView : IgnoresConnection QnetdClient.lmsView :=
  fun _ _ _ _ _ _ _ _ _ _ => rfl

theorem ignoresConnection_lmsState : IgnoresConnection QnetdClient.lmsState :=
  fun _ _ _ _ _ _ _ _ _ _ => rfl

theorem qnetdAlgorithmArray_lms :
    qnetdAlgorithmArray TlvDecisionAlgorithmType.lms.toUInt16 = some .lms := rfl

/-- A run of `do_lms_algorithm` in the course of an event: for which client and ring, on a
    cluster that differs in nothing the algorithm reads, and what is left of its result. -/
structure LmsRan (env : Env) (cluster : QnetdCluster) (event : ClusterEvent) (id : ClientId)
    (client : QnetdClient) (ringId : TlvRingId) (result : AlgoResult) (cluster' : QnetdCluster) :
    Prop where
  sender : event.sender? = some id
  connected : cluster.client? id = some client
  ring : lmsRunRing? event client = some ringId
  ran : ∃ cluster₁ client₁, SameLmsView cluster cluster₁ ∧ client₁.lmsView = client.lmsView ∧
    LmsCase env cluster₁ client₁ ringId result
  left : SameLmsState result.cluster cluster'

section Events

variable {settings : Settings} {env : Env} {cluster cluster' : QnetdCluster} {id : ClientId}
  {log : List AlgoLog}

/-- The callbacks that do not run the algorithm log nothing and write at most the number of nodes. -/
theorem lmsRun_cases {call : AlgoCall} {client : QnetdClient} {result : AlgoResult}
    (halgorithm : client.decisionAlgorithm = TlvDecisionAlgorithmType.lms.toUInt16)
    (h : call.run env cluster client = .ok result) :
    (result.log = [] ∧ ∃ write : LmsInfo → LmsInfo, (∀ info, ∃ n, write info = { info with
          numConfigNodes := n }) ∧ result.cluster = cluster.modifyClient client.id fun c =>
            { c with lmsInfo := write c.lmsInfo }) ∨
      ∃ ringId, doLmsAlgorithm env cluster client ringId = .ok result ∧
        ((∃ nodes heuristics, call = .membership ringId nodes heuristics) ∨
          ((∃ nodes, call = .quorum nodes) ∨ call = .askForVote) ∧ ringId = client.lastRingId) := by
  cases call with
  | config nodes version initial =>
    simp only [AlgoCall.run, qnetdAlgorithmConfigNodeListReceived, halgorithm,
      qnetdAlgorithmArray_lms, lmsConfigNodeListReceived] at h
    cases h
    exact .inl ⟨rfl, fun info => { info with numConfigNodes := nodeListSize nodes },
      fun _ => ⟨_, rfl⟩, rfl⟩
  | membership ringId nodes heuristics =>
    simp only [AlgoCall.run, qnetdAlgorithmMembershipNodeListReceived, halgorithm,
      qnetdAlgorithmArray_lms, lmsMembershipNodeListReceived] at h
    exact .inr ⟨ringId, h, .inl ⟨nodes, heuristics, rfl⟩⟩
  | quorum nodes =>
    simp only [AlgoCall.run, qnetdAlgorithmQuorumNodeListReceived, halgorithm,
      qnetdAlgorithmArray_lms, lmsQuorumNodeListReceived] at h
    exact .inr ⟨_, h, .inr ⟨.inl ⟨nodes, rfl⟩, rfl⟩⟩
  | askForVote =>
    simp only [AlgoCall.run, qnetdAlgorithmAskForVoteReceived, halgorithm,
      qnetdAlgorithmArray_lms, lmsAskForVoteReceived] at h
    exact .inr ⟨_, h, .inr ⟨.inr rfl, rfl⟩⟩
  | voteInfoReply seqNumber =>
    simp only [AlgoCall.run, qnetdAlgorithmVoteInfoReplyReceived, halgorithm,
      qnetdAlgorithmArray_lms] at h
    cases h
    exact .inl ⟨rfl, fun info => info, fun _ => ⟨_, rfl⟩, (modifyClient_id ..).symm⟩
  | heuristicsChange heuristics =>
    simp only [AlgoCall.run, qnetdAlgorithmHeuristicsChangeReceived, halgorithm,
      qnetdAlgorithmArray_lms] at h
    cases h
    exact .inl ⟨rfl, fun info => info, fun _ => ⟨_, rfl⟩, (modifyClient_id ..).symm⟩

/-- What is stored after a callback is none of the results. -/
private theorem AfterCall.sameLmsState {env : Env} {call : AlgoCall} {client : QnetdClient}
    {result : AlgoResult} {res : Handled} (h : AfterCall env call client result res) :
    SameLmsState result.cluster res.cluster := by
  cases h with
  | failed _ hres => rw [hres]; rfl
  | stored _ hres =>
    rw [hres]
    exact sameLmsState_modifyClient _ _ fun c => by cases call <;> rfl
  | emptied _ _ hres =>
    rw [hres]
    exact sameLmsState_modifyClient _ _ fun c => by cases call <;> rfl

/-- A message keeps the results, or it ran the algorithm. -/
theorem lmsMessage_cases {msg : MsgDecoded}
    (hreg : Registered TlvDecisionAlgorithmType.lms.toUInt16 cluster)
    (h : clusterMessage settings env cluster id msg = .ok (cluster', log)) :
    (log = [] ∧ SameLmsState cluster cluster') ∨
      ∃ client ringId result, log = result.log ∧
        LmsRan env cluster (.message id msg) id client ringId result cluster' := by
  rcases clusterMessage_view ignoresConnection_lmsState hreg.ids h with
    ⟨hlog, hsame, -⟩ | ⟨client, client', type, call, result, res, hclient, htype, hcall, htls, hrun,
      hafter, rfl, hsame, -⟩
  · exact .inl ⟨hlog, hsame⟩
  have huniq := hreg.client?_eq hclient
  have hview := ignoresConnection_lmsView.checkTls htls
  have hsame₁ := sameLmsView_write huniq hview
  have halgorithm : client'.decisionAlgorithm = TlvDecisionAlgorithmType.lms.toUInt16 := by
    rw [← hreg.algorithm client (client?_mem hclient)]
    rcases checkTls_success htls with rfl | ⟨_, _, _, _, _, rfl⟩ <;> rfl
  have hleft : SameLmsState result.cluster cluster' := hafter.sameLmsState.trans hsame
  rcases lmsRun_cases halgorithm hrun with ⟨hlog, write, hwrite, hcluster⟩ | ⟨ringId, hdo, hring⟩
  · have hsame₂ : SameLmsState (cluster.modifyClient client.id fun _ => client') result.cluster := by
      rw [hcluster]
      refine sameLmsState_modifyClient _ _ fun c => ?_
      obtain ⟨n, hn⟩ := hwrite c.lmsInfo
      simp only [QnetdClient.lmsState, hn]
    exact .inl ⟨hlog, (hsame₁.state.trans hsame₂).trans hleft⟩
  · refine .inr ⟨client, ringId, result, rfl, rfl, hclient, ?_,
      ⟨_, client', hsame₁, hview, doLmsAlgorithm_cases hdo⟩, hleft⟩
    have hringId : client'.lastRingId = client.lastRingId := congrArg LmsView.lastRingId hview
    simp only [lmsRunRing?, htype, Option.bind_some, hcall]
    rcases hring with ⟨nodes, heuristics, rfl⟩ | ⟨⟨nodes, rfl⟩ | rfl, rfl⟩
    · rfl
    · rw [hringId]
    · rw [hringId]

private theorem lmsAlgoTimerCallback_result {client : QnetdClient} {res : AlgoResult}
    (halgorithm : client.decisionAlgorithm = TlvDecisionAlgorithmType.lms.toUInt16)
    (h : qnetdClientAlgoTimerCallback env cluster client = .ok res) :
    ∃ result, doLmsAlgorithm env cluster client client.lastRingId = .ok result ∧
      res.log = result.log ∧ SameLmsState result.cluster res.cluster := by
  simp only [qnetdClientAlgoTimerCallback, qnetdAlgorithmTimerCallback, halgorithm,
    qnetdAlgorithmArray_lms, lmsTimerCallback] at h
  cases hdo : doLmsAlgorithm env cluster client client.lastRingId with
  | error abort =>
    rw [hdo] at h
    cases h
  | ok result =>
    rw [hdo] at h
    simp only at h
    refine ⟨result, rfl, ?_⟩
    have hflag (cl : QnetdCluster) : SameLmsState cl (cl.scheduleDisconnect client.id) :=
      sameLmsState_modifyClient _ _ fun _ => rfl
    split at h
    · split at h <;> cases h
      · exact ⟨rfl, rfl⟩
      · exact ⟨rfl, hflag _⟩
    · -- the vote that is sent and the timer are no results
      have hsent (send : Bool) : SameLmsState result.cluster
          (if send then result.cluster.modifyClient client.id fun c =>
            let seqNumber := c.algoTimerVoteInfoMsqSeqNumber + 1
            qnetdClientSendVoteInfo env { c with algoTimerVoteInfoMsqSeqNumber := seqNumber }
              seqNumber c.lastRingId result.resultVote
          else result.cluster) := by
        split
        · exact sameLmsState_modifyClient _ _ fun _ => rfl
        · rfl
      split at h
      · cases h
        exact ⟨rfl, (hsent _).trans (hflag _)⟩
      · split at h <;> cases h
        · exact ⟨rfl, hsent _⟩
        · exact ⟨rfl, (hsent _).trans (sameLmsState_modifyClient _ _ fun _ => rfl)⟩

/-- An expired timer runs the algorithm. -/
theorem lmsAlgoTimer_cases
    (hreg : Registered TlvDecisionAlgorithmType.lms.toUInt16 cluster)
    (h : clusterAlgoTimer env cluster id = .ok (cluster', log)) :
    (log = [] ∧ SameLmsState cluster cluster') ∨
      ∃ client ringId result, log = result.log ∧
        LmsRan env cluster (.algoTimer id) id client ringId result cluster' := by
  simp only [clusterAlgoTimer] at h
  split at h
  · cases h
    exact .inl ⟨rfl, rfl⟩
  · next client hclient =>
    have halgorithm := hreg.algorithm client (client?_mem hclient)
    split at h
    · cases h
      exact .inl ⟨rfl, rfl⟩
    · split at h
      · cases h
      · next res hres =>
        cases h
        obtain ⟨result, hdo, hlog, hleft⟩ := lmsAlgoTimerCallback_result halgorithm hres
        exact .inr ⟨client, client.lastRingId, result, hlog, rfl, hclient, rfl,
          ⟨cluster, client, rfl, rfl, doLmsAlgorithm_cases hdo⟩, hleft⟩

/-- Whether there is memory does not depend on more than the view of LMS. -/
theorem AllocsLater.congr {cluster₁ cluster₂ : QnetdCluster} (hsame : SameLmsView cluster₁ cluster₂)
    (h : AllocsLater env cluster₁) : AllocsLater env cluster₂ := by
  have hrings : cluster₂.clientList.map (·.lastRingId) = cluster₁.clientList.map (·.lastRingId) :=
    List.map_comp_of_map_eq LmsView.lastRingId hsame
  rwa [AllocsLater, ringsOf, hrings]

/-- What a run writes: a result that is not saved by a comparison is WAIT_FOR_REPLY or the old
    one, and partitions are freed. -/
private theorem LmsCase.written {client : QnetdClient} {ringId : TlvRingId} {result : AlgoResult}
    (h : LmsCase env cluster client ringId result) :
    ∃ l timer vote partitions, result.log = [l] ∧
      result.cluster = cluster.modifyClient client.id (lmsWrite timer vote partitions) ∧
      (l.lmsSaved = true ∨ vote = .waitForReply ∨ vote = client.lmsInfo.lastResult) ∧
      (client.lmsInfo.partitionList = [] → AllocsLater env cluster → partitions = []) := by
  cases h with
  | wait log hlog timer partitions hpartitions hcluster hresult =>
    refine ⟨log, timer, _, partitions, by rw [hresult], hcluster, .inr (.inl rfl),
      fun hempty _ => ?_⟩
    rw [hempty] at hpartitions
    rcases hpartitions with rfl | hparts
    · rfl
    · rcases algoCreatePartitions_cases env cluster with
        ⟨left, -, -, hleft⟩ | ⟨-, partitions', -, hparts'⟩
      · rw [hparts] at hleft
        cases hleft
      · rw [hparts, Prod.mk.injEq, Option.some.injEq] at hparts'
        exact hparts'.1.trans (List.length_eq_zero_iff.mp hparts'.2.symm)
  | failed partitions hpartitions hcluster hresult =>
    refine ⟨_, _, _, partitions, by rw [hresult], hcluster, .inr (.inr rfl),
      fun hempty halloc => ?_⟩
    rw [hempty] at hpartitions
    exact eq_nil_of_allocsLater halloc hpartitions
  | onePartition hcluster hresult =>
    exact ⟨_, _, _, [], by rw [hresult], hcluster, .inl rfl, fun _ _ => rfl⟩
  | newcomer _ _ hcluster hresult =>
    exact ⟨_, _, _, [], by rw [hresult], hcluster, .inr (.inr rfl), fun _ _ => rfl⟩
  | compared _ _ ack log hlog hcluster hresult =>
    refine ⟨log, _, _, [], by rw [hresult], hcluster, .inl ?_, fun _ _ => rfl⟩
    rcases hlog with rfl | rfl | rfl <;> rfl

/-- The clients after a run: the one it was for has the new result, the others are unchanged. -/
theorem LmsRan.mem {event : ClusterEvent} {client : QnetdClient} {ringId : TlvRingId}
    {result : AlgoResult} (h : LmsRan env cluster event id client ringId result cluster') :
    ∃ l vote partitions, result.log = [l] ∧
      (l.lmsSaved = true ∨ vote = .waitForReply ∨ vote = client.lmsInfo.lastResult) ∧
      (client.lmsInfo.partitionList = [] → AllocsLater env cluster → partitions = []) ∧
      ∀ c' ∈ cluster'.clientList,
        (∃ c ∈ cluster.clientList, c.id ≠ id ∧ c'.lmsState = c.lmsState) ∨
          c'.lmsState = (id, vote, partitions) := by
  obtain ⟨cluster₁, client₁, hsame, hview, hcase⟩ := h.ran
  obtain ⟨l, timer, vote, partitions, hlog, hcluster, hvote, hfreed⟩ := hcase.written
  have hinfo : client₁.lmsInfo = client.lmsInfo := congrArg LmsView.lmsInfo hview
  have hid : client₁.id = id := (congrArg LmsView.id hview).trans (client?_id h.connected)
  rw [hinfo] at hvote hfreed
  replace hfreed := fun hempty halloc => hfreed hempty (AllocsLater.congr hsame halloc)
  refine ⟨l, vote, partitions, hlog, hvote, hfreed, fun c' hc' => ?_⟩
  obtain ⟨c₂, hc₂, hstate⟩ := List.exists_mem_of_map_eq h.left hc'
  rw [hcluster, hid] at hc₂
  obtain ⟨c₁, hc₁, ⟨hid₁, rfl⟩ | ⟨hid₁, rfl⟩⟩ := mem_modifyClient hc₂
  · right
    rw [← hstate, ← hid₁]
    rfl
  · left
    obtain ⟨c, hc, hstate'⟩ := List.exists_mem_of_map_eq hsame.state hc₁
    exact ⟨c, hc, fun heq => hid₁ ((congrArg Prod.fst hstate').symm.trans heq),
      hstate.symm.trans hstate'.symm⟩

/-- A client that joins has no result yet. -/
theorem lmsInit_mem {conn : Connection} {msg : MsgDecoded}
    (halgorithm : msg.decisionAlgorithm = some TlvDecisionAlgorithmType.lms.toUInt16)
    {c' : QnetdClient} (hc' : c' ∈ (clusterInit settings cluster conn msg).clientList) :
    (∃ c ∈ cluster.clientList, c'.lmsState = c.lmsState) ∨
      c'.lmsInfo.lastResult = .undefined ∧ c'.lmsInfo.partitionList = [] := by
  rcases clusterInit_cases settings cluster conn msg with
    hsame | ⟨joined, hnone, hfresh, -, -, -, halg, -, hjoin⟩
  · rw [hsame] at hc'
    exact .inl ⟨c', hc', rfl⟩
  · have halg' : joined.decisionAlgorithm = TlvDecisionAlgorithmType.lms.toUInt16 :=
      Option.some.inj (halg.symm.trans halgorithm)
    simp only [qnetdAlgorithmClientInit, halg', qnetdAlgorithmArray_lms, lmsClientInit] at hjoin
    rw [hjoin] at hc'
    obtain ⟨c₁, hc₁, hc'⟩ := mem_modifyClient hc'
    obtain ⟨c₀, hc₀, hc₁⟩ := mem_modifyClient hc₁
    have hstate : c'.lmsState = c₁.lmsState := by
      rcases hc' with ⟨-, rfl⟩ | ⟨-, rfl⟩ <;> rfl
    rcases hc₁ with ⟨-, rfl⟩ | ⟨hne, rfl⟩
    · right
      simp only [QnetdClient.lmsState, Prod.mk.injEq] at hstate
      exact ⟨hstate.2.1, hstate.2.2⟩
    · rcases mem_insertClient.mp hc₀ with rfl | hc₀
      · exact absurd rfl hne
      · exact .inl ⟨_, hc₀, hstate⟩

/-- A disconnect only removes a client. -/
theorem lmsDisconnect_mem {down : Bool}
    (hreg : Registered TlvDecisionAlgorithmType.lms.toUInt16 cluster)
    (h : clusterDisconnect env cluster id down = .ok (cluster', log)) {c : QnetdClient}
    (hc : c ∈ cluster'.clientList) : c ∈ cluster.clientList ∧ c.id ≠ id := by
  rcases clusterDisconnect_cases h with ⟨rfl, -, hnone⟩ | ⟨client, res, hclient, hres, -, rfl⟩
  · refine ⟨hc, fun heq => ?_⟩
    have := List.find?_eq_none.mp hnone c hc
    simp [heq] at this
  · have hcluster : res.cluster = cluster := by
      have halgorithm := hreg.algorithm client (client?_mem hclient)
      simp only [qnetdAlgorithmClientDisconnect, halgorithm, qnetdAlgorithmArray_lms,
        ite_self] at hres
      cases hres
      rfl
    rw [hcluster] at hc
    simpa using hc

end Events

/-! ### The invariants -/

theorem lmsMachine_step {settings : Settings} {id : ClusterId} {name : List UInt8}
    {s s' : LmsRunState} {e : Env × ClusterEvent}
    (h : (lmsMachine settings id name).step s e = some s') :
    ∃ log, clusterStep settings e.1 s.cluster e.2 = .ok (s'.cluster, log) ∧
      s'.answers = recordAnswers e.2 log s.answers := by
  simp only [lmsMachine] at h
  split at h
  · cases h
  · next cluster' log hok =>
    cases h
    exact ⟨log, hok, rfl⟩

/-- A client that was only told to wait or denied as a newcomer has a `last_result` that says so. -/
def NewcomerInv (s : LmsRunState) : Prop :=
  ∀ c ∈ s.cluster.clientList, StillNewcomer s c.id →
    c.lmsInfo.lastResult = .undefined ∨ c.lmsInfo.lastResult = .waitForReply

/-- All partition lists are empty. -/
def PartitionsFreed (cluster : QnetdCluster) : Prop :=
  ∀ c ∈ cluster.clientList, c.lmsInfo.partitionList = []

/-- An answer that is added does not make a newcomer. -/
private theorem StillNewcomer.of_append {s s' : LmsRunState} {id : ClientId}
    {added : List (ClientId × AlgoLog)} (hanswers : s'.answers = s.answers ++ added)
    (h : StillNewcomer s' id) : StillNewcomer s id :=
  fun a ha hid => h a (hanswers ▸ List.mem_append_left _ ha) hid

section Step

variable {settings : Settings} {env : Env} {s s' : LmsRunState} {id : ClientId}
  {log : List AlgoLog}

/-- Events that keep all results keep the invariant. -/
private theorem NewcomerInv.of_same {added : List (ClientId × AlgoLog)} (h : NewcomerInv s)
    (hsame : SameLmsState s.cluster s'.cluster) (hanswers : s'.answers = s.answers ++ added) :
    NewcomerInv s' := by
  intro c' hc' hstill
  obtain ⟨c, hc, hstate⟩ := List.exists_mem_of_map_eq hsame hc'
  simp only [QnetdClient.lmsState, Prod.mk.injEq] at hstate
  rw [← hstate.2.1]
  exact h c hc (by rw [hstate.1]; exact hstill.of_append hanswers)

/-- A run keeps the invariant. -/
private theorem NewcomerInv.ran {event : ClusterEvent} {client : QnetdClient} {ringId : TlvRingId}
    {result : AlgoResult} (h : NewcomerInv s)
    (hran : LmsRan env s.cluster event id client ringId result s'.cluster)
    (hanswers : s'.answers = s.answers ++ result.log.map fun l => (id, l)) : NewcomerInv s' := by
  obtain ⟨l, vote, partitions, hlog, hvote, -, hmem⟩ := hran.mem
  intro c' hc' hstill
  rcases hmem c' hc' with ⟨c, hc, -, hstate⟩ | hstate
  · simp only [QnetdClient.lmsState, Prod.mk.injEq] at hstate
    rw [hstate.2.1]
    exact h c hc (by rw [← hstate.1]; exact hstill.of_append hanswers)
  · simp only [QnetdClient.lmsState, Prod.mk.injEq] at hstate
    rw [hstate.1] at hstill
    rw [hstate.2.1]
    rcases hvote with hsaved | rfl | rfl
    · have hnot := hstill (id, l) (by rw [hanswers, hlog]; simp) rfl
      rw [hsaved] at hnot
      cases hnot
    · exact .inr rfl
    · have hid := client?_id hran.connected
      exact h client (client?_mem hran.connected) (by rw [hid]; exact hstill.of_append hanswers)

/-- Every event of an LMS cluster keeps the invariant. -/
theorem NewcomerInv.step {event : ClusterEvent}
    (hreg : Registered TlvDecisionAlgorithmType.lms.toUInt16 s.cluster) (h : NewcomerInv s)
    (huses : UsesAlgorithm .lms event)
    (hstep : clusterStep settings env s.cluster event = .ok (s'.cluster, log))
    (hanswers : s'.answers = recordAnswers event log s.answers) : NewcomerInv s' := by
  cases event with
  | init conn msg =>
    intro c' hc' hstill
    have hcluster : clusterInit settings s.cluster conn msg = s'.cluster :=
      congrArg Prod.fst (Except.ok.inj hstep)
    rw [← hcluster] at hc'
    rcases lmsInit_mem huses hc' with ⟨c, hc, hstate⟩ | ⟨hnew, -⟩
    · simp only [QnetdClient.lmsState, Prod.mk.injEq] at hstate
      rw [hstate.2.1]
      refine h c hc fun a ha hid => hstill a (hanswers ▸ ha) (hid.trans hstate.1.symm)
    · exact .inl hnew
  | message id msg =>
    rcases lmsMessage_cases hreg hstep with ⟨-, hsame⟩ | ⟨client, ringId, result, rfl, hran⟩
    · exact h.of_same hsame hanswers
    · exact h.ran hran hanswers
  | algoTimer id =>
    rcases lmsAlgoTimer_cases hreg hstep with ⟨-, hsame⟩ | ⟨client, ringId, result, rfl, hran⟩
    · exact h.of_same hsame hanswers
    · exact h.ran hran hanswers
  | disconnect id down =>
    intro c hc hstill
    obtain ⟨hc, hne⟩ := lmsDisconnect_mem hreg hstep hc
    refine h c hc fun a ha hid => hstill a ?_ hid
    rw [hanswers]
    exact List.mem_filter.mpr ⟨ha, by simp [hid, hne]⟩

end Step

theorem newcomerInv_of_reach {settings : Settings} {id : ClusterId} {name : List UInt8}
    {s : LmsRunState} (h : (lmsMachine settings id name).Reach LmsRun s) :
    Registered TlvDecisionAlgorithmType.lms.toUInt16 s.cluster ∧ NewcomerInv s := by
  refine Runs.Machine.Reach.invariant (fun s : LmsRunState =>
    Registered TlvDecisionAlgorithmType.lms.toUInt16 s.cluster ∧ NewcomerInv s)
    ⟨registered_empty _ _ _, fun _ hc => absurd hc List.not_mem_nil⟩ (fun _ hinv hok hstep => ?_) h
  obtain ⟨log, hstep, hanswers⟩ := lmsMachine_step hstep
  exact ⟨registered_clusterStep hinv.1 hok hstep, hinv.2.step hinv.1 hok hstep hanswers⟩

/-- Every event for which there is memory leaves the partition lists empty. -/
theorem PartitionsFreed.step {settings : Settings} {env : Env} {cluster cluster' : QnetdCluster}
    {event : ClusterEvent} {log : List AlgoLog}
    (hreg : Registered TlvDecisionAlgorithmType.lms.toUInt16 cluster) (h : PartitionsFreed cluster)
    (huses : UsesAlgorithm .lms event) (halloc : AllocsLater env cluster)
    (hstep : clusterStep settings env cluster event = .ok (cluster', log)) :
    PartitionsFreed cluster' := by
  have hsame {c c' : QnetdClient} (hc : c ∈ cluster.clientList)
      (hstate : c'.lmsState = c.lmsState) : c'.lmsInfo.partitionList = [] := by
    simp only [QnetdClient.lmsState, Prod.mk.injEq] at hstate
    exact hstate.2.2.trans (h c hc)
  have hran {id : ClientId} {client : QnetdClient} {ringId : TlvRingId} {result : AlgoResult}
      (hran : LmsRan env cluster event id client ringId result cluster') :
      PartitionsFreed cluster' := by
    obtain ⟨l, vote, partitions, -, -, hfreed, hmem⟩ := hran.mem
    intro c' hc'
    rcases hmem c' hc' with ⟨c, hc, -, hstate⟩ | hstate
    · exact hsame hc hstate
    · simp only [QnetdClient.lmsState, Prod.mk.injEq] at hstate
      exact hstate.2.2.trans (hfreed (h client (client?_mem hran.connected)) halloc)
  have hkept (hstate : SameLmsState cluster cluster') : PartitionsFreed cluster' := fun c' hc' => by
    obtain ⟨c, hc, hstate⟩ := List.exists_mem_of_map_eq hstate hc'
    exact hsame hc hstate.symm
  cases event with
  | init conn msg =>
    cases hstep
    intro c' hc'
    rcases lmsInit_mem huses hc' with ⟨c, hc, hstate⟩ | ⟨-, hnew⟩
    · exact hsame hc hstate
    · exact hnew
  | message id msg =>
    rcases lmsMessage_cases hreg hstep with ⟨-, hstate⟩ | ⟨client, ringId, result, -, hrun⟩
    · exact hkept hstate
    · exact hran hrun
  | algoTimer id =>
    rcases lmsAlgoTimer_cases hreg hstep with ⟨-, hstate⟩ | ⟨client, ringId, result, -, hrun⟩
    · exact hkept hstate
    · exact hran hrun
  | disconnect id down => exact fun c hc => h c (lmsDisconnect_mem hreg hstep hc).1

/-- As long as no memory is missing for a second partition, none are left behind between two
    events. -/
theorem partitionsFreed_of_reach {settings : Settings} {id : ClusterId} {name : List UInt8}
    {cluster : QnetdCluster}
    (h : (clusterMachine settings id name).Reach
      (fun cluster e => UsesAlgorithm .lms e.2 ∧ AllocsLater e.1 cluster) cluster) :
    PartitionsFreed cluster := by
  have hinv := Runs.Machine.Reach.invariant (fun cluster =>
    Registered TlvDecisionAlgorithmType.lms.toUInt16 cluster ∧ PartitionsFreed cluster)
    ⟨registered_empty _ _ _, fun _ hc => absurd hc List.not_mem_nil⟩
    (fun _ hinv hok hstep => ?_) h
  · exact hinv.2
  · obtain ⟨log, hstep⟩ := clusterMachine_step hstep
    exact ⟨registered_clusterStep hinv.1 hok.1 hstep, hinv.2.step hinv.1 hok.1 hok.2 hstep⟩

/-! ### The rule -/

/-- In every run in which no newcomer that was told to wait is compared with an active ring, no
    newcomer gets ACK from a comparison while a client of another ring has it. -/
theorem lms_newcomer_rule (settings : Settings) (id : ClusterId) (name : List UInt8)
    {s : LmsRunState} {env : Env} {event : ClusterEvent} {cluster' : QnetdCluster}
    {log : List AlgoLog} (h : (lmsMachine settings id name).Reach LmsOk s)
    (hok : LmsOk s (env, event))
    (hstep : clusterStep settings env s.cluster event = .ok (cluster', log)) :
    NewcomerRule s event log := by
  obtain ⟨hreg, hinv⟩ := newcomerInv_of_reach (h.mono fun _ _ hok => hok.1)
  intro sender client ringId hsender hclient hring hstill hactive l hl
  -- the event ran the algorithm, or it answered nothing
  obtain ⟨client₁, ringId₁, result, rfl, hran⟩ : ∃ client ringId result, log = result.log ∧
      LmsRan env s.cluster event sender client ringId result cluster' := by
    have hlog : log ≠ [] := List.ne_nil_of_mem hl
    cases event with
    | init conn msg => cases hsender
    | message id msg =>
      cases hsender
      exact (lmsMessage_cases hreg hstep).resolve_left fun hnone => hlog hnone.1
    | algoTimer id =>
      cases hsender
      exact (lmsAlgoTimer_cases hreg hstep).resolve_left fun hnone => hlog hnone.1
    | disconnect id down => cases hsender
  obtain rfl : client = client₁ := Option.some.inj (hclient.symm.trans hran.connected)
  obtain rfl : ringId = ringId₁ := Option.some.inj (hring.symm.trans hran.ring)
  have hother : lmsOtherActivePartition s.cluster ringId = true := by
    obtain ⟨other, hmem, hne, hack⟩ := hactive
    refine List.any_eq_true.mpr ⟨other, hmem, ?_⟩
    have hneq : tlvRingIdEq ringId other.lastRingId = false :=
      Bool.eq_false_iff.mpr fun heq => hne ((tlvRingIdEq_iff _ _).mp heq).symm
    simp [hneq, hack]
  obtain ⟨cluster₁, client₁, hsame, hview, hcase⟩ := hran.ran
  cases hcase with
  | wait log hlog _ _ _ _ hresult =>
    rw [hresult, List.mem_singleton] at hl
    rcases hlog with rfl | rfl <;> exact hl ▸ rfl
  | failed _ _ _ hresult =>
    rw [hresult, List.mem_singleton] at hl
    exact hl ▸ rfl
  | onePartition _ hresult =>
    rw [hresult, List.mem_singleton] at hl
    exact hl ▸ rfl
  | newcomer _ _ _ hresult =>
    rw [hresult, List.mem_singleton] at hl
    exact hl ▸ rfl
  | compared hfinds hnew ack log hlog _ hresult =>
    have hid := client?_id hclient
    rcases hinv client (client?_mem hclient) (hid ▸ hstill) with hundefined | hwait
    · -- the newcomer rule of the code applies
      exact absurd (LmsNewcomer.congr hsame hview ⟨hundefined, hother⟩) hnew
    · have hnone := hok.2 sender hsender client hclient ringId hring hstill hwait
        (hfinds.congr hsame hview)
      rw [hother] at hnone
      cases hnone

/-! ### Two concrete runs -/

private theorem ok_of_toOption {ε α : Type} {x : Except ε α} {a : α} (h : x.toOption = some a) :
    x = .ok a := by
  cases x with
  | error e => cases h
  | ok b => exact congrArg Except.ok (Option.some.inj h)

/-- Node 1 is alone and has the vote, and node 2 connects. -/
def lmsJoin : List (Env × ClusterEvent) :=
  [(.ok, .init ⟨1, [97], false, false, none, none⟩ (initMsg .lms ⟨.lowest, 0⟩ 1 ⟨1, 4⟩)),
    (.ok, .message 1 (membershipNodeListMsg ⟨1, 4⟩ [1] .undefined)),
    (.ok, .init ⟨2, [97], false, false, none, none⟩ (initMsg .lms ⟨.lowest, 0⟩ 2 ⟨2, 4⟩))]

/-- Node 2 reports itself: it is a newcomer, and gets NACK although its heuristics pass. -/
theorem lms_newcomer_rule_join : ∃ s cluster',
    (lmsMachine .plain 0 [97]).Reach LmsOk s ∧
    (∃ other ∈ s.cluster.clientList,
      other.lastRingId ≠ ⟨2, 4⟩ ∧ other.lmsInfo.lastResult = .ack) ∧
    clusterStep .plain .ok s.cluster (.message 2 (membershipNodeListMsg ⟨2, 4⟩ [2] .pass)) =
      .ok (cluster', [.lmsNewPartitionNack]) ∧
    NewcomerRule s (.message 2 (membershipNodeListMsg ⟨2, 4⟩ [2] .pass)) [.lmsNewPartitionNack] := by
  have hrun : ((lmsMachine .plain 0 [97]).execWhile (fun s e => decide (LmsOk s e))
      (lmsMachine .plain 0 [97]).init lmsJoin).any (fun s =>
        decide (LmsOk s (.ok, .message 2 (membershipNodeListMsg ⟨2, 4⟩ [2] .pass))) &&
        (decide (∃ other ∈ s.cluster.clientList,
          other.lastRingId ≠ ⟨2, 4⟩ ∧ other.lmsInfo.lastResult = .ack) &&
        (clusterStep .plain .ok s.cluster
          (.message 2 (membershipNodeListMsg ⟨2, 4⟩ [2] .pass))).toOption.any fun r =>
            r.2 == [.lmsNewPartitionNack])) := by
    decide +kernel
  simp only [Option.any_eq_true, Bool.and_eq_true, decide_eq_true_eq, beq_iff_eq] at hrun
  obtain ⟨s, hs, hok, hactive, ⟨cluster', log⟩, hstep, rfl⟩ := hrun
  have hreach : (lmsMachine .plain 0 [97]).Reach LmsOk s :=
    Runs.Machine.Reach.execWhile (fun _ _ h => of_decide_eq_true h) .init hs
  have hstep' : clusterStep .plain .ok s.cluster
      (.message 2 (membershipNodeListMsg ⟨2, 4⟩ [2] .pass)) =
        .ok (cluster', [.lmsNewPartitionNack]) := ok_of_toOption hstep
  exact ⟨s, cluster', hreach, hactive, hstep', lms_newcomer_rule .plain 0 [97] hreach hok hstep'⟩

/-- Node 2 first reports both nodes on a ring of its own, asks for a vote and is told to wait, and
    then reports only itself, with heuristics that pass. -/
def lmsWaitAndSplit : List (Env × ClusterEvent) :=
  lmsJoin ++ [(.ok, .message 2 (membershipNodeListMsg ⟨2, 4⟩ [1, 2] .undefined)),
    (.ok, .message 2 askForVoteMsg),
    (.ok, .message 2 (membershipNodeListMsg ⟨2, 4⟩ [2] .pass))]

/-- Node 2 has only been denied as a newcomer and told to wait, and when it asks once more it gets
    ACK while node 1 has it. -/
theorem lms_newcomer_takes_vote : ∃ s cluster' log,
    (lmsMachine .plain 0 [97]).Reach LmsRun s ∧
    clusterStep .plain .ok s.cluster (.message 2 askForVoteMsg) = .ok (cluster', log) ∧
    ¬ NewcomerRule s (.message 2 askForVoteMsg) log := by
  have hrun : ((lmsMachine .plain 0 [97]).execWhile (fun s e => decide (LmsRun s e))
      (lmsMachine .plain 0 [97]).init lmsWaitAndSplit).any (fun s =>
        decide (StillNewcomer s 2) &&
        ((s.cluster.client? 2).any (fun c =>
          decide (lmsRunRing? (.message 2 askForVoteMsg) c = some ⟨2, 4⟩)) &&
        (decide (∃ other ∈ s.cluster.clientList,
          other.lastRingId ≠ ⟨2, 4⟩ ∧ other.lmsInfo.lastResult = .ack) &&
        (clusterStep .plain .ok s.cluster (.message 2 askForVoteMsg)).toOption.any fun r =>
          r.2 == [.lmsBestScorePartition true]))) := by
    decide +kernel
  simp only [Option.any_eq_true, Bool.and_eq_true, decide_eq_true_eq, beq_iff_eq] at hrun
  obtain ⟨s, hs, hstill, ⟨client, hclient, hring⟩, hactive, ⟨cluster', log⟩, hstep, rfl⟩ := hrun
  refine ⟨s, cluster', [.lmsBestScorePartition true],
    Runs.Machine.Reach.execWhile (fun _ _ h => of_decide_eq_true h) .init hs,
    ok_of_toOption hstep, fun hrule => ?_⟩
  have hnone := hrule 2 client ⟨2, 4⟩ rfl hclient hring hstill hactive _ (List.mem_singleton_self _)
  cases hnone

end Qdevice.Qnetd
