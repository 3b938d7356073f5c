import Qdevice.Spec.FfsplitEvents
import Qdevice.ForStd.Handover

/-! # Runs of an ffsplit cluster

The runs of `ClusterRun`, with clients that answer every vote info they are sent: in order, with
its number, once it was queued.  A history beside the cluster remembers how many vote infos each
client has answered and what the decision that began the current round did with it.

The runs refine the revoke-then-grant handover of `Qdevice.ForStd.Handover`: NACK revokes, ACK
grants, and the group is the quorate partition (`ffsplit_refines`).  Exclusion and completeness
come from there. -/

namespace Qdevice.Qnetd

/-! ### Histories -/

/-- What a run has done so far, as far as the cluster itself does not remember it. -/
structure FfsplitHistory where
  /-- How many of a client's vote infos are answered: all the queued ones before this index. -/
  answered : ClientId → Nat := fun _ => 0
  /-- The state the decision that began the last round gave to the client. -/
  assigned : ClientId → FfsplitClientState := fun _ => .waitingForChange
  /-- The number of the client's vote infos when that round began. -/
  start : ClientId → Nat := fun _ => 0
  /-- The partition ACKs were last sent for. -/
  ackPartition : NodeList := []

namespace FfsplitHistory

/-- A new connection. -/
def connect (history : FfsplitHistory) (id : ClientId) : FfsplitHistory :=
  { history with
    answered := fun j => if j = id then 0 else history.answered j
    assigned := fun j => if j = id then .waitingForChange else history.assigned j }

/-- A client has answered its first `count` vote infos. -/
def answer (history : FfsplitHistory) (id : ClientId) (count : Nat) : FfsplitHistory :=
  { history with answered := fun j => if j = id then count else history.answered j }

/-- A round was begun: the decision found the membership stable and went on to send votes. -/
def BeginsRound (cluster' : QnetdCluster) (log : List AlgoLog) : Prop :=
  AlgoLog.ffsplitMembershipStable ∈ log ∧
    cluster'.algorithmData.clusterState ≠ .waitingForStableMembership

instance (cluster' : QnetdCluster) (log : List AlgoLog) : Decidable (BeginsRound cluster' log) :=
  inferInstanceAs (Decidable (_ ∧ _))

/-- The state of a client, and the number of its vote infos. -/
def stateOf (cluster : QnetdCluster) (id : ClientId) : FfsplitClientState :=
  ((cluster.client? id).map (·.ffsplitData.clientState)).getD .waitingForChange

def sentTo (cluster : QnetdCluster) (id : ClientId) : Nat :=
  ((cluster.client? id).map (·.voteInfos.length)).getD 0

/-- An event took `cluster` to `cluster'`. -/
def advance (history : FfsplitHistory) (cluster cluster' : QnetdCluster) (log : List AlgoLog) :
    FfsplitHistory :=
  let history :=
    if BeginsRound cluster' log then
      { history with assigned := stateOf cluster', start := sentTo cluster }
    else history
  if cluster'.algorithmData.clusterState = .sendingAcks then
    { history with ackPartition := cluster'.algorithmData.quoratePartitionNodeList }
  else history

end FfsplitHistory

/-! ### The machine -/

structure FfsplitState where
  cluster : QnetdCluster
  history : FfsplitHistory := {}

inductive FfsplitEvent where
  | cluster (env : Env) (event : ClusterEvent)
  | voteInfoReply (env : Env) (id : ClientId)

/-- The first vote info from index `answered` on that was queued: the next one to answer. -/
def nextVoteInfo (client : QnetdClient) (answered : Nat) : Option Nat :=
  ((client.voteInfos.drop answered).findIdx? (·.queued)).map (answered + ·)

/-- The reply to a vote info. -/
def voteInfoReplyMsg (seqNumber : UInt32) : MsgDecoded where
  type := MsgType.voteInfoReply.toUInt16
  seqNumber := some seqNumber

/-- The reply of the client is read and reaches the algorithm. -/
def replyRead (settings : Settings) (client : QnetdClient) : Bool :=
  !client.scheduleDisconnect &&
    match qnetdClientMsgReceivedCheckTls settings client with
    | .success _ => true
    | .tlsRequired | .disconnect => false

/-- A client answers its next vote info, if there is one. -/
def ffsplitReply (settings : Settings) (env : Env) (s : FfsplitState) (id : ClientId) :
    Option FfsplitState :=
  match s.cluster.client? id with
  | none => some s
  | some client =>
    match nextVoteInfo client (s.history.answered id) with
    | none => some s
    | some i =>
      match client.voteInfos[i]? with
      | none => some s
      | some voteInfo =>
        match clusterMessage settings env s.cluster id (voteInfoReplyMsg voteInfo.msgSeqNumber) with
        | .error _ => none
        | .ok (cluster', log) =>
          let history :=
            if replyRead settings client then s.history.answer id (i + 1) else s.history
          some ⟨cluster', history.advance s.cluster cluster' log⟩

/-- The history at the beginning of an event: a new connection has none. -/
def historyBefore (s : FfsplitState) : ClusterEvent → FfsplitHistory
  | .init conn _ =>
    if (s.cluster.client? conn.id).isNone then s.history.connect conn.id else s.history
  | .message .. | .algoTimer _ | .disconnect .. => s.history

/-- One event; the run ends when the server aborts. -/
def ffsplitStep (settings : Settings) (s : FfsplitState) : FfsplitEvent → Option FfsplitState
  | .cluster env event =>
    match clusterStep settings env s.cluster event with
    | .error _ => none
    | .ok (cluster', log) =>
      some ⟨cluster', (historyBefore s event).advance s.cluster cluster' log⟩
  | .voteInfoReply env id => ffsplitReply settings env s id

/-- The runs begin with an empty cluster. -/
def ffsplitMachine (settings : Settings) (id : ClusterId) (name : List UInt8) :
    Runs.Machine FfsplitState FfsplitEvent where
  init := { cluster := emptyCluster id name }
  step := ffsplitStep settings

/-- The events of an ffsplit cluster whose clients behave: INIT asks for ffsplit, replies are
    answers to vote infos, and fewer than 2^32 vote infos of the replying client are open. -/
def FfsplitOk (s : FfsplitState) : FfsplitEvent → Prop
  | .cluster _ event => UsesAlgorithm .ffsplit event ∧ NoReply event
  | .voteInfoReply _ id => ∀ client ∈ s.cluster.client? id,
      client.voteInfos.length - s.history.answered id < 2 ^ 32

instance (s : FfsplitState) : DecidablePred (FfsplitOk s)
  | .cluster _ event => inferInstanceAs (Decidable (UsesAlgorithm .ffsplit event ∧ NoReply event))
  | .voteInfoReply _ id => inferInstanceAs (Decidable (∀ client ∈ s.cluster.client? id,
      client.voteInfos.length - s.history.answered id < 2 ^ 32))

/-- The ring id a client reports in an event. -/
def FfsplitEvent.reportedRing : FfsplitEvent → ClientId → Option TlvRingId
  | .cluster _ event => Qnetd.reportedRing event
  | .voteInfoReply .. => fun _ => none

/-! ### The handover behind it -/

def FfsplitClientState.role : FfsplitClientState → Handover.Role
  | .waitingForChange => .idle
  | .sendingNack => .revoked
  | .sendingAck => .granted

def FfsplitClusterState.phase : FfsplitClusterState → Handover.Phase
  | .waitingForChange => .idle
  | .waitingForStableMembership => .suspended
  | .sendingNacks => .revoking
  | .sendingAcks => .granting

/-- ACK grants, everything else revokes. -/
def VoteInfo.message (v : VoteInfo) : Handover.Msg := ⟨v.vote == .ack, v.queued⟩

def FfsplitHistory.party (history : FfsplitHistory) (c : QnetdClient) :
    Handover.Party ClientId UInt32 where
  key := c.id
  node := c.nodeId
  role := c.ffsplitData.clientState.role
  sent := c.voteInfos.map VoteInfo.message
  answered := history.answered c.id
  assigned := (history.assigned c.id).role
  start := history.start c.id

def FfsplitState.handover (s : FfsplitState) : Handover.State ClientId UInt32 where
  parties := s.cluster.clientList.map s.history.party
  phase := s.cluster.algorithmData.clusterState.phase
  chosen := s.cluster.algorithmData.quoratePartitionNodeList.HasNode
  granted := s.history.ackPartition.HasNode

/-- The vote infos of a client are numbered from one on and are ACKs and NACKs. -/
structure Numbered (c : QnetdClient) : Prop where
  expected : c.ffsplitData.voteInfoExpectedSeqNum = UInt32.ofNat c.voteInfos.length
  numbers : ∀ i v, c.voteInfos[i]? = some v →
    v.msgSeqNumber = UInt32.ofNat (i + 1) ∧ (v.vote = .ack ∨ v.vote = .nack)

/-- What holds in every state of a run. -/
structure FfsplitInv (s : FfsplitState) : Prop where
  registered : Registered TlvDecisionAlgorithmType.ffsplit.toUInt16 s.cluster
  numbered : ∀ c ∈ s.cluster.clientList, Numbered c
  ackPartition : s.cluster.algorithmData.clusterState = .sendingAcks →
    s.history.ackPartition = s.cluster.algorithmData.quoratePartitionNodeList
  safe : Handover.Safe s.handover

/-! ### The history along an event -/

namespace FfsplitHistory

variable {history : FfsplitHistory} {cluster cluster' : QnetdCluster} {log : List AlgoLog}

@[simp] theorem advance_answered : (history.advance cluster cluster' log).answered =
    history.answered := by
  simp only [advance]
  split <;> split <;> rfl

theorem advance_ackPartition : (history.advance cluster cluster' log).ackPartition =
    if cluster'.algorithmData.clusterState = .sendingAcks then
      cluster'.algorithmData.quoratePartitionNodeList
    else history.ackPartition := by
  simp only [advance]
  split <;> split <;> rfl

/-- Without a new round a party is what it was. -/
theorem party_advance_of_not (h : ¬ BeginsRound cluster' log) (c : QnetdClient) :
    (history.advance cluster cluster' log).party c = history.party c := by
  simp only [advance, if_neg h]
  split <;> rfl

theorem not_beginsRound_of_not_mem (h : AlgoLog.ffsplitMembershipStable ∉ log) :
    ¬ BeginsRound cluster' log :=
  fun hround => h hround.1

theorem party_ballot {c c' : QnetdClient} (h : c'.ballot = c.ballot) :
    history.party c' = history.party c := by
  have hid : c'.id = c.id := congrArg Ballot.id h
  have hnode : c'.nodeId = c.nodeId := congrArg Ballot.nodeId h
  have hdata : c'.ffsplitData = c.ffsplitData := congrArg Ballot.data h
  have hvotes : c'.voteInfos = c.voteInfos := congrArg Ballot.voteInfos h
  simp only [party, hid, hnode, hdata, hvotes]

/-- In a new round a party is assigned the state it is left in. -/
theorem party_advance_of_round {c c' : QnetdClient} (h : BeginsRound cluster' log)
    (hc : cluster.client? c.id = some c) (hc' : cluster'.client? c'.id = some c')
    (hid : c'.id = c.id) (hnode : c'.nodeId = c.nodeId) :
    (history.advance cluster cluster' log).party c' =
      { (history.party c).assign c'.ffsplitData.clientState.role with
        sent := c'.voteInfos.map VoteInfo.message } := by
  have hassigned : (history.advance cluster cluster' log).assigned c'.id =
      c'.ffsplitData.clientState := by
    simp only [advance, if_pos h]
    split <;> simp [stateOf, hc']
  have hstart : (history.advance cluster cluster' log).start c'.id = c.voteInfos.length := by
    simp only [advance, if_pos h]
    split <;> simp [sentTo, hid, hc]
  rw [party, hassigned, hstart]
  simp [Handover.Party.assign, party, hid, hnode]

end FfsplitHistory

/-- A client that is sent a vote as a party that is sent a message. -/
theorem sentVote_messages {reported : Option TlvRingId} {vote : Option TlvVote} {c c' : QnetdClient}
    (h : SentVote reported c c' vote) :
    (vote = none ∧ c'.voteInfos.map VoteInfo.message = c.voteInfos.map VoteInfo.message) ∨
      ∃ v queued, vote = some v ∧ c'.voteInfos.map VoteInfo.message =
        c.voteInfos.map VoteInfo.message ++ [⟨v == .ack, queued⟩] := by
  cases h with
  | none hvotes hseq => exact .inl ⟨rfl, by rw [hvotes]⟩
  | some v hvotes hseq hnumber hring hvote =>
    exact .inr ⟨_, v.queued, rfl, by simp [hvotes, VoteInfo.message, hvote]⟩

/-- Numbering goes on with every vote that is sent. -/
theorem CastVote.numbered {reported : Option TlvRingId} {state : FfsplitClientState}
    {vote : Option TlvVote} {c c' : QnetdClient} (h : CastVote reported state vote c c')
    (hvote : ∀ v, vote = some v → v = .ack ∨ v = .nack) (hc : Numbered c) : Numbered c' := by
  cases h.sent with
  | none hvotes hseq =>
    exact ⟨by rw [hseq, hvotes]; exact hc.expected, by rw [hvotes]; exact hc.numbers⟩
  | some v hvotes hseq hnumber hring hv =>
    have hnext : c.ffsplitData.voteInfoExpectedSeqNum + 1 =
        UInt32.ofNat (c.voteInfos.length + 1) := by rw [hc.expected, UInt32.ofNat_add]; rfl
    refine ⟨by rw [hseq, hnext, hvotes, List.length_append, List.length_singleton], fun i w hw => ?_⟩
    rw [hvotes, List.getElem?_append] at hw
    split at hw
    · exact hc.numbers i w hw
    · next hge =>
      rw [List.getElem?_singleton] at hw
      split at hw
      · next hi =>
        cases hw
        have hi' : i = c.voteInfos.length := by omega
        exact ⟨by rw [hnumber, hnext, hi'], hvote _ (congrArg some hv.symm)⟩
      · cases hw

/-! ### Refinement -/

section Refines

variable {accept : Handover.State ClientId UInt32 → Handover.Party ClientId UInt32 → Nat → Prop}
  {s : FfsplitState} {cluster' : QnetdCluster} {log : List AlgoLog}

/-- An event that keeps the ballots and begins no round keeps the parties. -/
theorem parties_of_keepsBallots {history : FfsplitHistory}
    (hround : ¬ FfsplitHistory.BeginsRound cluster' log)
    (hclients : KeepsBallots s.cluster.clientList cluster'.clientList) :
    ∀ p' ∈ cluster'.clientList.map (history.advance s.cluster cluster' log).party,
      p' ∈ s.cluster.clientList.map history.party := by
  intro p' hp'
  obtain ⟨c', hc', rfl⟩ := List.mem_map.mp hp'
  obtain ⟨c, hc, hballot⟩ := hclients c' hc'
  refine List.mem_map.mpr ⟨c, hc, ?_⟩
  rw [FfsplitHistory.party_advance_of_not hround, FfsplitHistory.party_ballot hballot]

/-- An event that is neither an INIT nor a reply is one step of the handover. -/
theorem VotesCase.refines {reported : ClientId → Option TlvRingId} (hinv : FfsplitInv s)
    (hreg' : Registered TlvDecisionAlgorithmType.ffsplit.toUInt16 cluster')
    (h : VotesCase reported s.cluster cluster' log) :
    Handover.Step accept s.handover
      (FfsplitState.handover ⟨cluster', s.history.advance s.cluster cluster' log⟩) := by
  cases h with
  | quiet hdata hclients hlog =>
    subst hlog
    have hround : ¬ FfsplitHistory.BeginsRound cluster' [] :=
      FfsplitHistory.not_beginsRound_of_not_mem (by simp)
    refine .members (by simp [FfsplitState.handover, hdata]) (by simp [FfsplitState.handover, hdata])
      ?_ fun p' hp' => .inl (parties_of_keepsBallots hround hclients p' hp')
    simp only [FfsplitState.handover, FfsplitHistory.advance_ackPartition, hdata]
    split
    · next hacks => rw [hinv.ackPartition hacks]
    · rfl
  | nobody hstate hclients =>
    refine .restart (by simp [FfsplitState.handover, hstate, FfsplitClusterState.phase]) ?_
    simp [FfsplitState.handover, hclients]
  | suspended hstate hclients =>
    have hround : ¬ FfsplitHistory.BeginsRound cluster' log := fun hround => hround.2 hstate
    refine .suspend (by simp [FfsplitState.handover, hstate, FfsplitClusterState.phase]) ?_
      (parties_of_keepsBallots hround hclients)
    simp [FfsplitState.handover, FfsplitHistory.advance_ackPartition, hstate]
  | nacks hlog hstate hclients =>
    -- A new round begins with NACKs for all that are not in the partition.
    have hround : FfsplitHistory.BeginsRound cluster' log := ⟨hlog, by simp [hstate]⟩
    refine .revoke (by simp [FfsplitState.handover, hstate, FfsplitClusterState.phase])
      (by simp [FfsplitState.handover, FfsplitHistory.advance_ackPartition, hstate])
      fun p' hp' => ?_
    obtain ⟨c', hc', rfl⟩ := List.mem_map.mp hp'
    obtain ⟨c, hc, hcast⟩ := hclients c' hc'
    refine ⟨_, List.mem_map_of_mem hc, ?_⟩
    rw [FfsplitHistory.party_advance_of_round hround (hinv.registered.client?_of_mem hc)
      (hreg'.client?_of_mem hc') hcast.id hcast.nodeId, hcast.state]
    by_cases hnode : cluster'.algorithmData.quoratePartitionNodeList.HasNode c.nodeId
    · rcases sentVote_messages hcast.sent with ⟨-, hsent⟩ | ⟨v, queued, hv, -⟩
      · refine .inl ⟨hnode, ?_⟩
        rw [hsent, partitionState, if_pos hnode]
        rfl
      · simp [hnode] at hv
    · rcases sentVote_messages hcast.sent with ⟨hv, -⟩ | ⟨v, queued, hv, hsent⟩
      · simp [hnode] at hv
      · refine .inr ⟨queued, ?_⟩
        rw [if_neg hnode, Option.some.injEq] at hv
        subst hv
        rw [hsent, partitionState, if_neg hnode]
        rfl
  | acks hlog hstate hclients =>
    have hround : FfsplitHistory.BeginsRound cluster' log := ⟨hlog, by simp [hstate]⟩
    -- No NACK is needed, so the round begins with the ACKs.
    refine .grant (by simp [FfsplitState.handover, hstate, FfsplitClusterState.phase])
      (by simp [FfsplitState.handover, FfsplitHistory.advance_ackPartition, hstate])
      fun p' hp' => ?_
    obtain ⟨c', hc', rfl⟩ := List.mem_map.mp hp'
    obtain ⟨c, hc, hnode, hcast⟩ := hclients c' hc'
    refine ⟨_, List.mem_map_of_mem hc, hnode, ?_⟩
    rw [FfsplitHistory.party_advance_of_round hround (hinv.registered.client?_of_mem hc)
      (hreg'.client?_of_mem hc') hcast.id hcast.nodeId, hcast.state]
    rcases sentVote_messages hcast.sent with ⟨hv, -⟩ | ⟨v, queued, hv, hsent⟩
    · cases hv
    · cases hv
      exact ⟨queued, by rw [hsent]; rfl⟩

/-- An INIT adds at most a fresh party. -/
theorem init_refines {settings : Settings} {conn : Connection} {msg : MsgDecoded}
    (hinv : FfsplitInv s)
    (halgorithm : msg.decisionAlgorithm = some TlvDecisionAlgorithmType.ffsplit.toUInt16) :
    Handover.Step accept s.handover (FfsplitState.handover
      ⟨clusterInit settings s.cluster conn msg, (historyBefore s (.init conn msg)).advance s.cluster
        (clusterInit settings s.cluster conn msg) []⟩) := by
  obtain ⟨hdata, hclients⟩ := ffsplit_init_cases settings s.cluster conn halgorithm
  generalize clusterInit settings s.cluster conn msg = cluster' at *
  have hround : ¬ FfsplitHistory.BeginsRound cluster' [] :=
    FfsplitHistory.not_beginsRound_of_not_mem (by simp)
  have hparties : ∀ p' ∈ cluster'.clientList.map
      ((historyBefore s (.init conn msg)).advance s.cluster cluster' []).party,
      p' ∈ s.handover.parties ∨ p'.Fresh := by
    intro p' hp'
    obtain ⟨c', hc', rfl⟩ := List.mem_map.mp hp'
    rw [FfsplitHistory.party_advance_of_not hround]
    simp only [historyBefore]
    rcases hclients c' hc' with hc | ⟨hnone, hid, hvotes, hdata⟩
    · refine .inl (List.mem_map.mpr ⟨c', hc, ?_⟩)
      split
      · next hnone =>
        have hne : c'.id ≠ conn.id := fun hid => by
          rw [← hid, hinv.registered.client?_of_mem hc] at hnone
          cases hnone
        simp [FfsplitHistory.party, FfsplitHistory.connect, hne]
      · rfl
    · refine .inr ?_
      simp [hnone, Handover.Party.Fresh, FfsplitHistory.party, FfsplitHistory.connect, hid, hvotes,
        hdata, FfsplitClientState.role]
  have hgranted : (historyBefore s (.init conn msg)).ackPartition = s.history.ackPartition := by
    simp only [historyBefore]
    split <;> rfl
  rcases hdata with hdata | ⟨hdata, hempty⟩
  · refine .members (by simp [FfsplitState.handover, hdata]) (by simp [FfsplitState.handover, hdata])
      ?_ hparties
    simp only [FfsplitState.handover, FfsplitHistory.advance_ackPartition, hdata, hgranted]
    split
    · next hacks => rw [hinv.ackPartition hacks]
    · rfl
  · refine .restart (by simp [FfsplitState.handover, hdata, FfsplitClusterState.phase])
      fun p' hp' => ?_
    rcases hparties p' hp' with hold | hfresh
    · simp [FfsplitState.handover, hempty] at hold
    · exact hfresh

end Refines

/-! ### Replies -/

theorem ffsplitVoteInfoReplyReceived_noError (env : Env) (cluster : QnetdCluster)
    (client : QnetdClient) (seq : UInt32) :
    (ffsplitVoteInfoReplyReceived env cluster client seq).replyErrorCode = .noError := by
  simp only [ffsplitVoteInfoReplyReceived]
  split
  · rfl
  · split
    · split <;> rfl
    · split <;> rfl
    · rfl
    · rfl

/-- A reply reaches the algorithm, or is not read at all. -/
theorem clusterMessage_voteInfoReply {settings : Settings} {env : Env}
    {cluster cluster' : QnetdCluster} {id : ClientId} {client : QnetdClient} {seq : UInt32}
    {log : List AlgoLog}
    (hreg : Registered TlvDecisionAlgorithmType.ffsplit.toUInt16 cluster)
    (hclient : cluster.client? id = some client)
    (h : clusterMessage settings env cluster id (voteInfoReplyMsg seq) = .ok (cluster', log)) :
    (replyRead settings client = true ∧ ∃ client' cluster₁ result,
      client' ∈ cluster₁.clientList ∧ SameRegistration cluster cluster₁ ∧
      cluster₁.algorithmData = cluster.algorithmData ∧
      KeepsRings cluster.clientList cluster₁.clientList ∧ client'.ballot = client.ballot ∧
      result = ffsplitVoteInfoReplyReceived env cluster₁ client' seq ∧
      cluster' = result.cluster ∧ log = result.log) ∨
    (replyRead settings client = false ∧ cluster'.algorithmData = cluster.algorithmData ∧
      KeepsRings cluster.clientList cluster'.clientList ∧ log = []) := by
  have hmem := client?_mem hclient
  have huniq := hreg.client?_eq hclient
  simp only [clusterMessage, hclient, voteInfoReplyMsg, MsgType.ofUInt16?_toUInt16,
    Option.bind_some, qnetdClientMsgHandler?] at h
  split at h
  · next hsched =>
    cases h
    exact .inr ⟨by simp [replyRead, hsched], rfl, .refl _, rfl⟩
  · next hsched =>
    simp only [qnetdClientMsgReceivedVoteInfoReply, withInitReceived, withCheckTls] at h
    simp only [replyRead, hsched, Bool.not_false, Bool.true_and]
    cases htls : qnetdClientMsgReceivedCheckTls settings client with
    | tlsRequired =>
      simp only [htls] at h
      cases h
      refine .inr ⟨rfl, ?_, ?_, sendReply_log ..⟩
      · simp only [qnetdClientSendErr, sendReply]
        split <;> rfl
      · simp only [qnetdClientSendErr, sendReply]
        split
        · exact .refl _
        · exact keepsRings_scheduleDisconnect cluster id
    | disconnect =>
      simp only [htls] at h
      cases h
      exact .inr ⟨rfl, rfl, keepsRings_scheduleDisconnect cluster id, rfl⟩
    | success client' =>
      obtain ⟨hballot, hring, halg⟩ := checkTls_ballot htls
      have hinit : client'.initReceived = true := by
        have := checkTls_registration htls
        simp only [QnetdClient.registration, Prod.mk.injEq] at this
        rw [this.2.2.1]
        exact hreg.init client hmem
      simp only [htls, hinit, qnetdAlgorithmVoteInfoReplyReceived,
        halg.trans (hreg.algorithm client hmem), qnetdAlgorithmArray_ffsplit,
        ffsplitVoteInfoReplyReceived_noError] at h
      cases h
      refine .inl ⟨rfl, client', cluster.modifyClient client.id fun _ => client', _,
        List.mem_map.mpr ⟨client, hmem, by simp⟩,
        sameRegistration_write huniq (checkTls_registration htls), rfl,
        keepsRings_modifyClient _ _ fun c hc hid => ?_, hballot, rfl, rfl, rfl⟩
      rw [huniq c hc hid]
      exact ⟨hballot, hring⟩

/-- The next vote info to answer was queued and is not answered. -/
theorem nextVoteInfo_eq_some {client : QnetdClient} {answered i : Nat}
    (h : nextVoteInfo client answered = some i) :
    answered ≤ i ∧ ∃ v, client.voteInfos[i]? = some v ∧ v.queued = true := by
  obtain ⟨j, hj, rfl⟩ := Option.map_eq_some_iff.mp h
  obtain ⟨hlt, hqueued, -⟩ := List.findIdx?_eq_some_iff_getElem.mp hj
  refine ⟨by omega, _, ?_, hqueued⟩
  rw [← List.getElem?_drop]
  exact List.getElem?_eq_getElem hlt

/-- The server recognises the answer to the newest vote info by its number. -/
theorem Numbered.newest_iff {c : QnetdClient} {i : Nat} {v : VoteInfo} (h : Numbered c)
    (hv : c.voteInfos[i]? = some v) (hopen : c.voteInfos.length - (i + 1) < 2 ^ 32) :
    c.ffsplitData.voteInfoExpectedSeqNum = v.msgSeqNumber ↔ i + 1 = c.voteInfos.length := by
  have hlt : i < c.voteInfos.length := (List.getElem?_eq_some_iff.mp hv).1
  rw [h.expected, (h.numbers i v hv).1]
  constructor
  · intro heq
    have hmod : c.voteInfos.length % 2 ^ 32 = (i + 1) % 2 ^ 32 := by
      have := congrArg UInt32.toNat heq
      simpa using this
    omega
  · intro heq
    rw [heq]

/-! ### A reply as an answer -/

namespace FfsplitHistory

variable {history : FfsplitHistory}

theorem party_answer {c c' : QnetdClient} {i : Nat} (hid : c'.id = c.id)
    (hnode : c'.nodeId = c.nodeId) (hvotes : c'.voteInfos = c.voteInfos)
    (hstate : c'.ffsplitData.clientState =
      if i + 1 = c.voteInfos.length then .waitingForChange else c.ffsplitData.clientState) :
    (history.answer c.id (i + 1)).party c' = (history.party c).answer i := by
  simp only [party, answer, Handover.Party.answer, hid, hnode, hvotes, hstate, List.length_map]
  split <;> simp [FfsplitClientState.role]

theorem party_answer_other {c : QnetdClient} {id : ClientId} {count : Nat} (hne : c.id ≠ id) :
    (history.answer id count).party c = history.party c := by
  simp [party, answer, hne]

end FfsplitHistory

/-- A vote that is sent to a client in the state it has. -/
theorem FfsplitHistory.party_castVote (history : FfsplitHistory) {reported : Option TlvRingId}
    {vote : Option TlvVote} {c c' : QnetdClient}
    (h : CastVote reported c.ffsplitData.clientState vote c c') :
    (vote = none → history.party c' = history.party c) ∧
      ∀ v, vote = some v → ∃ queued, history.party c' =
        (history.party c).send ⟨v == .ack, queued⟩ := by
  have hid := h.id
  have hnode := h.nodeId
  have hstate := h.state
  rcases sentVote_messages h.sent with ⟨rfl, hsent⟩ | ⟨v, queued, rfl, hsent⟩
  · exact ⟨fun _ => by simp only [party, hid, hnode, hstate, hsent], fun v hv => by cases hv⟩
  · refine ⟨fun hv => (by cases hv), fun w hw => ⟨queued, ?_⟩⟩
    cases hw
    simp only [party, hid, hnode, hstate, hsent, Handover.Party.send]

theorem role_ne_granted {state : FfsplitClientState} (h : state ≠ .sendingAck) :
    state.role ≠ .granted := by
  cases state <;> simp_all [FfsplitClientState.role]

theorem role_ne_revoked {state : FfsplitClientState} (h : state ≠ .sendingNack) :
    state.role ≠ .revoked := by
  cases state <;> simp_all [FfsplitClientState.role]

/-- How a reply that is read takes the handover on: the party answers, and then there may be
    nothing left to wait for. -/
inductive ReplyRefines (s s' : Handover.State ClientId UInt32) (p : Handover.Party ClientId UInt32)
    (i : Nat) : Prop where
  | answered (hstep : Handover.Step (fun _ q j => q = p ∧ j = i) s s') (hphase : s'.phase = s.phase)
  | acks (s₁ : Handover.State ClientId UInt32)
      (hstep : Handover.Step (fun _ q j => q = p ∧ j = i) s s₁)
      (hgrants : Handover.Step (fun _ _ _ => False) s₁ s') (hphase : s'.phase = .granting)
  | done (s₁ : Handover.State ClientId UInt32)
      (hstep : Handover.Step (fun _ q j => q = p ∧ j = i) s s₁)
      (hdone : (s₁.phase = .revoking ∧ ∀ p ∈ s₁.parties, p.role ≠ .revoked) ∨ s₁.phase = .granting)
      (hnone : ∀ p ∈ s₁.parties, p.role ≠ .granted) (hphase : s'.phase = .idle)
      (hgranted : s'.granted = s₁.granted) (hparties : ∀ p' ∈ s'.parties, p' ∈ s₁.parties)

/-- The reply of `client` to its vote info `v` with index `i` reaches the algorithm, which finds
    the client as `client'` in `cluster₁`. -/
structure ReadReply (s : FfsplitState) (client client' : QnetdClient) (cluster₁ : QnetdCluster)
    (i : Nat) (v : VoteInfo) : Prop where
  mem : client ∈ s.cluster.clientList
  next : nextVoteInfo client (s.history.answered client.id) = some i
  voteInfo : client.voteInfos[i]? = some v
  window : client.voteInfos.length - s.history.answered client.id < 2 ^ 32
  mem' : client' ∈ cluster₁.clientList
  same : SameRegistration s.cluster cluster₁
  data : cluster₁.algorithmData = s.cluster.algorithmData
  keeps : KeepsRings s.cluster.clientList cluster₁.clientList
  ballot : client'.ballot = client.ballot

namespace ReadReply

variable {s : FfsplitState} {client client' : QnetdClient} {cluster₁ : QnetdCluster} {i : Nat}
  {v : VoteInfo}

theorem canAnswer (h : ReadReply s client client' cluster₁ i v) :
    (s.history.party client).CanAnswer i := by
  obtain ⟨hle, w, hw, hqueued⟩ := nextVoteInfo_eq_some h.next
  exact ⟨hle, w.vote == .ack, by simp [FfsplitHistory.party, hw, VoteInfo.message, hqueued]⟩

theorem newest_iff (h : ReadReply s client client' cluster₁ i v) (hinv : FfsplitInv s) :
    client'.ffsplitData.voteInfoExpectedSeqNum = v.msgSeqNumber ↔
      i + 1 = client.voteInfos.length := by
  have hdata : client'.ffsplitData = client.ffsplitData := congrArg Ballot.data h.ballot
  have hle := (nextVoteInfo_eq_some h.next).1
  have hwindow := h.window
  rw [hdata]
  exact (hinv.numbered client h.mem).newest_iff h.voteInfo (by omega)

/-- A client that is not the one that replies is the party it was. -/
theorem party_other (h : ReadReply s client client' cluster₁ i v) {c₁ : QnetdClient}
    (hc₁ : c₁ ∈ cluster₁.clientList) (hne : c₁.id ≠ client.id) :
    (s.history.answer client.id (i + 1)).party c₁ ∈ s.handover.parties := by
  obtain ⟨c, hc, hballot, -⟩ := h.keeps c₁ hc₁
  rw [FfsplitHistory.party_answer_other hne, FfsplitHistory.party_ballot hballot]
  exact List.mem_map_of_mem hc

/-- The parties when the reply is to an older vote info. -/
theorem parties_old (h : ReadReply s client client' cluster₁ i v) (hinv : FfsplitInv s)
    (hold : i + 1 ≠ client.voteInfos.length) :
    ∀ c₁ ∈ cluster₁.clientList,
      (s.history.answer client.id (i + 1)).party c₁ ∈ s.handover.parties ∨
        (s.history.answer client.id (i + 1)).party c₁ = (s.history.party client).answer i := by
  intro c₁ hc₁
  by_cases hid : c₁.id = client.id
  · obtain ⟨c, hc, hballot, -⟩ := h.keeps c₁ hc₁
    have hcid : c.id = client.id := (congrArg Ballot.id hballot).symm.trans hid
    obtain rfl := hinv.registered.eq_of_id hc h.mem hcid
    have hdata : c₁.ffsplitData = c.ffsplitData := congrArg Ballot.data hballot
    refine .inr (FfsplitHistory.party_answer hid (congrArg Ballot.nodeId hballot)
      (congrArg Ballot.voteInfos hballot) ?_)
    rw [if_neg hold, hdata]
  · exact .inl (h.party_other hc₁ hid)

/-- The parties when the reply is to the newest vote info. -/
theorem parties_newest (h : ReadReply s client client' cluster₁ i v) (hinv : FfsplitInv s)
    (hnewest : i + 1 = client.voteInfos.length) :
    ∀ c₂ ∈ (answeredCluster cluster₁ client').clientList,
      (s.history.answer client.id (i + 1)).party c₂ ∈ s.handover.parties ∨
        (s.history.answer client.id (i + 1)).party c₂ = (s.history.party client).answer i := by
  have hclient' : client'.id = client.id := congrArg Ballot.id h.ballot
  intro c₂ hc₂
  obtain ⟨c₁, hc₁, ⟨hid, rfl⟩ | ⟨hid, rfl⟩⟩ := mem_modifyClient hc₂
  · obtain ⟨c, hc, hballot, -⟩ := h.keeps c₁ hc₁
    have hcid : c.id = client.id :=
      ((congrArg Ballot.id hballot).symm.trans hid).trans hclient'
    obtain rfl := hinv.registered.eq_of_id hc h.mem hcid
    refine .inr (FfsplitHistory.party_answer (congrArg Ballot.id hballot)
      (congrArg Ballot.nodeId hballot) (congrArg Ballot.voteInfos hballot) ?_)
    rw [if_pos hnewest]
    rfl
  · exact .inl (h.party_other hc₁ (hclient' ▸ hid))

/-- The answer, with nothing after it, as a step of the handover. -/
theorem step (h : ReadReply s client client' cluster₁ i v) (cluster₂ : QnetdCluster)
    (hdata : cluster₂.algorithmData = cluster₁.algorithmData)
    (hparties : ∀ c₂ ∈ cluster₂.clientList,
      (s.history.answer client.id (i + 1)).party c₂ ∈ s.handover.parties ∨
        (s.history.answer client.id (i + 1)).party c₂ = (s.history.party client).answer i) :
    Handover.Step (fun _ q j => q = s.history.party client ∧ j = i) s.handover
      (FfsplitState.handover ⟨cluster₂, s.history.answer client.id (i + 1)⟩) := by
  refine .answer (List.mem_map_of_mem h.mem) h.canAnswer ⟨rfl, rfl⟩
    (by simp [FfsplitState.handover, hdata, h.data]) (by simp [FfsplitState.handover, hdata, h.data])
    rfl fun p' hp' => ?_
  obtain ⟨c₂, hc₂, rfl⟩ := List.mem_map.mp hp'
  exact hparties c₂ hc₂

end ReadReply

/-- Without a round, and with the partition of the ACKs as it is, an event leaves the handover of
    its cluster. -/
theorem handover_advance {history : FfsplitHistory} {cluster cluster' : QnetdCluster}
    {log : List AlgoLog} (hround : ¬ FfsplitHistory.BeginsRound cluster' log)
    (hacks : cluster'.algorithmData.clusterState = .sendingAcks →
      history.ackPartition = cluster'.algorithmData.quoratePartitionNodeList) :
    FfsplitState.handover ⟨cluster', history.advance cluster cluster' log⟩ =
      FfsplitState.handover ⟨cluster', history⟩ := by
  have hpartition : (history.advance cluster cluster' log).ackPartition = history.ackPartition := by
    rw [FfsplitHistory.advance_ackPartition]
    split
    · next h => exact (hacks h).symm
    · rfl
  simp only [FfsplitState.handover, hpartition]
  congr 1
  exact List.map_congr_left fun c _ => FfsplitHistory.party_advance_of_not hround c

/-- A reply that reaches the algorithm refines an answer. -/
theorem reply_refines {s : FfsplitState} {env : Env} {cluster₁ : QnetdCluster}
    {client client' : QnetdClient} {i : Nat} {v : VoteInfo} {result : AlgoResult}
    (hinv : FfsplitInv s) (h : ReadReply s client client' cluster₁ i v)
    (hresult : result = ffsplitVoteInfoReplyReceived env cluster₁ client' v.msgSeqNumber) :
    ReplyRefines s.handover (FfsplitState.handover ⟨result.cluster,
        (s.history.answer client.id (i + 1)).advance s.cluster result.cluster result.log⟩)
      (s.history.party client) i := by
  have hreg₁ := hinv.registered.of_same h.same
  obtain ⟨hcase, hlog⟩ := ffsplitVoteInfoReplyReceived_cases env cluster₁ client' v.msgSeqNumber
    fun c hc hnode => by rw [hreg₁.eq_of_nodeId hc h.mem' hnode]
  rw [← hresult] at hcase hlog
  have hround : ¬ FfsplitHistory.BeginsRound result.cluster result.log :=
    FfsplitHistory.not_beginsRound_of_not_mem hlog
  -- while the cluster state stays, so does the partition of the ACKs
  have hacks : cluster₁.algorithmData.clusterState = .sendingAcks →
      s.history.ackPartition = cluster₁.algorithmData.quoratePartitionNodeList := by
    rw [h.data]
    exact hinv.ackPartition
  cases hcase with
  | old hseq hcluster =>
    have hold : i + 1 ≠ client.voteInfos.length := fun heq => hseq ((h.newest_iff hinv).mpr heq)
    rw [handover_advance hround (by rw [hcluster]; exact hacks), hcluster]
    exact .answered (h.step cluster₁ rfl (h.parties_old hinv hold))
      (by simp [FfsplitState.handover, h.data])
  | answered hseq hcluster =>
    have hnewest := (h.newest_iff hinv).mp hseq
    rw [handover_advance hround (by rw [hcluster]; exact hacks), hcluster]
    exact .answered (h.step (answeredCluster cluster₁ client') rfl
      (h.parties_newest hinv hnewest))
      (by simp [FfsplitState.handover, answeredCluster, h.data])
  | acks hseq hstate hnone hstate' hpartition hclients =>
    have hnewest := (h.newest_iff hinv).mp hseq
    refine .acks _ (h.step (answeredCluster cluster₁ client') rfl
      (h.parties_newest hinv hnewest)) (.startGrants ?_ ?_ ?_ ?_ ?_ ?_) ?_
    · simp [FfsplitState.handover, answeredCluster, hstate, FfsplitClusterState.phase]
    · intro p hp
      obtain ⟨c, hc, rfl⟩ := List.mem_map.mp hp
      exact role_ne_revoked (hnone c hc)
    · simp [FfsplitState.handover, hstate', FfsplitClusterState.phase]
    · simp [FfsplitState.handover, answeredCluster, hpartition]
    · simp [FfsplitState.handover, FfsplitHistory.advance_ackPartition, hstate', hpartition,
        answeredCluster]
    · intro p' hp'
      obtain ⟨c', hc', rfl⟩ := List.mem_map.mp hp'
      obtain ⟨c, hc, hvoted⟩ := hclients c' hc'
      refine ⟨_, List.mem_map_of_mem hc, ?_⟩
      rw [FfsplitHistory.party_advance_of_not hround]
      have hcast := hvoted.castVote_own
      have hparty := FfsplitHistory.party_castVote (s.history.answer client.id (i + 1)) hcast
      by_cases hack : c.ffsplitData.clientState = .sendingAck
      · rw [if_pos hack] at hparty
        exact .inl ⟨by simp [FfsplitHistory.party, hack, FfsplitClientState.role],
          hparty.2 .ack rfl⟩
      · rw [if_neg hack] at hparty
        refine .inr ⟨?_, hparty.1 rfl⟩
        simpa [FfsplitHistory.party] using role_ne_granted hack
    · simp [FfsplitState.handover, hstate', FfsplitClusterState.phase]
  | done hseq hstate hnone hstate' hclients =>
    have hnewest := (h.newest_iff hinv).mp hseq
    refine .done _ (h.step (answeredCluster cluster₁ client') rfl
      (h.parties_newest hinv hnewest)) ?_ ?_ ?_ ?_ ?_
    · rcases hstate with ⟨hstate, hnack⟩ | hstate
      · refine .inl ⟨?_, fun p hp => ?_⟩
        · simp [FfsplitState.handover, answeredCluster, hstate, FfsplitClusterState.phase]
        · obtain ⟨c, hc, rfl⟩ := List.mem_map.mp hp
          exact role_ne_revoked (hnack c hc)
      · exact .inr (by
          simp [FfsplitState.handover, answeredCluster, hstate, FfsplitClusterState.phase])
    · intro p hp
      obtain ⟨c, hc, rfl⟩ := List.mem_map.mp hp
      exact role_ne_granted (hnone c hc)
    · simp [FfsplitState.handover, hstate', FfsplitClusterState.phase]
    · simp [FfsplitState.handover, FfsplitHistory.advance_ackPartition, hstate']
    · intro p' hp'
      obtain ⟨c', hc', rfl⟩ := List.mem_map.mp hp'
      obtain ⟨c, hc, hvoted⟩ := hclients c' hc'
      have hcast := hvoted.castVote_own
      rw [FfsplitHistory.party_advance_of_not hround,
        (FfsplitHistory.party_castVote (s.history.answer client.id (i + 1)) hcast).1 rfl]
      exact List.mem_map_of_mem hc

/-! ### Concrete runs -/

/-- A node of a cluster with tie-breaker LOWEST connects. -/
def ffsplitJoin (id : ClientId) (nodeId : UInt32) : FfsplitEvent :=
  .cluster .ok (.init { id, clusterName := [97] }
    (initMsg .ffsplit ⟨.lowest, 0⟩ nodeId ⟨nodeId, 1⟩))

def ffsplitMessage (id : ClientId) (msg : MsgDecoded) : FfsplitEvent :=
  .cluster .ok (.message id msg)

/-- Two nodes connect and are split, and the first of them reports its own partition. -/
def ffsplitSplit : List FfsplitEvent :=
  [ffsplitJoin 1 1, ffsplitJoin 2 2, ffsplitMessage 1 (configNodeListMsg [1, 2]),
    ffsplitMessage 2 (configNodeListMsg [1, 2]),
    ffsplitMessage 1 (membershipNodeListMsg ⟨1, 5⟩ [1] .pass)]

end Qdevice.Qnetd
