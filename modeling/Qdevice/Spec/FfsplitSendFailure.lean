import Mathlib.Data.List.Forall2
import Qdevice.Native.QnetdAlgoFfsplit

/-! # Votes of ffsplit that cannot be sent

A vote info that finds no send buffer is lost, and nobody would answer it, so its client has
to be disconnected for the round to go on.  `qnetd_algo_ffsplit_send_votes` goes through all
clients for an event of one of them, and it is this one that it disconnects. -/

namespace Qdevice.Qnetd

/-- The state of the clients whose votes are sent. -/
def ffsplitSentState (sendAcks : Bool) : FfsplitClientState :=
  if sendAcks then .sendingAck else .sendingNack

section

variable (env : Env) (client : QnetdClient) (clientLeaving sendAcks : Bool)

/-- There is a vote for this client and it cannot be queued. -/
def VoteLost (iter : QnetdClient) : Prop :=
  (ffsplitVoteToSend client clientLeaving sendAcks iter).isSome = true ∧
    env.voteInfoQueued iter.id = false

/-- What sending the votes has to do to one client: it is newly disconnected exactly if its vote
    is lost, so that in the sent state the client has the vote in its queue or goes away. -/
structure VoteSent (iter iter' : QnetdClient) : Prop where
  flag : iter'.scheduleDisconnect = true ↔
    iter.scheduleDisconnect = true ∨ VoteLost env client clientLeaving sendAcks iter
  answered : iter'.ffsplitData.clientState = ffsplitSentState sendAcks →
    (∃ voteInfo, iter'.voteInfos = iter.voteInfos ++ [voteInfo] ∧ voteInfo.queued = true) ∨
      iter'.scheduleDisconnect = true ∨ clientLeaving = true ∧ iter.id = client.id

variable (cluster : QnetdCluster) (ringId : TlvRingId)

/-- Some vote is lost. -/
def AnyVoteLost : Prop :=
  ∃ iter ∈ cluster.clientList, VoteLost env client clientLeaving sendAcks iter

/-- A client after the loop; `lost` tells whether a vote is lost. -/
def ffsplitAfterVotes (lost : Bool) (iter : QnetdClient) : QnetdClient :=
  let iter' := ffsplitSendVote env client clientLeaving ringId sendAcks iter
  if iter.id = client.id ∧ lost = true then { iter' with scheduleDisconnect := true } else iter'

/-- What the loop writes to one client, field by field. -/
theorem ffsplitAfterVotes_fields (lost : Bool) (iter : QnetdClient) :
    let iter' := ffsplitAfterVotes env client clientLeaving sendAcks ringId lost iter
    (iter'.scheduleDisconnect = true ↔
        iter.scheduleDisconnect = true ∨ iter.id = client.id ∧ lost = true) ∧
      iter'.ffsplitData.clientState = iter.ffsplitData.clientState ∧
      (iter'.voteInfos = iter.voteInfos ∧
          ffsplitVoteToSend client clientLeaving sendAcks iter = none ∨
        ∃ voteInfo, iter'.voteInfos = iter.voteInfos ++ [voteInfo] ∧
          voteInfo.queued = env.voteInfoQueued iter.id ∧
          (ffsplitVoteToSend client clientLeaving sendAcks iter).isSome = true) := by
  intro iter'
  simp only [iter', ffsplitAfterVotes, ffsplitSendVote]
  cases hvote : ffsplitVoteToSend client clientLeaving sendAcks iter with
  | none =>
    split
    · next hevent => exact ⟨by simp [hevent], rfl, .inl ⟨rfl, rfl⟩⟩
    · next hevent => exact ⟨by simp [hevent], rfl, .inl ⟨rfl, rfl⟩⟩
  | some vote =>
    split
    · next hevent => exact ⟨by simp [hevent], rfl, .inr ⟨_, rfl, rfl, rfl⟩⟩
    · next hevent =>
      exact ⟨by simp [hevent, qnetdClientSendVoteInfo], rfl, .inr ⟨_, rfl, rfl, rfl⟩⟩

/-- The clients afterwards: each was looked at once, and `client` is disconnected if any vote
    is lost. -/
theorem ffsplitSendVotes_clientList :
    ∃ lost : Bool, (lost = true ↔ AnyVoteLost env client clientLeaving sendAcks cluster) ∧
      (ffsplitSendVotes env cluster client clientLeaving ringId sendAcks).1.clientList =
        cluster.clientList.map
          (ffsplitAfterVotes env client clientLeaving sendAcks ringId lost) := by
  let voted := cluster.clientList.filter fun iter =>
    (ffsplitVoteToSend client clientLeaving sendAcks iter).isSome
  refine ⟨!voted.all fun iter => env.voteInfoQueued iter.id, ?_, ?_⟩
  · simp only [Bool.not_eq_true', List.all_eq_false, voted, List.mem_filter, AnyVoteLost, VoteLost,
      Bool.not_eq_true, and_assoc]
  · rw [ffsplitSendVotes]
    dsimp only
    split
    · next hall =>
      refine List.map_congr_left fun iter _ => ?_
      simp only [ffsplitAfterVotes, voted, hall, Bool.not_true, Bool.false_eq_true, and_false,
        ↓reduceIte]
    · next hall =>
      rw [QnetdCluster.scheduleDisconnect, QnetdCluster.modifyClient, List.map_map]
      refine List.map_congr_left fun iter _ => ?_
      have hid : (ffsplitSendVote env client clientLeaving ringId sendAcks iter).id = iter.id := by
        rw [ffsplitSendVote]
        split <;> rfl
      simp only [Function.comp_apply, hid, ffsplitAfterVotes, voted, Bool.not_eq_true _ ▸ hall,
        Bool.not_false, and_true]

/-- No vote for a client in the sent state: the client is taken for the leaving one. -/
theorem ffsplitVoteToSend_eq_none (iter : QnetdClient)
    (hstate : iter.ffsplitData.clientState = ffsplitSentState sendAcks) :
    ffsplitVoteToSend client clientLeaving sendAcks iter = none ↔
      iter.nodeId = client.nodeId ∧ clientLeaving = true := by
  rw [ffsplitVoteToSend, hstate, ffsplitSentState]
  cases sendAcks <;> simp

/-- When the loop does to one client what it has to. -/
theorem voteSent_iff (lost : Bool) (iter : QnetdClient) :
    VoteSent env client clientLeaving sendAcks iter
        (ffsplitAfterVotes env client clientLeaving sendAcks ringId lost iter) ↔
      iter.scheduleDisconnect = true ∨
        (iter.id = client.id ∧ lost = true ↔ VoteLost env client clientLeaving sendAcks iter) ∧
        (clientLeaving = true → iter.nodeId = client.nodeId →
          iter.ffsplitData.clientState = ffsplitSentState sendAcks → iter.id = client.id) := by
  obtain ⟨hflag, hstate, hvotes⟩ :=
    ffsplitAfterVotes_fields env client clientLeaving sendAcks ringId lost iter
  have hnone := ffsplitVoteToSend_eq_none client clientLeaving sendAcks iter
  generalize ffsplitAfterVotes env client clientLeaving sendAcks ringId lost iter = iter' at *
  by_cases hscheduled : iter.scheduleDisconnect = true
  · have hflag' : iter'.scheduleDisconnect = true := hflag.mpr (.inl hscheduled)
    exact iff_of_true ⟨by simp [hscheduled, hflag'], fun _ => .inr (.inl hflag')⟩ (.inl hscheduled)
  · rw [or_iff_right hscheduled] at hflag ⊢
    constructor
    · rintro ⟨hlost, hanswered⟩
      rw [or_iff_right hscheduled, hflag] at hlost
      rw [hflag] at hanswered
      refine ⟨hlost, fun hleaving hnode hsent => ?_⟩
      -- it is taken for the leaving client, so it is sent nothing
      have hvote := (hnone hsent).mpr ⟨hnode, hleaving⟩
      obtain ⟨voteInfo, hinfo, -⟩ | hevent | ⟨-, hid⟩ := hanswered (hstate.trans hsent)
      · obtain ⟨hsame, -⟩ | ⟨-, -, -, hsome⟩ := hvotes
        · rw [hsame, List.self_eq_append_right] at hinfo
          cases hinfo
        · rw [hvote] at hsome
          cases hsome
      · exact hevent.1
      · exact hid
    · rintro ⟨hlost, hleaves⟩
      refine ⟨by rw [or_iff_right hscheduled, hflag, hlost], fun hsent => ?_⟩
      rw [hstate] at hsent
      rw [hflag]
      obtain ⟨-, hvote⟩ | ⟨voteInfo, hinfo, hqueued, hvote⟩ := hvotes
      · obtain ⟨hnode, hleaving⟩ := (hnone hsent).mp hvote
        exact .inr (.inr ⟨hleaving, hleaves hleaving hnode hsent⟩)
      · cases hfound : env.voteInfoQueued iter.id with
        | true => exact .inl ⟨voteInfo, hinfo, hqueued.trans hfound⟩
        | false => exact .inr (.inl (hlost.mpr ⟨hvote, hfound⟩))

/-- When the votes are sent as they have to be: only the votes of `client` itself and of clients
    that are disconnected already are lost, with any lost vote its own is lost too (or it is
    disconnected already), and nobody else is taken for the leaving client. -/
structure LosesOwnVote : Prop where
  others : ∀ iter ∈ cluster.clientList, VoteLost env client clientLeaving sendAcks iter →
    iter.id = client.id ∨ iter.scheduleDisconnect = true
  own : AnyVoteLost env client clientLeaving sendAcks cluster → ∀ iter ∈ cluster.clientList,
    iter.id = client.id → VoteLost env client clientLeaving sendAcks iter ∨
      iter.scheduleDisconnect = true
  leaving : clientLeaving = true → ∀ iter ∈ cluster.clientList, iter.nodeId = client.nodeId →
    iter.ffsplitData.clientState = ffsplitSentState sendAcks →
    iter.id = client.id ∨ iter.scheduleDisconnect = true

/-- Exactly the clients whose vote is lost are newly disconnected, and with that every client in
    the sent state has its vote in its queue or goes away, if and only if `client` is the only one
    to lose a vote. -/
theorem ffsplitSendVotes_voteSent_iff :
    List.Forall₂ (VoteSent env client clientLeaving sendAcks) cluster.clientList
        (ffsplitSendVotes env cluster client clientLeaving ringId sendAcks).1.clientList ↔
      LosesOwnVote env client clientLeaving sendAcks cluster := by
  obtain ⟨lost, hlost, hlist⟩ :=
    ffsplitSendVotes_clientList env client clientLeaving sendAcks cluster ringId
  simp only [hlist, List.forall₂_map_right_iff, List.forall₂_same, voteSent_iff, hlost]
  constructor
  · intro h
    refine ⟨fun iter hiter hvote => ?_, fun hany iter hiter hid => ?_,
      fun hleaving iter hiter hnode hstate => ?_⟩
    · obtain hflag | ⟨hiff, -⟩ := h iter hiter
      · exact .inr hflag
      · exact .inl (hiff.mpr hvote).1
    · obtain hflag | ⟨hiff, -⟩ := h iter hiter
      · exact .inr hflag
      · exact .inl (hiff.mp ⟨hid, hany⟩)
    · obtain hflag | ⟨-, hleaves⟩ := h iter hiter
      · exact .inr hflag
      · exact .inl (hleaves hleaving hnode hstate)
  · rintro ⟨hothers, hown, hleaves⟩ iter hiter
    by_cases hflag : iter.scheduleDisconnect = true
    · exact .inl hflag
    · refine .inr ⟨⟨fun ⟨hid, hany⟩ => (hown hany iter hiter hid).resolve_right hflag,
        fun hvote => ⟨(hothers iter hiter hvote).resolve_right hflag, iter, hiter, hvote⟩⟩,
        fun hleaving hnode hstate => (hleaves hleaving iter hiter hnode hstate).resolve_right hflag⟩

end

/-- Two clients in a round; the vote of the second cannot be queued. -/
def fullQueue : QnetdCluster where
  id := 0
  clusterName := []
  clientList := [{ id := 0, nodeId := 1 },
    { id := 1, nodeId := 2, ffsplitData := { clientState := .sendingNack } }]

/-- The second client's vote is lost in an event of the first one: the first one is disconnected,
    and the second one is left waiting. -/
theorem ffsplitSendVotes_disconnects_other :
    ¬ List.Forall₂ (VoteSent { Env.ok with voteInfoQueued := fun id => id != 1 }
        { id := 0, nodeId := 1 } false false) fullQueue.clientList
      (ffsplitSendVotes { Env.ok with voteInfoQueued := fun id => id != 1 } fullQueue
        { id := 0, nodeId := 1 } false .zero false).1.clientList := by
  rintro (_ | ⟨hfirst, -⟩)
  obtain hflag | ⟨hvote, -⟩ := hfirst.flag.mp (by decide)
  · cases hflag
  · exact absurd hvote (by decide)

end Qdevice.Qnetd
