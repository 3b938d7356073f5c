import Mathlib.Algebra.Group.Nat.Defs
import Mathlib.Data.List.TakeWhile

/-! # Option values of the qnetd protocol

The enumerations and small structures of `tlv.h`.  A value that the decoder
checks against a closed list is an inductive type here.  Message types, decision
algorithms and reply error codes travel as plain 16-bit numbers (the decoder
takes any), so their inductive types only name the numbers the program knows and
`toUInt16` gives the number. -/

namespace Qdevice

/-- A byte string as a C function sees it: up to the first NUL. -/
def cString (bytes : List UInt8) : List UInt8 := bytes.takeWhile (· ≠ 0)

/-- A name without NUL bytes is what a C function sees of it. -/
theorem cString_eq {name : List UInt8} (h : 0 ∉ name) : cString name = name := by
  refine List.takeWhile_eq_self_iff.mpr fun b hb => ?_
  exact decide_eq_true fun heq => h (heq ▸ hb)

/-- `enum tlv_tls_supported`. -/
inductive TlvTlsSupported where
  | unsupported
  | supported
  | required
deriving DecidableEq

/-- `enum tlv_reply_error_code`. -/
inductive TlvReplyErrorCode where
  | noError
  | unsupportedNeededMessage
  | unsupportedNeededOption
  | tlsRequired
  | unsupportedMessage
  | messageTooLong
  | preinitRequired
  | doesntContainRequiredOption
  | unexpectedMessage
  | errorDecodingMsg
  | internalError
  | initRequired
  | unsupportedDecisionAlgorithm
  | invalidHeartbeatInterval
  | unsupportedDecisionAlgorithmMessage
  | tieBreakerDiffersFromOtherNodes
  | algorithmDiffersFromOtherNodes
  | duplicateNodeId
  | invalidConfigNodeList
  | invalidMembershipNodeList
deriving DecidableEq

/-- The number on the wire. -/
def TlvReplyErrorCode.toUInt16 : TlvReplyErrorCode → UInt16
  | .noError => 0
  | .unsupportedNeededMessage => 1
  | .unsupportedNeededOption => 2
  | .tlsRequired => 3
  | .unsupportedMessage => 4
  | .messageTooLong => 5
  | .preinitRequired => 6
  | .doesntContainRequiredOption => 7
  | .unexpectedMessage => 8
  | .errorDecodingMsg => 9
  | .internalError => 10
  | .initRequired => 11
  | .unsupportedDecisionAlgorithm => 12
  | .invalidHeartbeatInterval => 13
  | .unsupportedDecisionAlgorithmMessage => 14
  | .tieBreakerDiffersFromOtherNodes => 15
  | .algorithmDiffersFromOtherNodes => 16
  | .duplicateNodeId => 17
  | .invalidConfigNodeList => 18
  | .invalidMembershipNodeList => 19

/-- `enum tlv_decision_algorithm_type`. -/
inductive TlvDecisionAlgorithmType where
  | test
  | ffsplit
  | twoNodeLms
  | lms
deriving DecidableEq

/-- The number on the wire, and in the `decision_algorithm` field of a client. -/
def TlvDecisionAlgorithmType.toUInt16 : TlvDecisionAlgorithmType → UInt16
  | .test => 0
  | .ffsplit => 1
  | .twoNodeLms => 2
  | .lms => 3

/-- `struct tlv_ring_id`. -/
structure TlvRingId where
  nodeId : UInt32
  seq : UInt64
deriving DecidableEq

/-- The ring id left behind by `memset`. -/
def TlvRingId.zero : TlvRingId := ⟨0, 0⟩

/-- `tlv_ring_id_eq`. -/
def tlvRingIdEq (rid1 rid2 : TlvRingId) : Bool :=
  rid1.nodeId == rid2.nodeId && rid1.seq == rid2.seq

@[simp] theorem tlvRingIdEq_iff (r₁ r₂ : TlvRingId) : tlvRingIdEq r₁ r₂ = true ↔ r₁ = r₂ := by
  cases r₁; cases r₂; simp [tlvRingIdEq]

/-- `enum tlv_node_state`. -/
inductive TlvNodeState where
  | notSet
  | member
  | dead
  | leaving
deriving DecidableEq

/-- `enum tlv_node_list_type`. -/
inductive TlvNodeListType where
  | initialConfig
  | changedConfig
  | membership
  | quorum
deriving DecidableEq

/-- `enum tlv_vote`.  `undefined` is also the zero that `memset` leaves behind. -/
inductive TlvVote where
  | undefined
  | ack
  | nack
  | askLater
  | waitForReply
  | noChange
deriving DecidableEq

/-- `enum tlv_quorate`. -/
inductive TlvQuorate where
  | inquorate
  | quorate
deriving DecidableEq

/-- `enum tlv_tie_breaker_mode`.  The enumeration starts at one; `unset` is the zero
    of a client that has not been given a tie-breaker. -/
inductive TlvTieBreakerMode where
  | unset
  | lowest
  | highest
  | nodeId
deriving DecidableEq

/-- `struct tlv_tie_breaker`. -/
structure TlvTieBreaker where
  mode : TlvTieBreakerMode
  nodeId : UInt32
deriving DecidableEq

/-- The tie-breaker left behind by `memset`. -/
def TlvTieBreaker.zero : TlvTieBreaker := ⟨.unset, 0⟩

/-- `tlv_tie_breaker_eq`: the node id only counts in mode `nodeId`. -/
def tlvTieBreakerEq (tb1 tb2 : TlvTieBreaker) : Bool :=
  if tb1.mode = tb2.mode ∧ tb1.mode = .nodeId then tb1.nodeId == tb2.nodeId
  else tb1.mode == tb2.mode

/-- `struct tlv_node_info`, which is also the payload of a `struct node_list_entry`. -/
structure TlvNodeInfo where
  nodeId : UInt32
  dataCenterId : UInt32
  nodeState : TlvNodeState
deriving DecidableEq

/-- `enum tlv_heuristics`. -/
inductive TlvHeuristics where
  | undefined
  | pass
  | fail
deriving DecidableEq

/-- `tlv_heuristics_cmp`: `fail < undefined < pass`. -/
def tlvHeuristicsCmp (h1 h2 : TlvHeuristics) : Ordering :=
  match h1, h2 with
  | .undefined, .undefined => .eq
  | .undefined, .pass => .lt
  | .undefined, .fail => .gt
  | .pass, .undefined => .gt
  | .pass, .pass => .eq
  | .pass, .fail => .gt
  | .fail, .undefined => .lt
  | .fail, .pass => .lt
  | .fail, .fail => .eq

/-- `enum tlv_keep_active_partition_tie_breaker`. -/
inductive TlvKeepActivePartitionTieBreaker where
  | disabled
  | enabled
deriving DecidableEq

end Qdevice
