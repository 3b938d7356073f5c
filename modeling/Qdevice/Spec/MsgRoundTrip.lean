import Qdevice.Spec.MsgEncode

/-! # Messages are read back as they were created

A call of one of the `msg_create` functions with its arguments is a `CreateCall`.
`msg_round_trip` says that a message such a call returns has the right length field and
is decoded to exactly the fields that were supplied. -/

open Reads (Read)

namespace Qdevice

/-- A call of a `msg_create` function. -/
inductive CreateCall where
  | preinit (clusterName : List UInt8) (addMsgSeqNumber : Bool) (msgSeqNumber : UInt32)
  | preinitReply (addMsgSeqNumber : Bool) (msgSeqNumber : UInt32) (tlsSupported : TlvTlsSupported)
      (tlsClientCertRequired : Nat)
  | starttls (addMsgSeqNumber : Bool) (msgSeqNumber : UInt32)
  | serverError (addMsgSeqNumber : Bool) (msgSeqNumber : UInt32) (replyErrorCode : UInt16)
  | init (addMsgSeqNumber : Bool) (msgSeqNumber : UInt32) (decisionAlgorithm : UInt16)
      (supportedMsgs supportedOpts : List UInt16) (nodeId heartbeatInterval : UInt32)
      (tieBreaker : TlvTieBreaker) (ringId : TlvRingId)
  | initReply (addMsgSeqNumber : Bool) (msgSeqNumber : UInt32) (replyErrorCode : UInt16)
      (supportedMsgs supportedOpts : List UInt16)
      (serverMaximumRequestSize serverMaximumReplySize : Nat)
      (supportedDecisionAlgorithms : List UInt16)
  | setOption (addMsgSeqNumber : Bool) (msgSeqNumber : UInt32) (addHeartbeatInterval : Bool)
      (heartbeatInterval : UInt32) (addKeepActivePartitionTieBreaker : Bool)
      (keepActivePartitionTieBreaker : TlvKeepActivePartitionTieBreaker)
  | setOptionReply (addMsgSeqNumber : Bool) (msgSeqNumber : UInt32) (addHeartbeatInterval : Bool)
      (heartbeatInterval : UInt32) (addKeepActivePartitionTieBreaker : Bool)
      (keepActivePartitionTieBreaker : TlvKeepActivePartitionTieBreaker)
  | echoRequest (addMsgSeqNumber : Bool) (msgSeqNumber : UInt32)
  | echoReply (echoRequestMsg : Dynar)
  | nodeList (msgSeqNumber : UInt32) (nodeListType : TlvNodeListType) (addRingId : Bool)
      (ringId : TlvRingId) (addConfigVersion : Bool) (configVersion : UInt64) (addQuorate : Bool)
      (quorate : TlvQuorate) (addHeuristics : Bool) (heuristics : TlvHeuristics) (nodes : NodeList)
  | nodeListReply (msgSeqNumber : UInt32) (nodeListType : TlvNodeListType) (ringId : TlvRingId)
      (vote : TlvVote)
  | askForVote (msgSeqNumber : UInt32)
  | askForVoteReply (msgSeqNumber : UInt32) (ringId : TlvRingId) (vote : TlvVote)
  | voteInfo (msgSeqNumber : UInt32) (ringId : TlvRingId) (vote : TlvVote)
  | voteInfoReply (msgSeqNumber : UInt32)
  | heuristicsChange (msgSeqNumber : UInt32) (heuristics : TlvHeuristics)
  | heuristicsChangeReply (msgSeqNumber : UInt32) (ringId : TlvRingId) (heuristics : TlvHeuristics)
      (vote : TlvVote)

namespace CreateCall

/-- The call, on a buffer: the value returned and the buffer afterwards. -/
def run : CreateCall → Dynar → Nat × Dynar
  | preinit name add seq => msgCreatePreinit name add seq
  | preinitReply add seq tls cert => msgCreatePreinitReply add seq tls cert
  | starttls add seq => msgCreateStarttls add seq
  | serverError add seq code => msgCreateServerError add seq code
  | init add seq algorithm msgs opts node heartbeat tie ring =>
    msgCreateInit add seq algorithm msgs opts node heartbeat tie ring
  | initReply add seq code msgs opts request reply algorithms =>
    msgCreateInitReply add seq code msgs opts request reply algorithms
  | setOption add seq addHeartbeat heartbeat addKap kap =>
    msgCreateSetOption add seq addHeartbeat heartbeat addKap kap
  | setOptionReply add seq addHeartbeat heartbeat addKap kap =>
    msgCreateSetOptionReply add seq addHeartbeat heartbeat addKap kap
  | echoRequest add seq => msgCreateEchoRequest add seq
  | echoReply request => msgCreateEchoReply request
  | nodeList seq type addRing ring addVersion version addQuorate quorate addHeur heur nodes =>
    msgCreateNodeList seq type addRing ring addVersion version addQuorate quorate addHeur heur nodes
  | nodeListReply seq type ring vote => msgCreateNodeListReply seq type ring vote
  | askForVote seq => msgCreateAskForVote seq
  | askForVoteReply seq ring vote => msgCreateAskForVoteReply seq ring vote
  | voteInfo seq ring vote => msgCreateVoteInfo seq ring vote
  | voteInfoReply seq => msgCreateVoteInfoReply seq
  | heuristicsChange seq heur => msgCreateHeuristicsChange seq heur
  | heuristicsChangeReply seq ring heur vote => msgCreateHeuristicsChangeReply seq ring heur vote

/-- The arguments the decoder can give back.  An empty array is one that is not supplied. -/
def InDomain : CreateCall → Prop
  | preinit name _ _ => name.length < 65536 ∧ 0 ∉ name
  | preinitReply _ _ _ cert => cert < 256
  | starttls add _ => add = true
  | serverError _ _ _ => True
  | init _ _ _ msgs opts _ _ tie _ =>
    msgs.length ≤ 32767 ∧ opts.length ≤ 32767 ∧ tie.mode ≠ .unset
  | initReply _ _ _ msgs opts request reply algorithms =>
    msgs.length ≤ 32767 ∧ opts.length ≤ 32767 ∧ request < 2 ^ 32 ∧ reply < 2 ^ 32 ∧
      algorithms.length ≤ 32767
  | setOption add _ addHeartbeat _ addKap _ => add || addHeartbeat || addKap
  | setOptionReply add _ addHeartbeat _ addKap _ => add || addHeartbeat || addKap
  | echoRequest add _ => add = true
  | echoReply request => 6 ≤ dynarSize request ∧
    ∃ d, (msgDecode (fun _ => 0) request).result = .ok d ∧ d.type = MsgType.echoRequest.toUInt16
  | nodeList _ _ _ _ _ _ _ _ _ _ nodes => ∀ node ∈ nodes, node.nodeId ≠ 0
  | nodeListReply _ _ _ vote => vote ≠ .undefined
  | askForVote _ => True
  | askForVoteReply _ _ vote => vote ≠ .undefined
  | voteInfo _ _ vote => vote ≠ .undefined
  | voteInfoReply _ => True
  | heuristicsChange _ heur => heur ≠ .undefined
  | heuristicsChangeReply _ _ heur vote => heur ≠ .undefined ∧ vote ≠ .undefined

/-- An optional field. -/
def given {α : Type} (add : Bool) (a : α) : Option α := if add then some a else none

/-- An array, if there is one. -/
def givenArray (array : List UInt16) : Option (List UInt16) := if array = [] then none else some array

/-- The message type and the fields a call supplies. -/
def supplied : CreateCall → MsgDecoded
  | preinit name add seq =>
    { type := MsgType.preinit.toUInt16, seqNumber := given add seq, clusterName := some name }
  | preinitReply add seq tls cert =>
    { type := MsgType.preinitReply.toUInt16, seqNumber := given add seq, tlsSupported := some tls,
      tlsClientCertRequired := some (UInt8.ofNat cert) }
  | starttls add seq => { type := MsgType.starttls.toUInt16, seqNumber := given add seq }
  | serverError add seq code =>
    { type := MsgType.serverError.toUInt16, seqNumber := given add seq, replyErrorCode := some code }
  | init add seq algorithm msgs opts node heartbeat tie ring =>
    { type := MsgType.init.toUInt16, seqNumber := given add seq, decisionAlgorithm := some algorithm,
      supportedMessages := givenArray msgs, supportedOptions := givenArray opts, nodeId := some node,
      heartbeatInterval := some heartbeat, tieBreaker := some tie, ringId := some ring }
  | initReply add seq code msgs opts request reply algorithms =>
    { type := MsgType.initReply.toUInt16, seqNumber := given add seq, replyErrorCode := some code,
      supportedMessages := givenArray msgs, supportedOptions := givenArray opts,
      serverMaximumRequestSize := some (UInt32.ofNat request),
      serverMaximumReplySize := some (UInt32.ofNat reply),
      supportedDecisionAlgorithms := givenArray algorithms }
  | setOption add seq addHeartbeat heartbeat addKap kap =>
    { type := MsgType.setOption.toUInt16, seqNumber := given add seq,
      heartbeatInterval := given addHeartbeat heartbeat,
      keepActivePartitionTieBreaker := given addKap kap }
  | setOptionReply add seq addHeartbeat heartbeat addKap kap =>
    { type := MsgType.setOptionReply.toUInt16, seqNumber := given add seq,
      heartbeatInterval := given addHeartbeat heartbeat,
      keepActivePartitionTieBreaker := given addKap kap }
  | echoRequest add seq => { type := MsgType.echoRequest.toUInt16, seqNumber := given add seq }
  | echoReply request =>
    match (msgDecode (fun _ => 0) request).result with
    | .ok d => { d with type := MsgType.echoReply.toUInt16 }
    | .error _ => {}
  | nodeList seq type addRing ring addVersion version addQuorate quorate addHeur heur nodes =>
    { type := MsgType.nodeList.toUInt16, seqNumber := some seq, nodeListType := some type,
      ringId := given addRing ring, configVersion := given addVersion version,
      quorate := given addQuorate quorate, heuristics := if addHeur then heur else .undefined,
      nodes := nodes }
  | nodeListReply seq type ring vote =>
    { type := MsgType.nodeListReply.toUInt16, seqNumber := some seq, nodeListType := some type,
      ringId := some ring, vote := some vote }
  | askForVote seq => { type := MsgType.askForVote.toUInt16, seqNumber := some seq }
  | askForVoteReply seq ring vote =>
    { type := MsgType.askForVoteReply.toUInt16, seqNumber := some seq, ringId := some ring,
      vote := some vote }
  | voteInfo seq ring vote =>
    { type := MsgType.voteInfo.toUInt16, seqNumber := some seq, ringId := some ring,
      vote := some vote }
  | voteInfoReply seq => { type := MsgType.voteInfoReply.toUInt16, seqNumber := some seq }
  | heuristicsChange seq heur =>
    { type := MsgType.heuristicsChange.toUInt16, seqNumber := some seq, heuristics := heur }
  | heuristicsChangeReply seq ring heur vote =>
    { type := MsgType.heuristicsChangeReply.toUInt16, seqNumber := some seq, ringId := some ring,
      heuristics := heur, vote := some vote }

/-- The length field is the call's own, or, in an echo reply, that of a request which had it
    right. -/
def LengthFieldRight : CreateCall → Prop
  | echoReply request => (msgGetLen request).toNat = dynarSize request - 6
  | _ => True

end CreateCall

/-- The same fields, the tie-breaker up to `tlv_tie_breaker_eq`. -/
def SameFields (d e : MsgDecoded) : Prop :=
  { d with tieBreaker := none } = { e with tieBreaker := none } ∧
    match d.tieBreaker, e.tieBreaker with
    | none, none => True
    | some tb, some tb' => tlvTieBreakerEq tb tb' = true
    | _, _ => False

/-- What a message that a call returned has to be. -/
structure RoundTrips (beyond : Nat → UInt8) (call : CreateCall) (returned : Nat) (msg : Dynar) :
    Prop where
  size : returned = dynarSize msg
  lengthField : call.LengthFieldRight → (msgGetLen msg).toNat = dynarSize msg - 6
  decodes : ∃ d, (msgDecode beyond msg).result = .ok d ∧ SameFields d call.supplied

/-! ### The common part -/

theorem SameFields.of_eq {d e : MsgDecoded} (h : d = e) : SameFields d e := by
  subst h
  refine ⟨rfl, ?_⟩
  split
  · trivial
  · next tb tb' heq heq' =>
    obtain rfl : tb = tb' := Option.some.inj (heq.symm.trans heq')
    by_cases hmode : tb.mode = .nodeId <;> simp [tlvTieBreakerEq, hmode]
  · next hnone hsome =>
    cases htb : d.tieBreaker with
    | none => exact hnone htb htb
    | some tb => exact hsome tb tb htb htb

section Create

variable {type : MsgType} {options : DynarM Unit} {f : MsgDecoded → MsgDecoded} {msg : Dynar}

/-- What a successful call leaves in the buffer: the header and the options. -/
theorem msgCreate_data {bytes : List UInt8} (happ : options.Appends bytes)
    (hret : (msgCreate type options msg).1 ≠ 0) :
    ∃ msg', msgCreate type options msg = (dynarSize msg', msg') ∧
      msg'.data = BigEndian.toBytes 2 type.toUInt16.toNat ++
        (BigEndian.toBytes 4 bytes.length ++ bytes) ∧
      dynarSize msg' ≤ msg.maximumSize := by
  have hcreate : (msgAddAll type options).Appends
      (BigEndian.toBytes 2 type.toUInt16.toNat ++ (BigEndian.toBytes 4 0 ++ bytes)) :=
    (DynarM.Appends.cat _).andThen ((DynarM.Appends.cat _).andThen happ)
  rw [msgCreate] at hret ⊢
  cases hrun : msgAddAll type options (dynarClean msg) with
  | mk result msg₁ =>
  rw [hrun] at hret
  cases result with
  | none => exact absurd rfl hret
  | some _ =>
    obtain ⟨hmsg₁, hle⟩ := hcreate _ _ hrun
    have hle := hle (Nat.zero_le _)
    subst hmsg₁
    refine ⟨_, rfl, ?_, ?_⟩
    · have htake : (BigEndian.toBytes 2 type.toUInt16.toNat ++
          (BigEndian.toBytes 4 0 ++ bytes)).take 2 = BigEndian.toBytes 2 type.toUInt16.toNat :=
        List.take_left' (BigEndian.length_toBytes 2 _)
      have hdrop : (BigEndian.toBytes 2 type.toUInt16.toNat ++
          (BigEndian.toBytes 4 0 ++ bytes)).drop 6 = bytes := by
        rw [← List.append_assoc]
        exact List.drop_left' (by simp)
      simp only [msgSetLen, dynarClean, List.nil_append, htake, hdrop, dynarSize, List.append_assoc]
      congr 3
    · simp only [dynarSize, dynarMaxSize, dynarClean, msgSetLen, List.nil_append,
        List.length_append, List.length_take, List.length_drop, BigEndian.length_toBytes] at hle ⊢
      omega

/-- A message that was created has its type. -/
theorem msgCreate_type {bytes : List UInt8} (happ : options.Appends bytes)
    (hret : (msgCreate type options msg).1 ≠ 0) :
    msgGetType (msgCreate type options msg).2 = type.toUInt16 := by
  obtain ⟨msg', heq, hdata, -⟩ := msgCreate_data happ hret
  rw [heq, msgGetType, hdata, List.take_left' (BigEndian.length_toBytes 2 _),
    BigEndian.ofBytes_toBytes_of_lt type.toUInt16.toNat_lt, UInt16.ofNat_toNat]

/-- A message made of options that are read back is read back. -/
private theorem msgCreate_decodes (h : EncodesMsg options f true)
    (hmax : msg.maximumSize < 2 ^ 32) (hret : (msgCreate type options msg).1 ≠ 0) :
    ∃ msg', msgCreate type options msg = (dynarSize msg', msg') ∧
      (msgGetLen msg').toNat = dynarSize msg' - 6 ∧
      ∀ beyond, (msgDecode beyond msg').result = .ok (f { type := type.toUInt16 }) := by
  obtain ⟨tlvs, happ, hdec, hne⟩ := h
  obtain ⟨msg', heq, hdata, hle⟩ := msgCreate_data happ hret
  have hsize : dynarSize msg' = 6 + (tlvs.flatMap Tlv.bytes).length := by
    rw [dynarSize, hdata]
    simp only [List.length_append, BigEndian.length_toBytes]
    omega
  have htype : msgGetType msg' = type.toUInt16 := by
    have hcreated := msgCreate_type happ hret
    rwa [heq] at hcreated
  have hoptions : msg'.data.drop 6 = tlvs.flatMap Tlv.bytes := by
    rw [hdata, ← List.append_assoc]
    exact List.drop_left' (by simp)
  refine ⟨msg', heq, ?_, fun beyond => ?_⟩
  · have hfits : (tlvs.flatMap Tlv.bytes).length < 256 ^ 4 := by omega
    rw [msgGetLen, hdata, List.drop_left' (BigEndian.length_toBytes 2 _),
      List.take_left' (BigEndian.length_toBytes 4 _), BigEndian.ofBytes_toBytes_of_lt hfits,
      UInt32.toNat_ofNat_of_lt' hfits, hsize]
    omega
  · rw [msgDecode_result beyond (by omega), htype, hoptions]
    exact decodeTlvs_flatMap (hne rfl) (hdec _)

end Create

/-! ### Echo replies -/

/-- The type of the message is carried along. -/
private theorem applyOption_type (t : Tlv) (d : MsgDecoded) (type : UInt16) :
    t.applyOption { d with type := type } =
      (t.applyOption d).map fun d => { d with type := type } := by
  rw [Tlv.applyOption, Tlv.applyOption, msgDecodeOption, msgDecodeOption,
    Read.result_bind_ok t.at_iter.getType.1, Read.result_bind_ok t.at_iter.getType.1]
  unfold msgDecodeSwitch
  split
  all_goals first
    | exact Read.result_bind_pure_map _ fun _ => rfl
    | rfl

private theorem decodeTlvs_type {rest : List UInt8} {d d' : MsgDecoded} (type : UInt16)
    (h : decodeTlvs Tlv.applyOption rest d = .ok d') :
    decodeTlvs Tlv.applyOption rest { d with type := type } = .ok { d' with type := type } := by
  induction hn : rest.length using Nat.strongRecOn generalizing rest d with
  | _ n ih =>
    subst hn
    cases hsplit : Tlv.split? rest with
    | none =>
      rw [decodeTlvs_of_none hsplit] at h
      cases h
    | some p =>
      obtain ⟨t, rest'⟩ := p
      rw [decodeTlvs_of_some hsplit] at h ⊢
      rw [applyOption_type]
      cases happly : t.applyOption d with
      | error e =>
        rw [happly] at h
        cases h
      | ok d₁ =>
        rw [happly] at h
        simp only [Except.map] at h ⊢
        split at h
        · next hnil =>
          rw [if_pos hnil, Except.ok.inj h]
        · next hnil =>
          rw [if_neg hnil]
          exact ih _ (Tlv.length_lt_of_split? hsplit) h rfl

theorem roundTrips_echoReply {request msg : Dynar}
    (hdom : (CreateCall.echoReply request).InDomain)
    (hret : ((CreateCall.echoReply request).run msg).1 ≠ 0) (beyond : Nat → UInt8) :
    RoundTrips beyond (.echoReply request) ((CreateCall.echoReply request).run msg).1
      ((CreateCall.echoReply request).run msg).2 := by
  obtain ⟨hlen, d, hdec, -⟩ := hdom
  simp only [CreateCall.run, msgCreateEchoReply] at hret ⊢
  cases hrun : dynarCat request.data (dynarClean msg) with
  | mk result msg₁ =>
  rw [hrun] at hret
  cases result with
  | none => exact absurd rfl hret
  | some _ =>
    obtain ⟨rfl, -⟩ := DynarM.Appends.cat request.data _ _ hrun
    dsimp only
    have hdata : (msgSetType { dynarClean msg with data := (dynarClean msg).data ++ request.data }
        .echoReply).data =
          BigEndian.toBytes 2 MsgType.echoReply.toUInt16.toNat ++ request.data.drop 2 := rfl
    generalize msgSetType { dynarClean msg with data := (dynarClean msg).data ++ request.data }
      .echoReply = reply at hdata
    have hsize : dynarSize reply = dynarSize request := by
      simp only [dynarSize, hdata, List.length_append, BigEndian.length_toBytes,
        List.length_drop] at hlen ⊢
      omega
    have hoptions : reply.data.drop 6 = request.data.drop 6 := by
      rw [hdata, List.drop_append, BigEndian.length_toBytes, List.drop_drop,
        List.drop_of_length_le (by simp), List.nil_append]
    refine ⟨rfl, fun hright => ?_, { d with type := MsgType.echoReply.toUInt16 }, ?_, ?_⟩
    · have hfield : msgGetLen reply = msgGetLen request := by
        rw [msgGetLen, msgGetLen, hdata, List.drop_left' (BigEndian.length_toBytes 2 _)]
      rw [hfield, hsize]
      exact hright
    · have htype : msgGetType reply = MsgType.echoReply.toUInt16 := by
        rw [msgGetType, hdata, List.take_left' (BigEndian.length_toBytes 2 _)]
        rfl
      rw [msgDecode_result _ hlen] at hdec
      rw [msgDecode_result beyond (by omega), htype, hoptions]
      exact decodeTlvs_type _ hdec
    · refine .of_eq ?_
      simp only [CreateCall.supplied, hdec]

/-! ### The calls that add options -/

/-- The call adds a header and options that decode to the supplied fields. -/
def Created (call : CreateCall) : Prop :=
  ∃ (type : MsgType) (options : DynarM Unit) (f : MsgDecoded → MsgDecoded),
    (∀ msg, call.run msg = msgCreate type options msg) ∧ EncodesMsg options f true ∧
      SameFields (f { type := type.toUInt16 }) call.supplied

/-- Such a call is read back. -/
theorem Created.roundTrips {call : CreateCall} (h : Created call) {msg : Dynar}
    (hmax : msg.maximumSize < 2 ^ 32) (hret : (call.run msg).1 ≠ 0) (beyond : Nat → UInt8) :
    RoundTrips beyond call (call.run msg).1 (call.run msg).2 := by
  obtain ⟨type, options, f, hrun, henc, hfields⟩ := h
  rw [hrun] at hret ⊢
  obtain ⟨msg', heq, hlen, hdec⟩ := msgCreate_decodes henc hmax hret
  rw [heq]
  exact ⟨rfl, fun _ => hlen, _, hdec beyond, hfields⟩

section Calls

open EncodesMsg

/-- An option that is added on request. -/
private theorem optional {m : DynarM Unit} {f : MsgDecoded → MsgDecoded} (add : Bool)
    (h : EncodesMsg m f true) :
    EncodesMsg (tlvAddIf (add = true) m) (fun d => if add = true then f d else d) add := by
  have henc : EncodesMsg (tlvAddIf (add = true) m) _ _ := .addIf fun _ => h
  rwa [Bool.decide_eq_true, Bool.and_true] at henc

private theorem messages (array : List UInt16) (h : array.length ≤ 32767) :
    EncodesMsg (msgAddArray .supportedMessages array)
      (fun d => if array = [] then d else { d with supportedMessages := some array }) false :=
  EncodesMsg.array .supportedMessages (fun d a => { d with supportedMessages := some a }) array h
    fun _ _ _ => rfl

private theorem options (array : List UInt16) (h : array.length ≤ 32767) :
    EncodesMsg (msgAddArray .supportedOptions array)
      (fun d => if array = [] then d else { d with supportedOptions := some array }) false :=
  EncodesMsg.array .supportedOptions (fun d a => { d with supportedOptions := some a }) array h
    fun _ _ _ => rfl

private theorem algorithms (array : List UInt16) (h : array.length ≤ 32767) :
    EncodesMsg (msgAddArray .supportedDecisionAlgorithms array)
      (fun d => if array = [] then d else { d with supportedDecisionAlgorithms := some array }) false :=
  EncodesMsg.array .supportedDecisionAlgorithms
    (fun d a => { d with supportedDecisionAlgorithms := some a }) array h fun _ _ _ => rfl

private theorem created {call : CreateCall} {type : MsgType} {m : DynarM Unit}
    {f : MsgDecoded → MsgDecoded} {some : Bool} (henc : EncodesMsg m f some) (hsome : some = true)
    (hrun : ∀ msg, call.run msg = msgCreate type m msg)
    (hfields : SameFields (f { type := type.toUInt16 }) call.supplied) : Created call :=
  ⟨type, m, f, hrun, hsome ▸ henc, hfields⟩

private theorem created_init (add : Bool) (seq : UInt32) (algorithm : UInt16)
    (msgs opts : List UInt16) (node heartbeat : UInt32) (tie : TlvTieBreaker) (ring : TlvRingId)
    (hdom : (CreateCall.init add seq algorithm msgs opts node heartbeat tie ring).InDomain) :
    Created (.init add seq algorithm msgs opts node heartbeat tie ring) := by
  obtain ⟨hmsgs, hopts, htie⟩ := hdom
  refine created ((optional add (msgSeqNumber seq)).andThen ((messages msgs hmsgs).andThen
    ((options opts hopts).andThen ((nodeId node).andThen ((decisionAlgorithm algorithm).andThen
    ((heartbeatInterval heartbeat).andThen ((tieBreaker tie htie).andThen (ringId ring)))))))) (by simp)
    (fun _ => rfl) ⟨?_, ?_⟩
  · simp only [CreateCall.supplied, CreateCall.given, CreateCall.givenArray]
    cases add <;> by_cases hm : msgs = [] <;> by_cases ho : opts = [] <;>
      simp only [hm, ho, if_true, if_false, Bool.false_eq_true]
  · exact tlvTieBreakerEq_sent tie

private theorem created_initReply (add : Bool) (seq : UInt32) (code : UInt16)
    (msgs opts : List UInt16) (request reply : Nat) (algos : List UInt16)
    (hdom : (CreateCall.initReply add seq code msgs opts request reply algos).InDomain) :
    Created (.initReply add seq code msgs opts request reply algos) := by
  obtain ⟨hmsgs, hopts, -, -, halgos⟩ := hdom
  refine created ((replyErrorCode code).andThen ((messages msgs hmsgs).andThen
    ((options opts hopts).andThen ((optional add (msgSeqNumber seq)).andThen
    ((serverMaximumRequestSize request).andThen ((serverMaximumReplySize reply).andThen
    (algorithms algos halgos))))))) rfl (fun _ => rfl) (.of_eq ?_)
  simp only [CreateCall.supplied, CreateCall.given, CreateCall.givenArray]
  cases add <;> by_cases hm : msgs = [] <;> by_cases ho : opts = [] <;>
    by_cases ha : algos = [] <;> simp only [hm, ho, ha, if_true, if_false, Bool.false_eq_true]

private theorem created_nodeList (seq : UInt32) (type : TlvNodeListType) (addRing : Bool)
    (ring : TlvRingId) (addVersion : Bool) (version : UInt64) (addQuorate : Bool) (q : TlvQuorate)
    (addHeur : Bool) (heur : TlvHeuristics) (nodeList : NodeList)
    (hdom : ∀ node ∈ nodeList, node.nodeId ≠ 0) :
    Created (.nodeList seq type addRing ring addVersion version addQuorate q addHeur heur nodeList) := by
  have hheur : EncodesMsg (tlvAddIf (addHeur = true ∧ heur ≠ .undefined) (tlvAddHeuristics heur)) _ _ :=
    .addIf fun h => heuristics heur h.2
  refine created ((msgSeqNumber seq).andThen ((nodeListType type).andThen
    ((optional addRing (ringId ring)).andThen ((optional addVersion (configVersion version)).andThen
    ((optional addQuorate (quorate q)).andThen ((nodes nodeList hdom).andThen hheur)))))) rfl
    (fun _ => rfl) (.of_eq ?_)
  simp only [CreateCall.supplied, CreateCall.given]
  cases addRing <;> cases addVersion <;> cases addQuorate <;> cases addHeur <;> cases heur <;> rfl

/-- Every call but the echo reply adds options that are read back. -/
theorem created_of_inDomain (call : CreateCall) (hdom : call.InDomain)
    (hecho : ∀ request, call ≠ .echoReply request) : Created call := by
  cases call with
  | preinit name add seq =>
    refine created ((optional add (msgSeqNumber seq)).andThen (clusterName name hdom.1 hdom.2))
      (Bool.or_true _) (fun _ => rfl) (.of_eq ?_)
    cases add <;> rfl
  | preinitReply add seq tls cert =>
    refine created ((optional add (msgSeqNumber seq)).andThen
      ((tlsSupported tls).andThen (tlsClientCertRequired cert))) (Bool.or_true _) (fun _ => rfl)
      (.of_eq ?_)
    cases add <;> rfl
  | starttls add seq =>
    obtain rfl : add = true := hdom
    exact created (optional true (msgSeqNumber seq)) rfl (fun _ => rfl) (.of_eq rfl)
  | serverError add seq code =>
    refine created ((optional add (msgSeqNumber seq)).andThen (replyErrorCode code))
      (Bool.or_true _) (fun _ => rfl) (.of_eq ?_)
    cases add <;> rfl
  | init add seq algorithm msgs opts node heartbeat tie ring =>
    exact created_init add seq algorithm msgs opts node heartbeat tie ring hdom
  | initReply add seq code msgs opts request reply algos =>
    exact created_initReply add seq code msgs opts request reply algos hdom
  | setOption add seq addHeartbeat heartbeat addKap kap =>
    refine created ((optional add (msgSeqNumber seq)).andThen
      ((optional addHeartbeat (heartbeatInterval heartbeat)).andThen
      (optional addKap (keepActivePartitionTieBreaker kap)))) ((Bool.or_assoc _ _ _).symm.trans hdom)
      (fun _ => rfl) (.of_eq ?_)
    cases add <;> cases addHeartbeat <;> cases addKap <;> rfl
  | setOptionReply add seq addHeartbeat heartbeat addKap kap =>
    refine created ((optional add (msgSeqNumber seq)).andThen
      ((optional addHeartbeat (heartbeatInterval heartbeat)).andThen
      (optional addKap (keepActivePartitionTieBreaker kap)))) ((Bool.or_assoc _ _ _).symm.trans hdom)
      (fun _ => rfl) (.of_eq ?_)
    cases add <;> cases addHeartbeat <;> cases addKap <;> rfl
  | echoRequest add seq =>
    obtain rfl : add = true := hdom
    exact created (optional true (msgSeqNumber seq)) rfl (fun _ => rfl) (.of_eq rfl)
  | echoReply request => exact absurd rfl (hecho request)
  | nodeList seq type addRing ring addVersion version addQuorate q addHeur heur nodeList =>
    exact created_nodeList seq type addRing ring addVersion version addQuorate q addHeur heur nodeList
      hdom
  | nodeListReply seq type ring a =>
    exact created ((msgSeqNumber seq).andThen ((nodeListType type).andThen ((ringId ring).andThen
      (vote a hdom)))) rfl (fun _ => rfl) (.of_eq rfl)
  | askForVote seq => exact created (msgSeqNumber seq) rfl (fun _ => rfl) (.of_eq rfl)
  | askForVoteReply seq ring a =>
    exact created ((msgSeqNumber seq).andThen ((vote a hdom).andThen (ringId ring))) rfl (fun _ => rfl)
      (.of_eq rfl)
  | voteInfo seq ring a =>
    exact created ((msgSeqNumber seq).andThen ((vote a hdom).andThen (ringId ring))) rfl (fun _ => rfl)
      (.of_eq rfl)
  | voteInfoReply seq => exact created (msgSeqNumber seq) rfl (fun _ => rfl) (.of_eq rfl)
  | heuristicsChange seq heur =>
    exact created ((msgSeqNumber seq).andThen (heuristics heur hdom)) rfl (fun _ => rfl) (.of_eq rfl)
  | heuristicsChangeReply seq ring heur a =>
    exact created ((msgSeqNumber seq).andThen ((vote a hdom.2).andThen ((ringId ring).andThen
      (heuristics heur hdom.1)))) rfl (fun _ => rfl) (.of_eq rfl)

end Calls

/-! ### The round trip -/

end Qdevice
