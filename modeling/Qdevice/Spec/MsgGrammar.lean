import Qdevice.ForStd.List
import Qdevice.Spec.MsgDecode
import Qdevice.Native.Msg

/-! # Which messages are accepted, and what the order of their options means

A payload that is a sequence of complete options is accepted, unless it is empty: the iterator
looks for the end of the message only after it has seen an option.  The options of an
accepted message can be sent in any order, with options that this version does not know between
them; only the order of NODE_INFO options matters, and of other options that are sent more
than once the last one counts. -/

open Reads (Read)

namespace Qdevice

/-! ### The loop on complete options -/

section Loop

variable {α : Type} {apply : Tlv → α → Except DecodeError α}

/-- On complete options, the loop succeeds exactly if the fold does. -/
theorem decodeTlvs_flatMap_iff {tlvs : List Tlv} {acc acc' : α} (hne : tlvs ≠ []) :
    decodeTlvs apply (tlvs.flatMap Tlv.bytes) acc = .ok acc' ↔
      tlvs.foldlM (fun acc t => apply t acc) acc = .ok acc' := by
  refine ⟨fun h => ?_, decodeTlvs_flatMap hne⟩
  induction tlvs generalizing acc with
  | nil => exact absurd rfl hne
  | cons t tlvs ih =>
    rw [List.flatMap_cons, decodeTlvs_of_some (Tlv.split?_bytes_append t _)] at h
    rw [List.foldlM_cons]
    cases hap : apply t acc with
    | error e => rw [hap] at h; cases h
    | ok acc₁ =>
      rw [hap] at h
      dsimp only at h
      change tlvs.foldlM (fun acc t => apply t acc) acc₁ = .ok acc'
      cases tlvs with
      | nil =>
        rw [List.flatMap_nil, if_pos rfl] at h
        obtain rfl := Except.ok.inj h
        rfl
      | cons t' tlvs =>
        rw [if_neg (by simp [Tlv.bytes_ne_nil])] at h
        exact ih (List.cons_ne_nil _ _) h

/-- A byte list is a sequence of complete options. -/
def Complete (rest : List UInt8) : Prop := ∃ tlvs : List Tlv, rest = tlvs.flatMap Tlv.bytes

/-- All complete options at the front of a byte list have this property. -/
def Options (accepts : Tlv → Prop) (rest : List UInt8) : Prop :=
  ∀ (tlvs : List Tlv) (tail : List UInt8), rest = tlvs.flatMap Tlv.bytes ++ tail →
    ∀ t ∈ tlvs, accepts t

theorem complete_append (t : Tlv) (rest : List UInt8) : Complete (t.bytes ++ rest) ↔ Complete rest := by
  constructor
  · rintro ⟨tlvs, htlvs⟩
    cases tlvs with
    | nil =>
      rw [List.flatMap_nil, List.append_eq_nil_iff] at htlvs
      exact absurd htlvs.1 t.bytes_ne_nil
    | cons t' tlvs =>
      have hsplit := congrArg Tlv.split? htlvs
      rw [List.flatMap_cons, Tlv.split?_bytes_append, Tlv.split?_bytes_append] at hsplit
      exact ⟨tlvs, (Prod.mk.inj (Option.some.inj hsplit)).2⟩
  · rintro ⟨tlvs, rfl⟩
    exact ⟨t :: tlvs, (List.flatMap_cons ..).symm⟩

theorem options_append {accepts : Tlv → Prop} (t : Tlv) (rest : List UInt8) :
    Options accepts (t.bytes ++ rest) ↔ accepts t ∧ Options accepts rest := by
  constructor
  · intro h
    refine ⟨h [t] rest (by simp) t List.mem_cons_self, fun tlvs tail htail s hs => ?_⟩
    exact h (t :: tlvs) tail (by rw [List.flatMap_cons, List.append_assoc, ← htail]) s
      (List.mem_cons_of_mem _ hs)
  · rintro ⟨ht, h⟩ tlvs tail htail s hs
    cases tlvs with
    | nil => cases hs
    | cons t' tlvs =>
      have hsplit := congrArg Tlv.split? htail
      rw [List.flatMap_cons, List.append_assoc, Tlv.split?_bytes_append,
        Tlv.split?_bytes_append] at hsplit
      obtain ⟨rfl, hrest⟩ := Prod.mk.inj (Option.some.inj hsplit)
      obtain rfl | hs := List.mem_cons.mp hs
      · exact ht
      · exact h tlvs tail hrest s hs

theorem options_nil {accepts : Tlv → Prop} : Options accepts [] := by
  intro tlvs tail htail t ht
  obtain ⟨hnil, -⟩ := List.append_eq_nil_iff.mp htail.symm
  exact absurd (List.flatMap_eq_nil_iff.mp hnil t ht) t.bytes_ne_nil

/-- If nothing is wrong with the content of the options, the loop succeeds exactly on sequences of
    complete options that are not empty, and otherwise finds the message inconsistent. -/
theorem decodeTlvs_complete (apply : Tlv → α → Except DecodeError α) {accepts : Tlv → Prop}
    (haccepts : ∀ t acc, accepts t → ∃ acc', apply t acc = .ok acc') (rest : List UInt8) (acc : α)
    (hrest : Options accepts rest) :
    (Complete rest ∧ rest ≠ [] ∧ ∃ acc', decodeTlvs apply rest acc = .ok acc') ∨
      (¬ (Complete rest ∧ rest ≠ []) ∧
        ∃ acc', decodeTlvs apply rest acc = .error (.inconsistentMsg, acc')) := by
  induction hlen : rest.length using Nat.strongRecOn generalizing rest acc with
  | ind n ih =>
    cases hsplit : Tlv.split? rest with
    | none =>
      refine .inr ⟨?_, acc, decodeTlvs_of_none hsplit⟩
      rintro ⟨⟨tlvs, rfl⟩, hne⟩
      cases tlvs with
      | nil => exact hne rfl
      | cons t tlvs =>
        rw [List.flatMap_cons, Tlv.split?_bytes_append] at hsplit
        cases hsplit
    | some cut =>
      obtain ⟨t, rest'⟩ := cut
      obtain rfl := Tlv.bytes_append_of_split? hsplit
      obtain ⟨ht, hrest'⟩ := (options_append t rest').mp hrest
      obtain ⟨acc₁, hap⟩ := haccepts t acc ht
      have hne : t.bytes ++ rest' ≠ [] := by simp [t.bytes_ne_nil]
      rw [decodeTlvs_of_some hsplit, hap, complete_append]
      dsimp only
      by_cases hend : rest' = []
      · rw [if_pos hend]
        exact .inl ⟨⟨[], hend⟩, hne, acc₁, rfl⟩
      · rw [if_neg hend]
        obtain ⟨hcomplete, -, hok⟩ | ⟨hincomplete, herror⟩ :=
          ih rest'.length (hlen ▸ Tlv.length_lt_of_split? hsplit) rest' acc₁ hrest' rfl
        · exact .inl ⟨hcomplete, hne, hok⟩
        · exact .inr ⟨fun ⟨hcomplete, _⟩ => hincomplete ⟨hcomplete, hend⟩, herror⟩

end Loop

/-! ### The grammar of messages -/

/-- `msg_decode` accepts a payload of complete options and finds every other one inconsistent. -/
def DecodesGrammar (beyond : Nat → UInt8) (msg : Dynar) : Prop :=
  (Complete (msg.data.drop 6) → ∃ decodedMsg, (msgDecode beyond msg).result = .ok decodedMsg) ∧
    (¬ Complete (msg.data.drop 6) →
      ∃ decodedMsg, (msgDecode beyond msg).result = .error (.inconsistentMsg, decodedMsg))

/-- If the content of all options is accepted, the grammar is the documented one exactly for the
    messages that are more than a header. -/
theorem msgDecode_grammar_iff (beyond : Nat → UInt8) {msg : Dynar} (hlen : 6 ≤ dynarSize msg)
    (haccepted : Options Tlv.Accepted (msg.data.drop 6)) :
    DecodesGrammar beyond msg ↔ 6 < dynarSize msg := by
  have hresult := decodeTlvs_complete Tlv.applyOption
    (fun t d ht => (applyOption_isOk t _ d).mp ht) (msg.data.drop 6) { type := msgGetType msg }
    haccepted
  have hpayload : msg.data.drop 6 ≠ [] ↔ 6 < dynarSize msg := by
    rw [ne_eq, List.drop_eq_nil_iff, Nat.not_le]
    rfl
  -- The walk over the options and the grammar differ only where there are no options at all.
  rw [← msgDecode_result beyond hlen] at hresult
  rw [DecodesGrammar, ← hpayload]
  constructor
  · rintro ⟨hcomplete, -⟩ hnil
    obtain ⟨-, hne, -⟩ | ⟨-, d', herror⟩ := hresult
    · exact hne hnil
    · obtain ⟨d, hok⟩ := hcomplete ⟨[], hnil⟩
      cases hok.symm.trans herror
  · intro hne
    obtain ⟨hcomplete, -, hok⟩ | ⟨hincomplete, herror⟩ := hresult
    · exact ⟨fun _ => hok, fun h => absurd hcomplete h⟩
    · exact ⟨fun h => absurd ⟨h, hne⟩ hincomplete, fun _ => herror⟩

/-- An echo request with a sequence number is accepted. -/
theorem msgDecode_grammar_echo : Options Tlv.Accepted (numberedEcho.data.drop 6) ∧
    DecodesGrammar (fun _ => 0) numberedEcho := by
  have hoptions : Options Tlv.Accepted (numberedEcho.data.drop 6) := by
    have hbytes : numberedEcho.data.drop 6 =
        Tlv.bytes ⟨0, [0, 0, 0, 1], by decide⟩ ++ [] := by decide
    rw [hbytes, options_append]
    exact ⟨⟨_, rfl⟩, options_nil⟩
  exact ⟨hoptions, (msgDecode_grammar_iff _ (by decide) hoptions).mpr (by decide)⟩

/-- An echo request that is only a header, as `msg_create_echo_request` makes it, is
    found inconsistent. -/
theorem msgDecode_refuses_bare_header :
    (msgCreateEchoRequest false 0 (dynarInit 64)).2 = bareEcho ∧
      6 ≤ dynarSize bareEcho ∧ Options Tlv.Accepted (bareEcho.data.drop 6) ∧
      Complete (bareEcho.data.drop 6) ∧ ¬ DecodesGrammar (fun _ => 0) bareEcho := by
  refine ⟨by decide, by decide, options_nil, ⟨[], rfl⟩, fun h => ?_⟩
  obtain ⟨d, hok⟩ := h.1 ⟨[], rfl⟩
  rw [msgDecode_result _ (by decide)] at hok
  cases hok.symm.trans (decodeTlvs_of_none rfl)

/-! ### What one option does -/

/-- An option that this version does not know. -/
def Tlv.Unknown (t : Tlv) : Prop := TlvOptType.ofUInt16? t.type = none

/-- The field of an option, taken from one message into another; the nodes of a NODE_INFO option
    are put behind those that are there. -/
def copyOption (optType : Option TlvOptType) (v d : MsgDecoded) : MsgDecoded :=
  match optType with
  | some .msgSeqNumber => { d with seqNumber := v.seqNumber }
  | some .clusterName => { d with clusterName := v.clusterName }
  | some .tlsSupported => { d with tlsSupported := v.tlsSupported }
  | some .tlsClientCertRequired => { d with tlsClientCertRequired := v.tlsClientCertRequired }
  | some .supportedMessages => { d with supportedMessages := v.supportedMessages }
  | some .supportedOptions => { d with supportedOptions := v.supportedOptions }
  | some .replyErrorCode => { d with replyErrorCode := v.replyErrorCode }
  | some .serverMaximumRequestSize =>
    { d with serverMaximumRequestSize := v.serverMaximumRequestSize }
  | some .serverMaximumReplySize => { d with serverMaximumReplySize := v.serverMaximumReplySize }
  | some .nodeId => { d with nodeId := v.nodeId }
  | some .supportedDecisionAlgorithms =>
    { d with supportedDecisionAlgorithms := v.supportedDecisionAlgorithms }
  | some .decisionAlgorithm => { d with decisionAlgorithm := v.decisionAlgorithm }
  | some .heartbeatInterval => { d with heartbeatInterval := v.heartbeatInterval }
  | some .ringId => { d with ringId := v.ringId }
  | some .configVersion => { d with configVersion := v.configVersion }
  | some .dataCenterId => { d with dataCenterId := v.dataCenterId }
  | some .nodeState => { d with nodeState := v.nodeState }
  | some .nodeInfo => { d with nodes := d.nodes ++ v.nodes }
  | some .nodeListType => { d with nodeListType := v.nodeListType }
  | some .vote => { d with vote := v.vote }
  | some .quorate => { d with quorate := v.quorate }
  | some .tieBreaker => { d with tieBreaker := v.tieBreaker }
  | some .heuristics => { d with heuristics := v.heuristics }
  | some .keepActivePartitionTieBreaker =>
    { d with keepActivePartitionTieBreaker := v.keepActivePartitionTieBreaker }
  | none => d

/-- An option is decoded the same way into any message. -/
theorem applyOption_eq_map (t : Tlv) (d : MsgDecoded) :
    t.applyOption d =
      (t.applyOption {}).map (copyOption (TlvOptType.ofUInt16? t.type) · d) := by
  have hat := t.at_iter
  rw [Tlv.applyOption, Tlv.applyOption, msgDecodeOption, msgDecodeOption,
    Read.result_bind_ok hat.getType.1, Read.result_bind_ok hat.getType.1]
  cases TlvOptType.ofUInt16? t.type with
  | none => rfl
  | some optType => cases optType <;> exact Read.result_bind_pure_map _ fun _ => rfl

/-- Different options do not meet. -/
theorem copyOption_comm {optType optType' : Option TlvOptType} (h : optType ≠ optType')
    (v v' d : MsgDecoded) :
    copyOption optType v (copyOption optType' v' d) =
      copyOption optType' v' (copyOption optType v d) := by
  cases optType with
  | none => rfl
  | some k =>
    cases optType' with
    | none => rfl
    | some k' => cases k <;> cases k' <;> first | rfl | exact absurd rfl h

/-- Nothing is left of an option that is sent again. -/
theorem copyOption_copyOption {optType : Option TlvOptType} (h : optType ≠ some .nodeInfo)
    (v v' d : MsgDecoded) :
    copyOption optType v (copyOption optType v' d) = copyOption optType v d := by
  cases optType with
  | none => rfl
  | some k => cases k <;> first | rfl | exact absurd rfl h

/-- What an accepted option stands for, in a message of its own. -/
def Tlv.decoded (t : Tlv) : MsgDecoded :=
  match t.applyOption {} with
  | .ok v => v
  | .error _ => {}

/-- What an accepted option makes of a message. -/
def Tlv.update (d : MsgDecoded) (t : Tlv) : MsgDecoded :=
  copyOption (TlvOptType.ofUInt16? t.type) t.decoded d

theorem applyOption_eq_ok_iff {t : Tlv} {d d' : MsgDecoded} :
    t.applyOption d = .ok d' ↔ t.Accepted ∧ t.update d = d' := by
  rw [applyOption_eq_map, Tlv.Accepted, Tlv.update, Tlv.decoded]
  cases t.applyOption {} with
  | error e => simp [Except.map]
  | ok v => simp [Except.map]

/-- A sequence of options is accepted if each one is, and then each one makes its contribution. -/
theorem foldlM_applyOption_iff {tlvs : List Tlv} {d d' : MsgDecoded} :
    tlvs.foldlM (fun acc t => t.applyOption acc) d = .ok d' ↔
      (∀ t ∈ tlvs, t.Accepted) ∧ tlvs.foldl Tlv.update d = d' := by
  induction tlvs generalizing d with
  | nil => simp [pure, Except.pure]
  | cons t tlvs ih =>
    rw [List.foldlM_cons, List.foldl_cons, List.forall_mem_cons]
    constructor
    · intro h
      cases hap : t.applyOption d with
      | error e => rw [hap] at h; cases h
      | ok d₁ =>
        obtain ⟨ht, rfl⟩ := applyOption_eq_ok_iff.mp hap
        rw [hap] at h
        obtain ⟨htlvs, hd'⟩ := ih.mp h
        exact ⟨⟨ht, htlvs⟩, hd'⟩
    · rintro ⟨⟨ht, htlvs⟩, hd'⟩
      rw [applyOption_eq_ok_iff.mpr ⟨ht, rfl⟩]
      exact ih.mpr ⟨htlvs, hd'⟩

/-- A message of complete options. -/
theorem msgDecode_eq_ok_iff (beyond : Nat → UInt8) {msg : Dynar} {header : List UInt8}
    {tlvs : List Tlv} {d : MsgDecoded} (hheader : header.length = 6)
    (hmsg : msg.data = header ++ tlvs.flatMap Tlv.bytes) (hne : tlvs ≠ []) :
    (msgDecode beyond msg).result = .ok d ↔
      (∀ t ∈ tlvs, t.Accepted) ∧ tlvs.foldl Tlv.update { type := msgGetType msg } = d := by
  have hlen : 6 ≤ dynarSize msg := by
    rw [dynarSize, hmsg, List.length_append, hheader]
    exact Nat.le_add_right _ _
  have hpayload : msg.data.drop 6 = tlvs.flatMap Tlv.bytes := by
    rw [hmsg, ← hheader, List.drop_left]
  rw [msgDecode_result beyond hlen, hpayload, decodeTlvs_flatMap_iff hne, foldlM_applyOption_iff]

/-! ### The order of options -/

/-- The number of a known type. -/
theorem TlvOptType.eq_toUInt16 {type : UInt16} {k : TlvOptType}
    (h : TlvOptType.ofUInt16? type = some k) : type = k.toUInt16 := by
  have hfound := List.find?_some h
  exact (beq_iff_eq.mp hfound).symm

/-- Options of different types can change places. -/
theorem update_comm (d : MsgDecoded) (t s : Tlv) (h : t.type ≠ s.type) :
    Tlv.update (Tlv.update d t) s = Tlv.update (Tlv.update d s) t := by
  by_cases hopt : TlvOptType.ofUInt16? s.type = TlvOptType.ofUInt16? t.type
  · -- both are unknown, then
    cases ht : TlvOptType.ofUInt16? t.type with
    | none =>
      rw [ht] at hopt
      simp only [Tlv.update, hopt, ht, copyOption]
    | some k =>
      exact absurd ((TlvOptType.eq_toUInt16 ht).trans (TlvOptType.eq_toUInt16 (hopt.trans ht)).symm) h
  · exact copyOption_comm hopt _ _ _

/-- An option has no effect if its type comes again. -/
theorem foldl_update_superseded {tlvs : List Tlv} {t : Tlv}
    (hinfo : t.type ≠ TlvOptType.nodeInfo.toUInt16) (h : ∃ s ∈ tlvs, s.type = t.type)
    (d : MsgDecoded) : tlvs.foldl Tlv.update (Tlv.update d t) = tlvs.foldl Tlv.update d := by
  induction tlvs generalizing d with
  | nil => obtain ⟨s, hs, -⟩ := h; cases hs
  | cons s tlvs ih =>
    rw [List.foldl_cons, List.foldl_cons]
    by_cases hst : s.type = t.type
    · have hopt : TlvOptType.ofUInt16? t.type ≠ some .nodeInfo := fun hopt =>
        hinfo (TlvOptType.eq_toUInt16 hopt)
      simp only [Tlv.update, hst, copyOption_copyOption hopt]
    · rw [update_comm d t s (Ne.symm hst)]
      refine ih ?_ _
      obtain ⟨u, hu, hut⟩ := h
      obtain rfl | hu := List.mem_cons.mp hu
      · exact absurd hut hst
      · exact ⟨u, hu, hut⟩

/-- The options without those whose type comes again; NODE_INFO options all count. -/
def lastOptions : List Tlv → List Tlv
  | [] => []
  | t :: tlvs =>
    if t.type ≠ TlvOptType.nodeInfo.toUInt16 ∧ ∃ s ∈ tlvs, s.type = t.type then lastOptions tlvs
    else t :: lastOptions tlvs

theorem foldl_lastOptions (tlvs : List Tlv) (d : MsgDecoded) :
    (lastOptions tlvs).foldl Tlv.update d = tlvs.foldl Tlv.update d := by
  induction tlvs generalizing d with
  | nil => rfl
  | cons t tlvs ih =>
    rw [lastOptions]
    split
    · next h => rw [ih, List.foldl_cons, foldl_update_superseded h.1 h.2]
    · rw [List.foldl_cons, List.foldl_cons, ih]

/-- Of each type other than NODE_INFO the last option is left. -/
theorem filter_lastOptions (tlvs : List Tlv) (type : UInt16) :
    (lastOptions tlvs).filter (·.type = type) =
      if type = TlvOptType.nodeInfo.toUInt16 then tlvs.filter (·.type = type)
      else (tlvs.filter (·.type = type)).getLast?.toList := by
  induction tlvs with
  | nil => simp [lastOptions]
  | cons t tlvs ih =>
    rw [lastOptions]
    by_cases htype : t.type = type
    · subst htype
      rw [List.filter_cons_of_pos (by simp)]
      split
      · next h =>
        rw [ih, if_neg h.1, if_neg h.1]
        obtain ⟨s, hs, hst⟩ := h.2
        cases hlater : tlvs.filter (·.type = t.type) with
        | nil => exact absurd hst (by simpa using List.filter_eq_nil_iff.mp hlater s hs)
        | cons u us => rw [List.getLast?_cons_cons]
      · next h =>
        rw [List.filter_cons_of_pos (by simp), ih]
        by_cases hinfo : t.type = TlvOptType.nodeInfo.toUInt16
        · rw [if_pos hinfo, if_pos hinfo]
        · have hlater : tlvs.filter (·.type = t.type) = [] := List.filter_eq_nil_iff.mpr fun s hs =>
            by simpa using fun hst => h ⟨hinfo, s, hs, hst⟩
          rw [if_neg hinfo, if_neg hinfo, hlater]
          rfl
    · rw [List.filter_cons_of_neg (by simpa using htype), ← ih]
      split
      · rfl
      · rw [List.filter_cons_of_neg (by simpa using htype)]

theorem mem_of_mem_lastOptions {tlvs : List Tlv} {t : Tlv} (h : t ∈ lastOptions tlvs) : t ∈ tlvs := by
  induction tlvs with
  | nil => exact h
  | cons s tlvs ih =>
    rw [lastOptions] at h
    split at h
    · exact List.mem_cons_of_mem _ (ih h)
    · obtain rfl | h := List.mem_cons.mp h
      · exact List.mem_cons_self
      · exact List.mem_cons_of_mem _ (ih h)

theorem lastOptions_ne_nil {tlvs : List Tlv} (h : tlvs ≠ []) : lastOptions tlvs ≠ [] := by
  induction tlvs with
  | nil => exact absurd rfl h
  | cons t tlvs ih =>
    rw [lastOptions]
    split
    · next hlater =>
      obtain ⟨s, hs, -⟩ := hlater.2
      exact ih (List.ne_nil_of_mem hs)
    · exact List.cons_ne_nil _ _

/-! ### Unknown options -/

/-- The second list is the first with unknown options put anywhere. -/
inductive OptionsPadded : List Tlv → List Tlv → Prop where
  | nil : OptionsPadded [] []
  | unknown {tlvs tlvs' : List Tlv} (t : Tlv) (ht : t.Unknown) (h : OptionsPadded tlvs tlvs') :
      OptionsPadded tlvs (t :: tlvs')
  | same {tlvs tlvs' : List Tlv} (t : Tlv) (h : OptionsPadded tlvs tlvs') :
      OptionsPadded (t :: tlvs) (t :: tlvs')

/-- The same, where unknown options may also be put into the values of NODE_INFO options. -/
inductive OptionsInserted : List Tlv → List Tlv → Prop where
  | nil : OptionsInserted [] []
  | unknown {tlvs tlvs' : List Tlv} (t : Tlv) (ht : t.Unknown) (h : OptionsInserted tlvs tlvs') :
      OptionsInserted tlvs (t :: tlvs')
  | same {tlvs tlvs' : List Tlv} (t : Tlv) (h : OptionsInserted tlvs tlvs') :
      OptionsInserted (t :: tlvs) (t :: tlvs')
  | inside {tlvs tlvs' : List Tlv} (t t' : Tlv) {inner inner' : List Tlv}
      (ht : t.type = TlvOptType.nodeInfo.toUInt16) (ht' : t'.type = TlvOptType.nodeInfo.toUInt16)
      (hinner : t.value = inner.flatMap Tlv.bytes) (hinner' : t'.value = inner'.flatMap Tlv.bytes)
      (hpadded : OptionsPadded inner inner') (h : OptionsInserted tlvs tlvs') :
      OptionsInserted (t :: tlvs) (t' :: tlvs')

theorem Tlv.Unknown.applyNodeInfo {t : Tlv} (h : t.Unknown) (nodeInfo : TlvNodeInfo) :
    t.applyNodeInfo nodeInfo = .ok nodeInfo := by
  rw [Tlv.applyNodeInfo, tlvNodeInfoOption, Read.result_bind_ok t.at_iter.getType.1]
  rw [Tlv.Unknown] at h
  simp only [h]
  rfl

theorem Tlv.Unknown.applyOption {t : Tlv} (h : t.Unknown) (d : MsgDecoded) :
    t.applyOption d = .ok d := by
  rw [Tlv.applyOption, msgDecodeOption, Read.result_bind_ok t.at_iter.getType.1]
  rw [Tlv.Unknown] at h
  simp only [h]
  rfl

/-- Unknown options in a sub-message are skipped. -/
theorem OptionsPadded.foldlM_applyNodeInfo {tlvs tlvs' : List Tlv} (h : OptionsPadded tlvs tlvs')
    {nodeInfo nodeInfo' : TlvNodeInfo}
    (hok : tlvs.foldlM (fun acc t => t.applyNodeInfo acc) nodeInfo = .ok nodeInfo') :
    tlvs'.foldlM (fun acc t => t.applyNodeInfo acc) nodeInfo = .ok nodeInfo' := by
  induction h generalizing nodeInfo with
  | nil => exact hok
  | unknown t ht h ih =>
    rw [List.foldlM_cons, ht.applyNodeInfo]
    exact ih hok
  | same t h ih =>
    rw [List.foldlM_cons] at hok ⊢
    cases hap : t.applyNodeInfo nodeInfo with
    | error e => rw [hap] at hok; cases hok
    | ok nodeInfo₁ =>
      rw [hap] at hok
      exact ih hok

theorem OptionsPadded.ne_nil {tlvs tlvs' : List Tlv} (h : OptionsPadded tlvs tlvs')
    (hne : tlvs ≠ []) : tlvs' ≠ [] := by
  cases h with
  | nil => exact hne
  | unknown t ht h => exact List.cons_ne_nil _ _
  | same t h => exact List.cons_ne_nil _ _

/-- A NODE_INFO option stands for the same node with unknown options in it. -/
theorem OptionsPadded.nodeInfo {t t' : Tlv} {inner inner' : List Tlv}
    (hinner : t.value = inner.flatMap Tlv.bytes) (hinner' : t'.value = inner'.flatMap Tlv.bytes)
    (h : OptionsPadded inner inner') {nodeInfo : TlvNodeInfo} (hok : t.nodeInfo = .ok nodeInfo) :
    t'.nodeInfo = .ok nodeInfo := by
  have hne : inner ≠ [] := by
    rintro rfl
    rw [Tlv.nodeInfo, hinner, List.flatMap_nil, decodeTlvs_of_none rfl] at hok
    cases hok
  rw [Tlv.nodeInfo] at hok ⊢
  cases hdecode : decodeTlvs Tlv.applyNodeInfo t.value ⟨0, 0, .notSet⟩ with
  | error failure => rw [hdecode] at hok; cases hok
  | ok nodeInfo₁ =>
    rw [hdecode] at hok
    rw [hinner, decodeTlvs_flatMap_iff hne] at hdecode
    rw [hinner', (decodeTlvs_flatMap_iff (h.ne_nil hne)).mpr (h.foldlM_applyNodeInfo hdecode)]
    exact hok

/-- What is made of a NODE_INFO option depends on its node only. -/
theorem applyOption_nodeInfo {t : Tlv} (ht : t.type = TlvOptType.nodeInfo.toUInt16)
    (d : MsgDecoded) :
    t.applyOption d = t.nodeInfo.map fun nodeInfo => { d with nodes := d.nodes ++ [nodeInfo] } := by
  have hat := t.at_iter
  rw [Tlv.applyOption, msgDecodeOption, Read.result_bind_ok hat.getType.1, ht,
    TlvOptType.ofUInt16?_toUInt16, ← hat.decodeNodeInfo.1]
  simp only [msgDecodeSwitch, Read.result_bind]
  rfl

/-- Unknown options are skipped, wherever they are. -/
theorem OptionsInserted.foldlM_applyOption {tlvs tlvs' : List Tlv} (h : OptionsInserted tlvs tlvs')
    {d d' : MsgDecoded} (hok : tlvs.foldlM (fun acc t => t.applyOption acc) d = .ok d') :
    tlvs'.foldlM (fun acc t => t.applyOption acc) d = .ok d' := by
  induction h generalizing d with
  | nil => exact hok
  | unknown t ht h ih =>
    rw [List.foldlM_cons, ht.applyOption]
    exact ih hok
  | same t h ih =>
    rw [List.foldlM_cons] at hok ⊢
    cases hap : t.applyOption d with
    | error e => rw [hap] at hok; cases hok
    | ok d₁ =>
      rw [hap] at hok
      exact ih hok
  | inside t t' ht ht' hinner hinner' hpadded h ih =>
    rw [List.foldlM_cons, applyOption_nodeInfo ht] at hok
    rw [List.foldlM_cons, applyOption_nodeInfo ht']
    cases hnode : t.nodeInfo with
    | error e => rw [hnode] at hok; cases hok
    | ok nodeInfo =>
      rw [hnode] at hok
      rw [hpadded.nodeInfo hinner hinner' hnode]
      exact ih hok

theorem OptionsInserted.ne_nil {tlvs tlvs' : List Tlv} (h : OptionsInserted tlvs tlvs')
    (hne : tlvs ≠ []) : tlvs' ≠ [] := by
  cases h with
  | nil => exact hne
  | unknown t ht h => exact List.cons_ne_nil _ _
  | same t h => exact List.cons_ne_nil _ _
  | inside t t' ht ht' hinner hinner' hpadded h => exact List.cons_ne_nil _ _

/-! ### Changes that do not change the message -/

/-- The options of two messages that mean the same: unknown options are inserted, options of
    different types change places, or of each type other than NODE_INFO only the last
    option is left. -/
inductive Rearranged (tlvs tlvs' : List Tlv) : Prop where
  | inserted (h : OptionsInserted tlvs tlvs')
  | permuted (h : ∀ type, tlvs'.filter (·.type = type) = tlvs.filter (·.type = type))
  | superseded (h : ∀ type, tlvs'.filter (·.type = type) =
      if type = TlvOptType.nodeInfo.toUInt16 then tlvs.filter (·.type = type)
      else (tlvs.filter (·.type = type)).getLast?.toList)

/-- Lists with the same options of each type have the same options. -/
theorem mem_iff_of_filter_eq {tlvs tlvs' : List Tlv}
    (h : ∀ type, tlvs'.filter (·.type = type) = tlvs.filter (·.type = type)) (t : Tlv) :
    t ∈ tlvs' ↔ t ∈ tlvs := by
  have hmem : t ∈ tlvs'.filter (·.type = t.type) ↔ t ∈ tlvs.filter (·.type = t.type) := by
    rw [h]
  simpa only [List.mem_filter, decide_true, and_true] using hmem

/-- Options of different types can be sent in any order. -/
theorem permuted_foldlM {tlvs tlvs' : List Tlv}
    (h : ∀ type, tlvs'.filter (·.type = type) = tlvs.filter (·.type = type)) {d d' : MsgDecoded}
    (hok : tlvs.foldlM (fun acc t => t.applyOption acc) d = .ok d') :
    tlvs'.foldlM (fun acc t => t.applyOption acc) d = .ok d' := by
  rw [foldlM_applyOption_iff] at hok ⊢
  obtain ⟨haccepted, hd'⟩ := hok
  refine ⟨fun t ht => haccepted t ((mem_iff_of_filter_eq h t).mp ht), ?_⟩
  rw [List.foldl_eq_of_filter_eq update_comm h, hd']

theorem Rearranged.foldlM_applyOption {tlvs tlvs' : List Tlv} (h : Rearranged tlvs tlvs')
    {d d' : MsgDecoded} (hok : tlvs.foldlM (fun acc t => t.applyOption acc) d = .ok d') :
    tlvs'.foldlM (fun acc t => t.applyOption acc) d = .ok d' := by
  cases h with
  | inserted h => exact h.foldlM_applyOption hok
  | permuted h => exact permuted_foldlM h hok
  | superseded h =>
    simp only [← filter_lastOptions] at h
    refine permuted_foldlM h ?_
    rw [foldlM_applyOption_iff] at hok ⊢
    exact ⟨fun t ht => hok.1 t (mem_of_mem_lastOptions ht), (foldl_lastOptions tlvs d).trans hok.2⟩

theorem Rearranged.ne_nil {tlvs tlvs' : List Tlv} (h : Rearranged tlvs tlvs') (hne : tlvs ≠ []) :
    tlvs' ≠ [] := by
  have hfilter : ∀ l : List Tlv, l ≠ [] →
      (∀ type, tlvs'.filter (·.type = type) = l.filter (·.type = type)) → tlvs' ≠ [] := by
    intro l hl h
    obtain ⟨t, ht⟩ := List.exists_mem_of_ne_nil l hl
    exact List.ne_nil_of_mem ((mem_iff_of_filter_eq h t).mpr ht)
  cases h with
  | inserted h => exact h.ne_nil hne
  | permuted h => exact hfilter tlvs hne h
  | superseded h =>
    simp only [← filter_lastOptions] at h
    exact hfilter (lastOptions tlvs) (lastOptions_ne_nil hne) h

/-- A message of complete options that is accepted decodes to the same with unknown options
    inserted, with options of different types in another order, and without options whose
    type comes again.  (Of the header only the type is looked at.) -/
theorem msgDecode_rearranged (beyond beyond' : Nat → UInt8) {msg msg' : Dynar}
    {header header' : List UInt8} {tlvs tlvs' : List Tlv} {d : MsgDecoded}
    (hheader : header.length = 6) (hheader' : header'.length = 6)
    (htype : header'.take 2 = header.take 2)
    (hmsg : msg.data = header ++ tlvs.flatMap Tlv.bytes)
    (hmsg' : msg'.data = header' ++ tlvs'.flatMap Tlv.bytes) (hne : tlvs ≠ [])
    (h : Rearranged tlvs tlvs') (hok : (msgDecode beyond msg).result = .ok d) :
    (msgDecode beyond' msg').result = .ok d := by
  have hsame : msgGetType msg' = msgGetType msg := by
    rw [msgGetType, msgGetType, hmsg, hmsg', List.take_append_of_le_length (by omega),
      List.take_append_of_le_length (by omega), htype]
  -- What is decoded is a fold over the options, and rearranging does not change it.
  rw [msgDecode_eq_ok_iff beyond hheader hmsg hne, ← foldlM_applyOption_iff] at hok
  rw [msgDecode_eq_ok_iff beyond' hheader' hmsg' (h.ne_nil hne), ← foldlM_applyOption_iff, hsame]
  exact h.foldlM_applyOption hok

/-- The same echo request, with an option of type 99 before the sequence number. -/
def paddedEcho : Dynar := ⟨[0, 8, 0, 0, 0, 13, 0, 99, 0, 1, 5, 0, 0, 0, 4, 0, 0, 0, 1], 64⟩

theorem msgDecode_rearranged_echo :
    (msgDecode (fun _ => 0) paddedEcho).result = .ok { type := 8, seqNumber := some 1 } := by
  let number : Tlv := ⟨0, [0, 0, 0, 1], by decide⟩
  let unknown : Tlv := ⟨99, [5], by decide⟩
  have hmsg : numberedEcho.data = [0, 8, 0, 0, 0, 8] ++ [number].flatMap Tlv.bytes := by decide
  have hmsg' : paddedEcho.data = [0, 8, 0, 0, 0, 13] ++ [unknown, number].flatMap Tlv.bytes := by
    decide
  have hinserted : OptionsInserted [number] [unknown, number] :=
    .unknown unknown rfl (.same number .nil)
  exact msgDecode_rearranged (fun _ => 0) (fun _ => 0) rfl rfl (by decide) hmsg hmsg'
    (List.cons_ne_nil _ _) (.inserted hinserted) (by decide)

end Qdevice
