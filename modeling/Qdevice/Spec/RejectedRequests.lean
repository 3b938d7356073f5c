import Qdevice.Spec.RegistryRun

/-! # Requests that are answered with an error

INIT copies one option after the other into the client, also after an error, and SET_OPTION
keeps a heartbeat interval that the dead peer timer refuses.  So a rejected request can change the
client it comes from.  This file says exactly when it does not. -/

namespace Qdevice.Qnetd

/-- What a rejected INIT or SET_OPTION must leave as it is. -/
structure ClientOptions where
  nodeId : UInt32
  lastRingId : TlvRingId
  heartbeatInterval : UInt32
  dpdTimer : Option UInt32
  tieBreaker : TlvTieBreaker
  decisionAlgorithm : UInt16
  keepActivePartitionTieBreaker : TlvKeepActivePartitionTieBreaker
  cluster : Option ClusterId
deriving DecidableEq

def QnetdClient.options (client : QnetdClient) : ClientOptions where
  nodeId := client.nodeId
  lastRingId := client.lastRingId
  heartbeatInterval := client.heartbeatInterval
  dpdTimer := client.dpdTimer
  tieBreaker := client.tieBreaker
  decisionAlgorithm := client.decisionAlgorithm
  keepActivePartitionTieBreaker := client.keepActivePartitionTieBreaker
  cluster := client.cluster

/-- A server error, or an init reply with an error code. -/
def Reply.isError : Reply → Bool
  | .serverError _ _ => true
  | .initReply _ code _ _ => code ≠ .noError
  | _ => false

/-! ### The heartbeat interval -/

def HeartbeatInRange (settings : Settings) (interval : UInt32) : Prop :=
  settings.heartbeatIntervalMin ≤ interval ∧ interval ≤ settings.heartbeatIntervalMax

/-- The two fields `setHeartbeatInterval` writes, as it leaves them. -/
def heartbeatAfter (settings : Settings) (interval : UInt32) (client : QnetdClient) :
    UInt32 × Option UInt32 :=
  if interval < settings.heartbeatIntervalMin ∨ settings.heartbeatIntervalMax < interval then
    (client.heartbeatInterval, client.dpdTimer)
  else (interval, client.dpdTimer.map fun timer =>
    if timerListIntervalValid (settings.dpdInterval interval) then settings.dpdInterval interval
    else timer)

/-- An interval that leaves both as they are. -/
def HeartbeatKept (settings : Settings) (client : QnetdClient) (interval : UInt32) : Prop :=
  HeartbeatInRange settings interval → interval = client.heartbeatInterval ∧
    (timerListIntervalValid (settings.dpdInterval interval) = true →
      ∀ timer ∈ client.dpdTimer, timer = settings.dpdInterval interval)

section Heartbeat

variable {settings : Settings} {client : QnetdClient} {interval : UInt32}

theorem heartbeatInRange_iff : HeartbeatInRange settings interval ↔
    ¬ (interval < settings.heartbeatIntervalMin ∨ settings.heartbeatIntervalMax < interval) := by
  rw [HeartbeatInRange, not_or, UInt32.not_lt, UInt32.not_lt]

theorem setHeartbeatInterval_eq : (setHeartbeatInterval settings client interval).1 =
    { client with
      heartbeatInterval := (heartbeatAfter settings interval client).1
      dpdTimer := (heartbeatAfter settings interval client).2 } := by
  rw [setHeartbeatInterval, heartbeatAfter]
  split
  · rfl
  · cases client.dpdTimer with
    | none => simp only [qnetdClientDpdTimerUpdateInterval, Option.map_none]
    | some timer =>
      simp only [qnetdClientDpdTimerUpdateInterval, Option.map_some]
      cases hvalid : timerListIntervalValid (settings.dpdInterval interval) with
      | true => rfl
      | false => rfl

theorem setHeartbeatInterval_valid : (setHeartbeatInterval settings client interval).2 = true ↔
    HeartbeatAccepted settings client interval := by
  refine ⟨fun h => ?_, setHeartbeatInterval_accepted⟩
  rw [setHeartbeatInterval] at h
  split at h
  · cases h
  · next hrange =>
    obtain ⟨hmin, hmax⟩ := heartbeatInRange_iff.mpr hrange
    refine ⟨hmin, hmax, fun hsome => ?_⟩
    obtain ⟨timer, htimer⟩ := Option.isSome_iff_exists.mp hsome
    simp only [qnetdClientDpdTimerUpdateInterval, htimer] at h
    by_contra hinvalid
    simp [hinvalid] at h

theorem heartbeatAfter_eq_iff :
    heartbeatAfter settings interval client = (client.heartbeatInterval, client.dpdTimer) ↔
      HeartbeatKept settings client interval := by
  rw [heartbeatAfter, HeartbeatKept, heartbeatInRange_iff]
  split
  · next hrange => simp [hrange]
  · next hrange =>
    rw [imp_iff_right hrange, Prod.mk.injEq]
    refine and_congr_right fun _ => ?_
    cases client.dpdTimer with
    | none => simp
    | some timer =>
      simp only [Option.map_some, Option.some.injEq, Option.mem_def, forall_eq']
      split
      · next hvalid => simp [hvalid, eq_comm]
      · next hvalid => simp [hvalid]

/-- Of the intervals that are not accepted, those are kept that are within the limits. -/
theorem heartbeatKept_iff (h : ¬ HeartbeatAccepted settings client interval) :
    HeartbeatKept settings client interval ↔
      (HeartbeatInRange settings interval → interval = client.heartbeatInterval) := by
  refine forall_congr' fun hrange => and_iff_left fun hvalid _ _ => ?_
  exact absurd ⟨hrange.1, hrange.2, fun _ => hvalid⟩ h

theorem setHeartbeatInterval_options_iff :
    (setHeartbeatInterval settings client interval).1.options = client.options ↔
      HeartbeatKept settings client interval := by
  rw [← heartbeatAfter_eq_iff, setHeartbeatInterval_eq]
  simp only [QnetdClient.options, ClientOptions.mk.injEq, Prod.ext_iff, true_and, and_true]

end Heartbeat

/-! ### The options of INIT -/

section Options

variable (settings : Settings) (client : QnetdClient) (msg : MsgDecoded)

/-- PREINIT was received and INIT has a node id. -/
def InitNodeIdOk : Prop := client.preinitReceived = true ∧ msg.nodeId.isSome = true

/-- ... and a ring id. -/
def InitRingIdOk : Prop := InitNodeIdOk client msg ∧ msg.ringId.isSome = true

/-- ... and a heartbeat interval that is accepted. -/
def InitHeartbeatOk : Prop :=
  InitRingIdOk client msg ∧
    ∃ interval ∈ msg.heartbeatInterval, HeartbeatAccepted settings client interval

/-- ... and a tie-breaker. -/
def InitTieBreakerOk : Prop :=
  InitHeartbeatOk settings client msg ∧ msg.tieBreaker.isSome = true

def AlgorithmSupported (algorithm : UInt16) : Prop :=
  (qnetdStaticSupportedDecisionAlgorithms.any fun a => a.toUInt16 == algorithm) = true

/-- ... and a decision algorithm that is supported: nothing is wrong with its options. -/
def InitOptionsOk : Prop :=
  InitTieBreakerOk settings client msg ∧
    ∃ algorithm ∈ msg.decisionAlgorithm, AlgorithmSupported algorithm

/-- An option that is left as it is: it is missing and the first thing that is wrong, or it has
    the stored value (a missing option is zero). -/
def OptionKept {α : Type} (ok : Prop) (value : Option α) (zero stored : α) : Prop :=
  ok ∧ value = none ∨ value.getD zero = stored

/-- The options of an INIT with which everything stays as it is, should it be rejected. -/
structure InitKeeps : Prop where
  nodeId : OptionKept (client.preinitReceived = true) msg.nodeId 0 client.nodeId
  ringId : OptionKept (InitNodeIdOk client msg) msg.ringId .zero client.lastRingId
  heartbeatInterval : InitRingIdOk client msg ∧ msg.heartbeatInterval = none ∨
    HeartbeatKept settings client (msg.heartbeatInterval.getD 0)
  tieBreaker : OptionKept (InitHeartbeatOk settings client msg) msg.tieBreaker .zero
    client.tieBreaker
  decisionAlgorithm : OptionKept (InitTieBreakerOk settings client msg) msg.decisionAlgorithm 0
    client.decisionAlgorithm
  keepActivePartitionTieBreaker : InitOptionsOk settings client msg →
    settings.keepActivePartitionTieBreaker = client.keepActivePartitionTieBreaker

variable {settings client msg}

open Classical in
/-- The value of an option afterwards. -/
noncomputable def optionAfter {α : Type} (ok : Prop) (value : Option α) (zero stored : α) : α :=
  if ok ∧ value = none then stored else value.getD zero

theorem optionAfter_eq_iff {α : Type} {ok : Prop} {value : Option α} {zero stored : α} :
    optionAfter ok value zero stored = stored ↔ OptionKept ok value zero stored := by
  rw [optionAfter, OptionKept]
  split
  · next hmissing => exact iff_of_true rfl (.inl hmissing)
  · next hwritten => rw [or_iff_right hwritten]

open Classical in
/-- The heartbeat interval and the dead peer timer afterwards. -/
noncomputable def initHeartbeatAfter (settings : Settings) (client : QnetdClient)
    (msg : MsgDecoded) : UInt32 × Option UInt32 :=
  if InitRingIdOk client msg ∧ msg.heartbeatInterval = none then
    (client.heartbeatInterval, client.dpdTimer)
  else heartbeatAfter settings (msg.heartbeatInterval.getD 0) client

/-- The client and the error code after some options: there is no error as long as they are
    `ok`, and the client has the options `o`. -/
private structure Stage (ok : Prop) (o : ClientOptions) (acc : QnetdClient × TlvReplyErrorCode) :
    Prop where
  noError : acc.2 = .noError ↔ ok
  options : acc.1.options = o

/-- One more option. -/
private theorem Stage.option {α : Type} {ok ok' : Prop} {o o' : ClientOptions}
    {acc : QnetdClient × TlvReplyErrorCode} {value : Option α} {zero : α}
    {copy : α → QnetdClient × TlvReplyErrorCode → QnetdClient × TlvReplyErrorCode}
    (good : α → Prop) (hok : ok ∧ (∃ v ∈ value, good v) ↔ ok') (h : Stage ok o acc)
    (hcode : ∀ v, (copy v acc).2 = .noError ↔ acc.2 = .noError ∧ good v)
    (hmissing : ok ∧ value = none → o = o')
    (hwritten : ¬ (ok ∧ value = none) → (copy (value.getD zero) acc).1.options = o') :
    Stage ok' o' (initOption value zero copy acc) := by
  rw [initOption]
  split
  · next hif =>
    rw [h.noError, Option.isNone_iff_eq_none] at hif
    exact ⟨by simp [← hok, hif.2], h.options.trans (hmissing hif)⟩
  · next hif =>
    rw [h.noError, Option.isNone_iff_eq_none] at hif
    refine ⟨?_, hwritten hif⟩
    rw [hcode, h.noError, ← hok]
    refine and_congr_right fun hbefore => ?_
    obtain ⟨v, rfl⟩ := Option.ne_none_iff_exists'.mp fun hnone => hif ⟨hbefore, hnone⟩
    simp

/-- One more option that is copied into a field. -/
private theorem Stage.field {α : Type} {ok ok' : Prop} {o : ClientOptions}
    {acc : QnetdClient × TlvReplyErrorCode} (h : Stage ok o acc) (value : Option α) (zero : α)
    (copy : α → QnetdClient × TlvReplyErrorCode → QnetdClient × TlvReplyErrorCode)
    (good : α → Prop) (write : α → ClientOptions → ClientOptions) (stored : α)
    (hok : ok ∧ (∃ v ∈ value, good v) ↔ ok') (hstored : write stored o = o)
    (hcode : ∀ v, (copy v acc).2 = .noError ↔ acc.2 = .noError ∧ good v)
    (hwrite : ∀ v, (copy v acc).1.options = write v acc.1.options) :
    Stage ok' (write (optionAfter ok value zero stored) o) (initOption value zero copy acc) := by
  refine h.option good hok hcode (fun hmissing => ?_) fun hwritten => ?_
  · rw [optionAfter, if_pos hmissing, hstored]
  · rw [optionAfter, if_neg hwritten, hwrite, h.options]

private theorem and_exists_mem {α : Type} {ok : Prop} {value : Option α} :
    ok ∧ (∃ v ∈ value, True) ↔ ok ∧ value.isSome = true := by
  simp [Option.isSome_iff_exists]

private theorem noError_iff {valid : Bool} {code error : TlvReplyErrorCode}
    (herror : error ≠ .noError) :
    (if valid then code else error) = .noError ↔ code = .noError ∧ valid = true := by
  cases valid with
  | true => simp
  | false => simp [herror]

theorem initHeartbeatInterval_noError_iff {acc : QnetdClient × TlvReplyErrorCode}
    {interval : UInt32} :
    (initHeartbeatInterval settings interval acc).2 = .noError ↔
      acc.2 = .noError ∧ HeartbeatAccepted settings acc.1 interval := by
  rw [← setHeartbeatInterval_valid]
  exact noError_iff (fun h => by cases h)

theorem initDecisionAlgorithm_noError_iff {acc : QnetdClient × TlvReplyErrorCode}
    {algorithm : UInt16} :
    (initDecisionAlgorithm algorithm acc).2 = .noError ↔
      acc.2 = .noError ∧ AlgorithmSupported algorithm :=
  noError_iff (fun h => by cases h)

/-- The heartbeat interval. -/
private theorem Stage.heartbeat {o : ClientOptions} {acc : QnetdClient × TlvReplyErrorCode}
    (h : Stage (InitRingIdOk client msg) o acc)
    (hinterval : o.heartbeatInterval = client.heartbeatInterval)
    (htimer : o.dpdTimer = client.dpdTimer) :
    Stage (InitHeartbeatOk settings client msg)
      { o with
        heartbeatInterval := (initHeartbeatAfter settings client msg).1
        dpdTimer := (initHeartbeatAfter settings client msg).2 }
      (initOption msg.heartbeatInterval 0 (initHeartbeatInterval settings) acc) := by
  have hinterval' : acc.1.heartbeatInterval = client.heartbeatInterval :=
    (congrArg ClientOptions.heartbeatInterval h.options).trans hinterval
  have htimer' : acc.1.dpdTimer = client.dpdTimer :=
    (congrArg ClientOptions.dpdTimer h.options).trans htimer
  refine h.option (HeartbeatAccepted settings client) Iff.rfl (fun v => ?_)
    (fun hmissing => ?_) fun hwritten => ?_
  · rw [initHeartbeatInterval_noError_iff, HeartbeatAccepted, HeartbeatAccepted, htimer']
  · rw [initHeartbeatAfter, if_pos hmissing, ← hinterval, ← htimer]
  · rw [initHeartbeatAfter, if_neg hwritten, ← h.options]
    have hsame : heartbeatAfter settings (msg.heartbeatInterval.getD 0) acc.1 =
        heartbeatAfter settings (msg.heartbeatInterval.getD 0) client := by
      rw [heartbeatAfter, heartbeatAfter, hinterval', htimer']
    rw [initHeartbeatInterval, ← hsame]
    dsimp only
    rw [setHeartbeatInterval_eq]
    rfl

/-- All options that are copied. -/
private theorem stage_initCopyOptions :
    Stage (InitOptionsOk settings client msg)
      { client.options with
        nodeId := optionAfter (client.preinitReceived = true) msg.nodeId 0 client.nodeId
        lastRingId := optionAfter (InitNodeIdOk client msg) msg.ringId .zero client.lastRingId
        heartbeatInterval := (initHeartbeatAfter settings client msg).1
        dpdTimer := (initHeartbeatAfter settings client msg).2
        tieBreaker := optionAfter (InitHeartbeatOk settings client msg) msg.tieBreaker .zero
          client.tieBreaker
        decisionAlgorithm := optionAfter (InitTieBreakerOk settings client msg)
          msg.decisionAlgorithm 0 client.decisionAlgorithm }
      (initCopyOptions settings client msg) := by
  have hstart : Stage (client.preinitReceived = true) client.options
      (client, if client.preinitReceived then .noError else .preinitRequired) :=
    ⟨by cases client.preinitReceived <;> simp, rfl⟩
  have hnodeId := hstart.field msg.nodeId 0 initNodeId (fun _ => True)
    (fun nodeId o => { o with nodeId }) client.nodeId and_exists_mem rfl
    (fun _ => (and_iff_left trivial).symm) fun _ => rfl
  have hringId := hnodeId.field msg.ringId .zero initRingId (fun _ => True)
    (fun lastRingId o => { o with lastRingId }) client.lastRingId and_exists_mem rfl
    (fun _ => (and_iff_left trivial).symm) fun _ => rfl
  have hheartbeat := @Stage.heartbeat settings client msg _ _ hringId rfl rfl
  have htieBreaker := hheartbeat.field msg.tieBreaker .zero initTieBreaker (fun _ => True)
    (fun tieBreaker o => { o with tieBreaker }) client.tieBreaker and_exists_mem rfl
    (fun _ => (and_iff_left trivial).symm) fun _ => rfl
  exact htieBreaker.field msg.decisionAlgorithm 0 initDecisionAlgorithm AlgorithmSupported
    (fun decisionAlgorithm o => { o with decisionAlgorithm }) client.decisionAlgorithm Iff.rfl rfl
    (fun _ => initDecisionAlgorithm_noError_iff) fun _ => rfl

/-- There is no error code exactly if nothing is wrong with the options. -/
theorem initOptions_noError_iff :
    (initOptions settings client msg).2 = .noError ↔ InitOptionsOk settings client msg := by
  rw [← stage_initCopyOptions.noError, initOptions]
  split
  · next hnoError => exact iff_of_true hnoError hnoError
  · next herror => rfl

/-- The options of the client are as before exactly if the INIT keeps them. -/
theorem initOptions_options_iff :
    (initOptions settings client msg).1.options = client.options ↔
      InitKeeps settings client msg := by
  have hstage := @stage_initCopyOptions settings client msg
  have hheartbeat : initHeartbeatAfter settings client msg =
        (client.heartbeatInterval, client.dpdTimer) ↔
      InitRingIdOk client msg ∧ msg.heartbeatInterval = none ∨
        HeartbeatKept settings client (msg.heartbeatInterval.getD 0) := by
    rw [initHeartbeatAfter, ← heartbeatAfter_eq_iff]
    split
    · next hmissing => exact iff_of_true rfl (.inl hmissing)
    · next hwritten => rw [or_iff_right hwritten]
  have hfields : ∀ keep, { (initCopyOptions settings client msg).1.options with
        keepActivePartitionTieBreaker := keep } = client.options ↔
      OptionKept (client.preinitReceived = true) msg.nodeId 0 client.nodeId ∧
      OptionKept (InitNodeIdOk client msg) msg.ringId .zero client.lastRingId ∧
      (InitRingIdOk client msg ∧ msg.heartbeatInterval = none ∨
        HeartbeatKept settings client (msg.heartbeatInterval.getD 0)) ∧
      OptionKept (InitHeartbeatOk settings client msg) msg.tieBreaker .zero client.tieBreaker ∧
      OptionKept (InitTieBreakerOk settings client msg) msg.decisionAlgorithm 0
        client.decisionAlgorithm ∧ keep = client.keepActivePartitionTieBreaker := by
    intro keep
    rw [hstage.options]
    simp only [QnetdClient.options, ClientOptions.mk.injEq, optionAfter_eq_iff, ← hheartbeat,
      Prod.ext_iff, and_true, and_assoc]
  rw [initOptions]
  split
  · next hnoError =>
    have hok := hstage.noError.mp hnoError
    refine (hfields _).trans ⟨?_, fun h => ⟨h.nodeId, h.ringId, h.heartbeatInterval,
      h.tieBreaker, h.decisionAlgorithm, h.keepActivePartitionTieBreaker hok⟩⟩
    rintro ⟨h₁, h₂, h₃, h₄, h₅, h₆⟩
    exact ⟨h₁, h₂, h₃, h₄, h₅, fun _ => h₆⟩
  · next herror =>
    have hnot : ¬ InitOptionsOk settings client msg := hstage.noError.not.mp herror
    have hsame := hfields client.keepActivePartitionTieBreaker
    have hrefl : { (initCopyOptions settings client msg).1.options with
        keepActivePartitionTieBreaker := client.keepActivePartitionTieBreaker } =
        (initCopyOptions settings client msg).1.options := by
      rw [hstage.options]
      rfl
    rw [hrefl] at hsame
    refine hsame.trans ⟨?_, fun h => ⟨h.nodeId, h.ringId, h.heartbeatInterval, h.tieBreaker,
      h.decisionAlgorithm, rfl⟩⟩
    rintro ⟨h₁, h₂, h₃, h₄, h₅, -⟩
    exact ⟨h₁, h₂, h₃, h₄, h₅, fun h => absurd h hnot⟩

end Options

/-! ### Joining a cluster -/

/-- The cluster refuses the client with the options of this INIT, or there is no memory for a new
    one.  A client that is in the cluster already is its own duplicate. -/
def JoinRefused (env : Env) (inst : QnetdInstance) (client : QnetdClient) (msg : MsgDecoded) : Prop :=
  match client.clusterName.bind (qnetdClusterListFindByName inst.clusters) with
  | none => env.clusterAlloc = false
  | some entry => ∃ c ∈ (inst.cluster entry).clientList, c.id = client.id ∨
      tlvTieBreakerEq (msg.tieBreaker.getD .zero) c.tieBreaker = false ∨
      msg.decisionAlgorithm.getD 0 ≠ c.decisionAlgorithm ∨ msg.nodeId.getD 0 = c.nodeId

section Join

variable {settings : Settings} {inst : QnetdInstance} {client client' : QnetdClient}
  {msg : MsgDecoded}

/-- The check of the cluster, once the options are in the client. -/
theorem checkNewClient_initOptions (hlinked : inst.registry.Linked) (hmem : client ∈ inst.clients)
    (htls : qnetdClientMsgReceivedCheckTls settings client = .success client')
    (hok : (initOptions settings client' msg).2 = .noError) (entry : ClusterEntry) :
    let c₁ := (initOptions settings client' msg).1
    qnetdClientMsgReceivedInitCheckNewClient c₁
        ((inst.modifyClient c₁.id fun _ => c₁).cluster entry).clientList = .noError ↔
      ∀ c ∈ (inst.cluster entry).clientList, c.id ≠ client.id ∧
        tlvTieBreakerEq (msg.tieBreaker.getD .zero) c.tieBreaker = true ∧
        msg.decisionAlgorithm.getD 0 = c.decisionAlgorithm ∧ msg.nodeId.getD 0 ≠ c.nodeId := by
  obtain ⟨hid, -, hlinked₁, hmem₁⟩ := linked_initOptions hlinked msg hmem htls
  obtain ⟨nodeId, ringId, tieBreaker, algorithm, hb, dpd, hnode, hring, htb, halg, -, -, hclient⟩ :=
    initOptions_noError hok
  have hfields : (initOptions settings client' msg).1.nodeId = nodeId ∧
      (initOptions settings client' msg).1.tieBreaker = tieBreaker ∧
      (initOptions settings client' msg).1.decisionAlgorithm = algorithm := by
    rw [hclient]
    exact ⟨rfl, rfl, rfl⟩
  dsimp only at *
  generalize (initOptions settings client' msg).1 = c₁ at hid hlinked₁ hmem₁ hfields ⊢
  obtain ⟨rfl, rfl, rfl⟩ := hfields
  rw [checkNewClient_eq_noError]
  simp only [mem_cluster hlinked, mem_cluster hlinked₁, hnode, htb, halg, Option.getD_some]
  constructor
  · rintro h c ⟨hc, hentry⟩
    by_cases hcid : c.id = client.id
    · -- the client itself is in the list, with its new node id
      have hself := h c₁ ⟨hmem₁, by rwa [hid, ← hcid]⟩
      exact absurd rfl hself.2.2
    · have hc₁ : c ∈ (inst.modifyClient c₁.id fun _ => c₁).clients :=
        List.mem_map.mpr ⟨c, hc, if_neg (hid ▸ hcid)⟩
      exact ⟨hcid, h c ⟨hc₁, hentry⟩⟩
  · rintro h c ⟨hc, hentry⟩
    obtain ⟨d, hd, hcd⟩ := List.mem_map.mp hc
    by_cases hdid : d.id = c₁.id
    · have hself : c₁ = c := by rwa [if_pos hdid] at hcd
      exact absurd (hdid.trans hid) (h d ⟨hd, by rwa [hdid, hself]⟩).1
    · rw [if_neg hdid] at hcd
      subst hcd
      exact (h d ⟨hd, hentry⟩).2

theorem initJoin_refused {cluster : QnetdCluster} {c : QnetdClient}
    (h : qnetdClientMsgReceivedInitCheckNewClient c cluster.clientList ≠ .noError) :
    initJoin cluster c = (cluster, qnetdClientMsgReceivedInitCheckNewClient c cluster.clientList) := by
  rw [initJoin]
  split
  · next hnoError => exact absurd hnoError h
  · rfl

theorem initJoin_accepted {cluster : QnetdCluster} {c : QnetdClient}
    (halgorithm : (qnetdAlgorithmArray c.decisionAlgorithm).isSome = true)
    (h : qnetdClientMsgReceivedInitCheckNewClient c cluster.clientList = .noError) :
    (initJoin cluster c).2 = .noError := by
  obtain ⟨hrefused, -⟩ | ⟨-, -, hcode, -⟩ := initJoin_cases cluster c halgorithm
  · exact absurd h hrefused
  · exact hcode

/-- An INIT whose options are accepted: it is refused and adds nothing, or it is accepted (or
    the server aborts). -/
theorem initAddClient_refused (env : Env) (hlinked : inst.registry.Linked)
    (hmem : client ∈ inst.clients)
    (htls : qnetdClientMsgReceivedCheckTls settings client = .success client')
    (hok : (initOptions settings client' msg).2 = .noError) :
    let c₁ := (initOptions settings client' msg).1
    let inst₁ := inst.modifyClient c₁.id fun _ => c₁
    JoinRefused env inst client msg ∧
        (∃ code, initAddClient env inst₁ c₁ = .ok (inst₁, code) ∧ code ≠ .noError) ∨
      ¬ JoinRefused env inst client msg ∧
        ∀ inst₂ code, initAddClient env inst₁ c₁ = .ok (inst₂, code) → code = .noError := by
  have hcheck := checkNewClient_initOptions hlinked hmem htls hok
  obtain ⟨hid, -, hlinked₁, hmem₁⟩ := linked_initOptions hlinked msg hmem htls
  obtain ⟨_, _, _, _, _, _, -, -, -, -, hsupported, -, hclient⟩ := initOptions_noError hok
  have hname : (initOptions settings client' msg).1.clusterName = client.clusterName := by
    rw [hclient]
    rcases checkTls_success htls with rfl | ⟨_, _, _, _, _, rfl⟩ <;> rfl
  have halgorithm : (qnetdAlgorithmArray
      (initOptions settings client' msg).1.decisionAlgorithm).isSome = true := by
    rw [hclient]
    exact hsupported
  dsimp only at *
  generalize (initOptions settings client' msg).1 = c₁ at *
  rw [initAddClient, JoinRefused, hname]
  cases client.clusterName with
  | none =>
    rw [Option.bind_none]
    cases env.clusterAlloc with
    | true => exact .inr ⟨(fun h => by cases h), fun _ _ h => by cases h⟩
    | false => exact .inl ⟨rfl, _, rfl, (fun h => by cases h)⟩
  | some name =>
    rw [Option.bind_some]
    have hclusters : (inst.modifyClient c₁.id fun _ => c₁).clusters = inst.clusters := rfl
    dsimp only
    rw [qnetdClusterListAddCluster, hclusters]
    cases hfound : qnetdClusterListFindByName inst.clusters name with
    | none =>
      dsimp only
      cases env.clusterAlloc with
      | false => exact .inl ⟨rfl, _, rfl, (fun h => by cases h)⟩
      | true =>
        -- nobody is in a new cluster
        refine .inr ⟨(fun h => by cases h), fun inst₂ code h => ?_⟩
        rw [if_pos rfl] at h
        dsimp only at h
        split at h
        · cases h
        · obtain ⟨-, rfl⟩ := Prod.mk.inj (Except.ok.inj h)
          exact initJoin_accepted halgorithm rfl
    | some entry =>
      dsimp only
      by_cases hjoin : qnetdClientMsgReceivedInitCheckNewClient c₁
          ((inst.modifyClient c₁.id fun _ => c₁).cluster entry).clientList = .noError
      · refine .inr ⟨?_, fun inst₂ code h => ?_⟩
        · rintro ⟨c, hc, hwrong⟩
          obtain ⟨h₁, h₂, h₃, h₄⟩ := (hcheck entry).mp hjoin c hc
          rw [h₂] at hwrong
          simp [h₁, h₃, h₄] at hwrong
        · split at h
          · cases h
          · obtain ⟨-, rfl⟩ := Prod.mk.inj (Except.ok.inj h)
            exact initJoin_accepted halgorithm hjoin
      · have hentry : entry ∈ (inst.modifyClient c₁.id fun _ => c₁).clusters :=
          List.mem_of_find?_eq_some hfound
        refine .inl ⟨?_, _, ?_, hjoin⟩
        · by_contra hnone
          refine hjoin ((hcheck entry).mpr fun c hc => ?_)
          have hright : ¬ (c.id = client.id ∨
              tlvTieBreakerEq (msg.tieBreaker.getD .zero) c.tieBreaker = false ∨
              msg.decisionAlgorithm.getD 0 ≠ c.decisionAlgorithm ∨ msg.nodeId.getD 0 = c.nodeId) :=
            fun hwrong => hnone ⟨c, hc, hwrong⟩
          simpa only [not_or, ne_eq, not_not, Bool.not_eq_false] using hright
        · rw [if_neg fun h => hjoin h.1, initJoin_refused hjoin]
          dsimp only
          rw [storeCluster_cluster hlinked₁ hentry]

end Join

/-! ### Rejected requests -/

section Rejected

variable (settings : Settings) (env : Env) (inst : QnetdInstance) (client : QnetdClient)
  (msg : MsgDecoded)

/-- If the message is answered with an error, its sender and its place in the clusters are the
    same afterwards. -/
def RejectedUnchanged : Prop :=
  ∀ res reply, instanceMessage settings env inst client.id msg = .ok res →
    res.reply = some reply → reply.isError = true →
    (res.inst.client? client.id).map QnetdClient.options = some client.options ∧
      res.inst.registry.clusters = inst.registry.clusters

/-- When a message that is read, from a peer that is let in, and whose answer can be sent, leaves
    the client as it is if it is rejected: an INIT that is wrong or refused by the cluster carries
    the options the client has, and a SET_OPTION whose heartbeat interval is within the limits
    but too long or too short for the dead peer timer repeats the interval the client has. -/
structure RejectionKeeps : Prop where
  init : MsgType.ofUInt16? msg.type = some .init →
    (InitOptionsOk settings client msg → JoinRefused env inst client msg) →
    InitKeeps settings client msg
  setOption : MsgType.ofUInt16? msg.type = some .setOption → client.initReceived = true →
    ∀ interval ∈ msg.heartbeatInterval, HeartbeatInRange settings interval →
      ¬ HeartbeatAccepted settings client interval → interval = client.heartbeatInterval

variable {settings env inst client msg}

/-- Which options are right does not depend on the TLS check. -/
theorem checkTls_initKeeps {client' : QnetdClient} (msg : MsgDecoded)
    (htls : qnetdClientMsgReceivedCheckTls settings client = .success client') :
    client'.options = client.options ∧ client'.initReceived = client.initReceived ∧
      (InitOptionsOk settings client' msg ↔ InitOptionsOk settings client msg) ∧
      (InitKeeps settings client' msg ↔ InitKeeps settings client msg) ∧
      ∀ interval, HeartbeatAccepted settings client' interval ↔
        HeartbeatAccepted settings client interval := by
  rcases checkTls_success htls with rfl | ⟨_, _, _, _, _, rfl⟩
  · exact ⟨rfl, rfl, Iff.rfl, Iff.rfl, fun _ => Iff.rfl⟩
  · exact ⟨rfl, rfl, Iff.rfl, ⟨fun h => { h with }, fun h => { h with }⟩, fun _ => Iff.rfl⟩

variable (hlinked : inst.registry.Linked) (hmem : client ∈ inst.clients)

include hlinked hmem

/-- The client after INIT has copied its options. -/
theorem client?_initOptions (msg : MsgDecoded) {client' : QnetdClient}
    (htls : qnetdClientMsgReceivedCheckTls settings client = .success client') :
    let c₁ := (initOptions settings client' msg).1
    (inst.modifyClient c₁.id fun _ => c₁).client? client.id = some c₁ := by
  obtain ⟨hid, -, hlinked₁, hmem₁⟩ := linked_initOptions hlinked msg hmem htls
  rw [← hid]
  exact client?_of_mem hlinked₁ hmem₁

/-- INIT: what the answer is, and what is left behind if it is an error. -/
theorem init_rejected (env : Env) (msg : MsgDecoded) {client' : QnetdClient}
    (htls : qnetdClientMsgReceivedCheckTls settings client = .success client') :
    (InitOptionsOk settings client msg → JoinRefused env inst client msg) ∧
        (∃ code, code ≠ .noError ∧ qnetdClientMsgReceivedInit settings env inst client msg =
          .ok (sendInitReply env (inst.modifyClient (initOptions settings client' msg).1.id
            fun _ => (initOptions settings client' msg).1) (initOptions settings client' msg).1
            msg code)) ∨
      ¬ (InitOptionsOk settings client msg → JoinRefused env inst client msg) ∧
        ∀ res, qnetdClientMsgReceivedInit settings env inst client msg = .ok res →
          ∀ reply ∈ res.reply, reply.isError = false := by
  obtain ⟨-, -, hoptions, -, -⟩ := checkTls_initKeeps msg htls
  have hnoError := @initOptions_noError_iff settings client' msg
  rw [hoptions] at hnoError
  rw [qnetdClientMsgReceivedInit, htls]
  dsimp only
  by_cases hok : (initOptions settings client' msg).2 = .noError
  · rw [if_pos hok, imp_iff_right (hnoError.mp hok)]
    obtain ⟨hrefused, code, hadd, hcode⟩ | ⟨haccepted, hadd⟩ :=
      initAddClient_refused env hlinked hmem htls hok
    · exact .inl ⟨hrefused, code, hcode, by rw [hadd]⟩
    · refine .inr ⟨haccepted, fun res hres reply hreply => ?_⟩
      split at hres
      · cases hres
      · next inst₂ code hadd' =>
        obtain rfl := hadd _ _ hadd'
        obtain rfl := Except.ok.inj hres
        rw [sendInitReply] at hreply
        split at hreply
        · obtain rfl := Option.some.inj hreply
          rfl
        · cases hreply
  · rw [if_neg hok]
    exact .inl ⟨fun h => absurd (hnoError.mpr h) hok, _, hok, rfl⟩

/-- Writing back the cluster of a client, with the client changed in it. -/
theorem storeCluster_write {client₁ : QnetdClient} (hid : client₁.id = client.id) :
    let inst₁ := inst.storeCluster (inst.clusterOf client).id
      ((inst.clusterOf client).modifyClient client.id fun _ => client₁)
    inst₁.client? client.id = some client₁ ∧ inst₁.registry.clusters = inst.registry.clusters := by
  have hwindow := window_clusterOf hlinked hmem
  have hregistry := registry_storeCluster_window hlinked hwindow hid rfl
  refine ⟨?_, by rw [hregistry]; rfl⟩
  let cluster₁ := (inst.clusterOf client).modifyClient client.id fun _ => client₁
  have hstored : ∀ d ∈ cluster₁.client? client.id, d = client₁ := by
    intro d hd
    obtain ⟨c, -, ⟨-, rfl⟩ | ⟨hne, rfl⟩⟩ := mem_modifyClient (Qdevice.Qnetd.client?_mem hd)
    · rfl
    · exact absurd (Qdevice.Qnetd.client?_id hd) hne
  have hfound : cluster₁.client? client.id = some client₁ := by
    have hsome : (cluster₁.client? client.id).isSome = true := by
      rw [QnetdCluster.client?, List.find?_isSome]
      exact ⟨client₁, List.mem_map.mpr ⟨client, hwindow.mem, if_pos rfl⟩, beq_iff_eq.mpr hid⟩
    obtain ⟨d, hd⟩ := Option.isSome_iff_exists.mp hsome
    rw [hd, hstored d hd]
  have hids : ∀ c : QnetdClient, ((cluster₁.client? c.id).getD c).id = c.id := by
    intro c
    cases hc : cluster₁.client? c.id with
    | none => rfl
    | some d => exact Qdevice.Qnetd.client?_id hc
  have hfind : (inst.storeCluster (inst.clusterOf client).id cluster₁).client? client.id =
      (inst.client? client.id).map fun c => (cluster₁.client? c.id).getD c := by
    simp only [QnetdInstance.client?, QnetdInstance.storeCluster, List.find?_map,
      Function.comp_def, hids]
  rw [hfind, client?_of_mem hlinked hmem, Option.map_some, hfound, Option.getD_some]

/-- INIT. -/
theorem init_unchanged_iff (htype : MsgType.ofUInt16? msg.type = some .init)
    (hsched : client.scheduleDisconnect = false)
    {client' : QnetdClient}
    (htls : qnetdClientMsgReceivedCheckTls settings client = .success client')
    (hqueued : env.replyQueued = true) :
    RejectedUnchanged settings env inst client msg ↔
      ((InitOptionsOk settings client msg → JoinRefused env inst client msg) →
        InitKeeps settings client msg) := by
  have hclient := client?_of_mem hlinked hmem
  have hmessage : instanceMessage settings env inst client.id msg =
      qnetdClientMsgReceivedInit settings env inst client msg := by
    rw [instanceMessage, hclient]
    simp only [hsched, qnetdClientMsgReceived, htype]
    rfl
  obtain ⟨hoptions, -, -, hkeeps, -⟩ := checkTls_initKeeps msg htls
  obtain ⟨-, hregistry, -⟩ := linked_initOptions hlinked msg hmem htls
  have hafter := client?_initOptions hlinked hmem msg htls
  rw [RejectedUnchanged, hmessage, ← hkeeps, ← initOptions_options_iff, hoptions]
  obtain ⟨hrejected, code, hcode, hres⟩ | ⟨haccepted, hres⟩ :=
    init_rejected hlinked hmem env msg htls
  · rw [imp_iff_right hrejected, hres, sendInitReply, if_pos hqueued]
    constructor
    · intro h
      obtain ⟨hsame, -⟩ := h _ _ rfl rfl (decide_eq_true hcode)
      rw [hafter] at hsame
      exact Option.some.inj hsame
    · intro hsame res reply hres' _ _
      obtain rfl := Except.ok.inj hres'
      rw [hafter, hregistry, Option.map_some, hsame]
      exact ⟨rfl, rfl⟩
  · refine iff_of_true (fun res reply hok hreply herror => ?_)
      fun hrejected => absurd hrejected haccepted
    rw [hres res hok reply hreply] at herror
    cases herror

omit hlinked hmem in
/-- The answers of SET_OPTION to a client that has sent INIT. -/
theorem setOption_cases (env : Env) (cluster : QnetdCluster) (msg : MsgDecoded)
    {client' : QnetdClient}
    (htls : qnetdClientMsgReceivedCheckTls settings client = .success client')
    (hinit : client'.initReceived = true) :
    ((setOptionHeartbeatInterval settings client' msg.heartbeatInterval).2 = false ∧
        qnetdClientMsgReceivedSetOption settings env cluster client msg =
          .ok (qnetdClientSendErr env (cluster.modifyClient client.id fun _ =>
            (setOptionHeartbeatInterval settings client' msg.heartbeatInterval).1) [] msg
              .invalidHeartbeatInterval)) ∨
      (setOptionHeartbeatInterval settings client' msg.heartbeatInterval).2 = true ∧
        ∃ cluster' interval keep, qnetdClientMsgReceivedSetOption settings env cluster client msg =
          .ok (sendReply env cluster' [] (.setOptionReply msg.seqNumber interval keep)) := by
  have hid' := checkTls_id htls
  have hid : (setOptionHeartbeatInterval settings client' msg.heartbeatInterval).1.id =
      client.id := by
    cases msg.heartbeatInterval with
    | none => exact hid'
    | some interval =>
      rw [setOptionHeartbeatInterval, setHeartbeatInterval_eq]
      exact hid'
  rw [qnetdClientMsgReceivedSetOption, withInitReceived, withCheckTls, htls]
  dsimp only
  rw [if_neg (by rw [hinit]; exact Bool.noConfusion)]
  cases hvalid : (setOptionHeartbeatInterval settings client' msg.heartbeatInterval).2 with
  | false =>
    refine .inl ⟨rfl, ?_⟩
    rw [if_pos rfl, hid, modifyClient_modifyClient _ _ _ _ fun _ _ => hid']
  | true => exact .inr ⟨rfl, _, _, _, if_neg Bool.noConfusion⟩

/-- SET_OPTION. -/
theorem setOption_unchanged_iff (htype : MsgType.ofUInt16? msg.type = some .setOption)
    (hsched : client.scheduleDisconnect = false) {client' : QnetdClient}
    (htls : qnetdClientMsgReceivedCheckTls settings client = .success client')
    (hqueued : env.replyQueued = true) :
    RejectedUnchanged settings env inst client msg ↔
      (client.initReceived = true → ∀ interval ∈ msg.heartbeatInterval,
        HeartbeatInRange settings interval → ¬ HeartbeatAccepted settings client interval →
          interval = client.heartbeatInterval) := by
  obtain ⟨hoptions, hinit, -, -, haccepted⟩ := checkTls_initKeeps msg htls
  have hid := checkTls_id htls
  have hmessage : ∀ {cluster₁ : QnetdCluster} {reply : Reply},
      qnetdClientMsgReceivedSetOption settings env (inst.clusterOf client) client msg =
        .ok (sendReply env cluster₁ [] reply) →
      instanceMessage settings env inst client.id msg =
        .ok { inst := inst.storeCluster (inst.clusterOf client).id cluster₁, reply := some reply } := by
    intro cluster₁ reply hres
    rw [instanceMessage, client?_of_mem hlinked hmem]
    simp only [hsched, qnetdClientMsgReceived, htype, qnetdClientMsgHandler?, hres, sendReply,
      hqueued, Bool.false_eq_true, ↓reduceIte]
  -- an error leaves some client behind, and the question is whether it has the same options
  have herror : ∀ {client₁ : QnetdClient} {code : TlvReplyErrorCode}, client₁.id = client.id →
      qnetdClientMsgReceivedSetOption settings env (inst.clusterOf client) client msg =
        .ok (qnetdClientSendErr env ((inst.clusterOf client).modifyClient client.id
          fun _ => client₁) [] msg code) →
      (RejectedUnchanged settings env inst client msg ↔ client₁.options = client.options) := by
    intro client₁ code hid₁ hres
    obtain ⟨hclient₁, hclusters⟩ := storeCluster_write hlinked hmem hid₁
    rw [RejectedUnchanged, hmessage hres]
    constructor
    · intro h
      obtain ⟨hsame, -⟩ := h _ _ rfl rfl rfl
      rw [hclient₁] at hsame
      exact Option.some.inj hsame
    · intro hsame res reply hres' _ _
      obtain rfl := Except.ok.inj hres'
      rw [hclient₁, Option.map_some, hsame]
      exact ⟨rfl, hclusters⟩
  by_cases hinit' : client.initReceived = true
  · rw [imp_iff_right hinit']
    obtain ⟨hvalid, hres⟩ | ⟨hvalid, cluster₁, interval₁, keep, hres⟩ :=
      setOption_cases env (inst.clusterOf client) msg htls (hinit.trans hinit')
    · cases hinterval : msg.heartbeatInterval with
      | none => simp [hinterval, setOptionHeartbeatInterval] at hvalid
      | some interval =>
        rw [hinterval, setOptionHeartbeatInterval] at hvalid hres
        have hrefused : ¬ HeartbeatAccepted settings client' interval := fun h =>
          Bool.noConfusion (hvalid.symm.trans (setHeartbeatInterval_accepted h))
        have hid₁ : (setHeartbeatInterval settings client' interval).1.id = client.id := by
          rw [setHeartbeatInterval_eq]
          exact hid
        have hhb : client'.heartbeatInterval = client.heartbeatInterval :=
          congrArg ClientOptions.heartbeatInterval hoptions
        rw [herror hid₁ hres, ← hoptions, setHeartbeatInterval_options_iff,
          heartbeatKept_iff hrefused, hhb]
        rw [haccepted] at hrefused
        simp [hrefused]
    · -- there is no error
      refine iff_of_true (fun res reply hres' hreply herror => ?_)
        fun interval hinterval _ hrefused => ?_
      · rw [hmessage hres] at hres'
        obtain rfl := Except.ok.inj hres'
        obtain rfl := Option.some.inj hreply
        cases herror
      · rw [Option.mem_def.mp hinterval, setOptionHeartbeatInterval, setHeartbeatInterval_valid,
          haccepted] at hvalid
        exact absurd hvalid hrefused
  · have hres : qnetdClientMsgReceivedSetOption settings env (inst.clusterOf client) client msg =
        .ok (qnetdClientSendErr env ((inst.clusterOf client).modifyClient client.id
          fun _ => client') [] msg .initRequired) := by
      rw [qnetdClientMsgReceivedSetOption, withInitReceived, withCheckTls, htls]
      dsimp only
      rw [if_pos (hinit.trans (Bool.eq_false_iff.mpr hinit'))]
    exact (herror hid hres).trans (iff_of_true hoptions fun h => absurd h hinit')

omit hlinked hmem in
theorem sendInitReply_unqueued {inst : QnetdInstance} (hqueued : env.replyQueued = false)
    (code : TlvReplyErrorCode) : (sendInitReply env inst client msg code).reply = none := by
  rw [sendInitReply, hqueued]
  rfl

omit hlinked hmem in
/-- Without a send buffer INIT has no answer. -/
theorem init_unqueued {res : InstanceHandled} (hqueued : env.replyQueued = false)
    (h : qnetdClientMsgReceivedInit settings env inst client msg = .ok res) : res.reply = none := by
  rw [qnetdClientMsgReceivedInit] at h
  split at h
  · rw [hqueued] at h
    obtain rfl := Except.ok.inj h
    rfl
  · obtain rfl := Except.ok.inj h
    rfl
  · dsimp only at h
    split at h
    · split at h
      · cases h
      · obtain rfl := Except.ok.inj h
        exact sendInitReply_unqueued hqueued _
    · obtain rfl := Except.ok.inj h
      exact sendInitReply_unqueued hqueued _

omit hlinked hmem in
/-- Without a send buffer SET_OPTION has no answer. -/
theorem setOption_unqueued {cluster : QnetdCluster} {res : Handled}
    (hqueued : env.replyQueued = false)
    (h : qnetdClientMsgReceivedSetOption settings env cluster client msg = .ok res) :
    res.reply = none := by
  have hsend : ∀ cluster reply, (sendReply env cluster [] reply).reply = none := by
    intro cluster reply
    rw [sendReply, hqueued]
    rfl
  rw [qnetdClientMsgReceivedSetOption, withInitReceived, withCheckTls] at h
  split at h
  · obtain rfl := Except.ok.inj h
    exact hsend _ _
  · obtain rfl := Except.ok.inj h
    rfl
  · split at h
    · obtain rfl := Except.ok.inj h
      exact hsend _ _
    · dsimp only at h
      split at h
      · obtain rfl := Except.ok.inj h
        exact hsend _ _
      · obtain rfl := Except.ok.inj h
        exact hsend _ _

omit hlinked hmem in
theorem unqueued_reply
    (htype : MsgType.ofUInt16? msg.type = some .init ∨ MsgType.ofUInt16? msg.type = some .setOption)
    (hqueued : env.replyQueued = false) {res : InstanceHandled}
    (h : qnetdClientMsgReceived settings env inst client msg = .ok res) : res.reply = none := by
  rw [qnetdClientMsgReceived] at h
  obtain htype | htype := htype
  · rw [htype] at h
    exact init_unqueued hqueued h
  · rw [htype] at h
    dsimp only [qnetdClientMsgHandler?] at h
    split at h
    · cases h
    · next handled hhandled =>
      obtain rfl := Except.ok.inj h
      exact setOption_unqueued hqueued hhandled

/-- A peer that is not let in changes nothing. -/
theorem unchanged_of_checkTls
    (htype : MsgType.ofUInt16? msg.type = some .init ∨ MsgType.ofUInt16? msg.type = some .setOption)
    (htls : (qnetdClientMsgReceivedCheckTls settings client).isSuccess = false) {res : InstanceHandled}
    (h : qnetdClientMsgReceived settings env inst client msg = .ok res) :
    res.reply = none ∨ res.inst.client? client.id = some client ∧
      res.inst.registry.clusters = inst.registry.clusters := by
  rw [qnetdClientMsgReceived] at h
  obtain htype | htype := htype
  · rw [htype] at h
    dsimp only [qnetdClientMsgHandler?] at h
    rw [qnetdClientMsgReceivedInit] at h
    split at h
    · obtain rfl := Except.ok.inj h
      split
      · exact .inr ⟨client?_of_mem hlinked hmem, rfl⟩
      · exact .inl rfl
    · obtain rfl := Except.ok.inj h
      exact .inl rfl
    · next client' hsuccess =>
      rw [hsuccess] at htls
      cases htls
  · rw [htype] at h
    dsimp only [qnetdClientMsgHandler?] at h
    rw [qnetdClientMsgReceivedSetOption, withInitReceived, withCheckTls] at h
    have hwindow := window_clusterOf hlinked hmem
    have hsame : (inst.clusterOf client).modifyClient client.id (fun _ => client) =
        inst.clusterOf client := by
      rw [← modifyClient_eq_write (fun c hc hid => eq_of_id hlinked (hwindow.sub c hc) hmem hid)
        (fun c => c), modifyClient_id]
    obtain ⟨hclient, hclusters⟩ := @storeCluster_write inst client hlinked hmem client rfl
    rw [hsame] at hclient hclusters
    cases htls' : qnetdClientMsgReceivedCheckTls settings client with
    | tlsRequired =>
      rw [htls', qnetdClientSendErr, sendReply] at h
      obtain rfl := Except.ok.inj h
      split
      · exact .inr ⟨hclient, hclusters⟩
      · exact .inl rfl
    | disconnect =>
      rw [htls'] at h
      obtain rfl := Except.ok.inj h
      exact .inl rfl
    | success client' =>
      rw [htls'] at htls
      cases htls

end Rejected

end Qdevice.Qnetd
