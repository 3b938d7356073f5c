import Qdevice.Spec.InstanceCases

/-! # The registry over whole runs

In every run of the instance the pointers between clients and clusters stay in order, whatever
the peers send.  That the clients of one cluster belong together is not kept by every
run: INIT writes its options into the client before it checks them and PREINIT replaces
the cluster name at any time, also for a client that is registered already.  It is kept
by the runs in which registered clients do neither. -/

namespace Qdevice.Qnetd

/-- The runs of an instance; they end when the server aborts. -/
def instanceMachine (settings : Settings) :
    Runs.Machine QnetdInstance (Env × InstanceEvent) where
  init := {}
  step inst e :=
    match instanceStep settings e.1 inst e.2 with
    | .error _ => none
    | .ok res => some res.inst

theorem instanceMachine_step {settings : Settings} {inst inst' : QnetdInstance}
    {e : Env × InstanceEvent} (h : (instanceMachine settings).step inst e = some inst') :
    ∃ res, instanceStep settings e.1 inst e.2 = .ok res ∧ res.inst = inst' := by
  simp only [instanceMachine] at h
  split at h
  · cases h
  · next res hres => exact ⟨res, hres, Option.some.inj h⟩

/-! ### Pointers -/

theorem checkTls_fixed {settings : Settings} {client client' : QnetdClient}
    (htls : qnetdClientMsgReceivedCheckTls settings client = .success client') :
    ∃ verified, client'.fixed = { client.fixed with tlsPeerCertificateVerified := verified } := by
  rcases checkTls_success htls with rfl | ⟨_, _, _, _, _, rfl⟩
  · exact ⟨client'.tlsPeerCertificateVerified, rfl⟩
  · exact ⟨true, rfl⟩

/-- All that INIT writes before it checks anything. -/
theorem options_fixed {settings : Settings} {client client' : QnetdClient} (msg : MsgDecoded)
    (htls : qnetdClientMsgReceivedCheckTls settings client = .success client') :
    ∃ verified nodeId tieBreaker decisionAlgorithm, (initOptions settings client' msg).1.fixed =
      { client.fixed with
        tlsPeerCertificateVerified := verified, nodeId, tieBreaker, decisionAlgorithm } := by
  obtain ⟨verified, hverified⟩ := checkTls_fixed htls
  obtain ⟨nodeId, tb, alg, hfixed⟩ := fixed_initOptions settings client' msg
  exact ⟨verified, nodeId, tb, alg, by rw [hfixed, hverified]⟩

/-- No message changes the identity, the cluster pointer or the flags of a client without
    registering it. -/
theorem ClientWrite.links {settings : Settings} {env : Env} {type : MsgType} {msg : MsgDecoded}
    {client client' : QnetdClient} (h : ClientWrite settings env type msg client client') :
    client'.fixed.id = client.fixed.id ∧ client'.fixed.cluster = client.fixed.cluster ∧
      client'.fixed.initReceived = client.fixed.initReceived ∧
      (client.fixed.preinitReceived = true → client'.fixed.preinitReceived = true) := by
  cases h with
  | handshake h =>
    cases h with
    | same => exact ⟨rfl, rfl, rfl, id⟩
    | preinit htype hname => exact ⟨rfl, rfl, rfl, fun hpre => (Bool.or_eq_true _ _).mpr (.inr hpre)⟩
    | starttls htype hpre cert => exact ⟨rfl, rfl, rfl, id⟩
    | checked client' htls =>
      obtain ⟨_, hfixed⟩ := checkTls_fixed htls
      rw [hfixed]
      exact ⟨rfl, rfl, rfl, id⟩
  | options client₁ htype htls =>
    obtain ⟨_, _, _, _, hfixed⟩ := options_fixed msg htls
    rw [hfixed]
    exact ⟨rfl, rfl, rfl, id⟩

/-- The client that INIT is about to register, in the registry with its options written. -/
structure Candidate (inst : QnetdInstance) (client : QnetdClient) (name : List UInt8) (f : Fixed) :
    Prop where
  linked : (inst.registry.write f).Linked
  mem : f ∈ (inst.registry.write f).clients
  id : f.id = client.id
  cluster : f.cluster = none
  preinit : f.preinitReceived = true
  name : f.clusterName = some name

theorem candidate {settings : Settings} {inst : QnetdInstance} {client client' : QnetdClient}
    {name : List UInt8} (msg : MsgDecoded) (hlinked : inst.registry.Linked)
    (hmem : client ∈ inst.clients) (hnone : client.cluster = none)
    (hpre : client.preinitReceived = true)
    (htls : qnetdClientMsgReceivedCheckTls settings client = .success client')
    (hname : client.clusterName = some name) :
    Candidate inst client name (initOptions settings client' msg).1.fixed := by
  obtain ⟨verified, nodeId, tb, alg, hfixed⟩ := options_fixed msg htls
  rw [hfixed]
  refine ⟨?_, ?_, rfl, hnone, hpre, hname⟩
  · exact hlinked.write (mem_registry hmem) rfl rfl rfl fun h => h
  · exact Registry.write_mem_self (mem_registry hmem) rfl

/-- Every event keeps the pointers in order. -/
theorem InstanceCase.linked {settings : Settings} {env : Env} {inst : QnetdInstance}
    {event : InstanceEvent} {r' : Registry} (h : InstanceCase settings env inst event r')
    (hlinked : inst.registry.Linked) : r'.Linked := by
  cases h with
  | stay h => exact h ▸ hlinked
  | connect id hnew h =>
    rw [h]
    refine hlinked.connect (fun g hg => ?_) rfl rfl
    obtain ⟨c, hc, rfl⟩ := List.mem_map.mp hg
    exact hnew c hc
  | write msg type client client' hevent htype hmem hsched hwrite h =>
    obtain ⟨hid, hcluster, hinit, hpre⟩ := hwrite.links
    rw [h]
    exact hlinked.write (mem_registry hmem) hid hcluster hinit hpre
  | join msg client client' name r₀ k f' l hevent hmem hnone hpre htls hname hjoins =>
    have hcand := candidate msg hlinked hmem hnone hpre htls hname
    exact hjoins.linked hcand.linked hcand.mem hcand.cluster hcand.preinit
  | leave client hmem h =>
    rw [h]
    exact hlinked.remove (mem_registry hmem)

/-- The pointers are in order in every reachable state, whatever the peers send. -/
theorem linked_of_reach {settings : Settings} {ok : QnetdInstance → Env × InstanceEvent → Prop}
    {inst : QnetdInstance} (h : (instanceMachine settings).Reach ok inst) :
    inst.registry.Linked := by
  refine Runs.Machine.Reach.invariant (fun inst => inst.registry.Linked) Registry.linked_empty
    (fun _ hlinked _ hstep => ?_) h
  obtain ⟨res, hres, rfl⟩ := instanceMachine_step hstep
  exact (instanceStep_cases hlinked hres).linked hlinked

/-! ### An INIT that changes nothing -/

/-- The server accepts this heartbeat interval from the client. -/
def HeartbeatAccepted (settings : Settings) (client : QnetdClient) (interval : UInt32) : Prop :=
  settings.heartbeatIntervalMin ≤ interval ∧ interval ≤ settings.heartbeatIntervalMax ∧
    (client.dpdTimer.isSome = true → timerListIntervalValid (settings.dpdInterval interval) = true)

/-- INIT carries a node id, a ring id and an acceptable heartbeat interval. -/
def FirstOptions (settings : Settings) (client : QnetdClient) (msg : MsgDecoded) : Prop :=
  msg.nodeId.isSome = true ∧ msg.ringId.isSome = true ∧
    ∃ interval ∈ msg.heartbeatInterval, HeartbeatAccepted settings client interval

/-- An INIT that leaves the node id, the tie-breaker and the algorithm of a client that has sent
    PREINIT as they are: it carries no others, and a tie-breaker or an algorithm it does
    not carry is the first thing that is wrong with it. -/
def RepeatsInit (settings : Settings) (client : QnetdClient) (msg : MsgDecoded) : Prop :=
  (∀ nodeId ∈ msg.nodeId, nodeId = client.nodeId) ∧
  (∀ tieBreaker ∈ msg.tieBreaker, tlvTieBreakerEq tieBreaker client.tieBreaker = true) ∧
  (∀ algorithm ∈ msg.decisionAlgorithm, algorithm = client.decisionAlgorithm) ∧
  (msg.tieBreaker = none → FirstOptions settings client msg) ∧
  (msg.decisionAlgorithm = none →
    FirstOptions settings client msg ∧ msg.tieBreaker.isSome = true)

instance (settings : Settings) (client : QnetdClient) (interval : UInt32) :
    Decidable (HeartbeatAccepted settings client interval) :=
  inferInstanceAs (Decidable (_ ∧ _))

instance (settings : Settings) (client : QnetdClient) (msg : MsgDecoded) :
    Decidable (FirstOptions settings client msg) :=
  inferInstanceAs (Decidable (_ ∧ _))

instance (settings : Settings) (client : QnetdClient) (msg : MsgDecoded) :
    Decidable (RepeatsInit settings client msg) :=
  have : Decidable (∀ nodeId ∈ msg.nodeId, nodeId = client.nodeId) := Option.decidableForallMem _
  have : Decidable (∀ algorithm ∈ msg.decisionAlgorithm, algorithm = client.decisionAlgorithm) :=
    Option.decidableForallMem _
  inferInstanceAs (Decidable (_ ∧ _))

theorem setHeartbeatInterval_accepted {settings : Settings} {client : QnetdClient}
    {interval : UInt32} (h : HeartbeatAccepted settings client interval) :
    (setHeartbeatInterval settings client interval).2 = true := by
  obtain ⟨hmin, hmax, hdpd⟩ := h
  have hrange : ¬ (interval < settings.heartbeatIntervalMin ∨
      settings.heartbeatIntervalMax < interval) := by
    rintro (hlt | hlt)
    · exact UInt32.not_lt.mpr hmin hlt
    · exact UInt32.not_lt.mpr hmax hlt
  simp only [setHeartbeatInterval, if_neg hrange]
  cases htimer : client.dpdTimer with
  | none => simp [qnetdClientDpdTimerUpdateInterval]
  | some t => simp [qnetdClientDpdTimerUpdateInterval, hdpd (by rw [htimer]; rfl)]

/-- What `RepeatsInit` says, for the client and the error code after each option: if the options
    so far are `complete`, there is no error yet. -/
private structure OptionsKept (client : QnetdClient) (complete : Prop)
    (acc : QnetdClient × TlvReplyErrorCode) : Prop where
  nodeId : acc.1.nodeId = client.nodeId
  tieBreaker : tlvTieBreakerEq acc.1.tieBreaker client.tieBreaker = true
  decisionAlgorithm : acc.1.decisionAlgorithm = client.decisionAlgorithm
  noError : complete → acc.2 = .noError

section Options

variable {settings : Settings} {client : QnetdClient} {msg : MsgDecoded}
  {acc : QnetdClient × TlvReplyErrorCode}

private theorem initOption_some {α : Type} {v zero : α}
    {copy : α → QnetdClient × TlvReplyErrorCode → QnetdClient × TlvReplyErrorCode} :
    initOption (some v) zero copy acc = copy v acc := by
  simp [initOption]

private theorem initOption_missing {α : Type} {zero : α}
    {copy : α → QnetdClient × TlvReplyErrorCode → QnetdClient × TlvReplyErrorCode}
    (h : acc.2 = .noError) :
    initOption none zero copy acc = (acc.1, .doesntContainRequiredOption) := by
  simp [initOption, h]

private theorem optionsKept_nodeId (hnode : ∀ nodeId ∈ msg.nodeId, nodeId = client.nodeId) :
    OptionsKept client (msg.nodeId.isSome = true)
        (initOption msg.nodeId 0 initNodeId (client, .noError)) ∧
      (initOption msg.nodeId 0 initNodeId (client, .noError)).1.dpdTimer = client.dpdTimer := by
  cases hopt : msg.nodeId with
  | none =>
    rw [initOption_missing rfl]
    exact ⟨⟨rfl, tlvTieBreakerEq_refl _, rfl, fun h => by cases h⟩, rfl⟩
  | some nodeId =>
    rw [initOption_some]
    exact ⟨⟨hnode nodeId hopt, tlvTieBreakerEq_refl _, rfl, fun _ => rfl⟩, rfl⟩

private theorem optionsKept_ringId (h : OptionsKept client (msg.nodeId.isSome = true) acc)
    (hdpd : acc.1.dpdTimer = client.dpdTimer) :
    OptionsKept client (msg.nodeId.isSome = true ∧ msg.ringId.isSome = true)
        (initOption msg.ringId .zero initRingId acc) ∧
      (initOption msg.ringId .zero initRingId acc).1.dpdTimer = client.dpdTimer := by
  simp only [initOption]
  split
  · next hmissing =>
    refine ⟨⟨h.nodeId, h.tieBreaker, h.decisionAlgorithm, fun hcomplete => ?_⟩, hdpd⟩
    have hsome := hcomplete.2
    simp [Option.isNone_iff_eq_none.mp hmissing.2] at hsome
  · exact ⟨⟨h.nodeId, h.tieBreaker, h.decisionAlgorithm, fun hcomplete => h.noError hcomplete.1⟩,
      hdpd⟩

private theorem optionsKept_heartbeatInterval
    (h : OptionsKept client (msg.nodeId.isSome = true ∧ msg.ringId.isSome = true) acc)
    (hdpd : acc.1.dpdTimer = client.dpdTimer) :
    OptionsKept client (FirstOptions settings client msg)
      (initOption msg.heartbeatInterval 0 (initHeartbeatInterval settings) acc) := by
  have hcopy (interval : UInt32) :
      (initHeartbeatInterval settings interval acc).1.nodeId = acc.1.nodeId ∧
      (initHeartbeatInterval settings interval acc).1.tieBreaker = acc.1.tieBreaker ∧
      (initHeartbeatInterval settings interval acc).1.decisionAlgorithm =
        acc.1.decisionAlgorithm := by
    obtain ⟨hb, dpd, hset⟩ := setHeartbeatInterval_client settings acc.1 interval
    simp only [initHeartbeatInterval, hset, and_self]
  simp only [initOption]
  split
  · next hmissing =>
    refine ⟨h.nodeId, h.tieBreaker, h.decisionAlgorithm, fun hcomplete => ?_⟩
    obtain ⟨interval, hinterval, -⟩ := hcomplete.2.2
    rw [Option.isNone_iff_eq_none.mp hmissing.2] at hinterval
    cases hinterval
  · obtain ⟨hn, ht, ha⟩ := hcopy (msg.heartbeatInterval.getD 0)
    refine ⟨hn.trans h.nodeId, ht.symm ▸ h.tieBreaker, ha.trans h.decisionAlgorithm,
      fun hcomplete => ?_⟩
    obtain ⟨interval, hinterval, haccepted⟩ := hcomplete.2.2
    have haccepted' : HeartbeatAccepted settings acc.1 interval :=
      ⟨haccepted.1, haccepted.2.1, fun hsome => haccepted.2.2 (hdpd ▸ hsome)⟩
    simp only [Option.mem_def.mp hinterval, Option.getD_some, initHeartbeatInterval,
      setHeartbeatInterval_accepted haccepted', if_true]
    exact h.noError ⟨hcomplete.1, hcomplete.2.1⟩

private theorem optionsKept_tieBreaker (h : OptionsKept client (FirstOptions settings client msg) acc)
    (htb : ∀ tb ∈ msg.tieBreaker, tlvTieBreakerEq tb client.tieBreaker = true)
    (hfirst : msg.tieBreaker = none → FirstOptions settings client msg) :
    OptionsKept client (FirstOptions settings client msg ∧ msg.tieBreaker.isSome = true)
      (initOption msg.tieBreaker .zero initTieBreaker acc) := by
  cases hopt : msg.tieBreaker with
  | none =>
    rw [initOption_missing (h.noError (hfirst hopt))]
    exact ⟨h.nodeId, h.tieBreaker, h.decisionAlgorithm, fun hcomplete => by cases hcomplete.2⟩
  | some tb =>
    rw [initOption_some]
    exact ⟨h.nodeId, htb tb hopt, h.decisionAlgorithm, fun hcomplete => h.noError hcomplete.1⟩

private theorem optionsKept_decisionAlgorithm
    (h : OptionsKept client (FirstOptions settings client msg ∧ msg.tieBreaker.isSome = true) acc)
    (halg : ∀ algorithm ∈ msg.decisionAlgorithm, algorithm = client.decisionAlgorithm)
    (hfirst : msg.decisionAlgorithm = none →
      FirstOptions settings client msg ∧ msg.tieBreaker.isSome = true) :
    OptionsKept client False (initOption msg.decisionAlgorithm 0 initDecisionAlgorithm acc) := by
  cases hopt : msg.decisionAlgorithm with
  | none =>
    rw [initOption_missing (h.noError (hfirst hopt))]
    exact ⟨h.nodeId, h.tieBreaker, h.decisionAlgorithm, False.elim⟩
  | some algorithm =>
    rw [initOption_some]
    exact ⟨h.nodeId, h.tieBreaker, halg algorithm hopt, False.elim⟩

/-- Such an INIT leaves them as they are. -/
theorem initOptions_repeats (hpre : client.preinitReceived = true)
    (h : RepeatsInit settings client msg) :
    (initOptions settings client msg).1.nodeId = client.nodeId ∧
      (initOptions settings client msg).1.decisionAlgorithm = client.decisionAlgorithm ∧
      tlvTieBreakerEq (initOptions settings client msg).1.tieBreaker client.tieBreaker = true := by
  obtain ⟨hnode, htb, halg, htbFirst, halgFirst⟩ := h
  have hkept : OptionsKept client False (initCopyOptions settings client msg) := by
    simp only [initCopyOptions, hpre, if_true]
    obtain ⟨h₁, hdpd₁⟩ := optionsKept_nodeId hnode
    obtain ⟨h₂, hdpd₂⟩ := optionsKept_ringId h₁ hdpd₁
    exact optionsKept_decisionAlgorithm (optionsKept_tieBreaker
      (optionsKept_heartbeatInterval h₂ hdpd₂) htb htbFirst) halg halgFirst
  simp only [initOptions]
  generalize initCopyOptions settings client msg = acc at hkept ⊢
  split
  · exact ⟨hkept.nodeId, hkept.decisionAlgorithm, hkept.tieBreaker⟩
  · exact ⟨hkept.nodeId, hkept.decisionAlgorithm, hkept.tieBreaker⟩

end Options

/-! ### The registry invariant -/

def TlsCheck.isSuccess : TlsCheck → Bool
  | .success _ => true
  | .tlsRequired | .disconnect => false

/-- A message of a registered client that changes neither its name nor what it said in INIT. -/
def KeepsRegistration (settings : Settings) (env : Env) (client : QnetdClient) (msg : MsgDecoded) :
    Prop :=
  (MsgType.ofUInt16? msg.type = some .preinit → ∀ clusterName ∈ msg.clusterName,
    client.clusterName = some clusterName ∧ env.clusterNameAlloc = true) ∧
  (MsgType.ofUInt16? msg.type = some .init →
    (qnetdClientMsgReceivedCheckTls settings client).isSuccess = true →
      RepeatsInit settings client msg)

/-- The messages of clients whose cluster pointer is set are of this kind. -/
def RegistryOk (settings : Settings) (inst : QnetdInstance) : Env × InstanceEvent → Prop
  | (env, .message id msg) => ∀ client ∈ inst.client? id, client.cluster.isSome = true →
      client.scheduleDisconnect = false → KeepsRegistration settings env client msg
  | _ => True

instance (settings : Settings) (env : Env) (client : QnetdClient) (msg : MsgDecoded) :
    Decidable (KeepsRegistration settings env client msg) :=
  inferInstanceAs (Decidable (_ ∧ _))

instance (settings : Settings) (inst : QnetdInstance) : DecidablePred (RegistryOk settings inst)
  | (_, .message _ _) => inferInstanceAs (Decidable (∀ client ∈ _, _))
  | (_, .connect _) | (_, .unreadable _) | (_, .socketError _) | (_, .algoTimer _)
  | (_, .dpdTimer _) | (_, .disconnect _ _) => isTrue trivial

/-- A guarded write keeps what has to agree in a cluster. -/
theorem ClientWrite.agrees {settings : Settings} {env : Env} {inst : QnetdInstance} {type : MsgType}
    {msg : MsgDecoded} {client client' : QnetdClient}
    (h : ClientWrite settings env type msg client client')
    (hclient : inst.client? client.id = some client) (hcluster : client.cluster.isSome = true)
    (hpre : client.preinitReceived = true) (hsched : client.scheduleDisconnect = false)
    (htype' : MsgType.ofUInt16? msg.type = some type)
    (hok : RegistryOk settings inst (env, .message client.id msg)) :
    client'.fixed.clusterName = client.fixed.clusterName ∧
      client'.fixed.nodeId = client.fixed.nodeId ∧
      client'.fixed.decisionAlgorithm = client.fixed.decisionAlgorithm ∧
      tlvTieBreakerEq client'.fixed.tieBreaker client.fixed.tieBreaker = true := by
  obtain ⟨hokPreinit, hokInit⟩ := hok client hclient hcluster hsched
  cases h with
  | handshake h =>
    cases h with
    | same => exact ⟨rfl, rfl, rfl, tlvTieBreakerEq_refl _⟩
    | preinit htype hname =>
      subst htype
      obtain ⟨name, hname⟩ := Option.isSome_iff_exists.mp hname
      obtain ⟨hsame, halloc⟩ := hokPreinit htype' name hname
      refine ⟨?_, rfl, rfl, tlvTieBreakerEq_refl _⟩
      dsimp only [QnetdClient.fixed]
      rw [halloc, hname, hsame]
      rfl
    | starttls htype hpre cert => exact ⟨rfl, rfl, rfl, tlvTieBreakerEq_refl _⟩
    | checked client' htls =>
      obtain ⟨_, hfixed⟩ := checkTls_fixed htls
      rw [hfixed]
      exact ⟨rfl, rfl, rfl, tlvTieBreakerEq_refl _⟩
  | options client₁ htype htls =>
    subst htype
    have hok := hokInit htype' (by rw [htls]; rfl)
    obtain ⟨_, _, _, _, hfixed⟩ := options_fixed msg htls
    have hrepeats : RepeatsInit settings client₁ msg ∧ client₁.preinitReceived = true ∧
        client₁.registration = client.registration := by
      rcases checkTls_success htls with rfl | ⟨_, _, _, _, _, rfl⟩
      · exact ⟨hok, hpre, rfl⟩
      · exact ⟨hok, hpre, rfl⟩
    obtain ⟨hrepeats, hpre₁, hsame⟩ := hrepeats
    simp only [QnetdClient.registration, Prod.mk.injEq] at hsame
    obtain ⟨hnode, halg, htb⟩ := initOptions_repeats hpre₁ hrepeats
    generalize (initOptions settings client₁ msg).1 = c at hfixed hnode halg htb ⊢
    rw [hsame.2.2.2.2] at htb
    exact ⟨by rw [hfixed], hnode.trans hsame.2.1, halg.trans hsame.2.2.2.1, htb⟩

/-- Every guarded event keeps the clients of each cluster together. -/
theorem InstanceCase.agreed {settings : Settings} {env : Env} {inst : QnetdInstance}
    {event : InstanceEvent} {r' : Registry} (h : InstanceCase settings env inst event r')
    (hlinked : inst.registry.Linked) (hagreed : inst.registry.Agreed)
    (hok : RegistryOk settings inst (env, event)) : r'.Agreed := by
  cases h with
  | stay h => exact h ▸ hagreed
  | connect id hnew h => exact h ▸ hagreed.connect hlinked _
  | write msg type client client' hevent htype hmem hsched hwrite h =>
    subst hevent
    rw [h]
    have hid := hwrite.links.1
    cases hcluster : client.cluster with
    | none => exact hagreed.write_unregistered hlinked (mem_registry hmem) hid hcluster
    | some k =>
      have hsome : client.cluster.isSome = true := by rw [hcluster]; rfl
      obtain ⟨hname, hnode, halg, htb⟩ := hwrite.agrees (client?_of_mem hlinked hmem) hsome
        (hlinked.preinit _ (mem_registry hmem) hsome) hsched htype hok
      exact hagreed.write_same hlinked (mem_registry hmem) hid hname hnode halg htb
  | join msg client client' name r₀ k f' l hevent hmem hnone hpre htls hname hjoins =>
    have hcand := candidate msg hlinked hmem hnone hpre htls hname
    exact hjoins.agreed hcand.linked
      (hagreed.write_unregistered hlinked (mem_registry hmem) hcand.id hnone) hcand.mem
      hcand.cluster hcand.name
  | leave client hmem h => exact h ▸ hagreed.remove _

theorem agreed_of_reach {settings : Settings} {inst : QnetdInstance}
    (h : (instanceMachine settings).Reach (RegistryOk settings) inst) : inst.registry.Agreed := by
  refine Runs.Machine.Reach.invariant (fun inst => inst.registry.Agreed) Registry.agreed_empty
    (fun hreach hagreed hok hstep => ?_) h
  have hlinked := linked_of_reach hreach
  obtain ⟨res, hres, rfl⟩ := instanceMachine_step hstep
  exact (instanceStep_cases hlinked hres).agreed hlinked hagreed hok

/-- The registry of an instance is in order: each client whose cluster pointer is set is exactly
    once in exactly one list, that of its cluster, which has its name; the clients of a
    cluster are in the order of their node ids, which are distinct, and have one algorithm and
    one tie-breaker; a client in no list is not initialised. -/
structure RegistryInvariant (inst : QnetdInstance) : Prop where
  ids : (inst.clients.map (·.id)).Nodup
  clusterIds : (inst.clusters.map (·.id)).Nodup
  members : ∀ entry ∈ inst.clusters,
    (inst.cluster entry).clientList.map (·.id) = entry.clientList
  registered : ∀ c ∈ inst.clients, ∀ k, c.cluster = some k → ∃ entry ∈ inst.clusters,
    entry.id = k ∧ c.clusterName = some entry.clusterName ∧ entry.clientList.count c.id = 1 ∧
      ∀ entry' ∈ inst.clusters, c.id ∈ entry'.clientList → entry' = entry
  nodeIds : ∀ entry ∈ inst.clusters,
    ((inst.cluster entry).clientList.map (·.nodeId)).Pairwise (· < ·)
  agree : ∀ entry ∈ inst.clusters, ∀ c ∈ (inst.cluster entry).clientList,
    ∀ d ∈ (inst.cluster entry).clientList, c.decisionAlgorithm = d.decisionAlgorithm ∧
      tlvTieBreakerEq c.tieBreaker d.tieBreaker = true
  init : ∀ c ∈ inst.clients, (∀ entry ∈ inst.clusters, c.id ∉ entry.clientList) →
    c.initReceived = false

theorem registryInvariant_of {inst : QnetdInstance} (hlinked : inst.registry.Linked)
    (hagreed : inst.registry.Agreed) : RegistryInvariant inst := by
  have hmember {entry : ClusterEntry} {c : QnetdClient} (hc : c ∈ (inst.cluster entry).clientList) :
      c.fixed ∈ inst.registry.members entry.links := by
    rw [registry_members]
    exact List.mem_map_of_mem hc
  constructor
  · exact ids_nodup hlinked
  · have := hlinked.clusterIds
    rwa [QnetdInstance.registry, List.map_map] at this
  · exact fun entry hentry => cluster_ids hlinked hentry
  · intro c hc k hk
    obtain ⟨k', hk', rfl, hmem⟩ := hlinked.listed c.fixed (mem_registry hc) k hk
    obtain ⟨entry, hentry, rfl⟩ := List.mem_map.mp hk'
    refine ⟨entry, hentry, rfl, ?_, ?_, fun entry' hentry' hmem' => ?_⟩
    · exact hagreed.name _ hk' c.fixed (hmember ((mem_cluster hlinked).mpr ⟨hc, hmem⟩))
    · exact List.count_eq_one_of_mem (hlinked.nodup _ hk') hmem
    · have hcluster' := (hlinked.mem_clientList (List.mem_map_of_mem hentry') (mem_registry hc)).mp
        hmem'
      exact eq_of_entryId hlinked hentry' hentry (Option.some.inj (hcluster'.symm.trans hk))
  · intro entry hentry
    have := hagreed.nodeIds _ (List.mem_map_of_mem hentry)
    rwa [registry_members, List.map_map] at this
  · intro entry hentry c hc d hd
    exact ⟨hagreed.algorithm _ (List.mem_map_of_mem hentry) _ (hmember hc) _ (hmember hd),
      hagreed.tieBreaker _ (List.mem_map_of_mem hentry) _ (hmember hc) _ (hmember hd)⟩
  · intro c hc hnot
    refine Bool.eq_false_iff.mpr fun hinit => ?_
    obtain ⟨k, hk⟩ := Option.isSome_iff_exists.mp (hlinked.init c.fixed (mem_registry hc) hinit)
    obtain ⟨k', hk', -, hmem⟩ := hlinked.listed c.fixed (mem_registry hc) k hk
    obtain ⟨entry, hentry, rfl⟩ := List.mem_map.mp hk'
    exact hnot entry hentry hmem

/-- In every run in which registered clients do not change what they are registered with, the
    registry is in order. -/
theorem registry_invariant (settings : Settings) {inst : QnetdInstance}
    (h : (instanceMachine settings).Reach (RegistryOk settings) inst) : RegistryInvariant inst :=
  registryInvariant_of (linked_of_reach h) (agreed_of_reach h)

/-! ### Two clients of one cluster -/

def preinitMsg (clusterName : List UInt8) : MsgDecoded where
  type := MsgType.preinit.toUInt16
  seqNumber := some 0
  clusterName := some clusterName

/-- Nodes 1 and 2 join the cluster `a`. -/
def twoClients : List (Env × InstanceEvent) :=
  [(.ok, .connect 1), (.ok, .message 1 (preinitMsg [97])),
    (.ok, .message 1 (initMsg .twoNodeLms ⟨.lowest, 0⟩ 1 ⟨1, 4⟩)),
    (.ok, .connect 2), (.ok, .message 2 (preinitMsg [97])),
    (.ok, .message 2 (initMsg .twoNodeLms ⟨.lowest, 0⟩ 2 ⟨1, 4⟩))]

/-- Node 1 repeats its PREINIT and its INIT, and the registry stays in order. -/
theorem registry_invariant_repeated : ∃ inst,
    (instanceMachine .plain).Reach (RegistryOk .plain) inst ∧
    (∃ entry ∈ inst.clusters, entry.clientList = [1, 2]) ∧ RegistryInvariant inst := by
  have hrun : ((instanceMachine .plain).execWhile (fun s e => decide (RegistryOk .plain s e))
      (instanceMachine .plain).init (twoClients ++ [(.ok, .message 1 (preinitMsg [97])),
        (.ok, .message 1 (initMsg .twoNodeLms ⟨.lowest, 5⟩ 1 ⟨1, 8⟩))])).any (fun inst =>
        inst.clusters.any fun entry => decide (entry.clientList = [1, 2])) := by
    decide +kernel
  simp only [Option.any_eq_true, List.any_eq_true, decide_eq_true_eq] at hrun
  obtain ⟨inst, hinst, hentry⟩ := hrun
  have hreach : (instanceMachine .plain).Reach (RegistryOk .plain) inst :=
    Runs.Machine.Reach.execWhile (fun _ _ h => of_decide_eq_true h) .init hinst
  exact ⟨inst, hreach, hentry, registry_invariant .plain hreach⟩

/-- Node 1 sends a second INIT, with the node id of node 2.  It is refused as a duplicate, but by
    then the node id is in the client. -/
theorem registry_duplicate_nodeId : ∃ inst,
    (instanceMachine .plain).Reach (fun _ _ => True) inst ∧ ¬ RegistryInvariant inst := by
  have hrun : ((instanceMachine .plain).exec (instanceMachine .plain).init
      (twoClients ++ [(.ok, .message 1 (initMsg .twoNodeLms ⟨.lowest, 0⟩ 2 ⟨1, 4⟩))])).any
      (fun inst => inst.clusters.any fun entry =>
        decide ((inst.cluster entry).clientList.map (·.nodeId) = [2, 2])) := by
    decide +kernel
  simp only [Option.any_eq_true, List.any_eq_true, decide_eq_true_eq] at hrun
  obtain ⟨inst, hinst, entry, hentry, hnodes⟩ := hrun
  refine ⟨inst, Runs.Machine.Reach.exec (fun _ _ => trivial) .init hinst, fun hinv => ?_⟩
  have hpairwise := hinv.nodeIds entry hentry
  rw [hnodes] at hpairwise
  exact absurd hpairwise (by decide)

end Qdevice.Qnetd
