import Mathlib.Data.List.TakeWhile
import Qdevice.Spec.RegistryRun

/-! # TLS authorisation

On a server that requires TLS and a client certificate, a registered client should have shown
a certificate for the name of its cluster.  The certificate is checked once, against the name
the client has at that time, and `tls_peer_certificate_verified` remembers that it was.
STARTTLS resets the flag, but a PREINIT with another name does not; and a STARTTLS
of a registered client leaves it registered without a verified certificate. -/

namespace Qdevice.Qnetd

/-- The server requires TLS and a client certificate. -/
structure RequiresCertificate (settings : Settings) : Prop where
  tlsSupported : settings.tlsSupported = .required
  tlsClientCertRequired : settings.tlsClientCertRequired = true

/-- The peer of a client has shown a certificate for this name. -/
def HasCertificateFor (settings : Settings) (f : Fixed) (name : List UInt8) : Prop :=
  ∃ cert, f.peerCertificate = some cert ∧ settings.certVerifyCertName cert name = true

/-- What the TLS fields of the clients stand for. -/
structure Authorised (settings : Settings) (r : Registry) : Prop where
  nul : ∀ f ∈ r.clients, ∀ name, f.clusterName = some name → 0 ∉ name
  verified : ∀ f ∈ r.clients, f.tlsPeerCertificateVerified = true → f.tlsStarted = true ∧
    ∀ name, f.clusterName = some name → HasCertificateFor settings f name
  registered : ∀ f ∈ r.clients, ∀ k ∈ r.clusters, f.cluster = some k.id →
    f.tlsPeerCertificateVerified = true ∧ HasCertificateFor settings f k.clusterName

/-- A PREINIT has a name without NUL bytes, and once the certificate is verified it repeats the
    name it was verified for; a registered client does not send STARTTLS. -/
def KeepsCertificate (client : QnetdClient) (msg : MsgDecoded) : Prop :=
  (MsgType.ofUInt16? msg.type = some .preinit → ∀ clusterName ∈ msg.clusterName,
    0 ∉ clusterName ∧ (client.tlsPeerCertificateVerified = true →
      client.clusterName = some clusterName)) ∧
  (MsgType.ofUInt16? msg.type = some .starttls → client.cluster = none)

def TlsOk (inst : QnetdInstance) : Env × InstanceEvent → Prop
  | (_, .message id msg) => ∀ client ∈ inst.client? id, client.scheduleDisconnect = false →
      KeepsCertificate client msg
  | _ => True

instance (client : QnetdClient) (msg : MsgDecoded) : Decidable (KeepsCertificate client msg) :=
  inferInstanceAs (Decidable (_ ∧ _))

instance (inst : QnetdInstance) : DecidablePred (TlsOk inst)
  | (_, .message _ _) => inferInstanceAs (Decidable (∀ client ∈ _, _))
  | (_, .connect _) | (_, .unreadable _) | (_, .socketError _) | (_, .algoTimer _)
  | (_, .dpdTimer _) | (_, .disconnect _ _) => isTrue trivial

/-! ### Writes -/

/-- What a write has to keep of a client. -/
structure KeepsAuthorisation (settings : Settings) (f f' : Fixed) : Prop where
  nul : ∀ name, f'.clusterName = some name → 0 ∉ name
  verified : f'.tlsPeerCertificateVerified = true → f'.tlsStarted = true ∧
    ∀ name, f'.clusterName = some name → HasCertificateFor settings f' name
  registered : f.cluster.isSome = true → f'.peerCertificate = f.peerCertificate ∧
    (f.tlsPeerCertificateVerified = true → f'.tlsPeerCertificateVerified = true)

theorem Authorised.write {settings : Settings} {r : Registry} {f f' : Fixed}
    (h : Authorised settings r) (hf : f ∈ r.clients) (hcluster : f'.cluster = f.cluster)
    (hkeeps : KeepsAuthorisation settings f f') : Authorised settings (r.write f') where
  nul g hg := by
    rcases Registry.mem_write hg with ⟨rfl, -⟩ | ⟨hg, -⟩
    · exact hkeeps.nul
    · exact h.nul g hg
  verified g hg := by
    rcases Registry.mem_write hg with ⟨rfl, -⟩ | ⟨hg, -⟩
    · exact hkeeps.verified
    · exact h.verified g hg
  registered g hg k hk hgk := by
    rcases Registry.mem_write hg with ⟨rfl, -⟩ | ⟨hg, -⟩
    · obtain ⟨hverified, hcert⟩ := h.registered f hf k hk (hcluster ▸ hgk)
      obtain ⟨hsame, hkept⟩ := hkeeps.registered (by rw [← hcluster, hgk]; rfl)
      refine ⟨hkept hverified, ?_⟩
      rwa [HasCertificateFor, hsame]
    · exact h.registered g hg k hk hgk

/-- Where a certificate is required, a passed check means a verified certificate. -/
theorem checkTls_verified {settings : Settings} (hreq : RequiresCertificate settings)
    {client client' : QnetdClient}
    (htls : qnetdClientMsgReceivedCheckTls settings client = .success client') :
    client.tlsStarted = true ∧
      (client' = client ∧ client.tlsPeerCertificateVerified = true ∨
        ∃ cert name, client.peerCertificate = some cert ∧ client.clusterName = some name ∧
          settings.certVerifyCertName cert (cString name) = true ∧
          client' = { client with tlsPeerCertificateVerified := true }) := by
  simp only [qnetdClientMsgReceivedCheckTls, checkTlsRequired, checkTlsCertificate,
    hreq.tlsSupported, hreq.tlsClientCertRequired, Bool.true_and, Bool.not_eq_true'] at htls
  split at htls
  · cases htls
  · next hstarted =>
    refine ⟨by simpa using hstarted, ?_⟩
    split at htls
    · split at htls
      · next cert name hcert hname =>
        split at htls
        · next hverify => exact .inr ⟨cert, name, hcert, hname, hverify, (TlsCheck.success.inj htls).symm⟩
        · cases htls
      · cases htls
    · next hverified => exact .inl ⟨(TlsCheck.success.inj htls).symm, by simpa using hverified⟩

section Write

variable {settings : Settings} (hreq : RequiresCertificate settings) {r : Registry}
  (hauth : Authorised settings r)

include hreq hauth

/-- After a passed check the certificate is verified for the name the client has. -/
theorem keepsAuthorisation_checkTls {client client' : QnetdClient} (hmem : client.fixed ∈ r.clients)
    (htls : qnetdClientMsgReceivedCheckTls settings client = .success client') :
    KeepsAuthorisation settings client.fixed client'.fixed ∧
      client'.fixed.tlsPeerCertificateVerified = true := by
  have hnul := hauth.nul _ hmem
  obtain ⟨hstarted, ⟨rfl, hverified⟩ | ⟨cert, name, hcert, hname, hverify, rfl⟩⟩ :=
    checkTls_verified hreq htls
  · exact ⟨⟨hnul, hauth.verified _ hmem, fun _ => ⟨rfl, id⟩⟩, hverified⟩
  · refine ⟨⟨hnul, fun _ => ⟨hstarted, fun name' hname' => ⟨cert, hcert, ?_⟩⟩,
      fun _ => ⟨rfl, fun _ => rfl⟩⟩, rfl⟩
    obtain rfl : name = name' := Option.some.inj (hname.symm.trans hname')
    rwa [cString_eq (hnul name hname)] at hverify

/-- The options of INIT are none of TLS. -/
theorem keepsAuthorisation_options {client client' : QnetdClient} (msg : MsgDecoded)
    (hmem : client.fixed ∈ r.clients)
    (htls : qnetdClientMsgReceivedCheckTls settings client = .success client') :
    KeepsAuthorisation settings client.fixed (initOptions settings client' msg).1.fixed ∧
      (initOptions settings client' msg).1.fixed.tlsPeerCertificateVerified = true := by
  obtain ⟨hkeeps, hverified⟩ := keepsAuthorisation_checkTls hreq hauth hmem htls
  obtain ⟨_, _, _, hfixed⟩ := fixed_initOptions settings client' msg
  rw [hfixed]
  exact ⟨⟨hkeeps.nul, hkeeps.verified, hkeeps.registered⟩, hverified⟩

/-- A guarded write keeps the authorisation. -/
theorem keepsAuthorisation_write {inst : QnetdInstance} {env : Env} {type : MsgType}
    {msg : MsgDecoded} {client client' : QnetdClient} (hmem : client.fixed ∈ r.clients)
    (hclient : inst.client? client.id = some client) (hsched : client.scheduleDisconnect = false)
    (htype' : MsgType.ofUInt16? msg.type = some type)
    (hok : TlsOk inst (env, .message client.id msg))
    (h : ClientWrite settings env type msg client client') :
    KeepsAuthorisation settings client.fixed client'.fixed := by
  obtain ⟨hokPreinit, hokStarttls⟩ := hok client hclient hsched
  have hverified := hauth.verified _ hmem
  cases h with
  | handshake h =>
    cases h with
    | same => exact ⟨hauth.nul _ hmem, hverified, fun _ => ⟨rfl, id⟩⟩
    | preinit htype hname =>
      subst htype
      obtain ⟨name, hname⟩ := Option.isSome_iff_exists.mp hname
      obtain ⟨hnul, hsame⟩ := hokPreinit htype' name hname
      -- the new name is the one of the message, or there is none
      have hnew : ∀ name', (if env.clusterNameAlloc then msg.clusterName else none) = some name' →
          name' = name := by
        intro name' hname'
        split at hname'
        · exact Option.some.inj (hname'.symm.trans hname)
        · cases hname'
      refine ⟨fun name' hname' => hnew name' hname' ▸ hnul, fun hflag => ?_, fun _ => ⟨rfl, id⟩⟩
      refine ⟨(hverified hflag).1, fun name' hname' => ?_⟩
      exact (hverified hflag).2 name' (hnew name' hname' ▸ hsame hflag)
    | starttls htype hpre cert =>
      subst htype
      refine ⟨hauth.nul client.fixed hmem, fun hflag => (by cases hflag), fun hcluster => ?_⟩
      have hnone : client.fixed.cluster = none := hokStarttls htype'
      rw [hnone] at hcluster
      cases hcluster
    | checked client' htls => exact (keepsAuthorisation_checkTls hreq hauth hmem htls).1
  | options client₁ htype htls => exact (keepsAuthorisation_options hreq hauth msg hmem htls).1

end Write

/-! ### Events -/

theorem Authorised.connect {settings : Settings} {r : Registry} (h : Authorised settings r)
    (id : ClientId) : Authorised settings (r.connect (QnetdClient.fixed { id })) where
  nul f hf name hname := by
    rcases List.mem_append.mp hf with hf | hf
    · exact h.nul f hf name hname
    · rw [List.mem_singleton.mp hf] at hname
      cases hname
  verified f hf hflag := by
    rcases List.mem_append.mp hf with hf | hf
    · exact h.verified f hf hflag
    · rw [List.mem_singleton.mp hf] at hflag
      cases hflag
  registered f hf k hk hcluster := by
    rcases List.mem_append.mp hf with hf | hf
    · exact h.registered f hf k hk hcluster
    · rw [List.mem_singleton.mp hf] at hcluster
      cases hcluster

theorem Authorised.remove {settings : Settings} {r : Registry} (h : Authorised settings r)
    (f : Fixed) : Authorised settings (r.remove f) where
  nul g hg := h.nul g (List.mem_filter.mp hg).1
  verified g hg := h.verified g (List.mem_filter.mp hg).1
  registered g hg k hk hcluster := by
    obtain ⟨k₀, hk₀, ⟨-, rfl⟩ | ⟨-, rfl⟩⟩ := Registry.mem_remove hk
    · exact h.registered g (List.mem_filter.mp hg).1 k₀ hk₀ hcluster
    · exact h.registered g (List.mem_filter.mp hg).1 _ hk₀ hcluster

/-- A client with a verified certificate for its name joins the cluster of that name. -/
theorem Authorised.joins {settings : Settings} {r r₀ r' : Registry} {name : List UInt8}
    {k : RegistryCluster} {f f' : Fixed} {l : List Fixed} (h : Authorised settings r)
    (hlinked : r.Linked) (hjoins : Joins r f name r₀ k f' l r') (hf : f ∈ r.clients)
    (hname : f.clusterName = some name) (hverified : f.tlsPeerCertificateVerified = true) :
    Authorised settings r' := by
  have hjoined : f'.clusterName = f.clusterName ∧ f'.peerCertificate = f.peerCertificate ∧
      f'.tlsStarted = f.tlsStarted ∧ f'.tlsPeerCertificateVerified = true ∧
      f'.cluster = some k.id := by
    rw [hjoins.client]
    exact ⟨rfl, rfl, rfl, hverified, rfl⟩
  obtain ⟨hname', hcert', hstarted', hverified', hcluster'⟩ := hjoined
  have hcert : HasCertificateFor settings f' name := by
    rw [HasCertificateFor, hcert']
    exact (h.verified f hf hverified).2 name hname
  rw [hjoins.result]
  have hmem {g : Fixed} (hg : g ∈ ((r₀.write f').link k.id (l.map (·.id))).clients) :
      g = f' ∨ g ∈ r.clients := by
    rcases Registry.mem_write hg with ⟨rfl, -⟩ | ⟨hg, -⟩
    · exact .inl rfl
    · exact .inr (hjoins.cluster.clients ▸ hg)
  constructor
  · intro g hg n hn
    rcases hmem hg with rfl | hg
    · exact h.nul f hf n (hname' ▸ hn)
    · exact h.nul g hg n hn
  · intro g hg hflag
    rcases hmem hg with rfl | hg
    · refine ⟨hstarted'.trans (h.verified f hf hverified).1, fun n hn => ?_⟩
      obtain rfl : name = n := Option.some.inj (hname.symm.trans (hname'.symm.trans hn))
      exact hcert
    · exact h.verified g hg hflag
  · intro g hg k' hk' hcluster
    obtain ⟨k₀, hk₀, hk₀'⟩ : ∃ k₀ ∈ r₀.clusters, k'.id = k₀.id ∧ k'.clusterName = k₀.clusterName := by
      obtain ⟨k₀, hk₀, ⟨-, rfl⟩ | ⟨-, rfl⟩⟩ := Registry.mem_link hk'
      · exact ⟨k₀, hk₀, rfl, rfl⟩
      · exact ⟨_, hk₀, rfl, rfl⟩
    rw [hk₀'.1] at hcluster
    rw [hk₀'.2]
    have hlinked₀ := hjoins.cluster.linked hlinked
    rcases hmem hg with rfl | hg
    · rw [hlinked₀.eq_of_clusterId hk₀ hjoins.cluster.mem.1
        (Option.some.inj (hcluster.symm.trans hcluster')), hjoins.cluster.mem.2]
      exact ⟨hverified', hcert⟩
    · -- an old client points to an old cluster
      cases hjoins.cluster with
      | found hr _ _ => exact h.registered g hg k₀ (hr ▸ hk₀) hcluster
      | added _ hr _ =>
        rw [hr] at hk₀
        rcases List.mem_append.mp hk₀ with hk₀ | hk₀
        · exact h.registered g hg k₀ hk₀ hcluster
        · obtain ⟨k₁, hk₁, hid, -⟩ := hlinked.listed g hg _ hcluster
          rw [List.mem_singleton.mp hk₀] at hid
          exact absurd hid (Nat.ne_of_lt (hlinked.fresh k₁ hk₁))

/-- Every guarded event keeps the authorisation. -/
theorem InstanceCase.authorised {settings : Settings} (hreq : RequiresCertificate settings)
    {env : Env} {inst : QnetdInstance} {event : InstanceEvent} {r' : Registry}
    (h : InstanceCase settings env inst event r') (hlinked : inst.registry.Linked)
    (hauth : Authorised settings inst.registry) (hok : TlsOk inst (env, event)) :
    Authorised settings r' := by
  cases h with
  | stay h => exact h ▸ hauth
  | connect id hnew h => exact h ▸ hauth.connect id
  | write msg type client client' hevent htype hmem hsched hwrite h =>
    subst hevent
    rw [h]
    exact hauth.write (mem_registry hmem) hwrite.links.2.1 (keepsAuthorisation_write hreq hauth
      (mem_registry hmem) (client?_of_mem hlinked hmem) hsched htype hok hwrite)
  | join msg client client' name r₀ k f' l hevent hmem hnone hpre htls hname hjoins =>
    have hcand := candidate msg hlinked hmem hnone hpre htls hname
    obtain ⟨hkeeps, hverified⟩ := keepsAuthorisation_options hreq hauth msg (mem_registry hmem) htls
    exact (hauth.write (mem_registry hmem) (hcand.cluster.trans hnone.symm) hkeeps).joins
      hcand.linked hjoins hcand.mem hcand.name hverified
  | leave client hmem h => exact h ▸ hauth.remove _

theorem authorised_empty (settings : Settings) : Authorised settings ⟨[], [], 0⟩ := by
  constructor <;> simp

theorem authorised_of_reach {settings : Settings} (hreq : RequiresCertificate settings)
    {inst : QnetdInstance} (h : (instanceMachine settings).Reach TlsOk inst) :
    Authorised settings inst.registry := by
  refine Runs.Machine.Reach.invariant (fun inst => Authorised settings inst.registry)
    (authorised_empty settings) (fun hreach hauth hok hstep => ?_) h
  have hlinked := linked_of_reach hreach
  obtain ⟨res, hres, rfl⟩ := instanceMachine_step hstep
  exact (instanceStep_cases hlinked hres).authorised hreq hlinked hauth hok

/-- On a server that requires TLS and a client certificate, in every guarded run, a registered
    client has started TLS and its certificate is verified for the name of its cluster. -/
theorem tls_authorised (settings : Settings) (hreq : RequiresCertificate settings)
    {inst : QnetdInstance} (h : (instanceMachine settings).Reach TlsOk inst) :
    ∀ c ∈ inst.clients, ∀ k, c.cluster = some k → c.initReceived = true →
      ∃ entry ∈ inst.clusters, entry.id = k ∧ c.id ∈ entry.clientList ∧ c.tlsStarted = true ∧
        c.tlsPeerCertificateVerified = true ∧ ∃ cert, c.peerCertificate = some cert ∧
          settings.certVerifyCertName cert entry.clusterName = true := by
  intro c hc k hk _
  have hlinked := linked_of_reach h
  have hauth := authorised_of_reach hreq h
  obtain ⟨k', hk', rfl, hmem⟩ := hlinked.listed c.fixed (mem_registry hc) k hk
  obtain ⟨hverified, hcert⟩ := hauth.registered c.fixed (mem_registry hc) k' hk' hk
  obtain ⟨entry, hentry, rfl⟩ := List.mem_map.mp hk'
  exact ⟨entry, hentry, rfl, hmem, (hauth.verified c.fixed (mem_registry hc) hverified).1, hverified,
    hcert⟩

/-! ### The holder of one certificate -/

/-- A server that requires certificates, to which all the world shows a certificate for `a`. -/
def Settings.certificateForA : Settings :=
  { Settings.plain with
    tlsSupported := .required
    tlsClientCertRequired := true
    certVerifyCertName := fun _ name => name == [97] }

def starttlsMsg : MsgDecoded where
  type := MsgType.starttls.toUInt16

def echoRequestMsg : MsgDecoded where
  type := MsgType.echoRequest.toUInt16

/-- A connection with TLS that has the name `a`. -/
def tlsConnection : List (Env × InstanceEvent) :=
  [(.ok, .connect 1), (.ok, .message 1 (preinitMsg [97])),
    ({ Env.ok with startSsl := some (some 7) }, .message 1 starttlsMsg)]

/-- It joins the cluster `a`. -/
theorem tls_authorised_joined : ∃ inst,
    (instanceMachine .certificateForA).Reach TlsOk inst ∧
    ∃ c ∈ inst.clients, c.cluster = some 0 ∧ c.initReceived = true ∧
      ∃ entry ∈ inst.clusters, entry.id = 0 ∧ c.id ∈ entry.clientList ∧ c.tlsStarted = true ∧
        c.tlsPeerCertificateVerified = true ∧ ∃ cert, c.peerCertificate = some cert ∧
          Settings.certificateForA.certVerifyCertName cert entry.clusterName = true := by
  have hrun : ((instanceMachine .certificateForA).execWhile (fun s e => decide (TlsOk s e))
      (instanceMachine .certificateForA).init (tlsConnection ++
        [(.ok, .message 1 (initMsg .lms ⟨.lowest, 0⟩ 1 ⟨1, 4⟩))])).any (fun inst =>
        inst.clients.any fun c => decide (c.cluster = some 0) && c.initReceived) := by
    decide +kernel
  simp only [Option.any_eq_true, List.any_eq_true, Bool.and_eq_true, decide_eq_true_eq] at hrun
  obtain ⟨inst, hinst, c, hc, hcluster, hinit⟩ := hrun
  have hreach : (instanceMachine .certificateForA).Reach TlsOk inst :=
    Runs.Machine.Reach.execWhile (fun _ _ h => of_decide_eq_true h) .init hinst
  exact ⟨inst, hreach, c, hc, hcluster, hinit,
    tls_authorised .certificateForA ⟨rfl, rfl⟩ hreach c hc 0 hcluster hinit⟩

/-- It has its certificate verified by any message at all, changes its name to `b` and joins
    the cluster `b`, for which nobody has a certificate. -/
theorem tls_renamed : ∃ inst,
    (instanceMachine .certificateForA).Reach (fun _ _ => True) inst ∧
    ∃ c ∈ inst.clients, ∃ entry ∈ inst.clusters, c.cluster = some entry.id ∧
      c.initReceived = true ∧
      ∀ cert, Settings.certificateForA.certVerifyCertName cert entry.clusterName = false := by
  have hrun : ((instanceMachine .certificateForA).exec (instanceMachine .certificateForA).init
      (tlsConnection ++ [(.ok, .message 1 echoRequestMsg), (.ok, .message 1 (preinitMsg [98])),
        (.ok, .message 1 (initMsg .lms ⟨.lowest, 0⟩ 1 ⟨1, 4⟩))])).any (fun inst =>
        inst.clients.any fun c => inst.clusters.any fun entry =>
          decide (c.cluster = some entry.id) && c.initReceived &&
          decide (entry.clusterName = [98])) := by
    decide +kernel
  simp only [Option.any_eq_true, List.any_eq_true, Bool.and_eq_true, decide_eq_true_eq] at hrun
  obtain ⟨inst, hinst, c, hc, entry, hentry, ⟨hcluster, hinit⟩, hname⟩ := hrun
  refine ⟨inst, Runs.Machine.Reach.exec (fun _ _ => trivial) .init hinst, c, hc, entry, hentry,
    hcluster, hinit, fun cert => ?_⟩
  rw [hname]
  rfl

end Qdevice.Qnetd
