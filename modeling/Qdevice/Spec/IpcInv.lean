import Qdevice.Spec.IpcPhase

/-! # The invariant of the command server

The invariant of the server: the entries of the poll loop are those of the clients, in the same
order, and each client is in one of its phases.  A callback changes the client that its entry points
to, and what went over the socket of that client, and nothing else. -/

namespace Qdevice

/-! ### Lists with keys -/

section

variable {α β : Type} {l : List α} {key : α → β}

/-- Removing the first element with a key removes all of them if keys are unique. -/
private theorem eraseP_eq_filter [DecidableEq β] (hn : (l.map key).Nodup) (b : β) :
    l.eraseP (fun a => key a = b) = l.filter fun a => key a ≠ b := by
  induction l with
  | nil => rfl
  | cons a l ih =>
    rw [List.map_cons, List.nodup_cons] at hn
    by_cases ha : key a = b
    · have hothers : ∀ a' ∈ l, decide (key a' ≠ b) = true := by
        intro a' ha'
        apply decide_eq_true
        intro hb
        exact hn.1 (List.mem_map.mpr ⟨a', ha', hb.trans ha.symm⟩)
      rw [List.eraseP_cons_of_pos (by simpa using ha), List.filter_cons_of_neg (by simpa using ha),
        List.filter_eq_self.mpr hothers]
    · rw [List.eraseP_cons_of_neg (by simpa using ha), List.filter_cons_of_pos (by simpa using ha),
        ih hn.2]

/-- Two elements with one key are the same. -/
private theorem eq_of_key (hn : (l.map key).Nodup) {a a' : α} (ha : a ∈ l) (ha' : a' ∈ l)
    (h : key a = key a') : a = a' :=
  List.inj_on_of_nodup_map hn ha ha' h

end

/-! ### The invariant -/

/-- What an entry has in common with its client. -/
def IpcPollEntry.key (entry : IpcPollEntry) : Nat × Nat := (entry.fd, entry.client)

/-- An entry waits for no more than its client does. -/
def IpcPollEntry.Flagged (entry : IpcPollEntry) (client : UnixSocketClient) : Prop :=
  client.scheduleDisconnect = false →
    (entry.pollin = true → client.readingLine = true) ∧
      (entry.pollout = true → client.writingBuffer = true)

variable {W : Type} (texts : IpcTexts W) (daemon : IpcDaemon)
  (maxClients maxReceiveSize maxSendSize : Nat)

/-- The client asked for a shutdown and was told that it is done. -/
def IpcWire.ShutDown (wire : IpcWire W) : Prop :=
  10 ∈ wire.received ∧ wire.command daemon = .shutdown ∧ wire.sent = ipcOk ∧ wire.asked ≠ none

/-- The server between two events. -/
structure IpcState.Inv (state : IpcState W) : Prop where
  clientLimit : state.ipc.maxClients = maxClients
  receiveSize : state.ipc.maxReceiveSize = maxReceiveSize
  sendSize : state.ipc.maxSendSize = maxSendSize
  keys : state.entries.map IpcPollEntry.key = state.ipc.clients.map UnixSocketClient.key
  sockets : (state.ipc.clients.map UnixSocketClient.socket).Nodup
  addresses : (state.ipc.clients.map UnixSocketClient.address).Nodup
  old : ∀ client ∈ state.ipc.clients, client.address < state.ipc.clientCount
  few : state.ipc.maxClients ≠ 0 → state.ipc.clients.length ≤ state.ipc.maxClients
  phases : ∀ client ∈ state.ipc.clients,
    IpcPhase texts daemon maxReceiveSize maxSendSize (state.wire client.address) client
  flagged : ∀ entry ∈ state.entries, ∀ client ∈ state.ipc.clients,
    client.address = entry.client → entry.Flagged client
  served : ∀ address, (state.wire address).Served texts daemon maxSendSize
  fresh : ∀ address, state.ipc.clientCount ≤ address → state.wire address = {}
  closed : state.ipc.socket = none → state.signalled = true ∨
    ∃ address, (state.wire address).ShutDown daemon

variable {texts daemon maxClients maxReceiveSize maxSendSize} {state : IpcState W}

namespace IpcState.Inv

variable (h : state.Inv texts daemon maxClients maxReceiveSize maxSendSize)
include h

/-- The descriptors of the entries are those of the clients. -/
theorem fds :
    state.entries.map IpcPollEntry.fd = state.ipc.clients.map UnixSocketClient.socket := by
  have hkeys := congrArg (List.map Prod.fst) h.keys
  rwa [List.map_map, List.map_map] at hkeys

theorem fds_nodup : (state.entries.map IpcPollEntry.fd).Nodup := by
  rw [h.fds]
  exact h.sockets

/-- Every entry points to a client, the one with its descriptor. -/
theorem client_of_entry {entry : IpcPollEntry} (hentry : entry ∈ state.entries) :
    ∃ client ∈ state.ipc.clients, client.address = entry.client ∧ client.socket = entry.fd := by
  have hkey : entry.key ∈ state.ipc.clients.map UnixSocketClient.key := by
    rw [← h.keys]
    exact List.mem_map_of_mem hentry
  obtain ⟨client, hclient, heq⟩ := List.mem_map.mp hkey
  obtain ⟨hsocket, haddress⟩ := Prod.mk.inj heq
  exact ⟨client, hclient, haddress, hsocket⟩

/-- The client at an address. -/
theorem client?_eq {client : UnixSocketClient} (hclient : client ∈ state.ipc.clients) :
    state.ipc.client? client.address = some client := by
  unfold UnixSocketIpc.client?
  cases hfind : state.ipc.clients.find? fun other => other.address = client.address with
  | none =>
    have hno := List.find?_eq_none.mp hfind client hclient
    simp at hno
  | some other =>
    have haddress : other.address = client.address := by
      simpa using List.find?_some hfind
    rw [eq_of_key h.addresses (List.mem_of_find?_eq_some hfind) hclient haddress]

/-- A callback runs for an entry of the list, with a client that is still there. -/
theorem of_polled {fd : Nat} {p : IpcPollEntry × UnixSocketClient}
    (hpolled : state.polled fd = some p) :
    p.1 ∈ state.entries ∧ p.2 ∈ state.ipc.clients ∧ p.1.fd = fd ∧ p.2.address = p.1.client ∧
      p.2.socket = p.1.fd := by
  unfold IpcState.polled at hpolled
  obtain ⟨entry, hfind, hclient⟩ := Option.bind_eq_some_iff.mp hpolled
  obtain ⟨client, hclient, rfl⟩ := Option.map_eq_some_iff.mp hclient
  have hentry := List.mem_of_find?_eq_some hfind
  have hfd : entry.fd = fd := by simpa using List.find?_some hfind
  obtain ⟨client', hclient', haddress, hsocket⟩ := h.client_of_entry hentry
  rw [← haddress, h.client?_eq hclient'] at hclient
  cases hclient
  exact ⟨hentry, hclient', hfd, haddress, hsocket⟩

/-- No two entries point to one client. -/
theorem eq_of_client {entry entry' : IpcPollEntry} (hentry : entry ∈ state.entries)
    (hentry' : entry' ∈ state.entries) (heq : entry.client = entry'.client) : entry = entry' := by
  have hpointers : (state.entries.map IpcPollEntry.client).Nodup := by
    have hkeys := congrArg (List.map Prod.snd) h.keys
    rw [List.map_map, List.map_map] at hkeys
    change (state.entries.map (Prod.snd ∘ IpcPollEntry.key)).Nodup
    rw [hkeys]
    exact h.addresses
  exact eq_of_key hpointers hentry hentry' heq

/-- The callbacks of an entry never find a client that was freed. -/
theorem polled_ne_none {entry : IpcPollEntry} (hentry : entry ∈ state.entries) :
    ∃ client, state.polled entry.fd = some (entry, client) := by
  obtain ⟨client, hclient, haddress, -⟩ := h.client_of_entry hentry
  refine ⟨client, ?_⟩
  have hfind : state.entries.find? (fun other => other.fd = entry.fd) = some entry := by
    cases hfind : state.entries.find? fun other => other.fd = entry.fd with
    | none =>
      have hno := List.find?_eq_none.mp hfind entry hentry
      simp at hno
    | some other =>
      have hfd : other.fd = entry.fd := by simpa using List.find?_some hfind
      rw [eq_of_key h.fds_nodup (List.mem_of_find?_eq_some hfind) hentry hfd]
  unfold IpcState.polled
  rw [hfind, Option.bind_some, ← haddress, h.client?_eq hclient]
  rfl

/-! ### Changes of one client -/

/-- Writing to an entry changes what it waits for. -/
theorem setEntry {entry entry' : IpcPollEntry} (hentry : entry ∈ state.entries)
    (hkey : entry'.key = entry.key)
    (hflagged : ∀ client ∈ state.ipc.clients, client.address = entry.client →
      entry'.Flagged client) :
    (state.setEntry entry').Inv texts daemon maxClients maxReceiveSize maxSendSize := by
  obtain ⟨hfd, hclient⟩ := Prod.mk.inj hkey
  -- One entry has this descriptor, and it keeps its pointer.
  have hkeys : (state.setEntry entry').entries.map IpcPollEntry.key =
      state.entries.map IpcPollEntry.key := by
    unfold IpcState.setEntry
    dsimp only
    rw [List.map_map]
    apply List.map_congr_left
    intro other hother
    rw [Function.comp_apply]
    by_cases hsame : other.fd = entry'.fd
    · rw [if_pos hsame, hkey, eq_of_key h.fds_nodup hother hentry (hsame.trans hfd)]
    · rw [if_neg hsame]
  refine { h with keys := hkeys.trans h.keys, flagged := ?_ }
  intro other hother client hmem haddress
  obtain ⟨other', hother', rfl⟩ := List.mem_map.mp hother
  by_cases hsame : other'.fd = entry'.fd
  · rw [if_pos hsame] at haddress ⊢
    exact hflagged client hmem (haddress.trans hclient)
  · rw [if_neg hsame] at haddress ⊢
    exact h.flagged other' hother' client hmem haddress

/-- Writing to a client and to its socket.  An answer to `shutdown` that is complete stays so. -/
theorem setClient {client : UnixSocketClient} (hclient : client ∈ state.ipc.clients)
    (client' : UnixSocketClient) (hkey : client'.key = client.key) {wire' : IpcWire W}
    (hphase : IpcPhase texts daemon maxReceiveSize maxSendSize wire' client')
    (hflagged : ∀ entry ∈ state.entries, entry.client = client.address → entry.Flagged client')
    (hshutDown : (state.wire client.address).ShutDown daemon → wire'.ShutDown daemon) :
    ({ state with
        ipc := state.ipc.setClient client'
        wire := Function.update state.wire client.address wire' } :
      IpcState W).Inv texts daemon maxClients maxReceiveSize maxSendSize := by
  obtain ⟨hsocket, haddress⟩ := Prod.mk.inj hkey
  have hkeys : (state.ipc.setClient client').clients.map UnixSocketClient.key =
      state.ipc.clients.map UnixSocketClient.key := by
    unfold UnixSocketIpc.setClient
    dsimp only
    rw [List.map_map]
    apply List.map_congr_left
    intro other hother
    rw [Function.comp_apply]
    by_cases hsame : other.address = client'.address
    · rw [if_pos hsame, hkey, eq_of_key h.addresses hother hclient (hsame.trans haddress)]
    · rw [if_neg hsame]
  have hsockets : (state.ipc.setClient client').clients.map UnixSocketClient.socket =
      state.ipc.clients.map UnixSocketClient.socket := by
    have hfst := congrArg (List.map Prod.fst) hkeys
    rwa [List.map_map, List.map_map] at hfst
  have haddresses : (state.ipc.setClient client').clients.map UnixSocketClient.address =
      state.ipc.clients.map UnixSocketClient.address := by
    have hsnd := congrArg (List.map Prod.snd) hkeys
    rwa [List.map_map, List.map_map] at hsnd
  -- A client is either the one that was written, or one that is not at its address.
  have hcases : ∀ other ∈ (state.ipc.setClient client').clients,
      other = client' ∨ other ∈ state.ipc.clients ∧ other.address ≠ client.address := by
    intro other hother
    obtain ⟨other', hother', rfl⟩ := List.mem_map.mp hother
    by_cases hsame : other'.address = client'.address
    · rw [if_pos hsame]
      exact Or.inl rfl
    · rw [if_neg hsame]
      exact Or.inr ⟨hother', fun heq => hsame (heq.trans haddress.symm)⟩
  refine ⟨h.clientLimit, h.receiveSize, h.sendSize, h.keys.trans hkeys.symm, ?_, ?_, ?_, ?_,
    ?_, ?_, ?_, ?_, ?_⟩
  · rw [hsockets]
    exact h.sockets
  · rw [haddresses]
    exact h.addresses
  · intro other hother
    change other.address < state.ipc.clientCount
    rcases hcases other hother with rfl | ⟨hmem, -⟩
    · rw [haddress]
      exact h.old client hclient
    · exact h.old other hmem
  · intro hlimit
    have hlength := congrArg List.length haddresses
    rw [List.length_map, List.length_map] at hlength
    change (state.ipc.setClient client').clients.length ≤ _
    rw [hlength]
    exact h.few hlimit
  · intro other hother
    dsimp only
    rcases hcases other hother with rfl | ⟨hmem, hne⟩
    · rw [haddress, Function.update_self]
      exact hphase
    · rw [Function.update_of_ne hne]
      exact h.phases other hmem
  · intro entry hentry other hother hpointer
    rcases hcases other hother with rfl | ⟨hmem, -⟩
    · exact hflagged entry hentry (hpointer.symm.trans haddress)
    · exact h.flagged entry hentry other hmem hpointer
  · intro address
    dsimp only
    by_cases hsame : address = client.address
    · rw [hsame, Function.update_self]
      exact hphase.served
    · rw [Function.update_of_ne hsame]
      exact h.served address
  · intro address hcount
    have hne : address ≠ client.address := by
      rintro rfl
      exact Nat.not_le_of_lt (h.old client hclient) hcount
    dsimp only
    rw [Function.update_of_ne hne]
    exact h.fresh address hcount
  · intro hnone
    refine (h.closed hnone).imp_right ?_
    rintro ⟨address, hdone⟩
    refine ⟨address, ?_⟩
    dsimp only
    by_cases hsame : address = client.address
    · subst hsame
      rw [Function.update_self]
      exact hshutDown hdone
    · rw [Function.update_of_ne hsame]
      exact hdone

/-- `qnetd_ipc_close`, for a reason. -/
theorem close {signalled : Bool}
    (hreason : signalled = true ∨ ∃ address, (state.wire address).ShutDown daemon) :
    ({ state with ipc := unixSocketIpcClose state.ipc, signalled := signalled } :
      IpcState W).Inv texts daemon maxClients maxReceiveSize maxSendSize :=
  { h with closed := fun _ => hreason }

/-! ### Clients that come and go -/

/-- A client goes, and its entry with it. -/
theorem disconnect {entry : IpcPollEntry} {client : UnixSocketClient}
    (hclient : client ∈ state.ipc.clients) (hsocket : client.socket = entry.fd) :
    ({ state with
        ipc := unixSocketIpcClientDisconnect state.ipc client
        entries := state.entries.eraseP fun other => other.fd = entry.fd } :
      IpcState W).Inv texts daemon maxClients maxReceiveSize maxSendSize := by
  have hsublist : (unixSocketIpcClientDisconnect state.ipc client).clients.Sublist
      state.ipc.clients := List.filter_sublist
  have hentries : (state.entries.eraseP fun other => other.fd = entry.fd).Sublist state.entries :=
    List.eraseP_sublist
  -- Either list loses the pair of the descriptor and the address, which is there once.
  have hkeys : (state.entries.eraseP fun other => other.fd = entry.fd).map IpcPollEntry.key =
      (unixSocketIpcClientDisconnect state.ipc client).clients.map UnixSocketClient.key := by
    have hleft : (state.entries.eraseP fun other => other.fd = entry.fd).map IpcPollEntry.key =
        (state.ipc.clients.map UnixSocketClient.key).filter fun key => key.1 ≠ entry.fd := by
      rw [← h.keys, eraseP_eq_filter h.fds_nodup, List.filter_map]
      rfl
    have hright : (unixSocketIpcClientDisconnect state.ipc client).clients.map
        UnixSocketClient.key =
        (state.ipc.clients.map UnixSocketClient.key).filter fun key => key.2 ≠ client.address := by
      rw [List.filter_map]
      rfl
    rw [hleft, hright]
    apply List.filter_congr
    intro key hkey
    obtain ⟨other, hother, rfl⟩ := List.mem_map.mp hkey
    rw [decide_eq_decide]
    unfold UnixSocketClient.key
    dsimp only
    constructor
    · intro hfd haddress
      rw [eq_of_key h.addresses hother hclient haddress] at hfd
      exact hfd hsocket
    · intro haddress hfd
      rw [eq_of_key h.sockets hother hclient (hfd.trans hsocket.symm)] at haddress
      exact haddress rfl
  exact
    { clientLimit := h.clientLimit
      receiveSize := h.receiveSize
      sendSize := h.sendSize
      keys := hkeys
      sockets := h.sockets.sublist (hsublist.map _)
      addresses := h.addresses.sublist (hsublist.map _)
      old := fun other hother => h.old other (hsublist.subset hother)
      few := fun hlimit => Nat.le_trans hsublist.length_le (h.few hlimit)
      phases := fun other hother => h.phases other (hsublist.subset hother)
      flagged := fun entry hentry other hother =>
        h.flagged entry (hentries.subset hentry) other (hsublist.subset hother)
      served := h.served
      fresh := h.fresh
      closed := h.closed }

omit h in
/-- Only the new client is at the new address. -/
private theorem setClient_append {ipc : UnixSocketIpc} (clientCount : Nat)
    (client client' : UnixSocketClient)
    (hnew : ∀ other ∈ ipc.clients, other.address ≠ client'.address)
    (haddress : client.address = client'.address) :
    ({ ipc with clients := ipc.clients ++ [client], clientCount := clientCount } :
      UnixSocketIpc).setClient client' =
    { ipc with clients := ipc.clients ++ [client'], clientCount := clientCount } := by
  unfold UnixSocketIpc.setClient
  have hothers : ipc.clients.map (fun other =>
      if other.address = client'.address then client' else other) = ipc.clients := by
    refine (List.map_congr_left fun other hother => ?_).trans (List.map_id _)
    exact if_neg (hnew other hother)
  dsimp only
  rw [List.map_append, hothers, List.map_singleton, if_pos haddress]

/-- What `qnetd_ipc_accept` does with a new socket. -/
theorem accept_eq {sock : Nat} (hsock : ∀ client ∈ state.ipc.clients, client.socket ≠ sock) :
    state.accept (some sock) =
      if state.ipc.maxClients ≠ 0 ∧ state.ipc.clients.length ≥ state.ipc.maxClients then state
      else
        { state with
          ipc := { state.ipc with
            clients := state.ipc.clients ++ [unixSocketClientReadLine (unixSocketClientInit
              state.ipc.clientCount sock state.ipc.maxReceiveSize state.ipc.maxSendSize) true]
            clientCount := state.ipc.clientCount + 1 }
          entries := state.entries ++ [{ fd := sock, client := state.ipc.clientCount }] } := by
  unfold IpcState.accept unixSocketIpcAccept unixSocketClientListNoClients
  by_cases hlimit : state.ipc.maxClients ≠ 0 ∧ state.ipc.clients.length ≥ state.ipc.maxClients
  · simp only [if_pos hlimit]
  have hfd : (unixSocketClientInit state.ipc.clientCount sock state.ipc.maxReceiveSize
      state.ipc.maxSendSize).socket ∉ state.entries.map IpcPollEntry.fd := by
    rw [h.fds]
    intro hmem
    obtain ⟨client, hclient, heq⟩ := List.mem_map.mp hmem
    exact hsock client hclient heq
  simp only [if_neg hlimit, unixSocketClientListAdd]
  have hnew : ∀ other ∈ state.ipc.clients, other.address ≠ state.ipc.clientCount :=
    fun other hother => Nat.ne_of_lt (h.old other hother)
  have hset := setClient_append (state.ipc.clientCount + 1)
    (unixSocketClientInit state.ipc.clientCount sock state.ipc.maxReceiveSize state.ipc.maxSendSize)
    (unixSocketClientReadLine (unixSocketClientInit state.ipc.clientCount sock
      state.ipc.maxReceiveSize state.ipc.maxSendSize) true) hnew rfl
  rw [if_neg hfd, hset]
  rfl

/-- A client comes. -/
theorem accept {sock : Option Nat}
    (hsock : ∀ fd ∈ sock, state.ipc.socket ≠ none ∧
      ∀ client ∈ state.ipc.clients, client.socket ≠ fd) :
    (state.accept sock).Inv texts daemon maxClients maxReceiveSize maxSendSize := by
  cases sock with
  | none => exact h
  | some fd =>
    obtain ⟨hopen, hfree⟩ := hsock fd rfl
    rw [h.accept_eq hfree]
    split
    · exact h
    next hlimit =>
    -- No client has ever been at the new address, so nothing went over a socket there.
    have hnew : ∀ client ∈ state.ipc.clients, client.address ≠ state.ipc.clientCount :=
      fun client hclient => Nat.ne_of_lt (h.old client hclient)
    have hwire : state.wire state.ipc.clientCount = {} := h.fresh _ (Nat.le_refl _)
    refine ⟨h.clientLimit, h.receiveSize, h.sendSize, ?_, ?_, ?_, ?_, ?_, ?_, ?_, h.served, ?_, ?_⟩
    · dsimp only
      rw [List.map_append, List.map_append, h.keys]
      rfl
    · dsimp only
      rw [List.map_append]
      refine List.nodup_append.mpr ⟨h.sockets, by simp, ?_⟩
      intro s hs s' hs'
      obtain ⟨client, hclient, rfl⟩ := List.mem_map.mp hs
      rw [List.mem_singleton.mp hs']
      exact hfree client hclient
    · dsimp only
      rw [List.map_append]
      refine List.nodup_append.mpr ⟨h.addresses, by simp, ?_⟩
      intro a ha a' ha'
      obtain ⟨client, hclient, rfl⟩ := List.mem_map.mp ha
      rw [List.mem_singleton.mp ha']
      exact hnew client hclient
    · intro client hclient
      dsimp only at hclient ⊢
      rcases List.mem_append.mp hclient with hmem | hmem
      · exact Nat.lt_succ_of_lt (h.old client hmem)
      · rw [List.mem_singleton.mp hmem]
        exact Nat.lt_succ_self _
    · intro hpos
      dsimp only at hpos ⊢
      rw [List.length_append, List.length_singleton]
      have hfew := h.few hpos
      have hroom : ¬ state.ipc.clients.length ≥ state.ipc.maxClients :=
        fun hge => hlimit ⟨hpos, hge⟩
      omega
    · intro client hclient
      dsimp only at hclient ⊢
      rcases List.mem_append.mp hclient with hmem | hmem
      · exact h.phases client hmem
      · rw [List.mem_singleton.mp hmem]
        change IpcPhase texts daemon maxReceiveSize maxSendSize (state.wire state.ipc.clientCount) _
        rw [hwire, h.receiveSize, h.sendSize]
        exact .reading
          ⟨rfl, rfl, rfl, rfl, rfl, Nat.zero_le _, List.not_mem_nil, rfl, rfl, rfl, rfl⟩
    · intro entry hentry client hclient haddress
      dsimp only at hentry hclient
      rcases List.mem_append.mp hentry with hold | hold
      · rcases List.mem_append.mp hclient with hmem | hmem
        · exact h.flagged entry hold client hmem haddress
        · obtain ⟨client', hclient', heq, -⟩ := h.client_of_entry hold
          rw [List.mem_singleton.mp hmem] at haddress
          exact absurd (heq.trans haddress.symm) (hnew client' hclient')
      · rw [List.mem_singleton.mp hold]
        -- It is not asked for before the next round.
        intro _
        constructor
        · intro hpollin
          cases hpollin
        · intro hpollout
          cases hpollout
    · intro address hcount
      exact h.fresh address (Nat.le_of_succ_le hcount)
    · intro hnone
      exact absurd hnone hopen

end IpcState.Inv

end Qdevice
