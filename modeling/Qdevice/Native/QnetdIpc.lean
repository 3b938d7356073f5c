import Qdevice.Native.ProcessList
import Qdevice.Native.UnixSocketIpc
import Qdevice.ForStd.Runs
import Mathlib.Logic.Function.Basic

/-! # Local commands

`qnetd-ipc.c`, and `qdevice-ipc.c`, which is the same program but for `qdevice_ipc_parse_line`: a
client on the local socket sends one line, the daemon answers, and the connection is closed.  The
texts that the commands print are an argument, as the pieces that they append to the buffer.

A client has an entry in the poll loop with a pointer to it.  `IpcEvent` are the callbacks of the
entries, in any order; a descriptor is reported for reading or writing at most once after each time
that the callback `set_events` asked for it. -/

namespace Qdevice

/-! ### Strings -/

/-- `tolower` in the C locale. -/
def toLower (c : UInt8) : UInt8 := if 65 ≤ c ∧ c ≤ 90 then c + 32 else c

/-- `strcasecmp (s1, s2) == 0`. -/
def strcasecmpEq (s1 s2 : List UInt8) : Bool := s1.map toLower = s2.map toLower

/-- `dynar_prepend`. -/
def dynarPrepend (src : List UInt8) : DynarM Unit := fun array =>
  if dynarSize array + src.length > dynarMaxSize array then (none, array)
  else (some (), { array with data := src ++ array.data })

/-- `dynar_str_prepend`. -/
def dynarStrPrepend (str : List UInt8) : DynarM Unit := dynarPrepend str

/-- One call of `dynar_str_catf` after the other, as in `qnetd_ipc_cmd_status`. -/
def dynarStrCatfs : List (List UInt8) → DynarM Unit
  | [] => pure ()
  | text :: texts => do
    dynarStrCatf text
    dynarStrCatfs texts

/-! ### Answers -/

/-- `"OK\n"`. -/
def ipcOk : List UInt8 := Text.ofChars ['O', 'K', '\n']

/-- `"Error\n"`. -/
def ipcError : List UInt8 := Text.ofChars ['E', 'r', 'r', 'o', 'r', '\n']

/-- `"Internal IPC buffer too small"`. -/
def ipcBufferTooSmall : List UInt8 :=
  Text.ofChars ['I', 'n', 't', 'e', 'r', 'n', 'a', 'l', ' ', 'I', 'P', 'C', ' ', 'b', 'u', 'f', 'f',
    'e', 'r', ' ', 't', 'o', 'o', ' ', 's', 'm', 'a', 'l', 'l']

/-- `"Command too long"`. -/
def ipcCommandTooLong : List UInt8 :=
  Text.ofChars ['C', 'o', 'm', 'm', 'a', 'n', 'd', ' ', 't', 'o', 'o', ' ', 'l', 'o', 'n', 'g']

/-- `"No command specified"`. -/
def ipcNoCommand : List UInt8 :=
  Text.ofChars ['N', 'o', ' ', 'c', 'o', 'm', 'm', 'a', 'n', 'd', ' ', 's', 'p', 'e', 'c', 'i', 'f',
    'i', 'e', 'd']

/-- `"Unknown command '%s'"`. -/
def ipcUnknownCommand (str : List UInt8) : List UInt8 :=
  Text.ofChars ['U', 'n', 'k', 'n', 'o', 'w', 'n', ' ', 'c', 'o', 'm', 'm', 'a', 'n', 'd', ' ',
    '\''] ++ str ++ Text.ofChars ['\'']

/-- `"Can't get QNetd status"`. -/
def qnetdIpcNoStatus : List UInt8 :=
  Text.ofChars ['C', 'a', 'n', '\'', 't', ' ', 'g', 'e', 't', ' ', 'Q', 'N', 'e', 't', 'd', ' ',
    's', 't', 'a', 't', 'u', 's']

/-- `"Can't get QNetd cluster list"`. -/
def qnetdIpcNoList : List UInt8 :=
  Text.ofChars ['C', 'a', 'n', '\'', 't', ' ', 'g', 'e', 't', ' ', 'Q', 'N', 'e', 't', 'd', ' ',
    'c', 'l', 'u', 's', 't', 'e', 'r', ' ', 'l', 'i', 's', 't']

/-- `"Can't get QDevice status"`. -/
def qdeviceIpcNoStatus : List UInt8 :=
  Text.ofChars ['C', 'a', 'n', '\'', 't', ' ', 'g', 'e', 't', ' ', 'Q', 'D', 'e', 'v', 'i', 'c',
    'e', ' ', 's', 't', 'a', 't', 'u', 's']

/-- `dynar_str_vcatf (…) > 0`, of the text that the format and its arguments give. -/
def dynarStrVcatfPos (text : List UInt8) : DynarM Unit :=
  if text = [] then DynarM.fail else dynarStrCatf text

/-- What `qnetd_ipc_send_error` writes. -/
def ipcErrorText (text : List UInt8) : DynarM Unit := do
  dynarStrCpy ipcError
  dynarStrVcatfPos text
  dynarStrCat [10]

/-- `qnetd_ipc_send_error`, and whether it returns 0. -/
def ipcSendError (client : UnixSocketClient) (text : List UInt8) : Bool × UnixSocketClient :=
  match ipcErrorText text client.sendBuffer with
  | (none, sendBuffer) => (false, { client with sendBuffer := sendBuffer })
  | (some (), sendBuffer) =>
    (true, unixSocketClientWriteBuffer { client with sendBuffer := sendBuffer } true)

/-- `qnetd_ipc_send_buffer`, and whether it returns 0. -/
def ipcSendBuffer (client : UnixSocketClient) : Bool × UnixSocketClient :=
  match dynarStrPrepend ipcOk client.sendBuffer with
  | (none, sendBuffer) => ipcSendError { client with sendBuffer := sendBuffer } ipcBufferTooSmall
  | (some (), sendBuffer) =>
    (true, unixSocketClientWriteBuffer { client with sendBuffer := sendBuffer } true)

/-- What the callers of both do if the result is not 0. -/
def orDisconnect (res : Bool × UnixSocketClient) : UnixSocketClient :=
  if res.1 then res.2 else { res.2 with scheduleDisconnect := true }

/-- The answer with what a command prints, or with an error if that does not fit. -/
def ipcSendTexts (client : UnixSocketClient) (texts : List (List UInt8)) (failure : List UInt8) :
    UnixSocketClient :=
  match dynarStrCatfs texts client.sendBuffer with
  | (none, sendBuffer) =>
    orDisconnect (ipcSendError { client with sendBuffer := sendBuffer } failure)
  | (some (), sendBuffer) => orDisconnect (ipcSendBuffer { client with sendBuffer := sendBuffer })

/-! ### Commands -/

def ipcShutdown : List UInt8 := Text.ofChars ['s', 'h', 'u', 't', 'd', 'o', 'w', 'n']

def ipcStatus : List UInt8 := Text.ofChars ['s', 't', 'a', 't', 'u', 's']

def ipcList : List UInt8 := Text.ofChars ['l', 'i', 's', 't']

def ipcVerbose : List UInt8 := Text.ofChars ['v', 'e', 'r', 'b', 'o', 's', 'e']

def ipcCluster : List UInt8 := Text.ofChars ['c', 'l', 'u', 's', 't', 'e', 'r']

/-- What `qnetd_ipc_cmd_status` and `qnetd_ipc_cmd_list` print when the daemon is in some state, and
    `qdevice_ipc_cmd_status` likewise. -/
structure IpcTexts (W : Type) where
  status : W → Bool → List (List UInt8)
  list : W → Bool → Option (List UInt8) → List (List UInt8)

variable {W : Type} (texts : IpcTexts W)

theorem length_left_tokenNext_le {lex lex' : DynarSimpleLex} {token : Dynar}
    (h : lex.tokenNext = (some token, lex')) : lex'.left.length ≤ lex.left.length := by
  obtain ⟨rfl, hleft, -⟩ := lex.tokenNext_keeps h
  rw [hleft]
  exact (dynarSimpleLexTokenNext_suffix lex.lexType lex.left).length_le

/-- The loop of `qnetd_ipc_parse_line` over the options of `list`.  `none` is the way to
    `exit_err_low_mem`. -/
def qnetdIpcListOptions (lex : DynarSimpleLex) (verbose : Bool)
    (clusterName : Option (List UInt8)) : Option (Bool × Option (List UInt8)) :=
  match _hnext : lex.tokenNext with
  | (none, _) => some (verbose, clusterName)
  | (some token, lex') =>
    if _hempty : cString token.data = [] then some (verbose, clusterName)
    else if strcasecmpEq (cString token.data) ipcVerbose then
      qnetdIpcListOptions lex' true clusterName
    else if strcasecmpEq (cString token.data) ipcCluster then
      match _hname : lex'.tokenNext with
      | (none, _) => none
      | (some name, lex'') => qnetdIpcListOptions lex'' verbose (some (cString name.data))
    else some (verbose, clusterName)
termination_by lex.left.length
decreasing_by
  · exact length_left_tokenNext _hnext _hempty
  · exact Nat.lt_of_le_of_lt (length_left_tokenNext_le _hname)
      (length_left_tokenNext _hnext _hempty)

/-- `qnetd_ipc_parse_line`. -/
def qnetdIpcParseLine (inst : W) (client : UnixSocketClient) : UnixSocketClient :=
  let lowMem := orDisconnect (ipcSendError client ipcCommandTooLong)
  match (DynarSimpleLex.init client.receiveBuffer .quote).tokenNext with
  | (none, _) => lowMem
  | (some token, lex) =>
    let str := cString token.data
    if strcasecmpEq str [] then orDisconnect (ipcSendError client ipcNoCommand)
    else if strcasecmpEq str ipcShutdown then
      orDisconnect (ipcSendBuffer { client with shutdownRequested := true })
    else if strcasecmpEq str ipcStatus then
      match lex.tokenNext with
      | (none, _) => lowMem
      | (some token, _) =>
        let verbose := cString token.data ≠ [] ∧ strcasecmpEq (cString token.data) ipcVerbose
        ipcSendTexts client (texts.status inst verbose) qnetdIpcNoStatus
    else if strcasecmpEq str ipcList then
      match qnetdIpcListOptions lex false none with
      | none => lowMem
      | some (verbose, clusterName) =>
        ipcSendTexts client (texts.list inst verbose clusterName) qnetdIpcNoList
    else orDisconnect (ipcSendError client (ipcUnknownCommand str))

/-- `qdevice_ipc_parse_line`.  Here a token that did not fit behind `status` is no error. -/
def qdeviceIpcParseLine (inst : W) (client : UnixSocketClient) : UnixSocketClient :=
  match (DynarSimpleLex.init client.receiveBuffer .plain).tokenNext with
  | (none, _) => orDisconnect (ipcSendError client ipcCommandTooLong)
  | (some token, lex) =>
    let str := cString token.data
    if strcasecmpEq str [] then orDisconnect (ipcSendError client ipcNoCommand)
    else if strcasecmpEq str ipcShutdown then
      orDisconnect (ipcSendBuffer { client with shutdownRequested := true })
    else if strcasecmpEq str ipcStatus then
      let verbose :=
        match lex.tokenNext with
        | (none, _) => false
        | (some token, _) =>
          decide (cString token.data ≠ [] ∧ strcasecmpEq (cString token.data) ipcVerbose)
      ipcSendTexts client (texts.status inst verbose) qdeviceIpcNoStatus
    else orDisconnect (ipcSendError client (ipcUnknownCommand str))

/-- The two daemons. -/
inductive IpcDaemon where
  | qnetd
  | qdevice
deriving DecidableEq

def IpcDaemon.parseLine : IpcDaemon → W → UnixSocketClient → UnixSocketClient
  | .qnetd => qnetdIpcParseLine texts
  | .qdevice => qdeviceIpcParseLine texts

variable (daemon : IpcDaemon)

/-- `qnetd_ipc_io_read`. -/
def ipcIoRead (inst : W) (client : UnixSocketClient) (readed : RecvResult) : UnixSocketClient :=
  match unixSocketClientIoRead client readed with
  | (.more, client) => client
  | (.done, client) => daemon.parseLine texts inst (unixSocketClientReadLine client false)
  | (.endOfConnection, client) | (.tooLong, client) | (.unhandled, client) =>
    { client with scheduleDisconnect := true }

/-- `qnetd_ipc_io_write`, and whether it calls `qnetd_ipc_close`. -/
def ipcIoWrite (client : UnixSocketClient) (sent : SendResult) : UnixSocketClient × Bool :=
  match unixSocketClientIoWrite client sent with
  | (.more, client) => (client, false)
  | (.done, client) =>
    ({ unixSocketClientWriteBuffer client false with scheduleDisconnect := true },
      client.shutdownRequested)
  | (.endOfConnection, client) | (.tooLong, client) | (.unhandled, client) =>
    ({ client with scheduleDisconnect := true }, false)

/-! ### Callbacks of the poll loop -/

/-- The entry of a client in the poll loop: its descriptor, the pointer to the client, and whether
    the descriptor is still to be reported for reading and for writing. -/
structure IpcPollEntry where
  fd : Nat
  client : Nat
  pollin : Bool := false
  pollout : Bool := false
deriving DecidableEq

/-- What went over the socket of a client: what `recv` gave and what `send` took, and the state that
    the daemon was in when it parsed a line. -/
structure IpcWire (W : Type) where
  received : List UInt8 := []
  sent : List UInt8 := []
  asked : Option W := none

/-- The server, the entries of its clients, and the state of the daemon. -/
structure IpcState (W : Type) where
  ipc : UnixSocketIpc
  entries : List IpcPollEntry := []
  inst : W
  /-- A signal handler has closed the listening socket. -/
  signalled : Bool := false
  /-- Of each client by its address, also when it is gone. -/
  wire : Nat → IpcWire W := fun _ => {}

namespace IpcState

variable (state : IpcState W)

/-- `qnetd_ipc_accept`, as the callback of the listening socket calls it. -/
def accept (sock : Option Nat) : IpcState W :=
  match unixSocketIpcAccept state.ipc sock with
  | (none, ipc) => { state with ipc := ipc }
  | (some client, ipc) =>
    let ipc := ipc.setClient (unixSocketClientReadLine client true)
    -- `pr_poll_loop_add_fd` refuses a descriptor that is in the list already.
    if client.socket ∈ state.entries.map IpcPollEntry.fd then
      { state with ipc := unixSocketIpcClientDisconnect ipc client }
    else
      { state with
        ipc := ipc
        entries := state.entries ++ [{ fd := client.socket, client := client.address }] }

/-- The entry of a descriptor with the client that its pointer leads to. -/
def polled (fd : Nat) : Option (IpcPollEntry × UnixSocketClient) :=
  (state.entries.find? fun entry => entry.fd = fd).bind fun entry =>
    (state.ipc.client? entry.client).map fun client => (entry, client)

/-- Write to the entry of a descriptor. -/
def setEntry (entry : IpcPollEntry) : IpcState W :=
  { state with entries := state.entries.map fun other =>
      if other.fd = entry.fd then entry else other }

/-- `ipc_client_socket_poll_loop_set_events_cb`, and with it what the loop does on its result. -/
def setEventsCb (entry : IpcPollEntry) (client : UnixSocketClient) : IpcState W :=
  if client.scheduleDisconnect then
    { state with
      ipc := unixSocketIpcClientDisconnect state.ipc client
      entries := state.entries.eraseP fun other => other.fd = entry.fd }
  else
    state.setEntry
      { entry with pollin := client.readingLine, pollout := client.writingBuffer }

/-- `ipc_client_socket_poll_loop_read_cb`. -/
def readCb (entry : IpcPollEntry) (client : UnixSocketClient) (readed : RecvResult) : IpcState W :=
  let state := state.setEntry { entry with pollin := false }
  if client.scheduleDisconnect then state
  else
    let wire := state.wire client.address
    { state with
      ipc := state.ipc.setClient (ipcIoRead texts daemon state.inst client readed)
      wire := Function.update state.wire client.address
        { wire with
          received := wire.received ++ readed.buf
          asked := if (unixSocketClientIoRead client readed).1 = .done then some state.inst
            else wire.asked } }

/-- `ipc_client_socket_poll_loop_write_cb`. -/
def writeCb (entry : IpcPollEntry) (client : UnixSocketClient) (sent : SendResult) : IpcState W :=
  let state := state.setEntry { entry with pollout := false }
  if client.scheduleDisconnect then state
  else
    let wire := state.wire client.address
    let ipc := state.ipc.setClient (ipcIoWrite client sent).1
    { state with
      ipc := if (ipcIoWrite client sent).2 then unixSocketIpcClose ipc else ipc
      wire := Function.update state.wire client.address
        { wire with sent := wire.sent ++ (unixSocketClientToSend client).take sent.sent } }

/-- `ipc_client_socket_poll_loop_err_cb`. -/
def errCb (client : UnixSocketClient) : IpcState W :=
  { state with ipc := state.ipc.setClient { client with scheduleDisconnect := true } }

end IpcState

/-- What can happen: a callback for the listening socket or for the entry of a descriptor, a signal
    that ends the daemon, or other work of the daemon. -/
inductive IpcEvent (W : Type) where
  | accept (sock : Option Nat)
  | setEvents (fd : Nat)
  | read (fd : Nat) (readed : RecvResult)
  | write (fd : Nat) (sent : SendResult)
  | err (fd : Nat)
  | signal
  | other (inst : W)

/-- One event.  Without an entry, or with a pointer to a client that was freed, there is none. -/
def IpcState.step (state : IpcState W) : IpcEvent W → Option (IpcState W)
  | .accept sock => some (state.accept sock)
  | .setEvents fd => (state.polled fd).map fun p => state.setEventsCb p.1 p.2
  | .read fd readed => (state.polled fd).map fun p => state.readCb texts daemon p.1 p.2 readed
  | .write fd sent => (state.polled fd).map fun p => state.writeCb p.1 p.2 sent
  | .err fd => (state.polled fd).map fun p => state.errCb p.2
  | .signal => some { state with ipc := unixSocketIpcClose state.ipc, signalled := true }
  | .other inst => some { state with inst := inst }

/-- What the kernel promises: `accept` gives descriptors that are not open, and only for an open
    socket; a descriptor is reported for what it was asked for; `recv` and `send` do not exceed the
    buffer. -/
def IpcOk (state : IpcState W) : IpcEvent W → Prop
  | .accept sock => ∀ fd ∈ sock, state.ipc.socket ≠ none ∧
      ∀ client ∈ state.ipc.clients, client.socket ≠ fd
  | .read fd readed => ∀ p ∈ state.polled fd, p.1.pollin = true ∧
      readed.buf.length ≤ unixSocketClientBuffer
  | .write fd sent => ∀ p ∈ state.polled fd, p.1.pollout = true ∧
      sent.sent ≤ (unixSocketClientToSend p.2).length
  | .setEvents _ | .err _ | .signal | .other _ => True

/-- `qnetd_ipc_init`, and everything after it. -/
def ipcMachine (listening maxClients maxReceiveSize maxSendSize : Nat) (inst : W) :
    Runs.Machine (IpcState W) (IpcEvent W) where
  init :=
    { ipc := { socket := some listening, maxClients, maxReceiveSize, maxSendSize }
      inst := inst }
  step := IpcState.step texts daemon

end Qdevice
