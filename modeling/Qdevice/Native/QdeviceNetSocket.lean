import Qdevice.Native.QdeviceModelNet
import Qdevice.Native.SendBufferMemory

/-! # The socket of the net instance

`qdevice-net-socket.c`: reading from and writing to qnetd, and the non-blocking connect before
that.  A callback that returns `false` ends the poll loop. -/

namespace Qdevice.Net

variable (env : NetEnv)

/-- `qdevice_net_socket_read`.  `alloc` is whether the receive buffer can grow. -/
def qdeviceNetSocketRead (alloc : Bool) (recv : Recv) : NetM Bool := do
  let inst ← Prog.get
  let (reader, res) := msgioRead alloc recv inst.net.reader
  modifyNet fun net => { net with reader := reader }
  match res with
  | .partialRead => return true
  | .endOfConnection => failWith .serverClosedConnection
  | .unhandledError | .cantStoreHeader | .cantStoreMessage | .msgTooLong =>
    failWith .cantReadMessage
  | .invalidMsgType => failWith .unsupportedMsg
  | .fullMessage =>
    if reader.skippingMsg then Prog.stop
    else
      let ok ← qdeviceNetMsgReceived env reader.receiveBuffer.toDynar
      modifyNet fun net => { net with reader := net.reader.reset }
      return ok

/-- `qdevice_net_socket_write_finished`. -/
def qdeviceNetSocketWriteFinished : NetM Bool := do
  let inst ← Prog.get
  if inst.net.state ≠ .waitingStarttlsBeingSent then return true
  if env.startSsl = false then return ← failWith .cantStartTls
  modifyNet fun net => { net with sslStarted := true }
  let ok ← qdeviceNetSendInit env
  if ok = false then return ← failWith .cantAllocateMsgBuffer
  modifyNet fun net => { net with socket := some .tls, usingTls := true }
  return true

/-- The record of a call of `msgio_write`. -/
def NetInstance.recordWrite (msg : Dynar) (net : NetInstance) : NetInstance :=
  { net with
    writes := net.writes ++ [⟨msgGetType msg, net.socket, net.negotiated, net.sslStarted⟩] }

/-- `qdevice_net_socket_write`. -/
def qdeviceNetSocketWrite (send : Send) : NetM Bool := do
  let inst ← Prog.get
  match sendBufferListGetActive inst.net.sendBufferList with
  | none => failWith .cantSendMessage
  | some entry =>
    modifyNet (NetInstance.recordWrite entry.buffer)
    match msgioWrite send entry.buffer entry.msgAlreadySentBytes with
    | (.allSent, _) =>
      modifyNet fun net => { net with
        sendBufferList := sendBufferListDeleteActive net.sendBufferList }
      if msgGetType entry.buffer = MsgType.echoRequest.toUInt16 then return true
      qdeviceNetSocketWriteFinished env
    | (.notAllSent, alreadySentBytes) =>
      modifyNet fun net => { net with
        sendBufferList := { net.sendBufferList with
          list := { entry with msgAlreadySentBytes := alreadySentBytes } ::
            net.sendBufferList.list.tail } }
      return true
    | (.sentNothing, _) => failWith .serverClosedConnection
    | (.unhandledError, _) => failWith .cantSendMessage

/-- What `socket_read_cb` and `socket_write_cb` do with the result of the two functions above. -/
def socketCb (callback : NetM Bool) : NetM Bool := do
  let ok ← callback
  if ok = false then modifyNet fun net => { net with scheduleDisconnect := true }
  return ok

/-- `socket_err_cb`. -/
def socketErrCb : NetM Bool := do
  disconnectWith .serverClosedConnection
  return false

/-- `qdevice_net_socket_add_to_main_poll_loop`. -/
def qdeviceNetSocketAddToMainPollLoop (net : NetInstance) : Bool :=
  net.state = .waitingConnect ∧ net.nonBlockingClientDestroyed ∨ env.addPrfd

/-- `qdevice_net_socket_del_from_main_poll_loop`. -/
def qdeviceNetSocketDelFromMainPollLoop (net : NetInstance) : Bool :=
  net.nonBlockingClientDestroyed ∧ net.socket = none ∨ env.delPrfd

/-- The return values of `nss_sock_non_blocking_client_succeeded`: -1, 0 and 1. -/
inductive ConnectStatus where
  | failed
  | inProgress
  | connected
deriving DecidableEq

/-- `non_blocking_client_socket_write_cb`, which `non_blocking_client_socket_err_cb` calls, too. -/
def nonBlockingClientSocketWriteCb (status : ConnectStatus) : NetM Bool := do
  let inst ← Prog.get
  match status with
  | .failed =>
    if qdeviceNetSocketDelFromMainPollLoop env inst.net = false then return false
    modifyNet fun net => { net with nonBlockingClientDestroyed := !env.clientTryNext }
    let inst ← Prog.get
    return qdeviceNetSocketAddToMainPollLoop env inst.net
  | .inProgress => return true
  | .connected =>
    if qdeviceNetSocketDelFromMainPollLoop env inst.net = false then return false
    modifyNet fun net => { net with
      socket := some .plain
      nonBlockingClientDestroyed := true
      state := .sendingPreinitReply }
    let inst ← Prog.get
    if qdeviceNetSocketAddToMainPollLoop env inst.net = false then return false
    let ok ← qdeviceNetSendPreinit env
    if ok = false then return ← failWith .cantAllocateMsgBuffer
    return true

end Qdevice.Net
