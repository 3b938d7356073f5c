import Qdevice.Native.Dynar

/-! # A server on a unix socket

`unix-socket-client.c`, `unix-socket-client-list.c` and `unix-socket-ipc.c`.  What `accept`, `recv`
and `send` return is an argument.  A client has an address that is not used again, so that a pointer
to a client that was freed is seen; allocation succeeds. -/

namespace Qdevice

/-! ### Clients -/

/-- `UNIX_SOCKET_CLIENT_BUFFER`. -/
def unixSocketClientBuffer : Nat := 256

/-- `struct unix_socket_client`.  `shutdownRequested` is the only member of the user data. -/
structure UnixSocketClient where
  address : Nat
  socket : Nat
  receiveBuffer : Dynar
  sendBuffer : Dynar
  msgAlreadyReceivedBytes : Nat := 0
  msgAlreadySentBytes : Nat := 0
  readingLine : Bool := false
  writingBuffer : Bool := false
  scheduleDisconnect : Bool := false
  shutdownRequested : Bool := false
deriving DecidableEq

/-- `unix_socket_client_init`. -/
def unixSocketClientInit (address sock maxReceiveSize maxSendSize : Nat) : UnixSocketClient where
  address := address
  socket := sock
  receiveBuffer := dynarInit maxReceiveSize
  sendBuffer := dynarInit maxSendSize

/-- `unix_socket_client_read_line`. -/
def unixSocketClientReadLine (client : UnixSocketClient) (enabled : Bool) : UnixSocketClient :=
  { client with readingLine := enabled }

/-- `unix_socket_client_write_buffer`. -/
def unixSocketClientWriteBuffer (client : UnixSocketClient) (enabled : Bool) : UnixSocketClient :=
  { client with writingBuffer := enabled }

/-- What `recv` returns.  No bytes at all are the end of the connection. -/
inductive RecvResult where
  | bytes (buf : List UInt8)
  | again
  | error
deriving DecidableEq

/-- The bytes that came. -/
def RecvResult.buf : RecvResult → List UInt8
  | .bytes buf => buf
  | .again | .error => []

/-- What `send` returns. -/
inductive SendResult where
  | bytes (sent : Nat)
  | again
  | error
deriving DecidableEq

/-- How many bytes went. -/
def SendResult.sent : SendResult → Nat
  | .bytes sent => sent
  | .again | .error => 0

/-- The return values of `unix_socket_client_io_read` and `unix_socket_client_io_write`: 1, 0, -1
    and the other negative ones. -/
inductive UnixSocketIo where
  | done
  | more
  | endOfConnection
  | tooLong
  | unhandled
deriving DecidableEq

/-- `unix_socket_client_io_read`. -/
def unixSocketClientIoRead (client : UnixSocketClient) (readed : RecvResult) :
    UnixSocketIo × UnixSocketClient :=
  match readed with
  | .bytes buf =>
    if buf = [] then (.endOfConnection, client)
    else
      let client :=
        { client with msgAlreadyReceivedBytes := client.msgAlreadyReceivedBytes + buf.length }
      match dynarCat buf client.receiveBuffer with
      | (none, _) => (.tooLong, client)
      | (some (), receiveBuffer) =>
        -- The newline is looked for in what came now, not in the whole buffer.
        (if 10 ∈ buf then .done else .more, { client with receiveBuffer := receiveBuffer })
  | .again => (.more, client)
  | .error => (.unhandled, client)

/-- What `unix_socket_client_io_write` hands to `send`. -/
def unixSocketClientToSend (client : UnixSocketClient) : List UInt8 :=
  (client.sendBuffer.data.drop client.msgAlreadySentBytes).take unixSocketClientBuffer

/-- `unix_socket_client_io_write`. -/
def unixSocketClientIoWrite (client : UnixSocketClient) (sent : SendResult) :
    UnixSocketIo × UnixSocketClient :=
  match sent with
  | .bytes sent =>
    if sent = 0 then (.endOfConnection, client)
    else
      let client := { client with msgAlreadySentBytes := client.msgAlreadySentBytes + sent }
      (if client.msgAlreadySentBytes = dynarSize client.sendBuffer then .done else .more, client)
  | .again => (.more, client)
  | .error => (.unhandled, client)

/-! ### The server -/

/-- `struct unix_socket_ipc`.  `socket` is `none` once it is closed. -/
structure UnixSocketIpc where
  socket : Option Nat
  maxClients : Nat
  maxReceiveSize : Nat
  maxSendSize : Nat
  clients : List UnixSocketClient := []
  /-- How many clients were allocated; this is the next address. -/
  clientCount : Nat := 0

/-- `unix_socket_ipc_close`. -/
def unixSocketIpcClose (ipc : UnixSocketIpc) : UnixSocketIpc := { ipc with socket := none }

/-- `unix_socket_ipc_is_closed`. -/
def unixSocketIpcIsClosed (ipc : UnixSocketIpc) : Bool := ipc.socket.isNone

/-- `unix_socket_client_list_add`. -/
def unixSocketClientListAdd (ipc : UnixSocketIpc) (sock : Nat) : UnixSocketClient × UnixSocketIpc :=
  let client := unixSocketClientInit ipc.clientCount sock ipc.maxReceiveSize ipc.maxSendSize
  (client, { ipc with clients := ipc.clients ++ [client], clientCount := ipc.clientCount + 1 })

/-- `unix_socket_client_list_del`. -/
def unixSocketClientListDel (ipc : UnixSocketIpc) (address : Nat) : UnixSocketIpc :=
  { ipc with clients := ipc.clients.filter fun client => client.address ≠ address }

/-- `unix_socket_client_list_no_clients`. -/
def unixSocketClientListNoClients (ipc : UnixSocketIpc) : Nat := ipc.clients.length

/-- `unix_socket_ipc_accept`, where `sock` is what `accept` returned.  Without a client it failed,
    or there are too many clients and the new socket is closed again. -/
def unixSocketIpcAccept (ipc : UnixSocketIpc) (sock : Option Nat) :
    Option UnixSocketClient × UnixSocketIpc :=
  match sock with
  | none => (none, ipc)
  | some clientSock =>
    if ipc.maxClients ≠ 0 ∧ unixSocketClientListNoClients ipc ≥ ipc.maxClients then (none, ipc)
    else
      match unixSocketClientListAdd ipc clientSock with
      | (client, ipc) => (some client, ipc)

/-- `unix_socket_ipc_client_disconnect`. -/
def unixSocketIpcClientDisconnect (ipc : UnixSocketIpc) (client : UnixSocketClient) :
    UnixSocketIpc :=
  unixSocketClientListDel ipc client.address

/-- The client at an address, unless it was freed. -/
def UnixSocketIpc.client? (ipc : UnixSocketIpc) (address : Nat) : Option UnixSocketClient :=
  ipc.clients.find? fun client => client.address = address

/-- Write to the client at an address. -/
def UnixSocketIpc.setClient (ipc : UnixSocketIpc) (client : UnixSocketClient) : UnixSocketIpc :=
  { ipc with clients := ipc.clients.map fun other =>
      if other.address = client.address then client else other }

end Qdevice
