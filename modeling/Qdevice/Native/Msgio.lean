import Qdevice.Native.Msg

/-! # Reading messages from a socket

`msgio_read` and its two callers, `qnetd_client_net_read` and `qdevice_net_socket_read`.
A call takes what one `PR_Recv` returned.  The receive buffer is emptied by setting its
size to 0, so that its memory keeps the bytes of the last message; `msgio_read` reads
the length field from there also when it could not store the header. -/

namespace Qdevice

/-- `struct dynar` as a receive buffer, with the bytes in its memory.  The first `size` of
    them are the content. -/
structure ReceiveBuffer where
  memory : List UInt8 := []
  size : Nat := 0
  maximumSize : Nat
deriving DecidableEq

namespace ReceiveBuffer

/-- The content, as the functions that only look at it see it. -/
def toDynar (msg : ReceiveBuffer) : Dynar := ⟨msg.memory.take msg.size, msg.maximumSize⟩

/-- `dynar_clean`. -/
def clean (msg : ReceiveBuffer) : ReceiveBuffer := { msg with size := 0 }

/-- `dynar_cat`.  `alloc` is whether memory can be had, if more is needed. -/
def cat (alloc : Bool) (src : List UInt8) (msg : ReceiveBuffer) : Option ReceiveBuffer :=
  if msg.size + src.length > msg.maximumSize ∨ alloc = false then none
  else some { msg with
    memory := msg.memory.take msg.size ++ src ++ msg.memory.drop (msg.size + src.length)
    size := msg.size + src.length }

end ReceiveBuffer

/-- The type in a message header. -/
def headerType (header : List UInt8) : UInt16 := UInt16.ofNat (BigEndian.ofBytes (header.take 2))

/-- The length in a message header. -/
def headerLen (header : List UInt8) : Nat :=
  (UInt32.ofNat (BigEndian.ofBytes ((header.drop 2).take 4))).toNat

/-- `msg_is_valid_msg_type`, of a header. -/
def knownType (header : List UInt8) : Bool :=
  msgStaticSupportedMessages.any fun type => type.toUInt16 == headerType header

/-- What `PR_Recv` returned: some bytes, 0, or -1 with `PR_WOULD_BLOCK_ERROR` or another error. -/
inductive Recv where
  | data (bytes : List UInt8)
  | closed
  | wouldBlock
  | error

/-- The return values of `msgio_read`: 1, 0, -1, -2, -3, -4, -5 and -6. -/
inductive MsgioResult where
  | fullMessage
  | partialRead
  | endOfConnection
  | unhandledError
  | cantStoreHeader
  | cantStoreMessage
  | invalidMsgType
  | msgTooLong
deriving DecidableEq

/-- The part of a client, or of a qdevice net instance, that `msgio_read` works on. -/
structure MsgReader where
  receiveBuffer : ReceiveBuffer
  msgAlreadyReceivedBytes : Nat := 0
  skippingMsg : Bool := false
deriving DecidableEq

/-- How many bytes `msgio_read` asks for. -/
def msgioToRead (reader : MsgReader) : Nat :=
  min 1024
    (if reader.msgAlreadyReceivedBytes < msgGetHeaderLength then
      msgGetHeaderLength - reader.msgAlreadyReceivedBytes
    else
      msgGetHeaderLength + headerLen reader.receiveBuffer.memory - reader.msgAlreadyReceivedBytes)

/-- `*already_received_bytes += readed` and the `dynar_cat` of a message that is not skipped. -/
def msgioStore (alloc : Bool) (bytes : List UInt8) (reader : MsgReader) : MsgReader × MsgioResult :=
  let reader := { reader with
    msgAlreadyReceivedBytes := reader.msgAlreadyReceivedBytes + bytes.length }
  if reader.skippingMsg then (reader, .partialRead)
  else
    match reader.receiveBuffer.cat alloc bytes with
    | none => ({ reader with skippingMsg := true }, .cantStoreMessage)
    | some msg => ({ reader with receiveBuffer := msg }, .partialRead)

/-- The tests once the header is complete: type and maximum size. -/
def msgioCheckHeader (reader : MsgReader) (ret : MsgioResult) : MsgReader × MsgioResult :=
  if reader.skippingMsg = false ∧ reader.msgAlreadyReceivedBytes = msgGetHeaderLength then
    if knownType reader.receiveBuffer.memory = false then
      ({ reader with skippingMsg := true }, .invalidMsgType)
    else if msgGetHeaderLength + headerLen reader.receiveBuffer.memory >
        reader.receiveBuffer.maximumSize then
      ({ reader with skippingMsg := true }, .msgTooLong)
    else (reader, ret)
  else (reader, ret)

/-- `msgio_read`.  `alloc` is whether the receive buffer can grow. -/
def msgioRead (alloc : Bool) (recv : Recv) (reader : MsgReader) : MsgReader × MsgioResult :=
  match recv with
  | .closed => (reader, .endOfConnection)
  | .wouldBlock => (reader, .partialRead)
  | .error => (reader, .unhandledError)
  | .data bytes =>
    let (reader, ret) := msgioStore alloc bytes reader
    if reader.skippingMsg ∧ reader.msgAlreadyReceivedBytes < msgGetHeaderLength then
      (reader, .cantStoreHeader)
    else
      let (reader, ret) := msgioCheckHeader reader ret
      -- The message may be complete already, whatever was found out about its header.
      if reader.msgAlreadyReceivedBytes ≥ msgGetHeaderLength ∧
          reader.msgAlreadyReceivedBytes =
            msgGetHeaderLength + headerLen reader.receiveBuffer.memory then
        (reader, .fullMessage)
      else (reader, ret)

/-- Ready for the next message. -/
def MsgReader.reset (reader : MsgReader) : MsgReader where
  receiveBuffer := reader.receiveBuffer.clean

/-! ### The server -/

/-- The part of a `struct qnetd_client` that `qnetd_client_net_read` works on. -/
structure ClientReader where
  reader : MsgReader
  skippingMsgReason : TlvReplyErrorCode := .noError
deriving DecidableEq

/-- `qnetd_client_init`. -/
def qnetdClientInit (maxReceiveSize : Nat) : ClientReader where
  reader := { receiveBuffer := { maximumSize := maxReceiveSize } }

/-- What a call of `qnetd_client_net_read` does with a message that is complete: it hands it to
    `qnetd_client_msg_received`, or it answers it with `qnetd_client_send_err`. -/
inductive ReadEvent where
  | received (msg : Dynar)
  | sentErr (replyErrorCode : TlvReplyErrorCode)
deriving DecidableEq

/-- `qnetd_client_net_read`.  `handled` is whether `qnetd_client_msg_received` or
    `qnetd_client_send_err` succeeded; the Boolean returned is whether the client is to be
    disconnected. -/
def qnetdClientNetRead (alloc handled : Bool) (recv : Recv) (client : ClientReader) :
    ClientReader × Option ReadEvent × Bool :=
  let (reader, res) := msgioRead alloc recv client.reader
  match res with
  | .partialRead => ({ client with reader := reader }, none, false)
  | .endOfConnection | .unhandledError | .cantStoreHeader =>
    ({ client with reader := reader }, none, true)
  | .cantStoreMessage =>
    ({ reader := reader, skippingMsgReason := .errorDecodingMsg }, none, false)
  | .invalidMsgType =>
    ({ reader := reader, skippingMsgReason := .unsupportedMessage }, none, false)
  | .msgTooLong =>
    ({ reader := reader, skippingMsgReason := .messageTooLong }, none, false)
  | .fullMessage =>
    let event := if reader.skippingMsg then .sentErr client.skippingMsgReason
      else .received reader.receiveBuffer.toDynar
    ({ reader := reader.reset }, some event, !handled)

/-! ### The client -/

/-- What a call of `qdevice_net_socket_read` ends with: 0, -1, or the `exit` in its
    "net_socket_read in skipping msg state" branch. -/
inductive SocketRead where
  | goOn
  | disconnect
  | exit
deriving DecidableEq

/-- What `qdevice_net_msg_received` does as far as reading is concerned: whether it returned -1,
    and the maximum size an INIT_REPLY handler may have given the receive buffer. -/
structure MsgReceived where
  failed : Bool
  maximumSize : Option Nat

/-- `dynar_set_max_size`. -/
def ReceiveBuffer.setMaxSize (msg : ReceiveBuffer) (maximumSize : Option Nat) : ReceiveBuffer :=
  { msg with maximumSize := maximumSize.getD msg.maximumSize }

/-- `qdevice_net_socket_read`. -/
def qdeviceNetSocketRead (alloc : Bool) (msgReceived : Dynar → MsgReceived) (recv : Recv)
    (reader : MsgReader) : MsgReader × SocketRead :=
  let (reader, res) := msgioRead alloc recv reader
  match res with
  | .partialRead => (reader, .goOn)
  | .endOfConnection | .unhandledError | .cantStoreHeader | .cantStoreMessage | .invalidMsgType
  | .msgTooLong => (reader, .disconnect)
  | .fullMessage =>
    if reader.skippingMsg then (reader, .exit)
    else
      let result := msgReceived reader.receiveBuffer.toDynar
      let reader := { reader with
        receiveBuffer := reader.receiveBuffer.setMaxSize result.maximumSize }
      (reader.reset, if result.failed then .disconnect else .goOn)

end Qdevice
