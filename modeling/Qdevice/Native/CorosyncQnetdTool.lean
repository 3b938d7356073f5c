import Qdevice.Native.QnetdIpc

/-! # The command line tools

`corosync-qnetd-tool.c`, and `corosync-qdevice-tool.c`, which has neither the operation `list` nor a
cluster name.  A tool sends one command to its daemon and prints the answer. -/

namespace Qdevice

/-- `enum qnetd_tool_operation`, less the operation with which the tool gives up. -/
inductive QnetdToolOperation where
  | shutdown
  | status
  | list
deriving DecidableEq

/-- The first part of `store_command`. -/
def storeOperation : QnetdToolOperation → DynarM Unit
  | .shutdown => dynarStrCat (ipcShutdown ++ [32])
  | .status => dynarStrCat (ipcStatus ++ [32])
  | .list => dynarStrCat (ipcList ++ [32])

/-- The second part. -/
def storeVerbose (verbose : Bool) : DynarM Unit :=
  if verbose then dynarStrCat (ipcVerbose ++ [32]) else pure ()

/-- The third part. -/
def storeClusterName : Option (List UInt8) → DynarM Unit
  | none => pure ()
  | some clusterName => do
    dynarStrCat (ipcCluster ++ [32])
    dynarStrQuoteCat clusterName
    dynarStrCat [32]

/-- `store_command`.  It ends with a newline and a NUL. -/
def storeCommand (operation : QnetdToolOperation) (verbose : Bool)
    (clusterName : Option (List UInt8)) : DynarM Unit := do
  storeOperation operation
  storeVerbose verbose
  storeClusterName clusterName
  dynarCat [10, 0]

/-- What `read_ipc_reply` returns and prints. -/
structure IpcReplyRead where
  res : Int := 0
  out : List UInt8 := []
  err : List UInt8 := []
deriving DecidableEq

/-- `"Error: "`. -/
def ipcErrorPrinted : List UInt8 := Text.ofChars ['E', 'r', 'r', 'o', 'r', ':', ' ']

/-- The loop of `read_ipc_reply`, over what comes before the end of the stream.  Behind the status
    line everything is printed. -/
def readIpcReplyLoop (readStr : Dynar) : List UInt8 → IpcReplyRead
  | [] => {}
  | ch :: rest =>
    if ch = 13 then readIpcReplyLoop readStr rest
    else if ch = 10 then
      match dynarCat [0] readStr with
      | (none, _) => { res := -1 }
      | (some (), readStr) =>
        if strcasecmpEq (cString readStr.data) (Text.ofChars ['O', 'K']) then { out := rest }
        else if strcasecmpEq (cString readStr.data) (Text.ofChars ['E', 'r', 'r', 'o', 'r']) then
          { res := 1, err := ipcErrorPrinted ++ rest }
        else { res := 2 }
    else
      match dynarCat [ch] readStr with
      | (none, _) => { res := -1 }
      | (some (), readStr) => readIpcReplyLoop readStr rest

/-- `read_ipc_reply`, with `IPC_READ_BUF_SIZE` bytes for the status line. -/
def readIpcReply (stream : List UInt8) : IpcReplyRead :=
  readIpcReplyLoop (dynarInit 512) stream

end Qdevice
