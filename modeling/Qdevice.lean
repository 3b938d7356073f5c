import Qdevice.Native.MsgDecoded
import Qdevice.ForStd.Runs
import Qdevice.Native.QnetdAlgoFfsplit
import Qdevice.Native.QnetdAlgoLms
import Qdevice.Native.QnetdAlgorithm
import Qdevice.Native.QnetdClientMsgReceived
import Qdevice.ForStd.Handover
import Qdevice.Spec.ClusterFrame
import Qdevice.Spec.HandlerCases
import Qdevice.Spec.ClusterRun
import Qdevice.Spec.FfsplitVotes
import Qdevice.Spec.FfsplitEvents
import Qdevice.Spec.FfsplitRun
import Qdevice.Spec.FfsplitExclusion
import Qdevice.Spec.FfsplitAbort
import Qdevice.Native.QnetdInstance
import Qdevice.Spec.Registry
import Qdevice.Spec.InstanceCases
import Qdevice.Spec.RegistryRun
import Qdevice.Spec.TlsAuthorisation
import Qdevice.Spec.TwoNodeLms
import Qdevice.Spec.LmsCases
import Qdevice.Spec.LmsPartitions
import Qdevice.Spec.LmsAgreement
import Qdevice.Spec.LmsNewcomer
import Qdevice.ForStd.BigEndian
import Qdevice.ForStd.Reads
import Qdevice.Native.Dynar
import Qdevice.Native.Tlv
import Qdevice.Native.Msg
import Qdevice.Spec.TlvIterator
import Qdevice.Spec.TlvDecode
import Qdevice.Spec.MsgDecode
import Qdevice.Spec.MsgEncode
import Qdevice.Spec.MsgRoundTrip
import Qdevice.Native.Msgio
import Qdevice.Spec.MsgFraming
import Qdevice.Spec.MsgSkipping
import Qdevice.ForStd.Heap
import Qdevice.Native.TimerList
import Qdevice.Spec.TimerListHeap
import Qdevice.Spec.TimerListOps
import Qdevice.Spec.TimerListRun
import Qdevice.Spec.TimerListOrder
import Qdevice.Spec.FfsplitChoice
import Qdevice.ForStd.Text
import Qdevice.Native.DynarStr
import Qdevice.Native.Heuristics
import Qdevice.Native.ProcessList
import Qdevice.Native.HeuristicsWorker
import Qdevice.Spec.HeuristicsText
import Qdevice.Spec.HeuristicsPipe
import Qdevice.Spec.HeuristicsProcesses
import Qdevice.Spec.HeuristicsWorkerRun
import Qdevice.Spec.HeuristicsRun
import Qdevice.Spec.FfsplitSendFailure
import Qdevice.Spec.RejectedRequests
import Qdevice.Spec.MsgGrammar
import Qdevice.Spec.FfsplitEventClient
import Qdevice.Spec.LmsWinner
import Qdevice.Spec.LmsStored
import Qdevice.Spec.FfsplitStability
import Qdevice.Native.QnetdClientAlgoTimer
import Qdevice.Spec.LmsWaitTimer
import Qdevice.Spec.TlvAppend
import Qdevice.Spec.LmsTable
import Qdevice.Native.DynarSimpleLex
import Qdevice.Spec.QuoteRoundTrip
import Qdevice.Spec.CommandSplit
import Qdevice.Native.QnetdClusterList
import Qdevice.Spec.ProcessListRun
import Qdevice.Spec.ClusterListRun
import Qdevice.Native.SendBufferMemory
import Qdevice.Spec.SendQueue
import Qdevice.Spec.TimerListExpire
import Qdevice.ForStd.Prog
import Qdevice.Native.QdeviceNetInstance
import Qdevice.Native.QdeviceNetSend
import Qdevice.Native.QdeviceNetTimers
import Qdevice.Native.QdeviceModelNet
import Qdevice.Native.QdeviceMainLoop
import Qdevice.Spec.NetStable
import Qdevice.Spec.NetDisconnect
import Qdevice.Native.PrPollArray
import Qdevice.Spec.PrPollArrayRun
import Qdevice.Spec.SendBufferAccounting
import Qdevice.Native.NodeListMemory
import Qdevice.Spec.NodeListCompare
import Qdevice.Spec.NetConnection
import Qdevice.Spec.NetTls
import Qdevice.Spec.NetVoteRing
import Qdevice.Spec.NetReconnect
import Qdevice.Spec.ServerClusterRun
import Qdevice.Spec.MsgChannelClient
import Qdevice.Spec.FfsplitProgress
import Qdevice.Spec.DpdTimer
import Qdevice.Spec.PrPollLoopRun
import Qdevice.Native.CorosyncQnetdTool
import Qdevice.Spec.IpcCommandLine
import Qdevice.Spec.IpcInv
import Qdevice.Spec.IpcRun
import Qdevice.Spec.IpcTool
