import Chamelio.Lib.Word
import Chamelio.Lib.Chain
import Chamelio.Lib.Fifo
import Chamelio.Lib.Ring
import Chamelio.Lib.Run
import Chamelio.Util.Scheduler
import Chamelio.Util.SchedList
import Chamelio.Pkt.Hdr
import Chamelio.Fast.EbpfCtx
import Chamelio.Tcp.Sock
import Chamelio.Tcp.Ctx
import Chamelio.Tcp.FastTx
import Chamelio.Tcp.FastRx
import Chamelio.Tcp.FastDeq
import Chamelio.Tcp.Frame
import Chamelio.Tcp.Wakeup
import Chamelio.Tcp.SchedTimes
import Chamelio.Tcp.Pacing
import Chamelio.Tcp.AppLib
import Chamelio.Tcp.RxSpec
import Chamelio.Tcp.AckFlag
import Chamelio.Tcp.LibSpec
import Chamelio.Tcp.PendingBumps
import Chamelio.Tcp.LibClose
import Chamelio.Tcp.Conn
import Chamelio.Tcp.ConnSpec
import Chamelio.Tcp.Rings
import Chamelio.Tcp.TxMove
import Chamelio.Tcp.TxStream
import Chamelio.Tcp.RxMove
import Chamelio.Tcp.RxInv
import Chamelio.Tcp.RxStream
import Chamelio.Lib.Bytes
import Chamelio.Lib.Region
import Chamelio.Lib.SlotQ
import Chamelio.Util.Shmalloc
import Chamelio.Util.ShmallocRuns
import Chamelio.Lib.Slots
import Chamelio.Lib.Buckets
import Chamelio.Lib.RingList
import Chamelio.Util.Queue
import Chamelio.Control.Types
import Chamelio.Control.Guest
import Chamelio.Fast.ControlIf
import Chamelio.Control.System
import Chamelio.Control.GuestSpec
import Chamelio.Control.Regions
import Chamelio.Control.QueueIds
import Chamelio.Control.Crash
import Chamelio.Control.MapAgreement
import Chamelio.Control.GuestLib
import Chamelio.Control.Correlate
import Chamelio.Tcp.SlowCtx
import Chamelio.Tcp.SlowTx
import Chamelio.Tcp.SlowRx
import Chamelio.Tcp.Punt
import Chamelio.Tcp.CtlPair
import Chamelio.Tcp.SlowReq
import Chamelio.Tcp.SlowSpec
import Chamelio.Tcp.FastKeys
import Chamelio.Tcp.SlowSys
import Chamelio.Tcp.SlowSteps
import Chamelio.Tcp.SlowReqSpec
import Chamelio.Tcp.FlowTable
import Chamelio.Tcp.PortTable
import Chamelio.Tcp.RingNames
import Chamelio.Tcp.AppAnswer
import Chamelio.Tcp.AppPoll
import Chamelio.Tcp.Backlog
import Chamelio.Tcp.BacklogInv
import Chamelio.Tcp.AcceptOrder
import Chamelio.Tcp.Timers
import Chamelio.Tcp.TimerInv
import Chamelio.Tcp.Graceful
import Chamelio.Tcp.SockFrame
import Chamelio.Tcp.InSequence
import Chamelio.Tcp.Emit
import Chamelio.Tcp.TxSide
import Chamelio.Tcp.AckBound
import Chamelio.Tcp.Recovery
import Chamelio.Fast.EbpfHelpers
import Chamelio.Fast.CombHelpers
import Chamelio.Tcp.EbpfProg
import Chamelio.Tcp.EbpfAgree
import Chamelio.Udp.Fast
import Chamelio.Udp.EbpfProg
import Chamelio.Udp.Slow
import Chamelio.Udp.EbpfAgree
import Chamelio.Udp.AppLib
import Chamelio.Udp.TxFidelity
import Chamelio.Udp.PortSearch
import Chamelio.Udp.PortSteps
import Chamelio.Udp.PortTable
import Chamelio.Udp.PortLookup
import Chamelio.Udp.Setsockopt
import Chamelio.Udp.RxBoundary
import Chamelio.Lib.Probe
import Chamelio.Util.Tomgr
import Chamelio.Util.TomgrHeap
import Chamelio.Util.TomgrQueue
import Chamelio.Util.TomgrBack
import Chamelio.Lib.ProbeMap
import Chamelio.Lib.Cstdio
import Chamelio.Arp.Table
import Chamelio.Arp.TableMap
import Chamelio.Arp.Packets
import Chamelio.Arp.Pairing
import Chamelio.Arp.Control
import Chamelio.Arp.ControlSpec
import Chamelio.Arp.TimerOwner
import Chamelio.Arp.FullTable
import Chamelio.Arp.System
import Chamelio.Arp.Resolve
import Chamelio.Arp.Waiting
import Chamelio.Control.Accept
import Chamelio.Netvirt.Table
import Chamelio.Netvirt.TableMap
import Chamelio.Netvirt.Parser
import Chamelio.Netvirt.ParserSound
import Chamelio.Fast.Txcache
import Chamelio.Fast.RxDispatch
import Chamelio.Fast.Poll
import Chamelio.Fast.PollComb
import Chamelio.Fast.TxBuffer
import Chamelio.Fast.MbufOwner
import Chamelio.Fast.EnabledQueues
import Chamelio.Fast.QueueHandoff
import Chamelio.Fast.PollDue
import Chamelio.Fast.QueuePolls
import Chamelio.Fast.RxReady
import Chamelio.Fast.ShmUse
import Chamelio.Udp.ShmUse
import Chamelio.Tcp.ShmUse
import Chamelio.Fast.ShmSafe
import Chamelio.Tcp.AckWindow
import Chamelio.Udp.RxCopy
import Chamelio.Udp.Failure
import Chamelio.Tcp.RxFailure
import Chamelio.Tcp.CtlRepeat
import Chamelio.Tcp.CtlTrip
import Chamelio.Tcp.SynNumbers
import Chamelio.Tcp.Handshake
import Chamelio.Control.Budget
import Chamelio.Control.EbpfShm
import Chamelio.Control.Aggregate
import Chamelio.Tcp.HdrParse
import Chamelio.Lib.IndexSet
import Chamelio.Util.WaitSet
import Chamelio.Tcp.PendingList
import Chamelio.Lib.Average
import Chamelio.Tcp.Config
import Chamelio.Tcp.Cc
import Chamelio.Tcp.DctcpBounds
import Chamelio.Tcp.DctcpRate
import Chamelio.Tcp.DctcpThroughput
import Chamelio.Tcp.CcStats
import Chamelio.Tcp.EndToEnd
import Chamelio.Lib.RoundRobin
import Chamelio.Control.PollBound
import Chamelio.Fast.StaleBytes
import Chamelio.Tcp.RxReads
import Chamelio.Udp.RxReads
import Chamelio.Fast.Infra
import Chamelio.Netvirt.Tunnel
