import Chamelio.Lib.Run
import Chamelio.Tcp.FastDeq
import Chamelio.Tcp.LibSpec
import Chamelio.Tcp.RxSpec

/-!
# One connection: application, queues and fast path

The system the stream properties are about. An application thread calls
`tcp_sendto`, `tcp_recvfrom`, `tcp_flush_bumps` and handles entries of its
queue; a fast-path core dequeues the application's bumps, obeys retransmit
commands, receives segments and runs the scheduler. Each step is atomic,
any interleaving is a run.

Mirroring notes:
- Both sides work on the shared memory of the guest, which is the fast
  path's `shm`; the library's buffers are offsets into it.
- `fast_queues.c` drops an entry once its handler returned without an
  error; an entry whose handler fails stays at the head.
- The packet buffer of an event, and where in memory a dequeued entry lies,
  are the environment's choice.
-/

namespace Chamelio.Tcp

open Chamelio.Lib Chamelio.Util Chamelio.Pkt Chamelio.Fast

/-- The packet buffer a handler is given. -/
structure Buf where
  pkt : Nat → UInt8
  virtGre : Bool

structure Conn where
  fast : TcpCtx
  lib : TcpLib

inductive Act
  | sendto (buf : List UInt8) (addr : Option SockAddr)
  | recvfrom (len : Nat) (addrOk : Bool)
  /-- `tcp_flush_bumps`. -/
  | flush
  /-- The application handles the head of its queue. -/
  | poll
  /-- The fast path dequeues the head of the application's queue to it. -/
  | deq (b : Buf) (qeOff : Nat)
  /-- A retransmit command of the slow path. -/
  | retransmit (b : Buf) (sockId txSeq txPending : UInt32) (qeOff : Nat)
  | sched (b : Buf)
  | rx (b : Buf)

/-- What a step shows. -/
inductive Out
  | none
  /-- Bytes `tcp_sendto` appended to the transmit ring. -/
  | wrote (bytes : List UInt8)
  | recv (res : RecvRes)
  /-- Result of `tcp_event_sched`, the socket it served and the packet. -/
  | segment (sid : Option Nat) (ret : Ret) (pkt : Nat → UInt8)

/-- The fast path's context with the packet buffer of an event. -/
def Conn.load (s : Conn) (b : Buf) : TcpCtx :=
  { s.fast with pkt := b.pkt, pktRoom := fastEbpfPktRoom b.virtGre }

/-- The socket the next scheduler event serves. -/
def schedTarget (ctx : TcpCtx) : Option Nat :=
  match schedHead ctx.sched with
  | none => none
  | some entry => sockMapLookup ctx entry.id

/-- Drop the head of the application's queue to the fast path. -/
def popOut (g : ConnId) (lib : TcpLib) : TcpLib :=
  let ctx := lib.ctxs g.ctxId
  lib.setCtx g.ctxId
    { ctx with appFastQs := fun k =>
        if k = g.core.toNat then (outQueue g lib).pop else ctx.appFastQs k }

/-- `event_deq` on the head of the application's queue. -/
def Conn.deq (g : ConnId) (s : Conn) (b : Buf) (qeOff : Nat) : Conn :=
  match (outQueue g s.lib).head? with
  | none => s
  | some qe =>
    let res := tcpEventDeq { s.load b with qe, qeOff }
    match res.2 with
    | .ok _ => { fast := res.1, lib := popOut g s.lib }
    | .error _ => { s with fast := res.1 }

/-- The application handles the head of the queue from the fast path. -/
def Conn.poll (g : ConnId) (s : Conn) : Conn :=
  let q := s.fast.equeues g.appBumpQid.toNat
  match q.head? with
  | none => s
  | some e =>
    match libHandleEntry s.lib e with
    | none => s
    | some lib => { fast := s.fast.setQueue g.appBumpQid.toNat q.pop, lib }

def Conn.step (g : ConnId) (s : Conn) : Act → Conn × Out
  | .sendto buf addr =>
    let res := tcpSendto s.lib s.fast.shm g.ctxId g.fd buf addr
    let n := (libSock g res.1).txAvail.toNat - (libSock g s.lib).txAvail.toNat
    ({ fast := { s.fast with shm := res.2.1 }, lib := res.1 }, .wrote (buf.take n))
  | .recvfrom len addrOk =>
    let res := tcpRecvfrom s.lib s.fast.shm g.ctxId g.fd len addrOk
    ({ s with lib := res.1 }, .recv res.2)
  | .flush => ({ s with lib := tcpFlushBumps s.lib g.ctxId }, .none)
  | .poll => (s.poll g, .none)
  | .deq b qeOff => (s.deq g b qeOff, .none)
  | .retransmit b sockId txSeq txPending qeOff =>
    let qe := .txRetransmit sockId txSeq txPending
    ({ s with fast := (tcpEventDeq { s.load b with qe, qeOff }).1 }, .none)
  | .sched b =>
    let res := tcpEventSched (s.load b)
    ({ s with fast := res.1 }, .segment (schedTarget s.fast) res.2 res.1.pkt)
  | .rx b => ({ s with fast := (tcpEventRx (s.load b)).1 }, .none)

/-- The fast path's bump for the application finds a free slot. -/
def NoBumpFail (s : Conn) : Act → Prop
  | .rx b => (tcpEventRx (s.load b)).2 ≠ .error .appBump
  | _ => True

/-! ## A fresh connection -/

/-- A connection with two rings of `len` bytes, side by side. -/
def freshConnId (len : UInt32) : ConnId :=
  { sockId := 0, fd := 0, ctxId := 0, core := 0, opaquePtr := 7, appBumpQid := 1
    rxLen := len, rxOff := 0, txLen := len, txOff := len.toUInt64
    apart := Or.inl (by simp) }

/-- Its two sides, just established, with queues of four slots. -/
def freshConn (len : UInt32) : Conn :=
  { fast := oneSockCtx
      { TcpSock.zero with
        state := .established, opaquePtr := 7, appBumpQid := 1, rxLen := len, txLen := len
        txOff := len.toUInt64, txSeq := 1000, txRemoteAvail := 100 } 4
    lib :=
      { socks := fun _ =>
          { fd := 0, sockId := 0, ctx := some 0, core := 0, remotePort := 80, remoteIp := 1
            rxLen := len, rxAvail := 0, rxHead := 0, rxBuf := 0
            txLen := len, txAvail := 0, txHead := 0, txBuf := len.toUInt64
            state := .established, bumpPending := false, bumpNext := tcpBumpNone
            txBumpPending := 0, rxBumpPending := 0 }
        ctxs := fun _ =>
          { appFastQs := fun _ => { items := [], nelems := 4 }
            bumpHead := tcpBumpNone, bumpTail := tcpBumpNone }
        sockAt := fun _ => some 0 } }

/-- An empty packet buffer. -/
def blankBuf : Buf := { pkt := fun _ => 0, virtGre := false }

end Chamelio.Tcp
