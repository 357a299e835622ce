import Chamelio.Fast.EbpfCtx
import Chamelio.Pkt.Hdr
import Chamelio.Tcp.Sock

/-!
# Queue entries, maps and lookups of the TCP handlers

`protos/tcp/include/tcp_queue_types.h` and the "Miscellaneous" and "Socket"
helpers of `chamelio/protos/tcp_fast.c`.

Mirroring notes:
- An entry of a queue is its type together with the fields the type gives
  meaning to. A punted packet entry holds the header bytes `memcpy` copies
  into it, as many as the header length fields say.
- A map that was never created has no elements, so the `NULL` tests on map
  addresses fold into the bound tests; `CFG_MAP`, which has no bound test,
  is an option.
- Handlers return `-1` at many places. `TcpErr` keeps apart the one place
  the properties below speak of, a full application bump queue.
-/

namespace Chamelio.Tcp

open Chamelio.Lib Chamelio.Util Chamelio.Pkt Chamelio.Fast

/-- The queue entries the fast path and the library exchange. -/
inductive TcpQe
  | bumpChamTx (sockId : UInt32) (txPort : UInt16) (txIp txAvail : UInt32)
  | bumpChamRx (sockId rxHead : UInt32)
  | ctlTx
  | ctlTxPkt (bytes : List UInt8)
  | txRetransmit (sockId txSeq txPending : UInt32)
  | ctlRx
  | ctlRxPkt (bytes : List UInt8) (core : UInt16)
  | bumpAppTx (opaquePtr : UInt64) (txHead : UInt32)
  | bumpAppRx (opaquePtr : UInt64) (rxPort : UInt16) (rxIp rxAvail : UInt32)
  /-- Any type the fast path and the library do not know. -/
  | unknown
  deriving DecidableEq

/-- `struct tcp_ctl_cfg`. -/
structure TcpCtlCfg where
  fastSlowSigQids : Nat → UInt16
  fastSlowPktQids : Nat → UInt16
  slowFastPktQid : UInt16

/-- The maps `SOCK_MAP`, `SID_BUCK_MAP` and `CFG_MAP`. -/
structure TcpMaps where
  socks : Nat → TcpSock
  sockNelems : Nat
  /-- `sids` of each flow bucket. -/
  buckets : Nat → Nat → UInt32
  buckNelems : Nat
  cfg : Option TcpCtlCfg

abbrev TcpCtx := EbpfCtx TcpMaps TcpQe

/-- Where a handler returned `-1`. -/
inductive TcpErr
  /-- The entry for the application's bump queue could not be enqueued. -/
  | appBump
  | other
  deriving DecidableEq

/-- Result of a handler: a length to transmit (`0`: nothing), or an error. -/
abbrev Ret := Except TcpErr Nat

/-- The `int` the C function returns. -/
def retInt : Ret → Int
  | .ok n => n
  | .error _ => -1

def sockOf (ctx : TcpCtx) (sid : Nat) : TcpSock := ctx.maps.socks sid

def setSock (ctx : TcpCtx) (sid : Nat) (s : TcpSock) : TcpCtx :=
  { ctx with
    maps := { ctx.maps with socks := fun i => if i = sid then s else ctx.maps.socks i } }

@[simp] theorem sockOf_setSock (ctx : TcpCtx) (sid : Nat) (s : TcpSock) :
    sockOf (setSock ctx sid s) sid = s := by
  simp [sockOf, setSock]

theorem sockOf_setSock_ne (ctx : TcpCtx) {sid i : Nat} (s : TcpSock) (h : i ≠ sid) :
    sockOf (setSock ctx sid s) i = sockOf ctx i := by
  simp [sockOf, setSock, h]

@[simp] theorem setSock_equeues (ctx : TcpCtx) (sid : Nat) (s : TcpSock) :
    (setSock ctx sid s).equeues = ctx.equeues := rfl

@[simp] theorem setSock_shm (ctx : TcpCtx) (sid : Nat) (s : TcpSock) :
    (setSock ctx sid s).shm = ctx.shm := rfl

@[simp] theorem setSock_sched (ctx : TcpCtx) (sid : Nat) (s : TcpSock) :
    (setSock ctx sid s).sched = ctx.sched := rfl

@[simp] theorem setSock_pkt (ctx : TcpCtx) (sid : Nat) (s : TcpSock) :
    (setSock ctx sid s).pkt = ctx.pkt := rfl

@[simp] theorem sockOf_setQueue (ctx : TcpCtx) (qid : Nat) (q : Fifo TcpQe) (sid : Nat) :
    sockOf (ctx.setQueue qid q) sid = sockOf ctx sid := rfl

/-! ## Miscellaneous helpers -/

def isQeValid (ctx : TcpCtx) : Bool := ctx.qeOff + queueEntrySize < ctx.shmLen
/-- 32 is `sizeof(struct tcp_queue_bump_entry)`. -/
def isQeBumpValid (ctx : TcpCtx) : Bool := ctx.qeOff + 32 < ctx.shmLen
/-- 32 is `sizeof(struct tcp_queue_ctl_entry)`. -/
def isQeCtlValid (ctx : TcpCtx) : Bool := ctx.qeOff + 32 < ctx.shmLen
/-- 64 is `sizeof(struct tcp_queue_pkt_entry)`. -/
def isQePktValid (ctx : TcpCtx) (off : Nat) : Bool := off + 64 < ctx.shmLen

def isPktlenValid (ctx : TcpCtx) : Bool := tcpPktInnerSize ≤ ctx.pktRoom

/-- Both lengths are passed as `__u16`. -/
def isPaylenValid (ctx : TcpCtx) (hdrsLen paylen : UInt32) : Bool :=
  hdrsLen.toUInt16.toNat + paylen.toUInt16.toNat ≤ ctx.pktRoom

def tcpNowUs (ctx : TcpCtx) : UInt32 × TcpCtx :=
  let (tsc, clk) := clockRdtsc ctx.clk
  ((ctx.clk.tscToUs tsc).toUInt32, { ctx with clk })

def rateDelayTsc (clk : Clock) (bytes rateKbps : UInt32) : UInt64 :=
  if bytes = 0 ∨ rateKbps = 0 then 0
  else if clk.cyclesPerUs = 0 then 0
  else
    let nr := bytes.toUInt64 * 8 * 1000 * clk.cyclesPerUs
    (nr + rateKbps.toUInt64 - 1) / rateKbps.toUInt64

/-- Earliest time the socket may transmit: now, or when pacing allows. -/
def txSchedTsc (ctx : TcpCtx) (sid : Nat) : UInt64 × TcpCtx :=
  let (nowTsc, clk) := clockRdtsc ctx.clk
  let ctx := { ctx with clk }
  let sock := sockOf ctx sid
  if sock.ccRate = 0 ∨ sock.txReadyTsc ≤ nowTsc then (nowTsc, ctx)
  else (sock.txReadyTsc, ctx)

/-- `sched_add` on the context's scheduler. -/
def ctxSchedAdd (ctx : TcpCtx) (id : UInt32) (priority : UInt64) (avail : UInt32) :
    TcpCtx × Int :=
  let (sched, ret) := schedAdd ctx.sched id priority avail
  ({ ctx with sched }, ret)

/-- Enter recovery, rewind the socket to its oldest unacknowledged byte and
put a fresh entry in the scheduler. -/
def remit (ctx : TcpCtx) (sid : Nat) : TcpCtx :=
  let sock := tcpSockRecoveryEnter (sockOf ctx sid)
  let sock := { sock with txAvail := sock.txAvail + sock.txPending, txPending := 0 }
  let ctx := setSock ctx sid sock
  let ctx := { ctx with sched := (schedRemove ctx.sched sock.id).1 }
  let (now, clk) := clockRdtsc ctx.clk
  (ctxSchedAdd { ctx with clk } sock.id now (sockSchedAvail sock)).1

/-! ## Socket helpers -/

def sockMapLookup (ctx : TcpCtx) (sid : UInt32) : Option Nat :=
  if sid.toNat ≥ ctx.maps.sockNelems then none else some sid.toNat

def sockHash (lip : UInt32) (lport : UInt16) (rip : UInt32) (rport : UInt16) : UInt32 :=
  let h := lip ^^^ rip ^^^ (lport.toUInt32 <<< 16) ^^^ rport.toUInt32
  h ^^^ (h >>> 16)

/-- The test `sock_find` makes on one slot of the bucket. -/
def sockFindSlot (ctx : TcpCtx) (lip : UInt32) (lport : UInt16) (rip : UInt32) (rport : UInt16)
    (sid : UInt32) : Option Nat :=
  if sid = idInvalid then none
  else
    match sockMapLookup ctx sid with
    | none => none
    | some i =>
      let sock := sockOf ctx i
      if sock.state = .closed then none
      else if sock.localIp = lip ∧ sock.localPort = lport ∧ sock.remoteIp = rip ∧
          sock.remotePort = rport then some i
      else none

def sockFind (ctx : TcpCtx) : Option Nat :=
  let rip := ipSrc ctx.pkt
  let lip := ipDst ctx.pkt
  let rport := tcpSrc ctx.pkt
  let lport := tcpDest ctx.pkt
  let hash := sockHash lip lport rip rport % tcpFlowBuckets
  if hash.toNat ≥ ctx.maps.buckNelems then none
  else
    (List.range tcpFlowBucketSlots).findSome? (fun i =>
      sockFindSlot ctx lip lport rip rport (ctx.maps.buckets hash.toNat i))

/-! ## A context with one socket -/

/-- A context whose socket map has the single entry `s`, listed in every
flow bucket, with empty queues of `nelems` slots and an idle scheduler. -/
def oneSockCtx (s : TcpSock) (nelems : Nat) : TcpCtx :=
  { pkt := fun _ => 0
    pktRoom := fastL3PktRoom
    shm := fun _ => 0
    shmLen := 4294967296 * 4
    sched := schedInit
    qe := .unknown
    qeOff := 0
    ncores := 1
    core := 0
    dqueues := fun _ => { q := { items := [], nelems }, off := 0, elsize := 64, head := 0 }
    equeues := fun _ => { items := [], nelems }
    maps :=
      { socks := fun i => if i = 0 then s else TcpSock.zero
        sockNelems := 1
        buckets := fun _ _ => 0
        buckNelems := 4096
        cfg := none }
    clk := { readings := fun _ => 0, reads := 0, tscToUs := id, cyclesPerUs := 1 } }

end Chamelio.Tcp
