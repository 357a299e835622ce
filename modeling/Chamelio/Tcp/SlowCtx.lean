import Chamelio.Tcp.Ctx

/-!
# State of the TCP slow path

`protos/tcp/slow/include/tcp_slow.h` and the tables under
`protos/tcp/slow/state`: flows, listeners, bound ports and sockets.

Mirroring notes:
- A socket pointer is the index of its entry in the socket map. Metadata
  and listeners are found through the `id` field of the entry, as in the
  source.
- The queues `cham_new_queue` hands out come from the rest of the system: a
  stream of answers with the number of questions asked so far.
- Of the timeout manager (`lib/utils/tomgr`) only the entries and the sockets
  they are for are kept. Which entry expires when is left to the caller of
  `tcp_timeout_poll`, so the heap and the times are left out.
- `clock_rdtsc` is read for congestion-control time stamps only, which no
  handler here reads back; those fields of the metadata are left out.
- Log messages are left out.
-/

namespace Chamelio.Tcp

open Chamelio.Lib Chamelio.Util Chamelio.Pkt Chamelio.Fast

/-- `enum tcp_retx_kind`. -/
inductive RetxKind
  | none
  | syn
  | synack
  | fin
  deriving DecidableEq

/-- `struct tcp_sock_meta_slow`. -/
structure SockMeta where
  listenerId : UInt32
  autoBound : Bool
  /-- Its entry in the timeout manager; `none`: `NULL`. -/
  timer : Option Nat
  retxKind : RetxKind
  retxLeft : UInt8

/-- `struct tcp_listener_slow`. -/
structure Listener where
  active : Bool
  backlogLen : UInt32
  backlogUsed : UInt32
  readyHead : UInt32
  readyUsed : UInt32
  readySids : Nat → UInt32
  /-- Entries of the block at `ready_sids`; `none`: `NULL`. -/
  readySlots : Option Nat

/-- `struct tcp_port`. -/
structure TcpPort where
  nsocks : Nat
  nextSock : Nat
  sids : Nat → UInt32

/-- `enum tcp_cc_algorithm`, as far as a fresh connection tells them apart. -/
inductive CcAlgorithm
  | constRate
  | dctcpRate
  | other
  deriving DecidableEq

/-- The address fields of a response. -/
structure ResAddr where
  core : UInt16
  localIp : UInt32
  localPort : UInt16
  remoteIp : UInt32
  remotePort : UInt16

/-- Entries of the queue to the application. -/
inductive AppRes
  | newSockRes (sock : TcpSock)
  | setoptRes (success : Bool) (opaquePtr : UInt64)
  | bindRes (success : Bool) (opaquePtr : UInt64)
  | listenRes (status : Nat) (opaquePtr : UInt64)
  | connectRes (status : Nat) (opaquePtr : UInt64) (addr : Option ResAddr)
  | listenNewconn (opaquePtr : UInt64) (remoteIp : UInt32) (remotePort : UInt16)
  | acceptRes (status : Nat) (opaquePtr listenOpaque : UInt64) (sock : Option TcpSock)

/-- `struct proto_queue_lib`, as `tcp_sock_alloc` reads it. -/
structure ProtoQueue where
  elsize : UInt32
  nelems : UInt32
  off : UInt64

/-- `struct tomgr`: the socket each live entry is for. -/
structure Tomgr where
  entries : Nat → Option Nat

/-- `struct tcp_slow_context`, with the maps it shares with the fast path. -/
structure TcpSlowCtx where
  maps : TcpMaps
  portMap : Nat → TcpPort
  boundPorts : Nat → TcpPort
  nSocks : Nat
  sockMeta : Nat → SockMeta
  listeners : Nat → Listener
  /-- `proto->local_ip` and `proto->n_fp_cores`. -/
  localIp : UInt32
  nFpCores : Nat
  ccAlgorithm : CcAlgorithm
  ccConstRate : UInt32
  ccDctcpInit : UInt32
  slowFastPktQ : Fifo TcpQe
  slowFastSigQ : Fifo TcpQe
  slowAppQs : UInt8 → UInt8 → Fifo AppRes
  /-- `app_bump_qs[core]->id` of an application context. -/
  appBumpQids : UInt8 → UInt8 → UInt16 → UInt16
  /-- Answers of `cham_new_queue`. -/
  newQueues : Nat → Option ProtoQueue
  newQueuesAsked : Nat
  tomgr : Tomgr
  clk : Clock

/-- `MAX_SOCKETS`. -/
def maxSockets : Nat := 65534
/-- `MAX_PORT`. -/
def maxPort : Nat := 65534

namespace TcpSlowCtx

def sock (ctx : TcpSlowCtx) (sid : Nat) : TcpSock := ctx.maps.socks sid

def setSock (ctx : TcpSlowCtx) (sid : Nat) (s : TcpSock) : TcpSlowCtx :=
  { ctx with
    maps := { ctx.maps with socks := fun i => if i = sid then s else ctx.maps.socks i } }

/-- `tcp_sock_meta`. -/
def tcpSockMeta (ctx : TcpSlowCtx) (sid : Nat) : SockMeta := ctx.sockMeta (ctx.sock sid).id.toNat

def setMeta (ctx : TcpSlowCtx) (sid : Nat) (m : SockMeta) : TcpSlowCtx :=
  let k := (ctx.sock sid).id.toNat
  { ctx with sockMeta := fun i => if i = k then m else ctx.sockMeta i }

def setListener (ctx : TcpSlowCtx) (k : Nat) (l : Listener) : TcpSlowCtx :=
  { ctx with listeners := fun i => if i = k then l else ctx.listeners i }

@[simp] theorem sock_setSock (ctx : TcpSlowCtx) (sid : Nat) (s : TcpSock) :
    (ctx.setSock sid s).sock sid = s := by
  simp [sock, setSock]

theorem sock_setSock_ne (ctx : TcpSlowCtx) {sid i : Nat} (s : TcpSock) (h : i ≠ sid) :
    (ctx.setSock sid s).sock i = ctx.sock i := by
  simp [sock, setSock, h]

@[simp] theorem sock_setMeta (ctx : TcpSlowCtx) (sid : Nat) (m : SockMeta) (i : Nat) :
    (ctx.setMeta sid m).sock i = ctx.sock i := rfl

@[simp] theorem sock_setListener (ctx : TcpSlowCtx) (k : Nat) (l : Listener) (i : Nat) :
    (ctx.setListener k l).sock i = ctx.sock i := rfl

end TcpSlowCtx

/-! ## Flows (`tcp_flow.c`) -/

/-- The slots of the bucket of a 4-tuple. -/
def flowBucket (localIp : UInt32) (localPort : UInt16) (remoteIp : UInt32)
    (remotePort : UInt16) : Nat :=
  (sockHash localIp localPort remoteIp remotePort % tcpFlowBuckets).toNat

def setBucket (ctx : TcpSlowCtx) (hash slot : Nat) (sid : UInt32) : TcpSlowCtx :=
  { ctx with
    maps := { ctx.maps with
      buckets := fun h i => if h = hash ∧ i = slot then sid else ctx.maps.buckets h i } }

/-- The first slot of a bucket that holds `sid`. -/
def bucketSlot (ctx : TcpSlowCtx) (hash : Nat) (sid : UInt32) : Option Nat :=
  (List.range tcpFlowBucketSlots).find? (fun i => ctx.maps.buckets hash i == sid)

/-- `none`: the bucket is full. -/
def tcpFlowInsert (ctx : TcpSlowCtx) (sid : Nat) : Option TcpSlowCtx :=
  let sock := ctx.sock sid
  let hash := flowBucket sock.localIp sock.localPort sock.remoteIp sock.remotePort
  match bucketSlot ctx hash idInvalid with
  | none => none
  | some i => some (setBucket ctx hash i sock.id)

def tcpFlowRemove (ctx : TcpSlowCtx) (sid : Nat) : TcpSlowCtx :=
  let sock := ctx.sock sid
  let hash := flowBucket sock.localIp sock.localPort sock.remoteIp sock.remotePort
  match bucketSlot ctx hash sock.id with
  | none => ctx
  | some i => setBucket ctx hash i idInvalid

def tcpFlowLookup (ctx : TcpSlowCtx) (localIp : UInt32) (localPort : UInt16)
    (remoteIp : UInt32) (remotePort : UInt16) : Option Nat :=
  let hash := flowBucket localIp localPort remoteIp remotePort
  (List.range tcpFlowBucketSlots).findSome? (fun i =>
    let sid := ctx.maps.buckets hash i
    if sid = idInvalid then none
    else
      let sock := ctx.sock sid.toNat
      if sock.state = .closed then none
      else if sock.localIp = localIp ∧ sock.localPort = localPort ∧ sock.remoteIp = remoteIp ∧
          sock.remotePort = remotePort then some sid.toNat
      else none)

/-! ## Timers (`tcp_timeout.c`) -/

/-- `TOMGR_SIZE`. -/
def tomgrSize : Nat := 1024

/-- The loop of `find_free_entry`, from entry `e` on. -/
def findFreeEntry (t : Tomgr) : Nat → Nat → Option Nat
  | 0, _ => none
  | fuel + 1, e => if (t.entries e).isNone then some e else findFreeEntry t fuel (e + 1)

/-- `tomgr_insert`; `none`: every entry is live. -/
def tomgrInsert (t : Tomgr) (sid : Nat) : Option (Tomgr × Nat) :=
  match findFreeEntry t tomgrSize 0 with
  | none => none
  | some e => some ({ entries := fun i => if i = e then some sid else t.entries i }, e)

/-- `tomgr_cancel`, and what `tomgr_pop` does to the entry it returns. -/
def tomgrRemove (t : Tomgr) (e : Nat) : Tomgr :=
  { entries := fun i => if i = e then none else t.entries i }

/-- `if (timer != NULL) tomgr_cancel(timer)`. -/
def tomgrCancel (t : Tomgr) : Option Nat → Tomgr
  | none => t
  | some e => tomgrRemove t e

/-- `TCP_RETX_RETRIES`. -/
def tcpRetxRetries : UInt8 := 3

def tcpTimeoutCancel (ctx : TcpSlowCtx) (sid : Nat) : TcpSlowCtx :=
  let m := ctx.tcpSockMeta sid
  let ctx := { ctx with tomgr := tomgrCancel ctx.tomgr m.timer }
  ctx.setMeta sid { m with timer := none, retxKind := .none, retxLeft := 0 }

/-- `sock_retx_sched`; `false`: it returned `-1`. -/
def sockRetxSched (ctx : TcpSlowCtx) (sid : Nat) : TcpSlowCtx × Bool :=
  let m := ctx.tcpSockMeta sid
  match tomgrInsert ctx.tomgr sid with
  | some (tomgr, e) => ({ ctx with tomgr }.setMeta sid { m with timer := some e }, true)
  | none => (ctx.setMeta sid { m with timer := none, retxKind := .none, retxLeft := 0 }, false)

def tcpTimeoutArm (ctx : TcpSlowCtx) (sid : Nat) (kind : RetxKind) : TcpSlowCtx × Bool :=
  let ctx := tcpTimeoutCancel ctx sid
  let ctx := ctx.setMeta sid
    { ctx.tcpSockMeta sid with retxKind := kind, retxLeft := tcpRetxRetries }
  sockRetxSched ctx sid

/-! ## Bound ports (`tcp_sock_state.c`) -/

/-- Drop a socket from a port's list and close the gap. -/
def portDrop (p : TcpPort) (sockId : UInt32) : TcpPort :=
  match (List.range p.nsocks).find? (fun i => p.sids i == sockId) with
  | none => p
  | some i =>
    let nsocks := p.nsocks - 1
    { nsocks
      nextSock := if p.nextSock ≥ nsocks then 0 else p.nextSock
      sids := fun k =>
        if k = nsocks then idInvalid
        else if i ≤ k ∧ k < nsocks then p.sids (k + 1)
        else p.sids k }

def tcpBoundRemove (ctx : TcpSlowCtx) (port : UInt16) (sockId : UInt32) : TcpSlowCtx :=
  if port = 0 ∨ port.toNat > maxPort then ctx
  else
    { ctx with boundPorts := fun p =>
        if p = port.toNat then portDrop (ctx.boundPorts p) sockId else ctx.boundPorts p }

/-! ## Listeners (`tcp_listener.c`) -/

def listenerBacklogPut (l : Listener) : Listener :=
  if l.backlogUsed > 0 then { l with backlogUsed := l.backlogUsed - 1 } else l

/-- Takes the round-robin cursor of the port along. -/
def tcpListenerLookup (ctx : TcpSlowCtx) (localIp : UInt32) (port : UInt16) :
    TcpSlowCtx × Option UInt32 :=
  if port = 0 ∨ port.toNat > maxPort then (ctx, none)
  else
    let entry := ctx.portMap port.toNat
    if entry.nsocks = 0 then (ctx, none)
    else
      let accepts := fun i =>
        let sid := entry.sids ((entry.nextSock + i) % entry.nsocks)
        sid != idInvalid && (ctx.sock sid.toNat).state == .listen &&
          ((ctx.sock sid.toNat).localIp == 0 || (ctx.sock sid.toNat).localIp == localIp)
      match (List.range entry.nsocks).find? accepts with
      | none => (ctx, none)
      | some i =>
        let idx := (entry.nextSock + i) % entry.nsocks
        let entry' := { entry with nextSock := (idx + 1) % entry.nsocks }
        ({ ctx with portMap := fun p => if p = port.toNat then entry' else ctx.portMap p },
          some (entry.sids idx))

def tcpListenerDetachChild (ctx : TcpSlowCtx) (sid : Nat) : TcpSlowCtx :=
  let m := ctx.tcpSockMeta sid
  if m.listenerId = idInvalid then ctx
  else
    let k := m.listenerId.toNat
    let l := ctx.listeners k
    let l :=
      if l.active ∧ l.readySlots.isSome then
        match (List.range l.backlogLen.toNat).find?
            (fun i => l.readySids i == (ctx.sock sid).id) with
        | none => l
        | some i => { l with readySids := fun j => if j = i then idInvalid else l.readySids j }
      else l
    let ctx := ctx.setListener k (listenerBacklogPut l)
    ctx.setMeta sid { ctx.tcpSockMeta sid with listenerId := idInvalid }

/-- `false`: the ring of ready children is full. -/
def tcpListenerReadyPush (ctx : TcpSlowCtx) (listenerId sockId : UInt32) : TcpSlowCtx × Bool :=
  let l := ctx.listeners listenerId.toNat
  if !l.active ∨ l.readyUsed ≥ l.backlogLen then (ctx, false)
  else
    let pos := wrapAdd l.readyHead l.readyUsed l.backlogLen
    (ctx.setListener listenerId.toNat
      { l with
        readySids := fun j => if j = pos.toNat then sockId else l.readySids j
        readyUsed := l.readyUsed + 1 }, true)

/-- The loop of `tcp_listener_ready_pop`, at most `ready_used` rounds. -/
def readyPopLoop (listenerId : UInt32) : Nat → TcpSlowCtx → TcpSlowCtx × Option Nat
  | 0, ctx => (ctx, none)
  | fuel + 1, ctx =>
    let l := ctx.listeners listenerId.toNat
    if !l.active ∨ l.readyUsed = 0 then (ctx, none)
    else
      let sid := l.readySids l.readyHead.toNat
      let head := if l.readyHead + 1 ≥ l.backlogLen then 0 else l.readyHead + 1
      let l := { l with
        readySids := fun j => if j = l.readyHead.toNat then idInvalid else l.readySids j
        readyHead := head
        readyUsed := l.readyUsed - 1 }
      let ctx := ctx.setListener listenerId.toNat l
      if sid = idInvalid then readyPopLoop listenerId fuel ctx
      else if (ctx.tcpSockMeta sid.toNat).listenerId ≠ listenerId then
        readyPopLoop listenerId fuel ctx
      else if (ctx.sock sid.toNat).state ≠ .acceptPending then
        let ctx := ctx.setMeta sid.toNat
          { ctx.tcpSockMeta sid.toNat with listenerId := idInvalid }
        let ctx := ctx.setListener listenerId.toNat (listenerBacklogPut l)
        readyPopLoop listenerId fuel ctx
      else (ctx, some sid.toNat)

def tcpListenerReadyPop (ctx : TcpSlowCtx) (listenerId : UInt32) : TcpSlowCtx × Option Nat :=
  readyPopLoop listenerId (ctx.listeners listenerId.toNat).readyUsed.toNat ctx

/-! ## Sockets (`tcp_sock_state.c`) -/

/-- `sock->cc_*`, pacing and recovery as `cc_sock_reset` leaves them. -/
def ccSockReset (sock : TcpSock) : TcpSock :=
  tcpSockRecoveryReset
    { sock with ccAcks := 0, ccAckb := 0, ccEcnb := 0, ccDrops := 0, ccRate := 0, txReadyTsc := 0 }

def ccInitRate (ctx : TcpSlowCtx) : UInt32 :=
  match ctx.ccAlgorithm with
  | .constRate => ctx.ccConstRate
  | .dctcpRate => ctx.ccDctcpInit
  | .other => 0

def tcpSockCcInit (ctx : TcpSlowCtx) (sock : TcpSock) : TcpSock :=
  { ccSockReset sock with ccRate := ccInitRate ctx }

def tcpCcEcnEnabled (ctx : TcpSlowCtx) : Bool := ctx.ccAlgorithm == .dctcpRate

def sockConnReset (sock : TcpSock) : TcpSock :=
  { sock with
    flags := 0, remoteIp := 0, remotePort := 0, txSeq := 0, txPending := 0, rxSeq := 0
    txRemoteAvail := 0, rxDupackCnt := 0, tsRecent := 0, rttEst := 0, txReadyTsc := 0 }

/-- One answer of `cham_new_queue`. -/
def chamNewQueue (ctx : TcpSlowCtx) : Option ProtoQueue × TcpSlowCtx :=
  (ctx.newQueues ctx.newQueuesAsked, { ctx with newQueuesAsked := ctx.newQueuesAsked + 1 })

/-- The entry `tcp_sock_alloc` starts from. -/
def sockBlank (ctx : TcpSlowCtx) (opaquePtr : UInt64) (appId ctxId : UInt8)
    (appBumpQid : UInt16) : TcpSock :=
  { TcpSock.zero with
    id := UInt32.ofNat ctx.nSocks, opaquePtr, appBumpQid, localIp := ctx.localIp, state := .init
    appId, ctxId }

/-- Returns the index of the new socket; `none`: the map or the memory is
full. -/
def tcpSockAlloc (ctx : TcpSlowCtx) (opaquePtr : UInt64) (appId ctxId : UInt8)
    (appBumpQid : UInt16) : TcpSlowCtx × Option Nat :=
  if ctx.nSocks ≥ maxSockets then (ctx, none)
  else
    let sid := ctx.nSocks
    let ctx := ctx.setSock sid (sockBlank ctx opaquePtr appId ctxId appBumpQid)
    let (rxq, ctx) := chamNewQueue ctx
    match rxq with
    | none => (ctx, none)
    | some rxq =>
      let ctx := ctx.setSock sid
        { ctx.sock sid with rxLen := rxq.elsize * rxq.nelems, rxOff := rxq.off }
      let (txq, ctx) := chamNewQueue ctx
      match txq with
      | none => (ctx, none)
      | some txq =>
        let ctx := ctx.setSock sid
          { ctx.sock sid with txLen := txq.elsize * txq.nelems, txOff := txq.off }
        let ctx := ctx.setMeta sid
          { ctx.tcpSockMeta sid with listenerId := idInvalid, autoBound := false }
        ({ ctx with nSocks := sid + 1 }, some sid)

def tcpSockRxWnd (sock : TcpSock) : UInt16 :=
  let wnd := sock.rxLen - sock.rxAvail
  if wnd > 65535 then 65535 else wnd.toUInt16

def tcpSockCloseFinal (ctx : TcpSlowCtx) (sid : Nat) : TcpSlowCtx :=
  let ctx := tcpTimeoutCancel ctx sid
  let ctx := tcpListenerDetachChild ctx sid
  let ctx := tcpFlowRemove ctx sid
  let ctx :=
    if (ctx.tcpSockMeta sid).listenerId = idInvalid then
      tcpBoundRemove ctx (ctx.sock sid).localPort (ctx.sock sid).id
    else ctx
  let ctx := ctx.setSock sid
    (ccSockReset (sockConnReset { ctx.sock sid with state := .closed }))
  ctx.setMeta sid { ctx.tcpSockMeta sid with autoBound := false }

end Chamelio.Tcp
