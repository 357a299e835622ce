import Chamelio.Fast.EbpfHelpers
import Chamelio.Tcp.FastDeq

/-!
# The TCP handlers as an eBPF program (`protos/tcp/fast/tcp_fast.ebpf.c`)

The second copy of the fast path, which the agent compiles where protocols
run as eBPF programs. It reaches everything outside its own arithmetic
through helpers, looks elements of the maps up by the size of their type
instead of the size the map was created with, and does not look at the
result of `sched_add`.

Mirroring notes:
- Functions whose text is the same in both files and which call no helper
  are the ones of the hand-written handlers: the header predicates, the
  counters, `tx_get_tx_bump`, `sock_sched_avail` and the like.
- An element found at an address of a map is named by its index there.
- The `NULL` test on the configuration is the test on its map.
-/

namespace Chamelio.Tcp.Ebpf

open Chamelio.Lib Chamelio.Util Chamelio.Pkt Chamelio.Fast

/-- `sizeof(struct tcp_sock)`. -/
def tcpSockSize : UInt32 := 192
/-- `sizeof(struct tcp_flow_bucket)`. -/
def tcpFlowBucketSize : UInt32 := 16
/-- `sizeof(struct tcp_ctl_cfg)`. -/
def tcpCtlCfgSize : UInt32 := 68
/-- `sizeof(struct tcp_queue_bump_entry)`. -/
def tcpQueueBumpEntrySize : UInt64 := 32
/-- `sizeof(struct tcp_queue_ctl_entry)`. -/
def tcpQueueCtlEntrySize : UInt64 := 32
/-- `sizeof(struct tcp_queue_pkt_entry)`. -/
def tcpQueuePktEntrySize : UInt64 := 64
/-- `sizeof(struct cham_sched_entry)`. -/
def chamSchedEntrySize : UInt64 := 32

/-- The configuration, which lies at the start of its map. -/
def cfgAt (ctx : TcpCtx) (addr : Nat) : Option TcpCtlCfg := if addr = 0 then ctx.maps.cfg else none

/-! ## Sockets, clock and scheduler -/

def sockMapLookup (ctx : TcpCtx) (sid : UInt32) : Option Nat :=
  if sid.toNat ≥ ctx.maps.sockNelems then none
  else some (elemAt tcpSockSize (ebpfMapLookup sid.toUInt64 tcpSockSize.toUInt64))

/-- The test `sock_find` makes on one slot of the bucket. -/
def sockFindSlot (ctx : TcpCtx) (lip : UInt32) (lport : UInt16) (rip : UInt32) (rport : UInt16)
    (sid : UInt32) : Option Nat :=
  if sid = idInvalid then none
  else
    match sockMapLookup ctx sid with
    | none => none
    | some i =>
      let sock := sockOf ctx i
      if sock.state = .closed then none
      else if sock.localIp = lip ∧ sock.localPort = lport ∧ sock.remoteIp = rip ∧
          sock.remotePort = rport then some i
      else none

def sockFind (ctx : TcpCtx) : Option Nat :=
  let rip := ipSrc ctx.pkt
  let lip := ipDst ctx.pkt
  let rport := tcpSrc ctx.pkt
  let lport := tcpDest ctx.pkt
  let hash := sockHash lip lport rip rport % tcpFlowBuckets
  if hash.toNat ≥ ctx.maps.buckNelems then none
  else
    let bucket := elemAt tcpFlowBucketSize (ebpfMapLookup hash.toUInt64 tcpFlowBucketSize.toUInt64)
    (List.range tcpFlowBucketSlots).findSome? (fun i =>
      sockFindSlot ctx lip lport rip rport (ctx.maps.buckets bucket i))

/-- `(__u32) ebpf_now_us()`. -/
def nowUs (ctx : TcpCtx) : UInt32 × TcpCtx :=
  let (us, clk) := ebpfNowUs ctx.clk
  (us.toUInt32, { ctx with clk })

def txSchedTsc (ctx : TcpCtx) (sid : Nat) : UInt64 × TcpCtx :=
  let (nowTsc, clk) := ebpfRdtsc ctx.clk
  let ctx := { ctx with clk }
  let sock := sockOf ctx sid
  if sock.ccRate = 0 ∨ sock.txReadyTsc ≤ nowTsc then (nowTsc, ctx)
  else (sock.txReadyTsc, ctx)

def remit (ctx : TcpCtx) (sid : Nat) : TcpCtx :=
  let sock := tcpSockRecoveryEnter (sockOf ctx sid)
  let sock := { sock with txAvail := sock.txAvail + sock.txPending, txPending := 0 }
  let ctx := setSock ctx sid sock
  let ctx := { ctx with sched := (schedRemove ctx.sched sock.id).1 }
  let (now, clk) := ebpfRdtsc ctx.clk
  (ctxSchedAdd { ctx with clk } sock.id now (sockSchedAvail sock)).1

/-! ## Transmit helpers -/

def txFillHdr (ctx : TcpCtx) (sid : Nat) (hdrlen paylen : UInt32) : TcpCtx :=
  let sock := sockOf ctx sid
  let (nowUs, ctx) := nowUs ctx
  let ctx := { ctx with pkt := txHdrBytes ctx.pkt sock hdrlen paylen nowUs }
  if sock.flags &&& sockFlagSendEce ≠ 0 then
    setSock ctx sid { sock with flags := sock.flags &&& ~~~sockFlagSendEce }
  else ctx

def txFillAck (ctx : TcpCtx) (sid : Nat) : TcpCtx × Ret :=
  if !isPktlenValid ctx then (ctx, .error .other)
  else if !isPaylenValid ctx txGetHdrlen 0 then (ctx, .error .other)
  else (txFillHdr ctx sid txGetHdrlen 0, .ok txGetHdrlen.toNat)

def txCopyPayload (ctx : TcpCtx) (sock : TcpSock) (hdrlen txBump : UInt32) : TcpCtx :=
  let txBase := sock.txOff.toNat
  let txPos := wrapAdd sock.txHead sock.txPending sock.txLen
  if txPos + txBump ≤ sock.txLen then
    { ctx with
      pkt := ebpfMemcpy ctx.pkt hdrlen.toNat (fun i => ctx.shm (txBase + txPos.toNat + i))
        txBump.toNat }
  else
    let part := sock.txLen - txPos
    let pkt := ebpfMemcpy ctx.pkt hdrlen.toNat (fun i => ctx.shm (txBase + txPos.toNat + i))
      part.toNat
    { ctx with
      pkt := ebpfMemcpy pkt (hdrlen.toNat + part.toNat) (fun i => ctx.shm (txBase + i))
        (txBump - part).toNat }

def txSockSchedNext (clk : Clock) (sock : TcpSock) (pktlen : UInt32) (nowTsc : UInt64) :
    TcpSock :=
  if sock.ccRate = 0 then { sock with txReadyTsc := nowTsc }
  else { sock with txReadyTsc := nowTsc + ebpfRateDelayTsc clk pktlen sock.ccRate }

/-! ## Receive helpers -/

def rxPuntCtl (ctx : TcpCtx) : TcpCtx × Ret :=
  match cfgAt ctx (ebpfMapLookup 0 tcpCtlCfgSize.toUInt64) with
  | none => (ctx, .error .other)
  | some cfg =>
    if ctx.core.toNat ≥ maxFpCores then (ctx, .error .other)
    else
      let pktQid := (cfg.fastSlowPktQids ctx.core.toNat).toNat
      let sigQid := (cfg.fastSlowSigQids ctx.core.toNat).toNat
      if !ebpfQueueTail (ctx.equeues pktQid) tcpQueuePktEntrySize then (ctx, .error .other)
      else if !ebpfQueueTail (ctx.equeues sigQid) tcpQueueCtlEntrySize then (ctx, .error .other)
      else
        let hdrlen := rxGetHdrlen ctx.pkt
        if !isPaylenValid ctx hdrlen 0 then (ctx, .error .other)
        else
          let bytes := (List.range hdrlen.toNat).map ctx.pkt
          match (ctx.equeues pktQid).push (.ctlRxPkt bytes ctx.core) with
          | none => (ctx, .error .other)
          | some q =>
            let ctx := ctx.setQueue pktQid q
            match (ctx.equeues sigQid).push .ctlRx with
            | none => (ctx, .error .other)
            | some q => (ctx.setQueue sigQid q, .ok 0)

def sockTsRx (ctx : TcpCtx) (sid : Nat) : TcpCtx :=
  match rxReadTs ctx with
  | none => ctx
  | some (tsVal, tsEcr) =>
    let ctx := setSock ctx sid { sockOf ctx sid with tsRecent := tsVal }
    if tsEcr = 0 then ctx
    else
      let (nowUs, ctx) := nowUs ctx
      let rtt := nowUs - tsEcr
      if rtt = 0 ∨ rtt ≥ tcpMaxRtt then ctx
      else
        let sock := sockOf ctx sid
        let est := if sock.rttEst ≠ 0 then (7 * sock.rttEst + rtt) / 8 else rtt
        setSock ctx sid { sock with rttEst := est }

def rxSchedTx (ctx : TcpCtx) (sid : Nat) (availBefore availAfter : UInt32) : TcpCtx :=
  if availAfter ≤ availBefore then ctx
  else
    let (prio, ctx) := txSchedTsc ctx sid
    (ctxSchedAdd ctx (sockOf ctx sid).id prio (availAfter - availBefore)).1

def rxCopyPayload (ctx : TcpCtx) (sock : TcpSock) (src : Nat) (paylen : UInt32) : TcpCtx :=
  let rxBase := ebpfMapGet sock.rxOff.toNat sock.rxLen
  let tail := wrapAdd sock.rxHead sock.rxAvail sock.rxLen
  if tail + paylen ≤ sock.rxLen then
    { ctx with
      shm := ebpfMemcpy ctx.shm (rxBase + tail.toNat) (fun i => ctx.pkt (src + i)) paylen.toNat }
  else
    let part := sock.rxLen - tail
    let shm := ebpfMemcpy ctx.shm (rxBase + tail.toNat) (fun i => ctx.pkt (src + i)) part.toNat
    { ctx with
      shm := ebpfMemcpy shm rxBase (fun i => ctx.pkt (src + part.toNat + i))
        (paylen - part).toNat }

/-- `ebpf_queue_tail`, fill and `queue_enqueue` on the application's queue. -/
def rxEnqueueApp (ctx : TcpCtx) (sid : Nat) (e : TcpQe) : Option TcpCtx :=
  let qid := (sockOf ctx sid).appBumpQid.toNat
  if !ebpfQueueTail (ctx.equeues qid) tcpQueueBumpEntrySize then none
  else
    match (ctx.equeues qid).push e with
    | none => none
    | some q => some (ctx.setQueue qid q)

def rxEnqueueTxBump (ctx : TcpCtx) (sid : Nat) (txBump : UInt32) : Option TcpCtx :=
  rxEnqueueApp ctx sid (.bumpAppTx (sockOf ctx sid).opaquePtr txBump)

def rxEnqueueRxBump (ctx : TcpCtx) (sid : Nat) (rxBump : UInt32) (rxPort : UInt16)
    (rxIp : UInt32) : Option TcpCtx :=
  rxEnqueueApp ctx sid (.bumpAppRx (sockOf ctx sid).opaquePtr rxPort rxIp rxBump)

/-! ## `event_rx` -/

def rxAckStage (ctx : TcpCtx) (sid : Nat) : TcpCtx × RxLocals :=
  let p := ctx.pkt
  let sock := sockOf ctx sid
  let isAck := rxIsAck p
  let ctx := setSock ctx sid { sock with
    txRemoteAvail := (tcpWnd p).toUInt32
    ccAcks := if isAck then sock.ccAcks + 1 else sock.ccAcks }
  let ctx := sockTsRx ctx sid
  let ackBump := rxGetAckBump p (sockOf ctx sid)
  let ctx := if isAck then setSock ctx sid (rxSockBumpAck p (sockOf ctx sid) ackBump) else ctx
  (ctx,
    { availBefore := sockSchedAvail sock
      availAfter := sockSchedAvail (sockOf ctx sid)
      ackBump
      overlap := rxGetPayloadOverlap p sock
      isAck
      isAckDup := sock.txSeq == tcpAckno p
      isAckOnly := rxIsAckOnly p
      isPayloadDup := rxIsPayloadDup p sock
      isOutOfOrder := rxIsOutOfOrder p sock })

def rxDupAck (ctx : TcpCtx) (sid : Nat) (v : RxLocals) : TcpCtx × Bool :=
  let sock := sockOf ctx sid
  if v.isAck && v.isAckOnly && v.ackBump == 0 && sock.txPending != 0 &&
      !sock.recoveryActive then
    let sock := { sock with rxDupackCnt := sock.rxDupackCnt + 1 }
    let ctx := setSock ctx sid sock
    if sock.rxDupackCnt ≥ fastRemitThresh then
      let ctx := setSock ctx sid { sock with ccDrops := sock.ccDrops + 1 }
      let ctx := remit ctx sid
      (setSock ctx sid { sockOf ctx sid with rxDupackCnt := 0 }, true)
    else (ctx, false)
  else (ctx, false)

def rxDeliver (ctx : TcpCtx) (sid : Nat) (v : RxLocals) (hdrlen : UInt32) : TcpCtx × Ret :=
  let paylen := (rxGetPaylen ctx.pkt).toUInt32 - v.overlap
  let sock := sockOf ctx sid
  let rxBump := rxGetRxBump sock paylen
  if rxBump > 0 then
    let ctx := rxCopyPayload ctx sock (hdrlen.toNat + v.overlap.toNat) rxBump
    let ctx := setSock ctx sid (rxSockBumpRx sock rxBump)
    match rxEnqueueRxBump ctx sid rxBump (tcpSrc ctx.pkt) (ipSrc ctx.pkt) with
    | none => (ctx, .error .appBump)
    | some ctx => txFillAck ctx sid
  else txFillAck ctx sid

def rxPayload (ctx : TcpCtx) (sid : Nat) (v : RxLocals) (hdrlen : UInt32)
    (shouldFastRemit : Bool) : TcpCtx × Ret :=
  if v.isPayloadDup && !shouldFastRemit then txFillAck ctx sid
  else if v.isOutOfOrder then txFillAck ctx sid
  else if !isPaylenValid ctx hdrlen (rxGetPaylen ctx.pkt).toUInt32 then txFillAck ctx sid
  else rxDeliver ctx sid v hdrlen

def rxAppTxBump (ctx : TcpCtx) (sid : Nat) (v : RxLocals) : Option TcpCtx :=
  if v.isAckDup then some ctx else rxEnqueueTxBump ctx sid v.ackBump

def rxSegment (ctx : TcpCtx) (sid : Nat) (hdrlen : UInt32) : TcpCtx × Ret :=
  let (ctx, v) := rxAckStage ctx sid
  match rxAppTxBump ctx sid v with
  | none => (ctx, .error .appBump)
  | some ctx =>
    let (ctx, shouldFastRemit) := rxDupAck ctx sid v
    let ctx := rxSchedTx ctx sid v.availBefore v.availAfter
    if v.isAckOnly then (ctx, .ok 0) else rxPayload ctx sid v hdrlen shouldFastRemit

def rxEstablished (ctx : TcpCtx) (sid : Nat) : TcpCtx × Ret :=
  let ctx := rxMarkCe ctx sid
  let hdrlen := rxGetHdrlen ctx.pkt
  if !isPaylenValid ctx hdrlen 0 then txFillAck ctx sid else rxSegment ctx sid hdrlen

def eventRx (ctx : TcpCtx) : TcpCtx × Ret :=
  if !isPktlenValid ctx then (ctx, .error .other)
  else if !rxIsIp ctx.pkt then (ctx, .error .other)
  else if rxIsFlagsCtl ctx.pkt then rxPuntCtl ctx
  else
    match sockFind ctx with
    | none => (ctx, .error .other)
    | some sid =>
      if (sockOf ctx sid).state ≠ .established then rxPuntCtl ctx
      else rxEstablished ctx sid

/-! ## `event_sched` -/

def txSendPayload (ctx : TcpCtx) (sid : Nat) (hdrlen txBump : UInt32) (nowTsc : UInt64) :
    TcpCtx × Ret :=
  let ctx := txCopyPayload ctx (sockOf ctx sid) hdrlen txBump
  let sock := txSockTxBump (sockOf ctx sid) txBump
  let sock := txSockSchedNext ctx.clk sock (hdrlen + txBump) nowTsc
  let ctx := setSock ctx sid sock
  let avail := sockSchedAvail sock
  if avail > 0 then
    let (prio, ctx) := txSchedTsc ctx sid
    -- whatever `sched_add` returns
    ((ctxSchedAdd ctx sock.id prio avail).1, .ok (hdrlen + txBump).toNat)
  else (ctx, .ok (hdrlen + txBump).toNat)

def txSend (ctx : TcpCtx) (sid : Nat) (nowTsc : UInt64) : TcpCtx × Ret :=
  if !isPktlenValid ctx then (ctx, .error .other)
  else
    let hdrlen := txGetHdrlen
    let txBump := txGetTxBump (sockOf ctx sid) (txGetMaxPaylen ctx hdrlen)
    if !isPaylenValid ctx hdrlen txBump then (ctx, .error .other)
    else
      let ctx := txFillHdr ctx sid hdrlen txBump
      if txBump > 0 then txSendPayload ctx sid hdrlen txBump nowTsc
      else (ctx, .ok (hdrlen + txBump).toNat)

def eventSched (ctx : TcpCtx) : TcpCtx × Ret :=
  match ebpfSchedHead ctx.sched chamSchedEntrySize with
  | none => (ctx, .ok 0)
  | some entry =>
    let (nowTsc, clk) := ebpfRdtsc ctx.clk
    let ctx := { ctx with clk }
    if entry.priority > nowTsc then (ctx, .ok 0)
    else
      let (sched, ret) := schedPop ctx.sched
      let ctx := { ctx with sched }
      if ret ≠ 0 then (ctx, .error .other)
      else
        match sockMapLookup ctx entry.id with
        | none => (ctx, .error .other)
        | some sid => txSend ctx sid nowTsc

/-! ## `event_deq` -/

def deqHandleBumpTx (ctx : TcpCtx) (sockId : UInt32) (txPort : UInt16) (txIp txAvail : UInt32) :
    TcpCtx × Ret :=
  if !isQeBumpValid ctx then (ctx, .error .other)
  else
    match sockMapLookup ctx sockId with
    | none => (ctx, .error .other)
    | some sid =>
      let ctx := setSock ctx sid (deqSockBumpTx (sockOf ctx sid) txPort txIp txAvail)
      let (prio, ctx) := txSchedTsc ctx sid
      -- whatever `sched_add` returns
      ((ctxSchedAdd ctx (sockOf ctx sid).id prio txAvail).1, .ok 0)

def deqHandleBumpRx (ctx : TcpCtx) (sockId rxHead : UInt32) : TcpCtx × Ret :=
  if !isQeBumpValid ctx then (ctx, .error .other)
  else
    match sockMapLookup ctx sockId with
    | none => (ctx, .error .other)
    | some sid =>
      let sock := sockOf ctx sid
      let rxfull := sock.rxLen == sock.rxAvail
      let ctx := setSock ctx sid (deqSockBumpRx sock rxHead)
      if rxfull then txFillAck ctx sid else (ctx, .ok 0)

def txWriteTsoptVal (ctx : TcpCtx) : TcpCtx :=
  let (nowUs, ctx) := nowUs ctx
  { ctx with pkt := put32 ctx.pkt 42 nowUs }

def deqHandleCtlTx (ctx : TcpCtx) : TcpCtx × Ret :=
  if !isQeCtlValid ctx then (ctx, .error .other)
  else
    match cfgAt ctx (ebpfMapLookup 0 tcpCtlCfgSize.toUInt64) with
    | none => (ctx, .error .other)
    | some cfg =>
      let qid := cfg.slowFastPktQid.toNat
      let ctlPktQ := ctx.dqueues qid
      match ebpfQueueHead ctlPktQ tcpQueuePktEntrySize with
      | some (.ctlTxPkt bytes) =>
        if !isQePktValid ctx (ctlPktQ.off + ctlPktQ.head) then (ctx, .error .other)
        else
          let raw := fun i => bytes.getD i 0
          let hdrlen := ipLen raw
          if !isPaylenValid ctx hdrlen.toUInt32 0 then (ctx, .error .other)
          else
            let raw := put16 (put16 raw 10 0) 36 0
            let ctx := { ctx with pkt := ebpfMemcpy ctx.pkt 0 raw hdrlen.toNat }
            let hasTs := tcphHdrlen raw * 4 == tcpHlen + tcpTsOptLen
            if hasTs && !isPaylenValid ctx txGetHdrlen 0 then (ctx, .error .other)
            else
              let ctx := if hasTs then txWriteTsoptVal ctx else ctx
              (ctx.setDqueue qid ctlPktQ.dequeue, .ok hdrlen.toNat)
      | _ => (ctx, .error .other)

def deqHandleRetransmit (ctx : TcpCtx) (sockId txSeq txPending : UInt32) : TcpCtx × Ret :=
  if !isQeCtlValid ctx then (ctx, .error .other)
  else
    match sockMapLookup ctx sockId with
    | none => (ctx, .error .other)
    | some sid =>
      if deqIsRetransmitStale (sockOf ctx sid) txSeq txPending then (ctx, .ok 0)
      else (remit ctx sid, .ok 0)

def eventDeq (ctx : TcpCtx) : TcpCtx × Ret :=
  if !isQeValid ctx then (ctx, .error .other)
  else
    match ctx.qe with
    | .bumpChamTx sockId txPort txIp txAvail => deqHandleBumpTx ctx sockId txPort txIp txAvail
    | .bumpChamRx sockId rxHead => deqHandleBumpRx ctx sockId rxHead
    | .ctlTx => deqHandleCtlTx ctx
    | .txRetransmit sockId txSeq txPending => deqHandleRetransmit ctx sockId txSeq txPending
    | _ => (ctx, .error .other)

end Chamelio.Tcp.Ebpf
