import Chamelio.Tcp.FastTx

/-!
# Receive side of the TCP fast path (`tcp_event_rx`)

The handler is cut at the points where the source returns: dispatch
(`tcpEventRx`), the stage that applies the acknowledgement
(`rxAckStage`), the bump for the application, the duplicate-ACK counter,
and the payload stage. `RxLocals` are the C function's local variables
that outlive the first stage.

Mirroring notes:
- The packet stays as received until `tx_fill_ack` overwrites it in place,
  which is the last thing each path does, so every field is read from the
  received bytes.
- `paylen` is `ip.len - 4 * IHL - 4 * data offset` in 16 bits, whatever the
  three fields hold.
- `tx_head` is reduced modulo `tx_len` by the machine remainder, which the
  C code may only reach with `tx_len ≠ 0`.
-/

namespace Chamelio.Tcp

open Chamelio.Lib Chamelio.Util Chamelio.Pkt Chamelio.Fast

/-- `FAST_REMIT_THRESH`. -/
def fastRemitThresh : UInt8 := 4

/-! ## Header predicates -/

def rxGetHdrlen (p : Nat → UInt8) : UInt32 := UInt32.ofNat (iphHl p * 4 + tcphHdrlen p * 4)

def rxGetPaylen (p : Nat → UInt8) : UInt16 :=
  ipLen p - UInt16.ofNat (iphHl p * 4) - UInt16.ofNat (tcphHdrlen p * 4)

def rxIsIp (p : Nat → UInt8) : Bool :=
  iphV p == 4 && decide (iphHl p ≥ 5) && ipProto p == ipProtoTcp

def rxIsCe (p : Nat → UInt8) : Bool := iphEcn p == ipEcnCe

def rxIsFlagsCtl (p : Nat → UInt8) : Bool :=
  tcphFlags p &&& (tcpSyn ||| tcpFin ||| tcpRst) != 0

def rxIsAck (p : Nat → UInt8) : Bool := tcphFlags p &&& tcpAck != 0

def rxIsAckOnly (p : Nat → UInt8) : Bool := rxGetPaylen p == 0

def rxGetPayloadOverlap (p : Nat → UInt8) (sock : TcpSock) : UInt32 :=
  let seqno := tcpSeqno p
  let overlap := if s32 (seqno - sock.rxSeq) < 0 then sock.rxSeq - seqno else 0
  let paylen := (rxGetPaylen p).toUInt32
  if overlap > paylen then paylen else overlap

def rxIsPayloadDup (p : Nat → UInt8) (sock : TcpSock) : Bool :=
  (rxGetPaylen p).toUInt32 ≤ rxGetPayloadOverlap p sock

def rxIsOutOfOrder (p : Nat → UInt8) (sock : TcpSock) : Bool :=
  s32 (tcpSeqno p - sock.rxSeq) > 0

def rxIsAckValid (seqno pending avail ackno : UInt32) : Bool :=
  let maxAck := seqno + pending + avail
  if seqno ≤ maxAck then !(ackno < seqno || ackno > maxAck)
  else !(seqno > ackno && ackno > maxAck)

def rxGetAckBump (p : Nat → UInt8) (sock : TcpSock) : UInt32 :=
  let ackno := tcpAckno p
  if rxIsAckValid sock.txSeq sock.txPending sock.txAvail ackno then ackno - sock.txSeq else 0

/-! ## Punting to the slow path -/

def rxPuntCtl (ctx : TcpCtx) : TcpCtx × Ret :=
  match ctx.maps.cfg with
  | none => (ctx, .error .other)
  | some cfg =>
    if ctx.core.toNat ≥ maxFpCores then (ctx, .error .other)
    else
      let pktQid := (cfg.fastSlowPktQids ctx.core.toNat).toNat
      let sigQid := (cfg.fastSlowSigQids ctx.core.toNat).toNat
      if !(ctx.equeues pktQid).hasRoom then (ctx, .error .other)
      else if !(ctx.equeues sigQid).hasRoom then (ctx, .error .other)
      else
        let hdrlen := rxGetHdrlen ctx.pkt
        if !isPaylenValid ctx hdrlen 0 then (ctx, .error .other)
        else
          let bytes := (List.range hdrlen.toNat).map ctx.pkt
          match (ctx.equeues pktQid).push (.ctlRxPkt bytes ctx.core) with
          | none => (ctx, .error .other)
          | some q =>
            let ctx := ctx.setQueue pktQid q
            match (ctx.equeues sigQid).push .ctlRx with
            | none => (ctx, .error .other)
            | some q => (ctx.setQueue sigQid q, .ok 0)

/-! ## Acknowledgements -/

/-- `rx_read_ts`: the timestamp option, when it is the first option. -/
def rxReadTs (ctx : TcpCtx) : Option (UInt32 × UInt32) :=
  if tcphHdrlen ctx.pkt * 4 ≤ tcpHlen then none
  else if tcpPktInnerSize + tcpTsOptLen > ctx.pktRoom then none
  else if ctx.pkt 40 ≠ tcpOptTimestamp then none
  else some (be32 ctx.pkt 42, be32 ctx.pkt 46)

def sockTsRx (ctx : TcpCtx) (sid : Nat) : TcpCtx :=
  match rxReadTs ctx with
  | none => ctx
  | some (tsVal, tsEcr) =>
    let ctx := setSock ctx sid { sockOf ctx sid with tsRecent := tsVal }
    if tsEcr = 0 then ctx
    else
      let (nowUs, ctx) := tcpNowUs ctx
      let rtt := nowUs - tsEcr
      if rtt = 0 ∨ rtt ≥ tcpMaxRtt then ctx
      else
        let sock := sockOf ctx sid
        let est := if sock.rttEst ≠ 0 then (7 * sock.rttEst + rtt) / 8 else rtt
        setSock ctx sid { sock with rttEst := est }

/-- The counters and the ring position `rx_sock_bump_ack` moves. -/
def rxSockBumpAck (p : Nat → UInt8) (sock : TcpSock) (ackBump : UInt32) : TcpSock :=
  let extra := if ackBump > sock.txPending then ackBump - sock.txPending else 0
  let extra := if extra > sock.txAvail then sock.txAvail else extra
  let txSeq := sock.txSeq + ackBump
  let txPending := if ackBump ≤ sock.txPending then sock.txPending - ackBump else 0
  let txAvail := if ackBump ≤ sock.txPending then sock.txAvail else sock.txAvail - extra
  let ccEcnb := if tcphFlags p &&& tcpEce != 0 then sock.ccEcnb + ackBump else sock.ccEcnb
  let sock := { sock with
    txSeq, txPending, txAvail, ccEcnb
    ccAckb := sock.ccAckb + ackBump
    txHead := (sock.txHead + ackBump) % sock.txLen }
  if ackBump > 0 then tcpSockRecoveryAck { sock with rxDupackCnt := 0 } else sock

/-- The locals of `tcp_event_rx` that later stages read. -/
structure RxLocals where
  availBefore : UInt32
  availAfter : UInt32
  ackBump : UInt32
  overlap : UInt32
  isAck : Bool
  isAckDup : Bool
  isAckOnly : Bool
  isPayloadDup : Bool
  isOutOfOrder : Bool

/-- Window, timestamp and acknowledgement of an acceptable segment. -/
def rxAckStage (ctx : TcpCtx) (sid : Nat) : TcpCtx × RxLocals :=
  let p := ctx.pkt
  let sock := sockOf ctx sid
  let isAck := rxIsAck p
  let ctx := setSock ctx sid { sock with
    txRemoteAvail := (tcpWnd p).toUInt32
    ccAcks := if isAck then sock.ccAcks + 1 else sock.ccAcks }
  let ctx := sockTsRx ctx sid
  let ackBump := rxGetAckBump p (sockOf ctx sid)
  let ctx := if isAck then setSock ctx sid (rxSockBumpAck p (sockOf ctx sid) ackBump) else ctx
  (ctx,
    { availBefore := sockSchedAvail sock
      availAfter := sockSchedAvail (sockOf ctx sid)
      ackBump
      overlap := rxGetPayloadOverlap p sock
      isAck
      isAckDup := sock.txSeq == tcpAckno p
      isAckOnly := rxIsAckOnly p
      isPayloadDup := rxIsPayloadDup p sock
      isOutOfOrder := rxIsOutOfOrder p sock })

/-- Enqueue an entry on the socket's application bump queue. -/
def rxEnqueueApp (ctx : TcpCtx) (sid : Nat) (e : TcpQe) : Option TcpCtx :=
  let qid := (sockOf ctx sid).appBumpQid.toNat
  match (ctx.equeues qid).push e with
  | none => none
  | some q => some (ctx.setQueue qid q)

def rxEnqueueTxBump (ctx : TcpCtx) (sid : Nat) (txBump : UInt32) : Option TcpCtx :=
  rxEnqueueApp ctx sid (.bumpAppTx (sockOf ctx sid).opaquePtr txBump)

def rxEnqueueRxBump (ctx : TcpCtx) (sid : Nat) (rxBump : UInt32) (rxPort : UInt16)
    (rxIp : UInt32) : Option TcpCtx :=
  rxEnqueueApp ctx sid (.bumpAppRx (sockOf ctx sid).opaquePtr rxPort rxIp rxBump)

/-- Count a duplicate ACK; the fourth in a row rewinds the socket. -/
def rxDupAck (ctx : TcpCtx) (sid : Nat) (v : RxLocals) : TcpCtx × Bool :=
  let sock := sockOf ctx sid
  if v.isAck && v.isAckOnly && v.ackBump == 0 && sock.txPending != 0 &&
      !sock.recoveryActive then
    let sock := { sock with rxDupackCnt := sock.rxDupackCnt + 1 }
    let ctx := setSock ctx sid sock
    if sock.rxDupackCnt ≥ fastRemitThresh then
      let ctx := setSock ctx sid { sock with ccDrops := sock.ccDrops + 1 }
      let ctx := remit ctx sid
      (setSock ctx sid { sockOf ctx sid with rxDupackCnt := 0 }, true)
    else (ctx, false)
  else (ctx, false)

def rxSchedTx (ctx : TcpCtx) (sid : Nat) (availBefore availAfter : UInt32) : TcpCtx :=
  if availAfter ≤ availBefore then ctx
  else
    let (prio, ctx) := txSchedTsc ctx sid
    (ctxSchedAdd ctx (sockOf ctx sid).id prio (availAfter - availBefore)).1

/-! ## Payload -/

def rxGetRxBump (sock : TcpSock) (paylen : UInt32) : UInt32 :=
  let freeRx := sock.rxLen - sock.rxAvail
  if freeRx < paylen then freeRx else paylen

/-- `rx_copy_payload(shm_base, sock, pkt + src, paylen)`. -/
def rxCopyPayload (ctx : TcpCtx) (sock : TcpSock) (src : Nat) (paylen : UInt32) : TcpCtx :=
  let rxBase := sock.rxOff.toNat
  let tail := wrapAdd sock.rxHead sock.rxAvail sock.rxLen
  if tail + paylen ≤ sock.rxLen then
    { ctx with
      shm := blit ctx.shm (rxBase + tail.toNat) (fun i => ctx.pkt (src + i)) paylen.toNat }
  else
    let part := sock.rxLen - tail
    let shm := blit ctx.shm (rxBase + tail.toNat) (fun i => ctx.pkt (src + i)) part.toNat
    { ctx with
      shm := blit shm rxBase (fun i => ctx.pkt (src + part.toNat + i)) (paylen - part).toNat }

def rxSockBumpRx (sock : TcpSock) (rxBump : UInt32) : TcpSock :=
  { sock with rxSeq := sock.rxSeq + rxBump, rxAvail := sock.rxAvail + rxBump }

/-- Deliver the unseen part of an in-order payload to the receive ring. -/
def rxDeliver (ctx : TcpCtx) (sid : Nat) (v : RxLocals) (hdrlen : UInt32) : TcpCtx × Ret :=
  let paylen := (rxGetPaylen ctx.pkt).toUInt32 - v.overlap
  let sock := sockOf ctx sid
  let rxBump := rxGetRxBump sock paylen
  if rxBump > 0 then
    let ctx := rxCopyPayload ctx sock (hdrlen.toNat + v.overlap.toNat) rxBump
    let ctx := setSock ctx sid (rxSockBumpRx sock rxBump)
    match rxEnqueueRxBump ctx sid rxBump (tcpSrc ctx.pkt) (ipSrc ctx.pkt) with
    | none => (ctx, .error .appBump)
    | some ctx => txFillAck ctx sid
  else txFillAck ctx sid

/-- From the first test on the payload to the end of `tcp_event_rx`. -/
def rxPayload (ctx : TcpCtx) (sid : Nat) (v : RxLocals) (hdrlen : UInt32)
    (shouldFastRemit : Bool) : TcpCtx × Ret :=
  if v.isPayloadDup && !shouldFastRemit then txFillAck ctx sid
  else if v.isOutOfOrder then txFillAck ctx sid
  else if !isPaylenValid ctx hdrlen (rxGetPaylen ctx.pkt).toUInt32 then txFillAck ctx sid
  else rxDeliver ctx sid v hdrlen

/-- The bump that tells the application about acknowledged bytes. -/
def rxAppTxBump (ctx : TcpCtx) (sid : Nat) (v : RxLocals) : Option TcpCtx :=
  if v.isAckDup then some ctx else rxEnqueueTxBump ctx sid v.ackBump

/-- `tcp_event_rx` on an ESTABLISHED socket, after the header check. -/
def rxSegment (ctx : TcpCtx) (sid : Nat) (hdrlen : UInt32) : TcpCtx × Ret :=
  let (ctx, v) := rxAckStage ctx sid
  match rxAppTxBump ctx sid v with
  | none => (ctx, .error .appBump)
  | some ctx =>
    let (ctx, shouldFastRemit) := rxDupAck ctx sid v
    let ctx := rxSchedTx ctx sid v.availBefore v.availAfter
    if v.isAckOnly then (ctx, .ok 0) else rxPayload ctx sid v hdrlen shouldFastRemit

/-- `sock->flags |= TCP_SOCK_FLAG_SEND_ECE` when the packet is CE-marked. -/
def rxMarkCe (ctx : TcpCtx) (sid : Nat) : TcpCtx :=
  if rxIsCe ctx.pkt then
    let sock := sockOf ctx sid
    setSock ctx sid { sock with flags := sock.flags ||| sockFlagSendEce }
  else ctx

/-- `tcp_event_rx` from the point where the socket is known to be
ESTABLISHED. -/
def rxEstablished (ctx : TcpCtx) (sid : Nat) : TcpCtx × Ret :=
  let ctx := rxMarkCe ctx sid
  let hdrlen := rxGetHdrlen ctx.pkt
  if !isPaylenValid ctx hdrlen 0 then txFillAck ctx sid else rxSegment ctx sid hdrlen

def tcpEventRx (ctx : TcpCtx) : TcpCtx × Ret :=
  if !isPktlenValid ctx then (ctx, .error .other)
  else if !rxIsIp ctx.pkt then (ctx, .error .other)
  else if rxIsFlagsCtl ctx.pkt then rxPuntCtl ctx
  else
    match sockFind ctx with
    | none => (ctx, .error .other)
    | some sid =>
      if (sockOf ctx sid).state ≠ .established then rxPuntCtl ctx
      else rxEstablished ctx sid

end Chamelio.Tcp
