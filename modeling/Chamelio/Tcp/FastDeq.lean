import Chamelio.Tcp.FastRx

/-!
# Queue side of the TCP fast path (`tcp_event_deq`)

Bumps from the application, control packets and retransmit commands from
the slow path.

Mirroring notes:
- The source reads the entry through a cast of `ctx->qe`, by its type; an
  entry of another type takes the `default` branch.
- `deq_handle_ctl_tx` reads the packet at the head of the paired packet
  queue; an entry there that is not a packet reads as no packet.
-/

namespace Chamelio.Tcp

open Chamelio.Lib Chamelio.Util Chamelio.Pkt Chamelio.Fast

def deqGetTxIp (sock : TcpSock) (txIp : UInt32) : UInt32 :=
  if txIp = 0 then sock.remoteIp else txIp

def deqGetTxPort (sock : TcpSock) (txPort : UInt16) : UInt16 :=
  if txPort = 0 then sock.remotePort else txPort

def deqSockBumpTx (sock : TcpSock) (txPort : UInt16) (txIp txAvail : UInt32) : TcpSock :=
  { sock with
    txAvail := sock.txAvail + txAvail
    remoteIp := deqGetTxIp sock txIp
    remotePort := deqGetTxPort sock txPort }

def deqSockBumpRx (sock : TcpSock) (rxHead : UInt32) : TcpSock :=
  { sock with
    rxHead := wrapAdd sock.rxHead rxHead sock.rxLen
    rxAvail := sock.rxAvail - rxHead }

def deqHandleBumpTx (ctx : TcpCtx) (sockId : UInt32) (txPort : UInt16) (txIp txAvail : UInt32) :
    TcpCtx × Ret :=
  if !isQeBumpValid ctx then (ctx, .error .other)
  else
    match sockMapLookup ctx sockId with
    | none => (ctx, .error .other)
    | some sid =>
      let ctx := setSock ctx sid (deqSockBumpTx (sockOf ctx sid) txPort txIp txAvail)
      let (prio, ctx) := txSchedTsc ctx sid
      let (ctx, ret) := ctxSchedAdd ctx (sockOf ctx sid).id prio txAvail
      if ret < 0 then (ctx, .error .other) else (ctx, .ok 0)

def deqHandleBumpRx (ctx : TcpCtx) (sockId rxHead : UInt32) : TcpCtx × Ret :=
  if !isQeBumpValid ctx then (ctx, .error .other)
  else
    match sockMapLookup ctx sockId with
    | none => (ctx, .error .other)
    | some sid =>
      let sock := sockOf ctx sid
      let rxfull := sock.rxLen == sock.rxAvail
      let ctx := setSock ctx sid (deqSockBumpRx sock rxHead)
      if rxfull then txFillAck ctx sid else (ctx, .ok 0)

/-- `tx_write_tsopt_val`. -/
def txWriteTsoptVal (ctx : TcpCtx) : TcpCtx :=
  let (nowUs, ctx) := tcpNowUs ctx
  { ctx with pkt := put32 ctx.pkt 42 nowUs }

def deqHandleCtlTx (ctx : TcpCtx) : TcpCtx × Ret :=
  if !isQeCtlValid ctx then (ctx, .error .other)
  else
    match ctx.maps.cfg with
    | none => (ctx, .error .other)
    | some cfg =>
      let qid := cfg.slowFastPktQid.toNat
      let ctlPktQ := ctx.dqueues qid
      match ctlPktQ.q.head? with
      | some (.ctlTxPkt bytes) =>
        if !isQePktValid ctx (ctlPktQ.off + ctlPktQ.head) then (ctx, .error .other)
        else
          let raw := fun i => bytes.getD i 0
          let hdrlen := ipLen raw
          if !isPaylenValid ctx hdrlen.toUInt32 0 then (ctx, .error .other)
          else
            -- both checksums of the queued packet are cleared first
            let raw := put16 (put16 raw 10 0) 36 0
            let ctx := { ctx with pkt := blit ctx.pkt 0 raw hdrlen.toNat }
            let hasTs := tcphHdrlen raw * 4 == tcpHlen + tcpTsOptLen
            if hasTs && !isPaylenValid ctx txGetHdrlen 0 then (ctx, .error .other)
            else
              let ctx := if hasTs then txWriteTsoptVal ctx else ctx
              (ctx.setDqueue qid ctlPktQ.dequeue, .ok hdrlen.toNat)
      | _ => (ctx, .error .other)

def deqIsRetransmitStale (sock : TcpSock) (txSeq txPending : UInt32) : Bool :=
  sock.txPending == 0 || sock.txSeq != txSeq || sock.txPending != txPending

def deqHandleRetransmit (ctx : TcpCtx) (sockId txSeq txPending : UInt32) : TcpCtx × Ret :=
  if !isQeCtlValid ctx then (ctx, .error .other)
  else
    match sockMapLookup ctx sockId with
    | none => (ctx, .error .other)
    | some sid =>
      if deqIsRetransmitStale (sockOf ctx sid) txSeq txPending then (ctx, .ok 0)
      else (remit ctx sid, .ok 0)

def tcpEventDeq (ctx : TcpCtx) : TcpCtx × Ret :=
  if !isQeValid ctx then (ctx, .error .other)
  else
    match ctx.qe with
    | .bumpChamTx sockId txPort txIp txAvail => deqHandleBumpTx ctx sockId txPort txIp txAvail
    | .bumpChamRx sockId rxHead => deqHandleBumpRx ctx sockId rxHead
    | .ctlTx => deqHandleCtlTx ctx
    | .txRetransmit sockId txSeq txPending => deqHandleRetransmit ctx sockId txSeq txPending
    | _ => (ctx, .error .other)

end Chamelio.Tcp
