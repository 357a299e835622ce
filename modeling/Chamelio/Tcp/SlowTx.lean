import Chamelio.Tcp.SlowCtx

/-!
# Control segments and their timers

`protos/tcp/slow/state/tcp_ctl_tx.c`, the rest of `tcp_timeout.c` and the
responses of `app/tcp_app_res.c`. A control segment leaves by three doors:
`tcp_ctl_tx` (the socket's sequence number as it stands),
`tcp_ctl_tx_resend` (one less for SYN and FIN) and `tcp_ctl_tx_reply`
(whatever the caller says, no timestamp option).

Mirroring notes:
- `queue_tail` is asked on both queues before either entry is filled, so
  the two `queue_enqueue` that follow succeed.
- A packet entry is the 54 bytes of `struct tcp_queue_ctl_pkt`.
-/

namespace Chamelio.Tcp

open Chamelio.Lib Chamelio.Util Chamelio.Pkt Chamelio.Fast

/-- `TAS_TCP_CWR`. -/
def tcpCwr : UInt16 := 0x80

/-- `sizeof(struct tcp_queue_ctl_pkt)`. -/
def ctlPktSize : Nat := 54

/-- The arguments of `ctl_pkt_fill`; `tsRecent` is there when a socket is. -/
structure CtlSeg where
  localIp : UInt32
  localPort : UInt16
  remoteIp : UInt32
  remotePort : UInt16
  seq : UInt32
  ack : UInt32
  flags : UInt16
  wnd : UInt16
  tsRecent : Option UInt32

/-- Length of the TCP header in 32-bit words. -/
def CtlSeg.hdrWords (c : CtlSeg) : UInt16 := if c.tsRecent.isSome then 8 else 5

/-- `ctl_pkt_fill`, on a zeroed entry. -/
def ctlPktFill (c : CtlSeg) : Nat → UInt8 :=
  let p := fun _ => 0
  let p := put8 p 0 0x45
  let p := put16 p 2 (if c.tsRecent.isSome then 52 else 40)
  let p := put16 p 4 3
  let p := put8 p 8 0xff
  let p := put8 p 9 ipProtoTcp
  let p := put32 p 12 c.localIp
  let p := put32 p 16 c.remoteIp
  let p := put16 p 20 c.localPort
  let p := put16 p 22 c.remotePort
  let p := put32 p 24 c.seq
  let p := put32 p 28 c.ack
  let p := put16 p 32 ((c.hdrWords <<< 12) ||| (c.flags &&& 0x1ff))
  let p := put16 p 34 c.wnd
  match c.tsRecent with
  | none => p
  | some tsRecent =>
    let p := put8 p 40 tcpOptTimestamp
    let p := put8 p 41 12
    put32 p 46 tsRecent

/-- `false`: one of the two queues is full. -/
def ctlPktEnqueue (ctx : TcpSlowCtx) (c : CtlSeg) : TcpSlowCtx × Bool :=
  let bytes := (List.range ctlPktSize).map (ctlPktFill c)
  match ctx.slowFastPktQ.push (.ctlTxPkt bytes), ctx.slowFastSigQ.push .ctlTx with
  | some pktQ, some sigQ => ({ ctx with slowFastPktQ := pktQ, slowFastSigQ := sigQ }, true)
  | _, _ => (ctx, false)

/-- A segment of a socket, with the socket's window and timestamp. -/
def sockCtlSeg (sock : TcpSock) (seq : UInt32) (flags : UInt16) : CtlSeg :=
  { localIp := sock.localIp, localPort := sock.localPort, remoteIp := sock.remoteIp
    remotePort := sock.remotePort, seq, ack := sock.rxSeq, flags, wnd := tcpSockRxWnd sock
    tsRecent := some sock.tsRecent }

def tcpCtlTx (ctx : TcpSlowCtx) (sid : Nat) (flags : UInt16) : TcpSlowCtx × Bool :=
  let sock := ctx.sock sid
  ctlPktEnqueue ctx (sockCtlSeg sock sock.txSeq flags)

def tcpCtlTxResend (ctx : TcpSlowCtx) (sid : Nat) (flags : UInt16) : TcpSlowCtx × Bool :=
  let sock := ctx.sock sid
  let seq := if flags &&& (tcpSyn ||| tcpFin) ≠ 0 then sock.txSeq - 1 else sock.txSeq
  ctlPktEnqueue ctx (sockCtlSeg sock seq flags)

def tcpCtlTxReply (ctx : TcpSlowCtx) (localIp : UInt32) (localPort : UInt16) (remoteIp : UInt32)
    (remotePort : UInt16) (seq ack : UInt32) (flags : UInt16) : TcpSlowCtx × Bool :=
  ctlPktEnqueue ctx
    { localIp, localPort, remoteIp, remotePort, seq, ack, flags, wnd := 0, tsRecent := none }

/-! ## Responses to the application -/

/-- Reserve and submit one response; a full queue drops it. -/
def appSubmit (ctx : TcpSlowCtx) (appId ctxId : UInt8) (res : AppRes) : TcpSlowCtx :=
  match (ctx.slowAppQs appId ctxId).push res with
  | none => ctx
  | some q =>
    { ctx with slowAppQs := fun a c =>
        if a = appId ∧ c = ctxId then q else ctx.slowAppQs a c }

/-- `tcp_app_connect_res` on the context of the socket. -/
def tcpAppConnectRes (ctx : TcpSlowCtx) (sid : Nat) (status : Nat) : TcpSlowCtx :=
  let sock := ctx.sock sid
  appSubmit ctx sock.appId sock.ctxId
    (.connectRes status sock.opaquePtr
      (some { core := sock.core, localIp := sock.localIp, localPort := sock.localPort
              remoteIp := sock.remoteIp, remotePort := sock.remotePort }))

def tcpAppListenNewconn (ctx : TcpSlowCtx) (listenSid sid : Nat) : TcpSlowCtx :=
  let listenSock := ctx.sock listenSid
  let sock := ctx.sock sid
  appSubmit ctx listenSock.appId listenSock.ctxId
    (.listenNewconn listenSock.opaquePtr sock.remoteIp sock.remotePort)

/-- `sock_autobind_drop`. -/
def sockAutobindDrop (ctx : TcpSlowCtx) (sid : Nat) : TcpSlowCtx :=
  if !(ctx.tcpSockMeta sid).autoBound then ctx
  else
    let sock := ctx.sock sid
    let ctx := tcpBoundRemove ctx sock.localPort sock.id
    let ctx := ctx.setSock sid { ctx.sock sid with localPort := 0, localIp := ctx.localIp }
    ctx.setMeta sid { ctx.tcpSockMeta sid with autoBound := false }

def tcpSockConnectFail (ctx : TcpSlowCtx) (sid : Nat) (err : Nat) : TcpSlowCtx :=
  let ctx := tcpTimeoutCancel ctx sid
  let ctx := tcpFlowRemove ctx sid
  let ctx := sockAutobindDrop ctx sid
  let ctx := ctx.setSock sid
    { ccSockReset (sockConnReset (ctx.sock sid)) with state := .init }
  tcpAppConnectRes ctx sid err

/-! ## Retransmission -/

def sockRetxSeq (sock : TcpSock) : UInt32 := sock.txSeq + sock.txPending - 1

def sockIsEcn (sock : TcpSock) : Bool := sock.flags &&& sockFlagEcn != 0

/-- Flags of a SYN. -/
def synFlags (sock : TcpSock) : UInt16 :=
  tcpSyn ||| (if sockIsEcn sock then tcpEce ||| tcpCwr else 0)

/-- Flags of a SYN-ACK. -/
def synackFlags (sock : TcpSock) : UInt16 :=
  tcpSyn ||| tcpAck ||| (if sockIsEcn sock then tcpEce else 0)

def sockRetxFlags (sock : TcpSock) : RetxKind → Option UInt16
  | .syn => some (synFlags sock)
  | .synack => some (synackFlags sock)
  | .fin => some (tcpFin ||| tcpAck)
  | .none => none

def sockRetxTx (ctx : TcpSlowCtx) (sid : Nat) : TcpSlowCtx × Bool :=
  let sock := ctx.sock sid
  match sockRetxFlags sock (ctx.tcpSockMeta sid).retxKind with
  | none => (ctx, false)
  | some flags =>
    tcpCtlTxReply ctx sock.localIp sock.localPort sock.remoteIp sock.remotePort
      (sockRetxSeq sock) sock.rxSeq flags

/-- `ETIMEDOUT`. -/
def etimedout : Nat := 110

def sockRetxExpire (ctx : TcpSlowCtx) (sid : Nat) : TcpSlowCtx :=
  let sock := ctx.sock sid
  let abort := fun ctx =>
    tcpSockCloseFinal (tcpCtlTxReply ctx sock.localIp sock.localPort sock.remoteIp
      sock.remotePort sock.txSeq sock.rxSeq (tcpRst ||| tcpAck)).1 sid
  match (ctx.tcpSockMeta sid).retxKind with
  | .syn => tcpSockConnectFail ctx sid etimedout
  | .synack => abort ctx
  | .fin => abort ctx
  | .none => ctx

def sockOnTimeout (ctx : TcpSlowCtx) (sid : Nat) : TcpSlowCtx :=
  if (ctx.tcpSockMeta sid).retxLeft = 0 then sockRetxExpire ctx sid
  else
    let (ctx, ok) := sockRetxTx ctx sid
    if !ok then sockRetxExpire ctx sid
    else
      let ctx := ctx.setMeta sid
        { ctx.tcpSockMeta sid with retxLeft := (ctx.tcpSockMeta sid).retxLeft - 1 }
      let (ctx, ok) := sockRetxSched ctx sid
      if !ok then sockRetxExpire ctx sid else ctx

/-- One round of `tcp_timeout_poll`, for the entry that was popped and its
socket. -/
def tcpTimeoutFire (ctx : TcpSlowCtx) (entry sid : Nat) : TcpSlowCtx :=
  let ctx := { ctx with tomgr := tomgrRemove ctx.tomgr entry }
  let ctx := ctx.setMeta sid { ctx.tcpSockMeta sid with timer := none }
  if (ctx.tcpSockMeta sid).retxKind = .none then ctx else sockOnTimeout ctx sid

end Chamelio.Tcp
