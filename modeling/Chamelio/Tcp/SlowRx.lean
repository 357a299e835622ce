import Chamelio.Tcp.SlowTx

/-!
# Control segments received by the slow path

`protos/tcp/slow/rx`, and the two requests of `app/tcp_app_req.c` that open
a connection, `sock_connect_start` and `app_accept`.

Mirroring notes:
- `ctl_rx_parse` reads the punted header bytes; like the fast path it takes
  the TCP header to start at byte 20.
- `ts_val` and `ts_ecr` are only read where `ts_valid` is set.
-/

namespace Chamelio.Tcp

open Chamelio.Lib Chamelio.Util Chamelio.Pkt Chamelio.Fast

/-- `struct tcp_rx_ctl`. -/
structure TcpRxCtl where
  localIp : UInt32
  remoteIp : UInt32
  seq : UInt32
  ack : UInt32
  localPort : UInt16
  remotePort : UInt16
  wnd : UInt16
  flags : UInt16
  core : UInt16
  /-- `ts_val` and `ts_ecr`, when `ts_valid`. -/
  ts : Option (UInt32 × UInt32)

def ctlRxParse (p : Nat → UInt8) (core : UInt16) : TcpRxCtl :=
  { localIp := ipDst p, remoteIp := ipSrc p, seq := tcpSeqno p, ack := tcpAckno p
    localPort := tcpDest p, remotePort := tcpSrc p, wnd := tcpWnd p, flags := tcphFlags p, core
    ts :=
      if tcphHdrlen p * 4 < tcpHlen + tcpTsOptLen then none
      else if p 40 ≠ tcpOptTimestamp then none
      else some (be32 p 42, be32 p 46) }

/-- `sock_ts_rx` of the slow path. -/
def slowSockTsRx (ctx : TcpSlowCtx) (sid : Nat) (rx : TcpRxCtl) : TcpSlowCtx :=
  match rx.ts with
  | none => ctx
  | some (tsVal, tsEcr) =>
    let ctx := ctx.setSock sid { ctx.sock sid with tsRecent := tsVal }
    if tsEcr = 0 then ctx
    else
      let (tsc, clk) := clockRdtsc ctx.clk
      let nowUs := (ctx.clk.tscToUs tsc).toUInt32
      let ctx := { ctx with clk }
      let rtt := nowUs - tsEcr
      if rtt = 0 ∨ rtt ≥ tcpMaxRtt then ctx
      else
        let sock := ctx.sock sid
        let est := if sock.rttEst ≠ 0 then (7 * sock.rttEst + rtt) / 8 else rtt
        ctx.setSock sid { sock with rttEst := est }

/-! ## Opening -/

/-- `ECONNREFUSED`. -/
def econnrefused : Nat := 111

def sockAckValid (sock : TcpSock) (ack : UInt32) : Bool := ack == sock.txSeq + sock.txPending

/-- The socket `sock_active_established` leaves behind. -/
def activeEstablished (ctx : TcpSlowCtx) (sock : TcpSock) (rx : TcpRxCtl) : TcpSock :=
  tcpSockCcInit ctx
    { sock with
      core := rx.core
      appBumpQid := ctx.appBumpQids sock.appId sock.ctxId rx.core
      flags := if rx.flags &&& tcpEce = 0 then sock.flags &&& ~~~sockFlagEcn else sock.flags
      rxSeq := rx.seq + 1
      txSeq := sock.txSeq + 1
      txRemoteAvail := rx.wnd.toUInt32
      txPending := sock.txPending - 1
      state := .established }

def sockActiveEstablished (ctx : TcpSlowCtx) (sid : Nat) (rx : TcpRxCtl) : TcpSlowCtx :=
  let ctx := tcpTimeoutCancel ctx sid
  ctx.setSock sid (activeEstablished ctx (ctx.sock sid) rx)

/-- `false`: the ready ring is full and the child was closed. -/
def sockPassiveEstablished (ctx : TcpSlowCtx) (sid : Nat) (rx : TcpRxCtl) : TcpSlowCtx × Bool :=
  let ctx := tcpTimeoutCancel ctx sid
  let sock := ctx.sock sid
  let ctx := ctx.setSock sid
    { sock with
      txRemoteAvail := rx.wnd.toUInt32
      txPending := sock.txPending - 1
      txSeq := sock.txSeq + 1
      state := .acceptPending }
  let (ctx, ok) := tcpListenerReadyPush ctx (ctx.tcpSockMeta sid).listenerId (ctx.sock sid).id
  if !ok then (tcpSockCloseFinal ctx sid, false) else (ctx, true)

def tcpRxSynSent (ctx : TcpSlowCtx) (sid : Nat) (rx : TcpRxCtl) : TcpSlowCtx :=
  if rx.flags &&& tcpRst ≠ 0 then tcpSockConnectFail ctx sid econnrefused
  else if rx.flags &&& (tcpSyn ||| tcpAck) ≠ tcpSyn ||| tcpAck then ctx
  else if !sockAckValid (ctx.sock sid) rx.ack then ctx
  else
    let ctx := sockActiveEstablished ctx sid rx
    let ctx := (tcpCtlTx ctx sid tcpAck).1
    tcpAppConnectRes ctx sid 0

def tcpRxSynRecv (ctx : TcpSlowCtx) (sid : Nat) (rx : TcpRxCtl) : TcpSlowCtx :=
  if rx.flags &&& tcpRst ≠ 0 then tcpSockCloseFinal ctx sid
  else if rx.flags &&& tcpSyn ≠ 0 ∧ rx.flags &&& tcpAck = 0 then
    (tcpCtlTxResend ctx sid (synackFlags (ctx.sock sid))).1
  else if rx.flags &&& tcpAck = 0 ∨ !sockAckValid (ctx.sock sid) rx.ack then ctx
  else
    let (ctx, ok) := sockPassiveEstablished ctx sid rx
    if !ok then ctx
    else tcpAppListenNewconn ctx (ctx.tcpSockMeta sid).listenerId.toNat sid

/-- `tcp_ctl_tx_reply` with RST and ACK to the sender of `rx`. -/
def replyRst (ctx : TcpSlowCtx) (rx : TcpRxCtl) (seq ack : UInt32) : TcpSlowCtx :=
  (tcpCtlTxReply ctx rx.localIp rx.localPort rx.remoteIp rx.remotePort seq ack
    (tcpRst ||| tcpAck)).1

/-- The fields `tcp_rx_listen_syn` gives the child. -/
def childSock (ctx : TcpSlowCtx) (sock : TcpSock) (rx : TcpRxCtl) : TcpSock :=
  { sock with
    localIp := rx.localIp
    localPort := rx.localPort
    remoteIp := rx.remoteIp
    remotePort := rx.remotePort
    core := rx.core
    txSeq := 1
    txPending := 1
    rxSeq := rx.seq + 1
    txRemoteAvail := rx.wnd.toUInt32
    tsRecent := match rx.ts with | none => 0 | some (tsVal, _) => tsVal
    state := .synRecv
    flags :=
      if tcpCcEcnEnabled ctx ∧ rx.flags &&& (tcpEce ||| tcpCwr) = tcpEce ||| tcpCwr then
        sock.flags ||| sockFlagEcn
      else sock.flags }

/-- From the child's entry on. -/
def listenChild (ctx : TcpSlowCtx) (listenSid sid : Nat) (rx : TcpRxCtl) : TcpSlowCtx :=
  let listenId := (ctx.sock listenSid).id
  let ctx := ctx.setSock sid (childSock ctx (ctx.sock sid) rx)
  let ctx := ctx.setMeta sid { ctx.tcpSockMeta sid with listenerId := listenId }
  match tcpFlowInsert ctx sid with
  | none =>
    let ctx := ctx.setSock sid { ctx.sock sid with state := .closed }
    replyRst ctx rx 0 (rx.seq + 1)
  | some ctx =>
    let l := ctx.listeners listenId.toNat
    let ctx := ctx.setListener listenId.toNat { l with backlogUsed := l.backlogUsed + 1 }
    let (ctx, ok) := tcpCtlTx ctx sid (synackFlags (ctx.sock sid))
    if !ok then replyRst (tcpSockCloseFinal ctx sid) rx 0 (rx.seq + 1)
    else
      let (ctx, ok) := tcpTimeoutArm ctx sid .synack
      if !ok then
        let sock := ctx.sock sid
        tcpSockCloseFinal (replyRst ctx rx sock.txSeq sock.rxSeq) sid
      else ctx

def tcpRxListenSyn (ctx : TcpSlowCtx) (listenSid : Nat) (rx : TcpRxCtl) : TcpSlowCtx :=
  let l := ctx.listeners (ctx.sock listenSid).id.toNat
  if !l.active ∨ l.backlogUsed ≥ l.backlogLen then replyRst ctx rx 0 (rx.seq + 1)
  else if (tcpFlowLookup ctx rx.localIp rx.localPort rx.remoteIp rx.remotePort).isSome then ctx
  else
    match tcpSockAlloc ctx 0 0 0 0 with
    | (ctx, none) => ctx
    | (ctx, some sid) => listenChild ctx listenSid sid rx

/-! ## Closing -/

def tcpRxEstablished (ctx : TcpSlowCtx) (sid : Nat) (rx : TcpRxCtl) : TcpSlowCtx :=
  if rx.flags &&& tcpRst ≠ 0 then tcpSockCloseFinal ctx sid
  else if rx.flags &&& tcpFin ≠ 0 then
    let ctx := ctx.setSock sid { ctx.sock sid with rxSeq := rx.seq + 1 }
    tcpSockCloseFinal (tcpCtlTx ctx sid tcpAck).1 sid
  else ctx

def tcpRxFinWait1 (ctx : TcpSlowCtx) (sid : Nat) (rx : TcpRxCtl) : TcpSlowCtx :=
  let ctx :=
    if rx.flags &&& tcpFin ≠ 0 then
      (tcpCtlTx (ctx.setSock sid { ctx.sock sid with rxSeq := rx.seq + 1 }) sid tcpAck).1
    else ctx
  if rx.flags &&& tcpAck ≠ 0 ∧ rx.ack = (ctx.sock sid).txSeq then
    tcpSockCloseFinal (tcpTimeoutCancel ctx sid) sid
  else if rx.flags &&& tcpFin ≠ 0 then tcpSockCloseFinal (tcpTimeoutCancel ctx sid) sid
  else ctx

/-! ## Dispatch -/

def sockCtlRx (ctx : TcpSlowCtx) (sid : Nat) (rx : TcpRxCtl) : TcpSlowCtx :=
  match (ctx.sock sid).state with
  | .synSent => tcpRxSynSent ctx sid rx
  | .synRecv => tcpRxSynRecv ctx sid rx
  | .acceptPending => tcpRxEstablished ctx sid rx
  | .established => tcpRxEstablished ctx sid rx
  | .finWait1 => tcpRxFinWait1 ctx sid rx
  | _ => ctx

/-- `ctl_rx` on a punted packet and the core that received it. -/
def ctlRx (ctx : TcpSlowCtx) (p : Nat → UInt8) (core : UInt16) : TcpSlowCtx :=
  let rx := ctlRxParse p (if core.toNat ≥ ctx.nFpCores then 0 else core)
  match tcpFlowLookup ctx rx.localIp rx.localPort rx.remoteIp rx.remotePort with
  | some sid => sockCtlRx (slowSockTsRx ctx sid rx) sid rx
  | none =>
    if rx.flags &&& tcpSyn = 0 ∨ rx.flags &&& tcpAck ≠ 0 then ctx
    else
      match tcpListenerLookup ctx rx.localIp rx.localPort with
      | (ctx, none) => replyRst ctx rx 0 (rx.seq + 1)
      | (ctx, some listenerId) => tcpRxListenSyn ctx listenerId.toNat rx

/-! ## Requests that open a connection -/

/-- `ENOBUFS` and `EAGAIN`. -/
def enobufs : Nat := 105
def eagain : Nat := 11
/-- `EINVAL`. -/
def einval : Nat := 22

/-- The socket `sock_connect_start` starts with. -/
def connectSock (ctx : TcpSlowCtx) (sock : TcpSock) (remoteIp : UInt32) (remotePort : UInt16) :
    TcpSock :=
  { sock with
    remoteIp, remotePort
    txSeq := 1
    txPending := 1
    rxSeq := 0
    state := .synSent
    flags :=
      if tcpCcEcnEnabled ctx then sock.flags ||| sockFlagEcn
      else sock.flags &&& ~~~sockFlagEcn }

def sockConnectStart (ctx : TcpSlowCtx) (sid : Nat) (remoteIp : UInt32) (remotePort : UInt16) :
    TcpSlowCtx :=
  let ctx := ctx.setSock sid (connectSock ctx (ctx.sock sid) remoteIp remotePort)
  match tcpFlowInsert ctx sid with
  | none => tcpSockConnectFail ctx sid enobufs
  | some ctx =>
    let (ctx, ok) := tcpCtlTx ctx sid (synFlags (ctx.sock sid))
    if !ok then tcpSockConnectFail ctx sid eagain
    else
      let (ctx, ok) := tcpTimeoutArm ctx sid .syn
      if !ok then tcpSockConnectFail ctx sid enobufs else ctx

/-- The child after `sock_accept_own`. -/
def acceptedSock (ctx : TcpSlowCtx) (sock : TcpSock) (appId ctxId : UInt8) (opaquePtr : UInt64) :
    TcpSock :=
  tcpSockCcInit ctx
    { sock with
      opaquePtr, appBumpQid := ctx.appBumpQids appId ctxId sock.core, appId, ctxId
      state := .established }

def sockAcceptOwn (ctx : TcpSlowCtx) (sid : Nat) (appId ctxId : UInt8) (opaquePtr : UInt64) :
    TcpSlowCtx :=
  let ctx := ctx.setMeta sid { ctx.tcpSockMeta sid with listenerId := idInvalid }
  ctx.setSock sid (acceptedSock ctx (ctx.sock sid) appId ctxId opaquePtr)

/-- `app_accept` with the socket id and opaque of the request. -/
def appAccept (ctx : TcpSlowCtx) (appId ctxId : UInt8) (sockId : Nat) (opaquePtr : UInt64) :
    TcpSlowCtx :=
  if sockId ≥ ctx.nSocks then
    appSubmit ctx appId ctxId (.acceptRes 9 opaquePtr 0 none)
  else
    let listenSock := ctx.sock sockId
    if listenSock.state ≠ .listen then
      appSubmit ctx appId ctxId (.acceptRes einval opaquePtr listenSock.opaquePtr none)
    else
      match tcpListenerReadyPop ctx listenSock.id with
      | (ctx, none) =>
        appSubmit ctx appId ctxId (.acceptRes eagain opaquePtr listenSock.opaquePtr none)
      | (ctx, some sid) =>
        let ctx := sockAcceptOwn ctx sid appId ctxId opaquePtr
        let l := ctx.listeners listenSock.id.toNat
        let ctx := ctx.setListener listenSock.id.toNat (listenerBacklogPut l)
        appSubmit ctx appId ctxId
          (.acceptRes 0 (ctx.sock sid).opaquePtr listenSock.opaquePtr (some (ctx.sock sid)))

end Chamelio.Tcp
