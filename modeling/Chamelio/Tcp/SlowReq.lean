import Chamelio.Tcp.SlowRx

/-!
# Requests of the application (`protos/tcp/slow/app/tcp_app_req.c`)

The request handlers of `tcp_app_poll` other than `app_accept`, with the
parts of `tcp_listener.c` and `tcp_sock_state.c` they use.

Mirroring notes:
- `appId` and `ctxId` name the context the request came from; its
  `slow_app_q` receives the response.
- Whether `calloc` finds memory is left to the caller of `app_listen`.
- `sock_id` of a listener is written only, and left out.
-/

namespace Chamelio.Tcp

open Chamelio.Lib Chamelio.Util Chamelio.Pkt Chamelio.Fast

/-- `MIN_PORT`. -/
def minPort : Nat := 1002
/-- `MAX_REUSOCK_PORT`. -/
def maxReusockPort : Nat := 8
/-- `EBADF`, `ENOMEM`, `EOPNOTSUPP` and `EADDRINUSE`. -/
def ebadf : Nat := 9
def enomem : Nat := 12
def eopnotsupp : Nat := 95
def eaddrinuse : Nat := 98
/-- `SO_REUSEPORT`. -/
def soReuseport : UInt8 := 15
/-- `SHUT_RDWR`. -/
def shutRdwr : Nat := 2
/-- `TCP_SOCK_FLAG_SHUT_RD | TCP_SOCK_FLAG_SHUT_WR`. -/
def sockFlagShut : UInt8 := 0x3

/-! ## Ports -/

/-- Add a socket to a port's list, the common body of `tcp_bound_insert` and
`tcp_listener_insert`; `none`: `EADDRINUSE`. -/
def portInsert (ctx : TcpSlowCtx) (p : TcpPort) (sockId : UInt32) (reuseport : Bool) :
    Option TcpPort :=
  if p.nsocks = 0 then
    some { nsocks := 1, nextSock := 0, sids := fun i => if i = 0 then sockId else p.sids i }
  else if !reuseport ∨ p.nsocks ≥ maxReusockPort then none
  else if (List.range p.nsocks).any (fun i => !(ctx.sock (p.sids i).toNat).reuport) then none
  else
    some { p with
      nsocks := p.nsocks + 1
      sids := fun i => if i = p.nsocks then sockId else p.sids i }

def setBound (ctx : TcpSlowCtx) (port : Nat) (p : TcpPort) : TcpSlowCtx :=
  { ctx with boundPorts := fun i => if i = port then p else ctx.boundPorts i }

def setPort (ctx : TcpSlowCtx) (port : Nat) (p : TcpPort) : TcpSlowCtx :=
  { ctx with portMap := fun i => if i = port then p else ctx.portMap i }

def tcpBoundInsert (ctx : TcpSlowCtx) (port : UInt16) (sockId : UInt32) (reuseport : Bool) :
    Option TcpSlowCtx :=
  (portInsert ctx (ctx.boundPorts port.toNat) sockId reuseport).map (setBound ctx port.toNat)

def tcpListenerInsert (ctx : TcpSlowCtx) (port : UInt16) (sockId : UInt32) (reuseport : Bool) :
    Option TcpSlowCtx :=
  (portInsert ctx (ctx.portMap port.toNat) sockId reuseport).map (setPort ctx port.toNat)

def tcpListenerRemove (ctx : TcpSlowCtx) (port : UInt16) (sockId : UInt32) : TcpSlowCtx :=
  if port = 0 ∨ port.toNat > maxPort then ctx
  else setPort ctx port.toNat (portDrop (ctx.portMap port.toNat) sockId)

/-- `0`: every port from `MIN_PORT` to `MAX_PORT` is taken. -/
def tcpBoundFindFree (ctx : TcpSlowCtx) : UInt16 :=
  match (List.range' minPort (maxPort + 1 - minPort)).find?
      (fun port => (ctx.boundPorts port).nsocks == 0) with
  | none => 0
  | some port => UInt16.ofNat port

/-- `false`: no port is free. -/
def sockAutobindPort (ctx : TcpSlowCtx) (sid : Nat) : TcpSlowCtx × Bool :=
  let port := tcpBoundFindFree ctx
  if port = 0 then (ctx, false)
  else
    match tcpBoundInsert ctx port (ctx.sock sid).id false with
    | none => (ctx, false)
    | some ctx =>
      let ctx := ctx.setMeta sid { ctx.tcpSockMeta sid with autoBound := true }
      (ctx.setSock sid { ctx.sock sid with localPort := port }, true)

def sockAutobindIp (ctx : TcpSlowCtx) (sid : Nat) : TcpSlowCtx :=
  ctx.setSock sid { ctx.sock sid with localIp := ctx.localIp }

/-! ## Sockets, options, addresses -/

def appNewSock (ctx : TcpSlowCtx) (appId ctxId : UInt8) (opaquePtr : UInt64) : TcpSlowCtx :=
  match tcpSockAlloc ctx opaquePtr appId ctxId (ctx.appBumpQids appId ctxId 0) with
  | (ctx, none) => ctx
  | (ctx, some sid) => appSubmit ctx appId ctxId (.newSockRes (ctx.sock sid))

def appSetopt (ctx : TcpSlowCtx) (appId ctxId : UInt8) (sockId : Nat) (opt : UInt8)
    (opaquePtr : UInt64) : TcpSlowCtx :=
  if !(ctx.slowAppQs appId ctxId).hasRoom then ctx
  else if sockId < ctx.nSocks ∧ opt = soReuseport then
    let ctx := ctx.setSock sockId { ctx.sock sockId with reuport := true }
    appSubmit ctx appId ctxId (.setoptRes true opaquePtr)
  else appSubmit ctx appId ctxId (.setoptRes false opaquePtr)

def isPortValid (port : UInt16) : Bool :=
  (minPort ≤ port.toNat && port.toNat ≤ maxPort) || port == 0

/-- `if (sock->local_port == 0) sock_autobind_port`. -/
def bindPort (ctx : TcpSlowCtx) (sid : Nat) : TcpSlowCtx × Bool :=
  if (ctx.sock sid).localPort = 0 then sockAutobindPort ctx sid else (ctx, true)

/-- `if (sock->local_ip == 0) sock_autobind_ip`. -/
def bindIp (ctx : TcpSlowCtx) (sid : Nat) : TcpSlowCtx :=
  if (ctx.sock sid).localIp = 0 then sockAutobindIp ctx sid else ctx

def appBind (ctx : TcpSlowCtx) (appId ctxId : UInt8) (sockId : Nat) (localIp : UInt32)
    (localPort : UInt16) (opaquePtr : UInt64) : TcpSlowCtx :=
  if !(ctx.slowAppQs appId ctxId).hasRoom then ctx
  else if sockId < ctx.nSocks ∧ isPortValid localPort then
    match bindPort ctx sockId with
    | (ctx, false) => appSubmit (bindIp ctx sockId) appId ctxId (.bindRes false opaquePtr)
    | (ctx, true) =>
      let ctx := bindIp ctx sockId
      let ctx := ctx.setSock sockId { ctx.sock sockId with localIp, localPort }
      appSubmit ctx appId ctxId (.bindRes true opaquePtr)
  else appSubmit ctx appId ctxId (.bindRes false opaquePtr)

/-! ## Connecting and listening -/

/-- `tcp_app_connect_res` on the context of the request. -/
def connectRes (ctx : TcpSlowCtx) (appId ctxId : UInt8) (sid : Nat) (status : Nat) : TcpSlowCtx :=
  let sock := ctx.sock sid
  appSubmit ctx appId ctxId
    (.connectRes status sock.opaquePtr
      (some { core := sock.core, localIp := sock.localIp, localPort := sock.localPort
              remoteIp := sock.remoteIp, remotePort := sock.remotePort }))

def appConnect (ctx : TcpSlowCtx) (appId ctxId : UInt8) (sockId : Nat) (remoteIp : UInt32)
    (remotePort : UInt16) (opaquePtr : UInt64) : TcpSlowCtx :=
  if sockId ≥ ctx.nSocks ∨ remotePort = 0 then
    appSubmit ctx appId ctxId (.connectRes einval opaquePtr none)
  else if (ctx.sock sockId).state = .listen then connectRes ctx appId ctxId sockId eopnotsupp
  else
    match bindPort ctx sockId with
    | (ctx, false) => connectRes ctx appId ctxId sockId eaddrinuse
    | (ctx, true) => sockConnectStart (bindIp ctx sockId) sockId remoteIp remotePort

/-- The listener `app_listen` leaves behind. -/
def listenerOpen (l : Listener) (backlog : UInt32) : Listener :=
  { active := true, backlogLen := backlog, backlogUsed := 0, readyHead := 0, readyUsed := 0
    readySids := if l.active then l.readySids else fun _ => idInvalid
    readySlots := if l.active then l.readySlots else some backlog.toNat }

def appListen (ctx : TcpSlowCtx) (appId ctxId : UInt8) (sockId : Nat) (backlog : UInt32)
    (opaquePtr : UInt64) (callocOk : Bool) : TcpSlowCtx :=
  if sockId ≥ ctx.nSocks then appSubmit ctx appId ctxId (.listenRes ebadf opaquePtr)
  else
    let sock := ctx.sock sockId
    if sock.localPort = 0 then appSubmit ctx appId ctxId (.listenRes einval opaquePtr)
    else
      match tcpListenerInsert ctx sock.localPort sock.id sock.reuport with
      | none => appSubmit ctx appId ctxId (.listenRes eaddrinuse opaquePtr)
      | some ctx =>
        let l := ctx.listeners sock.id.toNat
        if !l.active ∧ !callocOk then
          appSubmit (tcpListenerRemove ctx sock.localPort sock.id) appId ctxId
            (.listenRes enomem opaquePtr)
        else
          let ctx := ctx.setListener sock.id.toNat (listenerOpen l backlog)
          let ctx := ctx.setSock sockId { ctx.sock sockId with state := .listen }
          appSubmit ctx appId ctxId (.listenRes 0 opaquePtr)

/-! ## Shutdown and close -/

def sockShutdownStart (ctx : TcpSlowCtx) (sid : Nat) : TcpSlowCtx :=
  let sock := ctx.sock sid
  let ctx := ctx.setSock sid { sock with flags := sock.flags ||| sockFlagShut, state := .finWait1 }
  let (ctx, ok) := tcpCtlTx ctx sid (tcpFin ||| tcpAck)
  if !ok then tcpSockCloseFinal ctx sid
  else
    let (ctx, ok) := tcpTimeoutArm ctx sid .fin
    if !ok then tcpSockCloseFinal ctx sid else ctx

def appShutdown (ctx : TcpSlowCtx) (sockId how : Nat) : TcpSlowCtx :=
  if sockId ≥ ctx.nSocks then ctx
  else if how ≠ shutRdwr ∨ (ctx.sock sockId).state ≠ .established then ctx
  else sockShutdownStart ctx sockId

def sockAbortOpen (ctx : TcpSlowCtx) (sid : Nat) : TcpSlowCtx :=
  let sock := ctx.sock sid
  let ctx :=
    if sock.remotePort ≠ 0 then
      (tcpCtlTx ctx sid (if sock.rxSeq = 0 then tcpRst else tcpRst ||| tcpAck)).1
    else ctx
  tcpSockCloseFinal ctx sid

/-- One round of the loop of `tcp_listener_abort_children`. -/
def abortChild (listenerId : UInt32) (ctx : TcpSlowCtx) (sid : Nat) : TcpSlowCtx :=
  if (ctx.tcpSockMeta sid).listenerId ≠ listenerId then ctx
  else if (ctx.sock sid).state = .closed then ctx
  else
    let ctx :=
      if (ctx.sock sid).remotePort ≠ 0 then (tcpCtlTx ctx sid (tcpRst ||| tcpAck)).1 else ctx
    tcpSockCloseFinal ctx sid

def tcpListenerAbortChildren (ctx : TcpSlowCtx) (listenSid : Nat) : TcpSlowCtx :=
  (List.range ctx.nSocks).foldl (abortChild (ctx.sock listenSid).id) ctx

/-- The zeroed listener. -/
def listenerZero : Listener :=
  { active := false, backlogLen := 0, backlogUsed := 0, readyHead := 0, readyUsed := 0
    readySids := fun _ => 0, readySlots := none }

def tcpListenerReset (ctx : TcpSlowCtx) (listenerId : UInt32) : TcpSlowCtx :=
  ctx.setListener listenerId.toNat listenerZero

def sockCloseListen (ctx : TcpSlowCtx) (sid : Nat) : TcpSlowCtx :=
  let ctx := tcpListenerRemove ctx (ctx.sock sid).localPort (ctx.sock sid).id
  let ctx := tcpListenerAbortChildren ctx sid
  let ctx := tcpListenerReset ctx (ctx.sock sid).id
  tcpSockCloseFinal ctx sid

def appClose (ctx : TcpSlowCtx) (sockId : Nat) : TcpSlowCtx :=
  if sockId ≥ ctx.nSocks then ctx
  else
    match (ctx.sock sockId).state with
    | .listen => sockCloseListen ctx sockId
    | .synSent => sockAbortOpen ctx sockId
    | .synRecv => sockAbortOpen ctx sockId
    | .acceptPending => sockAbortOpen ctx sockId
    | .established => sockShutdownStart ctx sockId
    | _ => tcpSockCloseFinal ctx sockId

end Chamelio.Tcp
