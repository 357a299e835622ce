import Chamelio.Lib.Ring
import Chamelio.Tcp.Ctx

/-!
# The application's side of a TCP socket (`protos/tcp/lib/tcp_lib.c`)

Sending into the transmit ring, receiving from the receive ring, and the
bumps both sides exchange through the queues.

Mirroring notes:
- `tcp->socks` and the contexts are tables; a context pointer is its index.
  The `opaque` pointer of a bump is resolved by `sockAt` (`NULL` and foreign
  pointers resolve to nothing).
- A buffer passed by the application is a list of bytes; its length is the
  `size_t len` argument, which the code cuts to 32 bits.
- `tcp_recvfrom` keeps the length in an `int`. Copying a negative `int`
  length as `size_t` reads far outside every mapping; that outcome is
  `RecvRes.fault`.
- `tcp_flush_bumps` walks the pending list by descriptor. Its `while` loop
  carries one unit of fuel per socket of the table, which a list without
  repetition never exceeds.
- `errno` values and prefetches are left out.
-/

namespace Chamelio.Tcp

open Chamelio.Lib

/-- `enum tcp_sock_state` of the library. -/
inductive LibState
  | init
  | bound
  | listen
  | connecting
  | established
  | closing
  | closed
  deriving DecidableEq

/-- `SOCK_INACTIVE`, compared with an `int`. -/
def sockInactive : Int := -1
/-- `TCP_BUMP_NONE`. -/
def tcpBumpNone : Int := -1
/-- `MAX_SOCKETS` of the library. -/
def maxSocketsLib : Nat := 8192
/-- `TCP_TX_BUMP_THRESH`. -/
def tcpTxBumpThresh : UInt32 := 1024

/-- `struct tcp_socket_lib`. -/
structure TcpSocketLib where
  fd : Int
  sockId : UInt32
  ctx : Option Nat
  core : UInt16
  remotePort : UInt16
  remoteIp : UInt32
  rxLen : UInt32
  rxAvail : UInt32
  rxHead : UInt32
  /-- Offset of `rx_buf` in shared memory. -/
  rxBuf : UInt64
  txLen : UInt32
  txAvail : UInt32
  txHead : UInt32
  /-- Offset of `tx_buf` in shared memory. -/
  txBuf : UInt64
  state : LibState
  bumpPending : Bool
  bumpNext : Int
  txBumpPending : UInt32
  rxBumpPending : UInt32
  deriving DecidableEq

/-- `struct tcp_context_lib`. -/
structure TcpContextLib where
  appFastQs : Nat → Fifo TcpQe
  bumpHead : Int
  bumpTail : Int

/-- `struct tcp_lib`, with the contexts. -/
structure TcpLib where
  socks : Nat → TcpSocketLib
  ctxs : Nat → TcpContextLib
  sockAt : UInt64 → Option Nat

namespace TcpLib

def setSock (lib : TcpLib) (i : Nat) (s : TcpSocketLib) : TcpLib :=
  { lib with socks := fun k => if k = i then s else lib.socks k }

def setCtx (lib : TcpLib) (c : Nat) (x : TcpContextLib) : TcpLib :=
  { lib with ctxs := fun k => if k = c then x else lib.ctxs k }

@[simp] theorem setSock_socks (lib : TcpLib) (i : Nat) (s : TcpSocketLib) :
    (lib.setSock i s).socks i = s := by
  simp [setSock]

theorem setSock_socks_ne (lib : TcpLib) {i k : Nat} (s : TcpSocketLib) (h : k ≠ i) :
    (lib.setSock i s).socks k = lib.socks k := by
  simp [setSock, h]

@[simp] theorem setSock_ctxs (lib : TcpLib) (i : Nat) (s : TcpSocketLib) :
    (lib.setSock i s).ctxs = lib.ctxs := rfl

@[simp] theorem setCtx_ctxs (lib : TcpLib) (c : Nat) (x : TcpContextLib) :
    (lib.setCtx c x).ctxs c = x := by
  simp [setCtx]

@[simp] theorem setCtx_socks (lib : TcpLib) (c : Nat) (x : TcpContextLib) :
    (lib.setCtx c x).socks = lib.socks := rfl

end TcpLib

/-! ## Pending bumps -/

def sockMarkBump (lib : TcpLib) (c i : Nat) : TcpLib :=
  let sock := lib.socks i
  if sock.bumpPending then lib
  else
    let lib := lib.setSock i { sock with bumpPending := true, bumpNext := tcpBumpNone }
    let ctx := lib.ctxs c
    if ctx.bumpTail = tcpBumpNone then
      lib.setCtx c { ctx with bumpHead := sock.fd, bumpTail := sock.fd }
    else
      let t := ctx.bumpTail.toNat
      let lib := lib.setSock t { lib.socks t with bumpNext := sock.fd }
      lib.setCtx c { ctx with bumpTail := sock.fd }

/-- Push an entry on the queue to the socket's fast-path core. -/
def libEnqueue (lib : TcpLib) (c : Nat) (core : UInt16) (e : TcpQe) : Option TcpLib :=
  let ctx := lib.ctxs c
  match (ctx.appFastQs core.toNat).push e with
  | none => none
  | some q =>
    some (lib.setCtx c
      { ctx with appFastQs := fun k => if k = core.toNat then q else ctx.appFastQs k })

/-- The transmit half of `sock_flush_bumps`; `none`: the queue is full. -/
def flushTxBump (lib : TcpLib) (c i : Nat) : Option TcpLib :=
  let sock := lib.socks i
  if sock.txBumpPending = 0 then some lib
  else
    match libEnqueue lib c sock.core
        (.bumpChamTx sock.sockId sock.remotePort sock.remoteIp sock.txBumpPending) with
    | none => none
    | some lib => some (lib.setSock i { sock with txBumpPending := 0 })

/-- The receive half of `sock_flush_bumps`. -/
def flushRxBump (lib : TcpLib) (c i : Nat) : Option TcpLib :=
  let sock := lib.socks i
  if sock.rxBumpPending = 0 then some lib
  else
    match libEnqueue lib c sock.core (.bumpChamRx sock.sockId sock.rxBumpPending) with
    | none => none
    | some lib => some (lib.setSock i { sock with rxBumpPending := 0 })

/-- The label `out` of `sock_flush_bumps`: what could not be enqueued stays
on the pending list. -/
def flushOut (lib : TcpLib) (c i : Nat) : TcpLib :=
  let sock := lib.socks i
  if sock.txBumpPending ≠ 0 ∨ sock.rxBumpPending ≠ 0 then sockMarkBump lib c i else lib

def sockFlushBumps (lib : TcpLib) (c i : Nat) : TcpLib :=
  let sock := lib.socks i
  if sock.ctx ≠ some c ∨ sock.fd = sockInactive then lib
  else
    match flushTxBump lib c i with
    | none => flushOut lib c i
    | some lib =>
      match flushRxBump lib c i with
      | none => flushOut lib c i
      | some lib => flushOut lib c i

/-- The `while` loop of `tcp_flush_bumps`, from descriptor `fd` on. -/
def flushLoop (c : Nat) : Nat → Int → TcpLib → TcpLib
  | 0, _, lib => lib
  | fuel + 1, fd, lib =>
    if fd = tcpBumpNone then lib
    else
      let i := fd.toNat
      let sock := lib.socks i
      let next := sock.bumpNext
      let lib := lib.setSock i { sock with bumpPending := false, bumpNext := tcpBumpNone }
      let lib :=
        if sock.ctx = some c ∧ sock.fd ≠ sockInactive ∧
            (sock.txBumpPending ≠ 0 ∨ sock.rxBumpPending ≠ 0) then
          sockFlushBumps lib c i
        else lib
      flushLoop c fuel next lib

def tcpFlushBumps (lib : TcpLib) (c : Nat) : TcpLib :=
  let ctx := lib.ctxs c
  let fd := ctx.bumpHead
  let lib := lib.setCtx c { ctx with bumpHead := tcpBumpNone, bumpTail := tcpBumpNone }
  flushLoop c maxSocketsLib fd lib

/-! ## Bumps from the fast path -/

/-- The socket after `tx_bump` acknowledged bytes left its ring. -/
def libReleaseTx (sock : TcpSocketLib) (txBump : UInt32) : TcpSocketLib :=
  { sock with
    txHead := wrapAdd sock.txHead txBump sock.txLen
    txAvail := sock.txAvail - txBump }

def handleTxBump (lib : TcpLib) (opaquePtr : UInt64) (txHead : UInt32) : TcpLib :=
  match lib.sockAt opaquePtr with
  | none => lib
  | some i =>
    let sock := lib.socks i
    if sock.fd = sockInactive ∨ sock.txLen = 0 then lib
    else
      let txBump := if txHead > sock.txAvail then sock.txAvail else txHead
      if txBump = 0 then lib
      else
        let sock := libReleaseTx sock txBump
        let lib := lib.setSock i sock
        match sock.ctx with
        | some c =>
          if sock.txBumpPending ≠ 0 ∧ sock.txAvail = sock.txBumpPending then
            sockFlushBumps lib c i
          else lib
        | none => lib

/-- The socket after `rx_bump` bytes were announced. -/
def libAnnounceRx (sock : TcpSocketLib) (rxPort : UInt16) (rxIp rxBump : UInt32) :
    TcpSocketLib :=
  { sock with
    rxAvail := sock.rxAvail + rxBump, remotePort := rxPort, remoteIp := rxIp }

def handleRxBump (lib : TcpLib) (opaquePtr : UInt64) (rxPort : UInt16) (rxIp rxAvail : UInt32) :
    TcpLib :=
  match lib.sockAt opaquePtr with
  | none => lib
  | some i =>
    let sock := lib.socks i
    if sock.fd = sockInactive ∨ sock.rxLen = 0 then lib
    else
      let freeBytes := sock.rxLen - sock.rxAvail
      let rxBump := if rxAvail > freeBytes then freeBytes else rxAvail
      if rxBump = 0 then lib
      else lib.setSock i (libAnnounceRx sock rxPort rxIp rxBump)

/-- What `tcp_poll_fast` does with one entry; `none`: unknown type, the
process aborts. -/
def libHandleEntry (lib : TcpLib) : TcpQe → Option TcpLib
  | .bumpAppTx opaquePtr txHead => some (handleTxBump lib opaquePtr txHead)
  | .bumpAppRx opaquePtr rxPort rxIp rxAvail =>
    some (handleRxBump lib opaquePtr rxPort rxIp rxAvail)
  | _ => none

/-! ## Sending and receiving -/

def lookupSock (lib : TcpLib) (c : Nat) (sockfd : Int) : Option Nat :=
  if sockfd < 0 ∨ sockfd ≥ maxSocketsLib then none
  else
    let sock := lib.socks sockfd.toNat
    if sock.fd ≠ sockfd ∨ sock.ctx ≠ some c ∨ sock.state = .closed then none
    else some sockfd.toNat

/-- A `struct sockaddr_in` argument and whether `validate_sockaddr_in`
accepts it. -/
structure SockAddr where
  valid : Bool
  ip : UInt32
  port : UInt16

/-- The destination `tcp_sendto` uses; `none`: it returns `-1`. -/
def sendtoAddr (sock : TcpSocketLib) (addr : Option SockAddr) : Option (UInt32 × UInt16) :=
  match addr with
  | none => if sock.remotePort = 0 then none else some (sock.remoteIp, sock.remotePort)
  | some a => if a.valid then some (a.ip, a.port) else none

/-- Copy the first `n` bytes of the buffer behind what the ring holds. -/
def libCopyIn (sock : TcpSocketLib) (shm : Nat → UInt8) (buf : List UInt8) (n : UInt32) :
    Nat → UInt8 :=
  let txBase := sock.txBuf.toNat
  let tail := wrapAdd sock.txHead sock.txAvail sock.txLen
  let src := fun k => buf.getD k 0
  if tail + n > sock.txLen then
    let n1 := sock.txLen - tail
    let n2 := n - n1
    let shm := blit shm (txBase + tail.toNat) src n1.toNat
    blit shm txBase (fun k => src (n1.toNat + k)) n2.toNat
  else blit shm (txBase + tail.toNat) src n.toNat

/-- Number of bytes `tcp_sendto` accepts. -/
def sendtoLen (sock : TcpSocketLib) (len : Nat) : UInt32 :=
  let n := UInt32.ofNat len
  if n > sock.txLen - sock.txAvail then sock.txLen - sock.txAvail else n

/-- The socket after `n` bytes were appended. -/
def libAppendTx (sock : TcpSocketLib) (txIp : UInt32) (txPort : UInt16) (n : UInt32) :
    TcpSocketLib :=
  { sock with
    txAvail := sock.txAvail + n
    remoteIp := txIp
    remotePort := txPort
    txBumpPending := sock.txBumpPending + n }

def tcpSendto (lib : TcpLib) (shm : Nat → UInt8) (c : Nat) (sockfd : Int) (buf : List UInt8)
    (addr : Option SockAddr) : TcpLib × (Nat → UInt8) × Int :=
  match lookupSock lib c sockfd with
  | none => (lib, shm, -1)
  | some i =>
    let sock := lib.socks i
    if sock.state ≠ .established then (lib, shm, -1)
    else
      match sendtoAddr sock addr with
      | none => (lib, shm, -1)
      | some (txIp, txPort) =>
        if buf.length = 0 then (lib, shm, 0)
        else
          let n := sendtoLen sock buf.length
          if n = 0 then (lib, shm, -1)
          else
            let shm := libCopyIn sock shm buf n
            let sock := libAppendTx sock txIp txPort n
            let lib := sockMarkBump (lib.setSock i sock) c i
            let txInflight := sock.txAvail - n - sock.txBumpPending + n
            let lib :=
              if txInflight = 0 ∨ sock.txBumpPending ≥ tcpTxBumpThresh then
                sockFlushBumps lib c i
              else lib
            (lib, shm, s32 n)

def sockRxBumpThresh (sock : TcpSocketLib) : UInt32 :=
  let thresh := sock.rxLen / 4
  if thresh = 0 then 1 else thresh

/-- Outcome of `tcp_recvfrom`: the return value with the bytes stored in the
caller's buffer, or a copy with a negative length. -/
inductive RecvRes
  | fault
  | ret (n : Int) (bytes : List UInt8)

/-- The bytes copied to the caller's buffer; `none` when a negative `int`
reaches `memcpy`. -/
def libCopyOut (sock : TcpSocketLib) (shm : Nat → UInt8) (n : UInt32) : Option (List UInt8) :=
  let rxBase := sock.rxBuf.toNat
  if sock.rxHead + n > sock.rxLen then
    let n1 := sock.rxLen - sock.rxHead
    let n2 := n - n1
    some ((List.range n1.toNat).map (fun k => shm (rxBase + sock.rxHead.toNat + k)) ++
      (List.range n2.toNat).map (fun k => shm (rxBase + k)))
  else if s32 n < 0 then none
  else some ((List.range n.toNat).map (fun k => shm (rxBase + sock.rxHead.toNat + k)))

/-- The socket after `n` bytes were consumed. -/
def libConsumeRx (sock : TcpSocketLib) (n : UInt32) : TcpSocketLib :=
  { sock with
    rxAvail := sock.rxAvail - n
    rxHead := wrapAdd sock.rxHead n sock.rxLen
    rxBumpPending := sock.rxBumpPending + n }

/-- The length `tcp_recvfrom` settles on. -/
def recvLen (sock : TcpSocketLib) (len : Nat) : UInt32 :=
  let n := UInt32.ofNat len
  if n > sock.rxAvail then sock.rxAvail else n

def tcpRecvfrom (lib : TcpLib) (shm : Nat → UInt8) (c : Nat) (sockfd : Int) (len : Nat)
    (addrOk : Bool) : TcpLib × RecvRes :=
  match lookupSock lib c sockfd with
  | none => (lib, .ret (-1) [])
  | some i =>
    let sock := lib.socks i
    if sock.state ≠ .established ∧ sock.state ≠ .closing then (lib, .ret (-1) [])
    else if !addrOk then (lib, .ret (-1) [])
    else
      let n := recvLen sock len
      if n = 0 then (lib, .ret (-1) [])
      else
        match libCopyOut sock shm n with
        | none => (lib, .fault)
        | some bytes =>
          let rxWasFull := sock.rxAvail == sock.rxLen
          let sock := libConsumeRx sock n
          let lib := sockMarkBump (lib.setSock i sock) c i
          let lib :=
            if rxWasFull ∨ sock.rxBumpPending ≥ sockRxBumpThresh sock then
              sockFlushBumps lib c i
            else lib
          (lib, .ret (s32 n) bytes)

end Chamelio.Tcp
