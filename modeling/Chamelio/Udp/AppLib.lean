import Chamelio.Udp.Fast

/-!
# The application's side of a UDP socket (`protos/udp/lib/udp_lib.c`)

Sending a datagram into the transmit ring, receiving out of the receive
ring, and the bumps both sides exchange through the queues.

Mirroring notes:
- `UdpLib` is one socket with the queues of its context to the fast-path
  cores; `lookup_sock` has found it. `opaque` of a bump is its address.
- A buffer passed by the application is a list of bytes; its length is the
  `size_t len` argument.
- `udp_recvfrom` keeps the length in an `int`. Copying a negative `int`
  length as `size_t` reads far outside every mapping; that outcome is
  `RecvRes.fault`.
- `queue_enqueue` behind a successful `queue_tail` of the same producer finds
  the same slot.
- `errno` values and prefetches are left out.
-/

namespace Chamelio.Udp

open Chamelio.Lib Chamelio.Fast

/-- `struct udp_socket_lib`. -/
structure UdpSocketLib where
  sockId : UInt32
  txCore : UInt16
  rxCore : UInt16
  rxPort : UInt16
  rxIp : UInt32
  txPort : UInt16
  txIp : UInt32
  rxLen : UInt32
  rxAvail : UInt32
  rxHead : UInt32
  /-- Offset of `rx_buf` in shared memory. -/
  rxBuf : UInt64
  txLen : UInt32
  txAvail : UInt32
  txHead : UInt32
  /-- Offset of `tx_buf` in shared memory. -/
  txBuf : UInt64

structure UdpLib where
  sock : UdpSocketLib
  /-- `app_fast_qs`, by fast-path core. -/
  appFastQs : Nat → Fifo UdpQe

def UdpLib.setQueue (lib : UdpLib) (core : Nat) (q : Fifo UdpQe) : UdpLib :=
  { lib with appFastQs := fun i => if i = core then q else lib.appFastQs i }

/-! ## Sending -/

/-- Copy the buffer behind what the ring holds. -/
def libCopyIn (sock : UdpSocketLib) (shm : Nat → UInt8) (buf : List UInt8) (n : UInt32) :
    Nat → UInt8 :=
  let txBase := sock.txBuf.toNat
  let tail := wrapAdd sock.txHead sock.txAvail sock.txLen
  let src := fun k => buf.getD k 0
  if tail + n > sock.txLen then
    let n1 := sock.txLen - tail
    let n2 := n - n1
    let shm := blit shm (txBase + tail.toNat) src n1.toNat
    blit shm txBase (fun k => src (n1.toNat + k)) n2.toNat
  else blit shm (txBase + tail.toNat) src n.toNat

/-- The socket after `n` bytes were appended. -/
def libAppendTx (sock : UdpSocketLib) (txIp : UInt32) (txPort : UInt16) (n : UInt32) :
    UdpSocketLib :=
  { sock with txAvail := sock.txAvail + n, txIp, txPort }

/-- The third component is what the call returns. -/
def udpSendto (lib : UdpLib) (shm : Nat → UInt8) (buf : List UInt8) (txIp : UInt32)
    (txPort : UInt16) : UdpLib × (Nat → UInt8) × Int :=
  let sock := lib.sock
  if buf.length = 0 then (lib, shm, 0)
  else if buf.length > (sock.txLen - sock.txAvail).toNat then (lib, shm, -1)
  else
    let n := UInt32.ofNat buf.length
    let core := sock.txCore
    match (lib.appFastQs core.toNat).push (.bumpChamTx sock.sockId core txPort txIp n) with
    | none => (lib, shm, -1)
    | some q =>
      (({ lib with sock := libAppendTx sock txIp txPort n } : UdpLib).setQueue core.toNat q,
        libCopyIn sock shm buf n, s32 n)

/-! ## Receiving -/

/-- Outcome of `udp_recvfrom`: the return value with the bytes and the
address stored for the caller, or a copy with a negative length. -/
inductive RecvRes
  | fault
  | ret (n : Int) (bytes : List UInt8) (ip : UInt32) (port : UInt16)

/-- The bytes copied to the caller's buffer; `none` when a negative `int`
reaches `memcpy`. -/
def libCopyOut (sock : UdpSocketLib) (shm : Nat → UInt8) (n : UInt32) : Option (List UInt8) :=
  let rxBase := sock.rxBuf.toNat
  if sock.rxHead + n > sock.rxLen then
    let n1 := sock.rxLen - sock.rxHead
    let n2 := n - n1
    some ((List.range n1.toNat).map (fun k => shm (rxBase + sock.rxHead.toNat + k)) ++
      (List.range n2.toNat).map (fun k => shm (rxBase + k)))
  else if s32 n < 0 then none
  else some ((List.range n.toNat).map (fun k => shm (rxBase + sock.rxHead.toNat + k)))

/-- The socket after `n` bytes were consumed. -/
def libConsumeRx (sock : UdpSocketLib) (n : UInt32) : UdpSocketLib :=
  { sock with
    rxAvail := sock.rxAvail - n
    rxHead := wrapAdd sock.rxHead n sock.rxLen }

/-- The length `udp_recvfrom` settles on. -/
def recvLen (sock : UdpSocketLib) (len : Nat) : UInt32 :=
  let n := UInt32.ofNat len
  if n > sock.rxAvail then sock.rxAvail else n

def udpRecvfrom (lib : UdpLib) (shm : Nat → UInt8) (len : Nat) : UdpLib × RecvRes :=
  let sock := lib.sock
  let n := recvLen sock len
  if n = 0 then (lib, .ret 0 [] sock.rxIp sock.rxPort)
  else
    let core := sock.rxCore
    match (lib.appFastQs core.toNat).push (.bumpChamRx sock.sockId core n) with
    | none => (lib, .ret (-1) [] sock.rxIp sock.rxPort)
    | some q =>
      match libCopyOut sock shm n with
      | none => (lib, .fault)
      | some bytes =>
        (({ lib with sock := libConsumeRx sock n } : UdpLib).setQueue core.toNat q,
          .ret (s32 n) bytes sock.rxIp sock.rxPort)

/-! ## Bumps -/

def handleTxBump (sock : UdpSocketLib) (txHead : UInt32) : UdpSocketLib :=
  { sock with
    txHead := wrapAdd sock.txHead txHead sock.txLen
    txAvail := sock.txAvail - txHead }

def handleRxBump (sock : UdpSocketLib) (core rxPort : UInt16) (rxIp rxAvail : UInt32) :
    UdpSocketLib :=
  { sock with
    rxAvail := sock.rxAvail + rxAvail
    rxPort
    rxIp
    rxCore := core }

/-- One iteration of `udp_poll_fast`; `none`: the library aborts. -/
def libHandleEntry (sock : UdpSocketLib) : UdpQe → Option UdpSocketLib
  | .bumpAppTx _ txHead => some (handleTxBump sock txHead)
  | .bumpAppRx _ core rxPort rxIp rxAvail => some (handleRxBump sock core rxPort rxIp rxAvail)
  | _ => none

end Chamelio.Udp
