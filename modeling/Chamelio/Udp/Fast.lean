import Chamelio.Fast.EbpfCtx
import Chamelio.Lib.Ring
import Chamelio.Lib.Word
import Chamelio.Pkt.Hdr

/-!
# The UDP fast path (`chamelio/protos/udp_fast.c`)

Receiving a datagram into the ring of a socket, sending one out of it, and
the choice of the receiving socket where several share a port.

Mirroring notes:
- The maps are total functions. `PORT_MAP` has `MAX_PORT` elements, so the
  entry of port 65534 lies behind it; what is there is not the business of
  this module.
- `handle_bump_tx` and `handle_bump_rx` take the socket at `sock_id` without
  a test, `udp_sock_find` tests the id it read against the map.
- `rx_core` and `tx_core` are `int`s; `tx_core`, `app_bump_qid` and `reuport`
  are the slow path's.
- An entry of a queue is its type together with the fields the type gives
  meaning to.
- The checksum of the UDP header is not written.
-/

namespace Chamelio.Udp

open Chamelio.Lib Chamelio.Util Chamelio.Pkt Chamelio.Fast

/-- `MIN_PORT`. -/
def minPort : UInt16 := 1002
/-- `MAX_PORT`, and `MAX_SOCKETS`. -/
def maxPort : UInt16 := 65534
/-- `MAX_REUSOCK_PORT`. -/
def maxReusockPort : UInt32 := 8
/-- `UDP_PORT_SCAN_MAX`. -/
def udpPortScanMax : Nat := 8
/-- `UDP_MAX_PAYLOAD`. -/
def udpMaxPayload : UInt16 := 1472

/-- `struct udp_sock`. -/
structure UdpSock where
  id : UInt32
  /-- Pointer to the socket in the application. -/
  opaquePtr : UInt64
  txCore : Int
  rxCore : Int
  /-- By fast-path core. -/
  appBumpQids : Nat → UInt16
  localIp : UInt32
  localPort : UInt16
  reuport : Bool
  rxLen : UInt32
  rxAvail : UInt32
  rxHead : UInt32
  rxOff : UInt64
  txLen : UInt32
  txAvail : UInt32
  txHead : UInt32
  txOff : UInt64

/-- `struct udp_port`. -/
structure UdpPort where
  nsocks : UInt32
  /-- By fast-path core. -/
  nextSock : Nat → UInt32
  sids : Nat → UInt32

/-- The maps `PORT_MAP`, `SOCK_MAP` and `CFG_MAP`. -/
structure UdpMaps where
  ports : Nat → UdpPort
  socks : Nat → UdpSock
  sockNelems : Nat
  /-- `next_port` of `struct udp_cfg`; `none`: the map was never created. -/
  nextPort : Option UInt16

/-- The queue entries the fast path and the library exchange. -/
inductive UdpQe
  | bumpChamTx (sockId : UInt32) (core txPort : UInt16) (txIp txAvail : UInt32)
  | bumpChamRx (sockId : UInt32) (core : UInt16) (rxHead : UInt32)
  | bumpAppTx (opaquePtr : UInt64) (txHead : UInt32)
  | bumpAppRx (opaquePtr : UInt64) (core rxPort : UInt16) (rxIp rxAvail : UInt32)
  /-- Any type the fast path and the library do not know. -/
  | unknown
  deriving DecidableEq

abbrev UdpCtx := EbpfCtx UdpMaps UdpQe

/-- What a handler returns: a length to transmit (`0`: nothing), or `-1`. -/
abbrev Ret := Option Nat

def sockOf (ctx : UdpCtx) (sid : Nat) : UdpSock := ctx.maps.socks sid

def setSock (ctx : UdpCtx) (sid : Nat) (s : UdpSock) : UdpCtx :=
  { ctx with
    maps := { ctx.maps with socks := fun i => if i = sid then s else ctx.maps.socks i } }

def portOf (ctx : UdpCtx) (nr : UInt16) : UdpPort := ctx.maps.ports nr.toNat

def setPort (ctx : UdpCtx) (nr : UInt16) (p : UdpPort) : UdpCtx :=
  { ctx with
    maps := { ctx.maps with ports := fun i => if i = nr.toNat then p else ctx.maps.ports i } }

@[simp] theorem sockOf_setSock (ctx : UdpCtx) (sid : Nat) (s : UdpSock) :
    sockOf (setSock ctx sid s) sid = s := by
  simp [sockOf, setSock]

theorem sockOf_setSock_ne (ctx : UdpCtx) {sid i : Nat} (s : UdpSock) (h : i ≠ sid) :
    sockOf (setSock ctx sid s) i = sockOf ctx i := by
  simp [sockOf, setSock, h]

@[simp] theorem sockOf_setPort (ctx : UdpCtx) (nr : UInt16) (p : UdpPort) (i : Nat) :
    sockOf (setPort ctx nr p) i = sockOf ctx i := rfl

@[simp] theorem portOf_setSock (ctx : UdpCtx) (sid : Nat) (s : UdpSock) (nr : UInt16) :
    portOf (setSock ctx sid s) nr = portOf ctx nr := rfl

@[simp] theorem portOf_setPort (ctx : UdpCtx) (nr : UInt16) (p : UdpPort) :
    portOf (setPort ctx nr p) nr = p := by
  simp [portOf, setPort]

/-! ## Receiving -/

/-- The header tests of `udp_event_rx`: the length of the IP header and of
the datagram behind it. -/
def rxParse (ctx : UdpCtx) : Option (Nat × UInt16) :=
  let p := ctx.pkt
  if ipHdrSize > ctx.pktRoom then none
  else if iphV p ≠ 4 ∨ iphHl p < 5 then none
  else if ipProto p ≠ ipProtoUdp then none
  else if ipOffset p &&& 0x3fff ≠ 0 then none
  else
    let ipHdrsLen := iphHl p * 4
    let ipTotalLen := (ipLen p).toNat
    if ipTotalLen < ipHdrsLen + udpHdrSize then none
    else if ipHdrsLen + udpHdrSize > ctx.pktRoom then none
    else
      let udpLength := udpLen p ipHdrsLen
      if udpLength.toNat < udpHdrSize then none
      else if ipTotalLen < ipHdrsLen + udpLength.toNat then none
      else some (ipHdrsLen, udpLength)

/-- `next_sock` of the core after socket number `idx` was picked. -/
def udpNextSock (ctx : UdpCtx) (nsocks idx : UInt32) : UInt32 :=
  let next := idx + ctx.ncores.toUInt32
  if next ≥ nsocks then ctx.core.toUInt32 else next

/-- The rotation at the end of `udp_sock_find`. -/
def udpRotate (ctx : UdpCtx) (dstPort : UInt16) (idx : UInt32) : UdpCtx :=
  let port := portOf ctx dstPort
  if port.nsocks > 1 then
    setPort ctx dstPort
      { port with nextSock := fun c =>
          if c = ctx.core.toNat then udpNextSock ctx port.nsocks idx else port.nextSock c }
  else ctx

def udpSockFind (ctx : UdpCtx) (dstPort : UInt16) : UdpCtx × Option Nat :=
  if dstPort < minPort ∨ dstPort > maxPort then (ctx, none)
  else if ctx.core.toNat ≥ maxFpCores then (ctx, none)
  else
    let port := portOf ctx dstPort
    if port.nsocks = 0 then (ctx, none)
    else
      let idx := port.nextSock ctx.core.toNat
      if idx ≥ maxReusockPort then (ctx, none)
      else
        let sockId := port.sids idx.toNat
        if sockId.toNat ≥ ctx.maps.sockNelems then (ctx, none)
        else (udpRotate ctx dstPort idx, some sockId.toNat)

/-- The copy of a payload behind what the receive ring holds. -/
def rxCopyPayload (ctx : UdpCtx) (sock : UdpSock) (src : Nat) (payloadLen : UInt16) : UdpCtx :=
  let rxBase := sock.rxOff.toNat
  let tail := wrapAdd sock.rxHead sock.rxAvail sock.rxLen
  if tail + payloadLen.toUInt32 ≤ sock.rxLen then
    { ctx with
      shm := blit ctx.shm (rxBase + tail.toNat) (fun i => ctx.pkt (src + i)) payloadLen.toNat }
  else
    let part := sock.rxLen - tail
    let shm := blit ctx.shm (rxBase + tail.toNat) (fun i => ctx.pkt (src + i)) part.toNat
    { ctx with
      shm := blit shm rxBase (fun i => ctx.pkt (src + part.toNat + i))
        (payloadLen.toUInt32 - part).toNat }

/-- From the socket on: copy the payload and tell the application. -/
def rxDeliver (ctx : UdpCtx) (sid ipHdrsLen : Nat) (udpLength : UInt16) : UdpCtx × Ret :=
  let core := ctx.core
  if core.toNat ≥ maxFpCores then (ctx, none)
  else
    let payloadLen := udpLength - 8
    let sock := sockOf ctx sid
    let freeBytes := sock.rxLen - sock.rxAvail
    if payloadLen.toUInt32 > freeBytes then (ctx, none)
    else
      let ctx := rxCopyPayload ctx sock (ipHdrsLen + udpHdrSize) payloadLen
      let ctx := setSock ctx sid
        { sock with rxAvail := sock.rxAvail + payloadLen.toUInt32, rxCore := core.toNat }
      let qid := (sock.appBumpQids core.toNat).toNat
      match (ctx.equeues qid).push
          (.bumpAppRx sock.opaquePtr core (udpSrc ctx.pkt ipHdrsLen) (ipSrc ctx.pkt)
            payloadLen.toUInt32) with
      | none => (ctx, none)
      | some q => (ctx.setQueue qid q, some 0)

def udpEventRx (ctx : UdpCtx) : UdpCtx × Ret :=
  match rxParse ctx with
  | none => (ctx, none)
  | some (ipHdrsLen, udpLength) =>
    match udpSockFind ctx (udpDst ctx.pkt ipHdrsLen) with
    | (ctx, none) => (ctx, none)
    | (ctx, some sid) => rxDeliver ctx sid ipHdrsLen udpLength

/-- `udp_event_sched`. -/
def udpEventSched (ctx : UdpCtx) : UdpCtx × Ret := (ctx, none)

/-! ## Sending -/

/-- `nr` of the `i`-th iteration of `find_free_port`, in 16 bits. -/
def portCandidate (nextPort : UInt16) (i : Nat) : UInt16 :=
  let nr := nextPort + UInt16.ofNat i
  if nr > maxPort then minPort + nr - maxPort - 1 else nr

/-- `cfg->next_port` after port `nr` was taken. -/
def portAfter (nr : UInt16) : UInt16 := if nr + 1 > maxPort then minPort else nr + 1

/-- `find_free_port`; `0`: none. -/
def findFreePort (ctx : UdpCtx) : UdpCtx × UInt16 :=
  match ctx.maps.nextPort with
  | none => (ctx, 0)
  | some nextPort =>
    let nextPort := if nextPort < minPort ∨ nextPort > maxPort then minPort else nextPort
    match (List.range udpPortScanMax).find? (fun i =>
        (portOf ctx (portCandidate nextPort i)).nsocks == 0) with
    | none => (ctx, 0)
    | some i =>
      let nr := portCandidate nextPort i
      ({ ctx with maps := { ctx.maps with nextPort := some (portAfter nr) } }, nr)

/-- The socket gets a port of its own if it has none; `none`: there is no
free one. -/
def txBindPort (ctx : UdpCtx) (sid : Nat) : UdpCtx × Bool :=
  let sock := sockOf ctx sid
  if sock.localPort ≠ 0 then (ctx, true)
  else
    let (ctx, localPort) := findFreePort ctx
    if localPort = 0 then (ctx, false)
    else
      let port := portOf ctx localPort
      let ctx := setPort ctx localPort
        { port with
          sids := fun i => if i = 0 then sock.id else port.sids i
          nsocks := port.nsocks + 1 }
      (setSock ctx sid { sock with localPort }, true)

/-- The bytes a datagram carries: what the bump says in 16 bits, cut to what
a packet takes. -/
def txPayloadLen (ctx : UdpCtx) (txAvail : UInt32) : UInt16 :=
  let payloadLen := txAvail.toUInt16
  let maxPayload := UInt32.ofNat (ctx.pktRoom - udpPktInnerSize)
  let payloadLen := if payloadLen > udpMaxPayload then udpMaxPayload else payloadLen
  if payloadLen.toUInt32 > maxPayload then maxPayload.toUInt16 else payloadLen

/-- The headers `handle_bump_tx` writes. -/
def txHdrBytes (p : Nat → UInt8) (sock : UdpSock) (txPort : UInt16) (txIp : UInt32)
    (payloadLen : UInt16) : Nat → UInt8 :=
  let p := put8 p 0 0x45
  let p := put8 p 1 0
  let p := put16 p 2 (28 + payloadLen)
  let p := put16 p 4 3
  let p := put16 p 6 0
  let p := put8 p 8 0xff
  let p := put8 p 9 ipProtoUdp
  let p := put32 p 12 sock.localIp
  let p := put32 p 16 txIp
  let p := put16 p 10 0
  let p := put16 p 20 sock.localPort
  let p := put16 p 22 txPort
  put16 p 24 (8 + payloadLen)

/-- The copy of a payload out of the transmit ring. `part` is 64 bits wide. -/
def txCopyPayload (ctx : UdpCtx) (sock : UdpSock) (payloadLen : UInt16) : UdpCtx :=
  let txBase := sock.txOff.toNat
  if sock.txHead + payloadLen.toUInt32 ≤ sock.txLen then
    { ctx with
      pkt := blit ctx.pkt udpPktInnerSize (fun i => ctx.shm (txBase + sock.txHead.toNat + i))
        payloadLen.toNat }
  else
    let part := (sock.txLen - sock.txHead).toUInt64
    let pkt := blit ctx.pkt udpPktInnerSize
      (fun i => ctx.shm (txBase + sock.txHead.toNat + i)) part.toNat
    { ctx with
      pkt := blit pkt (udpPktInnerSize + part.toNat) (fun i => ctx.shm (txBase + i))
        (payloadLen.toUInt64 - part).toNat }

/-- The socket after a datagram left. -/
def txSockBump (sock : UdpSock) (txAvail : UInt32) (payloadLen : UInt16) : UdpSock :=
  { sock with
    txHead := wrapAdd sock.txHead payloadLen.toUInt32 sock.txLen
    txAvail := sock.txAvail + txAvail - payloadLen.toUInt32 }

/-- From the port on: build the datagram and tell the application. -/
def txSend (ctx : UdpCtx) (sid : Nat) (core txPort : UInt16) (txIp txAvail : UInt32) :
    UdpCtx × Ret :=
  let payloadLen := txPayloadLen ctx txAvail
  if udpPktInnerSize + payloadLen.toNat > ctx.pktRoom then (ctx, none)
  else
    let sock := sockOf ctx sid
    let ctx := { ctx with pkt := txHdrBytes ctx.pkt sock txPort txIp payloadLen }
    let ctx := txCopyPayload ctx sock payloadLen
    let ctx := setSock ctx sid (txSockBump sock txAvail payloadLen)
    let qid := (sock.appBumpQids core.toNat).toNat
    match (ctx.equeues qid).push (.bumpAppTx sock.opaquePtr payloadLen.toUInt32) with
    | none => (ctx, none)
    | some q => (ctx.setQueue qid q, some (udpPktInnerSize + payloadLen.toNat))

def handleBumpTx (ctx : UdpCtx) (sockId : UInt32) (core txPort : UInt16) (txIp txAvail : UInt32) :
    UdpCtx × Ret :=
  if udpPktInnerSize > ctx.pktRoom then (ctx, none)
  else if core.toNat ≥ maxFpCores then (ctx, none)
  else
    match txBindPort ctx sockId.toNat with
    | (ctx, false) => (ctx, none)
    | (ctx, true) => txSend ctx sockId.toNat core txPort txIp txAvail

/-- 32 is `sizeof(struct udp_queue_bump_entry)`. -/
def handleBumpRx (ctx : UdpCtx) (sockId : UInt32) (core : UInt16) (rxHead : UInt32) :
    UdpCtx × Ret :=
  if ctx.qeOff + 32 > ctx.shmLen then (ctx, none)
  else if core.toNat ≥ maxFpCores then (ctx, none)
  else
    let sock := sockOf ctx sockId.toNat
    (setSock ctx sockId.toNat
      { sock with
        rxHead := wrapAdd sock.rxHead rxHead sock.rxLen
        rxAvail := sock.rxAvail - rxHead }, some 0)

def udpEventDeq (ctx : UdpCtx) : UdpCtx × Ret :=
  if ctx.qeOff + queueEntrySize > ctx.shmLen then (ctx, none)
  else
    match ctx.qe with
    | .bumpChamTx sockId core txPort txIp txAvail => handleBumpTx ctx sockId core txPort txIp txAvail
    | .bumpChamRx sockId core rxHead => handleBumpRx ctx sockId core rxHead
    | _ => (ctx, none)

end Chamelio.Udp
