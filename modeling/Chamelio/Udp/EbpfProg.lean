import Chamelio.Fast.EbpfHelpers
import Chamelio.Udp.Fast

/-!
# The UDP handlers as an eBPF program (`protos/udp/fast/udp_fast.ebpf.c`)

The second copy of the UDP fast path. Apart from the helpers it goes
through, it differs in `udp_sock_find`: it looks at `nsocks` before it picks
a socket, takes socket 0 where the port has one socket only, and never takes
a number that is not below `nsocks`.

Mirroring notes:
- Functions whose text is the same in both files and which call no helper
  are the ones of the hand-written handlers.
- An element found at an address of a map is named by its index there.
-/

namespace Chamelio.Udp.Ebpf

open Chamelio.Lib Chamelio.Util Chamelio.Pkt Chamelio.Fast

/-- `sizeof(struct udp_sock)`. -/
def udpSockSize : UInt32 := 128
/-- `sizeof(struct udp_port)`. -/
def udpPortSize : UInt32 := 100
/-- `sizeof(struct udp_cfg)`. -/
def udpCfgSize : UInt32 := 4
/-- `sizeof(struct udp_queue_bump_entry)`. -/
def udpQueueBumpEntrySize : UInt64 := 32

/-- `ebpf_map_lookup` in the socket map. -/
def sockMapLookup (sockId : UInt32) : Nat :=
  elemAt udpSockSize (ebpfMapLookup sockId.toUInt64 udpSockSize.toUInt64)

/-- `ebpf_map_lookup` in the port map. -/
def portMapLookup (nr : UInt16) : Nat :=
  elemAt udpPortSize (ebpfMapLookup nr.toUInt64 udpPortSize.toUInt64)

/-- `next_port` of the configuration, which lies at the start of its map. -/
def cfgAt (ctx : UdpCtx) (addr : Nat) : Option UInt16 :=
  if addr = 0 then ctx.maps.nextPort else none

/-- `queue_tail` and `queue_enqueue` of an entry; `none`: no slot is free. -/
def enqueueApp (ctx : UdpCtx) (qid : Nat) (e : UdpQe) : Option UdpCtx :=
  if !ebpfQueueTail (ctx.equeues qid) udpQueueBumpEntrySize then none
  else (ctx.equeues qid).push e |>.map (ctx.setQueue qid)

/-! ## Receiving -/

def udpSockFind (ctx : UdpCtx) (dstPort : UInt16) : UdpCtx × Option Nat :=
  if dstPort < minPort ∨ dstPort > maxPort then (ctx, none)
  else if ctx.core.toNat ≥ maxFpCores then (ctx, none)
  else
    let port := ctx.maps.ports (portMapLookup dstPort)
    let nsocks := port.nsocks
    if nsocks = 0 ∨ nsocks > maxReusockPort then (ctx, none)
    else
      let idx := if nsocks = 1 then 0 else port.nextSock ctx.core.toNat
      if idx ≥ nsocks ∨ idx ≥ maxReusockPort then (ctx, none)
      else
        let sockId := port.sids idx.toNat
        if sockId.toNat ≥ ctx.maps.sockNelems then (ctx, none)
        else (udpRotate ctx dstPort idx, some (sockMapLookup sockId))

def rxCopyPayload (ctx : UdpCtx) (sock : UdpSock) (src : Nat) (payloadLen : UInt16) : UdpCtx :=
  let rxBase := ebpfMapGet sock.rxOff.toNat sock.rxLen
  let tail := wrapAdd sock.rxHead sock.rxAvail sock.rxLen
  if tail + payloadLen.toUInt32 ≤ sock.rxLen then
    { ctx with
      shm := ebpfMemcpy ctx.shm (rxBase + tail.toNat) (fun i => ctx.pkt (src + i))
        payloadLen.toNat }
  else
    let part := sock.rxLen - tail
    let shm := ebpfMemcpy ctx.shm (rxBase + tail.toNat) (fun i => ctx.pkt (src + i)) part.toNat
    { ctx with
      shm := ebpfMemcpy shm rxBase (fun i => ctx.pkt (src + part.toNat + i))
        (payloadLen.toUInt32 - part).toNat }

def rxDeliver (ctx : UdpCtx) (sid ipHdrsLen : Nat) (udpLength : UInt16) : UdpCtx × Ret :=
  let core := ctx.core
  if core.toNat ≥ maxFpCores then (ctx, none)
  else
    let payloadLen := udpLength - 8
    let sock := sockOf ctx sid
    let freeBytes := sock.rxLen - sock.rxAvail
    if payloadLen.toUInt32 > freeBytes then (ctx, none)
    else
      let ctx := rxCopyPayload ctx sock (ipHdrsLen + udpHdrSize) payloadLen
      let ctx := setSock ctx sid
        { sock with rxAvail := sock.rxAvail + payloadLen.toUInt32, rxCore := core.toNat }
      match enqueueApp ctx (sock.appBumpQids core.toNat).toNat
          (.bumpAppRx sock.opaquePtr core (udpSrc ctx.pkt ipHdrsLen) (ipSrc ctx.pkt)
            payloadLen.toUInt32) with
      | none => (ctx, none)
      | some ctx => (ctx, some 0)

/-- `event_rx`. -/
def eventRx (ctx : UdpCtx) : UdpCtx × Ret :=
  match rxParse ctx with
  | none => (ctx, none)
  | some (ipHdrsLen, udpLength) =>
    match udpSockFind ctx (udpDst ctx.pkt ipHdrsLen) with
    | (ctx, none) => (ctx, none)
    | (ctx, some sid) => rxDeliver ctx sid ipHdrsLen udpLength

/-! ## Sending -/

def findFreePort (ctx : UdpCtx) : UdpCtx × UInt16 :=
  match cfgAt ctx (ebpfMapLookup 0 udpCfgSize.toUInt64) with
  | none => (ctx, 0)
  | some nextPort =>
    let nextPort := if nextPort < minPort ∨ nextPort > maxPort then minPort else nextPort
    match (List.range udpPortScanMax).find? (fun i =>
        (ctx.maps.ports (portMapLookup (portCandidate nextPort i))).nsocks == 0) with
    | none => (ctx, 0)
    | some i =>
      let nr := portCandidate nextPort i
      ({ ctx with maps := { ctx.maps with nextPort := some (portAfter nr) } }, nr)

def txBindPort (ctx : UdpCtx) (sid : Nat) : UdpCtx × Bool :=
  let sock := sockOf ctx sid
  if sock.localPort ≠ 0 then (ctx, true)
  else
    let (ctx, localPort) := findFreePort ctx
    if localPort = 0 then (ctx, false)
    else
      let port := ctx.maps.ports (portMapLookup localPort)
      let ctx := setPort ctx localPort
        { port with
          sids := fun i => if i = 0 then sock.id else port.sids i
          nsocks := port.nsocks + 1 }
      (setSock ctx sid { sock with localPort }, true)

def txCopyPayload (ctx : UdpCtx) (sock : UdpSock) (payloadLen : UInt16) : UdpCtx :=
  let txBase := sock.txOff.toNat
  if sock.txHead + payloadLen.toUInt32 ≤ sock.txLen then
    { ctx with
      pkt := ebpfMemcpy ctx.pkt udpPktInnerSize
        (fun i => ctx.shm (txBase + sock.txHead.toNat + i)) payloadLen.toNat }
  else
    let part := (sock.txLen - sock.txHead).toUInt64
    let pkt := ebpfMemcpy ctx.pkt udpPktInnerSize
      (fun i => ctx.shm (txBase + sock.txHead.toNat + i)) part.toNat
    { ctx with
      pkt := ebpfMemcpy pkt (udpPktInnerSize + part.toNat) (fun i => ctx.shm (txBase + i))
        (payloadLen.toUInt64 - part).toNat }

def txSend (ctx : UdpCtx) (sid : Nat) (core txPort : UInt16) (txIp txAvail : UInt32) :
    UdpCtx × Ret :=
  let payloadLen := txPayloadLen ctx txAvail
  if udpPktInnerSize + payloadLen.toNat > ctx.pktRoom then (ctx, none)
  else
    let sock := sockOf ctx sid
    let ctx := { ctx with pkt := txHdrBytes ctx.pkt sock txPort txIp payloadLen }
    let ctx := txCopyPayload ctx sock payloadLen
    let ctx := setSock ctx sid (txSockBump sock txAvail payloadLen)
    match enqueueApp ctx (sock.appBumpQids core.toNat).toNat
        (.bumpAppTx sock.opaquePtr payloadLen.toUInt32) with
    | none => (ctx, none)
    | some ctx => (ctx, some (udpPktInnerSize + payloadLen.toNat))

def handleBumpTx (ctx : UdpCtx) (sockId : UInt32) (core txPort : UInt16) (txIp txAvail : UInt32) :
    UdpCtx × Ret :=
  if udpPktInnerSize > ctx.pktRoom then (ctx, none)
  else if core.toNat ≥ maxFpCores then (ctx, none)
  else
    let sid := sockMapLookup sockId
    match txBindPort ctx sid with
    | (ctx, false) => (ctx, none)
    | (ctx, true) => txSend ctx sid core txPort txIp txAvail

def handleBumpRx (ctx : UdpCtx) (sockId : UInt32) (core : UInt16) (rxHead : UInt32) :
    UdpCtx × Ret :=
  if ctx.qeOff + 32 > ctx.shmLen then (ctx, none)
  else if core.toNat ≥ maxFpCores then (ctx, none)
  else
    let sid := sockMapLookup sockId
    let sock := sockOf ctx sid
    (setSock ctx sid
      { sock with
        rxHead := wrapAdd sock.rxHead rxHead sock.rxLen
        rxAvail := sock.rxAvail - rxHead }, some 0)

/-- `event_deq`. -/
def eventDeq (ctx : UdpCtx) : UdpCtx × Ret :=
  if ctx.qeOff + queueEntrySize > ctx.shmLen then (ctx, none)
  else
    match ctx.qe with
    | .bumpChamTx sockId core txPort txIp txAvail => handleBumpTx ctx sockId core txPort txIp txAvail
    | .bumpChamRx sockId core rxHead => handleBumpRx ctx sockId core rxHead
    | _ => (ctx, none)

end Chamelio.Udp.Ebpf
