import Chamelio.Lib.Ring
import Chamelio.Tcp.Ctx

/-!
# Transmit side of the TCP fast path (`tcp_event_sched`)

The header a segment leaves with, the two-part copy of its payload out of
the transmit ring, and the scheduler event.

Mirroring notes:
- `tx_fill_hdr` writes 52 bytes: IP header, TCP header, timestamp option.
  The field order is the source's; later writes win where they overlap
  (`_tos`, then its ECN bits).
- The lengths handed to `is_paylen_valid` are cut to 16 bits there, not here.
-/

namespace Chamelio.Tcp

open Chamelio.Lib Chamelio.Util Chamelio.Pkt Chamelio.Fast

/-- `sizeof(struct ip_hdr) + TCP_HLEN + TCP_TS_OPT_LEN`. -/
def txGetHdrlen : UInt32 := 52

/-- The flags `tx_fill_hdr` sends. -/
def txHdrFlags (sock : TcpSock) (paylen : UInt32) : UInt16 :=
  let flags := tcpAck
  let flags := if paylen > 0 then flags ||| tcpPsh else flags
  if sock.flags &&& sockFlagSendEce ≠ 0 then flags ||| tcpEce else flags

/-- `tx_write_tsopt`. -/
def txWriteTsopt (p : Nat → UInt8) (sock : TcpSock) (nowUs : UInt32) : Nat → UInt8 :=
  let p := put8 p 40 tcpOptTimestamp
  let p := put8 p 41 12
  let p := put32 p 42 nowUs
  let p := put32 p 46 sock.tsRecent
  put16 p 50 0

/-- The bytes `tx_fill_hdr` writes. -/
def txHdrBytes (p : Nat → UInt8) (sock : TcpSock) (hdrlen paylen nowUs : UInt32) :
    Nat → UInt8 :=
  let p := put8 p 0 0x45
  let p := put8 p 1 0
  let p := put16 p 2 (hdrlen + paylen).toUInt16
  let p := put16 p 4 3
  let p := put16 p 6 0
  let p := put8 p 8 0xff
  let p := put8 p 9 ipProtoTcp
  let p := put16 p 10 0
  let p := put32 p 12 sock.localIp
  let p := put32 p 16 sock.remoteIp
  let p := if sock.flags &&& sockFlagEcn ≠ 0 ∧ paylen > 0 then put8 p 1 ipEcnEct0 else p
  let p := put16 p 20 sock.localPort
  let p := put16 p 22 sock.remotePort
  let p := put32 p 24 (sock.txSeq + sock.txPending)
  let p := put32 p 28 sock.rxSeq
  let p := put16 p 32 (((hdrlen / 4 - 5).toUInt16 <<< 12) ||| (txHdrFlags sock paylen &&& 0x1ff))
  let p := put16 p 34 (sock.rxLen - sock.rxAvail).toUInt16
  let p := put16 p 36 0
  let p := put16 p 38 0
  txWriteTsopt p sock nowUs

def txFillHdr (ctx : TcpCtx) (sid : Nat) (hdrlen paylen : UInt32) : TcpCtx :=
  let sock := sockOf ctx sid
  let (nowUs, ctx) := tcpNowUs ctx
  let ctx := { ctx with pkt := txHdrBytes ctx.pkt sock hdrlen paylen nowUs }
  if sock.flags &&& sockFlagSendEce ≠ 0 then
    setSock ctx sid { sock with flags := sock.flags &&& ~~~sockFlagSendEce }
  else ctx

def txFillAck (ctx : TcpCtx) (sid : Nat) : TcpCtx × Ret :=
  if !isPktlenValid ctx then (ctx, .error .other)
  else if !isPaylenValid ctx txGetHdrlen 0 then (ctx, .error .other)
  else (txFillHdr ctx sid txGetHdrlen 0, .ok txGetHdrlen.toNat)

def txGetMaxPaylen (ctx : TcpCtx) (hdrlen : UInt32) : UInt32 :=
  let payloadHeadroom := UInt32.ofNat ctx.pktRoom
  if payloadHeadroom < hdrlen then 0 else payloadHeadroom - hdrlen

def txGetTxBump (sock : TcpSock) (maxPaylen : UInt32) : UInt32 :=
  let txBump := if sock.txAvail > maxPaylen then maxPaylen else sock.txAvail
  let fcAvail : Int := (sock.txRemoteAvail.toNat : Int) - sock.txPending.toNat
  let fcAvail := if fcAvail < 0 then 0 else fcAvail
  let txBump := if (txBump.toNat : Int) > fcAvail then UInt32.ofNat fcAvail.toNat else txBump
  let recoveryAvail := tcpSockRecoveryAvail sock
  if txBump > recoveryAvail then recoveryAvail else txBump

/-- `tx_copy_payload(shm_base, sock, pkt + hdrlen, tx_bump)`. -/
def txCopyPayload (ctx : TcpCtx) (sock : TcpSock) (hdrlen txBump : UInt32) : TcpCtx :=
  let txBase := sock.txOff.toNat
  let txPos := wrapAdd sock.txHead sock.txPending sock.txLen
  if txPos + txBump ≤ sock.txLen then
    { ctx with
      pkt := blit ctx.pkt hdrlen.toNat (fun i => ctx.shm (txBase + txPos.toNat + i))
        txBump.toNat }
  else
    let part := sock.txLen - txPos
    let pkt := blit ctx.pkt hdrlen.toNat (fun i => ctx.shm (txBase + txPos.toNat + i)) part.toNat
    { ctx with
      pkt := blit pkt (hdrlen.toNat + part.toNat) (fun i => ctx.shm (txBase + i))
        (txBump - part).toNat }

def txSockTxBump (sock : TcpSock) (txBump : UInt32) : TcpSock :=
  { sock with txAvail := sock.txAvail - txBump, txPending := sock.txPending + txBump }

def txSockSchedNext (clk : Clock) (sock : TcpSock) (pktlen : UInt32) (nowTsc : UInt64) :
    TcpSock :=
  if sock.ccRate = 0 then { sock with txReadyTsc := nowTsc }
  else { sock with txReadyTsc := nowTsc + rateDelayTsc clk pktlen sock.ccRate }

/-- The payload half of `tcp_event_sched`: copy, move the bytes from
available to pending, and stay scheduled while bytes are left. -/
def txSendPayload (ctx : TcpCtx) (sid : Nat) (hdrlen txBump : UInt32) (nowTsc : UInt64) :
    TcpCtx × Ret :=
  let ctx := txCopyPayload ctx (sockOf ctx sid) hdrlen txBump
  let sock := txSockTxBump (sockOf ctx sid) txBump
  let sock := txSockSchedNext ctx.clk sock (hdrlen + txBump) nowTsc
  let ctx := setSock ctx sid sock
  let avail := sockSchedAvail sock
  if avail > 0 then
    let (prio, ctx) := txSchedTsc ctx sid
    let (ctx, ret) := ctxSchedAdd ctx sock.id prio avail
    if ret < 0 then (ctx, .error .other) else (ctx, .ok (hdrlen + txBump).toNat)
  else (ctx, .ok (hdrlen + txBump).toNat)

/-- `tcp_event_sched` once a socket was popped and found. -/
def txSend (ctx : TcpCtx) (sid : Nat) (nowTsc : UInt64) : TcpCtx × Ret :=
  if !isPktlenValid ctx then (ctx, .error .other)
  else
    let hdrlen := txGetHdrlen
    let txBump := txGetTxBump (sockOf ctx sid) (txGetMaxPaylen ctx hdrlen)
    if !isPaylenValid ctx hdrlen txBump then (ctx, .error .other)
    else
      let ctx := txFillHdr ctx sid hdrlen txBump
      if txBump > 0 then txSendPayload ctx sid hdrlen txBump nowTsc
      else (ctx, .ok (hdrlen + txBump).toNat)

def tcpEventSched (ctx : TcpCtx) : TcpCtx × Ret :=
  match schedHead ctx.sched with
  | none => (ctx, .ok 0)
  | some entry =>
    let (nowTsc, clk) := clockRdtsc ctx.clk
    let ctx := { ctx with clk }
    if entry.priority > nowTsc then (ctx, .ok 0)
    else
      let (sched, ret) := schedPop ctx.sched
      let ctx := { ctx with sched }
      if ret ≠ 0 then (ctx, .error .other)
      else
        match sockMapLookup ctx entry.id with
        | none => (ctx, .error .other)
        | some sid => txSend ctx sid nowTsc

/-! ## The amount a segment carries -/

/-- `tx_get_tx_bump` is the least of what is buffered, what fits the packet,
what the remote window leaves and what recovery allows. -/
theorem toNat_txGetTxBump (s : TcpSock) (maxPaylen : UInt32) :
    (txGetTxBump s maxPaylen).toNat =
      min (min (min s.txAvail.toNat maxPaylen.toNat)
        (s.txRemoteAvail.toNat - s.txPending.toNat)) (tcpSockRecoveryAvail s).toNat := by
  unfold txGetTxBump
  generalize tcpSockRecoveryAvail s = r
  have hrem := s.txRemoteAvail.toNat_lt
  dsimp only
  rw [toNat_clamp]
  generalize hb : (if s.txAvail > maxPaylen then maxPaylen else s.txAvail) = b
  have hb' : b.toNat = min s.txAvail.toNat maxPaylen.toNat := by
    rw [← hb, toNat_clamp]
  rw [← hb']
  congr 1
  split
  · next hneg =>
    split
    · rw [UInt32.toNat_ofNat']
      omega
    · omega
  · next hnn =>
    split
    · rw [UInt32.toNat_ofNat']
      omega
    · omega

end Chamelio.Tcp
