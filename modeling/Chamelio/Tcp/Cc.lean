import Chamelio.Tcp.Config

/-!
# Congestion control of the slow path (`protos/tcp/slow/tcp_cc.c`)

The fast path counts acknowledgements, bytes, marks and drops in the socket;
the slow path samples the counters every few round trips and sets the rate
the fast path paces by. The state of one socket is the shared entry
(`TcpSock`) and the part of `struct tcp_sock_meta_slow` that is for congestion
control (`CcMeta`).

Mirroring notes:
- `ccPollSock` is the body of the loop of `tcp_cc_poll` for one socket. Which
  sockets a poll looks at, and when, is up to whoever runs it.
- `clock_us_since_tsc` reads the clock and converts from cycles in floating
  point; the function of that moment is an argument (`usSince`).
- The steps of `sock_on_dctcp_tick` on the rate have definitions of their own.
- `tx_rexmit_seq` and `tx_rexmit_end_seq` are never written but with 0, so the
  first branch of `sock_on_tx_stall` is left out. What `tcp_tx_retransmit`
  returns is an argument.
- The totals in the context (`stats_drops` and others) are printed only, and
  left out.
-/

namespace Chamelio.Tcp

open Chamelio.Lib

/-- `struct tcp_cc_stats`. -/
structure CcStats where
  drops : UInt32
  acks : UInt32
  ackb : UInt32
  ecnb : UInt32
  rtt : UInt32
  txPending : Bool
  deriving DecidableEq

/-- The congestion control of `struct tcp_sock_meta_slow`. -/
structure CcMeta where
  ccTsc : UInt64
  ccRtt : UInt32
  ccLastDrops : UInt32
  ccLastAcks : UInt32
  ccLastAckb : UInt32
  ccLastEcnb : UInt32
  ccRexmits : UInt32
  cntTxPending : UInt32
  tsTxPending : UInt64
  dctcpUnprocAcks : UInt32
  dctcpUnprocAckb : UInt32
  dctcpUnprocEcnb : UInt32
  dctcpUnprocDrops : UInt32
  dctcpEcnRate : UInt32
  dctcpActRate : UInt32
  dctcpSlowstart : Bool
  deriving DecidableEq

/-! ## A new socket -/

/-- The metadata after `cc_sock_reset`; `ccSockReset` is the socket. -/
def ccMetaReset : CcMeta :=
  { ccTsc := 0, ccRtt := 0, ccLastDrops := 0, ccLastAcks := 0, ccLastAckb := 0, ccLastEcnb := 0
    ccRexmits := 0, cntTxPending := 0, tsTxPending := 0
    dctcpUnprocAcks := 0, dctcpUnprocAckb := 0, dctcpUnprocEcnb := 0, dctcpUnprocDrops := 0
    dctcpEcnRate := 0, dctcpActRate := 0, dctcpSlowstart := false }

/-- `cc_init_rate`, with the metadata it marks. -/
def ccInitRateMeta (cfg : TcpConfiguration) (m : CcMeta) : UInt32 × CcMeta :=
  match cfg.ccAlgorithm with
  | .constRate => (cfg.ccConstRate, m)
  | .dctcpRate => (cfg.ccDctcpInit, { m with dctcpSlowstart := true })
  | .other => (0, m)

/-- `tcp_sock_cc_init`, socket and metadata. -/
def sockCcInit (cfg : TcpConfiguration) (sock : TcpSock) (nowTsc : UInt64) : TcpSock × CcMeta :=
  let sock := ccSockReset sock
  let m := { ccMetaReset with
    ccTsc := nowTsc
    ccRtt := if sock.rttEst ≠ 0 then sock.rttEst else cfg.ccRttInit }
  let (rate, m) := ccInitRateMeta cfg m
  ({ sock with ccRate := rate }, m)

/-! ## Samples -/

def ccStatsRead (cfg : TcpConfiguration) (sock : TcpSock) (m : CcMeta) : CcStats :=
  { drops := sock.ccDrops - m.ccLastDrops
    acks := sock.ccAcks - m.ccLastAcks
    ackb := sock.ccAckb - m.ccLastAckb
    ecnb := sock.ccEcnb - m.ccLastEcnb
    rtt :=
      if sock.rttEst ≠ 0 then sock.rttEst
      else if m.ccRtt ≠ 0 then m.ccRtt else cfg.ccRttInit
    txPending := decide (sock.txPending ≠ 0) }

def ccStatsCommit (sock : TcpSock) (m : CcMeta) : CcMeta :=
  { m with
    ccLastDrops := sock.ccDrops
    ccLastAcks := sock.ccAcks
    ccLastAckb := sock.ccAckb
    ccLastEcnb := sock.ccEcnb }

def ccRtt (cfg : TcpConfiguration) (stats : CcStats) : UInt32 :=
  if stats.rtt ≠ 0 then stats.rtt else cfg.ccRttInit

/-! ## DCTCP -/

def dctcpActRate (ackb : UInt32) (elapsedUs : UInt64) : UInt32 :=
  if elapsedUs = 0 then 0
  else
    let rate := (ackb.toUInt64 * 8 * 1000) / elapsedUs
    rate.toUInt32

def dctcpEcnRate (weight prev ecnb ackb : UInt32) : UInt32 :=
  let rate := (ecnb.toUInt64 * uintMax.toUInt64) / ackb.toUInt64
  let rate := rate * weight.toUInt64 + prev.toUInt64 * (uintMax - weight).toUInt64
  (rate / uintMax.toUInt64).toUInt32

/-- What the tick works on: the sample and what earlier ticks left over. -/
structure DctcpSample where
  acks : UInt32
  ackb : UInt32
  ecnb : UInt32
  drops : UInt32

def dctcpSample (m : CcMeta) (stats : CcStats) : DctcpSample :=
  { ecnb := m.dctcpUnprocEcnb + stats.ecnb
    acks := m.dctcpUnprocAcks + stats.acks
    ackb := m.dctcpUnprocAckb + stats.ackb
    drops := m.dctcpUnprocDrops + stats.drops }

/-- The moving average of the throughput. -/
def dctcpAvgRate (old sample : UInt32) : UInt32 := (7 * old + sample) / 8

/-- The clamp to 1.2 times the throughput. -/
def dctcpClamp (rate actRate : UInt32) : UInt32 :=
  let limit := actRate.toUInt64 * 12 / 10
  if rate.toUInt64 > limit then limit.toUInt32 else rate

/-- The step of slow start. -/
def dctcpDouble (rate : UInt32) : UInt32 :=
  if rate.toUInt64 * 2 ≤ uintMax.toUInt64 then rate * 2 else uintMax

/-- The reduction for marks. -/
def dctcpReduce (rate ecnRate : UInt32) : UInt32 :=
  ((rate.toUInt64 * (uintMax - ecnRate / 2).toUInt64) / uintMax.toUInt64).toUInt32

/-- The additive increase. -/
def dctcpAdditive (rate step : UInt32) : UInt32 :=
  if uintMax - rate < step then uintMax else rate + step

/-- The multiplicative increase. -/
def dctcpMultiplicative (rate mimd : UInt32) : UInt32 :=
  let step := (rate.toUInt64 * mimd.toUInt64) / uintMax.toUInt64
  if step > (uintMax - rate).toUInt64 then uintMax else (rate.toUInt64 + step).toUInt32

/-- The increase without congestion. -/
def dctcpIncrease (cfg : TcpConfiguration) (rate : UInt32) : UInt32 :=
  if cfg.ccDctcpMimd = 0 then dctcpAdditive rate cfg.ccDctcpStep
  else dctcpMultiplicative rate cfg.ccDctcpMimd

/-- Outside slow start: the rate and the average of the marks. -/
def dctcpAvoid (cfg : TcpConfiguration) (rexmits ecnRate : UInt32) (s : DctcpSample)
    (rate : UInt32) : UInt32 × UInt32 :=
  if s.drops > 0 ∨ rexmits > 0 then (rate / 2, ecnRate)
  else
    let ecnb := if s.ackb > 0 ∧ s.ecnb > s.ackb then s.ackb else s.ecnb
    let ecnRate :=
      if s.ackb > 0 then dctcpEcnRate cfg.ccDctcpWeight ecnRate ecnb s.ackb else ecnRate
    if ecnb > 0 then (dctcpReduce rate ecnRate, ecnRate) else (dctcpIncrease cfg rate, ecnRate)

/-- Nothing in the sample says congestion. -/
def DctcpSample.Quiet (s : DctcpSample) (rexmits : UInt32) : Prop :=
  s.drops = 0 ∧ s.ecnb = 0 ∧ rexmits = 0

instance (s : DctcpSample) (rexmits : UInt32) : Decidable (s.Quiet rexmits) :=
  inferInstanceAs (Decidable (_ ∧ _))

/-- Too few acknowledgements: the sample is left to the next tick. -/
def dctcpPutBy (m : CcMeta) (s : DctcpSample) : CcMeta :=
  { m with
    dctcpUnprocEcnb := s.ecnb
    dctcpUnprocAcks := s.acks
    dctcpUnprocAckb := s.ackb
    dctcpUnprocDrops := s.drops }

/-- The sample is processed. -/
def dctcpProcess (cfg : TcpConfiguration) (sock : TcpSock) (m : CcMeta) (s : DctcpSample)
    (elapsedUs : UInt64) : TcpSock × CcMeta :=
  let sample := dctcpActRate s.ackb elapsedUs
  let avg := dctcpAvgRate m.dctcpActRate sample
  let actRate := if sample ≥ avg then sample else avg
  let rate := dctcpClamp sock.ccRate actRate
  -- slow start ends with the first congestion, and that tick already avoids it
  let slowstart := m.dctcpSlowstart && decide (s.Quiet m.ccRexmits)
  let next :=
    if slowstart then (dctcpDouble rate, m.dctcpEcnRate)
    else dctcpAvoid cfg m.ccRexmits m.dctcpEcnRate s rate
  let rate := if next.1 < cfg.ccDctcpMin then cfg.ccDctcpMin else next.1
  ({ sock with ccRate := rate }, { m with
    dctcpUnprocEcnb := 0
    dctcpUnprocAcks := 0
    dctcpUnprocAckb := 0
    dctcpUnprocDrops := 0
    dctcpActRate := avg
    dctcpEcnRate := next.2
    dctcpSlowstart := slowstart
    ccRexmits := 0 })

def sockOnDctcpTick (cfg : TcpConfiguration) (sock : TcpSock) (m : CcMeta) (stats : CcStats)
    (elapsedUs : UInt64) : TcpSock × CcMeta :=
  let s := dctcpSample m stats
  let m := { m with ccRtt := ccRtt cfg stats }
  if s.acks < cfg.ccDctcpMinpkts then (sock, dctcpPutBy m s)
  else dctcpProcess cfg sock m s elapsedUs

/-! ## Ticks -/

def sockOnConstRateTick (cfg : TcpConfiguration) (sock : TcpSock) (m : CcMeta)
    (stats : CcStats) : TcpSock × CcMeta :=
  ({ sock with ccRate := cfg.ccConstRate }, { m with ccRtt := ccRtt cfg stats, ccRexmits := 0 })

def sockOnCcTick (cfg : TcpConfiguration) (sock : TcpSock) (m : CcMeta) (stats : CcStats)
    (elapsedUs : UInt64) : TcpSock × CcMeta :=
  match cfg.ccAlgorithm with
  | .constRate => sockOnConstRateTick cfg sock m stats
  | .dctcpRate => sockOnDctcpTick cfg sock m stats elapsedUs
  | .other => ({ sock with ccRate := 0 }, { m with ccRexmits := 0, ccRtt := cfg.ccRttInit })

def sockOnTxStall (cfg : TcpConfiguration) (m : CcMeta) (stats : CcStats) (nowTsc : UInt64)
    (usSince : UInt64 → UInt64) (sent : Bool) : CcMeta :=
  let rtt := ccRtt cfg stats
  if stats.txPending = true ∧ stats.ackb = 0 then
    let cnt := m.cntTxPending + 1
    if m.cntTxPending = 0 then { m with cntTxPending := cnt, tsTxPending := nowTsc }
    else if cnt ≥ cfg.ccRemitInts ∧ usSince m.tsTxPending ≥ 2 * rtt.toUInt64 ∧ sent = true then
      { m with cntTxPending := 0, ccRexmits := m.ccRexmits + 1 }
    else { m with cntTxPending := cnt }
  else { m with cntTxPending := 0 }

/-- The check for a stall writes its own counters and the retransmits. -/
theorem sockOnTxStall_frame (cfg : TcpConfiguration) (m : CcMeta) (stats : CcStats)
    (nowTsc : UInt64) (usSince : UInt64 → UInt64) (sent : Bool) :
    ∃ cnt ts rexmits, sockOnTxStall cfg m stats nowTsc usSince sent =
      { m with cntTxPending := cnt, tsTxPending := ts, ccRexmits := rexmits } := by
  unfold sockOnTxStall
  dsimp only
  split
  · split
    · exact ⟨_, _, _, rfl⟩
    · split
      · exact ⟨_, _, _, rfl⟩
      · exact ⟨_, _, _, rfl⟩
  · exact ⟨_, _, _, rfl⟩

/-- The end of a tick: the controller, the check for a stall, the time. -/
def ccTickEnd (cfg : TcpConfiguration) (sock : TcpSock) (m : CcMeta) (stats : CcStats)
    (nowTsc : UInt64) (usSince : UInt64 → UInt64) (elapsedUs : UInt64) (sent : Bool) :
    TcpSock × CcMeta :=
  let (sock, m) := sockOnCcTick cfg sock m stats elapsedUs
  (sock, { sockOnTxStall cfg m stats nowTsc usSince sent with ccTsc := nowTsc })

/-- A tick is due: the round trips of the control interval are over. -/
def ccDue (cfg : TcpConfiguration) (sock : TcpSock) (m : CcMeta) (usSince : UInt64 → UInt64) :
    Prop :=
  sock.state = .established ∧ m.ccTsc ≠ 0 ∧
    m.ccRtt.toUInt64 * cfg.ccControlInterval.toUInt64 ≤ usSince m.ccTsc

instance (cfg : TcpConfiguration) (sock : TcpSock) (m : CcMeta) (usSince : UInt64 → UInt64) :
    Decidable (ccDue cfg sock m usSince) :=
  inferInstanceAs (Decidable (_ ∧ _))

/-- `tcp_cc_poll` for one socket. -/
def ccPollSock (cfg : TcpConfiguration) (sock : TcpSock) (m : CcMeta) (nowTsc : UInt64)
    (usSince : UInt64 → UInt64) (sent : Bool) : TcpSock × CcMeta :=
  if sock.state = .established ∧ m.ccTsc = 0 then (sock, { m with ccTsc := nowTsc })
  else if ccDue cfg sock m usSince then
    let stats := ccStatsRead cfg sock m
    ccTickEnd cfg sock (ccStatsCommit sock m) stats nowTsc usSince (usSince m.ccTsc) sent
  else (sock, m)

end Chamelio.Tcp
