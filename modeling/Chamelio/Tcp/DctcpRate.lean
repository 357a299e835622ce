import Chamelio.Tcp.Cc

/-!
# DCTCP and the rate zero (`protos/tcp/slow/tcp_cc.c`)

A `cc_rate` of 0 is no rate at all: the fast path does not pace such a socket
(`tx_sched_tsc`, `tx_sock_sched_next`). With constant rates that is how pacing
is turned off. DCTCP gets to 0 on its own: the clamp to the measured
throughput makes the rate 0 when nothing was acknowledged, doubling and the
multiplicative increase keep it there, and the only thing that raises it again
before it is stored is the lower bound `cc_dctcp_min`, 0 by default.

`dctcp_paced_iff` is the exact condition: under an accepted configuration no
tick ever stores 0 if and only if `cc_dctcp_min` is not 0. A socket that
mostly receives gets there: the segments it is sent count as acknowledgements
and acknowledge no bytes.
-/

namespace Chamelio.Tcp

open Chamelio.Lib

/-- A socket under DCTCP: set up, changed by the fast path, which leaves the
rate alone, and ticks with any statistics and any retransmissions before
them. -/
inductive DctcpReach (cfg : TcpConfiguration) : TcpSock → CcMeta → Prop
  | init (sock : TcpSock) (nowTsc : UInt64) :
    DctcpReach cfg (sockCcInit cfg sock nowTsc).1 (sockCcInit cfg sock nowTsc).2
  | fast {sock sock' : TcpSock} {m : CcMeta} (h : DctcpReach cfg sock m)
    (hrate : sock'.ccRate = sock.ccRate) : DctcpReach cfg sock' m
  | tick {sock : TcpSock} {m : CcMeta} (h : DctcpReach cfg sock m) (rexmits : UInt32)
    (stats : CcStats) (elapsedUs : UInt64) :
    DctcpReach cfg (sockOnDctcpTick cfg sock { m with ccRexmits := rexmits } stats elapsedUs).1
      (sockOnDctcpTick cfg sock { m with ccRexmits := rexmits } stats elapsedUs).2

/-- **Pacing is never turned off**: the rate is not 0 in any state. -/
def DctcpPaced (cfg : TcpConfiguration) : Prop :=
  ∀ sock m, DctcpReach cfg sock m → sock.ccRate ≠ 0

section

variable {cfg : TcpConfiguration} {sock : TcpSock} {m : CcMeta} {stats : CcStats}
  {elapsedUs : UInt64}

/-- A sample with too few acknowledgements is put by, and nothing else. -/
theorem sockOnDctcpTick_skip (hskip : (dctcpSample m stats).acks < cfg.ccDctcpMinpkts) :
    sockOnDctcpTick cfg sock m stats elapsedUs =
      (sock, dctcpPutBy { m with ccRtt := ccRtt cfg stats } (dctcpSample m stats)) := by
  unfold sockOnDctcpTick
  exact if_pos hskip

theorem sockOnDctcpTick_process (hproc : ¬ (dctcpSample m stats).acks < cfg.ccDctcpMinpkts) :
    sockOnDctcpTick cfg sock m stats elapsedUs =
      dctcpProcess cfg sock { m with ccRtt := ccRtt cfg stats } (dctcpSample m stats)
        elapsedUs := by
  unfold sockOnDctcpTick
  exact if_neg hproc

/-- **A sample that is processed leaves the rate at the lower bound or
above.** -/
theorem dctcpProcess_min_le (s : DctcpSample) :
    cfg.ccDctcpMin ≤ (dctcpProcess cfg sock m s elapsedUs).1.ccRate := by
  have hraise : ∀ rate : UInt32,
      cfg.ccDctcpMin ≤ if rate < cfg.ccDctcpMin then cfg.ccDctcpMin else rate := by
    intro rate
    split
    next => exact UInt32.le_refl _
    next hge => exact UInt32.not_lt.mp hge
  exact hraise _

theorem dctcpClamp_zero (rate : UInt32) : dctcpClamp rate 0 = 0 := by
  unfold dctcpClamp
  have hlimit : (0 : UInt32).toUInt64 * 12 / 10 = 0 := by decide
  dsimp only
  rw [hlimit]
  split
  next => rfl
  next hle =>
    have hle : rate.toUInt64 ≤ 0 := UInt64.not_lt.mp hle
    rw [UInt64.le_iff_toNat_le, UInt32.toNat_toUInt64] at hle
    exact (u32_eq_zero_iff rate).mpr (Nat.le_zero.mp hle)

theorem dctcpActRate_zero (elapsedUs : UInt64) : dctcpActRate 0 elapsedUs = 0 := by
  unfold dctcpActRate
  split
  next => rfl
  next =>
    have hzero : ((0 : UInt32).toUInt64 * 8 * 1000) / elapsedUs = 0 := by
      rw [← UInt64.toNat_inj, UInt64.toNat_div]
      exact Nat.zero_div _
    dsimp only
    rw [hzero]
    rfl

/-- **Nothing acknowledged**: in slow start, with no throughput so far, a
quiet sample without bytes leaves the lower bound and nothing above it. -/
theorem dctcpProcess_idle {s : DctcpSample} (hackb : s.ackb = 0) (havg : m.dctcpActRate = 0)
    (hslow : m.dctcpSlowstart = true) (hquiet : s.Quiet m.ccRexmits) :
    (dctcpProcess cfg sock m s elapsedUs).1.ccRate = cfg.ccDctcpMin := by
  -- the sample and the average are 0, and so is the limit
  have hact : (if (0 : UInt32) ≥ dctcpAvgRate 0 0 then (0 : UInt32) else dctcpAvgRate 0 0) = 0 :=
    rfl
  have hdouble : dctcpDouble 0 = 0 := rfl
  unfold dctcpProcess
  simp only [hackb, dctcpActRate_zero, havg, hslow, hquiet, hact, dctcpClamp_zero, hdouble,
    decide_true, Bool.and_self, if_true]
  split
  next => rfl
  next hge =>
    have hle := UInt32.le_iff_toNat_le.mp (UInt32.not_lt.mp hge)
    exact ((u32_eq_zero_iff _).mpr (Nat.le_zero.mp hle)).symm

/-- The rate a socket starts with. -/
theorem sockCcInit_rate (hdctcp : cfg.ccAlgorithm = .dctcpRate) (nowTsc : UInt64) :
    (sockCcInit cfg sock nowTsc).1.ccRate = cfg.ccDctcpInit := by
  unfold sockCcInit ccInitRateMeta
  rw [hdctcp]

end

/-- With a lower bound every state has a rate. -/
theorem DctcpReach.rate_ne_zero {cfg : TcpConfiguration} (hdctcp : cfg.ccAlgorithm = .dctcpRate)
    (hinit : cfg.ccDctcpInit ≠ 0) (hmin : cfg.ccDctcpMin ≠ 0) {sock : TcpSock} {m : CcMeta}
    (h : DctcpReach cfg sock m) : sock.ccRate ≠ 0 := by
  induction h with
  | init sock nowTsc =>
    rw [sockCcInit_rate hdctcp]
    exact hinit
  | fast _ hrate ih =>
    rw [hrate]
    exact ih
  | @tick sock m _ rexmits stats elapsedUs ih =>
    -- a sample with too few acknowledgements leaves the rate, any other one clamps it
    by_cases hskip :
        (dctcpSample { m with ccRexmits := rexmits } stats).acks < cfg.ccDctcpMinpkts
    · rw [sockOnDctcpTick_skip hskip]
      exact ih
    · intro hzero
      rw [sockOnDctcpTick_process hskip] at hzero
      have hle := UInt32.le_iff_toNat_le.mp (hzero ▸ dctcpProcess_min_le _)
      exact hmin ((u32_eq_zero_iff _).mpr (Nat.le_zero.mp hle))

/-- Segments counted as acknowledgements that acknowledge nothing. -/
def idleStats (acks : UInt32) : CcStats :=
  { drops := 0, acks, ackb := 0, ecnb := 0, rtt := 0, txPending := false }

/-- **Without a lower bound the first sample turns pacing off** if it has no
bytes. -/
theorem dctcp_idle_unpaced {cfg : TcpConfiguration} (hdctcp : cfg.ccAlgorithm = .dctcpRate)
    (sock : TcpSock) (nowTsc elapsedUs : UInt64) :
    (sockOnDctcpTick cfg (sockCcInit cfg sock nowTsc).1
      { (sockCcInit cfg sock nowTsc).2 with ccRexmits := 0 } (idleStats cfg.ccDctcpMinpkts)
      elapsedUs).1.ccRate = cfg.ccDctcpMin := by
  have hmeta : (sockCcInit cfg sock nowTsc).2.dctcpSlowstart = true ∧
      (sockCcInit cfg sock nowTsc).2.dctcpActRate = 0 ∧
      dctcpSample { (sockCcInit cfg sock nowTsc).2 with ccRexmits := 0 }
        (idleStats cfg.ccDctcpMinpkts) =
        { acks := 0 + cfg.ccDctcpMinpkts, ackb := 0, ecnb := 0, drops := 0 } := by
    unfold sockCcInit ccInitRateMeta
    rw [hdctcp]
    exact ⟨rfl, rfl, rfl⟩
  obtain ⟨hslow, havg, hsample⟩ := hmeta
  have hproc : ¬ (dctcpSample { (sockCcInit cfg sock nowTsc).2 with ccRexmits := 0 }
      (idleStats cfg.ccDctcpMinpkts)).acks < cfg.ccDctcpMinpkts := by
    rw [hsample, UInt32.zero_add]
    exact UInt32.lt_irrefl _
  rw [sockOnDctcpTick_process hproc, hsample]
  exact dctcpProcess_idle rfl havg hslow ⟨rfl, rfl, rfl⟩

/-- **When DCTCP never turns pacing off**: exactly under the configurations
with a lower bound. -/
theorem dctcp_paced_iff {scaled : Nat → Text → Option UInt32}
    {args : List (Option (CfgParam × Text))} {cfg : TcpConfiguration}
    (hparse : tcpConfigParse scaled args = some cfg) (hdctcp : cfg.ccAlgorithm = .dctcpRate) :
    DctcpPaced cfg ↔ cfg.ccDctcpMin ≠ 0 := by
  constructor
  · intro hpaced hmin
    -- the first sample of an idle socket ends at the bound, whatever it is
    have hinit : DctcpReach cfg _ _ := DctcpReach.init TcpSock.zero 1
    have htick := hinit.tick 0 (idleStats cfg.ccDctcpMinpkts) 1
    refine hpaced _ _ htick ?_
    rw [dctcp_idle_unpaced hdctcp, hmin]
  · intro hmin sock m h
    exact h.rate_ne_zero hdctcp (tcpConfigParse_positive hparse).dctcpInit hmin

/-- `--cc=dctcp-rate --cc-dctcp-min=1000`. -/
def dctcpMinArgs : List (Option (CfgParam × Text)) :=
  [some (.cc, "dctcp-rate".toUTF8.data.toList), some (.ccDctcpMin, "1000".toUTF8.data.toList)]

theorem dctcp_paced_min :
    ∃ cfg, tcpConfigParse (fun _ _ => none) dctcpMinArgs = some cfg ∧ DctcpPaced cfg := by
  have hparse : tcpConfigParse (fun _ _ => none) dctcpMinArgs =
      some { configDefaults with ccAlgorithm := .dctcpRate, ccDctcpMin := 1000 } := rfl
  exact ⟨_, hparse, (dctcp_paced_iff hparse rfl).mpr (by decide)⟩

/-- The defaults with `--cc=dctcp-rate`. -/
def dctcpDefaults : TcpConfiguration := { configDefaults with ccAlgorithm := .dctcpRate }

/-- The state after the first sample of a socket that only received: fifty
segments in 100 microseconds. -/
def receiverTick : TcpSock × CcMeta :=
  let (sock, m) := sockCcInit dctcpDefaults TcpSock.zero 1
  sockOnDctcpTick dctcpDefaults sock { m with ccRexmits := 0 } (idleStats 50) 100

/-- **By default pacing is turned off** by the first sample of a receiver. -/
theorem dctcp_default_unpaced :
    tcpConfigParse (fun _ _ => none) [some (.cc, "dctcp-rate".toUTF8.data.toList)] =
        some dctcpDefaults ∧
      DctcpReach dctcpDefaults receiverTick.1 receiverTick.2 ∧ receiverTick.1.ccRate = 0 ∧
      ¬ DctcpPaced dctcpDefaults := by
  have hreach : DctcpReach dctcpDefaults receiverTick.1 receiverTick.2 :=
    (DctcpReach.init TcpSock.zero 1).tick 0 (idleStats 50) 100
  have hzero : receiverTick.1.ccRate = 0 := rfl
  exact ⟨rfl, hreach, hzero, fun hpaced => hpaced _ _ hreach hzero⟩

end Chamelio.Tcp
