import Chamelio.Lib.Run
import Chamelio.Tcp.DctcpBounds
import Chamelio.Tcp.DctcpRate

/-!
# The throughput DCTCP measures (`protos/tcp/slow/tcp_cc.c`)

Each processed sample gives a throughput, from the bytes acknowledged and the
time they took. The bytes of a tick with too few acknowledgements are put by
for the next one, but its time is not: `tcp_cc_poll` starts a new interval with
every tick. The rate is computed in 64 bits and cut to 32, and the moving
average in 32.

`ThroughputSys` is a socket with the bytes acknowledged and the time since the
last processed sample, which the code does not have. `throughput_measured` is
the result: in a run where no sample is processed with time put by, or at a
rate that does not fit (`SampleFits`), each throughput is the exact one and the
average moves towards it. `throughput_carried` shows what happens otherwise.

Mirroring notes:
- The fast path moves `cc_ackb` by any amount and changes the rest of the
  socket in any way, other than its rate.
- The time of the last processed sample is the time stamp the tick left in
  `cc_tsc`; what has passed since is what `clock_us_since_tsc` says of it.
-/

namespace Chamelio.Tcp

open Chamelio.Lib

/-- A socket under congestion control, with what was acknowledged since the
last processed sample and the time of that. -/
structure ThroughputSys where
  sock : TcpSock
  ccMeta : CcMeta
  acked : Nat
  lastTsc : UInt64

inductive ThroughputAct
  /-- The fast path: `n` more bytes acknowledged, anything else in the entry. -/
  | fast (n : UInt32) (sock : TcpSock)
  /-- A round of `tcp_cc_poll` at the socket. -/
  | poll (nowTsc : UInt64) (usSince : UInt64 → UInt64) (sent : Bool)

/-- What a processed sample is about: the throughput computed, the bytes and
microseconds it is of, and the average before and after. -/
structure Throughput where
  sample : UInt32
  bytes : Nat
  us : Nat
  oldAvg : UInt32
  newAvg : UInt32

/-- A poll processes a sample: a tick is due and has enough
acknowledgements. -/
def DctcpProcesses (cfg : TcpConfiguration) (sock : TcpSock) (m : CcMeta)
    (usSince : UInt64 → UInt64) : Prop :=
  cfg.ccAlgorithm = .dctcpRate ∧ ¬ (sock.state = .established ∧ m.ccTsc = 0) ∧
    ccDue cfg sock m usSince ∧
    ¬ (dctcpSample m (ccStatsRead cfg sock m)).acks < cfg.ccDctcpMinpkts

instance (cfg : TcpConfiguration) (sock : TcpSock) (m : CcMeta) (usSince : UInt64 → UInt64) :
    Decidable (DctcpProcesses cfg sock m usSince) :=
  inferInstanceAs (Decidable (_ ∧ _))

def ThroughputSys.step (cfg : TcpConfiguration) (s : ThroughputSys) :
    ThroughputAct → ThroughputSys × Option Throughput
  | .fast n sock =>
    ({ s with
        sock := { sock with ccAckb := s.sock.ccAckb + n, ccRate := s.sock.ccRate }
        acked := s.acked + n.toNat }, none)
  | .poll nowTsc usSince sent =>
    let next := ccPollSock cfg s.sock s.ccMeta nowTsc usSince sent
    let s' := { s with sock := next.1, ccMeta := next.2 }
    if DctcpProcesses cfg s.sock s.ccMeta usSince then
      let ackb := (dctcpSample s.ccMeta (ccStatsRead cfg s.sock s.ccMeta)).ackb
      ({ s' with acked := 0, lastTsc := nowTsc }, some
        { sample := dctcpActRate ackb (usSince s.ccMeta.ccTsc)
          bytes := s.acked
          us := (usSince s.lastTsc).toNat
          oldAvg := s.ccMeta.dctcpActRate
          newAvg := s'.ccMeta.dctcpActRate })
    else (s', none)

/-- A socket just set up. -/
def ThroughputSys.init (cfg : TcpConfiguration) (sock : TcpSock) (nowTsc : UInt64) :
    ThroughputSys :=
  { sock := (sockCcInit cfg sock nowTsc).1
    ccMeta := (sockCcInit cfg sock nowTsc).2
    acked := 0
    lastTsc := nowTsc }

/-- **A throughput is the measured one**: bytes by time in kbit/s, stopped at
`UINT_MAX`, and the average has moved towards it. -/
def Throughput.Measured (t : Throughput) : Prop :=
  t.sample.toNat = min 4294967295 (t.bytes * 8000 / t.us) ∧
    min t.oldAvg.toNat t.sample.toNat ≤ t.newAvg.toNat ∧
    t.newAvg.toNat ≤ max t.oldAvg.toNat t.sample.toNat

/-- **The samples that are measured right**: no tick since the last processed
one has put time by, or there is nothing to measure; and bytes, throughput
and the sum of the average fit 32 bits. -/
def SampleFits (cfg : TcpConfiguration) (s : ThroughputSys) : ThroughputAct → Prop
  | .fast _ _ => True
  | .poll _ usSince _ =>
    DctcpProcesses cfg s.sock s.ccMeta usSince →
      (s.ccMeta.ccTsc = s.lastTsc ∨ s.acked = 0) ∧
        s.acked < 4294967296 ∧
        s.acked * 8000 / (usSince s.lastTsc).toNat < 4294967296 ∧
        7 * s.ccMeta.dctcpActRate.toNat + s.acked * 8000 / (usSince s.lastTsc).toNat <
          4294967296

/-! ## What a poll does to the counters -/

section

variable {cfg : TcpConfiguration} {sock : TcpSock} {m : CcMeta} {nowTsc : UInt64}
  {usSince : UInt64 → UInt64} {sent : Bool}

/-- Bytes acknowledged and not processed, as the code has them. -/
def unprocessed (sock : TcpSock) (m : CcMeta) : UInt32 :=
  m.dctcpUnprocAckb + (sock.ccAckb - m.ccLastAckb)

theorem sampleAckb_eq : (dctcpSample m (ccStatsRead cfg sock m)).ackb = unprocessed sock m := rfl

/-- The check for a stall leaves the DCTCP state alone. -/
theorem sockOnTxStall_fields (stats : CcStats) :
    (sockOnTxStall cfg m stats nowTsc usSince sent).dctcpUnprocAckb = m.dctcpUnprocAckb ∧
      (sockOnTxStall cfg m stats nowTsc usSince sent).ccLastAckb = m.ccLastAckb ∧
      (sockOnTxStall cfg m stats nowTsc usSince sent).dctcpActRate = m.dctcpActRate := by
  obtain ⟨cnt, ts, rexmits, heq⟩ := sockOnTxStall_frame cfg m stats nowTsc usSince sent
  rw [heq]
  exact ⟨rfl, rfl, rfl⟩

/-- A poll at which a tick is due. -/
theorem ccPollSock_due (hstamp : ¬ (sock.state = .established ∧ m.ccTsc = 0))
    (hdue : ccDue cfg sock m usSince) :
    ccPollSock cfg sock m nowTsc usSince sent =
      ccTickEnd cfg sock (ccStatsCommit sock m) (ccStatsRead cfg sock m) nowTsc usSince
        (usSince m.ccTsc) sent := by
  unfold ccPollSock
  rw [if_neg hstamp, if_pos hdue]

/-- **A poll that processes a sample** leaves no bytes and the new average. -/
theorem ccPollSock_process (hproc : DctcpProcesses cfg sock m usSince) :
    unprocessed (ccPollSock cfg sock m nowTsc usSince sent).1
        (ccPollSock cfg sock m nowTsc usSince sent).2 = 0 ∧
      (ccPollSock cfg sock m nowTsc usSince sent).2.dctcpActRate =
        dctcpAvgRate m.dctcpActRate (dctcpActRate (unprocessed sock m) (usSince m.ccTsc)) := by
  obtain ⟨halgo, hstamp, hdue, hacks⟩ := hproc
  rw [ccPollSock_due hstamp hdue]
  have htick : sockOnCcTick cfg sock (ccStatsCommit sock m) (ccStatsRead cfg sock m)
      (usSince m.ccTsc) =
      dctcpProcess cfg sock
        { ccStatsCommit sock m with ccRtt := ccRtt cfg (ccStatsRead cfg sock m) }
        (dctcpSample m (ccStatsRead cfg sock m)) (usSince m.ccTsc) := by
    unfold sockOnCcTick
    rw [halgo]
    exact sockOnDctcpTick_process hacks
  unfold ccTickEnd unprocessed
  dsimp only
  obtain ⟨hunproc, hlast, hact⟩ := @sockOnTxStall_fields cfg
    (sockOnCcTick cfg sock (ccStatsCommit sock m) (ccStatsRead cfg sock m) (usSince m.ccTsc)).2
    nowTsc usSince sent (ccStatsRead cfg sock m)
  rw [hunproc, hlast, hact, htick]
  refine ⟨?_, rfl⟩
  -- nothing is put by, and the snapshot is the counter
  show 0 + (sock.ccAckb - sock.ccAckb) = 0
  rw [UInt32.sub_self, UInt32.add_zero]

/-- **Any other poll** keeps the bytes. -/
theorem ccPollSock_keep (halgo : cfg.ccAlgorithm = .dctcpRate)
    (hproc : ¬ DctcpProcesses cfg sock m usSince) :
    unprocessed (ccPollSock cfg sock m nowTsc usSince sent).1
      (ccPollSock cfg sock m nowTsc usSince sent).2 = unprocessed sock m := by
  by_cases hstamp : sock.state = .established ∧ m.ccTsc = 0
  · unfold ccPollSock
    rw [if_pos hstamp]
    rfl
  · by_cases hdue : ccDue cfg sock m usSince
    · have hacks : (dctcpSample m (ccStatsRead cfg sock m)).acks < cfg.ccDctcpMinpkts := by
        refine Classical.byContradiction fun hno => hproc ⟨halgo, hstamp, hdue, hno⟩
      rw [ccPollSock_due hstamp hdue]
      have htick : sockOnCcTick cfg sock (ccStatsCommit sock m) (ccStatsRead cfg sock m)
          (usSince m.ccTsc) =
          (sock, dctcpPutBy
            { ccStatsCommit sock m with ccRtt := ccRtt cfg (ccStatsRead cfg sock m) }
            (dctcpSample m (ccStatsRead cfg sock m))) := by
        unfold sockOnCcTick
        rw [halgo]
        exact sockOnDctcpTick_skip hacks
      unfold ccTickEnd unprocessed
      dsimp only
      obtain ⟨hunproc, hlast, -⟩ := @sockOnTxStall_fields cfg
        (sockOnCcTick cfg sock (ccStatsCommit sock m) (ccStatsRead cfg sock m)
          (usSince m.ccTsc)).2 nowTsc usSince sent (ccStatsRead cfg sock m)
      rw [hunproc, hlast, htick]
      -- what the snapshot took over is put by
      show unprocessed sock m + (sock.ccAckb - sock.ccAckb) = _
      rw [UInt32.sub_self, UInt32.add_zero]
      rfl
    · unfold ccPollSock
      rw [if_neg hstamp, if_neg hdue]

end

/-! ## Runs -/

/-- The code has the bytes acknowledged since the last processed sample, up to
2^32. -/
def ThroughputInv (s : ThroughputSys) : Prop :=
  unprocessed s.sock s.ccMeta = UInt32.ofNat s.acked

theorem ThroughputSys.init_inv (cfg : TcpConfiguration) (sock : TcpSock) (nowTsc : UInt64) :
    ThroughputInv (.init cfg sock nowTsc) := by
  have hzero : (0 : UInt32) + (0 - 0) = UInt32.ofNat 0 := rfl
  unfold ThroughputInv ThroughputSys.init sockCcInit ccInitRateMeta
  cases cfg.ccAlgorithm <;> exact hzero

theorem ThroughputInv.step {cfg : TcpConfiguration} {s : ThroughputSys}
    (halgo : cfg.ccAlgorithm = .dctcpRate) (h : ThroughputInv s) (act : ThroughputAct) :
    ThroughputInv (s.step cfg act).1 := by
  unfold ThroughputInv at h ⊢
  cases act with
  | fast n sock =>
    show s.ccMeta.dctcpUnprocAckb + (s.sock.ccAckb + n - s.ccMeta.ccLastAckb) =
      UInt32.ofNat (s.acked + n.toNat)
    rw [UInt32.ofNat_add, UInt32.ofNat_toNat, ← h]
    unfold unprocessed
    grind
  | poll nowTsc usSince sent =>
    unfold ThroughputSys.step
    dsimp only
    split
    next hproc => exact (ccPollSock_process hproc).1
    next hproc => exact (ccPollSock_keep halgo hproc).trans h

/-- The throughput over the naturals. -/
theorem toNat_dctcpActRate {ackb : UInt32} {elapsedUs : UInt64}
    (hfits : ackb.toNat * 8000 / elapsedUs.toNat < 4294967296) :
    (dctcpActRate ackb elapsedUs).toNat = ackb.toNat * 8000 / elapsedUs.toNat := by
  have hmax := toNat_le_uintMax ackb
  unfold dctcpActRate
  split
  next hzero =>
    rw [hzero]
    show 0 = _ / 0
    rw [Nat.div_zero]
  next hne =>
    have hval : ((ackb.toUInt64 * 8 * 1000) / elapsedUs).toNat =
        ackb.toNat * 8000 / elapsedUs.toNat := by
      rw [UInt64.toNat_div, UInt64.toNat_mul, UInt64.toNat_mul, UInt32.toNat_toUInt64,
        show (8 : UInt64).toNat = 8 from rfl, show (1000 : UInt64).toNat = 1000 from rfl,
        Nat.mod_eq_of_lt (show ackb.toNat * 8 < 2 ^ 64 by omega),
        Nat.mod_eq_of_lt (show ackb.toNat * 8 * 1000 < 2 ^ 64 by omega), Nat.mul_assoc]
    dsimp only
    rw [toNat_narrow, hval]
    rw [hval]
    exact Nat.le_of_lt_succ hfits

/-- The moving average over the naturals. -/
theorem toNat_dctcpAvgRate {old sample : UInt32}
    (hfits : 7 * old.toNat + sample.toNat < 4294967296) :
    (dctcpAvgRate old sample).toNat = weightedAvg 7 1 old.toNat sample.toNat := by
  unfold dctcpAvgRate weightedAvg
  rw [UInt32.toNat_div, UInt32.toNat_add, UInt32.toNat_mul, show (7 : UInt32).toNat = 7 from rfl,
    show (8 : UInt32).toNat = 8 from rfl, Nat.one_mul]
  omega

/-- **A sample that fits is measured right.** -/
theorem sample_measured {cfg : TcpConfiguration} {s : ThroughputSys} {act : ThroughputAct}
    (h : ThroughputInv s) (hok : SampleFits cfg s act) :
    ∀ t ∈ (s.step cfg act).2, t.Measured := by
  intro t ht
  cases act with
  | fast n sock => cases ht
  | poll nowTsc usSince sent =>
    unfold ThroughputSys.step at ht
    dsimp only at ht
    split at ht
    next hproc =>
      obtain ⟨htime, hbytes, hrate, hsum⟩ := hok hproc
      cases ht
      unfold Throughput.Measured
      dsimp only
      rw [sampleAckb_eq, (ccPollSock_process hproc).2]
      have hackb : (unprocessed s.sock s.ccMeta).toNat = s.acked := by
        rw [h]
        exact UInt32.toNat_ofNat_of_lt' hbytes
      -- the time of the tick is the time since the last processed sample
      have hquot : (unprocessed s.sock s.ccMeta).toNat * 8000 / (usSince s.ccMeta.ccTsc).toNat =
          s.acked * 8000 / (usSince s.lastTsc).toNat := by
        rw [hackb]
        rcases htime with htsc | hnone
        · rw [htsc]
        · rw [hnone, Nat.zero_mul, Nat.zero_div, Nat.zero_div]
      have hsample := toNat_dctcpActRate (by rw [hquot]; exact hrate)
      rw [hquot] at hsample
      rw [hsample, toNat_dctcpAvgRate (by rw [hsample]; exact hsum), hsample]
      have hle : s.acked * 8000 / (usSince s.lastTsc).toNat ≤ 4294967295 :=
        Nat.le_of_lt_succ hrate
      exact ⟨(Nat.min_eq_right hle).symm, min_le_weightedAvg (Nat.succ_pos 7) _ _,
        weightedAvg_le_max _ _ _ _⟩
    next => cases ht

/-- **DCTCP measures the throughput**, and averages it, in every run whose
samples fit. -/
theorem throughput_measured {cfg : TcpConfiguration} (halgo : cfg.ccAlgorithm = .dctcpRate)
    (sock : TcpSock) (nowTsc : UInt64) {log : List (Option Throughput)} {s : ThroughputSys}
    (hr : Run (SampleFits cfg) (ThroughputSys.step cfg) (.init cfg sock nowTsc) log s) :
    ∀ t, some t ∈ log → t.Measured := by
  have hinv := Run.inv
    (I := fun log s => ThroughputInv s ∧ ∀ t, some t ∈ log → Throughput.Measured t)
    ⟨ThroughputSys.init_inv cfg sock nowTsc, fun t ht => by cases ht⟩
    (fun log s act ⟨h, hlog⟩ hok => ⟨h.step halgo act, fun t ht => ?_⟩) hr
  · exact hinv.2
  · rcases List.mem_append.mp ht with ht | ht
    · exact hlog t ht
    · rw [List.mem_singleton] at ht
      exact sample_measured h hok t ht.symm

/-! ## Two samples -/

/-- The acknowledgements a socket has counted when the fast path is done. -/
def countedSock (acks : UInt32) : TcpSock :=
  { TcpSock.zero with state := .established, ccAcks := acks }

/-- A socket set up at time 1000, in microseconds. -/
def throughputStart : ThroughputSys := .init dctcpDefaults TcpSock.zero 1000

/-- Fifty acknowledgements in the first tick. -/
def oneTick : List ThroughputAct :=
  [.fast 50000 (countedSock 50), .poll 1100 (fun t => 1100 - t) true]

/-- As many in two ticks. -/
def twoTicks : List ThroughputAct :=
  [.fast 25000 (countedSock 25), .poll 1100 (fun t => 1100 - t) true,
    .fast 25000 (countedSock 50), .poll 1200 (fun t => 1200 - t) true]

def oneTickThroughput : Throughput :=
  { sample := 4000000, bytes := 50000, us := 100, oldAvg := 0, newAvg := 500000 }

theorem oneTick_run :
    Run (SampleFits dctcpDefaults) (ThroughputSys.step dctcpDefaults) throughputStart
      (execAll (ThroughputSys.step dctcpDefaults) oneTick throughputStart).1
      (execAll (ThroughputSys.step dctcpDefaults) oneTick throughputStart).2 := by
  have hfast : Run (SampleFits dctcpDefaults) (ThroughputSys.step dctcpDefaults) throughputStart
      _ _ := Run.nil.snoc (a := ThroughputAct.fast 50000 (countedSock 50)) trivial
  refine hfast.snoc (a := ThroughputAct.poll 1100 (fun t => 1100 - t) true) fun _ => ?_
  exact ⟨.inl rfl, by decide⟩

theorem throughput_measured_one :
    some oneTickThroughput ∈
        (execAll (ThroughputSys.step dctcpDefaults) oneTick throughputStart).1 ∧
      oneTickThroughput.Measured := by
  have hmem : some oneTickThroughput ∈
      (execAll (ThroughputSys.step dctcpDefaults) oneTick throughputStart).1 :=
    List.mem_cons_of_mem _ List.mem_cons_self
  exact ⟨hmem, throughput_measured rfl TcpSock.zero 1000 oneTick_run _ hmem⟩

/-- The second tick counts the bytes of both and the time of its own. -/
def twoTicksThroughput : Throughput :=
  { sample := 4000000, bytes := 50000, us := 200, oldAvg := 0, newAvg := 500000 }

/-- **Time put by is lost**: the throughput is twice what it was. -/
theorem throughput_carried :
    Run (fun _ _ => True) (ThroughputSys.step dctcpDefaults) throughputStart
        (execAll (ThroughputSys.step dctcpDefaults) twoTicks throughputStart).1
        (execAll (ThroughputSys.step dctcpDefaults) twoTicks throughputStart).2 ∧
      some twoTicksThroughput ∈
        (execAll (ThroughputSys.step dctcpDefaults) twoTicks throughputStart).1 ∧
      ¬ twoTicksThroughput.Measured := by
  refine ⟨Run.execAll twoTicks Run.nil, ?_, fun hm => ?_⟩
  · exact List.mem_cons_of_mem _ (List.mem_cons_of_mem _ (List.mem_cons_of_mem _
      List.mem_cons_self))
  · have hsample : (4000000 : Nat) = min 4294967295 (50000 * 8000 / 200) := hm.1
    omega

end Chamelio.Tcp
