import Mathlib.Logic.Function.Iterate
import Chamelio.Lib.Run
import Chamelio.Tcp.Cc
import Chamelio.Tcp.FastRx

/-!
# Congestion statistics under concurrency (`protos/tcp/slow/tcp_cc.c`)

The fast path counts acknowledgements, bytes, marks and drops in the socket
while the slow path samples them. `cc_stats_read` takes the difference to the
last snapshot, and `cc_stats_commit` takes the snapshot, from a second read of
the counter: what was counted in between is in the snapshot and in no sample.

`CcSys` is one socket with a tick that reads and writes memory one access at a
time, and the fast path counting at any moment. `stats_balance` is the exact
account in every reachable state: what was reported, what is on its way, what
was lost between the two reads and what is not sampled yet add up to the
counter. `stats_reported` draws the conclusion: every event is reported once
exactly when nothing was counted between the two reads of its counter.

Mirroring notes:
- A step of the slow path is one read of a counter, with the write to the
  sample or the snapshot; reads without interruption are `cc_stats_read` and
  `cc_stats_commit` (`ccSlowReads_whole`).
- The fast path's increments are steps of their own, by any amount.
- Between the commit and the end of the tick the controller runs; it reads and
  writes no counter.
-/

namespace Chamelio.Tcp

open Chamelio.Lib Chamelio.Pkt

/-- The counters, in the order they are read. -/
inductive CcCounter
  | drops
  | acks
  | ackb
  | ecnb
  deriving DecidableEq

def TcpSock.counter (sock : TcpSock) : CcCounter → UInt32
  | .drops => sock.ccDrops
  | .acks => sock.ccAcks
  | .ackb => sock.ccAckb
  | .ecnb => sock.ccEcnb

/-- The fast path counts `n` more. -/
def TcpSock.count (sock : TcpSock) (k : CcCounter) (n : UInt32) : TcpSock :=
  match k with
  | .drops => { sock with ccDrops := sock.ccDrops + n }
  | .acks => { sock with ccAcks := sock.ccAcks + n }
  | .ackb => { sock with ccAckb := sock.ccAckb + n }
  | .ecnb => { sock with ccEcnb := sock.ccEcnb + n }

/-- The snapshot of a counter. -/
def CcMeta.last (m : CcMeta) : CcCounter → UInt32
  | .drops => m.ccLastDrops
  | .acks => m.ccLastAcks
  | .ackb => m.ccLastAckb
  | .ecnb => m.ccLastEcnb

def CcMeta.setLast (m : CcMeta) (k : CcCounter) (v : UInt32) : CcMeta :=
  match k with
  | .drops => { m with ccLastDrops := v }
  | .acks => { m with ccLastAcks := v }
  | .ackb => { m with ccLastAckb := v }
  | .ecnb => { m with ccLastEcnb := v }

def CcStats.get (stats : CcStats) : CcCounter → UInt32
  | .drops => stats.drops
  | .acks => stats.acks
  | .ackb => stats.ackb
  | .ecnb => stats.ecnb

def CcStats.set (stats : CcStats) (k : CcCounter) (v : UInt32) : CcStats :=
  match k with
  | .drops => { stats with drops := v }
  | .acks => { stats with acks := v }
  | .ackb => { stats with ackb := v }
  | .ecnb => { stats with ecnb := v }

/-- The access a tick makes next. -/
inductive CcPc
  | read (k : CcCounter)
  | rtt
  | commit (k : CcCounter)
  | control
  deriving DecidableEq

/-- One socket with a tick under way. -/
structure CcSys where
  sock : TcpSock
  ccMeta : CcMeta
  pc : CcPc
  stats : CcStats
  /-- Sum of the samples handed to the controller. -/
  handed : CcCounter → UInt32
  /-- What was counted since the counter was read for the sample. -/
  between : CcCounter → UInt32
  /-- What was counted between the two reads of earlier ticks. -/
  lost : CcCounter → UInt32

/-- Where the counter `k` stands in a tick. -/
inductive CcPhase
  | unread
  | sampled
  | committed
  deriving DecidableEq

def CcCounter.rank : CcCounter → Nat
  | .drops => 0
  | .acks => 1
  | .ackb => 2
  | .ecnb => 3

/-- The phase of a counter before the access `pc`. -/
def CcPc.phase (pc : CcPc) (k : CcCounter) : CcPhase :=
  match pc with
  | .read j => if k.rank < j.rank then .sampled else .unread
  | .rtt => .sampled
  | .commit j => if k.rank < j.rank then .committed else .sampled
  | .control => .committed

inductive CcAct
  /-- The fast path counts. -/
  | count (k : CcCounter) (n : UInt32)
  /-- The next access of the tick; the arguments are those of its end. -/
  | slow (nowTsc : UInt64) (usSince : UInt64 → UInt64) (elapsedUs : UInt64) (sent : Bool)

def CcPc.next : CcPc → CcPc
  | .read .drops => .read .acks
  | .read .acks => .read .ackb
  | .read .ackb => .read .ecnb
  | .read .ecnb => .rtt
  | .rtt => .commit .drops
  | .commit .drops => .commit .acks
  | .commit .acks => .commit .ackb
  | .commit .ackb => .commit .ecnb
  | .commit .ecnb => .control
  | .control => .read .drops

/-- The access of a tick. -/
def CcSys.slow (cfg : TcpConfiguration) (s : CcSys) (nowTsc : UInt64)
    (usSince : UInt64 → UInt64) (elapsedUs : UInt64) (sent : Bool) : CcSys :=
  match s.pc with
  | .read k =>
    { s with
      stats := s.stats.set k (s.sock.counter k - s.ccMeta.last k)
      between := Function.update s.between k 0
      pc := s.pc.next }
  | .rtt =>
    let whole := ccStatsRead cfg s.sock s.ccMeta
    { s with
      stats := { s.stats with rtt := whole.rtt, txPending := whole.txPending }
      pc := s.pc.next }
  | .commit k =>
    { s with
      ccMeta := s.ccMeta.setLast k (s.sock.counter k)
      lost := Function.update s.lost k (s.lost k + s.between k)
      pc := s.pc.next }
  | .control =>
    let r := ccTickEnd cfg s.sock s.ccMeta s.stats nowTsc usSince elapsedUs sent
    { s with
      sock := r.1
      ccMeta := r.2
      handed := fun k => s.handed k + s.stats.get k
      pc := s.pc.next }

def CcSys.step (cfg : TcpConfiguration) (s : CcSys) : CcAct → CcSys × Unit
  | .count k n =>
    ({ s with
      sock := s.sock.count k n
      between := Function.update s.between k (s.between k + n) }, ())
  | .slow nowTsc usSince elapsedUs sent => (s.slow cfg nowTsc usSince elapsedUs sent, ())

/-- A socket behind `tcp_sock_cc_init`, with no tick under way. -/
def CcSys.init (cfg : TcpConfiguration) (sock : TcpSock) (nowTsc : UInt64) (stats : CcStats) :
    CcSys :=
  { sock := (sockCcInit cfg sock nowTsc).1
    ccMeta := (sockCcInit cfg sock nowTsc).2
    pc := .read .drops
    stats
    handed := fun _ => 0
    between := fun _ => 0
    lost := fun _ => 0 }

/-! ## The account of a counter -/

/-- The sample that was taken and is not handed over yet. -/
def CcSys.inHand (s : CcSys) (k : CcCounter) : UInt32 :=
  if s.pc.phase k = .committed then s.stats.get k else 0

/-- What no sample has yet. -/
def CcSys.unsampled (s : CcSys) (k : CcCounter) : UInt32 := s.sock.counter k - s.ccMeta.last k

/-- **Every event is in exactly one sample**, or still to be sampled. -/
def CcSys.Reported (s : CcSys) : Prop :=
  ∀ k, s.handed k + s.inHand k + s.unsampled k = s.sock.counter k

/-- What the tick knows of a counter: until the snapshot everything but the
lost is handed over, and a sample with what was counted since is the
difference to the snapshot. -/
structure CcBalance (s : CcSys) : Prop where
  handed : ∀ k, s.pc.phase k ≠ .committed → s.handed k + s.lost k = s.ccMeta.last k
  sampled : ∀ k, s.pc.phase k = .sampled →
    s.ccMeta.last k + s.stats.get k + s.between k = s.sock.counter k
  committed : ∀ k, s.pc.phase k = .committed →
    s.handed k + s.stats.get k + s.lost k = s.ccMeta.last k

/-! ## Reading and writing counters -/

theorem TcpSock.count_counter (sock : TcpSock) (k j : CcCounter) (n : UInt32) :
    (sock.count k n).counter j = if j = k then sock.counter k + n else sock.counter j := by
  cases k <;> cases j <;> rfl

theorem CcMeta.setLast_last (m : CcMeta) (k j : CcCounter) (v : UInt32) :
    (m.setLast k v).last j = if j = k then v else m.last j := by
  cases k <;> cases j <;> rfl

theorem CcStats.set_get (stats : CcStats) (k j : CcCounter) (v : UInt32) :
    (stats.set k v).get j = if j = k then v else stats.get j := by
  cases k <;> cases j <;> rfl

/-- **Reads without interruption** are `cc_stats_read` and
`cc_stats_commit`. -/
theorem ccSlowReads_whole (cfg : TcpConfiguration) {s : CcSys} (h : s.pc = .read .drops)
    (nowTsc : UInt64) (usSince : UInt64 → UInt64) (elapsedUs : UInt64) (sent : Bool) :
    let s' := Nat.iterate (fun s : CcSys => s.slow cfg nowTsc usSince elapsedUs sent) 9 s
    s'.pc = .control ∧ s'.stats = ccStatsRead cfg s.sock s.ccMeta ∧
      s'.ccMeta = ccStatsCommit s.sock s.ccMeta ∧ s'.sock = s.sock := by
  obtain ⟨sock, m, pc, stats, handed, between, lost⟩ := s
  subst h
  exact ⟨rfl, rfl, rfl, rfl⟩

/-- The end of a tick neither counts nor takes a snapshot. -/
theorem ccTickEnd_counters (cfg : TcpConfiguration) (sock : TcpSock) (m : CcMeta)
    (stats : CcStats) (nowTsc : UInt64) (usSince : UInt64 → UInt64) (elapsedUs : UInt64)
    (sent : Bool) (k : CcCounter) :
    (ccTickEnd cfg sock m stats nowTsc usSince elapsedUs sent).1.counter k = sock.counter k ∧
      (ccTickEnd cfg sock m stats nowTsc usSince elapsedUs sent).2.last k = m.last k := by
  have htick : (sockOnCcTick cfg sock m stats elapsedUs).1.counter k = sock.counter k ∧
      (sockOnCcTick cfg sock m stats elapsedUs).2.last k = m.last k := by
    unfold sockOnCcTick
    split
    next => cases k <;> exact ⟨rfl, rfl⟩
    next =>
      unfold sockOnDctcpTick
      dsimp only
      split
      next => cases k <;> exact ⟨rfl, rfl⟩
      next => cases k <;> exact ⟨rfl, rfl⟩
    next => cases k <;> exact ⟨rfl, rfl⟩
  have hstall : ∀ m' : CcMeta,
      (sockOnTxStall cfg m' stats nowTsc usSince sent).last k = m'.last k := by
    intro m'
    obtain ⟨cnt, ts, rexmits, heq⟩ := sockOnTxStall_frame cfg m' stats nowTsc usSince sent
    rw [heq]
    cases k <;> rfl
  refine ⟨htick.1, ?_⟩
  have hlast := (hstall (sockOnCcTick cfg sock m stats elapsedUs).2).trans htick.2
  cases k <;> exact hlast

/-! ## The phases -/

/-- Reading a counter moves it, and no other, to the next phase. -/
theorem CcPc.phase_read (k j : CcCounter) :
    (CcPc.read k).next.phase j = if j = k then .sampled else (CcPc.read k).phase j := by
  cases k <;> cases j <;> rfl

theorem CcPc.phase_commit (k j : CcCounter) :
    (CcPc.commit k).next.phase j = if j = k then .committed else (CcPc.commit k).phase j := by
  cases k <;> cases j <;> rfl

theorem CcPc.phase_rtt (j : CcCounter) : CcPc.rtt.next.phase j = CcPc.rtt.phase j := by
  cases j <;> rfl

theorem CcPc.phase_control (j : CcCounter) : CcPc.control.next.phase j = .unread := by
  cases j <;> rfl

theorem CcPc.phase_read_self (k : CcCounter) : (CcPc.read k).phase k = .unread := by
  cases k <;> rfl

theorem CcPc.phase_commit_self (k : CcCounter) : (CcPc.commit k).phase k = .sampled := by
  cases k <;> rfl

/-! ## The account over runs -/

theorem CcSys.init_balance (cfg : TcpConfiguration) (sock : TcpSock) (nowTsc : UInt64)
    (stats : CcStats) : CcBalance (.init cfg sock nowTsc stats) := by
  have hphase : ∀ k, (CcSys.init cfg sock nowTsc stats).pc.phase k = .unread := by
    intro k
    cases k <;> rfl
  refine ⟨fun k _ => ?_, fun k hk => ?_, fun k hk => ?_⟩
  · show (0 : UInt32) + 0 = (sockCcInit cfg sock nowTsc).2.last k
    unfold sockCcInit ccInitRateMeta
    cases cfg.ccAlgorithm <;> cases k <;> rfl
  · rw [hphase] at hk
    cases hk
  · rw [hphase] at hk
    cases hk

/-- **The fast path counts**: what was counted since the read grows with the
counter. -/
theorem CcBalance.count {s : CcSys} (h : CcBalance s) (k : CcCounter) (n : UInt32) :
    CcBalance { s with
      sock := s.sock.count k n
      between := Function.update s.between k (s.between k + n) } := by
  refine ⟨h.handed, fun j hj => ?_, h.committed⟩
  have hsampled := h.sampled j hj
  dsimp only
  rw [s.sock.count_counter]
  by_cases hjk : j = k
  · subst hjk
    rw [if_pos rfl, Function.update_self, ← hsampled]
    grind
  · rw [if_neg hjk, Function.update_of_ne hjk]
    exact hsampled

/-- **The first read** of a counter takes a sample of everything behind the
snapshot. -/
theorem CcBalance.read {s : CcSys} (h : CcBalance s) {k : CcCounter} (hpc : s.pc = .read k) :
    CcBalance { s with
      stats := s.stats.set k (s.sock.counter k - s.ccMeta.last k)
      between := Function.update s.between k 0
      pc := s.pc.next } := by
  have hphase : ∀ j, s.pc.next.phase j = if j = k then .sampled else s.pc.phase j := by
    intro j
    rw [hpc]
    exact CcPc.phase_read k j
  refine ⟨fun j hj => h.handed j ?_, fun j hj => ?_, fun j hj => ?_⟩
  · dsimp only at hj
    rw [hphase] at hj
    by_cases hjk : j = k
    · rw [hjk, hpc, CcPc.phase_read_self]
      nofun
    · rwa [if_neg hjk] at hj
  · dsimp only at hj ⊢
    rw [hphase] at hj
    rw [s.stats.set_get]
    by_cases hjk : j = k
    · subst hjk
      rw [if_pos rfl, Function.update_self]
      grind
    · rw [if_neg hjk] at hj
      rw [if_neg hjk, Function.update_of_ne hjk]
      exact h.sampled j hj
  · dsimp only at hj ⊢
    rw [hphase] at hj
    by_cases hjk : j = k
    · rw [if_pos hjk] at hj
      cases hj
    · rw [if_neg hjk] at hj
      rw [s.stats.set_get, if_neg hjk]
      exact h.committed j hj

/-- **The second read** takes the snapshot: what was counted since the first
one is in it, and lost. -/
theorem CcBalance.commit {s : CcSys} (h : CcBalance s) {k : CcCounter} (hpc : s.pc = .commit k) :
    CcBalance { s with
      ccMeta := s.ccMeta.setLast k (s.sock.counter k)
      lost := Function.update s.lost k (s.lost k + s.between k)
      pc := s.pc.next } := by
  have hphase : ∀ j, s.pc.next.phase j = if j = k then .committed else s.pc.phase j := by
    intro j
    rw [hpc]
    exact CcPc.phase_commit k j
  have hself : s.pc.phase k = .sampled := by
    rw [hpc]
    exact CcPc.phase_commit_self k
  refine ⟨fun j hj => ?_, fun j hj => ?_, fun j hj => ?_⟩
  · dsimp only at hj ⊢
    rw [hphase] at hj
    by_cases hjk : j = k
    · rw [if_pos hjk] at hj
      exact absurd rfl hj
    · rw [if_neg hjk] at hj
      rw [s.ccMeta.setLast_last, if_neg hjk, Function.update_of_ne hjk]
      exact h.handed j hj
  · dsimp only at hj ⊢
    rw [hphase] at hj
    by_cases hjk : j = k
    · rw [if_pos hjk] at hj
      cases hj
    · rw [if_neg hjk] at hj
      rw [s.ccMeta.setLast_last, if_neg hjk]
      exact h.sampled j hj
  · dsimp only at hj ⊢
    rw [hphase] at hj
    rw [s.ccMeta.setLast_last]
    by_cases hjk : j = k
    · -- what came since the first read goes from the counter into `lost`
      subst hjk
      have hhanded := h.handed j (by
        rw [hself]
        nofun)
      have hsampled := h.sampled j hself
      rw [if_pos rfl, Function.update_self]
      grind
    · rw [if_neg hjk] at hj
      rw [if_neg hjk, Function.update_of_ne hjk]
      exact h.committed j hj

/-- **One step** keeps the account. -/
theorem CcBalance.step {s : CcSys} (h : CcBalance s) (cfg : TcpConfiguration) (act : CcAct) :
    CcBalance (s.step cfg act).1 := by
  cases act with
  | count k n => exact h.count k n
  | slow nowTsc usSince elapsedUs sent =>
    show CcBalance (s.slow cfg nowTsc usSince elapsedUs sent)
    unfold CcSys.slow
    split
    next k hpc => exact h.read hpc
    next hpc =>
      -- `cc_rtt` is no counter
      have hphase : ∀ j, s.pc.next.phase j = s.pc.phase j := by
        intro j
        rw [hpc]
        exact CcPc.phase_rtt j
      refine ⟨fun j hj => h.handed j (hphase j ▸ hj), fun j hj => ?_, fun j hj => ?_⟩
      · have hsampled := h.sampled j (hphase j ▸ hj)
        cases j <;> exact hsampled
      · have hcommitted := h.committed j (hphase j ▸ hj)
        cases j <;> exact hcommitted
    next k hpc => exact h.commit hpc
    next hpc =>
      -- the sample is handed over, and the next tick begins
      have hphase : ∀ j, s.pc.next.phase j = .unread := by
        intro j
        rw [hpc]
        exact CcPc.phase_control j
      have hold : ∀ j, s.pc.phase j = .committed := by
        intro j
        rw [hpc]
        rfl
      refine ⟨fun j _ => ?_, fun j hj => ?_, fun j hj => ?_⟩
      · dsimp only
        rw [(ccTickEnd_counters ..).2]
        exact h.committed j (hold j)
      · exact absurd ((hphase j).symm.trans hj) nofun
      · exact absurd ((hphase j).symm.trans hj) nofun

/-- **The account of a counter**: handed over, in hand, lost between two reads
and not sampled yet. -/
theorem CcBalance.sum {s : CcSys} (h : CcBalance s) (k : CcCounter) :
    s.handed k + s.inHand k + s.lost k + s.unsampled k = s.sock.counter k := by
  unfold CcSys.inHand CcSys.unsampled
  by_cases hk : s.pc.phase k = .committed
  · have hcommitted := h.committed k hk
    rw [if_pos hk]
    grind
  · have hhanded := h.handed k hk
    rw [if_neg hk]
    grind

theorem CcBalance.reported_iff {s : CcSys} (h : CcBalance s) :
    s.Reported ↔ ∀ k, s.lost k = 0 := by
  constructor
  · intro hrep k
    have hsum := h.sum k
    have hk := hrep k
    grind
  · intro hlost k
    have hsum := h.sum k
    rw [hlost k] at hsum
    grind

/-- Nothing is counted between the two reads of its counter. -/
def ReadsQuiet (s : CcSys) : CcAct → Prop
  | .count k n => s.pc.phase k = .sampled → n = 0
  | .slow _ _ _ _ => True

/-- In a run without counting between reads, nothing has been lost and nothing
is about to be. -/
structure CcQuiet (s : CcSys) : Prop where
  lost : ∀ k, s.lost k = 0
  between : ∀ k, s.pc.phase k = .sampled → s.between k = 0

theorem CcQuiet.step {s : CcSys} (h : CcQuiet s) (cfg : TcpConfiguration) {act : CcAct}
    (hok : ReadsQuiet s act) : CcQuiet (s.step cfg act).1 := by
  cases act with
  | count k n =>
    refine ⟨h.lost, fun j hj => ?_⟩
    show Function.update s.between k (s.between k + n) j = 0
    -- between its reads the counter is not counted, by the condition
    by_cases hjk : j = k
    · subst hjk
      rw [Function.update_self, h.between j hj, hok hj, UInt32.add_zero]
    · rw [Function.update_of_ne hjk]
      exact h.between j hj
  | slow nowTsc usSince elapsedUs sent =>
    show CcQuiet (s.slow cfg nowTsc usSince elapsedUs sent)
    unfold CcSys.slow
    split
    next k hpc =>
      refine ⟨h.lost, fun j hj => ?_⟩
      dsimp only at hj ⊢
      by_cases hjk : j = k
      · rw [hjk, Function.update_self]
      · rw [Function.update_of_ne hjk]
        rw [hpc, CcPc.phase_read, if_neg hjk, ← hpc] at hj
        exact h.between j hj
    next hpc =>
      refine ⟨h.lost, fun j hj => h.between j ?_⟩
      dsimp only at hj
      rwa [hpc, CcPc.phase_rtt, ← hpc] at hj
    next k hpc =>
      refine ⟨fun j => ?_, fun j hj => ?_⟩
      · dsimp only
        by_cases hjk : j = k
        · rw [hjk, Function.update_self, h.lost k, h.between k (by
            rw [hpc]
            exact CcPc.phase_commit_self k), UInt32.add_zero]
        · rw [Function.update_of_ne hjk]
          exact h.lost j
      · dsimp only at hj
        rw [hpc, CcPc.phase_commit] at hj
        by_cases hjk : j = k
        · rw [if_pos hjk] at hj
          cases hj
        · rw [if_neg hjk, ← hpc] at hj
          exact h.between j hj
    next hpc =>
      refine ⟨h.lost, fun j hj => ?_⟩
      dsimp only at hj
      rw [hpc, CcPc.phase_control] at hj
      cases hj

/-- The states of a socket since `tcp_sock_cc_init`, with steps that satisfy
`ok`. -/
def CcRun (ok : CcSys → CcAct → Prop) (cfg : TcpConfiguration) (sock : TcpSock)
    (nowTsc : UInt64) (stats : CcStats) (s : CcSys) : Prop :=
  ∃ log, Run ok (CcSys.step cfg) (.init cfg sock nowTsc stats) log s

theorem CcRun.balance {ok : CcSys → CcAct → Prop} {cfg : TcpConfiguration} {sock : TcpSock}
    {nowTsc : UInt64} {stats : CcStats} {s : CcSys} (h : CcRun ok cfg sock nowTsc stats s) :
    CcBalance s := by
  obtain ⟨log, hr⟩ := h
  exact Run.inv (I := fun _ s => CcBalance s) (CcSys.init_balance cfg sock nowTsc stats)
    (fun _ _ act h _ => h.step cfg act) hr

theorem CcRun.quiet {cfg : TcpConfiguration} {sock : TcpSock} {nowTsc : UInt64}
    {stats : CcStats} {s : CcSys} (h : CcRun ReadsQuiet cfg sock nowTsc stats s) :
    CcQuiet s := by
  obtain ⟨log, hr⟩ := h
  exact Run.inv (I := fun _ s => CcQuiet s) ⟨fun _ => rfl, fun _ _ => rfl⟩
    (fun _ _ _ h hok => h.step cfg hok) hr

/-- **When the statistics lose no event**, over every interleaving: in each
state reached exactly when what was counted between the two reads adds up to
0, and always when nothing is counted there. The nine reads of a tick, without
interruption, are `cc_stats_read` and `cc_stats_commit`. -/
theorem stats_reported (cfg : TcpConfiguration) (sock : TcpSock) (nowTsc : UInt64)
    (stats : CcStats) (s : CcSys) :
    (CcRun (fun _ _ => True) cfg sock nowTsc stats s → (s.Reported ↔ ∀ k, s.lost k = 0)) ∧
      (CcRun ReadsQuiet cfg sock nowTsc stats s → s.Reported) ∧
      (s.pc = .read .drops → ∀ (usSince : UInt64 → UInt64) (elapsedUs : UInt64) (sent : Bool),
        let s' := Nat.iterate (fun s : CcSys => s.slow cfg nowTsc usSince elapsedUs sent) 9 s
        s'.pc = .control ∧ s'.stats = ccStatsRead cfg s.sock s.ccMeta ∧
          s'.ccMeta = ccStatsCommit s.sock s.ccMeta ∧ s'.sock = s.sock) := by
  refine ⟨?_, ?_, ?_⟩
  · intro h
    exact h.balance.reported_iff
  · intro h
    exact h.balance.reported_iff.mpr h.quiet.lost
  · intro h usSince elapsedUs sent
    exact ccSlowReads_whole cfg h nowTsc usSince elapsedUs sent

/-! ## One tick -/

/-- The next access of a tick. -/
def ccAccess : CcAct := .slow 1100 (fun t => 1100 - t) 100 true

/-- Five bytes are acknowledged, and then sampled. -/
def countThenTick : List CcAct := .count .ackb 5 :: List.replicate 10 ccAccess

/-- Five bytes are acknowledged when `cc_ackb` was just read. -/
def countInTick : List CcAct :=
  List.replicate 3 ccAccess ++ .count .ackb 5 :: List.replicate 7 ccAccess

def ccStart : CcSys :=
  .init configDefaults TcpSock.zero 1000
    { drops := 0, acks := 0, ackb := 0, ecnb := 0, rtt := 0, txPending := false }

theorem stats_reported_tick :
    (execAll (CcSys.step configDefaults) countThenTick ccStart).2.Reported ∧
      (execAll (CcSys.step configDefaults) countThenTick ccStart).2.handed .ackb = 5 := by
  have hrun : CcRun (fun _ _ => True) configDefaults TcpSock.zero 1000
      { drops := 0, acks := 0, ackb := 0, ecnb := 0, rtt := 0, txPending := false }
      (execAll (CcSys.step configDefaults) countThenTick ccStart).2 :=
    ⟨_, Run.execAll countThenTick Run.nil⟩
  refine ⟨((stats_reported configDefaults TcpSock.zero 1000 _ _).1 hrun).mpr fun k => ?_, rfl⟩
  cases k <;> rfl

/-- **Five bytes in no sample**: the tick is over, the snapshot has them, and
the controller was told of none. -/
theorem stats_not_reported :
    CcRun (fun _ _ => True) configDefaults TcpSock.zero 1000
        { drops := 0, acks := 0, ackb := 0, ecnb := 0, rtt := 0, txPending := false }
        (execAll (CcSys.step configDefaults) countInTick ccStart).2 ∧
      ¬ (execAll (CcSys.step configDefaults) countInTick ccStart).2.Reported := by
  refine ⟨⟨_, Run.execAll countInTick Run.nil⟩, fun hrep => ?_⟩
  have hackb := hrep .ackb
  change (0 : UInt32) + 0 + (5 - 5) = 5 at hackb
  exact absurd hackb (by decide)

end Chamelio.Tcp
