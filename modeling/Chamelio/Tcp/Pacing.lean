import Mathlib.Algebra.Order.Floor.Div
import Mathlib.Data.List.Chain
import Chamelio.Tcp.SchedTimes

/-!
# Pacing

A socket with a rate (`cc_rate`, in kilobits per second) keeps its data
packets apart: behind a packet of `L` bytes `tcp_event_sched` moves
`tx_ready_tsc` on by the cycles `L` bytes take at that rate, and the next
packet leaves only once an entry of the socket is due. What carries this is
one line about the list: no entry of the socket is due before its
`tx_ready_tsc`. Bumps, acknowledgements and the scheduler event itself move
the entry to a new time, each from a clock reading of its own, and all of
them through `tx_sched_tsc`; a rewind does not, and is left out of the runs
below.

The clock plays no other part. A packet leaves when its entry is due, that
is at a reading no smaller than the entry's time, so readings may even go
back between events.

Two things stand in the way of the plain statement. All of this is 64-bit
arithmetic and wraps around: a packet near the end of the clock's range puts
`tx_ready_tsc` back to its beginning. And an entry of a queue is taken at its
word: `deq_handle_bump_tx` schedules under the `id` field of the slot it
names, which is zero in a slot no socket was ever put in.

Mirroring notes:
- A run is one core's: its events, and between them whatever the slow path
  writes into the socket map, as long as it leaves the socket's identity and
  pacing alone (`SlowKeeps`).
- `DataPacket.tsc` is the reading `tcp_event_sched` compares the entry with.
-/

namespace Chamelio.Tcp

open Chamelio.Lib Chamelio.Util Chamelio.Pkt Chamelio.Fast

/-! ## Delays -/

/-- The cycles `len` bytes take at `rate` kbps, with `cycles` to the
microsecond. -/
def delayCycles (cycles rate len : Nat) : Nat := (len * 8 * 1000 * cycles) ⌈/⌉ rate

/-- The second packet leaves no sooner than the first one's delay allows. -/
def Spaced (cycles rate : Nat) (d₁ d₂ : DataPacket) : Prop :=
  d₁.tsc.toNat + delayCycles cycles rate d₁.len ≤ d₂.tsc.toNat

/-- Neither the delay of the packet nor the time it ends at wraps around. -/
def NoWrap (cycles rate : Nat) (d : DataPacket) : Prop :=
  d.len * 8 * 1000 * cycles + rate ≤ 18446744073709551616 ∧
    d.tsc.toNat + delayCycles cycles rate d.len < 18446744073709551616

/-- `rate_delay_tsc` is the delay, rounded up. -/
theorem toNat_rateDelayTsc (clk : Clock) (bytes : UInt32) {rate : UInt32} (hr : rate ≠ 0)
    (hfit : bytes.toNat * 8 * 1000 * clk.cyclesPerUs.toNat + rate.toNat ≤
      18446744073709551616) :
    (rateDelayTsc clk bytes rate).toNat =
      delayCycles clk.cyclesPerUs.toNat rate.toNat bytes.toNat := by
  have hpos : 0 < rate.toNat := Nat.pos_of_ne_zero fun h => hr ((u32_eq_zero_iff rate).mpr h)
  unfold rateDelayTsc delayCycles
  by_cases hb : bytes = 0
  · rw [if_pos (Or.inl hb), hb]
    simp
  · rw [if_neg (by simp [hb, hr])]
    by_cases hc : clk.cyclesPerUs = 0
    · rw [if_pos hc, hc]
      simp
    · rw [if_neg hc]
      dsimp only
      have hnr : (bytes.toUInt64 * 8 * 1000 * clk.cyclesPerUs).toNat =
          bytes.toNat * 8 * 1000 * clk.cyclesPerUs.toNat := by
        have h8 : (8 : UInt64).toNat = 8 := rfl
        have h1000 : (1000 : UInt64).toNat = 1000 := rfl
        simp only [UInt64.toNat_mul, UInt32.toNat_toUInt64, Nat.mod_mul_mod, h8, h1000]
        exact Nat.mod_eq_of_lt (by omega)
      generalize bytes.toUInt64 * 8 * 1000 * clk.cyclesPerUs = nr at hnr ⊢
      generalize bytes.toNat * 8 * 1000 * clk.cyclesPerUs.toNat = n at hnr hfit ⊢
      have hsum : (nr + rate.toUInt64 - 1).toNat = n + rate.toNat - 1 := by
        have h1 : (1 : UInt64).toNat = 1 := rfl
        rw [UInt64.toNat_sub, UInt64.toNat_add, UInt32.toNat_toUInt64, hnr, h1]
        omega
      rw [UInt64.toNat_div, UInt32.toNat_toUInt64, hsum, Nat.ceilDiv_eq_add_pred_div]

/-! ## Runs of one core -/

/-- An event of the core, or a write of the slow path to the socket map. -/
inductive PaceAct
  | fast (ev : FastEv)
  | slow (maps : TcpMaps)

def paceStep (ctx : TcpCtx) : PaceAct → TcpCtx × Option DataPacket
  | .fast (.sched e) => ((fastStep ctx (.sched e)).1, schedData (evCtx ctx e))
  | .fast ev => ((fastStep ctx ev).1, none)
  | .slow maps => ({ ctx with maps }, none)

/-- The data packets of socket `sid`, in the order they left. -/
def dataPackets (sid : Nat) (log : List (Option DataPacket)) : List DataPacket :=
  log.filterMap fun o => o.filter fun d => d.sock == sid

/-- Slot `i` of the socket map carries its index: a socket was put there. -/
def OwnId (ctx : TcpCtx) (i : Nat) : Prop := (sockOf ctx i).id.toNat = i

/-- The socket a queue entry schedules. -/
def qeScheduled : TcpQe → Option UInt32
  | .bumpChamTx sockId _ _ _ => some sockId
  | .txRetransmit sockId _ _ => some sockId
  | _ => none

/-- An entry of a queue that schedules names a socket. -/
def NamesSock (ctx : TcpCtx) : FastEv → Prop
  | .deq _ qe _ => ∀ sockId, qeScheduled qe = some sockId →
    sockId.toNat < ctx.maps.sockNelems → OwnId ctx sockId.toNat
  | _ => True

/-- The socket the event rewinds, if it does. -/
def remits (ctx : TcpCtx) : FastEv → Option Nat
  | .rx e => rxRemits (evCtx ctx e)
  | .deq e qe qeOff => deqRemits { evCtx ctx e with qe, qeOff }
  | .sched _ => none

/-- The slow path may write what it likes, but it puts sockets under their
own index and leaves identity, rate and `tx_ready_tsc` of `sid` alone. -/
structure SlowKeeps (ctx : TcpCtx) (maps : TcpMaps) (sid : Nat) : Prop where
  nelems : maps.sockNelems = ctx.maps.sockNelems
  own : ∀ i, OwnId ctx i → (maps.socks i).id.toNat = i
  opened : ∀ i, i < maps.sockNelems → (maps.socks i).state ≠ .closed →
    (maps.socks i).id.toNat = i
  rate : (maps.socks sid).ccRate = (sockOf ctx sid).ccRate
  ready : (maps.socks sid).txReadyTsc = (sockOf ctx sid).txReadyTsc

/-- The steps of a run in which `sid` is not rewound. -/
def PaceOk (sid : Nat) (ctx : TcpCtx) : PaceAct → Prop
  | .fast ev => NamesSock ctx ev ∧ remits ctx ev ≠ some sid
  | .slow maps => SlowKeeps ctx maps sid

/-- An entry belongs to a socket, and one of `sid` is not due before its
`tx_ready_tsc`. -/
def DueAfter (ctx : TcpCtx) (sid : Nat) (x : UInt32) (prio : UInt64) : Prop :=
  OwnId ctx x.toNat ∧ (x.toNat = sid → (sockOf ctx sid).txReadyTsc ≤ prio)

/-- Where a run starts: sockets lie under their index, and no entry of `sid`
is due too early — as when the slow path has just put it there and
`tx_ready_tsc` is zero. -/
structure PaceInit (ctx : TcpCtx) (sid : Nat) : Prop where
  bound : ctx.maps.sockNelems ≤ maxSchedEntries
  own : OwnId ctx sid
  opened : ∀ i, i < ctx.maps.sockNelems → (sockOf ctx i).state ≠ .closed → OwnId ctx i
  entries : EntriesAll (DueAfter ctx sid) ctx.sched

/-- **The invariant**, after the packets `sent`: besides what a run starts
with, the packets are spaced and `tx_ready_tsc` is the end of the last one's
delay. -/
structure PaceInv (cycles : UInt64) (rate : UInt32) (sid : Nat) (sent : List DataPacket)
    (ctx : TcpCtx) : Prop extends PaceInit ctx sid where
  cyclesEq : ctx.clk.cyclesPerUs = cycles
  rateEq : (sockOf ctx sid).ccRate = rate
  spaced : sent.IsChain fun d₁ d₂ =>
    NoWrap cycles.toNat rate.toNat d₁ → Spaced cycles.toNat rate.toNat d₁ d₂
  last : ∀ d ∈ sent.getLast?, NoWrap cycles.toNat rate.toNat d →
    (sockOf ctx sid).txReadyTsc.toNat = d.tsc.toNat + delayCycles cycles.toNat rate.toNat d.len

section run

variable {ctx ctx' : TcpCtx} {sid : Nat} {cycles : UInt64} {rate : UInt32}
  {sent : List DataPacket}

/-! ## One step -/

/-- The entry of any socket may be added at a time `tx_sched_tsc` answers. -/
theorem PaceInv.pacedAdd (h : PaceInv cycles rate sid sent ctx) (hr : rate ≠ 0) {j : Nat}
    (hj : j < ctx.maps.sockNelems) (hown : OwnId ctx j) :
    PacedAdd (DueAfter ctx sid) (sockOf ctx j).pace := by
  have hid : (sockOf ctx j).pace.id.toNat = j := hown
  have hb := h.bound
  refine ⟨by omega, fun prio hprio => ⟨?_, fun he => ?_⟩⟩
  · rw [hid]
    exact hown
  · rw [hid] at he
    subst he
    exact hprio (by rw [← h.rateEq] at hr; exact hr)

/-- The entry of another socket may be added at any time. -/
theorem PaceInit.freeAdd (h : PaceInit ctx sid) {j : Nat} (hj : j < ctx.maps.sockNelems)
    (hown : OwnId ctx j) (hne : j ≠ sid) : FreeAdd (DueAfter ctx sid) (sockOf ctx j).pace := by
  have hid : (sockOf ctx j).pace.id.toNat = j := hown
  have hb := h.bound
  refine ⟨by omega, fun prio => ⟨?_, fun he => ?_⟩⟩
  · rw [hid]
    exact hown
  · rw [hid] at he
    exact absurd he hne

/-- A step that sends nothing for `sid` and changes nobody's pacing. -/
theorem PaceInv.same (h : PaceInv cycles rate sid sent ctx) (hs : SamePace ctx ctx')
    (he : EntriesAll (DueAfter ctx sid) ctx'.sched) : PaceInv cycles rate sid sent ctx' where
  bound := by
    rw [hs.nelems]
    exact h.bound
  own := by
    unfold OwnId
    rw [hs.id]
    exact h.own
  opened := by
    intro i hi hst
    unfold OwnId
    rw [hs.nelems] at hi
    rw [hs.state] at hst
    rw [hs.id]
    exact h.opened i hi hst
  entries := by
    refine he.mono ?_
    intro x prio _ hx
    unfold DueAfter OwnId
    rw [hs.id, hs.ready]
    exact hx
  cyclesEq := hs.cycles.trans h.cyclesEq
  rateEq := (hs.rate sid).trans h.rateEq
  spaced := h.spaced
  last := by
    rw [hs.ready]
    exact h.last

theorem samePace_evCtx (ctx : TcpCtx) (e : EvIn) : SamePace ctx (evCtx ctx e) :=
  samePace_of_maps rfl rfl

theorem PaceInv.rx (h : PaceInv cycles rate sid sent ctx) (hr : rate ≠ 0) {e : EvIn}
    (hre : remits ctx (.rx e) ≠ some sid) :
    PaceInv cycles rate sid sent (fastStep ctx (.rx e)).1 := by
  refine h.same ((samePace_evCtx ctx e).trans (samePace_tcpEventRx _)) ?_
  have hown : ∀ j, sockFind (evCtx ctx e) = some j →
      (sockOf (evCtx ctx e) j).state = .established →
      j < ctx.maps.sockNelems ∧ OwnId ctx j := by
    intro j hf hst
    have hlt : j < (evCtx ctx e).maps.sockNelems := sockFind_lt hf
    have hst' : (sockOf ctx j).state = .established := hst
    exact ⟨hlt, h.opened j hlt (by rw [hst']; simp)⟩
  refine @entriesAll_tcpEventRx _ (evCtx ctx e) h.entries ?_ ?_
  · intro j hf hst
    obtain ⟨hlt, ho⟩ := hown j hf hst
    exact h.pacedAdd hr hlt ho
  · intro j hj
    obtain ⟨hf, hst⟩ := rxRemits_some hj
    obtain ⟨hlt, ho⟩ := hown j hf hst
    refine h.freeAdd hlt ho ?_
    intro heq
    rw [heq] at hj
    exact hre hj

theorem PaceInv.deq (h : PaceInv cycles rate sid sent ctx) (hr : rate ≠ 0) {e : EvIn} {qe : TcpQe}
    {qeOff : Nat} (hn : NamesSock ctx (.deq e qe qeOff))
    (hre : remits ctx (.deq e qe qeOff) ≠ some sid) :
    PaceInv cycles rate sid sent (fastStep ctx (.deq e qe qeOff)).1 := by
  have hin : SamePace ctx { evCtx ctx e with qe, qeOff } := samePace_of_maps rfl rfl
  refine h.same (hin.trans (samePace_tcpEventDeq _)) ?_
  refine @entriesAll_tcpEventDeq _ { evCtx ctx e with qe, qeOff } h.entries ?_ ?_
  · intro sockId txPort txIp txAvail hqe hlt
    have hqe' : qe = .bumpChamTx sockId txPort txIp txAvail := hqe
    exact h.pacedAdd hr hlt (hn sockId (by rw [hqe']; rfl) hlt)
  · intro j hj
    obtain ⟨sockId, txSeq, txPending, hqe, rfl, hlt, -⟩ := deqRemits_some hj
    have hqe' : qe = .txRetransmit sockId txSeq txPending := hqe
    refine h.freeAdd hlt (hn sockId (by rw [hqe']; rfl) hlt) ?_
    intro heq
    rw [heq] at hj
    exact hre hj

theorem PaceInv.slow (h : PaceInv cycles rate sid sent ctx) {maps : TcpMaps}
    (hk : SlowKeeps ctx maps sid) : PaceInv cycles rate sid sent { ctx with maps } where
  bound := by
    show maps.sockNelems ≤ _
    rw [hk.nelems]
    exact h.bound
  own := hk.own sid h.own
  opened := hk.opened
  entries := by
    refine h.entries.mono ?_
    intro x prio _ hx
    refine ⟨hk.own _ hx.1, fun he => ?_⟩
    show (maps.socks sid).txReadyTsc ≤ prio
    rw [hk.ready]
    exact hx.2 he
  cyclesEq := h.cyclesEq
  rateEq := hk.rate.trans h.rateEq
  spaced := h.spaced
  last := by
    intro d hd hw
    show (maps.socks sid).txReadyTsc.toNat = _
    rw [hk.ready]
    exact h.last d hd hw

/-- The log without the packets of other sockets. -/
theorem dataPackets_none (sid : Nat) (log : List (Option DataPacket)) :
    dataPackets sid (log ++ [none]) = dataPackets sid log := by
  simp [dataPackets]

theorem dataPackets_some (log : List (Option DataPacket)) (d : DataPacket) :
    dataPackets sid (log ++ [some d]) =
      if d.sock = sid then dataPackets sid log ++ [d] else dataPackets sid log := by
  unfold dataPackets
  by_cases hd : d.sock = sid
  · simp [Option.filter, hd]
  · simp [hd]

/-- What a run starts with outlives a packet of any socket. -/
theorem PaceInit.readyAt (h : PaceInit ctx sid) {j : Nat} {ready : UInt64}
    (hat : ReadyAt ctx ctx' j ready) (he : EntriesAll (DueAfter ctx' sid) ctx'.sched) :
    PaceInit ctx' sid where
  bound := by
    rw [hat.nelems]
    exact h.bound
  own := by
    unfold OwnId
    rw [(hat.same_but sid).1]
    exact h.own
  opened := by
    intro i hi hst
    rw [hat.nelems] at hi
    rw [(hat.same_but i).2.1] at hst
    unfold OwnId
    rw [(hat.same_but i).1]
    exact h.opened i hi hst
  entries := he

/-- A packet of another socket. -/
theorem PaceInv.other (h : PaceInv cycles rate sid sent ctx) {j : Nat} {ready : UInt64}
    (hne : sid ≠ j) (hat : ReadyAt ctx ctx' j ready)
    (he : EntriesAll (DueAfter ctx' sid) ctx'.sched) : PaceInv cycles rate sid sent ctx' := by
  have hready : (sockOf ctx' sid).txReadyTsc = (sockOf ctx sid).txReadyTsc :=
    (congrArg PaceFields.ready (hat.others sid hne) :)
  refine ⟨h.toPaceInit.readyAt hat he, hat.cycles.trans h.cyclesEq, ?_, h.spaced, ?_⟩
  · rw [(hat.same_but sid).2.2]
    exact h.rateEq
  · rw [hready]
    exact h.last

/-- A packet of `sid`: its entry was due, so the delay of the packet before
is over. -/
theorem PaceInv.own_packet (h : PaceInv cycles rate sid sent ctx) (hr : rate ≠ 0)
    {d : DataPacket} {ready : UInt64} (hlen : d.len ≤ 1500)
    (hready : ready = nextReady ctx.clk (sockOf ctx sid).ccRate (UInt32.ofNat d.len) d.tsc)
    (hdue : (sockOf ctx sid).txReadyTsc ≤ d.tsc) (hat : ReadyAt ctx ctx' sid ready)
    (he : EntriesAll (DueAfter ctx' sid) ctx'.sched) :
    PaceInv cycles rate sid (sent ++ [d]) ctx' := by
  have hready' : (sockOf ctx' sid).txReadyTsc = ready := (congrArg PaceFields.ready hat.self :)
  refine ⟨h.toPaceInit.readyAt hat he, hat.cycles.trans h.cyclesEq, ?_, ?_, ?_⟩
  · rw [(hat.same_but sid).2.2]
    exact h.rateEq
  · refine List.isChain_append.mpr ⟨h.spaced, List.isChain_singleton d, ?_⟩
    intro d₀ hd₀ d₁ hd₁ hw
    obtain rfl : d = d₁ := by simpa using hd₁
    unfold Spaced
    rw [← h.last d₀ hd₀ hw]
    exact UInt64.le_iff_toNat_le.mp hdue
  · intro d₁ hd₁ hw
    obtain rfl : d = d₁ := by simpa using hd₁
    obtain ⟨hfit, hend⟩ := hw
    have hlen' : (UInt32.ofNat d.len).toNat = d.len := by
      rw [UInt32.toNat_ofNat']
      omega
    have hdelay := toNat_rateDelayTsc ctx.clk (UInt32.ofNat d.len) hr
      (by rw [hlen', h.cyclesEq]; exact hfit)
    rw [hlen', h.cyclesEq] at hdelay
    rw [hready', hready, h.rateEq]
    unfold nextReady
    rw [if_neg hr, UInt64.toNat_add, hdelay]
    exact Nat.mod_eq_of_lt hend

theorem PaceInv.sched {log : List (Option DataPacket)}
    (h : PaceInv cycles rate sid (dataPackets sid log) ctx) (hr : rate ≠ 0) (e : EvIn) :
    PaceInv cycles rate sid (dataPackets sid (log ++ [schedData (evCtx ctx e)]))
      (fastStep ctx (.sched e)).1 := by
  obtain ⟨l, hrep, -⟩ := h.entries
  have hin := samePace_evCtx ctx e
  have h₀ : PaceInv cycles rate sid (dataPackets sid log) (evCtx ctx e) := h.same hin h.entries
  have hrep₀ : SchedRep (evCtx ctx e).sched l := hrep
  have h₁ : 1472 ≤ (evCtx ctx e).pktRoom := (fastEbpfPktRoom_bounds e.virtGre).1
  have h₂ : (evCtx ctx e).pktRoom ≤ 1500 := (fastEbpfPktRoom_bounds e.virtGre).2
  unfold fastStep
  dsimp only
  generalize evCtx ctx e = c at h₀ hrep₀ h₁ h₂ ⊢
  rcases tcpEventSched_pace hrep₀ h₁ h₂ with
    ⟨hnone, hsame, hkeep⟩ | ⟨d, hsome, hlt, hlen, ready, hready, hat, hdue, hkeep⟩
  · rw [hnone, dataPackets_none]
    exact h₀.same hsame (hkeep _ h₀.entries)
  · rw [hsome, dataPackets_some]
    obtain ⟨x, prio, hx, hprio, hown, hafter⟩ := hdue _ h₀.entries
    rw [hx] at hown
    have hb := h₀.bound
    by_cases hd : d.sock = sid
    · -- the entry popped was the only one of `sid`
      rw [if_pos hd]
      rw [hd] at hready hat hkeep hown
      have hready' : (sockOf (tcpEventSched c).1 sid).txReadyTsc = ready :=
        (congrArg PaceFields.ready hat.self :)
      refine h₀.own_packet hr hlen hready ?_ hat ?_
      · exact UInt64.le_trans (hafter (hx.trans hd)) hprio
      · refine hkeep _ (h₀.entries.mono ?_) ⟨?_, fun prio hp => ⟨?_, fun _ => ?_⟩⟩
        · intro y prio _ hy hne
          refine ⟨?_, fun he => absurd he hne⟩
          unfold OwnId
          rw [(hat.same_but _).1]
          exact hy.1
        · show (sockOf c sid).id.toNat < maxSchedEntries
          rw [hown]
          omega
        · show OwnId _ (sockOf c sid).id.toNat
          rw [hown]
          unfold OwnId
          rw [(hat.same_but _).1]
          exact hown
        · rw [hready']
          refine hp ?_
          show (sockOf c sid).ccRate ≠ 0
          rw [h₀.rateEq]
          exact hr
    · rw [if_neg hd]
      have hkept : (sockOf (tcpEventSched c).1 sid).txReadyTsc = (sockOf c sid).txReadyTsc :=
        (congrArg PaceFields.ready (hat.others sid (Ne.symm hd)) :)
      refine h₀.other (Ne.symm hd) hat ?_
      refine hkeep _ (h₀.entries.mono ?_) ⟨?_, fun prio _ => ⟨?_, fun he => ?_⟩⟩
      · intro y prio _ hy _
        unfold DueAfter OwnId
        rw [(hat.same_but _).1, hkept]
        exact hy
      · show (sockOf c d.sock).id.toNat < maxSchedEntries
        rw [hown]
        omega
      · show OwnId _ (sockOf c d.sock).id.toNat
        rw [hown]
        unfold OwnId
        rw [(hat.same_but _).1]
        exact hown
      · have he' : (sockOf c d.sock).id.toNat = sid := he
        rw [hown] at he'
        exact absurd he' hd

/-- One step of a run keeps the invariant. -/
theorem PaceInv.step {log : List (Option DataPacket)} {act : PaceAct}
    (h : PaceInv cycles rate sid (dataPackets sid log) ctx) (hr : rate ≠ 0)
    (hok : PaceOk sid ctx act) :
    PaceInv cycles rate sid (dataPackets sid (log ++ [(paceStep ctx act).2]))
      (paceStep ctx act).1 := by
  cases act with
  | fast ev =>
    obtain ⟨hn, hre⟩ := hok
    cases ev with
    | rx e =>
      show PaceInv cycles rate sid (dataPackets sid (log ++ [none])) _
      rw [dataPackets_none]
      exact h.rx hr hre
    | deq e qe qeOff =>
      show PaceInv cycles rate sid (dataPackets sid (log ++ [none])) _
      rw [dataPackets_none]
      exact h.deq hr hn hre
    | sched e => exact h.sched hr e
  | slow maps =>
    show PaceInv cycles rate sid (dataPackets sid (log ++ [none])) _
    rw [dataPackets_none]
    exact h.slow hok

end run

/-! ## Every run -/

/-- **Pacing.** In every run of receive, dequeue and scheduler events that
does not rewind socket `sid`, whatever the slow path and the other sockets do
meanwhile, any two consecutive data packets of the socket are as far apart as
the length of the first and the rate ask, unless that delay leaves the 64
bits it is computed in; and in every state reached the entry of the socket,
if it has one, is not due before its `tx_ready_tsc`. -/
theorem data_packets_spaced {ctx₀ ctx : TcpCtx} {sid : Nat} {log : List (Option DataPacket)}
    (h₀ : PaceInit ctx₀ sid) (hr : (sockOf ctx₀ sid).ccRate ≠ 0)
    (hrun : Run (PaceOk sid) paceStep ctx₀ log ctx) :
    ((dataPackets sid log).IsChain fun d₁ d₂ =>
      NoWrap ctx₀.clk.cyclesPerUs.toNat (sockOf ctx₀ sid).ccRate.toNat d₁ →
      Spaced ctx₀.clk.cyclesPerUs.toNat (sockOf ctx₀ sid).ccRate.toNat d₁ d₂) ∧
    ((ctx.sched.entries (sockOf ctx sid).id).id ≠ schedIdInvalid →
      (sockOf ctx sid).txReadyTsc ≤ (ctx.sched.entries (sockOf ctx sid).id).priority) := by
  have hinv : PaceInv ctx₀.clk.cyclesPerUs (sockOf ctx₀ sid).ccRate sid (dataPackets sid log) ctx :=
    hrun.inv (I := fun lg c => PaceInv ctx₀.clk.cyclesPerUs (sockOf ctx₀ sid).ccRate sid
      (dataPackets sid lg) c) ⟨h₀, rfl, rfl, List.isChain_nil, by simp [dataPackets]⟩
      (fun _ _ _ hi hok => hi.step hr hok)
  refine ⟨hinv.spaced, ?_⟩
  intro hlisted
  obtain ⟨l, hrep, hall⟩ := hinv.entries
  exact (hall _ ((hrep.mem_iff _).mp hlisted)).2 hinv.own

/-! ## Two packets of one socket -/

/-- A connection paced at 1000 kbps in the first of two slots, on a clock of
one cycle to the microsecond. Nothing was ever put in the second slot. -/
private def pacedCtx (readings : Nat → UInt64) : TcpCtx :=
  let ctx := oneSockCtx
    { TcpSock.zero with state := .established, txLen := 4096, txRemoteAvail := 1000, ccRate := 1000 }
    4
  { ctx with
    maps := { ctx.maps with sockNelems := 2 }
    clk := { readings, reads := 0, tscToUs := id, cyclesPerUs := 1 } }

private def pacedIn : EvIn :=
  { pkt := fun _ => 0, virtGre := false, shm := fun _ => 0,
    equeues := fun _ => { items := [], nelems := 4 },
    dqueues := fun _ => { q := { items := [], nelems := 4 }, off := 0, elsize := 64, head := 0 } }

/-- Ten more bytes for the socket in slot `sockId`. -/
private def tenBytes (sockId : UInt32) : PaceAct :=
  .fast (.deq pacedIn (.bumpChamTx sockId 0 0 10) 0)

private def pollSched : PaceAct := .fast (.sched pacedIn)

private theorem pacedCtx_init (readings : Nat → UInt64) : PaceInit (pacedCtx readings) 0 := by
  refine ⟨(by decide : 2 ≤ maxSchedEntries), rfl, fun i hi hst => ?_, [], schedInit_rep, by simp⟩
  have hi' : i < 2 := hi
  by_cases h : i = 0
  · rw [h]
    rfl
  · obtain rfl : i = 1 := by omega
    exact absurd rfl hst

private theorem tenBytes_remits (ctx : TcpCtx) (sockId : UInt32) :
    remits ctx (.deq pacedIn (.bumpChamTx sockId 0 0 10) 0) ≠ some 0 := by
  unfold remits deqRemits
  dsimp only
  split <;> simp

private theorem tenBytes_ok {ctx : TcpCtx} {sockId : UInt32} (h : OwnId ctx sockId.toNat) :
    PaceOk 0 ctx (tenBytes sockId) := by
  refine ⟨fun k hk _ => ?_, tenBytes_remits ctx sockId⟩
  cases hk
  exact h

private theorem pollSched_ok (ctx : TcpCtx) : PaceOk 0 ctx pollSched := ⟨trivial, by simp [remits]⟩

/-- Bumps for the first slot and polls of the scheduler are a run. -/
private theorem paced_run (readings : Nat → UInt64) (acts : List PaceAct)
    (hacts : ∀ a ∈ acts, a = tenBytes 0 ∨ a = pollSched) :
    Run (PaceOk 0) paceStep (pacedCtx readings) ([] ++ (execAll paceStep acts (pacedCtx readings)).1)
      (execAll paceStep acts (pacedCtx readings)).2 := by
  refine Run.execInv (I := fun log ctx => PaceInv 1 1000 0 (dataPackets 0 log) ctx) ?_
    (fun _ _ _ hi hok => hi.step (by decide) hok) ?_ Run.nil
  · intro a ha log ctx hinv
    rcases hacts a ha with rfl | rfl
    · exact tenBytes_ok hinv.own
    · exact pollSched_ok ctx
  · exact ⟨pacedCtx_init readings, rfl, rfl, List.isChain_nil, by simp [dataPackets]⟩

private def twoSends : List PaceAct := [tenBytes 0, pollSched, tenBytes 0, pollSched]

/-- On a clock that gains a millisecond with each reading, the second packet
is sent long after the 496 cycles its predecessor takes. -/
theorem data_packets_spaced_two :
    Spaced 1 1000 { sock := 0, tsc := 1000, len := 62 } { sock := 0, tsc := 4000, len := 62 } := by
  have hrun := paced_run (fun n => UInt64.ofNat (n * 1000)) twoSends (by simp [twoSends])
  have hlog : dataPackets 0 ([] ++ (execAll paceStep twoSends
      (pacedCtx fun n => UInt64.ofNat (n * 1000))).1) =
      [{ sock := 0, tsc := 1000, len := 62 }, { sock := 0, tsc := 4000, len := 62 }] := by
    decide
  have h := (data_packets_spaced (pacedCtx_init _) (by decide) hrun).1
  rw [hlog] at h
  exact List.isChain_cons_cons.mp h |>.1 (by unfold NoWrap; decide)

private def strayBump : List PaceAct :=
  [tenBytes 0, pollSched, tenBytes 0, tenBytes 1, pollSched]

/-- No event of the two lists rewinds anything. -/
private theorem strayBump_run (readings : Nat → UInt64) :
    Run (fun c act => ∃ ev, act = .fast ev ∧ remits c ev ≠ some 0) paceStep (pacedCtx readings)
      ([] ++ (execAll paceStep strayBump (pacedCtx readings)).1)
      (execAll paceStep strayBump (pacedCtx readings)).2 := by
  refine Run.execInv (I := fun _ _ => True) ?_ (fun _ _ _ _ _ => trivial) trivial Run.nil
  intro a ha _ ctx _
  have hpoll : ∃ ev, pollSched = .fast ev ∧ remits ctx ev ≠ some 0 :=
    ⟨_, rfl, (pollSched_ok ctx).2⟩
  have hbump : ∀ k, ∃ ev, tenBytes k = .fast ev ∧ remits ctx ev ≠ some 0 :=
    fun k => ⟨_, rfl, tenBytes_remits ctx k⟩
  simp only [strayBump, List.mem_cons, List.not_mem_nil, or_false] at ha
  rcases ha with rfl | rfl | rfl | rfl | rfl
  · exact hbump 0
  · exact hpoll
  · exact hbump 0
  · exact hbump 1
  · exact hpoll

/-- Two packets that leave at one time are not spaced. -/
private theorem not_spaced_at_once (tsc : UInt64) :
    ¬ List.IsChain (Spaced 1 1000)
      [{ sock := 0, tsc, len := 62 }, { sock := 0, tsc, len := 62 }] := by
  intro h
  have hsp := (List.isChain_cons_cons.mp h).1
  unfold Spaced at hsp
  rw [show delayCycles 1 1000 62 = 496 by decide] at hsp
  dsimp only at hsp
  omega

/-- Near the end of the clock's range the delay wraps around, and a second
packet follows the first at once. And where a queue entry names a slot that
nothing was ever put in, it is the socket in slot 0 that is scheduled, its
delay notwithstanding. -/
theorem data_packets_not_spaced :
    (∃ log ctx, Run (PaceOk 0) paceStep (pacedCtx fun _ => 18446744073709551606) log ctx ∧
      ¬ (dataPackets 0 log).IsChain (Spaced 1 1000)) ∧
    ∃ log ctx, Run (fun c act => ∃ ev, act = .fast ev ∧ remits c ev ≠ some 0) paceStep
        (pacedCtx fun _ => 0) log ctx ∧
      (∀ d ∈ dataPackets 0 log, NoWrap 1 1000 d) ∧
      ¬ (dataPackets 0 log).IsChain (Spaced 1 1000) := by
  have hwrap : dataPackets 0 ([] ++ (execAll paceStep twoSends
      (pacedCtx fun _ => 18446744073709551606)).1) =
      [{ sock := 0, tsc := 18446744073709551606, len := 62 },
        { sock := 0, tsc := 18446744073709551606, len := 62 }] := by
    decide
  have hstray : dataPackets 0 ([] ++ (execAll paceStep strayBump (pacedCtx fun _ => 0)).1) =
      [{ sock := 0, tsc := 0, len := 62 }, { sock := 0, tsc := 0, len := 62 }] := by
    decide
  refine ⟨⟨_, _, paced_run _ twoSends (by simp [twoSends]), ?_⟩, _, _, strayBump_run _, ?_, ?_⟩
  · rw [hwrap]
    exact not_spaced_at_once _
  · rw [hstray]
    intro d hd
    simp only [List.mem_cons, List.not_mem_nil, or_false, or_self] at hd
    rw [hd]
    unfold NoWrap
    decide
  · rw [hstray]
    exact not_spaced_at_once 0

end Chamelio.Tcp
