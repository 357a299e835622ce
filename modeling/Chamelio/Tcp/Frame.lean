import Chamelio.Tcp.FastDeq

/-!
# What the helper steps leave alone

Most helpers of the fast path touch statistics, pacing, the packet under
construction or the clock, and nothing a stream property speaks of.
`TcpSock.bare` is the socket without those fields, and `Quiet ctx ctx'`
says that every socket is the same up to them and that shared memory,
queues and lookup tables are the same. The helpers that are quiet are
listed once; the stages of `tcp_event_rx` then only have to say what they
do beyond that.
-/

namespace Chamelio.Tcp

open Chamelio.Lib Chamelio.Util Chamelio.Pkt Chamelio.Fast

/-- The socket with flags, statistics and pacing erased. -/
def TcpSock.bare (s : TcpSock) : TcpSock :=
  { s with
    flags := 0, rxDupackCnt := 0, ccAcks := 0, ccAckb := 0, ccEcnb := 0, ccDrops := 0
    tsRecent := 0, rttEst := 0, txReadyTsc := 0 }

/-- Nothing but bookkeeping, the clock, the packet buffer and the scheduler
differs. -/
structure Quiet (ctx ctx' : TcpCtx) : Prop where
  socks : ∀ i, (sockOf ctx' i).bare = (sockOf ctx i).bare
  sockNelems : ctx'.maps.sockNelems = ctx.maps.sockNelems
  buckets : ctx'.maps.buckets = ctx.maps.buckets
  buckNelems : ctx'.maps.buckNelems = ctx.maps.buckNelems
  cfg : ctx'.maps.cfg = ctx.maps.cfg
  shm : ctx'.shm = ctx.shm
  equeues : ctx'.equeues = ctx.equeues
  pktRoom : ctx'.pktRoom = ctx.pktRoom
  core : ctx'.core = ctx.core

theorem Quiet.refl (ctx : TcpCtx) : Quiet ctx ctx :=
  ⟨fun _ => rfl, rfl, rfl, rfl, rfl, rfl, rfl, rfl, rfl⟩

theorem Quiet.trans {a b c : TcpCtx} (h₁ : Quiet a b) (h₂ : Quiet b c) : Quiet a c :=
  ⟨fun i => (h₂.socks i).trans (h₁.socks i), h₂.sockNelems.trans h₁.sockNelems,
    h₂.buckets.trans h₁.buckets, h₂.buckNelems.trans h₁.buckNelems, h₂.cfg.trans h₁.cfg,
    h₂.shm.trans h₁.shm, h₂.equeues.trans h₁.equeues, h₂.pktRoom.trans h₁.pktRoom,
    h₂.core.trans h₁.core⟩

/-- Writing back a socket that differs in bookkeeping only. -/
theorem quiet_setSock {ctx : TcpCtx} {sid : Nat} {s : TcpSock}
    (h : s.bare = (sockOf ctx sid).bare) : Quiet ctx (setSock ctx sid s) := by
  refine ⟨fun i => ?_, rfl, rfl, rfl, rfl, rfl, rfl, rfl, rfl⟩
  by_cases hi : i = sid
  · rw [hi, sockOf_setSock, h]
  · rw [sockOf_setSock_ne ctx s hi]

/-- A new clock, packet, scheduler or queue to dequeue from is quiet. -/
theorem quiet_of_eq {ctx ctx' : TcpCtx} (hm : ctx'.maps = ctx.maps) (hs : ctx'.shm = ctx.shm)
    (hq : ctx'.equeues = ctx.equeues) (hr : ctx'.pktRoom = ctx.pktRoom)
    (hc : ctx'.core = ctx.core) : Quiet ctx ctx' := by
  refine ⟨fun i => ?_, ?_, ?_, ?_, ?_, hs, hq, hr, hc⟩
  · unfold sockOf
    rw [hm]
  all_goals rw [hm]

theorem quiet_clk (ctx : TcpCtx) (clk : Clock) : Quiet ctx { ctx with clk } :=
  quiet_of_eq rfl rfl rfl rfl rfl

/-! ## The quiet helpers -/

theorem txSchedTsc_snd (ctx : TcpCtx) (sid : Nat) :
    (txSchedTsc ctx sid).2 = { ctx with clk := (clockRdtsc ctx.clk).2 } := by
  unfold txSchedTsc
  dsimp only
  split <;> rfl

theorem quiet_txSchedTsc (ctx : TcpCtx) (sid : Nat) : Quiet ctx (txSchedTsc ctx sid).2 := by
  rw [txSchedTsc_snd]
  exact quiet_clk ctx _

/-- `tx_fill_hdr` fills the packet, reads the clock and may clear a flag. -/
theorem quiet_txFillHdr (ctx : TcpCtx) (sid : Nat) (hdrlen paylen : UInt32) :
    Quiet ctx (txFillHdr ctx sid hdrlen paylen) := by
  unfold txFillHdr
  dsimp only
  split
  · refine Quiet.trans ?_ (quiet_setSock ?_)
    · exact quiet_of_eq rfl rfl rfl rfl rfl
    · rfl
  · exact quiet_of_eq rfl rfl rfl rfl rfl

@[simp] theorem txFillHdr_sched (ctx : TcpCtx) (sid : Nat) (hdrlen paylen : UInt32) :
    (txFillHdr ctx sid hdrlen paylen).sched = ctx.sched := by
  unfold txFillHdr
  dsimp only
  split <;> rfl

theorem quiet_txFillAck (ctx : TcpCtx) (sid : Nat) : Quiet ctx (txFillAck ctx sid).1 := by
  unfold txFillAck
  split
  · exact Quiet.refl ctx
  · split
    · exact Quiet.refl ctx
    · exact quiet_txFillHdr ctx sid _ _

@[simp] theorem txFillAck_sched (ctx : TcpCtx) (sid : Nat) :
    (txFillAck ctx sid).1.sched = ctx.sched := by
  unfold txFillAck
  split
  · rfl
  · split
    · rfl
    · exact txFillHdr_sched ctx sid _ _

theorem txFillAck_ne_appBump (ctx : TcpCtx) (sid : Nat) :
    (txFillAck ctx sid).2 ≠ .error .appBump := by
  unfold txFillAck
  split
  · simp
  · split
    · simp
    · simp

theorem quiet_rxMarkCe (ctx : TcpCtx) (sid : Nat) : Quiet ctx (rxMarkCe ctx sid) := by
  unfold rxMarkCe
  split
  · exact quiet_setSock rfl
  · exact Quiet.refl ctx

@[simp] theorem rxMarkCe_sched (ctx : TcpCtx) (sid : Nat) :
    (rxMarkCe ctx sid).sched = ctx.sched := by
  unfold rxMarkCe
  split <;> rfl

@[simp] theorem rxMarkCe_pkt (ctx : TcpCtx) (sid : Nat) : (rxMarkCe ctx sid).pkt = ctx.pkt := by
  unfold rxMarkCe
  split <;> rfl

theorem quiet_sockTsRx (ctx : TcpCtx) (sid : Nat) : Quiet ctx (sockTsRx ctx sid) := by
  unfold sockTsRx
  split
  · exact Quiet.refl ctx
  · next tsVal tsEcr _ =>
    have h₁ : Quiet ctx (setSock ctx sid { sockOf ctx sid with tsRecent := tsVal }) :=
      quiet_setSock rfl
    dsimp only
    split
    · exact h₁
    · split
      · exact h₁.trans (quiet_clk _ _)
      · exact (h₁.trans (quiet_clk _ _)).trans (quiet_setSock rfl)

@[simp] theorem sockTsRx_sched (ctx : TcpCtx) (sid : Nat) :
    (sockTsRx ctx sid).sched = ctx.sched := by
  unfold sockTsRx
  split
  · rfl
  · dsimp only
    split
    · rfl
    · split <;> rfl

@[simp] theorem sockTsRx_pkt (ctx : TcpCtx) (sid : Nat) : (sockTsRx ctx sid).pkt = ctx.pkt := by
  unfold sockTsRx
  split
  · rfl
  · dsimp only
    split
    · rfl
    · split <;> rfl

/-- Punting leaves every socket, the memory and the scheduler alone, and
only adds entries to the two queues of the slow path. -/
theorem rxPuntCtl_frame (ctx : TcpCtx) :
    (rxPuntCtl ctx).1 = { ctx with equeues := (rxPuntCtl ctx).1.equeues } ∧
    (rxPuntCtl ctx).2 ≠ .error .appBump ∧
    ∀ qid, (∀ cfg, ctx.maps.cfg = some cfg →
      qid ≠ (cfg.fastSlowPktQids ctx.core.toNat).toNat ∧
      qid ≠ (cfg.fastSlowSigQids ctx.core.toNat).toNat) →
      (rxPuntCtl ctx).1.equeues qid = ctx.equeues qid := by
  unfold rxPuntCtl
  split
  · exact ⟨rfl, by simp, fun _ _ => rfl⟩
  · next cfg hcfg =>
    dsimp only
    split
    · exact ⟨rfl, by simp, fun _ _ => rfl⟩
    split
    · exact ⟨rfl, by simp, fun _ _ => rfl⟩
    split
    · exact ⟨rfl, by simp, fun _ _ => rfl⟩
    split
    · exact ⟨rfl, by simp, fun _ _ => rfl⟩
    split
    · exact ⟨rfl, by simp, fun _ _ => rfl⟩
    split
    · refine ⟨rfl, by simp, fun qid hq => ?_⟩
      exact EbpfCtx.setQueue_ne _ _ (hq cfg hcfg).1
    · refine ⟨rfl, by simp, fun qid hq => ?_⟩
      rw [EbpfCtx.setQueue_ne _ _ (hq cfg hcfg).2, EbpfCtx.setQueue_ne _ _ (hq cfg hcfg).1]

/-! ## Bare sockets -/

theorem sockSchedAvail_bare {s s' : TcpSock} (h : s'.bare = s.bare) :
    sockSchedAvail s' = sockSchedAvail s :=
  sockSchedAvail_congr (congrArg TcpSock.txPending h :) (congrArg TcpSock.txRemoteAvail h :)
    (congrArg TcpSock.txAvail h :) (congrArg TcpSock.txSeq h :)
    (congrArg TcpSock.recoveryActive h :) (congrArg TcpSock.recoveryEndSeq h :)

theorem rxGetAckBump_bare {p : Nat → UInt8} {s s' : TcpSock} (h : s'.bare = s.bare) :
    rxGetAckBump p s' = rxGetAckBump p s := by
  have h₁ : s'.txSeq = s.txSeq := (congrArg TcpSock.txSeq h :)
  have h₂ : s'.txPending = s.txPending := (congrArg TcpSock.txPending h :)
  have h₃ : s'.txAvail = s.txAvail := (congrArg TcpSock.txAvail h :)
  unfold rxGetAckBump
  rw [h₁, h₂, h₃]

theorem rxSockBumpAck_bare {p : Nat → UInt8} {s s' : TcpSock} (k : UInt32)
    (h : s'.bare = s.bare) : (rxSockBumpAck p s' k).bare = (rxSockBumpAck p s k).bare := by
  have key : ∀ s : TcpSock, (rxSockBumpAck p s k).bare = (rxSockBumpAck p s.bare k).bare := by
    intro s
    unfold rxSockBumpAck tcpSockRecoveryAck
    dsimp only [TcpSock.bare]
    split
    · split <;> rfl
    · rfl
  rw [key s', key s, h]

/-- Writing the same socket over two contexts that are quietly the same. -/
theorem Quiet.setSock {a b : TcpCtx} (h : Quiet a b) (sid : Nat) {s s' : TcpSock}
    (hs : s'.bare = s.bare) : Quiet (setSock a sid s) (setSock b sid s') := by
  refine ⟨fun i => ?_, h.sockNelems, h.buckets, h.buckNelems, h.cfg, h.shm, h.equeues,
    h.pktRoom, h.core⟩
  by_cases hi : i = sid
  · rw [hi, sockOf_setSock, sockOf_setSock, hs]
  · rw [sockOf_setSock_ne b s' hi, sockOf_setSock_ne a s hi]
    exact h.socks i

theorem setSock_setSock (ctx : TcpCtx) (sid : Nat) (s s' : TcpSock) :
    setSock (setSock ctx sid s) sid s' = setSock ctx sid s' := by
  unfold setSock
  dsimp only
  congr 2
  funext i
  by_cases hi : i = sid <;> simp [hi]

/-- Two edits of one socket, with quiet steps between and after. -/
theorem Quiet.chain {a b c : TcpCtx} {sid : Nat} {s s' : TcpSock}
    (h₁ : Quiet (Tcp.setSock a sid s) b) (h₂ : Quiet (Tcp.setSock b sid s') c) :
    Quiet (Tcp.setSock a sid s') c := by
  have h := (h₁.setSock sid (s := s') rfl).trans h₂
  rw [setSock_setSock] at h
  exact h

theorem Quiet.sock {a b : TcpCtx} {sid : Nat} {s : TcpSock}
    (h : Quiet (Tcp.setSock a sid s) b) : (sockOf b sid).bare = s.bare := by
  rw [h.socks, sockOf_setSock]

/-! ## The stages that move stream state -/

/-- The socket after the window and the acknowledgement of a segment. -/
def ackedSock (p : Nat → UInt8) (s : TcpSock) : TcpSock :=
  let s := { s with txRemoteAvail := (tcpWnd p).toUInt32 }
  if rxIsAck p then rxSockBumpAck p s (rxGetAckBump p s) else s

/-- The socket after `remit`: in recovery, everything in flight is to be
sent again. -/
def rewoundSock (s : TcpSock) : TcpSock :=
  let s := tcpSockRecoveryEnter s
  { s with txAvail := s.txAvail + s.txPending, txPending := 0 }

theorem rewoundSock_bare {s s' : TcpSock} (h : s'.bare = s.bare) :
    (rewoundSock s').bare = (rewoundSock s).bare := by
  have key : ∀ s : TcpSock, (rewoundSock s).bare = (rewoundSock s.bare).bare := by
    intro s
    unfold rewoundSock tcpSockRecoveryEnter TcpSock.bare
    by_cases hr : s.recoveryActive = true <;> simp [hr]
  rw [key s', key s, h]

/-- What `rxAckStage` does, and the locals it leaves. -/
theorem rxAckStage_spec (ctx : TcpCtx) (sid : Nat) :
    Quiet (setSock ctx sid (ackedSock ctx.pkt (sockOf ctx sid))) (rxAckStage ctx sid).1 ∧
    (rxAckStage ctx sid).1.sched = ctx.sched ∧
    (rxAckStage ctx sid).1.pkt = ctx.pkt ∧
    (rxAckStage ctx sid).2.availBefore = sockSchedAvail (sockOf ctx sid) ∧
    (rxAckStage ctx sid).2.availAfter =
      sockSchedAvail (ackedSock ctx.pkt (sockOf ctx sid)) ∧
    (rxAckStage ctx sid).2.ackBump = rxGetAckBump ctx.pkt (sockOf ctx sid) := by
  have h₁ : Quiet (setSock ctx sid { sockOf ctx sid with
      txRemoteAvail := (tcpWnd ctx.pkt).toUInt32 })
      (setSock ctx sid { sockOf ctx sid with
        txRemoteAvail := (tcpWnd ctx.pkt).toUInt32
        ccAcks := if rxIsAck ctx.pkt then (sockOf ctx sid).ccAcks + 1
          else (sockOf ctx sid).ccAcks }) := (Quiet.refl ctx).setSock sid rfl
  have h₂ := h₁.trans (quiet_sockTsRx _ sid)
  have hb := h₂.sock
  have hbump : ∀ s : TcpSock, rxGetAckBump ctx.pkt
      { s with txRemoteAvail := (tcpWnd ctx.pkt).toUInt32 } = rxGetAckBump ctx.pkt s :=
    fun _ => rfl
  unfold rxAckStage ackedSock
  dsimp only
  by_cases ha : rxIsAck ctx.pkt = true
  · simp only [ha, if_true] at h₂ hb ⊢
    have hq := h₂.chain ((Quiet.refl _).setSock sid (rxSockBumpAck_bare (p := ctx.pkt)
      (rxGetAckBump ctx.pkt (sockOf ctx sid)) hb))
    rw [rxGetAckBump_bare hb, hbump]
    exact ⟨hq, sockTsRx_sched _ sid, sockTsRx_pkt _ sid, trivial, sockSchedAvail_bare hq.sock,
      rfl⟩
  · simp only [ha, Bool.false_eq_true, if_false] at h₂ hb ⊢
    refine ⟨h₂, sockTsRx_sched _ sid, sockTsRx_pkt _ sid, trivial,
      sockSchedAvail_bare hb, ?_⟩
    rw [rxGetAckBump_bare hb, hbump]

theorem quiet_ctxSchedAdd (ctx : TcpCtx) (id : UInt32) (priority : UInt64) (avail : UInt32) :
    Quiet ctx (ctxSchedAdd ctx id priority avail).1 :=
  quiet_of_eq rfl rfl rfl rfl rfl

theorem quiet_rxSchedTx (ctx : TcpCtx) (sid : Nat) (a b : UInt32) :
    Quiet ctx (rxSchedTx ctx sid a b) := by
  unfold rxSchedTx
  split
  · exact Quiet.refl ctx
  · exact (quiet_txSchedTsc ctx sid).trans (quiet_ctxSchedAdd _ _ _ _)

theorem remit_spec (ctx : TcpCtx) (sid : Nat) :
    Quiet (setSock ctx sid (rewoundSock (sockOf ctx sid))) (remit ctx sid) := by
  exact quiet_of_eq rfl rfl rfl rfl rfl

/-- Below the threshold only the duplicate-ACK counter moves; at the
threshold the socket is rewound. -/
theorem rxDupAck_spec (ctx : TcpCtx) (sid : Nat) (v : RxLocals) :
    (Quiet ctx (rxDupAck ctx sid v).1 ∧ (rxDupAck ctx sid v).1.sched = ctx.sched) ∨
    ∃ ctx₁, Quiet ctx ctx₁ ∧ ctx₁.sched = ctx.sched ∧
      Quiet (remit ctx₁ sid) (rxDupAck ctx sid v).1 ∧
      (rxDupAck ctx sid v).1.sched = (remit ctx₁ sid).sched := by
  unfold rxDupAck
  dsimp only
  split
  · split
    · right
      rw [setSock_setSock]
      generalize hctx : setSock ctx sid { sockOf ctx sid with
        rxDupackCnt := (sockOf ctx sid).rxDupackCnt + 1
        ccDrops := (sockOf ctx sid).ccDrops + 1 } = ctx₁
      refine ⟨ctx₁, ?_, ?_, ?_⟩
      · rw [← hctx]
        exact quiet_setSock rfl
      · rw [← hctx]
        exact setSock_sched _ _ _
      · generalize remit ctx₁ sid = ctx₂
        exact ⟨quiet_setSock rfl, rfl⟩
    · exact Or.inl ⟨quiet_setSock rfl, rfl⟩
  · exact Or.inl ⟨Quiet.refl ctx, rfl⟩

/-- A bump for the application is one more entry on its bump queue. -/
theorem rxEnqueueApp_spec {ctx ctx' : TcpCtx} {sid : Nat} {e : TcpQe}
    (h : rxEnqueueApp ctx sid e = some ctx') :
    ∃ q, (ctx.equeues (sockOf ctx sid).appBumpQid.toNat).push e = some q ∧
      ctx' = ctx.setQueue (sockOf ctx sid).appBumpQid.toNat q := by
  unfold rxEnqueueApp at h
  dsimp only at h
  split at h
  · cases h
  · next q hq => exact ⟨q, hq, (Option.some.inj h).symm⟩

/-- Either the segment repeats the last ACK and nothing is enqueued, or one
bump of `ackBump` bytes is. -/
theorem rxAppTxBump_spec {ctx ctx' : TcpCtx} {sid : Nat} {v : RxLocals}
    (h : rxAppTxBump ctx sid v = some ctx') :
    (v.isAckDup = true ∧ ctx' = ctx) ∨
    (v.isAckDup = false ∧ ∃ q, (ctx.equeues (sockOf ctx sid).appBumpQid.toNat).push
      (.bumpAppTx (sockOf ctx sid).opaquePtr v.ackBump) = some q ∧
      ctx' = ctx.setQueue (sockOf ctx sid).appBumpQid.toNat q) := by
  unfold rxAppTxBump at h
  by_cases hd : v.isAckDup = true
  · rw [if_pos hd] at h
    exact Or.inl ⟨hd, (Option.some.inj h).symm⟩
  · rw [if_neg hd] at h
    exact Or.inr ⟨by simpa using hd, rxEnqueueApp_spec h⟩

@[simp] theorem rxCopyPayload_sched (ctx : TcpCtx) (sock : TcpSock) (src : Nat)
    (paylen : UInt32) : (rxCopyPayload ctx sock src paylen).sched = ctx.sched := by
  unfold rxCopyPayload
  dsimp only
  split <;> rfl

@[simp] theorem rxCopyPayload_equeues (ctx : TcpCtx) (sock : TcpSock) (src : Nat)
    (paylen : UInt32) : (rxCopyPayload ctx sock src paylen).equeues = ctx.equeues := by
  unfold rxCopyPayload
  dsimp only
  split <;> rfl

@[simp] theorem rxCopyPayload_maps (ctx : TcpCtx) (sock : TcpSock) (src : Nat)
    (paylen : UInt32) : (rxCopyPayload ctx sock src paylen).maps = ctx.maps := by
  unfold rxCopyPayload
  dsimp only
  split <;> rfl

@[simp] theorem rxCopyPayload_pkt (ctx : TcpCtx) (sock : TcpSock) (src : Nat)
    (paylen : UInt32) : (rxCopyPayload ctx sock src paylen).pkt = ctx.pkt := by
  unfold rxCopyPayload
  dsimp only
  split <;> rfl

/-- The context after a payload of `rxBump` bytes at packet offset `src` was
stored and announced on the queue `q`. -/
def delivered (ctx : TcpCtx) (sid src : Nat) (rxBump : UInt32) (q : Fifo TcpQe) : TcpCtx :=
  (setSock (rxCopyPayload ctx (sockOf ctx sid) src rxBump) sid
    (rxSockBumpRx (sockOf ctx sid) rxBump)).setQueue (sockOf ctx sid).appBumpQid.toNat q

/-- What `rxDeliver` does: nothing beyond a header, or one copy into the
receive ring, with one bump for it unless the queue is full. -/
theorem rxDeliver_spec (ctx : TcpCtx) (sid : Nat) (v : RxLocals) (hdrlen : UInt32)
    {rxBump : UInt32}
    (hb : rxGetRxBump (sockOf ctx sid) ((rxGetPaylen ctx.pkt).toUInt32 - v.overlap) = rxBump) :
    (rxDeliver ctx sid v hdrlen).1.sched = ctx.sched ∧
    ((Quiet ctx (rxDeliver ctx sid v hdrlen).1 ∧
      (rxDeliver ctx sid v hdrlen).2 ≠ .error .appBump ∧ rxBump = 0) ∨
    (0 < rxBump ∧
      ((∃ q, (ctx.equeues (sockOf ctx sid).appBumpQid.toNat).push
            (.bumpAppRx (sockOf ctx sid).opaquePtr (tcpSrc ctx.pkt) (ipSrc ctx.pkt) rxBump) =
              some q ∧
          Quiet (delivered ctx sid (hdrlen.toNat + v.overlap.toNat) rxBump q)
            (rxDeliver ctx sid v hdrlen).1 ∧
          (rxDeliver ctx sid v hdrlen).2 ≠ .error .appBump) ∨
        ((ctx.equeues (sockOf ctx sid).appBumpQid.toNat).push
            (.bumpAppRx (sockOf ctx sid).opaquePtr (tcpSrc ctx.pkt) (ipSrc ctx.pkt) rxBump) =
              none ∧
          (rxDeliver ctx sid v hdrlen).2 = .error .appBump ∧
          (rxDeliver ctx sid v hdrlen).1 =
            setSock (rxCopyPayload ctx (sockOf ctx sid) (hdrlen.toNat + v.overlap.toNat) rxBump)
              sid (rxSockBumpRx (sockOf ctx sid) rxBump))))) := by
  unfold rxDeliver
  simp only [hb]
  by_cases hpos : rxBump > 0
  · rw [if_pos hpos]
    generalize hsrc : hdrlen.toNat + v.overlap.toNat = src
    generalize hstored : setSock (rxCopyPayload ctx (sockOf ctx sid) src rxBump) sid
      (rxSockBumpRx (sockOf ctx sid) rxBump) = stored
    have hpkt : stored.pkt = ctx.pkt := by
      rw [← hstored, setSock_pkt, rxCopyPayload_pkt]
    have hqs : stored.equeues = ctx.equeues := by
      rw [← hstored, setSock_equeues, rxCopyPayload_equeues]
    have hsched : stored.sched = ctx.sched := by
      rw [← hstored, setSock_sched, rxCopyPayload_sched]
    have hsock : sockOf stored sid = rxSockBumpRx (sockOf ctx sid) rxBump := by
      rw [← hstored, sockOf_setSock]
    cases henq : rxEnqueueRxBump stored sid rxBump (tcpSrc stored.pkt) (ipSrc stored.pkt) with
    | none =>
      have hfull : (ctx.equeues (sockOf ctx sid).appBumpQid.toNat).push
          (.bumpAppRx (sockOf ctx sid).opaquePtr (tcpSrc ctx.pkt) (ipSrc ctx.pkt) rxBump) =
            none := by
        unfold rxEnqueueRxBump rxEnqueueApp at henq
        dsimp only at henq
        rw [hsock, hqs, hpkt] at henq
        split at henq
        · next hnone => exact hnone
        · cases henq
      exact ⟨hsched, Or.inr ⟨hpos, Or.inr ⟨hfull, rfl, rfl⟩⟩⟩
    | some ctx₁ =>
      obtain ⟨q, hq, rfl⟩ := rxEnqueueApp_spec henq
      rw [hsock, hqs, hpkt] at hq
      refine ⟨?_, Or.inr ⟨hpos, Or.inl ⟨q, hq, ?_, txFillAck_ne_appBump _ sid⟩⟩⟩
      · rw [txFillAck_sched]
        exact hsched
      · have hq' := quiet_txFillAck
          (stored.setQueue (sockOf stored sid).appBumpQid.toNat q) sid
        rw [hsock] at hq' ⊢
        unfold delivered
        rw [hstored]
        exact hq'
  · rw [if_neg hpos]
    exact ⟨txFillAck_sched ctx sid, Or.inl ⟨quiet_txFillAck ctx sid,
      txFillAck_ne_appBump ctx sid, UInt32.le_zero_iff.mp (UInt32.not_lt.mp hpos)⟩⟩

/-! ## Scheduler event -/

/-- The room of a packet leaves space behind the header, and no length the
scheduler event computes is cut to 16 bits. -/
theorem fastEbpfPktRoom_bounds (virtGre : Bool) :
    1472 ≤ fastEbpfPktRoom virtGre ∧ fastEbpfPktRoom virtGre ≤ 1500 := by
  cases virtGre <;> decide

theorem toNat_txGetMaxPaylen {ctx : TcpCtx} (h₁ : 1472 ≤ ctx.pktRoom) (h₂ : ctx.pktRoom ≤ 1500) :
    (txGetMaxPaylen ctx txGetHdrlen).toNat = ctx.pktRoom - 52 := by
  have hroom : (UInt32.ofNat ctx.pktRoom).toNat = ctx.pktRoom := by
    rw [UInt32.toNat_ofNat']
    omega
  have h52 : txGetHdrlen.toNat = 52 := rfl
  unfold txGetMaxPaylen
  dsimp only
  rw [if_neg, toNat_sub_of_le]
  · omega
  · omega
  · intro h
    have := UInt32.lt_iff_toNat_lt.mp h
    omega

/-- A segment the scheduler builds always fits the packet. -/
theorem isPaylenValid_txBump {ctx : TcpCtx} (s : TcpSock) (h₁ : 1472 ≤ ctx.pktRoom)
    (h₂ : ctx.pktRoom ≤ 1500) :
    isPaylenValid ctx txGetHdrlen (txGetTxBump s (txGetMaxPaylen ctx txGetHdrlen)) = true := by
  have hmax := toNat_txGetMaxPaylen h₁ h₂
  have hb := toNat_txGetTxBump s (txGetMaxPaylen ctx txGetHdrlen)
  have h52 : txGetHdrlen.toUInt16.toNat = 52 := rfl
  unfold isPaylenValid
  rw [h52, UInt32.toNat_toUInt16, decide_eq_true_eq]
  omega

theorem txSockSchedNext_bare (clk : Clock) (s : TcpSock) (pktlen : UInt32) (nowTsc : UInt64) :
    (txSockSchedNext clk s pktlen nowTsc).bare = s.bare := by
  unfold txSockSchedNext
  split <;> rfl

theorem txSockTxBump_bare {s s' : TcpSock} (k : UInt32) (h : s'.bare = s.bare) :
    (txSockTxBump s' k).bare = (txSockTxBump s k).bare := by
  have key : ∀ s : TcpSock, (txSockTxBump s k).bare = (txSockTxBump s.bare k).bare :=
    fun _ => rfl
  rw [key s', key s, h]

theorem txCopyPayload_eq (ctx : TcpCtx) (sock : TcpSock) (hdrlen txBump : UInt32) :
    txCopyPayload ctx sock hdrlen txBump =
      { ctx with pkt := (txCopyPayload ctx sock hdrlen txBump).pkt } := by
  unfold txCopyPayload
  dsimp only
  split <;> rfl

/-- The payload half of the scheduler event: the bytes move from available
to pending, and the id is added while more may be sent. -/
theorem txSendPayload_spec (ctx : TcpCtx) (sid : Nat) (hdrlen txBump : UInt32)
    (nowTsc : UInt64) :
    Quiet (setSock ctx sid (txSockTxBump (sockOf ctx sid) txBump))
      (txSendPayload ctx sid hdrlen txBump nowTsc).1 ∧
    (∃ prio, (txSendPayload ctx sid hdrlen txBump nowTsc).1.sched =
      if 0 < sockSchedAvail (txSockTxBump (sockOf ctx sid) txBump) then
        (schedAdd ctx.sched (sockOf ctx sid).id prio
          (sockSchedAvail (txSockTxBump (sockOf ctx sid) txBump))).1
      else ctx.sched) ∧
    (txSendPayload ctx sid hdrlen txBump nowTsc).2 = .ok (hdrlen + txBump).toNat ∧
    (txSendPayload ctx sid hdrlen txBump nowTsc).1.pkt =
      (txCopyPayload ctx (sockOf ctx sid) hdrlen txBump).pkt := by
  unfold txSendPayload
  rw [txCopyPayload_eq ctx]
  dsimp only
  generalize (txCopyPayload ctx (sockOf ctx sid) hdrlen txBump).pkt = pkt
  have hsock : sockOf { ctx with pkt } sid = sockOf ctx sid := rfl
  rw [hsock]
  have hbare := txSockSchedNext_bare ctx.clk (txSockTxBump (sockOf ctx sid) txBump)
    (hdrlen + txBump) nowTsc
  generalize txSockSchedNext ctx.clk (txSockTxBump (sockOf ctx sid) txBump)
    (hdrlen + txBump) nowTsc = s at hbare ⊢
  have hid : s.id = (sockOf ctx sid).id := (congrArg TcpSock.id hbare :)
  have havail := sockSchedAvail_bare hbare
  have hq : Quiet (setSock ctx sid (txSockTxBump (sockOf ctx sid) txBump))
      (setSock { ctx with pkt } sid s) := by
    refine Quiet.setSock ?_ sid hbare
    exact quiet_of_eq rfl rfl rfl rfl rfl
  rw [havail]
  by_cases hpos : 0 < sockSchedAvail (txSockTxBump (sockOf ctx sid) txBump)
  · have hret : (ctxSchedAdd (txSchedTsc (setSock { ctx with pkt } sid s) sid).2 s.id
        (txSchedTsc (setSock { ctx with pkt } sid s) sid).1
        (sockSchedAvail (txSockTxBump (sockOf ctx sid) txBump))).2 = 0 :=
      schedAdd_ret _ _ _ _
    rw [if_pos hpos, hret, if_neg (by decide)]
    simp only [if_pos hpos]
    refine ⟨hq.trans ((quiet_txSchedTsc _ sid).trans (quiet_ctxSchedAdd _ _ _ _)),
      ⟨(txSchedTsc (setSock { ctx with pkt } sid s) sid).1, ?_⟩, trivial, ?_⟩
    · rw [← hid, txSchedTsc_snd]
      rfl
    · rw [txSchedTsc_snd]
      rfl
  · rw [if_neg hpos]
    simp only [if_neg hpos]
    exact ⟨hq, ⟨0, rfl⟩, trivial, rfl⟩

/-- With the fast path's packet room the event never fails. -/
theorem txSend_eq {ctx : TcpCtx} {sid : Nat} (nowTsc : UInt64) {txBump : UInt32}
    (hbump : txGetTxBump (sockOf ctx sid) (txGetMaxPaylen ctx txGetHdrlen) = txBump)
    (h₁ : 1472 ≤ ctx.pktRoom) (h₂ : ctx.pktRoom ≤ 1500) :
    txSend ctx sid nowTsc =
      if txBump > 0 then
        txSendPayload (txFillHdr ctx sid txGetHdrlen txBump) sid txGetHdrlen txBump nowTsc
      else (txFillHdr ctx sid txGetHdrlen txBump, .ok (txGetHdrlen + txBump).toNat) := by
  have hlen : isPktlenValid ctx = true := by
    unfold isPktlenValid
    rw [decide_eq_true_eq]
    show 40 ≤ ctx.pktRoom
    omega
  have hval := isPaylenValid_txBump (sockOf ctx sid) h₁ h₂
  unfold txSend
  dsimp only
  rw [hbump] at hval ⊢
  rw [hlen, hval]
  rfl

/-- **One scheduled segment.** With the fast path's packet room the event
never fails: it sends a header alone, or a header and `txBump` bytes of the
transmit ring. -/
theorem txSend_spec {ctx : TcpCtx} {sid : Nat} (nowTsc : UInt64) {txBump : UInt32}
    (hbump : txGetTxBump (sockOf ctx sid) (txGetMaxPaylen ctx txGetHdrlen) = txBump)
    (h₁ : 1472 ≤ ctx.pktRoom) (h₂ : ctx.pktRoom ≤ 1500) :
    (txBump = 0 ∧ Quiet ctx (txSend ctx sid nowTsc).1 ∧
      (txSend ctx sid nowTsc).1.sched = ctx.sched ∧
      (txSend ctx sid nowTsc).2 = .ok 52) ∨
    (0 < txBump ∧ Quiet (setSock ctx sid (txSockTxBump (sockOf ctx sid) txBump))
        (txSend ctx sid nowTsc).1 ∧
      (∃ prio, (txSend ctx sid nowTsc).1.sched =
        if 0 < sockSchedAvail (txSockTxBump (sockOf ctx sid) txBump) then
          (schedAdd ctx.sched (sockOf ctx sid).id prio
            (sockSchedAvail (txSockTxBump (sockOf ctx sid) txBump))).1
        else ctx.sched) ∧
      (txSend ctx sid nowTsc).2 = .ok (txGetHdrlen + txBump).toNat ∧
      ∃ sock, sock.bare = (sockOf ctx sid).bare ∧ (txSend ctx sid nowTsc).1.pkt =
        (txCopyPayload (txFillHdr ctx sid txGetHdrlen txBump) sock txGetHdrlen txBump).pkt) := by
  rw [txSend_eq nowTsc hbump h₁ h₂]
  have hfill := quiet_txFillHdr ctx sid txGetHdrlen txBump
  by_cases hpos : txBump > 0
  · rw [if_pos hpos]
    right
    obtain ⟨hq, ⟨prio, hs⟩, hret, hpkt⟩ :=
      txSendPayload_spec (txFillHdr ctx sid txGetHdrlen txBump) sid txGetHdrlen txBump nowTsc
    have hbare := hfill.socks sid
    have htx : (txSockTxBump (sockOf (txFillHdr ctx sid txGetHdrlen txBump) sid) txBump).bare =
        (txSockTxBump (sockOf ctx sid) txBump).bare := txSockTxBump_bare txBump hbare
    refine ⟨hpos, (hfill.setSock sid htx).trans hq, ⟨prio, ?_⟩, hret, _, hbare, hpkt⟩
    have hid : (sockOf (txFillHdr ctx sid txGetHdrlen txBump) sid).id = (sockOf ctx sid).id :=
      (congrArg TcpSock.id hbare :)
    rw [hs, sockSchedAvail_bare htx, hid, txFillHdr_sched]
  · rw [if_neg hpos]
    have hz : txBump = 0 := UInt32.le_zero_iff.mp (UInt32.not_lt.mp hpos)
    left
    refine ⟨hz, hfill, txFillHdr_sched _ _ _ _, ?_⟩
    rw [hz]
    rfl

end Chamelio.Tcp
