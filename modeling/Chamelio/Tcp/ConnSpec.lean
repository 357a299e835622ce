import Chamelio.Tcp.Conn

/-!
# What each event does to the connection's socket

Inversion lemmas for the fast-path events, seen from one connection. `Calm`
is the frame: the sockets are the same up to bookkeeping, and so are the
memory and the application's queue. Each event is an edit of one socket,
and possibly of the memory and of the queue, between calm steps.
-/

namespace Chamelio.Tcp

open Chamelio.Lib Chamelio.Util Chamelio.Pkt Chamelio.Fast

/-- The fields of a socket that name it. -/
def TcpSock.ident (s : TcpSock) : TcpSock :=
  { TcpSock.zero with
    state := s.state, opaquePtr := s.opaquePtr, appBumpQid := s.appBumpQid
    rxLen := s.rxLen, rxOff := s.rxOff, txLen := s.txLen, txOff := s.txOff }

/-- Those fields, for an established connection. -/
def ConnId.ident (g : ConnId) : TcpSock :=
  { TcpSock.zero with
    state := .established, opaquePtr := g.opaquePtr, appBumpQid := g.appBumpQid
    rxLen := g.rxLen, rxOff := g.rxOff, txLen := g.txLen, txOff := g.txOff }

/-- The connection's socket is established and the only open one, and the
queues of the slow path are not the application's. -/
structure FastOwns (g : ConnId) (ctx : TcpCtx) : Prop where
  found : g.sid < ctx.maps.sockNelems
  sock : (sockOf ctx g.sid).ident = g.ident
  alone : ∀ i, i ≠ g.sid → (sockOf ctx i).state = .closed
  cfg : ∀ cfg, ctx.maps.cfg = some cfg → ∀ core,
    g.appBumpQid.toNat ≠ (cfg.fastSlowPktQids core).toNat ∧
    g.appBumpQid.toNat ≠ (cfg.fastSlowSigQids core).toNat

/-- Sockets up to bookkeeping, memory and the application's queue are the
same. -/
structure Calm (g : ConnId) (a b : TcpCtx) : Prop where
  socks : ∀ i, (sockOf b i).bare = (sockOf a i).bare
  sockNelems : b.maps.sockNelems = a.maps.sockNelems
  cfg : b.maps.cfg = a.maps.cfg
  shm : b.shm = a.shm
  queue : b.equeues g.appBumpQid.toNat = a.equeues g.appBumpQid.toNat

theorem Calm.refl (g : ConnId) (ctx : TcpCtx) : Calm g ctx ctx :=
  ⟨fun _ => rfl, rfl, rfl, rfl, rfl⟩

theorem Calm.trans {g : ConnId} {a b c : TcpCtx} (h₁ : Calm g a b) (h₂ : Calm g b c) :
    Calm g a c :=
  ⟨fun i => (h₂.socks i).trans (h₁.socks i), h₂.sockNelems.trans h₁.sockNelems,
    h₂.cfg.trans h₁.cfg, h₂.shm.trans h₁.shm, h₂.queue.trans h₁.queue⟩

theorem Quiet.calm {a b : TcpCtx} (h : Quiet a b) (g : ConnId) : Calm g a b :=
  ⟨h.socks, h.sockNelems, h.cfg, h.shm, by rw [h.equeues]⟩

/-- A new packet, clock, scheduler or entry is calm. -/
theorem calm_of_eq {g : ConnId} {a b : TcpCtx} (hm : b.maps = a.maps) (hs : b.shm = a.shm)
    (hq : b.equeues = a.equeues) : Calm g a b := by
  refine ⟨fun i => ?_, by rw [hm], by rw [hm], hs, by rw [hq]⟩
  unfold sockOf
  rw [hm]

theorem ident_of_bare {s s' : TcpSock} (h : s'.bare = s.bare) : s'.ident = s.ident := by
  have key : ∀ s : TcpSock, s.ident = s.bare.ident := fun _ => rfl
  rw [key s', key s, h]

theorem FastOwns.calm {g : ConnId} {a b : TcpCtx} (h : FastOwns g a) (hc : Calm g a b) :
    FastOwns g b := by
  refine ⟨?_, ?_, ?_, ?_⟩
  · rw [hc.sockNelems]
    exact h.found
  · rw [ident_of_bare (hc.socks g.sid)]
    exact h.sock
  · intro i hi
    rw [← h.alone i hi]
    exact (congrArg TcpSock.state (hc.socks i) :)
  · rw [hc.cfg]
    exact h.cfg

theorem FastOwns.of_maps {g : ConnId} {a b : TcpCtx} (h : FastOwns g a) (hm : b.maps = a.maps) :
    FastOwns g b := by
  refine ⟨?_, ?_, ?_, ?_⟩
  · rw [hm]
    exact h.found
  · unfold sockOf
    rw [hm]
    exact h.sock
  · unfold sockOf
    rw [hm]
    exact h.alone
  · rw [hm]
    exact h.cfg

/-- Editing a socket under its name. -/
theorem FastOwns.set {g : ConnId} {ctx : TcpCtx} (h : FastOwns g ctx) {j : Nat} {s : TcpSock}
    (hs : s.ident = (sockOf ctx j).ident) : FastOwns g (setSock ctx j s) := by
  refine ⟨h.found, ?_, ?_, h.cfg⟩
  · by_cases hj : g.sid = j
    · rw [← hj, sockOf_setSock, ← h.sock, hs, hj]
    · rw [sockOf_setSock_ne _ _ hj]
      exact h.sock
  · intro i hi
    by_cases hj : i = j
    · rw [hj, sockOf_setSock, ← h.alone i hi, hj]
      exact (congrArg TcpSock.state hs :)
    · rw [sockOf_setSock_ne _ _ hj]
      exact h.alone i hi

theorem FastOwns.setQueue {g : ConnId} {ctx : TcpCtx} (h : FastOwns g ctx) (qid : Nat)
    (q : Fifo TcpQe) : FastOwns g (ctx.setQueue qid q) :=
  ⟨h.found, h.sock, h.alone, h.cfg⟩

section fields

variable {g : ConnId} {ctx : TcpCtx} (h : FastOwns g ctx)

include h

theorem FastOwns.qid : (sockOf ctx g.sid).appBumpQid = g.appBumpQid :=
  (congrArg TcpSock.appBumpQid h.sock :)

theorem FastOwns.opq : (sockOf ctx g.sid).opaquePtr = g.opaquePtr :=
  (congrArg TcpSock.opaquePtr h.sock :)

theorem FastOwns.txLen : (sockOf ctx g.sid).txLen = g.txLen :=
  (congrArg TcpSock.txLen h.sock :)

theorem FastOwns.txOff : (sockOf ctx g.sid).txOff = g.txOff :=
  (congrArg TcpSock.txOff h.sock :)

theorem FastOwns.rxLen : (sockOf ctx g.sid).rxLen = g.rxLen :=
  (congrArg TcpSock.rxLen h.sock :)

theorem FastOwns.rxOff : (sockOf ctx g.sid).rxOff = g.rxOff :=
  (congrArg TcpSock.rxOff h.sock :)

theorem FastOwns.state : (sockOf ctx g.sid).state = .established :=
  (congrArg TcpSock.state h.sock :)

theorem FastOwns.appQueue : appQueue ctx g.sid = ctx.equeues g.appBumpQid.toNat := by
  unfold Tcp.appQueue
  rw [h.qid]

/-- The connection's id finds its socket. -/
theorem FastOwns.lookup : sockMapLookup ctx g.sockId = some g.sid := by
  have hlt : ¬ g.sockId.toNat ≥ ctx.maps.sockNelems := Nat.not_le.mpr h.found
  unfold sockMapLookup
  rw [if_neg hlt]
  rfl

end fields

/-! ## Receive -/

/-- Storing a payload. -/
theorem FastOwns.delivered {g : ConnId} {ctx : TcpCtx} (h : FastOwns g ctx) (src : Nat)
    (b : UInt32) (q : Fifo TcpQe) : FastOwns g (delivered ctx g.sid src b q) := by
  have howns := h.of_maps (rxCopyPayload_maps ctx (sockOf ctx g.sid) src b)
  refine (howns.set ?_).setQueue _ q
  rw [howns.sock, ← h.sock]
  rfl

theorem ackedSock_ident (p : Nat → UInt8) (s : TcpSock) : (ackedSock p s).ident = s.ident := by
  unfold ackedSock rxSockBumpAck tcpSockRecoveryAck
  dsimp only
  split
  · split
    · split <;> rfl
    · rfl
  · rfl

theorem rewoundSock_ident (s : TcpSock) : (rewoundSock s).ident = s.ident := by
  unfold rewoundSock tcpSockRecoveryEnter
  dsimp only
  split <;> rfl

/-- `sock_find` only finds open sockets. -/
theorem sockFind_open {ctx : TcpCtx} {j : Nat} (h : sockFind ctx = some j) :
    (sockOf ctx j).state ≠ .closed := by
  unfold sockFind at h
  dsimp only at h
  split at h
  · cases h
  · obtain ⟨k, -, hk⟩ := List.exists_of_findSome?_eq_some h
    unfold sockFindSlot at hk
    split at hk
    · cases hk
    · split at hk
      · cases hk
      · dsimp only at hk
        split at hk
        · cases hk
        · next hopen =>
          split at hk
          · cases hk
            exact hopen
          · cases hk

/-- What the payload stage does to the connection, on a context `ctx₁` in
which the acknowledgement was handled. -/
inductive RxPayload (g : ConnId) (ctx ctx₁ ctx' : TcpCtx) : Prop
  | nothing (hc : Calm g ctx₁ ctx')
    (hwhy : rxIsAckOnly ctx.pkt = true ∨ rxIsPayloadDup ctx.pkt (sockOf ctx g.sid) = true ∨
      rxIsOutOfOrder ctx.pkt (sockOf ctx g.sid) = true ∨
      isPaylenValid ctx (rxGetHdrlen ctx.pkt) (rxGetPaylen ctx.pkt).toUInt32 = false ∨
      rxGetRxBump (sockOf ctx₁ g.sid) ((rxGetPaylen ctx.pkt).toUInt32 -
        rxGetPayloadOverlap ctx.pkt (sockOf ctx g.sid)) = 0)
  | stored {b : UInt32} {q : Fifo TcpQe} (hpos : 0 < b)
    (hb : rxGetRxBump (sockOf ctx₁ g.sid) ((rxGetPaylen ctx.pkt).toUInt32 -
      rxGetPayloadOverlap ctx.pkt (sockOf ctx g.sid)) = b)
    (hord : rxIsOutOfOrder ctx.pkt (sockOf ctx g.sid) = false)
    (hpush : (appQueue ctx₁ g.sid).push (.bumpAppRx (sockOf ctx₁ g.sid).opaquePtr
      (tcpSrc ctx.pkt) (ipSrc ctx.pkt) b) = some q)
    (hc : Calm g (delivered ctx₁ g.sid ((rxGetHdrlen ctx.pkt).toNat +
      (rxGetPayloadOverlap ctx.pkt (sockOf ctx g.sid)).toNat) b q) ctx')

/-- What a segment accepted by the socket does: from `ctx`, calmly reached
from the event's context, the acknowledgement is applied and announced,
then the payload is handled. -/
def RxTrace (g : ConnId) (ctx ctx' : TcpCtx) : Prop :=
  ∃ s₁ q ctx₁,
    (s₁ = ackedSock ctx.pkt (sockOf ctx g.sid) ∨
      (rxIsAck ctx.pkt = true ∧ s₁ = rewoundSock (ackedSock ctx.pkt (sockOf ctx g.sid)))) ∧
    AckQueue ctx g.sid q ∧ Calm g (withSockQueue ctx g.sid s₁ q) ctx₁ ∧
    ctx₁.pkt = ctx.pkt ∧ RxPayload g ctx ctx₁ ctx'

theorem rxSegment_trace {g : ConnId} {ctx : TcpCtx}
    (hno : (rxSegment ctx g.sid (rxGetHdrlen ctx.pkt)).2 ≠ .error .appBump) :
    RxTrace g ctx (rxSegment ctx g.sid (rxGetHdrlen ctx.pkt)).1 := by
  rcases rxSegment_spec ctx g.sid (rxGetHdrlen ctx.pkt) with
    ⟨ctx₁, heq, -, -⟩ | ⟨ctx₁, s₁, q, fr, hs₁, hAQ, hp, hq, heq⟩
  · rw [heq] at hno
    exact absurd rfl hno
  · refine ⟨s₁, q, ctx₁, hs₁, hAQ, hq.calm g, hp, ?_⟩
    rw [heq] at hno ⊢
    by_cases honly : rxIsAckOnly ctx.pkt = true
    · rw [if_pos honly]
      exact .nothing (Calm.refl g ctx₁) (Or.inl honly)
    · rw [if_neg honly] at hno ⊢
      have hroom : ∀ a b, isPaylenValid ctx₁ a b = isPaylenValid ctx a b := by
        intro a b
        unfold isPaylenValid
        rw [hq.pktRoom]
        rfl
      rcases rxPayload_spec ctx₁ g.sid (rxAckStage ctx g.sid).2 (rxGetHdrlen ctx.pkt) fr rfl with
        ⟨hquiet, -, hwhy⟩ | ⟨hpos, hord, -, ⟨q', hpush, hquiet, -⟩ | ⟨-, herr, -⟩⟩
      · refine .nothing (hquiet.calm g) (Or.inr ?_)
        unfold NothingNew at hwhy
        rw [hroom, hp] at hwhy
        exact hwhy
      · rw [hp] at hpos hpush hquiet
        exact .stored hpos rfl hord hpush (hquiet.calm g)
      · exact absurd herr hno

/-- **A received segment.** It leaves the connection alone, or acts on its
socket as `RxTrace` says. -/
theorem tcpEventRx_conn {g : ConnId} {ctx : TcpCtx} (h : FastOwns g ctx)
    (hno : (tcpEventRx ctx).2 ≠ .error .appBump) :
    Calm g ctx (tcpEventRx ctx).1 ∨
    ∃ ctx₀, Calm g ctx ctx₀ ∧ ctx₀.pkt = ctx.pkt ∧ ctx₀.pktRoom = ctx.pktRoom ∧
      RxTrace g ctx₀ (tcpEventRx ctx).1 := by
  have hpunt : Calm g ctx (rxPuntCtl ctx).1 := by
    obtain ⟨heq, -, hq⟩ := rxPuntCtl_frame ctx
    have hqueue := hq g.appBumpQid.toNat (fun cfg hcfg => h.cfg cfg hcfg ctx.core.toNat)
    rw [heq]
    exact ⟨fun _ => rfl, rfl, rfl, rfl, hqueue⟩
  unfold tcpEventRx at hno ⊢
  split
  · exact Or.inl (Calm.refl g ctx)
  · next h₁ =>
    rw [if_neg h₁] at hno
    split
    · exact Or.inl (Calm.refl g ctx)
    · next h₂ =>
      rw [if_neg h₂] at hno
      split
      · exact Or.inl hpunt
      · next h₃ =>
        rw [if_neg h₃] at hno
        cases hf : sockFind ctx with
        | none => exact Or.inl (Calm.refl g ctx)
        | some j =>
          rw [hf] at hno
          obtain rfl : j = g.sid := by
            by_contra hj
            exact sockFind_open hf (h.alone j hj)
          dsimp only at hno ⊢
          have hst : ¬ (sockOf ctx g.sid).state ≠ .established := fun hne => hne h.state
          rw [if_neg hst] at hno ⊢
          unfold rxEstablished at hno ⊢
          dsimp only at hno ⊢
          have hmark := quiet_rxMarkCe ctx g.sid
          have hp := rxMarkCe_pkt ctx g.sid
          generalize rxMarkCe ctx g.sid = ctx₀ at hno hmark hp ⊢
          split
          · exact Or.inl ((hmark.trans (quiet_txFillAck ctx₀ g.sid)).calm g)
          · next hval =>
            rw [if_neg hval] at hno
            exact Or.inr ⟨ctx₀, hmark.calm g, hp, hmark.pktRoom, rxSegment_trace hno⟩

/-! ## Dequeue -/

/-- Dropping the head of the queue to the fast path. -/
theorem outQueue_popOut (g : ConnId) (lib : TcpLib) :
    outQueue g (popOut g lib) = (outQueue g lib).pop := by
  unfold outQueue popOut
  rw [TcpLib.setCtx_ctxs]
  exact if_pos rfl

theorem LibOwns.popOut {g : ConnId} {lib : TcpLib} (h : LibOwns g lib) : LibOwns g (popOut g lib) := by
  refine ⟨h.fd, h.ctx, h.core, h.sockId, ?_⟩
  unfold Tcp.popOut
  rw [TcpLib.setCtx_ctxs]
  exact h.listed

/-- With the fast path's packet room an ACK is always built. -/
theorem txFillAck_ok {ctx : TcpCtx} (sid : Nat) (hroom : 1472 ≤ ctx.pktRoom) :
    (txFillAck ctx sid).2 = .ok 52 := by
  have h₁ : isPktlenValid ctx = true := by
    unfold isPktlenValid
    rw [decide_eq_true_eq]
    show 40 ≤ ctx.pktRoom
    omega
  have h₂ : isPaylenValid ctx txGetHdrlen 0 = true := by
    unfold isPaylenValid
    rw [decide_eq_true_eq]
    show 52 + 0 ≤ ctx.pktRoom
    omega
  unfold txFillAck
  rw [h₁, h₂]
  rfl

/-- A transmit bump either fails and changes nothing, or is applied. -/
theorem deqHandleBumpTx_conn {g : ConnId} {ctx : TcpCtx} (h : FastOwns g ctx) (txPort : UInt16)
    (txIp txAvail : UInt32) :
    (∃ err, deqHandleBumpTx ctx g.sockId txPort txIp txAvail = (ctx, .error err)) ∨
    ((deqHandleBumpTx ctx g.sockId txPort txIp txAvail).2 = .ok 0 ∧
      Calm g (setSock ctx g.sid (deqSockBumpTx (sockOf ctx g.sid) txPort txIp txAvail))
        (deqHandleBumpTx ctx g.sockId txPort txIp txAvail).1) := by
  unfold deqHandleBumpTx
  split
  · exact Or.inl ⟨_, rfl⟩
  · right
    rw [h.lookup]
    dsimp only
    generalize setSock ctx g.sid _ = ctx₁
    have hret : (ctxSchedAdd (txSchedTsc ctx₁ g.sid).2
        (sockOf (txSchedTsc ctx₁ g.sid).2 g.sid).id (txSchedTsc ctx₁ g.sid).1 txAvail).2 = 0 :=
      schedAdd_ret _ _ _ _
    rw [hret, if_neg (by decide)]
    exact ⟨rfl, ((quiet_txSchedTsc ctx₁ g.sid).trans (quiet_ctxSchedAdd _ _ _ _)).calm g⟩

/-- A receive bump either fails and changes nothing, or is applied. -/
theorem deqHandleBumpRx_conn {g : ConnId} {ctx : TcpCtx} (h : FastOwns g ctx)
    (hroom : 1472 ≤ ctx.pktRoom) (rxHead : UInt32) :
    (∃ err, deqHandleBumpRx ctx g.sockId rxHead = (ctx, .error err)) ∨
    (∃ n, (deqHandleBumpRx ctx g.sockId rxHead).2 = .ok n) ∧
      Calm g (setSock ctx g.sid (deqSockBumpRx (sockOf ctx g.sid) rxHead))
        (deqHandleBumpRx ctx g.sockId rxHead).1 := by
  unfold deqHandleBumpRx
  split
  · exact Or.inl ⟨_, rfl⟩
  · right
    rw [h.lookup]
    dsimp only
    generalize hctx : setSock ctx g.sid (deqSockBumpRx (sockOf ctx g.sid) rxHead) = ctx₁
    have hroom₁ : 1472 ≤ ctx₁.pktRoom := by
      rw [← hctx]
      exact hroom
    split
    · exact ⟨⟨52, txFillAck_ok g.sid hroom₁⟩, (quiet_txFillAck ctx₁ g.sid).calm g⟩
    · exact ⟨⟨0, rfl⟩, Calm.refl g ctx₁⟩

/-- A retransmit command is stale, or rewinds one socket. -/
theorem deqHandleRetransmit_conn (g : ConnId) (ctx : TcpCtx) (sockId txSeq txPending : UInt32) :
    Calm g ctx (deqHandleRetransmit ctx sockId txSeq txPending).1 ∨
    ∃ j, Calm g (setSock ctx j (rewoundSock (sockOf ctx j)))
      (deqHandleRetransmit ctx sockId txSeq txPending).1 := by
  unfold deqHandleRetransmit
  split
  · exact Or.inl (Calm.refl g ctx)
  · split
    · exact Or.inl (Calm.refl g ctx)
    · next j _ =>
      split
      · exact Or.inl (Calm.refl g ctx)
      · exact Or.inr ⟨j, (remit_spec ctx j).calm g⟩

/-! ## Scheduler -/

/-- **A scheduler event.** It leaves the sockets alone and carries no
payload, or sends `b` bytes of the socket it serves. -/
theorem tcpEventSched_conn (g : ConnId) {ctx : TcpCtx} (h₁ : 1472 ≤ ctx.pktRoom)
    (h₂ : ctx.pktRoom ≤ 1500) :
    (Calm g ctx (tcpEventSched ctx).1 ∧ ∀ n, (tcpEventSched ctx).2 = .ok n → n ≤ 52) ∨
    ∃ j b ctx₀ sock, schedTarget ctx = some j ∧ 0 < b ∧
      b.toNat ≤ (sockOf ctx j).txAvail.toNat ∧ b.toNat ≤ 1448 ∧
      Calm g (setSock ctx j (txSockTxBump (sockOf ctx j) b)) (tcpEventSched ctx).1 ∧
      (tcpEventSched ctx).2 = .ok (52 + b.toNat) ∧
      sock.bare = (sockOf ctx j).bare ∧ ctx₀.shm = ctx.shm ∧ sockOf ctx₀ j = sockOf ctx j ∧
      (tcpEventSched ctx).1.pkt =
        (txCopyPayload (txFillHdr ctx₀ j txGetHdrlen b) sock txGetHdrlen b).pkt := by
  unfold tcpEventSched schedTarget
  cases hhead : schedHead ctx.sched with
  | none => exact Or.inl ⟨Calm.refl g ctx, by rintro n ⟨⟩; omega⟩
  | some entry =>
    dsimp only
    split
    · exact Or.inl ⟨calm_of_eq rfl rfl rfl, by rintro n ⟨⟩; omega⟩
    · split
      · exact Or.inl ⟨calm_of_eq rfl rfl rfl, by rintro n ⟨⟩⟩
      · have hlook : sockMapLookup { ctx with
            clk := (clockRdtsc ctx.clk).2, sched := (schedPop ctx.sched).1 } entry.id =
            sockMapLookup ctx entry.id := rfl
        rw [hlook]
        cases hj : sockMapLookup ctx entry.id with
        | none => exact Or.inl ⟨calm_of_eq rfl rfl rfl, by rintro n ⟨⟩⟩
        | some j =>
          dsimp only
          generalize hctx : ({ ctx with
            clk := (clockRdtsc ctx.clk).2, sched := (schedPop ctx.sched).1 } : TcpCtx) = ctx₀
          have hcalm : Calm g ctx ctx₀ := by
            rw [← hctx]
            exact calm_of_eq rfl rfl rfl
          have hsock : sockOf ctx₀ j = sockOf ctx j := by rw [← hctx]; rfl
          have hr₁ : 1472 ≤ ctx₀.pktRoom := by rw [← hctx]; exact h₁
          have hr₂ : ctx₀.pktRoom ≤ 1500 := by rw [← hctx]; exact h₂
          have hbump := toNat_txGetTxBump (sockOf ctx₀ j) (txGetMaxPaylen ctx₀ txGetHdrlen)
          rw [toNat_txGetMaxPaylen hr₁ hr₂] at hbump
          generalize hb : txGetTxBump (sockOf ctx₀ j) (txGetMaxPaylen ctx₀ txGetHdrlen) = b
            at hbump
          rcases txSend_spec (clockRdtsc ctx.clk).1 hb hr₁ hr₂ with
            ⟨-, hq, -, hret⟩ | ⟨hpos, hq, -, hret, sock, hbare, hpkt⟩
          · refine Or.inl ⟨hcalm.trans (hq.calm g), ?_⟩
            intro n hn
            rw [hret] at hn
            cases hn
            exact Nat.le_refl 52
          · right
            have h52 : (txGetHdrlen + b).toNat = 52 + b.toNat := by
              rw [toNat_add_of_lt] <;> rw [show txGetHdrlen.toNat = 52 from rfl]
              omega
            refine ⟨j, b, ctx₀, sock, rfl, hpos, ?_, by omega, ?_, ?_, ?_, hcalm.shm, hsock, hpkt⟩
            · rw [← hsock]
              omega
            · rw [← hsock]
              refine Calm.trans ?_ (hq.calm g)
              rw [← hctx]
              exact calm_of_eq rfl rfl rfl
            · rw [hret, h52]
            · rw [hbare, hsock]

/-! ## A fresh connection -/

theorem freshConn_fast (len : UInt32) : FastOwns (freshConnId len) (freshConn len).fast := by
  refine ⟨Nat.zero_lt_one, rfl, ?_, ?_⟩
  · intro i hi
    have hne : ¬ i = 0 := hi
    show (if i = 0 then _ else TcpSock.zero).state = .closed
    rw [if_neg hne]
    rfl
  · intro cfg hcfg
    cases hcfg

theorem freshConn_lib (len : UInt32) : LibOwns (freshConnId len) (freshConn len).lib :=
  ⟨rfl, rfl, rfl, rfl, Or.inr ⟨rfl, rfl, rfl⟩⟩

end Chamelio.Tcp
