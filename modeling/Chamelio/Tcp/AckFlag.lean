import Mathlib.Algebra.GroupWithZero.Nat
import Chamelio.Tcp.LibSpec
import Chamelio.Tcp.RxSpec

/-!
# Segments without the ACK flag

`tcp_event_rx` applies an acknowledgement in two places: to the socket,
under `if (is_ack)`, and to the application through a bump, under
`if (!is_ack_dup)`. The second guard does not look at the ACK flag, so a
segment that acknowledges nothing still releases `ack_bump` bytes of the
application's ring when its acknowledgement field happens to lie in the
send window. `acksNothing_iff` says exactly when the two sides agree.
-/

namespace Chamelio.Tcp

open Chamelio.Lib Chamelio.Util Chamelio.Pkt Chamelio.Fast

/-- The entries an event added to the application's queue. -/
def newEntries (ctx ctx' : TcpCtx) (sid : Nat) : List TcpQe :=
  (appQueue ctx' sid).items.drop (appQueue ctx sid).items.length

/-- The application handles entries in order. -/
def libConsume (lib : TcpLib) (es : List TcpQe) : TcpLib :=
  es.foldl (fun lib e => (libHandleEntry lib e).getD lib) lib

/-- The transmit heads of both sides agree, up to the bumps in flight. -/
def TxRingEq (lib : TcpLib) (i : Nat) (ctx : TcpCtx) (sid : Nat) : Prop :=
  (sockOf ctx sid).txHead.toNat =
    ((lib.socks i).txHead.toNat + (appQueue ctx sid).sum appTxAmount) %
      (sockOf ctx sid).txLen.toNat

/-- The received segment acknowledges nothing: neither on the fast path,
nor, once its entries are handled, in any application that owns the socket;
and the ring equation survives it. -/
structure AcksNothing (ctx : TcpCtx) (sid : Nat) : Prop where
  fast : (sockOf (tcpEventRx ctx).1 sid).txSeq = (sockOf ctx sid).txSeq ∧
    (sockOf (tcpEventRx ctx).1 sid).txHead = (sockOf ctx sid).txHead ∧
    (sockOf (tcpEventRx ctx).1 sid).txPending = (sockOf ctx sid).txPending ∧
    (sockOf (tcpEventRx ctx).1 sid).txAvail = (sockOf ctx sid).txAvail
  app : ∀ (lib : TcpLib) (i : Nat), lib.sockAt (sockOf ctx sid).opaquePtr = some i →
    ((libConsume lib (newEntries ctx (tcpEventRx ctx).1 sid)).socks i).txHead =
      (lib.socks i).txHead ∧
    ((libConsume lib (newEntries ctx (tcpEventRx ctx).1 sid)).socks i).txAvail =
      (lib.socks i).txAvail
  ring : ∀ (lib : TcpLib) (i : Nat), TxRingEq lib i ctx sid →
    TxRingEq lib i (tcpEventRx ctx).1 sid

/-! ## The fast-path half -/

/-- What a transmit-side observer sees of a socket. -/
def TxSame (s s' : TcpSock) : Prop :=
  s'.txSeq = s.txSeq ∧ s'.txHead = s.txHead ∧ s'.txPending = s.txPending ∧
  s'.txAvail = s.txAvail ∧ s'.txLen = s.txLen ∧ s'.appBumpQid = s.appBumpQid

theorem txSame_of_bare {s s' : TcpSock} (h : s'.bare = s.bare) : TxSame s s' :=
  ⟨(congrArg TcpSock.txSeq h :), (congrArg TcpSock.txHead h :), (congrArg TcpSock.txPending h :),
    (congrArg TcpSock.txAvail h :), (congrArg TcpSock.txLen h :),
    (congrArg TcpSock.appBumpQid h :)⟩

theorem TxSame.trans {a b c : TcpSock} (h₁ : TxSame a b) (h₂ : TxSame b c) : TxSame a c := by
  obtain ⟨a₁, a₂, a₃, a₄, a₅, a₆⟩ := h₁
  obtain ⟨b₁, b₂, b₃, b₄, b₅, b₆⟩ := h₂
  exact ⟨b₁.trans a₁, b₂.trans a₂, b₃.trans a₃, b₄.trans a₄, b₅.trans a₅, b₆.trans a₆⟩

/-- Without the ACK flag only the window of the socket moves. -/
theorem ackedSock_not_ack {p : Nat → UInt8} (h : rxIsAck p = false) (s : TcpSock) :
    TxSame s (ackedSock p s) := by
  unfold ackedSock
  simp only [h, Bool.false_eq_true, if_false]
  exact ⟨rfl, rfl, rfl, rfl, rfl, rfl⟩

/-- Entries of payload bumps only. -/
def RxBumps (es : List TcpQe) : Prop :=
  ∀ e ∈ es, ∃ o p i a, e = .bumpAppRx o p i a

/-- The payload stage: the transmit side of the socket is the same, and the
queue has grown by payload bumps. -/
theorem rxPayload_txSame (ctx : TcpCtx) (sid : Nat) (v : RxLocals) (hdrlen : UInt32)
    (fr : Bool) :
    TxSame (sockOf ctx sid) (sockOf (rxPayload ctx sid v hdrlen fr).1 sid) ∧
    ∃ es, RxBumps es ∧ (appQueue (rxPayload ctx sid v hdrlen fr).1 sid).items =
      (appQueue ctx sid).items ++ es := by
  have hrx : ∀ b, TxSame (sockOf ctx sid) (rxSockBumpRx (sockOf ctx sid) b) :=
    fun _ => ⟨rfl, rfl, rfl, rfl, rfl, rfl⟩
  generalize hb : rxGetRxBump (sockOf ctx sid) ((rxGetPaylen ctx.pkt).toUInt32 - v.overlap) = b
  rcases rxPayload_spec ctx sid v hdrlen fr hb with
    ⟨hq, -⟩ | ⟨-, -, -, ⟨q, hpush, hq, -⟩ | ⟨-, -, heq⟩⟩
  · refine ⟨txSame_of_bare (hq.socks sid), [], by simp [RxBumps], ?_⟩
    rw [hq.appQueue, List.append_nil]
  · constructor
    · have h := txSame_of_bare (hq.socks sid)
      rw [sockOf_delivered] at h
      exact (hrx b).trans h
    · refine ⟨[.bumpAppRx (sockOf ctx sid).opaquePtr (tcpSrc ctx.pkt) (ipSrc ctx.pkt) b],
        fun e he => ?_, ?_⟩
      · exact ⟨_, _, _, _, List.mem_singleton.mp he⟩
      · rw [hq.appQueue, appQueue_delivered, Fifo.push_items hpush]
  · rw [heq]
    refine ⟨?_, [], by simp [RxBumps], ?_⟩
    · rw [sockOf_setSock]
      exact hrx b
    · unfold appQueue
      rw [sockOf_setSock, setSock_equeues, rxCopyPayload_equeues, List.append_nil]
      rfl

/-- A non-ACK segment with readable headers: the transmit side of the socket
is the same; and the queue grew by nothing, when it had no room for the
bump, else by the bump of an unrepeated acknowledgement number and payload
bumps. -/
theorem rxSegment_not_ack {ctx : TcpCtx} {sid : Nat} {hdrlen : UInt32}
    (hna : rxIsAck ctx.pkt = false) :
    TxSame (sockOf ctx sid) (sockOf (rxSegment ctx sid hdrlen).1 sid) ∧
    (((appQueue ctx sid).hasRoom = false ∧
        (appQueue (rxSegment ctx sid hdrlen).1 sid).items = (appQueue ctx sid).items) ∨
      ∃ q es, AckQueue ctx sid q ∧ RxBumps es ∧
        (appQueue (rxSegment ctx sid hdrlen).1 sid).items = q.items ++ es) := by
  have hsame := ackedSock_not_ack hna (sockOf ctx sid)
  rcases rxSegment_spec ctx sid hdrlen with
    ⟨ctx₁, heq, hpush, hq⟩ | ⟨ctx₁, s₁, q, fr, hs₁, hAQ, -, hq, heq⟩
  · rw [heq]
    refine ⟨hsame.trans (txSame_of_bare hq.sock), Or.inl ⟨?_, ?_⟩⟩
    · unfold Fifo.push at hpush
      split at hpush
      · cases hpush
      · next h => simpa using h
    · dsimp only
      rw [hq.appQueue]
      unfold appQueue
      rw [sockOf_setSock, setSock_equeues, (ackedSock_queue _ _).1]
  · have hs : s₁ = ackedSock ctx.pkt (sockOf ctx sid) := by
      rcases hs₁ with hs | ⟨hack, -⟩
      · exact hs
      · rw [hna] at hack
        cases hack
    subst hs
    have hb₁ : (sockOf ctx₁ sid).bare = (ackedSock ctx.pkt (sockOf ctx sid)).bare := by
      rw [hq.socks, sockOf_withSockQueue]
    have hqueue : appQueue ctx₁ sid = q := by
      rw [hq.appQueue, appQueue_withSockQueue q (ackedSock_queue _ _).1]
    have hsame₁ := hsame.trans (txSame_of_bare hb₁)
    rw [heq]
    split
    · exact ⟨hsame₁, Or.inr ⟨q, [], hAQ, by simp [RxBumps], by rw [hqueue, List.append_nil]⟩⟩
    · obtain ⟨htx, es, hes, hitems⟩ :=
        rxPayload_txSame ctx₁ sid (rxAckStage ctx sid).2 hdrlen fr
      exact ⟨hsame₁.trans htx, Or.inr ⟨q, es, hAQ, hes, by rw [hitems, hqueue]⟩⟩

/-! ## The application half -/

/-- Payload bumps do not touch the transmit ring. -/
theorem libConsume_rxBumps {es : List TcpQe} (h : RxBumps es) (lib : TcpLib) (i : Nat) :
    ((libConsume lib es).socks i).txHead = (lib.socks i).txHead ∧
    ((libConsume lib es).socks i).txAvail = (lib.socks i).txAvail := by
  induction es generalizing lib with
  | nil => exact ⟨rfl, rfl⟩
  | cons e es ih =>
    obtain ⟨o, p, ip, a, rfl⟩ := h e List.mem_cons_self
    have hstep : ((handleRxBump lib o p ip a).socks i).txHead = (lib.socks i).txHead ∧
        ((handleRxBump lib o p ip a).socks i).txAvail = (lib.socks i).txAvail := by
      unfold handleRxBump
      split
      · exact ⟨rfl, rfl⟩
      · next k _ =>
        dsimp only
        generalize (if a > (lib.socks k).rxLen - (lib.socks k).rxAvail then
          (lib.socks k).rxLen - (lib.socks k).rxAvail else a) = b
        split
        · exact ⟨rfl, rfl⟩
        · split
          · exact ⟨rfl, rfl⟩
          · by_cases hk : i = k
            · rw [hk, TcpLib.setSock_socks]
              exact ⟨rfl, rfl⟩
            · rw [TcpLib.setSock_socks_ne _ _ hk]
              exact ⟨rfl, rfl⟩
    obtain ⟨h₁, h₂⟩ := ih (fun e he => h e (List.mem_cons_of_mem _ he))
      (handleRxBump lib o p ip a)
    exact ⟨h₁.trans hstep.1, h₂.trans hstep.2⟩

/-- A bump of zero bytes is ignored. -/
theorem handleTxBump_zero (lib : TcpLib) (o : UInt64) : handleTxBump lib o 0 = lib := by
  unfold handleTxBump
  split
  · rfl
  · dsimp only
    split
    · rfl
    · rw [if_pos]
      split
      · next h => exact absurd h (by simp)
      · rfl

/-- An application with one byte in its transmit ring. -/
private def oneByteLib : TcpLib :=
  { socks := fun _ =>
      { fd := 0, sockId := 0, ctx := none, core := 0, remotePort := 0, remoteIp := 0
        rxLen := 0, rxAvail := 0, rxHead := 0, rxBuf := 0
        txLen := 2, txAvail := 1, txHead := 0, txBuf := 0
        state := .established, bumpPending := false, bumpNext := tcpBumpNone
        txBumpPending := 0, rxBumpPending := 0 }
    ctxs := fun _ =>
      { appFastQs := fun _ => { items := [], nelems := 0 }
        bumpHead := tcpBumpNone, bumpTail := tcpBumpNone }
    sockAt := fun _ => some 0 }

/-- A nonzero bump empties that ring. -/
private theorem handleTxBump_oneByte (o : UInt64) {k : UInt32} (hk : k ≠ 0) :
    ((handleTxBump oneByteLib o k).socks 0).txAvail = 0 := by
  have hclamp : (if k > (oneByteLib.socks 0).txAvail then (oneByteLib.socks 0).txAvail else k) =
      1 := by
    have hone : (oneByteLib.socks 0).txAvail = 1 := rfl
    rw [hone]
    split
    · rfl
    · next h =>
      apply UInt32.toNat_inj.mp
      have h₁ := UInt32.le_iff_toNat_le.mp (UInt32.not_lt.mp h)
      have h₂ : k.toNat ≠ 0 := fun h0 => hk ((u32_eq_zero_iff k).mpr h0)
      have h₃ : (1 : UInt32).toNat = 1 := rfl
      omega
  have hat : oneByteLib.sockAt o = some 0 := rfl
  unfold handleTxBump
  rw [hat]
  dsimp only
  rw [hclamp]
  rfl

/-! ## Both halves -/

/-- When the bump of a segment reaches the application's queue. -/
def BumpQueued (ctx : TcpCtx) (sid : Nat) : Prop :=
  isPaylenValid ctx (rxGetHdrlen ctx.pkt) 0 = true ∧ (appQueue ctx sid).hasRoom = true ∧
  rxGetAckBump ctx.pkt (sockOf ctx sid) ≠ 0

/-- The entries a non-ACK segment adds: a transmit bump that is empty
unless `BumpQueued`, and payload bumps. -/
def NotAckEntries (ctx : TcpCtx) (sid : Nat) (pre es : List TcpQe) : Prop :=
  RxBumps es ∧
  ((¬ BumpQueued ctx sid ∧
      (pre = [] ∨ pre = [.bumpAppTx (sockOf ctx sid).opaquePtr 0])) ∨
    (BumpQueued ctx sid ∧
      pre = [.bumpAppTx (sockOf ctx sid).opaquePtr (rxGetAckBump ctx.pkt (sockOf ctx sid))]))

theorem rxSegment_entries {ctx : TcpCtx} {sid : Nat} (hna : rxIsAck ctx.pkt = false)
    (hval : isPaylenValid ctx (rxGetHdrlen ctx.pkt) 0 = true) :
    ∃ pre es, NotAckEntries ctx sid pre es ∧
      (appQueue (rxSegment ctx sid (rxGetHdrlen ctx.pkt)).1 sid).items =
        (appQueue ctx sid).items ++ pre ++ es := by
  obtain ⟨-, ⟨hfull, hitems⟩ | ⟨q, es, hAQ, hes, hitems⟩⟩ :=
    @rxSegment_not_ack ctx sid (rxGetHdrlen ctx.pkt) hna
  · refine ⟨[], [], ⟨by simp [RxBumps], Or.inl ⟨fun h => ?_, Or.inl rfl⟩⟩, by simp [hitems]⟩
    exact absurd (hfull.symm.trans h.2.1) (by simp)
  · rcases hAQ with ⟨heq, rfl⟩ | ⟨-, hpush⟩
    · refine ⟨[], es, ⟨hes, Or.inl ⟨fun h => ?_, Or.inl rfl⟩⟩, by simp [hitems]⟩
      exact h.2.2 (rxGetAckBump_of_eq heq)
    · refine ⟨[.bumpAppTx (sockOf ctx sid).opaquePtr (rxGetAckBump ctx.pkt (sockOf ctx sid))],
        es, ⟨hes, ?_⟩, by rw [hitems, Fifo.push_items hpush]⟩
      by_cases hb : rxGetAckBump ctx.pkt (sockOf ctx sid) = 0
      · exact Or.inl ⟨fun h => h.2.2 hb, Or.inr (by rw [hb])⟩
      · refine Or.inr ⟨⟨hval, ?_, hb⟩, rfl⟩
        unfold Fifo.push at hpush
        split at hpush
        · next h => exact h
        · cases hpush

theorem isPaylenValid_room {a b : TcpCtx} (h : b.pktRoom = a.pktRoom) (hdrlen paylen : UInt32) :
    isPaylenValid b hdrlen paylen = isPaylenValid a hdrlen paylen := by
  unfold isPaylenValid
  rw [h]

/-- What a quiet change of the context leaves of `NotAckEntries`. -/
theorem NotAckEntries.quiet {a b : TcpCtx} {sid : Nat} {pre es : List TcpQe}
    (hq : Quiet a b) (hp : b.pkt = a.pkt) (h : NotAckEntries b sid pre es) :
    NotAckEntries a sid pre es := by
  have hb := hq.socks sid
  have hopq : (sockOf b sid).opaquePtr = (sockOf a sid).opaquePtr :=
    (congrArg TcpSock.opaquePtr hb :)
  have hbq : BumpQueued b sid ↔ BumpQueued a sid := by
    unfold BumpQueued
    rw [hp, isPaylenValid_room hq.pktRoom, hq.appQueue, rxGetAckBump_bare hb]
  unfold NotAckEntries at h ⊢
  rw [hbq, hopq, hp, rxGetAckBump_bare hb] at h
  exact h

theorem tcpEventRx_not_ack {ctx : TcpCtx} {sid : Nat} (hacc : Accepted ctx sid)
    (hna : rxIsAck ctx.pkt = false) :
    TxSame (sockOf ctx sid) (sockOf (tcpEventRx ctx).1 sid) ∧
    ∃ pre es, NotAckEntries ctx sid pre es ∧
      (appQueue (tcpEventRx ctx).1 sid).items = (appQueue ctx sid).items ++ pre ++ es := by
  have hq := quiet_rxMarkCe ctx sid
  have hp := rxMarkCe_pkt ctx sid
  rw [hacc.eq]
  unfold rxEstablished
  dsimp only
  generalize hm : rxMarkCe ctx sid = ctxM at hq hp ⊢
  have hnaM : rxIsAck ctxM.pkt = false := by rw [hp, hna]
  split
  · next hval =>
    have hfill := hq.trans (quiet_txFillAck ctxM sid)
    refine ⟨txSame_of_bare (hfill.socks sid), [], [], ⟨by simp [RxBumps], Or.inl ⟨?_, Or.inl rfl⟩⟩,
      by simp [hfill.appQueue]⟩
    intro h
    rw [hp, isPaylenValid_room hq.pktRoom, h.1] at hval
    exact absurd hval (by simp)
  · next hval =>
    have hvalM : isPaylenValid ctxM (rxGetHdrlen ctxM.pkt) 0 = true := by simpa using hval
    obtain ⟨pre, es, hent, hitems⟩ := @rxSegment_entries ctxM sid hnaM hvalM
    refine ⟨(txSame_of_bare (hq.socks sid)).trans (rxSegment_not_ack hnaM).1, pre, es,
      hent.quiet hq hp, ?_⟩
    rw [hitems, hq.appQueue]

/-- Payload bumps and empty transmit bumps release nothing. -/
theorem sum_appTxAmount_rxBumps {es : List TcpQe} (h : RxBumps es) :
    (es.map appTxAmount).sum = 0 := by
  induction es with
  | nil => rfl
  | cons e es ih =>
    obtain ⟨o, p, i, a, rfl⟩ := h e List.mem_cons_self
    have hrest := ih (fun e he => h e (List.mem_cons_of_mem _ he))
    simp only [List.map_cons, List.sum_cons, hrest, appTxAmount]

/-- The segment acknowledges nothing exactly when it queues no bump. -/
theorem acksNothing_iff_not_bumpQueued {ctx : TcpCtx} {sid : Nat} (hacc : Accepted ctx sid)
    (hna : rxIsAck ctx.pkt = false) : AcksNothing ctx sid ↔ ¬ BumpQueued ctx sid := by
  obtain ⟨hsame, pre, es, ⟨hes, hpre⟩, hitems⟩ := tcpEventRx_not_ack hacc hna
  have hnew : newEntries ctx (tcpEventRx ctx).1 sid = pre ++ es := by
    unfold newEntries
    rw [hitems, List.append_assoc, List.drop_left]
  obtain ⟨hseq, hhead, hpend, havail, hlen, -⟩ := hsame
  rcases hpre with ⟨hno, hpre⟩ | ⟨hyes, rfl⟩
  · refine iff_of_true ?_ hno
    refine ⟨⟨hseq, hhead, hpend, havail⟩, fun lib i _ => ?_, fun lib i hring => ?_⟩
    · rw [hnew]
      rcases hpre with rfl | rfl
      · exact libConsume_rxBumps hes lib i
      · have hfirst : libConsume lib
            ([.bumpAppTx (sockOf ctx sid).opaquePtr 0] ++ es) = libConsume lib es := by
          show libConsume (handleTxBump lib (sockOf ctx sid).opaquePtr 0) es = _
          rw [handleTxBump_zero]
        rw [hfirst]
        exact libConsume_rxBumps hes lib i
    · have hsum : (appQueue (tcpEventRx ctx).1 sid).sum appTxAmount =
          (appQueue ctx sid).sum appTxAmount := by
        unfold Fifo.sum
        rw [hitems]
        rcases hpre with rfl | rfl <;>
          simp [sum_appTxAmount_rxBumps hes, appTxAmount]
      unfold TxRingEq
      rw [hhead, hlen, hsum]
      exact hring
  · refine iff_of_false (fun h => ?_) (fun h => h hyes)
    -- the bump is not empty: an application with one byte in its ring loses it
    have happ := (h.app oneByteLib 0 rfl).2
    rw [hnew] at happ
    have hloss := (libConsume_rxBumps hes
      (handleTxBump oneByteLib (sockOf ctx sid).opaquePtr
        (rxGetAckBump ctx.pkt (sockOf ctx sid))) 0).2
    rw [handleTxBump_oneByte _ hyes.2.2] at hloss
    have hone : (oneByteLib.socks 0).txAvail = 1 := rfl
    rw [hone] at happ
    exact absurd (hloss.symm.trans happ) (by decide)

/-- **A segment without the ACK flag acknowledges nothing, exactly when it
queues no transmit bump**: its headers do not fit the packet room, the
application's queue has no free slot, or its acknowledgement number leaves
nothing to bump. -/
theorem acksNothing_iff {ctx : TcpCtx} {sid : Nat} (hacc : Accepted ctx sid)
    (hna : rxIsAck ctx.pkt = false) :
    AcksNothing ctx sid ↔
      isPaylenValid ctx (rxGetHdrlen ctx.pkt) 0 = false ∨ (appQueue ctx sid).hasRoom = false ∨
      rxGetAckBump ctx.pkt (sockOf ctx sid) = 0 := by
  rw [acksNothing_iff_not_bumpQueued hacc hna]
  unfold BumpQueued
  simp only [not_and_or, Bool.not_eq_true, ne_eq, not_not]

/-- A socket with ten bytes in flight from sequence number 100 on. -/
def pshSock : TcpSock :=
  { TcpSock.zero with state := .established, txSeq := 100, txPending := 10, txLen := 64 }

/-- A bare PSH segment with the given acknowledgement number, received for
`pshSock`. -/
def pshCtx (ackno : UInt8) : TcpCtx :=
  { oneSockCtx pshSock 4 with
    pkt := fun i =>
      match i with
      | 0 => 0x45 | 3 => 40 | 9 => 6 | 31 => ackno | 32 => 0x50 | 33 => 0x08 | _ => 0 }

/-- The segment repeats the sequence number, so nothing is queued. -/
theorem acksNothing_repeated : AcksNothing (pshCtx 100) 0 :=
  (acksNothing_iff (by constructor <;> decide) (by decide)).mpr (Or.inr (Or.inr (by decide)))

/-- With 105 in the field, five bytes leave the application's ring. -/
theorem psh_segment_acks :
    Accepted (pshCtx 105) 0 ∧ rxIsAck (pshCtx 105).pkt = false ∧ ¬ AcksNothing (pshCtx 105) 0 := by
  have hacc : Accepted (pshCtx 105) 0 := by constructor <;> decide
  have hna : rxIsAck (pshCtx 105).pkt = false := by decide
  refine ⟨hacc, hna, fun h => ?_⟩
  exact (acksNothing_iff_not_bumpQueued hacc hna).mp h ⟨by decide, by decide, by decide⟩

end Chamelio.Tcp
