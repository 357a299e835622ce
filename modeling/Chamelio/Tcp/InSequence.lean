import Chamelio.Tcp.TxMove
import Chamelio.Tcp.SockFrame
import Chamelio.Tcp.TimerInv

/-!
# Segments that close a connection, and the bytes before them

`rx_seq` of an open connection is where its stream stands: the number it
opened with, moved on by every byte that was stored and announced to the
application. A FIN or a reset goes another way than the data, through the
queue to the slow path, so it may be handled before bytes that precede it.

`tcp_rx_established` does not compare its sequence number with anything: a
FIN closes the socket and a reset closes it, wherever they stand. Of the FIN
only the headers are punted, so a payload it carries is lost. And
`tcp_event_rx` moves `rx_seq` before it enqueues the announcement: when the
ACK's bump took the last entry of the application's queue the bytes are
counted and never announced.

Mirroring notes:
- `irs` and `got` are no part of the program: the number each connection
  opened with, and the bytes announced since.
-/

namespace Chamelio.Tcp

open Chamelio.Lib Chamelio.Util Chamelio.Pkt Chamelio.Fast

/-! ## `rx_seq` on the fast path -/

/-- Bytes announced to the application of socket `i` on the way from `a` to
`b`. -/
def announced (a b : TcpCtx) (i : Nat) : Nat :=
  (appQueue b i).sum appRxAmount - (appQueue a i).sum appRxAmount

/-- Socket `sid` counted `n` bytes and announced them; no other socket's
`rx_seq` moved. -/
structure Took (sid n : Nat) (a b : TcpCtx) : Prop where
  other : ∀ i, i ≠ sid → (sockOf b i).rxSeq = (sockOf a i).rxSeq
  seq : (sockOf b sid).rxSeq = serial (sockOf a sid).rxSeq n
  app : (appQueue b sid).sum appRxAmount = (appQueue a sid).sum appRxAmount + n

section took

variable {sid n : Nat} {a b c : TcpCtx}

theorem Took.trans {m : Nat} (h₁ : Took sid n a b) (h₂ : Took sid m b c) :
    Took sid (n + m) a c := by
  refine ⟨fun i hi => (h₂.other i hi).trans (h₁.other i hi), ?_, ?_⟩
  · rw [h₂.seq, h₁.seq]
    apply UInt32.toNat_inj.mp
    rw [serial_toNat, serial_toNat, serial_toNat]
    omega
  · rw [h₂.app, h₁.app]
    omega

theorem Quiet.took (h : Quiet a b) (sid : Nat) : Took sid 0 a b := by
  have hseq : ∀ i, (sockOf b i).rxSeq = (sockOf a i).rxSeq :=
    fun i => (congrArg TcpSock.rxSeq (h.socks i) :)
  refine ⟨fun i _ => hseq i, ?_, ?_⟩
  · rw [hseq, serial_zero]
  · rw [h.appQueue]
    rfl

theorem Took.quiet (h₁ : Took sid n a b) (h₂ : Quiet b c) : Took sid n a c :=
  h₁.trans (h₂.took sid)

theorem Took.announced (h : Took sid n a b) : announced a b sid = n := by
  unfold Tcp.announced
  rw [h.app]
  omega

/-- Another socket in place of `sid`, and a queue that announces as much. -/
theorem took_withSockQueue {ctx : TcpCtx} {s : TcpSock} {q : Fifo TcpQe}
    (hqid : s.appBumpQid = (sockOf ctx sid).appBumpQid)
    (hseq : s.rxSeq = (sockOf ctx sid).rxSeq)
    (hq : q.sum appRxAmount = (appQueue ctx sid).sum appRxAmount) :
    Took sid 0 ctx (withSockQueue ctx sid s q) := by
  refine ⟨?_, ?_, ?_⟩
  · intro i hi
    unfold withSockQueue
    rw [sockOf_setQueue, sockOf_setSock_ne _ _ hi]
  · rw [sockOf_withSockQueue, hseq, serial_zero]
  · rw [appQueue_withSockQueue q hqid, hq]
    rfl

theorem took_rxPuntCtl (ctx : TcpCtx) (sid : Nat) : Took sid 0 ctx (rxPuntCtl ctx).1 := by
  obtain ⟨heq, -, -⟩ := rxPuntCtl_frame ctx
  have hsock : ∀ i, sockOf (rxPuntCtl ctx).1 i = sockOf ctx i := by
    intro i
    rw [heq]
    rfl
  refine ⟨fun i _ => by rw [hsock], ?_, ?_⟩
  · rw [hsock, serial_zero]
  · unfold appQueue
    rw [hsock, rxPuntCtl_sum appRxAmount (fun _ _ => rfl) rfl]
    rfl

end took

/-- The application's queue is not left full by the bump of the ACK, so that
the payload can be announced. -/
def BumpRoom (ctx : TcpCtx) (sid : Nat) : Prop :=
  ((sockOf ctx sid).txSeq = tcpAckno ctx.pkt →
    (appQueue ctx sid).items.length < (appQueue ctx sid).nelems) ∧
  ((sockOf ctx sid).txSeq ≠ tcpAckno ctx.pkt →
    (appQueue ctx sid).items.length + 1 ≠ (appQueue ctx sid).nelems)

instance (ctx : TcpCtx) (sid : Nat) : Decidable (BumpRoom ctx sid) :=
  inferInstanceAs (Decidable (_ ∧ _))

section rx

variable {ctx : TcpCtx} {sid : Nat}

/-- The queue the ACK leaves has an entry for the payload. -/
theorem BumpRoom.push (h : BumpRoom ctx sid) {q : Fifo TcpQe} (hq : AckQueue ctx sid q) :
    q.hasRoom = true := by
  unfold Fifo.hasRoom
  rw [decide_eq_true_eq]
  rcases hq with ⟨hseq, rfl⟩ | ⟨hseq, hpush⟩
  · exact h.1 hseq
  · have h := h.2 hseq
    unfold Fifo.push at hpush
    split at hpush
    · next hroom =>
      cases hpush
      unfold Fifo.hasRoom at hroom
      rw [decide_eq_true_eq] at hroom
      rw [List.length_append]
      show _ + 1 < (appQueue ctx sid).nelems
      omega
    · cases hpush

theorem AckQueue.rxSum {q : Fifo TcpQe} (h : AckQueue ctx sid q) :
    q.sum appRxAmount = (appQueue ctx sid).sum appRxAmount := by
  rcases h with ⟨-, rfl⟩ | ⟨-, hpush⟩
  · rfl
  · rw [Fifo.push_sum appRxAmount hpush]
    rfl

theorem rewoundSock_appBumpQid (s : TcpSock) : (rewoundSock s).appBumpQid = s.appBumpQid := by
  unfold rewoundSock tcpSockRecoveryEnter
  dsimp only
  split
  · rfl
  · rfl

/-- The payload is stored and announced, or nothing is counted. -/
theorem rxPayload_took (v : RxLocals) (hdrlen : UInt32) (fr : Bool)
    (hroom : (appQueue ctx sid).hasRoom = true) :
    ∃ n, Took sid n ctx (rxPayload ctx sid v hdrlen fr).1 := by
  obtain ⟨b, hb⟩ : ∃ b, rxGetRxBump (sockOf ctx sid)
      ((rxGetPaylen ctx.pkt).toUInt32 - v.overlap) = b := ⟨_, rfl⟩
  rcases rxPayload_spec ctx sid v hdrlen fr hb with
    ⟨hq, -, -⟩ | ⟨-, -, -, ⟨q, hpush, hq, -⟩ | ⟨hnone, -, -⟩⟩
  · exact ⟨0, hq.took sid⟩
  · refine ⟨b.toNat, Took.quiet ⟨?_, ?_, ?_⟩ hq⟩
    · intro i hi
      unfold delivered
      rw [sockOf_setQueue, sockOf_setSock_ne _ _ hi]
      unfold sockOf
      rw [rxCopyPayload_maps]
    · rw [sockOf_delivered]
      show (sockOf ctx sid).rxSeq + b = _
      unfold serial
      rw [UInt32.ofNat_toNat]
    · rw [appQueue_delivered, Fifo.push_sum appRxAmount hpush]
      rfl
  · rw [Fifo.push_of_room hroom] at hnone
    cases hnone

theorem rxSegment_took (hdrlen : UInt32) (hroom : rxIsAckOnly ctx.pkt = false → BumpRoom ctx sid) :
    ∃ n, Took sid n ctx (rxSegment ctx sid hdrlen).1 := by
  obtain ⟨hqid, -⟩ := ackedSock_queue ctx.pkt (sockOf ctx sid)
  obtain ⟨hseq, -, -⟩ := ackedSock_rx ctx.pkt (sockOf ctx sid)
  rcases rxSegment_spec ctx sid hdrlen with
    ⟨ctx₁, heq, -, hq⟩ | ⟨ctx₁, s₁, q, fr, hs₁, hAQ, -, hq, heq⟩
  · -- the ACK's bump found no entry: only the ACK was applied
    rw [heq]
    have hset : Took sid 0 ctx (setSock ctx sid (ackedSock ctx.pkt (sockOf ctx sid))) := by
      have h := took_withSockQueue (q := appQueue ctx sid) hqid hseq rfl
      unfold withSockQueue appQueue at h
      rw [← setSock_equeues ctx sid (ackedSock ctx.pkt (sockOf ctx sid)),
        EbpfCtx.setQueue_equeues_self] at h
      exact h
    exact ⟨0, hset.quiet hq⟩
  · have hs : s₁.appBumpQid = (sockOf ctx sid).appBumpQid ∧
        s₁.rxSeq = (sockOf ctx sid).rxSeq := by
      rcases hs₁ with rfl | ⟨-, rfl⟩
      · exact ⟨hqid, hseq⟩
      · rw [rewoundSock_appBumpQid, (rewoundSock_rx _).1]
        exact ⟨hqid, hseq⟩
    have h₁ : Took sid 0 ctx ctx₁ := (took_withSockQueue hs.1 hs.2 hAQ.rxSum).quiet hq
    rw [heq]
    split
    · exact ⟨0, h₁⟩
    · next honly =>
      have hr : (appQueue ctx₁ sid).hasRoom = true := by
        rw [hq.appQueue, appQueue_withSockQueue q hs.1]
        exact (hroom (Bool.eq_false_iff.mpr honly)).push hAQ
      obtain ⟨n, hn⟩ := rxPayload_took (rxAckStage ctx sid).2 hdrlen fr hr
      exact ⟨0 + n, h₁.trans hn⟩

/-- A segment for a socket is counted by that socket as it is announced. -/
theorem tcpEventRx_took (hfind : sockFind ctx = some sid)
    (hroom : rxIsFlagsCtl ctx.pkt = false → (sockOf ctx sid).state = .established →
      rxIsAckOnly ctx.pkt = false → BumpRoom ctx sid) :
    ∃ n, Took sid n ctx (tcpEventRx ctx).1 := by
  unfold tcpEventRx
  split
  · exact ⟨0, (Quiet.refl ctx).took sid⟩
  · split
    · exact ⟨0, (Quiet.refl ctx).took sid⟩
    · split
      · exact ⟨0, took_rxPuntCtl ctx sid⟩
      · next hctl =>
        rw [hfind]
        dsimp only
        split
        · exact ⟨0, took_rxPuntCtl ctx sid⟩
        · next hst =>
          have hst := Classical.not_not.mp hst
          have hmark := quiet_rxMarkCe ctx sid
          have hsock := hmark.socks sid
          have htxs : (sockOf (rxMarkCe ctx sid) sid).txSeq = (sockOf ctx sid).txSeq :=
            (congrArg TcpSock.txSeq hsock :)
          unfold rxEstablished
          dsimp only
          split
          · exact ⟨0, (hmark.trans (quiet_txFillAck _ sid)).took sid⟩
          · obtain ⟨n, hn⟩ := @rxSegment_took (rxMarkCe ctx sid) sid
              (rxGetHdrlen (rxMarkCe ctx sid).pkt) (by
                intro honly
                rw [rxMarkCe_pkt] at honly
                have h := hroom (Bool.eq_false_iff.mpr hctl) hst honly
                unfold BumpRoom at h ⊢
                rw [htxs, rxMarkCe_pkt, hmark.appQueue]
                exact h)
            exact ⟨0 + n, (hmark.took sid).trans hn⟩

/-- A segment for no socket is counted by none. -/
theorem tcpEventRx_lost (hfind : sockFind ctx = none) (i : Nat) :
    (sockOf (tcpEventRx ctx).1 i).rxSeq = (sockOf ctx i).rxSeq := by
  unfold tcpEventRx
  split
  · rfl
  · split
    · rfl
    · split
      · rw [(took_rxPuntCtl ctx i).seq, serial_zero]
      · rw [hfind]

end rx

/-! ## The other handlers of the fast path -/

/-- No socket's `rx_seq` differs. -/
def SeqSame (a b : TcpCtx) : Prop := ∀ i, (sockOf b i).rxSeq = (sockOf a i).rxSeq

section other

variable {a b c : TcpCtx}

theorem SeqSame.trans (h₁ : SeqSame a b) (h₂ : SeqSame b c) : SeqSame a c :=
  fun i => (h₂ i).trans (h₁ i)

theorem Quiet.seqSame (h : Quiet a b) : SeqSame a b :=
  fun i => (congrArg TcpSock.rxSeq (h.socks i) :)

theorem seqSame_setSock {ctx : TcpCtx} {sid : Nat} {s : TcpSock}
    (h : s.rxSeq = (sockOf ctx sid).rxSeq) : SeqSame ctx (setSock ctx sid s) := by
  intro i
  by_cases hi : i = sid
  · rw [hi, sockOf_setSock, h]
  · rw [sockOf_setSock_ne _ _ hi]

theorem txSend_seqSame (ctx : TcpCtx) (sid : Nat) (nowTsc : UInt64) :
    SeqSame ctx (txSend ctx sid nowTsc).1 := by
  unfold txSend
  split
  · exact fun _ => rfl
  · dsimp only
    split
    · exact fun _ => rfl
    · have hfill := (quiet_txFillHdr ctx sid txGetHdrlen (txGetTxBump (sockOf ctx sid)
        (txGetMaxPaylen ctx txGetHdrlen))).seqSame
      generalize txFillHdr ctx sid txGetHdrlen _ = ctx₁ at hfill ⊢
      split
      · have hset : SeqSame ctx₁ (setSock ctx₁ sid (txSockTxBump (sockOf ctx₁ sid)
            (txGetTxBump (sockOf ctx sid) (txGetMaxPaylen ctx txGetHdrlen)))) :=
          seqSame_setSock rfl
        exact hfill.trans (hset.trans (txSendPayload_spec ctx₁ sid txGetHdrlen _ nowTsc).1.seqSame)
      · exact hfill

theorem tcpEventSched_seqSame (ctx : TcpCtx) : SeqSame ctx (tcpEventSched ctx).1 := by
  unfold tcpEventSched
  cases schedHead ctx.sched with
  | none => exact fun _ => rfl
  | some entry =>
    dsimp only
    split
    · exact fun _ => rfl
    · split
      · exact fun _ => rfl
      · cases sockMapLookup _ entry.id with
        | none => exact fun _ => rfl
        | some sid => exact fun i => (txSend_seqSame _ sid _ i).trans rfl

theorem deqHandleBumpTx_seqSame (ctx : TcpCtx) (sockId : UInt32) (txPort : UInt16)
    (txIp txAvail : UInt32) : SeqSame ctx (deqHandleBumpTx ctx sockId txPort txIp txAvail).1 := by
  unfold deqHandleBumpTx
  split
  · exact fun _ => rfl
  · cases sockMapLookup ctx sockId with
    | none => exact fun _ => rfl
    | some sid =>
      dsimp only
      have hset : SeqSame ctx (setSock ctx sid
        (deqSockBumpTx (sockOf ctx sid) txPort txIp txAvail)) := seqSame_setSock rfl
      generalize setSock ctx sid _ = ctx₁ at hset ⊢
      have hadd : ∀ id prio,
          SeqSame ctx (ctxSchedAdd (txSchedTsc ctx₁ sid).2 id prio txAvail).1 :=
        fun id prio => hset.trans ((quiet_txSchedTsc ctx₁ sid).trans
          (quiet_ctxSchedAdd _ id prio txAvail)).seqSame
      split
      · exact hadd _ _
      · exact hadd _ _

theorem deqHandleBumpRx_seqSame (ctx : TcpCtx) (sockId rxHead : UInt32) :
    SeqSame ctx (deqHandleBumpRx ctx sockId rxHead).1 := by
  unfold deqHandleBumpRx
  split
  · exact fun _ => rfl
  · cases sockMapLookup ctx sockId with
    | none => exact fun _ => rfl
    | some sid =>
      dsimp only
      have hset : SeqSame ctx (setSock ctx sid (deqSockBumpRx (sockOf ctx sid) rxHead)) :=
        seqSame_setSock rfl
      split
      · exact hset.trans (quiet_txFillAck _ sid).seqSame
      · exact hset

theorem deqHandleRetransmit_seqSame (ctx : TcpCtx) (sockId txSeq txPending : UInt32) :
    SeqSame ctx (deqHandleRetransmit ctx sockId txSeq txPending).1 := by
  unfold deqHandleRetransmit
  split
  · exact fun _ => rfl
  · cases sockMapLookup ctx sockId with
    | none => exact fun _ => rfl
    | some sid =>
      dsimp only
      split
      · exact fun _ => rfl
      · have hset : SeqSame ctx (setSock ctx sid (rewoundSock (sockOf ctx sid))) :=
          seqSame_setSock (rewoundSock_rx _).1
        exact hset.trans (remit_spec ctx sid).seqSame

theorem tcpEventDeq_seqSame (ctx : TcpCtx) : SeqSame ctx (tcpEventDeq ctx).1 := by
  unfold tcpEventDeq
  split
  · exact fun _ => rfl
  · cases ctx.qe with
    | bumpChamTx sockId txPort txIp txAvail => exact deqHandleBumpTx_seqSame _ _ _ _ _
    | bumpChamRx sockId rxHead => exact deqHandleBumpRx_seqSame _ _ _
    | ctlTx =>
      intro i
      unfold sockOf
      rw [(deqHandleCtlTx_frame ctx).1]
    | txRetransmit sockId txSeq txPending => exact deqHandleRetransmit_seqSame _ _ _ _
    | _ => exact fun _ => rfl

end other

/-! ## Every run -/

/-- The slow path with, for each connection, the number it opened with and
the bytes announced to its application since. -/
structure RxGhost where
  ctx : TcpSlowCtx
  irs : Nat → UInt32
  got : Nat → Nat

/-- Bytes an event announces to the application of socket `i`. -/
def gotNow (ctx : TcpSlowCtx) (i : Nat) : SlowAct → Nat
  | .fastRx env =>
    if sockFind (fastWith env ctx) = some i then
      announced (fastWith env ctx) (tcpEventRx (fastWith env ctx)).1 i
    else 0
  | _ => 0

def rxGhostStep (g : RxGhost) (act : SlowAct) : RxGhost × Unit :=
  ({ ctx := slowNext g.ctx act
     irs := fun i => if opensNow g.ctx i act then ((slowNext g.ctx act).sock i).rxSeq else g.irs i
     got := fun i => if opensNow g.ctx i act then 0 else g.got i + gotNow g.ctx i act }, ())

/-- A sequence number in the receive window of a socket that expects
`next`. -/
def InWindow (sock : TcpSock) (next seq : UInt32) : Prop :=
  seq = next ∨ seq - next < sock.rxLen - sock.rxAvail

instance (sock : TcpSock) (next seq : UInt32) : Decidable (InWindow sock next seq) :=
  inferInstanceAs (Decidable (_ ∨ _))

/-- The headers `p` may end a connection that expects `next`: a reset in the
window, or the FIN after the last byte. -/
structure EndsAt (sock : TcpSock) (next : UInt32) (p : Nat → UInt8) : Prop where
  rst : tcphFlags p &&& tcpRst ≠ 0 → InWindow sock next (tcpSeqno p)
  fin : tcphFlags p &&& tcpRst = 0 → tcpSeqno p + (rxGetPaylen p).toUInt32 = next

instance (sock : TcpSock) (next : UInt32) (p : Nat → UInt8) : Decidable (EndsAt sock next p) :=
  decidable_of_iff
    ((tcphFlags p &&& tcpRst ≠ 0 → InWindow sock next (tcpSeqno p)) ∧
      (tcphFlags p &&& tcpRst = 0 → tcpSeqno p + (rxGetPaylen p).toUInt32 = next))
    ⟨fun h => ⟨h.1, h.2⟩, fun h => ⟨h.rst, h.fin⟩⟩

/-- A FIN or a reset for an open connection is in sequence, and a payload
for one can be announced. -/
def SeqOk (ctx : TcpSlowCtx) : SlowAct → Prop
  | .segment p _ =>
    ∀ i ∈ tcpFlowLookup ctx (ipDst p) (tcpDest p) (ipSrc p) (tcpSrc p),
      isOpen (ctx.sock i).state = true → tcphFlags p &&& (tcpRst ||| tcpFin) ≠ 0 →
      EndsAt (ctx.sock i) (ctx.sock i).rxSeq p
  | .fastRx env =>
    ∀ i ∈ sockFind (fastWith env ctx),
      rxIsFlagsCtl env.pkt = false → (ctx.sock i).state = .established →
      rxIsAckOnly env.pkt = false → BumpRoom (fastWith env ctx) i
  | _ => True

instance (ctx : TcpSlowCtx) (act : SlowAct) : Decidable (SeqOk ctx act) :=
  match act with
  | .segment p _ =>
    inferInstanceAs (Decidable (∀ i ∈ tcpFlowLookup ctx (ipDst p) (tcpDest p) (ipSrc p) (tcpSrc p),
      isOpen (ctx.sock i).state = true → tcphFlags p &&& (tcpRst ||| tcpFin) ≠ 0 →
      EndsAt (ctx.sock i) (ctx.sock i).rxSeq p))
  | .fastRx env =>
    inferInstanceAs (Decidable (∀ i ∈ sockFind (fastWith env ctx),
      rxIsFlagsCtl env.pkt = false → (ctx.sock i).state = .established →
      rxIsAckOnly env.pkt = false → BumpRoom (fastWith env ctx) i))
  | .newSock .. | .setopt .. | .bind .. | .connect .. | .listen .. | .accept .. | .shutdown ..
  | .close _ | .timeout _ | .fastDeq _ | .fastSched _ | .drain _ =>
    inferInstanceAs (Decidable True)

/-- `rx_seq` of every open connection is just after the last byte that was
announced. -/
def RxDelivered (g : RxGhost) : Prop :=
  ∀ i, isOpen (g.ctx.sock i).state = true →
    (g.ctx.sock i).rxSeq = serial (g.irs i) (g.got i)

/-- A segment that ends an open connection ends it in sequence: after every
byte of the stream was announced. -/
def EndsInSequence (g : RxGhost) (p : Nat → UInt8) (core : UInt16) : Prop :=
  ∀ i, isOpen (g.ctx.sock i).state = true →
    isOpen ((slowNext g.ctx (.segment p core)).sock i).state = false →
    EndsAt (g.ctx.sock i) (serial (g.irs i) (g.got i)) p

section runs

variable {g : RxGhost}

/-- An event that leaves states alone and moves `rx_seq` by what it
announces. -/
theorem RxDelivered.moved (h : RxDelivered g) {act : SlowAct}
    (hst : ∀ i, ((slowNext g.ctx act).sock i).state = (g.ctx.sock i).state)
    (hseq : ∀ i, ((slowNext g.ctx act).sock i).rxSeq =
      serial (g.ctx.sock i).rxSeq (gotNow g.ctx i act)) :
    RxDelivered (rxGhostStep g act).1 := by
  intro i hi
  have hi : isOpen ((slowNext g.ctx act).sock i).state = true := hi
  have hno : opensNow g.ctx i act = false := opensNow_of_same (hst i)
  show ((slowNext g.ctx act).sock i).rxSeq =
    serial (if opensNow g.ctx i act then _ else g.irs i)
      (if opensNow g.ctx i act then 0 else g.got i + gotNow g.ctx i act)
  rw [hno, if_neg Bool.false_ne_true, if_neg Bool.false_ne_true, hseq,
    h i (by rw [← hst]; exact hi)]
  apply UInt32.toNat_inj.mp
  rw [serial_toNat, serial_toNat, serial_toNat]
  omega

theorem RxDelivered.slow (hb : Base g.ctx) (h : RxDelivered g) {act : SlowAct}
    (hs : act.isSlow = true) : RxDelivered (rxGhostStep g act).1 := by
  have hgot : ∀ i, gotNow g.ctx i act = 0 := by
    intro i
    cases act with
    | fastRx env => cases hs
    | _ => rfl
  intro i hi
  have hi : isOpen ((slowNext g.ctx act).sock i).state = true := hi
  show ((slowNext g.ctx act).sock i).rxSeq =
    serial (if opensNow g.ctx i act then ((slowNext g.ctx act).sock i).rxSeq else g.irs i)
      (if opensNow g.ctx i act then 0 else g.got i + gotNow g.ctx i act)
  cases hopen : isOpen (g.ctx.sock i).state with
  | false =>
    have hyes : opensNow g.ctx i act = true := by
      unfold opensNow
      rw [hopen, hi]
      rfl
    rw [hyes, if_pos rfl, if_pos rfl, serial_zero]
  | true =>
    have hno : opensNow g.ctx i act = false := by
      unfold opensNow
      rw [hopen]
      rfl
    rw [hno, if_neg Bool.false_ne_true, if_neg Bool.false_ne_true, hgot, Nat.add_zero, ← h i hopen]
    -- A connection that was open and is open was kept, or accepted.
    rcases hb.fates hs i with hk | ⟨-, -, hseq⟩ | hc | ⟨-, hc⟩
    · exact hk.rxSeq
    · exact hseq
    · rw [hopen] at hc
      cases hc
    · rw [hi] at hc
      cases hc

theorem RxDelivered.next (hb : Base g.ctx) (h : RxDelivered g) {act : SlowAct}
    (hok : SeqOk g.ctx act) : RxDelivered (rxGhostStep g act).1 := by
  cases act with
  | fastRx env =>
    refine h.moved (fast_state g.ctx rfl) ?_
    intro i
    show (sockOf (tcpEventRx (fastWith env g.ctx)).1 i).rxSeq =
      serial (sockOf (fastWith env g.ctx) i).rxSeq (gotNow g.ctx i (.fastRx env))
    unfold gotNow
    dsimp only
    cases hfind : sockFind (fastWith env g.ctx) with
    | none => rw [tcpEventRx_lost hfind, if_neg nofun, serial_zero]
    | some sid =>
      obtain ⟨n, hn⟩ := tcpEventRx_took hfind (hok sid hfind)
      by_cases hi : sid = i
      · rw [← hi, if_pos rfl, hn.announced]
        exact hn.seq
      · rw [if_neg (fun hc => hi (Option.some.inj hc)), serial_zero]
        exact hn.other i (Ne.symm hi)
  | fastDeq env =>
    refine h.moved (fast_state g.ctx rfl) ?_
    intro i
    exact (tcpEventDeq_seqSame (fastWith env g.ctx) i).trans (serial_zero _).symm
  | fastSched env =>
    refine h.moved (fast_state g.ctx rfl) ?_
    intro i
    exact (tcpEventSched_seqSame (fastWith env g.ctx) i).trans (serial_zero _).symm
  | drain q =>
    refine h.moved (fast_state g.ctx rfl) ?_
    intro i
    unfold TcpSlowCtx.sock
    rw [drain_maps]
    exact (serial_zero _).symm
  | _ => exact h.slow hb rfl

/-- What ends an open connection is a FIN or a reset for it. -/
theorem RxDelivered.ends (hb : Base g.ctx) (h : RxDelivered g) {p : Nat → UInt8} {core : UInt16}
    (hok : SeqOk g.ctx (.segment p core)) : EndsInSequence g p core := by
  intro i hi hend
  rcases (@Base.fates g.ctx (.segment p core) hb rfl i) with hk | ⟨-, ht, -⟩ | hc | ⟨he, -⟩
  · rw [hk.state, hi] at hend
    cases hend
  · rw [ht] at hend
    cases hend
  · rw [hi] at hc
    cases hc
  · obtain ⟨hlook, hflags⟩ := he
    rw [← h i hi]
    exact hok i hlook hi hflags

end runs

/-- **In sequence, along every run** whose FINs and resets for open
connections are in sequence and whose payloads find an entry to be announced
with: `rx_seq` never passes a byte that was not announced, and a connection
is ended only after the last of them. -/
theorem in_sequence {g₀ g : RxGhost} {log : List Unit} (h₀ : SlowInit g₀.ctx)
    (hr : Run (fun g => SeqOk g.ctx) rxGhostStep g₀ log g) :
    RxDelivered g ∧ ∀ p core, SeqOk g.ctx (.segment p core) → EndsInSequence g p core := by
  have hinv : Base g.ctx ∧ RxDelivered g := by
    refine Run.inv (I := fun _ g => Base g.ctx ∧ RxDelivered g) ⟨h₀.base, ?_⟩ ?_ hr
    · intro i hi
      rw [h₀.socks] at hi
      cases hi
    · intro _ g act h hok
      exact ⟨h.1.next act, h.2.next h.1 hok⟩
  exact ⟨hinv.2, fun p core hok => hinv.2.ends hinv.1 hok⟩

section peer

/-- Nothing was received yet. -/
def freshRx : RxGhost := { ctx := freshSlow, irs := fun _ => 0, got := fun _ => 0 }

/-- Three bytes from the server at `seq`. -/
def serverData (seq : UInt32) : SlowAct :=
  .fastRx { oneSockCtx TcpSock.zero 16 with
    pkt := put16 (ctlPktFill
      { localIp := 0x0a000002, localPort := 80, remoteIp := 0x0a000001, remotePort := 1002
        seq, ack := 2, flags := tcpAck, wnd := 1000, tsRecent := none }) 2 43 }

/-- A FIN of the server. -/
def serverFin (seq : UInt32) : Nat → UInt8 := ctlPktFill
  { localIp := 0x0a000002, localPort := 80, remoteIp := 0x0a000001, remotePort := 1002
    seq, ack := 2, flags := tcpFin ||| tcpAck, wnd := 1000, tsRecent := none }

/-- A client that was sent the bytes 101 to 103. -/
def clientRun : List SlowAct := connectRun ++ [serverData 101]

/-- The FIN with number 104 closes it, all three bytes announced. -/
theorem in_sequence_client :
    let g := (execAll rxGhostStep clientRun freshRx).2
    (isOpen (g.ctx.sock 0).state = true ∧
      isOpen ((slowNext g.ctx (.segment (serverFin 104) 0)).sock 0).state = false) ∧
    EndsAt (g.ctx.sock 0) (serial (g.irs 0) (g.got 0)) (serverFin 104) := by
  refine ⟨by decide +kernel, ?_⟩
  have hr : Run (fun g => SeqOk g.ctx) rxGhostStep freshRx _ _ :=
    Run.execOk clientRun Run.nil (by decide +kernel)
  have h := in_sequence freshSlow_init hr
  exact h.2 (serverFin 104) 0 (by decide +kernel) 0 (by decide +kernel) (by decide +kernel)

/-- So does the FIN with number 109, five bytes further on. -/
theorem in_sequence_refuted :
    ¬ ∀ (g₀ g : RxGhost) (log : List Unit), SlowInit g₀.ctx →
      Run (fun _ _ => True) rxGhostStep g₀ log g →
      RxDelivered g ∧ ∀ p core, EndsInSequence g p core := by
  intro h
  have hends := (h freshRx _ _ freshSlow_init (Run.execAll clientRun Run.nil)).2 (serverFin 109) 0
    0 (by decide +kernel) (by decide +kernel)
  exact absurd (hends.fin (by decide +kernel)) (by decide +kernel)

end peer

end Chamelio.Tcp
