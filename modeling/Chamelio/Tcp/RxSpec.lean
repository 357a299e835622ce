import Chamelio.Tcp.Frame

/-!
# What one received segment does

`tcp_event_rx` has a dozen exits. The inversion here says once what is left
of them for a stream property: the acknowledgement is applied to the
socket, at most one bump of `ack_bump` bytes goes to the application, the
socket may be rewound, and at most one payload is stored and announced.
The stream proofs start from these disjunctions and never unfold the
handler.
-/

namespace Chamelio.Tcp

open Chamelio.Lib Chamelio.Util Chamelio.Pkt Chamelio.Fast

/-- The segment in `ctx.pkt` reaches the ESTABLISHED socket `sid`. -/
structure Accepted (ctx : TcpCtx) (sid : Nat) : Prop where
  pktlen : isPktlenValid ctx = true
  ip : rxIsIp ctx.pkt = true
  notCtl : rxIsFlagsCtl ctx.pkt = false
  found : sockFind ctx = some sid
  state : (sockOf ctx sid).state = .established

theorem Accepted.eq {ctx : TcpCtx} {sid : Nat} (h : Accepted ctx sid) :
    tcpEventRx ctx = rxEstablished ctx sid := by
  unfold tcpEventRx
  simp [h.pktlen, h.ip, h.notCtl, h.found, h.state]

theorem Accepted.segment {ctx : TcpCtx} {sid : Nat} (h : Accepted ctx sid)
    (hce : rxIsCe ctx.pkt = false) (hval : isPaylenValid ctx (rxGetHdrlen ctx.pkt) 0 = true) :
    tcpEventRx ctx = rxSegment ctx sid (rxGetHdrlen ctx.pkt) := by
  have hmark : rxMarkCe ctx sid = ctx := by
    unfold rxMarkCe
    rw [hce]
    rfl
  rw [h.eq]
  unfold rxEstablished
  dsimp only
  rw [hmark, hval]
  rfl

/-- A repeated acknowledgement number has no bump. -/
theorem rxGetAckBump_of_eq {p : Nat → UInt8} {s : TcpSock} (h : s.txSeq = tcpAckno p) :
    rxGetAckBump p s = 0 := by
  unfold rxGetAckBump
  dsimp only
  rw [← h]
  split
  · exact UInt32.sub_self _
  · rfl

/-- The queue of the socket's application. -/
def appQueue (ctx : TcpCtx) (sid : Nat) : Fifo TcpQe :=
  ctx.equeues (sockOf ctx sid).appBumpQid.toNat

/-- `ctx` with the socket replaced and the application's queue replaced. -/
def withSockQueue (ctx : TcpCtx) (sid : Nat) (s : TcpSock) (q : Fifo TcpQe) : TcpCtx :=
  (setSock ctx sid s).setQueue (sockOf ctx sid).appBumpQid.toNat q

/-- The application's queue after the acknowledgement stage: unchanged for
a repeated ACK number, else one bump longer. -/
def AckQueue (ctx : TcpCtx) (sid : Nat) (q : Fifo TcpQe) : Prop :=
  ((sockOf ctx sid).txSeq = tcpAckno ctx.pkt ∧ q = appQueue ctx sid) ∨
  ((sockOf ctx sid).txSeq ≠ tcpAckno ctx.pkt ∧
    (appQueue ctx sid).push (.bumpAppTx (sockOf ctx sid).opaquePtr
      (rxGetAckBump ctx.pkt (sockOf ctx sid))) = some q)

theorem ackedSock_queue (p : Nat → UInt8) (s : TcpSock) :
    (ackedSock p s).appBumpQid = s.appBumpQid ∧ (ackedSock p s).opaquePtr = s.opaquePtr := by
  unfold ackedSock rxSockBumpAck tcpSockRecoveryAck
  dsimp only
  split
  · split
    · split <;> exact ⟨rfl, rfl⟩
    · exact ⟨rfl, rfl⟩
  · exact ⟨rfl, rfl⟩

@[simp] theorem remit_pkt (ctx : TcpCtx) (sid : Nat) : (remit ctx sid).pkt = ctx.pkt := rfl

theorem rxDupAck_pkt (ctx : TcpCtx) (sid : Nat) (v : RxLocals) :
    (rxDupAck ctx sid v).1.pkt = ctx.pkt := by
  unfold rxDupAck
  dsimp only
  split
  · split
    · rw [setSock_pkt, remit_pkt]
      rfl
    · rfl
  · rfl

theorem rxSchedTx_pkt (ctx : TcpCtx) (sid : Nat) (a b : UInt32) :
    (rxSchedTx ctx sid a b).pkt = ctx.pkt := by
  unfold rxSchedTx
  split
  · rfl
  · show (txSchedTsc ctx sid).2.pkt = ctx.pkt
    rw [txSchedTsc_snd]

/-- Without the ACK flag no socket is ever rewound. -/
theorem rxDupAck_not_ack {ctx : TcpCtx} {sid : Nat} {v : RxLocals} (h : v.isAck = false) :
    (rxDupAck ctx sid v).1 = ctx := by
  unfold rxDupAck
  simp [h]

/-- A quietly changed context, seen through the queue of a socket. -/
theorem Quiet.appQueue {a b : TcpCtx} (h : Quiet a b) (sid : Nat) :
    appQueue b sid = appQueue a sid := by
  have hq : (sockOf b sid).appBumpQid = (sockOf a sid).appBumpQid :=
    (congrArg TcpSock.appBumpQid (h.socks sid) :)
  unfold Tcp.appQueue
  rw [hq, h.equeues]

theorem Quiet.setQueue {a b : TcpCtx} (h : Quiet a b) (qid : Nat) (q : Fifo TcpQe) :
    Quiet (a.setQueue qid q) (b.setQueue qid q) := by
  refine ⟨h.socks, h.sockNelems, h.buckets, h.buckNelems, h.cfg, h.shm, ?_, h.pktRoom, h.core⟩
  unfold EbpfCtx.setQueue
  rw [h.equeues]

/-- The bump for the application, after the acknowledgement stage. -/
theorem rxAckBump_spec (ctx : TcpCtx) (sid : Nat) :
    (rxAppTxBump (rxAckStage ctx sid).1 sid (rxAckStage ctx sid).2 = none →
      (appQueue ctx sid).push (.bumpAppTx (sockOf ctx sid).opaquePtr
        (rxGetAckBump ctx.pkt (sockOf ctx sid))) = none) ∧
    ∀ ctxB, rxAppTxBump (rxAckStage ctx sid).1 sid (rxAckStage ctx sid).2 = some ctxB →
      ∃ q, AckQueue ctx sid q ∧ ctxB.pkt = ctx.pkt ∧
        Quiet (withSockQueue ctx sid (ackedSock ctx.pkt (sockOf ctx sid)) q) ctxB := by
  obtain ⟨hq₁, -, hp₁, -, -, hbump⟩ := rxAckStage_spec ctx sid
  have hdup : (rxAckStage ctx sid).2.isAckDup =
    ((sockOf ctx sid).txSeq == tcpAckno ctx.pkt) := rfl
  generalize rxAckStage ctx sid = st at hq₁ hp₁ hbump hdup ⊢
  obtain ⟨ctxA, v⟩ := st
  dsimp only at hq₁ hp₁ hbump hdup ⊢
  have hqid : (sockOf ctxA sid).appBumpQid = (sockOf ctx sid).appBumpQid := by
    have h : (sockOf ctxA sid).appBumpQid =
      (ackedSock ctx.pkt (sockOf ctx sid)).appBumpQid := (congrArg TcpSock.appBumpQid hq₁.sock :)
    rw [h, (ackedSock_queue _ _).1]
  have hopq : (sockOf ctxA sid).opaquePtr = (sockOf ctx sid).opaquePtr := by
    have h : (sockOf ctxA sid).opaquePtr =
      (ackedSock ctx.pkt (sockOf ctx sid)).opaquePtr := (congrArg TcpSock.opaquePtr hq₁.sock :)
    rw [h, (ackedSock_queue _ _).2]
  have hqueue : ctxA.equeues (sockOf ctxA sid).appBumpQid.toNat = appQueue ctx sid := by
    rw [hqid, hq₁.equeues]
    rfl
  constructor
  · intro henq
    unfold rxAppTxBump at henq
    split at henq
    · cases henq
    · unfold rxEnqueueTxBump rxEnqueueApp at henq
      dsimp only at henq
      rw [hqueue, hopq, hbump] at henq
      split at henq
      · next hnone => exact hnone
      · cases henq
  · intro ctxB henq
    rcases rxAppTxBump_spec henq with ⟨hd, rfl⟩ | ⟨hd, q, hpush, rfl⟩
    · rw [hdup, beq_iff_eq] at hd
      refine ⟨appQueue ctx sid, Or.inl ⟨hd, rfl⟩, hp₁, ?_⟩
      unfold withSockQueue appQueue
      rw [← setSock_equeues ctx sid (ackedSock ctx.pkt (sockOf ctx sid)),
        EbpfCtx.setQueue_equeues_self]
      exact hq₁
    · rw [hdup, beq_eq_false_iff_ne] at hd
      refine ⟨q, Or.inr ⟨hd, ?_⟩, hp₁, ?_⟩
      · rw [← hqueue, ← hopq, ← hbump]
        exact hpush
      · rw [hqid]
        exact hq₁.setQueue _ q

/-- The duplicate-ACK stage and the scheduler, on a socket `s`. -/
theorem rxRewind_spec {ctx ctxB : TcpCtx} {sid : Nat} {s : TcpSock} {q : Fifo TcpQe}
    (v : RxLocals) (hB : Quiet (withSockQueue ctx sid s q) ctxB) :
    ∃ s₁, (s₁ = s ∨ (v.isAck = true ∧ s₁ = rewoundSock s)) ∧
      Quiet (withSockQueue ctx sid s₁ q)
        (rxSchedTx (rxDupAck ctxB sid v).1 sid v.availBefore v.availAfter) := by
  have hq₄ := quiet_rxSchedTx (rxDupAck ctxB sid v).1 sid v.availBefore v.availAfter
  by_cases hack : v.isAck = true
  · rcases rxDupAck_spec ctxB sid v with ⟨hq₃, -⟩ | ⟨ctx₀, hq₀, -, hq₃, -⟩
    · exact ⟨s, Or.inl rfl, (hB.trans hq₃).trans hq₄⟩
    · refine ⟨rewoundSock s, Or.inr ⟨hack, rfl⟩, ?_⟩
      have hb₀ : (sockOf ctx₀ sid).bare = s.bare := by
        rw [hq₀.socks, hB.socks]
        unfold withSockQueue
        rw [sockOf_setQueue, sockOf_setSock]
      have hre : Quiet (setSock ctxB sid (rewoundSock s)) (remit ctx₀ sid) :=
        (hq₀.setSock sid (rewoundSock_bare hb₀)).trans (remit_spec ctx₀ sid)
      have hset : Quiet (setSock (withSockQueue ctx sid s q) sid (rewoundSock s))
          (setSock ctxB sid (rewoundSock s)) := hB.setSock sid rfl
      have hcomm : setSock (withSockQueue ctx sid s q) sid (rewoundSock s) =
          withSockQueue ctx sid (rewoundSock s) q := by
        unfold withSockQueue
        rw [← setSock_setSock ctx sid s (rewoundSock s)]
        rfl
      rw [hcomm] at hset
      exact ((hset.trans hre).trans hq₃).trans hq₄
  · have hno : v.isAck = false := by simpa using hack
    rw [rxDupAck_not_ack hno] at hq₄ ⊢
    exact ⟨s, Or.inl rfl, hB.trans hq₄⟩

/-- **The acknowledgement stages.** Either the bump for the application
finds its queue full, or the socket ends acknowledged (and possibly rewound,
which takes the ACK flag) with `AckQueue` as the queue, and only the payload
is left to do. -/
theorem rxSegment_spec (ctx : TcpCtx) (sid : Nat) (hdrlen : UInt32) :
    (∃ ctx₁, rxSegment ctx sid hdrlen = (ctx₁, .error .appBump) ∧
      (appQueue ctx sid).push (.bumpAppTx (sockOf ctx sid).opaquePtr
        (rxGetAckBump ctx.pkt (sockOf ctx sid))) = none ∧
      Quiet (setSock ctx sid (ackedSock ctx.pkt (sockOf ctx sid))) ctx₁) ∨
    ∃ ctx₁ s₁ q fr, (s₁ = ackedSock ctx.pkt (sockOf ctx sid) ∨
        (rxIsAck ctx.pkt = true ∧ s₁ = rewoundSock (ackedSock ctx.pkt (sockOf ctx sid)))) ∧
      AckQueue ctx sid q ∧ ctx₁.pkt = ctx.pkt ∧ Quiet (withSockQueue ctx sid s₁ q) ctx₁ ∧
      rxSegment ctx sid hdrlen =
        if rxIsAckOnly ctx.pkt then (ctx₁, .ok 0)
        else rxPayload ctx₁ sid (rxAckStage ctx sid).2 hdrlen fr := by
  obtain ⟨hnone, hsome⟩ := rxAckBump_spec ctx sid
  have hq₁ := (rxAckStage_spec ctx sid).1
  have honly : (rxAckStage ctx sid).2.isAckOnly = rxIsAckOnly ctx.pkt := rfl
  have hisack : (rxAckStage ctx sid).2.isAck = rxIsAck ctx.pkt := rfl
  unfold rxSegment
  dsimp only
  cases henq : rxAppTxBump (rxAckStage ctx sid).1 sid (rxAckStage ctx sid).2 with
  | none => exact Or.inl ⟨_, rfl, hnone henq, hq₁⟩
  | some ctxB =>
    right
    obtain ⟨q, hAQ, hpB, hqB⟩ := hsome ctxB henq
    obtain ⟨s₁, hs₁, hq⟩ := rxRewind_spec (rxAckStage ctx sid).2 hqB
    rw [hisack] at hs₁
    refine ⟨_, s₁, q, (rxDupAck ctxB sid (rxAckStage ctx sid).2).2, hs₁, hAQ, ?_, hq, ?_⟩
    · rw [rxSchedTx_pkt, rxDupAck_pkt, hpB]
    · rw [honly]

/-- Why the payload stage stores nothing: no unseen byte, a gap before the
segment, a length beyond the packet, or no room in the ring. -/
def NothingNew (ctx : TcpCtx) (v : RxLocals) (hdrlen rxBump : UInt32) : Prop :=
  v.isPayloadDup = true ∨ v.isOutOfOrder = true ∨
  isPaylenValid ctx hdrlen (rxGetPaylen ctx.pkt).toUInt32 = false ∨ rxBump = 0

/-- **The payload stage.** Nothing but a header is written; or the payload
is stored and announced; or it is stored and its announcement finds the
queue full. Only an in-order segment with unseen bytes is stored. -/
theorem rxPayload_spec (ctx : TcpCtx) (sid : Nat) (v : RxLocals) (hdrlen : UInt32) (fr : Bool)
    {rxBump : UInt32}
    (hb : rxGetRxBump (sockOf ctx sid) ((rxGetPaylen ctx.pkt).toUInt32 - v.overlap) = rxBump) :
    (Quiet ctx (rxPayload ctx sid v hdrlen fr).1 ∧
      (rxPayload ctx sid v hdrlen fr).2 ≠ .error .appBump ∧
      NothingNew ctx v hdrlen rxBump) ∨
    (0 < rxBump ∧ v.isOutOfOrder = false ∧
      isPaylenValid ctx hdrlen (rxGetPaylen ctx.pkt).toUInt32 = true ∧
      ((∃ q, (appQueue ctx sid).push (.bumpAppRx (sockOf ctx sid).opaquePtr (tcpSrc ctx.pkt)
            (ipSrc ctx.pkt) rxBump) = some q ∧
          Quiet (delivered ctx sid (hdrlen.toNat + v.overlap.toNat) rxBump q)
            (rxPayload ctx sid v hdrlen fr).1 ∧
          (rxPayload ctx sid v hdrlen fr).2 ≠ .error .appBump) ∨
        ((appQueue ctx sid).push (.bumpAppRx (sockOf ctx sid).opaquePtr (tcpSrc ctx.pkt)
            (ipSrc ctx.pkt) rxBump) = none ∧
          (rxPayload ctx sid v hdrlen fr).2 = .error .appBump ∧
          (rxPayload ctx sid v hdrlen fr).1 =
            setSock (rxCopyPayload ctx (sockOf ctx sid) (hdrlen.toNat + v.overlap.toNat) rxBump)
              sid (rxSockBumpRx (sockOf ctx sid) rxBump)))) := by
  have hack := quiet_txFillAck ctx sid
  have hne := txFillAck_ne_appBump ctx sid
  unfold rxPayload
  split
  · next hdup =>
    rw [Bool.and_eq_true] at hdup
    exact Or.inl ⟨hack, hne, Or.inl hdup.1⟩
  · split
    · next hooo => exact Or.inl ⟨hack, hne, Or.inr (Or.inl hooo)⟩
    · next hooo =>
      split
      · next hval =>
        exact Or.inl ⟨hack, hne, Or.inr (Or.inr (Or.inl (by simpa using hval)))⟩
      · next hval =>
        have hooo' : v.isOutOfOrder = false := by simpa using hooo
        have hval' : isPaylenValid ctx hdrlen (rxGetPaylen ctx.pkt).toUInt32 = true := by
          simpa using hval
        rcases (rxDeliver_spec ctx sid v hdrlen hb).2 with ⟨hq, herr, hz⟩ | ⟨hpos, hd⟩
        · exact Or.inl ⟨hq, herr, Or.inr (Or.inr (Or.inr hz))⟩
        · exact Or.inr ⟨hpos, hooo', hval', hd⟩

theorem sockOf_delivered (ctx : TcpCtx) (sid src : Nat) (b : UInt32) (q : Fifo TcpQe) :
    sockOf (delivered ctx sid src b q) sid = rxSockBumpRx (sockOf ctx sid) b := by
  unfold delivered
  rw [sockOf_setQueue, sockOf_setSock]

theorem appQueue_delivered (ctx : TcpCtx) (sid src : Nat) (b : UInt32) (q : Fifo TcpQe) :
    appQueue (delivered ctx sid src b q) sid = q := by
  unfold appQueue
  rw [sockOf_delivered]
  exact EbpfCtx.setQueue_self _ _ _

theorem sockOf_withSockQueue (ctx : TcpCtx) (sid : Nat) (s : TcpSock) (q : Fifo TcpQe) :
    sockOf (withSockQueue ctx sid s q) sid = s := by
  unfold withSockQueue
  rw [sockOf_setQueue, sockOf_setSock]

theorem appQueue_withSockQueue {ctx : TcpCtx} {sid : Nat} {s : TcpSock} (q : Fifo TcpQe)
    (h : s.appBumpQid = (sockOf ctx sid).appBumpQid) :
    appQueue (withSockQueue ctx sid s q) sid = q := by
  unfold appQueue
  rw [sockOf_withSockQueue, h]
  exact EbpfCtx.setQueue_self _ _ _

/-- **An in-order segment is stored.** Without the ACK flag and with an
acknowledgement number that repeats, unseen bytes that find room in the ring
and in the application's queue are stored and announced. -/
theorem rxSegment_stores {ctx : TcpCtx} {sid : Nat} {hdrlen b : UInt32} {q : Fifo TcpQe}
    (hack : rxIsAck ctx.pkt = false) (hdup : (sockOf ctx sid).txSeq = tcpAckno ctx.pkt)
    (honly : rxIsAckOnly ctx.pkt = false)
    (hnew : rxIsPayloadDup ctx.pkt (sockOf ctx sid) = false)
    (hord : rxIsOutOfOrder ctx.pkt (sockOf ctx sid) = false)
    (hlen : isPaylenValid ctx hdrlen (rxGetPaylen ctx.pkt).toUInt32 = true)
    (hb : rxGetRxBump (sockOf ctx sid) ((rxGetPaylen ctx.pkt).toUInt32 -
      rxGetPayloadOverlap ctx.pkt (sockOf ctx sid)) = b) (hpos : b ≠ 0)
    (hpush : (appQueue ctx sid).push (.bumpAppRx (sockOf ctx sid).opaquePtr (tcpSrc ctx.pkt)
      (ipSrc ctx.pkt) b) = some q) :
    (rxSegment ctx sid hdrlen).2 ≠ .error .appBump ∧
    ∃ ctx₁ src, Quiet (setSock ctx sid
        { sockOf ctx sid with txRemoteAvail := (tcpWnd ctx.pkt).toUInt32 }) ctx₁ ∧
      Quiet (delivered ctx₁ sid src b q) (rxSegment ctx sid hdrlen).1 := by
  have hacked : ackedSock ctx.pkt (sockOf ctx sid) =
      { sockOf ctx sid with txRemoteAvail := (tcpWnd ctx.pkt).toUInt32 } := by
    unfold ackedSock
    rw [hack]
    rfl
  have hroom : (appQueue ctx sid).hasRoom = true := by
    unfold Fifo.push at hpush
    by_cases hr : (appQueue ctx sid).hasRoom = true
    · exact hr
    · rw [if_neg hr] at hpush
      cases hpush
  rcases rxSegment_spec ctx sid hdrlen with
    ⟨-, -, hfull, -⟩ | ⟨ctx₁, s₁, q₁, fr, hs₁, hAQ, hp, hq, heq⟩
  · unfold Fifo.push at hfull
    rw [if_pos hroom] at hfull
    cases hfull
  · obtain rfl : s₁ = ackedSock ctx.pkt (sockOf ctx sid) := by
      rcases hs₁ with hs₁ | ⟨hisack, -⟩
      · exact hs₁
      · rw [hack] at hisack
        cases hisack
    obtain rfl : q₁ = appQueue ctx sid := by
      rcases hAQ with ⟨-, hq₁⟩ | ⟨hne, -⟩
      · exact hq₁
      · exact absurd hdup hne
    -- neither the socket's receive side nor its queue has moved yet
    rw [hacked] at hq
    have hset : withSockQueue ctx sid
        { sockOf ctx sid with txRemoteAvail := (tcpWnd ctx.pkt).toUInt32 } (appQueue ctx sid) =
        setSock ctx sid { sockOf ctx sid with txRemoteAvail := (tcpWnd ctx.pkt).toUInt32 } :=
      EbpfCtx.setQueue_equeues_self _ _
    rw [hset] at hq
    have hsock := hq.socks sid
    rw [sockOf_setSock] at hsock
    have hqueue : appQueue ctx₁ sid = appQueue ctx sid := by
      rw [hq.appQueue]
      unfold appQueue
      rw [sockOf_setSock]
      rfl
    have hopq : (sockOf ctx₁ sid).opaquePtr = (sockOf ctx sid).opaquePtr :=
      (congrArg TcpSock.opaquePtr hsock :)
    have hover : (rxAckStage ctx sid).2.overlap =
      rxGetPayloadOverlap ctx.pkt (sockOf ctx sid) := rfl
    have hnew' : (rxAckStage ctx sid).2.isPayloadDup =
      rxIsPayloadDup ctx.pkt (sockOf ctx sid) := rfl
    have hord' : (rxAckStage ctx sid).2.isOutOfOrder =
      rxIsOutOfOrder ctx.pkt (sockOf ctx sid) := rfl
    have hbump : rxGetRxBump (sockOf ctx₁ sid) ((rxGetPaylen ctx₁.pkt).toUInt32 -
        (rxAckStage ctx sid).2.overlap) = b := by
      have hl : (sockOf ctx₁ sid).rxLen = (sockOf ctx sid).rxLen :=
        (congrArg TcpSock.rxLen hsock :)
      have ha : (sockOf ctx₁ sid).rxAvail = (sockOf ctx sid).rxAvail :=
        (congrArg TcpSock.rxAvail hsock :)
      rw [← hb, hp, hover]
      unfold rxGetRxBump
      rw [hl, ha]
    have hval : isPaylenValid ctx₁ hdrlen (rxGetPaylen ctx₁.pkt).toUInt32 = true := by
      rw [hp, ← hlen]
      unfold isPaylenValid
      rw [hq.pktRoom]
      rfl
    rw [heq, if_neg (by rw [honly]; simp)]
    generalize (rxAckStage ctx sid).2 = v at hover hnew' hord' hbump
    rcases rxPayload_spec ctx₁ sid v hdrlen fr hbump with
      ⟨-, -, hwhy⟩ | ⟨-, -, -, ⟨q', hpush', hquiet, hret⟩ | ⟨hfull, -⟩⟩
    · -- none of the reasons to skip the payload holds
      rcases hwhy with hw | hw | hw | hw
      · rw [hnew', hnew] at hw
        cases hw
      · rw [hord', hord] at hw
        cases hw
      · rw [hval] at hw
        cases hw
      · exact absurd hw hpos
    · rw [hqueue, hopq, hp, hpush] at hpush'
      obtain rfl := Option.some.inj hpush'
      exact ⟨hret, ctx₁, _, hq, hquiet⟩
    · unfold Fifo.push at hfull
      rw [hqueue, if_pos hroom] at hfull
      cases hfull

/-- Punting adds nothing to a total that no entry for the slow path counts
in. -/
theorem rxPuntCtl_sum (f : TcpQe → Nat) (hpkt : ∀ bytes core, f (.ctlRxPkt bytes core) = 0)
    (hsig : f .ctlRx = 0) (ctx : TcpCtx) (qid : Nat) :
    ((rxPuntCtl ctx).1.equeues qid).sum f = (ctx.equeues qid).sum f := by
  have hset : ∀ (c : TcpCtx) (j : Nat) (e : TcpQe) (q : Fifo TcpQe),
      (c.equeues j).push e = some q → f e = 0 →
      ((c.setQueue j q).equeues qid).sum f = (c.equeues qid).sum f := by
    intro c j e q hpush hz
    by_cases hj : qid = j
    · rw [hj, EbpfCtx.setQueue_self, Fifo.push_sum f hpush, hz]
      rfl
    · rw [EbpfCtx.setQueue_ne _ _ hj]
  unfold rxPuntCtl
  split
  · rfl
  · dsimp only
    split
    · rfl
    split
    · rfl
    split
    · rfl
    split
    · rfl
    split
    · rfl
    next q hpush =>
    have h₁ := hset _ _ _ q hpush (hpkt _ _)
    split
    · exact h₁
    · next q' hpush' => exact (hset _ _ _ q' hpush' hsig).trans h₁

end Chamelio.Tcp
