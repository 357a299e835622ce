import Chamelio.Tcp.TimerInv

/-!
# Closing an established connection

`tcp_close` and `tcp_shutdown` send a FIN and wait for its ACK in
`FIN_WAIT1`. A FIN that loses nothing has the sequence number after the last
byte the application gave to `tcp_sendto`, and the socket goes away when the
number after the FIN is acknowledged.

`sock_shutdown_start` sends the FIN with `tx_seq`, the first byte that is
not acknowledged, and unlike a SYN the FIN is not counted in `tx_pending`.
`tcp_rx_fin_wait1` then compares the ACK with `tx_seq`, which is the FIN's
own number: the ACK that closes the socket is the one the peer sends for the
byte before the FIN, and the one for the FIN is ignored.
-/

namespace Chamelio.Tcp

open Chamelio.Lib Chamelio.Util Chamelio.Pkt Chamelio.Fast

/-- The bytes of a control packet. -/
def pktOf (bytes : List UInt8) : Nat → UInt8 := fun i => bytes.getD i 0

/-- The number after the last byte `tcp_sendto` accepted, when bumps for
`bumps` bytes are still on their way. -/
def streamEnd (sock : TcpSock) (bumps : UInt32) : UInt32 :=
  sock.txSeq + sock.txPending + sock.txAvail + bumps

/-- Closing socket `sid`, from `ctx` to `ctx'`, loses nothing. -/
structure GracefulClose (ctx ctx' : TcpSlowCtx) (sid : Nat) (bumps : UInt32) : Prop where
  /-- The socket waits for the ACK of its FIN. -/
  waits : (ctx'.sock sid).state = .finWait1
  /-- A FIN with the right number was sent, and as long as the socket waits,
  an ACK closes it exactly when it covers the FIN. -/
  fin : ∃ bytes, ctx.slowFastPktQ.push (.ctlTxPkt bytes) = some ctx'.slowFastPktQ ∧
    tcphFlags (pktOf bytes) &&& tcpFin ≠ 0 ∧
    tcpSeqno (pktOf bytes) = streamEnd (ctx.sock sid) bumps ∧
    ∀ d log, Run (fun c _ => (c.sock sid).state = .finWait1) slowStep ctx' log d →
      (d.sock sid).state = .finWait1 → ∀ rx : TcpRxCtl, rx.flags &&& tcpAck ≠ 0 →
      rx.flags &&& tcpFin = 0 →
      (((sockCtlRx d sid rx).sock sid).state = .closed ↔
        rx.ack = tcpSeqno (pktOf bytes) + 1)

/-! ## The FIN -/

/-- The sequence number of a control packet. -/
theorem tcpSeqno_ctlPkt (c : CtlSeg) :
    tcpSeqno (pktOf ((List.range ctlPktSize).map (ctlPktFill c))) = c.seq := by
  have hbytes : ∀ i, i < ctlPktSize →
      pktOf ((List.range ctlPktSize).map (ctlPktFill c)) i = ctlPktFill c i := by
    intro i hi
    unfold pktOf
    rw [List.getD_eq_getElem?_getD, List.getElem?_map, List.getElem?_range hi]
    rfl
  have hfill : be32 (ctlPktFill c) 24 = c.seq := by
    unfold ctlPktFill
    dsimp only
    cases c.tsRecent with
    | none =>
      dsimp only
      rw [be32_put16_ne _ _ (by omega), be32_put16_ne _ _ (by omega),
        be32_put32_ne _ _ (by omega), be32_put32]
    | some ts =>
      dsimp only
      rw [be32_put32_ne _ _ (by omega), be32_put8_ne _ _ (by omega), be32_put8_ne _ _ (by omega),
        be32_put16_ne _ _ (by omega), be32_put16_ne _ _ (by omega),
        be32_put32_ne _ _ (by omega), be32_put32]
  show be32 _ 24 = c.seq
  rw [← hfill]
  apply be32_congr
  intro i _ hi
  exact hbytes i (by unfold ctlPktSize; omega)

theorem tcpTimeoutArm_pktQ (ctx : TcpSlowCtx) (sid : Nat) (kind : RetxKind) :
    (tcpTimeoutArm ctx sid kind).1.slowFastPktQ = ctx.slowFastPktQ := by
  unfold tcpTimeoutArm sockRetxSched
  dsimp only
  split
  · rfl
  · rfl

/-- A segment that was sent is the last of the queue. -/
theorem ctlPktEnqueue_pktQ {ctx : TcpSlowCtx} {c : CtlSeg} (h : (ctlPktEnqueue ctx c).2 = true) :
    ctx.slowFastPktQ.push (.ctlTxPkt ((List.range ctlPktSize).map (ctlPktFill c))) =
      some (ctlPktEnqueue ctx c).1.slowFastPktQ := by
  unfold ctlPktEnqueue at h ⊢
  dsimp only at h ⊢
  split at h
  · next hp _ => exact hp
  · cases h

/-- **A socket that waits sent its FIN with `tx_seq`.** -/
theorem sockShutdownStart_fin {ctx : TcpSlowCtx} {sid : Nat}
    (h : ((sockShutdownStart ctx sid).sock sid).state = .finWait1) :
    ∃ c : CtlSeg, c.seq = (ctx.sock sid).txSeq ∧
      ctx.slowFastPktQ.push (.ctlTxPkt ((List.range ctlPktSize).map (ctlPktFill c))) =
        some (sockShutdownStart ctx sid).slowFastPktQ ∧
      ((sockShutdownStart ctx sid).sock sid).txSeq = (ctx.sock sid).txSeq := by
  have hclosed : ∀ d : TcpSlowCtx, ((tcpSockCloseFinal d sid).sock sid).state ≠ .finWait1 := by
    intro d
    rw [tcpSockCloseFinal_sock, if_pos rfl]
    exact SockState.noConfusion
  unfold sockShutdownStart at h ⊢
  dsimp only at h ⊢
  have hsock : (ctx.setSock sid { ctx.sock sid with
      flags := (ctx.sock sid).flags ||| sockFlagShut, state := .finWait1 }).sock sid =
      { ctx.sock sid with
        flags := (ctx.sock sid).flags ||| sockFlagShut, state := .finWait1 } :=
    TcpSlowCtx.sock_setSock _ _ _
  have hq : (ctx.setSock sid { ctx.sock sid with
      flags := (ctx.sock sid).flags ||| sockFlagShut, state := .finWait1 }).slowFastPktQ =
      ctx.slowFastPktQ := rfl
  generalize ctx.setSock sid _ = c at h hsock hq ⊢
  have hsent : (tcpCtlTx c sid (tcpFin ||| tcpAck)).2 = true := by
    cases ht : (tcpCtlTx c sid (tcpFin ||| tcpAck)).2 with
    | true => rfl
    | false =>
      rw [ht] at h
      exact absurd h (hclosed _)
  have hpush := ctlPktEnqueue_pktQ (c := sockCtlSeg (c.sock sid) (c.sock sid).txSeq
    (tcpFin ||| tcpAck)) hsent
  have hkey := ctlPktEnqueue_fields c (sockCtlSeg (c.sock sid) (c.sock sid).txSeq
    (tcpFin ||| tcpAck))
  have htxs : ((tcpCtlTx c sid (tcpFin ||| tcpAck)).1.sock sid).txSeq = (ctx.sock sid).txSeq := by
    show ((ctlPktEnqueue c _).1.sock sid).txSeq = _
    rw [hkey]
    show (c.sock sid).txSeq = _
    rw [hsock]
  rw [hsent] at h ⊢
  rw [Bool.not_true, if_neg Bool.false_ne_true] at h ⊢
  generalize hd : (tcpCtlTx c sid (tcpFin ||| tcpAck)).1 = d at h htxs ⊢
  have harmed : (tcpTimeoutArm d sid .fin).2 = true := by
    cases ht : (tcpTimeoutArm d sid .fin).2 with
    | true => rfl
    | false =>
      rw [ht] at h
      exact absurd h (hclosed _)
  rw [harmed, Bool.not_true, if_neg Bool.false_ne_true]
  refine ⟨sockCtlSeg (c.sock sid) (c.sock sid).txSeq (tcpFin ||| tcpAck), ?_, ?_, ?_⟩
  · show (c.sock sid).txSeq = _
    rw [hsock]
  · rw [tcpTimeoutArm_pktQ, ← hq, ← hd]
    exact hpush
  · rw [tcpTimeoutArm_sock]
    exact htxs

/-! ## Its ACK -/

/-- **The ACK that closes a waiting socket** has the number `tx_seq`. -/
theorem finWait1_closed_iff {ctx : TcpSlowCtx} {sid : Nat} {rx : TcpRxCtl}
    (hst : (ctx.sock sid).state = .finWait1) (hack : rx.flags &&& tcpAck ≠ 0)
    (hfin : rx.flags &&& tcpFin = 0) :
    ((sockCtlRx ctx sid rx).sock sid).state = .closed ↔ rx.ack = (ctx.sock sid).txSeq := by
  unfold sockCtlRx
  rw [hst]
  dsimp only
  unfold tcpRxFinWait1
  dsimp only
  rw [if_neg (not_not_intro hfin)]
  by_cases heq : rx.ack = (ctx.sock sid).txSeq
  · rw [if_pos ⟨hack, heq⟩, tcpSockCloseFinal_sock, if_pos rfl]
    exact ⟨fun _ => heq, fun _ => rfl⟩
  · rw [if_neg (fun hc => heq hc.2), if_neg (not_not_intro hfin), hst]
    exact ⟨nofun, fun hc => absurd hc heq⟩

/-- The ACK of the byte before the FIN. -/
def ackOf (seq : UInt32) : TcpRxCtl :=
  { localIp := 0, remoteIp := 0, seq := 0, ack := seq, localPort := 0, remotePort := 0, wnd := 0
    flags := tcpAck, core := 0, ts := none }

theorem shutdownStart_not_graceful (ctx : TcpSlowCtx) (sid : Nat) (bumps : UInt32) :
    ¬GracefulClose ctx (sockShutdownStart ctx sid) sid bumps := by
  intro h
  obtain ⟨bytes, hpush, -, -, hacks⟩ := h.fin
  obtain ⟨c, hseq, hpush', htxs⟩ := sockShutdownStart_fin h.waits
  have hbytes : tcpSeqno (pktOf bytes) = (ctx.sock sid).txSeq := by
    have hsame : bytes = (List.range ctlPktSize).map (ctlPktFill c) := by
      have hq := hpush.trans hpush'.symm
      unfold Fifo.push at hq
      split at hq
      · have hitems := congrArg Fifo.items (Option.some.inj hq)
        have hlast := List.append_cancel_left hitems
        cases hlast
        rfl
      · rw [Fifo.push, if_neg ‹_›] at hpush
        cases hpush
    rw [hsame, tcpSeqno_ctlPkt, hseq]
  -- The ACK of the byte before the FIN closes the socket.
  have hflags : tcpAck &&& tcpAck ≠ 0 ∧ tcpAck &&& tcpFin = 0 := by decide
  have hrun := hacks _ _ Run.nil h.waits (ackOf (ctx.sock sid).txSeq) hflags.1 hflags.2
  have hclosed := (@finWait1_closed_iff _ sid (ackOf (ctx.sock sid).txSeq) h.waits hflags.1
    hflags.2).mpr htxs.symm
  have hnext : (ctx.sock sid).txSeq = (ctx.sock sid).txSeq + 1 := by
    have heq := hrun.mp hclosed
    rw [hbytes] at heq
    exact heq
  have hone : (ctx.sock sid).txSeq - (ctx.sock sid).txSeq =
      (ctx.sock sid).txSeq + 1 - (ctx.sock sid).txSeq := congrArg (· - (ctx.sock sid).txSeq) hnext
  rw [UInt32.sub_self, UInt32.add_comm, UInt32.add_sub_cancel] at hone
  cases hone

/-- **No close is graceful**, whatever is still to be sent. -/
theorem graceful_close_never {ctx : TcpSlowCtx} {sockId bumps : UInt32} {act : SlowAct}
    (hlt : sockId.toNat < ctx.nSocks) (hst : (ctx.sock sockId.toNat).state = .established)
    (hact : act = .close sockId ∨ act = .shutdown sockId shutRdwr) :
    ¬GracefulClose ctx (slowNext ctx act) sockId.toNat bumps := by
  have hstart : slowNext ctx act = sockShutdownStart ctx sockId.toNat := by
    rcases hact with rfl | rfl
    · show appClose ctx sockId.toNat = _
      unfold appClose
      rw [if_neg (Nat.not_le_of_lt hlt), hst]
    · show appShutdown ctx sockId.toNat shutRdwr = _
      unfold appShutdown
      rw [if_neg (Nat.not_le_of_lt hlt), if_neg]
      rintro (hc | hc)
      · exact hc rfl
      · exact hc hst
  rw [hstart]
  exact shutdownStart_not_graceful ctx sockId.toNat bumps

/-- A client that sent nothing shuts its connection down. -/
theorem graceful_close_never_client :
    ¬GracefulClose (execAll slowStep connectRun freshSlow).2
      (slowNext (execAll slowStep connectRun freshSlow).2 (.shutdown 0 shutRdwr)) 0 0 :=
  @graceful_close_never _ 0 0 _ (by decide +kernel) (by decide +kernel) (.inr rfl)

/-- Its FIN has number 2, and the ACK with number 3 does not close it. -/
theorem graceful_close_refuted :
    ¬ ∀ (ctx₀ ctx : TcpSlowCtx) (log : List Unit) (sockId bumps : UInt32), SlowInit ctx₀ →
      Run (fun _ _ => True) slowStep ctx₀ log ctx → sockId.toNat < ctx.nSocks →
      (ctx.sock sockId.toNat).state = .established →
      GracefulClose ctx (slowNext ctx (.shutdown sockId shutRdwr)) sockId.toNat bumps := by
  intro h
  have hg := h freshSlow _ _ 0 0 freshSlow_init (Run.execAll connectRun Run.nil)
    (by decide +kernel) (by decide +kernel)
  obtain ⟨bytes, hpush, -, hseq, hacks⟩ := hg.fin
  have hend : tcpSeqno (pktOf bytes) = 2 := by
    rw [hseq]
    decide +kernel
  have hrun := hacks _ _ Run.nil hg.waits (ackOf 3) (by decide) (by decide)
  rw [hend] at hrun
  exact absurd (hrun.mpr (by decide)) (by decide +kernel)

end Chamelio.Tcp
