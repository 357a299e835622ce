import Chamelio.Tcp.Frame
import Chamelio.Tcp.ConnSpec

/-!
# What a failed `tcp_event_rx` leaves behind

For a segment that could not be processed the handler returns `-1` and the
packet is dropped; the peer will send it again. That repairs everything if
the failed call changed nothing. But the handler has taken the window, the
timestamp and the acknowledgement over when it first looks for a slot in the
application's bump queue, and has stored the payload when it looks for the
second one. A retransmission of the segment then looks like a duplicate, and
the bump is never made up for.

Mirroring notes:
- The room of the packet is the one the fast path hands to its handlers, so
  the acknowledgement `tx_fill_ack` builds always fits.
- The clock is read along the way; a failed call may have read it.
- A punted segment takes two slots, in two queues. If both numbers name one
  queue with a single free slot, the packet goes in and the signal does not.
-/

namespace Chamelio.Tcp

open Chamelio.Lib Chamelio.Util Chamelio.Pkt Chamelio.Fast

/-- Sockets and maps, scheduler and queues are as before. -/
structure Untouched (ctx ctx' : TcpCtx) : Prop where
  maps : ctx'.maps = ctx.maps
  sched : ctx'.sched = ctx.sched
  equeues : ctx'.equeues = ctx.equeues
  dqueues : ctx'.dqueues = ctx.dqueues

theorem setSock_self (ctx : TcpCtx) (sid : Nat) : setSock ctx sid (sockOf ctx sid) = ctx := by
  have hsame : (fun i => if i = sid then sockOf ctx sid else ctx.maps.socks i) =
      ctx.maps.socks := by
    funext i
    split
    · next h => rw [h]; rfl
    · rfl
  unfold setSock
  rw [hsame]

/-! ## Punting -/

/-- The packet queue and the signal queue are one, with one slot left, and
nothing else stops the packet. -/
def PuntHalf (ctx : TcpCtx) : Prop :=
  ∃ cfg, ctx.maps.cfg = some cfg ∧ ctx.core.toNat < maxFpCores ∧
    (cfg.fastSlowSigQids ctx.core.toNat).toNat = (cfg.fastSlowPktQids ctx.core.toNat).toNat ∧
    (ctx.equeues (cfg.fastSlowPktQids ctx.core.toNat).toNat).items.length + 1 =
      (ctx.equeues (cfg.fastSlowPktQids ctx.core.toNat).toNat).nelems ∧
    isPaylenValid ctx (rxGetHdrlen ctx.pkt) 0 = true

/-- A punt fails without a trace, succeeds, or gets half way. -/
theorem rxPuntCtl_cases (ctx : TcpCtx) :
    (¬ PuntHalf ctx ∧ rxPuntCtl ctx = (ctx, .error .other)) ∨
    (¬ PuntHalf ctx ∧ (rxPuntCtl ctx).2 = .ok 0) ∨
    (PuntHalf ctx ∧ (rxPuntCtl ctx).2 = .error .other ∧
      (rxPuntCtl ctx).1.equeues ≠ ctx.equeues) := by
  unfold rxPuntCtl PuntHalf
  cases hcfg : ctx.maps.cfg with
  | none =>
    refine .inl ⟨?_, rfl⟩
    rintro ⟨cfg, h, -⟩
    cases h
  | some cfg =>
    dsimp only
    by_cases hcore : ctx.core.toNat ≥ maxFpCores
    · rw [if_pos hcore]
      refine .inl ⟨?_, rfl⟩
      rintro ⟨cfg', -, hlt, -⟩
      omega
    rw [if_neg hcore]
    generalize hp : (cfg.fastSlowPktQids ctx.core.toNat).toNat = pktQid
    generalize hs : (cfg.fastSlowSigQids ctx.core.toNat).toNat = sigQid
    unfold Fifo.hasRoom Fifo.push Fifo.hasRoom
    by_cases hpkt : (ctx.equeues pktQid).items.length < (ctx.equeues pktQid).nelems
    · by_cases hsig : (ctx.equeues sigQid).items.length < (ctx.equeues sigQid).nelems
      · cases hlen : isPaylenValid ctx (rxGetHdrlen ctx.pkt) 0 with
        | false =>
          refine .inl ⟨?_, by simp [hpkt, hsig]⟩
          rintro ⟨cfg', -, -, -, -, h⟩
          cases h
        | true =>
          by_cases hsame : sigQid = pktQid
          · subst hsame
            by_cases hone : (ctx.equeues sigQid).items.length + 1 = (ctx.equeues sigQid).nelems
            · -- the packet takes the last slot
              refine .inr (.inr ⟨⟨cfg, rfl, by omega, by rw [hp, hs], by rw [hp]; exact hone,
                rfl⟩, ?_⟩)
              simp only [hpkt, decide_true, Bool.not_true, Bool.false_eq_true, if_false, if_true,
                EbpfCtx.setQueue, List.length_append, List.length_singleton]
              rw [if_neg (by simp only [decide_eq_true_eq]; omega)]
              refine ⟨rfl, fun heq => ?_⟩
              have hlen := congrArg (fun f => (f sigQid).items.length) heq
              simp at hlen
            · refine .inr (.inl ⟨?_, ?_⟩)
              · rintro ⟨cfg', hc, -, -, h, -⟩
                cases hc
                rw [hp] at h
                exact hone h
              · simp only [hpkt, decide_true, Bool.not_true, Bool.false_eq_true, if_false, if_true,
                  EbpfCtx.setQueue, List.length_append, List.length_singleton]
                rw [if_pos (by simp only [decide_eq_true_eq]; omega)]
          · refine .inr (.inl ⟨?_, ?_⟩)
            · rintro ⟨cfg', hc, -, h, -⟩
              cases hc
              rw [hp, hs] at h
              exact hsame h
            · simp [hpkt, hsig, hsame, EbpfCtx.setQueue]
      · refine .inl ⟨?_, by simp [hpkt, hsig]⟩
        rintro ⟨cfg', hc, -, h, hone, -⟩
        cases hc
        rw [hp, hs] at h
        rw [hp] at hone
        rw [h] at hsig
        omega
    · refine .inl ⟨?_, by simp [hpkt]⟩
      rintro ⟨cfg', hc, -, -, hone, -⟩
      cases hc
      rw [hp] at hone
      omega

/-! ## The first half: window, timestamp, acknowledgement -/

/-- `ts_recent` and `rtt_est` after `sock_ts_rx`. -/
def tsAfter (ctx : TcpCtx) (s : TcpSock) : UInt32 × UInt32 :=
  match rxReadTs ctx with
  | none => (s.tsRecent, s.rttEst)
  | some (tsVal, tsEcr) =>
    let rtt := (tcpNowUs ctx).1 - tsEcr
    if tsEcr = 0 ∨ rtt = 0 ∨ rtt ≥ tcpMaxRtt then (tsVal, s.rttEst)
    else (tsVal, if s.rttEst ≠ 0 then (7 * s.rttEst + rtt) / 8 else rtt)

theorem sockTsRx_eq (ctx : TcpCtx) (sid : Nat) :
    ∃ clk, sockTsRx ctx sid = setSock { ctx with clk } sid
      { sockOf ctx sid with
        tsRecent := (tsAfter ctx (sockOf ctx sid)).1
        rttEst := (tsAfter ctx (sockOf ctx sid)).2 } := by
  unfold sockTsRx tsAfter
  cases rxReadTs ctx with
  | none => exact ⟨ctx.clk, (setSock_self ctx sid).symm⟩
  | some ts =>
    obtain ⟨tsVal, tsEcr⟩ := ts
    dsimp only
    have hnow : ∀ s, (tcpNowUs (setSock ctx sid s)).1 = (tcpNowUs ctx).1 := fun _ => rfl
    rw [hnow]
    by_cases hzero : tsEcr = 0
    · rw [if_pos hzero, if_pos (.inl hzero)]
      exact ⟨ctx.clk, rfl⟩
    · rw [if_neg hzero]
      by_cases hrtt : (tcpNowUs ctx).1 - tsEcr = 0 ∨ (tcpNowUs ctx).1 - tsEcr ≥ tcpMaxRtt
      · rw [if_pos hrtt, if_pos (.inr hrtt)]
        exact ⟨(tcpNowUs ctx).2.clk, rfl⟩
      · have hout : ¬ (tsEcr = 0 ∨ (tcpNowUs ctx).1 - tsEcr = 0 ∨
            (tcpNowUs ctx).1 - tsEcr ≥ tcpMaxRtt) := fun h => h.elim hzero hrtt
        rw [if_neg hrtt, if_neg hout]
        refine ⟨(tcpNowUs ctx).2.clk, ?_⟩
        have hsock : sockOf (tcpNowUs (setSock ctx sid { sockOf ctx sid with
            tsRecent := tsVal })).2 sid = { sockOf ctx sid with tsRecent := tsVal } :=
          sockOf_setSock ctx sid _
        rw [hsock]
        exact setSock_setSock { ctx with clk := (tcpNowUs ctx).2.clk } sid _ _

/-- Nothing a segment says about the connection is news: it carries no
acknowledgement, its mark is on the socket already, and so are its window
and its timestamp. -/
structure NoNews (ctx : TcpCtx) (s : TcpSock) : Prop where
  noAck : rxIsAck ctx.pkt = false
  mark : rxIsCe ctx.pkt = true → s.flags ||| sockFlagSendEce = s.flags
  window : (tcpWnd ctx.pkt).toUInt32 = s.txRemoteAvail
  stamp : tsAfter ctx s = (s.tsRecent, s.rttEst)

/-- The counter of acknowledgements is not moved by the bump. -/
private theorem rxSockBumpAck_ccAcks (p : Nat → UInt8) (s : TcpSock) (k : UInt32) :
    (rxSockBumpAck p s k).ccAcks = s.ccAcks := by
  unfold rxSockBumpAck tcpSockRecoveryAck tcpSockRecoveryReset
  dsimp only
  split
  · split <;> rfl
  · rfl

private theorem u32_add_ne {x k : UInt32} (hk : 0 < k.toNat) : x + k ≠ x := by
  intro h
  have hx := x.toNat_lt
  have hk' := k.toNat_lt
  have h' := congrArg UInt32.toNat h
  rw [UInt32.toNat_add] at h'
  omega

/-- The context when the first slot is asked for: marked, and with window,
timestamp and acknowledgement taken over. -/
def ackStaged (ctx : TcpCtx) (sid : Nat) : TcpCtx := (rxAckStage (rxMarkCe ctx sid) sid).1

/-- What the first half leaves of a segment without an acknowledgement. -/
theorem ackStaged_noAck {ctx : TcpCtx} {sid : Nat} (hack : rxIsAck ctx.pkt = false) :
    ∃ clk, ackStaged ctx sid = setSock { ctx with clk } sid
      { sockOf ctx sid with
        flags := if rxIsCe ctx.pkt then (sockOf ctx sid).flags ||| sockFlagSendEce
          else (sockOf ctx sid).flags
        txRemoteAvail := (tcpWnd ctx.pkt).toUInt32
        tsRecent := (tsAfter ctx (sockOf ctx sid)).1
        rttEst := (tsAfter ctx (sockOf ctx sid)).2 } := by
  have hmark : rxMarkCe ctx sid = setSock ctx sid { sockOf ctx sid with
      flags := if rxIsCe ctx.pkt then (sockOf ctx sid).flags ||| sockFlagSendEce
        else (sockOf ctx sid).flags } := by
    unfold rxMarkCe
    split
    · rfl
    · exact (setSock_self ctx sid).symm
  unfold ackStaged rxAckStage
  rw [hmark]
  dsimp only
  rw [setSock_pkt, hack, if_neg Bool.false_ne_true, if_neg Bool.false_ne_true, sockOf_setSock,
    setSock_setSock]
  obtain ⟨clk, hts⟩ := sockTsRx_eq (setSock ctx sid { sockOf ctx sid with
    flags := if rxIsCe ctx.pkt then (sockOf ctx sid).flags ||| sockFlagSendEce
      else (sockOf ctx sid).flags
    txRemoteAvail := (tcpWnd ctx.pkt).toUInt32 }) sid
  refine ⟨clk, hts.trans ?_⟩
  rw [sockOf_setSock]
  exact setSock_setSock { ctx with clk } sid _ _

/-- An acknowledgement is counted. -/
theorem ackStaged_ack {ctx : TcpCtx} {sid : Nat} (hack : rxIsAck ctx.pkt = true) :
    (sockOf (ackStaged ctx sid) sid).ccAcks = (sockOf ctx sid).ccAcks + 1 := by
  have hmark : (sockOf (rxMarkCe ctx sid) sid).ccAcks = (sockOf ctx sid).ccAcks := by
    unfold rxMarkCe
    dsimp only
    split
    · rw [sockOf_setSock]
    · rfl
  unfold ackStaged rxAckStage
  dsimp only
  rw [rxMarkCe_pkt, hack, if_pos rfl, if_pos rfl, sockOf_setSock, rxSockBumpAck_ccAcks]
  obtain ⟨clk, hts⟩ := sockTsRx_eq (setSock (rxMarkCe ctx sid) sid
    { sockOf (rxMarkCe ctx sid) sid with
      txRemoteAvail := (tcpWnd ctx.pkt).toUInt32
      ccAcks := (sockOf (rxMarkCe ctx sid) sid).ccAcks + 1 }) sid
  rw [hts, sockOf_setSock, sockOf_setSock]
  dsimp only
  rw [hmark]

/-- Without news only the clock was read. -/
theorem ackStaged_of_noNews {ctx : TcpCtx} {sid : Nat} (h : NoNews ctx (sockOf ctx sid)) :
    ∃ clk, ackStaged ctx sid = { ctx with clk } := by
  obtain ⟨clk, heq⟩ := @ackStaged_noAck ctx sid h.noAck
  have hflags : (if rxIsCe ctx.pkt then (sockOf ctx sid).flags ||| sockFlagSendEce
      else (sockOf ctx sid).flags) = (sockOf ctx sid).flags := by
    split
    · next hce => exact h.mark hce
    · rfl
  rw [hflags, h.window, h.stamp] at heq
  exact ⟨clk, heq.trans (setSock_self { ctx with clk } sid)⟩

/-- The first half changes nothing exactly when there is no news. -/
theorem ackStaged_untouched_iff (ctx : TcpCtx) (sid : Nat) :
    Untouched ctx (ackStaged ctx sid) ↔ NoNews ctx (sockOf ctx sid) := by
  constructor
  · intro h
    have hsock : sockOf (ackStaged ctx sid) sid = sockOf ctx sid := by
      unfold sockOf
      rw [h.maps]
    cases hack : rxIsAck ctx.pkt with
    | true =>
      have hcnt := @ackStaged_ack ctx sid hack
      rw [hsock] at hcnt
      exact absurd hcnt.symm (u32_add_ne (by decide))
    | false =>
      obtain ⟨clk, heq⟩ := @ackStaged_noAck ctx sid hack
      rw [heq, sockOf_setSock] at hsock
      refine ⟨hack, ?_, congrArg TcpSock.txRemoteAvail hsock, ?_⟩
      · intro hce
        have hflags := congrArg TcpSock.flags hsock
        dsimp only at hflags
        rw [if_pos hce] at hflags
        exact hflags
      · exact Prod.ext (congrArg TcpSock.tsRecent hsock) (congrArg TcpSock.rttEst hsock)
  · intro h
    obtain ⟨clk, heq⟩ := ackStaged_of_noNews h
    rw [heq]
    exact ⟨rfl, rfl, rfl, rfl⟩

/-! ## The second half: the payload -/

/-- The segment brings new bytes in order, for which the ring has room. -/
def Delivers (ctx : TcpCtx) (s : TcpSock) : Prop :=
  rxIsAckOnly ctx.pkt = false ∧ rxIsPayloadDup ctx.pkt s = false ∧
    rxIsOutOfOrder ctx.pkt s = false ∧
    isPaylenValid ctx (rxGetHdrlen ctx.pkt) (rxGetPaylen ctx.pkt).toUInt32 = true ∧
    0 < rxGetRxBump s ((rxGetPaylen ctx.pkt).toUInt32 - rxGetPayloadOverlap ctx.pkt s)

section payload

variable {ctx : TcpCtx} {sid : Nat}

/-- A payload is delivered and acknowledged, or stored although the slot for
its bump is missing. -/
theorem rxDeliver_cases (h : 1472 ≤ ctx.pktRoom) (v : RxLocals) (hdrlen : UInt32) :
    (0 < rxGetRxBump (sockOf ctx sid) ((rxGetPaylen ctx.pkt).toUInt32 - v.overlap) ∧
      (ctx.equeues (sockOf ctx sid).appBumpQid.toNat).hasRoom = false ∧
      (rxDeliver ctx sid v hdrlen).2 = .error .appBump ∧
      (sockOf (rxDeliver ctx sid v hdrlen).1 sid).rxSeq ≠ (sockOf ctx sid).rxSeq) ∨
    (¬ (0 < rxGetRxBump (sockOf ctx sid) ((rxGetPaylen ctx.pkt).toUInt32 - v.overlap) ∧
        (ctx.equeues (sockOf ctx sid).appBumpQid.toNat).hasRoom = false) ∧
      ∃ n, (rxDeliver ctx sid v hdrlen).2 = .ok n) := by
  unfold rxDeliver
  dsimp only
  generalize rxGetRxBump (sockOf ctx sid) ((rxGetPaylen ctx.pkt).toUInt32 - v.overlap) = b
  by_cases hpos : b > 0
  · rw [if_pos hpos]
    generalize hstored : setSock (rxCopyPayload ctx (sockOf ctx sid)
      (hdrlen.toNat + v.overlap.toNat) b) sid (rxSockBumpRx (sockOf ctx sid) b) = stored
    have hqs : stored.equeues = ctx.equeues := by
      rw [← hstored, setSock_equeues, rxCopyPayload_equeues]
    have hsock : sockOf stored sid = rxSockBumpRx (sockOf ctx sid) b := by
      rw [← hstored, sockOf_setSock]
    have hlen : stored.pktRoom = ctx.pktRoom := by
      rw [← hstored]
      unfold setSock rxCopyPayload
      dsimp only
      split <;> rfl
    have hqid : (sockOf stored sid).appBumpQid = (sockOf ctx sid).appBumpQid := by
      rw [hsock]
      rfl
    unfold rxEnqueueRxBump rxEnqueueApp Fifo.push
    dsimp only
    rw [hqs, hqid]
    cases hroom : (ctx.equeues (sockOf ctx sid).appBumpQid.toNat).hasRoom with
    | false =>
      refine .inl ⟨hpos, rfl, rfl, ?_⟩
      show (sockOf stored sid).rxSeq ≠ (sockOf ctx sid).rxSeq
      rw [hsock]
      exact u32_add_ne (UInt32.lt_iff_toNat_lt.mp hpos)
    | true =>
      refine .inr ⟨fun hno => Bool.noConfusion hno.2, ?_⟩
      simp only [if_true]
      exact ⟨52, txFillAck_ok sid (by rw [← hlen] at h; exact h)⟩
  · rw [if_neg hpos]
    exact .inr ⟨fun hno => hpos hno.1, 52, txFillAck_ok sid h⟩

/-- The payload stage fails for want of a slot only, and then the receive
sequence number has moved. -/
theorem rxPayload_cases (h : 1472 ≤ ctx.pktRoom) {v : RxLocals}
    (honly : rxIsAckOnly ctx.pkt = false)
    (hdup : v.isPayloadDup = rxIsPayloadDup ctx.pkt (sockOf ctx sid))
    (hooo : v.isOutOfOrder = rxIsOutOfOrder ctx.pkt (sockOf ctx sid))
    (hover : v.overlap = rxGetPayloadOverlap ctx.pkt (sockOf ctx sid)) :
    (Delivers ctx (sockOf ctx sid) ∧
      (ctx.equeues (sockOf ctx sid).appBumpQid.toNat).hasRoom = false ∧
      (rxPayload ctx sid v (rxGetHdrlen ctx.pkt) false).2 = .error .appBump ∧
      (sockOf (rxPayload ctx sid v (rxGetHdrlen ctx.pkt) false).1 sid).rxSeq ≠
        (sockOf ctx sid).rxSeq) ∨
    (¬ (Delivers ctx (sockOf ctx sid) ∧
        (ctx.equeues (sockOf ctx sid).appBumpQid.toNat).hasRoom = false) ∧
      ∃ n, (rxPayload ctx sid v (rxGetHdrlen ctx.pkt) false).2 = .ok n) := by
  unfold rxPayload Delivers
  rw [hdup, hooo]
  cases hd : rxIsPayloadDup ctx.pkt (sockOf ctx sid) with
  | true =>
    simp only [Bool.not_false, Bool.and_true, if_true]
    exact .inr ⟨fun hno => Bool.noConfusion hno.1.2.1, 52, txFillAck_ok sid h⟩
  | false =>
    cases ho : rxIsOutOfOrder ctx.pkt (sockOf ctx sid) with
    | true =>
      simp only [Bool.not_false, Bool.and_true, Bool.false_eq_true, if_false, if_true]
      exact .inr ⟨fun hno => Bool.noConfusion hno.1.2.2.1, 52, txFillAck_ok sid h⟩
    | false =>
      cases hval : isPaylenValid ctx (rxGetHdrlen ctx.pkt) (rxGetPaylen ctx.pkt).toUInt32 with
      | false =>
        simp only [Bool.not_false, Bool.and_true, Bool.false_eq_true, if_false, if_true]
        exact .inr ⟨fun hno => hno.1.2.2.2.1, 52, txFillAck_ok sid h⟩
      | true =>
        simp only [Bool.not_false, Bool.not_true, Bool.and_true, Bool.false_eq_true, if_false]
        rw [← hover]
        rcases @rxDeliver_cases ctx sid h v (rxGetHdrlen ctx.pkt) with
          ⟨hpos, hfull, hret, hseq⟩ | ⟨hno, hret⟩
        · exact .inl ⟨⟨honly, trivial, trivial, trivial, hpos⟩, hfull, hret, hseq⟩
        · exact .inr ⟨fun hd => hno ⟨hd.1.2.2.2.2, hd.2⟩, hret⟩

end payload

/-- What the handler reads off the receive sequence number. -/
theorem rxSeq_reads {s s' : TcpSock} (p : Nat → UInt8) (h : s'.rxSeq = s.rxSeq) :
    rxIsPayloadDup p s' = rxIsPayloadDup p s ∧ rxIsOutOfOrder p s' = rxIsOutOfOrder p s ∧
    rxGetPayloadOverlap p s' = rxGetPayloadOverlap p s := by
  unfold rxIsPayloadDup rxIsOutOfOrder rxGetPayloadOverlap
  rw [h]
  exact ⟨rfl, rfl, rfl⟩

/-- Whether a segment delivers is read off the packet and the receive side. -/
theorem delivers_congr {ctx c : TcpCtx} {s s' : TcpSock} (hpkt : c.pkt = ctx.pkt)
    (hroom : c.pktRoom = ctx.pktRoom) (hseq : s'.rxSeq = s.rxSeq) (hlen : s'.rxLen = s.rxLen)
    (havail : s'.rxAvail = s.rxAvail) : Delivers c s' ↔ Delivers ctx s := by
  obtain ⟨h₁, h₂, h₃⟩ := rxSeq_reads ctx.pkt hseq
  have h₄ : ∀ n, rxGetRxBump s' n = rxGetRxBump s n := by
    intro n
    unfold rxGetRxBump
    rw [hlen, havail]
  have h₅ : ∀ x y, isPaylenValid c x y = isPaylenValid ctx x y := by
    intro x y
    unfold isPaylenValid
    rw [hroom]
  unfold Delivers
  rw [hpkt, h₁, h₂, h₃, h₄, h₅]

/-- The context the payload stage starts from still shows the segment, the
receive side of the socket and its queue. -/
structure SameRx (ctx c : TcpCtx) (sid : Nat) : Prop where
  pkt : c.pkt = ctx.pkt
  room : c.pktRoom = ctx.pktRoom
  seq : (sockOf c sid).rxSeq = (sockOf ctx sid).rxSeq
  len : (sockOf c sid).rxLen = (sockOf ctx sid).rxLen
  avail : (sockOf c sid).rxAvail = (sockOf ctx sid).rxAvail
  qid : (sockOf c sid).appBumpQid = (sockOf ctx sid).appBumpQid

theorem SameRx.trans {a b c : TcpCtx} {sid : Nat} (h₁ : SameRx a b sid) (h₂ : SameRx b c sid) :
    SameRx a c sid :=
  ⟨h₂.pkt.trans h₁.pkt, h₂.room.trans h₁.room, h₂.seq.trans h₁.seq, h₂.len.trans h₁.len,
    h₂.avail.trans h₁.avail, h₂.qid.trans h₁.qid⟩

theorem SameRx.of_quiet {a b : TcpCtx} (h : Quiet a b) (hpkt : b.pkt = a.pkt) (sid : Nat) :
    SameRx a b sid := by
  have hbare := h.socks sid
  exact ⟨hpkt, h.pktRoom, (congrArg TcpSock.rxSeq hbare :), (congrArg TcpSock.rxLen hbare :),
    (congrArg TcpSock.rxAvail hbare :), (congrArg TcpSock.appBumpQid hbare :)⟩

/-- The acknowledgement leaves the receive side alone. -/
theorem ackStaged_sameRx (ctx : TcpCtx) (sid : Nat) : SameRx ctx (ackStaged ctx sid) sid := by
  have hmark := SameRx.of_quiet (quiet_rxMarkCe ctx sid) (rxMarkCe_pkt ctx sid) sid
  refine hmark.trans ?_
  unfold ackStaged
  generalize rxMarkCe ctx sid = c
  obtain ⟨hq, -, hpkt, -⟩ := rxAckStage_spec c sid
  have hset : SameRx c (setSock c sid (ackedSock c.pkt (sockOf c sid))) sid := by
    have hself : ∀ p s, (ackedSock p s).rxSeq = s.rxSeq ∧ (ackedSock p s).rxLen = s.rxLen ∧
        (ackedSock p s).rxAvail = s.rxAvail ∧ (ackedSock p s).appBumpQid = s.appBumpQid := by
      intro p s
      unfold ackedSock rxSockBumpAck tcpSockRecoveryAck tcpSockRecoveryReset
      dsimp only
      split
      · split
        · split <;> exact ⟨rfl, rfl, rfl, rfl⟩
        · exact ⟨rfl, rfl, rfl, rfl⟩
      · exact ⟨rfl, rfl, rfl, rfl⟩
    obtain ⟨h₁, h₂, h₃, h₄⟩ := hself c.pkt (sockOf c sid)
    exact ⟨rfl, rfl, by rw [sockOf_setSock, h₁], by rw [sockOf_setSock, h₂],
      by rw [sockOf_setSock, h₃], by rw [sockOf_setSock, h₄]⟩
  exact hset.trans (SameRx.of_quiet hq hpkt sid)

/-- What `tcp_event_rx` does once the application knows of the
acknowledgement. -/
theorem rxRest_cases {ctx c : TcpCtx} {sid : Nat} (h : 1472 ≤ ctx.pktRoom)
    (hsame : SameRx ctx c sid) {v : RxLocals} (a b : UInt32)
    (honly : v.isAckOnly = rxIsAckOnly ctx.pkt)
    (hdup : v.isPayloadDup = rxIsPayloadDup ctx.pkt (sockOf ctx sid))
    (hooo : v.isOutOfOrder = rxIsOutOfOrder ctx.pkt (sockOf ctx sid))
    (hover : v.overlap = rxGetPayloadOverlap ctx.pkt (sockOf ctx sid)) {r : TcpCtx × Ret}
    (hr : (if v.isAckOnly then (rxSchedTx (rxDupAck c sid v).1 sid a b, .ok 0)
      else rxPayload (rxSchedTx (rxDupAck c sid v).1 sid a b) sid v (rxGetHdrlen ctx.pkt)
        (rxDupAck c sid v).2) = r) :
    (Delivers ctx (sockOf ctx sid) ∧
      (c.equeues (sockOf ctx sid).appBumpQid.toNat).hasRoom = false ∧ r.2 = .error .appBump ∧
      (sockOf r.1 sid).rxSeq ≠ (sockOf ctx sid).rxSeq) ∨
    (¬ (Delivers ctx (sockOf ctx sid) ∧
        (c.equeues (sockOf ctx sid).appBumpQid.toNat).hasRoom = false) ∧ ∃ n, r.2 = .ok n) := by
  cases ho : rxIsAckOnly ctx.pkt with
  | true =>
    rw [honly, ho] at hr
    rw [← hr]
    refine .inr ⟨fun hno => ?_, 0, rfl⟩
    have := hno.1.1
    rw [ho] at this
    cases this
  | false =>
    -- with a payload there is no duplicate acknowledgement to count
    have hskip : rxDupAck c sid v = (c, false) := by
      unfold rxDupAck
      dsimp only
      rw [honly, ho]
      simp
    rw [honly, ho, hskip] at hr
    dsimp only at hr
    have hq := quiet_rxSchedTx c sid a b
    have hpkt : (rxSchedTx c sid a b).pkt = c.pkt := by
      unfold rxSchedTx
      split
      · rfl
      · have hclk := txSchedTsc_snd c sid
        generalize txSchedTsc c sid = x at hclk ⊢
        obtain ⟨prio, c'⟩ := x
        cases hclk
        rfl
    have hall := hsame.trans (SameRx.of_quiet hq hpkt sid)
    rw [← hq.equeues]
    generalize rxSchedTx c sid a b = c₄ at hr hall ⊢
    have hdel := delivers_congr hall.pkt hall.room hall.seq hall.len hall.avail
    obtain ⟨h₁, h₂, h₃⟩ := rxSeq_reads ctx.pkt hall.seq
    have hcases := @rxPayload_cases c₄ sid (by rw [hall.room]; exact h) v
      (by rw [hall.pkt]; exact ho) (by rw [hall.pkt, h₁]; exact hdup)
      (by rw [hall.pkt, h₂]; exact hooo) (by rw [hall.pkt, h₃]; exact hover)
    rw [hdel, hall.qid, hall.seq, hall.pkt, show rxPayload c₄ sid v (rxGetHdrlen ctx.pkt) false = r
      from hr] at hcases
    exact hcases

/-! ## The whole event -/

/-- A failure on the segment of a socket is clean. With a repeated
acknowledgement only the bump for a payload needs a slot. Otherwise either
there is none and no news, or there is one for the acknowledgement and, if
the segment delivers, another for the payload. -/
def SegmentClean (ctx : TcpCtx) (sid : Nat) : Prop :=
  isPaylenValid ctx (rxGetHdrlen ctx.pkt) 0 = true →
    if (sockOf ctx sid).txSeq = tcpAckno ctx.pkt then
      Delivers ctx (sockOf ctx sid) →
        (ctx.equeues (sockOf ctx sid).appBumpQid.toNat).items.length + 1 ≤
          (ctx.equeues (sockOf ctx sid).appBumpQid.toNat).nelems
    else
      ((ctx.equeues (sockOf ctx sid).appBumpQid.toNat).nelems ≤
          (ctx.equeues (sockOf ctx sid).appBumpQid.toNat).items.length ∧
        NoNews ctx (sockOf ctx sid)) ∨
      ((ctx.equeues (sockOf ctx sid).appBumpQid.toNat).items.length + 1 ≤
          (ctx.equeues (sockOf ctx sid).appBumpQid.toNat).nelems ∧
        (Delivers ctx (sockOf ctx sid) →
          (ctx.equeues (sockOf ctx sid).appBumpQid.toNat).items.length + 2 ≤
            (ctx.equeues (sockOf ctx sid).appBumpQid.toNat).nelems))

theorem Untouched.sock {ctx ctx' : TcpCtx} (h : Untouched ctx ctx') (sid : Nat) :
    sockOf ctx' sid = sockOf ctx sid := by
  unfold sockOf
  rw [h.maps]

/-- A segment of an established connection succeeds, fails with nothing but
the clock read, or fails and leaves traces. -/
theorem rxEstablished_cases {ctx : TcpCtx} (sid : Nat) (h : 1472 ≤ ctx.pktRoom) :
    (SegmentClean ctx sid ∧ ∃ n, (rxEstablished ctx sid).2 = .ok n) ∨
    (SegmentClean ctx sid ∧ ∃ clk e, rxEstablished ctx sid = ({ ctx with clk }, .error e)) ∨
    (¬ SegmentClean ctx sid ∧ (∃ e, (rxEstablished ctx sid).2 = .error e) ∧
      ¬ Untouched ctx (rxEstablished ctx sid).1) := by
  have hmark := quiet_rxMarkCe ctx sid
  have hval : isPaylenValid (rxMarkCe ctx sid) (rxGetHdrlen ctx.pkt) 0 =
      isPaylenValid ctx (rxGetHdrlen ctx.pkt) 0 := by
    unfold isPaylenValid
    rw [hmark.pktRoom]
  have hseq := @rxSeq_reads (sockOf ctx sid) (sockOf (rxMarkCe ctx sid) sid) ctx.pkt
    (congrArg TcpSock.rxSeq (hmark.socks sid) :)
  have htx : (sockOf (rxMarkCe ctx sid) sid).txSeq = (sockOf ctx sid).txSeq :=
    (congrArg TcpSock.txSeq (hmark.socks sid) :)
  have hqs : (ackStaged ctx sid).equeues = ctx.equeues :=
    (rxAckStage_spec (rxMarkCe ctx sid) sid).1.equeues.trans hmark.equeues
  have hsame := ackStaged_sameRx ctx sid
  have hnews := ackStaged_untouched_iff ctx sid
  have hfree := @ackStaged_of_noNews ctx sid
  unfold SegmentClean rxEstablished
  dsimp only
  rw [rxMarkCe_pkt, hval]
  cases hlen : isPaylenValid ctx (rxGetHdrlen ctx.pkt) 0 with
  | false =>
    simp only [Bool.not_false, if_true]
    exact .inl ⟨fun hno => Bool.noConfusion hno, 52,
      txFillAck_ok sid (by rw [hmark.pktRoom]; exact h)⟩
  | true =>
    simp only [Bool.not_true, Bool.false_eq_true, if_false, forall_const]
    unfold rxSegment
    generalize hst : rxAckStage (rxMarkCe ctx sid) sid = st
    have hv₁ : st.2.isAckDup = ((sockOf ctx sid).txSeq == tcpAckno ctx.pkt) := by
      rw [← hst, ← htx, ← rxMarkCe_pkt ctx sid]
      rfl
    have hv₂ : st.2.isAckOnly = rxIsAckOnly ctx.pkt := by
      rw [← hst, ← rxMarkCe_pkt ctx sid]
      rfl
    have hv₃ : st.2.isPayloadDup = rxIsPayloadDup ctx.pkt (sockOf ctx sid) := by
      rw [← hst, ← hseq.1, ← rxMarkCe_pkt ctx sid]
      rfl
    have hv₄ : st.2.isOutOfOrder = rxIsOutOfOrder ctx.pkt (sockOf ctx sid) := by
      rw [← hst, ← hseq.2.1, ← rxMarkCe_pkt ctx sid]
      rfl
    have hv₅ : st.2.overlap = rxGetPayloadOverlap ctx.pkt (sockOf ctx sid) := by
      rw [← hst, ← hseq.2.2, ← rxMarkCe_pkt ctx sid]
      rfl
    have hc₁ : st.1 = ackStaged ctx sid := by
      rw [← hst]
      rfl
    obtain ⟨c₁, v⟩ := st
    dsimp only at hv₁ hv₂ hv₃ hv₄ hv₅ hc₁ ⊢
    subst hc₁
    generalize ackStaged ctx sid = c₁ at hqs hsame hnews hfree ⊢
    generalize hq : ctx.equeues (sockOf ctx sid).appBumpQid.toNat = q
    have hq₁ : c₁.equeues (sockOf ctx sid).appBumpQid.toNat = q := by rw [hqs, hq]
    unfold rxAppTxBump
    rw [hv₁]
    by_cases hrep : (sockOf ctx sid).txSeq = tcpAckno ctx.pkt
    · -- nothing is acknowledged: one slot for the payload
      rw [if_pos hrep, hrep, beq_self_eq_true, if_pos rfl]
      dsimp only
      generalize hr : (if v.isAckOnly then _ else _ : TcpCtx × Ret) = r
      rcases rxRest_cases h hsame v.availBefore v.availAfter hv₂ hv₃ hv₄ hv₅ hr with
        ⟨hdel, hfull, hret, hmoved⟩ | ⟨hno, hret⟩
      · rw [hq₁] at hfull
        refine .inr (.inr ⟨fun hall => ?_, ⟨_, hret⟩, fun hu => hmoved (by rw [hu.sock])⟩)
        have hle := hall hdel
        unfold Fifo.hasRoom at hfull
        have := of_decide_eq_false hfull
        omega
      · rw [hq₁] at hno
        refine .inl ⟨fun hdel => ?_, hret⟩
        cases hroom : q.hasRoom with
        | true => exact of_decide_eq_true hroom
        | false => exact absurd ⟨hdel, hroom⟩ hno
    · have hbeq : ((sockOf ctx sid).txSeq == tcpAckno ctx.pkt) = false := beq_false_of_ne hrep
      rw [if_neg hrep, hbeq, if_neg Bool.false_ne_true]
      unfold rxEnqueueTxBump rxEnqueueApp Fifo.push
      dsimp only
      rw [hsame.qid, hq₁]
      cases hroom : q.hasRoom with
      | false =>
        -- the first slot is missing: what was taken over stays
        have hfull : q.nelems ≤ q.items.length := Nat.not_lt.mp (of_decide_eq_false hroom)
        simp only [Bool.false_eq_true, if_false]
        by_cases hnone : NoNews ctx (sockOf ctx sid)
        · obtain ⟨clk, heq⟩ := hfree hnone
          exact .inr (.inl ⟨.inl ⟨hfull, hnone⟩, clk, _, by rw [heq]⟩)
        · refine .inr (.inr ⟨?_, ⟨_, rfl⟩, fun hu => hnone (hnews.mp hu)⟩)
          rintro (⟨-, hn⟩ | ⟨hone, -⟩)
          · exact hnone hn
          · omega
      | true =>
        have hone : q.items.length + 1 ≤ q.nelems := of_decide_eq_true hroom
        simp only [if_true]
        generalize hq₂ : (⟨q.items ++ [TcpQe.bumpAppTx (sockOf c₁ sid).opaquePtr v.ackBump],
          q.nelems⟩ : Fifo TcpQe) = q₂
        have hslots : q₂.items.length = q.items.length + 1 ∧ q₂.nelems = q.nelems := by
          rw [← hq₂]
          exact ⟨List.length_append, rfl⟩
        have hsame₂ : SameRx ctx (c₁.setQueue (sockOf ctx sid).appBumpQid.toNat q₂) sid :=
          ⟨hsame.pkt, hsame.room, hsame.seq, hsame.len, hsame.avail, hsame.qid⟩
        have hget : (c₁.setQueue (sockOf ctx sid).appBumpQid.toNat q₂).equeues
            (sockOf ctx sid).appBumpQid.toNat = q₂ := if_pos rfl
        generalize hr : (if v.isAckOnly then _ else _ : TcpCtx × Ret) = r
        rcases rxRest_cases h hsame₂ v.availBefore v.availAfter hv₂ hv₃ hv₄ hv₅ hr with
          ⟨hdel, hfull, hret, hmoved⟩ | ⟨hno, hret⟩
        · rw [hget] at hfull
          have hlast := of_decide_eq_false hfull
          refine .inr (.inr ⟨?_, ⟨_, hret⟩, fun hu => hmoved (by rw [hu.sock])⟩)
          rintro (⟨hz, -⟩ | ⟨-, htwo⟩)
          · omega
          · have := htwo hdel
            omega
        · rw [hget] at hno
          refine .inl ⟨.inr ⟨hone, fun hdel => ?_⟩, hret⟩
          cases hr₂ : q₂.hasRoom with
          | true =>
            have := of_decide_eq_true hr₂
            omega
          | false => exact absurd ⟨hdel, hr₂⟩ hno

/-- A failure of `tcp_event_rx` is clean for a packet and a state: a punted
segment does not get half way, and one for an established connection is
clean. -/
def RxClean (ctx : TcpCtx) : Prop :=
  isPktlenValid ctx = true → rxIsIp ctx.pkt = true →
    if rxIsFlagsCtl ctx.pkt then ¬ PuntHalf ctx
    else ∀ sid, sockFind ctx = some sid →
      if (sockOf ctx sid).state ≠ .established then ¬ PuntHalf ctx else SegmentClean ctx sid

/-- The event succeeds, fails with nothing but the clock read, or fails and
leaves traces; the last exactly when it is not clean. -/
theorem tcpEventRx_cases {ctx : TcpCtx} (h : 1472 ≤ ctx.pktRoom) :
    (RxClean ctx ∧ ∃ n, (tcpEventRx ctx).2 = .ok n) ∨
    (RxClean ctx ∧ ∃ clk e, tcpEventRx ctx = ({ ctx with clk }, .error e)) ∨
    (¬ RxClean ctx ∧ (∃ e, (tcpEventRx ctx).2 = .error e) ∧
      ¬ Untouched ctx (tcpEventRx ctx).1) := by
  have hpunt : (¬ PuntHalf ctx ∧ ∃ n, (rxPuntCtl ctx).2 = .ok n) ∨
      (¬ PuntHalf ctx ∧ ∃ clk e, rxPuntCtl ctx = ({ ctx with clk }, .error e)) ∨
      (¬ ¬ PuntHalf ctx ∧ (∃ e, (rxPuntCtl ctx).2 = .error e) ∧
        ¬ Untouched ctx (rxPuntCtl ctx).1) := by
    rcases rxPuntCtl_cases ctx with ⟨hno, heq⟩ | ⟨hno, hret⟩ | ⟨hhalf, hret, hmoved⟩
    · exact .inr (.inl ⟨hno, ctx.clk, _, heq⟩)
    · exact .inl ⟨hno, 0, hret⟩
    · exact .inr (.inr ⟨fun hno => hno hhalf, ⟨_, hret⟩, fun hu => hmoved hu.equeues⟩)
  have hself : ∀ {P : Prop}, P →
      (P ∧ ∃ n, (((ctx, .error .other) : TcpCtx × Ret)).2 = .ok n) ∨
      (P ∧ ∃ clk e, ((ctx, .error .other) : TcpCtx × Ret) = ({ ctx with clk }, .error e)) ∨
      (¬ P ∧ (∃ e, ((ctx, .error .other) : TcpCtx × Ret).2 = .error e) ∧
        ¬ Untouched ctx ((ctx, .error .other) : TcpCtx × Ret).1) :=
    fun hp => .inr (.inl ⟨hp, ctx.clk, _, rfl⟩)
  unfold tcpEventRx RxClean
  cases hlen : isPktlenValid ctx with
  | false =>
    simp only [Bool.not_false, if_true]
    exact hself fun hno => Bool.noConfusion hno
  | true =>
    cases hip : rxIsIp ctx.pkt with
    | false =>
      simp only [Bool.not_true, Bool.not_false, Bool.false_eq_true, if_false, if_true]
      exact hself fun _ hno => hno.elim
    | true =>
      simp only [Bool.not_true, Bool.false_eq_true, if_false, forall_const]
      cases hctl : rxIsFlagsCtl ctx.pkt with
      | true =>
        simp only [if_true]
        exact hpunt
      | false =>
        simp only [Bool.false_eq_true, if_false]
        cases hf : sockFind ctx with
        | none => exact hself fun _ hno => nomatch hno
        | some sid =>
          have hone : ∀ P : Nat → Prop, (∀ i, some sid = some i → P i) ↔ P sid :=
            fun P => ⟨fun hall => hall sid rfl, fun hp i hi => by cases hi; exact hp⟩
          rw [hone fun sid => if (sockOf ctx sid).state ≠ .established then ¬ PuntHalf ctx
            else SegmentClean ctx sid]
          dsimp only
          by_cases hst : (sockOf ctx sid).state ≠ .established
          · rw [if_pos hst, if_pos hst]
            exact hpunt
          · rw [if_neg hst, if_neg hst]
            exact rxEstablished_cases sid h

theorem retInt_neg {r : Ret} : retInt r = -1 ↔ ∃ e, r = .error e := by
  cases r with
  | error e => exact ⟨fun _ => ⟨e, rfl⟩, fun _ => rfl⟩
  | ok n =>
    constructor
    · intro h
      have : ((n : Int)) = -1 := h
      omega
    · rintro ⟨e, h⟩
      cases h

/-- **A failed `tcp_event_rx` leaves the connection untouched** exactly when
the failure is a clean one; and then nothing at all but the clock differs, so
that the same segment coming again meets the state the first one met. -/
theorem tcp_rx_error_untouched_iff {ctx : TcpCtx} {virtGre : Bool}
    (hroom : ctx.pktRoom = fastEbpfPktRoom virtGre) :
    ((retInt (tcpEventRx ctx).2 = -1 → Untouched ctx (tcpEventRx ctx).1) ↔ RxClean ctx) ∧
    (RxClean ctx → retInt (tcpEventRx ctx).2 = -1 →
      ∃ clk, (tcpEventRx ctx).1 = { ctx with clk }) := by
  have h : 1472 ≤ ctx.pktRoom := by
    rw [hroom]
    exact (fastEbpfPktRoom_bounds virtGre).1
  rw [retInt_neg]
  rcases tcpEventRx_cases h with ⟨hc, n, hret⟩ | ⟨hc, clk, e, heq⟩ | ⟨hc, herr, hmoved⟩
  · have hno : ¬ ∃ e, (tcpEventRx ctx).2 = .error e := by
      rintro ⟨e, he⟩
      rw [hret] at he
      cases he
    exact ⟨⟨fun _ => hc, fun _ he => absurd he hno⟩, fun _ he => absurd he hno⟩
  · rw [heq]
    exact ⟨⟨fun _ => hc, fun _ _ => ⟨rfl, rfl, rfl, rfl⟩⟩, fun _ _ => ⟨clk, rfl⟩⟩
  · exact ⟨⟨fun hu => absurd (hu herr) hmoved, fun hcl => absurd hcl hc⟩,
      fun hcl => absurd hcl hc⟩

/-- A segment without options: total length, acknowledgement number, and
room for four bytes behind the header. -/
def plainSegment (len ack : UInt8) : Nat → UInt8 := fun i =>
  ([0x45, 0, 0, len, 0, 0, 0, 0, 64, 6, 0, 0, 0, 0, 0, 0, 0, 0, 0, 0, 0, 0, 0, 0, 0, 0, 0, 0,
    0, 0, 0, ack, 0x50, 0x10, 0, 64, 0, 0, 0, 0, 1, 2, 3, 4] : List UInt8).getD i 0

/-- An established socket with three bytes in flight, whose application does
not empty its queue of four bumps. -/
def busyAppCtx (len ack : UInt8) : TcpCtx :=
  { oneSockCtx { TcpSock.zero with
      state := .established, txLen := 64, txPending := 3, rxLen := 64, txRemoteAvail := 64 } 4 with
    pkt := plainSegment len ack
    equeues := fun _ => { items := List.replicate 4 .unknown, nelems := 4 } }

/-- Both calls fail: one has taken an acknowledgement of three bytes over,
the other has stored four bytes and moved the receive sequence number. -/
theorem tcp_rx_error_touches :
    (retInt (tcpEventRx (busyAppCtx 40 3)).2 = -1 ∧
      (sockOf (tcpEventRx (busyAppCtx 40 3)).1 0).txSeq = 3 ∧
      (sockOf (tcpEventRx (busyAppCtx 40 3)).1 0).txPending = 0 ∧
      ¬ Untouched (busyAppCtx 40 3) (tcpEventRx (busyAppCtx 40 3)).1) ∧
    (retInt (tcpEventRx (busyAppCtx 44 0)).2 = -1 ∧
      (sockOf (tcpEventRx (busyAppCtx 44 0)).1 0).rxSeq = 4 ∧
      (sockOf (tcpEventRx (busyAppCtx 44 0)).1 0).rxAvail = 4 ∧
      ¬ Untouched (busyAppCtx 44 0) (tcpEventRx (busyAppCtx 44 0)).1) := by
  have hack : (sockOf (tcpEventRx (busyAppCtx 40 3)).1 0).txSeq = 3 := by decide
  have hdata : (sockOf (tcpEventRx (busyAppCtx 44 0)).1 0).rxSeq = 4 := by decide
  refine ⟨⟨by decide, hack, by decide, ?_⟩, ⟨by decide, hdata, by decide, ?_⟩⟩
  · intro hu
    rw [hu.sock] at hack
    exact absurd hack (by decide)
  · intro hu
    rw [hu.sock] at hdata
    exact absurd hdata (by decide)

/-- The first of the two without its ACK flag. -/
def busyNoAckCtx : TcpCtx :=
  { busyAppCtx 40 3 with pkt := fun i => if i = 33 then 0 else plainSegment 40 3 i }

/-- Without the flag the segment has no news for the full queue to lose. -/
theorem busyNoAckCtx_clean : RxClean busyNoAckCtx := by
  intro _ _
  rw [if_neg (by decide)]
  intro sid hsid
  have hfind : sockFind busyNoAckCtx = some 0 := by decide
  rw [hfind] at hsid
  cases hsid
  rw [if_neg (by decide)]
  intro _
  rw [if_neg (by decide)]
  exact .inl ⟨by decide, ⟨by decide, by decide, by decide, by decide⟩⟩

/-- At the first of the two the failure is not a clean one. Without its ACK
flag the segment fails too, and leaves everything but the clock. -/
theorem tcp_rx_error_untouched_iff_busy :
    ¬ RxClean (busyAppCtx 40 3) ∧ retInt (tcpEventRx busyNoAckCtx).2 = -1 ∧
      ∃ clk, (tcpEventRx busyNoAckCtx).1 = { busyNoAckCtx with clk } := by
  refine ⟨fun hclean => ?_, by decide, ?_⟩
  · have hu := (@tcp_rx_error_untouched_iff (busyAppCtx 40 3) false rfl).1.mpr hclean (by decide)
    have hmoved : (sockOf (tcpEventRx (busyAppCtx 40 3)).1 0).txSeq = 3 := by decide
    rw [hu.sock] at hmoved
    exact absurd hmoved (by decide)
  · exact (@tcp_rx_error_untouched_iff busyNoAckCtx false rfl).2 busyNoAckCtx_clean (by decide)

end Chamelio.Tcp
