import Chamelio.Tcp.AckWindow
import Chamelio.Tcp.TxSide
import Chamelio.Tcp.RxStream

/-!
# One stream, from end to end

Two connections and what lies between them. The application of one side
writes, that of the other side reads; the packets of both sides pass a
network that loses, repeats, delays and reorders them, and changes the
fields a router or the checksum offload may change. `TxInv` knows which
bytes the sender's segments carry, `RxInv` which bytes the receiver's ring
holds; here the segments of the one are the segments of the other, and the
receiver's acknowledgements are those the sender frees its ring on.

Mirroring notes:
- Sequence numbers are words, so a packet is only understood while it is
  less than 2³¹ bytes behind (`Packet.Fresh`). That it is never ahead is
  proved, not assumed: the sender is at most a ring ahead of what it knows
  the receiver has.
- A handler that returns a positive length has left a packet of that length
  in the buffer; `fast_rx.c`, `fast_sched.c` and `fast_queues.c` send it.
- `Packet.pos` and `TxConn.acked` are no part of the program: the true
  offsets of which it keeps the low 32 bits.
-/

namespace Chamelio.Tcp

open Chamelio.Lib Chamelio.Util Chamelio.Pkt Chamelio.Fast

/-! ## The header of a packet -/

/-- What the header `tx_fill_hdr` writes says of a packet of `n` bytes: it
ends at the end of what socket `s` counts as sent. -/
structure HdrOf (p : Nat → UInt8) (s : TcpSock) (n : Nat) : Prop where
  ihl : iphHl p = 5
  offset : tcphHdrlen p = 8
  len : (ipLen p).toNat = n
  plain : rxIsFlagsCtl p = false
  ack : rxIsAck p = true
  seqno : tcpSeqno p + UInt32.ofNat (n - 52) = s.txSeq + s.txPending
  ackno : tcpAckno p = s.rxSeq

/-- The word with the data offset and the flags. -/
theorem txFillHdr_off (ctx : TcpCtx) (sid : Nat) (hdrlen paylen : UInt32) :
    be16 (txFillHdr ctx sid hdrlen paylen).pkt 32 = ((hdrlen / 4 - 5).toUInt16 <<< 12) |||
      (txHdrFlags (sockOf ctx sid) paylen &&& 0x1ff) := by
  rw [txFillHdr_pkt]
  unfold txHdrBytes txWriteTsopt
  dsimp only
  refine (be16_congr ?_).trans (be16_put16 ?_ 32 _)
  intro i hlo hhi
  rw [put16_out _ _ (by omega), put32_out _ _ (by omega), put32_out _ _ (by omega),
    put8_ne _ _ (by omega), put8_ne _ _ (by omega), put16_out _ _ (by omega),
    put16_out _ _ (by omega), put16_out _ _ (by omega)]

/-- The first four bytes: version, header length and total length. -/
theorem txFillHdr_ip (ctx : TcpCtx) (sid : Nat) (hdrlen paylen : UInt32) :
    (txFillHdr ctx sid hdrlen paylen).pkt 0 = 0x45 ∧
    ipLen (txFillHdr ctx sid hdrlen paylen).pkt = (hdrlen + paylen).toUInt16 := by
  have hlow : ∀ i, i < 4 → i ≠ 1 → (txFillHdr ctx sid hdrlen paylen).pkt i =
      put16 (put8 (put8 ctx.pkt 0 0x45) 1 0) 2 (hdrlen + paylen).toUInt16 i := by
    intro i hi h1
    rw [txFillHdr_pkt]
    unfold txHdrBytes txWriteTsopt
    rw [put16_out _ _ (by omega), put32_out _ _ (by omega), put32_out _ _ (by omega),
      put8_ne _ _ (by omega), put8_ne _ _ (by omega), put16_out _ _ (by omega),
      put16_out _ _ (by omega), put16_out _ _ (by omega), put16_out _ _ (by omega),
      put32_out _ _ (by omega), put32_out _ _ (by omega), put16_out _ _ (by omega),
      put16_out _ _ (by omega)]
    -- the ECN bits are in byte 1
    have hecn : ∀ (c : Prop) [Decidable c] (q : Nat → UInt8),
        (if c then put8 q 1 ipEcnEct0 else q) i = q i := by
      intro c _ q
      split
      · exact put8_ne _ _ h1
      · rfl
    rw [hecn, put32_out _ _ (by omega), put32_out _ _ (by omega), put16_out _ _ (by omega),
      put8_ne _ _ (by omega), put8_ne _ _ (by omega), put16_out _ _ (by omega),
      put16_out _ _ (by omega)]
  constructor
  · rw [hlow 0 (by omega) (by omega), put16_out _ _ (by omega), put8_ne _ _ (by omega)]
    exact put8_self _ _ _
  · unfold ipLen
    exact (be16_congr (fun i hlo hhi => hlow i (by omega) (by omega))).trans (be16_put16 _ 2 _)

/-- The flags `tx_fill_hdr` sends: ACK, and none of those that are punted to
the slow path. -/
theorem txHdrFlags_plain (s : TcpSock) (paylen : UInt32) {w : UInt16}
    (hw : w = (txGetHdrlen / 4 - 5).toUInt16 <<< 12 ||| (txHdrFlags s paylen &&& 0x1ff)) :
    w.toNat / 4096 = 8 ∧ (w &&& 0x1ff) &&& (tcpSyn ||| tcpFin ||| tcpRst) = 0 ∧
    (w &&& 0x1ff) &&& tcpAck ≠ 0 := by
  subst hw
  unfold txHdrFlags
  dsimp only
  split <;> split <;> decide

/-- **The header of a packet** with `b` bytes of payload. -/
theorem txFillHdr_hdr (ctx : TcpCtx) (sid : Nat) {b : UInt32} (hb : b.toNat ≤ 1448) :
    HdrOf (txFillHdr ctx sid txGetHdrlen b).pkt (txSockTxBump (sockOf ctx sid) b)
      (52 + b.toNat) := by
  obtain ⟨hvhl, hlen⟩ := txFillHdr_ip ctx sid txGetHdrlen b
  obtain ⟨hoff, hctl, hack⟩ := txHdrFlags_plain (sockOf ctx sid) b
    (txFillHdr_off ctx sid txGetHdrlen b)
  have h52 : txGetHdrlen.toNat = 52 := rfl
  refine ⟨?_, hoff, ?_, ?_, ?_, ?_, (txFillHdr_window ctx sid txGetHdrlen b).2⟩
  · unfold iphHl
    rw [hvhl]
    rfl
  · rw [hlen, UInt32.toNat_toUInt16, UInt32.toNat_add, h52]
    omega
  · unfold rxIsFlagsCtl tcphFlags
    rw [hctl]
    rfl
  · unfold rxIsAck tcphFlags
    exact bne_iff_ne.mpr hack
  · rw [txFillHdr_seqno, Nat.add_sub_cancel_left, UInt32.ofNat_toNat]
    exact UInt32.add_assoc _ _ _

section hdr

variable {p q : Nat → UInt8} {s s' : TcpSock} {n : Nat}

/-- Only the end of what was sent and the next byte expected count. -/
theorem HdrOf.congr (h : HdrOf p s n) (htx : s'.txSeq + s'.txPending = s.txSeq + s.txPending)
    (hrx : s'.rxSeq = s.rxSeq) : HdrOf p s' n :=
  ⟨h.ihl, h.offset, h.len, h.plain, h.ack, h.seqno.trans htx.symm, h.ackno.trans hrx.symm⟩

theorem HdrOf.bare (h : HdrOf p s n) (hb : s'.bare = s.bare) : HdrOf p s' n := by
  have hseq : s'.txSeq = s.txSeq := (congrArg TcpSock.txSeq hb :)
  have hpend : s'.txPending = s.txPending := (congrArg TcpSock.txPending hb :)
  exact h.congr (by rw [hseq, hpend]) (congrArg TcpSock.rxSeq hb :)

/-- The bytes of a header that a router or the checksum offload writes: the
traffic class with its ECN bits, the time to live and the two checksums. -/
def Rewritten (i : Nat) : Prop := i = 1 ∨ i = 8 ∨ i = 10 ∨ i = 11 ∨ i = 36 ∨ i = 37

/-- None of them is read here. -/
theorem HdrOf.carried (h : HdrOf p s n) (hat : ∀ i, i < 52 → ¬ Rewritten i → q i = p i) :
    HdrOf q s n := by
  have hoff : be16 q 32 = be16 p 32 :=
    be16_congr (fun i hlo hhi => hat i (by omega) (by unfold Rewritten; omega))
  refine ⟨?_, ?_, ?_, ?_, ?_, ?_, ?_⟩
  · unfold iphHl
    rw [hat 0 (by omega) (by unfold Rewritten; omega)]
    exact h.ihl
  · unfold tcphHdrlen
    rw [hoff]
    exact h.offset
  · have hlen : ipLen q = ipLen p :=
      be16_congr (fun i hlo hhi => hat i (by omega) (by unfold Rewritten; omega))
    rw [hlen]
    exact h.len
  · unfold rxIsFlagsCtl tcphFlags
    rw [hoff]
    exact h.plain
  · unfold rxIsAck tcphFlags
    rw [hoff]
    exact h.ack
  · have hseq : tcpSeqno q = tcpSeqno p :=
      be32_congr (fun i hlo hhi => hat i (by omega) (by unfold Rewritten; omega))
    rw [hseq]
    exact h.seqno
  · have hack : tcpAckno q = tcpAckno p :=
      be32_congr (fun i hlo hhi => hat i (by omega) (by unfold Rewritten; omega))
    rw [hack]
    exact h.ackno

end hdr

/-! ## What the handlers leave in the buffer -/

section answer

variable {ctx : TcpCtx} {sid n : Nat}

/-- Sending nothing moves nothing. -/
theorem txSockTxBump_zero (s : TcpSock) : txSockTxBump s 0 = s := by
  unfold txSockTxBump
  rw [UInt32.sub_zero, UInt32.add_zero]

theorem txFillAck_hdr (h : (txFillAck ctx sid).2 = .ok n) :
    n = 52 ∧ HdrOf (txFillAck ctx sid).1.pkt (sockOf (txFillAck ctx sid).1 sid) n := by
  unfold txFillAck at h ⊢
  split
  · next h₁ =>
    rw [if_pos h₁] at h
    cases h
  · next h₁ =>
    rw [if_neg h₁] at h
    split
    · next h₂ =>
      rw [if_pos h₂] at h
      cases h
    · next h₂ =>
      rw [if_neg h₂] at h
      cases h
      have hfill := txFillHdr_hdr ctx sid (b := 0) (by decide)
      rw [txSockTxBump_zero] at hfill
      exact ⟨rfl, hfill.bare ((quiet_txFillHdr ctx sid txGetHdrlen 0).socks sid)⟩

/-- Whatever the payload stage does, it ends with `tx_fill_ack`. -/
theorem rxPayload_answer {v : RxLocals} {hdrlen : UInt32} {remit : Bool}
    (h : (rxPayload ctx sid v hdrlen remit).2 = .ok n) :
    ∃ c, rxPayload ctx sid v hdrlen remit = txFillAck c sid := by
  unfold rxPayload at h ⊢
  split
  · exact ⟨_, rfl⟩
  · next h₁ =>
    rw [if_neg h₁] at h
    split
    · exact ⟨_, rfl⟩
    · next h₂ =>
      rw [if_neg h₂] at h
      split
      · exact ⟨_, rfl⟩
      · next h₃ =>
        rw [if_neg h₃] at h
        unfold rxDeliver at h ⊢
        dsimp only at h ⊢
        split
        · next hpos =>
          rw [if_pos hpos] at h
          split
          · next hq =>
            rw [hq] at h
            cases h
          · exact ⟨_, rfl⟩
        · exact ⟨_, rfl⟩

theorem rxEstablished_answer (h : (rxEstablished ctx sid).2 = .ok n) (hn : n ≠ 0) :
    ∃ c, rxEstablished ctx sid = txFillAck c sid := by
  unfold rxEstablished at h ⊢
  dsimp only at h ⊢
  split
  · exact ⟨_, rfl⟩
  · next h₁ =>
    rw [if_neg h₁] at h
    unfold rxSegment at h ⊢
    dsimp only at h ⊢
    split
    · next hq =>
      rw [hq] at h
      cases h
    · next c hq =>
      rw [hq] at h
      dsimp only at h ⊢
      split
      · -- a pure acknowledgement is not answered
        next honly =>
        rw [if_pos honly] at h
        cases h
        exact absurd rfl hn
      · next honly =>
        rw [if_neg honly] at h
        exact rxPayload_answer h

/-- **The answer to a segment** is an acknowledgement without payload. -/
theorem tcpEventRx_hdr (h : (tcpEventRx ctx).2 = .ok n) (hn : n ≠ 0)
    (hf : sockFind ctx = some sid) :
    n = 52 ∧ HdrOf (tcpEventRx ctx).1.pkt (sockOf (tcpEventRx ctx).1 sid) n := by
  have hpunt : ∀ {c : TcpCtx}, (rxPuntCtl c).2 ≠ .ok n :=
    fun hok => hn (rxPuntCtl_sends_nothing hok)
  unfold tcpEventRx at h ⊢
  rw [hf] at h ⊢
  split
  · next h₁ =>
    rw [if_pos h₁] at h
    cases h
  · next h₁ =>
    rw [if_neg h₁] at h
    split
    · next h₂ =>
      rw [if_pos h₂] at h
      cases h
    · next h₂ =>
      rw [if_neg h₂] at h
      split
      · next h₃ =>
        rw [if_pos h₃] at h
        exact absurd h hpunt
      · next h₃ =>
        rw [if_neg h₃] at h
        dsimp only at h ⊢
        split
        · next h₄ =>
          rw [if_pos h₄] at h
          exact absurd h hpunt
        · next h₄ =>
          rw [if_neg h₄] at h
          obtain ⟨c, hc⟩ := rxEstablished_answer h hn
          rw [hc] at h ⊢
          exact txFillAck_hdr h

/-- **The window update** after the application drained a full buffer. -/
theorem deqHandleBumpRx_hdr {id rxHead : UInt32} (h : (deqHandleBumpRx ctx id rxHead).2 = .ok n)
    (hn : n ≠ 0) :
    n = 52 ∧ HdrOf (deqHandleBumpRx ctx id rxHead).1.pkt
      (sockOf (deqHandleBumpRx ctx id rxHead).1 id.toNat) n := by
  unfold deqHandleBumpRx sockMapLookup at h ⊢
  split
  · next h₁ =>
    rw [if_pos h₁] at h
    cases h
  · next h₁ =>
    rw [if_neg h₁] at h
    by_cases hge : id.toNat ≥ ctx.maps.sockNelems
    · rw [if_pos hge] at h
      cases h
    · rw [if_neg hge] at h ⊢
      dsimp only at h ⊢
      split
      · next hfull =>
        rw [if_pos hfull] at h
        exact txFillAck_hdr h
      · next hfull =>
        rw [if_neg hfull] at h
        cases h
        exact absurd rfl hn

/-- **A segment of socket `sid`**, with the `b` bytes it carries counted as
sent. -/
theorem txSend_hdr {nowTsc : UInt64} (h₁ : 1472 ≤ ctx.pktRoom) (h₂ : ctx.pktRoom ≤ 1500)
    (h : (txSend ctx sid nowTsc).2 = .ok n) :
    ∃ b : UInt32, n = 52 + b.toNat ∧ b.toNat ≤ (sockOf ctx sid).txAvail.toNat ∧
      (sockOf (txSend ctx sid nowTsc).1 sid).bare = (txSockTxBump (sockOf ctx sid) b).bare ∧
      HdrOf (txSend ctx sid nowTsc).1.pkt (sockOf (txSend ctx sid nowTsc).1 sid) n := by
  have hbump := toNat_txGetTxBump (sockOf ctx sid) (txGetMaxPaylen ctx txGetHdrlen)
  rw [toNat_txGetMaxPaylen h₁ h₂] at hbump
  generalize hb : txGetTxBump (sockOf ctx sid) (txGetMaxPaylen ctx txGetHdrlen) = b at hbump
  have hfill := txFillHdr_hdr ctx sid (b := b) (by omega)
  have hbare : (txSockTxBump (sockOf (txFillHdr ctx sid txGetHdrlen b) sid) b).bare =
      (txSockTxBump (sockOf ctx sid) b).bare :=
    congrArg (txSockTxBump · b) ((quiet_txFillHdr ctx sid txGetHdrlen b).socks sid)
  have h52 : (txGetHdrlen + b).toNat = 52 + b.toNat := by
    rw [toNat_add_of_lt] <;> rw [show txGetHdrlen.toNat = 52 from rfl]
    omega
  rw [txSend_eq nowTsc hb h₁ h₂] at h ⊢
  by_cases hpos : b > 0
  · rw [if_pos hpos] at h ⊢
    obtain ⟨hq, -, hret, hpkt⟩ :=
      txSendPayload_spec (txFillHdr ctx sid txGetHdrlen b) sid txGetHdrlen b nowTsc
    rw [hret, h52] at h
    cases h
    have hsock := hq.socks sid
    rw [sockOf_setSock, hbare] at hsock
    refine ⟨b, rfl, by omega, hsock, ?_⟩
    rw [hpkt]
    -- the payload is copied behind the header
    exact (hfill.carried (fun i hi _ => txCopyPayload_hdr _ _ b hi)).bare hsock
  · obtain rfl : b = 0 := by
      rw [gt_iff_lt, UInt32.not_lt] at hpos
      exact UInt32.le_zero_iff.mp hpos
    rw [if_neg hpos] at h ⊢
    rw [h52] at h
    cases h
    rw [txSockTxBump_zero, txSockTxBump_zero] at hbare
    refine ⟨0, rfl, Nat.zero_le _, ?_, hfill.bare ?_⟩
    · rw [txSockTxBump_zero]
      exact hbare
    · rw [txSockTxBump_zero]
      exact hbare

end answer

/-! ## What a connection sends -/

/-- The length of the packet a handler left, if it left one. -/
def sentLen : Ret → Option Nat
  | .ok n => if n = 0 then none else some n
  | .error _ => none

theorem sentLen_some {r : Ret} {n : Nat} (h : sentLen r = some n) : r = .ok n ∧ n ≠ 0 := by
  unfold sentLen at h
  split at h
  · split at h
    · cases h
    · next hne =>
      cases h
      exact ⟨rfl, hne⟩
  · cases h

/-- The length of the packet a step sends for the connection. -/
def Conn.sends (g : ConnId) (s : Conn) : Act → Option Nat
  | .sched b =>
    if schedTarget s.fast = some g.sid then sentLen (tcpEventSched (s.load b)).2 else none
  | .rx b => if sockFind (s.load b) = some g.sid then sentLen (tcpEventRx (s.load b)).2 else none
  | .deq b qeOff =>
    match (outQueue g s.lib).head? with
    | some (.bumpChamRx id rxHead) =>
      if id = g.sockId then
        sentLen (tcpEventDeq { s.load b with qe := .bumpChamRx id rxHead, qeOff }).2
      else none
    | _ => none
  | _ => none

/-- **A packet the connection sends** ends where its socket counts it as
sent; only the scheduler sends payload. -/
theorem Conn.sends_hdr {g : ConnId} {s : Conn} {a : Act} {n : Nat} (h : s.sends g a = some n) :
    HdrOf (s.step g a).1.fast.pkt (sockOf (s.step g a).1.fast g.sid) n ∧
    (n = 52 ∨ ∃ buf b, a = .sched buf ∧ n = 52 + b.toNat ∧
      b.toNat ≤ (sockOf s.fast g.sid).txAvail.toNat ∧
      (sockOf (s.step g a).1.fast g.sid).bare =
        (txSockTxBump (sockOf s.fast g.sid) b).bare) := by
  cases a with
  | sched buf =>
    unfold Conn.sends at h
    dsimp only at h
    by_cases htgt : schedTarget s.fast = some g.sid
    · rw [if_pos htgt] at h
      obtain ⟨hok, hne⟩ := sentLen_some h
      obtain ⟨hr₁, hr₂⟩ := fastEbpfPktRoom_bounds buf.virtGre
      rcases tcpEventSched_cases (s.load buf) with ⟨-, hzero⟩ | ⟨j, ctx₁, hj, hm, hroom, heq⟩
      · exact absurd (hzero n hok) hne
      · obtain rfl : j = g.sid := Option.some.inj (hj.symm.trans htgt)
        have hsock : sockOf ctx₁ g.sid = sockOf s.fast g.sid := by
          unfold sockOf
          rw [hm]
          rfl
        rw [heq] at hok
        obtain ⟨b, hn, hb, hbare, hhdr⟩ :=
          txSend_hdr (by rw [hroom]; exact hr₁) (by rw [hroom]; exact hr₂) hok
        rw [hsock] at hb hbare
        show HdrOf (tcpEventSched (s.load buf)).1.pkt _ n ∧ _
        rw [show ((s.step g (.sched buf)).1.fast) = (tcpEventSched (s.load buf)).1 from rfl, heq]
        exact ⟨hhdr, .inr ⟨buf, b, rfl, hn, hb, hbare⟩⟩
    · rw [if_neg htgt] at h
      cases h
  | rx buf =>
    unfold Conn.sends at h
    dsimp only at h
    split at h
    · next hf =>
      obtain ⟨hok, hne⟩ := sentLen_some h
      obtain ⟨hn, hhdr⟩ := tcpEventRx_hdr hok hne hf
      exact ⟨hhdr, .inl hn⟩
    · cases h
  | deq buf qeOff =>
    unfold Conn.sends at h
    dsimp only at h
    split at h
    · next id rxHead hhead =>
      split at h
      · next hid =>
        subst hid
        obtain ⟨hok, hne⟩ := sentLen_some h
        have hstep : (s.step g (.deq buf qeOff)).1.fast =
            (tcpEventDeq { s.load buf with qe := .bumpChamRx g.sockId rxHead, qeOff }).1 := by
          show (s.deq g buf qeOff).fast = _
          unfold Conn.deq
          rw [hhead]
          dsimp only
          rw [hok]
        rw [hstep]
        unfold tcpEventDeq at hok ⊢
        split
        · next h₁ =>
          rw [if_pos h₁] at hok
          cases hok
        · next h₁ =>
          rw [if_neg h₁] at hok
          obtain ⟨hn, hhdr⟩ := deqHandleBumpRx_hdr hok hne
          exact ⟨hhdr, .inl hn⟩
      · cases h
    · cases h
  | sendto buf addr => cases h
  | recvfrom len addrOk => cases h
  | flush => cases h
  | poll => cases h
  | retransmit b sockId txSeq txPending qeOff => cases h

/-! ## The sender -/

/-- The connection with the number of bytes its peer acknowledged, which the
socket itself only keeps modulo 2³². -/
structure TxConn where
  conn : Conn
  acked : Nat

def TxConn.step (g : ConnId) (s : TxConn) (a : Act) : TxConn × Out :=
  let res := s.conn.step g a
  let moved := (sockOf res.1.fast g.sid).txSeq - (sockOf s.conn.fast g.sid).txSeq
  ({ conn := res.1, acked := s.acked + moved.toNat }, res.2)

section sender

variable {g : ConnId} {isn : UInt32} {W : List UInt8} {R A : Nat}

/-- A segment moves the send sequence number by what it acknowledges, or not
at all. -/
theorem rx_txSeq (s : Conn) (b : Buf) (sid : Nat) :
    (sockOf (tcpEventRx (s.load b)).1 sid).txSeq = (sockOf s.fast sid).txSeq ∨
    (sockOf (tcpEventRx (s.load b)).1 sid).txSeq =
      (sockOf s.fast sid).txSeq + rxGetAckBump b.pkt (sockOf s.fast sid) := by
  obtain ⟨e, he, hp⟩ : ∃ e : EvIn, evCtx s.fast e = s.load b ∧ e.pkt = b.pkt :=
    ⟨{ pkt := b.pkt, virtGre := b.virtGre, shm := s.fast.shm, equeues := s.fast.equeues
       dqueues := s.fast.dqueues }, rfl, rfl⟩
  have hev := tcpEventRx_tx s.fast sid e
  rw [he] at hev
  generalize hv : (sockOf (tcpEventRx (s.load b)).1 sid).tx = v at hev
  have hseq : (sockOf (tcpEventRx (s.load b)).1 sid).txSeq = v.seq := congrArg TxView.seq hv
  rw [hseq, ← hp]
  cases hev with
  | calm _ => exact .inl rfl
  | window _ _ _ => exact .inl rfl
  | ack _ _ _ => exact .inr rfl
  | dupAck _ _ _ hbump _ _ => exact .inl (UInt32.add_zero _)

/-- **One step of the sender**: the bytes acknowledged grow by what a segment
acknowledges, if at all. -/
theorem TxInv.next {s : Conn} {a : Act} (h : TxInv g isn W R A s) (hok : TxOk s a) :
    ∃ R' k, k < 4294967296 ∧
      TxInv g isn (W ++ (s.step g a).2.written) R' (A + k) (s.step g a).1 ∧
      (k = 0 ∨ ∃ b, a = .rx b ∧ k = (rxGetAckBump b.pkt (sockOf s.fast g.sid)).toNat) := by
  have hstay : ∀ {s' : Conn} {R' : Nat}, TxInv g isn W R' A s' →
      TxInv g isn (W ++ []) R' (A + 0) s' := by
    intro s' R' h'
    rw [List.append_nil]
    exact h'
  cases a with
  | sendto buf addr => exact ⟨R, 0, by omega, h.sendto buf addr, .inl rfl⟩
  | recvfrom len addrOk => exact absurd hok id
  | flush => exact ⟨R, 0, by omega, hstay (h.flushed (tcpFlushBumps_flushed h.owns)), .inl rfl⟩
  | poll =>
    obtain ⟨R', h'⟩ := h.poll
    exact ⟨R', 0, by omega, hstay h', .inl rfl⟩
  | deq b qeOff => exact ⟨R, 0, by omega, hstay (h.deq b qeOff), .inl rfl⟩
  | retransmit b sockId txSeq txPending qeOff =>
    have hready : TxReady g
        { s.load b with qe := .txRetransmit sockId txSeq txPending, qeOff } :=
      ⟨h.ready.owns.of_maps rfl, h.ready.tx, h.ready.rx⟩
    have hf := retransmit_fastTx hready rfl
    exact ⟨R, 0, by omega,
      hstay (h.event ⟨hf.owns, hf.move, hf.rx, hf.app, hf.mine, hf.ring⟩), .inl rfl⟩
  | sched b =>
    obtain ⟨hr₁, hr₂⟩ := fastEbpfPktRoom_bounds b.virtGre
    have hf := tcpEventSched_fastTx (h.ready.load b) hr₁ hr₂
    exact ⟨R, 0, by omega,
      hstay (h.event ⟨hf.owns, hf.move, hf.rx, hf.app, hf.mine, hf.ring⟩), .inl rfl⟩
  | rx b =>
    obtain ⟨hack, hno⟩ := hok
    obtain ⟨k, hf⟩ := tcpEventRx_fastTx (h.ready.load b) hack hno
    have hinv : TxInv g isn W R (A + k) { s with fast := (tcpEventRx (s.load b)).1 } :=
      h.event ⟨hf.owns, hf.move, hf.rx, hf.app, hf.mine, hf.ring⟩
    -- what left the ring was in it
    have hk : k < 4294967296 := by
      have hbytes := hf.move.bytes
      have hfit := h.ready.tx.fit
      have hlen := h.ready.tx.len
      have hpend : (sockOf (s.load b) g.sid).txPending = (sockOf s.fast g.sid).txPending := rfl
      have havail : (sockOf (s.load b) g.sid).txAvail = (sockOf s.fast g.sid).txAvail := rfl
      rw [hpend, havail] at hbytes
      omega
    refine ⟨R, k, hk, ?_, ?_⟩
    · show TxInv g isn (W ++ []) R (A + k) _
      rw [List.append_nil]
      exact hinv
    · have hbefore := h.seq
      have hafter : (sockOf (tcpEventRx (s.load b)).1 g.sid).txSeq = serial isn (A + k) := hinv.seq
      have hdist : (serial isn (A + k) - serial isn A).toNat = k := serial_sub hk
      rw [← hbefore, ← hafter] at hdist
      rcases rx_txSeq s b g.sid with hseq | hseq
      · left
        rw [hseq, UInt32.sub_self] at hdist
        exact hdist.symm
      · right
        refine ⟨b, rfl, ?_⟩
        rw [← hdist, hseq, UInt32.add_comm, UInt32.add_sub_cancel]

theorem TxConn.step_acked {s : TxConn} {a : Act} {R' k : Nat} {W' : List UInt8}
    (h : TxInv g isn W R s.acked s.conn) (hk : k < 4294967296)
    (h' : TxInv g isn W' R' (s.acked + k) (s.conn.step g a).1) :
    (s.step g a).1.acked = s.acked + k := by
  show s.acked + ((sockOf (s.conn.step g a).1.fast g.sid).txSeq -
    (sockOf s.conn.fast g.sid).txSeq).toNat = _
  rw [h'.seq, h.seq, serial_sub hk]

/-- An acknowledgement of the position `pos`, not too old, frees bytes up to
there at most. -/
theorem TxInv.ackBump_le {s : Conn} (h : TxInv g isn W R A s) {p : Nat → UInt8} {pos : Nat}
    (hack : tcpAckno p = serial isn pos) (hold : A < pos + 2147483648) :
    rxGetAckBump p (sockOf s.fast g.sid) = 0 ∨
      A + (rxGetAckBump p (sockOf s.fast g.sid)).toNat ≤ pos := by
  have hfit := h.ready.tx.fit
  have hlen := h.ready.tx.len
  have hle := rxGetAckBump_le p (s := sockOf s.fast g.sid) (by omega)
  have hno : ((tcpAckno p).toNat : Int) = ((isn.toNat : Int) + (pos : Int)) % 4294967296 := by
    rw [hack, serial_toNat]
    omega
  have hdist : ((tcpAckno p - serial isn A).toNat : Int) = ((pos : Int) - A) % 4294967296 :=
    (serial_distance hno).1
  unfold rxGetAckBump at hle ⊢
  dsimp only at hle ⊢
  split
  · next hv =>
    rw [if_pos hv, h.seq] at hle
    rw [h.seq]
    right
    omega
  · exact .inl rfl

end sender

/-! ## The receiver -/

section receiver

variable {g : ConnId} {S S' : Nat → UInt8} {irs : UInt32} {N D C : Nat}

/-- Of the stream only what lies in the ring counts. -/
theorem RxInv.congr {s : Conn} (h : RxInv g S irs N D C s)
    (hS : ∀ o, C ≤ o → o < N → S' o = S o) : RxInv g S' irs N D C s :=
  { h with holds := fun o hlo hhi => (h.holds o hlo hhi).trans (hS o hlo hhi).symm }

theorem RxInv.read_le {s : Conn} (h : RxInv g S irs N D C s) : C ≤ D ∧ D ≤ N := by
  have hlib := h.libAvail
  have hfreed := h.freed
  omega

/-- **Nothing is accepted that was not written**: where every continuation of
the first `m` bytes is as good a stream, the receiver holds no more. -/
theorem RxInv.within {s : Conn} {m : Nat} (hm : D ≤ m)
    (h : ∀ S', (∀ o, o < m → S' o = S o) → ∃ C, RxInv g S' irs N D C s) : N ≤ m := by
  by_contra hlt
  -- two continuations that differ in the next byte
  obtain ⟨C₁, h₁⟩ := h (fun o => if o = m then 0 else S o)
    (fun o ho => if_neg (Nat.ne_of_lt ho))
  obtain ⟨C₂, h₂⟩ := h (fun o => if o = m then 1 else S o)
    (fun o ho => if_neg (Nat.ne_of_lt ho))
  have hc₁ := h₁.read_le.1
  have hc₂ := h₂.read_le.1
  have hb₁ := h₁.holds m (by omega) (by omega)
  have hb₂ := h₂.holds m (by omega) (by omega)
  rw [hb₁, if_pos rfl, if_pos rfl] at hb₂
  exact absurd hb₂ (by decide)

/-- Nor is it returned to the application. -/
theorem read_within {out : List UInt8} {m n : Nat} (hm : D ≤ m)
    (h : ∀ S' : Nat → UInt8, (∀ o, o < m → S' o = S o) →
      out = (List.range n).map (fun i => S' (D + i))) :
    D + n ≤ m := by
  by_contra hlt
  have hbyte : ∀ x : UInt8, out[m - D]? = some x := by
    intro x
    rw [h (fun o => if o = m then x else S o) (fun o ho => if_neg (Nat.ne_of_lt ho)),
      List.getElem?_map, List.getElem?_range (by omega)]
    show some (if D + (m - D) = m then x else S (D + (m - D))) = some x
    rw [if_pos (by omega)]
  have h01 := (hbyte 0).symm.trans (hbyte 1)
  exact absurd (Option.some.inj h01) (by decide)

end receiver

/-! ## The network -/

/-- A packet that was sent. `pos` is where in the stream it belongs: the
offset of its first byte, or, on the way back, the bytes it acknowledges. -/
structure Packet where
  len : Nat
  bytes : Nat → UInt8
  pos : Nat

/-- `b` holds the packet as the network delivers it: all its bytes, up to
those that are rewritten on the way. -/
structure Packet.Carries (p : Packet) (b : Buf) : Prop where
  bytes : ∀ i, i < p.len → ¬ Rewritten i → b.pkt i = p.bytes i
  room : p.len ≤ fastEbpfPktRoom b.virtGre

/-- The receiver is less than half the sequence space past the packet. -/
def Packet.Fresh (p : Packet) (now : Nat) : Prop := now < p.pos + 2147483648

/-- The packets one step of a sender sends. -/
def TxConn.packets (g : ConnId) (s : TxConn) (a : Act) : List Packet :=
  match s.conn.sends g a with
  | none => []
  | some n =>
    let s' := (s.step g a).1
    [{ len := n, bytes := s'.conn.fast.pkt
       pos := s'.acked + (sockOf s'.conn.fast g.sid).txPending.toNat - (n - 52) }]

/-- The packets one step of a receiver sends. -/
def RxConn.packets (g : ConnId) (s : RxConn) (a : Act) : List Packet :=
  match s.conn.sends g a with
  | none => []
  | some n =>
    let s' := (s.step g a).1
    [{ len := n, bytes := s'.conn.fast.pkt, pos := s'.pos }]

/-- Both sides, what was written and read so far, and every packet sent so
far in either direction. -/
structure Link where
  tx : TxConn
  rx : RxConn
  written : List UInt8
  received : List UInt8
  toRx : List Packet
  toTx : List Packet

inductive LinkAct
  | tx (a : Act)
  | rx (a : Act)

def linkStep (gt gr : ConnId) (l : Link) : LinkAct → Link × Unit
  | .tx a =>
    let res := l.tx.step gt a
    ({ l with
        tx := res.1
        written := l.written ++ res.2.written
        toRx := l.toRx ++ l.tx.packets gt a }, ())
  | .rx a =>
    let res := l.rx.step gr a
    ({ l with
        rx := res.1
        received := l.received ++ res.2.received
        toTx := l.toTx ++ l.rx.packets gr a }, ())

/-- The steps of a link: the one side only writes, the other only reads, what
a read settles on is a positive `int`; a segment is one the other side sent,
any of them, but no older than half the sequence space; and its bumps find a
free slot. -/
def LinkOk (gr : ConnId) (l : Link) : LinkAct → Prop
  | .tx (.recvfrom _ _) => False
  | .tx (.rx b) =>
    (∃ p ∈ l.toTx, p.Carries b ∧ p.Fresh l.tx.acked) ∧ NoBumpFail l.tx.conn (.rx b)
  | .tx _ => True
  | .rx (.sendto _ _) => False
  | .rx (.rx b) =>
    (∃ p ∈ l.toRx, p.Carries b ∧ p.Fresh l.rx.pos) ∧ NoBumpFail l.rx.conn (.rx b)
  | .rx a => RecvFits gr l.rx a

/-! ## Packets in flight -/

/-- A segment with bytes of the stream `W`. -/
structure Packet.IsData (isn : UInt32) (W : List UInt8) (p : Packet) : Prop where
  built : ∃ s, HdrOf p.bytes s p.len ∧
    s.txSeq + s.txPending = serial isn (p.pos + (p.len - 52))
  min : 52 ≤ p.len
  payload : ∀ i, 52 + i < p.len → W[p.pos + i]? = some (p.bytes (52 + i))

/-- An acknowledgement. -/
structure Packet.IsAck (isn : UInt32) (p : Packet) : Prop where
  built : ∃ s, HdrOf p.bytes s p.len ∧ s.rxSeq = serial isn p.pos
  min : 52 ≤ p.len

section packets

variable {isn : UInt32} {W : List UInt8} {p : Packet}

theorem Packet.IsData.append (h : p.IsData isn W) (w : List UInt8) : p.IsData isn (W ++ w) := by
  refine ⟨h.built, h.min, fun i hi => ?_⟩
  have hp := h.payload i hi
  have hlt : p.pos + i < W.length := (List.getElem?_eq_some_iff.mp hp).1
  rw [List.getElem?_append_left hlt]
  exact hp

/-- The sequence number is that of the first byte. -/
theorem Packet.IsData.seqno (h : p.IsData isn W) {b : Buf} (hb : p.Carries b) :
    tcpSeqno b.pkt = serial isn p.pos := by
  obtain ⟨s, hhdr, hend⟩ := h.built
  have hseq := (hhdr.carried (fun i hi => hb.bytes i (Nat.lt_of_lt_of_le hi h.min))).seqno
  rw [hend] at hseq
  apply UInt32.toNat_inj.mp
  have hnat := congrArg UInt32.toNat hseq
  rw [UInt32.toNat_add, UInt32.toNat_ofNat', serial_toNat] at hnat
  rw [serial_toNat]
  have := (tcpSeqno b.pkt).toNat_lt
  omega

/-- **A segment that arrives** is a segment of the stream, whatever the
stream goes on with. -/
theorem Packet.IsData.peer (h : p.IsData isn W) {b : Buf} (hb : p.Carries b) {pos : Nat}
    (hfresh : p.Fresh pos) (hahead : p.pos ≤ pos + 2147483648) {S : Nat → UInt8}
    (hS : ∀ o, o < W.length → S o = W.getD o 0) : PeerSegment S isn pos b := by
  obtain ⟨s, hhdr, -⟩ := h.built
  have hdr := hhdr.carried (fun i hi => hb.bytes i (Nat.lt_of_lt_of_le hi h.min))
  have hmin := h.min
  refine ⟨hdr.plain, hdr.ihl, by rw [hdr.offset]; omega, ?_, ?_, p.pos, ?_, ?_, by omega, ?_⟩
  · rw [hdr.offset, hdr.len]
    exact hmin
  · rw [hdr.len]
    exact hb.room
  · rw [h.seqno hb, serial_toNat]
    omega
  · unfold Packet.Fresh at hfresh
    omega
  · intro i o hi ho
    rw [hdr.offset, hdr.len] at hi
    rw [hdr.offset]
    obtain rfl : o = p.pos + i := by omega
    have hpay := h.payload i hi
    obtain ⟨hlt, hbyte⟩ := List.getElem?_eq_some_iff.mp hpay
    rw [hS _ hlt, List.getD_eq_getElem?_getD, hpay]
    exact hb.bytes _ hi (by unfold Rewritten; omega)

end packets

/-! ## What each side puts on the network -/

section sending

variable {g : ConnId} {isn : UInt32} {W : List UInt8} {R A : Nat}

/-- The sender is at most a ring ahead of what it knows to be acknowledged. -/
theorem TxInv.ahead {s : Conn} (h : TxInv g isn W R A s) :
    A + (sockOf s.fast g.sid).txPending.toNat ≤ W.length ∧ W.length ≤ A + g.txLen.toNat ∧
    g.txLen.toNat ≤ 2147483648 := by
  have hrest := h.rest
  have hring := h.ring
  have hfit := h.fit
  have hacked := h.acked
  have hlen := h.ready.tx.len
  rw [h.ready.owns.txLen] at hlen
  omega

/-- The bytes of a segment are those at its offsets: its sequence number says
which they are up to 2³², and the ring which of these. -/
theorem TxInv.segmentBytes {s : Conn} (h : TxInv g isn W R A s) {buf : Buf} {n pos : Nat}
    (hs : s.sends g (.sched buf) = some n)
    (hseq : tcpSeqno (s.step g (.sched buf)).1.fast.pkt = serial isn pos) (hlo : A ≤ pos)
    (hhi : pos + (n - 52) ≤ W.length) {i : Nat} (hi : 52 + i < n) :
    W[pos + i]? = some ((s.step g (.sched buf)).1.fast.pkt (52 + i)) := by
  unfold Conn.sends at hs
  dsimp only at hs
  by_cases htgt : schedTarget s.fast = some g.sid
  · rw [if_pos htgt] at hs
    obtain ⟨hok, -⟩ := sentLen_some hs
    have hfaith : Faithful g isn W (.segment (schedTarget s.fast) (tcpEventSched (s.load buf)).2
      (tcpEventSched (s.load buf)).1.pkt) := h.faithful buf
    rw [hok] at hfaith
    obtain ⟨o, ho, hbyte, hring⟩ := hfaith htgt i hi
    obtain ⟨hlt, -⟩ := List.getElem?_eq_some_iff.mp hbyte
    obtain ⟨-, hahead, hlen⟩ := h.ahead
    have hseq' : tcpSeqno (tcpEventSched (s.load buf)).1.pkt = serial isn pos := hseq
    rw [hseq', UInt32.toNat_sub, UInt32.toNat_add, serial_toNat, UInt32.toNat_ofNat'] at ho
    have hisn := isn.toNat_lt
    obtain rfl : o = pos + i := by omega
    exact hbyte
  · rw [if_neg htgt] at hs
    cases hs

/-- **What the sender sends** is data of the stream, at most 2³¹ bytes past
what is acknowledged. -/
theorem TxInv.packets {s : TxConn} {a : Act} {R' k : Nat}
    (h : TxInv g isn W R s.acked s.conn) (hk : k < 4294967296)
    (h' : TxInv g isn (W ++ (s.conn.step g a).2.written) R' (s.acked + k) (s.conn.step g a).1)
    (hquiet : ∀ buf, a = .sched buf → k = 0) :
    ∀ p ∈ s.packets g a, p.IsData isn (W ++ (s.conn.step g a).2.written) ∧
      p.pos ≤ s.acked + k + 2147483648 := by
  intro p hp
  unfold TxConn.packets at hp
  cases hs : s.conn.sends g a with
  | none =>
    rw [hs] at hp
    cases hp
  | some n =>
    rw [hs] at hp
    obtain rfl := List.mem_singleton.mp hp
    obtain ⟨hhdr, hcase⟩ := Conn.sends_hdr hs
    obtain ⟨hend, hahead, hlen⟩ := h'.ahead
    have hacked := TxConn.step_acked h hk h'
    have hconn : (s.step g a).1.conn = (s.conn.step g a).1 := rfl
    dsimp only
    rw [hacked, hconn]
    -- the payload is counted as pending
    have hpay : 52 ≤ n ∧
        n - 52 ≤ (sockOf (s.conn.step g a).1.fast g.sid).txPending.toNat := by
      rcases hcase with rfl | ⟨buf, b, -, rfl, hb, hbare⟩
      · exact ⟨Nat.le_refl 52, Nat.zero_le _⟩
      · have hpend : (sockOf (s.conn.step g a).1.fast g.sid).txPending =
            (sockOf s.conn.fast g.sid).txPending + b := (congrArg TcpSock.txPending hbare :)
        have hfit := h.ready.tx.fit
        have hbound := h.ready.tx.len
        rw [hpend, toNat_add_of_lt (by omega)]
        omega
    generalize hpos : s.acked + k +
      (sockOf (s.conn.step g a).1.fast g.sid).txPending.toNat - (n - 52) = pos
    have hbuilt : (sockOf (s.conn.step g a).1.fast g.sid).txSeq +
        (sockOf (s.conn.step g a).1.fast g.sid).txPending = serial isn (pos + (n - 52)) := by
      rw [h'.seq, serial_add]
      congr 1
      omega
    refine ⟨⟨⟨_, hhdr, hbuilt⟩, hpay.1, ?_⟩, by omega⟩
    intro i (hi : 52 + i < n)
    rcases hcase with rfl | ⟨buf, b, rfl, rfl, hb, hbare⟩
    · omega
    · obtain rfl := hquiet buf rfl
      have hseq : tcpSeqno (s.conn.step g (.sched buf)).1.fast.pkt = serial isn pos := by
        have hno := hhdr.seqno
        rw [hbuilt] at hno
        have hnat := congrArg UInt32.toNat hno
        rw [UInt32.toNat_add, UInt32.toNat_ofNat', serial_toNat] at hnat
        have := (tcpSeqno (s.conn.step g (.sched buf)).1.fast.pkt).toNat_lt
        apply UInt32.toNat_inj.mp
        rw [serial_toNat]
        omega
      have hW : W ++ (s.conn.step g (.sched buf)).2.written = W := List.append_nil W
      rw [hW] at hahead hend ⊢
      exact h.segmentBytes hs hseq (by omega) (by omega) hi

/-- **What the receiver sends** acknowledges what it accepted. -/
theorem RxInv.packets {S : Nat → UInt8} {D C : Nat} {s : RxConn} {a : Act}
    (h' : RxInv g S isn (s.step g a).1.pos D C (s.step g a).1.conn) :
    ∀ p ∈ s.packets g a, p.IsAck isn ∧ p.pos = (s.step g a).1.pos := by
  intro p hp
  unfold RxConn.packets at hp
  cases hs : s.conn.sends g a with
  | none =>
    rw [hs] at hp
    cases hp
  | some n =>
    rw [hs] at hp
    obtain rfl := List.mem_singleton.mp hp
    obtain ⟨hhdr, hcase⟩ := Conn.sends_hdr hs
    refine ⟨⟨⟨_, hhdr, h'.seq⟩, ?_⟩, rfl⟩
    show 52 ≤ n
    rcases hcase with rfl | ⟨-, b, -, rfl, -⟩
    · exact Nat.le_refl 52
    · exact Nat.le_add_right 52 _

end sending

/-! ## The invariant of a link -/

structure LinkInv (gt gr : ConnId) (isn : UInt32) (l : Link) : Prop where
  tx : ∃ R, TxInv gt isn l.written R l.tx.acked l.tx.conn
  rx : ∃ C, RxInv gr (fun o => l.written.getD o 0) isn l.rx.pos l.received.length C l.rx.conn
  inOrder : l.received = l.written.take l.received.length
  within : l.rx.pos ≤ l.written.length
  acked : l.tx.acked ≤ l.rx.pos
  data : ∀ p ∈ l.toRx, p.IsData isn l.written ∧ p.pos ≤ l.rx.pos + 2147483648
  acks : ∀ p ∈ l.toTx, p.IsAck isn ∧ p.pos ≤ l.rx.pos

section link

variable {gt gr : ConnId} {isn : UInt32} {l : Link} {a : Act}

/-- **One step of the sender's side.** -/
theorem LinkInv.txStep (h : LinkInv gt gr isn l) (hok : LinkOk gr l (.tx a)) :
    LinkInv gt gr isn (linkStep gt gr l (.tx a)).1 := by
  obtain ⟨R, htx⟩ := h.tx
  obtain ⟨C, hrx⟩ := h.rx
  -- every acknowledgement carries the flag, and acknowledges what was accepted
  have hseg : ∀ b, a = .rx b → rxIsAck b.pkt = true ∧
      ∃ pos, pos ≤ l.rx.pos ∧ l.tx.acked < pos + 2147483648 ∧ tcpAckno b.pkt = serial isn pos := by
    rintro b rfl
    obtain ⟨⟨p, hp, hb, hfresh⟩, -⟩ := hok
    obtain ⟨hp, hpos⟩ := h.acks p hp
    obtain ⟨s, hhdr, hseq⟩ := hp.built
    have hdr := hhdr.carried (fun i hi => hb.bytes i (Nat.lt_of_lt_of_le hi hp.min))
    exact ⟨hdr.ack, p.pos, hpos, hfresh, hdr.ackno.trans hseq⟩
  have htxok : TxOk l.tx.conn a := by
    cases a with
    | rx b => exact ⟨(hseg b rfl).1, hok.2⟩
    | recvfrom len addrOk => exact hok
    | _ => exact trivial
  obtain ⟨R', k, hk, htx', hcase⟩ := htx.next htxok
  have hacked := TxConn.step_acked htx hk htx'
  have hle : l.tx.acked + k ≤ l.rx.pos := by
    rcases hcase with rfl | ⟨b, hb, rfl⟩
    · exact h.acked
    · obtain ⟨-, pos, hpos, hfresh, hno⟩ := hseg b hb
      rcases htx.ackBump_le hno hfresh with hz | hle
      · rw [hz]
        exact h.acked
      · omega
  have hquiet : ∀ buf, a = .sched buf → k = 0 := by
    rintro buf rfl
    rcases hcase with hz | ⟨b, hb, -⟩
    · exact hz
    · cases hb
  have hpackets := htx.packets hk htx' hquiet
  refine ⟨⟨R', ?_⟩, ⟨C, ?_⟩, ?_, ?_, ?_, ?_, h.acks⟩
  · show TxInv gt isn _ R' (l.tx.step gt a).1.acked _
    rw [hacked]
    exact htx'
  · -- what was written before stays where it is
    refine hrx.congr (fun o _ ho => ?_)
    have hlt : o < l.written.length := Nat.lt_of_lt_of_le ho h.within
    show (l.written ++ _).getD o 0 = l.written.getD o 0
    rw [List.getD_eq_getElem?_getD, List.getD_eq_getElem?_getD, List.getElem?_append_left hlt]
  · have hlen : l.received.length ≤ l.written.length :=
      Nat.le_trans hrx.read_le.2 h.within
    show l.received = (l.written ++ _).take l.received.length
    rw [List.take_append_of_le_length hlen]
    exact h.inOrder
  · show l.rx.pos ≤ (l.written ++ _).length
    rw [List.length_append]
    exact Nat.le_trans h.within (Nat.le_add_right _ _)
  · show (l.tx.step gt a).1.acked ≤ l.rx.pos
    rw [hacked]
    exact hle
  · intro p hp
    rcases List.mem_append.mp hp with hp | hp
    · obtain ⟨hdata, hpos⟩ := h.data p hp
      exact ⟨hdata.append _, hpos⟩
    · obtain ⟨hdata, hpos⟩ := hpackets p hp
      exact ⟨hdata, Nat.le_trans hpos (Nat.add_le_add_right hle _)⟩

/-- **One step of the receiver's side.** -/
theorem LinkInv.rxStep (h : LinkInv gt gr isn l) (hok : LinkOk gr l (.rx a)) :
    LinkInv gt gr isn (linkStep gt gr l (.rx a)).1 := by
  obtain ⟨C, hrx⟩ := h.rx
  obtain ⟨hcd, hdn⟩ := hrx.read_le
  -- the step on any stream that begins with what was written
  have hstep : ∀ S', (∀ o, o < l.written.length → S' o = l.written.getD o 0) →
      ∃ n C', (l.rx.step gr a).2.received =
          (List.range n).map (fun i => S' (l.received.length + i)) ∧
        RxInv gr S' isn (l.rx.step gr a).1.pos (l.received.length + n) C'
          (l.rx.step gr a).1.conn := by
    intro S' hS
    have hcongr : RxInv gr S' isn l.rx.pos l.received.length C l.rx.conn :=
      hrx.congr (fun o _ ho => hS o (Nat.lt_of_lt_of_le ho h.within))
    have hrxok : RxOk S' isn l.rx a ∧ RecvFits gr l.rx a := by
      cases a with
      | rx b =>
        obtain ⟨⟨p, hp, hb, hfresh⟩, hno⟩ := hok
        obtain ⟨hdata, hahead⟩ := h.data p hp
        exact ⟨⟨hdata.peer hb hfresh hahead hS, hno⟩, trivial⟩
      | sendto buf addr => exact absurd hok id
      | recvfrom len addrOk => exact ⟨trivial, hok⟩
      | _ => exact ⟨trivial, trivial⟩
    exact (Tcp.rxStep hcongr hrxok.1 hrxok.2).2
  generalize hout : (l.rx.step gr a).2.received = out at hstep
  have hread : ∀ S', (∀ o, o < l.written.length → S' o = l.written.getD o 0) →
      out = (List.range out.length).map (fun i => S' (l.received.length + i)) ∧
      ∃ C', RxInv gr S' isn (l.rx.step gr a).1.pos (l.received.length + out.length) C'
        (l.rx.step gr a).1.conn := by
    intro S' hS
    obtain ⟨n, C', hbytes, hinv⟩ := hstep S' hS
    have hn : out.length = n := by rw [hbytes, List.length_map, List.length_range]
    rw [hn]
    exact ⟨hbytes, C', hinv⟩
  have hlen : l.received.length + out.length ≤ l.written.length :=
    read_within (Nat.le_trans hdn h.within) (fun S' hS => (hread S' hS).1)
  have hwithin : (l.rx.step gr a).1.pos ≤ l.written.length :=
    RxInv.within hlen (fun S' hS => (hread S' hS).2)
  obtain ⟨hbytes, C', hrx'⟩ := hread (fun o => l.written.getD o 0) (fun _ _ => rfl)
  have hgrow : l.rx.pos ≤ (l.rx.step gr a).1.pos := Nat.le_add_right _ _
  have hreceived : (linkStep gt gr l (.rx a)).1.received = l.received ++ out := by
    show l.received ++ _ = _
    rw [hout]
  refine ⟨h.tx, ⟨C', ?_⟩, ?_, hwithin, Nat.le_trans h.acked hgrow, ?_, ?_⟩
  · rw [hreceived, List.length_append]
    exact hrx'
  · show _ = l.written.take _
    rw [hreceived, List.length_append, List.take_add, ← h.inOrder]
    congr 1
    -- the bytes of the step are those at the offsets it names
    refine hbytes.trans (List.ext_getElem ?_ (fun i h₁ h₂ => ?_))
    · rw [List.length_map, List.length_range, List.length_take, List.length_drop]
      omega
    · rw [List.length_map, List.length_range] at h₁
      rw [List.getElem_map, List.getElem_range, List.getElem_take, List.getElem_drop]
      exact (List.getElem_eq_getD 0).symm
  · intro p hp
    obtain ⟨hdata, hpos⟩ := h.data p hp
    exact ⟨hdata, Nat.le_trans hpos (Nat.add_le_add_right hgrow _)⟩
  · intro p hp
    rcases List.mem_append.mp hp with hp | hp
    · obtain ⟨hack, hpos⟩ := h.acks p hp
      exact ⟨hack, Nat.le_trans hpos hgrow⟩
    · obtain ⟨hack, hpos⟩ := RxInv.packets hrx' p hp
      exact ⟨hack, Nat.le_of_eq hpos⟩

end link

/-! ## Every run -/

/-- Where each byte is that the application wrote: the bytes up to the length
of `received` were read, those up to `rx.pos` are in the receiver's ring, and
the rest still is in the sender's. -/
structure EndToEnd (gt gr : ConnId) (l : Link) : Prop where
  delivered : l.received <+: l.written
  accepted : l.received.length ≤ l.rx.pos ∧ l.rx.pos ≤ l.written.length
  acked : l.tx.acked ≤ l.rx.pos
  stored : Holds l.rx.conn.fast.shm gr.rxOff.toNat gr.rxLen.toNat l.received.length l.rx.pos
    (fun o => l.written.getD o 0)
  kept : Holds l.tx.conn.fast.shm gt.txOff.toNat gt.txLen.toNat l.rx.pos l.written.length
    (fun o => l.written.getD o 0)
  released : l.written.length ≤ l.rx.pos + (libSock gt l.tx.conn.lib).txAvail.toNat

theorem LinkInv.endToEnd {gt gr : ConnId} {isn : UInt32} {l : Link} (h : LinkInv gt gr isn l) :
    EndToEnd gt gr l := by
  obtain ⟨R, htx⟩ := h.tx
  obtain ⟨C, hrx⟩ := h.rx
  obtain ⟨hcd, hdn⟩ := hrx.read_le
  have hring := htx.ring
  have hacked := htx.acked
  have hle := h.acked
  refine ⟨?_, ⟨hdn, h.within⟩, hle, hrx.holds.shrink hcd (Nat.le_refl _),
    htx.holds.shrink (by omega) (Nat.le_refl _), by omega⟩
  rw [h.inOrder]
  exact List.take_prefix _ _

/-- A link just established: both sides agree on where the stream starts. -/
structure LinkInit (gt gr : ConnId) (l : Link) : Prop where
  tx : TxInit gt l.tx.conn
  rx : RxInit gr l.rx.conn
  agree : (sockOf l.rx.conn.fast gr.sid).rxSeq = (sockOf l.tx.conn.fast gt.sid).txSeq
  start : l.tx.acked = 0 ∧ l.rx.pos = 0
  empty : l.written = [] ∧ l.received = [] ∧ l.toRx = [] ∧ l.toTx = []

theorem LinkInit.inv {gt gr : ConnId} {l : Link} (h : LinkInit gt gr l) :
    LinkInv gt gr (sockOf l.tx.conn.fast gt.sid).txSeq l := by
  obtain ⟨hacked, hpos⟩ := h.start
  obtain ⟨hwritten, hreceived, htoRx, htoTx⟩ := h.empty
  have hrx := h.rx.inv (fun o => l.written.getD o 0)
  rw [h.agree] at hrx
  refine ⟨⟨0, ?_⟩, ⟨0, ?_⟩, ?_, ?_, ?_, ?_, ?_⟩
  · rw [hwritten, hacked]
    exact h.tx.inv
  · rw [hpos, hreceived]
    exact hrx
  · rw [hreceived]
    rfl
  · rw [hpos]
    exact Nat.zero_le _
  · rw [hacked]
    exact Nat.zero_le _
  · rw [htoRx]
    exact fun p hp => absurd hp List.not_mem_nil
  · rw [htoTx]
    exact fun p hp => absurd hp List.not_mem_nil

/-- **A stream arrives as it was written.** In every run of two connections
and a network that loses, repeats, delays and reorders their packets, the
bytes read are a prefix of the bytes written; a byte that is not read yet is
in the receiver's ring or in the sender's; and no byte the receiver has not
accepted is acknowledged, or given back to the application that wrote it. -/
theorem stream_end_to_end {gt gr : ConnId} {l₀ l : Link} {log : List Unit}
    (h₀ : LinkInit gt gr l₀) (hrun : Run (LinkOk gr) (linkStep gt gr) l₀ log l) :
    EndToEnd gt gr l := by
  have hinv : LinkInv gt gr (sockOf l₀.tx.conn.fast gt.sid).txSeq l := by
    refine hrun.inv (I := fun _ l => LinkInv gt gr (sockOf l₀.tx.conn.fast gt.sid).txSeq l)
      h₀.inv ?_
    intro _ l a h hok
    cases a with
    | tx a => exact h.txStep hok
    | rx a => exact h.rxStep hok
  exact hinv.endToEnd

/-- The other side of `freshConn`: it expects the bytes that one sends. -/
def freshPeer (len : UInt32) : Conn :=
  { freshConn len with
    fast := setSock (freshConn len).fast 0
      { sockOf (freshConn len).fast 0 with
          localIp := 1, localPort := 80, rxSeq := 1000, txSeq := 0 } }

theorem freshPeer_rxInit {len : UInt32} (hpos : 0 < len.toNat) (hle : len.toNat ≤ 2147483648) :
    RxInit (freshConnId len) (freshPeer len) :=
  ⟨hpos, hle, (freshConn_fast len).set rfl, freshConn_lib len, rfl, rfl, rfl, ⟨rfl, rfl⟩,
    ⟨rfl, rfl⟩, rfl, rfl, rfl⟩

def freshLink : Link :=
  { tx := { conn := freshConn 64, acked := 0 }, rx := { conn := freshPeer 64, pos := 0 }
    written := [], received := [], toRx := [], toTx := [] }

theorem freshLink_init : LinkInit (freshConnId 64) (freshConnId 64) freshLink :=
  ⟨⟨by decide, by decide, freshConn_fast 64, freshConn_lib 64, rfl, rfl, rfl, ⟨rfl, rfl, rfl⟩,
      ⟨rfl, rfl⟩, ⟨rfl, rfl⟩, ⟨rfl, rfl⟩, rfl, rfl⟩,
    freshPeer_rxInit (by decide) (by decide), rfl, ⟨rfl, rfl⟩, ⟨rfl, rfl, rfl, rfl⟩⟩

/-- The buffer the last packet of a list arrives in. -/
def arriving (ps : List Packet) : Buf :=
  { pkt := ps.getLast?.elim (fun _ => 0) Packet.bytes, virtGre := false }

instance (p : Packet) (now : Nat) : Decidable (p.Fresh now) :=
  inferInstanceAs (Decidable (now < p.pos + 2147483648))

theorem arriving_ok {ps : List Packet} {now : Nat}
    (h : ps.getLast?.any (fun p => decide (p.len ≤ 1500 ∧ p.Fresh now)) = true) :
    ∃ p ∈ ps, p.Carries (arriving ps) ∧ p.Fresh now := by
  obtain ⟨p, hp, hfits⟩ := (Option.any_eq_true _ _).mp h
  obtain ⟨hlen, hfresh⟩ := of_decide_eq_true hfits
  refine ⟨p, List.mem_of_getLast? hp, ⟨fun i _ _ => ?_, hlen⟩, hfresh⟩
  unfold arriving
  rw [hp]
  rfl

/-- Three bytes written, sent and read, and their acknowledgement. -/
def threeBytes : List (Link → LinkAct) :=
  [fun _ => .tx (.sendto [7, 8, 9] none), fun _ => .tx (.deq blankBuf 0),
    fun _ => .tx (.sched blankBuf), fun l => .rx (.rx (arriving l.toRx)), fun _ => .rx .poll,
    fun _ => .rx (.recvfrom 10 true), fun l => .tx (.rx (arriving l.toTx)), fun _ => .tx .poll]

/-- The link after the first `k` of these steps. -/
def threeBytesAt (k : Nat) : Link :=
  (threeBytes.take k).foldl
    (fun l act => (linkStep (freshConnId 64) (freshConnId 64) l (act l)).1) freshLink

theorem stream_end_to_end_three_bytes :
    ∃ log, Run (LinkOk (freshConnId 64)) (linkStep (freshConnId 64) (freshConnId 64)) freshLink
        log (threeBytesAt 8) ∧
      (threeBytesAt 8).received = [7, 8, 9] ∧ (threeBytesAt 8).tx.acked = 3 ∧
      EndToEnd (freshConnId 64) (freshConnId 64) (threeBytesAt 8) := by
  have h₁ : Run (LinkOk (freshConnId 64)) (linkStep (freshConnId 64) (freshConnId 64)) freshLink _
      (threeBytesAt 1) := Run.snoc (a := LinkAct.tx (.sendto [7, 8, 9] none)) Run.nil trivial
  have h₂ : Run _ _ _ _ (threeBytesAt 2) := h₁.snoc (a := LinkAct.tx (.deq blankBuf 0)) trivial
  have h₃ : Run _ _ _ _ (threeBytesAt 3) := h₂.snoc (a := LinkAct.tx (.sched blankBuf)) trivial
  have h₄ : Run _ _ _ _ (threeBytesAt 4) :=
    h₃.snoc (a := LinkAct.rx (.rx (arriving (threeBytesAt 3).toRx)))
      ⟨arriving_ok (by decide +kernel), by unfold NoBumpFail; decide +kernel⟩
  have h₅ : Run _ _ _ _ (threeBytesAt 5) := h₄.snoc (a := LinkAct.rx .poll) trivial
  have h₆ : Run _ _ _ _ (threeBytesAt 6) :=
    h₅.snoc (a := LinkAct.rx (.recvfrom 10 true)) (by unfold LinkOk RecvFits; decide +kernel)
  have h₇ : Run _ _ _ _ (threeBytesAt 7) :=
    h₆.snoc (a := LinkAct.tx (.rx (arriving (threeBytesAt 6).toTx)))
      ⟨arriving_ok (by decide +kernel), by unfold NoBumpFail; decide +kernel⟩
  have hrun : Run _ _ _ _ (threeBytesAt 8) := h₇.snoc (a := LinkAct.tx .poll) trivial
  exact ⟨_, hrun, by decide +kernel, by decide +kernel, stream_end_to_end freshLink_init hrun⟩

end Chamelio.Tcp
