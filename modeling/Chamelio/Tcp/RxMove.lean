import Chamelio.Tcp.TxMove

/-!
# The receive counters on the fast path

An event leaves the receive side of the connection's socket alone, frees
bytes of its ring, or stores one in-order payload there. What a peer may
send is pinned down next to it: a segment whose payload is a piece of one
byte stream, wherever it starts within half the sequence space of the bytes
received so far.
-/

namespace Chamelio.Tcp

open Chamelio.Lib Chamelio.Util Chamelio.Pkt Chamelio.Fast

/-! ## What the receive side sees of an event -/

/-- Nothing on the receive side moves. -/
structure RxSame (g : ConnId) (a b : TcpCtx) : Prop where
  owns : FastOwns g b
  seq : (sockOf b g.sid).rxSeq = (sockOf a g.sid).rxSeq
  avail : (sockOf b g.sid).rxAvail = (sockOf a g.sid).rxAvail
  head : (sockOf b g.sid).rxHead = (sockOf a g.sid).rxHead
  app : (b.equeues g.appBumpQid.toNat).sum appRxAmount =
    (a.equeues g.appBumpQid.toNat).sum appRxAmount
  mine : ∀ e ∈ (b.equeues g.appBumpQid.toNat).items,
    e ∈ (a.equeues g.appBumpQid.toNat).items ∨ AppMine g e
  shm : b.shm = a.shm

theorem RxSame.trans {g : ConnId} {a b c : TcpCtx} (h₁ : RxSame g a b) (h₂ : RxSame g b c) :
    RxSame g a c := by
  refine ⟨h₂.owns, h₂.seq.trans h₁.seq, h₂.avail.trans h₁.avail, h₂.head.trans h₁.head,
    h₂.app.trans h₁.app, ?_, h₂.shm.trans h₁.shm⟩
  intro e he
  rcases h₂.mine e he with he | he
  · exact h₁.mine e he
  · exact Or.inr he

theorem Calm.rxSame {g : ConnId} {a b : TcpCtx} (hc : Calm g a b) (h : FastOwns g a) :
    RxSame g a b := by
  have hb := hc.socks g.sid
  refine ⟨h.calm hc, (congrArg TcpSock.rxSeq hb :), (congrArg TcpSock.rxAvail hb :),
    (congrArg TcpSock.rxHead hb :), ?_, ?_, hc.shm⟩
  · rw [hc.queue]
  · rw [hc.queue]
    exact fun e he => Or.inl he

/-- Editing a socket elsewhere than on its receive side. -/
theorem rxSame_setSock {g : ConnId} {ctx : TcpCtx} {j : Nat} {s : TcpSock} (h : FastOwns g ctx)
    (hid : s.ident = (sockOf ctx j).ident) (hseq : s.rxSeq = (sockOf ctx j).rxSeq)
    (hav : s.rxAvail = (sockOf ctx j).rxAvail) (hhead : s.rxHead = (sockOf ctx j).rxHead) :
    RxSame g ctx (setSock ctx j s) := by
  by_cases hj : g.sid = j
  · subst hj
    refine ⟨h.set hid, ?_, ?_, ?_, rfl, fun e he => Or.inl he, rfl⟩
    · rw [sockOf_setSock, hseq]
    · rw [sockOf_setSock, hav]
    · rw [sockOf_setSock, hhead]
  · refine ⟨h.set hid, ?_, ?_, ?_, rfl, fun e he => Or.inl he, rfl⟩
    · rw [sockOf_setSock_ne _ _ hj]
    · rw [sockOf_setSock_ne _ _ hj]
    · rw [sockOf_setSock_ne _ _ hj]

/-- The acknowledgement stage. -/
theorem rxSame_ack {g : ConnId} {ctx : TcpCtx} {s₁ : TcpSock} {q : Fifo TcpQe}
    (h : FastOwns g ctx)
    (hs : s₁ = ackedSock ctx.pkt (sockOf ctx g.sid) ∨
      (rxIsAck ctx.pkt = true ∧ s₁ = rewoundSock (ackedSock ctx.pkt (sockOf ctx g.sid))))
    (hq : AckQueue ctx g.sid q) : RxSame g ctx (withSockQueue ctx g.sid s₁ q) := by
  have hid := ackedSock_ident ctx.pkt (sockOf ctx g.sid)
  obtain ⟨h₁, h₂, h₃⟩ := ackedSock_rx ctx.pkt (sockOf ctx g.sid)
  have hset : RxSame g ctx (setSock ctx g.sid s₁) := by
    rcases hs with rfl | ⟨-, rfl⟩
    · exact rxSame_setSock h hid h₁ h₂ h₃
    · obtain ⟨r₁, r₂, r₃⟩ := rewoundSock_rx (ackedSock ctx.pkt (sockOf ctx g.sid))
      exact rxSame_setSock h ((rewoundSock_ident _).trans hid) (r₁.trans h₁) (r₂.trans h₂)
        (r₃.trans h₃)
  have hqueue : (withSockQueue ctx g.sid s₁ q).equeues g.appBumpQid.toNat = q := by
    unfold withSockQueue
    rw [h.qid]
    exact EbpfCtx.setQueue_self _ _ _
  refine ⟨hset.owns.setQueue _ q, hset.seq, hset.avail, hset.head, ?_, ?_, rfl⟩
  · rw [hqueue]
    rcases hq with ⟨-, rfl⟩ | ⟨-, hpush⟩
    · rw [h.appQueue]
    · rw [Fifo.push_sum appRxAmount hpush, h.appQueue]
      rfl
  · rw [hqueue]
    exact (ackQueue_sum h hq).2

/-- **A received segment**, on the receive side: nothing moves, or one
in-order payload is stored. -/
theorem tcpEventRx_rx {g : ConnId} {ctx : TcpCtx} (h : FastOwns g ctx)
    (hno : (tcpEventRx ctx).2 ≠ .error .appBump) :
    RxSame g ctx (tcpEventRx ctx).1 ∨
    ∃ ctx₁ b q, RxSame g ctx ctx₁ ∧ ctx₁.pkt = ctx.pkt ∧ 0 < b ∧
      rxGetRxBump (sockOf ctx₁ g.sid) ((rxGetPaylen ctx.pkt).toUInt32 -
        rxGetPayloadOverlap ctx.pkt (sockOf ctx g.sid)) = b ∧
      rxIsOutOfOrder ctx.pkt (sockOf ctx g.sid) = false ∧
      (appQueue ctx₁ g.sid).push (.bumpAppRx (sockOf ctx₁ g.sid).opaquePtr
        (tcpSrc ctx.pkt) (ipSrc ctx.pkt) b) = some q ∧
      RxSame g (delivered ctx₁ g.sid ((rxGetHdrlen ctx.pkt).toNat +
        (rxGetPayloadOverlap ctx.pkt (sockOf ctx g.sid)).toNat) b q) (tcpEventRx ctx).1 := by
  rcases tcpEventRx_conn h hno with hc | ⟨ctx₀, hc₀, hp₀, -, htrace⟩
  · exact Or.inl (hc.rxSame h)
  · have h₀ := hc₀.rxSame h
    obtain ⟨s₁, q, ctx₁, hs₁, hq, hc₁, hp₁, hpay⟩ := htrace
    have hack := rxSame_ack h₀.owns hs₁ hq
    have h₁ := (h₀.trans hack).trans (hc₁.rxSame hack.owns)
    have hover : rxGetPayloadOverlap ctx₀.pkt (sockOf ctx₀ g.sid) =
        rxGetPayloadOverlap ctx.pkt (sockOf ctx g.sid) := by
      unfold rxGetPayloadOverlap
      rw [h₀.seq, hp₀]
    have hord' : rxIsOutOfOrder ctx₀.pkt (sockOf ctx₀ g.sid) =
        rxIsOutOfOrder ctx.pkt (sockOf ctx g.sid) := by
      unfold rxIsOutOfOrder
      rw [h₀.seq, hp₀]
    cases hpay with
    | nothing hc _ => exact Or.inl (h₁.trans (hc.rxSame h₁.owns))
    | @stored b q' hpos hb hord hpush hc =>
      rw [hover, hp₀] at hb hc
      rw [hp₀] at hpush
      rw [hord'] at hord
      refine Or.inr ⟨ctx₁, b, q', h₁, hp₁.trans hp₀, hpos, hb, hord, hpush, ?_⟩
      exact hc.rxSame (h₁.owns.delivered _ _ _)

/-- `c` bytes are freed. -/
structure RxFreed (g : ConnId) (a b : TcpCtx) (c : Nat) : Prop where
  owns : FastOwns g b
  seq : (sockOf b g.sid).rxSeq = (sockOf a g.sid).rxSeq
  avail : (sockOf b g.sid).rxAvail.toNat + c = (sockOf a g.sid).rxAvail.toNat
  head : (sockOf b g.sid).rxHead.toNat = ((sockOf a g.sid).rxHead.toNat + c) % g.rxLen.toNat
  queue : b.equeues g.appBumpQid.toNat = a.equeues g.appBumpQid.toNat
  shm : b.shm = a.shm

/-- **A bump from the application** is refused and stays queued, or the
bytes it frees leave the ring. -/
theorem tcpEventDeq_rx {g : ConnId} {ctx : TcpCtx} (h : FastOwns g ctx)
    (hrx : RxRoom (sockOf ctx g.sid)) (hpos : 0 < g.rxLen.toNat) (hmine : OutMine g ctx.qe)
    (hroom : 1472 ≤ ctx.pktRoom)
    (hle : chamRxAmount ctx.qe ≤ (sockOf ctx g.sid).rxAvail.toNat) :
    ((∃ err, (tcpEventDeq ctx).2 = .error err) ∧ RxSame g ctx (tcpEventDeq ctx).1) ∨
    ((∃ n, (tcpEventDeq ctx).2 = .ok n) ∧
      RxFreed g ctx (tcpEventDeq ctx).1 (chamRxAmount ctx.qe)) := by
  have hself : RxSame g ctx ctx := (Calm.refl g ctx).rxSame h
  have hlen := h.rxLen
  have hhead := hrx.head (by rw [hlen]; exact hpos)
  unfold tcpEventDeq
  split
  · exact Or.inl ⟨⟨_, rfl⟩, hself⟩
  · rcases hmine with ⟨p, i, a, he⟩ | ⟨a, he⟩
    · rw [he]
      dsimp only
      rcases deqHandleBumpTx_conn h p i a with ⟨err, heq⟩ | ⟨hret, hc⟩
      · rw [heq]
        exact Or.inl ⟨⟨err, rfl⟩, hself⟩
      · right
        have hb := hc.socks g.sid
        rw [sockOf_setSock] at hb
        have hav : (sockOf (deqHandleBumpTx ctx g.sockId p i a).1 g.sid).rxAvail =
          (sockOf ctx g.sid).rxAvail := (congrArg TcpSock.rxAvail hb :)
        have hhd : (sockOf (deqHandleBumpTx ctx g.sockId p i a).1 g.sid).rxHead =
          (sockOf ctx g.sid).rxHead := (congrArg TcpSock.rxHead hb :)
        have hown : FastOwns g (setSock ctx g.sid (deqSockBumpTx (sockOf ctx g.sid) p i a)) :=
          h.set rfl
        refine ⟨⟨0, hret⟩, hown.calm hc, (congrArg TcpSock.rxSeq hb :), ?_, ?_, hc.queue, hc.shm⟩
        · rw [hav]
          rfl
        · show _ = (_ + 0) % _
          rw [hhd, ← hlen, Nat.add_zero, Nat.mod_eq_of_lt hhead]
    · rw [he] at hle ⊢
      dsimp only
      rcases deqHandleBumpRx_conn h hroom a with ⟨err, heq⟩ | ⟨hret, hc⟩
      · rw [heq]
        exact Or.inl ⟨⟨err, rfl⟩, hself⟩
      · right
        have hle' : a.toNat ≤ (sockOf ctx g.sid).rxAvail.toNat := hle
        have hb := hc.socks g.sid
        rw [sockOf_setSock] at hb
        have hav : (sockOf (deqHandleBumpRx ctx g.sockId a).1 g.sid).rxAvail =
          (sockOf ctx g.sid).rxAvail - a := (congrArg TcpSock.rxAvail hb :)
        have hhd : (sockOf (deqHandleBumpRx ctx g.sockId a).1 g.sid).rxHead =
            wrapAdd (sockOf ctx g.sid).rxHead a (sockOf ctx g.sid).rxLen :=
          (congrArg TcpSock.rxHead hb :)
        have hown : FastOwns g (setSock ctx g.sid (deqSockBumpRx (sockOf ctx g.sid) a)) :=
          h.set rfl
        have hall := hrx.avail
        have hover := hrx.noWrap
        refine ⟨hret, hown.calm hc, (congrArg TcpSock.rxSeq hb :), ?_, ?_, hc.queue, hc.shm⟩
        · rw [hav, toNat_sub_of_le hle']
          show _ + a.toNat = _
          omega
        · rw [hhd, toNat_wrapAdd hhead (by omega) (by omega), hlen]
          rfl

/-! ## The segments of a peer -/

/-- `b` holds a segment of the peer whose stream, counted from the sequence
number `irs` on, is `S`: an IPv4 header without options, a TCP header,
lengths that cover both and fit the packet, and payload bytes of `S` at a
true offset `t` at most 2³¹ away from the `pos` bytes received so far. -/
structure PeerSegment (S : Nat → UInt8) (irs : UInt32) (pos : Nat) (b : Buf) : Prop where
  plain : rxIsFlagsCtl b.pkt = false
  ihl : iphHl b.pkt = 5
  off : 5 ≤ tcphHdrlen b.pkt
  covers : 20 + 4 * tcphHdrlen b.pkt ≤ (ipLen b.pkt).toNat
  inside : (ipLen b.pkt).toNat ≤ fastEbpfPktRoom b.virtGre
  carries : ∃ t : Int, ((tcpSeqno b.pkt).toNat : Int) = ((irs.toNat : Int) + t) % 4294967296 ∧
    (pos : Int) - 2147483648 ≤ t ∧ t ≤ (pos : Int) + 2147483648 ∧
    ∀ i o : Nat, 20 + 4 * tcphHdrlen b.pkt + i < (ipLen b.pkt).toNat → t + i = o →
      b.pkt (20 + 4 * tcphHdrlen b.pkt + i) = S o

section segment

variable {S : Nat → UInt8} {irs : UInt32} {pos : Nat} {b : Buf}

theorem tcphHdrlen_lt (p : Nat → UInt8) : tcphHdrlen p < 16 := by
  unfold tcphHdrlen
  have := (be16 p 32).toNat_lt
  omega

theorem PeerSegment.hdrlen (h : PeerSegment S irs pos b) :
    (rxGetHdrlen b.pkt).toNat = 20 + 4 * tcphHdrlen b.pkt := by
  have := tcphHdrlen_lt b.pkt
  unfold rxGetHdrlen
  rw [UInt32.toNat_ofNat', h.ihl]
  omega

theorem PeerSegment.paylen (h : PeerSegment S irs pos b) :
    (rxGetPaylen b.pkt).toUInt32.toNat + (20 + 4 * tcphHdrlen b.pkt) = (ipLen b.pkt).toNat := by
  have hlt := tcphHdrlen_lt b.pkt
  have hcov := h.covers
  have hlen := (ipLen b.pkt).toNat_lt
  unfold rxGetPaylen
  rw [UInt16.toNat_toUInt32, UInt16.toNat_sub, UInt16.toNat_sub, UInt16.toNat_ofNat',
    UInt16.toNat_ofNat', h.ihl]
  omega

/-- The overlap trimmed off is the true distance behind the position `pos`,
once it leaves some of the payload: a segment half a circle away is taken
for an old one and trimmed away whole. -/
private theorem overlap_eq {a c o p pos i : Nat} {t : Int}
    (hdist : (a : Int) = (t - pos) % 4294967296)
    (hback : (c : Int) = ((pos : Int) - t) % 4294967296)
    (hord : ¬ (0 < a ∧ a < 2147483648))
    (hover : o = min (if 2147483648 ≤ a then c else 0) p) (hp : p < 65536)
    (hlo : (pos : Int) - 2147483648 ≤ t) (hhi : t ≤ (pos : Int) + 2147483648)
    (hi : i < p - o) : (o : Int) = (pos : Int) - t := by
  by_cases ha : 2147483648 ≤ a
  · rw [if_pos ha] at hover
    omega
  · rw [if_neg ha] at hover
    omega

/-- The unseen bytes of an in-order segment are the next bytes of the
stream. -/
theorem PeerSegment.fresh (h : PeerSegment S irs pos b) {s : TcpSock}
    (hseq : s.rxSeq = serial irs pos) (hord : rxIsOutOfOrder b.pkt s = false) {i : Nat}
    (hi : i < ((rxGetPaylen b.pkt).toUInt32 - rxGetPayloadOverlap b.pkt s).toNat) :
    b.pkt ((rxGetHdrlen b.pkt).toNat + (rxGetPayloadOverlap b.pkt s).toNat + i) = S (pos + i) := by
  obtain ⟨t, hno, hlo, hhi, hbytes⟩ := h.carries
  have hpay := h.paylen
  -- the distance on the circle is the true distance, up to a whole turn
  obtain ⟨hdist, hback⟩ := @serial_distance irs (tcpSeqno b.pkt) pos t hno
  rw [← hseq] at hdist hback
  unfold rxIsOutOfOrder at hord
  rw [decide_eq_false_iff_not, gt_iff_lt, s32_pos_iff] at hord
  have hover : (rxGetPayloadOverlap b.pkt s).toNat =
      min (if 2147483648 ≤ (tcpSeqno b.pkt - s.rxSeq).toNat then
        (s.rxSeq - tcpSeqno b.pkt).toNat else 0) (rxGetPaylen b.pkt).toUInt32.toNat := by
    unfold rxGetPayloadOverlap
    dsimp only
    rw [toNat_clamp]
    congr 1
    by_cases hneg : s32 (tcpSeqno b.pkt - s.rxSeq) < 0
    · rw [if_pos hneg, if_pos ((s32_neg_iff _).mp hneg)]
    · rw [if_neg hneg, if_neg (fun hn => hneg ((s32_neg_iff _).mpr hn))]
      rfl
  have hle : (rxGetPayloadOverlap b.pkt s).toNat ≤ (rxGetPaylen b.pkt).toUInt32.toNat := by
    rw [hover]
    exact Nat.min_le_right _ _
  rw [toNat_sub_of_le hle] at hi
  have hmax : (rxGetPaylen b.pkt).toUInt32.toNat < 65536 := by
    rw [UInt16.toNat_toUInt32]
    exact (rxGetPaylen b.pkt).toNat_lt
  have hoff := overlap_eq hdist hback hord hover hmax hlo hhi hi
  generalize (rxGetPayloadOverlap b.pkt s).toNat = o at hoff hi ⊢
  generalize (rxGetPaylen b.pkt).toUInt32.toNat = p at hpay hi
  rw [h.hdrlen, Nat.add_assoc]
  refine hbytes (o + i) (pos + i) ?_ ?_
  · clear hover
    omega
  · rw [Int.natCast_add, Int.natCast_add, hoff]
    omega

end segment

/-! ## A data segment -/

/-- IPv4 and TCP headers without options, no flags, acknowledgement number
1000 and zero addresses, before `payload`. -/
def dataHdr (payload : Nat → UInt8) (i : Nat) : UInt8 :=
  match i with
  | 0 => 0x45
  | 9 => 6
  | 30 => 3
  | 31 => 232
  | 32 => 0x50
  | i => if i < 40 then 0 else payload (i - 40)

/-- The segment with `paylen` bytes of `payload` at `seqno`. -/
def dataBuf (seqno : UInt32) (paylen : UInt16) (payload : Nat → UInt8) : Buf :=
  { pkt := put32 (put16 (dataHdr payload) 2 (40 + paylen)) 24 seqno, virtGre := false }

section dataBuf

variable (seqno : UInt32) {paylen : UInt16} (payload : Nat → UInt8)

theorem dataBuf_out {i : Nat} (h : i < 2 ∨ (4 ≤ i ∧ i < 24) ∨ 28 ≤ i) :
    (dataBuf seqno paylen payload).pkt i = dataHdr payload i := by
  unfold dataBuf
  dsimp only
  rw [put32_out _ _ (by omega), put16_out _ _ (by omega)]

/-- The header fields besides the length and the sequence number. -/
theorem dataBuf_hdr (paylen : UInt16) :
    (dataBuf seqno paylen payload).pkt 0 = 0x45 ∧ (dataBuf seqno paylen payload).pkt 1 = 0 ∧
    (dataBuf seqno paylen payload).pkt 9 = 6 ∧
    be16 (dataBuf seqno paylen payload).pkt 32 = 0x5000 ∧
    tcpAckno (dataBuf seqno paylen payload).pkt = 1000 ∧
    tcpSeqno (dataBuf seqno paylen payload).pkt = seqno := by
  refine ⟨?_, ?_, ?_, ?_, ?_, be32_put32 _ _ _⟩
  · rw [dataBuf_out _ _ (by omega)]
    rfl
  · rw [dataBuf_out _ _ (by omega)]
    rfl
  · rw [dataBuf_out _ _ (by omega)]
    rfl
  · rw [be16_congr (fun i _ _ => dataBuf_out seqno payload (by omega))]
    simp [be16, dataHdr]
  · unfold tcpAckno
    rw [be32_congr (fun i _ _ => dataBuf_out seqno payload (by omega))]
    simp [be32, dataHdr]

theorem dataBuf_addr (paylen : UInt16) :
    ipSrc (dataBuf seqno paylen payload).pkt = 0 ∧
    ipDst (dataBuf seqno paylen payload).pkt = 0 ∧
    tcpSrc (dataBuf seqno paylen payload).pkt = 0 ∧
    tcpDest (dataBuf seqno paylen payload).pkt = 0 := by
  unfold ipSrc ipDst tcpSrc tcpDest
  refine ⟨?_, ?_, ?_, ?_⟩
  · rw [be32_congr (fun i _ _ => dataBuf_out seqno payload (by omega))]
    simp [be32, dataHdr]
  · rw [be32_congr (fun i _ _ => dataBuf_out seqno payload (by omega))]
    simp [be32, dataHdr]
  · rw [be16_congr (fun i _ _ => dataBuf_out seqno payload (by omega))]
    simp [be16, dataHdr]
  · rw [be16_congr (fun i _ _ => dataBuf_out seqno payload (by omega))]
    simp [be16, dataHdr]

theorem dataBuf_ipLen (h : paylen.toNat ≤ 1460) :
    (ipLen (dataBuf seqno paylen payload).pkt).toNat = 40 + paylen.toNat := by
  have hlen : ipLen (dataBuf seqno paylen payload).pkt = 40 + paylen := by
    unfold ipLen dataBuf
    dsimp only
    rw [be16_congr (fun i _ hi => put32_out _ _ (Or.inl (by omega)))]
    exact be16_put16 _ _ _
  rw [hlen, UInt16.toNat_add]
  show (40 + paylen.toNat) % 65536 = _
  omega

theorem dataBuf_payload (i : Nat) : (dataBuf seqno paylen payload).pkt (40 + i) = payload i := by
  rw [dataBuf_out _ _ (by omega)]
  unfold dataHdr
  split
  any_goals omega
  rw [if_neg (by omega), Nat.add_sub_cancel_left]

end dataBuf

/-- The next bytes of the stream. -/
theorem dataBuf_peer (S : Nat → UInt8) (irs : UInt32) (pos : Nat) {paylen : UInt16}
    (h : paylen.toNat ≤ 1460) :
    PeerSegment S irs pos (dataBuf (serial irs pos) paylen (fun i => S (pos + i))) := by
  obtain ⟨h₀, h₁, h₉, hoff, hack, hseq⟩ :=
    dataBuf_hdr (serial irs pos) (fun i => S (pos + i)) paylen
  have hlen := dataBuf_ipLen (serial irs pos) (fun i => S (pos + i)) h
  have hbytes := @dataBuf_payload (serial irs pos) paylen (fun i => S (pos + i))
  generalize hb : dataBuf (serial irs pos) paylen (fun i => S (pos + i)) = b at *
  have hvg : b.virtGre = false := by rw [← hb]; rfl
  have hhl : tcphHdrlen b.pkt = 5 := by
    unfold tcphHdrlen
    rw [hoff]
    rfl
  refine ⟨?_, ?_, ?_, ?_, ?_, pos, ?_, ?_, ?_, ?_⟩
  · unfold rxIsFlagsCtl tcphFlags
    rw [hoff]
    rfl
  · unfold iphHl
    rw [h₀]
    rfl
  · omega
  · omega
  · rw [hvg, hlen]
    show 40 + paylen.toNat ≤ 1500
    omega
  · rw [hseq, serial_toNat]
    omega
  · omega
  · omega
  · intro i o _ ho
    rw [hhl, hbytes i]
    congr 1
    omega

end Chamelio.Tcp
