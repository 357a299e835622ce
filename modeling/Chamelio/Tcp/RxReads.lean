import Chamelio.Fast.StaleBytes
import Chamelio.Tcp.Rings
import Chamelio.Tcp.TxMove

/-!
# The bytes `tcp_event_rx` looks at

The handler reads the two headers, the first twelve bytes of options if there
are options, and as many bytes of payload as the headers claim. `rxClaimed` is
where the last of these ends, and `tcp_rx_reads_claimed` says that no byte
behind it makes any difference. A frame that is at least that long is handled
as if there was nothing in the buffer behind it.

A frame that is cut off is not: `truncated_segment_tells` gives a segment of
forty bytes that claims eight more, and the receive ring gets the eight bytes
that were in the buffer.

Mirroring notes: `pktRoom` is the room behind `ctx->pkt`, so a length that fits
in it need not be that of the frame.
-/

namespace Chamelio.Tcp

open Chamelio.Lib Chamelio.Util Chamelio.Pkt Chamelio.Fast

/-- Where the bytes end that the headers of a segment speak of: forty bytes of
header, ten more if there are options, and the payload. -/
def rxClaimed (p : Nat → UInt8) : Nat :=
  max (if tcphHdrlen p * 4 ≤ tcpHlen then 40 else 50)
    ((rxGetHdrlen p).toNat + (rxGetPaylen p).toNat)

/-! ## The headers -/

/-- Two packets with the same headers. -/
structure SameHdr (p q : Nat → UInt8) : Prop where
  first : q 0 = p 0
  tos : q 1 = p 1
  proto : q 9 = p 9
  len : be16 q 2 = be16 p 2
  src : be32 q 12 = be32 p 12
  dst : be32 q 16 = be32 p 16
  srcPort : be16 q 20 = be16 p 20
  dstPort : be16 q 22 = be16 p 22
  seq : be32 q 24 = be32 p 24
  ack : be32 q 28 = be32 p 28
  word : be16 q 32 = be16 p 32
  wnd : be16 q 34 = be16 p 34

theorem sameHdr_of_bytes {p q : Nat → UInt8} (h : ∀ i, i < 40 → q i = p i) : SameHdr p q := by
  have h16 : ∀ o, o + 2 ≤ 40 → be16 q o = be16 p o := fun o ho =>
    be16_congr fun i _ hi => h i (by omega)
  have h32 : ∀ o, o + 4 ≤ 40 → be32 q o = be32 p o := fun o ho =>
    be32_congr fun i _ hi => h i (by omega)
  exact ⟨h 0 (by omega), h 1 (by omega), h 9 (by omega), h16 2 (by omega), h32 12 (by omega),
    h32 16 (by omega), h16 20 (by omega), h16 22 (by omega), h32 24 (by omega), h32 28 (by omega),
    h16 32 (by omega), h16 34 (by omega)⟩

section hdr

variable {p q : Nat → UInt8}

theorem SameHdr.hdrlen (h : SameHdr p q) : rxGetHdrlen q = rxGetHdrlen p := by
  unfold rxGetHdrlen iphHl tcphHdrlen
  rw [h.first, h.word]

theorem SameHdr.paylen (h : SameHdr p q) : rxGetPaylen q = rxGetPaylen p := by
  unfold rxGetPaylen ipLen iphHl tcphHdrlen
  rw [h.len, h.first, h.word]

theorem SameHdr.tcpLen (h : SameHdr p q) : tcphHdrlen q = tcphHdrlen p := by
  unfold tcphHdrlen
  rw [h.word]

theorem SameHdr.flags (h : SameHdr p q) : tcphFlags q = tcphFlags p := by
  unfold tcphFlags
  rw [h.word]

theorem SameHdr.overlap (h : SameHdr p q) (s : TcpSock) :
    rxGetPayloadOverlap q s = rxGetPayloadOverlap p s := by
  unfold rxGetPayloadOverlap tcpSeqno
  rw [h.seq, h.paylen]

theorem SameHdr.ackBump (h : SameHdr p q) (s : TcpSock) : rxGetAckBump q s = rxGetAckBump p s := by
  unfold rxGetAckBump tcpAckno
  rw [h.ack]

theorem SameHdr.bumpAck (h : SameHdr p q) (s : TcpSock) (k : UInt32) :
    rxSockBumpAck q s k = rxSockBumpAck p s k := by
  unfold rxSockBumpAck
  rw [h.flags]

/-- The locals of `tcp_event_rx`. -/
theorem SameHdr.locals (h : SameHdr p q) (s : TcpSock) :
    rxIsAck q = rxIsAck p ∧ rxIsAckOnly q = rxIsAckOnly p ∧ tcpAckno q = tcpAckno p ∧
      rxIsPayloadDup q s = rxIsPayloadDup p s ∧ rxIsOutOfOrder q s = rxIsOutOfOrder p s := by
  unfold rxIsAck rxIsAckOnly tcpAckno rxIsPayloadDup rxIsOutOfOrder tcpSeqno
  rw [h.flags, h.paylen, h.ack, h.overlap, h.seq]
  exact ⟨rfl, rfl, rfl, rfl, rfl⟩

end hdr

/-! ## The acknowledgement that goes out -/

/-- What a handler returns on two packets. -/
abbrev SameReply (r r' : TcpCtx × Ret) : Prop := SameOutcome (fun ret => (retInt ret).toNat) r r'

/-- The header of a packet is written from its first byte to its last. -/
theorem txHdrBytes_agree (p q : Nat → UInt8) (s : TcpSock) (hdrlen paylen nowUs : UInt32) :
    AgreeBelow 52 (txHdrBytes p s hdrlen paylen nowUs) (txHdrBytes q s hdrlen paylen nowUs) := by
  have hzero : AgreeBelow 0 p q := fun _ h => absurd h (Nat.not_lt_zero _)
  have h8 : AgreeBelow 8 _ _ :=
    ((((hzero.put8 0x45).put8 0).put16 (hdrlen + paylen).toUInt16).put16 3).put16 0
  have h20 : AgreeBelow 20 _ _ :=
    ((((h8.put8 0xff).put8 ipProtoTcp).put16 0).put32 s.localIp).put32 s.remoteIp
  -- the same for both, whether or not the ECN byte was written once more
  have tail : ∀ {p' q' : Nat → UInt8}, AgreeBelow 20 p' q' →
      AgreeBelow 52 (txWriteTsopt (put16 (put16 (put16 (put16 (put32 (put32 (put16 (put16 p' 20
        s.localPort) 22 s.remotePort) 24 (s.txSeq + s.txPending)) 28 s.rxSeq) 32
        (((hdrlen / 4 - 5).toUInt16 <<< 12) ||| (txHdrFlags s paylen &&& 0x1ff))) 34
        (s.rxLen - s.rxAvail).toUInt16) 36 0) 38 0) s nowUs)
      (txWriteTsopt (put16 (put16 (put16 (put16 (put32 (put32 (put16 (put16 q' 20
        s.localPort) 22 s.remotePort) 24 (s.txSeq + s.txPending)) 28 s.rxSeq) 32
        (((hdrlen / 4 - 5).toUInt16 <<< 12) ||| (txHdrFlags s paylen &&& 0x1ff))) 34
        (s.rxLen - s.rxAvail).toUInt16) 36 0) 38 0) s nowUs) := by
    intro p' q' h
    have h32 := (((h.put16 s.localPort).put16 s.remotePort).put32
      (s.txSeq + s.txPending)).put32 s.rxSeq
    have h40 := (((h32.put16 (((hdrlen / 4 - 5).toUInt16 <<< 12) |||
      (txHdrFlags s paylen &&& 0x1ff))).put16 (s.rxLen - s.rxAvail).toUInt16).put16 0).put16 0
    exact ((((h40.put8 tcpOptTimestamp).put8 12).put32 nowUs).put32 s.tsRecent).put16 0
  unfold txHdrBytes
  dsimp only
  split
  · exact tail (h20.rewrite ipEcnEct0)
  · exact tail h20

section stages

variable {ctx : TcpCtx} {q : Nat → UInt8} {sid : Nat}

/-- An acknowledgement says nothing of the packet it is written over. -/
theorem sameReply_txFillAck : SameReply (txFillAck ctx sid) (txFillAck (ctx.withPkt q) sid) := by
  unfold txFillAck
  have hlen : isPktlenValid (ctx.withPkt q) = isPktlenValid ctx := rfl
  have hpay : isPaylenValid (ctx.withPkt q) txGetHdrlen 0 = isPaylenValid ctx txGetHdrlen 0 := rfl
  rw [hlen, hpay]
  split
  · exact sameOutcome_silent rfl
  · split
    · exact sameOutcome_silent rfl
    · unfold txFillHdr
      have hsock : sockOf (ctx.withPkt q) sid = sockOf ctx sid := rfl
      rw [hsock]
      dsimp only
      split
      · exact ⟨rfl, rfl, fun i hi => txHdrBytes_agree _ _ _ _ _ _ i hi⟩
      · exact ⟨rfl, rfl, fun i hi => txHdrBytes_agree _ _ _ _ _ _ i hi⟩

/-! ## The stages before it -/

theorem setSock_withPkt (s : TcpSock) :
    setSock (ctx.withPkt q) sid s = (setSock ctx sid s).withPkt q := rfl

theorem sockOf_withPkt : sockOf (ctx.withPkt q) sid = sockOf ctx sid := rfl

/-- The option is looked at only if the header says that there is one. -/
theorem sockTsRx_withPkt (h : SameHdr ctx.pkt q)
    (hopt : ¬ tcphHdrlen ctx.pkt * 4 ≤ tcpHlen → ∀ i, i < 50 → q i = ctx.pkt i) :
    sockTsRx (ctx.withPkt q) sid = (sockTsRx ctx sid).withPkt q := by
  have hread : rxReadTs (ctx.withPkt q) = rxReadTs ctx := by
    unfold rxReadTs
    have hlen : tcphHdrlen (ctx.withPkt q).pkt = tcphHdrlen ctx.pkt := h.tcpLen
    rw [hlen]
    by_cases hno : tcphHdrlen ctx.pkt * 4 ≤ tcpHlen
    · rw [if_pos hno, if_pos hno]
    · have hq := hopt hno
      have h42 : be32 q 42 = be32 ctx.pkt 42 := be32_congr fun i _ hi => hq i (by omega)
      have h46 : be32 q 46 = be32 ctx.pkt 46 := be32_congr fun i _ hi => hq i (by omega)
      show (if _ then _ else if _ then none else if q 40 ≠ _ then none
        else some (be32 q 42, be32 q 46)) = _
      rw [hq 40 (by omega), h42, h46]
      rfl
  unfold sockTsRx
  rw [hread]
  cases rxReadTs ctx with
  | none => rfl
  | some ts =>
    obtain ⟨tsVal, tsEcr⟩ := ts
    dsimp only
    split
    · rfl
    · have hclk : tcpNowUs (setSock (ctx.withPkt q) sid
          { sockOf (ctx.withPkt q) sid with tsRecent := tsVal }) =
          ((tcpNowUs (setSock ctx sid { sockOf ctx sid with tsRecent := tsVal })).1,
            (tcpNowUs (setSock ctx sid
              { sockOf ctx sid with tsRecent := tsVal })).2.withPkt q) := rfl
      rw [hclk]
      dsimp only
      split <;> rfl

/-- The acknowledgement is applied in the same way, and the locals of the
function are the same. -/
theorem rxAckStage_withPkt (h : SameHdr ctx.pkt q)
    (hopt : ¬ tcphHdrlen ctx.pkt * 4 ≤ tcpHlen → ∀ i, i < 50 → q i = ctx.pkt i) :
    rxAckStage (ctx.withPkt q) sid =
      ((rxAckStage ctx sid).1.withPkt q, (rxAckStage ctx sid).2) := by
  have hpkt : (ctx.withPkt q).pkt = q := rfl
  obtain ⟨hack, honly, hno, hdup, hooo⟩ := h.locals (sockOf ctx sid)
  have hwnd : tcpWnd q = tcpWnd ctx.pkt := h.wnd
  -- the timestamp is looked at after the socket was written
  have hts : ∀ s, sockTsRx ((setSock ctx sid s).withPkt q) sid =
      (sockTsRx (setSock ctx sid s) sid).withPkt q := fun _ => sockTsRx_withPkt h hopt
  unfold rxAckStage
  dsimp only
  rw [hpkt, sockOf_withPkt, hack, honly, hno, hdup, hooo, hwnd, h.overlap, setSock_withPkt,
    hts, sockOf_withPkt, h.ackBump, h.bumpAck]
  split <;> rfl

theorem rxMarkCe_withPkt (h : SameHdr ctx.pkt q) :
    rxMarkCe (ctx.withPkt q) sid = (rxMarkCe ctx sid).withPkt q := by
  have hce : rxIsCe q = rxIsCe ctx.pkt := by
    unfold rxIsCe iphEcn
    rw [h.tos]
  unfold rxMarkCe
  show (if rxIsCe q then _ else _) = _
  rw [hce]
  split <;> rfl

theorem rxEnqueueApp_withPkt (e : TcpQe) :
    rxEnqueueApp (ctx.withPkt q) sid e = (rxEnqueueApp ctx sid e).map (·.withPkt q) := by
  unfold rxEnqueueApp
  have hq : (ctx.withPkt q).equeues = ctx.equeues := rfl
  dsimp only
  rw [sockOf_withPkt, hq]
  cases (ctx.equeues (sockOf ctx sid).appBumpQid.toNat).push e with
  | none => rfl
  | some f => rfl

theorem rxAppTxBump_withPkt (v : RxLocals) :
    rxAppTxBump (ctx.withPkt q) sid v = (rxAppTxBump ctx sid v).map (·.withPkt q) := by
  unfold rxAppTxBump
  split
  · rfl
  · exact rxEnqueueApp_withPkt _

theorem remit_withPkt : remit (ctx.withPkt q) sid = (remit ctx sid).withPkt q := by
  unfold remit
  rw [sockOf_withPkt]
  rfl

theorem rxDupAck_withPkt (v : RxLocals) :
    rxDupAck (ctx.withPkt q) sid v =
      ((rxDupAck ctx sid v).1.withPkt q, (rxDupAck ctx sid v).2) := by
  unfold rxDupAck
  rw [sockOf_withPkt]
  dsimp only
  split
  · split
    · rw [setSock_withPkt, setSock_withPkt, remit_withPkt, sockOf_withPkt, setSock_withPkt]
    · rfl
  · rfl

theorem rxSchedTx_withPkt (before after : UInt32) :
    rxSchedTx (ctx.withPkt q) sid before after = (rxSchedTx ctx sid before after).withPkt q := by
  have htsc : txSchedTsc (ctx.withPkt q) sid =
      ((txSchedTsc ctx sid).1, (txSchedTsc ctx sid).2.withPkt q) := by
    have hfst : ∀ c : TcpCtx, (txSchedTsc c sid).1 =
        if (sockOf c sid).ccRate = 0 ∨ (sockOf c sid).txReadyTsc ≤ (clockRdtsc c.clk).1 then
          (clockRdtsc c.clk).1 else (sockOf c sid).txReadyTsc := by
      intro c
      unfold txSchedTsc
      exact apply_ite Prod.fst _ _ _
    refine Prod.ext ?_ ?_
    · rw [hfst]
      exact (hfst ctx).symm
    · rw [txSchedTsc_snd]
      exact congrArg (EbpfCtx.withPkt · q) (txSchedTsc_snd ctx sid).symm
  unfold rxSchedTx
  rw [htsc]
  split <;> rfl

/-! ## Payload -/

/-- The part of the payload that is stored ends where the payload does. -/
theorem rxCopyPayload_withPkt {s : TcpSock} {src n : Nat} {b : UInt32} (hpos : 0 < b.toNat)
    (hroom : RxRoom s) (hfit : s.rxAvail.toNat + b.toNat ≤ s.rxLen.toNat)
    (hend : src + b.toNat ≤ n) (h : ∀ i, i < n → q i = ctx.pkt i) :
    rxCopyPayload (ctx.withPkt q) s src b = (rxCopyPayload ctx s src b).withPkt q := by
  have hhead : s.rxHead.toNat < s.rxLen.toNat := hroom.head (by omega)
  have hread : ∀ i, i < b.toNat → q (src + i) = ctx.pkt (src + i) := fun i hi => h _ (by omega)
  have hshm : (rxCopyPayload (ctx.withPkt q) s src b).shm = (rxCopyPayload ctx s src b).shm := by
    rw [rxCopyPayload_shm src hhead hfit hroom.noWrap, rxCopyPayload_shm src hhead hfit hroom.noWrap]
    exact ringWrite_reads hread
  -- a copy changes the shared memory only
  have hrest : ∀ c : TcpCtx, rxCopyPayload c s src b =
      { c with shm := (rxCopyPayload c s src b).shm } := by
    intro c
    unfold rxCopyPayload
    dsimp only
    split <;> rfl
  rw [hrest (ctx.withPkt q), hshm, hrest ctx]
  rfl

/-- The payload that was not seen before is stored, if it is in the packet,
and acknowledged. -/
theorem sameReply_rxDeliver {v : RxLocals} {hdrlen : UInt32} {n : Nat} (hhdr : SameHdr ctx.pkt q)
    (hroom : RxRoom (sockOf ctx sid))
    (hover : v.overlap.toNat ≤ (rxGetPaylen ctx.pkt).toNat)
    (hend : hdrlen.toNat + (rxGetPaylen ctx.pkt).toNat ≤ n) (h : ∀ i, i < n → q i = ctx.pkt i) :
    SameReply (rxDeliver ctx sid v hdrlen) (rxDeliver (ctx.withPkt q) sid v hdrlen) := by
  have hpkt : (ctx.withPkt q).pkt = q := rfl
  have hsrc : tcpSrc q = tcpSrc ctx.pkt := hhdr.srcPort
  have hip : ipSrc q = ipSrc ctx.pkt := hhdr.src
  obtain ⟨hfit, hle⟩ := rxGetRxBump_le hroom ((rxGetPaylen ctx.pkt).toUInt32 - v.overlap)
  have hsub : ((rxGetPaylen ctx.pkt).toUInt32 - v.overlap).toNat =
      (rxGetPaylen ctx.pkt).toNat - v.overlap.toNat := by
    rw [toNat_sub_of_le (by simpa using hover)]
    simp
  unfold rxDeliver
  dsimp only
  rw [hpkt, hhdr.paylen, sockOf_withPkt]
  generalize rxGetRxBump (sockOf ctx sid) _ = b at hfit hle ⊢
  split
  · next hpos =>
    have hb : 0 < b.toNat := UInt32.lt_iff_toNat_lt.mp hpos
    rw [rxCopyPayload_withPkt hb hroom hfit (by omega) h, setSock_withPkt]
    have henq := fun e => @rxEnqueueApp_withPkt (setSock (rxCopyPayload ctx (sockOf ctx sid)
      (hdrlen.toNat + v.overlap.toNat) b) sid (rxSockBumpRx (sockOf ctx sid) b)) q sid e
    unfold rxEnqueueRxBump
    rw [sockOf_withPkt, henq, EbpfCtx.withPkt_pkt, hsrc, hip, setSock_pkt, rxCopyPayload_pkt]
    cases rxEnqueueApp _ sid _ with
    | none => exact sameOutcome_silent rfl
    | some c => exact sameReply_txFillAck
  · exact sameReply_txFillAck

theorem sameReply_rxPayload {v : RxLocals} {hdrlen : UInt32} {n : Nat} (fr : Bool)
    (hhdr : SameHdr ctx.pkt q) (hroom : RxRoom (sockOf ctx sid))
    (hover : v.overlap.toNat ≤ (rxGetPaylen ctx.pkt).toNat)
    (hend : hdrlen.toNat + (rxGetPaylen ctx.pkt).toNat ≤ n) (h : ∀ i, i < n → q i = ctx.pkt i) :
    SameReply (rxPayload ctx sid v hdrlen fr) (rxPayload (ctx.withPkt q) sid v hdrlen fr) := by
  have hvalid : isPaylenValid (ctx.withPkt q) hdrlen (rxGetPaylen q).toUInt32 =
      isPaylenValid ctx hdrlen (rxGetPaylen ctx.pkt).toUInt32 := by
    rw [hhdr.paylen]
    rfl
  unfold rxPayload
  show SameReply _ (if _ then _ else if _ then _ else
    if !isPaylenValid (ctx.withPkt q) hdrlen (rxGetPaylen q).toUInt32 then _ else _)
  rw [hvalid]
  split
  · exact sameReply_txFillAck
  · split
    · exact sameReply_txFillAck
    · split
      · exact sameReply_txFillAck
      · exact sameReply_rxDeliver hhdr hroom hover hend h

/-! ## The handler -/

/-- The locals and the socket the payload stage works with. -/
private theorem payload_room {ctxB : TcpCtx} (hroom : RxRoom (sockOf ctx sid))
    (henq : rxAppTxBump (rxAckStage ctx sid).1 sid (rxAckStage ctx sid).2 = some ctxB) :
    RxRoom (sockOf (rxSchedTx (rxDupAck ctxB sid (rxAckStage ctx sid).2).1 sid
      (rxAckStage ctx sid).2.availBefore (rxAckStage ctx sid).2.availAfter) sid) ∧
    (rxSchedTx (rxDupAck ctxB sid (rxAckStage ctx sid).2).1 sid
      (rxAckStage ctx sid).2.availBefore (rxAckStage ctx sid).2.availAfter).pkt = ctx.pkt := by
  obtain ⟨qe, -, hpkt, hq⟩ := (rxAckBump_spec ctx sid).2 ctxB henq
  obtain ⟨s₁, hs₁, hq₁⟩ := rxRewind_spec (rxAckStage ctx sid).2 hq
  constructor
  · have hbare := hq₁.socks sid
    rw [sockOf_withSockQueue] at hbare
    generalize sockOf (rxSchedTx (rxDupAck ctxB sid (rxAckStage ctx sid).2).1 sid
      (rxAckStage ctx sid).2.availBefore (rxAckStage ctx sid).2.availAfter) sid = s at hbare ⊢
    obtain ⟨-, hav, hhead⟩ := ackedSock_rx ctx.pkt (sockOf ctx sid)
    have hlen : (ackedSock ctx.pkt (sockOf ctx sid)).rxLen = (sockOf ctx sid).rxLen :=
      (congrArg TcpSock.rxLen (ackedSock_ident ctx.pkt (sockOf ctx sid)) :)
    have hacked : RxRoom s₁ := by
      rcases hs₁ with rfl | ⟨-, rfl⟩
      · exact hroom.congr hav hhead hlen
      · obtain ⟨-, hav', hhead'⟩ := rewoundSock_rx (ackedSock ctx.pkt (sockOf ctx sid))
        have hlen' := rewoundSock_ident (ackedSock ctx.pkt (sockOf ctx sid))
        exact hroom.congr (hav'.trans hav) (hhead'.trans hhead)
          ((congrArg TcpSock.rxLen hlen' :).trans hlen)
    exact hacked.congr (congrArg TcpSock.rxAvail hbare :) (congrArg TcpSock.rxHead hbare :)
      (congrArg TcpSock.rxLen hbare :)
  · rw [rxSchedTx_pkt, rxDupAck_pkt, hpkt]

/-- A segment of an established connection. -/
theorem sameReply_rxSegment {hdrlen : UInt32} {n : Nat} (hhdr : SameHdr ctx.pkt q)
    (hopt : ¬ tcphHdrlen ctx.pkt * 4 ≤ tcpHlen → ∀ i, i < 50 → q i = ctx.pkt i)
    (hroom : RxRoom (sockOf ctx sid))
    (hend : hdrlen.toNat + (rxGetPaylen ctx.pkt).toNat ≤ n) (h : ∀ i, i < n → q i = ctx.pkt i) :
    SameReply (rxSegment ctx sid hdrlen) (rxSegment (ctx.withPkt q) sid hdrlen) := by
  have hover : (rxAckStage ctx sid).2.overlap.toNat ≤ (rxGetPaylen ctx.pkt).toNat := by
    show (rxGetPayloadOverlap ctx.pkt (sockOf ctx sid)).toNat ≤ _
    unfold rxGetPayloadOverlap
    rw [toNat_clamp, UInt16.toNat_toUInt32]
    exact Nat.min_le_right _ _
  unfold rxSegment
  rw [rxAckStage_withPkt hhdr hopt]
  dsimp only
  rw [rxAppTxBump_withPkt]
  cases henq : rxAppTxBump (rxAckStage ctx sid).1 sid (rxAckStage ctx sid).2 with
  | none => exact sameOutcome_silent rfl
  | some ctxB =>
    obtain ⟨hroom', hpkt⟩ := payload_room hroom henq
    dsimp only [Option.map_some]
    rw [rxDupAck_withPkt]
    dsimp only
    rw [rxSchedTx_withPkt]
    generalize rxSchedTx (rxDupAck ctxB sid (rxAckStage ctx sid).2).1 sid
      (rxAckStage ctx sid).2.availBefore (rxAckStage ctx sid).2.availAfter = c at hroom' hpkt ⊢
    split
    · exact sameOutcome_silent rfl
    · rw [← hpkt] at hhdr hover hend h
      exact sameReply_rxPayload _ hhdr hroom' hover hend h

/-- A header for the slow path is copied up to its own length. -/
theorem sameReply_rxPuntCtl {n : Nat} (hhdr : SameHdr ctx.pkt q)
    (hend : (rxGetHdrlen ctx.pkt).toNat ≤ n) (h : ∀ i, i < n → q i = ctx.pkt i) :
    SameReply (rxPuntCtl ctx) (rxPuntCtl (ctx.withPkt q)) := by
  have hbytes : (List.range (rxGetHdrlen ctx.pkt).toNat).map q =
      (List.range (rxGetHdrlen ctx.pkt).toNat).map ctx.pkt := by
    refine List.map_congr_left fun i hi => h i ?_
    have := List.mem_range.mp hi
    omega
  have hvalid : isPaylenValid (ctx.withPkt q) (rxGetHdrlen ctx.pkt) 0 =
      isPaylenValid ctx (rxGetHdrlen ctx.pkt) 0 := rfl
  have hmaps : (ctx.withPkt q).maps = ctx.maps := rfl
  have hqs : (ctx.withPkt q).equeues = ctx.equeues := rfl
  have hcore : (ctx.withPkt q).core = ctx.core := rfl
  unfold rxPuntCtl
  dsimp only
  rw [EbpfCtx.withPkt_pkt, hhdr.hdrlen, hbytes, hvalid, hmaps, hqs, hcore]
  cases ctx.maps.cfg with
  | none => exact sameOutcome_silent rfl
  | some cfg =>
    dsimp only
    split
    · exact sameOutcome_silent rfl
    split
    · exact sameOutcome_silent rfl
    split
    · exact sameOutcome_silent rfl
    split
    · exact sameOutcome_silent rfl
    split
    · exact sameOutcome_silent rfl
    · next f _ =>
      have hset : ((ctx.withPkt q).setQueue (cfg.fastSlowPktQids ctx.core.toNat).toNat f).equeues =
        (ctx.setQueue (cfg.fastSlowPktQids ctx.core.toNat).toNat f).equeues := rfl
      rw [hset]
      split
      · exact sameOutcome_silent rfl
      · exact sameOutcome_silent rfl

theorem sockFind_withPkt (h : SameHdr ctx.pkt q) : sockFind (ctx.withPkt q) = sockFind ctx := by
  have hsrc : ipSrc q = ipSrc ctx.pkt := h.src
  have hdst : ipDst q = ipDst ctx.pkt := h.dst
  have hsp : tcpSrc q = tcpSrc ctx.pkt := h.srcPort
  have hdp : tcpDest q = tcpDest ctx.pkt := h.dstPort
  unfold sockFind
  dsimp only
  rw [EbpfCtx.withPkt_pkt, hsrc, hdst, hsp, hdp]
  rfl

end stages

/-- **`tcp_event_rx` reads no byte that the headers do not claim.** Whatever
lies in the buffer behind the claimed bytes, the handler returns the same, sends
the same acknowledgement, and leaves every socket, queue, ring and scheduler
entry the same. The rings' counters must fit their rings, which every run of a
connection keeps (`RxInv.room`). -/
theorem tcp_rx_reads_claimed {ctx : TcpCtx} {q : Nat → UInt8}
    (hroom : ∀ sid, RxRoom (sockOf ctx sid))
    (h : ∀ i, i < rxClaimed ctx.pkt → q i = ctx.pkt i) :
    SameReply (tcpEventRx ctx) (tcpEventRx (ctx.withPkt q)) := by
  have h40 : 40 ≤ rxClaimed ctx.pkt := by
    unfold rxClaimed
    split <;> omega
  have hend : (rxGetHdrlen ctx.pkt).toNat + (rxGetPaylen ctx.pkt).toNat ≤ rxClaimed ctx.pkt :=
    Nat.le_max_right _ _
  have hopt : ¬ tcphHdrlen ctx.pkt * 4 ≤ tcpHlen → ∀ i, i < 50 → q i = ctx.pkt i := by
    intro hlong i hi
    refine h i ?_
    unfold rxClaimed
    rw [if_neg hlong]
    omega
  have hhdr : SameHdr ctx.pkt q := sameHdr_of_bytes fun i hi => h i (by omega)
  have hip : rxIsIp q = rxIsIp ctx.pkt := by
    unfold rxIsIp iphV iphHl ipProto
    rw [hhdr.first, hhdr.proto]
  have hctl : rxIsFlagsCtl q = rxIsFlagsCtl ctx.pkt := by
    unfold rxIsFlagsCtl
    rw [hhdr.flags]
  have hlen : isPktlenValid (ctx.withPkt q) = isPktlenValid ctx := rfl
  unfold tcpEventRx
  rw [EbpfCtx.withPkt_pkt, hip, hctl, hlen, sockFind_withPkt hhdr]
  split
  · exact sameOutcome_silent rfl
  split
  · exact sameOutcome_silent rfl
  split
  · exact sameReply_rxPuntCtl hhdr (by omega) h
  cases sockFind ctx with
  | none => exact sameOutcome_silent rfl
  | some sid =>
    dsimp only
    rw [sockOf_withPkt]
    split
    · exact sameReply_rxPuntCtl hhdr (by omega) h
    · unfold rxEstablished
      have hmark : (rxMarkCe ctx sid).pkt = ctx.pkt := rxMarkCe_pkt ctx sid
      have hbare := (quiet_rxMarkCe ctx sid).socks sid
      have hroom' : RxRoom (sockOf (rxMarkCe ctx sid) sid) :=
        (hroom sid).congr (congrArg TcpSock.rxAvail hbare :) (congrArg TcpSock.rxHead hbare :)
          (congrArg TcpSock.rxLen hbare :)
      dsimp only
      rw [rxMarkCe_withPkt hhdr, EbpfCtx.withPkt_pkt, hmark, hhdr.hdrlen]
      rw [← hmark] at hhdr hopt hend h
      generalize rxMarkCe ctx sid = c at hhdr hopt hend h hroom' hmark ⊢
      rw [← hmark]
      show SameReply _ (if !isPaylenValid c (rxGetHdrlen c.pkt) 0 then _ else _)
      split
      · exact sameReply_txFillAck
      · exact sameReply_rxSegment hhdr hopt hroom' hend h

/-! ## A frame that is cut off -/

/-- A segment of forty bytes whose header claims eight more, in a buffer that
holds `x` from there on. -/
def cutSegment (x : UInt8) : Nat → UInt8 := fun i =>
  ([0x45, 0, 0, 48, 0, 0, 0, 0, 64, 6, 0, 0, 0, 0, 0, 0, 0, 0, 0, 0, 0, 0, 0, 0, 0, 0, 0, 0,
    0, 0, 0, 0, 0x50, 0x10, 0, 64, 0, 0, 0, 0] : List UInt8).getD i x

/-- An established connection that gets it. -/
def cutCtx (x : UInt8) : TcpCtx :=
  { oneSockCtx { TcpSock.zero with state := .established, txLen := 64, rxLen := 64 } 4 with
    pkt := cutSegment x }

/-- What was received is the same in both buffers, and the application is given
what was left over in the one or in the other. -/
theorem truncated_segment_tells :
    (∀ i, i < 40 → (cutCtx 2).pkt i = (cutCtx 1).pkt i) ∧
    (tcpEventRx (cutCtx 1)).1.shm 7 = 1 ∧ (tcpEventRx (cutCtx 2)).1.shm 7 = 2 := by
  refine ⟨fun i hi => ?_, by decide, by decide⟩
  show cutSegment 2 i = cutSegment 1 i
  unfold cutSegment
  rw [List.getD_eq_getElem?_getD, List.getD_eq_getElem?_getD, List.getElem?_eq_getElem hi]
  rfl

/-- What lies behind the eight bytes makes no difference. -/
theorem tcp_rx_reads_claimed_cut : SameReply (tcpEventRx (cutCtx 1))
    (tcpEventRx ((cutCtx 1).withPkt fun i => if i < 48 then cutSegment 1 i else 9)) := by
  refine tcp_rx_reads_claimed (fun sid => ?_) fun i hi => if_pos ?_
  · have hroom : ∀ s : TcpSock, s.rxAvail = 0 → s.rxHead = 0 → s.rxLen = 64 ∨ s.rxLen = 0 →
        RxRoom s := by
      intro s hav hhead hlen
      refine ⟨?_, ?_, ?_⟩ <;> rcases hlen with hlen | hlen <;> simp [hav, hhead, hlen]
    by_cases hsid : sid = 0
    · subst hsid
      exact hroom _ rfl rfl (Or.inl rfl)
    · have hzero : sockOf (cutCtx 1) sid = TcpSock.zero := if_neg hsid
      rw [hzero]
      exact hroom _ rfl rfl (Or.inr rfl)
  · have hclaimed : rxClaimed (cutCtx 1).pkt = 48 := by decide
    omega

end Chamelio.Tcp
