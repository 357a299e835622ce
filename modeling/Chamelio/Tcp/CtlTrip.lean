import Chamelio.Tcp.CtlRepeat
import Chamelio.Tcp.Punt

/-!
# A control segment from one slow path to the other

`ctl_pkt_fill` writes a segment into an entry for the fast path.
`deq_handle_ctl_tx` copies the entry into a packet, clears its checksums and
writes the time into its timestamp option. The NIC fills the checksums in.
At the other host `tcp_event_rx` punts the packet, and `ctl_rx_parse` reads the
entry that `rx_punt_ctl` made of it.

`ctl_segment_round_trip` puts the four together: what the slow path reads is
the segment that the other one sent, seen from the other side. The option is
read if and only if it was sent, and every other byte of the entry, which may
be anything, is not looked at.

Mirroring notes: the two hosts have each their own fast path, in any state.
Bytes 10, 11, 36 and 37 of the packet are the checksums, 42 to 45 the time.
-/

namespace Chamelio.Tcp

open Chamelio.Lib Chamelio.Util Chamelio.Pkt Chamelio.Fast

/-- The length of a control packet. -/
def CtlSeg.len (c : CtlSeg) : Nat := if c.tsRecent.isSome then 52 else 40

/-- The bytes of a packet that the NIC fills in. -/
def IsChksum (i : Nat) : Prop := i = 10 ∨ i = 11 ∨ i = 36 ∨ i = 37

/-- The packet is the segment, whatever its checksums and the time in its
option are. -/
def CtlSeg.Travels (c : CtlSeg) (p : Nat → UInt8) : Prop :=
  ∀ i, i < c.len → ¬ IsChksum i → ¬ (42 ≤ i ∧ i < 46) → p i = ctlPktFill c i

/-- What the other slow path reads of a segment. -/
def CtlSeg.arrives (c : CtlSeg) (core : UInt16) (tsVal : UInt32) : TcpRxCtl where
  localIp := c.remoteIp
  remoteIp := c.localIp
  seq := c.seq
  ack := c.ack
  localPort := c.remotePort
  remotePort := c.localPort
  wnd := c.wnd
  flags := c.flags &&& 0x1ff
  core := core
  ts := c.tsRecent.map fun tsEcr => (tsVal, tsEcr)

/-! ## The fields of the header -/

theorem be16_put32_ne (p : Nat → UInt8) {o o' : Nat} (x : UInt32) (h : o + 4 ≤ o' ∨ o' + 2 ≤ o) :
    be16 (put32 p o x) o' = be16 p o' :=
  be16_congr fun _ _ _ => put32_out p x (by omega)

/-- The part of `ctl_pkt_fill` that every segment has. -/
def ctlHdr (c : CtlSeg) : Nat → UInt8 :=
  let p := fun _ => 0
  let p := put8 p 0 0x45
  let p := put16 p 2 (if c.tsRecent.isSome then 52 else 40)
  let p := put16 p 4 3
  let p := put8 p 8 0xff
  let p := put8 p 9 ipProtoTcp
  let p := put32 p 12 c.localIp
  let p := put32 p 16 c.remoteIp
  let p := put16 p 20 c.localPort
  let p := put16 p 22 c.remotePort
  let p := put32 p 24 c.seq
  let p := put32 p 28 c.ack
  let p := put16 p 32 ((c.hdrWords <<< 12) ||| (c.flags &&& 0x1ff))
  put16 p 34 c.wnd

/-- The timestamp option behind the header, without its time. -/
def ctlTsopt (p : Nat → UInt8) (tsEcr : UInt32) : Nat → UInt8 :=
  put32 (put8 (put8 p 40 tcpOptTimestamp) 41 12) 46 tsEcr

theorem ctlPktFill_none {c : CtlSeg} (h : c.tsRecent = none) : ctlPktFill c = ctlHdr c := by
  unfold ctlPktFill ctlHdr
  simp only [h]

theorem ctlPktFill_some {c : CtlSeg} {tsEcr : UInt32} (h : c.tsRecent = some tsEcr) :
    ctlPktFill c = ctlTsopt (ctlHdr c) tsEcr := by
  unfold ctlPktFill ctlHdr ctlTsopt
  simp only [h]

theorem ctlTsopt_hdr (p : Nat → UInt8) (tsEcr : UInt32) {i : Nat} (hi : i < 40) :
    ctlTsopt p tsEcr i = p i := by
  unfold ctlTsopt
  rw [put32_out _ _ (by omega), put8_ne _ _ (by omega), put8_ne _ _ (by omega)]

theorem ctlTsopt_kind (p : Nat → UInt8) (tsEcr : UInt32) :
    ctlTsopt p tsEcr 40 = tcpOptTimestamp := by
  unfold ctlTsopt
  rw [put32_out _ _ (by omega), put8_ne _ _ (by omega), put8_self]

theorem ctlTsopt_ecr (p : Nat → UInt8) (tsEcr : UInt32) : be32 (ctlTsopt p tsEcr) 46 = tsEcr :=
  be32_put32 _ _ _

theorem ctlPktFill_hdr (c : CtlSeg) {i : Nat} (hi : i < 40) : ctlPktFill c i = ctlHdr c i := by
  cases hrecent : c.tsRecent with
  | none => rw [ctlPktFill_none hrecent]
  | some tsEcr => rw [ctlPktFill_some hrecent, ctlTsopt_hdr _ _ hi]

/-- The first byte and the protocol are those of an IP header without
options in front of TCP. -/
theorem ctlHdr_ip (c : CtlSeg) : ctlHdr c 0 = 0x45 ∧ ctlHdr c 9 = ipProtoTcp := by
  constructor
  · unfold ctlHdr
    simp (disch := omega) only [put16_out, put32_out, put8_ne]
    exact put8_self _ _ _
  · unfold ctlHdr
    simp (disch := omega) only [put16_out, put32_out]
    exact put8_self _ _ _

/-- The flags do not reach the data offset. -/
theorem flags_of_word (w f : UInt16) : ((w <<< 12) ||| (f &&& 0x1ff)) &&& 0x1ff = f &&& 0x1ff := by
  have hmask : (0x1ff : UInt16).toNat = 2 ^ 9 - 1 := rfl
  have hshift : (w <<< 12).toNat &&& (2 ^ 9 - 1) = 0 := by
    rw [UInt16.toNat_shiftLeft, Nat.and_two_pow_sub_one_eq_mod]
    show w.toNat <<< 12 % 65536 % 512 = 0
    rw [Nat.shiftLeft_eq]
    omega
  apply UInt16.toNat_inj.mp
  rw [UInt16.toNat_and, UInt16.toNat_or, UInt16.toNat_and, hmask, Nat.and_or_distrib_right, hshift,
    Nat.zero_or, Nat.and_assoc, Nat.and_self]

/-- What the header says. -/
structure CtlHdrFields (p : Nat → UInt8) (c : CtlSeg) : Prop where
  localIp : be32 p 12 = c.localIp
  remoteIp : be32 p 16 = c.remoteIp
  localPort : be16 p 20 = c.localPort
  remotePort : be16 p 22 = c.remotePort
  seq : be32 p 24 = c.seq
  ack : be32 p 28 = c.ack
  word : be16 p 32 = (c.hdrWords <<< 12) ||| (c.flags &&& 0x1ff)
  wnd : be16 p 34 = c.wnd
  len : be16 p 2 = UInt16.ofNat c.len

theorem ctlHdr_fields (c : CtlSeg) : CtlHdrFields (ctlHdr c) c := by
  unfold ctlHdr
  refine ⟨?_, ?_, ?_, ?_, ?_, ?_, ?_, ?_, ?_⟩
  · simp (disch := omega) only [be32_put16_ne, be32_put32_ne, be32_put32]
  · simp (disch := omega) only [be32_put16_ne, be32_put32_ne, be32_put32]
  · simp (disch := omega) only [be16_put16_ne, be16_put32_ne, be16_put16]
  · simp (disch := omega) only [be16_put16_ne, be16_put32_ne, be16_put16]
  · simp (disch := omega) only [be32_put16_ne, be32_put32_ne, be32_put32]
  · simp (disch := omega) only [be32_put16_ne, be32_put32]
  · simp (disch := omega) only [be16_put16_ne, be16_put16]
  · simp only [be16_put16]
  · have hkeep : ∀ (p : Nat → UInt8) (o : Nat) (x : UInt8), 4 ≤ o → be16 (put8 p o x) 2 = be16 p 2 :=
      fun p o x ho => be16_congr fun i _ _ => put8_ne p x (by omega)
    simp (disch := omega) only [be16_put16_ne, be16_put32_ne, hkeep, be16_put16]
    unfold CtlSeg.len
    split
    · rfl
    · rfl

/-! ## What is read of a packet on its way -/

section travels

variable {c : CtlSeg} {p q : Nat → UInt8}

theorem CtlSeg.len_ge (c : CtlSeg) : 40 ≤ c.len := by
  unfold CtlSeg.len
  split
  · decide
  · decide

theorem CtlSeg.Travels.hdr (h : c.Travels p) {i : Nat} (hi : i < 36) (h10 : i ≠ 10) (h11 : i ≠ 11) :
    p i = ctlHdr c i := by
  have hlen := c.len_ge
  rw [h i (by omega) (by unfold IsChksum; omega) (by omega), ctlPktFill_hdr c (by omega)]

theorem CtlSeg.Travels.fields (h : c.Travels p) : CtlHdrFields p c := by
  have hf := ctlHdr_fields c
  have h32 : ∀ o, o + 4 ≤ 36 → 12 ≤ o → be32 p o = be32 (ctlHdr c) o := fun o ho hlo =>
    be32_congr fun i _ _ => h.hdr (by omega) (by omega) (by omega)
  have h16 : ∀ o, o + 2 ≤ 36 → 12 ≤ o ∨ o + 2 ≤ 10 → be16 p o = be16 (ctlHdr c) o :=
    fun o ho hlo => be16_congr fun i _ _ => h.hdr (by omega) (by omega) (by omega)
  exact ⟨(h32 12 (by omega) (by omega)).trans hf.localIp,
    (h32 16 (by omega) (by omega)).trans hf.remoteIp,
    (h16 20 (by omega) (by omega)).trans hf.localPort,
    (h16 22 (by omega) (by omega)).trans hf.remotePort,
    (h32 24 (by omega) (by omega)).trans hf.seq, (h32 28 (by omega) (by omega)).trans hf.ack,
    (h16 32 (by omega) (by omega)).trans hf.word, (h16 34 (by omega) (by omega)).trans hf.wnd,
    (h16 2 (by omega) (by omega)).trans hf.len⟩

theorem CtlSeg.Travels.flags (h : c.Travels p) : tcphFlags p = c.flags &&& 0x1ff := by
  unfold tcphFlags
  rw [h.fields.word, flags_of_word]

theorem CtlSeg.Travels.hdrlen (h : c.Travels p) : tcphHdrlen p = c.hdrWords.toNat := by
  have hw := (ctlPkt_fields c).hdrlen
  unfold tcphHdrlen at hw ⊢
  have hword : be16 (pktOf ((List.range ctlPktSize).map (ctlPktFill c))) 32 = be16 p 32 := by
    rw [h.fields.word, ← (ctlHdr_fields c).word]
    refine be16_congr fun i _ _ => ?_
    rw [pktOf_ctlPkt c (by unfold ctlPktSize; omega), ctlPktFill_hdr c (by omega)]
  rw [← hword, hw]

/-- The header of a control packet is the whole packet. -/
theorem CtlSeg.Travels.rxHdrlen (h : c.Travels p) : (rxGetHdrlen p).toNat = c.len := by
  have hihl : iphHl p = 5 := by
    unfold iphHl
    rw [h.hdr (by omega) (by omega) (by omega), (ctlHdr_ip c).1]
    rfl
  unfold rxGetHdrlen
  rw [hihl, h.hdrlen]
  unfold CtlSeg.hdrWords CtlSeg.len
  split
  · rfl
  · rfl

theorem CtlSeg.Travels.isIp (h : c.Travels p) : rxIsIp p = true := by
  unfold rxIsIp iphV iphHl ipProto
  rw [h.hdr (i := 0) (by omega) (by omega) (by omega), h.hdr (i := 9) (by omega) (by omega) (by omega),
    (ctlHdr_ip c).1, (ctlHdr_ip c).2]
  rfl

/-- The option is read if and only if it was sent. -/
theorem CtlSeg.Travels.tsopt (h : c.Travels p) :
    (if tcphHdrlen p * 4 < tcpHlen + tcpTsOptLen then none
      else if p 40 ≠ tcpOptTimestamp then none
      else some (be32 p 42, be32 p 46)) = c.tsRecent.map fun tsEcr => (be32 p 42, tsEcr) := by
  rw [h.hdrlen]
  unfold CtlSeg.hdrWords
  cases hrecent : c.tsRecent with
  | none =>
    -- five words of header: there is no room for the option
    exact if_pos (by decide)
  | some tsEcr =>
    have hlen : c.len = 52 := by
      unfold CtlSeg.len
      rw [hrecent]
      rfl
    have hopt : ∀ i, i = 40 ∨ 46 ≤ i ∧ i < 50 → p i = ctlTsopt (ctlHdr c) tsEcr i := by
      intro i hi
      rw [h i (by omega) (by unfold IsChksum; omega) (by omega), ctlPktFill_some hrecent]
    have h40 : p 40 = tcpOptTimestamp := by
      rw [hopt 40 (Or.inl rfl), ctlTsopt_kind]
    have h46 : be32 p 46 = tsEcr := by
      rw [be32_congr fun i _ _ => hopt i (Or.inr ⟨by omega, by omega⟩), ctlTsopt_ecr]
    have hwide : ¬ (8 : UInt16).toNat * 4 < tcpHlen + tcpTsOptLen := by decide
    rw [Option.isSome_some, if_pos rfl, if_neg hwide, if_neg (not_not_intro h40), h46]
    rfl

/-- **The other slow path reads the segment.** -/
theorem CtlSeg.Travels.parse (h : c.Travels p) (core : UInt16) :
    ctlRxParse p core = c.arrives core (be32 p 42) := by
  have hf := h.fields
  unfold ctlRxParse CtlSeg.arrives ipDst ipSrc tcpSeqno tcpAckno tcpDest tcpSrc tcpWnd
  rw [h.tsopt, hf.remoteIp, hf.localIp, hf.seq, hf.ack, hf.remotePort, hf.localPort, hf.wnd,
    h.flags]

/-- Two packets that agree but for their checksums. -/
theorem CtlSeg.Travels.congr (h : c.Travels p) (hpq : ∀ i, i < c.len → ¬ IsChksum i → q i = p i) :
    c.Travels q := fun i hi hc ht => (hpq i hi hc).trans (h i hi hc ht)

end travels

/-! ## Out of the fast path -/

theorem pktOf_ctlPkt_travels (c : CtlSeg) :
    c.Travels (pktOf ((List.range ctlPktSize).map (ctlPktFill c))) := by
  intro i hi _ _
  have hlen : c.len ≤ ctlPktSize := by
    unfold CtlSeg.len
    split
    · decide
    · decide
  exact pktOf_ctlPkt c (by omega)

/-- Clearing the checksums clears nothing else. -/
theorem CtlSeg.Travels.clear {c : CtlSeg} {p : Nat → UInt8} (h : c.Travels p) :
    c.Travels (put16 (put16 p 10 0) 36 0) := by
  refine h.congr fun i _ hc => ?_
  unfold IsChksum at hc
  rw [put16_out _ _ (by omega), put16_out _ _ (by omega)]

theorem CtlSeg.Travels.blit {c : CtlSeg} {raw : Nat → UInt8} (h : c.Travels raw)
    (p : Nat → UInt8) : c.Travels (blit p 0 raw c.len) := by
  refine h.congr fun i hi _ => ?_
  have hin := @blit_in _ p 0 raw c.len i hi
  rwa [Nat.zero_add] at hin

theorem CtlSeg.Travels.stamp {c : CtlSeg} {p : Nat → UInt8} (h : c.Travels p) (now : UInt32) :
    c.Travels (put32 p 42 now) := by
  intro i hi hc ht
  rw [put32_out _ _ (by omega), h i hi hc ht]

/-- **`deq_handle_ctl_tx` sends the segment that heads the packet queue**, and
the time goes with it when it has the option. -/
theorem deqHandleCtlTx_travels {ctx ctx' : TcpCtx} {cfg : TcpCtlCfg} {c : CtlSeg} {n : Nat}
    (hcfg : ctx.maps.cfg = some cfg)
    (hhead : (ctx.dqueues cfg.slowFastPktQid.toNat).q.head? =
      some (.ctlTxPkt ((List.range ctlPktSize).map (ctlPktFill c))))
    (h : deqHandleCtlTx ctx = (ctx', .ok n)) :
    n = c.len ∧ c.Travels ctx'.pkt ∧
      (c.tsRecent.isSome = true → be32 ctx'.pkt 42 = (tcpNowUs ctx).1) := by
  have hraw := pktOf_ctlPkt_travels c
  generalize hbytes : (List.range ctlPktSize).map (ctlPktFill c) = bytes at hhead hraw
  have hlen : (ipLen (pktOf bytes)).toNat = c.len := by
    unfold ipLen
    rw [hraw.fields.len]
    unfold CtlSeg.len
    split
    · rfl
    · rfl
  -- the data offset says whether the option is there
  have hts : (tcphHdrlen (put16 (put16 (pktOf bytes) 10 0) 36 0) * 4 == tcpHlen + tcpTsOptLen) =
      c.tsRecent.isSome := by
    rw [hraw.clear.hdrlen]
    unfold CtlSeg.hdrWords
    cases c.tsRecent.isSome
    · rfl
    · rfl
  have hpkt := hraw.clear.blit ctx.pkt
  unfold deqHandleCtlTx at h
  simp only [hcfg, hhead] at h
  split at h
  · cases h
  split at h
  · cases h
  split at h
  · cases h
  have hgetD : (fun i => bytes.getD i 0) = pktOf bytes := rfl
  rw [hgetD] at h
  simp only [hts, hlen] at h
  split at h
  · cases h
  cases h
  refine ⟨rfl, ?_, ?_⟩
  · split
    · exact hpkt.stamp _
    · exact hpkt
  · intro hsome
    rw [if_pos hsome]
    exact be32_put32 _ _ _

/-! ## Into the slow path -/

/-- A punt that succeeds queues the header of the packet. -/
theorem rxPuntCtl_items {ctx : TcpCtx} {cfg : TcpCtlCfg} (hcfg : ctx.maps.cfg = some cfg)
    (h : (rxPuntCtl ctx).2 = .ok 0) :
    ∃ rest, ((rxPuntCtl ctx).1.equeues (cfg.fastSlowPktQids ctx.core.toNat).toNat).items =
      (ctx.equeues (cfg.fastSlowPktQids ctx.core.toNat).toNat).items ++
        .ctlRxPkt ((List.range (rxGetHdrlen ctx.pkt).toNat).map ctx.pkt) ctx.core :: rest := by
  unfold rxPuntCtl at h ⊢
  simp only [hcfg] at h ⊢
  generalize hp : (cfg.fastSlowPktQids ctx.core.toNat).toNat = pktQid at h ⊢
  generalize hs : (cfg.fastSlowSigQids ctx.core.toNat).toNat = sigQid at h ⊢
  split at h
  · cases h
  rename_i hcore
  split at h
  · cases h
  rename_i hpktRoom
  split at h
  · cases h
  rename_i hsigRoom
  split at h
  · cases h
  rename_i hlen
  rw [if_neg hcore, if_neg hpktRoom, if_neg hsigRoom, if_neg hlen]
  rw [Bool.not_eq_true', Bool.not_eq_false] at hpktRoom
  rw [Fifo.push_of_room hpktRoom] at h ⊢
  dsimp only at h ⊢
  cases hsig : ((ctx.setQueue pktQid _).equeues sigQid).push .ctlRx with
  | none =>
    rw [hsig] at h
    cases h
  | some q =>
    dsimp only
    by_cases hsame : pktQid = sigQid
    · -- one queue for both: the signal is behind the packet
      subst hsame
      rw [EbpfCtx.setQueue_self, Fifo.push_items hsig, EbpfCtx.setQueue_self]
      exact ⟨[.ctlRx], by simp⟩
    · rw [EbpfCtx.setQueue_ne _ _ hsame, EbpfCtx.setQueue_self]
      exact ⟨[], rfl⟩

/-- What the slow path reads of the header alone is what is in the packet. -/
theorem CtlSeg.Travels.punted {c : CtlSeg} {p : Nat → UInt8} (h : c.Travels p) (core : UInt16) :
    ctlRxParse (pktOf ((List.range (rxGetHdrlen p).toNat).map p)) core = ctlRxParse p core := by
  have hbyte : ∀ i, i < c.len → pktOf ((List.range (rxGetHdrlen p).toNat).map p) i = p i := by
    intro i hi
    rw [h.rxHdrlen]
    unfold pktOf
    rw [List.getD_eq_getElem?_getD, List.getElem?_map, List.getElem?_range hi]
    rfl
  have hmin := c.len_ge
  refine ctlRxParse_congr (fun i hi => hbyte i (by omega)) (fun hwide i hi => hbyte i ?_) core
  have hwords : 32 ≤ c.hdrWords.toNat * 4 := by rwa [h.hdrlen] at hwide
  unfold CtlSeg.hdrWords at hwords
  unfold CtlSeg.len
  split at hwords
  · rename_i hsome
    rw [if_pos hsome]
    omega
  · exact absurd hwords (by decide)

/-- `tcp_event_rx` hands the packet to the slow path unless an established
socket takes it. -/
theorem tcpEventRx_punts {ctx : TcpCtx} {c : CtlSeg} (h : c.Travels ctx.pkt)
    (hdest : rxIsFlagsCtl ctx.pkt = true ∨
      ∀ sid, sockFind ctx = some sid → (sockOf ctx sid).state ≠ .established)
    (hok : (tcpEventRx ctx).2 = .ok 0) : tcpEventRx ctx = rxPuntCtl ctx := by
  unfold tcpEventRx at hok ⊢
  rw [h.isIp] at hok ⊢
  split at hok
  · cases hok
  rename_i hlen
  rw [if_neg hlen]
  by_cases hctl : rxIsFlagsCtl ctx.pkt = true
  · rw [if_neg (by decide), if_pos hctl]
  · rw [if_neg (by decide), if_neg hctl] at hok ⊢
    cases hfind : sockFind ctx with
    | none =>
      rw [hfind] at hok
      cases hok
    | some sid =>
      have hstate := (hdest.resolve_left hctl) sid hfind
      dsimp only
      rw [if_pos hstate]

/-- **A control segment arrives as it was sent.** One slow path sends a
segment, its fast path takes the packet from the queue, the NIC fills in the
checksums, and the other fast path punts it. What the other slow path then
reads is the segment from the other side, with the time at which it was
taken from the queue in its option if it has one. -/
theorem ctl_segment_round_trip {slow : TcpSlowCtx} {c : CtlSeg} {sent : List UInt8}
    {tx tx' rx : TcpCtx} {txCfg rxCfg : TcpCtlCfg} {n : Nat}
    (hsent : CtlSent slow (ctlPktEnqueue slow c) sent)
    (htxCfg : tx.maps.cfg = some txCfg) (hqe : tx.qe = .ctlTx)
    (hhead : (tx.dqueues txCfg.slowFastPktQid.toNat).q.head? = some (.ctlTxPkt sent))
    (hdeq : tcpEventDeq tx = (tx', .ok n))
    (hwire : ∀ i, i < n → ¬ IsChksum i → rx.pkt i = tx'.pkt i)
    (hrxCfg : rx.maps.cfg = some rxCfg)
    (hdest : rxIsFlagsCtl rx.pkt = true ∨
      ∀ sid, sockFind rx = some sid → (sockOf rx sid).state ≠ .established)
    (hrx : (tcpEventRx rx).2 = .ok 0) :
    ∃ bytes rest,
      ((tcpEventRx rx).1.equeues (rxCfg.fastSlowPktQids rx.core.toNat).toNat).items =
        (rx.equeues (rxCfg.fastSlowPktQids rx.core.toNat).toNat).items ++
          .ctlRxPkt bytes rx.core :: rest ∧
      ctlRxParse (pktOf bytes) rx.core = c.arrives rx.core (tcpNowUs tx).1 := by
  obtain rfl := ctlPktEnqueue_sent hsent
  have hctl : deqHandleCtlTx tx = (tx', .ok n) := by
    unfold tcpEventDeq at hdeq
    split at hdeq
    · cases hdeq
    · simpa only [hqe] using hdeq
  obtain ⟨rfl, htravels, htime⟩ := deqHandleCtlTx_travels htxCfg hhead hctl
  have hrxTravels : c.Travels rx.pkt := htravels.congr hwire
  have hpunt := tcpEventRx_punts hrxTravels hdest hrx
  rw [hpunt] at hrx ⊢
  obtain ⟨rest, hitems⟩ := rxPuntCtl_items hrxCfg hrx
  refine ⟨_, rest, hitems, ?_⟩
  rw [hrxTravels.punted, hrxTravels.parse]
  unfold CtlSeg.arrives
  cases hrecent : c.tsRecent with
  | none => simp only [Option.map_none]
  | some tsEcr =>
    have hlen : c.len = 52 := by
      unfold CtlSeg.len
      rw [hrecent]
      rfl
    -- the bytes of the time are not touched on the wire
    have hval : be32 rx.pkt 42 = be32 tx'.pkt 42 :=
      be32_congr fun i _ _ => hwire i (by omega) (by unfold IsChksum; omega)
    rw [hval, htime (by rw [hrecent]; rfl)]

/-- A fast path that is to take the SYN of `connecting` from its queue. -/
def synTaken : TcpCtx :=
  let ctx := oneSockCtx TcpSock.zero 4
  { ctx with
    qe := .ctlTx
    maps :=
      { ctx.maps with
        cfg := some
          { fastSlowSigQids := fun _ => 2, fastSlowPktQids := fun _ => 3, slowFastPktQid := 1 } }
    dqueues := fun _ =>
      { q := { items := [.ctlTxPkt firstSyn], nelems := 4 }, off := 0, elsize := 64, head := 0 } }

/-- The SYN reaches another fast path, with some checksum. -/
def synArriving : TcpCtx := { synTaken with pkt := put16 (tcpEventDeq synTaken).1.pkt 10 0x1234 }

/-- The SYN of `connecting` arrives. -/
theorem ctl_segment_round_trip_syn :
    ∃ bytes rest,
      ((tcpEventRx synArriving).1.equeues 3).items =
        (synArriving.equeues 3).items ++ .ctlRxPkt bytes 0 :: rest ∧
      ctlRxParse (pktOf bytes) 0 =
        (sockCtlSeg (connecting.sock 0) (connecting.sock 0).txSeq tcpSyn).arrives 0
          (tcpNowUs synTaken).1 :=
  @ctl_segment_round_trip connecting _ firstSyn synTaken _ synArriving _ _ 52 firstSyn_sent rfl rfl rfl rfl
    (fun i _ hc => put16_out _ _ (by unfold IsChksum at hc; omega))
    rfl (Or.inl (by decide +kernel)) rfl

end Chamelio.Tcp
