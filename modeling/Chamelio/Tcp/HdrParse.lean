import Chamelio.Tcp.Punt
import Chamelio.Tcp.RxSpec

/-!
# Where the TCP header is

`struct tcp_pkt_inner` puts the TCP header 20 bytes behind the start of the
packet. The header really starts behind the IP header, whose length is a
field of it, and ends where its own data offset says. `rx_get_hdrlen` and
`rx_get_paylen` count with both fields, the accessors with neither. What a
header says is written down here from its real start, and compared with what
`tcp_event_rx`, `sock_find`, `rx_read_ts` and `ctl_rx_parse` read.

Mirroring notes: `hdrAt`, `tsAt`, `sockFindBy` and `ctlParseAt` are no
functions of the source. `sockFindBy` is the body of `sock_find` with the
keys as arguments.
-/

namespace Chamelio.Tcp

open Chamelio.Lib Chamelio.Util Chamelio.Pkt Chamelio.Fast

/-! ## The header from its real start -/

/-- The fields of a TCP header the fast and the slow path use. -/
structure TcpHdr where
  src : UInt16
  dest : UInt16
  seqno : UInt32
  ackno : UInt32
  hdrlen : Nat
  flags : UInt16
  wnd : UInt16

/-- The header that starts at `o`. -/
def hdrAt (p : Nat → UInt8) (o : Nat) : TcpHdr :=
  { src := be16 p o, dest := be16 p (o + 2), seqno := be32 p (o + 4), ackno := be32 p (o + 8)
    hdrlen := (be16 p (o + 12)).toNat / 4096, flags := be16 p (o + 12) &&& 0x1ff
    wnd := be16 p (o + 14) }

/-- The fields as the accessors read them. -/
def hdrRead (p : Nat → UInt8) : TcpHdr :=
  { src := tcpSrc p, dest := tcpDest p, seqno := tcpSeqno p, ackno := tcpAckno p
    hdrlen := tcphHdrlen p, flags := tcphFlags p, wnd := tcpWnd p }

/-- The timestamp option of the header at `o`: its first option, as far as
the header goes. -/
def tsAt (p : Nat → UInt8) (o : Nat) : Option (UInt32 × UInt32) :=
  if (hdrAt p o).hdrlen * 4 < tcpHlen + tcpTsOptLen then none
  else if p (o + 20) ≠ tcpOptTimestamp then none
  else some (be32 p (o + 22), be32 p (o + 26))

/-- What `ctl_rx_parse` is to read. -/
def ctlParseAt (p : Nat → UInt8) (o : Nat) (core : UInt16) : TcpRxCtl :=
  { localIp := ipDst p, remoteIp := ipSrc p, seq := (hdrAt p o).seqno, ack := (hdrAt p o).ackno
    localPort := (hdrAt p o).dest, remotePort := (hdrAt p o).src, wnd := (hdrAt p o).wnd
    flags := (hdrAt p o).flags, core, ts := tsAt p o }

def sockFindBy (ctx : TcpCtx) (lip : UInt32) (lport : UInt16) (rip : UInt32) (rport : UInt16) :
    Option Nat :=
  let hash := sockHash lip lport rip rport % tcpFlowBuckets
  if hash.toNat ≥ ctx.maps.buckNelems then none
  else
    (List.range tcpFlowBucketSlots).findSome? (fun i =>
      sockFindSlot ctx lip lport rip rport (ctx.maps.buckets hash.toNat i))

/-- Where the header starts, and its data offset in words. -/
def tcpStart (p : Nat → UInt8) : Nat := 4 * iphHl p
def dataOffset (p : Nat → UInt8) : Nat := (hdrAt p (tcpStart p)).hdrlen

/-- Where the payload starts, and its length. -/
def payStart (p : Nat → UInt8) : Nat := tcpStart p + 4 * dataOffset p
def payLen (p : Nat → UInt8) : Nat := (ipLen p).toNat - payStart p

/-! ## What parsing in the right place means -/

/-- The packet moves no socket and no byte of shared memory. -/
def Rejects (p : Nat → UInt8) : Prop :=
  ∀ ctx : TcpCtx, ctx.pkt = p →
    (tcpEventRx ctx).1.maps = ctx.maps ∧ (tcpEventRx ctx).1.shm = ctx.shm

/-- The bytes of the payload in front of `rx_seq`. -/
def seenOf (p : Nat → UInt8) (sock : TcpSock) : Nat :=
  let seqno := (hdrAt p (tcpStart p)).seqno
  min (payLen p) (if s32 (seqno - sock.rxSeq) < 0 then (sock.rxSeq - seqno).toNat else 0)

/-- Nothing is stored, or the unseen bytes of the payload, as many as fit. -/
def PayloadRight (p : Nat → UInt8) : Prop :=
  ∀ ctx : TcpCtx, ctx.pkt = p → (tcpEventRx ctx).1.shm = ctx.shm ∨
    ∃ sid n, sockFind ctx = some sid ∧
      n.toNat = min ((sockOf ctx sid).rxLen - (sockOf ctx sid).rxAvail).toNat
        (payLen p - seenOf p (sockOf ctx sid)) ∧
      (tcpEventRx ctx).1.shm = (rxCopyPayload ctx (sockOf ctx sid)
        (payStart p + seenOf p (sockOf ctx sid)) n).shm

/-- Every function reads the header where it is, a header that is too short
or too long for the packet is rejected, and the payload is what follows. -/
structure ParsedRight (p : Nat → UInt8) : Prop where
  fields : hdrRead p = hdrAt p (tcpStart p)
  find : ∀ ctx : TcpCtx, ctx.pkt = p → sockFind ctx = sockFindBy ctx (ipDst p)
    (hdrAt p (tcpStart p)).dest (ipSrc p) (hdrAt p (tcpStart p)).src
  ts : ∀ ctx : TcpCtx, ctx.pkt = p → tcpPktInnerSize + tcpTsOptLen ≤ ctx.pktRoom →
    rxReadTs ctx = tsAt p (tcpStart p)
  parse : ∀ core, ctlRxParse p core = ctlParseAt p (tcpStart p) core
  short : dataOffset p < 5 ∨ (ipLen p).toNat < payStart p → Rejects p
  payload : PayloadRight p

/-- A packet with the same three lengths and the same kind of first option. -/
structure SameShape (p q : Nat → UInt8) : Prop where
  ip : rxIsIp q = true
  ihl : iphHl q = iphHl p
  offset : dataOffset q = dataOffset p
  len : ipLen q = ipLen p
  kind : q (tcpStart q + 20) = p (tcpStart p + 20)

/-- The lengths for which the source reads the header where it is: no IP
options, a data offset of at least five words, a total length that covers the
headers, and no timestamp option in a header that is too short for one. -/
def PlainLengths (p : Nat → UInt8) : Prop :=
  iphHl p = 5 ∧ 5 ≤ dataOffset p ∧ payStart p ≤ (ipLen p).toNat ∧
  (dataOffset p = 6 ∨ dataOffset p = 7 → p (tcpStart p + 20) ≠ tcpOptTimestamp)

/-! ## Without IP options -/

section

variable {p : Nat → UInt8}

theorem tcpStart_plain (h : iphHl p = 5) : tcpStart p = 20 := by
  unfold tcpStart
  omega

/-- The accessors are right about a header at 20. -/
theorem hdrRead_plain (h : iphHl p = 5) : hdrRead p = hdrAt p (tcpStart p) := by
  rw [tcpStart_plain h]
  rfl

theorem dataOffset_plain (h : iphHl p = 5) : dataOffset p = tcphHdrlen p := by
  unfold dataOffset
  rw [← hdrRead_plain h]
  rfl

theorem sockFind_plain (h : iphHl p = 5) {ctx : TcpCtx} (hp : ctx.pkt = p) :
    sockFind ctx = sockFindBy ctx (ipDst p) (hdrAt p (tcpStart p)).dest (ipSrc p)
      (hdrAt p (tcpStart p)).src := by
  rw [← hdrRead_plain h, ← hp]
  rfl

theorem ctlRxParse_plain (h : iphHl p = 5) (core : UInt16) :
    ctlRxParse p core = ctlParseAt p (tcpStart p) core := by
  unfold ctlParseAt tsAt
  rw [← hdrRead_plain h, tcpStart_plain h]
  rfl

theorem dataOffset_lt (p : Nat → UInt8) : dataOffset p < 16 := by
  have h := (be16 p (tcpStart p + 12)).toNat_lt
  unfold dataOffset hdrAt
  dsimp only
  omega

/-- `rx_read_ts` looks for the option behind any header that is longer than
20 bytes. -/
theorem rxReadTs_plain (h : PlainLengths p) {ctx : TcpCtx} (hp : ctx.pkt = p)
    (hroom : tcpPktInnerSize + tcpTsOptLen ≤ ctx.pktRoom) :
    rxReadTs ctx = tsAt p (tcpStart p) := by
  obtain ⟨hihl, hmin, -, hkind⟩ := h
  have hoff := dataOffset_plain hihl
  have hlen : (hdrAt p 20).hdrlen = tcphHdrlen p := rfl
  rw [tcpStart_plain hihl] at hkind
  unfold rxReadTs tsAt
  rw [tcpStart_plain hihl, hp, hlen]
  unfold tcpHlen tcpTsOptLen
  by_cases hshort : tcphHdrlen p * 4 < 20 + 12
  · rw [if_pos hshort]
    by_cases hfive : tcphHdrlen p * 4 ≤ 20
    · rw [if_pos hfive]
    · -- six or seven words: the first option is another one
      have hne := hkind (by omega)
      rw [if_neg hfive, if_neg (by unfold tcpTsOptLen at hroom; omega), if_pos hne]
  · rw [if_neg hshort, if_neg (by omega), if_neg (by unfold tcpTsOptLen at hroom; omega)]

/-- Both lengths are exact. -/
theorem rxGetPaylen_plain (h : PlainLengths p) : (rxGetPaylen p).toNat = payLen p := by
  obtain ⟨hihl, -, hfits, -⟩ := h
  have hoff := dataOffset_plain hihl
  have hlt := dataOffset_lt p
  have hlen := (ipLen p).toNat_lt
  unfold payLen payStart at *
  rw [tcpStart_plain hihl] at hfits ⊢
  unfold rxGetPaylen
  rw [UInt16.toNat_sub, UInt16.toNat_sub, UInt16.toNat_ofNat', UInt16.toNat_ofNat']
  omega

theorem rxGetHdrlen_plain (h : PlainLengths p) : (rxGetHdrlen p).toNat = payStart p := by
  have hoff := dataOffset_plain h.1
  rw [rxGetHdrlen_toNat]
  unfold payStart tcpStart
  omega

theorem rxGetPayloadOverlap_plain (h : PlainLengths p) (sock : TcpSock) :
    (rxGetPayloadOverlap p sock).toNat = seenOf p sock := by
  have hpay := rxGetPaylen_plain h
  have hseq : (hdrAt p (tcpStart p)).seqno = tcpSeqno p := by
    rw [← hdrRead_plain h.1]
    rfl
  unfold rxGetPayloadOverlap seenOf
  rw [hseq]
  dsimp only
  generalize hover : (if s32 (tcpSeqno p - sock.rxSeq) < 0 then sock.rxSeq - tcpSeqno p else 0) =
    behind
  have hnat : (if s32 (tcpSeqno p - sock.rxSeq) < 0 then (sock.rxSeq - tcpSeqno p).toNat else 0) =
      behind.toNat := by
    rw [← hover]
    split <;> rfl
  rw [hnat, ← hpay]
  split
  · next hgt =>
    rw [gt_iff_lt, UInt32.lt_iff_toNat_lt, UInt16.toNat_toUInt32] at hgt
    rw [UInt16.toNat_toUInt32]
    omega
  · next hgt =>
    rw [gt_iff_lt, UInt32.lt_iff_toNat_lt, UInt16.toNat_toUInt32] at hgt
    omega

end

/-! ## What the event stores -/

/-- The receive side of a socket. -/
structure SameRing (s s' : TcpSock) : Prop where
  off : s'.rxOff = s.rxOff
  len : s'.rxLen = s.rxLen
  head : s'.rxHead = s.rxHead
  avail : s'.rxAvail = s.rxAvail
  qid : s'.appBumpQid = s.appBumpQid

theorem SameRing.of_bare {s s' : TcpSock} (h : s'.bare = s.bare) : SameRing s s' :=
  ⟨(congrArg TcpSock.rxOff h :), (congrArg TcpSock.rxLen h :), (congrArg TcpSock.rxHead h :),
    (congrArg TcpSock.rxAvail h :), (congrArg TcpSock.appBumpQid h :)⟩

theorem SameRing.trans {a b c : TcpSock} (h₁ : SameRing a b) (h₂ : SameRing b c) :
    SameRing a c :=
  ⟨h₂.off.trans h₁.off, h₂.len.trans h₁.len, h₂.head.trans h₁.head, h₂.avail.trans h₁.avail,
    h₂.qid.trans h₁.qid⟩

theorem sameRing_acked (p : Nat → UInt8) (s : TcpSock) : SameRing s (ackedSock p s) := by
  unfold ackedSock rxSockBumpAck tcpSockRecoveryAck
  dsimp only
  split
  · split
    · split <;> exact ⟨rfl, rfl, rfl, rfl, rfl⟩
    · exact ⟨rfl, rfl, rfl, rfl, rfl⟩
  · exact ⟨rfl, rfl, rfl, rfl, rfl⟩

theorem sameRing_rewound (s : TcpSock) : SameRing s (rewoundSock s) := by
  unfold rewoundSock tcpSockRecoveryEnter
  dsimp only
  split <;> exact ⟨rfl, rfl, rfl, rfl, rfl⟩

/-- The copy depends on the packet, the memory and the ring. -/
theorem rxCopyPayload_congr {ctx c : TcpCtx} {s s' : TcpSock} (hpkt : c.pkt = ctx.pkt)
    (hshm : c.shm = ctx.shm) (h : SameRing s s') (src : Nat) (n : UInt32) :
    (rxCopyPayload c s' src n).shm = (rxCopyPayload ctx s src n).shm := by
  unfold rxCopyPayload
  rw [h.off, h.len, h.head, h.avail, hpkt, hshm]
  dsimp only
  split <;> rfl

theorem rxGetRxBump_congr {s s' : TcpSock} (h : SameRing s s') (paylen : UInt32) :
    rxGetRxBump s' paylen = rxGetRxBump s paylen := by
  unfold rxGetRxBump
  rw [h.len, h.avail]

/-- What a segment of an established connection stores: nothing, or the bytes
behind the header and the overlap. -/
def Stores (ctx ctx' : TcpCtx) (sid : Nat) : Prop :=
  ctx'.shm = ctx.shm ∨
  ctx'.shm = (rxCopyPayload ctx (sockOf ctx sid)
    ((rxGetHdrlen ctx.pkt).toNat + (rxGetPayloadOverlap ctx.pkt (sockOf ctx sid)).toNat)
    (rxGetRxBump (sockOf ctx sid) ((rxGetPaylen ctx.pkt).toUInt32 -
      rxGetPayloadOverlap ctx.pkt (sockOf ctx sid)))).shm

theorem delivered_shm (ctx : TcpCtx) (sid src : Nat) (b : UInt32) (q : Fifo TcpQe) :
    (delivered ctx sid src b q).shm = (rxCopyPayload ctx (sockOf ctx sid) src b).shm := by
  unfold delivered
  generalize rxCopyPayload ctx (sockOf ctx sid) src b = c
  rfl

theorem rxSegment_stored (ctx : TcpCtx) (sid : Nat) :
    Stores ctx (rxSegment ctx sid (rxGetHdrlen ctx.pkt)).1 sid := by
  rcases rxSegment_spec ctx sid (rxGetHdrlen ctx.pkt) with
    ⟨ctx₁, heq, -, hq⟩ | ⟨ctx₁, s₁, q, fr, hs₁, -, hpkt, hq, heq⟩
  · rw [heq]
    exact .inl hq.shm
  · have hshm : ctx₁.shm = ctx.shm := hq.shm
    have hacked := sameRing_acked ctx.pkt (sockOf ctx sid)
    have hfirst : SameRing (sockOf ctx sid) s₁ := by
      rcases hs₁ with hs₁ | ⟨-, hs₁⟩
      · rw [hs₁]
        exact hacked
      · rw [hs₁]
        exact hacked.trans (sameRing_rewound _)
    have hring : SameRing (sockOf ctx sid) (sockOf ctx₁ sid) := by
      have hbare := hq.socks sid
      rw [sockOf_withSockQueue] at hbare
      exact hfirst.trans (SameRing.of_bare hbare)
    rw [heq]
    split
    · exact .inl hshm
    · have hover : (rxAckStage ctx sid).2.overlap =
        rxGetPayloadOverlap ctx.pkt (sockOf ctx sid) := rfl
      generalize (rxAckStage ctx sid).2 = v at hover
      have hbump : rxGetRxBump (sockOf ctx₁ sid) ((rxGetPaylen ctx₁.pkt).toUInt32 - v.overlap) =
          rxGetRxBump (sockOf ctx sid) ((rxGetPaylen ctx.pkt).toUInt32 -
            rxGetPayloadOverlap ctx.pkt (sockOf ctx sid)) := by
        rw [hpkt, hover]
        exact rxGetRxBump_congr hring _
      unfold Stores
      generalize rxGetRxBump (sockOf ctx sid) _ = b at hbump ⊢
      rw [← hover]
      have hcopy := rxCopyPayload_congr hpkt hshm hring
        ((rxGetHdrlen ctx.pkt).toNat + v.overlap.toNat) b
      rcases rxPayload_spec ctx₁ sid v (rxGetHdrlen ctx.pkt) fr hbump with
        ⟨hquiet, -, -⟩ | ⟨-, -, -, ⟨q', -, hquiet, -⟩ | ⟨-, -, hctx⟩⟩
      · exact .inl (hquiet.shm.trans hshm)
      · right
        rw [hquiet.shm, delivered_shm]
        exact hcopy
      · right
        rw [hctx, setSock_shm]
        exact hcopy

theorem rxEstablished_stored (ctx : TcpCtx) (sid : Nat) :
    Stores ctx (rxEstablished ctx sid).1 sid := by
  have hmark := quiet_rxMarkCe ctx sid
  have hring := SameRing.of_bare (hmark.socks sid)
  have hpkt := rxMarkCe_pkt ctx sid
  have hover : rxGetPayloadOverlap ctx.pkt (sockOf (rxMarkCe ctx sid) sid) =
      rxGetPayloadOverlap ctx.pkt (sockOf ctx sid) := by
    have hseq : (sockOf (rxMarkCe ctx sid) sid).rxSeq = (sockOf ctx sid).rxSeq :=
      (congrArg TcpSock.rxSeq (hmark.socks sid) :)
    unfold rxGetPayloadOverlap
    rw [hseq]
  unfold rxEstablished
  dsimp only
  split
  · exact .inl ((quiet_txFillAck _ sid).shm.trans hmark.shm)
  · rcases rxSegment_stored (rxMarkCe ctx sid) sid with hsame | hstore
    · exact .inl (hsame.trans hmark.shm)
    · right
      rw [hstore, hpkt, hover, rxGetRxBump_congr hring]
      exact rxCopyPayload_congr hpkt hmark.shm hring _ _

theorem rxPuntCtl_shm (ctx : TcpCtx) : (rxPuntCtl ctx).1.shm = ctx.shm := by
  rw [(rxPuntCtl_frame ctx).1]

/-- **What `tcp_event_rx` stores**, whatever the packet. -/
theorem tcpEventRx_stored (ctx : TcpCtx) : (tcpEventRx ctx).1.shm = ctx.shm ∨
    ∃ sid, sockFind ctx = some sid ∧ Stores ctx (tcpEventRx ctx).1 sid := by
  unfold tcpEventRx
  split
  · exact .inl rfl
  · split
    · exact .inl rfl
    · split
      · exact .inl (rxPuntCtl_shm ctx)
      · cases hfind : sockFind ctx with
        | none => exact .inl rfl
        | some sid =>
          dsimp only
          split
          · exact .inl (rxPuntCtl_shm ctx)
          · exact .inr ⟨sid, rfl, rxEstablished_stored ctx sid⟩

/-- With plain lengths that is the unseen part of the payload. -/
theorem payloadRight_plain {p : Nat → UInt8} (h : PlainLengths p) : PayloadRight p := by
  intro ctx hp
  rcases tcpEventRx_stored ctx with hsame | ⟨sid, hfind, hsame | hstore⟩
  · exact .inl hsame
  · exact .inl hsame
  · rw [hp] at hstore
    have hover := rxGetPayloadOverlap_plain h (sockOf ctx sid)
    have hle : seenOf p (sockOf ctx sid) ≤ payLen p := Nat.min_le_left _ _
    have hnew : ((rxGetPaylen p).toUInt32 - rxGetPayloadOverlap p (sockOf ctx sid)).toNat =
        payLen p - seenOf p (sockOf ctx sid) := by
      have hlt := (rxGetPaylen p).toNat_lt
      have hpay := rxGetPaylen_plain h
      rw [UInt32.toNat_sub_of_le _ _ (by
        rw [UInt32.le_iff_toNat_le, UInt16.toNat_toUInt32]
        omega), UInt16.toNat_toUInt32]
      omega
    rw [rxGetHdrlen_plain h, hover] at hstore
    refine .inr ⟨sid, _, hfind, ?_, hstore⟩
    rw [← hnew]
    unfold rxGetRxBump
    dsimp only
    split
    · next hlt =>
      rw [UInt32.lt_iff_toNat_lt] at hlt
      omega
    · next hlt =>
      rw [UInt32.lt_iff_toNat_lt] at hlt
      omega

/-- **Plain lengths are parsed right.** -/
theorem parsedRight_plain {p : Nat → UInt8} (h : PlainLengths p) : ParsedRight p := by
  refine ⟨hdrRead_plain h.1, fun ctx hp => sockFind_plain h.1 hp,
    fun ctx hp hroom => rxReadTs_plain h hp hroom, ctlRxParse_plain h.1, ?_, payloadRight_plain h⟩
  obtain ⟨-, hmin, hfits, -⟩ := h
  intro hshort
  omega

/-! ## IP options -/

theorem be16_high {p q : Nat → UInt8} {o o' : Nat} (h : be16 p o = be16 q o') : p o = q o' := by
  have hval := congrArg UInt16.toNat h
  unfold be16 at hval
  rw [UInt16.toNat_ofNat', UInt16.toNat_ofNat'] at hval
  have h₁ := (p o).toNat_lt
  have h₂ := (p (o + 1)).toNat_lt
  have h₃ := (q o').toNat_lt
  have h₄ := (q (o' + 1)).toNat_lt
  exact UInt8.toNat_inj.mp (by omega)

/-- The packet with another byte at 20. -/
def flipSrc (p : Nat → UInt8) : Nat → UInt8 :=
  fun i => if i = 20 then p (tcpStart p) + 1 else p i

theorem iphHl_ge {p : Nat → UInt8} (hip : rxIsIp p = true) : 5 ≤ iphHl p := by
  unfold rxIsIp at hip
  simp only [Bool.and_eq_true, decide_eq_true_eq] at hip
  exact hip.1.2

theorem flipSrc_shape {p : Nat → UInt8} (hip : rxIsIp p = true) (h : iphHl p ≠ 5) :
    SameShape p (flipSrc p) := by
  have hge := iphHl_ge hip
  have hstart : tcpStart (flipSrc p) = tcpStart p := rfl
  have hfar : 24 ≤ tcpStart p := by
    unfold tcpStart
    omega
  have hother : ∀ i, i ≠ 20 → flipSrc p i = p i := fun i hi => if_neg hi
  refine ⟨hip, rfl, ?_, rfl, ?_⟩
  · unfold dataOffset hdrAt
    dsimp only
    rw [hstart, be16_congr (q := p) fun i hi _ => hother i (by omega)]
  · rw [hstart, hother _ (by omega)]

/-- With IP options the port read at 20 need not be the header's. -/
theorem not_parsedRight_options {p : Nat → UInt8} (hip : rxIsIp p = true) (h : iphHl p ≠ 5) :
    ¬ ParsedRight (flipSrc p) := by
  intro hright
  have hge := iphHl_ge hip
  have hsrc : be16 (flipSrc p) 20 = be16 (flipSrc p) (tcpStart p) :=
    congrArg TcpHdr.src hright.fields
  have hhigh := be16_high hsrc
  unfold flipSrc at hhigh
  rw [if_pos rfl, if_neg (by unfold tcpStart; omega)] at hhigh
  have hlt := (p (tcpStart p)).toNat_lt
  have hval := congrArg UInt8.toNat hhigh
  rw [UInt8.toNat_add, show (1 : UInt8).toNat = 1 from rfl] at hval
  omega

/-! ## Lengths that do not fit -/

/-- A segment of the same shape without flags, from port 0 to port 0, which
announces a window of one byte. -/
def probeSegment (p : Nat → UInt8) : Nat → UInt8 := fun i =>
  if i = 0 ∨ i = 2 ∨ i = 3 ∨ i = 9 ∨ i = 40 then p i
  else if i = 32 then UInt8.ofNat (dataOffset p * 16)
  else if i = 35 then 1
  else 0

/-- An established socket with all keys zero and no ring, and the probe. -/
def probeCtx (p : Nat → UInt8) : TcpCtx :=
  { oneSockCtx { TcpSock.zero with state := .established } 4 with pkt := probeSegment p }

theorem probe_offset (p : Nat → UInt8) :
    (be16 (probeSegment p) 32).toNat = dataOffset p * 4096 := by
  have hlt := dataOffset_lt p
  have h₁ : probeSegment p 32 = UInt8.ofNat (dataOffset p * 16) := rfl
  have h₂ : probeSegment p 33 = 0 := rfl
  unfold be16
  rw [h₁, h₂, UInt16.toNat_ofNat', UInt8.toNat_ofNat']
  simp only [UInt8.toNat_zero]
  omega

theorem probe_shape {p : Nat → UInt8} (hip : rxIsIp p = true) (h : iphHl p = 5) :
    SameShape p (probeSegment p) := by
  have hstart : tcpStart (probeSegment p) = 20 :=
    tcpStart_plain (show iphHl (probeSegment p) = 5 from h)
  refine ⟨hip, rfl, ?_, rfl, ?_⟩
  · have hoff : dataOffset (probeSegment p) = (be16 (probeSegment p) 32).toNat / 4096 := by
      unfold dataOffset
      rw [hstart]
      rfl
    rw [hoff, probe_offset]
    omega
  · rw [hstart, tcpStart_plain h]
    rfl

theorem probe_flags (p : Nat → UInt8) : tcphFlags (probeSegment p) = 0 := by
  have hlt := dataOffset_lt p
  have hval := probe_offset p
  apply UInt16.toNat_inj.mp
  unfold tcphFlags
  rw [UInt16.toNat_and, hval, show (0x1ff : UInt16).toNat = 2 ^ 9 - 1 from rfl,
    Nat.and_two_pow_sub_one_eq_mod]
  show dataOffset p * 4096 % 512 = 0
  omega

theorem probe_zero (p : Nat → UInt8) {i : Nat} (h : 10 ≤ i ∧ i < 32 ∨ i = 34) :
    probeSegment p i = 0 := by
  unfold probeSegment
  rw [if_neg (by omega), if_neg (by omega), if_neg (by omega)]

theorem probe_keys (p : Nat → UInt8) : ipSrc (probeSegment p) = 0 ∧ ipDst (probeSegment p) = 0 ∧
    tcpSrc (probeSegment p) = 0 ∧ tcpDest (probeSegment p) = 0 := by
  unfold ipSrc ipDst tcpSrc tcpDest be32 be16
  simp [probe_zero]

theorem probe_wnd (p : Nat → UInt8) : tcpWnd (probeSegment p) = 1 := by
  have h₁ : probeSegment p 35 = 1 := rfl
  unfold tcpWnd be16
  rw [probe_zero p (.inr rfl), h₁]
  rfl

/-- The probe reaches the socket. -/
theorem probe_accepted {p : Nat → UInt8} (hip : rxIsIp p = true) :
    Accepted (probeCtx p) 0 := by
  refine ⟨rfl, hip, ?_, ?_, rfl⟩
  · show rxIsFlagsCtl (probeSegment p) = false
    unfold rxIsFlagsCtl
    rw [probe_flags]
    rfl
  · -- all keys are zero, so the bucket does not matter
    have hpkt : (probeCtx p).pkt = probeSegment p := rfl
    obtain ⟨h₁, h₂, h₃, h₄⟩ := probe_keys p
    have hslot : sockFindSlot (probeCtx p) 0 0 0 0 0 = some 0 := rfl
    have hbuckets : (probeCtx p).maps.buckets = fun _ _ => 0 := rfl
    have hnelems : (probeCtx p).maps.buckNelems = 4096 := rfl
    unfold sockFind
    rw [hpkt, h₁, h₂, h₃, h₄, hbuckets, hnelems]
    dsimp only
    rw [if_neg (by decide), hslot]
    rfl

/-- The event takes the window over, whatever the lengths say. -/
theorem probe_moves {p : Nat → UInt8} (hip : rxIsIp p = true) :
    (sockOf (tcpEventRx (probeCtx p)).1 0).txRemoteAvail = 1 := by
  have hpkt : (probeCtx p).pkt = probeSegment p := rfl
  have hnoack : rxIsAck (probeSegment p) = false := by
    unfold rxIsAck
    rw [probe_flags]
    rfl
  have hval : isPaylenValid (probeCtx p) (rxGetHdrlen (probeSegment p)) 0 = true := by
    have hl := rxGetHdrlen_toNat (probeSegment p)
    have h₁ : iphHl (probeSegment p) < 16 := Nat.mod_lt _ (by decide)
    have h₂ : tcphHdrlen (probeSegment p) < 16 := by
      have := (be16 (probeSegment p) 32).toNat_lt
      unfold tcphHdrlen
      omega
    unfold isPaylenValid
    rw [decide_eq_true_eq, UInt32.toNat_toUInt16]
    have hroom : (probeCtx p).pktRoom = fastL3PktRoom := rfl
    have hzero : (0 : UInt32).toUInt16.toNat = 0 := rfl
    have hbig : 120 ≤ fastL3PktRoom := by decide
    rw [hroom, hzero]
    omega
  have hacked : ackedSock (probeSegment p) (sockOf (probeCtx p) 0) =
      { sockOf (probeCtx p) 0 with txRemoteAvail := 1 } := by
    unfold ackedSock
    rw [hnoack, probe_wnd]
    rfl
  rw [(probe_accepted hip).segment rfl hval]
  rcases rxSegment_spec (probeCtx p) 0 (rxGetHdrlen (probeSegment p)) with
    ⟨ctx₁, -, hfull, -⟩ | ⟨ctx₁, s₁, q, fr, hs₁, -, -, hq, heq⟩
  · cases hfull
  · have hs : s₁ = { sockOf (probeCtx p) 0 with txRemoteAvail := 1 } := by
      rcases hs₁ with hs₁ | ⟨hack, -⟩
      · rw [hs₁]
        exact hacked
      · rw [hpkt, hnoack] at hack
        cases hack
    have hbare := hq.socks 0
    rw [sockOf_withSockQueue, hs] at hbare
    have hwnd : (sockOf ctx₁ 0).txRemoteAvail = 1 := (congrArg TcpSock.txRemoteAvail hbare :)
    have hring : rxGetRxBump (sockOf ctx₁ 0) ((rxGetPaylen ctx₁.pkt).toUInt32 -
        (rxAckStage (probeCtx p) 0).2.overlap) = 0 := by
      have hlen : (sockOf ctx₁ 0).rxLen = 0 := (congrArg TcpSock.rxLen hbare :)
      have havail : (sockOf ctx₁ 0).rxAvail = 0 := (congrArg TcpSock.rxAvail hbare :)
      unfold rxGetRxBump
      rw [hlen, havail]
      dsimp only
      split
      · rfl
      · next hge =>
        rw [UInt32.lt_iff_toNat_lt] at hge
        apply UInt32.toNat_inj.mp
        simp only [UInt32.sub_self, UInt32.toNat_zero] at hge ⊢
        omega
    rw [hpkt, heq]
    split
    · exact hwnd
    · generalize (rxAckStage (probeCtx p) 0).2 = v at hring
      rcases rxPayload_spec ctx₁ 0 v (rxGetHdrlen (probeSegment p)) fr hring with
        ⟨hquiet, -, -⟩ | ⟨hpos, -⟩
      · have hsame : (sockOf (rxPayload ctx₁ 0 v (rxGetHdrlen (probeSegment p)) fr).1
            0).txRemoteAvail = (sockOf ctx₁ 0).txRemoteAvail :=
          (congrArg TcpSock.txRemoteAvail (hquiet.socks 0) :)
        exact hsame.trans hwnd
      · exact absurd hpos (by decide)

/-- Lengths that do not fit are not rejected. -/
theorem not_parsedRight_short {p : Nat → UInt8} (hip : rxIsIp p = true) (h : iphHl p = 5)
    (hshort : dataOffset p < 5 ∨ (ipLen p).toNat < payStart p) :
    ¬ ParsedRight (probeSegment p) := by
  intro hright
  have hshape := probe_shape hip h
  have hstart : payStart (probeSegment p) = payStart p := by
    unfold payStart tcpStart
    rw [hshape.ihl, hshape.offset]
  have hrej := (hright.short (by rw [hshape.offset, hshape.len, hstart]; exact hshort)
    (probeCtx p) rfl).1
  have hmoves := probe_moves hip
  unfold sockOf at hmoves
  rw [hrej] at hmoves
  cases hmoves

/-! ## A timestamp that does not fit -/

theorem not_parsedRight_timestamp {p : Nat → UInt8} (h : iphHl p = 5)
    (hoff : dataOffset p = 6 ∨ dataOffset p = 7)
    (hkind : p (tcpStart p + 20) = tcpOptTimestamp) : ¬ ParsedRight p := by
  intro hright
  have hts := hright.ts { probeCtx p with pkt := p } rfl (by
    show tcpPktInnerSize + tcpTsOptLen ≤ fastL3PktRoom
    decide)
  have hlen := dataOffset_plain h
  have hhdr : (hdrAt p (tcpStart p)).hdrlen = dataOffset p := rfl
  rw [tcpStart_plain h] at hkind
  unfold rxReadTs tsAt at hts
  rw [hhdr] at hts
  unfold tcpHlen tcpTsOptLen at hts
  dsimp only at hts
  rw [if_neg (by omega), if_neg (by
    show ¬ fastL3PktRoom < tcpPktInnerSize + 12
    decide), if_neg (by rw [hkind]; simp), if_pos (by omega)] at hts
  cases hts

/-! ## The exact condition -/

/-- **TCP headers are parsed where they are** exactly for plain lengths: of
all packets with the lengths of a packet of the fast path, each is parsed
right if these are plain, and otherwise some are not. -/
theorem tcp_header_parsed_right_iff {p : Nat → UInt8} (hip : rxIsIp p = true) :
    (∀ q, SameShape p q → ParsedRight q) ↔ PlainLengths p := by
  constructor
  · intro hall
    have hself : SameShape p p := ⟨hip, rfl, rfl, rfl, rfl⟩
    have hihl : iphHl p = 5 := Classical.byContradiction fun hne =>
      not_parsedRight_options hip hne (hall _ (flipSrc_shape hip hne))
    have hfits : ¬ (dataOffset p < 5 ∨ (ipLen p).toNat < payStart p) := fun hshort =>
      not_parsedRight_short hip hihl hshort (hall _ (probe_shape hip hihl))
    refine ⟨hihl, by omega, by omega, ?_⟩
    intro hoff hkind
    exact not_parsedRight_timestamp hihl hoff hkind (hall p hself)
  · rintro ⟨hihl, hmin, hfits, hkind⟩ q hq
    have hstart : payStart q = payStart p := by
      unfold payStart tcpStart
      rw [hq.ihl, hq.offset]
    refine parsedRight_plain ⟨hq.ihl.trans hihl, ?_, ?_, ?_⟩
    · rw [hq.offset]
      exact hmin
    · rw [hstart, hq.len]
      exact hfits
    · rw [hq.offset, hq.kind]
      exact hkind

/-- A packet of `len` bytes whose first byte is `verIhl`, whose byte at 20 is
one, and whose data offset is in the byte `off` wherever the header starts. -/
def shapedSegment (verIhl len off : UInt8) : Nat → UInt8 := fun i =>
  if i = 0 then verIhl
  else if i = 3 then len
  else if i = 9 then ipProtoTcp
  else if i = 20 then 1
  else if i = 32 ∨ i = 36 then off
  else 0

theorem tcp_header_parsed_right_plain : ParsedRight (shapedSegment 0x45 60 0x50) := by
  have hplain : PlainLengths (shapedSegment 0x45 60 0x50) :=
    ⟨by decide, by decide, by decide, by decide⟩
  have hip : rxIsIp (shapedSegment 0x45 60 0x50) = true := by decide
  exact (tcp_header_parsed_right_iff hip).mpr hplain _ ⟨hip, rfl, rfl, rfl, rfl⟩

/-- One word of IP options, a data offset of four words, and a total length
of 30 bytes for headers of 40. -/
theorem tcp_header_misparsed :
    (rxIsIp (shapedSegment 0x46 60 0x50) = true ∧ ¬ ParsedRight (shapedSegment 0x46 60 0x50)) ∧
    (rxIsIp (probeSegment (shapedSegment 0x45 60 0x40)) = true ∧
      ¬ ParsedRight (probeSegment (shapedSegment 0x45 60 0x40))) ∧
    (rxIsIp (probeSegment (shapedSegment 0x45 30 0x50)) = true ∧
      ¬ ParsedRight (probeSegment (shapedSegment 0x45 30 0x50))) := by
  refine ⟨⟨by decide, fun h => ?_⟩, ⟨by decide, ?_⟩, ⟨by decide, ?_⟩⟩
  · -- port 256 is read where the header says 0
    have hsrc := congrArg TcpHdr.src h.fields
    exact absurd hsrc (by decide)
  · exact not_parsedRight_short (by decide) (by decide) (by decide)
  · exact not_parsedRight_short (by decide) (by decide) (by decide)

end Chamelio.Tcp
