import Chamelio.Tcp.RxInv

/-!
# Receive stream delivery

What every run of the receive side returns to the application. A run is
any sequence of steps on segments of the peer; the bytes it returned are
read off its log.

`tcp_recvfrom` keeps its length in an `int`. With a ring of 2³¹ bytes, all
of them available, a large enough request turns that length negative: this
is the one way a run can go wrong.
-/

namespace Chamelio.Tcp

open Chamelio.Lib Chamelio.Util Chamelio.Pkt Chamelio.Fast

/-! ## Every run -/

/-- The connection with the number of bytes it accepted from the peer, which
the socket itself only keeps modulo 2³². -/
structure RxConn where
  conn : Conn
  pos : Nat

def RxConn.step (g : ConnId) (s : RxConn) (a : Act) : RxConn × Out :=
  let res := s.conn.step g a
  let moved := (sockOf res.1.fast g.sid).rxSeq - (sockOf s.conn.fast g.sid).rxSeq
  ({ conn := res.1, pos := s.pos + moved.toNat }, res.2)

/-- The steps of a receiver: no bytes are written, and every packet is a
segment of the peer whose bumps find a free slot. -/
def RxOk (S : Nat → UInt8) (irs : UInt32) (s : RxConn) : Act → Prop
  | .sendto _ _ => False
  | .rx b => PeerSegment S irs s.pos b ∧ NoBumpFail s.conn (.rx b)
  | _ => True

/-- What a read settles on is a positive `int`. -/
def RecvFits (g : ConnId) (s : RxConn) : Act → Prop
  | .recvfrom len _ => (recvLen (libSock g s.conn.lib) len).toNat < 2147483648
  | _ => True

/-- The bytes a step returned to the application: as many as the return
value of `tcp_recvfrom` says. -/
def Out.received : Out → List UInt8
  | .recv (.ret n bytes) => bytes.take n.toNat
  | _ => []

/-- All bytes returned so far. -/
def received (log : List Out) : List UInt8 := log.flatMap Out.received

/-- **The counters agree**: what the socket counts as available is in
exactly one place, and the heads differ by what was consumed and not yet
freed. -/
structure RxConserved (g : ConnId) (s : Conn) : Prop where
  total : (sockOf s.fast g.sid).rxAvail.toNat =
    (libSock g s.lib).rxAvail.toNat + (s.fast.equeues g.appBumpQid.toNat).sum appRxAmount +
      (libSock g s.lib).rxBumpPending.toNat + (outQueue g s.lib).sum chamRxAmount
  bound : (sockOf s.fast g.sid).rxAvail.toNat ≤ g.rxLen.toNat
  head : (libSock g s.lib).rxHead.toNat = ((sockOf s.fast g.sid).rxHead.toNat +
    (libSock g s.lib).rxBumpPending.toNat + (outQueue g s.lib).sum chamRxAmount) % g.rxLen.toNat

/-- The counters agree, no read copied a negative length, and the bytes
returned are a prefix of the peer's stream. -/
structure RxDelivers (g : ConnId) (S : Nat → UInt8) (log : List Out) (s : Conn) : Prop where
  conserved : RxConserved g s
  sound : ∀ out ∈ log, out ≠ .recv .fault
  inOrder : received log = (List.range (received log).length).map S

theorem RxInv.conserved {g : ConnId} {S : Nat → UInt8} {irs : UInt32} {N D C : Nat} {s : Conn}
    (h : RxInv g S irs N D C s) : RxConserved g s := by
  have hlib := h.libAvail
  have hfreed := h.freed
  have hav := h.avail
  refine ⟨by omega, h.fit, ?_⟩
  rw [h.libHead, h.head, Nat.add_assoc, Nat.mod_add_mod]
  congr 1
  omega

/-- A freshly established connection: nothing received, nothing in flight. -/
structure RxInit (g : ConnId) (s : Conn) : Prop where
  lenPos : 0 < g.rxLen.toNat
  lenBound : g.rxLen.toNat ≤ 2147483648
  fast : FastOwns g s.fast
  lib : LibOwns g s.lib
  rxLen : (libSock g s.lib).rxLen = g.rxLen
  rxBuf : (libSock g s.lib).rxBuf = g.rxOff
  sockAt : s.lib.sockAt g.opaquePtr = some g.fd
  rx : (sockOf s.fast g.sid).rxAvail = 0 ∧ (sockOf s.fast g.sid).rxHead = 0
  libRx : (libSock g s.lib).rxAvail = 0 ∧ (libSock g s.lib).rxHead = 0
  pending : (libSock g s.lib).rxBumpPending = 0
  out : (outQueue g s.lib).items = []
  app : (s.fast.equeues g.appBumpQid.toNat).items = []

theorem RxInit.inv {g : ConnId} {s : Conn} (h : RxInit g s) (S : Nat → UInt8) :
    RxInv g S (sockOf s.fast g.sid).rxSeq 0 0 0 s := by
  have hout : (outQueue g s.lib).sum chamRxAmount = 0 := by
    unfold Fifo.sum
    rw [h.out]
    rfl
  have happ : (s.fast.equeues g.appBumpQid.toNat).sum appRxAmount = 0 := by
    unfold Fifo.sum
    rw [h.app]
    rfl
  refine ⟨h.lenPos, h.lenBound, h.fast, h.lib, h.rxLen, h.rxBuf, h.sockAt, ?_, ?_, ?_, ?_, ?_, ?_,
    ?_, ?_, ?_, ?_⟩
  · rw [h.out]
    exact fun e he => absurd he (by simp)
  · rw [h.app]
    exact fun e he => absurd he (by simp)
  · rw [serial_zero]
  · rw [h.rx.2, Nat.zero_mod]
    rfl
  · rw [h.rx.1]
    rfl
  · rw [h.rx.1]
    exact Nat.zero_le _
  · rw [h.libRx.2, Nat.zero_mod]
    rfl
  · rw [h.libRx.1, happ]
    rfl
  · rw [h.pending, hout]
    rfl
  · intro o _ hhi
    exact absurd hhi (Nat.not_lt_zero o)

/-- The position follows the invariant. -/
theorem RxConn.pos_step {g : ConnId} {S : Nat → UInt8} {irs : UInt32} {n D C D' C' : Nat}
    {s : RxConn} {a : Act} (h : RxInv g S irs s.pos D C s.conn) (hn : n < 4294967296)
    (h' : RxInv g S irs (s.pos + n) D' C' (s.conn.step g a).1) :
    (s.step g a).1.pos = s.pos + n := by
  show s.pos + ((sockOf (s.conn.step g a).1.fast g.sid).rxSeq -
    (sockOf s.conn.fast g.sid).rxSeq).toNat = _
  rw [h'.seq, h.seq, serial_sub hn]

theorem RxConn.step_pos {g : ConnId} {S : Nat → UInt8} {irs : UInt32} {n D C D' C' : Nat}
    {s : RxConn} {a : Act} (h : RxInv g S irs s.pos D C s.conn) (hn : n < 4294967296)
    (h' : RxInv g S irs (s.pos + n) D' C' (s.conn.step g a).1) :
    RxInv g S irs (s.step g a).1.pos D' C' (s.step g a).1.conn := by
  rw [RxConn.pos_step h hn h']
  exact h'

/-- One step keeps the invariant and returns the next bytes of the stream. -/
theorem rxStep {g : ConnId} {S : Nat → UInt8} {irs : UInt32} {D C : Nat} {s : RxConn} {a : Act}
    (h : RxInv g S irs s.pos D C s.conn) (hok : RxOk S irs s a) (hfits : RecvFits g s a) :
    (s.step g a).2 ≠ .recv .fault ∧
    ∃ n C', (s.step g a).2.received = (List.range n).map (fun i => S (D + i)) ∧
      RxInv g S irs (s.step g a).1.pos (D + n) C' (s.step g a).1.conn := by
  -- every step but a read returns nothing and a received segment moves the position
  have hquiet : ∀ C', RxInv g S irs (s.pos + 0) D C' (s.conn.step g a).1 →
      RxInv g S irs (s.step g a).1.pos (D + 0) C' (s.step g a).1.conn :=
    fun C' h' => RxConn.step_pos h (by omega) h'
  cases a with
  | sendto buf addr => exact absurd hok id
  | recvfrom len addrOk =>
    rcases h.recvfrom len addrOk hfits with ⟨hret, hinv⟩ | ⟨n, hret, hinv⟩
    · refine ⟨?_, 0, C, ?_, hquiet C hinv⟩
      · show Out.recv (tcpRecvfrom _ _ _ _ _ _).2 ≠ _
        rw [hret]
        simp
      · show Out.received (.recv (tcpRecvfrom _ _ _ _ _ _).2) = _
        rw [hret]
        rfl
    · refine ⟨?_, n, C, ?_, RxConn.step_pos h (n := 0) (by omega) hinv⟩
      · show Out.recv (tcpRecvfrom _ _ _ _ _ _).2 ≠ _
        rw [hret]
        simp
      · show Out.received (.recv (tcpRecvfrom _ _ _ _ _ _).2) = _
        rw [hret]
        show List.take (n : Int).toNat _ = _
        rw [Int.toNat_natCast, List.take_of_length_le (by simp)]
  | flush => exact ⟨by rintro ⟨⟩, 0, C, rfl, hquiet C (h.flushed (tcpFlushBumps_flushed h.owns))⟩
  | poll => exact ⟨by rintro ⟨⟩, 0, C, rfl, hquiet C h.poll⟩
  | deq b qeOff =>
    obtain ⟨C', hinv⟩ := h.deq b qeOff
    exact ⟨by rintro ⟨⟩, 0, C', rfl, hquiet C' hinv⟩
  | retransmit b sockId txSeq txPending qeOff =>
    exact ⟨by rintro ⟨⟩, 0, C, rfl,
      hquiet C (h.same (h.retransmit b sockId txSeq txPending qeOff))⟩
  | sched b => exact ⟨by rintro ⟨⟩, 0, C, rfl, hquiet C (h.same (h.sched b))⟩
  | rx b =>
    obtain ⟨n, hn, hinv⟩ := h.rx hok.1 hok.2
    exact ⟨by rintro ⟨⟩, 0, C, rfl, RxConn.step_pos h hn hinv⟩

/-- **Receive stream delivery.** In every run from establishment whose reads
settle on lengths below 2³¹, the counters agree, and the bytes returned are
the peer's stream from its start, each once and in order. -/
theorem rx_stream_delivered {g : ConnId} {S : Nat → UInt8} {s₀ : Conn} {s : RxConn}
    {log : List Out} (h₀ : RxInit g s₀)
    (hrun : Run (fun s a => RxOk S (sockOf s₀.fast g.sid).rxSeq s a ∧ RecvFits g s a)
      (RxConn.step g) { conn := s₀, pos := 0 } log s) :
    RxDelivers g S log s.conn := by
  have hinv : (∃ C, RxInv g S (sockOf s₀.fast g.sid).rxSeq s.pos (received log).length C s.conn) ∧
      (∀ out ∈ log, out ≠ .recv .fault) ∧
      received log = (List.range (received log).length).map S := by
    refine hrun.inv (I := fun log s =>
      (∃ C, RxInv g S (sockOf s₀.fast g.sid).rxSeq s.pos (received log).length C s.conn) ∧
      (∀ out ∈ log, out ≠ .recv .fault) ∧
      received log = (List.range (received log).length).map S) ?_ ?_
    · exact ⟨⟨0, h₀.inv S⟩, fun out ho => absurd ho (by simp), rfl⟩
    · rintro log s a ⟨⟨C, hinv⟩, hsound, hpre⟩ ⟨hok, hfits⟩
      obtain ⟨hne, n, C', hrec, hnext⟩ := rxStep hinv hok hfits
      have hlog : received (log ++ [(s.step g a).2]) =
          received log ++ (List.range n).map (fun i => S ((received log).length + i)) := by
        unfold received
        rw [List.flatMap_append, List.flatMap_singleton, hrec]
        rfl
      have hlen : (received (log ++ [(s.step g a).2])).length = (received log).length + n := by
        rw [hlog, List.length_append, List.length_map, List.length_range]
      refine ⟨⟨C', by rw [hlen]; exact hnext⟩, ?_, ?_⟩
      · intro out ho
        rcases List.mem_append.mp ho with ho | ho
        · exact hsound out ho
        · rw [List.mem_singleton.mp ho]
          exact hne
      · rw [hlen, List.range_add, List.map_append, List.map_map, ← hpre]
        exact hlog
  obtain ⟨⟨C, hinv⟩, hsound, hpre⟩ := hinv
  exact ⟨hinv.conserved, hsound, hpre⟩

theorem freshConn_rxInit {len : UInt32} (hpos : 0 < len.toNat) (hle : len.toNat ≤ 2147483648) :
    RxInit (freshConnId len) (freshConn len) :=
  ⟨hpos, hle, freshConn_fast len, freshConn_lib len, rfl, rfl, rfl, ⟨rfl, rfl⟩, ⟨rfl, rfl⟩, rfl,
    rfl, rfl⟩

/-- Three bytes received, announced and read. -/
theorem rx_stream_delivered_three_bytes :
    ∃ log s, Run (fun s a => RxOk (fun i => UInt8.ofNat (7 + i)) 0 s a ∧
        RecvFits (freshConnId 64) s a)
      (RxConn.step (freshConnId 64)) { conn := freshConn 64, pos := 0 } log s ∧
    received log = [7, 8, 9] ∧
    RxDelivers (freshConnId 64) (fun i => UInt8.ofNat (7 + i)) log s.conn := by
  have hseg : PeerSegment (fun i => UInt8.ofNat (7 + i)) 0 0
      (dataBuf 0 3 (fun i => UInt8.ofNat (7 + i))) := by
    have h := @dataBuf_peer (fun i => UInt8.ofNat (7 + i)) 0 0 3 (by decide)
    rw [serial_zero] at h
    simpa using h
  have h₁ : Run (fun s a => RxOk (fun i => UInt8.ofNat (7 + i)) 0 s a ∧
        RecvFits (freshConnId 64) s a)
      (RxConn.step (freshConnId 64)) { conn := freshConn 64, pos := 0 } _ _ :=
    Run.snoc (a := Act.rx (dataBuf 0 3 (fun i => UInt8.ofNat (7 + i)))) Run.nil
      ⟨⟨hseg, by unfold NoBumpFail; decide +kernel⟩, trivial⟩
  have h₂ := Run.snoc (a := Act.poll) h₁ ⟨trivial, trivial⟩
  have hrun := Run.snoc (a := Act.recvfrom 10 true) h₂ ⟨trivial, by unfold RecvFits; decide +kernel⟩
  exact ⟨_, _, hrun, by decide +kernel,
    rx_stream_delivered (freshConn_rxInit (by decide) (by decide)) hrun⟩

/-! ## A full ring

A ring of 2³¹ bytes is filled with segments of 1024 zero bytes and read in
one call. -/

section full

variable {len : UInt32} {N : Nat} {s : Conn}

/-- `N` zero bytes lie in the ring, all announced, none read; the tables and
the addresses are those of the fresh connection. -/
structure Filled (len : UInt32) (N : Nat) (s : Conn) : Prop where
  inv : RxInv (freshConnId len) (fun _ => 0) 0 N 0 0 s
  open_ : (libSock (freshConnId len) s.lib).state = .established
  buckets : s.fast.maps.buckets = fun _ _ => 0
  buckNelems : s.fast.maps.buckNelems = 4096
  addr : (sockOf s.fast 0).localIp = 0 ∧ (sockOf s.fast 0).localPort = 0 ∧
    (sockOf s.fast 0).remoteIp = 0 ∧ (sockOf s.fast 0).remotePort = 0
  txSeq : (sockOf s.fast 0).txSeq = 1000
  queue : s.fast.equeues 1 = { items := [], nelems := 4 }

theorem Filled.found (h : Filled len N s) (b : Buf)
    (ha : ipSrc b.pkt = 0 ∧ ipDst b.pkt = 0 ∧ tcpSrc b.pkt = 0 ∧ tcpDest b.pkt = 0) :
    sockFind (s.load b) = some 0 := by
  obtain ⟨ha₁, ha₂, ha₃, ha₄⟩ := ha
  obtain ⟨h₁, h₂, h₃, h₄⟩ := h.addr
  have hst : (sockOf s.fast 0).state = .established := h.inv.fast.state
  have hn : 0 < s.fast.maps.sockNelems := h.inv.fast.found
  have hslot : sockFindSlot (s.load b) 0 0 0 0 0 = some 0 := by
    have hlook : sockMapLookup (s.load b) 0 = some 0 := if_neg (Nat.not_le_of_lt hn)
    unfold sockFindSlot
    rw [if_neg (by decide), hlook]
    show (if (sockOf s.fast 0).state = .closed then _ else _) = some 0
    rw [hst, if_neg (by simp)]
    exact if_pos ⟨h₁, h₂, h₃, h₄⟩
  have hp : (s.load b).pkt = b.pkt := rfl
  have hm : (s.load b).maps = s.fast.maps := rfl
  unfold sockFind
  rw [hp, hm, ha₁, ha₂, ha₃, ha₄, h.buckets, h.buckNelems]
  dsimp only
  rw [if_neg (by decide), hslot]
  rfl

/-- The segment with the next `paylen` zero bytes of the stream. -/
def zeroSeg (N : Nat) (paylen : UInt16) : Buf := dataBuf (serial 0 N) paylen (fun _ => 0)

theorem zeroSeg_peer (N : Nat) {paylen : UInt16} (h : paylen.toNat ≤ 1460) :
    PeerSegment (fun _ => 0) 0 N (zeroSeg N paylen) := dataBuf_peer (fun _ => 0) 0 N h

/-- It has no flag set and repeats the acknowledgement number. -/
theorem zeroSeg_quiet (N : Nat) (paylen : UInt16) :
    rxIsIp (zeroSeg N paylen).pkt = true ∧ rxIsCe (zeroSeg N paylen).pkt = false ∧
    rxIsAck (zeroSeg N paylen).pkt = false ∧ tcpAckno (zeroSeg N paylen).pkt = 1000 := by
  obtain ⟨h₀, h₁, h₉, hoff, hack, -⟩ := dataBuf_hdr (serial 0 N) (fun _ => 0) paylen
  unfold zeroSeg rxIsIp rxIsCe rxIsAck iphV iphHl iphEcn ipProto tcphFlags
  rw [h₀, h₁, h₉, hoff]
  exact ⟨rfl, rfl, rfl, hack⟩

theorem zeroSeg_hdrlen (N : Nat) {paylen : UInt16} (h : paylen.toNat ≤ 1460) :
    rxGetHdrlen (zeroSeg N paylen).pkt = 40 ∧
    rxGetPaylen (zeroSeg N paylen).pkt = paylen := by
  obtain ⟨-, -, -, hoff, -, -⟩ := dataBuf_hdr (serial 0 N) (fun _ => 0) paylen
  have hlen : (ipLen (zeroSeg N paylen).pkt).toNat = 40 + paylen.toNat :=
    dataBuf_ipLen (serial 0 N) (fun _ => 0) h
  have hhl : tcphHdrlen (zeroSeg N paylen).pkt = 5 := by
    unfold tcphHdrlen zeroSeg
    rw [hoff]
    rfl
  have hhdr := (zeroSeg_peer N h).hdrlen
  have hpay := (zeroSeg_peer N h).paylen
  rw [UInt16.toNat_toUInt32] at hpay
  rw [hhl] at hhdr hpay
  constructor
  · apply UInt32.toNat_inj.mp
    rw [hhdr]
    rfl
  · apply UInt16.toNat_inj.mp
    omega

/-- The segment is in order and none of its bytes was seen before. -/
theorem zeroSeg_fresh (N : Nat) {paylen : UInt16} (hpos : 0 < paylen.toNat)
    (h : paylen.toNat ≤ 1460) {sock : TcpSock} (hseq : sock.rxSeq = serial 0 N) :
    rxGetPayloadOverlap (zeroSeg N paylen).pkt sock = 0 ∧
    rxIsPayloadDup (zeroSeg N paylen).pkt sock = false ∧
    rxIsOutOfOrder (zeroSeg N paylen).pkt sock = false := by
  have hno : tcpSeqno (zeroSeg N paylen).pkt = serial 0 N :=
    (dataBuf_hdr (serial 0 N) (fun _ => 0) paylen).2.2.2.2.2
  have hover : rxGetPayloadOverlap (zeroSeg N paylen).pkt sock = 0 := by
    unfold rxGetPayloadOverlap
    dsimp only
    rw [hno, hseq, UInt32.sub_self, if_neg (show ¬ s32 0 < 0 by decide), if_neg]
    exact UInt32.not_lt.mpr (UInt32.zero_le)
  refine ⟨hover, ?_, ?_⟩
  · unfold rxIsPayloadDup
    rw [hover, (zeroSeg_hdrlen N h).2, decide_eq_false_iff_not, UInt32.le_iff_toNat_le,
      UInt16.toNat_toUInt32]
    exact Nat.not_le_of_lt hpos
  · unfold rxIsOutOfOrder
    rw [hno, hseq, UInt32.sub_self]
    decide

/-- **The next segment is stored**, and one bump announces it. -/
theorem Filled.rx (h : Filled len N s) {paylen : UInt16} (hpos : 0 < paylen.toNat)
    (hle : paylen.toNat ≤ 1460) (hfit : N + paylen.toNat ≤ len.toNat) :
    (tcpEventRx (s.load (zeroSeg N paylen))).2 ≠ .error .appBump ∧
    ∃ ctx₁ src, Quiet (setSock (s.load (zeroSeg N paylen)) 0
        { sockOf (s.load (zeroSeg N paylen)) 0 with
          txRemoteAvail := (tcpWnd (s.load (zeroSeg N paylen)).pkt).toUInt32 }) ctx₁ ∧
      Quiet (delivered ctx₁ 0 src paylen.toUInt32
        { items := [.bumpAppRx 7 0 0 paylen.toUInt32], nelems := 4 })
        (tcpEventRx (s.load (zeroSeg N paylen))).1 := by
  obtain ⟨hip, hce, hnack, hackno⟩ := zeroSeg_quiet N paylen
  obtain ⟨hhdr, hpay⟩ := zeroSeg_hdrlen N hle
  have hseq : (sockOf s.fast 0).rxSeq = serial 0 N := h.inv.seq
  obtain ⟨hover, hnew, hord⟩ := zeroSeg_fresh N hpos hle hseq
  obtain ⟨hip₁, hip₂, hsrc, hdst⟩ : ipSrc (zeroSeg N paylen).pkt = 0 ∧
    ipDst (zeroSeg N paylen).pkt = 0 ∧ tcpSrc (zeroSeg N paylen).pkt = 0 ∧
    tcpDest (zeroSeg N paylen).pkt = 0 := dataBuf_addr _ _ _
  have hacc : Accepted (s.load (zeroSeg N paylen)) 0 :=
    ⟨rfl, hip, (zeroSeg_peer N hle).plain, h.found _ ⟨hip₁, hip₂, hsrc, hdst⟩, h.inv.fast.state⟩
  have hqueue : appQueue (s.load (zeroSeg N paylen)) 0 = { items := [], nelems := 4 } := by
    rw [← h.queue]
    exact (h.inv.fast.of_maps (b := s.load (zeroSeg N paylen)) rfl).appQueue
  have hp : (s.load (zeroSeg N paylen)).pkt = (zeroSeg N paylen).pkt := rfl
  have hroom : (s.load (zeroSeg N paylen)).pktRoom = 1500 := rfl
  have hsock : sockOf (s.load (zeroSeg N paylen)) 0 = sockOf s.fast 0 := rfl
  generalize s.load (zeroSeg N paylen) = ctx at *
  have hvalid : ∀ k : UInt32, k.toUInt16.toNat ≤ 1460 → isPaylenValid ctx 40 k = true := by
    intro k hk
    unfold isPaylenValid
    rw [hroom, decide_eq_true_iff]
    show 40 + k.toUInt16.toNat ≤ 1500
    omega
  have hbump : rxGetRxBump (sockOf s.fast 0) (paylen.toUInt32 - 0) = paylen.toUInt32 := by
    have hlen : (sockOf s.fast 0).rxLen = len := h.inv.fast.rxLen
    have hav : (sockOf s.fast 0).rxAvail.toNat = N := h.inv.avail
    unfold rxGetRxBump
    dsimp only
    rw [UInt32.sub_zero, if_neg]
    rw [UInt32.not_lt, UInt32.le_iff_toNat_le, toNat_sub_of_le (by rw [hlen]; omega), hlen, hav,
      UInt16.toNat_toUInt32]
    omega
  have honly : rxIsAckOnly ctx.pkt = false := by
    unfold rxIsAckOnly
    rw [hp, hpay, beq_eq_false_iff_ne]
    rintro rfl
    exact absurd hpos (by decide)
  have hne : paylen.toUInt32 ≠ 0 := by
    intro hz
    have hz' := congrArg UInt32.toNat hz
    rw [UInt16.toNat_toUInt32] at hz'
    exact absurd hz' (Nat.pos_iff_ne_zero.mp hpos)
  have hopq : (sockOf s.fast 0).opaquePtr = 7 := h.inv.fast.opq
  rw [hacc.segment (by rw [hp]; exact hce) (by rw [hp, hhdr]; exact hvalid 0 (by decide)), hp, hhdr]
  rw [← hp]
  refine rxSegment_stores (by rw [hp]; exact hnack) (by rw [hp, hackno, hsock]; exact h.txSeq)
    honly (by rw [hp, hsock]; exact hnew) (by rw [hp, hsock]; exact hord) ?_
    (by rw [hp, hsock, hpay, hover]; exact hbump) hne ?_
  · rw [hp, hpay]
    apply hvalid
    rw [UInt32.toNat_toUInt16, UInt16.toNat_toUInt32]
    omega
  · rw [hqueue, hsock, hopq, hp, hsrc, hip₁]
    rfl

/-- **Receive and announce.** After the next segment and a poll of the
application, the ring holds that much more. -/
theorem Filled.more (h : Filled len N s) {paylen : UInt16} (hpos : 0 < paylen.toNat)
    (hle : paylen.toNat ≤ 1460) (hfit : N + paylen.toNat ≤ len.toNat) :
    NoBumpFail s (.rx (zeroSeg N paylen)) ∧
    RxInv (freshConnId len) (fun _ => 0) 0 (N + paylen.toNat) 0 0
      (s.step (freshConnId len) (.rx (zeroSeg N paylen))).1 ∧
    Filled len (N + paylen.toNat)
      ((s.step (freshConnId len) (.rx (zeroSeg N paylen))).1.step (freshConnId len) .poll).1 := by
  obtain ⟨hno, ctx₁, src, hq₁, hq₂⟩ := h.rx hpos hle hfit
  obtain ⟨n, hn, hinv⟩ := h.inv.rx (zeroSeg_peer N hle) hno
  have hs₁ := hq₁.socks 0
  rw [sockOf_setSock] at hs₁
  have hs₂ := hq₂.socks 0
  rw [sockOf_delivered] at hs₂
  have hqid : (sockOf ctx₁ 0).appBumpQid = 1 :=
    (congrArg TcpSock.appBumpQid hs₁ :).trans h.inv.fast.qid
  have hqueue : (tcpEventRx (s.load (zeroSeg N paylen))).1.equeues 1 =
      { items := [.bumpAppRx 7 0 0 paylen.toUInt32], nelems := 4 } := by
    rw [hq₂.equeues]
    unfold delivered
    rw [hqid]
    exact EbpfCtx.setQueue_self _ _ _
  -- the sequence number says how many bytes were taken
  have hn' : n = paylen.toNat := by
    have hseq : (sockOf (tcpEventRx (s.load (zeroSeg N paylen))).1 0).rxSeq =
        (sockOf s.fast 0).rxSeq + paylen.toUInt32 := by
      have h₂ : (sockOf (tcpEventRx (s.load (zeroSeg N paylen))).1 0).rxSeq =
        (sockOf ctx₁ 0).rxSeq + paylen.toUInt32 := (congrArg TcpSock.rxSeq hs₂ :)
      have h₁ : (sockOf ctx₁ 0).rxSeq = (sockOf s.fast 0).rxSeq :=
        (congrArg TcpSock.rxSeq hs₁ :)
      rw [h₂, h₁]
    have hafter : (sockOf (tcpEventRx (s.load (zeroSeg N paylen))).1 0).rxSeq =
      serial 0 (N + n) := hinv.seq
    have hbefore : (sockOf s.fast 0).rxSeq = serial 0 N := h.inv.seq
    rw [hafter, hbefore, serial_add, UInt16.toNat_toUInt32] at hseq
    have hd := @serial_sub 0 N n hn
    rw [hseq, serial_sub (by omega)] at hd
    exact hd.symm
  rw [hn'] at hinv
  have hpoll : Conn.poll (freshConnId len)
      { s with fast := (tcpEventRx (s.load (zeroSeg N paylen))).1 } =
      { fast := (tcpEventRx (s.load (zeroSeg N paylen))).1.setQueue 1 { items := [], nelems := 4 }
        lib := handleRxBump s.lib 7 0 0 paylen.toUInt32 } := by
    unfold Conn.poll
    dsimp only
    rw [show (tcpEventRx (s.load (zeroSeg N paylen))).1.equeues
      (freshConnId len).appBumpQid.toNat = _ from hqueue]
    rfl
  refine ⟨hno, hinv, hinv.poll, ?_, ?_, ?_, ?_, ?_, ?_⟩
  all_goals
    rw [show ((s.step (freshConnId len) (.rx (zeroSeg N paylen))).1.step (freshConnId len) .poll).1 =
      _ from hpoll]
  · rcases handleRxBump_spec h.inv.owns h.inv.sockAt 0 0 paylen.toUInt32 rfl with ⟨-, heq⟩ | hf
    · show (libSock (freshConnId len) (handleRxBump s.lib (freshConnId len).opaquePtr 0 0 _)).state = _
      rw [heq]
      exact h.open_
    · have hst := (congrArg TcpSocketLib.state hf.sock :)
      rw [libSock_setSock] at hst
      exact hst.trans h.open_
  · refine (hq₂.buckets.trans (?_ : _ = ctx₁.maps.buckets)).trans (hq₁.buckets.trans h.buckets)
    show (rxCopyPayload ctx₁ _ _ _).maps.buckets = _
    rw [rxCopyPayload_maps]
  · refine (hq₂.buckNelems.trans (?_ : _ = ctx₁.maps.buckNelems)).trans
      (hq₁.buckNelems.trans h.buckNelems)
    show (rxCopyPayload ctx₁ _ _ _).maps.buckNelems = _
    rw [rxCopyPayload_maps]
  · obtain ⟨a₁, a₂, a₃, a₄⟩ := h.addr
    exact ⟨((congrArg TcpSock.localIp hs₂ :).trans (congrArg TcpSock.localIp hs₁ :)).trans a₁,
      ((congrArg TcpSock.localPort hs₂ :).trans (congrArg TcpSock.localPort hs₁ :)).trans a₂,
      ((congrArg TcpSock.remoteIp hs₂ :).trans (congrArg TcpSock.remoteIp hs₁ :)).trans a₃,
      ((congrArg TcpSock.remotePort hs₂ :).trans (congrArg TcpSock.remotePort hs₁ :)).trans a₄⟩
  · exact ((congrArg TcpSock.txSeq hs₂ :).trans (congrArg TcpSock.txSeq hs₁ :)).trans h.txSeq
  · exact EbpfCtx.setQueue_self _ _ _

/-- **A full ring read at once.** With all 2³¹ bytes of the ring available,
a request for all of them reaches `memcpy` as a negative `int`. -/
theorem Filled.fault (h : Filled 2147483648 2147483648 s) :
    (s.step (freshConnId 2147483648) (.recvfrom 2147483648 true)).2 = .recv .fault := by
  have hqueue : s.fast.equeues (freshConnId 2147483648).appBumpQid.toNat =
    { items := [], nelems := 4 } := h.queue
  have havail : (libSock (freshConnId 2147483648) s.lib).rxAvail = 2147483648 := by
    have := h.inv.libAvail
    rw [hqueue] at this
    exact UInt32.toNat_inj.mp this
  have hhead : (libSock (freshConnId 2147483648) s.lib).rxHead = 0 :=
    UInt32.toNat_inj.mp h.inv.libHead
  have hlen := h.inv.rxLen
  have hopen := h.open_
  have hfd := h.inv.owns.fd
  have hctx := h.inv.owns.ctx
  have hlook : lookupSock s.lib 0 0 = some 0 := by
    unfold lookupSock
    rw [if_neg (by decide)]
    show (if (s.lib.socks 0).fd ≠ 0 ∨ (s.lib.socks 0).ctx ≠ some 0 ∨
      (s.lib.socks 0).state = .closed then none else some 0) = some 0
    rw [if_neg]
    rintro (hne | hne | hne)
    · exact hne hfd
    · exact hne hctx
    · exact absurd (hne.symm.trans hopen) (by decide)
  have hrecv : recvLen (s.lib.socks 0) 2147483648 = 2147483648 := by
    unfold recvLen
    rw [show (s.lib.socks 0).rxAvail = _ from havail]
    rfl
  have hcopy : libCopyOut (s.lib.socks 0) s.fast.shm 2147483648 = none := by
    unfold libCopyOut
    rw [show (s.lib.socks 0).rxHead = _ from hhead, show (s.lib.socks 0).rxLen = _ from hlen]
    rfl
  show Out.recv (tcpRecvfrom s.lib s.fast.shm 0 0 2147483648 true).2 = _
  unfold tcpRecvfrom
  rw [hlook]
  dsimp only
  rw [if_neg (by rw [show (s.lib.socks 0).state = _ from hopen]; simp), hrecv, hcopy]
  rfl

/-- The run that fills the ring, segment by segment. -/
theorem fill_run (k : Nat) (hk : 1024 * k ≤ 2147483648) :
    ∃ log s, Run (RxOk (fun _ => 0) 0) (RxConn.step (freshConnId 2147483648))
        { conn := freshConn 2147483648, pos := 0 } log s ∧
      Filled 2147483648 (1024 * k) s.conn ∧ s.pos = 1024 * k := by
  induction k with
  | zero =>
    refine ⟨[], _, Run.nil, ⟨?_, rfl, rfl, rfl, ⟨rfl, rfl, rfl, rfl⟩, rfl, rfl⟩, rfl⟩
    exact (freshConn_rxInit (by decide) (by decide)).inv (fun _ => 0)
  | succ k ih =>
    obtain ⟨log, s, hrun, hfill, hpos⟩ := ih (by omega)
    obtain ⟨hno, hrx, hmore⟩ := @Filled.more _ _ _ hfill 1024 (by decide) (by decide)
      (show 1024 * k + 1024 ≤ 2147483648 by omega)
    have hseg := @zeroSeg_peer (1024 * k) 1024 (by decide)
    rw [← hpos] at hfill hno hrx hmore hseg
    have h₁ := Run.snoc (a := Act.rx (zeroSeg s.pos 1024)) hrun ⟨hseg, hno⟩
    have h₂ := Run.snoc (a := Act.poll) h₁ trivial
    have hpos₁ := RxConn.pos_step (a := Act.rx (zeroSeg s.pos 1024)) hfill.inv
      (show 1024 < 4294967296 by omega) hrx
    refine ⟨_, _, h₂, ?_, ?_⟩
    · rw [Nat.mul_succ, ← hpos]
      exact hmore
    · have hrx₁ := RxConn.step_pos hfill.inv (show 1024 < 4294967296 by omega) hrx
      rw [RxConn.pos_step (n := 0) hrx₁ (by omega) (by rw [hpos₁]; exact hmore.inv), hpos₁, hpos]
      omega

end full

/-- **The largest ring breaks the stream**: filled and read in one call, it
makes `tcp_recvfrom` copy a negative length. -/
theorem full_ring_read_faults :
    RxInit (freshConnId 2147483648) (freshConn 2147483648) ∧
    ∃ log s, Run (RxOk (fun _ => 0) 0) (RxConn.step (freshConnId 2147483648))
        { conn := freshConn 2147483648, pos := 0 } log s ∧
      ¬ RxDelivers (freshConnId 2147483648) (fun _ => 0) log s.conn := by
  refine ⟨freshConn_rxInit (by decide) (by decide), ?_⟩
  obtain ⟨log, s, hrun, hfill, -⟩ := fill_run 2097152 (by decide)
  have hread := Run.snoc (a := Act.recvfrom 2147483648 true) hrun trivial
  refine ⟨_, _, hread, fun h => ?_⟩
  exact h.sound _ (List.mem_append_right _ List.mem_cons_self) (Filled.fault hfill)

end Chamelio.Tcp
