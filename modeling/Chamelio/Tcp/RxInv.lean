import Chamelio.Tcp.RxMove

/-!
# The invariant of the receive side

The mirror image of the transmit side. With `N` bytes of the peer's stream
accepted, `D` of them handed to the application and `C` of those freed in
the fast path's ring, the ring holds the offsets from `C` up to `N`, the
socket's counters stand at `N` and `C`, the library's at `D`, and the
differences are in flight or pending.
-/

namespace Chamelio.Tcp

open Chamelio.Lib Chamelio.Util Chamelio.Pkt Chamelio.Fast

/-! ## The invariant -/

/-- `N` bytes of the stream accepted, `D` of them delivered to the
application, `C` of those freed on the fast path. -/
structure RxInv (g : ConnId) (S : Nat → UInt8) (irs : UInt32) (N D C : Nat) (s : Conn) :
    Prop where
  lenPos : 0 < g.rxLen.toNat
  lenBound : g.rxLen.toNat ≤ 2147483648
  fast : FastOwns g s.fast
  owns : LibOwns g s.lib
  rxLen : (libSock g s.lib).rxLen = g.rxLen
  rxBuf : (libSock g s.lib).rxBuf = g.rxOff
  sockAt : s.lib.sockAt g.opaquePtr = some g.fd
  outMine : ∀ e ∈ (outQueue g s.lib).items, OutMine g e
  appMine : ∀ e ∈ (s.fast.equeues g.appBumpQid.toNat).items, AppMine g e
  seq : (sockOf s.fast g.sid).rxSeq = serial irs N
  head : (sockOf s.fast g.sid).rxHead.toNat = C % g.rxLen.toNat
  avail : (sockOf s.fast g.sid).rxAvail.toNat + C = N
  fit : (sockOf s.fast g.sid).rxAvail.toNat ≤ g.rxLen.toNat
  libHead : (libSock g s.lib).rxHead.toNat = D % g.rxLen.toNat
  libAvail : (libSock g s.lib).rxAvail.toNat +
    (s.fast.equeues g.appBumpQid.toNat).sum appRxAmount + D = N
  freed : (libSock g s.lib).rxBumpPending.toNat + (outQueue g s.lib).sum chamRxAmount + C = D
  holds : Holds s.fast.shm g.rxOff.toNat g.rxLen.toNat C N S

section step

variable {g : ConnId} {S : Nat → UInt8} {irs : UInt32} {N D C : Nat} {s : Conn}

theorem RxInv.headLt (h : RxInv g S irs N D C s) :
    (sockOf s.fast g.sid).rxHead.toNat < g.rxLen.toNat := by
  rw [h.head]
  exact Nat.mod_lt _ h.lenPos

/-- The receive counters fit the ring. -/
theorem RxInv.room (h : RxInv g S irs N D C s) : RxRoom (sockOf s.fast g.sid) := by
  have hlen := h.fast.rxLen
  have hhead := h.headLt
  have hbound := h.lenBound
  refine ⟨?_, ?_, ?_⟩
  · rw [hlen]
    exact h.fit
  · rw [hlen]
    omega
  · rw [hlen]
    exact fun _ => hhead

/-- Events and flushes the receive side does not see. -/
theorem RxInv.same (h : RxInv g S irs N D C s) {ctx' : TcpCtx} (hs : RxSame g s.fast ctx') :
    RxInv g S irs N D C { s with fast := ctx' } := by
  refine ⟨h.lenPos, h.lenBound, hs.owns, h.owns, h.rxLen, h.rxBuf, h.sockAt, h.outMine, ?_, ?_, ?_,
    ?_, ?_, h.libHead, ?_, h.freed, ?_⟩
  · intro e he
    rcases hs.mine e he with he | he
    · exact h.appMine e he
    · exact he
  · show (sockOf ctx' g.sid).rxSeq = _
    rw [hs.seq]
    exact h.seq
  · show (sockOf ctx' g.sid).rxHead.toNat = _
    rw [hs.head]
    exact h.head
  · show (sockOf ctx' g.sid).rxAvail.toNat + C = _
    rw [hs.avail]
    exact h.avail
  · show (sockOf ctx' g.sid).rxAvail.toNat ≤ _
    rw [hs.avail]
    exact h.fit
  · show (libSock g s.lib).rxAvail.toNat + (ctx'.equeues _).sum appRxAmount + D = _
    rw [hs.app]
    exact h.libAvail
  · show Holds ctx'.shm _ _ _ _ _
    rw [hs.shm]
    exact h.holds

theorem RxInv.flushed (h : RxInv g S irs N D C s) {lib' : TcpLib} (hf : Flushed g s.lib lib') :
    RxInv g S irs N D C { s with lib := lib' } := by
  have hrx := hf.rx
  have hfreed := h.freed
  have hlen : (libSock g lib').rxLen = (libSock g s.lib).rxLen :=
    (congrArg TcpSocketLib.rxLen hf.sock :)
  have hbuf : (libSock g lib').rxBuf = (libSock g s.lib).rxBuf :=
    (congrArg TcpSocketLib.rxBuf hf.sock :)
  have hhead : (libSock g lib').rxHead = (libSock g s.lib).rxHead :=
    (congrArg TcpSocketLib.rxHead hf.sock :)
  have havail : (libSock g lib').rxAvail = (libSock g s.lib).rxAvail :=
    (congrArg TcpSocketLib.rxAvail hf.sock :)
  refine ⟨h.lenPos, h.lenBound, h.fast, hf.owns, hlen.trans h.rxLen, hbuf.trans h.rxBuf, ?_, ?_,
    h.appMine, h.seq, h.head, h.avail, h.fit, ?_, ?_, ?_, h.holds⟩
  · show lib'.sockAt _ = _
    rw [hf.sockAt]
    exact h.sockAt
  · intro e he
    rcases hf.mine e he with he | he
    · exact h.outMine e he
    · exact he
  · show (libSock g lib').rxHead.toNat = _
    rw [hhead]
    exact h.libHead
  · show (libSock g lib').rxAvail.toNat + _ + D = _
    rw [havail]
    exact h.libAvail
  · show (libSock g lib').rxBumpPending.toNat + (outQueue g lib').sum chamRxAmount + C = D
    omega

/-- A payload of the next `b` bytes of the stream is stored. -/
theorem RxInv.stored (h : RxInv g S irs N D C s) (src : Nat) {b paylen : UInt32} {p : UInt16}
    {i : UInt32} {q : Fifo TcpQe} (hb : rxGetRxBump (sockOf s.fast g.sid) paylen = b)
    (hpush : (appQueue s.fast g.sid).push
      (.bumpAppRx (sockOf s.fast g.sid).opaquePtr p i b) = some q)
    (hsrc : ∀ k, k < paylen.toNat → s.fast.pkt (src + k) = S (N + k)) :
    RxInv g S irs (N + b.toNat) D C { s with fast := delivered s.fast g.sid src b q } := by
  have hroom := h.room
  obtain ⟨hfit, hle⟩ := rxGetRxBump_le hroom paylen
  rw [hb] at hfit hle
  have hlen := h.fast.rxLen
  have hbound := h.lenBound
  have havail := h.avail
  have hlib := h.libAvail
  rw [h.fast.appQueue, h.fast.opq] at hpush
  have hqueue : (delivered s.fast g.sid src b q).equeues g.appBumpQid.toNat = q := by
    unfold delivered
    rw [h.fast.qid]
    exact EbpfCtx.setQueue_self _ _ _
  have hsock : sockOf (delivered s.fast g.sid src b q) g.sid =
      rxSockBumpRx (sockOf s.fast g.sid) b := sockOf_delivered s.fast g.sid src b q
  have hadd : ((sockOf s.fast g.sid).rxAvail + b).toNat =
      (sockOf s.fast g.sid).rxAvail.toNat + b.toNat := toNat_add_of_lt (by rw [hlen] at hfit; omega)
  refine ⟨h.lenPos, hbound, h.fast.delivered src b q, h.owns, h.rxLen, h.rxBuf, h.sockAt, h.outMine,
    ?_, ?_, ?_, ?_, ?_, h.libHead, ?_, h.freed, ?_⟩
  · show ∀ e ∈ ((delivered s.fast g.sid src b q).equeues g.appBumpQid.toNat).items, _
    rw [hqueue]
    intro e he
    rcases (Fifo.mem_push hpush).mp he with he | rfl
    · exact h.appMine e he
    · exact Or.inr ⟨_, _, _, rfl⟩
  · show (sockOf (delivered s.fast g.sid src b q) g.sid).rxSeq = _
    rw [hsock]
    show (sockOf s.fast g.sid).rxSeq + b = _
    rw [h.seq, serial_add]
  · show (sockOf (delivered s.fast g.sid src b q) g.sid).rxHead.toNat = _
    rw [hsock]
    exact h.head
  · show (sockOf (delivered s.fast g.sid src b q) g.sid).rxAvail.toNat + C = _
    rw [hsock]
    show ((sockOf s.fast g.sid).rxAvail + b).toNat + C = _
    omega
  · show (sockOf (delivered s.fast g.sid src b q) g.sid).rxAvail.toNat ≤ _
    rw [hsock]
    show ((sockOf s.fast g.sid).rxAvail + b).toNat ≤ _
    rw [hadd, ← hlen]
    exact hfit
  · show (libSock g s.lib).rxAvail.toNat +
      ((delivered s.fast g.sid src b q).equeues g.appBumpQid.toNat).sum appRxAmount + D = _
    rw [hqueue, Fifo.push_sum appRxAmount hpush]
    show (libSock g s.lib).rxAvail.toNat + (_ + b.toNat) + D = _
    omega
  · -- the copy starts behind the offset `N`
    show Holds (rxCopyPayload s.fast (sockOf s.fast g.sid) src b).shm _ _ _ _ _
    have hcell : ((sockOf s.fast g.sid).rxHead.toNat + (sockOf s.fast g.sid).rxAvail.toNat) %
        g.rxLen.toNat = N % g.rxLen.toNat := by
      rw [h.head, Nat.mod_add_mod]
      congr 1
      omega
    rw [rxCopyPayload_shm src (by rw [hlen]; exact h.headLt) hfit hroom.noWrap, hlen, h.fast.rxOff,
      hcell]
    rw [hlen] at hfit
    exact h.holds.write h.lenPos (by omega) (by omega) (fun k hk => hsrc k (by omega))

/-- **A segment of the peer is received.** -/
theorem RxInv.rx (h : RxInv g S irs N D C s) {b : Buf} (hseg : PeerSegment S irs N b)
    (hno : NoBumpFail s (.rx b)) :
    ∃ n, n < 4294967296 ∧
      RxInv g S irs (N + n) D C { s with fast := (tcpEventRx (s.load b)).1 } := by
  have hload : RxInv g S irs N D C { s with fast := s.load b } :=
    ⟨h.lenPos, h.lenBound, h.fast.of_maps rfl, h.owns, h.rxLen, h.rxBuf, h.sockAt, h.outMine,
      h.appMine, h.seq, h.head, h.avail, h.fit, h.libHead, h.libAvail, h.freed, h.holds⟩
  rcases tcpEventRx_rx hload.fast hno with
    hs | ⟨ctx₁, k, q, hs₁, hp₁, hpos, hb, hord, hpush, hs₂⟩
  · have hinv : RxInv g S irs (N + 0) D C _ := hload.same hs
    exact ⟨0, by omega, hinv⟩
  · have hinv₁ := hload.same hs₁
    have hinv₂ := hinv₁.stored ((rxGetHdrlen (s.load b).pkt).toNat +
      (rxGetPayloadOverlap (s.load b).pkt (sockOf (s.load b) g.sid)).toNat) hb hpush (by
        intro j hj
        show ctx₁.pkt _ = _
        rw [hp₁]
        exact hseg.fresh hload.seq hord hj)
    have hinv := hinv₂.same hs₂
    exact ⟨k.toNat, k.toNat_lt, hinv⟩

/-- The application takes the head entry off its queue and counts what it
announces. -/
theorem RxInv.popApp (h : RxInv g S irs N D C s) {e : TcpQe} {lib' : TcpLib}
    (he : (s.fast.equeues g.appBumpQid.toNat).head? = some e) (howns : LibOwns g lib')
    (hlen : (libSock g lib').rxLen = (libSock g s.lib).rxLen)
    (hbuf : (libSock g lib').rxBuf = (libSock g s.lib).rxBuf)
    (hhead : (libSock g lib').rxHead = (libSock g s.lib).rxHead)
    (hpend : (libSock g lib').rxBumpPending = (libSock g s.lib).rxBumpPending)
    (hout : outQueue g lib' = outQueue g s.lib) (hat : lib'.sockAt = s.lib.sockAt)
    (havail : (libSock g lib').rxAvail.toNat = (libSock g s.lib).rxAvail.toNat + appRxAmount e) :
    RxInv g S irs N D C
      { fast := s.fast.setQueue g.appBumpQid.toNat (s.fast.equeues g.appBumpQid.toNat).pop
        lib := lib' } := by
  have hsum := Fifo.pop_sum appRxAmount he
  have hlib := h.libAvail
  have hqueue : (s.fast.setQueue g.appBumpQid.toNat
      (s.fast.equeues g.appBumpQid.toNat).pop).equeues g.appBumpQid.toNat =
      (s.fast.equeues g.appBumpQid.toNat).pop := EbpfCtx.setQueue_self _ _ _
  refine ⟨h.lenPos, h.lenBound, h.fast.setQueue _ _, howns, hlen.trans h.rxLen, hbuf.trans h.rxBuf,
    ?_, ?_, ?_, h.seq, h.head, h.avail, h.fit, ?_, ?_, ?_, h.holds⟩
  · show lib'.sockAt _ = _
    rw [hat]
    exact h.sockAt
  · show ∀ e ∈ (outQueue g lib').items, _
    rw [hout]
    exact h.outMine
  · show ∀ e ∈ ((s.fast.setQueue _ _).equeues g.appBumpQid.toNat).items, _
    rw [hqueue]
    exact fun e he => h.appMine e (Fifo.pop_mem he)
  · show (libSock g lib').rxHead.toNat = _
    rw [hhead]
    exact h.libHead
  · show (libSock g lib').rxAvail.toNat +
      ((s.fast.setQueue _ _).equeues g.appBumpQid.toNat).sum appRxAmount + D = _
    rw [hqueue]
    omega
  · show (libSock g lib').rxBumpPending.toNat + (outQueue g lib').sum chamRxAmount + C = D
    rw [hout, hpend]
    exact h.freed

/-- **The application handles the head of its queue.** -/
theorem RxInv.poll (h : RxInv g S irs N D C s) : RxInv g S irs N D C (s.poll g) := by
  unfold Conn.poll
  dsimp only
  split
  · exact h
  · next e he =>
    rcases h.appMine e (Fifo.head_mem he) with ⟨k, rfl⟩ | ⟨p, i, a, rfl⟩
    · show RxInv g S irs N D C { fast := _, lib := handleTxBump s.lib g.opaquePtr k }
      rcases handleTxBump_spec h.owns h.sockAt k rfl with ⟨-, heq⟩ | hf
      · rw [heq]
        exact h.popApp he h.owns rfl rfl rfl rfl rfl rfl rfl
      · generalize (if k > (libSock g s.lib).txAvail then (libSock g s.lib).txAvail else k) = b
          at hf
        have hinv : RxInv g S irs N D C
            { fast := s.fast.setQueue g.appBumpQid.toNat (s.fast.equeues g.appBumpQid.toNat).pop
              lib := s.lib.setSock g.fd (libReleaseTx (libSock g s.lib) b) } := by
          refine h.popApp he (h.owns.edit rfl rfl rfl rfl rfl rfl) ?_ ?_ ?_ ?_ rfl rfl ?_
          all_goals
            rw [libSock_setSock]
            rfl
        exact hinv.flushed hf
    · -- the bytes it announces fit the library's ring, so the clamp does nothing
      have hfits : (libSock g s.lib).rxAvail.toNat + a.toNat ≤ g.rxLen.toNat := by
        have hle : a.toNat ≤ (s.fast.equeues g.appBumpQid.toNat).sum appRxAmount :=
          Fifo.le_sum appRxAmount he
        have := h.libAvail
        have := h.freed
        have := h.avail
        have := h.fit
        omega
      have hbound := h.lenBound
      have hsub := @toNat_sub_of_le (libSock g s.lib).rxLen (libSock g s.lib).rxAvail
        (by rw [h.rxLen]; omega)
      have hclamp : (if a > (libSock g s.lib).rxLen - (libSock g s.lib).rxAvail then
          (libSock g s.lib).rxLen - (libSock g s.lib).rxAvail else a) = a := by
        apply if_neg
        apply UInt32.not_lt.mpr
        apply UInt32.le_iff_toNat_le.mpr
        rw [hsub, h.rxLen]
        omega
      have hne : (libSock g s.lib).rxLen ≠ 0 := by
        intro hz
        rw [h.rxLen] at hz
        have := h.lenPos
        rw [hz] at this
        exact absurd this (by decide)
      show RxInv g S irs N D C { fast := _, lib := handleRxBump s.lib g.opaquePtr p i a }
      rcases handleRxBump_spec h.owns h.sockAt p i a hclamp with ⟨hz, heq⟩ | hf
      · obtain rfl := hz.resolve_left hne
        rw [heq]
        exact h.popApp he h.owns rfl rfl rfl rfl rfl rfl rfl
      · have hinv : RxInv g S irs N D C
            { fast := s.fast.setQueue g.appBumpQid.toNat (s.fast.equeues g.appBumpQid.toNat).pop
              lib := s.lib.setSock g.fd (libAnnounceRx (libSock g s.lib) p i a) } := by
          refine h.popApp he (h.owns.edit rfl rfl rfl rfl rfl rfl) ?_ ?_ ?_ ?_ rfl rfl ?_
          all_goals rw [libSock_setSock]
          · rfl
          · rfl
          · rfl
          · rfl
          · exact toNat_add_of_lt (by omega)
        exact hinv.flushed hf

theorem RxInv.load (h : RxInv g S irs N D C s) {ctx : TcpCtx} (hm : ctx.maps = s.fast.maps)
    (hs : ctx.shm = s.fast.shm) (hq : ctx.equeues = s.fast.equeues) :
    RxInv g S irs N D C { s with fast := ctx } := by
  have hc : Calm g s.fast ctx := calm_of_eq hm hs hq
  exact h.same (hc.rxSame h.fast)

/-- Bytes are freed and the entry is dropped from the queue. -/
theorem RxInv.freeOut (h : RxInv g S irs N D C s) {qe : TcpQe} {ctx' : TcpCtx}
    (hqe : (outQueue g s.lib).head? = some qe)
    (hf : RxFreed g s.fast ctx' (chamRxAmount qe)) :
    RxInv g S irs N D (C + chamRxAmount qe) { fast := ctx', lib := popOut g s.lib } := by
  have hsum := Fifo.pop_sum chamRxAmount hqe
  have hfreed := h.freed
  have hfit := h.fit
  have hav := h.avail
  have hfav := hf.avail
  refine ⟨h.lenPos, h.lenBound, hf.owns, h.owns.popOut, h.rxLen, h.rxBuf, h.sockAt, ?_, ?_, ?_, ?_,
    ?_, ?_, h.libHead, ?_, ?_, ?_⟩
  · show ∀ e ∈ (outQueue g (popOut g s.lib)).items, _
    rw [outQueue_popOut]
    exact fun e he => h.outMine e (Fifo.pop_mem he)
  · show ∀ e ∈ (ctx'.equeues g.appBumpQid.toNat).items, _
    rw [hf.queue]
    exact h.appMine
  · exact hf.seq.trans h.seq
  · show (sockOf ctx' g.sid).rxHead.toNat = _
    rw [hf.head, h.head, Nat.mod_add_mod]
  · show (sockOf ctx' g.sid).rxAvail.toNat + (C + chamRxAmount qe) = N
    omega
  · show (sockOf ctx' g.sid).rxAvail.toNat ≤ _
    omega
  · show (libSock g s.lib).rxAvail.toNat + (ctx'.equeues _).sum appRxAmount + D = _
    rw [hf.queue]
    exact h.libAvail
  · show (libSock g s.lib).rxBumpPending.toNat +
      (outQueue g (popOut g s.lib)).sum chamRxAmount + (C + chamRxAmount qe) = D
    rw [outQueue_popOut]
    omega
  · show Holds ctx'.shm _ _ _ _ _
    rw [hf.shm]
    exact h.holds.shrink (Nat.le_add_right _ _) (Nat.le_refl _)

/-- **The fast path dequeues a bump.** -/
theorem RxInv.deq (h : RxInv g S irs N D C s) (b : Buf) (qeOff : Nat) :
    ∃ C', RxInv g S irs N D C' (s.deq g b qeOff) := by
  unfold Conn.deq
  split
  · exact ⟨C, h⟩
  · next qe hqe =>
    dsimp only
    have hload : RxInv g S irs N D C { s with fast := { s.load b with qe, qeOff } } :=
      h.load rfl rfl rfl
    -- what the application freed is still counted as available here
    have hle : chamRxAmount qe ≤ (sockOf s.fast g.sid).rxAvail.toNat := by
      have hsum := Fifo.le_sum chamRxAmount hqe
      have := h.freed
      have := h.libAvail
      have := h.avail
      omega
    have hev := @tcpEventDeq_rx g { s.load b with qe, qeOff } hload.fast hload.room h.lenPos
      (h.outMine qe (Fifo.head_mem hqe)) (fastEbpfPktRoom_bounds b.virtGre).1 hle
    generalize tcpEventDeq { s.load b with qe, qeOff } = res at hev ⊢
    obtain ⟨ctx', ret⟩ := res
    rcases hev with ⟨⟨err, hret⟩, hs⟩ | ⟨⟨n, hret⟩, hf⟩
    · dsimp only at hret hs ⊢
      rw [hret]
      exact ⟨C, hload.same hs⟩
    · dsimp only at hret hf ⊢
      rw [hret]
      exact ⟨C + chamRxAmount qe, h.freeOut hqe ⟨hf.owns, hf.seq, hf.avail, hf.head, hf.queue, hf.shm⟩⟩

/-- A segment the scheduler sends, or a rewound socket, is not the receive
side's business. -/
theorem RxInv.retransmit (h : RxInv g S irs N D C s) (b : Buf)
    (sockId txSeq txPending : UInt32) (qeOff : Nat) :
    RxSame g s.fast (tcpEventDeq
      { s.load b with qe := .txRetransmit sockId txSeq txPending, qeOff }).1 := by
  generalize hctx : ({ s.load b with
    qe := .txRetransmit sockId txSeq txPending, qeOff } : TcpCtx) = ctx
  have hcalm : Calm g s.fast ctx := by
    rw [← hctx]
    exact calm_of_eq rfl rfl rfl
  have hq : ctx.qe = .txRetransmit sockId txSeq txPending := by rw [← hctx]
  have hsame := hcalm.rxSame h.fast
  unfold tcpEventDeq
  split
  · exact hsame
  · rw [hq]
    dsimp only
    rcases deqHandleRetransmit_conn g ctx sockId txSeq txPending with hc | ⟨j, hc⟩
    · exact hsame.trans (hc.rxSame hsame.owns)
    · obtain ⟨h₁, h₂, h₃⟩ := rewoundSock_rx (sockOf ctx j)
      have hset : RxSame g ctx (setSock ctx j (rewoundSock (sockOf ctx j))) :=
        rxSame_setSock hsame.owns (rewoundSock_ident _) h₁ h₂ h₃
      exact hsame.trans (hset.trans (hc.rxSame hset.owns))

theorem RxInv.sched (h : RxInv g S irs N D C s) (b : Buf) :
    RxSame g s.fast (tcpEventSched (s.load b)).1 := by
  obtain ⟨hr₁, hr₂⟩ := fastEbpfPktRoom_bounds b.virtGre
  have hcalm : Calm g s.fast (s.load b) := calm_of_eq rfl rfl rfl
  have hsame := hcalm.rxSame h.fast
  rcases @tcpEventSched_conn g (s.load b) hr₁ hr₂ with ⟨hc, -⟩ | ⟨j, k, -, -, -, -, -, -, hc, -⟩
  · exact hsame.trans (hc.rxSame hsame.owns)
  · have hset : RxSame g (s.load b)
        (setSock (s.load b) j (txSockTxBump (sockOf (s.load b) j) k)) :=
      rxSame_setSock hsame.owns rfl rfl rfl rfl
    exact hsame.trans (hset.trans (hc.rxSame hset.owns))

/-- A request that an `int` can count is cut to what is available. -/
theorem recvLen_le (sock : TcpSocketLib) (len : Nat) :
    (recvLen sock len).toNat ≤ sock.rxAvail.toNat := by
  unfold recvLen
  dsimp only
  rw [toNat_clamp]
  exact Nat.min_le_right _ _

/-- **The application reads.** It gets the next bytes of the stream. -/
theorem RxInv.recvfrom (h : RxInv g S irs N D C s) (len : Nat) (addrOk : Bool)
    (hint : (recvLen (libSock g s.lib) len).toNat < 2147483648) :
    ((tcpRecvfrom s.lib s.fast.shm g.ctxId g.fd len addrOk).2 = .ret (-1) [] ∧
      RxInv g S irs N D C
        { s with lib := (tcpRecvfrom s.lib s.fast.shm g.ctxId g.fd len addrOk).1 }) ∨
    ∃ n : Nat, (tcpRecvfrom s.lib s.fast.shm g.ctxId g.fd len addrOk).2 =
        .ret n ((List.range n).map (fun i => S (D + i))) ∧
      RxInv g S irs N (D + n) C
        { s with lib := (tcpRecvfrom s.lib s.fast.shm g.ctxId g.fd len addrOk).1 } := by
  have hle := recvLen_le (libSock g s.lib) len
  have hlen := h.rxLen
  have hbound := h.lenBound
  have hfit := h.fit
  have hlib := h.libAvail
  have hfreed := h.freed
  have hav := h.avail
  have hhead : (libSock g s.lib).rxHead.toNat < (libSock g s.lib).rxLen.toNat := by
    rw [h.libHead, hlen]
    exact Nat.mod_lt _ h.lenPos
  have hcopy := @libCopyOut_eq (libSock g s.lib) s.fast.shm _ hhead
    (by rw [hlen]; omega) (by rw [hlen] at hhead ⊢; omega) hint
  rcases tcpRecvfrom_spec h.owns s.fast.shm len addrOk with
    ⟨hlib', hret⟩ | ⟨-, -, hnone⟩ | ⟨bytes, hpos, hsome, hret, hf⟩
  · rw [hlib']
    exact Or.inl ⟨hret, h⟩
  · rw [hcopy] at hnone
    cases hnone
  · right
    generalize recvLen (libSock g s.lib) len = n at hint hle hcopy hpos hsome hret hf
    have hs32 : s32 n = (n.toNat : Int) := by
      rw [s32_eq, if_pos hint]
    have hbytes : bytes = (List.range n.toNat).map (fun i => S (D + i)) := by
      rw [hcopy] at hsome
      rw [← Option.some.inj hsome]
      apply List.map_congr_left
      intro i hi
      have hi' := List.mem_range.mp hi
      rw [h.libHead, hlen, h.rxBuf]
      exact h.holds.read h.lenPos (by omega) (by omega) (by omega) hi'
    refine ⟨n.toNat, by rw [hret, hs32, hbytes], ?_⟩
    have hmid : RxInv g S irs N (D + n.toNat) C
        { s with lib := s.lib.setSock g.fd (libConsumeRx (libSock g s.lib) n) } := by
      refine ⟨h.lenPos, h.lenBound, h.fast, h.owns.edit rfl rfl rfl rfl rfl rfl, ?_, ?_, h.sockAt,
        h.outMine, h.appMine, h.seq, h.head, h.avail, h.fit, ?_, ?_, ?_, h.holds⟩
      all_goals rw [libSock_setSock]
      · exact hlen
      · exact h.rxBuf
      · show (wrapAdd (libSock g s.lib).rxHead n (libSock g s.lib).rxLen).toNat = _
        rw [toNat_wrapAdd hhead (by rw [hlen]; omega) (by rw [hlen] at hhead; omega), h.libHead,
          hlen, Nat.mod_add_mod]
      · show ((libSock g s.lib).rxAvail - n).toNat + _ + _ = _
        rw [toNat_sub_of_le hle]
        show _ + (s.fast.equeues g.appBumpQid.toNat).sum appRxAmount + _ = _
        omega
      · show ((libSock g s.lib).rxBumpPending + n).toNat + _ + C = _
        rw [toNat_add_of_lt (by omega)]
        show _ + (outQueue g s.lib).sum chamRxAmount + C = _
        omega
    exact hmid.flushed hf

end step

end Chamelio.Tcp
