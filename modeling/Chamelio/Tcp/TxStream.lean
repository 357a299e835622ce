import Chamelio.Tcp.TxMove

/-!
# Transmit stream conservation

Five counters on two sides of two queues say which bytes of the stream are
where. With `W` the bytes the application wrote, `A` of them acknowledged
and `R` of those already released to the application:

- the library's ring holds the offsets from `R` up to `W`,
- the socket's head and sequence number stand at `A`,
- what separates `R` from `A` is in flight to the application, and what
  separates `A` from `W` is pending, available, in flight to the fast path,
  or not yet flushed.

Every step keeps this, so the bytes a segment carries are those written at
the offsets its sequence number stands for.
-/

namespace Chamelio.Tcp

open Chamelio.Lib Chamelio.Util Chamelio.Pkt Chamelio.Fast

/-! ## The other fast-path events -/

theorem wrapAdd_zero {head len : UInt32} (h : 0 < len.toNat → head.toNat < len.toNat) :
    wrapAdd head 0 len = head := by
  have hz : head + 0 = head := UInt32.add_zero head
  unfold wrapAdd
  rw [hz]
  split
  · next hge =>
    have hge' := UInt32.le_iff_toNat_le.mp hge
    have hlen : len = 0 := by
      rw [u32_eq_zero_iff]
      by_contra hne
      have := h (by omega)
      omega
    rw [hlen, UInt32.sub_zero]
  · rfl

/-- **A bump from the application** is refused and stays queued, or its
bytes become available. -/
theorem tcpEventDeq_fastTx {g : ConnId} {ctx : TcpCtx} (h : TxReady g ctx)
    (hmine : OutMine g ctx.qe) (hrx : chamRxAmount ctx.qe = 0) (hroom : 1472 ≤ ctx.pktRoom)
    (hfit : (sockOf ctx g.sid).txPending.toNat + (sockOf ctx g.sid).txAvail.toNat +
      chamTxAmount ctx.qe ≤ g.txLen.toNat) :
    ((∃ err, (tcpEventDeq ctx).2 = .error err) ∧ FastTx g ctx (tcpEventDeq ctx).1 0 0) ∨
    ((∃ n, (tcpEventDeq ctx).2 = .ok n) ∧
      FastTx g ctx (tcpEventDeq ctx).1 0 (chamTxAmount ctx.qe)) := by
  have hself : FastTx g ctx ctx 0 0 := (Calm.refl g ctx).fastTx h
  unfold tcpEventDeq
  split
  · exact Or.inl ⟨⟨_, rfl⟩, hself⟩
  · rcases hmine with ⟨p, i, a, he⟩ | ⟨a, he⟩
    · rw [he] at hfit ⊢
      rcases deqHandleBumpTx_conn h.owns p i a with ⟨err, heq⟩ | ⟨hret, hc⟩
      · dsimp only
        rw [heq]
        exact Or.inl ⟨⟨err, rfl⟩, hself⟩
      · right
        have hmove := deqSockBumpTx_move h.tx p i a (by rw [h.owns.txLen]; exact hfit)
        have hset : FastTx g ctx
            (setSock ctx g.sid (deqSockBumpTx (sockOf ctx g.sid) p i a)) 0 a.toNat :=
          fastTx_setSock h rfl hmove (h.rx.congr rfl rfl rfl) rfl
        refine ⟨⟨0, hret⟩, ?_⟩
        have hready := hset.ready h hfit
        exact hset.trans (hc.fastTx hready)
    · rw [he] at hrx ⊢
      have ha : a = 0 := (u32_eq_zero_iff a).mpr hrx
      subst ha
      rcases deqHandleBumpRx_conn h.owns hroom 0 with ⟨err, heq⟩ | ⟨⟨n, hret⟩, hc⟩
      · dsimp only
        rw [heq]
        exact Or.inl ⟨⟨err, rfl⟩, hself⟩
      · right
        have hhead : wrapAdd (sockOf ctx g.sid).rxHead 0 (sockOf ctx g.sid).rxLen =
          (sockOf ctx g.sid).rxHead := wrapAdd_zero h.rx.head
        have hset : FastTx g ctx (setSock ctx g.sid (deqSockBumpRx (sockOf ctx g.sid) 0)) 0 0 :=
          fastTx_setSock h rfl (txMove_zero h.tx rfl rfl rfl rfl)
            (h.rx.congr (UInt32.sub_zero _) hhead rfl) rfl
        exact ⟨⟨n, hret⟩, hset.trans (hc.fastTx (hset.ready_of_none h))⟩

/-- Rewinding a socket, this one or another. -/
theorem fastTx_rewound {g : ConnId} {ctx : TcpCtx} (h : TxReady g ctx) (j : Nat) :
    FastTx g ctx (setSock ctx j (rewoundSock (sockOf ctx j))) 0 0 := by
  have hid := rewoundSock_ident (sockOf ctx j)
  by_cases hj : g.sid = j
  · subst hj
    have hrx := rewoundSock_rx (sockOf ctx g.sid)
    exact fastTx_setSock h hid (rewoundSock_move h.tx)
      (h.rx.congr hrx.2.1 hrx.2.2 (ident_rxLen hid)) rfl
  · exact fastTx_setSock_ne h hid hj

/-- **A retransmit command.** -/
theorem retransmit_fastTx {g : ConnId} {ctx : TcpCtx} (h : TxReady g ctx)
    {sockId txSeq txPending : UInt32} (hqe : ctx.qe = .txRetransmit sockId txSeq txPending) :
    FastTx g ctx (tcpEventDeq ctx).1 0 0 := by
  unfold tcpEventDeq
  split
  · exact (Calm.refl g ctx).fastTx h
  · rw [hqe]
    dsimp only
    rcases deqHandleRetransmit_conn g ctx sockId txSeq txPending with hc | ⟨j, hc⟩
    · exact hc.fastTx h
    · have hset := fastTx_rewound h j
      exact hset.trans (hc.fastTx (hset.ready_of_none h))

/-- **A scheduler event.** -/
theorem tcpEventSched_fastTx {g : ConnId} {ctx : TcpCtx} (h : TxReady g ctx)
    (h₁ : 1472 ≤ ctx.pktRoom) (h₂ : ctx.pktRoom ≤ 1500) :
    FastTx g ctx (tcpEventSched ctx).1 0 0 := by
  rcases tcpEventSched_conn g h₁ h₂ with ⟨hc, -⟩ | ⟨j, b, -, -, -, -, hb, -, hc, -⟩
  · exact hc.fastTx h
  · have hset : FastTx g ctx (setSock ctx j (txSockTxBump (sockOf ctx j) b)) 0 0 := by
      by_cases hj : g.sid = j
      · subst hj
        exact fastTx_setSock h rfl (txSockTxBump_move h.tx hb) (h.rx.congr rfl rfl rfl) rfl
      · exact fastTx_setSock_ne h rfl hj
    exact hset.trans (hc.fastTx (hset.ready_of_none h))

/-! ## The packet a scheduler event leaves -/

theorem txFillHdr_seqno (ctx : TcpCtx) (sid : Nat) (hdrlen paylen : UInt32) :
    tcpSeqno (txFillHdr ctx sid hdrlen paylen).pkt =
      (sockOf ctx sid).txSeq + (sockOf ctx sid).txPending := by
  have hpkt : (txFillHdr ctx sid hdrlen paylen).pkt =
      txHdrBytes ctx.pkt (sockOf ctx sid) hdrlen paylen (tcpNowUs ctx).1 := by
    unfold txFillHdr
    dsimp only
    split <;> rfl
  rw [hpkt]
  unfold tcpSeqno txHdrBytes txWriteTsopt
  dsimp only
  -- the fields written later lie behind the sequence number
  refine (be32_congr ?_).trans (be32_put32 ?_ 24 _)
  intro i hlo hhi
  rw [put16_out _ _ (by omega), put32_out _ _ (by omega), put32_out _ _ (by omega),
    put8_ne _ _ (by omega), put8_ne _ _ (by omega), put16_out _ _ (by omega),
    put16_out _ _ (by omega), put16_out _ _ (by omega), put16_out _ _ (by omega),
    put32_out _ _ (by omega)]

/-- A segment for the connection: its sequence number, and its payload out
of the transmit ring. -/
theorem tcpEventSched_segment {g : ConnId} {ctx : TcpCtx} (h : TxReady g ctx)
    (h₁ : 1472 ≤ ctx.pktRoom) (h₂ : ctx.pktRoom ≤ 1500) (htgt : schedTarget ctx = some g.sid)
    {n i : Nat} (hret : (tcpEventSched ctx).2 = .ok n) (hi : 52 + i < n) :
    tcpSeqno (tcpEventSched ctx).1.pkt =
      (sockOf ctx g.sid).txSeq + (sockOf ctx g.sid).txPending ∧
    i < (sockOf ctx g.sid).txAvail.toNat ∧
    (tcpEventSched ctx).1.pkt (52 + i) = ctx.shm (g.txOff.toNat +
      ((sockOf ctx g.sid).txHead.toNat + (sockOf ctx g.sid).txPending.toNat + i) %
        g.txLen.toNat) := by
  rcases tcpEventSched_conn g h₁ h₂ with
    ⟨-, hle⟩ | ⟨j, b, ctx₀, sock, hj, -, hb, hmax, -, hok, hbare, hshm, hsock, hpkt⟩
  · have := hle n hret
    omega
  · obtain rfl : j = g.sid := Option.some.inj (hj.symm.trans htgt)
    rw [hret] at hok
    cases hok
    have hlen : sock.txLen = (sockOf ctx g.sid).txLen := (congrArg TcpSock.txLen hbare :)
    have hhead : sock.txHead = (sockOf ctx g.sid).txHead := (congrArg TcpSock.txHead hbare :)
    have hpend : sock.txPending = (sockOf ctx g.sid).txPending :=
      (congrArg TcpSock.txPending hbare :)
    have hoff : sock.txOff = (sockOf ctx g.sid).txOff := (congrArg TcpSock.txOff hbare :)
    have hroom := h.tx.head
    have hfit := h.tx.fit
    have hbound := h.tx.len
    have hfill : (txFillHdr ctx₀ g.sid txGetHdrlen b).shm = ctx.shm := by
      rw [(quiet_txFillHdr ctx₀ g.sid txGetHdrlen b).shm, hshm]
    obtain ⟨hpay, hhdr⟩ := @txCopyPayload_pkt (txFillHdr ctx₀ g.sid txGetHdrlen b) sock
      txGetHdrlen b
      (by rw [hhead, hlen]; exact hroom) (by rw [hpend, hlen]; omega)
      (by rw [hhead, hlen]; omega)
    have h52 : txGetHdrlen.toNat = 52 := rfl
    rw [h52] at hpay hhdr
    rw [hpkt]
    refine ⟨?_, by omega, ?_⟩
    · rw [← hsock, ← txFillHdr_seqno ctx₀ g.sid txGetHdrlen b]
      unfold tcpSeqno
      apply be32_congr
      intro k _ hk
      exact hhdr k (by omega)
    · rw [hpay i (by omega), hfill, hhead, hpend, hlen, hoff,
        ringRead_eq (Nat.mod_lt _ (by omega)) (by omega) (by omega), Nat.mod_add_mod,
        h.owns.txLen, h.owns.txOff]

/-! ## The invariant -/

/-- The bytes a step wrote. -/
def Out.written : Out → List UInt8
  | .wrote bytes => bytes
  | _ => []

/-- The stream written so far. -/
def written (log : List Out) : List UInt8 := log.flatMap Out.written

/-- Where each byte of the written stream `W` is: `R` released to the
application, `A` acknowledged on the fast path. -/
structure TxInv (g : ConnId) (isn : UInt32) (W : List UInt8) (R A : Nat) (s : Conn) : Prop where
  ready : TxReady g s.fast
  owns : LibOwns g s.lib
  txLen : (libSock g s.lib).txLen = g.txLen
  txBuf : (libSock g s.lib).txBuf = g.txOff
  sockAt : s.lib.sockAt g.opaquePtr = some g.fd
  outMine : ∀ e ∈ (outQueue g s.lib).items, OutMine g e
  appMine : ∀ e ∈ (s.fast.equeues g.appBumpQid.toNat).items, AppMine g e
  noRx : (libSock g s.lib).rxBumpPending.toNat + (outQueue g s.lib).sum chamRxAmount = 0
  seq : (sockOf s.fast g.sid).txSeq = serial isn A
  head : (sockOf s.fast g.sid).txHead.toNat = A % g.txLen.toNat
  libHead : (libSock g s.lib).txHead.toNat = R % g.txLen.toNat
  ring : (libSock g s.lib).txAvail.toNat + R = W.length
  fit : (libSock g s.lib).txAvail.toNat ≤ g.txLen.toNat
  acked : A = R + (s.fast.equeues g.appBumpQid.toNat).sum appTxAmount
  rest : A + (sockOf s.fast g.sid).txPending.toNat + (sockOf s.fast g.sid).txAvail.toNat +
    (outQueue g s.lib).sum chamTxAmount + (libSock g s.lib).txBumpPending.toNat = W.length
  holds : Holds s.fast.shm g.txOff.toNat g.txLen.toNat R W.length (fun o => W.getD o 0)

section step

variable {g : ConnId} {isn : UInt32} {W : List UInt8} {R A : Nat} {s : Conn}

theorem TxInv.lenPos (h : TxInv g isn W R A s) : 0 < g.txLen.toNat := by
  have := h.ready.tx.head
  rw [h.ready.owns.txLen] at this
  omega

/-- A fast-path event that takes `n` bytes off the queue `lib'` is left with. -/
theorem TxInv.fast (h : TxInv g isn W R A s) {ctx' : TcpCtx} {lib' : TcpLib} {k n : Nat}
    (hf : FastTx g s.fast ctx' k n) (howns : LibOwns g lib')
    (hsock : libSock g lib' = libSock g s.lib) (hat : lib'.sockAt = s.lib.sockAt)
    (hsub : ∀ e ∈ (outQueue g lib').items, e ∈ (outQueue g s.lib).items)
    (htx : (outQueue g s.lib).sum chamTxAmount = n + (outQueue g lib').sum chamTxAmount)
    (hrx : (outQueue g lib').sum chamRxAmount ≤ (outQueue g s.lib).sum chamRxAmount) :
    TxInv g isn W R (A + k) { fast := ctx', lib := lib' } := by
  have hrest := h.rest
  have hring := h.ring
  have hfit := h.fit
  have hacked := h.acked
  have hbytes := hf.move.bytes
  have hlen := h.ready.owns.txLen
  refine ⟨hf.ready h.ready (by omega), howns, ?_, ?_, ?_, ?_, ?_, ?_, ?_, ?_, ?_, ?_, ?_, ?_, ?_, ?_⟩
  · rw [hsock]
    exact h.txLen
  · rw [hsock]
    exact h.txBuf
  · rw [hat]
    exact h.sockAt
  · intro e he
    exact h.outMine e (hsub e he)
  · intro e he
    rcases hf.mine e he with he | he
    · exact h.appMine e he
    · exact he
  · have := h.noRx
    show (libSock g lib').rxBumpPending.toNat + (outQueue g lib').sum chamRxAmount = 0
    rw [hsock]
    omega
  · show (sockOf ctx' g.sid).txSeq = _
    apply UInt32.toNat_inj.mp
    rw [hf.move.seq, h.seq, serial_toNat, serial_toNat, serial_toNat]
    omega
  · show (sockOf ctx' g.sid).txHead.toNat = _
    rw [hf.move.head, h.head, hlen, Nat.mod_add_mod]
  · rw [hsock]
    exact h.libHead
  · rw [hsock]
    exact hring
  · rw [hsock]
    exact hfit
  · show A + k = R + (ctx'.equeues g.appBumpQid.toNat).sum appTxAmount
    rw [hf.app]
    omega
  · show A + k + (sockOf ctx' g.sid).txPending.toNat + (sockOf ctx' g.sid).txAvail.toNat +
      (outQueue g lib').sum chamTxAmount + (libSock g lib').txBumpPending.toNat = _
    rw [hsock]
    omega
  · exact Holds.frame h.lenPos hf.ring h.holds

/-- An event that leaves the queue alone. -/
theorem TxInv.event (h : TxInv g isn W R A s) {ctx' : TcpCtx} {k : Nat}
    (hf : FastTx g s.fast ctx' k 0) : TxInv g isn W R (A + k) { s with fast := ctx' } :=
  h.fast hf h.owns rfl rfl (fun _ he => he) (Nat.zero_add _).symm (Nat.le_refl _)

/-- A flush moves pending bytes into the queue. -/
theorem TxInv.flushed (h : TxInv g isn W R A s) {lib' : TcpLib} (hf : Flushed g s.lib lib') :
    TxInv g isn W R A { s with lib := lib' } := by
  have htx := hf.tx
  have hrx := hf.rx
  have hrest := h.rest
  have hno := h.noRx
  have hlen : (libSock g lib').txLen = (libSock g s.lib).txLen :=
    (congrArg TcpSocketLib.txLen hf.sock :)
  have hbuf : (libSock g lib').txBuf = (libSock g s.lib).txBuf :=
    (congrArg TcpSocketLib.txBuf hf.sock :)
  have hhead : (libSock g lib').txHead = (libSock g s.lib).txHead :=
    (congrArg TcpSocketLib.txHead hf.sock :)
  have havail : (libSock g lib').txAvail = (libSock g s.lib).txAvail :=
    (congrArg TcpSocketLib.txAvail hf.sock :)
  refine ⟨h.ready, hf.owns, ?_, ?_, ?_, ?_, h.appMine, ?_, h.seq, h.head, ?_, ?_, ?_, h.acked, ?_,
    h.holds⟩
  · exact hlen.trans h.txLen
  · exact hbuf.trans h.txBuf
  · show lib'.sockAt _ = _
    rw [hf.sockAt]
    exact h.sockAt
  · intro e he
    rcases hf.mine e he with he | he
    · exact h.outMine e he
    · exact he
  · show (libSock g lib').rxBumpPending.toNat + (outQueue g lib').sum chamRxAmount = 0
    omega
  · show (libSock g lib').txHead.toNat = _
    rw [hhead]
    exact h.libHead
  · show (libSock g lib').txAvail.toNat + R = _
    rw [havail]
    exact h.ring
  · show (libSock g lib').txAvail.toNat ≤ _
    rw [havail]
    exact h.fit
  · show A + (sockOf s.fast g.sid).txPending.toNat + (sockOf s.fast g.sid).txAvail.toNat +
      (outQueue g lib').sum chamTxAmount + (libSock g lib').txBumpPending.toNat = _
    omega

/-- The application takes the head entry off its queue and releases what it
announces. -/
theorem TxInv.popApp (h : TxInv g isn W R A s) {e : TcpQe} {lib' : TcpLib}
    (he : (s.fast.equeues g.appBumpQid.toNat).head? = some e) (howns : LibOwns g lib')
    (hlen : (libSock g lib').txLen = (libSock g s.lib).txLen)
    (hbuf : (libSock g lib').txBuf = (libSock g s.lib).txBuf)
    (htxp : (libSock g lib').txBumpPending = (libSock g s.lib).txBumpPending)
    (hrxp : (libSock g lib').rxBumpPending = (libSock g s.lib).rxBumpPending)
    (hout : outQueue g lib' = outQueue g s.lib) (hat : lib'.sockAt = s.lib.sockAt)
    (hhead : (libSock g lib').txHead.toNat = (R + appTxAmount e) % g.txLen.toNat)
    (havail : (libSock g lib').txAvail.toNat + appTxAmount e = (libSock g s.lib).txAvail.toNat) :
    TxInv g isn W (R + appTxAmount e) A
      { fast := s.fast.setQueue g.appBumpQid.toNat (s.fast.equeues g.appBumpQid.toNat).pop
        lib := lib' } := by
  have hsum := Fifo.pop_sum appTxAmount he
  have hfit := h.fit
  have hring := h.ring
  have hacked := h.acked
  have hqueue : (s.fast.setQueue g.appBumpQid.toNat
      (s.fast.equeues g.appBumpQid.toNat).pop).equeues g.appBumpQid.toNat =
      (s.fast.equeues g.appBumpQid.toNat).pop := EbpfCtx.setQueue_self _ _ _
  refine ⟨⟨h.ready.owns.setQueue _ _, h.ready.tx, h.ready.rx⟩, howns, hlen.trans h.txLen,
    hbuf.trans h.txBuf, ?_, ?_, ?_, ?_, h.seq, h.head, hhead, ?_, ?_, ?_, ?_,
    h.holds.shrink (Nat.le_add_right _ _) (Nat.le_refl _)⟩
  · show lib'.sockAt _ = _
    rw [hat]
    exact h.sockAt
  · show ∀ e ∈ (outQueue g lib').items, _
    rw [hout]
    exact h.outMine
  · show ∀ e ∈ ((s.fast.setQueue _ _).equeues g.appBumpQid.toNat).items, _
    rw [hqueue]
    exact fun e he => h.appMine e (Fifo.pop_mem he)
  · show (libSock g lib').rxBumpPending.toNat + (outQueue g lib').sum chamRxAmount = 0
    rw [hout, hrxp]
    exact h.noRx
  · show (libSock g lib').txAvail.toNat + (R + appTxAmount e) = _
    omega
  · show (libSock g lib').txAvail.toNat ≤ _
    omega
  · show A = R + appTxAmount e +
      ((s.fast.setQueue _ _).equeues g.appBumpQid.toNat).sum appTxAmount
    rw [hqueue]
    omega
  · show A + (sockOf s.fast g.sid).txPending.toNat + (sockOf s.fast g.sid).txAvail.toNat +
      (outQueue g lib').sum chamTxAmount + (libSock g lib').txBumpPending.toNat = _
    rw [hout, htxp]
    exact h.rest

/-- **The application handles the head of its queue.** -/
theorem TxInv.poll (h : TxInv g isn W R A s) : ∃ R', TxInv g isn W R' A (s.poll g) := by
  have hlib : (libSock g s.lib).txHead.toNat < g.txLen.toNat := by
    rw [h.libHead]
    exact Nat.mod_lt _ h.lenPos
  have hlen : g.txLen.toNat ≤ 2147483648 := by
    have := h.ready.tx.len
    rw [h.ready.owns.txLen] at this
    exact this
  have hself : (libSock g s.lib).txHead.toNat = (R + 0) % g.txLen.toNat := h.libHead
  unfold Conn.poll
  dsimp only
  split
  · exact ⟨R, h⟩
  · next e he =>
    rcases h.appMine e (Fifo.head_mem he) with ⟨k, rfl⟩ | ⟨p, i, a, rfl⟩
    · -- the bytes it announces are in the ring, so the clamp does nothing
      have hk : k.toNat ≤ (libSock g s.lib).txAvail.toNat := by
        have hle : k.toNat ≤ (s.fast.equeues g.appBumpQid.toNat).sum appTxAmount :=
          Fifo.le_sum appTxAmount he
        have := h.acked
        have := h.rest
        have := h.ring
        omega
      have hclamp : (if k > (libSock g s.lib).txAvail then (libSock g s.lib).txAvail else k) =
          k := if_neg (UInt32.not_lt.mpr (UInt32.le_iff_toNat_le.mpr hk))
      have hne : (libSock g s.lib).txLen ≠ 0 := by
        intro hz
        rw [h.txLen] at hz
        have := h.lenPos
        rw [hz] at this
        exact absurd this (by decide)
      show ∃ R', TxInv g isn W R' A { fast := _, lib := handleTxBump s.lib g.opaquePtr k }
      rcases handleTxBump_spec h.owns h.sockAt k hclamp with ⟨hz, heq⟩ | hf
      · rw [heq]
        obtain rfl := hz.resolve_left hne
        exact ⟨_, h.popApp he h.owns rfl rfl rfl rfl rfl rfl hself rfl⟩
      · have hwrap : (wrapAdd (libSock g s.lib).txHead k (libSock g s.lib).txLen).toNat =
            (R + k.toNat) % g.txLen.toNat := by
          have hfit := h.fit
          rw [toNat_wrapAdd (by rw [h.txLen]; exact hlib) (by rw [h.txLen]; omega) (by omega),
            h.txLen, h.libHead, Nat.mod_add_mod]
        have hinv : TxInv g isn W (R + k.toNat) A
            { fast := s.fast.setQueue g.appBumpQid.toNat (s.fast.equeues g.appBumpQid.toNat).pop
              lib := s.lib.setSock g.fd (libReleaseTx (libSock g s.lib) k) } := by
          refine h.popApp he (h.owns.edit rfl rfl rfl rfl rfl rfl) ?_ ?_ ?_ ?_ rfl rfl ?_ ?_
          all_goals rw [libSock_setSock]
          · rfl
          · rfl
          · rfl
          · rfl
          · exact hwrap
          · show ((libSock g s.lib).txAvail - k).toNat + k.toNat = _
            rw [toNat_sub_of_le hk]
            omega
        exact ⟨_, hinv.flushed hf⟩
    · show ∃ R', TxInv g isn W R' A { fast := _, lib := handleRxBump s.lib g.opaquePtr p i a }
      rcases handleRxBump_spec h.owns h.sockAt p i a rfl with ⟨-, heq⟩ | hf
      · rw [heq]
        exact ⟨_, h.popApp he h.owns rfl rfl rfl rfl rfl rfl hself rfl⟩
      · generalize (if a > (libSock g s.lib).rxLen - (libSock g s.lib).rxAvail then
          (libSock g s.lib).rxLen - (libSock g s.lib).rxAvail else a) = b at hf
        have hinv : TxInv g isn W (R + 0) A
            { fast := s.fast.setQueue g.appBumpQid.toNat (s.fast.equeues g.appBumpQid.toNat).pop
              lib := s.lib.setSock g.fd (libAnnounceRx (libSock g s.lib) p i b) } := by
          refine h.popApp he (h.owns.edit rfl rfl rfl rfl rfl rfl) ?_ ?_ ?_ ?_ rfl rfl ?_ ?_
          all_goals rw [libSock_setSock]
          · rfl
          · rfl
          · rfl
          · rfl
          · exact hself
          · rfl
        exact ⟨_, hinv.flushed hf⟩

theorem TxReady.load (h : TxReady g s.fast) (b : Buf) : TxReady g (s.load b) :=
  ⟨h.owns.of_maps rfl, h.tx, h.rx⟩

/-- **The fast path dequeues a bump.** -/
theorem TxInv.deq (h : TxInv g isn W R A s) (b : Buf) (qeOff : Nat) :
    TxInv g isn W R A (s.deq g b qeOff) := by
  unfold Conn.deq
  split
  · exact h
  · next qe hqe =>
    dsimp only
    have hmine : OutMine g qe := h.outMine qe (Fifo.head_mem hqe)
    have htx := Fifo.pop_sum chamTxAmount hqe
    have hrx := Fifo.pop_sum chamRxAmount hqe
    have hno := h.noRx
    have hrest := h.rest
    have hring := h.ring
    have hfit := h.fit
    have hacked := h.acked
    have hready : TxReady g { s.load b with qe, qeOff } :=
      ⟨h.ready.owns.of_maps rfl, h.ready.tx, h.ready.rx⟩
    have hfast := tcpEventDeq_fastTx hready hmine (show chamRxAmount qe = 0 by omega)
      (fastEbpfPktRoom_bounds b.virtGre).1 (show (sockOf s.fast g.sid).txPending.toNat +
        (sockOf s.fast g.sid).txAvail.toNat + chamTxAmount qe ≤ g.txLen.toNat by omega)
    generalize tcpEventDeq { s.load b with qe, qeOff } = res at hfast ⊢
    obtain ⟨ctx', ret⟩ := res
    rcases hfast with ⟨⟨err, hret⟩, hf⟩ | ⟨⟨n, hret⟩, hf⟩
    · dsimp only at hret hf ⊢
      rw [hret]
      have hf' : FastTx g s.fast ctx' 0 0 := ⟨hf.owns, hf.move, hf.rx, hf.app, hf.mine, hf.ring⟩
      exact h.event hf'
    · dsimp only at hret hf ⊢
      rw [hret]
      have hf' : FastTx g s.fast ctx' 0 (chamTxAmount qe) :=
        ⟨hf.owns, hf.move, hf.rx, hf.app, hf.mine, hf.ring⟩
      refine h.fast hf' h.owns.popOut rfl rfl ?_ ?_ ?_
      · rw [outQueue_popOut]
        exact fun e he => Fifo.pop_mem he
      · rw [outQueue_popOut]
        exact htx
      · rw [outQueue_popOut]
        omega

/-- What `tcp_sendto` accepts fits the free part of the ring. -/
theorem sendtoLen_le {sock : TcpSocketLib} (len : Nat)
    (h : sock.txAvail.toNat ≤ sock.txLen.toNat) :
    sock.txAvail.toNat + (sendtoLen sock len).toNat ≤ sock.txLen.toNat ∧
    (sendtoLen sock len).toNat ≤ len := by
  have hsub := toNat_sub_of_le h
  have hof : (UInt32.ofNat len).toNat ≤ len := by
    rw [UInt32.toNat_ofNat']
    exact Nat.mod_le _ _
  have hclamp := toNat_clamp (UInt32.ofNat len) (sock.txLen - sock.txAvail)
  unfold sendtoLen
  dsimp only
  rw [hclamp]
  omega

/-- **The application appends bytes.** -/
theorem TxInv.sendto (h : TxInv g isn W R A s) (buf : List UInt8) (addr : Option SockAddr) :
    TxInv g isn (W ++ (s.step g (.sendto buf addr)).2.written) R A
      (s.step g (.sendto buf addr)).1 := by
  unfold Conn.step Out.written
  dsimp only
  rcases tcpSendto_spec h.owns s.fast.shm buf addr with ⟨hlib, hshm⟩ | ⟨ip, port, hpos, hshm, hf⟩
  · rw [hlib, hshm, Nat.sub_self, List.take_zero, List.append_nil]
    exact h
  · have hle : (libSock g s.lib).txAvail.toNat ≤ (libSock g s.lib).txLen.toNat := by
      rw [h.txLen]
      exact h.fit
    obtain ⟨hfit, hlen⟩ := sendtoLen_le buf.length hle
    generalize sendtoLen (libSock g s.lib) buf.length = n at hpos hshm hf hfit hlen
    generalize (tcpSendto s.lib s.fast.shm g.ctxId g.fd buf addr).2.1 = shm' at hshm ⊢
    generalize (tcpSendto s.lib s.fast.shm g.ctxId g.fd buf addr).1 = lib' at hf ⊢
    have hbound : g.txLen.toNat ≤ 2147483648 := by
      have := h.ready.tx.len
      rw [h.ready.owns.txLen] at this
      exact this
    have hlt : (libSock g s.lib).txHead.toNat < (libSock g s.lib).txLen.toNat := by
      rw [h.libHead, h.txLen]
      exact Nat.mod_lt _ h.lenPos
    have hring := h.ring
    have hrest := h.rest
    have hadd : ((libSock g s.lib).txAvail + n).toNat = (libSock g s.lib).txAvail.toNat + n.toNat :=
      toNat_add_of_lt (by rw [h.txLen] at hfit; omega)
    have hpend : ((libSock g s.lib).txBumpPending + n).toNat =
        (libSock g s.lib).txBumpPending.toNat + n.toNat :=
      toNat_add_of_lt (by
        have := h.acked
        rw [h.txLen] at hfit
        omega)
    have havail : (libSock g lib').txAvail = (libSock g s.lib).txAvail + n := by
      have heq : (libSock g lib').txAvail = (libSock g (s.lib.setSock g.fd
          (libAppendTx (libSock g s.lib) ip port n))).txAvail :=
        (congrArg TcpSocketLib.txAvail hf.sock :)
      rw [heq, libSock_setSock]
      rfl
    have htake : (libSock g lib').txAvail.toNat - (libSock g s.lib).txAvail.toNat = n.toNat := by
      rw [havail, hadd]
      omega
    have hnew : (buf.take n.toNat).length = n.toNat := by
      rw [List.length_take]
      omega
    rw [htake]
    have hcopy := libCopyIn_eq s.fast.shm buf hlt hfit (by rw [h.txLen] at hlt ⊢; omega)
    have hmid : TxInv g isn (W ++ buf.take n.toNat) R A
        { fast := { s.fast with shm := shm' }
          lib := s.lib.setSock g.fd (libAppendTx (libSock g s.lib) ip port n) } := by
      refine ⟨⟨h.ready.owns.of_maps rfl, h.ready.tx, h.ready.rx⟩,
        h.owns.edit rfl rfl rfl rfl rfl rfl, ?_, ?_, h.sockAt, h.outMine, h.appMine, ?_, h.seq,
        h.head, ?_, ?_, ?_, h.acked, ?_, ?_⟩
      all_goals try rw [libSock_setSock]
      · exact h.txLen
      · exact h.txBuf
      · exact h.noRx
      · exact h.libHead
      · show ((libSock g s.lib).txAvail + n).toNat + R = _
        rw [hadd, List.length_append, hnew]
        omega
      · show ((libSock g s.lib).txAvail + n).toNat ≤ _
        rw [hadd, ← h.txLen]
        exact hfit
      · show A + _ + _ + _ + ((libSock g s.lib).txBumpPending + n).toNat = _
        rw [hpend, List.length_append, hnew]
        show A + (sockOf s.fast g.sid).txPending.toNat + (sockOf s.fast g.sid).txAvail.toNat +
          (outQueue g s.lib).sum chamTxAmount + _ = _
        omega
      · -- the new bytes go behind the offset `W.length`
        show Holds shm' _ _ _ _ _
        have hpos : ((libSock g s.lib).txHead.toNat + (libSock g s.lib).txAvail.toNat) %
            g.txLen.toNat = W.length % g.txLen.toNat := by
          rw [h.libHead, Nat.mod_add_mod]
          congr 1
          omega
        have hold : Holds s.fast.shm g.txOff.toNat g.txLen.toNat R W.length
            (fun o => (W ++ buf.take n.toNat).getD o 0) := by
          intro o hlo hhi
          rw [h.holds o hlo hhi]
          show W.getD o 0 = (W ++ buf.take n.toNat).getD o 0
          rw [List.getD_eq_getElem?_getD, List.getD_eq_getElem?_getD,
            List.getElem?_append_left hhi]
        rw [hshm, hcopy, h.txLen, h.txBuf, hpos, List.length_append, hnew]
        refine hold.write h.lenPos (by omega) ?_ ?_
        · rw [h.txLen] at hfit
          omega
        · intro i hi
          show buf.getD i 0 = (W ++ buf.take n.toNat).getD (W.length + i) 0
          rw [List.getD_eq_getElem?_getD, List.getD_eq_getElem?_getD,
            List.getElem?_append_right (by omega), Nat.add_sub_cancel_left,
            List.getElem?_take_of_lt hi]
    exact hmid.flushed hf

end step

/-! ## Every run -/

/-- **The counters agree**: every byte of the library's ring is in exactly
one place, and the heads differ by what is in flight to the application. -/
structure TxConserved (g : ConnId) (s : Conn) : Prop where
  total : (libSock g s.lib).txAvail.toNat =
    (libSock g s.lib).txBumpPending.toNat + (outQueue g s.lib).sum chamTxAmount +
      (sockOf s.fast g.sid).txAvail.toNat + (sockOf s.fast g.sid).txPending.toNat +
      (s.fast.equeues g.appBumpQid.toNat).sum appTxAmount
  bound : (libSock g s.lib).txAvail.toNat ≤ g.txLen.toNat
  head : (sockOf s.fast g.sid).txHead.toNat = ((libSock g s.lib).txHead.toNat +
    (s.fast.equeues g.appBumpQid.toNat).sum appTxAmount) % g.txLen.toNat

/-- Each payload byte of a segment of the connection, sent after the stream
`W` was written, is the byte of `W` at the offset of its sequence number,
and `W` is not yet a whole ring longer. -/
def Faithful (g : ConnId) (isn : UInt32) (W : List UInt8) : Out → Prop
  | .segment sid (.ok n) pkt => sid = some g.sid → ∀ i, 52 + i < n →
    ∃ o, (tcpSeqno pkt + UInt32.ofNat i - isn).toNat = o % 4294967296 ∧
      W[o]? = some (pkt (52 + i)) ∧ W.length ≤ o + g.txLen.toNat
  | _ => True

theorem TxInv.conserved {g : ConnId} {isn : UInt32} {W : List UInt8} {R A : Nat} {s : Conn}
    (h : TxInv g isn W R A s) : TxConserved g s := by
  have hrest := h.rest
  have hring := h.ring
  have hacked := h.acked
  refine ⟨by omega, h.fit, ?_⟩
  rw [h.head, h.libHead, Nat.mod_add_mod, ← hacked]

theorem TxInv.faithful {g : ConnId} {isn : UInt32} {W : List UInt8} {R A : Nat} {s : Conn}
    (h : TxInv g isn W R A s) (b : Buf) : Faithful g isn W (s.step g (.sched b)).2 := by
  show Faithful g isn W (.segment (schedTarget s.fast) (tcpEventSched (s.load b)).2
    (tcpEventSched (s.load b)).1.pkt)
  cases hret : (tcpEventSched (s.load b)).2 with
  | error e => exact trivial
  | ok n =>
    intro htgt i hi
    obtain ⟨hr₁, hr₂⟩ := fastEbpfPktRoom_bounds b.virtGre
    obtain ⟨hseq, hav, hbyte⟩ := tcpEventSched_segment (h.ready.load b) hr₁ hr₂ htgt hret hi
    have hrest := h.rest
    have hring := h.ring
    have hacked := h.acked
    have hfit := h.fit
    have hav' : i < (sockOf s.fast g.sid).txAvail.toNat := hav
    have hlt : A + (sockOf s.fast g.sid).txPending.toNat + i < W.length := by omega
    refine ⟨A + (sockOf s.fast g.sid).txPending.toNat + i, ?_, ?_, by omega⟩
    · have hisn := isn.toNat_lt
      have hpend := (sockOf s.fast g.sid).txPending.toNat_lt
      rw [hseq]
      show ((sockOf s.fast g.sid).txSeq + (sockOf s.fast g.sid).txPending + UInt32.ofNat i -
        isn).toNat = _
      rw [h.seq, UInt32.toNat_sub, UInt32.toNat_add, UInt32.toNat_add, serial_toNat,
        UInt32.toNat_ofNat']
      omega
    · have hcell : ((sockOf s.fast g.sid).txHead.toNat + (sockOf s.fast g.sid).txPending.toNat +
          i) % g.txLen.toNat = (A + (sockOf s.fast g.sid).txPending.toNat + i) % g.txLen.toNat := by
        rw [h.head, Nat.add_assoc, Nat.mod_add_mod, Nat.add_assoc]
      rw [hbyte]
      show _ = some (s.fast.shm (g.txOff.toNat + ((sockOf s.fast g.sid).txHead.toNat +
        (sockOf s.fast g.sid).txPending.toNat + i) % g.txLen.toNat))
      rw [hcell, h.holds _ (by omega) hlt]
      show _ = some (W.getD _ 0)
      rw [List.getD_eq_getElem?_getD, List.getElem?_eq_getElem hlt]
      rfl

/-- The steps the stream property speaks of: everything but receiving
bytes, with segments that carry the ACK flag. -/
def TxOk (s : Conn) : Act → Prop
  | .recvfrom _ _ => False
  | .rx b => rxIsAck b.pkt = true ∧ NoBumpFail s (.rx b)
  | _ => True

/-- A freshly established connection: nothing written, nothing in flight. -/
structure TxInit (g : ConnId) (s : Conn) : Prop where
  lenPos : 0 < g.txLen.toNat
  lenBound : g.txLen.toNat ≤ 2147483648
  fast : FastOwns g s.fast
  lib : LibOwns g s.lib
  txLen : (libSock g s.lib).txLen = g.txLen
  txBuf : (libSock g s.lib).txBuf = g.txOff
  sockAt : s.lib.sockAt g.opaquePtr = some g.fd
  tx : (sockOf s.fast g.sid).txAvail = 0 ∧ (sockOf s.fast g.sid).txPending = 0 ∧
    (sockOf s.fast g.sid).txHead = 0
  rx : (sockOf s.fast g.sid).rxAvail = 0 ∧ (sockOf s.fast g.sid).rxHead = 0
  libTx : (libSock g s.lib).txAvail = 0 ∧ (libSock g s.lib).txHead = 0
  pending : (libSock g s.lib).txBumpPending = 0 ∧ (libSock g s.lib).rxBumpPending = 0
  out : (outQueue g s.lib).items = []
  app : (s.fast.equeues g.appBumpQid.toNat).items = []

theorem TxInit.inv {g : ConnId} {s : Conn} (h : TxInit g s) :
    TxInv g (sockOf s.fast g.sid).txSeq [] 0 0 s := by
  obtain ⟨hav, hpend, hhead⟩ := h.tx
  obtain ⟨hlav, hlhead⟩ := h.libTx
  have hout : ∀ f, (outQueue g s.lib).sum f = 0 := by
    intro f
    unfold Fifo.sum
    rw [h.out]
    rfl
  have happ : (s.fast.equeues g.appBumpQid.toNat).sum appTxAmount = 0 := by
    unfold Fifo.sum
    rw [h.app]
    rfl
  have hlen := h.fast.txLen
  refine ⟨⟨h.fast, ⟨?_, ?_, ?_⟩, ⟨?_, ?_, ?_⟩⟩, h.lib, h.txLen, h.txBuf, h.sockAt, ?_, ?_, ?_, ?_,
    ?_, ?_, ?_, ?_, ?_, ?_, ?_⟩
  · rw [hhead, hlen]
    exact h.lenPos
  · rw [hpend, hav]
    exact Nat.zero_le _
  · rw [hlen]
    exact h.lenBound
  · rw [h.rx.1]
    exact Nat.zero_le _
  · rw [h.rx.2]
    have := (sockOf s.fast g.sid).rxLen.toNat_lt
    show 0 + _ < _
    omega
  · rw [h.rx.2]
    exact id
  · rw [h.out]
    exact fun e he => absurd he (by simp)
  · rw [h.app]
    exact fun e he => absurd he (by simp)
  · rw [h.pending.2, hout]
    rfl
  · rw [serial_zero]
  · rw [hhead, Nat.zero_mod]
    rfl
  · rw [hlhead, Nat.zero_mod]
    rfl
  · rw [hlav]
    rfl
  · rw [hlav]
    exact Nat.zero_le _
  · rw [happ]
  · rw [hpend, hav, hout, h.pending.1]
    rfl
  · intro o _ hhi
    exact absurd hhi (Nat.not_lt_zero o)

/-- One step keeps the invariant and sends faithful bytes. -/
theorem txStep {g : ConnId} {isn : UInt32} {W : List UInt8} {R A : Nat} {s : Conn} {a : Act}
    (h : TxInv g isn W R A s) (hok : TxOk s a) :
    Faithful g isn W (s.step g a).2 ∧
    ∃ R' A', TxInv g isn (W ++ (s.step g a).2.written) R' A' (s.step g a).1 := by
  cases a with
  | sendto buf addr => exact ⟨trivial, R, A, h.sendto buf addr⟩
  | recvfrom len addrOk => exact absurd hok id
  | flush =>
    refine ⟨trivial, R, A, ?_⟩
    show TxInv g isn (W ++ []) R A { s with lib := tcpFlushBumps s.lib g.ctxId }
    rw [List.append_nil]
    exact h.flushed (tcpFlushBumps_flushed h.owns)
  | poll =>
    obtain ⟨R', h'⟩ := h.poll
    refine ⟨trivial, R', A, ?_⟩
    show TxInv g isn (W ++ []) R' A (s.poll g)
    rw [List.append_nil]
    exact h'
  | deq b qeOff =>
    refine ⟨trivial, R, A, ?_⟩
    show TxInv g isn (W ++ []) R A (s.deq g b qeOff)
    rw [List.append_nil]
    exact h.deq b qeOff
  | retransmit b sockId txSeq txPending qeOff =>
    have hready : TxReady g
        { s.load b with qe := .txRetransmit sockId txSeq txPending, qeOff } :=
      ⟨h.ready.owns.of_maps rfl, h.ready.tx, h.ready.rx⟩
    have hf := retransmit_fastTx hready rfl
    refine ⟨trivial, R, A, ?_⟩
    show TxInv g isn (W ++ []) R A _
    rw [List.append_nil]
    exact h.event ⟨hf.owns, hf.move, hf.rx, hf.app, hf.mine, hf.ring⟩
  | sched b =>
    obtain ⟨hr₁, hr₂⟩ := fastEbpfPktRoom_bounds b.virtGre
    have hf := tcpEventSched_fastTx (h.ready.load b) hr₁ hr₂
    refine ⟨h.faithful b, R, A, ?_⟩
    show TxInv g isn (W ++ []) R A _
    rw [List.append_nil]
    exact h.event ⟨hf.owns, hf.move, hf.rx, hf.app, hf.mine, hf.ring⟩
  | rx b =>
    obtain ⟨hack, hno⟩ := hok
    obtain ⟨k, hf⟩ := tcpEventRx_fastTx (h.ready.load b) hack hno
    refine ⟨trivial, R, A + k, ?_⟩
    show TxInv g isn (W ++ []) R (A + k) _
    rw [List.append_nil]
    exact h.event ⟨hf.owns, hf.move, hf.rx, hf.app, hf.mine, hf.ring⟩

/-- **Transmit stream conservation.** In every run from establishment, the
counters of both sides agree in every state, and every payload byte sent is
the byte written at the offset its sequence number stands for. -/
theorem tx_stream_conserved {g : ConnId} {s₀ s : Conn} {log : List Out} (h₀ : TxInit g s₀)
    (hrun : Run TxOk (Conn.step g) s₀ log s) :
    TxConserved g s ∧ ∀ pre out post, log = pre ++ out :: post →
      Faithful g (sockOf s₀.fast g.sid).txSeq (written pre) out := by
  have hinv : (∃ R A, TxInv g (sockOf s₀.fast g.sid).txSeq (written log) R A s) ∧
      ∀ pre out post, log = pre ++ out :: post →
        Faithful g (sockOf s₀.fast g.sid).txSeq (written pre) out := by
    refine hrun.inv (I := fun log s =>
      (∃ R A, TxInv g (sockOf s₀.fast g.sid).txSeq (written log) R A s) ∧
      ∀ pre out post, log = pre ++ out :: post →
        Faithful g (sockOf s₀.fast g.sid).txSeq (written pre) out) ?_ ?_
    · exact ⟨⟨0, 0, h₀.inv⟩, fun pre out post h => absurd h (by simp)⟩
    · rintro log s a ⟨⟨R, A, hinv⟩, hlog⟩ hok
      obtain ⟨hfaith, hnext⟩ := txStep hinv hok
      refine ⟨?_, fun pre out post h => ?_⟩
      · unfold written
        rw [List.flatMap_append, List.flatMap_singleton]
        exact hnext
      · rcases List.eq_nil_or_concat post with rfl | ⟨post', last, rfl⟩
        · obtain ⟨rfl, hlast⟩ := List.append_inj' h rfl
          obtain rfl := List.singleton_injective hlast
          exact hfaith
        · rw [List.concat_eq_append, ← List.cons_append, ← List.append_assoc] at h
          exact hlog pre out post' (List.append_inj' h rfl).1
  obtain ⟨⟨R, A, hinv⟩, hlog⟩ := hinv
  exact ⟨hinv.conserved, hlog⟩

/-- Three bytes written, announced and sent. -/
theorem tx_stream_conserved_three_bytes :
    TxConserved (freshConnId 64)
      ((((freshConn 64).step (freshConnId 64) (.sendto [7, 8, 9] none)).1.step (freshConnId 64)
        (.deq blankBuf 0)).1.step (freshConnId 64) (.sched blankBuf)).1 ∧
    Faithful (freshConnId 64) 1000 [7, 8, 9]
      ((((freshConn 64).step (freshConnId 64) (.sendto [7, 8, 9] none)).1.step (freshConnId 64)
        (.deq blankBuf 0)).1.step (freshConnId 64) (.sched blankBuf)).2 := by
  have hinit : TxInit (freshConnId 64) (freshConn 64) :=
    ⟨by decide, by decide, freshConn_fast 64, freshConn_lib 64, rfl, rfl, rfl, ⟨rfl, rfl, rfl⟩,
      ⟨rfl, rfl⟩, ⟨rfl, rfl⟩, ⟨rfl, rfl⟩, rfl, rfl⟩
  have h₁ : Run TxOk (Conn.step (freshConnId 64)) (freshConn 64) _ _ :=
    Run.snoc (a := Act.sendto [7, 8, 9] none) Run.nil trivial
  have h₂ := Run.snoc (a := Act.deq blankBuf 0) h₁ trivial
  have hrun := Run.snoc (a := Act.sched blankBuf) h₂ trivial
  obtain ⟨hc, hf⟩ := tx_stream_conserved hinit hrun
  refine ⟨hc, ?_⟩
  exact hf [.wrote [7, 8, 9], .none] _ [] rfl

end Chamelio.Tcp
