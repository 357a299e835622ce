import Chamelio.Tcp.TxMove
import Chamelio.Tcp.Emit
import Chamelio.Tcp.SlowCtx

/-!
# Which acknowledgements are taken, and which window is advertised

Both ends of flow control are decided on single header fields. Coming in,
`rx_is_ack_valid` compares the acknowledgement number with the two ends of
the send window, with a case of its own for a window that wraps. Going out,
`tx_fill_hdr` stores the free part of the receive buffer in the 16-bit
window field. The slow path has a function for that value,
`tcp_sock_rx_wnd`, which clamps; the fast path casts.

Mirroring notes:
- The four comparisons of `rx_is_ack_valid` are kept as they are; that they
  amount to one modular distance is `rxIsAckValid_iff`.
- Segments the fast path builds itself leave at three places: the answer to
  a received segment, the segment of the socket at the head of the scheduler
  and the window update after the application drained a full buffer. Control
  segments are built by the slow path and only copied.
-/

namespace Chamelio.Tcp

open Chamelio.Lib Chamelio.Util Chamelio.Pkt Chamelio.Fast

/-! ## Acknowledgement numbers -/

/-- The fields of the send ring after an acknowledgement. -/
theorem rxSockBumpAck_fields (p : Nat → UInt8) (s : TcpSock) (k : UInt32) :
    (rxSockBumpAck p s k).txSeq = s.txSeq + k ∧
    (rxSockBumpAck p s k).txHead = (s.txHead + k) % s.txLen ∧
    (rxSockBumpAck p s k).txLen = s.txLen ∧
    (rxSockBumpAck p s k).txPending = (if k ≤ s.txPending then s.txPending - k else 0) ∧
    (rxSockBumpAck p s k).txAvail = if k ≤ s.txPending then s.txAvail else s.txAvail -
      (if (if k > s.txPending then k - s.txPending else 0) > s.txAvail then s.txAvail
        else if k > s.txPending then k - s.txPending else 0) := by
  unfold rxSockBumpAck tcpSockRecoveryAck tcpSockRecoveryReset
  dsimp only
  split
  · split <;> exact ⟨rfl, rfl, rfl, rfl, rfl⟩
  · exact ⟨rfl, rfl, rfl, rfl, rfl⟩

/-- Acknowledged bytes are taken from the pending ones first, and only what
is left over from the available ones. -/
theorem rxSockBumpAck_removes (p : Nat → UInt8) (s : TcpSock) (k : UInt32) :
    (rxSockBumpAck p s k).txPending.toNat = s.txPending.toNat - k.toNat ∧
    (rxSockBumpAck p s k).txAvail.toNat =
      s.txAvail.toNat - (k.toNat - s.txPending.toNat) := by
  obtain ⟨-, -, -, hpend, havail⟩ := rxSockBumpAck_fields p s k
  rw [hpend, havail]
  by_cases hc : k ≤ s.txPending
  · have hc' := UInt32.le_iff_toNat_le.mp hc
    rw [if_pos hc, if_pos hc, toNat_sub_of_le hc']
    exact ⟨rfl, by omega⟩
  · have hc' := UInt32.lt_iff_toNat_lt.mp (UInt32.not_le.mp hc)
    have hextra := toNat_sub_of_le (Nat.le_of_lt hc')
    have hclamp := toNat_clamp (k - s.txPending) s.txAvail
    rw [if_neg hc, if_neg hc, if_pos (UInt32.not_le.mp hc), toNat_sub_of_le (by omega), hclamp,
      UInt32.toNat_zero]
    constructor <;> omega

/-- What one acknowledgement does to the send ring. -/
structure AckApplied (s s' : TcpSock) (bump : UInt32) : Prop where
  pending : s'.txPending.toNat = s.txPending.toNat - bump.toNat
  avail : s'.txAvail.toNat = s.txAvail.toNat - (bump.toNat - s.txPending.toNat)
  total : s'.txPending.toNat + s'.txAvail.toNat + bump.toNat =
    s.txPending.toNat + s.txAvail.toNat
  head : s'.txHead.toNat = (s.txHead.toNat + bump.toNat) % s.txLen.toNat
  inside : s'.txHead.toNat < s'.txLen.toNat
  edge : s'.txSeq + s'.txPending + s'.txAvail = s.txSeq + s.txPending + s.txAvail

theorem rxSockBumpAck_applied (p : Nat → UInt8) {s : TcpSock} {k : UInt32}
    (hk : k.toNat ≤ s.txPending.toNat + s.txAvail.toNat)
    (hfit : s.txPending.toNat + s.txAvail.toNat ≤ s.txLen.toNat)
    (hlen : s.txLen.toNat ≤ 2147483648) (hhead : s.txHead.toNat < s.txLen.toNat) :
    AckApplied s (rxSockBumpAck p s k) k := by
  obtain ⟨hseq, hh, hl, -, -⟩ := rxSockBumpAck_fields p s k
  obtain ⟨hpend, havail⟩ := rxSockBumpAck_removes p s k
  have hhead' : (rxSockBumpAck p s k).txHead.toNat =
      (s.txHead.toNat + k.toNat) % s.txLen.toNat := by
    rw [hh, UInt32.toNat_mod, toNat_add_of_lt (by omega)]
  refine ⟨hpend, havail, by omega, hhead', ?_, ?_⟩
  · rw [hhead', hl]
    exact Nat.mod_lt _ (by omega)
  · apply UInt32.toNat_inj.mp
    rw [maxAck_toNat, maxAck_toNat, hseq, UInt32.toNat_add, hpend, havail]
    omega

/-- **Acknowledgements are exact.** `rx_is_ack_valid` is a modular distance
test, whatever the position of the window on the circle, and applying the
bump it allows removes exactly that many bytes from the send ring, pending
ones first, leaving the right edge of the window where it was. -/
theorem ack_acceptance_exact :
    (∀ seqno pending avail ackno : UInt32, pending.toNat + avail.toNat < 4294967296 →
      (rxIsAckValid seqno pending avail ackno = true ↔
        (ackno - seqno).toNat ≤ pending.toNat + avail.toNat)) ∧
    (∀ (p : Nat → UInt8) (s : TcpSock),
      s.txPending.toNat + s.txAvail.toNat ≤ s.txLen.toNat → s.txLen.toNat ≤ 2147483648 →
      s.txHead.toNat < s.txLen.toNat →
      AckApplied s (rxSockBumpAck p s (rxGetAckBump p s)) (rxGetAckBump p s)) := by
  refine ⟨fun _ _ _ ackno h => rxIsAckValid_iff ackno h, ?_⟩
  intro p s hfit hlen hhead
  exact rxSockBumpAck_applied p (rxGetAckBump_le p (by omega)) hfit hlen hhead

/-- A socket in the middle of a transfer: 3 bytes sent, 2 not yet, just
before the sequence numbers wrap. -/
def ackedSample : TcpSock :=
  { TcpSock.zero with txSeq := 4294967294, txPending := 3, txAvail := 2, txHead := 6, txLen := 8 }

theorem ack_acceptance_exact_wrapped :
    (rxIsAckValid 4294967294 3 2 2 = true ↔ ((2 : UInt32) - 4294967294).toNat ≤ 3 + 2) ∧
    AckApplied ackedSample
      (rxSockBumpAck (put32 (fun _ => 0) 28 2) ackedSample
        (rxGetAckBump (put32 (fun _ => 0) 28 2) ackedSample))
      (rxGetAckBump (put32 (fun _ => 0) 28 2) ackedSample) :=
  ⟨ack_acceptance_exact.1 4294967294 3 2 2 (by decide),
    ack_acceptance_exact.2 (put32 (fun _ => 0) 28 2) ackedSample (by decide) (by decide)
      (by decide)⟩

/-! ## The advertised window -/

/-- The window and acknowledgement fields of a header `tx_fill_hdr` wrote. -/
theorem txFillHdr_window (ctx : TcpCtx) (sid : Nat) (hdrlen paylen : UInt32) :
    tcpWnd (txFillHdr ctx sid hdrlen paylen).pkt =
      ((sockOf ctx sid).rxLen - (sockOf ctx sid).rxAvail).toUInt16 ∧
    tcpAckno (txFillHdr ctx sid hdrlen paylen).pkt = (sockOf ctx sid).rxSeq := by
  rw [txFillHdr_pkt]
  unfold tcpWnd tcpAckno txHdrBytes txWriteTsopt
  dsimp only
  constructor
  · refine (be16_congr ?_).trans (be16_put16 ?_ 34 _)
    intro i hlo hhi
    rw [put16_out _ _ (by omega), put32_out _ _ (by omega), put32_out _ _ (by omega),
      put8_ne _ _ (by omega), put8_ne _ _ (by omega), put16_out _ _ (by omega),
      put16_out _ _ (by omega)]
  · refine (be32_congr ?_).trans (be32_put32 ?_ 28 _)
    intro i hlo hhi
    rw [put16_out _ _ (by omega), put32_out _ _ (by omega), put32_out _ _ (by omega),
      put8_ne _ _ (by omega), put8_ne _ _ (by omega), put16_out _ _ (by omega),
      put16_out _ _ (by omega), put16_out _ _ (by omega), put16_out _ _ (by omega)]

/-- An event of the fast path that leaves a segment of socket `sid` in the
packet buffer. -/
inductive Emits (sid : Nat) : TcpCtx → TcpCtx → Prop
  /-- The answer to a received segment. -/
  | ack {ctx : TcpCtx} {n : Nat} (ok : (tcpEventRx ctx).2 = .ok n) (sent : n ≠ 0)
      (found : sockFind ctx = some sid) : Emits sid ctx (tcpEventRx ctx).1
  /-- The segment of the socket at the head of the scheduler. -/
  | data {ctx : TcpCtx} {n : Nat} {e : SchedEntry} (ok : (tcpEventSched ctx).2 = .ok n)
      (sent : n ≠ 0) (head : schedHead ctx.sched = some e) (own : e.id.toNat = sid) :
      Emits sid ctx (tcpEventSched ctx).1
  /-- The window update after the application drained a full buffer. -/
  | update {ctx : TcpCtx} {n : Nat} {id rxHead : UInt32} (ok : (tcpEventDeq ctx).2 = .ok n)
      (sent : n ≠ 0) (entry : ctx.qe = .bumpChamRx id rxHead) (own : id.toNat = sid) :
      Emits sid ctx (tcpEventDeq ctx).1

/-- The header in the packet buffer carries what the socket's receive side
says: the low half of the free space, and the next byte expected. -/
structure Advertises (p : Nat → UInt8) (s : TcpSock) : Prop where
  wnd : tcpWnd p = (s.rxLen - s.rxAvail).toUInt16
  ackno : tcpAckno p = s.rxSeq

section emitted

variable {ctx : TcpCtx} {sid n : Nat}

theorem txFillHdr_advertises (ctx : TcpCtx) (sid : Nat) (hdrlen paylen : UInt32) :
    Advertises (txFillHdr ctx sid hdrlen paylen).pkt
      (sockOf (txFillHdr ctx sid hdrlen paylen) sid) := by
  obtain ⟨hwnd, hack⟩ := txFillHdr_window ctx sid hdrlen paylen
  have hbare := (quiet_txFillHdr ctx sid hdrlen paylen).socks sid
  have hlen := congrArg TcpSock.rxLen hbare
  have havail := congrArg TcpSock.rxAvail hbare
  have hseq := congrArg TcpSock.rxSeq hbare
  dsimp only [TcpSock.bare] at hlen havail hseq
  exact ⟨by rw [hwnd, hlen, havail], by rw [hack, hseq]⟩

theorem txFillAck_advertises (h : (txFillAck ctx sid).2 = .ok n) :
    Advertises (txFillAck ctx sid).1.pkt (sockOf (txFillAck ctx sid).1 sid) := by
  unfold txFillAck at h ⊢
  split
  · next h₁ =>
    rw [if_pos h₁] at h
    cases h
  · next h₁ =>
    rw [if_neg h₁] at h
    split
    · next h₂ =>
      rw [if_pos h₂] at h
      cases h
    · exact txFillHdr_advertises ctx sid _ _

/-- Everything `tcp_event_rx` answers to a segment is the acknowledgement
`tx_fill_ack` builds last. -/
theorem rxPayload_advertises {v : RxLocals} {hdrlen : UInt32} {remit : Bool}
    (h : (rxPayload ctx sid v hdrlen remit).2 = .ok n) :
    Advertises (rxPayload ctx sid v hdrlen remit).1.pkt
      (sockOf (rxPayload ctx sid v hdrlen remit).1 sid) := by
  unfold rxPayload at h ⊢
  split
  · next h₁ =>
    rw [if_pos h₁] at h
    exact txFillAck_advertises h
  · next h₁ =>
    rw [if_neg h₁] at h
    split
    · next h₂ =>
      rw [if_pos h₂] at h
      exact txFillAck_advertises h
    · next h₂ =>
      rw [if_neg h₂] at h
      split
      · next h₃ =>
        rw [if_pos h₃] at h
        exact txFillAck_advertises h
      · next h₃ =>
        rw [if_neg h₃] at h
        unfold rxDeliver at h ⊢
        dsimp only at h ⊢
        split
        · next hpos =>
          rw [if_pos hpos] at h
          split
          · next hq =>
            rw [hq] at h
            cases h
          · next c hq =>
            rw [hq] at h
            exact txFillAck_advertises h
        · next hpos =>
          rw [if_neg hpos] at h
          exact txFillAck_advertises h

theorem rxEstablished_advertises (h : (rxEstablished ctx sid).2 = .ok n) (hn : n ≠ 0) :
    Advertises (rxEstablished ctx sid).1.pkt (sockOf (rxEstablished ctx sid).1 sid) := by
  unfold rxEstablished at h ⊢
  dsimp only at h ⊢
  split
  · next h₁ =>
    rw [if_pos h₁] at h
    exact txFillAck_advertises h
  · next h₁ =>
    rw [if_neg h₁] at h
    unfold rxSegment at h ⊢
    dsimp only at h ⊢
    split
    · next hq =>
      rw [hq] at h
      cases h
    · next c hq =>
      rw [hq] at h
      dsimp only at h ⊢
      split
      · -- a pure acknowledgement is not answered
        next honly =>
        rw [if_pos honly] at h
        cases h
        exact absurd rfl hn
      · next honly =>
        rw [if_neg honly] at h
        exact rxPayload_advertises h

theorem rxPuntCtl_sends_nothing (h : (rxPuntCtl ctx).2 = .ok n) : n = 0 := by
  unfold rxPuntCtl at h
  split at h
  · cases h
  · dsimp only at h
    split at h
    · cases h
    split at h
    · cases h
    split at h
    · cases h
    split at h
    · cases h
    split at h
    · cases h
    split at h
    · cases h
    · cases h
      rfl

theorem tcpEventRx_advertises (h : (tcpEventRx ctx).2 = .ok n) (hn : n ≠ 0)
    (hf : sockFind ctx = some sid) :
    Advertises (tcpEventRx ctx).1.pkt (sockOf (tcpEventRx ctx).1 sid) := by
  unfold tcpEventRx at h ⊢
  rw [hf] at h ⊢
  split
  · next h₁ =>
    rw [if_pos h₁] at h
    cases h
  · next h₁ =>
    rw [if_neg h₁] at h
    split
    · next h₂ =>
      rw [if_pos h₂] at h
      cases h
    · next h₂ =>
      rw [if_neg h₂] at h
      split
      · next h₃ =>
        rw [if_pos h₃] at h
        exact absurd (rxPuntCtl_sends_nothing h) hn
      · next h₃ =>
        rw [if_neg h₃] at h
        dsimp only at h ⊢
        split
        · next h₄ =>
          rw [if_pos h₄] at h
          exact absurd (rxPuntCtl_sends_nothing h) hn
        · next h₄ =>
          rw [if_neg h₄] at h
          exact rxEstablished_advertises h hn

/-- Copying the payload behind the header and counting it does not touch
the receive side. -/
theorem txSend_advertises {nowTsc : UInt64} (h : (txSend ctx sid nowTsc).2 = .ok n) :
    Advertises (txSend ctx sid nowTsc).1.pkt (sockOf (txSend ctx sid nowTsc).1 sid) := by
  unfold txSend at h ⊢
  split
  · next h₁ =>
    rw [if_pos h₁] at h
    cases h
  · next h₁ =>
    rw [if_neg h₁] at h
    dsimp only at h ⊢
    generalize txGetTxBump (sockOf ctx sid) _ = b at h ⊢
    split
    · next h₂ =>
      rw [if_pos h₂] at h
      cases h
    · have hadv := txFillHdr_advertises ctx sid txGetHdrlen b
      generalize txFillHdr ctx sid txGetHdrlen b = c at hadv ⊢
      split
      · obtain ⟨hq, -, -, hpkt⟩ := txSendPayload_spec c sid txGetHdrlen b nowTsc
        have hbare := hq.socks sid
        rw [sockOf_setSock] at hbare
        have hlen := congrArg TcpSock.rxLen hbare
        have havail := congrArg TcpSock.rxAvail hbare
        have hseq := congrArg TcpSock.rxSeq hbare
        dsimp only [TcpSock.bare, txSockTxBump] at hlen havail hseq
        rw [hpkt]
        refine ⟨?_, ?_⟩
        · rw [hlen, havail, ← hadv.wnd]
          exact be16_congr (fun i _ _ => txCopyPayload_hdr _ _ b (by omega))
        · rw [hseq, ← hadv.ackno]
          exact be32_congr (fun i _ _ => txCopyPayload_hdr _ _ b (by omega))
      · exact hadv

theorem tcpEventSched_advertises {e : SchedEntry} (h : (tcpEventSched ctx).2 = .ok n)
    (hn : n ≠ 0) (he : schedHead ctx.sched = some e) :
    Advertises (tcpEventSched ctx).1.pkt (sockOf (tcpEventSched ctx).1 e.id.toNat) := by
  unfold tcpEventSched at h ⊢
  rw [he] at h ⊢
  dsimp only at h ⊢
  split
  · next h₁ =>
    rw [if_pos h₁] at h
    cases h
    exact absurd rfl hn
  · next h₁ =>
    rw [if_neg h₁] at h
    split
    · next h₂ =>
      rw [if_pos h₂] at h
      cases h
    · next h₂ =>
      rw [if_neg h₂] at h
      unfold sockMapLookup at h ⊢
      dsimp only at h ⊢
      by_cases hge : e.id.toNat ≥ ctx.maps.sockNelems
      · rw [if_pos hge] at h
        cases h
      · rw [if_neg hge] at h ⊢
        exact txSend_advertises h

theorem tcpEventDeq_advertises {id rxHead : UInt32} (h : (tcpEventDeq ctx).2 = .ok n)
    (hn : n ≠ 0) (hqe : ctx.qe = .bumpChamRx id rxHead) :
    Advertises (tcpEventDeq ctx).1.pkt (sockOf (tcpEventDeq ctx).1 id.toNat) := by
  unfold tcpEventDeq at h ⊢
  rw [hqe] at h ⊢
  split
  · next h₁ =>
    rw [if_pos h₁] at h
    cases h
  · next h₁ =>
    rw [if_neg h₁] at h
    unfold deqHandleBumpRx sockMapLookup at h ⊢
    dsimp only at h ⊢
    split
    · next h₂ =>
      rw [if_pos h₂] at h
      cases h
    · next h₂ =>
      rw [if_neg h₂] at h
      by_cases hge : id.toNat ≥ ctx.maps.sockNelems
      · rw [if_pos hge] at h
        cases h
      · rw [if_neg hge] at h ⊢
        dsimp only at h ⊢
        split
        · next hfull =>
          rw [if_pos hfull] at h
          exact txFillAck_advertises h
        · next hfull =>
          rw [if_neg hfull] at h
          cases h
          exact absurd rfl hn

/-- Every segment advertises the low half of the free space. -/
theorem Emits.advertises {ctx' : TcpCtx} (h : Emits sid ctx ctx') :
    Advertises ctx'.pkt (sockOf ctx' sid) := by
  cases h with
  | ack ok sent found => exact tcpEventRx_advertises ok sent found
  | data ok sent head own =>
    rw [← own]
    exact tcpEventSched_advertises ok sent head
  | update ok sent entry own =>
    rw [← own]
    exact tcpEventDeq_advertises ok sent entry

end emitted

/-- What the window field should say of the receive buffer: its free space
up to the largest value of the field, as the slow path has it; so it is not
zero while there is room, and what it allows past the acknowledgement number
fits. -/
structure WindowExact (p : Nat → UInt8) (s : TcpSock) : Prop where
  clamped : (tcpWnd p).toNat = min (s.rxLen.toNat - s.rxAvail.toNat) 65535
  slow : tcpWnd p = tcpSockRxWnd s
  notZero : s.rxAvail.toNat < s.rxLen.toNat → tcpWnd p ≠ 0
  ackno : tcpAckno p = s.rxSeq
  edge : s.rxAvail.toNat + (tcpWnd p).toNat ≤ s.rxLen.toNat

/-- The free space fits the field, or happens to end in sixteen ones. -/
def windowFits (s : TcpSock) : Prop :=
  s.rxLen.toNat - s.rxAvail.toNat ≤ 65535 ∨
    (s.rxLen.toNat - s.rxAvail.toNat) % 65536 = 65535

theorem tcpSockRxWnd_toNat {s : TcpSock} (h : s.rxAvail.toNat ≤ s.rxLen.toNat) :
    (tcpSockRxWnd s).toNat = min (s.rxLen.toNat - s.rxAvail.toNat) 65535 := by
  have hsub := toNat_sub_of_le h
  unfold tcpSockRxWnd
  dsimp only
  split
  · next hgt =>
    have hgt' := UInt32.lt_iff_toNat_lt.mp hgt
    have h65535 : (65535 : UInt32).toNat = 65535 := rfl
    show 65535 = _
    omega
  · next hle =>
    have hle' := UInt32.le_iff_toNat_le.mp (UInt32.not_lt.mp hle)
    have h65535 : (65535 : UInt32).toNat = 65535 := rfl
    rw [UInt32.toNat_toUInt16, hsub]
    omega

/-- A cast window is the clamped one exactly when it fits. -/
theorem Advertises.exact_iff {p : Nat → UInt8} {s : TcpSock} (hadv : Advertises p s)
    (h : s.rxAvail.toNat ≤ s.rxLen.toNat) : WindowExact p s ↔ windowFits s := by
  have hwnd : (tcpWnd p).toNat = (s.rxLen.toNat - s.rxAvail.toNat) % 65536 := by
    rw [hadv.wnd, UInt32.toNat_toUInt16, toNat_sub_of_le h]
  have hslow := tcpSockRxWnd_toNat h
  unfold windowFits
  constructor
  · intro hex
    have := hex.clamped
    omega
  · intro hfit
    have hclamp : (tcpWnd p).toNat = min (s.rxLen.toNat - s.rxAvail.toNat) 65535 := by omega
    refine ⟨hclamp, ?_, ?_, hadv.ackno, by omega⟩
    · exact UInt16.toNat_inj.mp (by rw [hclamp, hslow])
    · intro hroom hz
      rw [hz] at hclamp
      have : (0 : UInt16).toNat = 0 := rfl
      omega

/-- **The advertised window** is the clamped free space, the value the slow
path puts in its segments, exactly when that space fits the field or ends in
sixteen ones; of `tx_fill_hdr` on every socket, and so of every segment an
event of the fast path emits. -/
theorem fast_window_exact_iff (ctx : TcpCtx) (sid : Nat) :
    (∀ hdrlen paylen : UInt32,
      (sockOf ctx sid).rxAvail.toNat ≤ (sockOf ctx sid).rxLen.toNat →
      (WindowExact (txFillHdr ctx sid hdrlen paylen).pkt (sockOf ctx sid) ↔
        windowFits (sockOf ctx sid))) ∧
    (∀ ctx' : TcpCtx, Emits sid ctx ctx' →
      (sockOf ctx' sid).rxAvail.toNat ≤ (sockOf ctx' sid).rxLen.toNat →
      (WindowExact ctx'.pkt (sockOf ctx' sid) ↔ windowFits (sockOf ctx' sid))) := by
  constructor
  · intro hdrlen paylen h
    obtain ⟨hwnd, hack⟩ := txFillHdr_window ctx sid hdrlen paylen
    exact Advertises.exact_iff ⟨hwnd, hack⟩ h
  · intro ctx' hemit h
    exact hemit.advertises.exact_iff h

/-- A 128 KiB receive buffer that is full, and the bump for half of it. -/
def drainedCtx : TcpCtx :=
  { oneSockCtx { TcpSock.zero with rxLen := 131072, rxAvail := 131072 } 4 with
    qe := .bumpChamRx 0 65536 }

theorem drainedCtx_emits : Emits 0 drainedCtx (tcpEventDeq drainedCtx).1 :=
  @Emits.update 0 drainedCtx 52 0 65536 rfl (by decide) rfl rfl

/-- The window update for a half-empty 128 KiB buffer says zero. -/
theorem window_update_says_zero :
    ¬ ∀ (sid : Nat) (ctx ctx' : TcpCtx), Emits sid ctx ctx' →
      (sockOf ctx' sid).rxAvail.toNat ≤ (sockOf ctx' sid).rxLen.toNat →
      WindowExact ctx'.pkt (sockOf ctx' sid) := by
  intro hall
  have hrx : (sockOf (tcpEventDeq drainedCtx).1 0).rxAvail = 65536 ∧
      (sockOf (tcpEventDeq drainedCtx).1 0).rxLen = 131072 := ⟨rfl, rfl⟩
  have hex := hall 0 drainedCtx (tcpEventDeq drainedCtx).1 drainedCtx_emits
    (by rw [hrx.1, hrx.2]; decide)
  have hwnd := drainedCtx_emits.advertises.wnd
  have hclamp := hex.clamped
  rw [hwnd, hrx.1, hrx.2] at hclamp
  exact absurd hclamp (by decide)

/-- Both halves at a context: a buffer of the default size, and the update
above. -/
theorem fast_window_exact_iff_samples :
    (WindowExact (txFillHdr (oneSockCtx { TcpSock.zero with rxLen := 32768 } 4) 0 52 0).pkt
      (sockOf (oneSockCtx { TcpSock.zero with rxLen := 32768 } 4) 0) ↔
      windowFits (sockOf (oneSockCtx { TcpSock.zero with rxLen := 32768 } 4) 0)) ∧
    (WindowExact (tcpEventDeq drainedCtx).1.pkt (sockOf (tcpEventDeq drainedCtx).1 0) ↔
      windowFits (sockOf (tcpEventDeq drainedCtx).1 0)) := by
  constructor
  · exact (fast_window_exact_iff (oneSockCtx { TcpSock.zero with rxLen := 32768 } 4) 0).1 52 0
      (by decide)
  · exact (fast_window_exact_iff drainedCtx 0).2 _ drainedCtx_emits (by decide)

end Chamelio.Tcp
