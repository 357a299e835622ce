import Chamelio.Tcp.TxSide
import Chamelio.Tcp.InSequence

/-!
# No byte is acknowledged before it was sent

Along a run of the fast path, `SendLog` keeps what the program does not: how
far `tx_seq` moved, which bytes of the stream a segment carried, and how many
of them the application was told to reuse. A rewind makes bytes that were
sent available again, so `tx_pending` alone does not tell what was sent.

`rx_is_ack_valid` takes every number up to the end of what is available for
one in the window, sent or not (`sock_ack_valid` of the slow path stops at
`tx_pending`). An ACK for bytes that are still waiting moves `tx_seq` and
`tx_head` past them, and they are never sent.
-/

namespace Chamelio.Tcp

open Chamelio.Lib Chamelio.Util Chamelio.Pkt Chamelio.Fast

/-- The fast path, and the history of the bytes of socket `sid` from the
first one on. -/
structure SendLog where
  ctx : TcpCtx
  /-- Bytes `tx_seq` moved over. -/
  acked : Nat
  /-- The byte after the last one sent. -/
  top : Nat
  /-- The bytes that were sent. -/
  sent : Nat → Bool
  /-- Bytes the application was told to reuse. -/
  freed : Nat

/-- Bytes of its transmit ring an event releases to the application. -/
def freedNow (ctx : TcpCtx) (sid : Nat) : FastEv → Nat
  | .rx e =>
    if sockFind (evCtx ctx e) = some sid then
      (appQueue (tcpEventRx (evCtx ctx e)).1 sid).sum appTxAmount -
        (appQueue (evCtx ctx e) sid).sum appTxAmount
    else 0
  | _ => 0

/-- The bytes of the stream an event sends. -/
def SendLog.span (sid : Nat) (g : SendLog) (ev : FastEv) : Option (Nat × Nat) :=
  (sentNow g.ctx sid ev).map (fun (seq, n) =>
    let lo := g.acked + (seq - (sockOf g.ctx sid).txSeq).toNat
    (lo, lo + n))

def sendStep (sid : Nat) (g : SendLog) (ev : FastEv) : SendLog × Unit :=
  let ctx := (fastStep g.ctx ev).1
  ({ ctx
     acked := g.acked + ((sockOf ctx sid).txSeq - (sockOf g.ctx sid).txSeq).toNat
     top := match g.span sid ev with
       | none => g.top
       | some (_, hi) => max g.top hi
     sent := match g.span sid ev with
       | none => g.sent
       | some (lo, hi) => fun k => g.sent k || (decide (lo ≤ k) && decide (k < hi))
     freed := g.freed + freedNow g.ctx sid ev }, ())

/-- The connection was just established: nothing was sent. -/
structure SendStart (sid : Nat) (g : SendLog) : Prop where
  state : (sockOf g.ctx sid).state = .established
  pending : (sockOf g.ctx sid).txPending = 0
  acked : g.acked = 0
  top : g.top = 0
  freed : g.freed = 0

/-- No byte before `tx_seq` and none the application was told to reuse was
never sent. -/
structure SentFirst (sid : Nat) (iss : UInt32) (g : SendLog) : Prop where
  seq : (sockOf g.ctx sid).txSeq = serial iss g.acked
  top : g.acked ≤ g.top
  acked : ∀ k, k < g.acked → g.sent k = true
  freed : ∀ k, k < g.freed → g.sent k = true

/-- An event moves `tx_head` by the bytes it moves `tx_seq`. -/
def HeadMoves (ctx : TcpCtx) (sid : Nat) (ev : FastEv) : Prop :=
  let s := sockOf ctx sid
  let t := sockOf (fastStep ctx ev).1 sid
  (t.txSeq = s.txSeq ∧ t.txHead = s.txHead) ∨
  t.txHead = (s.txHead + (t.txSeq - s.txSeq)) % s.txLen

/-- A segment for the socket acknowledges nothing that was never sent: its
ACK number is not taken, or no further than the last byte sent; without the
ACK flag it repeats `tx_seq`. -/
def AckOk (sid : Nat) (g : SendLog) : FastEv → Prop
  | .rx e =>
    sockFind (evCtx g.ctx e) = some sid → rxIsFlagsCtl e.pkt = false →
    rxIsAckValid (sockOf g.ctx sid).txSeq (sockOf g.ctx sid).txPending (sockOf g.ctx sid).txAvail
      (tcpAckno e.pkt) = true →
    if rxIsAck e.pkt then g.acked + (tcpAckno e.pkt - (sockOf g.ctx sid).txSeq).toNat ≤ g.top
    else tcpAckno e.pkt = (sockOf g.ctx sid).txSeq
  | _ => True

instance (sid : Nat) (g : SendLog) (ev : FastEv) : Decidable (AckOk sid g ev) :=
  match ev with
  | .rx e =>
    inferInstanceAs (Decidable (sockFind (evCtx g.ctx e) = some sid →
      rxIsFlagsCtl e.pkt = false →
      rxIsAckValid (sockOf g.ctx sid).txSeq (sockOf g.ctx sid).txPending
        (sockOf g.ctx sid).txAvail (tcpAckno e.pkt) = true →
      if rxIsAck e.pkt then g.acked + (tcpAckno e.pkt - (sockOf g.ctx sid).txSeq).toNat ≤ g.top
      else tcpAckno e.pkt = (sockOf g.ctx sid).txSeq))
  | .deq .. | .sched _ => inferInstanceAs (Decidable True)

/-! ## What the application is told -/

section freed

variable {ctx : TcpCtx} {sid : Nat}

/-- The announcement of a payload releases nothing. -/
theorem rxPayload_freed (v : RxLocals) (hdrlen : UInt32) (fr : Bool) :
    (appQueue (rxPayload ctx sid v hdrlen fr).1 sid).sum appTxAmount =
      (appQueue ctx sid).sum appTxAmount := by
  obtain ⟨b, hb⟩ : ∃ b, rxGetRxBump (sockOf ctx sid)
      ((rxGetPaylen ctx.pkt).toUInt32 - v.overlap) = b := ⟨_, rfl⟩
  rcases rxPayload_spec ctx sid v hdrlen fr hb with
    ⟨hq, -, -⟩ | ⟨-, -, -, ⟨q, hpush, hq, -⟩ | ⟨-, -, heq⟩⟩
  · rw [hq.appQueue]
  · rw [hq.appQueue, appQueue_delivered, Fifo.push_sum appTxAmount hpush]
    rfl
  · rw [heq]
    unfold appQueue
    rw [sockOf_setSock, setSock_equeues, rxCopyPayload_equeues]
    rfl

theorem rxSegment_freed (hdrlen : UInt32) :
    (appQueue (rxSegment ctx sid hdrlen).1 sid).sum appTxAmount ≤
      (appQueue ctx sid).sum appTxAmount +
        (rxGetAckBump ctx.pkt (sockOf ctx sid)).toNat := by
  obtain ⟨hqid, -⟩ := ackedSock_queue ctx.pkt (sockOf ctx sid)
  rcases rxSegment_spec ctx sid hdrlen with
    ⟨ctx₁, heq, -, hq⟩ | ⟨ctx₁, s₁, q, fr, hs₁, hAQ, -, hq, heq⟩
  · rw [heq]
    dsimp only
    rw [hq.appQueue]
    unfold appQueue
    rw [sockOf_setSock, hqid, setSock_equeues]
    omega
  · have hs : s₁.appBumpQid = (sockOf ctx sid).appBumpQid := by
      rcases hs₁ with rfl | ⟨-, rfl⟩
      · exact hqid
      · rw [rewoundSock_appBumpQid, hqid]
    have h₁ : (appQueue ctx₁ sid).sum appTxAmount ≤ (appQueue ctx sid).sum appTxAmount +
        (rxGetAckBump ctx.pkt (sockOf ctx sid)).toNat := by
      rw [hq.appQueue, appQueue_withSockQueue q hs]
      rcases hAQ with ⟨-, rfl⟩ | ⟨-, hpush⟩
      · omega
      · rw [Fifo.push_sum appTxAmount hpush]
        exact Nat.le_refl _
    rw [heq]
    split
    · exact h₁
    · rw [rxPayload_freed]
      exact h₁

/-- With the ACK flag `tx_seq` moves by what the application is told to
reuse, at least. -/
theorem rxSegment_freed_ack (hdrlen : UInt32) (hack : rxIsAck ctx.pkt = true) :
    (sockOf (rxSegment ctx sid hdrlen).1 sid).txSeq =
      (sockOf ctx sid).txSeq + rxGetAckBump ctx.pkt (sockOf ctx sid) := by
  have hacked := ackedSock_tx ctx.pkt (sockOf ctx sid)
  rw [hack, if_pos rfl] at hacked
  rcases @rxSegment_tx ctx sid hdrlen with h | ⟨-, -, -, -, h⟩
  · rw [hacked] at h
    exact congrArg TxView.seq h
  · rw [hacked] at h
    exact congrArg TxView.seq h

/-- **What the application is told to reuse** was acknowledged, or the
segment had no ACK flag. -/
theorem tcpEventRx_freed (ctx : TcpCtx) (sid : Nat) (e : EvIn) :
    freedNow ctx sid (.rx e) ≤
      ((sockOf (tcpEventRx (evCtx ctx e)).1 sid).txSeq - (sockOf ctx sid).txSeq).toNat ∨
    (rxIsFlagsCtl e.pkt = false ∧ sockFind (evCtx ctx e) = some sid ∧ rxIsAck e.pkt = false ∧
      freedNow ctx sid (.rx e) ≤ (rxGetAckBump e.pkt (sockOf ctx sid)).toNat) := by
  unfold freedNow
  dsimp only
  by_cases hfind : sockFind (evCtx ctx e) = some sid
  · rw [if_pos hfind]
    have hpunt : (appQueue (rxPuntCtl (evCtx ctx e)).1 sid).sum appTxAmount =
        (appQueue (evCtx ctx e) sid).sum appTxAmount := by
      unfold appQueue
      rw [rxPuntCtl_sum appTxAmount (fun _ _ => rfl) rfl, (rxPuntCtl_frame _).1]
      rfl
    have hzero : ∀ {c : TcpCtx} {d : Nat}, (appQueue c sid).sum appTxAmount =
        (appQueue (evCtx ctx e) sid).sum appTxAmount → (appQueue c sid).sum appTxAmount -
          (appQueue (evCtx ctx e) sid).sum appTxAmount ≤ d := by
      intro c d h
      rw [h, Nat.sub_self]
      exact Nat.zero_le d
    unfold tcpEventRx
    split
    · exact .inl (hzero rfl)
    · split
      · exact .inl (hzero rfl)
      · split
        · exact .inl (hzero hpunt)
        · next hctl =>
          rw [hfind]
          dsimp only
          split
          · exact .inl (hzero hpunt)
          · have hmark := quiet_rxMarkCe (evCtx ctx e) sid
            have hpkt : (rxMarkCe (evCtx ctx e) sid).pkt = e.pkt := rxMarkCe_pkt _ _
            unfold rxEstablished
            dsimp only
            split
            · exact .inl (hzero (by rw [(hmark.trans (quiet_txFillAck _ sid)).appQueue]))
            · have hbare : (sockOf (rxMarkCe (evCtx ctx e) sid) sid).bare = (sockOf ctx sid).bare :=
                hmark.socks sid
              have hseq : (sockOf (rxMarkCe (evCtx ctx e) sid) sid).txSeq =
                (sockOf ctx sid).txSeq := (congrArg TcpSock.txSeq hbare :)
              have hle := @rxSegment_freed (rxMarkCe (evCtx ctx e) sid) sid
                (rxGetHdrlen (rxMarkCe (evCtx ctx e) sid).pkt)
              rw [hmark.appQueue, rxGetAckBump_bare hbare] at hle
              have hacked := @rxSegment_freed_ack (rxMarkCe (evCtx ctx e) sid) sid
                (rxGetHdrlen (rxMarkCe (evCtx ctx e) sid).pkt)
              rw [rxGetAckBump_bare hbare, hseq] at hacked
              rw [hpkt] at hle hacked ⊢
              cases hack : rxIsAck e.pkt with
              | true =>
                left
                rw [hacked hack, UInt32.add_comm, UInt32.add_sub_cancel]
                omega
              | false => exact .inr ⟨Bool.eq_false_iff.mpr hctl, rfl, rfl, by omega⟩
  · rw [if_neg hfind]
    exact .inl (Nat.zero_le _)

end freed

/-! ## Every run -/

/-- What is pending was sent, and everything before the last byte sent. -/
structure SendInv (sid : Nat) (iss : UInt32) (g : SendLog) : Prop where
  seq : (sockOf g.ctx sid).txSeq = serial iss g.acked
  flight : g.acked + (sockOf g.ctx sid).txPending.toNat ≤ g.top
  sent : ∀ k, k < g.top → g.sent k = true
  freed : g.freed ≤ g.acked

section runs

variable {sid : Nat} {iss : UInt32} {g : SendLog}

/-- `tx_seq` after an event that moves it by `d` bytes. -/
theorem serial_moved {a b : UInt32} {n : Nat} (h : a = serial iss n) :
    b = serial iss (n + (b - a).toNat) := by
  rw [← serial_add, ← h, UInt32.add_comm, UInt32.sub_add_cancel]

/-- An event without a payload. -/
theorem SendInv.quiet (h : SendInv sid iss g) {ev : FastEv} (hs : sentNow g.ctx sid ev = none)
    (hfl : g.acked + ((sockOf (fastStep g.ctx ev).1 sid).txSeq -
        (sockOf g.ctx sid).txSeq).toNat +
      (sockOf (fastStep g.ctx ev).1 sid).txPending.toNat ≤ g.top)
    (hfr : freedNow g.ctx sid ev ≤ ((sockOf (fastStep g.ctx ev).1 sid).txSeq -
      (sockOf g.ctx sid).txSeq).toNat) : SendInv sid iss (sendStep sid g ev).1 := by
  have hspan : g.span sid ev = none := by
    unfold SendLog.span
    rw [hs]
    rfl
  have hfreed := h.freed
  unfold sendStep
  dsimp only
  rw [hspan]
  refine ⟨serial_moved h.seq, hfl, h.sent, ?_⟩
  show g.freed + _ ≤ g.acked + _
  omega

/-- What the code takes for an acknowledged amount. -/
theorem rxGetAckBump_cases (p : Nat → UInt8) (s : TcpSock) :
    rxGetAckBump p s = 0 ∨
    (rxIsAckValid s.txSeq s.txPending s.txAvail (tcpAckno p) = true ∧
      rxGetAckBump p s = tcpAckno p - s.txSeq) := by
  unfold rxGetAckBump
  dsimp only
  split
  · next hv => exact .inr ⟨hv, rfl⟩
  · exact .inl rfl

/-- The application is told to reuse no more than `tx_seq` moved over. -/
theorem AckOk.freed {e : EvIn} (hok : AckOk sid g (.rx e)) :
    freedNow g.ctx sid (.rx e) ≤ ((sockOf (fastStep g.ctx (.rx e)).1 sid).txSeq -
      (sockOf g.ctx sid).txSeq).toNat := by
  rcases tcpEventRx_freed g.ctx sid e with h | ⟨hctl, hfind, hack, h⟩
  · exact h
  · have hz : rxGetAckBump e.pkt (sockOf g.ctx sid) = 0 := by
      rcases rxGetAckBump_cases e.pkt (sockOf g.ctx sid) with hz | ⟨hv, heq⟩
      · exact hz
      · have := hok hfind hctl hv
        rw [hack, if_neg Bool.false_ne_true] at this
        rw [heq, this, UInt32.sub_self]
    rw [hz] at h
    exact Nat.le_trans h (Nat.zero_le _)

/-- An acknowledgement stops at the last byte sent. -/
theorem AckOk.acked {e : EvIn} (hok : AckOk sid g (.rx e)) (hctl : rxIsFlagsCtl e.pkt = false)
    (hfind : sockFind (evCtx g.ctx e) = some sid) (hack : rxIsAck e.pkt = true)
    (hfl : g.acked + (sockOf g.ctx sid).txPending.toNat ≤ g.top) :
    g.acked + (rxGetAckBump e.pkt (sockOf g.ctx sid)).toNat ≤ g.top := by
  rcases rxGetAckBump_cases e.pkt (sockOf g.ctx sid) with hz | ⟨hv, heq⟩
  · rw [hz, UInt32.toNat_zero]
    omega
  · have := hok hfind hctl hv
    rw [hack, if_pos rfl] at this
    rw [heq]
    exact this

theorem SendInv.next (h : SendInv sid iss g) {ev : FastEv} (hok : AckOk sid g ev) :
    SendInv sid iss (sendStep sid g ev).1 := by
  have hev := fastStep_tx g.ctx sid ev
  have hfl := h.flight
  have hseq : ∀ {v : TxView}, v = (sockOf (fastStep g.ctx ev).1 sid).tx →
      (sockOf (fastStep g.ctx ev).1 sid).txSeq = v.seq ∧
      (sockOf (fastStep g.ctx ev).1 sid).txPending = v.pending := by
    rintro v rfl
    exact ⟨rfl, rfl⟩
  have hfr : freedNow g.ctx sid ev ≤ ((sockOf (fastStep g.ctx ev).1 sid).txSeq -
      (sockOf g.ctx sid).txSeq).toNat := by
    cases ev with
    | rx e => exact hok.freed
    | deq e qe qeOff => exact Nat.zero_le _
    | sched e => exact Nat.zero_le _
  generalize hs : (sockOf g.ctx sid).tx = s at hev
  generalize ht : (sockOf (fastStep g.ctx ev).1 sid).tx = t at hev
  obtain ⟨hts, htp⟩ := hseq ht.symm
  have hss : (sockOf g.ctx sid).txSeq = s.seq := congrArg TxView.seq hs
  have hsp : (sockOf g.ctx sid).txPending = s.pending := congrArg TxView.pending hs
  -- an event that leaves `tx_seq`, and sends nothing
  have hstill : sentNow g.ctx sid ev = none → t.seq = s.seq → t.pending.toNat ≤ s.pending.toNat →
      SendInv sid iss (sendStep sid g ev).1 := by
    intro hnone hsq hp
    refine h.quiet hnone ?_ hfr
    rw [hts, htp, hss, hsq, UInt32.sub_self, UInt32.toNat_zero]
    rw [hsp] at hfl
    omega
  cases hev with
  | calm hnone => exact hstill hnone rfl (Nat.le_refl _)
  | window _ _ _ => exact hstill rfl rfl (Nat.le_refl _)
  | @ack e _ hctl hfind hack =>
    have htop := hok.acked hctl hfind hack hfl
    refine h.quiet rfl ?_ hfr
    rw [hts, htp, hss]
    rw [hsp] at hfl
    generalize rxGetAckBump e.pkt (sockOf g.ctx sid) = k at htop
    show g.acked + (s.seq + k - s.seq).toNat + (if k ≤ s.pending then s.pending - k else 0).toNat ≤
      g.top
    rw [UInt32.add_comm, UInt32.add_sub_cancel]
    split
    · next hle =>
      have hle' := UInt32.le_iff_toNat_le.mp hle
      rw [toNat_sub_of_le hle']
      omega
    · rw [UInt32.toNat_zero]
      omega
  | dupAck _ _ _ _ _ _ => exact hstill rfl (UInt32.add_zero _) (Nat.zero_le _)
  | add _ _ _ _ _ => exact hstill rfl rfl (Nat.le_refl _)
  | retransmit _ _ _ _ _ => exact hstill rfl rfl (Nat.zero_le _)
  | @send e _ b hpos _ _ _ hsent =>
    have hspan : g.span sid (.sched e) =
        some (g.acked + s.pending.toNat, g.acked + s.pending.toNat + b.toNat) := by
      unfold SendLog.span
      rw [hsent, hss, Option.map_some]
      dsimp only
      rw [UInt32.add_comm, UInt32.add_sub_cancel]
    have hpend : (s.pending + b).toNat ≤ s.pending.toNat + b.toNat := by
      rw [UInt32.toNat_add]
      exact Nat.mod_le _ _
    have hfreed := h.freed
    have hmove := serial_moved (b := (sockOf (fastStep g.ctx (.sched e)).1 sid).txSeq) h.seq
    unfold sendStep
    dsimp only
    rw [hspan]
    refine ⟨hmove, ?_, ?_, ?_⟩
    · show g.acked + _ + (sockOf (fastStep g.ctx (.sched e)).1 sid).txPending.toNat ≤ max g.top _
      rw [hts, htp, hss]
      show g.acked + (s.seq - s.seq).toNat + (s.pending + b).toNat ≤ _
      rw [UInt32.sub_self, UInt32.toNat_zero]
      omega
    · intro k hk
      have hk : k < max g.top (g.acked + s.pending.toNat + b.toNat) := hk
      show (g.sent k || (decide (g.acked + s.pending.toNat ≤ k) &&
        decide (k < g.acked + s.pending.toNat + b.toNat))) = true
      by_cases hlt : k < g.top
      · rw [h.sent k hlt]
        rfl
      · -- behind everything sent so far, and so in the new segment
        rw [hsp] at hfl
        rw [decide_eq_true (show g.acked + s.pending.toNat ≤ k by omega),
          decide_eq_true (show k < g.acked + s.pending.toNat + b.toNat by omega), Bool.and_self,
          Bool.or_true]
    · show g.freed + _ ≤ g.acked + _
      omega

theorem SendStart.inv (h : SendStart sid g) : SendInv sid (sockOf g.ctx sid).txSeq g := by
  refine ⟨?_, ?_, ?_, ?_⟩
  · rw [h.acked, serial_zero]
  · simp only [h.acked, h.pending, h.top, UInt32.toNat_zero, Nat.le_refl, Nat.add_zero]
  · intro k hk
    rw [h.top] at hk
    exact absurd hk (Nat.not_lt_zero k)
  · simp only [h.acked, h.freed, Nat.le_refl]

theorem SendInv.sentFirst (h : SendInv sid iss g) : SentFirst sid iss g := by
  have hfl := h.flight
  have hfr := h.freed
  exact ⟨h.seq, by omega, fun k hk => h.sent k (by omega), fun k hk => h.sent k (by omega)⟩

/-- Every event moves `tx_head` with `tx_seq`. -/
theorem headMoves (ctx : TcpCtx) (sid : Nat) (ev : FastEv) : HeadMoves ctx sid ev := by
  have hev := fastStep_tx ctx sid ev
  unfold HeadMoves
  dsimp only
  show ((sockOf (fastStep ctx ev).1 sid).tx.seq = (sockOf ctx sid).tx.seq ∧
      (sockOf (fastStep ctx ev).1 sid).tx.head = (sockOf ctx sid).tx.head) ∨
    (sockOf (fastStep ctx ev).1 sid).tx.head = ((sockOf ctx sid).tx.head +
      ((sockOf (fastStep ctx ev).1 sid).tx.seq - (sockOf ctx sid).tx.seq)) %
      (sockOf ctx sid).tx.len
  generalize (sockOf ctx sid).tx = s at hev ⊢
  generalize (sockOf (fastStep ctx ev).1 sid).tx = t at hev ⊢
  have hmod : ∀ k : UInt32, (s.head + k) % s.len = (s.head + (s.seq + k - s.seq)) % s.len := by
    intro k
    rw [UInt32.add_comm s.seq, UInt32.add_sub_cancel]
  cases hev with
  | calm _ => exact .inl ⟨rfl, rfl⟩
  | window _ _ _ => exact .inl ⟨rfl, rfl⟩
  | ack _ _ _ => exact .inr (hmod _)
  | dupAck _ _ _ _ _ _ => exact .inr (hmod 0)
  | add _ _ _ _ _ => exact .inl ⟨rfl, rfl⟩
  | retransmit _ _ _ _ _ => exact .inl ⟨rfl, rfl⟩
  | send _ _ _ _ _ _ => exact .inl ⟨rfl, rfl⟩

end runs

/-- **No byte is acknowledged or released before it was sent**, along every
run in which every segment for the socket acknowledges sent bytes only. -/
theorem acked_were_sent {sid : Nat} {g₀ g : SendLog} {log : List Unit} (h₀ : SendStart sid g₀)
    (hr : Run (AckOk sid) (sendStep sid) g₀ log g) :
    SentFirst sid (sockOf g₀.ctx sid).txSeq g ∧ ∀ ev, HeadMoves g.ctx sid ev := by
  have hinv : SendInv sid (sockOf g₀.ctx sid).txSeq g :=
    Run.inv (I := fun _ g => SendInv sid (sockOf g₀.ctx sid).txSeq g) h₀.inv
      (fun _ _ _ h hok => h.next hok) hr
  exact ⟨hinv.sentFirst, headMoves g.ctx sid⟩

section peer

/-- A connection on which nothing was sent yet. -/
def freshSend : SendLog :=
  { ctx := oneSockCtx
      { TcpSock.zero with
        state := .established, txSeq := 100, txLen := 4096, txRemoteAvail := 1000 } 4
    acked := 0, top := 0, sent := fun _ => false, freed := 0 }

/-- What an event finds: the segment `pkt`, and queues with room. -/
def idleIn (pkt : Nat → UInt8) : EvIn :=
  { pkt, virtGre := false, shm := fun _ => 0, equeues := fun _ => { items := [], nelems := 4 }
    dqueues := fun _ => { q := { items := [], nelems := 4 }, off := 0, elsize := 64, head := 0 } }

/-- The application announces ten bytes. -/
def announceTen : FastEv := .deq (idleIn (fun _ => 0)) (.bumpChamTx 0 0 0 10) 0

/-- The peer acknowledges the numbers before `ack`. -/
def peerAck (ack : UInt32) : FastEv :=
  .rx (idleIn (ctlPktFill
    { localIp := 0, localPort := 0, remoteIp := 0, remotePort := 0, seq := 0, ack
      flags := tcpAck, wnd := 1000, tsRecent := none }))

theorem freshSend_start : SendStart 0 freshSend := ⟨rfl, rfl, rfl, rfl, rfl⟩

/-- Ten bytes are announced, sent, and acknowledged. -/
def sendTenRun : List FastEv := [announceTen, .sched (idleIn (fun _ => 0)), peerAck 110]

theorem acked_were_sent_ten :
    let g := (execAll (sendStep 0) sendTenRun freshSend).2
    (g.acked = 10 ∧ g.top = 10 ∧ g.freed = 10) ∧ SentFirst 0 100 g := by
  refine ⟨by decide +kernel, ?_⟩
  have hr : Run (AckOk 0) (sendStep 0) freshSend _ _ :=
    Run.execOk sendTenRun Run.nil (by decide +kernel)
  exact (acked_were_sent freshSend_start hr).1

/-- Without the send, the ACK is taken all the same. -/
theorem acked_were_sent_refuted :
    ¬ ∀ (sid : Nat) (g₀ g : SendLog) (log : List Unit), SendStart sid g₀ →
      Run (fun _ _ => True) (sendStep sid) g₀ log g →
      SentFirst sid (sockOf g₀.ctx sid).txSeq g ∧ ∀ ev, HeadMoves g.ctx sid ev := by
  intro h
  have hr : Run (fun _ _ => True) (sendStep 0) freshSend _ _ :=
    Run.execAll [announceTen, peerAck 110] Run.nil
  exact absurd (h 0 _ _ _ freshSend_start hr).1.top (by decide +kernel)

end peer

end Chamelio.Tcp
