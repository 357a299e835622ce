import Chamelio.Tcp.TxSide
import Chamelio.Tcp.AckBound

/-!
# Recovery bounds the flight

The fourth duplicate ACK, or a retransmit command of the slow path, makes
what is in flight available again and remembers where the flight ended.
Until `tx_seq` gets there the socket sends nothing behind that number.

The numbers are compared through a signed difference, so the invariant is a
distance on the circle: while recovery is active the end of the flight is
between one byte and half a turn ahead of `tx_seq`, and `tx_pending` does not
reach past it. A flight is never longer than the 16 bit window it was sent
into, which is what makes the first distance small enough. No part of this
asks what the application announces. Where all it announces fits a ring
shorter than half a turn, the distance is the one between places in the
stream, and `RecoveryLog` counts those.
-/

namespace Chamelio.Tcp

open Chamelio.Lib Chamelio.Util Chamelio.Pkt Chamelio.Fast

/-- The fast path, and the history of the recoveries of socket `sid`. -/
structure RecoveryLog where
  ctx : TcpCtx
  /-- Bytes `tx_seq` moved over. -/
  acked : Nat
  /-- The byte behind the flight that was outstanding when recovery was
  entered last. -/
  flightEnd : Nat
  /-- All that was announced so far fit the transmit ring. -/
  fits : Bool

/-- What the application announces fits the transmit ring. -/
def bumpFits (ctx : TcpCtx) (sid : Nat) : FastEv → Bool
  | .deq _ (.bumpChamTx sockId _ _ n) _ =>
    sockId.toNat != sid ||
      decide ((sockOf ctx sid).txPending.toNat + (sockOf ctx sid).txAvail.toNat + n.toNat ≤
        (sockOf ctx sid).txLen.toNat)
  | _ => true

def recoveryStep (sid : Nat) (g : RecoveryLog) (ev : FastEv) : RecoveryLog × Unit :=
  let s := sockOf g.ctx sid
  let ctx := (fastStep g.ctx ev).1
  let t := sockOf ctx sid
  ({ ctx
     acked := g.acked + (t.txSeq - s.txSeq).toNat
     flightEnd := if !s.recoveryActive && t.recoveryActive then g.acked + s.txPending.toNat
       else g.flightEnd
     fits := g.fits && bumpFits g.ctx sid ev }, ())

/-- A socket as the slow path leaves it when the connection is established:
`tx_remote_avail` is a 16 bit field of a header. -/
structure RecoveryStart (sid : Nat) (g : RecoveryLog) : Prop where
  state : (sockOf g.ctx sid).state = .established
  idle : (sockOf g.ctx sid).recoveryActive = false
  flight : (sockOf g.ctx sid).txPending.toNat < 65536
  window : (sockOf g.ctx sid).txRemoteAvail.toNat < 65536
  len : (sockOf g.ctx sid).txLen.toNat < 2147483648
  room : g.fits = true → (sockOf g.ctx sid).txPending.toNat + (sockOf g.ctx sid).txAvail.toNat ≤
    (sockOf g.ctx sid).txLen.toNat
  acked : g.acked = 0

/-- While recovery is active, `tx_seq` is before the end of the flight that
was outstanding when it was entered, and what is in flight now ends no later. -/
structure RecoveryBound (sid : Nat) (iss : UInt32) (g : RecoveryLog) : Prop where
  seq : (sockOf g.ctx sid).txSeq = serial iss g.acked
  endSeq : (sockOf g.ctx sid).recoveryActive = true →
    (sockOf g.ctx sid).recoveryEndSeq = serial iss g.flightEnd
  before : (sockOf g.ctx sid).recoveryActive = true →
    s32 ((sockOf g.ctx sid).txSeq - (sockOf g.ctx sid).recoveryEndSeq) < 0
  flight : (sockOf g.ctx sid).recoveryActive = true →
    s32 ((sockOf g.ctx sid).txSeq + (sockOf g.ctx sid).txPending -
      (sockOf g.ctx sid).recoveryEndSeq) ≤ 0
  place : (sockOf g.ctx sid).recoveryActive = true → g.fits = true →
    g.acked < g.flightEnd ∧ g.acked + (sockOf g.ctx sid).txPending.toNat ≤ g.flightEnd

/-- While recovery is active an event sends no byte from the end of the
flight on. -/
def SendsBefore (sid : Nat) (g : RecoveryLog) (ev : FastEv) : Prop :=
  (sockOf g.ctx sid).recoveryActive = true → ∀ seq n, sentNow g.ctx sid ev = some (seq, n) →
    (∀ k, k < n → s32 (serial seq k - (sockOf g.ctx sid).recoveryEndSeq) < 0) ∧
    (g.fits = true → g.acked + (seq - (sockOf g.ctx sid).txSeq).toNat + n ≤ g.flightEnd)

/-- An event ends the recovery exactly if `tx_seq` gets to the end of the
flight. -/
def EndsAtFlightEnd (sid : Nat) (g : RecoveryLog) (ev : FastEv) : Prop :=
  let g' := (recoveryStep sid g ev).1
  (sockOf g.ctx sid).recoveryActive = true →
    ((sockOf g'.ctx sid).recoveryActive = false ↔
      0 ≤ s32 ((sockOf g'.ctx sid).txSeq - (sockOf g.ctx sid).recoveryEndSeq)) ∧
    (g.fits = true →
      ((sockOf g'.ctx sid).recoveryActive = false ↔ g.flightEnd ≤ g'.acked))

/-! ## The invariant of the transmit side -/

/-- The way left to the end of the flight. -/
def TxView.left (s : TxView) : Nat := (s.recoveryEnd - s.seq).toNat

structure RecoveryInv (iss : UInt32) (acked flightEnd : Nat) (fits : Bool) (s : TxView) :
    Prop where
  seq : s.seq = serial iss acked
  flight : s.pending.toNat < 65536
  window : s.remote.toNat < 65536
  len : s.len.toNat < 2147483648
  room : fits = true → s.pending.toNat + s.avail.toNat ≤ s.len.toNat
  endSeq : s.recovery = true → s.recoveryEnd = serial iss flightEnd
  span : s.recovery = true → 0 < s.left ∧ s.left ≤ 2147483648 ∧ s.pending.toNat ≤ s.left
  place : s.recovery = true → fits = true → flightEnd = acked + s.left

namespace RecoveryInv

variable {iss : UInt32} {acked flightEnd : Nat} {fits : Bool} {s : TxView}

theorem before (h : RecoveryInv iss acked flightEnd fits s) (hr : s.recovery = true) :
    s32 (s.seq - s.recoveryEnd) < 0 := by
  obtain ⟨hpos, hhalf, -⟩ := h.span hr
  exact (s32_sub_neg_iff _ _).mpr ⟨hpos, hhalf⟩

/-- A number some way ahead of `tx_seq`, and short of the end of the flight. -/
theorem ahead (h : RecoveryInv iss acked flightEnd fits s) (hr : s.recovery = true) {k : UInt32}
    (hk : k.toNat < s.left) : s32 (s.seq + k - s.recoveryEnd) < 0 := by
  obtain ⟨-, hhalf, -⟩ := h.span hr
  refine (s32_sub_neg_iff _ _).mpr ?_
  unfold TxView.left at hk hhalf
  rw [toNat_sub_add, if_pos (by omega)]
  omega

theorem flightBefore (h : RecoveryInv iss acked flightEnd fits s) (hr : s.recovery = true) :
    s32 (s.seq + s.pending - s.recoveryEnd) ≤ 0 := by
  obtain ⟨-, -, hpend⟩ := h.span hr
  by_cases heq : s.pending.toNat = s.left
  · have hz : s.seq + s.pending - s.recoveryEnd = 0 := by
      have : s.pending = s.recoveryEnd - s.seq := UInt32.toNat_inj.mp heq
      rw [this, UInt32.add_comm, UInt32.sub_add_cancel, UInt32.sub_self]
    rw [hz]
    decide
  · exact Int.le_of_lt (h.ahead hr (by omega))

/-- What recovery still allows to be sent is not behind the flight. -/
theorem recoveryAvail_le (h : RecoveryInv iss acked flightEnd fits s) (hr : s.recovery = true) :
    s.pending.toNat + s.recoveryAvail.toNat ≤ s.left := by
  obtain ⟨-, -, hpend⟩ := h.span hr
  unfold TxView.recoveryAvail
  rw [hr]
  simp only [Bool.not_true, Bool.false_eq_true, if_false]
  split
  · rw [UInt32.toNat_zero]
    omega
  · unfold TxView.left at hpend ⊢
    rw [toNat_sub_add, if_pos hpend]
    omega

/-- The signed comparison of `tcp_sock_recovery_ack`, after `k` more bytes. -/
theorem passed_iff (h : RecoveryInv iss acked flightEnd fits s) (hr : s.recovery = true)
    {k : UInt32} (hk : k.toNat ≤ s.pending.toNat + s.avail.toNat) (hf : fits = true) :
    0 ≤ s32 (s.seq + k - s.recoveryEnd) ↔ s.left ≤ k.toNat := by
  obtain ⟨-, hhalf, -⟩ := h.span hr
  have hroom := h.room hf
  have hlen := h.len
  have hneg := s32_sub_neg_iff (s.seq + k) s.recoveryEnd
  rw [toNat_sub_add] at hneg
  unfold TxView.left at hhalf ⊢
  split at hneg <;> omega

end RecoveryInv

section acked

variable (s : TxView) (k : UInt32)

theorem TxView.acked_pending : (s.acked k).pending.toNat = s.pending.toNat - k.toNat := by
  show (if k ≤ s.pending then s.pending - k else 0).toNat = _
  split
  · next hle => exact toNat_sub_of_le (UInt32.le_iff_toNat_le.mp hle)
  · next hle =>
    have hlt := UInt32.lt_iff_toNat_lt.mp (UInt32.not_le.mp hle)
    rw [UInt32.toNat_zero]
    omega

theorem TxView.acked_avail_le : (s.acked k).avail.toNat ≤ s.avail.toNat := by
  unfold TxView.acked
  dsimp only
  split
  · exact Nat.le_refl _
  · generalize (if k > s.pending then k - s.pending else 0) = extra
    have hle : (if extra > s.avail then s.avail else extra).toNat ≤ s.avail.toNat := by
      rw [toNat_clamp]
      exact Nat.min_le_right _ _
    rw [toNat_sub_of_le hle]
    exact Nat.sub_le _ _

/-- An ACK that recovery outlives. -/
theorem TxView.acked_recovering {s : TxView} {k : UInt32} (h : (s.acked k).recovery = true) :
    s.recovery = true ∧ (s.acked k).recoveryEnd = s.recoveryEnd ∧
      (k = 0 ∨ s32 (s.seq + k - s.recoveryEnd) < 0) := by
  unfold TxView.acked at h ⊢
  dsimp only at h ⊢
  cases hdone : decide (k > 0) && (s.recovery && decide (s32 (s.seq + k - s.recoveryEnd) ≥ 0)) with
  | true =>
    rw [hdone] at h
    cases h
  | false =>
    rw [hdone] at h
    have hrec : s.recovery = true := h
    refine ⟨hrec, rfl, ?_⟩
    rw [hrec, Bool.true_and, Bool.and_eq_false_iff] at hdone
    rcases hdone with hz | hneg
    · left
      have hnot := of_decide_eq_false hz
      refine (u32_eq_zero_iff k).mpr ?_
      have : ¬ 0 < k.toNat := fun hlt => hnot (UInt32.lt_iff_toNat_lt.mpr hlt)
      omega
    · right
      have hnot := of_decide_eq_false hneg
      omega

/-- An ACK in recovery that ends it. -/
theorem TxView.acked_done {s : TxView} {k : UInt32} (hr : s.recovery = true) :
    (s.acked k).recovery = false ↔ k > 0 ∧ 0 ≤ s32 (s.seq + k - s.recoveryEnd) := by
  unfold TxView.acked
  dsimp only
  rw [hr, Bool.true_and]
  constructor
  · intro h
    cases hdone : decide (k > 0) && decide (s32 (s.seq + k - s.recoveryEnd) ≥ 0) with
    | true => exact ⟨of_decide_eq_true (Bool.and_eq_true_iff.mp hdone).1,
        of_decide_eq_true (Bool.and_eq_true_iff.mp hdone).2⟩
    | false =>
      rw [hdone] at h
      cases h
  · rintro ⟨hk, hs⟩
    rw [decide_eq_true hk, decide_eq_true hs]
    rfl

end acked

namespace RecoveryInv

variable {iss : UInt32} {acked flightEnd : Nat} {fits : Bool} {s : TxView}

theorem afterWindow (h : RecoveryInv iss acked flightEnd fits s) {w : UInt32}
    (hw : w.toNat < 65536) :
    RecoveryInv iss acked flightEnd fits { s with remote := w } :=
  ⟨h.seq, h.flight, hw, h.len, h.room, h.endSeq, h.span, h.place⟩

theorem afterAck (h : RecoveryInv iss acked flightEnd fits s) {k : UInt32}
    (hk : fits = true → k.toNat ≤ s.pending.toNat + s.avail.toNat) :
    RecoveryInv iss (acked + k.toNat) flightEnd fits (s.acked k) := by
  have hpend := s.acked_pending k
  have hfl := h.flight
  refine ⟨?_, by omega, h.window, h.len, ?_, ?_, ?_, ?_⟩
  · rw [← serial_add, ← h.seq]
    rfl
  · intro hf
    have hroom := h.room hf
    have havail := s.acked_avail_le k
    show (s.acked k).pending.toNat + (s.acked k).avail.toNat ≤ s.len.toNat
    omega
  · intro hr
    obtain ⟨hr₀, hend, -⟩ := TxView.acked_recovering hr
    rw [hend, h.endSeq hr₀]
  · intro hr
    obtain ⟨hr₀, hend, hback⟩ := TxView.acked_recovering hr
    obtain ⟨hpos, hhalf, hle⟩ := h.span hr₀
    unfold TxView.left at hpos hhalf hle ⊢
    rw [hend, hpend]
    show 0 < (s.recoveryEnd - (s.seq + k)).toNat ∧ (s.recoveryEnd - (s.seq + k)).toNat ≤ _ ∧
      _ ≤ (s.recoveryEnd - (s.seq + k)).toNat
    rcases hback with rfl | hneg
    · rw [UInt32.add_zero]
      exact ⟨hpos, hhalf, by omega⟩
    · obtain ⟨hpos', hhalf'⟩ := (s32_sub_neg_iff _ _).mp hneg
      refine ⟨hpos', hhalf', ?_⟩
      rw [toNat_sub_add]
      split <;> omega
  · intro hr hf
    obtain ⟨hr₀, hend, hback⟩ := TxView.acked_recovering hr
    obtain ⟨hpos, -, -⟩ := h.span hr₀
    have hplace := h.place hr₀ hf
    have hshort : k.toNat ≤ s.left := by
      rcases hback with rfl | hneg
      · exact Nat.zero_le _
      · have := h.passed_iff hr₀ (hk hf) hf
        omega
    unfold TxView.left at hplace hshort ⊢
    rw [hend]
    show flightEnd = acked + k.toNat + (s.recoveryEnd - (s.seq + k)).toNat
    rw [toNat_sub_add, if_pos hshort]
    omega

/-- Entering recovery, or going back in it. -/
theorem afterRewind (h : RecoveryInv iss acked flightEnd fits s) (hp : s.pending ≠ 0) :
    RecoveryInv iss acked (if s.recovery then flightEnd else acked + s.pending.toNat) fits
      s.rewound := by
  have hfl := h.flight
  have hpos : 0 < s.pending.toNat := by
    have := mt (u32_eq_zero_iff s.pending).mpr hp
    omega
  have hzero : s.rewound.pending.toNat = 0 := rfl
  have hroom : fits = true → s.rewound.pending.toNat + s.rewound.avail.toNat ≤ s.len.toNat := by
    intro hf
    have := h.room hf
    have := h.len
    show 0 + (s.avail + s.pending).toNat ≤ s.len.toNat
    rw [toNat_add_of_lt (by omega)]
    omega
  cases hr : s.recovery with
  | true =>
    have hend : s.rewound.recoveryEnd = s.recoveryEnd := by
      unfold TxView.rewound
      rw [hr]
      rfl
    have hleft : s.rewound.left = s.left := by
      unfold TxView.left
      rw [hend]
      rfl
    obtain ⟨hpos', hhalf, -⟩ := h.span hr
    refine ⟨h.seq, by omega, h.window, h.len, hroom, ?_, ?_, ?_⟩
    · intro _
      rw [hend]
      exact h.endSeq hr
    · intro _
      rw [hleft]
      exact ⟨hpos', hhalf, Nat.zero_le _⟩
    · intro _ hf
      rw [hleft]
      exact h.place hr hf
  | false =>
    have hend : s.rewound.recoveryEnd = s.seq + s.pending := by
      unfold TxView.rewound
      rw [hr]
      rfl
    have hleft : s.rewound.left = s.pending.toNat := by
      unfold TxView.left
      rw [hend]
      show (s.seq + s.pending - s.seq).toNat = s.pending.toNat
      rw [UInt32.add_comm, UInt32.add_sub_cancel]
    refine ⟨h.seq, by omega, h.window, h.len, hroom, ?_, ?_, ?_⟩
    · intro _
      rw [hend, h.seq, serial_add]
      rfl
    · intro _
      rw [hleft]
      exact ⟨hpos, by omega, Nat.zero_le _⟩
    · intro _ _
      rw [hleft]
      rfl

theorem afterAdd (h : RecoveryInv iss acked flightEnd fits s) {n : UInt32} {fits' : Bool}
    (hf : fits' = true → fits = true ∧
      s.pending.toNat + s.avail.toNat + n.toNat ≤ s.len.toNat) :
    RecoveryInv iss acked flightEnd fits' { s with avail := s.avail + n } := by
  refine ⟨h.seq, h.flight, h.window, h.len, ?_, h.endSeq, h.span, ?_⟩
  · intro hf'
    have hlen := h.len
    have hroom := (hf hf').2
    show s.pending.toNat + (s.avail + n).toNat ≤ s.len.toNat
    rw [toNat_add_of_lt (by omega)]
    omega
  · intro hr hf'
    exact h.place hr (hf hf').1

theorem afterSend (h : RecoveryInv iss acked flightEnd fits s) {b : UInt32}
    (havail : b.toNat ≤ s.avail.toNat) (hfc : b.toNat ≤ s.remote.toNat - s.pending.toNat)
    (hrec : b.toNat ≤ s.recoveryAvail.toNat) :
    RecoveryInv iss acked flightEnd fits (s.sent b) := by
  have hfl := h.flight
  have hwin := h.window
  have hpend : (s.pending + b).toNat = s.pending.toNat + b.toNat := toNat_add_of_lt (by omega)
  refine ⟨h.seq, ?_, hwin, h.len, ?_, h.endSeq, ?_, h.place⟩
  · show (s.pending + b).toNat < 65536
    omega
  · intro hf
    have hroom := h.room hf
    show (s.pending + b).toNat + (s.avail - b).toNat ≤ s.len.toNat
    rw [toNat_sub_of_le havail]
    omega
  · intro hr
    obtain ⟨hpos, hhalf, -⟩ := h.span hr
    have hle := h.recoveryAvail_le hr
    refine ⟨hpos, hhalf, ?_⟩
    show (s.pending + b).toNat ≤ s.left
    omega

end RecoveryInv

/-! ## Every run -/

section runs

variable {sid : Nat} {iss : UInt32} {ctx : TcpCtx} {ev : FastEv} {s t : TxView}
  {acked flightEnd : Nat} {fits : Bool}

theorem RecoveryInv.mono (h : RecoveryInv iss acked flightEnd fits s) {fits' : Bool}
    (hf : fits' = true → fits = true) : RecoveryInv iss acked flightEnd fits' s :=
  ⟨h.seq, h.flight, h.window, h.len, fun h' => h.room (hf h'), h.endSeq, h.span,
    fun hr h' => h.place hr (hf h')⟩

/-- What an ACK moves `tx_seq` by, where everything fit the ring. -/
theorem RecoveryInv.ackBump_le (h : RecoveryInv iss acked flightEnd fits (sockOf ctx sid).tx)
    (p : Nat → UInt8) (hf : fits = true) :
    (rxGetAckBump p (sockOf ctx sid)).toNat ≤
      (sockOf ctx sid).tx.pending.toNat + (sockOf ctx sid).tx.avail.toNat := by
  have hroom := h.room hf
  have hlen := h.len
  have hle := (sockOf ctx sid).tx.len.toNat_lt
  refine rxGetAckBump_le p ?_
  show (sockOf ctx sid).tx.pending.toNat + (sockOf ctx sid).tx.avail.toNat < 4294967296
  omega

/-- An event moves `tx_seq` no further than what was announced. -/
theorem RecoveryInv.moved_le (h : RecoveryInv iss acked flightEnd fits s)
    (hs : (sockOf ctx sid).tx = s) (hev : TxEvent ctx sid ev s t) (hf : fits = true) :
    (t.seq - s.seq).toNat ≤ s.pending.toNat + s.avail.toNat := by
  have hstill : ∀ {t : TxView}, t.seq = s.seq →
      (t.seq - s.seq).toNat ≤ s.pending.toNat + s.avail.toNat := by
    intro t hseq
    rw [hseq, UInt32.sub_self]
    exact Nat.zero_le _
  cases hev with
  | calm _ => exact hstill rfl
  | window _ _ _ => exact hstill rfl
  | @ack e _ _ _ _ =>
    subst hs
    have hle := h.ackBump_le e.pkt hf
    generalize rxGetAckBump e.pkt (sockOf ctx sid) = k at hle ⊢
    show ((sockOf ctx sid).tx.seq + k - (sockOf ctx sid).tx.seq).toNat ≤ _
    rw [UInt32.add_comm, UInt32.add_sub_cancel]
    exact hle
  | dupAck _ _ _ _ _ _ => exact hstill (UInt32.add_zero _)
  | add _ _ _ _ _ => exact hstill rfl
  | retransmit _ _ _ _ _ => exact hstill rfl
  | send _ _ _ _ _ _ => exact hstill rfl

theorem tcpWnd_lt (p : Nat → UInt8) : (tcpWnd p).toUInt32.toNat < 65536 := by
  rw [UInt16.toNat_toUInt32]
  exact (tcpWnd p).toNat_lt

/-- **One event** of the fast path keeps the bound on the flight. -/
theorem RecoveryInv.next (h : RecoveryInv iss acked flightEnd fits s) (hs : (sockOf ctx sid).tx = s)
    (hev : TxEvent ctx sid ev s t) :
    RecoveryInv iss (acked + (t.seq - s.seq).toNat)
      (if !s.recovery && t.recovery then acked + s.pending.toNat else flightEnd)
      (fits && bumpFits ctx sid ev) t := by
  have hmono : (fits && bumpFits ctx sid ev) = true → fits = true :=
    fun hf => (Bool.and_eq_true_iff.mp hf).1
  -- neither `tx_seq` nor the recovery changes
  have hstill : ∀ {t : TxView}, t.seq = s.seq → t.recovery = s.recovery →
      RecoveryInv iss acked flightEnd (fits && bumpFits ctx sid ev) t →
      RecoveryInv iss (acked + (t.seq - s.seq).toNat)
        (if !s.recovery && t.recovery then acked + s.pending.toNat else flightEnd)
        (fits && bumpFits ctx sid ev) t := by
    intro t hseq hrec ht
    rw [hseq, hrec, UInt32.sub_self, Bool.not_and_self]
    exact ht
  cases hev with
  | calm _ => exact hstill rfl rfl (h.mono hmono)
  | window _ _ _ => exact hstill rfl rfl ((h.afterWindow (tcpWnd_lt _)).mono hmono)
  | @ack e _ _ _ _ =>
    have hk : fits = true → (rxGetAckBump e.pkt (sockOf ctx sid)).toNat ≤
        s.pending.toNat + s.avail.toNat := by
      subst hs
      exact h.ackBump_le e.pkt
    generalize rxGetAckBump e.pkt (sockOf ctx sid) = k at hk ⊢
    have ht := (h.afterWindow (tcpWnd_lt e.pkt)).afterAck hk
    have hmoved : (TxView.acked { s with remote := (tcpWnd e.pkt).toUInt32 } k).seq - s.seq = k := by
      show s.seq + k - s.seq = k
      rw [UInt32.add_comm, UInt32.add_sub_cancel]
    have hstay : (!s.recovery && (TxView.acked { s with remote := (tcpWnd e.pkt).toUInt32 }
        k).recovery) = false := by
      cases hr : (TxView.acked { s with remote := (tcpWnd e.pkt).toUInt32 } k).recovery with
      | false => exact Bool.and_false _
      | true =>
        have hr₀ : s.recovery = true := (TxView.acked_recovering hr).1
        rw [hr₀]
        rfl
    rw [hmoved, hstay]
    exact ht.mono hmono
  | @dupAck e _ _ _ _ _ hpend hrec =>
    have h₀ := (h.afterWindow (tcpWnd_lt e.pkt)).afterAck (k := 0) (fun _ => Nat.zero_le _)
    have hpend₀ : (TxView.acked { s with remote := (tcpWnd e.pkt).toUInt32 } 0).pending =
        s.pending := by
      apply UInt32.toNat_inj.mp
      rw [TxView.acked_pending]
      rfl
    have hrec₀ : (TxView.acked { s with remote := (tcpWnd e.pkt).toUInt32 } 0).recovery = false := by
      show (if false = true then false else s.recovery) = false
      exact hrec
    have ht := h₀.afterRewind (by rw [hpend₀]; exact hpend)
    rw [hrec₀, hpend₀, if_neg Bool.false_ne_true] at ht
    have hmoved : (TxView.acked { s with remote := (tcpWnd e.pkt).toUInt32 } 0).rewound.seq -
        s.seq = 0 := by
      show s.seq + 0 - s.seq = 0
      rw [UInt32.add_zero, UInt32.sub_self]
    have hentered : (!s.recovery && (TxView.acked { s with remote := (tcpWnd e.pkt).toUInt32 }
        0).rewound.recovery) = true := by
      rw [hrec]
      rfl
    rw [hmoved, hentered]
    exact ht.mono hmono
  | @add _ _ _ sockId _ _ n hid =>
    refine hstill rfl rfl (h.afterAdd ?_)
    intro hf
    obtain ⟨hf₀, hfit⟩ := Bool.and_eq_true_iff.mp hf
    refine ⟨hf₀, ?_⟩
    unfold bumpFits at hfit
    subst hs
    simp only [hid, bne_self_eq_false, Bool.false_or, decide_eq_true_eq] at hfit
    exact hfit
  | retransmit _ _ _ _ hpend =>
    have ht := h.afterRewind hpend
    show RecoveryInv iss (acked + (s.seq - s.seq).toNat)
      (if (!s.recovery && true) = true then _ else _) _ _
    rw [UInt32.sub_self, Bool.and_true]
    cases hr : s.recovery with
    | true =>
      rw [hr] at ht
      exact ht.mono hmono
    | false =>
      rw [hr] at ht
      exact ht.mono hmono
  | send b _ havail hfc hrec _ => exact hstill rfl rfl ((h.afterSend havail hfc hrec).mono hmono)

/-- What an event of a socket in recovery sends. -/
theorem RecoveryInv.sends (h : RecoveryInv iss acked flightEnd fits s)
    (hev : TxEvent ctx sid ev s t) (hr : s.recovery = true) {seq : UInt32} {n : Nat}
    (hn : sentNow ctx sid ev = some (seq, n)) :
    seq = s.seq + s.pending ∧ s.pending.toNat + n ≤ s.left := by
  have hnone : sentNow ctx sid ev = none → seq = s.seq + s.pending ∧ s.pending.toNat + n ≤ s.left := by
    intro hnone
    rw [hnone] at hn
    cases hn
  cases hev with
  | calm hnone' => exact hnone hnone'
  | window _ _ _ => exact hnone rfl
  | ack _ _ _ => exact hnone rfl
  | dupAck _ _ _ _ _ _ => exact hnone rfl
  | add _ _ _ _ _ => exact hnone rfl
  | retransmit _ _ _ _ _ => exact hnone rfl
  | send b _ _ _ hrec hsent =>
    rw [hsent] at hn
    obtain ⟨rfl, rfl⟩ := Prod.mk.inj (Option.some.inj hn)
    have hle := h.recoveryAvail_le hr
    exact ⟨rfl, by omega⟩

/-- Recovery ends with the ACK that gets to the end of the flight. -/
theorem RecoveryInv.ends (h : RecoveryInv iss acked flightEnd fits s)
    (hev : TxEvent ctx sid ev s t) (hr : s.recovery = true) :
    t.recovery = false ↔ 0 ≤ s32 (t.seq - s.recoveryEnd) := by
  have hbefore := h.before hr
  -- neither `tx_seq` nor the recovery changes
  have hstill : ∀ {t : TxView}, t.seq = s.seq → t.recovery = true →
      (t.recovery = false ↔ 0 ≤ s32 (t.seq - s.recoveryEnd)) := by
    intro t hseq hrec
    rw [hseq, hrec]
    refine ⟨fun hf => ?_, fun hge => ?_⟩
    · cases hf
    · omega
  cases hev with
  | calm _ => exact hstill rfl hr
  | window _ _ _ => exact hstill rfl hr
  | @ack e _ _ _ _ =>
    generalize rxGetAckBump e.pkt (sockOf ctx sid) = k
    have hdone := @TxView.acked_done { s with remote := (tcpWnd e.pkt).toUInt32 } k hr
    rw [hdone]
    show k > 0 ∧ 0 ≤ s32 (s.seq + k - s.recoveryEnd) ↔ 0 ≤ s32 (s.seq + k - s.recoveryEnd)
    refine ⟨And.right, fun hge => ⟨?_, hge⟩⟩
    -- a number that is still before the end is not reached by standing still
    rcases UInt32.lt_or_eq_of_le (UInt32.zero_le (a := k)) with hlt | heq
    · exact hlt
    · rw [← heq, UInt32.add_zero] at hge
      omega
  | dupAck _ _ _ _ _ hrec =>
    rw [hrec] at hr
    cases hr
  | add _ _ _ _ _ => exact hstill rfl hr
  | retransmit _ _ _ _ _ => exact hstill rfl rfl
  | send _ _ _ _ _ _ => exact hstill rfl hr

end runs

section runs

variable {sid : Nat} {iss : UInt32} {g : RecoveryLog}

/-- The invariant of a socket and its history. -/
def RecoveryLog.Inv (sid : Nat) (iss : UInt32) (g : RecoveryLog) : Prop :=
  RecoveryInv iss g.acked g.flightEnd g.fits (sockOf g.ctx sid).tx

theorem RecoveryStart.inv (h : RecoveryStart sid g) : g.Inv sid (sockOf g.ctx sid).txSeq := by
  have hidle : (sockOf g.ctx sid).tx.recovery = true → False := by
    intro hr
    have hr : (sockOf g.ctx sid).recoveryActive = true := hr
    rw [h.idle] at hr
    cases hr
  refine ⟨?_, h.flight, h.window, h.len, h.room, fun hr => (hidle hr).elim,
    fun hr => (hidle hr).elim, fun hr => (hidle hr).elim⟩
  rw [h.acked, serial_zero]
  rfl

theorem RecoveryLog.Inv.step (h : g.Inv sid iss) (ev : FastEv) :
    (recoveryStep sid g ev).1.Inv sid iss := by
  have hev := fastStep_tx g.ctx sid ev
  have hs : (sockOf g.ctx sid).tx = (sockOf g.ctx sid).tx := rfl
  have hnext := RecoveryInv.next h hs hev
  exact hnext

theorem RecoveryLog.Inv.bound (h : g.Inv sid iss) : RecoveryBound sid iss g := by
  have hbefore := RecoveryInv.before h
  have hflight := RecoveryInv.flightBefore h
  refine ⟨h.seq, h.endSeq, hbefore, hflight, ?_⟩
  intro hr hf
  obtain ⟨hpos, -, hpend⟩ := h.span hr
  have hplace := h.place hr hf
  have hpend : (sockOf g.ctx sid).txPending.toNat ≤ (sockOf g.ctx sid).tx.left := hpend
  omega

theorem RecoveryLog.Inv.sendsBefore (h : g.Inv sid iss) (ev : FastEv) : SendsBefore sid g ev := by
  intro hr seq n hn
  obtain ⟨rfl, hle⟩ := RecoveryInv.sends h (fastStep_tx g.ctx sid ev) hr hn
  generalize hs : (sockOf g.ctx sid).tx = s at hle
  unfold RecoveryLog.Inv at h
  rw [hs] at h
  have hr' : s.recovery = true := by
    rw [← hs]
    exact hr
  have hend : (sockOf g.ctx sid).recoveryEndSeq = s.recoveryEnd := congrArg TxView.recoveryEnd hs
  have hseq : (sockOf g.ctx sid).txSeq = s.seq := congrArg TxView.seq hs
  obtain ⟨-, hhalf, -⟩ := h.span hr'
  refine ⟨?_, ?_⟩
  · intro k hk
    have hk' : (s.pending + UInt32.ofNat k).toNat < s.left := by
      rw [UInt32.toNat_add, UInt32.toNat_ofNat']
      omega
    unfold serial
    rw [hend, UInt32.add_assoc]
    exact h.ahead hr' hk'
  · intro hf
    have hplace := h.place hr' hf
    rw [hseq, UInt32.add_comm s.seq, UInt32.add_sub_cancel]
    omega

theorem RecoveryLog.Inv.endsAtFlightEnd (h : g.Inv sid iss) (ev : FastEv) :
    EndsAtFlightEnd sid g ev := by
  intro hr
  have hev := fastStep_tx g.ctx sid ev
  have hends := RecoveryInv.ends h hev hr
  refine ⟨hends, ?_⟩
  intro hf
  have hmoved := RecoveryInv.moved_le h rfl hev hf
  have hplace := h.place hr hf
  have hpassed := RecoveryInv.passed_iff h hr hmoved hf
  rw [UInt32.add_comm, UInt32.sub_add_cancel] at hpassed
  refine hends.trans (hpassed.trans ?_)
  show _ ≤ ((sockOf (fastStep g.ctx ev).1 sid).tx.seq - (sockOf g.ctx sid).tx.seq).toNat ↔
    g.flightEnd ≤ g.acked +
      ((sockOf (fastStep g.ctx ev).1 sid).tx.seq - (sockOf g.ctx sid).tx.seq).toNat
  omega

end runs

/-- **Recovery bounds the flight**, along every run of the fast path. -/
theorem recovery_bounds_flight {sid : Nat} {g₀ g : RecoveryLog} {log : List Unit}
    (h₀ : RecoveryStart sid g₀)
    (hr : Run (fun _ _ => True) (recoveryStep sid) g₀ log g) :
    RecoveryBound sid (sockOf g₀.ctx sid).txSeq g ∧
      ∀ ev, SendsBefore sid g ev ∧ EndsAtFlightEnd sid g ev := by
  have hinv : g.Inv sid (sockOf g₀.ctx sid).txSeq :=
    Run.inv (I := fun _ g => g.Inv sid (sockOf g₀.ctx sid).txSeq) h₀.inv
      (fun _ _ ev h _ => h.step ev) hr
  exact ⟨hinv.bound, fun ev => ⟨hinv.sendsBefore ev, hinv.endsAtFlightEnd ev⟩⟩

/-- A connection whose sequence numbers are about to wrap. -/
def freshRecovery : RecoveryLog :=
  { ctx := oneSockCtx
      { TcpSock.zero with
        state := .established, txSeq := 0xfffffffc, txLen := 4096, txRemoteAvail := 1000 } 4
    acked := 0, flightEnd := 0, fits := true }

/-- Ten bytes are sent and sent again on a command, and ten more announced. -/
def retransmitRun : List FastEv :=
  [announceTen, .sched (idleIn (fun _ => 0)),
    .deq (idleIn (fun _ => 0)) (.txRetransmit 0 0xfffffffc 10) 0, announceTen,
    .sched (idleIn (fun _ => 0))]

/-- The second send stops at number 6, where the first flight ended. -/
theorem recovery_bounds_flight_wrapped :
    let g := (execAll (recoveryStep 0) retransmitRun freshRecovery).2
    ((sockOf g.ctx 0).recoveryActive = true ∧ (sockOf g.ctx 0).recoveryEndSeq = 6 ∧
      (sockOf g.ctx 0).txPending = 10 ∧ (sockOf g.ctx 0).txAvail = 10) ∧
    RecoveryBound 0 0xfffffffc g := by
  refine ⟨by decide +kernel, ?_⟩
  have hr : Run (fun _ _ => True) (recoveryStep 0) freshRecovery _ _ :=
    Run.execAll retransmitRun Run.nil
  have h₀ : RecoveryStart 0 freshRecovery :=
    ⟨rfl, rfl, by decide, by decide, by decide, fun _ => by decide, rfl⟩
  exact (recovery_bounds_flight h₀ hr).1

end Chamelio.Tcp
