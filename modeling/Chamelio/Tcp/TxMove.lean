import Chamelio.Tcp.ConnSpec
import Chamelio.Tcp.Rings

/-!
# The transmit counters on the fast path

Every fast-path event moves the transmit side of the connection's socket in
one way: `k` bytes are acknowledged, which advances the sequence number and
the head together and is announced to the application as `k` bytes; `n`
bytes arrive from the application; and the rest only moves between
available and pending.
-/

namespace Chamelio.Tcp

open Chamelio.Lib Chamelio.Util Chamelio.Pkt Chamelio.Fast

/-- The transmit counters fit the ring. -/
structure TxRoom (s : TcpSock) : Prop where
  head : s.txHead.toNat < s.txLen.toNat
  fit : s.txPending.toNat + s.txAvail.toNat ≤ s.txLen.toNat
  len : s.txLen.toNat ≤ 2147483648

/-- The receive counters fit the ring. -/
structure RxRoom (s : TcpSock) : Prop where
  avail : s.rxAvail.toNat ≤ s.rxLen.toNat
  noWrap : s.rxHead.toNat + s.rxLen.toNat < 4294967296
  head : 0 < s.rxLen.toNat → s.rxHead.toNat < s.rxLen.toNat

/-- `k` bytes acknowledged, `n` bytes added. -/
structure TxMove (s s' : TcpSock) (k n : Nat) : Prop where
  seq : s'.txSeq = serial s.txSeq k
  head : s'.txHead.toNat = (s.txHead.toNat + k) % s.txLen.toNat
  bytes : s'.txPending.toNat + s'.txAvail.toNat + k = s.txPending.toNat + s.txAvail.toNat + n
  len : s'.txLen = s.txLen

/-- The transmit fields are the same, up to bytes moved between available
and pending. -/
theorem txMove_zero {s s' : TcpSock} (h : TxRoom s) (hseq : s'.txSeq = s.txSeq)
    (hhead : s'.txHead = s.txHead)
    (hbytes : s'.txPending.toNat + s'.txAvail.toNat = s.txPending.toNat + s.txAvail.toNat)
    (hlen : s'.txLen = s.txLen) : TxMove s s' 0 0 := by
  refine ⟨?_, ?_, by omega, hlen⟩
  · rw [hseq, serial_zero]
  · rw [hhead, Nat.add_zero, Nat.mod_eq_of_lt h.head]

theorem TxMove.trans {a b c : TcpSock} {k n k' n' : Nat} (h₁ : TxMove a b k n)
    (h₂ : TxMove b c k' n') : TxMove a c (k + k') (n + n') := by
  refine ⟨?_, ?_, ?_, h₂.len.trans h₁.len⟩
  · apply UInt32.toNat_inj.mp
    rw [h₂.seq, h₁.seq, serial_toNat, serial_toNat, serial_toNat]
    omega
  · rw [h₂.head, h₁.head, h₁.len, Nat.mod_add_mod]
    congr 1
    omega
  · have := h₁.bytes
    have := h₂.bytes
    omega

theorem TxMove.room {s s' : TcpSock} {k n : Nat} (h : TxMove s s' k n) (hr : TxRoom s)
    (hfit : s.txPending.toNat + s.txAvail.toNat + n ≤ s.txLen.toNat + k) : TxRoom s' := by
  have := h.bytes
  have := hr.head
  refine ⟨?_, ?_, ?_⟩
  · rw [h.head, h.len]
    exact Nat.mod_lt _ (by omega)
  · rw [h.len]
    omega
  · rw [h.len]
    exact hr.len

/-! ## The edits of a socket -/

/-- The upper end of the send window, as a number. -/
theorem maxAck_toNat (seqno pending avail : UInt32) :
    (seqno + pending + avail).toNat =
      (seqno.toNat + pending.toNat + avail.toNat) % 4294967296 := by
  rw [UInt32.toNat_add, UInt32.toNat_add]
  omega

/-- An acknowledgement number is valid exactly when its distance from the
oldest unacknowledged byte is at most what was handed to the socket. -/
theorem rxIsAckValid_iff {seqno pending avail : UInt32} (ackno : UInt32)
    (h : pending.toNat + avail.toNat < 4294967296) :
    rxIsAckValid seqno pending avail ackno = true ↔
      (ackno - seqno).toNat ≤ pending.toNat + avail.toNat := by
  have hmax := maxAck_toNat seqno pending avail
  have hseq := seqno.toNat_lt
  have hack := ackno.toNat_lt
  unfold rxIsAckValid
  dsimp only
  rw [toNat_sub_eq]
  by_cases hle : seqno ≤ seqno + pending + avail
  · -- the window does not wrap, so a valid number is not before its start
    have hle' := UInt32.le_iff_toNat_le.mp hle
    rw [if_pos hle]
    simp only [Bool.not_eq_true', Bool.or_eq_false_iff, decide_eq_false_iff_not,
      UInt32.lt_iff_toNat_lt, gt_iff_lt]
    rw [hmax] at hle' ⊢
    split <;> omega
  · -- the window wraps: what is invalid lies between its end and its start
    have hgt := UInt32.lt_iff_toNat_lt.mp (UInt32.not_le.mp hle)
    rw [if_neg hle]
    simp only [Bool.not_eq_true', Bool.and_eq_false_iff, decide_eq_false_iff_not,
      UInt32.lt_iff_toNat_lt, gt_iff_lt]
    rw [hmax] at hgt ⊢
    split <;> omega

/-- An acknowledgement number that is accepted acknowledges at most what was
made available and not yet acknowledged. -/
theorem rxGetAckBump_le (p : Nat → UInt8) {s : TcpSock}
    (h : s.txPending.toNat + s.txAvail.toNat < 4294967296) :
    (rxGetAckBump p s).toNat ≤ s.txPending.toNat + s.txAvail.toNat := by
  unfold rxGetAckBump
  dsimp only
  split
  · next hv => exact (rxIsAckValid_iff (tcpAckno p) h).mp hv
  · exact Nat.zero_le _

/-- The fields an acknowledgement leaves. -/
theorem ackedSock_fields {p : Nat → UInt8} (hack : rxIsAck p = true) (s : TcpSock) {k : UInt32}
    (hk : rxGetAckBump p s = k) :
    (ackedSock p s).txSeq = s.txSeq + k ∧ (ackedSock p s).txHead = (s.txHead + k) % s.txLen ∧
    (ackedSock p s).txPending = (if k ≤ s.txPending then s.txPending - k else 0) ∧
    (ackedSock p s).txAvail = if k ≤ s.txPending then s.txAvail else s.txAvail -
      (if (if k > s.txPending then k - s.txPending else 0) > s.txAvail then s.txAvail
        else if k > s.txPending then k - s.txPending else 0) := by
  have hk' : rxGetAckBump p { s with txRemoteAvail := (tcpWnd p).toUInt32 } = k := hk
  unfold ackedSock
  dsimp only
  rw [if_pos hack, hk']
  unfold rxSockBumpAck tcpSockRecoveryAck tcpSockRecoveryReset
  dsimp only
  split
  · split <;> exact ⟨rfl, rfl, rfl, rfl⟩
  · exact ⟨rfl, rfl, rfl, rfl⟩

theorem ackedSock_move {p : Nat → UInt8} (hack : rxIsAck p = true) {s : TcpSock}
    (h : TxRoom s) : TxMove s (ackedSock p s) (rxGetAckBump p s).toNat 0 := by
  have hfit := h.fit
  have hlen := h.len
  have hhead := h.head
  have hle := rxGetAckBump_le p (show s.txPending.toNat + s.txAvail.toNat < 4294967296 by omega)
  generalize hk : rxGetAckBump p s = k at hle ⊢
  obtain ⟨hseq, hh, hpend, havail⟩ := ackedSock_fields hack s hk
  have hid : (ackedSock p s).txLen = s.txLen :=
    (congrArg TcpSock.txLen (ackedSock_ident p s) :)
  refine ⟨?_, ?_, ?_, hid⟩
  · rw [hseq, ← Nat.zero_add k.toNat, ← serial_add, serial_zero]
  · rw [hh, UInt32.toNat_mod, toNat_add_of_lt (by omega)]
  · rw [hpend, havail]
    by_cases hc : k ≤ s.txPending
    · have hc' := UInt32.le_iff_toNat_le.mp hc
      rw [if_pos hc, if_pos hc, toNat_sub_of_le hc']
      omega
    · have hc' := UInt32.lt_iff_toNat_lt.mp (UInt32.not_le.mp hc)
      have hextra := toNat_sub_of_le (Nat.le_of_lt hc')
      rw [if_neg hc, if_neg hc, if_pos (UInt32.not_le.mp hc)]
      have hclamp := toNat_clamp (k - s.txPending) s.txAvail
      rw [toNat_sub_of_le (by omega), hclamp, UInt32.toNat_zero]
      omega

theorem rewoundSock_move {s : TcpSock} (h : TxRoom s) : TxMove s (rewoundSock s) 0 0 := by
  have hfit := h.fit
  have hlen := h.len
  have hadd : (s.txAvail + s.txPending).toNat = s.txAvail.toNat + s.txPending.toNat :=
    toNat_add_of_lt (by omega)
  have hfields : (rewoundSock s).txSeq = s.txSeq ∧ (rewoundSock s).txHead = s.txHead ∧
      (rewoundSock s).txPending = 0 ∧ (rewoundSock s).txAvail = s.txAvail + s.txPending ∧
      (rewoundSock s).txLen = s.txLen := by
    unfold rewoundSock tcpSockRecoveryEnter
    dsimp only
    split <;> exact ⟨rfl, rfl, rfl, rfl, rfl⟩
  obtain ⟨hseq, hhead, hpend, havail, htx⟩ := hfields
  refine txMove_zero h hseq hhead ?_ htx
  rw [hpend, havail, hadd, UInt32.toNat_zero]
  omega

theorem deqSockBumpTx_move {s : TcpSock} (h : TxRoom s) (p : UInt16) (i a : UInt32)
    (hfit : s.txPending.toNat + s.txAvail.toNat + a.toNat ≤ s.txLen.toNat) :
    TxMove s (deqSockBumpTx s p i a) 0 a.toNat := by
  have hlen := h.len
  have hadd : (s.txAvail + a).toNat = s.txAvail.toNat + a.toNat := toNat_add_of_lt (by omega)
  refine ⟨?_, ?_, ?_, rfl⟩
  · show s.txSeq = _
    rw [serial_zero]
  · show s.txHead.toNat = _
    rw [Nat.add_zero, Nat.mod_eq_of_lt h.head]
  · show s.txPending.toNat + (s.txAvail + a).toNat + 0 = _
    rw [hadd]
    omega

theorem txSockTxBump_move {s : TcpSock} (h : TxRoom s) {b : UInt32}
    (hb : b.toNat ≤ s.txAvail.toNat) : TxMove s (txSockTxBump s b) 0 0 := by
  have hfit := h.fit
  have hlen := h.len
  have hsub := toNat_sub_of_le hb
  have hadd : (s.txPending + b).toNat = s.txPending.toNat + b.toNat := toNat_add_of_lt (by omega)
  refine txMove_zero h rfl rfl ?_ rfl
  show (s.txPending + b).toNat + (s.txAvail - b).toNat = _
  rw [hadd, hsub]
  omega

theorem txMove_bare {s s' : TcpSock} (h : TxRoom s) (hb : s'.bare = s.bare) : TxMove s s' 0 0 := by
  have hp : s'.txPending = s.txPending := (congrArg TcpSock.txPending hb :)
  have ha : s'.txAvail = s.txAvail := (congrArg TcpSock.txAvail hb :)
  refine txMove_zero h (congrArg TcpSock.txSeq hb :) (congrArg TcpSock.txHead hb :) ?_
    (congrArg TcpSock.txLen hb :)
  rw [hp, ha]

/-! ## The events -/

/-- Entries of the connection on the application's queue. -/
def AppMine (g : ConnId) (e : TcpQe) : Prop :=
  (∃ k, e = .bumpAppTx g.opaquePtr k) ∨ ∃ p i a, e = .bumpAppRx g.opaquePtr p i a

/-- A context in which the counters of the connection fit its rings. -/
structure TxReady (g : ConnId) (ctx : TcpCtx) : Prop where
  owns : FastOwns g ctx
  tx : TxRoom (sockOf ctx g.sid)
  rx : RxRoom (sockOf ctx g.sid)

/-- One fast-path event, seen from the transmit side. -/
structure FastTx (g : ConnId) (ctx ctx' : TcpCtx) (k n : Nat) : Prop where
  owns : FastOwns g ctx'
  move : TxMove (sockOf ctx g.sid) (sockOf ctx' g.sid) k n
  rx : RxRoom (sockOf ctx' g.sid)
  app : (ctx'.equeues g.appBumpQid.toNat).sum appTxAmount =
    (ctx.equeues g.appBumpQid.toNat).sum appTxAmount + k
  mine : ∀ e ∈ (ctx'.equeues g.appBumpQid.toNat).items,
    e ∈ (ctx.equeues g.appBumpQid.toNat).items ∨ AppMine g e
  ring : ∀ a, g.txOff.toNat ≤ a → a < g.txOff.toNat + g.txLen.toNat → ctx'.shm a = ctx.shm a

theorem FastTx.trans {g : ConnId} {a b c : TcpCtx} {k n k' n' : Nat} (h₁ : FastTx g a b k n)
    (h₂ : FastTx g b c k' n') : FastTx g a c (k + k') (n + n') := by
  refine ⟨h₂.owns, h₁.move.trans h₂.move, h₂.rx, ?_, ?_, ?_⟩
  · rw [h₂.app, h₁.app, Nat.add_assoc]
  · intro e he
    rcases h₂.mine e he with he | he
    · exact h₁.mine e he
    · exact Or.inr he
  · intro x hlo hhi
    rw [h₂.ring x hlo hhi, h₁.ring x hlo hhi]

/-- The receive counters of the same socket. -/
theorem RxRoom.congr {s s' : TcpSock} (h : RxRoom s) (ha : s'.rxAvail = s.rxAvail)
    (hh : s'.rxHead = s.rxHead) (hl : s'.rxLen = s.rxLen) : RxRoom s' := by
  refine ⟨?_, ?_, ?_⟩
  · rw [ha, hl]
    exact h.avail
  · rw [hh, hl]
    exact h.noWrap
  · rw [hh, hl]
    exact h.head

theorem rxRoom_bare {s s' : TcpSock} (h : RxRoom s) (hb : s'.bare = s.bare) : RxRoom s' :=
  h.congr (congrArg TcpSock.rxAvail hb :) (congrArg TcpSock.rxHead hb :)
    (congrArg TcpSock.rxLen hb :)

/-- Calm steps move nothing. -/
theorem Calm.fastTx {g : ConnId} {a b : TcpCtx} (hc : Calm g a b) (h : TxReady g a) :
    FastTx g a b 0 0 := by
  refine ⟨h.owns.calm hc, txMove_bare h.tx (hc.socks g.sid), rxRoom_bare h.rx (hc.socks g.sid),
    ?_, ?_, ?_⟩
  · rw [hc.queue, Nat.add_zero]
  · rw [hc.queue]
    exact fun e he => Or.inl he
  · intro x _ _
    rw [hc.shm]

theorem FastTx.ready {g : ConnId} {a b : TcpCtx} {k n : Nat} (h : FastTx g a b k n)
    (ha : TxReady g a) (hfit : (sockOf a g.sid).txPending.toNat +
      (sockOf a g.sid).txAvail.toNat + n ≤ g.txLen.toNat + k) : TxReady g b := by
  refine ⟨h.owns, h.move.room ha.tx ?_, h.rx⟩
  rw [ha.owns.txLen]
  exact hfit

/-- An event without new bytes keeps the counters in the ring. -/
theorem FastTx.ready_of_none {g : ConnId} {a b : TcpCtx} {k : Nat} (h : FastTx g a b k 0)
    (ha : TxReady g a) : TxReady g b := by
  refine h.ready ha ?_
  have := ha.tx.fit
  rw [ha.owns.txLen] at this
  omega

/-- Editing the connection's socket. -/
theorem fastTx_setSock {g : ConnId} {ctx : TcpCtx} {s : TcpSock} {k n : Nat} (h : TxReady g ctx)
    (hid : s.ident = (sockOf ctx g.sid).ident) (hm : TxMove (sockOf ctx g.sid) s k n)
    (hrx : RxRoom s) (hk : k = 0) : FastTx g ctx (setSock ctx g.sid s) k n := by
  refine ⟨h.owns.set hid, ?_, ?_, ?_, fun e he => Or.inl he, fun _ _ _ => rfl⟩
  · rw [sockOf_setSock]
    exact hm
  · rw [sockOf_setSock]
    exact hrx
  · rw [setSock_equeues, hk, Nat.add_zero]

/-- Editing another socket. -/
theorem fastTx_setSock_ne {g : ConnId} {ctx : TcpCtx} {j : Nat} {s : TcpSock}
    (h : TxReady g ctx) (hid : s.ident = (sockOf ctx j).ident) (hj : g.sid ≠ j) :
    FastTx g ctx (setSock ctx j s) 0 0 := by
  refine ⟨h.owns.set hid, ?_, ?_, by rw [setSock_equeues, Nat.add_zero],
    fun e he => Or.inl he, fun _ _ _ => rfl⟩
  · rw [sockOf_setSock_ne _ _ hj]
    exact txMove_bare h.tx rfl
  · rw [sockOf_setSock_ne _ _ hj]
    exact h.rx

theorem ackedSock_rx (p : Nat → UInt8) (s : TcpSock) :
    (ackedSock p s).rxSeq = s.rxSeq ∧ (ackedSock p s).rxAvail = s.rxAvail ∧
    (ackedSock p s).rxHead = s.rxHead := by
  unfold ackedSock rxSockBumpAck tcpSockRecoveryAck
  dsimp only
  split
  · split
    · split <;> exact ⟨rfl, rfl, rfl⟩
    · exact ⟨rfl, rfl, rfl⟩
  · exact ⟨rfl, rfl, rfl⟩

theorem rewoundSock_rx (s : TcpSock) :
    (rewoundSock s).rxSeq = s.rxSeq ∧ (rewoundSock s).rxAvail = s.rxAvail ∧
    (rewoundSock s).rxHead = s.rxHead := by
  unfold rewoundSock tcpSockRecoveryEnter
  dsimp only
  split <;> exact ⟨rfl, rfl, rfl⟩

/-- What the acknowledgement stage adds to the queue is what it moved. -/
theorem ackQueue_sum {g : ConnId} {ctx : TcpCtx} {q : Fifo TcpQe} (h : FastOwns g ctx)
    (hq : AckQueue ctx g.sid q) :
    q.sum appTxAmount = (ctx.equeues g.appBumpQid.toNat).sum appTxAmount +
      (rxGetAckBump ctx.pkt (sockOf ctx g.sid)).toNat ∧
    ∀ e ∈ q.items, e ∈ (ctx.equeues g.appBumpQid.toNat).items ∨ AppMine g e := by
  have hqueue := h.appQueue
  rcases hq with ⟨heq, rfl⟩ | ⟨-, hpush⟩
  · rw [rxGetAckBump_of_eq heq, hqueue]
    exact ⟨rfl, fun e he => Or.inl he⟩
  · rw [hqueue] at hpush
    refine ⟨Fifo.push_sum appTxAmount hpush, fun e he => ?_⟩
    rcases (Fifo.mem_push hpush).mp he with he | rfl
    · exact Or.inl he
    · exact Or.inr (Or.inl ⟨_, by rw [h.opq]⟩)

theorem ident_rxLen {s s' : TcpSock} (h : s'.ident = s.ident) : s'.rxLen = s.rxLen :=
  (congrArg TcpSock.rxLen h :)

/-- The acknowledgement stage: what the socket releases is announced. -/
theorem fastTx_ack {g : ConnId} {ctx : TcpCtx} {s₁ : TcpSock} {q : Fifo TcpQe}
    (h : TxReady g ctx) (hack : rxIsAck ctx.pkt = true)
    (hs : s₁ = ackedSock ctx.pkt (sockOf ctx g.sid) ∨
      (rxIsAck ctx.pkt = true ∧ s₁ = rewoundSock (ackedSock ctx.pkt (sockOf ctx g.sid))))
    (hq : AckQueue ctx g.sid q) :
    FastTx g ctx (withSockQueue ctx g.sid s₁ q)
      (rxGetAckBump ctx.pkt (sockOf ctx g.sid)).toNat 0 := by
  have hacked := ackedSock_move hack h.tx
  have hle := @rxGetAckBump_le ctx.pkt (sockOf ctx g.sid)
    (by have := h.tx.fit; have := h.tx.len; omega)
  have hroom : TxRoom (ackedSock ctx.pkt (sockOf ctx g.sid)) :=
    hacked.room h.tx (by have := h.tx.fit; omega)
  have hid := ackedSock_ident ctx.pkt (sockOf ctx g.sid)
  have hrx := ackedSock_rx ctx.pkt (sockOf ctx g.sid)
  -- the rewound socket moves no further byte
  have hmove : TxMove (sockOf ctx g.sid) s₁ (rxGetAckBump ctx.pkt (sockOf ctx g.sid)).toNat 0 ∧
      s₁.ident = (sockOf ctx g.sid).ident ∧ RxRoom s₁ := by
    rcases hs with rfl | ⟨-, rfl⟩
    · exact ⟨hacked, hid, h.rx.congr hrx.2.1 hrx.2.2 (ident_rxLen hid)⟩
    · have hrew := rewoundSock_rx (ackedSock ctx.pkt (sockOf ctx g.sid))
      have hid' := (rewoundSock_ident (ackedSock ctx.pkt (sockOf ctx g.sid))).trans hid
      refine ⟨hacked.trans (rewoundSock_move hroom), hid', ?_⟩
      exact h.rx.congr (hrew.2.1.trans hrx.2.1) (hrew.2.2.trans hrx.2.2) (ident_rxLen hid')
  obtain ⟨hm, hident, hr⟩ := hmove
  obtain ⟨hsum, hmine⟩ := ackQueue_sum h.owns hq
  have hqueue : (withSockQueue ctx g.sid s₁ q).equeues g.appBumpQid.toNat = q := by
    unfold withSockQueue
    rw [h.owns.qid]
    exact EbpfCtx.setQueue_self _ _ _
  refine ⟨(h.owns.set hident).setQueue _ q, ?_, ?_, ?_, ?_, fun _ _ _ => rfl⟩
  · rw [sockOf_withSockQueue]
    exact hm
  · rw [sockOf_withSockQueue]
    exact hr
  · rw [hqueue, hsum]
  · rw [hqueue]
    exact hmine

/-- The room a payload is cut to. -/
theorem rxGetRxBump_le {s : TcpSock} (h : RxRoom s) (paylen : UInt32) :
    s.rxAvail.toNat + (rxGetRxBump s paylen).toNat ≤ s.rxLen.toNat ∧
    (rxGetRxBump s paylen).toNat ≤ paylen.toNat := by
  have hsub := toNat_sub_of_le h.avail
  have := h.avail
  unfold rxGetRxBump
  dsimp only
  split
  · next hlt =>
    have := UInt32.lt_iff_toNat_lt.mp hlt
    omega
  · next hge =>
    have := UInt32.le_iff_toNat_le.mp (UInt32.not_lt.mp hge)
    omega

/-- A stored payload stays in the receive ring. -/
theorem fastTx_delivered {g : ConnId} {ctx : TcpCtx} (src : Nat) {b paylen : UInt32}
    {p : UInt16} {i : UInt32} {q : Fifo TcpQe} (h : TxReady g ctx) (hpos : 0 < b)
    (hb : rxGetRxBump (sockOf ctx g.sid) paylen = b)
    (hpush : (appQueue ctx g.sid).push
      (.bumpAppRx (sockOf ctx g.sid).opaquePtr p i b) = some q) :
    FastTx g ctx (delivered ctx g.sid src b q) 0 0 := by
  obtain ⟨hfit, -⟩ := rxGetRxBump_le h.rx paylen
  rw [hb] at hfit
  have hpos' : 0 < b.toNat := UInt32.lt_iff_toNat_lt.mp hpos
  have hlen := h.owns.rxLen
  have hoff := h.owns.rxOff
  have hhead := h.rx.head (by omega)
  rw [h.owns.appQueue, h.owns.opq] at hpush
  have hqueue : (delivered ctx g.sid src b q).equeues g.appBumpQid.toNat = q := by
    unfold delivered
    rw [h.owns.qid]
    exact EbpfCtx.setQueue_self _ _ _
  have hshm : (delivered ctx g.sid src b q).shm =
      (rxCopyPayload ctx (sockOf ctx g.sid) src b).shm := rfl
  have hsock : sockOf (delivered ctx g.sid src b q) g.sid = rxSockBumpRx (sockOf ctx g.sid) b :=
    sockOf_delivered ctx g.sid src b q
  have hadd : ((sockOf ctx g.sid).rxAvail + b).toNat =
      (sockOf ctx g.sid).rxAvail.toNat + b.toNat :=
    toNat_add_of_lt (by have := h.rx.noWrap; omega)
  refine ⟨h.owns.delivered src b q, ?_, ?_, ?_, ?_, ?_⟩
  · rw [hsock]
    exact txMove_zero h.tx rfl rfl rfl rfl
  · rw [hsock]
    refine ⟨?_, h.rx.noWrap, h.rx.head⟩
    show ((sockOf ctx g.sid).rxAvail + b).toNat ≤ _
    rw [hadd]
    exact hfit
  · rw [hqueue, Fifo.push_sum appTxAmount hpush]
    rfl
  · rw [hqueue]
    intro e he
    rcases (Fifo.mem_push hpush).mp he with he | rfl
    · exact Or.inl he
    · exact Or.inr (Or.inr ⟨_, _, _, rfl⟩)
  · intro a hlo hhi
    rw [hshm, rxCopyPayload_shm src hhead hfit h.rx.noWrap]
    apply ringWrite_frame (Nat.le_of_lt (Nat.mod_lt _ (by omega))) (by omega)
    rw [hlen, hoff]
    have := g.apart
    omega

/-- **A received segment that carries the ACK flag.** -/
theorem tcpEventRx_fastTx {g : ConnId} {ctx : TcpCtx} (h : TxReady g ctx)
    (hack : rxIsAck ctx.pkt = true) (hno : (tcpEventRx ctx).2 ≠ .error .appBump) :
    ∃ k, FastTx g ctx (tcpEventRx ctx).1 k 0 := by
  rcases tcpEventRx_conn h.owns hno with hc | ⟨ctx₀, hc₀, hp₀, -, htrace⟩
  · exact ⟨0, hc.fastTx h⟩
  · have h₀ := hc₀.fastTx h
    have hr₀ := h₀.ready_of_none h
    obtain ⟨s₁, q, ctx₁, hs₁, hq, hc₁, -, hpay⟩ := htrace
    have h₁ := fastTx_ack hr₀ (by rw [hp₀]; exact hack) hs₁ hq
    have hr₁ := h₁.ready_of_none hr₀
    have h₁' := h₁.trans (hc₁.fastTx hr₁)
    have hr₁' := h₁'.ready_of_none hr₀
    cases hpay with
    | nothing hc _ => exact ⟨_, (h₀.trans h₁').trans (hc.fastTx hr₁')⟩
    | stored hpos hb _ hpush hc =>
      have h₂ := fastTx_delivered ((rxGetHdrlen ctx₀.pkt).toNat +
        (rxGetPayloadOverlap ctx₀.pkt (sockOf ctx₀ g.sid)).toNat) hr₁' hpos hb hpush
      exact ⟨_, (h₀.trans h₁').trans (h₂.trans (hc.fastTx (h₂.ready_of_none hr₁')))⟩

end Chamelio.Tcp
