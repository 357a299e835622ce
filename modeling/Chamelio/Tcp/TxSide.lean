import Chamelio.Tcp.Wakeup
import Chamelio.Tcp.RxSpec
import Chamelio.Tcp.TxStream
import Chamelio.Tcp.Emit

/-!
# The transmit side of one socket

`TxView` is what of a socket decides what it may send: the counters of its
transmit ring, the remote window and the recovery. Six things can happen to
it in an event of the fast path, and `TxEvent` lists them: an ACK or a bare
window update of a segment for the socket, the rewind of the fourth
duplicate ACK or of a retransmit command, bytes from the application, and a
segment of its own.

Mirroring notes:
- `sentNow` is read off the packet `tcp_event_sched` leaves: its sequence
  number, and what its length says behind the 52 bytes of headers.
-/

namespace Chamelio.Tcp

open Chamelio.Lib Chamelio.Util Chamelio.Pkt Chamelio.Fast

/-- The fields of the transmit side. -/
structure TxView where
  len : UInt32
  avail : UInt32
  head : UInt32
  seq : UInt32
  pending : UInt32
  remote : UInt32
  recovery : Bool
  recoveryEnd : UInt32
  deriving DecidableEq

def TcpSock.tx (s : TcpSock) : TxView :=
  { len := s.txLen, avail := s.txAvail, head := s.txHead, seq := s.txSeq, pending := s.txPending
    remote := s.txRemoteAvail, recovery := s.recoveryActive, recoveryEnd := s.recoveryEndSeq }

namespace TxView

/-- `k` bytes are acknowledged. -/
def acked (s : TxView) (k : UInt32) : TxView :=
  let extra := if k > s.pending then k - s.pending else 0
  let extra := if extra > s.avail then s.avail else extra
  let done := decide (k > 0) && (s.recovery && decide (s32 (s.seq + k - s.recoveryEnd) ≥ 0))
  { s with
    seq := s.seq + k
    pending := if k ≤ s.pending then s.pending - k else 0
    avail := if k ≤ s.pending then s.avail else s.avail - extra
    head := (s.head + k) % s.len
    recovery := if done then false else s.recovery
    recoveryEnd := if done then 0 else s.recoveryEnd }

/-- What is in flight is to be sent again. -/
def rewound (s : TxView) : TxView :=
  { s with
    avail := s.avail + s.pending
    pending := 0
    recovery := true
    recoveryEnd := if s.recovery then s.recoveryEnd else s.seq + s.pending }

/-- `b` bytes are sent. -/
def sent (s : TxView) (b : UInt32) : TxView :=
  { s with avail := s.avail - b, pending := s.pending + b }

/-- Bytes recovery allows to be sent. -/
def recoveryAvail (s : TxView) : UInt32 :=
  if !s.recovery then 0xffffffff
  else if s32 (s.recoveryEnd - (s.seq + s.pending)) ≤ 0 then 0
  else s.recoveryEnd - (s.seq + s.pending)

end TxView

section views

theorem tx_of_bare {s s' : TcpSock} (h : s'.bare = s.bare) : s'.tx = s.tx := by
  have hb : ∀ s : TcpSock, s.tx = s.bare.tx := fun _ => rfl
  rw [hb s', hb s, h]

theorem Quiet.tx {a b : TcpCtx} (h : Quiet a b) (i : Nat) : (sockOf b i).tx = (sockOf a i).tx :=
  tx_of_bare (h.socks i)

theorem rewoundSock_tx (s : TcpSock) : (rewoundSock s).tx = s.tx.rewound := by
  unfold rewoundSock tcpSockRecoveryEnter TxView.rewound TcpSock.tx
  dsimp only
  split
  · next hr => rw [hr]
  · rfl

theorem txSockTxBump_tx (s : TcpSock) (b : UInt32) : (txSockTxBump s b).tx = s.tx.sent b := rfl

theorem recoveryAvail_tx (s : TcpSock) : tcpSockRecoveryAvail s = s.tx.recoveryAvail := rfl

/-- The window and the acknowledgement of a segment. -/
theorem ackedSock_tx (p : Nat → UInt8) (s : TcpSock) :
    (ackedSock p s).tx =
      if rxIsAck p then ({ s.tx with remote := (tcpWnd p).toUInt32 } : TxView).acked
        (rxGetAckBump p s)
      else { s.tx with remote := (tcpWnd p).toUInt32 } := by
  have hk : rxGetAckBump p { s with txRemoteAvail := (tcpWnd p).toUInt32 } = rxGetAckBump p s := rfl
  unfold ackedSock
  dsimp only
  rw [hk]
  generalize rxGetAckBump p s = k
  split
  · unfold rxSockBumpAck tcpSockRecoveryAck tcpSockRecoveryReset TxView.acked TcpSock.tx
    dsimp only
    by_cases hpos : k > 0
    · rw [if_pos hpos, decide_eq_true hpos, Bool.true_and]
      cases s.recoveryActive && decide (s32 (s.txSeq + k - s.recoveryEndSeq) ≥ 0) with
      | true => rfl
      | false => rfl
    · rw [if_neg hpos, decide_eq_false hpos, Bool.false_and]
      rfl
  · rfl

end views

/-! ## Receiving -/

section rx

variable {ctx : TcpCtx} {sid : Nat}

/-- Storing a payload is none of the transmit side's business. -/
theorem rxPayload_tx (ctx : TcpCtx) (sid : Nat) (v : RxLocals) (hdrlen : UInt32) (fr : Bool)
    (i : Nat) : (sockOf (rxPayload ctx sid v hdrlen fr).1 i).tx = (sockOf ctx i).tx := by
  have hcopy : ∀ src b, (sockOf (setSock (rxCopyPayload ctx (sockOf ctx sid) src b) sid
      (rxSockBumpRx (sockOf ctx sid) b)) i).tx = (sockOf ctx i).tx := by
    intro src b
    by_cases hi : i = sid
    · rw [hi, sockOf_setSock]
      rfl
    · rw [sockOf_setSock_ne _ _ hi]
      unfold sockOf
      rw [rxCopyPayload_maps]
  obtain ⟨b, hb⟩ : ∃ b, rxGetRxBump (sockOf ctx sid)
      ((rxGetPaylen ctx.pkt).toUInt32 - v.overlap) = b := ⟨_, rfl⟩
  rcases rxPayload_spec ctx sid v hdrlen fr hb with
    ⟨hq, -, -⟩ | ⟨-, -, -, ⟨q, -, hq, -⟩ | ⟨-, -, heq⟩⟩
  · exact hq.tx i
  · exact (hq.tx i).trans (hcopy _ _)
  · rw [heq]
    exact hcopy _ _

/-- The fourth duplicate ACK rewinds a socket with bytes in flight that is not
in recovery. -/
theorem rxDupAck_tx (ctx : TcpCtx) (sid : Nat) (v : RxLocals) :
    (sockOf (rxDupAck ctx sid v).1 sid).tx = (sockOf ctx sid).tx ∨
    (v.isAck = true ∧ v.ackBump = 0 ∧ (sockOf ctx sid).txPending ≠ 0 ∧
      (sockOf ctx sid).recoveryActive = false ∧
      (sockOf (rxDupAck ctx sid v).1 sid).tx = (sockOf ctx sid).tx.rewound) := by
  rcases rxDupAck_spec ctx sid v with ⟨hq, -⟩ | ⟨ctx₁, hq₁, -, hq, -⟩
  · exact .inl (hq.tx sid)
  · have htx : (sockOf (rxDupAck ctx sid v).1 sid).tx = (sockOf ctx sid).tx.rewound := by
      rw [hq.tx sid, (remit_spec ctx₁ sid).tx sid, sockOf_setSock, rewoundSock_tx, hq₁.tx sid]
    by_cases hcond : (v.isAck && v.isAckOnly && v.ackBump == 0 &&
        (sockOf ctx sid).txPending != 0 && !(sockOf ctx sid).recoveryActive) = true
    · simp only [Bool.and_eq_true, beq_iff_eq, bne_iff_ne, Bool.not_eq_true'] at hcond
      obtain ⟨⟨⟨⟨hack, -⟩, hbump⟩, hpend⟩, hrec⟩ := hcond
      exact .inr ⟨hack, hbump, hpend, hrec, htx⟩
    · -- no duplicate ACK: the stage does nothing
      left
      unfold rxDupAck
      dsimp only
      rw [if_neg hcond]

/-- Another socket than the one the segment is for. -/
theorem rxSegment_other (hdrlen : UInt32) {i : Nat} (hi : i ≠ sid) :
    (sockOf (rxSegment ctx sid hdrlen).1 i).tx = (sockOf ctx i).tx := by
  rcases rxSegment_spec ctx sid hdrlen with ⟨ctx₁, heq, -, hq⟩ | ⟨ctx₁, s₁, q, fr, -, -, -, hq, heq⟩
  · rw [heq]
    exact (hq.tx i).trans (by rw [sockOf_setSock_ne _ _ hi])
  · have h₁ : (sockOf ctx₁ i).tx = (sockOf ctx i).tx := by
      rw [hq.tx i]
      unfold withSockQueue
      rw [sockOf_setQueue, sockOf_setSock_ne _ _ hi]
    rw [heq]
    split
    · exact h₁
    · rw [rxPayload_tx]
      exact h₁

/-- What a segment does to the socket it is for. -/
theorem rxSegment_tx (hdrlen : UInt32) :
    (sockOf (rxSegment ctx sid hdrlen).1 sid).tx = (ackedSock ctx.pkt (sockOf ctx sid)).tx ∨
    (rxIsAck ctx.pkt = true ∧ rxGetAckBump ctx.pkt (sockOf ctx sid) = 0 ∧
      (ackedSock ctx.pkt (sockOf ctx sid)).txPending ≠ 0 ∧
      (ackedSock ctx.pkt (sockOf ctx sid)).recoveryActive = false ∧
      (sockOf (rxSegment ctx sid hdrlen).1 sid).tx =
        (ackedSock ctx.pkt (sockOf ctx sid)).tx.rewound) := by
  obtain ⟨hq, -, -, -, -, hbump⟩ := rxAckStage_spec ctx sid
  have hisack : (rxAckStage ctx sid).2.isAck = rxIsAck ctx.pkt := rfl
  have h₁ : (sockOf (rxAckStage ctx sid).1 sid).tx = (ackedSock ctx.pkt (sockOf ctx sid)).tx :=
    tx_of_bare hq.sock
  unfold rxSegment
  dsimp only
  generalize rxAckStage ctx sid = r at h₁ hbump hisack ⊢
  obtain ⟨ctx₁, v⟩ := r
  dsimp only at h₁ hbump hisack ⊢
  cases henq : rxAppTxBump ctx₁ sid v with
  | none => exact .inl h₁
  | some ctx₂ =>
    dsimp only
    have h₂ : (sockOf ctx₂ sid).tx = (ackedSock ctx.pkt (sockOf ctx sid)).tx := by
      rcases rxAppTxBump_spec henq with ⟨-, rfl⟩ | ⟨-, q, -, rfl⟩
      · exact h₁
      · exact h₁
    have h₄ := (quiet_rxSchedTx (rxDupAck ctx₂ sid v).1 sid v.availBefore v.availAfter).tx sid
    have hend : (sockOf (if v.isAckOnly then
        (rxSchedTx (rxDupAck ctx₂ sid v).1 sid v.availBefore v.availAfter, (.ok 0 : Ret))
        else rxPayload (rxSchedTx (rxDupAck ctx₂ sid v).1 sid v.availBefore v.availAfter) sid v
          hdrlen (rxDupAck ctx₂ sid v).2).1 sid).tx = (sockOf (rxDupAck ctx₂ sid v).1 sid).tx := by
      split
      · exact h₄
      · rw [rxPayload_tx]
        exact h₄
    rw [hend]
    rcases rxDupAck_tx ctx₂ sid v with h₃ | ⟨hack, hzero, hpend, hrec, h₃⟩
    · exact .inl (h₃.trans h₂)
    · refine .inr ⟨?_, ?_, ?_, ?_, ?_⟩
      · rw [← hisack]
        exact hack
      · rw [← hbump]
        exact hzero
      · rw [← show (sockOf ctx₂ sid).txPending = (ackedSock ctx.pkt (sockOf ctx sid)).txPending from
          congrArg TxView.pending h₂]
        exact hpend
      · rw [← show (sockOf ctx₂ sid).recoveryActive =
          (ackedSock ctx.pkt (sockOf ctx sid)).recoveryActive from congrArg TxView.recovery h₂]
        exact hrec
      · rw [h₃, h₂]

end rx

/-! ## Events -/

/-- The payload socket `sid` sends in an event: its sequence number and
length. -/
def sentNow (ctx : TcpCtx) (sid : Nat) : FastEv → Option (UInt32 × Nat)
  | .sched e =>
    if schedTarget (evCtx ctx e) = some sid then
      match tcpEventSched (evCtx ctx e) with
      | (ctx', .ok n) => if 52 < n then some (tcpSeqno ctx'.pkt, n - 52) else none
      | _ => none
    else none
  | _ => none

/-- What an event does to the transmit side of socket `sid`. -/
inductive TxEvent (ctx : TcpCtx) (sid : Nat) : FastEv → TxView → TxView → Prop
  | calm {ev : FastEv} {s : TxView} (h : sentNow ctx sid ev = none) : TxEvent ctx sid ev s s
  | window {e : EvIn} {s : TxView} (hplain : rxIsFlagsCtl e.pkt = false)
    (hfind : sockFind (evCtx ctx e) = some sid)
    (hack : rxIsAck e.pkt = false) :
    TxEvent ctx sid (.rx e) s { s with remote := (tcpWnd e.pkt).toUInt32 }
  | ack {e : EvIn} {s : TxView} (hplain : rxIsFlagsCtl e.pkt = false)
    (hfind : sockFind (evCtx ctx e) = some sid)
    (hack : rxIsAck e.pkt = true) :
    TxEvent ctx sid (.rx e) s
      (({ s with remote := (tcpWnd e.pkt).toUInt32 } : TxView).acked
        (rxGetAckBump e.pkt (sockOf ctx sid)))
  | dupAck {e : EvIn} {s : TxView} (hplain : rxIsFlagsCtl e.pkt = false)
    (hfind : sockFind (evCtx ctx e) = some sid)
    (hack : rxIsAck e.pkt = true) (hbump : rxGetAckBump e.pkt (sockOf ctx sid) = 0)
    (hpend : s.pending ≠ 0) (hrec : s.recovery = false) :
    TxEvent ctx sid (.rx e) s
      (({ s with remote := (tcpWnd e.pkt).toUInt32 } : TxView).acked 0).rewound
  | add {e : EvIn} {qeOff : Nat} {s : TxView} (sockId : UInt32) (txPort : UInt16) (txIp n : UInt32)
    (hid : sockId.toNat = sid) :
    TxEvent ctx sid (.deq e (.bumpChamTx sockId txPort txIp n) qeOff) s
      { s with avail := s.avail + n }
  | retransmit {e : EvIn} {qeOff : Nat} {s : TxView} (sockId txSeq txPending : UInt32)
    (hid : sockId.toNat = sid) (hpend : s.pending ≠ 0) :
    TxEvent ctx sid (.deq e (.txRetransmit sockId txSeq txPending) qeOff) s s.rewound
  | send {e : EvIn} {s : TxView} (b : UInt32) (hpos : 0 < b) (havail : b.toNat ≤ s.avail.toNat)
    (hfc : b.toNat ≤ s.remote.toNat - s.pending.toNat)
    (hrec : b.toNat ≤ s.recoveryAvail.toNat)
    (hsent : sentNow ctx sid (.sched e) = some (s.seq + s.pending, b.toNat)) :
    TxEvent ctx sid (.sched e) s (s.sent b)

section events

variable (ctx : TcpCtx) (sid : Nat)

/-- Writing the same view back. -/
theorem setSock_tx {ctx : TcpCtx} {j : Nat} {s : TcpSock} (h : s.tx = (sockOf ctx j).tx) (i : Nat) :
    (sockOf (setSock ctx j s) i).tx = (sockOf ctx i).tx := by
  by_cases hi : i = j
  · rw [hi, sockOf_setSock, h]
  · rw [sockOf_setSock_ne _ _ hi]

theorem calm_of_eq_tx {ev : FastEv} {s t : TxView} (hs : sentNow ctx sid ev = none) (h : t = s) :
    TxEvent ctx sid ev s t := by
  rw [h]
  exact .calm hs

theorem rxEstablished_tx (e : EvIn) {j : Nat} (hplain : rxIsFlagsCtl e.pkt = false)
    (hfind : sockFind (evCtx ctx e) = some j) :
    TxEvent ctx sid (.rx e) (sockOf ctx sid).tx
      (sockOf (rxEstablished (evCtx ctx e) j).1 sid).tx := by
  have hmark := quiet_rxMarkCe (evCtx ctx e) j
  have hpkt : (rxMarkCe (evCtx ctx e) j).pkt = e.pkt := rxMarkCe_pkt _ _
  unfold rxEstablished
  dsimp only
  split
  · exact calm_of_eq_tx ctx sid rfl ((hmark.trans (quiet_txFillAck _ j)).tx sid)
  · generalize rxMarkCe (evCtx ctx e) j = ctx₁ at hmark hpkt ⊢
    by_cases hj : sid = j
    · subst hj
      have hbare : (sockOf ctx₁ sid).bare = (sockOf ctx sid).bare := hmark.socks sid
      have htx : (sockOf ctx₁ sid).tx = (sockOf ctx sid).tx := tx_of_bare hbare
      have hk : rxGetAckBump ctx₁.pkt (sockOf ctx₁ sid) = rxGetAckBump e.pkt (sockOf ctx sid) := by
        rw [hpkt, rxGetAckBump_bare hbare]
      have hacked := ackedSock_tx ctx₁.pkt (sockOf ctx₁ sid)
      rw [hk, htx, hpkt] at hacked
      rcases @rxSegment_tx ctx₁ sid (rxGetHdrlen ctx₁.pkt) with h | ⟨hack, hzero, hpend, hrec, h⟩
      · rw [h, hpkt, hacked]
        cases hack : rxIsAck e.pkt with
        | true => exact .ack hplain hfind hack
        | false => exact .window hplain hfind hack
      · rw [hpkt] at hack hpend hrec
        rw [hk] at hzero
        rw [hack, if_pos rfl, hzero] at hacked
        have hp : (ackedSock e.pkt (sockOf ctx₁ sid)).txPending = (sockOf ctx sid).txPending := by
          have := congrArg TxView.pending hacked
          exact this.trans (UInt32.sub_zero _)
        have hr : (ackedSock e.pkt (sockOf ctx₁ sid)).recoveryActive =
            (sockOf ctx sid).recoveryActive := congrArg TxView.recovery hacked
        rw [h, hpkt, hacked]
        exact .dupAck hplain hfind hack hzero (fun hz => hpend (hp.trans hz)) (hr.symm.trans hrec)
    · refine calm_of_eq_tx ctx sid rfl ?_
      rw [rxSegment_other _ hj]
      exact hmark.tx sid

/-- **A received segment.** -/
theorem tcpEventRx_tx (e : EvIn) :
    TxEvent ctx sid (.rx e) (sockOf ctx sid).tx (sockOf (tcpEventRx (evCtx ctx e)).1 sid).tx := by
  have hpunt : (sockOf (rxPuntCtl (evCtx ctx e)).1 sid).tx = (sockOf ctx sid).tx := by
    rw [(rxPuntCtl_frame (evCtx ctx e)).1]
    rfl
  unfold tcpEventRx
  split
  · exact .calm rfl
  · split
    · exact .calm rfl
    · split
      · exact calm_of_eq_tx ctx sid rfl hpunt
      · next hctl =>
        cases hfind : sockFind (evCtx ctx e) with
        | none => exact .calm rfl
        | some j =>
          dsimp only
          split
          · exact calm_of_eq_tx ctx sid rfl hpunt
          · exact rxEstablished_tx ctx sid e (Bool.eq_false_iff.mpr hctl) hfind

theorem deqHandleBumpTx_tx (e : EvIn) (qeOff : Nat) (sockId : UInt32) (txPort : UInt16)
    (txIp n : UInt32) (ctx₁ : TcpCtx) (hsame : ∀ i, sockOf ctx₁ i = sockOf ctx i) :
    TxEvent ctx sid (.deq e (.bumpChamTx sockId txPort txIp n) qeOff) (sockOf ctx sid).tx
      (sockOf (deqHandleBumpTx ctx₁ sockId txPort txIp n).1 sid).tx := by
  unfold deqHandleBumpTx
  split
  · exact calm_of_eq_tx ctx sid rfl (by rw [hsame])
  · unfold sockMapLookup
    by_cases hge : sockId.toNat ≥ ctx₁.maps.sockNelems
    · rw [if_pos hge]
      exact calm_of_eq_tx ctx sid rfl (by rw [hsame])
    · rw [if_neg hge]
      dsimp only
      have hset : (sockOf (setSock ctx₁ sockId.toNat (deqSockBumpTx (sockOf ctx₁ sockId.toNat)
          txPort txIp n)) sid).tx = if sid = sockId.toNat then
            { (sockOf ctx sid).tx with avail := (sockOf ctx sid).tx.avail + n }
          else (sockOf ctx sid).tx := by
        by_cases hi : sid = sockId.toNat
        · rw [hi, sockOf_setSock, if_pos rfl, hsame]
          rfl
        · rw [sockOf_setSock_ne _ _ hi, if_neg hi, hsame]
      generalize setSock ctx₁ sockId.toNat _ = ctx₂ at hset ⊢
      have hadd : ∀ id prio, (sockOf (ctxSchedAdd (txSchedTsc ctx₂ sockId.toNat).2 id prio n).1
          sid).tx = (sockOf ctx₂ sid).tx := fun id prio =>
        ((quiet_txSchedTsc ctx₂ _).trans (quiet_ctxSchedAdd _ id prio n)).tx sid
      have hfin : TxEvent ctx sid (.deq e (.bumpChamTx sockId txPort txIp n) qeOff)
          (sockOf ctx sid).tx (sockOf ctx₂ sid).tx := by
        rw [hset]
        split
        · next hi => exact .add sockId txPort txIp n hi.symm
        · exact .calm rfl
      split
      · dsimp only
        rw [hadd]
        exact hfin
      · dsimp only
        rw [hadd]
        exact hfin

theorem deqHandleBumpRx_tx (sockId rxHead : UInt32) :
    (sockOf (deqHandleBumpRx ctx sockId rxHead).1 sid).tx = (sockOf ctx sid).tx := by
  unfold deqHandleBumpRx
  split
  · rfl
  · cases sockMapLookup ctx sockId with
    | none => rfl
    | some j =>
      dsimp only
      have hset : (sockOf (setSock ctx j (deqSockBumpRx (sockOf ctx j) rxHead)) sid).tx =
        (sockOf ctx sid).tx :=
        setSock_tx (show (deqSockBumpRx (sockOf ctx j) rxHead).tx = _ from rfl) sid
      split
      · exact ((quiet_txFillAck _ j).tx sid).trans hset
      · exact hset

theorem deqHandleRetransmit_tx (e : EvIn) (qeOff : Nat) (sockId txSeq txPending : UInt32)
    (ctx₁ : TcpCtx) (hsame : ∀ i, sockOf ctx₁ i = sockOf ctx i) :
    TxEvent ctx sid (.deq e (.txRetransmit sockId txSeq txPending) qeOff) (sockOf ctx sid).tx
      (sockOf (deqHandleRetransmit ctx₁ sockId txSeq txPending).1 sid).tx := by
  have hcalm : TxEvent ctx sid (.deq e (.txRetransmit sockId txSeq txPending) qeOff)
      (sockOf ctx sid).tx (sockOf ctx₁ sid).tx := calm_of_eq_tx ctx sid rfl (by rw [hsame])
  unfold deqHandleRetransmit sockMapLookup
  split
  · exact hcalm
  · by_cases hge : sockId.toNat ≥ ctx₁.maps.sockNelems
    · rw [if_pos hge]
      exact hcalm
    · rw [if_neg hge]
      dsimp only
      split
      · exact hcalm
      · next hstale =>
        dsimp only
        rw [(remit_spec ctx₁ sockId.toNat).tx sid]
        by_cases hi : sid = sockId.toNat
        · rw [hi, sockOf_setSock, rewoundSock_tx, hsame]
          refine .retransmit sockId txSeq txPending rfl ?_
          intro hz
          apply hstale
          unfold deqIsRetransmitStale
          rw [Bool.or_eq_true, Bool.or_eq_true, beq_iff_eq, hsame]
          exact .inl (.inl hz)
        · rw [sockOf_setSock_ne _ _ hi]
          exact hcalm

/-- **A dequeued entry.** -/
theorem tcpEventDeq_tx (e : EvIn) (qe : TcpQe) (qeOff : Nat) :
    TxEvent ctx sid (.deq e qe qeOff) (sockOf ctx sid).tx
      (sockOf (tcpEventDeq { evCtx ctx e with qe, qeOff }).1 sid).tx := by
  have hsame : ∀ i, sockOf { evCtx ctx e with qe, qeOff } i = sockOf ctx i := fun _ => rfl
  have hqe : ({ evCtx ctx e with qe, qeOff } : TcpCtx).qe = qe := rfl
  generalize ({ evCtx ctx e with qe, qeOff } : TcpCtx) = ctx₁ at hsame hqe ⊢
  have hcalm : TxEvent ctx sid (.deq e qe qeOff) (sockOf ctx sid).tx (sockOf ctx₁ sid).tx :=
    calm_of_eq_tx ctx sid rfl (by rw [hsame])
  unfold tcpEventDeq
  split
  · exact hcalm
  · rw [hqe]
    cases qe with
    | bumpChamTx sockId txPort txIp n => exact deqHandleBumpTx_tx ctx sid _ _ _ _ _ _ _ hsame
    | bumpChamRx sockId rxHead =>
      exact calm_of_eq_tx ctx sid rfl ((deqHandleBumpRx_tx ctx₁ sid sockId rxHead).trans
        (by rw [hsame]))
    | ctlTx =>
      refine calm_of_eq_tx ctx sid rfl ?_
      rw [← hsame]
      unfold sockOf
      rw [(deqHandleCtlTx_frame ctx₁).1]
    | txRetransmit sockId txSeq txPending =>
      exact deqHandleRetransmit_tx ctx sid _ _ _ _ _ _ hsame
    | _ => exact hcalm

/-- The header of a segment carries the number of its first byte. -/
theorem txSend_seqno {ctx : TcpCtx} {j : Nat} {nowTsc : UInt64} {sock : TcpSock} {b : UInt32}
    (hpkt : (txSend ctx j nowTsc).1.pkt =
      (txCopyPayload (txFillHdr ctx j txGetHdrlen b) sock txGetHdrlen b).pkt) :
    tcpSeqno (txSend ctx j nowTsc).1.pkt = (sockOf ctx j).txSeq + (sockOf ctx j).txPending := by
  rw [hpkt, ← txFillHdr_seqno ctx j txGetHdrlen b]
  unfold tcpSeqno
  exact be32_congr (fun i _ _ => txCopyPayload_hdr _ _ b (by omega))

/-- A scheduler event finds nothing to do, or sends for its target. -/
theorem tcpEventSched_cases (ctx : TcpCtx) :
    ((tcpEventSched ctx).1.maps = ctx.maps ∧ ∀ n, (tcpEventSched ctx).2 = .ok n → n = 0) ∨
    ∃ j ctx₁, schedTarget ctx = some j ∧ ctx₁.maps = ctx.maps ∧ ctx₁.pktRoom = ctx.pktRoom ∧
      tcpEventSched ctx = txSend ctx₁ j (clockRdtsc ctx.clk).1 := by
  have hzero : ∀ {n : Nat}, (Except.ok 0 : Ret) = .ok n → n = 0 := by
    intro n hn
    cases hn
    rfl
  unfold tcpEventSched schedTarget
  cases schedHead ctx.sched with
  | none => exact .inl ⟨rfl, fun _ => hzero⟩
  | some entry =>
    dsimp only
    split
    · exact .inl ⟨rfl, fun _ => hzero⟩
    · split
      · exact .inl ⟨rfl, nofun⟩
      · rw [show sockMapLookup { ctx with
          clk := (clockRdtsc ctx.clk).2, sched := (schedPop ctx.sched).1 } entry.id =
          sockMapLookup ctx entry.id from rfl]
        cases sockMapLookup ctx entry.id with
        | none => exact .inl ⟨rfl, nofun⟩
        | some j =>
          exact .inr ⟨j, { ctx with
            clk := (clockRdtsc ctx.clk).2, sched := (schedPop ctx.sched).1 }, rfl, rfl, rfl, rfl⟩

theorem sentNow_eq_none {e : EvIn}
    (h : ∀ n, (tcpEventSched (evCtx ctx e)).2 = .ok n → n ≤ 52) :
    sentNow ctx sid (.sched e) = none := by
  unfold sentNow
  dsimp only
  split
  · generalize tcpEventSched (evCtx ctx e) = r at h ⊢
    obtain ⟨c, ret⟩ := r
    cases ret with
    | error err => rfl
    | ok n =>
      dsimp only
      rw [if_neg (Nat.not_lt_of_le (h n rfl))]
  · rfl

/-- **A scheduler event.** -/
theorem tcpEventSched_tx (e : EvIn) :
    TxEvent ctx sid (.sched e) (sockOf ctx sid).tx
      (sockOf (tcpEventSched (evCtx ctx e)).1 sid).tx := by
  rcases tcpEventSched_cases (evCtx ctx e) with ⟨hm, hle⟩ | ⟨j, ctx₁, htgt, hm, hroom, heq⟩
  · refine calm_of_eq_tx ctx sid (sentNow_eq_none ctx sid ?_) ?_
    · intro n hn
      rw [hle n hn]
      omega
    · unfold sockOf
      rw [hm]
      rfl
  · have hsock : ∀ i, sockOf ctx₁ i = sockOf ctx i := by
      intro i
      unfold sockOf
      rw [hm]
      rfl
    have hr₁ : 1472 ≤ ctx₁.pktRoom := by
      rw [hroom]
      exact (fastEbpfPktRoom_bounds e.virtGre).1
    have hr₂ : ctx₁.pktRoom ≤ 1500 := by
      rw [hroom]
      exact (fastEbpfPktRoom_bounds e.virtGre).2
    have hbump := toNat_txGetTxBump (sockOf ctx₁ j) (txGetMaxPaylen ctx₁ txGetHdrlen)
    rw [toNat_txGetMaxPaylen hr₁ hr₂] at hbump
    generalize hb : txGetTxBump (sockOf ctx₁ j) (txGetMaxPaylen ctx₁ txGetHdrlen) = b at hbump
    rcases txSend_spec (clockRdtsc (evCtx ctx e).clk).1 hb hr₁ hr₂ with
      ⟨-, hq, -, hok⟩ | ⟨hpos, hq, -, hok, sock, -, hpkt⟩
    · rw [← heq] at hq hok
      refine calm_of_eq_tx ctx sid (sentNow_eq_none ctx sid ?_) ?_
      · intro n hn
        rw [hok] at hn
        cases hn
        exact Nat.le_refl 52
      · rw [hq.tx sid, hsock]
    · have hseq := txSend_seqno hpkt
      rw [← heq] at hq hok hseq
      by_cases hi : sid = j
      · -- the target is the socket itself
        subst hi
        have h52 : (txGetHdrlen + b).toNat = 52 + b.toNat := by
          rw [toNat_add_of_lt] <;> rw [show txGetHdrlen.toNat = 52 from rfl]
          omega
        have hpos' := UInt32.lt_iff_toNat_lt.mp hpos
        rw [UInt32.toNat_zero] at hpos'
        rw [hsock] at hbump hseq
        have htx : (sockOf (tcpEventSched (evCtx ctx e)).1 sid).tx =
            (sockOf ctx sid).tx.sent b := by
          rw [hq.tx sid, sockOf_setSock, txSockTxBump_tx, hsock]
        rw [htx]
        refine .send b hpos ?_ ?_ ?_ ?_
        · show b.toNat ≤ (sockOf ctx sid).txAvail.toNat
          omega
        · show b.toNat ≤ (sockOf ctx sid).txRemoteAvail.toNat - (sockOf ctx sid).txPending.toNat
          omega
        · rw [← recoveryAvail_tx]
          omega
        · unfold sentNow
          dsimp only
          rw [if_pos htgt]
          generalize tcpEventSched (evCtx ctx e) = r at hok hseq
          obtain ⟨c, ret⟩ := r
          dsimp only at hok hseq
          rw [hok, h52]
          dsimp only
          rw [if_pos (by omega), hseq, Nat.add_sub_cancel_left]
          rfl
      · refine calm_of_eq_tx ctx sid ?_ ?_
        · unfold sentNow
          dsimp only
          rw [htgt, if_neg (fun hc => hi (Option.some.inj hc).symm)]
        · rw [hq.tx sid, sockOf_setSock_ne _ _ hi, hsock]

/-- **Every event of the fast path**, on the transmit side of a socket. -/
theorem fastStep_tx (ev : FastEv) :
    TxEvent ctx sid ev (sockOf ctx sid).tx (sockOf (fastStep ctx ev).1 sid).tx := by
  cases ev with
  | rx e => exact tcpEventRx_tx ctx sid e
  | deq e qe qeOff => exact tcpEventDeq_tx ctx sid e qe qeOff
  | sched e => exact tcpEventSched_tx ctx sid e

end events

end Chamelio.Tcp
