import Chamelio.Tcp.RxSpec
import Chamelio.Tcp.Wakeup
import Chamelio.Tcp.SlowSpec

/-!
# What the fast path leaves of the slow path's tables

The handlers of the fast path write sockets but no table. Of the fields
that place a socket in the tables they touch the remote address alone, in
`deq_sock_bump_tx`, when the bump carries one.
-/

namespace Chamelio.Tcp

open Chamelio.Lib Chamelio.Util Chamelio.Pkt Chamelio.Fast

/-- Every socket has the same key, the buckets are the same. -/
structure SameKeys (a b : TcpCtx) : Prop where
  key : ∀ i, (sockOf b i).key = (sockOf a i).key
  buckets : b.maps.buckets = a.maps.buckets
  sockNelems : b.maps.sockNelems = a.maps.sockNelems
  buckNelems : b.maps.buckNelems = a.maps.buckNelems

theorem SameKeys.refl (a : TcpCtx) : SameKeys a a := ⟨fun _ => rfl, rfl, rfl, rfl⟩

theorem SameKeys.trans {a b c : TcpCtx} (h₁ : SameKeys a b) (h₂ : SameKeys b c) : SameKeys a c :=
  ⟨fun i => (h₂.key i).trans (h₁.key i), h₂.buckets.trans h₁.buckets,
    h₂.sockNelems.trans h₁.sockNelems, h₂.buckNelems.trans h₁.buckNelems⟩

theorem bare_key (s : TcpSock) : s.bare.key = s.key := rfl

/-- Bookkeeping is not part of the key. -/
theorem key_of_bare {s s' : TcpSock} (h : s'.bare = s.bare) : s'.key = s.key := by
  rw [← bare_key s', h, bare_key]

/-- A quiet step keeps what the slow path looks at. -/
theorem Quiet.sameKeys {a b : TcpCtx} (h : Quiet a b) : SameKeys a b :=
  ⟨fun i => key_of_bare (h.socks i), h.buckets, h.sockNelems, h.buckNelems⟩

/-- The keys are in the maps. -/
theorem sameKeys_of_maps {a b : TcpCtx} (h : b.maps = a.maps) : SameKeys a b := by
  refine ⟨?_, ?_, ?_, ?_⟩
  · intro i
    unfold sockOf
    rw [h]
  · rw [h]
  · rw [h]
  · rw [h]

/-- A store that keeps the key. -/
theorem sameKeys_setSock {ctx : TcpCtx} {sid : Nat} {s : TcpSock}
    (h : s.key = (sockOf ctx sid).key) : SameKeys ctx (setSock ctx sid s) := by
  refine ⟨?_, rfl, rfl, rfl⟩
  intro i
  by_cases hi : i = sid
  · rw [hi, sockOf_setSock, h]
  · rw [sockOf_setSock_ne ctx s hi]

/-! ## Receiving -/

theorem ackedSock_key (p : Nat → UInt8) (s : TcpSock) : (ackedSock p s).key = s.key := by
  unfold ackedSock
  dsimp only
  split
  · unfold rxSockBumpAck tcpSockRecoveryAck tcpSockRecoveryReset
    dsimp only
    split
    · split <;> rfl
    · rfl
  · rfl

theorem rewoundSock_key (s : TcpSock) : (rewoundSock s).key = s.key := by
  unfold rewoundSock tcpSockRecoveryEnter
  dsimp only
  split <;> rfl

theorem rxPayload_sameKeys (ctx : TcpCtx) (sid : Nat) (v : RxLocals) (hdrlen : UInt32)
    (fr : Bool) : SameKeys ctx (rxPayload ctx sid v hdrlen fr).1 := by
  have hcopy : ∀ src b, SameKeys ctx (setSock (rxCopyPayload ctx (sockOf ctx sid) src b) sid
      (rxSockBumpRx (sockOf ctx sid) b)) := by
    intro src b
    refine (sameKeys_of_maps (rxCopyPayload_maps ctx _ src b)).trans (sameKeys_setSock ?_)
    unfold sockOf
    rw [rxCopyPayload_maps]
    rfl
  obtain ⟨b, hb⟩ : ∃ b, rxGetRxBump (sockOf ctx sid)
      ((rxGetPaylen ctx.pkt).toUInt32 - v.overlap) = b := ⟨_, rfl⟩
  rcases rxPayload_spec ctx sid v hdrlen fr hb with
    ⟨hq, -, -⟩ | ⟨-, -, -, ⟨q, -, hq, -⟩ | ⟨-, -, heq⟩⟩
  · exact hq.sameKeys
  · refine SameKeys.trans ?_ hq.sameKeys
    unfold delivered
    exact (hcopy _ _).trans (sameKeys_of_maps rfl)
  · rw [heq]
    exact hcopy _ _

/-- A segment moves numbers and rings. -/
theorem rxSegment_sameKeys (ctx : TcpCtx) (sid : Nat) (hdrlen : UInt32) :
    SameKeys ctx (rxSegment ctx sid hdrlen).1 := by
  rcases rxSegment_spec ctx sid hdrlen with
    ⟨ctx₁, heq, -, hq⟩ | ⟨ctx₁, s₁, q, fr, hs₁, -, -, hq, heq⟩
  · have hset : SameKeys ctx (setSock ctx sid (ackedSock ctx.pkt (sockOf ctx sid))) :=
      sameKeys_setSock (ackedSock_key _ _)
    rw [heq]
    exact hset.trans hq.sameKeys
  · have hkey : s₁.key = (sockOf ctx sid).key := by
      rcases hs₁ with hs₁ | ⟨-, hs₁⟩
      · rw [hs₁, ackedSock_key]
      · rw [hs₁, rewoundSock_key, ackedSock_key]
    have hwith : SameKeys (setSock ctx sid s₁) (withSockQueue ctx sid s₁ q) :=
      sameKeys_of_maps rfl
    have h₁ : SameKeys ctx ctx₁ := ((sameKeys_setSock hkey).trans hwith).trans hq.sameKeys
    rw [heq]
    split
    · exact h₁
    · exact h₁.trans (rxPayload_sameKeys _ _ _ _ _)

/-- Receiving keeps every key. -/
theorem tcpEventRx_sameKeys (ctx : TcpCtx) : SameKeys ctx (tcpEventRx ctx).1 := by
  have hpunt : SameKeys ctx (rxPuntCtl ctx).1 := by
    obtain ⟨heq, -, -⟩ := rxPuntCtl_frame ctx
    rw [heq]
    exact sameKeys_of_maps rfl
  unfold tcpEventRx
  split
  · exact SameKeys.refl ctx
  · split
    · exact SameKeys.refl ctx
    · split
      · exact hpunt
      · cases sockFind ctx with
        | none => exact SameKeys.refl ctx
        | some sid =>
          dsimp only
          split
          · exact hpunt
          · unfold rxEstablished
            dsimp only
            have hmark := (quiet_rxMarkCe ctx sid).sameKeys
            split
            · exact hmark.trans (quiet_txFillAck _ sid).sameKeys
            · exact hmark.trans (rxSegment_sameKeys _ _ _)

/-! ## Sending -/

theorem txSendPayload_sameKeys (ctx : TcpCtx) (sid : Nat) (hdrlen txBump : UInt32)
    (nowTsc : UInt64) : SameKeys ctx (txSendPayload ctx sid hdrlen txBump nowTsc).1 := by
  have hcopy : (txCopyPayload ctx (sockOf ctx sid) hdrlen txBump).maps = ctx.maps := by
    rw [txCopyPayload_eq]
  unfold txSendPayload
  dsimp only
  generalize txCopyPayload ctx (sockOf ctx sid) hdrlen txBump = ctx₁ at hcopy ⊢
  have hset : SameKeys ctx (setSock ctx₁ sid (txSockSchedNext ctx₁.clk
      (txSockTxBump (sockOf ctx₁ sid) txBump) (hdrlen + txBump) nowTsc)) := by
    refine (sameKeys_of_maps hcopy).trans (sameKeys_setSock ?_)
    unfold txSockSchedNext
    split <;> rfl
  generalize setSock ctx₁ sid _ = ctx₂ at hset ⊢
  split
  · have hadd : ∀ id prio avail,
        SameKeys ctx (ctxSchedAdd (txSchedTsc ctx₂ sid).2 id prio avail).1 := fun id prio avail =>
      (hset.trans (quiet_txSchedTsc ctx₂ sid).sameKeys).trans
        (quiet_ctxSchedAdd _ id prio avail).sameKeys
    split
    · exact hadd _ _ _
    · exact hadd _ _ _
  · exact hset

/-- Sending keeps every key. -/
theorem tcpEventSched_sameKeys (ctx : TcpCtx) : SameKeys ctx (tcpEventSched ctx).1 := by
  unfold tcpEventSched
  cases schedHead ctx.sched with
  | none => exact SameKeys.refl ctx
  | some entry =>
    dsimp only
    split
    · exact sameKeys_of_maps rfl
    · split
      · exact sameKeys_of_maps rfl
      · cases sockMapLookup _ entry.id with
        | none => exact sameKeys_of_maps rfl
        | some sid =>
          dsimp only
          refine SameKeys.trans (sameKeys_of_maps (b := { ctx with
            clk := (clockRdtsc ctx.clk).2, sched := (schedPop ctx.sched).1 }) rfl) ?_
          generalize ({ ctx with
            clk := (clockRdtsc ctx.clk).2, sched := (schedPop ctx.sched).1 } : TcpCtx) = ctx₁
          unfold txSend
          split
          · exact SameKeys.refl ctx₁
          · dsimp only
            split
            · exact SameKeys.refl ctx₁
            · split
              · exact (quiet_txFillHdr ctx₁ sid _ _).sameKeys.trans
                  (txSendPayload_sameKeys _ _ _ _ _)
              · exact (quiet_txFillHdr ctx₁ sid _ _).sameKeys

/-! ## Dequeuing -/

/-- A transmit bump on the socket it names. -/
theorem deqHandleBumpTx_keys (ctx : TcpCtx) (sockId : UInt32) (txPort : UInt16)
    (txIp txAvail : UInt32) :
    SameKeys ctx (deqHandleBumpTx ctx sockId txPort txIp txAvail).1 ∨
      (sockId.toNat < ctx.maps.sockNelems ∧
        SameKeys (setSock ctx sockId.toNat
          (deqSockBumpTx (sockOf ctx sockId.toNat) txPort txIp txAvail))
          (deqHandleBumpTx ctx sockId txPort txIp txAvail).1) := by
  unfold deqHandleBumpTx
  split
  · exact .inl (SameKeys.refl ctx)
  · unfold sockMapLookup
    by_cases hge : sockId.toNat ≥ ctx.maps.sockNelems
    · rw [if_pos hge]
      exact .inl (SameKeys.refl ctx)
    · rw [if_neg hge]
      dsimp only
      refine .inr ⟨Nat.lt_of_not_le hge, ?_⟩
      generalize setSock ctx sockId.toNat _ = ctx₁
      have hadd : ∀ id prio,
          SameKeys ctx₁ (ctxSchedAdd (txSchedTsc ctx₁ sockId.toNat).2 id prio txAvail).1 :=
        fun id prio => (quiet_txSchedTsc ctx₁ _).sameKeys.trans
          (quiet_ctxSchedAdd _ id prio txAvail).sameKeys
      split
      · exact hadd _ _
      · exact hadd _ _

theorem deqHandleBumpRx_sameKeys (ctx : TcpCtx) (sockId rxHead : UInt32) :
    SameKeys ctx (deqHandleBumpRx ctx sockId rxHead).1 := by
  unfold deqHandleBumpRx
  split
  · exact SameKeys.refl ctx
  · cases sockMapLookup ctx sockId with
    | none => exact SameKeys.refl ctx
    | some sid =>
      dsimp only
      have hset : SameKeys ctx (setSock ctx sid (deqSockBumpRx (sockOf ctx sid) rxHead)) :=
        sameKeys_setSock rfl
      split
      · exact hset.trans (quiet_txFillAck _ sid).sameKeys
      · exact hset

theorem deqHandleRetransmit_sameKeys (ctx : TcpCtx) (sockId txSeq txPending : UInt32) :
    SameKeys ctx (deqHandleRetransmit ctx sockId txSeq txPending).1 := by
  unfold deqHandleRetransmit
  split
  · exact SameKeys.refl ctx
  · cases sockMapLookup ctx sockId with
    | none => exact SameKeys.refl ctx
    | some sid =>
      dsimp only
      split
      · exact SameKeys.refl ctx
      · have hset : SameKeys ctx (setSock ctx sid (rewoundSock (sockOf ctx sid))) :=
          sameKeys_setSock (rewoundSock_key _)
        exact hset.trans (remit_spec ctx sid).sameKeys

/-- **A dequeued entry** leaves every key, unless it is a transmit bump. -/
theorem tcpEventDeq_keys (ctx : TcpCtx) :
    SameKeys ctx (tcpEventDeq ctx).1 ∨
      ∃ sockId txPort txIp txAvail, ctx.qe = .bumpChamTx sockId txPort txIp txAvail ∧
        sockId.toNat < ctx.maps.sockNelems ∧
        SameKeys (setSock ctx sockId.toNat
          (deqSockBumpTx (sockOf ctx sockId.toNat) txPort txIp txAvail))
          (tcpEventDeq ctx).1 := by
  unfold tcpEventDeq
  split
  · exact .inl (SameKeys.refl ctx)
  · cases hqe : ctx.qe with
    | bumpChamTx sockId txPort txIp txAvail =>
      rcases deqHandleBumpTx_keys ctx sockId txPort txIp txAvail with h | ⟨hlt, h⟩
      · exact .inl h
      · exact .inr ⟨sockId, txPort, txIp, txAvail, rfl, hlt, h⟩
    | bumpChamRx sockId rxHead => exact .inl (deqHandleBumpRx_sameKeys ctx sockId rxHead)
    | ctlTx => exact .inl (sameKeys_of_maps (deqHandleCtlTx_frame ctx).1)
    | txRetransmit sockId txSeq txPending =>
      exact .inl (deqHandleRetransmit_sameKeys ctx sockId txSeq txPending)
    | _ => exact .inl (SameKeys.refl ctx)

end Chamelio.Tcp
