import Chamelio.Tcp.Wakeup

/-!
# When the entries of a scheduler are due

Five places put an entry on the scheduler list, each with a time of its own:
`tcp_event_sched`, `rx_sched_tx` and `deq_handle_bump_tx` ask `tx_sched_tsc`,
which never answers a time before `tx_ready_tsc` on a paced socket; `remit`,
reached from the duplicate-ACK counter and from the slow path's retransmit
command, takes the clock as it is. `EntriesAll q` says that every entry of
the list satisfies `q` together with its time, and each handler is given
with what it asks of `q`: `PacedAdd` where it goes through `tx_sched_tsc`,
`FreeAdd` where it does not.

What pacing reads of a socket — the id, the state, the rate and
`tx_ready_tsc` — is written by `tx_sock_sched_next` alone (`SamePace`).
-/

namespace Chamelio.Tcp

open Chamelio.Lib Chamelio.Util Chamelio.Pkt Chamelio.Fast

/-! ## The fields pacing reads -/

/-- The fields of a socket that decide when it may send, and as whom. -/
structure PaceFields where
  id : UInt32
  state : SockState
  rate : UInt32
  ready : UInt64

def TcpSock.pace (s : TcpSock) : PaceFields :=
  { id := s.id, state := s.state, rate := s.ccRate, ready := s.txReadyTsc }

/-- No socket differs in them, nor does the unit of the clock. -/
structure SamePace (a b : TcpCtx) : Prop where
  socks : ∀ i, (sockOf b i).pace = (sockOf a i).pace
  nelems : b.maps.sockNelems = a.maps.sockNelems
  cycles : b.clk.cyclesPerUs = a.clk.cyclesPerUs

theorem SamePace.refl (a : TcpCtx) : SamePace a a := ⟨fun _ => rfl, rfl, rfl⟩

theorem SamePace.trans {a b c : TcpCtx} (h₁ : SamePace a b) (h₂ : SamePace b c) : SamePace a c :=
  ⟨fun i => (h₂.socks i).trans (h₁.socks i), h₂.nelems.trans h₁.nelems,
    h₂.cycles.trans h₁.cycles⟩

theorem SamePace.id {a b : TcpCtx} (h : SamePace a b) (i : Nat) :
    (sockOf b i).id = (sockOf a i).id := (congrArg PaceFields.id (h.socks i) :)

theorem SamePace.state {a b : TcpCtx} (h : SamePace a b) (i : Nat) :
    (sockOf b i).state = (sockOf a i).state := (congrArg PaceFields.state (h.socks i) :)

theorem SamePace.rate {a b : TcpCtx} (h : SamePace a b) (i : Nat) :
    (sockOf b i).ccRate = (sockOf a i).ccRate := (congrArg PaceFields.rate (h.socks i) :)

theorem SamePace.ready {a b : TcpCtx} (h : SamePace a b) (i : Nat) :
    (sockOf b i).txReadyTsc = (sockOf a i).txReadyTsc :=
  (congrArg PaceFields.ready (h.socks i) :)

section same

variable (ctx : TcpCtx) (sid : Nat)

theorem samePace_of_maps {a b : TcpCtx} (hm : b.maps = a.maps)
    (hc : b.clk.cyclesPerUs = a.clk.cyclesPerUs) : SamePace a b := by
  refine ⟨fun i => ?_, ?_, hc⟩
  · unfold sockOf
    rw [hm]
  · rw [hm]

theorem samePace_setSock {s : TcpSock} (h : s.pace = (sockOf ctx sid).pace) :
    SamePace ctx (setSock ctx sid s) := by
  refine ⟨fun i => ?_, rfl, rfl⟩
  by_cases hi : i = sid
  · rw [hi, sockOf_setSock, h]
  · rw [sockOf_setSock_ne ctx s hi]

theorem samePace_txFillHdr (hdrlen paylen : UInt32) :
    SamePace ctx (txFillHdr ctx sid hdrlen paylen) := by
  unfold txFillHdr
  dsimp only
  split
  · refine SamePace.trans ?_ (samePace_setSock _ sid ?_)
    · exact samePace_of_maps rfl rfl
    · rfl
  · exact samePace_of_maps rfl rfl

theorem samePace_txFillAck : SamePace ctx (txFillAck ctx sid).1 := by
  unfold txFillAck
  split
  · exact SamePace.refl ctx
  · split
    · exact SamePace.refl ctx
    · exact samePace_txFillHdr ctx sid _ _

theorem samePace_rxMarkCe : SamePace ctx (rxMarkCe ctx sid) := by
  unfold rxMarkCe
  split
  · exact samePace_setSock ctx sid rfl
  · exact SamePace.refl ctx

theorem samePace_sockTsRx : SamePace ctx (sockTsRx ctx sid) := by
  unfold sockTsRx
  split
  · exact SamePace.refl ctx
  · next tsVal tsEcr _ =>
    have h₁ : SamePace ctx (setSock ctx sid { sockOf ctx sid with tsRecent := tsVal }) :=
      samePace_setSock ctx sid rfl
    have h₂ := h₁.trans (samePace_of_maps (b := (tcpNowUs (setSock ctx sid
      { sockOf ctx sid with tsRecent := tsVal })).2) rfl rfl)
    dsimp only
    split
    · exact h₁
    · split
      · exact h₂
      · exact h₂.trans (samePace_setSock _ sid rfl)

theorem rxSockBumpAck_pace (p : Nat → UInt8) (s : TcpSock) (ackBump : UInt32) :
    (rxSockBumpAck p s ackBump).pace = s.pace := by
  unfold rxSockBumpAck tcpSockRecoveryAck
  dsimp only
  split
  · split <;> rfl
  · rfl

theorem samePace_rxAckStage : SamePace ctx (rxAckStage ctx sid).1 := by
  unfold rxAckStage
  dsimp only
  generalize hset : setSock ctx sid _ = ctx₁
  have h₁ : SamePace ctx ctx₁ := by
    rw [← hset]
    exact samePace_setSock ctx sid rfl
  have h₂ := h₁.trans (samePace_sockTsRx ctx₁ sid)
  split
  · exact h₂.trans (samePace_setSock _ sid (rxSockBumpAck_pace _ _ _))
  · exact h₂

theorem samePace_rxAppTxBump {ctx ctx' : TcpCtx} {sid : Nat} {v : RxLocals}
    (h : rxAppTxBump ctx sid v = some ctx') :
    SamePace ctx ctx' ∧ ctx'.sched = ctx.sched := by
  rcases rxAppTxBump_spec h with ⟨-, rfl⟩ | ⟨-, q, -, rfl⟩
  · exact ⟨SamePace.refl ctx', rfl⟩
  · exact ⟨samePace_of_maps rfl rfl, rfl⟩

theorem rewoundSock_pace (s : TcpSock) : (rewoundSock s).pace = s.pace := by
  unfold rewoundSock tcpSockRecoveryEnter
  split <;> rfl

/-- A rewind moves bytes and the entry, and nothing pacing reads. -/
theorem samePace_remit : SamePace ctx (remit ctx sid) :=
  (samePace_setSock ctx sid (rewoundSock_pace (sockOf ctx sid))).trans (samePace_of_maps rfl rfl)

theorem samePace_rxDupAck (v : RxLocals) : SamePace ctx (rxDupAck ctx sid v).1 := by
  unfold rxDupAck
  dsimp only
  split
  · split
    · rw [setSock_setSock]
      generalize hcount : setSock ctx sid _ = ctx₁
      have hset : SamePace ctx ctx₁ := by
        rw [← hcount]
        exact samePace_setSock ctx sid rfl
      have hrewind := hset.trans (samePace_remit ctx₁ sid)
      generalize remit ctx₁ sid = ctx₂ at hrewind ⊢
      exact hrewind.trans (samePace_setSock ctx₂ sid rfl)
    · exact samePace_setSock ctx sid rfl
  · exact SamePace.refl ctx

theorem samePace_txSchedTsc : SamePace ctx (txSchedTsc ctx sid).2 := by
  rw [txSchedTsc_snd]
  exact samePace_of_maps rfl rfl

theorem samePace_rxSchedTx (a b : UInt32) : SamePace ctx (rxSchedTx ctx sid a b) := by
  unfold rxSchedTx
  split
  · exact SamePace.refl ctx
  · exact (samePace_txSchedTsc ctx sid).trans (samePace_of_maps rfl rfl)

theorem samePace_rxDeliver (v : RxLocals) (hdrlen : UInt32) :
    SamePace ctx (rxDeliver ctx sid v hdrlen).1 := by
  unfold rxDeliver
  dsimp only
  split
  · generalize hsrc : hdrlen.toNat + v.overlap.toNat = src
    generalize rxGetRxBump (sockOf ctx sid) _ = rxBump
    have hcopy : SamePace ctx (rxCopyPayload ctx (sockOf ctx sid) src rxBump) := by
      refine samePace_of_maps (rxCopyPayload_maps _ _ _ _) ?_
      unfold rxCopyPayload
      dsimp only
      split <;> rfl
    have hstored := hcopy.trans (samePace_setSock (rxCopyPayload ctx (sockOf ctx sid) src rxBump)
      sid (s := rxSockBumpRx (sockOf ctx sid) rxBump) (hcopy.socks sid).symm)
    split
    · exact hstored
    · next ctx₁ henq =>
      obtain ⟨q, -, rfl⟩ := rxEnqueueApp_spec henq
      refine (hstored.trans ?_).trans (samePace_txFillAck _ sid)
      exact samePace_of_maps rfl rfl
  · exact samePace_txFillAck ctx sid

theorem samePace_rxPayload (v : RxLocals) (hdrlen : UInt32) (fr : Bool) :
    SamePace ctx (rxPayload ctx sid v hdrlen fr).1 := by
  unfold rxPayload
  split
  · exact samePace_txFillAck ctx sid
  · split
    · exact samePace_txFillAck ctx sid
    · split
      · exact samePace_txFillAck ctx sid
      · exact samePace_rxDeliver ctx sid v hdrlen

theorem samePace_rxSegment (hdrlen : UInt32) : SamePace ctx (rxSegment ctx sid hdrlen).1 := by
  have h₁ := samePace_rxAckStage ctx sid
  unfold rxSegment
  dsimp only
  generalize rxAckStage ctx sid = st at h₁ ⊢
  obtain ⟨ctx₁, v⟩ := st
  dsimp only at h₁ ⊢
  cases hbump : rxAppTxBump ctx₁ sid v with
  | none => exact h₁
  | some ctx₂ =>
    have h₄ := ((h₁.trans (samePace_rxAppTxBump hbump).1).trans
      (samePace_rxDupAck ctx₂ sid v)).trans
      (samePace_rxSchedTx _ sid v.availBefore v.availAfter)
    dsimp only
    split
    · exact h₄
    · exact h₄.trans (samePace_rxPayload _ sid v hdrlen _)

theorem samePace_rxPuntCtl : SamePace ctx (rxPuntCtl ctx).1 := by
  rw [(rxPuntCtl_frame ctx).1]
  exact samePace_of_maps rfl rfl

/-- **A segment paces nobody differently.** -/
theorem samePace_tcpEventRx : SamePace ctx (tcpEventRx ctx).1 := by
  unfold tcpEventRx
  split
  · exact SamePace.refl ctx
  · split
    · exact SamePace.refl ctx
    · split
      · exact samePace_rxPuntCtl ctx
      · split
        · exact SamePace.refl ctx
        · next sid _ =>
          split
          · exact samePace_rxPuntCtl ctx
          · unfold rxEstablished
            dsimp only
            split
            · exact (samePace_rxMarkCe ctx sid).trans (samePace_txFillAck _ sid)
            · exact (samePace_rxMarkCe ctx sid).trans (samePace_rxSegment _ sid _)

theorem samePace_deqHandleCtlTx : SamePace ctx (deqHandleCtlTx ctx).1 := by
  refine samePace_of_maps (deqHandleCtlTx_frame ctx).1 ?_
  unfold deqHandleCtlTx
  split
  · rfl
  · split
    · rfl
    · dsimp only
      split
      · split
        · rfl
        · split
          · rfl
          · split
            · rfl
            · split <;> rfl
      · rfl

/-- **Nor does an entry of a queue.** -/
theorem samePace_tcpEventDeq : SamePace ctx (tcpEventDeq ctx).1 := by
  unfold tcpEventDeq
  split
  · exact SamePace.refl ctx
  · cases ctx.qe with
    | bumpChamTx sockId txPort txIp txAvail =>
      dsimp only
      unfold deqHandleBumpTx
      split
      · exact SamePace.refl ctx
      · split
        · exact SamePace.refl ctx
        · next sid _ =>
          have h : SamePace ctx (txSchedTsc (setSock ctx sid (deqSockBumpTx (sockOf ctx sid)
              txPort txIp txAvail)) sid).2 := by
            refine SamePace.trans ?_ (samePace_txSchedTsc _ sid)
            exact samePace_setSock ctx sid rfl
          dsimp only
          split
          · exact h.trans (samePace_of_maps rfl rfl)
          · exact h.trans (samePace_of_maps rfl rfl)
    | bumpChamRx sockId rxHead =>
      dsimp only
      unfold deqHandleBumpRx
      split
      · exact SamePace.refl ctx
      · split
        · exact SamePace.refl ctx
        · next sid _ =>
          have h : SamePace ctx (setSock ctx sid (deqSockBumpRx (sockOf ctx sid) rxHead)) :=
            samePace_setSock ctx sid rfl
          dsimp only
          split
          · exact h.trans (samePace_txFillAck _ sid)
          · exact h
    | ctlTx => exact samePace_deqHandleCtlTx ctx
    | txRetransmit sockId txSeq txPending =>
      dsimp only
      unfold deqHandleRetransmit
      split
      · exact SamePace.refl ctx
      · split
        · exact SamePace.refl ctx
        · next sid _ =>
          split
          · exact SamePace.refl ctx
          · exact samePace_remit ctx sid
    | _ => exact SamePace.refl ctx

end same

/-! ## Entries and their times -/

/-- Every entry satisfies `q`, with the time it is due. -/
def EntriesAll (q : UInt32 → UInt64 → Prop) (s : Util.Sched) : Prop :=
  ∃ l, SchedRep s l ∧ ∀ x ∈ l, q x (s.entries x).priority

/-- An entry for the socket at a time `tx_sched_tsc` answers satisfies `q`. -/
structure PacedAdd (q : UInt32 → UInt64 → Prop) (p : PaceFields) : Prop where
  bound : p.id.toNat < maxSchedEntries
  ok : ∀ prio, (p.rate ≠ 0 → p.ready ≤ prio) → q p.id prio

/-- An entry for the socket at any time satisfies `q`. -/
structure FreeAdd (q : UInt32 → UInt64 → Prop) (p : PaceFields) : Prop where
  bound : p.id.toNat < maxSchedEntries
  ok : ∀ prio, q p.id prio

section entries

variable {q : UInt32 → UInt64 → Prop} {ctx : TcpCtx} {sid : Nat}

theorem EntriesAll.mono {r : UInt32 → UInt64 → Prop} {s : Util.Sched} (h : EntriesAll q s)
    (hqr : ∀ x prio, s.InList x → q x prio → r x prio) : EntriesAll r s := by
  obtain ⟨l, hrep, hall⟩ := h
  exact ⟨l, hrep, fun x hx => hqr x _ (hrep.inList hx) (hall x hx)⟩

theorem EntriesAll.add {s : Util.Sched} {id : UInt32} {prio : UInt64} (h : EntriesAll q s)
    (hp : q id prio) (hb : id.toNat < maxSchedEntries) (avail : UInt32) :
    EntriesAll q (schedAdd s id prio avail).1 := by
  obtain ⟨l, hrep, hall⟩ := h
  obtain ⟨l', hrep', hmem⟩ := schedAdd_rep hrep hb prio avail
  refine ⟨l', hrep', ?_⟩
  intro x hx
  by_cases he : x = id
  · rw [he, schedAdd_priority]
    exact hp
  · rw [schedAdd_priority_ne s prio avail he]
    rcases (hmem x).mp hx with hx | hx
    · exact hall x hx
    · exact absurd hx he

theorem EntriesAll.remove {s : Util.Sched} (h : EntriesAll q s) (id : UInt32) :
    EntriesAll q (schedRemove s id).1 := by
  obtain ⟨l, hrep, hall⟩ := h
  obtain ⟨l', hrep', hmem⟩ := schedRemove_rep hrep id
  refine ⟨l', hrep', ?_⟩
  intro x hx
  obtain ⟨hx, hne⟩ := (hmem x).mp hx
  rw [(schedRemove_same_ne s hne).priority]
  exact hall x hx

/-- The head is one of the entries; popping it leaves the others, and none
of its id. -/
theorem EntriesAll.head {s : Util.Sched} {entry : SchedEntry} (h : EntriesAll q s)
    (he : schedHead s = some entry) :
    q entry.id entry.priority ∧ (schedPop s).2 = 0 ∧
      EntriesAll (fun x prio => q x prio ∧ x ≠ entry.id) (schedPop s).1 := by
  obtain ⟨l, hrep, hall⟩ := h
  cases l with
  | nil =>
    rw [schedHead_none hrep] at he
    cases he
  | cons x xs =>
    have hx : s.head = x := hrep.chain.seg.1
    have hnd := List.nodup_cons.mp hrep.nodup
    rw [schedHead_eq hrep] at he
    cases he
    rw [hrep.own x List.mem_cons_self]
    obtain ⟨hpop, hret⟩ := schedPop_rep hrep
    refine ⟨hall x List.mem_cons_self, hret, xs, hpop, ?_⟩
    intro y hy
    have hne : y ≠ x := fun e => hnd.1 (e ▸ hy)
    rw [schedPop_priority_ne s (by rw [hx]; exact hne)]
    exact ⟨hall y (List.mem_cons_of_mem x hy), hne⟩

/-- `tx_sched_tsc` answers no time before `tx_ready_tsc` on a paced
socket. -/
theorem txSchedTsc_ready (ctx : TcpCtx) (sid : Nat) (hr : (sockOf ctx sid).ccRate ≠ 0) :
    (sockOf ctx sid).txReadyTsc ≤ (txSchedTsc ctx sid).1 := by
  unfold txSchedTsc
  dsimp only
  split
  · next h =>
    rcases h with h | h
    · exact absurd h hr
    · exact h
  · exact UInt64.le_refl _

theorem entriesAll_paced (h : EntriesAll q ctx.sched) (hp : PacedAdd q (sockOf ctx sid).pace)
    (avail : UInt32) :
    EntriesAll q (ctxSchedAdd (txSchedTsc ctx sid).2 (sockOf ctx sid).id
      (txSchedTsc ctx sid).1 avail).1.sched := by
  show EntriesAll q (schedAdd (txSchedTsc ctx sid).2.sched (sockOf ctx sid).id
    (txSchedTsc ctx sid).1 avail).1
  rw [txSchedTsc_snd]
  exact h.add (hp.ok _ (txSchedTsc_ready ctx sid)) hp.bound _

theorem entriesAll_remit (h : EntriesAll q ctx.sched) (hp : FreeAdd q (sockOf ctx sid).pace) :
    EntriesAll q (remit ctx sid).sched := by
  have hid : (rewoundSock (sockOf ctx sid)).id = (sockOf ctx sid).id :=
    rewoundSock_id (sockOf ctx sid)
  refine (h.remove _).add ?_ ?_ _
  · show q (rewoundSock (sockOf ctx sid)).id _
    rw [hid]
    exact hp.ok _
  · show (rewoundSock (sockOf ctx sid)).id.toNat < _
    rw [hid]
    exact hp.bound

theorem entriesAll_rxSchedTx (h : EntriesAll q ctx.sched)
    (hp : PacedAdd q (sockOf ctx sid).pace) (a b : UInt32) :
    EntriesAll q (rxSchedTx ctx sid a b).sched := by
  unfold rxSchedTx
  split
  · exact h
  · dsimp only
    rw [(samePace_txSchedTsc ctx sid).id sid]
    exact entriesAll_paced h hp _

/-- The duplicate-ACK stage adds an entry only when it rewinds. -/
theorem entriesAll_rxDupAck (v : RxLocals) (h : EntriesAll q ctx.sched)
    (hp : (rxDupAck ctx sid v).2 = true → FreeAdd q (sockOf ctx sid).pace) :
    EntriesAll q (rxDupAck ctx sid v).1.sched := by
  unfold rxDupAck at hp ⊢
  dsimp only at hp ⊢
  split
  · next h₁ =>
    rw [if_pos h₁] at hp
    split
    · next h₂ =>
      rw [if_pos h₂] at hp
      rw [setSock_setSock]
      generalize hcount : setSock ctx sid _ = ctx₁
      have hs : EntriesAll q ctx₁.sched := by
        rw [← hcount]
        exact h
      have hpace : (sockOf ctx₁ sid).pace = (sockOf ctx sid).pace := by
        rw [← hcount, sockOf_setSock]
        rfl
      rw [setSock_sched]
      exact entriesAll_remit hs (by rw [hpace]; exact hp rfl)
    · exact h
  · exact h

theorem rxPayload_sched (ctx : TcpCtx) (sid : Nat) (v : RxLocals) (hdrlen : UInt32) (fr : Bool) :
    (rxPayload ctx sid v hdrlen fr).1.sched = ctx.sched := by
  unfold rxPayload
  split
  · exact txFillAck_sched ctx sid
  · split
    · exact txFillAck_sched ctx sid
    · split
      · exact txFillAck_sched ctx sid
      · exact (rxDeliver_spec ctx sid v hdrlen rfl).1

/-! ## Segments -/

/-- The segment is the duplicate ACK that rewinds the socket. -/
def segmentRemits (ctx : TcpCtx) (sid : Nat) : Bool :=
  let (ctx, v) := rxAckStage ctx sid
  match rxAppTxBump ctx sid v with
  | none => false
  | some ctx => (rxDupAck ctx sid v).2

/-- The socket `tcp_event_rx` rewinds, if it does. -/
def rxRemits (ctx : TcpCtx) : Option Nat :=
  if !isPktlenValid ctx then none
  else if !rxIsIp ctx.pkt then none
  else if rxIsFlagsCtl ctx.pkt then none
  else
    match sockFind ctx with
    | none => none
    | some sid =>
      if (sockOf ctx sid).state ≠ .established then none
      else
        let ctx := rxMarkCe ctx sid
        if !isPaylenValid ctx (rxGetHdrlen ctx.pkt) 0 then none
        else if segmentRemits ctx sid then some sid
        else none

theorem rxRemits_some {ctx : TcpCtx} {sid : Nat} (h : rxRemits ctx = some sid) :
    sockFind ctx = some sid ∧ (sockOf ctx sid).state = .established := by
  unfold rxRemits at h
  split at h
  · cases h
  · split at h
    · cases h
    · split at h
      · cases h
      · cases hf : sockFind ctx with
        | none =>
          rw [hf] at h
          cases h
        | some j =>
          rw [hf] at h
          dsimp only at h
          split at h
          · cases h
          · next hst =>
            split at h
            · cases h
            · split at h
              · cases h
                exact ⟨rfl, Classical.not_not.mp hst⟩
              · cases h

theorem entriesAll_rxSegment (hdrlen : UInt32) (h : EntriesAll q ctx.sched)
    (hp : PacedAdd q (sockOf ctx sid).pace)
    (hre : segmentRemits ctx sid = true → FreeAdd q (sockOf ctx sid).pace) :
    EntriesAll q (rxSegment ctx sid hdrlen).1.sched := by
  have hs := (rxAckStage_spec ctx sid).2.1
  have hpace := samePace_rxAckStage ctx sid
  unfold segmentRemits at hre
  unfold rxSegment
  dsimp only at hre ⊢
  generalize rxAckStage ctx sid = r at hs hpace hre ⊢
  obtain ⟨ctx₁, v⟩ := r
  dsimp only at hs hpace hre ⊢
  have h₁ : EntriesAll q ctx₁.sched := by
    rw [hs]
    exact h
  cases hbump : rxAppTxBump ctx₁ sid v with
  | none => exact h₁
  | some ctx₂ =>
    rw [hbump] at hre
    dsimp only at hre ⊢
    obtain ⟨hpace₂, hs₂⟩ := samePace_rxAppTxBump hbump
    have hpace₂ := hpace.trans hpace₂
    have h₂ : EntriesAll q (rxDupAck ctx₂ sid v).1.sched := by
      refine entriesAll_rxDupAck v ?_ ?_
      · rw [hs₂]
        exact h₁
      · rw [hpace₂.socks]
        exact hre
    have h₃ : EntriesAll q
        (rxSchedTx (rxDupAck ctx₂ sid v).1 sid v.availBefore v.availAfter).sched := by
      refine entriesAll_rxSchedTx h₂ ?_ _ _
      rw [(hpace₂.trans (samePace_rxDupAck ctx₂ sid v)).socks]
      exact hp
    split
    · exact h₃
    · rw [rxPayload_sched]
      exact h₃

/-- **A segment** adds the entry of an established socket, not before it may
send unless the segment rewinds it. -/
theorem entriesAll_tcpEventRx (h : EntriesAll q ctx.sched)
    (hp : ∀ sid, sockFind ctx = some sid → (sockOf ctx sid).state = .established →
      PacedAdd q (sockOf ctx sid).pace)
    (hre : ∀ sid, rxRemits ctx = some sid → FreeAdd q (sockOf ctx sid).pace) :
    EntriesAll q (tcpEventRx ctx).1.sched := by
  have hpunt : (rxPuntCtl ctx).1.sched = ctx.sched := by
    rw [(rxPuntCtl_frame ctx).1]
  unfold rxRemits at hre
  unfold tcpEventRx
  split
  · exact h
  · next h₁ =>
    rw [if_neg h₁] at hre
    split
    · exact h
    · next h₂ =>
      rw [if_neg h₂] at hre
      split
      · rw [hpunt]
        exact h
      · next h₃ =>
        rw [if_neg h₃] at hre
        cases hf : sockFind ctx with
        | none => exact h
        | some sid =>
          rw [hf] at hre
          dsimp only at hre ⊢
          split
          · rw [hpunt]
            exact h
          · next hst =>
            rw [if_neg hst] at hre
            have hpaced := hp sid hf (Classical.not_not.mp hst)
            have hsame := (samePace_rxMarkCe ctx sid).socks sid
            have hmark : EntriesAll q (rxMarkCe ctx sid).sched := by
              rw [rxMarkCe_sched]
              exact h
            unfold rxEstablished
            dsimp only
            split
            · rw [txFillAck_sched]
              exact hmark
            · next hval =>
              rw [if_neg hval] at hre
              refine entriesAll_rxSegment _ hmark (by rw [hsame]; exact hpaced) ?_
              intro hseg
              rw [if_pos hseg] at hre
              rw [hsame]
              exact hre sid rfl

/-! ## Queue entries -/

/-- The socket `tcp_event_deq` rewinds, if it does. -/
def deqRemits (ctx : TcpCtx) : Option Nat :=
  if !isQeValid ctx then none
  else
    match ctx.qe with
    | .txRetransmit sockId txSeq txPending =>
      if !isQeCtlValid ctx then none
      else
        match sockMapLookup ctx sockId with
        | none => none
        | some sid =>
          if deqIsRetransmitStale (sockOf ctx sid) txSeq txPending then none else some sid
    | _ => none

theorem sockMapLookup_some {ctx : TcpCtx} {sockId : UInt32} {sid : Nat}
    (h : sockMapLookup ctx sockId = some sid) :
    sockId.toNat = sid ∧ sid < ctx.maps.sockNelems := by
  unfold sockMapLookup at h
  split at h
  · cases h
  · next hlt =>
    cases h
    exact ⟨rfl, Nat.lt_of_not_le hlt⟩

theorem deqRemits_some {ctx : TcpCtx} {sid : Nat} (h : deqRemits ctx = some sid) :
    ∃ sockId txSeq txPending, ctx.qe = .txRetransmit sockId txSeq txPending ∧
      sockId.toNat = sid ∧ sid < ctx.maps.sockNelems ∧
      deqIsRetransmitStale (sockOf ctx sid) txSeq txPending = false := by
  unfold deqRemits at h
  split at h
  · cases h
  · split at h
    · next sockId txSeq txPending hqe =>
      split at h
      · cases h
      · cases hl : sockMapLookup ctx sockId with
        | none =>
          rw [hl] at h
          cases h
        | some j =>
          rw [hl] at h
          dsimp only at h
          split at h
          · cases h
          · next hstale =>
            cases h
            obtain ⟨hj, hlt⟩ := sockMapLookup_some hl
            exact ⟨sockId, txSeq, txPending, hqe, hj, hlt, Bool.eq_false_iff.mpr hstale⟩
    · cases h

/-- **A queue entry** adds the entry of the socket it names, not before the
socket may send unless it is a retransmit command. -/
theorem entriesAll_tcpEventDeq (h : EntriesAll q ctx.sched)
    (hp : ∀ sockId txPort txIp txAvail, ctx.qe = .bumpChamTx sockId txPort txIp txAvail →
      sockId.toNat < ctx.maps.sockNelems → PacedAdd q (sockOf ctx sockId.toNat).pace)
    (hre : ∀ sid, deqRemits ctx = some sid → FreeAdd q (sockOf ctx sid).pace) :
    EntriesAll q (tcpEventDeq ctx).1.sched := by
  unfold deqRemits at hre
  unfold tcpEventDeq
  split
  · exact h
  · next hvalid =>
    rw [if_neg hvalid] at hre
    cases hqe : ctx.qe with
    | bumpChamTx sockId txPort txIp txAvail =>
      dsimp only
      unfold deqHandleBumpTx
      split
      · exact h
      · cases hl : sockMapLookup ctx sockId with
        | none => exact h
        | some sid =>
          obtain ⟨rfl, hlt⟩ := sockMapLookup_some hl
          have hpaced := hp sockId txPort txIp txAvail hqe hlt
          generalize hbumped : deqSockBumpTx (sockOf ctx sockId.toNat) txPort txIp txAvail = s
          have hset : EntriesAll q (setSock ctx sockId.toNat s).sched := h
          have hs : (sockOf (setSock ctx sockId.toNat s) sockId.toNat).pace =
              (sockOf ctx sockId.toNat).pace := by
            rw [sockOf_setSock, ← hbumped]
            rfl
          have hadd := entriesAll_paced hset (by rw [hs]; exact hpaced) txAvail
          dsimp only
          rw [hbumped, (samePace_txSchedTsc _ sockId.toNat).id]
          split
          · exact hadd
          · exact hadd
    | bumpChamRx sockId rxHead =>
      dsimp only
      unfold deqHandleBumpRx
      split
      · exact h
      · cases sockMapLookup ctx sockId with
        | none => exact h
        | some sid =>
          dsimp only
          split
          · rw [txFillAck_sched]
            exact h
          · exact h
    | ctlTx =>
      dsimp only
      rw [(deqHandleCtlTx_frame ctx).2]
      exact h
    | txRetransmit sockId txSeq txPending =>
      rw [hqe] at hre
      dsimp only at hre ⊢
      unfold deqHandleRetransmit
      split
      · exact h
      · next hctl =>
        rw [if_neg hctl] at hre
        cases hl : sockMapLookup ctx sockId with
        | none => exact h
        | some sid =>
          rw [hl] at hre
          dsimp only at hre ⊢
          split
          · exact h
          · next hstale =>
            rw [if_neg hstale] at hre
            exact entriesAll_remit h (hre sid rfl)
    | _ => exact h

/-! ## The scheduler event -/

/-- `tx_ready_tsc` after `tx_sock_sched_next` on a packet of `len` bytes. -/
def nextReady (clk : Clock) (rate len : UInt32) (nowTsc : UInt64) : UInt64 :=
  if rate = 0 then nowTsc else nowTsc + rateDelayTsc clk len rate

/-- Only socket `sid` differs, and only in when it may send next. -/
structure ReadyAt (a b : TcpCtx) (sid : Nat) (ready : UInt64) : Prop where
  self : (sockOf b sid).pace = { (sockOf a sid).pace with ready }
  others : ∀ i, i ≠ sid → (sockOf b i).pace = (sockOf a i).pace
  nelems : b.maps.sockNelems = a.maps.sockNelems
  cycles : b.clk.cyclesPerUs = a.clk.cyclesPerUs

theorem SamePace.readyAt {a b c : TcpCtx} {ready : UInt64} (h₁ : SamePace a b)
    (h₂ : ReadyAt b c sid ready) : ReadyAt a c sid ready where
  self := by rw [h₂.self, h₁.socks]
  others := fun i hi => (h₂.others i hi).trans (h₁.socks i)
  nelems := h₂.nelems.trans h₁.nelems
  cycles := h₂.cycles.trans h₁.cycles

theorem ReadyAt.same {a b c : TcpCtx} {ready : UInt64} (h₁ : ReadyAt a b sid ready)
    (h₂ : SamePace b c) : ReadyAt a c sid ready where
  self := (h₂.socks sid).trans h₁.self
  others := fun i hi => (h₂.socks i).trans (h₁.others i hi)
  nelems := h₂.nelems.trans h₁.nelems
  cycles := h₂.cycles.trans h₁.cycles

/-- Whatever the time of the next packet does not decide is the same. -/
theorem ReadyAt.same_but {a b : TcpCtx} {ready : UInt64} (h : ReadyAt a b sid ready) (i : Nat) :
    (sockOf b i).id = (sockOf a i).id ∧ (sockOf b i).state = (sockOf a i).state ∧
      (sockOf b i).ccRate = (sockOf a i).ccRate := by
  by_cases hi : i = sid
  · rw [hi]
    exact ⟨(congrArg PaceFields.id h.self :), (congrArg PaceFields.state h.self :),
      (congrArg PaceFields.rate h.self :)⟩
  · have hs := h.others i hi
    exact ⟨(congrArg PaceFields.id hs :), (congrArg PaceFields.state hs :),
      (congrArg PaceFields.rate hs :)⟩

theorem txSockSchedNext_pace (clk : Clock) (s : TcpSock) (pktlen : UInt32) (nowTsc : UInt64) :
    (txSockSchedNext clk s pktlen nowTsc).pace =
      { s.pace with ready := nextReady clk s.ccRate pktlen nowTsc } := by
  unfold txSockSchedNext nextReady
  by_cases h : s.ccRate = 0
  · simp only [if_pos h, TcpSock.pace]
  · simp only [if_neg h, TcpSock.pace]

/-- The payload half of the event sets the time of the next packet, and the
entry it adds is not due before. -/
theorem txSendPayload_pace (ctx : TcpCtx) (sid : Nat) (hdrlen txBump : UInt32)
    (nowTsc : UInt64) {ready : UInt64}
    (hr : nextReady ctx.clk (sockOf ctx sid).ccRate (hdrlen + txBump) nowTsc = ready) :
    ReadyAt ctx (txSendPayload ctx sid hdrlen txBump nowTsc).1 sid ready ∧
    (EntriesAll q ctx.sched → PacedAdd q { (sockOf ctx sid).pace with ready } →
      EntriesAll q (txSendPayload ctx sid hdrlen txBump nowTsc).1.sched) := by
  unfold txSendPayload
  rw [txCopyPayload_eq ctx]
  dsimp only
  generalize (txCopyPayload ctx (sockOf ctx sid) hdrlen txBump).pkt = pkt
  have hpace := txSockSchedNext_pace ctx.clk (txSockTxBump (sockOf ctx sid) txBump)
    (hdrlen + txBump) nowTsc
  have hnext : nextReady ctx.clk (txSockTxBump (sockOf ctx sid) txBump).ccRate (hdrlen + txBump)
      nowTsc = ready := hr
  rw [hnext] at hpace
  have hsock : sockOf { ctx with pkt } sid = sockOf ctx sid := rfl
  rw [hsock]
  generalize txSockSchedNext ctx.clk (txSockTxBump (sockOf ctx sid) txBump)
    (hdrlen + txBump) nowTsc = s at hpace ⊢
  generalize hset : setSock { ctx with pkt } sid s = ctx₁
  have hself : (sockOf ctx₁ sid).pace = { (sockOf ctx sid).pace with ready } := by
    rw [← hset, sockOf_setSock, hpace]
    rfl
  have h₁ : ReadyAt ctx ctx₁ sid ready := by
    refine ⟨hself, fun i hi => ?_, ?_, ?_⟩
    · rw [← hset, sockOf_setSock_ne _ s hi]
      rfl
    · rw [← hset]
      rfl
    · rw [← hset]
      rfl
  have hid : s.id = (sockOf ctx₁ sid).id := by
    rw [← hset, sockOf_setSock]
  have h₂ : EntriesAll q ctx.sched → EntriesAll q ctx₁.sched := by
    intro h
    rw [← hset]
    exact h
  split
  · have hadd : ∀ avail, EntriesAll q ctx.sched →
        PacedAdd q { (sockOf ctx sid).pace with ready } →
        EntriesAll q (ctxSchedAdd (txSchedTsc ctx₁ sid).2 s.id (txSchedTsc ctx₁ sid).1
          avail).1.sched := by
      intro avail h hp
      rw [hid]
      exact entriesAll_paced (h₂ h) (by rw [hself]; exact hp) avail
    have h₃ := h₁.same (samePace_txSchedTsc ctx₁ sid)
    split
    · exact ⟨h₃.same (samePace_of_maps rfl rfl), hadd _⟩
    · exact ⟨h₃.same (samePace_of_maps rfl rfl), hadd _⟩
  · exact ⟨h₁, fun h _ => h₂ h⟩

theorem nextReady_congr {clk clk' : Clock} (h : clk'.cyclesPerUs = clk.cyclesPerUs)
    (rate len : UInt32) (nowTsc : UInt64) :
    nextReady clk' rate len nowTsc = nextReady clk rate len nowTsc := by
  unfold nextReady rateDelayTsc
  rw [h]

/-- A socket whose entry is due sends a header, or a header and bytes that
move the time of its next packet. -/
theorem txSend_pace {ctx : TcpCtx} {sid : Nat} (nowTsc : UInt64)
    (h₁ : 1472 ≤ ctx.pktRoom) (h₂ : ctx.pktRoom ≤ 1500) :
    ((txSend ctx sid nowTsc).2 = .ok 52 ∧ SamePace ctx (txSend ctx sid nowTsc).1 ∧
      (txSend ctx sid nowTsc).1.sched = ctx.sched) ∨
    ∃ n, (txSend ctx sid nowTsc).2 = .ok n ∧ 52 < n ∧ n ≤ 1500 ∧ ∃ ready,
      ready = nextReady ctx.clk (sockOf ctx sid).ccRate (UInt32.ofNat n) nowTsc ∧
      ReadyAt ctx (txSend ctx sid nowTsc).1 sid ready ∧
      ∀ q, EntriesAll q ctx.sched → PacedAdd q { (sockOf ctx sid).pace with ready } →
        EntriesAll q (txSend ctx sid nowTsc).1.sched := by
  generalize hbump : txGetTxBump (sockOf ctx sid) (txGetMaxPaylen ctx txGetHdrlen) = txBump
  rw [txSend_eq nowTsc hbump h₁ h₂]
  have hfill := samePace_txFillHdr ctx sid txGetHdrlen txBump
  by_cases hpos : txBump > 0
  · -- what is sent fits the packet, so no length wraps around
    have hle : txBump.toNat ≤ ctx.pktRoom - 52 := by
      have hmin := toNat_txGetTxBump (sockOf ctx sid) (txGetMaxPaylen ctx txGetHdrlen)
      rw [hbump, toNat_txGetMaxPaylen h₁ h₂] at hmin
      omega
    have hpos' := UInt32.lt_iff_toNat_lt.mp hpos
    have hlen : (txGetHdrlen + txBump).toNat = 52 + txBump.toNat := by
      have h52 : txGetHdrlen.toNat = 52 := rfl
      rw [UInt32.toNat_add, h52]
      omega
    rw [if_pos hpos]
    right
    have hret := (txSendPayload_spec (txFillHdr ctx sid txGetHdrlen txBump) sid txGetHdrlen
      txBump nowTsc).2.2.1
    refine ⟨_, hret, ?_, ?_, _, ?_, hfill.readyAt (txSendPayload_pace (q := fun _ _ => True)
      (txFillHdr ctx sid txGetHdrlen txBump) sid txGetHdrlen txBump nowTsc rfl).1, ?_⟩
    · rw [hlen]
      have hz : (0 : UInt32).toNat = 0 := rfl
      omega
    · omega
    · rw [nextReady_congr hfill.cycles, hfill.rate, UInt32.ofNat_toNat]
    · intro q hq hp
      refine (txSendPayload_pace (txFillHdr ctx sid txGetHdrlen txBump) sid txGetHdrlen txBump
        nowTsc rfl).2 ?_ ?_
      · rw [txFillHdr_sched]
        exact hq
      · rw [hfill.socks]
        exact hp
  · rw [if_neg hpos]
    have hz : txBump = 0 := UInt32.le_zero_iff.mp (UInt32.not_lt.mp hpos)
    left
    refine ⟨?_, hfill, txFillHdr_sched _ _ _ _⟩
    rw [hz]
    rfl

/-- A packet with payload that left a socket, and the clock as the event
read it first. -/
structure DataPacket where
  sock : Nat
  tsc : UInt64
  /-- The length transmitted, headers included. -/
  len : Nat
  deriving DecidableEq

/-- What `tcp_event_sched` sends, unless it is a header alone. -/
def schedData (ctx : TcpCtx) : Option DataPacket :=
  match schedHead ctx.sched, (tcpEventSched ctx).2 with
  | some entry, .ok n =>
    if txGetHdrlen.toNat < n then
      some { sock := entry.id.toNat, tsc := (clockRdtsc ctx.clk).1, len := n }
    else none
  | _, _ => none

/-- **The scheduler event**: without a data packet no socket's pacing and no
entry's time changes; with one, the entry that was due is taken off, and the
socket's next entry is not due before the packet's delay is over. -/
theorem tcpEventSched_pace {ctx : TcpCtx} {l : List UInt32} (hrep : SchedRep ctx.sched l)
    (h₁ : 1472 ≤ ctx.pktRoom) (h₂ : ctx.pktRoom ≤ 1500) :
    (schedData ctx = none ∧ SamePace ctx (tcpEventSched ctx).1 ∧
      ∀ q, EntriesAll q ctx.sched → EntriesAll q (tcpEventSched ctx).1.sched) ∨
    ∃ d, schedData ctx = some d ∧ d.sock < ctx.maps.sockNelems ∧ d.len ≤ 1500 ∧ ∃ ready,
      ready = nextReady ctx.clk (sockOf ctx d.sock).ccRate (UInt32.ofNat d.len) d.tsc ∧
      ReadyAt ctx (tcpEventSched ctx).1 d.sock ready ∧
      (∀ q, EntriesAll q ctx.sched → ∃ x prio, x.toNat = d.sock ∧ prio ≤ d.tsc ∧ q x prio) ∧
      ∀ q, EntriesAll (fun x prio => x.toNat ≠ d.sock → q x prio) ctx.sched →
        PacedAdd q { (sockOf ctx d.sock).pace with ready } →
        EntriesAll q (tcpEventSched ctx).1.sched := by
  unfold schedData
  unfold tcpEventSched
  cases he : schedHead ctx.sched with
  | none => exact Or.inl ⟨rfl, SamePace.refl ctx, fun _ h => h⟩
  | some entry =>
    dsimp only
    have hclk : SamePace ctx { ctx with clk := (clockRdtsc ctx.clk).2 } :=
      samePace_of_maps rfl rfl
    have hpop : SamePace ctx
        { ctx with clk := (clockRdtsc ctx.clk).2, sched := (schedPop ctx.sched).1 } :=
      samePace_of_maps rfl rfl
    by_cases hdue : entry.priority > (clockRdtsc ctx.clk).1
    · rw [if_pos hdue]
      exact Or.inl ⟨rfl, hclk, fun _ h => h⟩
    · have hle : entry.priority ≤ (clockRdtsc ctx.clk).1 := UInt64.not_lt.mp hdue
      have hret : (schedPop ctx.sched).2 = 0 := by
        have hall : EntriesAll (fun _ _ => True) ctx.sched := ⟨l, hrep, fun _ _ => trivial⟩
        exact (hall.head he).2.1
      have hleft : ∀ q, EntriesAll q ctx.sched → EntriesAll q (schedPop ctx.sched).1 :=
        fun q h => (h.head he).2.2.mono (fun _ _ _ hx => hx.1)
      rw [if_neg hdue, if_neg (by rw [hret]; decide)]
      cases hl : sockMapLookup _ entry.id with
      | none => exact Or.inl ⟨rfl, hpop, hleft⟩
      | some sid =>
        obtain ⟨rfl, hlt⟩ := sockMapLookup_some hl
        dsimp only
        rcases @txSend_pace
            { ctx with clk := (clockRdtsc ctx.clk).2, sched := (schedPop ctx.sched).1 }
            entry.id.toNat (clockRdtsc ctx.clk).1 h₁ h₂ with
          ⟨hr, hsame, hs⟩ | ⟨n, hr, hgt, hn, ready, hready, hat, hadd⟩
        · rw [hr]
          refine Or.inl ⟨rfl, hpop.trans hsame, ?_⟩
          intro q h
          rw [hs]
          exact hleft q h
        · rw [hr]
          have h52 : txGetHdrlen.toNat < n := hgt
          right
          refine ⟨_, if_pos h52, hlt, hn, ready, hready, hpop.readyAt hat, ?_, ?_⟩
          · intro q h
            exact ⟨entry.id, entry.priority, rfl, hle, (h.head he).1⟩
          · intro q h hp
            refine hadd q ?_ hp
            -- the popped entry was the only one of its id
            refine (h.head he).2.2.mono (fun x _ _ hx => hx.1 ?_)
            exact fun e => hx.2 (UInt32.toNat_inj.mp e)

end entries

end Chamelio.Tcp
