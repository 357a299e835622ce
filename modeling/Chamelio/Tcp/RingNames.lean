import Chamelio.Tcp.SlowReqSpec

/-!
# What the ready rings of listeners name

A listener's ring holds ids of sockets, put there when a child is ready and
taken out when it is accepted or closed. Whatever the applications ask for, a
cell of an active listener is empty or names a socket that was allocated.
`Cells` says what a handler does to the cells, and composes; it is proved for
each handler along the lines of `Steps`.
-/

namespace Chamelio.Tcp

open Chamelio.Lib Chamelio.Util Chamelio.Pkt Chamelio.Fast

/-- Every cell of an active listener is empty or names an allocated socket. -/
def RingNames (ctx : TcpSlowCtx) : Prop :=
  ∀ k pos, (ctx.listeners k).active = true → (ctx.listeners k).readySids pos = idInvalid ∨
    ((ctx.listeners k).readySids pos).toNat < ctx.nSocks

/-- Where a cell's contents come from. -/
structure Cells (a b : TcpSlowCtx) : Prop where
  nSocks : a.nSocks ≤ b.nSocks
  cell : ∀ k pos, (b.listeners k).active = true →
    (b.listeners k).readySids pos = idInvalid ∨
      ((b.listeners k).readySids pos).toNat < b.nSocks ∨
      ((a.listeners k).active = true ∧
        (b.listeners k).readySids pos = (a.listeners k).readySids pos)

/-- Rings that get no other names keep naming sockets. -/
theorem RingNames.cells {a b : TcpSlowCtx} (h : RingNames a) (hc : Cells a b) : RingNames b := by
  intro k pos hact
  rcases hc.cell k pos hact with he | hlt | ⟨hold, he⟩
  · exact .inl he
  · exact .inr hlt
  · rw [he]
    exact (h k pos hold).imp_right fun hlt => Nat.lt_of_lt_of_le hlt hc.nSocks

section

variable {a b c : TcpSlowCtx}

theorem Cells.refl (a : TcpSlowCtx) : Cells a a :=
  ⟨Nat.le_refl _, fun _ _ hact => .inr (.inr ⟨hact, rfl⟩)⟩

/-- Steps one after the other. -/
theorem Cells.trans (h₁ : Cells a b) (h₂ : Cells b c) : Cells a c := by
  refine ⟨Nat.le_trans h₁.nSocks h₂.nSocks, fun k pos hact => ?_⟩
  rcases h₂.cell k pos hact with he | hlt | ⟨hold, he⟩
  · exact .inl he
  · exact .inr (.inl hlt)
  · rw [he]
    rcases h₁.cell k pos hold with he | hlt | hold
    · exact .inl he
    · exact .inr (.inl (Nat.lt_of_lt_of_le hlt h₂.nSocks))
    · exact .inr (.inr hold)

/-- Nothing but the listeners has rings. -/
theorem cells_of_listeners (hn : a.nSocks ≤ b.nSocks) (hl : b.listeners = a.listeners) :
    Cells a b := by
  refine ⟨hn, fun k pos hact => .inr (.inr ?_)⟩
  rw [hl] at hact ⊢
  exact ⟨hact, rfl⟩

/-- Most helpers leave the listeners alone. -/
theorem Same.cells (h : Same a b) : Cells a b :=
  cells_of_listeners (Nat.le_of_eq h.nSocks.symm) h.listeners

theorem Failed.cells {sid : Nat} (h : Failed a b sid) : Cells a b :=
  cells_of_listeners (Nat.le_of_eq h.nSocks.symm) h.listeners

/-- A listener with cells of the old one, emptied ones, or none at all. -/
theorem cells_setListener (a : TcpSlowCtx) (k : Nat) {l : Listener}
    (h : l.active = true → ∀ pos, l.readySids pos = idInvalid ∨
      (l.readySids pos).toNat < a.nSocks ∨
      ((a.listeners k).active = true ∧ l.readySids pos = (a.listeners k).readySids pos)) :
    Cells a (a.setListener k l) := by
  refine ⟨Nat.le_refl _, fun j pos hact => ?_⟩
  unfold TcpSlowCtx.setListener at hact ⊢
  dsimp only at hact ⊢
  by_cases hj : j = k
  · rw [if_pos hj] at hact ⊢
    rw [hj]
    exact h hact pos
  · rw [if_neg hj] at hact ⊢
    exact .inr (.inr ⟨hact, rfl⟩)

end

/-- Giving back a place in the backlog is no business of the ring. -/
theorem listenerBacklogPut_ring (l : Listener) :
    (listenerBacklogPut l).active = l.active ∧ (listenerBacklogPut l).readySids = l.readySids := by
  unfold listenerBacklogPut
  split
  · exact ⟨rfl, rfl⟩
  · exact ⟨rfl, rfl⟩

/-- Detaching a child empties at most one cell. -/
theorem detached_cells (l : Listener) (sockId : UInt32) :
    (detached l sockId).active = l.active ∧ ∀ pos,
      (detached l sockId).readySids pos = idInvalid ∨
        (detached l sockId).readySids pos = l.readySids pos := by
  unfold detached
  rw [(listenerBacklogPut_ring _).1, (listenerBacklogPut_ring _).2]
  split
  · split
    · exact ⟨rfl, fun _ => .inr rfl⟩
    · next i _ =>
      refine ⟨rfl, fun pos => ?_⟩
      show (if pos = i then idInvalid else l.readySids pos) = _ ∨
        (if pos = i then idInvalid else l.readySids pos) = _
      split
      · exact .inl rfl
      · exact .inr rfl
  · exact ⟨rfl, fun _ => .inr rfl⟩

section closing

variable (ctx : TcpSlowCtx) (sid : Nat)

/-- A close empties a cell at most. -/
theorem tcpSockCloseFinal_cells : Cells ctx (tcpSockCloseFinal ctx sid) := by
  refine ⟨Nat.le_of_eq (tcpSockCloseFinal_nSocks ctx sid).symm, fun k pos hact => ?_⟩
  rw [tcpSockCloseFinal_listeners, tcpListenerDetachChild_listeners] at hact ⊢
  split at hact
  · next hk =>
    rw [if_pos hk]
    obtain ⟨hsame, hcell⟩ := detached_cells (ctx.listeners k) (ctx.sock sid).id
    rw [hsame] at hact
    rcases hcell pos with he | he
    · exact .inl he
    · exact .inr (.inr ⟨hact, he⟩)
  · next hk =>
    rw [if_neg hk]
    exact .inr (.inr ⟨hact, rfl⟩)

/-- Timers have no rings. -/
theorem tcpTimeoutArm_cells (kind : RetxKind) : Cells ctx (tcpTimeoutArm ctx sid kind).1 := by
  unfold tcpTimeoutArm
  dsimp only
  have hcancel := (same_tcpTimeoutCancel ctx sid).cells
  generalize tcpTimeoutCancel ctx sid = b at hcancel ⊢
  have hmeta : Cells b (b.setMeta sid
      { b.tcpSockMeta sid with retxKind := kind, retxLeft := tcpRetxRetries }) :=
    cells_of_listeners (Nat.le_refl _) rfl
  exact (hcancel.trans hmeta).trans (same_sockRetxSched _ sid).cells

theorem sockRetxExpire_cells : Cells ctx (sockRetxExpire ctx sid) := by
  unfold sockRetxExpire
  dsimp only
  split
  · exact (tcpSockConnectFail_failed ctx sid _).cells
  · exact (same_ctlPktEnqueue ctx _).cells.trans (tcpSockCloseFinal_cells _ sid)
  · exact (same_ctlPktEnqueue ctx _).cells.trans (tcpSockCloseFinal_cells _ sid)
  · exact Cells.refl ctx

/-- A timer sends again, or closes. -/
theorem sockOnTimeout_cells : Cells ctx (sockOnTimeout ctx sid) := by
  unfold sockOnTimeout
  split
  · exact sockRetxExpire_cells ctx sid
  · have hs := (same_sockRetxTx ctx sid).cells
    generalize sockRetxTx ctx sid = r at hs ⊢
    obtain ⟨ctx₁, ok⟩ := r
    dsimp only at hs ⊢
    split
    · exact hs.trans (sockRetxExpire_cells _ sid)
    · have hm : Cells ctx₁ (ctx₁.setMeta sid
          { ctx₁.tcpSockMeta sid with retxLeft := (ctx₁.tcpSockMeta sid).retxLeft - 1 }) :=
        cells_of_listeners (Nat.le_refl _) rfl
      have hs₂ := (hs.trans hm).trans (same_sockRetxSched _ sid).cells
      generalize sockRetxSched _ sid = r at hs₂ ⊢
      obtain ⟨ctx₂, ok₂⟩ := r
      dsimp only at hs₂ ⊢
      split
      · exact hs₂.trans (sockRetxExpire_cells _ sid)
      · exact hs₂

theorem tcpTimeoutFire_cells (entry : Nat) : Cells ctx (tcpTimeoutFire ctx entry sid) := by
  have hs := (same_timerPopped ctx entry sid).cells
  show Cells ctx (if ((timerPopped ctx entry sid).tcpSockMeta sid).retxKind = .none then
    timerPopped ctx entry sid else sockOnTimeout (timerPopped ctx entry sid) sid)
  split
  · exact hs
  · exact hs.trans (sockOnTimeout_cells _ sid)

theorem sockShutdownStart_cells : Cells ctx (sockShutdownStart ctx sid) := by
  unfold sockShutdownStart
  dsimp only
  have hset : Cells ctx (ctx.setSock sid
      { ctx.sock sid with flags := (ctx.sock sid).flags ||| sockFlagShut, state := .finWait1 }) :=
    cells_of_listeners (Nat.le_refl _) rfl
  generalize ctx.setSock sid _ = ctx₁ at hset ⊢
  have hs := hset.trans (same_tcpCtlTx ctx₁ sid (tcpFin ||| tcpAck)).cells
  generalize tcpCtlTx ctx₁ sid _ = r at hs ⊢
  obtain ⟨ctx₂, ok⟩ := r
  dsimp only at hs ⊢
  split
  · exact hs.trans (tcpSockCloseFinal_cells _ sid)
  · have hs₂ := hs.trans (tcpTimeoutArm_cells ctx₂ sid .fin)
    generalize tcpTimeoutArm ctx₂ sid .fin = r at hs₂ ⊢
    obtain ⟨ctx₃, ok₃⟩ := r
    dsimp only at hs₂ ⊢
    split
    · exact hs₂.trans (tcpSockCloseFinal_cells _ sid)
    · exact hs₂

/-- A shutdown sends a FIN, or closes. -/
theorem appShutdown_cells (how : Nat) : Cells ctx (appShutdown ctx sid how) := by
  unfold appShutdown
  split
  · exact Cells.refl ctx
  · split
    · exact Cells.refl ctx
    · exact sockShutdownStart_cells ctx sid

theorem sockAbortOpen_cells : Cells ctx (sockAbortOpen ctx sid) := by
  unfold sockAbortOpen
  dsimp only
  split
  · exact (same_tcpCtlTx ctx sid _).cells.trans (tcpSockCloseFinal_cells _ sid)
  · exact tcpSockCloseFinal_cells ctx sid

/-- A child that goes with its listener empties its cell. -/
theorem abortChild_cells (listenerId : UInt32) : Cells ctx (abortChild listenerId ctx sid) := by
  unfold abortChild
  split
  · exact Cells.refl ctx
  · split
    · exact Cells.refl ctx
    · dsimp only
      split
      · exact (same_tcpCtlTx ctx sid _).cells.trans (tcpSockCloseFinal_cells _ sid)
      · exact tcpSockCloseFinal_cells ctx sid

/-- All of them, by the loop. -/
theorem abortChildren_cells (listenerId : UInt32) (l : List Nat) (ctx : TcpSlowCtx) :
    Cells ctx (l.foldl (abortChild listenerId) ctx) := by
  induction l generalizing ctx with
  | nil => exact Cells.refl ctx
  | cons i l ih => exact (abortChild_cells ctx i listenerId).trans (ih _)

/-- The listener's own ring is thrown away. -/
theorem sockCloseListen_cells : Cells ctx (sockCloseListen ctx sid) := by
  unfold sockCloseListen
  dsimp only
  have h₁ := (same_tcpListenerRemove ctx (ctx.sock sid).localPort (ctx.sock sid).id).cells
  generalize tcpListenerRemove ctx _ _ = ctx₁ at h₁ ⊢
  have h₂ := h₁.trans (abortChildren_cells (ctx₁.sock sid).id (List.range ctx₁.nSocks) ctx₁)
  refine (h₂.trans ?_).trans (tcpSockCloseFinal_cells _ sid)
  exact cells_setListener _ _ fun hact => absurd hact Bool.false_ne_true

/-- Each branch of `app_close` closes, aborts or shuts. -/
theorem appClose_cells : Cells ctx (appClose ctx sid) := by
  unfold appClose
  split
  · exact Cells.refl ctx
  · split
    · exact sockCloseListen_cells ctx sid
    · exact sockAbortOpen_cells ctx sid
    · exact sockAbortOpen_cells ctx sid
    · exact sockAbortOpen_cells ctx sid
    · exact sockShutdownStart_cells ctx sid
    · exact tcpSockCloseFinal_cells ctx sid

end closing

/-! ## Accepting -/

section accepting

/-- The first cell is emptied. -/
theorem ringPop_cells (ctx : TcpSlowCtx) (k : Nat) :
    Cells ctx (ctx.setListener k (ringPop (ctx.listeners k))) := by
  refine cells_setListener ctx k fun hact pos => ?_
  show (if pos = (ctx.listeners k).readyHead.toNat then idInvalid
      else (ctx.listeners k).readySids pos) = _ ∨
    (if pos = (ctx.listeners k).readyHead.toNat then idInvalid
      else (ctx.listeners k).readySids pos : UInt32).toNat < _ ∨ _ ∧
    (if pos = (ctx.listeners k).readyHead.toNat then idInvalid
      else (ctx.listeners k).readySids pos) = _
  split
  · exact .inl rfl
  · exact .inr (.inr ⟨hact, rfl⟩)

/-- The counter is no cell. -/
theorem listenerBacklogPut_cells (ctx : TcpSlowCtx) (k : Nat) :
    Cells ctx (ctx.setListener k (listenerBacklogPut (ctx.listeners k))) := by
  refine cells_setListener ctx k fun hact pos => .inr (.inr ?_)
  rw [(listenerBacklogPut_ring _).1] at hact
  exact ⟨hact, by rw [(listenerBacklogPut_ring _).2]⟩

/-- A cell whose socket waits no more: its mark and its place are given up. -/
theorem ringPop_stale_cells (ctx : TcpSlowCtx) (k sid : Nat) (m : SockMeta) :
    Cells ctx (((ctx.setListener k (ringPop (ctx.listeners k))).setMeta sid m).setListener k
      (listenerBacklogPut (ringPop (ctx.listeners k)))) := by
  have h₁ := ringPop_cells ctx k
  -- the listener is stored once more, with a place given back
  generalize hb : ctx.setListener k (ringPop (ctx.listeners k)) = b at h₁ ⊢
  have hl : b.listeners k = ringPop (ctx.listeners k) := by
    rw [← hb]
    exact if_pos rfl
  rw [← hl]
  have hmeta : Cells b (b.setMeta sid m) := cells_of_listeners (Nat.le_refl _) rfl
  exact (h₁.trans hmeta).trans (listenerBacklogPut_cells _ k)

/-- Pops move the head and clear cells. -/
theorem readyPopLoop_cells (listenerId : UInt32) (fuel : Nat) (ctx : TcpSlowCtx) :
    Cells ctx (readyPopLoop listenerId fuel ctx).1 := by
  induction fuel generalizing ctx with
  | zero => exact Cells.refl ctx
  | succ fuel ih =>
    rw [readyPopLoop_succ]
    dsimp only
    have h₁ := ringPop_cells ctx listenerId.toNat
    split
    · exact Cells.refl ctx
    · split
      · exact h₁.trans (ih _)
      · split
        · exact h₁.trans (ih _)
        · split
          · exact (ringPop_stale_cells ctx _ _ _).trans (ih _)
          · exact h₁

/-- An accept pops, and hands out what it got. -/
theorem appAccept_cells (ctx : TcpSlowCtx) (appId ctxId : UInt8) (sid : Nat)
    (opaquePtr : UInt64) : Cells ctx (appAccept ctx appId ctxId sid opaquePtr) := by
  unfold appAccept
  dsimp only
  split
  · exact (same_appSubmit ctx _ _ _).cells
  · split
    · exact (same_appSubmit ctx _ _ _).cells
    · have hpop := readyPopLoop_cells (ctx.sock sid).id
        (ctx.listeners (ctx.sock sid).id.toNat).readyUsed.toNat ctx
      unfold tcpListenerReadyPop
      generalize readyPopLoop (ctx.sock sid).id _ ctx = r at hpop ⊢
      obtain ⟨ctx₁, child⟩ := r
      cases child with
      | none => exact hpop.trans (same_appSubmit _ _ _ _).cells
      | some j =>
        have hown : Cells ctx₁ (sockAcceptOwn ctx₁ j appId ctxId opaquePtr) :=
          cells_of_listeners (Nat.le_refl _) rfl
        exact ((hpop.trans hown).trans (listenerBacklogPut_cells _ _)).trans
          (same_appSubmit _ _ _ _).cells

end accepting

/-! ## Opening -/

section opening

variable {ctx : TcpSlowCtx} {sid : Nat}

/-- A child that is pushed was allocated. -/
theorem tcpListenerReadyPush_cells (listenerId sockId : UInt32) (hlt : sockId.toNat < ctx.nSocks) :
    Cells ctx (tcpListenerReadyPush ctx listenerId sockId).1 := by
  unfold tcpListenerReadyPush
  dsimp only
  split
  · exact Cells.refl ctx
  · next hpush =>
    refine cells_setListener ctx _ fun hact pos => ?_
    dsimp only
    split
    · exact .inr (.inl hlt)
    · exact .inr (.inr ⟨hact, rfl⟩)

/-- The one step that fills a cell, with the child itself. -/
theorem sockPassiveEstablished_cells (hid : (ctx.sock sid).id.toNat < ctx.nSocks) (rx : TcpRxCtl) :
    Cells ctx (sockPassiveEstablished ctx sid rx).1 := by
  unfold sockPassiveEstablished
  dsimp only
  have hcancel := same_tcpTimeoutCancel ctx sid
  have hsock := tcpTimeoutCancel_sock ctx sid
  generalize tcpTimeoutCancel ctx sid = b at hcancel hsock ⊢
  generalize hs : ({ b.sock sid with
    txRemoteAvail := rx.wnd.toUInt32
    txPending := (b.sock sid).txPending - 1
    txSeq := (b.sock sid).txSeq + 1
    state := .acceptPending } : TcpSock) = s
  have hset : Cells b (b.setSock sid s) := cells_of_listeners (Nat.le_refl _) rfl
  have hsid : ((b.setSock sid s).sock sid).id.toNat < (b.setSock sid s).nSocks := by
    rw [TcpSlowCtx.sock_setSock, ← hs]
    show (b.sock sid).id.toNat < b.nSocks
    rw [hsock, hcancel.nSocks]
    exact hid
  have hpush := (hcancel.cells.trans hset).trans
    (tcpListenerReadyPush_cells ((b.setSock sid s).tcpSockMeta sid).listenerId _ hsid)
  generalize tcpListenerReadyPush _ _ _ = r at hpush ⊢
  obtain ⟨ctx₂, ok⟩ := r
  dsimp only at hpush ⊢
  split
  · exact hpush.trans (tcpSockCloseFinal_cells _ sid)
  · exact hpush

theorem tcpRxSynSent_cells (rx : TcpRxCtl) : Cells ctx (tcpRxSynSent ctx sid rx) := by
  unfold tcpRxSynSent
  split
  · exact (tcpSockConnectFail_failed ctx sid _).cells
  · split
    · exact Cells.refl ctx
    · split
      · exact Cells.refl ctx
      · have hset : Cells (tcpTimeoutCancel ctx sid) (sockActiveEstablished ctx sid rx) :=
          cells_of_listeners (Nat.le_refl _) rfl
        exact (((same_tcpTimeoutCancel ctx sid).cells.trans hset).trans
          (same_tcpCtlTx _ _ _).cells).trans (same_appSubmit _ _ _ _).cells

/-- A child in `SYN_RECV` is pushed, or closed. -/
theorem tcpRxSynRecv_cells (hid : (ctx.sock sid).id.toNat < ctx.nSocks) (rx : TcpRxCtl) :
    Cells ctx (tcpRxSynRecv ctx sid rx) := by
  unfold tcpRxSynRecv
  split
  · exact tcpSockCloseFinal_cells ctx sid
  · split
    · exact (same_tcpCtlTxResend ctx sid _).cells
    · split
      · exact Cells.refl ctx
      · have hp := sockPassiveEstablished_cells hid rx
        generalize sockPassiveEstablished ctx sid rx = r at hp ⊢
        obtain ⟨ctx₁, ok⟩ := r
        dsimp only at hp ⊢
        split
        · exact hp
        · exact hp.trans (same_appSubmit _ _ _ _).cells

/-- A reset or a FIN closes. -/
theorem tcpRxEstablished_cells (rx : TcpRxCtl) : Cells ctx (tcpRxEstablished ctx sid rx) := by
  unfold tcpRxEstablished
  split
  · exact tcpSockCloseFinal_cells ctx sid
  · split
    · have hset : Cells ctx (ctx.setSock sid { ctx.sock sid with rxSeq := rx.seq + 1 }) :=
        cells_of_listeners (Nat.le_refl _) rfl
      exact (hset.trans (same_tcpCtlTx _ _ _).cells).trans (tcpSockCloseFinal_cells _ sid)
    · exact Cells.refl ctx

theorem tcpRxFinWait1_cells (rx : TcpRxCtl) : Cells ctx (tcpRxFinWait1 ctx sid rx) := by
  unfold tcpRxFinWait1
  dsimp only
  have hfin : Cells ctx (if rx.flags &&& tcpFin ≠ 0 then
      (tcpCtlTx (ctx.setSock sid { ctx.sock sid with rxSeq := rx.seq + 1 }) sid tcpAck).1
      else ctx) := by
    split
    · have hset : Cells ctx (ctx.setSock sid { ctx.sock sid with rxSeq := rx.seq + 1 }) :=
        cells_of_listeners (Nat.le_refl _) rfl
      exact hset.trans (same_tcpCtlTx _ _ _).cells
    · exact Cells.refl ctx
  generalize (if rx.flags &&& tcpFin ≠ 0 then
    (tcpCtlTx (ctx.setSock sid { ctx.sock sid with rxSeq := rx.seq + 1 }) sid tcpAck).1
    else ctx) = b at hfin ⊢
  have hclose := (hfin.trans (same_tcpTimeoutCancel b sid).cells).trans
    (tcpSockCloseFinal_cells _ sid)
  split
  · exact hclose
  · split
    · exact hclose
    · exact hfin

/-- The segment goes to the handler of the state. -/
theorem sockCtlRx_cells (hid : (ctx.sock sid).id.toNat < ctx.nSocks) (rx : TcpRxCtl) :
    Cells ctx (sockCtlRx ctx sid rx) := by
  unfold sockCtlRx
  split
  · exact tcpRxSynSent_cells rx
  · exact tcpRxSynRecv_cells hid rx
  · exact tcpRxEstablished_cells rx
  · exact tcpRxEstablished_cells rx
  · exact tcpRxFinWait1_cells rx
  · exact Cells.refl ctx

theorem tcpFlowInsert_cells {b : TcpSlowCtx} (h : tcpFlowInsert ctx sid = some b) :
    Cells ctx b := by
  obtain ⟨s, -, -, rfl⟩ := tcpFlowInsert_eq_some h
  exact cells_of_listeners (Nat.le_refl _) rfl

theorem listenAnswer_cells (listenId : UInt32) (rx : TcpRxCtl) :
    Cells ctx (listenAnswer ctx listenId sid rx) := by
  unfold listenAnswer
  dsimp only
  have hl : Cells ctx (ctx.setListener listenId.toNat
      { ctx.listeners listenId.toNat with
        backlogUsed := (ctx.listeners listenId.toNat).backlogUsed + 1 }) :=
    cells_setListener ctx _ fun hact pos => .inr (.inr ⟨hact, rfl⟩)
  generalize ctx.setListener listenId.toNat _ = ctx₁ at hl ⊢
  have hs := hl.trans (same_tcpCtlTx ctx₁ sid (synackFlags (ctx₁.sock sid))).cells
  generalize tcpCtlTx ctx₁ sid _ = r at hs ⊢
  obtain ⟨ctx₂, ok⟩ := r
  dsimp only at hs ⊢
  split
  · exact (hs.trans (tcpSockCloseFinal_cells _ sid)).trans (same_replyRst _ _ _ _).cells
  · have hs₃ := hs.trans (tcpTimeoutArm_cells ctx₂ sid .synack)
    generalize tcpTimeoutArm ctx₂ sid .synack = r at hs₃ ⊢
    obtain ⟨ctx₃, ok₃⟩ := r
    dsimp only at hs₃ ⊢
    split
    · exact (hs₃.trans (same_replyRst _ _ _ _).cells).trans (tcpSockCloseFinal_cells _ sid)
    · exact hs₃

/-- A new child is in no ring yet. -/
theorem listenChild_cells (listenSid : Nat) (rx : TcpRxCtl) :
    Cells ctx (listenChild ctx listenSid sid rx) := by
  rw [listenChild_eq]
  have hentry : Cells ctx (listenEntry ctx listenSid sid rx) :=
    cells_of_listeners (Nat.le_refl _) rfl
  cases hb : tcpFlowInsert (listenEntry ctx listenSid sid rx) sid with
  | none =>
    have hset : Cells (listenEntry ctx listenSid sid rx)
        ((listenEntry ctx listenSid sid rx).setSock sid
          { (listenEntry ctx listenSid sid rx).sock sid with state := .closed }) :=
      cells_of_listeners (Nat.le_refl _) rfl
    exact (hentry.trans hset).trans (same_replyRst _ _ _ _).cells
  | some b => exact (hentry.trans (tcpFlowInsert_cells hb)).trans (listenAnswer_cells _ rx)

/-- A socket more. -/
theorem tcpSockAlloc_cells (ctx : TcpSlowCtx) (opaquePtr : UInt64) (appId ctxId : UInt8)
    (appBumpQid : UInt16) :
    Cells ctx (tcpSockAlloc ctx opaquePtr appId ctxId appBumpQid).1 := by
  rcases tcpSockAlloc_cases ctx opaquePtr appId ctxId appBumpQid with ⟨-, hu⟩ | ⟨-, ha⟩
  · exact cells_of_listeners (Nat.le_of_eq hu.nSocks.symm) hu.listeners
  · exact cells_of_listeners (by rw [ha.nSocks]; exact Nat.le_succ _) ha.listeners

/-- A SYN makes a child, which is in no ring yet. -/
theorem tcpRxListenSyn_cells (listenSid : Nat) (rx : TcpRxCtl) :
    Cells ctx (tcpRxListenSyn ctx listenSid rx) := by
  unfold tcpRxListenSyn
  dsimp only
  split
  · exact (same_replyRst ctx _ _ _).cells
  · split
    · exact Cells.refl ctx
    · have hall := tcpSockAlloc_cells ctx 0 0 0 0
      generalize tcpSockAlloc ctx 0 0 0 0 = r at hall ⊢
      obtain ⟨c, sid⟩ := r
      cases sid with
      | none => exact hall
      | some sid => exact hall.trans (listenChild_cells listenSid rx)

/-- A punted segment, for a connection or a listener. -/
theorem ctlRx_cells (h : Base ctx) (p : Nat → UInt8) (core : UInt16) :
    Cells ctx (ctlRx ctx p core) := by
  unfold ctlRx
  dsimp only
  generalize ctlRxParse p _ = rx
  cases hf : tcpFlowLookup ctx rx.localIp rx.localPort rx.remoteIp rx.remotePort with
  | some sid =>
    have hts := same_slowSockTsRx ctx sid rx
    refine hts.cells.trans (sockCtlRx_cells ?_ rx)
    have hlt := (tcpFlowLookup_some h hf).1
    rw [key_id (hts.key sid), hts.nSocks, h.toNat_id hlt]
    exact hlt
  | none =>
    dsimp only
    split
    · exact Cells.refl ctx
    · have hl := (same_tcpListenerLookup ctx rx.localIp rx.localPort).cells
      generalize tcpListenerLookup ctx rx.localIp rx.localPort = r at hl ⊢
      obtain ⟨ctx₁, k⟩ := r
      cases k with
      | none => exact hl.trans (same_replyRst _ _ _ _).cells
      | some k => exact hl.trans (tcpRxListenSyn_cells _ rx)

end opening

/-! ## Every event -/

theorem AutoBound.cells {a b : TcpSlowCtx} {sid : Nat} {port : UInt16}
    (h : AutoBound a b sid port) : Cells a b :=
  cells_of_listeners (Nat.le_of_eq h.nSocks.symm) h.listeners

theorem bindPort_cells (ctx : TcpSlowCtx) (sid : Nat) : Cells ctx (bindPort ctx sid).1 := by
  rcases bindPort_cases ctx sid with ⟨-, he⟩ | ⟨-, -, he⟩ | ⟨-, -, ha⟩
  · rw [he]
    exact Cells.refl ctx
  · rw [he]
    exact Cells.refl ctx
  · exact ha.cells

/-- A connect sends a SYN, or fails. -/
theorem sockConnectStart_cells (ctx : TcpSlowCtx) (sid : Nat) (remoteIp : UInt32)
    (remotePort : UInt16) : Cells ctx (sockConnectStart ctx sid remoteIp remotePort) := by
  unfold sockConnectStart
  dsimp only
  have hset : Cells ctx (ctx.setSock sid
      (connectSock ctx (ctx.sock sid) remoteIp remotePort)) :=
    cells_of_listeners (Nat.le_refl _) rfl
  generalize ctx.setSock sid _ = c at hset ⊢
  cases hd : tcpFlowInsert c sid with
  | none => exact hset.trans (tcpSockConnectFail_failed c sid _).cells
  | some d =>
    have hs := (hset.trans (tcpFlowInsert_cells hd)).trans
      (same_tcpCtlTx d sid (synFlags (d.sock sid))).cells
    dsimp only
    generalize tcpCtlTx d sid _ = r at hs ⊢
    obtain ⟨c₁, ok⟩ := r
    dsimp only at hs ⊢
    split
    · exact hs.trans (tcpSockConnectFail_failed c₁ sid _).cells
    · have hs₂ := hs.trans (tcpTimeoutArm_cells c₁ sid .syn)
      generalize tcpTimeoutArm c₁ sid .syn = r at hs₂ ⊢
      obtain ⟨c₂, ok₂⟩ := r
      dsimp only at hs₂ ⊢
      split
      · exact hs₂.trans (tcpSockConnectFail_failed c₂ sid _).cells
      · exact hs₂

theorem bindIp_cells (ctx : TcpSlowCtx) (sid : Nat) : Cells ctx (bindIp ctx sid) :=
  cells_of_listeners (Nat.le_of_eq (rekeyed_bindIp ctx sid).nSocks.symm)
    (rekeyed_bindIp ctx sid).listeners

theorem appConnect_cells (ctx : TcpSlowCtx) (appId ctxId : UInt8) (sid : Nat)
    (remoteIp : UInt32) (remotePort : UInt16) (opaquePtr : UInt64) :
    Cells ctx (appConnect ctx appId ctxId sid remoteIp remotePort opaquePtr) := by
  unfold appConnect
  split
  · exact (same_appSubmit _ _ _ _).cells
  · split
    · exact (same_appSubmit _ _ _ _).cells
    · have hbind := bindPort_cells ctx sid
      generalize bindPort ctx sid = r at hbind ⊢
      obtain ⟨c, ok⟩ := r
      cases ok with
      | false => exact hbind.trans (same_appSubmit _ _ _ _).cells
      | true => exact (hbind.trans (bindIp_cells c sid)).trans (sockConnectStart_cells _ sid _ _)

theorem appBind_cells (ctx : TcpSlowCtx) (appId ctxId : UInt8) (sid : Nat) (localIp : UInt32)
    (localPort : UInt16) (opaquePtr : UInt64) :
    Cells ctx (appBind ctx appId ctxId sid localIp localPort opaquePtr) := by
  rcases appBind_cases ctx appId ctxId sid localIp localPort opaquePtr with
    hs | ⟨-, -, hs⟩ | ⟨-, c, c', hk, hr, hs⟩
  · exact hs.cells
  · exact (bindIp_cells ctx sid).trans hs.cells
  · have hkept : Cells ctx c := by
      rcases hk with ⟨-, rfl⟩ | ⟨-, ha⟩
      · exact Cells.refl _
      · exact ha.cells
    exact (hkept.trans (cells_of_listeners (Nat.le_of_eq hr.nSocks.symm) hr.listeners)).trans
      hs.cells

/-- A listener opens with every cell empty. -/
theorem appListen_cells (ctx : TcpSlowCtx) (appId ctxId : UInt8) (sid : Nat) (backlog : UInt32)
    (opaquePtr : UInt64) (callocOk : Bool) :
    Cells ctx (appListen ctx appId ctxId sid backlog opaquePtr callocOk) := by
  rcases appListen_cases ctx appId ctxId sid backlog opaquePtr callocOk with
    hs | ⟨-, c, c', hs, hr, hs'⟩
  · exact hs.cells
  · -- a listener that was not active starts with empty cells
    have hopen : Cells c (c.setListener (ctx.sock sid).id.toNat
        (listenerOpen (ctx.listeners (ctx.sock sid).id.toNat) backlog)) := by
      refine cells_setListener c _ fun _ pos => ?_
      rw [hs.listeners]
      show (if (ctx.listeners (ctx.sock sid).id.toNat).active = true then
        (ctx.listeners (ctx.sock sid).id.toNat).readySids else fun _ => idInvalid) pos = _ ∨ _ ∨ _ ∧
        (if (ctx.listeners (ctx.sock sid).id.toNat).active = true then
        (ctx.listeners (ctx.sock sid).id.toNat).readySids else fun _ => idInvalid) pos = _
      split
      · next hact => exact .inr (.inr ⟨hact, rfl⟩)
      · exact .inl rfl
    exact ((hs.cells.trans hopen).trans
      (cells_of_listeners (Nat.le_of_eq hr.nSocks.symm) hr.listeners)).trans hs'.cells

/-- A new socket, and its answer. -/
theorem appNewSock_cells (ctx : TcpSlowCtx) (appId ctxId : UInt8) (opaquePtr : UInt64) :
    Cells ctx (appNewSock ctx appId ctxId opaquePtr) := by
  unfold appNewSock
  have hall := tcpSockAlloc_cells ctx opaquePtr appId ctxId (ctx.appBumpQids appId ctxId 0)
  generalize tcpSockAlloc ctx opaquePtr appId ctxId _ = r at hall ⊢
  obtain ⟨c, sid⟩ := r
  cases sid with
  | none => exact hall
  | some sid => exact hall.trans (same_appSubmit _ _ _ _).cells

/-- **Every event** puts allocated sockets into the rings, and nothing else. -/
theorem slowNext_cells {ctx : TcpSlowCtx} (h : Base ctx) (act : SlowAct) :
    Cells ctx (slowNext ctx act) := by
  cases act with
  | newSock appId ctxId opaquePtr => exact appNewSock_cells ctx _ _ _
  | setopt appId ctxId sockId opt opaquePtr => exact (same_appSetopt ctx _ _ _ _ _).cells
  | bind appId ctxId sockId localIp localPort opaquePtr => exact appBind_cells ctx _ _ _ _ _ _
  | connect appId ctxId sockId remoteIp remotePort opaquePtr =>
    exact appConnect_cells ctx _ _ _ _ _ _
  | listen appId ctxId sockId backlog opaquePtr callocOk => exact appListen_cells ctx _ _ _ _ _ _
  | accept appId ctxId sockId opaquePtr => exact appAccept_cells ctx _ _ _ _
  | shutdown sockId how => exact appShutdown_cells ctx _ _
  | close sockId => exact appClose_cells ctx _
  | segment p core => exact ctlRx_cells h p core
  | timeout entry =>
    unfold slowNext
    dsimp only
    split
    · exact Cells.refl ctx
    · split
      · exact tcpTimeoutFire_cells ctx _ _
      · exact Cells.refl ctx
  | fastRx env => exact cells_of_listeners (Nat.le_refl _) rfl
  | fastDeq env => exact cells_of_listeners (Nat.le_refl _) rfl
  | fastSched env => exact cells_of_listeners (Nat.le_refl _) rfl
  | drain q => exact (same_drain ctx q).cells

/-- What `Base` and the rings say, in every state of the slow path. -/
structure RingBase (ctx : TcpSlowCtx) : Prop where
  base : Base ctx
  names : RingNames ctx

/-- No listener is open at first. -/
theorem SlowInit.ringBase {ctx : TcpSlowCtx} (h : SlowInit ctx) : RingBase ctx := by
  refine ⟨h.base, fun k pos hact => ?_⟩
  rw [h.listeners] at hact
  exact absurd hact Bool.false_ne_true

/-- **One event.** -/
theorem RingBase.next {ctx : TcpSlowCtx} (h : RingBase ctx) (act : SlowAct) :
    RingBase (slowNext ctx act) :=
  ⟨h.base.next act, h.names.cells (slowNext_cells h.base act)⟩

end Chamelio.Tcp
