import Chamelio.Tcp.SlowSys

/-!
# The handlers as sequences of transitions

Segments, timers, accepts, shutdowns and closes, each cut into the
transitions of `Prim`. The proofs follow the source line by line: a send, a
timer or an answer is `same`, and what remains is the one assignment of the
socket's state.
-/

namespace Chamelio.Tcp

open Chamelio.Lib Chamelio.Util Chamelio.Pkt Chamelio.Fast

/-! ## Chaining -/

section chaining

variable {a b c : TcpSlowCtx}

theorem Prim.nSocks_le (h : Prim a b) : a.nSocks ≤ b.nSocks := by
  cases h with
  | same hs => exact Nat.le_of_eq hs.nSocks.symm
  | move _ _ _ hr => exact Nat.le_of_eq hr.nSocks.symm
  | close _ => exact Nat.le_of_eq (tcpSockCloseFinal_nSocks _ _).symm
  | fail _ _ hf => exact Nat.le_of_eq hf.nSocks.symm
  | unalloc hu => exact Nat.le_of_eq hu.nSocks.symm
  | spawn hs =>
    rw [hs.nSocks]
    exact Nat.le_succ _

theorem Steps.nSocks_le (h : Steps a b) : a.nSocks ≤ b.nSocks := by
  induction h with
  | refl => exact Nat.le_refl _
  | tail _ p ih => exact Nat.le_trans ih p.nSocks_le

theorem Steps.core (h : Steps a b) (hs : SameCore b c) : Steps a c := h.tail (.same hs)

theorem Steps.same (h : Steps a b) (hs : Same b c) : Steps a c := h.core hs.toSameCore

theorem Same.steps (hs : Same a b) : Steps a b := Steps.refl.same hs

theorem Steps.closed {sid : Nat} (h : Steps a b) (hlt : sid < a.nSocks) :
    Steps a (tcpSockCloseFinal b sid) :=
  h.tail (.close (Nat.lt_of_lt_of_le hlt h.nSocks_le))

/-- A new listener is no business of flows and ports. -/
theorem core_setListener (ctx : TcpSlowCtx) (k : Nat) (l : Listener) :
    SameCore ctx (ctx.setListener k l) :=
  ⟨fun _ => rfl, rfl, rfl, rfl, rfl, rfl, rfl, fun _ => rfl, fun _ => .inl rfl⟩

/-- Nor is the mark of a listener. -/
theorem core_setListenerId (ctx : TcpSlowCtx) (sid : Nat) (listenerId : UInt32) :
    SameCore ctx (ctx.setMeta sid { ctx.tcpSockMeta sid with listenerId }) := by
  have hm : ∀ i, (ctx.setMeta sid { ctx.tcpSockMeta sid with listenerId }).sockMeta i =
      if i = (ctx.sock sid).id.toNat then { ctx.tcpSockMeta sid with listenerId }
      else ctx.sockMeta i := fun _ => rfl
  refine ⟨fun _ => rfl, rfl, rfl, rfl, rfl, rfl, rfl, ?_, ?_⟩
  · intro i
    rw [hm]
    split
    · next hi => rw [hi]; rfl
    · rfl
  · intro i
    rw [hm]
    split
    · next hi => rw [hi]; exact .inl rfl
    · exact .inl rfl

end chaining

/-! ## Timers -/

section timers

variable {ctx : TcpSlowCtx} {sid : Nat}

/-- A socket with a retransmission pending is in use. -/
theorem Base.live_of_kind (h : Base ctx) (hlt : sid < ctx.nSocks)
    (hk : (ctx.tcpSockMeta sid).retxKind ≠ .none) : (ctx.sock sid).state ≠ .closed := by
  intro hc
  rw [h.meta_eq hlt] at hk
  exact hk (h.timer sid (.inr hc))

theorem steps_sockRetxExpire (h : Base ctx) (hlt : sid < ctx.nSocks) :
    Steps ctx (sockRetxExpire ctx sid) := by
  unfold sockRetxExpire
  dsimp only
  split
  · next hk =>
    have hlive := h.live_of_kind hlt (by rw [hk]; exact RetxKind.noConfusion)
    exact (Prim.fail hlt hlive (tcpSockConnectFail_failed ctx sid _)).steps
  · exact ((same_ctlPktEnqueue ctx _).steps).closed hlt
  · exact ((same_ctlPktEnqueue ctx _).steps).closed hlt
  · exact Steps.refl

theorem steps_sockOnTimeout (h : Base ctx) (hlt : sid < ctx.nSocks) :
    Steps ctx (sockOnTimeout ctx sid) := by
  unfold sockOnTimeout
  split
  · exact steps_sockRetxExpire h hlt
  · have hs := same_sockRetxTx ctx sid
    generalize sockRetxTx ctx sid = r at hs ⊢
    obtain ⟨ctx₁, ok⟩ := r
    have hlt₁ : sid < ctx₁.nSocks := by rw [hs.nSocks]; exact hlt
    have hb₁ := h.same hs.toSameCore
    dsimp only at hs ⊢
    split
    · exact hs.steps.trans (steps_sockRetxExpire hb₁ hlt₁)
    · have hm : Same ctx₁ (ctx₁.setMeta sid
          { ctx₁.tcpSockMeta sid with retxLeft := (ctx₁.tcpSockMeta sid).retxLeft - 1 }) :=
        same_setMeta ctx₁ rfl rfl (.inl rfl)
      have hs₂ := hs.trans (hm.trans (same_sockRetxSched _ sid))
      generalize sockRetxSched _ sid = r at hs₂ ⊢
      obtain ⟨ctx₂, ok₂⟩ := r
      have hlt₂ : sid < ctx₂.nSocks := by rw [hs₂.nSocks]; exact hlt
      dsimp only at hs₂ ⊢
      split
      · exact hs₂.steps.trans (steps_sockRetxExpire (h.same hs₂.toSameCore) hlt₂)
      · exact hs₂.steps

/-- The entry that expired is gone. -/
def timerPopped (ctx : TcpSlowCtx) (entry sid : Nat) : TcpSlowCtx :=
  { ctx with tomgr := tomgrRemove ctx.tomgr entry }.setMeta sid
    { ctx.tcpSockMeta sid with timer := none }

theorem same_timerPopped (ctx : TcpSlowCtx) (entry sid : Nat) :
    Same ctx (timerPopped ctx entry sid) :=
  (same_tomgr ctx _).trans (same_setMeta _ rfl rfl (.inl rfl))

theorem steps_tcpTimeoutFire (h : Base ctx) (hlt : sid < ctx.nSocks) (entry : Nat) :
    Steps ctx (tcpTimeoutFire ctx entry sid) := by
  have hs := same_timerPopped ctx entry sid
  show Steps ctx (if ((timerPopped ctx entry sid).tcpSockMeta sid).retxKind = .none then
    timerPopped ctx entry sid else sockOnTimeout (timerPopped ctx entry sid) sid)
  split
  · exact hs.steps
  · exact hs.steps.trans (steps_sockOnTimeout (h.same hs.toSameCore) hlt)

theorem steps_timeout (h : Base ctx) (entry : Nat) :
    Steps ctx (slowNext ctx (.timeout entry)) := by
  unfold slowNext
  dsimp only
  split
  · exact Steps.refl
  · split
    · next hlt => exact steps_tcpTimeoutFire h hlt entry
    · exact Steps.refl

/-- Arming a timer of a socket in use. -/
theorem Base.arm (h : Base ctx) (hlt : sid < ctx.nSocks) (hlive : (ctx.sock sid).state ≠ .closed)
    (kind : RetxKind) : Same ctx (tcpTimeoutArm ctx sid kind).1 :=
  same_tcpTimeoutArm ctx kind (h.toNat_id hlt) hlt hlive

end timers

/-! ## Closing -/

section closing

variable {ctx : TcpSlowCtx} {sid : Nat}

theorem steps_sockShutdownStart (h : Base ctx) (hlt : sid < ctx.nSocks)
    (hst : (ctx.sock sid).state = .established) : Steps ctx (sockShutdownStart ctx sid) := by
  unfold sockShutdownStart
  dsimp only
  have hr := rekeyed_setSock ctx sid
    { ctx.sock sid with flags := (ctx.sock sid).flags ||| sockFlagShut, state := .finWait1 }
  have hm : Prim ctx _ := @Prim.move _ _ _ .finWait1 hlt (by rw [hst]; rfl) rfl hr
  have hb := h.prim hm
  generalize ctx.setSock sid _ = ctx₁ at hr hm hb ⊢
  have hs := same_tcpCtlTx ctx₁ sid (tcpFin ||| tcpAck)
  generalize tcpCtlTx ctx₁ sid _ = r at hs ⊢
  obtain ⟨ctx₂, ok⟩ := r
  have hsteps : Steps ctx ctx₂ := hm.steps.same hs
  dsimp only at hs ⊢
  split
  · exact hsteps.closed hlt
  · have hlt₂ : sid < ctx₂.nSocks := Nat.lt_of_lt_of_le hlt hsteps.nSocks_le
    have hlive : (ctx₂.sock sid).state ≠ .closed := by
      have hk : (ctx₂.sock sid).key = _ := (hs.key sid).trans ((hr.key sid).trans (if_pos rfl))
      rw [show (ctx₂.sock sid).state = .finWait1 from congrArg SockKey.state hk]
      exact SockState.noConfusion
    have hs₂ := (hb.same hs.toSameCore).arm hlt₂ hlive .fin
    generalize tcpTimeoutArm ctx₂ sid .fin = r at hs₂ ⊢
    obtain ⟨ctx₃, ok₃⟩ := r
    dsimp only at hs₂ ⊢
    split
    · exact (hsteps.same hs₂).closed hlt
    · exact hsteps.same hs₂

theorem steps_appShutdown (h : Base ctx) (how : Nat) : Steps ctx (appShutdown ctx sid how) := by
  unfold appShutdown
  split
  · exact Steps.refl
  · next hlt =>
    split
    · exact Steps.refl
    · next hst =>
      refine steps_sockShutdownStart h (by omega) ?_
      apply Classical.byContradiction
      intro hne
      exact hst (.inr hne)

theorem steps_sockAbortOpen (hlt : sid < ctx.nSocks) : Steps ctx (sockAbortOpen ctx sid) := by
  unfold sockAbortOpen
  dsimp only
  split
  · exact ((same_tcpCtlTx ctx sid _).steps).closed hlt
  · exact Steps.refl.closed hlt

theorem steps_abortChild (listenerId : UInt32) (hlt : sid < ctx.nSocks) :
    Steps ctx (abortChild listenerId ctx sid) := by
  unfold abortChild
  split
  · exact Steps.refl
  · split
    · exact Steps.refl
    · dsimp only
      split
      · exact ((same_tcpCtlTx ctx sid _).steps).closed hlt
      · exact Steps.refl.closed hlt

/-- The loop over the sockets. -/
theorem steps_abortChildren (listenerId : UInt32) (l : List Nat) {ctx : TcpSlowCtx}
    (hl : ∀ i ∈ l, i < ctx.nSocks) : Steps ctx (l.foldl (abortChild listenerId) ctx) := by
  induction l generalizing ctx with
  | nil => exact Steps.refl
  | cons i l ih =>
    have h₁ := steps_abortChild listenerId (hl i List.mem_cons_self)
    refine h₁.trans (ih ?_)
    intro j hj
    exact Nat.lt_of_lt_of_le (hl j (List.mem_cons_of_mem _ hj)) h₁.nSocks_le

theorem steps_sockCloseListen (hlt : sid < ctx.nSocks) : Steps ctx (sockCloseListen ctx sid) := by
  unfold sockCloseListen
  dsimp only
  have h₁ := (same_tcpListenerRemove ctx (ctx.sock sid).localPort (ctx.sock sid).id).steps
  generalize tcpListenerRemove ctx _ _ = ctx₁ at h₁ ⊢
  have h₂ : Steps ctx (tcpListenerAbortChildren ctx₁ sid) := by
    refine h₁.trans (steps_abortChildren _ _ ?_)
    intro i hi
    exact List.mem_range.mp hi
  exact (h₂.core (core_setListener _ _ _)).closed hlt

theorem steps_appClose (h : Base ctx) : Steps ctx (appClose ctx sid) := by
  unfold appClose
  split
  · exact Steps.refl
  · next hlt =>
    have hlt' : sid < ctx.nSocks := by omega
    split
    · exact steps_sockCloseListen hlt'
    · exact steps_sockAbortOpen hlt'
    · exact steps_sockAbortOpen hlt'
    · exact steps_sockAbortOpen hlt'
    · next hst => exact steps_sockShutdownStart h hlt' hst
    · exact Steps.refl.closed hlt'

end closing

/-! ## Accepting -/

section accepting

/-- A listener without the first slot of its ready ring. -/
def ringPop (l : Listener) : Listener :=
  { l with
    readySids := fun j => if j = l.readyHead.toNat then idInvalid else l.readySids j
    readyHead := if l.readyHead + 1 ≥ l.backlogLen then 0 else l.readyHead + 1
    readyUsed := l.readyUsed - 1 }

/-- One round of the loop, by the socket in the first slot. -/
theorem readyPopLoop_succ (listenerId : UInt32) (fuel : Nat) (ctx : TcpSlowCtx) :
    readyPopLoop listenerId (fuel + 1) ctx =
      let l := ctx.listeners listenerId.toNat
      let sid := l.readySids l.readyHead.toNat
      let ctx₁ := ctx.setListener listenerId.toNat (ringPop l)
      if !l.active ∨ l.readyUsed = 0 then (ctx, none)
      else if sid = idInvalid then readyPopLoop listenerId fuel ctx₁
      else if (ctx.tcpSockMeta sid.toNat).listenerId ≠ listenerId then
        readyPopLoop listenerId fuel ctx₁
      else if (ctx.sock sid.toNat).state ≠ .acceptPending then
        readyPopLoop listenerId fuel
          ((ctx₁.setMeta sid.toNat
            { ctx₁.tcpSockMeta sid.toNat with listenerId := idInvalid }).setListener
            listenerId.toNat (listenerBacklogPut (ringPop l)))
      else (ctx₁, some sid.toNat) := rfl

/-- Taking children from the ready ring touches the listener and marks; the
one that comes out is waiting to be accepted. -/
theorem core_readyPopLoop (listenerId : UInt32) (fuel : Nat) (ctx : TcpSlowCtx) :
    SameCore ctx (readyPopLoop listenerId fuel ctx).1 ∧
      ∀ sid, (readyPopLoop listenerId fuel ctx).2 = some sid →
        ((readyPopLoop listenerId fuel ctx).1.sock sid).state = .acceptPending := by
  induction fuel generalizing ctx with
  | zero => exact ⟨SameCore.refl ctx, nofun⟩
  | succ fuel ih =>
    rw [readyPopLoop_succ]
    dsimp only
    have h₁ := core_setListener ctx listenerId.toNat (ringPop (ctx.listeners listenerId.toNat))
    split
    · exact ⟨SameCore.refl ctx, nofun⟩
    · split
      · exact ⟨h₁.trans (ih _).1, (ih _).2⟩
      · split
        · exact ⟨h₁.trans (ih _).1, (ih _).2⟩
        · split
          · refine ⟨h₁.trans (SameCore.trans ?_ (ih _).1), (ih _).2⟩
            exact (core_setListenerId _ _ _).trans (core_setListener _ _ _)
          · next hst =>
            refine ⟨h₁, ?_⟩
            intro sid hsid
            cases hsid
            exact Classical.not_not.mp hst

variable {ctx : TcpSlowCtx} {sid : Nat}

theorem steps_sockAcceptOwn (hlt : sid < ctx.nSocks)
    (hst : (ctx.sock sid).state = .acceptPending) (appId ctxId : UInt8) (opaquePtr : UInt64) :
    Steps ctx (sockAcceptOwn ctx sid appId ctxId opaquePtr) := by
  unfold sockAcceptOwn
  refine (Steps.refl.core (core_setListenerId ctx sid idInvalid)).tail
    (@Prim.move _ _ _ .established hlt ?_ rfl (rekeyed_setSock _ sid _))
  rw [TcpSlowCtx.sock_setMeta, hst]
  rfl

theorem steps_appAccept (h : Base ctx) (appId ctxId : UInt8) (opaquePtr : UInt64) :
    Steps ctx (appAccept ctx appId ctxId sid opaquePtr) := by
  unfold appAccept
  dsimp only
  split
  · exact (same_appSubmit ctx _ _ _).steps
  · split
    · exact (same_appSubmit ctx _ _ _).steps
    · have hpop := core_readyPopLoop (ctx.sock sid).id
        (ctx.listeners (ctx.sock sid).id.toNat).readyUsed.toNat ctx
      unfold tcpListenerReadyPop
      generalize readyPopLoop (ctx.sock sid).id _ ctx = r at hpop ⊢
      obtain ⟨ctx₁, child⟩ := r
      obtain ⟨hcore, hchild⟩ := hpop
      cases child with
      | none => exact (Steps.refl.core hcore).same (same_appSubmit _ _ _ _)
      | some j =>
        have hst := hchild j rfl
        dsimp only at hst ⊢
        have hj : j < ctx₁.nSocks := by
          apply (h.same hcore).lt_of_state
          · rw [hst]
            exact SockState.noConfusion
          · rw [hst]
            exact SockState.noConfusion
        have hown := (Steps.refl.core hcore).trans
          (steps_sockAcceptOwn hj hst appId ctxId opaquePtr)
        exact (hown.core (core_setListener _ _ _)).same (same_appSubmit _ _ _ _)

end accepting

/-! ## Opening -/

section opening

variable {ctx : TcpSlowCtx} {sid : Nat}

theorem core_tcpListenerReadyPush (ctx : TcpSlowCtx) (listenerId sockId : UInt32) :
    SameCore ctx (tcpListenerReadyPush ctx listenerId sockId).1 := by
  unfold tcpListenerReadyPush
  dsimp only
  split
  · exact SameCore.refl ctx
  · exact core_setListener _ _ _

theorem steps_sockPassiveEstablished (hlt : sid < ctx.nSocks)
    (hst : (ctx.sock sid).state = .synRecv) (rx : TcpRxCtl) :
    Steps ctx (sockPassiveEstablished ctx sid rx).1 := by
  unfold sockPassiveEstablished
  dsimp only
  have hm : Steps ctx _ := (same_tcpTimeoutCancel ctx sid).steps.tail
    (@Prim.move _ _ _ .acceptPending hlt (by rw [tcpTimeoutCancel_sock, hst]; rfl) rfl
      (rekeyed_setSock (tcpTimeoutCancel ctx sid) sid
        { (tcpTimeoutCancel ctx sid).sock sid with
          txRemoteAvail := rx.wnd.toUInt32
          txPending := ((tcpTimeoutCancel ctx sid).sock sid).txPending - 1
          txSeq := ((tcpTimeoutCancel ctx sid).sock sid).txSeq + 1
          state := .acceptPending }))
  generalize TcpSlowCtx.setSock (tcpTimeoutCancel ctx sid) sid _ = ctx₁ at hm ⊢
  have hp := core_tcpListenerReadyPush ctx₁ (ctx₁.tcpSockMeta sid).listenerId (ctx₁.sock sid).id
  generalize tcpListenerReadyPush ctx₁ _ _ = r at hp ⊢
  obtain ⟨ctx₂, ok⟩ := r
  dsimp only at hp ⊢
  split
  · exact (hm.core hp).closed hlt
  · exact hm.core hp

theorem steps_tcpRxSynSent (hlt : sid < ctx.nSocks) (hst : (ctx.sock sid).state = .synSent)
    (rx : TcpRxCtl) : Steps ctx (tcpRxSynSent ctx sid rx) := by
  unfold tcpRxSynSent
  split
  · refine (Prim.fail hlt ?_ (tcpSockConnectFail_failed ctx sid _)).steps
    rw [hst]
    exact SockState.noConfusion
  · split
    · exact Steps.refl
    · split
      · exact Steps.refl
      · have hm : Steps ctx (sockActiveEstablished ctx sid rx) :=
          (same_tcpTimeoutCancel ctx sid).steps.tail
            (@Prim.move _ _ _ .established hlt (by rw [tcpTimeoutCancel_sock, hst]; rfl) rfl
              (rekeyed_setSock (tcpTimeoutCancel ctx sid) sid _))
        exact (hm.same (same_tcpCtlTx _ _ _)).same (same_appSubmit _ _ _ _)

theorem steps_tcpRxSynRecv (hlt : sid < ctx.nSocks) (hst : (ctx.sock sid).state = .synRecv)
    (rx : TcpRxCtl) : Steps ctx (tcpRxSynRecv ctx sid rx) := by
  unfold tcpRxSynRecv
  split
  · exact Steps.refl.closed hlt
  · split
    · exact (same_tcpCtlTxResend ctx sid _).steps
    · split
      · exact Steps.refl
      · have hp := steps_sockPassiveEstablished hlt hst rx
        generalize sockPassiveEstablished ctx sid rx = r at hp ⊢
        obtain ⟨ctx₁, ok⟩ := r
        dsimp only at hp ⊢
        split
        · exact hp
        · exact hp.same (same_appSubmit _ _ _ _)

theorem steps_tcpRxEstablished (hlt : sid < ctx.nSocks) (rx : TcpRxCtl) :
    Steps ctx (tcpRxEstablished ctx sid rx) := by
  unfold tcpRxEstablished
  split
  · exact Steps.refl.closed hlt
  · split
    · have hs : Same ctx (ctx.setSock sid { ctx.sock sid with rxSeq := rx.seq + 1 }) :=
        same_setSock ctx rfl
      exact (hs.steps.same (same_tcpCtlTx _ _ _)).closed hlt
    · exact Steps.refl

/-- The end of `tcp_rx_fin_wait1`: the FIN was acknowledged or answered. -/
theorem steps_finWait1_end {b : TcpSlowCtx} (hs : Same ctx b) (hlt : sid < ctx.nSocks) :
    Steps ctx (tcpSockCloseFinal (tcpTimeoutCancel b sid) sid) :=
  (hs.steps.same (same_tcpTimeoutCancel b sid)).closed hlt

theorem steps_tcpRxFinWait1 (hlt : sid < ctx.nSocks) (rx : TcpRxCtl) :
    Steps ctx (tcpRxFinWait1 ctx sid rx) := by
  unfold tcpRxFinWait1
  by_cases hf : rx.flags &&& tcpFin ≠ 0
  · have hseq : Same ctx (ctx.setSock sid { ctx.sock sid with rxSeq := rx.seq + 1 }) :=
      same_setSock ctx rfl
    have hs := hseq.trans (same_tcpCtlTx _ sid tcpAck)
    rw [if_pos hf]
    dsimp only
    rw [if_pos hf]
    split
    · exact steps_finWait1_end hs hlt
    · exact steps_finWait1_end hs hlt
  · rw [if_neg hf]
    dsimp only
    rw [if_neg hf]
    split
    · exact steps_finWait1_end (Same.refl ctx) hlt
    · exact Steps.refl

theorem steps_sockCtlRx (hlt : sid < ctx.nSocks) (rx : TcpRxCtl) :
    Steps ctx (sockCtlRx ctx sid rx) := by
  unfold sockCtlRx
  split
  · next hst => exact steps_tcpRxSynSent hlt hst rx
  · next hst => exact steps_tcpRxSynRecv hlt hst rx
  · exact steps_tcpRxEstablished hlt rx
  · exact steps_tcpRxEstablished hlt rx
  · exact steps_tcpRxFinWait1 hlt rx
  · exact Steps.refl

end opening

/-! ## New connections -/

section children

/-- A flow goes into a free slot of its bucket. -/
theorem tcpFlowInsert_eq_some {ctx ctx' : TcpSlowCtx} {sid : Nat}
    (h : tcpFlowInsert ctx sid = some ctx') :
    ∃ s, s < tcpFlowBucketSlots ∧ ctx.maps.buckets (ctx.sock sid).key.bucket s = idInvalid ∧
      ctx' = setBucket ctx (ctx.sock sid).key.bucket s (ctx.sock sid).id := by
  unfold tcpFlowInsert at h
  dsimp only at h
  split at h
  · cases h
  · next s hs =>
    cases h
    unfold bucketSlot at hs
    have hfree := List.find?_some hs
    exact ⟨s, List.mem_range.mp (List.mem_of_find?_eq_some hs), eq_of_beq hfree, rfl⟩

/-- A lookup finds an open socket. -/
theorem tcpFlowLookup_some {ctx : TcpSlowCtx} (h : Base ctx) {localIp remoteIp : UInt32}
    {localPort remotePort : UInt16} {sid : Nat}
    (hf : tcpFlowLookup ctx localIp localPort remoteIp remotePort = some sid) :
    sid < ctx.nSocks ∧ (ctx.sock sid).state ≠ .closed := by
  unfold tcpFlowLookup at hf
  obtain ⟨i, -, hi⟩ := List.exists_of_findSome?_eq_some hf
  dsimp only at hi
  split at hi
  · cases hi
  · next hne =>
    split at hi
    · cases hi
    · next hopen =>
      split at hi
      · cases hi
        rcases h.slot _ i with hs | hs
        · exact absurd hs hne
        · exact ⟨hs, hopen⟩
      · cases hi

/-- The child of a fresh socket, before and after its flow is inserted. -/
theorem Allocated.spawned {a c b : TcpSlowCtx} {k : SockKey} (ha : Allocated a c)
    (hkey : ∀ i, (b.sock i).key = if i = a.nSocks then k else (c.sock i).key)
    (hn : b.nSocks = c.nSocks) (hsn : b.maps.sockNelems = c.maps.sockNelems)
    (hbn : b.maps.buckNelems = c.maps.buckNelems) (hip : b.localIp = c.localIp)
    (hbound : b.boundPorts = c.boundPorts)
    (hauto : ∀ i, (b.sockMeta i).autoBound = (c.sockMeta i).autoBound)
    (hkind : ∀ i, (b.sockMeta i).retxKind = (c.sockMeta i).retxKind)
    (hid : k.id = UInt32.ofNat a.nSocks) (hport : Listenable k.localPort)
    (hflow : (k.state = .closed ∧ b.maps.buckets = c.maps.buckets) ∨
      (k.state = .synRecv ∧
        tcpFlowLookup a k.localIp k.localPort k.remoteIp k.remotePort = none ∧
        ∃ s, s < tcpFlowBucketSlots ∧ c.maps.buckets k.bucket s = idInvalid ∧
          b.maps.buckets = fun h i =>
            if h = k.bucket ∧ i = s then k.id else c.maps.buckets h i)) : Spawned a b k := by
  have hold := ha.toSameOld
  refine ⟨ha.room, hn.trans ha.nSocks, ?_, hid, hport, hsn.trans hold.sockNelems,
    hbn.trans hold.buckNelems, hip.trans hold.localIp, hbound.trans hold.boundPorts, ?_, ?_, ?_⟩
  · intro i
    rw [hkey]
    split
    · rfl
    · next hi => rw [hold.sock i hi]
  · intro i
    rw [hauto]
    split
    · next hi => rw [hi]; exact ha.autoBound
    · next hi => rw [hold.sockMeta i hi]
  · intro i
    rw [hkind, hold.kind]
  · rw [← hold.buckets]
    exact hflow

/-- The child's entry with its listener, before its flow is inserted. -/
def listenEntry (ctx : TcpSlowCtx) (listenSid sid : Nat) (rx : TcpRxCtl) : TcpSlowCtx :=
  let c := ctx.setSock sid (childSock ctx (ctx.sock sid) rx)
  c.setMeta sid { c.tcpSockMeta sid with listenerId := (ctx.sock listenSid).id }

/-- A child with its SYN-ACK on the way, or closed again. -/
def listenAnswer (ctx : TcpSlowCtx) (listenId : UInt32) (sid : Nat) (rx : TcpRxCtl) : TcpSlowCtx :=
  let l := ctx.listeners listenId.toNat
  let ctx := ctx.setListener listenId.toNat { l with backlogUsed := l.backlogUsed + 1 }
  let (ctx, ok) := tcpCtlTx ctx sid (synackFlags (ctx.sock sid))
  if !ok then replyRst (tcpSockCloseFinal ctx sid) rx 0 (rx.seq + 1)
  else
    let (ctx, ok) := tcpTimeoutArm ctx sid .synack
    if !ok then
      let sock := ctx.sock sid
      tcpSockCloseFinal (replyRst ctx rx sock.txSeq sock.rxSeq) sid
    else ctx

theorem listenChild_eq (ctx : TcpSlowCtx) (listenSid sid : Nat) (rx : TcpRxCtl) :
    listenChild ctx listenSid sid rx =
      match tcpFlowInsert (listenEntry ctx listenSid sid rx) sid with
      | none =>
        let c := listenEntry ctx listenSid sid rx
        replyRst (c.setSock sid { c.sock sid with state := .closed }) rx 0 (rx.seq + 1)
      | some c => listenAnswer c (ctx.sock listenSid).id sid rx := rfl

theorem steps_listenAnswer {ctx : TcpSlowCtx} {sid : Nat} (h : Base ctx) (hlt : sid < ctx.nSocks)
    (hlive : (ctx.sock sid).state ≠ .closed) (listenId : UInt32) (rx : TcpRxCtl) :
    Steps ctx (listenAnswer ctx listenId sid rx) := by
  unfold listenAnswer
  dsimp only
  have hl := core_setListener ctx listenId.toNat
    { ctx.listeners listenId.toNat with
      backlogUsed := (ctx.listeners listenId.toNat).backlogUsed + 1 }
  generalize ctx.setListener listenId.toNat _ = ctx₁ at hl ⊢
  have hs := same_tcpCtlTx ctx₁ sid (synackFlags (ctx₁.sock sid))
  generalize tcpCtlTx ctx₁ sid _ = r at hs ⊢
  obtain ⟨ctx₂, ok⟩ := r
  dsimp only at hs ⊢
  have hcore := hl.trans hs.toSameCore
  have h₂ : Steps ctx ctx₂ := Steps.refl.core hcore
  split
  · exact (h₂.closed hlt).same (same_replyRst _ _ _ _)
  · have hlt₂ : sid < ctx₂.nSocks := Nat.lt_of_lt_of_le hlt h₂.nSocks_le
    have hlive₂ : (ctx₂.sock sid).state ≠ .closed := by
      rw [key_state (hcore.key sid)]
      exact hlive
    have hs₃ := (h.same hcore).arm hlt₂ hlive₂ .synack
    generalize tcpTimeoutArm ctx₂ sid .synack = r at hs₃ ⊢
    obtain ⟨ctx₃, ok₃⟩ := r
    dsimp only at hs₃ ⊢
    split
    · exact ((h₂.same hs₃).same (same_replyRst _ _ _ _)).closed hlt
    · exact h₂.same hs₃

end children

/-- The key of a child with a 4-tuple from its SYN. -/
def childKey (n : Nat) (rx : TcpRxCtl) (state : SockState) : SockKey :=
  { id := UInt32.ofNat n, state, localIp := rx.localIp, localPort := rx.localPort
    remoteIp := rx.remoteIp, remotePort := rx.remotePort }

section spawning

variable {a c : TcpSlowCtx} {listenSid : Nat} {rx : TcpRxCtl}

theorem listenEntry_key (ha : Allocated a c) (i : Nat) :
    ((listenEntry c listenSid a.nSocks rx).sock i).key =
      if i = a.nSocks then childKey a.nSocks rx .synRecv else (c.sock i).key := by
  unfold listenEntry
  dsimp only
  rw [TcpSlowCtx.sock_setMeta]
  by_cases hi : i = a.nSocks
  · rw [if_pos hi, hi, TcpSlowCtx.sock_setSock]
    have hid : (c.sock a.nSocks).id = UInt32.ofNat a.nSocks := congrArg SockKey.id ha.key
    unfold childKey
    rw [← hid]
    rfl
  · rw [if_neg hi, TcpSlowCtx.sock_setSock_ne _ _ hi]

/-- Only the listener is marked. -/
theorem core_listenEntry_meta (i : Nat) :
    ((listenEntry c listenSid a.nSocks rx).sockMeta i).autoBound = (c.sockMeta i).autoBound ∧
      ((listenEntry c listenSid a.nSocks rx).sockMeta i).retxKind = (c.sockMeta i).retxKind := by
  unfold listenEntry
  dsimp only
  unfold TcpSlowCtx.setMeta TcpSlowCtx.tcpSockMeta
  dsimp only
  split
  · next hi => rw [hi]; exact ⟨rfl, rfl⟩
  · exact ⟨rfl, rfl⟩

/-- The bucket was full: the child is closed at once. -/
theorem spawned_full (ha : Allocated a c) (hport : Listenable rx.localPort) :
    Spawned a ((listenEntry c listenSid a.nSocks rx).setSock a.nSocks
      { (listenEntry c listenSid a.nSocks rx).sock a.nSocks with state := .closed })
      (childKey a.nSocks rx .closed) := by
  have hkey := fun i => @listenEntry_key a c listenSid rx ha i
  refine ha.spawned ?_ rfl rfl rfl rfl rfl (fun i => (core_listenEntry_meta i).1)
    (fun i => (core_listenEntry_meta i).2) rfl hport (.inl ⟨rfl, rfl⟩)
  intro i
  by_cases hi : i = a.nSocks
  · rw [if_pos hi, hi, TcpSlowCtx.sock_setSock]
    have hk := (hkey a.nSocks).trans (if_pos rfl)
    show { ((listenEntry c listenSid a.nSocks rx).sock a.nSocks).key with state := .closed } = _
    rw [hk]
    rfl
  · rw [if_neg hi, TcpSlowCtx.sock_setSock_ne _ _ hi, hkey, if_neg hi]

/-- The child is in the flow table. -/
theorem spawned_slot (ha : Allocated a c) (hport : Listenable rx.localPort)
    (hnone : tcpFlowLookup a rx.localIp rx.localPort rx.remoteIp rx.remotePort = none)
    {b : TcpSlowCtx} (hb : tcpFlowInsert (listenEntry c listenSid a.nSocks rx) a.nSocks = some b) :
    Spawned a b (childKey a.nSocks rx .synRecv) := by
  have hkey := fun i => @listenEntry_key a c listenSid rx ha i
  have hk := (hkey a.nSocks).trans (if_pos rfl)
  obtain ⟨s, hs, hfree, hbe⟩ := tcpFlowInsert_eq_some hb
  rw [hk] at hfree hbe
  rw [show ((listenEntry c listenSid a.nSocks rx).sock a.nSocks).id =
    (childKey a.nSocks rx .synRecv).id from congrArg SockKey.id hk] at hbe
  rw [hbe]
  exact ha.spawned hkey rfl rfl rfl rfl rfl (fun i => (core_listenEntry_meta i).1)
    (fun i => (core_listenEntry_meta i).2) rfl hport (.inr ⟨rfl, hnone, s, hs, hfree, rfl⟩)

theorem steps_listenChild (h : Base a) (ha : Allocated a c) (hport : Listenable rx.localPort)
    (hnone : tcpFlowLookup a rx.localIp rx.localPort rx.remoteIp rx.remotePort = none) :
    Steps a (listenChild c listenSid a.nSocks rx) := by
  rw [listenChild_eq]
  cases hb : tcpFlowInsert (listenEntry c listenSid a.nSocks rx) a.nSocks with
  | none =>
    dsimp only
    exact (Prim.spawn (spawned_full ha hport)).steps.same (same_replyRst _ _ _ _)
  | some b =>
    have hsp := spawned_slot ha hport hnone hb
    have hprim : Prim a b := .spawn hsp
    refine hprim.steps.trans (steps_listenAnswer (h.prim hprim) ?_ ?_ _ rx)
    · rw [hsp.nSocks]
      exact Nat.lt_succ_self _
    · have hk := (hsp.key a.nSocks).trans (if_pos rfl)
      rw [show (b.sock a.nSocks).state = .synRecv from congrArg SockKey.state hk]
      exact SockState.noConfusion

end spawning

theorem steps_tcpRxListenSyn {ctx : TcpSlowCtx} (h : Base ctx) (listenSid : Nat) {rx : TcpRxCtl}
    (hport : Listenable rx.localPort) : Steps ctx (tcpRxListenSyn ctx listenSid rx) := by
  unfold tcpRxListenSyn
  dsimp only
  split
  · exact (same_replyRst ctx _ _ _).steps
  · split
    · exact Steps.refl
    · next hnone =>
      rw [Bool.not_eq_true, Option.isSome_eq_false_iff, Option.isNone_iff_eq_none] at hnone
      have hall := tcpSockAlloc_cases ctx 0 0 0 0
      generalize tcpSockAlloc ctx 0 0 0 0 = r at hall ⊢
      obtain ⟨c, sid⟩ := r
      rcases hall with ⟨hsid, hu⟩ | ⟨hsid, ha⟩
      · dsimp only at hsid hu
        rw [hsid]
        exact (Prim.unalloc hu).steps
      · dsimp only at hsid ha
        rw [hsid]
        exact steps_listenChild h ha hport hnone

theorem tcpListenerLookup_port {ctx : TcpSlowCtx} {localIp : UInt32} {port : UInt16}
    {k : UInt32} (h : (tcpListenerLookup ctx localIp port).2 = some k) : Listenable port := by
  unfold tcpListenerLookup at h
  split at h
  · cases h
  · next hp =>
    rw [not_or] at hp
    exact ⟨hp.1, Nat.le_of_not_gt hp.2⟩

theorem steps_ctlRx {ctx : TcpSlowCtx} (h : Base ctx) (p : Nat → UInt8) (core : UInt16) :
    Steps ctx (ctlRx ctx p core) := by
  unfold ctlRx
  dsimp only
  generalize ctlRxParse p _ = rx
  cases hf : tcpFlowLookup ctx rx.localIp rx.localPort rx.remoteIp rx.remotePort with
  | some sid =>
    have hts := same_slowSockTsRx ctx sid rx
    refine hts.steps.trans (steps_sockCtlRx ?_ rx)
    rw [hts.nSocks]
    exact (tcpFlowLookup_some h hf).1
  | none =>
    dsimp only
    split
    · exact Steps.refl
    · have hl := same_tcpListenerLookup ctx rx.localIp rx.localPort
      have hport := fun k => @tcpListenerLookup_port ctx rx.localIp rx.localPort k
      generalize tcpListenerLookup ctx rx.localIp rx.localPort = r at hl hport ⊢
      obtain ⟨ctx₁, k⟩ := r
      cases k with
      | none => exact hl.steps.same (same_replyRst _ _ _ _)
      | some k => exact hl.steps.trans (steps_tcpRxListenSyn (h.same hl.toSameCore) _ (hport k rfl))

end Chamelio.Tcp
