import Chamelio.Tcp.KidMoves

/-!
# The handlers as moves of children

Each handler of the slow path, cut into the moves of `KidMoves.lean`. What
a handler does beside its moves is calm. Two things are kept about the
moves: a socket that was closed is closed when the handler is done, and a
child that waits in a ready ring is only closed by a reset, a FIN or a close
that names it (`hitsReady`), or with its listener.
-/

namespace Chamelio.Tcp

open Chamelio.Lib Chamelio.Util Chamelio.Pkt Chamelio.Fast

/-! ## Sockets without a mark -/

section free

variable {a b : TcpSlowCtx} {sid : Nat}

/-- A socket that keeps its state, or has no mark and goes where no child
is. -/
theorem Rekeyed.kids {k : SockKey} (hr : Rekeyed a b sid k) (hb : Base a → Base b)
    (h : k.state = (a.kid sid).state ∨
      ((a.kid sid).mark = idInvalid ∧ k.state ≠ .synRecv ∧ k.state ≠ .acceptPending)) :
    KidsSame a b := by
  refine ⟨hb, hr.nSocks, hr.listeners, ?_⟩
  intro i _
  have hmark : (b.kid i).mark = (a.kid i).mark := by
    unfold TcpSlowCtx.kid
    rw [hr.sockMeta]
  have hkind : (b.kid i).kind = (a.kid i).kind := by
    unfold TcpSlowCtx.kid
    rw [hr.sockMeta]
  have hkey := hr.key i
  by_cases hi : i = sid
  · rw [if_pos hi] at hkey
    have hst : (b.kid i).state = k.state := congrArg SockKey.state hkey
    rw [← hi] at h
    rcases h with h | ⟨hfree, hto⟩
    · exact KidStay.stopped hmark (hst.trans h) (.inl hkind)
    · refine KidStay.free hfree hmark ?_
      rw [hst]
      exact fun _ => hto
  · rw [if_neg hi] at hkey
    exact KidStay.stopped hmark (key_state hkey) (.inl hkind)

/-- A connect that failed. -/
theorem kids_tcpSockConnectFail (h : Base a) (hlt : sid < a.nSocks)
    (hfree : (a.kid sid).mark = idInvalid) (err : Nat) :
    KidsSame a (tcpSockConnectFail a sid err) := by
  have hf := tcpSockConnectFail_failed a sid err
  have hmeta := fun i => tcpSockConnectFail_sockMeta a sid err i
  generalize tcpSockConnectFail a sid err = b at hf hmeta ⊢
  refine ⟨fun hb => hb.fail hlt hf, hf.nSocks, hf.listeners, ?_⟩
  intro i _
  have hkey := hf.sock i
  have hm := hmeta i
  rw [h.toNat_id hlt] at hm
  by_cases hi : i = sid
  · rw [if_pos hi] at hkey
    have hst : (b.kid i).state = .init := congrArg SockKey.state hkey
    refine KidStay.free (by rw [hi]; exact hfree) (hf.listenerId i) ?_
    rw [hst]
    exact fun _ => ⟨SockState.noConfusion, SockState.noConfusion⟩
  · rw [if_neg hi] at hkey hm
    refine KidStay.stopped (hf.listenerId i) (key_state hkey) (.inl ?_)
    unfold TcpSlowCtx.kid
    rw [hm]

end free

/-! ## A socket goes away -/

section leaving

variable {ctx : TcpSlowCtx} {sid : Nat}

/-- The socket waits in a ready ring. -/
def isReady (ctx : TcpSlowCtx) (i : Nat) : Bool :=
  decide ((ctx.kid i).mark ≠ idInvalid ∧ (ctx.kid i).state = .acceptPending)

/-- A final close, from a context in which the socket's state may have been
written already. -/
theorem gone_close {a : TcpSlowCtx} (h : Base ctx) (hlt : sid < ctx.nSocks)
    (hn : ctx.nSocks = a.nSocks)
    (hkid : ∀ i, i < a.nSocks → i ≠ sid → ctx.kid i = a.kid i)
    (hmark : (ctx.kid sid).mark = (a.kid sid).mark) (hl : ctx.listeners = a.listeners)
    (hlive : (a.kid sid).mark = idInvalid ∨ (a.kid sid).state ≠ .closed) :
    KidMove a (tcpSockCloseFinal ctx sid) (.gone sid (isReady a sid)) := by
  have hid := h.toNat_id hlt
  refine ⟨by rw [← hn]; exact hlt, hlive, by simp [isReady], fun _ => h.close hlt,
    (tcpSockCloseFinal_nSocks ctx sid).trans hn, ?_, ?_⟩
  · intro j hj
    unfold TcpSlowCtx.kid
    rw [tcpSockCloseFinal_sockMeta, tcpSockCloseFinal_sock, hid]
    by_cases hi : j = sid
    · rw [if_pos hi, if_pos hi, if_pos hi]
      rfl
    · rw [if_neg hi, if_neg hi, if_neg hi]
      exact hkid j hj hi
  · rw [tcpSockCloseFinal_listeners]
    funext k
    rw [tcpListenerDetachChild_listeners, h.meta_eq hlt, h.id sid hlt, hl]
    unfold detachedAt
    rw [← hmark]
    rfl

theorem gone_tcpSockCloseFinal (h : Base ctx) (hlt : sid < ctx.nSocks)
    (hlive : (ctx.kid sid).mark = idInvalid ∨ (ctx.kid sid).state ≠ .closed) :
    KidMove ctx (tcpSockCloseFinal ctx sid) (.gone sid (isReady ctx sid)) :=
  gone_close h hlt rfl (fun _ _ _ => rfl) rfl rfl hlive

theorem tcpSockCloseFinal_closed (ctx : TcpSlowCtx) (sid : Nat) :
    ((tcpSockCloseFinal ctx sid).sock sid).state = .closed := by
  rw [tcpSockCloseFinal_sock, if_pos rfl]
  rfl

end leaving

/-! ## What a handler did -/

/-- The moves an application can see: a child is ready, is accepted, and a
listener opens and closes. -/
def KidEv.visible : KidEv → Bool
  | .readied _ _ | .taken _ _ | .opened _ | .shut _ => true
  | _ => false

/-- Moves of one handler: what it closed is closed, and a ready child was
closed only if `hit`. -/
structure HandledBy (a b : TcpSlowCtx) (l : List KidEv) (hit : Prop) : Prop where
  moves : KidMoves a l b
  closed : ∀ i r, .gone i r ∈ l → (b.sock i).state = .closed
  ready : ∀ i, .gone i true ∈ l → hit

/-- The same with the visible moves only. -/
def Handled (a b : TcpSlowCtx) (evs : List KidEv) (hit : Prop) : Prop :=
  ∃ l, HandledBy a b l hit ∧ l.filter KidEv.visible = evs

section handled

variable {a b c : TcpSlowCtx} {evs : List KidEv} {hit : Prop}

theorem KidsSame.handled (h : KidsSame a b) : Handled a b [] hit :=
  ⟨[], ⟨h.moves, nofun, nofun⟩, rfl⟩

/-- A calm step after a handler. -/
theorem Handled.calm (h : Handled a b evs hit) (hs : KidsSame b c)
    (hst : ∀ i, (c.sock i).state = (b.sock i).state) : Handled a c evs hit := by
  obtain ⟨l, hl, hv⟩ := h
  exact ⟨l, ⟨hl.moves.calm hs, fun i r hi => (hst i).trans (hl.closed i r hi), hl.ready⟩, hv⟩

theorem Handled.weaken {hit' : Prop} (h : Handled a b evs hit) (hw : hit → hit') :
    Handled a b evs hit' := by
  obtain ⟨l, hl, hv⟩ := h
  exact ⟨l, ⟨hl.moves, hl.closed, fun i hi => hw (hl.ready i hi)⟩, hv⟩

/-- Moves that close nothing, before a handler. -/
theorem KidMoves.then {l : List KidEv} (hm : KidMoves a l b) (hno : ∀ i r, .gone i r ∉ l)
    (h : Handled b c evs hit) : Handled a c (l.filter KidEv.visible ++ evs) hit := by
  obtain ⟨l', hl, rfl⟩ := h
  refine ⟨l ++ l', ⟨hm.trans hl.moves, ?_, ?_⟩, List.filter_append ..⟩
  · intro i r hi
    rcases List.mem_append.mp hi with hi | hi
    · exact absurd hi (hno i r)
    · exact hl.closed i r hi
  · intro i hi
    rcases List.mem_append.mp hi with hi | hi
    · exact absurd hi (hno i true)
    · exact hl.ready i hi

theorem KidsSame.then (hs : KidsSame a b) (h : Handled b c evs hit) : Handled a c evs hit :=
  hs.moves.then (fun _ _ => List.not_mem_nil) h

/-- One move that closes nothing, before a handler. -/
theorem KidMove.then {e : KidEv} (hm : KidMove a b e) (he : ∀ i r, e ≠ .gone i r)
    (h : Handled b c evs hit) : Handled a c ([e].filter KidEv.visible ++ evs) hit :=
  (KidMoves.one hm).then (fun i r hi => he i r (List.mem_singleton.mp hi).symm) h

theorem handled_refl : Handled a a [] hit := (KidsSame.refl a).handled

/-- A close. -/
theorem handled_gone {sid : Nat} {ready : Bool} (h : KidMove a b (.gone sid ready))
    (hc : (b.sock sid).state = .closed) (hr : ready = true → hit) : Handled a b [] hit := by
  refine ⟨[.gone sid ready], ⟨KidMoves.one h, ?_, ?_⟩, rfl⟩
  · intro i r hi
    cases List.mem_singleton.mp hi
    exact hc
  · intro i hi
    cases List.mem_singleton.mp hi
    exact hr rfl

/-- A child waits before a calm step if it waits after it. -/
theorem KidsSame.isReady {i : Nat} (hs : KidsSame a b) (hi : i < a.nSocks)
    (h : isReady b i = true) : isReady a i = true := by
  have hk := hs.kid i hi
  unfold Tcp.isReady at h ⊢
  have h := of_decide_eq_true h
  apply decide_eq_true
  rw [hk.mark] at h
  rcases hk.state with hst | hl
  · rw [hst] at h
    exact h
  · exact absurd hl h.1

/-- A calm step, then a close. -/
theorem handled_close {sid : Nat} (hs : KidsSame a b) (h : Base a) (hlt : sid < a.nSocks)
    (hlive : (a.kid sid).mark = idInvalid ∨ (a.kid sid).state ≠ .closed)
    (hr : isReady a sid = true → hit) : Handled a (tcpSockCloseFinal b sid) [] hit := by
  have hlt' : sid < b.nSocks := by rw [hs.nSocks]; exact hlt
  have hstay := hs.kid sid hlt
  have hlive' : (b.kid sid).mark = idInvalid ∨ (b.kid sid).state ≠ .closed := by
    rw [hstay.mark]
    rcases hstay.state with hst | hm
    · rw [hst]
      exact hlive
    · exact .inl hm
  refine hs.then (handled_gone (gone_tcpSockCloseFinal (hs.base h) hlt' hlive')
    (tcpSockCloseFinal_closed b sid) ?_)
  intro hb
  exact hr (hs.isReady hlt hb)

end handled

/-! ## Timers -/

section timers

variable {ctx : TcpSlowCtx} {sid : Nat} {hit : Prop}

/-- A child with a timer is still opening. -/
theorem Marked.kind_not_ready (h : Marked ctx) (hlt : sid < ctx.nSocks)
    (hk : (ctx.kid sid).kind ≠ .none) : isReady ctx sid = true → hit := by
  intro hr
  have hr := of_decide_eq_true hr
  rcases (h.kid sid hlt).child hr.1 with hs | ⟨hs, -⟩ | ⟨-, hn⟩
  · rw [hs] at hr
    cases hr.2
  · rw [hs] at hr
    cases hr.2
  · exact absurd hn hk

/-- A SYN timer belongs to a socket without a mark. -/
theorem Marked.free_of_syn (h : Marked ctx) (hlt : sid < ctx.nSocks)
    (hk : (ctx.kid sid).kind = .syn) : (ctx.kid sid).mark = idInvalid := by
  apply Classical.byContradiction
  intro hm
  rcases (h.kid sid hlt).child hm with hs | ⟨-, hn | hn⟩ | ⟨-, hn⟩
  · have hn : (ctx.kid sid).kind = .none := h.base.timer sid (.inr hs)
    rw [hn] at hk
    cases hk
  · rw [hn] at hk
    cases hk
  · rw [hn] at hk
    cases hk
  · rw [hn] at hk
    cases hk

theorem handled_sockRetxExpire (h : Marked ctx) (hlt : sid < ctx.nSocks) :
    Handled ctx (sockRetxExpire ctx sid) [] hit := by
  have hkind : (ctx.tcpSockMeta sid).retxKind = (ctx.kid sid).kind := by
    rw [h.base.meta_eq hlt]
    rfl
  have hlive : (ctx.kid sid).kind ≠ .none → (ctx.kid sid).state ≠ .closed := by
    rw [← hkind]
    exact h.base.live_of_kind hlt
  unfold sockRetxExpire
  dsimp only
  rw [hkind]
  split
  · next hk =>
    exact (kids_tcpSockConnectFail h.base hlt (h.free_of_syn hlt hk) _).handled
  · next hk =>
    have hne : (ctx.kid sid).kind ≠ .none := by
      rw [hk]
      exact RetxKind.noConfusion
    exact handled_close (kids_ctlPktEnqueue ctx _) h.base hlt (.inr (hlive hne))
      (h.kind_not_ready hlt hne)
  · next hk =>
    have hne : (ctx.kid sid).kind ≠ .none := by
      rw [hk]
      exact RetxKind.noConfusion
    exact handled_close (kids_ctlPktEnqueue ctx _) h.base hlt (.inr (hlive hne))
      (h.kind_not_ready hlt hne)
  · exact handled_refl

theorem handled_sockOnTimeout (h : Marked ctx) (hlt : sid < ctx.nSocks) :
    Handled ctx (sockOnTimeout ctx sid) [] hit := by
  unfold sockOnTimeout
  split
  · exact handled_sockRetxExpire h hlt
  · have hs := kids_sockRetxTx ctx sid
    generalize sockRetxTx ctx sid = r at hs ⊢
    obtain ⟨ctx₁, ok⟩ := r
    dsimp only at hs ⊢
    have hlt₁ : sid < ctx₁.nSocks := by rw [hs.nSocks]; exact hlt
    split
    · exact hs.then (handled_sockRetxExpire (h.kids hs) hlt₁)
    · have hm : KidsSame ctx₁ (ctx₁.setMeta sid
          { ctx₁.tcpSockMeta sid with retxLeft := (ctx₁.tcpSockMeta sid).retxLeft - 1 }) :=
        kids_setMeta ctx₁ rfl rfl (.inl rfl)
      have hs₂ := hs.trans (hm.trans (kids_sockRetxSched _ sid))
      generalize sockRetxSched _ sid = r at hs₂ ⊢
      obtain ⟨ctx₂, ok₂⟩ := r
      dsimp only at hs₂ ⊢
      have hlt₂ : sid < ctx₂.nSocks := by rw [hs₂.nSocks]; exact hlt
      split
      · exact hs₂.then (handled_sockRetxExpire (h.kids hs₂) hlt₂)
      · exact hs₂.handled

theorem handled_timeout (h : Marked ctx) (entry : Nat) :
    Handled ctx (slowNext ctx (.timeout entry)) [] hit := by
  unfold slowNext
  dsimp only
  split
  · exact handled_refl
  · next sid _ =>
    split
    · next hlt =>
      have hs := kids_timerPopped ctx entry sid
      show Handled ctx (if ((timerPopped ctx entry sid).tcpSockMeta sid).retxKind = .none then
        timerPopped ctx entry sid else sockOnTimeout (timerPopped ctx entry sid) sid) [] hit
      split
      · exact hs.handled
      · exact hs.then (handled_sockOnTimeout (h.kids hs) (by rw [hs.nSocks]; exact hlt))
    · exact handled_refl

end timers

/-! ## Closing -/

section closing

variable {ctx : TcpSlowCtx} {sid : Nat} {hit : Prop}

/-- A socket without a mark waits nowhere. -/
theorem free_not_ready (hfree : (ctx.kid sid).mark = idInvalid) : isReady ctx sid = true → hit :=
  fun hr => absurd hfree (of_decide_eq_true hr).1

/-- A socket in a state no child is in has no mark. -/
theorem Marked.free_of_state (h : Marked ctx) (hlt : sid < ctx.nSocks)
    (hclosed : (ctx.sock sid).state ≠ .closed) (hopening : (ctx.sock sid).state ≠ .synRecv)
    (hpending : (ctx.sock sid).state ≠ .acceptPending) : (ctx.kid sid).mark = idInvalid := by
  apply Classical.byContradiction
  intro hm
  rcases (h.kid sid hlt).child hm with hs | ⟨hs, -⟩ | ⟨hs, -⟩
  · exact hclosed hs
  · exact hopening hs
  · exact hpending hs

theorem handled_sockShutdownStart (h : Marked ctx) (hlt : sid < ctx.nSocks)
    (hst : (ctx.sock sid).state = .established) :
    Handled ctx (sockShutdownStart ctx sid) [] hit := by
  have hfree : (ctx.kid sid).mark = idInvalid := by
    refine h.free_of_state hlt ?_ ?_ ?_
    all_goals (rw [hst]; exact SockState.noConfusion)
  unfold sockShutdownStart
  dsimp only
  have hr := rekeyed_setSock ctx sid
    { ctx.sock sid with flags := (ctx.sock sid).flags ||| sockFlagShut, state := .finWait1 }
  have hk : KidsSame ctx _ := hr.kids
    (fun hb => hb.rekeyed hr rfl (fun hc => absurd hc SockState.noConfusion)
      (fun hge => absurd hlt (Nat.not_lt_of_le hge)))
    (.inr ⟨hfree, SockState.noConfusion, SockState.noConfusion⟩)
  have hfin : ((ctx.setSock sid { ctx.sock sid with
      flags := (ctx.sock sid).flags ||| sockFlagShut, state := .finWait1 }).sock sid).state =
      .finWait1 := by
    rw [TcpSlowCtx.sock_setSock]
  generalize ctx.setSock sid _ = ctx₁ at hk hfin ⊢
  have hs := same_tcpCtlTx ctx₁ sid (tcpFin ||| tcpAck)
  have hs' := hk.trans (kids_tcpCtlTx ctx₁ sid (tcpFin ||| tcpAck))
  generalize tcpCtlTx ctx₁ sid _ = r at hs hs' ⊢
  obtain ⟨ctx₂, ok⟩ := r
  dsimp only at hs hs' ⊢
  split
  · exact handled_close hs' h.base hlt (.inl hfree) (free_not_ready hfree)
  · have hlt₂ : sid < ctx₂.nSocks := by rw [hs'.nSocks]; exact hlt
    have harm := @kids_tcpTimeoutArm ctx₂ sid .fin (hs'.base h.base) hlt₂
      (by rw [key_state (hs.key sid), hfin]; exact SockState.noConfusion)
      (.inl ((hs'.kid sid hlt).mark.trans hfree))
    have hs₃ := hs'.trans harm
    generalize tcpTimeoutArm ctx₂ sid .fin = r at hs₃ ⊢
    obtain ⟨ctx₃, ok₃⟩ := r
    dsimp only at hs₃ ⊢
    split
    · exact handled_close hs₃ h.base hlt (.inl hfree) (free_not_ready hfree)
    · exact hs₃.handled

theorem handled_appShutdown (h : Marked ctx) (how : Nat) :
    Handled ctx (appShutdown ctx sid how) [] hit := by
  unfold appShutdown
  split
  · exact handled_refl
  · next hlt =>
    split
    · exact handled_refl
    · next hst =>
      refine handled_sockShutdownStart h (by omega) ?_
      apply Classical.byContradiction
      intro hne
      exact hst (.inr hne)

theorem handled_sockAbortOpen (h : Marked ctx) (hlt : sid < ctx.nSocks)
    (hlive : (ctx.sock sid).state ≠ .closed) (hr : isReady ctx sid = true → hit) :
    Handled ctx (sockAbortOpen ctx sid) [] hit := by
  unfold sockAbortOpen
  dsimp only
  split
  · exact handled_close (kids_tcpCtlTx ctx sid _) h.base hlt (.inr hlive) hr
  · exact handled_close (KidsSame.refl ctx) h.base hlt (.inr hlive) hr

/-- The sockets as they were. -/
theorem kid_of_same {a b : TcpSlowCtx} (h : Same a b) (hm : b.sockMeta = a.sockMeta) (i : Nat) :
    b.kid i = a.kid i := by
  unfold TcpSlowCtx.kid
  rw [hm, key_state (h.key i)]

/-- What the loop over the children of a listener has done so far. -/
structure Aborted (a b : TcpSlowCtx) (listenerId : UInt32) (l : List Nat) : Prop where
  base : Base b
  nSocks : b.nSocks = a.nSocks
  kid : ∀ j, j < a.nSocks → b.kid j =
    if j ∈ l ∧ (a.kid j).mark = listenerId ∧ (a.kid j).state ≠ .closed then kidClosed
    else a.kid j
  listener : ∀ k, k ≠ listenerId.toNat → b.listeners k = a.listeners k
  id : ∀ i, (b.sock i).id = (a.sock i).id

theorem aborted_refl {listenerId : UInt32} (h : Base ctx) : Aborted ctx ctx listenerId [] :=
  ⟨h, rfl, fun _ _ => (if_neg (fun hc => List.not_mem_nil hc.1)).symm, fun _ _ => rfl,
    fun _ => rfl⟩

/-- A close, after the segment that announces it. -/
theorem aborted_close {c : TcpSlowCtx} {listenerId : UInt32} (h : Base ctx)
    (hlt : sid < ctx.nSocks) (hmark : (ctx.kid sid).mark = listenerId)
    (hlive : (ctx.kid sid).state ≠ .closed) (hs : Same ctx c)
    (hm : c.sockMeta = ctx.sockMeta) : Aborted ctx (tcpSockCloseFinal c sid) listenerId [sid] := by
  have hb := h.same hs.toSameCore
  have hlt' : sid < c.nSocks := by rw [hs.nSocks]; exact hlt
  obtain ⟨-, -, -, hat⟩ := gone_tcpSockCloseFinal hb hlt'
    (.inr (by rw [kid_of_same hs hm]; exact hlive))
  refine ⟨hat.base hb, hat.nSocks.trans hs.nSocks, ?_, ?_, ?_⟩
  · intro j hj
    rw [hat.kid j (by rw [hs.nSocks]; exact hj), kid_of_same hs hm]
    by_cases hi : j = sid
    · rw [if_pos hi, if_pos]
      rw [hi]
      exact ⟨List.mem_singleton.mpr rfl, hmark, hlive⟩
    · rw [if_neg hi, if_neg]
      intro hc
      exact hi (List.mem_singleton.mp hc.1)
  · intro k hk
    rw [hat.listener, ← hs.listeners]
    unfold detachedAt
    rw [if_neg]
    rw [kid_of_same hs hm, hmark]
    exact fun hc => hk hc.2
  · intro i
    rw [tcpSockCloseFinal_sock, ← key_id (hs.key i)]
    split
    · next hi => rw [hi]; rfl
    · rfl

theorem aborted_abortChild {listenerId : UInt32} (h : Base ctx) (hlt : sid < ctx.nSocks) :
    Aborted ctx (abortChild listenerId ctx sid) listenerId [sid] := by
  have hmeta : (ctx.tcpSockMeta sid).listenerId = (ctx.kid sid).mark := by
    rw [h.meta_eq hlt]
    rfl
  have hno : ¬((ctx.kid sid).mark = listenerId ∧ (ctx.kid sid).state ≠ .closed) →
      Aborted ctx ctx listenerId [sid] := by
    intro hne
    refine ⟨h, rfl, ?_, fun _ _ => rfl, fun _ => rfl⟩
    intro j _
    rw [if_neg]
    intro hc
    rw [List.mem_singleton.mp hc.1] at hc
    exact hne hc.2
  unfold abortChild
  rw [hmeta]
  split
  · next hne => exact hno (fun hc => hne hc.1)
  · next hmark =>
    split
    · next hcl => exact hno (fun hc => hc.2 hcl)
    · next hlive =>
      have hmark := Classical.not_not.mp hmark
      dsimp only
      split
      · exact aborted_close h hlt hmark hlive (same_tcpCtlTx ctx sid _)
          (ctlPktEnqueue_sockMeta _ _)
      · exact aborted_close h hlt hmark hlive (Same.refl ctx) rfl

/-- One loop after the other. -/
theorem Aborted.trans {a b c : TcpSlowCtx} {listenerId : UInt32} {l l' : List Nat}
    (hid : listenerId ≠ idInvalid) (h₁ : Aborted a b listenerId l)
    (h₂ : Aborted b c listenerId l') : Aborted a c listenerId (l ++ l') := by
  refine ⟨h₂.base, h₂.nSocks.trans h₁.nSocks, ?_, ?_, fun i => (h₂.id i).trans (h₁.id i)⟩
  · intro j hj
    rw [h₂.kid j (by rw [h₁.nSocks]; exact hj), h₁.kid j hj]
    by_cases hin : j ∈ l ∧ (a.kid j).mark = listenerId ∧ (a.kid j).state ≠ .closed
    · -- A socket that was closed has no mark any more.
      rw [if_pos hin, if_neg (fun hc => hid hc.2.1.symm), if_pos]
      exact ⟨List.mem_append_left _ hin.1, hin.2⟩
    · rw [if_neg hin]
      by_cases hin' : j ∈ l' ∧ (a.kid j).mark = listenerId ∧ (a.kid j).state ≠ .closed
      · rw [if_pos hin', if_pos]
        exact ⟨List.mem_append_right _ hin'.1, hin'.2⟩
      · rw [if_neg hin', if_neg]
        intro hc
        rcases List.mem_append.mp hc.1 with hl | hl
        · exact hin ⟨hl, hc.2⟩
        · exact hin' ⟨hl, hc.2⟩
  · intro k hk
    rw [h₂.listener k hk, h₁.listener k hk]

theorem aborted_children {listenerId : UInt32} (hid : listenerId ≠ idInvalid) (l : List Nat) :
    ∀ {ctx : TcpSlowCtx}, Base ctx → (∀ i ∈ l, i < ctx.nSocks) →
      Aborted ctx (l.foldl (abortChild listenerId) ctx) listenerId l := by
  induction l with
  | nil =>
    intro ctx h _
    exact aborted_refl h
  | cons i l ih =>
    intro ctx h hl
    have h₁ := @aborted_abortChild ctx i listenerId h (hl i List.mem_cons_self)
    refine h₁.trans hid (ih h₁.base ?_)
    intro j hj
    rw [h₁.nSocks]
    exact hl j (List.mem_cons_of_mem _ hj)

theorem tcpListenerRemove_sockMeta (port : UInt16) (sockId : UInt32) :
    (tcpListenerRemove ctx port sockId).sockMeta = ctx.sockMeta := by
  unfold tcpListenerRemove
  split
  · rfl
  · rfl

/-- **A listener closes**: its children are aborted, it is zeroed, and its
socket is closed. -/
theorem shut_sockCloseListen (h : Base ctx) (hlt : sid < ctx.nSocks)
    (hfree : (ctx.kid sid).mark = idInvalid) :
    KidMove ctx (sockCloseListen ctx sid) (.shut sid) := by
  have hid : UInt32.ofNat sid ≠ idInvalid := ofNat_ne_idInvalid (h.lt hlt)
  have hto : (UInt32.ofNat sid).toNat = sid := toNat_ofNat_sock (h.lt hlt)
  unfold sockCloseListen
  dsimp only
  have hs := same_tcpListenerRemove ctx (ctx.sock sid).localPort (ctx.sock sid).id
  have hk := kid_of_same hs (tcpListenerRemove_sockMeta _ _)
  generalize tcpListenerRemove ctx _ _ = ctx₁ at hs hk ⊢
  have hb₁ := h.same hs.toSameCore
  have hlt₁ : sid < ctx₁.nSocks := by rw [hs.nSocks]; exact hlt
  have hab := @aborted_children (UInt32.ofNat sid) hid (List.range ctx₁.nSocks) ctx₁ hb₁
    (fun i hi => List.mem_range.mp hi)
  rw [show tcpListenerAbortChildren ctx₁ sid =
    (List.range ctx₁.nSocks).foldl (abortChild (UInt32.ofNat sid)) ctx₁ by
      unfold tcpListenerAbortChildren; rw [hb₁.id sid hlt₁]]
  generalize (List.range ctx₁.nSocks).foldl _ ctx₁ = ctx₂ at hab ⊢
  have hlt₂ : sid < ctx₂.nSocks := by rw [hab.nSocks]; exact hlt₁
  unfold tcpListenerReset
  rw [hab.base.id sid hlt₂, hto]
  have hb₃ := hab.base.same (core_setListener ctx₂ sid listenerZero)
  have hmark : ((ctx₂.setListener sid listenerZero).kid sid).mark = idInvalid := by
    show (ctx₂.kid sid).mark = idInvalid
    rw [hab.kid sid hlt₁, hk sid]
    split
    · rfl
    · exact hfree
  obtain ⟨-, -, -, hat⟩ := @gone_tcpSockCloseFinal _ sid hb₃ hlt₂ (.inl hmark)
  refine ⟨fun _ => hat.base hb₃, hat.nSocks.trans (hab.nSocks.trans hs.nSocks), hfree, ?_, ?_⟩
  · intro j hj
    have hj₁ : j < ctx₁.nSocks := by rw [hs.nSocks]; exact hj
    rw [hat.kid j (by show j < ctx₂.nSocks; rw [hab.nSocks]; exact hj₁)]
    show (if j = sid then kidClosed else ctx₂.kid j) = _
    rw [hab.kid j hj₁, hk j]
    by_cases hj' : j = sid
    · rw [if_pos hj', if_pos (.inr hj')]
    · rw [if_neg hj']
      have hiff : (j ∈ List.range ctx₁.nSocks ∧ (ctx.kid j).mark = UInt32.ofNat sid ∧
          (ctx.kid j).state ≠ .closed) ↔
          (((ctx.kid j).of sid ∧ (ctx.kid j).state ≠ .closed) ∨ j = sid) := by
        constructor
        · rintro ⟨-, hm, hst⟩
          refine .inl ⟨⟨?_, ?_⟩, hst⟩
          · rw [hm]
            exact hid
          · rw [hm]
            exact hto
        · rintro (⟨⟨-, hm⟩, hst⟩ | hc)
          · refine ⟨List.mem_range.mpr hj₁, ?_, hst⟩
            apply UInt32.toNat.inj
            rw [hm, hto]
          · exact absurd hc hj'
      simp only [hiff]
  · rw [hat.listener]
    funext k
    unfold detachedAt
    rw [if_neg (fun hc => hc.1 hmark)]
    show (if k = sid then listenerZero else ctx₂.listeners k) =
      if k = sid then listenerZero else ctx.listeners k
    split
    · rfl
    · next hne =>
      rw [hab.listener k (by rw [hto]; exact hne), hs.listeners]

/-- A visible move, and nothing else. -/
theorem handled_visible {a b : TcpSlowCtx} {e : KidEv} (h : KidMove a b e)
    (he : e.visible = true) : Handled a b [e] hit := by
  refine ⟨[e], ⟨KidMoves.one h, ?_, ?_⟩, by rw [List.filter_singleton, he]; rfl⟩
  · intro i r hi
    rw [← List.mem_singleton.mp hi] at he
    cases he
  · intro i hi
    rw [← List.mem_singleton.mp hi] at he
    cases he

theorem handled_appClose (h : Marked ctx)
    (hfree : sid < ctx.nSocks → (ctx.kid sid).mark = idInvalid ∨ (ctx.sock sid).state ≠ .closed)
    (hr : sid < ctx.nSocks → isReady ctx sid = true → hit) :
    Handled ctx (appClose ctx sid)
      (if sid < ctx.nSocks ∧ (ctx.sock sid).state = .listen then [.shut sid] else []) hit := by
  unfold appClose
  split
  · next hge =>
    rw [if_neg (fun hc => absurd hc.1 (Nat.not_lt_of_le hge))]
    exact handled_refl
  · next hlt =>
    have hlt : sid < ctx.nSocks := by omega
    have hclose : Handled ctx (tcpSockCloseFinal ctx sid) [] hit :=
      handled_close (KidsSame.refl ctx) h.base hlt (hfree hlt) (hr hlt)
    -- an open that is given up is no `shut`
    have habort : ∀ {st}, (ctx.sock sid).state = st → st ≠ .closed → st ≠ .listen →
        Handled ctx (sockAbortOpen ctx sid)
          (if sid < ctx.nSocks ∧ (ctx.sock sid).state = .listen then [.shut sid] else []) hit := by
      intro st hst hlive hlisten
      rw [if_neg (fun hc => hlisten (hst ▸ hc.2))]
      exact handled_sockAbortOpen h hlt (hst ▸ hlive) (hr hlt)
    split
    · next hst =>
      rw [if_pos ⟨hlt, hst⟩]
      refine handled_visible (shut_sockCloseListen h.base hlt (h.free_of_state hlt ?_ ?_ ?_)) rfl
      all_goals (rw [hst]; exact SockState.noConfusion)
    · next hst => exact habort hst (by decide) (by decide)
    · next hst => exact habort hst (by decide) (by decide)
    · next hst => exact habort hst (by decide) (by decide)
    · next hst =>
      rw [if_neg (fun hc => by rw [hst] at hc; cases hc.2)]
      exact handled_sockShutdownStart h hlt hst
    · next hst _ _ _ _ =>
      rw [if_neg (fun hc => hst hc.2)]
      exact hclose

end closing

/-! ## Accepting -/

section accepting

/-- The head is inside the ring, and every filled cell holds a child that
waits. -/
structure CellsWait (ctx : TcpSlowCtx) (k : Nat) : Prop where
  head : (ctx.listeners k).readyUsed ≠ 0 →
    (ctx.listeners k).readyHead.toNat < (ctx.listeners k).backlogLen.toNat
  cell : ∀ pos, pos < (ctx.listeners k).backlogLen.toNat →
    (ctx.listeners k).readySids pos = idInvalid ∨
    ∃ i, (ctx.listeners k).readySids pos = UInt32.ofNat i ∧ Waits ctx k i

variable {ctx : TcpSlowCtx} {k : Nat} {hit : Prop}

/-- Nothing but listener `k` is different. -/
theorem skipped_setListener (hact : (ctx.listeners k).active = true)
    (hused : (ctx.listeners k).readyUsed ≠ 0)
    (hcell : (ctx.listeners k).readySids (ctx.listeners k).readyHead.toNat = idInvalid) :
    KidMove ctx (ctx.setListener k (ringPop (ctx.listeners k))) (.skipped k) :=
  ⟨hact, hused, hcell, fun hb => hb.same (core_setListener ctx k _), rfl, fun _ _ => rfl, rfl⟩

/-- One cell less is filled. -/
theorem CellsWait.pop (h : CellsWait ctx k) (hused : (ctx.listeners k).readyUsed ≠ 0) :
    CellsWait (ctx.setListener k (ringPop (ctx.listeners k))) k := by
  have hl : (ctx.setListener k (ringPop (ctx.listeners k))).listeners k =
      ringPop (ctx.listeners k) := if_pos rfl
  have hhead := h.head hused
  refine ⟨?_, ?_⟩
  · intro _
    rw [hl]
    show (if (ctx.listeners k).readyHead + 1 ≥ (ctx.listeners k).backlogLen then (0 : UInt32)
      else (ctx.listeners k).readyHead + 1).toNat < _
    split
    · show 0 < (ctx.listeners k).backlogLen.toNat
      omega
    · next hge => exact UInt32.lt_iff_toNat_lt.mp (UInt32.not_le.mp hge)
  · intro pos hpos
    rw [hl] at hpos ⊢
    show (if pos = (ctx.listeners k).readyHead.toNat then idInvalid
        else (ctx.listeners k).readySids pos) = _ ∨
      ∃ i, (if pos = (ctx.listeners k).readyHead.toNat then idInvalid
        else (ctx.listeners k).readySids pos) = _ ∧ _
    split
    · exact .inl rfl
    · exact h.cell pos hpos

/-- Only empty cells were dropped. -/
def Skips (k : Nat) (l : List KidEv) : Prop := ∀ e ∈ l, e = .skipped k

theorem Skips.not_gone {l : List KidEv} (h : Skips k l) (i : Nat) (r : Bool) : .gone i r ∉ l :=
  fun hi => KidEv.noConfusion (h _ hi)

theorem Skips.filter {l : List KidEv} (h : Skips k l) : l.filter KidEv.visible = [] := by
  apply List.filter_eq_nil_iff.mpr
  intro e he
  rw [h e he]
  exact Bool.false_ne_true

/-- What `tcp_listener_ready_pop` did: it dropped empty cells, and then the
first filled one. -/
structure Popped (ctx : TcpSlowCtx) (k : Nat) (r : TcpSlowCtx × Option Nat) : Prop where
  none : r.2 = none → ((r.1.listeners k).active = false ∨ (r.1.listeners k).readyUsed = 0) ∧
    ∃ l, Skips k l ∧ KidMoves ctx l r.1
  some : ∀ i, r.2 = some i → ∃ l c, Skips k l ∧ KidMoves ctx l c ∧ Waits c k i ∧
    (c.listeners k).active = true ∧ (c.listeners k).readyUsed ≠ 0 ∧
    (c.listeners k).readySids (c.listeners k).readyHead.toNat = UInt32.ofNat i ∧
    r.1 = c.setListener k (ringPop (c.listeners k))

theorem popped_readyPopLoop {listenerId : UInt32} (hk : listenerId.toNat = k) (fuel : Nat) :
    ∀ {ctx : TcpSlowCtx}, Base ctx → CellsWait ctx k →
      (ctx.listeners k).readyUsed.toNat ≤ fuel →
      Popped ctx k (readyPopLoop listenerId fuel ctx) := by
  induction fuel with
  | zero =>
    intro ctx _ _ hfuel
    have hzero : (ctx.listeners k).readyUsed = 0 := UInt32.toNat.inj (Nat.le_zero.mp hfuel)
    exact ⟨fun _ => ⟨.inr hzero, [], nofun, KidMoves.nil⟩, nofun⟩
  | succ fuel ih =>
    intro ctx h hcells hfuel
    rw [readyPopLoop_succ, hk]
    dsimp only
    split
    · next hstop =>
      refine ⟨fun _ => ⟨?_, [], nofun, KidMoves.nil⟩, nofun⟩
      rcases hstop with hs | hs
      · exact .inl (Bool.not_eq_true' _ ▸ hs)
      · exact .inr hs
    · next hgo =>
      have hact : (ctx.listeners k).active = true := by
        cases ha : (ctx.listeners k).active with
        | true => rfl
        | false => exact absurd (.inl (by rw [ha]; rfl)) hgo
      have hused : (ctx.listeners k).readyUsed ≠ 0 := fun hz => hgo (.inr hz)
      have hless :
          ((ctx.setListener k (ringPop (ctx.listeners k))).listeners k).readyUsed.toNat ≤ fuel := by
        rw [show (ctx.setListener k (ringPop (ctx.listeners k))).listeners k =
          ringPop (ctx.listeners k) from if_pos rfl]
        show ((ctx.listeners k).readyUsed - 1).toNat ≤ fuel
        rw [toNat_pred hused]
        omega
      rcases hcells.cell _ (hcells.head hused) with hcell | ⟨i, hcell, hwait⟩
      · -- An empty cell: the loop goes on without it.
        rw [if_pos hcell]
        have hskip := skipped_setListener hact hused hcell
        have hrest := @ih (ctx.setListener k (ringPop (ctx.listeners k)))
          (h.same (core_setListener ctx k _)) (hcells.pop hused) hless
        have hcons : ∀ {l}, Skips k l → Skips k ([.skipped k] ++ l) := by
          intro l hl e he
          rcases List.mem_append.mp he with he | he
          · exact List.mem_singleton.mp he
          · exact hl e he
        refine ⟨?_, ?_⟩
        · intro hnone
          obtain ⟨hend, l, hl, hm⟩ := hrest.none hnone
          exact ⟨hend, _, hcons hl, (KidMoves.one hskip).trans hm⟩
        · intro j hsome
          obtain ⟨l, c, hl, hm, hc⟩ := hrest.some j hsome
          exact ⟨_, c, hcons hl, (KidMoves.one hskip).trans hm, hc⟩
      · have hi := hwait.1
        have hto : (UInt32.ofNat i).toNat = i := toNat_ofNat_sock (h.lt hi)
        have hmark : (ctx.tcpSockMeta i).listenerId = listenerId := by
          rw [h.meta_eq hi]
          apply UInt32.toNat.inj
          rw [hk]
          exact hwait.2.1.2
        have hst : (ctx.sock i).state = .acceptPending := hwait.2.2
        rw [hcell, if_neg (ofNat_ne_idInvalid (h.lt hi)), hto,
          if_neg (not_not_intro hmark), if_neg (not_not_intro hst)]
        refine ⟨nofun, ?_⟩
        rintro j hj
        cases hj
        exact ⟨[], ctx, nofun, KidMoves.nil, hwait, hact, hused, hcell, rfl⟩

theorem popped_tcpListenerReadyPop (h : Base ctx) (hlt : k < ctx.nSocks)
    (hcells : CellsWait ctx k) : Popped ctx k (tcpListenerReadyPop ctx (UInt32.ofNat k)) := by
  have hto : (UInt32.ofNat k).toNat = k := toNat_ofNat_sock (h.lt hlt)
  refine popped_readyPopLoop hto _ h hcells ?_
  simp only [hto, Nat.le_refl]

theorem sockAcceptOwn_kid {i : Nat} (h : Base ctx) (hi : i < ctx.nSocks) (appId ctxId : UInt8)
    (opaquePtr : UInt64) (j : Nat) :
    (sockAcceptOwn ctx i appId ctxId opaquePtr).kid j =
      if j = i then { ctx.kid i with mark := idInvalid, state := .established }
      else ctx.kid j := by
  unfold sockAcceptOwn TcpSlowCtx.kid
  dsimp only
  by_cases hji : j = i
  · rw [if_pos hji, hji, TcpSlowCtx.sock_setSock]
    show Kid.mk (SockMeta.listenerId (if i = (ctx.sock i).id.toNat then _ else _)) _
      (SockMeta.retxKind (if i = (ctx.sock i).id.toNat then _ else _)) = _
    rw [if_pos (h.toNat_id hi).symm]
    show Kid.mk idInvalid SockState.established (ctx.tcpSockMeta i).retxKind = _
    rw [h.meta_eq hi]
  · rw [if_neg hji, TcpSlowCtx.sock_setSock_ne _ _ hji]
    show Kid.mk (SockMeta.listenerId (if j = (ctx.sock i).id.toNat then _ else _)) _
      (SockMeta.retxKind (if j = (ctx.sock i).id.toNat then _ else _)) = _
    rw [if_neg (by rw [h.toNat_id hi]; exact hji)]
    rfl

/-- **The child is handed out.** -/
theorem taken_sockAcceptOwn {i : Nat} (h : Base ctx) (hwait : Waits ctx k i)
    (hact : (ctx.listeners k).active = true) (hused : (ctx.listeners k).readyUsed ≠ 0)
    (hcell : (ctx.listeners k).readySids (ctx.listeners k).readyHead.toNat = UInt32.ofNat i)
    (appId ctxId : UInt8) (opaquePtr : UInt64) :
    KidMove ctx
      (let c := sockAcceptOwn (ctx.setListener k (ringPop (ctx.listeners k))) i appId ctxId opaquePtr
       c.setListener k (listenerBacklogPut (c.listeners k))) (.taken k i) := by
  have hi := hwait.1
  have hb := h.same (core_setListener ctx k (ringPop (ctx.listeners k)))
  have hsteps := @steps_sockAcceptOwn (ctx.setListener k (ringPop (ctx.listeners k))) i hi
    hwait.2.2 appId ctxId opaquePtr
  refine ⟨hwait, hact, hused, hcell, fun _ => ?_, rfl, ?_, ?_⟩
  · exact (hb.steps hsteps).same (core_setListener _ _ _)
  · intro j _
    exact sockAcceptOwn_kid hb hi appId ctxId opaquePtr j
  · funext j
    show (if j = k then listenerBacklogPut (if k = k then ringPop (ctx.listeners k) else _)
      else if j = k then _ else ctx.listeners j) = if j = k then _ else ctx.listeners j
    rw [if_pos rfl]
    split
    · rfl
    · rfl

/-- The child an accept takes. -/
def acceptTakes (ctx : TcpSlowCtx) (sid : Nat) : List KidEv :=
  if sid < ctx.nSocks ∧ (ctx.sock sid).state = .listen then
    match (tcpListenerReadyPop ctx (ctx.sock sid).id).2 with
    | none => []
    | some i => [.taken sid i]
  else []

theorem handled_appAccept {sid : Nat} (h : Marked ctx) (hcells : CellsWait ctx sid)
    (appId ctxId : UInt8) (opaquePtr : UInt64) :
    Handled ctx (appAccept ctx appId ctxId sid opaquePtr) (acceptTakes ctx sid) hit := by
  unfold appAccept acceptTakes
  dsimp only
  split
  · next hge =>
    rw [if_neg (fun hc => absurd hc.1 (Nat.not_lt_of_le hge))]
    exact (kids_appSubmit ctx _ _ _).handled
  · next hlt =>
    have hlt : sid < ctx.nSocks := by omega
    split
    · next hst =>
      rw [if_neg (fun hc => hst hc.2)]
      exact (kids_appSubmit ctx _ _ _).handled
    · next hst =>
      rw [if_pos ⟨hlt, Classical.not_not.mp hst⟩, h.base.id sid hlt]
      have hto : (UInt32.ofNat sid).toNat = sid := toNat_ofNat_sock (h.base.lt hlt)
      have hpop := popped_tcpListenerReadyPop h.base hlt hcells
      generalize tcpListenerReadyPop ctx (UInt32.ofNat sid) = r at hpop ⊢
      obtain ⟨ctx₁, child⟩ := r
      cases child with
      | none =>
        obtain ⟨-, l, hl, hm⟩ := hpop.none rfl
        have hh : Handled ctx ctx₁ _ hit := hm.then hl.not_gone handled_refl
        rw [hl.filter] at hh
        exact hh.calm (kids_appSubmit _ _ _ _) (fun j => key_state ((same_appSubmit _ _ _ _).key j))
      | some i =>
        obtain ⟨l, c, hl, hm, hwait, hact, hused, hcell, hr⟩ := hpop.some i rfl
        dsimp only at hr ⊢
        rw [hr, hto]
        have hb := (h.moves hm).base
        have htake : Handled c _ _ hit := handled_visible
          (taken_sockAcceptOwn hb hwait hact hused hcell appId ctxId opaquePtr) rfl
        have hh := hm.then hl.not_gone htake
        rw [hl.filter] at hh
        refine hh.calm (kids_appSubmit _ _ _ _) ?_
        intro j
        exact key_state ((same_appSubmit _ _ _ _).key j)

end accepting

end Chamelio.Tcp
