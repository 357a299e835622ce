import Chamelio.Tcp.SlowReqSpec

/-!
# Retransmission timers

A socket that waits for an answer has a timer: a SYN-ACK in `SYN_SENT`, the
last ACK of the handshake in `SYN_RECV`, the ACK of its FIN in `FIN_WAIT1`.
The timer is an entry of the timeout manager, `meta->timer` points to it and
`retx_kind` says what to send again.

The invariant has two halves. `Linked` ties the entries of the manager to
the pointers of the sockets, whatever their states; every function keeps it.
`TmOk` ties the timer of one socket to its state; a handler breaks it for
the socket it works on and repairs it before it returns (`TimerBut`).

Mirroring notes:

- Nothing here looks at expiry times: any live entry may fire.
- An expired entry is taken out of the manager before its socket is handled,
  so there is room to insert it again. That is why the path of
  `sock_on_timeout` on which the new timer cannot be had, and on which the
  kind is already cleared, is never taken.
-/

namespace Chamelio.Tcp

open Chamelio.Lib Chamelio.Util Chamelio.Pkt Chamelio.Fast

/-- What a socket's timer depends on. -/
structure Tm where
  state : SockState
  timer : Option Nat
  kind : RetxKind

def TcpSlowCtx.tm (ctx : TcpSlowCtx) (i : Nat) : Tm :=
  { state := (ctx.sock i).state, timer := (ctx.sockMeta i).timer
    kind := (ctx.sockMeta i).retxKind }

/-- What a socket in a state sends again. -/
def timerKind : SockState → RetxKind
  | .synSent => .syn
  | .synRecv => .synack
  | .finWait1 => .fin
  | _ => .none

/-- The timer fits the state. -/
structure TmOk (t : Tm) : Prop where
  kind : t.kind = timerKind t.state
  timer : t.timer.isSome = true ↔ t.kind ≠ .none

/-- The entries of the manager are the timers of the sockets. -/
structure Linked (ctx : TcpSlowCtx) : Prop where
  ids : ∀ i, i < ctx.nSocks → (ctx.sock i).id.toNat = i
  link : ∀ e i, ctx.tomgr.entries e = some i ↔ i < ctx.nSocks ∧ (ctx.sockMeta i).timer = some e
  small : ∀ e i, ctx.tomgr.entries e = some i → e < tomgrSize
  fresh : ∀ i, ctx.nSocks ≤ i →
    (ctx.sockMeta i).timer = none ∧ (ctx.sockMeta i).retxKind = .none

/-- Every timer fits but that of socket `x`. -/
structure TimerBut (ctx : TcpSlowCtx) (x : Nat) : Prop where
  linked : Linked ctx
  fit : ∀ i, i < ctx.nSocks → i ≠ x → TmOk (ctx.tm i)

structure TimerInv (ctx : TcpSlowCtx) : Prop where
  linked : Linked ctx
  fit : ∀ i, i < ctx.nSocks → TmOk (ctx.tm i)

theorem TimerInv.but {ctx : TcpSlowCtx} (h : TimerInv ctx) (x : Nat) : TimerBut ctx x :=
  ⟨h.linked, fun i hi _ => h.fit i hi⟩

theorem TimerBut.done {ctx : TcpSlowCtx} {x : Nat} (h : TimerBut ctx x) (hx : TmOk (ctx.tm x)) :
    TimerInv ctx := by
  refine ⟨h.linked, ?_⟩
  intro i hi
  by_cases hix : i = x
  · rw [hix]
    exact hx
  · exact h.fit i hi hix

theorem Linked.meta_eq {ctx : TcpSlowCtx} (h : Linked ctx) {i : Nat} (hi : i < ctx.nSocks) :
    ctx.tcpSockMeta i = ctx.sockMeta i := by
  unfold TcpSlowCtx.tcpSockMeta
  rw [h.ids i hi]

/-- A socket that sends nothing again, with its timer stopped. -/
theorem TmOk.stopped {t : Tm} (hs : timerKind t.state = .none) (ht : t.timer = none)
    (hk : t.kind = .none) : TmOk t := by
  refine ⟨by rw [hk, hs], ?_⟩
  rw [ht, hk]
  exact ⟨nofun, fun hc => absurd rfl hc⟩

/-- The states in which a socket sends nothing again. -/
theorem TmOk.idle {t : Tm} (h : TmOk t) (hs : timerKind t.state = .none) :
    t.timer = none ∧ t.kind = .none := by
  have hk : t.kind = .none := h.kind.trans hs
  refine ⟨?_, hk⟩
  cases ht : t.timer with
  | none => rfl
  | some e => exact absurd hk (h.timer.mp (by rw [ht]; rfl))

/-! ## Steps that leave the timers alone -/

/-- No timer differs, and no state but that of socket `x`. -/
structure TmAt (a b : TcpSlowCtx) (x : Nat) : Prop where
  nSocks : b.nSocks = a.nSocks
  tomgr : b.tomgr = a.tomgr
  id : ∀ i, (b.sock i).id = (a.sock i).id
  timer : ∀ i, (b.sockMeta i).timer = (a.sockMeta i).timer
  kind : ∀ i, (b.sockMeta i).retxKind = (a.sockMeta i).retxKind
  state : ∀ i, i ≠ x → (b.sock i).state = (a.sock i).state

/-- No timer and no state differs. -/
structure TmSame (a b : TcpSlowCtx) : Prop where
  at_ : ∀ x, TmAt a b x
  state : ∀ i, (b.sock i).state = (a.sock i).state

section keeping

variable {a b c : TcpSlowCtx} {x : Nat}

theorem TmAt.same (h : TmAt a b x) (hx : (b.sock x).state = (a.sock x).state) : TmSame a b := by
  have hst : ∀ i, (b.sock i).state = (a.sock i).state := by
    intro i
    by_cases hi : i = x
    · rw [hi, hx]
    · exact h.state i hi
  exact ⟨fun _ => ⟨h.nSocks, h.tomgr, h.id, h.timer, h.kind, fun i _ => hst i⟩, hst⟩

theorem TmSame.refl (a : TcpSlowCtx) : TmSame a a :=
  ⟨fun _ => ⟨rfl, rfl, fun _ => rfl, fun _ => rfl, fun _ => rfl, fun _ _ => rfl⟩, fun _ => rfl⟩

theorem TmAt.trans (h₁ : TmAt a b x) (h₂ : TmAt b c x) : TmAt a c x :=
  ⟨h₂.nSocks.trans h₁.nSocks, h₂.tomgr.trans h₁.tomgr, fun i => (h₂.id i).trans (h₁.id i),
    fun i => (h₂.timer i).trans (h₁.timer i), fun i => (h₂.kind i).trans (h₁.kind i),
    fun i hi => (h₂.state i hi).trans (h₁.state i hi)⟩

theorem TmSame.trans (h₁ : TmSame a b) (h₂ : TmSame b c) : TmSame a c :=
  ⟨fun x => (h₁.at_ x).trans (h₂.at_ x), fun i => (h₂.state i).trans (h₁.state i)⟩

theorem TmSame.nSocks (h : TmSame a b) : b.nSocks = a.nSocks := (h.at_ 0).nSocks

theorem TmSame.tm (h : TmSame a b) (i : Nat) : b.tm i = a.tm i := by
  unfold TcpSlowCtx.tm
  rw [h.state, (h.at_ i).timer, (h.at_ i).kind]

theorem Linked.at (h : Linked a) (hs : TmAt a b x) : Linked b := by
  refine ⟨?_, ?_, ?_, ?_⟩
  · intro i hi
    rw [hs.nSocks] at hi
    rw [hs.id i]
    exact h.ids i hi
  · intro e i
    rw [hs.tomgr, hs.nSocks, hs.timer i]
    exact h.link e i
  · intro e i he
    rw [hs.tomgr] at he
    exact h.small e i he
  · intro i hi
    rw [hs.nSocks] at hi
    rw [hs.timer i, hs.kind i]
    exact h.fresh i hi

theorem TimerBut.at (h : TimerBut a x) (hs : TmAt a b x) : TimerBut b x := by
  refine ⟨h.linked.at hs, ?_⟩
  intro i hi hix
  rw [hs.nSocks] at hi
  have htm : b.tm i = a.tm i := by
    unfold TcpSlowCtx.tm
    rw [hs.state i hix, hs.timer i, hs.kind i]
  rw [htm]
  exact h.fit i hi hix

theorem TimerBut.same (h : TimerBut a x) (hs : TmSame a b) : TimerBut b x := h.at (hs.at_ x)

theorem TimerInv.same (h : TimerInv a) (hs : TmSame a b) : TimerInv b := by
  refine ⟨h.linked.at (hs.at_ 0), ?_⟩
  intro i hi
  rw [hs.nSocks] at hi
  rw [hs.tm i]
  exact h.fit i hi

/-- Same keys, same metadata, same manager. -/
theorem Same.tm (h : Same a b) (hm : b.sockMeta = a.sockMeta) (ht : b.tomgr = a.tomgr) :
    TmSame a b :=
  ⟨fun _ => ⟨h.nSocks, ht, fun i => congrArg SockKey.id (h.key i), fun i => by rw [hm],
    fun i => by rw [hm], fun i _ => key_state (h.key i)⟩, fun i => key_state (h.key i)⟩

end keeping

section calm

variable (ctx : TcpSlowCtx)

/-- One socket is stored, under its id. -/
theorem tmAt_setSock {sid : Nat} {s : TcpSock} (hid : s.id = (ctx.sock sid).id) :
    TmAt ctx (ctx.setSock sid s) sid := by
  refine ⟨rfl, rfl, ?_, fun _ => rfl, fun _ => rfl, ?_⟩
  · intro i
    by_cases hi : i = sid
    · rw [hi, TcpSlowCtx.sock_setSock, hid]
    · rw [TcpSlowCtx.sock_setSock_ne _ _ hi]
  · intro i hi
    rw [TcpSlowCtx.sock_setSock_ne _ _ hi]

theorem tm_setSock {sid : Nat} {s : TcpSock} (hid : s.id = (ctx.sock sid).id)
    (hst : s.state = (ctx.sock sid).state) : TmSame ctx (ctx.setSock sid s) :=
  (tmAt_setSock ctx hid).same (by rw [TcpSlowCtx.sock_setSock, hst])

/-- Metadata stored with the timer it had. -/
theorem tm_setMeta {sid : Nat} {m : SockMeta} (ht : m.timer = (ctx.tcpSockMeta sid).timer)
    (hk : m.retxKind = (ctx.tcpSockMeta sid).retxKind) : TmSame ctx (ctx.setMeta sid m) := by
  refine ⟨fun _ => ⟨rfl, rfl, fun _ => rfl, ?_, ?_, fun _ _ => rfl⟩, fun _ => rfl⟩
  · intro i
    show SockMeta.timer (if i = (ctx.sock sid).id.toNat then m else ctx.sockMeta i) = _
    split
    · next hi => rw [ht, hi]; rfl
    · rfl
  · intro i
    show SockMeta.retxKind (if i = (ctx.sock sid).id.toNat then m else ctx.sockMeta i) = _
    split
    · next hi => rw [hk, hi]; rfl
    · rfl

theorem tm_setListener (k : Nat) (l : Listener) : TmSame ctx (ctx.setListener k l) :=
  ⟨fun _ => ⟨rfl, rfl, fun _ => rfl, fun _ => rfl, fun _ => rfl, fun _ _ => rfl⟩, fun _ => rfl⟩

theorem tm_ctlPktEnqueue (c : CtlSeg) : TmSame ctx (ctlPktEnqueue ctx c).1 := by
  refine (same_ctlPktEnqueue ctx c).tm (ctlPktEnqueue_sockMeta ctx c) ?_
  rw [ctlPktEnqueue_fields]

theorem tm_tcpCtlTx (sid : Nat) (flags : UInt16) : TmSame ctx (tcpCtlTx ctx sid flags).1 :=
  tm_ctlPktEnqueue _ _

theorem tm_replyRst (rx : TcpRxCtl) (seq ack : UInt32) : TmSame ctx (replyRst ctx rx seq ack) :=
  tm_ctlPktEnqueue _ _

theorem tm_sockRetxTx (sid : Nat) : TmSame ctx (sockRetxTx ctx sid).1 := by
  unfold sockRetxTx
  dsimp only
  split
  · exact TmSame.refl _
  · exact tm_ctlPktEnqueue _ _

theorem tm_appSubmit (appId ctxId : UInt8) (res : AppRes) :
    TmSame ctx (appSubmit ctx appId ctxId res) := by
  refine (same_appSubmit ctx appId ctxId res).tm (appSubmit_sockMeta ctx appId ctxId res) ?_
  unfold appSubmit
  split
  · rfl
  · rfl

theorem tm_tcpFlowInsert {c : TcpSlowCtx} {sid : Nat} (h : tcpFlowInsert ctx sid = some c) :
    TmSame ctx c := by
  obtain ⟨s, -, -, rfl⟩ := tcpFlowInsert_eq_some h
  exact ⟨fun _ => ⟨rfl, rfl, fun _ => rfl, fun _ => rfl, fun _ => rfl, fun _ _ => rfl⟩,
    fun _ => rfl⟩

theorem tm_slowSockTsRx (sid : Nat) (rx : TcpRxCtl) : TmSame ctx (slowSockTsRx ctx sid rx) := by
  refine (same_slowSockTsRx ctx sid rx).tm (slowSockTsRx_sockMeta ctx sid rx) ?_
  unfold slowSockTsRx
  split
  · rfl
  · dsimp only
    split
    · rfl
    · split
      · rfl
      · rfl

theorem tm_tcpListenerLookup (localIp : UInt32) (port : UInt16) :
    TmSame ctx (tcpListenerLookup ctx localIp port).1 := by
  refine (same_tcpListenerLookup ctx localIp port).tm (tcpListenerLookup_sockMeta ctx _ _) ?_
  unfold tcpListenerLookup
  dsimp only
  split
  · rfl
  · split
    · rfl
    · split
      · rfl
      · rfl

theorem tm_tcpListenerRemove (port : UInt16) (sockId : UInt32) :
    TmSame ctx (tcpListenerRemove ctx port sockId) := by
  unfold tcpListenerRemove
  split
  · exact TmSame.refl _
  · exact ⟨fun _ => ⟨rfl, rfl, fun _ => rfl, fun _ => rfl, fun _ => rfl, fun _ _ => rfl⟩,
      fun _ => rfl⟩

theorem tm_tcpListenerInsert {c : TcpSlowCtx} {port : UInt16} {sockId : UInt32}
    {reuseport : Bool} (h : tcpListenerInsert ctx port sockId reuseport = some c) :
    TmSame ctx c := by
  unfold tcpListenerInsert at h
  rw [Option.map_eq_some_iff] at h
  obtain ⟨p, -, rfl⟩ := h
  exact ⟨fun _ => ⟨rfl, rfl, fun _ => rfl, fun _ => rfl, fun _ => rfl, fun _ _ => rfl⟩,
    fun _ => rfl⟩

theorem tm_bindPort (sid : Nat) : TmSame ctx (bindPort ctx sid).1 := by
  unfold bindPort sockAutobindPort
  dsimp only
  split
  · split
    · exact TmSame.refl _
    · split
      · exact TmSame.refl _
      · next c hc =>
        unfold tcpBoundInsert at hc
        rw [Option.map_eq_some_iff] at hc
        obtain ⟨p, -, rfl⟩ := hc
        have h₁ : TmSame ctx (setBound ctx (tcpBoundFindFree ctx).toNat p) :=
          ⟨fun _ => ⟨rfl, rfl, fun _ => rfl, fun _ => rfl, fun _ => rfl, fun _ _ => rfl⟩,
            fun _ => rfl⟩
        refine TmSame.trans ?_ (tm_setSock _ rfl rfl)
        exact h₁.trans (tm_setMeta _ rfl rfl)
  · exact TmSame.refl _

theorem tm_bindIp (sid : Nat) : TmSame ctx (bindIp ctx sid) := by
  unfold bindIp sockAutobindIp
  split
  · exact tm_setSock ctx rfl rfl
  · exact TmSame.refl _

/-- Taking children from a ready ring. -/
theorem tm_readyPopLoop (listenerId : UInt32) (fuel : Nat) (ctx : TcpSlowCtx) :
    TmSame ctx (readyPopLoop listenerId fuel ctx).1 := by
  induction fuel generalizing ctx with
  | zero => exact TmSame.refl ctx
  | succ fuel ih =>
    rw [readyPopLoop_succ]
    dsimp only
    have h₁ := tm_setListener ctx listenerId.toNat (ringPop (ctx.listeners listenerId.toNat))
    split
    · exact TmSame.refl ctx
    · split
      · exact h₁.trans (ih _)
      · split
        · exact h₁.trans (ih _)
        · split
          · refine h₁.trans (TmSame.trans ?_ (ih _))
            refine TmSame.trans ?_ (tm_setListener _ _ _)
            exact tm_setMeta _ rfl rfl
          · exact h₁

/-- The fast path has no timers. -/
theorem tm_withFast {fast : TcpCtx} (h : ∀ i, ((ctx.withFast fast).sock i).id = (ctx.sock i).id ∧
    ((ctx.withFast fast).sock i).state = (ctx.sock i).state) : TmSame ctx (ctx.withFast fast) :=
  ⟨fun _ => ⟨rfl, rfl, fun i => (h i).1, fun _ => rfl, fun _ => rfl, fun i _ => (h i).2⟩,
    fun i => (h i).2⟩

end calm

/-! ## Stopping a timer -/

/-- The timer of socket `x` was stopped. -/
structure Stopped (a b : TcpSlowCtx) (x : Nat) : Prop where
  nSocks : b.nSocks = a.nSocks
  tomgr : b.tomgr = tomgrCancel a.tomgr (a.sockMeta x).timer
  id : ∀ i, (b.sock i).id = (a.sock i).id
  timer : ∀ i, (b.sockMeta i).timer = if i = x then none else (a.sockMeta i).timer
  kind : ∀ i, (b.sockMeta i).retxKind = if i = x then .none else (a.sockMeta i).retxKind
  state : ∀ i, i ≠ x → (b.sock i).state = (a.sock i).state

section stopping

variable {a b : TcpSlowCtx} {x : Nat}

/-- The entry of `x` is free, the others are as they were. -/
theorem Linked.cancel_entries (h : Linked a) (hx : x < a.nSocks) (e i : Nat) :
    (tomgrCancel a.tomgr (a.sockMeta x).timer).entries e = some i ↔
      i ≠ x ∧ a.tomgr.entries e = some i := by
  cases ht : (a.sockMeta x).timer with
  | none =>
    refine ⟨fun he => ⟨?_, he⟩, fun he => he.2⟩
    rintro rfl
    have htimer := ((h.link e i).mp he).2
    rw [ht] at htimer
    cases htimer
  | some e' =>
    show (if e = e' then none else a.tomgr.entries e) = some i ↔ _
    by_cases hee : e = e'
    · rw [if_pos hee, hee]
      refine ⟨nofun, ?_⟩
      rintro ⟨hne, he⟩
      -- The entry is that of `x`.
      have hown := (h.link e' x).mpr ⟨hx, ht⟩
      rw [hown] at he
      cases he
      exact absurd rfl hne
    · rw [if_neg hee]
      refine ⟨fun he => ⟨?_, he⟩, fun he => he.2⟩
      rintro rfl
      have htimer := ((h.link e i).mp he).2
      rw [ht] at htimer
      cases htimer
      exact hee rfl

theorem Linked.stopped (h : Linked a) (hx : x < a.nSocks) (hs : Stopped a b x) : Linked b := by
  refine ⟨?_, ?_, ?_, ?_⟩
  · intro i hi
    rw [hs.nSocks] at hi
    rw [hs.id i]
    exact h.ids i hi
  · intro e i
    rw [hs.tomgr, h.cancel_entries hx, h.link, hs.nSocks, hs.timer i]
    by_cases hix : i = x
    · rw [if_pos hix]
      exact ⟨fun hc => absurd hix hc.1, fun hc => nomatch hc.2⟩
    · rw [if_neg hix]
      exact ⟨fun hc => hc.2, fun hc => ⟨hix, hc⟩⟩
  · intro e i he
    rw [hs.tomgr, h.cancel_entries hx] at he
    exact h.small e i he.2
  · intro i hi
    rw [hs.nSocks] at hi
    rw [hs.timer i, hs.kind i, if_neg (by omega), if_neg (by omega)]
    exact h.fresh i hi

theorem TimerBut.stopped (h : TimerBut a x) (hx : x < a.nSocks) (hs : Stopped a b x) :
    TimerBut b x := by
  refine ⟨h.linked.stopped hx hs, ?_⟩
  intro i hi hix
  rw [hs.nSocks] at hi
  have htm : b.tm i = a.tm i := by
    unfold TcpSlowCtx.tm
    rw [hs.state i hix, hs.timer i, hs.kind i, if_neg hix, if_neg hix]
  rw [htm]
  exact h.fit i hi hix

theorem Stopped.at_timer (hs : Stopped a b x) : (b.sockMeta x).timer = none :=
  (hs.timer x).trans (if_pos rfl)

theorem Stopped.at_kind (hs : Stopped a b x) : (b.sockMeta x).retxKind = .none :=
  (hs.kind x).trans (if_pos rfl)

/-- The socket went to a state without a timer. -/
theorem TimerBut.ended (h : TimerBut a x) (hx : x < a.nSocks) (hs : Stopped a b x)
    (hst : timerKind (b.sock x).state = .none) : TimerInv b :=
  (h.stopped hx hs).done (TmOk.stopped hst hs.at_timer hs.at_kind)

/-- States may change after the timer was stopped. -/
theorem Stopped.at {c : TcpSlowCtx} (hs : Stopped a b x) (hc : TmAt b c x) : Stopped a c x :=
  ⟨hc.nSocks.trans hs.nSocks, hc.tomgr.trans hs.tomgr, fun i => (hc.id i).trans (hs.id i),
    fun i => (hc.timer i).trans (hs.timer i), fun i => (hc.kind i).trans (hs.kind i),
    fun i hi => (hc.state i hi).trans (hs.state i hi)⟩

theorem stopped_tcpTimeoutCancel (hid : (a.sock x).id.toNat = x) :
    Stopped a (tcpTimeoutCancel a x) x := by
  have hmeta : a.tcpSockMeta x = a.sockMeta x := by
    unfold TcpSlowCtx.tcpSockMeta
    rw [hid]
  refine ⟨rfl, ?_, fun _ => rfl, ?_, ?_, fun _ _ => rfl⟩
  · show tomgrCancel a.tomgr (a.tcpSockMeta x).timer = _
    rw [hmeta]
  · intro i
    show SockMeta.timer (if i = (a.sock x).id.toNat then _ else a.sockMeta i) = _
    rw [hid]
    split
    · rfl
    · rfl
  · intro i
    show SockMeta.retxKind (if i = (a.sock x).id.toNat then _ else a.sockMeta i) = _
    rw [hid]
    split
    · rfl
    · rfl

theorem tcpSockCloseFinal_tomgr (ctx : TcpSlowCtx) (sid : Nat) :
    (tcpSockCloseFinal ctx sid).tomgr = (tcpTimeoutCancel ctx sid).tomgr := by
  rw [tcpSockCloseFinal_eq]
  dsimp only
  rw [tcpBoundRemove_eq]
  show (tcpFlowRemove (tcpListenerDetachChild (tcpTimeoutCancel ctx sid) sid) sid).tomgr = _
  rw [tcpFlowRemove_fields, tcpListenerDetachChild_fields]

theorem stopped_tcpSockCloseFinal (hid : (a.sock x).id.toNat = x) :
    Stopped a (tcpSockCloseFinal a x) x := by
  refine ⟨tcpSockCloseFinal_nSocks a x, ?_, ?_, ?_, ?_, ?_⟩
  · rw [tcpSockCloseFinal_tomgr]
    exact (stopped_tcpTimeoutCancel hid).tomgr
  · intro i
    rw [tcpSockCloseFinal_sock]
    split
    · next hi => rw [hi]; rfl
    · rfl
  · intro i
    rw [tcpSockCloseFinal_sockMeta, hid]
    split
    · rfl
    · rfl
  · intro i
    rw [tcpSockCloseFinal_sockMeta, hid]
    split
    · rfl
    · rfl
  · intro i hi
    rw [tcpSockCloseFinal_sock, if_neg hi]

/-- **A final close.** -/
theorem TimerBut.close (h : TimerBut a x) (hx : x < a.nSocks) :
    TimerInv (tcpSockCloseFinal a x) := by
  refine h.ended hx (stopped_tcpSockCloseFinal (h.linked.ids x hx)) ?_
  rw [tcpSockCloseFinal_sock, if_pos rfl]
  rfl

theorem tm_sockAutobindDrop (ctx : TcpSlowCtx) (sid : Nat) :
    TmSame ctx (sockAutobindDrop ctx sid) := by
  unfold sockAutobindDrop
  dsimp only
  split
  · exact TmSame.refl ctx
  · rw [tcpBoundRemove_eq]
    refine TmSame.trans ?_ (tm_setMeta _ rfl rfl)
    refine TmSame.trans ?_ (tm_setSock _ rfl rfl)
    exact ⟨fun _ => ⟨rfl, rfl, fun _ => rfl, fun _ => rfl, fun _ => rfl, fun _ _ => rfl⟩,
      fun _ => rfl⟩

theorem tm_tcpFlowRemove (ctx : TcpSlowCtx) (sid : Nat) : TmSame ctx (tcpFlowRemove ctx sid) := by
  rw [tcpFlowRemove_fields]
  exact ⟨fun _ => ⟨rfl, rfl, fun _ => rfl, fun _ => rfl, fun _ => rfl, fun _ _ => rfl⟩,
    fun _ => rfl⟩

/-- **A failed connect.** -/
theorem TimerBut.fail (h : TimerBut a x) (hx : x < a.nSocks) (err : Nat) :
    TimerInv (tcpSockConnectFail a x err) := by
  have hstop := stopped_tcpTimeoutCancel (h.linked.ids x hx)
  unfold tcpSockConnectFail
  dsimp only
  have hcalm := (tm_tcpFlowRemove (tcpTimeoutCancel a x) x).trans (tm_sockAutobindDrop _ x)
  generalize sockAutobindDrop (tcpFlowRemove (tcpTimeoutCancel a x) x) x = c at hcalm ⊢
  have hend : Stopped a (c.setSock x { ccSockReset (sockConnReset (c.sock x)) with state := .init })
      x := (hstop.at (hcalm.at_ x)).at (tmAt_setSock c rfl)
  refine TimerInv.same (h.ended hx hend ?_) (tm_appSubmit _ _ _ _)
  rw [TcpSlowCtx.sock_setSock]
  rfl

end stopping

/-! ## Starting a timer -/

section starting

variable {ctx : TcpSlowCtx} {x : Nat}

/-- Every entry the loop passed is live. -/
theorem findFreeEntry_none {t : Tomgr} {fuel : Nat} :
    ∀ {e : Nat}, findFreeEntry t fuel e = none →
      ∀ j, e ≤ j → j < e + fuel → (t.entries j).isSome = true := by
  induction fuel with
  | zero =>
    intro e _ j hle hlt
    omega
  | succ fuel ih =>
    intro e h j hle hlt
    unfold findFreeEntry at h
    split at h
    · cases h
    · next hlive =>
      by_cases hj : j = e
      · rw [hj]
        cases he : t.entries e with
        | none => exact absurd (by rw [he]; rfl) hlive
        | some i => rfl
      · exact ih h j (by omega) (by omega)

theorem findFreeEntry_some {t : Tomgr} {fuel : Nat} :
    ∀ {e j : Nat}, findFreeEntry t fuel e = some j →
      t.entries j = none ∧ j < e + fuel := by
  induction fuel with
  | zero =>
    intro e j h
    cases h
  | succ fuel ih =>
    intro e j h
    unfold findFreeEntry at h
    split at h
    · next hfree =>
      cases h
      exact ⟨Option.isNone_iff_eq_none.mp hfree, by omega⟩
    · obtain ⟨hfree, hlt⟩ := ih h
      exact ⟨hfree, by omega⟩

/-- An insert fails only when every entry is live. -/
theorem tomgrInsert_none {t : Tomgr} {sid : Nat} (h : tomgrInsert t sid = none) {e : Nat}
    (he : e < tomgrSize) : (t.entries e).isSome = true := by
  unfold tomgrInsert at h
  split at h
  · next hn => exact findFreeEntry_none hn e (Nat.zero_le e) (by omega)
  · cases h

theorem tomgrInsert_some {t t' : Tomgr} {sid e : Nat} (h : tomgrInsert t sid = some (t', e)) :
    t.entries e = none ∧ e < tomgrSize ∧
      t' = { entries := fun i => if i = e then some sid else t.entries i } := by
  unfold tomgrInsert at h
  split at h
  · cases h
  · next hf =>
    cases h
    obtain ⟨hfree, hlt⟩ := findFreeEntry_some hf
    exact ⟨hfree, by omega, rfl⟩

/-- What `sock_retx_sched` did. -/
inductive Sched (a b : TcpSlowCtx) (x : Nat) : Bool → Prop
  | armed (h : TimerBut b x) (ht : (b.sockMeta x).timer.isSome = true)
      (hk : (b.sockMeta x).retxKind = (a.sockMeta x).retxKind) : Sched a b x true
  | full (h : TimerBut b x) (hlive : ∀ e, e < tomgrSize → (a.tomgr.entries e).isSome = true) :
    Sched a b x false

/-- The socket with entry `e` of a new manager. -/
def withTimer (ctx : TcpSlowCtx) (x : Nat) (tomgr : Tomgr) (e : Nat) : TcpSlowCtx :=
  { ctx with tomgr }.setMeta x { ctx.tcpSockMeta x with timer := some e }

theorem withTimer_sockMeta (h : Linked ctx) (hx : x < ctx.nSocks) (tomgr : Tomgr) (e i : Nat) :
    (withTimer ctx x tomgr e).sockMeta i =
      if i = x then { ctx.sockMeta x with timer := some e } else ctx.sockMeta i := by
  rw [← h.meta_eq hx]
  show (if i = (ctx.sock x).id.toNat then _ else _) = _
  rw [h.ids x hx]

/-- The new entry is that of `x`. -/
theorem Linked.insert {tomgr : Tomgr} {e : Nat} (h : Linked ctx) (hx : x < ctx.nSocks)
    (hno : (ctx.sockMeta x).timer = none) (hins : tomgrInsert ctx.tomgr x = some (tomgr, e)) :
    Linked (withTimer ctx x tomgr e) := by
  obtain ⟨hfree, hlt, htomgr⟩ := tomgrInsert_some hins
  have hentry : ∀ e', (withTimer ctx x tomgr e).tomgr.entries e' =
      if e' = e then some x else ctx.tomgr.entries e' := by
    intro e'
    show tomgr.entries e' = _
    rw [htomgr]
  refine ⟨h.ids, ?_, ?_, ?_⟩
  · intro e' i
    rw [hentry, withTimer_sockMeta h hx]
    show _ ↔ i < ctx.nSocks ∧ _
    by_cases hix : i = x
    · rw [if_pos hix, hix]
      show _ ↔ x < ctx.nSocks ∧ some e = some e'
      by_cases hee : e' = e
      · rw [if_pos hee, hee]
        exact ⟨fun _ => ⟨hx, rfl⟩, fun _ => rfl⟩
      · rw [if_neg hee, h.link, hno]
        constructor
        · rintro ⟨-, hc⟩
          cases hc
        · rintro ⟨-, hc⟩
          exact absurd (Option.some.inj hc).symm hee
    · rw [if_neg hix, ← h.link]
      by_cases hee : e' = e
      · rw [if_pos hee, hee, hfree]
        exact ⟨fun hc => absurd (Option.some.inj hc).symm hix, nofun⟩
      · rw [if_neg hee]
  · intro e' i he
    rw [hentry] at he
    by_cases hee : e' = e
    · rw [hee]
      exact hlt
    · rw [if_neg hee] at he
      exact h.small e' i he
  · intro i hi
    have hi' : ctx.nSocks ≤ i := hi
    rw [withTimer_sockMeta h hx, if_neg (by omega)]
    exact h.fresh i hi

theorem TimerBut.sched (h : TimerBut ctx x) (hx : x < ctx.nSocks)
    (hno : (ctx.sockMeta x).timer = none) :
    Sched ctx (sockRetxSched ctx x).1 x (sockRetxSched ctx x).2 := by
  have hid := h.linked.ids x hx
  unfold sockRetxSched
  dsimp only
  split
  · next tomgr e hins =>
    have hmeta := withTimer_sockMeta h.linked hx tomgr e
    refine .armed (b := withTimer ctx x tomgr e) ⟨h.linked.insert hx hno hins, ?_⟩ ?_ ?_
    · intro i hi hix
      have htm : (withTimer ctx x tomgr e).tm i = ctx.tm i := by
        unfold TcpSlowCtx.tm
        rw [hmeta, if_neg hix]
        rfl
      rw [htm]
      exact h.fit i hi hix
    · rw [hmeta, if_pos rfl]
      rfl
    · rw [hmeta, if_pos rfl]
  · next hins =>
    refine .full ?_ (fun e he => tomgrInsert_none hins he)
    refine h.stopped hx ⟨rfl, by rw [hno]; rfl, fun _ => rfl, ?_, ?_, fun _ _ => rfl⟩
    · intro i
      show SockMeta.timer (if i = (ctx.sock x).id.toNat then _ else ctx.sockMeta i) = _
      rw [hid]
      split
      · rfl
      · rfl
    · intro i
      show SockMeta.retxKind (if i = (ctx.sock x).id.toNat then _ else ctx.sockMeta i) = _
      rw [hid]
      split
      · rfl
      · rfl

/-- Another kind for a socket whose timer need not fit. -/
theorem TimerBut.setKind {m : SockMeta} (h : TimerBut ctx x) (hx : x < ctx.nSocks)
    (ht : m.timer = (ctx.sockMeta x).timer) : TimerBut (ctx.setMeta x m) x := by
  have hmeta : ∀ i, (ctx.setMeta x m).sockMeta i = if i = x then m else ctx.sockMeta i := by
    intro i
    show (if i = (ctx.sock x).id.toNat then m else ctx.sockMeta i) = _
    rw [h.linked.ids x hx]
  refine ⟨⟨h.linked.ids, ?_, h.linked.small, ?_⟩, ?_⟩
  · intro e i
    rw [hmeta]
    refine (h.linked.link e i).trans ?_
    by_cases hix : i = x
    · rw [if_pos hix, ht, hix]
      rfl
    · rw [if_neg hix]
      rfl
  · intro i hi
    have hi' : ctx.nSocks ≤ i := hi
    rw [hmeta, if_neg (by omega)]
    exact h.linked.fresh i hi
  · intro i hi hix
    have htm : (ctx.setMeta x m).tm i = ctx.tm i := by
      unfold TcpSlowCtx.tm
      rw [hmeta, if_neg hix]
      rfl
    rw [htm]
    exact h.fit i hi hix

theorem sockRetxSched_sock (ctx : TcpSlowCtx) (x i : Nat) :
    (sockRetxSched ctx x).1.sock i = ctx.sock i := by
  unfold sockRetxSched
  dsimp only
  split
  · rfl
  · rfl

/-- An entry was had for a socket whose kind fits its state. -/
theorem Sched.fits {b : TcpSlowCtx} {ok : Bool} (h : Sched ctx b x ok)
    (hst : (b.sock x).state = (ctx.sock x).state)
    (hk : (ctx.sockMeta x).retxKind = timerKind (ctx.sock x).state)
    (hne : (ctx.sockMeta x).retxKind ≠ .none) (hok : ok = true) : TimerInv b := by
  cases h with
  | armed h ht hkind =>
    refine h.done ⟨?_, ?_⟩
    · show (b.sockMeta x).retxKind = timerKind (b.sock x).state
      rw [hkind, hst, hk]
    · show (b.sockMeta x).timer.isSome = true ↔ (b.sockMeta x).retxKind ≠ .none
      rw [hkind]
      exact ⟨fun _ => hne, fun _ => ht⟩
  | full _ _ => cases hok

theorem Sched.but {b : TcpSlowCtx} {ok : Bool} (h : Sched ctx b x ok) : TimerBut b x := by
  cases h with
  | armed h _ _ => exact h
  | full h _ => exact h

/-- **Arming**: the timer fits the state, or there is none. -/
theorem TimerBut.arm {kind : RetxKind} (h : TimerBut ctx x) (hx : x < ctx.nSocks)
    (hk : kind = timerKind (ctx.sock x).state) (hne : kind ≠ .none) :
    TimerBut (tcpTimeoutArm ctx x kind).1 x ∧
      ((tcpTimeoutArm ctx x kind).2 = true → TimerInv (tcpTimeoutArm ctx x kind).1) := by
  have hid := h.linked.ids x hx
  have hstop := stopped_tcpTimeoutCancel hid
  have hbut := h.stopped hx hstop
  have hmeta := hbut.linked.meta_eq (show x < (tcpTimeoutCancel ctx x).nSocks from hx)
  -- The kind is stored before the entry is asked for.
  have hset := @TimerBut.setKind _ _ { (tcpTimeoutCancel ctx x).tcpSockMeta x with
    retxKind := kind, retxLeft := tcpRetxRetries } hbut hx (by rw [hmeta])
  unfold tcpTimeoutArm
  dsimp only
  have hat : ((tcpTimeoutCancel ctx x).setMeta x { (tcpTimeoutCancel ctx x).tcpSockMeta x with
      retxKind := kind, retxLeft := tcpRetxRetries }).sockMeta x =
      { (tcpTimeoutCancel ctx x).tcpSockMeta x with
        retxKind := kind, retxLeft := tcpRetxRetries } := by
    show (if x = (ctx.sock x).id.toNat then _ else _) = _
    exact if_pos hid.symm
  have hst : (((tcpTimeoutCancel ctx x).setMeta x { (tcpTimeoutCancel ctx x).tcpSockMeta x with
      retxKind := kind, retxLeft := tcpRetxRetries }).sock x).state = (ctx.sock x).state := rfl
  have hlt : x < ((tcpTimeoutCancel ctx x).setMeta x { (tcpTimeoutCancel ctx x).tcpSockMeta x with
      retxKind := kind, retxLeft := tcpRetxRetries }).nSocks := hx
  generalize (tcpTimeoutCancel ctx x).setMeta x _ = c at hset hat hst hlt ⊢
  have hsched := hset.sched hlt (by rw [hat, hmeta]; exact hstop.at_timer)
  refine ⟨hsched.but, ?_⟩
  apply hsched.fits
  · rw [sockRetxSched_sock]
  · rw [hat, hst]
    exact hk
  · rw [hat]
    exact hne

theorem tcpTimeoutArm_sock (ctx : TcpSlowCtx) (x : Nat) (kind : RetxKind) (i : Nat) :
    (tcpTimeoutArm ctx x kind).1.sock i = ctx.sock i := by
  unfold tcpTimeoutArm
  exact sockRetxSched_sock _ _ _

theorem tcpTimeoutArm_nSocks (ctx : TcpSlowCtx) (x : Nat) (kind : RetxKind) :
    (tcpTimeoutArm ctx x kind).1.nSocks = ctx.nSocks := by
  unfold tcpTimeoutArm sockRetxSched
  dsimp only
  split
  · rfl
  · rfl

end starting

end Chamelio.Tcp
