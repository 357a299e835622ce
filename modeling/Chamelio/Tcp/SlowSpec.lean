import Chamelio.Tcp.SlowReq

/-!
# What the slow path's functions leave alone

The flow table, the port table and the listeners depend on few fields: who
a socket is (`SockKey`), the two tables themselves, the listeners, and the
listener and auto-bind marks of the metadata. `Same` says that none of them
differs. Most functions of the slow path send, time, count or answer and
are `Same`; the few others are described field by field, so that the
invariants of the three tables never unfold them.
-/

namespace Chamelio.Tcp

open Chamelio.Lib Chamelio.Util Chamelio.Pkt Chamelio.Fast

/-- The fields that place a socket in the tables. -/
structure SockKey where
  id : UInt32
  state : SockState
  localIp : UInt32
  localPort : UInt16
  remoteIp : UInt32
  remotePort : UInt16
  deriving DecidableEq

def TcpSock.key (s : TcpSock) : SockKey :=
  { id := s.id, state := s.state, localIp := s.localIp, localPort := s.localPort
    remoteIp := s.remoteIp, remotePort := s.remotePort }

/-- Nothing the flow table and the port table depend on differs, and a timer
that was started belongs to a live socket. -/
structure SameCore (ctx ctx' : TcpSlowCtx) : Prop where
  key : ∀ i, (ctx'.sock i).key = (ctx.sock i).key
  buckets : ctx'.maps.buckets = ctx.maps.buckets
  sockNelems : ctx'.maps.sockNelems = ctx.maps.sockNelems
  buckNelems : ctx'.maps.buckNelems = ctx.maps.buckNelems
  nSocks : ctx'.nSocks = ctx.nSocks
  localIp : ctx'.localIp = ctx.localIp
  boundPorts : ctx'.boundPorts = ctx.boundPorts
  autoBound : ∀ i, (ctx'.sockMeta i).autoBound = (ctx.sockMeta i).autoBound
  kind : ∀ i, (ctx'.sockMeta i).retxKind = (ctx.sockMeta i).retxKind ∨
    (ctx'.sockMeta i).retxKind = .none ∨ (i < ctx.nSocks ∧ (ctx.sock i).state ≠ .closed)

/-- Nor does anything the listeners depend on. -/
structure Same (ctx ctx' : TcpSlowCtx) : Prop extends SameCore ctx ctx' where
  listeners : ctx'.listeners = ctx.listeners
  listenerId : ∀ i, (ctx'.sockMeta i).listenerId = (ctx.sockMeta i).listenerId

theorem SameCore.refl (ctx : TcpSlowCtx) : SameCore ctx ctx :=
  ⟨fun _ => rfl, rfl, rfl, rfl, rfl, rfl, rfl, fun _ => rfl, fun _ => .inl rfl⟩

theorem Same.refl (ctx : TcpSlowCtx) : Same ctx ctx :=
  ⟨SameCore.refl ctx, rfl, fun _ => rfl⟩

theorem SameCore.trans {a b c : TcpSlowCtx} (h₁ : SameCore a b) (h₂ : SameCore b c) :
    SameCore a c := by
  refine ⟨fun i => (h₂.key i).trans (h₁.key i), h₂.buckets.trans h₁.buckets,
    h₂.sockNelems.trans h₁.sockNelems, h₂.buckNelems.trans h₁.buckNelems,
    h₂.nSocks.trans h₁.nSocks, h₂.localIp.trans h₁.localIp, h₂.boundPorts.trans h₁.boundPorts,
    fun i => (h₂.autoBound i).trans (h₁.autoBound i), ?_⟩
  intro i
  rcases h₂.kind i with hk | hk | ⟨hlt, hst⟩
  · rcases h₁.kind i with hk' | hk' | hl
    · exact .inl (hk.trans hk')
    · exact .inr (.inl (hk.trans hk'))
    · exact .inr (.inr hl)
  · exact .inr (.inl hk)
  · rw [h₁.nSocks] at hlt
    rw [show (b.sock i).state = (a.sock i).state from congrArg SockKey.state (h₁.key i)] at hst
    exact .inr (.inr ⟨hlt, hst⟩)

theorem Same.trans {a b c : TcpSlowCtx} (h₁ : Same a b) (h₂ : Same b c) : Same a c :=
  ⟨h₁.toSameCore.trans h₂.toSameCore, h₂.listeners.trans h₁.listeners,
    fun i => (h₂.listenerId i).trans (h₁.listenerId i)⟩

/-- A context that differs in its queues, its clock or its listening ports
only. -/
theorem Same.of_fields {ctx ctx' : TcpSlowCtx} (hm : ctx'.maps = ctx.maps)
    (hn : ctx'.nSocks = ctx.nSocks) (hl : ctx'.localIp = ctx.localIp)
    (hb : ctx'.boundPorts = ctx.boundPorts) (hs : ctx'.listeners = ctx.listeners)
    (ht : ctx'.sockMeta = ctx.sockMeta) : Same ctx ctx' := by
  refine ⟨⟨?_, ?_, ?_, ?_, hn, hl, hb, ?_, ?_⟩, hs, ?_⟩
  · intro i
    unfold TcpSlowCtx.sock
    rw [hm]
  · rw [hm]
  · rw [hm]
  · rw [hm]
  · intro i
    rw [ht]
  · intro i
    rw [ht]
    exact .inl rfl
  · intro i
    rw [ht]

theorem key_id {a b : TcpSock} (h : a.key = b.key) : a.id = b.id := congrArg SockKey.id h

theorem key_state {a b : TcpSock} (h : a.key = b.key) : a.state = b.state :=
  congrArg SockKey.state h

/-! ## Updates of one table -/

section updates

variable (ctx : TcpSlowCtx)

/-- A socket stored with the key it had. -/
theorem same_setSock {sid : Nat} {s : TcpSock} (h : s.key = (ctx.sock sid).key) :
    Same ctx (ctx.setSock sid s) := by
  refine ⟨⟨?_, rfl, rfl, rfl, rfl, rfl, rfl, fun _ => rfl, fun _ => .inl rfl⟩, rfl, fun _ => rfl⟩
  intro i
  by_cases hi : i = sid
  · rw [hi, TcpSlowCtx.sock_setSock, h]
  · rw [TcpSlowCtx.sock_setSock_ne _ _ hi]

/-- Metadata stored with the marks it had. -/
theorem same_setMeta {sid : Nat} {m : SockMeta}
    (h₁ : m.listenerId = (ctx.tcpSockMeta sid).listenerId)
    (h₂ : m.autoBound = (ctx.tcpSockMeta sid).autoBound)
    (h₃ : m.retxKind = (ctx.tcpSockMeta sid).retxKind ∨ m.retxKind = .none ∨
      ((ctx.sock sid).id.toNat < ctx.nSocks ∧
        (ctx.sock (ctx.sock sid).id.toNat).state ≠ .closed)) :
    Same ctx (ctx.setMeta sid m) := by
  have hm : ∀ i, (ctx.setMeta sid m).sockMeta i =
      if i = (ctx.sock sid).id.toNat then m else ctx.sockMeta i := fun _ => rfl
  refine ⟨⟨fun _ => rfl, rfl, rfl, rfl, rfl, rfl, rfl, ?_, ?_⟩, rfl, ?_⟩
  · intro i
    rw [hm]
    split
    · next hi => rw [h₂, hi]; rfl
    · rfl
  · intro i
    rw [hm]
    split
    · next hi => rw [hi]; exact h₃
    · exact .inl rfl
  · intro i
    rw [hm]
    split
    · next hi => rw [h₁, hi]; rfl
    · rfl

theorem ctlPktEnqueue_fields (c : CtlSeg) :
    (ctlPktEnqueue ctx c).1 =
      { ctx with
        slowFastPktQ := (ctlPktEnqueue ctx c).1.slowFastPktQ
        slowFastSigQ := (ctlPktEnqueue ctx c).1.slowFastSigQ } := by
  unfold ctlPktEnqueue
  dsimp only
  split
  · rfl
  · rfl

theorem same_ctlPktEnqueue (c : CtlSeg) : Same ctx (ctlPktEnqueue ctx c).1 := by
  rw [ctlPktEnqueue_fields]
  exact Same.of_fields rfl rfl rfl rfl rfl rfl

theorem ctlPktEnqueue_sockMeta (c : CtlSeg) :
    (ctlPktEnqueue ctx c).1.sockMeta = ctx.sockMeta := by
  rw [ctlPktEnqueue_fields]

theorem same_tcpCtlTx (sid : Nat) (flags : UInt16) : Same ctx (tcpCtlTx ctx sid flags).1 :=
  same_ctlPktEnqueue _ _

theorem same_tcpCtlTxResend (sid : Nat) (flags : UInt16) :
    Same ctx (tcpCtlTxResend ctx sid flags).1 := same_ctlPktEnqueue _ _

theorem same_replyRst (rx : TcpRxCtl) (seq ack : UInt32) : Same ctx (replyRst ctx rx seq ack) :=
  same_ctlPktEnqueue _ _

theorem same_appSubmit (appId ctxId : UInt8) (res : AppRes) :
    Same ctx (appSubmit ctx appId ctxId res) := by
  unfold appSubmit
  split
  · exact Same.refl _
  · exact Same.of_fields rfl rfl rfl rfl rfl rfl

theorem appSubmit_sockMeta (appId ctxId : UInt8) (res : AppRes) :
    (appSubmit ctx appId ctxId res).sockMeta = ctx.sockMeta := by
  unfold appSubmit
  split
  · rfl
  · rfl

@[simp] theorem tcpTimeoutCancel_sock (sid i : Nat) :
    (tcpTimeoutCancel ctx sid).sock i = ctx.sock i := rfl

/-- Another timeout manager. -/
theorem same_tomgr (tomgr : Tomgr) : Same ctx { ctx with tomgr } :=
  Same.of_fields rfl rfl rfl rfl rfl rfl

theorem same_tcpTimeoutCancel (sid : Nat) : Same ctx (tcpTimeoutCancel ctx sid) :=
  (same_tomgr ctx _).trans (same_setMeta _ rfl rfl (.inr (.inl rfl)))

theorem same_sockRetxSched (sid : Nat) : Same ctx (sockRetxSched ctx sid).1 := by
  unfold sockRetxSched
  dsimp only
  split
  · exact (same_tomgr ctx _).trans (same_setMeta _ rfl rfl (.inl rfl))
  · exact same_setMeta _ rfl rfl (.inr (.inl rfl))

theorem same_tcpTimeoutArm {sid : Nat} (kind : RetxKind) (hid : (ctx.sock sid).id.toNat = sid)
    (hlt : sid < ctx.nSocks) (hlive : (ctx.sock sid).state ≠ .closed) :
    Same ctx (tcpTimeoutArm ctx sid kind).1 := by
  unfold tcpTimeoutArm
  dsimp only
  refine (same_tcpTimeoutCancel ctx sid).trans (Same.trans ?_ (same_sockRetxSched _ sid))
  refine same_setMeta _ rfl rfl (.inr (.inr ?_))
  rw [tcpTimeoutCancel_sock, hid]
  exact ⟨hlt, hlive⟩

theorem same_sockRetxTx (sid : Nat) : Same ctx (sockRetxTx ctx sid).1 := by
  unfold sockRetxTx
  dsimp only
  split
  · exact Same.refl _
  · exact same_ctlPktEnqueue _ _

theorem same_slowSockTsRx (sid : Nat) (rx : TcpRxCtl) : Same ctx (slowSockTsRx ctx sid rx) := by
  unfold slowSockTsRx
  split
  · exact Same.refl _
  · next tsVal tsEcr _ =>
    have h₁ : Same ctx (ctx.setSock sid { ctx.sock sid with tsRecent := tsVal }) :=
      same_setSock ctx rfl
    have h₂ : ∀ clk, Same ctx
        { ctx.setSock sid { ctx.sock sid with tsRecent := tsVal } with clk } :=
      fun clk => h₁.trans (Same.of_fields rfl rfl rfl rfl rfl rfl)
    dsimp only
    split
    · exact h₁
    · split
      · exact h₂ _
      · exact (h₂ _).trans (same_setSock _ rfl)

theorem slowSockTsRx_sockMeta (sid : Nat) (rx : TcpRxCtl) :
    (slowSockTsRx ctx sid rx).sockMeta = ctx.sockMeta := by
  unfold slowSockTsRx
  split
  · rfl
  · dsimp only
    split
    · rfl
    · split <;> rfl

theorem same_tcpListenerLookup (localIp : UInt32) (port : UInt16) :
    Same ctx (tcpListenerLookup ctx localIp port).1 := by
  unfold tcpListenerLookup
  dsimp only
  split
  · exact Same.refl _
  · split
    · exact Same.refl _
    · split
      · exact Same.refl _
      · exact Same.of_fields rfl rfl rfl rfl rfl rfl

theorem tcpListenerLookup_sockMeta (localIp : UInt32) (port : UInt16) :
    (tcpListenerLookup ctx localIp port).1.sockMeta = ctx.sockMeta := by
  unfold tcpListenerLookup
  dsimp only
  split
  · rfl
  · split
    · rfl
    · split <;> rfl

theorem same_tcpListenerRemove (port : UInt16) (sockId : UInt32) :
    Same ctx (tcpListenerRemove ctx port sockId) := by
  unfold tcpListenerRemove
  split
  · exact Same.refl _
  · exact Same.of_fields rfl rfl rfl rfl rfl rfl

end updates

/-! ## Flows and ports -/

section tables

variable (ctx : TcpSlowCtx) (sid : Nat)

/-- Removing a flow changes the buckets only. -/
theorem tcpFlowRemove_fields :
    tcpFlowRemove ctx sid =
      { ctx with maps := { ctx.maps with buckets := (tcpFlowRemove ctx sid).maps.buckets } } := by
  unfold tcpFlowRemove
  dsimp only
  split
  · rfl
  · rfl

@[simp] theorem tcpFlowRemove_sock (i : Nat) : (tcpFlowRemove ctx sid).sock i = ctx.sock i := by
  rw [tcpFlowRemove_fields]
  rfl

@[simp] theorem tcpFlowRemove_sockMeta : (tcpFlowRemove ctx sid).sockMeta = ctx.sockMeta := by
  rw [tcpFlowRemove_fields]

@[simp] theorem tcpFlowRemove_boundPorts :
    (tcpFlowRemove ctx sid).boundPorts = ctx.boundPorts := by
  rw [tcpFlowRemove_fields]

@[simp] theorem tcpFlowRemove_listeners : (tcpFlowRemove ctx sid).listeners = ctx.listeners := by
  rw [tcpFlowRemove_fields]

/-- What a flow removal does to the buckets is decided by the buckets and the
socket's key. -/
theorem tcpFlowRemove_congr {ctx' : TcpSlowCtx} (hb : ctx'.maps.buckets = ctx.maps.buckets)
    (hk : (ctx'.sock sid).key = (ctx.sock sid).key) :
    (tcpFlowRemove ctx' sid).maps.buckets = (tcpFlowRemove ctx sid).maps.buckets := by
  have h₁ : (ctx'.sock sid).id = (ctx.sock sid).id := congrArg SockKey.id hk
  have h₂ : (ctx'.sock sid).localIp = (ctx.sock sid).localIp := congrArg SockKey.localIp hk
  have h₃ : (ctx'.sock sid).localPort = (ctx.sock sid).localPort := congrArg SockKey.localPort hk
  have h₄ : (ctx'.sock sid).remoteIp = (ctx.sock sid).remoteIp := congrArg SockKey.remoteIp hk
  have h₅ : (ctx'.sock sid).remotePort = (ctx.sock sid).remotePort :=
    congrArg SockKey.remotePort hk
  unfold tcpFlowRemove bucketSlot setBucket
  dsimp only
  rw [h₁, h₂, h₃, h₄, h₅, hb]
  split
  · exact hb
  · rfl

/-- Detaching a child changes its listener and its mark. -/
theorem tcpListenerDetachChild_fields :
    tcpListenerDetachChild ctx sid =
      { ctx with
        listeners := (tcpListenerDetachChild ctx sid).listeners
        sockMeta := (tcpListenerDetachChild ctx sid).sockMeta } := by
  unfold tcpListenerDetachChild
  dsimp only
  split
  · rfl
  · rfl

theorem tcpListenerDetachChild_sock (i : Nat) :
    (tcpListenerDetachChild ctx sid).sock i = ctx.sock i := by
  rw [tcpListenerDetachChild_fields]
  rfl

/-- After a detach the socket has no listener; nothing else is marked
differently. -/
theorem tcpListenerDetachChild_sockMeta (i : Nat) :
    (tcpListenerDetachChild ctx sid).sockMeta i =
      if i = (ctx.sock sid).id.toNat then { ctx.sockMeta i with listenerId := idInvalid }
      else ctx.sockMeta i := by
  unfold tcpListenerDetachChild
  dsimp only
  split
  · next hinv =>
    split
    · next hi =>
      rw [hi]
      unfold TcpSlowCtx.tcpSockMeta at hinv
      rw [← hinv]
    · rfl
  · show (if i = (ctx.sock sid).id.toNat then _ else _) = _
    split
    · next hi => rw [hi]; rfl
    · rfl

/-- A listener after one of its children is detached. -/
def detached (l : Listener) (sockId : UInt32) : Listener :=
  listenerBacklogPut
    (if l.active ∧ l.readySlots.isSome then
      match (List.range l.backlogLen.toNat).find? (fun i => l.readySids i == sockId) with
      | none => l
      | some i => { l with readySids := fun j => if j = i then idInvalid else l.readySids j }
    else l)

theorem tcpListenerDetachChild_listeners (k : Nat) :
    (tcpListenerDetachChild ctx sid).listeners k =
      if (ctx.tcpSockMeta sid).listenerId ≠ idInvalid ∧
          k = (ctx.tcpSockMeta sid).listenerId.toNat then
        detached (ctx.listeners k) (ctx.sock sid).id
      else ctx.listeners k := by
  unfold tcpListenerDetachChild
  dsimp only
  split
  · next hinv => rw [if_neg (fun h => h.1 hinv)]
  · next hinv =>
    show (if k = (ctx.tcpSockMeta sid).listenerId.toNat then
      detached (ctx.listeners (ctx.tcpSockMeta sid).listenerId.toNat) (ctx.sock sid).id
      else ctx.listeners k) = _
    split
    · next hk => rw [if_pos ⟨hinv, hk⟩, hk]
    · next hk => rw [if_neg (fun h => hk h.2)]

/-- The port table without a socket's entry at a port. -/
def boundDrop (bound : Nat → TcpPort) (port : UInt16) (sockId : UInt32) : Nat → TcpPort :=
  if port = 0 ∨ port.toNat > maxPort then bound
  else fun p => if p = port.toNat then portDrop (bound p) sockId else bound p

theorem tcpBoundRemove_eq (port : UInt16) (sockId : UInt32) :
    tcpBoundRemove ctx port sockId =
      { ctx with boundPorts := boundDrop ctx.boundPorts port sockId } := by
  unfold tcpBoundRemove boundDrop
  split
  · rfl
  · rfl

theorem tcpBoundRemove_sock (port : UInt16) (sockId : UInt32) (i : Nat) :
    (tcpBoundRemove ctx port sockId).sock i = ctx.sock i := by
  rw [tcpBoundRemove_eq]
  rfl

end tables

/-! ## Closing -/

section closing

variable (ctx : TcpSlowCtx) (sid : Nat)

/-- The socket a final close leaves behind. -/
def closedSock (s : TcpSock) : TcpSock := ccSockReset (sockConnReset { s with state := .closed })

/-- Its metadata. -/
def closedMeta : SockMeta :=
  { listenerId := idInvalid, autoBound := false, timer := none, retxKind := .none, retxLeft := 0 }

/-- A final close, with the branch it always takes: a detached socket has no
listener. -/
theorem tcpSockCloseFinal_eq :
    tcpSockCloseFinal ctx sid =
      let flow := tcpFlowRemove (tcpListenerDetachChild (tcpTimeoutCancel ctx sid) sid) sid
      let bound := tcpBoundRemove flow (ctx.sock sid).localPort (ctx.sock sid).id
      let ctx' := bound.setSock sid (closedSock (ctx.sock sid))
      ctx'.setMeta sid { ctx'.tcpSockMeta sid with autoBound := false } := by
  have hsock : ∀ i, (tcpFlowRemove (tcpListenerDetachChild (tcpTimeoutCancel ctx sid) sid) sid).sock
      i = ctx.sock i := by
    intro i
    rw [tcpFlowRemove_sock, tcpListenerDetachChild_sock]
    rfl
  have hmeta : ((tcpFlowRemove (tcpListenerDetachChild (tcpTimeoutCancel ctx sid) sid)
      sid).tcpSockMeta sid).listenerId = idInvalid := by
    unfold TcpSlowCtx.tcpSockMeta
    rw [hsock, tcpFlowRemove_sockMeta, tcpListenerDetachChild_sockMeta, tcpTimeoutCancel_sock,
      if_pos rfl]
  have hsock' : (tcpBoundRemove (tcpFlowRemove (tcpListenerDetachChild (tcpTimeoutCancel ctx sid)
      sid) sid) (ctx.sock sid).localPort (ctx.sock sid).id).sock sid = ctx.sock sid := by
    rw [tcpBoundRemove_sock]
    exact hsock sid
  unfold tcpSockCloseFinal
  dsimp only
  rw [if_pos hmeta, hsock, hsock']
  rfl

theorem tcpSockCloseFinal_sock (i : Nat) :
    (tcpSockCloseFinal ctx sid).sock i =
      if i = sid then closedSock (ctx.sock sid) else ctx.sock i := by
  rw [tcpSockCloseFinal_eq]
  dsimp only
  rw [TcpSlowCtx.sock_setMeta]
  by_cases hi : i = sid
  · rw [if_pos hi, hi, TcpSlowCtx.sock_setSock]
  · rw [if_neg hi, TcpSlowCtx.sock_setSock_ne _ _ hi, tcpBoundRemove_eq]
    generalize hflow : tcpFlowRemove (tcpListenerDetachChild (tcpTimeoutCancel ctx sid) sid) sid =
      flow
    show flow.sock i = ctx.sock i
    rw [← hflow, tcpFlowRemove_sock, tcpListenerDetachChild_sock]
    rfl

theorem tcpSockCloseFinal_buckets :
    (tcpSockCloseFinal ctx sid).maps.buckets = (tcpFlowRemove ctx sid).maps.buckets := by
  rw [tcpSockCloseFinal_eq]
  dsimp only
  rw [tcpBoundRemove_eq]
  generalize hflow : tcpFlowRemove (tcpListenerDetachChild (tcpTimeoutCancel ctx sid) sid) sid =
    flow
  show flow.maps.buckets = _
  rw [← hflow]
  apply tcpFlowRemove_congr
  · rw [tcpListenerDetachChild_fields]
    rfl
  · rw [tcpListenerDetachChild_sock]
    rfl

theorem tcpSockCloseFinal_boundPorts :
    (tcpSockCloseFinal ctx sid).boundPorts =
      boundDrop ctx.boundPorts (ctx.sock sid).localPort (ctx.sock sid).id := by
  rw [tcpSockCloseFinal_eq]
  dsimp only
  rw [tcpBoundRemove_eq]
  generalize hflow : tcpFlowRemove (tcpListenerDetachChild (tcpTimeoutCancel ctx sid) sid) sid =
    flow
  show boundDrop flow.boundPorts _ _ = _
  rw [← hflow, tcpFlowRemove_boundPorts, tcpListenerDetachChild_fields]
  rfl

theorem tcpSockCloseFinal_listeners :
    (tcpSockCloseFinal ctx sid).listeners = (tcpListenerDetachChild ctx sid).listeners := by
  rw [tcpSockCloseFinal_eq]
  dsimp only
  rw [tcpBoundRemove_eq]
  generalize hflow : tcpFlowRemove (tcpListenerDetachChild (tcpTimeoutCancel ctx sid) sid) sid =
    flow
  show flow.listeners = _
  rw [← hflow, tcpFlowRemove_listeners]
  have hid : ((tcpTimeoutCancel ctx sid).tcpSockMeta sid).listenerId =
      (ctx.tcpSockMeta sid).listenerId := (same_tcpTimeoutCancel ctx sid).listenerId _
  funext k
  rw [tcpListenerDetachChild_listeners, tcpListenerDetachChild_listeners, hid]
  rfl

theorem tcpSockCloseFinal_sockMeta (i : Nat) :
    (tcpSockCloseFinal ctx sid).sockMeta i =
      if i = (ctx.sock sid).id.toNat then closedMeta else ctx.sockMeta i := by
  rw [tcpSockCloseFinal_eq]
  dsimp only
  rw [tcpBoundRemove_eq]
  have hid : (closedSock (ctx.sock sid)).id = (ctx.sock sid).id := rfl
  generalize hflow : tcpFlowRemove (tcpListenerDetachChild (tcpTimeoutCancel ctx sid) sid) sid =
    flow
  unfold TcpSlowCtx.setMeta TcpSlowCtx.tcpSockMeta
  dsimp only
  rw [TcpSlowCtx.sock_setSock, hid]
  show (if i = (ctx.sock sid).id.toNat then _ else flow.sockMeta i) = _
  split
  · show { flow.sockMeta (ctx.sock sid).id.toNat with autoBound := false } = closedMeta
    rw [← hflow, tcpFlowRemove_sockMeta, tcpListenerDetachChild_sockMeta, tcpTimeoutCancel_sock,
      if_pos rfl]
    show { (tcpTimeoutCancel ctx sid).sockMeta (ctx.sock sid).id.toNat with
      listenerId := idInvalid, autoBound := false } = closedMeta
    rw [show (tcpTimeoutCancel ctx sid).sockMeta (ctx.sock sid).id.toNat = _ from if_pos rfl]
    rfl
  · next hi =>
    rw [← hflow, tcpFlowRemove_sockMeta, tcpListenerDetachChild_sockMeta, tcpTimeoutCancel_sock,
      if_neg hi]
    exact if_neg hi

theorem tcpSockCloseFinal_nSocks : (tcpSockCloseFinal ctx sid).nSocks = ctx.nSocks := by
  rw [tcpSockCloseFinal_eq]
  dsimp only
  rw [tcpBoundRemove_eq]
  generalize hflow : tcpFlowRemove (tcpListenerDetachChild (tcpTimeoutCancel ctx sid) sid) sid =
    flow
  show flow.nSocks = ctx.nSocks
  rw [← hflow, tcpFlowRemove_fields, tcpListenerDetachChild_fields]
  rfl

theorem tcpSockCloseFinal_sockNelems :
    (tcpSockCloseFinal ctx sid).maps.sockNelems = ctx.maps.sockNelems ∧
      (tcpSockCloseFinal ctx sid).maps.buckNelems = ctx.maps.buckNelems ∧
      (tcpSockCloseFinal ctx sid).localIp = ctx.localIp := by
  rw [tcpSockCloseFinal_eq]
  dsimp only
  rw [tcpBoundRemove_eq]
  generalize hflow : tcpFlowRemove (tcpListenerDetachChild (tcpTimeoutCancel ctx sid) sid) sid =
    flow
  show flow.maps.sockNelems = _ ∧ flow.maps.buckNelems = _ ∧ flow.localIp = _
  rw [← hflow, tcpFlowRemove_fields, tcpListenerDetachChild_fields]
  exact ⟨rfl, rfl, rfl⟩

/-- The socket a failed connect leaves behind; an auto-bound one loses its
address. -/
def failedSock (s : TcpSock) (autoBound : Bool) (localIp : UInt32) : TcpSock :=
  let s := if autoBound then { s with localPort := 0, localIp } else s
  { ccSockReset (sockConnReset s) with state := .init }

/-- The port table a failed connect leaves behind. -/
def failedBound (bound : Nat → TcpPort) (s : TcpSock) (autoBound : Bool) : Nat → TcpPort :=
  if autoBound then boundDrop bound s.localPort s.id else bound

/-- What a failed connect leaves, up to what `Same` ignores. -/
structure Failed (ctx ctx' : TcpSlowCtx) (sid : Nat) : Prop where
  sock : ∀ i, (ctx'.sock i).key =
    if i = sid then
      (failedSock (ctx.sock sid) (ctx.tcpSockMeta sid).autoBound ctx.localIp).key
    else (ctx.sock i).key
  buckets : ctx'.maps.buckets = (tcpFlowRemove ctx sid).maps.buckets
  sockNelems : ctx'.maps.sockNelems = ctx.maps.sockNelems
  buckNelems : ctx'.maps.buckNelems = ctx.maps.buckNelems
  nSocks : ctx'.nSocks = ctx.nSocks
  localIp : ctx'.localIp = ctx.localIp
  boundPorts : ctx'.boundPorts =
    failedBound ctx.boundPorts (ctx.sock sid) (ctx.tcpSockMeta sid).autoBound
  listeners : ctx'.listeners = ctx.listeners
  listenerId : ∀ i, (ctx'.sockMeta i).listenerId = (ctx.sockMeta i).listenerId
  autoBound : ∀ i, (ctx'.sockMeta i).autoBound =
    if i = (ctx.sock sid).id.toNat then false else (ctx.sockMeta i).autoBound
  kind : ∀ i, (ctx'.sockMeta i).retxKind = (ctx.sockMeta i).retxKind ∨
    (ctx'.sockMeta i).retxKind = .none ∨ (i < ctx.nSocks ∧ (ctx.sock i).state ≠ .closed)

theorem Failed.same {ctx b c : TcpSlowCtx} {sid : Nat} (h : Failed ctx b sid) (hs : Same b c)
    (hm : c.sockMeta = b.sockMeta) : Failed ctx c sid := by
  refine ⟨fun i => (hs.key i).trans (h.sock i), hs.buckets.trans h.buckets,
    hs.sockNelems.trans h.sockNelems, hs.buckNelems.trans h.buckNelems, hs.nSocks.trans h.nSocks,
    hs.localIp.trans h.localIp, hs.boundPorts.trans h.boundPorts, hs.listeners.trans h.listeners,
    fun i => (hs.listenerId i).trans (h.listenerId i),
    fun i => (hs.autoBound i).trans (h.autoBound i), ?_⟩
  rw [hm]
  exact h.kind

/-- A socket without its automatic binding. -/
def autoDropped : TcpSlowCtx :=
  let sock := ctx.sock sid
  let b := { ctx with boundPorts := boundDrop ctx.boundPorts sock.localPort sock.id }
  let b := b.setSock sid { sock with localPort := 0, localIp := ctx.localIp }
  b.setMeta sid { b.tcpSockMeta sid with autoBound := false }

private theorem autoDropped_sock (i : Nat) : (autoDropped ctx sid).sock i =
    if i = sid then { ctx.sock sid with localPort := 0, localIp := ctx.localIp }
    else ctx.sock i := by
  unfold autoDropped
  dsimp only
  rw [TcpSlowCtx.sock_setMeta]
  by_cases hi : i = sid
  · rw [if_pos hi, hi, TcpSlowCtx.sock_setSock]
  · rw [if_neg hi, TcpSlowCtx.sock_setSock_ne _ _ hi]
    rfl

private theorem autoDropped_sockMeta (i : Nat) : (autoDropped ctx sid).sockMeta i =
    if i = (ctx.sock sid).id.toNat then { ctx.tcpSockMeta sid with autoBound := false }
    else ctx.sockMeta i := by
  unfold autoDropped TcpSlowCtx.setMeta TcpSlowCtx.tcpSockMeta
  dsimp only
  rw [TcpSlowCtx.sock_setSock]
  rfl

theorem sockAutobindDrop_eq :
    sockAutobindDrop ctx sid =
      if (ctx.tcpSockMeta sid).autoBound then autoDropped ctx sid else ctx := by
  unfold sockAutobindDrop autoDropped
  dsimp only
  rw [tcpBoundRemove_eq]
  cases (ctx.tcpSockMeta sid).autoBound
  · rfl
  · rfl

/-- The context `c` of a failed connect once its flow is gone. -/
private structure FlowGone (ctx c : TcpSlowCtx) (sid : Nat) : Prop where
  sock : ∀ i, c.sock i = ctx.sock i
  buckets : c.maps.buckets = (tcpFlowRemove ctx sid).maps.buckets
  sockNelems : c.maps.sockNelems = ctx.maps.sockNelems
  buckNelems : c.maps.buckNelems = ctx.maps.buckNelems
  nSocks : c.nSocks = ctx.nSocks
  localIp : c.localIp = ctx.localIp
  boundPorts : c.boundPorts = ctx.boundPorts
  listeners : c.listeners = ctx.listeners
  listenerId : ∀ i, (c.sockMeta i).listenerId = (ctx.sockMeta i).listenerId
  autoBound : ∀ i, (c.sockMeta i).autoBound = (ctx.sockMeta i).autoBound
  kind : ∀ i, (c.sockMeta i).retxKind = (ctx.sockMeta i).retxKind ∨
    (c.sockMeta i).retxKind = .none ∨ (i < ctx.nSocks ∧ (ctx.sock i).state ≠ .closed)

private theorem flowGone {c : TcpSlowCtx} (hs : Same (tcpFlowRemove ctx sid) c)
    (hsock : ∀ i, c.sock i = ctx.sock i) : FlowGone ctx c sid := by
  have hnSocks : (tcpFlowRemove ctx sid).nSocks = ctx.nSocks := by rw [tcpFlowRemove_fields]
  refine ⟨hsock, hs.buckets, ?_, ?_, hs.nSocks.trans hnSocks, ?_, ?_, ?_, fun i => ?_,
    fun i => ?_, fun i => ?_⟩
  · rw [hs.sockNelems, tcpFlowRemove_fields]
  · rw [hs.buckNelems, tcpFlowRemove_fields]
  · rw [hs.localIp, tcpFlowRemove_fields]
  · rw [hs.boundPorts, tcpFlowRemove_boundPorts]
  · rw [hs.listeners, tcpFlowRemove_listeners]
  · rw [hs.listenerId, tcpFlowRemove_sockMeta]
  · rw [hs.autoBound, tcpFlowRemove_sockMeta]
  · have hkind := hs.kind i
    rw [tcpFlowRemove_sockMeta, tcpFlowRemove_sock, hnSocks] at hkind
    exact hkind

/-- A socket that was not bound automatically keeps its address. -/
private theorem FlowGone.kept {c : TcpSlowCtx} (hg : FlowGone ctx c sid)
    (hauto : (ctx.tcpSockMeta sid).autoBound = false) :
    Failed ctx (c.setSock sid { ccSockReset (sockConnReset (c.sock sid)) with state := .init })
      sid := by
  refine ⟨?_, hg.buckets, hg.sockNelems, hg.buckNelems, hg.nSocks, hg.localIp, ?_, hg.listeners,
    hg.listenerId, ?_, hg.kind⟩
  · intro i
    rw [hauto]
    by_cases hi : i = sid
    · rw [if_pos hi, hi, TcpSlowCtx.sock_setSock]
      show (failedSock (c.sock sid) false c.localIp).key = _
      rw [hg.sock]
      rfl
    · rw [if_neg hi, TcpSlowCtx.sock_setSock_ne _ _ hi, ← hg.sock]
  · rw [hauto]
    exact hg.boundPorts
  · intro i
    show (c.sockMeta i).autoBound = _
    rw [hg.autoBound]
    split
    · next hi => rw [hi]; exact hauto
    · rfl

/-- One that was loses it. -/
private theorem FlowGone.dropped {c : TcpSlowCtx} (hg : FlowGone ctx c sid)
    (hauto : (ctx.tcpSockMeta sid).autoBound = true) :
    Failed ctx ((autoDropped c sid).setSock sid
      { ccSockReset (sockConnReset ((autoDropped c sid).sock sid)) with state := .init }) sid := by
  have hid : (c.sock sid).id = (ctx.sock sid).id := by rw [hg.sock]
  refine ⟨fun i => ?_, hg.buckets, hg.sockNelems, hg.buckNelems, hg.nSocks, hg.localIp, ?_,
    hg.listeners, fun i => ?_, fun i => ?_, fun i => ?_⟩
  · rw [hauto]
    by_cases hi : i = sid
    · rw [if_pos hi, hi, TcpSlowCtx.sock_setSock, autoDropped_sock, if_pos rfl]
      show (failedSock (c.sock sid) true c.localIp).key = _
      rw [hg.sock, hg.localIp]
    · rw [if_neg hi, TcpSlowCtx.sock_setSock_ne _ _ hi, autoDropped_sock, if_neg hi, hg.sock]
  · rw [hauto]
    show boundDrop c.boundPorts _ _ = boundDrop ctx.boundPorts _ _
    rw [hg.boundPorts, hg.sock]
  · show ((autoDropped c sid).sockMeta i).listenerId = _
    rw [autoDropped_sockMeta]
    split
    · next hi => rw [hi, ← hg.listenerId]; rfl
    · exact hg.listenerId i
  · show ((autoDropped c sid).sockMeta i).autoBound = _
    rw [autoDropped_sockMeta, hid]
    split
    · rfl
    · exact hg.autoBound i
  · show ((autoDropped c sid).sockMeta i).retxKind = _ ∨
      ((autoDropped c sid).sockMeta i).retxKind = _ ∨ _
    rw [autoDropped_sockMeta]
    split
    · next hi => rw [hi]; exact hg.kind _
    · exact hg.kind i

/-- The core of a failed connect, on the context without the flow. -/
theorem failed_core {c : TcpSlowCtx} (hs : Same (tcpFlowRemove ctx sid) c)
    (hsock : ∀ i, c.sock i = ctx.sock i) :
    Failed ctx ((sockAutobindDrop c sid).setSock sid
      { ccSockReset (sockConnReset ((sockAutobindDrop c sid).sock sid)) with state := .init })
      sid := by
  have hg := flowGone ctx sid hs hsock
  have hauto : (c.tcpSockMeta sid).autoBound = (ctx.tcpSockMeta sid).autoBound := by
    unfold TcpSlowCtx.tcpSockMeta
    rw [hsock, hg.autoBound]
  rw [sockAutobindDrop_eq, hauto]
  cases hcase : (ctx.tcpSockMeta sid).autoBound with
  | false => exact hg.kept ctx sid hcase
  | true =>
    rw [if_pos rfl]
    exact hg.dropped ctx sid hcase

theorem tcpSockConnectFail_failed (err : Nat) :
    Failed ctx (tcpSockConnectFail ctx sid err) sid := by
  unfold tcpSockConnectFail
  dsimp only
  refine Failed.same ?_ (same_appSubmit _ _ _ _) (appSubmit_sockMeta _ _ _ _)
  apply failed_core
  · have hc := same_tcpTimeoutCancel ctx sid
    rw [tcpFlowRemove_fields ctx, tcpFlowRemove_fields (tcpTimeoutCancel ctx sid)]
    exact ⟨⟨hc.key, tcpFlowRemove_congr ctx sid hc.buckets (hc.key sid), hc.sockNelems,
      hc.buckNelems, hc.nSocks, hc.localIp, hc.boundPorts, hc.autoBound, hc.kind⟩,
      hc.listeners, hc.listenerId⟩
  · intro i
    rw [tcpFlowRemove_sock]
    rfl

theorem sockAutobindDrop_sockMeta (i : Nat) :
    (sockAutobindDrop ctx sid).sockMeta i =
      if i = (ctx.sock sid).id.toNat then { ctx.sockMeta i with autoBound := false }
      else ctx.sockMeta i := by
  rw [sockAutobindDrop_eq]
  split
  · unfold autoDropped TcpSlowCtx.setMeta TcpSlowCtx.tcpSockMeta
    dsimp only
    rw [TcpSlowCtx.sock_setSock]
    dsimp only
    split
    · next hi => rw [hi]; rfl
    · rfl
  · next hauto =>
    split
    · next hi =>
      have hfalse : (ctx.sockMeta i).autoBound = false := by
        rw [hi]
        simpa [TcpSlowCtx.tcpSockMeta] using hauto
      rw [← hfalse]
    · rfl

/-- A failed connect stops the timer and forgets the automatic binding. -/
theorem tcpSockConnectFail_sockMeta (err i : Nat) :
    (tcpSockConnectFail ctx sid err).sockMeta i =
      if i = (ctx.sock sid).id.toNat then
        { ctx.sockMeta i with autoBound := false, timer := none, retxKind := .none, retxLeft := 0 }
      else ctx.sockMeta i := by
  unfold tcpSockConnectFail tcpAppConnectRes
  dsimp only
  rw [appSubmit_sockMeta]
  show (sockAutobindDrop (tcpFlowRemove (tcpTimeoutCancel ctx sid) sid) sid).sockMeta i = _
  have hmeta : ∀ j, (tcpFlowRemove (tcpTimeoutCancel ctx sid) sid).sockMeta j =
      if j = (ctx.sock sid).id.toNat then
        { ctx.sockMeta (ctx.sock sid).id.toNat with
          timer := none, retxKind := .none, retxLeft := 0 }
      else ctx.sockMeta j := by
    intro j
    rw [tcpFlowRemove_sockMeta]
    rfl
  have hsock : (tcpFlowRemove (tcpTimeoutCancel ctx sid) sid).sock sid = ctx.sock sid := by
    rw [tcpFlowRemove_sock]
    rfl
  generalize tcpFlowRemove (tcpTimeoutCancel ctx sid) sid = c at hmeta hsock ⊢
  rw [sockAutobindDrop_sockMeta, hsock, hmeta]
  split
  · next hi => rw [hi]
  · rfl

end closing

/-! ## Allocation -/

/-- The key of a fresh socket. -/
def freshKey (ctx : TcpSlowCtx) : SockKey :=
  { id := UInt32.ofNat ctx.nSocks, state := .init, localIp := ctx.localIp, localPort := 0
    remoteIp := 0, remotePort := 0 }

/-- Everything but the entry behind the last socket is as before. -/
structure SameOld (ctx ctx' : TcpSlowCtx) : Prop where
  sock : ∀ i, i ≠ ctx.nSocks → ctx'.sock i = ctx.sock i
  buckets : ctx'.maps.buckets = ctx.maps.buckets
  sockNelems : ctx'.maps.sockNelems = ctx.maps.sockNelems
  buckNelems : ctx'.maps.buckNelems = ctx.maps.buckNelems
  localIp : ctx'.localIp = ctx.localIp
  boundPorts : ctx'.boundPorts = ctx.boundPorts
  listeners : ctx'.listeners = ctx.listeners
  sockMeta : ∀ i, i ≠ ctx.nSocks → ctx'.sockMeta i = ctx.sockMeta i
  kind : ∀ i, (ctx'.sockMeta i).retxKind = (ctx.sockMeta i).retxKind
  timer : ∀ i, (ctx'.sockMeta i).timer = (ctx.sockMeta i).timer
  tomgr : ctx'.tomgr = ctx.tomgr

/-- A new socket. -/
structure Allocated (ctx ctx' : TcpSlowCtx) : Prop extends SameOld ctx ctx' where
  room : ctx.nSocks < maxSockets
  nSocks : ctx'.nSocks = ctx.nSocks + 1
  key : (ctx'.sock ctx.nSocks).key = freshKey ctx
  listenerId : (ctx'.sockMeta ctx.nSocks).listenerId = idInvalid
  autoBound : (ctx'.sockMeta ctx.nSocks).autoBound = false

/-- No new socket, but its entry may have been written. -/
structure Unallocated (ctx ctx' : TcpSlowCtx) : Prop extends SameOld ctx ctx' where
  nSocks : ctx'.nSocks = ctx.nSocks
  entry : (ctx'.sock ctx.nSocks).state = .init ∨ ctx'.sock ctx.nSocks = ctx.sock ctx.nSocks

theorem SameOld.refl (ctx : TcpSlowCtx) : SameOld ctx ctx :=
  ⟨fun _ _ => rfl, rfl, rfl, rfl, rfl, rfl, rfl, fun _ _ => rfl, fun _ => rfl, fun _ => rfl, rfl⟩

/-- Storing the entry behind the last socket. -/
theorem SameOld.setSock {ctx ctx' : TcpSlowCtx} (h : SameOld ctx ctx') (s : TcpSock) :
    SameOld ctx (ctx'.setSock ctx.nSocks s) :=
  ⟨fun i hi => (TcpSlowCtx.sock_setSock_ne _ _ hi).trans (h.sock i hi), h.buckets, h.sockNelems,
    h.buckNelems, h.localIp, h.boundPorts, h.listeners, h.sockMeta, h.kind, h.timer, h.tomgr⟩

theorem SameOld.newQueue {ctx ctx' : TcpSlowCtx} (h : SameOld ctx ctx') (n : Nat) :
    SameOld ctx { ctx' with newQueuesAsked := n } :=
  ⟨h.sock, h.buckets, h.sockNelems, h.buckNelems, h.localIp, h.boundPorts, h.listeners,
    h.sockMeta, h.kind, h.timer, h.tomgr⟩

/-- The last step of an allocation: marks and count. -/
theorem SameOld.allocated {ctx c : TcpSlowCtx} (h : SameOld ctx c) (hlt : ctx.nSocks < maxSockets)
    (hkey : (c.sock ctx.nSocks).key = freshKey ctx) :
    Allocated ctx
      { c.setMeta ctx.nSocks
          { c.tcpSockMeta ctx.nSocks with listenerId := idInvalid, autoBound := false } with
        nSocks := ctx.nSocks + 1 } := by
  have hid : (c.sock ctx.nSocks).id.toNat = ctx.nSocks := by
    rw [show (c.sock ctx.nSocks).id = UInt32.ofNat ctx.nSocks from congrArg SockKey.id hkey,
      UInt32.toNat_ofNat']
    unfold maxSockets at hlt
    omega
  have hmeta : ∀ i, (c.setMeta ctx.nSocks { c.tcpSockMeta ctx.nSocks with
      listenerId := idInvalid, autoBound := false }).sockMeta i =
      if i = ctx.nSocks then { c.sockMeta i with listenerId := idInvalid, autoBound := false }
      else c.sockMeta i := by
    intro i
    unfold TcpSlowCtx.setMeta TcpSlowCtx.tcpSockMeta
    dsimp only
    rw [hid]
    split
    · next hi => rw [hi]
    · rfl
  refine ⟨⟨h.sock, h.buckets, h.sockNelems, h.buckNelems, h.localIp, h.boundPorts, h.listeners,
    ?_, ?_, ?_, h.tomgr⟩, hlt, rfl, hkey, ?_, ?_⟩
  · intro i hi
    exact (hmeta i).trans ((if_neg hi).trans (h.sockMeta i hi))
  · intro i
    refine (congrArg SockMeta.retxKind (hmeta i)).trans ?_
    split
    · exact h.kind i
    · exact h.kind i
  · intro i
    refine (congrArg SockMeta.timer (hmeta i)).trans ?_
    split
    · exact h.timer i
    · exact h.timer i
  · exact congrArg SockMeta.listenerId ((hmeta _).trans (if_pos rfl))
  · exact congrArg SockMeta.autoBound ((hmeta _).trans (if_pos rfl))

/-- Either a new socket at the next index, or nothing. -/
theorem tcpSockAlloc_cases (ctx : TcpSlowCtx) (opaquePtr : UInt64) (appId ctxId : UInt8)
    (appBumpQid : UInt16) :
    ((tcpSockAlloc ctx opaquePtr appId ctxId appBumpQid).2 = none ∧
      Unallocated ctx (tcpSockAlloc ctx opaquePtr appId ctxId appBumpQid).1) ∨
    ((tcpSockAlloc ctx opaquePtr appId ctxId appBumpQid).2 = some ctx.nSocks ∧
      Allocated ctx (tcpSockAlloc ctx opaquePtr appId ctxId appBumpQid).1) := by
  unfold tcpSockAlloc chamNewQueue
  by_cases hfull : ctx.nSocks ≥ maxSockets
  · rw [if_pos hfull]
    exact .inl ⟨rfl, SameOld.refl ctx, rfl, .inr rfl⟩
  rw [if_neg hfull]
  dsimp only
  have h₁ := (SameOld.refl ctx).setSock (sockBlank ctx opaquePtr appId ctxId appBumpQid)
  split
  · refine .inl ⟨rfl, h₁.newQueue _, rfl, .inl ?_⟩
    show (TcpSlowCtx.sock (TcpSlowCtx.setSock _ ctx.nSocks _) ctx.nSocks).state = _
    rw [TcpSlowCtx.sock_setSock]
    rfl
  · next rxq _ =>
    split
    · refine .inl ⟨rfl, ((h₁.newQueue _).setSock _).newQueue _, rfl, .inl ?_⟩
      show (TcpSlowCtx.sock (TcpSlowCtx.setSock _ ctx.nSocks _) ctx.nSocks).state = _
      rw [TcpSlowCtx.sock_setSock]
      show (TcpSlowCtx.sock (TcpSlowCtx.setSock _ ctx.nSocks _) ctx.nSocks).state = _
      rw [TcpSlowCtx.sock_setSock]
      rfl
    · next txq _ =>
      refine .inr ⟨rfl, SameOld.allocated
        ((((h₁.newQueue _).setSock _).newQueue _).setSock _) (by omega) ?_⟩
      rw [TcpSlowCtx.sock_setSock]
      show (TcpSlowCtx.sock (TcpSlowCtx.setSock _ ctx.nSocks _) ctx.nSocks).key = _
      rw [TcpSlowCtx.sock_setSock]
      show (TcpSlowCtx.sock (TcpSlowCtx.setSock _ ctx.nSocks _) ctx.nSocks).key = _
      rw [TcpSlowCtx.sock_setSock]
      rfl

end Chamelio.Tcp
