import Chamelio.Tcp.Backlog
import Chamelio.Tcp.SlowReqSpec

/-!
# Listeners and their children, move by move

A child is a socket with a listener's mark. It arrives with a SYN, completes
its handshake and waits in its listener's ready ring, is taken by an accept,
or goes away in between. Every handler of the slow path is cut into these
moves (`KidMoves`), so that a fact about listeners is proved once per move;
most of what a handler does moves no child at all (`KidsSame`).

`Marked`: mark, state and timer of every socket fit together. A child that
is still opening may run a SYN-ACK timer and no other; one that is ready
runs none. A socket an application names has no mark: it was handed out by
`app_new_sock`, or by `app_accept`, which takes the mark off.
-/

namespace Chamelio.Tcp

open Chamelio.Lib Chamelio.Util Chamelio.Pkt Chamelio.Fast

/-- What a listener has to do with a socket. -/
structure Kid where
  mark : UInt32
  state : SockState
  kind : RetxKind

def TcpSlowCtx.kid (ctx : TcpSlowCtx) (i : Nat) : Kid :=
  { mark := (ctx.sockMeta i).listenerId, state := (ctx.sock i).state
    kind := (ctx.sockMeta i).retxKind }

/-- Mark, state and timer of a socket fit together. -/
structure KidOk (x : Kid) : Prop where
  other : x.mark = idInvalid → x.state ≠ .synRecv ∧ x.state ≠ .acceptPending
  child : x.mark ≠ idInvalid → x.state = .closed ∨
    (x.state = .synRecv ∧ (x.kind = .none ∨ x.kind = .synack)) ∨
    (x.state = .acceptPending ∧ x.kind = .none)

structure Marked (ctx : TcpSlowCtx) : Prop where
  base : Base ctx
  kid : ∀ i, i < ctx.nSocks → KidOk (ctx.kid i)

theorem SlowInit.marked {ctx : TcpSlowCtx} (h : SlowInit ctx) : Marked ctx := by
  refine ⟨h.base, ?_⟩
  intro i hi
  rw [h.nSocks] at hi
  exact absurd hi (Nat.not_lt_zero i)

/-! ## Children are left alone -/

/-- A socket keeps its mark, and without one its state is its own. -/
structure KidStay (x y : Kid) : Prop where
  mark : y.mark = x.mark
  state : y.state = x.state ∨ x.mark = idInvalid
  ok : KidOk x → KidOk y

theorem KidStay.refl (x : Kid) : KidStay x x := ⟨rfl, .inl rfl, fun h => h⟩

theorem KidStay.trans {x y z : Kid} (h₁ : KidStay x y) (h₂ : KidStay y z) : KidStay x z := by
  refine ⟨h₂.mark.trans h₁.mark, ?_, fun h => h₂.ok (h₁.ok h)⟩
  rcases h₂.state with hs | hs
  · rcases h₁.state with hs' | hs'
    · exact .inl (hs.trans hs')
    · exact .inr hs'
  · exact .inr (h₁.mark.symm.trans hs)

/-- Stopping a timer is fine for any socket. -/
theorem KidStay.stopped {x y : Kid} (hm : y.mark = x.mark) (hs : y.state = x.state)
    (hk : y.kind = x.kind ∨ y.kind = .none) : KidStay x y := by
  refine ⟨hm, .inl hs, ?_⟩
  intro h
  refine ⟨?_, ?_⟩
  · rw [hm, hs]
    exact h.other
  · rw [hm, hs]
    intro hl
    rcases h.child hl with hc | ⟨hc, hk'⟩ | ⟨hc, hk'⟩
    · exact .inl hc
    · refine .inr (.inl ⟨hc, ?_⟩)
      rcases hk with hk | hk
      · rw [hk]
        exact hk'
      · exact .inl hk
    · refine .inr (.inr ⟨hc, ?_⟩)
      rcases hk with hk | hk
      · exact hk.trans hk'
      · exact hk

/-- A socket without a mark may go where no child is. -/
theorem KidStay.free {x y : Kid} (hx : x.mark = idInvalid) (hm : y.mark = x.mark)
    (hs : KidOk x → y.state ≠ .synRecv ∧ y.state ≠ .acceptPending) : KidStay x y :=
  ⟨hm, .inr hx, fun h => ⟨fun _ => hs h, fun hl => absurd (hm.trans hx) hl⟩⟩

/-- A timer may be started without a mark, or for the SYN-ACK of a child. -/
theorem KidStay.armed {x y : Kid} (hm : y.mark = x.mark) (hs : y.state = x.state)
    (hfit : x.mark = idInvalid ∨ (x.state = .synRecv ∧ y.kind = .synack)) : KidStay x y := by
  refine ⟨hm, .inl hs, fun h => ⟨?_, ?_⟩⟩
  · rw [hm, hs]
    exact h.other
  · rw [hm, hs]
    intro hl
    rcases hfit with hx | ⟨hst, hk⟩
    · exact absurd hx hl
    · exact .inr (.inl ⟨hst, .inr hk⟩)

theorem kid_setMeta (ctx : TcpSlowCtx) (sid : Nat) (m : SockMeta) (i : Nat) :
    (ctx.setMeta sid m).kid i =
      if i = (ctx.sock sid).id.toNat then
        { mark := m.listenerId, state := (ctx.sock i).state, kind := m.retxKind }
      else ctx.kid i := by
  unfold TcpSlowCtx.kid TcpSlowCtx.setMeta
  dsimp only
  split
  · rfl
  · rfl

/-- No child moves. -/
structure KidsSame (a b : TcpSlowCtx) : Prop where
  base : Base a → Base b
  nSocks : b.nSocks = a.nSocks
  listeners : b.listeners = a.listeners
  kid : ∀ i, i < a.nSocks → KidStay (a.kid i) (b.kid i)

theorem KidsSame.refl (a : TcpSlowCtx) : KidsSame a a :=
  ⟨fun h => h, rfl, rfl, fun i _ => KidStay.refl (a.kid i)⟩

theorem KidsSame.trans {a b c : TcpSlowCtx} (h₁ : KidsSame a b) (h₂ : KidsSame b c) :
    KidsSame a c := by
  refine ⟨fun h => h₂.base (h₁.base h), h₂.nSocks.trans h₁.nSocks,
    h₂.listeners.trans h₁.listeners, ?_⟩
  intro i hi
  exact (h₁.kid i hi).trans (h₂.kid i (by rw [h₁.nSocks]; exact hi))

theorem Marked.kids {a b : TcpSlowCtx} (h : Marked a) (hs : KidsSame a b) : Marked b := by
  refine ⟨hs.base h.base, ?_⟩
  intro i hi
  rw [hs.nSocks] at hi
  exact (hs.kid i hi).ok (h.kid i hi)

/-- `Same` steps that start no timer. -/
theorem Same.kids {a b : TcpSlowCtx} (h : Same a b)
    (hk : ∀ i, (b.sockMeta i).retxKind = (a.sockMeta i).retxKind ∨
      (b.sockMeta i).retxKind = .none) : KidsSame a b :=
  ⟨fun hb => hb.same h.toSameCore, h.nSocks, h.listeners,
    fun i _ => KidStay.stopped (h.listenerId i) (key_state (h.key i)) (hk i)⟩

theorem Same.kids_of_meta {a b : TcpSlowCtx} (h : Same a b) (hm : b.sockMeta = a.sockMeta) :
    KidsSame a b :=
  h.kids (fun i => by rw [hm]; exact .inl rfl)

/-! ## Steps that leave them alone -/

section calm

variable (ctx : TcpSlowCtx)

theorem kids_ctlPktEnqueue (c : CtlSeg) : KidsSame ctx (ctlPktEnqueue ctx c).1 :=
  (same_ctlPktEnqueue ctx c).kids_of_meta (ctlPktEnqueue_sockMeta ctx c)

theorem kids_tcpCtlTx (sid : Nat) (flags : UInt16) : KidsSame ctx (tcpCtlTx ctx sid flags).1 :=
  kids_ctlPktEnqueue _ _

theorem kids_replyRst (rx : TcpRxCtl) (seq ack : UInt32) :
    KidsSame ctx (replyRst ctx rx seq ack) := kids_ctlPktEnqueue _ _

theorem kids_appSubmit (appId ctxId : UInt8) (res : AppRes) :
    KidsSame ctx (appSubmit ctx appId ctxId res) :=
  (same_appSubmit ctx appId ctxId res).kids_of_meta (appSubmit_sockMeta ctx appId ctxId res)

/-- A socket stored with the key it had. -/
theorem kids_setSock {sid : Nat} {s : TcpSock} (h : s.key = (ctx.sock sid).key) :
    KidsSame ctx (ctx.setSock sid s) := (same_setSock ctx h).kids_of_meta rfl

/-- Metadata stored with mark and timer it had, or its timer stopped. -/
theorem kids_setMeta {sid : Nat} {m : SockMeta}
    (h₁ : m.listenerId = (ctx.tcpSockMeta sid).listenerId)
    (h₂ : m.autoBound = (ctx.tcpSockMeta sid).autoBound)
    (h₃ : m.retxKind = (ctx.tcpSockMeta sid).retxKind ∨ m.retxKind = .none) :
    KidsSame ctx (ctx.setMeta sid m) := by
  have hs : Same ctx (ctx.setMeta sid m) := same_setMeta ctx h₁ h₂ (by
    rcases h₃ with h₃ | h₃
    · exact .inl h₃
    · exact .inr (.inl h₃))
  refine hs.kids ?_
  intro i
  show SockMeta.retxKind (if i = (ctx.sock sid).id.toNat then m else ctx.sockMeta i) = _ ∨
    SockMeta.retxKind (if i = (ctx.sock sid).id.toNat then m else ctx.sockMeta i) = _
  split
  · next hi => rw [hi]; exact h₃
  · exact .inl rfl

theorem kids_tomgr (tomgr : Tomgr) : KidsSame ctx { ctx with tomgr } :=
  (same_tomgr ctx tomgr).kids_of_meta rfl

theorem kids_tcpTimeoutCancel (sid : Nat) : KidsSame ctx (tcpTimeoutCancel ctx sid) :=
  (kids_tomgr ctx _).trans (kids_setMeta _ rfl rfl (.inr rfl))

theorem kids_timerPopped (entry sid : Nat) : KidsSame ctx (timerPopped ctx entry sid) :=
  (kids_tomgr ctx _).trans (kids_setMeta _ rfl rfl (.inl rfl))

theorem kids_sockRetxSched (sid : Nat) : KidsSame ctx (sockRetxSched ctx sid).1 := by
  unfold sockRetxSched
  dsimp only
  split
  · exact (kids_tomgr ctx _).trans (kids_setMeta _ rfl rfl (.inl rfl))
  · exact kids_setMeta _ rfl rfl (.inr rfl)

theorem sockRetxTx_sockMeta (sid : Nat) : (sockRetxTx ctx sid).1.sockMeta = ctx.sockMeta := by
  unfold sockRetxTx
  dsimp only
  split
  · rfl
  · exact ctlPktEnqueue_sockMeta _ _

theorem kids_sockRetxTx (sid : Nat) : KidsSame ctx (sockRetxTx ctx sid).1 :=
  (same_sockRetxTx ctx sid).kids_of_meta (sockRetxTx_sockMeta ctx sid)

variable {ctx} {sid : Nat}

/-- Arming a timer that fits the socket. -/
theorem kids_tcpTimeoutArm {kind : RetxKind} (h : Base ctx) (hlt : sid < ctx.nSocks)
    (hlive : (ctx.sock sid).state ≠ .closed)
    (hfit : (ctx.kid sid).mark = idInvalid ∨
      ((ctx.kid sid).state = .synRecv ∧ kind = .synack)) :
    KidsSame ctx (tcpTimeoutArm ctx sid kind).1 := by
  have hid := h.toNat_id hlt
  unfold tcpTimeoutArm
  dsimp only
  have hcancel := kids_tcpTimeoutCancel ctx sid
  refine hcancel.trans (KidsSame.trans ?_ (kids_sockRetxSched _ sid))
  have hsame : Same (tcpTimeoutCancel ctx sid) ((tcpTimeoutCancel ctx sid).setMeta sid
      { (tcpTimeoutCancel ctx sid).tcpSockMeta sid with
        retxKind := kind, retxLeft := tcpRetxRetries }) := by
    refine same_setMeta _ rfl rfl (.inr (.inr ?_))
    rw [tcpTimeoutCancel_sock, hid]
    exact ⟨hlt, hlive⟩
  have hcid : ((tcpTimeoutCancel ctx sid).sock sid).id.toNat = sid := by
    rw [tcpTimeoutCancel_sock]
    exact hid
  have hfit' : ((tcpTimeoutCancel ctx sid).kid sid).mark = idInvalid ∨
      (((tcpTimeoutCancel ctx sid).kid sid).state = .synRecv ∧ kind = .synack) := by
    rw [(hcancel.kid sid hlt).mark]
    exact hfit
  generalize tcpTimeoutCancel ctx sid = c at hsame hcid hfit' ⊢
  refine ⟨fun hb => hb.same hsame.toSameCore, hsame.nSocks, hsame.listeners, ?_⟩
  intro i _
  rw [kid_setMeta, hcid]
  split
  · next he =>
    rw [he]
    have hm : (c.tcpSockMeta sid).listenerId = (c.kid sid).mark := by
      unfold TcpSlowCtx.tcpSockMeta
      rw [hcid]
      rfl
    exact KidStay.armed hm rfl hfit'
  · exact KidStay.refl _

end calm

/-! ## Moves -/

/-- Moves of children, by listener `k` and child `i`. -/
inductive KidEv
  /-- A socket more that is no open child. -/
  | grown
  | arrived (k : Nat)
  | readied (k i : Nat)
  /-- A socket was closed; `ready`: it waited in a ready ring. -/
  | gone (i : Nat) (ready : Bool)
  /-- An accept dropped an empty cell of the ring. -/
  | skipped (k : Nat)
  | taken (k i : Nat)
  | opened (k : Nat)
  | shut (k : Nat)
  deriving DecidableEq

/-- One socket and the listeners changed. -/
structure KidAt (a b : TcpSlowCtx) (i : Nat) (x : Kid) (listeners : Nat → Listener) : Prop where
  base : Base a → Base b
  nSocks : b.nSocks = a.nSocks
  kid : ∀ j, j < a.nSocks → b.kid j = if j = i then x else a.kid j
  listener : b.listeners = listeners

/-- There is a socket more. -/
structure KidNew (a b : TcpSlowCtx) (x : Kid) (listeners : Nat → Listener) : Prop where
  base : Base a → Base b
  room : a.nSocks < maxSockets
  nSocks : b.nSocks = a.nSocks + 1
  kid : ∀ j, j < a.nSocks + 1 → b.kid j = if j = a.nSocks then x else a.kid j
  listener : b.listeners = listeners

/-- The listeners with another one at `k`. -/
def TcpSlowCtx.withListener (ctx : TcpSlowCtx) (k : Nat) (l : Listener) : Nat → Listener :=
  fun j => if j = k then l else ctx.listeners j

/-- A closed socket. -/
def kidClosed : Kid := { mark := idInvalid, state := .closed, kind := .none }

/-- The listeners after socket `i` was detached. -/
def detachedAt (ctx : TcpSlowCtx) (i : Nat) : Nat → Listener := fun k =>
  if (ctx.kid i).mark ≠ idInvalid ∧ k = (ctx.kid i).mark.toNat then
    detached (ctx.listeners k) (UInt32.ofNat i)
  else ctx.listeners k

/-- `x` is marked by listener `k`. -/
def Kid.of (x : Kid) (k : Nat) : Prop := x.mark ≠ idInvalid ∧ x.mark.toNat = k

instance (x : Kid) (k : Nat) : Decidable (x.of k) :=
  inferInstanceAs (Decidable (x.mark ≠ idInvalid ∧ x.mark.toNat = k))

/-- Socket `i` waits to be accepted from listener `k`. -/
def Waits (ctx : TcpSlowCtx) (k i : Nat) : Prop :=
  i < ctx.nSocks ∧ (ctx.kid i).of k ∧ (ctx.kid i).state = .acceptPending

/-- The listener has a cell for one more child. -/
def Listener.hasCell (l : Listener) : Prop := l.active = true ∧ l.readyUsed < l.backlogLen

instance (l : Listener) : Decidable l.hasCell :=
  inferInstanceAs (Decidable (l.active = true ∧ l.readyUsed < l.backlogLen))

def KidMove (a b : TcpSlowCtx) : KidEv → Prop
  | .grown => ∃ x, (x.state = .closed ∨
      (x.mark = idInvalid ∧ x.state ≠ .synRecv ∧ x.state ≠ .acceptPending)) ∧
      KidNew a b x a.listeners
  | .arrived k => ∃ m, m ≠ idInvalid ∧ m.toNat = k ∧ (a.listeners k).active = true ∧
      (a.listeners k).backlogUsed < (a.listeners k).backlogLen ∧
      KidNew a b { mark := m, state := .synRecv, kind := .none } (a.withListener k
        { a.listeners k with backlogUsed := (a.listeners k).backlogUsed + 1 })
  | .readied k i => i < a.nSocks ∧ (a.kid i).of k ∧ (a.kid i).state = .synRecv ∧
      (a.listeners k).hasCell ∧
      KidAt a b i { a.kid i with state := .acceptPending, kind := .none }
        (a.withListener k (ringPush (a.listeners k) (UInt32.ofNat i)))
  | .gone i ready => i < a.nSocks ∧ ((a.kid i).mark = idInvalid ∨ (a.kid i).state ≠ .closed) ∧
      (ready = true ↔ (a.kid i).mark ≠ idInvalid ∧ (a.kid i).state = .acceptPending) ∧
      KidAt a b i kidClosed (detachedAt a i)
  | .skipped k => (a.listeners k).active = true ∧ (a.listeners k).readyUsed ≠ 0 ∧
      (a.listeners k).readySids (a.listeners k).readyHead.toNat = idInvalid ∧
      (Base a → Base b) ∧ b.nSocks = a.nSocks ∧ (∀ j, j < a.nSocks → b.kid j = a.kid j) ∧
      b.listeners = a.withListener k (ringPop (a.listeners k))
  | .taken k i => Waits a k i ∧ (a.listeners k).active = true ∧ (a.listeners k).readyUsed ≠ 0 ∧
      (a.listeners k).readySids (a.listeners k).readyHead.toNat = UInt32.ofNat i ∧
      KidAt a b i { a.kid i with mark := idInvalid, state := .established }
        (a.withListener k (listenerBacklogPut (ringPop (a.listeners k))))
  | .opened k => k < a.nSocks ∧ (a.kid k).mark = idInvalid ∧ (a.listeners k).active = false ∧
      ∃ backlog : UInt32, backlog.toNat < 2147483648 ∧
        KidAt a b k { a.kid k with state := .listen }
          (a.withListener k (listenerOpen (a.listeners k) backlog))
  | .shut k => (Base a → Base b) ∧ b.nSocks = a.nSocks ∧ (a.kid k).mark = idInvalid ∧
      (∀ j, j < a.nSocks → b.kid j =
        if ((a.kid j).of k ∧ (a.kid j).state ≠ .closed) ∨ j = k then kidClosed else a.kid j) ∧
      b.listeners = a.withListener k listenerZero

/-- Moves one after the other, with calm steps between them. -/
inductive KidMoves (a : TcpSlowCtx) : List KidEv → TcpSlowCtx → Prop
  | nil : KidMoves a [] a
  | calm {l : List KidEv} {b c : TcpSlowCtx} (h : KidMoves a l b) (hs : KidsSame b c) :
    KidMoves a l c
  | move {l : List KidEv} {b c : TcpSlowCtx} {e : KidEv} (h : KidMoves a l b)
    (hm : KidMove b c e) : KidMoves a (l ++ [e]) c

theorem KidsSame.moves {a b : TcpSlowCtx} (h : KidsSame a b) : KidMoves a [] b :=
  KidMoves.nil.calm h

theorem KidMoves.one {a b : TcpSlowCtx} {e : KidEv} (h : KidMove a b e) : KidMoves a [e] b :=
  KidMoves.nil.move h

theorem KidMoves.trans {a b c : TcpSlowCtx} {l l' : List KidEv} (h₁ : KidMoves a l b)
    (h₂ : KidMoves b l' c) : KidMoves a (l ++ l') c := by
  induction h₂ with
  | nil =>
    rw [List.append_nil]
    exact h₁
  | calm _ hs ih => exact ih.calm hs
  | move _ hm ih =>
    rw [← List.append_assoc]
    exact ih.move hm

theorem KidOk.closed : KidOk kidClosed := by
  refine ⟨fun _ => ⟨SockState.noConfusion, SockState.noConfusion⟩, fun _ => .inl rfl⟩

theorem Marked.at {a b : TcpSlowCtx} {i : Nat} {x : Kid} {ls : Nat → Listener} (h : Marked a)
    (hb : KidAt a b i x ls) (hx : KidOk x) : Marked b := by
  refine ⟨hb.base h.base, ?_⟩
  intro j hj
  rw [hb.nSocks] at hj
  rw [hb.kid j hj]
  split
  · exact hx
  · exact h.kid j hj

theorem Marked.new {a b : TcpSlowCtx} {x : Kid} {ls : Nat → Listener} (h : Marked a)
    (hb : KidNew a b x ls) (hx : KidOk x) : Marked b := by
  refine ⟨hb.base h.base, ?_⟩
  intro j hj
  rw [hb.nSocks] at hj
  rw [hb.kid j hj]
  split
  · exact hx
  · exact h.kid j (by omega)

theorem Marked.move {a b : TcpSlowCtx} {e : KidEv} (h : Marked a) (hm : KidMove a b e) :
    Marked b := by
  cases e with
  | grown =>
    obtain ⟨x, hx, hn⟩ := hm
    refine h.new hn ⟨fun _ => ?_, fun hl => ?_⟩
    · rcases hx with hx | ⟨-, hx⟩
      · rw [hx]
        exact ⟨SockState.noConfusion, SockState.noConfusion⟩
      · exact hx
    · rcases hx with hx | ⟨hx, -⟩
      · exact .inl hx
      · exact absurd hx hl
  | arrived k =>
    obtain ⟨m, hm0, -, -, -, hn⟩ := hm
    exact h.new hn ⟨fun hl => absurd hl hm0, fun _ => .inr (.inl ⟨rfl, .inl rfl⟩)⟩
  | readied k i =>
    obtain ⟨-, hof, -, -, hat⟩ := hm
    exact h.at hat ⟨fun hl => absurd hl hof.1, fun _ => .inr (.inr ⟨rfl, rfl⟩)⟩
  | gone i ready => exact h.at hm.2.2.2 KidOk.closed
  | skipped k =>
    obtain ⟨-, -, -, hb, hn, hk, -⟩ := hm
    refine ⟨hb h.base, ?_⟩
    intro j hj
    rw [hn] at hj
    rw [hk j hj]
    exact h.kid j hj
  | taken k i =>
    obtain ⟨-, -, -, -, hat⟩ := hm
    exact h.at hat ⟨fun _ => ⟨SockState.noConfusion, SockState.noConfusion⟩,
      fun hl => absurd rfl hl⟩
  | opened k =>
    obtain ⟨-, hk, -, _, -, hat⟩ := hm
    exact h.at hat ⟨fun _ => ⟨SockState.noConfusion, SockState.noConfusion⟩,
      fun hl => absurd hk hl⟩
  | shut k =>
    obtain ⟨hb, hn, -, hk, -⟩ := hm
    refine ⟨hb h.base, ?_⟩
    intro j hj
    rw [hn] at hj
    rw [hk j hj]
    split
    · exact KidOk.closed
    · exact h.kid j hj

theorem Marked.moves {a b : TcpSlowCtx} {l : List KidEv} (h : Marked a) (hm : KidMoves a l b) :
    Marked b := by
  induction hm with
  | nil => exact h
  | calm _ hs ih => exact ih.kids hs
  | move _ hm ih => exact ih.move hm

end Chamelio.Tcp
