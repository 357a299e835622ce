import Chamelio.Tcp.SockFrame
import Chamelio.Tcp.TimerInv
import Chamelio.Tcp.CtlTrip

/-!
# The numbers of a connection that opens

Every SYN and every SYN-ACK is sent with number 1: `sock_connect_start` and
`tcp_rx_listen_syn` put it in `tx_seq`, and the timer counts it back from the
end of what is pending. The one exception is `tcp_ctl_tx_resend`, which takes
one more away: a SYN-ACK that answers a second SYN has number 0.

`Shakes` says this for one event of a slow path: which segments with a SYN it
queues, and for each socket how `tx_seq`, `tx_pending` and `rx_seq` came about.
The number a socket expects next is one more than that of the SYN it got, so
the event is given with the numbers of the SYN or SYN-ACK it delivers.

Mirroring notes: a timer sends what its kind says. That the kind fits the
state of the socket is `TimerInv`, which needs `ListenIdle`.
-/

namespace Chamelio.Tcp

open Chamelio.Lib Chamelio.Util Chamelio.Pkt Chamelio.Fast

/-! ## Segments with a SYN -/

/-- The number of a SYN is 1, that of a SYN-ACK 1 or 0. -/
def CtlSeg.SynStart (c : CtlSeg) : Prop :=
  c.flags &&& tcpSyn ≠ 0 → c.seq = 1 ∨ (c.flags &&& tcpAck ≠ 0 ∧ c.seq = 0)

/-- The entry `ctl_pkt_enqueue` makes of a segment. -/
def CtlSeg.entry (c : CtlSeg) : TcpQe := .ctlTxPkt ((List.range ctlPktSize).map (ctlPktFill c))

/-- From `a` to `b` nothing was queued for the fast path but segments of which
those with a SYN have the right number. -/
def CtlSends (a b : TcpSlowCtx) : Prop :=
  ∃ segs : List CtlSeg, b.slowFastPktQ.items = a.slowFastPktQ.items ++ segs.map CtlSeg.entry ∧
    ∀ c ∈ segs, c.SynStart

/-- Nothing was sent. -/
theorem ctlSends_of_eq {a b : TcpSlowCtx} (h : b.slowFastPktQ = a.slowFastPktQ) : CtlSends a b :=
  ⟨[], by rw [h]; simp, by simp⟩

/-- Steps one after the other. -/
theorem CtlSends.trans {a b c : TcpSlowCtx} (h₁ : CtlSends a b) (h₂ : CtlSends b c) :
    CtlSends a c := by
  obtain ⟨segs₁, hq₁, hs₁⟩ := h₁
  obtain ⟨segs₂, hq₂, hs₂⟩ := h₂
  refine ⟨segs₁ ++ segs₂, by rw [hq₂, hq₁]; simp, ?_⟩
  intro c hc
  rcases List.mem_append.mp hc with hc | hc
  · exact hs₁ c hc
  · exact hs₂ c hc

/-- A segment that starts right is sent, or nothing is. -/
theorem ctlSends_ctlPktEnqueue (ctx : TcpSlowCtx) {c : CtlSeg} (hc : c.SynStart) :
    CtlSends ctx (ctlPktEnqueue ctx c).1 := by
  by_cases hok : (ctlPktEnqueue ctx c).2 = true
  · refine ⟨[c], Fifo.push_items (ctlPktEnqueue_pktQ hok), ?_⟩
    intro d hd
    rwa [List.mem_singleton.mp hd]
  · -- nothing was queued
    apply ctlSends_of_eq
    unfold ctlPktEnqueue at hok ⊢
    dsimp only at hok ⊢
    split
    · next hp hs =>
      rw [hp, hs] at hok
      exact absurd rfl hok
    · rfl

/-- A segment without SYN has no number to get right. -/
theorem synStart_of_no_syn {c : CtlSeg} (h : c.flags &&& tcpSyn = 0) : c.SynStart :=
  fun hsyn => absurd h hsyn

/-- A SYN-ACK acknowledges. -/
theorem synackFlags_ack (s : TcpSock) : synackFlags s &&& tcpAck ≠ 0 := by
  unfold synackFlags
  split
  · decide
  · decide

/-! ## Events and numbers -/

/-- A socket whose part in its connection is as before. -/
structure NumKept (s t : TcpSock) : Prop extends SameSeq s t where
  state : t.state = s.state

theorem NumKept.refl (s : TcpSock) : NumKept s s := ⟨⟨rfl, rfl, rfl⟩, rfl⟩

/-- Steps one after the other. -/
theorem NumKept.trans {s t u : TcpSock} (h₁ : NumKept s t) (h₂ : NumKept t u) : NumKept s u :=
  ⟨⟨h₂.txSeq.trans h₁.txSeq, h₂.txPending.trans h₁.txPending, h₂.rxSeq.trans h₁.rxSeq⟩,
    h₂.state.trans h₁.state⟩

/-- The states in which a handshake is under way. -/
def SockState.shaking : SockState → Bool
  | .synSent | .synRecv | .acceptPending => true
  | _ => false

/-- What an event does to the numbers of a socket, when it delivers a SYN or a
SYN-ACK with a number for which `syn` or `synack` holds. -/
inductive Shake (syn synack : UInt32 → Prop) (s t : TcpSock) : Prop
  | kept (h : NumKept s t)
  | out (h : t.state.shaking = false) (hne : t.state ≠ .established)
  | connect (h : t.state = .synSent) (hseq : t.txSeq = 1) (hpend : t.txPending = 1)
  | child {seq : UInt32} (hsyn : syn seq) (h : t.state = .synRecv) (hseq : t.txSeq = 1)
    (hpend : t.txPending = 1) (hrx : t.rxSeq = seq + 1)
  | active {seq : UInt32} (hsyn : synack seq) (hs : s.state = .synSent) (h : t.state = .established)
    (hseq : t.txSeq = s.txSeq + 1) (hpend : t.txPending = s.txPending - 1)
    (hrx : t.rxSeq = seq + 1)
  | passive (hs : s.state = .synRecv) (h : t.state = .acceptPending)
    (hseq : t.txSeq = s.txSeq + 1) (hpend : t.txPending = s.txPending - 1)
    (hrx : t.rxSeq = s.rxSeq)
  | accepted (hs : s.state = .acceptPending) (h : t.state = .established) (hnum : SameSeq s t)

/-- **One event**: every socket's numbers and every SYN that is queued. -/
structure Shakes (syn synack : UInt32 → Prop) (a b : TcpSlowCtx) : Prop where
  socks : ∀ i, Shake syn synack (a.sock i) (b.sock i)
  sends : CtlSends a b

/-- Every socket but `x` is as before, and the segments that were queued are
right. -/
structure NumAt (a b : TcpSlowCtx) (x : Nat) : Prop where
  others : ∀ i, i ≠ x → NumKept (a.sock i) (b.sock i)
  sends : CtlSends a b

/-- Every socket is as before. -/
structure NumSame (a b : TcpSlowCtx) : Prop where
  socks : ∀ i, NumKept (a.sock i) (b.sock i)
  sends : CtlSends a b

section frame

variable {a b c : TcpSlowCtx} {x : Nat} {syn synack : UInt32 → Prop}

/-- No socket changed, and what was sent starts right. -/
theorem NumSame.of_socks (h : SocksSame a b) (hs : CtlSends a b) : NumSame a b := by
  refine ⟨fun i => ?_, hs⟩
  rw [h i]
  exact NumKept.refl _

theorem NumSame.of_eq (h : SocksSame a b) (hq : b.slowFastPktQ = a.slowFastPktQ) : NumSame a b :=
  NumSame.of_socks h (ctlSends_of_eq hq)

theorem NumSame.refl (a : TcpSlowCtx) : NumSame a a := NumSame.of_eq (SocksSame.refl a) rfl

/-- Steps one after the other. -/
theorem NumSame.trans (h₁ : NumSame a b) (h₂ : NumSame b c) : NumSame a c :=
  ⟨fun i => (h₁.socks i).trans (h₂.socks i), h₁.sends.trans h₂.sends⟩

theorem NumSame.at (h : NumSame a b) (x : Nat) : NumAt a b x := ⟨fun i _ => h.socks i, h.sends⟩

theorem NumAt.trans (h₁ : NumAt a b x) (h₂ : NumAt b c x) : NumAt a c x :=
  ⟨fun i hi => (h₁.others i hi).trans (h₂.others i hi), h₁.sends.trans h₂.sends⟩

theorem NumAt.of_sockAt (h : SockAt a b x) (hs : CtlSends a b) : NumAt a b x := by
  refine ⟨fun i hi => ?_, hs⟩
  rw [h i hi]
  exact NumKept.refl _

/-- A store sends nothing. -/
theorem numAt_setSock (ctx : TcpSlowCtx) (sid : Nat) (s : TcpSock) :
    NumAt ctx (ctx.setSock sid s) sid :=
  NumAt.of_sockAt (sockAt_setSock ctx sid s) (ctlSends_of_eq rfl)

/-- A socket was stored with its numbers as they were. -/
theorem numSame_stored {sid : Nat} {s : TcpSock} (hs : b.maps.socks = (a.setSock sid s).maps.socks)
    (hq : b.slowFastPktQ = a.slowFastPktQ) (h : NumKept (a.sock sid) s) : NumSame a b := by
  refine ⟨fun i => ?_, ctlSends_of_eq hq⟩
  have hi : b.sock i = (a.setSock sid s).sock i := congrFun hs i
  rw [hi]
  by_cases he : i = sid
  · rw [he, TcpSlowCtx.sock_setSock]
    exact h
  · rw [TcpSlowCtx.sock_setSock_ne _ _ he]
    exact NumKept.refl _

/-- A store that keeps the numbers. -/
theorem numSame_setSock {ctx : TcpSlowCtx} {sid : Nat} {s : TcpSock}
    (h : NumKept (ctx.sock sid) s) : NumSame ctx (ctx.setSock sid s) := numSame_stored rfl rfl h

/-- Keeping all numbers is a way to shake hands. -/
theorem NumSame.shakes (h : NumSame a b) : Shakes syn synack a b :=
  ⟨fun i => .kept (h.socks i), h.sends⟩

/-- One socket that shakes hands, the others as before. -/
theorem NumAt.shakes (h : NumAt a b x) (hx : Shake syn synack (a.sock x) (b.sock x)) :
    Shakes syn synack a b := by
  refine ⟨fun i => ?_, h.sends⟩
  by_cases hi : i = x
  · rw [hi]
    exact hx
  · exact .kept (h.others i hi)

/-- A socket that has left its connection. -/
theorem NumAt.leaves (h : NumAt a b x) (hs : (b.sock x).state = .closed ∨ (b.sock x).state = .init ∨
    (b.sock x).state = .finWait1 ∨ (b.sock x).state = .listen) : Shakes syn synack a b := by
  refine h.shakes (.out ?_ ?_)
  · rcases hs with hs | hs | hs | hs
    all_goals (rw [hs]; rfl)
  · rcases hs with hs | hs | hs | hs
    all_goals (rw [hs]; nofun)

/-- What keeps the numbers may come before a handshake. -/
theorem Shake.before {s t u : TcpSock} (h : NumKept s t) (hs : Shake syn synack t u) :
    Shake syn synack s u := by
  cases hs with
  | kept hk => exact .kept (h.trans hk)
  | out ho hne => exact .out ho hne
  | connect ht hseq hpend => exact .connect ht hseq hpend
  | child hsyn ht hseq hpend hrx => exact .child hsyn ht hseq hpend hrx
  | active hsyn hst ht hseq hpend hrx =>
    exact .active hsyn (h.state ▸ hst) ht (by rw [hseq, h.txSeq]) (by rw [hpend, h.txPending]) hrx
  | passive hst ht hseq hpend hrx =>
    exact .passive (h.state ▸ hst) ht (by rw [hseq, h.txSeq]) (by rw [hpend, h.txPending])
      (by rw [hrx, h.rxSeq])
  | accepted hst ht hnum =>
    exact .accepted (h.state ▸ hst) ht ⟨hnum.txSeq.trans h.txSeq, hnum.txPending.trans h.txPending,
      hnum.rxSeq.trans h.rxSeq⟩

/-- The same of all sockets. -/
theorem NumSame.before (h : NumSame a b) (hs : Shakes syn synack b c) : Shakes syn synack a c :=
  ⟨fun i => (hs.socks i).before (h.socks i), h.sends.trans hs.sends⟩

/-- It may come behind one too. -/
theorem Shake.after {s t u : TcpSock} (hs : Shake syn synack s t) (h : NumKept t u) :
    Shake syn synack s u := by
  cases hs with
  | kept hk => exact .kept (hk.trans h)
  | out ho hne => exact .out (by rw [h.state]; exact ho) (by rw [h.state]; exact hne)
  | connect ht hseq hpend =>
    exact .connect (h.state.trans ht) (h.txSeq.trans hseq) (h.txPending.trans hpend)
  | child hsyn ht hseq hpend hrx =>
    exact .child hsyn (h.state.trans ht) (h.txSeq.trans hseq) (h.txPending.trans hpend)
      (h.rxSeq.trans hrx)
  | active hsyn hst ht hseq hpend hrx =>
    exact .active hsyn hst (h.state.trans ht) (h.txSeq.trans hseq) (h.txPending.trans hpend)
      (h.rxSeq.trans hrx)
  | passive hst ht hseq hpend hrx =>
    exact .passive hst (h.state.trans ht) (h.txSeq.trans hseq) (h.txPending.trans hpend)
      (h.rxSeq.trans hrx)
  | accepted hst ht hnum =>
    exact .accepted hst (h.state.trans ht) ⟨h.txSeq.trans hnum.txSeq, h.txPending.trans hnum.txPending,
      h.rxSeq.trans hnum.rxSeq⟩

/-- A socket that was not in use before: what its entry held does not
matter. -/
theorem Shake.fresh {s t u : TcpSock} (hs : Shake syn synack t u) (ht : t.state = .init) :
    Shake syn synack s u := by
  cases hs with
  | kept hk =>
    have hu := hk.state.trans ht
    exact .out (by rw [hu]; rfl) (by rw [hu]; nofun)
  | out ho hne => exact .out ho hne
  | connect hu hseq hpend => exact .connect hu hseq hpend
  | child hsyn hu hseq hpend hrx => exact .child hsyn hu hseq hpend hrx
  | active _ hst => rw [ht] at hst; cases hst
  | passive hst => rw [ht] at hst; cases hst
  | accepted hst => rw [ht] at hst; cases hst

/-- The same of all sockets. -/
theorem Shakes.after (hs : Shakes syn synack a b) (h : NumSame b c) : Shakes syn synack a c :=
  ⟨fun i => (hs.socks i).after (h.socks i), hs.sends.trans h.sends⟩

end frame

/-! ## Functions that queue no SYN -/

section calm

variable (ctx : TcpSlowCtx)

/-- Sending keeps every number. -/
theorem num_ctlPktEnqueue {c : CtlSeg} (hc : c.SynStart) : NumSame ctx (ctlPktEnqueue ctx c).1 :=
  NumSame.of_socks (socks_ctlPktEnqueue ctx c) (ctlSends_ctlPktEnqueue ctx hc)

/-- A segment of a socket that is no SYN, or the first one. -/
theorem num_tcpCtlTx (sid : Nat) (flags : UInt16)
    (h : flags &&& tcpSyn = 0 ∨ (ctx.sock sid).txSeq = 1) : NumSame ctx (tcpCtlTx ctx sid flags).1 := by
  refine num_ctlPktEnqueue ctx ?_
  rcases h with h | h
  · exact synStart_of_no_syn h
  · exact fun _ => .inl h

theorem num_replyRst (rx : TcpRxCtl) (seq ack : UInt32) : NumSame ctx (replyRst ctx rx seq ack) :=
  num_ctlPktEnqueue ctx (synStart_of_no_syn
    (show (tcpRst ||| tcpAck) &&& tcpSyn = 0 by decide))

theorem num_appSubmit (appId ctxId : UInt8) (res : AppRes) :
    NumSame ctx (appSubmit ctx appId ctxId res) := by
  refine NumSame.of_eq (socks_appSubmit ctx appId ctxId res) ?_
  unfold appSubmit
  split
  · rfl
  · rfl

theorem num_setListener (k : Nat) (l : Listener) : NumSame ctx (ctx.setListener k l) :=
  NumSame.of_eq (fun _ => rfl) rfl

theorem num_tcpTimeoutArm (sid : Nat) (kind : RetxKind) :
    NumSame ctx (tcpTimeoutArm ctx sid kind).1 :=
  NumSame.of_eq (socks_tcpTimeoutArm ctx sid kind) (tcpTimeoutArm_pktQ ctx sid kind)

theorem num_sockRetxSched (sid : Nat) : NumSame ctx (sockRetxSched ctx sid).1 := by
  refine NumSame.of_eq (socks_sockRetxSched ctx sid) ?_
  unfold sockRetxSched
  dsimp only
  split
  · rfl
  · rfl

theorem num_tcpFlowInsert {c : TcpSlowCtx} {sid : Nat} (h : tcpFlowInsert ctx sid = some c) :
    NumSame ctx c := by
  refine NumSame.of_eq (socks_tcpFlowInsert ctx h) ?_
  obtain ⟨s, -, -, rfl⟩ := tcpFlowInsert_eq_some h
  rfl

/-- A lookup rotates listeners. -/
theorem num_tcpListenerLookup (localIp : UInt32) (port : UInt16) :
    NumSame ctx (tcpListenerLookup ctx localIp port).1 := by
  refine NumSame.of_eq (socks_tcpListenerLookup ctx localIp port) ?_
  unfold tcpListenerLookup
  dsimp only
  split
  · rfl
  · split
    · rfl
    · split
      · rfl
      · rfl

theorem num_tcpListenerRemove (port : UInt16) (sockId : UInt32) :
    NumSame ctx (tcpListenerRemove ctx port sockId) := by
  refine NumSame.of_eq (socks_tcpListenerRemove ctx port sockId) ?_
  unfold tcpListenerRemove
  split
  · rfl
  · rfl

theorem num_tcpListenerInsert {c : TcpSlowCtx} {port : UInt16} {sockId : UInt32} {reuseport : Bool}
    (h : tcpListenerInsert ctx port sockId reuseport = some c) : NumSame ctx c := by
  refine NumSame.of_eq (socks_tcpListenerInsert ctx h) ?_
  unfold tcpListenerInsert at h
  rw [Option.map_eq_some_iff] at h
  obtain ⟨p, -, rfl⟩ := h
  rfl

theorem num_readyPopLoop (listenerId : UInt32) (fuel : Nat) (ctx : TcpSlowCtx) :
    NumSame ctx (readyPopLoop listenerId fuel ctx).1 := by
  refine NumSame.of_eq (socks_readyPopLoop listenerId fuel ctx) ?_
  induction fuel generalizing ctx with
  | zero => rfl
  | succ fuel ih =>
    rw [readyPopLoop_succ]
    dsimp only
    split
    · rfl
    · split
      · exact ih _
      · split
        · exact ih _
        · split
          · exact ih _
          · rfl

theorem num_bindPort (sid : Nat) : NumSame ctx (bindPort ctx sid).1 := by
  unfold bindPort sockAutobindPort
  dsimp only
  split
  · split
    · exact NumSame.refl ctx
    · split
      · exact NumSame.refl ctx
      · next c hc =>
        unfold tcpBoundInsert at hc
        rw [Option.map_eq_some_iff] at hc
        obtain ⟨p, -, rfl⟩ := hc
        exact numSame_stored rfl rfl ⟨⟨rfl, rfl, rfl⟩, rfl⟩
  · exact NumSame.refl ctx

theorem num_bindIp (sid : Nat) : NumSame ctx (bindIp ctx sid) := by
  unfold bindIp sockAutobindIp
  split
  · exact numSame_setSock ⟨⟨rfl, rfl, rfl⟩, rfl⟩
  · exact NumSame.refl ctx

/-- Time stamps are no sequence numbers. -/
theorem num_slowSockTsRx (sid : Nat) (rx : TcpRxCtl) : NumSame ctx (slowSockTsRx ctx sid rx) := by
  unfold slowSockTsRx
  split
  · exact NumSame.refl ctx
  · next tsVal _ _ =>
    have h₁ : NumSame ctx (ctx.setSock sid { ctx.sock sid with tsRecent := tsVal }) :=
      numSame_setSock ⟨⟨rfl, rfl, rfl⟩, rfl⟩
    dsimp only
    split
    · exact h₁
    · split
      · exact h₁.trans (NumSame.of_eq (fun _ => rfl) rfl)
      · exact h₁.trans (numSame_stored rfl rfl ⟨⟨rfl, rfl, rfl⟩, rfl⟩)

/-- The tables send nothing. -/
theorem tcpFlowRemove_pktQ (sid : Nat) :
    (tcpFlowRemove ctx sid).slowFastPktQ = ctx.slowFastPktQ := by
  unfold tcpFlowRemove
  dsimp only
  split
  · rfl
  · rfl

theorem tcpBoundRemove_pktQ (port : UInt16) (sockId : UInt32) :
    (tcpBoundRemove ctx port sockId).slowFastPktQ = ctx.slowFastPktQ := by
  unfold tcpBoundRemove
  split
  · rfl
  · rfl

theorem tcpListenerDetachChild_pktQ (sid : Nat) :
    (tcpListenerDetachChild ctx sid).slowFastPktQ = ctx.slowFastPktQ := by
  unfold tcpListenerDetachChild
  dsimp only
  split
  · rfl
  · rfl

/-- Closing a socket sends nothing. -/
theorem num_tcpSockCloseFinal (sid : Nat) : NumAt ctx (tcpSockCloseFinal ctx sid) sid := by
  refine NumAt.of_sockAt (sockAt_tcpSockCloseFinal ctx sid) (ctlSends_of_eq ?_)
  rw [tcpSockCloseFinal_eq]
  show (tcpBoundRemove _ _ _).slowFastPktQ = _
  rw [tcpBoundRemove_pktQ, tcpFlowRemove_pktQ, tcpListenerDetachChild_pktQ]
  rfl

/-- Nor does a connect that fails. -/
theorem num_tcpSockConnectFail (sid err : Nat) : NumAt ctx (tcpSockConnectFail ctx sid err) sid := by
  refine NumAt.of_sockAt (sockAt_tcpSockConnectFail ctx sid err) ?_
  have hdrop : (sockAutobindDrop (tcpFlowRemove (tcpTimeoutCancel ctx sid) sid) sid).slowFastPktQ =
      ctx.slowFastPktQ := by
    unfold sockAutobindDrop
    dsimp only
    split
    · rw [tcpFlowRemove_pktQ]
      rfl
    · show (tcpBoundRemove _ _ _).slowFastPktQ = _
      rw [tcpBoundRemove_pktQ, tcpFlowRemove_pktQ]
      rfl
  exact (ctlSends_of_eq (b := TcpSlowCtx.setSock _ sid _) hdrop).trans (num_appSubmit _ _ _ _).sends

theorem tcpSockAlloc_pktQ (opaquePtr : UInt64) (appId ctxId : UInt8) (appBumpQid : UInt16) :
    (tcpSockAlloc ctx opaquePtr appId ctxId appBumpQid).1.slowFastPktQ = ctx.slowFastPktQ := by
  unfold tcpSockAlloc chamNewQueue
  dsimp only
  split
  · rfl
  · split
    · rfl
    · split
      · rfl
      · rfl

end calm

/-! ## Handlers -/

/-- What the numbers of a socket are while it shakes hands. -/
structure ShakeOk (s : TcpSock) : Prop where
  synSent : s.state = .synSent → s.txSeq = 1 ∧ s.txPending = 1
  synRecv : s.state = .synRecv → s.txSeq = 1 ∧ s.txPending = 1 ∧ s.rxSeq = 2
  acceptPending : s.state = .acceptPending → s.txSeq = 2 ∧ s.txPending = 0 ∧ s.rxSeq = 2

section handlers

variable {ctx : TcpSlowCtx} {sid : Nat} {syn synack : UInt32 → Prop}

/-- A close after segments without a SYN. -/
theorem NumAt.closed {c : TcpSlowCtx} (h : NumAt ctx c sid) :
    Shakes syn synack ctx (tcpSockCloseFinal c sid) :=
  (h.trans (num_tcpSockCloseFinal c sid)).leaves (.inl (tcpSockCloseFinal_state c sid))

/-- A connect that fails leaves the states that shake hands. -/
theorem NumAt.failed {c : TcpSlowCtx} (h : NumAt ctx c sid) (err : Nat) :
    Shakes syn synack ctx (tcpSockConnectFail c sid err) :=
  (h.trans (num_tcpSockConnectFail c sid err)).leaves (.inr (.inl (tcpSockConnectFail_state c sid err)))

/-- A connect starts at 1, or fails. -/
theorem shakes_sockConnectStart (remoteIp : UInt32) (remotePort : UInt16) :
    Shakes syn synack ctx (sockConnectStart ctx sid remoteIp remotePort) := by
  unfold sockConnectStart
  dsimp only
  have hset := numAt_setSock ctx sid (connectSock ctx (ctx.sock sid) remoteIp remotePort)
  have hst : (ctx.setSock sid (connectSock ctx (ctx.sock sid) remoteIp remotePort)).sock sid =
      connectSock ctx (ctx.sock sid) remoteIp remotePort := TcpSlowCtx.sock_setSock _ _ _
  generalize ctx.setSock sid _ = c at hset hst ⊢
  have hstate : (c.sock sid).state = .synSent := by rw [hst]; rfl
  have hseq : (c.sock sid).txSeq = 1 := by rw [hst]; rfl
  have hpend : (c.sock sid).txPending = 1 := by rw [hst]; rfl
  cases hd : tcpFlowInsert c sid with
  | none => exact hset.failed _
  | some d =>
    dsimp only
    have hflow := num_tcpFlowInsert c hd
    have hsyn := num_tcpCtlTx d sid (synFlags (d.sock sid))
      (.inr ((hflow.socks sid).txSeq.trans hseq))
    have hs := hflow.trans hsyn
    generalize tcpCtlTx d sid _ = r at hs ⊢
    obtain ⟨d₁, ok⟩ := r
    dsimp only at hs ⊢
    split
    · exact (hset.trans (hs.at sid)).failed _
    · have hs₂ := hs.trans (num_tcpTimeoutArm d₁ sid .syn)
      generalize tcpTimeoutArm d₁ sid .syn = r at hs₂ ⊢
      obtain ⟨d₂, ok₂⟩ := r
      dsimp only at hs₂ ⊢
      have hkept := hs₂.socks sid
      split
      · exact (hset.trans (hs₂.at sid)).failed _
      · exact (hset.trans (hs₂.at sid)).shakes (.connect (hkept.state.trans hstate)
          (hkept.txSeq.trans hseq) (hkept.txPending.trans hpend))

theorem shakes_appConnect (appId ctxId : UInt8) (sid : Nat) (remoteIp : UInt32)
    (remotePort : UInt16) (opaquePtr : UInt64) :
    Shakes syn synack ctx (appConnect ctx appId ctxId sid remoteIp remotePort opaquePtr) := by
  unfold appConnect
  split
  · exact (num_appSubmit _ _ _ _).shakes
  · split
    · exact (num_appSubmit _ _ _ _).shakes
    · have hp := num_bindPort ctx sid
      generalize bindPort ctx sid = r at hp ⊢
      obtain ⟨c, ok⟩ := r
      cases ok with
      | false => exact (hp.trans (num_appSubmit _ _ _ _)).shakes
      | true => exact (hp.trans (num_bindIp c sid)).before (shakes_sockConnectStart _ _)

/-- A FIN is no SYN. -/
theorem shakes_sockShutdownStart : Shakes syn synack ctx (sockShutdownStart ctx sid) := by
  unfold sockShutdownStart
  dsimp only
  have hset := numAt_setSock ctx sid { ctx.sock sid with
    flags := (ctx.sock sid).flags ||| sockFlagShut, state := .finWait1 }
  have hst : ((ctx.setSock sid { ctx.sock sid with
      flags := (ctx.sock sid).flags ||| sockFlagShut, state := .finWait1 }).sock sid).state =
      .finWait1 := by rw [TcpSlowCtx.sock_setSock]
  generalize ctx.setSock sid _ = c at hset hst ⊢
  have hs := num_tcpCtlTx c sid (tcpFin ||| tcpAck) (.inl (by decide))
  generalize tcpCtlTx c sid _ = r at hs ⊢
  obtain ⟨d, ok⟩ := r
  dsimp only at hs ⊢
  split
  · exact (hset.trans (hs.at sid)).closed
  · have hs₂ := hs.trans (num_tcpTimeoutArm d sid .fin)
    generalize tcpTimeoutArm d sid .fin = r at hs₂ ⊢
    obtain ⟨d₂, ok₂⟩ := r
    dsimp only at hs₂ ⊢
    split
    · exact (hset.trans (hs₂.at sid)).closed
    · exact (hset.trans (hs₂.at sid)).leaves
        (.inr (.inr (.inl ((hs₂.socks sid).state.trans hst))))

/-- A reset is no SYN. -/
theorem shakes_sockAbortOpen : Shakes syn synack ctx (sockAbortOpen ctx sid) := by
  unfold sockAbortOpen
  dsimp only
  split
  · refine ((num_tcpCtlTx ctx sid _ (.inl ?_)).at sid).closed
    split
    · decide
    · decide
  · exact ((NumSame.refl ctx).at sid).closed

/-- Closing a listener closes the children it marks. -/
theorem shakes_abortChildren (listenerId : UInt32) (l : List Nat) :
    ∀ {c : TcpSlowCtx}, Shakes syn synack ctx c →
      (∀ i, (c.sock i).state = .closed ∨ NumKept (ctx.sock i) (c.sock i)) →
      Shakes syn synack ctx (l.foldl (abortChild listenerId) c) ∧
      ∀ i, ((l.foldl (abortChild listenerId) c).sock i).state = .closed ∨
        NumKept (ctx.sock i) ((l.foldl (abortChild listenerId) c).sock i) := by
  induction l with
  | nil => exact fun h hk => ⟨h, hk⟩
  | cons x l ih =>
    intro c h hk
    rw [List.foldl_cons]
    have hone : NumAt c (abortChild listenerId c x) x ∧
        (abortChild listenerId c x = c ∨ ((abortChild listenerId c x).sock x).state = .closed) := by
      unfold abortChild
      split
      · exact ⟨(NumSame.refl c).at x, .inl rfl⟩
      · split
        · exact ⟨(NumSame.refl c).at x, .inl rfl⟩
        · dsimp only
          split
          · have htx := num_tcpCtlTx c x (tcpRst ||| tcpAck) (.inl (by decide))
            exact ⟨(htx.at x).trans (num_tcpSockCloseFinal _ x),
              .inr (tcpSockCloseFinal_state _ x)⟩
          · exact ⟨num_tcpSockCloseFinal c x, .inr (tcpSockCloseFinal_state c x)⟩
    generalize abortChild listenerId c x = d at hone ⊢
    obtain ⟨hat, hx⟩ := hone
    have hkd : ∀ i, (d.sock i).state = .closed ∨ NumKept (ctx.sock i) (d.sock i) := by
      intro i
      by_cases hi : i = x
      · rw [hi]
        rcases hx with hx | hx
        · rw [hx]
          exact hk x
        · exact .inl hx
      · rcases hk i with hki | hki
        · exact .inl ((hat.others i hi).state.trans hki)
        · exact .inr (hki.trans (hat.others i hi))
    refine ih ⟨fun i => ?_, h.sends.trans hat.sends⟩ hkd
    rcases hkd i with hki | hki
    · exact .out (by rw [hki]; rfl) (by rw [hki]; nofun)
    · exact .kept hki

/-- Resets for the children, and the listener closed. -/
theorem shakes_sockCloseListen : Shakes syn synack ctx (sockCloseListen ctx sid) := by
  unfold sockCloseListen tcpListenerAbortChildren
  dsimp only
  have hs := num_tcpListenerRemove ctx (ctx.sock sid).localPort (ctx.sock sid).id
  generalize tcpListenerRemove ctx _ _ = c at hs ⊢
  obtain ⟨hall, hk⟩ := @shakes_abortChildren ctx syn synack (c.sock sid).id
    (List.range c.nSocks) c hs.shakes (fun i => .inr (hs.socks i))
  generalize (List.range c.nSocks).foldl _ c = d at hall hk ⊢
  have hclose := num_tcpSockCloseFinal (tcpListenerReset d (d.sock sid).id) sid
  refine ⟨fun i => ?_, hall.sends.trans hclose.sends⟩
  by_cases hi : i = sid
  · rw [hi]
    refine .out ?_ ?_
    · rw [tcpSockCloseFinal_state]
      rfl
    · rw [tcpSockCloseFinal_state]
      nofun
  · have hd := hclose.others i hi
    rcases hk i with hki | hki
    · have hci : ((tcpSockCloseFinal (tcpListenerReset d (d.sock sid).id) sid).sock i).state =
          .closed := hd.state.trans hki
      exact .out (by rw [hci]; rfl) (by rw [hci]; nofun)
    · exact .kept (hki.trans hd)

/-- Each branch of `app_close`. -/
theorem shakes_appClose : Shakes syn synack ctx (appClose ctx sid) := by
  unfold appClose
  split
  · exact (NumSame.refl ctx).shakes
  · split
    · exact shakes_sockCloseListen
    · exact shakes_sockAbortOpen
    · exact shakes_sockAbortOpen
    · exact shakes_sockAbortOpen
    · exact shakes_sockShutdownStart
    · exact ((NumSame.refl ctx).at sid).closed

theorem shakes_appBind (appId ctxId : UInt8) (sid : Nat) (localIp : UInt32) (localPort : UInt16)
    (opaquePtr : UInt64) :
    Shakes syn synack ctx (appBind ctx appId ctxId sid localIp localPort opaquePtr) := by
  unfold appBind
  split
  · exact (NumSame.refl ctx).shakes
  · split
    · have hp := num_bindPort ctx sid
      generalize bindPort ctx sid = r at hp ⊢
      obtain ⟨c, ok⟩ := r
      have hip := hp.trans (num_bindIp c sid)
      cases ok with
      | false => exact (hip.trans (num_appSubmit _ _ _ _)).shakes
      | true =>
        have hset : NumSame (bindIp c sid) ((bindIp c sid).setSock sid
            { (bindIp c sid).sock sid with localIp, localPort }) :=
          numSame_setSock ⟨⟨rfl, rfl, rfl⟩, rfl⟩
        exact (hip.trans (hset.trans (num_appSubmit _ _ _ _))).shakes
    · exact (num_appSubmit _ _ _ _).shakes

theorem shakes_appListen (appId ctxId : UInt8) (sid : Nat) (backlog : UInt32) (opaquePtr : UInt64)
    (callocOk : Bool) :
    Shakes syn synack ctx (appListen ctx appId ctxId sid backlog opaquePtr callocOk) := by
  unfold appListen
  split
  · exact (num_appSubmit _ _ _ _).shakes
  · dsimp only
    split
    · exact (num_appSubmit _ _ _ _).shakes
    · cases hins : tcpListenerInsert ctx (ctx.sock sid).localPort (ctx.sock sid).id
          (ctx.sock sid).reuport with
      | none => exact (num_appSubmit _ _ _ _).shakes
      | some c =>
        have hs := num_tcpListenerInsert ctx hins
        dsimp only
        split
        · exact (hs.trans ((num_tcpListenerRemove _ _ _).trans (num_appSubmit _ _ _ _))).shakes
        · have hl : NumSame c (c.setListener (ctx.sock sid).id.toNat
              (listenerOpen (c.listeners (ctx.sock sid).id.toNat) backlog)) :=
            NumSame.of_eq (fun _ => rfl) rfl
          refine (((hs.trans hl).at sid).trans ((numAt_setSock _ _ _).trans
            ((num_appSubmit _ _ _ _).at sid))).leaves (.inr (.inr (.inr ?_)))
          rw [((num_appSubmit _ _ _ _).socks sid).state, TcpSlowCtx.sock_setSock]

/-- The child is established, with the numbers it had. -/
theorem shakes_appAccept (appId ctxId : UInt8) (sid : Nat) (opaquePtr : UInt64) :
    Shakes syn synack ctx (appAccept ctx appId ctxId sid opaquePtr) := by
  unfold appAccept
  split
  · exact (num_appSubmit _ _ _ _).shakes
  · dsimp only
    split
    · exact (num_appSubmit _ _ _ _).shakes
    · have hpop := num_readyPopLoop (ctx.sock sid).id
        (ctx.listeners (ctx.sock sid).id.toNat).readyUsed.toNat ctx
      have hst := (core_readyPopLoop (ctx.sock sid).id
        (ctx.listeners (ctx.sock sid).id.toNat).readyUsed.toNat ctx).2
      unfold tcpListenerReadyPop
      generalize readyPopLoop (ctx.sock sid).id _ ctx = r at hpop hst ⊢
      obtain ⟨c, child⟩ := r
      cases child with
      | none => exact (hpop.trans (num_appSubmit _ _ _ _)).shakes
      | some x =>
        dsimp only at hpop hst ⊢
        have hown : NumAt c ((sockAcceptOwn c x appId ctxId opaquePtr).setListener
            (ctx.sock sid).id.toNat (listenerBacklogPut
              ((sockAcceptOwn c x appId ctxId opaquePtr).listeners (ctx.sock sid).id.toNat))) x :=
          NumAt.of_sockAt (fun i hi => TcpSlowCtx.sock_setSock_ne _ _ hi) (ctlSends_of_eq rfl)
        have hsock : ∃ y : TcpSlowCtx, ((sockAcceptOwn c x appId ctxId opaquePtr).setListener
            (ctx.sock sid).id.toNat (listenerBacklogPut
              ((sockAcceptOwn c x appId ctxId opaquePtr).listeners
                (ctx.sock sid).id.toNat))).sock x = acceptedSock y (c.sock x) appId ctxId opaquePtr :=
          ⟨_, TcpSlowCtx.sock_setSock _ _ _⟩
        generalize (sockAcceptOwn c x appId ctxId opaquePtr).setListener _ _ = d at hown hsock ⊢
        obtain ⟨y, hsock⟩ := hsock
        have hkept := (num_appSubmit d appId ctxId
          (.acceptRes 0 (d.sock x).opaquePtr (ctx.sock sid).opaquePtr (some (d.sock x)))).socks x
        refine hpop.before ((hown.trans ((num_appSubmit d appId ctxId _).at x)).shakes ?_)
        refine .accepted (hst x rfl) ?_ ⟨?_, ?_, ?_⟩
        · rw [hkept.state, hsock]
          rfl
        · rw [hkept.txSeq, hsock]
          rfl
        · rw [hkept.txPending, hsock]
          rfl
        · rw [hkept.rxSeq, hsock]
          rfl

theorem shakes_appSetopt (appId ctxId : UInt8) (sid : Nat) (opt : UInt8) (opaquePtr : UInt64) :
    Shakes syn synack ctx (appSetopt ctx appId ctxId sid opt opaquePtr) := by
  unfold appSetopt
  split
  · exact (NumSame.refl ctx).shakes
  · split
    · have hset : NumSame ctx (ctx.setSock sid { ctx.sock sid with reuport := true }) :=
        numSame_setSock ⟨⟨rfl, rfl, rfl⟩, rfl⟩
      exact (hset.trans (num_appSubmit _ _ _ _)).shakes
    · exact (num_appSubmit _ _ _ _).shakes

/-- Without a new socket the entry behind the last one starts afresh or stays. -/
theorem shakes_unallocated {c : TcpSlowCtx} (hu : Unallocated ctx c)
    (hq : c.slowFastPktQ = ctx.slowFastPktQ) : Shakes syn synack ctx c := by
  have hat : NumAt ctx c ctx.nSocks := NumAt.of_sockAt hu.sock (ctlSends_of_eq hq)
  rcases hu.entry with he | he
  · exact hat.leaves (.inr (.inl he))
  · refine hat.shakes (.kept ?_)
    rw [he]
    exact NumKept.refl _

/-- The entry behind the last socket starts afresh. -/
theorem shakes_appNewSock (appId ctxId : UInt8) (opaquePtr : UInt64) :
    Shakes syn synack ctx (appNewSock ctx appId ctxId opaquePtr) := by
  unfold appNewSock
  have hall := tcpSockAlloc_cases ctx opaquePtr appId ctxId (ctx.appBumpQids appId ctxId 0)
  have hq := tcpSockAlloc_pktQ ctx opaquePtr appId ctxId (ctx.appBumpQids appId ctxId 0)
  generalize tcpSockAlloc ctx opaquePtr appId ctxId _ = r at hall hq ⊢
  obtain ⟨c, i⟩ := r
  rcases hall with ⟨hi, hu⟩ | ⟨hi, ha⟩
  · dsimp only at hi
    rw [hi]
    exact shakes_unallocated hu hq
  · dsimp only at hi ha hq
    rw [hi]
    have hat : NumAt ctx c ctx.nSocks := NumAt.of_sockAt ha.sock (ctlSends_of_eq hq)
    have hres := num_appSubmit c appId ctxId (.newSockRes (c.sock ctx.nSocks))
    refine (hat.trans (hres.at ctx.nSocks)).leaves (.inr (.inl ?_))
    exact (hres.socks ctx.nSocks).state.trans (congrArg SockKey.state ha.key)

/-! ## Timers -/

/-- **A timer sends the number that was sent first**, when its kind fits the
state of the socket. -/
theorem num_sockRetxTx (hok : ShakeOk (ctx.sock sid))
    (hkind : (ctx.tcpSockMeta sid).retxKind = timerKind (ctx.sock sid).state) :
    NumSame ctx (sockRetxTx ctx sid).1 := by
  unfold sockRetxTx
  dsimp only
  cases hflags : sockRetxFlags (ctx.sock sid) (ctx.tcpSockMeta sid).retxKind with
  | none => exact NumSame.refl ctx
  | some flags =>
    refine num_ctlPktEnqueue ctx ?_
    rw [hkind] at hflags
    intro hsyn
    left
    show (ctx.sock sid).txSeq + (ctx.sock sid).txPending - 1 = 1
    -- the kinds that send a SYN are those of the two states in front of it
    cases hst : (ctx.sock sid).state with
    | synSent =>
      obtain ⟨hseq, hpend⟩ := hok.synSent hst
      rw [hseq, hpend]
      rfl
    | synRecv =>
      obtain ⟨hseq, hpend, -⟩ := hok.synRecv hst
      rw [hseq, hpend]
      rfl
    | finWait1 =>
      rw [hst] at hflags
      obtain rfl := Option.some.inj hflags
      exact absurd (show (tcpFin ||| tcpAck) &&& tcpSyn = 0 by decide) hsyn
    | _ =>
      rw [hst] at hflags
      cases hflags

theorem shakes_sockRetxExpire {c : TcpSlowCtx} (h : NumSame ctx c) :
    Shakes syn synack ctx (sockRetxExpire c sid) := by
  have hrst : ∀ (localIp remoteIp : UInt32) (localPort remotePort : UInt16) (seq ack : UInt32),
      NumSame c (tcpCtlTxReply c localIp localPort remoteIp remotePort seq ack
        (tcpRst ||| tcpAck)).1 := fun _ _ _ _ _ _ =>
    num_ctlPktEnqueue c (synStart_of_no_syn (show (tcpRst ||| tcpAck) &&& tcpSyn = 0 by decide))
  unfold sockRetxExpire
  dsimp only
  split
  · exact (h.at sid).failed _
  · exact ((h.trans (hrst _ _ _ _ _ _)).at sid).closed
  · exact ((h.trans (hrst _ _ _ _ _ _)).at sid).closed
  · exact h.shakes

/-- A timer sends its SYN again with the number it had, a SYN-ACK with 0. -/
theorem shakes_tcpTimeoutFire (hok : ShakeOk (ctx.sock sid))
    (hkind : (ctx.tcpSockMeta sid).retxKind = timerKind (ctx.sock sid).state) (entry : Nat) :
    Shakes syn synack ctx (tcpTimeoutFire ctx entry sid) := by
  have hpop : NumSame ctx (timerPopped ctx entry sid) := NumSame.of_eq (fun _ => rfl) rfl
  have hpopKind : ((timerPopped ctx entry sid).tcpSockMeta sid).retxKind =
      timerKind ((timerPopped ctx entry sid).sock sid).state := by
    show (if (ctx.sock sid).id.toNat = (ctx.sock sid).id.toNat then
      { ctx.tcpSockMeta sid with timer := none } else _ : SockMeta).retxKind = _
    rw [if_pos rfl]
    exact hkind
  have hpopOk : ShakeOk ((timerPopped ctx entry sid).sock sid) := hok
  show Shakes syn synack ctx (if ((timerPopped ctx entry sid).tcpSockMeta sid).retxKind = .none
    then timerPopped ctx entry sid else sockOnTimeout (timerPopped ctx entry sid) sid)
  generalize timerPopped ctx entry sid = c at hpop hpopKind hpopOk ⊢
  split
  · exact hpop.shakes
  · unfold sockOnTimeout
    split
    · exact shakes_sockRetxExpire hpop
    · have htx := hpop.trans (num_sockRetxTx hpopOk hpopKind)
      generalize sockRetxTx c sid = r at htx ⊢
      obtain ⟨d, ok⟩ := r
      dsimp only at htx ⊢
      split
      · exact shakes_sockRetxExpire htx
      · have hd : NumSame ctx (d.setMeta sid
            { d.tcpSockMeta sid with retxLeft := (d.tcpSockMeta sid).retxLeft - 1 }) :=
          htx.trans (NumSame.of_eq (fun _ => rfl) rfl)
        generalize d.setMeta sid _ = d' at hd ⊢
        have hsched := hd.trans (num_sockRetxSched d' sid)
        generalize sockRetxSched d' sid = r at hsched ⊢
        obtain ⟨d'', ok'⟩ := r
        dsimp only at hsched ⊢
        split
        · exact shakes_sockRetxExpire hsched
        · exact hsched.shakes

/-! ## Segments -/

/-- A SYN-ACK fixes what the client expects. -/
theorem shakes_tcpRxSynSent (hst : (ctx.sock sid).state = .synSent) (rx : TcpRxCtl)
    (hsyn : rx.flags &&& (tcpSyn ||| tcpAck) = tcpSyn ||| tcpAck → synack rx.seq) :
    Shakes syn synack ctx (tcpRxSynSent ctx sid rx) := by
  unfold tcpRxSynSent
  split
  · exact ((NumSame.refl ctx).at sid).failed _
  · split
    · exact (NumSame.refl ctx).shakes
    · next hflags =>
      split
      · exact (NumSame.refl ctx).shakes
      · dsimp only
        have hset : NumAt ctx (sockActiveEstablished ctx sid rx) sid :=
          NumAt.of_sockAt (fun i hi => TcpSlowCtx.sock_setSock_ne _ _ hi) (ctlSends_of_eq rfl)
        have hsock : (sockActiveEstablished ctx sid rx).sock sid =
            activeEstablished (tcpTimeoutCancel ctx sid) (ctx.sock sid) rx :=
          TcpSlowCtx.sock_setSock _ _ _
        generalize sockActiveEstablished ctx sid rx = c at hset hsock ⊢
        have hack : NumSame c (tcpAppConnectRes (tcpCtlTx c sid tcpAck).1 sid 0) :=
          (num_tcpCtlTx c sid tcpAck (.inl (by decide))).trans (num_appSubmit _ _ _ _)
        refine (hset.trans (hack.at sid)).shakes ?_
        have hkept := hack.socks sid
        rw [hsock] at hkept
        exact .active (hsyn (Classical.not_not.mp hflags)) hst hkept.state hkept.txSeq
          hkept.txPending hkept.rxSeq

/-- The child waits, with the numbers of its SYN. -/
theorem shakes_sockPassiveEstablished (hst : (ctx.sock sid).state = .synRecv) (rx : TcpRxCtl) :
    Shakes syn synack ctx (sockPassiveEstablished ctx sid rx).1 := by
  unfold sockPassiveEstablished tcpListenerReadyPush
  dsimp only
  have hset : NumAt ctx ((tcpTimeoutCancel ctx sid).setSock sid
      { (tcpTimeoutCancel ctx sid).sock sid with
        txRemoteAvail := rx.wnd.toUInt32
        txPending := ((tcpTimeoutCancel ctx sid).sock sid).txPending - 1
        txSeq := ((tcpTimeoutCancel ctx sid).sock sid).txSeq + 1
        state := .acceptPending }) sid :=
    NumAt.of_sockAt (fun i hi => TcpSlowCtx.sock_setSock_ne _ _ hi) (ctlSends_of_eq rfl)
  have hsock : ((tcpTimeoutCancel ctx sid).setSock sid
      { (tcpTimeoutCancel ctx sid).sock sid with
        txRemoteAvail := rx.wnd.toUInt32
        txPending := ((tcpTimeoutCancel ctx sid).sock sid).txPending - 1
        txSeq := ((tcpTimeoutCancel ctx sid).sock sid).txSeq + 1
        state := .acceptPending }).sock sid =
      { ctx.sock sid with
        txRemoteAvail := rx.wnd.toUInt32
        txPending := (ctx.sock sid).txPending - 1
        txSeq := (ctx.sock sid).txSeq + 1
        state := .acceptPending } := TcpSlowCtx.sock_setSock _ _ _
  generalize (tcpTimeoutCancel ctx sid).setSock sid _ = c at hset hsock ⊢
  split
  · exact hset.closed
  · show Shakes syn synack ctx (c.setListener _ _)
    refine NumAt.shakes (hset.trans ((num_setListener c _ _).at sid)) ?_
    show Shake syn synack (ctx.sock sid) (c.sock sid)
    rw [hsock]
    exact .passive hst rfl rfl rfl rfl

/-- An ACK completes, a SYN is answered again. -/
theorem shakes_tcpRxSynRecv (hok : ShakeOk (ctx.sock sid)) (hst : (ctx.sock sid).state = .synRecv)
    (rx : TcpRxCtl) : Shakes syn synack ctx (tcpRxSynRecv ctx sid rx) := by
  unfold tcpRxSynRecv
  split
  · exact ((NumSame.refl ctx).at sid).closed
  · split
    · -- the SYN-ACK is sent again, with one number less
      refine (num_ctlPktEnqueue ctx ?_).shakes
      intro _
      refine .inr ⟨synackFlags_ack _, ?_⟩
      show (if synackFlags (ctx.sock sid) &&& (tcpSyn ||| tcpFin) ≠ 0 then
        (ctx.sock sid).txSeq - 1 else (ctx.sock sid).txSeq) = 0
      have hsyn : synackFlags (ctx.sock sid) &&& (tcpSyn ||| tcpFin) ≠ 0 := by
        unfold synackFlags
        split
        · decide
        · decide
      rw [if_pos hsyn, (hok.synRecv hst).1]
      rfl
    · split
      · exact (NumSame.refl ctx).shakes
      · have hest : Shakes syn synack ctx (sockPassiveEstablished ctx sid rx).1 :=
          shakes_sockPassiveEstablished hst rx
        generalize sockPassiveEstablished ctx sid rx = r at hest ⊢
        obtain ⟨c, ok⟩ := r
        dsimp only at hest ⊢
        split
        · exact hest
        · exact hest.after (num_appSubmit _ _ _ _)

theorem shakes_tcpRxEstablished (rx : TcpRxCtl) :
    Shakes syn synack ctx (tcpRxEstablished ctx sid rx) := by
  unfold tcpRxEstablished
  split
  · exact ((NumSame.refl ctx).at sid).closed
  · split
    · exact ((numAt_setSock ctx sid _).trans
        ((num_tcpCtlTx _ sid tcpAck (.inl (by decide))).at sid)).closed
    · exact (NumSame.refl ctx).shakes

/-- The last ACK closes. -/
theorem shakes_tcpRxFinWait1 (hst : (ctx.sock sid).state = .finWait1) (rx : TcpRxCtl) :
    Shakes syn synack ctx (tcpRxFinWait1 ctx sid rx) := by
  unfold tcpRxFinWait1
  dsimp only
  have hfin : NumAt ctx (if rx.flags &&& tcpFin ≠ 0 then
      (tcpCtlTx (ctx.setSock sid { ctx.sock sid with rxSeq := rx.seq + 1 }) sid tcpAck).1
      else ctx) sid ∧ ((if rx.flags &&& tcpFin ≠ 0 then
      (tcpCtlTx (ctx.setSock sid { ctx.sock sid with rxSeq := rx.seq + 1 }) sid tcpAck).1
      else ctx).sock sid).state = .finWait1 := by
    split
    · have hack := num_tcpCtlTx (ctx.setSock sid { ctx.sock sid with rxSeq := rx.seq + 1 }) sid
        tcpAck (.inl (by decide))
      refine ⟨(numAt_setSock ctx sid _).trans (hack.at sid), ?_⟩
      rw [(hack.socks sid).state, TcpSlowCtx.sock_setSock]
      exact hst
    · exact ⟨(NumSame.refl ctx).at sid, hst⟩
  generalize (if rx.flags &&& tcpFin ≠ 0 then _ else ctx) = c at hfin ⊢
  have hcancel : NumSame c (tcpTimeoutCancel c sid) := NumSame.of_eq (fun _ => rfl) rfl
  split
  · exact (hfin.1.trans (hcancel.at sid)).closed
  · split
    · exact (hfin.1.trans (hcancel.at sid)).closed
    · exact hfin.1.leaves (.inr (.inr (.inl hfin.2)))

/-- A segment for a connection, by its state. -/
theorem shakes_sockCtlRx (hok : ShakeOk (ctx.sock sid)) (rx : TcpRxCtl)
    (hsyn : rx.flags &&& (tcpSyn ||| tcpAck) = tcpSyn ||| tcpAck → synack rx.seq) :
    Shakes syn synack ctx (sockCtlRx ctx sid rx) := by
  unfold sockCtlRx
  split
  · next hst => exact shakes_tcpRxSynSent hst rx hsyn
  · next hst => exact shakes_tcpRxSynRecv hok hst rx
  · exact shakes_tcpRxEstablished rx
  · exact shakes_tcpRxEstablished rx
  · next hst => exact shakes_tcpRxFinWait1 hst rx
  · exact (NumSame.refl ctx).shakes

/-- **A child sends its SYN-ACK with number 1**, or there is no child. -/
theorem shakes_listenChild (listenSid : Nat) (rx : TcpRxCtl) (hsyn : syn rx.seq) :
    Shakes syn synack ctx (listenChild ctx listenSid sid rx) := by
  unfold listenChild
  dsimp only
  have hset : NumAt ctx ((ctx.setSock sid (childSock ctx (ctx.sock sid) rx)).setMeta sid
      { (ctx.setSock sid (childSock ctx (ctx.sock sid) rx)).tcpSockMeta sid with
        listenerId := (ctx.sock listenSid).id }) sid :=
    NumAt.of_sockAt (fun i hi => TcpSlowCtx.sock_setSock_ne _ _ hi) (ctlSends_of_eq rfl)
  have hsock : ((ctx.setSock sid (childSock ctx (ctx.sock sid) rx)).setMeta sid
      { (ctx.setSock sid (childSock ctx (ctx.sock sid) rx)).tcpSockMeta sid with
        listenerId := (ctx.sock listenSid).id }).sock sid = childSock ctx (ctx.sock sid) rx := by
    rw [TcpSlowCtx.sock_setMeta, TcpSlowCtx.sock_setSock]
  generalize TcpSlowCtx.setMeta _ sid _ = d at hset hsock ⊢
  have hstate : (d.sock sid).state = .synRecv := by rw [hsock]; rfl
  have hseq : (d.sock sid).txSeq = 1 := by rw [hsock]; rfl
  have hpend : (d.sock sid).txPending = 1 := by rw [hsock]; rfl
  have hrx : (d.sock sid).rxSeq = rx.seq + 1 := by rw [hsock]; rfl
  cases hins : tcpFlowInsert d sid with
  | none =>
    dsimp only
    have hreply := num_replyRst (d.setSock sid { d.sock sid with state := .closed }) rx 0 (rx.seq + 1)
    refine ((hset.trans (numAt_setSock d sid _)).trans (hreply.at sid)).leaves (.inl ?_)
    rw [(hreply.socks sid).state, TcpSlowCtx.sock_setSock]
  | some f =>
    dsimp only
    have hf : NumSame d (f.setListener (ctx.sock listenSid).id.toNat
        { f.listeners (ctx.sock listenSid).id.toNat with
          backlogUsed := (f.listeners (ctx.sock listenSid).id.toNat).backlogUsed + 1 }) :=
      (num_tcpFlowInsert d hins).trans (num_setListener f _ _)
    generalize f.setListener _ _ = f₁ at hf ⊢
    have htx := hf.trans (num_tcpCtlTx f₁ sid (synackFlags (f₁.sock sid))
      (.inr ((hf.socks sid).txSeq.trans hseq)))
    generalize tcpCtlTx f₁ sid _ = r at htx ⊢
    obtain ⟨g, ok⟩ := r
    dsimp only at htx ⊢
    split
    · exact (hset.trans (htx.at sid)).closed.after (num_replyRst _ _ _ _)
    · have harm := htx.trans (num_tcpTimeoutArm g sid .synack)
      generalize tcpTimeoutArm g sid .synack = r at harm ⊢
      obtain ⟨g', ok'⟩ := r
      dsimp only at harm ⊢
      split
      · exact (hset.trans ((harm.trans (num_replyRst _ _ _ _)).at sid)).closed
      · have hkept := harm.socks sid
        exact (hset.trans (harm.at sid)).shakes (.child hsyn (hkept.state.trans hstate)
          (hkept.txSeq.trans hseq) (hkept.txPending.trans hpend) (hkept.rxSeq.trans hrx))

/-- A SYN fixes what the server expects. -/
theorem shakes_tcpRxListenSyn (listenSid : Nat) (rx : TcpRxCtl) (hsyn : syn rx.seq) :
    Shakes syn synack ctx (tcpRxListenSyn ctx listenSid rx) := by
  unfold tcpRxListenSyn
  dsimp only
  split
  · exact (num_replyRst _ _ _ _).shakes
  · split
    · exact (NumSame.refl ctx).shakes
    · have hall := tcpSockAlloc_cases ctx 0 0 0 0
      have hq := tcpSockAlloc_pktQ ctx 0 0 0 0
      generalize tcpSockAlloc ctx 0 0 0 0 = r at hall hq ⊢
      obtain ⟨c, i⟩ := r
      rcases hall with ⟨hi, hu⟩ | ⟨hi, ha⟩
      · dsimp only at hi
        rw [hi]
        exact shakes_unallocated hu hq
      · dsimp only at hi ha hq
        rw [hi]
        have hat : NumAt ctx c ctx.nSocks := NumAt.of_sockAt ha.sock (ctlSends_of_eq hq)
        have hchild : Shakes syn synack c (listenChild c listenSid ctx.nSocks rx) :=
          shakes_listenChild listenSid rx hsyn
        refine ⟨fun j => ?_, hat.sends.trans hchild.sends⟩
        by_cases hj : j = ctx.nSocks
        · rw [hj]
          exact (hchild.socks ctx.nSocks).fresh (congrArg SockKey.state ha.key)
        · exact (hchild.socks j).before (hat.others j hj)

end handlers

/-! ## Events -/

/-- The event delivers a SYN with number `seq`. -/
def SlowAct.DeliversSyn (act : SlowAct) (seq : UInt32) : Prop :=
  ∃ p core, act = .segment p core ∧ tcphFlags p &&& tcpSyn ≠ 0 ∧ tcphFlags p &&& tcpAck = 0 ∧
    tcpSeqno p = seq

/-- The event delivers a SYN-ACK with number `seq`. -/
def SlowAct.DeliversSynack (act : SlowAct) (seq : UInt32) : Prop :=
  ∃ p core, act = .segment p core ∧ tcphFlags p &&& (tcpSyn ||| tcpAck) = tcpSyn ||| tcpAck ∧
    tcpSeqno p = seq

/-- Kept numbers stay right. -/
theorem ShakeOk.kept {s t : TcpSock} (hok : ShakeOk s) (h : NumKept s t) : ShakeOk t := by
  constructor
  · intro ht
    rw [h.txSeq, h.txPending]
    exact hok.synSent (h.state.symm.trans ht)
  · intro ht
    rw [h.txSeq, h.txPending, h.rxSeq]
    exact hok.synRecv (h.state.symm.trans ht)
  · intro ht
    rw [h.txSeq, h.txPending, h.rxSeq]
    exact hok.acceptPending (h.state.symm.trans ht)

/-- A handshake in which every SYN has number 1. -/
theorem ShakeOk.step {syn synack : UInt32 → Prop} {s t : TcpSock} (hok : ShakeOk s)
    (h : Shake syn synack s t) (hsyn : ∀ seq, syn seq → seq = 1) : ShakeOk t := by
  cases h with
  | kept hk => exact hok.kept hk
  | out ho _ =>
    constructor
    all_goals (intro ht; rw [ht] at ho; cases ho)
  | connect ht hseq hpend => exact ⟨fun _ => ⟨hseq, hpend⟩, by rw [ht]; nofun, by rw [ht]; nofun⟩
  | @child seq hs ht hseq hpend hrx =>
    rw [hsyn seq hs] at hrx
    exact ⟨by rw [ht]; nofun, fun _ => ⟨hseq, hpend, hrx⟩, by rw [ht]; nofun⟩
  | active _ _ ht => exact ⟨by rw [ht]; nofun, by rw [ht]; nofun, by rw [ht]; nofun⟩
  | passive hs ht hseq hpend hrx =>
    obtain ⟨hseq₀, hpend₀, hrx₀⟩ := hok.synRecv hs
    rw [hseq₀] at hseq
    rw [hpend₀] at hpend
    exact ⟨by rw [ht]; nofun, by rw [ht]; nofun, fun _ => ⟨hseq, hpend, hrx.trans hrx₀⟩⟩
  | accepted _ ht _ => exact ⟨by rw [ht]; nofun, by rw [ht]; nofun, by rw [ht]; nofun⟩

/-- A punted segment, for a connection or a listener. -/
theorem shakes_ctlRx {ctx : TcpSlowCtx} (hok : ∀ i, ShakeOk (ctx.sock i)) (p : Nat → UInt8)
    (core : UInt16) : Shakes (SlowAct.segment p core).DeliversSyn
      (SlowAct.segment p core).DeliversSynack ctx (ctlRx ctx p core) := by
  unfold ctlRx
  dsimp only
  have hseq : (ctlRxParse p (if core.toNat ≥ ctx.nFpCores then 0 else core)).seq = tcpSeqno p := rfl
  have hflags : (ctlRxParse p (if core.toNat ≥ ctx.nFpCores then 0 else core)).flags =
      tcphFlags p := rfl
  generalize ctlRxParse p _ = rx at hseq hflags ⊢
  cases tcpFlowLookup ctx rx.localIp rx.localPort rx.remoteIp rx.remotePort with
  | some sid =>
    dsimp only
    have hts := num_slowSockTsRx ctx sid rx
    refine hts.before (shakes_sockCtlRx ((hok sid).kept (hts.socks sid)) rx ?_)
    intro hsyn
    rw [hflags] at hsyn
    exact ⟨p, core, rfl, hsyn, hseq.symm⟩
  | none =>
    dsimp only
    split
    · exact (NumSame.refl ctx).shakes
    · next hsyn =>
      rw [not_or, Classical.not_not, hflags] at hsyn
      have hl := num_tcpListenerLookup ctx rx.localIp rx.localPort
      generalize tcpListenerLookup ctx rx.localIp rx.localPort = r at hl ⊢
      obtain ⟨c, k⟩ := r
      cases k with
      | none => exact (hl.trans (num_replyRst _ _ _ _)).shakes
      | some k =>
        exact hl.before (shakes_tcpRxListenSyn _ rx ⟨p, core, rfl, hsyn.1, hsyn.2, hseq.symm⟩)

/-- **Every event of a slow path**: the numbers of every socket, and of every
SYN that is sent. -/
theorem TimerInv.shakes {ctx : TcpSlowCtx} (h : TimerInv ctx) (hok : ∀ i, ShakeOk (ctx.sock i))
    {act : SlowAct} (hs : act.isSlow = true) :
    Shakes act.DeliversSyn act.DeliversSynack ctx (slowNext ctx act) := by
  cases act with
  | newSock appId ctxId opaquePtr => exact shakes_appNewSock _ _ _
  | setopt appId ctxId sockId opt opaquePtr => exact shakes_appSetopt _ _ _ _ _
  | bind appId ctxId sockId localIp localPort opaquePtr => exact shakes_appBind _ _ _ _ _ _
  | connect appId ctxId sockId remoteIp remotePort opaquePtr => exact shakes_appConnect _ _ _ _ _ _
  | listen appId ctxId sockId backlog opaquePtr callocOk => exact shakes_appListen _ _ _ _ _ _
  | accept appId ctxId sockId opaquePtr => exact shakes_appAccept _ _ _ _
  | shutdown sockId how =>
    show Shakes _ _ ctx (appShutdown ctx sockId.toNat how)
    unfold appShutdown
    split
    · exact (NumSame.refl ctx).shakes
    · split
      · exact (NumSame.refl ctx).shakes
      · exact shakes_sockShutdownStart
  | close sockId => exact shakes_appClose
  | segment p core => exact shakes_ctlRx hok p core
  | timeout entry =>
    unfold slowNext
    dsimp only
    split
    · exact (NumSame.refl ctx).shakes
    · next sid _ =>
      split
      · next hlt =>
        refine shakes_tcpTimeoutFire (hok sid) ?_ entry
        rw [h.linked.meta_eq hlt]
        exact (h.fit sid hlt).kind
      · exact (NumSame.refl ctx).shakes
  | fastRx env => cases hs
  | fastDeq env => cases hs
  | fastSched env => cases hs
  | drain q => cases hs

end Chamelio.Tcp
