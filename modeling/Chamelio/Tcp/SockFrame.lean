import Chamelio.Tcp.SlowReqSpec

/-!
# One socket at a time

A handler of the slow path works on one socket: the one a request names, the
one a segment or a timer belongs to, or a new child. `SockAt a b x` says that
no other socket differs at all, and each handler is given with the states in
which it leaves `x`. Only the close of a listener reaches further, to the
children the listener marks.
-/

namespace Chamelio.Tcp

open Chamelio.Lib Chamelio.Util Chamelio.Pkt Chamelio.Fast

/-- No socket differs but `x`. -/
def SockAt (a b : TcpSlowCtx) (x : Nat) : Prop := ∀ i, i ≠ x → b.sock i = a.sock i

/-- No socket differs. -/
def SocksSame (a b : TcpSlowCtx) : Prop := ∀ i, b.sock i = a.sock i

section frame

variable {a b c : TcpSlowCtx} {x : Nat}

theorem SocksSame.refl (a : TcpSlowCtx) : SocksSame a a := fun _ => rfl

/-- Steps one after the other. -/
theorem SocksSame.trans (h₁ : SocksSame a b) (h₂ : SocksSame b c) : SocksSame a c :=
  fun i => (h₂ i).trans (h₁ i)

theorem SocksSame.at (h : SocksSame a b) (x : Nat) : SockAt a b x := fun i _ => h i

/-- Two steps at one socket. -/
theorem SockAt.trans (h₁ : SockAt a b x) (h₂ : SockAt b c x) : SockAt a c x :=
  fun i hi => (h₂ i hi).trans (h₁ i hi)

theorem SockAt.same (h₁ : SockAt a b x) (h₂ : SocksSame b c) : SockAt a c x :=
  h₁.trans (h₂.at x)

/-- A store to one socket. -/
theorem sockAt_setSock (ctx : TcpSlowCtx) (sid : Nat) (s : TcpSock) :
    SockAt ctx (ctx.setSock sid s) sid := fun _ hi => TcpSlowCtx.sock_setSock_ne _ _ hi

end frame

section calm

variable (ctx : TcpSlowCtx)

/-- Sending a control packet changes no socket. -/
theorem socks_ctlPktEnqueue (c : CtlSeg) : SocksSame ctx (ctlPktEnqueue ctx c).1 := by
  intro i
  rw [ctlPktEnqueue_fields]
  rfl

theorem socks_tcpCtlTx (sid : Nat) (flags : UInt16) : SocksSame ctx (tcpCtlTx ctx sid flags).1 :=
  socks_ctlPktEnqueue _ _

theorem socks_replyRst (rx : TcpRxCtl) (seq ack : UInt32) :
    SocksSame ctx (replyRst ctx rx seq ack) := socks_ctlPktEnqueue _ _

/-- Nor does an answer to an application. -/
theorem socks_appSubmit (appId ctxId : UInt8) (res : AppRes) :
    SocksSame ctx (appSubmit ctx appId ctxId res) := by
  intro i
  unfold appSubmit
  split
  · rfl
  · rfl

/-- Sending again changes no socket. -/
theorem socks_sockRetxTx (sid : Nat) : SocksSame ctx (sockRetxTx ctx sid).1 := by
  unfold sockRetxTx
  dsimp only
  split
  · exact SocksSame.refl ctx
  · exact socks_ctlPktEnqueue _ _

theorem socks_sockRetxSched (sid : Nat) : SocksSame ctx (sockRetxSched ctx sid).1 := by
  intro i
  unfold sockRetxSched
  dsimp only
  split
  · rfl
  · rfl

theorem socks_tcpTimeoutArm (sid : Nat) (kind : RetxKind) :
    SocksSame ctx (tcpTimeoutArm ctx sid kind).1 := by
  intro i
  unfold tcpTimeoutArm
  exact socks_sockRetxSched _ _ i

/-- The flow table has ids only. -/
theorem socks_tcpFlowInsert {c : TcpSlowCtx} {sid : Nat} (h : tcpFlowInsert ctx sid = some c) :
    SocksSame ctx c := by
  obtain ⟨s, -, -, rfl⟩ := tcpFlowInsert_eq_some h
  exact fun _ => rfl

/-- A lookup rotates the listeners of its port. -/
theorem socks_tcpListenerLookup (localIp : UInt32) (port : UInt16) :
    SocksSame ctx (tcpListenerLookup ctx localIp port).1 := by
  intro i
  unfold tcpListenerLookup
  dsimp only
  split
  · rfl
  · split
    · rfl
    · split
      · rfl
      · rfl

theorem socks_tcpListenerRemove (port : UInt16) (sockId : UInt32) :
    SocksSame ctx (tcpListenerRemove ctx port sockId) := by
  intro i
  unfold tcpListenerRemove
  split
  · rfl
  · rfl

theorem socks_tcpListenerInsert {c : TcpSlowCtx} {port : UInt16} {sockId : UInt32}
    {reuseport : Bool} (h : tcpListenerInsert ctx port sockId reuseport = some c) :
    SocksSame ctx c := by
  unfold tcpListenerInsert at h
  rw [Option.map_eq_some_iff] at h
  obtain ⟨p, -, rfl⟩ := h
  exact fun _ => rfl

/-- Pops change the listener only. -/
theorem socks_readyPopLoop (listenerId : UInt32) (fuel : Nat) (ctx : TcpSlowCtx) :
    SocksSame ctx (readyPopLoop listenerId fuel ctx).1 := by
  induction fuel generalizing ctx with
  | zero => exact SocksSame.refl ctx
  | succ fuel ih =>
    rw [readyPopLoop_succ]
    dsimp only
    split
    · exact SocksSame.refl ctx
    · split
      · exact fun i => (ih _ i).trans rfl
      · split
        · exact fun i => (ih _ i).trans rfl
        · split
          · exact fun i => (ih _ i).trans rfl
          · exact fun _ => rfl

/-- A close changes its own socket. -/
theorem sockAt_tcpSockCloseFinal (sid : Nat) : SockAt ctx (tcpSockCloseFinal ctx sid) sid := by
  intro i hi
  rw [tcpSockCloseFinal_sock, if_neg hi]

/-- It ends in `CLOSED`. -/
theorem tcpSockCloseFinal_state (sid : Nat) :
    ((tcpSockCloseFinal ctx sid).sock sid).state = .closed := by
  rw [tcpSockCloseFinal_sock, if_pos rfl]
  rfl

theorem sockAt_sockAutobindDrop (sid : Nat) : SockAt ctx (sockAutobindDrop ctx sid) sid := by
  unfold sockAutobindDrop
  dsimp only
  split
  · exact fun _ _ => rfl
  · intro i hi
    rw [tcpBoundRemove_eq]
    exact TcpSlowCtx.sock_setSock_ne _ _ hi

/-- A failed connect changes its own socket. -/
theorem sockAt_tcpSockConnectFail (sid err : Nat) :
    SockAt ctx (tcpSockConnectFail ctx sid err) sid := by
  unfold tcpSockConnectFail
  dsimp only
  refine SockAt.same ?_ (socks_appSubmit _ _ _ _)
  refine SockAt.trans ?_ (sockAt_setSock _ _ _)
  refine SockAt.trans ?_ (sockAt_sockAutobindDrop _ _)
  intro i _
  rw [tcpFlowRemove_sock]
  rfl

/-- It may connect again. -/
theorem tcpSockConnectFail_state (sid err : Nat) :
    ((tcpSockConnectFail ctx sid err).sock sid).state = .init := by
  unfold tcpSockConnectFail tcpAppConnectRes
  dsimp only
  rw [socks_appSubmit, TcpSlowCtx.sock_setSock]

end calm

/-! ## Handlers -/

section handlers

variable {ctx : TcpSlowCtx} {sid : Nat}

/-- Socket `x` alone was worked on, and is left as `p` says. -/
structure Touched (a b : TcpSlowCtx) (x : Nat) (p : TcpSock → Prop) : Prop where
  frame : SockAt a b x
  left : p (b.sock x)

theorem Touched.after {a b c : TcpSlowCtx} {x : Nat} {p : TcpSock → Prop} (hs : SockAt a b x)
    (h : Touched b c x p) : Touched a c x p := ⟨hs.trans h.frame, h.left⟩

/-- With less known of the socket. -/
theorem Touched.weaken {a b : TcpSlowCtx} {x : Nat} {p q : TcpSock → Prop} (h : Touched a b x p)
    (hw : ∀ s, p s → q s) : Touched a b x q := ⟨h.frame, hw _ h.left⟩

/-- A close, of its own socket. -/
theorem touched_close (ctx : TcpSlowCtx) (sid : Nat) :
    Touched ctx (tcpSockCloseFinal ctx sid) sid (·.state = .closed) :=
  ⟨sockAt_tcpSockCloseFinal ctx sid, tcpSockCloseFinal_state ctx sid⟩

/-- A failed connect, of its own socket. -/
theorem touched_fail (ctx : TcpSlowCtx) (sid err : Nat) :
    Touched ctx (tcpSockConnectFail ctx sid err) sid (·.state = .init) :=
  ⟨sockAt_tcpSockConnectFail ctx sid err, tcpSockConnectFail_state ctx sid err⟩

/-- A connect is under way, or failed at once. -/
theorem touched_sockConnectStart (remoteIp : UInt32) (remotePort : UInt16) :
    Touched ctx (sockConnectStart ctx sid remoteIp remotePort) sid
      (fun s => s.state = .synSent ∨ s.state = .init) := by
  unfold sockConnectStart
  dsimp only
  have hset := sockAt_setSock ctx sid (connectSock ctx (ctx.sock sid) remoteIp remotePort)
  have hst : ((ctx.setSock sid (connectSock ctx (ctx.sock sid) remoteIp remotePort)).sock
      sid).state = .synSent := by
    rw [TcpSlowCtx.sock_setSock]
    rfl
  generalize ctx.setSock sid _ = c at hset hst ⊢
  have hfail : ∀ {d : TcpSlowCtx} {err : Nat}, SocksSame c d →
      Touched ctx (tcpSockConnectFail d sid err) sid
        (fun s => s.state = .synSent ∨ s.state = .init) := by
    intro d err hd
    exact (Touched.after (hset.same hd) (touched_fail d sid err)).weaken (fun _ h => .inr h)
  cases hd : tcpFlowInsert c sid with
  | none => exact hfail (SocksSame.refl c)
  | some d =>
    dsimp only
    have hs := (socks_tcpFlowInsert c hd).trans (socks_tcpCtlTx d sid (synFlags (d.sock sid)))
    generalize tcpCtlTx d sid _ = r at hs ⊢
    obtain ⟨d₁, ok⟩ := r
    dsimp only at hs ⊢
    split
    · exact hfail hs
    · have hs₂ := hs.trans (socks_tcpTimeoutArm d₁ sid .syn)
      generalize tcpTimeoutArm d₁ sid .syn = r at hs₂ ⊢
      obtain ⟨d₂, ok₂⟩ := r
      dsimp only at hs₂ ⊢
      split
      · exact hfail hs₂
      · exact ⟨hset.same hs₂, .inl (by rw [hs₂ sid]; exact hst)⟩

/-- A FIN is under way, or the socket was closed. -/
theorem touched_sockShutdownStart :
    Touched ctx (sockShutdownStart ctx sid) sid
      (fun s => s.state = .finWait1 ∨ s.state = .closed) := by
  unfold sockShutdownStart
  dsimp only
  have hset := sockAt_setSock ctx sid { ctx.sock sid with
    flags := (ctx.sock sid).flags ||| sockFlagShut, state := .finWait1 }
  have hst : ((ctx.setSock sid { ctx.sock sid with
      flags := (ctx.sock sid).flags ||| sockFlagShut, state := .finWait1 }).sock sid).state
      = .finWait1 := by rw [TcpSlowCtx.sock_setSock]
  generalize ctx.setSock sid _ = c at hset hst ⊢
  have hclose : ∀ {d : TcpSlowCtx}, SocksSame c d → Touched ctx (tcpSockCloseFinal d sid) sid
      (fun s => s.state = .finWait1 ∨ s.state = .closed) := by
    intro d hd
    exact (Touched.after (hset.same hd) (touched_close d sid)).weaken (fun _ h => .inr h)
  have hs := socks_tcpCtlTx c sid (tcpFin ||| tcpAck)
  generalize tcpCtlTx c sid _ = r at hs ⊢
  obtain ⟨d, ok⟩ := r
  dsimp only at hs ⊢
  split
  · exact hclose hs
  · have hs₂ := hs.trans (socks_tcpTimeoutArm d sid .fin)
    generalize tcpTimeoutArm d sid .fin = r at hs₂ ⊢
    obtain ⟨d₂, ok₂⟩ := r
    dsimp only at hs₂ ⊢
    split
    · exact hclose hs₂
    · exact ⟨hset.same hs₂, .inl (by rw [hs₂ sid]; exact hst)⟩

/-- An open that is given up ends closed. -/
theorem touched_sockAbortOpen :
    Touched ctx (sockAbortOpen ctx sid) sid (·.state = .closed) := by
  unfold sockAbortOpen
  dsimp only
  split
  · exact Touched.after ((socks_tcpCtlTx _ _ _).at sid) (touched_close _ _)
  · exact touched_close _ _

end handlers

/-! ## The fate of a socket -/

/-- The states of an open connection. -/
def isOpen (s : SockState) : Bool := s == .established || s == .acceptPending

/-- Nothing of the connection differs. -/
structure Kept (s t : TcpSock) : Prop where
  state : t.state = s.state
  rxSeq : t.rxSeq = s.rxSeq
  remoteIp : t.remoteIp = s.remoteIp
  remotePort : t.remotePort = s.remotePort

/-- What an event did to a socket; it is shut only by an event that ends
it. -/
inductive Fate (s t : TcpSock) (ends : Prop) : Prop
  | kept (h : Kept s t)
  | accepted (hs : s.state = .acceptPending) (ht : t.state = .established)
    (hseq : t.rxSeq = s.rxSeq) (hip : t.remoteIp = s.remoteIp)
    (hport : t.remotePort = s.remotePort)
  | opened (hs : isOpen s.state = false)
  | shut (he : ends) (ht : isOpen t.state = false)

theorem Kept.refl (s : TcpSock) : Kept s s := ⟨rfl, rfl, rfl, rfl⟩

theorem Kept.trans {s t u : TcpSock} (h₁ : Kept s t) (h₂ : Kept t u) : Kept s u :=
  ⟨h₂.state.trans h₁.state, h₂.rxSeq.trans h₁.rxSeq, h₂.remoteIp.trans h₁.remoteIp,
    h₂.remotePort.trans h₁.remotePort⟩

/-- No socket's connection differs. -/
def KeptAll (a b : TcpSlowCtx) : Prop := ∀ i, Kept (a.sock i) (b.sock i)

/-- What changes no socket keeps all. -/
theorem SocksSame.kept {a b : TcpSlowCtx} (h : SocksSame a b) : KeptAll a b := by
  intro i
  rw [h i]
  exact Kept.refl _

theorem KeptAll.trans {a b c : TcpSlowCtx} (h₁ : KeptAll a b) (h₂ : KeptAll b c) : KeptAll a c :=
  fun i => (h₁ i).trans (h₂ i)

theorem kept_setSock {ctx : TcpSlowCtx} {sid : Nat} {s : TcpSock} (h : Kept (ctx.sock sid) s) :
    KeptAll ctx (ctx.setSock sid s) := by
  intro i
  by_cases hi : i = sid
  · rw [hi, TcpSlowCtx.sock_setSock]
    exact h
  · rw [TcpSlowCtx.sock_setSock_ne _ _ hi]
    exact Kept.refl _

/-- A time stamp is none of the fields kept. -/
theorem kept_slowSockTsRx (ctx : TcpSlowCtx) (sid : Nat) (rx : TcpRxCtl) :
    KeptAll ctx (slowSockTsRx ctx sid rx) := by
  unfold slowSockTsRx
  split
  · exact (SocksSame.refl ctx).kept
  · next tsVal _ _ =>
    have h₁ : KeptAll ctx (ctx.setSock sid { ctx.sock sid with tsRecent := tsVal }) :=
      kept_setSock ⟨rfl, rfl, rfl, rfl⟩
    dsimp only
    split
    · exact h₁
    · split
      · exact h₁
      · refine h₁.trans ?_
        exact kept_setSock ⟨rfl, rfl, rfl, rfl⟩

/-- Binding changes addresses only of its own end. -/
theorem kept_bindPort (ctx : TcpSlowCtx) (sid : Nat) : KeptAll ctx (bindPort ctx sid).1 := by
  unfold bindPort sockAutobindPort
  dsimp only
  split
  · split
    · exact (SocksSame.refl ctx).kept
    · split
      · exact (SocksSame.refl ctx).kept
      · next c hc =>
        unfold tcpBoundInsert at hc
        rw [Option.map_eq_some_iff] at hc
        obtain ⟨p, -, rfl⟩ := hc
        exact kept_setSock ⟨rfl, rfl, rfl, rfl⟩
  · exact (SocksSame.refl ctx).kept

theorem kept_bindIp (ctx : TcpSlowCtx) (sid : Nat) : KeptAll ctx (bindIp ctx sid) := by
  unfold bindIp sockAutobindIp
  split
  · exact kept_setSock ⟨rfl, rfl, rfl, rfl⟩
  · exact (SocksSame.refl ctx).kept

/-- The events that shut socket `i` when it is open. -/
def Ends (ctx : TcpSlowCtx) (i : Nat) : SlowAct → Prop
  | .connect _ _ sockId _ remotePort _ => i = sockId.toNat ∧ remotePort ≠ 0
  | .listen _ _ sockId _ _ callocOk => i = sockId.toNat ∧ ListenTaken ctx sockId.toNat callocOk
  | .shutdown sockId how => i = sockId.toNat ∧ how = shutRdwr
  | .close sockId => i = sockId.toNat ∨
    ((ctx.sock sockId.toNat).state = .listen ∧
      (ctx.tcpSockMeta i).listenerId = (ctx.sock sockId.toNat).id)
  | .segment p core =>
    let rx := ctlRxParse p (if core.toNat ≥ ctx.nFpCores then 0 else core)
    tcpFlowLookup ctx rx.localIp rx.localPort rx.remoteIp rx.remotePort = some i ∧
      rx.flags &&& (tcpRst ||| tcpFin) ≠ 0
  | .timeout entry => ctx.tomgr.entries entry = some i ∧ (ctx.tcpSockMeta i).retxKind ≠ .none
  | _ => False

section fates

variable {ctx : TcpSlowCtx} {ends : Nat → Prop}

/-- Every socket has a fate. -/
def Fates (a b : TcpSlowCtx) (ends : Nat → Prop) : Prop := ∀ i, Fate (a.sock i) (b.sock i) (ends i)

/-- Keeping every socket is a fate. -/
theorem KeptAll.fates {a b : TcpSlowCtx} (h : KeptAll a b) : Fates a b ends :=
  fun i => .kept (h i)

/-- One socket was shut. -/
theorem Touched.fates {a b : TcpSlowCtx} {x : Nat} {p : TcpSock → Prop} (h : Touched a b x p)
    (he : ends x) (hp : ∀ s, p s → isOpen s.state = false) : Fates a b ends := by
  intro i
  by_cases hi : i = x
  · rw [hi]
    exact .shut he (hp _ h.left)
  · rw [h.frame i hi]
    exact .kept (Kept.refl _)

/-- One socket that is not open was worked on. -/
theorem SockAt.fates {a b : TcpSlowCtx} {x : Nat} (h : SockAt a b x)
    (hx : isOpen (a.sock x).state = false) : Fates a b ends := by
  intro i
  by_cases hi : i = x
  · rw [hi]
    exact .opened hx
  · rw [h i hi]
    exact .kept (Kept.refl _)

/-- Steps that keep every connection, before the others. -/
theorem KeptAll.before {a b c : TcpSlowCtx} (h : KeptAll a b) (hf : Fates b c ends) :
    Fates a c ends := by
  intro i
  have hk := h i
  cases hf i with
  | kept h => exact .kept (hk.trans h)
  | accepted hs ht hseq hip hport =>
    exact .accepted (hk.state.symm.trans hs) ht (hseq.trans hk.rxSeq) (hip.trans hk.remoteIp)
      (hport.trans hk.remotePort)
  | opened hs =>
    rw [hk.state] at hs
    exact .opened hs
  | shut he ht => exact .shut he ht

/-- What changes no socket comes behind any fate. -/
theorem Fates.same {a b c : TcpSlowCtx} (hf : Fates a b ends) (h : SocksSame b c) :
    Fates a c ends := by
  intro i
  rw [h i]
  exact hf i

/-- A bind opens and ends nothing. -/
theorem fates_appBind (appId ctxId : UInt8) (sid : Nat) (localIp : UInt32) (localPort : UInt16)
    (opaquePtr : UInt64) :
    Fates ctx (appBind ctx appId ctxId sid localIp localPort opaquePtr) ends := by
  unfold appBind
  split
  · exact (SocksSame.refl ctx).kept.fates
  · split
    · have hp := kept_bindPort ctx sid
      generalize bindPort ctx sid = r at hp ⊢
      obtain ⟨c, ok⟩ := r
      have hip := hp.trans (kept_bindIp c sid)
      cases ok with
      | false => exact hip.fates.same (socks_appSubmit _ _ _ _)
      | true =>
        dsimp only
        have hset : KeptAll ctx ((bindIp c sid).setSock sid
            { (bindIp c sid).sock sid with localIp, localPort }) :=
          hip.trans (kept_setSock ⟨rfl, rfl, rfl, rfl⟩)
        exact hset.fates.same (socks_appSubmit _ _ _ _)
    · exact (socks_appSubmit _ _ _ _).kept.fates

/-- A connect takes a socket that was not open. -/
theorem fates_appConnect (appId ctxId : UInt8) (sid : Nat) (remoteIp : UInt32)
    (remotePort : UInt16) (opaquePtr : UInt64) (he : remotePort ≠ 0 → ends sid) :
    Fates ctx (appConnect ctx appId ctxId sid remoteIp remotePort opaquePtr) ends := by
  unfold appConnect
  split
  · exact (socks_appSubmit _ _ _ _).kept.fates
  · next hport =>
    split
    · exact (socks_appSubmit _ _ _ _).kept.fates
    · have hp := kept_bindPort ctx sid
      generalize bindPort ctx sid = r at hp ⊢
      obtain ⟨c, ok⟩ := r
      cases ok with
      | false => exact hp.fates.same (socks_appSubmit _ _ _ _)
      | true =>
        refine (hp.trans (kept_bindIp c sid)).before ?_
        refine (touched_sockConnectStart remoteIp remotePort).fates (he (fun hc => hport (.inr hc))) ?_
        rintro s (hs | hs)
        · rw [hs]
          rfl
        · rw [hs]
          rfl

/-- So does a listen. -/
theorem fates_appListen (appId ctxId : UInt8) (sid : Nat) (backlog : UInt32) (opaquePtr : UInt64)
    (callocOk : Bool) (he : ListenTaken ctx sid callocOk → ends sid) :
    Fates ctx (appListen ctx appId ctxId sid backlog opaquePtr callocOk) ends := by
  unfold appListen
  split
  · exact (socks_appSubmit _ _ _ _).kept.fates
  · next hlt =>
    dsimp only
    split
    · exact (socks_appSubmit _ _ _ _).kept.fates
    · next hport =>
      cases hins : tcpListenerInsert ctx (ctx.sock sid).localPort (ctx.sock sid).id
          (ctx.sock sid).reuport with
      | none => exact (socks_appSubmit _ _ _ _).kept.fates
      | some c =>
        have hs := socks_tcpListenerInsert ctx hins
        dsimp only
        split
        · exact (hs.trans ((socks_tcpListenerRemove _ _ _).trans
            (socks_appSubmit _ _ _ _))).kept.fates
        · next hroom =>
          have hl : c.listeners = ctx.listeners := by
            unfold tcpListenerInsert at hins
            rw [Option.map_eq_some_iff] at hins
            obtain ⟨p, -, rfl⟩ := hins
            rfl
          have htaken : ListenTaken ctx sid callocOk := by
            refine ⟨Nat.lt_of_not_le hlt, hport, ?_, ?_⟩
            · rw [hins]
              rfl
            · rw [hl] at hroom
              cases hact : (ctx.listeners (ctx.sock sid).id.toNat).active with
              | true => exact .inl rfl
              | false =>
                right
                cases callocOk with
                | true => rfl
                | false =>
                  rw [hact] at hroom
                  exact absurd ⟨rfl, rfl⟩ hroom
          refine Fates.same ?_ (socks_appSubmit _ _ _ _)
          refine hs.kept.before ?_
          refine Touched.fates (p := (·.state = .listen)) ⟨sockAt_setSock _ _ _, ?_⟩ (he htaken) ?_
          · rw [TcpSlowCtx.sock_setSock]
          · intro s hst
            rw [hst]
            rfl

/-- An accept establishes the child it returns. -/
theorem fates_appAccept (appId ctxId : UInt8) (sid : Nat) (opaquePtr : UInt64) :
    Fates ctx (appAccept ctx appId ctxId sid opaquePtr) ends := by
  unfold appAccept
  split
  · exact (socks_appSubmit _ _ _ _).kept.fates
  · dsimp only
    split
    · exact (socks_appSubmit _ _ _ _).kept.fates
    · have hpop := socks_readyPopLoop (ctx.sock sid).id
        (ctx.listeners (ctx.sock sid).id.toNat).readyUsed.toNat ctx
      have hst := (core_readyPopLoop (ctx.sock sid).id
        (ctx.listeners (ctx.sock sid).id.toNat).readyUsed.toNat ctx).2
      unfold tcpListenerReadyPop
      generalize readyPopLoop (ctx.sock sid).id _ ctx = r at hpop hst ⊢
      obtain ⟨c, child⟩ := r
      cases child with
      | none => exact (hpop.trans (socks_appSubmit _ _ _ _)).kept.fates
      | some x =>
        dsimp only at hpop hst ⊢
        refine Fates.same ?_ (socks_appSubmit _ _ _ _)
        refine hpop.kept.before ?_
        intro i
        by_cases hi : i = x
        · rw [hi]
          refine .accepted (hst x rfl) ?_ ?_ ?_ ?_
          · show ((TcpSlowCtx.setSock _ x _).sock x).state = _
            rw [TcpSlowCtx.sock_setSock]
            rfl
          · show ((TcpSlowCtx.setSock _ x _).sock x).rxSeq = _
            rw [TcpSlowCtx.sock_setSock]
            rfl
          · show ((TcpSlowCtx.setSock _ x _).sock x).remoteIp = _
            rw [TcpSlowCtx.sock_setSock]
            rfl
          · show ((TcpSlowCtx.setSock _ x _).sock x).remotePort = _
            rw [TcpSlowCtx.sock_setSock]
            rfl
        · rw [TcpSlowCtx.sock_setListener,
            show (sockAcceptOwn c x appId ctxId opaquePtr).sock i = c.sock i from
              TcpSlowCtx.sock_setSock_ne _ _ hi]
          exact .kept (Kept.refl _)

theorem isOpen_closed {s : TcpSock} (h : s.state = .closed) : isOpen s.state = false := by
  rw [h]
  rfl

/-- One child: it is left alone, or it is marked and gets closed. -/
theorem abortChild_cases (listenerId : UInt32) (ctx : TcpSlowCtx) (i : Nat) :
    abortChild listenerId ctx i = ctx ∨ ((ctx.tcpSockMeta i).listenerId = listenerId ∧
      ∃ c, SocksSame ctx c ∧ c.sockMeta = ctx.sockMeta ∧
        abortChild listenerId ctx i = tcpSockCloseFinal c i) := by
  unfold abortChild
  split
  · exact .inl rfl
  · next hm =>
    split
    · exact .inl rfl
    · refine .inr ⟨Classical.not_not.mp hm, ?_⟩
      dsimp only
      split
      · exact ⟨_, socks_tcpCtlTx _ _ _, ctlPktEnqueue_sockMeta _ _, rfl⟩
      · exact ⟨ctx, SocksSame.refl ctx, rfl, rfl⟩

/-- The children a listener marks are closed, and no other socket. -/
theorem abortChildren_socks (listenerId : UInt32) (l : List Nat) :
    ∀ {ctx : TcpSlowCtx}, (∀ i ∈ l, (ctx.sock i).id.toNat = i) → ∀ j,
      (l.foldl (abortChild listenerId) ctx).sock j = ctx.sock j ∨
        (((l.foldl (abortChild listenerId) ctx).sock j).state = .closed ∧
          j ∈ l ∧ (ctx.tcpSockMeta j).listenerId = listenerId) := by
  induction l with
  | nil => exact fun _ _ => .inl rfl
  | cons i l ih =>
    intro ctx hid j
    rw [List.foldl_cons]
    have hidi := hid i List.mem_cons_self
    rcases abortChild_cases listenerId ctx i with he | ⟨hmark, c, hs, hm, he⟩
    · rw [he]
      rcases ih (fun k hk => hid k (List.mem_cons_of_mem _ hk)) j with h | ⟨hst, hj, hmj⟩
      · exact .inl h
      · exact .inr ⟨hst, List.mem_cons_of_mem _ hj, hmj⟩
    · rw [he]
      have hsock : ∀ k, (tcpSockCloseFinal c i).sock k =
          if k = i then closedSock (ctx.sock i) else ctx.sock k := by
        intro k
        rw [tcpSockCloseFinal_sock, hs i, hs k]
      have hids : ∀ k ∈ l, ((tcpSockCloseFinal c i).sock k).id.toNat = k := by
        intro k hk
        have hidk := hid k (List.mem_cons_of_mem _ hk)
        rw [hsock]
        split
        · next hki =>
          rw [hki] at hidk ⊢
          exact hidk
        · exact hidk
      by_cases hj : j = i
      · have hclosed : ((tcpSockCloseFinal c i).sock j).state = .closed := by
          rw [hj]
          exact tcpSockCloseFinal_state c i
        refine .inr ⟨?_, by rw [hj]; exact List.mem_cons_self, by rw [hj]; exact hmark⟩
        rcases ih hids j with h | ⟨hst, -⟩
        · rw [h]
          exact hclosed
        · exact hst
      · have hsj : (tcpSockCloseFinal c i).sock j = ctx.sock j := by
          rw [hsock, if_neg hj]
        rcases ih hids j with h | ⟨hst, hjl, hmj⟩
        · exact .inl (h.trans hsj)
        · refine .inr ⟨hst, List.mem_cons_of_mem _ hjl, ?_⟩
          have hidj := hid j (List.mem_cons_of_mem _ hjl)
          -- The metadata of `j` is not that of `i`.
          have hmeta : (tcpSockCloseFinal c i).tcpSockMeta j = ctx.tcpSockMeta j := by
            unfold TcpSlowCtx.tcpSockMeta
            rw [hsj, tcpSockCloseFinal_sockMeta, hs i, hidi, hidj, if_neg hj, hm]
          rw [hmeta] at hmj
          exact hmj

/-- A close ends its socket, and a listener's children with it. -/
theorem fates_appClose (h : Base ctx) (sid : Nat) :
    Fates ctx (appClose ctx sid) (fun i =>
      i = sid ∨ ((ctx.sock sid).state = .listen ∧
        (ctx.tcpSockMeta i).listenerId = (ctx.sock sid).id)) := by
  unfold appClose
  split
  · exact (SocksSame.refl ctx).kept.fates
  · next hlt =>
    have hlt : sid < ctx.nSocks := by omega
    split
    · next hlisten =>
      unfold sockCloseListen tcpListenerAbortChildren
      dsimp only
      have hs := socks_tcpListenerRemove ctx (ctx.sock sid).localPort (ctx.sock sid).id
      have hm : (tcpListenerRemove ctx (ctx.sock sid).localPort (ctx.sock sid).id).sockMeta =
          ctx.sockMeta := by
        unfold tcpListenerRemove
        split
        · rfl
        · rfl
      have hn := (same_tcpListenerRemove ctx (ctx.sock sid).localPort (ctx.sock sid).id).nSocks
      generalize tcpListenerRemove ctx _ _ = c at hs hm hn ⊢
      have hab := @abortChildren_socks (c.sock sid).id (List.range c.nSocks) c (by
        intro i hi
        rw [hs i]
        exact h.toNat_id (by rw [← hn]; exact List.mem_range.mp hi))
      generalize (List.range c.nSocks).foldl _ c = d at hab ⊢
      intro i
      by_cases hi : i = sid
      · rw [hi]
        exact .shut (.inl rfl) (isOpen_closed (tcpSockCloseFinal_state _ _))
      · rw [sockAt_tcpSockCloseFinal _ sid i hi]
        show Fate (ctx.sock i) (d.sock i) _
        rcases hab i with he | ⟨hst, -, hmark⟩
        · rw [he, hs i]
          exact .kept (Kept.refl _)
        · refine .shut (.inr ⟨hlisten, ?_⟩) (isOpen_closed hst)
          unfold TcpSlowCtx.tcpSockMeta at hmark ⊢
          rw [hm, hs i, hs sid] at hmark
          exact hmark
    · exact touched_sockAbortOpen.fates (.inl rfl) (fun _ => isOpen_closed)
    · exact touched_sockAbortOpen.fates (.inl rfl) (fun _ => isOpen_closed)
    · exact touched_sockAbortOpen.fates (.inl rfl) (fun _ => isOpen_closed)
    · refine touched_sockShutdownStart.fates (.inl rfl) ?_
      rintro s (hs | hs)
      · rw [hs]
        rfl
      · exact isOpen_closed hs
    · exact (touched_close _ _).fates (.inl rfl) (fun _ => isOpen_closed)

/-- A shutdown ends its socket for the application. -/
theorem fates_appShutdown (sid how : Nat) (he : how = shutRdwr → ends sid) :
    Fates ctx (appShutdown ctx sid how) ends := by
  unfold appShutdown
  split
  · exact (SocksSame.refl ctx).kept.fates
  · split
    · exact (SocksSame.refl ctx).kept.fates
    · next hhow =>
      have hend := he (Classical.byContradiction (fun hc => hhow (.inl hc)))
      refine touched_sockShutdownStart.fates hend ?_
      rintro s (hs | hs)
      · rw [hs]
        rfl
      · exact isOpen_closed hs

/-- A timer that runs out closes its socket. -/
theorem fates_tcpTimeoutFire (entry sid : Nat)
    (he : (ctx.tcpSockMeta sid).retxKind ≠ .none → ends sid) :
    Fates ctx (tcpTimeoutFire ctx entry sid) ends := by
  have hexpire : ends sid → ∀ {c : TcpSlowCtx}, SocksSame ctx c →
      Fates ctx (sockRetxExpire c sid) ends := by
    intro he c hs
    refine hs.kept.before ?_
    unfold sockRetxExpire
    dsimp only
    split
    · refine (touched_fail c sid etimedout).fates he ?_
      intro s hst
      rw [hst]
      rfl
    · exact (Touched.after ((socks_ctlPktEnqueue _ _).at sid) (touched_close _ _)).fates he
        (fun _ => isOpen_closed)
    · exact (Touched.after ((socks_ctlPktEnqueue _ _).at sid) (touched_close _ _)).fates he
        (fun _ => isOpen_closed)
    · exact (SocksSame.refl c).kept.fates
  have hpop : SocksSame ctx (timerPopped ctx entry sid) := fun _ => rfl
  have hkind : ((timerPopped ctx entry sid).tcpSockMeta sid).retxKind =
      (ctx.tcpSockMeta sid).retxKind := by
    show (if (ctx.sock sid).id.toNat = (ctx.sock sid).id.toNat then
      { ctx.tcpSockMeta sid with timer := none } else _ : SockMeta).retxKind = _
    rw [if_pos rfl]
  show Fates ctx (if ((timerPopped ctx entry sid).tcpSockMeta sid).retxKind = .none then
    timerPopped ctx entry sid else sockOnTimeout (timerPopped ctx entry sid) sid) ends
  generalize timerPopped ctx entry sid = c at hpop hkind ⊢
  split
  · exact hpop.kept.fates
  · next hk =>
    rw [hkind] at hk
    have hexpire : ∀ {c : TcpSlowCtx}, SocksSame ctx c → Fates ctx (sockRetxExpire c sid) ends :=
      hexpire (he hk)
    unfold sockOnTimeout
    split
    · exact hexpire hpop
    · have htx := hpop.trans (socks_sockRetxTx c sid)
      generalize sockRetxTx c sid = r at htx ⊢
      obtain ⟨d, ok⟩ := r
      dsimp only at htx ⊢
      split
      · exact hexpire htx
      · have hd : SocksSame ctx (d.setMeta sid
            { d.tcpSockMeta sid with retxLeft := (d.tcpSockMeta sid).retxLeft - 1 }) := htx
        generalize d.setMeta sid _ = d' at hd ⊢
        have hsched := hd.trans (socks_sockRetxSched d' sid)
        generalize sockRetxSched d' sid = r at hsched ⊢
        obtain ⟨d'', ok'⟩ := r
        dsimp only at hsched ⊢
        split
        · exact hexpire hsched
        · exact hsched.kept.fates

/-- A segment changes the socket it is for. -/
theorem sockAt_tcpRxSynSent (sid : Nat) (rx : TcpRxCtl) :
    SockAt ctx (tcpRxSynSent ctx sid rx) sid := by
  unfold tcpRxSynSent
  split
  · exact sockAt_tcpSockConnectFail _ _ _
  · split
    · exact fun _ _ => rfl
    · split
      · exact fun _ _ => rfl
      · dsimp only
        refine SockAt.same ?_ ((socks_tcpCtlTx _ _ _).trans (socks_appSubmit _ _ _ _))
        intro i hi
        exact TcpSlowCtx.sock_setSock_ne _ _ hi

theorem sockAt_tcpRxSynRecv (sid : Nat) (rx : TcpRxCtl) :
    SockAt ctx (tcpRxSynRecv ctx sid rx) sid := by
  unfold tcpRxSynRecv
  split
  · exact sockAt_tcpSockCloseFinal _ _
  · split
    · exact (socks_ctlPktEnqueue _ _).at sid
    · split
      · exact fun _ _ => rfl
      · have hest : SockAt ctx (sockPassiveEstablished ctx sid rx).1 sid := by
          unfold sockPassiveEstablished
          dsimp only
          have hset : SockAt ctx ((tcpTimeoutCancel ctx sid).setSock sid
              { (tcpTimeoutCancel ctx sid).sock sid with
                txRemoteAvail := rx.wnd.toUInt32
                txPending := ((tcpTimeoutCancel ctx sid).sock sid).txPending - 1
                txSeq := ((tcpTimeoutCancel ctx sid).sock sid).txSeq + 1
                state := .acceptPending }) sid :=
            fun i hi => TcpSlowCtx.sock_setSock_ne _ _ hi
          generalize (tcpTimeoutCancel ctx sid).setSock sid _ = c at hset ⊢
          unfold tcpListenerReadyPush
          dsimp only
          split
          · exact hset.trans (sockAt_tcpSockCloseFinal _ _)
          · exact hset
        generalize sockPassiveEstablished ctx sid rx = r at hest ⊢
        obtain ⟨c, ok⟩ := r
        dsimp only at hest ⊢
        split
        · exact hest
        · exact hest.same (socks_appSubmit _ _ _ _)

theorem sockAt_tcpRxFinWait1 (sid : Nat) (rx : TcpRxCtl) :
    SockAt ctx (tcpRxFinWait1 ctx sid rx) sid := by
  unfold tcpRxFinWait1
  dsimp only
  have hfin : SockAt ctx (if rx.flags &&& tcpFin ≠ 0 then
      (tcpCtlTx (ctx.setSock sid { ctx.sock sid with rxSeq := rx.seq + 1 }) sid tcpAck).1
      else ctx) sid := by
    split
    · exact (sockAt_setSock ctx sid _).same (socks_tcpCtlTx _ _ _)
    · exact fun _ _ => rfl
  generalize (if rx.flags &&& tcpFin ≠ 0 then _ else ctx) = c at hfin ⊢
  have hend : SockAt ctx (tcpSockCloseFinal (tcpTimeoutCancel c sid) sid) sid :=
    hfin.trans (sockAt_tcpSockCloseFinal (tcpTimeoutCancel c sid) sid)
  split
  · exact hend
  · split
    · exact hend
    · exact hfin

/-- An open connection is ended by a reset or a FIN. -/
theorem fates_tcpRxEstablished (sid : Nat) (rx : TcpRxCtl)
    (he : rx.flags &&& (tcpRst ||| tcpFin) ≠ 0 → ends sid) :
    Fates ctx (tcpRxEstablished ctx sid rx) ends := by
  have hbits : ∀ f : UInt16, f &&& (tcpRst ||| tcpFin) = 0 → f &&& tcpRst = 0 ∧ f &&& tcpFin = 0 := by
    intro f hf
    have h₁ : f &&& tcpRst = (f &&& (tcpRst ||| tcpFin)) &&& tcpRst := by
      rw [UInt16.and_assoc]
      rfl
    have h₂ : f &&& tcpFin = (f &&& (tcpRst ||| tcpFin)) &&& tcpFin := by
      rw [UInt16.and_assoc]
      rfl
    rw [h₁, h₂, hf]
    exact ⟨rfl, rfl⟩
  unfold tcpRxEstablished
  split
  · next hr =>
    exact (touched_close _ _).fates (he (fun hz => hr (hbits _ hz).1)) (fun _ => isOpen_closed)
  · split
    · next hf =>
      dsimp only
      have hset : SockAt ctx ((tcpCtlTx (ctx.setSock sid { ctx.sock sid with
          rxSeq := rx.seq + 1 }) sid tcpAck).1) sid :=
        (sockAt_setSock ctx sid _).same (socks_tcpCtlTx _ _ _)
      exact (Touched.after hset (touched_close _ _)).fates (he (fun hz => hf (hbits _ hz).2))
        (fun _ => isOpen_closed)
    · exact (SocksSame.refl ctx).kept.fates

/-- A segment for a connection, by its state. -/
theorem fates_sockCtlRx (sid : Nat) (rx : TcpRxCtl)
    (he : rx.flags &&& (tcpRst ||| tcpFin) ≠ 0 → ends sid) :
    Fates ctx (sockCtlRx ctx sid rx) ends := by
  unfold sockCtlRx
  split
  · next hst => exact (sockAt_tcpRxSynSent sid rx).fates (by rw [hst]; rfl)
  · next hst => exact (sockAt_tcpRxSynRecv sid rx).fates (by rw [hst]; rfl)
  · exact fates_tcpRxEstablished sid rx he
  · exact fates_tcpRxEstablished sid rx he
  · next hst => exact (sockAt_tcpRxFinWait1 sid rx).fates (by rw [hst]; rfl)
  · exact (SocksSame.refl ctx).kept.fates

/-- A SYN writes the new entry. -/
theorem sockAt_listenChild (listenSid sid : Nat) (rx : TcpRxCtl) :
    SockAt ctx (listenChild ctx listenSid sid rx) sid := by
  unfold listenChild
  dsimp only
  have hset : SockAt ctx ((ctx.setSock sid (childSock ctx (ctx.sock sid) rx)).setMeta sid
      { (ctx.setSock sid (childSock ctx (ctx.sock sid) rx)).tcpSockMeta sid with
        listenerId := (ctx.sock listenSid).id }) sid :=
    fun i hi => TcpSlowCtx.sock_setSock_ne _ _ hi
  generalize TcpSlowCtx.setMeta _ sid _ = d at hset ⊢
  cases hins : tcpFlowInsert d sid with
  | none =>
    dsimp only
    exact (hset.trans (sockAt_setSock d sid _)).same (socks_replyRst _ _ _ _)
  | some f =>
    dsimp only
    have hflow := hset.same (socks_tcpFlowInsert d hins)
    have hf : SockAt ctx (f.setListener (ctx.sock listenSid).id.toNat
        { f.listeners (ctx.sock listenSid).id.toNat with
          backlogUsed := (f.listeners (ctx.sock listenSid).id.toNat).backlogUsed + 1 }) sid := hflow
    generalize f.setListener _ _ = f₁ at hf ⊢
    have htx := hf.same (socks_tcpCtlTx f₁ sid (synackFlags (f₁.sock sid)))
    generalize tcpCtlTx f₁ sid _ = r at htx ⊢
    obtain ⟨g, ok⟩ := r
    dsimp only at htx ⊢
    split
    · exact (htx.trans (sockAt_tcpSockCloseFinal g sid)).same (socks_replyRst _ _ _ _)
    · have harm := htx.same (socks_tcpTimeoutArm g sid .synack)
      generalize tcpTimeoutArm g sid .synack = r at harm ⊢
      obtain ⟨g', ok'⟩ := r
      dsimp only at harm ⊢
      split
      · exact (harm.same (socks_replyRst _ _ _ _)).trans (sockAt_tcpSockCloseFinal _ _)
      · exact harm

/-- The entry behind the last socket is not in use. -/
theorem Base.not_open (h : Base ctx) {i : Nat} (hi : ctx.nSocks ≤ i) :
    isOpen (ctx.sock i).state = false := by
  rcases h.idle i hi with hst | hst
  · rw [hst]
    rfl
  · rw [hst]
    rfl

/-- A new socket takes an entry not in use. -/
theorem fates_appNewSock (h : Base ctx) (appId ctxId : UInt8) (opaquePtr : UInt64) :
    Fates ctx (appNewSock ctx appId ctxId opaquePtr) ends := by
  have hno := h.not_open (Nat.le_refl ctx.nSocks)
  unfold appNewSock
  have hall := tcpSockAlloc_cases ctx opaquePtr appId ctxId (ctx.appBumpQids appId ctxId 0)
  generalize tcpSockAlloc ctx opaquePtr appId ctxId _ = r at hall ⊢
  obtain ⟨c, i⟩ := r
  rcases hall with ⟨hi, hu⟩ | ⟨hi, ha⟩
  · dsimp only at hi hu
    rw [hi]
    exact SockAt.fates (x := ctx.nSocks) hu.sock hno
  · dsimp only at hi ha
    rw [hi]
    exact SockAt.fates (x := ctx.nSocks) (SockAt.same ha.sock (socks_appSubmit _ _ _ _)) hno

/-- A SYN does too, for a child. -/
theorem fates_tcpRxListenSyn (h : Base ctx) (listenSid : Nat) (rx : TcpRxCtl) :
    Fates ctx (tcpRxListenSyn ctx listenSid rx) ends := by
  have hno := h.not_open (Nat.le_refl ctx.nSocks)
  unfold tcpRxListenSyn
  dsimp only
  split
  · exact (socks_replyRst _ _ _ _).kept.fates
  · split
    · exact (SocksSame.refl ctx).kept.fates
    · have hall := tcpSockAlloc_cases ctx 0 0 0 0
      generalize tcpSockAlloc ctx 0 0 0 0 = r at hall ⊢
      obtain ⟨c, i⟩ := r
      rcases hall with ⟨hi, hu⟩ | ⟨hi, ha⟩
      · dsimp only at hi hu
        rw [hi]
        exact SockAt.fates (x := ctx.nSocks) hu.sock hno
      · dsimp only at hi ha
        rw [hi]
        exact SockAt.fates (x := ctx.nSocks)
          (SockAt.trans ha.sock (sockAt_listenChild listenSid ctx.nSocks rx)) hno

/-- A punted segment, for a connection or a listener. -/
theorem fates_ctlRx (h : Base ctx) (p : Nat → UInt8) (core : UInt16) :
    Fates ctx (ctlRx ctx p core) (fun i => Ends ctx i (.segment p core)) := by
  unfold ctlRx Ends
  dsimp only
  generalize ctlRxParse p _ = rx
  cases hf : tcpFlowLookup ctx rx.localIp rx.localPort rx.remoteIp rx.remotePort with
  | some sid =>
    dsimp only
    exact (kept_slowSockTsRx ctx sid rx).before (fates_sockCtlRx sid rx (fun hfl => ⟨rfl, hfl⟩))
  | none =>
    dsimp only
    split
    · exact (SocksSame.refl ctx).kept.fates
    · have hl := socks_tcpListenerLookup ctx rx.localIp rx.localPort
      have hb := h.same (same_tcpListenerLookup ctx rx.localIp rx.localPort).toSameCore
      generalize tcpListenerLookup ctx rx.localIp rx.localPort = r at hl hb ⊢
      obtain ⟨c, k⟩ := r
      cases k with
      | none => exact (hl.trans (socks_replyRst _ _ _ _)).kept.fates
      | some k => exact hl.kept.before (fates_tcpRxListenSyn hb _ rx)

end fates

/-- The events of the slow path itself. -/
def SlowAct.isSlow : SlowAct → Bool
  | .fastRx _ | .fastDeq _ | .fastSched _ | .drain _ => false
  | _ => true

/-- **The fate of every socket** in an event of the slow path. -/
theorem Base.fates {ctx : TcpSlowCtx} {act : SlowAct} (h : Base ctx) (hs : act.isSlow = true) :
    Fates ctx (slowNext ctx act) (fun i => Ends ctx i act) := by
  cases act with
  | newSock appId ctxId opaquePtr => exact fates_appNewSock h _ _ _
  | setopt appId ctxId sockId opt opaquePtr =>
    show Fates ctx (appSetopt ctx appId ctxId sockId.toNat opt opaquePtr) _
    unfold appSetopt
    split
    · exact (SocksSame.refl ctx).kept.fates
    · split
      · have hset : KeptAll ctx (ctx.setSock sockId.toNat
            { ctx.sock sockId.toNat with reuport := true }) := kept_setSock ⟨rfl, rfl, rfl, rfl⟩
        exact hset.fates.same (socks_appSubmit _ _ _ _)
      · exact (socks_appSubmit _ _ _ _).kept.fates
  | bind appId ctxId sockId localIp localPort opaquePtr => exact fates_appBind _ _ _ _ _ _
  | connect appId ctxId sockId remoteIp remotePort opaquePtr =>
    exact fates_appConnect _ _ _ _ _ _ (fun hp => ⟨rfl, hp⟩)
  | listen appId ctxId sockId backlog opaquePtr callocOk => exact fates_appListen _ _ _ _ _ _ (fun ht => ⟨rfl, ht⟩)
  | accept appId ctxId sockId opaquePtr => exact fates_appAccept _ _ _ _
  | shutdown sockId how => exact fates_appShutdown _ _ (fun hh => ⟨rfl, hh⟩)
  | close sockId => exact fates_appClose h _
  | segment p core => exact fates_ctlRx h p core
  | timeout entry =>
    show Fates ctx (slowNext ctx (.timeout entry))
      (fun i => ctx.tomgr.entries entry = some i ∧ (ctx.tcpSockMeta i).retxKind ≠ .none)
    unfold slowNext
    dsimp only
    cases he : ctx.tomgr.entries entry with
    | none => exact (SocksSame.refl ctx).kept.fates
    | some sid =>
      dsimp only
      split
      · exact fates_tcpTimeoutFire entry sid (fun hk => ⟨rfl, hk⟩)
      · exact (SocksSame.refl ctx).kept.fates
  | fastRx env => cases hs
  | fastDeq env => cases hs
  | fastSched env => cases hs
  | drain q => cases hs

/-- The event opens socket `i`. -/
def opensNow (ctx : TcpSlowCtx) (i : Nat) (act : SlowAct) : Bool :=
  !isOpen (ctx.sock i).state && isOpen ((slowNext ctx act).sock i).state

theorem opensNow_of_same {ctx : TcpSlowCtx} {i : Nat} {act : SlowAct}
    (h : ((slowNext ctx act).sock i).state = (ctx.sock i).state) : opensNow ctx i act = false := by
  unfold opensNow
  rw [h]
  cases isOpen (ctx.sock i).state
  · rfl
  · rfl

/-- A bump from the application leaves every state alone. -/
theorem fastDeq_state (ctx : TcpSlowCtx) (env : TcpCtx) (i : Nat) :
    ((slowNext ctx (.fastDeq env)).sock i).state = (ctx.sock i).state := by
  rcases fastDeq_cases ctx env with hs | ⟨sockId, txPort, txIp, txAvail, -, hr⟩
  · exact key_state (hs.key i)
  · -- A transmit bump changes the remote address only.
    have hk := hr.key i
    split at hk
    · next hi =>
      rw [hi] at hk ⊢
      exact congrArg SockKey.state hk
    · exact congrArg SockKey.state hk

/-- The other events leave every state alone. -/
theorem fast_state (ctx : TcpSlowCtx) {act : SlowAct} (h : act.isSlow = false) (i : Nat) :
    ((slowNext ctx act).sock i).state = (ctx.sock i).state := by
  cases act with
  | fastRx env => exact key_state ((same_fastRx ctx env).key i)
  | fastDeq env => exact fastDeq_state ctx env i
  | fastSched env => exact key_state ((same_fastSched ctx env).key i)
  | drain q => exact key_state ((same_drain ctx q).key i)
  | _ => cases h

end Chamelio.Tcp
