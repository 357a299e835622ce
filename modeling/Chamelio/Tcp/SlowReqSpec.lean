import Chamelio.Tcp.SlowSteps

/-!
# Requests that name an address, and the fast path

`socket`, `bind`, `connect` and `listen` change the key of the socket they
name, its reservation, or its slot; each is described by what it does to
the tables. The handlers of the fast path are `Same`, a transmit bump with
an address apart.
-/

namespace Chamelio.Tcp

open Chamelio.Lib Chamelio.Util Chamelio.Pkt Chamelio.Fast

/-! ## Reservations -/

/-- A port `tcp_bound_find_free` returns is nobody's. -/
theorem tcpBoundFindFree_spec {ctx : TcpSlowCtx} (h : tcpBoundFindFree ctx ≠ 0) :
    (ctx.boundPorts (tcpBoundFindFree ctx).toNat).nsocks = 0 ∧
      (tcpBoundFindFree ctx).toNat ≤ maxPort := by
  unfold tcpBoundFindFree at h ⊢
  split at h
  · exact absurd rfl h
  · next port hp =>
    have hmem := List.mem_range'_1.mp (List.mem_of_find?_eq_some hp)
    have hfree := List.find?_some hp
    have hlt : port ≤ maxPort := by
      unfold minPort maxPort at hmem
      unfold maxPort
      omega
    have hnat : (UInt16.ofNat port).toNat = port := by
      unfold maxPort at hlt
      rw [UInt16.toNat_ofNat']
      omega
    rw [hnat]
    exact ⟨eq_of_beq hfree, hlt⟩

/-- With no port left, every port has a socket. -/
theorem tcpBoundFindFree_zero {ctx : TcpSlowCtx} (h : tcpBoundFindFree ctx = 0) {p : Nat}
    (hmin : minPort ≤ p) (hmax : p ≤ maxPort) : (ctx.boundPorts p).nsocks ≠ 0 := by
  unfold tcpBoundFindFree at h
  split at h
  · next hnone =>
    have hmem : p ∈ List.range' minPort (maxPort + 1 - minPort) := by
      rw [List.mem_range'_1]
      omega
    intro hz
    have := List.find?_eq_none.mp hnone p hmem
    rw [hz] at this
    exact this rfl
  · next port hp =>
    have hmem := List.mem_range'_1.mp (List.mem_of_find?_eq_some hp)
    have hz := congrArg UInt16.toNat h
    rw [UInt16.toNat_ofNat'] at hz
    change port % _ = 0 at hz
    unfold minPort maxPort at hmem
    omega

/-- A socket that was given a port. -/
structure AutoBound (ctx ctx' : TcpSlowCtx) (sid : Nat) (port : UInt16) : Prop where
  key : ∀ i, (ctx'.sock i).key =
    if i = sid then { (ctx.sock sid).key with localPort := port } else (ctx.sock i).key
  buckets : ctx'.maps.buckets = ctx.maps.buckets
  sockNelems : ctx'.maps.sockNelems = ctx.maps.sockNelems
  buckNelems : ctx'.maps.buckNelems = ctx.maps.buckNelems
  nSocks : ctx'.nSocks = ctx.nSocks
  localIp : ctx'.localIp = ctx.localIp
  port_ne : port ≠ 0
  port_le : port.toNat ≤ maxPort
  free : (ctx.boundPorts port.toNat).nsocks = 0
  bound : (ctx'.boundPorts port.toNat).nsocks = 1 ∧
    (ctx'.boundPorts port.toNat).sids 0 = (ctx.sock sid).id
  others : ∀ p, p ≠ port.toNat → ctx'.boundPorts p = ctx.boundPorts p
  autoBound : ∀ i, (ctx'.sockMeta i).autoBound =
    if i = (ctx.sock sid).id.toNat then true else (ctx.sockMeta i).autoBound
  kind : ∀ i, (ctx'.sockMeta i).retxKind = (ctx.sockMeta i).retxKind
  listenerId : ∀ i, (ctx'.sockMeta i).listenerId = (ctx.sockMeta i).listenerId
  listeners : ctx'.listeners = ctx.listeners

theorem sockAutobindPort_cases (ctx : TcpSlowCtx) (sid : Nat) :
    (tcpBoundFindFree ctx = 0 ∧ sockAutobindPort ctx sid = (ctx, false)) ∨
    ((sockAutobindPort ctx sid).2 = true ∧
      AutoBound ctx (sockAutobindPort ctx sid).1 sid (tcpBoundFindFree ctx)) := by
  unfold sockAutobindPort
  dsimp only
  by_cases hz : tcpBoundFindFree ctx = 0
  · rw [if_pos hz]
    exact .inl ⟨hz, rfl⟩
  · obtain ⟨hfree, hle⟩ := tcpBoundFindFree_spec hz
    rw [if_neg hz]
    generalize tcpBoundFindFree ctx = port at hz hfree hle ⊢
    unfold tcpBoundInsert portInsert
    rw [if_pos hfree]
    dsimp only [Option.map_some]
    refine .inr ⟨rfl, ?_, rfl, rfl, rfl, rfl, rfl, hz, hle, hfree, ?_, ?_, ?_, ?_, ?_, rfl⟩
    · intro i
      by_cases hi : i = sid
      · rw [if_pos hi, hi, TcpSlowCtx.sock_setSock]
        rfl
      · rw [if_neg hi, TcpSlowCtx.sock_setSock_ne _ _ hi]
        rfl
    · show (if port.toNat = port.toNat then _ else _ : TcpPort).nsocks = 1 ∧
        (if port.toNat = port.toNat then _ else _ : TcpPort).sids 0 = _
      rw [if_pos rfl]
      exact ⟨rfl, rfl⟩
    · intro p hp
      exact if_neg hp
    · intro i
      show SockMeta.autoBound (if i = (ctx.sock sid).id.toNat then _ else ctx.sockMeta i) = _
      split
      · rfl
      · rfl
    · intro i
      show SockMeta.retxKind (if i = (ctx.sock sid).id.toNat then _ else ctx.sockMeta i) = _
      split
      · next hi => rw [hi]; rfl
      · rfl
    · intro i
      show SockMeta.listenerId (if i = (ctx.sock sid).id.toNat then _ else ctx.sockMeta i) = _
      split
      · next hi => rw [hi]; rfl
      · rfl

/-- The port a socket has after `bindPort`; `0`: none was left. -/
def reservedPort (ctx : TcpSlowCtx) (sid : Nat) : UInt16 :=
  if (ctx.sock sid).localPort = 0 then tcpBoundFindFree ctx else (ctx.sock sid).localPort

/-- A socket keeps its port, finds none, or is given one. -/
theorem bindPort_cases (ctx : TcpSlowCtx) (sid : Nat) :
    ((ctx.sock sid).localPort ≠ 0 ∧ bindPort ctx sid = (ctx, true)) ∨
    ((ctx.sock sid).localPort = 0 ∧ reservedPort ctx sid = 0 ∧ bindPort ctx sid = (ctx, false)) ∨
    ((ctx.sock sid).localPort = 0 ∧ (bindPort ctx sid).2 = true ∧
      AutoBound ctx (bindPort ctx sid).1 sid (reservedPort ctx sid)) := by
  unfold bindPort reservedPort
  by_cases hp : (ctx.sock sid).localPort = 0
  · rw [if_pos hp, if_pos hp]
    rcases sockAutobindPort_cases ctx sid with ⟨hz, he⟩ | ⟨hok, ha⟩
    · exact .inr (.inl ⟨hp, hz, he⟩)
    · exact .inr (.inr ⟨hp, hok, ha⟩)
  · rw [if_neg hp]
    exact .inl ⟨hp, rfl⟩

/-- The local address after `bindIp`. -/
def boundIp (ctx : TcpSlowCtx) (sid : Nat) : UInt32 :=
  if (ctx.sock sid).localIp = 0 then ctx.localIp else (ctx.sock sid).localIp

theorem rekeyed_self (ctx : TcpSlowCtx) (sid : Nat) : Rekeyed ctx ctx sid (ctx.sock sid).key := by
  refine ⟨?_, rfl, rfl, rfl, rfl, rfl, rfl, rfl, rfl⟩
  intro i
  split
  · next hi => rw [hi]
  · rfl

theorem rekeyed_bindIp (ctx : TcpSlowCtx) (sid : Nat) :
    Rekeyed ctx (bindIp ctx sid) sid { (ctx.sock sid).key with localIp := boundIp ctx sid } := by
  unfold bindIp boundIp
  by_cases hz : (ctx.sock sid).localIp = 0
  · rw [if_pos hz, if_pos hz]
    exact rekeyed_setSock ctx sid _
  · rw [if_neg hz, if_neg hz]
    exact rekeyed_self ctx sid

/-- Rewriting a key twice. -/
theorem Rekeyed.trans {a b c : TcpSlowCtx} {sid : Nat} {k k' : SockKey} (h₁ : Rekeyed a b sid k)
    (h₂ : Rekeyed b c sid k') : Rekeyed a c sid k' := by
  refine ⟨?_, h₂.buckets.trans h₁.buckets, h₂.sockNelems.trans h₁.sockNelems,
    h₂.buckNelems.trans h₁.buckNelems, h₂.nSocks.trans h₁.nSocks, h₂.localIp.trans h₁.localIp,
    h₂.boundPorts.trans h₁.boundPorts, h₂.sockMeta.trans h₁.sockMeta,
    h₂.listeners.trans h₁.listeners⟩
  intro i
  rw [h₂.key]
  split
  · rfl
  · next hi => rw [h₁.key, if_neg hi]

theorem Rekeyed.at {a b : TcpSlowCtx} {sid : Nat} {k : SockKey} (h : Rekeyed a b sid k) :
    (b.sock sid).key = k := by
  rw [h.key, if_pos rfl]

theorem AutoBound.at {a b : TcpSlowCtx} {sid : Nat} {port : UInt16}
    (h : AutoBound a b sid port) :
    (b.sock sid).key = { (a.sock sid).key with localPort := port } := by
  rw [h.key, if_pos rfl]

theorem AutoBound.base {a b : TcpSlowCtx} {sid : Nat} {port : UInt16}
    (h : AutoBound a b sid port) (hb : Base a) : Base b := by
  have hid : ∀ i, (b.sock i).id = (a.sock i).id ∧ (b.sock i).state = (a.sock i).state := by
    intro i
    by_cases hi : i = sid
    · rw [hi]
      exact ⟨congrArg SockKey.id h.at, congrArg SockKey.state h.at⟩
    · have hk := (h.key i).trans (if_neg hi)
      exact ⟨key_id hk, key_state hk⟩
  refine hb.keep h.nSocks (fun i _ => (hid i).1) (fun i _ => (hid i).2) ?_ ?_
  · intro i
    refine .inr (.inl ⟨h.kind i, ?_⟩)
    rw [(hid i).2]
    exact fun hc => hc
  · intro k i
    rw [h.buckets]
    exact .inr (.inl rfl)

/-! ## Bind -/

/-- What `bindPort` can leave when it succeeds. -/
def PortKept (ctx ctx' : TcpSlowCtx) (sid : Nat) : Prop :=
  ((ctx.sock sid).localPort ≠ 0 ∧ ctx' = ctx) ∨
    ((ctx.sock sid).localPort = 0 ∧ AutoBound ctx ctx' sid (reservedPort ctx sid))

theorem PortKept.at {a b : TcpSlowCtx} {sid : Nat} (h : PortKept a b sid) :
    (b.sock sid).key = { (a.sock sid).key with localPort := reservedPort a sid } := by
  rcases h with ⟨hp, rfl⟩ | ⟨-, ha⟩
  · unfold reservedPort
    rw [if_neg hp]
    rfl
  · exact ha.at

theorem PortKept.port_ne {a b : TcpSlowCtx} {sid : Nat} (h : PortKept a b sid) :
    reservedPort a sid ≠ 0 := by
  rcases h with ⟨hp, -⟩ | ⟨-, ha⟩
  · unfold reservedPort
    rw [if_neg hp]
    exact hp
  · exact ha.port_ne

theorem PortKept.nSocks {a b : TcpSlowCtx} {sid : Nat} (h : PortKept a b sid) :
    b.nSocks = a.nSocks := by
  rcases h with ⟨-, rfl⟩ | ⟨-, ha⟩
  · rfl
  · exact ha.nSocks

theorem PortKept.base {a b : TcpSlowCtx} {sid : Nat} (h : PortKept a b sid) (hb : Base a) :
    Base b := by
  rcases h with ⟨-, rfl⟩ | ⟨-, ha⟩
  · exact hb
  · exact ha.base hb

theorem bindPort_kept {ctx : TcpSlowCtx} {sid : Nat} :
    ((bindPort ctx sid).2 = true ∧ PortKept ctx (bindPort ctx sid).1 sid) ∨
      (reservedPort ctx sid = 0 ∧ bindPort ctx sid = (ctx, false)) := by
  rcases bindPort_cases ctx sid with ⟨hp, he⟩ | ⟨-, hz, he⟩ | ⟨hp, hok, ha⟩
  · rw [he]
    exact .inl ⟨rfl, .inl ⟨hp, rfl⟩⟩
  · exact .inr ⟨hz, he⟩
  · exact .inl ⟨hok, .inr ⟨hp, ha⟩⟩

/-- The request is one `app_bind` acts on. -/
def BindTaken (ctx : TcpSlowCtx) (appId ctxId : UInt8) (sid : Nat) (localPort : UInt16) : Prop :=
  (ctx.slowAppQs appId ctxId).hasRoom = true ∧ sid < ctx.nSocks ∧ isPortValid localPort = true

/-- A bind is refused, or finds no port and still fills in the address, or
the socket has the address and port of the request, whatever port was
reserved for it. -/
theorem appBind_cases (ctx : TcpSlowCtx) (appId ctxId : UInt8) (sid : Nat) (localIp : UInt32)
    (localPort : UInt16) (opaquePtr : UInt64) :
    Same ctx (appBind ctx appId ctxId sid localIp localPort opaquePtr) ∨
    (BindTaken ctx appId ctxId sid localPort ∧ reservedPort ctx sid = 0 ∧
      Same (bindIp ctx sid) (appBind ctx appId ctxId sid localIp localPort opaquePtr)) ∨
    (BindTaken ctx appId ctxId sid localPort ∧ ∃ c c', PortKept ctx c sid ∧
      Rekeyed c c' sid { (ctx.sock sid).key with localIp, localPort } ∧
      Same c' (appBind ctx appId ctxId sid localIp localPort opaquePtr)) := by
  unfold appBind
  split
  · exact .inl (Same.refl ctx)
  · next hroom =>
    split
    · next hv =>
      have htaken : BindTaken ctx appId ctxId sid localPort :=
        ⟨by simpa using hroom, hv.1, hv.2⟩
      rcases @bindPort_kept ctx sid with ⟨hok, hk⟩ | ⟨hz, he⟩
      · generalize bindPort ctx sid = r at hok hk ⊢
        obtain ⟨c, ok⟩ := r
        dsimp only at hok hk
        rw [hok]
        dsimp only
        refine .inr (.inr ⟨htaken, c, _, hk, ?_, same_appSubmit _ _ _ _⟩)
        have hr := (rekeyed_bindIp c sid).trans (rekeyed_setSock (bindIp c sid) sid
          { (bindIp c sid).sock sid with localIp, localPort })
        have hkey : ({ (bindIp c sid).sock sid with localIp, localPort } : TcpSock).key =
            { (ctx.sock sid).key with localIp, localPort } := by
          have h₁ := (rekeyed_bindIp c sid).at
          rw [hk.at] at h₁
          show { ((bindIp c sid).sock sid).key with localIp, localPort } = _
          rw [h₁]
        rw [hkey] at hr
        exact hr
      · rw [he]
        exact .inr (.inl ⟨htaken, hz, same_appSubmit _ _ _ _⟩)
    · exact .inl (same_appSubmit _ _ _ _)

/-! ## Connect -/

/-- The key a connecting socket gets. -/
def connectKey (ctx : TcpSlowCtx) (sid : Nat) (remoteIp : UInt32) (remotePort : UInt16) :
    SockKey :=
  { (ctx.sock sid).key with
    state := .synSent, localIp := boundIp ctx sid, localPort := reservedPort ctx sid
    remoteIp, remotePort }

/-- The request is one `app_connect` acts on. -/
def ConnectTaken (ctx : TcpSlowCtx) (sid : Nat) (remotePort : UInt16) : Prop :=
  sid < ctx.nSocks ∧ remotePort ≠ 0 ∧ (ctx.sock sid).state ≠ .listen ∧ reservedPort ctx sid ≠ 0

/-- A flow in its slot. -/
theorem Base.inserted {c d : TcpSlowCtx} {sid : Nat} (h : Base c) (hlt : sid < c.nSocks)
    (hd : tcpFlowInsert c sid = some d) : Base d := by
  obtain ⟨s, -, -, hde⟩ := tcpFlowInsert_eq_some hd
  have hsock : ∀ i, d.sock i = c.sock i := by
    intro i
    rw [hde]
    rfl
  refine h.keep (by rw [hde]; rfl) (fun i _ => by rw [hsock]) (fun i _ => by rw [hsock]) ?_ ?_
  · intro i
    rw [hsock, hde]
    exact .inr (.inl ⟨rfl, fun hc => hc⟩)
  · intro k i
    rw [hde]
    show (if _ then _ else _) = _ ∨ (if _ then _ else _) = _ ∨
      (if _ then _ else _ : UInt32).toNat < _
    split
    · rw [h.toNat_id hlt]
      exact .inr (.inr hlt)
    · exact .inr (.inl rfl)

/-- After the flow is inserted: a send, a timer, and a failure of either. -/
theorem steps_connect_rest {c : TcpSlowCtx} {sid : Nat} (h : Base c) (hlt : sid < c.nSocks)
    (hst : (c.sock sid).state = .synSent) (flags : UInt16) (err₁ err₂ : Nat) :
    Steps c
      (let (ctx, ok) := tcpCtlTx c sid flags
       if !ok then tcpSockConnectFail ctx sid err₁
       else
         let (ctx, ok) := tcpTimeoutArm ctx sid .syn
         if !ok then tcpSockConnectFail ctx sid err₂ else ctx) := by
  have hs := same_tcpCtlTx c sid flags
  generalize tcpCtlTx c sid flags = r at hs ⊢
  obtain ⟨c₁, ok⟩ := r
  dsimp only at hs ⊢
  have hlt₁ : sid < c₁.nSocks := by rw [hs.nSocks]; exact hlt
  have hlive : (c₁.sock sid).state ≠ .closed := by
    rw [key_state (hs.key sid), hst]
    exact SockState.noConfusion
  split
  · exact hs.steps.tail (.fail hlt₁ hlive (tcpSockConnectFail_failed c₁ sid _))
  · have hs₂ := (h.same hs.toSameCore).arm hlt₁ hlive .syn
    generalize tcpTimeoutArm c₁ sid .syn = r at hs₂ ⊢
    obtain ⟨c₂, ok₂⟩ := r
    dsimp only at hs₂ ⊢
    have hlt₂ : sid < c₂.nSocks := by rw [hs₂.nSocks]; exact hlt₁
    split
    · refine (hs.trans hs₂).steps.tail (.fail hlt₂ ?_ (tcpSockConnectFail_failed c₂ sid _))
      rw [key_state (hs₂.key sid)]
      exact hlive
    · exact (hs.trans hs₂).steps

/-- A connect is refused; or the socket takes its new key and fails for want
of a slot; or it takes a slot, and what follows are transitions. -/
theorem appConnect_cases {ctx : TcpSlowCtx} (h : Base ctx) (appId ctxId : UInt8) (sid : Nat)
    (remoteIp : UInt32) (remotePort : UInt16) (opaquePtr : UInt64) :
    Same ctx (appConnect ctx appId ctxId sid remoteIp remotePort opaquePtr) ∨
    (ConnectTaken ctx sid remotePort ∧ ∃ c c', PortKept ctx c sid ∧
      Rekeyed c c' sid (connectKey ctx sid remoteIp remotePort) ∧
      (Failed c' (appConnect ctx appId ctxId sid remoteIp remotePort opaquePtr) sid ∨
        ∃ d, tcpFlowInsert c' sid = some d ∧
          Steps d (appConnect ctx appId ctxId sid remoteIp remotePort opaquePtr))) := by
  unfold appConnect
  split
  · exact .inl (same_appSubmit _ _ _ _)
  · next hreq =>
    have hlt : sid < ctx.nSocks := by omega
    have hrp : remotePort ≠ 0 := fun hz => hreq (.inr hz)
    split
    · exact .inl (same_appSubmit _ _ _ _)
    · next hst =>
      rcases @bindPort_kept ctx sid with ⟨hok, hk⟩ | ⟨hz, he⟩
      · generalize bindPort ctx sid = r at hok hk ⊢
        obtain ⟨c, ok⟩ := r
        dsimp only at hok hk
        rw [hok]
        dsimp only
        have hr := (rekeyed_bindIp c sid).trans (rekeyed_setSock (bindIp c sid) sid
          (connectSock (bindIp c sid) ((bindIp c sid).sock sid) remoteIp remotePort))
        have hkey : (connectSock (bindIp c sid) ((bindIp c sid).sock sid) remoteIp
            remotePort).key = connectKey ctx sid remoteIp remotePort := by
          have h₁ := (rekeyed_bindIp c sid).at
          rw [hk.at] at h₁
          have hip : boundIp c sid = boundIp ctx sid := by
            unfold boundIp
            rw [show (c.sock sid).localIp = (ctx.sock sid).localIp from
              congrArg SockKey.localIp hk.at]
            rcases hk with ⟨-, rfl⟩ | ⟨-, ha⟩
            · rfl
            · rw [ha.localIp]
          rw [hip] at h₁
          show { ((bindIp c sid).sock sid).key with
            remoteIp, remotePort, state := .synSent } = _
          rw [h₁]
          rfl
        rw [hkey] at hr
        unfold sockConnectStart
        dsimp only
        generalize (bindIp c sid).setSock sid _ = c' at hr ⊢
        refine .inr ⟨⟨hlt, hrp, hst, hk.port_ne⟩, c, c', hk, hr, ?_⟩
        have hlt' : sid < c'.nSocks := by rw [hr.nSocks, hk.nSocks]; exact hlt
        have hb' : Base c' := (hk.base h).rekeyed hr
          (by rw [show (c.sock sid).id = (ctx.sock sid).id from congrArg SockKey.id hk.at]; rfl)
          nofun (fun hge => absurd hlt (by rw [← hk.nSocks]; omega))
        cases hd : tcpFlowInsert c' sid with
        | none => exact .inl (tcpSockConnectFail_failed c' sid _)
        | some d =>
          refine .inr ⟨d, rfl, ?_⟩
          obtain ⟨s, -, -, hde⟩ := tcpFlowInsert_eq_some hd
          have hsock : ∀ i, d.sock i = c'.sock i := by
            intro i
            rw [hde]
            rfl
          have hst' : (d.sock sid).state = .synSent := by
            rw [hsock]
            exact congrArg SockKey.state hr.at
          have hbd := hb'.inserted hlt' hd
          exact steps_connect_rest hbd (by rw [hde]; exact hlt') hst' _ _ _
      · rw [he]
        exact .inl (same_appSubmit _ _ _ _)

/-! ## Listen, socket and options -/

/-- The request is one `app_listen` acts on. -/
def ListenTaken (ctx : TcpSlowCtx) (sid : Nat) (callocOk : Bool) : Prop :=
  sid < ctx.nSocks ∧ (ctx.sock sid).localPort ≠ 0 ∧
    (tcpListenerInsert ctx (ctx.sock sid).localPort (ctx.sock sid).id
      (ctx.sock sid).reuport).isSome ∧
    ((ctx.listeners (ctx.sock sid).id.toNat).active = true ∨ callocOk = true)

instance (ctx : TcpSlowCtx) (sid : Nat) (callocOk : Bool) :
    Decidable (ListenTaken ctx sid callocOk) :=
  inferInstanceAs (Decidable (_ ∧ _ ∧ _ ∧ _))

theorem same_tcpListenerInsert {ctx c : TcpSlowCtx} {port : UInt16} {sockId : UInt32}
    {reuseport : Bool} (h : tcpListenerInsert ctx port sockId reuseport = some c) :
    Same ctx c := by
  unfold tcpListenerInsert at h
  rw [Option.map_eq_some_iff] at h
  obtain ⟨p, -, rfl⟩ := h
  exact Same.of_fields rfl rfl rfl rfl rfl rfl

/-- A listen is refused, or opens the listener and puts the socket in its
state. -/
theorem appListen_cases (ctx : TcpSlowCtx) (appId ctxId : UInt8) (sid : Nat) (backlog : UInt32)
    (opaquePtr : UInt64) (callocOk : Bool) :
    Same ctx (appListen ctx appId ctxId sid backlog opaquePtr callocOk) ∨
    (ListenTaken ctx sid callocOk ∧ ∃ c c', Same ctx c ∧
      Rekeyed (c.setListener (ctx.sock sid).id.toNat
        (listenerOpen (ctx.listeners (ctx.sock sid).id.toNat) backlog)) c' sid
        { (ctx.sock sid).key with state := .listen } ∧
      Same c' (appListen ctx appId ctxId sid backlog opaquePtr callocOk)) := by
  unfold appListen
  split
  · exact .inl (same_appSubmit _ _ _ _)
  · next hlt =>
    dsimp only
    split
    · exact .inl (same_appSubmit _ _ _ _)
    · next hport =>
      cases hins : tcpListenerInsert ctx (ctx.sock sid).localPort (ctx.sock sid).id
          (ctx.sock sid).reuport with
      | none => exact .inl (same_appSubmit _ _ _ _)
      | some c =>
        have hs := same_tcpListenerInsert hins
        dsimp only
        split
        · exact .inl (hs.trans ((same_tcpListenerRemove c _ _).trans (same_appSubmit _ _ _ _)))
        · next hcalloc =>
          rw [hs.listeners] at hcalloc ⊢
          refine .inr ⟨⟨by omega, hport, by rw [hins]; rfl, ?_⟩, c, _, hs, ?_,
            same_appSubmit _ _ _ _⟩
          · cases hact : (ctx.listeners (ctx.sock sid).id.toNat).active with
            | true => exact .inl rfl
            | false =>
              refine .inr ?_
              rw [hact] at hcalloc
              cases callocOk with
              | true => rfl
              | false => exact absurd ⟨rfl, rfl⟩ hcalloc
          · rw [← hs.key sid]
            exact rekeyed_setSock _ sid _

theorem appNewSock_cases (ctx : TcpSlowCtx) (appId ctxId : UInt8) (opaquePtr : UInt64) :
    Unallocated ctx (appNewSock ctx appId ctxId opaquePtr) ∨
      ∃ c, Allocated ctx c ∧ Same c (appNewSock ctx appId ctxId opaquePtr) ∧
        (appNewSock ctx appId ctxId opaquePtr).sockMeta = c.sockMeta := by
  unfold appNewSock
  have h := tcpSockAlloc_cases ctx opaquePtr appId ctxId (ctx.appBumpQids appId ctxId 0)
  generalize tcpSockAlloc ctx opaquePtr appId ctxId _ = r at h ⊢
  obtain ⟨c, sid⟩ := r
  rcases h with ⟨hsid, hu⟩ | ⟨hsid, ha⟩
  · dsimp only at hsid hu
    rw [hsid]
    exact .inl hu
  · dsimp only at hsid ha
    rw [hsid]
    exact .inr ⟨c, ha, same_appSubmit _ _ _ _, appSubmit_sockMeta _ _ _ _⟩

theorem same_appSetopt (ctx : TcpSlowCtx) (appId ctxId : UInt8) (sid : Nat) (opt : UInt8)
    (opaquePtr : UInt64) : Same ctx (appSetopt ctx appId ctxId sid opt opaquePtr) := by
  unfold appSetopt
  split
  · exact Same.refl ctx
  · split
    · have hs : Same ctx (ctx.setSock sid { ctx.sock sid with reuport := true }) :=
        same_setSock ctx rfl
      exact hs.trans (same_appSubmit _ _ _ _)
    · exact same_appSubmit _ _ _ _

/-! ## The fast path -/

/-- The maps as a handler of the fast path left them. -/
theorem SameKeys.same_withFast {env fast : TcpCtx} {ctx : TcpSlowCtx}
    (h : SameKeys (fastWith env ctx) fast) : Same ctx (ctx.withFast fast) :=
  ⟨⟨h.key, h.buckets, h.sockNelems, h.buckNelems, rfl, rfl, rfl, fun _ => rfl, fun _ => .inl rfl⟩,
    rfl, fun _ => rfl⟩

theorem same_fastRx (ctx : TcpSlowCtx) (env : TcpCtx) : Same ctx (slowNext ctx (.fastRx env)) :=
  (tcpEventRx_sameKeys _).same_withFast

theorem same_fastSched (ctx : TcpSlowCtx) (env : TcpCtx) :
    Same ctx (slowNext ctx (.fastSched env)) :=
  (tcpEventSched_sameKeys _).same_withFast

/-- Only the queues know that an entry was taken. -/
theorem same_drain (ctx : TcpSlowCtx) (q : SlowQ) : Same ctx (slowNext ctx (.drain q)) := by
  cases q with
  | pkt => exact .of_fields rfl rfl rfl rfl rfl rfl
  | sig => exact .of_fields rfl rfl rfl rfl rfl rfl
  | app appId ctxId => exact .of_fields rfl rfl rfl rfl rfl rfl

theorem drain_maps (ctx : TcpSlowCtx) (q : SlowQ) :
    (slowNext ctx (.drain q)).maps = ctx.maps := by
  cases q with
  | pkt => rfl
  | sig => rfl
  | app appId ctxId => rfl

theorem drain_sockMeta (ctx : TcpSlowCtx) (q : SlowQ) :
    (slowNext ctx (.drain q)).sockMeta = ctx.sockMeta := by
  cases q with
  | pkt => rfl
  | sig => rfl
  | app appId ctxId => rfl

theorem drain_tomgr (ctx : TcpSlowCtx) (q : SlowQ) :
    (slowNext ctx (.drain q)).tomgr = ctx.tomgr := by
  cases q with
  | pkt => rfl
  | sig => rfl
  | app appId ctxId => rfl

/-- A socket with the remote address of a transmit bump. -/
def bumpedKey (s : TcpSock) (txPort : UInt16) (txIp : UInt32) : SockKey :=
  { s.key with remoteIp := deqGetTxIp s txIp, remotePort := deqGetTxPort s txPort }

theorem fastDeq_cases (ctx : TcpSlowCtx) (env : TcpCtx) :
    Same ctx (slowNext ctx (.fastDeq env)) ∨
      ∃ sockId txPort txIp txAvail, env.qe = .bumpChamTx sockId txPort txIp txAvail ∧
        Rekeyed ctx (slowNext ctx (.fastDeq env)) sockId.toNat
          (bumpedKey (ctx.sock sockId.toNat) txPort txIp) := by
  rcases tcpEventDeq_keys (fastWith env ctx) with h | ⟨sockId, txPort, txIp, txAvail, hqe, -, h⟩
  · exact .inl h.same_withFast
  · refine .inr ⟨sockId, txPort, txIp, txAvail, hqe, ?_⟩
    refine ⟨?_, h.buckets, h.sockNelems, h.buckNelems, rfl, rfl, rfl, rfl, rfl⟩
    intro i
    refine (h.key i).trans ?_
    by_cases hi : i = sockId.toNat
    · rw [if_pos hi, hi, sockOf_setSock]
      rfl
    · rw [if_neg hi, sockOf_setSock_ne _ _ hi]
      rfl

/-! ## `Base` in every state -/

theorem Base.bound {a c c' : TcpSlowCtx} {sid : Nat} {k : SockKey} (h : Base a)
    (hk : PortKept a c sid) (hr : Rekeyed c c' sid k) (hlt : sid < a.nSocks)
    (hid : k.id = (a.sock sid).id) (hst : k.state = .closed → (a.sock sid).state = .closed) :
    Base c' := by
  refine (hk.base h).rekeyed hr ?_ ?_ ?_
  · rw [hid]
    exact (congrArg SockKey.id hk.at).symm
  · intro hc
    exact (congrArg SockKey.state hk.at).trans (hst hc)
  · intro hge
    rw [hk.nSocks] at hge
    exact absurd hlt (Nat.not_lt_of_le hge)

/-- **Every event keeps `Base`.** -/
theorem Base.next {ctx : TcpSlowCtx} (h : Base ctx) (act : SlowAct) :
    Base (slowNext ctx act) := by
  cases act with
  | newSock appId ctxId opaquePtr =>
    rcases appNewSock_cases ctx appId ctxId opaquePtr with hu | ⟨c, ha, hs, -⟩
    · exact h.unalloc hu
    · exact (h.alloc ha).same hs.toSameCore
  | setopt appId ctxId sockId opt opaquePtr =>
    exact h.same (same_appSetopt ctx _ _ _ _ _).toSameCore
  | bind appId ctxId sockId localIp localPort opaquePtr =>
    rcases appBind_cases ctx appId ctxId sockId.toNat localIp localPort opaquePtr with
      hs | ⟨-, -, hs⟩ | ⟨htaken, c, c', hk, hr, hs⟩
    · exact h.same hs.toSameCore
    · refine Base.same ?_ hs.toSameCore
      exact h.rekeyed (rekeyed_bindIp ctx _) rfl (fun hc => hc) (fun _ => rfl)
    · exact (h.bound hk hr htaken.2.1 rfl (fun hc => hc)).same hs.toSameCore
  | connect appId ctxId sockId remoteIp remotePort opaquePtr =>
    rcases appConnect_cases h appId ctxId sockId.toNat remoteIp remotePort opaquePtr with
      hs | ⟨htaken, c, c', hk, hr, hf⟩
    · exact h.same hs.toSameCore
    · have hb' := h.bound hk hr htaken.1 rfl nofun
      have hlt' : sockId.toNat < c'.nSocks := by
        rw [hr.nSocks, hk.nSocks]
        exact htaken.1
      rcases hf with hf | ⟨d, hd, hsteps⟩
      · exact hb'.fail hlt' hf
      · exact (hb'.inserted hlt' hd).steps hsteps
  | listen appId ctxId sockId backlog opaquePtr callocOk =>
    rcases appListen_cases ctx appId ctxId sockId.toNat backlog opaquePtr callocOk with
      hs | ⟨htaken, c, c', hs, hr, hs'⟩
    · exact h.same hs.toSameCore
    · have hc := (h.same hs.toSameCore).same (core_setListener c (ctx.sock sockId.toNat).id.toNat
        (listenerOpen (ctx.listeners (ctx.sock sockId.toNat).id.toNat) backlog))
      refine Base.same (hc.rekeyed hr ?_ nofun ?_) hs'.toSameCore
      · exact (congrArg SockKey.id (hs.key sockId.toNat)).symm
      · intro hge
        rw [show (c.setListener _ _).nSocks = ctx.nSocks from hs.nSocks] at hge
        exact absurd htaken.1 (Nat.not_lt_of_le hge)
  | accept appId ctxId sockId opaquePtr => exact h.steps (steps_appAccept h _ _ _)
  | shutdown sockId how => exact h.steps (steps_appShutdown h _)
  | close sockId => exact h.steps (steps_appClose h)
  | segment p core => exact h.steps (steps_ctlRx h p core)
  | timeout entry => exact h.steps (steps_timeout h entry)
  | fastRx env => exact h.same (same_fastRx ctx env).toSameCore
  | fastDeq env =>
    rcases fastDeq_cases ctx env with hs | ⟨sockId, txPort, txIp, txAvail, -, hr⟩
    · exact h.same hs.toSameCore
    · exact h.rekeyed hr rfl (fun hc => hc) (fun _ => rfl)
  | fastSched env => exact h.same (same_fastSched ctx env).toSameCore
  | drain q => exact h.same (same_drain ctx q).toSameCore

end Chamelio.Tcp
