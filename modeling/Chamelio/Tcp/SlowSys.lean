import Chamelio.Lib.Run
import Chamelio.Tcp.FastKeys

/-!
# The slow path beside the fast path

Everything that happens to the TCP sockets, one event after the other: a
request of an application, a punted segment, a timer, one handler of the
fast path on the shared maps, or someone takes an entry the slow path queued.

Mirroring notes:
- An action of the fast path brings the rest of the fast path's context
  along (`env`): its packet, queues, scheduler and clock are whatever they
  are, only the maps are shared.
- The timeout manager is idealised: any live entry may expire at any time,
  whenever it was armed for and whatever else is due, and only live ones do.
  What `lib/utils/tomgr` itself does with its list and its clock is
  `Util.Tomgr`. The socket of an entry is one that was allocated.
- The entries of a queue are taken one at a time, by whoever reads it.

`Base` holds in every state whatever the applications ask for. The handlers
are cut into a few kinds of transition (`Prim`), so that an invariant of a
table is proved once per kind and not once per handler.
-/

namespace Chamelio.Tcp

open Chamelio.Lib Chamelio.Util Chamelio.Pkt Chamelio.Fast

/-- The queues the slow path fills. -/
inductive SlowQ
  /-- `slow_fast_pkt_q`, `slow_fast_sig_q`. -/
  | pkt
  | sig
  /-- The results for a context of an application. -/
  | app (appId ctxId : UInt8)
  deriving DecidableEq

/-- Events the tables of the slow path see. -/
inductive SlowAct
  | newSock (appId ctxId : UInt8) (opaquePtr : UInt64)
  | setopt (appId ctxId : UInt8) (sockId : UInt32) (opt : UInt8) (opaquePtr : UInt64)
  | bind (appId ctxId : UInt8) (sockId : UInt32) (localIp : UInt32) (localPort : UInt16)
    (opaquePtr : UInt64)
  | connect (appId ctxId : UInt8) (sockId : UInt32) (remoteIp : UInt32) (remotePort : UInt16)
    (opaquePtr : UInt64)
  | listen (appId ctxId : UInt8) (sockId backlog : UInt32) (opaquePtr : UInt64) (callocOk : Bool)
  | accept (appId ctxId : UInt8) (sockId : UInt32) (opaquePtr : UInt64)
  | shutdown (sockId : UInt32) (how : Nat)
  | close (sockId : UInt32)
  | segment (p : Nat → UInt8) (core : UInt16)
  | timeout (entry : Nat)
  | fastRx (env : TcpCtx)
  | fastDeq (env : TcpCtx)
  | fastSched (env : TcpCtx)
  /-- The reader of a queue takes an entry. -/
  | drain (q : SlowQ)

/-- A fast-path context on the slow path's maps. -/
def fastWith (env : TcpCtx) (ctx : TcpSlowCtx) : TcpCtx := { env with maps := ctx.maps }

/-- The maps as a fast-path handler left them. -/
def TcpSlowCtx.withFast (ctx : TcpSlowCtx) (fast : TcpCtx) : TcpSlowCtx :=
  { ctx with maps := fast.maps }

/-- The oldest entry of the queue is gone, if it had one. -/
def drainQ (ctx : TcpSlowCtx) : SlowQ → TcpSlowCtx
  | .pkt => { ctx with slowFastPktQ := ctx.slowFastPktQ.pop }
  | .sig => { ctx with slowFastSigQ := ctx.slowFastSigQ.pop }
  | .app appId ctxId =>
    { ctx with
      slowAppQs := fun a c =>
        if a = appId ∧ c = ctxId then (ctx.slowAppQs a c).pop else ctx.slowAppQs a c }

def slowNext (ctx : TcpSlowCtx) : SlowAct → TcpSlowCtx
  | .newSock appId ctxId opaquePtr => appNewSock ctx appId ctxId opaquePtr
  | .setopt appId ctxId sockId opt opaquePtr =>
    appSetopt ctx appId ctxId sockId.toNat opt opaquePtr
  | .bind appId ctxId sockId localIp localPort opaquePtr =>
    appBind ctx appId ctxId sockId.toNat localIp localPort opaquePtr
  | .connect appId ctxId sockId remoteIp remotePort opaquePtr =>
    appConnect ctx appId ctxId sockId.toNat remoteIp remotePort opaquePtr
  | .listen appId ctxId sockId backlog opaquePtr callocOk =>
    appListen ctx appId ctxId sockId.toNat backlog opaquePtr callocOk
  | .accept appId ctxId sockId opaquePtr => appAccept ctx appId ctxId sockId.toNat opaquePtr
  | .shutdown sockId how => appShutdown ctx sockId.toNat how
  | .close sockId => appClose ctx sockId.toNat
  | .segment p core => ctlRx ctx p core
  | .timeout entry =>
    match ctx.tomgr.entries entry with
    | none => ctx
    | some sid => if sid < ctx.nSocks then tcpTimeoutFire ctx entry sid else ctx
  | .fastRx env => ctx.withFast (tcpEventRx (fastWith env ctx)).1
  | .fastDeq env => ctx.withFast (tcpEventDeq (fastWith env ctx)).1
  | .fastSched env => ctx.withFast (tcpEventSched (fastWith env ctx)).1
  | .drain q => drainQ ctx q

def slowStep (ctx : TcpSlowCtx) (act : SlowAct) : TcpSlowCtx × Unit := (slowNext ctx act, ())

/-- `tcp_init`: no sockets, empty tables. The queues, the clock and the
addresses are arbitrary. -/
structure SlowInit (ctx : TcpSlowCtx) : Prop where
  nSocks : ctx.nSocks = 0
  socks : ∀ i, ctx.sock i = TcpSock.zero
  sockNelems : ctx.maps.sockNelems = maxSockets
  buckets : ∀ h i, ctx.maps.buckets h i = idInvalid
  buckNelems : ctx.maps.buckNelems = tcpFlowBuckets.toNat
  boundPorts : ∀ p, (ctx.boundPorts p).nsocks = 0
  listeners : ∀ k, ctx.listeners k = listenerZero
  sockMeta : ∀ i, ctx.sockMeta i = closedMeta
  tomgr : ∀ e, ctx.tomgr.entries e = none

/-- A slow path right after `tcp_init`, with queues of 16 entries. -/
def freshSlow : TcpSlowCtx :=
  { maps :=
      { socks := fun _ => TcpSock.zero, sockNelems := maxSockets, buckets := fun _ _ => idInvalid
        buckNelems := tcpFlowBuckets.toNat, cfg := none }
    portMap := fun _ => { nsocks := 0, nextSock := 0, sids := fun _ => idInvalid }
    boundPorts := fun _ => { nsocks := 0, nextSock := 0, sids := fun _ => idInvalid }
    nSocks := 0
    sockMeta := fun _ => closedMeta
    listeners := fun _ => listenerZero
    localIp := 0x0a000001
    nFpCores := 1
    ccAlgorithm := .other
    ccConstRate := 0
    ccDctcpInit := 0
    slowFastPktQ := { items := [], nelems := 16 }
    slowFastSigQ := { items := [], nelems := 16 }
    slowAppQs := fun _ _ => { items := [], nelems := 16 }
    appBumpQids := fun _ _ _ => 0
    newQueues := fun i => some { elsize := 1, nelems := 4096, off := UInt64.ofNat (4096 * i) }
    newQueuesAsked := 0
    tomgr := { entries := fun _ => none }
    clk := { readings := fun _ => 0, reads := 0, tscToUs := id, cyclesPerUs := 1 } }

theorem freshSlow_init : SlowInit freshSlow :=
  ⟨rfl, fun _ => rfl, rfl, fun _ _ => rfl, rfl, fun _ => rfl, fun _ => rfl, fun _ => rfl,
    fun _ => rfl⟩

/-! ## What always holds -/

/-- Sockets sit at the index their id says, entries behind the last socket
are unused, timers belong to live sockets, flow slots name sockets. -/
structure Base (ctx : TcpSlowCtx) : Prop where
  room : ctx.nSocks ≤ maxSockets
  id : ∀ i, i < ctx.nSocks → (ctx.sock i).id = UInt32.ofNat i
  idle : ∀ i, ctx.nSocks ≤ i → (ctx.sock i).state = .closed ∨ (ctx.sock i).state = .init
  timer : ∀ i, ctx.nSocks ≤ i ∨ (ctx.sock i).state = .closed →
    (ctx.sockMeta i).retxKind = .none
  slot : ∀ h i, ctx.maps.buckets h i = idInvalid ∨
    ((ctx.maps.buckets h i).toNat < ctx.nSocks)

theorem SlowInit.base {ctx : TcpSlowCtx} (h : SlowInit ctx) : Base ctx := by
  refine ⟨?_, ?_, ?_, ?_, ?_⟩
  · rw [h.nSocks]
    exact Nat.zero_le _
  · intro i hi
    rw [h.nSocks] at hi
    exact absurd hi (Nat.not_lt_zero i)
  · intro i _
    rw [h.socks]
    exact .inl rfl
  · intro i _
    rw [h.sockMeta]
    rfl
  · intro k i
    exact .inl (h.buckets k i)

section ids

variable {ctx : TcpSlowCtx}

theorem toNat_ofNat_sock {i : Nat} (h : i < maxSockets) : (UInt32.ofNat i).toNat = i := by
  unfold maxSockets at h
  rw [UInt32.toNat_ofNat']
  omega

theorem Base.lt (h : Base ctx) {i : Nat} (hi : i < ctx.nSocks) : i < maxSockets :=
  Nat.lt_of_lt_of_le hi h.room

theorem Base.toNat_id (h : Base ctx) {i : Nat} (hi : i < ctx.nSocks) :
    (ctx.sock i).id.toNat = i := by
  rw [h.id i hi, toNat_ofNat_sock (h.lt hi)]

/-- The metadata of a socket is at its index. -/
theorem Base.meta_eq (h : Base ctx) {i : Nat} (hi : i < ctx.nSocks) :
    ctx.tcpSockMeta i = ctx.sockMeta i := by
  unfold TcpSlowCtx.tcpSockMeta
  rw [h.toNat_id hi]

theorem ofNat_ne_idInvalid {i : Nat} (h : i < maxSockets) : UInt32.ofNat i ≠ idInvalid := by
  intro he
  have := congrArg UInt32.toNat he
  rw [toNat_ofNat_sock h] at this
  unfold maxSockets at h
  rw [this] at h
  exact absurd h (by decide)

theorem ofNat_sock_inj {i j : Nat} (hi : i < maxSockets) (hj : j < maxSockets)
    (h : UInt32.ofNat i = UInt32.ofNat j) : i = j := by
  rw [← toNat_ofNat_sock hi, h, toNat_ofNat_sock hj]

/-- A socket in use, by its state. -/
theorem Base.lt_of_state (h : Base ctx) {i : Nat} (hc : (ctx.sock i).state ≠ .closed)
    (hi : (ctx.sock i).state ≠ .init) : i < ctx.nSocks := by
  apply Classical.byContradiction
  intro hlt
  rcases h.idle i (Nat.le_of_not_lt hlt) with hs | hs
  · exact hc hs
  · exact hi hs

end ids

/-! ## Kinds of transition -/

/-- One socket gets another key; its timer may have been stopped. -/
structure Rekeyed (ctx ctx' : TcpSlowCtx) (sid : Nat) (k : SockKey) : Prop where
  key : ∀ i, (ctx'.sock i).key = if i = sid then k else (ctx.sock i).key
  buckets : ctx'.maps.buckets = ctx.maps.buckets
  sockNelems : ctx'.maps.sockNelems = ctx.maps.sockNelems
  buckNelems : ctx'.maps.buckNelems = ctx.maps.buckNelems
  nSocks : ctx'.nSocks = ctx.nSocks
  localIp : ctx'.localIp = ctx.localIp
  boundPorts : ctx'.boundPorts = ctx.boundPorts
  sockMeta : ctx'.sockMeta = ctx.sockMeta
  listeners : ctx'.listeners = ctx.listeners

theorem rekeyed_setSock (ctx : TcpSlowCtx) (sid : Nat) (s : TcpSock) :
    Rekeyed ctx (ctx.setSock sid s) sid s.key := by
  refine ⟨?_, rfl, rfl, rfl, rfl, rfl, rfl, rfl, rfl⟩
  intro i
  by_cases hi : i = sid
  · rw [if_pos hi, hi, TcpSlowCtx.sock_setSock]
  · rw [if_neg hi, TcpSlowCtx.sock_setSock_ne _ _ hi]

/-- The states of a connection: a socket in one of them is to be found by
its 4-tuple. -/
def SockState.connected : SockState → Bool
  | .synSent | .synRecv | .acceptPending | .established | .finWait1 => true
  | _ => false

theorem SockState.connected_live {s : SockState} (h : s.connected = true) : s ≠ .closed := by
  intro he
  rw [he] at h
  cases h

/-- The bucket a socket's 4-tuple belongs to. -/
def SockKey.bucket (k : SockKey) : Nat := flowBucket k.localIp k.localPort k.remoteIp k.remotePort

/-- A port `tcp_listener_lookup` looks at. -/
def Listenable (port : UInt16) : Prop := port ≠ 0 ∧ port.toNat ≤ maxPort

/-- A new socket for a segment: in the flow table, or closed at once when
its bucket was full. -/
structure Spawned (ctx ctx' : TcpSlowCtx) (k : SockKey) : Prop where
  room : ctx.nSocks < maxSockets
  nSocks : ctx'.nSocks = ctx.nSocks + 1
  key : ∀ i, (ctx'.sock i).key = if i = ctx.nSocks then k else (ctx.sock i).key
  kid : k.id = UInt32.ofNat ctx.nSocks
  port : Listenable k.localPort
  sockNelems : ctx'.maps.sockNelems = ctx.maps.sockNelems
  buckNelems : ctx'.maps.buckNelems = ctx.maps.buckNelems
  localIp : ctx'.localIp = ctx.localIp
  boundPorts : ctx'.boundPorts = ctx.boundPorts
  autoBound : ∀ i, (ctx'.sockMeta i).autoBound =
    if i = ctx.nSocks then false else (ctx.sockMeta i).autoBound
  kind : ∀ i, (ctx'.sockMeta i).retxKind = (ctx.sockMeta i).retxKind
  flow : (k.state = .closed ∧ ctx'.maps.buckets = ctx.maps.buckets) ∨
    (k.state = .synRecv ∧
      tcpFlowLookup ctx k.localIp k.localPort k.remoteIp k.remotePort = none ∧
      ∃ s, s < tcpFlowBucketSlots ∧ ctx.maps.buckets k.bucket s = idInvalid ∧
        ctx'.maps.buckets = fun h i =>
          if h = k.bucket ∧ i = s then k.id else ctx.maps.buckets h i)

/-- What segments, timers, accepts, shutdowns and closes are made of. -/
inductive Prim : TcpSlowCtx → TcpSlowCtx → Prop
  | same {a b : TcpSlowCtx} (h : SameCore a b) : Prim a b
  | move {a b : TcpSlowCtx} {sid : Nat} {st : SockState} (hlt : sid < a.nSocks)
    (hfrom : (a.sock sid).state.connected = true) (hto : st.connected = true)
    (h : Rekeyed a b sid { (a.sock sid).key with state := st }) : Prim a b
  | close {a : TcpSlowCtx} {sid : Nat} (hlt : sid < a.nSocks) : Prim a (tcpSockCloseFinal a sid)
  | fail {a b : TcpSlowCtx} {sid : Nat} (hlt : sid < a.nSocks)
    (hlive : (a.sock sid).state ≠ .closed) (h : Failed a b sid) : Prim a b
  | unalloc {a b : TcpSlowCtx} (h : Unallocated a b) : Prim a b
  | spawn {a b : TcpSlowCtx} {k : SockKey} (h : Spawned a b k) : Prim a b

/-- Transitions one after the other. -/
inductive Steps : TcpSlowCtx → TcpSlowCtx → Prop
  | refl {a : TcpSlowCtx} : Steps a a
  | tail {a b c : TcpSlowCtx} (h : Steps a b) (p : Prim b c) : Steps a c

theorem Prim.steps {a b : TcpSlowCtx} (h : Prim a b) : Steps a b := Steps.refl.tail h

theorem Steps.trans {a b c : TcpSlowCtx} (h₁ : Steps a b) (h₂ : Steps b c) : Steps a c := by
  induction h₂ with
  | refl => exact h₁
  | tail _ p ih => exact ih.tail p

/-- What every transition keeps, every sequence keeps. -/
theorem Steps.inv {I : TcpSlowCtx → Prop} (hI : ∀ a b, I a → Prim a b → I b) {a b : TcpSlowCtx}
    (h : Steps a b) (ha : I a) : I b := by
  induction h with
  | refl => exact ha
  | tail _ p ih => exact hI _ _ ih p

/-! ## `Base` is kept -/

/-- The common shape: the same sockets, whose live ones may run timers. -/
theorem Base.keep {a b : TcpSlowCtx} (h : Base a) (hn : b.nSocks = a.nSocks)
    (hid : ∀ i, i < a.nSocks → (b.sock i).id = (a.sock i).id)
    (hidle : ∀ i, a.nSocks ≤ i → (b.sock i).state = (a.sock i).state)
    (hkind : ∀ i, (b.sockMeta i).retxKind = .none ∨
      ((b.sockMeta i).retxKind = (a.sockMeta i).retxKind ∧
        ((b.sock i).state = .closed → (a.sock i).state = .closed)) ∨
      (i < a.nSocks ∧ (b.sock i).state ≠ .closed))
    (hslot : ∀ k i, b.maps.buckets k i = idInvalid ∨ b.maps.buckets k i = a.maps.buckets k i ∨
      (b.maps.buckets k i).toNat < a.nSocks) : Base b := by
  refine ⟨?_, ?_, ?_, ?_, ?_⟩
  · rw [hn]
    exact h.room
  · intro i hi
    rw [hn] at hi
    rw [hid i hi, h.id i hi]
  · intro i hi
    rw [hn] at hi
    rw [hidle i hi]
    exact h.idle i hi
  · intro i hi
    rw [hn] at hi
    rcases hkind i with hk | ⟨hk, hcl⟩ | ⟨hlt, hlive⟩
    · exact hk
    · rw [hk]
      apply h.timer
      rcases hi with hi | hi
      · exact .inl hi
      · exact .inr (hcl hi)
    · rcases hi with hi | hi
      · exact absurd hlt (Nat.not_lt_of_le hi)
      · exact absurd hi hlive
  · intro k i
    rw [hn]
    rcases hslot k i with hs | hs | hs
    · exact .inl hs
    · rw [hs]
      exact h.slot k i
    · exact .inr hs

theorem Base.same {a b : TcpSlowCtx} (h : Base a) (hs : SameCore a b) : Base b := by
  have hst : ∀ i, (b.sock i).state = (a.sock i).state := fun i => key_state (hs.key i)
  refine h.keep hs.nSocks (fun i _ => key_id (hs.key i)) (fun i _ => hst i) ?_ ?_
  · intro i
    rcases hs.kind i with hk | hk | ⟨hlt, hlive⟩
    · refine .inr (.inl ⟨hk, ?_⟩)
      rw [hst]
      exact fun hc => hc
    · exact .inl hk
    · rw [← hst] at hlive
      exact .inr (.inr ⟨hlt, hlive⟩)
  · intro k i
    rw [hs.buckets]
    exact .inr (.inl rfl)

/-- A socket that gets another key keeps its id, and stays open; an unused
entry stays unused. -/
theorem Base.rekeyed {a b : TcpSlowCtx} {sid : Nat} {k : SockKey} (h : Base a)
    (hr : Rekeyed a b sid k) (hid : k.id = (a.sock sid).id)
    (hst : k.state = .closed → (a.sock sid).state = .closed)
    (hidle : a.nSocks ≤ sid → k.state = (a.sock sid).state) : Base b := by
  have hkey : ∀ i, i ≠ sid → (b.sock i).key = (a.sock i).key := by
    intro i hi
    rw [hr.key, if_neg hi]
  have hkey' : (b.sock sid).key = k := by
    rw [hr.key, if_pos rfl]
  refine h.keep hr.nSocks ?_ ?_ ?_ ?_
  · intro i _
    by_cases hi : i = sid
    · rw [hi]
      exact (congrArg SockKey.id hkey').trans hid
    · exact key_id (hkey i hi)
  · intro i hi
    by_cases hs : i = sid
    · rw [hs] at hi ⊢
      exact (congrArg SockKey.state hkey').trans (hidle hi)
    · exact key_state (hkey i hs)
  · intro i
    rw [hr.sockMeta]
    refine .inr (.inl ⟨rfl, ?_⟩)
    by_cases hi : i = sid
    · rw [hi]
      intro hc
      exact hst ((congrArg SockKey.state hkey').symm.trans hc)
    · rw [key_state (hkey i hi)]
      exact fun hc => hc
  · intro k i
    rw [hr.buckets]
    exact .inr (.inl rfl)

/-- Removing a flow empties one slot at most. -/
theorem tcpFlowRemove_slot (ctx : TcpSlowCtx) (sid h i : Nat) :
    (tcpFlowRemove ctx sid).maps.buckets h i = idInvalid ∨
      (tcpFlowRemove ctx sid).maps.buckets h i = ctx.maps.buckets h i := by
  unfold tcpFlowRemove
  dsimp only
  split
  · exact .inr rfl
  · unfold setBucket
    dsimp only
    split
    · exact .inl rfl
    · exact .inr rfl

theorem Base.close {a : TcpSlowCtx} {sid : Nat} (h : Base a) (hlt : sid < a.nSocks) :
    Base (tcpSockCloseFinal a sid) := by
  refine h.keep (tcpSockCloseFinal_nSocks a sid) ?_ ?_ ?_ ?_
  · intro i _
    rw [tcpSockCloseFinal_sock]
    split
    · next hi => rw [hi]; rfl
    · rfl
  · intro i hi
    rw [tcpSockCloseFinal_sock, if_neg (by omega)]
  · intro i
    rw [tcpSockCloseFinal_sockMeta, tcpSockCloseFinal_sock, h.toNat_id hlt]
    split
    · exact .inl rfl
    · exact .inr (.inl ⟨rfl, fun hc => hc⟩)
  · intro k i
    rw [tcpSockCloseFinal_buckets]
    rcases tcpFlowRemove_slot a sid k i with hs | hs
    · exact .inl hs
    · exact .inr (.inl hs)

theorem Base.fail {a b : TcpSlowCtx} {sid : Nat} (h : Base a) (hlt : sid < a.nSocks)
    (hf : Failed a b sid) : Base b := by
  have hkey : ∀ i, i ≠ sid → (b.sock i).key = (a.sock i).key := by
    intro i hi
    rw [hf.sock, if_neg hi]
  have hkey' := (hf.sock sid).trans (if_pos rfl)
  refine h.keep hf.nSocks ?_ ?_ ?_ ?_
  · intro i _
    by_cases hi : i = sid
    · rw [hi]
      refine (congrArg SockKey.id hkey').trans ?_
      unfold failedSock
      split
      · rfl
      · rfl
    · exact key_id (hkey i hi)
  · intro i hi
    exact key_state (hkey i (by omega))
  · intro i
    by_cases hi : i = sid
    · refine .inr (.inr ⟨hi ▸ hlt, ?_⟩)
      rw [hi, show (b.sock sid).state = .init from congrArg SockKey.state hkey']
      exact SockState.noConfusion
    · rcases hf.kind i with hk | hk | ⟨hl, hlive⟩
      · refine .inr (.inl ⟨hk, ?_⟩)
        rw [key_state (hkey i hi)]
        exact fun hc => hc
      · exact .inl hk
      · rw [← key_state (hkey i hi)] at hlive
        exact .inr (.inr ⟨hl, hlive⟩)
  · intro k i
    rw [hf.buckets]
    rcases tcpFlowRemove_slot a sid k i with hs | hs
    · exact .inl hs
    · exact .inr (.inl hs)

/-- Only the entry behind the last socket was written. -/
theorem SameOld.slot_lt {a b : TcpSlowCtx} (h : Base a) (hs : SameOld a b) (k i : Nat) :
    b.maps.buckets k i = idInvalid ∨ (b.maps.buckets k i).toNat < a.nSocks := by
  rw [hs.buckets]
  exact h.slot k i

theorem Base.unalloc {a b : TcpSlowCtx} (h : Base a) (hu : Unallocated a b) : Base b := by
  have hold := hu.toSameOld
  refine ⟨?_, ?_, ?_, ?_, ?_⟩
  · rw [hu.nSocks]
    exact h.room
  · intro i hi
    rw [hu.nSocks] at hi
    rw [hold.sock i (by omega), h.id i hi]
  · intro i hi
    rw [hu.nSocks] at hi
    by_cases hn : i = a.nSocks
    · rcases hu.entry with he | he
      · rw [hn]
        exact .inr he
      · rw [hn, he]
        exact h.idle _ (Nat.le_refl _)
    · rw [hold.sock i hn]
      exact h.idle i hi
  · intro i hi
    rw [hold.kind]
    rw [hu.nSocks] at hi
    by_cases hn : i = a.nSocks
    · exact h.timer i (.inl (by omega))
    · rw [hold.sock i hn] at hi
      exact h.timer i hi
  · intro k i
    rw [hu.nSocks]
    exact hold.slot_lt h k i

theorem Base.alloc {a b : TcpSlowCtx} (h : Base a) (ha : Allocated a b) : Base b := by
  have hold := ha.toSameOld
  refine ⟨?_, ?_, ?_, ?_, ?_⟩
  · rw [ha.nSocks]
    exact ha.room
  · intro i hi
    rw [ha.nSocks] at hi
    by_cases hn : i = a.nSocks
    · rw [hn]
      exact congrArg SockKey.id ha.key
    · rw [hold.sock i hn, h.id i (by omega)]
  · intro i hi
    rw [ha.nSocks] at hi
    rw [hold.sock i (by omega)]
    exact h.idle i (by omega)
  · intro i hi
    rw [hold.kind]
    rw [ha.nSocks] at hi
    by_cases hn : i = a.nSocks
    · exact h.timer i (.inl (by omega))
    · rw [hold.sock i hn] at hi
      refine h.timer i ?_
      rcases hi with hi | hi
      · exact .inl (by omega)
      · exact .inr hi
  · intro k i
    rw [ha.nSocks]
    rcases hold.slot_lt h k i with hs | hs
    · exact .inl hs
    · exact .inr (by omega)

theorem Base.spawn {a b : TcpSlowCtx} {k : SockKey} (h : Base a) (hs : Spawned a b k) :
    Base b := by
  have hkey : ∀ i, i ≠ a.nSocks → (b.sock i).key = (a.sock i).key := by
    intro i hi
    rw [hs.key, if_neg hi]
  refine ⟨?_, ?_, ?_, ?_, ?_⟩
  · rw [hs.nSocks]
    exact hs.room
  · intro i hi
    rw [hs.nSocks] at hi
    by_cases hn : i = a.nSocks
    · rw [hn]
      exact (congrArg SockKey.id ((hs.key _).trans (if_pos rfl))).trans hs.kid
    · rw [key_id (hkey i hn), h.id i (by omega)]
  · intro i hi
    rw [hs.nSocks] at hi
    rw [key_state (hkey i (by omega))]
    exact h.idle i (by omega)
  · intro i hi
    rw [hs.kind]
    rw [hs.nSocks] at hi
    by_cases hn : i = a.nSocks
    · exact h.timer i (.inl (by omega))
    · rw [key_state (hkey i hn)] at hi
      refine h.timer i ?_
      rcases hi with hi | hi
      · exact .inl (by omega)
      · exact .inr hi
  · intro c i
    rw [hs.nSocks]
    have hold : a.maps.buckets c i = idInvalid ∨ (a.maps.buckets c i).toNat < a.nSocks + 1 := by
      rcases h.slot c i with hi | hi
      · exact .inl hi
      · exact .inr (by omega)
    rcases hs.flow with ⟨-, hb⟩ | ⟨-, -, s, -, -, hb⟩
    · rw [hb]
      exact hold
    · rw [hb]
      dsimp only
      split
      · rw [hs.kid, toNat_ofNat_sock hs.room]
        exact .inr (by omega)
      · exact hold

theorem Base.prim {a b : TcpSlowCtx} (h : Base a) (hp : Prim a b) : Base b := by
  cases hp with
  | same hs => exact h.same hs
  | move hlt hfrom hto hr =>
    exact h.rekeyed hr rfl (fun hc => absurd hc (SockState.connected_live hto))
      (fun hge => absurd hlt (Nat.not_lt_of_le hge))
  | close hlt => exact h.close hlt
  | fail hlt _ hf => exact h.fail hlt hf
  | unalloc hu => exact h.unalloc hu
  | spawn hs => exact h.spawn hs

theorem Base.steps {a b : TcpSlowCtx} (h : Base a) (hs : Steps a b) : Base b :=
  hs.inv (fun _ _ ha hp => ha.prim hp) h

end Chamelio.Tcp
