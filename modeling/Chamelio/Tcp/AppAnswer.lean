import Mathlib.Data.List.Perm.Basic
import Chamelio.Tcp.LibClose
import Chamelio.Tcp.PortTable
import Chamelio.Tcp.RingNames

/-!
# The answer to a request (`tcp_app_req.c`, `tcp_app_res.c`)

A caller in the library waits until the answer to its request arrives. Each
handler submits one response of the request's type and with its `opaque`, and
one that fails takes nothing: no socket, no port, no listener, and no child
out of a ring. The exception is `app_new_sock`, which returns without a
response when `tcp_sock_alloc` fails.

A failed `app_listen` puts the socket into its port's list and takes it out
again, which needs a port that `tcp_listener_remove` looks at (`PortsLow`). A
failed `app_accept` runs through the ring: every cell it drops named no child
that waits (`RingBase`).
-/

namespace Chamelio.Tcp

open Chamelio.Lib Chamelio.Util Chamelio.Pkt Chamelio.Fast

/-! ## Ports in range -/

/-- The ports of the sockets are rows of the port tables. -/
def PortsLow (ctx : TcpSlowCtx) : Prop :=
  ∀ i, i < ctx.nSocks → (ctx.sock i).localPort.toNat ≤ maxPort

section low

variable {a b : TcpSlowCtx}

theorem PortsLow.keep (h : PortsLow a) (hn : b.nSocks = a.nSocks)
    (hport : ∀ i, i < a.nSocks → (b.sock i).localPort = (a.sock i).localPort ∨
      (b.sock i).localPort.toNat ≤ maxPort) : PortsLow b := by
  intro i hi
  rw [hn] at hi
  rcases hport i hi with he | hlow
  · rw [he]
    exact h i hi
  · exact hlow

theorem PortsLow.same (h : PortsLow a) (hs : SameCore a b) : PortsLow b :=
  h.keep hs.nSocks fun i _ => .inl (key_port (hs.key i))

theorem PortsLow.rekeyed {sid : Nat} {k : SockKey} (h : PortsLow a) (hr : Rekeyed a b sid k)
    (hk : k.localPort = (a.sock sid).localPort ∨ k.localPort.toNat ≤ maxPort) : PortsLow b := by
  refine h.keep hr.nSocks fun i _ => ?_
  by_cases hi : i = sid
  · rw [hi, show (b.sock sid).localPort = k.localPort from congrArg SockKey.localPort hr.at]
    exact hk
  · exact .inl (key_port ((hr.key i).trans (if_neg hi)))

theorem PortsLow.close {sid : Nat} (h : PortsLow a) : PortsLow (tcpSockCloseFinal a sid) := by
  refine h.keep (tcpSockCloseFinal_nSocks a sid) fun i _ => .inl ?_
  rw [tcpSockCloseFinal_sock]
  split
  · next hi =>
    rw [hi]
    rfl
  · rfl

theorem PortsLow.fail {sid : Nat} (h : PortsLow a) (hf : Failed a b sid) : PortsLow b := by
  refine h.keep hf.nSocks fun i _ => ?_
  by_cases hi : i = sid
  · have hk := (hf.sock i).trans (if_pos hi)
    rw [show (b.sock i).localPort = _ from congrArg SockKey.localPort hk, hi]
    unfold failedSock
    split
    · exact .inr (Nat.zero_le _)
    · exact .inl rfl
  · exact .inl (key_port ((hf.sock i).trans (if_neg hi)))

/-- One more socket, with a port in range. -/
theorem PortsLow.more (h : PortsLow a) (hn : b.nSocks = a.nSocks + 1)
    (hold : ∀ i, i < a.nSocks → (b.sock i).localPort = (a.sock i).localPort)
    (hnew : (b.sock a.nSocks).localPort.toNat ≤ maxPort) : PortsLow b := by
  intro i hi
  rw [hn] at hi
  by_cases hlt : i < a.nSocks
  · rw [hold i hlt]
    exact h i hlt
  · rw [show i = a.nSocks by omega]
    exact hnew

theorem PortsLow.prim (h : PortsLow a) (hp : Prim a b) : PortsLow b := by
  cases hp with
  | same hs => exact h.same hs
  | move _ _ _ hr => exact h.rekeyed hr (.inl rfl)
  | close _ => exact h.close
  | fail _ _ hf => exact h.fail hf
  | unalloc hu =>
    exact h.keep hu.nSocks fun i hi => .inl (by rw [hu.sock i (Nat.ne_of_lt hi)])
  | spawn hs =>
    refine h.more hs.nSocks (fun i hi => ?_) ?_
    · exact key_port ((hs.key i).trans (if_neg (Nat.ne_of_lt hi)))
    · have hk := (hs.key a.nSocks).trans (if_pos rfl)
      rw [show (b.sock a.nSocks).localPort = _ from congrArg SockKey.localPort hk]
      exact hs.port.2

theorem PortsLow.steps (h : PortsLow a) (hs : Steps a b) : PortsLow b :=
  hs.inv (fun _ _ ha hp => ha.prim hp) h

theorem PortsLow.kept {sid : Nat} (h : PortsLow a) (hk : PortKept a b sid) : PortsLow b := by
  rcases hk with ⟨-, rfl⟩ | ⟨-, ha⟩
  · exact h
  · refine h.keep ha.nSocks fun i _ => ?_
    by_cases hi : i = sid
    · rw [hi, show (b.sock sid).localPort = _ from congrArg SockKey.localPort ha.at]
      exact .inr ha.port_le
    · exact .inl (key_port ((ha.key i).trans (if_neg hi)))

/-- The port reserved for a connect is one the socket has by then. -/
theorem PortsLow.reserved {sid : Nat} (h : PortsLow a) (hk : PortKept a b sid) {k : SockKey}
    (hp : k.localPort = reservedPort a sid) {c : TcpSlowCtx} (hr : Rekeyed b c sid k) :
    PortsLow c := by
  refine (h.kept hk).rekeyed hr (.inl ?_)
  rw [hp]
  exact (congrArg SockKey.localPort hk.at).symm

theorem SlowInit.portsLow {ctx : TcpSlowCtx} (h : SlowInit ctx) : PortsLow ctx := by
  intro i hi
  rw [h.nSocks] at hi
  exact absurd hi (Nat.not_lt_zero i)

/-- **Every event keeps the ports in range.** -/
theorem PortsLow.next {ctx : TcpSlowCtx} (h : PortsLow ctx) (hb : Base ctx) (act : SlowAct) :
    PortsLow (slowNext ctx act) := by
  cases act with
  | newSock appId ctxId opaquePtr =>
    rcases appNewSock_cases ctx appId ctxId opaquePtr with hu | ⟨c, ha, hs, -⟩
    · exact h.prim (.unalloc hu)
    · refine PortsLow.same ?_ hs.toSameCore
      refine h.more ha.nSocks (fun i hi => by rw [ha.sock i (Nat.ne_of_lt hi)]) ?_
      rw [show (c.sock ctx.nSocks).localPort = 0 from congrArg SockKey.localPort ha.key]
      exact Nat.zero_le _
  | setopt appId ctxId sockId opt opaquePtr =>
    exact h.same (same_appSetopt ctx _ _ _ _ _).toSameCore
  | bind appId ctxId sockId localIp localPort opaquePtr =>
    rcases appBind_cases ctx appId ctxId sockId.toNat localIp localPort opaquePtr with
      hs | ⟨-, -, hs⟩ | ⟨htaken, c, c', hk, hr, hs⟩
    · exact h.same hs.toSameCore
    · exact (h.rekeyed (rekeyed_bindIp ctx _) (.inl rfl)).same hs.toSameCore
    · exact ((h.kept hk).rekeyed hr (.inr (isPortValid_le htaken.2.2))).same hs.toSameCore
  | connect appId ctxId sockId remoteIp remotePort opaquePtr =>
    rcases appConnect_cases hb appId ctxId sockId.toNat remoteIp remotePort opaquePtr with
      hs | ⟨htaken, c, c', hk, hr, hf⟩
    · exact h.same hs.toSameCore
    · have hc' : PortsLow c' := h.reserved hk rfl hr
      rcases hf with hf | ⟨d, hd, hsteps⟩
      · exact hc'.fail hf
      · obtain ⟨s, -, -, rfl⟩ := tcpFlowInsert_eq_some hd
        refine PortsLow.steps ?_ hsteps
        exact hc'
  | listen appId ctxId sockId backlog opaquePtr callocOk =>
    rcases appListen_cases ctx appId ctxId sockId.toNat backlog opaquePtr callocOk with
      hs | ⟨htaken, c, c', hs, hr, hs'⟩
    · exact h.same hs.toSameCore
    · have hc := (h.same hs.toSameCore).same (core_setListener c (ctx.sock sockId.toNat).id.toNat
        (listenerOpen (ctx.listeners (ctx.sock sockId.toNat).id.toNat) backlog))
      exact (hc.rekeyed hr (.inl (key_port (hs.key _)).symm)).same hs'.toSameCore
  | accept appId ctxId sockId opaquePtr => exact h.steps (steps_appAccept hb _ _ _)
  | shutdown sockId how => exact h.steps (steps_appShutdown hb _)
  | close sockId => exact h.steps (steps_appClose hb)
  | segment p core => exact h.steps (steps_ctlRx hb p core)
  | timeout entry => exact h.steps (steps_timeout hb entry)
  | fastRx env => exact h.same (same_fastRx ctx env).toSameCore
  | fastDeq env =>
    rcases fastDeq_cases ctx env with hs | ⟨sockId, txPort, txIp, txAvail, -, hr⟩
    · exact h.same hs.toSameCore
    · exact h.rekeyed hr (.inl rfl)
  | fastSched env => exact h.same (same_fastSched ctx env).toSameCore
  | drain q => exact h.same (same_drain ctx q).toSameCore

end low

/-! ## Children that wait -/

/-- The first `n` cells of a ring from `head` on. -/
def ringCells (l : Listener) : Nat → UInt32 → List UInt32
  | 0, _ => []
  | n + 1, head =>
    l.readySids head.toNat :: ringCells l n (if head + 1 ≥ l.backlogLen then 0 else head + 1)

/-- A child that an accept on listener `k` may hand out. -/
def ReadyChild (ctx : TcpSlowCtx) (k sid : UInt32) : Prop :=
  let l := ctx.listeners k.toNat
  l.active = true ∧ sid ∈ ringCells l l.readyUsed.toNat l.readyHead ∧ sid ≠ idInvalid ∧
    (ctx.tcpSockMeta sid.toNat).listenerId = k ∧ (ctx.sock sid.toNat).state = .acceptPending

section ring

variable {l l' : Listener} {x : UInt32} {n : Nat} {head : UInt32}

/-- An id stays in the ring when its cells do. -/
theorem mem_ringCells_mono (hlen : l'.backlogLen = l.backlogLen)
    (hcell : ∀ pos, l.readySids pos = x → l'.readySids pos = x) (h : x ∈ ringCells l n head) :
    x ∈ ringCells l' n head := by
  induction n generalizing head with
  | zero => exact h
  | succ n ih =>
    unfold ringCells at h ⊢
    rw [hlen]
    rcases List.mem_cons.mp h with he | hmem
    · rw [hcell head.toNat he.symm]
      exact List.mem_cons_self
    · exact List.mem_cons_of_mem _ (ih hmem)

theorem ringCells_mem (h : x ∈ ringCells l n head) : ∃ pos, l.readySids pos = x := by
  induction n generalizing head with
  | zero => cases h
  | succ n ih =>
    unfold ringCells at h
    rcases List.mem_cons.mp h with he | hmem
    · exact ⟨head.toNat, he.symm⟩
    · exact ih hmem

end ring

theorem RingBase.ready_lt {ctx : TcpSlowCtx} {k sid : UInt32} (h : RingBase ctx)
    (hr : ReadyChild ctx k sid) : sid.toNat < ctx.nSocks := by
  obtain ⟨hact, hmem, hne, -, -⟩ := hr
  obtain ⟨pos, rfl⟩ := ringCells_mem hmem
  exact (h.names k.toNat pos hact).resolve_left hne

/-! ## What a request takes -/

/-- No socket, port, listener or child is gone from `a` to `b`. -/
structure NothingConsumed (a b : TcpSlowCtx) : Prop where
  nSocks : b.nSocks = a.nSocks
  state : ∀ i, (b.sock i).state = (a.sock i).state
  port : ∀ i, (b.sock i).localPort = (a.sock i).localPort
  bound : b.boundPorts = a.boundPorts
  listening : ∀ p, (portIds (b.portMap p)).Perm (portIds (a.portMap p))
  active : ∀ k, (b.listeners k).active = (a.listeners k).active
  ready : ∀ k sid, ReadyChild b k sid ↔ ReadyChild a k sid

/-- The response to a request, of its type and with its `opaque`. -/
def IsAnswer : TcpAppReq → AppRes → Prop
  | .newSockReq opaquePtr, .newSockRes sock => sock.opaquePtr = opaquePtr
  | .setoptReq _ _ opaquePtr, .setoptRes _ resOpaque => resOpaque = opaquePtr
  | .bindReq _ _ _ opaquePtr, .bindRes _ resOpaque => resOpaque = opaquePtr
  | .listenReq _ _ opaquePtr, .listenRes _ resOpaque => resOpaque = opaquePtr
  | .acceptReq _ opaquePtr, .acceptRes _ resOpaque _ _ => resOpaque = opaquePtr
  | _, _ => False

/-- The response says that the operation failed. -/
def AppRes.failed : AppRes → Bool
  | .setoptRes success _ => !success
  | .bindRes success _ => !success
  | .listenRes status _ => status != 0
  | .acceptRes status _ _ _ => status != 0
  | _ => false

/-- From `a` to `b` the context got one response, the answer to `req`; a
failed operation took nothing. -/
structure Answered (a b : TcpSlowCtx) (appId ctxId : UInt8) (req : TcpAppReq) : Prop where
  answer : ∃ res, IsAnswer req res ∧
    (b.slowAppQs appId ctxId).items = (a.slowAppQs appId ctxId).items ++ [res] ∧
    (res.failed = true → NothingConsumed a b)
  others : ∀ i j, ¬(i = appId ∧ j = ctxId) → b.slowAppQs i j = a.slowAppQs i j

section taking

variable {a b c : TcpSlowCtx}

/-- The same sockets and tables, as far as they are seen here. -/
theorem nothing_of_same (hs : Same a b) (hbound : b.boundPorts = a.boundPorts)
    (hlist : ∀ p, (portIds (b.portMap p)).Perm (portIds (a.portMap p))) :
    NothingConsumed a b := by
  refine ⟨hs.nSocks, fun i => key_state (hs.key i), fun i => key_port (hs.key i), hbound, hlist,
    fun k => by rw [hs.listeners], fun k sid => ?_⟩
  unfold ReadyChild TcpSlowCtx.tcpSockMeta
  rw [hs.listeners, key_id (hs.key sid.toNat), key_state (hs.key sid.toNat), hs.listenerId]

theorem nothing_refl (a : TcpSlowCtx) : NothingConsumed a a :=
  nothing_of_same (Same.refl a) rfl fun _ => .refl _

theorem appSubmit_room {appId ctxId : UInt8} (res : AppRes)
    (h : (a.slowAppQs appId ctxId).hasRoom = true) :
    appSubmit a appId ctxId res =
      { a with
        slowAppQs := fun i j =>
          if i = appId ∧ j = ctxId then
            ⟨(a.slowAppQs appId ctxId).items ++ [res], (a.slowAppQs appId ctxId).nelems⟩
          else a.slowAppQs i j } := by
  unfold appSubmit
  rw [Fifo.push_of_room h]

/-- **A handler that ends in `app_submit` has answered**, if it touched no
response queue before. -/
theorem appSubmit_answered {appId ctxId : UInt8} {req : TcpAppReq} {res : AppRes}
    (hq : c.slowAppQs = a.slowAppQs) (hroom : (a.slowAppQs appId ctxId).hasRoom = true)
    (hans : IsAnswer req res) (hfail : res.failed = true → NothingConsumed a c) :
    Answered a (appSubmit c appId ctxId res) appId ctxId req := by
  rw [appSubmit_room res (by rw [hq]; exact hroom), hq]
  refine ⟨⟨res, hans, ?_, fun hf => ?_⟩, fun i j hij => if_neg hij⟩
  · simp
  · have h := hfail hf
    exact ⟨h.nSocks, h.state, h.port, h.bound, h.listening, h.active, h.ready⟩

end taking

/-! ## The lists of ports -/

section ports

variable {ctx : TcpSlowCtx} {p p' : TcpPort} {x : UInt32}

theorem length_portIds (p : TcpPort) : (portIds p).length = p.nsocks := by simp [portIds]

/-- The new entry comes last. -/
theorem portInsert_ids {reuseport : Bool} (h : portInsert ctx p x reuseport = some p') :
    portIds p' = portIds p ++ [x] := by
  unfold portInsert at h
  split at h
  · next hz =>
    cases h
    simp [portIds, hz]
  · split at h
    · cases h
    · split at h
      · cases h
      · cases h
        unfold portIds
        dsimp only
        rw [List.range_succ, List.map_append, List.map_singleton, if_pos rfl]
        congr 1
        refine List.map_congr_left fun i hi => if_neg ?_
        exact Nat.ne_of_lt (List.mem_range.mp hi)

/-- Dropping an entry closes the gap behind it. -/
theorem portDrop_perm (h : x ∈ portIds p) : (x :: portIds (portDrop p x)).Perm (portIds p) := by
  cases hf : (List.range p.nsocks).find? (fun i => p.sids i == x) with
  | none =>
    obtain ⟨i, hi, he⟩ := List.mem_map.mp h
    exact absurd (beq_iff_eq.mpr he) (List.find?_eq_none.mp hf i hi)
  | some i =>
    have hx : p.sids i = x := eq_of_beq (List.find?_some hf :)
    have hlt : i < p.nsocks := List.mem_range.mp (List.mem_of_find?_eq_some hf)
    have hlen : i < (portIds p).length := by rw [length_portIds]; exact hlt
    have hdrop : portIds (portDrop p x) = (portIds p).eraseIdx i := by
      refine List.ext_getElem ?_ fun j hj hj' => ?_
      · rw [List.length_eraseIdx_of_lt hlen, length_portIds, length_portIds]
        unfold portDrop
        rw [hf]
      · rw [List.length_eraseIdx_of_lt hlen, length_portIds] at hj'
        rw [List.getElem_eraseIdx]
        unfold portIds portDrop
        simp only [hf, List.getElem_map, List.getElem_range]
        rw [if_neg (Nat.ne_of_lt hj')]
        by_cases hji : j < i
        · rw [dif_pos hji, if_neg (by omega)]
        · rw [dif_neg hji, if_pos ⟨by omega, hj'⟩]
    have hget : (portIds p)[i] = x := by simp [portIds, hx]
    have hperm := List.getElem_cons_eraseIdx_perm hlen
    rw [hget, ← hdrop] at hperm
    exact hperm

/-- An entry put in and taken out again. -/
theorem portDrop_insert {reuseport : Bool} (h : portInsert ctx p x reuseport = some p') :
    (portIds (portDrop p' x)).Perm (portIds p) := by
  have hids := portInsert_ids h
  have hmem : x ∈ portIds p' := by
    rw [hids]
    exact List.mem_append_right _ List.mem_cons_self
  have hperm := portDrop_perm hmem
  rw [hids] at hperm
  exact (hperm.trans List.perm_append_comm).cons_inv

end ports

/-! ## The handlers -/

section handlers

variable {ctx : TcpSlowCtx} {appId ctxId : UInt8}

theorem appSetopt_answered (hroom : (ctx.slowAppQs appId ctxId).hasRoom = true) (sockId : UInt32)
    (opt : UInt8) (opaquePtr : UInt64) :
    Answered ctx (appSetopt ctx appId ctxId sockId.toNat opt opaquePtr) appId ctxId
      (.setoptReq sockId opt opaquePtr) := by
  unfold appSetopt
  rw [if_neg (by rw [hroom]; exact Bool.false_ne_true)]
  split
  · exact appSubmit_answered rfl hroom rfl nofun
  · exact appSubmit_answered rfl hroom rfl fun _ => nothing_refl ctx

theorem sockAutobindPort_queues (sid : Nat) :
    (sockAutobindPort ctx sid).1.slowAppQs = ctx.slowAppQs := by
  unfold sockAutobindPort
  dsimp only
  split
  · rfl
  · split
    · rfl
    · next c hc =>
      unfold tcpBoundInsert at hc
      obtain ⟨p, -, rfl⟩ := Option.map_eq_some_iff.mp hc
      rfl

theorem bindPort_queues (sid : Nat) : (bindPort ctx sid).1.slowAppQs = ctx.slowAppQs := by
  unfold bindPort
  split
  · exact sockAutobindPort_queues sid
  · rfl

theorem bindIp_queues (sid : Nat) : (bindIp ctx sid).slowAppQs = ctx.slowAppQs := by
  unfold bindIp
  split
  · rfl
  · rfl

/-- Filling in the address takes nothing. -/
theorem bindIp_nothing (ctx : TcpSlowCtx) (sid : Nat) : NothingConsumed ctx (bindIp ctx sid) := by
  unfold bindIp
  split
  · unfold sockAutobindIp
    generalize hc : ctx.setSock sid { ctx.sock sid with localIp := ctx.localIp } = c
    have hfields : ∀ i, (c.sock i).state = (ctx.sock i).state ∧
        (c.sock i).localPort = (ctx.sock i).localPort ∧ (c.sock i).id = (ctx.sock i).id := by
      intro i
      rw [← hc]
      by_cases hi : i = sid
      · rw [hi, TcpSlowCtx.sock_setSock]
        exact ⟨rfl, rfl, rfl⟩
      · rw [TcpSlowCtx.sock_setSock_ne _ _ hi]
        exact ⟨rfl, rfl, rfl⟩
    have hrest : c.nSocks = ctx.nSocks ∧ c.boundPorts = ctx.boundPorts ∧ c.portMap = ctx.portMap ∧
        c.listeners = ctx.listeners ∧ c.sockMeta = ctx.sockMeta := by
      rw [← hc]
      exact ⟨rfl, rfl, rfl, rfl, rfl⟩
    obtain ⟨hn, hbound, hlist, hls, hmeta⟩ := hrest
    refine ⟨hn, fun i => (hfields i).1, fun i => (hfields i).2.1, hbound, fun _ => by rw [hlist],
      fun _ => by rw [hls], fun k sid => ?_⟩
    unfold ReadyChild TcpSlowCtx.tcpSockMeta
    rw [(hfields sid.toNat).1, (hfields sid.toNat).2.2, hls, hmeta]
  · exact nothing_refl ctx

theorem appBind_answered (hroom : (ctx.slowAppQs appId ctxId).hasRoom = true) (sockId : UInt32)
    (localIp : UInt32) (localPort : UInt16) (opaquePtr : UInt64) :
    Answered ctx (appBind ctx appId ctxId sockId.toNat localIp localPort opaquePtr) appId ctxId
      (.bindReq sockId localIp localPort opaquePtr) := by
  unfold appBind
  rw [if_neg (by rw [hroom]; exact Bool.false_ne_true)]
  split
  · have hq := @bindPort_queues ctx sockId.toNat
    rcases bindPort_cases ctx sockId.toNat with ⟨-, he⟩ | ⟨-, -, he⟩ | ⟨-, hok, -⟩
    · rw [he]
      exact appSubmit_answered (bindIp_queues _) hroom rfl nofun
    · -- no port was left: only the address was filled in
      rw [he]
      exact appSubmit_answered (bindIp_queues _) hroom rfl fun _ => bindIp_nothing ctx _
    · generalize bindPort ctx sockId.toNat = r at hq hok ⊢
      obtain ⟨c, ok⟩ := r
      dsimp only at hq hok
      rw [hok]
      exact appSubmit_answered ((bindIp_queues _).trans hq) hroom rfl nofun
  · exact appSubmit_answered rfl hroom rfl fun _ => nothing_refl ctx

/-- A listen that finds no memory for its ring gives the port back. -/
theorem listen_nothing {c : TcpSlowCtx} {port : UInt16} {sockId : UInt32} {reuseport : Bool}
    (hz : port ≠ 0) (hlow : port.toNat ≤ maxPort)
    (h : tcpListenerInsert ctx port sockId reuseport = some c) :
    NothingConsumed ctx (tcpListenerRemove c port sockId) := by
  have hs := (same_tcpListenerInsert h).trans (same_tcpListenerRemove c port sockId)
  unfold tcpListenerInsert at h
  obtain ⟨p, hp, rfl⟩ := Option.map_eq_some_iff.mp h
  have hin : ¬(port = 0 ∨ port.toNat > maxPort) := by
    rw [not_or]
    exact ⟨hz, Nat.not_lt_of_le hlow⟩
  unfold tcpListenerRemove at hs ⊢
  rw [if_neg hin] at hs ⊢
  refine nothing_of_same hs rfl fun q => ?_
  by_cases hq : q = port.toNat
  · have hdrop : (setPort (setPort ctx port.toNat p) port.toNat
        (portDrop ((setPort ctx port.toNat p).portMap port.toNat) sockId)).portMap q =
        portDrop p sockId := by
      unfold setPort
      dsimp only
      rw [if_pos hq, if_pos rfl]
    rw [hdrop, hq]
    exact portDrop_insert hp
  · have hkeep : (setPort (setPort ctx port.toNat p) port.toNat
        (portDrop ((setPort ctx port.toNat p).portMap port.toNat) sockId)).portMap q =
        ctx.portMap q := by
      unfold setPort
      dsimp only
      rw [if_neg hq, if_neg hq]
    rw [hkeep]

theorem appListen_answered (hlow : PortsLow ctx)
    (hroom : (ctx.slowAppQs appId ctxId).hasRoom = true) (sockId backlog : UInt32)
    (opaquePtr : UInt64) (callocOk : Bool) :
    Answered ctx (appListen ctx appId ctxId sockId.toNat backlog opaquePtr callocOk) appId ctxId
      (.listenReq sockId backlog opaquePtr) := by
  unfold appListen
  split
  · exact appSubmit_answered rfl hroom rfl fun _ => nothing_refl ctx
  · next hlt =>
    dsimp only
    split
    · exact appSubmit_answered rfl hroom rfl fun _ => nothing_refl ctx
    · next hport =>
      cases hins : tcpListenerInsert ctx (ctx.sock sockId.toNat).localPort
          (ctx.sock sockId.toNat).id (ctx.sock sockId.toNat).reuport with
      | none => exact appSubmit_answered rfl hroom rfl fun _ => nothing_refl ctx
      | some c =>
        have hnothing := listen_nothing hport (hlow _ (Nat.lt_of_not_ge hlt)) hins
        have hq : c.slowAppQs = ctx.slowAppQs := by
          unfold tcpListenerInsert at hins
          obtain ⟨p, -, rfl⟩ := Option.map_eq_some_iff.mp hins
          rfl
        dsimp only
        split
        · refine appSubmit_answered ?_ hroom rfl fun _ => hnothing
          rw [← hq]
          unfold tcpListenerRemove
          split
          · rfl
          · rfl
        · exact appSubmit_answered hq hroom rfl nofun

end handlers

/-! ## Accepting -/

section accepting

variable {ctx : TcpSlowCtx} {k : UInt32} {fuel : Nat}

/-- What dropping cells of listener `k` leaves alone. -/
structure Passed (a b : TcpSlowCtx) (k : UInt32) : Prop where
  maps : b.maps = a.maps
  nSocks : b.nSocks = a.nSocks
  boundPorts : b.boundPorts = a.boundPorts
  portMap : b.portMap = a.portMap
  queues : b.slowAppQs = a.slowAppQs
  active : (b.listeners k.toNat).active = (a.listeners k.toNat).active
  others : ∀ j, j ≠ k.toNat → b.listeners j = a.listeners j
  marks : ∀ i, i < a.nSocks → (a.sock i).state = .acceptPending → b.sockMeta i = a.sockMeta i

theorem Passed.refl (a : TcpSlowCtx) (k : UInt32) : Passed a a k :=
  ⟨rfl, rfl, rfl, rfl, rfl, rfl, fun _ _ => rfl, fun _ _ _ => rfl⟩

theorem Passed.trans {a b c : TcpSlowCtx} (h₁ : Passed a b k) (h₂ : Passed b c k) :
    Passed a c k := by
  refine ⟨h₂.maps.trans h₁.maps, h₂.nSocks.trans h₁.nSocks, h₂.boundPorts.trans h₁.boundPorts,
    h₂.portMap.trans h₁.portMap, h₂.queues.trans h₁.queues, h₂.active.trans h₁.active,
    fun j hj => (h₂.others j hj).trans (h₁.others j hj), fun i hi hst => ?_⟩
  have hst' : (b.sock i).state = .acceptPending := by
    unfold TcpSlowCtx.sock at hst ⊢
    rw [h₁.maps]
    exact hst
  exact (h₂.marks i (by rw [h₁.nSocks]; exact hi) hst').trans (h₁.marks i hi hst)

/-- The listener without its first cell. -/
theorem passed_ringPop (ctx : TcpSlowCtx) (k : UInt32) :
    Passed ctx (ctx.setListener k.toNat (ringPop (ctx.listeners k.toNat))) k := by
  refine ⟨rfl, rfl, rfl, rfl, rfl, ?_, fun j hj => if_neg hj, fun _ _ _ => rfl⟩
  show (if k.toNat = k.toNat then _ else _ : Listener).active = _
  rw [if_pos rfl]
  rfl

/-- A round drops the first cell, and goes on with `b`. -/
structure DropsCell (ctx b : TcpSlowCtx) (k : UInt32) : Prop where
  base : RingBase b
  passed : Passed ctx b k
  used : (ctx.listeners k.toNat).readyUsed ≠ 0
  listener : ∃ u, b.listeners k.toNat = { ringPop (ctx.listeners k.toNat) with backlogUsed := u }
  stale : ∀ sid, ReadyChild ctx k sid →
    (ctx.listeners k.toNat).readySids (ctx.listeners k.toNat).readyHead.toNat ≠ sid

/-- **One round of the loop**: there is nothing left, the first cell is
dropped, or the child in it comes out. -/
theorem readyPopLoop_round (h : RingBase ctx) (k : UInt32) (fuel : Nat) :
    (readyPopLoop k (fuel + 1) ctx = (ctx, none) ∧
      ((ctx.listeners k.toNat).active = false ∨ (ctx.listeners k.toNat).readyUsed = 0)) ∨
    (∃ b, DropsCell ctx b k ∧ readyPopLoop k (fuel + 1) ctx = readyPopLoop k fuel b) ∨
    ∃ sid, readyPopLoop k (fuel + 1) ctx =
      (ctx.setListener k.toNat (ringPop (ctx.listeners k.toNat)), some sid) := by
  rw [readyPopLoop_succ]
  dsimp only
  have hpass := passed_ringPop ctx k
  have hpop : RingBase (ctx.setListener k.toNat (ringPop (ctx.listeners k.toNat))) :=
    ⟨h.base.same (core_setListener _ _ _), h.names.cells (ringPop_cells ctx k.toNat)⟩
  have hl : (ctx.setListener k.toNat (ringPop (ctx.listeners k.toNat))).listeners k.toNat =
      ringPop (ctx.listeners k.toNat) := if_pos rfl
  split
  · next hend =>
    refine .inl ⟨rfl, hend.imp_left fun hact => ?_⟩
    rw [Bool.not_eq_true'] at hact
    exact hact
  · next hgo =>
    rw [not_or, Bool.not_eq_true, Bool.not_eq_false'] at hgo
    split
    · next hinv =>
      refine .inr (.inl ⟨_, ⟨hpop, hpass, hgo.2, ⟨_, hl⟩, fun sid hr he => ?_⟩, rfl⟩)
      exact hr.2.2.1 (he.symm.trans hinv)
    · next hvalid =>
      split
      · next hmark =>
        refine .inr (.inl ⟨_, ⟨hpop, hpass, hgo.2, ⟨_, hl⟩, fun sid hr he => ?_⟩, rfl⟩)
        rw [he] at hmark
        exact hmark hr.2.2.2.1
      · split
        · next hst =>
          -- the mark that goes is that of a socket that does not wait
          have hlt := (h.names k.toNat _ hgo.1).resolve_left hvalid
          refine .inr (.inl ⟨_, ⟨⟨?_, h.names.cells (ringPop_stale_cells ctx _ _ _)⟩,
            ⟨rfl, rfl, rfl, rfl, rfl, ?_, ?_, ?_⟩, hgo.2, ?_, fun sid hr he => ?_⟩, rfl⟩)
          · exact (hpop.base.same (core_setListenerId _ _ _)).same (core_setListener _ _ _)
          · show (if k.toNat = k.toNat then _ else _ : Listener).active = _
            rw [if_pos rfl, (listenerBacklogPut_ring _).1]
            rfl
          · intro j hj
            exact (if_neg hj).trans (if_neg hj)
          · intro i hi hi'
            refine if_neg fun he => hst ?_
            have he' : i = ((ctx.listeners k.toNat).readySids
                (ctx.listeners k.toNat).readyHead.toNat).toNat :=
              he.trans (h.base.toNat_id hlt)
            rw [← he']
            exact hi'
          · refine ⟨(listenerBacklogPut (ringPop (ctx.listeners k.toNat))).backlogUsed,
              (if_pos rfl).trans ?_⟩
            unfold listenerBacklogPut
            split
            · rfl
            · rfl
          · rw [he] at hst
            exact hst hr.2.2.2.2
        · exact .inr (.inr ⟨_, rfl⟩)

theorem DropsCell.used_pred {b : TcpSlowCtx} (h : DropsCell ctx b k) :
    ((ctx.listeners k.toNat).readyUsed - 1).toNat + 1 =
      (ctx.listeners k.toNat).readyUsed.toNat := by
  have hpos : 1 ≤ (ctx.listeners k.toNat).readyUsed.toNat :=
    Nat.one_le_iff_ne_zero.mpr fun hz => h.used (UInt32.toNat_inj.mp hz)
  have hle : (1 : UInt32).toNat ≤ (ctx.listeners k.toNat).readyUsed.toNat := hpos
  rw [toNat_sub_of_le hle]
  exact Nat.sub_add_cancel hpos

/-- A child that waits is not dropped. -/
theorem DropsCell.ready {b : TcpSlowCtx} {sid : UInt32} (h : DropsCell ctx b k)
    (hbase : RingBase ctx) (hr : ReadyChild ctx k sid) : ReadyChild b k sid := by
  have hlt := hbase.ready_lt hr
  have hstale := h.stale sid hr
  obtain ⟨u, hl⟩ := h.listener
  obtain ⟨hact, hmem, hne, hmark, hst⟩ := hr
  have hsock : b.sock sid.toNat = ctx.sock sid.toNat := congrArg (fun m => m.socks sid.toNat)
    h.passed.maps
  rw [← h.used_pred] at hmem
  unfold ringCells at hmem
  refine ⟨by rw [h.passed.active]; exact hact, ?_, hne, ?_, by rw [hsock]; exact hst⟩
  · rw [hl]
    refine mem_ringCells_mono (l := ctx.listeners k.toNat) rfl (fun pos hpos => ?_)
      ((List.mem_cons.mp hmem).resolve_left fun he => hstale he.symm)
    show (if pos = (ctx.listeners k.toNat).readyHead.toNat then idInvalid
      else (ctx.listeners k.toNat).readySids pos) = sid
    rw [if_neg fun he => hstale (by rw [← he]; exact hpos)]
    exact hpos
  · unfold TcpSlowCtx.tcpSockMeta at hmark ⊢
    rw [hsock, hbase.base.toNat_id hlt] at *
    rw [h.passed.marks sid.toNat hlt hst]
    exact hmark

theorem readyPopLoop_passed (h : RingBase ctx) (k : UInt32) (fuel : Nat) :
    Passed ctx (readyPopLoop k fuel ctx).1 k := by
  induction fuel generalizing ctx with
  | zero => exact Passed.refl ctx k
  | succ fuel ih =>
    rcases readyPopLoop_round h k fuel with ⟨he, -⟩ | ⟨b, hd, he⟩ | ⟨sid, he⟩
    · rw [he]
      exact Passed.refl ctx k
    · rw [he]
      exact hd.passed.trans (ih hd.base)
    · rw [he]
      exact passed_ringPop ctx k

theorem not_ready_of_end {b : TcpSlowCtx} (h : (b.listeners k.toNat).active = false ∨
    (b.listeners k.toNat).readyUsed = 0) (sid : UInt32) : ¬ReadyChild b k sid := by
  intro hr
  rcases h with hact | hused
  · rw [hr.1] at hact
    cases hact
  · have hmem := hr.2.1
    rw [hused] at hmem
    cases hmem

/-- **Where nothing comes out, no child waited**, and none does afterwards. -/
theorem readyPopLoop_none (h : RingBase ctx)
    (hfuel : (ctx.listeners k.toNat).readyUsed.toNat ≤ fuel)
    (hnone : (readyPopLoop k fuel ctx).2 = none) (sid : UInt32) :
    ¬ReadyChild ctx k sid ∧ ¬ReadyChild (readyPopLoop k fuel ctx).1 k sid := by
  induction fuel generalizing ctx with
  | zero =>
    have hend := not_ready_of_end
      (.inr (UInt32.toNat_inj.mp (Nat.le_zero.mp hfuel)) : _ ∨ _) sid
    exact ⟨hend, hend⟩
  | succ fuel ih =>
    rcases readyPopLoop_round h k fuel with ⟨he, hend⟩ | ⟨b, hd, he⟩ | ⟨j, he⟩
    · rw [he]
      exact ⟨not_ready_of_end hend sid, not_ready_of_end hend sid⟩
    · rw [he] at hnone ⊢
      obtain ⟨u, hl⟩ := hd.listener
      have hused : (b.listeners k.toNat).readyUsed.toNat ≤ fuel := by
        rw [hl]
        show ((ctx.listeners k.toNat).readyUsed - 1).toNat ≤ fuel
        rw [← hd.used_pred] at hfuel
        exact Nat.le_of_succ_le_succ hfuel
      obtain ⟨h₁, h₂⟩ := ih hd.base hused hnone
      exact ⟨fun hr => h₁ (hd.ready h hr), h₂⟩
    · rw [he] at hnone
      cases hnone

/-- An accept that finds no child takes none. -/
theorem accept_nothing (h : RingBase ctx) (hnone : (tcpListenerReadyPop ctx k).2 = none) :
    NothingConsumed ctx (tcpListenerReadyPop ctx k).1 := by
  unfold tcpListenerReadyPop at hnone ⊢
  have hpass := readyPopLoop_passed h k (ctx.listeners k.toNat).readyUsed.toNat
  have hgone := readyPopLoop_none h (Nat.le_refl _) hnone
  generalize (readyPopLoop k (ctx.listeners k.toNat).readyUsed.toNat ctx).1 = b at hpass hgone ⊢
  have hsock : b.sock = ctx.sock := congrArg TcpMaps.socks hpass.maps
  refine ⟨hpass.nSocks, fun i => by rw [hsock], fun i => by rw [hsock], hpass.boundPorts,
    fun p => by rw [hpass.portMap], fun j => ?_, fun j sid => ?_⟩
  · by_cases hj : j = k.toNat
    · rw [hj]
      exact hpass.active
    · rw [hpass.others j hj]
  · by_cases hj : j = k
    · rw [hj]
      exact ⟨fun hr => absurd hr (hgone sid).2, fun hr => absurd hr (hgone sid).1⟩
    · -- another listener's ring and the marks of the children in it are kept
      have hl := hpass.others j.toNat fun he => hj (UInt32.toNat_inj.mp he)
      unfold ReadyChild TcpSlowCtx.tcpSockMeta
      rw [hl, hsock]
      refine and_congr_right fun hact => and_congr_right fun hmem => and_congr_right fun hne => ?_
      refine and_congr_left fun hst => ?_
      obtain ⟨pos, hpos⟩ := ringCells_mem hmem
      have hlt : sid.toNat < ctx.nSocks := by
        rw [← hpos] at hne ⊢
        exact (h.names j.toNat pos hact).resolve_left hne
      rw [h.base.toNat_id hlt, hpass.marks sid.toNat hlt hst]

theorem appAccept_answered {appId ctxId : UInt8} (h : RingBase ctx)
    (hroom : (ctx.slowAppQs appId ctxId).hasRoom = true) (sockId : UInt32) (opaquePtr : UInt64) :
    Answered ctx (appAccept ctx appId ctxId sockId.toNat opaquePtr) appId ctxId
      (.acceptReq sockId opaquePtr) := by
  unfold appAccept
  split
  · exact appSubmit_answered rfl hroom rfl fun _ => nothing_refl ctx
  · dsimp only
    split
    · exact appSubmit_answered rfl hroom rfl fun _ => nothing_refl ctx
    · have hpass := readyPopLoop_passed h (ctx.sock sockId.toNat).id
        (ctx.listeners (ctx.sock sockId.toNat).id.toNat).readyUsed.toNat
      have hnone := @accept_nothing ctx (ctx.sock sockId.toNat).id h
      unfold tcpListenerReadyPop at hnone ⊢
      generalize readyPopLoop (ctx.sock sockId.toNat).id _ ctx = r at hpass hnone ⊢
      obtain ⟨c, child⟩ := r
      cases child with
      | none => exact appSubmit_answered hpass.queues hroom rfl fun _ => hnone rfl
      | some j =>
        refine appSubmit_answered (c := (sockAcceptOwn c j appId ctxId opaquePtr).setListener _ _)
          hpass.queues hroom ?_ nofun
        -- the response carries what `sock_accept_own` stored
        show (TcpSlowCtx.sock (TcpSlowCtx.setSock _ j _) j).opaquePtr = opaquePtr
        rw [TcpSlowCtx.sock_setSock]
        rfl

end accepting

/-! ## New sockets -/

/-- `tcp_sock_alloc` succeeds: an entry is left, and memory for both buffers. -/
def NewSockServed (ctx : TcpSlowCtx) : Prop :=
  ctx.nSocks < maxSockets ∧ (ctx.newQueues ctx.newQueuesAsked).isSome = true ∧
    (ctx.newQueues (ctx.newQueuesAsked + 1)).isSome = true

section creating

variable {ctx : TcpSlowCtx} {appId ctxId : UInt8} {opaquePtr : UInt64} {appBumpQid : UInt16}

theorem tcpSockAlloc_queues :
    (tcpSockAlloc ctx opaquePtr appId ctxId appBumpQid).1.slowAppQs = ctx.slowAppQs := by
  unfold tcpSockAlloc chamNewQueue
  split
  · rfl
  · dsimp only
    split
    · rfl
    · split
      · rfl
      · rfl

/-- An allocation that is served stores the `opaque` of the request. -/
theorem tcpSockAlloc_served (h : NewSockServed ctx) :
    (tcpSockAlloc ctx opaquePtr appId ctxId appBumpQid).2 = some ctx.nSocks ∧
      ((tcpSockAlloc ctx opaquePtr appId ctxId appBumpQid).1.sock ctx.nSocks).opaquePtr =
        opaquePtr := by
  obtain ⟨hlt, hrx, htx⟩ := h
  obtain ⟨rxq, hrx⟩ := Option.isSome_iff_exists.mp hrx
  obtain ⟨txq, htx⟩ := Option.isSome_iff_exists.mp htx
  unfold tcpSockAlloc chamNewQueue
  rw [if_neg (Nat.not_le_of_lt hlt)]
  dsimp only [TcpSlowCtx.setSock]
  rw [hrx]
  dsimp only
  rw [htx]
  refine ⟨rfl, ?_⟩
  simp [TcpSlowCtx.setMeta, TcpSlowCtx.sock, sockBlank]

theorem tcpSockAlloc_unserved (h : ¬NewSockServed ctx) :
    (tcpSockAlloc ctx opaquePtr appId ctxId appBumpQid).2 = none := by
  unfold tcpSockAlloc chamNewQueue
  by_cases hlt : ctx.nSocks ≥ maxSockets
  · rw [if_pos hlt]
  · rw [if_neg hlt]
    dsimp only [TcpSlowCtx.setSock]
    cases hrx : ctx.newQueues ctx.newQueuesAsked with
    | none => rfl
    | some rxq =>
      dsimp only
      cases htx : ctx.newQueues (ctx.newQueuesAsked + 1) with
      | none => rfl
      | some txq =>
        exact absurd ⟨Nat.lt_of_not_ge hlt, by rw [hrx]; rfl, by rw [htx]; rfl⟩ h

/-- A new socket that cannot be had leaves the queues as they are. -/
theorem appNewSock_unserved (h : ¬NewSockServed ctx) :
    (appNewSock ctx appId ctxId opaquePtr).slowAppQs = ctx.slowAppQs := by
  unfold appNewSock
  have hnone := @tcpSockAlloc_unserved ctx appId ctxId opaquePtr (ctx.appBumpQids appId ctxId 0) h
  have hq := @tcpSockAlloc_queues ctx appId ctxId opaquePtr (ctx.appBumpQids appId ctxId 0)
  generalize tcpSockAlloc ctx opaquePtr appId ctxId _ = r at hnone hq ⊢
  obtain ⟨c, sid⟩ := r
  dsimp only at hnone hq
  rw [hnone]
  exact hq

/-- **A new socket is answered exactly when it can be had.** -/
theorem appNewSock_answered_iff (hroom : (ctx.slowAppQs appId ctxId).hasRoom = true) :
    Answered ctx (appNewSock ctx appId ctxId opaquePtr) appId ctxId (.newSockReq opaquePtr) ↔
      NewSockServed ctx := by
  constructor
  · intro h
    by_cases hs : NewSockServed ctx
    · exact hs
    · obtain ⟨res, -, hitems, -⟩ := h.answer
      rw [appNewSock_unserved hs] at hitems
      have hlen := congrArg List.length hitems
      simp at hlen
  · intro hs
    unfold appNewSock
    have halloc := @tcpSockAlloc_served ctx appId ctxId opaquePtr (ctx.appBumpQids appId ctxId 0) hs
    have hq := @tcpSockAlloc_queues ctx appId ctxId opaquePtr (ctx.appBumpQids appId ctxId 0)
    generalize tcpSockAlloc ctx opaquePtr appId ctxId _ = r at halloc hq ⊢
    obtain ⟨c, sid⟩ := r
    obtain ⟨hsid, hopaque⟩ := halloc
    dsimp only at hsid hopaque hq
    rw [hsid]
    exact appSubmit_answered hq hroom hopaque nofun

end creating

/-! ## Any request -/

/-- The `switch` of `tcp_app_poll`; `callocOk`: the memory for a listener's
ring is there. -/
def appRequest (ctx : TcpSlowCtx) (appId ctxId : UInt8) (callocOk : Bool) :
    TcpAppReq → TcpSlowCtx
  | .newSockReq opaquePtr => appNewSock ctx appId ctxId opaquePtr
  | .setoptReq sockId opt opaquePtr => appSetopt ctx appId ctxId sockId.toNat opt opaquePtr
  | .bindReq sockId localIp localPort opaquePtr =>
    appBind ctx appId ctxId sockId.toNat localIp localPort opaquePtr
  | .connectReq sockId remoteIp remotePort opaquePtr =>
    appConnect ctx appId ctxId sockId.toNat remoteIp remotePort opaquePtr
  | .listenReq sockId backlog opaquePtr =>
    appListen ctx appId ctxId sockId.toNat backlog opaquePtr callocOk
  | .acceptReq sockId opaquePtr => appAccept ctx appId ctxId sockId.toNat opaquePtr
  | .shutdownReq sockId how _ => appShutdown ctx sockId.toNat how
  | .closeReq sockId _ => appClose ctx sockId.toNat

/-- A request is one event of the slow path. -/
theorem appRequest_next (ctx : TcpSlowCtx) (appId ctxId : UInt8) (callocOk : Bool)
    (req : TcpAppReq) : ∃ act, appRequest ctx appId ctxId callocOk req = slowNext ctx act := by
  cases req with
  | newSockReq o => exact ⟨.newSock appId ctxId o, rfl⟩
  | setoptReq sockId opt o => exact ⟨.setopt appId ctxId sockId opt o, rfl⟩
  | bindReq sockId ip port o => exact ⟨.bind appId ctxId sockId ip port o, rfl⟩
  | connectReq sockId ip port o => exact ⟨.connect appId ctxId sockId ip port o, rfl⟩
  | listenReq sockId backlog o => exact ⟨.listen appId ctxId sockId backlog o callocOk, rfl⟩
  | acceptReq sockId o => exact ⟨.accept appId ctxId sockId o, rfl⟩
  | shutdownReq sockId how o => exact ⟨.shutdown sockId how, rfl⟩
  | closeReq sockId o => exact ⟨.close sockId, rfl⟩

/-- The requests whose handlers submit an answer themselves. -/
def TcpAppReq.blocking : TcpAppReq → Bool
  | .newSockReq _ => true
  | .setoptReq _ _ _ => true
  | .bindReq _ _ _ _ => true
  | .listenReq _ _ _ => true
  | .acceptReq _ _ => true
  | _ => false

/-- A request for a new socket is served; every other one is. -/
def ReqServed (ctx : TcpSlowCtx) : TcpAppReq → Prop
  | .newSockReq _ => NewSockServed ctx
  | _ => True

/-- **Which requests are answered.** -/
theorem appRequest_answered_iff {ctx : TcpSlowCtx} {appId ctxId : UInt8} (h : RingBase ctx)
    (hlow : PortsLow ctx) (hroom : (ctx.slowAppQs appId ctxId).hasRoom = true) (callocOk : Bool)
    {req : TcpAppReq} (hreq : req.blocking = true) :
    Answered ctx (appRequest ctx appId ctxId callocOk req) appId ctxId req ↔
      ReqServed ctx req := by
  cases req with
  | newSockReq o => exact appNewSock_answered_iff hroom
  | setoptReq sockId opt o => exact iff_of_true (appSetopt_answered hroom _ _ _) trivial
  | bindReq sockId ip port o => exact iff_of_true (appBind_answered hroom _ _ _ _) trivial
  | listenReq sockId backlog o =>
    exact iff_of_true (appListen_answered hlow hroom _ _ _ _) trivial
  | acceptReq sockId o => exact iff_of_true (appAccept_answered h hroom _ _) trivial
  | connectReq sockId ip port o => cases hreq
  | shutdownReq sockId how o => cases hreq
  | closeReq sockId o => cases hreq

end Chamelio.Tcp
