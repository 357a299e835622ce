import Chamelio.Lib.Run
import Chamelio.Udp.AppLib

/-!
# What `udp_recvfrom` hands out

Payloads of all cores go into one byte ring, in the order they arrive. Their
lengths and sources travel in one queue a core, and the library adds the
lengths up in `rx_avail` and keeps the last source only. So a datagram comes
out whole and with its own source as long as the library takes the bump of
the oldest datagram in the ring, only after it has read the one before, and
reads it in one call.

With `done` the datagrams read so far, `cur` the one announced and not yet
read, and `waiting` those whose bumps are still queued, the ring holds
`cur` and `waiting` from the library's head on.

Mirroring notes:
- A step is one packet, one entry taken by the fast path, one entry taken by
  the library (an iteration of `udp_poll_fast`), or one call of
  `udp_recvfrom`. Everything of a fast-path context that is not this
  socket's is given anew with each event.
- A packet for another socket leaves this one's state and ring alone.
- `waiting` is bookkeeping: the order of arrival, which no queue holds.
-/

namespace Chamelio.Udp

open Chamelio.Lib Chamelio.Pkt Chamelio.Fast

/-! ## The system -/

/-- A datagram put into the ring: its core, payload and source. -/
structure Arrival where
  core : UInt16
  payload : List UInt8
  ip : UInt32
  port : UInt16
  deriving DecidableEq

structure RxSys where
  sock : UdpSock
  lib : UdpLib
  shm : Nat → UInt8
  /-- The queues of bumps to the application, by core. -/
  appQs : Nat → Fifo UdpQe
  /-- Arrivals whose bumps the library has not taken, oldest first. -/
  waiting : List Arrival

inductive RxAct
  /-- A packet; `env` is the context of the core. -/
  | rx (env : UdpCtx)
  /-- The core takes an entry of the application. -/
  | deq (core : Nat) (env : UdpCtx)
  /-- The library takes an entry of the core. -/
  | poll (core : Nat)
  | recvfrom (len : Nat)

/-- What a step shows. -/
inductive RxOut
  | quiet
  | received (a : Arrival)
  | returned (bytes : List UInt8) (ip : UInt32) (port : UInt16)
  | fault

/-- The socket `udp_event_rx` finds for a packet, with the header lengths. -/
def rxPick (ctx : UdpCtx) : Option (Nat × Nat × UInt16) :=
  match rxParse ctx with
  | none => none
  | some (ipHdrsLen, udpLength) =>
    match udpSockFind ctx (udpDst ctx.pkt ipHdrsLen) with
    | (_, none) => none
    | (_, some sid) => some (sid, ipHdrsLen, udpLength)

/-- The datagram in a packet. -/
def arrivalOf (ctx : UdpCtx) (ipHdrsLen : Nat) (udpLength : UInt16) : Arrival :=
  { core := ctx.core
    payload := (List.range (udpLength - 8).toNat).map fun i => ctx.pkt (ipHdrsLen + udpHdrSize + i)
    ip := ipSrc ctx.pkt
    port := udpSrc ctx.pkt ipHdrsLen }

namespace RxSys

def sid (s : RxSys) : Nat := s.lib.sock.sockId.toNat

/-- The number of the queue of bumps from a core. -/
def qid (s : RxSys) (core : UInt16) : Nat := (s.sock.appBumpQids core.toNat).toNat

/-- The context a handler gets. -/
def load (s : RxSys) (env : UdpCtx) : UdpCtx :=
  { env with
    shm := s.shm
    equeues := fun i => if i = s.qid env.core then s.appQs env.core.toNat else env.equeues i
    maps := { env.maps with
      socks := fun i => if i = s.sid then s.sock else env.maps.socks i } }

def rx (s : RxSys) (env : UdpCtx) : RxSys × RxOut :=
  match rxPick (s.load env) with
  | none => (s, .quiet)
  | some (i, ipHdrsLen, udpLength) =>
    if i ≠ s.sid then (s, .quiet)
    else
      match udpEventRx (s.load env) with
      | (ctx, ret) =>
        let s' := { s with
          sock := ctx.maps.socks s.sid
          shm := ctx.shm
          appQs := fun c =>
            if c = env.core.toNat then ctx.equeues (s.qid env.core) else s.appQs c }
        match ret with
        | none => (s', .quiet)
        | some _ =>
          let a := arrivalOf (s.load env) ipHdrsLen udpLength
          ({ s' with waiting := s.waiting ++ [a] }, .received a)

/-- A handler that fails leaves the entry in the queue. -/
def deq (s : RxSys) (core : Nat) (env : UdpCtx) : RxSys :=
  match (s.lib.appFastQs core).head? with
  | none => s
  | some e =>
    match udpEventDeq { s.load env with qe := e } with
    | (_, none) => s
    | (ctx, some _) =>
      { s with
        sock := ctx.maps.socks s.sid
        lib := s.lib.setQueue core (s.lib.appFastQs core).pop }

def poll (s : RxSys) (core : Nat) : RxSys :=
  match (s.appQs core).head? with
  | none => s
  | some e =>
    match libHandleEntry s.lib.sock e with
    | none => s
    | some sock =>
      { s with
        lib := { s.lib with sock }
        appQs := fun c => if c = core then (s.appQs core).pop else s.appQs c
        waiting := s.waiting.eraseP fun a => a.core.toNat == core }

def recvfrom (s : RxSys) (len : Nat) : RxSys × RxOut :=
  match udpRecvfrom s.lib s.shm len with
  | (lib, .fault) => ({ s with lib }, .fault)
  | (lib, .ret n bytes ip port) =>
    ({ s with lib }, if n > 0 then .returned bytes ip port else .quiet)

def step (s : RxSys) : RxAct → RxSys × RxOut
  | .rx env => s.rx env
  | .deq core env => (s.deq core env, .quiet)
  | .poll core => (s.poll core, .quiet)
  | .recvfrom len => s.recvfrom len

end RxSys

/-- A socket as `handle_new_sock` and the library set it up. -/
structure RxInit (s : RxSys) : Prop where
  lenPos : 0 < s.lib.sock.rxLen.toNat
  lenBound : s.lib.sock.rxLen.toNat ≤ 2147483648
  rxLen : s.sock.rxLen = s.lib.sock.rxLen
  rxOff : s.sock.rxOff = s.lib.sock.rxBuf
  fast : s.sock.rxHead = 0 ∧ s.sock.rxAvail = 0
  lib : s.lib.sock.rxHead = 0 ∧ s.lib.sock.rxAvail = 0
  cham : ∀ c, (s.lib.appFastQs c).items = []
  app : ∀ c, (s.appQs c).items = []
  waiting : s.waiting = []

/-- The condition on a step: a datagram that fits the ring finds room for its
bump; the library takes the bump of the oldest arrival, with nothing left to
read; a read takes everything there is, or nothing. -/
def RxOk (s : RxSys) : RxAct → Prop
  | .rx env =>
    match rxPick (s.load env) with
    | none => True
    | some (i, _, udpLength) =>
      i = s.sid → (udpLength - 8).toUInt32 ≤ s.sock.rxLen - s.sock.rxAvail →
        (s.appQs env.core.toNat).hasRoom = true
  | .deq _ _ => True
  | .poll core =>
    (s.appQs core).items ≠ [] →
      s.lib.sock.rxAvail = 0 ∧ s.waiting.head?.map (·.core.toNat) = some core
  | .recvfrom len => recvLen s.lib.sock len = 0 ∨ recvLen s.lib.sock len = s.lib.sock.rxAvail

instance (s : RxSys) (a : RxAct) : Decidable (RxOk s a) := by
  cases a with
  | rx env =>
    dsimp only [RxOk]
    split <;> infer_instance
  | deq core env => exact inferInstanceAs (Decidable True)
  | poll core => exact inferInstanceAs (Decidable (_ → _))
  | recvfrom len => exact inferInstanceAs (Decidable (_ ∨ _))

/-- The datagrams put into the ring, in order. -/
def receivedOf (log : List RxOut) : List Arrival :=
  log.filterMap fun
    | .received a => some a
    | _ => none

/-- What the calls that returned something returned, in order. -/
def returnedOf (log : List RxOut) : List (List UInt8 × UInt32 × UInt16) :=
  log.filterMap fun
    | .returned bytes ip port => some (bytes, ip, port)
    | _ => none

/-- What a caller gets of a datagram. -/
def Arrival.handed (a : Arrival) : List UInt8 × UInt32 × UInt16 := (a.payload, a.ip, a.port)

/-- What a list of datagrams comes to: one with an empty payload is not
handed out. -/
def handedOf (as : List Arrival) : List (List UInt8 × UInt32 × UInt16) :=
  (as.filter fun a => a.payload ≠ []).map Arrival.handed

/-! ## A packet -/

/-- The choice of a socket touches the port map only. -/
theorem udpSockFind_frame (ctx : UdpCtx) (dstPort : UInt16) :
    ∃ ports, (udpSockFind ctx dstPort).1 = { ctx with maps := { ctx.maps with ports } } := by
  have hself : ∃ ports, ctx = { ctx with maps := { ctx.maps with ports } } := ⟨ctx.maps.ports, rfl⟩
  unfold udpSockFind udpRotate
  dsimp only
  split
  · exact hself
  · split
    · exact hself
    · split
      · exact hself
      · split
        · exact hself
        · split
          · exact hself
          · split
            · exact ⟨_, rfl⟩
            · exact hself

theorem rxParse_len {ctx : UdpCtx} {ipHdrsLen : Nat} {udpLength : UInt16}
    (h : rxParse ctx = some (ipHdrsLen, udpLength)) : 8 ≤ udpLength.toNat := by
  unfold rxParse at h
  dsimp only at h
  split at h
  · cases h
  · split at h
    · cases h
    · split at h
      · cases h
      · split at h
        · cases h
        · split at h
          · cases h
          · split at h
            · cases h
            · split at h
              · cases h
              · next hlen =>
                split at h
                · cases h
                · cases h
                  exact Nat.le_of_not_lt hlen

/-- Where `udp_event_rx` goes on from the socket it picked. -/
theorem rxPick_some {ctx : UdpCtx} {i ipHdrsLen : Nat} {udpLength : UInt16}
    (h : rxPick ctx = some (i, ipHdrsLen, udpLength)) :
    8 ≤ udpLength.toNat ∧ ctx.core.toNat < maxFpCores ∧ ∃ ports,
      udpEventRx ctx =
        rxDeliver { ctx with maps := { ctx.maps with ports } } i ipHdrsLen udpLength := by
  unfold rxPick at h
  cases hp : rxParse ctx with
  | none => rw [hp] at h; cases h
  | some hdrs =>
    obtain ⟨hl, ul⟩ := hdrs
    rw [hp] at h
    dsimp only at h
    obtain ⟨ports, hframe⟩ := udpSockFind_frame ctx (udpDst ctx.pkt hl)
    have hcore : (udpSockFind ctx (udpDst ctx.pkt hl)).2 ≠ none → ctx.core.toNat < maxFpCores := by
      unfold udpSockFind
      dsimp only
      intro hne
      split at hne
      · exact absurd rfl hne
      · split at hne
        · exact absurd rfl hne
        · next hc => exact Nat.lt_of_not_le hc
    cases hf : udpSockFind ctx (udpDst ctx.pkt hl) with
    | mk c found =>
      rw [hf] at h hframe hcore
      cases found with
      | none => cases h
      | some j =>
        cases h
        refine ⟨rxParse_len hp, hcore nofun, ports, ?_⟩
        unfold udpEventRx
        rw [hp]
        dsimp only
        rw [hf]
        exact congrArg (fun c => rxDeliver c i ipHdrsLen udpLength) hframe

/-- The copy into the ring, behind what it holds. -/
theorem rxCopyPayload_shm {ctx : UdpCtx} {sock : UdpSock} (src : Nat) {n : UInt16}
    (hhead : sock.rxHead.toNat < sock.rxLen.toNat)
    (hfit : sock.rxAvail.toNat + n.toNat ≤ sock.rxLen.toNat)
    (hov : sock.rxHead.toNat + sock.rxLen.toNat < 4294967296) :
    (rxCopyPayload ctx sock src n).shm =
      ringWrite ctx.shm sock.rxOff.toNat sock.rxLen.toNat
        ((sock.rxHead.toNat + sock.rxAvail.toNat) % sock.rxLen.toNat)
        (fun i => ctx.pkt (src + i)) n.toNat := by
  have hn : n.toUInt32.toNat = n.toNat := UInt16.toNat_toUInt32 n
  rw [← hn, ← ringWrite_words ctx.shm sock.rxOff.toNat (fun i => ctx.pkt (src + i)) hhead
    (by rw [hn]; exact hfit) hov]
  unfold rxCopyPayload
  dsimp only
  split
  · rw [hn]
  · simp only [Nat.add_assoc]

/-- A datagram delivered to a socket with room is appended to the ring and
announced. -/
theorem rxDeliver_spec {ctx : UdpCtx} {sid ipHdrsLen : Nat} {udpLength : UInt16} {sock : UdpSock}
    {appQ : Fifo UdpQe} (hcore : ctx.core.toNat < maxFpCores) (hsock : sockOf ctx sid = sock)
    (hqueue : ctx.equeues (sock.appBumpQids ctx.core.toNat).toNat = appQ)
    (hhead : sock.rxHead.toNat < sock.rxLen.toNat) (havail : sock.rxAvail.toNat ≤ sock.rxLen.toNat)
    (hlen : sock.rxLen.toNat ≤ 2147483648)
    (hroom : (udpLength - 8).toUInt32 ≤ sock.rxLen - sock.rxAvail → appQ.hasRoom = true) :
    rxDeliver ctx sid ipHdrsLen udpLength = (ctx, none) ∨
    ∃ ctx', rxDeliver ctx sid ipHdrsLen udpLength = (ctx', some 0) ∧
      sock.rxAvail.toNat + (udpLength - 8).toNat ≤ sock.rxLen.toNat ∧
      sockOf ctx' sid = { sock with
        rxAvail := sock.rxAvail + (udpLength - 8).toUInt32, rxCore := ctx.core.toNat } ∧
      ctx'.shm = ringWrite ctx.shm sock.rxOff.toNat sock.rxLen.toNat
        ((sock.rxHead.toNat + sock.rxAvail.toNat) % sock.rxLen.toNat)
        (fun i => ctx.pkt (ipHdrsLen + udpHdrSize + i)) (udpLength - 8).toNat ∧
      appQ.push (.bumpAppRx sock.opaquePtr ctx.core (udpSrc ctx.pkt ipHdrsLen) (ipSrc ctx.pkt)
          (udpLength - 8).toUInt32) =
        some (ctx'.equeues (sock.appBumpQids ctx.core.toNat).toNat) := by
  have hfree : (sock.rxLen - sock.rxAvail).toNat = sock.rxLen.toNat - sock.rxAvail.toNat :=
    toNat_sub_of_le havail
  unfold rxDeliver
  dsimp only
  rw [if_neg (by omega), hsock]
  generalize udpLength - 8 = n at hroom ⊢
  by_cases hbig : n.toUInt32 > sock.rxLen - sock.rxAvail
  · rw [if_pos hbig]
    exact .inl rfl
  · rw [if_neg hbig]
    have hle := UInt32.not_lt.mp hbig
    have hfit : sock.rxAvail.toNat + n.toNat ≤ sock.rxLen.toNat := by
      have := UInt32.le_iff_toNat_le.mp hle
      rw [hfree, UInt16.toNat_toUInt32] at this
      omega
    have hcopy := @rxCopyPayload_shm ctx _ (ipHdrsLen + udpHdrSize) _ hhead hfit (by omega)
    have hsame : (rxCopyPayload ctx sock (ipHdrsLen + udpHdrSize) n).equeues = ctx.equeues ∧
        (rxCopyPayload ctx sock (ipHdrsLen + udpHdrSize) n).pkt = ctx.pkt := by
      unfold rxCopyPayload
      dsimp only
      split
      · exact ⟨rfl, rfl⟩
      · exact ⟨rfl, rfl⟩
    generalize rxCopyPayload ctx sock (ipHdrsLen + udpHdrSize) n = c at hcopy hsame ⊢
    have hq : (setSock c sid { sock with
        rxAvail := sock.rxAvail + n.toUInt32, rxCore := ctx.core.toNat }).equeues = ctx.equeues := hsame.1
    have hp : (setSock c sid { sock with
        rxAvail := sock.rxAvail + n.toUInt32, rxCore := ctx.core.toNat }).pkt = ctx.pkt := hsame.2
    rw [hq, hp, hqueue, Fifo.push_of_room (hroom hle)]
    refine .inr ⟨_, rfl, hfit, sockOf_setSock c sid _, hcopy, ?_⟩
    rw [EbpfCtx.setQueue_self]

/-! ## The invariant -/

/-- The bytes of a list of arrivals, one after the other. -/
def bytesOf (as : List Arrival) : List UInt8 := as.flatMap Arrival.payload

theorem bytesOf_append (as bs : List Arrival) : bytesOf (as ++ bs) = bytesOf as ++ bytesOf bs :=
  List.flatMap_append

theorem bytesOf_singleton (a : Arrival) : bytesOf [a] = a.payload := List.flatMap_singleton _ _

theorem bytesOf_cons (a : Arrival) (as : List Arrival) :
    bytesOf (a :: as) = a.payload ++ bytesOf as := List.flatMap_cons

/-- The bump of an arrival. -/
def bumpOf (opaquePtr : UInt64) (a : Arrival) : UdpQe :=
  .bumpAppRx opaquePtr a.core a.port a.ip (UInt32.ofNat a.payload.length)

/-- Bytes an entry to the fast path releases. -/
def chamRxBytes : UdpQe → Nat
  | .bumpChamRx _ _ n => n.toNat
  | _ => 0

/-- Both sides' counters, what is in flight, and the ring, with the arrivals
`done` read, `cur` announced, and `F` bytes released on the fast path. -/
structure RxInv (done cur : List Arrival) (F : Nat) (s : RxSys) : Prop where
  lenPos : 0 < s.lib.sock.rxLen.toNat
  lenBound : s.lib.sock.rxLen.toNat ≤ 2147483648
  rxLen : s.sock.rxLen = s.lib.sock.rxLen
  rxOff : s.sock.rxOff = s.lib.sock.rxBuf
  one : cur.length ≤ 1
  small : ∀ a ∈ cur ++ s.waiting, a.payload.length < 65536 ∧ a.core.toNat < maxFpCores
  fastHead : s.sock.rxHead.toNat = F % s.lib.sock.rxLen.toNat
  fastAvail : F + s.sock.rxAvail.toNat = (bytesOf (done ++ cur ++ s.waiting)).length
  fastBound : s.sock.rxAvail.toNat ≤ s.lib.sock.rxLen.toNat
  libHead : s.lib.sock.rxHead.toNat = (bytesOf done).length % s.lib.sock.rxLen.toNat
  libAvail : s.lib.sock.rxAvail.toNat = (bytesOf cur).length
  source : ∀ a ∈ cur, s.lib.sock.rxIp = a.ip ∧ s.lib.sock.rxPort = a.port ∧
    s.lib.sock.rxCore = a.core
  inFlight : F + Fifo.sumBelow chamRxBytes maxFpCores s.lib.appFastQs = (bytesOf done).length
  cham : ∀ c, ∀ e ∈ (s.lib.appFastQs c).items, ∃ core n, e = .bumpChamRx s.lib.sock.sockId core n
  far : ∀ c, maxFpCores ≤ c → (s.lib.appFastQs c).items = []
  app : ∀ c, (s.appQs c).items =
    (s.waiting.filter fun a => a.core.toNat == c).map (bumpOf s.sock.opaquePtr)
  holds : Holds s.shm s.lib.sock.rxBuf.toNat s.lib.sock.rxLen.toNat F
    (bytesOf (done ++ cur ++ s.waiting)).length
    (fun o => (bytesOf (done ++ cur ++ s.waiting)).getD o 0)

theorem RxInit.inv {s : RxSys} (h : RxInit s) : RxInv [] [] 0 s := by
  have hbytes : bytesOf ([] ++ [] ++ s.waiting) = [] := by rw [h.waiting]; rfl
  refine ⟨h.lenPos, h.lenBound, h.rxLen, h.rxOff, Nat.zero_le _, ?_, ?_, ?_, ?_, ?_, ?_, ?_, ?_, ?_,
    ?_, ?_, ?_⟩
  · rw [h.waiting]
    intro a ha
    exact absurd ha (by simp)
  · rw [h.fast.1]
    exact (Nat.zero_mod _).symm
  · rw [hbytes, h.fast.2]
    rfl
  · rw [h.fast.2]
    exact Nat.zero_le _
  · rw [h.lib.1]
    exact (Nat.zero_mod _).symm
  · rw [h.lib.2]
    rfl
  · intro a ha
    exact absurd ha (by simp)
  · rw [Fifo.sumBelow_empty h.cham]
    rfl
  · intro c e he
    rw [h.cham] at he
    exact absurd he (by simp)
  · exact fun c _ => h.cham c
  · intro c
    rw [h.app, h.waiting]
    rfl
  · rw [hbytes]
    intro o _ hhi
    exact absurd hhi (Nat.not_lt_zero o)

section step

variable {done cur : List Arrival} {F : Nat} {s : RxSys}

theorem RxInv.count (_h : RxInv done cur F s) :
    (bytesOf (done ++ cur ++ s.waiting)).length =
      (bytesOf done).length + (bytesOf cur).length + (bytesOf s.waiting).length := by
  rw [bytesOf_append, bytesOf_append, List.length_append, List.length_append]

/-! ## A packet -/

theorem RxSys.sockOf_load (env : UdpCtx) : sockOf (s.load env) s.sid = s.sock := if_pos rfl

theorem RxSys.queue_load (env : UdpCtx) :
    (s.load env).equeues (s.qid env.core) = s.appQs env.core.toNat := if_pos rfl

/-- The arrivals of one core, after one more arrival. -/
theorem ofCore_append (ws : List Arrival) (a : Arrival) (c : Nat) :
    (ws ++ [a]).filter (fun b => b.core.toNat == c) =
      ws.filter (fun b => b.core.toNat == c) ++ if a.core.toNat = c then [a] else [] := by
  rw [List.filter_append]
  congr 1
  by_cases hc : a.core.toNat = c
  · simp [hc]
  · simp [hc]

/-- The state after a datagram was appended to the ring. -/
theorem RxInv.arrived (h : RxInv done cur F s) {a : Arrival} {sock : UdpSock} {q : Fifo UdpQe}
    {shm : Nat → UInt8} {n : UInt32} {src : Nat → UInt8}
    (hlen : sock.rxLen = s.sock.rxLen) (hoff : sock.rxOff = s.sock.rxOff)
    (hhead : sock.rxHead = s.sock.rxHead) (hop : sock.opaquePtr = s.sock.opaquePtr)
    (havail : sock.rxAvail = s.sock.rxAvail + n) (hn : n.toNat = a.payload.length)
    (hsmall : a.payload.length < 65536) (hcore : a.core.toNat < maxFpCores)
    (hfit : s.sock.rxAvail.toNat + a.payload.length ≤ s.sock.rxLen.toNat)
    (hshm : shm = ringWrite s.shm s.sock.rxOff.toNat s.sock.rxLen.toNat
      ((s.sock.rxHead.toNat + s.sock.rxAvail.toNat) % s.sock.rxLen.toNat) src a.payload.length)
    (hsrc : ∀ i, i < a.payload.length → src i = a.payload.getD i 0)
    (hpush : (s.appQs a.core.toNat).push (bumpOf s.sock.opaquePtr a) = some q) :
    RxInv done cur F
      { s with
        sock, shm
        appQs := fun c => if c = a.core.toNat then q else s.appQs c
        waiting := s.waiting ++ [a] } := by
  have hcount := h.count
  have hav := h.fastAvail
  have hfly := h.inFlight
  have hlenB := h.lenBound
  have hbytes : bytesOf (done ++ cur ++ (s.waiting ++ [a])) =
      bytesOf (done ++ cur ++ s.waiting) ++ a.payload := by
    rw [← List.append_assoc, bytesOf_append _ [a], bytesOf_singleton]
  have hadd : (s.sock.rxAvail + n).toNat = s.sock.rxAvail.toNat + a.payload.length := by
    rw [toNat_add_of_lt (by rw [h.rxLen] at hfit; omega), hn]
  refine ⟨h.lenPos, h.lenBound, hlen.trans h.rxLen, hoff.trans h.rxOff, h.one, ?_, ?_, ?_, ?_,
    h.libHead, h.libAvail, h.source, h.inFlight, h.cham, h.far, ?_, ?_⟩
  · intro b hb
    rw [← List.append_assoc] at hb
    rcases List.mem_append.mp hb with hb | hb
    · exact h.small b hb
    · rw [List.mem_singleton.mp hb]
      exact ⟨hsmall, hcore⟩
  · rw [hhead]
    exact h.fastHead
  · dsimp only
    rw [havail, hadd, hbytes, List.length_append]
    omega
  · dsimp only
    rw [havail, hadd, ← h.rxLen]
    exact hfit
  · intro c
    dsimp only
    rw [hop, ofCore_append, List.map_append]
    by_cases hc : c = a.core.toNat
    · rw [if_pos hc, if_pos hc.symm, Fifo.push_items hpush, ← hc, h.app, List.map_singleton]
    · rw [if_neg hc, if_neg (fun he => hc he.symm), h.app, List.map_nil, List.append_nil]
  · -- the new bytes go behind everything received so far
    have hpos : (s.sock.rxHead.toNat + s.sock.rxAvail.toNat) % s.sock.rxLen.toNat =
        (bytesOf (done ++ cur ++ s.waiting)).length % s.lib.sock.rxLen.toNat := by
      rw [h.fastHead, h.rxLen, Nat.mod_add_mod, hav]
    have hw := @Holds.append _ _ _ _ _ _ a.payload src _ h.lenPos (by omega)
      (by rw [h.rxLen] at hfit; omega) hsrc h.holds
    dsimp only
    rw [hshm, hpos, h.rxOff, h.rxLen, hbytes]
    exact hw

theorem RxInv.headLt (h : RxInv done cur F s) :
    s.sock.rxHead.toNat < s.sock.rxLen.toNat := by
  rw [h.fastHead, h.rxLen]
  exact Nat.mod_lt _ h.lenPos

/-- **A packet** changes nothing, or its datagram waits behind the others. -/
theorem RxInv.rx (h : RxInv done cur F s) {env : UdpCtx} (hok : RxOk s (.rx env)) :
    ((s.rx env).2 = .quiet ∧ RxInv done cur F (s.rx env).1 ∧
      (s.rx env).1.waiting = s.waiting) ∨
    ∃ a, (s.rx env).2 = .received a ∧ RxInv done cur F (s.rx env).1 ∧
      (s.rx env).1.waiting = s.waiting ++ [a] := by
  unfold RxSys.rx
  dsimp only [RxOk] at hok
  cases hpick : rxPick (s.load env) with
  | none => exact .inl ⟨rfl, h, rfl⟩
  | some picked =>
    obtain ⟨i, ipHdrsLen, udpLength⟩ := picked
    rw [hpick] at hok
    dsimp only at hok ⊢
    by_cases hi : i ≠ s.sid
    · rw [if_pos hi]
      exact .inl ⟨rfl, h, rfl⟩
    · have hi' : i = s.sid := Decidable.of_not_not hi
      subst hi'
      rw [if_neg hi]
      obtain ⟨hul, hcore, ports, hdeliver⟩ := rxPick_some hpick
      rw [hdeliver]
      have hn : (udpLength - 8).toNat < 65536 := (udpLength - 8).toNat_lt
      have hcases := @rxDeliver_spec
        { s.load env with maps := { (s.load env).maps with ports } } s.sid ipHdrsLen udpLength s.sock
        (s.appQs env.core.toNat) hcore
        (RxSys.sockOf_load env) (RxSys.queue_load env) h.headLt (by rw [h.rxLen]; exact h.fastBound)
        (by rw [h.rxLen]; exact h.lenBound) (hok rfl)
      rcases hcases with hnone | ⟨ctx', hdel, hfit, hsock, hshm, hpush⟩
      · rw [hnone]
        refine .inl ⟨rfl, ?_, rfl⟩
        have hsame : (fun c => if c = env.core.toNat then (s.load env).equeues (s.qid env.core)
            else s.appQs c) = s.appQs := by
          funext c
          by_cases hc : c = env.core.toNat
          · rw [if_pos hc, RxSys.queue_load, hc]
          · rw [if_neg hc]
        dsimp only
        rw [show (s.load env).maps.socks s.sid = s.sock from RxSys.sockOf_load env, hsame]
        exact h
      · rw [hdel]
        refine .inr ⟨arrivalOf (s.load env) ipHdrsLen udpLength, rfl, ?_, rfl⟩
        have hplen : (arrivalOf (s.load env) ipHdrsLen udpLength).payload.length =
            (udpLength - 8).toNat := by
          unfold arrivalOf
          rw [List.length_map, List.length_range]
        have hbump : bumpOf s.sock.opaquePtr (arrivalOf (s.load env) ipHdrsLen udpLength) =
            .bumpAppRx s.sock.opaquePtr env.core (udpSrc env.pkt ipHdrsLen) (ipSrc env.pkt)
              (udpLength - 8).toUInt32 := by
          have hword : UInt32.ofNat (udpLength - 8).toNat = (udpLength - 8).toUInt32 := by
            apply UInt32.toNat_inj.mp
            rw [UInt32.toNat_ofNat_of_lt' (show (udpLength - 8).toNat < 4294967296 by omega),
              UInt16.toNat_toUInt32]
          unfold bumpOf
          rw [hplen, hword]
          rfl
        have harr := @RxInv.arrived _ _ _ _ h (arrivalOf (s.load env) ipHdrsLen udpLength)
          (sockOf ctx' s.sid) (ctx'.equeues (s.qid env.core)) ctx'.shm (udpLength - 8).toUInt32
          (fun i => env.pkt (ipHdrsLen + udpHdrSize + i))
          (by rw [hsock]) (by rw [hsock]) (by rw [hsock]) (by rw [hsock]) (by rw [hsock])
          (by rw [hplen, UInt16.toNat_toUInt32]) (by omega) hcore (by rw [hplen]; exact hfit)
          (by rw [hplen]; exact hshm) (by
            intro i hi
            rw [hplen] at hi
            unfold arrivalOf
            rw [List.getD_eq_getElem?_getD, List.getElem?_map, List.getElem?_range hi]
            rfl)
          (by rw [hbump]; exact hpush)
        exact harr

/-! ## An entry taken by the fast path -/

theorem udpEventDeq_rx {ctx : UdpCtx} {sockId : UInt32} {core : UInt16} {n : UInt32}
    (hqe : ctx.qe = .bumpChamRx sockId core n) :
    (udpEventDeq ctx).2 = none ∨
      udpEventDeq ctx = (setSock ctx sockId.toNat
        { sockOf ctx sockId.toNat with
          rxHead := wrapAdd (sockOf ctx sockId.toNat).rxHead n (sockOf ctx sockId.toNat).rxLen
          rxAvail := (sockOf ctx sockId.toNat).rxAvail - n }, some 0) := by
  unfold udpEventDeq handleBumpRx
  rw [hqe]
  split
  · exact .inl rfl
  · dsimp only
    split
    · exact .inl rfl
    · split
      · exact .inl rfl
      · exact .inr rfl

/-- **A release** leaves the arrivals alone. -/
theorem RxInv.deq (h : RxInv done cur F s) (core : Nat) (env : UdpCtx) :
    ∃ F', RxInv done cur F' (s.deq core env) ∧ (s.deq core env).waiting = s.waiting := by
  unfold RxSys.deq
  cases hhead : (s.lib.appFastQs core).head? with
  | none => exact ⟨F, h, rfl⟩
  | some e =>
    obtain ⟨c, n, rfl⟩ := h.cham core e (Fifo.head_mem hhead)
    have hcore : core < maxFpCores := by
      apply Decidable.by_contra
      intro hfar
      have hmem := Fifo.head_mem hhead
      rw [h.far core (Nat.le_of_not_lt hfar)] at hmem
      exact absurd hmem (by simp)
    dsimp only
    cases hd : udpEventDeq { s.load env with qe := .bumpChamRx s.lib.sock.sockId c n } with
    | mk ctx ret =>
      cases ret with
      | none => exact ⟨F, h, rfl⟩
      | some k =>
        have hcases := @udpEventDeq_rx
          { s.load env with qe := .bumpChamRx s.lib.sock.sockId c n } _ _ _ rfl
        rw [hd] at hcases
        have heq := hcases.resolve_left nofun
        have hsock : sockOf ctx s.sid = { s.sock with
            rxHead := wrapAdd s.sock.rxHead n s.sock.rxLen, rxAvail := s.sock.rxAvail - n } := by
          rw [show ctx = _ from congrArg Prod.fst heq]
          have hload : sockOf { s.load env with qe := .bumpChamRx s.lib.sock.sockId c n }
              s.lib.sock.sockId.toNat = s.sock := RxSys.sockOf_load env
          rw [hload]
          exact sockOf_setSock _ _ _
        have hpop := Fifo.pop_sum chamRxBytes hhead
        change _ = n.toNat + _ at hpop
        have hchange := @Fifo.sumBelow_change _ chamRxBytes _ _ s.lib.appFastQs
          (s.lib.setQueue core (s.lib.appFastQs core).pop).appFastQs hcore
          (fun j hj => if_neg hj)
        have hnew : (s.lib.setQueue core (s.lib.appFastQs core).pop).appFastQs core =
            (s.lib.appFastQs core).pop := if_pos rfl
        rw [hnew] at hchange
        have hfly := h.inFlight
        have hav := h.fastAvail
        have hcount := h.count
        have hb := h.fastBound
        have hlenB := h.lenBound
        have hhl := h.headLt
        have hle : n.toNat ≤ s.sock.rxAvail.toNat := by omega
        dsimp only
        refine ⟨F + n.toNat, ⟨h.lenPos, h.lenBound, ?_, ?_, h.one, h.small, ?_, ?_, ?_, h.libHead,
          h.libAvail, h.source, ?_, ?_, ?_, ?_, ?_⟩, rfl⟩
        all_goals try rw [show ctx.maps.socks s.sid = _ from hsock]
        · exact h.rxLen
        · exact h.rxOff
        · show (wrapAdd s.sock.rxHead n s.sock.rxLen).toNat = _
          rw [toNat_wrapAdd hhl (by rw [h.rxLen]; omega) (by rw [h.rxLen] at hhl; omega), h.fastHead,
            h.rxLen, Nat.mod_add_mod]
          rfl
        · show F + n.toNat + (s.sock.rxAvail - n).toNat = _
          rw [toNat_sub_of_le hle]
          show _ = (bytesOf (done ++ cur ++ s.waiting)).length
          omega
        · show (s.sock.rxAvail - n).toNat ≤ s.lib.sock.rxLen.toNat
          rw [toNat_sub_of_le hle]
          omega
        · show F + n.toNat + Fifo.sumBelow chamRxBytes maxFpCores
            (s.lib.setQueue core (s.lib.appFastQs core).pop).appFastQs = _
          omega
        · intro j e he
          by_cases hj : j = core
          · rw [hj, hnew] at he
            exact h.cham core e (Fifo.pop_mem he)
          · rw [show (s.lib.setQueue core (s.lib.appFastQs core).pop).appFastQs j = _ from
              if_neg hj] at he
            exact h.cham j e he
        · intro j hj
          rw [show (s.lib.setQueue core (s.lib.appFastQs core).pop).appFastQs j = _ from
            if_neg (by omega)]
          exact h.far j hj
        · exact h.app
        · exact h.holds.shrink (by omega) (Nat.le_refl _)

/-! ## An entry taken by the library -/

theorem handedOf_append (as bs : List Arrival) :
    handedOf (as ++ bs) = handedOf as ++ handedOf bs := by
  unfold handedOf
  rw [List.filter_append, List.map_append]

/-- Arrivals without a byte come to nothing. -/
theorem handedOf_empty {as : List Arrival} (h : bytesOf as = []) : handedOf as = [] := by
  induction as with
  | nil => rfl
  | cons a as ih =>
    rw [bytesOf_cons] at h
    obtain ⟨ha, has⟩ := List.append_eq_nil_iff.mp h
    unfold handedOf at ih ⊢
    rw [List.filter_cons_of_neg (by simp [ha])]
    exact ih has

/-- **The bump of the oldest arrival**, taken with nothing left to read,
makes it the one to be read next. -/
theorem RxInv.poll (h : RxInv done cur F s) {core : Nat} (hok : RxOk s (.poll core)) :
    ∃ done' cur', RxInv done' cur' F (s.poll core) ∧ handedOf done' = handedOf done ∧
      done' ++ cur' ++ (s.poll core).waiting = done ++ cur ++ s.waiting := by
  unfold RxSys.poll
  dsimp only [RxOk] at hok
  have happ := h.app core
  cases hhead : (s.appQs core).head? with
  | none => exact ⟨done, cur, h, rfl, rfl⟩
  | some e =>
    have hitems := Fifo.head_cons hhead
    obtain ⟨hzero, hfirst⟩ := hok (by rw [hitems]; simp)
    cases hw : s.waiting with
    | nil =>
      rw [hw] at hfirst
      exact absurd hfirst (by simp)
    | cons a ws =>
      rw [hw] at hfirst
      have hcore : a.core.toNat = core := Option.some.inj hfirst
      rw [hw, List.filter_cons_of_pos (by simp [hcore]), List.map_cons, hitems] at happ
      obtain ⟨he, htail⟩ := List.cons.inj happ
      -- what was announced before has no bytes left to read
      have hcur : bytesOf cur = [] := by
        have := h.libAvail
        rw [hzero] at this
        exact List.length_eq_zero_iff.mp this.symm
      have hdone : bytesOf (done ++ cur) = bytesOf done := by
        rw [bytesOf_append, hcur, List.append_nil]
      have hlist : done ++ cur ++ [a] ++ ws = done ++ cur ++ s.waiting := by rw [hw]; simp
      have hsmall := h.small a (by rw [hw]; simp)
      have hn : (UInt32.ofNat a.payload.length).toNat = a.payload.length :=
        UInt32.toNat_ofNat_of_lt' (show a.payload.length < 4294967296 by omega)
      have herase : (a :: ws).eraseP (fun b => b.core.toNat == core) = ws :=
        List.eraseP_cons_of_pos (by simp [hcore])
      have hnext : RxInv (done ++ cur) [a] F
          { s with
            lib := { s.lib with
              sock := handleRxBump s.lib.sock a.core a.port a.ip (UInt32.ofNat a.payload.length) }
            appQs := fun c => if c = core then (s.appQs core).pop else s.appQs c
            waiting := ws } := by
        refine ⟨h.lenPos, h.lenBound, h.rxLen, h.rxOff, Nat.le_refl _, ?_, h.fastHead, ?_,
          h.fastBound, ?_, ?_, ?_, ?_, h.cham, h.far, ?_, ?_⟩
        · intro b hb
          refine h.small b (List.mem_append_right cur ?_)
          rw [hw]
          exact hb
        · dsimp only
          rw [hlist]
          exact h.fastAvail
        · rw [hdone]
          exact h.libHead
        · show (s.lib.sock.rxAvail + UInt32.ofNat a.payload.length).toNat = _
          rw [hzero, UInt32.zero_add, hn, bytesOf_singleton]
        · intro b hb
          rw [List.mem_singleton.mp hb]
          exact ⟨rfl, rfl, rfl⟩
        · rw [hdone]
          exact h.inFlight
        · intro c
          dsimp only
          by_cases hc : c = core
          · rw [if_pos hc, hc]
            exact htail
          · rw [if_neg hc, h.app, hw, List.filter_cons_of_neg (by
              simp only [beq_iff_eq]
              omega)]
        · dsimp only
          rw [hlist]
          exact h.holds
      refine ⟨done ++ cur, [a], ?_, ?_, ?_⟩
      · rw [he]
        dsimp only [bumpOf, libHandleEntry]
        rw [herase]
        exact hnext
      · rw [handedOf_append, handedOf_empty hcur, List.append_nil]
      · rw [he]
        dsimp only [bumpOf, libHandleEntry]
        rw [herase, hlist, hw]

/-! ## A call of `udp_recvfrom` -/

/-- The bytes copied out, for lengths an `int` can hold. -/
theorem libCopyOut_eq {sock : UdpSocketLib} (shm : Nat → UInt8) {n : UInt32}
    (hhead : sock.rxHead.toNat < sock.rxLen.toNat) (hfit : n.toNat ≤ sock.rxLen.toNat)
    (hov : sock.rxHead.toNat + sock.rxLen.toNat < 4294967296) (hint : n.toNat < 2147483648) :
    libCopyOut sock shm n =
      some ((List.range n.toNat).map
        (ringRead shm sock.rxBuf.toNat sock.rxLen.toNat sock.rxHead.toNat n.toNat)) := by
  have hneg : ¬ s32 n < 0 := by
    rw [s32_neg_iff]
    omega
  rw [← ringRead_words shm sock.rxBuf.toNat hhead hfit hov]
  unfold libCopyOut
  dsimp only
  rw [if_neg hneg]
  split <;> rfl

/-- The state after the datagram announced was read. -/
theorem RxInv.taken {a : Arrival} (h : RxInv done [a] F s) {q : Fifo UdpQe}
    (hpush : (s.lib.appFastQs s.lib.sock.rxCore.toNat).push
      (.bumpChamRx s.lib.sock.sockId s.lib.sock.rxCore s.lib.sock.rxAvail) = some q) :
    RxInv (done ++ [a]) []  F
      { s with
        lib := ({ s.lib with
          sock := libConsumeRx s.lib.sock s.lib.sock.rxAvail } : UdpLib).setQueue
            s.lib.sock.rxCore.toNat q } := by
  obtain ⟨-, hcore⟩ := h.small a (by simp)
  obtain ⟨-, -, hrxCore⟩ := h.source a (by simp)
  have hav := h.libAvail
  rw [bytesOf_singleton] at hav
  have hfly := h.inFlight
  have hcount := h.count
  rw [bytesOf_singleton] at hcount
  have hfast := h.fastAvail
  have hb := h.fastBound
  have hlenB := h.lenBound
  have hhl : s.lib.sock.rxHead.toNat < s.lib.sock.rxLen.toNat := by
    rw [h.libHead]
    exact Nat.mod_lt _ h.lenPos
  rw [← hrxCore] at hcore
  have hlist : done ++ [a] ++ [] ++ s.waiting = done ++ [a] ++ s.waiting := by simp
  have hbytes : (bytesOf (done ++ [a])).length = (bytesOf done).length + a.payload.length := by
    rw [bytesOf_append, bytesOf_singleton, List.length_append]
  generalize hl : ({ s.lib with
    sock := libConsumeRx s.lib.sock s.lib.sock.rxAvail } : UdpLib).setQueue
      s.lib.sock.rxCore.toNat q = lib'
  have hsock : lib'.sock = libConsumeRx s.lib.sock s.lib.sock.rxAvail := by rw [← hl]; rfl
  have hnew : lib'.appFastQs s.lib.sock.rxCore.toNat = q := by rw [← hl]; exact if_pos rfl
  have hother : ∀ j, j ≠ s.lib.sock.rxCore.toNat → lib'.appFastQs j = s.lib.appFastQs j := by
    intro j hj
    rw [← hl]
    exact if_neg hj
  have hchange := Fifo.sumBelow_change (f := chamRxBytes) hcore hother
  rw [hnew, Fifo.push_sum chamRxBytes hpush] at hchange
  change _ = _ + (_ + s.lib.sock.rxAvail.toNat) at hchange
  have hlen' : lib'.sock.rxLen = s.lib.sock.rxLen := by rw [hsock]; rfl
  have hbuf' : lib'.sock.rxBuf = s.lib.sock.rxBuf := by rw [hsock]; rfl
  have hid' : lib'.sock.sockId = s.lib.sock.sockId := by rw [hsock]; rfl
  refine ⟨?_, ?_, ?_, ?_, Nat.zero_le _, ?_, ?_, ?_, ?_, ?_, ?_, ?_, ?_, ?_, ?_, h.app, ?_⟩
  all_goals dsimp only
  · rw [hlen']
    exact h.lenPos
  · rw [hlen']
    exact h.lenBound
  · rw [hlen']
    exact h.rxLen
  · rw [hbuf']
    exact h.rxOff
  · intro b hb
    exact h.small b (List.mem_append_right _ hb)
  · rw [hlen']
    exact h.fastHead
  · rw [hlist]
    exact hfast
  · rw [hlen']
    exact hb
  · rw [hlen', hsock]
    show (wrapAdd s.lib.sock.rxHead s.lib.sock.rxAvail s.lib.sock.rxLen).toNat = _
    rw [toNat_wrapAdd hhl (by omega) (by omega), h.libHead, Nat.mod_add_mod, hav, hbytes]
  · rw [hsock]
    show (s.lib.sock.rxAvail - s.lib.sock.rxAvail).toNat = 0
    rw [UInt32.sub_self]
    rfl
  · intro b hb
    exact absurd hb (by simp)
  · rw [hbytes]
    omega
  · intro j e he
    rw [hid']
    by_cases hj : j = s.lib.sock.rxCore.toNat
    · rw [hj, hnew] at he
      rcases (Fifo.mem_push hpush).mp he with he | he
      · exact h.cham _ e he
      · exact ⟨_, _, he⟩
    · rw [hother j hj] at he
      exact h.cham j e he
  · intro j hj
    rw [hother j (by omega)]
    exact h.far j hj
  · rw [hlen', hbuf', hlist]
    exact h.holds

/-- **A read** returns nothing, or the datagram announced. -/
theorem RxInv.recvfrom (h : RxInv done cur F s) {len : Nat} (hok : RxOk s (.recvfrom len)) :
    ((s.recvfrom len).2 = .quiet ∧ (s.recvfrom len).1 = s) ∨
    ∃ a, cur = [a] ∧ a.payload ≠ [] ∧
      (s.recvfrom len).2 = .returned a.payload a.ip a.port ∧
      RxInv (done ++ [a]) [] F (s.recvfrom len).1 ∧ (s.recvfrom len).1.waiting = s.waiting := by
  unfold RxSys.recvfrom udpRecvfrom
  dsimp only [RxOk] at hok ⊢
  by_cases hzero : recvLen s.lib.sock len = 0
  · rw [if_pos hzero]
    exact .inl ⟨rfl, rfl⟩
  · rw [if_neg hzero]
    have hall := hok.resolve_left hzero
    rw [hall]
    cases hpush : (s.lib.appFastQs s.lib.sock.rxCore.toNat).push
        (.bumpChamRx s.lib.sock.sockId s.lib.sock.rxCore s.lib.sock.rxAvail) with
    | none => exact .inl ⟨rfl, rfl⟩
    | some q =>
      have hav := h.libAvail
      have hone := h.one
      cases hcur : cur with
      | nil =>
        rw [hcur] at hav
        exact absurd (hall.trans ((u32_eq_zero_iff _).mpr hav)) hzero
      | cons a rest =>
        have hrest : rest = [] := by
          rw [hcur, List.length_cons] at hone
          exact List.length_eq_zero_iff.mp (by omega)
        rw [hrest] at hcur
        rw [hcur, bytesOf_singleton] at hav
        have hmem : a ∈ cur := by rw [hcur]; exact List.mem_singleton_self a
        obtain ⟨hsmall, hcore⟩ := h.small a (List.mem_append_left _ hmem)
        obtain ⟨hip, hport, hrxCore⟩ := h.source a hmem
        have hfly := h.inFlight
        have hfast := h.fastAvail
        have hcount := h.count
        have hb := h.fastBound
        have hlenB := h.lenBound
        rw [hcur, bytesOf_singleton] at hcount
        rw [hcur] at hfast
        have hhl : s.lib.sock.rxHead.toNat < s.lib.sock.rxLen.toNat := by
          rw [h.libHead]
          exact Nat.mod_lt _ h.lenPos
        have hbytes : (List.range s.lib.sock.rxAvail.toNat).map
            (ringRead s.shm s.lib.sock.rxBuf.toNat s.lib.sock.rxLen.toNat s.lib.sock.rxHead.toNat
              s.lib.sock.rxAvail.toNat) = a.payload := by
          have hholds := h.holds
          rw [hcur, bytesOf_append, bytesOf_append, bytesOf_singleton] at hholds
          rw [hav, h.libHead]
          refine hholds.readPart h.lenPos (by omega) ?_ (by omega)
          rw [List.length_append, List.length_append]
          omega
        have hpos : 0 < s.lib.sock.rxAvail.toNat := by
          have : ¬ s.lib.sock.rxAvail = 0 := fun hz => hzero (hall.trans hz)
          rw [u32_eq_zero_iff] at this
          omega
        have hret : s32 s.lib.sock.rxAvail > 0 := (s32_pos_iff _).mpr ⟨hpos, by omega⟩
        rw [libCopyOut_eq s.shm hhl (by omega) (by omega) (by omega), hbytes]
        dsimp only
        rw [if_pos hret, hip, hport]
        refine .inr ⟨a, by rw [hrest], fun hnil => ?_, rfl, ?_, rfl⟩
        · rw [hnil] at hav
          exact absurd hav (Nat.ne_of_gt hpos)
        · rw [hcur] at h
          exact h.taken hpush

end step

/-! ## Every run -/

/-- The log is in order with the state. -/
def RxLogged (log : List RxOut) (s : RxSys) : Prop :=
  ∃ done cur F, receivedOf log = done ++ cur ++ s.waiting ∧ returnedOf log = handedOf done ∧
    RxInv done cur F s

theorem receivedOf_append (log : List RxOut) (o : RxOut) :
    receivedOf (log ++ [o]) = receivedOf log ++ receivedOf [o] := List.filterMap_append

theorem returnedOf_append (log : List RxOut) (o : RxOut) :
    returnedOf (log ++ [o]) = returnedOf log ++ returnedOf [o] := List.filterMap_append

/-- A step that shows nothing. -/
theorem RxLogged.quiet {log : List RxOut} {s : RxSys} {done cur : List Arrival} {F : Nat}
    (hrec : receivedOf log = done ++ cur ++ s.waiting) (hret : returnedOf log = handedOf done)
    (h : RxInv done cur F s) : RxLogged (log ++ [.quiet]) s := by
  refine ⟨done, cur, F, ?_, ?_, h⟩
  · rw [receivedOf_append, hrec]
    exact List.append_nil _
  · rw [returnedOf_append, hret]
    exact List.append_nil _

/-- One step keeps the log and the state in order. -/
theorem RxLogged.step {log : List RxOut} {s : RxSys} {a : RxAct} (h : RxLogged log s)
    (hok : RxOk s a) : RxLogged (log ++ [(s.step a).2]) (s.step a).1 := by
  obtain ⟨done, cur, F, hrec, hret, hinv⟩ := h
  cases a with
  | rx env =>
    show RxLogged (log ++ [(s.rx env).2]) (s.rx env).1
    rcases hinv.rx hok with ⟨hq, hinv', hw⟩ | ⟨a, hq, hinv', hw⟩
    · rw [hq]
      exact RxLogged.quiet (by rw [hw]; exact hrec) hret hinv'
    · rw [hq]
      refine ⟨done, cur, F, ?_, ?_, hinv'⟩
      · rw [receivedOf_append, hrec, hw, ← List.append_assoc]
        rfl
      · rw [returnedOf_append, hret]
        exact List.append_nil _
  | deq core env =>
    obtain ⟨F', hinv', hw⟩ := hinv.deq core env
    show RxLogged (log ++ [.quiet]) (s.deq core env)
    exact RxLogged.quiet (by rw [hw]; exact hrec) hret hinv'
  | poll core =>
    obtain ⟨done', cur', hinv', hdone, hlist⟩ := hinv.poll hok
    exact RxLogged.quiet (hrec.trans hlist.symm) (hret.trans hdone.symm) hinv'
  | recvfrom len =>
    show RxLogged (log ++ [(s.recvfrom len).2]) (s.recvfrom len).1
    rcases hinv.recvfrom hok with ⟨hq, hs⟩ | ⟨a, rfl, hne, hq, hinv', hw⟩
    · rw [hq, hs]
      exact RxLogged.quiet hrec hret hinv
    · rw [hq]
      refine ⟨done ++ [a], [], F, ?_, ?_, hinv'⟩
      · rw [receivedOf_append, hrec, hw, List.append_nil]
        exact List.append_nil _
      · rw [returnedOf_append, hret, handedOf_append]
        congr 1
        unfold handedOf
        rw [List.filter_cons_of_pos (by simpa using hne)]
        rfl

/-- **Datagram boundaries and sources.** In every run that meets the
condition, what the calls of `udp_recvfrom` returned is, call by call, the
datagrams received, in the order they were received, each whole and with the
address and port it came from. -/
theorem udp_rx_boundaries {s₀ s : RxSys} {log : List RxOut} (h₀ : RxInit s₀)
    (hrun : Run RxOk RxSys.step s₀ log s) :
    returnedOf log <+: handedOf (receivedOf log) := by
  have hlog : RxLogged log s := by
    refine hrun.inv (I := RxLogged) ?_ (fun _ _ _ h hok => h.step hok)
    exact ⟨[], [], 0, by rw [h₀.waiting]; rfl, rfl, h₀.inv⟩
  obtain ⟨done, cur, F, hrec, hret, -⟩ := hlog
  rw [hret, hrec, List.append_assoc, handedOf_append]
  exact List.prefix_append _ _

/-! ## Runs -/

/-- Socket 3 with a ring of eight bytes. -/
def freshRx : RxSys :=
  { sock :=
      { id := 3, opaquePtr := 0xa0, txCore := 0, rxCore := -1, appBumpQids := fun c => UInt16.ofNat c,
        localIp := 7, localPort := 2000, reuport := false, rxLen := 8, rxAvail := 0, rxHead := 0,
        rxOff := 0, txLen := 0, txAvail := 0, txHead := 0, txOff := 0 }
    lib :=
      { sock :=
          { sockId := 3, txCore := 0, rxCore := 0, rxPort := 0, rxIp := 0, txPort := 0, txIp := 0,
            rxLen := 8, rxAvail := 0, rxHead := 0, rxBuf := 0, txLen := 0, txAvail := 0,
            txHead := 0, txBuf := 0 }
        appFastQs := fun _ => { items := [], nelems := 4 } }
    shm := fun _ => 0
    appQs := fun _ => { items := [], nelems := 4 }
    waiting := [] }

theorem freshRx_init : RxInit freshRx :=
  ⟨by decide, by decide, rfl, rfl, ⟨rfl, rfl⟩, ⟨rfl, rfl⟩, fun _ => rfl, fun _ => rfl, rfl⟩

/-- A datagram from host `host` to port 2000, which socket 3 has. -/
def packetFrom (host : UInt8) (payload : List UInt8) : UdpCtx :=
  { pkt := fun i =>
      ([0x45, 0, 0, 28 + UInt8.ofNat payload.length, 0, 0, 0, 0, 64, 17, 0, 0, 0, 0, 0, host,
        10, 0, 0, 2, 0x04, 0x00, 0x07, 0xd0, 0, 8 + UInt8.ofNat payload.length, 0, 0] ++
        payload).getD i 0
    pktRoom := 1500, shm := fun _ => 0, shmLen := 256
    sched := Util.schedInit, qe := .unknown, qeOff := 0, ncores := 1, core := 0
    dqueues := fun _ => { q := { items := [], nelems := 4 }, off := 0, elsize := 32, head := 0 }
    equeues := fun _ => { items := [], nelems := 4 }
    maps :=
      { ports := fun _ => { nsocks := 1, nextSock := fun _ => 0, sids := fun _ => 3 }
        socks := fun _ => freshRx.sock
        sockNelems := 8, nextPort := none }
    clk := { readings := fun _ => 0, reads := 0, tscToUs := id, cyclesPerUs := 1 } }

/-- Two datagrams, each read before the bump of the next is taken. -/
def inTurnRun : List RxAct :=
  [.rx (packetFrom 1 [1, 2]), .rx (packetFrom 2 [3]), .poll 0, .recvfrom 8, .poll 0, .recvfrom 8]

/-- Both come out as they came in. -/
theorem udp_rx_boundaries_in_turn :
    returnedOf (execAll RxSys.step inTurnRun freshRx).1 <+:
        handedOf (receivedOf (execAll RxSys.step inTurnRun freshRx).1) ∧
      returnedOf (execAll RxSys.step inTurnRun freshRx).1 =
        [([1, 2], 1, 1024), ([3], 2, 1024)] := by
  have hrun := @Run.execOk _ _ _ RxOk _ RxSys.step freshRx inTurnRun _ _ Run.nil (by decide)
  exact ⟨udp_rx_boundaries freshRx_init hrun, by decide⟩

/-- The same datagrams, with both bumps taken before the read. -/
def mergedRun : List RxAct :=
  [.rx (packetFrom 1 [1, 2]), .rx (packetFrom 2 [3]), .poll 0, .poll 0, .recvfrom 8]

/-- One call returns the bytes of both, with the source of the second. -/
theorem udp_rx_boundaries_merged :
    receivedOf (execAll RxSys.step mergedRun freshRx).1 =
        [{ core := 0, payload := [1, 2], ip := 1, port := 1024 },
          { core := 0, payload := [3], ip := 2, port := 1024 }] ∧
      returnedOf (execAll RxSys.step mergedRun freshRx).1 = [([1, 2, 3], 2, 1024)] ∧
      ∀ a ∈ receivedOf (execAll RxSys.step mergedRun freshRx).1, ¬ [1, 2, 3] <+: a.payload := by
  decide

end Chamelio.Udp
