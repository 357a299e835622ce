import Chamelio.Lib.Run
import Chamelio.Tcp.FastDeq
import Chamelio.Tcp.SlowTx

/-!
# Control signals and their packets

A control packet crosses between the fast path and the slow path split over
two queues: the packet in one, a signal that it is there in the other. One
pair of queues per fast-path core leads to the slow path (`rx_punt_ctl`,
`tcp_fast_poll`), one pair leads back (`ctl_pkt_enqueue`,
`deq_handle_ctl_tx`), and the signal queue back also carries the retransmit
commands of `tcp_tx_retransmit`.

Each of these functions is cut at its queue operations, so that the two
sides of a pair interleave between any two of them. A queue operation is one
step on the `Fifo` of its entries: `Util.Queue` shows that the ring behaves
as one, with `queue_enqueue` taking effect at its store of the type byte.

Mirroring notes:
- Cores, pairs and directions share no queue, so a side that runs on a
  thread with other work is a side that may pause anywhere.
- Outcomes that depend on addresses and lengths (the header fits the packet
  buffer, the entry lies inside the shared memory, the socket of a command
  exists) are left open: the step carries the answer.
- The bytes of an entry are a list, so a header is taken to fit its entry;
  `Tcp.Punt` is about those that do not.
- The batch limit and the order of cores in `tcp_fast_poll` only decide
  when a side pauses.
-/

namespace Chamelio.Tcp

open Chamelio.Lib Chamelio.Util Chamelio.Pkt Chamelio.Fast

/-- An entry of a signal queue and the packet enqueued with it, if any. -/
abbrev CtlMsg := TcpQe × Option TcpQe

/-- Where a producer is. -/
inductive CtlProd
  | idle
  /-- `queue_tail` returned an entry of the packet queue. -/
  | pktTail (pkt : TcpQe)
  /-- `queue_tail` returned one of the signal queue, too. -/
  | sigTail (pkt : TcpQe)
  /-- Both entries are filled. -/
  | filled (pkt : TcpQe)
  /-- The packet is in its queue, the signal is not. -/
  | pktIn (pkt : TcpQe)
  /-- `tcp_tx_retransmit` has an entry of the signal queue. -/
  | cmdTail (cmd : TcpQe)

/-- The two queues of a pair. -/
inductive CtlQueue
  | sig
  | pkt
  deriving DecidableEq

/-- Where a consumer is. -/
inductive CtlCons
  | idle
  /-- `queue_head` returned this signal. -/
  | gotSig (sig : TcpQe)
  /-- `queue_head` returned this packet for the signal. -/
  | gotPkt (sig pkt : TcpQe)
  /-- The packet was processed. -/
  | done (sig pkt : TcpQe)
  /-- The packet was dequeued, the signal was not. -/
  | pktOut (sig pkt : TcpQe)
  /-- These dequeues are left, whatever is at the heads. -/
  | drain (q : CtlQueue) (left : List CtlQueue)

/-- One pair of queues with both sides, what was produced and what was
consumed. -/
structure CtlChan where
  sigQ : Fifo TcpQe
  pktQ : Fifo TcpQe
  prod : CtlProd
  cons : CtlCons
  produced : List CtlMsg
  consumed : List CtlMsg

/-- Two empty queues of `n` entries. -/
def CtlChan.init (n : Nat) : CtlChan :=
  { sigQ := ⟨[], n⟩, pktQ := ⟨[], n⟩, prod := .idle, cons := .idle, produced := [], consumed := [] }

/-- Steps of a producer. -/
inductive ProdAct
  | pktTail (bytes : List UInt8)
  | sigTail
  /-- The header check, where there is one, and the fill. -/
  | fill (ok : Bool)
  | enqPkt
  | enqSig
  | cmdTail (sockId txSeq txPending : UInt32)
  | cmdEnq

/-- Steps of a consumer. -/
inductive ConsAct
  | headSig
  | headPkt
  /-- The handler's own work and whether it goes well. -/
  | handle (ok : Bool)
  | deqPkt
  | deqSig
  | drain

/-- What a step shows. -/
inductive CtlObs
  | none
  /-- The producer returned. -/
  | ret (ok : Bool)
  /-- `queue_enqueue` refused the signal of a packet that is in its queue. -/
  | sigRefused
  /-- A signal whose packet is missing. -/
  | missing
  /-- A signal whose packet has another type. -/
  | mistyped
  deriving DecidableEq

/-! ## Producers -/

/-- The common part of `rx_punt_ctl` and `ctl_pkt_enqueue`; `checks` says
that there is a header check. -/
def ctlPktStep (sig : TcpQe) (mkPkt : List UInt8 → TcpQe) (checks : Bool) (c : CtlChan) :
    ProdAct → CtlChan × CtlObs
  | .pktTail bytes =>
    match c.prod with
    | .idle =>
      if c.pktQ.hasRoom then ({ c with prod := .pktTail (mkPkt bytes) }, .none)
      else (c, .ret false)
    | _ => (c, .none)
  | .sigTail =>
    match c.prod with
    | .pktTail pkt =>
      if c.sigQ.hasRoom then ({ c with prod := .sigTail pkt }, .none)
      else ({ c with prod := .idle }, .ret false)
    | _ => (c, .none)
  | .fill ok =>
    match c.prod with
    | .sigTail pkt =>
      if checks && !ok then ({ c with prod := .idle }, .ret false)
      else ({ c with prod := .filled pkt }, .none)
    | _ => (c, .none)
  | .enqPkt =>
    match c.prod with
    | .filled pkt =>
      match c.pktQ.push pkt with
      | none => ({ c with prod := .idle }, .ret false)
      | some q => ({ c with pktQ := q, prod := .pktIn pkt }, .none)
    | _ => (c, .none)
  | .enqSig =>
    match c.prod with
    | .pktIn pkt =>
      match c.sigQ.push sig with
      | none => ({ c with prod := .idle }, .sigRefused)
      | some q =>
        ({ c with sigQ := q, prod := .idle, produced := c.produced ++ [(sig, some pkt)] },
          .ret true)
    | _ => (c, .none)
  | _ => (c, .none)

/-- `rx_punt_ctl` on a core. -/
def rxPuntCtlStep (core : UInt16) : CtlChan → ProdAct → CtlChan × CtlObs :=
  ctlPktStep .ctlRx (fun bytes => .ctlRxPkt bytes core) true

/-- `ctl_pkt_enqueue`. -/
def ctlPktEnqueueStep : CtlChan → ProdAct → CtlChan × CtlObs :=
  ctlPktStep .ctlTx .ctlTxPkt false

/-- `tcp_tx_retransmit`, and `ctl_pkt_enqueue` for the other steps. -/
def slowTxStep (c : CtlChan) (a : ProdAct) : CtlChan × CtlObs :=
  match a with
  | .cmdTail sockId txSeq txPending =>
    match c.prod with
    | .idle =>
      if c.sigQ.hasRoom then
        ({ c with prod := .cmdTail (.txRetransmit sockId txSeq txPending) }, .none)
      else (c, .ret false)
    | _ => (c, .none)
  | .cmdEnq =>
    match c.prod with
    | .cmdTail cmd =>
      match c.sigQ.push cmd with
      | none => ({ c with prod := .idle }, .ret false)
      | some q =>
        ({ c with sigQ := q, prod := .idle, produced := c.produced ++ [(cmd, none)] }, .ret true)
    | _ => (c, .none)
  | a => ctlPktEnqueueStep c a

/-! ## Consumers -/

/-- `queue_head` on the signal queue. -/
def headSigStep (c : CtlChan) : CtlChan × CtlObs :=
  match c.cons, c.sigQ.head? with
  | .idle, some sig => ({ c with cons := .gotSig sig }, .none)
  | _, _ => (c, .none)

/-- `queue_dequeue` on the packet queue, after the packet was processed. -/
def deqPktStep (c : CtlChan) : CtlChan × CtlObs :=
  match c.cons with
  | .done sig pkt => ({ c with pktQ := c.pktQ.pop, cons := .pktOut sig pkt }, .none)
  | _ => (c, .none)

/-- `queue_dequeue` on the signal queue, after that of the packet. -/
def deqSigStep (c : CtlChan) : CtlChan × CtlObs :=
  match c.cons with
  | .pktOut sig pkt =>
    ({ c with sigQ := c.sigQ.pop, cons := .idle, consumed := c.consumed ++ [(sig, some pkt)] },
      .none)
  | _ => (c, .none)

/-- Where a consumer goes after one of its blind dequeues. -/
def drainNext : List CtlQueue → CtlCons
  | [] => .idle
  | q :: left => .drain q left

/-- A dequeue that does not look at what it removes. -/
def drainStep (c : CtlChan) : CtlChan × CtlObs :=
  match c.cons with
  | .drain .sig left =>
    ({ c with
        sigQ := c.sigQ.pop
        cons := drainNext left
        consumed := c.consumed ++ (c.sigQ.head?.toList.map fun sig => (sig, none)) }, .none)
  | .drain .pkt left => ({ c with pktQ := c.pktQ.pop, cons := drainNext left }, .none)
  | _ => (c, .none)

/-- One round of `tcp_fast_poll` on the pair of a core. The branches for a
missing and for a mistyped packet dequeue the signal and then leave the
`switch`, behind which the signal queue is dequeued once more. -/
def tcpFastPollStep (c : CtlChan) : ConsAct → CtlChan × CtlObs
  | .headSig => headSigStep c
  | .headPkt =>
    match c.cons with
    | .gotSig .ctlRx =>
      match c.pktQ.head? with
      | none => ({ c with cons := .drain .sig [.sig] }, .missing)
      | some (.ctlRxPkt bytes core) =>
        ({ c with cons := .gotPkt .ctlRx (.ctlRxPkt bytes core) }, .none)
      | some _ => ({ c with cons := .drain .sig [.pkt, .sig] }, .mistyped)
    | .gotSig _ => ({ c with cons := .drain .sig [] }, .none)
    | _ => (c, .none)
  | .handle _ =>
    -- what `ctl_rx` returns is not looked at
    match c.cons with
    | .gotPkt sig pkt => ({ c with cons := .done sig pkt }, .none)
    | _ => (c, .none)
  | .deqPkt => deqPktStep c
  | .deqSig => deqSigStep c
  | .drain => drainStep c

/-- The checks and the copy of `deq_handle_ctl_tx`, all of
`deq_handle_retransmit`; a type `tcp_event_deq` does not know fails. -/
def deqHandleStep (c : CtlChan) (ok : Bool) : CtlChan × CtlObs :=
  match c.cons with
  | .gotSig (.txRetransmit _ _ _) =>
    ({ c with cons := if ok then .drain .sig [] else .idle }, .none)
  | .gotSig .ctlTx => if ok then (c, .none) else ({ c with cons := .idle }, .none)
  | .gotSig _ => ({ c with cons := .idle }, .none)
  | .gotPkt sig pkt => ({ c with cons := if ok then .done sig pkt else .idle }, .none)
  | _ => (c, .none)

/-- One round of the queue poll of the fast path: `tcp_event_deq` on the
signal at the head, which is dequeued unless the handler fails. -/
def deqHandleCtlTxStep (c : CtlChan) : ConsAct → CtlChan × CtlObs
  | .headSig => headSigStep c
  | .headPkt =>
    match c.cons with
    | .gotSig .ctlTx =>
      match c.pktQ.head? with
      | none => ({ c with cons := .idle }, .missing)
      | some pkt => ({ c with cons := .gotPkt .ctlTx pkt }, .none)
    | _ => (c, .none)
  | .handle ok => deqHandleStep c ok
  | .deqPkt => deqPktStep c
  | .deqSig => deqSigStep c
  | .drain => drainStep c

/-! ## The system -/

/-- The pairs of all cores and the pair back. -/
structure CtlSys where
  rx : UInt16 → CtlChan
  tx : CtlChan

def CtlSys.init (ctlqLen : Nat) : CtlSys :=
  { rx := fun _ => CtlChan.init ctlqLen, tx := CtlChan.init ctlqLen }

inductive CtlAct
  /-- A core's `rx_punt_ctl`. -/
  | punt (core : UInt16) (a : ProdAct)
  /-- `tcp_fast_poll` on a core's pair. -/
  | fastPoll (core : UInt16) (a : ConsAct)
  /-- `ctl_pkt_enqueue` and `tcp_tx_retransmit`. -/
  | slowTx (a : ProdAct)
  /-- The queue poll of the fast path. -/
  | deqCtl (a : ConsAct)

def CtlSys.setRx (s : CtlSys) (core : UInt16) (c : CtlChan) : CtlSys :=
  { s with rx := fun i => if i = core then c else s.rx i }

def CtlSys.step (s : CtlSys) : CtlAct → CtlSys × CtlObs
  | .punt core a =>
    let (c, o) := rxPuntCtlStep core (s.rx core) a
    (s.setRx core c, o)
  | .fastPoll core a =>
    let (c, o) := tcpFastPollStep (s.rx core) a
    (s.setRx core c, o)
  | .slowTx a =>
    let (c, o) := slowTxStep s.tx a
    ({ s with tx := c }, o)
  | .deqCtl a =>
    let (c, o) := deqHandleCtlTxStep s.tx a
    ({ s with tx := c }, o)

/-! ## Uninterrupted calls

Run to the end without the other side, the steps are the functions of
`Tcp.FastRx` and `Tcp.SlowTx`. -/

/-- The steps of one call, in order. -/
def ctlPktCall (bytes : List UInt8) (hdrOk : Bool) : List ProdAct :=
  [.pktTail bytes, .sigTail, .fill hdrOk, .enqPkt, .enqSig]

/-- What one call leaves in the two queues. -/
theorem ctlPktCall_eq (sig : TcpQe) (mkPkt : List UInt8 → TcpQe) (checks : Bool) (c : CtlChan)
    (hidle : c.prod = .idle) (bytes : List UInt8) (hdrOk : Bool) :
    let c' := (execAll (ctlPktStep sig mkPkt checks) (ctlPktCall bytes hdrOk) c).2
    if c.pktQ.hasRoom && c.sigQ.hasRoom && !(checks && !hdrOk) then
      c.pktQ.push (mkPkt bytes) = some c'.pktQ ∧ c.sigQ.push sig = some c'.sigQ
    else c'.pktQ = c.pktQ ∧ c'.sigQ = c.sigQ := by
  unfold ctlPktCall
  cases hpkt : c.pktQ.hasRoom
  · simp [execAll, ctlPktStep, hidle, hpkt]
  · cases hsig : c.sigQ.hasRoom
    · simp [execAll, ctlPktStep, hidle, hpkt, hsig]
    · cases hck : checks && !hdrOk
      · simp [execAll, ctlPktStep, hidle, hpkt, hsig, hck, Fifo.push_of_room]
      · simp [execAll, ctlPktStep, hidle, hpkt, hsig, hck]

/-- `ctl_pkt_enqueue` of `Tcp.SlowTx` is one uninterrupted call. -/
theorem ctlPktEnqueue_call (ctx : TcpSlowCtx) (seg : CtlSeg) (c : CtlChan)
    (hidle : c.prod = .idle) (hpkt : c.pktQ = ctx.slowFastPktQ)
    (hsig : c.sigQ = ctx.slowFastSigQ) :
    let bytes := (List.range ctlPktSize).map (ctlPktFill seg)
    let c' := (execAll ctlPktEnqueueStep (ctlPktCall bytes true) c).2
    c'.pktQ = (ctlPktEnqueue ctx seg).1.slowFastPktQ ∧
      c'.sigQ = (ctlPktEnqueue ctx seg).1.slowFastSigQ := by
  intro bytes
  have h := ctlPktCall_eq .ctlTx .ctlTxPkt false c hidle bytes true
  unfold ctlPktEnqueue
  rw [← hpkt, ← hsig]
  dsimp only at h ⊢
  split at h
  · obtain ⟨h₁, h₂⟩ := h
    rw [h₁, h₂]
    exact ⟨rfl, rfl⟩
  · next hno =>
    -- one of the two queues is full
    have hnone : c.pktQ.push (.ctlTxPkt bytes) = none ∨ c.sigQ.push .ctlTx = none := by
      unfold Fifo.push
      cases hr₁ : c.pktQ.hasRoom
      · exact .inl rfl
      · cases hr₂ : c.sigQ.hasRoom
        · exact .inr rfl
        · rw [hr₁, hr₂] at hno
          exact absurd rfl hno
    rw [hpkt, hsig] at h
    rcases hnone with hn | hn
    · rw [hn]
      exact h
    · rw [hn]
      split
      · next heq => cases heq
      · exact h

/-! ## The invariant -/

/-- A control signal comes with a packet of its type, anything else comes
alone. -/
def MsgOk (sig : TcpQe) (isPkt : TcpQe → Prop) (m : CtlMsg) : Prop :=
  (m.1 = sig ∧ ∃ pkt, m.2 = some pkt ∧ isPkt pkt) ∨ (m.1 ≠ sig ∧ m.2 = none)

/-- The room a producer has seen is still there. -/
def ProdOk (sig : TcpQe) (isPkt : TcpQe → Prop) (c : CtlChan) : Prop :=
  match c.prod with
  | .idle => True
  | .pktTail pkt => isPkt pkt ∧ c.pktQ.hasRoom = true
  | .sigTail pkt => isPkt pkt ∧ c.pktQ.hasRoom = true ∧ c.sigQ.hasRoom = true
  | .filled pkt => isPkt pkt ∧ c.pktQ.hasRoom = true ∧ c.sigQ.hasRoom = true
  | .pktIn pkt => isPkt pkt ∧ c.sigQ.hasRoom = true
  | .cmdTail cmd => cmd ≠ sig ∧ c.sigQ.hasRoom = true

/-- What a consumer has seen is the oldest message in flight. -/
def ConsOk (fl : List CtlMsg) : CtlCons → Prop
  | .idle => True
  | .gotSig sig => ∃ pkt, fl.head? = some (sig, pkt)
  | .gotPkt sig pkt => fl.head? = some (sig, some pkt)
  | .done sig pkt => fl.head? = some (sig, some pkt)
  | .pktOut sig pkt => fl.head? = some (sig, some pkt)
  | .drain q left => q = .sig ∧ left = [] ∧ ∃ sig, fl.head? = some (sig, none)

/-- A packet in its queue whose signal is still to come. -/
def CtlProd.pending : CtlProd → List TcpQe
  | .pktIn pkt => [pkt]
  | _ => []

/-- The messages in flight whose packet is still in its queue. -/
def CtlCons.held (fl : List CtlMsg) : CtlCons → List CtlMsg
  | .pktOut _ _ => fl.tail
  | _ => fl

/-- The messages in flight, `fl`, are what the two queues hold. -/
structure CtlInv (sig : TcpQe) (isPkt : TcpQe → Prop) (c : CtlChan) (fl : List CtlMsg) :
    Prop where
  flight : c.produced = c.consumed ++ fl
  sigs : c.sigQ.items = fl.map Prod.fst
  pkts : c.pktQ.items = (c.cons.held fl).filterMap Prod.snd ++ c.prod.pending
  typed : ∀ m ∈ c.produced, MsgOk sig isPkt m
  prod : ProdOk sig isPkt c
  cons : ConsOk fl c.cons

/-- Nothing that breaks a pair was seen. -/
def CtlObs.Fine (o : CtlObs) : Prop := o ≠ .sigRefused ∧ o ≠ .missing ∧ o ≠ .mistyped

theorem CtlObs.fine_none : CtlObs.none.Fine := ⟨nofun, nofun, nofun⟩

theorem CtlObs.fine_ret (ok : Bool) : (CtlObs.ret ok).Fine := ⟨nofun, nofun, nofun⟩

/-- What a step of either side has to keep. -/
def CtlOk (sig : TcpQe) (isPkt : TcpQe → Prop) (r : CtlChan × CtlObs) : Prop :=
  (∃ fl, CtlInv sig isPkt r.1 fl) ∧ r.2.Fine

theorem CtlChan.init_inv (sig : TcpQe) (isPkt : TcpQe → Prop) (n : Nat) :
    CtlInv sig isPkt (CtlChan.init n) [] :=
  ⟨rfl, rfl, rfl, nofun, trivial, trivial⟩

section steps

variable {sig : TcpQe} {isPkt : TcpQe → Prop} {c : CtlChan} {fl : List CtlMsg}

theorem ConsOk.append {cons : CtlCons} (h : ConsOk fl cons) (m : CtlMsg) :
    ConsOk (fl ++ [m]) cons := by
  have hhead : ∀ x, fl.head? = some x → (fl ++ [m]).head? = some x := by
    intro x hx
    rw [List.head?_append, hx]
    rfl
  cases cons with
  | idle => trivial
  | gotSig => exact ⟨h.choose, hhead _ h.choose_spec⟩
  | gotPkt => exact hhead _ h
  | done => exact hhead _ h
  | pktOut => exact hhead _ h
  | drain =>
    obtain ⟨rfl, rfl, e, he⟩ := h
    exact ⟨rfl, rfl, e, hhead _ he⟩

theorem CtlCons.held_append {cons : CtlCons} (h : ConsOk fl cons) (m : CtlMsg) :
    cons.held (fl ++ [m]) = cons.held fl ++ [m] := by
  cases cons with
  | pktOut e p =>
    cases fl with
    | nil => cases h
    | cons x xs => rfl
  | idle | gotSig | gotPkt | done | drain => rfl

/-- A step that moves the producer only. -/
theorem CtlInv.setProd (h : CtlInv sig isPkt c fl) {p : CtlProd}
    (hpend : p.pending = c.prod.pending) (hp : ProdOk sig isPkt { c with prod := p }) :
    CtlInv sig isPkt { c with prod := p } fl := by
  refine ⟨h.flight, h.sigs, ?_, h.typed, hp, h.cons⟩
  show c.pktQ.items = _ ++ p.pending
  rw [hpend]
  exact h.pkts

/-- The producer appends a message: its signal is enqueued, its packet was
the pending one. -/
theorem CtlInv.push (h : CtlInv sig isPkt c fl) {m : CtlMsg} (hm : MsgOk sig isPkt m)
    (hpend : c.prod.pending = m.2.toList) :
    CtlInv sig isPkt
      { c with
        sigQ := { c.sigQ with items := c.sigQ.items ++ [m.1] }
        prod := .idle
        produced := c.produced ++ [m] } (fl ++ [m]) := by
  refine ⟨?_, ?_, ?_, ?_, trivial, h.cons.append m⟩
  · show c.produced ++ [m] = c.consumed ++ (fl ++ [m])
    rw [h.flight, List.append_assoc]
  · show c.sigQ.items ++ [m.1] = _
    rw [h.sigs, List.map_append]
    rfl
  · have hone : [m].filterMap Prod.snd = m.2.toList := by
      cases hm2 : m.2 with
      | none => exact List.filterMap_cons_none hm2
      | some p => exact List.filterMap_cons_some hm2
    show c.pktQ.items = (c.cons.held (fl ++ [m])).filterMap Prod.snd ++ []
    rw [h.pkts, CtlCons.held_append h.cons, List.filterMap_append, List.append_nil, hpend, hone]
  · intro x hx
    rcases List.mem_append.mp hx with hx | hx
    · exact h.typed x hx
    · rw [List.mem_singleton.mp hx]
      exact hm

/-- The steps `rx_punt_ctl` and `ctl_pkt_enqueue` share. -/
theorem ctlPktStep_ok {mkPkt : List UInt8 → TcpQe} (hmk : ∀ bytes, isPkt (mkPkt bytes))
    (checks : Bool) (h : CtlInv sig isPkt c fl) (a : ProdAct) :
    CtlOk sig isPkt (ctlPktStep sig mkPkt checks c a) := by
  have hskip : CtlOk sig isPkt (c, .none) := ⟨⟨fl, h⟩, CtlObs.fine_none⟩
  have hprod := h.prod
  unfold ProdOk at hprod
  unfold ctlPktStep
  cases a with
  | pktTail bytes =>
    dsimp only
    split
    · next hp =>
      split
      · next hroom =>
        refine ⟨⟨fl, h.setProd (by rw [hp]; rfl) ⟨hmk bytes, hroom⟩⟩, CtlObs.fine_none⟩
      · exact ⟨⟨fl, h⟩, CtlObs.fine_ret false⟩
    · exact hskip
  | sigTail =>
    dsimp only
    split
    · next pkt hp =>
      rw [hp] at hprod
      split
      · next hroom =>
        exact ⟨⟨fl, h.setProd (by rw [hp]; rfl) ⟨hprod.1, hprod.2, hroom⟩⟩, CtlObs.fine_none⟩
      · exact ⟨⟨fl, h.setProd (by rw [hp]; rfl) trivial⟩, CtlObs.fine_ret false⟩
    · exact hskip
  | fill ok =>
    dsimp only
    split
    · next pkt hp =>
      rw [hp] at hprod
      split
      · exact ⟨⟨fl, h.setProd (by rw [hp]; rfl) trivial⟩, CtlObs.fine_ret false⟩
      · exact ⟨⟨fl, h.setProd (by rw [hp]; rfl) hprod⟩, CtlObs.fine_none⟩
    · exact hskip
  | enqPkt =>
    dsimp only
    split
    · next pkt hp =>
      rw [hp] at hprod
      -- the room seen by `queue_tail` is still there
      rw [Fifo.push_of_room hprod.2.1]
      refine ⟨⟨fl, h.flight, h.sigs, ?_, h.typed, ⟨hprod.1, hprod.2.2⟩, h.cons⟩,
        CtlObs.fine_none⟩
      show c.pktQ.items ++ [pkt] = _ ++ [pkt]
      rw [h.pkts, hp]
      exact congrArg (· ++ [pkt]) (List.append_nil _)
    · exact hskip
  | enqSig =>
    dsimp only
    split
    · next pkt hp =>
      rw [hp] at hprod
      rw [Fifo.push_of_room hprod.2]
      refine ⟨⟨_, h.push (m := (sig, some pkt)) (.inl ⟨rfl, pkt, rfl, hprod.1⟩) ?_⟩,
        CtlObs.fine_ret true⟩
      rw [hp]
      rfl
    · exact hskip
  | cmdTail | cmdEnq => exact hskip

theorem slowTxStep_ok {isPkt : TcpQe → Prop} (hmk : ∀ bytes, isPkt (.ctlTxPkt bytes))
    (h : CtlInv .ctlTx isPkt c fl) (a : ProdAct) : CtlOk .ctlTx isPkt (slowTxStep c a) := by
  have hskip : CtlOk .ctlTx isPkt (c, .none) := ⟨⟨fl, h⟩, CtlObs.fine_none⟩
  have hprod := h.prod
  unfold ProdOk at hprod
  unfold slowTxStep
  split
  · split
    · next hp =>
      split
      · next hroom =>
        exact ⟨⟨fl, h.setProd (by rw [hp]; rfl) ⟨nofun, hroom⟩⟩, CtlObs.fine_none⟩
      · exact ⟨⟨fl, h⟩, CtlObs.fine_ret false⟩
    · exact hskip
  · split
    · next cmd hp =>
      rw [hp] at hprod
      rw [Fifo.push_of_room hprod.2]
      refine ⟨⟨_, h.push (m := (cmd, none)) (.inr ⟨hprod.1, rfl⟩) ?_⟩, CtlObs.fine_ret true⟩
      rw [hp]
      rfl
    · exact hskip
  · exact ctlPktStep_ok hmk false h a

/-! ### Consumers -/

/-- A step that moves the consumer only. -/
theorem CtlInv.setCons (h : CtlInv sig isPkt c fl) {k : CtlCons} (hheld : k.held fl = c.cons.held fl)
    (hk : ConsOk fl k) : CtlInv sig isPkt { c with cons := k } fl := by
  refine ⟨h.flight, h.sigs, ?_, h.typed, h.prod, hk⟩
  show c.pktQ.items = (k.held fl).filterMap Prod.snd ++ _
  rw [hheld]
  exact h.pkts

/-- The producer's room outlives what the consumer removes. -/
theorem ProdOk.pop {c' : CtlChan} (h : ProdOk sig isPkt c) (hp : c'.prod = c.prod)
    (hpkt : c.pktQ.hasRoom = true → c'.pktQ.hasRoom = true)
    (hsig : c.sigQ.hasRoom = true → c'.sigQ.hasRoom = true) : ProdOk sig isPkt c' := by
  unfold ProdOk at h ⊢
  rw [hp]
  split
  · trivial
  · next hc => rw [hc] at h; exact ⟨h.1, hpkt h.2⟩
  · next hc => rw [hc] at h; exact ⟨h.1, hpkt h.2.1, hsig h.2.2⟩
  · next hc => rw [hc] at h; exact ⟨h.1, hpkt h.2.1, hsig h.2.2⟩
  · next hc => rw [hc] at h; exact ⟨h.1, hsig h.2⟩
  · next hc => rw [hc] at h; exact ⟨h.1, hsig h.2⟩

/-- The oldest message is consumed: its packet, if it has one, is out of its
queue. -/
theorem CtlInv.consume (h : CtlInv sig isPkt c fl) {m : CtlMsg} (hm : fl.head? = some m)
    (hheld : (c.cons.held fl).filterMap Prod.snd = fl.tail.filterMap Prod.snd) :
    CtlInv sig isPkt
      { c with sigQ := c.sigQ.pop, cons := .idle, consumed := c.consumed ++ [m] } fl.tail := by
  obtain ⟨rest, rfl⟩ : ∃ rest, fl = m :: rest := by
    cases fl with
    | nil => cases hm
    | cons x xs => cases hm; exact ⟨xs, rfl⟩
  refine ⟨?_, ?_, ?_, h.typed, h.prod.pop rfl id Fifo.pop_room, trivial⟩
  · show c.produced = c.consumed ++ [m] ++ rest
    rw [h.flight, List.append_assoc]
    rfl
  · show c.sigQ.items.tail = _
    rw [h.sigs]
    rfl
  · show c.pktQ.items = rest.filterMap Prod.snd ++ c.prod.pending
    rw [h.pkts, hheld]
    rfl

theorem headSigStep_ok (h : CtlInv sig isPkt c fl) : CtlOk sig isPkt (headSigStep c) := by
  unfold headSigStep
  split
  · next e hc he =>
    refine ⟨⟨fl, h.setCons (by rw [hc]; rfl) ?_⟩, CtlObs.fine_none⟩
    unfold Fifo.head? at he
    rw [h.sigs, List.head?_map] at he
    cases hfl : fl.head? with
    | none => rw [hfl] at he; cases he
    | some m =>
      rw [hfl] at he
      cases he
      exact ⟨m.2, hfl⟩
  · exact ⟨⟨fl, h⟩, CtlObs.fine_none⟩

theorem deqPktStep_ok (h : CtlInv sig isPkt c fl) : CtlOk sig isPkt (deqPktStep c) := by
  unfold deqPktStep
  split
  · next e p hc =>
    have hcons := h.cons
    have hpkts := h.pkts
    rw [hc] at hcons hpkts
    obtain ⟨rest, rfl⟩ : ∃ rest, fl = (e, some p) :: rest := by
      cases fl with
      | nil => cases hcons
      | cons x xs => cases hcons; exact ⟨xs, rfl⟩
    refine ⟨⟨_, h.flight, h.sigs, ?_, h.typed, h.prod.pop rfl Fifo.pop_room id, hcons⟩,
      CtlObs.fine_none⟩
    show c.pktQ.items.tail = rest.filterMap Prod.snd ++ c.prod.pending
    rw [hpkts]
    rfl
  · exact ⟨⟨fl, h⟩, CtlObs.fine_none⟩

theorem deqSigStep_ok (h : CtlInv sig isPkt c fl) : CtlOk sig isPkt (deqSigStep c) := by
  unfold deqSigStep
  split
  · next e p hc =>
    have hcons := h.cons
    rw [hc] at hcons
    exact ⟨⟨_, h.consume hcons (by rw [hc]; rfl)⟩, CtlObs.fine_none⟩
  · exact ⟨⟨fl, h⟩, CtlObs.fine_none⟩

theorem drainStep_ok (h : CtlInv sig isPkt c fl) : CtlOk sig isPkt (drainStep c) := by
  have hcons := h.cons
  unfold drainStep
  split
  · next left hc =>
    rw [hc] at hcons
    obtain ⟨-, rfl, e, he⟩ := hcons
    have hhead : c.sigQ.head? = some e := by
      unfold Fifo.head?
      rw [h.sigs, List.head?_map, he]
      rfl
    rw [hhead]
    refine ⟨⟨_, h.consume he ?_⟩, CtlObs.fine_none⟩
    -- the message has no packet
    rw [hc]
    cases fl with
    | nil => cases he
    | cons x xs =>
      cases he
      rfl
  · next left hc =>
    rw [hc] at hcons
    cases hcons.1
  · exact ⟨⟨fl, h⟩, CtlObs.fine_none⟩

/-- The oldest message of a control signal has a packet, and it is at the
head of its queue. -/
theorem CtlInv.head_pkt (h : CtlInv sig isPkt c fl) (hc : c.cons = .gotSig sig) :
    ∃ p, isPkt p ∧ fl.head? = some (sig, some p) ∧ c.pktQ.head? = some p := by
  have hcons := h.cons
  have hpkts := h.pkts
  rw [hc] at hcons hpkts
  obtain ⟨o, ho⟩ := hcons
  cases fl with
  | nil => cases ho
  | cons x xs =>
    cases ho
    have hm := h.typed (sig, o) (by rw [h.flight]; simp)
    rcases hm with ⟨-, p, rfl, hp⟩ | ⟨hne, -⟩
    · refine ⟨p, hp, rfl, ?_⟩
      unfold Fifo.head?
      rw [hpkts]
      rfl
    · exact absurd rfl hne

/-- A signal that is not a control signal comes alone. -/
theorem CtlInv.head_alone (h : CtlInv sig isPkt c fl) {e : TcpQe} (hc : c.cons = .gotSig e)
    (hne : e ≠ sig) : fl.head? = some (e, none) := by
  have hcons := h.cons
  rw [hc] at hcons
  obtain ⟨o, ho⟩ := hcons
  cases fl with
  | nil => cases ho
  | cons x xs =>
    cases ho
    have hm := h.typed (e, o) (by rw [h.flight]; simp)
    rcases hm with ⟨heq, -⟩ | ⟨-, rfl⟩
    · exact absurd heq hne
    · rfl

end steps

/-- What `rx_punt_ctl` enqueues as a packet. -/
def IsRxPkt (e : TcpQe) : Prop := ∃ bytes core, e = .ctlRxPkt bytes core

/-- What `ctl_pkt_enqueue` enqueues as a packet. -/
def IsTxPkt (e : TcpQe) : Prop := ∃ bytes, e = .ctlTxPkt bytes

section consumers

variable {c : CtlChan} {fl : List CtlMsg}

/-- A round of `tcp_fast_poll` finds every signal's packet. -/
theorem tcpFastPollStep_ok (h : CtlInv .ctlRx IsRxPkt c fl) (a : ConsAct) :
    CtlOk .ctlRx IsRxPkt (tcpFastPollStep c a) := by
  have hskip : CtlOk .ctlRx IsRxPkt (c, .none) := ⟨⟨fl, h⟩, CtlObs.fine_none⟩
  unfold tcpFastPollStep
  cases a with
  | headSig => exact headSigStep_ok h
  | headPkt =>
    dsimp only
    split
    · next hc =>
      obtain ⟨p, ⟨bytes, core, rfl⟩, hfl, hhead⟩ := h.head_pkt hc
      rw [hhead]
      exact ⟨⟨fl, h.setCons (by rw [hc]; rfl) hfl⟩, CtlObs.fine_none⟩
    · next e hne hc =>
      have hfl := h.head_alone hc hne
      exact ⟨⟨fl, h.setCons (by rw [hc]; rfl) ⟨rfl, rfl, e, hfl⟩⟩, CtlObs.fine_none⟩
    · exact hskip
  | handle ok =>
    dsimp only
    split
    · next e p hc =>
      have hcons := h.cons
      rw [hc] at hcons
      exact ⟨⟨fl, h.setCons (by rw [hc]; rfl) hcons⟩, CtlObs.fine_none⟩
    · exact hskip
  | deqPkt => exact deqPktStep_ok h
  | deqSig => exact deqSigStep_ok h
  | drain => exact drainStep_ok h

theorem deqHandleStep_ok (h : CtlInv .ctlTx IsTxPkt c fl) (ok : Bool) :
    CtlOk .ctlTx IsTxPkt (deqHandleStep c ok) := by
  have hskip : CtlOk .ctlTx IsTxPkt (c, .none) := ⟨⟨fl, h⟩, CtlObs.fine_none⟩
  have hcons := h.cons
  -- a failed handler leaves both queues as they are
  have hidle : c.cons.held fl = fl → CtlOk .ctlTx IsTxPkt ({ c with cons := .idle }, .none) :=
    fun hh => ⟨⟨fl, h.setCons hh.symm trivial⟩, CtlObs.fine_none⟩
  unfold deqHandleStep
  cases hc : c.cons with
  | idle | done | pktOut | drain => exact hskip
  | gotPkt e p =>
    rw [hc] at hcons hidle
    cases ok with
    | false => exact hidle rfl
    | true => exact ⟨⟨fl, h.setCons (by rw [hc]; rfl) hcons⟩, CtlObs.fine_none⟩
  | gotSig e =>
    rw [hc] at hidle
    cases e with
    | txRetransmit sockId txSeq txPending =>
      cases ok with
      | false => exact hidle rfl
      | true =>
        have hfl := h.head_alone hc nofun
        exact ⟨⟨fl, h.setCons (by rw [hc]; rfl) ⟨rfl, rfl, _, hfl⟩⟩, CtlObs.fine_none⟩
    | ctlTx =>
      cases ok with
      | false => exact hidle rfl
      | true => exact hskip
    | bumpChamTx | bumpChamRx | ctlTxPkt | ctlRx | ctlRxPkt | bumpAppTx | bumpAppRx | unknown =>
      exact hidle rfl

/-- So does a round of the queue poll of the fast path. -/
theorem deqHandleCtlTxStep_ok (h : CtlInv .ctlTx IsTxPkt c fl) (a : ConsAct) :
    CtlOk .ctlTx IsTxPkt (deqHandleCtlTxStep c a) := by
  have hskip : CtlOk .ctlTx IsTxPkt (c, .none) := ⟨⟨fl, h⟩, CtlObs.fine_none⟩
  unfold deqHandleCtlTxStep
  cases a with
  | headSig => exact headSigStep_ok h
  | headPkt =>
    dsimp only
    split
    · next hc =>
      obtain ⟨p, -, hfl, hhead⟩ := h.head_pkt hc
      rw [hhead]
      exact ⟨⟨fl, h.setCons (by rw [hc]; rfl) hfl⟩, CtlObs.fine_none⟩
    · exact hskip
  | handle ok => exact deqHandleStep_ok h ok
  | deqPkt => exact deqPktStep_ok h
  | deqSig => exact deqSigStep_ok h
  | drain => exact drainStep_ok h

end consumers

/-! ## Whole runs -/

/-- Every pair of the system keeps its messages together. -/
structure CtlSysInv (s : CtlSys) : Prop where
  rx : ∀ core, ∃ fl, CtlInv .ctlRx IsRxPkt (s.rx core) fl
  tx : ∃ fl, CtlInv .ctlTx IsTxPkt s.tx fl

theorem CtlSys.init_inv (n : Nat) : CtlSysInv (CtlSys.init n) :=
  ⟨fun _ => ⟨[], CtlChan.init_inv _ _ n⟩, ⟨[], CtlChan.init_inv _ _ n⟩⟩

theorem CtlSysInv.setRx {s : CtlSys} (h : CtlSysInv s) {core : UInt16} {c : CtlChan}
    (hc : ∃ fl, CtlInv .ctlRx IsRxPkt c fl) : CtlSysInv (s.setRx core c) := by
  refine ⟨?_, h.tx⟩
  intro i
  show ∃ fl, CtlInv _ _ (if i = core then c else s.rx i) fl
  by_cases hi : i = core
  · rw [if_pos hi]
    exact hc
  · rw [if_neg hi]
    exact h.rx i

theorem CtlSys.step_ok {s : CtlSys} (h : CtlSysInv s) (a : CtlAct) :
    CtlSysInv (s.step a).1 ∧ (s.step a).2.Fine := by
  cases a with
  | punt core a =>
    obtain ⟨fl, hfl⟩ := h.rx core
    have hmk : ∀ bytes, IsRxPkt ((fun bytes => .ctlRxPkt bytes core) bytes) :=
      fun bytes => ⟨bytes, core, rfl⟩
    have hok := ctlPktStep_ok hmk true hfl a
    exact ⟨h.setRx hok.1, hok.2⟩
  | fastPoll core a =>
    obtain ⟨fl, hfl⟩ := h.rx core
    have hok := tcpFastPollStep_ok hfl a
    exact ⟨h.setRx hok.1, hok.2⟩
  | slowTx a =>
    obtain ⟨fl, hfl⟩ := h.tx
    have hok := slowTxStep_ok (fun bytes => ⟨bytes, rfl⟩) hfl a
    exact ⟨⟨h.rx, hok.1⟩, hok.2⟩
  | deqCtl a =>
    obtain ⟨fl, hfl⟩ := h.tx
    have hok := deqHandleCtlTxStep_ok hfl a
    exact ⟨⟨h.rx, hok.1⟩, hok.2⟩

/-- What pairing means for one pair of queues: what was consumed is a prefix
of what was produced, signal by signal with its packet; the rest is in the
queues; and a control signal always has a packet of its type. -/
structure Paired (sig : TcpQe) (isPkt : TcpQe → Prop) (c : CtlChan) : Prop where
  fifo : c.consumed <+: c.produced
  sigs : c.sigQ.items = (c.produced.drop c.consumed.length).map Prod.fst
  pkts : c.prod = .idle → c.cons = .idle →
    c.pktQ.items = (c.produced.drop c.consumed.length).filterMap Prod.snd
  typed : ∀ m ∈ c.produced, MsgOk sig isPkt m

theorem CtlInv.paired {sig : TcpQe} {isPkt : TcpQe → Prop} {c : CtlChan} {fl : List CtlMsg}
    (h : CtlInv sig isPkt c fl) : Paired sig isPkt c := by
  have hdrop : c.produced.drop c.consumed.length = fl := by
    rw [h.flight, List.drop_left]
  refine ⟨?_, ?_, ?_, h.typed⟩
  · rw [h.flight]
    exact List.prefix_append _ _
  · rw [hdrop]
    exact h.sigs
  · intro hp hc
    have hpkts := h.pkts
    rw [hp, hc] at hpkts
    rw [hdrop, hpkts]
    exact List.append_nil _

/-- **Control signals and control packets stay paired.** For every length of
the queues and every interleaving of all cores, in both directions, every
pair is `Paired`, and no step finds a signal without its packet, a packet of
another type, or no room for the signal of an enqueued packet. The steps of
one call, without interruption, are `ctl_pkt_enqueue` of `Tcp.SlowTx`. -/
theorem signals_and_packets_stay_paired {ctlqLen : Nat} {s : CtlSys} {log : List CtlObs}
    (hrun : Run (fun _ _ => True) CtlSys.step (CtlSys.init ctlqLen) log s) :
    (∀ core, Paired .ctlRx IsRxPkt (s.rx core)) ∧ Paired .ctlTx IsTxPkt s.tx ∧
      (∀ o ∈ log, o ≠ .missing ∧ o ≠ .mistyped ∧ o ≠ .sigRefused) ∧
      ∀ (ctx : TcpSlowCtx) (seg : CtlSeg), s.tx.prod = .idle → s.tx.pktQ = ctx.slowFastPktQ →
        s.tx.sigQ = ctx.slowFastSigQ →
        let bytes := (List.range ctlPktSize).map (ctlPktFill seg)
        let c' := (execAll ctlPktEnqueueStep (ctlPktCall bytes true) s.tx).2
        c'.pktQ = (ctlPktEnqueue ctx seg).1.slowFastPktQ ∧
          c'.sigQ = (ctlPktEnqueue ctx seg).1.slowFastSigQ := by
  have hinv : CtlSysInv s ∧ ∀ o ∈ log, o.Fine := by
    refine hrun.inv (I := fun log s => CtlSysInv s ∧ ∀ o ∈ log, o.Fine)
      ⟨CtlSys.init_inv ctlqLen, nofun⟩ ?_
    intro log s a h _
    have hok := CtlSys.step_ok h.1 a
    refine ⟨hok.1, ?_⟩
    intro o ho
    rcases List.mem_append.mp ho with ho | ho
    · exact h.2 o ho
    · rw [List.mem_singleton.mp ho]
      exact hok.2
  refine ⟨?_, ?_, ?_, ?_⟩
  · intro core
    obtain ⟨fl, hfl⟩ := hinv.1.rx core
    exact hfl.paired
  · obtain ⟨fl, hfl⟩ := hinv.1.tx
    exact hfl.paired
  · intro o ho
    obtain ⟨h₁, h₂, h₃⟩ := hinv.2 o ho
    exact ⟨h₂, h₃, h₁⟩
  · intro ctx seg hidle hpkt hsig
    exact ctlPktEnqueue_call ctx seg s.tx hidle hpkt hsig

/-- A retransmit command between two control packets, all consumed. -/
def pairedRun : List CtlAct :=
  [.slowTx (.pktTail [1]), .slowTx .sigTail, .slowTx (.fill true), .slowTx .enqPkt,
    .slowTx .enqSig, .slowTx (.cmdTail 7 8 9), .slowTx .cmdEnq, .slowTx (.pktTail [2]),
    .deqCtl .headSig, .deqCtl .headPkt, .slowTx .sigTail, .slowTx (.fill true),
    .slowTx .enqPkt, .deqCtl (.handle true), .deqCtl .deqPkt, .slowTx .enqSig, .deqCtl .deqSig,
    .deqCtl .headSig, .deqCtl (.handle true), .deqCtl .drain, .deqCtl .headSig,
    .deqCtl .headPkt, .deqCtl (.handle true), .deqCtl .deqPkt, .deqCtl .deqSig]

theorem signals_and_packets_stay_paired_remit :
    (execAll CtlSys.step pairedRun (CtlSys.init 4)).2.tx.consumed =
        [(.ctlTx, some (.ctlTxPkt [1])), (.txRetransmit 7 8 9, none),
          (.ctlTx, some (.ctlTxPkt [2]))] ∧
      Paired .ctlTx IsTxPkt (execAll CtlSys.step pairedRun (CtlSys.init 4)).2.tx :=
  ⟨rfl, (signals_and_packets_stay_paired (Run.nil.execAll pairedRun)).2.1⟩

end Chamelio.Tcp
