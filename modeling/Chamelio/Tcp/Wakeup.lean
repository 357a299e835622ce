import Chamelio.Lib.Run
import Chamelio.Tcp.Frame

/-!
# No lost transmit wake-up

The transmit scheduler is edge-triggered: nothing looks at a socket unless
its id is on the scheduler list, and the list is edited in five places —
`tcp_event_sched` pops and re-adds, `rx_sched_tx` adds when an ACK or a
window update raises the sendable amount, `remit` removes and re-adds, and
a transmit bump adds. The invariant is one line: whenever
`sock_sched_avail` is positive, the id is on the list.

`WakeStep` is what one handler does to the socket `j` it works on: the new
list keeps every other id, and `j` is on it if it can send. A handler that
touches no socket is a `WakeStep` on any of them. The system around the
handlers is free: before each event the packet, the shared memory and all
queues may have changed in any way (the application and the slow path run
concurrently), and events on other sockets interleave.
-/

namespace Chamelio.Tcp

open Chamelio.Lib Chamelio.Util Chamelio.Pkt Chamelio.Fast

/-! ## Fast-path events -/

/-- Buffers as an event finds them. -/
structure EvIn where
  pkt : Nat → UInt8
  virtGre : Bool
  shm : Nat → UInt8
  equeues : Nat → Fifo TcpQe
  dqueues : Nat → DQueue TcpQe

/-- The context an event runs on. -/
def evCtx (ctx : TcpCtx) (e : EvIn) : TcpCtx :=
  { ctx with
    pkt := e.pkt
    pktRoom := fastEbpfPktRoom e.virtGre
    shm := e.shm
    equeues := e.equeues
    dqueues := e.dqueues }

inductive FastEv
  | rx (e : EvIn)
  | deq (e : EvIn) (qe : TcpQe) (qeOff : Nat)
  | sched (e : EvIn)

def fastStep (ctx : TcpCtx) : FastEv → TcpCtx × Ret
  | .rx e => tcpEventRx (evCtx ctx e)
  | .deq e qe qeOff => tcpEventDeq { evCtx ctx e with qe, qeOff }
  | .sched e => tcpEventSched (evCtx ctx e)

/-- The sockets have the same ids and may send the same amounts. -/
structure SameWake (ctx ctx' : TcpCtx) : Prop where
  id : ∀ i, (sockOf ctx' i).id = (sockOf ctx i).id
  avail : ∀ i, sockSchedAvail (sockOf ctx' i) = sockSchedAvail (sockOf ctx i)
  nelems : ctx'.maps.sockNelems = ctx.maps.sockNelems

theorem SameWake.trans {a b c : TcpCtx} (h₁ : SameWake a b) (h₂ : SameWake b c) : SameWake a c :=
  ⟨fun i => (h₂.id i).trans (h₁.id i), fun i => (h₂.avail i).trans (h₁.avail i),
    h₂.nelems.trans h₁.nelems⟩

/-- If `i` can send, it is on the list `l`. -/
def Wakes (ctx : TcpCtx) (l : List UInt32) (i : Nat) : Prop :=
  0 < sockSchedAvail (sockOf ctx i) → (sockOf ctx i).id ∈ l

/-- What a handler working on socket `j` does to the scheduler list `l`. -/
structure WakeStep (ctx : TcpCtx) (l : List UInt32) (j : Nat) (ctx' : TcpCtx)
    (l' : List UInt32) : Prop where
  rep : SchedRep ctx'.sched l'
  keeps : ∀ i, i < ctx.maps.sockNelems → i ≠ j → (sockOf ctx i).id ∈ l →
    (sockOf ctx i).id ∈ l'
  wakes : Wakes ctx l j → Wakes ctx' l' j
  id : ∀ i, (sockOf ctx' i).id = (sockOf ctx i).id
  others : ∀ i, i ≠ j → sockSchedAvail (sockOf ctx' i) = sockSchedAvail (sockOf ctx i)
  nelems : ctx'.maps.sockNelems = ctx.maps.sockNelems

theorem rewoundSock_id (s : TcpSock) : (rewoundSock s).id = s.id := by
  unfold rewoundSock tcpSockRecoveryEnter
  split <;> rfl

/-- A step on quietly the same context. -/
theorem WakeStep.of_quiet {ctx ctx₁ ctx' : TcpCtx} {l l' : List UInt32} {j : Nat}
    (hq : SameWake ctx ctx₁) (h : WakeStep ctx₁ l j ctx' l') : WakeStep ctx l j ctx' l' where
  rep := h.rep
  keeps := by
    intro i hi hne hx
    have hk := h.keeps i (by rw [hq.nelems]; exact hi) hne (by rw [hq.id]; exact hx)
    rw [hq.id] at hk
    exact hk
  wakes := by
    intro hw
    apply h.wakes
    intro hpos
    rw [hq.id]
    rw [hq.avail] at hpos
    exact hw hpos
  id := fun i => (h.id i).trans (hq.id i)
  others := fun i hi => (h.others i hi).trans (hq.avail i)
  nelems := h.nelems.trans hq.nelems

/-- A socket found for a packet is an entry of the map. -/
theorem sockFind_lt {ctx : TcpCtx} {j : Nat} (h : sockFind ctx = some j) :
    j < ctx.maps.sockNelems := by
  unfold sockFind at h
  dsimp only at h
  split at h
  · cases h
  · obtain ⟨i, -, hi⟩ := List.exists_of_findSome?_eq_some h
    unfold sockFindSlot sockMapLookup at hi
    split at hi
    · cases hi
    · split at hi
      · cases hi
      · next k hk =>
        dsimp only at hi
        split at hk
        · cases hk
        · next hlt =>
          split at hi
          · cases hi
          · split at hi
            · cases hi
              cases hk
              omega
            · cases hi

/-- Control packets leave every socket and the scheduler alone. -/
theorem deqHandleCtlTx_frame (ctx : TcpCtx) :
    (deqHandleCtlTx ctx).1.maps = ctx.maps ∧ (deqHandleCtlTx ctx).1.sched = ctx.sched := by
  unfold deqHandleCtlTx
  split
  · exact ⟨rfl, rfl⟩
  · split
    · exact ⟨rfl, rfl⟩
    · dsimp only
      split
      · split
        · exact ⟨rfl, rfl⟩
        · split
          · exact ⟨rfl, rfl⟩
          · split
            · exact ⟨rfl, rfl⟩
            · split <;> exact ⟨rfl, rfl⟩
      · exact ⟨rfl, rfl⟩

/-- Establishment of socket `sid`: nothing is buffered for it yet. The
scheduler is as its own operations leave it, and each socket map entry
carries its index, as the slow path sets it up. -/
structure WakeInit (ctx : TcpCtx) (sid : Nat) : Prop where
  bound : ctx.maps.sockNelems ≤ maxSchedEntries
  ids : ∀ i, i < ctx.maps.sockNelems → (sockOf ctx i).id.toNat = i
  found : sid < ctx.maps.sockNelems
  state : (sockOf ctx sid).state = .established
  fresh : (sockOf ctx sid).txAvail = 0
  sched : ∃ l, SchedRep ctx.sched l

/-- The invariant: ids are in place and a socket that can send is listed. -/
structure WakeInv (ctx : TcpCtx) (sid : Nat) : Prop where
  bound : ctx.maps.sockNelems ≤ maxSchedEntries
  ids : ∀ i, i < ctx.maps.sockNelems → (sockOf ctx i).id.toNat = i
  found : sid < ctx.maps.sockNelems
  listed : ∃ l, SchedRep ctx.sched l ∧ Wakes ctx l sid

theorem WakeInit.inv {ctx : TcpCtx} {sid : Nat} (h : WakeInit ctx sid) : WakeInv ctx sid := by
  obtain ⟨l, hrep⟩ := h.sched
  refine ⟨h.bound, h.ids, h.found, l, hrep, fun hpos => ?_⟩
  have hpos' := UInt32.lt_iff_toNat_lt.mp hpos
  rw [toNat_sockSchedAvail, h.fresh] at hpos'
  simp at hpos'

/-- One handler step keeps the invariant, whichever socket it works on. -/
theorem WakeInv.step {ctx ctx' : TcpCtx} {sid j : Nat} {l l' : List UInt32}
    (h : WakeInv ctx sid) (hw : Wakes ctx l sid) (hs : WakeStep ctx l j ctx' l') :
    WakeInv ctx' sid := by
  refine ⟨hs.nelems ▸ h.bound, fun i hi => ?_, hs.nelems ▸ h.found, l', hs.rep, ?_⟩
  · rw [hs.id]
    exact h.ids i (hs.nelems ▸ hi)
  · by_cases hj : sid = j
    · rw [hj] at hw ⊢
      exact hs.wakes hw
    · intro hpos
      rw [hs.others sid hj] at hpos
      rw [hs.id]
      exact hs.keeps sid h.found hj (hw hpos)

end Chamelio.Tcp
