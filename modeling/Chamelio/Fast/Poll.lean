import Chamelio.Fast.RxDispatch

/-!
# The poll loops of a core (`fast/fast_rx.c`, `fast_queues.c`, `fast_sched.c`, `fast_comb.c`)

A core runs four polls in turn: received frames, queue entries of the guests,
scheduler entries of the guests and messages of the control path. The middle
two take a window of mbufs from the transmit cache, hand them one by one to
the guests' handlers and give back what was not used. Every poll exists
twice: the default one calls a guest's handler through a `switch`, the
combined one calls the function linked into the guest's slot.

Mirroring notes:
- What lies behind the calls is a parameter, `Handlers`: the guests' handlers,
  `sched_head`, `infra_rx`, `infra_tx` and the clock act on a world that holds
  everything the loops do not look at (protocol state, packets, ARP table).
- The entries of a queue are those its producer has published, in order;
  `queue_head` and `queue_dequeue` act on that list. An entry is handed over
  with the index of its queue.
- An array of 64 mbufs with its counter `tx_n` is a list. Guests are an index
  into the context, and a poll that runs a `NULL` machine, or a guest behind
  the array, ends the process: its result is `none`.
- A poll of the scheduler goes on as long as packets cannot be sent
  (`INFRA_RET_ERR`), so it takes the number of rounds it may run; `none` there
  means that it is still running.
- `calls` and `strayUse` are no part of the program: the handlers called so
  far, and whether a slot was read that `txcache_alloc` had not returned. Nor
  are `txPut`, `txSent` and `strayPut`: the packets written to `tx_mbs` so far,
  those the NIC took from it, and whether one was written behind its end.
-/

namespace Chamelio.Fast.Poll

open Chamelio.Control

/-- `FAST_SCHED_BATCH_SIZE`. -/
def fastSchedBatchSize : Nat := 16
/-- `FAST_DEQ_BATCH_SIZE`. -/
def fastDeqBatchSize : Nat := 32
/-- `FAST_CTL_BATCH_SIZE`. -/
def fastCtlBatchSize : Nat := 32

/-- What is set up in the context of a handler; `qid` is the id of the queue of
the entry. -/
inductive Event (ε : Type)
  | rx (pktOff : Nat)
  | deq (qid : Nat) (qe : ε)
  | sched

structure Call (ε : Type) where
  gid : Nat
  ev : Event ε
  mb : Nat

/-- What `ebpf_vm_exec` returns: its own result and the program's. -/
structure Ret where
  execRet : Int
  ret : Int
  deriving DecidableEq, Repr

/-- The code the polls call. -/
structure Handlers (W ε : Type) where
  /-- `ebpf_vm_exec` on the machine of a guest. -/
  vmExec : Nat → Event ε → Nat → W → Ret × W
  /-- `proto_hand_event_*` for a protocol type and a guest. -/
  hand : Nat → Nat → Event ε → Nat → W → Int × W
  /-- `event_*_slot_*`. -/
  slot : Nat → Event ε → Nat → W → Int × W
  /-- `sched_head` of a guest is not `NULL`. -/
  schedHead : Nat → W → Bool
  /-- `infra_rx`: the guest and `pkt_off`. -/
  infraRx : Nat → W → Option (Nat × Nat) × W
  infraTx : Nat → Nat → Int → W → InfraRet × W
  arpInsert : Nat → Nat → W → W
  clockRdtsc : W → UInt64

/-- Messages of the control path to a core. -/
inductive CtlMsg
  | config (msg : FastMsg)
  | arpTxPkt
  | arpUpdate (ip mac : Nat)
  | mbufTx (gid mb : Nat) (pktLen : Int)
  /-- A type the core does not know. -/
  | unknown

/-- The part of `struct fast_context` the polls use. -/
structure PollCtx (W ε : Type) where
  fpProtoMode : FpProtoMode
  perfIso : Bool
  ctx : FastCtx
  /-- `*g->budget` of each guest. -/
  budgets : Nat → Int64
  nextQueuesGuest : Nat
  nextSchedGuest : Nat
  /-- The entries of a guest's queues. -/
  queued : Nat → Nat → List ε
  mbufs : Mbufs
  /-- mbufs in messages to the control path and those that wait there. -/
  ctlMbs : List Nat
  ctlFastQ : List CtlMsg
  /-- packets in `ctl_txq`. -/
  ctlTxq : Nat
  world : W
  calls : List (Call ε)
  strayUse : Bool
  txPut : List Nat := []
  txSent : List Nat := []
  strayPut : Bool := false

/-- What the pool and the NIC answer during a poll. -/
structure PollIo where
  /-- for `rte_pktmbuf_alloc_bulk`. -/
  grants : Bool × Bool
  /-- packets `nic_fast_tx` takes. -/
  sent : Nat

/-- `dqueue_rotate_head`, for the queue at the head. -/
def dqueueRotateHead (g : GuestFast) (qi : Nat) : GuestFast :=
  let g := g.setDqueue g.dqueuesTail { g.dqueues g.dqueuesTail with next := (g.dqueues qi).id }
  let g := { g with dqueuesTail := (g.dqueues qi).id }
  let g := { g with
    dqueuesHead := if g.ndqueues = 1 then (g.dqueues qi).id else (g.dqueues qi).next }
  g.setDqueue qi { g.dqueues qi with next := protoqIdInvalid }

variable {W ε : Type}

namespace PollCtx

/-- `mbs[k]` of a window of the transmit cache. -/
def windowMb (s : PollCtx W ε) (w : TxWindow) (k : Nat) : Nat := s.mbufs.cache.mbs (w.base + k)

/-- Reading `mbs[k]`. -/
def useMb (s : PollCtx W ε) (w : TxWindow) (k : Nat) : PollCtx W ε :=
  { s with strayUse := s.strayUse || decide (w.num ≤ k) }

/-- A handler ran. -/
def called (s : PollCtx W ε) (gid : Nat) (ev : Event ε) (mb : Nat) (w : W) : PollCtx W ε :=
  { s with world := w, calls := s.calls ++ [{ gid, ev, mb }] }

/-- `ctx->tx_mbs[ctx->tx_n] = mb; ctx->tx_n++`. -/
def queueTx (s : PollCtx W ε) (mb : Nat) : PollCtx W ε :=
  { s with
    mbufs := { s.mbufs with txMbs := s.mbufs.txMbs ++ [mb] }
    txPut := s.txPut ++ [mb]
    strayPut := s.strayPut || decide (txbufSize ≤ s.mbufs.txMbs.length) }

/-- `fast_budg_charge`. -/
def charge (s : PollCtx W ε) (gid : Nat) (cyc : UInt64) : PollCtx W ε :=
  { s with budgets := fun i => if i = gid then s.budgets i - cyc.toInt64 else s.budgets i }

/-- `charge_budget && budget <= 0`. -/
def outOfBudget (s : PollCtx W ε) (gid : Nat) : Bool := s.perfIso && decide (s.budgets gid ≤ 0)

/-- `fast_txflush`. What the NIC takes it returns to the pool. -/
def txflush (s : PollCtx W ε) (sent : Nat) : PollCtx W ε :=
  { s with
    mbufs :=
      { fastTxflush s.mbufs sent with pool := s.mbufs.pool ++ s.mbufs.txMbs.take sent }
    txSent := s.txSent ++ s.mbufs.txMbs.take sent }

/-- Room in the transmit buffer, up to a batch. -/
def batch (s : PollCtx W ε) (size : Nat) : Nat := min size (txbufSize - s.mbufs.txMbs.length)

def unalloc (s : PollCtx W ε) (num : Nat) : PollCtx W ε :=
  { s with mbufs := txcacheUnalloc s.mbufs num }

def free (s : PollCtx W ε) (mb : Nat) : PollCtx W ε :=
  { s with mbufs := txcacheFree s.mbufs mb }

/-- `queue_dequeue`: `none` when the queue is empty. -/
def queueDequeue (s : PollCtx W ε) (gid qi : Nat) : Option (PollCtx W ε) :=
  match s.queued gid qi with
  | [] => none
  | _ :: rest =>
    some { s with queued := fun g q => if g = gid ∧ q = qi then rest else s.queued g q }

/-- `dqueue_rotate_head` on a guest of the core. -/
def rotateHead (s : PollCtx W ε) (gid qi : Nat) : PollCtx W ε :=
  { s with ctx := s.ctx.setGuest gid (dqueueRotateHead (s.ctx.guests gid) qi) }

end PollCtx

/-- The `switch` over `fp_proto_mode` around a handler. -/
def runEvent (h : Handlers W ε) (s : PollCtx W ε) (gid : Nat) (ev : Event ε) (mb : Nat) :
    Option (Ret × PollCtx W ε) :=
  match s.fpProtoMode with
  | .ebpf =>
    if (s.ctx.guests gid).hasEvents then
      let (r, w) := h.vmExec gid ev mb s.world
      some (r, s.called gid ev mb w)
    else none
  | .hand =>
    let (r, w) := h.hand (s.ctx.guests gid).protoType gid ev mb s.world
    some ({ execRet := 0, ret := r }, s.called gid ev mb w)
  | .unknown => some ({ execRet := -1, ret := -1 }, s)

/-- `infra_tx`, and what every poll does with its result: the packet is queued
for transmission, kept by the control path, or neither. -/
def transmit (h : Handlers W ε) (s : PollCtx W ε) (gid mb : Nat) (pktLen : Int) :
    PollCtx W ε × Bool :=
  let (r, w) := h.infraTx gid mb pktLen s.world
  let s := { s with world := w }
  match r with
  | .ok => (s.queueTx mb, true)
  | .mbuf => ({ s with ctlMbs := s.ctlMbs ++ [mb] }, true)
  | .err => (s, false)

theorem PollCtx.outOfBudget_congr {s s' : PollCtx W ε} {g : Nat} (hiso : s'.perfIso = s.perfIso)
    (hb : s'.budgets g = s.budgets g) : s'.outOfBudget g = s.outOfBudget g := by
  unfold PollCtx.outOfBudget
  rw [hiso, hb]

theorem transmit_world (h : Handlers W ε) (s : PollCtx W ε) (gid mb : Nat) (len : Int) :
    (transmit h s gid mb len).1.world = (h.infraTx gid mb len s.world).2 := by
  unfold transmit
  rcases h.infraTx gid mb len s.world with ⟨r, w⟩
  cases r <;> rfl

theorem transmit_used (h : Handlers W ε) (s : PollCtx W ε) (gid mb : Nat) (len : Int) :
    (transmit h s gid mb len).2 = decide ((h.infraTx gid mb len s.world).1 ≠ .err) := by
  unfold transmit
  rcases h.infraTx gid mb len s.world with ⟨r, w⟩
  cases r <;> rfl

theorem transmit_cache (h : Handlers W ε) (s : PollCtx W ε) (gid mb : Nat) (len : Int) :
    (transmit h s gid mb len).1.mbufs.cache = s.mbufs.cache := by
  unfold transmit
  rcases h.infraTx gid mb len s.world with ⟨r, w⟩
  cases r <;> rfl

/-- The guests in the order a poll visits them: `(start + i) % n`. -/
def guestOrder (n start : Nat) : List Nat := (List.range n).map fun i => (start + i) % n

/-- The guests a poll visits are registered. -/
theorem mem_guestOrder {n start gid : Nat} (hgid : gid ∈ guestOrder n start) : gid < n := by
  unfold guestOrder at hgid
  obtain ⟨i, hi, rfl⟩ := List.mem_map.mp hgid
  exact Nat.mod_lt _ (Nat.zero_lt_of_lt (List.mem_range.mp hi))

/-- A step around a circle of `n`. -/
private theorem circle_step {n start i : Nat} (hs : start < n) (hi : i < n) :
    (start + i) % n = if start + i < n then start + i else start + i - n := by
  split
  · next h => exact Nat.mod_eq_of_lt h
  · next h =>
    rw [Nat.mod_eq_sub_mod (Nat.not_lt.mp h)]
    exact Nat.mod_eq_of_lt (by omega)

/-- No guest is visited twice. -/
theorem nodup_guestOrder {n start : Nat} (hs : start < n) : (guestOrder n start).Nodup := by
  unfold guestOrder
  refine List.nodup_iff_pairwise_ne.mpr ?_
  rw [List.pairwise_map]
  refine List.Pairwise.imp_of_mem ?_ (List.nodup_iff_pairwise_ne.mp List.nodup_range)
  intro i j hi hj hne
  rw [circle_step hs (List.mem_range.mp hi), circle_step hs (List.mem_range.mp hj)]
  have hi' := List.mem_range.mp hi
  have hj' := List.mem_range.mp hj
  split <;> split <;> omega

/-- Every guest is visited. -/
theorem guestOrder_mem {n start gid : Nat} (hs : start < n) (hgid : gid < n) :
    gid ∈ guestOrder n start := by
  unfold guestOrder
  refine List.mem_map.mpr ⟨if start ≤ gid then gid - start else gid + n - start, ?_, ?_⟩
  · rw [List.mem_range]
    split <;> omega
  · rw [circle_step hs (by split <;> omega)]
    split <;> split <;> omega

/-! ## Received frames -/

/-- `rx_poll_guest`. -/
def rxPollGuest (h : Handlers W ε) (s : PollCtx W ε) (gid mb pktOff : Nat) (tscStart : UInt64) :
    Option (PollCtx W ε × Bool) :=
  match runEvent h s gid (.rx pktOff) mb with
  | none => none
  | some (r, s) =>
    let didWork := decide (0 ≤ r.execRet ∧ 0 ≤ r.ret)
    let (s, mbTx) := if 0 < r.ret then transmit h s gid mb r.ret else (s, false)
    let s := if s.perfIso && didWork then s.charge gid (h.clockRdtsc s.world - tscStart) else s
    some (s, mbTx)

/-- The loop over the received frames; with each mbuf whether it is used. -/
def rxLoop (h : Handlers W ε) : List Nat → PollCtx W ε →
    Option (PollCtx W ε × List (Nat × Bool))
  | [], s => some (s, [])
  | mb :: mbs, s =>
    let tscStart := h.clockRdtsc s.world
    match h.infraRx mb s.world with
    | (none, w) =>
      match rxLoop h mbs { s with world := w } with
      | none => none
      | some (s, used) => some (s, (mb, false) :: used)
    | (some (gid, pktOff), w) =>
      if chamelioMaxGuests ≤ gid then none
      else
        match rxPollGuest h { s with world := w } gid mb pktOff tscStart with
        | none => none
        | some (s, mbTx) =>
          match rxLoop h mbs s with
          | none => none
          | some (s, used) => some (s, (mb, mbTx) :: used)

/-- The loop that reuses the mbufs nothing was sent in. -/
def rxFree : List (Nat × Bool) → PollCtx W ε → PollCtx W ε
  | [], s => s
  | (mb, mbTx) :: used, s => rxFree used (if mbTx then s else s.free mb)

/-- The NIC hands over `nrx` frames, in mbufs of its own. -/
def nicFastRx (s : PollCtx W ε) (nrx : Nat) : PollCtx W ε × List Nat :=
  let n := min nrx (s.batch fastRxBatchSize)
  ({ s with mbufs := { s.mbufs with pool := s.mbufs.pool.drop n } }, s.mbufs.pool.take n)

/-- `fast_rx_poll`. -/
def fastRxPoll (h : Handlers W ε) (s : PollCtx W ε) (nrx sent : Nat) :
    Option (Int × PollCtx W ε) :=
  let (s, mbs) := nicFastRx s nrx
  if mbs.length = 0 then some (0, s)
  else
    match rxLoop h mbs s with
    | none => none
    | some (s, used) => some (mbs.length, rxFree used (s.txflush sent))

/-! ## Queues -/

/-- The context with the counters of `fast_queues_poll`. -/
structure DeqLoop (W ε : Type) where
  s : PollCtx W ε
  ntx : Nat
  ndeq : Nat

/-- `queues_poll_guest_dequeue`; the flag is false where it returns -1. -/
def queuesPollGuestDequeue (h : Handlers W ε) (w : TxWindow) (gid qi : Nat) (qe : ε)
    (l : DeqLoop W ε) : Option (Bool × DeqLoop W ε) :=
  let mb := l.s.windowMb w l.ntx
  let s := l.s.useMb w l.ntx
  match runEvent h s gid (.deq ((s.ctx.guests gid).dqueues qi).id qe) mb with
  | none => none
  | some (r, s) =>
    if r.ret < 0 ∨ r.execRet < 0 then some (false, { s, ntx := l.ntx, ndeq := l.ndeq + 1 })
    else if 0 < r.ret then
      let (s, used) := transmit h s gid mb r.ret
      some (true, { s, ntx := if used then l.ntx + 1 else l.ntx, ndeq := l.ndeq + 1 })
    else some (true, { s, ntx := l.ntx, ndeq := l.ndeq + 1 })

/-- Drain a queue; `room` is `max - ndeq`. -/
def drainQueue (h : Handlers W ε) (w : TxWindow) (gid qi : Nat) :
    Nat → DeqLoop W ε → Option (Bool × DeqLoop W ε)
  | 0, l => some (true, l)
  | room + 1, l =>
    match l.s.queued gid qi with
    | [] => some (true, l)
    | qe :: _ =>
      match queuesPollGuestDequeue h w gid qi qe l with
      | none => none
      | some (false, l) => some (false, l)
      | some (true, l) =>
        match l.s.queueDequeue gid qi with
        | none => some (false, l)
        | some s => drainQueue h w gid qi room { l with s }

/-- The rounds over the enabled queues that are left. -/
def queueRounds (h : Handlers W ε) (w : TxWindow) (gid : Nat) :
    Nat → DeqLoop W ε → Option (Bool × DeqLoop W ε)
  | 0, l => some (true, l)
  | rounds + 1, l =>
    if l.ndeq < w.num then
      let qi := (l.s.ctx.guests gid).dqueuesHead
      match drainQueue h w gid qi (w.num - l.ndeq) l with
      | none => none
      | some (false, l) => some (false, l)
      | some (true, l) => queueRounds h w gid rounds { l with s := l.s.rotateHead gid qi }
    else some (true, l)

/-- `queues_poll_guest`. -/
def queuesPollGuest (h : Handlers W ε) (w : TxWindow) (gid : Nat) (l : DeqLoop W ε) :
    Option (Bool × DeqLoop W ε) :=
  let g := l.s.ctx.guests gid
  if g.dqueuesHead = protoqIdInvalid then some (true, l)
  else if l.s.outOfBudget gid then some (true, l)
  else
    let tscStart := h.clockRdtsc l.s.world
    match queueRounds h w gid g.ndqueues l with
    | some (true, l') =>
      if l'.s.perfIso ∧ l.ndeq < l'.ndeq then
        some (true, { l' with s := l'.s.charge gid (h.clockRdtsc l'.s.world - tscStart) })
      else some (true, l')
    | r => r

/-- The loop over the guests that are left, and the last one that had an
entry. -/
def queuesGuests (h : Handlers W ε) (w : TxWindow) :
    List Nat → DeqLoop W ε → Option Nat → Option (Bool × DeqLoop W ε × Option Nat)
  | [], l, last => some (true, l, last)
  | gid :: gids, l, last =>
    if l.ndeq < w.num then
      match queuesPollGuest h w gid l with
      | none => none
      | some (false, l) => some (false, l, last)
      | some (true, l') =>
        queuesGuests h w gids l' (if l.ndeq < l'.ndeq then some gid else last)
    else some (true, l, last)

/-- The next guest to start with. -/
def PollCtx.queuesCursor (s : PollCtx W ε) : Option Nat → PollCtx W ε
  | none => s
  | some gid => { s with nextQueuesGuest := (gid + 1) % s.ctx.nGuests }

/-- The guest a poll of the queues starts with. -/
def PollCtx.queuesStart (s : PollCtx W ε) : Nat :=
  if s.ctx.nGuests ≤ s.nextQueuesGuest then 0 else s.nextQueuesGuest

/-- `fast_queues_poll`. -/
def fastQueuesPoll (h : Handlers W ε) (s : PollCtx W ε) (io : PollIo) :
    Option (Int × PollCtx W ε) :=
  if s.ctx.nGuests = 0 then some (0, s)
  else
    let (w, mbufs) := txcacheAlloc s.mbufs io.grants (s.batch fastDeqBatchSize)
    if w.num = 0 then some (0, { s with mbufs })
    else
      match queuesGuests h w (guestOrder s.ctx.nGuests s.queuesStart)
        { s := { s with mbufs }, ntx := 0, ndeq := 0 } none with
      | none => none
      | some (false, l, _) => some (-1, l.s)
      | some (true, l, last) =>
        some (l.ndeq, ((l.s.queuesCursor last).txflush io.sent).unalloc (w.num - l.ntx))

/-! ## Schedulers -/

/-- The context with the variables of `sched_poll_guest`. -/
structure SchedLoop (W ε : Type) where
  s : PollCtx W ε
  ntx : Nat
  didWork : Bool
  schedRet : Int

/-- The loop goes on: there is an mbuf left, and an entry. -/
def SchedLoop.more (h : Handlers W ε) (w : TxWindow) (gid : Nat) (l : SchedLoop W ε) : Bool :=
  decide (l.ntx < w.num) && h.schedHead gid l.s.world

/-- The loop of `sched_poll_guest`. -/
def schedWhile (h : Handlers W ε) (w : TxWindow) (gid : Nat) :
    Nat → SchedLoop W ε → Option (SchedLoop W ε)
  | 0, l => if l.more h w gid then none else some l
  | fuel + 1, l =>
    if l.more h w gid then
      let mb := l.s.windowMb w l.ntx
      match runEvent h (l.s.useMb w l.ntx) gid .sched mb with
      | none => none
      | some (r, s) =>
        if r.ret ≤ 0 ∨ r.execRet < 0 then some { l with s, schedRet := r.ret }
        else
          let (s, used) := transmit h s gid mb r.ret
          schedWhile h w gid fuel
            { s, ntx := if used then l.ntx + 1 else l.ntx, didWork := l.didWork || used
              schedRet := r.ret }
    else some l

/-- There is a handler to schedule with. -/
def schedReady (s : PollCtx W ε) (gid : Nat) : Bool :=
  match s.fpProtoMode with
  | .ebpf => (s.ctx.guests gid).hasEvents
  | .hand => decide ((s.ctx.guests gid).protoType ≠ chamProtoInvalid)
  | .unknown => false

/-- `sched_poll_guest`: its result, the context and `ntx`. -/
def schedPollGuest (h : Handlers W ε) (w : TxWindow) (fuel gid : Nat) (s : PollCtx W ε)
    (ntx : Nat) : Option (Int × PollCtx W ε × Nat) :=
  if schedReady s gid = false then some (0, s, ntx)
  else if s.outOfBudget gid then some (0, s, ntx)
  else
    let tscStart := h.clockRdtsc s.world
    match schedWhile h w gid fuel { s, ntx, didWork := false, schedRet := 0 } with
    | none => none
    | some l =>
      let s := if l.s.perfIso ∧ ntx < l.ntx then
        l.s.charge gid (h.clockRdtsc l.s.world - tscStart) else l.s
      some (if l.schedRet < 0 then -1 else if l.didWork then 1 else 0, s, l.ntx)

/-- The loop over the guests that are left; a negative result of a guest is
ignored. -/
def schedGuests (h : Handlers W ε) (w : TxWindow) (fuel : Nat) :
    List Nat → PollCtx W ε → Nat → Option Nat → Option (PollCtx W ε × Nat × Option Nat)
  | [], s, ntx, last => some (s, ntx, last)
  | gid :: gids, s, ntx, last =>
    if ntx < w.num then
      match schedPollGuest h w fuel gid s ntx with
      | none => none
      | some (r, s, ntx) => schedGuests h w fuel gids s ntx (if 0 < r then some gid else last)
    else some (s, ntx, last)

def PollCtx.schedCursor (s : PollCtx W ε) : Option Nat → PollCtx W ε
  | none => s
  | some gid => { s with nextSchedGuest := (gid + 1) % s.ctx.nGuests }

/-- The guest a poll of the schedulers starts with. -/
def PollCtx.schedStart (s : PollCtx W ε) : Nat :=
  if s.ctx.nGuests ≤ s.nextSchedGuest then 0 else s.nextSchedGuest

/-- `fast_sched_poll`. -/
def fastSchedPoll (h : Handlers W ε) (fuel : Nat) (s : PollCtx W ε) (io : PollIo) :
    Option (Int × PollCtx W ε) :=
  if s.ctx.nGuests = 0 then some (0, s)
  else
    let (w, mbufs) := txcacheAlloc s.mbufs io.grants (s.batch fastSchedBatchSize)
    if w.num = 0 then some (0, { s with mbufs })
    else
      match schedGuests h w fuel (guestOrder s.ctx.nGuests s.schedStart) { s with mbufs } 0
        none with
      | none => none
      | some (s, ntx, last) =>
        some (ntx, ((s.schedCursor last).txflush io.sent).unalloc (w.num - ntx))

/-! ## Messages of the control path -/

/-- `handle_arp_tx_pkt`. The number `txcache_alloc` returns is not looked at. -/
def handleArpTxPkt (s : PollCtx W ε) (io : PollIo) : PollCtx W ε :=
  if s.ctlTxq = 0 then s
  else
    let (w, mbufs) := txcacheAlloc s.mbufs io.grants 1
    let s := { s with mbufs }
    let s := (s.useMb w 0).queueTx (s.windowMb w 0)
    { s with ctlTxq := s.ctlTxq - 1 }

/-- `handle_mbuf`. -/
def handleMbuf (h : Handlers W ε) (s : PollCtx W ε) (gid mb : Nat) (pktLen : Int) : PollCtx W ε :=
  if txbufSize < s.mbufs.txMbs.length then s.free mb
  else
    let (s, used) := transmit h s gid mb pktLen
    if used then s else s.free mb

/-- The `switch` of `controlif_poll`, with the message taken off; a message of
an unknown type stays. -/
def handleCtlMsg (h : Handlers W ε) (s : PollCtx W ε) (io : PollIo) (msg : CtlMsg)
    (rest : List CtlMsg) : PollCtx W ε :=
  match msg with
  | .config m => { s with ctx := handleMsg s.ctx m, ctlFastQ := rest }
  | .arpTxPkt => { handleArpTxPkt s io with ctlFastQ := rest }
  | .arpUpdate ip mac => { s with world := h.arpInsert ip mac s.world, ctlFastQ := rest }
  | .mbufTx gid mb pktLen => { handleMbuf h s gid mb pktLen with ctlFastQ := rest }
  | .unknown => s

/-- The loop of `controlif_poll`, with `n` rounds left; `ios` answers for each. -/
def controlifLoop (h : Handlers W ε) (ios : Nat → PollIo) : Nat → PollCtx W ε → PollCtx W ε
  | 0, s => s
  | n + 1, s =>
    match s.ctlFastQ with
    | [] => s
    | msg :: rest => controlifLoop h ios n (handleCtlMsg h s (ios n) msg rest)

/-- `controlif_poll`. -/
def controlifPoll (h : Handlers W ε) (ios : Nat → PollIo) (s : PollCtx W ε) : PollCtx W ε :=
  controlifLoop h ios (s.batch fastCtlBatchSize) s

end Chamelio.Fast.Poll
