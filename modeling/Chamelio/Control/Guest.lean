import Chamelio.Control.Types

/-!
# Requests of the guests (`control_guest.c`, `control_ebpf.c`, `poll_guests`)

Each handler takes the guest's entry and either answers in the guest's
response ring and tells the fast-path cores, or goes down in an assertion:
`queue_tail` and `queue_enqueue` are asserted to find a free slot. The
handlers below are in source order; a handler that returns early leaves
through the same exits.

Mirroring notes: `shm` contents are not modelled, so the `memset` of a new
queue leaves no trace. `queue_enqueue` after a successful `queue_tail` of
the same queue cannot fail (nobody else produces), so the two asserts are
one check. `i` of `poll_guests` is never incremented in the source, so the
batch bound is no bound and the loop runs until every guest has been found
empty once. The free list of a guest's allocator is a list of blocks, so it
cannot show what a second free of a block makes of it: `freelistLoops` marks
such a list, and a handler that would walk it goes down as `undefined` (the
search of `shmalloc_alloc` for a block may go round for ever).
-/

namespace Chamelio.Control

open Chamelio.Lib Chamelio.Util

/-! ## Accepting a guest -/

/-- The two ring allocations of `uxsocket_accept` with the assertions on
their offsets: the allocator behind them and the rings. -/
def acceptRings (config : Configuration) (heapOk : Bool) :
    Option (ShmAllocator × Region × Region) :=
  let size := config.agtQueueLen * queueEntrySize % 18446744073709551616
  match shmallocAlloc heapOk (shmallocInit config.shmLen) size with
  | none => none
  | some (alloc, guestCham) =>
    match shmallocAlloc heapOk alloc size with
    | none => none
    | some (alloc, chamGuest) =>
      if guestCham.off = 0 ∧ chamGuest.off = size then some (alloc, guestCham, chamGuest)
      else none

/-- `g->proto` before any registration wrote to it. -/
def ProtoControl.blank : ProtoControl :=
  { protoType := chamProtoInvalid, nqueues := 0, queues := fun _ => ⟨0, 0, 0, 0, 0⟩, nmaps := 0 }

/-- The guest `uxsocket_accept` sets up. -/
def acceptGuest (config : Configuration) (id : Nat) (alloc : ShmAllocator) : GuestControl :=
  { id, alloc, ebpfShmHandle := none, ebpfFreed := false, freelistLoops := false
    guestChamQ := SlotQ.zeroed config.agtQueueLen
    chamGuestQ := SlotQ.zeroed config.agtQueueLen
    proto := ProtoControl.blank }

/-! ## Answers and messages to the cores -/

/-- Fill the asserted tail entry of `cham_guest_q` and enqueue it. -/
def GuestControl.respond (g : GuestControl) (fill : (Nat → UInt8) → Nat → UInt8)
    (t : QueueType) : GuestControl :=
  { g with chamGuestQ := g.chamGuestQ.push fill t.toByte }

def ControlCtx.setFastQ (ctx : ControlCtx) (i : Nat) (q : Fifo FastMsg) : ControlCtx :=
  { ctx with ctlFastQs := fun j => if j = i then q else ctx.ctlFastQs j }

/-- One message into `ctl_fast_qs[i]`, with the assertions around it. -/
def fastSend (ctx : ControlCtx) (i : Nat) (m : FastMsg) : Except Crash ControlCtx :=
  match (ctx.ctlFastQs i).push m with
  | some q => .ok (ctx.setFastQ i q)
  | none => .error .assertion

/-- The loop that sends a message to the first `n` cores. -/
def fastSendAll (ctx : ControlCtx) (m : FastMsg) : Nat → Except Crash ControlCtx
  | 0 => .ok ctx
  | n + 1 =>
    match fastSendAll ctx m n with
    | .ok ctx => fastSend ctx n m
    | .error e => .error e

/-! ## `control_guest.c` -/

/-- The fields of `struct queue_new_proto_res`. -/
def newProtoResFill (success nFpCores localIp shmLen : Nat) (r : Nat → UInt8) : Nat → UInt8 :=
  lePut (lePut (lePut (lePut r 0 success 1) 1 nFpCores 4) 5 localIp 4) 9 shmLen 8

/-- The two `switch` statements of `control_guest_new_proto`. -/
def newProtoAccepted (ctx : ControlCtx) (d : Nat → UInt8) : Bool :=
  (NewProtoReq.protoType d == chamProtoTcp || NewProtoReq.protoType d == chamProtoUdp) &&
    ctx.config.fpProtoMode != .unknown

/-- `control_guest_new_proto`. -/
def controlGuestNewProto (ctx : ControlCtx) (g : GuestControl) (d : Nat → UInt8) :
    Except Crash (ControlCtx × GuestControl) :=
  if !g.chamGuestQ.hasRoom then .error .assertion
  else if newProtoAccepted ctx d then
    let p := { g.proto with protoType := NewProtoReq.protoType d, nqueues := 0, nmaps := 0 }
    let fill := newProtoResFill 1 ctx.config.fpCoresMax ctx.config.ip ctx.config.shmLen
    .ok (ctx, { g with proto := p }.respond fill .newProtoRes)
  else .ok (ctx, g.respond (newProtoResFill 0 0 0 0) .newProtoRes)

/-- The size `control_guest_new_queue` asks the allocator for: the product
of a `size_t` and a `__u32`. -/
def newQueueSize (d : Nat → UInt8) : Nat :=
  NewQueueReq.elsize d * NewQueueReq.nelems d % 18446744073709551616

/-- The fields of a refusal in `struct queue_new_queue_res`. -/
def newQueueResRefuse (r : Nat → UInt8) : Nat → UInt8 := lePut (lePut r 8 0 8) 4 0 4

/-- The fields of `struct queue_new_queue_res`. -/
def newQueueResFill (qid nelems elsize off opq : Nat) (r : Nat → UInt8) : Nat → UInt8 :=
  lePut (lePut (lePut (lePut (lePut r 0 qid 4) 4 nelems 4) 8 elsize 8) 16 off 8) 24 opq 8

def ProtoControl.setQueue (p : ProtoControl) (i : Nat) (q : ProtoQueueControl) : ProtoControl :=
  { p with queues := fun j => if j = i then q else p.queues j }

/-- The new queue's entry in `g->proto.queues`. -/
def newQueueEntry (nqueues : Nat) (d : Nat → UInt8) (sh : Region) : ProtoQueueControl :=
  { id := nqueues, nelems := NewQueueReq.nelems d, elsize := NewQueueReq.elsize d % 4294967296,
    off := sh.off % 18446744073709551616, core := coreInvalid }

/-- The message that registers a queue with the fast path. -/
def newQueueMsg (g : GuestControl) (q : ProtoQueueControl) : FastMsg :=
  .newQueue g.id g.proto.protoType q.id q.nelems q.elsize q.off

/-- `control_guest_new_queue`. -/
def controlGuestNewQueue (ctx : ControlCtx) (g : GuestControl) (d : Nat → UInt8) :
    Except Crash (ControlCtx × GuestControl) :=
  let nqueues := g.proto.nqueues
  -- the counter advances before the checks
  let g := { g with proto := { g.proto with nqueues := (nqueues + 1) % 65536 } }
  if !g.chamGuestQ.hasRoom then .error .assertion
  else if maxProtoQueues ≤ nqueues then .ok (ctx, g.respond newQueueResRefuse .newQueueRes)
  else if g.freelistLoops then .error .undefined
  else
    match shmallocAlloc ctx.heapOk g.alloc (newQueueSize d) with
    | none => .ok (ctx, g.respond newQueueResRefuse .newQueueRes)
    | some (alloc, sh) =>
      let q := newQueueEntry nqueues d sh
      let g := { g with alloc, proto := g.proto.setQueue nqueues q }
      match fastSendAll ctx (newQueueMsg g q) ctx.config.fpCoresMax with
      | .error e => .error e
      | .ok ctx =>
        let fill := newQueueResFill nqueues (NewQueueReq.nelems d) (NewQueueReq.elsize d)
          sh.off (NewQueueReq.opq d)
        .ok (ctx, g.respond fill .newQueueRes)

/-- The size `control_guest_new_map` asks the allocator for: the product of
two `__u32`. -/
def newMapSize (d : Nat → UInt8) : Nat :=
  NewMapReq.elsize d * NewMapReq.nelems d % 4294967296

/-- The fields of a refusal in `struct queue_new_map_res`. -/
def newMapResRefuse (r : Nat → UInt8) : Nat → UInt8 := lePut (lePut r 10 0 4) 14 0 4

/-- The fields of `struct queue_new_map_res`. -/
def newMapResFill (id off nelems elsize opq : Nat) (r : Nat → UInt8) : Nat → UInt8 :=
  lePut (lePut (lePut (lePut (lePut r 0 id 2) 2 off 8) 14 elsize 4) 10 nelems 4) 18 opq 8

/-- The message that registers a map with the fast path. -/
def newMapMsg (g : GuestControl) (mid : Nat) (d : Nat → UInt8) (sh : Region) : FastMsg :=
  .newMap g.id g.proto.protoType mid (NewMapReq.nelems d) (NewMapReq.elsize d) (sh.off % 18446744073709551616)

/-- `control_guest_new_map`. -/
def controlGuestNewMap (ctx : ControlCtx) (g : GuestControl) (d : Nat → UInt8) :
    Except Crash (ControlCtx × GuestControl) :=
  if !g.chamGuestQ.hasRoom then .error .assertion
  else if maxProtoMaps ≤ g.proto.nmaps then .ok (ctx, g.respond newMapResRefuse .newMapRes)
  else if g.freelistLoops then .error .undefined
  else
    match shmallocAlloc ctx.heapOk g.alloc (newMapSize d) with
    | none => .ok (ctx, g.respond newMapResRefuse .newMapRes)
    | some (alloc, sh) =>
      let mid := g.proto.nmaps
      let g := { g with alloc, proto := { g.proto with nmaps := (mid + 1) % 65536 } }
      match fastSendAll ctx (newMapMsg g mid d sh) ctx.config.fpCoresMax with
      | .error e => .error e
      | .ok ctx =>
        let fill := newMapResFill mid sh.off (NewMapReq.nelems d) (NewMapReq.elsize d)
          (NewMapReq.opq d)
        .ok (ctx, g.respond fill .newMapRes)

/-- The message that enables a queue on a core. -/
def enableqMsg (g : GuestControl) (qid core : Nat) : FastMsg :=
  let pq := g.proto.queues qid
  .enableq g.id g.proto.protoType qid pq.off pq.nelems pq.elsize core

/-- `control_guest_enableq`. -/
def controlGuestEnableq (ctx : ControlCtx) (g : GuestControl) (d : Nat → UInt8) :
    Except Crash (ControlCtx × GuestControl) :=
  let qid := EnableqReq.qid d
  let core := EnableqReq.core d
  if ctx.config.fpCoresMax ≤ core then .ok (ctx, g)
  else if g.proto.nqueues ≤ qid then .ok (ctx, g)
  else if !(ctx.ctlFastQs core).hasRoom then .error .assertion
  else if maxProtoQueues ≤ qid then .error .undefined
  else
    match fastSend ctx core (enableqMsg g qid core) with
    | .error e => .error e
    | .ok ctx =>
      .ok (ctx, { g with proto := g.proto.setQueue qid { g.proto.queues qid with core } })

/-- `control_guest_disableq`. -/
def controlGuestDisableq (ctx : ControlCtx) (g : GuestControl) (d : Nat → UInt8) :
    Except Crash (ControlCtx × GuestControl) :=
  let qid := DisableqReq.qid d
  let core := DisableqReq.core d
  if ctx.config.fpCoresMax ≤ core then .ok (ctx, g)
  else if g.proto.nqueues ≤ qid then .ok (ctx, g)
  else if !(ctx.ctlFastQs core).hasRoom then .error .assertion
  else if maxProtoQueues ≤ qid then .error .undefined
  else
    match fastSend ctx core (.disableq g.id qid core) with
    | .error e => .error e
    | .ok ctx =>
      .ok (ctx, { g with proto := g.proto.setQueue qid { g.proto.queues qid with core } })

/-! ## `control_ebpf.c` -/

/-- `control_ebpf_allocate`. -/
def controlEbpfAllocate (ctx : ControlCtx) (g : GuestControl) (d : Nat → UInt8) :
    Except Crash (ControlCtx × GuestControl) :=
  let fill (size off : Nat) (r : Nat → UInt8) : Nat → UInt8 :=
    lePut (lePut (lePut r 0 size 4) 4 off 8) 12 (AllocEbpfReq.opq d) 8
  if !g.chamGuestQ.hasRoom then .error .assertion
  else if g.freelistLoops then .error .undefined
  else
    match shmallocAlloc ctx.heapOk g.alloc (AllocEbpfReq.size d) with
    | none => .ok (ctx, g.respond (fill 0 0) .allocateEbpfRes)
    | some (alloc, sh) =>
      .ok (ctx, { g with alloc, ebpfShmHandle := some sh, ebpfFreed := false }.respond
        (fill (AllocEbpfReq.size d) sh.off) .allocateEbpfRes)

/-- The loop of `publish_agg_vms`: it stops at the first full queue. -/
def publishAggVms (ctx : ControlCtx) (gid : Nat) : Nat → ControlCtx × Bool
  | 0 => (ctx, true)
  | n + 1 =>
    match publishAggVms ctx gid n with
    | (ctx, false) => (ctx, false)
    | (ctx, true) =>
      match (ctx.ctlFastQs n).push (.uploadEbpf gid) with
      | some q => (ctx.setFastQ n q, true)
      | none => (ctx, false)

/-- `control_ebpf_upload`. -/
def controlEbpfUpload (ctx : ControlCtx) (g : GuestControl) :
    Except Crash (ControlCtx × GuestControl) :=
  let fill (success : Nat) (r : Nat → UInt8) : Nat → UInt8 := lePut r 0 success 4
  if !g.chamGuestQ.hasRoom then .error .assertion
  else if ctx.config.fpProtoMode ≠ .ebpf then
    .ok (ctx, g.respond (fill 1) .uploadEbpfRes)
  else if !ctx.uploadOk then .ok (ctx, g.respond (fill 0) .uploadEbpfRes)
  else if ctx.config.fpJitCombined then
    let (ctx, done) := publishAggVms ctx g.id ctx.config.fpCoresMax
    .ok (ctx, g.respond (fill (if done then 1 else 0)) .uploadEbpfRes)
  else
    match fastSendAll ctx (.uploadEbpf g.id) ctx.config.fpCoresMax with
    | .error e => .error e
    | .ok ctx => .ok (ctx, g.respond (fill 1) .uploadEbpfRes)

/-- `shmalloc_free` of the handle, which stays as it is. A block that is
free already links the free list back to itself: the list is no list from
then on, and no walk over it is modelled. -/
def GuestControl.freeHandle (g : GuestControl) (sh : Region) : GuestControl :=
  if g.ebpfFreed then { g with freelistLoops := true }
  else { g with alloc := shmallocFree g.alloc sh, ebpfFreed := true }

/-- `control_ebpf_free`: the handle is freed whatever it points to, and the
answer is success. -/
def controlEbpfFree (ctx : ControlCtx) (g : GuestControl) :
    Except Crash (ControlCtx × GuestControl) :=
  if !g.chamGuestQ.hasRoom then .error .assertion
  else if g.freelistLoops then .error .undefined
  else
    match g.ebpfShmHandle with
    | none => .error .undefined
    | some sh => .ok (ctx, (g.freeHandle sh).respond (fun r => lePut r 0 1 4) .freeEbpfRes)

/-! ## `poll_guests` -/

/-- The `switch` of `poll_guests` on an entry's type byte. -/
def handleEntry (ctx : ControlCtx) (g : GuestControl) (t : UInt8) (d : Nat → UInt8) :
    Except Crash (ControlCtx × GuestControl) :=
  match QueueType.ofByte? t with
  | some .newProtoReq => controlGuestNewProto ctx g d
  | some .newQueueReq => controlGuestNewQueue ctx g d
  | some .newMapReq => controlGuestNewMap ctx g d
  | some .enableqReq => controlGuestEnableq ctx g d
  | some .disableqReq => controlGuestDisableq ctx g d
  | some .allocateEbpfReq => controlEbpfAllocate ctx g d
  | some .freeEbpfReq => controlEbpfFree ctx g
  | some .uploadEbpfReq => controlEbpfUpload ctx g
  | _ => .error .aborted

def ControlCtx.setGuest (ctx : ControlCtx) (i : Nat) (g : GuestControl) : ControlCtx :=
  { ctx with guests := fun j => if j = i then g else ctx.guests j }

/-- The locals of `poll_guests`. -/
structure PollLocals where
  guestsPolled : Nat
  incrementGuest : Bool

/-- One iteration of the loop of `poll_guests`. -/
def pollGuestsIter (ctx : ControlCtx) (l : PollLocals) :
    Except Crash (ControlCtx × PollLocals) :=
  let g := ctx.guests ctx.nextGuest
  match g.guestChamQ.head? with
  | none =>
    .ok ({ ctx with nextGuest := (ctx.nextGuest + 1) % ctx.nGuests },
      { guestsPolled := l.guestsPolled + 1, incrementGuest := false })
  | some (t, d) =>
    match handleEntry ctx g t d with
    | .error e => .error e
    | .ok (ctx', g') =>
      .ok (ctx'.setGuest ctx.nextGuest { g' with guestChamQ := g'.guestChamQ.pop },
        { l with incrementGuest := true })

/-- What `poll_guests` does after its loop. -/
def pollGuestsLeave (ctx : ControlCtx) (l : PollLocals) : ControlCtx :=
  if l.incrementGuest then { ctx with nextGuest := (ctx.nextGuest + 1) % ctx.nGuests } else ctx

end Chamelio.Control
