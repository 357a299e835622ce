import Chamelio.Control.Types

/-!
# Control messages at a fast-path core (`fast/controlif.c`)

A core keeps, for each guest, its own copy of the guest's queues and maps.
`controlif_poll` takes the messages of the core's control queue in order and
applies one handler to each.

Mirroring notes: addresses (`shm_base + off`) are represented by the offset.
The scheduler of a guest is `Util.Scheduler` and is left out here, and so
are the handlers of ARP and packet messages, which touch no guest
configuration.
-/

namespace Chamelio.Fast

open Chamelio.Control

/-- `PROTOQ_ID_INVALID`. -/
def protoqIdInvalid : Nat := 65535

/-- `struct cham_map`. -/
structure ChamMap where
  id : Nat
  nelems : Nat
  elsize : Nat
  size : Nat
  off : Nat
  deriving DecidableEq, Repr

/-- `struct cham_dqueue`, with the fields of its `struct dqueue`. -/
structure ChamDqueue where
  id : Nat
  head : Nat
  nelems : Nat
  elsize : Nat
  off : Nat
  next : Nat
  prev : Nat
  deriving DecidableEq, Repr

/-- `struct cham_equeue`, with the fields of its `struct equeue`. -/
structure ChamEqueue where
  id : Nat
  tail : Nat
  nelems : Nat
  elsize : Nat
  off : Nat
  deriving DecidableEq, Repr

/-- `struct guest_fast` with its `struct proto_fast` and the queues and maps
of its `struct cham_ebpf_ctx`. -/
structure GuestFast where
  id : Nat
  shmLen : Nat
  protoType : Nat
  ndqueues : Nat
  dqueuesHead : Nat
  dqueuesTail : Nat
  dqueues : Nat → ChamDqueue
  equeues : Nat → ChamEqueue
  hasEvents : Bool
  nmaps : Nat
  maps : Nat → ChamMap

/-- The part of `struct fast_context` the control messages write. -/
structure FastCtx where
  guests : Nat → GuestFast
  nGuests : Nat

/-- A core that has not heard of any guest. -/
def blankCore : FastCtx :=
  { guests := fun _ =>
      { id := 0, shmLen := 0, protoType := chamProtoInvalid, ndqueues := 0
        dqueuesHead := protoqIdInvalid, dqueuesTail := protoqIdInvalid
        dqueues := fun _ => ⟨0, 0, 0, 0, 0, 0, 0⟩, equeues := fun _ => ⟨0, 0, 0, 0, 0⟩
        hasEvents := false, nmaps := 0, maps := fun _ => ⟨0, 0, 0, 0, 0⟩ }
    nGuests := 0 }

namespace FastCtx

def setGuest (ctx : FastCtx) (i : Nat) (g : GuestFast) : FastCtx :=
  { ctx with guests := fun j => if j = i then g else ctx.guests j }

@[simp] theorem setGuest_same (ctx : FastCtx) (i : Nat) (g : GuestFast) :
    (ctx.setGuest i g).guests i = g := if_pos rfl

theorem setGuest_ne {ctx : FastCtx} {i j : Nat} (g : GuestFast) (h : j ≠ i) :
    (ctx.setGuest i g).guests j = ctx.guests j := if_neg h

end FastCtx

def GuestFast.setDqueue (g : GuestFast) (i : Nat) (q : ChamDqueue) : GuestFast :=
  { g with dqueues := fun j => if j = i then q else g.dqueues j }

def GuestFast.setEqueue (g : GuestFast) (i : Nat) (q : ChamEqueue) : GuestFast :=
  { g with equeues := fun j => if j = i then q else g.equeues j }

/-- `handle_new_guest`. -/
def handleNewGuest (ctx : FastCtx) (id shmLen : Nat) : FastCtx :=
  if chamelioMaxGuests ≤ id then ctx
  else
    let g := { ctx.guests id with
      id, shmLen, protoType := chamProtoInvalid, ndqueues := 0, dqueuesHead := protoqIdInvalid,
      dqueuesTail := protoqIdInvalid, hasEvents := false, nmaps := 0 }
    { ctx.setGuest id g with nGuests := (ctx.nGuests + 1) % 256 }

/-- The core counts a guest whose id fits. -/
theorem handleNewGuest_nGuests {ctx : FastCtx} {id shmLen : Nat} (h : id < chamelioMaxGuests) :
    (handleNewGuest ctx id shmLen).nGuests = (ctx.nGuests + 1) % 256 := by
  unfold handleNewGuest
  rw [if_neg (Nat.not_le_of_lt h)]

/-- `handle_new_queue`. -/
def handleNewQueue (ctx : FastCtx) (gid protoType qid nelems elsize off : Nat) : FastCtx :=
  let g := { ctx.guests gid with protoType }
  let g := g.setEqueue qid { id := qid, tail := 0, nelems, elsize, off }
  let g := g.setDqueue qid
    { id := qid, head := 0, nelems, elsize, off, next := protoqIdInvalid, prev := protoqIdInvalid }
  ctx.setGuest gid g

/-- `handle_new_map`: the map goes to the core's own next index. -/
def handleNewMap (ctx : FastCtx) (gid protoType mid nelems elsize off : Nat) : FastCtx :=
  let g := ctx.guests gid
  let m : ChamMap := { id := mid, nelems, elsize, size := elsize * nelems % 4294967296, off }
  ctx.setGuest gid { g with
    protoType := protoType
    nmaps := (g.nmaps + 1) % 65536
    maps := fun i => if i = g.nmaps then m else g.maps i }

/-- `handle_enableq`. -/
def handleEnableq (ctx : FastCtx) (gid protoType qid off nelems elsize : Nat) : FastCtx :=
  let g := { ctx.guests gid with protoType }
  let tail := g.dqueuesTail
  let q := { g.dqueues qid with id := qid, head := 0, nelems, elsize, off }
  let g := g.setDqueue qid q
  -- add queue to protocol list
  let g := if tail = protoqIdInvalid then { g with dqueuesHead := qid }
    else g.setDqueue tail { g.dqueues tail with next := qid }
  let g := g.setDqueue qid { g.dqueues qid with prev := tail, next := protoqIdInvalid }
  ctx.setGuest gid { g with dqueuesTail := qid, ndqueues := (g.ndqueues + 1) % 65536 }

/-- `handle_disableq`. -/
def handleDisableq (ctx : FastCtx) (gid qid : Nat) : FastCtx :=
  let g := ctx.guests gid
  let q := g.dqueues qid
  let g := if g.dqueuesHead = q.id then { g with dqueuesHead := q.next } else g
  let g := if g.dqueuesTail = q.id then { g with dqueuesTail := q.prev } else g
  let g := if q.next ≠ protoqIdInvalid then
    g.setDqueue q.next { g.dqueues q.next with prev := protoqIdInvalid } else g
  let g := if q.prev ≠ protoqIdInvalid then
    g.setDqueue q.prev { g.dqueues q.prev with next := protoqIdInvalid } else g
  let g := g.setDqueue qid
    { g.dqueues qid with next := protoqIdInvalid, prev := protoqIdInvalid }
  ctx.setGuest gid { g with ndqueues := (g.ndqueues + 65536 - 1) % 65536 }

/-- `handle_upload_ebpf`. -/
def handleUploadEbpf (ctx : FastCtx) (gid : Nat) : FastCtx :=
  if gid < chamelioMaxGuests then ctx.setGuest gid { ctx.guests gid with hasEvents := true }
  else ctx

/-- The `switch` of `controlif_poll`. -/
def handleMsg (ctx : FastCtx) : FastMsg → FastCtx
  | .newGuest id shmLen => handleNewGuest ctx id shmLen
  | .newQueue gid protoType qid nelems elsize off =>
    handleNewQueue ctx gid protoType qid nelems elsize off
  | .newMap gid protoType mid nelems elsize off =>
    handleNewMap ctx gid protoType mid nelems elsize off
  | .enableq gid protoType qid off nelems elsize _ =>
    handleEnableq ctx gid protoType qid off nelems elsize
  | .disableq gid qid _ => handleDisableq ctx gid qid
  | .uploadEbpf gid => handleUploadEbpf ctx gid
  | .other => ctx

end Chamelio.Fast
