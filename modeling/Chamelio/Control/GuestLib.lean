import Chamelio.Control.GuestSpec

/-!
# The guest library and its control messages (`lib/guest.c`)

`cham_new_queue` and `cham_new_map` send a request that carries the address
of the object it is for, and poll the response ring until the object's
`nelems` is no longer zero. `cham_poll_control` writes each response through
the address the response carries. A refusal leaves most of the ring slot as
older messages left it, the address included, and reports zero elements, so
the caller waits on; a granted map is counted by the caller and by the
handler of the response.

Mirroring notes: `qbase` is `&p->queues[0]`; objects are 32 bytes apart and
`p->maps` follows `p->queues` and `p->nmaps`. A write through any other
address, or past the end of `p->queues`, is a fault. The two rings have the
same length on both sides.
-/

namespace Chamelio.Control

open Chamelio.Lib Chamelio.Util Chamelio.Fast

/-- `struct proto_queue_lib` and `struct proto_map_lib`. -/
structure LibObj where
  id : Nat
  nelems : Nat
  elsize : Nat
  off : Nat
  deriving DecidableEq, Repr

/-- Which object of `struct proto_lib`. -/
inductive ObjRef where
  | queue (k : Nat)
  | map (k : Nat)
  deriving DecidableEq, Repr

/-- The part of `struct proto_lib` that `guest.c` uses here. -/
structure ProtoLib where
  qbase : Nat
  nqueues : Nat
  nmaps : Nat
  queues : Nat → LibObj
  maps : Nat → LibObj

namespace ProtoLib

/-- `(__u64) &p->queues[k]` or `(__u64) &p->maps[k]`. -/
def addr (p : ProtoLib) : ObjRef → Nat
  | .queue k => p.qbase + 32 * k
  | .map k => p.qbase + 32 * maxProtoQueues + 8 + 32 * k

/-- The object at an address. -/
def objAt (p : ProtoLib) (a : Nat) : Option ObjRef :=
  let q := a - p.qbase
  let m := a - (p.qbase + 32 * maxProtoQueues + 8)
  if p.qbase ≤ a ∧ q % 32 = 0 ∧ q / 32 < maxProtoQueues then some (.queue (q / 32))
  else if p.qbase + 32 * maxProtoQueues + 8 ≤ a ∧ m % 32 = 0 ∧ m / 32 < maxProtoMaps then
    some (.map (m / 32))
  else none

def get (p : ProtoLib) : ObjRef → LibObj
  | .queue k => p.queues k
  | .map k => p.maps k

def set (p : ProtoLib) (o : ObjRef) (v : LibObj) : ProtoLib :=
  match o with
  | .queue k => { p with queues := fun j => if j = k then v else p.queues j }
  | .map k => { p with maps := fun j => if j = k then v else p.maps j }

theorem get_set (p : ProtoLib) (o : ObjRef) (v : LibObj) : (p.set o v).get o = v := by
  cases o <;> exact if_pos rfl

@[simp] theorem set_nmaps (p : ProtoLib) (o : ObjRef) (v : LibObj) :
    (p.set o v).nmaps = p.nmaps := by
  cases o <;> rfl

@[simp] theorem set_qbase (p : ProtoLib) (o : ObjRef) (v : LibObj) :
    (p.set o v).qbase = p.qbase := by
  cases o <;> rfl

/-- The address of a queue object leads back to it. -/
theorem objAt_queue {p : ProtoLib} {k : Nat} (hk : k < maxProtoQueues) :
    p.objAt (p.addr (.queue k)) = some (.queue k) := by
  unfold objAt addr
  dsimp only
  rw [show p.qbase + 32 * k - p.qbase = 32 * k by omega,
    show 32 * k / 32 = k by omega, if_pos ⟨by omega, by omega, hk⟩]

end ProtoLib

/-- The guest's process beside the system. -/
structure LibSys where
  sys : Sys
  p : ProtoLib
  /-- The object the current call is waiting for. -/
  wait : Option ObjRef
  fault : Bool

inductive LibAct where
  /-- `cham_new_queue(p, nelems, elsize)`. -/
  | newQueue (nelems elsize : UInt32)
  /-- `cham_new_map(p, nelems, elsize)`. -/
  | newMap (nelems elsize : UInt32)
  /-- An iteration of the loop the current call waits in. -/
  | poll
  /-- Anything else in the system. -/
  | env (a : Act)

/-- What a step does that the caller sees: the object written, with the one
waited for, and the object returned. -/
structure LibOut where
  updated : Option (ObjRef × ObjRef)
  returned : Option ObjRef
  deriving DecidableEq, Repr

def LibOut.none : LibOut := ⟨Option.none, Option.none⟩

/-! ## Calls -/

/-- Fill the tail entry of the request ring and enqueue it. -/
def LibSys.request (s : LibSys) (gi : Nat) (fill : (Nat → UInt8) → Nat → UInt8)
    (t : QueueType) : LibSys :=
  let g := s.sys.ctx.guests gi
  let g := { g with guestChamQ := g.guestChamQ.push fill t.toByte }
  { s with sys := { s.sys with ctx := s.sys.ctx.setGuest gi g } }

/-- `cham_new_queue` up to its wait loop. Without room in the request ring it
returns `NULL` at once. -/
def LibSys.chamNewQueue (s : LibSys) (gi : Nat) (nelems elsize : Nat) : LibSys :=
  let o := ObjRef.queue s.p.nqueues
  if !(s.sys.ctx.guests gi).guestChamQ.hasRoom then s
  else if maxProtoQueues ≤ s.p.nqueues then { s with fault := true }
  else
    let s := s.request gi (newQueueReqFill nelems elsize (s.p.addr o)) .newQueueReq
    { s with p := s.p.set o { s.p.get o with elsize := 0, nelems := 0 }, wait := some o }

/-- `cham_new_map` up to its wait loop. -/
def LibSys.chamNewMap (s : LibSys) (gi : Nat) (nelems elsize : Nat) : LibSys :=
  let o := ObjRef.map s.p.nmaps
  if !(s.sys.ctx.guests gi).guestChamQ.hasRoom then s
  else if maxProtoMaps ≤ s.p.nmaps then { s with fault := true }
  else
    let s := s.request gi (newMapReqFill nelems elsize (s.p.addr o)) .newMapReq
    let p := s.p.set o { s.p.get o with nelems := 0 }
    { s with p := { p with nmaps := (p.nmaps + 1) % 65536 }, wait := some o }

/-! ## Responses -/

/-- The object in a `struct queue_new_queue_res`. -/
def newQueueResObj (d : Nat → UInt8) : LibObj :=
  { id := leGet d 0 4 % 65536, nelems := leGet d 4 4, elsize := leGet d 8 8 % 4294967296,
    off := leGet d 16 8 }

/-- The object in a `struct queue_new_map_res`. -/
def newMapResObj (d : Nat → UInt8) : LibObj :=
  { id := leGet d 0 2, nelems := leGet d 10 4, elsize := leGet d 14 4, off := leGet d 2 8 }

/-- The `switch` of `cham_poll_control`: the library's state and the object
written; `none` on an unknown type or a wild address. -/
def chamHandle (p : ProtoLib) (t : UInt8) (d : Nat → UInt8) :
    Option (ProtoLib × Option ObjRef) :=
  match QueueType.ofByte? t with
  | some .newQueueRes =>
    match p.objAt (leGet d 24 8) with
    | none => none
    | some o =>
      some ({ p.set o (newQueueResObj d) with nqueues := (p.nqueues + 1) % 65536 }, some o)
  | some .newMapRes =>
    match p.objAt (leGet d 18 8) with
    | none => none
    | some o => some ({ p.set o (newMapResObj d) with nmaps := (p.nmaps + 1) % 65536 }, some o)
  | some .newProtoRes | some .allocateEbpfRes | some .freeEbpfRes | some .uploadEbpfRes =>
    some (p, none)
  | _ => none

/-- `cham_poll_control`. -/
def LibSys.chamPollControl (s : LibSys) (gi : Nat) : LibSys × Option ObjRef :=
  let g := s.sys.ctx.guests gi
  match g.chamGuestQ.head? with
  | none => (s, none)
  | some (t, d) =>
    match chamHandle s.p t d with
    | none => ({ s with fault := true }, none)
    | some (p, o) =>
      let g := { g with chamGuestQ := g.chamGuestQ.pop }
      ({ s with sys := { s.sys with ctx := s.sys.ctx.setGuest gi g }, p }, o)

/-- One iteration of the wait loop: poll, and return when the object has
elements. -/
def LibSys.poll (s : LibSys) (gi : Nat) : LibSys × LibOut :=
  match s.wait with
  | none => (s, LibOut.none)
  | some w =>
    let (s, o) := s.chamPollControl gi
    let updated := o.map fun o => (o, w)
    if (s.p.get w).nelems ≠ 0 then ({ s with wait := none }, ⟨updated, some w⟩)
    else (s, ⟨updated, none⟩)

/-- The action uses the rings of guest `gi`, which only its library does. -/
def Act.usesRings (gi : Nat) : Act → Bool
  | .post gj _ _ => gj == gi
  | .read gj => gj == gi
  | _ => false

/-- One step: a call starts when no other is waiting. -/
def LibSys.step (gi : Nat) (s : LibSys) (a : LibAct) : LibSys × LibOut :=
  if s.fault then (s, LibOut.none)
  else match a with
    | .newQueue n e =>
      if s.wait.isSome then (s, LibOut.none)
      else (s.chamNewQueue gi n.toNat e.toNat, LibOut.none)
    | .newMap n e =>
      if s.wait.isSome then (s, LibOut.none)
      else (s.chamNewMap gi n.toNat e.toNat, LibOut.none)
    | .poll => s.poll gi
    | .env a =>
      if a.usesRings gi then (s, LibOut.none)
      else ({ s with sys := (s.sys.step a).1 }, LibOut.none)

end Chamelio.Control
