import Chamelio.Lib.Run
import Chamelio.Control.Guest
import Chamelio.Fast.ControlIf

/-!
# Guests, control path and cores as one system

The control path runs `poll_guests` over and over; between any two of its
iterations a guest may place an entry or read an answer, a core may take a
control message, the control path's other work may send a message to a
core, and `malloc` or the eBPF tool chain may change its mind. A state also
keeps the history the properties speak about: the messages ever sent to
each core, the queues created for each guest, and the maps reported to it.
-/

namespace Chamelio.Control

open Chamelio.Lib Chamelio.Util Chamelio.Fast

/-! ## What a request is granted -/

/-- The block `control_guest_new_queue` gets, when it grants the request. -/
def queueGrant (ctx : ControlCtx) (g : GuestControl) (d : Nat → UInt8) :
    Option (ShmAllocator × Region) :=
  if maxProtoQueues ≤ g.proto.nqueues then none
  else shmallocAlloc ctx.heapOk g.alloc (newQueueSize d)

/-- The block `control_guest_new_map` gets, when it grants the request. -/
def mapGrant (ctx : ControlCtx) (g : GuestControl) (d : Nat → UInt8) :
    Option (ShmAllocator × Region) :=
  if maxProtoMaps ≤ g.proto.nmaps then none
  else shmallocAlloc ctx.heapOk g.alloc (newMapSize d)

/-- The map a `struct queue_new_map_res` reports. -/
def reportedMap (r : Nat → UInt8) : ChamMap :=
  { id := leGet r 0 2, nelems := leGet r 10 4, elsize := leGet r 14 4,
    size := leGet r 14 4 * leGet r 10 4 % 4294967296, off := leGet r 2 8 }

/-! ## State and actions -/

structure Sys where
  ctx : ControlCtx
  /-- The locals of `poll_guests` while the control path is inside it. -/
  poll : Option PollLocals
  cores : Nat → FastCtx
  down : Option Crash
  /-- Messages ever sent to each core. -/
  sent : Nat → List FastMsg
  /-- Ids of the queues created for each guest. -/
  created : Nat → List Nat
  /-- Maps reported to each guest, in order. -/
  reported : Nat → List ChamMap

inductive Act where
  /-- Guest `gi` places an entry in its ring. -/
  | post (gi : Nat) (t : UInt8) (d : Nat → UInt8)
  /-- Guest `gi` takes an answer out of its ring. -/
  | read (gi : Nat)
  /-- Core `i` handles its next control message. -/
  | drain (i : Nat)
  /-- The control path sends core `i` an ARP or packet message. -/
  | other (i : Nat)
  | env (heapOk uploadOk : Bool)
  /-- The control path enters, continues or leaves `poll_guests`. -/
  | control

/-- The entry the control path handles next, with the guest it is from. -/
def Sys.nextEntry (s : Sys) : Option (Nat × UInt8 × (Nat → UInt8)) :=
  match s.poll with
  | none => none
  | some l =>
    if s.ctx.nGuests ≤ l.guestsPolled then none
    else (s.ctx.guests s.ctx.nextGuest).guestChamQ.head?.map fun e => (s.ctx.nextGuest, e.1, e.2)

/-- Messages that went to each core between two contexts. -/
def newlySent (ctx ctx' : ControlCtx) (i : Nat) : List FastMsg :=
  (ctx'.ctlFastQs i).items.drop (ctx.ctlFastQs i).items.length

/-- The history after the entry `(gi, t, d)` was handled in `s`. -/
def Sys.record (s : Sys) (ctx' : ControlCtx) (gi : Nat) (t : UInt8) (d : Nat → UInt8) :
    Sys :=
  let g := s.ctx.guests gi
  { s with
    sent := fun i => s.sent i ++ newlySent s.ctx ctx' i
    created := fun j =>
      if j = gi ∧ QueueType.ofByte? t = some .newQueueReq ∧ (queueGrant s.ctx g d).isSome then
        s.created j ++ [g.proto.nqueues]
      else s.created j
    reported := fun j =>
      if j = gi ∧ QueueType.ofByte? t = some .newMapReq ∧ (mapGrant s.ctx g d).isSome then
        s.reported j ++ [reportedMap ((ctx'.guests gi).chamGuestQ.data g.chamGuestQ.tail)]
      else s.reported j }

/-- One step of the control path. -/
def Sys.control (s : Sys) : Sys :=
  match s.poll with
  | none => { s with poll := some ⟨0, false⟩ }
  | some l =>
    if s.ctx.nGuests ≤ l.guestsPolled then
      { s with ctx := pollGuestsLeave s.ctx l, poll := none }
    else
      match pollGuestsIter s.ctx l with
      | .error e => { s with down := some e }
      | .ok (ctx', l') =>
        match s.nextEntry with
        | none => { s with ctx := ctx', poll := some l' }
        | some (gi, t, d) => { s.record ctx' gi t d with ctx := ctx', poll := some l' }

/-- A guest places an entry with a nonzero type when its ring has room. -/
def Sys.post (s : Sys) (gi : Nat) (t : UInt8) (d : Nat → UInt8) : Sys :=
  let g := s.ctx.guests gi
  if g.guestChamQ.hasRoom ∧ t ≠ 0 then
    let g := { g with guestChamQ := g.guestChamQ.push (fun _ => d) t }
    { s with ctx := s.ctx.setGuest gi g }
  else s

/-- A guest dequeues the answer at the head of its ring, if there is one. -/
def Sys.read (s : Sys) (gi : Nat) : Sys :=
  let g := s.ctx.guests gi
  match g.chamGuestQ.head? with
  | none => s
  | some _ => { s with ctx := s.ctx.setGuest gi { g with chamGuestQ := g.chamGuestQ.pop } }

/-- Core `i` handles the message at the head of its queue, if there is one. -/
def Sys.drain (s : Sys) (i : Nat) : Sys :=
  match (s.ctx.ctlFastQs i).head? with
  | none => s
  | some m =>
    { s with
      ctx := s.ctx.setFastQ i (s.ctx.ctlFastQs i).pop
      cores := fun j => if j = i then handleMsg (s.cores i) m else s.cores j }

/-- The control path's other messages, sent outside `poll_guests` and only
when there is room. -/
def Sys.other (s : Sys) (i : Nat) : Sys :=
  match s.poll, (s.ctx.ctlFastQs i).push .other with
  | none, some q =>
    { s with
      ctx := s.ctx.setFastQ i q
      sent := fun j => if j = i then s.sent j ++ [.other] else s.sent j }
  | _, _ => s

/-- One step of the system; a control path that is down stays down. -/
def Sys.step (s : Sys) (a : Act) : Sys × Unit :=
  (if s.down.isSome then s
  else match a with
    | .post gi t d => s.post gi t d
    | .read gi => s.read gi
    | .drain i => s.drain i
    | .other i => s.other i
    | .env heapOk uploadOk => { s with ctx := { s.ctx with heapOk, uploadOk } }
    | .control => s.control, ())

/-- A sequence of steps. -/
def Sys.exec (s : Sys) (acts : List Act) : Sys := acts.foldl (fun s a => (s.step a).1) s

/-- What the control path handles in this step, if anything. -/
def Sys.handles (s : Sys) (a : Act) : Option (Nat × UInt8 × (Nat → UInt8)) :=
  match a with
  | .control => if s.down.isSome then none else s.nextEntry
  | _ => none

/-! ## A small system to run -/

/-- One core, rings of eight entries, 64 KiB of shared memory. -/
def smallConfig : Configuration :=
  { shmLen := 65536, agtQueueLen := 8, chamQueueLen := 8, fpCoresMax := 1
    fpProtoMode := .ebpf, fpJitCombined := false, ip := 0 }

/-- One guest that was accepted and registered TCP; the core knows it. -/
def smallSys : Sys :=
  let alloc := (acceptRings smallConfig true).elim (shmallocInit 0) fun r => r.1
  let guest (i : Nat) : GuestControl :=
    { acceptGuest smallConfig i alloc with
      proto := { ProtoControl.blank with protoType := chamProtoTcp } }
  { ctx :=
      { config := smallConfig, ctlFastQs := fun _ => { items := [], nelems := 8 }
        guests := guest, nGuests := 1, nextGuest := 0, heapOk := true, uploadOk := true }
    poll := none, cores := fun _ => handleNewGuest blankCore 0 65536, down := none
    sent := fun _ => [.newGuest 0 65536], created := fun _ => [], reported := fun _ => [] }

end Chamelio.Control
