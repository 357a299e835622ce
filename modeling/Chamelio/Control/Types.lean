import Chamelio.Lib.Bytes
import Chamelio.Lib.Fifo
import Chamelio.Lib.SlotQ
import Chamelio.Util.Shmalloc

/-!
# Control path: messages and state (`queue_types.h`, `control.h`)

The messages between a guest and the control path live in rings of 64-byte
`struct queue_entry`: a type byte and a packed union. The fields of the
union's members are little-endian fields of the data area, so a request is
its bytes and every value of every field is some request. Messages from the
control path to a fast-path core are written in full by the sender and are
kept as values.

Mirroring notes: `malloc` and the eBPF tool chain (libbpf, the verifier, the
JIT) answer through `heapOk` and `uploadOk` of the context. Counters are
`Nat`s and wrap where the source's type does. `proto.queues` is only read
below `MAX_PROTO_QUEUES`; the handlers that index it check this.
-/

namespace Chamelio.Control

open Chamelio.Lib Chamelio.Util

/-- `enum queue_type`. -/
inductive QueueType where
  | empty | newGuestReq | newProtoReq | newProtoRes | newQueueReq | newQueueRes
  | newMapReq | newMapRes | enableqReq | disableqReq | allocateEbpfReq | allocateEbpfRes
  | uploadEbpfReq | uploadEbpfRes | freeEbpfReq | freeEbpfRes | arpLookup | arpUpdate
  | arpRxReq | arpRxRep | arpTxPkt | arpPkt | mbufPending | mbufTx
  deriving DecidableEq, Repr

namespace QueueType

/-- The enumerators in order: the value of each is its index. -/
def all : List QueueType :=
  [empty, newGuestReq, newProtoReq, newProtoRes, newQueueReq, newQueueRes, newMapReq,
    newMapRes, enableqReq, disableqReq, allocateEbpfReq, allocateEbpfRes, uploadEbpfReq,
    uploadEbpfRes, freeEbpfReq, freeEbpfRes, arpLookup, arpUpdate, arpRxReq, arpRxRep,
    arpTxPkt, arpPkt, mbufPending, mbufTx]

/-- The type byte of an entry. -/
def toByte (t : QueueType) : UInt8 := UInt8.ofNat (all.idxOf t)

/-- The enumerator of a type byte; most bytes are no enumerator. -/
def ofByte? (b : UInt8) : Option QueueType := all[b.toNat]?

theorem ofByte?_toByte (t : QueueType) : ofByte? t.toByte = some t := by
  cases t <;> rfl

theorem toByte_ne_zero {t : QueueType} (h : t ≠ empty) : t.toByte ≠ 0 := by
  cases t <;> first | exact absurd rfl h | decide

end QueueType

/-- `CHAM_PROTO_INVALID`, `CHAM_PROTO_TCP`, `CHAM_PROTO_UDP`. -/
def chamProtoInvalid : Nat := 0
def chamProtoTcp : Nat := 1
def chamProtoUdp : Nat := 2

/-- `enum fp_proto_mode`, and every other value of its `__u32`. -/
inductive FpProtoMode where
  | ebpf | hand | unknown
  deriving DecidableEq, Repr

/-- `MAX_PROTO_QUEUES`. -/
def maxProtoQueues : Nat := 128
/-- `MAX_PROTO_MAPS`. -/
def maxProtoMaps : Nat := 8
/-- `CHAMELIO_MAX_GUESTS`. -/
def chamelioMaxGuests : Nat := 4
/-- `CORE_INVALID`. -/
def coreInvalid : Nat := 65535
/-- `sizeof(struct queue_entry)`. -/
def queueEntrySize : Nat := 64

/-! ## Fields of the requests -/

/-- `struct queue_new_proto_req`. -/
def NewProtoReq.protoType (d : Nat → UInt8) : Nat := leGet d 0 1

/-- `struct queue_new_queue_req`. -/
def NewQueueReq.nelems (d : Nat → UInt8) : Nat := leGet d 6 4
def NewQueueReq.elsize (d : Nat → UInt8) : Nat := leGet d 10 8
def NewQueueReq.opq (d : Nat → UInt8) : Nat := leGet d 26 8

/-- The fields `cham_new_queue` writes. -/
def newQueueReqFill (nelems elsize opq : Nat) (r : Nat → UInt8) : Nat → UInt8 :=
  lePut (lePut (lePut r 6 nelems 4) 10 elsize 8) 26 opq 8

/-- `struct queue_new_map_req`. -/
def NewMapReq.nelems (d : Nat → UInt8) : Nat := leGet d 6 4
def NewMapReq.elsize (d : Nat → UInt8) : Nat := leGet d 10 4
def NewMapReq.opq (d : Nat → UInt8) : Nat := leGet d 22 8

/-- The fields `cham_new_map` writes. -/
def newMapReqFill (nelems elsize opq : Nat) (r : Nat → UInt8) : Nat → UInt8 :=
  lePut (lePut (lePut r 6 nelems 4) 10 elsize 4) 22 opq 8

/-- `struct queue_enableq_req`. -/
def EnableqReq.qid (d : Nat → UInt8) : Nat := leGet d 0 2
def EnableqReq.core (d : Nat → UInt8) : Nat := leGet d 21 2

/-- `struct queue_disableq_req`. -/
def DisableqReq.qid (d : Nat → UInt8) : Nat := leGet d 0 2
def DisableqReq.core (d : Nat → UInt8) : Nat := leGet d 4 2

/-- `struct queue_allocate_ebpf_req`. -/
def AllocEbpfReq.size (d : Nat → UInt8) : Nat := leGet d 0 4
def AllocEbpfReq.opq (d : Nat → UInt8) : Nat := leGet d 4 8

/-! ## Messages to the fast path -/

/-- The entries of a `ctl_fast_qs[i]` queue. `other` stands for the ARP and
packet messages of the control path, which carry no guest configuration. -/
inductive FastMsg where
  | newGuest (id shmLen : Nat)
  | newQueue (gid protoType qid nelems elsize off : Nat)
  | newMap (gid protoType mid nelems elsize off : Nat)
  | enableq (gid protoType qid off nelems elsize core : Nat)
  | disableq (gid qid core : Nat)
  | uploadEbpf (gid : Nat)
  | other
  deriving DecidableEq, Repr

/-! ## State of the control path -/

/-- `struct proto_queue_control`. -/
structure ProtoQueueControl where
  id : Nat
  nelems : Nat
  elsize : Nat
  off : Nat
  core : Nat
  deriving DecidableEq, Repr

/-- `struct proto_control`. -/
structure ProtoControl where
  protoType : Nat
  nqueues : Nat
  queues : Nat → ProtoQueueControl
  nmaps : Nat

/-- `struct guest_control`. -/
structure GuestControl where
  id : Nat
  alloc : ShmAllocator
  /-- `ebpf_shm_handle`. -/
  ebpfShmHandle : Option Region
  /-- The block behind the handle was given back. -/
  ebpfFreed : Bool
  /-- A block was given back while it was free: the free list runs through
  itself. -/
  freelistLoops : Bool
  guestChamQ : SlotQ
  chamGuestQ : SlotQ
  proto : ProtoControl

/-- The part of `struct configuration` the control path reads here. -/
structure Configuration where
  shmLen : Nat
  agtQueueLen : Nat
  chamQueueLen : Nat
  fpCoresMax : Nat
  fpProtoMode : FpProtoMode
  fpJitCombined : Bool
  ip : Nat

/-- `struct control_context`. -/
structure ControlCtx where
  config : Configuration
  ctlFastQs : Nat → Fifo FastMsg
  guests : Nat → GuestControl
  nGuests : Nat
  nextGuest : Nat
  /-- `malloc` succeeds. -/
  heapOk : Bool
  /-- The uploaded object opens, verifies and compiles. -/
  uploadOk : Bool

/-- How the control path goes down: `abort()`, a failed `assert`, or what
the C standard leaves undefined (a NULL handle, the walk over a free list
that runs through itself, an index past the end of an array). -/
inductive Crash where
  | aborted | assertion | undefined
  deriving DecidableEq, Repr

end Chamelio.Control
