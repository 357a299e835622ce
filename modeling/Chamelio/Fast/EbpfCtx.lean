import Chamelio.Lib.Fifo
import Chamelio.Util.Scheduler

/-!
# The context a protocol handler runs on (`lib/include/cham_fast.h`)

`struct cham_ebpf_ctx`, generic in the protocol's maps `M` and in the
payload `E` of its queue entries.

Mirroring notes:
- `pkt` and `pkt_end` are the bytes from `ctx->pkt` on and the number of
  bytes the handler may touch (`pktRoom`); `fast_ebpf_ctx_set_pkt` sets it
  to a constant, not to the received length.
- The shared memory of the guest is flat: `shm a` is the byte at offset `a`
  from `shm_base`, `shmLen` is `shm_end - shm_base`.
- A queue is the FIFO of its filled entries. The slot an entry lies in
  matters to the handlers only through its address, so the entry given to
  `event_deq` comes with its offset `qeOff` in the shared memory.
- `clock_rdtsc` reads a stream of counter values, one per call; the two
  floating-point conversions of `clock.c` are parameters.
-/

namespace Chamelio.Fast

open Chamelio.Lib Chamelio.Util

/-- `MAX_FP_CORES`. -/
def maxFpCores : Nat := 16
/-- `FAST_L3_PKT_ROOM`. -/
def fastL3PktRoom : Nat := 1500
/-- `FAST_VGRE_L3_PKT_ROOM`: the outer IP and GRE headers are taken off. -/
def fastVgreL3PktRoom : Nat := fastL3PktRoom - 20 - 8

def fastEbpfPktRoom (virtGre : Bool) : Nat :=
  if virtGre then fastVgreL3PktRoom else fastL3PktRoom

/-- Time-stamp counter and its conversions. -/
structure Clock where
  /-- The values `rdtsc` returns, in order. -/
  readings : Nat → UInt64
  /-- How many were read so far. -/
  reads : Nat
  /-- `clock_tsc_to_us`. -/
  tscToUs : UInt64 → UInt64
  /-- `clock_us_to_tsc(1)`. -/
  cyclesPerUs : UInt64

def clockRdtsc (c : Clock) : UInt64 × Clock :=
  (c.readings c.reads, { c with reads := c.reads + 1 })

/-- `struct cham_dqueue`: the entries, and where the head entry lies. -/
structure DQueue (E : Type) where
  q : Fifo E
  /-- Offset of the queue in shared memory. -/
  off : Nat
  elsize : Nat
  /-- Byte position of the head entry in the queue. -/
  head : Nat

/-- `queue_dequeue`. -/
def DQueue.dequeue {E : Type} (d : DQueue E) : DQueue E :=
  { d with
    q := d.q.pop
    head := if d.head + d.elsize ≥ d.elsize * d.q.nelems then 0 else d.head + d.elsize }

/-- `struct cham_ebpf_ctx`. -/
structure EbpfCtx (M E : Type) where
  pkt : Nat → UInt8
  pktRoom : Nat
  shm : Nat → UInt8
  shmLen : Nat
  sched : Sched
  qe : E
  qeOff : Nat
  ncores : UInt16
  core : UInt16
  dqueues : Nat → DQueue E
  equeues : Nat → Fifo E
  maps : M
  clk : Clock

namespace EbpfCtx

variable {M E : Type}

def setQueue (ctx : EbpfCtx M E) (qid : Nat) (q : Fifo E) : EbpfCtx M E :=
  { ctx with equeues := fun i => if i = qid then q else ctx.equeues i }

def setDqueue (ctx : EbpfCtx M E) (qid : Nat) (d : DQueue E) : EbpfCtx M E :=
  { ctx with dqueues := fun i => if i = qid then d else ctx.dqueues i }

@[simp] theorem setQueue_self (ctx : EbpfCtx M E) (qid : Nat) (q : Fifo E) :
    (ctx.setQueue qid q).equeues qid = q := by
  simp [setQueue]

theorem setQueue_ne (ctx : EbpfCtx M E) {qid i : Nat} (q : Fifo E) (h : i ≠ qid) :
    (ctx.setQueue qid q).equeues i = ctx.equeues i := by
  simp [setQueue, h]

theorem setQueue_equeues_self (ctx : EbpfCtx M E) (qid : Nat) :
    ctx.setQueue qid (ctx.equeues qid) = ctx := by
  unfold setQueue
  congr 1
  funext i
  by_cases hi : i = qid
  · rw [if_pos hi, hi]
  · rw [if_neg hi]

end EbpfCtx

/-- `sizeof(struct queue_entry)`. -/
def queueEntrySize : Nat := 64

end Chamelio.Fast
