import Chamelio.Fast.ControlIf
import Chamelio.Fast.EbpfCtx
import Chamelio.Lib.Ring

/-!
# The helpers of an eBPF protocol program (`control/control_ebpf.c`)

A program reaches queues, maps, the scheduler and the clock through the
functions `ebpf_helpers` registers under the numbers 1001 to 1019. Most of
them take the size of an element for the verifier's sake and ignore it.

Mirroring notes:
- `queue_enqueue`, `queue_dequeue`, `sched_pop`, `sched_add` and
  `sched_remove` are registered as they are; `util_spin_lock` and its
  counterpart take no part in a step.
- An address in a map is its distance from the first element.
- Addresses of the shared memory are offsets from `shm_base`.
-/

namespace Chamelio.Fast

open Chamelio.Lib Chamelio.Util

/-- `map->addr + id * map->elsize`, a product of two `__u32`. -/
def ChamMap.lookup (m : ChamMap) (id : UInt32) : Nat := id.toNat * m.elsize % 4294967296

variable {E : Type}

/-- Helper 1001; `false`: `NULL`. -/
def ebpfQueueTail (q : Fifo E) (_elsize : UInt64) : Bool := q.hasRoom

/-- Helper 1003. -/
def ebpfMemcpy (dst : Nat → UInt8) (dstOff : Nat) (src : Nat → UInt8) (n : Nat) : Nat → UInt8 :=
  blit dst dstOff src n

/-- Helper 1007. -/
def ebpfSchedHead (s : Sched) (_elsize : UInt64) : Option SchedEntry := schedHead s

/-- Helper 1010. -/
def ebpfMapGet (mapBase : Nat) (_len : UInt32) : Nat := mapBase

/-- Helper 1011, a product of two `__u64`. -/
def ebpfMapLookup (id elsize : UInt64) : Nat := (id * elsize).toNat

/-- Helper 1012. -/
def ebpfQueueHead (d : DQueue E) (_elsize : UInt64) : Option E := d.q.head?

/-- Helper 1014. -/
def ebpfRdtsc (c : Clock) : UInt64 × Clock := clockRdtsc c

/-- Helper 1019. -/
def ebpfNowUs (c : Clock) : UInt64 × Clock :=
  let (tsc, c') := clockRdtsc c
  (c.tscToUs tsc, c')

/-- Helper 1015. -/
def ebpfRateDelayTsc (c : Clock) (bytes rateKbps : UInt32) : UInt64 :=
  if bytes = 0 ∨ rateKbps = 0 then 0
  else if c.cyclesPerUs = 0 then 0
  else
    let num := bytes.toUInt64 * 8 * 1000 * c.cyclesPerUs
    (num + rateKbps.toUInt64 - 1) / rateKbps.toUInt64

/-- The element of a map at an address, by its index. -/
def elemAt (size : UInt32) (addr : Nat) : Nat := addr / size.toNat

/-- A 32-bit index and a 32-bit size do not overflow 64 bits. -/
theorem ebpfMapLookup_eq (id elsize : UInt32) :
    ebpfMapLookup id.toUInt64 elsize.toUInt64 = id.toNat * elsize.toNat := by
  have hid := id.toNat_lt
  have hel := elsize.toNat_lt
  have hlt : id.toNat * elsize.toNat < 18446744073709551616 := by
    have := Nat.mul_lt_mul'' hid hel
    omega
  unfold ebpfMapLookup
  rw [UInt64.toNat_mul, UInt32.toNat_toUInt64, UInt32.toNat_toUInt64]
  exact Nat.mod_eq_of_lt hlt

/-- The element at the address of element `id` is element `id`. -/
theorem elemAt_lookup {size : UInt32} (hpos : 0 < size.toNat) (id : UInt32) :
    elemAt size (ebpfMapLookup id.toUInt64 size.toUInt64) = id.toNat := by
  unfold elemAt
  rw [ebpfMapLookup_eq]
  exact Nat.mul_div_cancel _ hpos

/-- The two address computations agree on a map that was created with the
size of its elements and is shorter than 32 bits of bytes. -/
theorem ChamMap.lookup_eq_ebpf {m : ChamMap} {id size : UInt32} (hid : id.toNat < m.nelems)
    (hel : m.elsize = size.toNat) (hsize : m.nelems * size.toNat < 4294967296) :
    m.lookup id = ebpfMapLookup id.toUInt64 size.toUInt64 := by
  have hle : id.toNat * size.toNat ≤ m.nelems * size.toNat :=
    Nat.mul_le_mul_right _ (Nat.le_of_lt hid)
  rw [ebpfMapLookup_eq]
  unfold ChamMap.lookup
  rw [hel]
  exact Nat.mod_eq_of_lt (by omega)

end Chamelio.Fast
