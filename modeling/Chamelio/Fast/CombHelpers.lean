import Chamelio.Fast.EbpfHelpers
import Chamelio.Util.Queue
import Chamelio.Util.SchedList

/-!
# The helpers of the combined build (`fast/fast_comb_helpers.c`)

The combined build links the protocol programs with copies of the queue,
scheduler and pacing functions. The copies agree with the library: the queue
and pacing functions everywhere, and so does everything of the scheduler but
`comb_sched_add`, which gives up where `comb_sched_remove` fails, with the
entry of its id still in use. On a priority list that does not happen
(`combSchedRemove_used`), so the copies agree in every state the scheduler
reaches, and a run of the copies is a run of the library
(`combRun_eq`).

Mirroring notes: as in `Util.Scheduler` and `Util.Queue`; the `opaque` field
of an entry, which both versions set to zero in the same places and nobody
reads, is left out.
-/

namespace Chamelio.Fast

open Chamelio.Lib Chamelio.Util

/-! ## Queues and pacing -/

/-- `comb_queue_enqueue`; `none` for `-1`. -/
def combQueueEnqueue (m : Nat → UInt8) (q : Equeue) (t : UInt8) :
    Option ((Nat → UInt8) × Equeue) :=
  if m q.tail ≠ 0 then none
  else
    let tail := (q.tail + q.elsize) % 18446744073709551616 % 4294967296
    let tail := if q.elsize * q.nelems % 18446744073709551616 ≤ tail then 0 else tail
    some (putType m q.tail t, { q with tail })

/-- `comb_queue_dequeue`; `none` for `-1`. -/
def combQueueDequeue (m : Nat → UInt8) (q : Dqueue) : Option ((Nat → UInt8) × Dqueue) :=
  if m q.head = 0 then none
  else
    let head := (q.head + q.elsize) % 18446744073709551616 % 4294967296
    let head := if q.elsize * q.nelems % 18446744073709551616 ≤ head then 0 else head
    some (putType m q.head 0, { q with head })

/-- `comb_queue_head`. -/
def combQueueHead (m : Nat → UInt8) (q : Dqueue) : Option Nat :=
  if m q.head = 0 then none else some q.head

/-- `comb_queue_tail`. -/
def combQueueTail (m : Nat → UInt8) (q : Equeue) : Option Nat :=
  if m q.tail ≠ 0 then none else some q.tail

/-- `comb_rate_delay_tsc`. -/
def combRateDelayTsc (c : Clock) (bytes rateKbps : UInt32) : UInt64 :=
  if bytes = 0 ∨ rateKbps = 0 then 0
  else if c.cyclesPerUs = 0 then 0
  else
    let num := bytes.toUInt64 * 8 * 1000 * c.cyclesPerUs
    (num + rateKbps.toUInt64 - 1) / rateKbps.toUInt64

/-! ## The scheduler -/

/-- `comb_sched_insert`. -/
def combSchedInsert (s : Sched) (id : UInt32) : Sched :=
  if s.head = schedIdInvalid then
    Sched.setNext { s with head := id, tail := id } id schedIdInvalid
  else
    let (prev, _) := scan s.next schedIdInvalid
      (fun cur => !decide ((s.entries cur).priority < (s.entries id).priority))
      maxSchedEntries schedIdInvalid s.head
    if prev = schedIdInvalid then
      { s.setNext id s.head with head := id }
    else
      let nextEntry := (s.entries prev).nextEntry
      let s := (s.setNext id nextEntry).setNext prev id
      if nextEntry = schedIdInvalid then { s with tail := id } else s

/-- `comb_sched_remove`. -/
def combSchedRemove (s : Sched) (id : UInt32) : Sched × Int :=
  let (prev, cur) :=
    scan s.next schedIdInvalid (fun cur => cur == id) maxSchedEntries schedIdInvalid s.head
  if cur = schedIdInvalid then (s, -1)
  else
    let nextEntry := (s.entries id).nextEntry
    let s :=
      if prev = schedIdInvalid then { s with head := nextEntry } else s.setNext prev nextEntry
    let s := if s.tail = id then { s with tail := prev } else s
    (s.setEntry id freeEntry, 0)

/-- `comb_sched_add`. -/
def combSchedAdd (s : Sched) (id : UInt32) (priority : UInt64) (avail : UInt32) : Sched × Int :=
  let entry := s.entries id
  if entry.id ≠ schedIdInvalid then
    let totalAvail := entry.avail + avail
    if entry.priority = priority then
      (s.setEntry id { entry with avail := totalAvail }, 0)
    else
      let (s, ret) := combSchedRemove s id
      -- the exit the library does not have
      if ret ≠ 0 then (s, -1)
      else
        let s := s.setEntry id
          { id, nextEntry := schedIdInvalid, priority, avail := totalAvail }
        (combSchedInsert s id, 0)
  else
    let s := s.setEntry id { id, nextEntry := schedIdInvalid, priority, avail }
    (combSchedInsert s id, 0)

/-- `comb_sched_head`. -/
def combSchedHead (s : Sched) : Option SchedEntry :=
  if s.head = schedIdInvalid then none else some (s.entries s.head)

/-- `comb_sched_pop`. -/
def combSchedPop (s : Sched) : Sched × Int :=
  if s.head = schedIdInvalid then (s, -1)
  else
    let popIdx := s.head
    let head := (s.entries popIdx).nextEntry
    let tail := if head = schedIdInvalid then schedIdInvalid else s.tail
    (Sched.setEntry { s with head := head, tail := tail } popIdx freeEntry, 0)

/-! ## The copies and the library -/

theorem combQueueEnqueue_eq (m : Nat → UInt8) (q : Equeue) (t : UInt8) :
    combQueueEnqueue m q t = queueEnqueue m q t := rfl

theorem combQueueDequeue_eq (m : Nat → UInt8) (q : Dqueue) :
    combQueueDequeue m q = queueDequeue m q := rfl

theorem combRateDelayTsc_eq (c : Clock) (bytes rateKbps : UInt32) :
    combRateDelayTsc c bytes rateKbps = ebpfRateDelayTsc c bytes rateKbps := rfl

theorem combSchedRemove_eq (s : Sched) (id : UInt32) : combSchedRemove s id = schedRemove s id := rfl

section list

variable {s : Sched} {l : List UInt32} {id : UInt32}

/-- **An entry in use can be removed**, since its id is on the list. -/
theorem combSchedRemove_used (h : SchedRep s l) (hin : (s.entries id).id ≠ schedIdInvalid) :
    (combSchedRemove s id).2 = 0 := by
  rw [combSchedRemove_eq]
  obtain ⟨l₁, l₂, rfl, -⟩ := List.eq_append_cons_of_mem ((h.mem_iff id).mp hin)
  exact (schedRemove_list h).2.1

/-- **`comb_sched_add` is `sched_add`** on a priority list. -/
theorem combSchedAdd_eq (h : SchedRep s l) (id : UInt32) (priority : UInt64) (avail : UInt32) :
    combSchedAdd s id priority avail = schedAdd s id priority avail := by
  unfold combSchedAdd schedAdd
  by_cases hin : (s.entries id).id ≠ schedIdInvalid
  · simp only [if_pos hin]
    split
    · rfl
    · have hret := combSchedRemove_used h hin
      rw [combSchedRemove_eq] at hret ⊢
      simp only [hret, ne_eq, not_true_eq_false, if_false]
      rfl
  · rw [if_neg hin, if_neg hin]
    rfl

end list

/-! ## Runs -/

/-- One call of a copy. -/
def combStep (s : Sched) : SchedCall → Sched × Int
  | .add id priority avail => combSchedAdd s id priority avail
  | .pop => combSchedPop s
  | .remove id => combSchedRemove s id

theorem combStep_eq {s : Sched} {l : List UInt32} (h : SchedRep s l) (c : SchedCall) :
    combStep s c = schedStep s c := by
  cases c with
  | add id priority avail => exact combSchedAdd_eq h id priority avail
  | pop => rfl
  | remove id => rfl

/-- **A run of the copies is a run of the library**, with the same values
returned and the same last state. -/
theorem combRun_eq {log : List Int} {s : Sched} :
    Run SchedCallOk combStep schedInit log s ↔ Run SchedCallOk schedStep schedInit log s := by
  constructor
  · intro hr
    induction hr with
    | nil => exact Run.nil
    | snoc _ hc ih =>
      obtain ⟨l, hl⟩ := schedRun_list ih
      rw [combStep_eq hl.rep]
      exact ih.snoc hc
  · intro hr
    induction hr with
    | nil => exact Run.nil
    | snoc hr hc ih =>
      obtain ⟨l, hl⟩ := schedRun_list hr
      rw [← combStep_eq hl.rep]
      exact ih.snoc hc

/-- **The helpers of the combined build equal the library**: the scheduler's in
every state that scheduler calls reach, whichever version they are of and for
every id, and those of queues and pacing in every state. -/
theorem comb_helpers_agree {log : List Int} {s : Sched}
    (hr : Run SchedCallOk schedStep schedInit log s ∨ Run SchedCallOk combStep schedInit log s) :
    (∀ id priority avail, combSchedAdd s id priority avail = schedAdd s id priority avail) ∧
    combSchedPop s = schedPop s ∧ combSchedHead s = schedHead s ∧
    (∀ id, combSchedRemove s id = schedRemove s id) ∧
    (∀ m q t, combQueueEnqueue m q t = queueEnqueue m q t) ∧
    (∀ m q, combQueueDequeue m q = queueDequeue m q) ∧
    (∀ m q, combQueueHead m q = queueHead m q) ∧
    (∀ m q, combQueueTail m q = queueTail m q) ∧
    (∀ c bytes rateKbps, combRateDelayTsc c bytes rateKbps = ebpfRateDelayTsc c bytes rateKbps) := by
  obtain ⟨l, h⟩ := schedRun_list (hr.elim id combRun_eq.mp)
  refine ⟨fun id priority avail => combSchedAdd_eq h.rep id priority avail, rfl, rfl, ?_, ?_, ?_, ?_,
    ?_, ?_⟩
  · exact combSchedRemove_eq s
  · exact combQueueEnqueue_eq
  · exact combQueueDequeue_eq
  · exact fun _ _ => rfl
  · exact fun _ _ => rfl
  · exact combRateDelayTsc_eq

/-- An id on the list is added again with another priority. -/
theorem comb_helpers_agree_readd :
    ∃ log s, Run SchedCallOk schedStep schedInit log s ∧
      (s.entries 4).id = 4 ∧ (s.entries 4).priority ≠ 15 ∧
      combSchedAdd s 4 15 20 = schedAdd s 4 15 20 := by
  have hrun := Run.execOk [.add 4 10 10, .add 9 12 5]
    (Run.nil : Run SchedCallOk schedStep schedInit [] _) (by decide +kernel)
  exact ⟨_, _, hrun, by decide +kernel, by decide +kernel,
    (comb_helpers_agree (.inl hrun)).1 4 15 20⟩

end Chamelio.Fast
