import Mathlib.Data.List.Induction
import Mathlib.Data.List.InsertIdx
import Chamelio.Util.Shmalloc

/-!
# Runs of the shared-memory allocator (`lib/utils/shm/shmalloc.c`)

Any sequence of allocations and frees over one region. Every offset the
allocator ever sees is a multiple of 64, so no block is taken with a prefix
in front of it: an allocation is the first block that is large enough, or the
front of it. Free blocks and live handles partition the region throughout,
whatever the order of the free list is.

The order itself is another matter. The insertion loop of `shmalloc_free`
stops at the last free block below the handle and puts the handle in front of
that block instead of behind it. The list stays sorted, and neighbours merge,
exactly when every handle lies below all free blocks when it is freed.

Mirroring notes: the live handles are a list beside the allocator, each with
the length its caller asked for; `free i` gives back the `i`-th of them, so
only live handles are freed. `heapOk` of an `alloc` call is what `malloc` does
during that call.
-/

namespace Chamelio.Util

open Chamelio.Lib

/-- A call of the allocator's interface. -/
inductive ShmCall where
  | alloc (heapOk : Bool) (length : Nat)
  | free (i : Nat)
  deriving DecidableEq, Repr

/-- A handle that is not freed yet, and the length it was asked for. -/
structure ShmLive where
  handle : Region
  asked : Nat
  deriving DecidableEq, Repr

/-- The allocator and its callers' live handles. -/
structure ShmState where
  alloc : ShmAllocator
  live : List ShmLive

/-- After `shmalloc_init`. -/
def shmStart (len : Nat) : ShmState := { alloc := shmallocInit len, live := [] }

/-- One call. A failed allocation hands out nothing. -/
def shmCall (s : ShmState) : ShmCall → ShmState
  | .alloc heapOk length =>
    match shmallocAlloc heapOk s.alloc length with
    | none => s
    | some r => { alloc := r.1, live := ⟨r.2, length⟩ :: s.live }
  | .free i =>
    match s.live[i]? with
    | none => s
    | some h => { alloc := shmallocFree s.alloc h.handle, live := s.live.eraseIdx i }

def shmRun (s : ShmState) (calls : List ShmCall) : ShmState := calls.foldl shmCall s

theorem shmRun_append (s : ShmState) (calls : List ShmCall) (c : ShmCall) :
    shmRun s (calls ++ [c]) = shmCall (shmRun s calls) c := by
  simp [shmRun]

/-- The blocks of the live handles. -/
def ShmState.handles (s : ShmState) : List Region := s.live.map ShmLive.handle

/-! ## What an allocation takes, when every offset is aligned -/

theorem alignUp_of_aligned {x : Nat} (hx : x < 18446744073709551616) (h : x % 64 = 0) :
    alignUp x = x := by
  unfold alignUp shmallocAlign
  omega

theorem alignUp_of_small {x : Nat} (hx : x + 64 ≤ 18446744073709551616) :
    alignUp x = (x + 63) / 64 * 64 := by
  unfold alignUp shmallocAlign
  omega

/-- The free list before and after `length` bytes are cut off the front of
one of its blocks; a block that fits exactly leaves the list. -/
structure Carved (length : Nat) (l l' : List Region) (r : Region) (l₁ : List Region) (sh : Region)
    (l₂ : List Region) : Prop where
  before : l = l₁ ++ sh :: l₂
  fits : length ≤ sh.len
  block : r = ⟨sh.off, length⟩
  after : l' = l₁ ++ l₂ ∧ sh.len = length ∨
    l' = l₁ ++ ⟨sh.off + length, sh.len - length⟩ :: l₂ ∧ length < sh.len

theorem allocLoop_carved {heapOk : Bool} {length : Nat} (hal : length + 64 ≤ 18446744073709551616)
    {len : Nat} (hlen : len < 18446744073709551616) {l l' : List Region} {r : Region}
    (hin : ∀ b ∈ l, b.off + b.len ≤ len) (haligned : ∀ b ∈ l, b.off % 64 = 0)
    (h : allocLoop heapOk length l = some (l', r)) :
    ∃ l₁ sh l₂, Carved length l l' r l₁ sh l₂ := by
  induction l generalizing l' with
  | nil => cases h
  | cons sh rest ih =>
    have hsh := hin sh List.mem_cons_self
    have hup := alignUp_of_aligned (show sh.off < 18446744073709551616 by omega)
      (haligned sh List.mem_cons_self)
    rw [allocLoop] at h
    simp only [hup, Nat.sub_self, Nat.zero_add, Nat.sub_zero, true_and, if_true] at h
    split at h
    · -- the block does not fit: the search goes on behind it
      cases hrec : allocLoop heapOk length rest with
      | none => rw [hrec] at h; cases h
      | some res =>
        rw [hrec] at h
        obtain ⟨rfl, rfl⟩ : sh :: res.1 = l' ∧ res.2 = r := by simpa using h
        obtain ⟨l₁, b, l₂, hc⟩ := ih (fun b hb => hin b (List.mem_cons_of_mem _ hb))
          (fun b hb => haligned b (List.mem_cons_of_mem _ hb)) hrec
        refine ⟨sh :: l₁, b, l₂, by rw [hc.before]; rfl, hc.fits, hc.block, ?_⟩
        rcases hc.after with ⟨hl, hsz⟩ | ⟨hl, hsz⟩
        · exact Or.inl ⟨by rw [hl]; rfl, hsz⟩
        · exact Or.inr ⟨by rw [hl]; rfl, hsz⟩
    · next hfit =>
      have hroom : length ≤ sh.len := by omega
      split at h
      · -- exact fit
        next hex =>
        have hsz : sh.len = length := by omega
        cases h
        exact ⟨[], r, rest, rfl, hroom, by rw [← hsz], Or.inl ⟨rfl, hsz⟩⟩
      · next hex =>
        split at h
        · cases h
        · cases h
          exact ⟨[], sh, rest, rfl, hroom, rfl, Or.inr ⟨rfl, by omega⟩⟩

/-- While `malloc` gives handles, the search fails only when no free block is
large enough. -/
theorem allocLoop_none {length : Nat} (hal : length + 64 ≤ 18446744073709551616)
    {len : Nat} (hlen : len < 18446744073709551616) {l : List Region}
    (hin : ∀ b ∈ l, b.off + b.len ≤ len) (haligned : ∀ b ∈ l, b.off % 64 = 0)
    (h : allocLoop true length l = none) : ∀ b ∈ l, b.len < length := by
  induction l with
  | nil => intro b hb; cases hb
  | cons sh rest ih =>
    have hsh := hin sh List.mem_cons_self
    have hup := alignUp_of_aligned (show sh.off < 18446744073709551616 by omega)
      (haligned sh List.mem_cons_self)
    rw [allocLoop] at h
    simp only [hup, Nat.sub_self, Nat.zero_add, Nat.sub_zero, true_and, if_true, Bool.not_true,
      Bool.false_eq_true, if_false] at h
    split at h
    · next hno =>
      have hrec := ih (fun b hb => hin b (List.mem_cons_of_mem _ hb))
        (fun b hb => haligned b (List.mem_cons_of_mem _ hb)) (by simpa using h)
      exact List.forall_mem_cons.mpr ⟨by omega, hrec⟩
    · -- a block that fits is handed out
      split at h <;> cases h

theorem shmallocAlloc_some {heapOk : Bool} {length : Nat} {alloc : ShmAllocator}
    {res : ShmAllocator × Region} (h : shmallocAlloc heapOk alloc length = some res) :
    allocLoop heapOk (alignUp length) alloc.freelist = some (res.1.freelist, res.2) := by
  unfold shmallocAlloc at h
  cases hl : allocLoop heapOk (alignUp length) alloc.freelist with
  | none => rw [hl] at h; cases h
  | some r =>
    rw [hl] at h
    cases h
    rfl

theorem shmallocAlloc_none {heapOk : Bool} {length : Nat} {alloc : ShmAllocator}
    (h : shmallocAlloc heapOk alloc length = none) :
    allocLoop heapOk (alignUp length) alloc.freelist = none := by
  unfold shmallocAlloc at h
  simpa using h

/-! ## What stays aligned -/

/-- Every block begins at a multiple of 64. -/
def Aligned (l : List Region) : Prop := ∀ b ∈ l, b.off % 64 = 0

theorem aligned_cons {b : Region} {l : List Region} :
    Aligned (b :: l) ↔ b.off % 64 = 0 ∧ Aligned l := by
  simp [Aligned]

theorem aligned_append {l l' : List Region} : Aligned (l ++ l') ↔ Aligned l ∧ Aligned l' := by
  simp only [Aligned, List.mem_append]
  constructor
  · intro h
    exact ⟨fun b hb => h b (Or.inl hb), fun b hb => h b (Or.inr hb)⟩
  · rintro ⟨h, h'⟩ b (hb | hb)
    · exact h b hb
    · exact h' b hb

theorem Carved.aligned {length : Nat} {l l' l₁ l₂ : List Region} {r sh : Region}
    (hc : Carved length l l' r l₁ sh l₂) (hlength : length % 64 = 0) (h : Aligned l) :
    Aligned l' ∧ r.off % 64 = 0 := by
  rw [hc.before, aligned_append, aligned_cons] at h
  refine ⟨?_, by rw [hc.block]; exact h.2.1⟩
  rcases hc.after with ⟨hl, -⟩ | ⟨hl, -⟩
  · rw [hl, aligned_append]
    exact ⟨h.1, h.2.2⟩
  · rw [hl, aligned_append, aligned_cons]
    have := h.2.1
    exact ⟨h.1, by dsimp only; omega, h.2.2⟩

/-- Merging keeps the offset of the block in front. -/
theorem mergeSucc_aligned {l : List Region} (h : Aligned l) : Aligned (mergeSucc l) := by
  unfold mergeSucc
  split
  · simp only [aligned_cons] at h
    split
    · exact aligned_cons.mpr ⟨h.1, h.2.2⟩
    · simp only [aligned_cons]
      exact h
  · exact h

theorem mergeItems_aligned {l : List Region} (h : Aligned l) : Aligned (mergeItems l) := by
  unfold mergeItems
  split
  · simp only [aligned_cons] at h
    split
    · exact mergeSucc_aligned (aligned_cons.mpr ⟨h.1, h.2.2⟩)
    · exact aligned_cons.mpr ⟨h.1, mergeSucc_aligned (aligned_cons.mpr h.2)⟩
  · exact h

theorem freeBehind_aligned {handle : Region} (hh : handle.off % 64 = 0) {prev : Region}
    {l : List Region} (h : Aligned (prev :: l)) : Aligned (freeBehind handle prev l) := by
  induction l generalizing prev with
  | nil => exact mergeItems_aligned (by simp [aligned_cons] at h ⊢; exact ⟨h.1, hh, h.2⟩)
  | cons sh rest ih =>
    have hput : Aligned (prev :: handle :: sh :: rest) := by
      simp only [aligned_cons] at h ⊢
      exact ⟨h.1, hh, h.2⟩
    cases rest with
    | nil => exact mergeItems_aligned hput
    | cons next rest =>
      rw [freeBehind]
      split
      · exact aligned_cons.mpr ⟨(aligned_cons.mp h).1, ih (aligned_cons.mp h).2⟩
      · exact mergeItems_aligned hput

theorem shmallocFree_aligned {alloc : ShmAllocator} {handle : Region} (hh : handle.off % 64 = 0)
    (h : Aligned alloc.freelist) : Aligned (shmallocFree alloc handle).freelist := by
  unfold shmallocFree
  split
  · next hl =>
    rw [hl] at h
    split
    · exact freeBehind_aligned hh h
    · exact mergeSucc_aligned (aligned_cons.mpr ⟨hh, h⟩)
  · exact mergeSucc_aligned (aligned_cons.mpr ⟨hh, h⟩)

/-! ## The partition -/

theorem mergeSucc_ne_nil (b : Region) (l : List Region) : mergeSucc (b :: l) ≠ [] := by
  cases l with
  | nil => simp [mergeSucc]
  | cons next rest =>
    rw [mergeSucc]
    split <;> simp

theorem mergeItems_ne_nil (b : Region) (l : List Region) : mergeItems (b :: l) ≠ [] := by
  cases l with
  | nil => simp [mergeItems]
  | cons sh rest =>
    rw [mergeItems]
    split
    · exact mergeSucc_ne_nil _ rest
    · simp

theorem freeBehind_ne_nil (handle prev : Region) (l : List Region) :
    freeBehind handle prev l ≠ [] := by
  unfold freeBehind
  split
  · split
    · simp
    · exact mergeItems_ne_nil prev _
  · exact mergeItems_ne_nil prev _

/-- The free list holds a block after every free. -/
theorem shmallocFree_ne_nil (alloc : ShmAllocator) (handle : Region) :
    (shmallocFree alloc handle).freelist ≠ [] := by
  unfold shmallocFree
  split
  · next sh next rest _ =>
    split
    · exact freeBehind_ne_nil handle sh (next :: rest)
    · exact mergeSucc_ne_nil handle (sh :: next :: rest)
  · next l _ => exact mergeSucc_ne_nil handle _

/-- **The allocator's state over one region**: the free blocks and the live
handles cover every byte of `[0, len)` once and no byte outside it, they begin
at multiples of 64, and a handle has the length it was asked for, rounded up. -/
structure ShmState.Partition (len : Nat) (s : ShmState) : Prop where
  cover : ∀ x, Region.cover s.alloc.freelist x + Region.cover s.handles x = Region.hits ⟨0, len⟩ x
  free : ∀ b ∈ s.alloc.freelist, b.off + b.len ≤ len
  block : ∀ b ∈ s.handles, b.off + b.len ≤ len
  freeAligned : Aligned s.alloc.freelist
  aligned : Aligned s.handles
  room : ∀ h ∈ s.live, h.handle.len = alignUp h.asked
  owned : s.alloc.freelist = [] → s.live ≠ []

theorem shmStart_partition (len : Nat) : (shmStart len).Partition len := by
  refine ⟨fun x => ?_, ?_, ?_, ?_, ?_, ?_, ?_⟩
  · simp [shmStart, shmallocInit, ShmState.handles]
  · simp [shmStart, shmallocInit]
  · simp [shmStart, ShmState.handles]
  · simp [shmStart, shmallocInit, Aligned]
  · simp [shmStart, ShmState.handles, Aligned]
  · simp [shmStart]
  · simp [shmStart, shmallocInit]

/-- The coverage of a list is that of one of its blocks and of the others. -/
theorem cover_eraseIdx {l : List Region} {i : Nat} {r : Region} (h : l[i]? = some r) (x : Nat) :
    Region.cover l x = r.hits x + Region.cover (l.eraseIdx i) x := by
  induction l generalizing i with
  | nil => simp at h
  | cons b l ih =>
    cases i with
    | zero =>
      obtain rfl : b = r := by simpa using h
      simp
    | succ i =>
      have := ih (i := i) (by simpa using h)
      simp only [List.eraseIdx_cons_succ, Region.cover_cons]
      omega

/-- One call keeps the partition. -/
theorem shmCall_partition {len : Nat} (hlen : len < 18446744073709551616) {s : ShmState}
    (h : s.Partition len) (c : ShmCall) : (shmCall s c).Partition len := by
  cases c with
  | alloc heapOk length =>
    simp only [shmCall]
    cases ha : shmallocAlloc heapOk s.alloc length with
    | none => exact h
    | some res =>
      have hal := alignUp_lt length
      have hloop := shmallocAlloc_some ha
      obtain ⟨hsz, ht⟩ := allocLoop_spec hal hlen h.free hloop
      obtain ⟨l₁, sh, l₂, hc⟩ := allocLoop_carved hal hlen h.free h.freeAligned hloop
      obtain ⟨hfree, hblock⟩ := hc.aligned (alignUp_dvd length) h.freeAligned
      refine ⟨fun x => ?_, ht.free, List.forall_mem_cons.mpr ⟨ht.block, h.block⟩, hfree,
        aligned_cons.mpr ⟨hblock, h.aligned⟩, List.forall_mem_cons.mpr ⟨hsz, h.room⟩, by simp⟩
      have h₁ := ht.cover x
      have h₂ := h.cover x
      simp only [ShmState.handles, List.map_cons, Region.cover_cons] at h₂ ⊢
      omega
  | free i =>
    simp only [shmCall]
    cases hi : s.live[i]? with
    | none => exact h
    | some b =>
      have hi' : s.handles[i]? = some b.handle := by simp [ShmState.handles, hi]
      have hmem : b.handle ∈ s.handles := List.mem_of_getElem? hi'
      have hsame := shmallocFree_same hlen (h.block _ hmem) h.free
      have herase : ∀ r ∈ (s.live.eraseIdx i).map ShmLive.handle, r ∈ s.handles := fun r hr =>
        ((List.eraseIdx_sublist s.live i).map ShmLive.handle).subset hr
      refine ⟨fun x => ?_, hsame.free, fun r hr => h.block r (herase r hr),
        shmallocFree_aligned (h.aligned _ hmem) h.freeAligned,
        fun r hr => h.aligned r (herase r hr),
        fun r hr => h.room r (List.mem_of_mem_eraseIdx hr), ?_⟩
      · have h₁ := h.cover x
        have h₂ := cover_eraseIdx hi' x
        have h₃ := hsame.cover x
        rw [Region.cover_cons] at h₃
        simp only [ShmState.handles, List.eraseIdx_map] at h₁ h₂ ⊢
        omega
      · intro hnil
        exact absurd hnil (shmallocFree_ne_nil s.alloc b.handle)

/-- A whole run keeps it. -/
theorem shmRun_partition {len : Nat} (hlen : len < 18446744073709551616) {s : ShmState}
    (h : s.Partition len) (calls : List ShmCall) : (shmRun s calls).Partition len := by
  induction calls generalizing s with
  | nil => exact h
  | cons c calls ih => exact ih (shmCall_partition hlen h c)

/-- An allocation of at most `2^64 - 64` bytes. -/
def ShmCall.InRange : ShmCall → Prop
  | .alloc _ length => length + 64 ≤ 18446744073709551616
  | .free _ => True

/-- The lengths asked for stay in range. -/
theorem shmRun_asked {s : ShmState} {calls : List ShmCall}
    (hs : ∀ h ∈ s.live, h.asked + 64 ≤ 18446744073709551616) (hcalls : ∀ c ∈ calls, c.InRange) :
    ∀ h ∈ (shmRun s calls).live, h.asked + 64 ≤ 18446744073709551616 := by
  induction calls generalizing s with
  | nil => exact hs
  | cons c calls ih =>
    refine ih ?_ fun c' hc' => hcalls c' (List.mem_cons_of_mem c hc')
    have hc := hcalls c List.mem_cons_self
    cases c with
    | alloc heapOk length =>
      simp only [shmCall]
      split
      · exact hs
      · exact List.forall_mem_cons.mpr ⟨hc, hs⟩
    | free i =>
      simp only [shmCall]
      split
      · exact hs
      · exact fun h hh => hs h (List.mem_of_mem_eraseIdx hh)

theorem ShmState.Partition.disjoint {len : Nat} {s : ShmState} (h : s.Partition len) :
    (s.alloc.freelist ++ s.handles).Pairwise Region.Disjoint := by
  apply Region.pairwise_of_cover
  intro x
  rw [Region.cover_append, h.cover]
  unfold Region.hits
  split <;> omega

/-- Every byte of the region lies in a block. -/
theorem ShmState.Partition.covers {len : Nat} {s : ShmState} (h : s.Partition len) {x : Nat}
    (hx : x < len) : ∃ b ∈ s.alloc.freelist ++ s.handles, b.Mem x := by
  apply Region.mem_of_cover
  rw [Region.cover_append, h.cover, Region.hits_mem ⟨Nat.zero_le x, by dsimp only; omega⟩]
  omega

/-- An allocation fails, with memory for the handle, only when no free block
holds the length rounded up. -/
theorem ShmState.Partition.alloc_none {len : Nat} (hlen : len < 18446744073709551616) {s : ShmState}
    (h : s.Partition len) {length : Nat} (hl : length + 64 ≤ 18446744073709551616)
    (hnone : shmallocAlloc true s.alloc length = none) :
    ∀ b ∈ s.alloc.freelist, b.len < (length + 63) / 64 * 64 := by
  rw [← alignUp_of_small hl]
  exact allocLoop_none (alignUp_lt length) hlen h.free h.freeAligned (shmallocAlloc_none hnone)

/-- **The allocator partitions its region.** After any calls, the free blocks
and the live handles are pairwise disjoint, cover the region and lie inside
it; the handles are aligned and large enough; and an allocation fails only
when no single free block holds the rounded length. -/
theorem shmRun_partitions {len : Nat} (hlen : len < 18446744073709551616) {calls : List ShmCall}
    (hcalls : ∀ c ∈ calls, c.InRange) :
    let s := shmRun (shmStart len) calls
    (s.alloc.freelist ++ s.handles).Pairwise Region.Disjoint ∧
      (∀ x < len, ∃ b ∈ s.alloc.freelist ++ s.handles, b.Mem x) ∧
      (∀ b ∈ s.alloc.freelist ++ s.handles, b.off + b.len ≤ len) ∧
      (∀ h ∈ s.live, h.handle.off % 64 = 0 ∧ h.asked ≤ h.handle.len) ∧
      ∀ length, length + 64 ≤ 18446744073709551616 →
        shmallocAlloc true s.alloc length = none →
          ∀ b ∈ s.alloc.freelist, b.len < (length + 63) / 64 * 64 := by
  intro s
  have hp : s.Partition len := shmRun_partition hlen (shmStart_partition len) calls
  have hasked : ∀ h ∈ s.live, h.asked + 64 ≤ 18446744073709551616 :=
    shmRun_asked (by simp [shmStart]) hcalls
  refine ⟨hp.disjoint, fun x hx => hp.covers hx, ?_, ?_, fun length hl => hp.alloc_none hlen hl⟩
  · intro b hb
    rcases List.mem_append.mp hb with hb | hb
    · exact hp.free b hb
    · exact hp.block b hb
  · intro h hh
    refine ⟨hp.aligned h.handle (List.mem_map_of_mem hh), ?_⟩
    rw [hp.room h hh]
    exact alignUp_of_le (by have := hasked h hh; omega)

/-- Two allocations and a free on a region of 256 bytes. -/
theorem shmRun_partitions_256 :
    let s := shmRun (shmStart 256) [.alloc true 70, .alloc true 1, .free 1]
    (s.alloc.freelist ++ s.handles).Pairwise Region.Disjoint ∧
      (∀ x < 256, ∃ b ∈ s.alloc.freelist ++ s.handles, b.Mem x) ∧
      (∀ b ∈ s.alloc.freelist ++ s.handles, b.off + b.len ≤ 256) ∧
      (∀ h ∈ s.live, h.handle.off % 64 = 0 ∧ h.asked ≤ h.handle.len) ∧
      ∀ length, length + 64 ≤ 18446744073709551616 →
        shmallocAlloc true s.alloc length = none →
          ∀ b ∈ s.alloc.freelist, b.len < (length + 63) / 64 * 64 :=
  shmRun_partitions (by decide) (by simp [ShmCall.InRange])

/-! ## The order of the free list -/

/-- Strictly sorted by offset, no two blocks adjacent: every block ends before
the next one begins. -/
def Coalesced (l : List Region) : Prop := l.Pairwise fun a b => a.off + a.len < b.off

/-- The handle lies below every free block. -/
def InFront (handle : Region) (l : List Region) : Prop :=
  ∀ b ∈ l, handle.off + handle.len ≤ b.off

theorem coalesced_cons {b : Region} {l : List Region} :
    Coalesced (b :: l) ↔ (∀ c ∈ l, b.off + b.len < c.off) ∧ Coalesced l :=
  List.pairwise_cons

/-- Cutting the front off a block, or taking it out, leaves the order. -/
theorem Carved.coalesced {length : Nat} {l l' l₁ l₂ : List Region} {r sh : Region}
    (hc : Carved length l l' r l₁ sh l₂) (h : Coalesced l) : Coalesced l' := by
  rw [hc.before] at h
  obtain ⟨h₁, h₂, hcross⟩ := List.pairwise_append.mp h
  obtain ⟨hsh, hrest⟩ := coalesced_cons.mp h₂
  rcases hc.after with ⟨hl, -⟩ | ⟨hl, hsz⟩
  · rw [hl]
    exact List.pairwise_append.mpr
      ⟨h₁, hrest, fun a ha b hb => hcross a ha b (List.mem_cons_of_mem sh hb)⟩
  · rw [hl]
    refine List.pairwise_append.mpr ⟨h₁, coalesced_cons.mpr ⟨fun c hc' => ?_, hrest⟩, ?_⟩
    · have := hsh c hc'
      dsimp only
      omega
    · intro a ha b hb
      rcases List.mem_cons.mp hb with rfl | hb
      · have := hcross a ha sh List.mem_cons_self
        dsimp only
        omega
      · exact hcross a ha b (List.mem_cons_of_mem sh hb)

/-- A handle in front of all free blocks becomes the first of them, or the
front of the first. -/
theorem mergeSucc_coalesced {len : Nat} (hlen : len < 18446744073709551616) {handle : Region}
    {l : List Region} (hh : handle.off + handle.len ≤ len) (hfront : InFront handle l)
    (h : Coalesced l) : Coalesced (mergeSucc (handle :: l)) := by
  cases l with
  | nil => exact List.pairwise_singleton _ handle
  | cons next rest =>
    obtain ⟨hnext, hrest⟩ := coalesced_cons.mp h
    have hle := hfront next List.mem_cons_self
    rw [mergeSucc]
    split
    · refine coalesced_cons.mpr ⟨fun c hc => ?_, hrest⟩
      have := hnext c hc
      dsimp only
      omega
    · next hapart =>
      refine coalesced_cons.mpr ⟨List.forall_mem_cons.mpr ⟨by omega, fun c hc => ?_⟩, h⟩
      have := hnext c hc
      omega

/-- A handle put in front of a block that begins before the handle ends is
not merged and out of order. -/
theorem mergeSucc_not_coalesced {len : Nat} (hlen : len < 18446744073709551616)
    {handle sh : Region} {rest : List Region} (hh : handle.off + handle.len ≤ len)
    (hlt : sh.off < handle.off + handle.len) : ¬ Coalesced (mergeSucc (handle :: sh :: rest)) := by
  rw [mergeSucc, if_neg (by omega)]
  intro h
  have := (coalesced_cons.mp h).1 sh List.mem_cons_self
  omega

/-- Behind its first step the insertion loop always stops one block early. -/
theorem freeBehind_not_coalesced {len : Nat} (hlen : len < 18446744073709551616)
    {handle : Region} (hh : handle.off + handle.len ≤ len) {prev sh : Region} {rest : List Region}
    (h : Coalesced (prev :: sh :: rest)) (hlt : sh.off < handle.off) :
    ¬ Coalesced (freeBehind handle prev (sh :: rest)) := by
  have hput : ∀ {p b : Region} {l : List Region}, Coalesced (p :: b :: l) → b.off < handle.off →
      ¬ Coalesced (mergeItems (p :: handle :: b :: l)) := by
    intro p b l hpb hb hbad
    have hp := (coalesced_cons.mp hpb).1 b List.mem_cons_self
    rw [mergeItems, if_neg (by omega)] at hbad
    exact mergeSucc_not_coalesced hlen hh (by omega) (coalesced_cons.mp hbad).2
  induction rest generalizing prev sh with
  | nil => exact hput h hlt
  | cons next rest ih =>
    rw [freeBehind]
    split
    · next hnext =>
      intro hbad
      exact ih (coalesced_cons.mp h).2 hnext (coalesced_cons.mp hbad).2
    · exact hput h hlt

/-- **What a free does to a sorted list**: it stays sorted, without adjacent
blocks, exactly when the handle lies below every free block. -/
theorem shmallocFree_coalesced_iff {len : Nat} (hlen : len < 18446744073709551616)
    {alloc : ShmAllocator} {handle : Region} (hh : handle.off + handle.len ≤ len)
    (h : Coalesced alloc.freelist) :
    Coalesced (shmallocFree alloc handle).freelist ↔ InFront handle alloc.freelist := by
  constructor
  · intro hafter
    unfold shmallocFree at hafter
    cases hl : alloc.freelist with
    | nil => intro b hb; cases hb
    | cons sh rest =>
      rw [hl] at h hafter
      have hsorted := (coalesced_cons.mp h).1
      -- the head of the list is enough
      have hhead : handle.off + handle.len ≤ sh.off := by
        apply Nat.le_of_not_lt
        intro hlt
        cases rest with
        | nil => exact mergeSucc_not_coalesced hlen hh hlt hafter
        | cons next rest =>
          dsimp only at hafter
          split at hafter
          · next hnext => exact freeBehind_not_coalesced hlen hh h hnext hafter
          · exact mergeSucc_not_coalesced hlen hh hlt hafter
      refine List.forall_mem_cons.mpr ⟨hhead, fun b hb => ?_⟩
      have := hsorted b hb
      omega
  · intro hfront
    unfold shmallocFree
    split
    · next sh next rest hl =>
      have hnext := hfront next (by simp [hl])
      rw [if_neg (by omega), ← hl]
      exact mergeSucc_coalesced hlen hh hfront h
    · exact mergeSucc_coalesced hlen hh hfront h

/-- One call keeps a sorted list sorted, unless it frees a handle that lies
above a free block. -/
theorem shmCall_coalesced {len : Nat} (hlen : len < 18446744073709551616) {s : ShmState}
    (hp : s.Partition len) (h : Coalesced s.alloc.freelist) {c : ShmCall}
    (hc : ∀ i b, c = .free i → s.live[i]? = some b → InFront b.handle s.alloc.freelist) :
    Coalesced (shmCall s c).alloc.freelist := by
  cases c with
  | alloc heapOk length =>
    simp only [shmCall]
    cases ha : shmallocAlloc heapOk s.alloc length with
    | none => exact h
    | some res =>
      obtain ⟨l₁, sh, l₂, hcarved⟩ := allocLoop_carved (alignUp_lt length) hlen hp.free
        hp.freeAligned (shmallocAlloc_some ha)
      exact hcarved.coalesced h
  | free i =>
    simp only [shmCall]
    cases hi : s.live[i]? with
    | none => exact h
    | some b =>
      have hb := hp.block b.handle (List.mem_map_of_mem (List.mem_of_getElem? hi))
      exact (shmallocFree_coalesced_iff hlen hb h).mpr (hc i b rfl hi)

/-- A sorted list without adjacent blocks that covers the region on its own
is one block. -/
theorem ShmState.Partition.single {len : Nat} {s : ShmState} (hp : s.Partition len)
    (h : Coalesced s.alloc.freelist) (hlive : s.live = []) : s.alloc.freelist = [⟨0, len⟩] := by
  have hcov : ∀ x, Region.cover s.alloc.freelist x = Region.hits ⟨0, len⟩ x := by
    intro x
    have := hp.cover x
    simpa [ShmState.handles, hlive] using this
  have hfree := hp.free
  cases hl : s.alloc.freelist with
  | nil => exact absurd hlive (hp.owned hl)
  | cons b rest =>
    rw [hl] at h hcov hfree
    have hb := hfree b List.mem_cons_self
    -- a second block would leave the byte behind the first one uncovered
    have hrest : rest = [] := by
      cases rest with
      | nil => rfl
      | cons c rest =>
        have hbc := (coalesced_cons.mp h).1 c List.mem_cons_self
        have hc := hfree c (by simp)
        have hx : 0 < Region.cover (b :: c :: rest) (b.off + b.len) := by
          rw [hcov, Region.hits_mem ⟨Nat.zero_le _, by dsimp only; omega⟩]
          omega
        obtain ⟨r, hr, hmem⟩ := Region.mem_of_cover hx
        unfold Region.Mem at hmem
        rcases List.mem_cons.mp hr with rfl | hr
        · omega
        · have := (coalesced_cons.mp h).1 r hr
          omega
    subst hrest
    -- the first byte and the last byte are its own
    have hsame : ∀ x, b.hits x = Region.hits ⟨0, len⟩ x := fun x => by
      simpa using hcov x
    have hfirst := hsame 0
    have hlast := hsame (len - 1)
    unfold Region.hits at hfirst hlast
    dsimp only at hfirst hlast
    obtain ⟨off, n⟩ := b
    dsimp only at hfirst hlast hb
    have hoff : off = 0 ∧ n = len := by
      by_cases hz : len = 0
      · omega
      · rw [if_pos (show 0 ≤ 0 ∧ 0 < 0 + len by omega)] at hfirst
        rw [if_pos (show 0 ≤ len - 1 ∧ len - 1 < 0 + len by omega)] at hlast
        split at hfirst
        · split at hlast <;> omega
        · omega
    rw [hoff.1, hoff.2]

/-- The whole region can be handed out when its length is a multiple of 64:
any other length is rounded up beyond it. -/
theorem shmallocAlloc_whole_iff {len : Nat} (hlen : len < 18446744073709551616) :
    (shmallocAlloc true { freelist := [⟨0, len⟩] } len).map Prod.snd = some ⟨0, len⟩ ↔
      len % 64 = 0 := by
  have hzero : alignUp 0 = 0 := rfl
  constructor
  · intro h
    rcases alignUp_cases hlen with hup | hup
    · rcases Nat.eq_or_lt_of_le hup.1 with heq | hlt
      · have := alignUp_dvd len
        omega
      · have hlt' := alignUp_lt len
        rw [shmallocAlloc, allocLoop] at h
        simp only [hzero, allocLoop] at h
        rw [if_pos (by omega)] at h
        simp at h
    · have hl : alignUp len = 0 := hup.1
      rw [shmallocAlloc, hl, allocLoop] at h
      simp only [hzero] at h
      rw [if_neg (by omega), if_neg (by omega)] at h
      simp at h
      omega
  · intro h
    have hup := alignUp_of_aligned hlen h
    simp [shmallocAlloc, hup, allocLoop, hzero, Nat.mod_eq_of_lt hlen]

/-- What coalescing promises of a state: the free list is sorted and has no
adjacent blocks, and with no live handle it is the whole region again, which
can be handed out. -/
structure ShmState.Settled (len : Nat) (s : ShmState) : Prop where
  coalesced : Coalesced s.alloc.freelist
  whole : s.live = [] → s.alloc.freelist = [⟨0, len⟩] ∧
    (shmallocAlloc true s.alloc len).map Prod.snd = some ⟨0, len⟩

theorem shmRun_coalesced {len : Nat} (hlen : len < 18446744073709551616) {calls : List ShmCall}
    (hfree : ∀ before i after b, calls = before ++ .free i :: after →
      (shmRun (shmStart len) before).live[i]? = some b →
        InFront b.handle (shmRun (shmStart len) before).alloc.freelist) :
    Coalesced (shmRun (shmStart len) calls).alloc.freelist := by
  induction calls using List.reverseRecOn with
  | nil => exact List.pairwise_singleton _ (⟨0, len⟩ : Region)
  | append_singleton calls c ih =>
    rw [shmRun_append]
    refine shmCall_coalesced hlen (shmRun_partition hlen (shmStart_partition len) calls)
      (ih ?_) ?_
    · intro before i after b hcalls
      exact hfree before i (after ++ [c]) b (by rw [hcalls]; simp)
    · intro i b hc
      exact hfree calls i [] b (by rw [hc])

/-- **When the allocator coalesces.** Every state of a run keeps the free
list sorted and merged exactly when the length of the region is a multiple of
64 and every handle lies, when it is freed, below all free blocks. -/
theorem shmRun_settled_iff {len : Nat} (hlen : len < 18446744073709551616) (calls : List ShmCall) :
    (∀ before after, calls = before ++ after → (shmRun (shmStart len) before).Settled len) ↔
      len % 64 = 0 ∧ ∀ before i after b, calls = before ++ .free i :: after →
        (shmRun (shmStart len) before).live[i]? = some b →
          InFront b.handle (shmRun (shmStart len) before).alloc.freelist := by
  constructor
  · intro h
    refine ⟨(shmallocAlloc_whole_iff hlen).mp ((h [] calls rfl).whole rfl).2, ?_⟩
    intro before i after b hcalls hi
    have hp := shmRun_partition hlen (shmStart_partition len) before
    have hb := hp.block b.handle (List.mem_map_of_mem (List.mem_of_getElem? hi))
    refine (shmallocFree_coalesced_iff hlen hb (h before (.free i :: after) hcalls).coalesced).mp ?_
    have hafter := (h (before ++ [.free i]) after (by rw [hcalls]; simp)).coalesced
    rw [shmRun_append] at hafter
    simpa only [shmCall, hi] using hafter
  · rintro ⟨h64, hfree⟩ before after hcalls
    have hc : Coalesced (shmRun (shmStart len) before).alloc.freelist := by
      apply shmRun_coalesced hlen
      intro b₁ i a₁ b hb
      exact hfree b₁ i (a₁ ++ after) b (by rw [hcalls, hb]; simp)
    refine ⟨hc, fun hlive => ?_⟩
    have hp := shmRun_partition hlen (shmStart_partition len) before
    have hsingle := hp.single hc hlive
    refine ⟨hsingle, ?_⟩
    have hstate : (shmRun (shmStart len) before).alloc = { freelist := [⟨0, len⟩] } := by
      rw [← hsingle]
    rw [hstate]
    exact (shmallocAlloc_whole_iff hlen).mpr h64

/-- A region of 128 bytes, two handles freed in the order of the offsets from
the top. -/
theorem shmRun_settled_iff_128 :
    (∀ before after, [.alloc true 64, .alloc true 64, .free 0, .free 0] = before ++ after →
        (shmRun (shmStart 128) before).Settled 128) ↔
      128 % 64 = 0 ∧ ∀ before i after b,
        [.alloc true 64, .alloc true 64, .free 0, .free 0] = before ++ .free i :: after →
        (shmRun (shmStart 128) before).live[i]? = some b →
          InFront b.handle (shmRun (shmStart 128) before).alloc.freelist :=
  shmRun_settled_iff (by decide) [.alloc true 64, .alloc true 64, .free 0, .free 0]

/-- Freed in the other order, the two halves of the region are never joined:
the list ends as the upper half and then the lower half, and the whole region
cannot be handed out again. -/
theorem shmRun_not_settled :
    (shmRun (shmStart 128) [.alloc true 64, .alloc true 64, .free 1, .free 0]).live = [] ∧
      (shmRun (shmStart 128)
        [.alloc true 64, .alloc true 64, .free 1, .free 0]).alloc.freelist = [⟨64, 64⟩, ⟨0, 64⟩] ∧
      ¬ (shmRun (shmStart 128)
        [.alloc true 64, .alloc true 64, .free 1, .free 0]).Settled 128 := by
  have hlist : (shmRun (shmStart 128)
      [.alloc true 64, .alloc true 64, .free 1, .free 0]).alloc.freelist =
      [⟨64, 64⟩, ⟨0, 64⟩] := by decide
  refine ⟨by decide, hlist, fun h => ?_⟩
  have hc := h.coalesced
  rw [hlist] at hc
  have := (coalesced_cons.mp hc).1 ⟨0, 64⟩ List.mem_cons_self
  dsimp only at this
  omega

end Chamelio.Util
