import Chamelio.Lib.Region

/-!
# The shared-memory allocator (`lib/utils/shm/shmalloc.c`)

First fit over a list of free blocks. `length` is a `size_t` that the
callers compute, so it is any 64-bit value; `ALIGN_UP` rounds it up to 64
modulo 2^64, which takes the last 63 lengths to zero.

Mirroring notes: the `next` links are the list; `sh_alloc` is `malloc`, and
`heapOk` says whether `malloc` succeeds during the call (the block stays as
it was when it does not). `addr` is `shm_base + off` throughout and is left
out.
-/

namespace Chamelio.Util

open Chamelio.Lib

/-- `SHMALLOC_ALIGN`. -/
def shmallocAlign : Nat := 64

/-- `ALIGN_UP(x, SHMALLOC_ALIGN)` on a 64-bit value. -/
def alignUp (x : Nat) : Nat :=
  (x + (shmallocAlign - 1)) % 18446744073709551616 / shmallocAlign * shmallocAlign

/-- `struct shm_allocator`: the free blocks, in list order. -/
structure ShmAllocator where
  freelist : List Region

/-- `shmalloc_init`. -/
def shmallocInit (len : Nat) : ShmAllocator := { freelist := [⟨0, len⟩] }

/-- The search loop of `shmalloc_alloc`: the free list without what was
taken, and the block handed out. -/
def allocLoop (heapOk : Bool) (length : Nat) :
    List Region → Option (List Region × Region)
  | [] => none
  | sh :: rest =>
    let alignedOff := alignUp sh.off
    let prefixLen := alignedOff - sh.off
    if alignedOff < sh.off ∨ prefixLen > sh.len ∨ (prefixLen + length) % 18446744073709551616 > sh.len then
      (allocLoop heapOk length rest).map fun r => (sh :: r.1, r.2)
    else
      let suffixLen := sh.len - prefixLen - length
      if prefixLen = 0 ∧ suffixLen = 0 then
        -- exact fit, remove from freelist
        some (rest, sh)
      else if !heapOk then none
      else
        let new : Region := ⟨alignedOff, length⟩
        if prefixLen = 0 then
          some (⟨alignedOff + length, suffixLen⟩ :: rest, new)
        else if suffixLen > 0 then
          some (⟨sh.off, prefixLen⟩ :: ⟨alignedOff + length, suffixLen⟩ :: rest, new)
        else
          some (⟨sh.off, prefixLen⟩ :: rest, new)

/-- `shmalloc_alloc`. -/
def shmallocAlloc (heapOk : Bool) (alloc : ShmAllocator) (length : Nat) :
    Option (ShmAllocator × Region) :=
  (allocLoop heapOk (alignUp length) alloc.freelist).map fun r => ({ freelist := r.1 }, r.2)

/-- `merge_items` on the list from the inserted block on: join it with its
successor when they touch. -/
def mergeSucc : List Region → List Region
  | sh :: next :: rest =>
    if (sh.off + sh.len) % 18446744073709551616 = next.off then ⟨sh.off, sh.len + next.len⟩ :: rest
    else sh :: next :: rest
  | l => l

/-- `merge_items` on the list from the predecessor on. -/
def mergeItems : List Region → List Region
  | prev :: sh :: rest =>
    if (prev.off + prev.len) % 18446744073709551616 = sh.off then mergeSucc (⟨prev.off, prev.len + sh.len⟩ :: rest)
    else prev :: mergeSucc (sh :: rest)
  | l => l

/-- The insertion loop of `shmalloc_free` behind the predecessor `prev`. The
loop looks one block ahead, so the block goes in behind the last block it
stepped over and in front of the block it stopped at. -/
def freeBehind (handle prev : Region) : List Region → List Region
  | sh :: next :: rest =>
    if next.off < handle.off then prev :: freeBehind handle sh (next :: rest)
    else mergeItems (prev :: handle :: sh :: next :: rest)
  | l => mergeItems (prev :: handle :: l)

/-- `shmalloc_free`. -/
def shmallocFree (alloc : ShmAllocator) (handle : Region) : ShmAllocator :=
  match alloc.freelist with
  | sh :: next :: rest =>
    if next.off < handle.off then { freelist := freeBehind handle sh (next :: rest) }
    else { freelist := mergeSucc (handle :: sh :: next :: rest) }
  | l => { freelist := mergeSucc (handle :: l) }

/-! ## What an allocation takes and leaves -/

theorem alignUp_dvd (x : Nat) : alignUp x % 64 = 0 := by
  unfold alignUp shmallocAlign
  omega

theorem alignUp_lt (x : Nat) : alignUp x + 64 ≤ 18446744073709551616 := by
  unfold alignUp shmallocAlign
  omega

/-- Rounding up either moves by less than 64 or wraps to zero. -/
theorem alignUp_cases {x : Nat} (hx : x < 18446744073709551616) :
    (x ≤ alignUp x ∧ alignUp x < x + 64) ∨ alignUp x = 0 ∧ 18446744073709551616 < x + 64 := by
  unfold alignUp shmallocAlign
  omega

theorem alignUp_of_le {x : Nat} (hx : x + 63 < 18446744073709551616) : x ≤ alignUp x := by
  unfold alignUp shmallocAlign
  omega

/-- A block that passes the two size checks of the loop has room for the
aligned allocation: neither `ALIGN_UP(sh->off)` nor the sum wrapped. -/
theorem fits_of_checks {length : Nat} (hal : length + 64 ≤ 18446744073709551616) {sh : Region}
    (hoff : sh.off < 18446744073709551616)
    (h : ¬ (alignUp sh.off < sh.off ∨ alignUp sh.off - sh.off > sh.len ∨
      (alignUp sh.off - sh.off + length) % 18446744073709551616 > sh.len)) :
    sh.off ≤ alignUp sh.off ∧ alignUp sh.off - sh.off + length ≤ sh.len := by
  rcases alignUp_cases hoff with hc | hc <;> omega

/-- The block `sh` as the part in front of an aligned allocation, the
allocation and the part behind it. -/
theorem hits_cut_three {sh : Region} {a length : Nat} (hlo : sh.off ≤ a)
    (hroom : a - sh.off + length ≤ sh.len) (x : Nat) :
    sh.hits x = Region.hits ⟨sh.off, a - sh.off⟩ x + Region.hits ⟨a, length⟩ x +
      Region.hits ⟨a + length, sh.len - (a - sh.off) - length⟩ x := by
  have h₁ : sh.hits x = Region.hits ⟨sh.off, a - sh.off⟩ x +
      Region.hits ⟨sh.off + (a - sh.off), sh.len - (a - sh.off)⟩ x :=
    Region.hits_cut (by omega) x
  have h₂ : Region.hits ⟨a, sh.len - (a - sh.off)⟩ x = Region.hits ⟨a, length⟩ x +
      Region.hits ⟨a + length, sh.len - (a - sh.off) - length⟩ x :=
    Region.hits_cut (by omega) x
  rw [show sh.off + (a - sh.off) = a by omega] at h₁
  omega

theorem hits_empty (off x : Nat) : Region.hits ⟨off, 0⟩ x = 0 := by
  unfold Region.hits
  rw [if_neg (by dsimp only; omega)]

/-- The free list with the block `r` taken out of it: nothing else changes
hands, and everything stays below `len`. -/
structure Taken (len : Nat) (l l' : List Region) (r : Region) : Prop where
  cover : ∀ x, Region.cover l' x + r.hits x = Region.cover l x
  free : ∀ b ∈ l', b.off + b.len ≤ len
  block : r.off + r.len ≤ len

/-- What the loop takes out of the free list is exactly the block it hands
out, and that block has the requested length. -/
theorem allocLoop_spec {heapOk : Bool} {length : Nat} (hal : length + 64 ≤ 18446744073709551616)
    {len : Nat} (hlen : len < 18446744073709551616) {l l' : List Region} {r : Region}
    (hin : ∀ b ∈ l, b.off + b.len ≤ len) (h : allocLoop heapOk length l = some (l', r)) :
    r.len = length ∧ Taken len l l' r := by
  induction l generalizing l' with
  | nil => cases h
  | cons sh rest ih =>
    have hsh := hin sh List.mem_cons_self
    have hrest : ∀ b ∈ rest, b.off + b.len ≤ len := fun b hb => hin b (List.mem_cons_of_mem _ hb)
    rw [allocLoop] at h
    simp only at h
    split at h
    · -- the block does not fit: the search goes on behind it
      cases hrec : allocLoop heapOk length rest with
      | none => rw [hrec] at h; cases h
      | some res =>
        rw [hrec] at h
        obtain ⟨rfl, rfl⟩ : sh :: res.1 = l' ∧ res.2 = r := by simpa using h
        obtain ⟨hl, ht⟩ := ih hrest hrec
        refine ⟨hl, fun x => ?_, ?_, ht.block⟩
        · have := ht.cover x
          rw [Region.cover_cons, Region.cover_cons]
          omega
        · exact List.forall_mem_cons.mpr ⟨hsh, ht.free⟩
    · next hfit =>
      obtain ⟨hlo, hroom⟩ := fits_of_checks hal (by omega) hfit
      have hcut := hits_cut_three hlo hroom
      generalize alignUp sh.off = a at h hlo hroom hcut
      -- each way to cut the block is a partition of it
      split at h
      · next hex =>
        cases h
        refine ⟨by omega, fun x => ?_, hrest, hsh⟩
        rw [Region.cover_cons]
        omega
      · split at h
        · cases h
        · split at h
          · next hp =>
            cases h
            refine ⟨rfl, fun x => ?_, ?_, by dsimp only; omega⟩
            · have := hcut x
              rw [hp, hits_empty] at this
              rw [Region.cover_cons, Region.cover_cons, this, hp]
              omega
            · exact List.forall_mem_cons.mpr ⟨by dsimp only; omega, hrest⟩
          · split at h
            · cases h
              refine ⟨rfl, fun x => ?_, ?_, by dsimp only; omega⟩
              · have := hcut x
                simp only [Region.cover_cons]
                omega
              · refine List.forall_mem_cons.mpr ⟨by dsimp only; omega, ?_⟩
                exact List.forall_mem_cons.mpr ⟨by dsimp only; omega, hrest⟩
            · next hs =>
              cases h
              refine ⟨rfl, fun x => ?_, ?_, by dsimp only; omega⟩
              · have := hcut x
                rw [show sh.len - (a - sh.off) - length = 0 by omega, hits_empty] at this
                simp only [Region.cover_cons]
                omega
              · exact List.forall_mem_cons.mpr ⟨by dsimp only; omega, hrest⟩

/-- **The allocator's invariant**: the free blocks and the blocks handed out
(`taken`) lie below `len` and cover no byte twice. -/
structure AllocInv (len : Nat) (alloc : ShmAllocator) (taken : List Region) : Prop where
  cover : ∀ x, Region.cover alloc.freelist x + Region.cover taken x ≤ 1
  free : ∀ b ∈ alloc.freelist, b.off + b.len ≤ len
  block : ∀ b ∈ taken, b.off + b.len ≤ len

theorem shmallocInit_inv (len : Nat) : AllocInv len (shmallocInit len) [] := by
  refine ⟨fun x => ?_, ?_, by simp⟩
  · simp only [shmallocInit, Region.cover_cons, Region.cover_nil, Region.hits]
    split <;> omega
  · intro b hb
    simp only [shmallocInit, List.mem_singleton] at hb
    rw [hb]
    dsimp only
    omega

/-- An allocation moves one block of the aligned length from the free list
to the blocks handed out. -/
theorem shmallocAlloc_inv {heapOk : Bool} {len length : Nat} {alloc alloc' : ShmAllocator}
    {taken : List Region} {sh : Region} (hlen : len < 18446744073709551616) (hinv : AllocInv len alloc taken)
    (h : shmallocAlloc heapOk alloc length = some (alloc', sh)) :
    sh.len = alignUp length ∧ AllocInv len alloc' (sh :: taken) := by
  unfold shmallocAlloc at h
  cases hl : allocLoop heapOk (alignUp length) alloc.freelist with
  | none => rw [hl] at h; cases h
  | some res =>
    rw [hl] at h
    obtain ⟨rfl, rfl⟩ : { freelist := res.1 } = alloc' ∧ res.2 = sh := by simpa using h
    obtain ⟨hsz, ht⟩ := allocLoop_spec (alignUp_lt length) hlen hinv.free hl
    refine ⟨hsz, fun x => ?_, ht.free, List.forall_mem_cons.mpr ⟨ht.block, hinv.block⟩⟩
    have h₁ := ht.cover x
    have h₂ := hinv.cover x
    rw [Region.cover_cons]
    dsimp only at h₁ ⊢
    omega

/-- The blocks handed out are pairwise disjoint. -/
theorem AllocInv.disjoint {len : Nat} {alloc : ShmAllocator} {taken : List Region}
    (h : AllocInv len alloc taken) : taken.Pairwise Region.Disjoint := by
  apply Region.pairwise_of_cover
  intro x
  have := h.cover x
  omega

theorem AllocInv.confined {len : Nat} {alloc : ShmAllocator} {l : List Region}
    (h : AllocInv len alloc l) : Region.Confined len l :=
  ⟨h.block, h.disjoint⟩

/-- A block handed out may be used in part, and added at the end. -/
theorem AllocInv.use {len : Nat} {alloc : ShmAllocator} {l : List Region} {sh r : Region}
    (h : AllocInv len alloc (sh :: l)) (hoff : r.off = sh.off) (hr : r.len ≤ sh.len) :
    AllocInv len alloc (l ++ [r]) := by
  refine ⟨fun x => ?_, h.free, ?_⟩
  · have hcov := h.cover x
    have hle : r.hits x ≤ sh.hits x := by
      unfold Region.hits
      rw [hoff]
      by_cases hx : sh.off ≤ x ∧ x < sh.off + r.len
      · have hx' : sh.off ≤ x ∧ x < sh.off + sh.len := by omega
        simp only [if_pos hx, if_pos hx', Nat.le_refl]
      · simp only [if_neg hx, Nat.zero_le]
    rw [Region.cover_append, Region.cover_cons, Region.cover_nil]
    rw [Region.cover_cons] at hcov
    omega
  · intro b hb
    rcases List.mem_append.mp hb with hb | hb
    · exact h.block b (List.mem_cons_of_mem _ hb)
    · have := h.block sh List.mem_cons_self
      rw [List.mem_singleton.mp hb]
      omega

theorem AllocInv.forget {len : Nat} {alloc : ShmAllocator} {l : List Region} {sh : Region}
    (h : AllocInv len alloc (sh :: l)) : AllocInv len alloc l := by
  refine ⟨fun x => ?_, h.free, fun b hb => h.block b (List.mem_cons_of_mem _ hb)⟩
  have := h.cover x
  rw [Region.cover_cons] at this
  omega

/-! ## What a free gives back -/

/-- A free list that covers the same bytes and stays below `len`. -/
structure SameFree (len : Nat) (l l' : List Region) : Prop where
  cover : ∀ x, Region.cover l' x = Region.cover l x
  free : ∀ b ∈ l', b.off + b.len ≤ len

/-- Two blocks that touch are one. -/
theorem hits_join (sh next : Region) (h : sh.off + sh.len = next.off) (x : Nat) :
    Region.hits ⟨sh.off, sh.len + next.len⟩ x = sh.hits x + next.hits x := by
  have hcut : Region.hits ⟨sh.off, sh.len + next.len⟩ x = sh.hits x +
      Region.hits ⟨sh.off + sh.len, sh.len + next.len - sh.len⟩ x :=
    Region.hits_cut (by omega) x
  rw [show sh.len + next.len - sh.len = next.len by omega, h] at hcut
  exact hcut

theorem mergeSucc_same {len : Nat} (hlen : len < 18446744073709551616) {l : List Region}
    (hin : ∀ b ∈ l, b.off + b.len ≤ len) : SameFree len l (mergeSucc l) := by
  unfold mergeSucc
  split
  · next sh next rest =>
    have hsh := hin sh (by simp)
    have hnext := hin next (by simp)
    split
    · next htouch =>
      have htouch' : sh.off + sh.len = next.off := by omega
      refine ⟨fun x => ?_, ?_⟩
      · simp only [Region.cover_cons, hits_join sh next htouch' x]
        omega
      · refine List.forall_mem_cons.mpr ⟨by dsimp only; omega, fun b hb => hin b ?_⟩
        simp [hb]
    · exact ⟨fun x => rfl, hin⟩
  · exact ⟨fun x => rfl, hin⟩

theorem mergeItems_same {len : Nat} (hlen : len < 18446744073709551616) {l : List Region}
    (hin : ∀ b ∈ l, b.off + b.len ≤ len) : SameFree len l (mergeItems l) := by
  unfold mergeItems
  split
  · next prev sh rest =>
    have hprev := hin prev (by simp)
    have hsh := hin sh (by simp)
    split
    · next htouch =>
      have htouch' : prev.off + prev.len = sh.off := by omega
      have hjoin : ∀ b ∈ (⟨prev.off, prev.len + sh.len⟩ :: rest : List Region),
          b.off + b.len ≤ len := by
        refine List.forall_mem_cons.mpr ⟨by dsimp only; omega, fun b hb => hin b ?_⟩
        simp [hb]
      have hm := mergeSucc_same hlen hjoin
      refine ⟨fun x => ?_, hm.free⟩
      rw [hm.cover]
      simp only [Region.cover_cons, hits_join prev sh htouch' x]
      omega
    · have hm := mergeSucc_same hlen fun b hb => hin b (List.mem_cons_of_mem prev hb)
      refine ⟨fun x => ?_, List.forall_mem_cons.mpr ⟨hprev, hm.free⟩⟩
      rw [Region.cover_cons, Region.cover_cons, hm.cover]
  · exact ⟨fun x => rfl, hin⟩

/-- The insertion loop adds the block, wherever it puts it. -/
theorem freeBehind_same {len : Nat} (hlen : len < 18446744073709551616) {handle : Region}
    (hh : handle.off + handle.len ≤ len) {prev : Region} {l : List Region}
    (hin : ∀ b ∈ prev :: l, b.off + b.len ≤ len) :
    SameFree len (handle :: prev :: l) (freeBehind handle prev l) := by
  have hall : ∀ {p : Region} {l : List Region}, (∀ b ∈ p :: l, b.off + b.len ≤ len) →
      SameFree len (handle :: p :: l) (mergeItems (p :: handle :: l)) := by
    intro p l hpl
    have hm := mergeItems_same hlen (l := p :: handle :: l) fun b hb => by
      rcases List.mem_cons.mp hb with rfl | hb
      · exact hpl _ List.mem_cons_self
      · rcases List.mem_cons.mp hb with rfl | hb
        · exact hh
        · exact hpl b (List.mem_cons_of_mem p hb)
    refine ⟨fun x => ?_, hm.free⟩
    rw [hm.cover]
    simp only [Region.cover_cons]
    omega
  induction l generalizing prev with
  | nil => exact hall hin
  | cons sh rest ih =>
    cases rest with
    | nil => exact hall hin
    | cons next rest =>
      rw [freeBehind]
      split
      · -- one block further, `prev` stays in front
        have hrec := ih fun b hb => hin b (List.mem_cons_of_mem prev hb)
        refine ⟨fun x => ?_, List.forall_mem_cons.mpr ⟨hin prev List.mem_cons_self, hrec.free⟩⟩
        rw [Region.cover_cons, hrec.cover]
        simp only [Region.cover_cons]
        omega
      · exact hall hin

/-- A free adds the block to the free list, wherever it puts it. -/
theorem shmallocFree_same {len : Nat} {alloc : ShmAllocator} {sh : Region}
    (hlen : len < 18446744073709551616) (hsh : sh.off + sh.len ≤ len)
    (hfree : ∀ b ∈ alloc.freelist, b.off + b.len ≤ len) :
    SameFree len (sh :: alloc.freelist) (shmallocFree alloc sh).freelist := by
  have hall : ∀ b ∈ sh :: alloc.freelist, b.off + b.len ≤ len :=
    List.forall_mem_cons.mpr ⟨hsh, hfree⟩
  unfold shmallocFree
  split
  · next s₁ s₂ rest hl =>
    rw [hl] at hall ⊢
    split
    · exact freeBehind_same hlen hsh fun b hb => hall b (List.mem_cons_of_mem sh hb)
    · exact mergeSucc_same hlen hall
  · exact mergeSucc_same hlen hall

/-- A block handed out that is given back is free again, and no other byte
changes hands. -/
theorem shmallocFree_inv {len : Nat} {alloc : ShmAllocator} {taken : List Region} {sh : Region}
    (hlen : len < 18446744073709551616) (hinv : AllocInv len alloc (sh :: taken)) :
    AllocInv len (shmallocFree alloc sh) taken := by
  have hsame := shmallocFree_same hlen (hinv.block sh List.mem_cons_self) hinv.free
  refine ⟨fun x => ?_, hsame.free, fun b hb => hinv.block b (List.mem_cons_of_mem sh hb)⟩
  have hcov := hinv.cover x
  rw [hsame.cover, Region.cover_cons]
  rw [Region.cover_cons] at hcov
  omega

end Chamelio.Util
