import Chamelio.Control.GuestSpec

/-!
# The memory a guest registers

The fast path indexes a queue or a map with `nelems` and `elsize`
separately, so what a request registers is the region of the full product
behind the offset it was given. The control path sizes the block it
allocates from a product in the request's own width. As long as the block
covers the region, the allocator's invariant carries over to the regions:
they lie inside the guest's shared memory and share no byte, neither among
each other nor with the two rings. A product that wraps breaks it.
-/

namespace Chamelio.Control

open Chamelio.Lib Chamelio.Util Chamelio.Fast

/-! ## The rings of a guest -/

theorem acceptRings_inv {config : Configuration} {heapOk : Bool} {alloc : ShmAllocator}
    {r₁ r₂ : Region} (hlen : config.shmLen < 18446744073709551616)
    (h : acceptRings config heapOk = some (alloc, r₁, r₂)) :
    AllocInv config.shmLen alloc [r₁, r₂] := by
  unfold acceptRings at h
  dsimp only at h
  split at h
  · cases h
  · next a₁ s₁ h₁ =>
    split at h
    · cases h
    · next a₂ s₂ h₂ =>
      split at h
      · cases h
        have hinv₁ := (shmallocAlloc_inv hlen (shmallocInit_inv _) h₁).2
        have hinv₂ := (shmallocAlloc_inv hlen hinv₁ h₂).2
        refine ⟨fun x => ?_, hinv₂.free, fun b hb => hinv₂.block b ?_⟩
        · have := hinv₂.cover x
          simp only [Region.cover_cons, Region.cover_nil] at this ⊢
          omega
        · simp only [List.mem_cons, List.not_mem_nil, or_false] at hb ⊢
          exact hb.symm
      · cases h

/-! ## What is registered -/

/-- The region a message registers for the guest `gid`, without wrap-around. -/
def registeredRegion (gid : Nat) : FastMsg → Option Region
  | .newQueue g _ _ nelems elsize off => if g = gid then some ⟨off, nelems * elsize⟩ else none
  | .newMap g _ _ nelems elsize off => if g = gid then some ⟨off, nelems * elsize⟩ else none
  | _ => none

/-- All regions registered for the guest `gid` on core `i`. -/
def registered (s : Sys) (gid i : Nat) : List Region :=
  (s.sent i).filterMap (registeredRegion gid)

/-! ## The condition on the requests -/

/-- The block a request gets covers the region it registers. The sizes are
products in the request's own width: 64 bits for a queue, whose element size
is then stored in 32 bits, and 32 bits for a map. -/
def Covered (t : UInt8) (d : Nat → UInt8) : Prop :=
  (QueueType.ofByte? t = some .newQueueReq →
    NewQueueReq.nelems d * (NewQueueReq.elsize d % 4294967296) ≤ alignUp (newQueueSize d)) ∧
  (QueueType.ofByte? t = some .newMapReq →
    NewMapReq.nelems d * NewMapReq.elsize d ≤ alignUp (newMapSize d))

/-- No memory is given back, and every request of guest `gi` is covered. -/
def CoveredStep (gi : Nat) (s : Sys) (a : Act) : Prop :=
  ∀ t d, s.handles a = some (gi, t, d) →
    QueueType.ofByte? t ≠ some .freeEbpfReq ∧ Covered t d

/-! ## The invariant -/

/-- The regions registered on any core, and the two rings, are blocks of the
guest's allocator; other guests have other ids. -/
structure RegionInv (gi : Nat) (rings : List Region) (cfg : Configuration) (s : Sys) :
    Prop where
  config : s.ctx.config = cfg
  id : ∀ j, j ≠ gi → (s.ctx.guests j).id ≠ (s.ctx.guests gi).id
  alloc : ∀ i, AllocInv cfg.shmLen (s.ctx.guests gi).alloc
    (rings ++ registered s (s.ctx.guests gi).id i)

/-- Steps that leave the guest alone and send nothing about it. -/
theorem RegionInv.frame {gi : Nat} {rings : List Region} {config : Configuration} {s s' : Sys}
    (h : RegionInv gi rings config s) (hc : s'.ctx.config = s.ctx.config)
    (hid : ∀ j, (s'.ctx.guests j).id = (s.ctx.guests j).id)
    (hal : (s'.ctx.guests gi).alloc = (s.ctx.guests gi).alloc)
    (hreg : ∀ i, registered s' (s.ctx.guests gi).id i = registered s (s.ctx.guests gi).id i) :
    RegionInv gi rings config s' := by
  refine ⟨by rw [hc, h.config], fun j hj => ?_, fun i => ?_⟩
  · rw [hid, hid]
    exact h.id j hj
  · rw [hid, hal, hreg]
    exact h.alloc i

theorem registered_append {s s' : Sys} {gid i : Nat} {ms : List FastMsg}
    (h : s'.sent i = s.sent i ++ ms) :
    registered s' gid i = registered s gid i ++ ms.filterMap (registeredRegion gid) := by
  unfold registered
  rw [h, List.filterMap_append]

/-- An entry of another guest registers nothing for this one. -/
theorem Effect.other_registers {ctx : ControlCtx} {g : GuestControl} {t : UInt8}
    {d : Nat → UInt8} {ms : Nat → List FastMsg} {p : ProtoControl} {al : ShmAllocator}
    (h : Effect ctx g t d ms p al) {gid : Nat} (hid : g.id ≠ gid) (i : Nat) :
    (ms i).filterMap (registeredRegion gid) = [] := by
  cases h with
  | nothing | proto | queueRefused | ebpfAllocate | ebpfFree => rfl
  | queue | map =>
    dsimp only
    split
    · simp [registeredRegion, newQueueMsg, newMapMsg, hid]
    · rfl
  | enable | disable =>
    dsimp only
    split
    · simp [registeredRegion, enableqMsg]
    · rfl
  | upload _ hms =>
    rw [List.filterMap_eq_nil_iff]
    intro m hm
    rw [hms i m hm]
    rfl

/-- The allocator after an entry of the guest itself, with the region the
entry registers on core `i`. -/
theorem Effect.registers {config : Configuration} {ctx : ControlCtx} {g : GuestControl}
    {t : UInt8} {d : Nat → UInt8} {ms : Nat → List FastMsg} {p : ProtoControl}
    {al : ShmAllocator} (h : Effect ctx g t d ms p al) (hlen : config.shmLen < 18446744073709551616)
    (hfree : QueueType.ofByte? t ≠ some .freeEbpfReq) (hcov : Covered t d) {l : List Region}
    (i : Nat) (hinv : AllocInv config.shmLen g.alloc l) :
    AllocInv config.shmLen al (l ++ (ms i).filterMap (registeredRegion g.id)) := by
  have hsame : AllocInv config.shmLen g.alloc (l ++ []) := by rwa [List.append_nil]
  cases h with
  | nothing | proto | queueRefused => exact hsame
  | ebpfFree ht => exact absurd ht hfree
  | @queue ht alloc sh hg =>
    unfold queueGrant at hg
    split at hg
    · cases hg
    · obtain ⟨hsz, hal⟩ := shmallocAlloc_inv hlen hinv hg
      dsimp only
      split
      · have hblock := hal.block sh List.mem_cons_self
        have hreg : [newQueueMsg g (newQueueEntry g.proto.nqueues d sh)].filterMap
            (registeredRegion g.id) =
            [⟨sh.off, NewQueueReq.nelems d * (NewQueueReq.elsize d % 4294967296)⟩] := by
          simp only [newQueueMsg, newQueueEntry, List.filterMap_cons, registeredRegion, if_true,
            List.filterMap_nil]
          rw [Nat.mod_eq_of_lt (show sh.off < 18446744073709551616 by omega)]
        rw [hreg]
        exact hal.use rfl (by rw [hsz]; exact hcov.1 ht)
      · rw [List.filterMap_nil, List.append_nil]
        exact hal.forget
  | @map ht alloc sh hg =>
    unfold mapGrant at hg
    split at hg
    · cases hg
    · obtain ⟨hsz, hal⟩ := shmallocAlloc_inv hlen hinv hg
      dsimp only
      split
      · have hblock := hal.block sh List.mem_cons_self
        have hreg : [newMapMsg g g.proto.nmaps d sh].filterMap (registeredRegion g.id) =
            [⟨sh.off, NewMapReq.nelems d * NewMapReq.elsize d⟩] := by
          simp only [newMapMsg, List.filterMap_cons, registeredRegion, if_true,
            List.filterMap_nil]
          rw [Nat.mod_eq_of_lt (show sh.off < 18446744073709551616 by omega)]
        rw [hreg]
        exact hal.use rfl (by rw [hsz]; exact hcov.2 ht)
      · rw [List.filterMap_nil, List.append_nil]
        exact hal.forget
  | enable | disable =>
    have hnil : ∀ m : FastMsg, registeredRegion g.id m = none → ∀ c : Prop, ∀ _ : Decidable c,
        (if c then [m] else []).filterMap (registeredRegion g.id) = [] := by
      intro m hm c _
      split
      · simp [hm]
      · rfl
    rw [hnil _ rfl]
    exact hsame
  | ebpfAllocate ht hg =>
    rw [List.filterMap_nil, List.append_nil]
    exact (shmallocAlloc_inv hlen hinv hg).2.forget
  | upload _ hms =>
    have hnil : (ms i).filterMap (registeredRegion g.id) = [] := by
      rw [List.filterMap_eq_nil_iff]
      intro m hm
      rw [hms i m hm]
      rfl
    rw [hnil]
    exact hsame

/-- One step keeps the invariant. -/
theorem RegionInv.step {gi : Nat} {rings : List Region} {config : Configuration} {s : Sys}
    {a : Act} (hlen : config.shmLen < 18446744073709551616) (h : RegionInv gi rings config s)
    (hok : CoveredStep gi s a) : RegionInv gi rings config (s.step a).1 := by
  rcases s.step_cases a with hq | ⟨i, m, hd⟩ | ⟨i, ho⟩ | ⟨gj, t, d, ms, he, hh⟩
  · refine h.frame hq.config (fun j => (hq.guest j).id) (hq.guest gi).alloc fun i => ?_
    unfold registered
    rw [hq.sent]
  · refine h.frame hd.config (fun j => (hd.guest j).id) (hd.guest gi).alloc fun i => ?_
    unfold registered
    rw [hd.sent]
  · refine h.frame ho.config (fun j => (ho.guest j).id) (ho.guest gi).alloc fun j => ?_
    rw [registered_append (ho.sent j)]
    split <;> simp [registeredRegion]
  · by_cases hj : gj = gi
    · subst hj
      obtain ⟨hfree, hcov⟩ := hok t d he
      refine ⟨by rw [hh.config, h.config], fun j hj => ?_, fun i => ?_⟩
      · rw [(hh.guest j hj).id, hh.id]
        exact h.id j hj
      · rw [hh.id, registered_append (hh.sent i), ← List.append_assoc]
        exact hh.effect.registers hlen hfree hcov i (h.alloc i)
    · refine h.frame hh.config (fun j => ?_) (hh.guest gi (Ne.symm hj)).alloc fun i => ?_
      · by_cases hjj : j = gj
        · rw [hjj, hh.id]
        · exact (hh.guest j hjj).id
      · rw [registered_append (hh.sent i), hh.effect.other_registers (h.id gj hj), List.append_nil]

/-- **Registered memory is confined.** Once guest `gi` has its rings, in every
run in which the blocks of its requests cover what they register, the
regions registered for it on any core and its two rings lie inside its
shared memory and are pairwise disjoint, whatever the other guests do. -/
theorem registered_regions_confined {gi : Nat} {s₀ s : Sys} {heapOk : Bool} {r₁ r₂ : Region}
    {log : List Unit} (hlen : s₀.ctx.config.shmLen < 18446744073709551616)
    (hrings : acceptRings s₀.ctx.config heapOk = some ((s₀.ctx.guests gi).alloc, r₁, r₂))
    (hnew : ∀ i, registered s₀ (s₀.ctx.guests gi).id i = [])
    (hid : ∀ j, j ≠ gi → (s₀.ctx.guests j).id ≠ (s₀.ctx.guests gi).id)
    (hrun : Run (CoveredStep gi) Sys.step s₀ log s) (i : Nat) :
    Region.Confined s₀.ctx.config.shmLen
      (r₁ :: r₂ :: registered s (s.ctx.guests gi).id i) := by
  have hinv : RegionInv gi [r₁, r₂] s₀.ctx.config s := by
    refine hrun.inv (I := fun _ s => RegionInv gi [r₁, r₂] s₀.ctx.config s) ⟨rfl, hid, ?_⟩ ?_
    · intro i
      rw [hnew, List.append_nil]
      exact acceptRings_inv hlen hrings
    · intro _ s a h hok
      exact h.step hlen hok
  exact (hinv.alloc i).confined

/-- A queue of four 64-byte elements. -/
theorem registered_regions_confined_queue :
    Region.Confined 65536 (⟨0, 512⟩ :: ⟨512, 512⟩ :: registered (smallSys.exec
      [.post 0 QueueType.newQueueReq.toByte (newQueueReqFill 4 64 0 fun _ => 0), .control,
        .control]) 0 0) := by
  have h₁ : Run (CoveredStep 0) Sys.step smallSys _ _ :=
    Run.snoc (a := .post 0 QueueType.newQueueReq.toByte (newQueueReqFill 4 64 0 fun _ => 0))
      Run.nil (fun t d h => by cases h)
  have h₂ := Run.snoc (a := .control) h₁ (fun t d h => by cases h)
  have hrun := Run.snoc (a := .control) h₂ (fun t d h => by
    cases h
    exact ⟨by decide, by decide +kernel, by decide⟩)
  have hid : ∀ j, j ≠ 0 → (smallSys.ctx.guests j).id ≠ (smallSys.ctx.guests 0).id := by
    intro j hj
    exact hj
  exact @registered_regions_confined 0 smallSys _ true _ _ _ (by decide) rfl (fun i => rfl) hid
    hrun 0

/-- A map of 2^16 elements of 2^16 bytes: its size wraps to zero, so it gets
an empty block and registers four gigabytes behind it. -/
theorem map_size_wraps :
    acceptRings smallSys.ctx.config true =
      some ((smallSys.ctx.guests 0).alloc, ⟨0, 512⟩, ⟨512, 512⟩) ∧
    ¬ Region.Confined 65536 (⟨0, 512⟩ :: ⟨512, 512⟩ :: registered (smallSys.exec
      [.post 0 QueueType.newMapReq.toByte (newMapReqFill 65536 65536 0 fun _ => 0), .control,
        .control]) 0 0) := by
  refine ⟨rfl, fun h => ?_⟩
  have hin := h.inside ⟨1024, 65536 * 65536⟩ (by decide +kernel)
  exact absurd hin (by decide)

end Chamelio.Control
