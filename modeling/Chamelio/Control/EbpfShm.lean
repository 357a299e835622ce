import Chamelio.Control.Regions

/-!
# Ownership of the eBPF buffer

`g->ebpf_shm_handle` is set by an allocation and read by `control_ebpf_free`,
which puts the block it points to on the free list and leaves the pointer as
it is. An upload carries an offset and a size of its own and reads the bytes
there. Nothing checks that a free follows an allocation or that the offset
belongs to a block of the guest, so both are up to the guest: the results
below hold for the sequences of messages that keep to it.

Mirroring notes: `Owned` is the history of one guest. A handler reads its
message only after the assertion on the answer ring.
-/

namespace Chamelio.Control

open Chamelio.Lib Chamelio.Util Chamelio.Fast

def UpEbpfReq.size (d : Nat → UInt8) : Nat := leGet d 2 4
def UpEbpfReq.off (d : Nat → UInt8) : Nat := leGet d 6 8

/-- The bytes `bpf_object__open_mem` reads. -/
def UpEbpfReq.bytes (d : Nat → UInt8) : Region := ⟨UpEbpfReq.off d, UpEbpfReq.size d⟩

/-! ## The history of a guest -/

structure Owned where
  /-- `g->ebpf_shm_handle`. -/
  handle : Option Region
  /-- The blocks of the rings, queues and maps. -/
  others : List Region
  /-- The eBPF blocks that were not given back, the last one first. -/
  ebpf : List Region
  /-- Offset and size of these blocks as the answers gave them. -/
  told : List Region
  /-- A block was granted since the last `FREE_EBPF`. -/
  fresh : Bool

namespace Owned

/-- A guest with its two rings. -/
def start (rings : List Region) : Owned :=
  { handle := none, others := rings, ebpf := [], told := [], fresh := false }

def takeOther (o : Owned) (grant : Option (ShmAllocator × Region)) : Owned :=
  match grant with
  | some (_, sh) => { o with others := sh :: o.others }
  | none => o

def takeEbpf (o : Owned) (size : Nat) (grant : Option (ShmAllocator × Region)) : Owned :=
  match grant with
  | some (_, sh) =>
    { o with handle := some sh, ebpf := sh :: o.ebpf, told := ⟨sh.off, size⟩ :: o.told
             fresh := true }
  | none => o

/-- A `FREE_EBPF` gives the last block back, once. -/
def giveBack (o : Owned) : Owned :=
  if o.fresh then { o with ebpf := o.ebpf.tail, told := o.told.tail, fresh := false } else o

/-- The history after a message. -/
def after (o : Owned) (ctx : ControlCtx) (g : GuestControl) (t : UInt8) (d : Nat → UInt8) :
    Owned :=
  match QueueType.ofByte? t with
  | some .newQueueReq => o.takeOther (queueGrant ctx g d)
  | some .newMapReq => o.takeOther (mapGrant ctx g d)
  | some .allocateEbpfReq =>
    o.takeEbpf (AllocEbpfReq.size d) (shmallocAlloc ctx.heapOk g.alloc (AllocEbpfReq.size d))
  | some .freeEbpfReq => o.giveBack
  | _ => o

end Owned

/-! ## What the messages do to memory -/

inductive EbpfUse
  /-- `shmalloc_free` puts the block behind the pointer on the free list. -/
  | put (handle : Option Region) (ebpf : List Region)
  /-- An upload reads these bytes. -/
  | read (bytes : Region) (ebpf : List Region)
  | other
  deriving DecidableEq

/-- A block is put on the free list only while it is a live eBPF block, and
only bytes of such a block are read. -/
def EbpfUse.Good : EbpfUse → Prop
  | .put handle ebpf => ∃ b, handle = some b ∧ b ∈ ebpf
  | .read bytes ebpf => bytes.len = 0 ∨ ∃ b ∈ ebpf, bytes.Sub b
  | .other => True

/-- The use a message makes of the guest's memory. -/
def ebpfUse (o : Owned) (ctx : ControlCtx) (g : GuestControl) (t : UInt8) (d : Nat → UInt8) :
    EbpfUse :=
  if !g.chamGuestQ.hasRoom then .other
  else
    match QueueType.ofByte? t with
    | some .freeEbpfReq => .put o.handle o.ebpf
    | some .uploadEbpfReq =>
      if ctx.config.fpProtoMode = .ebpf then .read (UpEbpfReq.bytes d) o.ebpf else .other
    | _ => .other

/-- The system with the history of guest `gi`. -/
structure OwnSys where
  sys : Sys
  owned : Owned

def OwnSys.step (gi : Nat) (s : OwnSys) (a : Act) : OwnSys × EbpfUse :=
  let g := s.sys.ctx.guests gi
  match s.sys.handles a with
  | some (gj, t, d) =>
    if gj = gi then
      ({ sys := (s.sys.step a).1
         owned := if (s.sys.step a).1.down.isSome then s.owned
          else s.owned.after s.sys.ctx g t d },
        ebpfUse s.owned s.sys.ctx g t d)
    else ({ s with sys := (s.sys.step a).1 }, .other)
  | none => ({ s with sys := (s.sys.step a).1 }, .other)

/-! ## The condition on the messages -/

/-- A `FREE_EBPF` follows a granted `ALLOCATE_EBPF` with no other free in
between, and an upload that is read names bytes of a block the guest was told
of and did not give back. -/
def OwnMessage (o : Owned) (mode : FpProtoMode) (t : UInt8) (d : Nat → UInt8) : Prop :=
  (QueueType.ofByte? t = some .freeEbpfReq → o.fresh = true) ∧
  (QueueType.ofByte? t = some .uploadEbpfReq → mode = .ebpf →
    UpEbpfReq.size d = 0 ∨ ∃ r ∈ o.told, r.off ≤ UpEbpfReq.off d ∧
      UpEbpfReq.off d + UpEbpfReq.size d ≤ r.off + alignUp r.len)

instance (o : Owned) (mode : FpProtoMode) (t : UInt8) (d : Nat → UInt8) :
    Decidable (OwnMessage o mode t d) :=
  inferInstanceAs (Decidable (_ ∧ _))

/-- Every message of guest `gi` that is answered keeps to its own memory. -/
def OwnStep (gi : Nat) (s : OwnSys) (a : Act) : Prop :=
  match s.sys.handles a with
  | some (gj, t, d) =>
    gj = gi → (s.sys.ctx.guests gi).chamGuestQ.hasRoom = true →
      OwnMessage s.owned s.sys.ctx.config.fpProtoMode t d
  | none => True

instance (gi : Nat) (s : OwnSys) (a : Act) : Decidable (OwnStep gi s a) := by
  unfold OwnStep
  split <;> infer_instance

theorem OwnStep.message {gi : Nat} {s : OwnSys} {a : Act} {t : UInt8} {d : Nat → UInt8}
    (h : OwnStep gi s a) (he : s.sys.handles a = some (gi, t, d))
    (hroom : (s.sys.ctx.guests gi).chamGuestQ.hasRoom = true) :
    OwnMessage s.owned s.sys.ctx.config.fpProtoMode t d := by
  unfold OwnStep at h
  rw [he] at h
  exact h rfl hroom

/-! ## What a handler does to the allocator -/

/-- The block behind `ebpf_shm_handle`, while it was not given back. -/
def GuestControl.liveHandle (g : GuestControl) : Option Region :=
  if g.ebpfFreed then none else g.ebpfShmHandle

/-- The allocator after a block was asked for. -/
def granted (g : GuestControl) (grant : Option (ShmAllocator × Region)) : ShmAllocator :=
  match grant with
  | some (alloc, _) => alloc
  | none => g.alloc

def memoryAfter (ctx : ControlCtx) (g : GuestControl) (t : UInt8) (d : Nat → UInt8) :
    ShmAllocator × Option Region :=
  match QueueType.ofByte? t with
  | some .newQueueReq => (granted g (queueGrant ctx g d), g.liveHandle)
  | some .newMapReq => (granted g (mapGrant ctx g d), g.liveHandle)
  | some .allocateEbpfReq =>
    match shmallocAlloc ctx.heapOk g.alloc (AllocEbpfReq.size d) with
    | some (alloc, sh) => (alloc, some sh)
    | none => (g.alloc, g.liveHandle)
  | some .freeEbpfReq =>
    match g.liveHandle with
    | some sh => (shmallocFree g.alloc sh, none)
    | none => (g.alloc, none)
  | _ => (g.alloc, g.liveHandle)

section

variable {ctx ctx' : ControlCtx} {g g' : GuestControl} {t : UInt8} {d : Nat → UInt8}

theorem controlGuestNewQueue_memory (h : controlGuestNewQueue ctx g d = .ok (ctx', g')) :
    (g'.alloc, g'.liveHandle) = (granted g (queueGrant ctx g d), g.liveHandle) := by
  unfold controlGuestNewQueue at h
  unfold queueGrant
  dsimp only at h
  split at h
  · cases h
  · split at h
    · next hmax =>
      cases h
      rw [if_pos hmax]
      rfl
    · next hmax =>
      rw [if_neg hmax]
      split at h
      · cases h
      · split at h
        · next hal =>
          cases h
          rw [hal]
          rfl
        · next alloc sh hal =>
          rw [hal]
          split at h
          · cases h
          · cases h
            rfl

theorem controlGuestNewMap_memory (h : controlGuestNewMap ctx g d = .ok (ctx', g')) :
    (g'.alloc, g'.liveHandle) = (granted g (mapGrant ctx g d), g.liveHandle) := by
  unfold controlGuestNewMap at h
  unfold mapGrant
  dsimp only at h
  split at h
  · cases h
  · split at h
    · next hmax =>
      cases h
      rw [if_pos hmax]
      rfl
    · next hmax =>
      rw [if_neg hmax]
      split at h
      · cases h
      · split at h
        · next hal =>
          cases h
          rw [hal]
          rfl
        · next alloc sh hal =>
          rw [hal]
          split at h
          · cases h
          · cases h
            rfl

/-- Enabling or disabling a queue, registering and uploading leave the
memory alone. -/
theorem queueReq_memory (h : controlGuestEnableq ctx g d = .ok (ctx', g') ∨
    controlGuestDisableq ctx g d = .ok (ctx', g') ∨ controlGuestNewProto ctx g d = .ok (ctx', g') ∨
    controlEbpfUpload ctx g = .ok (ctx', g')) :
    (g'.alloc, g'.liveHandle) = (g.alloc, g.liveHandle) := by
  unfold controlGuestEnableq controlGuestDisableq controlGuestNewProto controlEbpfUpload at h
  dsimp only at h
  rcases h with h | h | h | h
  all_goals
    repeat' split at h
    all_goals cases h
    all_goals rfl

/-- **What a handled message does to the allocator and the handle.** -/
theorem handleEntry_memory (h : handleEntry ctx g t d = .ok (ctx', g')) :
    (g'.alloc, g'.liveHandle) = memoryAfter ctx g t d := by
  unfold handleEntry at h
  unfold memoryAfter
  split at h
  · next ht =>
    rw [ht]
    exact queueReq_memory (.inr (.inr (.inl h)))
  · next ht =>
    rw [ht]
    exact controlGuestNewQueue_memory h
  · next ht =>
    rw [ht]
    exact controlGuestNewMap_memory h
  · next ht =>
    rw [ht]
    exact queueReq_memory (.inl h)
  · next ht =>
    rw [ht]
    exact queueReq_memory (.inr (.inl h))
  · next ht =>
    rw [ht]
    unfold controlEbpfAllocate at h
    dsimp only at h ⊢
    split at h
    · cases h
    · split at h
      · cases h
      · split at h
        · next hal =>
          cases h
          rw [hal]
          rfl
        · next alloc sh hal =>
          cases h
          rw [hal]
          rfl
  · next ht =>
    rw [ht]
    unfold controlEbpfFree at h
    dsimp only
    split at h
    · cases h
    · split at h
      · cases h
      · split at h
        · cases h
        · next sh hsh =>
          cases h
          unfold GuestControl.freeHandle GuestControl.liveHandle
          cases hf : g.ebpfFreed with
          | false => simp [hsh, GuestControl.respond]
          | true => simp [GuestControl.respond]
  · next ht =>
    rw [ht]
    exact queueReq_memory (d := d) (.inr (.inr (.inr h)))
  · cases h

end

/-- A message of one guest leaves the others as they were. -/
theorem Sys.control_guest_ne {s : Sys} {gi gj : Nat} {t : UInt8} {d : Nat → UInt8}
    (hn : s.nextEntry = some (gj, t, d)) (hup : s.control.down = none) (hj : gi ≠ gj) :
    s.control.ctx.guests gi = s.ctx.guests gi := by
  obtain ⟨l, hp, hdone, rfl, hhead⟩ := Sys.nextEntry_some hn
  cases hi : pollGuestsIter s.ctx l with
  | error e => simp [Sys.control, hp, if_neg hdone, hi] at hup
  | ok r =>
    obtain ⟨ctx', l'⟩ := r
    obtain ⟨ctx₁, g₁, hh, rfl⟩ := pollGuestsIter_handled hhead hi
    obtain ⟨-, ms, hs, -⟩ := handleEntry_effect hh
    simp only [Sys.control, hp, if_neg hdone, hi, hn]
    rw [setGuest_ne _ hj, hs.rest]

/-- Replacing a guest by one with the same memory. -/
theorem setGuest_memory {ctx : ControlCtx} {i : Nat} {g : GuestControl}
    (h : g.alloc = (ctx.guests i).alloc ∧ g.liveHandle = (ctx.guests i).liveHandle)
    (gi : Nat) :
    ((ctx.setGuest i g).guests gi).alloc = (ctx.guests gi).alloc ∧
    ((ctx.setGuest i g).guests gi).liveHandle = (ctx.guests gi).liveHandle := by
  by_cases hi : gi = i
  · rw [hi, setGuest_same]
    exact h
  · rw [setGuest_ne g hi]
    exact ⟨rfl, rfl⟩

/-- A step that handles no message of guest `gi`, or goes down in it, leaves
its allocator and its handle alone. -/
theorem Sys.step_memory_other {s : Sys} {a : Act} {gi : Nat}
    (h : ∀ t d, s.handles a = some (gi, t, d) → (s.step a).1.down.isSome = true) :
    ((s.step a).1.ctx.guests gi).alloc = (s.ctx.guests gi).alloc ∧
    ((s.step a).1.ctx.guests gi).liveHandle = (s.ctx.guests gi).liveHandle := by
  by_cases hd : s.down.isSome
  · unfold Sys.step
    rw [if_pos hd]
    exact ⟨rfl, rfl⟩
  · unfold Sys.step Sys.handles at h
    unfold Sys.step
    rw [if_neg hd] at h ⊢
    cases a with
    | post gj t d =>
      dsimp only [Sys.post]
      split
      · refine setGuest_memory ?_ gi
        exact ⟨rfl, rfl⟩
      · exact ⟨rfl, rfl⟩
    | read gj =>
      dsimp only [Sys.read]
      split
      · exact ⟨rfl, rfl⟩
      · refine setGuest_memory ?_ gi
        exact ⟨rfl, rfl⟩
    | drain i =>
      dsimp only [Sys.drain]
      split
      · exact ⟨rfl, rfl⟩
      · exact ⟨rfl, rfl⟩
    | other i =>
      dsimp only [Sys.other]
      split
      · exact ⟨rfl, rfl⟩
      · exact ⟨rfl, rfl⟩
    | env heapOk uploadOk => exact ⟨rfl, rfl⟩
    | control =>
      dsimp only at h ⊢
      rw [if_neg hd] at h
      cases hn : s.nextEntry with
      | none =>
        rw [(Sys.control_quiet hn).2]
        exact ⟨rfl, rfl⟩
      | some e =>
        obtain ⟨gj, t, d⟩ := e
        by_cases hup : s.control.down = none
        · by_cases hj : gi = gj
          · have hdown := h t d (by rw [hn, hj])
            rw [hup] at hdown
            cases hdown
          · rw [Sys.control_guest_ne hn hup hj]
            exact ⟨rfl, rfl⟩
        · rw [Sys.control_down (Option.not_isSome_iff_eq_none.mp hd) hn hup]
          exact ⟨rfl, rfl⟩

/-! ## Every run -/

section

variable {len : Nat} {ctx : ControlCtx} {g : GuestControl} {o : Owned} {t : UInt8}
  {d : Nat → UInt8}

/-- A block for a queue or a map. -/
theorem takeOther_inv (hlen : len < 18446744073709551616) {size : Nat}
    {grant : Option (ShmAllocator × Region)}
    (hg : ∀ r, grant = some r → shmallocAlloc ctx.heapOk g.alloc size = some r)
    (h : AllocInv len g.alloc (o.ebpf ++ o.others)) :
    AllocInv len (granted g grant) ((o.takeOther grant).ebpf ++ (o.takeOther grant).others) := by
  cases grant with
  | none => exact h
  | some r =>
    have hnew := (shmallocAlloc_inv hlen h (hg r rfl)).2
    refine ⟨fun x => ?_, hnew.free, fun b hb => hnew.block b ?_⟩
    · have hcov := hnew.cover x
      simp only [Region.cover_cons, Region.cover_append, Owned.takeOther, granted] at hcov ⊢
      omega
    · simp only [Owned.takeOther, List.mem_append, List.mem_cons] at hb ⊢
      rcases hb with hb | hb | hb
      · exact .inr (.inl hb)
      · exact .inl hb
      · exact .inr (.inr hb)

/-- Allocator, handle and history of a guest fit together: the blocks of the
history are those the allocator handed out, the answers told their offsets
and sizes, and the handle is the last eBPF block while it was not given
back. -/
structure Fits (len : Nat) (alloc : ShmAllocator) (handle : Option Region) (o : Owned) : Prop where
  alloc : AllocInv len alloc (o.ebpf ++ o.others)
  told : o.ebpf = o.told.map fun r => ⟨r.off, alignUp r.len⟩
  fresh : o.fresh = true → ∃ b, o.handle = some b ∧ handle = some b ∧ o.ebpf.head? = some b

theorem Fits.takeOther (hlen : len < 18446744073709551616) {size : Nat}
    {grant : Option (ShmAllocator × Region)}
    (hg : ∀ r, grant = some r → shmallocAlloc ctx.heapOk g.alloc size = some r)
    (h : Fits len g.alloc g.liveHandle o) :
    Fits len (granted g grant) g.liveHandle (o.takeOther grant) := by
  refine ⟨takeOther_inv hlen hg h.alloc, ?_, ?_⟩
  · cases grant with
    | none => exact h.told
    | some r => exact h.told
  · cases grant with
    | none => exact h.fresh
    | some r => exact h.fresh

theorem queueGrant_some {r : ShmAllocator × Region} (h : queueGrant ctx g d = some r) :
    shmallocAlloc ctx.heapOk g.alloc (newQueueSize d) = some r := by
  unfold queueGrant at h
  split at h
  · cases h
  · exact h

theorem mapGrant_some {r : ShmAllocator × Region} (h : mapGrant ctx g d = some r) :
    shmallocAlloc ctx.heapOk g.alloc (newMapSize d) = some r := by
  unfold mapGrant at h
  split at h
  · cases h
  · exact h

/-- A block for an eBPF program is the last one from then on. -/
theorem Fits.takeEbpf (hlen : len < 18446744073709551616) {size : Nat} {alloc : ShmAllocator}
    {sh : Region} (hg : shmallocAlloc ctx.heapOk g.alloc size = some (alloc, sh))
    (h : Fits len g.alloc g.liveHandle o) :
    Fits len alloc (some sh) (o.takeEbpf size (some (alloc, sh))) := by
  obtain ⟨hsize, hnew⟩ := shmallocAlloc_inv hlen h.alloc hg
  refine ⟨hnew, ?_, fun _ => ⟨sh, rfl, rfl, rfl⟩⟩
  show sh :: o.ebpf = ⟨sh.off, alignUp size⟩ :: o.told.map _
  rw [← hsize, h.told]

/-- The last eBPF block is given back. -/
theorem Fits.giveBack (hlen : len < 18446744073709551616) {b : Region}
    (hb : o.ebpf.head? = some b) (hfresh : o.fresh = true) {handle : Option Region}
    (h : Fits len g.alloc handle o) : Fits len (shmallocFree g.alloc b) none o.giveBack := by
  obtain ⟨rest, hrest⟩ : ∃ rest, o.ebpf = b :: rest := List.head?_eq_some_iff.mp hb
  unfold Owned.giveBack
  rw [if_pos hfresh]
  refine ⟨?_, ?_, fun hf => nomatch hf⟩
  · have hinv := h.alloc
    rw [hrest, List.cons_append] at hinv
    dsimp only
    rw [hrest]
    exact shmallocFree_inv hlen hinv
  · dsimp only
    rw [h.told, List.map_tail]

/-- A message of the guest that keeps to its own memory. -/
theorem Fits.after (hlen : len < 18446744073709551616)
    (hfree : QueueType.ofByte? t = some .freeEbpfReq → o.fresh = true)
    (h : Fits len g.alloc g.liveHandle o) :
    Fits len (memoryAfter ctx g t d).1 (memoryAfter ctx g t d).2 (o.after ctx g t d) := by
  unfold memoryAfter Owned.after
  split
  · exact h.takeOther hlen fun r hr => queueGrant_some hr
  · exact h.takeOther hlen fun r hr => mapGrant_some hr
  · cases hal : shmallocAlloc ctx.heapOk g.alloc (AllocEbpfReq.size d) with
    | none => exact h
    | some r => exact h.takeEbpf hlen hal
  · next ht =>
    obtain ⟨b, -, hhandle, hhead⟩ := h.fresh (hfree ht)
    rw [hhandle]
    exact h.giveBack hlen hhead (hfree ht)
  · exact h

/-- A `FREE_EBPF` that was handled found room for its answer. -/
theorem free_hasRoom {ctx' : ControlCtx} {g' : GuestControl}
    (ht : QueueType.ofByte? t = some .freeEbpfReq)
    (h : handleEntry ctx g t d = .ok (ctx', g')) : g.chamGuestQ.hasRoom = true := by
  unfold handleEntry at h
  rw [ht] at h
  dsimp only at h
  unfold controlEbpfFree at h
  split at h
  · cases h
  · next hroom => simpa using hroom

/-- What such a message puts on the free list or reads is its own. -/
theorem Fits.use_good {handle : Option Region} (h : Fits len g.alloc handle o)
    (hown : g.chamGuestQ.hasRoom = true → OwnMessage o ctx.config.fpProtoMode t d) :
    (ebpfUse o ctx g t d).Good := by
  unfold ebpfUse
  split
  · trivial
  · next hroom =>
    have hroom' : g.chamGuestQ.hasRoom = true := by simpa using hroom
    obtain ⟨hfree, hread⟩ := hown hroom'
    split
    · next ht =>
      obtain ⟨b, hhandle, -, hhead⟩ := h.fresh (hfree ht)
      exact ⟨b, hhandle, List.mem_of_head? hhead⟩
    · next ht =>
      split
      · next hmode =>
        rcases hread ht hmode with hzero | ⟨r, hr, hlo, hhi⟩
        · exact .inl hzero
        · -- the block behind what the answer told
          refine .inr ⟨⟨r.off, alignUp r.len⟩, ?_, ?_⟩
          · rw [h.told]
            exact List.mem_map_of_mem hr
          · intro x hx
            unfold Region.Mem UpEbpfReq.bytes at hx
            unfold Region.Mem
            dsimp only at hx ⊢
            omega
      · trivial
    · trivial

end

def OwnSys.Fits (gi len : Nat) (s : OwnSys) : Prop :=
  Control.Fits len (s.sys.ctx.guests gi).alloc (s.sys.ctx.guests gi).liveHandle s.owned

/-- One step keeps allocator, handle and history together, and uses only what
is the guest's own. -/
theorem OwnSys.Fits.step {gi len : Nat} {s : OwnSys} {a : Act}
    (hlen : len < 18446744073709551616) (h : s.Fits gi len) (hok : OwnStep gi s a) :
    (s.step gi a).1.Fits gi len ∧ (s.step gi a).2.Good := by
  unfold OwnSys.step
  dsimp only
  split
  · next gj t d he =>
    by_cases hj : gj = gi
    · subst hj
      rw [if_pos rfl]
      refine ⟨?_, Control.Fits.use_good h (hok.message he)⟩
      unfold OwnSys.Fits
      dsimp only
      split
      · next hdown =>
        obtain ⟨halloc, hhandle⟩ := @Sys.step_memory_other s.sys a gj fun _ _ _ => hdown
        rw [halloc, hhandle]
        exact h
      · next hup =>
        obtain ⟨ctx₁, g₁, ms, hh, hguest, -⟩ :=
          Sys.step_handles he (Option.not_isSome_iff_eq_none.mp hup)
        have hmem := handleEntry_memory hh
        rw [hguest]
        show Control.Fits len g₁.alloc g₁.liveHandle _
        rw [show g₁.alloc = _ from congrArg Prod.fst hmem,
          show g₁.liveHandle = _ from congrArg Prod.snd hmem]
        exact Control.Fits.after hlen (fun ht => (hok.message he (free_hasRoom ht hh)).1 ht) h
    · -- another guest's message
      rw [if_neg hj]
      refine ⟨?_, trivial⟩
      obtain ⟨halloc, hhandle⟩ := Sys.step_memory_other (s := s.sys) (a := a) fun t' d' he' => by
        rw [he] at he'
        exact absurd (congrArg Prod.fst (Option.some.inj he')) hj
      unfold OwnSys.Fits
      rw [halloc, hhandle]
      exact h
  · next he =>
    refine ⟨?_, trivial⟩
    obtain ⟨halloc, hhandle⟩ := Sys.step_memory_other (s := s.sys) (a := a) fun t' d' he' => by
      rw [he] at he'
      cases he'
    unfold OwnSys.Fits
    rw [halloc, hhandle]
    exact h

/-- **The eBPF buffer is used by its owner only.** Once guest `gi` has its
rings, in every run in which its messages keep to its own blocks, whatever
their order and whatever the other guests do: only live eBPF blocks are put
on the free list, only bytes of such a block are read, and the blocks handed
out lie inside the shared memory, are pairwise disjoint and are not free. -/
theorem ebpf_buffer_owned {gi : Nat} {s₀ : Sys} {heapOk : Bool} {r₁ r₂ : Region} {s : OwnSys}
    {log : List EbpfUse} (hlen : s₀.ctx.config.shmLen < 18446744073709551616)
    (hrings : acceptRings s₀.ctx.config heapOk = some ((s₀.ctx.guests gi).alloc, r₁, r₂))
    (hrun : Run (OwnStep gi) (OwnSys.step gi) ⟨s₀, Owned.start [r₁, r₂]⟩ log s) :
    (∀ use ∈ log, use.Good) ∧
    Region.Confined s₀.ctx.config.shmLen (s.owned.ebpf ++ s.owned.others) ∧
    ∀ b ∈ s.owned.ebpf ++ s.owned.others, ∀ x, b.Mem x →
      Region.cover (s.sys.ctx.guests gi).alloc.freelist x = 0 := by
  have hinv : (∀ use ∈ log, use.Good) ∧ s.Fits gi s₀.ctx.config.shmLen := by
    refine hrun.inv (I := fun log s => (∀ use ∈ log, use.Good) ∧ s.Fits gi s₀.ctx.config.shmLen)
      ⟨by simp, ?_⟩ ?_
    · exact ⟨acceptRings_inv hlen hrings, rfl, fun hf => nomatch hf⟩
    · intro log s a h hok
      obtain ⟨hfits, hgood⟩ := h.2.step hlen hok
      refine ⟨?_, hfits⟩
      intro use huse
      rcases List.mem_append.mp huse with huse | huse
      · exact h.1 use huse
      · rw [List.mem_singleton.mp huse]
        exact hgood
  have halloc := hinv.2.alloc
  refine ⟨hinv.1, halloc.confined, ?_⟩
  intro b hb x hx
  have hcov := halloc.cover x
  have hpos := Region.cover_pos hb hx
  omega

/-! ## Two guests -/

/-- Entries a guest posts, each handled before the next one. -/
def handled (es : List (QueueType × (Nat → UInt8))) : List Act :=
  es.flatMap fun e => [.post 0 e.1.toByte e.2, .control]

/-- `ALLOCATE_EBPF` of 100 bytes. -/
def allocate100 : QueueType × (Nat → UInt8) :=
  (.allocateEbpfReq, lePut (fun _ => 0) 0 100 4)

def freeEbpf : QueueType × (Nat → UInt8) := (.freeEbpfReq, fun _ => 0)

/-- `UPLOAD_EBPF` of the bytes at an offset. -/
def upload (off size : Nat) : QueueType × (Nat → UInt8) :=
  (.uploadEbpfReq, lePut (lePut (fun _ => 0) 2 size 4) 6 off 8)

/-- The small system, with the control path inside `poll_guests`. -/
def ownStart : OwnSys := ⟨smallSys, Owned.start [⟨0, 512⟩, ⟨512, 512⟩]⟩

/-- A guest that uploads from its buffer, gives it back and gets another. -/
def goodGuest : List Act :=
  .control :: handled [allocate100, upload 1024 100, freeEbpf, allocate100]

theorem ebpf_buffer_owned_good_guest :
    (execAll (OwnSys.step 0) goodGuest ownStart).2.owned.ebpf = [⟨1024, 128⟩] ∧
    ∀ use ∈ (execAll (OwnSys.step 0) goodGuest ownStart).1, use.Good := by
  refine ⟨by decide +kernel, ?_⟩
  have hrun := Run.execOk goodGuest (Run.nil : Run (OwnStep 0) (OwnSys.step 0) ownStart [] _)
    (by decide +kernel)
  exact (@ebpf_buffer_owned 0 smallSys true _ _ _ _ (by decide) rfl hrun).1

/-- The second of two frees puts a free block on the free list, and an upload
of offset zero reads the guest's ring. -/
theorem ebpf_buffer_misused :
    ¬ (∀ use ∈ (execAll (OwnSys.step 0)
      (.control :: handled [allocate100, freeEbpf, freeEbpf]) ownStart).1, use.Good) ∧
    ¬ (∀ use ∈ (execAll (OwnSys.step 0)
      (.control :: handled [allocate100, upload 0 64]) ownStart).1, use.Good) := by
  constructor
  · intro h
    obtain ⟨b, -, hb⟩ := h (.put (some ⟨1024, 128⟩) []) (by decide +kernel)
    cases hb
  · intro h
    rcases h (.read ⟨0, 64⟩ [⟨1024, 128⟩]) (by decide +kernel) with hzero | ⟨b, hb, hsub⟩
    · cases hzero
    · rw [List.mem_singleton.mp hb] at hsub
      have hx := hsub 0 ⟨Nat.le_refl 0, by decide⟩
      exact absurd hx.1 (by decide)

end Chamelio.Control
