import Chamelio.Lib.Owner
import Chamelio.Control.Crash

/-!
# Combined uploads (`control_ebpf.c` with `fp_jit_combined`)

In combined mode the programs of all guests are linked into one program for
each of three events. An upload emits the guest's bitcode into three heap
blocks, rebuilds the three aggregate programs from it and the stored blocks
of the other guests, stores the blocks in `ctx->guest_bc` and publishes the
programs to the cores. Every failure leaves through one exit that frees the
three blocks.

Mirroring notes:
- What the eBPF loader, the verifier and the compiler say is `UploadEnv`; a
  new one comes with every upload. `build` tells for each program whether it
  was built and, if so, whether its function pointer is not `NULL`.
- The two modules that are linked into every program do not change and are
  left out of `EbpfVm.mods`. Programs that are replaced are not destroyed.
- `snprintf` of a slot's symbol always fits its buffer.
- Between two uploads the queues of the cores may change in any way.
-/

namespace Chamelio.Control.Aggregate

open Chamelio.Lib

/-- `enum agg_event`. -/
inductive AggEvent
  | rx | deq | sched
  deriving DecidableEq

def aggEvents : List AggEvent := [.rx, .deq, .sched]

/-- `struct comb_bc_blob`. -/
structure CombBcBlob where
  data : Option Nat
  len : Nat
  deriving DecidableEq

def CombBcBlob.null : CombBcBlob := ⟨none, 0⟩

/-- `struct ebpf_vm_c`: the modules it was built from, and whether
`jitted_fn` is set. -/
structure EbpfVm where
  id : Nat
  mods : List CombBcBlob
  jittedFn : Bool
  deriving DecidableEq

/-- The part of `struct control_context` an upload works on. -/
structure AggCtx where
  ctx : ControlCtx
  heap : Mheap
  guestBc : Nat → AggEvent → CombBcBlob
  /-- `agg_rx_vm`, `agg_deq_vm` and `agg_sched_vm`. -/
  aggVm : AggEvent → Option EbpfVm
  nextVm : Nat

/-- What the tool chain says during one upload. -/
structure UploadEnv where
  openOk : Bool
  /-- Length of the bitcode `verify_and_emit` gives. -/
  emit : AggEvent → Option Nat
  build : AggEvent → Option Bool

/-- `comb_bc_free`, on the heap. -/
def combBcFree (heap : Mheap) (bc : CombBcBlob) : Mheap :=
  match bc.data with
  | some p => heap.free p
  | none => heap

def setBlob (bcs : AggEvent → CombBcBlob) (e : AggEvent) (bc : CombBcBlob) :
    AggEvent → CombBcBlob :=
  fun e' => if e' = e then bc else bcs e'

/-- `build_agg_vm`. -/
def buildAggVm (c : AggCtx) (e : AggEvent) (gid : Nat) (slotBc : CombBcBlob) (id : Nat)
    (res : Option Bool) : Option EbpfVm :=
  let mods := (List.range chamelioMaxGuests).filterMap fun i =>
    let bc := if i = gid then slotBc else c.guestBc i e
    if bc.data = none ∨ bc.len = 0 then none else some bc
  res.map fun jittedFn => { id, mods, jittedFn }

/-- The middle of `rebuild_agg_vms`: each stored block is freed and replaced. -/
def storeSlots (c : AggCtx) (gid : Nat) (bcs : AggEvent → CombBcBlob) : List AggEvent → AggCtx
  | [] => c
  | e :: es =>
    storeSlots
      { c with
        heap := combBcFree c.heap (c.guestBc gid e)
        guestBc := fun g => if g = gid then setBlob (c.guestBc g) e (bcs e) else c.guestBc g }
      gid bcs es

/-- `rebuild_agg_vms`. -/
def rebuildAggVms (c : AggCtx) (gid : Nat) (bcs : AggEvent → CombBcBlob) (env : UploadEnv) :
    AggCtx × Bool :=
  match buildAggVm c .rx gid (bcs .rx) c.nextVm (env.build .rx) with
  | none => (c, false)
  | some rxVm =>
    match buildAggVm c .deq gid (bcs .deq) (c.nextVm + 1) (env.build .deq) with
    | none => (c, false)
    | some deqVm =>
      match buildAggVm c .sched gid (bcs .sched) (c.nextVm + 2) (env.build .sched) with
      | none => (c, false)
      | some schedVm =>
        let c' := if gid < chamelioMaxGuests then storeSlots c gid bcs aggEvents else c
        ({ c' with
            aggVm := fun
              | .rx => some rxVm
              | .deq => some deqVm
              | .sched => some schedVm
            nextVm := c.nextVm + 3 }, true)

/-- `publish_agg_vms`: all programs and their functions must be there. -/
def publishAgg (c : AggCtx) (gid : Nat) : AggCtx × Bool :=
  if aggEvents.all fun e => (c.aggVm e).any fun vm => vm.jittedFn then
    let (ctx, done) := publishAggVms c.ctx gid c.ctx.config.fpCoresMax
    ({ c with ctx }, done)
  else (c, false)

/-- The three calls of `verify_and_emit`, up to the first that fails. -/
def emitBlobs (env : UploadEnv) (heap : Mheap) (bcs : AggEvent → CombBcBlob) :
    List AggEvent → Mheap × (AggEvent → CombBcBlob) × Bool
  | [] => (heap, bcs, true)
  | e :: es =>
    match env.emit e with
    | none => (heap, bcs, false)
    | some len => emitBlobs env heap.malloc.1 (setBlob bcs e ⟨some heap.malloc.2, len⟩) es

/-- The exit of a failed upload. -/
def freeBlobs (heap : Mheap) (bcs : AggEvent → CombBcBlob) : List AggEvent → Mheap
  | [] => heap
  | e :: es => freeBlobs (combBcFree heap (bcs e)) bcs es

/-- `control_ebpf_upload` in combined mode, with the answer. -/
def upload (c : AggCtx) (gid : Nat) (env : UploadEnv) : AggCtx × Bool :=
  let out (c : AggCtx) (bcs : AggEvent → CombBcBlob) : AggCtx × Bool :=
    ({ c with heap := freeBlobs c.heap bcs aggEvents }, false)
  if !env.openOk then (c, false)
  else
    match emitBlobs env c.heap (fun _ => .null) aggEvents with
    | (heap, bcs, false) => out { c with heap } bcs
    | (heap, bcs, true) =>
      match rebuildAggVms { c with heap } gid bcs env with
      | (c, false) => out c bcs
      | (c, true) =>
        match publishAgg c gid with
        | (c, false) => out c bcs
        | (c, true) => (c, true)

/-! ## Runs of uploads -/

inductive AggAct
  | upload (gid : Nat) (env : UploadEnv)
  /-- The queues of the cores, after the cores and the rest of the control
  path were at work. -/
  | queues (ctlFastQs : Nat → Fifo FastMsg)

/-- What is published: the stored blocks, the programs and the messages. -/
structure Published where
  guestBc : Nat → AggEvent → CombBcBlob
  aggVm : AggEvent → Option EbpfVm
  ctlFastQs : Nat → Fifo FastMsg

def AggCtx.published (c : AggCtx) : Published := ⟨c.guestBc, c.aggVm, c.ctx.ctlFastQs⟩

/-- The answer to an upload, with what was published before and after it. -/
structure Answer where
  success : Bool
  before : Published
  after : Published

/-- A failure leaves everything as it was. -/
def Answer.Good (a : Answer) : Prop := a.success = false → a.after = a.before

def AggCtx.answer (c : AggCtx) (gid : Nat) (env : UploadEnv) : Answer :=
  { success := (upload c gid env).2
    before := c.published
    after := (upload c gid env).1.published }

def AggCtx.step (c : AggCtx) : AggAct → AggCtx × Option Answer
  | .upload gid env => ((upload c gid env).1, some (c.answer gid env))
  | .queues ctlFastQs => ({ c with ctx := { c.ctx with ctlFastQs } }, none)

/-! ## The condition -/

/-- All programs of the upload are built. -/
def UploadEnv.Builds (env : UploadEnv) : Prop :=
  env.openOk = true ∧ ∀ e, env.emit e ≠ none ∧ env.build e ≠ none

/-- An upload whose programs are built can be published: their functions are
there and every core has room for the message. -/
def Publishable (c : AggCtx) (env : UploadEnv) : Prop :=
  env.Builds → (∀ e, env.build e = some true) ∧ CoresHaveRoom c.ctx

def AggOk (c : AggCtx) : AggAct → Prop
  | .upload _ env => Publishable c env
  | .queues _ => True

/-! ## Who owns the blocks -/

/-- The blocks of the slots, and those an upload holds in its locals. -/
def own (slots : Nat → AggEvent → CombBcBlob) (bcs : AggEvent → CombBcBlob) :
    Option Nat × AggEvent → Option Nat
  | (some g, e) => (slots g e).data
  | (none, e) => (bcs e).data

/-- The blocks of the slots alone. -/
def slotOwn (slots : Nat → AggEvent → CombBcBlob) (k : Nat × AggEvent) : Option Nat :=
  (slots k.1 k.2).data

section

variable {slots : Nat → AggEvent → CombBcBlob} {bcs : AggEvent → CombBcBlob} {heap : Mheap}

theorem own_setBlob (e : AggEvent) (bc : CombBcBlob) :
    own slots (setBlob bcs e bc) = setOwner (own slots bcs) (none, e) bc.data := by
  funext k
  obtain ⟨g, e'⟩ := k
  cases g with
  | none =>
    by_cases he : e' = e
    · simp [own, setBlob, setOwner, he]
    · simp [own, setBlob, setOwner, he]
  | some g => simp [own, setOwner]

theorem own_setSlot (gid : Nat) (e : AggEvent) (bc : CombBcBlob) :
    own (fun g => if g = gid then setBlob (slots g) e bc else slots g) bcs =
      setOwner (own slots bcs) (some gid, e) bc.data := by
  funext k
  obtain ⟨g, e'⟩ := k
  cases g with
  | none => simp [own, setOwner]
  | some g =>
    by_cases hg : g = gid
    · by_cases he : e' = e
      · simp [own, setBlob, setOwner, hg, he]
      · simp [own, setBlob, setOwner, hg, he]
    · simp [own, setOwner, hg]

theorem slots_of_own (h : Owns heap (own slots bcs)) : Owns heap (slotOwn slots) := by
  refine h.comap (f := fun k : Nat × AggEvent => (some k.1, k.2)) ?_
  intro i j hij
  simp only [Prod.mk.injEq, Option.some.injEq] at hij
  exact Prod.ext hij.1 hij.2

theorem own_of_slots (h : Owns heap (slotOwn slots)) : Owns heap (own slots fun _ => .null) := by
  refine ⟨h.fresh, ?_, ?_, h.clean⟩
  · intro k p hk
    obtain ⟨g, e⟩ := k
    cases g with
    | none => cases hk
    | some g => exact h.held (g, e) p hk
  · intro k k' p hk hk'
    obtain ⟨g, e⟩ := k
    obtain ⟨g', e'⟩ := k'
    cases g with
    | none => cases hk
    | some g =>
      cases g' with
      | none => cases hk'
      | some g' =>
        have heq := h.single (g, e) (g', e') p hk hk'
        simp only [Prod.mk.injEq] at heq
        rw [heq.1, heq.2]

/-- `comb_bc_free` of the block of a place. -/
theorem combBcFree_owns {κ : Type} [DecidableEq κ] {own : κ → Option Nat} {k : κ}
    {bc : CombBcBlob} (h : Owns heap own) (hk : own k = bc.data) :
    Owns (combBcFree heap bc) (setOwner own k none) := by
  unfold combBcFree
  cases hd : bc.data with
  | some p =>
    rw [hd] at hk
    exact h.free hk
  | none =>
    rw [hd] at hk
    have hsame : setOwner own k none = own := by
      funext k'
      unfold setOwner
      split
      · next heq => rw [heq, hk]
      · rfl
    rw [hsame]
    exact h

/-- What `verify_and_emit` gives is owned by the locals. -/
theorem emitBlobs_owns (env : UploadEnv) (es : List AggEvent) (h : Owns heap (own slots bcs)) :
    Owns (emitBlobs env heap bcs es).1 (own slots (emitBlobs env heap bcs es).2.1) := by
  induction es generalizing heap bcs with
  | nil => exact h
  | cons e es ih =>
    rw [emitBlobs]
    split
    · exact h
    · next len _ =>
      apply ih
      rw [own_setBlob]
      exact h.malloc (none, e)

/-- The exit frees what the locals own, each block once. -/
theorem freeBlobs_owns {held : AggEvent → CombBcBlob} {es : List AggEvent} (hnd : es.Nodup)
    (heq : ∀ e ∈ es, held e = bcs e) (h : Owns heap (own slots held)) :
    Owns (freeBlobs heap bcs es) (slotOwn slots) := by
  induction es generalizing heap held with
  | nil => exact slots_of_own h
  | cons e es ih =>
    obtain ⟨hnot, hrest⟩ := List.nodup_cons.mp hnd
    have hfree : Owns (combBcFree heap (bcs e)) (own slots (setBlob held e .null)) := by
      rw [own_setBlob]
      refine combBcFree_owns h ?_
      show (held e).data = _
      rw [heq e List.mem_cons_self]
    refine ih hrest (fun e' he' => ?_) hfree
    have hne : e' ≠ e := fun hc => hnot (hc ▸ he')
    unfold setBlob
    rw [if_neg hne]
    exact heq e' (List.mem_cons_of_mem e he')

end

/-- The blocks move from the locals into the slots, whose old blocks are
freed. -/
theorem storeSlots_owns {c : AggCtx} {gid : Nat} {bcs held : AggEvent → CombBcBlob}
    {es : List AggEvent} (hnd : es.Nodup) (heq : ∀ e ∈ es, held e = bcs e)
    (h : Owns c.heap (own c.guestBc held)) :
    Owns (storeSlots c gid bcs es).heap (slotOwn (storeSlots c gid bcs es).guestBc) := by
  induction es generalizing c held with
  | nil => exact slots_of_own h
  | cons e es ih =>
    obtain ⟨hnot, hrest⟩ := List.nodup_cons.mp hnd
    have hhere := heq e List.mem_cons_self
    rw [storeSlots]
    refine @ih _ (setBlob held e .null) hrest (fun e' he' => ?_) ?_
    · have hne : e' ≠ e := fun hc => hnot (hc ▸ he')
      unfold setBlob
      rw [if_neg hne]
      exact heq e' (List.mem_cons_of_mem e he')
    · -- first the old block goes, then the new one moves in
      have hfree : Owns (combBcFree c.heap (c.guestBc gid e))
          (setOwner (own c.guestBc held) (some gid, e) none) := combBcFree_owns h rfl
      have hmove := @Owns.move _ _ _ _ hfree (none, e) (some gid, e)
      have hsame : own (fun g => if g = gid then setBlob (c.guestBc g) e (bcs e) else c.guestBc g)
          (setBlob held e .null) =
          setOwner (setOwner (setOwner (own c.guestBc held) (some gid, e) none) (some gid, e)
            (setOwner (own c.guestBc held) (some gid, e) none (none, e))) (none, e) none := by
        rw [own_setBlob, own_setSlot]
        funext k
        unfold setOwner
        by_cases hk : k = (none, e)
        · rw [if_pos hk, if_pos hk]
          rfl
        · rw [if_neg hk, if_neg hk]
          by_cases hk' : k = (some gid, e)
          · rw [if_pos hk', if_pos hk', if_neg (by simp)]
            show (bcs e).data = (held e).data
            rw [hhere]
          · rw [if_neg hk', if_neg hk', if_neg hk']
      rw [hsame]
      exact hmove

/-! ## What each part of an upload does -/

theorem mem_aggEvents (e : AggEvent) : e ∈ aggEvents := by
  cases e <;> simp [aggEvents]

theorem nodup_aggEvents : aggEvents.Nodup := by
  simp [aggEvents]

/-- All calls of `verify_and_emit` succeed, or the last one failed. -/
theorem emitBlobs_done (env : UploadEnv) (heap : Mheap) (bcs : AggEvent → CombBcBlob)
    (es : List AggEvent) :
    (emitBlobs env heap bcs es).2.2 = true ↔ ∀ e ∈ es, env.emit e ≠ none := by
  induction es generalizing heap bcs with
  | nil => simp [emitBlobs]
  | cons e es ih =>
    rw [emitBlobs, List.forall_mem_cons]
    split
    · next he => simp [he]
    · next len he =>
      rw [ih, he]
      simp

/-- A block that was emitted stays where it is. -/
theorem emitBlobs_kept (env : UploadEnv) {e : AggEvent} {es : List AggEvent} (he : e ∉ es)
    (heap : Mheap) (bcs : AggEvent → CombBcBlob) :
    (emitBlobs env heap bcs es).2.1 e = bcs e := by
  induction es generalizing heap bcs with
  | nil => rfl
  | cons e' es ih =>
    obtain ⟨hne, hnot⟩ := not_or.mp (fun h => he (List.mem_cons.mpr h))
    rw [emitBlobs]
    split
    · rfl
    · rw [ih hnot]
      unfold setBlob
      exact if_neg hne

/-- Emitted bitcode is never `NULL`. -/
theorem emitBlobs_data {env : UploadEnv} {heap : Mheap} {bcs : AggEvent → CombBcBlob}
    {es : List AggEvent} (hnd : es.Nodup) (hdone : (emitBlobs env heap bcs es).2.2 = true) :
    ∀ e ∈ es, ∃ p, ((emitBlobs env heap bcs es).2.1 e).data = some p := by
  induction es generalizing heap bcs with
  | nil => simp
  | cons e es ih =>
    obtain ⟨hnot, hrest⟩ := List.nodup_cons.mp hnd
    rw [emitBlobs] at hdone ⊢
    split
    · next he =>
      rw [he] at hdone
      cases hdone
    · next len he =>
      rw [he] at hdone
      refine List.forall_mem_cons.mpr ⟨⟨heap.malloc.2, ?_⟩, ih hrest hdone⟩
      rw [emitBlobs_kept env hnot]
      simp [setBlob]

theorem rebuildAggVms_fails {c : AggCtx} {gid : Nat} {bcs : AggEvent → CombBcBlob}
    {env : UploadEnv} (h : ∃ e, env.build e = none) :
    rebuildAggVms c gid bcs env = (c, false) := by
  obtain ⟨e, he⟩ := h
  unfold rebuildAggVms buildAggVm
  cases e with
  | rx => simp [he]
  | deq => cases env.build .rx <;> simp [he]
  | sched => cases env.build .rx <;> cases env.build .deq <;> simp [he]

/-- The context with the slots of a guest filled, if it has any. -/
def stored (c : AggCtx) (gid : Nat) (bcs : AggEvent → CombBcBlob) : AggCtx :=
  if gid < chamelioMaxGuests then storeSlots c gid bcs aggEvents else c

/-- Three new programs, and the slots filled. -/
theorem rebuildAggVms_done {c : AggCtx} {gid : Nat} {bcs : AggEvent → CombBcBlob}
    {env : UploadEnv} (h : ∀ e, env.build e ≠ none) :
    ∃ vms : AggEvent → EbpfVm,
      (∀ e, c.nextVm ≤ (vms e).id ∧ (vms e).id < c.nextVm + 3 ∧
        env.build e = some (vms e).jittedFn) ∧
      rebuildAggVms c gid bcs env =
        ({ stored c gid bcs with aggVm := fun e => some (vms e), nextVm := c.nextVm + 3 },
          true) := by
  obtain ⟨f, hf⟩ : ∃ f : AggEvent → Bool, ∀ e, env.build e = some (f e) :=
    ⟨fun e => (env.build e).get (Option.isSome_iff_ne_none.mpr (h e)), fun e => by simp⟩
  let vm (e : AggEvent) (id : Nat) : EbpfVm :=
    { id
      mods := (List.range chamelioMaxGuests).filterMap fun i =>
        let bc := if i = gid then bcs e else c.guestBc i e
        if bc.data = none ∨ bc.len = 0 then none else some bc
      jittedFn := f e }
  refine ⟨fun
    | .rx => vm .rx c.nextVm
    | .deq => vm .deq (c.nextVm + 1)
    | .sched => vm .sched (c.nextVm + 2), ?_, ?_⟩
  · intro e
    cases e with
    | rx => exact ⟨Nat.le_refl _, by dsimp only [vm]; omega, hf .rx⟩
    | deq => exact ⟨by dsimp only [vm]; omega, by dsimp only [vm]; omega, hf .deq⟩
    | sched => exact ⟨by dsimp only [vm]; omega, by dsimp only [vm]; omega, hf .sched⟩
  · unfold rebuildAggVms buildAggVm stored
    simp only [hf, Option.map_some]
    congr 1
    congr 1
    funext e
    cases e <;> rfl

theorem storeSlots_ctx (c : AggCtx) (gid : Nat) (bcs : AggEvent → CombBcBlob)
    (es : List AggEvent) : (storeSlots c gid bcs es).ctx = c.ctx := by
  induction es generalizing c with
  | nil => rfl
  | cons e es ih => rw [storeSlots, ih]

theorem stored_ctx (c : AggCtx) (gid : Nat) (bcs : AggEvent → CombBcBlob) :
    (stored c gid bcs).ctx = c.ctx := by
  unfold stored
  split
  · exact storeSlots_ctx c gid bcs aggEvents
  · rfl

/-- A slot that was filled holds the new block. -/
theorem storeSlots_slot (c : AggCtx) (gid : Nat) (bcs : AggEvent → CombBcBlob) {e : AggEvent}
    {es : List AggEvent} (h : e ∈ es ∨ c.guestBc gid e = bcs e) :
    (storeSlots c gid bcs es).guestBc gid e = bcs e := by
  induction es generalizing c with
  | nil =>
    rcases h with h | h
    · cases h
    · exact h
  | cons e' es ih =>
    rw [storeSlots]
    apply ih
    by_cases he : e = e'
    · right
      simp [setBlob, he]
    · rcases h with h | h
      · exact .inl ((List.mem_cons.mp h).resolve_left he)
      · right
        simp [setBlob, he, h]

/-- The message reaches the first `n` cores if they all have room. -/
theorem publishAggVms_done (ctx : ControlCtx) (gid n : Nat) :
    ((publishAggVms ctx gid n).2 = true ↔ ∀ i, i < n → (ctx.ctlFastQs i).hasRoom = true) ∧
    ∀ i, n ≤ i → (publishAggVms ctx gid n).1.ctlFastQs i = ctx.ctlFastQs i := by
  induction n with
  | zero => simp [publishAggVms]
  | succ n ih =>
    obtain ⟨hdone, hbehind⟩ := ih
    rw [publishAggVms]
    have hall : (∀ i, i < n + 1 → (ctx.ctlFastQs i).hasRoom = true) ↔
        (∀ i, i < n → (ctx.ctlFastQs i).hasRoom = true) ∧ (ctx.ctlFastQs n).hasRoom = true := by
      constructor
      · intro h
        exact ⟨fun i hi => h i (by omega), h n (by omega)⟩
      · rintro ⟨h₁, h₂⟩ i hi
        by_cases hin : i = n
        · rw [hin]
          exact h₂
        · exact h₁ i (by omega)
    rw [hall, ← hdone]
    split
    · next ctx₁ h₁ =>
      rw [h₁] at hdone hbehind ⊢
      refine ⟨by simp, fun i hi => ?_⟩
      exact hbehind i (by omega)
    · next ctx₁ h₁ =>
      rw [h₁] at hdone hbehind ⊢
      have hn : ctx₁.ctlFastQs n = ctx.ctlFastQs n := hbehind n (Nat.le_refl n)
      cases hroom : (ctx.ctlFastQs n).hasRoom with
      | true =>
        have hpush := Fifo.push_of_room hroom (FastMsg.uploadEbpf gid)
        rw [hn, hpush]
        refine ⟨by simp, fun i hi => ?_⟩
        show (if i = n then _ else ctx₁.ctlFastQs i) = _
        rw [if_neg (by omega)]
        exact hbehind i (by omega)
      | false =>
        have hpush : (ctx.ctlFastQs n).push (FastMsg.uploadEbpf gid) = none := by
          unfold Fifo.push
          rw [hroom]
          rfl
        rw [hn, hpush]
        exact ⟨by simp, fun i hi => hbehind i (by omega)⟩

/-- The programs are published if their functions are there and every core
has room; nothing but the queues changes. -/
theorem publishAgg_spec {c : AggCtx} {gid : Nat} {vms : AggEvent → EbpfVm}
    (hvm : c.aggVm = fun e => some (vms e)) :
    ((publishAgg c gid).2 = true ↔ (∀ e, (vms e).jittedFn = true) ∧ CoresHaveRoom c.ctx) ∧
    ∃ ctx, (publishAgg c gid).1 = { c with ctx } := by
  have hall : (aggEvents.all fun e => (c.aggVm e).any fun vm => vm.jittedFn) = true ↔
      ∀ e, (vms e).jittedFn = true := by
    rw [List.all_eq_true]
    constructor
    · intro h e
      have he := h e (mem_aggEvents e)
      rw [hvm] at he
      exact he
    · intro h e _
      rw [hvm]
      exact h e
  unfold publishAgg
  split
  · next hset =>
    refine ⟨?_, _, rfl⟩
    dsimp only
    rw [(publishAggVms_done c.ctx gid c.ctx.config.fpCoresMax).1]
    exact ⟨fun hroom => ⟨hall.mp hset, hroom⟩, fun h => h.2⟩
  · next hset =>
    refine ⟨?_, c.ctx, rfl⟩
    constructor
    · intro h
      cases h
    · intro h
      exact absurd (hall.mpr h.1) hset

/-- What the exit frees is dead. -/
theorem freeBlobs_dead {bcs : AggEvent → CombBcBlob} {p : Nat} {es : List AggEvent} {heap : Mheap}
    (h : heap.live p = false ∨ ∃ e ∈ es, (bcs e).data = some p) :
    (freeBlobs heap bcs es).live p = false := by
  induction es generalizing heap with
  | nil =>
    rcases h with h | ⟨e, he, -⟩
    · exact h
    · cases he
  | cons e es ih =>
    rw [freeBlobs]
    apply ih
    by_cases hhere : (bcs e).data = some p
    · left
      unfold combBcFree
      rw [hhere]
      simp [Mheap.free]
    · rcases h with h | ⟨e', he', hp⟩
      · left
        unfold combBcFree
        split
        · simp [Mheap.free, h]
        · exact h
      · right
        rcases List.mem_cons.mp he' with rfl | he'
        · exact absurd hp hhere
        · exact ⟨e', he', hp⟩

/-! ## One upload -/

/-- An upload whose programs are not built frees its own blocks and leaves
the rest alone. -/
theorem upload_not_built {c : AggCtx} {env : UploadEnv} (gid : Nat) (hb : ¬ env.Builds)
    (h : Owns c.heap (slotOwn c.guestBc)) :
    ∃ heap, upload c gid env = ({ c with heap }, false) ∧ Owns heap (slotOwn c.guestBc) := by
  unfold upload
  dsimp only
  cases hopen : env.openOk with
  | false => exact ⟨c.heap, rfl, h⟩
  | true =>
    have hemit := emitBlobs_owns env aggEvents (own_of_slots h)
    have hdone := emitBlobs_done env c.heap (fun _ => .null) aggEvents
    rw [if_neg (by simp)]
    generalize emitBlobs env c.heap (fun _ => .null) aggEvents = r at hemit hdone ⊢
    obtain ⟨heap, bcs, done⟩ := r
    have hexit := freeBlobs_owns nodup_aggEvents (fun e _ => rfl) hemit
    cases done with
    | false => exact ⟨freeBlobs heap bcs aggEvents, rfl, hexit⟩
    | true =>
      -- everything was emitted, so some program was not built
      have hbuild : ∃ e, env.build e = none := by
        refine Classical.byContradiction fun hall => hb ⟨hopen, fun e => ⟨?_, ?_⟩⟩
        · exact hdone.mp rfl e (mem_aggEvents e)
        · exact fun he => hall ⟨e, he⟩
      dsimp only
      rw [rebuildAggVms_fails hbuild]
      exact ⟨freeBlobs heap bcs aggEvents, rfl, hexit⟩

/-- The context in front of the publication. -/
def rebuilt (c : AggCtx) (gid : Nat) (bcs : AggEvent → CombBcBlob) (vms : AggEvent → EbpfVm) :
    AggCtx :=
  { stored c gid bcs with aggVm := fun e => some (vms e), nextVm := c.nextVm + 3 }

/-- What is known of an upload that comes to the publication. -/
structure Built (c : AggCtx) (env : UploadEnv) (heap : Mheap) (bcs : AggEvent → CombBcBlob)
    (vms : AggEvent → EbpfVm) : Prop where
  owns : Owns heap (own c.guestBc bcs)
  data : ∀ e, ∃ p, (bcs e).data = some p
  vm : ∀ e, c.nextVm ≤ (vms e).id ∧ (vms e).id < c.nextVm + 3 ∧
    env.build e = some (vms e).jittedFn

theorem upload_built {c : AggCtx} {env : UploadEnv} (gid : Nat) (hb : env.Builds)
    (h : Owns c.heap (slotOwn c.guestBc)) :
    ∃ heap bcs vms, Built c env heap bcs vms ∧
      upload c gid env =
        match publishAgg (rebuilt { c with heap } gid bcs vms) gid with
        | (c', false) => ({ c' with heap := freeBlobs c'.heap bcs aggEvents }, false)
        | (c', true) => (c', true) := by
  have hemit := emitBlobs_owns env aggEvents (own_of_slots h)
  have hdone := (emitBlobs_done env c.heap (fun _ => .null) aggEvents).mpr
    fun e _ => (hb.2 e).1
  have hdata := emitBlobs_data nodup_aggEvents hdone
  unfold upload
  dsimp only
  rw [if_neg (by rw [hb.1]; decide)]
  generalize emitBlobs env c.heap (fun _ => .null) aggEvents = r at hemit hdone hdata ⊢
  obtain ⟨heap, bcs, done⟩ := r
  dsimp only at hemit hdone hdata
  subst hdone
  obtain ⟨vms, hvms, hre⟩ := @rebuildAggVms_done { c with heap } gid bcs env fun e => (hb.2 e).2
  refine ⟨heap, bcs, vms, ⟨hemit, fun e => hdata e (mem_aggEvents e), hvms⟩, ?_⟩
  dsimp only
  rw [hre]
  rfl

/-- The blocks of the slots are live and owned by one slot each, and no block
was freed twice. -/
structure Intact (c : AggCtx) : Prop where
  live : ∀ g e p, (c.guestBc g e).data = some p → c.heap.live p = true
  single : ∀ g e g' e' p, (c.guestBc g e).data = some p → (c.guestBc g' e').data = some p →
    g = g' ∧ e = e'
  once : c.heap.misfreed = false

structure AggInv (c : AggCtx) : Prop where
  owns : Owns c.heap (slotOwn c.guestBc)
  vm : ∀ e vm, c.aggVm e = some vm → vm.id < c.nextVm

theorem AggInv.intact {c : AggCtx} (h : AggInv c) : Intact c := by
  refine ⟨fun g e p hp => h.owns.held (g, e) p hp, ?_, h.owns.clean⟩
  intro g e g' e' p hp hp'
  have heq := h.owns.single (g, e) (g', e') p hp hp'
  simp only [Prod.mk.injEq] at heq
  exact heq

theorem stored_owns {c : AggCtx} {gid : Nat} {bcs : AggEvent → CombBcBlob}
    (h : Owns c.heap (own c.guestBc bcs)) :
    Owns (stored c gid bcs).heap (slotOwn (stored c gid bcs).guestBc) := by
  unfold stored
  split
  · exact storeSlots_owns nodup_aggEvents (fun _ _ => rfl) h
  · exact slots_of_own h

/-- An upload that can be published once it is built keeps the invariant, and
a failure leaves everything as it was. -/
theorem AggInv.upload {c : AggCtx} {gid : Nat} {env : UploadEnv} (h : AggInv c)
    (hok : Publishable c env) :
    AggInv (upload c gid env).1 ∧ (c.answer gid env).Good := by
  unfold AggCtx.answer Answer.Good AggCtx.published
  by_cases hb : env.Builds
  · obtain ⟨heap, bcs, vms, hbuilt, heq⟩ := upload_built gid hb h.owns
    obtain ⟨hiff, ctx, hctx⟩ :=
      @publishAgg_spec (rebuilt { c with heap } gid bcs vms) gid vms rfl
    have hroom : CoresHaveRoom (rebuilt { c with heap } gid bcs vms).ctx := by
      show CoresHaveRoom (stored { c with heap } gid bcs).ctx
      rw [stored_ctx]
      exact (hok hb).2
    have hfns : ∀ e, (vms e).jittedFn = true := by
      intro e
      have he := (hbuilt.vm e).2.2
      rw [(hok hb).1 e] at he
      exact (Option.some.inj he).symm
    have hdone := hiff.mpr ⟨hfns, hroom⟩
    generalize publishAgg (rebuilt { c with heap } gid bcs vms) gid = r at heq hdone hctx
    obtain ⟨c', done⟩ := r
    dsimp only at hdone hctx
    subst hdone
    subst hctx
    rw [heq]
    refine ⟨⟨stored_owns hbuilt.owns, ?_⟩, fun hf => nomatch hf⟩
    intro e vm hvm
    cases hvm
    exact (hbuilt.vm e).2.1
  · obtain ⟨heap, heq, howns⟩ := upload_not_built gid hb h.owns
    rw [heq]
    exact ⟨⟨howns, h.vm⟩, fun _ => rfl⟩

/-- An upload that is built and cannot be published breaks it: the slots keep
the blocks that were freed, or the programs change without success. -/
theorem upload_breaks {c : AggCtx} {gid : Nat} {env : UploadEnv} (h : AggInv c)
    (hok : ¬ Publishable c env) :
    ¬ (Intact (upload c gid env).1 ∧ (c.answer gid env).Good) := by
  obtain ⟨hb, hfail⟩ : env.Builds ∧
      ¬ ((∀ e, env.build e = some true) ∧ CoresHaveRoom c.ctx) := by
    unfold Publishable at hok
    exact Classical.not_imp.mp hok
  obtain ⟨heap, bcs, vms, hbuilt, heq⟩ := upload_built gid hb h.owns
  obtain ⟨hiff, ctx, hctx⟩ := @publishAgg_spec (rebuilt { c with heap } gid bcs vms) gid vms rfl
  have hnot : (publishAgg (rebuilt { c with heap } gid bcs vms) gid).2 = false := by
    rw [Bool.eq_false_iff]
    intro hdone
    obtain ⟨hfns, hroom⟩ := hiff.mp hdone
    refine hfail ⟨fun e => ?_, ?_⟩
    · rw [(hbuilt.vm e).2.2, hfns e]
    · rw [show (rebuilt { c with heap } gid bcs vms).ctx = c.ctx from stored_ctx _ gid bcs] at hroom
      exact hroom
  generalize publishAgg (rebuilt { c with heap } gid bcs vms) gid = r at heq hnot hctx
  obtain ⟨c', done⟩ := r
  dsimp only at hnot hctx
  subst hnot
  subst hctx
  rintro ⟨hintact, hgood⟩
  unfold AggCtx.answer Answer.Good AggCtx.published at hgood
  rw [heq] at hintact hgood
  by_cases hgid : gid < chamelioMaxGuests
  · -- the slot holds the block the exit freed
    obtain ⟨p, hp⟩ := hbuilt.data .rx
    have hslot : (stored { c with heap } gid bcs).guestBc gid .rx = bcs .rx := by
      unfold stored
      rw [if_pos hgid]
      exact storeSlots_slot _ gid bcs (.inl (mem_aggEvents .rx))
    have hlive := hintact.live gid .rx p (by
      show ((stored { c with heap } gid bcs).guestBc gid .rx).data = some p
      rw [hslot]
      exact hp)
    have hdead := @freeBlobs_dead bcs p aggEvents (rebuilt { c with heap } gid bcs vms).heap
      (.inr ⟨.rx, mem_aggEvents .rx, hp⟩)
    exact Bool.noConfusion (hlive.symm.trans hdead)
  · -- no slot, but the programs are new ones
    have hsame := hgood rfl
    simp only [Published.mk.injEq] at hsame
    have hvm := congrFun hsame.2.1 .rx
    have hold := h.vm .rx (vms .rx) hvm.symm
    have hnew := (hbuilt.vm .rx).1
    omega

/-- The answer and the messages are those of `controlEbpfUpload`, which knows
only whether the tool chain was content. -/
theorem upload_answer {c : AggCtx} {g : GuestControl} {env : UploadEnv}
    (h : Owns c.heap (slotOwn c.guestBc)) (hmode : c.ctx.config.fpProtoMode = .ebpf)
    (hcomb : c.ctx.config.fpJitCombined = true) (hroom : g.chamGuestQ.hasRoom = true)
    (hup : c.ctx.uploadOk = true ↔ env.Builds ∧ ∀ e, env.build e = some true) :
    controlEbpfUpload c.ctx g =
      .ok ((upload c g.id env).1.ctx, g.respond
        (fun r => lePut r 0 (if (upload c g.id env).2 then 1 else 0) 4) .uploadEbpfRes) := by
  unfold controlEbpfUpload
  dsimp only
  rw [if_neg (by rw [hroom]; decide), if_neg (fun hne => hne hmode)]
  by_cases hb : env.Builds
  · obtain ⟨heap, bcs, vms, hbuilt, heq⟩ := upload_built g.id hb h
    have hctx : (rebuilt { c with heap } g.id bcs vms).ctx = c.ctx := stored_ctx _ g.id bcs
    have hset : (aggEvents.all fun e => ((rebuilt { c with heap } g.id bcs vms).aggVm e).any
        fun vm => vm.jittedFn) = c.ctx.uploadOk := by
      rw [Bool.eq_iff_iff, hup, List.all_eq_true]
      constructor
      · intro hall
        refine ⟨hb, fun e => ?_⟩
        rw [(hbuilt.vm e).2.2]
        exact congrArg some (hall e (mem_aggEvents e))
      · intro hall e _
        have he := (hbuilt.vm e).2.2
        rw [hall.2 e] at he
        exact (Option.some.inj he).symm
    rw [heq]
    unfold publishAgg
    rw [hset, hctx]
    cases c.ctx.uploadOk with
    | false =>
      simp only [Bool.not_false, if_true, Bool.false_eq_true, if_false]
      rw [hctx]
    | true =>
      simp only [Bool.not_true, Bool.false_eq_true, if_false, if_true, hcomb]
      generalize publishAggVms c.ctx g.id c.ctx.config.fpCoresMax = r
      obtain ⟨ctx', done⟩ := r
      cases done <;> rfl
  · obtain ⟨heap, heq, -⟩ := upload_not_built g.id hb h
    have hno : c.ctx.uploadOk = false := by
      rw [Bool.eq_false_iff]
      exact fun hc => hb (hup.mp hc).1
    rw [heq, hno]
    rfl

/-! ## Every run -/

/-- The context before the first upload: no guest has stored a program. -/
structure AggInit (c : AggCtx) : Prop where
  slots : c.guestBc = fun _ _ => .null
  fresh : ∀ p, c.heap.live p = true → p < c.heap.next
  clean : c.heap.misfreed = false
  vm : ∀ e vm, c.aggVm e = some vm → vm.id < c.nextVm

theorem AggInit.inv {c : AggCtx} (h : AggInit c) : AggInv c := by
  refine ⟨⟨h.fresh, ?_, ?_, h.clean⟩, h.vm⟩
  · intro k p hk
    rw [h.slots] at hk
    cases hk
  · intro k k' p hk
    rw [h.slots] at hk
    cases hk

theorem AggInv.step {c : AggCtx} {a : AggAct} (h : AggInv c) (hok : AggOk c a) :
    AggInv (c.step a).1 ∧ ∀ ans, (c.step a).2 = some ans → ans.Good := by
  cases a with
  | upload gid env =>
    obtain ⟨hinv, hgood⟩ := @AggInv.upload c gid env h hok
    refine ⟨hinv, ?_⟩
    intro ans hans
    cases hans
    exact hgood
  | queues qs =>
    refine ⟨⟨h.owns, h.vm⟩, ?_⟩
    intro ans hans
    cases hans

/-- **A failed upload leaves the published programs intact.** In every run in
which an upload that builds its programs can also publish them, whatever the
tool chain and the cores do: the stored blocks are live and have one owner,
no block is freed twice, and an upload that is answered with a failure changed
nothing. In each state reached, an upload that meets the condition is the only
one that keeps it so, and its answer and messages are those of
`controlEbpfUpload`. -/
theorem failed_upload_intact {c₀ c : AggCtx} {log : List (Option Answer)} (hinit : AggInit c₀)
    (hrun : Run AggOk AggCtx.step c₀ log c) :
    Intact c ∧ (∀ ans, some ans ∈ log → ans.Good) ∧
    (∀ gid env, Intact (upload c gid env).1 ∧ (c.answer gid env).Good ↔ Publishable c env) ∧
    ∀ (g : GuestControl) (env : UploadEnv), c.ctx.config.fpProtoMode = .ebpf →
      c.ctx.config.fpJitCombined = true → g.chamGuestQ.hasRoom = true →
      (c.ctx.uploadOk = true ↔ env.Builds ∧ ∀ e, env.build e = some true) →
      controlEbpfUpload c.ctx g =
        .ok ((upload c g.id env).1.ctx, g.respond
          (fun r => lePut r 0 (if (upload c g.id env).2 then 1 else 0) 4) .uploadEbpfRes) := by
  have hinv : AggInv c ∧ ∀ ans, some ans ∈ log → ans.Good := by
    refine hrun.inv (I := fun log c => AggInv c ∧ ∀ ans, some ans ∈ log → ans.Good)
      ⟨hinit.inv, by simp⟩ ?_
    intro log c a h hok
    obtain ⟨hstep, hgood⟩ := h.1.step hok
    refine ⟨hstep, fun ans hans => ?_⟩
    rcases List.mem_append.mp hans with hans | hans
    · exact h.2 ans hans
    · exact hgood ans (List.mem_singleton.mp hans).symm
  refine ⟨hinv.1.intact, hinv.2, fun gid env => ⟨fun hkept => ?_, fun hok => ?_⟩,
    fun g env => upload_answer hinv.1.owns⟩
  · exact Classical.byContradiction fun hok => upload_breaks hinv.1 hok hkept
  · obtain ⟨hafter, hgood⟩ := @AggInv.upload c gid env hinv.1 hok
    exact ⟨hafter.intact, hgood⟩

/-- One core whose queue takes `nelems` messages, and no guest program yet. -/
def oneCore (nelems : Nat) : AggCtx :=
  { ctx := { smallSys.ctx with ctlFastQs := fun _ => { items := [], nelems } }
    heap := { next := 0, live := fun _ => false, misfreed := false }
    guestBc := fun _ _ => .null, aggVm := fun _ => none, nextVm := 0 }

/-- Everything the tool chain is asked for succeeds. -/
def allBuilt : UploadEnv :=
  { openOk := true, emit := fun _ => some 16, build := fun _ => some true }

theorem oneCore_init (nelems : Nat) : AggInit (oneCore nelems) :=
  ⟨rfl, fun _ hp => (nomatch hp), rfl, fun _ _ hvm => (nomatch hvm)⟩

theorem failed_upload_intact_one_core :
    (upload (oneCore 8) 0 allBuilt).2 = true ∧ Intact (upload (oneCore 8) 0 allBuilt).1 := by
  refine ⟨by decide, ?_⟩
  have hok : AggOk (oneCore 8) (.upload 0 allBuilt) := fun _ => ⟨fun _ => rfl, fun _ _ => rfl⟩
  have hrun : Run AggOk AggCtx.step (oneCore 8) [some ((oneCore 8).answer 0 allBuilt)]
      (upload (oneCore 8) 0 allBuilt).1 := Run.snoc Run.nil hok
  exact (failed_upload_intact (oneCore_init 8) hrun).1

/-- The core's queue is full: the upload fails, and the slots of the guest
hold three blocks that were freed. -/
theorem failed_upload_not_intact :
    (upload (oneCore 0) 0 allBuilt).2 = false ∧ ¬ Intact (upload (oneCore 0) 0 allBuilt).1 := by
  refine ⟨by decide, fun h => ?_⟩
  have hlive := h.live 0 .rx 0 (by decide)
  exact absurd hlive (by decide)

end Chamelio.Control.Aggregate
