import Chamelio.Control.System

/-!
# What a request does

Two inversion lemmas the properties of the control path rest on.
`handleEntry_effect` says what a request that is handled can change: the
guest's protocol state, its allocator, and the messages sent to the cores.
`Sys.step_cases` lifts it to the system: a step is quiet, moves one message,
or handles one entry with such an effect.
-/

namespace Chamelio.Control

open Chamelio.Lib Chamelio.Util Chamelio.Fast

/-! ## Messages to the cores -/

/-- `ctx'` is `ctx` with `ms i` appended to the queue of core `i`. -/
structure Sends (ctx ctx' : ControlCtx) (ms : Nat → List FastMsg) : Prop where
  queue : ∀ i, (ctx'.ctlFastQs i).items = (ctx.ctlFastQs i).items ++ ms i
  rest : ctx' = { ctx with ctlFastQs := ctx'.ctlFastQs }

theorem Sends.refl (ctx : ControlCtx) : Sends ctx ctx (fun _ => []) :=
  ⟨fun _ => (List.append_nil _).symm, rfl⟩

theorem push_sends {ctx : ControlCtx} {i : Nat} {m : FastMsg} {q : Fifo FastMsg}
    (h : (ctx.ctlFastQs i).push m = some q) :
    Sends ctx (ctx.setFastQ i q) (fun j => if j = i then [m] else []) := by
  refine ⟨fun j => ?_, rfl⟩
  unfold ControlCtx.setFastQ
  dsimp only
  by_cases hj : j = i
  · rw [if_pos hj, if_pos hj, hj, Fifo.push_items h]
  · rw [if_neg hj, if_neg hj, List.append_nil]

theorem fastSend_sends {ctx ctx' : ControlCtx} {i : Nat} {m : FastMsg}
    (h : fastSend ctx i m = .ok ctx') :
    Sends ctx ctx' (fun j => if j = i then [m] else []) := by
  unfold fastSend at h
  split at h
  · next q hq =>
    cases h
    exact push_sends hq
  · cases h

theorem Sends.trans {ctx ctx' ctx'' : ControlCtx} {ms ms' : Nat → List FastMsg}
    (h : Sends ctx ctx' ms) (h' : Sends ctx' ctx'' ms') :
    Sends ctx ctx'' (fun i => ms i ++ ms' i) := by
  refine ⟨fun i => ?_, ?_⟩
  · rw [h'.queue, h.queue, List.append_assoc]
  · rw [h'.rest, h.rest]

/-- Every core gets the message once. -/
theorem fastSendAll_sends {ctx ctx' : ControlCtx} {m : FastMsg} {n : Nat}
    (h : fastSendAll ctx m n = .ok ctx') :
    Sends ctx ctx' (fun i => if i < n then [m] else []) := by
  induction n generalizing ctx' with
  | zero =>
    cases h
    exact Sends.refl ctx
  | succ n ih =>
    rw [fastSendAll] at h
    split at h
    · next ctx₁ h₁ =>
      have hs := (ih h₁).trans (fastSend_sends h)
      refine ⟨fun i => ?_, hs.rest⟩
      rw [hs.queue]
      congr 1
      by_cases hi : i < n
      · rw [if_pos hi, if_neg (by omega), if_pos (by omega), List.append_nil]
      · rw [if_neg hi]
        by_cases hin : i = n
        · rw [if_pos hin, if_pos (by omega), List.nil_append]
        · rw [if_neg hin, if_neg (by omega), List.append_nil]
    · cases h

/-- A publication, complete or not, sends upload messages only. -/
theorem publishAggVms_sends (ctx : ControlCtx) (gid n : Nat) :
    ∃ ms, Sends ctx (publishAggVms ctx gid n).1 ms ∧
      ∀ i, ∀ m ∈ ms i, m = .uploadEbpf gid := by
  induction n with
  | zero => exact ⟨_, Sends.refl ctx, by simp⟩
  | succ n ih =>
    obtain ⟨ms, hs, hms⟩ := ih
    rw [publishAggVms]
    split
    · next ctx₁ h₁ =>
      rw [h₁] at hs
      exact ⟨ms, hs, hms⟩
    · next ctx₁ h₁ =>
      rw [h₁] at hs
      split
      · next q hq =>
        refine ⟨_, hs.trans (push_sends hq), fun i m hm => ?_⟩
        rcases List.mem_append.mp hm with hm | hm
        · exact hms i m hm
        · split at hm
          · simpa using hm
          · cases hm
      · exact ⟨ms, hs, hms⟩

/-! ## The effect of a request -/

/-- What a handled entry can change: the messages it sends, the guest's
protocol state and its allocator afterwards. -/
inductive Effect (ctx : ControlCtx) (g : GuestControl) (t : UInt8) (d : Nat → UInt8) :
    (Nat → List FastMsg) → ProtoControl → ShmAllocator → Prop
  | nothing (hq : QueueType.ofByte? t ≠ some .newQueueReq)
      (hm : QueueType.ofByte? t = some .newMapReq → mapGrant ctx g d = none)
      (hp : QueueType.ofByte? t = some .newProtoReq → newProtoAccepted ctx d = false) :
    Effect ctx g t d (fun _ => []) g.proto g.alloc
  | proto (ht : QueueType.ofByte? t = some .newProtoReq) (ha : newProtoAccepted ctx d = true) :
    Effect ctx g t d (fun _ => [])
      { g.proto with protoType := NewProtoReq.protoType d, nqueues := 0, nmaps := 0 } g.alloc
  | queue (ht : QueueType.ofByte? t = some .newQueueReq) {alloc : ShmAllocator} {sh : Region}
      (hg : queueGrant ctx g d = some (alloc, sh)) :
    Effect ctx g t d
      (fun i => if i < ctx.config.fpCoresMax then
        [newQueueMsg g (newQueueEntry g.proto.nqueues d sh)] else [])
      ({ g.proto with nqueues := (g.proto.nqueues + 1) % 65536 }.setQueue g.proto.nqueues
        (newQueueEntry g.proto.nqueues d sh)) alloc
  | queueRefused (ht : QueueType.ofByte? t = some .newQueueReq)
      (hg : queueGrant ctx g d = none) :
    Effect ctx g t d (fun _ => [])
      { g.proto with nqueues := (g.proto.nqueues + 1) % 65536 } g.alloc
  | map (ht : QueueType.ofByte? t = some .newMapReq) {alloc : ShmAllocator} {sh : Region}
      (hg : mapGrant ctx g d = some (alloc, sh)) :
    Effect ctx g t d
      (fun i => if i < ctx.config.fpCoresMax then [newMapMsg g g.proto.nmaps d sh] else [])
      { g.proto with nmaps := (g.proto.nmaps + 1) % 65536 } alloc
  | enable (ht : QueueType.ofByte? t = some .enableqReq)
      (hq : EnableqReq.qid d < g.proto.nqueues) (hmax : EnableqReq.qid d < maxProtoQueues) :
    Effect ctx g t d
      (fun i => if i = EnableqReq.core d then
        [enableqMsg g (EnableqReq.qid d) (EnableqReq.core d)] else [])
      (g.proto.setQueue (EnableqReq.qid d)
        { g.proto.queues (EnableqReq.qid d) with core := EnableqReq.core d }) g.alloc
  | disable (ht : QueueType.ofByte? t = some .disableqReq)
      (hq : DisableqReq.qid d < g.proto.nqueues) (hmax : DisableqReq.qid d < maxProtoQueues) :
    Effect ctx g t d
      (fun i => if i = DisableqReq.core d then
        [.disableq g.id (DisableqReq.qid d) (DisableqReq.core d)] else [])
      (g.proto.setQueue (DisableqReq.qid d)
        { g.proto.queues (DisableqReq.qid d) with core := DisableqReq.core d }) g.alloc
  | ebpfAllocate (ht : QueueType.ofByte? t = some .allocateEbpfReq) {alloc : ShmAllocator}
      {sh : Region}
      (hg : shmallocAlloc ctx.heapOk g.alloc (AllocEbpfReq.size d) = some (alloc, sh)) :
    Effect ctx g t d (fun _ => []) g.proto alloc
  | ebpfFree (ht : QueueType.ofByte? t = some .freeEbpfReq) {sh : Region}
      (hg : g.ebpfShmHandle = some sh) :
    Effect ctx g t d (fun _ => []) g.proto (shmallocFree g.alloc sh)
  | upload (ht : QueueType.ofByte? t = some .uploadEbpfReq) {ms : Nat → List FastMsg}
      (hms : ∀ i, ∀ m ∈ ms i, m = .uploadEbpf g.id) :
    Effect ctx g t d ms g.proto g.alloc

/-- The effect of an entry on the context and its guest. -/
def HasEffect (ctx : ControlCtx) (g : GuestControl) (t : UInt8) (d : Nat → UInt8)
    (ctx' : ControlCtx) (g' : GuestControl) : Prop :=
  g'.id = g.id ∧ ∃ ms, Sends ctx ctx' ms ∧ Effect ctx g t d ms g'.proto g'.alloc

theorem controlGuestNewProto_effect {ctx ctx' : ControlCtx} {g g' : GuestControl} {t : UInt8}
    {d : Nat → UInt8} (ht : QueueType.ofByte? t = some .newProtoReq)
    (h : controlGuestNewProto ctx g d = .ok (ctx', g')) : HasEffect ctx g t d ctx' g' := by
  unfold controlGuestNewProto at h
  split at h
  · cases h
  · split at h
    · next ha =>
      cases h
      exact ⟨rfl, _, Sends.refl ctx, Effect.proto ht ha⟩
    · next ha =>
      cases h
      refine ⟨rfl, _, Sends.refl ctx, Effect.nothing (by simp [ht]) (by simp [ht]) fun _ => ?_⟩
      simpa using ha

theorem controlGuestNewQueue_effect {ctx ctx' : ControlCtx} {g g' : GuestControl} {t : UInt8}
    {d : Nat → UInt8} (ht : QueueType.ofByte? t = some .newQueueReq)
    (h : controlGuestNewQueue ctx g d = .ok (ctx', g')) : HasEffect ctx g t d ctx' g' := by
  unfold controlGuestNewQueue at h
  dsimp only at h
  split at h
  · cases h
  · split at h
    · next hmax =>
      cases h
      refine ⟨rfl, _, Sends.refl ctx, Effect.queueRefused ht ?_⟩
      unfold queueGrant
      rw [if_pos hmax]
    · next hmax =>
      split at h
      · cases h
      · split at h
        · next hal =>
          cases h
          refine ⟨rfl, _, Sends.refl ctx, Effect.queueRefused ht ?_⟩
          unfold queueGrant
          rw [if_neg hmax, hal]
        · next alloc sh hal =>
          split at h
          · cases h
          · next ctx₁ hs =>
            cases h
            have hg : queueGrant ctx g d = some (alloc, sh) := by
              unfold queueGrant
              rw [if_neg hmax, hal]
            exact ⟨rfl, _, fastSendAll_sends hs, Effect.queue ht hg⟩

theorem controlGuestNewMap_effect {ctx ctx' : ControlCtx} {g g' : GuestControl} {t : UInt8}
    {d : Nat → UInt8} (ht : QueueType.ofByte? t = some .newMapReq)
    (h : controlGuestNewMap ctx g d = .ok (ctx', g')) : HasEffect ctx g t d ctx' g' := by
  unfold controlGuestNewMap at h
  dsimp only at h
  split at h
  · cases h
  · split at h
    · next hmax =>
      cases h
      refine ⟨rfl, _, Sends.refl ctx, Effect.nothing (by simp [ht]) (fun _ => ?_) (by simp [ht])⟩
      unfold mapGrant
      rw [if_pos hmax]
    · next hmax =>
      split at h
      · cases h
      · split at h
        · next hal =>
          cases h
          refine ⟨rfl, _, Sends.refl ctx,
            Effect.nothing (by simp [ht]) (fun _ => ?_) (by simp [ht])⟩
          unfold mapGrant
          rw [if_neg hmax, hal]
        · next alloc sh hal =>
          split at h
          · cases h
          · next ctx₁ hs =>
            cases h
            have hg : mapGrant ctx g d = some (alloc, sh) := by
              unfold mapGrant
              rw [if_neg hmax, hal]
            exact ⟨rfl, _, fastSendAll_sends hs, Effect.map ht hg⟩

theorem controlGuestEnableq_effect {ctx ctx' : ControlCtx} {g g' : GuestControl} {t : UInt8}
    {d : Nat → UInt8} (ht : QueueType.ofByte? t = some .enableqReq)
    (h : controlGuestEnableq ctx g d = .ok (ctx', g')) : HasEffect ctx g t d ctx' g' := by
  have hnone : HasEffect ctx g t d ctx g :=
    ⟨rfl, _, Sends.refl ctx, Effect.nothing (by simp [ht]) (by simp [ht]) (by simp [ht])⟩
  unfold controlGuestEnableq at h
  dsimp only at h
  split at h
  · cases h; exact hnone
  · split at h
    · cases h; exact hnone
    · next hq =>
      split at h
      · cases h
      · split at h
        · cases h
        · next hmax =>
          split at h
          · cases h
          · next ctx₁ hs =>
            cases h
            exact ⟨rfl, _, fastSend_sends hs, Effect.enable ht (by omega) (by omega)⟩

theorem controlGuestDisableq_effect {ctx ctx' : ControlCtx} {g g' : GuestControl} {t : UInt8}
    {d : Nat → UInt8} (ht : QueueType.ofByte? t = some .disableqReq)
    (h : controlGuestDisableq ctx g d = .ok (ctx', g')) : HasEffect ctx g t d ctx' g' := by
  have hnone : HasEffect ctx g t d ctx g :=
    ⟨rfl, _, Sends.refl ctx, Effect.nothing (by simp [ht]) (by simp [ht]) (by simp [ht])⟩
  unfold controlGuestDisableq at h
  dsimp only at h
  split at h
  · cases h; exact hnone
  · split at h
    · cases h; exact hnone
    · next hq =>
      split at h
      · cases h
      · split at h
        · cases h
        · next hmax =>
          split at h
          · cases h
          · next ctx₁ hs =>
            cases h
            exact ⟨rfl, _, fastSend_sends hs, Effect.disable ht (by omega) (by omega)⟩

theorem controlEbpfAllocate_effect {ctx ctx' : ControlCtx} {g g' : GuestControl} {t : UInt8}
    {d : Nat → UInt8} (ht : QueueType.ofByte? t = some .allocateEbpfReq)
    (h : controlEbpfAllocate ctx g d = .ok (ctx', g')) : HasEffect ctx g t d ctx' g' := by
  unfold controlEbpfAllocate at h
  dsimp only at h
  split at h
  · cases h
  · split at h
    · cases h
    · split at h
      · cases h
        exact ⟨rfl, _, Sends.refl ctx,
          Effect.nothing (by simp [ht]) (by simp [ht]) (by simp [ht])⟩
      · next alloc sh hal =>
        cases h
        exact ⟨rfl, _, Sends.refl ctx, Effect.ebpfAllocate ht hal⟩

theorem controlEbpfFree_effect {ctx ctx' : ControlCtx} {g g' : GuestControl} {t : UInt8}
    {d : Nat → UInt8} (ht : QueueType.ofByte? t = some .freeEbpfReq)
    (h : controlEbpfFree ctx g = .ok (ctx', g')) : HasEffect ctx g t d ctx' g' := by
  unfold controlEbpfFree at h
  split at h
  · cases h
  · split at h
    · cases h
    · split at h
      · cases h
      · next sh hsh =>
        cases h
        unfold GuestControl.freeHandle
        cases hf : g.ebpfFreed with
        | false => exact ⟨rfl, _, Sends.refl ctx, Effect.ebpfFree ht hsh⟩
        | true =>
          exact ⟨rfl, _, Sends.refl ctx,
            Effect.nothing (by simp [ht]) (by simp [ht]) (by simp [ht])⟩

theorem controlEbpfUpload_effect {ctx ctx' : ControlCtx} {g g' : GuestControl} {t : UInt8}
    {d : Nat → UInt8} (ht : QueueType.ofByte? t = some .uploadEbpfReq)
    (h : controlEbpfUpload ctx g = .ok (ctx', g')) : HasEffect ctx g t d ctx' g' := by
  unfold controlEbpfUpload at h
  dsimp only at h
  split at h
  · cases h
  · split at h
    · cases h
      exact ⟨rfl, _, Sends.refl ctx, Effect.upload ht (by simp)⟩
    · split at h
      · cases h
        exact ⟨rfl, _, Sends.refl ctx, Effect.upload ht (by simp)⟩
      · split at h
        · cases h
          obtain ⟨ms, hs, hms⟩ := publishAggVms_sends ctx g.id ctx.config.fpCoresMax
          exact ⟨rfl, ms, hs, Effect.upload ht hms⟩
        · split at h
          · cases h
          · next ctx₁ hs =>
            cases h
            refine ⟨rfl, _, fastSendAll_sends hs, Effect.upload ht fun i m hm => ?_⟩
            split at hm
            · simpa using hm
            · cases hm

/-- **Inversion for `poll_guests`' switch**: an entry that is handled has one
of the effects above, and nothing else. -/
theorem handleEntry_effect {ctx ctx' : ControlCtx} {g g' : GuestControl} {t : UInt8}
    {d : Nat → UInt8} (h : handleEntry ctx g t d = .ok (ctx', g')) :
    HasEffect ctx g t d ctx' g' := by
  unfold handleEntry at h
  split at h
  · next ht => exact controlGuestNewProto_effect ht h
  · next ht => exact controlGuestNewQueue_effect ht h
  · next ht => exact controlGuestNewMap_effect ht h
  · next ht => exact controlGuestEnableq_effect ht h
  · next ht => exact controlGuestDisableq_effect ht h
  · next ht => exact controlEbpfAllocate_effect ht h
  · next ht => exact controlEbpfFree_effect ht h
  · next ht => exact controlEbpfUpload_effect ht h
  · cases h

/-! ## The answer to a granted map request -/

theorem newMapRes_reported (mid off nelems elsize opq : Nat) (r : Nat → UInt8) :
    reportedMap (newMapResFill mid off nelems elsize opq r) =
      { id := mid % 65536, nelems := nelems % 4294967296, elsize := elsize % 4294967296,
        size := elsize % 4294967296 * (nelems % 4294967296) % 4294967296, off := off % 18446744073709551616 } := by
  unfold reportedMap newMapResFill
  simp (disch := omega) only [leGet_lePut, leGet_lePut_ne, wordSize_two, wordSize_four,
    wordSize_eight]

theorem NewMapReq.nelems_lt (d : Nat → UInt8) : NewMapReq.nelems d < 4294967296 := leGet_lt d 6 4

theorem NewMapReq.elsize_lt (d : Nat → UInt8) : NewMapReq.elsize d < 4294967296 := leGet_lt d 10 4

/-- The map a granted request gets, as the answer reports it. -/
def grantedMap (g : GuestControl) (d : Nat → UInt8) (sh : Region) : ChamMap :=
  { id := g.proto.nmaps % 65536, nelems := NewMapReq.nelems d, elsize := NewMapReq.elsize d,
    size := NewMapReq.elsize d * NewMapReq.nelems d % 4294967296, off := sh.off % 18446744073709551616 }

theorem handleEntry_reported {ctx ctx' : ControlCtx} {g g' : GuestControl} {t : UInt8}
    {d : Nat → UInt8} {alloc : ShmAllocator} {sh : Region}
    (ht : QueueType.ofByte? t = some .newMapReq) (hg : mapGrant ctx g d = some (alloc, sh))
    (h : handleEntry ctx g t d = .ok (ctx', g')) :
    reportedMap (g'.chamGuestQ.data g.chamGuestQ.tail) = grantedMap g d sh := by
  unfold mapGrant at hg
  split at hg
  · cases hg
  · next hmax =>
    simp only [handleEntry, ht, controlGuestNewMap, if_neg hmax] at h
    split at h
    · cases h
    · split at h
      · cases h
      · rw [hg] at h
        dsimp only at h
        split at h
        · cases h
        · cases h
          simp only [GuestControl.respond, SlotQ.push, if_true]
          rw [newMapRes_reported, Nat.mod_eq_of_lt (NewMapReq.nelems_lt d),
            Nat.mod_eq_of_lt (NewMapReq.elsize_lt d)]
          rfl

/-! ## Steps of the system -/

/-- The guest's configuration is the same. -/
structure SameGuest (g g' : GuestControl) : Prop where
  id : g'.id = g.id
  proto : g'.proto = g.proto
  alloc : g'.alloc = g.alloc

theorem SameGuest.refl (g : GuestControl) : SameGuest g g := ⟨rfl, rfl, rfl⟩

/-- A step that changes no configuration and moves no message to a core. -/
structure Quiet (s s' : Sys) : Prop where
  config : s'.ctx.config = s.ctx.config
  guest : ∀ j, SameGuest (s.ctx.guests j) (s'.ctx.guests j)
  queue : s'.ctx.ctlFastQs = s.ctx.ctlFastQs
  cores : s'.cores = s.cores
  sent : s'.sent = s.sent
  created : s'.created = s.created
  reported : s'.reported = s.reported

theorem Quiet.refl (s : Sys) : Quiet s s :=
  ⟨rfl, fun _ => SameGuest.refl _, rfl, rfl, rfl, rfl, rfl⟩

/-- Core `i` takes the message `m`. -/
structure Drains (s s' : Sys) (i : Nat) (m : FastMsg) : Prop where
  config : s'.ctx.config = s.ctx.config
  guest : ∀ j, SameGuest (s.ctx.guests j) (s'.ctx.guests j)
  head : (s.ctx.ctlFastQs i).items = m :: (s'.ctx.ctlFastQs i).items
  queue : ∀ j, j ≠ i → s'.ctx.ctlFastQs j = s.ctx.ctlFastQs j
  core : s'.cores i = handleMsg (s.cores i) m
  cores : ∀ j, j ≠ i → s'.cores j = s.cores j
  sent : s'.sent = s.sent
  created : s'.created = s.created
  reported : s'.reported = s.reported

/-- The entry `(gi, t, d)` is handled and sends `ms i` to core `i`. -/
structure Handles (s s' : Sys) (gi : Nat) (t : UInt8) (d : Nat → UInt8)
    (ms : Nat → List FastMsg) : Prop where
  config : s'.ctx.config = s.ctx.config
  id : (s'.ctx.guests gi).id = (s.ctx.guests gi).id
  effect : Effect s.ctx (s.ctx.guests gi) t d ms (s'.ctx.guests gi).proto
    (s'.ctx.guests gi).alloc
  guest : ∀ j, j ≠ gi → SameGuest (s.ctx.guests j) (s'.ctx.guests j)
  queue : ∀ i, (s'.ctx.ctlFastQs i).items = (s.ctx.ctlFastQs i).items ++ ms i
  cores : s'.cores = s.cores
  sent : ∀ i, s'.sent i = s.sent i ++ ms i
  created : ∀ j, s'.created j =
    if j = gi ∧ QueueType.ofByte? t = some .newQueueReq ∧
      (queueGrant s.ctx (s.ctx.guests gi) d).isSome then
      s.created j ++ [(s.ctx.guests gi).proto.nqueues] else s.created j
  reported : ∀ j, s'.reported j =
    if j = gi ∧ QueueType.ofByte? t = some .newMapReq then
      s.reported j ++ ((mapGrant s.ctx (s.ctx.guests gi) d).map fun r =>
        grantedMap (s.ctx.guests gi) d r.2).toList
    else s.reported j

/-- The control path's other message to core `i`. -/
structure Other (s s' : Sys) (i : Nat) : Prop where
  config : s'.ctx.config = s.ctx.config
  guest : ∀ j, SameGuest (s.ctx.guests j) (s'.ctx.guests j)
  queue : ∀ j, (s'.ctx.ctlFastQs j).items =
    (s.ctx.ctlFastQs j).items ++ if j = i then [.other] else []
  cores : s'.cores = s.cores
  sent : ∀ j, s'.sent j = s.sent j ++ if j = i then [.other] else []
  created : s'.created = s.created
  reported : s'.reported = s.reported

theorem setGuest_same (ctx : ControlCtx) (i : Nat) (g : GuestControl) :
    (ctx.setGuest i g).guests i = g := if_pos rfl

theorem setGuest_ne {ctx : ControlCtx} {i j : Nat} (g : GuestControl) (h : j ≠ i) :
    (ctx.setGuest i g).guests j = ctx.guests j := if_neg h

/-- Replacing a guest by one of the same configuration. -/
theorem setGuest_sameGuest {ctx : ControlCtx} {i : Nat} {g : GuestControl}
    (h : SameGuest (ctx.guests i) g) (j : Nat) :
    SameGuest (ctx.guests j) ((ctx.setGuest i g).guests j) := by
  by_cases hj : j = i
  · rw [hj, setGuest_same]
    exact h
  · rw [setGuest_ne g hj]
    exact SameGuest.refl _

theorem Sends.newlySent {ctx ctx' : ControlCtx} {ms : Nat → List FastMsg}
    (h : Sends ctx ctx' ms) (i : Nat) : newlySent ctx ctx' i = ms i := by
  unfold Control.newlySent
  rw [h.queue, List.drop_left]

/-- The context and locals after the iteration that handles an entry. -/
theorem pollGuestsIter_handled {ctx ctx' : ControlCtx} {l l' : PollLocals} {t : UInt8}
    {d : Nat → UInt8} (he : (ctx.guests ctx.nextGuest).guestChamQ.head? = some (t, d))
    (h : pollGuestsIter ctx l = .ok (ctx', l')) :
    ∃ ctx₁ g₁, handleEntry ctx (ctx.guests ctx.nextGuest) t d = .ok (ctx₁, g₁) ∧
      ctx' = ctx₁.setGuest ctx.nextGuest { g₁ with guestChamQ := g₁.guestChamQ.pop } := by
  unfold pollGuestsIter at h
  simp only [he] at h
  split at h
  · cases h
  · next ctx₁ g₁ hh =>
    cases h
    exact ⟨ctx₁, g₁, hh, rfl⟩

/-- Handling an entry, seen on the whole system. -/
theorem Sys.record_handles {s : Sys} {gi : Nat} {t : UInt8} {d : Nat → UInt8}
    {ctx₁ : ControlCtx} {g₁ : GuestControl} {l : PollLocals}
    (h : handleEntry s.ctx (s.ctx.guests gi) t d = .ok (ctx₁, g₁)) :
    let ctx' := ctx₁.setGuest gi { g₁ with guestChamQ := g₁.guestChamQ.pop }
    ∃ ms, Handles s { s.record ctx' gi t d with ctx := ctx', poll := some l } gi t d ms := by
  intro ctx'
  obtain ⟨hid, ms, hs, heff⟩ := handleEntry_effect h
  have hself : ctx'.guests gi = { g₁ with guestChamQ := g₁.guestChamQ.pop } := setGuest_same _ _ _
  have hguests : ctx₁.guests = s.ctx.guests := by rw [hs.rest]
  have hq : ctx'.ctlFastQs = ctx₁.ctlFastQs := rfl
  refine ⟨ms, ?_, ?_, ?_, ?_, ?_, rfl, ?_, fun j => rfl, fun j => ?_⟩
  · show ctx₁.config = s.ctx.config
    rw [hs.rest]
  · show (ctx'.guests gi).id = _
    rw [hself]
    exact hid
  · show Effect _ _ t d ms (ctx'.guests gi).proto (ctx'.guests gi).alloc
    rw [hself]
    exact heff
  · intro j hj
    show SameGuest _ (ctx'.guests j)
    rw [setGuest_ne _ hj, hguests]
    exact SameGuest.refl _
  · intro i
    show (ctx'.ctlFastQs i).items = _
    rw [hq]
    exact hs.queue i
  · intro i
    show s.sent i ++ newlySent s.ctx ctx₁ i = _
    rw [hs.newlySent]
  · show (if _ then s.reported j ++ [reportedMap ((ctx'.guests gi).chamGuestQ.data _)]
      else s.reported j) = _
    by_cases ht : j = gi ∧ QueueType.ofByte? t = some .newMapReq
    · rw [if_pos ht]
      cases hg : mapGrant s.ctx (s.ctx.guests gi) d with
      | none => simp
      | some r =>
        rw [if_pos ⟨ht.1, ht.2, rfl⟩, hself]
        rw [handleEntry_reported ht.2 hg h]
        rfl
    · rw [if_neg ht, if_neg (fun hc => ht ⟨hc.1, hc.2.1⟩)]

/-- The next entry is the head of the next guest's ring. -/
theorem Sys.nextEntry_some {s : Sys} {gi : Nat} {t : UInt8} {d : Nat → UInt8}
    (hn : s.nextEntry = some (gi, t, d)) :
    ∃ l, s.poll = some l ∧ ¬ s.ctx.nGuests ≤ l.guestsPolled ∧ s.ctx.nextGuest = gi ∧
      (s.ctx.guests gi).guestChamQ.head? = some (t, d) := by
  unfold Sys.nextEntry at hn
  cases hp : s.poll with
  | none => rw [hp] at hn; cases hn
  | some l =>
    rw [hp] at hn
    dsimp only at hn
    split at hn
    · cases hn
    · next hdone =>
      obtain ⟨e, hee, heq⟩ := Option.map_eq_some_iff.mp hn
      simp only [Prod.mk.injEq] at heq
      obtain ⟨rfl, rfl, rfl⟩ := heq
      exact ⟨l, rfl, hdone, rfl, hee⟩

/-- The next entry, when handling it does not bring the control path down. -/
theorem Sys.control_handles {s : Sys} {gi : Nat} {t : UInt8} {d : Nat → UInt8}
    (hn : s.nextEntry = some (gi, t, d)) (hup : s.control.down = none) :
    ∃ ctx₁ g₁ ms, handleEntry s.ctx (s.ctx.guests gi) t d = .ok (ctx₁, g₁) ∧
      s.control.ctx.guests gi = { g₁ with guestChamQ := g₁.guestChamQ.pop } ∧
      Handles s s.control gi t d ms := by
  obtain ⟨l, hp, hdone, rfl, hhead⟩ := Sys.nextEntry_some hn
  cases hi : pollGuestsIter s.ctx l with
  | error e => simp [Sys.control, hp, if_neg hdone, hi] at hup
  | ok r =>
    obtain ⟨ctx', l'⟩ := r
    obtain ⟨ctx₁, g₁, hh, rfl⟩ := pollGuestsIter_handled hhead hi
    obtain ⟨ms, hms⟩ := @Sys.record_handles s _ _ _ ctx₁ g₁ l' hh
    refine ⟨ctx₁, g₁, ms, hh, ?_, ?_⟩
    · simp only [Sys.control, hp, if_neg hdone, hi, hn]
      exact setGuest_same _ _ _
    · simp only [Sys.control, hp, if_neg hdone, hi, hn]
      exact hms

/-- A control path that goes down changes nothing else. -/
theorem Sys.control_down {s : Sys} {gi : Nat} {t : UInt8} {d : Nat → UInt8}
    (hup : s.down = none) (hn : s.nextEntry = some (gi, t, d)) (hd : s.control.down ≠ none) :
    s.control = { s with down := s.control.down } := by
  obtain ⟨l, hp, hdone, rfl, hhead⟩ := Sys.nextEntry_some hn
  cases hi : pollGuestsIter s.ctx l with
  | error e => simp only [Sys.control, hp, if_neg hdone, hi]
  | ok r =>
    refine absurd ?_ hd
    simp only [Sys.control, hp, if_neg hdone, hi, hn, Sys.record]
    exact hup

/-- A step of the control path that handles no entry. -/
theorem Sys.control_quiet {s : Sys} (hn : s.nextEntry = none) :
    Quiet s s.control ∧ s.control.ctx.guests = s.ctx.guests := by
  cases hp : s.poll with
  | none =>
    simp only [Sys.control, hp]
    exact ⟨⟨rfl, fun _ => SameGuest.refl _, rfl, rfl, rfl, rfl, rfl⟩, trivial⟩
  | some l =>
    by_cases hdone : s.ctx.nGuests ≤ l.guestsPolled
    · simp only [Sys.control, hp, if_pos hdone, pollGuestsLeave]
      split <;> exact ⟨⟨rfl, fun _ => SameGuest.refl _, rfl, rfl, rfl, rfl, rfl⟩, rfl⟩
    · have he : (s.ctx.guests s.ctx.nextGuest).guestChamQ.head? = none := by
        simpa only [Sys.nextEntry, hp, if_neg hdone, Option.map_eq_none_iff] using hn
      simp only [Sys.control, hp, if_neg hdone, pollGuestsIter, he, hn]
      exact ⟨⟨rfl, fun _ => SameGuest.refl _, rfl, rfl, rfl, rfl, rfl⟩, trivial⟩

theorem Sys.control_cases {s : Sys} (hup : s.down = none) :
    Quiet s s.control ∨ ∃ gi t d ms, s.nextEntry = some (gi, t, d) ∧
      Handles s s.control gi t d ms := by
  cases hn : s.nextEntry with
  | none => exact Or.inl (Sys.control_quiet hn).1
  | some e =>
    obtain ⟨gi, t, d⟩ := e
    cases hd : s.control.down with
    | none =>
      obtain ⟨ctx₁, g₁, ms, -, -, hh⟩ := Sys.control_handles hn hd
      exact Or.inr ⟨gi, t, d, ms, rfl, hh⟩
    | some e =>
      left
      rw [Sys.control_down hup hn (by rw [hd]; exact Option.some_ne_none e)]
      exact ⟨rfl, fun _ => SameGuest.refl _, rfl, rfl, rfl, rfl, rfl⟩

/-- **Inversion for a step of the system.** -/
theorem Sys.step_cases (s : Sys) (a : Act) :
    Quiet s (s.step a).1 ∨ (∃ i m, Drains s (s.step a).1 i m) ∨
      (∃ i, Other s (s.step a).1 i) ∨
      ∃ gi t d ms, s.handles a = some (gi, t, d) ∧ Handles s (s.step a).1 gi t d ms := by
  unfold Sys.step
  by_cases hd : s.down.isSome
  · left
    rw [if_pos hd]
    exact Quiet.refl s
  · rw [if_neg hd]
    cases a with
    | post gi t d =>
      left
      simp only [Sys.post]
      split
      · exact ⟨rfl, setGuest_sameGuest ⟨rfl, rfl, rfl⟩, rfl, rfl, rfl, rfl, rfl⟩
      · exact Quiet.refl s
    | read gi =>
      left
      simp only [Sys.read]
      split
      · exact Quiet.refl s
      · exact ⟨rfl, setGuest_sameGuest ⟨rfl, rfl, rfl⟩, rfl, rfl, rfl, rfl, rfl⟩
    | drain i =>
      simp only [Sys.drain]
      split
      · exact Or.inl (Quiet.refl s)
      · next m hm =>
        right; left
        refine ⟨i, m, rfl, fun _ => SameGuest.refl _, ?_, ?_, ?_, ?_, rfl, rfl, rfl⟩
        · show _ = m :: ((s.ctx.setFastQ i _).ctlFastQs i).items
          rw [ControlCtx.setFastQ]
          simp only [if_true]
          exact Fifo.head_cons hm
        · intro j hj
          exact if_neg hj
        · exact if_pos rfl
        · intro j hj
          exact if_neg hj
    | other i =>
      simp only [Sys.other]
      split
      · next q _ hq =>
        right; right; left
        have hs := push_sends hq
        refine ⟨i, rfl, fun _ => SameGuest.refl _, hs.queue, rfl, ?_, rfl, rfl⟩
        intro j
        dsimp only
        by_cases hj : j = i
        · rw [if_pos hj, if_pos hj]
        · rw [if_neg hj, if_neg hj, List.append_nil]
      · exact Or.inl (Quiet.refl s)
    | env heapOk uploadOk =>
      left
      exact ⟨rfl, fun _ => SameGuest.refl _, rfl, rfl, rfl, rfl, rfl⟩
    | control =>
      rcases Sys.control_cases (Option.not_isSome_iff_eq_none.mp hd) with hq | ⟨gi, t, d, ms, hn, hh⟩
      · exact Or.inl hq
      · right; right; right
        refine ⟨gi, t, d, ms, ?_, hh⟩
        unfold Sys.handles
        rw [if_neg hd, hn]

/-- The configuration never changes. -/
theorem Sys.step_config (s : Sys) (a : Act) : (s.step a).1.ctx.config = s.ctx.config := by
  rcases s.step_cases a with hq | ⟨i, m, hd⟩ | ⟨i, ho⟩ | ⟨gj, t, d, ms, -, hh⟩
  · exact hq.config
  · exact hd.config
  · exact ho.config
  · exact hh.config

/-- A step that handles an entry is a step of a control path that is up. -/
theorem Sys.handles_control {s : Sys} {a : Act} {gi : Nat} {t : UInt8} {d : Nat → UInt8}
    (he : s.handles a = some (gi, t, d)) :
    s.down = none ∧ s.nextEntry = some (gi, t, d) ∧ (s.step a).1 = s.control := by
  cases a with
  | post | read | drain | other | env => cases he
  | control =>
    by_cases hd : s.down.isSome
    · simp [Sys.handles, hd] at he
    · simp only [Sys.handles, if_neg hd] at he
      refine ⟨Option.not_isSome_iff_eq_none.mp hd, he, ?_⟩
      unfold Sys.step
      rw [if_neg hd]

/-- A step that handles an entry and does not bring the control path down
runs the handler on the guest. -/
theorem Sys.step_handles {s : Sys} {a : Act} {gi : Nat} {t : UInt8} {d : Nat → UInt8}
    (he : s.handles a = some (gi, t, d)) (hup : (s.step a).1.down = none) :
    ∃ ctx₁ g₁ ms, handleEntry s.ctx (s.ctx.guests gi) t d = .ok (ctx₁, g₁) ∧
      (s.step a).1.ctx.guests gi = { g₁ with guestChamQ := g₁.guestChamQ.pop } ∧
      Handles s (s.step a).1 gi t d ms := by
  obtain ⟨-, hn, hstep⟩ := Sys.handles_control he
  rw [hstep] at hup ⊢
  exact Sys.control_handles hn hup

/-- The entry a step handles is the head of its guest's ring. -/
theorem Sys.handles_head {s : Sys} {a : Act} {gi : Nat} {t : UInt8} {d : Nat → UInt8}
    (he : s.handles a = some (gi, t, d)) : (s.ctx.guests gi).guestChamQ.head? = some (t, d) := by
  obtain ⟨-, hn, -⟩ := Sys.handles_control he
  obtain ⟨-, -, -, -, hhead⟩ := Sys.nextEntry_some hn
  exact hhead

end Chamelio.Control
