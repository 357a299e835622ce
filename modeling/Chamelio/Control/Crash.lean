import Chamelio.Control.GuestSpec

/-!
# When a guest takes the control path down

Every handler asserts that the queues it writes to have a free slot, and an
entry of unknown type ends in `abort()`. The queues are bounded and drained
by the guest and by the cores at their own pace, so whether an entry is
survived depends on the state it meets. `Handleable` is that condition, and
it is exact.
-/

namespace Chamelio.Control

open Chamelio.Lib Chamelio.Util Chamelio.Fast

/-- Every core's control queue has a free slot. -/
def CoresHaveRoom (ctx : ControlCtx) : Prop :=
  ∀ i, i < ctx.config.fpCoresMax → (ctx.ctlFastQs i).hasRoom = true

/-- A queue id and a core pass the checks of `control_guest_enableq` and
`control_guest_disableq`: then the core's queue must have a free slot and
the id must be inside `g->proto.queues`. -/
def QueueReqHandleable (ctx : ControlCtx) (g : GuestControl) (qid core : Nat) : Prop :=
  core < ctx.config.fpCoresMax → qid < g.proto.nqueues →
    (ctx.ctlFastQs core).hasRoom = true ∧ qid < maxProtoQueues

/-- The control path survives the entry. -/
def Handleable (ctx : ControlCtx) (g : GuestControl) (t : UInt8) (d : Nat → UInt8) : Prop :=
  match QueueType.ofByte? t with
  | some .newProtoReq => g.chamGuestQ.hasRoom = true
  | some .newQueueReq =>
    g.chamGuestQ.hasRoom = true ∧ (g.proto.nqueues < maxProtoQueues → g.freelistLoops = false) ∧
      ((queueGrant ctx g d).isSome → CoresHaveRoom ctx)
  | some .newMapReq =>
    g.chamGuestQ.hasRoom = true ∧ (g.proto.nmaps < maxProtoMaps → g.freelistLoops = false) ∧
      ((mapGrant ctx g d).isSome → CoresHaveRoom ctx)
  | some .enableqReq => QueueReqHandleable ctx g (EnableqReq.qid d) (EnableqReq.core d)
  | some .disableqReq => QueueReqHandleable ctx g (DisableqReq.qid d) (DisableqReq.core d)
  | some .allocateEbpfReq => g.chamGuestQ.hasRoom = true ∧ g.freelistLoops = false
  | some .freeEbpfReq =>
    g.chamGuestQ.hasRoom = true ∧ g.freelistLoops = false ∧ g.ebpfShmHandle ≠ none
  | some .uploadEbpfReq =>
    g.chamGuestQ.hasRoom = true ∧ (ctx.config.fpProtoMode = .ebpf → ctx.uploadOk = true →
      ctx.config.fpJitCombined = false → CoresHaveRoom ctx)
  | _ => False

instance (ctx : ControlCtx) : Decidable (CoresHaveRoom ctx) :=
  inferInstanceAs (Decidable (∀ i, i < ctx.config.fpCoresMax → (ctx.ctlFastQs i).hasRoom = true))

instance (ctx : ControlCtx) (g : GuestControl) (qid core : Nat) :
    Decidable (QueueReqHandleable ctx g qid core) :=
  inferInstanceAs (Decidable (_ → _ → _ ∧ _))

instance (ctx : ControlCtx) (g : GuestControl) (t : UInt8) (d : Nat → UInt8) :
    Decidable (Handleable ctx g t d) := by
  unfold Handleable
  split <;> infer_instance

/-! ## Sending to the cores -/

/-- The computation returns a value. -/
def Survives {α : Type} (x : Except Crash α) : Prop := ∃ r, x = .ok r

theorem survives_ok {α : Type} (r : α) : Survives (.ok r : Except Crash α) := ⟨r, rfl⟩

theorem not_survives_error {α : Type} (e : Crash) : ¬ Survives (.error e : Except Crash α) := by
  rintro ⟨r, h⟩
  cases h

theorem push_isSome_iff {q : Fifo FastMsg} {m : FastMsg} :
    (∃ q', q.push m = some q') ↔ q.hasRoom = true := by
  unfold Fifo.push
  cases q.hasRoom <;> simp

theorem fastSend_survives_iff {ctx : ControlCtx} {i : Nat} {m : FastMsg} :
    Survives (fastSend ctx i m) ↔ (ctx.ctlFastQs i).hasRoom = true := by
  rw [← @push_isSome_iff _ m]
  unfold fastSend
  cases hp : (ctx.ctlFastQs i).push m with
  | none => simp [not_survives_error]
  | some q => simp [survives_ok]

/-- The loop has not touched the queues behind the cores it served. -/
theorem fastSendAll_later {ctx ctx' : ControlCtx} {m : FastMsg} {n i : Nat}
    (h : fastSendAll ctx m n = .ok ctx') (hi : n ≤ i) : ctx'.ctlFastQs i = ctx.ctlFastQs i := by
  induction n generalizing ctx' with
  | zero =>
    cases h
    rfl
  | succ n ih =>
    rw [fastSendAll] at h
    split at h
    · next ctx₁ h₁ =>
      unfold fastSend at h
      split at h
      · cases h
        rw [← ih h₁ (by omega)]
        exact if_neg (by omega)
      · cases h
    · cases h

theorem fastSendAll_survives_iff {ctx : ControlCtx} {m : FastMsg} {n : Nat} :
    Survives (fastSendAll ctx m n) ↔ ∀ i, i < n → (ctx.ctlFastQs i).hasRoom = true := by
  induction n with
  | zero =>
    refine ⟨fun _ i hi => absurd hi (Nat.not_lt_zero i), fun _ => survives_ok ctx⟩
  | succ n ih =>
    rw [fastSendAll]
    constructor
    · intro hs i hi
      split at hs
      · next ctx₁ h₁ =>
        by_cases hin : i = n
        · rw [hin, ← fastSendAll_later h₁ (Nat.le_refl n)]
          exact fastSend_survives_iff.mp hs
        · exact ih.mp ⟨ctx₁, h₁⟩ i (by omega)
      · exact absurd hs (not_survives_error _)
    · intro hroom
      obtain ⟨ctx₁, h₁⟩ := ih.mpr fun i hi => hroom i (by omega)
      rw [h₁]
      apply fastSend_survives_iff.mpr
      rw [fastSendAll_later h₁ (Nat.le_refl n)]
      exact hroom n (by omega)

/-- A handler that ends in a message to every core. -/
theorem sendAll_match_survives_iff {α : Type} {ctx : ControlCtx} {m : FastMsg} {n : Nat}
    {f : ControlCtx → α} :
    Survives (match fastSendAll ctx m n with
      | .error e => (.error e : Except Crash α)
      | .ok ctx' => .ok (f ctx')) ↔ ∀ i, i < n → (ctx.ctlFastQs i).hasRoom = true := by
  rw [← @fastSendAll_survives_iff ctx m n]
  cases fastSendAll ctx m n with
  | error e => simp [not_survives_error]
  | ok ctx' => simp [survives_ok]

theorem send_match_survives_iff {α : Type} {ctx : ControlCtx} {i : Nat} {m : FastMsg}
    {f : ControlCtx → α} :
    Survives (match fastSend ctx i m with
      | .error e => (.error e : Except Crash α)
      | .ok ctx' => .ok (f ctx')) ↔ (ctx.ctlFastQs i).hasRoom = true := by
  rw [← @fastSend_survives_iff ctx i m]
  cases fastSend ctx i m with
  | error e => simp [not_survives_error]
  | ok ctx' => simp [survives_ok]

/-! ## The handlers -/

theorem controlGuestNewProto_survives_iff {ctx : ControlCtx} {g : GuestControl}
    {d : Nat → UInt8} :
    Survives (controlGuestNewProto ctx g d) ↔ g.chamGuestQ.hasRoom = true := by
  unfold controlGuestNewProto
  cases hr : g.chamGuestQ.hasRoom with
  | false => simp [not_survives_error]
  | true =>
    simp only [Bool.not_true, Bool.false_eq_true, if_false, iff_true]
    split <;> exact survives_ok _

theorem controlGuestNewQueue_survives_iff {ctx : ControlCtx} {g : GuestControl}
    {d : Nat → UInt8} :
    Survives (controlGuestNewQueue ctx g d) ↔
      g.chamGuestQ.hasRoom = true ∧ (g.proto.nqueues < maxProtoQueues → g.freelistLoops = false) ∧
        ((queueGrant ctx g d).isSome → CoresHaveRoom ctx) := by
  unfold controlGuestNewQueue queueGrant
  dsimp only
  cases hr : g.chamGuestQ.hasRoom with
  | false => simp [not_survives_error]
  | true =>
    simp only [Bool.not_true, Bool.false_eq_true, if_false, true_and]
    by_cases hmax : maxProtoQueues ≤ g.proto.nqueues
    · rw [if_pos hmax, if_pos hmax]
      simp [survives_ok, Nat.not_lt_of_le hmax]
    · rw [if_neg hmax, if_neg hmax]
      cases hl : g.freelistLoops with
      | true => simp [not_survives_error, Nat.lt_of_not_le hmax]
      | false =>
        simp only [Bool.false_eq_true, if_false, implies_true, true_and]
        cases shmallocAlloc ctx.heapOk g.alloc (newQueueSize d) with
        | none => simp [survives_ok]
        | some r =>
          refine sendAll_match_survives_iff.trans ?_
          simp [CoresHaveRoom]

theorem controlGuestNewMap_survives_iff {ctx : ControlCtx} {g : GuestControl}
    {d : Nat → UInt8} :
    Survives (controlGuestNewMap ctx g d) ↔
      g.chamGuestQ.hasRoom = true ∧ (g.proto.nmaps < maxProtoMaps → g.freelistLoops = false) ∧
        ((mapGrant ctx g d).isSome → CoresHaveRoom ctx) := by
  unfold controlGuestNewMap mapGrant
  dsimp only
  cases hr : g.chamGuestQ.hasRoom with
  | false => simp [not_survives_error]
  | true =>
    simp only [Bool.not_true, Bool.false_eq_true, if_false, true_and]
    by_cases hmax : maxProtoMaps ≤ g.proto.nmaps
    · rw [if_pos hmax, if_pos hmax]
      simp [survives_ok, Nat.not_lt_of_le hmax]
    · rw [if_neg hmax, if_neg hmax]
      cases hl : g.freelistLoops with
      | true => simp [not_survives_error, Nat.lt_of_not_le hmax]
      | false =>
        simp only [Bool.false_eq_true, if_false, implies_true, true_and]
        cases shmallocAlloc ctx.heapOk g.alloc (newMapSize d) with
        | none => simp [survives_ok]
        | some r =>
          refine sendAll_match_survives_iff.trans ?_
          simp [CoresHaveRoom]

/-- The checks `control_guest_enableq` and `control_guest_disableq` share,
in front of a message `m` to the core. -/
theorem queueReq_survives_iff {ctx : ControlCtx} {g : GuestControl} {qid core : Nat}
    {m : FastMsg} {f : ControlCtx → ControlCtx × GuestControl} :
    Survives (if ctx.config.fpCoresMax ≤ core then (.ok (ctx, g) : Except Crash _)
      else if g.proto.nqueues ≤ qid then .ok (ctx, g)
      else if !(ctx.ctlFastQs core).hasRoom then .error .assertion
      else if maxProtoQueues ≤ qid then .error .undefined
      else match fastSend ctx core m with
        | .error e => .error e
        | .ok ctx' => .ok (f ctx')) ↔ QueueReqHandleable ctx g qid core := by
  unfold QueueReqHandleable
  by_cases hc : ctx.config.fpCoresMax ≤ core
  · rw [if_pos hc]
    exact ⟨fun _ h => absurd h (by omega), fun _ => survives_ok _⟩
  · rw [if_neg hc]
    by_cases hq : g.proto.nqueues ≤ qid
    · rw [if_pos hq]
      exact ⟨fun _ _ h => absurd h (by omega), fun _ => survives_ok _⟩
    · rw [if_neg hq]
      cases hr : (ctx.ctlFastQs core).hasRoom with
      | false =>
        refine ⟨fun h => absurd h (not_survives_error _), fun h => ?_⟩
        exact absurd (h (by omega) (by omega)).1 (by simp)
      | true =>
        simp only [Bool.not_true, Bool.false_eq_true, if_false, true_and]
        by_cases hmax : maxProtoQueues ≤ qid
        · rw [if_pos hmax]
          refine ⟨fun h => absurd h (not_survives_error _), fun h => ?_⟩
          exact absurd (h (by omega) (by omega)) (by omega)
        · rw [if_neg hmax, send_match_survives_iff, hr]
          exact ⟨fun _ _ _ => by omega, fun _ => rfl⟩

theorem controlEbpfAllocate_survives_iff {ctx : ControlCtx} {g : GuestControl}
    {d : Nat → UInt8} :
    Survives (controlEbpfAllocate ctx g d) ↔
      g.chamGuestQ.hasRoom = true ∧ g.freelistLoops = false := by
  unfold controlEbpfAllocate
  dsimp only
  cases hr : g.chamGuestQ.hasRoom with
  | false => simp [not_survives_error]
  | true =>
    simp only [Bool.not_true, Bool.false_eq_true, if_false, true_and]
    cases hl : g.freelistLoops with
    | true => simp [not_survives_error]
    | false =>
      simp only [Bool.false_eq_true, if_false, iff_true]
      split <;> exact survives_ok _

theorem controlEbpfFree_survives_iff {ctx : ControlCtx} {g : GuestControl} :
    Survives (controlEbpfFree ctx g) ↔
      g.chamGuestQ.hasRoom = true ∧ g.freelistLoops = false ∧ g.ebpfShmHandle ≠ none := by
  unfold controlEbpfFree
  cases hr : g.chamGuestQ.hasRoom with
  | false => simp [not_survives_error]
  | true =>
    simp only [Bool.not_true, Bool.false_eq_true, if_false, true_and]
    cases hl : g.freelistLoops with
    | true => simp [not_survives_error]
    | false =>
      simp only [Bool.false_eq_true, if_false, true_and]
      cases g.ebpfShmHandle with
      | none => simp [not_survives_error]
      | some sh => simp [survives_ok]

theorem controlEbpfUpload_survives_iff {ctx : ControlCtx} {g : GuestControl} :
    Survives (controlEbpfUpload ctx g) ↔
      g.chamGuestQ.hasRoom = true ∧ (ctx.config.fpProtoMode = .ebpf → ctx.uploadOk = true →
        ctx.config.fpJitCombined = false → CoresHaveRoom ctx) := by
  unfold controlEbpfUpload
  dsimp only
  cases hr : g.chamGuestQ.hasRoom with
  | false => simp [not_survives_error]
  | true =>
    simp only [Bool.not_true, Bool.false_eq_true, if_false, true_and]
    by_cases hm : ctx.config.fpProtoMode = .ebpf
    · rw [if_neg (by simp [hm])]
      cases hu : ctx.uploadOk with
      | false => simp [survives_ok]
      | true =>
        cases hc : ctx.config.fpJitCombined with
        | true => simp [survives_ok]
        | false =>
          simp only [Bool.not_true, Bool.false_eq_true, if_false]
          refine sendAll_match_survives_iff.trans ?_
          simp [hm, CoresHaveRoom]
    · rw [if_pos hm]
      simp [survives_ok, hm]

/-- **The switch of `poll_guests` survives an entry exactly when it is
handleable.** -/
theorem handleEntry_survives_iff {ctx : ControlCtx} {g : GuestControl} {t : UInt8}
    {d : Nat → UInt8} : Survives (handleEntry ctx g t d) ↔ Handleable ctx g t d := by
  unfold handleEntry Handleable
  cases QueueType.ofByte? t with
  | none => exact ⟨fun h => absurd h (not_survives_error _), fun h => h.elim⟩
  | some ty =>
    cases ty with
    | newProtoReq => exact controlGuestNewProto_survives_iff
    | newQueueReq => exact controlGuestNewQueue_survives_iff
    | newMapReq => exact controlGuestNewMap_survives_iff
    | enableqReq => exact queueReq_survives_iff
    | disableqReq => exact queueReq_survives_iff
    | allocateEbpfReq => exact controlEbpfAllocate_survives_iff
    | freeEbpfReq => exact controlEbpfFree_survives_iff
    | uploadEbpfReq => exact controlEbpfUpload_survives_iff
    | empty | newGuestReq | newProtoRes | newQueueRes | newMapRes | allocateEbpfRes
    | uploadEbpfRes | freeEbpfRes | arpLookup | arpUpdate | arpRxReq | arpRxRep | arpTxPkt
    | arpPkt | mbufPending | mbufTx =>
      exact ⟨fun h => absurd h (not_survives_error _), fun h => h.elim⟩

/-! ## Runs -/

/-- The entry this step handles, if any, is one the control path survives. -/
def SafeStep (s : Sys) (a : Act) : Prop :=
  ∀ gi t d, s.handles a = some (gi, t, d) → Handleable s.ctx (s.ctx.guests gi) t d

instance (s : Sys) (a : Act) : Decidable (SafeStep s a) :=
  match h : s.handles a with
  | none => .isTrue fun _ _ _ he => by rw [h] at he; cases he
  | some (gi, t, d) => decidable_of_iff (Handleable s.ctx (s.ctx.guests gi) t d)
      ⟨fun hok _ _ _ he => by rw [h] at he; cases he; exact hok, fun hs => hs gi t d h⟩

theorem Sys.control_down_iff {s : Sys} (hup : s.down = none) :
    s.control.down = none ↔
      ∀ gi t d, s.nextEntry = some (gi, t, d) → Handleable s.ctx (s.ctx.guests gi) t d := by
  cases hp : s.poll with
  | none => simp [Sys.control, Sys.nextEntry, hp, hup]
  | some l =>
    by_cases hdone : s.ctx.nGuests ≤ l.guestsPolled
    · simp [Sys.control, Sys.nextEntry, hp, hdone, hup]
    · have hnext : s.nextEntry = (s.ctx.guests s.ctx.nextGuest).guestChamQ.head?.map
          fun e => (s.ctx.nextGuest, e.1, e.2) := by
        simp only [Sys.nextEntry, hp, if_neg hdone]
      rw [hnext]
      cases he : (s.ctx.guests s.ctx.nextGuest).guestChamQ.head? with
      | none =>
        simp only [Option.map_none, reduceCtorEq, false_implies, implies_true, iff_true]
        simp only [Sys.control, hp, if_neg hdone, pollGuestsIter, he, hnext, Option.map_none]
        exact hup
      | some e =>
        obtain ⟨t, d⟩ := e
        have hsurv := @handleEntry_survives_iff s.ctx (s.ctx.guests s.ctx.nextGuest) t d
        cases hh : handleEntry s.ctx (s.ctx.guests s.ctx.nextGuest) t d with
        | error e =>
          have hno : ¬ Handleable s.ctx (s.ctx.guests s.ctx.nextGuest) t d := by
            rw [← hsurv, hh]
            exact not_survives_error e
          have hd : s.control.down = some e := by
            simp only [Sys.control, hp, if_neg hdone, pollGuestsIter, he, hh]
          rw [hd]
          refine ⟨fun h => (by cases h), fun h => ?_⟩
          exact absurd (h _ t d rfl) hno
        | ok r =>
          have hyes : Handleable s.ctx (s.ctx.guests s.ctx.nextGuest) t d := by
            rw [← hsurv, hh]
            exact survives_ok r
          have hd : s.control.down = none := by
            simp only [Sys.control, hp, if_neg hdone, pollGuestsIter, he, hh, hnext,
              Option.map_some, Sys.record]
            exact hup
          rw [hd]
          refine ⟨fun _ gi t' d' h => ?_, fun _ => rfl⟩
          obtain ⟨rfl, rfl, rfl⟩ : s.ctx.nextGuest = gi ∧ t = t' ∧ d = d' := by simpa using h
          exact hyes

/-- A step brings the control path down exactly when it is not safe. -/
theorem Sys.step_down_iff {s : Sys} (hup : s.down = none) (a : Act) :
    (s.step a).1.down = none ↔ SafeStep s a := by
  have hs : ¬ s.down.isSome = true := by rw [hup]; simp
  unfold Sys.step SafeStep Sys.handles
  rw [if_neg hs]
  cases a with
  | control =>
    rw [if_neg hs]
    exact Sys.control_down_iff hup
  | post gi t d =>
    simp only [Sys.post, reduceCtorEq, false_implies, implies_true, iff_true]
    split <;> exact hup
  | read gi =>
    simp only [Sys.read, reduceCtorEq, false_implies, implies_true, iff_true]
    split <;> exact hup
  | drain i =>
    simp only [Sys.drain, reduceCtorEq, false_implies, implies_true, iff_true]
    split <;> exact hup
  | other i =>
    simp only [Sys.other, reduceCtorEq, false_implies, implies_true, iff_true]
    split <;> exact hup
  | env heapOk uploadOk =>
    simp only [reduceCtorEq, false_implies, implies_true, iff_true]
    exact hup

/-- **When guests cannot take the control path down.** In every run in which
each entry that `poll_guests` takes is handleable in the state it meets, the
control path stays up; and from any state of such a run the next step brings
it down exactly when the entry it handles is not. -/
theorem control_stays_up {s₀ s : Sys} {log : List Unit} (hup : s₀.down = none)
    (hrun : Run SafeStep Sys.step s₀ log s) :
    s.down = none ∧ ∀ a, (s.step a).1.down = none ↔ SafeStep s a := by
  have hinv : s.down = none := by
    refine hrun.inv (I := fun _ s => s.down = none) hup ?_
    intro _ s a h hok
    exact (Sys.step_down_iff h a).mpr hok
  exact ⟨hinv, fun a => Sys.step_down_iff hinv a⟩

/-- A registration and a queue. -/
theorem control_stays_up_queue :
    (smallSys.exec
      [.post 0 QueueType.newQueueReq.toByte (newQueueReqFill 4 64 0 fun _ => 0), .control,
        .control]).down = none := by
  have h₁ : Run SafeStep Sys.step smallSys _ _ :=
    Run.snoc (a := .post 0 QueueType.newQueueReq.toByte (newQueueReqFill 4 64 0 fun _ => 0))
      Run.nil (fun gi t d h => by cases h)
  have h₂ := Run.snoc (a := .control) h₁ (fun gi t d h => by cases h)
  have hrun := Run.snoc (a := .control) h₂ (fun gi t d h => by
    cases h
    refine ⟨rfl, fun _ => rfl, fun _ i hi => ?_⟩
    rfl)
  exact (control_stays_up rfl hrun).1

/-- An entry with the type byte of an answer. -/
theorem unknown_type_aborts :
    (smallSys.exec [.post 0 QueueType.newProtoRes.toByte (fun _ => 0), .control,
      .control]).down = some .aborted := by
  decide +kernel

end Chamelio.Control
