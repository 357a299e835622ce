import Chamelio.Control.GuestSpec

/-!
# Queue ids and refused requests

`g->proto.nqueues` is the id of the next queue and the bound every later
request is checked against. `control_guest_new_queue` advances it before it
knows whether the request can be granted, so a refused request moves the
bound past an id that names nothing. While no request is refused, every id
below the bound is a created queue and the cores only hear of such ids.
-/

namespace Chamelio.Control

open Chamelio.Lib Chamelio.Util Chamelio.Fast

/-- The queue id a message enables or disables for the guest `gid`. -/
def forwardedQid (gid : Nat) : FastMsg → Option Nat
  | .enableq g _ qid _ _ _ _ => if g = gid then some qid else none
  | .disableq g qid _ => if g = gid then some qid else none
  | _ => none

/-- The ids of guest `gi` are valid: the counter keeps the maximum, every id
below it was created, and the cores were only told of created ids. -/
structure QueueIdsValid (gi : Nat) (s : Sys) : Prop where
  max : (s.ctx.guests gi).proto.nqueues ≤ maxProtoQueues
  created : ∀ q, q < (s.ctx.guests gi).proto.nqueues → q ∈ s.created gi
  forwarded : ∀ i, ∀ m ∈ s.sent i, ∀ q, forwardedQid (s.ctx.guests gi).id m = some q →
    q < maxProtoQueues ∧ q ∈ s.created gi

/-- The step refuses no `NEW_QUEUE` request of guest `gi`. -/
def NoRefusal (gi : Nat) (s : Sys) (a : Act) : Prop :=
  ∀ t d, s.handles a = some (gi, t, d) → QueueType.ofByte? t = some .newQueueReq →
    queueGrant s.ctx (s.ctx.guests gi) d ≠ none

/-- A request of guest `gi` that the step refuses leaves its protocol state
alone. -/
def RefusalKeeps (gi : Nat) (s : Sys) (a : Act) : Prop :=
  ∀ t d, s.handles a = some (gi, t, d) → QueueType.ofByte? t = some .newQueueReq →
    queueGrant s.ctx (s.ctx.guests gi) d = none →
    ((s.step a).1.ctx.guests gi).proto = (s.ctx.guests gi).proto

/-! ## What an entry forwards -/

/-- An entry only forwards ids below the guest's counter and the maximum. -/
theorem Effect.forwards {ctx : ControlCtx} {g : GuestControl} {t : UInt8} {d : Nat → UInt8}
    {ms : Nat → List FastMsg} {p : ProtoControl} {al : ShmAllocator}
    (h : Effect ctx g t d ms p al) {gid i q : Nat} {m : FastMsg} (hm : m ∈ ms i)
    (hq : forwardedQid gid m = some q) :
    g.id = gid ∧ q < g.proto.nqueues ∧ q < maxProtoQueues := by
  cases h with
  | nothing | proto | queueRefused | ebpfAllocate | ebpfFree => cases hm
  | queue | map =>
    dsimp only at hm
    split at hm
    · rw [List.mem_singleton.mp hm] at hq
      cases hq
    · cases hm
  | enable ht hqid hmax =>
    dsimp only at hm
    split at hm
    · rw [List.mem_singleton.mp hm] at hq
      simp only [forwardedQid, enableqMsg] at hq
      split at hq
      · next hid =>
        cases hq
        exact ⟨hid, hqid, hmax⟩
      · cases hq
    · cases hm
  | disable ht hqid hmax =>
    dsimp only at hm
    split at hm
    · rw [List.mem_singleton.mp hm] at hq
      simp only [forwardedQid] at hq
      split at hq
      · next hid =>
        cases hq
        exact ⟨hid, hqid, hmax⟩
      · cases hq
    · cases hm
  | upload _ hms =>
    rw [hms i m hm] at hq
    cases hq

/-- The counter after an entry of the guest: reset, advanced by a created
queue, or as before. -/
theorem Effect.nqueues {ctx : ControlCtx} {g : GuestControl} {t : UInt8} {d : Nat → UInt8}
    {ms : Nat → List FastMsg} {p : ProtoControl} {al : ShmAllocator}
    (h : Effect ctx g t d ms p al)
    (hgrant : QueueType.ofByte? t = some .newQueueReq → queueGrant ctx g d ≠ none) :
    p.nqueues = 0 ∨ p.nqueues = g.proto.nqueues ∨
      (QueueType.ofByte? t = some .newQueueReq ∧ (queueGrant ctx g d).isSome ∧
        g.proto.nqueues < maxProtoQueues ∧ p.nqueues = g.proto.nqueues + 1) := by
  cases h with
  | nothing | map | enable | disable | ebpfAllocate | ebpfFree | upload => exact Or.inr (Or.inl rfl)
  | proto => exact Or.inl rfl
  | queueRefused ht hg => exact absurd hg (hgrant ht)
  | queue ht hg =>
    right; right
    have hmax : g.proto.nqueues < maxProtoQueues := by
      unfold queueGrant at hg
      split at hg
      · cases hg
      · omega
    refine ⟨ht, by rw [hg]; rfl, hmax, ?_⟩
    show (g.proto.nqueues + 1) % 65536 = _
    unfold maxProtoQueues at hmax
    omega

/-! ## The invariant -/

structure QueueInv (gi : Nat) (s : Sys) : Prop where
  ids : ∀ j, j ≠ gi → (s.ctx.guests j).id ≠ (s.ctx.guests gi).id
  valid : QueueIdsValid gi s

/-- Steps that leave the guest alone, create nothing for it and forward
nothing about it. -/
theorem QueueInv.frame {gi : Nat} {s s' : Sys} (h : QueueInv gi s)
    (hid : ∀ j, (s'.ctx.guests j).id = (s.ctx.guests j).id)
    (hp : (s'.ctx.guests gi).proto = (s.ctx.guests gi).proto)
    (hc : s'.created gi = s.created gi)
    (hs : ∀ i, ∀ m ∈ s'.sent i, m ∈ s.sent i ∨ forwardedQid (s.ctx.guests gi).id m = none) :
    QueueInv gi s' := by
  refine ⟨fun j hj => by rw [hid, hid]; exact h.ids j hj, by rw [hp]; exact h.valid.max, ?_, ?_⟩
  · rw [hp, hc]
    exact h.valid.created
  · intro i m hm q hq
    rw [hid] at hq
    rw [hc]
    rcases hs i m hm with hm | hm
    · exact h.valid.forwarded i m hm q hq
    · rw [hm] at hq
      cases hq

/-- An entry of the guest itself. -/
theorem QueueInv.handle {gi : Nat} {s s' : Sys} {t : UInt8} {d : Nat → UInt8}
    {ms : Nat → List FastMsg} (h : QueueInv gi s) (hh : Handles s s' gi t d ms)
    (hok : QueueType.ofByte? t = some .newQueueReq →
      queueGrant s.ctx (s.ctx.guests gi) d ≠ none) : QueueInv gi s' := by
  have hcre : ∀ q, q ∈ s.created gi → q ∈ s'.created gi := by
    intro q hq
    rw [hh.created gi]
    split
    · exact List.mem_append_left _ hq
    · exact hq
  refine ⟨fun j hj => ?_, ?_, ?_, ?_⟩
  · rw [(hh.guest j hj).id, hh.id]
    exact h.ids j hj
  · have := h.valid.max
    rcases hh.effect.nqueues hok with h₀ | h₀ | ⟨-, -, hlt, h₀⟩ <;> omega
  · intro q hq
    rcases hh.effect.nqueues hok with h₀ | h₀ | ⟨ht, hg, -, h₀⟩
    · omega
    · exact hcre q (h.valid.created q (by omega))
    · -- the id the counter passes is the queue just created
      by_cases hlt : q < (s.ctx.guests gi).proto.nqueues
      · exact hcre q (h.valid.created q hlt)
      · rw [hh.created gi, if_pos ⟨rfl, ht, hg⟩, show q = (s.ctx.guests gi).proto.nqueues by omega]
        exact List.mem_append_right _ (List.mem_singleton.mpr rfl)
  · intro i m hm q hq
    rw [hh.id] at hq
    rw [hh.sent i] at hm
    rcases List.mem_append.mp hm with hm | hm
    · obtain ⟨hmax, hc⟩ := h.valid.forwarded i m hm q hq
      exact ⟨hmax, hcre q hc⟩
    · obtain ⟨-, hlt, hmax⟩ := hh.effect.forwards hm hq
      exact ⟨hmax, hcre q (h.valid.created q hlt)⟩

theorem QueueInv.step {gi : Nat} {s : Sys} {a : Act} (h : QueueInv gi s)
    (hok : NoRefusal gi s a) : QueueInv gi (s.step a).1 := by
  rcases s.step_cases a with hq | ⟨i, m, hd⟩ | ⟨i, ho⟩ | ⟨gj, t, d, ms, he, hh⟩
  · refine h.frame (fun j => (hq.guest j).id) (hq.guest gi).proto (by rw [hq.created]) ?_
    intro i m hm
    rw [hq.sent] at hm
    exact Or.inl hm
  · refine h.frame (fun j => (hd.guest j).id) (hd.guest gi).proto (by rw [hd.created]) ?_
    intro i m hm
    rw [hd.sent] at hm
    exact Or.inl hm
  · refine h.frame (fun j => (ho.guest j).id) (ho.guest gi).proto (by rw [ho.created]) ?_
    intro j m hm
    rw [ho.sent j] at hm
    rcases List.mem_append.mp hm with hm | hm
    · exact Or.inl hm
    · right
      split at hm
      · rw [List.mem_singleton.mp hm]
        rfl
      · cases hm
  · by_cases hj : gj = gi
    · subst hj
      exact h.handle hh (hok t d he)
    · refine h.frame (fun j => ?_) (hh.guest gi (Ne.symm hj)).proto ?_ fun i m hm => ?_
      · by_cases hjj : j = gj
        · rw [hjj, hh.id]
        · exact (hh.guest j hjj).id
      · rw [hh.created gi, if_neg (fun hc => hj hc.1.symm)]
      · rw [hh.sent i] at hm
        rcases List.mem_append.mp hm with hm | hm
        · exact Or.inl hm
        · right
          cases hq : forwardedQid (s.ctx.guests gi).id m with
          | none => rfl
          | some q => exact absurd (hh.effect.forwards hm hq).1 (h.ids gj hj)

/-! ## Refused requests -/

/-- A refused request that is answered advances the counter. -/
theorem refused_advances {gi : Nat} {s : Sys} {a : Act} {t : UInt8} {d : Nat → UInt8}
    (he : s.handles a = some (gi, t, d)) (ht : QueueType.ofByte? t = some .newQueueReq)
    (hg : queueGrant s.ctx (s.ctx.guests gi) d = none) (hup : (s.step a).1.down = none)
    (hmax : (s.ctx.guests gi).proto.nqueues ≤ maxProtoQueues) :
    ((s.step a).1.ctx.guests gi).proto.nqueues = (s.ctx.guests gi).proto.nqueues + 1 := by
  obtain ⟨-, -, ms, -, -, hh⟩ := Sys.step_handles he hup
  have heff := hh.effect
  generalize ((s.step a).1.ctx.guests gi).proto = p at heff ⊢
  generalize ((s.step a).1.ctx.guests gi).alloc = al at heff
  cases heff with
  | nothing hq => exact absurd ht hq
  | queueRefused =>
    show ((s.ctx.guests gi).proto.nqueues + 1) % 65536 = _
    unfold maxProtoQueues at hmax
    omega
  | queue _ hg' => rw [hg] at hg'; cases hg'
  | proto ht' | map ht' | enable ht' | disable ht' | ebpfAllocate ht' | ebpfFree ht'
  | upload ht' => rw [ht] at ht'; cases ht'

/-- **Queue ids stay valid while nothing is refused.** From a registered
guest without queues, in every run that refuses none of its `NEW_QUEUE`
requests, its counter keeps the maximum, every id below it is a created
queue and only such ids are forwarded; and a step from there leaves the
protocol state alone on refusal exactly when it refuses nothing. -/
theorem queue_ids_valid_iff_no_refusal {gi : Nat} {s₀ s : Sys} {log : List Unit}
    (hreg : (s₀.ctx.guests gi).proto.nqueues = 0)
    (hnew : ∀ i, ∀ m ∈ s₀.sent i, forwardedQid (s₀.ctx.guests gi).id m = none)
    (hid : ∀ j, j ≠ gi → (s₀.ctx.guests j).id ≠ (s₀.ctx.guests gi).id)
    (hrun : Run (NoRefusal gi) Sys.step s₀ log s) :
    QueueIdsValid gi s ∧ ∀ a, (s.step a).1.down = none →
      (RefusalKeeps gi s a ↔ NoRefusal gi s a) := by
  have hinv : QueueInv gi s := by
    refine hrun.inv (I := fun _ s => QueueInv gi s) ⟨hid, ?_, ?_, ?_⟩ ?_
    · rw [hreg]
      exact Nat.zero_le _
    · intro q hq
      omega
    · intro i m hm q hq
      rw [hnew i m hm] at hq
      cases hq
    · intro _ s a h hok
      exact h.step hok
  refine ⟨hinv.valid, fun a hup => ⟨fun hkeep t d he ht hg => ?_, fun hno t d he ht hg => ?_⟩⟩
  · have hadv := refused_advances he ht hg hup hinv.valid.max
    rw [hkeep t d he ht hg] at hadv
    omega
  · exact absurd hg (hno t d he ht)

/-- One queue is created. -/
theorem queue_ids_valid_iff_no_refusal_one :
    QueueIdsValid 0 (smallSys.exec
      [.post 0 QueueType.newQueueReq.toByte (newQueueReqFill 4 64 0 fun _ => 0), .control,
        .control]) := by
  have h₁ : Run (NoRefusal 0) Sys.step smallSys _ _ :=
    Run.snoc (a := .post 0 QueueType.newQueueReq.toByte (newQueueReqFill 4 64 0 fun _ => 0))
      Run.nil (fun t d h => by cases h)
  have h₂ := Run.snoc (a := .control) h₁ (fun t d h => by cases h)
  have hrun := Run.snoc (a := .control) h₂ (fun t d h _ => by
    cases h
    exact Option.isSome_iff_ne_none.mp (by decide +kernel))
  have hnew : ∀ i, ∀ m ∈ smallSys.sent i, forwardedQid (smallSys.ctx.guests 0).id m = none := by
    intro i m hm
    rw [List.mem_singleton.mp hm]
    rfl
  exact (queue_ids_valid_iff_no_refusal rfl hnew (fun j hj => hj) hrun).1

/-- A queue too large for the shared memory is refused, and yet the core is
told to enable queue 0, which does not exist. -/
theorem refused_queue_is_enabled :
    ¬ QueueIdsValid 0 (smallSys.exec
      [.post 0 QueueType.newQueueReq.toByte (newQueueReqFill 65536 64 0 fun _ => 0), .control,
        .control, .post 0 QueueType.enableqReq.toByte (fun _ => 0), .control]) := by
  intro h
  have hc := h.forwarded 0 (.enableq 0 chamProtoTcp 0 0 0 0 0) (by decide +kernel) 0 rfl
  exact absurd hc.2 (by decide +kernel)

end Chamelio.Control
