import Chamelio.Lib.RoundRobin
import Chamelio.Control.Crash

/-!
# How much one call of `poll_guests` does (`control.c`)

The loop of `poll_guests` is meant to stop after `CTL_BATCH_SIZE` messages.
Its counter `i` is never incremented, though, where `poll_fast` has its
`i++`: the loop stops only when it found `n_guests` rings empty. What a call
does is therefore decided by what waits in the rings when it starts and by
what arrives at rings that it has still to find empty. While these are
`CTL_BATCH_SIZE` messages at most, each of which the control path survives,
the call keeps within its batch and returns; a guest that posts as fast as
it is served keeps it going forever.

The cursor ends up behind the guest served last by as many guests as were
found empty since. These can be all of them, the guest served last included:
then the cursor has gone around once, and the next call starts at it again.

Mirroring notes: an iteration of the loop is one step, and anything else may
happen between two of them. `handled`, `iters` and `last` are no part of the
program: the messages handled in this call, its iterations, and the guest
served last with the times the cursor moved on since.
-/

namespace Chamelio.Control

open Chamelio.Lib Chamelio.Util Chamelio.Fast

/-- `CTL_BATCH_SIZE`. -/
def ctlBatchSize : Nat := 16

structure PollSys where
  sys : Sys
  /-- Messages this call has handled. -/
  handled : Nat
  /-- Iterations of its loop. -/
  iters : Nat
  /-- The guest this call served last, and how often the cursor moved since. -/
  last : Option (Nat × Nat)

namespace PollSys

/-- The cursor moves on by one guest. -/
def moved (s : PollSys) : Option (Nat × Nat) := s.last.map fun (g, m) => (g, m + 1)

/-- One step of the control path, counted. A message whose handling brings
the control path down was not handled. -/
def control (s : PollSys) : PollSys :=
  let sys := (s.sys.step .control).1
  if sys.down.isSome then { s with sys }
  else match s.sys.poll with
    | none => { sys, handled := 0, iters := 0, last := none }
    | some l =>
      if s.sys.ctx.nGuests ≤ l.guestsPolled then
        { s with sys, last := if l.incrementGuest then s.moved else s.last }
      else match s.sys.nextEntry with
        | none => { s with sys, iters := s.iters + 1, last := s.moved }
        | some (gi, _, _) =>
          { sys, handled := s.handled + 1, iters := s.iters + 1, last := some (gi, 0) }

def step (s : PollSys) (a : Act) : PollSys × Unit :=
  (match a with
    | .control => s.control
    | a => { s with sys := (s.sys.step a).1 }, ())

/-- Messages waiting at the next `m` guests from the cursor on. -/
def waiting (s : PollSys) (m : Nat) : Nat :=
  ahead (fun j => (s.sys.ctx.guests j).guestChamQ.count) s.sys.ctx.nGuests s.sys.ctx.nextGuest m

/-- Rings the call has still to find empty. -/
def toPoll (s : PollSys) (l : PollLocals) : Nat := s.sys.ctx.nGuests - l.guestsPolled

end PollSys

/-- A call starts with no more than a batch waiting, and what arrives during
a call at a ring it has still to find empty fits into what is left of the
batch. -/
def BatchFits (s : PollSys) (a : Act) : Prop :=
  match s.sys.poll, a with
  | none, .control => s.waiting s.sys.ctx.nGuests ≤ ctlBatchSize
  | some l, .post gi t _ =>
    (s.sys.ctx.guests gi).guestChamQ.hasRoom = true → t ≠ 0 →
    Ahead s.sys.ctx.nGuests s.sys.ctx.nextGuest (s.toPoll l) gi →
    s.handled + s.waiting (s.toPoll l) + 1 ≤ ctlBatchSize
  | _, _ => True

/-- The condition on a step: the entry it handles is one the control path
survives in the state it meets, and the batch fits. -/
structure CallFits (s : PollSys) (a : Act) : Prop where
  safe : SafeStep s.sys a
  fits : BatchFits s a

instance (s : PollSys) (a : Act) : Decidable (BatchFits s a) := by
  unfold BatchFits
  split <;> infer_instance

instance (s : PollSys) (a : Act) : Decidable (CallFits s a) :=
  decidable_of_iff (SafeStep s.sys a ∧ BatchFits s a)
    ⟨fun h => ⟨h.1, h.2⟩, fun h => ⟨h.safe, h.fits⟩⟩

/-- The step is one of the control path. -/
def isControl : Act → Bool
  | .control => true
  | _ => false

/-- What a call of `poll_guests` may take. -/
structure PollBounded (s : PollSys) : Prop where
  /-- The control path is up. -/
  up : s.sys.down = none
  /-- A call handles a batch at most. -/
  handled : s.handled ≤ ctlBatchSize
  /-- Its loop runs a bounded number of times. -/
  iters : s.iters ≤ ctlBatchSize + s.sys.ctx.nGuests
  /-- **The call returns**: whatever happens from here on in allowed steps, it
  is over before the control path has taken `CTL_BATCH_SIZE + n_guests + 1`
  steps in it. -/
  returns : ∀ acts, Allowed CallFits PollSys.step acts s →
    ctlBatchSize + s.sys.ctx.nGuests < s.iters + acts.countP isControl →
    ∃ k, (execAll PollSys.step (acts.take k) s).2.sys.poll = none
  /-- After the call the cursor is past the guest served last, by as many
  guests as were found empty since; it is at that guest again exactly when
  these were all of them. -/
  past : s.sys.poll = none → ∀ g m, s.last = some (g, m) →
    1 ≤ m ∧ m ≤ s.sys.ctx.nGuests ∧ s.sys.ctx.nextGuest = (g + m) % s.sys.ctx.nGuests ∧
      (s.sys.ctx.nextGuest = g ↔ m = s.sys.ctx.nGuests)

/-- Between two calls, with the cursor at a guest. -/
structure PollInit (s : PollSys) : Prop where
  up : s.sys.down = none
  poll : s.sys.poll = none
  cursor : s.sys.ctx.nGuests = 0 ∨ s.sys.ctx.nextGuest < s.sys.ctx.nGuests
  rings : ∀ j, (s.sys.ctx.guests j).guestChamQ.InSlots
  handled : s.handled = 0
  iters : s.iters = 0
  last : s.last = none

/-! ## The invariant -/

/-- Inside a call. -/
structure InCall (s : PollSys) (l : PollLocals) : Prop where
  polled : l.guestsPolled ≤ s.sys.ctx.nGuests
  /-- What was handled and what it will still find is a batch at most. -/
  room : s.handled + s.waiting (s.toPoll l) ≤ ctlBatchSize
  /-- An iteration handles a message or finds a ring empty. -/
  iters : s.iters = s.handled + l.guestsPolled
  /-- `increment_guest` is set as long as the cursor is at the guest served
  last, and then some ring was not found empty yet. -/
  atLast : l.incrementGuest = true → l.guestsPolled < s.sys.ctx.nGuests
  moved : ∀ g m, s.last = some (g, m) → s.sys.ctx.nextGuest = (g + m) % s.sys.ctx.nGuests ∧
    m ≤ l.guestsPolled ∧ (l.incrementGuest = false → 1 ≤ m) ∧ g < s.sys.ctx.nGuests

structure PollInv (s : PollSys) : Prop where
  up : s.sys.down = none
  cursor : s.sys.ctx.nGuests = 0 ∨ s.sys.ctx.nextGuest < s.sys.ctx.nGuests
  rings : ∀ j, (s.sys.ctx.guests j).guestChamQ.InSlots
  handled : s.handled ≤ ctlBatchSize
  iters : s.iters ≤ ctlBatchSize + s.sys.ctx.nGuests
  inCall : ∀ l, s.sys.poll = some l → InCall s l
  past : s.sys.poll = none → ∀ g m, s.last = some (g, m) →
    1 ≤ m ∧ m ≤ s.sys.ctx.nGuests ∧ s.sys.ctx.nextGuest = (g + m) % s.sys.ctx.nGuests ∧
      g < s.sys.ctx.nGuests

theorem PollInit.inv {s : PollSys} (h : PollInit s) : PollInv s where
  up := h.up
  cursor := h.cursor
  rings := h.rings
  handled := by rw [h.handled]; exact Nat.zero_le _
  iters := by rw [h.iters]; exact Nat.zero_le _
  inCall l hl := by rw [h.poll] at hl; cases hl
  past _ g m hl := by rw [h.last] at hl; cases hl

/-! ## The handlers leave the request ring alone -/

section

variable {ctx ctx' : ControlCtx} {g g' : GuestControl} {t : UInt8} {d : Nat → UInt8}

private theorem newProto_ring (h : controlGuestNewProto ctx g d = .ok (ctx', g')) :
    g'.guestChamQ = g.guestChamQ := by
  unfold controlGuestNewProto at h
  split at h
  · cases h
  · split at h <;> cases h <;> rfl

private theorem newQueue_ring (h : controlGuestNewQueue ctx g d = .ok (ctx', g')) :
    g'.guestChamQ = g.guestChamQ := by
  unfold controlGuestNewQueue at h
  dsimp only at h
  split at h
  · cases h
  · split at h
    · cases h; rfl
    · split at h
      · cases h
      · split at h
        · cases h; rfl
        · split at h
          · cases h
          · cases h; rfl

private theorem newMap_ring (h : controlGuestNewMap ctx g d = .ok (ctx', g')) :
    g'.guestChamQ = g.guestChamQ := by
  unfold controlGuestNewMap at h
  dsimp only at h
  split at h
  · cases h
  · split at h
    · cases h; rfl
    · split at h
      · cases h
      · split at h
        · cases h; rfl
        · split at h
          · cases h
          · cases h; rfl

private theorem enableq_ring (h : controlGuestEnableq ctx g d = .ok (ctx', g')) :
    g'.guestChamQ = g.guestChamQ := by
  unfold controlGuestEnableq at h
  dsimp only at h
  split at h
  · cases h; rfl
  · split at h
    · cases h; rfl
    · split at h
      · cases h
      · split at h
        · cases h
        · split at h
          · cases h
          · cases h; rfl

private theorem disableq_ring (h : controlGuestDisableq ctx g d = .ok (ctx', g')) :
    g'.guestChamQ = g.guestChamQ := by
  unfold controlGuestDisableq at h
  dsimp only at h
  split at h
  · cases h; rfl
  · split at h
    · cases h; rfl
    · split at h
      · cases h
      · split at h
        · cases h
        · split at h
          · cases h
          · cases h; rfl

private theorem ebpfAllocate_ring (h : controlEbpfAllocate ctx g d = .ok (ctx', g')) :
    g'.guestChamQ = g.guestChamQ := by
  unfold controlEbpfAllocate at h
  dsimp only at h
  split at h
  · cases h
  · split at h
    · cases h
    · split at h <;> cases h <;> rfl

private theorem ebpfFree_ring (h : controlEbpfFree ctx g = .ok (ctx', g')) :
    g'.guestChamQ = g.guestChamQ := by
  unfold controlEbpfFree at h
  split at h
  · cases h
  · split at h
    · cases h
    · split at h <;> cases h
      unfold GuestControl.freeHandle
      split <;> rfl

private theorem ebpfUpload_ring (h : controlEbpfUpload ctx g = .ok (ctx', g')) :
    g'.guestChamQ = g.guestChamQ := by
  unfold controlEbpfUpload at h
  dsimp only at h
  split at h
  · cases h
  · split at h
    · cases h; rfl
    · split at h
      · cases h; rfl
      · split at h
        · cases h; rfl
        · split at h <;> cases h
          rfl

theorem handleEntry_ring (h : handleEntry ctx g t d = .ok (ctx', g')) :
    g'.guestChamQ = g.guestChamQ := by
  unfold handleEntry at h
  split at h
  · exact newProto_ring h
  · exact newQueue_ring h
  · exact newMap_ring h
  · exact enableq_ring h
  · exact disableq_ring h
  · exact ebpfAllocate_ring h
  · exact ebpfFree_ring h
  · exact ebpfUpload_ring h
  · cases h

end

/-! ## A step of the control path -/

/-- What a step of the control path does to a call. -/
inductive ControlStep (s : PollSys) : PollSys → Prop
  /-- It is down, or goes down. -/
  | down {e : Option Crash} (he : e ≠ none) :
    ControlStep s { s with sys := { s.sys with down := e } }
  | enter (hup : s.sys.down = none) (hp : s.sys.poll = none) :
    ControlStep s
      { sys := { s.sys with poll := some ⟨0, false⟩ }, handled := 0, iters := 0, last := none }
  | leave {l : PollLocals} (hp : s.sys.poll = some l) (hdone : s.sys.ctx.nGuests ≤ l.guestsPolled) :
    ControlStep s
      { s with
        sys := { s.sys with ctx := pollGuestsLeave s.sys.ctx l, poll := none }
        last := if l.incrementGuest then s.moved else s.last }
  | empty {l : PollLocals} (hp : s.sys.poll = some l) (hmore : l.guestsPolled < s.sys.ctx.nGuests) :
    ControlStep s
      { s with
        sys := { s.sys with
          ctx := { s.sys.ctx with nextGuest := (s.sys.ctx.nextGuest + 1) % s.sys.ctx.nGuests }
          poll := some ⟨l.guestsPolled + 1, false⟩ }
        iters := s.iters + 1
        last := s.moved }
  | serve {l : PollLocals} {t : UInt8} {d : Nat → UInt8} {ctx₁ : ControlCtx} {g₁ : GuestControl}
      {sys : Sys} (hp : s.sys.poll = some l) (hmore : l.guestsPolled < s.sys.ctx.nGuests)
      (he : (s.sys.ctx.guests s.sys.ctx.nextGuest).guestChamQ.head? = some (t, d))
      (hh : handleEntry s.sys.ctx (s.sys.ctx.guests s.sys.ctx.nextGuest) t d = .ok (ctx₁, g₁))
      (hctx : sys.ctx = ctx₁.setGuest s.sys.ctx.nextGuest
        { g₁ with guestChamQ := g₁.guestChamQ.pop })
      (hpoll : sys.poll = some { l with incrementGuest := true }) :
    ControlStep s
      { sys, handled := s.handled + 1, iters := s.iters + 1
        last := some (s.sys.ctx.nextGuest, 0) }

/-- Inside a call, with a message at the cursor that can be handled. -/
theorem PollSys.control_serve {s : PollSys} {l : PollLocals} {t : UInt8} {d : Nat → UInt8}
    {ctx₁ : ControlCtx} {g₁ : GuestControl} (hup : s.sys.down = none) (hp : s.sys.poll = some l)
    (hmore : l.guestsPolled < s.sys.ctx.nGuests)
    (he : (s.sys.ctx.guests s.sys.ctx.nextGuest).guestChamQ.head? = some (t, d))
    (hh : handleEntry s.sys.ctx (s.sys.ctx.guests s.sys.ctx.nextGuest) t d = .ok (ctx₁, g₁)) :
    s.control =
        { sys := s.sys.control, handled := s.handled + 1, iters := s.iters + 1
          last := some (s.sys.ctx.nextGuest, 0) } ∧
      s.sys.control.ctx = ctx₁.setGuest s.sys.ctx.nextGuest
        { g₁ with guestChamQ := g₁.guestChamQ.pop } ∧
      s.sys.control.poll = some { l with incrementGuest := true } ∧
      s.sys.control.down = none := by
  have hdone : ¬ s.sys.ctx.nGuests ≤ l.guestsPolled := by omega
  have hn : s.sys.nextEntry = some (s.sys.ctx.nextGuest, t, d) := by
    simp [Sys.nextEntry, hp, hdone, he]
  have hi : pollGuestsIter s.sys.ctx l = .ok (ctx₁.setGuest s.sys.ctx.nextGuest
      { g₁ with guestChamQ := g₁.guestChamQ.pop }, { l with incrementGuest := true }) := by
    simp [pollGuestsIter, he, hh]
  have hdown : s.sys.control.down = none := by
    simp only [Sys.control, hp, if_neg hdone, hi, hn, Sys.record]
    exact hup
  have hstep : (s.sys.step .control).1 = s.sys.control := by simp [Sys.step, hup]
  refine ⟨?_, ?_, ?_, hdown⟩
  · unfold PollSys.control
    rw [hstep]
    dsimp only
    simp [hdown, hp, hdone, hn]
  · simp only [Sys.control, hp, if_neg hdone, hi, hn]
  · simp only [Sys.control, hp, if_neg hdone, hi, hn]

/-- **Inversion for a step of the control path.** -/
theorem PollSys.control_step (s : PollSys) : ControlStep s s.control := by
  cases hdown : s.sys.down with
  | some e =>
    have hsame : s.control = s := by simp [PollSys.control, Sys.step, hdown]
    rw [hsame]
    have hne : s.sys.down ≠ none := by rw [hdown]; exact Option.some_ne_none e
    exact ControlStep.down hne
  | none =>
    cases hp : s.sys.poll with
    | none =>
      have henter : s.control = { sys := { s.sys with poll := some ⟨0, false⟩ }, handled := 0
                                  iters := 0, last := none } := by
        simp [PollSys.control, Sys.step, Sys.control, hdown, hp]
      rw [henter]
      exact ControlStep.enter hdown hp
    | some l =>
      by_cases hdone : s.sys.ctx.nGuests ≤ l.guestsPolled
      · have hleave : s.control =
            { s with
              sys := { s.sys with ctx := pollGuestsLeave s.sys.ctx l, poll := none }
              last := if l.incrementGuest then s.moved else s.last } := by
          simp [PollSys.control, Sys.step, Sys.control, hdown, hp, hdone]
        rw [hleave]
        exact ControlStep.leave hp hdone
      · have hmore : l.guestsPolled < s.sys.ctx.nGuests := by omega
        cases he : (s.sys.ctx.guests s.sys.ctx.nextGuest).guestChamQ.head? with
        | none =>
          have hempty : s.control =
              { s with
                sys := { s.sys with
                  ctx := { s.sys.ctx with
                    nextGuest := (s.sys.ctx.nextGuest + 1) % s.sys.ctx.nGuests }
                  poll := some ⟨l.guestsPolled + 1, false⟩ }
                iters := s.iters + 1
                last := s.moved } := by
            simp [PollSys.control, Sys.step, Sys.control, pollGuestsIter, Sys.nextEntry, hdown, hp,
              hdone, he]
          rw [hempty]
          exact ControlStep.empty hp hmore
        | some e =>
          obtain ⟨t, d⟩ := e
          cases hh : handleEntry s.sys.ctx (s.sys.ctx.guests s.sys.ctx.nextGuest) t d with
          | error e =>
            have hcrash : s.control = { s with sys := { s.sys with down := some e } } := by
              simp [PollSys.control, Sys.step, Sys.control, pollGuestsIter, hdown, hp, hdone, he,
                hh]
            rw [hcrash]
            exact ControlStep.down (Option.some_ne_none e)
          | ok r =>
            obtain ⟨ctx₁, g₁⟩ := r
            obtain ⟨hserve, hctx, hpoll, -⟩ :=
              PollSys.control_serve hdown hp hmore he hh
            rw [hserve]
            exact ControlStep.serve hp hmore he hh hctx hpoll

/-- With a ring left to look at, the cursor is at a guest. -/
theorem PollInv.atGuest {s : PollSys} {n : Nat} (h : PollInv s) (hn : n < s.sys.ctx.nGuests) :
    s.sys.ctx.nextGuest < s.sys.ctx.nGuests := by
  rcases h.cursor with hzero | hlt
  · omega
  · exact hlt

/-- A call starts, with a batch waiting at most. -/
theorem PollInv.enter {s : PollSys} (h : PollInv s)
    (hfit : s.waiting s.sys.ctx.nGuests ≤ ctlBatchSize) :
    PollInv
      { sys := { s.sys with poll := some ⟨0, false⟩ }
        handled := 0, iters := 0, last := none } where
  up := h.up
  cursor := h.cursor
  rings := h.rings
  handled := Nat.zero_le _
  iters := Nat.zero_le _
  inCall l hl := by
    cases hl
    refine ⟨Nat.zero_le _, ?_, rfl, nofun, nofun⟩
    show 0 + s.waiting (s.sys.ctx.nGuests - 0) ≤ ctlBatchSize
    rw [Nat.zero_add, Nat.sub_zero]
    exact hfit
  past hp := by cases hp

/-- The call ends: some ring was found empty after the last message, so the
cursor is past its guest already. -/
theorem PollInv.leave {s : PollSys} {l : PollLocals} (h : PollInv s) (hp : s.sys.poll = some l)
    (hdone : s.sys.ctx.nGuests ≤ l.guestsPolled) :
    PollInv
      { s with
        sys := { s.sys with ctx := pollGuestsLeave s.sys.ctx l, poll := none }
        last := if l.incrementGuest then s.moved else s.last } := by
  have hin := h.inCall l hp
  -- after a message some ring is left to look at, so the last one looked at was empty
  have hinc : l.incrementGuest = false := by
    cases hi : l.incrementGuest with
    | false => rfl
    | true =>
      have := hin.atLast hi
      omega
  have hctx : pollGuestsLeave s.sys.ctx l = s.sys.ctx := by
    unfold pollGuestsLeave
    rw [hinc]
    rfl
  rw [hctx, hinc]
  refine ⟨h.up, h.cursor, h.rings, h.handled, h.iters, fun l hl => (by cases hl),
    fun _ g m hl => ?_⟩
  obtain ⟨hpos, hle, hone, hg⟩ := hin.moved g m hl
  have hpolled := hin.polled
  have hm := hone hinc
  exact ⟨hm, Nat.le_trans hle hpolled, hpos, hg⟩

/-- A ring is found empty. -/
theorem PollInv.empty {s : PollSys} {l : PollLocals} (h : PollInv s) (hp : s.sys.poll = some l)
    (hmore : l.guestsPolled < s.sys.ctx.nGuests) :
    PollInv
      { s with
        sys := { s.sys with
          ctx := { s.sys.ctx with nextGuest := (s.sys.ctx.nextGuest + 1) % s.sys.ctx.nGuests }
          poll := some ⟨l.guestsPolled + 1, false⟩ }
        iters := s.iters + 1
        last := s.moved } := by
  have hin := h.inCall l hp
  have hcur := h.atGuest hmore
  have hhandled := h.handled
  have hiters := hin.iters
  refine ⟨h.up, Or.inr (Nat.mod_lt _ (by omega)), h.rings, h.handled, ?_, fun l' hl' => ?_, nofun⟩
  · show s.iters + 1 ≤ ctlBatchSize + s.sys.ctx.nGuests
    omega
  · -- one more ring is behind the cursor
    cases hl'
    refine ⟨hmore, ?_, ?_, nofun, fun g m hl => ?_⟩
    · -- the ring at the cursor is not ahead any more
      have hroom := hin.room
      unfold PollSys.waiting PollSys.toPoll at hroom ⊢
      dsimp only
      have hsucc : s.sys.ctx.nGuests - l.guestsPolled =
          (s.sys.ctx.nGuests - (l.guestsPolled + 1)) + 1 := by omega
      rw [hsucc, ahead_move hcur] at hroom
      omega
    · show s.iters + 1 = s.handled + (l.guestsPolled + 1)
      omega
    · obtain ⟨⟨g', m'⟩, hl', heq⟩ := Option.map_eq_some_iff.mp hl
      obtain ⟨rfl, rfl⟩ : g' = g ∧ m' + 1 = m := by simpa using heq
      obtain ⟨hpos, hle, -, hg⟩ := hin.moved g' m' hl'
      refine ⟨?_, by show m' + 1 ≤ l.guestsPolled + 1; omega, fun _ => by omega, hg⟩
      show (s.sys.ctx.nextGuest + 1) % s.sys.ctx.nGuests = (g' + (m' + 1)) % s.sys.ctx.nGuests
      rw [hpos, Nat.mod_add_mod, Nat.add_assoc]

/-- A message was handled: it is off its ring, and the other rings and the
cursor are as they were. -/
structure Served (s sys : Sys) : Prop where
  nGuests : sys.ctx.nGuests = s.ctx.nGuests
  nextGuest : sys.ctx.nextGuest = s.ctx.nextGuest
  ring : (sys.ctx.guests s.ctx.nextGuest).guestChamQ =
    (s.ctx.guests s.ctx.nextGuest).guestChamQ.pop
  others : ∀ j, j ≠ s.ctx.nextGuest → sys.ctx.guests j = s.ctx.guests j

theorem handleEntry_served {s sys : Sys} {t : UInt8} {d : Nat → UInt8} {ctx₁ : ControlCtx}
    {g₁ : GuestControl}
    (hh : handleEntry s.ctx (s.ctx.guests s.ctx.nextGuest) t d = .ok (ctx₁, g₁))
    (hctx : sys.ctx = ctx₁.setGuest s.ctx.nextGuest
      { g₁ with guestChamQ := g₁.guestChamQ.pop }) : Served s sys := by
  obtain ⟨-, ms, hs, -⟩ := handleEntry_effect hh
  refine ⟨?_, ?_, ?_, fun j hj => ?_⟩
  · rw [hctx]
    show ctx₁.nGuests = _
    rw [hs.rest]
  · rw [hctx]
    show ctx₁.nextGuest = _
    rw [hs.rest]
  · rw [hctx, setGuest_same]
    show g₁.guestChamQ.pop = _
    rw [handleEntry_ring hh]
  · rw [hctx, setGuest_ne _ hj, hs.rest]

theorem Served.inSlots {s sys : Sys} (h : Served s sys)
    (hrings : ∀ j, (s.ctx.guests j).guestChamQ.InSlots) (j : Nat) :
    (sys.ctx.guests j).guestChamQ.InSlots := by
  by_cases hj : j = s.ctx.nextGuest
  · subst hj
    rw [h.ring]
    exact (hrings _).pop
  · rw [h.others j hj]
    exact hrings j

/-- One less waits, and it waited at the cursor. -/
theorem Served.waiting {s : PollSys} {sys : Sys} {e : UInt8 × (Nat → UInt8)} {m : Nat}
    (h : Served s.sys sys) (hring : (s.sys.ctx.guests s.sys.ctx.nextGuest).guestChamQ.InSlots)
    (he : (s.sys.ctx.guests s.sys.ctx.nextGuest).guestChamQ.head? = some e)
    (hcur : s.sys.ctx.nextGuest < s.sys.ctx.nGuests) (hm : m < s.sys.ctx.nGuests)
    (handled iters : Nat) (last : Option (Nat × Nat)) :
    PollSys.waiting ⟨sys, handled, iters, last⟩ (m + 1) + 1 = s.waiting (m + 1) := by
  have hpop := hring.count_pop he
  unfold PollSys.waiting
  dsimp only
  rw [h.nGuests, h.nextGuest, ahead_move hcur, ahead_move hcur, ahead_congr hcur hm
    (fun j hj => congrArg (fun g => g.guestChamQ.count) (h.others j hj)), h.ring]
  omega

/-- A message is handled: it waited at the cursor, and nothing else moves. -/
theorem PollInv.serve {s : PollSys} {l : PollLocals} {t : UInt8} {d : Nat → UInt8}
    {ctx₁ : ControlCtx} {g₁ : GuestControl} {sys : Sys} (h : PollInv s) (hup : sys.down = none)
    (hp : s.sys.poll = some l) (hmore : l.guestsPolled < s.sys.ctx.nGuests)
    (he : (s.sys.ctx.guests s.sys.ctx.nextGuest).guestChamQ.head? = some (t, d))
    (hh : handleEntry s.sys.ctx (s.sys.ctx.guests s.sys.ctx.nextGuest) t d = .ok (ctx₁, g₁))
    (hctx : sys.ctx = ctx₁.setGuest s.sys.ctx.nextGuest
      { g₁ with guestChamQ := g₁.guestChamQ.pop })
    (hpoll : sys.poll = some { l with incrementGuest := true }) :
    PollInv
      { sys, handled := s.handled + 1, iters := s.iters + 1
        last := some (s.sys.ctx.nextGuest, 0) } := by
  have hin := h.inCall l hp
  have hcur := h.atGuest hmore
  have hs := handleEntry_served hh hctx
  have hn := hs.nGuests
  have hleft : s.toPoll l = (s.sys.ctx.nGuests - (l.guestsPolled + 1)) + 1 := by
    unfold PollSys.toPoll
    omega
  have hless := hs.waiting (h.rings _) he hcur
    (show s.sys.ctx.nGuests - (l.guestsPolled + 1) < s.sys.ctx.nGuests by omega)
    (s.handled + 1) (s.iters + 1) (some (s.sys.ctx.nextGuest, 0))
  rw [← hleft] at hless
  have hroom := hin.room
  have hiters := hin.iters
  refine ⟨hup, ?_, hs.inSlots h.rings, ?_, ?_, fun l' hl' => ?_, fun hnone => ?_⟩
  · right
    show sys.ctx.nextGuest < sys.ctx.nGuests
    rw [hn, hs.nextGuest]
    exact hcur
  · show s.handled + 1 ≤ ctlBatchSize
    omega
  · show s.iters + 1 ≤ ctlBatchSize + sys.ctx.nGuests
    omega
  · have hl' : sys.poll = some l' := hl'
    rw [hpoll] at hl'
    cases hl'
    refine ⟨?_, ?_, ?_, fun _ => ?_, fun g m hl => ?_⟩
    · show l.guestsPolled ≤ sys.ctx.nGuests
      omega
    · show s.handled + 1 + PollSys.waiting _ (sys.ctx.nGuests - l.guestsPolled) ≤ ctlBatchSize
      rw [hn, show s.sys.ctx.nGuests - l.guestsPolled = s.toPoll l from rfl]
      omega
    · show s.iters + 1 = s.handled + 1 + l.guestsPolled
      omega
    · show l.guestsPolled < sys.ctx.nGuests
      omega
    · cases hl
      refine ⟨?_, Nat.zero_le _, nofun, ?_⟩
      · show sys.ctx.nextGuest = (s.sys.ctx.nextGuest + 0) % sys.ctx.nGuests
        rw [hn, hs.nextGuest, Nat.add_zero, Nat.mod_eq_of_lt hcur]
      · show s.sys.ctx.nextGuest < sys.ctx.nGuests
        rw [hn]
        exact hcur
  · have hnone : sys.poll = none := hnone
    rw [hpoll] at hnone
    cases hnone

/-- A safe step leaves the control path up. -/
theorem PollInv.control_up {s : PollSys} (h : PollInv s) (hsafe : SafeStep s.sys .control) :
    s.control.sys.down = none := by
  have hup := (Sys.step_down_iff h.up .control).mpr hsafe
  unfold PollSys.control
  dsimp only
  rw [hup]
  split
  · exact hup
  · split
    · exact hup
    · split
      · exact hup
      · split <;> exact hup

/-- Every step of the control path keeps the invariant, when a call starts
with a batch waiting at most. -/
theorem PollInv.control {s : PollSys} (h : PollInv s) (hfit : CallFits s .control) :
    PollInv s.control := by
  have hstep := s.control_step
  have hup := h.control_up hfit.safe
  generalize s.control = s' at hstep hup ⊢
  cases hstep with
  | down he => exact absurd hup he
  | enter _ hp =>
    have hfit := hfit.fits
    unfold BatchFits at hfit
    rw [hp] at hfit
    exact h.enter hfit
  | leave hp hdone => exact h.leave hp hdone
  | empty hp hmore => exact h.empty hp hmore
  | serve hp hmore he hh hctx hpoll => exact h.serve hup hp hmore he hh hctx hpoll

/-! ## The other steps -/

/-- Steps of the others leave the call where it is. -/
structure SameCall (s s' : Sys) : Prop where
  poll : s'.poll = s.poll
  nGuests : s'.ctx.nGuests = s.ctx.nGuests
  nextGuest : s'.ctx.nextGuest = s.ctx.nextGuest

theorem SameCall.refl (s : Sys) : SameCall s s := ⟨rfl, rfl, rfl⟩

theorem Sys.step_sameCall {s : Sys} {a : Act} (ha : a ≠ .control) : SameCall s (s.step a).1 := by
  unfold Sys.step
  by_cases hd : s.down.isSome
  · rw [if_pos hd]
    exact SameCall.refl s
  · rw [if_neg hd]
    cases a with
    | control => exact absurd rfl ha
    | env heapOk uploadOk => exact ⟨rfl, rfl, rfl⟩
    | post gi t d =>
      simp only [Sys.post]
      split
      · exact ⟨rfl, rfl, rfl⟩
      · exact SameCall.refl s
    | read gi =>
      simp only [Sys.read]
      split
      · exact SameCall.refl s
      · exact ⟨rfl, rfl, rfl⟩
    | drain i =>
      simp only [Sys.drain]
      split
      · exact SameCall.refl s
      · exact ⟨rfl, rfl, rfl⟩
    | other i =>
      simp only [Sys.other]
      split
      · exact ⟨rfl, rfl, rfl⟩
      · exact SameCall.refl s

/-- The request rings after a step of the others: only a message that is
posted changes one. -/
theorem Sys.step_rings {s : Sys} {a : Act} (ha : a ≠ .control) :
    (∀ j, ((s.step a).1.ctx.guests j).guestChamQ = (s.ctx.guests j).guestChamQ) ∨
    ∃ gi t d, a = .post gi t d ∧ s.down = none ∧
      (s.ctx.guests gi).guestChamQ.hasRoom = true ∧ t ≠ 0 ∧
      ((s.step a).1.ctx.guests gi).guestChamQ =
        (s.ctx.guests gi).guestChamQ.push (fun _ => d) t ∧
      ∀ j, j ≠ gi → ((s.step a).1.ctx.guests j).guestChamQ = (s.ctx.guests j).guestChamQ := by
  unfold Sys.step
  by_cases hd : s.down.isSome
  · left
    rw [if_pos hd]
    exact fun j => rfl
  · rw [if_neg hd]
    cases a with
    | control => exact absurd rfl ha
    | env heapOk uploadOk => exact Or.inl fun j => rfl
    | post gi t d =>
      simp only [Sys.post]
      split
      · next hok =>
        right
        refine ⟨gi, t, d, rfl, Option.not_isSome_iff_eq_none.mp hd, hok.1, hok.2, ?_, ?_⟩
        · rw [setGuest_same]
        · intro j hj
          rw [setGuest_ne _ hj]
      · exact Or.inl fun j => rfl
    | read gi =>
      left
      intro j
      simp only [Sys.read]
      split
      · rfl
      · by_cases hj : j = gi
        · subst hj
          rw [setGuest_same]
        · rw [setGuest_ne _ hj]
    | drain i =>
      left
      simp only [Sys.drain]
      split <;> exact fun j => rfl
    | other i =>
      left
      simp only [Sys.other]
      split <;> exact fun j => rfl

/-- A step of the others keeps the invariant when what waits still fits. -/
theorem PollInv.others {s : PollSys} {sys : Sys} (h : PollInv s) (hup : sys.down = none)
    (hs : SameCall s.sys sys)
    (hrings : ∀ j, (sys.ctx.guests j).guestChamQ.InSlots)
    (hroom : ∀ l, s.sys.poll = some l →
      s.handled + PollSys.waiting { s with sys } (s.toPoll l) ≤ ctlBatchSize) :
    PollInv { s with sys } := by
  refine ⟨hup, ?_, hrings, h.handled, ?_, fun l hl => ?_, fun hp g m hl => ?_⟩
  · show sys.ctx.nGuests = 0 ∨ sys.ctx.nextGuest < sys.ctx.nGuests
    rw [hs.nGuests, hs.nextGuest]
    exact h.cursor
  · show s.iters ≤ ctlBatchSize + sys.ctx.nGuests
    rw [hs.nGuests]
    exact h.iters
  · have hl : s.sys.poll = some l := hs.poll.symm.trans hl
    obtain ⟨hpolled, -, hiters, hat, hmoved⟩ := h.inCall l hl
    have hfits := hroom l hl
    refine ⟨?_, ?_, hiters, ?_, ?_⟩
    · show l.guestsPolled ≤ sys.ctx.nGuests
      rw [hs.nGuests]
      exact hpolled
    · show s.handled + PollSys.waiting { s with sys } (sys.ctx.nGuests - l.guestsPolled) ≤ _
      rw [hs.nGuests]
      exact hfits
    · show _ → l.guestsPolled < sys.ctx.nGuests
      rw [hs.nGuests]
      exact hat
    · show ∀ g m, s.last = some (g, m) → sys.ctx.nextGuest = (g + m) % sys.ctx.nGuests ∧ _
      rw [hs.nGuests, hs.nextGuest]
      exact hmoved
  · have hp : s.sys.poll = none := hs.poll.symm.trans hp
    show 1 ≤ m ∧ m ≤ sys.ctx.nGuests ∧ sys.ctx.nextGuest = (g + m) % sys.ctx.nGuests ∧
      g < sys.ctx.nGuests
    rw [hs.nGuests, hs.nextGuest]
    exact h.past hp g m hl

/-- Guests, cores and the environment keep the invariant: what is posted at
a ring that was found empty already does not count, and the rest fits. -/
theorem PollInv.environment {s : PollSys} {a : Act} (h : PollInv s) (ha : a ≠ .control)
    (hfit : CallFits s a) : PollInv { s with sys := (s.sys.step a).1 } := by
  have hup' : (s.sys.step a).1.down = none := (Sys.step_down_iff h.up a).mpr hfit.safe
  have hs : SameCall s.sys (s.sys.step a).1 := Sys.step_sameCall ha
  rcases Sys.step_rings ha with hsame | ⟨gi, t, d, rfl, hup, hroom, ht, hpost, hoff⟩
  · refine h.others hup' hs (fun j => (by rw [hsame j]; exact h.rings j)) fun l hl => ?_
    unfold PollSys.waiting
    simp only [hsame, hs.nGuests, hs.nextGuest]
    exact (h.inCall l hl).room
  · refine h.others hup' hs (fun j => ?_) fun l hl => ?_
    · -- both cursors of the ring stay at slots
      by_cases hj : j = gi
      · subst hj
        rw [hpost]
        exact (h.rings j).push _ t
      · rw [hoff j hj]
        exact h.rings j
    · have hin := h.inCall l hl
      have hcount := (h.rings gi).count_push hroom (fun _ => d) ht
      have hwait : PollSys.waiting { s with sys := (s.sys.step (.post gi t d)).1 } (s.toPoll l) =
          ahead (fun j => ((s.sys.step (.post gi t d)).1.ctx.guests j).guestChamQ.count)
            s.sys.ctx.nGuests s.sys.ctx.nextGuest (s.toPoll l) := by
        unfold PollSys.waiting
        dsimp only
        rw [hs.nGuests, hs.nextGuest]
      have hsame : ∀ j, j ≠ gi →
          ((s.sys.step (.post gi t d)).1.ctx.guests j).guestChamQ.count =
            (s.sys.ctx.guests j).guestChamQ.count := fun j hj => by rw [hoff j hj]
      rw [hwait]
      by_cases hahead : Ahead s.sys.ctx.nGuests s.sys.ctx.nextGuest (s.toPoll l) gi
      · -- still to be found empty: the condition kept a place for the message
        have hfits := hfit.fits
        unfold BatchFits at hfits
        rw [hl] at hfits
        have hroom' := hfits hroom ht hahead
        have hle := ahead_succ_le (n := s.sys.ctx.nGuests) (c := s.sys.ctx.nextGuest)
          (m := s.toPoll l) (p := gi) (Nat.sub_le _ _)
          (show ((s.sys.step (.post gi t d)).1.ctx.guests gi).guestChamQ.count ≤
            (s.sys.ctx.guests gi).guestChamQ.count + 1 by rw [hpost, hcount]) hsame
        unfold PollSys.waiting at hroom'
        omega
      · -- found empty already: the message is for the next call
        rw [ahead_of_not hahead hsame]
        exact hin.room

theorem PollInv.step {s : PollSys} {a : Act} (h : PollInv s) (hfit : CallFits s a) :
    PollInv (s.step a).1 := by
  cases a with
  | control => exact h.control hfit
  | post | read | drain | other | env => exact h.environment nofun hfit

/-! ## The call returns -/

/-- A call that goes on makes one more iteration. -/
theorem PollSys.control_runs {s : PollSys} (hp : s.sys.poll ≠ none)
    (hup : s.control.sys.down = none) (hp' : s.control.sys.poll ≠ none) :
    s.control.iters = s.iters + 1 ∧ s.control.sys.ctx.nGuests = s.sys.ctx.nGuests := by
  have hstep := s.control_step
  generalize s.control = s' at hstep hup hp' ⊢
  cases hstep with
  | down he => exact absurd hup he
  | enter hup hnone => exact absurd hnone hp
  | leave hp hdone => exact absurd rfl hp'
  | empty hp hmore => exact ⟨rfl, rfl⟩
  | serve hp hmore he hh hctx hpoll => exact ⟨rfl, (handleEntry_served hh hctx).nGuests⟩

/-- A step inside a call that does not end it uses up one of the iterations
that are left, or is none of the control path's. -/
theorem PollInv.step_iters {s : PollSys} {a : Act} (h : PollInv s) (hok : CallFits s a)
    (hp : s.sys.poll ≠ none) (hp' : (s.step a).1.sys.poll ≠ none) :
    (s.step a).1.iters = s.iters + [a].countP isControl ∧
      (s.step a).1.sys.ctx.nGuests = s.sys.ctx.nGuests := by
  cases a with
  | control => exact PollSys.control_runs hp (h.control_up hok.safe) hp'
  | post gi t d =>
    exact ⟨rfl, (Sys.step_sameCall (s := s.sys) (a := .post gi t d) nofun).nGuests⟩
  | read gi => exact ⟨rfl, (Sys.step_sameCall (s := s.sys) (a := .read gi) nofun).nGuests⟩
  | drain i => exact ⟨rfl, (Sys.step_sameCall (s := s.sys) (a := .drain i) nofun).nGuests⟩
  | other i => exact ⟨rfl, (Sys.step_sameCall (s := s.sys) (a := .other i) nofun).nGuests⟩
  | env heapOk uploadOk =>
    exact ⟨rfl, (Sys.step_sameCall (s := s.sys) (a := .env heapOk uploadOk) nofun).nGuests⟩

/-- **The loop ends**: the iterations a call has left go down with every step
of the control path. -/
theorem PollInv.returns {s : PollSys} (h : PollInv s) {acts : List Act}
    (hok : Allowed CallFits PollSys.step acts s)
    (hmany : ctlBatchSize + s.sys.ctx.nGuests < s.iters + acts.countP isControl) :
    ∃ k, (execAll PollSys.step (acts.take k) s).2.sys.poll = none := by
  induction acts generalizing s with
  | nil =>
    have hle := h.iters
    simp only [List.countP_nil] at hmany
    omega
  | cons a acts ih =>
    by_cases hp : s.sys.poll = none
    · exact ⟨0, hp⟩
    · by_cases hp' : (s.step a).1.sys.poll = none
      · exact ⟨1, hp'⟩
      · obtain ⟨hiters, hn⟩ := h.step_iters hok.1 hp hp'
        have hcons : (a :: acts).countP isControl =
            [a].countP isControl + acts.countP isControl := @List.countP_append _ _ [a] _
        obtain ⟨k, hk⟩ := ih (h.step hok.1) hok.2 (by omega)
        exact ⟨k + 1, hk⟩

/-- A cursor that moved on by up to `n` guests is where it was exactly when it
has gone around. -/
theorem around_iff {g m n c : Nat} (hg : g < n) (hm : 1 ≤ m) (hle : m ≤ n)
    (hc : c = (g + m) % n) : c = g ↔ m = n := by
  constructor
  · intro h
    by_contra hne
    by_cases hlt : g + m < n
    · rw [Nat.mod_eq_of_lt hlt] at hc
      omega
    · rw [Nat.mod_eq_sub_mod (by omega), Nat.mod_eq_of_lt (by omega)] at hc
      omega
  · rintro rfl
    rw [hc, Nat.add_mod_right, Nat.mod_eq_of_lt hg]

theorem PollInv.bounded {s : PollSys} (h : PollInv s) : PollBounded s where
  up := h.up
  handled := h.handled
  iters := h.iters
  returns _ hok hmany := h.returns hok hmany
  past hp g m hl := by
    obtain ⟨hm, hle, hc, hg⟩ := h.past hp g m hl
    exact ⟨hm, hle, hc, around_iff hg hm hle hc⟩

/-! ## Runs -/

/-- **A call keeps within its batch while what it finds fits into one.** In
every run that starts between two calls, in which the control path survives
every entry it takes and no call starts with more than `CTL_BATCH_SIZE`
messages waiting, nor is sent more than what is left of them by guests it
has still to find empty: a call handles at most `CTL_BATCH_SIZE` messages,
returns after a bounded number of steps whatever the others do meanwhile,
and leaves the cursor past the guest it served last. -/
theorem poll_guests_bounded {s₀ s : PollSys} {log : List Unit} (h₀ : PollInit s₀)
    (hrun : Run CallFits PollSys.step s₀ log s) : PollBounded s := by
  have hinv : PollInv s :=
    hrun.inv (I := fun _ s => PollInv s) h₀.inv fun _ _ _ h hfit => h.step hfit
  exact hinv.bounded

/-- `ENABLEQ` for a core that does not exist: handled without any effect. -/
def badEnableq : Nat → UInt8 := lePut (fun _ => 0) 21 coreInvalid 2

/-- A guest posts such a message. -/
def postBad (gi : Nat) : Act := .post gi QueueType.enableqReq.toByte badEnableq

/-- The small system between two calls, with `n` guests. -/
def pollStart (n : Nat) : PollSys :=
  { sys := { smallSys with ctx := { smallSys.ctx with nGuests := n } }
    handled := 0, iters := 0, last := none }

theorem pollStart_init {n : Nat} (hn : 0 < n) : PollInit (pollStart n) :=
  ⟨rfl, rfl, Or.inr hn, fun _ => SlotQ.zeroed_inSlots 8, rfl, rfl, rfl⟩

/-- Three guests: two messages of the first wait and one of the last, and the
second guest posts one while the call is busy with the first. -/
def threeGuests : List Act :=
  [postBad 0, postBad 0, postBad 2, .control, .control, postBad 1, .control, .control, .control,
    .control, .control, .control, .control]

/-- One call handles the four messages and returns. -/
theorem poll_guests_bounded_three :
    PollBounded (execAll PollSys.step threeGuests (pollStart 3)).2 ∧
      (execAll PollSys.step threeGuests (pollStart 3)).2.handled = 4 ∧
      (execAll PollSys.step threeGuests (pollStart 3)).2.last = some (2, 1) ∧
      (execAll PollSys.step threeGuests (pollStart 3)).2.sys.poll = none := by
  refine ⟨?_, by decide +kernel, by decide +kernel, by decide +kernel⟩
  have hrun := Run.execOk threeGuests
    (Run.nil : Run CallFits PollSys.step (pollStart 3) [] _) (by decide +kernel)
  exact poll_guests_bounded (pollStart_init (by decide)) hrun

/-- A block given back twice, and another one asked for: the search for it
may not end, and the last entry is not one the condition allows. -/
example :
    allOk CallFits PollSys.step
      ([(.allocateEbpfReq, lePut (fun _ => 0) 0 100 4), (.freeEbpfReq, fun _ => 0),
        (.freeEbpfReq, fun _ => 0), (.allocateEbpfReq, lePut (fun _ => 0) 0 65000 4)].map
        (fun e : QueueType × (Nat → UInt8) => Act.post 0 e.1.toByte e.2) ++
        List.replicate 5 .control) (pollStart 1) = false := by
  decide +kernel

/-! ## A call that does not end -/

/-- A call during which the guest posts the next message whenever its last
one was handled. -/
def flooded : Nat → PollSys
  | 0 => ((pollStart 1).step .control).1
  | k + 1 => (((flooded k).step (postBad 0)).1.step .control).1

/-- In the middle of it: the ring is empty and the message count is `k`. -/
structure Flooding (s : PollSys) (k : Nat) : Prop where
  up : s.sys.down = none
  poll : ∃ b, s.sys.poll = some ⟨0, b⟩
  config : s.sys.ctx.config = smallConfig
  nGuests : s.sys.ctx.nGuests = 1
  nextGuest : s.sys.ctx.nextGuest = 0
  ring : (s.sys.ctx.guests 0).guestChamQ.Empty
  handled : s.handled = k

theorem badEnableq_handled {ctx : ControlCtx} (hc : ctx.config = smallConfig) (g : GuestControl) :
    handleEntry ctx g QueueType.enableqReq.toByte badEnableq = .ok (ctx, g) := by
  -- the handler returns at its first check, without an answer
  have hcore : ctx.config.fpCoresMax ≤ EnableqReq.core badEnableq := by
    rw [hc]
    decide
  unfold handleEntry
  rw [QueueType.ofByte?_toByte]
  unfold controlGuestEnableq
  exact if_pos hcore

/-- The ring has room for the next message. -/
theorem Flooding.post {s : PollSys} {k : Nat} (h : Flooding s k) :
    ∃ g', (s.step (postBad 0)).1 = { s with sys := { s.sys with ctx := s.sys.ctx.setGuest 0 g' } } ∧
      g'.guestChamQ = (s.sys.ctx.guests 0).guestChamQ.push (fun _ => badEnableq)
        QueueType.enableqReq.toByte := by
  have ht : QueueType.enableqReq.toByte ≠ 0 := QueueType.toByte_ne_zero (by decide)
  have hroom : (s.sys.ctx.guests 0).guestChamQ.hasRoom = true := h.ring.hasRoom
  refine ⟨{ s.sys.ctx.guests 0 with
    guestChamQ := (s.sys.ctx.guests 0).guestChamQ.push (fun _ => badEnableq)
      QueueType.enableqReq.toByte }, ?_, rfl⟩
  have hsys : (s.sys.step (postBad 0)).1 = s.sys.post 0 QueueType.enableqReq.toByte badEnableq := by
    simp [Sys.step, postBad, h.up]
  show ({ s with sys := (s.sys.step (postBad 0)).1 } : PollSys) = _
  rw [hsys]
  unfold Sys.post
  dsimp only
  rw [if_pos ⟨hroom, ht⟩]

/-- The guest posts, the call handles it, and nothing else has changed. -/
theorem Flooding.step {s : PollSys} {k : Nat} (h : Flooding s k) :
    Flooding ((s.step (postBad 0)).1.step .control).1 (k + 1) := by
  obtain ⟨b, hp⟩ := h.poll
  obtain ⟨g', hpost, hring⟩ := h.post
  rw [hpost]
  have hself : (s.sys.ctx.setGuest 0 g').guests s.sys.ctx.nextGuest = g' := by
    rw [h.nextGuest]
    exact setGuest_same _ _ _
  have hmore : 0 < s.sys.ctx.nGuests := by
    rw [h.nGuests]
    exact Nat.one_pos
  have he : ((s.sys.ctx.setGuest 0 g').guests s.sys.ctx.nextGuest).guestChamQ.head? =
      some (QueueType.enableqReq.toByte, badEnableq) := by
    rw [hself, hring]
    exact h.ring.push_head? (QueueType.toByte_ne_zero (by decide))
  have hh : handleEntry (s.sys.ctx.setGuest 0 g')
      ((s.sys.ctx.setGuest 0 g').guests s.sys.ctx.nextGuest) QueueType.enableqReq.toByte
      badEnableq = .ok (s.sys.ctx.setGuest 0 g', g') := by
    have hconfig : (s.sys.ctx.setGuest 0 g').config = smallConfig := h.config
    rw [hself]
    exact badEnableq_handled hconfig g'
  obtain ⟨hserve, hctx, hpoll, hup⟩ := PollSys.control_serve
    (s := { s with sys := { s.sys with ctx := s.sys.ctx.setGuest 0 g' } }) h.up hp hmore he hh
  show Flooding (PollSys.control _) (k + 1)
  rw [hserve]
  refine ⟨hup, ⟨true, hpoll⟩, ?_, ?_, ?_, ?_, ?_⟩
  · show (Sys.control _).ctx.config = _
    rw [hctx]
    exact h.config
  · show (Sys.control _).ctx.nGuests = _
    rw [hctx]
    exact h.nGuests
  · show (Sys.control _).ctx.nextGuest = _
    rw [hctx]
    exact h.nextGuest
  · show ((Sys.control _).ctx.guests 0).guestChamQ.Empty
    rw [hctx]
    show ((ControlCtx.setGuest _ s.sys.ctx.nextGuest _).guests 0).guestChamQ.Empty
    rw [h.nextGuest, setGuest_same]
    show g'.guestChamQ.pop.Empty
    rw [hring]
    exact h.ring.push_pop _ _
  · show s.handled + 1 = k + 1
    rw [h.handled]

theorem flooded_flooding (k : Nat) : Flooding (flooded k) k := by
  induction k with
  | zero => exact ⟨rfl, ⟨false, rfl⟩, rfl, rfl, rfl, SlotQ.zeroed_empty 8, rfl⟩
  | succ k ih => exact ih.step

theorem flooded_run (k : Nat) :
    ∃ log, Run (fun _ _ => True) PollSys.step (pollStart 1) log (flooded k) := by
  induction k with
  | zero => exact ⟨_, Run.snoc Run.nil trivial⟩
  | succ k ih =>
    obtain ⟨log, hrun⟩ := ih
    exact ⟨_, Run.snoc (Run.snoc hrun trivial) trivial⟩

/-- **One guest keeps a call going for as long as it likes**: whatever the
number of messages, one call handles them all and has not returned. -/
theorem poll_guests_endless :
    PollInit (pollStart 1) ∧ ∀ k,
      (∃ log, Run (fun _ _ => True) PollSys.step (pollStart 1) log (flooded k)) ∧
      (flooded k).sys.poll ≠ none ∧ (flooded k).handled = k ∧
      (ctlBatchSize < k → ¬ PollBounded (flooded k)) := by
  refine ⟨pollStart_init Nat.one_pos, fun k => ⟨flooded_run k, ?_, (flooded_flooding k).handled, ?_⟩⟩
  · obtain ⟨b, hp⟩ := (flooded_flooding k).poll
    rw [hp]
    exact Option.some_ne_none _
  · intro hk hb
    have hle := hb.handled
    rw [(flooded_flooding k).handled] at hle
    omega

end Chamelio.Control
