import Chamelio.Fast.Poll

/-!
# The combined polls against the default ones (`fast/fast_comb.c`)

The combined polls are second copies of the loops, written by hand, in which
the handler of a guest is the function linked into its slot. They are to do
what the default polls do: the same calls in the same order, and the same
context after them, up to the moment the transmit buffer is flushed, which
the combined loop does at its end.

They do, with two exceptions (`comb_polls_agree_iff`). A negative result of
a scheduler makes the combined poll return at once: the window of mbufs it
took is not given back, the guests behind it are not served and the next
poll starts with the same guest. The default poll goes on with the next guest. And the
combined poll passes over a frame for a guest without a program, where the
default one runs the machine that is not there.
-/

namespace Chamelio.Fast.Poll

open Chamelio.Control

variable {W ε : Type}

/-! ## The combined polls -/

/-- `event_*_slot_*` of a slot. -/
def runSlot (h : Handlers W ε) (s : PollCtx W ε) (slot : Nat) (ev : Event ε) (mb : Nat) :
    Int × PollCtx W ε :=
  let (r, w) := h.slot slot ev mb s.world
  (r, s.called slot ev mb w)

/-- `rx_poll_slot`: the slot is that of the guest's own id. -/
def rxPollSlot (h : Handlers W ε) (s : PollCtx W ε) (gid mb pktOff : Nat) (tscStart : UInt64) :
    PollCtx W ε × Bool :=
  let g := s.ctx.guests gid
  if chamelioMaxGuests ≤ g.id then (s, false)
  else if g.hasEvents = false then (s, false)
  else
    let (r, s) := runSlot h s g.id (.rx pktOff) mb
    let didWork := decide (0 ≤ r)
    let (s, mbTx) := if 0 < r then transmit h s gid mb r else (s, false)
    let s := if s.perfIso && didWork then s.charge gid (h.clockRdtsc s.world - tscStart) else s
    (s, mbTx)

/-- The loop over the frames of `fast_rx_poll_comb`. -/
def rxLoopComb (h : Handlers W ε) : List Nat → PollCtx W ε →
    Option (PollCtx W ε × List (Nat × Bool))
  | [], s => some (s, [])
  | mb :: mbs, s =>
    let tscStart := h.clockRdtsc s.world
    match h.infraRx mb s.world with
    | (none, w) =>
      match rxLoopComb h mbs { s with world := w } with
      | none => none
      | some (s, used) => some (s, (mb, false) :: used)
    | (some (gid, pktOff), w) =>
      if chamelioMaxGuests ≤ gid then none
      else
        let (s, mbTx) := rxPollSlot h { s with world := w } gid mb pktOff tscStart
        match rxLoopComb h mbs s with
        | none => none
        | some (s, used) => some (s, (mb, mbTx) :: used)

/-- `fast_rx_poll_comb`. -/
def fastRxPollComb (h : Handlers W ε) (s : PollCtx W ε) (nrx sent : Nat) :
    Option (Int × PollCtx W ε) :=
  let (s, mbs) := nicFastRx s nrx
  if mbs.length = 0 then some (0, s)
  else
    match rxLoopComb h mbs s with
    | none => none
    | some (s, used) => some (mbs.length, rxFree used (s.txflush sent))

/-- The context with the variables of `deq_poll_slot`. -/
structure SlotLoop (W ε : Type) extends DeqLoop W ε where
  didWork : Bool

/-- One entry in `deq_poll_slot`, up to `queue_dequeue`; the flag is false where
it returns -1. -/
def slotEntry (h : Handlers W ε) (w : TxWindow) (slot qi : Nat) (qe : ε) (l : SlotLoop W ε) :
    Bool × SlotLoop W ε :=
  let mb := l.s.windowMb w l.ntx
  let s := l.s.useMb w l.ntx
  let (r, s) := runSlot h s slot (.deq ((s.ctx.guests slot).dqueues qi).id qe) mb
  if r < 0 then (false, { s, ntx := l.ntx, ndeq := l.ndeq + 1, didWork := true })
  else if 0 < r then
    let (s, used) := transmit h s slot mb r
    (true, { s, ntx := if used then l.ntx + 1 else l.ntx, ndeq := l.ndeq + 1, didWork := true })
  else (true, { s, ntx := l.ntx, ndeq := l.ndeq + 1, didWork := true })

/-- The inner loop of `deq_poll_slot`. -/
def drainSlot (h : Handlers W ε) (w : TxWindow) (slot qi : Nat) :
    Nat → SlotLoop W ε → Bool × SlotLoop W ε
  | 0, l => (true, l)
  | room + 1, l =>
    match l.s.queued slot qi with
    | [] => (true, l)
    | qe :: _ =>
      match slotEntry h w slot qi qe l with
      | (false, l) => (false, l)
      | (true, l) =>
        match l.s.queueDequeue slot qi with
        | none => (false, l)
        | some s => drainSlot h w slot qi room { l with s }

/-- The outer loop of `deq_poll_slot`. -/
def slotRounds (h : Handlers W ε) (w : TxWindow) (slot : Nat) :
    Nat → SlotLoop W ε → Bool × SlotLoop W ε
  | 0, l => (true, l)
  | rounds + 1, l =>
    if l.ndeq < w.num then
      let qi := (l.s.ctx.guests slot).dqueuesHead
      match drainSlot h w slot qi (w.num - l.ndeq) l with
      | (false, l) => (false, l)
      | (true, l) => slotRounds h w slot rounds { l with s := l.s.rotateHead slot qi }
    else (true, l)

/-- `deq_poll_slot`. -/
def deqPollSlot (h : Handlers W ε) (w : TxWindow) (slot : Nat) (l : DeqLoop W ε) :
    Int × DeqLoop W ε :=
  let g := l.s.ctx.guests slot
  if chamelioMaxGuests ≤ slot then (0, l)
  else if g.hasEvents = false then (0, l)
  else if g.dqueuesHead = protoqIdInvalid then (0, l)
  else if l.s.outOfBudget slot then (0, l)
  else
    let tscStart := h.clockRdtsc l.s.world
    match slotRounds h w slot g.ndqueues { l with didWork := false } with
    | (false, l') => (-1, l'.toDeqLoop)
    | (true, l') =>
      let r := if l'.didWork then 1 else 0
      if l'.s.perfIso ∧ l.ndeq < l'.ndeq then
        (r, { l'.toDeqLoop with s := l'.s.charge slot (h.clockRdtsc l'.s.world - tscStart) })
      else (r, l'.toDeqLoop)

/-- The loop over the guests of `fast_queues_poll_comb`. -/
def deqSlots (h : Handlers W ε) (w : TxWindow) :
    List Nat → DeqLoop W ε → Option Nat → Bool × DeqLoop W ε × Option Nat
  | [], l, last => (true, l, last)
  | gid :: gids, l, last =>
    if l.ndeq < w.num then
      match deqPollSlot h w gid l with
      | (r, l) =>
        if r < 0 then (false, l, last)
        else deqSlots h w gids l (if 0 < r then some gid else last)
    else (true, l, last)

/-- `fast_queues_poll_comb`. -/
def fastQueuesPollComb (h : Handlers W ε) (s : PollCtx W ε) (io : PollIo) : Int × PollCtx W ε :=
  if s.ctx.nGuests = 0 then (0, s)
  else
    let (w, mbufs) := txcacheAlloc s.mbufs io.grants (s.batch fastDeqBatchSize)
    if w.num = 0 then (0, { s with mbufs })
    else
      match deqSlots h w (guestOrder s.ctx.nGuests s.queuesStart)
        { s := { s with mbufs }, ntx := 0, ndeq := 0 } none with
      | (false, l, _) => (-1, l.s)
      | (true, l, last) => (l.ndeq, (l.s.queuesCursor last).unalloc (w.num - l.ntx))

/-- The loop of `sched_poll_slot`. -/
def slotWhile (h : Handlers W ε) (w : TxWindow) (slot : Nat) :
    Nat → SchedLoop W ε → Option (SchedLoop W ε)
  | 0, l => if l.more h w slot then none else some l
  | fuel + 1, l =>
    if l.more h w slot then
      let mb := l.s.windowMb w l.ntx
      let (r, s) := runSlot h (l.s.useMb w l.ntx) slot .sched mb
      if r ≤ 0 then some { l with s, schedRet := r }
      else
        let (s, used) := transmit h s slot mb r
        slotWhile h w slot fuel
          { s, ntx := if used then l.ntx + 1 else l.ntx, didWork := l.didWork || used
            schedRet := r }
    else some l

/-- `sched_poll_slot`. -/
def schedPollSlot (h : Handlers W ε) (w : TxWindow) (fuel slot : Nat) (s : PollCtx W ε)
    (ntx : Nat) : Option (Int × PollCtx W ε × Nat) :=
  if chamelioMaxGuests ≤ slot then some (0, s, ntx)
  else if (s.ctx.guests slot).hasEvents = false then some (0, s, ntx)
  else if h.schedHead slot s.world = false then some (0, s, ntx)
  else if s.outOfBudget slot then some (0, s, ntx)
  else
    let tscStart := h.clockRdtsc s.world
    match slotWhile h w slot fuel { s, ntx, didWork := false, schedRet := 0 } with
    | none => none
    | some l =>
      let s := if l.s.perfIso ∧ ntx < l.ntx then
        l.s.charge slot (h.clockRdtsc l.s.world - tscStart) else l.s
      some (if l.schedRet < 0 then -1 else if l.didWork then 1 else 0, s, l.ntx)

/-- The loop over the guests of `fast_sched_poll_comb`; the flag is false
where the poll returns -1. -/
def schedSlots (h : Handlers W ε) (w : TxWindow) (fuel : Nat) :
    List Nat → PollCtx W ε → Nat → Option Nat → Option (Bool × PollCtx W ε × Nat × Option Nat)
  | [], s, ntx, last => some (true, s, ntx, last)
  | gid :: gids, s, ntx, last =>
    if ntx < w.num then
      match schedPollSlot h w fuel gid s ntx with
      | none => none
      | some (r, s, ntx) =>
        if r < 0 then some (false, s, ntx, last)
        else schedSlots h w fuel gids s ntx (if 0 < r then some gid else last)
    else some (true, s, ntx, last)

/-- `fast_sched_poll_comb`. -/
def fastSchedPollComb (h : Handlers W ε) (fuel : Nat) (s : PollCtx W ε) (io : PollIo) :
    Option (Int × PollCtx W ε) :=
  if s.ctx.nGuests = 0 then some (0, s)
  else
    let (w, mbufs) := txcacheAlloc s.mbufs io.grants (s.batch fastSchedBatchSize)
    if w.num = 0 then some (0, { s with mbufs })
    else
      match schedSlots h w fuel (guestOrder s.ctx.nGuests s.schedStart) { s with mbufs } 0
        none with
      | none => none
      | some (false, s, _, _) => some (-1, s)
      | some (true, s, ntx, last) => some (ntx, (s.schedCursor last).unalloc (w.num - ntx))

/-! ## What the loops leave alone -/

/-- The mode, the number of guests, their ids and their programs are the same. -/
structure SameConfig (s s' : PollCtx W ε) : Prop where
  mode : s'.fpProtoMode = s.fpProtoMode
  count : s'.ctx.nGuests = s.ctx.nGuests
  events : ∀ g, (s'.ctx.guests g).hasEvents = (s.ctx.guests g).hasEvents
  ids : ∀ g, (s'.ctx.guests g).id = (s.ctx.guests g).id

theorem SameConfig.refl (s : PollCtx W ε) : SameConfig s s :=
  ⟨rfl, rfl, fun _ => rfl, fun _ => rfl⟩

theorem SameConfig.trans {s₁ s₂ s₃ : PollCtx W ε} (h₁ : SameConfig s₁ s₂)
    (h₂ : SameConfig s₂ s₃) : SameConfig s₁ s₃ :=
  ⟨h₂.mode.trans h₁.mode, h₂.count.trans h₁.count, fun g => (h₂.events g).trans (h₁.events g),
    fun g => (h₂.ids g).trans (h₁.ids g)⟩

theorem transmit_sameConfig (h : Handlers W ε) (s : PollCtx W ε) (gid mb : Nat) (len : Int) :
    SameConfig s (transmit h s gid mb len).1 := by
  unfold transmit
  rcases h.infraTx gid mb len s.world with ⟨r, w⟩
  cases r <;> exact ⟨rfl, rfl, fun _ => rfl, fun _ => rfl⟩

theorem queueDequeue_sameConfig {s s' : PollCtx W ε} {gid qi : Nat}
    (h : s.queueDequeue gid qi = some s') : SameConfig s s' := by
  unfold PollCtx.queueDequeue at h
  split at h
  · cases h
  · cases h
    exact ⟨rfl, rfl, fun _ => rfl, fun _ => rfl⟩

theorem rotateHead_sameConfig (s : PollCtx W ε) (gid qi : Nat) :
    SameConfig s (s.rotateHead gid qi) := by
  refine ⟨rfl, rfl, fun g => ?_, fun g => ?_⟩ <;>
  · unfold PollCtx.rotateHead
    by_cases hg : g = gid
    · subst hg
      rw [FastCtx.setGuest_same]
      rfl
    · rw [FastCtx.setGuest_ne _ hg]

/-- The programs of all guests are uploaded, in the mode that runs them. -/
structure PollCtx.Uploaded (s : PollCtx W ε) : Prop where
  mode : s.fpProtoMode = .ebpf
  few : s.ctx.nGuests ≤ chamelioMaxGuests
  events : ∀ gid, gid < s.ctx.nGuests → (s.ctx.guests gid).hasEvents = true
  ids : ∀ gid, gid < chamelioMaxGuests → (s.ctx.guests gid).hasEvents = true →
    (s.ctx.guests gid).id = gid

theorem PollCtx.Uploaded.congr {s s' : PollCtx W ε} (hup : s.Uploaded) (hsame : SameConfig s s') :
    s'.Uploaded where
  mode := hsame.mode.trans hup.mode
  few := Nat.le_trans (Nat.le_of_eq hsame.count) hup.few
  events := fun gid hgid =>
    (hsame.events gid).trans (hup.events gid (Nat.lt_of_lt_of_eq hgid hsame.count))
  ids := fun gid hgid hev =>
    (hsame.ids gid).trans (hup.ids gid hgid ((hsame.events gid).symm.trans hev))

/-- The functions in the slots are the handlers of the guests, and a machine
that is there runs. -/
structure Handlers.Linked (h : Handlers W ε) : Prop where
  slot : ∀ gid ev mb w, gid < chamelioMaxGuests →
    h.slot gid ev mb w = ((h.vmExec gid ev mb w).1.ret, (h.vmExec gid ev mb w).2)
  runs : ∀ gid ev mb w, 0 ≤ (h.vmExec gid ev mb w).1.execRet
  /-- `infra_rx` names a guest of the array. -/
  guest : ∀ mb w gid off, (h.infraRx mb w).1 = some (gid, off) → gid < chamelioMaxGuests

section

variable {h : Handlers W ε} {w : TxWindow}

/-- A handler through the `switch` and through its slot. -/
theorem runEvent_eq_slot (hl : h.Linked) {s : PollCtx W ε} (hmode : s.fpProtoMode = .ebpf)
    {gid : Nat} (hgid : gid < chamelioMaxGuests) (hev : (s.ctx.guests gid).hasEvents = true)
    (ev : Event ε) (mb : Nat) :
    ∃ e, 0 ≤ e ∧ runEvent h s gid ev mb =
      some ({ execRet := e, ret := (runSlot h s gid ev mb).1 }, (runSlot h s gid ev mb).2) := by
  refine ⟨(h.vmExec gid ev mb s.world).1.execRet, hl.runs gid ev mb s.world, ?_⟩
  unfold runEvent runSlot
  rw [hmode, hl.slot gid ev mb s.world hgid]
  dsimp only
  rw [if_pos hev]

theorem runSlot_sameConfig (s : PollCtx W ε) (gid : Nat) (ev : Event ε) (mb : Nat) :
    SameConfig s (runSlot h s gid ev mb).2 := ⟨rfl, rfl, fun _ => rfl, fun _ => rfl⟩

/-! ## Queues -/

/-- A loop went on: `didWork` says whether it took an entry. -/
structure SlotLoop.Follows (l l' : SlotLoop W ε) : Prop where
  same : SameConfig l.s l'.s
  le : l.ndeq ≤ l'.ndeq
  work : l'.didWork = (l.didWork || decide (l.ndeq < l'.ndeq))

theorem SlotLoop.Follows.refl (l : SlotLoop W ε) : l.Follows l :=
  ⟨.refl _, Nat.le_refl _, by simp⟩

theorem SlotLoop.Follows.trans {l₁ l₂ l₃ : SlotLoop W ε} (h₁ : l₁.Follows l₂)
    (h₂ : l₂.Follows l₃) : l₁.Follows l₃ := by
  refine ⟨h₁.same.trans h₂.same, Nat.le_trans h₁.le h₂.le, ?_⟩
  have hle₁ := h₁.le
  have hle₂ := h₂.le
  rw [h₂.work, h₁.work, Bool.or_assoc, ← Bool.decide_or]
  congr 2
  apply propext
  omega

theorem slotEntry_follows (gid qi : Nat) (qe : ε) (l : SlotLoop W ε) :
    l.Follows (slotEntry h w gid qi qe l).2 := by
  have hrun := @runSlot_sameConfig W ε h (l.s.useMb w l.ntx) gid
    (.deq (((l.s.useMb w l.ntx).ctx.guests gid).dqueues qi).id qe) (l.s.windowMb w l.ntx)
  have huse : SameConfig l.s (l.s.useMb w l.ntx) := ⟨rfl, rfl, fun _ => rfl, fun _ => rfl⟩
  unfold slotEntry
  dsimp only
  split
  · exact ⟨huse.trans hrun, Nat.le_succ _, by simp⟩
  · split
    · exact ⟨(huse.trans hrun).trans (transmit_sameConfig ..), Nat.le_succ _, by simp⟩
    · exact ⟨huse.trans hrun, Nat.le_succ _, by simp⟩

theorem drainSlot_follows (gid qi : Nat) : ∀ (room : Nat) (l : SlotLoop W ε),
    l.Follows (drainSlot h w gid qi room l).2 := by
  intro room
  induction room with
  | zero => exact fun l => .refl l
  | succ room ih =>
    intro l
    unfold drainSlot
    split
    · exact .refl l
    · next qe _ _ =>
      have hentry := @slotEntry_follows W ε h w gid qi qe l
      split
      · next hstop =>
        rw [hstop] at hentry
        exact hentry
      · next l₁ hgo =>
        rw [hgo] at hentry
        split
        · exact hentry
        · next s hdeq =>
          refine hentry.trans (.trans ?_ (ih _))
          exact ⟨queueDequeue_sameConfig hdeq, Nat.le_refl _, by simp⟩

theorem slotRounds_follows (gid : Nat) : ∀ (rounds : Nat) (l : SlotLoop W ε),
    l.Follows (slotRounds h w gid rounds l).2 := by
  intro rounds
  induction rounds with
  | zero => exact fun l => .refl l
  | succ rounds ih =>
    intro l
    unfold slotRounds
    split
    · have hdrain := @drainSlot_follows W ε h w gid (l.s.ctx.guests gid).dqueuesHead
        (w.num - l.ndeq) l
      dsimp only
      split
      · next hstop =>
        rw [hstop] at hdrain
        exact hdrain
      · next l₁ hgo =>
        rw [hgo] at hdrain
        refine hdrain.trans (.trans ?_ (ih _))
        exact ⟨rotateHead_sameConfig .., Nat.le_refl _, by simp⟩
    · exact .refl l

variable (hl : h.Linked) {gid : Nat} (hgid : gid < chamelioMaxGuests)

include hl hgid

theorem queuesPollGuestDequeue_eq_slot {l : SlotLoop W ε} (hmode : l.s.fpProtoMode = .ebpf)
    (hev : (l.s.ctx.guests gid).hasEvents = true) (qi : Nat) (qe : ε) :
    queuesPollGuestDequeue h w gid qi qe l.toDeqLoop =
      some ((slotEntry h w gid qi qe l).1, (slotEntry h w gid qi qe l).2.toDeqLoop) := by
  obtain ⟨e, he, hrun⟩ := runEvent_eq_slot hl (s := l.s.useMb w l.ntx) hmode hgid hev
    (.deq (((l.s.useMb w l.ntx).ctx.guests gid).dqueues qi).id qe) (l.s.windowMb w l.ntx)
  unfold queuesPollGuestDequeue slotEntry
  dsimp only
  rw [hrun]
  dsimp only
  by_cases hneg : (runSlot h (l.s.useMb w l.ntx) gid
      (.deq (((l.s.useMb w l.ntx).ctx.guests gid).dqueues qi).id qe) (l.s.windowMb w l.ntx)).1 < 0
  · rw [if_pos (Or.inl hneg), if_pos hneg]
  · rw [if_neg (fun hor => hor.elim hneg (Int.not_lt.mpr he)), if_neg hneg]
    split <;> rfl

theorem drainQueue_eq_slot (qi : Nat) : ∀ (room : Nat) (l : SlotLoop W ε),
    l.s.fpProtoMode = .ebpf → (l.s.ctx.guests gid).hasEvents = true →
    drainQueue h w gid qi room l.toDeqLoop =
      some ((drainSlot h w gid qi room l).1, (drainSlot h w gid qi room l).2.toDeqLoop) := by
  intro room
  induction room with
  | zero => exact fun _ _ _ => rfl
  | succ room ih =>
    intro l hmode hev
    unfold drainQueue drainSlot
    cases hq : l.s.queued gid qi with
    | nil => rfl
    | cons qe rest =>
      dsimp only
      rw [queuesPollGuestDequeue_eq_slot hl hgid hmode hev qi qe]
      have hsame := (@slotEntry_follows W ε h w gid qi qe l).same
      rcases hentry : slotEntry h w gid qi qe l with ⟨ok, l₁⟩
      rw [hentry] at hsame
      cases ok with
      | false => rfl
      | true =>
        dsimp only
        cases hdeq : l₁.s.queueDequeue gid qi with
        | none => rfl
        | some s =>
          have hsame' := hsame.trans (queueDequeue_sameConfig hdeq)
          exact ih { l₁ with s } (hsame'.mode.trans hmode) ((hsame'.events gid).trans hev)

theorem queueRounds_eq_slot : ∀ (rounds : Nat) (l : SlotLoop W ε),
    l.s.fpProtoMode = .ebpf → (l.s.ctx.guests gid).hasEvents = true →
    queueRounds h w gid rounds l.toDeqLoop =
      some ((slotRounds h w gid rounds l).1, (slotRounds h w gid rounds l).2.toDeqLoop) := by
  intro rounds
  induction rounds with
  | zero => exact fun _ _ _ => rfl
  | succ rounds ih =>
    intro l hmode hev
    unfold queueRounds slotRounds
    split
    · dsimp only
      rw [drainQueue_eq_slot hl hgid _ _ l hmode hev]
      have hsame := (@drainSlot_follows W ε h w gid (l.s.ctx.guests gid).dqueuesHead
        (w.num - l.ndeq) l).same
      rcases hdrain : drainSlot h w gid (l.s.ctx.guests gid).dqueuesHead (w.num - l.ndeq) l with
        ⟨ok, l₁⟩
      rw [hdrain] at hsame
      cases ok with
      | false => rfl
      | true =>
        have hsame' := hsame.trans
          (rotateHead_sameConfig l₁.s gid (l.s.ctx.guests gid).dqueuesHead)
        exact ih { l₁ with s := l₁.s.rotateHead gid (l.s.ctx.guests gid).dqueuesHead }
          (hsame'.mode.trans hmode) ((hsame'.events gid).trans hev)
    · rfl

omit hl hgid

theorem deqPollSlot_sameConfig (gid : Nat) (l : DeqLoop W ε) :
    SameConfig l.s (deqPollSlot h w gid l).2.s := by
  unfold deqPollSlot
  dsimp only
  split
  · exact .refl _
  split
  · exact .refl _
  split
  · exact .refl _
  split
  · exact .refl _
  have hsame := (@slotRounds_follows W ε h w gid (l.s.ctx.guests gid).ndqueues
    { l with didWork := false }).same
  split
  · next hstop =>
    rw [hstop] at hsame
    exact hsame
  · next l₁ hgo =>
    rw [hgo] at hsame
    split
    · exact hsame.trans ⟨rfl, rfl, fun _ => rfl, fun _ => rfl⟩
    · exact hsame

include hl hgid

/-- **One guest's queues**: the same context, -1 in the same cases, and a
positive result of the slot for an entry that was taken. -/
theorem queuesPollGuest_eq_slot {l : DeqLoop W ε} (hmode : l.s.fpProtoMode = .ebpf)
    (hev : (l.s.ctx.guests gid).hasEvents = true) :
    queuesPollGuest h w gid l =
        some (decide (0 ≤ (deqPollSlot h w gid l).1), (deqPollSlot h w gid l).2) ∧
      (0 ≤ (deqPollSlot h w gid l).1 →
        (0 < (deqPollSlot h w gid l).1 ↔ l.ndeq < (deqPollSlot h w gid l).2.ndeq)) := by
  have hrounds := @queueRounds_eq_slot W ε h w hl gid hgid (l.s.ctx.guests gid).ndqueues
    { l with didWork := false } hmode hev
  have hwork := (@slotRounds_follows W ε h w gid (l.s.ctx.guests gid).ndqueues
    { l with didWork := false }).work
  unfold queuesPollGuest deqPollSlot
  dsimp only
  have hup : ¬ (l.s.ctx.guests gid).hasEvents = false := by
    rw [hev]
    decide
  rw [if_neg (Nat.not_le_of_lt hgid), if_neg hup]
  by_cases hhead : (l.s.ctx.guests gid).dqueuesHead = protoqIdInvalid
  · rw [if_pos hhead, if_pos hhead]
    exact ⟨rfl, by simp⟩
  rw [if_neg hhead, if_neg hhead]
  by_cases hbudget : l.s.outOfBudget gid = true
  · rw [if_pos hbudget, if_pos hbudget]
    exact ⟨rfl, by simp⟩
  rw [if_neg hbudget, if_neg hbudget, hrounds]
  rcases hslot : slotRounds h w gid (l.s.ctx.guests gid).ndqueues { l with didWork := false } with
    ⟨ok, l₁⟩
  rw [hslot] at hwork
  cases ok with
  | false => exact ⟨rfl, by simp⟩
  | true =>
    simp only [Bool.false_or] at hwork
    dsimp only
    by_cases hlt : l.ndeq < l₁.ndeq <;> by_cases hiso : l₁.s.perfIso = true <;>
      simp [hwork, hlt, hiso]

omit hgid

theorem queuesGuests_eq_slots : ∀ (gids : List Nat) (l : DeqLoop W ε) (last : Option Nat),
    l.s.Uploaded → (∀ gid ∈ gids, gid < l.s.ctx.nGuests) →
    queuesGuests h w gids l last = some (deqSlots h w gids l last) := by
  intro gids
  induction gids with
  | nil => exact fun _ _ _ _ => rfl
  | cons gid gids ih =>
    intro l last hup hgids
    have hgid := hgids gid List.mem_cons_self
    obtain ⟨heq, hpos⟩ := queuesPollGuest_eq_slot (w := w) hl
      (Nat.lt_of_lt_of_le hgid hup.few) hup.mode (hup.events gid hgid)
    have hsame := @deqPollSlot_sameConfig W ε h w gid l
    unfold queuesGuests deqSlots
    rcases hslot : deqPollSlot h w gid l with ⟨r, l₁⟩
    rw [hslot] at heq hpos hsame
    rw [heq]
    by_cases hroom : l.ndeq < w.num
    · rw [if_pos hroom, if_pos hroom]
      by_cases hneg : r < 0
      · rw [show decide (0 ≤ (r, l₁).1) = false from decide_eq_false (Int.not_le.mpr hneg)]
        dsimp only
        rw [if_pos hneg]
      · have hnn := Int.not_lt.mp hneg
        rw [show decide (0 ≤ (r, l₁).1) = true from decide_eq_true hnn]
        dsimp only
        rw [if_neg hneg, ih l₁ _ (hup.congr hsame) fun g hg => by
          rw [hsame.count]
          exact hgids g (List.mem_cons_of_mem _ hg)]
        simp only [hpos hnn]
    · rw [if_neg hroom, if_neg hroom]

end

/-- The combined poll, and then the flush of `n` packets. -/
def flushed (n : Nat) (r : Int × PollCtx W ε) : Int × PollCtx W ε := (r.1, r.2.txflush n)

/-- The default poll ends like the combined one, up to a flush. -/
def UpToFlush (d c : Option (Int × PollCtx W ε)) : Prop := ∃ n, d = c.map (flushed n)

theorem txflush_zero (s : PollCtx W ε) : s.txflush 0 = s := by
  unfold PollCtx.txflush fastTxflush
  simp

theorem txflush_unalloc (s : PollCtx W ε) (n k : Nat) :
    (s.txflush n).unalloc k = (s.unalloc k).txflush n := by
  unfold PollCtx.unalloc PollCtx.txflush txcacheUnalloc fastTxflush
  dsimp only
  split <;> rfl

theorem upToFlush_refl (r : Option (Int × PollCtx W ε)) : UpToFlush r r := by
  refine ⟨0, ?_⟩
  cases r with
  | none => rfl
  | some r =>
    show some r = some (r.1, r.2.txflush 0)
    rw [txflush_zero]

/-- **The polls of the queues agree.** -/
theorem fastQueuesPoll_comb {h : Handlers W ε} (hl : h.Linked) {s : PollCtx W ε}
    (hup : s.Uploaded) (io : PollIo) :
    UpToFlush (fastQueuesPoll h s io) (some (fastQueuesPollComb h s io)) := by
  unfold fastQueuesPoll fastQueuesPollComb
  by_cases hn : s.ctx.nGuests = 0
  · rw [if_pos hn, if_pos hn]
    exact upToFlush_refl _
  rw [if_neg hn, if_neg hn]
  rcases txcacheAlloc s.mbufs io.grants (s.batch fastDeqBatchSize) with ⟨w, mbufs⟩
  dsimp only
  by_cases hw : w.num = 0
  · rw [if_pos hw, if_pos hw]
    exact upToFlush_refl _
  rw [if_neg hw, if_neg hw]
  have hup' : ({ s with mbufs } : PollCtx W ε).Uploaded :=
    hup.congr ⟨rfl, rfl, fun _ => rfl, fun _ => rfl⟩
  rw [@queuesGuests_eq_slots W ε h w hl (guestOrder s.ctx.nGuests s.queuesStart)
    { s := { s with mbufs }, ntx := 0, ndeq := 0 } none hup' fun gid hgid => mem_guestOrder hgid]
  rcases deqSlots h w (guestOrder s.ctx.nGuests s.queuesStart)
    { s := { s with mbufs }, ntx := 0, ndeq := 0 } none with ⟨ok, l, last⟩
  cases ok with
  | false => exact upToFlush_refl _
  | true =>
    refine ⟨io.sent, ?_⟩
    show some (_, _) = some (_, _)
    rw [txflush_unalloc]

/-! ## Schedulers -/

/-- How a guest's scheduler answers while its loop goes on: the world and the
number of mbufs used at the end, and the last result. `mbOf` are the mbufs of
the window; `none` when it still goes on after `fuel` entries. -/
def schedWalk (h : Handlers W ε) (mbOf : Nat → Nat) (num gid : Nat) :
    Nat → W → Nat → Int → Option (W × Nat × Int)
  | 0, w, ntx, r => if ntx < num ∧ h.schedHead gid w = true then none else some (w, ntx, r)
  | fuel + 1, w, ntx, r =>
    if ntx < num ∧ h.schedHead gid w = true then
      let (a, w) := h.vmExec gid .sched (mbOf ntx) w
      if a.ret ≤ 0 then some (w, ntx, a.ret)
      else
        let (i, w) := h.infraTx gid (mbOf ntx) a.ret w
        schedWalk h mbOf num gid fuel w (if i = .err then ntx else ntx + 1) a.ret
    else some (w, ntx, r)

/-- No guest with budget whose turn comes has a scheduler that ends with a
negative result. -/
def SchedAnswered (h : Handlers W ε) (s : PollCtx W ε) (mbOf : Nat → Nat) (num fuel : Nat) :
    List Nat → W → Nat → Prop
  | [], _, _ => True
  | gid :: gids, w, ntx =>
    if ntx < num ∧ s.outOfBudget gid = false then
      match schedWalk h mbOf num gid fuel w ntx 0 with
      | none => True
      | some (w, ntx, r) => 0 ≤ r ∧ SchedAnswered h s mbOf num fuel gids w ntx
    else SchedAnswered h s mbOf num fuel gids w ntx

section

variable {h : Handlers W ε} {w : TxWindow}

/-- What a loop over a guest's entries leaves alone: the configuration, the
window and the budgets. -/
structure SchedFrame (s s' : PollCtx W ε) : Prop where
  same : SameConfig s s'
  cache : s'.mbufs.cache = s.mbufs.cache
  iso : s'.perfIso = s.perfIso
  budgets : s'.budgets = s.budgets

theorem SchedFrame.trans {s₁ s₂ s₃ : PollCtx W ε} (h₁ : SchedFrame s₁ s₂)
    (h₂ : SchedFrame s₂ s₃) : SchedFrame s₁ s₃ :=
  ⟨h₁.same.trans h₂.same, h₂.cache.trans h₁.cache, h₂.iso.trans h₁.iso,
    h₂.budgets.trans h₁.budgets⟩

theorem transmit_frame (s : PollCtx W ε) (gid mb : Nat) (len : Int) :
    SchedFrame s (transmit h s gid mb len).1 := by
  refine ⟨transmit_sameConfig .., transmit_cache .., ?_, ?_⟩ <;>
  · unfold transmit
    rcases h.infraTx gid mb len s.world with ⟨r, w⟩
    cases r <;> rfl

theorem runSlot_frame (s : PollCtx W ε) (gid : Nat) (ev : Event ε) (mb : Nat) :
    SchedFrame s (runSlot h s gid ev mb).2 := ⟨runSlot_sameConfig .., rfl, rfl, rfl⟩

theorem useMb_frame (s : PollCtx W ε) (k : Nat) : SchedFrame s (s.useMb w k) :=
  ⟨⟨rfl, rfl, fun _ => rfl, fun _ => rfl⟩, rfl, rfl, rfl⟩

theorem slotWhile_frame (gid : Nat) : ∀ (fuel : Nat) (l l' : SchedLoop W ε),
    slotWhile h w gid fuel l = some l' → SchedFrame l.s l'.s ∧ l.ntx ≤ l'.ntx := by
  intro fuel
  induction fuel with
  | zero =>
    intro l l' heq
    unfold slotWhile at heq
    split at heq
    · cases heq
    · cases heq
      exact ⟨⟨.refl _, rfl, rfl, rfl⟩, Nat.le_refl _⟩
  | succ fuel ih =>
    intro l l' heq
    unfold slotWhile at heq
    dsimp only at heq
    have hrun := (@useMb_frame W ε w l.s l.ntx).trans
      (@runSlot_frame W ε h (l.s.useMb w l.ntx) gid .sched (l.s.windowMb w l.ntx))
    split at heq
    · split at heq
      · cases heq
        exact ⟨hrun, Nat.le_refl _⟩
      · obtain ⟨hframe, hle⟩ := ih _ _ heq
        refine ⟨(hrun.trans (transmit_frame ..)).trans hframe, Nat.le_trans ?_ hle⟩
        dsimp only
        split <;> omega
    · cases heq
      exact ⟨⟨.refl _, rfl, rfl, rfl⟩, Nat.le_refl _⟩

theorem slotWhile_stop {gid fuel : Nat} {l : SchedLoop W ε} (hmore : l.more h w gid = false) :
    slotWhile h w gid fuel l = some l := by
  cases fuel with
  | zero =>
    unfold slotWhile
    rw [if_neg (by rw [hmore]; decide)]
  | succ fuel =>
    unfold slotWhile
    rw [if_neg (by rw [hmore]; decide)]

/-- Without an mbuf left no scheduler is asked. -/
theorem schedAnswered_full {s : PollCtx W ε} {mbOf : Nat → Nat} {num fuel ntx : Nat}
    (hfull : num ≤ ntx) : ∀ (gids : List Nat) (world : W),
    SchedAnswered h s mbOf num fuel gids world ntx := by
  intro gids world
  induction gids with
  | nil => exact trivial
  | cons gid gids ih =>
    unfold SchedAnswered
    rw [if_neg (fun hand => absurd hand.1 (Nat.not_lt.mpr hfull))]
    exact ih

variable (hl : h.Linked) {gid : Nat} (hgid : gid < chamelioMaxGuests)

include hl hgid

theorem schedWhile_eq_slot : ∀ (fuel : Nat) (l : SchedLoop W ε),
    l.s.fpProtoMode = .ebpf → (l.s.ctx.guests gid).hasEvents = true →
    schedWhile h w gid fuel l = slotWhile h w gid fuel l := by
  intro fuel
  induction fuel with
  | zero => exact fun _ _ _ => rfl
  | succ fuel ih =>
    intro l hmode hev
    obtain ⟨e, he, hrun⟩ := runEvent_eq_slot hl (s := l.s.useMb w l.ntx) hmode hgid hev .sched
      (l.s.windowMb w l.ntx)
    have hsame := ((@useMb_frame W ε w l.s l.ntx).trans
      (@runSlot_frame W ε h (l.s.useMb w l.ntx) gid .sched (l.s.windowMb w l.ntx))).same
    unfold schedWhile slotWhile
    dsimp only
    rw [hrun]
    dsimp only
    split
    · by_cases hle : (runSlot h (l.s.useMb w l.ntx) gid .sched (l.s.windowMb w l.ntx)).1 ≤ 0
      · rw [if_pos (Or.inl hle), if_pos hle]
      · rw [if_neg (fun hor => hor.elim hle (Int.not_lt.mpr he)), if_neg hle]
        have hsame' := hsame.trans (transmit_sameConfig h
          (runSlot h (l.s.useMb w l.ntx) gid .sched (l.s.windowMb w l.ntx)).2 gid
          (l.s.windowMb w l.ntx)
          (runSlot h (l.s.useMb w l.ntx) gid .sched (l.s.windowMb w l.ntx)).1)
        exact ih _ (hsame'.mode.trans hmode) ((hsame'.events gid).trans hev)
    · rfl

/-- **One guest's scheduler**: the slot does what the default poll does. -/
theorem schedPollGuest_eq_slot {fuel : Nat} {s : PollCtx W ε} {ntx : Nat}
    (hmode : s.fpProtoMode = .ebpf) (hev : (s.ctx.guests gid).hasEvents = true) :
    schedPollGuest h w fuel gid s ntx = schedPollSlot h w fuel gid s ntx := by
  have hready : schedReady s gid = true := by
    unfold schedReady
    rw [hmode]
    exact hev
  have hup : ¬ (s.ctx.guests gid).hasEvents = false := by
    rw [hev]
    decide
  unfold schedPollGuest schedPollSlot
  rw [if_neg (by rw [hready]; decide), if_neg (Nat.not_le_of_lt hgid), if_neg hup,
    schedWhile_eq_slot hl hgid fuel _ hmode hev]
  by_cases hhead : h.schedHead gid s.world = false
  · -- the default loop starts and ends at once
    rw [if_pos hhead]
    rw [slotWhile_stop (by
      unfold SchedLoop.more
      dsimp only
      rw [hhead, Bool.and_false])]
    split
    · rfl
    · dsimp only
      rw [if_neg (show ¬ (s.perfIso = true ∧ ntx < ntx) from fun hlt => Nat.lt_irrefl _ hlt.2)]
      rfl
  · exact (if_neg hhead).symm

theorem runSlot_linked (s : PollCtx W ε) (ev : Event ε) (mb : Nat) :
    runSlot h s gid ev mb = ((h.vmExec gid ev mb s.world).1.ret,
      s.called gid ev mb (h.vmExec gid ev mb s.world).2) := by
  unfold runSlot
  rw [hl.slot gid ev mb s.world hgid]

/-- The loop is the walk of the answers. -/
theorem slotWhile_walk : ∀ (fuel : Nat) (l : SchedLoop W ε),
    (slotWhile h w gid fuel l).map (fun l => (l.s.world, l.ntx, l.schedRet)) =
      schedWalk h (l.s.windowMb w) w.num gid fuel l.s.world l.ntx l.schedRet := by
  intro fuel
  induction fuel with
  | zero =>
    intro l
    unfold slotWhile schedWalk SchedLoop.more
    by_cases hmore : l.ntx < w.num ∧ h.schedHead gid l.s.world = true
    · rw [if_pos hmore, if_pos (by simp [hmore.1, hmore.2])]
      rfl
    · rw [if_neg hmore, if_neg (by simpa using hmore)]
      rfl
  | succ fuel ih =>
    intro l
    unfold slotWhile schedWalk
    by_cases hmore : l.ntx < w.num ∧ h.schedHead gid l.s.world = true
    · rw [if_pos hmore, if_pos (by unfold SchedLoop.more; simp [hmore.1, hmore.2])]
      have hrun := @runSlot_linked W ε h hl gid hgid (l.s.useMb w l.ntx) .sched
        (l.s.windowMb w l.ntx)
      rw [show (l.s.useMb w l.ntx).world = l.s.world from rfl] at hrun
      rcases hexec : h.vmExec gid .sched (l.s.windowMb w l.ntx) l.s.world with ⟨a, w₁⟩
      rw [hexec] at hrun
      dsimp only at hrun ⊢
      rw [hrun]
      dsimp only
      by_cases hle : a.ret ≤ 0
      · rw [if_pos hle, if_pos hle]
        rfl
      · rw [if_neg hle, if_neg hle, ih]
        have hmbs : (transmit h ((l.s.useMb w l.ntx).called gid .sched (l.s.windowMb w l.ntx) w₁)
            gid (l.s.windowMb w l.ntx) a.ret).1.windowMb w = l.s.windowMb w := by
          unfold PollCtx.windowMb
          rw [transmit_cache]
          rfl
        have hworld : ((l.s.useMb w l.ntx).called gid .sched (l.s.windowMb w l.ntx) w₁).world =
            w₁ := rfl
        rcases hinfra : h.infraTx gid (l.s.windowMb w l.ntx) a.ret w₁ with ⟨i, w₂⟩
        dsimp only
        rw [hmbs, transmit_world, transmit_used, hworld]
        show _ = schedWalk h _ _ _ _ (h.infraTx gid (l.s.windowMb w l.ntx) a.ret w₁).2
          (if (h.infraTx gid (l.s.windowMb w l.ntx) a.ret w₁).1 = .err then _ else _) _
        rw [hinfra]
        cases i <;> rfl
    · rw [if_neg hmore, if_neg (by unfold SchedLoop.more; simpa using hmore)]
      rfl

omit hl hgid

/-- What serving a guest leaves alone. -/
structure Served (gid : Nat) (s s' : PollCtx W ε) : Prop where
  same : SameConfig s s'
  cache : s'.mbufs.cache = s.mbufs.cache
  budgets : ∀ g, g ≠ gid → s'.outOfBudget g = s.outOfBudget g

theorem Served.refl (gid : Nat) (s : PollCtx W ε) : Served gid s s :=
  ⟨.refl s, rfl, fun _ _ => rfl⟩

theorem SchedFrame.served {s s' : PollCtx W ε} (hf : SchedFrame s s') (gid : Nat) :
    Served gid s s' := by
  exact ⟨hf.same, hf.cache, fun g _ => PollCtx.outOfBudget_congr hf.iso (congrFun hf.budgets g)⟩

theorem SchedFrame.served_charge {s s' : PollCtx W ε} (hf : SchedFrame s s') (gid : Nat)
    (cyc : UInt64) : Served gid s (s'.charge gid cyc) := by
  refine ⟨hf.same.trans ⟨rfl, rfl, fun _ => rfl, fun _ => rfl⟩, hf.cache, fun g hg => ?_⟩
  refine PollCtx.outOfBudget_congr hf.iso ?_
  show (if g = gid then _ else s'.budgets g) = _
  rw [if_neg hg, hf.budgets]

theorem schedPollSlot_outOfBudget {fuel ntx : Nat} {s : PollCtx W ε}
    (hb : s.outOfBudget gid = true) : schedPollSlot h w fuel gid s ntx = some (0, s, ntx) := by
  unfold schedPollSlot
  rw [if_pos hb]
  split
  · rfl
  split
  · rfl
  split <;> rfl

include hl hgid

/-- A guest with budget: its result is negative when its last answer is. -/
theorem schedPollSlot_walk {fuel ntx : Nat} {s : PollCtx W ε}
    (hev : (s.ctx.guests gid).hasEvents = true) (hb : s.outOfBudget gid = false) :
    match schedWalk h (s.windowMb w) w.num gid fuel s.world ntx 0 with
    | none => schedPollSlot h w fuel gid s ntx = none
    | some (world, n, r) => ∃ res s', schedPollSlot h w fuel gid s ntx = some (res, s', n) ∧
        (res < 0 ↔ r < 0) ∧ s'.world = world ∧ Served gid s s' := by
  have hwalk := @slotWhile_walk W ε h w hl gid hgid fuel
    { s, ntx, didWork := false, schedRet := 0 }
  dsimp only at hwalk
  rw [← hwalk]
  unfold schedPollSlot
  rw [if_neg (Nat.not_le_of_lt hgid), if_neg (by rw [hev]; decide),
    if_neg (show ¬ s.outOfBudget gid = true by rw [hb]; decide)]
  by_cases hhead : h.schedHead gid s.world = false
  · have hstop : slotWhile h w gid fuel { s, ntx, didWork := false, schedRet := 0 } =
        some { s, ntx, didWork := false, schedRet := 0 } :=
      slotWhile_stop (by
        unfold SchedLoop.more
        dsimp only
        rw [hhead, Bool.and_false])
    rw [if_pos hhead, hstop]
    exact ⟨0, s, rfl, Iff.rfl, rfl, .refl gid s⟩
  · rw [if_neg hhead]
    cases hloop : slotWhile h w gid fuel { s, ntx, didWork := false, schedRet := 0 } with
    | none => rfl
    | some l =>
      have hframe := (slotWhile_frame gid fuel _ _ hloop).1
      refine ⟨if l.schedRet < 0 then -1 else if l.didWork then 1 else 0, _, rfl, ?_, ?_, ?_⟩
      · split
        · next hneg => exact ⟨fun _ => hneg, fun _ => by decide⟩
        · next hneg =>
          refine ⟨fun hlt => ?_, fun hlt => absurd hlt hneg⟩
          split at hlt <;> exact absurd hlt (by decide)
      · split <;> rfl
      · split
        · exact hframe.served_charge gid _
        · exact hframe.served gid

omit hl hgid

/-- **The loops over the guests** agree when every scheduler has answered, and
the combined one returns early otherwise. -/
theorem schedSlots_iff (hl : h.Linked) {s₀ : PollCtx W ε} {mbOf : Nat → Nat} (fuel : Nat) :
    ∀ (gids : List Nat) (s : PollCtx W ε) (ntx : Nat) (last : Option Nat),
    s.Uploaded → (∀ gid ∈ gids, gid < s.ctx.nGuests) → gids.Nodup → s.windowMb w = mbOf →
    (∀ gid ∈ gids, s.outOfBudget gid = s₀.outOfBudget gid) →
    (SchedAnswered h s₀ mbOf w.num fuel gids s.world ntx →
      schedSlots h w fuel gids s ntx last =
        (schedGuests h w fuel gids s ntx last).map fun r => (true, r)) ∧
    (¬ SchedAnswered h s₀ mbOf w.num fuel gids s.world ntx →
      ∃ r, schedSlots h w fuel gids s ntx last = some (false, r)) := by
  intro gids
  induction gids with
  | nil => exact fun _ _ _ _ _ _ _ _ => ⟨fun _ => rfl, fun hno => absurd trivial hno⟩
  | cons gid gids ih =>
    intro s ntx last hup hgids hnodup hmb hbudget
    have hgid := hgids gid List.mem_cons_self
    have hlt := Nat.lt_of_lt_of_le hgid hup.few
    have hrest : ∀ g ∈ gids, g ≠ gid := fun g hg he =>
      (List.nodup_cons.mp hnodup).1 (he ▸ hg)
    unfold schedSlots schedGuests SchedAnswered
    rw [schedPollGuest_eq_slot hl hlt hup.mode (hup.events gid hgid), ← hbudget gid
      List.mem_cons_self]
    by_cases hroom : ntx < w.num
    · rw [if_pos hroom, if_pos hroom]
      by_cases hb : s.outOfBudget gid = true
      · rw [schedPollSlot_outOfBudget hb, if_neg (fun hand => by rw [hb] at hand; cases hand.2)]
        exact ih s ntx _ hup (fun g hg => hgids g (List.mem_cons_of_mem _ hg))
          (List.nodup_cons.mp hnodup).2 hmb fun g hg => hbudget g (List.mem_cons_of_mem _ hg)
      · have hb' := Bool.eq_false_iff.mpr hb
        have hslot := @schedPollSlot_walk W ε h w hl gid hlt fuel ntx s (hup.events gid hgid) hb'
        rw [if_pos ⟨hroom, hb'⟩]
        rw [hmb] at hslot
        cases hwalk : schedWalk h mbOf w.num gid fuel s.world ntx 0 with
        | none =>
          rw [hwalk] at hslot
          dsimp only at hslot
          rw [hslot]
          exact ⟨fun _ => rfl, fun hno => absurd trivial hno⟩
        | some e =>
          obtain ⟨world, n, r⟩ := e
          rw [hwalk] at hslot
          obtain ⟨res, s', heq, hneg, rfl, hserved⟩ := hslot
          rw [heq]
          dsimp only
          by_cases hr : r < 0
          · rw [if_pos (hneg.mpr hr)]
            exact ⟨fun hans => absurd hr (Int.not_lt.mpr hans.1), fun _ => ⟨_, rfl⟩⟩
          · rw [if_neg (fun hres => hr (hneg.mp hres))]
            have hnext := ih s' n (if 0 < res then some gid else last)
              (hup.congr hserved.same)
              (fun g hg => by
                rw [hserved.same.count]
                exact hgids g (List.mem_cons_of_mem _ hg))
              (List.nodup_cons.mp hnodup).2
              (by
                rw [← hmb]
                unfold PollCtx.windowMb
                rw [hserved.cache])
              fun g hg => by
                rw [hserved.budgets g (hrest g hg)]
                exact hbudget g (List.mem_cons_of_mem _ hg)
            exact ⟨fun hans => hnext.1 hans.2,
              fun hno => hnext.2 fun hans => hno ⟨Int.not_lt.mp hr, hans⟩⟩
    · rw [if_neg hroom, if_neg hroom, if_neg (fun hand => hroom hand.1)]
      refine ⟨fun _ => rfl, fun hno => absurd ?_ hno⟩
      exact schedAnswered_full (Nat.not_lt.mp hroom) gids s.world

end

/-- Every scheduler a poll comes to answers. -/
def SchedPollAnswered (h : Handlers W ε) (s : PollCtx W ε) (io : PollIo) (fuel : Nat) : Prop :=
  let (w, mbufs) := txcacheAlloc s.mbufs io.grants (s.batch fastSchedBatchSize)
  SchedAnswered h s (({ s with mbufs } : PollCtx W ε).windowMb w) w.num fuel
    (guestOrder s.ctx.nGuests s.schedStart) s.world 0

/-- The cursor of a poll is in front of the number of guests. -/
theorem schedStart_lt {s : PollCtx W ε} (hn : s.ctx.nGuests ≠ 0) :
    s.schedStart < s.ctx.nGuests := by
  unfold PollCtx.schedStart
  split <;> omega

/-- **The polls of the schedulers agree exactly when every scheduler the poll
comes to has answered.** -/
theorem fastSchedPoll_comb_iff {h : Handlers W ε} (hl : h.Linked) {s : PollCtx W ε}
    (hup : s.Uploaded) (io : PollIo) (fuel : Nat) :
    UpToFlush (fastSchedPoll h fuel s io) (fastSchedPollComb h fuel s io) ↔
      SchedPollAnswered h s io fuel := by
  unfold fastSchedPoll fastSchedPollComb SchedPollAnswered
  by_cases hn : s.ctx.nGuests = 0
  · rw [if_pos hn, if_pos hn, hn]
    exact ⟨fun _ => trivial, fun _ => upToFlush_refl _⟩
  rw [if_neg hn, if_neg hn]
  rcases txcacheAlloc s.mbufs io.grants (s.batch fastSchedBatchSize) with ⟨w, mbufs⟩
  dsimp only
  by_cases hw : w.num = 0
  · rw [if_pos hw, if_pos hw]
    exact ⟨fun _ => schedAnswered_full (by omega) _ _, fun _ => upToFlush_refl _⟩
  rw [if_neg hw, if_neg hw]
  have hup' : ({ s with mbufs } : PollCtx W ε).Uploaded :=
    hup.congr ⟨rfl, rfl, fun _ => rfl, fun _ => rfl⟩
  obtain ⟨hgood, hbad⟩ := @schedSlots_iff W ε h w hl s
    (({ s with mbufs } : PollCtx W ε).windowMb w) fuel (guestOrder s.ctx.nGuests s.schedStart)
    { s with mbufs } 0 none hup' (fun gid hgid => mem_guestOrder hgid)
    (nodup_guestOrder (schedStart_lt hn)) rfl fun _ _ => rfl
  constructor
  · -- a poll that returns -1 is not the default one, which never does
    intro hagree
    refine Classical.byContradiction fun hno => ?_
    obtain ⟨⟨s', ntx, last⟩, hslots⟩ := hbad hno
    obtain ⟨n, hagree⟩ := hagree
    rw [hslots] at hagree
    cases hguests : schedGuests h w fuel (guestOrder s.ctx.nGuests s.schedStart)
      { s with mbufs } 0 none with
    | none =>
      rw [hguests] at hagree
      cases hagree
    | some r =>
      rw [hguests] at hagree
      have hret := congrArg Prod.fst (Option.some.inj hagree)
      exact absurd hret (by
        show ((r.2.1 : Nat) : Int) ≠ -1
        omega)
  · intro hans
    rw [hgood hans]
    cases schedGuests h w fuel (guestOrder s.ctx.nGuests s.schedStart)
      { s with mbufs } 0 none with
    | none => exact upToFlush_refl none
    | some r =>
      refine ⟨io.sent, ?_⟩
      show some (_, _) = some (_, _)
      rw [txflush_unalloc]

/-! ## Received frames -/

/-- Every received frame is for no guest, or for one whose program is there. -/
def FramesServed (h : Handlers W ε) (s : PollCtx W ε) : List Nat → W → Prop
  | [], _ => True
  | mb :: mbs, w =>
    match h.infraRx mb w with
    | (none, w) => FramesServed h s mbs w
    | (some (gid, pktOff), w) =>
      let (a, w) := h.vmExec gid (.rx pktOff) mb w
      (s.ctx.guests gid).hasEvents = true ∧
        FramesServed h s mbs (if 0 < a.ret then (h.infraTx gid mb a.ret w).2 else w)

section

variable {h : Handlers W ε} {gid : Nat}

/-- The world after a frame was handled. -/
def frameWorld (h : Handlers W ε) (gid mb off : Nat) (w : W) : W :=
  if 0 < (h.vmExec gid (.rx off) mb w).1.ret then
    (h.infraTx gid mb (h.vmExec gid (.rx off) mb w).1.ret (h.vmExec gid (.rx off) mb w).2).2
  else (h.vmExec gid (.rx off) mb w).2

theorem framesServed_none {s : PollCtx W ε} {mb : Nat} {mbs : List Nat} {w w' : W}
    (hrx : h.infraRx mb w = (none, w')) :
    FramesServed h s (mb :: mbs) w ↔ FramesServed h s mbs w' := by
  unfold FramesServed
  rw [hrx]
  cases mbs <;> exact Iff.rfl

theorem framesServed_some {s : PollCtx W ε} {mb off : Nat} {mbs : List Nat} {w w' : W}
    (hrx : h.infraRx mb w = (some (gid, off), w')) :
    FramesServed h s (mb :: mbs) w ↔ (s.ctx.guests gid).hasEvents = true ∧
      FramesServed h s mbs (frameWorld h gid mb off w') := by
  show (match h.infraRx mb w with
    | (none, w) => FramesServed h s mbs w
    | (some (gid, pktOff), w) =>
      let (a, w) := h.vmExec gid (.rx pktOff) mb w
      (s.ctx.guests gid).hasEvents = true ∧
        FramesServed h s mbs (if 0 < a.ret then (h.infraTx gid mb a.ret w).2 else w)) ↔ _
  rw [hrx]
  exact Iff.rfl

theorem rxPollSlot_sameConfig (s : PollCtx W ε) (gid mb off : Nat) (tsc : UInt64) :
    SameConfig s (rxPollSlot h s gid mb off tsc).1 := by
  unfold rxPollSlot
  dsimp only
  split
  · exact .refl s
  split
  · exact .refl s
  have hrun := @runSlot_sameConfig W ε h s (s.ctx.guests gid).id (.rx off) mb
  have hcharge : ∀ (s' : PollCtx W ε) (b : Bool) (cyc : UInt64), SameConfig s s' →
      SameConfig s (if b = true then s'.charge gid cyc else s') := by
    intro s' b cyc hsame
    cases b with
    | false => exact hsame
    | true => exact hsame.trans ⟨rfl, rfl, fun _ => rfl, fun _ => rfl⟩
  refine hcharge _ _ _ ?_
  split
  · exact hrun.trans (transmit_sameConfig ..)
  · exact hrun

/-- **One frame**: the slot does what the default poll does. -/
theorem rxPollGuest_eq_slot (hl : h.Linked) (hgid : gid < chamelioMaxGuests) {s : PollCtx W ε}
    (hup : s.Uploaded) (hev : (s.ctx.guests gid).hasEvents = true) (mb off : Nat) (tsc : UInt64) :
    rxPollGuest h s gid mb off tsc = some (rxPollSlot h s gid mb off tsc) := by
  obtain ⟨e, he, hrun⟩ := runEvent_eq_slot hl hup.mode hgid hev (.rx off) mb
  unfold rxPollGuest rxPollSlot
  rw [hrun]
  dsimp only
  rw [hup.ids gid hgid hev, if_neg (Nat.not_le_of_lt hgid),
    if_neg (show ¬ (s.ctx.guests gid).hasEvents = false by rw [hev]; decide)]
  simp only [he, true_and]

theorem rxPollSlot_world (hl : h.Linked) (hgid : gid < chamelioMaxGuests) {s : PollCtx W ε}
    (hup : s.Uploaded) (hev : (s.ctx.guests gid).hasEvents = true) (mb off : Nat) (tsc : UInt64) :
    (rxPollSlot h s gid mb off tsc).1.world = frameWorld h gid mb off s.world := by
  have hcharge : ∀ (s' : PollCtx W ε) (b : Bool) (cyc : UInt64),
      (if b = true then s'.charge gid cyc else s').world = s'.world := by
    intro s' b cyc
    cases b <;> rfl
  unfold rxPollSlot frameWorld
  dsimp only
  rw [hup.ids gid hgid hev, runSlot_linked hl hgid, if_neg (Nat.not_le_of_lt hgid),
    if_neg (show ¬ (s.ctx.guests gid).hasEvents = false by rw [hev]; decide)]
  refine (hcharge _ _ _).trans ?_
  split
  · rw [transmit_world]
    rfl
  · rfl

/-- The combined loop comes to its end: no guest is behind the array. -/
theorem rxLoopComb_ends (hl : h.Linked) : ∀ (mbs : List Nat) (s : PollCtx W ε),
    ∃ r, rxLoopComb h mbs s = some r := by
  intro mbs
  induction mbs with
  | nil => exact fun s => ⟨_, rfl⟩
  | cons mb mbs ih =>
    intro s
    have hguest := hl.guest mb s.world
    unfold rxLoopComb
    dsimp only
    rcases hrx : h.infraRx mb s.world with ⟨_ | ⟨gid, off⟩, w⟩
    · obtain ⟨⟨s', used⟩, heq⟩ := ih { s with world := w }
      dsimp only
      rw [heq]
      exact ⟨_, rfl⟩
    · rw [hrx] at hguest
      have hgid := hguest gid off rfl
      dsimp only
      rw [if_neg (Nat.not_le_of_lt hgid)]
      rcases rxPollSlot h { s with world := w } gid mb off (h.clockRdtsc s.world) with ⟨s', mbTx⟩
      obtain ⟨⟨s'', used⟩, heq⟩ := ih s'
      dsimp only
      rw [heq]
      exact ⟨_, rfl⟩

theorem rxLoop_iff (hl : h.Linked) {s₀ : PollCtx W ε} :
    ∀ (mbs : List Nat) (s : PollCtx W ε), s.Uploaded → SameConfig s₀ s →
    (FramesServed h s₀ mbs s.world → rxLoopComb h mbs s = rxLoop h mbs s) ∧
    (¬ FramesServed h s₀ mbs s.world → rxLoop h mbs s = none) := by
  intro mbs
  induction mbs with
  | nil => exact fun _ _ _ => ⟨fun _ => rfl, fun hno => absurd trivial hno⟩
  | cons mb mbs ih =>
    intro s hup hsame
    have hguest := hl.guest mb s.world
    unfold rxLoopComb rxLoop
    dsimp only
    rcases hrx : h.infraRx mb s.world with ⟨_ | ⟨gid, off⟩, w⟩
    · have hworld : SameConfig s { s with world := w } := ⟨rfl, rfl, fun _ => rfl, fun _ => rfl⟩
      have hnext := ih { s with world := w } (hup.congr hworld) (hsame.trans hworld)
      rw [framesServed_none hrx]
      dsimp only
      refine ⟨fun hok => ?_, fun hno => ?_⟩
      · have heq := hnext.1 hok
        generalize rxLoopComb h mbs _ = r at heq ⊢
        subst heq
        rfl
      · rw [hnext.2 hno]
    · rw [hrx] at hguest
      have hgid := hguest gid off rfl
      have hworld : SameConfig s { s with world := w } := ⟨rfl, rfl, fun _ => rfl, fun _ => rfl⟩
      have hup' := hup.congr hworld
      rw [framesServed_some hrx]
      dsimp only
      rw [if_neg (Nat.not_le_of_lt hgid), if_neg (Nat.not_le_of_lt hgid)]
      by_cases hev : (s₀.ctx.guests gid).hasEvents = true
      · have hev' : (s.ctx.guests gid).hasEvents = true := (hsame.events gid).trans hev
        have hslot := @rxPollSlot_sameConfig W ε h { s with world := w } gid mb off
          (h.clockRdtsc s.world)
        have hend := rxPollSlot_world hl hgid hup' hev' mb off (h.clockRdtsc s.world)
        rw [rxPollGuest_eq_slot hl hgid hup' hev']
        rcases hpoll : rxPollSlot h { s with world := w } gid mb off (h.clockRdtsc s.world) with
          ⟨s', mbTx⟩
        rw [hpoll] at hslot hend
        have hnext := ih s' (hup'.congr hslot) ((hsame.trans hworld).trans hslot)
        rw [show s'.world = frameWorld h gid mb off w from hend] at hnext
        dsimp only
        refine ⟨fun hok => ?_, fun hno => ?_⟩
        · have heq := hnext.1 hok.2
          generalize rxLoopComb h mbs _ = r at heq ⊢
          subst heq
          rfl
        · rw [hnext.2 fun hok => hno ⟨hev, hok⟩]
      · -- there is no machine to run
        refine ⟨fun hok => absurd hok.1 hev, fun _ => ?_⟩
        have hnull : rxPollGuest h { s with world := w } gid mb off (h.clockRdtsc s.world) =
            none := by
          unfold rxPollGuest runEvent
          dsimp only
          rw [hup.mode]
          dsimp only
          rw [if_neg (fun hs => hev ((hsame.events gid).symm.trans hs))]
        rw [hnull]

/-- **The polls of the received frames agree exactly when every frame is for
a guest whose program is there, or for none.** -/
theorem fastRxPoll_comb_iff (hl : h.Linked) {s : PollCtx W ε} (hup : s.Uploaded)
    (nrx sent : Nat) :
    fastRxPoll h s nrx sent = fastRxPollComb h s nrx sent ↔
      FramesServed h s (nicFastRx s nrx).2 s.world := by
  have hsame : SameConfig s (nicFastRx s nrx).1 := ⟨rfl, rfl, fun _ => rfl, fun _ => rfl⟩
  obtain ⟨hgood, hbad⟩ := rxLoop_iff hl (nicFastRx s nrx).2 (nicFastRx s nrx).1
    (hup.congr hsame) hsame
  rw [show (nicFastRx s nrx).1.world = s.world from rfl] at hgood hbad
  obtain ⟨r, hcomb⟩ := rxLoopComb_ends hl (nicFastRx s nrx).2 (nicFastRx s nrx).1
  unfold fastRxPoll fastRxPollComb
  rcases hnic : nicFastRx s nrx with ⟨s₁, mbs⟩
  rw [hnic] at hgood hbad hcomb
  dsimp only at hgood hbad hcomb ⊢
  by_cases hlen : mbs.length = 0
  · rw [if_pos hlen, if_pos hlen, List.length_eq_zero_iff.mp hlen]
    exact ⟨fun _ => trivial, fun _ => rfl⟩
  rw [if_neg hlen, if_neg hlen]
  constructor
  · intro heq
    refine Classical.byContradiction fun hno => ?_
    rw [hbad hno, hcomb] at heq
    cases heq
  · intro hok
    have heq := hgood hok
    generalize rxLoopComb h mbs _ = r at heq ⊢
    subst heq
    rfl

end

/-! ## The three polls -/

/-- The combined polls do what the default ones do. -/
def CombAgrees (h : Handlers W ε) (s : PollCtx W ε) (nrx fuel : Nat) (io : PollIo) : Prop :=
  fastRxPoll h s nrx io.sent = fastRxPollComb h s nrx io.sent ∧
  UpToFlush (fastQueuesPoll h s io) (some (fastQueuesPollComb h s io)) ∧
  UpToFlush (fastSchedPoll h fuel s io) (fastSchedPollComb h fuel s io)

/-- **The combined polls agree with the default ones exactly when no frame is
for a guest without a program and no scheduler they come to returns a negative
value**: the same handlers are called in the same order, and the contexts are
the same up to the flush. -/
theorem comb_polls_agree_iff {h : Handlers W ε} (hl : h.Linked) {s : PollCtx W ε}
    (hup : s.Uploaded) (nrx fuel : Nat) (io : PollIo) :
    CombAgrees h s nrx fuel io ↔
      FramesServed h s (nicFastRx s nrx).2 s.world ∧ SchedPollAnswered h s io fuel := by
  unfold CombAgrees
  rw [fastRxPoll_comb_iff hl hup, fastSchedPoll_comb_iff hl hup]
  constructor
  · rintro ⟨hrx, -, hsched⟩
    exact ⟨hrx, hsched⟩
  · rintro ⟨hrx, hsched⟩
    exact ⟨hrx, fastQueuesPoll_comb hl hup io, hsched⟩

/-! ## Two guests -/

/-- The scheduler of guest `g` has an entry while the world is at most `g`, and
each call moves the world on. The one of guest 0 returns `r`, the others send
a packet. -/
def countingHandlers (r : Int) : Handlers Nat Unit where
  vmExec := fun gid _ _ w => ({ execRet := 0, ret := if gid = 0 then r else 60 }, w + 1)
  hand := fun _ _ _ _ w => (0, w)
  slot := fun gid _ _ w => (if gid = 0 then r else 60, w + 1)
  schedHead := fun gid w => decide (w ≤ gid)
  infraRx := fun _ w => (none, w)
  infraTx := fun _ _ _ w => (.ok, w)
  arpInsert := fun _ _ w => w
  clockRdtsc := fun _ => 0

theorem countingHandlers_linked (r : Int) : (countingHandlers r).Linked where
  slot := fun _ _ _ _ _ => rfl
  runs := fun _ _ _ _ => Int.le_refl 0
  guest := fun _ _ _ _ h => nomatch h

/-- A full cache of 256 mbufs. -/
def fullCache : TxCache where
  mbs := fun i => i
  head := 0
  n := 256
  head_lt := by decide
  n_le := by decide

/-- A guest without queues. -/
def idleGuest (id : Nat) (hasEvents : Bool) : GuestFast where
  id := id
  shmLen := 0
  protoType := chamProtoTcp
  ndqueues := 0
  dqueuesHead := protoqIdInvalid
  dqueuesTail := protoqIdInvalid
  dqueues := fun i => ⟨i, 0, 0, 0, 0, protoqIdInvalid, protoqIdInvalid⟩
  equeues := fun i => ⟨i, 0, 0, 0, 0⟩
  hasEvents := hasEvents
  nmaps := 0
  maps := fun _ => ⟨0, 0, 0, 0, 0⟩

/-- Two guests whose programs are uploaded. -/
def twoGuests : PollCtx Nat Unit where
  fpProtoMode := .ebpf
  perfIso := false
  ctx := { guests := fun i => idleGuest i true, nGuests := 2 }
  budgets := fun _ => 0
  nextQueuesGuest := 0
  nextSchedGuest := 0
  queued := fun _ _ => []
  mbufs := { cache := fullCache, txMbs := [], pool := [] }
  ctlMbs := []
  ctlFastQ := []
  ctlTxq := 0
  world := 0
  calls := []
  strayUse := false

theorem twoGuests_uploaded : twoGuests.Uploaded where
  mode := rfl
  few := by decide
  events := fun _ _ => rfl
  ids := fun _ _ _ => rfl

theorem comb_polls_agree_iff_two_guests :
    CombAgrees (countingHandlers 0) twoGuests 0 4 { grants := (true, true), sent := 1 } := by
  refine (comb_polls_agree_iff (countingHandlers_linked 0) twoGuests_uploaded 0 4 _).mpr
    ⟨trivial, ?_⟩
  exact ⟨by decide, by decide, trivial⟩

/-- The scheduler of guest 0 returns -1: the default poll goes on and sends the
packet of guest 1, the combined one returns -1. -/
theorem comb_polls_differ :
    (countingHandlers (-1)).Linked ∧ twoGuests.Uploaded ∧
      ¬ CombAgrees (countingHandlers (-1)) twoGuests 0 4 { grants := (true, true), sent := 1 } := by
  refine ⟨countingHandlers_linked _, twoGuests_uploaded, ?_⟩
  rintro ⟨-, -, n, heq⟩
  have hret := congrArg (Option.map Prod.fst) heq
  have hflush : ∀ c : Option (Int × PollCtx Nat Unit),
      (c.map (flushed n)).map Prod.fst = c.map Prod.fst := by
    intro c
    cases c <;> rfl
  rw [hflush] at hret
  exact absurd hret (by decide)

end Chamelio.Fast.Poll
