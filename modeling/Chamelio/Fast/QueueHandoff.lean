import Chamelio.Control.System
import Chamelio.Util.Queue

/-!
# A queue across disable and enable

The producer of a queue keeps its tail, the core that polls the queue its
head. A disable leaves both where they are. An enable sets the head to the
start of the region: `handle_enableq` initialises the `struct dqueue` as for a
new queue. The two meet again only if the entries taken so far are a whole
number of rounds of the ring; otherwise the core waits at a slot the producer
fills later, and takes entries out of order.

Another way to hand over an entry twice is a handler that fails: the poll
returns before `queue_dequeue` and finds the entry again.

In runs in which no enable comes in the middle of a round and no handler
fails, what the core hands to `event_deq` is a prefix of what the producer
enqueued, and its head is at the oldest entry while the queue is enabled
(`queue_handed_over`).

Mirroring notes: the region, the producer and the place of the poll are those
of `Util.Spsc`, cut at every access to a type byte; the `struct dqueue` is that
of the core's `dqueues` (`HandoffSt.view`). Control messages come between two
polls. `given` logs the entries handed to `event_deq`. Other queues and the
order in which queues are polled are left open: an entry may be taken whenever
the queue is enabled.
-/

namespace Chamelio.Fast

open Chamelio.Control Chamelio.Lib Chamelio.Util

/-- A queue of a guest, as the control path recorded it. -/
structure QueueRef where
  gid : Nat
  qid : Nat
  nelems : Nat
  elsize : Nat
  off : Nat

/-- The `struct dqueue` of a queue of a core. -/
def ChamDqueue.dq (q : ChamDqueue) : Dqueue where
  head := q.head
  nelems := q.nelems
  elsize := q.elsize

structure HandoffSt where
  /-- The context of the core. -/
  ctx : FastCtx
  q : Spsc
  enabled : Bool
  given : List Entry

/-- The core is between two polls. -/
def betweenPolls : ConsPc → Bool
  | .idle => true
  | .got | .read _ | .clearing _ _ => false

/-- `queue_head` returned an entry. -/
def headReturned : ConsPc → Bool
  | .got => true
  | .idle | .read _ | .clearing _ _ => false

/-- The producer's steps. -/
def byProducer : SpscAct → Bool
  | .callTail | .fill _ | .callEnqueue _ | .storeType => true
  | .callHead | .readEntry | .callDequeue | .clearType => false

variable (c : QueueRef)

/-- The core's end of the queue. -/
def coreDq (ctx : FastCtx) : Dqueue := ((ctx.guests c.gid).dqueues c.qid).dq

/-- The queue with the core's end of it. -/
def HandoffSt.view (s : HandoffSt) : Spsc := { s.q with dq := coreDq c s.ctx }

/-- A step of the poll on the queue, which moves the core's head. -/
def HandoffSt.poll (s : HandoffSt) (a : SpscAct) : HandoffSt :=
  let q := ((s.view c).step a).1
  let g := s.ctx.guests c.gid
  let ctx := s.ctx.setGuest c.gid (g.setDqueue c.qid { g.dqueues c.qid with head := q.dq.head })
  { s with ctx, q }

/-- What the producer, the poll loop and the control path do. -/
inductive HandoffAct
  | producer (a : SpscAct)
  | callHead
  /-- `event_deq` on the entry at the head; whether it succeeds. -/
  | eventDeq (ok : Bool)
  | callDequeue
  | clearType
  /-- `QUEUE_ENABLEQ_REQ`, as `control_guest_enableq` sends it. -/
  | enable (g : GuestControl) (core : Nat)
  | disable (core : Nat)

/-- A step of the system. The poll looks at the head between two entries and
dequeues the one that was handled. -/
def handoffStep (s : HandoffSt) : HandoffAct → HandoffSt × Unit
  | .producer a => ({ s with q := (s.q.step a).1 }, ())
  | .callHead =>
    match s.q.cons with
    | .idle => (s.poll c .callHead, ())
    | .got | .read _ | .clearing _ _ => (s, ())
  | .eventDeq ok =>
    let s' := s.poll c .readEntry
    match s'.q.cons with
    | .read en =>
      -- a poll whose handler fails returns at once
      ({ s' with
          q := { s'.q with cons := if ok then .read en else .idle }
          given := s.given ++ [en] }, ())
    | _ => (s, ())
  | .callDequeue =>
    match s.q.cons with
    | .read _ => (s.poll c .callDequeue, ())
    | .idle | .got | .clearing _ _ => (s, ())
  | .clearType => (s.poll c .clearType, ())
  | .enable g core =>
    ({ s with ctx := handleMsg s.ctx (enableqMsg g c.qid core), enabled := true }, ())
  | .disable core =>
    ({ s with ctx := handleMsg s.ctx (.disableq c.gid c.qid core), enabled := false }, ())

/-- Messages alternate and come between two polls, an enable is sent for the
queue as it is recorded, and an enabled queue is polled: `event_deq` runs on an
entry `queue_head` returned. -/
def HandoffOk (s : HandoffSt) : HandoffAct → Prop
  | .producer a => byProducer a = true
  | .callHead | .callDequeue | .clearType => s.enabled = true
  | .eventDeq _ => s.enabled = true ∧ headReturned s.q.cons = true
  | .enable g _ => s.enabled = false ∧ betweenPolls s.q.cons = true ∧ g.id = c.gid ∧
      (g.proto.queues c.qid).nelems = c.nelems ∧ (g.proto.queues c.qid).elsize = c.elsize ∧
      (g.proto.queues c.qid).off = c.off
  | .disable _ => s.enabled = true ∧ betweenPolls s.q.cons = true

/-- An enable comes after whole rounds of the ring, and no handler fails. -/
def HandoffWhole (s : HandoffSt) : HandoffAct → Prop
  | .enable _ _ => s.q.consumed.length % c.nelems = 0
  | .eventDeq ok => ok = true
  | .producer _ | .callHead | .callDequeue | .clearType | .disable _ => True

/-- A queue that was just created, on a core that has not enabled it. -/
def HandoffSt.init (ctx : FastCtx) : HandoffSt where
  ctx := ctx
  q := Spsc.init c.nelems c.elsize
  enabled := false
  given := []

/-- The number of entries the core has dequeued. -/
def HandoffSt.taken (s : HandoffSt) : Nat :=
  match s.q.cons with
  | .clearing _ _ => s.q.consumed.length + 1
  | .idle | .got | .read _ => s.q.consumed.length

/-- The queue is handed over in order: the entries handed over are a
prefix of those enqueued, and while the queue is enabled and holds entries the
head is at the slot of the oldest, which is there. -/
structure HandsOver (s : HandoffSt) : Prop where
  order : s.given <+: s.q.produced
  oldest : s.enabled = true → ∀ en, s.q.produced[s.taken]? = some en →
    (coreDq c s.ctx).head = slotAt c.elsize c.nelems s.taken ∧
      s.q.mem (coreDq c s.ctx).head = en.1 ∧
      entryData s.q.mem c.elsize (coreDq c s.ctx).head = en.2

/-! ## The invariant -/

/-- The end of the queue a core that has the queue enabled has, and one that
gets it enabled should get. -/
def HandoffSt.ends (s : HandoffSt) : Dqueue :=
  if s.enabled = true then coreDq c s.ctx
  else
    { head := slotAt c.elsize c.nelems s.q.consumed.length
      nelems := c.nelems
      elsize := c.elsize }

/-- Entries handed over and not yet cleared. -/
def pendingEntry : ConsPc → List Entry
  | .idle | .got => []
  | .read en | .clearing _ en => [en]

structure HandoffInv (s : HandoffSt) : Prop where
  ring : SpscInv c.elsize c.nelems { s.q with dq := s.ends c }
  idle : s.enabled = false → s.q.cons = .idle
  given : s.given = s.q.consumed ++ pendingEntry s.q.cons

variable {c}

section view

variable {s : HandoffSt} {ctx : FastCtx}

theorem betweenPolls_eq {p : ConsPc} (h : betweenPolls p = true) : p = .idle := by
  cases p with
  | idle => rfl
  | got | read | clearing => cases h

/-- The producer does not look at the other end, and moves neither it nor the
poll. -/
theorem step_producer {q : Spsc} {a : SpscAct} (ha : byProducer a = true) (d : Dqueue) :
    ({ q with dq := d }.step a).1 = { (q.step a).1 with dq := d } ∧
      (q.step a).1.cons = q.cons ∧ (q.step a).1.consumed = q.consumed := by
  obtain ⟨mem, eq, dq, prod, cons, produced, consumed⟩ := q
  cases a with
  | callTail =>
    simp only [Spsc.step]
    split
    · exact ⟨rfl, rfl, rfl⟩
    · cases queueTail mem eq with
      | none => exact ⟨rfl, rfl, rfl⟩
      | some x => exact ⟨rfl, rfl, rfl⟩
  | fill data =>
    cases prod with
    | idle | got | filled | storing => exact ⟨rfl, rfl, rfl⟩
  | callEnqueue t =>
    simp only [Spsc.step]
    split
    · exact ⟨rfl, rfl, rfl⟩
    · cases queueEnqueue mem eq t with
      | none => exact ⟨rfl, rfl, rfl⟩
      | some x => exact ⟨rfl, rfl, rfl⟩
  | storeType =>
    cases prod with
    | idle | got | filled | storing => exact ⟨rfl, rfl, rfl⟩
  | callHead | readEntry | callDequeue | clearType => cases ha

/-- A step of the poll is a step of the queue. -/
theorem poll_coreDq {a : SpscAct} (hinv : SpscInv c.elsize c.nelems (s.view c))
    (hstep : SpscInv c.elsize c.nelems ((s.view c).step a).1) :
    coreDq c (s.poll c a).ctx = ((s.view c).step a).1.dq := by
  have h₀ := hinv.size.2.2
  have h₁ := hstep.size.2.2
  unfold HandoffSt.poll coreDq
  dsimp only
  rw [FastCtx.setGuest_same]
  unfold GuestFast.setDqueue ChamDqueue.dq
  dsimp only
  rw [if_pos rfl]
  have hn : ((s.ctx.guests c.gid).dqueues c.qid).nelems = ((s.view c).step a).1.dq.nelems :=
    h₀.1.trans h₁.1.symm
  have he : ((s.ctx.guests c.gid).dqueues c.qid).elsize = ((s.view c).step a).1.dq.elsize :=
    h₀.2.trans h₁.2.symm
  dsimp only
  rw [hn, he]

/-- **An enable puts the head at the start of the region.** -/
theorem enable_coreDq {g : GuestControl} (core : Nat) (hg : g.id = c.gid) :
    coreDq c (handleMsg ctx (enableqMsg g c.qid core)) =
      dqueueInit (g.proto.queues c.qid).nelems (g.proto.queues c.qid).elsize := by
  unfold enableqMsg
  dsimp only [handleMsg]
  unfold handleEnableq coreDq
  rw [hg, FastCtx.setGuest_same]
  dsimp only
  unfold GuestFast.setDqueue ChamDqueue.dq dqueueInit
  grind

end view

section inv

variable {s : HandoffSt} {a : HandoffAct}

theorem init_handoffInv (ctx : FastCtx) : HandoffInv c (HandoffSt.init c ctx) := by
  refine ⟨?_, fun _ => rfl, rfl⟩
  have hends : (HandoffSt.init c ctx).ends c = dqueueInit c.nelems c.elsize := by
    unfold HandoffSt.ends dqueueInit
    rw [if_neg (by exact Bool.false_ne_true), ← slotAt_zero c.elsize c.nelems]
    rfl
  rw [hends]
  exact Spsc.init_inv c.elsize c.nelems

theorem HandoffInv.view (h : HandoffInv c s) (hen : s.enabled = true) :
    SpscInv c.elsize c.nelems (s.view c) := by
  have hring := h.ring
  unfold HandoffSt.ends at hring
  rw [if_pos hen] at hring
  exact hring

/-- Steps of the poll keep the ring. -/
theorem HandoffInv.poll_ring (h : HandoffInv c s) (he : 0 < c.elsize) (hn : 0 < c.nelems)
    (hlt : c.elsize * c.nelems < 4294967296) (hen : s.enabled = true) (a : SpscAct) :
    SpscInv c.elsize c.nelems { (s.poll c a).q with dq := (s.poll c a).ends c } := by
  have hstep := (Spsc.step_ok he hn hlt (h.view hen) a).inv
  have hends : (s.poll c a).ends c = ((s.view c).step a).1.dq := by
    unfold HandoffSt.ends
    rw [if_pos (show (s.poll c a).enabled = true from hen)]
    exact poll_coreDq (h.view hen) hstep
  rw [hends]
  exact hstep

theorem HandoffInv.producer (h : HandoffInv c s) (he : 0 < c.elsize) (hn : 0 < c.nelems)
    (hlt : c.elsize * c.nelems < 4294967296) {a : SpscAct} (ha : byProducer a = true) :
    HandoffInv c { s with q := (s.q.step a).1 } := by
  obtain ⟨hdq, hcons, hconsumed⟩ := step_producer (q := s.q) ha (s.ends c)
  have hends : HandoffSt.ends c { s with q := (s.q.step a).1 } = s.ends c := by
    unfold HandoffSt.ends
    dsimp only
    rw [hconsumed]
  refine ⟨?_, fun hdis => hcons.trans (h.idle hdis), ?_⟩
  · rw [hends, ← hdq]
    exact (Spsc.step_ok he hn hlt h.ring a).inv
  · show s.given = (s.q.step a).1.consumed ++ pendingEntry (s.q.step a).1.cons
    rw [hcons, hconsumed]
    exact h.given

/-- A look at the head hands nothing over. -/
theorem HandoffInv.callHead (h : HandoffInv c s) (he : 0 < c.elsize) (hn : 0 < c.nelems)
    (hlt : c.elsize * c.nelems < 4294967296) (hen : s.enabled = true) :
    HandoffInv c (handoffStep c s .callHead).1 := by
  unfold handoffStep
  dsimp only
  split
  · next hc =>
    refine ⟨h.poll_ring he hn hlt hen _, fun hdis => absurd (hen.symm.trans hdis) (by decide), ?_⟩
    have hgiven := h.given
    rw [hc] at hgiven
    have hcv : (s.view c).cons = .idle := hc
    show s.given = ((s.view c).step .callHead).1.consumed ++
      pendingEntry ((s.view c).step .callHead).1.cons
    rw [Spsc.step_callHead (by rw [hcv]; rfl)]
    cases queueHead (s.view c).mem (s.view c).dq with
    | none =>
      dsimp only
      rw [hcv]
      exact hgiven
    | some a =>
      dsimp only
      rw [hcv]
      exact hgiven
  · exact h
  · exact h
  · exact h

theorem HandoffInv.eventDeq (h : HandoffInv c s) (he : 0 < c.elsize) (hn : 0 < c.nelems)
    (hlt : c.elsize * c.nelems < 4294967296) (hen : s.enabled = true)
    (hgot : headReturned s.q.cons = true) : HandoffInv c (handoffStep c s (.eventDeq true)).1 := by
  have hc : s.q.cons = .got := by
    cases hc : s.q.cons with
    | got => rfl
    | idle | read | clearing =>
      rw [hc] at hgot
      cases hgot
  have hring := h.poll_ring he hn hlt hen .readEntry
  have hgiven := h.given
  rw [hc] at hgiven
  have hcv : (s.view c).cons = .got := hc
  obtain ⟨en, hread⟩ : ∃ en, (s.poll c .readEntry).q = { s.view c with cons := .read en } := by
    refine ⟨(s.view c).heldEntry, ?_⟩
    show ((s.view c).step .readEntry).1 = _
    simp only [Spsc.step, hcv]
  have hcons : (s.poll c .readEntry).q.cons = .read en := by rw [hread]
  have hstep : (handoffStep c s (.eventDeq true)).1 =
      { s.poll c .readEntry with given := s.given ++ [en] } := by
    unfold handoffStep
    dsimp only
    rw [hcons]
    dsimp only
    rw [if_pos rfl, ← hcons]
  rw [hstep]
  refine ⟨hring, fun hdis => absurd (hen.symm.trans hdis) (by decide), ?_⟩
  show s.given ++ [en] =
    (s.poll c .readEntry).q.consumed ++ pendingEntry (s.poll c .readEntry).q.cons
  rw [hcons, hread, hgiven, pendingEntry, List.append_nil]
  rfl

/-- The entry that is dequeued is the one that was handled. -/
theorem HandoffInv.callDequeue (h : HandoffInv c s) (he : 0 < c.elsize) (hn : 0 < c.nelems)
    (hlt : c.elsize * c.nelems < 4294967296) (hen : s.enabled = true) :
    HandoffInv c (handoffStep c s .callDequeue).1 := by
  unfold handoffStep
  dsimp only
  split
  · next en hc =>
    refine ⟨h.poll_ring he hn hlt hen _, fun hdis => absurd (hen.symm.trans hdis) (by decide), ?_⟩
    have hgiven := h.given
    rw [hc] at hgiven
    have hcv : (s.view c).cons = .read en := hc
    -- the entry that was read is still there
    have hcons := (h.view hen).cons
    rw [ConsAt, hcv] at hcons
    obtain ⟨htype, -, hne⟩ := (h.view hen).holds _ _ (Nat.le_refl _) hcons.2
    have hmem : (s.view c).mem (s.view c).dq.head ≠ 0 := by
      rw [hcons.1, htype]
      exact hne
    show s.given = ((s.view c).step .callDequeue).1.consumed ++
      pendingEntry ((s.view c).step .callDequeue).1.cons
    rw [Spsc.step_callDequeue (by rw [hcv]; rfl)]
    unfold queueDequeue Spsc.heldEntry
    rw [if_neg hmem, hcv]
    exact hgiven
  · exact h
  · exact h
  · exact h

theorem HandoffInv.clearType (h : HandoffInv c s) (he : 0 < c.elsize) (hn : 0 < c.nelems)
    (hlt : c.elsize * c.nelems < 4294967296) (hen : s.enabled = true) :
    HandoffInv c (s.poll c .clearType) := by
  refine ⟨h.poll_ring he hn hlt hen _, fun hdis => absurd (hen.symm.trans hdis) (by decide), ?_⟩
  have hgiven := h.given
  have hq : (s.poll c .clearType).q = ((s.view c).step .clearType).1 := rfl
  rw [hq]
  show s.given = _
  cases hc : s.q.cons with
  | clearing a en =>
    rw [hc] at hgiven
    have hcv : (s.view c).cons = .clearing a en := hc
    unfold Spsc.step
    rw [hcv]
    dsimp only
    rw [pendingEntry, List.append_nil]
    exact hgiven
  | idle | got | read =>
    have hcv : ((s.view c).step .clearType).1 = s.view c := by
      simp only [Spsc.step, HandoffSt.view, hc]
    rw [hcv]
    exact h.given

/-- **An enable after whole rounds meets the producer.** -/
theorem HandoffInv.enable (h : HandoffInv c s) {g : GuestControl} {core : Nat}
    (ha : HandoffOk c s (.enable g core)) (hwhole : s.q.consumed.length % c.nelems = 0) :
    HandoffInv c (handoffStep c s (.enable g core)).1 := by
  obtain ⟨hdis, -, hg, hn, he, -⟩ := ha
  have hends : (handoffStep c s (.enable g core)).1.ends c = s.ends c := by
    unfold HandoffSt.ends
    rw [if_pos (show (handoffStep c s (.enable g core)).1.enabled = true from rfl),
      if_neg (by rw [hdis]; exact Bool.false_ne_true)]
    show coreDq c (handleMsg s.ctx (enableqMsg g c.qid core)) = _
    rw [enable_coreDq core hg, hn, he]
    unfold slotAt dqueueInit
    rw [hwhole, Nat.mul_zero]
  refine ⟨?_, fun hdis' => (by cases hdis'), h.given⟩
  rw [hends]
  exact h.ring

/-- **A disable leaves the head where the next enable should put it.** -/
theorem HandoffInv.disable (h : HandoffInv c s) {core : Nat}
    (ha : HandoffOk c s (.disable core)) : HandoffInv c (handoffStep c s (.disable core)).1 := by
  obtain ⟨hen, hidle⟩ := ha
  have hcons := betweenPolls_eq hidle
  have hview := h.view hen
  have hat := hview.cons
  rw [ConsAt, show (s.view c).cons = .idle from hcons] at hat
  have hends : (handoffStep c s (.disable core)).1.ends c = s.ends c := by
    unfold HandoffSt.ends
    rw [if_neg (by exact Bool.false_ne_true), if_pos hen]
    have hhead : (coreDq c s.ctx).head = slotAt c.elsize c.nelems s.q.consumed.length := hat
    have hn : (coreDq c s.ctx).nelems = c.nelems := hview.size.2.2.1
    have he : (coreDq c s.ctx).elsize = c.elsize := hview.size.2.2.2
    show Dqueue.mk (slotAt c.elsize c.nelems s.q.consumed.length) c.nelems c.elsize = _
    rw [← hhead, ← hn, ← he]
  refine ⟨?_, fun _ => hcons, h.given⟩
  rw [hends]
  exact h.ring

/-- **Every step that meets the conditions keeps the invariant.** -/
theorem HandoffInv.step (h : HandoffInv c s) (he : 0 < c.elsize) (hn : 0 < c.nelems)
    (hlt : c.elsize * c.nelems < 4294967296) (ha : HandoffOk c s a) (hw : HandoffWhole c s a) :
    HandoffInv c (handoffStep c s a).1 := by
  cases a with
  | producer a => exact h.producer he hn hlt ha
  | callHead => exact h.callHead he hn hlt ha
  | eventDeq ok =>
    obtain rfl : ok = true := hw
    exact h.eventDeq he hn hlt ha.1 ha.2
  | callDequeue => exact h.callDequeue he hn hlt ha
  | clearType => exact h.clearType he hn hlt ha
  | enable g core => exact h.enable ha hw
  | disable core => exact h.disable ha

/-! ## What it says -/

/-- The entries handed over are the first of those enqueued. -/
theorem HandoffInv.order (h : HandoffInv c s) : s.given <+: s.q.produced := by
  have hfifo : s.q.consumed = s.q.produced.take s.q.consumed.length := h.ring.fifo
  have hcons := h.ring.cons
  have hnext : pendingEntry s.q.cons <+: s.q.produced.drop s.q.consumed.length := by
    cases hc : s.q.cons with
    | idle | got => exact List.nil_prefix
    | read en =>
      rw [ConsAt, show ({ s.q with dq := s.ends c } : Spsc).cons = .read en from hc] at hcons
      obtain ⟨hlt, hget⟩ := List.getElem?_eq_some_iff.mp hcons.2
      rw [List.drop_eq_getElem_cons hlt]
      exact ⟨_, congrArg (· :: _) hget.symm⟩
    | clearing a en =>
      rw [ConsAt, show ({ s.q with dq := s.ends c } : Spsc).cons = .clearing a en from hc] at hcons
      obtain ⟨hlt, hget⟩ := List.getElem?_eq_some_iff.mp hcons.2.1
      rw [List.drop_eq_getElem_cons hlt]
      exact ⟨_, congrArg (· :: _) hget.symm⟩
  obtain ⟨rest, hrest⟩ := hnext
  refine ⟨rest, ?_⟩
  rw [h.given, List.append_assoc, hrest]
  calc s.q.consumed ++ s.q.produced.drop s.q.consumed.length
      = s.q.produced.take s.q.consumed.length ++ s.q.produced.drop s.q.consumed.length := by
        rw [← hfifo]
    _ = s.q.produced := List.take_append_drop _ _

/-- The core's head is at the slot of the next entry to take. -/
theorem HandoffInv.head (h : HandoffInv c s) (hen : s.enabled = true) :
    (coreDq c s.ctx).head = slotAt c.elsize c.nelems s.taken := by
  have hcons := (h.view hen).cons
  unfold HandoffSt.taken
  cases hc : s.q.cons with
  | idle =>
    rw [ConsAt, show (s.view c).cons = .idle from hc] at hcons
    exact hcons
  | got =>
    rw [ConsAt, show (s.view c).cons = .got from hc] at hcons
    exact hcons.1
  | read en =>
    rw [ConsAt, show (s.view c).cons = .read en from hc] at hcons
    exact hcons.1
  | clearing a en =>
    rw [ConsAt, show (s.view c).cons = .clearing a en from hc] at hcons
    exact hcons.1

theorem taken_ge (s : HandoffSt) : s.q.consumed.length ≤ s.taken := by
  unfold HandoffSt.taken
  split
  · exact Nat.le_succ _
  · exact Nat.le_refl _
  · exact Nat.le_refl _
  · exact Nat.le_refl _

theorem HandoffInv.handsOver (h : HandoffInv c s) : HandsOver c s := by
  refine ⟨h.order, fun hen en hget => ?_⟩
  have hhead := h.head hen
  obtain ⟨htype, hdata, -⟩ := h.ring.holds s.taken en (taken_ge s) hget
  rw [hhead]
  exact ⟨rfl, htype, hdata⟩

/-- **An enable in the middle of a round misses the oldest entry**, if there is
one. -/
theorem HandoffInv.enable_iff (h : HandoffInv c s) (he : 0 < c.elsize) {g : GuestControl}
    {core : Nat} (ha : HandoffOk c s (.enable g core))
    (hheld : s.q.consumed.length < s.q.produced.length) :
    HandsOver c (handoffStep c s (.enable g core)).1 ↔
      s.q.consumed.length % c.nelems = 0 := by
  constructor
  · intro hafter
    have htaken : (handoffStep c s (.enable g core)).1.taken = s.q.consumed.length := by
      show s.taken = _
      unfold HandoffSt.taken
      rw [betweenPolls_eq ha.2.1]
    have hget := List.getElem?_eq_getElem hheld
    have hold := (hafter.oldest rfl _ (by rw [htaken]; exact hget)).1
    have hzero : (coreDq c (handoffStep c s (.enable g core)).1.ctx).head = 0 :=
      congrArg Dqueue.head (enable_coreDq core ha.2.2.1)
    rw [hzero, htaken] at hold
    unfold slotAt at hold
    rcases Nat.mul_eq_zero.mp hold.symm with h0 | h0
    · omega
    · exact h0
  · intro hwhole
    exact (h.enable ha hwhole).handsOver

end inv

/-- **A queue loses nothing across disable and enable**, in every run in which
no enable comes in the middle of a round of the ring and no handler fails: what
the core hands to `event_deq` is a prefix of what the producer enqueued, and
while the queue is enabled and holds entries the head is at the oldest. From
such a state an enable of a queue that holds entries keeps this exactly if it
comes after whole rounds. -/
theorem queue_handed_over {c : QueueRef} (he : 1 ≤ c.elsize) (hn : 1 ≤ c.nelems)
    (hlt : c.elsize * c.nelems < 4294967296) {ctx : FastCtx} {log : List Unit} {s : HandoffSt}
    (hr : Run (fun s a => HandoffOk c s a ∧ HandoffWhole c s a) (handoffStep c)
      (HandoffSt.init c ctx) log s) :
    HandsOver c s ∧
      ∀ g core, HandoffOk c s (.enable g core) → s.q.consumed.length < s.q.produced.length →
        (HandsOver c (handoffStep c s (.enable g core)).1 ↔
          HandoffWhole c s (.enable g core)) := by
  have hinv : HandoffInv c s := by
    refine hr.inv (I := fun _ s => HandoffInv c s) (init_handoffInv ctx) ?_
    intro log s a h ⟨ha, hw⟩
    exact h.step he hn hlt ha hw
  exact ⟨hinv.handsOver, fun g core ha hheld => hinv.enable_iff he ha hheld⟩

/-! ## Concrete runs -/

instance (c : QueueRef) (s : HandoffSt) (a : HandoffAct) : Decidable (HandoffOk c s a) := by
  cases a <;> unfold HandoffOk <;> infer_instance

instance (c : QueueRef) (s : HandoffSt) (a : HandoffAct) : Decidable (HandoffWhole c s a) := by
  cases a <;> unfold HandoffWhole <;> infer_instance

/-- A queue of two entries of two bytes. -/
def pairQueue : QueueRef where
  gid := 0
  qid := 5
  nelems := 2
  elsize := 2
  off := 0

/-- What the control path recorded of it. -/
def pairGuest : GuestControl :=
  { acceptGuest smallConfig 0 (shmallocInit 0) with
    proto :=
      { ProtoControl.blank with
        queues := fun i => { id := i, nelems := 2, elsize := 2, off := 0, core := 0 } } }

/-- The producer enqueues an entry whose bytes are `b`. -/
def enqueueActs (b : UInt8) : List HandoffAct :=
  [.producer .callTail, .producer (.fill fun _ => b), .producer (.callEnqueue b),
    .producer .storeType]

/-- The poll takes an entry. -/
def takeActs : List HandoffAct := [.callHead, .eventDeq true, .callDequeue, .clearType]

/-- A disable and an enable after two entries, a whole round. -/
theorem queue_handed_over_round :
    ∃ log s, Run (fun s a => HandoffOk pairQueue s a ∧ HandoffWhole pairQueue s a)
      (handoffStep pairQueue) (HandoffSt.init pairQueue blankCore) log s ∧
      s.given = [(1, [1]), (2, [2]), (3, [3])] ∧ HandsOver pairQueue s := by
  have hrun := Run.execOk
    ([.enable pairGuest 0] ++ enqueueActs 1 ++ enqueueActs 2 ++ takeActs ++ takeActs ++
      [.disable 0] ++ enqueueActs 3 ++ [.enable pairGuest 0] ++ takeActs)
    (Run.nil : Run (fun s a => HandoffOk pairQueue s a ∧ HandoffWhole pairQueue s a)
      (handoffStep pairQueue) (HandoffSt.init pairQueue blankCore) [] _) (by decide +kernel)
  exact ⟨_, _, hrun, by decide +kernel,
    (queue_handed_over (by decide) (by decide) (by decide) hrun).1⟩

/-- A disable and an enable after one entry: the core takes the third entry
before the second. -/
theorem queue_handed_over_fails :
    ¬ ∀ (c : QueueRef) (ctx : FastCtx), 1 ≤ c.elsize → 1 ≤ c.nelems →
      c.elsize * c.nelems < 4294967296 → ∀ log s,
      Run (HandoffOk c) (handoffStep c) (HandoffSt.init c ctx) log s → HandsOver c s := by
  intro h
  have hrun := Run.execOk
    ([.enable pairGuest 0] ++ enqueueActs 1 ++ takeActs ++ [.disable 0, .enable pairGuest 0] ++
      enqueueActs 2 ++ enqueueActs 3 ++ takeActs)
    (Run.nil : Run (HandoffOk pairQueue) (handoffStep pairQueue)
      (HandoffSt.init pairQueue blankCore) [] _) (by decide +kernel)
  have horder := (h pairQueue blankCore (by decide) (by decide) (by decide) _ _ hrun).order
  exact absurd horder (by decide +kernel)

end Chamelio.Fast
