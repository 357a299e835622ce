import Chamelio.Fast.QueuePolls
import Chamelio.Fast.TxBuffer

/-!
# Who owns an mbuf

An mbuf is free or with the NIC, in the cache of a core, in its transmit
buffer, or with the control path. `PollCtx.places` counts where it is, and
`Owned` says that the count is one. During a poll there is a fifth place: the
hands of the poll, which took a window of mbufs off the cache or frames from
the NIC. `Holding total mbs s` is the loop invariant: the mbufs `mbs` at hand
and those in the places of `s` are together what they were at the start.

Each piece of work moves the mbuf it works on from the hands to a place, or
leaves it where it is, and the end of a poll puts what is at hand back. Two
paths do not: a poll of the queues that returns -1 keeps its window
(`fast_queues.c`, `return -1` in front of `txcache_unalloc`), and an ARP
packet is written to `mb[0]` whatever `txcache_alloc` returned
(`controlif.c`). The others conserve every mbuf, for all answers of the
handlers, of `infra_tx`, of the pool and of the NIC.

Mirroring notes: the pool and the mbufs the NIC holds are one list, for
nothing here depends on which of the two has an mbuf. A message with an mbuf
is with the control path until the core takes it off its queue.
-/

namespace Chamelio.Fast.Poll

open Chamelio.Control

variable {W ε : Type}

/-! ## The places -/

/-- The mbuf a message carries. -/
def CtlMsg.mbuf : CtlMsg → List Nat
  | .mbufTx _ mb _ => [mb]
  | .config _ | .arpTxPkt | .arpUpdate _ _ | .unknown => []

/-- The mbufs of the control path: those it was handed, and those in its
messages to the core. -/
def PollCtx.controlMbs (s : PollCtx W ε) : List Nat := s.ctlMbs ++ s.ctlFastQ.flatMap CtlMsg.mbuf

/-- How often an mbuf is in one of the places. -/
def PollCtx.places (s : PollCtx W ε) (mb : Nat) : Nat :=
  s.mbufs.pool.count mb + s.mbufs.cache.items.count mb + s.mbufs.txMbs.count mb +
    s.controlMbs.count mb

/-- Each mbuf of `all` is in exactly one place, and nothing else is in any. -/
structure Owned (all : List Nat) (s : PollCtx W ε) : Prop where
  once : ∀ mb ∈ all, s.places mb = 1
  only : ∀ mb, mb ∉ all → s.places mb = 0

/-- The mbufs `mbs` at hand, with those in the places, are what they were, and
no slot was used that `txcache_alloc` had not returned. -/
structure Holding (total : Nat → Nat) (mbs : List Nat) (s : PollCtx W ε) : Prop where
  kept : ∀ mb, mbs.count mb + s.places mb = total mb
  inside : s.strayUse = false

/-- The mbufs are where they were. -/
structure SameMbufs (s s' : PollCtx W ε) : Prop where
  mbufs : s'.mbufs = s.mbufs
  ctlMbs : s'.ctlMbs = s.ctlMbs
  ctlFastQ : s'.ctlFastQ = s.ctlFastQ
  strayUse : s'.strayUse = s.strayUse

section places

variable {total : Nat → Nat} {mbs mbs' : List Nat} {s s' : PollCtx W ε}

theorem Owned.congr {all : List Nat} (ho : Owned all s) (h : ∀ mb, s'.places mb = s.places mb) :
    Owned all s' :=
  ⟨fun mb hmb => (h mb).trans (ho.once mb hmb), fun mb hmb => (h mb).trans (ho.only mb hmb)⟩

/-- **Whoever still holds an mbuf at the end lost it.** -/
theorem Owned.lost {all : List Nat} (ho : Owned all s) (hh : Holding s.places mbs s')
    (hne : mbs ≠ []) : ¬ Owned all s' := by
  intro ho'
  obtain ⟨mb, rest, rfl⟩ := List.exists_cons_of_ne_nil hne
  have hcount := hh.kept mb
  rw [List.count_cons_self] at hcount
  by_cases hmb : mb ∈ all
  · have h₁ := ho.once mb hmb
    have h₂ := ho'.once mb hmb
    omega
  · have h₁ := ho.only mb hmb
    omega

theorem Holding.nothing (hh : Holding s.places [] s') (mb : Nat) : s'.places mb = s.places mb := by
  have := hh.kept mb
  rwa [List.count_nil, Nat.zero_add] at this

theorem Holding.start (hin : s.strayUse = false) : Holding s.places [] s :=
  ⟨fun mb => by rw [List.count_nil, Nat.zero_add], hin⟩

theorem Holding.perm (hh : Holding total mbs s) (hp : mbs.Perm mbs') : Holding total mbs' s where
  kept := fun mb => by
    rw [← hp.count_eq]
    exact hh.kept mb
  inside := hh.inside

theorem SameMbufs.places (hs : SameMbufs s s') (mb : Nat) : s'.places mb = s.places mb := by
  unfold PollCtx.places PollCtx.controlMbs
  rw [hs.mbufs, hs.ctlMbs, hs.ctlFastQ]

theorem Holding.same (hh : Holding total mbs s) (hs : SameMbufs s s') : Holding total mbs s' where
  kept := fun mb => by
    rw [hs.places]
    exact hh.kept mb
  inside := hs.strayUse.trans hh.inside

/-! ## One mbuf changes its place -/

/-- The mbuf goes into the transmit buffer. -/
theorem Holding.queueTx {mb : Nat} (hh : Holding total (mb :: mbs) s) :
    Holding total mbs (s.queueTx mb) := by
  refine ⟨fun x => ?_, hh.inside⟩
  have hx := hh.kept x
  unfold PollCtx.places PollCtx.controlMbs at *
  show mbs.count x + (s.mbufs.pool.count x + s.mbufs.cache.items.count x +
    (s.mbufs.txMbs ++ [mb]).count x + (s.ctlMbs ++ s.ctlFastQ.flatMap CtlMsg.mbuf).count x) = _
  simp only [List.count_append, List.count_cons, List.count_nil] at hx ⊢
  omega

/-- The mbuf goes to the control path. -/
theorem Holding.toControl {mb : Nat} (hh : Holding total (mb :: mbs) s) :
    Holding total mbs { s with ctlMbs := s.ctlMbs ++ [mb] } := by
  refine ⟨fun x => ?_, hh.inside⟩
  have hx := hh.kept x
  unfold PollCtx.places PollCtx.controlMbs at *
  simp only [List.count_append, List.count_cons, List.count_nil] at hx ⊢
  omega

/-- `txcache_free` takes the mbuf. -/
theorem Holding.free {mb : Nat} (hh : Holding total (mb :: mbs) s) :
    Holding total mbs (s.free mb) := by
  refine ⟨fun x => ?_, hh.inside⟩
  have hx := hh.kept x
  unfold PollCtx.places PollCtx.controlMbs at *
  unfold PollCtx.free txcacheFree
  rw [List.count_cons] at hx
  split
  · next h =>
    show mbs.count x + (s.mbufs.pool.count x + (s.mbufs.cache.push mb h).items.count x +
      s.mbufs.txMbs.count x + (s.ctlMbs ++ s.ctlFastQ.flatMap CtlMsg.mbuf).count x) = _
    rw [TxCache.push_items, List.count_cons]
    omega
  · show mbs.count x + ((mb :: s.mbufs.pool).count x + s.mbufs.cache.items.count x +
      s.mbufs.txMbs.count x + (s.ctlMbs ++ s.ctlFastQ.flatMap CtlMsg.mbuf).count x) = _
    rw [List.count_cons]
    omega

/-- The NIC takes mbufs out of the transmit buffer. -/
theorem Holding.txflush (hh : Holding total mbs s) (sent : Nat) :
    Holding total mbs (s.txflush sent) := by
  refine ⟨fun x => ?_, hh.inside⟩
  have hx := hh.kept x
  have hsplit := congrArg (List.count x) (List.take_append_drop sent s.mbufs.txMbs)
  rw [List.count_append] at hsplit
  unfold PollCtx.places PollCtx.controlMbs at *
  show mbs.count x + ((s.mbufs.pool ++ s.mbufs.txMbs.take sent).count x +
    s.mbufs.cache.items.count x + (s.mbufs.txMbs.drop sent).count x +
    (s.ctlMbs ++ s.ctlFastQ.flatMap CtlMsg.mbuf).count x) = _
  have hpool : (s.mbufs.pool ++ s.mbufs.txMbs.take sent).count x =
      s.mbufs.pool.count x + (s.mbufs.txMbs.take sent).count x := List.count_append
  omega

end places

/-! ## One item of work -/

section work

variable {total : Nat → Nat} {mbs : List Nat} {s s' : PollCtx W ε} {h : Handlers W ε}

theorem runEvent_sameMbufs {gid mb : Nat} {ev : Event ε} {r : Ret}
    (hrun : runEvent h s gid ev mb = some (r, s')) : SameMbufs s s' := by
  unfold runEvent at hrun
  split at hrun
  · split at hrun
    · cases hrun
      exact ⟨rfl, rfl, rfl, rfl⟩
    · cases hrun
  · cases hrun
    exact ⟨rfl, rfl, rfl, rfl⟩
  · cases hrun
    exact ⟨rfl, rfl, rfl, rfl⟩

/-- **A packet takes its mbuf, or leaves it at hand.** -/
theorem Holding.transmit {mb : Nat} (hh : Holding total (mb :: mbs) s) (gid : Nat) (len : Int) :
    Holding total (if (transmit h s gid mb len).2 then mbs else mb :: mbs)
      (transmit h s gid mb len).1 := by
  unfold Poll.transmit
  rcases h.infraTx gid mb len s.world with ⟨r, w⟩
  have hw : Holding total (mb :: mbs) { s with world := w } := hh.same ⟨rfl, rfl, rfl, rfl⟩
  cases r with
  | ok => exact hw.queueTx
  | mbuf => exact hw.toControl
  | err => exact hw

theorem Holding.charge (hh : Holding total mbs s) (gid : Nat) (cyc : UInt64) :
    Holding total mbs (s.charge gid cyc) := hh.same ⟨rfl, rfl, rfl, rfl⟩

/-! ## Received frames -/

/-- The mbufs of the frames nothing was sent in. -/
def unusedMbs (used : List (Nat × Bool)) : List Nat :=
  used.flatMap fun u => if u.2 then [] else [u.1]

theorem rxPollGuest_holding {gid mb pktOff : Nat} {tsc : UInt64} {mbTx : Bool}
    (hh : Holding total (mb :: mbs) s)
    (hp : rxPollGuest h s gid mb pktOff tsc = some (s', mbTx)) :
    Holding total (if mbTx then mbs else mb :: mbs) s' := by
  unfold rxPollGuest at hp
  split at hp
  · cases hp
  · next r s₁ hrun =>
    have h₁ := hh.same (runEvent_sameMbufs hrun)
    have h₂ : Holding total
        (if (if 0 < r.ret then Poll.transmit h s₁ gid mb r.ret else (s₁, false)).2 then mbs
          else mb :: mbs)
        (if 0 < r.ret then Poll.transmit h s₁ gid mb r.ret else (s₁, false)).1 := by
      split
      · exact h₁.transmit gid r.ret
      · exact h₁
    generalize (if 0 < r.ret then Poll.transmit h s₁ gid mb r.ret else (s₁, false)) = p at hp h₂
    obtain ⟨s₂, tx⟩ := p
    cases hp
    dsimp only at h₂ ⊢
    by_cases hc : (s₂.perfIso && decide (0 ≤ r.execRet ∧ 0 ≤ r.ret)) = true
    · rw [if_pos hc]
      exact h₂.charge ..
    · rw [if_neg hc]
      exact h₂

/-- **What the loop over the frames did not use is at hand.** -/
theorem rxLoop_holding {frames : List Nat} {used : List (Nat × Bool)}
    (hh : Holding total (frames ++ mbs) s) (hp : rxLoop h frames s = some (s', used)) :
    Holding total (unusedMbs used ++ mbs) s' := by
  induction frames generalizing s used mbs with
  | nil =>
    cases hp
    exact hh
  | cons mb frames ih =>
    rw [rxLoop] at hp
    split at hp
    · next w _ =>
      split at hp
      · cases hp
      · next s₁ used₁ hrest =>
        cases hp
        -- the frame is not for a guest: its mbuf stays at hand behind the others
        have hw : Holding total (frames ++ mb :: mbs) { s with world := w } :=
          (hh.perm List.perm_middle.symm).same ⟨rfl, rfl, rfl, rfl⟩
        exact (ih hw hrest).perm List.perm_middle
    · next gid pktOff w _ =>
      have hw : Holding total (mb :: (frames ++ mbs)) { s with world := w } :=
        hh.same ⟨rfl, rfl, rfl, rfl⟩
      split at hp
      · cases hp
      · split at hp
        · cases hp
        · next s₁ mbTx hguest =>
          have h₁ := rxPollGuest_holding hw hguest
          split at hp
          · cases hp
          · next s₂ used₂ hrest =>
            cases hp
            cases mbTx with
            | true =>
              show Holding total (unusedMbs used₂ ++ mbs) s'
              exact ih h₁ hrest
            | false => exact (ih (h₁.perm List.perm_middle.symm) hrest).perm List.perm_middle

/-- The mbufs that were not used go back to the cache. -/
theorem rxFree_holding {used : List (Nat × Bool)} (hh : Holding total (unusedMbs used ++ mbs) s) :
    Holding total mbs (rxFree used s) := by
  induction used generalizing s with
  | nil => exact hh
  | cons u used ih =>
    obtain ⟨mb, mbTx⟩ := u
    rw [rxFree]
    refine ih ?_
    cases mbTx with
    | true => exact hh
    | false => exact hh.free

/-- The frames of a poll are at hand. -/
theorem nicFastRx_holding (hh : Holding total [] s) (nrx : Nat) :
    Holding total ((nicFastRx s nrx).2 ++ []) (nicFastRx s nrx).1 := by
  refine ⟨fun x => ?_, hh.inside⟩
  have hx := hh.kept x
  have hsplit := congrArg (List.count x)
    (List.take_append_drop (min nrx (s.batch fastRxBatchSize)) s.mbufs.pool)
  unfold PollCtx.places PollCtx.controlMbs nicFastRx at *
  dsimp only
  simp only [List.count_append, List.count_nil] at hx hsplit ⊢
  show _ + (_ + s.mbufs.cache.items.count x + _ + _) = _
  omega

/-- **A poll of the received frames loses no mbuf.** -/
theorem fastRxPoll_holding {nrx sent : Nat} {r : Int} (hh : Holding total [] s)
    (hp : fastRxPoll h s nrx sent = some (r, s')) : Holding total [] s' := by
  unfold fastRxPoll at hp
  have hrx := nicFastRx_holding hh nrx
  dsimp only at hp
  split at hp
  · next hnone =>
    cases hp
    rwa [List.eq_nil_of_length_eq_zero hnone] at hrx
  · split at hp
    · cases hp
    · next s₁ used hloop =>
      cases hp
      exact rxFree_holding ((rxLoop_holding hrx hloop).txflush sent)

/-! The combined poll of the frames. -/

theorem rxPollSlot_holding (h : Handlers W ε) {mb : Nat} (gid pktOff : Nat) (tsc : UInt64)
    (hh : Holding total (mb :: mbs) s) :
    Holding total (if (rxPollSlot h s gid mb pktOff tsc).2 then mbs else mb :: mbs)
      (rxPollSlot h s gid mb pktOff tsc).1 := by
  unfold rxPollSlot
  dsimp only
  split
  · exact hh
  · split
    · exact hh
    · have h₁ : Holding total (mb :: mbs) (runSlot h s (s.ctx.guests gid).id (.rx pktOff) mb).2 :=
        hh.same ⟨rfl, rfl, rfl, rfl⟩
      generalize runSlot h s (s.ctx.guests gid).id (.rx pktOff) mb = q at h₁
      have h₂ : Holding total
          (if (if 0 < q.1 then Poll.transmit h q.2 gid mb q.1 else (q.2, false)).2 then mbs
            else mb :: mbs)
          (if 0 < q.1 then Poll.transmit h q.2 gid mb q.1 else (q.2, false)).1 := by
        split
        · exact h₁.transmit gid q.1
        · exact h₁
      generalize (if 0 < q.1 then Poll.transmit h q.2 gid mb q.1 else (q.2, false)) = p at h₂
      by_cases hc : (p.1.perfIso && decide (0 ≤ q.1)) = true
      · rw [if_pos hc]
        exact h₂.charge ..
      · rw [if_neg hc]
        exact h₂

theorem rxLoopComb_holding {frames : List Nat} {used : List (Nat × Bool)}
    (hh : Holding total (frames ++ mbs) s) (hp : rxLoopComb h frames s = some (s', used)) :
    Holding total (unusedMbs used ++ mbs) s' := by
  induction frames generalizing s used mbs with
  | nil =>
    cases hp
    exact hh
  | cons mb frames ih =>
    rw [rxLoopComb] at hp
    split at hp
    · next w _ =>
      split at hp
      · cases hp
      · next s₁ used₁ hrest =>
        cases hp
        have hw : Holding total (frames ++ mb :: mbs) { s with world := w } :=
          (hh.perm List.perm_middle.symm).same ⟨rfl, rfl, rfl, rfl⟩
        exact (ih hw hrest).perm List.perm_middle
    · next gid pktOff w _ =>
      have hw : Holding total (mb :: (frames ++ mbs)) { s with world := w } :=
        hh.same ⟨rfl, rfl, rfl, rfl⟩
      split at hp
      · cases hp
      · have h₁ := rxPollSlot_holding h gid pktOff (h.clockRdtsc s.world) hw
        generalize rxPollSlot h { s with world := w } gid mb pktOff (h.clockRdtsc s.world) = p
          at hp h₁
        obtain ⟨s₁, mbTx⟩ := p
        dsimp only at hp h₁
        split at hp
        · cases hp
        · next s₂ used₂ hrest =>
          cases hp
          cases mbTx with
          | true =>
            show Holding total (unusedMbs used₂ ++ mbs) s'
            exact ih h₁ hrest
          | false => exact (ih (h₁.perm List.perm_middle.symm) hrest).perm List.perm_middle

theorem fastRxPollComb_holding {nrx sent : Nat} {r : Int} (hh : Holding total [] s)
    (hp : fastRxPollComb h s nrx sent = some (r, s')) : Holding total [] s' := by
  unfold fastRxPollComb at hp
  have hrx := nicFastRx_holding hh nrx
  dsimp only at hp
  split at hp
  · next hnone =>
    cases hp
    rwa [List.eq_nil_of_length_eq_zero hnone] at hrx
  · split at hp
    · cases hp
    · next s₁ used hloop =>
      cases hp
      exact rxFree_holding ((rxLoopComb_holding hrx hloop).txflush sent)

end work

/-! ## A window of the cache -/

/-- A poll took the window `w` off the cache, which is `c` since, and has used
`ntx` of its mbufs; the others are at hand. -/
structure WindowHeld (total : Nat → Nat) (c : TxCache) (w : TxWindow) (ntx : Nat)
    (s : PollCtx W ε) : Prop where
  cache : s.mbufs.cache = c
  used : ntx ≤ w.num
  held : Holding total ((w.mbufs c).drop ntx) s

section window

variable {total : Nat → Nat} {c : TxCache} {w : TxWindow} {ntx : Nat} {s s' : PollCtx W ε}
  {h : Handlers W ε}

/-- `txcache_alloc` hands a window to a poll. -/
theorem WindowHeld.start (hh : Holding total [] s) (grants : Bool × Bool) (num : Nat) :
    WindowHeld total (txcacheAlloc s.mbufs grants num).2.cache (txcacheAlloc s.mbufs grants num).1 0
      { s with mbufs := (txcacheAlloc s.mbufs grants num).2 } := by
  have ha := txcacheAlloc_spec s.mbufs grants num
  generalize txcacheAlloc s.mbufs grants num = r at ha
  obtain ⟨w, m⟩ := r
  obtain ⟨got, hpool, hitems⟩ := ha.taken
  refine ⟨rfl, Nat.zero_le _, fun x => ?_, hh.inside⟩
  have hx := hh.kept x
  have hcount := congrArg (List.count x) hitems
  unfold PollCtx.places PollCtx.controlMbs at *
  rw [hpool] at hx
  rw [List.drop_zero]
  dsimp only at ha hcount ⊢
  rw [ha.txMbs]
  simp only [List.count_append, List.count_nil] at hx hcount ⊢
  omega

/-- **A window that is put back is in the cache again.** -/
theorem WindowHeld.unalloc {m : Mbufs} {grants : Bool × Bool} {num : Nat}
    (hw : WindowHeld total (txcacheAlloc m grants num).2.cache (txcacheAlloc m grants num).1 ntx s) :
    Holding total [] (s.unalloc ((txcacheAlloc m grants num).1.num - ntx)) := by
  have ha := txcacheAlloc_spec m grants num
  generalize txcacheAlloc m grants num = r at ha hw
  obtain ⟨w, m'⟩ := r
  have hcache : s.mbufs.cache = m'.cache := hw.cache
  have hused : ntx ≤ w.num := hw.used
  have hfit : s.mbufs.cache.n + (w.num - ntx) ≤ txCacheSize := by
    have := ha.fits
    rw [hcache]
    dsimp only at this
    omega
  have hitems : (s.mbufs.cache.retreat (w.num - ntx) hfit).items =
      (w.mbufs m'.cache).drop ntx ++ s.mbufs.cache.items := by
    have hback := TxCache.retreat_items (c := s.mbufs.cache) (w := w) (k := w.num - ntx)
      ha.inRing (by rw [hcache]; exact ha.head) (Nat.sub_le _ _) hfit
    rw [hback, hcache, Nat.sub_sub_self hused]
  refine ⟨fun x => ?_, hw.held.inside⟩
  have hx := hw.held.kept x
  unfold PollCtx.places PollCtx.controlMbs at *
  unfold PollCtx.unalloc txcacheUnalloc
  dsimp only at hx ⊢
  rw [dif_pos hfit]
  dsimp only
  rw [hitems, List.count_append, List.count_nil]
  omega

theorem WindowHeld.same (hw : WindowHeld total c w ntx s) (hs : SameMbufs s s') :
    WindowHeld total c w ntx s' := by
  refine ⟨?_, hw.used, hw.held.same hs⟩
  rw [hs.mbufs]
  exact hw.cache

/-- An mbuf of the window is looked at. -/
theorem WindowHeld.useMb (hw : WindowHeld total c w ntx s) (hlt : ntx < w.num) :
    WindowHeld total c w ntx (s.useMb w ntx) := by
  refine hw.same ⟨rfl, rfl, rfl, ?_⟩
  show (s.strayUse || decide (w.num ≤ ntx)) = s.strayUse
  rw [decide_eq_false (by omega), Bool.or_false]

/-- **A packet in the next mbuf of the window.** -/
theorem WindowHeld.transmit (hw : WindowHeld total c w ntx s) (hlt : ntx < w.num) (gid : Nat)
    {mb : Nat} (hmb : mb = c.mbs (w.base + ntx)) (len : Int) :
    WindowHeld total c w (if (transmit h s gid mb len).2 then ntx + 1 else ntx)
      (transmit h s gid mb len).1 := by
  have hheld := hw.held
  rw [w.drop_mbufs c hlt, ← hmb] at hheld
  have ht := hheld.transmit (h := h) gid len
  refine ⟨(transmit_cache ..).trans hw.cache, ?_, ?_⟩
  · have := hw.used
    split <;> omega
  · split at ht
    · next hu =>
      rw [if_pos hu]
      exact ht
    · next hu =>
      rw [if_neg hu, w.drop_mbufs c hlt, ← hmb]
      exact ht

/-! ## Queues -/

/-- The window in the loops over the queues: an entry uses one mbuf at most. -/
structure DeqHeld (total : Nat → Nat) (c : TxCache) (w : TxWindow) (l : DeqLoop W ε) : Prop where
  window : WindowHeld total c w l.ntx l.s
  sent : l.ntx ≤ l.ndeq
  taken : l.ndeq ≤ w.num

/-- A loop over the queues keeps the window; one that stops early has an mbuf at
hand. -/
def DeqEnds (total : Nat → Nat) (c : TxCache) (w : TxWindow) (ok : Bool) (l : DeqLoop W ε) : Prop :=
  DeqHeld total c w l ∧ (ok = false → l.ntx < w.num)

section deq

variable {l l' : DeqLoop W ε} {ok : Bool}

theorem DeqHeld.same (hl : DeqHeld total c w l) (hs : SameMbufs l.s s) :
    DeqHeld total c w { l with s } := ⟨hl.window.same hs, hl.sent, hl.taken⟩

theorem DeqHeld.ends (hl : DeqHeld total c w l) : DeqEnds total c w true l :=
  ⟨hl, fun h => Bool.noConfusion h⟩

/-- **An entry uses the next mbuf or none**, and answered negatively it leaves
one at hand. -/
theorem queuesPollGuestDequeue_held {gid qi : Nat} {qe : ε} (hl : DeqHeld total c w l)
    (hlt : l.ndeq < w.num) (hp : queuesPollGuestDequeue h w gid qi qe l = some (ok, l')) :
    DeqEnds total c w ok l' ∧ l'.ndeq = l.ndeq + 1 ∧ l'.s.queued = l.s.queued := by
  have hsent := hl.sent
  have hnext : l.ntx < w.num := Nat.lt_of_le_of_lt hsent hlt
  have hu := hl.window.useMb hnext
  have hmb : l.s.windowMb w l.ntx = c.mbs (w.base + l.ntx) := by
    unfold PollCtx.windowMb
    rw [hl.window.cache]
  unfold queuesPollGuestDequeue at hp
  dsimp only at hp
  split at hp
  · cases hp
  · next r s₁ hrun =>
    have h₁ := hu.same (runEvent_sameMbufs hrun)
    have hq : s₁.queued = l.s.queued := by
      rcases runEvent_cases h (l.s.useMb w l.ntx) gid _ _ with ⟨hnone, -⟩ | ⟨r', s', hsome, -, hlog⟩
      · rw [hnone] at hrun
        cases hrun
      · rw [hsome] at hrun
        cases hrun
        rcases hlog with hlog | ⟨hlog, -⟩
        · rw [hlog]
          rfl
        · rw [hlog]
          rfl
    split at hp
    · cases hp
      exact ⟨⟨⟨h₁, by dsimp only; omega, hlt⟩, fun _ => hnext⟩, rfl, hq⟩
    · split at hp
      · have ht := h₁.transmit (h := h) hnext gid hmb r.ret
        have hqt := (transmit_sentOnly h s₁ gid (l.s.windowMb w l.ntx) r.ret).queued
        generalize transmit h s₁ gid (l.s.windowMb w l.ntx) r.ret = p at hp ht hqt
        obtain ⟨s₂, used⟩ := p
        cases hp
        refine ⟨⟨⟨ht, ?_, hlt⟩, fun hf => Bool.noConfusion hf⟩, rfl, hqt.trans hq⟩
        dsimp only
        split <;> omega
      · cases hp
        exact ⟨⟨⟨h₁, by dsimp only; omega, hlt⟩, fun hf => Bool.noConfusion hf⟩, rfl, hq⟩

theorem drainQueue_held {gid qi room : Nat} (hl : DeqHeld total c w l)
    (hroom : l.ndeq + room ≤ w.num) (hp : drainQueue h w gid qi room l = some (ok, l')) :
    DeqEnds total c w ok l' := by
  induction room generalizing l with
  | zero =>
    cases hp
    exact hl.ends
  | succ room ih =>
    rw [drainQueue] at hp
    split at hp
    · cases hp
      exact hl.ends
    · next qe rest hqueue =>
      split at hp
      · cases hp
      · next l₁ hdeq =>
        cases hp
        exact (queuesPollGuestDequeue_held hl (by omega) hdeq).1
      · next l₁ hdeq =>
        obtain ⟨h₁, hndeq, hqueued⟩ := queuesPollGuestDequeue_held hl (by omega) hdeq
        -- the entry is still there, so taking it off succeeds
        rw [queueDequeue_cons (by rw [hqueued]; exact hqueue)] at hp
        dsimp only at hp
        refine ih (h₁.1.same (s := l₁.s.setQueue gid qi rest) ⟨rfl, rfl, rfl, rfl⟩) ?_ hp
        dsimp only
        omega

theorem queueRounds_held {gid rounds : Nat} (hl : DeqHeld total c w l)
    (hp : queueRounds h w gid rounds l = some (ok, l')) : DeqEnds total c w ok l' := by
  induction rounds generalizing l with
  | zero =>
    cases hp
    exact hl.ends
  | succ rounds ih =>
    rw [queueRounds] at hp
    split at hp
    · dsimp only at hp
      split at hp
      · cases hp
      · next l₁ hdrain =>
        cases hp
        exact drainQueue_held hl (by omega) hdrain
      · next l₁ hdrain =>
        have h₁ := (drainQueue_held hl (by omega) hdrain).1
        exact ih (h₁.same (s := l₁.s.rotateHead gid _) ⟨rfl, rfl, rfl, rfl⟩) hp
    · cases hp
      exact hl.ends

theorem queuesPollGuest_held {gid : Nat} (hl : DeqHeld total c w l)
    (hp : queuesPollGuest h w gid l = some (ok, l')) : DeqEnds total c w ok l' := by
  unfold queuesPollGuest at hp
  dsimp only at hp
  split at hp
  · cases hp
    exact hl.ends
  · split at hp
    · cases hp
      exact hl.ends
    · split at hp
      · next l₁ hrounds =>
        have h₁ := (queueRounds_held hl hrounds).1
        split at hp
        · cases hp
          exact (h₁.same (s := l₁.s.charge gid _) ⟨rfl, rfl, rfl, rfl⟩).ends
        · cases hp
          exact h₁.ends
      · exact queueRounds_held hl hp

theorem queuesGuests_held {gids : List Nat} {last last' : Option Nat} (hl : DeqHeld total c w l)
    (hp : queuesGuests h w gids l last = some (ok, l', last')) : DeqEnds total c w ok l' := by
  induction gids generalizing l last with
  | nil =>
    cases hp
    exact hl.ends
  | cons gid gids ih =>
    rw [queuesGuests] at hp
    split at hp
    · split at hp
      · cases hp
      · next l₁ hguest =>
        cases hp
        exact queuesPollGuest_held hl hguest
      · next l₁ hguest => exact ih (queuesPollGuest_held hl hguest).1 hp
    · cases hp
      exact hl.ends

end deq

theorem queuesCursor_sameMbufs (s : PollCtx W ε) (last : Option Nat) :
    SameMbufs s (s.queuesCursor last) := by
  cases last with
  | none => exact ⟨rfl, rfl, rfl, rfl⟩
  | some gid => exact ⟨rfl, rfl, rfl, rfl⟩

theorem schedCursor_sameMbufs (s : PollCtx W ε) (last : Option Nat) :
    SameMbufs s (s.schedCursor last) := by
  cases last with
  | none => exact ⟨rfl, rfl, rfl, rfl⟩
  | some gid => exact ⟨rfl, rfl, rfl, rfl⟩

theorem WindowHeld.flush (hw : WindowHeld total c w ntx s) (sent : Nat) :
    WindowHeld total c w ntx (s.txflush sent) := ⟨hw.cache, hw.used, hw.held.txflush sent⟩

/-- An empty window is nothing at hand. -/
theorem WindowHeld.none (hw : WindowHeld total c w 0 s) (hnum : w.num = 0) :
    Holding total [] s := by
  have hheld := hw.held
  have hempty : (w.mbufs c).drop 0 = [] := by
    rw [List.drop_zero]
    exact List.eq_nil_of_length_eq_zero ((w.mbufs_length c).trans hnum)
  rwa [hempty] at hheld

/-- **A poll of the queues loses no mbuf, or it returns -1 and loses some.** -/
theorem fastQueuesPoll_holding {io : PollIo} {r : Int} (hh : Holding total [] s)
    (hp : fastQueuesPoll h s io = some (r, s')) :
    (0 ≤ r ∧ Holding total [] s') ∨ (r = -1 ∧ ∃ mbs, mbs ≠ [] ∧ Holding total mbs s') := by
  have hstart := WindowHeld.start hh io.grants (s.batch fastDeqBatchSize)
  unfold fastQueuesPoll at hp
  split at hp
  · cases hp
    exact .inl ⟨Int.le_refl 0, hh⟩
  · dsimp only at hp
    split at hp
    · next hnum =>
      cases hp
      exact .inl ⟨Int.le_refl 0, hstart.none hnum⟩
    · split at hp
      · cases hp
      · next l _ hloop =>
        cases hp
        obtain ⟨hl, hleft⟩ := queuesGuests_held ⟨hstart, Nat.le_refl 0, Nat.zero_le _⟩ hloop
        refine .inr ⟨rfl, _, ?_, hl.window.held⟩
        -- the window has an mbuf that was not used
        rw [TxWindow.drop_mbufs _ (hleft rfl)]
        exact List.cons_ne_nil _ _
      · next l last hloop =>
        cases hp
        have hl := (queuesGuests_held ⟨hstart, Nat.le_refl 0, Nat.zero_le _⟩ hloop).1
        refine .inl ⟨Int.natCast_nonneg _, ?_⟩
        exact ((hl.window.same (queuesCursor_sameMbufs ..)).flush io.sent).unalloc

/-! The combined poll of the queues. -/

section slots

variable {l : SlotLoop W ε}

theorem slotEntry_held (hl : DeqHeld total c w l.toDeqLoop) (hlt : l.ndeq < w.num) (slot qi : Nat)
    (qe : ε) :
    DeqEnds total c w (slotEntry h w slot qi qe l).1 (slotEntry h w slot qi qe l).2.toDeqLoop ∧
      (slotEntry h w slot qi qe l).2.ndeq = l.ndeq + 1 ∧
      (slotEntry h w slot qi qe l).2.s.queued = l.s.queued := by
  have hsent := hl.sent
  have hnext : l.ntx < w.num := Nat.lt_of_le_of_lt hsent hlt
  have hu := hl.window.useMb hnext
  have hmb : l.s.windowMb w l.ntx = c.mbs (w.base + l.ntx) := by
    unfold PollCtx.windowMb
    rw [hl.window.cache]
  have hrun : SameMbufs (l.s.useMb w l.ntx) (runSlot h (l.s.useMb w l.ntx) slot
      (.deq (((l.s.useMb w l.ntx).ctx.guests slot).dqueues qi).id qe) (l.s.windowMb w l.ntx)).2 :=
    ⟨rfl, rfl, rfl, rfl⟩
  have hq : (runSlot h (l.s.useMb w l.ntx) slot
      (.deq (((l.s.useMb w l.ntx).ctx.guests slot).dqueues qi).id qe)
      (l.s.windowMb w l.ntx)).2.queued = l.s.queued := rfl
  unfold slotEntry
  dsimp only
  generalize runSlot h (l.s.useMb w l.ntx) slot
    (.deq (((l.s.useMb w l.ntx).ctx.guests slot).dqueues qi).id qe) (l.s.windowMb w l.ntx) = q
    at hrun hq
  obtain ⟨r, s₁⟩ := q
  have h₁ := hu.same hrun
  dsimp only at h₁ hq ⊢
  split
  · exact ⟨⟨⟨h₁, by dsimp only; omega, hlt⟩, fun _ => hnext⟩, rfl, hq⟩
  · split
    · have ht := h₁.transmit (h := h) hnext slot hmb r
      have hqt := (transmit_sentOnly h s₁ slot (l.s.windowMb w l.ntx) r).queued
      refine ⟨⟨⟨ht, ?_, hlt⟩, fun hf => Bool.noConfusion hf⟩, rfl, hqt.trans hq⟩
      dsimp only
      split <;> omega
    · exact ⟨⟨⟨h₁, by dsimp only; omega, hlt⟩, fun hf => Bool.noConfusion hf⟩, rfl, hq⟩

theorem drainSlot_held (hl : DeqHeld total c w l.toDeqLoop) (slot qi room : Nat)
    (hroom : l.ndeq + room ≤ w.num) :
    DeqEnds total c w (drainSlot h w slot qi room l).1
      (drainSlot h w slot qi room l).2.toDeqLoop := by
  induction room generalizing l with
  | zero => exact hl.ends
  | succ room ih =>
    rw [drainSlot]
    split
    · exact hl.ends
    · next qe rest hqueue =>
      obtain ⟨h₁, hndeq, hqueued⟩ := slotEntry_held (h := h) hl (by omega) slot qi qe
      split
      · next l₁ heq =>
        rw [heq] at h₁
        exact h₁
      · next l₁ heq =>
        rw [heq] at h₁ hndeq hqueued
        dsimp only at h₁ hndeq hqueued
        rw [queueDequeue_cons (by rw [hqueued]; exact hqueue)]
        dsimp only
        refine ih (l := { l₁ with s := l₁.s.setQueue slot qi rest })
          (h₁.1.same (s := l₁.s.setQueue slot qi rest) ⟨rfl, rfl, rfl, rfl⟩) ?_
        dsimp only
        omega

theorem slotRounds_held (hl : DeqHeld total c w l.toDeqLoop) (slot rounds : Nat) :
    DeqEnds total c w (slotRounds h w slot rounds l).1
      (slotRounds h w slot rounds l).2.toDeqLoop := by
  induction rounds generalizing l with
  | zero => exact hl.ends
  | succ rounds ih =>
    rw [slotRounds]
    split
    · have hdrain := drainSlot_held (h := h) hl slot (l.s.ctx.guests slot).dqueuesHead
        (w.num - l.ndeq) (by omega)
      dsimp only
      split
      · next l₁ heq =>
        rw [heq] at hdrain
        exact hdrain
      · next l₁ heq =>
        rw [heq] at hdrain
        exact ih (l := { l₁ with s := l₁.s.rotateHead slot _ })
          (hdrain.1.same (s := l₁.s.rotateHead slot _) ⟨rfl, rfl, rfl, rfl⟩)
    · exact hl.ends

theorem deqPollSlot_held {l : DeqLoop W ε} (hl : DeqHeld total c w l) (slot : Nat) :
    DeqHeld total c w (deqPollSlot h w slot l).2 ∧
      ((deqPollSlot h w slot l).1 < 0 → (deqPollSlot h w slot l).2.ntx < w.num) := by
  have hnothing : DeqHeld total c w l ∧ ((0 : Int) < 0 → l.ntx < w.num) :=
    ⟨hl, fun hneg => absurd hneg (by decide)⟩
  unfold deqPollSlot
  dsimp only
  split
  · exact hnothing
  · split
    · exact hnothing
    · split
      · exact hnothing
      · split
        · exact hnothing
        · have hrounds := slotRounds_held (h := h) (l := { l with didWork := false }) hl slot
            (l.s.ctx.guests slot).ndqueues
          split
          · next l₁ heq =>
            rw [heq] at hrounds
            exact ⟨hrounds.1, fun _ => hrounds.2 rfl⟩
          · next l₁ heq =>
            rw [heq] at hrounds
            have hret : ¬ (if l₁.didWork = true then (1 : Int) else 0) < 0 := by
              split <;> decide
            split
            · exact ⟨hrounds.1.same (s := l₁.s.charge slot _) ⟨rfl, rfl, rfl, rfl⟩,
                fun hneg => absurd hneg hret⟩
            · exact ⟨hrounds.1, fun hneg => absurd hneg hret⟩

theorem deqSlots_held {l : DeqLoop W ε} (hl : DeqHeld total c w l) (gids : List Nat)
    (last : Option Nat) :
    DeqEnds total c w (deqSlots h w gids l last).1 (deqSlots h w gids l last).2.1 := by
  induction gids generalizing l last with
  | nil => exact hl.ends
  | cons gid gids ih =>
    rw [deqSlots]
    split
    · obtain ⟨h₁, hneg⟩ := deqPollSlot_held (h := h) hl gid
      dsimp only
      split
      · next hret => exact ⟨h₁, fun _ => hneg hret⟩
      · exact ih h₁ _
    · exact hl.ends

theorem fastQueuesPollComb_holding (h : Handlers W ε) (io : PollIo) (hh : Holding total [] s) :
    (0 ≤ (fastQueuesPollComb h s io).1 ∧ Holding total [] (fastQueuesPollComb h s io).2) ∨
      ((fastQueuesPollComb h s io).1 = -1 ∧
        ∃ mbs, mbs ≠ [] ∧ Holding total mbs (fastQueuesPollComb h s io).2) := by
  have hstart := WindowHeld.start hh io.grants (s.batch fastDeqBatchSize)
  unfold fastQueuesPollComb
  split
  · exact .inl ⟨Int.le_refl 0, hh⟩
  · dsimp only
    split
    · next hnum => exact .inl ⟨Int.le_refl 0, hstart.none hnum⟩
    · have hl : DeqHeld total _ _ { s := { s with mbufs := _ }, ntx := 0, ndeq := 0 } :=
        ⟨hstart, Nat.le_refl 0, Nat.zero_le _⟩
      have hslots := deqSlots_held (h := h) hl (guestOrder s.ctx.nGuests s.queuesStart) none
      split
      · next l _ heq =>
        rw [heq] at hslots
        refine .inr ⟨rfl, _, ?_, hslots.1.window.held⟩
        rw [TxWindow.drop_mbufs _ (hslots.2 rfl)]
        exact List.cons_ne_nil _ _
      · next l last heq =>
        rw [heq] at hslots
        exact .inl ⟨Int.natCast_nonneg _,
          (hslots.1.window.same (queuesCursor_sameMbufs ..)).unalloc⟩

end slots

/-! ## Schedulers -/

theorem schedWhile_held {gid fuel : Nat} {l l' : SchedLoop W ε}
    (hl : WindowHeld total c w l.ntx l.s) (hp : schedWhile h w gid fuel l = some l') :
    WindowHeld total c w l'.ntx l'.s := by
  induction fuel generalizing l with
  | zero =>
    rw [schedWhile] at hp
    split at hp
    · cases hp
    · cases hp
      exact hl
  | succ fuel ih =>
    rw [schedWhile] at hp
    split at hp
    · next hmore =>
      have hlt := schedMore_lt hmore
      have hu := hl.useMb hlt
      have hmb : l.s.windowMb w l.ntx = c.mbs (w.base + l.ntx) := by
        unfold PollCtx.windowMb
        rw [hl.cache]
      dsimp only at hp
      split at hp
      · cases hp
      · next r s₁ hrun =>
        have h₁ := hu.same (runEvent_sameMbufs hrun)
        split at hp
        · cases hp
          exact h₁
        · exact ih (h₁.transmit hlt gid hmb r.ret) hp
    · cases hp
      exact hl

theorem schedPollGuest_held {fuel gid ntx' : Nat} {r : Int} (hw : WindowHeld total c w ntx s)
    (hp : schedPollGuest h w fuel gid s ntx = some (r, s', ntx')) :
    WindowHeld total c w ntx' s' := by
  unfold schedPollGuest at hp
  split at hp
  · cases hp
    exact hw
  · split at hp
    · cases hp
      exact hw
    · dsimp only at hp
      split at hp
      · cases hp
      · next l hwhile =>
        have h₁ := schedWhile_held (l := { s, ntx, didWork := false, schedRet := 0 }) hw hwhile
        cases hp
        split
        · exact h₁.same ⟨rfl, rfl, rfl, rfl⟩
        · exact h₁

theorem schedGuests_held {fuel ntx' : Nat} {gids : List Nat} {last last' : Option Nat}
    (hw : WindowHeld total c w ntx s)
    (hp : schedGuests h w fuel gids s ntx last = some (s', ntx', last')) :
    WindowHeld total c w ntx' s' := by
  induction gids generalizing s ntx last with
  | nil =>
    cases hp
    exact hw
  | cons gid gids ih =>
    rw [schedGuests] at hp
    split at hp
    · split at hp
      · cases hp
      · next r s₁ ntx₁ hguest => exact ih (schedPollGuest_held hw hguest) hp
    · cases hp
      exact hw

/-- **A poll of the schedulers loses no mbuf.** -/
theorem fastSchedPoll_holding {fuel : Nat} {io : PollIo} {r : Int} (hh : Holding total [] s)
    (hp : fastSchedPoll h fuel s io = some (r, s')) : Holding total [] s' := by
  have hstart := WindowHeld.start hh io.grants (s.batch fastSchedBatchSize)
  unfold fastSchedPoll at hp
  split at hp
  · cases hp
    exact hh
  · dsimp only at hp
    split at hp
    · next hnum =>
      cases hp
      exact hstart.none hnum
    · split at hp
      · cases hp
      · next s₁ ntx last hguests =>
        cases hp
        have h₁ := schedGuests_held hstart hguests
        exact ((h₁.same (schedCursor_sameMbufs ..)).flush io.sent).unalloc

/-! The combined poll of the schedulers. -/

/-- A negative result leaves an mbuf at hand. -/
theorem slotWhile_held {slot fuel : Nat} {l l' : SchedLoop W ε}
    (hl : WindowHeld total c w l.ntx l.s) (hret : 0 ≤ l.schedRet)
    (hp : slotWhile h w slot fuel l = some l') :
    WindowHeld total c w l'.ntx l'.s ∧ (l'.schedRet < 0 → l'.ntx < w.num) := by
  induction fuel generalizing l with
  | zero =>
    rw [slotWhile] at hp
    split at hp
    · cases hp
    · cases hp
      exact ⟨hl, fun hneg => by omega⟩
  | succ fuel ih =>
    rw [slotWhile] at hp
    split at hp
    · next hmore =>
      have hlt := schedMore_lt hmore
      have hu := hl.useMb hlt
      have hmb : l.s.windowMb w l.ntx = c.mbs (w.base + l.ntx) := by
        unfold PollCtx.windowMb
        rw [hl.cache]
      have h₁ : WindowHeld total c w l.ntx
          (runSlot h (l.s.useMb w l.ntx) slot .sched (l.s.windowMb w l.ntx)).2 :=
        hu.same ⟨rfl, rfl, rfl, rfl⟩
      dsimp only at hp
      split at hp
      · cases hp
        exact ⟨h₁, fun _ => hlt⟩
      · next hpos => exact ih (h₁.transmit hlt slot hmb _) (by dsimp only; omega) hp
    · cases hp
      exact ⟨hl, fun hneg => by omega⟩

theorem schedPollSlot_held {fuel slot ntx' : Nat} {r : Int} (hw : WindowHeld total c w ntx s)
    (hp : schedPollSlot h w fuel slot s ntx = some (r, s', ntx')) :
    WindowHeld total c w ntx' s' ∧ (r < 0 → ntx' < w.num) := by
  unfold schedPollSlot at hp
  iterate 4
    split at hp
    · cases hp
      exact ⟨hw, fun hneg => absurd hneg (by decide)⟩
  dsimp only at hp
  split at hp
  · cases hp
  · next l hwhile =>
    obtain ⟨h₁, hneg⟩ := slotWhile_held (l := { s, ntx, didWork := false, schedRet := 0 }) hw
      (Int.le_refl 0) hwhile
    cases hp
    refine ⟨?_, fun hr => hneg ?_⟩
    · split
      · exact h₁.same ⟨rfl, rfl, rfl, rfl⟩
      · exact h₁
    · split at hr
      · assumption
      · split at hr <;> cases hr

theorem schedSlots_held {fuel ntx' : Nat} {gids : List Nat} {last last' : Option Nat} {ok : Bool}
    (hw : WindowHeld total c w ntx s)
    (hp : schedSlots h w fuel gids s ntx last = some (ok, s', ntx', last')) :
    WindowHeld total c w ntx' s' ∧ (ok = false → ntx' < w.num) := by
  induction gids generalizing s ntx last with
  | nil =>
    cases hp
    exact ⟨hw, fun hf => Bool.noConfusion hf⟩
  | cons gid gids ih =>
    rw [schedSlots] at hp
    split at hp
    · split at hp
      · cases hp
      · next r s₁ ntx₁ hslot =>
        obtain ⟨h₁, hneg⟩ := schedPollSlot_held hw hslot
        split at hp
        · next hr =>
          cases hp
          exact ⟨h₁, fun _ => hneg hr⟩
        · exact ih h₁ hp
    · cases hp
      exact ⟨hw, fun hf => Bool.noConfusion hf⟩

theorem fastSchedPollComb_holding {fuel : Nat} {io : PollIo} {r : Int} (hh : Holding total [] s)
    (hp : fastSchedPollComb h fuel s io = some (r, s')) :
    (0 ≤ r ∧ Holding total [] s') ∨ (r = -1 ∧ ∃ mbs, mbs ≠ [] ∧ Holding total mbs s') := by
  have hstart := WindowHeld.start hh io.grants (s.batch fastSchedBatchSize)
  unfold fastSchedPollComb at hp
  split at hp
  · cases hp
    exact .inl ⟨Int.le_refl 0, hh⟩
  · dsimp only at hp
    split at hp
    · next hnum =>
      cases hp
      exact .inl ⟨Int.le_refl 0, hstart.none hnum⟩
    · split at hp
      · cases hp
      · next s₁ ntx _ hslots =>
        cases hp
        obtain ⟨h₁, hneg⟩ := schedSlots_held hstart hslots
        refine .inr ⟨rfl, _, ?_, h₁.held⟩
        rw [TxWindow.drop_mbufs _ (hneg rfl)]
        exact List.cons_ne_nil _ _
      · next s₁ ntx last hslots =>
        cases hp
        have h₁ := (schedSlots_held hstart hslots).1
        exact .inl ⟨Int.natCast_nonneg _, (h₁.same (schedCursor_sameMbufs ..)).unalloc⟩

end window

/-! ## Messages of the control path -/

section control

variable {total : Nat → Nat} {s s' : PollCtx W ε} {h : Handlers W ε}

/-- A packet of the control path finds an mbuf, if there is one to send. -/
def ArpBacked (s : PollCtx W ε) (io : PollIo) : Prop :=
  s.ctlTxq = 0 ∨ s.mbufs.backed io.grants = true

/-- The state before a message is such that its packet finds an mbuf. -/
def MsgBacked (s : PollCtx W ε) (io : PollIo) : CtlMsg → Prop
  | .arpTxPkt => ArpBacked s io
  | .config _ | .arpUpdate _ _ | .mbufTx _ _ _ | .unknown => True

/-- So it is with every message a call of `controlif_poll` takes. -/
def CtlBacked (h : Handlers W ε) (ios : Nat → PollIo) : Nat → PollCtx W ε → Prop
  | 0, _ => True
  | n + 1, s =>
    match s.ctlFastQ with
    | [] => True
    | msg :: rest => MsgBacked s (ios n) msg ∧
        CtlBacked h ios n (handleCtlMsg h s (ios n) msg rest)

/-- Taking a message with an mbuf off the queue takes the mbuf. -/
theorem Holding.takeMsg {msg : CtlMsg} {rest : List CtlMsg} (hh : Holding total [] s)
    (hq : s.ctlFastQ = msg :: rest) : Holding total msg.mbuf { s with ctlFastQ := rest } := by
  refine ⟨fun x => ?_, hh.inside⟩
  have hx := hh.kept x
  unfold PollCtx.places PollCtx.controlMbs at *
  rw [hq] at hx
  simp only [List.flatMap_cons, List.count_append, List.count_nil] at hx ⊢
  omega

/-- An ARP packet whose allocation succeeds is one mbuf moved. -/
theorem handleArpTxPkt_holding {io : PollIo} (hh : Holding total [] s) (hb : ArpBacked s io) :
    Holding total [] (handleArpTxPkt s io) := by
  have hstart := WindowHeld.start hh io.grants 1
  unfold handleArpTxPkt
  split
  · exact hh
  · next hq =>
    have hbacked : s.mbufs.backed io.grants = true := hb.resolve_left hq
    have hpos := (txcacheAlloc_backed s.mbufs io.grants Nat.one_pos).mpr hbacked
    have hle := txcacheAlloc_num s.mbufs io.grants 1
    generalize txcacheAlloc s.mbufs io.grants 1 = r at hstart hpos hle
    obtain ⟨w, m⟩ := r
    dsimp only at hstart hpos hle ⊢
    have hu := (hstart.useMb hpos).held
    rw [TxWindow.drop_mbufs _ hpos, List.drop_eq_nil_of_le (by rw [w.mbufs_length]; omega)] at hu
    exact hu.queueTx.same ⟨rfl, rfl, rfl, rfl⟩

/-- One whose allocation fails is written to a slot that was not returned. -/
theorem handleArpTxPkt_stray {io : PollIo} (hb : ¬ ArpBacked s io) :
    (handleArpTxPkt s io).strayUse = true := by
  unfold handleArpTxPkt
  rw [if_neg fun hq => hb (.inl hq)]
  have hnum : ¬ 0 < (txcacheAlloc s.mbufs io.grants 1).1.num :=
    fun hpos => hb (.inr ((txcacheAlloc_backed s.mbufs io.grants Nat.one_pos).mp hpos))
  show (s.strayUse || decide ((txcacheAlloc s.mbufs io.grants 1).1.num ≤ 0)) = true
  rw [decide_eq_true (by omega), Bool.or_true]

theorem handleMbuf_holding {mbs : List Nat} {gid mb : Nat} {len : Int}
    (hh : Holding total (mb :: mbs) s) : Holding total mbs (handleMbuf h s gid mb len) := by
  unfold handleMbuf
  split
  · exact hh.free
  · have ht := hh.transmit (h := h) gid len
    dsimp only
    split at ht
    · next hu =>
      rw [if_pos hu]
      exact ht
    · next hu =>
      rw [if_neg hu]
      exact ht.free

theorem handleMbuf_ctlFastQ (s : PollCtx W ε) (gid mb : Nat) (len : Int) :
    (handleMbuf h s gid mb len).ctlFastQ = s.ctlFastQ := by
  have ht : (transmit h s gid mb len).1.ctlFastQ = s.ctlFastQ := by
    unfold transmit
    rcases h.infraTx gid mb len s.world with ⟨r, w⟩
    cases r <;> rfl
  unfold handleMbuf
  dsimp only
  split
  · rfl
  · split
    · exact ht
    · exact ht

/-- A message handled while its mbuf counts as in the queue, and taken off
after. -/
theorem Holding.handleMbuf {rest : List CtlMsg} {gid mb : Nat} {len : Int} (hh : Holding total [] s)
    (hq : s.ctlFastQ = .mbufTx gid mb len :: rest) :
    Holding total [] { Poll.handleMbuf h s gid mb len with ctlFastQ := rest } := by
  -- until the message is taken off, its mbuf counts twice
  have htwice : Holding (fun x => [mb].count x + total x) [mb] s :=
    ⟨fun x => congrArg ([mb].count x + ·) (by simpa using hh.kept x), hh.inside⟩
  have hlast : Holding (fun x => [mb].count x + total x) [] (Poll.handleMbuf h s gid mb len) :=
    handleMbuf_holding htwice
  have hdone := hlast.takeMsg ((handleMbuf_ctlFastQ s gid mb len).trans hq)
  refine ⟨fun x => ?_, hdone.inside⟩
  have hx := hdone.kept x
  have hone : (CtlMsg.mbufTx gid mb len).mbuf = [mb] := rfl
  rw [hone] at hx
  rw [List.count_nil, Nat.zero_add]
  exact Nat.add_left_cancel hx

/-- **A message whose packet finds an mbuf loses none.** -/
theorem handleCtlMsg_holding {io : PollIo} {msg : CtlMsg} {rest : List CtlMsg}
    (hh : Holding total [] s) (hq : s.ctlFastQ = msg :: rest) (hb : MsgBacked s io msg) :
    Holding total [] (handleCtlMsg h s io msg rest) := by
  have htake := hh.takeMsg hq
  cases msg with
  | config m => exact htake.same ⟨rfl, rfl, rfl, rfl⟩
  | arpTxPkt =>
    have harp := handleArpTxPkt_holding hh hb
    have hkeep : (handleArpTxPkt s io).ctlFastQ = s.ctlFastQ := by
      unfold handleArpTxPkt
      split <;> rfl
    exact harp.takeMsg (hkeep.trans hq)
  | arpUpdate ip mac => exact htake.same ⟨rfl, rfl, rfl, rfl⟩
  | mbufTx gid mb pktLen => exact hh.handleMbuf hq
  | unknown => exact hh

/-- What is noted about a stray slot stays noted. -/
theorem handleCtlMsg_stray {io : PollIo} {msg : CtlMsg} {rest : List CtlMsg}
    (hs : s.strayUse = true) : (handleCtlMsg h s io msg rest).strayUse = true := by
  cases msg with
  | config m => exact hs
  | arpTxPkt =>
    show (handleArpTxPkt s io).strayUse = true
    unfold handleArpTxPkt
    split
    · exact hs
    · show (s.strayUse || _) = true
      rw [hs, Bool.true_or]
  | arpUpdate ip mac => exact hs
  | mbufTx gid mb pktLen =>
    show (handleMbuf h s gid mb pktLen).strayUse = true
    have ht : (transmit h s gid mb pktLen).1.strayUse = true := by
      unfold transmit
      rcases h.infraTx gid mb pktLen s.world with ⟨r, w⟩
      cases r <;> exact hs
    unfold handleMbuf
    dsimp only
    split
    · exact hs
    · split
      · exact ht
      · exact ht
  | unknown => exact hs

theorem controlifLoop_stray {ios : Nat → PollIo} {n : Nat} (hs : s.strayUse = true) :
    (controlifLoop h ios n s).strayUse = true := by
  induction n generalizing s with
  | zero => exact hs
  | succ n ih =>
    rw [controlifLoop]
    split
    · exact hs
    · exact ih (handleCtlMsg_stray hs)

/-- **The messages of a poll lose no mbuf as long as each packet finds one**, and
the first that does not is written to a stray slot. -/
theorem controlifLoop_holding (h : Handlers W ε) (ios : Nat → PollIo) (n : Nat)
    (hh : Holding total [] s) :
    (CtlBacked h ios n s → Holding total [] (controlifLoop h ios n s)) ∧
      (¬ CtlBacked h ios n s → (controlifLoop h ios n s).strayUse = true) := by
  induction n generalizing s with
  | zero => exact ⟨fun _ => hh, fun hb => absurd trivial hb⟩
  | succ n ih =>
    unfold CtlBacked
    rw [controlifLoop]
    cases hq : s.ctlFastQ with
    | nil => exact ⟨fun _ => hh, fun hb => absurd trivial hb⟩
    | cons msg rest =>
      dsimp only
      by_cases hb : MsgBacked s (ios n) msg
      · obtain ⟨hgood, hbad⟩ := ih (handleCtlMsg_holding (h := h) hh hq hb)
        exact ⟨fun hc => hgood hc.2, fun hc => hbad fun hrest => hc ⟨hb, hrest⟩⟩
      · refine ⟨fun hc => absurd hc.1 hb, fun _ => controlifLoop_stray ?_⟩
        cases msg with
        | arpTxPkt => exact handleArpTxPkt_stray hb
        | config m => exact absurd trivial hb
        | arpUpdate ip mac => exact absurd trivial hb
        | mbufTx gid mb pktLen => exact absurd trivial hb
        | unknown => exact absurd trivial hb

end control

/-! ## Calls and runs -/

/-- What a core calls in its loops, with what the NIC and the pool answer. -/
inductive CoreCall
  | rxPoll (nrx sent : Nat)
  | queuesPoll (io : PollIo)
  | schedPoll (fuel : Nat) (io : PollIo)
  | rxPollComb (nrx sent : Nat)
  | queuesPollComb (io : PollIo)
  | schedPollComb (fuel : Nat) (io : PollIo)
  | controlPoll (ios : Nat → PollIo)
  | txflush (sent : Nat)

/-- The result of a call that returns, and the context after it. -/
def CoreCall.run (h : Handlers W ε) (s : PollCtx W ε) : CoreCall → Option (Int × PollCtx W ε)
  | .rxPoll nrx sent => fastRxPoll h s nrx sent
  | .queuesPoll io => fastQueuesPoll h s io
  | .schedPoll fuel io => fastSchedPoll h fuel s io
  | .rxPollComb nrx sent => fastRxPollComb h s nrx sent
  | .queuesPollComb io => some (fastQueuesPollComb h s io)
  | .schedPollComb fuel io => fastSchedPollComb h fuel s io
  | .controlPoll ios => some (0, controlifPoll h ios s)
  | .txflush sent => some (0, s.txflush sent)

/-- When a call that returned `r` keeps every mbuf: polls with a window return no
error, and each packet of the control path finds an mbuf. -/
def CoreCall.Keeps (h : Handlers W ε) (s : PollCtx W ε) (r : Int) : CoreCall → Prop
  | .queuesPoll _ | .queuesPollComb _ | .schedPollComb _ _ => 0 ≤ r
  | .controlPoll ios => CtlBacked h ios (s.batch fastCtlBatchSize) s
  | .rxPoll _ _ | .rxPollComb _ _ | .schedPoll _ _ | .txflush _ => True

section calls

variable {all : List Nat} {s s' : PollCtx W ε} {h : Handlers W ε} {r : Int} {c : CoreCall}

theorem Holding.owned (hh : Holding s.places [] s') (ho : Owned all s) :
    Owned all s' ∧ s'.strayUse = false := ⟨ho.congr hh.nothing, hh.inside⟩

/-- A poll with a window keeps the mbufs exactly if it returns no error. -/
private theorem keeps_of_window (ho : Owned all s)
    (hpoll : (0 ≤ r ∧ Holding s.places [] s') ∨
      (r = -1 ∧ ∃ mbs, mbs ≠ [] ∧ Holding s.places mbs s')) :
    (Owned all s' ∧ s'.strayUse = false) ↔ 0 ≤ r := by
  rcases hpoll with ⟨hr, hh⟩ | ⟨rfl, mbs, hne, hh⟩
  · exact ⟨fun _ => hr, fun _ => hh.owned ho⟩
  · exact ⟨fun howned => absurd howned.1 (ho.lost hh hne), fun hr => absurd hr (by decide)⟩

/-- **What each call does with the mbufs.** -/
theorem CoreCall.keeps_iff (ho : Owned all s) (hin : s.strayUse = false)
    (hrun : c.run h s = some (r, s')) :
    (Owned all s' ∧ s'.strayUse = false) ↔ c.Keeps h s r := by
  have hh := Holding.start hin
  cases c with
  | rxPoll nrx sent => exact iff_true_intro ((fastRxPoll_holding hh hrun).owned ho)
  | queuesPoll io => exact keeps_of_window ho (fastQueuesPoll_holding hh hrun)
  | schedPoll fuel io => exact iff_true_intro ((fastSchedPoll_holding hh hrun).owned ho)
  | rxPollComb nrx sent => exact iff_true_intro ((fastRxPollComb_holding hh hrun).owned ho)
  | queuesPollComb io =>
    have hpoll := fastQueuesPollComb_holding h io hh
    rw [Option.some.inj hrun] at hpoll
    exact keeps_of_window ho hpoll
  | schedPollComb fuel io => exact keeps_of_window ho (fastSchedPollComb_holding hh hrun)
  | controlPoll ios =>
    cases hrun
    obtain ⟨hgood, hbad⟩ := controlifLoop_holding h ios (s.batch fastCtlBatchSize) hh
    refine ⟨fun howned => ?_, fun hc => (hgood hc).owned ho⟩
    refine Classical.byContradiction fun hc => ?_
    exact absurd (howned.2.symm.trans (hbad hc)) Bool.false_ne_true
  | txflush sent =>
    cases hrun
    exact iff_true_intro ((hh.txflush sent).owned ho)

end calls

/-- Runs of a core from `s₀` whose calls keep the mbufs; the handlers may do
something else each time. Between two calls the NIC, the control path and the
other cores move mbufs from one place to another. -/
inductive CoreRun (s₀ : PollCtx W ε) : PollCtx W ε → Prop
  | nil : CoreRun s₀ s₀
  | call {s s' : PollCtx W ε} {h : Handlers W ε} {c : CoreCall} {r : Int} :
    CoreRun s₀ s → c.run h s = some (r, s') → c.Keeps h s r → CoreRun s₀ s'
  | other {s s' : PollCtx W ε} :
    CoreRun s₀ s → (∀ mb, s'.places mb = s.places mb) → s'.strayUse = s.strayUse → CoreRun s₀ s'

/-- **An mbuf is in one place at a time**, in every run of a core, default or
combined, from a state where each is: free or with the NIC, in the cache, in
the transmit buffer, or with the control path; and no slot of a window is read
that `txcache_alloc` had not returned. The next call keeps it so exactly if it
is not a poll with a window that returns -1, and if each packet of the control
path finds an mbuf in the cache or the pool. -/
theorem mbufs_owned {all : List Nat} {s₀ s : PollCtx W ε} (ho : Owned all s₀)
    (hin : s₀.strayUse = false) (hr : CoreRun s₀ s) :
    (Owned all s ∧ s.strayUse = false) ∧
      ∀ (h : Handlers W ε) (c : CoreCall) (r : Int) (s' : PollCtx W ε),
        c.run h s = some (r, s') → ((Owned all s' ∧ s'.strayUse = false) ↔ c.Keeps h s r) := by
  have hs : Owned all s ∧ s.strayUse = false := by
    induction hr with
    | nil => exact ⟨ho, hin⟩
    | call _ hrun hkeeps ih => exact (CoreCall.keeps_iff ih.1 ih.2 hrun).mpr hkeeps
    | other _ hplaces hstray ih => exact ⟨ih.1.congr hplaces, hstray.trans ih.2⟩
  exact ⟨hs, fun h c r s' hrun => CoreCall.keeps_iff hs.1 hs.2 hrun⟩

/-- Two mbufs in the cache and one that is free. -/
def threeMbufs : Mbufs where
  cache :=
    { mbs := fun i => i, head := 0, n := 2, head_lt := txCacheSize_pos
      n_le := Nat.le_of_ble_eq_true rfl }
  txMbs := []
  pool := [2]

/-- The two guests of `twoQueues` and few mbufs. -/
def fewMbufs (len : Int) : PollCtx Unit Int := { twoQueues len with mbufs := threeMbufs }

theorem fewMbufs_owned (len : Int) : Owned [0, 1, 2] (fewMbufs len) := by
  have hplaces : ∀ mb, (fewMbufs len).places mb = [2].count mb + [0, 1].count mb + 0 + 0 :=
    fun _ => rfl
  refine ⟨fun mb hmb => ?_, fun mb hmb => ?_⟩
  · rw [hplaces]
    revert mb
    decide
  · rw [hplaces, List.count_eq_zero_of_not_mem, List.count_eq_zero_of_not_mem]
    · exact fun hmem => hmb (List.mem_append_left [2] hmem)
    · exact fun hmem => hmb (List.mem_append_right [0, 1] hmem)

/-- What a poll of the queues of `fewMbufs` returns. -/
theorem fewMbufs_polled (len r : Int)
    (h : (fastQueuesPoll lengthHandlers (fewMbufs len) ⟨(true, true), 2⟩).map Prod.fst = some r) :
    ∃ s', (CoreCall.queuesPoll ⟨(true, true), 2⟩).run lengthHandlers (fewMbufs len) =
      some (r, s') := by
  obtain ⟨⟨r', s'⟩, hrun, rfl⟩ := Option.map_eq_some_iff.mp h
  exact ⟨s', hrun⟩

/-- A poll that sends both packets loses no mbuf; one that has the entry of guest
0 answered with -1 does. -/
theorem mbufs_owned_few :
    (∃ s, CoreRun (fewMbufs 60) s ∧ Owned [0, 1, 2] s) ∧
      ∃ s', (CoreCall.queuesPoll ⟨(true, true), 2⟩).run lengthHandlers (fewMbufs (-1)) =
        some (-1, s') ∧ ¬ (Owned [0, 1, 2] s' ∧ s'.strayUse = false) := by
  obtain ⟨s, hrun⟩ := fewMbufs_polled 60 2 (by decide)
  obtain ⟨s', hrun'⟩ := fewMbufs_polled (-1) (-1) (by decide)
  have hr : CoreRun (fewMbufs 60) s := CoreRun.nil.call hrun (show (0 : Int) ≤ 2 by decide)
  refine ⟨⟨s, hr, (mbufs_owned (fewMbufs_owned 60) rfl hr).1.1⟩, s', hrun', fun howned => ?_⟩
  have hkeeps := ((mbufs_owned (fewMbufs_owned (-1)) rfl .nil).2 _ _ _ _ hrun').mp howned
  exact absurd (show (0 : Int) ≤ -1 from hkeeps) (by decide)

end Chamelio.Fast.Poll
