import Chamelio.Fast.PollComb

/-!
# The transmit buffer of a core

Received frames, queue entries, scheduler entries and messages of the control
path all put packets into `tx_mbs`. None of them looks at `tx_n` when it does:
each poll takes no more work than there was room when it started, and an item
of work puts at most one packet. `TxRoom room s` is what this needs: `room`
more packets fit, and so far every packet went inside the array and those the
NIC took, followed by those in the buffer, are those put there in order.

Every loop is one lemma that passes `TxRoom` from the work left at its start
to the work left at its end; the polls, default and combined, and the flush
keep `TxRoom 0`, and with it so do all runs (`txRun_fifo`).

Mirroring notes: `fast_txflush` moves what was not sent to the front of the
array; `TxArray` is the array and `txflushArray_items` says that this drops
the packets sent from the list. Between two polls anything may happen to the
rest of the context (`PollAct.other`).
-/

namespace Chamelio.Fast.Poll

open Chamelio.Control

variable {W ε : Type}

/-! ## The array -/

/-- `tx_mbs` and `tx_n`. -/
structure TxArray where
  mbs : Nat → Nat
  n : Nat

/-- The packets in the array. -/
def TxArray.items (a : TxArray) : List Nat := (List.range a.n).map a.mbs

/-- `ctx->tx_mbs[ctx->tx_n] = mb; ctx->tx_n++`. -/
def TxArray.put (a : TxArray) (mb : Nat) : TxArray where
  mbs i := if i = a.n then mb else a.mbs i
  n := a.n + 1

/-- `fast_txflush`, when `nic_fast_tx` returns `ret`. -/
def txflushArray (a : TxArray) (ret : Int) : TxArray :=
  if a.n = 0 then a
  else if ret = a.n then { a with n := 0 }
  else if 0 < ret then
    let unsent := a.n - ret.toNat
    { mbs := fun i => if i < unsent then a.mbs (ret.toNat + i) else a.mbs i, n := unsent }
  else a

theorem txArray_put_items (a : TxArray) (mb : Nat) : (a.put mb).items = a.items ++ [mb] := by
  unfold TxArray.items TxArray.put
  dsimp only
  rw [List.range_succ, List.map_append, List.map_singleton, if_pos rfl]
  congr 1
  refine List.map_congr_left fun i hi => if_neg ?_
  have := List.mem_range.mp hi
  omega

/-- **A flush drops the packets sent**, and keeps the others in order. -/
theorem txflushArray_items (a : TxArray) (sent : Nat) :
    (txflushArray a sent).items = a.items.drop sent := by
  unfold txflushArray
  split
  · next h0 =>
    unfold TxArray.items
    rw [h0, List.range_zero, List.map_nil, List.drop_nil]
  · split
    · next hall =>
      have hn : sent = a.n := Int.ofNat.inj hall
      unfold TxArray.items
      rw [hn, List.drop_of_length_le (by simp)]
      rfl
    · split
      · unfold TxArray.items
        dsimp only
        rw [Int.toNat_natCast]
        refine List.ext_getElem (by simp) fun i hi _ => ?_
        rw [List.length_map, List.length_range] at hi
        simp [hi]
      · next hpos =>
        have h0 : sent = 0 := by omega
        rw [h0, List.drop_zero]

/-! ## Room for more packets -/

/-- `room` more packets fit into the buffer; every packet so far was put inside
it, and they left in the order they came. -/
structure TxRoom (room : Nat) (s : PollCtx W ε) : Prop where
  fits : s.mbufs.txMbs.length + room ≤ txbufSize
  inside : s.strayPut = false
  order : s.txPut = s.txSent ++ s.mbufs.txMbs

/-- The buffer is the same, and what went through it. -/
structure SameTx (s s' : PollCtx W ε) : Prop where
  buf : s'.mbufs.txMbs = s.mbufs.txMbs
  put : s'.txPut = s.txPut
  sent : s'.txSent = s.txSent
  stray : s'.strayPut = s.strayPut

section room

variable {room : Nat} {s s' s'' : PollCtx W ε}

theorem SameTx.refl (s : PollCtx W ε) : SameTx s s := ⟨rfl, rfl, rfl, rfl⟩

theorem SameTx.trans (h : SameTx s s') (h' : SameTx s' s'') : SameTx s s'' :=
  ⟨h'.buf.trans h.buf, h'.put.trans h.put, h'.sent.trans h.sent, h'.stray.trans h.stray⟩

theorem TxRoom.same (h : TxRoom room s) (hs : SameTx s s') : TxRoom room s' := by
  refine ⟨?_, hs.stray.trans h.inside, ?_⟩
  · rw [hs.buf]
    exact h.fits
  · rw [hs.put, hs.sent, hs.buf]
    exact h.order

theorem TxRoom.mono {room' : Nat} (h : TxRoom room s) (hle : room' ≤ room) : TxRoom room' s := by
  have := h.fits
  exact ⟨by omega, h.inside, h.order⟩

/-- A packet takes one place. -/
theorem TxRoom.queueTx (h : TxRoom (room + 1) s) (mb : Nat) : TxRoom room (s.queueTx mb) := by
  have hfits := h.fits
  refine ⟨?_, ?_, ?_⟩
  · show (s.mbufs.txMbs ++ [mb]).length + room ≤ txbufSize
    rw [List.length_append, List.length_singleton]
    omega
  · show (s.strayPut || decide (txbufSize ≤ s.mbufs.txMbs.length)) = false
    rw [h.inside, decide_eq_false (by omega)]
    rfl
  · show s.txPut ++ [mb] = s.txSent ++ (s.mbufs.txMbs ++ [mb])
    rw [h.order, List.append_assoc]

/-- A flush takes no place, however many packets the NIC accepts. -/
theorem TxRoom.txflush (h : TxRoom room s) (sent : Nat) : TxRoom room (s.txflush sent) := by
  have hfits := h.fits
  refine ⟨?_, h.inside, ?_⟩
  · show (s.mbufs.txMbs.drop sent).length + room ≤ txbufSize
    rw [List.length_drop]
    omega
  · show s.txPut = s.txSent ++ s.mbufs.txMbs.take sent ++ s.mbufs.txMbs.drop sent
    rw [h.order, List.append_assoc, List.take_append_drop]

/-- **There is room for a batch.** -/
theorem TxRoom.batch (h : TxRoom 0 s) (size : Nat) : TxRoom (s.batch size) s := by
  have hfits := h.fits
  unfold PollCtx.batch
  exact ⟨by omega, h.inside, h.order⟩

theorem unalloc_sameTx (s : PollCtx W ε) (num : Nat) : SameTx s (s.unalloc num) := by
  refine ⟨?_, rfl, rfl, rfl⟩
  show (txcacheUnalloc s.mbufs num).txMbs = s.mbufs.txMbs
  unfold txcacheUnalloc
  split
  · rfl
  · rfl

theorem free_sameTx (s : PollCtx W ε) (mb : Nat) : SameTx s (s.free mb) := by
  refine ⟨?_, rfl, rfl, rfl⟩
  show (txcacheFree s.mbufs mb).txMbs = s.mbufs.txMbs
  unfold txcacheFree
  split
  · rfl
  · rfl

theorem txcacheAlloc_txMbs (m : Mbufs) (grants : Bool × Bool) (num : Nat) :
    (txcacheAlloc m grants num).2.txMbs = m.txMbs := by
  unfold txcacheAlloc
  split
  · rfl
  · show (txcacheRefill m grants num).txMbs = m.txMbs
    unfold txcacheRefill
    split
    · rfl
    · rfl

theorem txcacheAlloc_num (m : Mbufs) (grants : Bool × Bool) (num : Nat) :
    (txcacheAlloc m grants num).1.num ≤ num := by
  unfold txcacheAlloc
  split
  · exact Nat.zero_le num
  · exact Nat.min_le_left ..

theorem alloc_sameTx (s : PollCtx W ε) (grants : Bool × Bool) (num : Nat) :
    SameTx s { s with mbufs := (txcacheAlloc s.mbufs grants num).2 } :=
  ⟨txcacheAlloc_txMbs .., rfl, rfl, rfl⟩

theorem queueDequeue_sameTx {gid qi : Nat} (h : s.queueDequeue gid qi = some s') :
    SameTx s s' := by
  unfold PollCtx.queueDequeue at h
  split at h
  · cases h
  · cases h
    exact ⟨rfl, rfl, rfl, rfl⟩

theorem queuesCursor_sameTx (s : PollCtx W ε) (last : Option Nat) :
    SameTx s (s.queuesCursor last) := by
  cases last with
  | none => exact .refl s
  | some gid => exact ⟨rfl, rfl, rfl, rfl⟩

theorem schedCursor_sameTx (s : PollCtx W ε) (last : Option Nat) :
    SameTx s (s.schedCursor last) := by
  cases last with
  | none => exact .refl s
  | some gid => exact ⟨rfl, rfl, rfl, rfl⟩

end room

/-! ## One item of work -/

section items

variable {room : Nat} {s s' : PollCtx W ε} {h : Handlers W ε} {w : TxWindow}

theorem runEvent_sameTx {gid mb : Nat} {ev : Event ε} {r : Ret}
    (hrun : runEvent h s gid ev mb = some (r, s')) : SameTx s s' := by
  unfold runEvent at hrun
  split at hrun
  · split at hrun
    · cases hrun
      exact ⟨rfl, rfl, rfl, rfl⟩
    · cases hrun
  · cases hrun
    exact ⟨rfl, rfl, rfl, rfl⟩
  · cases hrun
    exact .refl s

/-- **A packet that is not used takes no place.** -/
theorem TxRoom.transmit (hr : TxRoom (room + 1) s) (gid mb : Nat) (len : Int) :
    TxRoom (if (transmit h s gid mb len).2 then room else room + 1)
      (transmit h s gid mb len).1 := by
  unfold Poll.transmit
  rcases h.infraTx gid mb len s.world with ⟨r, w⟩
  cases r with
  | ok =>
    have hw : TxRoom (room + 1) { s with world := w } := hr.same ⟨rfl, rfl, rfl, rfl⟩
    exact hw.queueTx mb
  | mbuf => exact (hr.mono (Nat.le_succ room)).same ⟨rfl, rfl, rfl, rfl⟩
  | err => exact hr.same ⟨rfl, rfl, rfl, rfl⟩

/-- It takes one at most. -/
theorem TxRoom.transmit_le (hr : TxRoom (room + 1) s) (gid mb : Nat) (len : Int) :
    TxRoom room (Poll.transmit h s gid mb len).1 := by
  have ht := hr.transmit (h := h) gid mb len
  split at ht
  · exact ht
  · exact ht.mono (Nat.le_succ room)

theorem TxRoom.charge (hr : TxRoom room s) (gid : Nat) (cyc : UInt64) :
    TxRoom room (s.charge gid cyc) := hr.same ⟨rfl, rfl, rfl, rfl⟩

/-! ## Received frames -/

theorem rxPollGuest_room {gid mb pktOff : Nat} {tsc : UInt64} {mbTx : Bool}
    (hr : TxRoom (room + 1) s) (hp : rxPollGuest h s gid mb pktOff tsc = some (s', mbTx)) :
    TxRoom room s' := by
  unfold rxPollGuest at hp
  split at hp
  · cases hp
  · next r s₁ hrun =>
    have h₁ := hr.same (runEvent_sameTx hrun)
    have h₂ : TxRoom room
        (if 0 < r.ret then Poll.transmit h s₁ gid mb r.ret else (s₁, false)).1 := by
      split
      · exact h₁.transmit_le gid mb r.ret
      · exact h₁.mono (Nat.le_succ room)
    cases hp
    dsimp only
    split
    · exact h₂.charge ..
    · exact h₂

theorem rxPollSlot_room {gid mb pktOff : Nat} {tsc : UInt64} (hr : TxRoom (room + 1) s) :
    TxRoom room (rxPollSlot h s gid mb pktOff tsc).1 := by
  unfold rxPollSlot
  dsimp only
  split
  · exact hr.mono (Nat.le_succ room)
  · split
    · exact hr.mono (Nat.le_succ room)
    · have h₁ : TxRoom (room + 1) (runSlot h s (s.ctx.guests gid).id (.rx pktOff) mb).2 :=
        hr.same ⟨rfl, rfl, rfl, rfl⟩
      split
      · have h₂ := h₁.transmit_le (h := h) gid mb
          (runSlot h s (s.ctx.guests gid).id (.rx pktOff) mb).1
        dsimp only
        split
        · exact h₂.charge ..
        · exact h₂
      · have h₂ := h₁.mono (Nat.le_succ room)
        dsimp only
        split
        · exact h₂.charge ..
        · exact h₂

/-- **A frame takes one place at most.** -/
theorem rxLoop_room {mbs : List Nat} {used : List (Nat × Bool)}
    (hr : TxRoom mbs.length s) (hp : rxLoop h mbs s = some (s', used)) : TxRoom 0 s' := by
  induction mbs generalizing s used with
  | nil =>
    cases hp
    exact hr
  | cons mb mbs ih =>
    rw [rxLoop] at hp
    split at hp
    · next w _ =>
      have hw : TxRoom mbs.length { s with world := w } :=
        (hr.mono (Nat.le_succ _)).same ⟨rfl, rfl, rfl, rfl⟩
      split at hp
      · cases hp
      · next s₁ used₁ hrest =>
        cases hp
        exact ih hw hrest
    · next gid pktOff w _ =>
      have hw : TxRoom (mbs.length + 1) { s with world := w } := hr.same ⟨rfl, rfl, rfl, rfl⟩
      split at hp
      · cases hp
      · split at hp
        · cases hp
        · next s₁ mbTx hguest =>
          split at hp
          · cases hp
          · next s₂ used₂ hrest =>
            cases hp
            exact ih (rxPollGuest_room hw hguest) hrest

theorem rxLoopComb_room {mbs : List Nat} {used : List (Nat × Bool)}
    (hr : TxRoom mbs.length s) (hp : rxLoopComb h mbs s = some (s', used)) : TxRoom 0 s' := by
  induction mbs generalizing s used with
  | nil =>
    cases hp
    exact hr
  | cons mb mbs ih =>
    rw [rxLoopComb] at hp
    split at hp
    · next w _ =>
      have hw : TxRoom mbs.length { s with world := w } :=
        (hr.mono (Nat.le_succ _)).same ⟨rfl, rfl, rfl, rfl⟩
      split at hp
      · cases hp
      · next s₁ used₁ hrest =>
        cases hp
        exact ih hw hrest
    · next gid pktOff w _ =>
      have hw : TxRoom (mbs.length + 1) { s with world := w } := hr.same ⟨rfl, rfl, rfl, rfl⟩
      split at hp
      · cases hp
      · split at hp
        next s₁ mbTx hslot =>
        have h₁ : TxRoom mbs.length (rxPollSlot h { s with world := w } gid mb pktOff
            (h.clockRdtsc s.world)).1 := rxPollSlot_room hw
        rw [hslot] at h₁
        split at hp
        · cases hp
        · next s₂ used₂ hrest =>
          cases hp
          exact ih h₁ hrest

theorem rxFree_sameTx (used : List (Nat × Bool)) (s : PollCtx W ε) :
    SameTx s (rxFree used s) := by
  induction used generalizing s with
  | nil => exact .refl s
  | cons u used ih =>
    obtain ⟨mb, mbTx⟩ := u
    rw [rxFree]
    refine SameTx.trans ?_ (ih _)
    split
    · exact .refl s
    · exact free_sameTx s mb

/-- The frames of a poll fit. -/
theorem nicFastRx_room (hr : TxRoom 0 s) (nrx : Nat) :
    TxRoom (nicFastRx s nrx).2.length (nicFastRx s nrx).1 := by
  have hle : (nicFastRx s nrx).2.length ≤ s.batch fastRxBatchSize := by
    unfold nicFastRx
    dsimp only
    rw [List.length_take]
    omega
  exact ((hr.batch fastRxBatchSize).mono hle).same ⟨rfl, rfl, rfl, rfl⟩

/-- **A poll of the received frames keeps the buffer**, the default one and the
combined one. -/
theorem fastRxPoll_room {nrx sent : Nat} {r : Int} (hr : TxRoom 0 s)
    (hp : fastRxPoll h s nrx sent = some (r, s')) : TxRoom 0 s' := by
  unfold fastRxPoll at hp
  have hrx := nicFastRx_room hr nrx
  dsimp only at hp
  split at hp
  · cases hp
    exact hrx.mono (Nat.zero_le _)
  · split at hp
    · cases hp
    · next s₁ used hloop =>
      cases hp
      exact ((rxLoop_room hrx hloop).txflush sent).same (rxFree_sameTx ..)

theorem fastRxPollComb_room {nrx sent : Nat} {r : Int} (hr : TxRoom 0 s)
    (hp : fastRxPollComb h s nrx sent = some (r, s')) : TxRoom 0 s' := by
  unfold fastRxPollComb at hp
  have hrx := nicFastRx_room hr nrx
  dsimp only at hp
  split at hp
  · cases hp
    exact hrx.mono (Nat.zero_le _)
  · split at hp
    · cases hp
    · next s₁ used hloop =>
      cases hp
      exact ((rxLoopComb_room hrx hloop).txflush sent).same (rxFree_sameTx ..)

/-! ## Queues -/

/-- There is room for the entries a loop may still take. -/
def DeqRoom (w : TxWindow) (l : DeqLoop W ε) : Prop := TxRoom (w.num - l.ndeq) l.s

section queues

variable {l l' : DeqLoop W ε} {ok : Bool}

theorem DeqRoom.start (hr : TxRoom w.num s) : DeqRoom w { s, ntx := 0, ndeq := 0 } := hr

theorem DeqRoom.same (hr : DeqRoom w l) (hs : SameTx l.s s) : DeqRoom w { l with s } :=
  TxRoom.same hr hs

theorem DeqRoom.done (hr : DeqRoom w l) : TxRoom 0 l.s := TxRoom.mono hr (Nat.zero_le _)

/-- An entry was taken, with at most one packet. -/
private theorem DeqRoom.next {r : Nat} {s : PollCtx W ε} (hr : TxRoom (w.num - (r + 1)) s)
    (ntx : Nat) : DeqRoom w { s, ntx, ndeq := r + 1 } := hr

private theorem left_succ {r : Nat} (hlt : r < w.num) : w.num - r = w.num - (r + 1) + 1 := by omega

/-- **An entry takes one place at most.** -/
theorem queuesPollGuestDequeue_room {gid qi : Nat} {qe : ε} (hr : DeqRoom w l)
    (hlt : l.ndeq < w.num) (hp : queuesPollGuestDequeue h w gid qi qe l = some (ok, l')) :
    DeqRoom w l' ∧ l'.ndeq = l.ndeq + 1 := by
  unfold DeqRoom at hr
  rw [left_succ hlt] at hr
  have hu : TxRoom (w.num - (l.ndeq + 1) + 1) (l.s.useMb w l.ntx) := hr.same ⟨rfl, rfl, rfl, rfl⟩
  unfold queuesPollGuestDequeue at hp
  dsimp only at hp
  split at hp
  · cases hp
  · next r s₁ hrun =>
    have h₁ := hu.same (runEvent_sameTx hrun)
    split at hp
    · cases hp
      exact ⟨.next (h₁.mono (Nat.le_succ _)) _, rfl⟩
    · split at hp
      · cases hp
        exact ⟨.next (h₁.transmit_le ..) _, rfl⟩
      · cases hp
        exact ⟨.next (h₁.mono (Nat.le_succ _)) _, rfl⟩

theorem drainQueue_room {gid qi room : Nat} (hr : DeqRoom w l) (hle : room ≤ w.num - l.ndeq)
    (hp : drainQueue h w gid qi room l = some (ok, l')) : DeqRoom w l' := by
  induction room generalizing l with
  | zero =>
    cases hp
    exact hr
  | succ room ih =>
    rw [drainQueue] at hp
    split at hp
    · cases hp
      exact hr
    · next qe _ _ =>
      split at hp
      · cases hp
      · next l₁ hentry =>
        cases hp
        exact (queuesPollGuestDequeue_room hr (by omega) hentry).1
      · next l₁ hentry =>
        obtain ⟨h₁, hndeq⟩ := queuesPollGuestDequeue_room hr (by omega) hentry
        split at hp
        · cases hp
          exact h₁
        · next s₂ hdeq =>
          exact ih (h₁.same (queueDequeue_sameTx hdeq)) (by dsimp only; omega) hp

theorem queueRounds_room {gid rounds : Nat} (hr : DeqRoom w l)
    (hp : queueRounds h w gid rounds l = some (ok, l')) : DeqRoom w l' := by
  induction rounds generalizing l with
  | zero =>
    cases hp
    exact hr
  | succ rounds ih =>
    rw [queueRounds] at hp
    split at hp
    · dsimp only at hp
      split at hp
      · cases hp
      · next l₁ hdrain =>
        cases hp
        exact drainQueue_room hr (Nat.le_refl _) hdrain
      · next l₁ hdrain =>
        have h₁ := drainQueue_room hr (Nat.le_refl _) hdrain
        refine ih ?_ hp
        exact h₁.same ⟨rfl, rfl, rfl, rfl⟩
    · cases hp
      exact hr

theorem queuesPollGuest_room {gid : Nat} (hr : DeqRoom w l)
    (hp : queuesPollGuest h w gid l = some (ok, l')) : DeqRoom w l' := by
  unfold queuesPollGuest at hp
  dsimp only at hp
  split at hp
  · cases hp
    exact hr
  · split at hp
    · cases hp
      exact hr
    · split at hp
      · next l₁ hrounds =>
        have h₁ := queueRounds_room hr hrounds
        split at hp
        · cases hp
          exact TxRoom.charge h₁ ..
        · cases hp
          exact h₁
      · exact queueRounds_room hr hp

theorem queuesGuests_room {gids : List Nat} {last last' : Option Nat} (hr : DeqRoom w l)
    (hp : queuesGuests h w gids l last = some (ok, l', last')) : DeqRoom w l' := by
  induction gids generalizing l last with
  | nil =>
    cases hp
    exact hr
  | cons gid gids ih =>
    rw [queuesGuests] at hp
    split at hp
    · split at hp
      · cases hp
      · next l₁ hguest =>
        cases hp
        exact queuesPollGuest_room hr hguest
      · next l₁ hguest => exact ih (queuesPollGuest_room hr hguest) hp
    · cases hp
      exact hr

/-- The window of a poll fits. -/
theorem window_room (hr : TxRoom 0 s) (grants : Bool × Bool) (size : Nat) :
    TxRoom (txcacheAlloc s.mbufs grants (s.batch size)).1.num
      { s with mbufs := (txcacheAlloc s.mbufs grants (s.batch size)).2 } :=
  ((hr.batch size).mono (txcacheAlloc_num ..)).same (alloc_sameTx ..)

theorem fastQueuesPoll_room {io : PollIo} {r : Int} (hr : TxRoom 0 s)
    (hp : fastQueuesPoll h s io = some (r, s')) : TxRoom 0 s' := by
  unfold fastQueuesPoll at hp
  have hw := window_room hr io.grants fastDeqBatchSize
  split at hp
  · cases hp
    exact hr
  · dsimp only at hp
    split at hp
    · cases hp
      exact hw.mono (Nat.zero_le _)
    · split at hp
      · cases hp
      · next l _ hguests =>
        cases hp
        exact (queuesGuests_room (.start hw) hguests).done
      · next l last hguests =>
        cases hp
        have h₁ := (queuesGuests_room (.start hw) hguests).done
        exact ((h₁.same (queuesCursor_sameTx ..)).txflush io.sent).same (unalloc_sameTx ..)

end queues

section slots

variable {l l' : SlotLoop W ε}

theorem slotEntry_room (hr : DeqRoom w l.toDeqLoop) (hlt : l.ndeq < w.num) (gid qi : Nat)
    (qe : ε) :
    DeqRoom w (slotEntry h w gid qi qe l).2.toDeqLoop ∧
      (slotEntry h w gid qi qe l).2.ndeq = l.ndeq + 1 := by
  unfold DeqRoom at hr
  rw [left_succ hlt] at hr
  have hu : TxRoom (w.num - (l.ndeq + 1) + 1) (runSlot h (l.s.useMb w l.ntx) gid
      (.deq (((l.s.useMb w l.ntx).ctx.guests gid).dqueues qi).id qe) (l.s.windowMb w l.ntx)).2 :=
    hr.same ⟨rfl, rfl, rfl, rfl⟩
  unfold slotEntry
  dsimp only
  split
  · exact ⟨.next (hu.mono (Nat.le_succ _)) _, rfl⟩
  · split
    · exact ⟨.next (hu.transmit_le ..) _, rfl⟩
    · exact ⟨.next (hu.mono (Nat.le_succ _)) _, rfl⟩

theorem drainSlot_room (hr : DeqRoom w l.toDeqLoop) (gid qi : Nat) {room : Nat}
    (hle : room ≤ w.num - l.ndeq) : DeqRoom w (drainSlot h w gid qi room l).2.toDeqLoop := by
  induction room generalizing l with
  | zero => exact hr
  | succ room ih =>
    rw [drainSlot]
    split
    · exact hr
    · next qe _ _ =>
      have hentry := slotEntry_room (h := h) hr (by omega) gid qi qe
      split
      · next l₁ heq =>
        rw [heq] at hentry
        exact hentry.1
      · next l₁ heq =>
        rw [heq] at hentry
        split
        · exact hentry.1
        · next s₂ hdeq =>
          obtain ⟨h₁, hndeq⟩ := hentry
          dsimp only at hndeq
          exact ih (l := { l₁ with s := s₂ }) (h₁.same (queueDequeue_sameTx hdeq))
            (by dsimp only; omega)

theorem slotRounds_room (hr : DeqRoom w l.toDeqLoop) (gid rounds : Nat) :
    DeqRoom w (slotRounds h w gid rounds l).2.toDeqLoop := by
  induction rounds generalizing l with
  | zero => exact hr
  | succ rounds ih =>
    rw [slotRounds]
    split
    · have hdrain := drainSlot_room (h := h) hr gid (l.s.ctx.guests gid).dqueuesHead
        (Nat.le_refl _)
      dsimp only
      split
      · next l₁ heq =>
        rw [heq] at hdrain
        exact hdrain
      · next l₁ heq =>
        rw [heq] at hdrain
        exact ih (hdrain.same ⟨rfl, rfl, rfl, rfl⟩)
    · exact hr

theorem deqPollSlot_room {l : DeqLoop W ε} (hr : DeqRoom w l) (gid : Nat) :
    DeqRoom w (deqPollSlot h w gid l).2 := by
  unfold deqPollSlot
  dsimp only
  split
  · exact hr
  · split
    · exact hr
    · split
      · exact hr
      · split
        · exact hr
        · have hrounds := slotRounds_room (h := h) (l := { l with didWork := false }) hr gid
            (l.s.ctx.guests gid).ndqueues
          split
          · next l₁ heq =>
            rw [heq] at hrounds
            exact hrounds
          · next l₁ heq =>
            rw [heq] at hrounds
            split
            · exact TxRoom.charge hrounds ..
            · exact hrounds

theorem deqSlots_room {l : DeqLoop W ε} (hr : DeqRoom w l) (gids : List Nat)
    (last : Option Nat) : DeqRoom w (deqSlots h w gids l last).2.1 := by
  induction gids generalizing l last with
  | nil => exact hr
  | cons gid gids ih =>
    rw [deqSlots]
    split
    · have hslot := deqPollSlot_room (h := h) hr gid
      dsimp only
      split
      · exact hslot
      · exact ih hslot _
    · exact hr

theorem fastQueuesPollComb_room {io : PollIo} (hr : TxRoom 0 s) :
    TxRoom 0 (fastQueuesPollComb h s io).2 := by
  unfold fastQueuesPollComb
  have hw := window_room hr io.grants fastDeqBatchSize
  split
  · exact hr
  · dsimp only
    split
    · exact hw.mono (Nat.zero_le _)
    · have hslots := deqSlots_room (h := h) (.start hw) (guestOrder s.ctx.nGuests s.queuesStart)
        none
      split
      · next l _ heq =>
        rw [heq] at hslots
        exact hslots.done
      · next l last heq =>
        rw [heq] at hslots
        exact (hslots.done.same (queuesCursor_sameTx ..)).same (unalloc_sameTx ..)

end slots

/-! ## Schedulers -/

/-- There is room for the packets a loop may still send. -/
def SchedRoom (w : TxWindow) (l : SchedLoop W ε) : Prop := TxRoom (w.num - l.ntx) l.s

section sched

variable {l l' : SchedLoop W ε} {ntx ntx' : Nat}

/-- **One more packet sent is one place less.** -/
private theorem transmit_left {gid mb : Nat} {len : Int} (hlt : ntx < w.num)
    (hr : TxRoom (w.num - ntx) s) :
    TxRoom (w.num - if (transmit h s gid mb len).2 then ntx + 1 else ntx)
      (transmit h s gid mb len).1 := by
  rw [left_succ hlt] at hr
  have ht := hr.transmit (h := h) gid mb len
  split at ht
  · next hu =>
    rw [if_pos hu]
    exact ht
  · next hu =>
    rw [if_neg hu, left_succ hlt]
    exact ht

theorem schedMore_lt {gid : Nat} (hm : l.more h w gid = true) : l.ntx < w.num :=
  of_decide_eq_true (Bool.and_eq_true_iff.mp hm).1

theorem schedWhile_room {gid fuel : Nat} (hr : SchedRoom w l)
    (hp : schedWhile h w gid fuel l = some l') : SchedRoom w l' := by
  induction fuel generalizing l with
  | zero =>
    rw [schedWhile] at hp
    split at hp
    · cases hp
    · cases hp
      exact hr
  | succ fuel ih =>
    rw [schedWhile] at hp
    split at hp
    · next hmore =>
      have hu : TxRoom (w.num - l.ntx) (l.s.useMb w l.ntx) := TxRoom.same hr ⟨rfl, rfl, rfl, rfl⟩
      dsimp only at hp
      split at hp
      · cases hp
      · next r s₁ hrun =>
        have h₁ := hu.same (runEvent_sameTx hrun)
        split at hp
        · cases hp
          exact h₁
        · refine ih ?_ hp
          exact transmit_left (schedMore_lt hmore) h₁
    · cases hp
      exact hr

theorem slotWhile_room {gid fuel : Nat} (hr : SchedRoom w l)
    (hp : slotWhile h w gid fuel l = some l') : SchedRoom w l' := by
  induction fuel generalizing l with
  | zero =>
    rw [slotWhile] at hp
    split at hp
    · cases hp
    · cases hp
      exact hr
  | succ fuel ih =>
    rw [slotWhile] at hp
    split at hp
    · next hmore =>
      have h₁ : TxRoom (w.num - l.ntx)
          (runSlot h (l.s.useMb w l.ntx) gid .sched (l.s.windowMb w l.ntx)).2 :=
        TxRoom.same hr ⟨rfl, rfl, rfl, rfl⟩
      dsimp only at hp
      split at hp
      · cases hp
        exact h₁
      · refine ih ?_ hp
        exact transmit_left (schedMore_lt hmore) h₁
    · cases hp
      exact hr

theorem schedPollGuest_room {fuel gid : Nat} {r : Int} (hr : TxRoom (w.num - ntx) s)
    (hp : schedPollGuest h w fuel gid s ntx = some (r, s', ntx')) :
    TxRoom (w.num - ntx') s' := by
  unfold schedPollGuest at hp
  split at hp
  · cases hp
    exact hr
  · split at hp
    · cases hp
      exact hr
    · dsimp only at hp
      split at hp
      · cases hp
      · next l hwhile =>
        have h₁ := schedWhile_room (l := { s, ntx, didWork := false, schedRet := 0 }) hr hwhile
        cases hp
        split
        · exact TxRoom.charge h₁ ..
        · exact h₁

theorem schedPollSlot_room {fuel slot : Nat} {r : Int} (hr : TxRoom (w.num - ntx) s)
    (hp : schedPollSlot h w fuel slot s ntx = some (r, s', ntx')) :
    TxRoom (w.num - ntx') s' := by
  unfold schedPollSlot at hp
  iterate 4
    split at hp
    · cases hp
      exact hr
  dsimp only at hp
  split at hp
  · cases hp
  · next l hwhile =>
    have h₁ := slotWhile_room (l := { s, ntx, didWork := false, schedRet := 0 }) hr hwhile
    cases hp
    split
    · exact TxRoom.charge h₁ ..
    · exact h₁

theorem schedGuests_room {fuel : Nat} {gids : List Nat} {last last' : Option Nat}
    (hr : TxRoom (w.num - ntx) s)
    (hp : schedGuests h w fuel gids s ntx last = some (s', ntx', last')) :
    TxRoom (w.num - ntx') s' := by
  induction gids generalizing s ntx last with
  | nil =>
    cases hp
    exact hr
  | cons gid gids ih =>
    rw [schedGuests] at hp
    split at hp
    · split at hp
      · cases hp
      · next r s₁ ntx₁ hguest => exact ih (schedPollGuest_room hr hguest) hp
    · cases hp
      exact hr

theorem schedSlots_room {fuel : Nat} {gids : List Nat} {last last' : Option Nat} {ok : Bool}
    (hr : TxRoom (w.num - ntx) s)
    (hp : schedSlots h w fuel gids s ntx last = some (ok, s', ntx', last')) :
    TxRoom (w.num - ntx') s' := by
  induction gids generalizing s ntx last with
  | nil =>
    cases hp
    exact hr
  | cons gid gids ih =>
    rw [schedSlots] at hp
    split at hp
    · split at hp
      · cases hp
      · next r s₁ ntx₁ hguest =>
        split at hp
        · cases hp
          exact schedPollSlot_room hr hguest
        · exact ih (schedPollSlot_room hr hguest) hp
    · cases hp
      exact hr

/-- **A poll of the schedulers keeps the buffer.** -/
theorem fastSchedPoll_room {fuel : Nat} {io : PollIo} {r : Int} (hr : TxRoom 0 s)
    (hp : fastSchedPoll h fuel s io = some (r, s')) : TxRoom 0 s' := by
  unfold fastSchedPoll at hp
  have hw := window_room hr io.grants fastSchedBatchSize
  split at hp
  · cases hp
    exact hr
  · dsimp only at hp
    split at hp
    · cases hp
      exact hw.mono (Nat.zero_le _)
    · split at hp
      · cases hp
      · next s₁ ntx last hguests =>
        cases hp
        have h₁ := (schedGuests_room (show TxRoom (_ - 0) _ from hw) hguests).mono (Nat.zero_le _)
        exact ((h₁.same (schedCursor_sameTx ..)).txflush io.sent).same (unalloc_sameTx ..)

theorem fastSchedPollComb_room {fuel : Nat} {io : PollIo} {r : Int} (hr : TxRoom 0 s)
    (hp : fastSchedPollComb h fuel s io = some (r, s')) : TxRoom 0 s' := by
  unfold fastSchedPollComb at hp
  have hw := window_room hr io.grants fastSchedBatchSize
  split at hp
  · cases hp
    exact hr
  · dsimp only at hp
    split at hp
    · cases hp
      exact hw.mono (Nat.zero_le _)
    · split at hp
      · cases hp
      · next s₁ ntx _ hslots =>
        cases hp
        exact (schedSlots_room (show TxRoom (_ - 0) _ from hw) hslots).mono (Nat.zero_le _)
      · next s₁ ntx last hslots =>
        cases hp
        have h₁ := (schedSlots_room (show TxRoom (_ - 0) _ from hw) hslots).mono (Nat.zero_le _)
        exact (h₁.same (schedCursor_sameTx ..)).same (unalloc_sameTx ..)

end sched

/-! ## Messages of the control path -/

theorem handleArpTxPkt_room {room : Nat} {io : PollIo} (hr : TxRoom (room + 1) s) :
    TxRoom room (handleArpTxPkt s io) := by
  unfold handleArpTxPkt
  split
  · exact hr.mono (Nat.le_succ room)
  · have h₁ : TxRoom (room + 1) { s with mbufs := (txcacheAlloc s.mbufs io.grants 1).2 } :=
      hr.same (alloc_sameTx ..)
    have h₂ : TxRoom (room + 1) (PollCtx.useMb
        { s with mbufs := (txcacheAlloc s.mbufs io.grants 1).2 }
        (txcacheAlloc s.mbufs io.grants 1).1 0) := h₁.same ⟨rfl, rfl, rfl, rfl⟩
    exact (h₂.queueTx _).same ⟨rfl, rfl, rfl, rfl⟩

theorem handleMbuf_room {room gid mb : Nat} {len : Int} (hr : TxRoom (room + 1) s) :
    TxRoom room (handleMbuf h s gid mb len) := by
  unfold handleMbuf
  split
  · exact (hr.mono (Nat.le_succ room)).same (free_sameTx ..)
  · have h₁ := hr.transmit_le (h := h) gid mb len
    dsimp only
    split
    · exact h₁
    · exact h₁.same (free_sameTx ..)

/-- **A message takes one place at most.** -/
theorem handleCtlMsg_room {room : Nat} {io : PollIo} {msg : CtlMsg} {rest : List CtlMsg}
    (hr : TxRoom (room + 1) s) : TxRoom room (handleCtlMsg h s io msg rest) := by
  cases msg with
  | config m => exact (hr.mono (Nat.le_succ room)).same ⟨rfl, rfl, rfl, rfl⟩
  | arpTxPkt => exact (handleArpTxPkt_room hr).same ⟨rfl, rfl, rfl, rfl⟩
  | arpUpdate ip mac => exact (hr.mono (Nat.le_succ room)).same ⟨rfl, rfl, rfl, rfl⟩
  | mbufTx gid mb pktLen => exact (handleMbuf_room hr).same ⟨rfl, rfl, rfl, rfl⟩
  | unknown => exact hr.mono (Nat.le_succ room)

theorem controlifLoop_room {ios : Nat → PollIo} {n : Nat} (hr : TxRoom n s) :
    TxRoom 0 (controlifLoop h ios n s) := by
  induction n generalizing s with
  | zero => exact hr
  | succ n ih =>
    rw [controlifLoop]
    split
    · exact hr.mono (Nat.zero_le _)
    · exact ih (handleCtlMsg_room hr)

theorem controlifPoll_room {ios : Nat → PollIo} (hr : TxRoom 0 s) :
    TxRoom 0 (controlifPoll h ios s) := controlifLoop_room (hr.batch _)

end items

/-! ## Runs -/

/-- What a core does with its transmit buffer: the polls, default and combined,
with what the NIC and the pool answer; the flush at the end of its loop; and
anything else that leaves the buffer alone. -/
inductive PollAct (W ε : Type)
  | rx (nrx sent : Nat)
  | queues (io : PollIo)
  | sched (fuel : Nat) (io : PollIo)
  | rxComb (nrx sent : Nat)
  | queuesComb (io : PollIo)
  | schedComb (fuel : Nat) (io : PollIo)
  | control (ios : Nat → PollIo)
  | flush (sent : Nat)
  | other (s : PollCtx W ε)

/-- The context after an action that returns. -/
inductive PollStep (h : Handlers W ε) (s : PollCtx W ε) : PollAct W ε → PollCtx W ε → Prop
  | rx {nrx sent r s'} : fastRxPoll h s nrx sent = some (r, s') → PollStep h s (.rx nrx sent) s'
  | queues {io r s'} : fastQueuesPoll h s io = some (r, s') → PollStep h s (.queues io) s'
  | sched {fuel io r s'} : fastSchedPoll h fuel s io = some (r, s') →
    PollStep h s (.sched fuel io) s'
  | rxComb {nrx sent r s'} : fastRxPollComb h s nrx sent = some (r, s') →
    PollStep h s (.rxComb nrx sent) s'
  | queuesComb {io} : PollStep h s (.queuesComb io) (fastQueuesPollComb h s io).2
  | schedComb {fuel io r s'} : fastSchedPollComb h fuel s io = some (r, s') →
    PollStep h s (.schedComb fuel io) s'
  | control {ios} : PollStep h s (.control ios) (controlifPoll h ios s)
  | flush {sent} : PollStep h s (.flush sent) (s.txflush sent)
  | other {s'} : SameTx s s' → PollStep h s (.other s') s'

/-- Runs of a core from `s₀`; the handlers may do something else each time. -/
inductive PollRun (s₀ : PollCtx W ε) : PollCtx W ε → Prop
  | nil : PollRun s₀ s₀
  | snoc {s s' : PollCtx W ε} {h : Handlers W ε} {a : PollAct W ε} :
    PollRun s₀ s → PollStep h s a s' → PollRun s₀ s'

/-- A core that has sent nothing yet. -/
structure TxInit (s : PollCtx W ε) : Prop where
  empty : s.mbufs.txMbs = []
  put : s.txPut = []
  sent : s.txSent = []
  stray : s.strayPut = false

section runs

variable {s₀ s s' : PollCtx W ε} {h : Handlers W ε} {a : PollAct W ε}

theorem TxInit.room (hi : TxInit s) : TxRoom 0 s := by
  refine ⟨?_, hi.stray, ?_⟩
  · rw [hi.empty]
    decide
  · rw [hi.put, hi.sent, hi.empty]
    rfl

/-- **Every action keeps the buffer.** -/
theorem TxRoom.step (hr : TxRoom 0 s) (hs : PollStep h s a s') : TxRoom 0 s' := by
  cases hs with
  | rx hp => exact fastRxPoll_room hr hp
  | queues hp => exact fastQueuesPoll_room hr hp
  | sched hp => exact fastSchedPoll_room hr hp
  | rxComb hp => exact fastRxPollComb_room hr hp
  | queuesComb => exact fastQueuesPollComb_room hr
  | schedComb hp => exact fastSchedPollComb_room hr hp
  | control => exact controlifPoll_room hr
  | flush => exact hr.txflush _
  | other hsame => exact hr.same hsame

theorem PollRun.room (hi : TxInit s₀) (hr : PollRun s₀ s) : TxRoom 0 s := by
  induction hr with
  | nil => exact hi.room
  | snoc _ hs ih => exact ih.step hs

end runs

theorem TxArray.items_length (a : TxArray) : a.items.length = a.n := by
  unfold TxArray.items
  rw [List.length_map, List.length_range]

/-- **The transmit buffer is a bounded queue.** After any sequence of polls,
default or combined, with any results of the handlers and any numbers of
packets accepted by the NIC:
* `tx_n` is at most `TXBUF_SIZE`, and no packet was ever written behind the
  end of `tx_mbs`;
* the packets sent so far, followed by those in the buffer, are those put into
  it, in order: none is lost and none is sent twice;
* on the array, putting a packet and a flush that compacts it do what they do
  on the list. -/
theorem txBuffer_fifo {s₀ s : PollCtx W ε} (hi : TxInit s₀) (hr : PollRun s₀ s) :
    s.mbufs.txMbs.length ≤ txbufSize ∧ s.strayPut = false ∧
      s.txPut = s.txSent ++ s.mbufs.txMbs ∧
      ∀ a : TxArray, a.items = s.mbufs.txMbs → a.n ≤ txbufSize ∧
        (∀ mb, (a.put mb).items = (s.queueTx mb).mbufs.txMbs) ∧
        ∀ sent : Nat, (txflushArray a sent).items = (s.txflush sent).mbufs.txMbs := by
  have h := hr.room hi
  refine ⟨h.fits, h.inside, h.order, fun a ha => ⟨?_, fun mb => ?_, fun sent => ?_⟩⟩
  · rw [← a.items_length, ha]
    exact h.fits
  · rw [txArray_put_items, ha]
    rfl
  · rw [txflushArray_items, ha]
    rfl

/-- Three messages of the control path with a packet each. -/
def threePackets : PollCtx Nat Unit :=
  { twoGuests with ctlFastQ := [.mbufTx 0 7 60, .mbufTx 0 8 60, .mbufTx 1 9 60] }

/-- The NIC takes two of the three packets. -/
theorem txBuffer_fifo_partial :
    ∃ s, PollRun threePackets s ∧ s.txSent = [7, 8] ∧ s.mbufs.txMbs = [9] ∧
      s.txPut = s.txSent ++ s.mbufs.txMbs := by
  have hctl : PollStep (countingHandlers 0) threePackets (.control fun _ => ⟨(true, true), 0⟩)
    (controlifPoll (countingHandlers 0) (fun _ => ⟨(true, true), 0⟩) threePackets) := .control
  have hrun := (PollRun.nil.snoc hctl).snoc
    (.flush : PollStep (countingHandlers 0) _ (.flush 2) _)
  exact ⟨_, hrun, rfl, rfl, (txBuffer_fifo ⟨rfl, rfl, rfl, rfl⟩ hrun).2.2.1⟩

end Chamelio.Fast.Poll
