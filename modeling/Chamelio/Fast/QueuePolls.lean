import Chamelio.Fast.PollComb
import Chamelio.Fast.PollDue

/-!
# Repeated polls of the queues

What polls of the queues owe the guests, over runs of a core: an entry that is
handed to `event_deq` is dequeued, once, and when a poll returns it took as
many entries as it had mbufs, or no guest with budget has an entry left in an
enabled queue. Both hold as long as no entry is answered negatively. One that
is stays at the head of its queue, is handed over again by the next poll, and
the guests behind it are not served: the poll returned before its turn to
rotate came (`fast_queues.c`, `if (ret < 0) return -1`).

A poll starts from lists of enabled queues that are what the messages say
(`Intact`). Its own rotations keep them so; what disables do to them is in
`EnabledQueues`.

Mirroring notes: a run interleaves the polls of the queues with the other
polls of the core, with entries the guests publish and with whatever else is
written between two polls (budgets, messages, the world behind the handlers).
A poll that ends the process leaves the state as it was. An entry of a queue
is logged in `handed` under the id of the queue.
-/

namespace Chamelio.Fast.Poll

open Chamelio.Control Chamelio.Lib

variable {W ε : Type}

/-! ## What is due of intact lists -/

/-- The lists of enabled queues of the guests are what the messages say, in
some order. -/
def Intact (s : PollCtx W ε) (enabled : Nat → List Nat) : Prop :=
  ∀ gid, gid < s.ctx.nGuests → ∃ l, l.Perm (enabled gid) ∧ Listed (s.ctx.guests gid) l ∧
    QueuesOk (s.ctx.guests gid) l

/-- The rounds over an intact list visit its queues in order. -/
theorem visitOrder_take {g : GuestFast} {l : List Nat} (h : Listed g l) (hok : QueuesOk g l)
    {k : Nat} (hk : k ≤ l.length) : visitOrder k g = l.take k := by
  induction k generalizing g l with
  | zero => rfl
  | succ k ih =>
    cases l with
    | nil => cases hk
    | cons q t =>
      have hhead : g.dqueuesHead = q := chain_head h.chain
      have hrot := ih (h.rotate hok (List.cons_ne_nil q t)) hok.rotate (by simp at hk ⊢; omega)
      show g.dqueuesHead :: visitOrder k g.rotateHead = q :: t.take k
      rw [hrot, hhead, List.rotate_cons_succ, List.rotate_zero,
        List.take_append_of_le_length (Nat.le_of_succ_le_succ hk)]

theorem visitOrder_listed {g : GuestFast} {l : List Nat} (h : Listed g l) (hok : QueuesOk g l) :
    visitOrder g.ndqueues g = l := by
  rw [h.count, visitOrder_take h hok (Nat.le_refl _), List.take_length]

theorem mem_drained {order : List Nat} {f : Nat → List ε} {e : Nat × ε}
    (he : e ∈ drained order f) : e.1 ∈ order := by
  induction order generalizing f with
  | nil => cases he
  | cons q order ih =>
    rcases List.mem_append.mp he with he | he
    · obtain ⟨x, -, rfl⟩ := List.mem_map.mp he
      exact List.mem_cons_self
    · exact List.mem_cons_of_mem _ (ih he)

/-- Each queue that is visited is drained once. -/
theorem ofQueue_drained (s : PollCtx W ε) (gid : Nat) (order : List Nat) (f : Nat → List ε)
    (q : Nat) :
    ofQueue ((drained order f).map fun e => s.dueAt gid e.1 e.2) gid q =
      if q ∈ order then f q else [] := by
  induction order generalizing f with
  | nil => rfl
  | cons a order ih =>
    unfold drained
    rw [List.map_append, ofQueue_append, ih, List.map_map]
    rw [show ((f a).map ((fun e => s.dueAt gid e.1 e.2) ∘ fun e => (a, e))) =
      (f a).map (s.dueAt gid a) from rfl, ofQueue_dueAt]
    by_cases hqa : q = a
    · subst hqa
      simp
    · simp [hqa, Ne.symm hqa]

/-- The entries of a queue that are due of its guest are all it has. -/
theorem ofQueue_dueGuest {s : PollCtx W ε} {gid q : Nat} (hturn : s.takesTurn gid = true)
    (hq : q ∈ visitOrder (s.ctx.guests gid).ndqueues (s.ctx.guests gid)) :
    ofQueue (dueGuest s gid) gid q = s.queued gid q := by
  rw [dueGuest_turn hturn]
  unfold PollCtx.dueRounds
  rw [ofQueue_drained, if_pos hq]

/-- Each guest hands over its own entries. -/
theorem ofQueue_dueGuests {s : PollCtx W ε} {gids : List Nat} (hnodup : gids.Nodup) {gid : Nat}
    (hgid : gid ∈ gids) (q : Nat) :
    ofQueue (dueGuests s gids) gid q = ofQueue (dueGuest s gid) gid q := by
  induction gids with
  | nil => cases hgid
  | cons g gids ih =>
    obtain ⟨hg, hnodup⟩ := List.nodup_cons.mp hnodup
    unfold dueGuests
    rw [List.flatMap_cons, ofQueue_append]
    rcases List.mem_cons.mp hgid with rfl | hmem
    · -- no entry of the guests behind it is its own
      have hnone : ofQueue (gids.flatMap (dueGuest s)) gid q = [] := by
        refine ofQueue_ne fun d hd heq => ?_
        obtain ⟨g', hg', hd⟩ := List.mem_flatMap.mp hd
        exact hg ((dueGuest_gid hd).symm.trans heq ▸ hg')
      rw [hnone, List.append_nil]
    · have hnone : ofQueue (dueGuest s g) gid q = [] :=
        ofQueue_ne fun d hd heq => hg ((dueGuest_gid hd).symm.trans heq ▸ hmem)
      rw [hnone, List.nil_append]
      exact ih hnodup hmem

/-! ## One poll -/

/-- The entries that are due are all answered, none negatively. -/
def Answered (h : Handlers W ε) (s : PollCtx W ε) (io : PollIo) : Prop :=
  ∃ wd ntx, duePollEnd h s io = .done wd ntx

/-- What a poll owes the guests, which returned `n` with `max` mbufs at hand:
what it handed over it dequeued, and it used up its mbufs or emptied the
enabled queues of every guest that has budget. -/
structure Serves (enabled : Nat → List Nat) (max : Nat) (s : PollCtx W ε) (n : Int)
    (s' : PollCtx W ε) : Prop where
  once : ∀ g q, s'.handed g q ++ s'.queued g q = s.handed g q ++ s.queued g q
  served : n = max ∨ ∀ gid, gid < s.ctx.nGuests → s'.outOfBudget gid = false →
    ∀ q ∈ enabled gid, s'.queued gid q = []

section poll

variable {h : Handlers W ε} {s s' : PollCtx W ε} {enabled : Nat → List Nat} {io : PollIo}

/-- The rounds of a guest visit the enabled queues, each under its own id. -/
theorem Intact.visited (hint : Intact s enabled) {gid : Nat} (hgid : gid < s.ctx.nGuests)
    {q : Nat} : q ∈ visitOrder (s.ctx.guests gid).ndqueues (s.ctx.guests gid) ↔
      q ∈ enabled gid := by
  obtain ⟨l, hperm, hlist, hok⟩ := hint gid hgid
  rw [visitOrder_listed hlist hok]
  exact hperm.mem_iff

/-- The entries that are due are of registered guests, and their queues have
their own ids. -/
theorem Intact.due_id (hint : Intact s enabled) {w : TxWindow} {d : Due ε}
    (hd : d ∈ duePoll s w) : d.qid = d.qi := by
  obtain ⟨gid, hgid, hd⟩ := List.mem_flatMap.mp (List.mem_of_mem_take hd)
  obtain ⟨l, -, hlist, hok⟩ := hint gid (mem_guestOrder hgid)
  unfold dueGuest at hd
  split at hd
  · obtain ⟨e, he, rfl⟩ := List.mem_map.mp hd
    have hmem := mem_drained he
    rw [visitOrder_listed hlist hok] at hmem
    exact hok.id e.1 hmem
  · cases hd

theorem Intact.ofQueueId (hint : Intact s enabled) (w : TxWindow) (g q : Nat) :
    ofQueueId (duePoll s w) g q = ofQueue (duePoll s w) g q := by
  unfold Poll.ofQueueId ofQueue
  refine List.filterMap_congr fun d hd => ?_
  rw [hint.due_id hd]

/-- A poll turns the lists and does not break them. -/
theorem Polled.intact {ds : List (Due ε)} (hp : Polled s ds s') (hint : Intact s enabled) :
    Intact s' enabled := by
  intro gid hgid
  rw [hp.static.count] at hgid
  obtain ⟨l, hperm, hlist, hok⟩ := hint gid hgid
  obtain ⟨k, hk, hturned⟩ := hp.turned gid
  rw [hturned]
  by_cases hne : l = []
  · subst hne
    rw [hlist.count] at hk
    obtain rfl : k = 0 := Nat.le_zero.mp hk
    exact ⟨[], hperm, hlist, hok⟩
  · obtain ⟨hlist', hok'⟩ := hlist.rotate_iterate hok hne k
    exact ⟨l.rotate k, (List.rotate_perm l k).trans hperm, hlist', hok'⟩

/-- What was handed over was dequeued. -/
theorem Polled.once {w : TxWindow} (hp : Polled s (duePoll s w) s') (hint : Intact s enabled)
    (g q : Nat) : s'.handed g q ++ s'.queued g q = s.handed g q ++ s.queued g q := by
  rw [hp.handed, hp.queued g q, hint.ofQueueId, List.append_assoc]

/-- A guest that has budget when the poll is over had its turn, if it has a
queue. -/
theorem Polled.takesTurn {ds : List (Due ε)} (hp : Polled s ds s') (hint : Intact s enabled)
    {gid q : Nat} (hgid : gid < s.ctx.nGuests) (hbudget : s'.outOfBudget gid = false)
    (hq : q ∈ enabled gid) : s.takesTurn gid = true := by
  refine takesTurn_iff.mpr ⟨?_, ?_⟩
  · obtain ⟨l, hperm, hlist, hok⟩ := hint gid hgid
    exact hok.valid (hlist.head_mem (List.ne_nil_of_mem (hperm.mem_iff.mpr hq)))
  · refine Bool.eq_false_iff.mpr fun hout => ?_
    rw [PollCtx.outOfBudget_congr hp.static.iso (hp.idle gid hout), hout] at hbudget
    cases hbudget

/-- **A poll that handed over what was due served the guests.** -/
theorem Polled.serves {w : TxWindow} (hp : Polled s (duePoll s w) s') (hint : Intact s enabled) :
    Serves enabled w.num s (duePoll s w).length s' := by
  refine ⟨hp.once hint, ?_⟩
  by_cases hall : (dueGuests s (guestOrder s.ctx.nGuests s.queuesStart)).length ≤ w.num
  · -- there were mbufs for all entries
    right
    intro gid hgid hbudget q hq
    have hturn := hp.takesTurn hint hgid hbudget hq
    have hstart := queuesStart_lt (s := s) (Nat.ne_zero_of_lt hgid)
    have hqueued := hp.queued gid q
    unfold duePoll at hqueued
    rw [List.take_of_length_le hall, ofQueue_dueGuests (nodup_guestOrder hstart)
      (guestOrder_mem hstart hgid), ofQueue_dueGuest hturn ((hint.visited hgid).mpr hq)] at hqueued
    exact List.self_eq_append_right.mp hqueued
  · left
    unfold duePoll
    rw [List.length_take, Nat.min_eq_left (Nat.le_of_not_le hall)]

/-- A guest with budget that has an entry left is not served. -/
theorem StuckAt.not_serves {gid max : Nat} (hstuck : StuckAt s s' gid) (hint : Intact s enabled)
    (hstatic : Static s s') (hgid : gid < s.ctx.nGuests) : ¬ Serves enabled max s (-1) s' := by
  obtain ⟨hturn, hbudget, q, hq, hne⟩ := hstuck
  intro hserves
  rcases hserves.served with hmax | hempty
  · omega
  · refine hne (hempty gid hgid ?_ q ((hint.visited hgid).mp hq))
    rw [PollCtx.outOfBudget_congr hstatic.iso hbudget]
    exact (takesTurn_iff.mp hturn).2

/-- **One poll serves the guests exactly if every entry that is due is
answered, and none negatively.** -/
theorem answered_iff (hint : Intact s enabled) :
    Answered h s io ↔ ∃ n s', fastQueuesPoll h s io = some (n, s') ∧
      Serves enabled (s.pollWindow io).num s n s' := by
  have hdue := fastQueuesPoll_due h s io
  constructor
  · intro ⟨wd, ntx, hend⟩
    rw [hend] at hdue
    obtain ⟨s', hpoll, hp⟩ := hdue
    exact ⟨_, s', hpoll, hp.serves hint⟩
  · intro ⟨n, s', hpoll, hserves⟩
    unfold Answered
    cases hend : duePollEnd h s io with
    | done wd ntx => exact ⟨wd, ntx, rfl⟩
    | bad =>
      rw [hend] at hdue
      obtain ⟨s₁, hpoll', hstatic, gid, hgid, hstuck⟩ := hdue
      obtain ⟨rfl, rfl⟩ := Prod.mk.inj (Option.some.inj (hpoll.symm.trans hpoll'))
      exact absurd hserves (hstuck.not_serves hint hstatic hgid)
    | crash =>
      rw [hend] at hdue
      exact absurd (hpoll.symm.trans hdue) (Option.some_ne_none _)

end poll

/-! ## The other polls -/

/-- The queues, what was handed over of them and the guests are as they were. -/
structure Untouched (s s' : PollCtx W ε) : Prop where
  ctx : s'.ctx = s.ctx
  queued : s'.queued = s.queued
  handed : ∀ g q, s'.handed g q = s.handed g q

theorem Untouched.refl (s : PollCtx W ε) : Untouched s s := ⟨rfl, rfl, fun _ _ => rfl⟩

theorem Untouched.trans {s₁ s₂ s₃ : PollCtx W ε} (h₁ : Untouched s₁ s₂) (h₂ : Untouched s₂ s₃) :
    Untouched s₁ s₃ :=
  ⟨h₂.ctx.trans h₁.ctx, h₂.queued.trans h₁.queued,
    fun g q => (h₂.handed g q).trans (h₁.handed g q)⟩

/-- Whatever changes no guest, no queue and no call. -/
theorem Untouched.of_eq {s s' : PollCtx W ε} (hctx : s'.ctx = s.ctx)
    (hqueued : s'.queued = s.queued) (hcalls : s'.calls = s.calls) : Untouched s s' := by
  refine ⟨hctx, hqueued, fun g q => ?_⟩
  unfold PollCtx.handed
  rw [hcalls]

/-- The event is no entry of a queue. -/
def Event.notDeq : Event ε → Bool
  | .deq _ _ => false
  | .rx _ | .sched => true

section others

variable {h : Handlers W ε} {s s' : PollCtx W ε}

theorem charge_untouched (s : PollCtx W ε) (gid : Nat) (cyc : UInt64) :
    Untouched s (s.charge gid cyc) := .of_eq rfl rfl rfl

theorem called_untouched (s : PollCtx W ε) {gid : Nat} {ev : Event ε} (hev : ev.notDeq = true)
    (mb : Nat) (wd : W) : Untouched s (s.called gid ev mb wd) := by
  refine ⟨rfl, rfl, fun g q => ?_⟩
  unfold PollCtx.handed PollCtx.called
  rw [List.filterMap_append]
  cases ev with
  | deq qid qe => cases hev
  | rx pktOff => exact List.append_nil _
  | sched => exact List.append_nil _

theorem runEvent_untouched {gid : Nat} {ev : Event ε} {mb : Nat} {r : Ret}
    (hev : ev.notDeq = true) (hrun : runEvent h s gid ev mb = some (r, s')) : Untouched s s' := by
  rcases runEvent_cases h s gid ev mb with ⟨hnone, -⟩ | ⟨r', s₁, hsome, -, hlog⟩
  · rw [hnone] at hrun
    cases hrun
  · rw [hsome] at hrun
    cases hrun
    rcases hlog with hlog | ⟨rfl, -⟩
    · rw [hlog]
      exact called_untouched s hev mb _
    · exact .refl _

theorem transmit_untouched (s : PollCtx W ε) (gid mb : Nat) (len : Int) :
    Untouched s (transmit h s gid mb len).1 := by
  have hsent := transmit_sentOnly h s gid mb len
  exact .of_eq hsent.guests.ctx hsent.queued hsent.calls

theorem rxPollGuest_untouched {gid mb pktOff : Nat} {tsc : UInt64} {mbTx : Bool}
    (hp : rxPollGuest h s gid mb pktOff tsc = some (s', mbTx)) : Untouched s s' := by
  unfold rxPollGuest at hp
  split at hp
  · cases hp
  · next r s₁ hrun =>
    have h₁ : Untouched s s₁ := runEvent_untouched rfl hrun
    -- the packet is sent or not, and the time is charged or not
    have h₂ : Untouched s (if 0 < r.ret then transmit h s₁ gid mb r.ret else (s₁, false)).1 := by
      split
      · exact h₁.trans (transmit_untouched ..)
      · exact h₁
    cases hp
    dsimp only
    split
    · exact h₂.trans (charge_untouched ..)
    · exact h₂

theorem rxLoop_untouched {mbs : List Nat} {used : List (Nat × Bool)}
    (hp : rxLoop h mbs s = some (s', used)) : Untouched s s' := by
  induction mbs generalizing s used with
  | nil =>
    cases hp
    exact .refl _
  | cons mb mbs ih =>
    rw [rxLoop] at hp
    split at hp
    · next wd _ =>
      have hw : Untouched s { s with world := wd } := .of_eq rfl rfl rfl
      split at hp
      · cases hp
      · next s₁ used₁ hrest =>
        cases hp
        exact hw.trans (ih hrest)
    · next gid pktOff wd _ =>
      have hw : Untouched s { s with world := wd } := .of_eq rfl rfl rfl
      split at hp
      · cases hp
      · split at hp
        · cases hp
        · next s₁ mbTx hguest =>
          split at hp
          · cases hp
          · next s₂ used₂ hrest =>
            cases hp
            exact hw.trans ((rxPollGuest_untouched hguest).trans (ih hrest))

theorem rxFree_untouched (used : List (Nat × Bool)) (s : PollCtx W ε) :
    Untouched s (rxFree used s) := by
  induction used generalizing s with
  | nil => exact .refl _
  | cons u used ih =>
    obtain ⟨mb, mbTx⟩ := u
    unfold rxFree
    split
    · exact ih s
    · have hfree : Untouched s (s.free mb) := .of_eq rfl rfl rfl
      exact hfree.trans (ih (s.free mb))

/-- The poll for received frames takes no entry. -/
theorem fastRxPoll_untouched {nrx sent : Nat} {r : Int}
    (hp : fastRxPoll h s nrx sent = some (r, s')) : Untouched s s' := by
  unfold fastRxPoll at hp
  have hrx : Untouched s (nicFastRx s nrx).1 := .of_eq rfl rfl rfl
  dsimp only at hp
  split at hp
  · cases hp
    exact hrx
  · split at hp
    · cases hp
    · next s₁ used hloop =>
      cases hp
      have hflush : Untouched s₁ (s₁.txflush sent) := .of_eq rfl rfl rfl
      exact hrx.trans ((rxLoop_untouched hloop).trans (hflush.trans (rxFree_untouched used _)))

theorem schedWhile_untouched {w : TxWindow} {gid fuel : Nat} {l l' : SchedLoop W ε}
    (hp : schedWhile h w gid fuel l = some l') : Untouched l.s l'.s := by
  induction fuel generalizing l with
  | zero =>
    rw [schedWhile] at hp
    split at hp
    · cases hp
    · cases hp
      exact .refl _
  | succ fuel ih =>
    rw [schedWhile] at hp
    split at hp
    · dsimp only at hp
      split at hp
      · cases hp
      · next r s₁ hrun =>
        have huse : Untouched l.s (l.s.useMb w l.ntx) := .of_eq rfl rfl rfl
        have h₁ : Untouched l.s s₁ := huse.trans (runEvent_untouched rfl hrun)
        split at hp
        · cases hp
          exact h₁
        · exact h₁.trans ((transmit_untouched ..).trans (ih hp))
    · cases hp
      exact .refl _

theorem schedPollGuest_untouched {w : TxWindow} {fuel gid ntx ntx' : Nat} {r : Int}
    (hp : schedPollGuest h w fuel gid s ntx = some (r, s', ntx')) : Untouched s s' := by
  unfold schedPollGuest at hp
  split at hp
  · cases hp
    exact .refl _
  · split at hp
    · cases hp
      exact .refl _
    · dsimp only at hp
      split at hp
      · cases hp
      · next l hwhile =>
        have h₁ : Untouched s l.s := schedWhile_untouched hwhile
        cases hp
        split
        · exact h₁.trans (charge_untouched ..)
        · exact h₁

theorem schedGuests_untouched {w : TxWindow} {fuel ntx ntx' : Nat} {gids : List Nat}
    {last last' : Option Nat}
    (hp : schedGuests h w fuel gids s ntx last = some (s', ntx', last')) : Untouched s s' := by
  induction gids generalizing s ntx last with
  | nil =>
    cases hp
    exact .refl _
  | cons gid gids ih =>
    rw [schedGuests] at hp
    split at hp
    · split at hp
      · cases hp
      · next r s₁ ntx₁ hguest => exact (schedPollGuest_untouched hguest).trans (ih hp)
    · cases hp
      exact .refl _

/-- The poll of the schedulers takes no entry. -/
theorem fastSchedPoll_untouched {fuel : Nat} {io : PollIo} {r : Int}
    (hp : fastSchedPoll h fuel s io = some (r, s')) : Untouched s s' := by
  unfold fastSchedPoll at hp
  split at hp
  · cases hp
    exact .refl _
  · dsimp only at hp
    split at hp
    · cases hp
      exact .of_eq rfl rfl rfl
    · split at hp
      · cases hp
      · next s₁ ntx last hguests =>
        cases hp
        have hall := schedGuests_untouched hguests
        cases last with
        | none => exact ⟨hall.ctx, hall.queued, hall.handed⟩
        | some gid => exact ⟨hall.ctx, hall.queued, hall.handed⟩

/-- Messages of the control path leave the entries and the calls alone. -/
theorem handleCtlMsg_entries (h : Handlers W ε) (s : PollCtx W ε) (io : PollIo) (msg : CtlMsg)
    (rest : List CtlMsg) :
    (handleCtlMsg h s io msg rest).queued = s.queued ∧
      (handleCtlMsg h s io msg rest).calls = s.calls := by
  cases msg with
  | config m => exact ⟨rfl, rfl⟩
  | arpTxPkt =>
    unfold handleCtlMsg handleArpTxPkt
    dsimp only
    split
    · exact ⟨rfl, rfl⟩
    · exact ⟨rfl, rfl⟩
  | arpUpdate ip mac => exact ⟨rfl, rfl⟩
  | mbufTx gid mb pktLen =>
    have hsent := transmit_sentOnly h s gid mb pktLen
    unfold handleCtlMsg handleMbuf
    dsimp only
    split
    · exact ⟨rfl, rfl⟩
    · split
      · exact ⟨hsent.queued, hsent.calls⟩
      · exact ⟨hsent.queued, hsent.calls⟩
  | unknown => exact ⟨rfl, rfl⟩

theorem controlifLoop_entries {ios : Nat → PollIo} (n : Nat) (s : PollCtx W ε) :
    (controlifLoop h ios n s).queued = s.queued ∧ (controlifLoop h ios n s).calls = s.calls := by
  induction n generalizing s with
  | zero => exact ⟨rfl, rfl⟩
  | succ n ih =>
    rw [controlifLoop]
    split
    · exact ⟨rfl, rfl⟩
    · next msg rest _ =>
      obtain ⟨hqueued, hcalls⟩ := ih (handleCtlMsg h s (ios n) msg rest)
      obtain ⟨hqueued', hcalls'⟩ := handleCtlMsg_entries h s (ios n) msg rest
      exact ⟨hqueued.trans hqueued', hcalls.trans hcalls'⟩

end others

/-! ## Runs -/

/-- A core, the queues that are enabled as the messages say, and the entries
published so far in each queue. -/
structure QueuesSt (W ε : Type) where
  s : PollCtx W ε
  enabled : Nat → List Nat
  published : Nat → Nat → List ε

/-- The start of a run, with the entries the queues hold. -/
def QueuesSt.start (s : PollCtx W ε) (enabled : Nat → List Nat) : QueuesSt W ε where
  s := s
  enabled := enabled
  published := fun g q => s.handed g q ++ s.queued g q

/-- What happens to a core: its polls, an entry a guest publishes, and anything
else that is written between two polls. -/
inductive QueuesAct (W ε : Type)
  | poll (io : PollIo)
  | rx (nrx sent : Nat)
  | sched (fuel : Nat) (io : PollIo)
  /-- Messages of the control path, and the queues they leave enabled. -/
  | control (ios : Nat → PollIo) (enabled : Nat → List Nat)
  | publish (gid qi : Nat) (qe : ε)
  | other (s : PollCtx W ε)

/-- The state after a poll; one that ends the process has none. -/
def QueuesSt.polled (st : QueuesSt W ε) (res : Option (Int × PollCtx W ε)) : QueuesSt W ε :=
  match res with
  | none => st
  | some (_, s) => { st with s }

def queuesStep (h : Handlers W ε) (st : QueuesSt W ε) : QueuesAct W ε → QueuesSt W ε × Unit
  | .poll io => (st.polled (fastQueuesPoll h st.s io), ())
  | .rx nrx sent => (st.polled (fastRxPoll h st.s nrx sent), ())
  | .sched fuel io => (st.polled (fastSchedPoll h fuel st.s io), ())
  | .control ios enabled => ({ st with s := controlifPoll h ios st.s, enabled }, ())
  | .publish gid qi qe =>
    ({ st with
        s := st.s.setQueue gid qi (st.s.queued gid qi ++ [qe])
        published := fun g q =>
          if g = gid ∧ q = qi then st.published g q ++ [qe] else st.published g q }, ())
  | .other s => ({ st with s }, ())

/-- Messages leave the lists of enabled queues intact, and what is written
otherwise is no guest, no queue and no call. -/
def QueuesActOk (h : Handlers W ε) (st : QueuesSt W ε) : QueuesAct W ε → Prop
  | .control ios enabled => Intact (controlifPoll h ios st.s) enabled
  | .other s => Untouched st.s s
  | .poll _ | .rx .. | .sched .. | .publish .. => True

/-- In a poll of the queues all entries that are due are answered, and none
negatively. -/
def PollAnswered (h : Handlers W ε) (st : QueuesSt W ε) : QueuesAct W ε → Prop
  | .poll io => Answered h st.s io
  | .rx .. | .sched .. | .control .. | .publish .. | .other _ => True

/-- The entries handed over are those that were published and are gone from
their queues, and the lists are intact. -/
structure QueuesInv (st : QueuesSt W ε) : Prop where
  intact : Intact st.s st.enabled
  whole : ∀ g q, st.s.handed g q ++ st.s.queued g q = st.published g q

section runs

variable {h : Handlers W ε} {st : QueuesSt W ε} {a : QueuesAct W ε}

/-- What touches no guest, no queue and no call keeps it. -/
theorem QueuesInv.untouched (hinv : QueuesInv st) {s : PollCtx W ε} (hs : Untouched st.s s) :
    QueuesInv { st with s } where
  intact := by
    intro gid hgid
    dsimp only at hgid ⊢
    rw [hs.ctx] at hgid ⊢
    exact hinv.intact gid hgid
  whole := fun g q => by
    dsimp only
    rw [hs.handed, hs.queued]
    exact hinv.whole g q

/-- A poll that touches nothing, if it returns. -/
theorem QueuesInv.polled (hinv : QueuesInv st) {res : Option (Int × PollCtx W ε)}
    (hres : ∀ n s, res = some (n, s) → Untouched st.s s) : QueuesInv (st.polled res) := by
  cases res with
  | none => exact hinv
  | some r =>
    obtain ⟨n, s⟩ := r
    exact hinv.untouched (hres n s rfl)

/-- **A poll of the queues whose entries are answered keeps it.** -/
theorem QueuesInv.poll (hinv : QueuesInv st) {io : PollIo} (ha : Answered h st.s io) :
    QueuesInv (st.polled (fastQueuesPoll h st.s io)) := by
  obtain ⟨wd, ntx, hend⟩ := ha
  have hdue := fastQueuesPoll_due h st.s io
  rw [hend] at hdue
  obtain ⟨s', hpoll, hp⟩ := hdue
  rw [hpoll]
  exact ⟨hp.intact hinv.intact, fun g q => (hp.once hinv.intact g q).trans (hinv.whole g q)⟩

theorem QueuesInv.publish (hinv : QueuesInv st) (gid qi : Nat) (qe : ε) :
    QueuesInv (queuesStep h st (.publish gid qi qe)).1 where
  intact := hinv.intact
  whole := fun g q => by
    show st.s.handed g q ++
        (if g = gid ∧ q = qi then st.s.queued gid qi ++ [qe] else st.s.queued g q) =
      if g = gid ∧ q = qi then st.published g q ++ [qe] else st.published g q
    by_cases hq : g = gid ∧ q = qi
    · obtain ⟨rfl, rfl⟩ := hq
      rw [if_pos ⟨rfl, rfl⟩, if_pos ⟨rfl, rfl⟩, ← List.append_assoc, hinv.whole]
    · rw [if_neg hq, if_neg hq]
      exact hinv.whole g q

/-- **Every step that meets the condition keeps the invariant.** -/
theorem QueuesInv.step (hinv : QueuesInv st) (hok : QueuesActOk h st a)
    (ha : PollAnswered h st a) : QueuesInv (queuesStep h st a).1 := by
  cases a with
  | poll io => exact hinv.poll ha
  | rx nrx sent => exact hinv.polled fun n s hres => fastRxPoll_untouched hres
  | sched fuel io => exact hinv.polled fun n s hres => fastSchedPoll_untouched hres
  | control ios enabled =>
    refine ⟨hok, fun g q => ?_⟩
    obtain ⟨hqueued, hcalls⟩ :
        (controlifLoop h ios (st.s.batch fastCtlBatchSize) st.s).queued = st.s.queued ∧
          (controlifLoop h ios (st.s.batch fastCtlBatchSize) st.s).calls = st.s.calls :=
      controlifLoop_entries _ st.s
    have hhanded : (controlifPoll h ios st.s).handed g q = st.s.handed g q := by
      unfold PollCtx.handed controlifPoll
      rw [hcalls]
    show (controlifPoll h ios st.s).handed g q ++ (controlifPoll h ios st.s).queued g q = _
    rw [hhanded, show (controlifPoll h ios st.s).queued = st.s.queued from hqueued]
    exact hinv.whole g q
  | publish gid qi qe => exact hinv.publish gid qi qe
  | other s => exact hinv.untouched hok

theorem QueuesInv.start {s₀ : PollCtx W ε} {enabled₀ : Nat → List Nat}
    (hint : Intact s₀ enabled₀) : QueuesInv (.start s₀ enabled₀) := ⟨hint, fun _ _ => rfl⟩

end runs

/-- **Polls of the queues take every entry once and leave no guest behind**, in
every run of a core in which no poll of the queues has an entry answered
negatively, whatever other polls, messages and new entries come between:
* the entries handed to `event_deq` so far, followed by those still in the
  queue, are those published, in order: each one that was handed over was
  dequeued, and none is handed over twice;
* and the next poll does both things it owes the guests exactly if the entries
  that are due in it are all answered, none negatively. -/
theorem queues_polled {h : Handlers W ε} {s₀ : PollCtx W ε} {enabled₀ : Nat → List Nat}
    (hint : Intact s₀ enabled₀) {log : List Unit} {st : QueuesSt W ε}
    (hr : Run (fun st a => QueuesActOk h st a ∧ PollAnswered h st a) (queuesStep h)
      (.start s₀ enabled₀) log st) :
    (∀ g q, st.s.handed g q ++ st.s.queued g q = st.published g q) ∧
      ∀ io, PollAnswered h st (.poll io) ↔ ∃ n s', fastQueuesPoll h st.s io = some (n, s') ∧
        Serves st.enabled (st.s.pollWindow io).num st.s n s' := by
  have hinv : QueuesInv st := by
    refine hr.inv (I := fun _ st => QueuesInv st) (QueuesInv.start hint) ?_
    intro log st a hinv ⟨hok, ha⟩
    exact hinv.step hok ha
  exact ⟨hinv.whole, fun io => answered_iff hinv.intact⟩

/-! ## Two guests -/

/-- A guest answers an entry with the length of a packet, or an error. -/
def lengthHandlers : Handlers Unit Int where
  vmExec := fun _ _ _ w => ({ execRet := 0, ret := 0 }, w)
  hand := fun _ _ ev _ w =>
    match ev with
    | .deq _ len => (len, w)
    | .rx _ | .sched => (0, w)
  slot := fun _ _ _ w => (0, w)
  schedHead := fun _ _ => false
  infraRx := fun _ w => (none, w)
  infraTx := fun _ _ _ w => (.ok, w)
  arpInsert := fun _ _ w => w
  clockRdtsc := fun _ => 0

/-- A guest with queue 1 enabled. -/
def queueGuest (id : Nat) : GuestFast :=
  { idleGuest id true with ndqueues := 1, dqueuesHead := 1, dqueuesTail := 1 }

/-- Two guests that have published an entry each. -/
def twoQueues (len : Int) : PollCtx Unit Int where
  fpProtoMode := .hand
  perfIso := false
  ctx := { guests := queueGuest, nGuests := 2 }
  budgets := fun _ => 0
  nextQueuesGuest := 0
  nextSchedGuest := 0
  queued := fun g q => if q = 1 then if g = 0 then [len] else [60] else []
  mbufs := { cache := fullCache, txMbs := [], pool := [] }
  ctlMbs := []
  ctlFastQ := []
  ctlTxq := 0
  world := ()
  calls := []
  strayUse := false

theorem twoQueues_intact (len : Int) : Intact (twoQueues len) fun _ => [1] := by
  intro gid _
  refine ⟨[1], .refl _, ⟨⟨⟨rfl, rfl⟩, ?_⟩, rfl, rfl⟩, ⟨List.nodup_singleton 1, ?_, ?_⟩⟩
  · simp [protoqIdInvalid]
  · simp [maxProtoQueues]
  · simp [twoQueues, queueGuest, idleGuest]

/-- Both entries are packets, and one poll takes them. -/
theorem queues_polled_two :
    ∃ log st, Run (fun st a => QueuesActOk lengthHandlers st a ∧ PollAnswered lengthHandlers st a)
      (queuesStep lengthHandlers) (.start (twoQueues 60) fun _ => [1]) log st ∧
      st.s.handed 0 1 = [60] ∧ st.s.handed 1 1 = [60] ∧
      ∀ g q, st.s.handed g q ++ st.s.queued g q = st.published g q := by
  have hpoll : QueuesActOk lengthHandlers (.start (twoQueues 60) fun _ => [1])
        (.poll ⟨(true, true), 0⟩) ∧
      PollAnswered lengthHandlers (.start (twoQueues 60) fun _ => [1])
        (.poll ⟨(true, true), 0⟩) := ⟨trivial, _, _, rfl⟩
  have hrun := (Run.nil : Run
      (fun st a => QueuesActOk lengthHandlers st a ∧ PollAnswered lengthHandlers st a)
      (queuesStep lengthHandlers) (.start (twoQueues 60) fun _ => [1]) [] _).snoc
    hpoll
  exact ⟨_, _, hrun, rfl, rfl, (queues_polled (twoQueues_intact 60) hrun).1⟩

/-- The entry of guest 0 is answered with -1: it was handed over and is still in
its queue, and guest 1 is not served. -/
theorem queues_polled_fails :
    ¬ ∀ (h : Handlers Unit Int) (s₀ : PollCtx Unit Int) (enabled₀ : Nat → List Nat),
      Intact s₀ enabled₀ → ∀ log st,
      Run (QueuesActOk h) (queuesStep h) (.start s₀ enabled₀) log st →
      (∀ g q, st.s.handed g q ++ st.s.queued g q = st.published g q) ∧
        ∀ io, ∃ n s', fastQueuesPoll h st.s io = some (n, s') ∧
          Serves st.enabled (st.s.pollWindow io).num st.s n s' := by
  intro hall
  have hrun := (Run.nil : Run (QueuesActOk lengthHandlers) (queuesStep lengthHandlers)
      (.start (twoQueues (-1)) fun _ => [1]) [] _).snoc (a := .poll ⟨(true, true), 0⟩)
    (show QueuesActOk lengthHandlers _ (.poll _) from trivial)
  have hwhole := (hall lengthHandlers _ _ (twoQueues_intact (-1)) _ _ hrun).1 0 1
  exact absurd hwhole (by decide)

end Chamelio.Fast.Poll
